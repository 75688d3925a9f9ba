import DartComments.Text.Name.Row

/-!
# Names of syllables

The names of syllables, radicals and forms of letters, from `2C00` to `FFFF`.
-/

namespace DartComments

namespace CharacterName

set_option maxRecDepth 4000 in
/-- The names from `2C00` to `FFFF`. -/
def syllabaries : List Row :=
  [⟨0x2C00, ["GLAGOLITIC CAPITAL LETTER AZU,cBUKY,cVEDE,cGLAGOLI,cDOBRO,cYESTU,cZHIVETE",
      "cDZELO,cZEMLJA,cIZHE,cINITIAL IZHE,cI,cDJERVI,cKAKO,cLJUDIJE,cMYSLITE,cNASHI,cONU,cPOKOJI",
      "cRITSI,cSLOVO,cTVRIDO,cUKU,cFRITU,cHERU,cOTU,cPE,cSHTA,cTSI,cCHRIVI,cSHA,cYERU,cYERI",
      "cYATI,cSPIDERY HA,cYU,cSMALL YUS,dYUS WITH TAIL,cYO,cIOTATED SMALL YUS,cBIG YUS",
      "cIOTATED BIG YUS,cFITA,cIZHITSA,cSHTAPIC,cTROKUTASTI A,cLATINATE MYSLITE,cCAUDATE CHRIVI",
      "aSMALL aAZU,cBUKY,cVEDE,cGLAGOLI,cDOBRO,cYESTU,cZHIVETE,cDZELO,cZEMLJA,cIZHE",
      "cINITIAL IZHE,cI,cDJERVI,cKAKO,cLJUDIJE,cMYSLITE,cNASHI,cONU,cPOKOJI,cRITSI,cSLOVO",
      "cTVRIDO,cUKU,cFRITU,cHERU,cOTU,cPE,cSHTA,cTSI,cCHRIVI,cSHA,cYERU,cYERI,cYATI,cSPIDERY HA",
      "cYU,cSMALL YUS,dYUS WITH TAIL,cYO,cIOTATED SMALL YUS,cBIG YUS,cIOTATED BIG YUS,cFITA",
      "cIZHITSA,cSHTAPIC,cTROKUTASTI A,cLATINATE MYSLITE,cCAUDATE CHRIVI",
      "LATIN CAPITAL aL WITH DOUBLE BAR,aSMALL e,aCAPITAL cMIDDLE TILDE,cP aSTROKE,cR aTAIL",
      "aSMALL aA aSTROKE,cT aDIAGONAL STROKE,aCAPITAL aH aDESCENDER,aSMALL d,aCAPITAL aK b",
      "aSMALL d,aCAPITAL aZ b,aSMALL d,aCAPITAL aALPHA,cM WITH HOOK,cTURNED A,dALPHA",
      "aSMALL aV WITH RIGHT HOOK,aCAPITAL aW aHOOK,aSMALL d,cV aCURL,aCAPITAL aHALF H,aSMALL c",
      "cTAILLESS PHI,cE WITH NOTCH,cTURNED R WITH TAIL,cO WITH LOW RING INSIDE",
      "aLETTER SMALL CAPITAL TURNED E,aSUBSCRIPT aLETTER J,MODIFIER LETTER CAPITAL V",
      "LATIN CAPITAL LETTER S WITH SWASH TAIL,cZ c,COPTIC bALFA,aSMALL b,aCAPITAL aVIDA,aSMALL b",
      "aCAPITAL aGAMMA,aSMALL b,aCAPITAL aDALDA,aSMALL b,aCAPITAL aEIE,aSMALL b,aCAPITAL aSOU",
      "aSMALL b,aCAPITAL aZATA,aSMALL b,aCAPITAL aHATE,aSMALL b,aCAPITAL aTHETHE,aSMALL b",
      "aCAPITAL aIAUDA,aSMALL b,aCAPITAL aKAPA,aSMALL b,aCAPITAL aLAULA,aSMALL b,aCAPITAL aMI",
      "aSMALL b,aCAPITAL aNI,aSMALL b,aCAPITAL aKSI,aSMALL b,aCAPITAL aO,aSMALL b,aCAPITAL aPI",
      "aSMALL b,aCAPITAL aRO,aSMALL b,aCAPITAL aSIMA,aSMALL b,aCAPITAL aTAU,aSMALL b",
      "aCAPITAL aUA,aSMALL b,aCAPITAL aFI,aSMALL b,aCAPITAL aKHI,aSMALL b,aCAPITAL aPSI,aSMALL b",
      "aCAPITAL aOOU,aSMALL b,aCAPITAL aDIALECT-P ALEF,aSMALL d,aCAPITAL aOLD COPTIC AIN",
      "aSMALL d,aCAPITAL aCRYPTOGRAMMIC EIE,aSMALL c,aCAPITAL aDIALECT-P KAPA,aSMALL d",
      "aCAPITAL cNI,aSMALL d,aCAPITAL aCRYPTOGRAMMIC NI,aSMALL c,aCAPITAL aOLD COPTIC OOU",
      "aSMALL d,aCAPITAL aSAMPI,aSMALL b,aCAPITAL aCROSSED SHEI,aSMALL c",
      "aCAPITAL aOLD COPTIC SHEI,aSMALL d,aCAPITAL cESH,aSMALL d,aCAPITAL aAKHMIMIC KHEI",
      "aSMALL c,aCAPITAL aDIALECT-P HORI,aSMALL d,aCAPITAL aOLD COPTIC a,aSMALL d,aCAPITAL cHA",
      "aSMALL d,aCAPITAL aL-SHAPED a,aSMALL d,aCAPITAL aOLD COPTIC HEI,aSMALL d,aCAPITAL cHAT",
      "aSMALL d,aCAPITAL cGANGIA,aSMALL d,aCAPITAL cDJA,aSMALL d,aCAPITAL cSHIMA,aSMALL d",
      "aCAPITAL bNUBIAN a,aSMALL d,aCAPITAL cNGI,aSMALL d,aCAPITAL cNYI,aSMALL d,aCAPITAL cWAU",
      "aSMALL d,aSYMBOL KAI,bMI RO,bPI a,bSTAUROS,bTAU RO,bKHI a,bSHIMA SIMA",
      "aCAPITAL LETTER CRYPTOGRAMMIC SHEI,aSMALL c,aCAPITAL bGANGIA,aSMALL c,aCOMBINING NI ABOVE",
      "bSPIRITUS ASPER,cLENIS,aCAPITAL LETTER BOHAIRIC KHEI,aSMALL c"]⟩,
    ⟨0x2CF9, ["COPTIC OLD NUBIAN FULL STOP,cDIRECT QUESTION MARK,cINDIRECT b,cVERSE DIVIDER",
      "aFRACTION ONE HALF,aFULL STOP,aMORPHOLOGICAL DIVIDER"]⟩,
    ⟨0x2D00, ["GEORGIAN SMALL LETTER AN,cBAN,cGAN,cDON,cEN,cVIN,cZEN,cTAN,cIN,cKAN,cLAS,cMAN",
      "cNAR,cON,cPAR,cZHAR,cRAE,cSAN,cTAR,cUN,cPHAR,cKHAR,cGHAN,cQAR,cSHIN,cCHIN,cCAN,cJIL,cCIL",
      "cCHAR,cXAN,cJHAN,cHAE,cHE,cHIE,cWE,cHAR,cHOE,,cYN"]⟩,
    ⟨0x2D2D, ["GEORGIAN SMALL LETTER AEN,,,TIFINAGH LETTER YA,bYAB,bYABH,bYAG,bYAGHH",
      "bBERBER ACADEMY YAJ,bYAJ,bYAD,bYADH,bYADD,bYADDH,bYEY,bYAF,bYAK,bTUAREG YAK,bYAKHH,bYAH",
      "bBERBER ACADEMY YAH,bTUAREG YAH,bYAHH,bYAA,bYAKH,bTUAREG YAKH,bYAQ,bTUAREG YAQ,bYI,bYAZH",
      "bAHAGGAR YAZH,bTUAREG a,bYAL,2,bTUAREG YAGN,cYANG,bYAP,bYU,bYAR,bYARR,bYAGH,bTUAREG YAGH",
      "bAYER a,bYAS,bYASS,bYASH,bYAT,bYATH,bYACH,bYATT,bYAV,1,bYAY,1,bTAWELLEMET YAZ,bYAZZ,bYE",
      "bYO"]⟩,
    ⟨0x2D6F, ["TIFINAGH MODIFIER LETTER LABIALIZATION MARK,aSEPARATOR MARK"]⟩,
    ⟨0x2D7F, ["TIFINAGH CONSONANT JOINER,ETHIOPIC SYLLABLE LOA,bMOA,bROA,bSOA,bSHOA,bBOA,bTOA",
      "bCOA,bNOA,bNYOA,bGLOTTAL OA,bZOA,bDOA,bDDOA,bJOA,bTHOA,bCHOA,bPHOA,bPOA,bGGWA,bGGWI",
      "bGGWEE,bGGWE"]⟩,
    ⟨0x2DA0, ["ETHIOPIC SYLLABLE SSA,bSSU,bSSI,bSSAA,bSSEE,bSSE,bSSO,,bCCA,bCCU,bCCI,bCCAA",
      "bCCEE,bCCE,bCCO,,bZZA,bZZU,bZZI,bZZAA,bZZEE,bZZE,bZZO,,bCCHA,bCCHU,bCCHI,bCCHAA,bCCHEE",
      "bCCHE,bCCHO,,bQYA,bQYU,bQYI,bQYAA,bQYEE,bQYE,bQYO,,bKYA,bKYU,bKYI,bKYAA,bKYEE,bKYE,bKYO,",
      "bXYA,bXYU,bXYI,bXYAA,bXYEE,bXYE,bXYO,,bGYA,bGYU,bGYI,bGYAA,bGYEE,bGYE,bGYO,",
      "COMBINING CYRILLIC LETTER BE,cVE,cGHE,cDE,cZHE,cZE,cKA,cEL,2,cO,cPE,cER,1,cTE,cHA,cTSE",
      "cCHE,cSHA,cSHCHA,cFITA,cES-TE,cA,cIE,cDJERV,cMONOGRAPH UK,cYAT,cYU,cIOTIFIED A",
      "cLITTLE YUS,cBIG a,cIOTIFIED BIG YUS"]⟩,
    ⟨0x2E00, ["RIGHT ANGLE SUBSTITUTION MARKER,bDOTTED SUBSTITUTION MARKER",
      "LEFT SUBSTITUTION BRACKET,RIGHT b,LEFT DOTTED SUBSTITUTION BRACKET,RIGHT c",
      "RAISED INTERPOLATION MARKER,aDOTTED INTERPOLATION MARKER,DOTTED TRANSPOSITION MARKER",
      "LEFT aBRACKET,RIGHT b,RAISED SQUARE,LEFT RAISED OMISSION BRACKET,RIGHT c",
      "EDITORIAL CORONIS,PARAGRAPHOS,FORKED PARAGRAPHOS,REVERSED FORKED PARAGRAPHOS,HYPODIASTOLE",
      "DOTTED OBELOS,DOWNWARDS ANCORA,UPWARDS a,DOTTED RIGHT-POINTING ANGLE",
      "DOUBLE OBLIQUE HYPHEN,INVERTED INTERROBANG,PALM BRANCH,HYPHEN WITH DIAERESIS",
      "TILDE aRING ABOVE,LEFT LOW PARAPHRASE BRACKET,RIGHT c,TILDE WITH DOT ABOVE,cBELOW",
      "LEFT VERTICAL BAR WITH QUILL,RIGHT d,TOP LEFT HALF BRACKET,aRIGHT b,BOTTOM LEFT b",
      "aRIGHT b,LEFT SIDEWAYS U a,RIGHT c,LEFT DOUBLE PARENTHESIS,RIGHT b",
      "TWO DOTS OVER ONE DOT PUNCTUATION,ONE DOT aTWO DOTS a,SQUARED FOUR DOT PUNCTUATION",
      "FIVE DOT MARK,REVERSED QUESTION a,VERTICAL TILDE,RING POINT,WORD SEPARATOR MIDDLE DOT",
      "TURNED COMMA,RAISED DOT,aCOMMA,TURNED SEMICOLON,DAGGER WITH LEFT GUARD,bRIGHT a",
      "TURNED DAGGER,TOP HALF SECTION SIGN,TWO-EM DASH,THREE-b,STENOGRAPHIC FULL STOP",
      "VERTICAL SIX DOTS,WIGGLY VERTICAL LINE,CAPITULUM,DOUBLE HYPHEN,REVERSED COMMA",
      "DOUBLE LOW-REVERSED-9 QUOTATION MARK,DASH WITH LEFT UPTURN,DOUBLE SUSPENSION MARK",
      "INVERTED LOW KAVYKA,bKAVYKA WITH KAVYKA ABOVE,LOW KAVYKA,aKAVYKA WITH DOT",
      "DOUBLE STACKED COMMA,DOTTED SOLIDUS,TRIPLE DAGGER,MEDIEVAL COMMA,PARAGRAPHUS MARK",
      "PUNCTUS ELEVATUS MARK,CORNISH VERSE DIVIDER,CROSS PATTY WITH RIGHT CROSSBAR,cLEFT a",
      "TIRONIAN SIGN CAPITAL ET,MEDIEVAL EXCLAMATION MARK,aQUESTION a",
      "LEFT SQUARE BRACKET WITH STROKE,RIGHT d,LEFT cDOUBLE STROKE,RIGHT e",
      "TOP HALF LEFT PARENTHESIS,bRIGHT a,BOTTOM aLEFT a,bRIGHT a,OBLIQUE HYPHEN"]⟩,
    ⟨0x2E80, ["CJK RADICAL REPEAT,bCLIFF,bSECOND ONE,cTWO,cTHREE,bPERSON,bBOX,bTABLE",
      "bKNIFE ONE,cTWO,bDIVINATION,bSEAL,bSMALL ONE,cTWO,bLAME ONE,cTWO,cTHREE,cFOUR,bSNAKE",
      "bTHREAD,bSNOUT ONE,cTWO,bHEART ONE,cTWO,bHAND,bRAP,,bCHOKE,bSUN,bMOON,bDEATH,bMOTHER",
      "bCIVILIAN,bWATER ONE,cTWO,bFIRE,bPAW ONE,cTWO,bSIMPLIFIED HALF TREE TRUNK,bCOW,bDOG,bJADE",
      "bBOLT OF CLOTH,bEYE,bSPIRIT ONE,cTWO,bBAMBOO,bSILK,bC-SIMPLIFIED SILK,bNET ONE,cTWO",
      "cTHREE,cFOUR,bMESH,bSHEEP,bRAM,bEWE,bOLD,bBRUSH ONE,cTWO,bMEAT,bMORTAR,bGRASS ONE,cTWO",
      "cTHREE,bTIGER,bCLOTHES,bWEST ONE,cTWO,bC-SIMPLIFIED SEE,bSIMPLIFIED HORN,bHORN",
      "bC-SIMPLIFIED SPEECH,dSHELL,bFOOT,bC-SIMPLIFIED CART,bSIMPLIFIED WALK,bWALK ONE,cTWO",
      "bCITY,bC-SIMPLIFIED GOLD,bLONG ONE,cTWO,bC-SIMPLIFIED LONG,dGATE,bMOUND ONE,cTWO,bRAIN",
      "bBLUE,bC-SIMPLIFIED TANNED LEATHER,dLEAF,dWIND,dFLY,bEAT ONE,cTWO,cTHREE",
      "bC-SIMPLIFIED EAT,bHEAD,bC-SIMPLIFIED HORSE,bBONE,bGHOST,bC-SIMPLIFIED FISH,dBIRD,dSALT",
      "bSIMPLIFIED WHEAT,cYELLOW,bC-SIMPLIFIED FROG,bJ-aEVEN,bC-b,bJ-aTOOTH,bC-b,bJ-aDRAGON,bC-b",
      "bTURTLE,bJ-SIMPLIFIED TURTLE,bC-b"]⟩,
    ⟨0x2F00, ["KANGXI RADICAL ONE,bLINE,bDOT,bSLASH,bSECOND,bHOOK,bTWO,bLID,bMAN,bLEGS,bENTER",
      "bEIGHT,bDOWN BOX,bCOVER,bICE,bTABLE,bOPEN BOX,bKNIFE,bPOWER,bWRAP,bSPOON,bRIGHT OPEN BOX",
      "bHIDING ENCLOSURE,bTEN,bDIVINATION,bSEAL,bCLIFF,bPRIVATE,bAGAIN,bMOUTH,bENCLOSURE,bEARTH",
      "bSCHOLAR,bGO,bGO SLOWLY,bEVENING,bBIG,bWOMAN,bCHILD,bROOF,bINCH,bSMALL,bLAME,bCORPSE",
      "bSPROUT,bMOUNTAIN,bRIVER,bWORK,bONESELF,bTURBAN,bDRY,bSHORT THREAD,bDOTTED CLIFF",
      "bLONG STRIDE,bTWO HANDS,bSHOOT,bBOW,bSNOUT,bBRISTLE,bSTEP,bHEART,bHALBERD,bDOOR,bHAND",
      "bBRANCH,bRAP,bSCRIPT,bDIPPER,bAXE,bSQUARE,bNOT,bSUN,bSAY,bMOON,bTREE,bLACK,bSTOP,bDEATH",
      "bWEAPON,bDO NOT,bCOMPARE,bFUR,bCLAN,bSTEAM,bWATER,bFIRE,bCLAW,bFATHER,bDOUBLE X",
      "bHALF TREE TRUNK,bSLICE,bFANG,bCOW,bDOG,bPROFOUND,bJADE,bMELON,bTILE,bSWEET,bLIFE,bUSE",
      "bFIELD,bBOLT OF CLOTH,bSICKNESS,bDOTTED TENT,bWHITE,bSKIN,bDISH,bEYE,bSPEAR,bARROW,bSTONE",
      "bSPIRIT,bTRACK,bGRAIN,bCAVE,bSTAND,bBAMBOO,bRICE,bSILK,bJAR,bNET,bSHEEP,bFEATHER,bOLD",
      "bAND,bPLOW,bEAR,bBRUSH,bMEAT,bMINISTER,bSELF,bARRIVE,bMORTAR,bTONGUE,bOPPOSE,bBOAT",
      "bSTOPPING,bCOLOR,bGRASS,bTIGER,bINSECT,bBLOOD,bWALK ENCLOSURE,bCLOTHES,bWEST,bSEE,bHORN",
      "bSPEECH,bVALLEY,bBEAN,bPIG,bBADGER,bSHELL,bRED,bRUN,bFOOT,bBODY,bCART,bBITTER,bMORNING",
      "bWALK,bCITY,bWINE,bDISTINGUISH,bVILLAGE,bGOLD,bLONG,bGATE,bMOUND,bSLAVE",
      "bSHORT TAILED BIRD,bRAIN,bBLUE,bWRONG,bFACE,bLEATHER,bTANNED LEATHER,bLEEK,bSOUND,bLEAF",
      "bWIND,bFLY,bEAT,bHEAD,bFRAGRANT,bHORSE,bBONE,bTALL,bHAIR,bFIGHT,bSACRIFICIAL WINE",
      "bCAULDRON,bGHOST,bFISH,bBIRD,bSALT,bDEER,bWHEAT,bHEMP,bYELLOW,bMILLET,bBLACK,bEMBROIDERY",
      "bFROG,bTRIPOD,bDRUM,bRAT,bNOSE,bEVEN,bTOOTH,bDRAGON,bTURTLE,bFLUTE"]⟩,
    ⟨0x2FF0, ["IDEOGRAPHIC DESCRIPTION CHARACTER LEFT TO RIGHT,cABOVE aBELOW",
      "cLEFT aMIDDLE AND RIGHT,cABOVE cBELOW,cFULL SURROUND,cSURROUND FROM ABOVE,eBELOW,eLEFT",
      "eUPPER LEFT,fRIGHT,eLOWER LEFT,cOVERLAID"]⟩,
    ⟨0x3000, ["IDEOGRAPHIC SPACE,aCOMMA,aFULL STOP,DITTO MARK",
      "JAPANESE INDUSTRIAL STANDARD SYMBOL,IDEOGRAPHIC ITERATION MARK,aCLOSING a,aNUMBER ZERO",
      "LEFT ANGLE BRACKET,RIGHT b,LEFT DOUBLE ANGLE BRACKET,RIGHT c,LEFT CORNER BRACKET,RIGHT b",
      "LEFT WHITE CORNER BRACKET,RIGHT c,LEFT BLACK LENTICULAR a,RIGHT c,POSTAL MARK,GETA a",
      "LEFT TORTOISE SHELL BRACKET,RIGHT c,LEFT WHITE LENTICULAR a,RIGHT c",
      "LEFT aTORTOISE SHELL BRACKET,RIGHT d,LEFT aSQUARE BRACKET,RIGHT c,WAVE DASH",
      "REVERSED DOUBLE PRIME QUOTATION MARK,DOUBLE PRIME QUOTATION MARK",
      "LOW DOUBLE PRIME QUOTATION MARK,POSTAL MARK FACE,HANGZHOU NUMERAL ONE,bTWO,bTHREE,bFOUR",
      "bFIVE,bSIX,bSEVEN,bEIGHT,bNINE,IDEOGRAPHIC LEVEL TONE MARK,aRISING b,aDEPARTING b",
      "aENTERING b,HANGUL SINGLE DOT TONE MARK,aDOUBLE c,WAVY DASH,VERTICAL KANA REPEAT MARK",
      "cWITH VOICED SOUND MARK,cMARK UPPER HALF,cWITH VOICED SOUND MARK UPPER HALF",
      "cMARK LOWER HALF,CIRCLED POSTAL MARK,IDEOGRAPHIC TELEGRAPH LINE FEED SEPARATOR SYMBOL",
      "HANGZHOU NUMERAL TEN,bTWENTY,bTHIRTY,VERTICAL IDEOGRAPHIC ITERATION MARK,MASU MARK",
      "PART ALTERNATION MARK,IDEOGRAPHIC VARIATION INDICATOR,aHALF FILL SPACE,",
      "HIRAGANA LETTER SMALL A,bA,bSMALL I,bI,bSMALL U,bU,bSMALL E,bE,bSMALL O,bO,bKA,bGA,bKI",
      "bGI,bKU,bGU,bKE,bGE,bKO,bGO,bSA,bZA,bSI,bZI,bSU,bZU,bSE,bZE,bSO,bZO,bTA,bDA,bTI,bDI",
      "bSMALL TU,bTU,bDU,bTE,bDE,bTO,bDO,bNA,bNI,bNU,bNE,bNO,bHA,bBA,bPA,bHI,bBI,bPI,bHU,bBU,bPU",
      "bHE,bBE,bPE,bHO,bBO,bPO,bMA,bMI,bMU,bME,bMO,bSMALL YA,bYA,bSMALL YU,bYU,bSMALL YO,bYO,bRA",
      "bRI,bRU,bRE,bRO,bSMALL WA,bWA,bWI,bWE,bWO,bN,bVU,bSMALL KA,cKE,,",
      "COMBINING KATAKANA-HIRAGANA VOICED SOUND MARK,cSEMI-VOICED SOUND MARK",
      "KATAKANA-HIRAGANA VOICED SOUND MARK,bSEMI-VOICED SOUND MARK,HIRAGANA ITERATION MARK",
      "aVOICED ITERATION MARK,aDIGRAPH YORI,KATAKANA-HIRAGANA DOUBLE HYPHEN",
      "KATAKANA LETTER SMALL A,bA,bSMALL I,bI,bSMALL U,bU,bSMALL E,bE,bSMALL O,bO,bKA,bGA,bKI",
      "bGI,bKU,bGU,bKE,bGE,bKO,bGO,bSA,bZA,bSI,bZI,bSU,bZU,bSE,bZE,bSO,bZO,bTA,bDA,bTI,bDI",
      "bSMALL TU,bTU,bDU,bTE,bDE,bTO,bDO,bNA,bNI,bNU,bNE,bNO,bHA,bBA,bPA,bHI,bBI,bPI,bHU,bBU,bPU",
      "bHE,bBE,bPE,bHO,bBO,bPO,bMA,bMI,bMU,bME,bMO,bSMALL YA,bYA,bSMALL YU,bYU,bSMALL YO,bYO,bRA",
      "bRI,bRU,bRE,bRO,bSMALL WA,bWA,bWI,bWE,bWO,bN,bVU,bSMALL KA,cKE,bVA,bVI,bVE,bVO",
      "aMIDDLE DOT,KATAKANA-HIRAGANA PROLONGED SOUND MARK,KATAKANA ITERATION MARK",
      "aVOICED ITERATION MARK,aDIGRAPH KOTO"]⟩,
    ⟨0x3105, ["BOPOMOFO LETTER B,bP,bM,bF,bD,bT,bN,bL,bG,bK,bH,bJ,bQ,bX,bZH,bCH,bSH,bR,bZ,bC",
      "bS,bA,bO,bE,bEH,bAI,bEI,bAU,bOU,bAN,bEN,bANG,bENG,bER,bI,bU,bIU,bV,bNG,bGN,bIH",
      "bO WITH DOT ABOVE,bNN,,HANGUL aKIYEOK,bSSANGKIYEOK,bKIYEOK-SIOS,bNIEUN,bNIEUN-CIEUC",
      "cHIEUH,bTIKEUT,bSSANGTIKEUT,bRIEUL,bRIEUL-KIYEOK,cMIEUM,cPIEUP,cSIOS,cTHIEUTH,cPHIEUPH",
      "cHIEUH,bMIEUM,bPIEUP,bSSANGPIEUP,bPIEUP-SIOS,bSIOS,bSSANGSIOS,bIEUNG,bCIEUC,bSSANGCIEUC",
      "bCHIEUCH,bKHIEUKH,bTHIEUTH,bPHIEUPH,bHIEUH,bA,bAE,bYA,bYAE,bEO,bE,bYEO,bYE,bO,bWA,bWAE",
      "bOE,bYO,bU,bWEO,bWE,bWI,bYU,bEU,bYI,bI,aFILLER,aLETTER SSANGNIEUN,bNIEUN-TIKEUT,cSIOS",
      "cPANSIOS,bRIEUL-KIYEOK-SIOS,cTIKEUT,cPIEUP-SIOS,cPANSIOS,cYEORINHIEUH,bMIEUM-PIEUP,cSIOS",
      "cPANSIOS,bKAPYEOUNMIEUM,bPIEUP-KIYEOK,cTIKEUT,cSIOS-KIYEOK,dTIKEUT,cCIEUC,cTHIEUTH",
      "bKAPYEOUNPIEUP,bKAPYEOUNSSANGPIEUP,bSIOS-KIYEOK,cNIEUN,cTIKEUT,cPIEUP,cCIEUC,bPANSIOS",
      "bSSANGIEUNG,bYESIEUNG,bYESIEUNG-SIOS,cPANSIOS,bKAPYEOUNPHIEUPH,bSSANGHIEUH,bYEORINHIEUH",
      "bYO-YA,cYAE,cI,bYU-YEO,cYE,cI,bARAEA,bARAEAE,,IDEOGRAPHIC ANNOTATION LINKING MARK",
      "bREVERSE a,bONE a,bTWO a,bTHREE a,bFOUR a,bTOP a,bMIDDLE a,bBOTTOM a,bFIRST a,bSECOND a",
      "bTHIRD a,bFOURTH a,bHEAVEN a,bEARTH a,bMAN a,BOPOMOFO LETTER BU,bZI,bJI,bGU,bEE,bENN,bOO",
      "bONN,bIR,bANN,bINN,bUNN,bIM,bNGG,bAINN,bAUNN,bAM,bOM,bONG,bINNN,aFINAL LETTER P,cT,cK,cH",
      "aLETTER GH,bLH,bZY,aFINAL LETTER G,aLETTER GW,bKW,bOE,bAH,CJK STROKE T,bWG,bXG,bBXG,bSW",
      "bHZZ,bHZG,bHP,bHZWG,bSZWG,bHZT,bHZZP,bHPWG,bHZW,bHZZZ,bN,bH,bS,bP,bSP,bD,bHZ,bHG,bSZ,bSWZ",
      "bST,bSG,bPD,bPZ,bTN,bSZZ,bSWG,bHXWG,bHZZZG,bPG,bQ"]⟩,
    ⟨0x31F0, ["KATAKANA LETTER SMALL KU,cSI,cSU,cTO,cNU,cHA,cHI,cHU,cHE,cHO,cMU,cRA,cRI,cRU",
      "cRE,cRO"]⟩,
    ⟨0x3200, ["PARENTHESIZED HANGUL KIYEOK,bNIEUN,bTIKEUT,bRIEUL,bMIEUM,bPIEUP,bSIOS,bIEUNG",
      "bCIEUC,bCHIEUCH,bKHIEUKH,bTHIEUTH,bPHIEUPH,bHIEUH,bKIYEOK A,bNIEUN a,bTIKEUT a,bRIEUL a",
      "bMIEUM a,bPIEUP a,bSIOS a,bIEUNG a,bCIEUC a,bCHIEUCH a,bKHIEUKH a,bTHIEUTH a,bPHIEUPH a",
      "bHIEUH a,bCIEUC U,aKOREAN CHARACTER OJEON,cO HU,,aIDEOGRAPH ONE,bTWO,bTHREE,bFOUR,bFIVE",
      "bSIX,bSEVEN,bEIGHT,bNINE,bTEN,bMOON,bFIRE,bWATER,bWOOD,bMETAL,bEARTH,bSUN,bSTOCK,bHAVE",
      "bSOCIETY,bNAME,bSPECIAL,bFINANCIAL,bCONGRATULATION,bLABOR,bREPRESENT,bCALL,bSTUDY",
      "bSUPERVISE,bENTERPRISE,bRESOURCE,bALLIANCE,bFESTIVAL,bREST,bSELF,bREACH,CIRCLED aQUESTION",
      "bKINDERGARTEN,bSCHOOL,bKOTO,aNUMBER TEN ON BLACK SQUARE,bTWENTY c,bTHIRTY c,bFORTY c",
      "bFIFTY c,bSIXTY c,bSEVENTY c,bEIGHTY c,PARTNERSHIP SIGN,CIRCLED NUMBER TWENTY ONE,cTWO",
      "cTHREE,cFOUR,cFIVE,cSIX,cSEVEN,cEIGHT,cNINE,bTHIRTY,bTHIRTY ONE,cTWO,cTHREE,cFOUR,cFIVE",
      "aHANGUL KIYEOK,bNIEUN,bTIKEUT,bRIEUL,bMIEUM,bPIEUP,bSIOS,bIEUNG,bCIEUC,bCHIEUCH,bKHIEUKH",
      "bTHIEUTH,bPHIEUPH,bHIEUH,bKIYEOK A,bNIEUN a,bTIKEUT a,bRIEUL a,bMIEUM a,bPIEUP a,bSIOS a",
      "bIEUNG a,bCIEUC a,bCHIEUCH a,bKHIEUKH a,bTHIEUTH a,bPHIEUPH a,bHIEUH a",
      "aKOREAN CHARACTER CHAMKO,cJUEUI,aHANGUL IEUNG U,KOREAN STANDARD SYMBOL",
      "CIRCLED IDEOGRAPH ONE,bTWO,bTHREE,bFOUR,bFIVE,bSIX,bSEVEN,bEIGHT,bNINE,bTEN,bMOON,bFIRE",
      "bWATER,bWOOD,bMETAL,bEARTH,bSUN,bSTOCK,bHAVE,bSOCIETY,bNAME,bSPECIAL,bFINANCIAL",
      "bCONGRATULATION,bLABOR,bSECRET,bMALE,bFEMALE,bSUITABLE,bEXCELLENT,bPRINT,bATTENTION,bITEM",
      "bREST,bCOPY,bCORRECT,bHIGH,bCENTRE,bLOW,bLEFT,bRIGHT,bMEDICINE,bRELIGION,bSTUDY",
      "bSUPERVISE,bENTERPRISE,bRESOURCE,bALLIANCE,bNIGHT,aNUMBER THIRTY SIX,cSEVEN,cEIGHT,cNINE",
      "bFORTY,bFORTY ONE,cTWO,cTHREE,cFOUR,cFIVE,cSIX,cSEVEN,cEIGHT,cNINE,bFIFTY",
      "IDEOGRAPHIC TELEGRAPH SYMBOL FOR JANUARY,dFEBRUARY,dMARCH,dAPRIL,dMAY,dJUNE,dJULY,dAUGUST",
      "dSEPTEMBER,dOCTOBER,dNOVEMBER,dDECEMBER,SQUARE HG,aERG,aEV,LIMITED LIABILITY SIGN",
      "CIRCLED KATAKANA A,bI,bU,bE,bO,bKA,bKI,bKU,bKE,bKO,bSA,bSI,bSU,bSE,bSO,bTA,bTI,bTU,bTE",
      "bTO,bNA,bNI,bNU,bNE,bNO,bHA,bHI,bHU,bHE,bHO,bMA,bMI,bMU,bME,bMO,bYA,bYU,bYO,bRA,bRI,bRU",
      "bRE,bRO,bWA,bWI,bWE,bWO,SQUARE ERA NAME REIWA"]⟩,
    ⟨0x3300, ["SQUARE APAATO,aARUHUA,aANPEA,aAARU,aININGU,aINTI,aUON,aESUKUUDO,aEEKAA,aONSU",
      "aOOMU,aKAIRI,aKARATTO,aKARORII,aGARON,aGANMA,aGIGA,aGINII,aKYURII,aGIRUDAA,aKIRO",
      "aKIROGURAMU,aKIROMEETORU,aKIROWATTO,aGURAMU,aGURAMUTON,aKURUZEIRO,aKUROONE,aKEESU,aKORUNA",
      "aKOOPO,aSAIKURU,aSANTIIMU,aSIRINGU,aSENTI,aSENTO,aDAASU,aDESI,aDORU,aTON,aNANO,aNOTTO",
      "aHAITU,aPAASENTO,aPAATU,aBAARERU,aPIASUTORU,aPIKURU,aPIKO,aBIRU,aHUARADDO,aHUIITO",
      "aBUSSYERU,aHURAN,aHEKUTAARU,aPESO,aPENIHI,aHERUTU,aPENSU,aPEEZI,aBEETA,aPOINTO,aBORUTO",
      "aHON,aPONDO,aHOORU,aHOON,aMAIKURO,aMAIRU,aMAHHA,aMARUKU,aMANSYON,aMIKURON,aMIRI",
      "aMIRIBAARU,aMEGA,aMEGATON,aMEETORU,aYAADO,aYAARU,aYUAN,aRITTORU,aRIRA,aRUPII,aRUUBURU",
      "aREMU,aRENTOGEN,aWATTO,IDEOGRAPHIC TELEGRAPH SYMBOL FOR HOUR ZERO,eONE,eTWO,eTHREE,eFOUR",
      "eFIVE,eSIX,eSEVEN,eEIGHT,eNINE,eTEN,eELEVEN,eTWELVE,eTHIRTEEN,eFOURTEEN,eFIFTEEN,eSIXTEEN",
      "eSEVENTEEN,eEIGHTEEN,eNINETEEN,eTWENTY,eTWENTY-ONE,fTWO,fTHREE,fFOUR,SQUARE HPA,aDA,aAU",
      "aBAR,aOV,aPC,aDM,aDM SQUARED,bCUBED,aIU,aERA NAME HEISEI,cSYOUWA,cTAISYOU,cMEIZI",
      "aCORPORATION,aPA AMPS,aNA,aMU A,aMA,aKA,1,aMB,aGB,aCAL,aKCAL,aPF,aNF,aMU F,1,aMG,aKG,aHZ",
      "aKHZ,aMHZ,aGHZ,aTHZ,aMU L,aML,aDL,aKL,aFM,aNM,aMU M,aMM,aCM,aKM,aMM SQUARED,aCM a,aM a",
      "aKM a,aMM CUBED,aCM a,aM a,aKM a,aM OVER S,cS SQUARED,aPA,aKPA,aMPA,aGPA,aRAD,aRAD OVER S",
      "cS SQUARED,aPS,aNS,aMU S,aMS,aPV,aNV,aMU V,aMV,aKV,aMV MEGA,aPW,aNW,aMU W,aMW,aKW",
      "aMW MEGA,aK OHM,aM a,aAM,aBQ,aCC,1,aC OVER KG,aCO,aDB,aGY,aHA,aHP,aIN,aKK,aKM CAPITAL,aKT",
      "aLM,1,aLOG,aLX,aMB SMALL,aMIL,aMOL,aPH,aPM,aPPM,aPR,aSR,aSV,aWB,aV OVER M,aA b",
      "IDEOGRAPHIC TELEGRAPH SYMBOL FOR DAY ONE,eTWO,eTHREE,eFOUR,eFIVE,eSIX,eSEVEN,eEIGHT,eNINE",
      "eTEN,eELEVEN,eTWELVE,eTHIRTEEN,eFOURTEEN,eFIFTEEN,eSIXTEEN,eSEVENTEEN,eEIGHTEEN,eNINETEEN",
      "eTWENTY,eTWENTY-ONE,fTWO,fTHREE,fFOUR,fFIVE,fSIX,fSEVEN,fEIGHT,fNINE,eTHIRTY,eTHIRTY-ONE",
      "SQUARE GAL"]⟩,
    ⟨0x4DC0, ["HEXAGRAM FOR THE CREATIVE HEAVEN,cRECEPTIVE EARTH,bDIFFICULTY AT THE BEGINNING",
      "bYOUTHFUL FOLLY,bWAITING,bCONFLICT,bTHE ARMY,bHOLDING TOGETHER,bSMALL TAMING,bTREADING",
      "bPEACE,bSTANDSTILL,bFELLOWSHIP,bGREAT POSSESSION,bMODESTY,bENTHUSIASM,bFOLLOWING",
      "bWORK ON THE DECAYED,bAPPROACH,bCONTEMPLATION,bBITING THROUGH,bGRACE,bSPLITTING APART",
      "bRETURN,bINNOCENCE,bGREAT TAMING,bMOUTH CORNERS,bGREAT PREPONDERANCE,bTHE ABYSMAL WATER",
      "cCLINGING FIRE,bINFLUENCE,bDURATION,bRETREAT,bGREAT POWER,bPROGRESS",
      "bDARKENING OF THE LIGHT,bTHE FAMILY,bOPPOSITION,bOBSTRUCTION,bDELIVERANCE,bDECREASE",
      "bINCREASE,bBREAKTHROUGH,bCOMING TO MEET,bGATHERING TOGETHER,bPUSHING UPWARD,bOPPRESSION",
      "bTHE WELL,bREVOLUTION,bTHE CAULDRON,cAROUSING THUNDER,cKEEPING STILL MOUNTAIN",
      "bDEVELOPMENT,bTHE MARRYING MAIDEN,bABUNDANCE,bTHE WANDERER,cGENTLE WIND,cJOYOUS LAKE",
      "bDISPERSION,bLIMITATION,bINNER TRUTH,bSMALL PREPONDERANCE,bAFTER COMPLETION,bBEFORE a"]⟩,
    ⟨0xA000, ["YI SYLLABLE IT,bIX,bI,bIP,bIET,bIEX,bIE,bIEP,bAT,bAX,bA,bAP,bUOX,bUO,bUOP,bOT",
      "bOX,bO,bOP,bEX,bE,bWU,bBIT,bBIX,bBI,bBIP,bBIET,bBIEX,bBIE,bBIEP,bBAT,bBAX,bBA,bBAP,bBUOX",
      "bBUO,bBUOP,bBOT,bBOX,bBO,bBOP,bBEX,bBE,bBEP,bBUT,bBUX,bBU,bBUP,bBURX,bBUR,bBYT,bBYX,bBY",
      "bBYP,bBYRX,bBYR,bPIT,bPIX,bPI,bPIP,bPIEX,bPIE,bPIEP,bPAT,bPAX,bPA,bPAP,bPUOX,bPUO,bPUOP",
      "bPOT,bPOX,bPO,bPOP,bPUT,bPUX,bPU,bPUP,bPURX,bPUR,bPYT,bPYX,bPY,bPYP,bPYRX,bPYR,bBBIT",
      "bBBIX,bBBI,bBBIP,bBBIET,bBBIEX,bBBIE,bBBIEP,bBBAT,bBBAX,bBBA,bBBAP,bBBUOX,bBBUO,bBBUOP",
      "bBBOT,bBBOX,bBBO,bBBOP,bBBEX,bBBE,bBBEP,bBBUT,bBBUX,bBBU,bBBUP,bBBURX,bBBUR,bBBYT,bBBYX",
      "bBBY,bBBYP,bNBIT,bNBIX,bNBI,bNBIP,bNBIEX,bNBIE,bNBIEP,bNBAT,bNBAX,bNBA,bNBAP,bNBOT,bNBOX",
      "bNBO,bNBOP,bNBUT,bNBUX,bNBU,bNBUP,bNBURX,bNBUR,bNBYT,bNBYX,bNBY,bNBYP,bNBYRX,bNBYR,bHMIT",
      "bHMIX,bHMI,bHMIP,bHMIEX,bHMIE,bHMIEP,bHMAT,bHMAX,bHMA,bHMAP,bHMUOX,bHMUO,bHMUOP,bHMOT",
      "bHMOX,bHMO,bHMOP,bHMUT,bHMUX,bHMU,bHMUP,bHMURX,bHMUR,bHMYX,bHMY,bHMYP,bHMYRX,bHMYR,bMIT",
      "bMIX,bMI,bMIP,bMIEX,bMIE,bMIEP,bMAT,bMAX,bMA,bMAP,bMUOT,bMUOX,bMUO,bMUOP,bMOT,bMOX,bMO",
      "bMOP,bMEX,bME,bMUT,bMUX,bMU,bMUP,bMURX,bMUR,bMYT,bMYX,bMY,bMYP,bFIT,bFIX,bFI,bFIP,bFAT",
      "bFAX,bFA,bFAP,bFOX,bFO,bFOP,bFUT,bFUX,bFU,bFUP,bFURX,bFUR,bFYT,bFYX,bFY,bFYP,bVIT,bVIX",
      "bVI,bVIP,bVIET,bVIEX,bVIE,bVIEP,bVAT,bVAX,bVA,bVAP,bVOT,bVOX,bVO,bVOP,bVEX,bVEP,bVUT,bVUX",
      "bVU,bVUP,bVURX,bVUR,bVYT,bVYX,bVY,bVYP,bVYRX,bVYR"]⟩,
    ⟨0xA100, ["YI SYLLABLE DIT,bDIX,bDI,bDIP,bDIEX,bDIE,bDIEP,bDAT,bDAX,bDA,bDAP,bDUOX,bDUO",
      "bDOT,bDOX,bDO,bDOP,bDEX,bDE,bDEP,bDUT,bDUX,bDU,bDUP,bDURX,bDUR,bTIT,bTIX,bTI,bTIP,bTIEX",
      "bTIE,bTIEP,bTAT,bTAX,bTA,bTAP,bTUOT,bTUOX,bTUO,bTUOP,bTOT,bTOX,bTO,bTOP,bTEX,bTE,bTEP",
      "bTUT,bTUX,bTU,bTUP,bTURX,bTUR,bDDIT,bDDIX,bDDI,bDDIP,bDDIEX,bDDIE,bDDIEP,bDDAT,bDDAX,bDDA",
      "bDDAP,bDDUOX,bDDUO,bDDUOP,bDDOT,bDDOX,bDDO,bDDOP,bDDEX,bDDE,bDDEP,bDDUT,bDDUX,bDDU,bDDUP",
      "bDDURX,bDDUR,bNDIT,bNDIX,bNDI,bNDIP,bNDIEX,bNDIE,bNDAT,bNDAX,bNDA,bNDAP,bNDOT,bNDOX,bNDO",
      "bNDOP,bNDEX,bNDE,bNDEP,bNDUT,bNDUX,bNDU,bNDUP,bNDURX,bNDUR,bHNIT,bHNIX,bHNI,bHNIP,bHNIET",
      "bHNIEX,bHNIE,bHNIEP,bHNAT,bHNAX,bHNA,bHNAP,bHNUOX,bHNUO,bHNOT,bHNOX,bHNOP,bHNEX,bHNE",
      "bHNEP,bHNUT,bNIT,bNIX,bNI,bNIP,bNIEX,bNIE,bNIEP,bNAX,bNA,bNAP,bNUOX,bNUO,bNUOP,bNOT,bNOX",
      "bNO,bNOP,bNEX,bNE,bNEP,bNUT,bNUX,bNU,bNUP,bNURX,bNUR,bHLIT,bHLIX,bHLI,bHLIP,bHLIEX,bHLIE",
      "bHLIEP,bHLAT,bHLAX,bHLA,bHLAP,bHLUOX,bHLUO,bHLUOP,bHLOX,bHLO,bHLOP,bHLEX,bHLE,bHLEP,bHLUT",
      "bHLUX,bHLU,bHLUP,bHLURX,bHLUR,bHLYT,bHLYX,bHLY,bHLYP,bHLYRX,bHLYR,bLIT,bLIX,bLI,bLIP",
      "bLIET,bLIEX,bLIE,bLIEP,bLAT,bLAX,bLA,bLAP,bLUOT,bLUOX,bLUO,bLUOP,bLOT,bLOX,bLO,bLOP,bLEX",
      "bLE,bLEP,bLUT,bLUX,bLU,bLUP,bLURX,bLUR,bLYT,bLYX,bLY,bLYP,bLYRX,bLYR,bGIT,bGIX,bGI,bGIP",
      "bGIET,bGIEX,bGIE,bGIEP,bGAT,bGAX,bGA,bGAP,bGUOT,bGUOX,bGUO,bGUOP,bGOT,bGOX,bGO,bGOP,bGET",
      "bGEX,bGE,bGEP,bGUT,bGUX,bGU,bGUP,bGURX,bGUR,bKIT,bKIX,bKI,bKIP,bKIEX,bKIE,bKIEP,bKAT"]⟩,
    ⟨0xA200, ["YI SYLLABLE KAX,bKA,bKAP,bKUOX,bKUO,bKUOP,bKOT,bKOX,bKO,bKOP,bKET,bKEX,bKE",
      "bKEP,bKUT,bKUX,bKU,bKUP,bKURX,bKUR,bGGIT,bGGIX,bGGI,bGGIEX,bGGIE,bGGIEP,bGGAT,bGGAX,bGGA",
      "bGGAP,bGGUOT,bGGUOX,bGGUO,bGGUOP,bGGOT,bGGOX,bGGO,bGGOP,bGGET,bGGEX,bGGE,bGGEP,bGGUT",
      "bGGUX,bGGU,bGGUP,bGGURX,bGGUR,bMGIEX,bMGIE,bMGAT,bMGAX,bMGA,bMGAP,bMGUOX,bMGUO,bMGUOP",
      "bMGOT,bMGOX,bMGO,bMGOP,bMGEX,bMGE,bMGEP,bMGUT,bMGUX,bMGU,bMGUP,bMGURX,bMGUR,bHXIT,bHXIX",
      "bHXI,bHXIP,bHXIET,bHXIEX,bHXIE,bHXIEP,bHXAT,bHXAX,bHXA,bHXAP,bHXUOT,bHXUOX,bHXUO,bHXUOP",
      "bHXOT,bHXOX,bHXO,bHXOP,bHXEX,bHXE,bHXEP,bNGIEX,bNGIE,bNGIEP,bNGAT,bNGAX,bNGA,bNGAP,bNGUOT",
      "bNGUOX,bNGUO,bNGOT,bNGOX,bNGO,bNGOP,bNGEX,bNGE,bNGEP,bHIT,bHIEX,bHIE,bHAT,bHAX,bHA,bHAP",
      "bHUOT,bHUOX,bHUO,bHUOP,bHOT,bHOX,bHO,bHOP,bHEX,bHE,bHEP,bWAT,bWAX,bWA,bWAP,bWUOX,bWUO",
      "bWUOP,bWOX,bWO,bWOP,bWEX,bWE,bWEP,bZIT,bZIX,bZI,bZIP,bZIEX,bZIE,bZIEP,bZAT,bZAX,bZA,bZAP",
      "bZUOX,bZUO,bZUOP,bZOT,bZOX,bZO,bZOP,bZEX,bZE,bZEP,bZUT,bZUX,bZU,bZUP,bZURX,bZUR,bZYT,bZYX",
      "bZY,bZYP,bZYRX,bZYR,bCIT,bCIX,bCI,bCIP,bCIET,bCIEX,bCIE,bCIEP,bCAT,bCAX,bCA,bCAP,bCUOX",
      "bCUO,bCUOP,bCOT,bCOX,bCO,bCOP,bCEX,bCE,bCEP,bCUT,bCUX,bCU,bCUP,bCURX,bCUR,bCYT,bCYX,bCY",
      "bCYP,bCYRX,bCYR,bZZIT,bZZIX,bZZI,bZZIP,bZZIET,bZZIEX,bZZIE,bZZIEP,bZZAT,bZZAX,bZZA,bZZAP",
      "bZZOX,bZZO,bZZOP,bZZEX,bZZE,bZZEP,bZZUX,bZZU,bZZUP,bZZURX,bZZUR,bZZYT,bZZYX,bZZY,bZZYP",
      "bZZYRX,bZZYR,bNZIT,bNZIX,bNZI,bNZIP,bNZIEX,bNZIE,bNZIEP,bNZAT,bNZAX,bNZA,bNZAP,bNZUOX",
      "bNZUO,bNZOX,bNZOP,bNZEX,bNZE,bNZUX,bNZU"]⟩,
    ⟨0xA300, ["YI SYLLABLE NZUP,bNZURX,bNZUR,bNZYT,bNZYX,bNZY,bNZYP,bNZYRX,bNZYR,bSIT,bSIX",
      "bSI,bSIP,bSIEX,bSIE,bSIEP,bSAT,bSAX,bSA,bSAP,bSUOX,bSUO,bSUOP,bSOT,bSOX,bSO,bSOP,bSEX,bSE",
      "bSEP,bSUT,bSUX,bSU,bSUP,bSURX,bSUR,bSYT,bSYX,bSY,bSYP,bSYRX,bSYR,bSSIT,bSSIX,bSSI,bSSIP",
      "bSSIEX,bSSIE,bSSIEP,bSSAT,bSSAX,bSSA,bSSAP,bSSOT,bSSOX,bSSO,bSSOP,bSSEX,bSSE,bSSEP,bSSUT",
      "bSSUX,bSSU,bSSUP,bSSYT,bSSYX,bSSY,bSSYP,bSSYRX,bSSYR,bZHAT,bZHAX,bZHA,bZHAP,bZHUOX,bZHUO",
      "bZHUOP,bZHOT,bZHOX,bZHO,bZHOP,bZHET,bZHEX,bZHE,bZHEP,bZHUT,bZHUX,bZHU,bZHUP,bZHURX,bZHUR",
      "bZHYT,bZHYX,bZHY,bZHYP,bZHYRX,bZHYR,bCHAT,bCHAX,bCHA,bCHAP,bCHUOT,bCHUOX,bCHUO,bCHUOP",
      "bCHOT,bCHOX,bCHO,bCHOP,bCHET,bCHEX,bCHE,bCHEP,bCHUX,bCHU,bCHUP,bCHURX,bCHUR,bCHYT,bCHYX",
      "bCHY,bCHYP,bCHYRX,bCHYR,bRRAX,bRRA,bRRUOX,bRRUO,bRROT,bRROX,bRRO,bRROP,bRRET,bRREX,bRRE",
      "bRREP,bRRUT,bRRUX,bRRU,bRRUP,bRRURX,bRRUR,bRRYT,bRRYX,bRRY,bRRYP,bRRYRX,bRRYR,bNRAT,bNRAX",
      "bNRA,bNRAP,bNROX,bNRO,bNROP,bNRET,bNREX,bNRE,bNREP,bNRUT,bNRUX,bNRU,bNRUP,bNRURX,bNRUR",
      "bNRYT,bNRYX,bNRY,bNRYP,bNRYRX,bNRYR,bSHAT,bSHAX,bSHA,bSHAP,bSHUOX,bSHUO,bSHUOP,bSHOT",
      "bSHOX,bSHO,bSHOP,bSHET,bSHEX,bSHE,bSHEP,bSHUT,bSHUX,bSHU,bSHUP,bSHURX,bSHUR,bSHYT,bSHYX",
      "bSHY,bSHYP,bSHYRX,bSHYR,bRAT,bRAX,bRA,bRAP,bRUOX,bRUO,bRUOP,bROT,bROX,bRO,bROP,bREX,bRE",
      "bREP,bRUT,bRUX,bRU,bRUP,bRURX,bRUR,bRYT,bRYX,bRY,bRYP,bRYRX,bRYR,bJIT,bJIX,bJI,bJIP,bJIET",
      "bJIEX,bJIE,bJIEP,bJUOT,bJUOX,bJUO,bJUOP,bJOT,bJOX,bJO,bJOP,bJUT,bJUX,bJU,bJUP,bJURX,bJUR",
      "bJYT,bJYX,bJY,bJYP,bJYRX,bJYR,bQIT,bQIX,bQI,bQIP"]⟩,
    ⟨0xA400, ["YI SYLLABLE QIET,bQIEX,bQIE,bQIEP,bQUOT,bQUOX,bQUO,bQUOP,bQOT,bQOX,bQO,bQOP",
      "bQUT,bQUX,bQU,bQUP,bQURX,bQUR,bQYT,bQYX,bQY,bQYP,bQYRX,bQYR,bJJIT,bJJIX,bJJI,bJJIP,bJJIET",
      "bJJIEX,bJJIE,bJJIEP,bJJUOX,bJJUO,bJJUOP,bJJOT,bJJOX,bJJO,bJJOP,bJJUT,bJJUX,bJJU,bJJUP",
      "bJJURX,bJJUR,bJJYT,bJJYX,bJJY,bJJYP,bNJIT,bNJIX,bNJI,bNJIP,bNJIET,bNJIEX,bNJIE,bNJIEP",
      "bNJUOX,bNJUO,bNJOT,bNJOX,bNJO,bNJOP,bNJUX,bNJU,bNJUP,bNJURX,bNJUR,bNJYT,bNJYX,bNJY,bNJYP",
      "bNJYRX,bNJYR,bNYIT,bNYIX,bNYI,bNYIP,bNYIET,bNYIEX,bNYIE,bNYIEP,bNYUOX,bNYUO,bNYUOP,bNYOT",
      "bNYOX,bNYO,bNYOP,bNYUT,bNYUX,bNYU,bNYUP,bXIT,bXIX,bXI,bXIP,bXIET,bXIEX,bXIE,bXIEP,bXUOX",
      "bXUO,bXOT,bXOX,bXO,bXOP,bXYT,bXYX,bXY,bXYP,bXYRX,bXYR,bYIT,bYIX,bYI,bYIP,bYIET,bYIEX,bYIE",
      "bYIEP,bYUOT,bYUOX,bYUO,bYUOP,bYOT,bYOX,bYO,bYOP,bYUT,bYUX,bYU,bYUP,bYURX,bYUR,bYYT,bYYX",
      "bYY,bYYP,bYYRX,bYYR,,,,aRADICAL QOT,bLI,bKIT,bNYIP,bCYP,bSSI,bGGOP,bGEP,bMI,bHXIT,bLYR",
      "bBBUT,bMOP,bYO,bPUT,bHXUO,bTAT,bGA,bZUP,bCYT,bDDUR,bBUR,bGGUO,bNYOP,bTU,bOP,bJJUT,bZOT",
      "bPYT,bHMO,bYIT,bVUR,bSHY,bVEP,bZA,bJO,bNZUP,bJJY,bGOT,bJJIE,bWO,bDU,bSHUR,bLIE,bCY,bCUOP",
      "bCIP,bHXOP,bSHAT,bZUR,bSHOP,bCHE,bZZIET,bNBIE,bKE"]⟩,
    ⟨0xA4D0, ["LISU LETTER BA,bPA,bPHA,bDA,bTA,bTHA,bGA,bKA,bKHA,bJA,bCA,bCHA,bDZA,bTSA,bTSHA",
      "bMA,bNA,bLA,bSA,bZHA,bZA,bNGA,bHA,bXA,bHHA,bFA,bWA,bSHA,bYA,bGHA,bA,bAE,bE,bEU,bI,bO,bU",
      "bUE,bUH,bOE,bTONE MYA TI,cNA PO,cMYA CYA,dBO,dNA,dJEU,aPUNCTUATION COMMA,bFULL STOP"]⟩,
    ⟨0xA500, ["VAI SYLLABLE EE,bEEN,bHEE,bWEE,bWEEN,bPEE,bBHEE,bBEE,bMBEE,bKPEE,bMGBEE,bGBEE",
      "bFEE,bVEE,bTEE,bTHEE,bDHEE,bDHHEE,bLEE,bREE,bDEE,bNDEE,bSEE,bSHEE,bZEE,bZHEE,bCEE,bJEE",
      "bNJEE,bYEE,bKEE,bNGGEE,bGEE,bMEE,bNEE,bNYEE,bI,bIN,bHI,bHIN,bWI,bWIN,bPI,bBHI,bBI,bMBI",
      "bKPI,bMGBI,bGBI,bFI,bVI,bTI,bTHI,bDHI,bDHHI,bLI,bRI,bDI,bNDI,bSI,bSHI,bZI,bZHI,bCI,bJI",
      "bNJI,bYI,bKI,bNGGI,bGI,bMI,bNI,bNYI,bA,bAN,bNGAN,bHA,bHAN,bWA,bWAN,bPA,bBHA,bBA,bMBA,bKPA",
      "bKPAN,bMGBA,bGBA,bFA,bVA,bTA,bTHA,bDHA,bDHHA,bLA,bRA,bDA,bNDA,bSA,bSHA,bZA,bZHA,bCA,bJA",
      "bNJA,bYA,bKA,bKAN,bNGGA,bGA,bMA,bNA,bNYA,bOO,bOON,bHOO,bWOO,bWOON,bPOO,bBHOO,bBOO,bMBOO",
      "bKPOO,bMGBOO,bGBOO,bFOO,bVOO,bTOO,bTHOO,bDHOO,bDHHOO,bLOO,bROO,bDOO,bNDOO,bSOO,bSHOO,bZOO",
      "bZHOO,bCOO,bJOO,bNJOO,bYOO,bKOO,bNGGOO,bGOO,bMOO,bNOO,bNYOO,bU,bUN,bHU,bHUN,bWU,bWUN,bPU",
      "bBHU,bBU,bMBU,bKPU,bMGBU,bGBU,bFU,bVU,bTU,bTHU,bDHU,bDHHU,bLU,bRU,bDU,bNDU,bSU,bSHU,bZU",
      "bZHU,bCU,bJU,bNJU,bYU,bKU,bNGGU,bGU,bMU,bNU,bNYU,bO,bON,bNGON,bHO,bHON,bWO,bWON,bPO,bBHO",
      "bBO,bMBO,bKPO,bMGBO,bGBO,bGBON,bFO,bVO,bTO,bTHO,bDHO,bDHHO,bLO,bRO,bDO,bNDO,bSO,bSHO,bZO",
      "bZHO,bCO,bJO,bNJO,bYO,bKO,bNGGO,bGO,bMO,bNO,bNYO,bE,bEN,bNGEN,bHE,bHEN,bWE,bWEN,bPE,bBHE",
      "bBE,bMBE,bKPE,bKPEN,bMGBE,bGBE,bGBEN,bFE,bVE,bTE,bTHE,bDHE,bDHHE,bLE,bRE,bDE,bNDE,bSE",
      "bSHE,bZE,bZHE,bCE"]⟩,
    ⟨0xA600, ["VAI SYLLABLE JE,bNJE,bYE,bKE,bNGGE,bNGGEN,bGE,bGEN,bME,bNE,bNYE,bNG",
      "bLENGTHENER,aCOMMA,aFULL STOP,aQUESTION MARK,aSYLLABLE NDOLE FA,cKA,cSOO,aSYMBOL FEENG",
      "bKEENG,bTING,bNII,bBANG,bFAA,bTAA,bDANG,bDOONG,bKUNG,bTONG,bDO-O,bJONG,aDIGIT ZERO,bONE",
      "bTWO,bTHREE,bFOUR,bFIVE,bSIX,bSEVEN,bEIGHT,bNINE,aSYLLABLE NDOLE MA,cDO"]⟩,
    ⟨0xA640, ["CYRILLIC CAPITAL LETTER ZEMLYA,aSMALL b,aCAPITAL aDZELO,aSMALL b",
      "aCAPITAL aREVERSED DZE,aSMALL c,aCAPITAL aIOTA,aSMALL b,aCAPITAL aDJERV,aSMALL b",
      "aCAPITAL aMONOGRAPH UK,aSMALL c,aCAPITAL aBROAD OMEGA,aSMALL c,aCAPITAL aNEUTRAL YER",
      "aSMALL c,aCAPITAL aYERU WITH BACK YER,aSMALL e,aCAPITAL aIOTIFIED YAT,aSMALL c",
      "aCAPITAL aREVERSED YU,aSMALL c,aCAPITAL aIOTIFIED A,aSMALL c,aCAPITAL aCLOSED LITTLE YUS",
      "aSMALL d,aCAPITAL aBLENDED YUS,aSMALL c,aCAPITAL aIOTIFIED CLOSED LITTLE YUS,aSMALL e",
      "aCAPITAL aYN,aSMALL b,aCAPITAL aREVERSED TSE,aSMALL c,aCAPITAL aSOFT DE,aSMALL c",
      "aCAPITAL bEL,aSMALL c,aCAPITAL bEM,aSMALL c,aCAPITAL aMONOCULAR O,aSMALL c",
      "aCAPITAL aBINOCULAR a,aSMALL c,aCAPITAL aDOUBLE MONOCULAR O,aSMALL d",
      "aLETTER MULTIOCULAR O,COMBINING CYRILLIC VZMET,bTEN MILLIONS SIGN,bHUNDRED b,bTHOUSAND b",
      "SLAVONIC ASTERISK,COMBINING CYRILLIC LETTER UKRAINIAN IE,cI,cYI,cU,cHARD SIGN,cYERU",
      "cSOFT SIGN,cOMEGA,bKAVYKA,bPAYEROK,CYRILLIC KAVYKA,aPAYEROK,aCAPITAL LETTER DWE,aSMALL b",
      "aCAPITAL aDZWE,aSMALL b,aCAPITAL aZHWE,aSMALL b,aCAPITAL aCCHE,aSMALL b,aCAPITAL aDZZE",
      "aSMALL b,aCAPITAL aTE WITH MIDDLE HOOK,aSMALL e,aCAPITAL aTWE,aSMALL b,aCAPITAL aTSWE",
      "aSMALL b,aCAPITAL aTSSE,aSMALL b,aCAPITAL aTCHE,aSMALL b,aCAPITAL aHWE,aSMALL b",
      "aCAPITAL aSHWE,aSMALL b,aCAPITAL aDOUBLE O,aSMALL c,aCAPITAL aCROSSED a,aSMALL c",
      "MODIFIER LETTER CYRILLIC HARD SIGN,cSOFT a,COMBINING CYRILLIC LETTER EF,cIOTIFIED E",
      "BAMUM LETTER A,bKA,bU,bKU,bEE,bREE,bTAE,bO,bNYI,bI,bLA,bPA,bRII,bRIEE,bLEEEE,bMEEEE,bTAA",
      "bNDAA,bNJAEM,bM,bSUU,bMU,bSHII,bSI,bSHEUX,bSEUX,bKYEE,bKET,bNUAE,bNU,bNJUAE,bYOQ,bSHU",
      "bYUQ,bYA,bNSHA,bKEUX,bPEUX,bNJEE,bNTEE,bPUE,bWUE,bPEE,bFEE,bRU,bLU,bMI,bNI,bREUX,bRAE",
      "bKEN,bNGKWAEN,bNGGA,bNGA,bSHO,bPUAE,bFU,bFOM,bWA,bNA,bLI,bPI,bLOQ,bKO,bMBEN,bREN,bMEN,bMA",
      "bTI,bKI,bMO,bMBAA,bTET,bKPA,bTEN,bNTUU,bSAMBA,bFAAMAE,bKOVUU,bKOGHOM",
      "aCOMBINING MARK KOQNDON,cTUKWENTIS,aNJAEMLI,aFULL STOP,aCOLON,aCOMMA,aSEMICOLON",
      "aQUESTION MARK"]⟩,
    ⟨0xA700, ["MODIFIER LETTER CHINESE TONE YIN PING,dYANG a,dYIN SHANG,dYANG a,dYIN QU",
      "dYANG a,dYIN RU,dYANG a,bEXTRA-HIGH DOTTED TONE BAR,bHIGH DOTTED TONE BAR,bMID c,bLOW c",
      "bEXTRA-LOW DOTTED TONE BAR,cHIGH aLEFT-STEM TONE BAR,bHIGH DOTTED LEFT-STEM TONE BAR",
      "bMID e,bLOW e,bEXTRA-LOW DOTTED LEFT-STEM TONE BAR,cHIGH LEFT-STEM TONE BAR",
      "bHIGH LEFT-STEM TONE BAR,bMID d,bLOW d,bEXTRA-LOW LEFT-STEM TONE BAR,bDOT VERTICAL BAR",
      "cSLASH,cHORIZONTAL BAR,bLOWER RIGHT CORNER ANGLE,bRAISED UP ARROW,cDOWN a",
      "cEXCLAMATION MARK,cINVERTED EXCLAMATION MARK,bLOW c,bSTRESS AND HIGH TONE,dLOW a",
      "LATIN CAPITAL LETTER EGYPTOLOGICAL ALEF,aSMALL c,aCAPITAL bAIN,aSMALL c,aCAPITAL aHENG",
      "aSMALL b,aCAPITAL aTZ,aSMALL b,aCAPITAL aTRESILLO,aSMALL b,aCAPITAL aCUATRILLO,aSMALL b",
      "aCAPITAL aCUATRILLO WITH COMMA,aSMALL d,aLETTER SMALL CAPITAL F,dS,aCAPITAL LETTER AA",
      "aSMALL b,aCAPITAL aAO,aSMALL b,aCAPITAL aAU,aSMALL b,aCAPITAL aAV,aSMALL b",
      "aCAPITAL aAV WITH HORIZONTAL BAR,aSMALL e,aCAPITAL aAY,aSMALL b",
      "aCAPITAL aREVERSED C WITH DOT,aSMALL e,aCAPITAL aK WITH STROKE,aSMALL d",
      "aCAPITAL cDIAGONAL STROKE,aSMALL e,aCAPITAL cSTROKE AND DIAGONAL STROKE,aSMALL g",
      "aCAPITAL aBROKEN L,aSMALL c,aCAPITAL aL WITH HIGH STROKE,aSMALL e",
      "aCAPITAL aO aLONG STROKE OVERLAY,aSMALL f,aCAPITAL cLOOP,aSMALL d,aCAPITAL aOO,aSMALL b",
      "aCAPITAL aP WITH STROKE THROUGH DESCENDER,aSMALL f,aCAPITAL cFLOURISH,aSMALL d",
      "aCAPITAL cSQUIRREL TAIL,aSMALL e,aCAPITAL aQ aSTROKE THROUGH DESCENDER,aSMALL f",
      "aCAPITAL cDIAGONAL STROKE,aSMALL e,aCAPITAL aR ROTUNDA,aSMALL c,aCAPITAL aRUM a,aSMALL c",
      "aCAPITAL aV WITH DIAGONAL STROKE,aSMALL e,aCAPITAL aVY,aSMALL b,aCAPITAL aVISIGOTHIC Z",
      "aSMALL c,aCAPITAL aTHORN WITH STROKE,aSMALL d,aCAPITAL cSTROKE THROUGH DESCENDER,aSMALL f",
      "aCAPITAL aVEND,aSMALL b,aCAPITAL aET,aSMALL b,aCAPITAL aIS,aSMALL b,aCAPITAL aCON",
      "aSMALL b,MODIFIER LETTER US,LATIN SMALL LETTER DUM,cLUM,cMUM,cNUM,cRUM",
      "aLETTER SMALL CAPITAL RUM,aSMALL LETTER TUM,cUM,aCAPITAL aINSULAR D,aSMALL c,aCAPITAL bF",
      "aSMALL c,aCAPITAL bG,cTURNED INSULAR G,aSMALL d,aCAPITAL bL,aSMALL c,aCAPITAL aINSULAR R",
      "aSMALL c,aCAPITAL bS,aSMALL c,aCAPITAL bT,aSMALL c,MODIFIER LETTER LOW CIRCUMFLEX ACCENT",
      "bCOLON,bSHORT EQUALS SIGN,LATIN CAPITAL LETTER SALTILLO,aSMALL b,aCAPITAL aTURNED H",
      "aSMALL aL WITH RETROFLEX HOOK AND BELT,aLETTER SINOLOGICAL DOT",
      "aCAPITAL LETTER N WITH DESCENDER,aSMALL d,aCAPITAL aC aBAR,aSMALL d,ePALATAL HOOK,cH c",
      "aCAPITAL aB aFLOURISH,aSMALL d,aCAPITAL aF aSTROKE,aSMALL d,aCAPITAL aVOLAPUK AE,aSMALL c",
      "aCAPITAL bOE,aSMALL c,aCAPITAL bUE,aSMALL c,aCAPITAL aG WITH OBLIQUE STROKE,aSMALL e",
      "aCAPITAL aK c,aSMALL e,aCAPITAL aN c,aSMALL e,aCAPITAL aR c,aSMALL e,aCAPITAL aS c",
      "aSMALL e,aCAPITAL aH aHOOK,cREVERSED OPEN E,cSCRIPT G,cL WITH BELT,cSMALL CAPITAL I",
      "aLETTER SMALL CAPITAL Q,aCAPITAL LETTER TURNED K,dT,cJ WITH CROSSED-TAIL,cCHI,cBETA",
      "aSMALL b,aCAPITAL aOMEGA,aSMALL b,aCAPITAL aU WITH STROKE,aSMALL d,aCAPITAL aGLOTTAL A",
      "aSMALL c,aCAPITAL bI,aSMALL c,aCAPITAL bU,aSMALL c,aCAPITAL aOLD POLISH O,aSMALL d",
      "aCAPITAL aANGLICANA W,aSMALL c,aCAPITAL aC WITH PALATAL HOOK,cS aHOOK,cZ aPALATAL HOOK",
      "cD aSHORT STROKE OVERLAY,aSMALL f,aCAPITAL aS d,aSMALL f"]⟩,
    ⟨0xA7D0, ["LATIN CAPITAL LETTER CLOSED INSULAR G,aSMALL d,,cDOUBLE THORN,,dWYNN",
      "aCAPITAL aMIDDLE SCOTS S,aSMALL d,aCAPITAL aSIGMOID S,aSMALL c"]⟩,
    ⟨0xA7F2, ["MODIFIER LETTER CAPITAL C,cF,cQ,LATIN CAPITAL LETTER REVERSED HALF H,aSMALL d",
      "aEPIGRAPHIC aSIDEWAYS I,MODIFIER LETTER CAPITAL H WITH STROKE,bSMALL LIGATURE OE",
      "LATIN bCAPITAL TURNED M,aEPIGRAPHIC LETTER REVERSED F,dP,cINVERTED M,cI LONGA,cARCHAIC M"]⟩,
    ⟨0xA800, ["SYLOTI NAGRI LETTER A,cI,bSIGN DVISVARA,bLETTER U,cE,cO,bSIGN HASANTA",
      "bLETTER KO,cKHO,cGO,cGHO,bSIGN ANUSVARA,bLETTER CO,cCHO,cJO,cJHO,cTTO,cTTHO,cDDO,cDDHO",
      "cTO,cTHO,cDO,cDHO,cNO,cPO,cPHO,cBO,cBHO,cMO,cRO,cLO,cRRO,cSO,cHO,bVOWEL SIGN A,dI,dU,dE",
      "dOO,bPOETRY MARK-1,3,bSIGN ALTERNATE HASANTA,,,,NORTH INDIC FRACTION ONE QUARTER,dHALF",
      "cTHREE QUARTERS,cONE SIXTEENTH,dEIGHTH,cTHREE SIXTEENTHS,bQUARTER MARK,bPLACEHOLDER a",
      "bRUPEE a,bQUANTITY a"]⟩,
    ⟨0xA840, ["PHAGS-PA LETTER KA,cKHA,cGA,cNGA,cCA,cCHA,cJA,cNYA,cTA,cTHA,cDA,cNA,cPA,cPHA",
      "cBA,cMA,cTSA,cTSHA,cDZA,cWA,cZHA,cZA,cSMALL A,cYA,cRA,cLA,cSHA,cSA,cHA,cA,cI,cU,cE,cO,cQA",
      "cXA,cFA,cGGA,cEE,bSUBJOINED LETTER WA,dYA,bLETTER TTA,cTTHA,cDDA,cNNA,cALTERNATE YA",
      "cVOICELESS SHA,cVOICED HA,cASPIRATED FA,bSUBJOINED LETTER RA,bSUPERFIXED b",
      "bLETTER CANDRABINDU,bSINGLE HEAD MARK,bDOUBLE b,bMARK SHAD,cDOUBLE SHAD"]⟩,
    ⟨0xA880, ["SAURASHTRA SIGN ANUSVARA,bVISARGA,aLETTER A,bAA,bI,bII,bU,bUU,bVOCALIC R,cRR",
      "cL,cLL,bE,bEE,bAI,bO,bOO,bAU,bKA,bKHA,bGA,bGHA,bNGA,bCA,bCHA,bJA,bJHA,bNYA,bTTA,bTTHA",
      "bDDA,bDDHA,bNNA,bTA,bTHA,bDA,bDHA,bNA,bPA,bPHA,bBA,bBHA,bMA,bYA,bRA,bLA,bVA,bSHA,bSSA,bSA",
      "bHA,bLLA,aCONSONANT SIGN HAARU,aVOWEL aAA,cI,cII,cU,cUU,cVOCALIC R,dRR,dL,dLL,cE,cEE,cAI",
      "cO,cOO,cAU,aSIGN VIRAMA,bCANDRABINDU"]⟩,
    ⟨0xA8CE, ["SAURASHTRA DANDA,aDOUBLE DANDA,aDIGIT ZERO,bONE,bTWO,bTHREE,bFOUR,bFIVE,bSIX",
      "bSEVEN,bEIGHT,bNINE"]⟩,
    ⟨0xA8E0, ["COMBINING DEVANAGARI DIGIT ZERO,cONE,cTWO,cTHREE,cFOUR,cFIVE,cSIX,cSEVEN",
      "cEIGHT,cNINE,bLETTER A,cU,cKA,cNA,cPA,cRA,cVI,bSIGN AVAGRAHA",
      "DEVANAGARI SIGN SPACING CANDRABINDU,bCANDRABINDU VIRAMA,bDOUBLE CANDRABINDU VIRAMA",
      "bCANDRABINDU TWO,cTHREE,cAVAGRAHA,bPUSHPIKA,aGAP FILLER,aCARET,aHEADSTROKE,aSIGN SIDDHAM",
      "aJAIN OM,aLETTER AY,aVOWEL SIGN AY"]⟩,
    ⟨0xA900, ["KAYAH LI DIGIT ZERO,cONE,cTWO,cTHREE,cFOUR,cFIVE,cSIX,cSEVEN,cEIGHT,cNINE",
      "bLETTER KA,cKHA,cGA,cNGA,cSA,cSHA,cZA,cNYA,cTA,cHTA,cNA,cPA,cPHA,cMA,cDA,cBA,cRA,cYA,cLA",
      "cWA,cTHA,cHA,cVA,cCA,cA,cOE,cI,cOO,bVOWEL UE,cE,cU,cEE,cO,bTONE PLOPHU,cCALYA",
      "cCALYA PLOPHU,bSIGN CWI,cSHYA,REJANG LETTER KA,bGA,bNGA,bTA,bDA,bNA,bPA,bBA,bMA,bCA,bJA",
      "bNYA,bSA,bRA,bLA,bYA,bWA,bHA,bMBA,bNGGA,bNDA,bNYJA,bA,aVOWEL SIGN I,cU,cE,cAI,cO,cAU,cEU",
      "cEA,aCONSONANT aNG,cN,cR,cH,aVIRAMA"]⟩,
    ⟨0xA95F, ["REJANG SECTION MARK,HANGUL CHOSEONG TIKEUT-MIEUM,cPIEUP,cSIOS,cCIEUC",
      "bRIEUL-KIYEOK,cSSANGKIYEOK,cTIKEUT,cSSANGTIKEUT,cMIEUM,cPIEUP,cSSANGPIEUP,cKAPYEOUNPIEUP",
      "cSIOS,cCIEUC,cKHIEUKH,bMIEUM-KIYEOK,cTIKEUT,cSIOS,bPIEUP-SIOS-THIEUTH,cKHIEUKH,cHIEUH",
      "bSSANGSIOS-PIEUP,bIEUNG-RIEUL,cHIEUH,bSSANGCIEUC-a,bSSANGTHIEUTH,bPHIEUPH-HIEUH",
      "bHIEUH-SIOS,bSSANGYEORINHIEUH,,,,JAVANESE SIGN PANYANGGA,bCECAK,bLAYAR,bWIGNYAN,aLETTER A",
      "bI KAWI,bI,bII,bU,bPA CEREK,bNGA LELET,cLELET RASWADI,bE,bAI,bO,bKA,bKA SASAK,cMURDA,bGA",
      "bGA MURDA,bNGA,bCA,bCA MURDA,bJA,bNYA MURDA,bJA MAHAPRANA,bNYA,bTTA,bTTA MAHAPRANA,bDDA",
      "bDDA MAHAPRANA,bNA MURDA,bTA,bTA MURDA,bDA,bDA MAHAPRANA,bNA,bPA,bPA MURDA,bBA,bBA MURDA",
      "bMA,bYA,bRA,bRA AGUNG,bLA,bWA,bSA MURDA,cMAHAPRANA,bSA,bHA,aSIGN CECAK TELU",
      "aVOWEL SIGN TARUNG,cTOLONG,cWULU,cWULU MELIK,cSUKU,cSUKU MENDUT,cTALING,cDIRGA MURE",
      "cPEPET,aCONSONANT aKERET,cPENGKAL,cCAKRA,aPANGKON,aLEFT RERENGGAN,aRIGHT a,aPADA ANDAP",
      "bMADYA,bLUHUR,bWINDU,bPANGKAT,bLINGSA,bLUNGSI,bADEG,bADEG ADEG,bPISELEH",
      "aTURNED PADA PISELEH,,aPANGRANGKEP,aDIGIT ZERO,bONE,bTWO,bTHREE,bFOUR,bFIVE,bSIX,bSEVEN",
      "bEIGHT,bNINE,,,,,aPADA TIRTA TUMETES,bISEN-ISEN,MYANMAR LETTER SHAN GHA,cCHA,cJHA,cNNA",
      "cBHA,aSIGN aSAW,aMODIFIER LETTER SHAN REDUPLICATION,aLETTER TAI LAING NYA,dFA,dGA,dGHA",
      "dJA,dJHA,dDDA,dDDHA,dNNA,aTAI LAING DIGIT ZERO,dONE,dTWO,dTHREE,dFOUR,dFIVE,dSIX,dSEVEN",
      "dEIGHT,dNINE,aLETTER TAI LAING LLA,dDA,dDHA,dBA,dBHA"]⟩,
    ⟨0xAA00, ["CHAM LETTER A,bI,bU,bE,bAI,bO,bKA,bKHA,bGA,bGHA,bNGUE,bNGA,bCHA,bCHHA,bJA,bJHA",
      "bNHUE,bNHA,bNHJA,bTA,bTHA,bDA,bDHA,bNUE,bNA,bDDA,bPA,bPPA,bPHA,bBA,bBHA,bMUE,bMA,bBBA,bYA",
      "bRA,bLA,bVA,bSSA,bSA,bHA,aVOWEL SIGN AA,cI,cII,cEI,cU,cOE,cO,cAI,cAU,cUE,aCONSONANT aYA",
      "cRA,cLA,cWA"]⟩,
    ⟨0xAA40, ["CHAM LETTER FINAL K,cG,cNG,aCONSONANT SIGN FINAL NG,aLETTER FINAL CH,cT,cN,cP",
      "cY,cR,cL,cSS,aCONSONANT SIGN FINAL M,dH,,,aDIGIT ZERO,bONE,bTWO,bTHREE,bFOUR,bFIVE,bSIX",
      "bSEVEN,bEIGHT,bNINE,,,aPUNCTUATION SPIRAL,bDANDA,bDOUBLE DANDA,bTRIPLE a",
      "MYANMAR LETTER KHAMTI GA,cCA,cCHA,cJA,cJHA,cNYA,cTTA,cTTHA,cDDA,cDDHA,cDHA,cNA,cSA,cHA",
      "cHHA,cFA,aMODIFIER LETTER KHAMTI REDUPLICATION,aLETTER KHAMTI XA,cZA,cRA,aLOGOGRAM aOAY",
      "cQN,cHM,aSYMBOL AITON EXCLAMATION,cONE,cTWO,aLETTER aRA,aSIGN PAO KAREN TONE",
      "bTAI LAING TONE-2,e5,aLETTER SHWE PALAUNG CHA,dSHA,TAI VIET LETTER LOW KO,cHIGH a",
      "cLOW KHO,cHIGH a,cLOW KHHO,cHIGH a,cLOW GO,cHIGH a,cLOW NGO,cHIGH a,cLOW CO,cHIGH a",
      "cLOW CHO,cHIGH a,cLOW SO,cHIGH a,cLOW NYO,cHIGH a,cLOW DO,cHIGH a,cLOW TO,cHIGH a",
      "cLOW THO,cHIGH a,cLOW NO,cHIGH a,cLOW BO,cHIGH a,cLOW PO,cHIGH a,cLOW PHO,cHIGH a,cLOW FO",
      "cHIGH a,cLOW MO,cHIGH a,cLOW YO,cHIGH a,cLOW RO,cHIGH a,cLOW LO,cHIGH a,cLOW VO,cHIGH a",
      "cLOW HO,cHIGH a,cLOW O,cHIGH a,bMAI KANG,bVOWEL AA,cI,cUE,cU,cE,cO,bMAI KHIT,bVOWEL IA",
      "cUEA,cUA,cAUE,cAY,cAN,cAM,bTONE MAI EK,dNUENG,dTHO,dSONG"]⟩,
    ⟨0xAADB, ["TAI VIET SYMBOL KON,cNUENG,cSAM,cHO HOI,cKOI KOI,MEETEI MAYEK LETTER E,cO,cCHA",
      "cNYA,cTTA,cTTHA,cDDA,cDDHA,cNNA,cSHA,cSSA,bVOWEL SIGN II,dUU,dAAI,dAU,dAAU,bCHEIKHAN",
      "bAHANG KHUDAM,bANJI,bSYLLABLE REPETITION MARK,bWORD b,bVOWEL SIGN VISARGA,bVIRAMA"]⟩,
    ⟨0xAB01, ["ETHIOPIC SYLLABLE TTHU,bTTHI,bTTHAA,bTTHEE,bTTHE,bTTHO,,,bDDHU,bDDHI,bDDHAA",
      "bDDHEE,bDDHE,bDDHO,,,bDZU,bDZI,bDZAA,bDZEE,bDZE,bDZO"]⟩,
    ⟨0xAB20, ["ETHIOPIC SYLLABLE CCHHA,bCCHHU,bCCHHI,bCCHHAA,bCCHHEE,bCCHHE,bCCHHO,,bBBA,bBBU",
      "bBBI,bBBAA,bBBEE,bBBE,bBBO,,LATIN SMALL LETTER BARRED ALPHA,cA REVERSED-SCHWA",
      "cBLACKLETTER E,cBARRED a,cE WITH FLOURISH,cLENIS F,cSCRIPT G WITH CROSSED-TAIL",
      "cL WITH INVERTED LAZY S,eDOUBLE MIDDLE TILDE,eMIDDLE RING,cM aCROSSED-TAIL,cN c,cENG c",
      "cBLACKLETTER O,dO WITH STROKE,cOPEN c,cINVERTED OE,cTURNED OE WITH STROKE",
      "fHORIZONTAL STROKE,dO OPEN-O,fO WITH STROKE,cSTIRRUP R",
      "aLETTER SMALL CAPITAL R WITH RIGHT LEG,aSMALL LETTER R WITHOUT HANDLE,cDOUBLE R",
      "cR WITH CROSSED-TAIL,cDOUBLE R WITH CROSSED-TAIL,cSCRIPT R,dR WITH RING,cBASELINE ESH",
      "cU WITH SHORT RIGHT LEG,dBAR WITH SHORT RIGHT LEG,cUI,cTURNED UI,cU WITH LEFT HOOK,cCHI",
      "cCHI WITH LOW RIGHT RING,fLEFT SERIF,cX bRIGHT RING,eLONG LEFT LEG",
      "gLEG AND LOW RIGHT RING,hWITH SERIF,cY aSHORT RIGHT LEG",
      "MODIFIER BREVE WITH INVERTED BREVE,aLETTER SMALL HENG,cL WITH INVERTED LAZY S",
      "eMIDDLE TILDE,cU aLEFT HOOK,LATIN SMALL LETTER SAKHA YAT,cIOTIFIED E,cOPEN OE,cUO",
      "cINVERTED ALPHA,GREEK LETTER SMALL CAPITAL OMEGA",
      "LATIN SMALL LETTER DZ DIGRAPH WITH RETROFLEX HOOK,cTS d,cTURNED R aMIDDLE TILDE",
      "MODIFIER LETTER SMALL aW,bLEFT TACK,bRIGHT a,,,,,CHEROKEE SMALL LETTER A,cE,cI,cO,cU,1",
      "cGA,cKA,cGE,cGI,cGO,cGU,1,cHA,cHE,cHI,cHO,cHU,1,cLA,cLE,cLI,cLO,cLU,1,cMA,cME,cMI,cMO,cMU",
      "cNA,cHNA,cNAH,cNE,cNI,cNO,cNU,1,cQUA,cQUE,cQUI,cQUO,cQUU,1,cSA,cS,cSE,cSI,cSO,cSU,1,cDA",
      "cTA,cDE,cTE,cDI,cTI,cDO,cDU,1,cDLA,cTLA,cTLE,cTLI,cTLO,cTLU,1,cTSA,cTSE,cTSI,cTSO,cTSU,1",
      "cWA,cWE,cWI,cWO,cWU,1,cYA,MEETEI MAYEK aKOK,cSAM,cLAI,cMIT,cPA,cNA,cCHIL,cTIL,cKHOU,cNGOU",
      "cTHOU,cWAI,cYANG,cHUK,cUN,cI,cPHAM,cATIYA,cGOK,cJHAM,cRAI,cBA,cJIL,cDIL,cGHOU,cDHOU,cBHAM",
      "cKOK LONSUM,cLAI a,cMIT a,cPA a,cNA a,cTIL a,cNGOU a,cI a,bVOWEL SIGN ONAP,dINAP,dANAP",
      "dYENAP,dSOUNAP,dUNAP,dCHEINAP,dNUNG,bCHEIKHEI,bLUM IYEK,bAPUN a,,,bDIGIT ZERO,cONE,cTWO",
      "cTHREE,cFOUR,cFIVE,cSIX,cSEVEN,cEIGHT,cNINE"]⟩,
    ⟨0xD7B0, ["HANGUL JUNGSEONG O-YEO,cO-I,bYO-A,cAE,cEO,bU-YEO,cI-I,bYU-AE,cO,bEU-A,cEO,cE",
      "cO,bI-YA-O,cYAE,cYEO,cYE,cO-I,cYO,cYU,cI,bARAEA-A,cE,,,,,aJONGSEONG NIEUN-RIEUL,cCHIEUCH",
      "bSSANGTIKEUT,bSSANGTIKEUT-PIEUP,bTIKEUT-a,cSIOS,cSIOS-KIYEOK,cCIEUC,cCHIEUCH,cTHIEUTH",
      "bRIEUL-SSANGKIYEOK,cKIYEOK-HIEUH,bSSANGRIEUL-KHIEUKH,bRIEUL-MIEUM-HIEUH,cPIEUP-TIKEUT",
      "dPHIEUPH,cYESIEUNG,cYEORINHIEUH-HIEUH,bKAPYEOUNRIEUL,bMIEUM-NIEUN,cSSANGNIEUN,bSSANGMIEUM",
      "bMIEUM-PIEUP-SIOS,cCIEUC,bPIEUP-TIKEUT,cRIEUL-PHIEUPH,cMIEUM,bSSANGPIEUP",
      "bPIEUP-SIOS-TIKEUT,cCIEUC,cCHIEUCH,bSIOS-MIEUM,cKAPYEOUNPIEUP,bSSANGSIOS-KIYEOK,cTIKEUT",
      "bSIOS-PANSIOS,cCIEUC,cCHIEUCH,cTHIEUTH,cHIEUH,bPANSIOS-PIEUP,cKAPYEOUNPIEUP",
      "bYESIEUNG-MIEUM,cHIEUH,bCIEUC-PIEUP,cSSANGPIEUP,bSSANGCIEUC,bPHIEUPH-SIOS,cTHIEUTH"]⟩,
    ⟨0xFB00, ["LATIN SMALL LIGATURE FF,cFI,cFL,cFFI,cFFL,cLONG S T,cST"]⟩,
    ⟨0xFB13, ["ARMENIAN SMALL LIGATURE MEN NOW,dECH,dINI,cVEW NOW,cMEN XEH"]⟩,
    ⟨0xFB1D, ["HEBREW LETTER YOD WITH HIRIQ,aPOINT JUDEO-SPANISH VARIKA",
      "aLIGATURE YIDDISH YOD YOD PATAH,aLETTER ALTERNATIVE AYIN,bWIDE ALEF,cDALET,cHE,cKAF",
      "cLAMED,cFINAL MEM,cRESH,cTAV,bALTERNATIVE PLUS SIGN,bSHIN WITH SHIN DOT,dSIN a",
      "dDAGESH AND SHIN DOT,fSIN a,bALEF aPATAH,dQAMATS,dMAPIQ,bBET aDAGESH,bGIMEL b,bDALET b",
      "bHE aMAPIQ,bVAV aDAGESH,bZAYIN b,,bTET b,bYOD b,bFINAL KAF WITH DAGESH,bKAF WITH DAGESH",
      "bLAMED b,,bMEM b,,bNUN b,bSAMEKH b,,bFINAL PE WITH DAGESH,bPE WITH DAGESH,,bTSADI b",
      "bQOF b,bRESH b,bSHIN b,bTAV b,bVAV aHOLAM,bBET aRAFE,bKAF b,bPE b,aLIGATURE ALEF LAMED",
      "ARABIC LETTER aWASLA ISOLATED FORM,dFINAL a,bBEEH ISOLATED FORM,cFINAL a,cINITIAL a",
      "cMEDIAL a,bPEH ISOLATED a,cFINAL a,cINITIAL a,cMEDIAL a,bBEHEH ISOLATED a,cFINAL a",
      "cINITIAL a,cMEDIAL a,bTTEHEH ISOLATED a,cFINAL a,cINITIAL a,cMEDIAL a,bTEHEH ISOLATED a",
      "cFINAL a,cINITIAL a,cMEDIAL a,bTTEH ISOLATED a,cFINAL a,cINITIAL a,cMEDIAL a",
      "bVEH ISOLATED a,cFINAL a,cINITIAL a,cMEDIAL a,bPEHEH ISOLATED a,cFINAL a,cINITIAL a",
      "cMEDIAL a,bDYEH ISOLATED a,cFINAL a,cINITIAL a,cMEDIAL a,bNYEH ISOLATED a,cFINAL a",
      "cINITIAL a,cMEDIAL a,bTCHEH ISOLATED a,cFINAL a,cINITIAL a,cMEDIAL a,bTCHEHEH ISOLATED a",
      "cFINAL a,cINITIAL a,cMEDIAL a,bDDAHAL ISOLATED a,cFINAL a,bDAHAL ISOLATED a,cFINAL a",
      "bDUL ISOLATED a,cFINAL a,bDDAL ISOLATED a,cFINAL a,bJEH ISOLATED a,cFINAL a",
      "bRREH ISOLATED a,cFINAL a,bKEHEH ISOLATED a,cFINAL a,cINITIAL a,cMEDIAL a,bGAF ISOLATED a",
      "cFINAL a,cINITIAL a,cMEDIAL a,bGUEH ISOLATED a,cFINAL a,cINITIAL a,cMEDIAL a",
      "bNGOEH ISOLATED a,cFINAL a,cINITIAL a,cMEDIAL a,bNOON GHUNNA ISOLATED FORM,dFINAL a",
      "bRNOON ISOLATED FORM,cFINAL a,cINITIAL a,cMEDIAL a,bHEH WITH YEH ABOVE ISOLATED FORM",
      "fFINAL a,cGOAL ISOLATED FORM,dFINAL a,dINITIAL a,dMEDIAL a,cDOACHASHMEE ISOLATED a",
      "dFINAL a,dINITIAL a,dMEDIAL a,bYEH BARREE ISOLATED a,dFINAL a",
      "dWITH HAMZA ABOVE ISOLATED FORM,gFINAL a,aSYMBOL DOT ABOVE,cBELOW,bTWO DOTS ABOVE,dBELOW",
      "bTHREE aABOVE,dBELOW,dPOINTING DOWNWARDS ABOVE,fBELOW,bFOUR aABOVE,dBELOW",
      "bDOUBLE VERTICAL BAR BELOW,bTWO DOTS VERTICALLY ABOVE,eBELOW,bRING,bSMALL TAH ABOVE",
      "dBELOW,bWASLA ABOVE"]⟩,
    ⟨0xFBD3, ["ARABIC LETTER NG ISOLATED FORM,cFINAL a,cINITIAL a,cMEDIAL a,bU ISOLATED a",
      "cFINAL a,bOE ISOLATED a,cFINAL a,bYU ISOLATED a,cFINAL a",
      "bU WITH HAMZA ABOVE ISOLATED FORM,bVE ISOLATED FORM,cFINAL a,bKIRGHIZ OE ISOLATED FORM",
      "dFINAL a,cYU ISOLATED a,dFINAL a,bE ISOLATED FORM,cFINAL a,cINITIAL a,cMEDIAL a",
      "bUIGHUR KAZAKH KIRGHIZ ALEF MAKSURA INITIAL FORM,gMEDIAL a",
      "aLIGATURE YEH WITH HAMZA ABOVE WITH ALEF ISOLATED FORM,hFINAL a,gAE ISOLATED a,hFINAL a",
      "gWAW ISOLATED a,hFINAL a,gU ISOLATED a,hFINAL a,gOE ISOLATED a,hFINAL a,gYU ISOLATED a",
      "hFINAL a,gE ISOLATED a,hFINAL a,hINITIAL a",
      "bUIGHUR KIRGHIZ YEH WITH HAMZA ABOVE WITH ALEF MAKSURA ISOLATED FORM,kFINAL a,kINITIAL a",
      "aLETTER FARSI YEH ISOLATED FORM,dFINAL a,dINITIAL a,dMEDIAL a"]⟩,
    ⟨0xFC00, ["ARABIC LIGATURE YEH WITH HAMZA ABOVE WITH JEEM ISOLATED FORM,gHAH b,gMEEM b",
      "gALEF MAKSURA ISOLATED FORM,gYEH ISOLATED FORM,bBEH aJEEM ISOLATED FORM,dHAH b,dKHAH b",
      "dMEEM b,dALEF MAKSURA ISOLATED FORM,dYEH ISOLATED FORM,bTEH aJEEM b,dHAH b,dKHAH b",
      "dMEEM b,dALEF MAKSURA ISOLATED FORM,dYEH ISOLATED FORM,bTHEH aJEEM b,dMEEM b",
      "dALEF MAKSURA ISOLATED FORM,dYEH ISOLATED FORM,bJEEM aHAH b,dMEEM b,bHAH aJEEM b,dMEEM b",
      "bKHAH aJEEM b,dHAH b,dMEEM b,bSEEN aJEEM b,dHAH b,dKHAH b,dMEEM b,bSAD aHAH b,dMEEM b",
      "bDAD aJEEM b,dHAH b,dKHAH b,dMEEM b,bTAH aHAH b,dMEEM b,bZAH d,bAIN aJEEM b,dMEEM b",
      "bGHAIN aJEEM b,dMEEM b,bFEH aJEEM b,dHAH b,dKHAH b,dMEEM b,dALEF MAKSURA ISOLATED FORM",
      "dYEH ISOLATED FORM,bQAF aHAH b,dMEEM b,dALEF MAKSURA ISOLATED FORM,dYEH ISOLATED FORM",
      "bKAF aALEF b,dJEEM b,dHAH b,dKHAH b,dLAM b,dMEEM b,dALEF MAKSURA ISOLATED FORM",
      "dYEH ISOLATED FORM,bLAM aJEEM b,dHAH b,dKHAH b,dMEEM b,dALEF MAKSURA ISOLATED FORM",
      "dYEH ISOLATED FORM,bMEEM aJEEM b,dHAH b,dKHAH b,dMEEM b,dALEF MAKSURA ISOLATED FORM",
      "dYEH ISOLATED FORM,bNOON aJEEM b,dHAH b,dKHAH b,dMEEM b,dALEF MAKSURA ISOLATED FORM",
      "dYEH ISOLATED FORM,bHEH aJEEM b,dMEEM b,dALEF MAKSURA ISOLATED FORM,dYEH ISOLATED FORM",
      "bYEH aJEEM b,dHAH b,dKHAH b,dMEEM b,dALEF MAKSURA ISOLATED FORM,dYEH ISOLATED FORM",
      "bTHAL aSUPERSCRIPT ALEF ISOLATED FORM,bREH e",
      "bALEF MAKSURA WITH SUPERSCRIPT ALEF ISOLATED FORM,bSHADDA WITH DAMMATAN ISOLATED FORM",
      "dKASRATAN b,dFATHA b,dDAMMA b,dKASRA b,dSUPERSCRIPT ALEF ISOLATED FORM",
      "bYEH aHAMZA ABOVE WITH REH FINAL FORM,gZAIN b,gMEEM b,gNOON b,gALEF MAKSURA FINAL FORM",
      "gYEH FINAL FORM,bBEH aREH FINAL FORM,dZAIN b,dMEEM b,dNOON b,dALEF MAKSURA FINAL FORM",
      "dYEH FINAL FORM,bTEH aREH b,dZAIN b,dMEEM b,dNOON b,dALEF MAKSURA FINAL FORM",
      "dYEH FINAL FORM,bTHEH aREH b,dZAIN b,dMEEM b,dNOON b,dALEF MAKSURA FINAL FORM",
      "dYEH FINAL FORM,bFEH aALEF MAKSURA FINAL FORM,dYEH FINAL FORM",
      "bQAF aALEF MAKSURA FINAL FORM,dYEH FINAL FORM,bKAF aALEF b,dLAM b,dMEEM b",
      "dALEF MAKSURA FINAL FORM,dYEH FINAL FORM,bLAM aMEEM b,dALEF MAKSURA FINAL FORM",
      "dYEH FINAL FORM,bMEEM aALEF b,dMEEM b,bNOON aREH b,dZAIN b,dMEEM b,dNOON b",
      "dALEF MAKSURA FINAL FORM,dYEH FINAL FORM,bALEF MAKSURA WITH SUPERSCRIPT ALEF FINAL FORM",
      "bYEH WITH REH FINAL FORM,dZAIN b,dMEEM b,dNOON b,dALEF MAKSURA FINAL FORM,dYEH FINAL FORM",
      "dHAMZA ABOVE WITH JEEM INITIAL FORM,gHAH b,gKHAH b,gMEEM b,gHEH b,bBEH aJEEM INITIAL FORM",
      "dHAH b,dKHAH b,dMEEM b,dHEH b,bTEH aJEEM b,dHAH b,dKHAH b,dMEEM b,dHEH b,bTHEH aMEEM b",
      "bJEEM aHAH b,dMEEM b,bHAH aJEEM b,dMEEM b,bKHAH aJEEM b,dMEEM b,bSEEN aJEEM b,dHAH b",
      "dKHAH b,dMEEM b,bSAD aHAH b,dKHAH b,dMEEM b,bDAD aJEEM b,dHAH b,dKHAH b,dMEEM b",
      "bTAH aHAH b,bZAH aMEEM b,bAIN aJEEM b,dMEEM b,bGHAIN aJEEM b,dMEEM b,bFEH aJEEM b,dHAH b",
      "dKHAH b,dMEEM b,bQAF aHAH b,dMEEM b,bKAF aJEEM b,dHAH b,dKHAH b,dLAM b,dMEEM b",
      "bLAM aJEEM b,dHAH b,dKHAH b,dMEEM b,dHEH b,bMEEM aJEEM b,dHAH b,dKHAH b,dMEEM b",
      "bNOON aJEEM b,dHAH b,dKHAH b,dMEEM b,dHEH b,bHEH aJEEM b,dMEEM b",
      "dSUPERSCRIPT ALEF INITIAL FORM,bYEH aJEEM INITIAL FORM,dHAH b,dKHAH b,dMEEM b,dHEH b",
      "dHAMZA ABOVE WITH MEEM MEDIAL FORM,gHEH b,bBEH aMEEM MEDIAL FORM,dHEH b,bTEH aMEEM b",
      "dHEH b,bTHEH aMEEM b,dHEH b,bSEEN aMEEM b,dHEH b,bSHEEN aMEEM b,dHEH b,bKAF aLAM b",
      "dMEEM b,bLAM d,bNOON d,dHEH b,bYEH aMEEM b,dHEH b,bSHADDA aFATHA b,dDAMMA b,dKASRA b",
      "bTAH aALEF MAKSURA ISOLATED FORM,dYEH ISOLATED FORM,bAIN aALEF MAKSURA ISOLATED FORM",
      "dYEH ISOLATED FORM,bGHAIN aALEF MAKSURA ISOLATED FORM,dYEH ISOLATED FORM",
      "bSEEN aALEF MAKSURA ISOLATED FORM,dYEH ISOLATED FORM,bSHEEN aALEF MAKSURA ISOLATED FORM",
      "dYEH ISOLATED FORM,bHAH aALEF MAKSURA ISOLATED FORM"]⟩,
    ⟨0xFD00, ["ARABIC LIGATURE HAH WITH YEH ISOLATED FORM,bJEEM aALEF MAKSURA ISOLATED FORM",
      "dYEH ISOLATED FORM,bKHAH aALEF MAKSURA ISOLATED FORM,dYEH ISOLATED FORM",
      "bSAD aALEF MAKSURA ISOLATED FORM,dYEH ISOLATED FORM,bDAD aALEF MAKSURA ISOLATED FORM",
      "dYEH ISOLATED FORM,bSHEEN aJEEM b,dHAH b,dKHAH b,dMEEM b,dREH b,bSEEN d,bSAD d,bDAD d",
      "bTAH aALEF MAKSURA FINAL FORM,dYEH FINAL FORM,bAIN aALEF MAKSURA FINAL FORM",
      "dYEH FINAL FORM,bGHAIN aALEF MAKSURA FINAL FORM,dYEH FINAL FORM",
      "bSEEN aALEF MAKSURA FINAL FORM,dYEH FINAL FORM,bSHEEN aALEF MAKSURA FINAL FORM",
      "dYEH FINAL FORM,bHAH aALEF MAKSURA FINAL FORM,dYEH FINAL FORM",
      "bJEEM aALEF MAKSURA FINAL FORM,dYEH FINAL FORM,bKHAH aALEF MAKSURA FINAL FORM",
      "dYEH FINAL FORM,bSAD aALEF MAKSURA FINAL FORM,dYEH FINAL FORM",
      "bDAD aALEF MAKSURA FINAL FORM,dYEH FINAL FORM,bSHEEN aJEEM b,dHAH b,dKHAH b,dMEEM b",
      "dREH b,bSEEN d,bSAD d,bDAD d,bSHEEN aJEEM INITIAL a,dHAH b,dKHAH b,dMEEM b,bSEEN aHEH b",
      "bSHEEN d,bTAH aMEEM b,bSEEN aJEEM MEDIAL a,dHAH b,dKHAH b,bSHEEN aJEEM b,dHAH b,dKHAH b",
      "bTAH aMEEM b,bZAH d,bALEF aFATHATAN FINAL a,eISOLATED a,ORNATE LEFT PARENTHESIS,aRIGHT a",
      "ARABIC LIGATURE RAHIMAHU ALLAAH,bRADI ALLAAHU ANH,dANHAA,dANHUM,dANHUMAA,dANHUNNA",
      "bSALLALLAAHU ALAYHI WA-AALIH,bALAYHI AS-SALAAM,bALAYHIM b,bALAYHIMAA b",
      "bALAYHI aSALAATU WAS-SALAAM,bQUDDISA SIRRAH,bSALLALLAHU ALAYHI WAAALIHEE WA-SALLAM",
      "bALAYHAA AS-SALAAM,bTABAARAKA WA-TAAALAA,bRAHIMAHUM ALLAAH",
      "bTEH WITH JEEM WITH MEEM INITIAL FORM,dHAH aJEEM FINAL a,gINITIAL a,fMEEM b,dKHAH d",
      "dMEEM aJEEM b,fHAH b,fKHAH b,bJEEM cHAH FINAL a,gINITIAL a,bHAH cYEH FINAL a",
      "fALEF MAKSURA FINAL FORM,bSEEN aHAH aJEEM INITIAL FORM,dJEEM aHAH b",
      "fALEF MAKSURA FINAL FORM,dMEEM aHAH FINAL FORM,gINITIAL a,fJEEM b,fMEEM FINAL a",
      "gINITIAL a,bSAD aHAH aHAH FINAL a,gINITIAL a,dMEEM aMEEM FINAL a,bSHEEN aHAH d,gINITIAL a",
      "dJEEM aYEH FINAL a,dMEEM aKHAH b,gINITIAL a,fMEEM FINAL a,gINITIAL a",
      "bDAD aHAH aALEF MAKSURA FINAL FORM,dKHAH aMEEM FINAL FORM,gINITIAL a",
      "bTAH aMEEM aHAH FINAL a,gINITIAL a,fMEEM b,fYEH FINAL a,bAIN aJEEM aMEEM b,dMEEM d",
      "gINITIAL a,fALEF MAKSURA FINAL FORM,bGHAIN cMEEM FINAL FORM,fYEH b",
      "fALEF MAKSURA FINAL FORM,bFEH aKHAH aMEEM FINAL FORM,gINITIAL a,bQAF aMEEM aHAH FINAL a",
      "fMEEM b,bLAM aHAH d,fYEH b,fALEF MAKSURA FINAL FORM,dJEEM aJEEM INITIAL FORM,gFINAL a",
      "dKHAH aMEEM b,gINITIAL a,dMEEM aHAH FINAL a,gINITIAL a,bMEEM aHAH aJEEM b,fMEEM b",
      "fYEH FINAL a,dJEEM aHAH INITIAL a,fMEEM b,dKHAH aJEEM b,fMEEM b,,,dJEEM aKHAH b",
      "bHEH aMEEM aJEEM b,fMEEM b,bNOON aHAH d,fALEF MAKSURA FINAL FORM,dJEEM aMEEM FINAL FORM",
      "gINITIAL a,fALEF MAKSURA FINAL FORM,dMEEM aYEH FINAL FORM,fALEF MAKSURA FINAL FORM",
      "bYEH cMEEM FINAL FORM,gINITIAL a,bBEH aKHAH aYEH FINAL a,bTEH aJEEM d",
      "fALEF MAKSURA FINAL FORM,dKHAH aYEH FINAL FORM,fALEF MAKSURA FINAL FORM",
      "dMEEM aYEH FINAL FORM,fALEF MAKSURA FINAL FORM,bJEEM cYEH FINAL FORM",
      "dHAH aALEF MAKSURA FINAL FORM,dMEEM e,bSEEN aKHAH e,bSAD aHAH aYEH FINAL FORM,bSHEEN f",
      "bDAD f,bLAM aJEEM d,dMEEM d,bYEH aHAH d,dJEEM d,dMEEM d,bMEEM f,bQAF f,bNOON aHAH d",
      "bQAF aMEEM aHAH INITIAL a,bLAM aHAH aMEEM b,bAIN aMEEM aYEH FINAL a,bKAF f",
      "bNOON aJEEM aHAH INITIAL a,bMEEM aKHAH aYEH FINAL a,bLAM aJEEM aMEEM INITIAL a",
      "bKAF aMEEM bFINAL a,bLAM aJEEM d,bNOON cHAH b,bJEEM aHAH aYEH b,bHAH aJEEM d,bMEEM f",
      "bFEH aMEEM d,bBEH aHAH d,bKAF aMEEM aMEEM INITIAL a,bAIN aJEEM d,bSAD aMEEM d",
      "bSEEN aKHAH aYEH FINAL a,bNOON aJEEM d"]⟩,
    ⟨0xFDCF, ["ARABIC LIGATURE SALAAMUHU ALAYNAA"]⟩,
    ⟨0xFDF0, ["ARABIC LIGATURE SALLA USED AS KORANIC STOP SIGN ISOLATED FORM,bQALA g",
      "bALLAH ISOLATED FORM,bAKBAR b,bMOHAMMAD b,bSALAM b,bRASOUL b,bALAYHE b,bWASALLAM b",
      "bSALLA b,bSALLALLAHOU ALAYHE WASALLAM,bJALLAJALALOUHOU,RIAL SIGN",
      "ARABIC LIGATURE BISMILLAH AR-RAHMAN AR-RAHEEM,bSUBHAANAHU WA TAAALAA,bAZZA aJALL"]⟩,
    ⟨0xFE00, ["VARIATION SELECTOR-1,15,PRESENTATION FORM FOR VERTICAL COMMA",
      "dIDEOGRAPHIC COMMA,eFULL STOP,dCOLON,dSEMICOLON,dEXCLAMATION MARK,dQUESTION a",
      "dLEFT WHITE LENTICULAR BRACKET,dRIGHT bBRAKCET,dHORIZONTAL ELLIPSIS"]⟩,
    ⟨0xFE20, ["COMBINING LIGATURE LEFT HALF,bRIGHT a,aDOUBLE TILDE LEFT HALF,cRIGHT a",
      "aMACRON LEFT HALF,bRIGHT a,aCONJOINING MACRON,aLIGATURE LEFT HALF BELOW,bRIGHT b",
      "aTILDE LEFT b,bRIGHT b,aMACRON LEFT b,bRIGHT b,aCONJOINING MACRON BELOW",
      "aCYRILLIC TITLO LEFT HALF,cRIGHT a,PRESENTATION FORM FOR VERTICAL TWO DOT LEADER,dEM DASH",
      "dEN a,dLOW LINE,dWAVY LOW LINE,dLEFT PARENTHESIS,dRIGHT a,dLEFT CURLY BRACKET,dRIGHT b",
      "dLEFT TORTOISE SHELL BRACKET,dRIGHT c,dLEFT BLACK LENTICULAR a,dRIGHT c",
      "dLEFT DOUBLE ANGLE a,dRIGHT c,dLEFT ANGLE BRACKET,dRIGHT b,dLEFT CORNER a,dRIGHT b",
      "dLEFT WHITE CORNER BRACKET,dRIGHT c,SESAME DOT,WHITE SESAME DOT",
      "PRESENTATION FORM FOR VERTICAL LEFT SQUARE BRACKET,dRIGHT b,DASHED OVERLINE,CENTRELINE a",
      "WAVY a,DOUBLE WAVY OVERLINE,DASHED LOW LINE,CENTRELINE b,WAVY b,SMALL COMMA",
      "aIDEOGRAPHIC COMMA,aFULL STOP,,aSEMICOLON,aCOLON,aQUESTION MARK,aEXCLAMATION a,aEM DASH",
      "aLEFT PARENTHESIS,aRIGHT a,aLEFT CURLY BRACKET,aRIGHT b,aLEFT TORTOISE SHELL BRACKET",
      "aRIGHT c,aNUMBER SIGN,aAMPERSAND,aASTERISK,aPLUS SIGN,aHYPHEN-MINUS,aLESS-THAN SIGN",
      "aGREATER-b,aEQUALS SIGN,,aREVERSE SOLIDUS,aDOLLAR SIGN,aPERCENT a,aCOMMERCIAL AT,,,,",
      "ARABIC FATHATAN ISOLATED FORM,aTATWEEL WITH FATHATAN ABOVE,aDAMMATAN ISOLATED FORM",
      "aTAIL FRAGMENT,aKASRATAN ISOLATED FORM,,aFATHA b,bMEDIAL a,aDAMMA ISOLATED a,bMEDIAL a",
      "aKASRA ISOLATED a,bMEDIAL a,aSHADDA ISOLATED a,bMEDIAL a,aSUKUN ISOLATED a,bMEDIAL a",
      "aLETTER HAMZA ISOLATED FORM,bALEF WITH MADDA ABOVE ISOLATED FORM,fFINAL a",
      "dHAMZA aISOLATED a,fFINAL a,bWAW cISOLATED a,fFINAL a,bALEF bBELOW ISOLATED a,fFINAL a",
      "bYEH bABOVE ISOLATED a,fFINAL a,fINITIAL a,fMEDIAL a,bALEF ISOLATED FORM,cFINAL a",
      "bBEH ISOLATED a,cFINAL a,cINITIAL a,cMEDIAL a,bTEH MARBUTA ISOLATED FORM,dFINAL a",
      "cISOLATED FORM,cFINAL a,cINITIAL a,cMEDIAL a,bTHEH ISOLATED a,cFINAL a,cINITIAL a",
      "cMEDIAL a,bJEEM ISOLATED a,cFINAL a,cINITIAL a,cMEDIAL a,bHAH ISOLATED a,cFINAL a",
      "cINITIAL a,cMEDIAL a,bKHAH ISOLATED a,cFINAL a,cINITIAL a,cMEDIAL a,bDAL ISOLATED a",
      "cFINAL a,bTHAL ISOLATED a,cFINAL a,bREH ISOLATED a,cFINAL a,bZAIN ISOLATED a,cFINAL a",
      "bSEEN ISOLATED a,cFINAL a,cINITIAL a,cMEDIAL a,bSHEEN ISOLATED a,cFINAL a,cINITIAL a",
      "cMEDIAL a,bSAD ISOLATED a,cFINAL a,cINITIAL a,cMEDIAL a,bDAD ISOLATED a,cFINAL a",
      "cINITIAL a,cMEDIAL a,bTAH ISOLATED a,cFINAL a,cINITIAL a,cMEDIAL a,bZAH ISOLATED a",
      "cFINAL a,cINITIAL a,cMEDIAL a,bAIN ISOLATED a,cFINAL a,cINITIAL a,cMEDIAL a",
      "bGHAIN ISOLATED a,cFINAL a,cINITIAL a,cMEDIAL a,bFEH ISOLATED a,cFINAL a,cINITIAL a",
      "cMEDIAL a,bQAF ISOLATED a,cFINAL a,cINITIAL a,cMEDIAL a,bKAF ISOLATED a,cFINAL a",
      "cINITIAL a,cMEDIAL a,bLAM ISOLATED a,cFINAL a,cINITIAL a,cMEDIAL a,bMEEM ISOLATED a",
      "cFINAL a,cINITIAL a,cMEDIAL a,bNOON ISOLATED a,cFINAL a,cINITIAL a,cMEDIAL a",
      "bHEH ISOLATED a,cFINAL a,cINITIAL a,cMEDIAL a,bWAW ISOLATED a,cFINAL a",
      "bALEF MAKSURA ISOLATED FORM,dFINAL a,bYEH ISOLATED FORM,cFINAL a,cINITIAL a,cMEDIAL a",
      "aLIGATURE LAM WITH ALEF WITH MADDA ABOVE ISOLATED FORM,hFINAL a,fHAMZA aISOLATED a",
      "hFINAL a,gBELOW ISOLATED a,hFINAL a,eISOLATED FORM,eFINAL a,,,ZERO WIDTH NO-BREAK SPACE"]⟩,
    ⟨0xFF01, ["FULLWIDTH EXCLAMATION MARK,aQUOTATION a,aNUMBER SIGN,aDOLLAR a,aPERCENT a",
      "aAMPERSAND,aAPOSTROPHE,aLEFT PARENTHESIS,aRIGHT a,aASTERISK,aPLUS SIGN,aCOMMA",
      "aHYPHEN-MINUS,aFULL STOP,aSOLIDUS,aDIGIT ZERO,bONE,bTWO,bTHREE,bFOUR,bFIVE,bSIX,bSEVEN",
      "bEIGHT,bNINE,aCOLON,aSEMICOLON,aLESS-THAN SIGN,aEQUALS SIGN,aGREATER-THAN SIGN",
      "aQUESTION MARK,aCOMMERCIAL AT,aLATIN CAPITAL LETTER A,25,aLEFT SQUARE BRACKET",
      "aREVERSE SOLIDUS,aRIGHT SQUARE BRACKET,aCIRCUMFLEX ACCENT,aLOW LINE,aGRAVE ACCENT",
      "aLATIN SMALL LETTER A,25,aLEFT CURLY BRACKET,aVERTICAL LINE,aRIGHT CURLY BRACKET,aTILDE",
      "aLEFT WHITE PARENTHESIS,aRIGHT b,HALFWIDTH IDEOGRAPHIC FULL STOP,aLEFT CORNER BRACKET",
      "aRIGHT b,aIDEOGRAPHIC COMMA,aKATAKANA MIDDLE DOT,bLETTER WO,cSMALL A,dI,dU,dE,dO,dYA,dYU",
      "dYO,dTU,aKATAKANA-HIRAGANA PROLONGED SOUND MARK,aKATAKANA LETTER A,cI,cU,cE,cO,cKA,cKI",
      "cKU,cKE,cKO,cSA,cSI,cSU,cSE,cSO,cTA,cTI,cTU,cTE,cTO,cNA,cNI,cNU,cNE,cNO,cHA,cHI,cHU,cHE",
      "cHO,cMA,cMI,cMU,cME,cMO,cYA,cYU,cYO,cRA,cRI,cRU,cRE,cRO,cWA,cN,bVOICED SOUND MARK",
      "bSEMI-VOICED SOUND MARK,aHANGUL FILLER,bLETTER KIYEOK,cSSANGKIYEOK,cKIYEOK-SIOS,cNIEUN",
      "cNIEUN-CIEUC,dHIEUH,cTIKEUT,cSSANGTIKEUT,cRIEUL,cRIEUL-KIYEOK,dMIEUM,dPIEUP,dSIOS",
      "dTHIEUTH,dPHIEUPH,dHIEUH,cMIEUM,cPIEUP,cSSANGPIEUP,cPIEUP-SIOS,cSIOS,cSSANGSIOS,cIEUNG",
      "cCIEUC,cSSANGCIEUC,cCHIEUCH,cKHIEUKH,cTHIEUTH,cPHIEUPH,cHIEUH,,,,cA,cAE,cYA,cYAE,cEO,cE,,",
      "cYEO,cYE,cO,cWA,cWAE,cOE,,,cYO,cU,cWEO,cWE,cWI,cYU,,,cEU,cYI,cI,,,,FULLWIDTH CENT SIGN",
      "aPOUND a,aNOT a,aMACRON,aBROKEN BAR,aYEN SIGN,aWON a,,HALFWIDTH FORMS LIGHT VERTICAL",
      "aLEFTWARDS ARROW,aUPWARDS a,aRIGHTWARDS a,aDOWNWARDS a,aBLACK SQUARE,aWHITE CIRCLE"]⟩,
    ⟨0xFFF9, ["INTERLINEAR ANNOTATION ANCHOR,bSEPARATOR,bTERMINATOR",
      "OBJECT REPLACEMENT CHARACTER,REPLACEMENT CHARACTER"]⟩]

end CharacterName

end DartComments
