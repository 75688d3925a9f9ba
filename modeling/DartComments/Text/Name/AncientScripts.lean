import DartComments.Text.Name.Row

/-!
# Names of the signs of old scripts

The names of letters and signs of scripts that are out of use or rare, from `10000` to `1CEFF`.
-/

namespace DartComments

namespace CharacterName

set_option maxRecDepth 4000 in
/-- The names from `10000` to `1CEFF`. -/
def ancientScripts : List Row :=
  [⟨0x10000, ["LINEAR B SYLLABLE B008 A,cB038 E,cB028 I,cB061 O,cB010 U,cB001 DA,cB045 DE",
      "cB007 DI,cB014 DO,cB051 DU,cB057 JA,cB046 JE,,cB036 JO,cB065 JU,cB077 KA,cB044 KE",
      "cB067 KI,cB070 KO,cB081 KU,cB080 MA,cB013 ME,cB073 MI,cB015 MO,cB023 MU,cB006 NA,cB024 NE",
      "cB030 NI,cB052 NO,cB055 NU,cB003 PA,cB072 PE,cB039 PI,cB011 PO,cB050 PU,cB016 QA,cB078 QE",
      "cB021 QI,cB032 QO,,cB060 RA,cB027 RE,cB053 RI,cB002 RO,cB026 RU,cB031 SA,cB009 SE",
      "cB041 SI,cB012 SO,cB058 SU,cB059 TA,cB004 TE,cB037 TI,cB005 TO,cB069 TU,cB054 WA,cB075 WE",
      "cB040 WI,cB042 WO,,cB017 ZA,cB074 ZE,,cB020 ZO,cB025 A2,cB043 A3,cB085 AU,cB071 DWE",
      "cB090 DWO,cB048 NWA,cB029 PU2,cB062 PTE,cB076 RA2,cB033 RA3,cB068 RO2,cB066 TA2,cB087 TWE",
      "cB091 TWO,,,bSYMBOL B018,1,cB022,cB034,cB047,cB049,cB056,cB063,1,cB079,cB082,1,cB086",
      "cB089"]⟩,
    ⟨0x10080, ["LINEAR B IDEOGRAM B100 MAN,cB102 WOMAN,cB104 DEER,cB105 EQUID,cB105F MARE",
      "cB105M STALLION,cB106F EWE,cB106M RAM,cB107F SHE-GOAT,cB107M HE-a,cB108F SOW,cB108M BOAR",
      "cB109F COW,cB109M BULL,cB120 WHEAT,cB121 BARLEY,cB122 OLIVE,cB123 SPICE,cB125 CYPERUS",
      "bMONOGRAM B127 KAPO,cB128 KANAKO,bIDEOGRAM B130 OIL,cB131 WINE,cB132,bMONOGRAM B133 AREPA",
      "cB135 MERI,bIDEOGRAM B140 BRONZE,cB141 GOLD,cB142,cB145 WOOL,cB146,cB150,cB151 HORN,cB152",
      "2,bMONOGRAM B156 TURO2,bIDEOGRAM B157,1,cB159 CLOTH,cB160,1,cB162 GARMENT,cB163 ARMOUR",
      "cB164,8,cB173 MONTH,cB174,cB176 TREE,cB177,8,cB189,1,cB191 HELMET,cB220 FOOTSTOOL",
      "cB225 BATHTUB,cB230 SPEAR,cB231 ARROW,cB232,cB233 SWORD,cB234,cB236,cB240 WHEELED CHARIOT",
      "cB241 CHARIOT,cB242 CHARIOT FRAME,cB243 WHEEL,cB245,1,bMONOGRAM B247 DIPTE,bIDEOGRAM B248",
      "1,cB251,2,cB254 DART,cB255,4,cVESSEL B155,dB200,19,dB221,1,dB226,3,dB250,dB305"]⟩,
    ⟨0x10100, ["AEGEAN WORD SEPARATOR LINE,cDOT,aCHECK MARK,,,,,aNUMBER ONE,bTWO,bTHREE,bFOUR",
      "bFIVE,bSIX,bSEVEN,bEIGHT,bNINE,bTEN,bTWENTY,bTHIRTY,bFORTY,bFIFTY,bSIXTY,bSEVENTY,bEIGHTY",
      "bNINETY,bONE HUNDRED,bTWO a,bTHREE a,bFOUR a,bFIVE a,bSIX a,bSEVEN a,bEIGHT a,bNINE a",
      "bONE THOUSAND,bTWO a,bTHREE a,bFOUR a,bFIVE a,bSIX a,bSEVEN a,bEIGHT a,bNINE a,bTEN a",
      "bTWENTY a,bTHIRTY a,bFORTY a,bFIFTY a,bSIXTY a,bSEVENTY a,bEIGHTY a,bNINETY a,,,",
      "aWEIGHT BASE UNIT,bFIRST SUBUNIT,bSECOND a,bTHIRD a,bFOURTH a,aDRY MEASURE FIRST SUBUNIT",
      "aLIQUID c,aMEASURE SECOND SUBUNIT,bTHIRD a,GREEK ACROPHONIC ATTIC ONE QUARTER,dHALF",
      "dDRACHMA,cFIVE,cFIFTY,cFIVE HUNDRED,dTHOUSAND,cFIFTY a,cFIVE TALENTS,cTEN a,cFIFTY a",
      "cONE HUNDRED TALENTS,cFIVE b,cONE THOUSAND a,cFIVE b,dSTATERS,cTEN a,cFIFTY a",
      "cONE HUNDRED STATERS,cFIVE b,cONE THOUSAND a,cTEN b,cFIFTY b,cTEN MNAS",
      "bHERAEUM ONE PLETHRON,bTHESPIAN ONE,bHERMIONIAN a,bEPIDAUREAN TWO,bTHESPIAN a",
      "bCYRENAIC TWO DRACHMAS,bEPIDAUREAN b,bTROEZENIAN FIVE,cTEN,cTEN ALTERNATE FORM",
      "bHERMIONIAN TEN,bMESSENIAN a,bTHESPIAN a,cTHIRTY,bTROEZENIAN FIFTY,cFIFTY ALTERNATE FORM",
      "bHERMIONIAN FIFTY,bTHESPIAN a,cONE HUNDRED,cTHREE a,bEPIDAUREAN FIVE a,bTROEZENIAN b",
      "bTHESPIAN b,bCARYSTIAN b,bNAXIAN b,bTHESPIAN ONE THOUSAND,cFIVE a,bDELPHIC aMNAS",
      "bSTRATIAN FIFTY a,aONE HALF SIGN,cSIGN ALTERNATE FORM,aTWO THIRDS SIGN,aTHREE QUARTERS a",
      "aYEAR SIGN,aTALENT a,aDRACHMA a,aOBOL a,aTWO OBOLS SIGN,aTHREE b,aFOUR b,aFIVE b",
      "aMETRETES SIGN,aKYATHOS BASE SIGN,aLITRA SIGN,aOUNKIA a,aXESTES a,aARTABE a,aAROURA a",
      "aGRAMMA a,aTRYBLION BASE SIGN,aZERO SIGN,aONE QUARTER SIGN,aSINUSOID SIGN,aINDICTION a",
      "NOMISMA SIGN,,ROMAN SEXTANS SIGN,aUNCIA a,aSEMUNCIA a,aSEXTULA a,aDIMIDIA SEXTULA SIGN",
      "aSILIQUA SIGN,aDENARIUS a,aQUINARIUS a,aSESTERTIUS a,aDUPONDIUS a,aAS a,aCENTURIAL a",
      "ASCIA SYMBOL,,,,GREEK SYMBOL TAU RHO"]⟩,
    ⟨0x101D0, ["PHAISTOS DISC SIGN PEDESTRIAN,cPLUMED HEAD,cTATTOOED a,cCAPTIVE,cCHILD,cWOMAN",
      "cHELMET,cGAUNTLET,cTIARA,cARROW,cBOW,cSHIELD,cCLUB,cMANACLES,cMATTOCK,cSAW,cLID",
      "cBOOMERANG,cCARPENTRY PLANE,cDOLIUM,cCOMB,cSLING,cCOLUMN,cBEEHIVE,cSHIP,cHORN,cHIDE",
      "cBULLS LEG,cCAT,cRAM,cEAGLE,cDOVE,cTUNNY,cBEE,cPLANE TREE,cVINE,cPAPYRUS,cROSETTE,cLILY",
      "cOX BACK,cFLUTE,cGRATER,cSTRAINER,cSMALL AXE,cWAVY BAND,cCOMBINING OBLIQUE STROKE"]⟩,
    ⟨0x10280, ["LYCIAN LETTER A,bE,bB,bBH,bG,bD,bI,bW,bZ,bTH,bJ,1,bQ,bL,2,bMM,bNN,bU,bP,bKK",
      "bR,2,bTT,bAN,bEN,bH,bX,,,,CARIAN aA,bP2,bD,bL,bUUU,bR,bLD,bA2,bQ,bB,bM,bO,bD2,bT,bSH,bSH2",
      "bS,bC-18,bU,bNN,bX,bN,bTT2,bP,bSS,bI,bE,bUUUU,bK,bK2,bND,bUU,bG,bG2,bST,bST2,bNG,bII",
      "bC-39,bTT,bUUU2,bRR,bMB,bMB2,2,bLD2,bE2,bUUU3"]⟩,
    ⟨0x102E0, ["COPTIC EPACT THOUSANDS MARK,bDIGIT ONE,cTWO,cTHREE,cFOUR,cFIVE,cSIX,cSEVEN",
      "cEIGHT,cNINE,bNUMBER TEN,cTWENTY,cTHIRTY,cFORTY,cFIFTY,cSIXTY,cSEVENTY,cEIGHTY,cNINETY",
      "cONE HUNDRED,cTWO a,cTHREE a,cFOUR a,cFIVE a,cSIX a,cSEVEN a,cEIGHT a,cNINE a"]⟩,
    ⟨0x10300, ["OLD ITALIC LETTER A,cBE,cKE,cDE,cE,cVE,cZE,cHE,cTHE,cI,cKA,cEL,2,cESH,cO,cPE",
      "cSHE,cKU,cER,1,cTE,cU,cEKS,cPHE,cKHE,cEF,cERS,cCHE,cII,cUU,cESS,bNUMERAL ONE,cFIVE,cTEN",
      "cFIFTY"]⟩,
    ⟨0x1032D, ["OLD ITALIC LETTER YE,cNORTHERN TSE,cSOUTHERN a,GOTHIC LETTER AHSA,bBAIRKAN",
      "bGIBA,bDAGS,bAIHVUS,bQAIRTHRA,bIUJA,bHAGL,bTHIUTH,bEIS,bKUSMA,bLAGUS,bMANNA,bNAUTHS,bJER",
      "bURUS,bPAIRTHRA,bNINETY,bRAIDA,bSAUIL,bTEIWS,bWINJA,bFAIHU,bIGGWS,bHWAIR,bOTHAL",
      "bNINE HUNDRED"]⟩,
    ⟨0x10350, ["OLD PERMIC LETTER AN,cBUR,cGAI,cDOI,cE,cZHOI,cDZHOI,cZATA,cDZITA,cI,cKOKE",
      "cLEI,cMENOE,cNENOE,cVOOI,cPEEI,cREI,cSII,cTAI,cU,cCHERY,cSHOOI,cSHCHOOI,cYRY,cYERU,cO,cOO",
      "cEF,cHA,cTSIU,cVER,cYER,cYERI,cYAT,cIE,cYU,cYA,cIA,COMBINING OLD PERMIC LETTER AN,dDOI",
      "dZATA,dNENOE,dSII"]⟩,
    ⟨0x10380, ["UGARITIC LETTER ALPA,bBETA,bGAMLA,bKHA,bDELTA,bHO,bWO,bZETA,bHOTA,bTET,bYOD",
      "bKAF,bSHIN,bLAMDA,bMEM,bDHAL,bNUN,bZU,bSAMKA,bAIN,bPU,bSADE,bQOPA,bRASHA,bTHANNA,bGHAIN",
      "bTO,bI,bU,bSSU,,aWORD DIVIDER,OLD PERSIAN SIGN A,cI,cU,cKA,cKU,cGA,cGU,cXA,cCA,cJA,cJI",
      "cTA,cTU,cDA,cDI,cDU,cTHA,cPA,cBA,cFA,cNA,cNU,cMA,cMI,cMU,cYA,cVA,cVI,cRA,cRU,cLA,cSA,cZA",
      "cSHA,cSSA,cHA,,,,,cAURAMAZDAA,cAURAMAZDAA-2,cAURAMAZDAAHA,cXSHAAYATHIYA,cDAHYAAUSH",
      "cDAHYAAUSH-2,cBAGA,cBUUMISH,bWORD DIVIDER,bNUMBER ONE,cTWO,cTEN,cTWENTY,cHUNDRED"]⟩,
    ⟨0x10400, ["DESERET CAPITAL LETTER LONG I,dE,dA,dAH,dO,dOO,cSHORT I,dE,dA,dAH,dO,dOO,cAY",
      "cOW,cWU,cYEE,cH,cPEE,cBEE,cTEE,cDEE,cCHEE,cJEE,cKAY,cGAY,cEF,cVEE,cETH,cTHEE,cES,cZEE",
      "cESH,cZHEE,cER,cEL,2,cENG,cOI,cEW,aSMALL aLONG I,dE,dA,dAH,dO,dOO,cSHORT I,dE,dA,dAH,dO",
      "dOO,cAY,cOW,cWU,cYEE,cH,cPEE,cBEE,cTEE,cDEE,cCHEE,cJEE,cKAY,cGAY,cEF,cVEE,cETH,cTHEE,cES",
      "cZEE,cESH,cZHEE,cER,cEL,2,cENG,cOI,cEW,SHAVIAN LETTER PEEP,bTOT,bKICK,bFEE,bTHIGH,bSO",
      "bSURE,bCHURCH,bYEA,bHUNG,bBIB,bDEAD,bGAG,bVOW,bTHEY,bZOO,bMEASURE,bJUDGE,bWOE,bHA-HA",
      "bLOLL,bMIME,bIF,bEGG,bASH,bADO,bON,bWOOL,bOUT,bAH,bROAR,bNUN,bEAT,bAGE,bICE,bUP,bOAK",
      "bOOZE,bOIL,bAWE,bARE,bOR,bAIR,bERR,bARRAY,bEAR,bIAN,bYEW,OSMANYA aALEF,bBA,bTA,bJA,bXA",
      "bKHA,bDEEL,bRA,bSA,bSHIIN,bDHA,bCAYN,bGA,bFA,bQAAF,bKAAF,bLAAN,bMIIN,bNUUN,bWAW,bHA,bYA",
      "bA,bE,bI,bO,bU,bAA,bEE,bOO,,,aDIGIT ZERO,bONE,bTWO,bTHREE,bFOUR,bFIVE,bSIX,bSEVEN,bEIGHT",
      "bNINE"]⟩,
    ⟨0x104B0, ["OSAGE CAPITAL LETTER A,cAI,cAIN,cAH,cBRA,cCHA,cEHCHA,cE,cEIN,cHA,cHYA,cI,cKA",
      "cEHKA,cKYA,cLA,cMA,cNA,cO,cOIN,cPA,cEHPA,cSA,cSHA,cTA,cEHTA,cTSA,cEHTSA,cTSHA,cDHA,cU,cWA",
      "cKHA,cGHA,cZA,cZHA,,,,,aSMALL aA,cAI,cAIN,cAH,cBRA,cCHA,cEHCHA,cE,cEIN,cHA,cHYA,cI,cKA",
      "cEHKA,cKYA,cLA,cMA,cNA,cO,cOIN,cPA,cEHPA,cSA,cSHA,cTA,cEHTA,cTSA,cEHTSA,cTSHA,cDHA,cU,cWA",
      "cKHA,cGHA,cZA,cZHA"]⟩,
    ⟨0x10500, ["ELBASAN LETTER A,bBE,bCE,bCHE,bDE,bNDE,bDHE,bEI,bE,bFE,bGE,bGJE,bHE,bI,bJE",
      "bKE,bLE,bLLE,bME,bNE,bNA,bNJE,bO,bPE,bQE,bRE,bRRE,bSE,bSHE,bTE,bTHE,bU,bVE,bXE,bY,bZE",
      "bZHE,bGHE,bGHAMMA,bKHE"]⟩,
    ⟨0x10530, ["CAUCASIAN ALBANIAN LETTER ALT,cBET,cGIM,cDAT,cEB,cZARL,cEYN,cZHIL,cTAS,cCHA",
      "cYOWD,cZHA,cIRB,cSHA,cLAN,cINYA,cXEYN,cDYAN,cCAR,cJHOX,cKAR,cLYIT,cHEYT,cQAY,cAOR,cCHOY",
      "cCHI,cCYAY,cMAQ,cQAR,cNOWC,cDZYAY,cSHAK,cJAYN,cON,cTYAY,cFAM,cDZAY,cCHAT,cPEN,cGHEYS,cRAT",
      "cSEYK,cVEYZ,cTIWR,cSHOY,cIWN,cCYAW,cCAYN,cYAYD,cPIWR,cKIW"]⟩,
    ⟨0x1056F, ["CAUCASIAN ALBANIAN CITATION MARK,VITHKUQI CAPITAL LETTER A,cBBE,cBE,cCE,cCHE",
      "cDE,cDHE,cEI,cE,cFE,cGA,,cHA,cHHA,cI,cIJE,cJE,cKA,cLA,cLLA,cME,cNE,cNJE,cO,cPE,cQA,cRE,",
      "cSE,cSHE,cTE,cTHE,cU,cVE,cXE,,cY,cZE,,aSMALL aA,cBBE,cBE,cCE,cCHE,cDE,cDHE,cEI,cE,cFE,cGA",
      ",cHA,cHHA,cI,cIJE,cJE,cKA,cLA,cLLA,cME,cNE,cNJE,cO,cPE,cQA,cRE,,cSE,cSHE,cTE,cTHE,cU,cVE",
      "cXE,,cY,cZE"]⟩,
    ⟨0x10600, ["LINEAR A SIGN AB001,10,cAB013,cAB016,1,cAB020,1,cAB021F,cAB021M,cAB022",
      "cAB022F,cAB022M,cAB023,cAB023M,cAB024,cAB026,2,cA028B,cAB029,2,cAB034,cAB037,4,cAB044,7",
      "cAB053,8,cAB065,2,cAB069,1,cAB073,1,cAB076,6,cAB085,2,cA100-102,cAB118,cAB120,cA120B",
      "cAB122,1,cAB131A,1,cA131C,cAB164,cAB171,cAB180,cAB188,cAB191,cA301,7,cA309A,2,cA310,2",
      "cA313A,2,cA314,57,cA400-VAS,cA401-a,cA402-a,cA403-a,cA404-a,cA405-a,cA406-a,cA407-a",
      "cA408-a,cA409-a,cA410-a,cA411-a,cA412-a,cA413-a,cA414-a,cA415-a,cA416-a,cA417-a,cA418-a",
      "cA501,5,cA508,5,cA515,1,cA520,1,cA523,9,cA534,8,cA545,cA547,10,cA559,cA563,3,cA568,21",
      "cA591,1,cA594"]⟩,
    ⟨0x10700, ["LINEAR A SIGN A595,1,cA598,cA600,4,cA606,cA608,16,cA626,3,cA634,cA637,1,cA640",
      "cA642,4,cA648,1,cA651,13"]⟩,
    ⟨0x10740, ["LINEAR A SIGN A701 A,cA702 B,cA703 D,cA704 E,cA705 F,cA706 H,cA707 J,cA708 K",
      "cA709 L,cA709-2 L2,d3 L3,d4 L4,d6 L6,cA710 W,cA711 X,cA712 Y,cA713 OMEGA,cA714 ABB",
      "cA715 BB,cA717 DD,cA726 EYYY,cA732 JE"]⟩,
    ⟨0x10760, ["LINEAR A SIGN A800,7"]⟩,
    ⟨0x10780, ["MODIFIER LETTER SMALL CAPITAL AA,bSUPERSCRIPT TRIANGULAR COLON",
      "cHALF TRIANGULAR COLON,bSMALL AE,cCAPITAL B,cB WITH HOOK,,cDZ DIGRAPH",
      "dDIGRAPH WITH RETROFLEX HOOK,fCURL,cDEZH DIGRAPH,cD WITH TAIL,eHOOK,eHOOK AND TAIL",
      "cREVERSED E,cCLOSED REVERSED OPEN E,cFENG DIGRAPH,cRAMS HORN,cCAPITAL G,cG WITH HOOK",
      "cCAPITAL G WITH HOOK,cH WITH STROKE,cCAPITAL H,cHENG WITH HOOK",
      "cDOTLESS J WITH STROKE AND HOOK,cLS DIGRAPH,cLZ a,cL WITH BELT,cCAPITAL L WITH BELT",
      "cL WITH RETROFLEX HOOK AND BELT,cLEZH,cLEZH WITH RETROFLEX HOOK,cTURNED Y,dY WITH BELT",
      "cO WITH STROKE,cCAPITAL OE,cCLOSED OMEGA,cQ,cTURNED R WITH LONG LEG",
      "gLEG AND RETROFLEX HOOK,cR WITH TAIL,eFISHHOOK,cCAPITAL R,cTC DIGRAPH WITH CURL",
      "cTS DIGRAPH,dDIGRAPH WITH RETROFLEX HOOK,cTESH DIGRAPH,cT WITH RETROFLEX HOOK,cV aRIGHT a",
      ",cCAPITAL Y,bGLOTTAL STOP WITH STROKE,bREVERSED GLOTTAL STOP WITH STROKE,bBILABIAL CLICK",
      "bDENTAL a,bLATERAL a,bALVEOLAR a,bRETROFLEX CLICK WITH RETROFLEX HOOK,bSMALL S aCURL"]⟩,
    ⟨0x10800, ["CYPRIOT SYLLABLE A,bE,bI,bO,bU,bJA,,,bJO,,bKA,bKE,bKI,bKO,bKU,bLA,bLE,bLI,bLO",
      "bLU,bMA,bME,bMI,bMO,bMU,bNA,bNE,bNI,bNO,bNU,bPA,bPE,bPI,bPO,bPU,bRA,bRE,bRI,bRO,bRU,bSA",
      "bSE,bSI,bSO,bSU,bTA,bTE,bTI,bTO,bTU,bWA,bWE,bWI,bWO,,bXA,bXE,,,,bZA,,,bZO",
      "IMPERIAL ARAMAIC LETTER ALEPH,cBETH,cGIMEL,cDALETH,cHE,cWAW,cZAYIN,cHETH,cTETH,cYODH",
      "cKAPH,cLAMEDH,cMEM,cNUN,cSAMEKH,cAYIN,cPE,cSADHE,cQOPH,cRESH,cSHIN,cTAW,,bSECTION SIGN",
      "bNUMBER ONE,cTWO,cTHREE,cTEN,cTWENTY,cONE HUNDRED,dTHOUSAND,cTEN a,PALMYRENE LETTER ALEPH",
      "bBETH,bGIMEL,bDALETH,bHE,bWAW,bZAYIN,bHETH,bTETH,bYODH,bKAPH,bLAMEDH,bMEM,bFINAL NUN,bNUN",
      "bSAMEKH,bAYIN,bPE,bSADHE,bQOPH,bRESH,bSHIN,bTAW,aLEFT-POINTING FLEURON,aRIGHT-b",
      "aNUMBER ONE,bTWO,bTHREE,bFOUR,bFIVE,bTEN,bTWENTY,NABATAEAN LETTER FINAL ALEPH,bALEPH",
      "bFINAL BETH,bBETH,bGIMEL,bDALETH,bFINAL HE,bHE,bWAW,bZAYIN,bHETH,bTETH,bFINAL YODH,bYODH",
      "bFINAL KAPH,bKAPH,bFINAL LAMEDH,bLAMEDH,bFINAL MEM,bMEM,bFINAL NUN,bNUN,bSAMEKH,bAYIN,bPE",
      "bSADHE,bQOPH,bRESH,bFINAL SHIN,bSHIN,bTAW"]⟩,
    ⟨0x108A7, ["NABATAEAN NUMBER ONE,bTWO,bTHREE,bFOUR,aCRUCIFORM NUMBER FOUR,aNUMBER FIVE",
      "bTEN,bTWENTY,bONE HUNDRED"]⟩,
    ⟨0x108E0, ["HATRAN LETTER ALEPH,bBETH,bGIMEL,bDALETH-RESH,bHE,bWAW,bZAYN,bHETH,bTETH",
      "bYODH,bKAPH,bLAMEDH,bMEM,bNUN,bSAMEKH,bAYN,bPE,bSADHE,bQOPH,,bSHIN,bTAW"]⟩,
    ⟨0x108FB, ["HATRAN NUMBER ONE,bFIVE,bTEN,bTWENTY,bONE HUNDRED"]⟩,
    ⟨0x10900, ["PHOENICIAN LETTER ALF,bBET,bGAML,bDELT,bHE,bWAU,bZAI,bHET,bTET,bYOD,bKAF",
      "bLAMD,bMEM,bNUN,bSEMK,bAIN,bPE,bSADE,bQOF,bROSH,bSHIN,bTAU,aNUMBER ONE,bTEN,bTWENTY",
      "bONE HUNDRED,bTWO,bTHREE,,,,aWORD SEPARATOR,LYDIAN LETTER A,1,bG,bD,1,bV,bI,bY,bK,4,bR",
      "bSS,bT,1,bF,bQ,bS,bTT,bAN,bEN,bLY,bNN,bC"]⟩,
    ⟨0x1093F, ["LYDIAN TRIANGULAR MARK"]⟩,
    ⟨0x10980, ["MEROITIC HIEROGLYPHIC LETTER A,cE,cI,cO,cYA,cWA,cBA,cBA-2,cPA,cMA,cNA,cNA-2",
      "cNE,cNE-2,cRA,cRA-2,cLA,cKHA,cHHA,cSA,cSA-2,cSE,cKA,cQA,cTA,cTA-2,cTE,cTE-2,cTO,cDA",
      "bSYMBOL VIDJ,cVIDJ-2,aCURSIVE LETTER A,cE,cI,cO,cYA,cWA,cBA,cPA,cMA,cNA,cNE,cRA,cLA,cKHA",
      "cHHA,cSA,cARCHAIC SA,cSE,cKA,cQA,cTA,cTE,cTO,cDA,,,,,bFRACTION ELEVEN TWELFTHS,cONE HALF",
      "bLOGOGRAM RMT,cIMN,bNUMBER ONE,cTWO,cTHREE,cFOUR,cFIVE,cSIX,cSEVEN,cEIGHT,cNINE,cTEN",
      "cTWENTY,cTHIRTY,cFORTY,cFIFTY,cSIXTY,cSEVENTY,,,cONE HUNDRED,cTWO a,cTHREE a,cFOUR a",
      "cFIVE a,cSIX a,cSEVEN a,cEIGHT a,cNINE a,cONE THOUSAND,cTWO a,cTHREE a,cFOUR a,cFIVE a",
      "cSIX a,cSEVEN a,cEIGHT a,cNINE a,cTEN a,cTWENTY a,cTHIRTY a,cFORTY a,cFIFTY a,cSIXTY a",
      "cSEVENTY a,cEIGHTY a,cNINETY a,cONE HUNDRED THOUSAND,cTWO b,cTHREE b,cFOUR b,cFIVE b",
      "cSIX b,cSEVEN b,cEIGHT b,cNINE b,bFRACTION ONE TWELFTH,cTWO TWELFTHS,cTHREE a,cFOUR a",
      "cFIVE a,cSIX a,cSEVEN a,cEIGHT a,cNINE a,cTEN a"]⟩,
    ⟨0x10A00, ["KHAROSHTHI LETTER A,aVOWEL SIGN I,cU,cVOCALIC R,,cE,cO"]⟩,
    ⟨0x10A0C, ["KHAROSHTHI VOWEL LENGTH MARK,aSIGN DOUBLE RING BELOW,bANUSVARA,bVISARGA",
      "aLETTER KA,bKHA,bGA,bGHA,,bCA,bCHA,bJA,,bNYA,bTTA,bTTHA,bDDA,bDDHA,bNNA,bTA,bTHA,bDA,bDHA",
      "bNA,bPA,bPHA,bBA,bBHA,bMA,bYA,bRA,bLA,bVA,bSHA,bSSA,bSA,bZA,bHA,bKKA,bTTTHA,bTTTA,bVHA,,",
      "aSIGN BAR ABOVE,bCAUDA,bDOT BELOW,,,,,aVIRAMA,aDIGIT ONE,bTWO,bTHREE,bFOUR,aNUMBER TEN",
      "bTWENTY,bONE HUNDRED,cTHOUSAND,aFRACTION aHALF"]⟩,
    ⟨0x10A50, ["KHAROSHTHI PUNCTUATION DOT,bSMALL CIRCLE,bCIRCLE,bCRESCENT BAR,bMANGALAM",
      "bLOTUS,bDANDA,bDOUBLE DANDA,bLINES"]⟩,
    ⟨0x10A60, ["OLD SOUTH ARABIAN LETTER HE,dLAMEDH,dHETH,dMEM,dQOPH,dWAW,dSHIN,dRESH,dBETH",
      "dTAW,dSAT,dKAPH,dNUN,dKHETH,dSADHE,dSAMEKH,dFE,dALEF,dAYN,dDHADHE,dGIMEL,dDALETH,dGHAYN",
      "dTETH,dZAYN,dDHALETH,dYODH,dTHAW,dTHETH,cNUMBER ONE,dFIFTY,cNUMERIC INDICATOR",
      "aNORTH aLETTER HEH,dLAM,dHAH,dMEEM,dQAF,dWAW,dES-2,dREH,dBEH,dTEH,dES-1,dKAF,dNOON,dKHAH",
      "dSAD,dES-3,dFEH,dALEF,dAIN,dDAD,dGEEM,dDAL,dGHAIN,dTAH,dZAIN,dTHAL,dYEH,dTHEH,dZAH",
      "cNUMBER ONE,dTEN,dTWENTY"]⟩,
    ⟨0x10AC0, ["MANICHAEAN LETTER ALEPH,bBETH,bBHETH,bGIMEL,bGHIMEL,bDALETH,bHE,bWAW,aSIGN UD",
      "aLETTER ZAYIN,bZHAYIN,bJAYIN,bJHAYIN,bHETH,bTETH,bYODH,bKAPH,bXAPH,bKHAPH,bLAMEDH",
      "bDHAMEDH,bTHAMEDH,bMEM,bNUN,bSAMEKH,bAYIN,bAAYIN,bPE,bFE,bSADHE,bQOPH,bXOPH,bQHOPH,bRESH",
      "bSHIN,bSSHIN,bTAW,aABBREVIATION MARK ABOVE,cBELOW,,,,,aNUMBER ONE,bFIVE,bTEN,bTWENTY",
      "bONE HUNDRED,aPUNCTUATION STAR,bFLEURON,bDOUBLE DOT WITHIN DOT,bDOT WITHIN DOT,bDOT",
      "bTWO DOTS,bLINE FILLER"]⟩,
    ⟨0x10B00, ["AVESTAN LETTER A,bAA,bAO,bAAO,bAN,bAAN,bAE,bAEE,bE,bEE,bO,bOO,bI,bII,bU,bUU",
      "bKE,bXE,bXYE,bXVE,bGE,bGGE,bGHE,bCE,bJE,bTE,bTHE,bDE,bDHE,bTTE,bPE,bFE,bBE,bBHE,bNGE",
      "bNGYE,bNGVE,bNE,bNYE,bNNE,bME,bHME,bYYE,bYE,bVE,bRE,bLE,bSE,bZE,bSHE,bZHE,bSHYE,bSSHE,bHE",
      ",,,aABBREVIATION MARK,TINY TWO DOTS OVER ONE DOT PUNCTUATION,SMALL f,LARGE f",
      "aONE DOT aTWO DOTS a,aTWO RINGS aONE RING a,aONE RING aTWO RINGS a",
      "INSCRIPTIONAL PARTHIAN LETTER ALEPH,cBETH,cGIMEL,cDALETH,cHE,cWAW,cZAYIN,cHETH,cTETH",
      "cYODH,cKAPH,cLAMEDH,cMEM,cNUN,cSAMEKH,cAYIN,cPE,cSADHE,cQOPH,cRESH,cSHIN,cTAW,,",
      "bNUMBER ONE,cTWO,cTHREE,cFOUR,cTEN,cTWENTY,cONE HUNDRED,dTHOUSAND,aPAHLAVI LETTER ALEPH",
      "cBETH,cGIMEL,cDALETH,cHE,cWAW-AYIN-RESH,cZAYIN,cHETH,cTETH,cYODH,cKAPH,cLAMEDH,cMEM-QOPH",
      "cNUN,cSAMEKH,cPE,cSADHE,cSHIN,cTAW"]⟩,
    ⟨0x10B78, ["INSCRIPTIONAL PAHLAVI NUMBER ONE,cTWO,cTHREE,cFOUR,cTEN,cTWENTY,cONE HUNDRED",
      "dTHOUSAND,PSALTER aLETTER ALEPH,cBETH,cGIMEL,cDALETH,cHE,cWAW-AYIN-RESH,cZAYIN,cHETH",
      "cYODH,cKAPH,cLAMEDH,cMEM-QOPH,cNUN,cSAMEKH,cPE,cSADHE,cSHIN,cTAW"]⟩,
    ⟨0x10B99, ["PSALTER PAHLAVI SECTION MARK,bTURNED SECTION MARK,bFOUR DOTS WITH CROSS,eDOT"]⟩,
    ⟨0x10BA9, ["PSALTER PAHLAVI NUMBER ONE,cTWO,cTHREE,cFOUR,cTEN,cTWENTY,cONE HUNDRED"]⟩,
    ⟨0x10C00, ["OLD TURKIC LETTER ORKHON A,cYENISEI a,dAE,cORKHON I,cYENISEI a,dE,cORKHON O",
      "dOE,cYENISEI a,cORKHON AB,cYENISEI a,cORKHON AEB,cYENISEI a,cORKHON AG,cYENISEI a",
      "cORKHON AEG,cYENISEI a,cORKHON AD,cYENISEI a,cORKHON AED,dEZ,cYENISEI a,cORKHON AY",
      "cYENISEI a,cORKHON AEY,cYENISEI a,cORKHON AEK,cYENISEI a,cORKHON OEK,cYENISEI a",
      "cORKHON AL,cYENISEI a,cORKHON AEL,dELT,dEM,dAN,dAEN,cYENISEI a,cORKHON ENT,cYENISEI a",
      "cORKHON ENC,cYENISEI a,cORKHON ENY,cYENISEI a,dANG,cORKHON ENG,cYENISEI AENG,cORKHON EP",
      "dOP,dIC,dEC,cYENISEI a,cORKHON AQ,cYENISEI a,cORKHON IQ,cYENISEI a,cORKHON OQ,cYENISEI a",
      "cORKHON AR,cYENISEI a,cORKHON AER,dAS,dAES,dASH,cYENISEI a,cORKHON ESH,cYENISEI a",
      "cORKHON AT,cYENISEI a,cORKHON AET,cYENISEI a,cORKHON OT,dBASH"]⟩,
    ⟨0x10C80, ["OLD HUNGARIAN CAPITAL LETTER A,dAA,dEB,dAMB,dEC,dENC,dECS,dED,dAND,dE",
      "dCLOSE E,dEE,2,dEGY,dEH,dI,dII,dEJ,1,dAK,dUNK,dEL,dELY,dEM,1,dENY,dO,dOO,dNIKOLSBURG OE",
      "dRUDIMENTA a,dOEE,dEP,dEMP,dER,dSHORT ER,dES,dESZ,dET,dENT,dETY,dECH,dU,dUU",
      "dNIKOLSBURG UE,dRUDIMENTA a,dEV,dEZ,dEZS,dENT-SHAPED SIGN,dUS"]⟩,
    ⟨0x10CC0, ["OLD HUNGARIAN SMALL LETTER A,dAA,dEB,dAMB,dEC,dENC,dECS,dED,dAND,dE,dCLOSE E",
      "dEE,2,dEGY,dEH,dI,dII,dEJ,1,dAK,dUNK,dEL,dELY,dEM,1,dENY,dO,dOO,dNIKOLSBURG OE",
      "dRUDIMENTA a,dOEE,dEP,dEMP,dER,dSHORT ER,dES,dESZ,dET,dENT,dETY,dECH,dU,dUU",
      "dNIKOLSBURG UE,dRUDIMENTA a,dEV,dEZ,dEZS,dENT-SHAPED SIGN,dUS"]⟩,
    ⟨0x10CFA, ["OLD HUNGARIAN NUMBER ONE,cFIVE,cTEN,cFIFTY,cONE HUNDRED,dTHOUSAND"]⟩,
    ⟨0x10D00, ["HANIFI ROHINGYA LETTER A,cBA,cPA,cTA,cTTA,cJA,cCA,cHA,cKHA,cFA,cDA,cDDA,cRA",
      "cRRA,cZA,cSA,cSHA,cKA,cGA,cLA,cMA,cNA,cWA,cKINNA WA,cYA,cKINNA YA,cNGA,cNYA,cVA,bVOWEL A",
      "cI,cU,cE,cO,bMARK SAKIN,cNA KHONNA,bSIGN HARBAHAY,cTAHALA,cTANA,cTASSI"]⟩,
    ⟨0x10D30, ["HANIFI ROHINGYA DIGIT ZERO,cONE,cTWO,cTHREE,cFOUR,cFIVE,cSIX,cSEVEN,cEIGHT",
      "cNINE"]⟩,
    ⟨0x10E60, ["RUMI DIGIT ONE,bTWO,bTHREE,bFOUR,bFIVE,bSIX,bSEVEN,bEIGHT,bNINE,aNUMBER TEN",
      "bTWENTY,bTHIRTY,bFORTY,bFIFTY,bSIXTY,bSEVENTY,bEIGHTY,bNINETY,bONE HUNDRED,bTWO a",
      "bTHREE a,bFOUR a,bFIVE a,bSIX a,bSEVEN a,bEIGHT a,bNINE a,aFRACTION ONE HALF,cQUARTER",
      "cTHIRD,bTWO THIRDS,,YEZIDI LETTER ELIF,bBE,bPE,bPHE,bTHE,bSE,bCIM,bCHIM,bCHHIM,bHHA,bXA",
      "bDAL,bZAL,bRA,bRHA,bZA,bJA,bSIN,bSHIN,bSAD,bDAD,bTA,bZE,bEYN,bXHEYN,bFA,bVA",
      "bVA ALTERNATE FORM,bQAF,bKAF,bKHAF,bGAF,bLAM,bMIM,bNUN,bUM,bWAW,bOW,bEW,bHAY,bYOT,bET,",
      "aCOMBINING HAMZA MARK,bMADDA a,aHYPHENATION MARK,,,aLETTER LAM WITH DOT ABOVE",
      "bYOT aCIRCUMFLEX a"]⟩,
    ⟨0x10F00, ["OLD SOGDIAN LETTER ALEPH,cFINAL ALEPH,cBETH,cFINAL BETH,cGIMEL,cHE,cFINAL HE",
      "cWAW,cZAYIN,cHETH,cYODH,cKAPH,cLAMEDH,cMEM,cNUN,cFINAL NUN,dNUN WITH VERTICAL TAIL",
      "cSAMEKH,cAYIN,cALTERNATE AYIN,cPE,cSADHE,cFINAL SADHE,dSADHE WITH VERTICAL TAIL",
      "cRESH-AYIN-DALETH,cSHIN,cTAW,cFINAL TAW,dTAW WITH VERTICAL TAIL,bNUMBER ONE,cTWO,cTHREE",
      "cFOUR,cFIVE,cTEN,cTWENTY,cTHIRTY,cONE HUNDRED,bFRACTION aHALF,bLIGATURE AYIN-DALETH"]⟩,
    ⟨0x10F30, ["SOGDIAN LETTER ALEPH,bBETH,bGIMEL,bHE,bWAW,bZAYIN,bHETH,bYODH,bKAPH,bLAMEDH",
      "bMEM,bNUN,bSAMEKH,bAYIN,bPE,bSADHE,bRESH-AYIN,bSHIN,bTAW,bFETH,bLESH,aINDEPENDENT SHIN",
      "aCOMBINING DOT BELOW,bTWO DOTS BELOW,bDOT ABOVE,bTWO DOTS ABOVE,bCURVE ABOVE,cBELOW",
      "bHOOK ABOVE,cBELOW,bLONG HOOK BELOW,bRESH BELOW,bSTROKE a,aNUMBER ONE,bTEN,bTWENTY",
      "bONE HUNDRED,aPUNCTUATION TWO VERTICAL BARS,dBARS WITH DOTS,bCIRCLE WITH DOT",
      "bTWO CIRCLES WITH DOTS,bHALF CIRCLE aDOT"]⟩,
    ⟨0x10F70, ["OLD UYGHUR LETTER ALEPH,cBETH,cGIMEL-HETH,cWAW,cZAYIN,cFINAL HETH,cYODH,cKAPH",
      "cLAMEDH,cMEM,cNUN,cSAMEKH,cPE,cSADHE,cRESH,cSHIN,cTAW,cLESH,bCOMBINING DOT ABOVE,dBELOW",
      "cTWO DOTS ABOVE,eBELOW,bPUNCTUATION BAR,cTWO BARS,dDOTS,cFOUR a"]⟩,
    ⟨0x10FB0, ["CHORASMIAN LETTER ALEPH,bSMALL ALEPH,bBETH,bGIMEL,bDALETH,bHE,bWAW",
      "bCURLED WAW,bZAYIN,bHETH,bYODH,bKAPH,bLAMEDH,bMEM,bNUN,bSAMEKH,bAYIN,bPE,bRESH,bSHIN,bTAW",
      "aNUMBER ONE,bTWO,bTHREE,bFOUR,bTEN,bTWENTY,bONE HUNDRED"]⟩,
    ⟨0x10FE0, ["ELYMAIC LETTER ALEPH,bBETH,bGIMEL,bDALETH,bHE,bWAW,bZAYIN,bHETH,bTETH,bYODH",
      "bKAPH,bLAMEDH,bMEM,bNUN,bSAMEKH,bAYIN,bPE,bSADHE,bQOPH,bRESH,bSHIN,bTAW",
      "aLIGATURE ZAYIN-YODH"]⟩,
    ⟨0x11000, ["BRAHMI SIGN CANDRABINDU,bANUSVARA,bVISARGA,bJIHVAMULIYA,bUPADHMANIYA",
      "aLETTER A,bAA,bI,bII,bU,bUU,bVOCALIC R,cRR,cL,cLL,bE,bAI,bO,bAU,bKA,bKHA,bGA,bGHA,bNGA",
      "bCA,bCHA,bJA,bJHA,bNYA,bTTA,bTTHA,bDDA,bDDHA,bNNA,bTA,bTHA,bDA,bDHA,bNA,bPA,bPHA,bBA,bBHA",
      "bMA,bYA,bRA,bLA,bVA,bSHA,bSSA,bSA,bHA,bLLA,bOLD TAMIL LLLA,dRRA,dNNNA,aVOWEL SIGN AA",
      "cBHATTIPROLU AA,cI,cII,cU,cUU,cVOCALIC R,dRR,dL,dLL,cE,cAI,cO,cAU,aVIRAMA,aDANDA",
      "aDOUBLE DANDA,aPUNCTUATION DOT,bDOUBLE DOT,bLINE,bCRESCENT BAR,bLOTUS,,,,,aNUMBER ONE",
      "bTWO,bTHREE,bFOUR,bFIVE,bSIX,bSEVEN,bEIGHT,bNINE,bTEN,bTWENTY,bTHIRTY,bFORTY,bFIFTY",
      "bSIXTY,bSEVENTY,bEIGHTY,bNINETY,bONE HUNDRED,cTHOUSAND,aDIGIT ZERO,bONE,bTWO,bTHREE,bFOUR",
      "bFIVE,bSIX,bSEVEN,bEIGHT,bNINE,aSIGN OLD TAMIL VIRAMA,aLETTER bSHORT E,eO",
      "aVOWEL SIGN OLD TAMIL SHORT E,fO,aLETTER OLD TAMIL LLA"]⟩,
    ⟨0x1107F, ["BRAHMI NUMBER JOINER,KAITHI SIGN CANDRABINDU,bANUSVARA,bVISARGA,aLETTER A,bAA",
      "bI,bII,bU,bUU,bE,bAI,bO,bAU,bKA,bKHA,bGA,bGHA,bNGA,bCA,bCHA,bJA,bJHA,bNYA,bTTA,bTTHA,bDDA",
      "bDDDHA,bDDHA,bRHA,bNNA,bTA,bTHA,bDA,bDHA,bNA,bPA,bPHA,bBA,bBHA,bMA,bYA,bRA,bLA,bVA,bSHA",
      "bSSA,bSA,bHA,aVOWEL SIGN AA,cI,cII,cU,cUU,cE,cAI,cO,cAU,aSIGN VIRAMA,bNUKTA",
      "aABBREVIATION SIGN,aENUMERATION a,aNUMBER a,aSECTION MARK,aDOUBLE SECTION MARK,aDANDA",
      "aDOUBLE DANDA,aVOWEL SIGN VOCALIC R"]⟩,
    ⟨0x110CD, ["KAITHI NUMBER SIGN ABOVE,,,SORA SOMPENG LETTER SAH,cTAH,cBAH,cCAH,cDAH,cGAH",
      "cMAH,cNGAH,cLAH,cNAH,cVAH,cPAH,cYAH,cRAH,cHAH,cKAH,cJAH,cNYAH,cAH,cEEH,cIH,cUH,cOH,cEH",
      "cMAE"]⟩,
    ⟨0x110F0, ["SORA SOMPENG DIGIT ZERO,cONE,cTWO,cTHREE,cFOUR,cFIVE,cSIX,cSEVEN,cEIGHT,cNINE"]⟩,
    ⟨0x11100, ["CHAKMA SIGN CANDRABINDU,bANUSVARA,bVISARGA,aLETTER AA,bI,bU,bE,bKAA,bKHAA",
      "bGAA,bGHAA,bNGAA,bCAA,bCHAA,bJAA,bJHAA,bNYAA,bTTAA,bTTHAA,bDDAA,bDDHAA,bNNAA,bTAA,bTHAA",
      "bDAA,bDHAA,bNAA,bPAA,bPHAA,bBAA,bBHAA,bMAA,bYYAA,bYAA,bRAA,bLAA,bWAA,bSAA,bHAA",
      "aVOWEL SIGN A,cI,cII,cU,cUU,cE,cAI,cO,cAU,cOI,aO MARK,aAU a,aVIRAMA,aMAAYYAA,,aDIGIT ZERO",
      "bONE,bTWO,bTHREE,bFOUR,bFIVE,bSIX,bSEVEN,bEIGHT,bNINE,aSECTION MARK,aDANDA,aDOUBLE DANDA",
      "aQUESTION MARK,aLETTER LHAA,aVOWEL SIGN AA,cEI,aLETTER VAA"]⟩,
    ⟨0x11150, ["MAHAJANI LETTER A,bI,bU,bE,bO,bKA,bKHA,bGA,bGHA,bCA,bCHA,bJA,bJHA,bNYA,bTTA",
      "bTTHA,bDDA,bDDHA,bNNA,bTA,bTHA,bDA,bDHA,bNA,bPA,bPHA,bBA,bBHA,bMA,bRA,bLA,bVA,bSA,bHA",
      "bRRA,aSIGN NUKTA,aABBREVIATION SIGN,aSECTION MARK,aLIGATURE SHRI"]⟩,
    ⟨0x11180, ["SHARADA SIGN CANDRABINDU,bANUSVARA,bVISARGA,aLETTER A,bAA,bI,bII,bU,bUU",
      "bVOCALIC R,cRR,cL,cLL,bE,bAI,bO,bAU,bKA,bKHA,bGA,bGHA,bNGA,bCA,bCHA,bJA,bJHA,bNYA,bTTA",
      "bTTHA,bDDA,bDDHA,bNNA,bTA,bTHA,bDA,bDHA,bNA,bPA,bPHA,bBA,bBHA,bMA,bYA,bRA,bLA,bLLA,bVA",
      "bSHA,bSSA,bSA,bHA,aVOWEL SIGN AA,cI,cII,cU,cUU,cVOCALIC R,dRR,dL,dLL,cE,cAI,cO,cAU",
      "aSIGN VIRAMA,bAVAGRAHA,bJIHVAMULIYA,bUPADHMANIYA,aOM,aDANDA,aDOUBLE DANDA",
      "aABBREVIATION SIGN,aSEPARATOR,aSANDHI MARK,aSIGN NUKTA,aVOWEL MODIFIER MARK",
      "aEXTRA SHORT VOWEL MARK,aSUTRA MARK,aVOWEL SIGN PRISHTHAMATRA E",
      "aSIGN INVERTED CANDRABINDU,aDIGIT ZERO,bONE,bTWO,bTHREE,bFOUR,bFIVE,bSIX,bSEVEN,bEIGHT",
      "bNINE,aEKAM,aSIGN SIDDHAM,aHEADSTROKE,aCONTINUATION SIGN,aSECTION MARK-1,1,",
      "SINHALA ARCHAIC DIGIT ONE,cTWO,cTHREE,cFOUR,cFIVE,cSIX,cSEVEN,cEIGHT,cNINE,bNUMBER TEN",
      "cTWENTY,cTHIRTY,cFORTY,cFIFTY,cSIXTY,cSEVENTY,cEIGHTY,cNINETY,cONE HUNDRED,dTHOUSAND"]⟩,
    ⟨0x11200, ["KHOJKI LETTER A,bAA,bI,bU,bE,bAI,bO,bAU,bKA,bKHA,bGA,bGGA,bGHA,bNGA,bCA,bCHA",
      "bJA,bJJA,,bNYA,bTTA,bTTHA,bDDA,bDDHA,bNNA,bTA,bTHA,bDA,bDDDA,bDHA,bNA,bPA,bPHA,bBA,bBBA",
      "bBHA,bMA,bYA,bRA,bLA,bVA,bSA,bHA,bLLA,aVOWEL SIGN AA,cI,cII,cU,cE,cAI,cO,cAU",
      "aSIGN ANUSVARA,bVIRAMA,bNUKTA,bSHADDA,aDANDA,aDOUBLE DANDA,aWORD SEPARATOR,aSECTION MARK",
      "aDOUBLE SECTION MARK,aABBREVIATION SIGN,aSIGN SUKUN"]⟩,
    ⟨0x11280, ["MULTANI LETTER A,bI,bU,bE,bKA,bKHA,bGA,,bGHA,,bCA,bCHA,bJA,bJJA,,bNYA,bTTA",
      "bTTHA,bDDA,bDDDA,bDDHA,bNNA,bTA,bTHA,bDA,bDHA,bNA,bPA,bPHA,bBA,,bBHA,bMA,bYA,bRA,bLA,bVA",
      "bSA,bHA,bRRA,bRHA,aSECTION MARK"]⟩,
    ⟨0x112B0, ["KHUDAWADI LETTER A,bAA,bI,bII,bU,bUU,bE,bAI,bO,bAU,bKA,bKHA,bGA,bGGA,bGHA",
      "bNGA,bCA,bCHA,bJA,bJJA,bJHA,bNYA,bTTA,bTTHA,bDDA,bDDDA,bRRA,bDDHA,bNNA,bTA,bTHA,bDA,bDHA",
      "bNA,bPA,bPHA,bBA,bBBA,bBHA,bMA,bYA,bRA,bLA,bVA,bSHA,bSA,bHA,aSIGN ANUSVARA,aVOWEL SIGN AA",
      "cI,cII,cU,cUU,cE,cAI,cO,cAU,aSIGN NUKTA,bVIRAMA"]⟩,
    ⟨0x112F0, ["KHUDAWADI DIGIT ZERO,bONE,bTWO,bTHREE,bFOUR,bFIVE,bSIX,bSEVEN,bEIGHT,bNINE"]⟩,
    ⟨0x11300, ["GRANTHA SIGN COMBINING ANUSVARA ABOVE,bCANDRABINDU,bANUSVARA,bVISARGA,",
      "aLETTER A,bAA,bI,bII,bU,bUU,bVOCALIC R,cL,,,bEE,bAI,,,bOO,bAU,bKA,bKHA,bGA,bGHA,bNGA,bCA",
      "bCHA,bJA,bJHA,bNYA,bTTA,bTTHA,bDDA,bDDHA,bNNA,bTA,bTHA,bDA,bDHA,bNA,,bPA,bPHA,bBA,bBHA",
      "bMA,bYA,bRA,,bLA,bLLA,,bVA,bSHA,bSSA,bSA,bHA,,COMBINING BINDU BELOW,GRANTHA SIGN NUKTA",
      "bAVAGRAHA,aVOWEL SIGN AA,cI,cII,cU,cUU,cVOCALIC R,dRR,,,cEE,cAI,,,cOO,cAU,aSIGN VIRAMA,,",
      "aOM"]⟩,
    ⟨0x11357, ["GRANTHA AU LENGTH MARK"]⟩,
    ⟨0x1135D, ["GRANTHA SIGN PLUTA,aLETTER VEDIC ANUSVARA,cDOUBLE ANUSVARA,bVOCALIC RR,cLL",
      "aVOWEL SIGN VOCALIC L,dLL,,,COMBINING GRANTHA DIGIT ZERO,cONE,cTWO,cTHREE,cFOUR,cFIVE",
      "cSIX,,,,bLETTER A,cKA,cNA,cVI,cPA"]⟩,
    ⟨0x11400, ["NEWA LETTER A,bAA,bI,bII,bU,bUU,bVOCALIC R,cRR,cL,cLL,bE,bAI,bO,bAU,bKA,bKHA",
      "bGA,bGHA,bNGA,bNGHA,bCA,bCHA,bJA,bJHA,bNYA,bNYHA,bTTA,bTTHA,bDDA,bDDHA,bNNA,bTA,bTHA,bDA",
      "bDHA,bNA,bNHA,bPA,bPHA,bBA,bBHA,bMA,bMHA,bYA,bRA,bRHA,bLA,bLHA,bWA,bSHA,bSSA,bSA,bHA",
      "aVOWEL SIGN AA,cI,cII,cU,cUU,cVOCALIC R,dRR,dL,dLL,cE,cAI,cO,cAU,aSIGN VIRAMA",
      "bCANDRABINDU,bANUSVARA,bVISARGA,bNUKTA,bAVAGRAHA,bFINAL ANUSVARA,aOM,aSIDDHI,aDANDA",
      "aDOUBLE DANDA,aCOMMA,aGAP FILLER,aABBREVIATION SIGN,aDIGIT ZERO,bONE,bTWO,bTHREE,bFOUR",
      "bFIVE,bSIX,bSEVEN,bEIGHT,bNINE,aDOUBLE COMMA,aPLACEHOLDER MARK,,aINSERTION SIGN",
      "aSANDHI MARK,aLETTER VEDIC ANUSVARA,aSIGN JIHVAMULIYA,bUPADHMANIYA"]⟩,
    ⟨0x11480, ["TIRHUTA ANJI,aLETTER A,bAA,bI,bII,bU,bUU,bVOCALIC R,cRR,cL,cLL,bE,bAI,bO,bAU",
      "bKA,bKHA,bGA,bGHA,bNGA,bCA,bCHA,bJA,bJHA,bNYA,bTTA,bTTHA,bDDA,bDDHA,bNNA,bTA,bTHA,bDA",
      "bDHA,bNA,bPA,bPHA,bBA,bBHA,bMA,bYA,bRA,bLA,bVA,bSHA,bSSA,bSA,bHA,aVOWEL SIGN AA,cI,cII,cU",
      "cUU,cVOCALIC R,dRR,dL,dLL,cE,cSHORT E,cAI,cO,cSHORT O,cAU,aSIGN CANDRABINDU,bANUSVARA",
      "bVISARGA,bVIRAMA,bNUKTA,bAVAGRAHA,aGVANG,aABBREVIATION SIGN,aOM"]⟩,
    ⟨0x114D0, ["TIRHUTA DIGIT ZERO,bONE,bTWO,bTHREE,bFOUR,bFIVE,bSIX,bSEVEN,bEIGHT,bNINE"]⟩,
    ⟨0x11580, ["SIDDHAM LETTER A,bAA,bI,bII,bU,bUU,bVOCALIC R,cRR,cL,cLL,bE,bAI,bO,bAU,bKA",
      "bKHA,bGA,bGHA,bNGA,bCA,bCHA,bJA,bJHA,bNYA,bTTA,bTTHA,bDDA,bDDHA,bNNA,bTA,bTHA,bDA,bDHA",
      "bNA,bPA,bPHA,bBA,bBHA,bMA,bYA,bRA,bLA,bVA,bSHA,bSSA,bSA,bHA,aVOWEL SIGN AA,cI,cII,cU,cUU",
      "cVOCALIC R,dRR,,,cE,cAI,cO,cAU,aSIGN CANDRABINDU,bANUSVARA,bVISARGA,bVIRAMA,bNUKTA",
      "bSIDDHAM,aDANDA,aDOUBLE DANDA,aSEPARATOR DOT,bBAR,aREPETITION MARK-1,2,aEND OF TEXT MARK",
      "aSECTION MARK WITH TRIDENT AND U-SHAPED ORNAMENTS,fDOTTED CRESCENTS,dRAYS c",
      "gDOUBLE CRESCENTS,gTRIPLE a,cDOUBLE RING,dRING WITH RAYS,cWITH DOUBLE CRESCENTS,dTRIPLE a",
      "dQUADRUPLE a,dSEPTUPLE a,dCIRCLES AND RAYS,fTWO ENCLOSURES,fFOUR a",
      "aLETTER THREE-CIRCLE ALTERNATE I,bTWO-c,eII,bALTERNATE U,aVOWEL SIGN ALTERNATE U,dUU"]⟩,
    ⟨0x11600, ["MODI LETTER A,bAA,bI,bII,bU,bUU,bVOCALIC R,cRR,cL,cLL,bE,bAI,bO,bAU,bKA,bKHA",
      "bGA,bGHA,bNGA,bCA,bCHA,bJA,bJHA,bNYA,bTTA,bTTHA,bDDA,bDDHA,bNNA,bTA,bTHA,bDA,bDHA,bNA,bPA",
      "bPHA,bBA,bBHA,bMA,bYA,bRA,bLA,bVA,bSHA,bSSA,bSA,bHA,bLLA,aVOWEL SIGN AA,cI,cII,cU,cUU",
      "cVOCALIC R,dRR,dL,dLL,cE,cAI,cO,cAU,aSIGN ANUSVARA,bVISARGA,bVIRAMA,bARDHACANDRA,aDANDA",
      "aDOUBLE DANDA,aABBREVIATION SIGN,aSIGN HUVA"]⟩,
    ⟨0x11650, ["MODI DIGIT ZERO,bONE,bTWO,bTHREE,bFOUR,bFIVE,bSIX,bSEVEN,bEIGHT,bNINE"]⟩,
    ⟨0x11660, ["MONGOLIAN BIRGA WITH ORNAMENT,aROTATED BIRGA,aDOUBLE BIRGA WITH ORNAMENT",
      "aTRIPLE c,aBIRGA WITH DOUBLE a,aROTATED BIRGA WITH a,dDOUBLE ORNAMENT,aINVERTED BIRGA",
      "bBIRGA WITH DOUBLE ORNAMENT,aSWIRL BIRGA,bBIRGA WITH ORNAMENT,dDOUBLE ORNAMENT",
      "aTURNED SWIRL BIRGA WITH DOUBLE ORNAMENT"]⟩,
    ⟨0x11680, ["TAKRI LETTER A,bAA,bI,bII,bU,bUU,bE,bAI,bO,bAU,bKA,bKHA,bGA,bGHA,bNGA,bCA",
      "bCHA,bJA,bJHA,bNYA,bTTA,bTTHA,bDDA,bDDHA,bNNA,bTA,bTHA,bDA,bDHA,bNA,bPA,bPHA,bBA,bBHA,bMA",
      "bYA,bRA,bLA,bVA,bSHA,bSA,bHA,bRRA,aSIGN ANUSVARA,bVISARGA,aVOWEL SIGN AA,cI,cII,cU,cUU,cE",
      "cAI,cO,cAU,aSIGN VIRAMA,bNUKTA,aLETTER ARCHAIC KHA,aABBREVIATION SIGN"]⟩,
    ⟨0x116C0, ["TAKRI DIGIT ZERO,bONE,bTWO,bTHREE,bFOUR,bFIVE,bSIX,bSEVEN,bEIGHT,bNINE"]⟩,
    ⟨0x11700, ["AHOM LETTER KA,bKHA,bNGA,bNA,bTA,bALTERNATE TA,bPA,bPHA,bBA,bMA,bJA,bCHA,bTHA",
      "bRA,bLA,bSA,bNYA,bHA,bA,bDA,bDHA,bGA,bALTERNATE GA,bGHA,bBHA,bJHA,bALTERNATE BA,,",
      "aCONSONANT SIGN MEDIAL LA,dRA,dLIGATING RA,aVOWEL aA,cAA,cI,cII,cU,cUU,cE,cAW,cO,cAI,cAM",
      "aSIGN KILLER,,,,,aDIGIT ZERO,bONE,bTWO,bTHREE,bFOUR,bFIVE,bSIX,bSEVEN,bEIGHT,bNINE",
      "aNUMBER TEN,bTWENTY,aSIGN SMALL SECTION,bSECTION,bRULAI,aSYMBOL VI,aLETTER CA,bTTA,bTTHA",
      "bDDA,bDDHA,bNNA,bLLA"]⟩,
    ⟨0x11800, ["DOGRA LETTER A,bAA,bI,bII,bU,bUU,bE,bAI,bO,bAU,bKA,bKHA,bGA,bGHA,bNGA,bCA",
      "bCHA,bJA,bJHA,bNYA,bTTA,bTTHA,bDDA,bDDHA,bNNA,bTA,bTHA,bDA,bDHA,bNA,bPA,bPHA,bBA,bBHA,bMA",
      "bYA,bRA,bLA,bVA,bSHA,bSSA,bSA,bHA,bRRA,aVOWEL SIGN AA,cI,cII,cU,cUU,cVOCALIC R,dRR,cE,cAI",
      "cO,cAU,aSIGN ANUSVARA,bVISARGA,bVIRAMA,bNUKTA,aABBREVIATION SIGN"]⟩,
    ⟨0x118A0, ["WARANG CITI CAPITAL LETTER NGAA,dA,dWI,dYU,dYA,dYO,dII,dUU,dE,dO,dANG,dGA,dKO",
      "dENY,dYUJ,dUC,dENN,dODD,dTTE,dNUNG,dDA,dAT,dAM,dBU,dPU,dHIYO,dHOLO,dHORR,dHAR,dSSUU,dSII",
      "dVIYO,bSMALL aNGAA,dA,dWI,dYU,dYA,dYO,dII,dUU,dE,dO,dANG,dGA,dKO,dENY,dYUJ,dUC,dENN,dODD",
      "dTTE,dNUNG,dDA,dAT,dAM,dBU,dPU,dHIYO,dHOLO,dHORR,dHAR,dSSUU,dSII,dVIYO,bDIGIT ZERO,cONE",
      "cTWO,cTHREE,cFOUR,cFIVE,cSIX,cSEVEN,cEIGHT,cNINE,bNUMBER TEN,cTWENTY,cTHIRTY,cFORTY",
      "cFIFTY,cSIXTY,cSEVENTY,cEIGHTY,cNINETY"]⟩,
    ⟨0x118FF, ["WARANG CITI OM"]⟩,
    ⟨0x11900, ["DIVES AKURU LETTER A,cAA,cI,cII,cU,cUU,cE,,,cO,,,cKA,cKHA,cGA,cGHA,cNGA,cCA",
      "cCHA,cJA,,cNYA,cTTA,,cDDA,cDDHA,cNNA,cTA,cTHA,cDA,cDHA,cNA,cPA,cPHA,cBA,cBHA,cMA,cYA,cYYA",
      "cRA,cLA,cVA,cSHA,cSSA,cSA,cHA,cLLA,cZA,bVOWEL SIGN AA,dI,dII,dU,dUU,dE,,dAI,dO,,",
      "bSIGN ANUSVARA,cCANDRABINDU,cHALANTA,bVIRAMA,bPREFIXED NASAL SIGN,bMEDIAL YA,bINITIAL RA",
      "bMEDIAL a,bSIGN NUKTA,bDOUBLE DANDA,bGAP FILLER,bEND OF TEXT MARK"]⟩,
    ⟨0x11950, ["DIVES AKURU DIGIT ZERO,cONE,cTWO,cTHREE,cFOUR,cFIVE,cSIX,cSEVEN,cEIGHT,cNINE"]⟩,
    ⟨0x119A0, ["NANDINAGARI LETTER A,bAA,bI,bII,bU,bUU,bVOCALIC R,cRR,,,bE,bAI,bO,bAU,bKA",
      "bKHA,bGA,bGHA,bNGA,bCA,bCHA,bJA,bJHA,bNYA,bTTA,bTTHA,bDDA,bDDHA,bNNA,bTA,bTHA,bDA,bDHA",
      "bNA,bPA,bPHA,bBA,bBHA,bMA,bYA,bRA,bLA,bVA,bSHA,bSSA,bSA,bHA,bLLA,bRRA,aVOWEL SIGN AA,cI",
      "cII,cU,cUU,cVOCALIC R,dRR,,,cE,cAI,cO,cAU,aSIGN ANUSVARA,bVISARGA,bVIRAMA,bAVAGRAHA",
      "bSIDDHAM,aHEADSTROKE,aVOWEL SIGN PRISHTHAMATRA E"]⟩,
    ⟨0x11A00, ["ZANABAZAR SQUARE LETTER A,bVOWEL SIGN I,dUE,dU,dE,dOE,dO,dAI,dAU,dREVERSED I",
      "cLENGTH MARK,bLETTER KA,cKHA,cGA,cGHA,cNGA,cCA,cCHA,cJA,cNYA,cTTA,cTTHA,cDDA,cDDHA,cNNA",
      "cTA,cTHA,cDA,cDHA,cNA,cPA,cPHA,cBA,cBHA,cMA,cTSA,cTSHA,cDZA,cDZHA,cZHA,cZA,c-A,cYA,cRA",
      "cLA,cVA,cSHA,cSSA,cSA,cHA,cKSSA,bFINAL CONSONANT MARK,bSIGN VIRAMA,cCANDRABINDU",
      "cCANDRABINDU WITH ORNAMENT,cCANDRA b,cANUSVARA,cVISARGA,bCLUSTER-INITIAL LETTER RA",
      "cFINAL aYA,eRA,eLA,eVA,bINITIAL HEAD MARK,bCLOSING b,bMARK TSHEG,cSHAD,cDOUBLE SHAD",
      "cLONG TSHEG,bINITIAL DOUBLE-LINED HEAD MARK,bCLOSING d,bSUBJOINER"]⟩,
    ⟨0x11A50, ["SOYOMBO LETTER A,aVOWEL SIGN I,cUE,cU,cE,cO,cOE,cAI,cAU,cVOCALIC R,dL",
      "bLENGTH MARK,aLETTER KA,bKHA,bGA,bGHA,bNGA,bCA,bCHA,bJA,bJHA,bNYA,bTTA,bTTHA,bDDA,bDDHA",
      "bNNA,bTA,bTHA,bDA,bDHA,bNA,bPA,bPHA,bBA,bBHA,bMA,bTSA,bTSHA,bDZA,bZHA,bZA,b-A,bYA,bRA,bLA",
      "bVA,bSHA,bSSA,bSA,bHA,bKSSA,aSIGN JIHVAMULIYA,bUPADHMANIYA,aCLUSTER-INITIAL LETTER RA,dLA",
      "dSHA,dSA,aFINAL CONSONANT SIGN G,dK,dNG,dD,dN,dB,dM,dR,dL,dSH,dS,d-A,aSIGN ANUSVARA",
      "bVISARGA,aGEMINATION MARK,aSUBJOINER,aMARK TSHEG,bSHAD,bDOUBLE SHAD,bPLUTA",
      "aHEAD MARK WITH MOON AND SUN AND TRIPLE FLAME,hFLAME,fSUN,aTERMINAL MARK-1,1"]⟩,
    ⟨0x11AB0, ["CANADIAN SYLLABICS NATTILIK HI,cHII,cHO,cHOO,cHA,cHAA,cSHRI,cSHRII,cSHRO",
      "cSHROO,cSHRA,cSHRAA,bSPE,bSPI,bSPO,bSPA,PAU CIN HAU LETTER PA,dKA,dLA,dMA,dDA,dZA,dVA",
      "dNGA,dHA,dGA,dKHA,dSA,dBA,dCA,dTA,dTHA,dNA,dPHA,dRA,dFA,dCHA,dA,dE,dI,dO,dU,dUA,dIA",
      "dFINAL P,eK,eT,eM,1,eL,eW,eNG,eY,cRISING TONE LONG,dTONE,cSANDHI GLOTTAL STOP",
      "cRISING TONE LONG FINAL,eFINAL,cSANDHI GLOTTAL STOP FINAL,dTONE LONG,dTONE",
      "dTONE LONG FINAL,eFINAL,cMID-LEVEL TONE,cGLOTTAL STOP VARIANT,cMID-LEVEL TONE LONG FINAL",
      "fFINAL,cLOW-FALLING aLONG,eTONE,cGLOTTAL STOP,cLOW-FALLING TONE LONG FINAL,fFINAL",
      "cGLOTTAL STOP FINAL"]⟩,
    ⟨0x11C00, ["BHAIKSUKI LETTER A,bAA,bI,bII,bU,bUU,bVOCALIC R,cRR,cL,,bE,bAI,bO,bAU,bKA",
      "bKHA,bGA,bGHA,bNGA,bCA,bCHA,bJA,bJHA,bNYA,bTTA,bTTHA,bDDA,bDDHA,bNNA,bTA,bTHA,bDA,bDHA",
      "bNA,bPA,bPHA,bBA,bBHA,bMA,bYA,bRA,bLA,bVA,bSHA,bSSA,bSA,bHA,aVOWEL SIGN AA,cI,cII,cU,cUU",
      "cVOCALIC R,dRR,dL,,cE,cAI,cO,cAU,aSIGN CANDRABINDU,bANUSVARA,bVISARGA,bVIRAMA,bAVAGRAHA",
      "aDANDA,aDOUBLE DANDA,aWORD SEPARATOR,aGAP FILLER-1,1"]⟩,
    ⟨0x11C50, ["BHAIKSUKI DIGIT ZERO,bONE,bTWO,bTHREE,bFOUR,bFIVE,bSIX,bSEVEN,bEIGHT,bNINE",
      "aNUMBER ONE,bTWO,bTHREE,bFOUR,bFIVE,bSIX,bSEVEN,bEIGHT,bNINE,bTEN,bTWENTY,bTHIRTY,bFORTY",
      "bFIFTY,bSIXTY,bSEVENTY,bEIGHTY,bNINETY,aHUNDREDS UNIT MARK,,,,MARCHEN HEAD MARK",
      "aMARK SHAD,aLETTER KA,bKHA,bGA,bNGA,bCA,bCHA,bJA,bNYA,bTA,bTHA,bDA,bNA,bPA,bPHA,bBA,bMA",
      "bTSA,bTSHA,bDZA,bWA,bZHA,bZA,b-A,bYA,bRA,bLA,bSHA,bSA,bHA,bA,,,aSUBJOINED LETTER KA,cKHA",
      "cGA,cNGA,cCA,cCHA,cJA,cNYA,cTA,cTHA,cDA,cNA,cPA,cPHA,cBA,cMA,cTSA,cTSHA,cDZA,cWA,cZHA,cZA",
      ",cYA,cRA,cLA,cSHA,cSA,cHA,cA,aVOWEL SIGN AA,cI,cU,cE,cO,aSIGN ANUSVARA,bCANDRABINDU"]⟩,
    ⟨0x11D00, ["MASARAM GONDI LETTER A,cAA,cI,cII,cU,cUU,cE,,cAI,cO,,cAU,cKA,cKHA,cGA,cGHA",
      "cNGA,cCA,cCHA,cJA,cJHA,cNYA,cTTA,cTTHA,cDDA,cDDHA,cNNA,cTA,cTHA,cDA,cDHA,cNA,cPA,cPHA,cBA",
      "cBHA,cMA,cYA,cRA,cLA,cVA,cSHA,cSSA,cSA,cHA,cLLA,cKSSA,cJNYA,cTRA,bVOWEL SIGN AA,dI,dII,dU",
      "dUU,dVOCALIC R,,,,dE,,dAI,dO,,dAU,bSIGN ANUSVARA,cVISARGA,cNUKTA,cCANDRA,cHALANTA,bVIRAMA",
      "bREPHA,bRA-KARA"]⟩,
    ⟨0x11D50, ["MASARAM GONDI DIGIT ZERO,cONE,cTWO,cTHREE,cFOUR,cFIVE,cSIX,cSEVEN,cEIGHT",
      "cNINE"]⟩,
    ⟨0x11D60, ["GUNJALA GONDI LETTER A,cAA,cI,cII,cU,cUU,,cEE,cAI,,cOO,cAU,cYA,cVA,cBA,cBHA",
      "cMA,cKA,cKHA,cTA,cTHA,cLA,cGA,cGHA,cDA,cDHA,cNA,cCA,cCHA,cTTA,cTTHA,cLLA,cJA,cJHA,cDDA",
      "cDDHA,cNGA,cPA,cPHA,cHA,cRA,cSA,bVOWEL SIGN AA,dI,dII,dU,dUU,,dEE,dAI,,dOO,dAU",
      "bSIGN ANUSVARA,cVISARGA,bVIRAMA,bOM"]⟩,
    ⟨0x11DA0, ["GUNJALA GONDI DIGIT ZERO,cONE,cTWO,cTHREE,cFOUR,cFIVE,cSIX,cSEVEN,cEIGHT",
      "cNINE"]⟩,
    ⟨0x11EE0, ["MAKASAR LETTER KA,bGA,bNGA,bPA,bBA,bMA,bTA,bDA,bNA,bCA,bJA,bNYA,bYA,bRA,bLA",
      "bVA,bSA,bA,aANGKA,aVOWEL SIGN I,cU,cE,cO,aPASSIMBANG,aEND OF SECTION"]⟩,
    ⟨0x11FB0, ["LISU LETTER YHA"]⟩,
    ⟨0x11FC0, ["TAMIL FRACTION ONE THREE-HUNDRED-AND-TWENTIETH,cONE-bSIXTIETH,cEIGHTIETH",
      "cSIXTY-FOURTH,cFORTIETH,cTHIRTY-SECOND,bTHREE EIGHTIETHS,cSIXTY-FOURTHS,bONE TWENTIETH",
      "cSIXTEENTH-1,1,cTENTH,cEIGHTH,bTHREE TWENTIETHS,cSIXTEENTHS,bONE FIFTH,cQUARTER,cHALF-1,1",
      "bTHREE QUARTERS,bDOWNSCALING FACTOR KIIZH,aSIGN NEL,bCEVITU,bAAZHAAKKU,bUZHAKKU",
      "bMUUVUZHAKKU,bKURUNI,bPATHAKKU,bMUKKURUNI,bKAACU,bPANAM,bPON,bVARAAKAN,bPAARAM,bKUZHI",
      "bVELI,aWET CULTIVATION SIGN,aDRY b,aLAND SIGN,aSALT PAN SIGN,aTRADITIONAL CREDIT a",
      "bNUMBER a,aCURRENT SIGN,aAND ODD SIGN,aSPENT SIGN,aTOTAL a,aIN POSSESSION SIGN",
      "aSTARTING FROM a,aSIGN MUTHALIYA,bVAKAIYARAA"]⟩,
    ⟨0x11FFF, ["TAMIL PUNCTUATION END OF TEXT"]⟩,
    ⟨0x12000, ["CUNEIFORM SIGN A,bA TIMES A,dBAD,dGAN2 TENU,dHA,dIGI,dLAGAR GUNU,dMUSH,dSAG",
      "bA2,bAB,bAB TIMES ASH2,dDUN3 GUNU,dGAL,dGAN2 TENU,dHA,dIGI GUNU,dIMIN,dLAGAB,dSHESH",
      "dU PLUS U PLUS U,cGUNU,bAB2,bAB2 TIMES BALAG,dGAN2 TENU,dME PLUS EN,dSHA3,dTAK4,bAD,bAK",
      "bAK TIMES ERIN2,dSHITA PLUS GISH,bAL,bAL TIMES AL,dDIM2,dGISH,dHA,dKAD3,dKI,dSHE,dUSH",
      "bALAN,bALEPH,bAMAR,bAMAR TIMES SHE,bAN,bAN OVER AN,cTHREE TIMES",
      "cPLUS NAGA OPPOSING AN PLUS NAGA,eSQUARED,bANSHE,bAPIN,bARAD,bARAD TIMES KUR,bARKAB",
      "bASAL2,bASH,bASH ZIDA TENU,cKABA a,cOVER ASH TUG2 OVER TUG2 TUG2 OVER TUG2 PAP,eOVER ASH",
      "fASH CROSSING ASH OVER ASH OVER ASH,bASH2,bASHGAB,bBA,bBAD,bBAG3,bBAHAR2,bBAL",
      "bBAL OVER BAL,bBALAG,bBAR,bBARA2,bBI,bBI TIMES A,dGAR,dIGI GUNU,bBU,bBU OVER BU AB,eUN",
      "cCROSSING BU,bBULUG,bBULUG OVER BULUG,bBUR,bBUR2,bDA,bDAG,bDAG KISIM5 TIMES A PLUS MASH",
      "eAMAR,eBALAG,eBI,eGA,eGA PLUS MASH,eGI,eGIR2,eGUD,eHA,eIR,eIR PLUS LU,eKAK,eLA,eLU",
      "eLU PLUS MASH2,eLUM,eNE,ePAP PLUS PAP,eSI,eTAK4,eU2 PLUS GIR2,eUSH,bDAM,bDAR,bDARA3,1,bDI",
      "bDIB,bDIM,bDIM TIMES SHE,bDIM2,bDIN,bDIN KASKAL U GUNU DISH,bDISH,bDU,bDU OVER DU,cGUNU",
      "cSHESHIG,bDUB,bDUB TIMES ESH2,bDUB2,bDUG,bDUGUD,bDUH,bDUN,bDUN3,bDUN3 GUNU,cGUNU GUNU",
      "bDUN4,bDUR2,bE,bE TIMES PAP,cOVER E NUN OVER NUN,bE2,bE2 TIMES A PLUS HA PLUS DA,dGAR,dMI",
      "dSAL,dSHE,dU,bEDIN,bEGIR,bEL,bEN,bEN TIMES GAN2,dGAN2 TENU,dME,cCROSSING EN,cOPPOSING a",
      "cSQUARED,bEREN,bERIN2,bESH2,bEZEN,bEZEN TIMES A,dA PLUS LAL,fLAL TIMES LAL,dAN,dBAD",
      "dDUN3 GUNU,eGUNU GUNU,dHA,dHA GUNU,dIGI a,dKASKAL,dKASKAL SQUARED,dKU3,dLA,dLAL TIMES LAL",
      "dLI,dLU,dU2,dUD,bGA,bGA GUNU,bGA2,bGA2 TIMES A PLUS DA PLUS HA,fHA,fIGI",
      "dAB2 TENU PLUS TAB,dAN,dASH,dASH2 PLUS GAL,dBAD,dBAR PLUS RA,dBUR,dBUR PLUS RA,dDA,dDI",
      "dDIM TIMES SHE,dDUB,dEL,dEL PLUS LA,dEN,dEN TIMES GAN2 TENU,dGAN2 TENU,dGAR,dGI,dGI4",
      "dGI4 PLUS A,dGIR2 aSU,dHA aLU PLUS ESH2,dHAL,dHAL PLUS LA,dHI aLI,dHUB2,dIGI GUNU",
      "dISH PLUS HU PLUS ASH,dKAK,dKASKAL,dKID,dKID PLUS LAL,dKU3 aAN,dLA,dME PLUS EN,dMI,dNUN",
      "dNUN OVER NUN,dPA,dSAL,dSAR,dSHE,dSHE PLUS TUR,dSHID,dSUM,dTAK4,dU,dUD,dUD PLUS DU",
      "cOVER GA2,bGABA,bGABA CROSSING GABA,bGAD,bGAD OVER GAD GAR OVER GAR,bGAL",
      "bGAL GAD OVER GAD GAR OVER GAR,bGALAM,bGAM,1,bGAN2,bGAN2 TENU,cOVER GAN2,cCROSSING a,bGAR",
      "bGAR3,bGASHAN,bGESHTIN,bGESHTIN TIMES KUR"]⟩,
    ⟨0x12100, ["CUNEIFORM SIGN GI,bGI TIMES E,dU,cCROSSING GI,bGI4,bGI4 OVER GI4,cCROSSING a",
      "bGIDIM,bGIR2,bGIR2 GUNU,bGIR3,bGIR3 TIMES A PLUS IGI,dGAN2 TENU,dIGI,dLU PLUS IGI,dPA",
      "bGISAL,bGISH,bGISH CROSSING GISH,cTIMES BAD,dTAK4,cTENU,bGU,bGU CROSSING GU,bGU2",
      "bGU2 TIMES KAK,dKAK TIMES IGI GUNU,dNUN,dSAL PLUS TUG2,cGUNU,bGUD,bGUD TIMES A PLUS KUR",
      "dKUR,cOVER GUD LUGAL,bGUL,1,bGUM TIMES SHE,bGUR,bGUR7,bGURUN,bGURUSH,bHA,bHA TENU,cGUNU",
      "bHAL,bHI,bHI TIMES ASH,dASH2,dBAD,dDISH,dGAD,dKIN,dNUN,dSHE,dU,bHU,bHUB2,bHUB2 TIMES AN",
      "dHAL,dKASKAL,dLISH,dUD,bHUL2,bI,bI A,bIB,bIDIM,bIDIM OVER IDIM BUR,eSQUARED,bIG,bIGI",
      "bIGI DIB,cRI,cOVER IGI SHIR OVER SHIR UD OVER UD,cGUNU,bIL,bIL TIMES GAN2 TENU,bIL2,bIM",
      "bIM TIMES TAK4,cCROSSING IM,cOPPOSING a,cSQUARED,bIMIN,bIN,bIR,bISH,bKA,bKA TIMES A,dAD",
      "dAD PLUS KU3,dASH2,dBAD,dBALAG,dBAR,dBI,dERIN2,dESH2,dGA,dGAL,dGAN2 TENU,dGAR",
      "dGAR PLUS SHA3 PLUS A,dGI,dGIR2,dGISH PLUS SAR,eCROSSING GISH,dGU,dGUR7,dIGI,dIM,dKAK,dKI",
      "dKID,dLI,dLU,dME,dME PLUS DU,fGI,fTE,dMI,dMI PLUS NUNUZ,dNE,dNUN,dPI,dRU,dSA,dSAR,dSHA",
      "dSHE,dSHID,dSHU,dSIG,dSUHUR,dTAR,dU,dU2,dUD,dUMUM TIMES PA,dUSH,dZI,bKA2",
      "bKA2 CROSSING KA2,bKAB,bKAD2,3,bKAD5 OVER KAD5,bKAK,bKAK TIMES IGI GUNU,bKAL",
      "bKAL TIMES BAD,cCROSSING KAL,bKAM2,bKAM4,bKASKAL,bKASKAL LAGAB TIMES U OVER LAGAB TIMES U",
      "cOVER KASKAL LAGAB TIMES U OVER LAGAB TIMES U,bKESH2,bKI,bKI TIMES BAD,dU,dUD,bKID,bKIN",
      "bKISAL,bKISH,bKISIM5,bKISIM5 OVER KISIM5,bKU,bKU OVER HI TIMES ASH2 KU OVER HI TIMES ASH2",
      "bKU3,1,bKU4 VARIANT FORM,bKU7,bKUL,bKUL GUNU,bKUN,bKUR,bKUR OPPOSING KUR,bKUSHU2,bKWU318",
      "bLA,bLAGAB,bLAGAB TIMES A,dA PLUS DA PLUS HA,fGAR,fLAL,dAL,dAN,dASH ZIDA TENU,dBAD,dBI",
      "dDAR,dEN,dGA,dGAR,dGUD,dGUD PLUS GUD,dHA,dHAL,dHI TIMES NUN,dIGI GUNU,dIM,dIM PLUS HA,fLU",
      "dKI,dKIN,dKU3,dKUL,dKUL PLUS HI PLUS A,dLAGAB,dLISH,dLU,dLUL,dME,dME PLUS EN,dMUSH,dNE",
      "dSHE PLUS SUM,dSHITA aGISH PLUS ERIN2,gTENU,dSHU2,dSHU2 PLUS SHU2,dSUM,dTAG,dTAK4",
      "dTE PLUS A PLUS SU PLUS NA,dU,dU PLUS A,fU PLUS U,dU2 aASH,dUD,dUSH,cSQUARED,bLAGAR",
      "bLAGAR TIMES SHE,dSHE PLUS SUM,cGUNU,cGUNU OVER LAGAR GUNU SHE,bLAHSHU,bLAL",
      "bLAL TIMES LAL,bLAM,bLAM TIMES KUR,dKUR PLUS RU,bLI,bLIL,bLIMMU2,bLISH,bLU,bLU TIMES BAD",
      "bLU2,bLU2 TIMES AL,dBAD"]⟩,
    ⟨0x12200, ["CUNEIFORM SIGN LU2 TIMES ESH2,dESH2 TENU,dGAN2 a,dHI TIMES BAD,dIM,dKAD2,1",
      "dKAD3 PLUS ASH,dKI,dLA PLUS ASH,dLAGAB,dME PLUS EN,dNE,dNU,dSI PLUS ASH,dSIK2 aBU,dTUG2",
      "cTENU,cCROSSING LU2,cOPPOSING a,cSQUARED,cSHESHIG,bLU3,bLUGAL,bLUGAL OVER LUGAL",
      "cOPPOSING a,cSHESHIG,bLUH,bLUL,1,bLUM OVER LUM,dLUM GAR OVER GAR,bMA,bMA TIMES TAK4,cGUNU",
      "bMA2,bMAH,bMAR,bMASH,bMASH2,bME,bMES,bMI,bMIN,bMU,bMU OVER MU,bMUG,bMUG GUNU,bMUNSUB",
      "bMURGU2,bMUSH,bMUSH TIMES A,dKUR,dZA,cOVER MUSH,dMUSH TIMES A PLUS NA,cCROSSING MUSH",
      "bMUSH3,bMUSH3 TIMES A,dA PLUS DI,dDI,cGUNU,bNA,bNA2,bNAGA,bNAGA INVERTED,cTIMES SHU TENU",
      "cOPPOSING NAGA,bNAGAR,bNAM NUTILLU,bNAM,bNAM2,bNE,bNE TIMES A,dUD,cSHESHIG,bNI",
      "bNI TIMES E,bNI2,bNIM,bNIM TIMES GAN2 TENU,dGAR PLUS GAN2 TENU,bNINDA2,bNINDA2 TIMES AN",
      "dASH,dASH PLUS ASH,dGUD,dME PLUS GAN2 TENU,dNE,dNUN,dSHE,dSHE PLUS A AN,fASH",
      "fASH PLUS ASH,dU2 aASH,dUSH,bNISAG,bNU,bNU11,bNUN,bNUN LAGAR TIMES GAR,eMASH,eSAL",
      "eSAL OVER NUN LAGAR TIMES SAL,eUSH,cTENU,cOVER NUN,cCROSSING a,dNUN LAGAR OVER LAGAR",
      "bNUNUZ,bNUNUZ AB2 TIMES ASHGAB,eBI,eDUG,eGUD,eIGI GUNU,eKAD3,eLA,eNE,eSILA3,eU2",
      "cKISIM5 aBI,eBI U,bPA,bPAD,bPAN,bPAP,bPESH2,bPI,bPI TIMES A,dAB,dBI,dBU,dE,dI,dIB,dU,dU2",
      "cCROSSING PI,bPIRIG,bPIRIG TIMES KAL,dUD,dZA,cOPPOSING PIRIG,bRA,bRAB,bRI,bRU,bSA",
      "bSAG NUTILLU,bSAG,bSAG TIMES A,dDU,dDUB,dHA,dKAK,dKUR,dLUM,dMI,dNUN,dSAL,dSHID,dTAB,dU2",
      "dUB,dUM,dUR,dUSH,cOVER SAG,cGUNU,bSAL,bSAL LAGAB TIMES ASH2,bSANGA2,bSAR,bSHA,bSHA3",
      "bSHA3 TIMES A,dBAD,dGISH,dNE,dSHU2,dTUR,dU,dU PLUS A,bSHA6,bSHAB6,bSHAR2,bSHE,bSHE HU",
      "cOVER SHE GAD OVER GAD GAR OVER GAR,eTAB aTAB c,bSHEG9,bSHEN,bSHESH,bSHESH2,bSHESHLAM",
      "bSHID,bSHID TIMES A,dIM,bSHIM,bSHIM TIMES A,dBAL,dBULUG,dDIN,dGAR,dIGI,dIGI GUNU,dKUSHU2",
      "dLUL,dMUG,dSAL,bSHINIG,bSHIR,bSHIR TENU,cOVER SHIR BUR OVER BUR,bSHITA,bSHU",
      "bSHU OVER INVERTED SHU,bSHU2,bSHUBUR,bSI,bSI GUNU,bSIG,bSIG4,bSIG4 OVER SIG4 SHU2,bSIK2",
      "bSILA3,bSU,bSU OVER SU,bSUD,bSUD2,bSUHUR,bSUM,bSUMASH,bSUR,bSUR9,bTA,bTA ASTERISK",
      "cTIMES HI,dMI,cGUNU,bTAB,bTAB OVER TAB NI OVER NI DISH OVER DISH,cSQUARED,bTAG",
      "bTAG TIMES BI,dGUD,dSHE,dSHU,dTUG2,dUD,bTAK4,bTAR,bTE,bTE GUNU,bTI,bTI TENU"]⟩,
    ⟨0x12300, ["CUNEIFORM SIGN TIL,bTIR,bTIR TIMES TAK4,cOVER TIR",
      "dTIR GAD OVER GAD GAR OVER GAR,bTU,bTUG2,bTUK,bTUM,bTUR,bTUR OVER TUR ZA OVER ZA,bU",
      "bU GUD,cU U,cOVER U PA OVER PA GAR OVER GAR,eSUR aSUR,eU REVERSED OVER U REVERSED,bU2,bUB",
      "bUD,bUD KUSHU2,cTIMES BAD,dMI,dU PLUS U PLUS U,hU GUNU,cGUNU,cSHESHIG,cSHESHIG TIMES BAD",
      "bUDUG,bUM,bUM TIMES LAGAB,dME PLUS DA,dSHA3,dU,bUMBIN,bUMUM,bUMUM TIMES KASKAL,dPA,bUN",
      "bUN GUNU,bUR,bUR CROSSING UR,cSHESHIG,bUR2,bUR2 TIMES A PLUS HA,fNA,dAL,dHA,dNUN,dU2",
      "dU2 PLUS ASH,fBI,bUR4,bURI,bURI3,bURU,bURU TIMES A,dASHGAB,dBAR,dDUN,dGA,dGAL,dGAN2 TENU",
      "dGAR,dGU,dHA,dIGI,dIM,dISH,dKI,dLUM,dMIN,dPA,dSHE,dSIG4,dTU,dU PLUS GUD,dUD,dURUDA,bURUDA",
      "bURUDA TIMES U,bUSH,bUSH TIMES A,dKU,dKUR,dTAK4,bUSHX,bUSH2,bUSHUMX,bUTUKI,bUZ3",
      "bUZ3 TIMES KASKAL,bUZU,bZA,bZA TENU,cSQUARED TIMES KUR,bZAG,bZAMX,bZE2,bZI,bZI OVER ZI",
      "bZI3,bZIB,bZIB KABA TENU,bZIG,bZIZ2,bZU,bZU5,bZU5 TIMES A,bZUBUR,bZUM,bKAP ELAMITE",
      "bAB TIMES NUN,bAB2 aA,bAMAR aKUG,bDAG KISIM5 TIMES U2 PLUS MASH,bDAG3,bDISH PLUS SHU",
      "bDUB TIMES SHE,bEZEN aGUD,dSHE,bGA2 aAN PLUS KAK PLUS A,dASH2,bGE22,bGIG,bHUSH",
      "bKA TIMES ANSHE,dASH3,dGISH,dGUD,dHI TIMES ASH2,dLUM,dPA,dSHUL,dTU,dUR2,bLAGAB aGI",
      "bLU2 SHESHIG TIMES BAD,cTIMES ESH2 PLUS LAL,dSHU,bMESH,bMUSH3 TIMES ZA,bNA4,bNIN,bNIN9",
      "bNINDA2 TIMES BAL,dGI,bNU11 ROTATED NINETY DEGREES,bPESH2 ASTERISK,bPIR2",
      "bSAG TIMES IGI GUNU,bTI2,bUM TIMES ME,bU U"]⟩,
    ⟨0x12400, ["CUNEIFORM NUMERIC SIGN TWO ASH,cTHREE a,cFOUR a,cFIVE a,cSIX a,cSEVEN a",
      "cEIGHT a,cNINE a,cTHREE DISH,cFOUR a,cFIVE a,cSIX a,cSEVEN a,cEIGHT a,cNINE a,cFOUR U",
      "cFIVE a,cSIX a,cSEVEN a,cEIGHT a,cNINE a,cONE GESH2,cTWO a,cTHREE a,cFOUR a,cFIVE a",
      "cSIX a,cSEVEN a,cEIGHT a,cNINE a,cONE GESHU,cTWO a,cTHREE a,cFOUR a,cFIVE a,cTWO SHAR2",
      "cTHREE a,dSHAR2 VARIANT FORM,cFOUR SHAR2,cFIVE a,cSIX a,cSEVEN a,cEIGHT a,cNINE a",
      "cONE SHARU,cTWO a,cTHREE a,dSHARU VARIANT FORM,cFOUR SHARU,cFIVE a",
      "cSHAR2 TIMES GAL PLUS DISH,gMIN,cONE BURU,cTWO a,cTHREE a,dBURU VARIANT FORM,cFOUR BURU",
      "cFIVE a,cTHREE VARIANT FORM ESH16,fESH21,cFOUR bLIMMU,fLIMMU4,fLIMMU A,1,cSIX bASH9",
      "cSEVEN bIMIN3,fIMIN A,1,cEIGHT bUSSU,fUSSU3,cNINE bILIMMU,fILIMMU3,1,fILIMMU A",
      "cTWO ASH TENU,cTHREE b,cFOUR b,cFIVE b,cSIX b,cONE BAN2,cTWO a,cTHREE a,cFOUR a",
      "dBAN2 VARIANT FORM,cFIVE BAN2,dBAN2 VARIANT FORM,cNIGIDAMIN,cNIGIDAESH,cONE ESHE3,cTWO a",
      "cONE THIRD DISH,cTWO THIRDS a,cFIVE SIXTHS a,cONE THIRD VARIANT FORM A,cTWO THIRDS c",
      "cONE EIGHTH ASH,dQUARTER a,cOLD ASSYRIAN ONE SIXTH,fQUARTER,cONE QUARTER GUR,dHALF a",
      "cELAMITE ONE THIRD,dTWO THIRDS,dFORTY,dFIFTY,cFOUR U VARIANT FORM,cFIVE c,cSIX c,cSEVEN c",
      "cEIGHT c,cNINE c,,aPUNCTUATION aOLD ASSYRIAN WORD DIVIDER,cVERTICAL COLON,cDIAGONAL a",
      "dTRICOLON,dQUADCOLON"]⟩,
    ⟨0x12480, ["CUNEIFORM SIGN AB TIMES NUN TENU,dSHU2,bAD aESH2,bBAD aDISH TENU,bBAHAR2 aAB2",
      "dNI,dZA,bBU OVER BU TIMES NA2,bDA TIMES TAK4,bDAG aKUR,bDIM aIGI,dU U U,bDIM2 aUD",
      "bDUG aANSHE,dASH,dASH AT LEFT,dDIN,dDUN,dERIN2,dGA,dGI,dGIR2 GUNU,dGISH,dHA,dHI,dIGI GUNU",
      "dKASKAL,dKUR,dKUSHU2,dKUSHU2 PLUS KASKAL,dLAK-020,dLAM,dLAM TIMES KUR,dLUH PLUS GISH",
      "dMASH,dMES,dMI,dNI,dPI,dSHE,dSI GUNU,bE2 aKUR,dPAP,bERIN2 X,bESH2 CROSSING ESH2",
      "bEZEN SHESHIG TIMES ASH,eHI,eIGI GUNU,eLA,eLAL,eME,eMES,eSU,cTIMES SU,bGA2 aBAHAR2",
      "dDIM GUNU,dDUG TIMES IGI GUNU,fKASKAL,dEREN,dGA,dGAR PLUS DI,fNE,dHA aA,dKUSHU2 aKASKAL",
      "dLAM,dLAM TIMES KUR,dLUH,dMUSH,dNE,dNE PLUS E2,fGI,dSHIM,dZIZ2",
      "bGABA ROTATED NINETY DEGREES,bGESHTIN TIMES U,bGISH aGISH CROSSING GISH,bGU2 aIGI GUNU",
      "bGUD PLUS GISH TIMES TAK4,bHA TENU GUNU,bHI TIMES ASH OVER HI TIMES ASH,bKA aBU,dKA",
      "dU U U,dUR,bLAGAB aZU OVER ZU,bLAK-003,c021,c025,c030,c050,1,c062,c079 OVER LAK-079 GUNU",
      "c080,c081 OVER LAK-081,c092,c130,c142,c210,c219,1,c225,c228,c238,c265,1,c343,c347,1,c383",
      "1,c390,c441,c449,c449 TIMES GU,eIGI,ePAP PLUS LU3,gPAP PLUS LU3,eU2 aBA,c450,c457,c470",
      "c483,c490,c492,1,c495,c550"]⟩,
    ⟨0x12500, ["CUNEIFORM SIGN LAK-608,c617,c617 TIMES ASH,eBAD,eDUN3 GUNU GUNU,eKU3,eLA,eTAR",
      "eTE,eU2,eUD,eURUDA,c636,c648,c648 TIMES DUB,eGA,eIGI,eIGI GUNU,eNI,ePAP PLUS PAP PLUS LU3",
      "eSHESH aKI,eUD,eURUDA,c724,c749,bLU2 GUNU TIMES ASH,cTIMES DISH,dHAL,dPAP",
      "dPAP PLUS PAP PLUS LU3,dTAK4,bMI PLUS ZA7,bMUSH OVER MUSH TIMES GA,fKAK",
      "bNINDA2 TIMES DIM GUNU,dGISH,dGUL,dHI,dKESH2,dLAK-050,dMASH,dPAP PLUS PAP,dU,dU PLUS U",
      "dURUDA,bSAG GUNU TIMES HA,cTIMES EN,dSHE AT LEFT,dTAK4,bSHA6 TENU,bSHE OVER SHE",
      "cPLUS HUB2,dNAM2,dSAR,bSHU2 aDUG TIMES NI,dE2 aAN,bSI TIMES TAK4,bTAK4 PLUS SAG",
      "bTUM TIMES GAN2 TENU,dTHREE DISH,bUR2 INVERTED,cTIMES UD,bURU aDARA3,dLAK-668,dLU3,bZA7",
      "bZU OVER ZU PLUS SAR,bZU5 TIMES THREE DISH TENU"]⟩,
    ⟨0x12F90, ["CYPRO-MINOAN SIGN CM001,1,cCM004,8,cCM012B,cCM013,cCM015,cCM017,cCM019,cCM021",
      "cCM023,7,cCM033,8,cCM044,cCM046,1,cCM049,7,cCM058,6,cCM066,9,cCM075B,cCM076,cCM078,14",
      "cCM094,11,cCM107,3,cCM112,cCM114,cCM301,1"]⟩,
    ⟨0x13000, ["EGYPTIAN HIEROGLYPH A001,4,bA005A,bA006,bA006A,1,bA007,7,bA014A,bA015,2",
      "bA017A,bA018,14,bA032A,bA033,7,bA040A,bA041,1,bA042A,bA043,bA043A,bA044,1,bA045A,bA046,24",
      "bB001,4,bB005A,bB006,3,bC001,1,bC002A,2,bC003,7,bC010A,bC011,13,bD001,7,bD008A,bD009,18",
      "bD027A,bD028,3,bD031A,bD032,2,bD034A,bD035,11,bD046A,bD047,1,bD048A,bD049,1,bD050A,8",
      "bD051,1,bD052A,bD053,1,bD054A,bD055,12,bD067A,7,bE001,7,bE008A,bE009,bE009A,bE010,6",
      "bE016A,bE017,bE017A,bE018,2,bE020A,bE021,7,bE028A,bE029,5,bE034A,bE036,2,bF001,bF001A"]⟩,
    ⟨0x13100, ["EGYPTIAN HIEROGLYPH F002,11,bF013A,bF014,7,bF021A,bF022,9,bF031A,bF032,5",
      "bF037A,bF038,bF038A,bF039,6,bF045A,bF046,bF046A,bF047,bF047A,bF048,3,bF051A,2,bF052,1",
      "bG001,5,bG006A,bG007,bG007A,1,bG008,3,bG011A,bG012,8,bG020A,bG021,5,bG026A,bG027,9,bG036A",
      "bG037,bG037A,bG038,5,bG043A,bG044,1,bG045A,bG046,8,bH001,5,bH006A,bH007,1,bI001,4,bI005A",
      "bI006,3,bI009A,bI010,bI010A,bI011,bI011A,bI012,3,bK001,7,bL001,1,bL002A,bL003,3,bL006A",
      "bL007,1,bM001,bM001A,1,bM002,1,bM003A,bM004,6,bM010A,bM011,1,bM012A,7,bM013,2,bM015A",
      "bM016,bM016A,bM017,bM017A,bM018,4,bM022A,bM023,1,bM024A,bM025,3,bM028A,bM029,2,bM031A",
      "bM032,1,bM033A,1,bM034,6,bM040A,bM041,3,bN001,16"]⟩,
    ⟨0x13200, ["EGYPTIAN HIEROGLYPH N018,bN018A,1,bN019,6,bN025A,bN026,7,bN033A,bN034,bN034A",
      "bN035,bN035A,bN036,1,bN037A,bN038,4,bNL001,4,bNL005A,bNL006,11,bNL017A,bNL018,2,bNU001,9",
      "bNU010A,bNU011,bNU011A,bNU012,6,bNU018A,bNU019,3,bNU022A,bO001,bO001A,bO002,3,bO005A",
      "bO006,bO006A,5,bO007,3,bO010A,2,bO011,8,bO019A,bO020,bO020A,bO021,3,bO024A,bO025,bO025A",
      "bO026,3,bO029A,bO030,bO030A,bO031,2,bO033A,bO034,2,bO036A,3,bO037,13,bO050A,1,bO051,bP001",
      "bP001A,bP002,1,bP003A,bP004,7,bQ001,6,bR001,1,bR002A,bR003,bR003A,1,bR004,6,bR010A,bR011",
      "5,bR016A,bR017,12,bS001,1,bS002A,bS003,3,bS006A,bS007,7,bS014A,1,bS015,2,bS017A,bS018,8",
      "bS026A,1,bS027,8,bS035A,bS036,3"]⟩,
    ⟨0x13300, ["EGYPTIAN HIEROGLYPH S040,6,bT001,2,bT003A,bT004,3,bT007A,bT008,bT008A,bT009",
      "bT009A,bT010,1,bT011A,bT012,4,bT016A,bT017,15,bT032A,bT033,bT033A,bT034,2,bU001,5,bU006A",
      "1,bU007,16,bU023A,bU024,5,bU029A,bU030,2,bU032A,bU033,9,bV001,bV001A,8,bV002,bV002A,bV003",
      "4,bV007A,1,bV008,3,bV011A,2,bV012,bV012A,1,bV013,7,bV020A,11,bV021,2,bV023A,bV024,4",
      "bV028A,bV029,bV029A,bV030,bV030A,bV031,bV031A,bV032,1,bV033A,bV034,3,bV037A,bV038,2",
      "bV040A,bW001,2,bW003A,bW004,5,bW009A,bW010,bW010A,bW011,3,bW014A,bW015,2,bW017A,bW018",
      "bW018A,bW019,5,bW024A,bW025,bX001,3,bX004A,1,bX005,1,bX006A,bX007,1,bX008A,bY001,bY001A",
      "bY002,6,bZ001,1,bZ002A,3,bZ003,bZ003A,1,bZ004,bZ004A,bZ005,bZ005A,bZ006,9,bZ015A,4"]⟩,
    ⟨0x13400, ["EGYPTIAN HIEROGLYPH Z015F,3,bZ016,bZ016A,7,bAA001,6,bAA007A,1,bAA008,24,",
      "bVERTICAL JOINER,bHORIZONTAL a,bINSERT AT TOP START,dBOTTOM a,dTOP END,dBOTTOM a",
      "bOVERLAY MIDDLE,bBEGIN SEGMENT,bEND a"]⟩,
    ⟨0x14400, ["ANATOLIAN HIEROGLYPH A001,9,bA010A,bA011,15,bA026A,bA027,12,bA039A,bA040,1",
      "bA041A,bA042,3,bA045A,bA046,bA046A,1,bA047,19,bA066A,2,bA067,30,bA097A,bA098,bA098A,bA099",
      "1,bA100A,bA101,bA101A,bA102,bA102A,bA103,1,bA104A,2,bA105,bA105A,1,bA106,1,bA107A,2,bA108",
      "2,bA110A,1,bA111,4,bA115A,bA116,9,bA125A,bA126,9,bA135A,bA136,66,bA202A,1,bA203,4,bA207A",
      "bA208,1,bA209A,bA210,5,bA215A,bA216,bA216A,bA217,5"]⟩,
    ⟨0x14500, ["ANATOLIAN HIEROGLYPH A223,4,bA227A,bA228,39,bA267A,bA268,21,bA289A,bA290,4",
      "bA294A,bA295,4,bA299A,bA300,9,bA309A,bA310,19,bA329A,bA330,1,bA332A,2,bA333,3,bA336A,2",
      "bA337,22,bA359A,bA360,4,bA364A,bA365,3,bA368A,bA369,2,bA371A,bA372,9,bA381A,bA382",
      "bA383 RA OR RI,bA383A,bA384,2,bA386A,bA387,5,bA393 EIGHT,bA394,15",
      "bA410 BEGIN LOGOGRAM MARK,bA410A END b,bA411,39,bA450A,bA451,6"]⟩,
    ⟨0x14600, ["ANATOLIAN HIEROGLYPH A457A,bA458,39,bA501,29"]⟩,
    ⟨0x16800, ["BAMUM LETTER PHASE-A NGKUE MFON,dGBIEE FON,dPON MFON PIPAEMGBIEE,fPIPAEMBA",
      "dNAA MFON,dSHUENSHUET,dTITA MFON,dNZA a,dSHINDA PA NJI,dPON aNJI PIPAEMGBIEE,gPIPAEMBA",
      "dMAEMBGBIEE,dTU MAEMBA,dNGANGU,dMAEMVEUX,dMANSUAE,dMVEUAENGAM,dSEUNYAM,dNTOQPEN",
      "dKEUKEUTNDA,dNKINDI,dSUU,dNGKUENZEUM,dLAPAQ,dLET KUT,dNTAP MFAA,dMAEKEUP,dPASHAE",
      "dGHEUAERAE,dPAMSHAE,dMON NGGEUAET,dNZUN MEUT,dU YUQ NAE,dGHEUAEGHEUAE,dNTAP NTAA,dSISA",
      "dMGBASA,dMEUNJOMNDEUQ,dMOOMPUQ,dKAFA,dPA LEERAEWA,dNDA a,dPET,dMAEMKPEN,dNIKA,dPUP,dTUAEP",
      "dLUAEP,dSONJAM,dTEUTEUWEN,dMAENYI,dKET,dNDAANGGEUAET,dKUOQ,dMOOMEUT,dSHUM,dLOMMAE,dFIRI",
      "dROM,dKPOQ,dSOQ,dMAP PIEET,dSHIRAE,dNTAP,dSHOQ NSHUT YUM,dNYIT MONGKEUAEQ,dPAARAE",
      "dNKAARAE,dUNKNOWN,dNGGEN,dMAESI,dNJAM,dMBANYI,dNYET,dTEUAEN,dSOT,dPAAM,dNSHIEE,dMAEM,dNYI",
      "dKAQ,dNSHA,dVEE,dLU,dNEN,dNAQ,dMBAQ,cB NSHUET,dTU MAEMGBIEE,dSIEE,dSET TU,dLOM NTEUM",
      "dMBA MAELEE,dKIEEM,dYEURAE,dMBAARAE,dKAM,dPEESHI,dYAFU LEERAEWA,dLAM NSHUT NYAM",
      "dNTIEE SHEUOQ,dNDU NJAA,dGHEUGHEUAEM,dPIT,dTU NSIEE,dSHET NJAQ,dSHEUAEQTU,dMFON TEUAEQ",
      "dMBIT MBAAKET,dNYI NTEUM,dKEUPUQ,dGHEUGHEN,dKEUYEUX,dLAANAE,dPARUM,dVEUM,dNGKINDI MVOP",
      "dNGGEU MBU,dWUAET,dSAKEUAE,dTAAM,dMEUQ,dNGGUOQ,dNGGUOQ LARGE,dMFIYAQ,dSUE,dMBEURI",
      "dMONTIEEN,dNYAEMAE,dPUNGAAM,dMEUT NGGEET,dFEUX,dMBUOQ,dFEE,dKEUAEM,dMA NJEUAENA,eNJUQA",
      "dLET,dNGGAAM,dNSEN,dMA,dKIQ,dNGOM,cC NGKUE MAEMBA,dNZA,dYUM,dWANGKUOQ,dNGGEN,dNDEUAEREE",
      "dNGKAQ,dGHARAE,dMBEEKEET,dGBAYI,dNYIR MKPARAQ MEUN,dNTU MBIT,dMBEUM,dPIRIEEN,dNDOMBU",
      "dMBAA CABBAGE-TREE,dKEUSHEUAEP,dGHAP,dKEUKAQ,dYU MUOMAE,dNZEUM,dMBUE,dNSEUAEN,dMBIT,dYEUQ",
      "dKPARAQ,dKAA,dSEUX,dNDIDA,dTAASHAE,dNJUEQ,dTITA YUE,dSUAET,dNGGUAEN NYAM,dVEUX,dNANSANAQ",
      "dMA KEUAERI,dNTAA,dNGGUON,dLAP,dMBIRIEEN,dMGBASAQ,dNTEUNGBA,dTEUTEUX,dNGGUM,dFUE,dNDEUT",
      "dNSA,dNSHAQ,dBUNG,dVEUAEPEN,dMBERAE,dRU,dNJAEM,dLAM,dTITUAEP,dNSUOT NGOM,dNJEEEE,dKET",
      "dNGGU,dMAESI,dMBUAEM,dLU,dKUT,dNJAM,dNGOM,dWUP,dNGGUEET,dNSOM,dNTEN,dKUOP NKAARAE,dNSUN",
      "dNDAM,dMA NSIEE,dYAA,dNDAP,dSHUEQ,dSETFON,dMBI,dMAEMBA,dMBANYI,dKEUSEUX,dMBEUX,dKEUM",
      "dMBAA PICKET,dYUWOQ,dNJEUX,dMIEE,dMUAE,dSHIQ,dKEN LAW,eFATIGUE,dNGAQ,dNAQ,dLIQ,dPIN,dPEN",
      "dTET,cD MBUO,dWAP,dNJI,dMFON,dNJIEE,dLIEE,dNJEUT,dNSHEE,dNGGAAMAE,dNYAM,dWUAEN,dNGKUN",
      "dSHEE,dNGKAP,dKEUAETMEUN"]⟩,
    ⟨0x16900, ["BAMUM LETTER PHASE-D TEUT,dSHEUAE,dNJAP,dSUE,dKET,dYAEMMAE,dKUOM,dSAP,dMFEUT",
      "dNDEUX,dMALEERI,dMEUT,dSEUAEQ,dYEN,dNJEUAEM,dKEUOT MBUAE,dNGKEURI,dTU,dGHAA,dNGKYEE",
      "dFEUFEUAET,dNDEE,dMGBOFUM,dLEUAEP,dNDON,dMONI,dMGBEUN,dPUUT,dMGBIEE,dMFO,dLUM,dNSIEEP",
      "dMBAA,dKWAET,dNYET,dTEUAEN,dSOT,dYUWOQ,dKEUM,dRAEM,dTEEEE,dNGKEUAEQ,dMFEUAE,dNSIEET,dKEUP",
      "dPIP,dPEUTAE,dNYUE,dLET,dNGGAAM,dMFIEE,dNGGWAEN,dYUOM,dPAP,dYUOP,dNDAM,dNTEUM,dSUAE,dKUN",
      "dNGGEUX,dNGKIEE,dTUOT,dMEUN,dKUQ,dNSUM,dTEUN,dMAENJET,dNGGAP,dLEUM,dNGGUOM,dNSHUT,dNJUEQ",
      "dGHEUAE,dKU,dREN OLD,dTAE,dTOQ,dNYI,dRII,dLEEEE,dMEEEE,dM,dSUU,dMU,dSHII,dSHEUX,dKYEE,dNU",
      "dSHU,dNTEE,dPEE,dNI,dSHOQ,dPUQ,dMVOP,dLOQ,dREN MUCH,dTI,dNTUU,dMBAA SEVEN,dSAQ,dFAA",
      "cE NDAP,dTOON,dMBEUM,dLAP,dVOM,dLOON,dPAA,dSOM,dRAQ,dNSHUOP,dNDUN,dPUAE,dTAM,dNGKA,dKPEUX",
      "dWUO,dSEE,dNGGEUAET,dPAAM,dTOO,dKUOP,dLOM,dNSHIEE,dNGOP,dMAEM,dNGKEUX,dNGOQ,dNSHUE",
      "dRIMGBA,dNJEUX,dPEEM,dSAA,dNGGURAE,dMGBA,dGHEUX,dNGKEUAEM,dNJAEMLI,dMAP,dLOOT,dNGGEEEE",
      "dNDIQ,dTAEN NTEUM,dSET,dPUM,dNDAA SOFTNESS,dNGGUAESHAE NYAM,dYIEE,dGHEUN,dTUAE,dYEUAE,dPO",
      "dTUMAE,dKEUAE,dSUAEN,dTEUAEQ,dVEUAE,dWEUX,dLAAM,dPU,dTAAQ,dGHAAMAE,dNGEUREUT,dSHEUAEQ",
      "dMGBEN,dMBEE,dNZAQ,dNKOM,dGBET,dTUM,dKUET,dYAP,dNYI CLEAVER,dYIT,dMFEUQ,dNDIAQ,dPIEEQ",
      "dYUEQ,dLEUAEM,dFUE,dGBEUX,dNGKUP,dKET,dMAE,dNGKAAMI,dGHET,dFA,dNTUM,dPEUT,dYEUM,dNGGEUAE",
      "dNYI BETWEEN,dNZUQ,dPOON,dMIEE,dFUET,dNAE,dMUAE,dGHEUAE,dFU I,dMVI,dPUAQ,dNGKUM,dKUT",
      "dPIET,dNTAP,dYEUAET,dNGGUP,dPA PEOPLE,dFU CALL,dFOM,dNJEE,dA,dTOQ,dO,dI,dLAQ,dPA PLURAL",
      "dTAA,dTAQ,dNDAA MY HOUSE,dSHIQ,dYEUX,dNGUAE,dYUAEN,dYOQ SWIMMING,eCOVER,dYUQ,dYUN,dKEUX",
      "dPEUX,dNJEE EPOCH,dPUE,dWUE,dFEE,dVEE,dLU,dMI,dREUX,dRAE,dNGUAET,dNGA,dSHO,dSHOQ",
      "dFU REMEDY,dNA,dPI,dLOQ,dKO,dMEN,dMA,dMAQ,dTEU,dKI,dMON"]⟩,
    ⟨0x16A00, ["BAMUM LETTER PHASE-E TEN,dFAQ,dGHOM,cF KA,dU,dKU,dEE,dREE,dTAE,dNYI,dLA,dRII",
      "dRIEE,dMEEEE,dTAA,dNDAA,dNJAEM,dM,dSUU,dSHII,dSI,dSEUX,dKYEE,dKET,dNUAE,dNU,dNJUAE,dYOQ",
      "dSHU,dYA,dNSHA,dPEUX,dNTEE,dWUE,dPEE,dRU,dNI,dREUX,dKEN,dNGKWAEN,dNGGA,dSHO,dPUAE,dFOM",
      "dWA,dLI,dLOQ,dKO,dMBEN,dREN,dMA,dMO,dMBAA,dTET,dKPA,dSAMBA,dVUEQ"]⟩,
    ⟨0x16A40, ["MRO LETTER TA,bNGI,bYO,bMIM,bBA,bDA,bA,bPHI,bKHAI,bHAO,bDAI,bCHU,bKEAAE,bOL",
      "bMAEM,bNIN,bPA,bOO,bO,bRO,bSHI,bTHEA,bEA,bWA,bE,bKO,bLAN,bLA,bHAI,bRI,bTEK,,aDIGIT ZERO",
      "bONE,bTWO,bTHREE,bFOUR,bFIVE,bSIX,bSEVEN,bEIGHT,bNINE,,,,,aDANDA,aDOUBLE DANDA",
      "TANGSA LETTER OZ,bOC,bOQ,bOX,bAZ,bAC,bAQ,bAX,bVZ,bVC,bVQ,bVX,bEZ,bEC,bEQ,bEX,bIZ,bIC,bIQ",
      "bIX,bUZ,bUC,bUQ,bUX,bAWZ,bAWC,bAWQ,bAWX,bUIZ,bUIC,bUIQ,bUIX,bFINAL NG,bLONG UEX",
      "bSHORT UEZ,cAWX,bUEC,bUEZ,bUEQ,bUEX,bUIUZ,bUIUC,bUIUQ,bUIUX,bMZ,bMC,bMQ,bMX,bKA,bKHA,bGA",
      "bNGA,bSA,bYA,bWA,bPA,bNYA,bPHA,bBA,bMA,bNA,bHA,bLA,bHTA,bTA,bDA,bRA,bNHA,bSHA,bCA,bTSA",
      "bGHA,bHTTA,bTHA,bXA,bFA,bDHA,bCHA,bZA,,aDIGIT ZERO,bONE,bTWO,bTHREE,bFOUR,bFIVE,bSIX",
      "bSEVEN,bEIGHT,bNINE"]⟩,
    ⟨0x16AD0, ["BASSA VAH LETTER ENNI,cKA,cSE,cFA,cMBE,cYIE,cGAH,cDHII,cKPAH,cJO,cHWAH,cWA",
      "cZO,cGBU,cDO,cCE,cUWU,cTO,cBA,cVU,cYEIN,cPA,cWADDA,cA,cO,cOO,cU,cEE,cE,cI,,",
      "bCOMBINING HIGH TONE,cLOW a,cMID a,cLOW-MID TONE,cHIGH-LOW a,bFULL STOP"]⟩,
    ⟨0x16B00, ["PAHAWH HMONG VOWEL KEEB,cKEEV,cKIB,cKIV,cKAUB,cKAUV,cKUB,cKUV,cKEB,cKEV,cKAIB",
      "cKAIV,cKOOB,cKOOV,cKAWB,cKAWV,cKUAB,cKUAV,cKOB,cKOV,cKIAB,cKIAV,cKAB,cKAV,cKWB,cKWV,cKAAB",
      "cKAAV,bCONSONANT VAU,cNTSAU,cLAU,cHAU,cNLAU,cRAU,cNKAU,cQHAU,cYAU,cHLAU,cMAU,cCHAU,cNCHAU",
      "cHNAU,cPLHAU,cNTHAU,cNAU,cAU,cXAU,cCAU,bMARK CIM TUB,dSO,dKES,dKHAV,dSUAM,dHOM,dTAUM",
      "bSIGN VOS THOM,dTSHAB CEEB,cCIM CHEEM,cVOS THIAB,dFEEM,cXYEEM NTXIV,dRHO,dTOV,dFAIB",
      "cVOS SEEV,cMEEJ SUAB,cVOS NRUA,cIB YAM,cXAUS,cCIM TSOV ROG"]⟩,
    ⟨0x16B50, ["PAHAWH HMONG DIGIT ZERO,cONE,cTWO,cTHREE,cFOUR,cFIVE,cSIX,cSEVEN,cEIGHT,cNINE",
      ",bNUMBER TENS,cHUNDREDS,cTEN THOUSANDS,cMILLIONS,cHUNDRED MILLIONS,cTEN BILLIONS",
      "cTRILLIONS,,bSIGN VOS LUB,cXYOO,cHLI,cTHIRD-STAGE HLI,cZWJ THAJ,cHNUB,cNQIG,cXIAB,cNTUJ",
      "cAV,cTXHEEJ CEEV,cMEEJ TSEEB,cTAU,cLOS,cMUS,cCIM HAIS LUS NTOG NTOG,dCUAM TSHOOJ,dTXWV",
      "dTXWV CHWV,dPUB DAWB,dNRES TOS"]⟩,
    ⟨0x16B7D, ["PAHAWH HMONG CLAN SIGN TSHEEJ,dYEEG,dLIS,dLAUJ,dXYOOJ,dKOO,dHAWJ,dMUAS,dTHOJ",
      "dTSAB,dPHAB,dKHAB,dHAM,dVAJ,dFAJ,dYAJ,dTSWB,dKWM,dVWJ"]⟩,
    ⟨0x16E40, ["MEDEFAIDRIN CAPITAL LETTER M,cS,cV,1,cATIU,cZ,cKP,cP,cT,cG,cF,cI,cK,cA,cJ,cE",
      "cB,1,cU,cYU,cL,cQ,cHP,cNY,cX,cD,cOE,cN,cR,cO,cAI,cY,aSMALL aM,cS,cV,1,cATIU,cZ,cKP,cP,cT",
      "cG,cF,cI,cK,cA,cJ,cE,cB,1,cU,cYU,cL,cQ,cHP,cNY,cX,cD,cOE,cN,cR,cO,cAI,cY,aDIGIT ZERO,bONE",
      "bTWO,bTHREE,bFOUR,bFIVE,bSIX,bSEVEN,bEIGHT,bNINE,aNUMBER TEN,bELEVEN,bTWELVE,bTHIRTEEN",
      "bFOURTEEN,bFIFTEEN,bSIXTEEN,bSEVENTEEN,bEIGHTEEN,bNINETEEN,aDIGIT ONE ALTERNATE FORM",
      "bTWO b,bTHREE b,aCOMMA,aFULL STOP,aSYMBOL AIVA,aEXCLAMATION OH"]⟩,
    ⟨0x16F00, ["MIAO LETTER PA,bBA,bYI PA,bPLA,bMA,bMHA,bARCHAIC MA,bFA,bVA,bVFA,bTA,bDA",
      "bYI TTA,cTA,bTTA,bDDA,bNA,bNHA,bYI NNA,bARCHAIC NA,bNNA,bNNHA,bLA,bLYA,bLHA,bLHYA,bTLHA",
      "bDLHA,bTLHYA,bDLHYA,bKA,bGA,bYI KA,bQA,bQGA,bNGA,bNGHA,bARCHAIC NGA,bHA,bXA,bGHA,bGHHA",
      "bTSSA,bDZZA,bNYA,bNYHA,bTSHA,bDZHA,bYI TSHA,cDZHA,bREFORMED TSHA,bSHA,bSSA,bZHA,bZSHA",
      "bTSA,bDZA,bYI TSA,bSA,bZA,bZSA,bZZA,bZZSA,bARCHAIC ZZA,bZZYA,bZZSYA,bWA,bAH,bHHA,bBRI",
      "bSYI,bDZYI,bTE,bTSE,bRTE,,,,,aSIGN CONSONANT MODIFIER BAR,aLETTER NASALIZATION",
      "aSIGN ASPIRATION,bREFORMED VOICING,cASPIRATION,aVOWEL SIGN A,cAA,cAHH,cAN,cANG,cO,cOO,cWO",
      "cW,cE,cEN,cENG,cOEY,cI,cIA,cIAN,cIANG,cIO,cIE,cII,cIU,cING,cU,cUA,cUAN,cUANG,cUU,cUEI",
      "cUNG,cY,cYI,cAE,cAEE,cERR,cROUNDED ERR,cER,cROUNDED ER,cAI,cEI,cAU,cOU,cN,cNG,cUOG,cYUI",
      "cOG,cOER,cVW,cIG,cEA,cIONG,cUI"]⟩,
    ⟨0x16F8F, ["MIAO TONE RIGHT,bTOP RIGHT,bABOVE,bBELOW,aLETTER TONE-2,6,bREFORMED TONE-1,1",
      "d4,2,d8"]⟩,
    ⟨0x16FE0, ["TANGUT ITERATION MARK,NUSHU b,OLD CHINESE HOOK MARK,bITERATION a",
      "KHITAN SMALL SCRIPT FILLER"]⟩,
    ⟨0x16FF0, ["VIETNAMESE ALTERNATE READING MARK CA,dNHAY"]⟩,
    ⟨0x18800, ["TANGUT COMPONENT-001,255"]⟩,
    ⟨0x18900, ["TANGUT COMPONENT-257,255"]⟩,
    ⟨0x18A00, ["TANGUT COMPONENT-513,255"]⟩,
    ⟨0x1AFF0, ["KATAKANA LETTER MINNAN TONE-2,3,,d7,1,cNASALIZED TONE-1,4,,e7,1"]⟩,
    ⟨0x1B000, ["KATAKANA LETTER ARCHAIC E,HIRAGANA bYE,HENTAIGANA aA-1,2,cWO,bI-1,3,bU-1,4",
      "bE-2,4,bO-1,2,bKA-1,10,cKE,bKI-1,7,bKU-1,6,bKE-1,5,bKO-1,2,cKI,bSA-1,7,bSI-1,5,bSU-1,7",
      "bSE-1,4,bSO-1,6,bTA-1,3,bTI-1,6,bTU-1,3,cTO,bTE-1,8,bTO-1,5,cRA,bNA-1,8,bNI-1,6,cTE,bNU-1",
      "2,bNE-1,5,cKO,bNO-1,4,bHA-1,10,bHI-1,6,bHU-1,2,bHE-1,6,bHO-1,7,bMA-1,6,bMI-1,6,bMU-1,3",
      "bME-1,1,cMA,bMO-1,5,bYA-1,4,cYO,bYU-1,3,bYO-1,5,bRA-1,3,bRI-1,6,bRU-1,5,bRE-1,1"]⟩,
    ⟨0x1B100, ["HENTAIGANA LETTER RE-3,1,bRO-1,5,bWA-1,4,bWI-1,4,bWE-1,3,bWO-1,6,bN-MU-MO-1,1",
      "HIRAGANA aARCHAIC WU,KATAKANA bYI,cYE,cWU"]⟩,
    ⟨0x1B150, ["HIRAGANA LETTER SMALL WI,cWE,cWO"]⟩,
    ⟨0x1B164, ["KATAKANA LETTER SMALL WI,cWE,cWO,cN"]⟩,
    ⟨0x1BC00, ["DUPLOYAN LETTER H,bX,bP,bT,bF,bK,1,bB,bD,bV,bG,bR,bP N,bD S,bF N,bK M,bR S",
      "bTH,bSLOAN DH,bDH,bKK,bSLOAN J,bHL,bLH,bRH,bM,1,bJ,bS,bM N,bN M,bJ a,bS J,bM WITH DOT",
      "bN b,bJ b,dDOTS INSIDE AND ABOVE,bS aDOT,dDOT BELOW,bM S,bN a,bJ a,bS a,bM N S,bN M a",
      "bJ b,bS J a,bJ S WITH DOT,cN,cN S,bS T,cT R,cP,cP R,bT S,cR S,bW,bWH,bW R,bS N,cM,bK R S",
      "bG b,bS K,cK R,bA,bSLOAN OW,bOA,bO,bAOU,bI,bE,bIE,bSHORT I,bUI,bEE,bSLOAN EH,bROMANIAN I",
      "bSLOAN EE,bLONG I,bYE,bU,bEU,bXW,bU N,bLONG U,bROMANIAN a,bUH,bSLOAN U,bOOH,bOW,bOU,bWA",
      "bWO,bWI,bWEI,bWOW,bNASAL U,cO,cI,cA,bPERNIN AN,cAM,bSLOAN EN,cAN,cON,bVOCALIC M"]⟩,
    ⟨0x1BC70, ["DUPLOYAN AFFIX LEFT HORIZONTAL SECANT,bMID b,bRIGHT b,bLOW VERTICAL a,bMID b",
      "bHIGH b,bATTACHED SECANT,cLEFT-TO-RIGHT SECANT,cTANGENT,cTAIL,cE HOOK,cI a,cTANGENT a,,,",
      "bHIGH ACUTE,cTIGHT ACUTE,cGRAVE,cLONG GRAVE,cDOT,cCIRCLE,cLINE,cWAVE,cVERTICAL"]⟩,
    ⟨0x1BC90, ["DUPLOYAN AFFIX LOW ACUTE,cTIGHT ACUTE,cGRAVE,cLONG GRAVE,cDOT,cCIRCLE,cLINE",
      "cWAVE,cVERTICAL,cARROW,,,aSIGN O WITH CROSS,aTHICK LETTER SELECTOR,aDOUBLE MARK",
      "aPUNCTUATION CHINOOK FULL STOP,SHORTHAND FORMAT LETTER OVERLAP,bCONTINUING a,bDOWN STEP",
      "bUP a"]⟩]

end CharacterName

end DartComments
