import DartComments.Text.Name.Row

/-!
# Names of letters

The names of the letters of living scripts, from `0000` to `1FFF`. See `Row` for how they are told.
-/

namespace DartComments

namespace CharacterName

set_option maxRecDepth 4000 in
/-- The names from `0000` to `1FFF`. -/
def alphabets : List Row :=
  [⟨0x20, ["SPACE,EXCLAMATION MARK,QUOTATION a,NUMBER SIGN,DOLLAR a,PERCENT a,AMPERSAND",
      "APOSTROPHE,LEFT PARENTHESIS,RIGHT a,ASTERISK,PLUS SIGN,COMMA,HYPHEN-MINUS,FULL STOP",
      "SOLIDUS,DIGIT ZERO,aONE,aTWO,aTHREE,aFOUR,aFIVE,aSIX,aSEVEN,aEIGHT,aNINE,COLON,SEMICOLON",
      "LESS-THAN SIGN,EQUALS SIGN,GREATER-THAN SIGN,QUESTION MARK,COMMERCIAL AT",
      "LATIN CAPITAL LETTER A,25,LEFT SQUARE BRACKET,REVERSE SOLIDUS,RIGHT SQUARE BRACKET",
      "CIRCUMFLEX ACCENT,LOW LINE,GRAVE ACCENT,LATIN SMALL LETTER A,25,LEFT CURLY BRACKET",
      "VERTICAL LINE,RIGHT CURLY BRACKET,TILDE"]⟩,
    ⟨0xA0, ["NO-BREAK SPACE,INVERTED EXCLAMATION MARK,CENT SIGN,POUND a,CURRENCY a,YEN a",
      "BROKEN BAR,SECTION SIGN,DIAERESIS,COPYRIGHT SIGN,FEMININE ORDINAL INDICATOR",
      "LEFT-POINTING DOUBLE ANGLE QUOTATION MARK,NOT SIGN,SOFT HYPHEN,REGISTERED SIGN,MACRON",
      "DEGREE SIGN,PLUS-MINUS SIGN,SUPERSCRIPT TWO,aTHREE,ACUTE ACCENT,MICRO SIGN,PILCROW a",
      "MIDDLE DOT,CEDILLA,SUPERSCRIPT ONE,MASCULINE ORDINAL INDICATOR",
      "RIGHT-POINTING DOUBLE ANGLE QUOTATION MARK,VULGAR FRACTION ONE QUARTER,cHALF",
      "bTHREE QUARTERS,INVERTED QUESTION MARK,LATIN CAPITAL LETTER A WITH GRAVE,eACUTE",
      "eCIRCUMFLEX,eTILDE,eDIAERESIS,eRING ABOVE,cAE,cC WITH CEDILLA,cE aGRAVE,eACUTE",
      "eCIRCUMFLEX,eDIAERESIS,cI aGRAVE,eACUTE,eCIRCUMFLEX,eDIAERESIS,cETH,cN WITH TILDE",
      "cO aGRAVE,eACUTE,eCIRCUMFLEX,eTILDE,eDIAERESIS,MULTIPLICATION SIGN",
      "LATIN CAPITAL LETTER O WITH STROKE,cU aGRAVE,eACUTE,eCIRCUMFLEX,eDIAERESIS,cY aACUTE",
      "cTHORN,aSMALL aSHARP S,cA WITH GRAVE,eACUTE,eCIRCUMFLEX,eTILDE,eDIAERESIS,eRING ABOVE,cAE",
      "cC WITH CEDILLA,cE aGRAVE,eACUTE,eCIRCUMFLEX,eDIAERESIS,cI aGRAVE,eACUTE,eCIRCUMFLEX",
      "eDIAERESIS,cETH,cN WITH TILDE,cO aGRAVE,eACUTE,eCIRCUMFLEX,eTILDE,eDIAERESIS",
      "DIVISION SIGN,LATIN SMALL LETTER O WITH STROKE,cU aGRAVE,eACUTE,eCIRCUMFLEX,eDIAERESIS",
      "cY aACUTE,cTHORN,cY WITH DIAERESIS"]⟩,
    ⟨0x100, ["LATIN CAPITAL LETTER A WITH MACRON,aSMALL d,aCAPITAL cBREVE,aSMALL d",
      "aCAPITAL cOGONEK,aSMALL d,aCAPITAL aC aACUTE,aSMALL d,aCAPITAL cCIRCUMFLEX,aSMALL d",
      "aCAPITAL cDOT ABOVE,aSMALL e,aCAPITAL cCARON,aSMALL d,aCAPITAL aD b,aSMALL d",
      "aCAPITAL cSTROKE,aSMALL d,aCAPITAL aE aMACRON,aSMALL d,aCAPITAL cBREVE,aSMALL d",
      "aCAPITAL cDOT ABOVE,aSMALL e,aCAPITAL cOGONEK,aSMALL d,aCAPITAL cCARON,aSMALL d",
      "aCAPITAL aG aCIRCUMFLEX,aSMALL d,aCAPITAL cBREVE,aSMALL d,aCAPITAL cDOT ABOVE,aSMALL e",
      "aCAPITAL cCEDILLA,aSMALL d,aCAPITAL aH aCIRCUMFLEX,aSMALL d,aCAPITAL cSTROKE,aSMALL d",
      "aCAPITAL aI aTILDE,aSMALL d,aCAPITAL cMACRON,aSMALL d,aCAPITAL cBREVE,aSMALL d",
      "aCAPITAL cOGONEK,aSMALL d,aCAPITAL cDOT ABOVE,aSMALL aDOTLESS I,aCAPITAL LIGATURE IJ",
      "aSMALL b,aCAPITAL LETTER J WITH CIRCUMFLEX,aSMALL d,aCAPITAL aK aCEDILLA,aSMALL d,cKRA",
      "aCAPITAL aL WITH ACUTE,aSMALL d,aCAPITAL cCEDILLA,aSMALL d,aCAPITAL cCARON,aSMALL d",
      "aCAPITAL cMIDDLE DOT,aSMALL e,aCAPITAL cSTROKE,aSMALL d,aCAPITAL aN aACUTE,aSMALL d",
      "aCAPITAL cCEDILLA,aSMALL d,aCAPITAL cCARON,aSMALL d,dPRECEDED BY APOSTROPHE,aCAPITAL aENG",
      "aSMALL b,aCAPITAL aO WITH MACRON,aSMALL d,aCAPITAL cBREVE,aSMALL d,aCAPITAL cDOUBLE ACUTE",
      "aSMALL e,aCAPITAL LIGATURE OE,aSMALL b,aCAPITAL LETTER R WITH ACUTE,aSMALL d",
      "aCAPITAL cCEDILLA,aSMALL d,aCAPITAL cCARON,aSMALL d,aCAPITAL aS aACUTE,aSMALL d",
      "aCAPITAL cCIRCUMFLEX,aSMALL d,aCAPITAL cCEDILLA,aSMALL d,aCAPITAL cCARON,aSMALL d",
      "aCAPITAL aT aCEDILLA,aSMALL d,aCAPITAL cCARON,aSMALL d,aCAPITAL cSTROKE,aSMALL d",
      "aCAPITAL aU aTILDE,aSMALL d,aCAPITAL cMACRON,aSMALL d,aCAPITAL cBREVE,aSMALL d",
      "aCAPITAL cRING ABOVE,aSMALL e,aCAPITAL cDOUBLE ACUTE,aSMALL e,aCAPITAL cOGONEK,aSMALL d",
      "aCAPITAL aW aCIRCUMFLEX,aSMALL d,aCAPITAL aY b,aSMALL d,aCAPITAL cDIAERESIS,cZ aACUTE",
      "aSMALL d,aCAPITAL cDOT ABOVE,aSMALL e,aCAPITAL cCARON,aSMALL d,cLONG S,cB WITH STROKE",
      "aCAPITAL cHOOK,eTOPBAR,aSMALL d,aCAPITAL aTONE SIX,aSMALL c,aCAPITAL aOPEN O,cC WITH HOOK",
      "aSMALL d,aCAPITAL aAFRICAN D,cD WITH HOOK,eTOPBAR,aSMALL d,cTURNED DELTA",
      "aCAPITAL aREVERSED E,cSCHWA,cOPEN E,cF WITH HOOK,aSMALL d,aCAPITAL aG b,cGAMMA,aSMALL aHV",
      "aCAPITAL aIOTA,cI WITH STROKE,cK aHOOK,aSMALL d,cL aBAR,cLAMBDA aSTROKE",
      "aCAPITAL aTURNED M,cN WITH LEFT HOOK,aSMALL cLONG RIGHT LEG,aCAPITAL aO aMIDDLE TILDE",
      "eHORN,aSMALL d,aCAPITAL aOI,aSMALL b,aCAPITAL aP WITH HOOK,aSMALL d,aLETTER YR",
      "aCAPITAL LETTER TONE TWO,aSMALL c,aCAPITAL aESH,aLETTER REVERSED ESH LOOP",
      "aSMALL LETTER T WITH PALATAL HOOK,aCAPITAL cHOOK,aSMALL d,aCAPITAL cRETROFLEX HOOK",
      "cU aHORN,aSMALL d,aCAPITAL aUPSILON,cV WITH HOOK,cY b,aSMALL d,aCAPITAL aZ aSTROKE",
      "aSMALL d,aCAPITAL aEZH,cEZH REVERSED,aSMALL c,dWITH TAIL,aLETTER TWO WITH STROKE",
      "aCAPITAL LETTER TONE FIVE,aSMALL c,aLETTER INVERTED GLOTTAL STOP WITH STROKE,bWYNN",
      "bDENTAL CLICK,bLATERAL a,bALVEOLAR a,bRETROFLEX a,aCAPITAL LETTER DZ WITH CARON",
      "cD aSMALL LETTER Z WITH CARON,aSMALL aDZ aCARON,aCAPITAL aLJ,cL WITH SMALL LETTER J",
      "aSMALL aLJ,aCAPITAL aNJ,cN WITH SMALL LETTER J,aSMALL aNJ,aCAPITAL aA WITH CARON,aSMALL d",
      "aCAPITAL aI b,aSMALL d,aCAPITAL aO b,aSMALL d,aCAPITAL aU b,aSMALL d",
      "aCAPITAL cDIAERESIS AND MACRON,aSMALL f,aCAPITAL eACUTE,aSMALL f,aCAPITAL eCARON,aSMALL f",
      "aCAPITAL eGRAVE,aSMALL f,cTURNED E,aCAPITAL aA WITH DIAERESIS AND MACRON,aSMALL f",
      "aCAPITAL cDOT ABOVE AND MACRON,aSMALL g,aCAPITAL aAE aMACRON,aSMALL d,aCAPITAL aG aSTROKE",
      "aSMALL d,aCAPITAL cCARON,aSMALL d,aCAPITAL aK b,aSMALL d,aCAPITAL aO aOGONEK,aSMALL d",
      "aCAPITAL cOGONEK AND MACRON,aSMALL f,aCAPITAL aEZH aCARON,aSMALL d,cJ b,aCAPITAL aDZ",
      "cD WITH SMALL LETTER Z,aSMALL aDZ,aCAPITAL aG WITH ACUTE,aSMALL d,aCAPITAL aHWAIR,cWYNN",
      "cN WITH GRAVE,aSMALL d,aCAPITAL aA aRING ABOVE AND ACUTE,aSMALL g,aCAPITAL aAE aACUTE",
      "aSMALL d,aCAPITAL aO aSTROKE AND ACUTE,aSMALL f"]⟩,
    ⟨0x200, ["LATIN CAPITAL LETTER A WITH DOUBLE GRAVE,aSMALL e,aCAPITAL cINVERTED BREVE",
      "aSMALL e,aCAPITAL aE aDOUBLE GRAVE,aSMALL e,aCAPITAL cINVERTED BREVE,aSMALL e",
      "aCAPITAL aI aDOUBLE GRAVE,aSMALL e,aCAPITAL cINVERTED BREVE,aSMALL e",
      "aCAPITAL aO aDOUBLE GRAVE,aSMALL e,aCAPITAL cINVERTED BREVE,aSMALL e",
      "aCAPITAL aR aDOUBLE GRAVE,aSMALL e,aCAPITAL cINVERTED BREVE,aSMALL e",
      "aCAPITAL aU aDOUBLE GRAVE,aSMALL e,aCAPITAL cINVERTED BREVE,aSMALL e",
      "aCAPITAL aS aCOMMA BELOW,aSMALL e,aCAPITAL aT c,aSMALL e,aCAPITAL aYOGH,aSMALL b",
      "aCAPITAL aH WITH CARON,aSMALL d,aCAPITAL aN aLONG RIGHT LEG,aSMALL aD aCURL,aCAPITAL aOU",
      "aSMALL b,aCAPITAL aZ WITH HOOK,aSMALL d,aCAPITAL aA aDOT ABOVE,aSMALL e",
      "aCAPITAL aE aCEDILLA,aSMALL d,aCAPITAL aO aDIAERESIS AND MACRON,aSMALL f",
      "aCAPITAL cTILDE b,aSMALL f,aCAPITAL cDOT ABOVE,aSMALL e,aCAPITAL dABOVE AND MACRON",
      "aSMALL g,aCAPITAL aY aMACRON,aSMALL d,cL aCURL,cN b,cT b,cDOTLESS J,cDB DIGRAPH,cQP a",
      "aCAPITAL aA WITH STROKE,cC b,aSMALL d,aCAPITAL aL aBAR,cT aDIAGONAL STROKE",
      "aSMALL aS aSWASH TAIL,cZ c,aCAPITAL aGLOTTAL STOP,aSMALL c,aCAPITAL aB WITH STROKE,cU BAR",
      "cTURNED V,cE WITH STROKE,aSMALL d,aCAPITAL aJ b,aSMALL d,aCAPITAL aSMALL Q WITH HOOK TAIL",
      "aSMALL aQ WITH HOOK TAIL,aCAPITAL aR aSTROKE,aSMALL d,aCAPITAL aY b,aSMALL d,cTURNED A",
      "cALPHA,cTURNED ALPHA,cB WITH HOOK,cOPEN O,cC WITH CURL,cD aTAIL,eHOOK,cREVERSED E,cSCHWA",
      "cSCHWA WITH HOOK,cOPEN E,cREVERSED OPEN E,eE WITH HOOK,cCLOSED REVERSED OPEN E",
      "cDOTLESS J WITH STROKE,cG WITH HOOK,cSCRIPT G,aLETTER SMALL CAPITAL a,aSMALL LETTER GAMMA",
      "cRAMS HORN,cTURNED H,cH WITH HOOK,cHENG b,cI aSTROKE,cIOTA,aLETTER SMALL CAPITAL I",
      "aSMALL LETTER L WITH MIDDLE TILDE,eBELT,eRETROFLEX HOOK,cLEZH,cTURNED M,dM WITH LONG LEG",
      "cM WITH HOOK,cN aLEFT HOOK,eRETROFLEX a,aLETTER SMALL CAPITAL N,aSMALL LETTER BARRED O",
      "aLETTER SMALL CAPITAL OE,aSMALL LETTER CLOSED OMEGA,cPHI,cTURNED R,dR WITH LONG LEG,fHOOK",
      "cR WITH LONG LEG,eTAIL,eFISHHOOK,cREVERSED R WITH FISHHOOK,aLETTER SMALL CAPITAL R",
      "dINVERTED R,aSMALL LETTER S WITH HOOK,cESH,cDOTLESS J WITH STROKE AND HOOK",
      "cSQUAT REVERSED ESH,cESH WITH CURL,cTURNED T,cT WITH RETROFLEX HOOK,cU BAR,cUPSILON",
      "cV WITH HOOK,cTURNED V,1,dY,aLETTER SMALL CAPITAL a,aSMALL LETTER Z WITH RETROFLEX HOOK",
      "eCURL,cEZH,cEZH WITH CURL,aLETTER GLOTTAL STOP,bPHARYNGEAL VOICED FRICATIVE",
      "bINVERTED GLOTTAL STOP,bSTRETCHED C,bBILABIAL CLICK,bSMALL CAPITAL B",
      "aSMALL LETTER CLOSED OPEN E,aLETTER SMALL CAPITAL G WITH HOOK,dH",
      "aSMALL LETTER J WITH CROSSED-TAIL,cTURNED K,aLETTER SMALL CAPITAL L",
      "aSMALL LETTER Q WITH HOOK,aLETTER GLOTTAL STOP aSTROKE,bREVERSED GLOTTAL STOP WITH STROKE",
      "aSMALL LETTER DZ DIGRAPH,cDEZH a,cDZ DIGRAPH WITH CURL,cTS DIGRAPH,cTESH a",
      "cTC DIGRAPH WITH CURL,cFENG DIGRAPH,cLS a,cLZ a,aLETTER BILABIAL PERCUSSIVE,bBIDENTAL a",
      "aSMALL LETTER TURNED H WITH FISHHOOK,fFISHHOOK AND TAIL,MODIFIER LETTER SMALL H",
      "cH WITH HOOK,cJ,cR,cTURNED R,dR WITH HOOK,cCAPITAL INVERTED R,cW,cY,bPRIME,bDOUBLE PRIME",
      "bTURNED COMMA,bAPOSTROPHE,bREVERSED COMMA,bRIGHT HALF RING,bLEFT b,bGLOTTAL STOP",
      "bREVERSED GLOTTAL STOP,bLEFT ARROWHEAD,bRIGHT a,bUP a,bDOWN a,bCIRCUMFLEX ACCENT,CARON",
      "MODIFIER LETTER VERTICAL LINE,bMACRON,bACUTE ACCENT,bGRAVE a,bLOW VERTICAL LINE,cMACRON",
      "cGRAVE ACCENT,cACUTE a,bTRIANGULAR COLON,bHALF TRIANGULAR COLON,bCENTRED RIGHT HALF RING",
      "cLEFT b,bUP TACK,bDOWN a,bPLUS SIGN,bMINUS a,BREVE,DOT ABOVE,RING a,OGONEK,SMALL TILDE",
      "DOUBLE ACUTE ACCENT,MODIFIER LETTER RHOTIC HOOK,bCROSS ACCENT,bSMALL GAMMA,cL,cS,cX",
      "cREVERSED GLOTTAL STOP,bEXTRA-HIGH TONE BAR,bHIGH TONE BAR,bMID b,bLOW b",
      "bEXTRA-LOW TONE BAR,bYIN DEPARTING aMARK,bYANG c,bVOICING,bUNASPIRATED,bDOUBLE APOSTROPHE",
      "bLOW DOWN ARROWHEAD,cUP a,cLEFT a,cRIGHT a,cRING,bMIDDLE GRAVE ACCENT",
      "cDOUBLE GRAVE ACCENT,dACUTE a,bLOW TILDE,bRAISED COLON,bBEGIN HIGH TONE,bEND b",
      "bBEGIN LOW a,bEND b,bSHELF,bOPEN SHELF,bLOW LEFT ARROW"]⟩,
    ⟨0x300, ["COMBINING GRAVE ACCENT,aACUTE a,aCIRCUMFLEX a,aTILDE,aMACRON,aOVERLINE,aBREVE",
      "aDOT ABOVE,aDIAERESIS,aHOOK ABOVE,aRING a,aDOUBLE ACUTE ACCENT,aCARON",
      "aVERTICAL LINE ABOVE,aDOUBLE VERTICAL LINE ABOVE,bGRAVE ACCENT,aCANDRABINDU",
      "aINVERTED BREVE,aTURNED COMMA ABOVE,aCOMMA ABOVE,aREVERSED COMMA ABOVE,aCOMMA ABOVE RIGHT",
      "aGRAVE ACCENT BELOW,aACUTE b,aLEFT TACK a,aRIGHT b,aLEFT ANGLE ABOVE,aHORN",
      "aLEFT HALF RING BELOW,aUP TACK BELOW,aDOWN b,aPLUS SIGN a,aMINUS b,aPALATALIZED HOOK a",
      "aRETROFLEX b,aDOT BELOW,aDIAERESIS a,aRING a,aCOMMA a,aCEDILLA,aOGONEK",
      "aVERTICAL LINE BELOW,aBRIDGE BELOW,aINVERTED DOUBLE ARCH BELOW,aCARON BELOW",
      "aCIRCUMFLEX ACCENT BELOW,aBREVE BELOW,aINVERTED BREVE BELOW,aTILDE BELOW,aMACRON a",
      "aLOW LINE,aDOUBLE LOW LINE,aTILDE OVERLAY,aSHORT STROKE OVERLAY,aLONG b,aSHORT SOLIDUS a",
      "aLONG b,aRIGHT HALF RING BELOW,aINVERTED BRIDGE BELOW,aSQUARE BELOW,aSEAGULL a,aX ABOVE",
      "aVERTICAL TILDE,aDOUBLE OVERLINE,aGRAVE TONE MARK,aACUTE b,aGREEK PERISPOMENI,bKORONIS",
      "bDIALYTIKA TONOS,bYPOGEGRAMMENI,aBRIDGE ABOVE,aEQUALS SIGN BELOW",
      "aDOUBLE VERTICAL LINE BELOW,aLEFT ANGLE BELOW,aNOT TILDE ABOVE,aHOMOTHETIC ABOVE",
      "aALMOST EQUAL TO ABOVE,aLEFT RIGHT ARROW BELOW,aUPWARDS ARROW BELOW,aGRAPHEME JOINER",
      "aRIGHT ARROWHEAD ABOVE,aLEFT HALF RING ABOVE,aFERMATA,aX BELOW,aLEFT ARROWHEAD BELOW",
      "aRIGHT b,cAND UP ARROWHEAD BELOW,bHALF RING ABOVE,aDOT ABOVE RIGHT,aASTERISK BELOW",
      "aDOUBLE RING BELOW,aZIGZAG ABOVE,aDOUBLE BREVE BELOW,bBREVE,bMACRON,bMACRON BELOW,bTILDE",
      "bINVERTED BREVE,bRIGHTWARDS ARROW BELOW,aLATIN SMALL LETTER A,dE,dI,dO,dU,dC,1,dH,dM,dR",
      "dT,dV,dX,GREEK CAPITAL LETTER HETA,aSMALL b,aCAPITAL aARCHAIC SAMPI,aSMALL c",
      "aNUMERAL SIGN,aLOWER NUMERAL SIGN,aCAPITAL LETTER PAMPHYLIAN DIGAMMA,aSMALL c,,",
      "aYPOGEGRAMMENI,aSMALL REVERSED LUNATE SIGMA SYMBOL,bDOTTED c",
      "bREVERSED DOTTED LUNATE SIGMA SYMBOL,aQUESTION MARK,aCAPITAL LETTER YOT,,,,,aTONOS",
      "aDIALYTIKA TONOS,aCAPITAL LETTER ALPHA WITH TONOS,aANO TELEIA",
      "aCAPITAL LETTER EPSILON WITH TONOS,cETA b,cIOTA b,,cOMICRON b,,cUPSILON b,cOMEGA b",
      "aSMALL aIOTA aDIALYTIKA AND TONOS,aCAPITAL aALPHA,cBETA,cGAMMA,cDELTA,cEPSILON,cZETA,cETA",
      "cTHETA,cIOTA,cKAPPA,cLAMDA,cMU,cNU,cXI,cOMICRON,cPI,cRHO,,cSIGMA,cTAU,cUPSILON,cPHI,cCHI",
      "cPSI,cOMEGA,cIOTA WITH DIALYTIKA,cUPSILON b,aSMALL aALPHA aTONOS,cEPSILON b,cETA b",
      "cIOTA b,cUPSILON aDIALYTIKA AND TONOS,cALPHA,cBETA,cGAMMA,cDELTA,cEPSILON,cZETA,cETA",
      "cTHETA,cIOTA,cKAPPA,cLAMDA,cMU,cNU,cXI,cOMICRON,cPI,cRHO,cFINAL SIGMA,cSIGMA,cTAU",
      "cUPSILON,cPHI,cCHI,cPSI,cOMEGA,cIOTA WITH DIALYTIKA,cUPSILON b,cOMICRON aTONOS,cUPSILON b",
      "cOMEGA b,aCAPITAL KAI SYMBOL,aBETA SYMBOL,aTHETA a,aUPSILON WITH HOOK SYMBOL",
      "cACUTE AND HOOK SYMBOL,cDIAERESIS c,aPHI SYMBOL,aPI a,aKAI a,aLETTER ARCHAIC KOPPA",
      "aSMALL LETTER ARCHAIC KOPPA,aLETTER STIGMA,aSMALL LETTER STIGMA,aLETTER DIGAMMA",
      "aSMALL LETTER DIGAMMA,aLETTER KOPPA,aSMALL LETTER KOPPA,aLETTER SAMPI,aSMALL LETTER SAMPI",
      "COPTIC CAPITAL aSHEI,aSMALL b,aCAPITAL aFEI,aSMALL b,aCAPITAL aKHEI,aSMALL b",
      "aCAPITAL aHORI,aSMALL b,aCAPITAL aGANGIA,aSMALL b,aCAPITAL aSHIMA,aSMALL b,aCAPITAL aDEI",
      "aSMALL b,GREEK KAPPA SYMBOL,aRHO a,aLUNATE SIGMA SYMBOL,aLETTER YOT,aCAPITAL THETA SYMBOL",
      "aLUNATE EPSILON a,aREVERSED LUNATE EPSILON SYMBOL,aCAPITAL LETTER SHO,aSMALL b",
      "aCAPITAL LUNATE SIGMA SYMBOL,bLETTER SAN,aSMALL b,aRHO WITH STROKE SYMBOL",
      "aCAPITAL REVERSED LUNATE SIGMA SYMBOL,bDOTTED c,bREVERSED DOTTED LUNATE SIGMA SYMBOL"]⟩,
    ⟨0x400, ["CYRILLIC CAPITAL LETTER IE WITH GRAVE,cIO,cDJE,cGJE,cUKRAINIAN IE,cDZE",
      "cBYELORUSSIAN-UKRAINIAN I,cYI,cJE,cLJE,cNJE,cTSHE,cKJE,cI WITH GRAVE,cSHORT U,cDZHE,cA",
      "cBE,cVE,cGHE,cDE,cIE,cZHE,cZE,cI,cSHORT I,cKA,cEL,2,cO,cPE,cER,1,cTE,cU,cEF,cHA,cTSE,cCHE",
      "cSHA,cSHCHA,cHARD SIGN,cYERU,cSOFT SIGN,cE,cYU,cYA,aSMALL aA,cBE,cVE,cGHE,cDE,cIE,cZHE",
      "cZE,cI,cSHORT I,cKA,cEL,2,cO,cPE,cER,1,cTE,cU,cEF,cHA,cTSE,cCHE,cSHA,cSHCHA,cHARD SIGN",
      "cYERU,cSOFT SIGN,cE,cYU,cYA,cIE WITH GRAVE,cIO,cDJE,cGJE,cUKRAINIAN IE,cDZE",
      "cBYELORUSSIAN-UKRAINIAN I,cYI,cJE,cLJE,cNJE,cTSHE,cKJE,cI WITH GRAVE,cSHORT U,cDZHE",
      "aCAPITAL aOMEGA,aSMALL b,aCAPITAL aYAT,aSMALL b,aCAPITAL aIOTIFIED E,aSMALL c",
      "aCAPITAL aLITTLE YUS,aSMALL c,aCAPITAL aIOTIFIED LITTLE YUS,aSMALL d,aCAPITAL aBIG YUS",
      "aSMALL c,aCAPITAL aIOTIFIED BIG YUS,aSMALL d,aCAPITAL aKSI,aSMALL b,aCAPITAL aPSI",
      "aSMALL b,aCAPITAL aFITA,aSMALL b,aCAPITAL aIZHITSA,aSMALL b",
      "aCAPITAL aIZHITSA WITH DOUBLE GRAVE ACCENT,aSMALL f,aCAPITAL aUK,aSMALL b",
      "aCAPITAL aROUND OMEGA,aSMALL c,aCAPITAL aOMEGA WITH TITLO,aSMALL d,aCAPITAL aOT,aSMALL b",
      "aCAPITAL aKOPPA,aSMALL b,aTHOUSANDS SIGN,COMBINING CYRILLIC TITLO,bPALATALIZATION",
      "bDASIA PNEUMATA,bPSILI a,bPOKRYTIE,bHUNDRED THOUSANDS SIGN,bMILLIONS SIGN",
      "CYRILLIC CAPITAL LETTER SHORT I WITH TAIL,aSMALL e,aCAPITAL aSEMISOFT SIGN,aSMALL c",
      "aCAPITAL aER WITH TICK,aSMALL d,aCAPITAL aGHE aUPTURN,aSMALL d,aCAPITAL cSTROKE,aSMALL d",
      "aCAPITAL cMIDDLE HOOK,aSMALL e,aCAPITAL aZHE aDESCENDER,aSMALL d,aCAPITAL aZE b,aSMALL d",
      "aCAPITAL aKA b,aSMALL d,aCAPITAL cVERTICAL STROKE,aSMALL e,aCAPITAL cSTROKE,aSMALL d",
      "aCAPITAL aBASHKIR KA,aSMALL c,aCAPITAL aEN WITH DESCENDER,aSMALL d,aCAPITAL LIGATURE aGHE",
      "aSMALL c,aCAPITAL LETTER PE WITH MIDDLE HOOK,aSMALL e,aCAPITAL aABKHASIAN HA,aSMALL c",
      "aCAPITAL aES WITH DESCENDER,aSMALL d,aCAPITAL aTE b,aSMALL d,aCAPITAL aSTRAIGHT U",
      "aSMALL c,aCAPITAL bU WITH STROKE,aSMALL e,aCAPITAL aHA WITH DESCENDER,aSMALL d",
      "aCAPITAL LIGATURE TE TSE,aSMALL c,aCAPITAL LETTER CHE WITH DESCENDER,aSMALL d",
      "aCAPITAL cVERTICAL STROKE,aSMALL e,aCAPITAL aSHHA,aSMALL b,aCAPITAL aABKHASIAN CHE",
      "aSMALL c,aCAPITAL bCHE WITH DESCENDER,aSMALL e,aLETTER PALOCHKA",
      "aCAPITAL LETTER ZHE WITH BREVE,aSMALL d,aCAPITAL aKA aHOOK,aSMALL d,aCAPITAL aEL aTAIL",
      "aSMALL d,aCAPITAL aEN aHOOK,aSMALL d,aCAPITAL cTAIL,aSMALL d,aCAPITAL aKHAKASSIAN CHE",
      "aSMALL c,aCAPITAL aEM WITH TAIL,aSMALL d,cPALOCHKA,aCAPITAL aA WITH BREVE,aSMALL d",
      "aCAPITAL cDIAERESIS,aSMALL d,aCAPITAL LIGATURE aIE,aSMALL c,aCAPITAL LETTER IE WITH BREVE",
      "aSMALL d,aCAPITAL aSCHWA,aSMALL b,aCAPITAL aSCHWA WITH DIAERESIS,aSMALL d,aCAPITAL aZHE b",
      "aSMALL d,aCAPITAL aZE b,aSMALL d,aCAPITAL aABKHASIAN DZE,aSMALL c,aCAPITAL aI WITH MACRON",
      "aSMALL d,aCAPITAL cDIAERESIS,aSMALL d,aCAPITAL aO b,aSMALL d,aCAPITAL aBARRED O,aSMALL c",
      "aCAPITAL bO WITH DIAERESIS,aSMALL e,aCAPITAL aE WITH DIAERESIS,aSMALL d",
      "aCAPITAL aU aMACRON,aSMALL d,aCAPITAL cDIAERESIS,aSMALL d,aCAPITAL cDOUBLE ACUTE,aSMALL e",
      "aCAPITAL aCHE aDIAERESIS,aSMALL d,aCAPITAL aGHE aDESCENDER,aSMALL d",
      "aCAPITAL aYERU aDIAERESIS,aSMALL d,aCAPITAL aGHE aSTROKE AND HOOK,aSMALL f",
      "aCAPITAL aHA aHOOK,aSMALL d,aCAPITAL cSTROKE,aSMALL d"]⟩,
    ⟨0x500, ["CYRILLIC CAPITAL LETTER KOMI DE,aSMALL c,aCAPITAL bDJE,aSMALL c,aCAPITAL bZJE",
      "aSMALL c,aCAPITAL bDZJE,aSMALL c,aCAPITAL bLJE,aSMALL c,aCAPITAL bNJE,aSMALL c",
      "aCAPITAL bSJE,aSMALL c,aCAPITAL bTJE,aSMALL c,aCAPITAL aREVERSED ZE,aSMALL c",
      "aCAPITAL aEL WITH HOOK,aSMALL d,aCAPITAL aLHA,aSMALL b,aCAPITAL aRHA,aSMALL b",
      "aCAPITAL aYAE,aSMALL b,aCAPITAL aQA,aSMALL b,aCAPITAL aWE,aSMALL b,aCAPITAL aALEUT KA",
      "aSMALL c,aCAPITAL aEL WITH MIDDLE HOOK,aSMALL e,aCAPITAL aEN c,aSMALL e",
      "aCAPITAL aPE aDESCENDER,aSMALL d,aCAPITAL aSHHA b,aSMALL d,aCAPITAL aEN aLEFT HOOK",
      "aSMALL e,aCAPITAL aDZZHE,aSMALL b,aCAPITAL aDCHE,aSMALL b,aCAPITAL aEL WITH DESCENDER",
      "aSMALL d,,ARMENIAN CAPITAL aAYB,cBEN,cGIM,cDA,cECH,cZA,cEH,cET,cTO,cZHE,cINI,cLIWN,cXEH",
      "cCA,cKEN,cHO,cJA,cGHAD,cCHEH,cMEN,cYI,cNOW,cSHA,cVO,cCHA,cPEH,cJHEH,cRA,cSEH,cVEW,cTIWN",
      "cREH,cCO,cYIWN,cPIWR,cKEH,cOH,cFEH,,,aMODIFIER aLEFT HALF RING,aAPOSTROPHE,aEMPHASIS MARK",
      "aEXCLAMATION a,aCOMMA,aQUESTION MARK,aABBREVIATION a,aSMALL LETTER TURNED AYB,cAYB,cBEN",
      "cGIM,cDA,cECH,cZA,cEH,cET,cTO,cZHE,cINI,cLIWN,cXEH,cCA,cKEN,cHO,cJA,cGHAD,cCHEH,cMEN,cYI",
      "cNOW,cSHA,cVO,cCHA,cPEH,cJHEH,cRA,cSEH,cVEW,cTIWN,cREH,cCO,cYIWN,cPIWR,cKEH,cOH,cFEH",
      "bLIGATURE ECH YIWN,bLETTER YI WITH STROKE,aFULL STOP,aHYPHEN,,",
      "RIGHT-FACING ARMENIAN ETERNITY SIGN,LEFT-d,ARMENIAN DRAM SIGN,,HEBREW ACCENT ETNAHTA",
      "bSEGOL,bSHALSHELET,bZAQEF QATAN,cGADOL,bTIPEHA,bREVIA,bZARQA,bPASHTA,bYETIV,bTEVIR",
      "bGERESH,bGERESH MUQDAM,bGERSHAYIM,bQARNEY PARA,bTELISHA GEDOLA,bPAZER,bATNAH HAFUKH",
      "bMUNAH,bMAHAPAKH,bMERKHA,bMERKHA KEFULA,bDARGA,bQADMA,bTELISHA QETANA,bYERAH BEN YOMO",
      "bOLE,bILUY,bDEHI,bZINOR,aMARK MASORA CIRCLE,aPOINT SHEVA,bHATAF SEGOL,cPATAH,cQAMATS",
      "bHIRIQ,bTSERE,bSEGOL,bPATAH,bQAMATS,bHOLAM,bHOLAM HASER FOR VAV,bQUBUTS,bDAGESH OR MAPIQ",
      "bMETEG,aPUNCTUATION MAQAF,aPOINT RAFE,aPUNCTUATION PASEQ,aPOINT SHIN DOT,bSIN a",
      "aPUNCTUATION SOF PASUQ,aMARK UPPER DOT,bLOWER a,aPUNCTUATION NUN HAFUKHA",
      "aPOINT QAMATS QATAN"]⟩,
    ⟨0x5D0, ["HEBREW LETTER ALEF,bBET,bGIMEL,bDALET,bHE,bVAV,bZAYIN,bHET,bTET,bYOD,bFINAL KAF",
      "bKAF,bLAMED,bFINAL MEM,bMEM,bFINAL NUN,bNUN,bSAMEKH,bAYIN,bFINAL PE,bPE,bFINAL TSADI",
      "bTSADI,bQOF,bRESH,bSHIN,bTAV,,,,,aYOD TRIANGLE,aLIGATURE YIDDISH DOUBLE VAV,cVAV YOD",
      "cDOUBLE a,aPUNCTUATION GERESH,bGERSHAYIM"]⟩,
    ⟨0x600, ["ARABIC NUMBER SIGN,aSIGN SANAH,aFOOTNOTE MARKER,aSIGN SAFHA,bSAMVAT",
      "aNUMBER MARK ABOVE,ARABIC-INDIC CUBE ROOT,bFOURTH a,ARABIC RAY",
      "ARABIC-INDIC PER MILLE SIGN,cTEN THOUSAND SIGN,AFGHANI SIGN,ARABIC COMMA,aDATE SEPARATOR",
      "aPOETIC VERSE SIGN,aSIGN MISRA,bSALLALLAHOU ALAYHE WASSALLAM,bALAYHE ASSALLAM",
      "bRAHMATULLAH ALAYHE,bRADI ALLAHOU ANHU,bTAKHALLUS,aSMALL HIGH TAH",
      "cLIGATURE ALEF WITH LAM WITH YEH,cZAIN,bFATHA,bDAMMA,bKASRA,aSEMICOLON,aLETTER MARK",
      "aEND OF TEXT MARK,aTRIPLE DOT PUNCTUATION a,aQUESTION MARK,aLETTER KASHMIRI YEH,bHAMZA",
      "bALEF WITH MADDA ABOVE,dHAMZA a,bWAW c,bALEF bBELOW,bYEH bABOVE,bALEF,bBEH,bTEH MARBUTA",
      "bTEH,bTHEH,bJEEM,bHAH,bKHAH,bDAL,bTHAL,bREH,bZAIN,bSEEN,bSHEEN,bSAD,bDAD,bTAH,bZAH,bAIN",
      "bGHAIN,bKEHEH WITH TWO DOTS ABOVE,dTHREE aBELOW,bFARSI YEH WITH INVERTED V",
      "eTWO DOTS ABOVE,eTHREE b,aTATWEEL,aLETTER FEH,bQAF,bKAF,bLAM,bMEEM,bNOON,bHEH,bWAW",
      "bALEF MAKSURA,bYEH,aFATHATAN,aDAMMATAN,aKASRATAN,aFATHA,aDAMMA,aKASRA,aSHADDA,aSUKUN",
      "aMADDAH ABOVE,aHAMZA a,bBELOW,aSUBSCRIPT ALEF,aINVERTED DAMMA,aMARK NOON GHUNNA,aZWARAKAY",
      "aVOWEL SIGN SMALL V ABOVE,cINVERTED SMALL V ABOVE,cDOT BELOW,aREVERSED DAMMA",
      "aFATHA WITH TWO DOTS,aWAVY HAMZA BELOW,ARABIC-INDIC DIGIT ZERO,cONE,cTWO,cTHREE,cFOUR",
      "cFIVE,cSIX,cSEVEN,cEIGHT,cNINE,ARABIC PERCENT SIGN,aDECIMAL SEPARATOR,aTHOUSANDS a",
      "aFIVE POINTED STAR,aLETTER DOTLESS BEH,cQAF,bSUPERSCRIPT ALEF,bALEF WASLA",
      "cWITH WAVY HAMZA ABOVE,fBELOW,bHIGH HAMZA,cHAMZA ALEF,dWAW,bU WITH HAMZA ABOVE",
      "bHIGH HAMZA YEH,bTTEH,bTTEHEH,bBEEH,bTEH WITH RING,dTHREE DOTS ABOVE DOWNWARDS,bPEH",
      "bTEHEH,bBEHEH,bHAH WITH HAMZA ABOVE,dTWO DOTS VERTICAL ABOVE,bNYEH,bDYEH",
      "bHAH WITH THREE DOTS ABOVE,bTCHEH,bTCHEHEH,bDDAL,bDAL WITH RING,dDOT BELOW",
      "eBELOW AND SMALL TAH,bDAHAL,bDDAHAL,bDUL,bDAL WITH THREE DOTS ABOVE DOWNWARDS",
      "dFOUR aABOVE,bRREH,bREH WITH SMALL V,dRING,dDOT BELOW,dSMALL V BELOW",
      "dDOT BELOW AND DOT ABOVE,dTWO DOTS ABOVE,bJEH,bREH WITH FOUR DOTS ABOVE",
      "bSEEN aDOT BELOW AND DOT ABOVE,dTHREE DOTS BELOW,fBELOW AND THREE DOTS ABOVE",
      "bSAD aTWO aBELOW,dTHREE aABOVE,bTAH d,bAIN d,bDOTLESS FEH,bFEH WITH DOT MOVED BELOW",
      "eBELOW,bVEH,bFEH WITH THREE DOTS BELOW,bPEHEH,bQAF WITH DOT ABOVE,dTHREE DOTS ABOVE",
      "bKEHEH,bSWASH KAF,bKAF WITH RING,dDOT ABOVE,bNG,bKAF WITH THREE DOTS BELOW,bGAF",
      "bGAF WITH RING,bNGOEH,bGAF WITH TWO DOTS BELOW,bGUEH,bGAF WITH THREE DOTS ABOVE",
      "bLAM aSMALL V,dDOT ABOVE,dTHREE DOTS ABOVE,fBELOW,bNOON aDOT BELOW,cGHUNNA,bRNOON",
      "bNOON WITH RING,dTHREE DOTS ABOVE,bHEH DOACHASHMEE,bTCHEH WITH DOT ABOVE,bHEH aYEH a",
      "cGOAL,cGOAL WITH HAMZA ABOVE,bTEH MARBUTA GOAL,bWAW WITH RING,bKIRGHIZ OE,bOE,bU,bYU",
      "bKIRGHIZ YU,bWAW WITH TWO DOTS ABOVE,bVE,bFARSI YEH,bYEH WITH TAIL,dSMALL V",
      "bWAW aDOT ABOVE,bE,bYEH WITH THREE DOTS BELOW,cBARREE,cBARREE WITH HAMZA ABOVE,aFULL STOP",
      "aLETTER AE,aSMALL HIGH LIGATURE SAD WITH LAM WITH ALEF MAKSURA,dQAF e,cMEEM INITIAL FORM",
      "cLAM ALEF,cJEEM,cTHREE DOTS,cSEEN,aEND OF AYAH,aSTART aRUB EL HIZB",
      "aSMALL HIGH ROUNDED ZERO,cUPRIGHT RECTANGULAR ZERO,cDOTLESS HEAD OF KHAH",
      "cMEEM ISOLATED FORM,bLOW SEEN,bHIGH MADDA,bWAW,bYEH,bHIGH YEH,cNOON,aPLACE OF SAJDAH",
      "aEMPTY CENTRE LOW STOP,cHIGH a,aROUNDED HIGH STOP WITH FILLED CENTRE,aSMALL LOW MEEM",
      "aLETTER DAL WITH INVERTED V,bREH c,EXTENDED ARABIC-INDIC DIGIT ZERO,dONE,dTWO,dTHREE",
      "dFOUR,dFIVE,dSIX,dSEVEN,dEIGHT,dNINE,ARABIC LETTER SHEEN WITH DOT BELOW,bDAD c,bGHAIN c",
      "aSIGN SINDHI AMPERSAND,cPOSTPOSITION MEN,aLETTER HEH WITH INVERTED V"]⟩,
    ⟨0x700, ["SYRIAC END OF PARAGRAPH,aSUPRALINEAR FULL STOP,aSUBLINEAR b,aSUPRALINEAR COLON",
      "aSUBLINEAR a,aHORIZONTAL a,aCOLON SKEWED LEFT,cRIGHT,aSUPRALINEAR COLON SKEWED LEFT",
      "aSUBLINEAR bRIGHT,aCONTRACTION,aHARKLEAN OBELUS,bMETOBELUS,bASTERISCUS,",
      "aABBREVIATION MARK,aLETTER ALAPH,bSUPERSCRIPT ALAPH,bBETH,bGAMAL,bGAMAL GARSHUNI,bDALATH",
      "bDOTLESS DALATH RISH,bHE,bWAW,bZAIN,bHETH,bTETH,bTETH GARSHUNI,bYUDH,bYUDH HE,bKAPH",
      "bLAMADH,bMIM,bNUN,bSEMKATH,bFINAL SEMKATH,bE,bPE,bREVERSED PE,bSADHE,bQAPH,bRISH,bSHIN",
      "bTAW,bPERSIAN BHETH,cGHAMAL,cDHALATH,aPTHAHA ABOVE,bBELOW,bDOTTED,aZQAPHA ABOVE,bBELOW",
      "bDOTTED,aRBASA ABOVE,bBELOW,aDOTTED ZLAMA HORIZONTAL,cANGULAR,aHBASA ABOVE,bBELOW",
      "aHBASA-ESASA DOTTED,aESASA ABOVE,bBELOW,aRWAHA,aFEMININE DOT,aQUSHSHAYA,aRUKKAKHA",
      "aTWO VERTICAL DOTS ABOVE,dBELOW,aTHREE DOTS ABOVE,cBELOW,aOBLIQUE LINE ABOVE,cBELOW",
      "aMUSIC,aBARREKH,,,aLETTER SOGDIAN ZHAIN,cKHAPH,cFE",
      "ARABIC aBEH WITH THREE DOTS HORIZONTALLY BELOW,dDOT BELOW AND THREE DOTS ABOVE",
      "dTHREE DOTS POINTING UPWARDS BELOW,hBELOW AND TWO DOTS ABOVE,dTWO aBELOW AND DOT ABOVE",
      "dINVERTED SMALL V BELOW,dSMALL V,bHAH aTWO DOTS ABOVE,dTHREE aPOINTING UPWARDS BELOW",
      "bDAL aTWO aVERTICALLY BELOW AND SMALL TAH,dINVERTED SMALL V BELOW,bREH aSTROKE",
      "bSEEN aFOUR DOTS ABOVE,bAIN aTWO b,dTHREE aPOINTING DOWNWARDS ABOVE",
      "dTWO aVERTICALLY ABOVE,bFEH cBELOW,dTHREE aPOINTING UPWARDS BELOW,bKEHEH aDOT ABOVE",
      "dTHREE DOTS ABOVE,fPOINTING UPWARDS BELOW,bMEEM aDOT ABOVE,eBELOW,bNOON aTWO DOTS BELOW",
      "dSMALL TAH,eV,bLAM aBAR,bREH aTWO DOTS VERTICALLY ABOVE,dHAMZA ABOVE",
      "bSEEN aTWO DOTS VERTICALLY ABOVE,bHAH aSMALL ARABIC LETTER TAH BELOW,hAND TWO DOTS",
      "bSEEN h,bREH h,bHAH eABOVE,bALEF aEXTENDED ARABIC-INDIC DIGIT TWO ABOVE,hTHREE a",
      "bFARSI YEH WITH EXTENDED ARABIC-INDIC DIGIT TWO ABOVE,iTHREE a,iFOUR BELOW",
      "bWAW WITH EXTENDED ARABIC-INDIC DIGIT TWO ABOVE,hTHREE a",
      "bYEH BARREE WITH EXTENDED ARABIC-INDIC DIGIT TWO ABOVE,iTHREE a",
      "bHAH WITH EXTENDED ARABIC-INDIC DIGIT FOUR BELOW,bSEEN fABOVE,dINVERTED V",
      "bKAF aTWO DOTS ABOVE,THAANA aHAA,bSHAVIYANI,bNOONU,bRAA,bBAA,bLHAVIYANI,bKAAFU,bALIFU",
      "bVAAVU,bMEEMU,bFAAFU,bDHAALU,bTHAA,bLAAMU,bGAAFU,bGNAVIYANI,bSEENU,bDAVIYANI,bZAVIYANI",
      "bTAVIYANI,bYAA,bPAVIYANI,bJAVIYANI,bCHAVIYANI,bTTAA,bHHAA,bKHAA,bTHAALU,bZAA,bSHEENU",
      "bSAADHU,bDAADHU,bTO,bZO,bAINU,bGHAINU,bQAAFU,bWAAVU,aABAFILI,aAABAAFILI,aIBIFILI",
      "aEEBEEFILI,aUBUFILI,aOOBOOFILI,aEBEFILI,aEYBEYFILI,aOBOFILI,aOABOAFILI,aSUKUN,aLETTER NAA"]⟩,
    ⟨0x7C0, ["NKO DIGIT ZERO,bONE,bTWO,bTHREE,bFOUR,bFIVE,bSIX,bSEVEN,bEIGHT,bNINE,aLETTER A",
      "bEE,bI,bE,bU,bOO,bO,bDAGBASINNA,bN,bBA,bPA,bTA,bJA,bCHA,bDA,bRA,bRRA,bSA,bGBA,bFA,bKA,bLA",
      "bNA WOLOSO,bMA,bNYA,bNA,bHA,bWA,bYA,bNYA WOLOSO,bJONA JA,cCHA,cRA",
      "aCOMBINING SHORT HIGH TONE,cLOW a,cRISING a,bLONG DESCENDING a,cHIGH a,cLOW a,cRISING a",
      "bNASALIZATION MARK,bDOUBLE DOT ABOVE,aHIGH TONE APOSTROPHE,aLOW b,aSYMBOL OO DENNEN",
      "bGBAKURUNEN,aCOMMA,aEXCLAMATION MARK,aLAJANYALAN,,,aDANTAYALAN,aDOROME SIGN,aTAMAN a"]⟩,
    ⟨0x800, ["SAMARITAN LETTER ALAF,bBIT,bGAMAN,bDALAT,bIY,bBAA,bZEN,bIT,bTIT,bYUT,bKAAF",
      "bLABAT,bMIM,bNUN,bSINGAAT,bIN,bFI,bTSAADIY,bQUF,bRISH,bSHAN,bTAAF,aMARK IN,bIN-ALAF",
      "bOCCLUSION,bDAGESH,aMODIFIER LETTER EPENTHETIC YUT,aMARK EPENTHETIC YUT",
      "aVOWEL SIGN LONG E,cE,cOVERLONG AA,cLONG a,cAA,cOVERLONG A,cLONG a,cA",
      "aMODIFIER LETTER SHORT A,aVOWEL SIGN b,cLONG U,cU,aMODIFIER LETTER I,aVOWEL SIGN LONG I",
      "cI,cO,cSUKUN,aMARK NEQUDAA,,,aPUNCTUATION a,bAFSAAQ,bANGED,bBAU,bATMAAU,bSHIYYAALAA",
      "aABBREVIATION MARK,aPUNCTUATION MELODIC QITSA,bZIQAA,bQITSA,bZAEF,bTURU,bARKAANU",
      "bSOF MASHFAAT,bANNAAU,,MANDAIC LETTER HALQA,bAB,bAG,bAD,bAH,bUSHENNA,bAZ,bIT,bATT,bAKSA",
      "bAK,3,bAS,bIN,bAP,bASZ,bAQ,1,bASH,bAT,bDUSHENNA,bKAD,bAIN,aAFFRICATION MARK",
      "aVOCALIZATION a,aGEMINATION a,,,aPUNCTUATION,,SYRIAC LETTER MALAYALAM NGA,cJA,cNYA,cTTA",
      "cNNA,cNNNA,cBHA,cRA,cLLA,cLLLA,cSSA"]⟩,
    ⟨0x870, ["ARABIC LETTER ALEF WITH ATTACHED FATHA,eTOP RIGHT FATHA,dRIGHT MIDDLE STROKE",
      "dLEFT b,dATTACHED KASRA,eBOTTOM RIGHT KASRA,eROUND DOT ABOVE,eRIGHT ROUND DOT,eLEFT b",
      "eROUND DOT BELOW,dDOT ABOVE,dATTACHED TOP RIGHT FATHA AND DOT ABOVE",
      "dRIGHT MIDDLE STROKE AND DOT ABOVE,dATTACHED BOTTOM RIGHT KASRA AND DOT ABOVE",
      "eTOP aFATHA aLEFT RING,dRIGHT MIDDLE STROKE AND LEFT RING",
      "dATTACHED BOTTOM RIGHT KASRA AND LEFT RING,eRIGHT HAMZA,eLEFT a",
      "aTATWEEL WITH OVERSTRUCK HAMZA,dWAW,cTWO DOTS BELOW,aLETTER THIN YEH,aBASELINE ROUND DOT",
      "aRAISED b,aLETTER NOON WITH INVERTED SMALL V,bHAH cV BELOW,bTAH aDOT BELOW",
      "dTHREE DOTS BELOW,bKEHEH aTWO aVERTICALLY BELOW,aVERTICAL TAIL,,aPOUND MARK ABOVE",
      "aPIASTRE b"]⟩,
    ⟨0x898, ["ARABIC SMALL HIGH WORD AL-JUZ,bLOW aISHMAAM,dIMAALA,dTASHEEL,aMADDA WAAJIB",
      "aSUPERSCRIPT ALEF MOKHASSAS,aDOUBLED MADDA,aHALF MADDA OVER MADDA",
      "aLETTER BEH WITH SMALL V BELOW,dHAMZA ABOVE,bJEEM aTWO DOTS ABOVE,bTAH d",
      "bFEH aDOT BELOW AND THREE DOTS ABOVE,bQAF bBELOW,bLAM aDOUBLE BAR,bMEEM aTHREE DOTS ABOVE",
      "bYEH aTWO aBELOW AND HAMZA ABOVE,hDOT a,bREH aLOOP,bWAW aDOT WITHIN,bROHINGYA YEH",
      "bLOW ALEF,bDAL WITH THREE DOTS BELOW,bSAD d,bGAF aINVERTED STROKE,bSTRAIGHT WAW",
      "bZAIN WITH INVERTED V ABOVE,bAIN aTHREE DOTS BELOW,bKAF aDOT BELOW",
      "bQAF bBELOW AND NO DOTS ABOVE,bBEH aSMALL MEEM ABOVE,bPEH d,bTEH bTEH a,bREH bNOON a",
      "bYEH aTWO DOTS BELOW AND SMALL NOON ABOVE,bAFRICAN FEH,cQAF,cNOON,bPEH WITH SMALL V",
      "bTEH c,bTTEH c,bTCHEH c,bKEHEH c,bGHAIN aTHREE DOTS ABOVE",
      "bAFRICAN QAF WITH THREE DOTS ABOVE,bJEEM WITH THREE DOTS ABOVE,fBELOW",
      "bLAM aSMALL ARABIC LETTER TAH ABOVE,bGRAF,aSMALL FARSI YEH,bHIGH FARSI YEH",
      "cYEH BARREE WITH TWO DOTS BELOW,cWORD SAH,cZAH,aLARGE ROUND DOT ABOVE,dBELOW,aSUKUN BELOW",
      "aLARGE CIRCLE BELOW,bROUND DOT INSIDE CIRCLE BELOW,aSMALL LOW WAW,bHIGH WORD AR-RUB,cSAD",
      "cAIN,cQAF,cNOON WITH KASRA,bLOW c,bHIGH WORD ATH-THALATHA,dAS-SAJDA,dAN-NISF,dSAKTA,dQIF",
      "dWAQFA,cFOOTNOTE MARKER,cSIGN SAFHA,aDISPUTED END OF AYAH,aTURNED DAMMA BELOW",
      "aCURLY FATHA,bDAMMA,bKASRA,bFATHATAN,bDAMMATAN,bKASRATAN,aTONE ONE DOT ABOVE,bTWO DOTS a",
      "bLOOP ABOVE,bONE DOT BELOW,bTWO DOTS a,bLOOP BELOW,aOPEN FATHATAN,bDAMMATAN,bKASRATAN",
      "aSMALL HIGH WAW,aFATHA WITH RING,cDOT ABOVE,aKASRA bBELOW,aLEFT ARROWHEAD ABOVE,aRIGHT b",
      "aLEFT aBELOW,aRIGHT b,aDOUBLE RIGHT ARROWHEAD ABOVE,dABOVE WITH DOT",
      "aRIGHT ARROWHEAD ABOVE WITH DOT,aDAMMA WITH DOT,aMARK SIDEWAYS NOON GHUNNA"]⟩,
    ⟨0x900, ["DEVANAGARI SIGN INVERTED CANDRABINDU,bCANDRABINDU,bANUSVARA,bVISARGA",
      "aLETTER SHORT A,bA,bAA,bI,bII,bU,bUU,bVOCALIC R,cL,bCANDRA E,bSHORT a,bE,bAI,bCANDRA O",
      "bSHORT a,bO,bAU,bKA,bKHA,bGA,bGHA,bNGA,bCA,bCHA,bJA,bJHA,bNYA,bTTA,bTTHA,bDDA,bDDHA,bNNA",
      "bTA,bTHA,bDA,bDHA,bNA,bNNNA,bPA,bPHA,bBA,bBHA,bMA,bYA,bRA,bRRA,bLA,bLLA,bLLLA,bVA,bSHA",
      "bSSA,bSA,bHA,aVOWEL SIGN OE,cOOE,aSIGN NUKTA,bAVAGRAHA,aVOWEL SIGN AA,cI,cII,cU,cUU",
      "cVOCALIC R,dRR,cCANDRA E,cSHORT a,cE,cAI,cCANDRA O,cSHORT a,cO,cAU,aSIGN VIRAMA",
      "aVOWEL SIGN PRISHTHAMATRA E,cAW,aOM,aSTRESS SIGN UDATTA,cANUDATTA,aGRAVE ACCENT,aACUTE a",
      "aVOWEL SIGN CANDRA LONG E,cUE,cUUE,aLETTER QA,bKHHA,bGHHA,bZA,bDDDHA,bRHA,bFA,bYYA",
      "bVOCALIC RR,cLL,aVOWEL SIGN VOCALIC L,dLL,aDANDA,aDOUBLE DANDA,aDIGIT ZERO,bONE,bTWO",
      "bTHREE,bFOUR,bFIVE,bSIX,bSEVEN,bEIGHT,bNINE,aABBREVIATION SIGN,aSIGN HIGH SPACING DOT",
      "aLETTER CANDRA A,bOE,bOOE,bAW,bUE,bUUE,bMARWARI DDA,bZHA,bHEAVY YA,bGGA,bJJA",
      "bGLOTTAL STOP,bDDDA,bBBA,BENGALI ANJI,aSIGN CANDRABINDU,bANUSVARA,bVISARGA,,aLETTER A,bAA",
      "bI,bII,bU,bUU,bVOCALIC R,cL,,,bE,bAI,,,bO,bAU,bKA,bKHA,bGA,bGHA,bNGA,bCA,bCHA,bJA,bJHA",
      "bNYA,bTTA,bTTHA,bDDA,bDDHA,bNNA,bTA,bTHA,bDA,bDHA,bNA,,bPA,bPHA,bBA,bBHA,bMA,bYA,bRA,,bLA",
      ",,,bSHA,bSSA,bSA,bHA,,,aSIGN NUKTA,bAVAGRAHA,aVOWEL SIGN AA,cI,cII,cU,cUU,cVOCALIC R,dRR,",
      ",cE,cAI,,,cO,cAU,aSIGN VIRAMA,aLETTER KHANDA TA"]⟩,
    ⟨0x9D7, ["BENGALI AU LENGTH MARK,,,,,aLETTER RRA,bRHA,,bYYA,bVOCALIC RR,cLL",
      "aVOWEL SIGN VOCALIC L,dLL,,,aDIGIT ZERO,bONE,bTWO,bTHREE,bFOUR,bFIVE,bSIX,bSEVEN,bEIGHT",
      "bNINE,aLETTER RA WITH MIDDLE DIAGONAL,dLOWER a,aRUPEE MARK,bSIGN,aCURRENCY NUMERATOR ONE",
      "cTWO,cTHREE,cFOUR,cONE LESS THAN THE DENOMINATOR,bDENOMINATOR SIXTEEN,aISSHAR,aGANDA MARK",
      "aLETTER VEDIC ANUSVARA,aABBREVIATION SIGN,aSANDHI MARK"]⟩,
    ⟨0xA01, ["GURMUKHI SIGN ADAK BINDI,bBINDI,bVISARGA,,aLETTER A,bAA,bI,bII,bU,bUU,,,,,bEE",
      "bAI,,,bOO,bAU,bKA,bKHA,bGA,bGHA,bNGA,bCA,bCHA,bJA,bJHA,bNYA,bTTA,bTTHA,bDDA,bDDHA,bNNA",
      "bTA,bTHA,bDA,bDHA,bNA,,bPA,bPHA,bBA,bBHA,bMA,bYA,bRA,,bLA,bLLA,,bVA,bSHA,,bSA,bHA,,",
      "aSIGN NUKTA,,aVOWEL SIGN AA,cI,cII,cU,cUU,,,,,cEE,cAI,,,cOO,cAU,aSIGN VIRAMA,,,,bUDAAT"]⟩,
    ⟨0xA59, ["GURMUKHI LETTER KHHA,bGHHA,bZA,bRRA,,bFA"]⟩,
    ⟨0xA66, ["GURMUKHI DIGIT ZERO,bONE,bTWO,bTHREE,bFOUR,bFIVE,bSIX,bSEVEN,bEIGHT,bNINE",
      "aTIPPI,aADDAK,aIRI,aURA,aEK ONKAR,aSIGN YAKASH,aABBREVIATION SIGN"]⟩,
    ⟨0xA81, ["GUJARATI SIGN CANDRABINDU,bANUSVARA,bVISARGA,,aLETTER A,bAA,bI,bII,bU,bUU",
      "bVOCALIC R,cL,aVOWEL CANDRA E,,aLETTER E,bAI,aVOWEL CANDRA O,,aLETTER O,bAU,bKA,bKHA,bGA",
      "bGHA,bNGA,bCA,bCHA,bJA,bJHA,bNYA,bTTA,bTTHA,bDDA,bDDHA,bNNA,bTA,bTHA,bDA,bDHA,bNA,,bPA",
      "bPHA,bBA,bBHA,bMA,bYA,bRA,,bLA,bLLA,,bVA,bSHA,bSSA,bSA,bHA,,,aSIGN NUKTA,bAVAGRAHA",
      "aVOWEL SIGN AA,cI,cII,cU,cUU,cVOCALIC R,dRR,cCANDRA E,,cE,cAI,cCANDRA O,,cO,cAU",
      "aSIGN VIRAMA,,,aOM"]⟩,
    ⟨0xAE0, ["GUJARATI LETTER VOCALIC RR,cLL,aVOWEL SIGN VOCALIC L,dLL,,,aDIGIT ZERO,bONE",
      "bTWO,bTHREE,bFOUR,bFIVE,bSIX,bSEVEN,bEIGHT,bNINE,aABBREVIATION SIGN,aRUPEE a"]⟩,
    ⟨0xAF9, ["GUJARATI LETTER ZHA,aSIGN SUKUN,bSHADDA,bMADDAH,bTHREE-DOT NUKTA ABOVE",
      "bCIRCLE NUKTA ABOVE,bTWO-CIRCLE NUKTA ABOVE"]⟩,
    ⟨0xB01, ["ORIYA SIGN CANDRABINDU,bANUSVARA,bVISARGA,,aLETTER A,bAA,bI,bII,bU,bUU",
      "bVOCALIC R,cL,,,bE,bAI,,,bO,bAU,bKA,bKHA,bGA,bGHA,bNGA,bCA,bCHA,bJA,bJHA,bNYA,bTTA,bTTHA",
      "bDDA,bDDHA,bNNA,bTA,bTHA,bDA,bDHA,bNA,,bPA,bPHA,bBA,bBHA,bMA,bYA,bRA,,bLA,bLLA,,bVA,bSHA",
      "bSSA,bSA,bHA,,,aSIGN NUKTA,bAVAGRAHA,aVOWEL SIGN AA,cI,cII,cU,cUU,cVOCALIC R,dRR,,,cE,cAI",
      ",,cO,cAU,aSIGN VIRAMA"]⟩,
    ⟨0xB55, ["ORIYA SIGN OVERLINE,aAI LENGTH MARK,aAU b,,,,,aLETTER RRA,bRHA,,bYYA",
      "bVOCALIC RR,cLL,aVOWEL SIGN VOCALIC L,dLL,,,aDIGIT ZERO,bONE,bTWO,bTHREE,bFOUR,bFIVE,bSIX",
      "bSEVEN,bEIGHT,bNINE,aISSHAR,aLETTER WA,aFRACTION ONE QUARTER,cHALF,bTHREE QUARTERS",
      "bONE SIXTEENTH,cEIGHTH,bTHREE SIXTEENTHS"]⟩,
    ⟨0xB82, ["TAMIL SIGN ANUSVARA,bVISARGA,,aLETTER A,bAA,bI,bII,bU,bUU,,,,bE,bEE,bAI,,bO,bOO",
      "bAU,bKA,,,,bNGA,bCA,,bJA,,bNYA,bTTA,,,,bNNA,bTA,,,,bNA,bNNNA,bPA,,,,bMA,bYA,bRA,bRRA,bLA",
      "bLLA,bLLLA,bVA,bSHA,bSSA,bSA,bHA,,,,,aVOWEL SIGN AA,cI,cII,cU,cUU,,,,cE,cEE,cAI,,cO,cOO",
      "cAU,aSIGN VIRAMA,,,aOM"]⟩,
    ⟨0xBD7, ["TAMIL AU LENGTH MARK"]⟩,
    ⟨0xBE6, ["TAMIL DIGIT ZERO,bONE,bTWO,bTHREE,bFOUR,bFIVE,bSIX,bSEVEN,bEIGHT,bNINE",
      "aNUMBER TEN,bONE HUNDRED,cTHOUSAND,aDAY SIGN,aMONTH a,aYEAR a,aDEBIT a,aCREDIT a",
      "aAS ABOVE SIGN,aRUPEE SIGN,aNUMBER a"]⟩,
    ⟨0xC00, ["TELUGU SIGN COMBINING CANDRABINDU ABOVE,bCANDRABINDU,bANUSVARA,bVISARGA",
      "bCOMBINING ANUSVARA ABOVE,aLETTER A,bAA,bI,bII,bU,bUU,bVOCALIC R,cL,,bE,bEE,bAI,,bO,bOO",
      "bAU,bKA,bKHA,bGA,bGHA,bNGA,bCA,bCHA,bJA,bJHA,bNYA,bTTA,bTTHA,bDDA,bDDHA,bNNA,bTA,bTHA,bDA",
      "bDHA,bNA,,bPA,bPHA,bBA,bBHA,bMA,bYA,bRA,bRRA,bLA,bLLA,bLLLA,bVA,bSHA,bSSA,bSA,bHA,,",
      "aSIGN NUKTA,bAVAGRAHA,aVOWEL SIGN AA,cI,cII,cU,cUU,cVOCALIC R,dRR,,cE,cEE,cAI,,cO,cOO,cAU",
      "aSIGN VIRAMA"]⟩,
    ⟨0xC55, ["TELUGU LENGTH MARK,aAI LENGTH MARK,,aLETTER TSA,bDZA,bRRRA,,,bNAKAARA POLLU,,",
      "bVOCALIC RR,cLL,aVOWEL SIGN VOCALIC L,dLL,,,aDIGIT ZERO,bONE,bTWO,bTHREE,bFOUR,bFIVE,bSIX",
      "bSEVEN,bEIGHT,bNINE"]⟩,
    ⟨0xC77, ["TELUGU SIGN SIDDHAM,aFRACTION DIGIT ZERO FOR ODD POWERS OF FOUR,cONE e,cTWO e",
      "cTHREE e,cONE aEVEN c,cTWO e,cTHREE e,aSIGN TUUMU,KANNADA aSPACING CANDRABINDU",
      "bCANDRABINDU,bANUSVARA,bVISARGA,bSIDDHAM,aLETTER A,bAA,bI,bII,bU,bUU,bVOCALIC R,cL,,bE",
      "bEE,bAI,,bO,bOO,bAU,bKA,bKHA,bGA,bGHA,bNGA,bCA,bCHA,bJA,bJHA,bNYA,bTTA,bTTHA,bDDA,bDDHA",
      "bNNA,bTA,bTHA,bDA,bDHA,bNA,,bPA,bPHA,bBA,bBHA,bMA,bYA,bRA,bRRA,bLA,bLLA,,bVA,bSHA,bSSA",
      "bSA,bHA,,,aSIGN NUKTA,bAVAGRAHA,aVOWEL SIGN AA,cI,cII,cU,cUU,cVOCALIC R,dRR,,cE,cEE,cAI,",
      "cO,cOO,cAU,aSIGN VIRAMA"]⟩,
    ⟨0xCD5, ["KANNADA LENGTH MARK,aAI LENGTH MARK"]⟩,
    ⟨0xCDD, ["KANNADA LETTER NAKAARA POLLU,bFA,,bVOCALIC RR,cLL,aVOWEL SIGN VOCALIC L,dLL,,",
      "aDIGIT ZERO,bONE,bTWO,bTHREE,bFOUR,bFIVE,bSIX,bSEVEN,bEIGHT,bNINE,,aSIGN JIHVAMULIYA",
      "bUPADHMANIYA"]⟩,
    ⟨0xD00, ["MALAYALAM SIGN COMBINING ANUSVARA ABOVE,bCANDRABINDU,bANUSVARA,bVISARGA",
      "aLETTER VEDIC ANUSVARA,bA,bAA,bI,bII,bU,bUU,bVOCALIC R,cL,,bE,bEE,bAI,,bO,bOO,bAU,bKA",
      "bKHA,bGA,bGHA,bNGA,bCA,bCHA,bJA,bJHA,bNYA,bTTA,bTTHA,bDDA,bDDHA,bNNA,bTA,bTHA,bDA,bDHA",
      "bNA,bNNNA,bPA,bPHA,bBA,bBHA,bMA,bYA,bRA,bRRA,bLA,bLLA,bLLLA,bVA,bSHA,bSSA,bSA,bHA,bTTTA",
      "aSIGN VERTICAL BAR VIRAMA,bCIRCULAR VIRAMA,bAVAGRAHA,aVOWEL SIGN AA,cI,cII,cU,cUU",
      "cVOCALIC R,dRR,,cE,cEE,cAI,,cO,cOO,cAU,aSIGN VIRAMA,aLETTER DOT REPH,aSIGN PARA,,,,",
      "aLETTER CHILLU M,cY,cLLL,aAU LENGTH MARK,aFRACTION ONE ONE-HUNDRED-AND-SIXTIETH,cFORTIETH",
      "bTHREE EIGHTIETHS,bONE TWENTIETH,cTENTH,bTHREE TWENTIETHS,bONE FIFTH,aLETTER ARCHAIC II",
      "bVOCALIC RR,cLL,aVOWEL SIGN VOCALIC L,dLL,,,aDIGIT ZERO,bONE,bTWO,bTHREE,bFOUR,bFIVE,bSIX",
      "bSEVEN,bEIGHT,bNINE,aNUMBER TEN,bONE HUNDRED,cTHOUSAND,aFRACTION aQUARTER,cHALF",
      "bTHREE QUARTERS,bONE SIXTEENTH,cEIGHTH,bTHREE SIXTEENTHS,aDATE MARK,aLETTER CHILLU NN,cN",
      "cRR,cL,cLL,cK,,SINHALA SIGN CANDRABINDU,bANUSVARAYA,bVISARGAYA,,aLETTER AYANNA,bAAYANNA",
      "bAEYANNA,bAEEYANNA,bIYANNA,bIIYANNA,bUYANNA,bUUYANNA,bIRUYANNA,bIRUUYANNA,bILUYANNA",
      "bILUUYANNA,bEYANNA,bEEYANNA,bAIYANNA,bOYANNA,bOOYANNA,bAUYANNA,,,,bALPAPRAANA KAYANNA",
      "bMAHAAPRAANA a,bALPAPRAANA GAYANNA,bMAHAAPRAANA a,bKANTAJA NAASIKYAYA,bSANYAKA GAYANNA",
      "bALPAPRAANA CAYANNA,bMAHAAPRAANA a,bALPAPRAANA JAYANNA,bMAHAAPRAANA a,bTAALUJA NAASIKYAYA",
      "cSANYOOGA NAAKSIKYAYA,bSANYAKA JAYANNA,bALPAPRAANA TTAYANNA,bMAHAAPRAANA a",
      "bALPAPRAANA DDAYANNA,bMAHAAPRAANA a,bMUURDHAJA NAYANNA,bSANYAKA DDAYANNA",
      "bALPAPRAANA TAYANNA,bMAHAAPRAANA a,bALPAPRAANA DAYANNA,bMAHAAPRAANA a,bDANTAJA NAYANNA,",
      "bSANYAKA DAYANNA,bALPAPRAANA PAYANNA,bMAHAAPRAANA a,bALPAPRAANA BAYANNA,bMAHAAPRAANA a",
      "bMAYANNA,bAMBA BAYANNA,bYAYANNA,bRAYANNA,,bDANTAJA LAYANNA,,,bVAYANNA,bTAALUJA SAYANNA",
      "bMUURDHAJA a,bDANTAJA a,bHAYANNA,bMUURDHAJA LAYANNA,bFAYANNA,,,,aSIGN AL-LAKUNA,,,,",
      "aVOWEL SIGN AELA-PILLA,cKETTI AEDA-PILLA,cDIGA b,cKETTI IS-a,cDIGA b,cKETTI PAA-a,",
      "cDIGA b,,cGAETTA-PILLA,cKOMBUVA,cDIGA KOMBUVA,cKOMBU DEKA,cKOMBUVA HAA AELA-PILLA",
      "eDIGA AELA-PILLA,eGAYANUKITTA,cGAYANUKITTA"]⟩,
    ⟨0xDE6, ["SINHALA LITH DIGIT ZERO,cONE,cTWO,cTHREE,cFOUR,cFIVE,cSIX,cSEVEN,cEIGHT,cNINE,,",
      "aVOWEL SIGN DIGA GAETTA-PILLA,dGAYANUKITTA,aPUNCTUATION KUNDDALIYA"]⟩,
    ⟨0xE01, ["THAI CHARACTER KO KAI,bKHO KHAI,cKHUAT,cKHWAI,cKHON,cRAKHANG,bNGO NGU,bCHO CHAN",
      "cCHING,cCHANG,bSO SO,bCHO CHOE,bYO YING,bDO CHADA,bTO PATAK,bTHO THAN,cNANGMONTHO",
      "cPHUTHAO,bNO NEN,bDO DEK,bTO TAO,bTHO THUNG,cTHAHAN,cTHONG,bNO NU,bBO BAIMAI,bPO PLA",
      "bPHO PHUNG,bFO FA,bPHO PHAN,bFO FAN,bPHO SAMPHAO,bMO MA,bYO YAK,bRO RUA,bRU,bLO LING,bLU",
      "bWO WAEN,bSO SALA,cRUSI,cSUA,bHO HIP,bLO CHULA,bO ANG,bHO NOKHUK,bPAIYANNOI,bSARA A",
      "bMAI HAN-AKAT,bSARA AA,cAM,cI,cII,cUE,cUEE,cU,cUU,bPHINTHU,,,,,aCURRENCY SYMBOL BAHT",
      "aCHARACTER SARA E,cAE,cO,cAI MAIMUAN,dMAIMALAI,bLAKKHANGYAO,bMAIYAMOK,bMAITAIKHU,bMAI EK",
      "cTHO,cTRI,cCHATTAWA,bTHANTHAKHAT,bNIKHAHIT,bYAMAKKAN,bFONGMAN,aDIGIT ZERO,bONE,bTWO",
      "bTHREE,bFOUR,bFIVE,bSIX,bSEVEN,bEIGHT,bNINE,aCHARACTER ANGKHANKHU,bKHOMUT"]⟩,
    ⟨0xE81, ["LAO LETTER KO,bKHO SUNG,,cTAM,,bPALI GHA,bNGO,bCO,bPALI CHA,bSO TAM,,bPALI JHA",
      "bNYO,bPALI NYA,cTTA,cTTHA,cDDA,cDDHA,cNNA,bDO,bTO,bTHO SUNG,cTAM,bPALI DHA,bNO,bBO,bPO",
      "bPHO SUNG,bFO TAM,bPHO a,bFO SUNG,bPALI BHA,bMO,bYO,bLO LING,,cLOOT,,bWO,bSANSKRIT SHA",
      "cSSA,bSO SUNG,bHO a,bPALI LLA,bO,bHO TAM,aELLIPSIS,aVOWEL SIGN A,cMAI KAN,cAA,cAM,cI,cII",
      "cY,cYY,cU,cUU,aSIGN PALI VIRAMA,aVOWEL SIGN MAI KON,aSEMIVOWEL aLO,cNYO,,,aVOWEL aE,cEI",
      "cO,cAY,cAI,,aKO LA,,aTONE MAI EK,cTHO,cTI,cCATAWA,aCANCELLATION MARK,aNIGGAHITA,,",
      "aDIGIT ZERO,bONE,bTWO,bTHREE,bFOUR,bFIVE,bSIX,bSEVEN,bEIGHT,bNINE,,,aHO NO,bMO",
      "aLETTER KHMU GO,cNYO"]⟩,
    ⟨0xF00, ["TIBETAN SYLLABLE OM,aMARK GTER YIG MGO TRUNCATED A,e-UM RNAM BCAD MA",
      "gGTER TSHEG a,bINITIAL bMDUN MA,bCLOSING bSGAB a,bCARET bPHUR SHAD MA",
      "bYIG MGO TSHEG SHAD MA,bSBRUL SHAD,bBSKUR YIG MGO,bBKA- SHOG YIG MGO,bINTERSYLLABIC TSHEG",
      "bDELIMITER TSHEG BSTAR,bSHAD,bNYIS SHAD,bTSHEG a,bNYIS TSHEG SHAD,bRIN CHEN SPUNGS SHAD",
      "bRGYA GRAM SHAD,bCARET -DZUD RTAGS ME LONG CAN,bGTER TSHEG,aLOGOTYPE SIGN CHAD RTAGS",
      "cLHAG a,aASTROLOGICAL aSGRA GCAN -CHAR RTAGS,c-KHYUD PA,cSDONG TSHUGS",
      "aSIGN RDEL DKAR GCIG,dGNYIS,dGSUM,cNAG GCIG,dGNYIS,cDKAR RDEL NAG,aDIGIT ZERO,bONE,bTWO",
      "bTHREE,bFOUR,bFIVE,bSIX,bSEVEN,bEIGHT,bNINE,bHALF ONE,cTWO,cTHREE,cFOUR,cFIVE,cSIX,cSEVEN",
      "cEIGHT,cNINE,cZERO,aMARK BSDUS RTAGS,bNGAS BZUNG NYI ZLA,bCARET -DZUD RTAGS BZHI MIG CAN",
      "bNGAS BZUNG SGOR RTAGS,bCHE MGO,bTSA -PHRU,bGUG RTAGS GYON,dGYAS,bANG KHANG GYON,dGYAS",
      "aSIGN YAR TSHES,bMAR a,aLETTER KA,bKHA,bGA,bGHA,bNGA,bCA,bCHA,bJA,,bNYA,bTTA,bTTHA,bDDA",
      "bDDHA,bNNA,bTA,bTHA,bDA,bDHA,bNA,bPA,bPHA,bBA,bBHA,bMA,bTSA,bTSHA,bDZA,bDZHA,bWA,bZHA,bZA",
      "b-A,bYA,bRA,bLA,bSHA,bSSA,bSA,bHA,bA,bKSSA,bFIXED-FORM RA,bKKA,bRRA,,,,,aVOWEL SIGN AA,cI",
      "cII,cU,cUU,cVOCALIC R,dRR,dL,dLL,cE,cEE,cO,cOO,aSIGN RJES SU NGA RO,bRNAM BCAD",
      "aVOWEL SIGN REVERSED I,dII,aSIGN NYI ZLA NAA DA,bSNA LDAN,aMARK HALANTA,bPALUTA",
      "aSIGN LCI RTAGS,bYANG a,bLCE TSA CAN,bMCHU CAN,bGRU CAN RGYINGS,cMED a,bINVERTED MCHU CAN",
      "aSUBJOINED SIGN LCE TSA CAN,cMCHU CAN,cINVERTED MCHU CAN,bLETTER KA,cKHA,cGA,cGHA,cNGA",
      "cCA,cCHA,cJA,,cNYA,cTTA,cTTHA,cDDA,cDDHA,cNNA,cTA,cTHA,cDA,cDHA,cNA,cPA,cPHA,cBA,cBHA,cMA",
      "cTSA,cTSHA,cDZA,cDZHA,cWA,cZHA,cZA,c-A,cYA,cRA,cLA,cSHA,cSSA,cSA,cHA,cA,cKSSA",
      "cFIXED-FORM WA,eYA,eRA,,aKU RU KHA,cKHA BZHI MIG CAN,aCANTILLATION SIGN HEAVY BEAT",
      "cLIGHT a,cCANG TE-U,cSBUB -CHAL,aSYMBOL DRIL BU,bRDO RJE,bPADMA GDAN,bRDO RJE RGYA GRAM",
      "bPHUR PA,bNOR BU,cBU NYIS -KHYIL,dGSUM b,dBZHI b,,aSIGN RDEL NAG RDEL DKAR,dGSUM",
      "aMARK BSKA- SHOG GI MGO RGYAN,bMNYAM YIG GI MGO RGYAN,bNYIS TSHEG",
      "bINITIAL BRDA RNYING YIG MGO MDUN MA,bCLOSING dSGAB a,RIGHT-FACING SVASTI SIGN,LEFT-c",
      "RIGHT-bSIGN WITH DOTS,LEFT-e,TIBETAN MARK LEADING MCHAN RTAGS,bTRAILING b"]⟩,
    ⟨0x1000, ["MYANMAR LETTER KA,bKHA,bGA,bGHA,bNGA,bCA,bCHA,bJA,bJHA,bNYA,bNNYA,bTTA,bTTHA",
      "bDDA,bDDHA,bNNA,bTA,bTHA,bDA,bDHA,bNA,bPA,bPHA,bBA,bBHA,bMA,bYA,bRA,bLA,bWA,bSA,bHA,bLLA",
      "bA,bSHAN A,bI,bII,bU,bUU,bE,bMON E,bO,bAU,aVOWEL SIGN TALL AA,cAA,cI,cII,cU,cUU,cE,cAI",
      "cMON II,dO,cE ABOVE,aSIGN ANUSVARA,bDOT BELOW,bVISARGA,bVIRAMA,bASAT",
      "aCONSONANT SIGN MEDIAL YA,dRA,dWA,dHA,aLETTER GREAT SA,aDIGIT ZERO,bONE,bTWO,bTHREE,bFOUR",
      "bFIVE,bSIX,bSEVEN,bEIGHT,bNINE,aSIGN LITTLE SECTION,bSECTION,aSYMBOL LOCATIVE,bCOMPLETED",
      "bAFOREMENTIONED,bGENITIVE,aLETTER SHA,bSSA,bVOCALIC R,cRR,cL,cLL,aVOWEL SIGN VOCALIC R",
      "dRR,dL,dLL,aLETTER MON NGA,cJHA,cBBA,cBBE,aCONSONANT SIGN MON MEDIAL NA,eMA,eLA",
      "aLETTER SGAW KAREN SHA,aVOWEL SIGN SGAW KAREN EU,aTONE MARK bHATHI,eKE PHO",
      "aLETTER WESTERN PWO aTHA,ePWA,aVOWEL SIGN WESTERN PWO KAREN EU,fUE",
      "aSIGN WESTERN PWO KAREN TONE-1,4,aLETTER EASTERN bNNA,eYWA,eGHWA,aVOWEL SIGN GEBA aI",
      "cKAYAH OE,dU,dEE,aLETTER SHAN KA,cKHA,cGA,cCA,cZA,cNYA,cDA,cNA,cPHA,cFA,cBA,cTHA,cHA",
      "aCONSONANT SIGN SHAN MEDIAL WA,aVOWEL bAA,dE,dE ABOVE,dFINAL Y,aSIGN SHAN TONE-2,1,d5,1",
      "cCOUNCIL TONE-2,1,dEMPHATIC TONE,aLETTER RUMAI PALAUNG FA,aSIGN bTONE-5,aSHAN DIGIT ZERO",
      "cONE,cTWO,cTHREE,cFOUR,cFIVE,cSIX,cSEVEN,cEIGHT,cNINE,aSIGN KHAMTI TONE-1,d3",
      "aVOWEL SIGN AITON A,dAI,aSYMBOL SHAN ONE,cEXCLAMATION,GEORGIAN CAPITAL LETTER AN,cBAN",
      "cGAN,cDON,cEN,cVIN,cZEN,cTAN,cIN,cKAN,cLAS,cMAN,cNAR,cON,cPAR,cZHAR,cRAE,cSAN,cTAR,cUN",
      "cPHAR,cKHAR,cGHAN,cQAR,cSHIN,cCHIN,cCAN,cJIL,cCIL,cCHAR,cXAN,cJHAN,cHAE,cHE,cHIE,cWE,cHAR",
      "cHOE,,cYN"]⟩,
    ⟨0x10CD, ["GEORGIAN CAPITAL LETTER AEN,,,aLETTER AN,bBAN,bGAN,bDON,bEN,bVIN,bZEN,bTAN,bIN",
      "bKAN,bLAS,bMAN,bNAR,bON,bPAR,bZHAR,bRAE,bSAN,bTAR,bUN,bPHAR,bKHAR,bGHAN,bQAR,bSHIN,bCHIN",
      "bCAN,bJIL,bCIL,bCHAR,bXAN,bJHAN,bHAE,bHE,bHIE,bWE,bHAR,bHOE,bFI,bYN,bELIFI,bTURNED GAN",
      "bAIN,aPARAGRAPH SEPARATOR,MODIFIER LETTER GEORGIAN NAR,GEORGIAN aAEN,bHARD SIGN,bLABIAL a"]⟩,
    ⟨0x1100, ["HANGUL CHOSEONG KIYEOK,bSSANGKIYEOK,bNIEUN,bTIKEUT,bSSANGTIKEUT,bRIEUL,bMIEUM",
      "bPIEUP,bSSANGPIEUP,bSIOS,bSSANGSIOS,bIEUNG,bCIEUC,bSSANGCIEUC,bCHIEUCH,bKHIEUKH,bTHIEUTH",
      "bPHIEUPH,bHIEUH,bNIEUN-KIYEOK,bSSANGNIEUN,bNIEUN-TIKEUT,cPIEUP,bTIKEUT-KIYEOK",
      "bRIEUL-NIEUN,bSSANGRIEUL,bRIEUL-HIEUH,bKAPYEOUNRIEUL,bMIEUM-PIEUP,bKAPYEOUNMIEUM",
      "bPIEUP-KIYEOK,cNIEUN,cTIKEUT,cSIOS,cSIOS-KIYEOK,dTIKEUT,dPIEUP,cSSANGSIOS,cSIOS-CIEUC",
      "cCIEUC,cCHIEUCH,cTHIEUTH,cPHIEUPH,bKAPYEOUNPIEUP,bKAPYEOUNSSANGPIEUP,bSIOS-KIYEOK,cNIEUN",
      "cTIKEUT,cRIEUL,cMIEUM,cPIEUP,cPIEUP-KIYEOK,cSSANGSIOS,cIEUNG,cCIEUC,cCHIEUCH,cKHIEUKH",
      "cTHIEUTH,cPHIEUPH,cHIEUH,bCHITUEUMSIOS,bCHITUEUMSSANGSIOS,bCEONGCHIEUMSIOS",
      "bCEONGCHIEUMSSANGSIOS,bPANSIOS,bIEUNG-KIYEOK,cTIKEUT,cMIEUM,cPIEUP,cSIOS,cPANSIOS",
      "bSSANGIEUNG,bIEUNG-CIEUC,cCHIEUCH,cTHIEUTH,cPHIEUPH,bYESIEUNG,bCIEUC-IEUNG,bCHITUEUMCIEUC",
      "bCHITUEUMSSANGCIEUC,bCEONGCHIEUMCIEUC,bCEONGCHIEUMSSANGCIEUC,bCHIEUCH-KHIEUKH,cHIEUH",
      "bCHITUEUMCHIEUCH,bCEONGCHIEUMCHIEUCH,bPHIEUPH-PIEUP,bKAPYEOUNPHIEUPH,bSSANGHIEUH",
      "bYEORINHIEUH,bKIYEOK-TIKEUT,bNIEUN-SIOS,cCIEUC,cHIEUH,bTIKEUT-RIEUL,bFILLER,aJUNGSEONG a",
      "bA,bAE,bYA,bYAE,bEO,bE,bYEO,bYE,bO,bWA,bWAE,bOE,bYO,bU,bWEO,bWE,bWI,bYU,bEU,bYI,bI,bA-O",
      "cU,bYA-O,cYO,bEO-O,cU,cEU,bYEO-O,cU,bO-EO,cE,cYE,cO,cU,bYO-YA,cYAE,cYEO,cO,cI,bU-A,cAE",
      "cEO-EU,cYE,cU,bYU-A,cEO,cE,cYEO,cYE,cU,cI,bEU-U,cEU,bYI-U,bI-A,cYA,cO,cU,cEU,cARAEA",
      "bARAEA,bARAEA-EO,cU,cI,bSSANGARAEA,bA-EU,bYA-U,bYEO-YA,bO-a,cYAE,aJONGSEONG KIYEOK",
      "bSSANGKIYEOK,bKIYEOK-SIOS,bNIEUN,bNIEUN-CIEUC,cHIEUH,bTIKEUT,bRIEUL,bRIEUL-KIYEOK,cMIEUM",
      "cPIEUP,cSIOS,cTHIEUTH,cPHIEUPH,cHIEUH,bMIEUM,bPIEUP,bPIEUP-SIOS,bSIOS,bSSANGSIOS,bIEUNG",
      "bCIEUC,bCHIEUCH,bKHIEUKH,bTHIEUTH,bPHIEUPH,bHIEUH,bKIYEOK-RIEUL,cSIOS-KIYEOK",
      "bNIEUN-KIYEOK,cTIKEUT,cSIOS,cPANSIOS,cTHIEUTH,bTIKEUT-KIYEOK,cRIEUL,bRIEUL-KIYEOK-SIOS",
      "cNIEUN,cTIKEUT,cTIKEUT-HIEUH,bSSANGRIEUL,bRIEUL-MIEUM-KIYEOK,dSIOS,cPIEUP-a,dHIEUH",
      "cKAPYEOUNPIEUP,cSSANGSIOS,cPANSIOS,cKHIEUKH,cYEORINHIEUH,bMIEUM-KIYEOK,cRIEUL,cPIEUP",
      "cSIOS,cSSANGSIOS,cPANSIOS,cCHIEUCH,cHIEUH,bKAPYEOUNMIEUM,bPIEUP-RIEUL,cPHIEUPH,cHIEUH",
      "bKAPYEOUNPIEUP,bSIOS-KIYEOK,cTIKEUT,cRIEUL,cPIEUP,bPANSIOS,bIEUNG-KIYEOK,cSSANGKIYEOK",
      "bSSANGIEUNG,bIEUNG-KHIEUKH,bYESIEUNG,bYESIEUNG-SIOS,cPANSIOS,bPHIEUPH-PIEUP",
      "bKAPYEOUNPHIEUPH,bHIEUH-NIEUN,cRIEUL,cMIEUM,cPIEUP,bYEORINHIEUH,bKIYEOK-NIEUN,cPIEUP",
      "cCHIEUCH,cKHIEUKH,cHIEUH,bSSANGNIEUN"]⟩,
    ⟨0x1200, ["ETHIOPIC SYLLABLE HA,bHU,bHI,bHAA,bHEE,bHE,bHO,bHOA,bLA,bLU,bLI,bLAA,bLEE,bLE",
      "bLO,bLWA,bHHA,bHHU,bHHI,bHHAA,bHHEE,bHHE,bHHO,bHHWA,bMA,bMU,bMI,bMAA,bMEE,bME,bMO,bMWA",
      "bSZA,bSZU,bSZI,bSZAA,bSZEE,bSZE,bSZO,bSZWA,bRA,bRU,bRI,bRAA,bREE,bRE,bRO,bRWA,bSA,bSU,bSI",
      "bSAA,bSEE,bSE,bSO,bSWA,bSHA,bSHU,bSHI,bSHAA,bSHEE,bSHE,bSHO,bSHWA,bQA,bQU,bQI,bQAA,bQEE",
      "bQE,bQO,bQOA,bQWA,,bQWI,bQWAA,bQWEE,bQWE,,,bQHA,bQHU,bQHI,bQHAA,bQHEE,bQHE,bQHO,,bQHWA,",
      "bQHWI,bQHWAA,bQHWEE,bQHWE,,,bBA,bBU,bBI,bBAA,bBEE,bBE,bBO,bBWA,bVA,bVU,bVI,bVAA,bVEE,bVE",
      "bVO,bVWA,bTA,bTU,bTI,bTAA,bTEE,bTE,bTO,bTWA,bCA,bCU,bCI,bCAA,bCEE,bCE,bCO,bCWA,bXA,bXU",
      "bXI,bXAA,bXEE,bXE,bXO,bXOA,bXWA,,bXWI,bXWAA,bXWEE,bXWE,,,bNA,bNU,bNI,bNAA,bNEE,bNE,bNO",
      "bNWA,bNYA,bNYU,bNYI,bNYAA,bNYEE,bNYE,bNYO,bNYWA,bGLOTTAL A,cU,cI,cAA,cEE,cE,cO,cWA,bKA",
      "bKU,bKI,bKAA,bKEE,bKE,bKO,bKOA,bKWA,,bKWI,bKWAA,bKWEE,bKWE,,,bKXA,bKXU,bKXI,bKXAA,bKXEE",
      "bKXE,bKXO,,bKXWA,,bKXWI,bKXWAA,bKXWEE,bKXWE,,,bWA,bWU,bWI,bWAA,bWEE,bWE,bWO,bWOA",
      "bPHARYNGEAL A,cU,cI,cAA,cEE,cE,cO,,bZA,bZU,bZI,bZAA,bZEE,bZE,bZO,bZWA,bZHA,bZHU,bZHI",
      "bZHAA,bZHEE,bZHE,bZHO,bZHWA,bYA,bYU,bYI,bYAA,bYEE,bYE,bYO,bYOA,bDA,bDU,bDI,bDAA,bDEE,bDE",
      "bDO,bDWA,bDDA,bDDU,bDDI,bDDAA,bDDEE,bDDE,bDDO,bDDWA"]⟩,
    ⟨0x1300, ["ETHIOPIC SYLLABLE JA,bJU,bJI,bJAA,bJEE,bJE,bJO,bJWA,bGA,bGU,bGI,bGAA,bGEE,bGE",
      "bGO,bGOA,bGWA,,bGWI,bGWAA,bGWEE,bGWE,,,bGGA,bGGU,bGGI,bGGAA,bGGEE,bGGE,bGGO,bGGWAA,bTHA",
      "bTHU,bTHI,bTHAA,bTHEE,bTHE,bTHO,bTHWA,bCHA,bCHU,bCHI,bCHAA,bCHEE,bCHE,bCHO,bCHWA,bPHA",
      "bPHU,bPHI,bPHAA,bPHEE,bPHE,bPHO,bPHWA,bTSA,bTSU,bTSI,bTSAA,bTSEE,bTSE,bTSO,bTSWA,bTZA",
      "bTZU,bTZI,bTZAA,bTZEE,bTZE,bTZO,bTZOA,bFA,bFU,bFI,bFAA,bFEE,bFE,bFO,bFWA,bPA,bPU,bPI,bPAA",
      "bPEE,bPE,bPO,bPWA,bRYA,bMYA,bFYA,,,aCOMBINING GEMINATION AND VOWEL LENGTH MARK",
      "bVOWEL LENGTH MARK,bGEMINATION MARK,aSECTION MARK,aWORDSPACE,aFULL STOP,aCOMMA,aSEMICOLON",
      "aCOLON,aPREFACE COLON,aQUESTION MARK,aPARAGRAPH SEPARATOR,aDIGIT ONE,bTWO,bTHREE,bFOUR",
      "bFIVE,bSIX,bSEVEN,bEIGHT,bNINE,aNUMBER TEN,bTWENTY,bTHIRTY,bFORTY,bFIFTY,bSIXTY,bSEVENTY",
      "bEIGHTY,bNINETY,bHUNDRED,bTEN THOUSAND,,,,aSYLLABLE SEBATBEIT MWA,bMWI,bMWEE,bMWE",
      "bSEBATBEIT BWA,bBWI,bBWEE,bBWE,bSEBATBEIT FWA,bFWI,bFWEE,bFWE,bSEBATBEIT PWA,bPWI,bPWEE",
      "bPWE,aTONAL MARK YIZET,cDERET,cRIKRIK,cSHORT RIKRIK,cDIFAT,cKENAT,cCHIRET,cHIDET",
      "cDERET-HIDET,cKURT"]⟩,
    ⟨0x13A0, ["CHEROKEE LETTER A,bE,bI,bO,bU,1,bGA,bKA,bGE,bGI,bGO,bGU,1,bHA,bHE,bHI,bHO,bHU",
      "1,bLA,bLE,bLI,bLO,bLU,1,bMA,bME,bMI,bMO,bMU,bNA,bHNA,bNAH,bNE,bNI,bNO,bNU,1,bQUA,bQUE",
      "bQUI,bQUO,bQUU,1,bSA,bS,bSE,bSI,bSO,bSU,1,bDA,bTA,bDE,bTE,bDI,bTI,bDO,bDU,1,bDLA,bTLA",
      "bTLE,bTLI,bTLO,bTLU,1,bTSA,bTSE,bTSI,bTSO,bTSU,1,bWA,bWE,bWI,bWO,bWU,1,bYA,bYE,bYI,bYO",
      "bYU,1,bMV,,,aSMALL LETTER YE,cYI,cYO,cYU,1,cMV"]⟩,
    ⟨0x1400, ["CANADIAN SYLLABICS HYPHEN,bE,bAAI,bI,bII,bO,bOO,bY-CREE OO,bCARRIER EE,cI,bA",
      "bAA,bWE,bWEST-CREE WE,bWI,bWEST-CREE WI,bWII,bWEST-CREE WII,bWO,bWEST-CREE WO,bWOO",
      "bWEST-CREE WOO,bNASKAPI WOO,bWA,bWEST-CREE WA,bWAA,bWEST-CREE WAA,bNASKAPI WAA,bAI",
      "bY-CREE W,bGLOTTAL STOP,bFINAL ACUTE,cGRAVE,cBOTTOM HALF RING,cTOP b,cRIGHT b,cRING",
      "cDOUBLE ACUTE,dSHORT VERTICAL STROKES,cMIDDLE DOT,cSHORT HORIZONTAL STROKE,cPLUS",
      "cDOWN TACK,bEN,bIN,bON,bAN,bPE,bPAAI,bPI,bPII,bPO,bPOO,bY-CREE POO,bCARRIER HEE,cHI,bPA",
      "bPAA,bPWE,bWEST-CREE PWE,bPWI,bWEST-CREE PWI,bPWII,bWEST-CREE PWII,bPWO,bWEST-CREE PWO",
      "bPWOO,bWEST-CREE PWOO,bPWA,bWEST-CREE PWA,bPWAA,bWEST-CREE PWAA,bY-b,bP,bWEST-CREE P",
      "bCARRIER H,bTE,bTAAI,bTI,bTII,bTO,bTOO,bY-CREE TOO,bCARRIER DEE,cDI,bTA,bTAA,bTWE",
      "bWEST-CREE TWE,bTWI,bWEST-CREE TWI,bTWII,bWEST-CREE TWII,bTWO,bWEST-CREE TWO,bTWOO",
      "bWEST-CREE TWOO,bTWA,bWEST-CREE TWA,bTWAA,bWEST-CREE TWAA,bNASKAPI TWAA,bT,bTTE,bTTI,bTTO",
      "bTTA,bKE,bKAAI,bKI,bKII,bKO,bKOO,bY-CREE KOO,bKA,bKAA,bKWE,bWEST-CREE KWE,bKWI",
      "bWEST-CREE KWI,bKWII,bWEST-CREE KWII,bKWO,bWEST-CREE KWO,bKWOO,bWEST-CREE KWOO,bKWA",
      "bWEST-CREE KWA,bKWAA,bWEST-CREE KWAA,bNASKAPI KWAA,bK,bKW,bSOUTH-SLAVEY KEH,dKIH,dKOH",
      "dKAH,bCE,bCAAI,bCI,bCII,bCO,bCOO,bY-CREE COO,bCA,bCAA,bCWE,bWEST-CREE CWE,bCWI",
      "bWEST-CREE CWI,bCWII,bWEST-CREE CWII,bCWO,bWEST-CREE CWO,bCWOO,bWEST-CREE CWOO,bCWA",
      "bWEST-CREE CWA,bCWAA,bWEST-CREE CWAA,bNASKAPI CWAA,bC,bSAYISI TH,bME,bMAAI,bMI,bMII,bMO",
      "bMOO,bY-CREE MOO,bMA,bMAA,bMWE,bWEST-CREE MWE,bMWI,bWEST-CREE MWI,bMWII,bWEST-CREE MWII",
      "bMWO,bWEST-CREE MWO,bMWOO,bWEST-CREE MWOO,bMWA,bWEST-CREE MWA,bMWAA,bWEST-CREE MWAA",
      "bNASKAPI MWAA,bM,bWEST-CREE M,bMH,bATHAPASCAN M,bSAYISI a,bNE,bNAAI,bNI,bNII,bNO,bNOO",
      "bY-CREE NOO,bNA,bNAA,bNWE,bWEST-CREE NWE,bNWA,bWEST-CREE NWA,bNWAA,bWEST-CREE NWAA",
      "bNASKAPI NWAA,bN,bCARRIER NG,bNH,bLE,bLAAI,bLI,bLII,bLO,bLOO,bY-CREE LOO,bLA,bLAA,bLWE",
      "bWEST-CREE LWE,bLWI,bWEST-CREE LWI,bLWII,bWEST-CREE LWII,bLWO,bWEST-CREE LWO,bLWOO",
      "bWEST-CREE LWOO,bLWA,bWEST-CREE LWA,bLWAA,bWEST-CREE LWAA,bL,bWEST-CREE L,bMEDIAL L,bSE",
      "bSAAI,bSI,bSII,bSO,bSOO,bY-CREE SOO,bSA,bSAA,bSWE,bWEST-CREE SWE,bSWI,bWEST-CREE SWI",
      "bSWII,bWEST-CREE SWII,bSWO,bWEST-CREE SWO,bSWOO,bWEST-CREE SWOO"]⟩,
    ⟨0x1500, ["CANADIAN SYLLABICS SWA,bWEST-CREE SWA,bSWAA,bWEST-CREE SWAA,bNASKAPI SWAA,bS",
      "bATHAPASCAN S,bSW,bBLACKFOOT S,bMOOSE-CREE SK,bNASKAPI SKW,cS-W,cSPWA,cSTWA,cSKWA,cSCWA",
      "bSHE,bSHI,bSHII,bSHO,bSHOO,bSHA,bSHAA,bSHWE,bWEST-CREE SHWE,bSHWI,bWEST-CREE SHWI,bSHWII",
      "bWEST-CREE SHWII,bSHWO,bWEST-CREE SHWO,bSHWOO,bWEST-CREE SHWOO,bSHWA,bWEST-CREE SHWA",
      "bSHWAA,bWEST-CREE SHWAA,bSH,bYE,bYAAI,bYI,bYII,bYO,bYOO,bY-CREE YOO,bYA,bYAA,bYWE",
      "bWEST-CREE YWE,bYWI,bWEST-CREE YWI,bYWII,bWEST-CREE YWII,bYWO,bWEST-CREE YWO,bYWOO",
      "bWEST-CREE YWOO,bYWA,bWEST-CREE YWA,bYWAA,bWEST-CREE YWAA,bNASKAPI YWAA,bY,bBIBLE-CREE Y",
      "bWEST-b,bSAYISI YI,bRE,bR-CREE RE,bWEST-aLE,bRAAI,bRI,bRII,bRO,bROO,bWEST-CREE LO,bRA",
      "bRAA,bWEST-CREE LA,bRWAA,bWEST-CREE RWAA,bR,bWEST-CREE R,bMEDIAL R,bFE,bFAAI,bFI,bFII,bFO",
      "bFOO,bFA,bFAA,bFWAA,bWEST-CREE FWAA,bF,bTHE,bN-CREE THE,bTHI,bN-CREE THI,bTHII",
      "bN-CREE THII,bTHO,bTHOO,bTHA,bTHAA,bTHWAA,bWEST-CREE THWAA,bTH,bTTHE,bTTHI,bTTHO,bTTHA",
      "bTTH,bTYE,bTYI,bTYO,bTYA,bNUNAVIK HE,cHI,cHII,cHO,cHOO,cHA,cHAA,cH,bNUNAVUT a,bHK,bQAAI",
      "bQI,bQII,bQO,bQOO,bQA,bQAA,bQ,bTLHE,bTLHI,bTLHO,bTLHA,bWEST-CREE RE,dRI,dRO,dRA,bNGAAI",
      "bNGI,bNGII,bNGO,bNGOO,bNGA,bNGAA,bNG,bNNG,bSAYISI SHE,cSHI,cSHO,cSHA,bWOODS-CREE THE,dTHI",
      "dTHO,dTHA,dTH,bLHI,bLHII,bLHO,bLHOO,bLHA,bLHAA,bLH,bTH-CREE THE,dTHI,dTHII,dTHO,dTHOO",
      "dTHA,dTHAA,dTH,bAIVILIK B,bBLACKFOOT E,cI,cO,cA,cWE,cWI,cWO,cWA,cNE,cNI,cNO,cNA,cKE,cKI",
      "cKO,cKA,bSAYISI HE,cHI,cHO,cHA,bCARRIER GHU,cGHO,cGHE,cGHEE,cGHI,cGHA,cRU,cRO,cRE,cREE",
      "cRI,cRA,cWU,cWO,cWE,cWEE,cWI,cWA,cHWU,cHWO,cHWE,cHWEE,cHWI,cHWA,cTHU,cTHO,cTHE,cTHEE,cTHI",
      "cTHA,cTTU,cTTO,cTTE,cTTEE,cTTI,cTTA,cPU,cPO,cPE,cPEE,cPI,cPA,cP,cGU,cGO,cGE,cGEE,cGI,cGA",
      "cKHU,cKHO,cKHE,cKHEE,cKHI,cKHA,cKKU,cKKO,cKKE,cKKEE,cKKI"]⟩,
    ⟨0x1600, ["CANADIAN SYLLABICS CARRIER KKA,cKK,cNU,cNO,cNE,cNEE,cNI,cNA,cMU,cMO,cME,cMEE",
      "cMI,cMA,cYU,cYO,cYE,cYEE,cYI,cYA,cJU,bSAYISI a,bCARRIER JO,cJE,cJEE,cJI,bSAYISI a",
      "bCARRIER JA,cJJU,cJJO,cJJE,cJJEE,cJJI,cJJA,cLU,cLO,cLE,cLEE,cLI,cLA,cDLU,cDLO,cDLE,cDLEE",
      "cDLI,cDLA,cLHU,cLHO,cLHE,cLHEE,cLHI,cLHA,cTLHU,cTLHO,cTLHE,cTLHEE,cTLHI,cTLHA,cTLU,cTLO",
      "cTLE,cTLEE,cTLI,cTLA,cZU,cZO,cZE,cZEE,cZI,cZA,cZ,cINITIAL Z,cDZU,cDZO,cDZE,cDZEE,cDZI",
      "cDZA,cSU,cSO,cSE,cSEE,cSI,cSA,cSHU,cSHO,cSHE,cSHEE,cSHI,cSHA,cSH,cTSU,cTSO,cTSE,cTSEE",
      "cTSI,cTSA,cCHU,cCHO,cCHE,cCHEE,cCHI,cCHA,cTTSU,cTTSO,cTTSE,cTTSEE,cTTSI,cTTSA,bCHI SIGN",
      "bFULL STOP,bQAI,bNGAI,bNNGI,bNNGII,bNNGO,bNNGOO,bNNGA,bNNGAA,bWOODS-CREE THWEE,dTHWI",
      "dTHWII,dTHWO,dTHWOO,dTHWA,dTHWAA,dFINAL TH,bBLACKFOOT W,OGHAM SPACE MARK,aLETTER BEITH",
      "bLUIS,bFEARN,bSAIL,bNION,bUATH,bDAIR,bTINNE,bCOLL,bCEIRT,bMUIN,bGORT,bNGEADAL,bSTRAIF",
      "bRUIS,bAILM,bONN,bUR,bEADHADH,bIODHADH,bEABHADH,bOR,bUILLEANN,bIFIN,bEAMHANCHOLL,bPEITH",
      "aFEATHER MARK,aREVERSED FEATHER MARK,,,,RUNIC LETTER FEHU FEOH FE F,bV,bURUZ UR U,bYR,bY",
      "bW,bTHURISAZ THURS THORN,bETH,bANSUZ A,bOS O,bAC A,bAESC,bLONG-BRANCH-OSS O,bSHORT-TWIG-b",
      "bO,bOE,bON,bRAIDO RAD REID R,bKAUNA,bCEN,bKAUN K,bG,bENG,bGEBO GYFU G,bGAR,bWUNJO WYNN W",
      "bHAGLAZ H,bHAEGL a,bLONG-BRANCH-HAGALL H,bSHORT-TWIG-b,bNAUDIZ NYD NAUD N,bSHORT-TWIG-b",
      "bDOTTED-N,bISAZ IS ISS I,bE,bJERAN J,bGER,bLONG-BRANCH-AR AE,bSHORT-TWIG-aA,bIWAZ EOH",
      "bPERTHO PEORTH P,bALGIZ EOLHX,bSOWILO S,bSIGEL LONG-BRANCH-SOL S,bSHORT-TWIG-SOL S,bC,bZ",
      "bTIWAZ TIR TYR T,bSHORT-TWIG-b,bD,bBERKANAN BEORC BJARKAN B,bSHORT-TWIG-b,bDOTTED-P",
      "bOPEN-a,bEHWAZ EH E,bMANNAZ MAN M,bLONG-BRANCH-MADR M,bSHORT-TWIG-b,bLAUKAZ LAGU LOGR L",
      "bDOTTED-L,bINGWAZ,bING,bDAGAZ DAEG D,bOTHALAN ETHEL O,bEAR,bIOR,bCWEORTH,bCALC,bCEALC",
      "bSTAN,bLONG-BRANCH-YR,bSHORT-TWIG-a,bICELANDIC-YR,bQ,bX,aSINGLE PUNCTUATION,aMULTIPLE a",
      "aCROSS a,aARLAUG SYMBOL,aTVIMADUR a,aBELGTHOR a,aLETTER K,bSH,bOO,bFRANKS CASKET OS,dIS",
      "dEH,dAC,dAESC"]⟩,
    ⟨0x1700, ["TAGALOG LETTER A,bI,bU,bKA,bGA,bNGA,bTA,bDA,bNA,bPA,bBA,bMA,bYA,bRA,bLA,bWA",
      "bSA,bHA,aVOWEL SIGN I,cU,aSIGN VIRAMA,bPAMUDPOD"]⟩,
    ⟨0x171F, ["TAGALOG LETTER ARCHAIC RA,HANUNOO aA,bI,bU,bKA,bGA,bNGA,bTA,bDA,bNA,bPA,bBA",
      "bMA,bYA,bRA,bLA,bWA,bSA,bHA,aVOWEL SIGN I,cU,aSIGN PAMUDPOD,PHILIPPINE SINGLE PUNCTUATION",
      "aDOUBLE a"]⟩,
    ⟨0x1740, ["BUHID LETTER A,bI,bU,bKA,bGA,bNGA,bTA,bDA,bNA,bPA,bBA,bMA,bYA,bRA,bLA,bWA,bSA",
      "bHA,aVOWEL SIGN I,cU"]⟩,
    ⟨0x1760, ["TAGBANWA LETTER A,bI,bU,bKA,bGA,bNGA,bTA,bDA,bNA,bPA,bBA,bMA,bYA,,bLA,bWA,bSA,",
      "aVOWEL SIGN I,cU"]⟩,
    ⟨0x1780, ["KHMER LETTER KA,bKHA,bKO,bKHO,bNGO,bCA,bCHA,bCO,bCHO,bNYO,bDA,bTTHA,bDO,bTTHO",
      "bNNO,bTA,bTHA,bTO,bTHO,bNO,bBA,bPHA,bPO,bPHO,bMO,bYO,bRO,bLO,bVO,bSHA,bSSO,bSA,bHA,bLA",
      "bQA,aINDEPENDENT VOWEL QAQ,cQAA,cQI,cQII,cQU,cQUK,cQUU,cQUUV,cRY,cRYY,cLY,cLYY,cQE,cQAI",
      "cQOO TYPE ONE,eTWO,cQAU,aVOWEL INHERENT AQ,cAA,bSIGN a,cI,cII,cY,cYY,cU,cUU,cUA,cOE,cYA",
      "cIE,cE,cAE,cAI,cOO,cAU,aSIGN NIKAHIT,bREAHMUK,bYUUKALEAPINTU,bMUUSIKATOAN,bTRIISAP",
      "bBANTOC,bROBAT,bTOANDAKHIAT,bKAKABAT,bAHSDA,bSAMYOK SANNYA,bVIRIAM,bCOENG,bBATHAMASAT",
      "bKHAN,bBARIYOOSAN,bCAMNUC PII KUUH,bLEK TOO,bBEYYAL,bPHNAEK MUAN,bKOOMUUT",
      "aCURRENCY SYMBOL RIEL,aSIGN AVAKRAHASANYA,bATTHACAN,,,aDIGIT ZERO,bONE,bTWO,bTHREE,bFOUR",
      "bFIVE,bSIX,bSEVEN,bEIGHT,bNINE"]⟩,
    ⟨0x17F0, ["KHMER SYMBOL LEK ATTAK SON,dMUOY,dPII,dBEI,dBUON,dPRAM,dPRAM-MUOY,ePII,eBEI",
      "eBUON"]⟩,
    ⟨0x1800, ["MONGOLIAN BIRGA,aELLIPSIS,aCOMMA,aFULL STOP,aCOLON,aFOUR DOTS",
      "aTODO SOFT HYPHEN,aSIBE SYLLABLE BOUNDARY MARKER,aMANCHU COMMA,bFULL STOP,aNIRUGU",
      "aFREE VARIATION SELECTOR ONE,dTWO,dTHREE,aVOWEL SEPARATOR,aFREE VARIATION SELECTOR FOUR",
      "aDIGIT ZERO,bONE,bTWO,bTHREE,bFOUR,bFIVE,bSIX,bSEVEN,bEIGHT,bNINE"]⟩,
    ⟨0x1820, ["MONGOLIAN LETTER A,bE,bI,bO,bU,bOE,bUE,bEE,bNA,bANG,bBA,bPA,bQA,bGA,bMA,bLA",
      "bSA,bSHA,bTA,bDA,bCHA,bJA,bYA,bRA,bWA,bFA,bKA,bKHA,bTSA,bZA,bHAA,bZRA,bLHA,bZHI,bCHI",
      "bTODO LONG VOWEL SIGN,cE,cI,cO,cU,cOE,cUE,cANG,cBA,cPA,cQA,cGA,cMA,cTA,cDA,cCHA,cJA,cTSA",
      "cYA,cWA,cKA,cGAA,cHAA,cJIA,cNIA,cDZA,bSIBE E,cI,cIY,cUE,cU,cANG,cKA,cGA,cHA,cPA,cSHA,cTA",
      "cDA,cJA,cFA,cGAA,cHAA,cTSA,cZA,cRAA,cCHA,cZHA,bMANCHU I,cKA,cRA,cFA,cZHA",
      "bCHA WITH TWO DOTS"]⟩,
    ⟨0x1880, ["MONGOLIAN LETTER ALI GALI ANUSVARA ONE,dVISARGA a,dDAMARU,dUBADAMA",
      "dINVERTED UBADAMA,dBALUDA,dTHREE BALUDA,dA,dI,dKA,dNGA,dCA,dTTA,dTTHA,dDDA,dNNA,dTA,dDA",
      "dPA,dPHA,dSSA,dZHA,dZA,dAH,bTODO ALI GALI TA,eZHA,bMANCHU bGHA,eNGA,eCA,eJHA,eTTA,eDDHA",
      "eTA,eDHA,eSSA,eCYA,eZHA,eZA,bALI GALI HALF U,eYA,bMANCHU ALI GALI BHA,bALI GALI DAGALGA",
      "bMANCHU ALI GALI LHA"]⟩,
    ⟨0x18B0, ["CANADIAN SYLLABICS OY,bAY,bAAY,bWAY,bPOY,bPAY,bPWOY,bTAY,bKAY,bKWAY,bMAY,bNOY",
      "bNAY,bLAY,bSOY,bSAY,bSHOY,bSHAY,bSHWOY,bYOY,bYAY,bRAY,bNWI,bOJIBWAY NWI,bNWII",
      "bOJIBWAY NWII,bNWO,bOJIBWAY NWO,bNWOO,bOJIBWAY NWOO,bRWEE,bRWI,bRWII,bRWO,bRWOO,bRWA",
      "bOJIBWAY P,cT,cK,cC,cM,1,cS,cSH,bEASTERN W,bWESTERN a,bFINAL SMALL RING,cRAISED DOT",
      "bR-CREE RWE,bWEST-aLOO,dLAA,bTHWE,bTHWA,bTTHWE,bTTHOO,bTTHAA,bTLHWE,bTLHOO,bSAYISI SHWE",
      "cSHOO,cHOO,bCARRIER GWU,cDENE GEE,cGAA,cGWA,bSAYISI JUU,bCARRIER JWA,bBEAVER DENE L,dR",
      "bCARRIER DENTAL S"]⟩,
    ⟨0x1900, ["LIMBU VOWEL-CARRIER LETTER,aLETTER KA,bKHA,bGA,bGHA,bNGA,bCA,bCHA,bJA,bJHA",
      "bYAN,bTA,bTHA,bDA,bDHA,bNA,bPA,bPHA,bBA,bBHA,bMA,bYA,bRA,bLA,bWA,bSHA,bSSA,bSA,bHA,bGYAN",
      "bTRA,,aVOWEL SIGN A,cI,cU,cEE,cAI,cOO,cAU,cE,cO,aSUBJOINED LETTER YA,cRA,cWA,,,,",
      "aSMALL aKA,cNGA,cANUSVARA,cTA,cNA,cPA,cMA,cRA,cLA,aSIGN MUKPHRENG,bKEMPHRENG,bSA-I,,,,",
      "bLOO,,,,aEXCLAMATION MARK,aQUESTION a,aDIGIT ZERO,bONE,bTWO,bTHREE,bFOUR,bFIVE,bSIX",
      "bSEVEN,bEIGHT,bNINE,TAI LE LETTER KA,cXA,cNGA,cTSA,cSA,cYA,cTA,cTHA,cLA,cPA,cPHA,cMA,cFA",
      "cVA,cHA,cQA,cKHA,cTSHA,cNA,cA,cI,cEE,cEH,cU,cOO,cO,cUE,cE,cAUE,cAI,,,cTONE-2,4"]⟩,
    ⟨0x1980, ["NEW TAI LUE LETTER HIGH QA,dLOW a,dHIGH KA,eXA,eNGA,dLOW KA,eXA,eNGA,dHIGH TSA",
      "eSA,eYA,dLOW TSA,eSA,eYA,dHIGH TA,eTHA,eNA,dLOW TA,eTHA,eNA,dHIGH PA,ePHA,eMA,dLOW PA",
      "ePHA,eMA,dHIGH FA,eVA,eLA,dLOW FA,eVA,eLA,dHIGH HA,eDA,eBA,dLOW HA,eDA,eBA,dHIGH KVA,eXVA",
      "dLOW KVA,eXVA,dHIGH SUA,dLOW a,,,,,cVOWEL SIGN VOWEL SHORTENER,eAA,eII,eU,eUU,eE,eAE,eO",
      "eOA,eUE,eAY,eAAY,eUY,eOY,eOAY,eUEY,eIY,cLETTER FINAL V,eNG,eN,eM,eK,eD,eB,cTONE MARK-1,1"]⟩,
    ⟨0x19D0, ["NEW TAI LUE DIGIT ZERO,dONE,dTWO,dTHREE,dFOUR,dFIVE,dSIX,dSEVEN,dEIGHT,dNINE",
      "cTHAM DIGIT ONE,,,,cSIGN LAE,dLAEV,KHMER SYMBOL PATHAMASAT,bMUOY KOET,bPII a,bBEI a",
      "bBUON a,bPRAM a,bPRAM-MUOY KOET,cPII a,cBEI a,cBUON a,bDAP KOET,bDAP-MUOY KOET,cPII a",
      "cBEI a,cBUON a,cPRAM a,bTUTEYASAT,bMUOY ROC,bPII a,bBEI a,bBUON a,bPRAM a,bPRAM-MUOY ROC",
      "cPII a,cBEI a,cBUON a,bDAP ROC,bDAP-MUOY ROC,cPII a,cBEI a,cBUON a,cPRAM a"]⟩,
    ⟨0x1A00, ["BUGINESE LETTER KA,bGA,bNGA,bNGKA,bPA,bBA,bMA,bMPA,bTA,bDA,bNA,bNRA,bCA,bJA",
      "bNYA,bNYCA,bYA,bRA,bLA,bVA,bSA,bA,bHA,aVOWEL SIGN I,cU,cE,cO,cAE,,,aPALLAWA",
      "aEND OF SECTION,TAI THAM LETTER HIGH KA,dKHA,dKXA,cLOW KA,dKXA,dKHA,cNGA,cHIGH CA,dCHA",
      "cLOW CA,dSA,dCHA,cNYA,cRATA,cHIGH RATHA,cDA,cLOW RATHA,cRANA,cHIGH TA,dTHA,cLOW TA,dTHA",
      "cNA,cBA,cHIGH PA,dPHA,dFA,cLOW PA,dFA,dPHA,cMA,cLOW YA,cHIGH a,cRA,cRUE,cLA,cLUE,cWA",
      "cHIGH SHA,dSSA,dSA,dHA,cLLA,cA,cLOW HA,cI,cII,cU,cUU,cEE,cOO,cLAE,cGREAT SA",
      "bCONSONANT SIGN MEDIAL RA,eLA,dLA TANG LAI,bSIGN MAI KANG LAI,bCONSONANT SIGN FINAL NGA",
      "dLOW PA,dHIGH RATHA OR LOW PA,dMA,dBA,dSA,,bSIGN SAKOT,bVOWEL SIGN A,dMAI SAT,dAA",
      "dTALL AA,dI,dII,dUE,dUUE,dU,dUU,dO,dOA BELOW,dOY,dE,dAE,dOO,dAI,dTHAM AI,dOA ABOVE",
      "bSIGN MAI KANG,cTONE-1,1,cKHUEN TONE-3,2,cRA HAAM,cMAI SAM,cKHUEN-LUE KARAN,,",
      "bCOMBINING CRYPTOGRAMMIC DOT,bHORA DIGIT ZERO,dONE,dTWO,dTHREE,dFOUR,dFIVE,dSIX,dSEVEN",
      "dEIGHT,dNINE"]⟩,
    ⟨0x1A90, ["TAI THAM THAM DIGIT ZERO,dONE,dTWO,dTHREE,dFOUR,dFIVE,dSIX,dSEVEN,dEIGHT,dNINE"]⟩,
    ⟨0x1AA0, ["TAI THAM SIGN WIANG,cWIANGWAAK,cSAWAN,cKEOW,cHOY,cDOKMAI",
      "cREVERSED ROTATED RANA,cMAI YAMOK,cKAAN,cKAANKUU,cSATKAAN,cSATKAANKUU,cHANG,cCAANG,,",
      "COMBINING DOUBLED CIRCUMFLEX ACCENT,aDIAERESIS-RING,aINFINITY,aDOWNWARDS ARROW",
      "aTRIPLE DOT,aX-X BELOW,aWIGGLY LINE a,aOPEN MARK a,aDOUBLE OPEN MARK BELOW",
      "aLIGHT CENTRALIZATION STROKE a,aSTRONG c,aPARENTHESES ABOVE,aDOUBLE PARENTHESES ABOVE",
      "aPARENTHESES BELOW,bOVERLAY,aLATIN SMALL LETTER W BELOW,dTURNED W BELOW",
      "aLEFT PARENTHESIS ABOVE LEFT,aRIGHT bRIGHT,aLEFT aBELOW LEFT,aRIGHT bRIGHT",
      "aSQUARE BRACKETS ABOVE,aNUMBER SIGN a,aINVERTED DOUBLE ARCH ABOVE,aPLUS SIGN ABOVE",
      "aDOUBLE PLUS SIGN ABOVE,dBELOW,aTRIPLE ACUTE ACCENT,aLATIN SMALL LETTER INSULAR G,eR,eT"]⟩,
    ⟨0x1B00, ["BALINESE SIGN ULU RICEM,cCANDRA,bCECEK,bSURANG,bBISAH,aLETTER AKARA",
      "bAKARA TEDUNG,bIKARA,bIKARA TEDUNG,bUKARA,bUKARA TEDUNG,bRA REPA,cREPA TEDUNG,bLA LENGA",
      "cLENGA TEDUNG,bEKARA,bAIKARA,bOKARA,bOKARA TEDUNG,bKA,bKA MAHAPRANA,bGA,bGA GORA,bNGA,bCA",
      "bCA LACA,bJA,bJA JERA,bNYA,bTA LATIK,cMURDA MAHAPRANA,bDA aALPAPRANA,dMAHAPRANA",
      "bNA RAMBAT,bTA,bTA TAWA,bDA,bDA MADU,bNA,bPA,bPA KAPAL,bBA,bBA KEMBANG,bMA,bYA,bRA,bLA",
      "bWA,bSA SAGA,cSAPA,bSA,bHA,aSIGN REREKAN,aVOWEL SIGN TEDUNG,cULU,cULU SARI,cSUKU",
      "cSUKU ILUT,cRA REPA,dREPA TEDUNG,cLA LENGA,dLENGA TEDUNG,cTALING,cTALING REPA,dTEDUNG",
      "dREPA TEDUNG,cPEPET,cPEPET TEDUNG,aADEG ADEG,aLETTER KAF SASAK,bKHOT a,bTZIR a,bEF a",
      "bVE a,bZAL a,bASYURA a,bARCHAIC JNYA,,,,aDIGIT ZERO,bONE,bTWO,bTHREE,bFOUR,bFIVE,bSIX",
      "bSEVEN,bEIGHT,bNINE,aPANTI,aPAMADA,aWINDU,aCARIK PAMUNGKAH,bSIKI,bPAREREN,aPAMENENG",
      "aMUSICAL SYMBOL DONG,cDENG,cDUNG,cDANG,cDANG SURANG,cDING,cDAENG,cDEUNG,cDAING,cDANG GEDE",
      "cCOMBINING TEGEH,dENDEP,dKEMPUL,dKEMPLI,dJEGOGAN,dKEMPUL WITH JEGOGAN,dKEMPLI b,dBENDE",
      "dGONG,cRIGHT-HAND OPEN DUG,fDAG,eCLOSED TUK,fTAK,cLEFT-aOPEN PANG,fPUNG,eCLOSED PLAK",
      "fPLUK,eOPEN PING,aPANTI LANTANG,aPAMADA a,,SUNDANESE SIGN PANYECEK,bPANGLAYAR,bPANGWISAD",
      "aLETTER A,bI,bU,bAE,bO,bE,bEU,bKA,bQA,bGA,bNGA,bCA,bJA,bZA,bNYA,bTA,bDA,bNA,bPA,bFA,bVA",
      "bBA,bMA,bYA,bRA,bLA,bWA,bSA,bXA,bHA,aCONSONANT SIGN PAMINGKAL,cPANYAKRA,cPANYIKU",
      "aVOWEL aPANGHULU,cPANYUKU,cPANAELAENG,cPANOLONG,cPAMEPET,cPANEULEUNG,aSIGN PAMAAEH",
      "bVIRAMA,aCONSONANT SIGN PASANGAN MA,dWA,aLETTER KHA,bSYA,aDIGIT ZERO,bONE,bTWO,bTHREE",
      "bFOUR,bFIVE,bSIX,bSEVEN,bEIGHT,bNINE,aAVAGRAHA,aLETTER REU,bLEU,bBHA,bFINAL K,cM,BATAK aA",
      "bSIMALUNGUN A,bHA,bSIMALUNGUN HA,bMANDAILING a,bBA,bKARO BA,bPA,bSIMALUNGUN PA,bNA",
      "bMANDAILING NA,bWA,bSIMALUNGUN WA,bPAKPAK a,bGA,bSIMALUNGUN GA,bJA,bDA,bRA,bSIMALUNGUN RA",
      "bMA,bSIMALUNGUN MA,bSOUTHERN TA,bNORTHERN a,bSA,bSIMALUNGUN SA,bMANDAILING a,bYA",
      "bSIMALUNGUN YA,bNGA,bLA,bSIMALUNGUN LA,bNYA,bCA,bNDA,bMBA,bI,bU,aSIGN TOMPI,aVOWEL SIGN E",
      "cPAKPAK E,cEE,cI,cKARO I,cO,cKARO O,cU,cU FOR SIMALUNGUN SA,aCONSONANT aNG,cH,aPANGOLAT",
      "aPANONGONAN"]⟩,
    ⟨0x1BFC, ["BATAK SYMBOL BINDU NA METEK,cPINARBORAS,cJUDUL,cPANGOLAT"]⟩,
    ⟨0x1C00, ["LEPCHA LETTER KA,bKLA,bKHA,bGA,bGLA,bNGA,bCA,bCHA,bJA,bNYA,bTA,bTHA,bDA,bNA",
      "bPA,bPLA,bPHA,bFA,bFLA,bBA,bBLA,bMA,bMLA,bTSA,bTSHA,bDZA,bYA,bRA,bLA,bHA,bHLA,bVA,bSA",
      "bSHA,bWA,bA,aSUBJOINED LETTER YA,cRA,aVOWEL SIGN AA,cI,cO,cOO,cU,cUU,cE,aCONSONANT aK,cM",
      "cL,cN,cP,cR,cT,cNYIN-DO,cKANG,aSIGN RAN,bNUKTA,,,,aPUNCTUATION TA-ROL,bNYET THYOOM TA-ROL",
      "bCER-WA,bTSHOOK CER-WA,bTSHOOK,aDIGIT ZERO,bONE,bTWO,bTHREE,bFOUR,bFIVE,bSIX,bSEVEN",
      "bEIGHT,bNINE,,,,aLETTER TTA,bTTHA,bDDA,OL CHIKI DIGIT ZERO,cONE,cTWO,cTHREE,cFOUR,cFIVE",
      "cSIX,cSEVEN,cEIGHT,cNINE,bLETTER LA,cAT,cAG,cANG,cAL,cLAA,cAAK,cAAJ,cAAM,cAAW,cLI,cIS,cIH",
      "cINY,cIR,cLU,cUC,1,cUNN,cUY,cLE,cEP,cEDD,cEN,cERR,cLO,cOTT,cOB,cOV,cOH,bMU TTUDDAG",
      "bGAAHLAA TTUDDAAG,bMU-GAAHLAA TTUDDAAG,bRELAA,bPHAARKAA,bAHAD,bPUNCTUATION MUCAAD",
      "cDOUBLE MUCAAD,CYRILLIC SMALL LETTER ROUNDED VE,cLONG-LEGGED DE,cNARROW O,cWIDE ES",
      "cTALL TE,cTHREE-LEGGED TE,cTALL HARD SIGN,dYAT,cUNBLENDED UK"]⟩,
    ⟨0x1C90, ["GEORGIAN MTAVRULI CAPITAL LETTER AN,dBAN,dGAN,dDON,dEN,dVIN,dZEN,dTAN,dIN,dKAN",
      "dLAS,dMAN,dNAR,dON,dPAR,dZHAR,dRAE,dSAN,dTAR,dUN,dPHAR,dKHAR,dGHAN,dQAR,dSHIN,dCHIN,dCAN",
      "dJIL,dCIL,dCHAR,dXAN,dJHAN,dHAE,dHE,dHIE,dWE,dHAR,dHOE,dFI,dYN,dELIFI,dTURNED GAN,dAIN,,",
      "dAEN,dHARD SIGN,dLABIAL a,SUNDANESE PUNCTUATION BINDU SURYA,cPANGLONG,cPURNAMA,cCAKRA",
      "cLEU SATANGA,cKA a,cDA a,cBA a"]⟩,
    ⟨0x1CD0, ["VEDIC TONE KARSHANA,bSHARA,bPRENKHA,aSIGN NIHSHVASA",
      "bYAJURVEDIC MIDLINE SVARITA,aTONE aAGGRAVATED INDEPENDENT SVARITA,cINDEPENDENT SVARITA",
      "cKATHAKA INDEPENDENT SVARITA,bCANDRA BELOW",
      "bYAJURVEDIC KATHAKA INDEPENDENT SVARITA SCHROEDER,bDOUBLE SVARITA,bTRIPLE a",
      "bKATHAKA ANUDATTA,bDOT BELOW,bTWO DOTS BELOW,bTHREE b",
      "bRIGVEDIC KASHMIRI INDEPENDENT SVARITA,bATHARVAVEDIC INDEPENDENT SVARITA",
      "aSIGN VISARGA SVARITA,cUDATTA,bREVERSED VISARGA UDATTA,bVISARGA ANUDATTA",
      "bREVERSED VISARGA ANUDATTA,bVISARGA UDATTA WITH TAIL,cANUDATTA b,bANUSVARA ANTARGOMUKHA",
      "cBAHIRGOMUKHA,cVAMAGOMUKHA,cVAMAGOMUKHA WITH TAIL,bTIRYAK,bHEXIFORM LONG ANUSVARA",
      "bLONG ANUSVARA,bRTHANG LONG ANUSVARA,bANUSVARA UBHAYATO MUKHA,bARDHAVISARGA",
      "bROTATED ARDHAVISARGA,aTONE CANDRA ABOVE,aSIGN JIHVAMULIYA,bUPADHMANIYA,bATIKRAMA",
      "aTONE RING ABOVE,bDOUBLE RING ABOVE,aSIGN aANUSVARA ANTARGOMUKHA"]⟩,
    ⟨0x1D00, ["LATIN LETTER SMALL CAPITAL A,dAE,aSMALL LETTER TURNED a",
      "aLETTER SMALL CAPITAL BARRED B,dC,1,dETH,dE,aSMALL LETTER TURNED OPEN E,dI",
      "aLETTER SMALL CAPITAL J,1,dL WITH STROKE,dM,dREVERSED N,dO,dOPEN O",
      "aSMALL LETTER SIDEWAYS O,dOPEN O,dO WITH STROKE,cTURNED OE,aLETTER SMALL CAPITAL OU",
      "aSMALL LETTER TOP HALF O,cBOTTOM b,aLETTER SMALL CAPITAL P,dREVERSED R,dTURNED a,dT,1",
      "aSMALL LETTER SIDEWAYS a,dDIAERESIZED U,dTURNED M,aLETTER SMALL CAPITAL V,1,dZ,dEZH",
      "bVOICED LARYNGEAL SPIRANT,bAIN,GREEK aSMALL CAPITAL GAMMA,dLAMDA,dPI,dRHO,dPSI",
      "CYRILLIC cEL,MODIFIER aCAPITAL A,cAE,cB,cBARRED B,cD,1,cREVERSED E,cG,7,cREVERSED N,cO",
      "cOU,cP,cR,cT,1,cW,bSMALL A,cTURNED A,cALPHA,cTURNED AE,cB,cD,1,cSCHWA,cOPEN E",
      "cTURNED OPEN E,cG,cTURNED I,cK,cM,cENG,cO,cOPEN O,cTOP HALF O,cBOTTOM b,cP,cT,1",
      "cSIDEWAYS U,cTURNED M,cV,cAIN,cBETA,cGREEK GAMMA,cDELTA,cGREEK PHI,cCHI",
      "LATIN SUBSCRIPT aLETTER I,dR,dU,1,GREEK cBETA,dGAMMA,dRHO,dPHI,dCHI,LATIN SMALL LETTER UE",
      "cB WITH MIDDLE TILDE,cD c,cF c,cM c,cN c,cP c,cR c,eFISHHOOK AND MIDDLE TILDE",
      "cS aMIDDLE TILDE,cT c,cZ c,cTURNED G,MODIFIER LETTER CYRILLIC EN",
      "LATIN SMALL LETTER INSULAR G,cTH WITH STRIKETHROUGH,bCAPITAL LETTER I WITH STROKE",
      "bLETTER IOTA WITH STROKE,cP b,bCAPITAL LETTER U WITH STROKE,bLETTER UPSILON WITH STROKE",
      "cB aPALATAL HOOK,cD c,cF c,cG c,cK c,cL c,cM c,cN c,cP c,cR c,cS c,cESH c,cV c,cX c,cZ c",
      "cA aRETROFLEX a,cALPHA c,cD aHOOK AND TAIL,cE aRETROFLEX HOOK,cOPEN E WITH RETROFLEX HOOK",
      "cREVERSED OPEN E WITH RETROFLEX HOOK,cSCHWA WITH RETROFLEX HOOK,cI c",
      "cOPEN O WITH RETROFLEX HOOK,cESH WITH RETROFLEX HOOK,cU c,cEZH c",
      "MODIFIER LETTER SMALL TURNED ALPHA,cC,cC WITH CURL,cETH,cREVERSED OPEN E,cF",
      "cDOTLESS J WITH STROKE,cSCRIPT G,cTURNED H,cI WITH STROKE,cIOTA,cCAPITAL I,dI WITH STROKE",
      "cJ WITH CROSSED-TAIL,cL aRETROFLEX HOOK,ePALATAL a,cCAPITAL L,cM WITH HOOK",
      "cTURNED M WITH LONG LEG,cN WITH LEFT HOOK,eRETROFLEX a,cCAPITAL N,cBARRED O,cPHI",
      "cS WITH HOOK,cESH,cT WITH PALATAL HOOK,cU BAR,cUPSILON,cCAPITAL U,cV WITH HOOK,cTURNED V",
      "cZ,cZ WITH RETROFLEX HOOK,eCURL,cEZH,cTHETA,COMBINING DOTTED GRAVE ACCENT,bACUTE a",
      "aSNAKE BELOW,aSUSPENSION MARK,aMACRON-ACUTE,aGRAVE-MACRON,aMACRON-GRAVE,aACUTE-MACRON",
      "aGRAVE-ACUTE-GRAVE,aACUTE-GRAVE-ACUTE,aLATIN SMALL LETTER R BELOW,aBREVE-MACRON",
      "aMACRON-BREVE,aDOUBLE CIRCUMFLEX ABOVE,aOGONEK ABOVE,aZIGZAG BELOW,aIS a,aUR ABOVE,aUS a",
      "aLATIN SMALL LETTER FLATTENED OPEN A ABOVE,dAE,dAO,dAV,dC CEDILLA,dINSULAR D,dETH,dG",
      "bLETTER SMALL CAPITAL G,bSMALL LETTER K,1,bLETTER SMALL CAPITAL L,1,bSMALL LETTER N",
      "bLETTER SMALL CAPITAL N,eR,bSMALL LETTER R ROTUNDA,dS,dLONG S,dZ,dALPHA,dB,dBETA,dSCHWA",
      "dF,dL WITH DOUBLE MIDDLE TILDE,dO aLIGHT CENTRALIZATION STROKE,dP,dESH",
      "dU WITH LIGHT CENTRALIZATION STROKE,dW,dA WITH DIAERESIS,dO b,dU b,aUP TACK ABOVE",
      "aKAVYKA ABOVE RIGHT,cLEFT,aDOT b,aWIDE INVERTED BRIDGE BELOW,aDOT BELOW LEFT",
      "aDELETION MARK,aDOUBLE INVERTED BREVE BELOW,aALMOST EQUAL TO a,aLEFT ARROWHEAD ABOVE",
      "aRIGHT aAND DOWN ARROWHEAD BELOW"]⟩,
    ⟨0x1E00, ["LATIN CAPITAL LETTER A WITH RING BELOW,aSMALL e,aCAPITAL aB aDOT ABOVE",
      "aSMALL e,aCAPITAL dBELOW,aSMALL e,aCAPITAL cLINE a,aSMALL e",
      "aCAPITAL aC aCEDILLA AND ACUTE,aSMALL f,aCAPITAL aD aDOT ABOVE,aSMALL e,aCAPITAL dBELOW",
      "aSMALL e,aCAPITAL cLINE a,aSMALL e,aCAPITAL cCEDILLA,aSMALL d,aCAPITAL cCIRCUMFLEX BELOW",
      "aSMALL e,aCAPITAL aE aMACRON AND GRAVE,aSMALL f,aCAPITAL eACUTE,aSMALL f",
      "aCAPITAL cCIRCUMFLEX BELOW,aSMALL e,aCAPITAL cTILDE a,aSMALL e",
      "aCAPITAL cCEDILLA AND BREVE,aSMALL f,aCAPITAL aF aDOT ABOVE,aSMALL e,aCAPITAL aG aMACRON",
      "aSMALL d,aCAPITAL aH aDOT ABOVE,aSMALL e,aCAPITAL dBELOW,aSMALL e,aCAPITAL cDIAERESIS",
      "aSMALL d,aCAPITAL cCEDILLA,aSMALL d,aCAPITAL cBREVE BELOW,aSMALL e,aCAPITAL aI aTILDE a",
      "aSMALL e,aCAPITAL cDIAERESIS AND ACUTE,aSMALL f,aCAPITAL aK aACUTE,aSMALL d",
      "aCAPITAL cDOT BELOW,aSMALL e,aCAPITAL cLINE a,aSMALL e,aCAPITAL aL aDOT a,aSMALL e",
      "aCAPITAL dBELOW AND MACRON,aSMALL g,aCAPITAL cLINE BELOW,aSMALL e,aCAPITAL cCIRCUMFLEX a",
      "aSMALL e,aCAPITAL aM aACUTE,aSMALL d,aCAPITAL cDOT ABOVE,aSMALL e,aCAPITAL dBELOW",
      "aSMALL e,aCAPITAL aN bABOVE,aSMALL e,aCAPITAL dBELOW,aSMALL e,aCAPITAL cLINE a,aSMALL e",
      "aCAPITAL cCIRCUMFLEX a,aSMALL e,aCAPITAL aO aTILDE AND ACUTE,aSMALL f,aCAPITAL eDIAERESIS",
      "aSMALL f,aCAPITAL cMACRON aGRAVE,aSMALL f,aCAPITAL eACUTE,aSMALL f,aCAPITAL aP aACUTE",
      "aSMALL d,aCAPITAL cDOT ABOVE,aSMALL e,aCAPITAL aR c,aSMALL e,aCAPITAL dBELOW,aSMALL e",
      "aCAPITAL dBELOW AND MACRON,aSMALL g,aCAPITAL cLINE BELOW,aSMALL e,aCAPITAL aS aDOT ABOVE",
      "aSMALL e,aCAPITAL dBELOW,aSMALL e,aCAPITAL cACUTE AND DOT ABOVE,aSMALL g",
      "aCAPITAL cCARON c,aSMALL g,aCAPITAL cDOT BELOW AND DOT ABOVE,aSMALL h,aCAPITAL aT bABOVE",
      "aSMALL e,aCAPITAL dBELOW,aSMALL e,aCAPITAL cLINE a,aSMALL e,aCAPITAL cCIRCUMFLEX a",
      "aSMALL e,aCAPITAL aU aDIAERESIS a,aSMALL e,aCAPITAL cTILDE a,aSMALL e",
      "aCAPITAL cCIRCUMFLEX a,aSMALL e,aCAPITAL cTILDE AND ACUTE,aSMALL f",
      "aCAPITAL cMACRON aDIAERESIS,aSMALL f,aCAPITAL aV aTILDE,aSMALL d,aCAPITAL cDOT BELOW",
      "aSMALL e,aCAPITAL aW aGRAVE,aSMALL d,aCAPITAL cACUTE,aSMALL d,aCAPITAL cDIAERESIS",
      "aSMALL d,aCAPITAL cDOT ABOVE,aSMALL e,aCAPITAL dBELOW,aSMALL e,aCAPITAL aX bABOVE",
      "aSMALL e,aCAPITAL cDIAERESIS,aSMALL d,aCAPITAL aY aDOT ABOVE,aSMALL e",
      "aCAPITAL aZ aCIRCUMFLEX,aSMALL d,aCAPITAL cDOT BELOW,aSMALL e,aCAPITAL cLINE a,aSMALL e",
      "cH c,cT aDIAERESIS,cW aRING ABOVE,cY c,cA aRIGHT HALF RING,cLONG S WITH DOT ABOVE",
      "fDIAGONAL STROKE,fHIGH a,aCAPITAL aSHARP S,aSMALL aDELTA,aCAPITAL aA WITH DOT BELOW",
      "aSMALL e,aCAPITAL cHOOK ABOVE,aSMALL e,aCAPITAL cCIRCUMFLEX AND ACUTE,aSMALL f",
      "aCAPITAL eGRAVE,aSMALL f,aCAPITAL eHOOK ABOVE,aSMALL g,aCAPITAL eTILDE,aSMALL f",
      "aCAPITAL eDOT BELOW,aSMALL g,aCAPITAL cBREVE aACUTE,aSMALL f,aCAPITAL eGRAVE,aSMALL f",
      "aCAPITAL eHOOK ABOVE,aSMALL g,aCAPITAL eTILDE,aSMALL f,aCAPITAL eDOT BELOW,aSMALL g",
      "aCAPITAL aE aDOT BELOW,aSMALL e,aCAPITAL cHOOK ABOVE,aSMALL e,aCAPITAL cTILDE,aSMALL d",
      "aCAPITAL cCIRCUMFLEX AND ACUTE,aSMALL f,aCAPITAL eGRAVE,aSMALL f,aCAPITAL eHOOK ABOVE",
      "aSMALL g,aCAPITAL eTILDE,aSMALL f,aCAPITAL eDOT BELOW,aSMALL g,aCAPITAL aI aHOOK ABOVE",
      "aSMALL e,aCAPITAL cDOT BELOW,aSMALL e,aCAPITAL aO c,aSMALL e,aCAPITAL cHOOK ABOVE",
      "aSMALL e,aCAPITAL cCIRCUMFLEX AND ACUTE,aSMALL f,aCAPITAL eGRAVE,aSMALL f",
      "aCAPITAL eHOOK ABOVE,aSMALL g,aCAPITAL eTILDE,aSMALL f,aCAPITAL eDOT BELOW,aSMALL g",
      "aCAPITAL cHORN aACUTE,aSMALL f,aCAPITAL eGRAVE,aSMALL f,aCAPITAL eHOOK ABOVE,aSMALL g",
      "aCAPITAL eTILDE,aSMALL f,aCAPITAL eDOT BELOW,aSMALL g,aCAPITAL aU aDOT BELOW,aSMALL e",
      "aCAPITAL cHOOK ABOVE,aSMALL e,aCAPITAL cHORN AND ACUTE,aSMALL f,aCAPITAL eGRAVE,aSMALL f",
      "aCAPITAL eHOOK ABOVE,aSMALL g,aCAPITAL eTILDE,aSMALL f,aCAPITAL eDOT BELOW,aSMALL g",
      "aCAPITAL aY aGRAVE,aSMALL d,aCAPITAL cDOT BELOW,aSMALL e,aCAPITAL cHOOK ABOVE,aSMALL e",
      "aCAPITAL cTILDE,aSMALL d,aCAPITAL aMIDDLE-WELSH LL,aSMALL d,aCAPITAL cV,aSMALL d",
      "aCAPITAL aY WITH LOOP,aSMALL d"]⟩,
    ⟨0x1F00, ["GREEK SMALL LETTER ALPHA WITH PSILI,eDASIA,ePSILI AND VARIA,eDASIA b",
      "ePSILI aOXIA,eDASIA b,ePSILI aPERISPOMENI,eDASIA b,aCAPITAL cPSILI,eDASIA",
      "ePSILI AND VARIA,eDASIA b,ePSILI aOXIA,eDASIA b,ePSILI aPERISPOMENI,eDASIA b",
      "aSMALL aEPSILON aPSILI,eDASIA,ePSILI AND VARIA,eDASIA b,ePSILI aOXIA,eDASIA b,,",
      "aCAPITAL cPSILI,eDASIA,ePSILI AND VARIA,eDASIA b,ePSILI aOXIA,eDASIA b,,",
      "aSMALL aETA aPSILI,eDASIA,ePSILI AND VARIA,eDASIA b,ePSILI aOXIA,eDASIA b",
      "ePSILI aPERISPOMENI,eDASIA b,aCAPITAL cPSILI,eDASIA,ePSILI AND VARIA,eDASIA b",
      "ePSILI aOXIA,eDASIA b,ePSILI aPERISPOMENI,eDASIA b,aSMALL aIOTA aPSILI,eDASIA",
      "ePSILI AND VARIA,eDASIA b,ePSILI aOXIA,eDASIA b,ePSILI aPERISPOMENI,eDASIA b",
      "aCAPITAL cPSILI,eDASIA,ePSILI AND VARIA,eDASIA b,ePSILI aOXIA,eDASIA b",
      "ePSILI aPERISPOMENI,eDASIA b,aSMALL aOMICRON aPSILI,eDASIA,ePSILI AND VARIA,eDASIA b",
      "ePSILI aOXIA,eDASIA b,,,aCAPITAL cPSILI,eDASIA,ePSILI AND VARIA,eDASIA b,ePSILI aOXIA",
      "eDASIA b,,,aSMALL aUPSILON aPSILI,eDASIA,ePSILI AND VARIA,eDASIA b,ePSILI aOXIA,eDASIA b",
      "ePSILI aPERISPOMENI,eDASIA b,,aCAPITAL cDASIA,,eDASIA AND VARIA,,gOXIA,,gPERISPOMENI",
      "aSMALL aOMEGA aPSILI,eDASIA,ePSILI AND VARIA,eDASIA b,ePSILI aOXIA,eDASIA b",
      "ePSILI aPERISPOMENI,eDASIA b,aCAPITAL cPSILI,eDASIA,ePSILI AND VARIA,eDASIA b",
      "ePSILI aOXIA,eDASIA b,ePSILI aPERISPOMENI,eDASIA b,aSMALL aALPHA aVARIA,eOXIA",
      "cEPSILON aVARIA,eOXIA,cETA aVARIA,eOXIA,cIOTA aVARIA,eOXIA,cOMICRON aVARIA,eOXIA",
      "cUPSILON aVARIA,eOXIA,cOMEGA aVARIA,eOXIA,,,cALPHA aPSILI AND YPOGEGRAMMENI,eDASIA b",
      "ePSILI aVARIA AND YPOGEGRAMMENI,eDASIA d,ePSILI aOXIA b,eDASIA d,ePSILI aPERISPOMENI b",
      "eDASIA d,aCAPITAL cPSILI aPROSGEGRAMMENI,eDASIA b,ePSILI aVARIA AND PROSGEGRAMMENI",
      "eDASIA d,ePSILI aOXIA b,eDASIA d,ePSILI aPERISPOMENI b,eDASIA d",
      "aSMALL aETA aPSILI aYPOGEGRAMMENI,eDASIA b,ePSILI aVARIA AND YPOGEGRAMMENI,eDASIA d",
      "ePSILI aOXIA b,eDASIA d,ePSILI aPERISPOMENI b,eDASIA d,aCAPITAL cPSILI aPROSGEGRAMMENI",
      "eDASIA b,ePSILI aVARIA AND PROSGEGRAMMENI,eDASIA d,ePSILI aOXIA b,eDASIA d",
      "ePSILI aPERISPOMENI b,eDASIA d,aSMALL aOMEGA aPSILI aYPOGEGRAMMENI,eDASIA b",
      "ePSILI aVARIA AND YPOGEGRAMMENI,eDASIA d,ePSILI aOXIA b,eDASIA d,ePSILI aPERISPOMENI b",
      "eDASIA d,aCAPITAL cPSILI aPROSGEGRAMMENI,eDASIA b,ePSILI aVARIA AND PROSGEGRAMMENI",
      "eDASIA d,ePSILI aOXIA b,eDASIA d,ePSILI aPERISPOMENI b,eDASIA d,aSMALL aALPHA aVRACHY",
      "eMACRON,eVARIA AND YPOGEGRAMMENI,eYPOGEGRAMMENI,eOXIA AND YPOGEGRAMMENI,,ePERISPOMENI",
      "ePERISPOMENI AND YPOGEGRAMMENI,aCAPITAL cVRACHY,eMACRON,eVARIA,eOXIA,ePROSGEGRAMMENI",
      "aKORONIS,aPROSGEGRAMMENI,aPSILI,aPERISPOMENI,aDIALYTIKA AND PERISPOMENI",
      "aSMALL LETTER ETA WITH VARIA AND YPOGEGRAMMENI,eYPOGEGRAMMENI,eOXIA AND YPOGEGRAMMENI,",
      "ePERISPOMENI,ePERISPOMENI AND YPOGEGRAMMENI,aCAPITAL aEPSILON aVARIA,eOXIA,cETA aVARIA",
      "eOXIA,ePROSGEGRAMMENI,aPSILI AND VARIA,cOXIA,cPERISPOMENI,aSMALL LETTER IOTA WITH VRACHY",
      "eMACRON,eDIALYTIKA AND VARIA,gOXIA,,,ePERISPOMENI,eDIALYTIKA AND PERISPOMENI",
      "aCAPITAL cVRACHY,eMACRON,eVARIA,eOXIA,,aDASIA AND VARIA,cOXIA,cPERISPOMENI",
      "aSMALL LETTER UPSILON WITH VRACHY,eMACRON,eDIALYTIKA AND VARIA,gOXIA,cRHO aPSILI,eDASIA",
      "cUPSILON aPERISPOMENI,eDIALYTIKA AND PERISPOMENI,aCAPITAL cVRACHY,eMACRON,eVARIA,eOXIA",
      "cRHO aDASIA,aDIALYTIKA AND VARIA,cOXIA,aVARIA,,",
      "aSMALL LETTER OMEGA WITH VARIA AND YPOGEGRAMMENI,eYPOGEGRAMMENI,eOXIA AND YPOGEGRAMMENI,",
      "ePERISPOMENI,ePERISPOMENI AND YPOGEGRAMMENI,aCAPITAL aOMICRON aVARIA,eOXIA,cOMEGA aVARIA",
      "eOXIA,ePROSGEGRAMMENI,aOXIA,aDASIA"]⟩]

end CharacterName

end DartComments
