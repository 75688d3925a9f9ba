import DartComments.Text.Name.Row

/-!
# Names of pictures

The names of notes, of letters in formulas, and of pictures, from `1CF00` on.
-/

namespace DartComments

namespace CharacterName

set_option maxRecDepth 4000 in
/-- The names from `1CF00` on. -/
def pictures : List Row :=
  [⟨0x1CF00, ["ZNAMENNY COMBINING MARK GORAZDO NIZKO S KRYZHEM ON LEFT",
      "cNIZKO S KRYZHEM ON LEFT,cTSATA ON LEFT,cGORAZDO NIZKO ON LEFT,cNIZKO ON LEFT,cSREDNE b",
      "cMALO POVYSHE ON LEFT,cPOVYSHE ON LEFT,cVYSOKO b,cMALO POVYSHE S KHOKHLOM ON LEFT",
      "cPOVYSHE S KHOKHLOM ON LEFT,cVYSOKO d,cGORAZDO NIZKO S KRYZHEM ON RIGHT",
      "cNIZKO S KRYZHEM ON RIGHT,cTSATA ON RIGHT,cGORAZDO NIZKO ON RIGHT,cNIZKO ON RIGHT",
      "cSREDNE b,cMALO POVYSHE ON RIGHT,cPOVYSHE ON RIGHT,cVYSOKO b",
      "cMALO POVYSHE S KHOKHLOM ON RIGHT,cPOVYSHE S KHOKHLOM ON RIGHT,cVYSOKO d,cTSATA aKRYZHEM",
      "cMALO POVYSHE S KRYZHEM,cSTRANNO MALO POVYSHE,cPOVYSHE S KRYZHEM,dSTRANNO",
      "cVYSOKO S KRYZHEM,cMALO POVYSHE STRANNO,cGORAZDO VYSOKO,cZELO,cON,cRAVNO,cTIKHAYA",
      "cBORZAYA,cUDARKA,cPODVERTKA,cLOMKA,cKUPNAYA,cKACHKA,cZEVOK,cSKOBA,cRAZSEKA,cKRYZH ON LEFT",
      ",,bTONAL RANGE MARK MRACHNO,eSVETLO,eTRESVETLO,bMARK ZADERZHKA,cDEMESTVENNY ZADERZHKA",
      "cOTSECHKA,cPODCHASHIE,cPODCHASHIE WITH VERTICAL STROKE,cCHASHKA,cCHASHKA POLNAYA",
      "cOBLACHKO,cSOROCHYA NOZHKA,cTOCHKA,cDVOETOCHIE,bATTACHING VERTICAL OMET,bMARK CURVED a",
      "cKRYZH,bLOWER TONAL RANGE INDICATOR,aPRIZNAK MODIFIER LEVEL-2,1,cDIRECTION FLIP,cKRYZH",
      "cROG"]⟩,
    ⟨0x1CF50, ["ZNAMENNY NEUME KRYUK,bKRYUK TIKHY,bPARAKLIT,bDVA V CHELNU,bKLYUCH,bZANOZHEK",
      "bSTOPITSA,bSTOPITSA S OCHKOM,bPEREVODKA,bPEREVODKA NEPOSTOYANNAYA",
      "bSTOPITSA WITH SOROCHYA NOZHKA,bCHELYUSTKA,bPALKA,bZAPYATAYA,bGOLUBCHIK BORZY,cTIKHY",
      "cMRACHNY,cSVETLY,cTRESVETLY,bVRAKHIYA PROSTAYA,cMRACHNAYA,cSVETLAYA,cTRESVETLAYA",
      "cKLYUCHEVAYA PROSTAYA,dMRACHNAYA,dSVETLAYA,dTRESVETLAYA,bDOUBLE ZAPYATAYA",
      "bREVERSED CHELYUSTKA,bDERBITSA,bKHAMILO,bCHASHKA,bPODCHASHIE,bSKAMEYTSA MRACHNAYA",
      "cSVETLAYA,cTRESVETLAYA,cTIKHAYA,bDEMESTVENNY KLYUCH,bSKAMEYTSA KLYUCHEVAYA SVETLAYA",
      "cKLYUCHENEPOSTOYANNAYA,cKLYUCHEVAYA TIKHAYA,cDVOECHELNAYA PROSTAYA,dSVETLAYA",
      "dNEPOSTOYANNAYA,dKLYUCHEVAYA,bSLOZHITIE,bSLOZHITIE S ZAPYATOY,cZAKRYTOE,cS KRYZHEM,bKRYZH",
      "bROG,bFITA,bKOBYLA,bZMEYTSA,bSTATYA,bSTATYA S ZAPYATOY,dKRYZHEM,dZAPYATOY I KRYZHEM",
      "dKRYZHEM aZAPYATOY,cZAKRYTAYA,cZAKRYTAYA S ZAPYATOY,cS ROGOM,dDVUMYA ZAPYATYMI",
      "dZAPYATOY I PODCHASHIEM,bPOLKULIZMY,bSTATYA NEPOSTOYANNAYA,bSTRELA PROSTAYA",
      "cMRACHNOTIKHAYA,cKRYZHEVAYA,cPOLUPOVODNAYA,cPOVODNAYA,cNEPOSTOYANNAYA,cKLYUCHEPOVODNAYA",
      "cKLYUCHENEPOSTOYANNAYA,cTIKHAYA PUTNAYA,cDVOECHELNAYA,cDVOECHELNOKRYZHEVAYA",
      "cDVOECHELNOPOVODNAYA,cDVOECHELNAYA KLYUCHEVAYA,cDVOECHELNOPOVODNAYA a",
      "cGROMNAYA WITH SINGLE ZAPYATAYA,cGROMOPOVODNAYA c,cGROMNAYA,cGROMOPOVODNAYA",
      "cGROMOPOVODNAYA WITH DOUBLE ZAPYATAYA,cGROMOKRYZHEVAYA,cGROMOKRYZHEVAYA POVODNAYA,bMECHIK",
      "bMECHIK POVODNY,cKLYUCHEVOY,cKLYUCHEPOVODNY,cKLYUCHENEPOSTOYANNY,bSTRELA TRYASOGLASNAYA",
      "cTRYASOPOVODNAYA,cTRYASOSTRELNAYA,bOSOKA,bOSOKA SVETLAYA,cTRESVETLAYA",
      "cKRYUKOVAYA SVETLAYA,cKLYUCHEVAYA a,dNEPOSTOYANNAYA,bSTRELA KRYUKOVAYA",
      "cKRYUKOVAYA POVODNAYA,dGROMNAYA WITH SINGLE ZAPYATAYA,dGROMOPOVODNAYA c,dGROMNAYA",
      "dGROMOPOVODNAYA,dGROMOPOVODNAYA WITH DOUBLE ZAPYATAYA,dGROMOKRYZHEVAYA",
      "dGROMOKRYZHEVAYA POVODNAYA,dTRYASKA,bKUFISMA,bOBLAKO,bDUDA,bNEMKA,bPAUK"]⟩,
    ⟨0x1D000, ["BYZANTINE MUSICAL SYMBOL PSILI,cDASEIA,cPERISPOMENI,cOXEIA EKFONITIKON,dDIPLI",
      "cVAREIA EKFONITIKON,dDIPLI,cKATHISTI,cSYRMATIKI,cPARAKLITIKI,cYPOKRISIS,cYPOKRISIS DIPLI",
      "cKREMASTI,cAPESO EKFONITIKON,cEXO a,cTELEIA,cKENTIMATA,cAPOSTROFOS,cAPOSTROFOS DIPLI",
      "cSYNEVMA,cTHITA,cOLIGON ARCHAION,cGORGON a,cPSILON,cCHAMILON,cVATHY,cISON ARCHAION",
      "cKENTIMA a,cKENTIMATA a,cSAXIMATA,cPARICHON,cSTAVROS APODEXIA,cOXEIAI ARCHAION,cVAREIAI a",
      "cAPODERMA a,cAPOTHEMA,cKLASMA,cREVMA,cPIASMA ARCHAION,cTINAGMA,cANATRICHISMA,cSEISMA",
      "cSYNAGMA ARCHAION,dMETA STAVROU,cOYRANISMA ARCHAION,cTHEMA,cLEMOI,cDYO,cTRIA,cTESSERA",
      "cKRATIMATA,cAPESO EXO NEO,cFTHORA ARCHAION,cIMIFTHORA,cTROMIKON ARCHAION,cKATAVA TROMIKON",
      "cPELASTON,cPSIFISTON,cKONTEVMA,cCHOREVMA ARCHAION,cRAPISMA,cPARAKALESMA ARCHAION",
      "cPARAKLITIKI a,cICHADIN,cNANA,cPETASMA,cKONTEVMA ALLO,cTROMIKON a,cSTRAGGISMATA",
      "cGRONTHISMATA,cISON NEO,cOLIGON a,cOXEIA a,cPETASTI,cKOUFISMA,cPETASTOKOUFISMA",
      "cKRATIMOKOUFISMA,cPELASTON NEO,cKENTIMATA NEO ANO,cKENTIMA b,cYPSILI,cAPOSTROFOS NEO",
      "cAPOSTROFOI SYNDESMOS NEO,cYPORROI,cKRATIMOYPORROON,cELAFRON,cCHAMILI,cMIKRON ISON",
      "cVAREIA NEO,cPIASMA a,cPSIFISTON a,cOMALON,cANTIKENOMA,cLYGISMA,cPARAKLITIKI NEO",
      "cPARAKALESMA a,cETERON PARAKALESMA,cKYLISMA,cANTIKENOKYLISMA,cTROMIKON NEO,cEKSTREPTON",
      "cSYNAGMA NEO,cSYRMA,cCHOREVMA NEO,cEPEGERMA,cSEISMA NEO,cXIRON KLASMA,cTROMIKOPSIFISTON",
      "cPSIFISTOLYGISMA,cTROMIKOLYGISMA,cTROMIKOPARAKALESMA,cPSIFISTOPARAKALESMA,cTROMIKOSYNAGMA",
      "cPSIFISTOSYNAGMA,cGORGOSYNTHETON,cARGOSYNTHETON,cETERON ARGOSYNTHETON,cOYRANISMA NEO",
      "cTHEMATISMOS ESO,dEXO,cTHEMA APLOUN,cTHES KAI APOTHES,cKATAVASMA,cENDOFONON,cYFEN KATO",
      "dANO,cSTAVROS,cKLASMA ANO,cDIPLI ARCHAION,cKRATIMA a,dALLO,dNEO,cAPODERMA a,cAPLI,cDIPLI",
      "cTRIPLI,cTETRAPLI,cKORONIS,cLEIMMA ENOS CHRONOU,dDYO CHRONON,dTRION a,dTESSARON a",
      "dIMISEOS CHRONOU,cGORGON NEO ANO,dPARESTIGMENON ARISTERA,eDEXIA,cDIGORGON",
      "cDIGORGON PARESTIGMENON ARISTERA KATO,fANO,eDEXIA,cTRIGORGON,cARGON,cIMIDIARGON,cDIARGON",
      "cAGOGI POLI ARGI,dARGOTERI,dARGI,dMETRIA,dMESI,dGORGI,dGORGOTERI,dPOLI GORGI",
      "cMARTYRIA PROTOS ICHOS,dALLI PROTOS ICHOS,dDEYTEROS ICHOS,dALLI DEYTEROS ICHOS",
      "dTRITOS ICHOS,dTRIFONIAS,dTETARTOS ICHOS,eLEGETOS ICHOS,dLEGETOS ICHOS,dPLAGIOS a",
      "cISAKIA TELOUS ICHIMATOS,cAPOSTROFOI b,cFANEROSIS TETRAFONIAS,dMONOFONIAS,dDIFONIAS",
      "cMARTYRIA VARYS ICHOS,dPROTOVARYS a,dPLAGIOS TETARTOS ICHOS,cGORTHMIKON N APLOUN,eDIPLOUN",
      "cENARXIS KAI FTHORA VOU,cIMIFONON,cIMIFTHORON,cFTHORA ARCHAION DEYTEROU ICHOU",
      "dDIATONIKI PA,eNANA,dNAOS ICHOS,dDIATONIKI DI,dSKLIRON DIATONON DI,dDIATONIKI KE,eZO",
      "eNI KATO,fANO,dMALAKON CHROMA DIFONIAS,fMONOFONIAS,cFHTORA SKLIRON aVASIS,cFTHORA bSYNAFI",
      "dNENANO,cCHROA ZYGOS,dKLITON,dSPATHI,cFTHORA I YFESIS TETARTIMORION,dENARMONIOS ANTIFONIA",
      "cYFESIS TRITIMORION,cDIESIS a,dTETARTIMORION,dAPLI DYO DODEKATA,dMONOGRAMMOS TESSERA a",
      "dDIGRAMMOS EX a,dTRIGRAMMOS OKTO a,cYFESIS APLI DYO a,dMONOGRAMMOS TESSERA a",
      "dDIGRAMMOS EX a,dTRIGRAMMOS OKTO a,cGENIKI DIESIS,dYFESIS,cDIASTOLI APLI MIKRI,eMEGALI",
      "dDIPLI,dTHESEOS,cSIMANSIS a,dTHESEOS DISIMOU,eTRISIMOU,eTETRASIMOU,dARSEOS",
      "dARSEOS DISIMOU,eTRISIMOU,eTETRASIMOU,cDIGRAMMA GG,cDIFTOGGOS OU,cSTIGMA,cARKTIKO PA,dVOU",
      "dGA,dDI,dKE,dZO,dNI,cKENTIMATA NEO MESO,cKENTIMA b,cKENTIMATA aKATO,cKENTIMA b",
      "cKLASMA KATO,cGORGON NEO KATO"]⟩,
    ⟨0x1D100, ["MUSICAL SYMBOL SINGLE BARLINE,bDOUBLE a,bFINAL a,bREVERSE FINAL BARLINE",
      "bDASHED BARLINE,bSHORT a,bLEFT REPEAT SIGN,bRIGHT b,bREPEAT DOTS,bDAL SEGNO,bDA CAPO",
      "bSEGNO,bCODA,bREPEATED FIGURE-1,2,bFERMATA,bFERMATA BELOW,bBREATH MARK,bCAESURA,bBRACE",
      "bBRACKET,bONE-LINE STAFF,bTWO-b,bTHREE-b,bFOUR-b,bFIVE-b,bSIX-b,cSTRING FRETBOARD,bFOUR-b",
      "bG CLEF,cCLEF OTTAVA ALTA,eBASSA,bC CLEF,bF a,cCLEF OTTAVA ALTA,eBASSA,bDRUM CLEF-1,1,,",
      "bMULTIPLE MEASURE REST,bDOUBLE SHARP,cFLAT,bFLAT UP,cDOWN,bNATURAL UP,cDOWN,bSHARP UP",
      "cDOWN,bQUARTER TONE SHARP,dFLAT,bCOMMON TIME,bCUT a,bOTTAVA ALTA,cBASSA",
      "bQUINDICESIMA ALTA,cBASSA,bMULTI REST,bWHOLE a,bHALF a,bQUARTER a,bEIGHTH a,bSIXTEENTH a",
      "bTHIRTY-SECOND REST,bSIXTY-FOURTH a,bONE HUNDRED TWENTY-EIGHTH REST,bX NOTEHEAD,bPLUS a",
      "bCIRCLE X NOTEHEAD,bSQUARE NOTEHEAD WHITE,dBLACK,bTRIANGLE aUP WHITE,eBLACK,dLEFT WHITE",
      "eBLACK,dRIGHT WHITE,eBLACK,dDOWN WHITE,eBLACK,dUP RIGHT WHITE,fBLACK,bMOON aWHITE,dBLACK",
      "bTRIANGLE-ROUND NOTEHEAD DOWN WHITE,fBLACK,bPARENTHESIS NOTEHEAD,bVOID a,bNOTEHEAD BLACK",
      "bNULL NOTEHEAD,bCLUSTER NOTEHEAD WHITE,dBLACK,bBREVE,bWHOLE NOTE,bHALF a,bQUARTER a",
      "bEIGHTH a,bSIXTEENTH a,bTHIRTY-SECOND NOTE,bSIXTY-FOURTH a",
      "bONE HUNDRED TWENTY-EIGHTH NOTE,bCOMBINING STEM,cSPRECHGESANG STEM,cTREMOLO-1,2",
      "bFINGERED a1,2,bCOMBINING AUGMENTATION DOT,cFLAG-1,4,bBEGIN BEAM,bEND a,bBEGIN TIE,bEND a",
      "bBEGIN SLUR,bEND a,bBEGIN PHRASE,bEND a,bCOMBINING ACCENT,cSTACCATO,cTENUTO",
      "cSTACCATISSIMO,cMARCATO,cMARCATO-STACCATO,cACCENT-a,cLOURE,bARPEGGIATO UP,cDOWN",
      "bCOMBINING DOIT,cRIP,cFLIP,cSMEAR,cBEND,cDOUBLE TONGUE,cTRIPLE a,bRINFORZANDO,bSUBITO,bZ",
      "bPIANO,bMEZZO,bFORTE,bCRESCENDO,bDECRESCENDO,bGRACE NOTE SLASH,dNO SLASH,bTR,bTURN",
      "bINVERTED TURN,bTURN SLASH,cUP,bORNAMENT STROKE-1,10,bHAUPTSTIMME,bNEBENSTIMME",
      "bEND OF STIMME,bDEGREE SLASH,bCOMBINING DOWN BOW,cUP a,cHARMONIC,cSNAP PIZZICATO",
      "bPEDAL MARK,cUP MARK,bHALF PEDAL a,bGLISSANDO UP,cDOWN,bWITH FINGERNAILS,bDAMP,bDAMP ALL",
      "bMAXIMA,bLONGA,bBREVIS,bSEMIBREVIS WHITE,cBLACK,bMINIMA,bMINIMA BLACK,bSEMIMINIMA WHITE",
      "cBLACK,bFUSA WHITE,cBLACK,bLONGA PERFECTA REST,cIMPERFECTA a,bBREVIS REST,bSEMIBREVIS a",
      "bMINIMA a,bSEMIMINIMA a,bTEMPUS PERFECTUM CUM PROLATIONE PERFECTA,fIMPERFECTA",
      "fPERFECTA DIMINUTION-1,cIMPERFECTUM bPERFECTA,fIMPERFECTA,fIMPERFECTA DIMINUTION-1,2",
      "bCROIX,bGREGORIAN C CLEF,cF a,bSQUARE B,bVIRGA,bPODATUS,bCLIVIS,bSCANDICUS,bCLIMACUS",
      "bTORCULUS,bPORRECTUS,bPORRECTUS FLEXUS,bSCANDICUS a,bTORCULUS RESUPINUS,bPES SUBPUNCTIS",
      "bKIEVAN C CLEF,cEND OF PIECE,cFINAL NOTE,cRECITATIVE MARK,cWHOLE NOTE,cHALF a",
      "cQUARTER NOTE STEM DOWN,fUP,cEIGHTH bDOWN,fUP,cFLAT SIGN,bSORI,bKORON"]⟩,
    ⟨0x1D200, ["GREEK VOCAL NOTATION SYMBOL-1,23,d50,4,aINSTRUMENTAL b1,1,d4,1,d7,1,d11,3,d17",
      "2,d23,4,d29,1,d32,d36,4,d42,1,d45,d47,7,COMBINING GREEK MUSICAL TRISEME,cTETRASEME",
      "cPENTASEME,GREEK MUSICAL LEIMMA"]⟩,
    ⟨0x1D2E0, ["MAYAN NUMERAL ZERO,bONE,bTWO,bTHREE,bFOUR,bFIVE,bSIX,bSEVEN,bEIGHT,bNINE,bTEN",
      "bELEVEN,bTWELVE,bTHIRTEEN,bFOURTEEN,bFIFTEEN,bSIXTEEN,bSEVENTEEN,bEIGHTEEN,bNINETEEN"]⟩,
    ⟨0x1D300, ["MONOGRAM FOR EARTH,DIGRAM aHEAVENLY EARTH,bHUMAN a,bEARTHLY HEAVEN,cHUMAN",
      "bEARTH,TETRAGRAM aCENTRE,bFULL CIRCLE,bMIRED,bBARRIER,bKEEPING SMALL,bCONTRARIETY,bASCENT",
      "bOPPOSITION,bBRANCHING OUT,bDEFECTIVENESS OR DISTORTION,bDIVERGENCE,bYOUTHFULNESS",
      "bINCREASE,bPENETRATION,bREACH,bCONTACT,bHOLDING BACK,bWAITING,bFOLLOWING,bADVANCE",
      "bRELEASE,bRESISTANCE,bEASE,bJOY,bCONTENTION,bENDEAVOUR,bDUTIES,bCHANGE,bDECISIVENESS",
      "bBOLD RESOLUTION,bPACKING,bLEGION,bCLOSENESS,bKINSHIP,bGATHERING,bSTRENGTH,bPURITY",
      "bFULLNESS,bRESIDENCE,bLAW OR MODEL,bRESPONSE,bGOING TO MEET,bENCOUNTERS,bSTOVE,bGREATNESS",
      "bENLARGEMENT,bPATTERN,bRITUAL,bFLIGHT,bVASTNESS OR WASTING,bCONSTANCY,bMEASURE,bETERNITY",
      "bUNITY,bDIMINISHMENT,bCLOSED MOUTH,bGUARDEDNESS,bGATHERING IN,bMASSING,bACCUMULATION",
      "bEMBELLISHMENT,bDOUBT,bWATCH,bSINKING,bINNER,bDEPARTURE,bDARKENING,bDIMMING,bEXHAUSTION",
      "bSEVERANCE,bSTOPPAGE,bHARDNESS,bCOMPLETION,bCLOSURE,bFAILURE,bAGGRAVATION,bCOMPLIANCE",
      "bON THE VERGE,bDIFFICULTIES,bLABOURING,bFOSTERING"]⟩,
    ⟨0x1D360, ["COUNTING ROD UNIT DIGIT ONE,dTWO,dTHREE,dFOUR,dFIVE,dSIX,dSEVEN,dEIGHT,dNINE",
      "bTENS aONE,dTWO,dTHREE,dFOUR,dFIVE,dSIX,dSEVEN,dEIGHT,dNINE,IDEOGRAPHIC TALLY MARK ONE",
      "cTWO,cTHREE,cFOUR,cFIVE,TALLY MARK ONE,bFIVE"]⟩,
    ⟨0x1D400, ["MATHEMATICAL BOLD CAPITAL A,25,bSMALL A,25,aITALIC CAPITAL A,25,bSMALL A,6,",
      "cI,17,aBOLD ITALIC CAPITAL A,25,cSMALL A,25,aSCRIPT CAPITAL A,,cC,1,,,cG,,,cJ,1,,,cN,3,",
      "cS,7,bSMALL A,3,,cF,,cH,6,,cP,10,aBOLD SCRIPT CAPITAL A,25,cSMALL A,21"]⟩,
    ⟨0x1D500, ["MATHEMATICAL BOLD SCRIPT SMALL W,3,aFRAKTUR CAPITAL A,1,,cD,3,,,cJ,7,,cS,6,",
      "bSMALL A,25,aDOUBLE-STRUCK CAPITAL A,1,,dD,3,,dI,4,,dO,,,,dS,6,,cSMALL A,25",
      "aBOLD FRAKTUR CAPITAL A,25,cSMALL A,25,aSANS-SERIF CAPITAL A,25,cSMALL A,25",
      "cBOLD CAPITAL A,25,dSMALL A,17"]⟩,
    ⟨0x1D600, ["MATHEMATICAL SANS-SERIF BOLD SMALL S,7,cITALIC CAPITAL A,25,dSMALL A,25",
      "cBOLD ITALIC CAPITAL A,25,eSMALL A,25,aMONOSPACE CAPITAL A,25,bSMALL A,25",
      "aITALIC aDOTLESS I,1,,,aBOLD CAPITAL ALPHA,cBETA,cGAMMA,cDELTA,cEPSILON,cZETA,cETA,cTHETA",
      "cIOTA,cKAPPA,cLAMDA,cMU,cNU,cXI,cOMICRON,cPI,cRHO,cTHETA SYMBOL,cSIGMA,cTAU,cUPSILON,cPHI",
      "cCHI,cPSI,cOMEGA,bNABLA,bSMALL ALPHA,cBETA,cGAMMA,cDELTA,cEPSILON,cZETA,cETA,cTHETA,cIOTA",
      "cKAPPA,cLAMDA,cMU,cNU,cXI,cOMICRON,cPI,cRHO,cFINAL SIGMA,cSIGMA,cTAU,cUPSILON,cPHI,cCHI",
      "cPSI,cOMEGA,bPARTIAL DIFFERENTIAL,bEPSILON SYMBOL,bTHETA a,bKAPPA a,bPHI a,bRHO a,bPI a",
      "aITALIC CAPITAL ALPHA,cBETA,cGAMMA,cDELTA,cEPSILON,cZETA,cETA,cTHETA,cIOTA,cKAPPA,cLAMDA",
      "cMU,cNU,cXI,cOMICRON,cPI,cRHO,cTHETA SYMBOL,cSIGMA,cTAU,cUPSILON,cPHI,cCHI,cPSI,cOMEGA",
      "bNABLA,bSMALL ALPHA,cBETA,cGAMMA,cDELTA"]⟩,
    ⟨0x1D700, ["MATHEMATICAL ITALIC SMALL EPSILON,cZETA,cETA,cTHETA,cIOTA,cKAPPA,cLAMDA,cMU",
      "cNU,cXI,cOMICRON,cPI,cRHO,cFINAL SIGMA,cSIGMA,cTAU,cUPSILON,cPHI,cCHI,cPSI,cOMEGA",
      "bPARTIAL DIFFERENTIAL,bEPSILON SYMBOL,bTHETA a,bKAPPA a,bPHI a,bRHO a,bPI a",
      "aBOLD ITALIC CAPITAL ALPHA,dBETA,dGAMMA,dDELTA,dEPSILON,dZETA,dETA,dTHETA,dIOTA,dKAPPA",
      "dLAMDA,dMU,dNU,dXI,dOMICRON,dPI,dRHO,dTHETA SYMBOL,dSIGMA,dTAU,dUPSILON,dPHI,dCHI,dPSI",
      "dOMEGA,cNABLA,cSMALL ALPHA,dBETA,dGAMMA,dDELTA,dEPSILON,dZETA,dETA,dTHETA,dIOTA,dKAPPA",
      "dLAMDA,dMU,dNU,dXI,dOMICRON,dPI,dRHO,dFINAL SIGMA,dSIGMA,dTAU,dUPSILON,dPHI,dCHI,dPSI",
      "dOMEGA,cPARTIAL DIFFERENTIAL,cEPSILON SYMBOL,cTHETA a,cKAPPA a,cPHI a,cRHO a,cPI a",
      "aSANS-SERIF BOLD CAPITAL ALPHA,eBETA,eGAMMA,eDELTA,eEPSILON,eZETA,eETA,eTHETA,eIOTA",
      "eKAPPA,eLAMDA,eMU,eNU,eXI,eOMICRON,ePI,eRHO,eTHETA SYMBOL,eSIGMA,eTAU,eUPSILON,ePHI,eCHI",
      "ePSI,eOMEGA,dNABLA,dSMALL ALPHA,eBETA,eGAMMA,eDELTA,eEPSILON,eZETA,eETA,eTHETA,eIOTA",
      "eKAPPA,eLAMDA,eMU,eNU,eXI,eOMICRON,ePI,eRHO,eFINAL SIGMA,eSIGMA,eTAU,eUPSILON,ePHI,eCHI",
      "ePSI,eOMEGA,dPARTIAL DIFFERENTIAL,dEPSILON SYMBOL,dTHETA a,dKAPPA a,dPHI a,dRHO a,dPI a",
      "dITALIC CAPITAL ALPHA,fBETA,fGAMMA,fDELTA,fEPSILON,fZETA,fETA,fTHETA,fIOTA,fKAPPA,fLAMDA",
      "fMU,fNU,fXI,fOMICRON,fPI,fRHO,fTHETA SYMBOL,fSIGMA,fTAU,fUPSILON,fPHI,fCHI,fPSI,fOMEGA",
      "eNABLA,eSMALL ALPHA,fBETA,fGAMMA,fDELTA,fEPSILON,fZETA,fETA,fTHETA,fIOTA,fKAPPA,fLAMDA",
      "fMU,fNU,fXI,fOMICRON,fPI,fRHO,fFINAL SIGMA,fSIGMA,fTAU,fUPSILON,fPHI,fCHI,fPSI,fOMEGA",
      "ePARTIAL DIFFERENTIAL,eEPSILON SYMBOL,eTHETA a,eKAPPA a,ePHI a,eRHO a,ePI a",
      "aBOLD CAPITAL DIGAMMA,bSMALL a,,,bDIGIT ZERO,cONE,cTWO,cTHREE,cFOUR,cFIVE,cSIX,cSEVEN",
      "cEIGHT,cNINE,aDOUBLE-STRUCK DIGIT ZERO,dONE,dTWO,dTHREE,dFOUR,dFIVE,dSIX,dSEVEN,dEIGHT",
      "dNINE,aSANS-SERIF aZERO,dONE,dTWO,dTHREE,dFOUR,dFIVE,dSIX,dSEVEN,dEIGHT,dNINE",
      "cBOLD DIGIT ZERO,eONE,eTWO,eTHREE,eFOUR,eFIVE,eSIX,eSEVEN,eEIGHT,eNINE",
      "aMONOSPACE DIGIT ZERO,cONE,cTWO,cTHREE,cFOUR,cFIVE,cSIX,cSEVEN,cEIGHT,cNINE"]⟩,
    ⟨0x1D800, ["SIGNWRITING HAND-FIST INDEX,bCIRCLE a,bCUP a,bOVAL a,bHINGE a,bANGLE a",
      "bFIST INDEX BENT,bCIRCLE b,bFIST THUMB UNDER INDEX BENT,cINDEX RAISED KNUCKLE,dCUPPED",
      "dHINGED,dHINGED LOW,bCIRCLE aHINGE,bFIST aMIDDLE,bCIRCLE b,bFIST aMIDDLE BENT",
      "eRAISED KNUCKLES,eHINGED,dUP MIDDLE HINGED,dHINGED aUP,dMIDDLE CONJOINED",
      "eCONJOINED INDEX BENT,fMIDDLE a,fCUPPED,fHINGED,eCROSSED,bCIRCLE c",
      "bFIST MIDDLE BENT OVER INDEX,cINDEX bMIDDLE,dMIDDLE THUMB,bCIRCLE c",
      "bFIST bSTRAIGHT THUMB BENT,eBENT aSTRAIGHT,eTHUMB BENT,eHINGED SPREAD THUMB SIDE",
      "dUP MIDDLE HINGED b,hCONJOINED,dHINGED aUP aSIDE,dMIDDLE UP SPREAD aFORWARD,eTHUMB CUPPED",
      "fCIRCLED,fHOOKED,fHINGED,cTHUMB BETWEEN INDEX MIDDLE STRAIGHT",
      "cINDEX MIDDLE CONJOINED THUMB SIDE,gSIDE CONJOINED,hBENT,cMIDDLE THUMB HOOKED INDEX UP",
      "cINDEX bMIDDLE a,dMIDDLE CONJOINED HINGED THUMB SIDE,eCROSSED THUMB SIDE",
      "eCONJOINED aFORWARD,fCUPPED THUMB FORWARD,cMIDDLE THUMB CUPPED INDEX UP,cINDEX bMIDDLE a",
      "cMIDDLE aCIRCLED INDEX a,gHINGED,cINDEX aANGLED OUT MIDDLE UP,fIN b,eCIRCLED MIDDLE UP",
      "dMIDDLE THUMB CONJOINED HINGED,fANGLED OUT,fANGLED,cMIDDLE THUMB ANGLED OUT INDEX UP",
      "hCROSSED,fINDEX UP,cINDEX aHOOKED MIDDLE HINGED,bFLAT FOUR FINGERS,dFINGERS BENT,eHINGED",
      "eCONJOINED,eCONJOINED SPLIT,bCLAW bCONJOINED,bFIST bCONJOINED BENT,bHINGE bCONJOINED",
      "bFLAT FIVE aSPREAD,cHEEL FIVE FINGERS SPREAD,cFIVE FINGERS SPREAD FOUR BENT",
      "cHEEL FIVE FINGERS SPREAD FOUR BENT,cFIVE FINGERS SPREAD BENT",
      "cHEEL FIVE FINGERS SPREAD BENT,cFIVE FINGERS SPREAD THUMB FORWARD,bCUP bSPREAD",
      "eSPREAD OPEN,bHINGE d,bOVAL bSPREAD,bFLAT bSPREAD HINGED,fHINGED THUMB SIDE,gNO THUMB",
      "bFLAT,bFLAT BETWEEN PALM FACINGS,cHEEL,cTHUMB SIDE,cHEEL THUMB SIDE,cTHUMB BENT,dFORWARD",
      "cSPLIT INDEX THUMB SIDE,dCENTRE,dCENTRE THUMB SIDE,fSIDE BENT,dLITTLE,bCLAW",
      "bCLAW THUMB SIDE,cNO THUMB,cTHUMB FORWARD,bHOOK CURLICUE,bHOOK,bCUP OPEN,bCUP",
      "bCUP OPEN THUMB SIDE,cTHUMB SIDE,cOPEN NO THUMB,cNO THUMB,cOPEN THUMB FORWARD",
      "cTHUMB FORWARD,bCURLICUE OPEN,bCURLICUE,bCIRCLE,bOVAL,bOVAL THUMB SIDE,cNO THUMB",
      "cTHUMB FORWARD,bHINGE OPEN,cOPEN THUMB FORWARD,bHINGE,bHINGE SMALL,cOPEN THUMB SIDE",
      "cTHUMB SIDE,cOPEN NO THUMB,cNO THUMB,cTHUMB SIDE TOUCHING INDEX,dBETWEEN MIDDLE RING",
      "bANGLE,bFIST INDEX MIDDLE RING,bCIRCLE c,bHINGE c,bANGLE c,bHINGE LITTLE",
      "bFIST INDEX MIDDLE RING BENT,fCONJOINED,bHINGE d,bFIST LITTLE DOWN,dDOWN RIPPLE STRAIGHT",
      "fCURVED,eOTHERS CIRCLED,dUP,cTHUMB UNDER LITTLE UP,bCIRCLE LITTLE UP,bOVAL b,bANGLE b",
      "bFIST aRAISED KNUCKLE,dBENT,dTOUCHES THUMB,dTHUMB,bHINGE b,bFIST aINDEX THUMB,bHINGE c",
      "bANGLE bTHUMB INDEX THUMB OUT,gTHUMB,bFIST aINDEX,bCIRCLE b,bHINGE b,bANGLE b",
      "bFIST INDEX MIDDLE LITTLE,bCIRCLE c,bHINGE c,cRING,bANGLE INDEX MIDDLE LITTLE",
      "bFIST bCROSS LITTLE,bCIRCLE d,bFIST RING DOWN,bHINGE aDOWN INDEX THUMB HOOK MIDDLE",
      "bANGLE bMIDDLE aINDEX CROSS,bFIST aUP,dRAISED KNUCKLE,dLITTLE,bCIRCLE b,bOVAL b,bANGLE b",
      "bFIST aMIDDLE,dMIDDLE CONJOINED,eRAISED KNUCKLES,dINDEX,dTHUMB,bHOOK b",
      "bFIST INDEX RING LITTLE,bCIRCLE c,bCURLICUE bLITTLE ON,bHOOK cOUT,fIN,fUNDER,bCUP bLITTLE",
      "bHINGE c,bANGLE bLITTLE OUT,eLITTLE,bFIST MIDDLE DOWN,bHINGE MIDDLE,bFIST MIDDLE UP",
      "bCIRCLE b,bFIST aRAISED KNUCKLE,dUP THUMB SIDE,bHOOK aTHUMB,bFIST aTHUMB LITTLE,dLITTLE",
      "dRING LITTLE,bCIRCLE c,bCURLICUE bLITTLE ON,bCUP bLITTLE,bHINGE c,bANGLE bLITTLE OUT,fIN",
      "eLITTLE,bCIRCLE bLITTLE BENT,bCLAW cCONJOINED,fCONJOINED SIDE,bHOOK dOUT,gIN,fCONJOINED",
      "bHINGE INDEX HINGED,bFIST aTHUMB SIDE,bHINGE c,bFIST bSIDE THUMB DIAGONAL,gCONJOINED",
      "gBENT,fINDEX a,fBOTH a,fINDEX HINGE,eFORWARD aSTRAIGHT,gBENT,eHOOK,eCURLICUE",
      "eCURVE THUMB INSIDE,bCLAW e,bFIST dUNDER,eCIRCLE,bCUP aTHUMB,dTHUMB OPEN,bHINGE c,eLARGE",
      "dTHUMB,dTHUMB SMALL,bANGLE bOUT,eIN,dTHUMB,bFIST THUMB,cTHUMB HEEL,dSIDE DIAGONAL",
      "eCONJOINED,eBENT,dFORWARD,dBETWEEN INDEX MIDDLE,eMIDDLE RING,eRING LITTLE",
      "dUNDER TWO FINGERS,dOVER b"]⟩,
    ⟨0x1D900, ["SIGNWRITING HAND-FIST THUMB UNDER THREE FINGERS,eFOUR a",
      "dOVER aRAISED KNUCKLES,bFIST,bFIST HEEL,aTOUCH SINGLE,bMULTIPLE,bBETWEEN,aGRASP SINGLE",
      "bMULTIPLE,bBETWEEN,aSTRIKE SINGLE,bMULTIPLE,bBETWEEN,aBRUSH SINGLE,bMULTIPLE,bBETWEEN",
      "aRUB SINGLE,bMULTIPLE,bBETWEEN,aSURFACE SYMBOLS,bBETWEEN,aSQUEEZE LARGE SINGLE,bSMALL a",
      "bLARGE MULTIPLE,bSMALL a,bSEQUENTIAL,aFLICK LARGE SINGLE,bSMALL a,bLARGE MULTIPLE",
      "bSMALL a,bSEQUENTIAL,aSQUEEZE FLICK ALTERNATING,aMOVEMENT-HINGE UP DOWN LARGE,eSMALL",
      "dSEQUENTIAL,cDOWN a,cUP DOWN ALTERNATING LARGE,fSMALL,cSIDE TO SIDE SCISSORS",
      "bWALLPLANE FINGER CONTACT,bFLOORPLANE b,bWALLPLANE SINGLE STRAIGHT SMALL,eMEDIUM,eLARGE",
      "eLARGEST,dWRIST FLEX,cDOUBLE STRAIGHT,dWRIST FLEX,dALTERNATING,dALTERNATING WRIST FLEX",
      "cCROSS,cTRIPLE STRAIGHT MOVEMENT,dWRIST FLEX,dALTERNATING,dALTERNATING WRIST FLEX",
      "cBEND SMALL,dMEDIUM,dLARGE,cCORNER SMALL,dMEDIUM,dLARGE,dROTATION,cCHECK SMALL,dMEDIUM",
      "dLARGE,cBOX SMALL,dMEDIUM,dLARGE,cZIGZAG SMALL,dMEDIUM,dLARGE,cPEAKS SMALL,dMEDIUM,dLARGE",
      "aTRAVEL-aROTATION-WALLPLANE SINGLE,eDOUBLE,eALTERNATING,dFLOORPLANE SINGLE,eDOUBLE",
      "eALTERNATING,cSHAKING,cARM SPIRAL SINGLE,eDOUBLE,eTRIPLE,aMOVEMENT-DIAGONAL AWAY SMALL",
      "dMEDIUM,dLARGE,dLARGEST,cTOWARDS SMALL,dMEDIUM,dLARGE,dLARGEST,cBETWEEN AWAY SMALL",
      "eMEDIUM,eLARGE,eLARGEST,dTOWARDS SMALL,eMEDIUM,eLARGE,eLARGEST",
      "bFLOORPLANE SINGLE STRAIGHT SMALL,eMEDIUM,eLARGE,eLARGEST,dWRIST FLEX,cDOUBLE STRAIGHT",
      "dWRIST FLEX,dALTERNATING,dALTERNATING WRIST FLEX,cCROSS,cTRIPLE STRAIGHT MOVEMENT",
      "dWRIST FLEX,dALTERNATING MOVEMENT,eWRIST FLEX,cBEND,cCORNER SMALL,dMEDIUM,dLARGE,cCHECK",
      "cBOX SMALL,dMEDIUM,dLARGE,cZIGZAG SMALL,dMEDIUM,dLARGE,cPEAKS SMALL,dMEDIUM,dLARGE",
      "aTRAVEL-aROTATION-FLOORPLANE SINGLE,eDOUBLE,eALTERNATING,dWALLPLANE SINGLE,eDOUBLE",
      "eALTERNATING,cSHAKING,aMOVEMENT-WALLPLANE CURVE QUARTER SMALL,eMEDIUM,eLARGE,eLARGEST",
      "dHALF-CIRCLE SMALL,fMEDIUM,fLARGE,fLARGEST,dTHREE-QUARTER CIRCLE SMALL,gMEDIUM",
      "cHUMP SMALL,dMEDIUM,dLARGE,cLOOP SMALL,dMEDIUM,dLARGE,dSMALL DOUBLE",
      "cWAVE CURVE DOUBLE SMALL,fMEDIUM,fLARGE,eTRIPLE SMALL,fMEDIUM,fLARGE,cCURVE THEN STRAIGHT",
      "cCURVED CROSS SMALL,eMEDIUM,aROTATION-aSINGLE,cDOUBLE,cALTERNATE,aMOVEMENT-aSHAKING",
      "cCURVE HITTING FRONT WALL,cHUMP c,cLOOP c,cWAVE c,aROTATION-aSINGLE c,cDOUBLE c",
      "cALTERNATING c,aMOVEMENT-aCURVE aCHEST,cHUMP b,cLOOP b,cWAVE b,aROTATION-aSINGLE b",
      "cDOUBLE b,cALTERNATING b,aMOVEMENT-aWAVE DIAGONAL PATH SMALL,fMEDIUM,fLARGE",
      "bFLOORPLANE CURVE HITTING CEILING SMALL,fLARGE,cHUMP bSMALL DOUBLE,fLARGE a,fSMALL TRIPLE",
      "fLARGE a,cLOOP bSMALL SINGLE,fLARGE a,fSMALL DOUBLE,fLARGE a,cWAVE bSMALL,fLARGE",
      "aROTATION-aSINGLE aCEILING,cDOUBLE b,cALTERNATING b,aMOVEMENT-aCURVE aFLOOR SMALL,fLARGE",
      "cHUMP bSMALL DOUBLE,fLARGE a,fTRIPLE SMALL TRIPLE,gLARGE a,cLOOP bSMALL SINGLE,fLARGE a",
      "fSMALL DOUBLE,fLARGE a,cWAVE bSMALL,fLARGE,aROTATION-aSINGLE aFLOOR,cDOUBLE b",
      "cALTERNATING b,aMOVEMENT-aCURVE SMALL,dMEDIUM,dLARGE,dLARGEST,dCOMBINED,cHUMP SMALL",
      "cLOOP a,cWAVE SNAKE,dSMALL,dLARGE,aROTATION-aSINGLE,cDOUBLE,cALTERNATING",
      "aMOVEMENT-aSHAKING PARALLEL,bWALLPLANE ARM CIRCLE SMALL SINGLE,eMEDIUM a,eSMALL DOUBLE",
      "eMEDIUM a,bFLOORPLANE bHITTING WALL SMALL SINGLE,gMEDIUM a,gLARGE a,gSMALL DOUBLE",
      "gMEDIUM a,gLARGE a,bWALLPLANE WRIST aFRONT SINGLE,fDOUBLE",
      "bFLOORPLANE bHITTING WALL SINGLE,gDOUBLE,bWALLPLANE FINGER CIRCLES SINGLE,eDOUBLE",
      "bFLOORPLANE bHITTING WALL SINGLE,gDOUBLE,aDYNAMIC ARROWHEAD SMALL,cLARGE,bFAST,bSLOW",
      "bTENSE,bRELAXED,bSIMULTANEOUS,bSIMULTANEOUS ALTERNATING,bEVERY OTHER TIME,bGRADUAL,aHEAD"]⟩,
    ⟨0x1DA00, ["SIGNWRITING HEAD RIM,bMOVEMENT-WALLPLANE STRAIGHT,dTILT,cFLOORPLANE STRAIGHT",
      "cWALLPLANE CURVE,cFLOORPLANE a,bMOVEMENT CIRCLE",
      "aFACE DIRECTION POSITION NOSE FORWARD TILTING,eUP OR DOWN,gDOWN TILTING",
      "aEYEBROWS STRAIGHT UP,cNEUTRAL,cDOWN,aDREAMY EYEBROWS NEUTRAL DOWN,cDOWN NEUTRAL,cUP a",
      "cNEUTRAL UP,aFOREHEAD NEUTRAL,bCONTACT,bWRINKLED,aEYES OPEN,bSQUEEZED,bCLOSED",
      "aEYE BLINK SINGLE,cMULTIPLE,aEYES HALF OPEN,bWIDE a,bHALF CLOSED,bWIDENING MOVEMENT",
      "aEYE WINK,aEYELASHES UP,bDOWN,bFLUTTERING,aEYEGAZE-WALLPLANE STRAIGHT,cSTRAIGHT DOUBLE",
      "dALTERNATING,bFLOORPLANE STRAIGHT,cSTRAIGHT DOUBLE,dALTERNATING,bWALLPLANE CURVED",
      "bFLOORPLANE a,bWALLPLANE CIRCLING,aCHEEKS PUFFED,bNEUTRAL,bSUCKED,aTENSE CHEEKS HIGH",
      "cMIDDLE,cLOW,aEARS,aNOSE NEUTRAL,bCONTACT,bWRINKLES,bWIGGLES,aAIR BLOWING OUT,bSUCKING IN",
      "bBLOW SMALL ROTATIONS,bSUCK b,aBREATH INHALE,bEXHALE,aMOUTH CLOSED NEUTRAL,cFORWARD",
      "cCONTACT,bSMILE,bSMILE WRINKLED,cOPEN,bFROWN,bFROWN WRINKLED,cOPEN,bOPEN CIRCLE,cFORWARD",
      "cWRINKLED,cOVAL,cOVAL WRINKLED,dYAWN,cRECTANGLE,cRECTANGLE WRINKLED,dYAWN,bKISS",
      "bKISS FORWARD,cWRINKLED,bTENSE,bTENSE FORWARD,cSUCKED,aLIPS PRESSED TOGETHER",
      "aLIP LOWER OVER UPPER,bUPPER aLOWER,aMOUTH CORNERS,bWRINKLES SINGLE,cDOUBLE",
      "aTONGUE STICKING OUT FAR,bLICKING LIPS,bTIP BETWEEN LIPS,cTOUCHING INSIDE MOUTH",
      "bINSIDE MOUTH RELAXED,bMOVES AGAINST CHEEK,bCENTRE STICKING OUT,cINSIDE MOUTH,aTEETH",
      "aTEETH MOVEMENT,bON TONGUE,cTONGUE MOVEMENT,cLIPS,cLIPS MOVEMENT,bBITE LIPS",
      "aMOVEMENT-WALLPLANE JAW,bFLOORPLANE a,aNECK,aHAIR,aEXCITEMENT,aSHOULDER HIP SPINE",
      "cPOSITIONS,aWALLPLANE SHOULDER HIP MOVE,aFLOORPLANE c,aSHOULDER TILTING FROM WAIST",
      "aTORSO-WALLPLANE STRAIGHT STRETCH,cCURVED BEND,bFLOORPLANE TWISTING",
      "aUPPER BODY TILTING FROM HIP JOINTS,aLIMB COMBINATION,bLENGTH-1,6,aFINGER",
      "aLOCATION-WALLPLANE SPACE,bFLOORPLANE a,aLOCATION HEIGHT,bWIDTH,bDEPTH,bHEAD NECK,bTORSO",
      "bLIMBS DIGITS,aCOMMA,aFULL STOP,aSEMICOLON,aCOLON,aPARENTHESIS"]⟩,
    ⟨0x1DA9B, ["SIGNWRITING FILL MODIFIER-2,4,,aROTATION a2,14"]⟩,
    ⟨0x1DF00, ["LATIN SMALL LETTER FENG DIGRAPH WITH TRILL,cREVERSED SCRIPT G",
      "aLETTER SMALL CAPITAL TURNED a,aSMALL LETTER REVERSED K,aLETTER SMALL CAPITAL L WITH BELT",
      "aSMALL LETTER LEZH WITH RETROFLEX HOOK,cTURNED Y WITH BELT,cREVERSED ENG",
      "cTURNED R WITH LONG LEG AND RETROFLEX HOOK,cT WITH HOOK AND RETROFLEX HOOK",
      "aLETTER RETROFLEX CLICK aRETROFLEX HOOK,aSMALL LETTER ESH aDOUBLE BAR,fBAR AND CURL",
      "cTURNED T WITH CURL,aLETTER INVERTED GLOTTAL STOP b,bSTRETCHED C WITH CURL",
      "bSMALL CAPITAL TURNED K,aSMALL LETTER L WITH FISHHOOK,cDEZH DIGRAPH WITH PALATAL HOOK",
      "cL WITH BELT AND PALATAL HOOK,cENG aPALATAL HOOK,cTURNED R WITH PALATAL HOOK",
      "cR WITH FISHHOOK AND PALATAL HOOK,cTESH DIGRAPH WITH PALATAL HOOK,cEZH WITH PALATAL HOOK",
      "cDEZH DIGRAPH WITH RETROFLEX HOOK,cI WITH STROKE AND RETROFLEX HOOK,cO aRETROFLEX HOOK",
      "cTESH DIGRAPH WITH RETROFLEX HOOK,cC WITH RETROFLEX HOOK,cS aCURL"]⟩,
    ⟨0x1E000, ["COMBINING GLAGOLITIC LETTER AZU,cBUKY,cVEDE,cGLAGOLI,cDOBRO,cYESTU,cZHIVETE,",
      "cZEMLJA,cIZHE,cINITIAL IZHE,cI,cDJERVI,cKAKO,cLJUDIJE,cMYSLITE,cNASHI,cONU,cPOKOJI,cRITSI",
      "cSLOVO,cTVRIDO,cUKU,cFRITU,cHERU,,,cSHTA,cTSI,cCHRIVI,cSHA,cYERU,cYERI,cYATI,,cYU",
      "cSMALL YUS,,cYO,cIOTATED SMALL YUS,cBIG YUS,cIOTATED BIG YUS,cFITA"]⟩,
    ⟨0x1E100, ["NYIAKENG PUACHUE HMONG LETTER MA,dTSA,dNTA,dTA,dHA,dNA,dXA,dNKA,dCA,dLA,dSA",
      "dZA,dNCA,dNTSA,dKA,dDA,dNYA,dNRA,dVA,dNTXA,dTXA,dFA,dRA,dQA,dYA,dNQA,dPA,dXYA,dNPA,dDLA",
      "dNPLA,dHAH,dMLA,dPLA,dGA,dRRA,dA,dAA,dI,dU,dO,dOO,dE,dEE,dW,,,,cTONE-B,dM,dJ,dV,dS,dG,dD",
      "cSIGN FOR PERSON,eTHING,eLOCATION,eANIMAL,eINVERTEBRATE,dXW XW,cSYLLABLE LENGTHENER,,",
      "cDIGIT ZERO,dONE,dTWO,dTHREE,dFOUR,dFIVE,dSIX,dSEVEN,dEIGHT,dNINE,,,,,cLOGOGRAM NYAJ",
      "cCIRCLED CA"]⟩,
    ⟨0x1E290, ["TOTO LETTER PA,bBA,bTA,bDA,bKA,bGA,bMA,bNA,bNGA,bSA,bCHA,bYA,bWA,bJA,bHA,bRA",
      "bLA,bI,bBREATHY I,bIU,bBREATHY IU,bU,bE,bBREATHY E,bEO,bBREATHY EO,bO,bAE,bBREATHY AE,bA",
      "aSIGN RISING TONE"]⟩,
    ⟨0x1E2C0, ["WANCHO LETTER AA,bA,bBA,bCA,bDA,bGA,bYA,bPHA,bLA,bNA,bPA,bTA,bTHA,bFA,bSA",
      "bSHA,bJA,bZA,bWA,bVA,bKA,bO,bAU,bRA,bMA,bKHA,bHA,bE,bI,bNGA,bU,bLLHA,bTSA,bTRA,bONG,bAANG",
      "bANG,bING,bON,bEN,bAAN,bNYA,bUEN,bYIH,aTONE TUP,bTUPNI,bKOI,bKOINI,aDIGIT ZERO,bONE,bTWO",
      "bTHREE,bFOUR,bFIVE,bSIX,bSEVEN,bEIGHT,bNINE"]⟩,
    ⟨0x1E2FF, ["WANCHO NGUN SIGN"]⟩,
    ⟨0x1E7E0, ["ETHIOPIC SYLLABLE HHYA,bHHYU,bHHYI,bHHYAA,bHHYEE,bHHYE,bHHYO,,bGURAGE HHWA",
      "bHHWI,bHHWEE,bHHWE,,bGURAGE MWI,cMWEE,,cQWI,cQWEE,cQWE,cBWI,cBWEE,cKWI,cKWEE,cKWE,cGWI",
      "cGWEE,cGWE,cFWI,cFWEE,cPWI,cPWEE"]⟩,
    ⟨0x1E800, ["MENDE KIKAKUI SYLLABLE M001 KI,cM002 KA,cM003 KU,cM065 KEE,cM095 KE,cM076 KOO",
      "cM048 KO,cM179 KUA,cM004 WI,cM005 WA,cM006 WU,cM126 WEE,cM118 WE,cM114 WOO,cM045 WO",
      "cM194 WUI,cM143 WEI,cM061 WVI,cM049 WVA,cM139 WVE,cM007 MIN,cM008 MAN,cM009 MUN,cM059 MEN",
      "cM094 MON,cM154 MUAN,cM189 MUEN,cM010 BI,cM011 BA,cM012 BU,cM150 BEE,cM097 BE,cM103 BOO",
      "cM138 BO,cM013 I,cM014 A,cM015 U,cM163 EE,cM100 E,cM165 OO,cM147 O,cM137 EI,cM131 IN",
      "cM135 a,cM195 AN,cM178 EN,cM019 SI,cM020 SA,cM021 SU,cM162 SEE,cM116 SE,cM136 SOO",
      "cM079 SO,cM196 SIA,cM025 LI,cM026 LA,cM027 LU,cM084 LEE,cM073 LE,cM054 LOO,cM153 LO",
      "cM110 LONG LE,cM016 DI,cM017 DA,cM018 DU,cM089 DEE,cM180 DOO,cM181 DO,cM022 TI,cM023 TA",
      "cM024 TU,cM091 TEE,cM055 TE,cM104 TOO,cM069 TO,cM028 JI,cM029 JA,cM030 JU,cM157 JEE",
      "cM113 JE,cM160 JOO,cM063 JO,cM175 LONG JO,cM031 YI,cM032 YA,cM033 YU,cM109 YEE,cM080 YE",
      "cM141 YOO,cM121 YO,cM034 FI,cM035 FA,cM036 FU,cM078 FEE,cM075 FE,cM133 FOO,cM088 FO",
      "cM197 FUA,cM101 FAN,cM037 NIN,cM038 NAN,cM039 NUN,cM117 NEN,cM169 NON,cM176 HI,cM041 HA",
      "cM186 HU,cM040 HEE,cM096 HE,cM042 HOO,cM140 HO,cM083 HEEI,cM128 HOOU,cM053 HIN,cM130 HAN",
      "cM087 HUN,cM052 HEN,cM193 HON,cM046 HUAN,cM090 NGGI,cM043 NGGA,cM082 NGGU,cM115 NGGEE",
      "cM146 NGGE,cM156 NGGOO,cM120 NGGO,cM159 NGGAA,cM127 NGGUA,cM086 LONG NGGE,cM106 aNGGOO",
      "cM183 aNGGO,cM155 GI,cM111 GA,cM168 GU,cM190 GEE,cM166 GUEI,cM167 GUAN,cM184 NGEN",
      "cM057 NGON,cM177 NGUAN,cM068 PI,cM099 PA,cM050 PU,cM081 PEE,cM051 PE,cM102 POO,cM066 PO",
      "cM145 MBI,cM062 MBA,cM122 MBU,cM047 MBEE,cM188 a,cM072 MBE,cM172 MBOO,cM174 MBO",
      "cM187 MBUU,cM161 LONG MBE,cM105 aMBOO,cM142 aMBO,cM132 KPI,cM092 KPA,cM074 KPU,cM044 KPEE",
      "cM108 KPE,cM112 KPOO,cM158 KPO,cM124 GBI,cM056 GBA,cM148 GBU,cM093 GBEE,cM107 GBE",
      "cM071 GBOO,cM070 GBO,cM171 RA,cM123 NDI,cM129 NDA,cM125 NDU,cM191 NDEE,cM119 NDE",
      "cM067 NDOO,cM064 NDO,cM152 NJA,cM192 NJU,cM149 NJEE,cM134 NJOO,cM182 VI,cM185 VA,cM151 VU",
      "cM173 VEE,cM085 VE,cM144 VOO,cM077 VO,cM164 NYIN,cM058 NYAN,cM170 NYUN,cM098 NYEN",
      "cM060 NYON,,,bDIGIT ONE,cTWO,cTHREE,cFOUR,cFIVE,cSIX,cSEVEN,cEIGHT,cNINE",
      "bCOMBINING NUMBER TEENS,dTENS,dHUNDREDS,dTHOUSANDS,dTEN THOUSANDS,dHUNDRED a,dMILLIONS"]⟩,
    ⟨0x1E900, ["ADLAM CAPITAL LETTER ALIF,cDAALI,cLAAM,cMIIM,cBA,cSINNYIIYHE,cPE,cBHE,cRA,cE",
      "cFA,cI,cO,cDHA,cYHE,cWAW,cNUN,cKAF,cYA,cU,cJIIM,cCHI,cHA,cQAAF,cGA,cNYA,cTU,cNHA,cVA,cKHA",
      "cGBE,cZAL,cKPO,cSHA,aSMALL aALIF,cDAALI,cLAAM,cMIIM,cBA,cSINNYIIYHE,cPE,cBHE,cRA,cE,cFA",
      "cI,cO,cDHA,cYHE,cWAW,cNUN,cKAF,cYA,cU,cJIIM,cCHI,cHA,cQAAF,cGA,cNYA,cTU,cNHA,cVA,cKHA",
      "cGBE,cZAL,cKPO,cSHA,aALIF LENGTHENER,aVOWEL a,aGEMINATION MARK,aHAMZA,aCONSONANT MODIFIER",
      "aGEMINATE CONSONANT MODIFIER,aNUKTA,aNASALIZATION MARK,,,,,aDIGIT ZERO,bONE,bTWO,bTHREE",
      "bFOUR,bFIVE,bSIX,bSEVEN,bEIGHT,bNINE,,,,,aINITIAL EXCLAMATION MARK,bQUESTION a"]⟩,
    ⟨0x1EC71, ["INDIC SIYAQ NUMBER ONE,cTWO,cTHREE,cFOUR,cFIVE,cSIX,cSEVEN,cEIGHT,cNINE,cTEN",
      "cTWENTY,cTHIRTY,cFORTY,cFIFTY,cSIXTY,cSEVENTY,cEIGHTY,cNINETY,cONE HUNDRED,cTWO a",
      "cTHREE a,cFOUR a,cFIVE a,cSIX a,cSEVEN a,cEIGHT a,cNINE a,cONE THOUSAND,cTWO a,cTHREE a",
      "cFOUR a,cFIVE a,cSIX a,cSEVEN a,cEIGHT a,cNINE a,cTEN a,cTWENTY a,cTHIRTY a,cFORTY a",
      "cFIFTY a,cSIXTY a,cSEVENTY a,cEIGHTY a,cNINETY a,cLAKH,cLAKHAN,bLAKH MARK,bNUMBER KAROR",
      "cKARORAN,cPREFIXED ONE,dTWO,dTHREE,dFOUR,dFIVE,dSIX,dSEVEN,dEIGHT,dNINE,bPLACEHOLDER",
      "bFRACTION ONE QUARTER,dHALF,cTHREE QUARTERS,bRUPEE MARK,bNUMBER ALTERNATE ONE,dTWO",
      "dTEN THOUSAND,bALTERNATE LAKH MARK"]⟩,
    ⟨0x1ED01, ["OTTOMAN SIYAQ NUMBER ONE,cTWO,cTHREE,cFOUR,cFIVE,cSIX,cSEVEN,cEIGHT,cNINE",
      "cTEN,cTWENTY,cTHIRTY,cFORTY,cFIFTY,cSIXTY,cSEVENTY,cEIGHTY,cNINETY,cONE HUNDRED,cTWO a",
      "cTHREE a,cFOUR a,cFIVE a,cSIX a,cSEVEN a,cEIGHT a,cNINE a,cONE THOUSAND,cTWO a,cTHREE a",
      "cFOUR a,cFIVE a,cSIX a,cSEVEN a,cEIGHT a,cNINE a,cTEN a,cTWENTY a,cTHIRTY a,cFORTY a",
      "cFIFTY a,cSIXTY a,cSEVENTY a,cEIGHTY a,cNINETY a,bMARRATAN,bALTERNATE NUMBER TWO,dTHREE",
      "dFOUR,dFIVE,dSIX,dSEVEN,dEIGHT,dNINE,dTEN,dFOUR HUNDRED,dSIX a,dTWO THOUSAND,dTEN a",
      "bFRACTION ONE HALF,dSIXTH"]⟩,
    ⟨0x1EE00, ["ARABIC MATHEMATICAL ALEF,bBEH,bJEEM,bDAL,,bWAW,bZAIN,bHAH,bTAH,bYEH,bKAF,bLAM",
      "bMEEM,bNOON,bSEEN,bAIN,bFEH,bSAD,bQAF,bREH,bSHEEN,bTEH,bTHEH,bKHAH,bTHAL,bDAD,bZAH,bGHAIN",
      "bDOTLESS BEH,cNOON,cFEH,cQAF,,bINITIAL BEH,cJEEM,,cHEH,,,cHAH,,cYEH,cKAF,cLAM,cMEEM,cNOON",
      "cSEEN,cAIN,cFEH,cSAD,cQAF,,cSHEEN,cTEH,cTHEH,cKHAH,,cDAD,,cGHAIN"]⟩,
    ⟨0x1EE42, ["ARABIC MATHEMATICAL TAILED JEEM,,,,,cHAH,,cYEH,,cLAM,,cNOON,cSEEN,cAIN,,cSAD",
      "cQAF,,cSHEEN,,,cKHAH,,cDAD,,cGHAIN,,cDOTLESS NOON,,dQAF,,bSTRETCHED BEH,cJEEM,,cHEH,,",
      "cHAH,cTAH,cYEH,cKAF,,cMEEM,cNOON,cSEEN,cAIN,cFEH,cSAD,cQAF,,cSHEEN,cTEH,cTHEH,cKHAH,,cDAD",
      "cZAH,cGHAIN,cDOTLESS BEH,,dFEH,,bLOOPED ALEF,cBEH,cJEEM,cDAL,cHEH,cWAW,cZAIN,cHAH,cTAH",
      "cYEH,,cLAM,cMEEM,cNOON,cSEEN,cAIN,cFEH,cSAD,cQAF,cREH,cSHEEN,cTEH,cTHEH,cKHAH,cTHAL,cDAD",
      "cZAH,cGHAIN"]⟩,
    ⟨0x1EEA1, ["ARABIC MATHEMATICAL DOUBLE-STRUCK BEH,dJEEM,dDAL,,dWAW,dZAIN,dHAH,dTAH,dYEH,",
      "dLAM,dMEEM,dNOON,dSEEN,dAIN,dFEH,dSAD,dQAF,dREH,dSHEEN,dTEH,dTHEH,dKHAH,dTHAL,dDAD,dZAH",
      "dGHAIN"]⟩,
    ⟨0x1EEF0, ["ARABIC MATHEMATICAL OPERATOR MEEM WITH HAH WITH TATWEEL,cHAH aDAL"]⟩,
    ⟨0x1F000, ["MAHJONG TILE EAST WIND,bSOUTH a,bWEST a,bNORTH a,bRED DRAGON,bGREEN a",
      "bWHITE a,bONE OF CHARACTERS,bTWO b,bTHREE b,bFOUR b,bFIVE b,bSIX b,bSEVEN b,bEIGHT b",
      "bNINE b,bONE aBAMBOOS,bTWO b,bTHREE b,bFOUR b,bFIVE b,bSIX b,bSEVEN b,bEIGHT b,bNINE b",
      "bONE aCIRCLES,bTWO b,bTHREE b,bFOUR b,bFIVE b,bSIX b,bSEVEN b,bEIGHT b,bNINE b,bPLUM",
      "bORCHID,bBAMBOO,bCHRYSANTHEMUM,bSPRING,bSUMMER,bAUTUMN,bWINTER,bJOKER,bBACK,,,,",
      "DOMINO aHORIZONTAL BACK,bHORIZONTAL-00-00,6,c01-00,6,c02-00,6,c03-00,6,c04-00,6,c05-00,6",
      "c06-00,6,bVERTICAL BACK,bVERTICAL-00-00,6,c01-00,6,c02-00,6,c03-00,6,c04-00,6,c05-00,6",
      "c06-00,6"]⟩,
    ⟨0x1F0A0, ["PLAYING CARD BACK,bACE OF SPADES,bTWO b,bTHREE b,bFOUR b,bFIVE b,bSIX b",
      "bSEVEN b,bEIGHT b,bNINE b,bTEN b,bJACK b,bKNIGHT b,bQUEEN b,bKING b,,,bACE aHEARTS,bTWO b",
      "bTHREE b,bFOUR b,bFIVE b,bSIX b,bSEVEN b,bEIGHT b,bNINE b,bTEN b,bJACK b,bKNIGHT b",
      "bQUEEN b,bKING b,bRED JOKER,,bACE OF DIAMONDS,bTWO b,bTHREE b,bFOUR b,bFIVE b,bSIX b",
      "bSEVEN b,bEIGHT b,bNINE b,bTEN b,bJACK b,bKNIGHT b,bQUEEN b,bKING b,bBLACK JOKER,",
      "bACE OF CLUBS,bTWO b,bTHREE b,bFOUR b,bFIVE b,bSIX b,bSEVEN b,bEIGHT b,bNINE b,bTEN b",
      "bJACK b,bKNIGHT b,bQUEEN b,bKING b,bWHITE JOKER,bFOOL,bTRUMP-1,20"]⟩,
    ⟨0x1F100, ["DIGIT ZERO FULL STOP,bCOMMA,aONE a,aTWO a,aTHREE a,aFOUR a,aFIVE a,aSIX a",
      "aSEVEN a,aEIGHT a,aNINE a,DINGBAT CIRCLED SANS-SERIF DIGIT ZERO",
      "aNEGATIVE CIRCLED SANS-SERIF DIGIT ZERO,CIRCLED ZERO WITH SLASH,aANTICLOCKWISE ARROW",
      "aDOLLAR SIGN WITH OVERLAID BACKSLASH,PARENTHESIZED LATIN CAPITAL LETTER A,25",
      "TORTOISE SHELL BRACKETED LATIN CAPITAL LETTER S,CIRCLED ITALIC LATIN CAPITAL LETTER C,eR",
      "aCD,aWZ,COPYLEFT SYMBOL,SQUARED LATIN CAPITAL LETTER A,25,aHV,aMV,aSD,aSS,aPPV,aWC",
      "NEGATIVE CIRCLED LATIN CAPITAL LETTER A,25,RAISED MC SIGN,aMD a,aMR a,CIRCLED CC",
      "aC WITH OVERLAID BACKSLASH,aHUMAN FIGURE,NEGATIVE SQUARED LATIN CAPITAL LETTER A,25",
      "CROSSED NEGATIVE SQUARED LATIN CAPITAL LETTER P,NEGATIVE SQUARED IC,bPA,bSA,bAB,bWC",
      "SQUARE DJ,SQUARED CL,aCOOL,aFREE,aID,aNEW,aNG,aOK,aSOS,aUP WITH EXCLAMATION MARK,aVS",
      "aTHREE D,aSECOND SCREEN,aTWO K,aFOUR a,aEIGHT a,aFIVE POINT ONE,aSEVEN b",
      "aTWENTY-TWO POINT TWO,aSIXTY P,aONE HUNDRED TWENTY P,aLATIN SMALL LETTER D,aHC,aHDR",
      "aHI-RES,aLOSSLESS,aSHV,aUHD,aVOD,MASK WORK SYMBOL"]⟩,
    ⟨0x1F1E6, ["REGIONAL INDICATOR SYMBOL LETTER A,25"]⟩,
    ⟨0x1F200, ["SQUARE HIRAGANA HOKA,SQUARED KATAKANA KOKO,bSA"]⟩,
    ⟨0x1F210, ["SQUARED CJK UNIFIED IDEOGRAPH-624B,d5B57,d53CC,aKATAKANA DE",
      "aCJK UNIFIED IDEOGRAPH-4E8C,d591A,d89E3,d5929,d4EA4,d6620,d7121,d6599,d524D,d5F8C,d518D",
      "d65B0,d521D,d7D42,d751F,d8CA9,d58F0,d5439,d6F14,d6295,d6355,d4E00,d4E09,d904A,d5DE6,d4E2D",
      "d53F3,d6307,d8D70,d6253,d7981,d7A7A,d5408,d6E80,d6709,d6708,d7533,d5272,d55B6,d914D,,,,",
      "TORTOISE SHELL BRACKETED CJK UNIFIED IDEOGRAPH-672C,f4E09,f4E8C,f5B89,f70B9,f6253,f76D7",
      "f52DD,f6557"]⟩,
    ⟨0x1F250, ["CIRCLED IDEOGRAPH ADVANTAGE,bACCEPT"]⟩,
    ⟨0x1F260, ["ROUNDED SYMBOL FOR FU,cLU,cSHOU,cXI,cSHUANGXI,cCAI"]⟩,
    ⟨0x1F300, ["CYCLONE,FOGGY,CLOSED UMBRELLA,NIGHT WITH STARS,SUNRISE OVER MOUNTAINS,SUNRISE",
      "CITYSCAPE AT DUSK,SUNSET OVER BUILDINGS,RAINBOW,BRIDGE AT NIGHT,WATER WAVE,VOLCANO",
      "MILKY WAY,EARTH GLOBE EUROPE-AFRICA,bAMERICAS,bASIA-AUSTRALIA,GLOBE WITH MERIDIANS",
      "NEW MOON SYMBOL,WAXING CRESCENT MOON SYMBOL,FIRST QUARTER b,WAXING GIBBOUS b",
      "FULL MOON SYMBOL,WANING GIBBOUS MOON SYMBOL,LAST QUARTER b,WANING CRESCENT b",
      "CRESCENT MOON,NEW MOON WITH FACE,FIRST QUARTER MOON WITH FACE,LAST d,FULL MOON WITH FACE",
      "SUN WITH FACE,GLOWING STAR,SHOOTING a,THERMOMETER,BLACK DROPLET,WHITE SUN",
      "aSUN WITH SMALL CLOUD,bBEHIND CLOUD,cCLOUD WITH RAIN,CLOUD WITH RAIN,bSNOW,bLIGHTNING",
      "bTORNADO,FOG,WIND BLOWING FACE,HOT DOG,TACO,BURRITO,CHESTNUT,SEEDLING,EVERGREEN TREE",
      "DECIDUOUS a,PALM a,CACTUS,HOT PEPPER,TULIP,CHERRY BLOSSOM,ROSE,HIBISCUS,SUNFLOWER,BLOSSOM",
      "EAR OF MAIZE,bRICE,HERB,FOUR LEAF CLOVER,MAPLE LEAF,FALLEN a,LEAF FLUTTERING IN WIND",
      "MUSHROOM,TOMATO,AUBERGINE,GRAPES,MELON,WATERMELON,TANGERINE,LEMON,BANANA,PINEAPPLE",
      "RED APPLE,GREEN a,PEAR,PEACH,CHERRIES,STRAWBERRY,HAMBURGER,SLICE OF PIZZA,MEAT ON BONE",
      "POULTRY LEG,RICE CRACKER,aBALL,COOKED RICE,CURRY AND RICE,STEAMING BOWL,SPAGHETTI,BREAD",
      "FRENCH FRIES,ROASTED SWEET POTATO,DANGO,ODEN,SUSHI,FRIED SHRIMP",
      "FISH CAKE WITH SWIRL DESIGN,SOFT ICE CREAM,SHAVED ICE,ICE CREAM,DOUGHNUT,COOKIE",
      "CHOCOLATE BAR,CANDY,LOLLIPOP,CUSTARD,HONEY POT,SHORTCAKE,BENTO BOX,POT OF FOOD,COOKING",
      "FORK AND KNIFE,TEACUP WITHOUT HANDLE,SAKE BOTTLE AND CUP,WINE GLASS,COCKTAIL a",
      "TROPICAL DRINK,BEER MUG,CLINKING BEER MUGS,BABY BOTTLE,FORK AND KNIFE WITH PLATE",
      "BOTTLE WITH POPPING CORK,POPCORN,RIBBON,WRAPPED PRESENT,BIRTHDAY CAKE,JACK-O-LANTERN",
      "CHRISTMAS TREE,FATHER CHRISTMAS,FIREWORKS,FIREWORK SPARKLER,BALLOON,PARTY POPPER",
      "CONFETTI BALL,TANABATA TREE,CROSSED FLAGS,PINE DECORATION,JAPANESE DOLLS,CARP STREAMER",
      "WIND CHIME,MOON VIEWING CEREMONY,SCHOOL SATCHEL,GRADUATION CAP,HEART WITH TIP ON THE LEFT",
      "BOUQUET OF FLOWERS,MILITARY MEDAL,REMINDER RIBBON,MUSICAL KEYBOARD WITH JACKS",
      "STUDIO MICROPHONE,LEVEL SLIDER,CONTROL KNOBS,BEAMED ASCENDING MUSICAL NOTES,aDESCENDING b",
      "FILM FRAMES,ADMISSION TICKETS,CAROUSEL HORSE,FERRIS WHEEL,ROLLER COASTER",
      "FISHING POLE AND FISH,MICROPHONE,MOVIE CAMERA,CINEMA,HEADPHONE,ARTIST PALETTE,TOP HAT",
      "CIRCUS TENT,TICKET,CLAPPER BOARD,PERFORMING ARTS,VIDEO GAME,DIRECT HIT,SLOT MACHINE",
      "BILLIARDS,GAME DIE,BOWLING,FLOWER PLAYING CARDS,MUSICAL NOTE,MULTIPLE MUSICAL NOTES",
      "SAXOPHONE,GUITAR,MUSICAL KEYBOARD,TRUMPET,VIOLIN,MUSICAL SCORE,RUNNING SHIRT WITH SASH",
      "TENNIS RACQUET AND BALL,SKI AND SKI BOOT,BASKETBALL aHOOP,CHEQUERED FLAG,SNOWBOARDER",
      "RUNNER,SURFER,SPORTS MEDAL,TROPHY,HORSE RACING,AMERICAN FOOTBALL,RUGBY a,SWIMMER",
      "WEIGHT LIFTER,GOLFER,RACING MOTORCYCLE,aCAR,CRICKET BAT AND BALL,VOLLEYBALL",
      "FIELD HOCKEY STICK AND BALL,ICE cPUCK,TABLE TENNIS PADDLE aBALL,SNOW CAPPED MOUNTAIN",
      "CAMPING,BEACH WITH UMBRELLA,BUILDING CONSTRUCTION,HOUSE BUILDINGS,CITYSCAPE",
      "DERELICT HOUSE BUILDING,CLASSICAL BUILDING,DESERT,DESERT ISLAND,NATIONAL PARK,STADIUM",
      "HOUSE BUILDING,aWITH GARDEN,OFFICE BUILDING,JAPANESE POST OFFICE,EUROPEAN b,HOSPITAL,BANK",
      "AUTOMATED TELLER MACHINE,HOTEL,LOVE HOTEL,CONVENIENCE STORE,SCHOOL,DEPARTMENT STORE",
      "FACTORY,IZAKAYA LANTERN,JAPANESE CASTLE,EUROPEAN a,WHITE PENNANT,BLACK a",
      "WAVING WHITE FLAG,aBLACK a,ROSETTE,BLACK ROSETTE,LABEL,BADMINTON RACQUET AND SHUTTLECOCK",
      "BOW AND ARROW,AMPHORA,EMOJI MODIFIER FITZPATRICK TYPE-1-2,d3,3"]⟩,
    ⟨0x1F400, ["RAT,MOUSE,OX,WATER BUFFALO,COW,TIGER,LEOPARD,RABBIT,CAT,DRAGON,CROCODILE",
      "WHALE,SNAIL,SNAKE,HORSE,RAM,GOAT,SHEEP,MONKEY,ROOSTER,CHICKEN,DOG,PIG,BOAR,ELEPHANT",
      "OCTOPUS,SPIRAL SHELL,BUG,ANT,HONEYBEE,LADY BEETLE,FISH,TROPICAL FISH,BLOWFISH,TURTLE",
      "HATCHING CHICK,BABY a,FRONT-FACING BABY CHICK,BIRD,PENGUIN,KOALA,POODLE,DROMEDARY CAMEL",
      "BACTRIAN a,DOLPHIN,MOUSE FACE,COW a,TIGER a,RABBIT a,CAT a,DRAGON a,SPOUTING WHALE",
      "HORSE FACE,MONKEY a,DOG a,PIG a,FROG a,HAMSTER a,WOLF a,BEAR a,PANDA a,PIG NOSE",
      "PAW PRINTS,CHIPMUNK,EYES,EYE,EAR,NOSE,MOUTH,TONGUE,WHITE UP POINTING BACKHAND INDEX",
      "aDOWN c,aLEFT c,aRIGHT c,FISTED HAND SIGN,WAVING b,OK b,THUMBS UP a,aDOWN a",
      "CLAPPING HANDS a,OPEN b,CROWN,WOMANS HAT,EYEGLASSES,NECKTIE,T-SHIRT,JEANS,DRESS,KIMONO",
      "BIKINI,WOMANS CLOTHES,PURSE,HANDBAG,POUCH,MANS SHOE,ATHLETIC a,HIGH-HEELED SHOE",
      "WOMANS SANDAL,aBOOTS,FOOTPRINTS,BUST IN SILHOUETTE,BUSTS b,BOY,GIRL,MAN,WOMAN,FAMILY",
      "MAN AND WOMAN HOLDING HANDS,TWO MEN HOLDING HANDS,aWOMEN b,POLICE OFFICER",
      "WOMAN WITH BUNNY EARS,BRIDE aVEIL,PERSON aBLOND HAIR,MAN aGUA PI MAO,bTURBAN,OLDER MAN",
      "aWOMAN,BABY,CONSTRUCTION WORKER,PRINCESS,JAPANESE OGRE,aGOBLIN,GHOST,BABY ANGEL",
      "EXTRATERRESTRIAL ALIEN,ALIEN MONSTER,IMP,SKULL,INFORMATION DESK PERSON,GUARDSMAN,DANCER",
      "LIPSTICK,NAIL POLISH,FACE MASSAGE,HAIRCUT,BARBER POLE,SYRINGE,PILL,KISS MARK,LOVE LETTER",
      "RING,GEM STONE,KISS,BOUQUET,COUPLE WITH HEART,WEDDING,BEATING HEART,BROKEN a,TWO HEARTS",
      "SPARKLING HEART,GROWING a,HEART WITH ARROW,BLUE HEART,GREEN a,YELLOW a,PURPLE a",
      "HEART WITH RIBBON,REVOLVING HEARTS,HEART DECORATION,DIAMOND SHAPE WITH A DOT INSIDE",
      "ELECTRIC LIGHT BULB,ANGER SYMBOL,BOMB,SLEEPING SYMBOL,COLLISION a,SPLASHING SWEAT SYMBOL",
      "DROPLET,DASH SYMBOL,PILE OF POO,FLEXED BICEPS,DIZZY SYMBOL,SPEECH BALLOON,THOUGHT a",
      "WHITE FLOWER,HUNDRED POINTS SYMBOL,MONEY BAG,CURRENCY EXCHANGE,HEAVY DOLLAR SIGN",
      "CREDIT CARD,BANKNOTE WITH YEN SIGN,bDOLLAR a,bEURO a,bPOUND a,MONEY aWINGS",
      "CHART aUPWARDS TREND AND YEN SIGN,SEAT,PERSONAL COMPUTER,BRIEFCASE,MINIDISC,FLOPPY DISK",
      "OPTICAL DISC,DVD,FILE FOLDER,OPEN FILE FOLDER,PAGE WITH CURL,aFACING UP,CALENDAR",
      "TEAR-OFF CALENDAR,CARD INDEX,CHART WITH UPWARDS TREND,bDOWNWARDS a,BAR CHART,CLIPBOARD",
      "PUSHPIN,ROUND PUSHPIN,PAPERCLIP,STRAIGHT RULER,TRIANGULAR a,BOOKMARK TABS,LEDGER,NOTEBOOK",
      "NOTEBOOK WITH DECORATIVE COVER,CLOSED BOOK,OPEN a,GREEN a,BLUE a,ORANGE a,BOOKS",
      "NAME BADGE,SCROLL,MEMO,TELEPHONE RECEIVER,PAGER,FAX MACHINE,SATELLITE ANTENNA",
      "PUBLIC ADDRESS LOUDSPEAKER,CHEERING MEGAPHONE,OUTBOX TRAY,INBOX a,PACKAGE,E-MAIL SYMBOL",
      "INCOMING ENVELOPE,ENVELOPE WITH DOWNWARDS ARROW ABOVE,CLOSED MAILBOX WITH LOWERED FLAG",
      "cRAISED a,OPEN d,cLOWERED a,POSTBOX,POSTAL HORN,NEWSPAPER,MOBILE PHONE",
      "aPHONE WITH RIGHTWARDS ARROW AT LEFT,VIBRATION MODE,MOBILE PHONE OFF,NO MOBILE PHONES",
      "ANTENNA WITH BARS,CAMERA,CAMERA WITH FLASH,VIDEO CAMERA,TELEVISION,RADIO,VIDEOCASSETTE",
      "FILM PROJECTOR,PORTABLE STEREO,PRAYER BEADS"]⟩,
    ⟨0x1F500, ["TWISTED RIGHTWARDS ARROWS,CLOCKWISE aAND LEFTWARDS OPEN CIRCLE ARROWS",
      "fARROWS WITH CIRCLED ONE OVERLAY,aDOWNWARDS aUPWARDS bARROWS,ANTICLOCKWISE f",
      "LOW BRIGHTNESS SYMBOL,HIGH b,SPEAKER WITH CANCELLATION STROKE,SPEAKER",
      "SPEAKER WITH ONE SOUND WAVE,bTHREE aWAVES,BATTERY,ELECTRIC PLUG",
      "LEFT-POINTING MAGNIFYING GLASS,RIGHT-c,LOCK WITH INK PEN,CLOSED LOCK WITH KEY,KEY,LOCK",
      "OPEN LOCK,BELL,BELL WITH CANCELLATION STROKE,BOOKMARK,LINK SYMBOL,RADIO BUTTON",
      "BACK WITH LEFTWARDS ARROW ABOVE,END d,ON aEXCLAMATION MARK WITH LEFT RIGHT ARROW ABOVE",
      "SOON aRIGHTWARDS ARROW ABOVE,TOP aUPWARDS b,NO ONE UNDER EIGHTEEN SYMBOL,KEYCAP TEN",
      "INPUT SYMBOL FOR LATIN CAPITAL LETTERS,dSMALL a,cNUMBERS,cSYMBOLS,cLATIN LETTERS,FIRE",
      "ELECTRIC TORCH,WRENCH,HAMMER,NUT AND BOLT,HOCHO,PISTOL,MICROSCOPE,TELESCOPE,CRYSTAL BALL",
      "SIX POINTED STAR WITH MIDDLE DOT,JAPANESE SYMBOL FOR BEGINNER,TRIDENT EMBLEM",
      "BLACK SQUARE BUTTON,WHITE b,LARGE RED CIRCLE,aBLUE a,aORANGE DIAMOND,aBLUE a",
      "SMALL ORANGE a,aBLUE a,UP-POINTING RED TRIANGLE,DOWN-c,UP-aSMALL RED TRIANGLE,DOWN-d",
      "LOWER RIGHT SHADOWED WHITE CIRCLE,UPPER d,CIRCLED CROSS POMMEE",
      "CROSS POMMEE WITH HALF-CIRCLE BELOW,aPOMMEE,NOTCHED LEFT SEMICIRCLE WITH THREE DOTS",
      "aRIGHT d,SYMBOL FOR MARKS CHAPTER,WHITE LATIN CROSS,HEAVY b,CELTIC CROSS,OM SYMBOL",
      "DOVE OF PEACE,KAABA,MOSQUE,SYNAGOGUE,MENORAH WITH NINE BRANCHES,BOWL OF HYGIEIA",
      "CLOCK FACE ONE OCLOCK,bTWO a,bTHREE a,bFOUR a,bFIVE a,bSIX a,bSEVEN a,bEIGHT a,bNINE a",
      "bTEN a,bELEVEN a,bTWELVE a,bONE-THIRTY,bTWO-a,bTHREE-a,bFOUR-a,bFIVE-a,bSIX-a,bSEVEN-a",
      "bEIGHT-a,bNINE-a,bTEN-a,bELEVEN-a,bTWELVE-a,RIGHT SPEAKER,aSPEAKER WITH ONE SOUND WAVE",
      "cTHREE aWAVES,BULLHORN,BULLHORN WITH SOUND WAVES,RINGING BELL,BOOK,CANDLE",
      "MANTELPIECE CLOCK,BLACK SKULL AND CROSSBONES,NO PIRACY,HOLE",
      "MAN IN BUSINESS SUIT LEVITATING,SLEUTH OR SPY,DARK SUNGLASSES,SPIDER,SPIDER WEB,JOYSTICK",
      "MAN DANCING,LEFT HAND TELEPHONE RECEIVER,TELEPHONE RECEIVER WITH PAGE",
      "RIGHT HAND TELEPHONE RECEIVER,WHITE TOUCHTONE TELEPHONE,BLACK b,TELEPHONE ON TOP OF MODEM",
      "CLAMSHELL MOBILE PHONE,BACK OF ENVELOPE,STAMPED ENVELOPE,ENVELOPE WITH LIGHTNING",
      "FLYING ENVELOPE,PEN OVER STAMPED ENVELOPE,LINKED PAPERCLIPS,BLACK PUSHPIN",
      "LOWER LEFT PENCIL,bBALLPOINT PEN,bFOUNTAIN a,bPAINTBRUSH,bCRAYON,LEFT WRITING HAND",
      "TURNED OK HAND SIGN,RAISED HAND WITH FINGERS SPLAYED",
      "REVERSED RAISED HAND WITH FINGERS SPLAYED,aTHUMBS UP SIGN,bDOWN a,aVICTORY HAND",
      "aHAND WITH MIDDLE FINGER EXTENDED,RAISED bPART BETWEEN MIDDLE AND RING FINGERS",
      "WHITE DOWN POINTING LEFT HAND INDEX,SIDEWAYS WHITE LEFT POINTING INDEX,bRIGHT b",
      "aBLACK LEFT b,bRIGHT b,BLACK LEFT POINTING BACKHAND a,aRIGHT c",
      "SIDEWAYS WHITE UP POINTING a,bDOWN b,aBLACK UP b,bDOWN b,BLACK UP POINTING BACKHAND a",
      "aDOWN c,aHEART,DESKTOP COMPUTER,KEYBOARD AND MOUSE,THREE NETWORKED COMPUTERS,PRINTER",
      "POCKET CALCULATOR,BLACK HARD SHELL FLOPPY DISK,WHITE d,SOFT SHELL FLOPPY DISK",
      "TAPE CARTRIDGE,WIRED KEYBOARD,ONE BUTTON MOUSE,TWO b,THREE b,TRACKBALL",
      "OLD PERSONAL COMPUTER,HARD DISK,SCREEN,PRINTER ICON,FAX a,OPTICAL DISC ICON",
      "DOCUMENT WITH TEXT,bTEXT AND PICTURE,bPICTURE,FRAME b,bTILES,bAN X,BLACK FOLDER,FOLDER",
      "OPEN FOLDER,CARD INDEX DIVIDERS,aFILE BOX,FILE CABINET,EMPTY NOTE,aNOTE PAGE,bPAD,NOTE",
      "NOTE PAGE,aPAD,EMPTY DOCUMENT,aPAGE,aPAGES,DOCUMENT,PAGE,PAGES,WASTEBASKET",
      "SPIRAL NOTE PAD,aCALENDAR a,DESKTOP WINDOW,MINIMIZE,MAXIMIZE,OVERLAP",
      "CLOCKWISE RIGHT AND LEFT SEMICIRCLE ARROWS,CANCELLATION X,INCREASE FONT SIZE SYMBOL",
      "DECREASE c,COMPRESSION,OLD KEY,ROLLED-UP NEWSPAPER,PAGE WITH CIRCLED TEXT,STOCK CHART",
      "DAGGER KNIFE,LIPS,SPEAKING HEAD IN SILHOUETTE,THREE RAYS ABOVE,bBELOW,bLEFT,bRIGHT",
      "LEFT SPEECH BUBBLE,RIGHT b,TWO aBUBBLES,THREE b,LEFT THOUGHT BUBBLE,RIGHT b,LEFT ANGER a",
      "RIGHT b,MOOD BUBBLE,LIGHTNING MOOD BUBBLE,aMOOD,BALLOT BOX WITH BALLOT,aSCRIPT X",
      "aBOX WITH SCRIPT X,aBOLD SCRIPT X,aBOX WITH BOLD SCRIPT X,LIGHT CHECK MARK",
      "BALLOT BOX WITH BOLD CHECK,WORLD MAP,MOUNT FUJI,TOKYO TOWER,STATUE OF LIBERTY",
      "SILHOUETTE aJAPAN,MOYAI"]⟩,
    ⟨0x1F600, ["GRINNING FACE,aFACE WITH SMILING EYES,FACE WITH TEARS OF JOY",
      "SMILING FACE WITH OPEN MOUTH,dMOUTH AND SMILING EYES,fCOLD SWEAT,fTIGHTLY-CLOSED EYES",
      "cHALO,cHORNS,WINKING FACE,SMILING FACE WITH SMILING EYES,FACE SAVOURING DELICIOUS FOOD",
      "RELIEVED FACE,SMILING FACE WITH HEART-SHAPED EYES,cSUNGLASSES,SMIRKING FACE,NEUTRAL a",
      "EXPRESSIONLESS a,UNAMUSED a,FACE WITH COLD SWEAT,PENSIVE FACE,CONFUSED a,CONFOUNDED a",
      "KISSING a,FACE THROWING A KISS,KISSING FACE WITH SMILING EYES,cCLOSED a",
      "FACE WITH STUCK-OUT TONGUE,dTONGUE AND WINKING EYE,fTIGHTLY-CLOSED EYES,DISAPPOINTED FACE",
      "WORRIED a,ANGRY a,POUTING a,CRYING a,PERSEVERING a,FACE WITH LOOK OF TRIUMPH",
      "DISAPPOINTED BUT RELIEVED FACE,FROWNING FACE WITH OPEN MOUTH,ANGUISHED FACE,FEARFUL a",
      "WEARY a,SLEEPY a,TIRED a,GRIMACING a,LOUDLY CRYING FACE,FACE WITH OPEN MOUTH,HUSHED FACE",
      "FACE WITH OPEN MOUTH AND COLD SWEAT,aSCREAMING IN FEAR,ASTONISHED FACE,FLUSHED a",
      "SLEEPING a,DIZZY a,FACE WITHOUT MOUTH,aWITH MEDICAL MASK",
      "GRINNING CAT FACE WITH SMILING EYES,CAT FACE WITH TEARS OF JOY",
      "SMILING CAT FACE WITH OPEN MOUTH,dHEART-SHAPED EYES,CAT FACE WITH WRY SMILE",
      "KISSING CAT FACE WITH CLOSED EYES,POUTING aFACE,CRYING b,WEARY b,SLIGHTLY FROWNING a",
      "aSMILING a,UPSIDE-DOWN a,FACE WITH ROLLING EYES,bNO GOOD GESTURE,bOK GESTURE",
      "PERSON BOWING DEEPLY,SEE-NO-EVIL MONKEY,HEAR-c,SPEAK-c,HAPPY PERSON RAISING ONE HAND",
      "PERSON RAISING BOTH HANDS IN CELEBRATION,aFROWNING,aWITH POUTING FACE,bFOLDED HANDS",
      "NORTH WEST POINTING LEAF,SOUTH c,NORTH EAST b,SOUTH c,TURNED NORTH WEST POINTING LEAF",
      "aSOUTH c,aNORTH EAST b,aSOUTH c,NORTH WEST POINTING VINE a,SOUTH d,NORTH EAST c,SOUTH d",
      "HEAVY NORTH WEST POINTING VINE LEAF,aSOUTH d,aNORTH EAST c,aSOUTH d",
      "NORTH WEST POINTING BUD,SOUTH c,NORTH EAST b,SOUTH c,HEAVY NORTH WEST POINTING BUD",
      "aSOUTH c,aNORTH EAST b,aSOUTH c,HOLLOW QUILT SQUARE ORNAMENT,cORNAMENT IN BLACK SQUARE",
      "SOLID bORNAMENT,cORNAMENT IN BLACK SQUARE,LEFTWARDS ROCKET,UPWARDS a,RIGHTWARDS a",
      "DOWNWARDS a,SCRIPT LIGATURE ET ORNAMENT,HEAVY SCRIPT LIGATURE ET ORNAMENT",
      "LIGATURE OPEN ET ORNAMENT,HEAVY LIGATURE OPEN ET ORNAMENT,aAMPERSAND ORNAMENT,SWASH b",
      "SANS-SERIF HEAVY DOUBLE TURNED COMMA QUOTATION MARK ORNAMENT",
      "dCOMMA QUOTATION MARK ORNAMENT,cLOW DOUBLE COMMA QUOTATION MARK ORNAMENT",
      "HEAVY INTERROBANG ORNAMENT,SANS-SERIF INTERROBANG ORNAMENT",
      "HEAVY SANS-SERIF INTERROBANG ORNAMENT,VERY HEAVY SOLIDUS,bREVERSE SOLIDUS,CHECKER BOARD",
      "REVERSE CHECKER BOARD,ROCKET,HELICOPTER,STEAM LOCOMOTIVE,RAILWAY CAR,HIGH-SPEED TRAIN",
      "bTRAIN WITH BULLET NOSE,TRAIN,METRO,LIGHT RAIL,STATION,TRAM,TRAM CAR,BUS,ONCOMING BUS",
      "TROLLEYBUS,BUS STOP,MINIBUS,AMBULANCE,FIRE ENGINE,POLICE CAR,ONCOMING POLICE CAR,TAXI",
      "ONCOMING TAXI,AUTOMOBILE,ONCOMING AUTOMOBILE,RECREATIONAL VEHICLE,DELIVERY TRUCK",
      "ARTICULATED LORRY,TRACTOR,MONORAIL,MOUNTAIN RAILWAY,SUSPENSION a,MOUNTAIN CABLEWAY",
      "AERIAL TRAMWAY,SHIP,ROWBOAT,SPEEDBOAT,HORIZONTAL TRAFFIC LIGHT,VERTICAL b",
      "CONSTRUCTION SIGN,POLICE CARS REVOLVING LIGHT,TRIANGULAR FLAG ON POST,DOOR,NO ENTRY SIGN",
      "SMOKING SYMBOL,NO SMOKING SYMBOL,PUT LITTER IN ITS PLACE SYMBOL,DO NOT LITTER SYMBOL",
      "POTABLE WATER SYMBOL,NON-POTABLE WATER SYMBOL,BICYCLE,NO BICYCLES,BICYCLIST",
      "MOUNTAIN BICYCLIST,PEDESTRIAN,NO PEDESTRIANS,CHILDREN CROSSING,MENS SYMBOL,WOMENS a",
      "RESTROOM,BABY SYMBOL,TOILET,WATER CLOSET,SHOWER,BATH,BATHTUB,PASSPORT CONTROL,CUSTOMS",
      "BAGGAGE CLAIM,LEFT LUGGAGE,TRIANGLE WITH ROUNDED CORNERS,PROHIBITED SIGN",
      "CIRCLED INFORMATION SOURCE,BOYS SYMBOL,GIRLS a,COUCH AND LAMP,SLEEPING ACCOMMODATION",
      "SHOPPING BAGS,BELLHOP BELL,BED,PLACE OF WORSHIP,OCTAGONAL SIGN,SHOPPING TROLLEY,STUPA",
      "PAGODA,HINDU TEMPLE,HUT,ELEVATOR"]⟩,
    ⟨0x1F6DD, ["PLAYGROUND SLIDE,WHEEL,RING BUOY,HAMMER AND WRENCH,SHIELD,OIL DRUM,MOTORWAY",
      "RAILWAY TRACK,MOTOR BOAT,UP-POINTING MILITARY AIRPLANE,bAIRPLANE,bSMALL AIRPLANE",
      "SMALL AIRPLANE,NORTHEAST-POINTING AIRPLANE,AIRPLANE DEPARTURE,aARRIVING,,,,SATELLITE",
      "ONCOMING FIRE ENGINE,DIESEL LOCOMOTIVE,PASSENGER SHIP,SCOOTER,MOTOR SCOOTER,CANOE,SLED",
      "FLYING SAUCER,SKATEBOARD,AUTO RICKSHAW,PICKUP TRUCK,ROLLER SKATE"]⟩,
    ⟨0x1F700, ["ALCHEMICAL SYMBOL FOR QUINTESSENCE,cAIR,cFIRE,cEARTH,cWATER,cAQUAFORTIS",
      "cAQUA REGIA,dREGIA-2,dVITAE,dVITAE-2,cVINEGAR,cVINEGAR-2,1,cSULFUR,cPHILOSOPHERS SULFUR",
      "cBLACK a,cMERCURY SUBLIMATE,dSUBLIMATE-2,1,cCINNABAR,cSALT,cNITRE,cVITRIOL,cVITRIOL-2",
      "cROCK SALT,dSALT-2,cGOLD,cSILVER,cIRON ORE,dORE-2,cCROCUS OF IRON,cREGULUS b,cCOPPER ORE",
      "cIRON-COPPER ORE,cSUBLIMATE OF COPPER,cCROCUS b,eCOPPER-2,cCOPPER ANTIMONIATE",
      "cSALT OF COPPER ANTIMONIATE,cSUBLIMATE aSALT OF COPPER,cVERDIGRIS,cTIN ORE,cLEAD a",
      "cANTIMONY a,cSUBLIMATE OF ANTIMONY,cSALT b,cSUBLIMATE aSALT OF ANTIMONY",
      "cVINEGAR aANTIMONY,cREGULUS b,eANTIMONY-2,cREGULUS,cREGULUS-2,2,cALKALI,cALKALI-2",
      "cMARCASITE,cSAL-AMMONIAC,cARSENIC,cREALGAR,cREALGAR-2,cAURIPIGMENT,cBISMUTH ORE,cTARTAR",
      "cTARTAR-2,cQUICK LIME,cBORAX,cBORAX-2,1,cALUM,cOIL,cSPIRIT,cTINCTURE,cGUM,cWAX,cPOWDER",
      "cCALX,cTUTTY,cCAPUT MORTUUM,cSCEPTER OF JOVE,cCADUCEUS,cTRIDENT,cSTARRED TRIDENT",
      "cLODESTONE,cSOAP,cURINE,cHORSE DUNG,cASHES,cPOT ASHES,cBRICK,cPOWDERED BRICK,cAMALGAM",
      "cSTRATUM SUPER STRATUM,eSTRATUM-2,cSUBLIMATION,cPRECIPITATE,cDISTILL,cDISSOLVE",
      "cDISSOLVE-2,cPURIFY,cPUTREFACTION,cCRUCIBLE,cCRUCIBLE-2,3,cALEMBIC,cBATH OF MARY,eVAPOURS",
      "cRETORT,cHOUR,cNIGHT,cDAY-NIGHT,cMONTH,cHALF DRAM,dOUNCE"]⟩,
    ⟨0x1F780, ["BLACK LEFT-POINTING ISOSCELES RIGHT TRIANGLE,aUP-d,aRIGHT-d,aDOWN-d",
      "aSLIGHTLY SMALL CIRCLE,MEDIUM BOLD WHITE a,BOLD WHITE CIRCLE,HEAVY b",
      "VERY HEAVY WHITE CIRCLE,EXTREMELY c,WHITE CIRCLE CONTAINING BLACK SMALL CIRCLE",
      "ROUND TARGET,BLACK TINY SQUARE,aSLIGHTLY SMALL SQUARE,LIGHT WHITE SQUARE,MEDIUM b,BOLD b",
      "HEAVY b,VERY HEAVY WHITE SQUARE,EXTREMELY c",
      "WHITE SQUARE CONTAINING BLACK VERY SMALL SQUARE,dMEDIUM SQUARE,SQUARE TARGET",
      "BLACK TINY DIAMOND,aVERY SMALL DIAMOND,aMEDIUM b",
      "WHITE DIAMOND CONTAINING BLACK VERY SMALL DIAMOND,dMEDIUM DIAMOND,DIAMOND TARGET",
      "BLACK TINY LOZENGE,aVERY SMALL LOZENGE,aMEDIUM b",
      "WHITE LOZENGE CONTAINING BLACK SMALL LOZENGE,THIN GREEK CROSS,LIGHT b,MEDIUM b,BOLD b",
      "VERY BOLD GREEK CROSS,aHEAVY b,EXTREMELY c,THIN SALTIRE,LIGHT a,MEDIUM a,BOLD a,HEAVY a",
      "VERY HEAVY SALTIRE,EXTREMELY b,LIGHT FIVE SPOKED ASTERISK,MEDIUM c,BOLD c,HEAVY c",
      "VERY HEAVY FIVE SPOKED ASTERISK,EXTREMELY d,LIGHT SIX SPOKED ASTERISK,MEDIUM c,BOLD c",
      "HEAVY c,VERY HEAVY SIX SPOKED ASTERISK,EXTREMELY d,LIGHT EIGHT SPOKED ASTERISK,MEDIUM c",
      "BOLD c,HEAVY c,VERY HEAVY EIGHT SPOKED ASTERISK,LIGHT THREE POINTED BLACK STAR,MEDIUM d",
      "THREE POINTED BLACK STAR,MEDIUM THREE POINTED PINWHEEL STAR,LIGHT FOUR aBLACK a,MEDIUM d",
      "FOUR POINTED BLACK STAR,MEDIUM FOUR POINTED PINWHEEL STAR",
      "REVERSE LIGHT FOUR POINTED PINWHEEL STAR,LIGHT FIVE POINTED BLACK STAR,HEAVY d",
      "MEDIUM SIX c,HEAVY d,SIX POINTED PINWHEEL STAR,MEDIUM EIGHT POINTED BLACK STAR,HEAVY d",
      "VERY HEAVY EIGHT POINTED BLACK STAR,HEAVY EIGHT POINTED PINWHEEL STAR",
      "LIGHT TWELVE aBLACK a,HEAVY d,cPINWHEEL a,CIRCLED TRIANGLE,NEGATIVE CIRCLED TRIANGLE",
      "CIRCLED SQUARE,NEGATIVE CIRCLED SQUARE"]⟩,
    ⟨0x1F7E0, ["LARGE ORANGE CIRCLE,aYELLOW a,aGREEN a,aPURPLE a,aBROWN a,aRED SQUARE,aBLUE a",
      "aORANGE a,aYELLOW a,aGREEN a,aPURPLE a,aBROWN a,,,,,HEAVY EQUALS SIGN"]⟩,
    ⟨0x1F800, ["LEFTWARDS ARROW WITH SMALL TRIANGLE ARROWHEAD,UPWARDS e,RIGHTWARDS e",
      "DOWNWARDS e,LEFTWARDS bMEDIUM b,UPWARDS e,RIGHTWARDS e,DOWNWARDS e,LEFTWARDS bLARGE b",
      "UPWARDS e,RIGHTWARDS e,DOWNWARDS e,,,,,LEFTWARDS bSMALL EQUILATERAL a,UPWARDS e",
      "RIGHTWARDS e,DOWNWARDS e,LEFTWARDS bEQUILATERAL ARROWHEAD,UPWARDS d,RIGHTWARDS d",
      "DOWNWARDS d,HEAVY LEFTWARDS ARROW WITH EQUILATERAL ARROWHEAD,aUPWARDS d,aRIGHTWARDS d",
      "aDOWNWARDS d,aLEFTWARDS bLARGE EQUILATERAL ARROWHEAD,aUPWARDS e,aRIGHTWARDS e",
      "aDOWNWARDS e,LEFTWARDS TRIANGLE-HEADED ARROW WITH NARROW SHAFT,UPWARDS f,RIGHTWARDS f",
      "DOWNWARDS f,LEFTWARDS dMEDIUM a,UPWARDS f,RIGHTWARDS f,DOWNWARDS f,LEFTWARDS dBOLD a",
      "UPWARDS f,RIGHTWARDS f,DOWNWARDS f,LEFTWARDS dHEAVY a,UPWARDS f,RIGHTWARDS f,DOWNWARDS f",
      "LEFTWARDS dVERY HEAVY SHAFT,UPWARDS g,RIGHTWARDS g,DOWNWARDS g",
      "LEFTWARDS FINGER-POST ARROW,UPWARDS c,RIGHTWARDS c,DOWNWARDS c,LEFTWARDS SQUARED ARROW",
      "UPWARDS b,RIGHTWARDS b,DOWNWARDS b,LEFTWARDS COMPRESSED a,UPWARDS b,RIGHTWARDS b",
      "DOWNWARDS b,LEFTWARDS HEAVY COMPRESSED ARROW,UPWARDS c,RIGHTWARDS c,DOWNWARDS c",
      "LEFTWARDS aARROW,UPWARDS b,RIGHTWARDS b,DOWNWARDS b"]⟩,
    ⟨0x1F850, ["LEFTWARDS SANS-SERIF ARROW,UPWARDS c,RIGHTWARDS c,DOWNWARDS c",
      "NORTH WEST SANS-SERIF ARROW,aEAST c,SOUTH d,aWEST c,LEFT RIGHT c,UP DOWN c"]⟩,
    ⟨0x1F860, ["WIDE-HEADED LEFTWARDS LIGHT BARB ARROW,bUPWARDS c,bRIGHTWARDS c,bDOWNWARDS c",
      "bNORTH WEST LIGHT BARB ARROW,cEAST c,bSOUTH d,cWEST c,bLEFTWARDS BARB ARROW,bUPWARDS b",
      "bRIGHTWARDS b,bDOWNWARDS b,bNORTH WEST BARB ARROW,cEAST b,bSOUTH c,cWEST b",
      "bLEFTWARDS MEDIUM b,bUPWARDS c,bRIGHTWARDS c,bDOWNWARDS c,bNORTH WEST MEDIUM BARB ARROW",
      "cEAST c,bSOUTH d,cWEST c,bLEFTWARDS HEAVY BARB ARROW,bUPWARDS c,bRIGHTWARDS c",
      "bDOWNWARDS c,bNORTH WEST HEAVY BARB ARROW,cEAST c,bSOUTH d,cWEST c,bLEFTWARDS VERY c",
      "bUPWARDS d,bRIGHTWARDS d,bDOWNWARDS d,bNORTH WEST VERY HEAVY BARB ARROW,cEAST d,bSOUTH e",
      "cWEST d"]⟩,
    ⟨0x1F890, ["LEFTWARDS TRIANGLE ARROWHEAD,UPWARDS b,RIGHTWARDS b,DOWNWARDS b",
      "LEFTWARDS WHITE ARROW WITHIN TRIANGLE ARROWHEAD,UPWARDS e,RIGHTWARDS e,DOWNWARDS e",
      "LEFTWARDS ARROW WITH NOTCHED TAIL,UPWARDS d,RIGHTWARDS d,DOWNWARDS d",
      "HEAVY aSHAFT WIDTH ONE,dTWO THIRDS,dONE HALF,eTHIRD,LEFTWARDS BOTTOM-SHADED WHITE ARROW",
      "RIGHTWARDS BOTTOM c,LEFTWARDS TOP c,RIGHTWARDS d,LEFTWARDS LEFT-c,RIGHTWARDS RIGHT-c",
      "LEFTWARDS d,RIGHTWARDS LEFT-c,LEFTWARDS BACK-TILTED SHADOWED WHITE ARROW,RIGHTWARDS e",
      "LEFTWARDS FRONT-d,RIGHTWARDS e,WHITE ARROW SHAFT WIDTH ONE,dTWO THIRDS,,",
      "ARROW POINTING UPWARDS THEN NORTH WEST,bRIGHTWARDS aCURVING SOUTH WEST"]⟩,
    ⟨0x1F900, ["CIRCLED CROSS FORMEE WITH FOUR DOTS,dTWO a,bFORMEE",
      "LEFT HALF CIRCLE WITH FOUR DOTS,dTHREE a,dTWO a,dDOT,bCIRCLE,DOWNWARD FACING HOOK",
      "bNOTCHED HOOK,bHOOK WITH DOT,bNOTCHED HOOK WITH DOT,PINCHED FINGERS,WHITE HEART,BROWN a",
      "PINCHING HAND,ZIPPER-MOUTH FACE,MONEY-b,FACE WITH THERMOMETER,NERD FACE,THINKING a",
      "FACE WITH HEAD-BANDAGE,ROBOT FACE,HUGGING a,SIGN OF THE HORNS,CALL ME HAND",
      "RAISED BACK OF HAND,LEFT-FACING FIST,RIGHT-b,HANDSHAKE",
      "HAND WITH INDEX AND MIDDLE FINGERS CROSSED,I LOVE YOU HAND SIGN,FACE WITH COWBOY HAT",
      "CLOWN FACE,NAUSEATED a,ROLLING ON THE FLOOR LAUGHING,DROOLING FACE,LYING a,FACE PALM",
      "SNEEZING FACE,FACE WITH ONE EYEBROW RAISED,GRINNING FACE WITH STAR EYES",
      "cONE LARGE AND ONE SMALL EYE,FACE WITH FINGER COVERING CLOSED LIPS",
      "SERIOUS FACE WITH SYMBOLS COVERING MOUTH,SMILING bSMILING EYES AND HAND COVERING MOUTH",
      "FACE WITH OPEN MOUTH VOMITING,SHOCKED FACE WITH EXPLODING HEAD,PREGNANT WOMAN",
      "BREAST-FEEDING,PALMS UP TOGETHER,SELFIE,PRINCE,MAN IN TUXEDO,MOTHER CHRISTMAS,SHRUG",
      "PERSON DOING CARTWHEEL,JUGGLING,FENCER,MODERN PENTATHLON,WRESTLERS,WATER POLO,HANDBALL",
      "DIVING MASK,WILTED FLOWER,DRUM WITH DRUMSTICKS,CLINKING GLASSES,TUMBLER GLASS,SPOON",
      "GOAL NET,RIFLE,FIRST PLACE MEDAL,SECOND b,THIRD b,BOXING GLOVE,MARTIAL ARTS UNIFORM",
      "CURLING STONE,LACROSSE STICK AND BALL,SOFTBALL,FLYING DISC,CROISSANT,AVOCADO,CUCUMBER",
      "BACON,POTATO,CARROT,BAGUETTE BREAD,GREEN SALAD,SHALLOW PAN OF FOOD,STUFFED FLATBREAD,EGG",
      "GLASS OF MILK,PEANUTS,KIWIFRUIT,PANCAKES,DUMPLING,FORTUNE COOKIE,TAKEOUT BOX,CHOPSTICKS",
      "BOWL WITH SPOON,CUP aSTRAW,COCONUT,BROCCOLI,PIE,PRETZEL,CUT OF MEAT,SANDWICH,CANNED FOOD",
      "LEAFY GREEN,MANGO,MOON CAKE,BAGEL,SMILING FACE WITH SMILING EYES AND THREE HEARTS",
      "YAWNING FACE,SMILING FACE WITH TEAR,FACE WITH PARTY HORN AND PARTY HAT",
      "bUNEVEN EYES aWAVY MOUTH,OVERHEATED FACE,FREEZING a,NINJA,DISGUISED FACE",
      "FACE HOLDING BACK TEARS,aWITH PLEADING EYES,SARI,LAB COAT,GOGGLES,HIKING BOOT,FLAT SHOE",
      "CRAB,LION FACE,SCORPION,TURKEY,UNICORN FACE,EAGLE,DUCK,BAT,SHARK,OWL,FOX FACE,BUTTERFLY",
      "DEER,GORILLA,LIZARD,RHINOCEROS,SHRIMP,SQUID,GIRAFFE FACE,ZEBRA a,HEDGEHOG,SAUROPOD,T-REX",
      "CRICKET,KANGAROO,LLAMA,PEACOCK,HIPPOPOTAMUS,PARROT,RACCOON,LOBSTER,MOSQUITO,MICROBE",
      "BADGER,SWAN,MAMMOTH,DODO,SLOTH,OTTER,ORANGUTAN,SKUNK,FLAMINGO,OYSTER,BEAVER,BISON,SEAL",
      "GUIDE DOG,PROBING CANE,EMOJI COMPONENT RED HAIR,bCURLY a,bBALD,bWHITE HAIR,BONE,LEG,FOOT",
      "TOOTH,SUPERHERO,SUPERVILLAIN,SAFETY VEST,EAR WITH HEARING AID,MOTORIZED WHEELCHAIR",
      "MANUAL a,MECHANICAL ARM,aLEG,CHEESE WEDGE,CUPCAKE,SALT SHAKER,BEVERAGE BOX,GARLIC,ONION",
      "FALAFEL,WAFFLE,BUTTER,MATE DRINK,ICE CUBE,BUBBLE TEA,TROLL,STANDING PERSON,KNEELING a",
      "DEAF a,FACE WITH MONOCLE,ADULT,CHILD,OLDER ADULT,BEARDED PERSON,PERSON WITH HEADSCARF",
      "aIN STEAMY ROOM,aCLIMBING,aIN LOTUS POSITION,MAGE,FAIRY,VAMPIRE,MERPERSON,ELF,GENIE",
      "ZOMBIE,BRAIN,ORANGE HEART,BILLED CAP,SCARF,GLOVES,COAT,SOCKS,RED GIFT ENVELOPE",
      "FIRECRACKER,JIGSAW PUZZLE PIECE,TEST TUBE,PETRI DISH,DNA DOUBLE HELIX,COMPASS,ABACUS",
      "FIRE EXTINGUISHER,TOOLBOX,BRICK,MAGNET,LUGGAGE,LOTION BOTTLE,SPOOL OF THREAD,BALL aYARN",
      "SAFETY PIN,TEDDY BEAR,BROOM,BASKET,ROLL OF PAPER,BAR aSOAP,SPONGE,RECEIPT,NAZAR AMULET"]⟩,
    ⟨0x1FA00, ["NEUTRAL CHESS KING,bQUEEN,bROOK,bBISHOP,bKNIGHT,bPAWN",
      "WHITE aKNIGHT ROTATED FORTY-FIVE DEGREES,BLACK f,NEUTRAL f,WHITE aKING aNINETY DEGREES",
      "bQUEEN c,bROOK c,bBISHOP c,bKNIGHT c,bPAWN c,BLACK aKING c,bQUEEN c,bROOK c,bBISHOP c",
      "bKNIGHT c,bPAWN c,NEUTRAL aKING c,bQUEEN c,bROOK c,bBISHOP c,bKNIGHT c,bPAWN c",
      "WHITE aKNIGHT aONE HUNDRED THIRTY-FIVE DEGREES,BLACK h,NEUTRAL h,WHITE aTURNED KING",
      "cQUEEN,cROOK,cBISHOP,cKNIGHT,cPAWN,BLACK bKING,cQUEEN,cROOK,cBISHOP,cKNIGHT,cPAWN",
      "NEUTRAL bKING,cQUEEN,cROOK,cBISHOP,cKNIGHT,cPAWN",
      "WHITE aKNIGHT ROTATED TWO HUNDRED TWENTY-FIVE DEGREES,BLACK h,NEUTRAL h",
      "WHITE aKING cSEVENTY DEGREES,bQUEEN e,bROOK e,bBISHOP e,bKNIGHT e,bPAWN e,BLACK aKING e",
      "bQUEEN e,bROOK e,bBISHOP e,bKNIGHT e,bPAWN e,NEUTRAL aKING e,bQUEEN e,bROOK e,bBISHOP e",
      "bKNIGHT e,bPAWN e,WHITE aKNIGHT aTHREE aFIFTEEN a,BLACK g,NEUTRAL g,WHITE aEQUIHOPPER",
      "BLACK b,NEUTRAL b,WHITE aEQUIHOPPER ROTATED NINETY DEGREES,BLACK e,NEUTRAL e",
      "WHITE aKNIGHT-QUEEN,cROOK,cBISHOP,BLACK bQUEEN,cROOK,cBISHOP"]⟩,
    ⟨0x1FA60, ["XIANGQI RED GENERAL,bMANDARIN,bELEPHANT,bHORSE,bCHARIOT,bCANNON,bSOLDIER",
      "aBLACK GENERAL,bMANDARIN,bELEPHANT,bHORSE,bCHARIOT,bCANNON,bSOLDIER,,,BALLET SHOES",
      "ONE-PIECE SWIMSUIT,BRIEFS,SHORTS,THONG SANDAL,,,,DROP OF BLOOD,ADHESIVE BANDAGE",
      "STETHOSCOPE,X-RAY,CRUTCH,,,,YO-YO,KITE,PARACHUTE,BOOMERANG,MAGIC WAND,PINATA",
      "NESTING DOLLS"]⟩,
    ⟨0x1FA90, ["RINGED PLANET,CHAIR,RAZOR,AXE,DIYA LAMP,BANJO,MILITARY HELMET,ACCORDION",
      "LONG DRUM,COIN,CARPENTRY SAW,SCREWDRIVER,LADDER,HOOK,MIRROR,WINDOW,PLUNGER,SEWING NEEDLE",
      "KNOT,BUCKET,MOUSE TRAP,TOOTHBRUSH,HEADSTONE,PLACARD,ROCK,MIRROR BALL,IDENTIFICATION CARD",
      "LOW BATTERY,HAMSA,,,,FLY,WORM,BEETLE,COCKROACH,POTTED PLANT,WOOD,FEATHER,LOTUS,CORAL",
      "EMPTY NEST,NEST WITH EGGS"]⟩,
    ⟨0x1FAC0, ["ANATOMICAL HEART,LUNGS,PEOPLE HUGGING,PREGNANT MAN,aPERSON,PERSON WITH CROWN"]⟩,
    ⟨0x1FAD0, ["BLUEBERRIES,BELL PEPPER,OLIVE,FLATBREAD,TAMALE,FONDUE,TEAPOT,POURING LIQUID",
      "BEANS,JAR"]⟩,
    ⟨0x1FAE0, ["MELTING FACE,SALUTING a,FACE WITH OPEN EYES AND HAND OVER MOUTH,bPEEKING EYE",
      "bDIAGONAL MOUTH,DOTTED LINE FACE,BITING LIP,BUBBLES"]⟩,
    ⟨0x1FAF0, ["HAND WITH INDEX FINGER AND THUMB CROSSED,RIGHTWARDS HAND,LEFTWARDS a",
      "PALM DOWN HAND,aUP a,INDEX POINTING AT THE VIEWER,HEART HANDS"]⟩,
    ⟨0x1FB00, ["BLOCK SEXTANT-1,1,b12,b3,b13,b23,b123,b4,b14,b24,b124,b34,b134,b234,b1234,b5",
      "b15,b25,b125,b35,b235,b1235,b45,b145,b245,b1245,b345,b1345,b2345,b12345,b6,b16,b26,b126",
      "b36,b136,b236,b1236,b46,b146,b1246,b346,b1346,b2346,b12346,b56,b156,b256,b1256,b356,b1356",
      "b2356,b12356,b456,b1456,b2456,b12456,b3456,b13456,b23456",
      "LOWER LEFT BLOCK DIAGONAL LOWER MIDDLE LEFT TO LOWER CENTRE,iRIGHT,dUPPER dCENTRE,iRIGHT",
      "eLEFT TO LOWER CENTRE,aRIGHT cMIDDLE LEFT TO UPPER CENTRE,iRIGHT,dLOWER dCENTRE,iRIGHT",
      "eLEFT TO UPPER CENTRE,eMIDDLE LEFT TO UPPER MIDDLE RIGHT,eCENTRE TO LOWER MIDDLE RIGHT",
      "eLEFT d,eCENTRE aUPPER b,eLEFT d,eCENTRE bRIGHT,aLEFT bUPPER cMIDDLE RIGHT,eLEFT d",
      "eCENTRE aLOWER b,eLEFT d,eCENTRE bRIGHT,eMIDDLE LEFT TO LOWER MIDDLE RIGHT",
      "UPPER RIGHT bLOWER dCENTRE,iRIGHT,dUPPER dCENTRE,iRIGHT,eLEFT TO LOWER CENTRE",
      "aLEFT cMIDDLE LEFT TO UPPER CENTRE,iRIGHT,dLOWER dCENTRE,iRIGHT,eLEFT TO UPPER CENTRE",
      "eMIDDLE LEFT TO UPPER MIDDLE RIGHT,eCENTRE TO LOWER MIDDLE RIGHT,eLEFT d,eCENTRE aUPPER b",
      "eLEFT d,eCENTRE bRIGHT,aRIGHT bUPPER cMIDDLE RIGHT,eLEFT d,eCENTRE aLOWER b,eLEFT d",
      "eCENTRE bRIGHT,eMIDDLE LEFT TO LOWER MIDDLE RIGHT",
      "aAND RIGHT AND LOWER TRIANGULAR THREE QUARTERS BLOCK,LEFT aLOWER aRIGHT d",
      "UPPER aLEFT aLOWER d,LEFT aUPPER aRIGHT d,aTRIANGULAR ONE QUARTER BLOCK,UPPER d,RIGHT d",
      "LOWER d,VERTICAL ONE EIGHTH BLOCK-2,5,HORIZONTAL c2,5,LEFT AND LOWER ONE EIGHTH BLOCK",
      "bUPPER c,RIGHT e,bLOWER c,UPPER e,HORIZONTAL ONE EIGHTH BLOCK-1358,UPPER aQUARTER BLOCK",
      "aTHREE EIGHTHS a,aFIVE b,aTHREE QUARTERS a,aSEVEN EIGHTHS a,RIGHT ONE QUARTER a",
      "aTHREE EIGHTHS a,aFIVE b,aTHREE QUARTERS a,aSEVEN EIGHTHS a,LEFT HALF MEDIUM SHADE",
      "RIGHT c,UPPER c,LOWER c,INVERSE MEDIUM SHADE",
      "UPPER HALF BLOCK AND LOWER HALF INVERSE MEDIUM SHADE",
      "bINVERSE MEDIUM SHADE AND LOWER HALF BLOCK,,LEFT eRIGHT b,CHECKER BOARD FILL",
      "INVERSE CHECKER BOARD FILL,HEAVY HORIZONTAL FILL,UPPER LEFT TO LOWER RIGHT FILL",
      "aRIGHT bLEFT a,aAND LOWER TRIANGULAR HALF BLOCK,LEFT aRIGHT c",
      "UPPER LEFT TRIANGULAR MEDIUM SHADE,aRIGHT c,LOWER d,aLEFT c",
      "BOX DRAWINGS LIGHT DIAGONAL UPPER CENTRE TO MIDDLE LEFT,hRIGHT,dMIDDLE LEFT aLOWER CENTRE",
      "eRIGHT c,dUPPER CENTRE aMIDDLE LEFT TO LOWER CENTRE,hRIGHT c",
      "dMIDDLE LEFT aLOWER CENTRE aMIDDLE RIGHT,gUPPER d",
      "dUPPER CENTRE aMIDDLE LEFT AND aRIGHT TO LOWER CENTRE,hRIGHT bLEFT c",
      "iTO LOWER CENTRE aMIDDLE LEFT,hLEFT eRIGHT",
      "dMIDDLE LEFT aUPPER CENTRE aMIDDLE RIGHT aLOWER CENTRE,eRIGHT eLEFT c,dDIAMOND",
      "cHORIZONTAL WITH VERTICAL STROKE,ARROWHEAD-SHAPED POINTER,INVERSE CHECK MARK",
      "LEFT HALF RUNNING MAN,RIGHT c,INVERSE DOWNWARDS ARROW WITH TIP LEFTWARDS",
      "LEFTWARDS ARROW AND UPPER AND LOWER ONE EIGHTH BLOCK,RIGHTWARDS h",
      "DOWNWARDS bRIGHT ONE EIGHTH BLOCK,UPWARDS f,LEFT HALF FOLDER,RIGHT b,VOIDED GREEK CROSS",
      "RIGHT OPEN SQUARED DOT,NEGATIVE DIAGONAL CROSS,bMIDDLE RIGHT TO LOWER CENTRE,bDIAMOND",
      "WHITE HEAVY SALTIRE WITH ROUNDED CORNERS,LEFT THIRD WHITE RIGHT POINTING INDEX,MIDDLE e",
      "RIGHT e,NEGATIVE SQUARED QUESTION MARK,STICK FIGURE,aFIGURE WITH ARMS RAISED",
      "bLEANING LEFT,cRIGHT,bWITH DRESS,WHITE UP-POINTING CHEVRON"]⟩,
    ⟨0x1FBF0, ["SEGMENTED DIGIT ZERO,bONE,bTWO,bTHREE,bFOUR,bFIVE,bSIX,bSEVEN,bEIGHT,bNINE"]⟩,
    ⟨0xE0001, ["LANGUAGE TAG"]⟩,
    ⟨0xE0020, ["TAG SPACE,aEXCLAMATION MARK,aQUOTATION a,aNUMBER SIGN,aDOLLAR a,aPERCENT a",
      "aAMPERSAND,aAPOSTROPHE,aLEFT PARENTHESIS,aRIGHT a,aASTERISK,aPLUS SIGN,aCOMMA",
      "aHYPHEN-MINUS,aFULL STOP,aSOLIDUS,aDIGIT ZERO,bONE,bTWO,bTHREE,bFOUR,bFIVE,bSIX,bSEVEN",
      "bEIGHT,bNINE,aCOLON,aSEMICOLON,aLESS-THAN SIGN,aEQUALS SIGN,aGREATER-THAN SIGN",
      "aQUESTION MARK,aCOMMERCIAL AT,aLATIN CAPITAL LETTER A,25,aLEFT SQUARE BRACKET",
      "aREVERSE SOLIDUS,aRIGHT SQUARE BRACKET,aCIRCUMFLEX ACCENT,aLOW LINE,aGRAVE ACCENT",
      "aLATIN SMALL LETTER A,25,aLEFT CURLY BRACKET,aVERTICAL LINE,aRIGHT CURLY BRACKET,aTILDE",
      "CANCEL TAG"]⟩,
    ⟨0xE0100, ["VARIATION SELECTOR-17,239"]⟩]

end CharacterName

end DartComments
