import DartComments.Text.Name.Row

/-!
# Names of symbols

The names of punctuation, signs, arrows and shapes, from `2000` to `2BFF`.
-/

namespace DartComments

namespace CharacterName

set_option maxRecDepth 4000 in
/-- The names from `2000` to `2BFF`. -/
def symbols : List Row :=
  [⟨0x2000, ["EN QUAD,EM a,EN SPACE,EM a,THREE-PER-EM SPACE,FOUR-c,SIX-c,FIGURE SPACE",
      "PUNCTUATION a,THIN a,HAIR a,ZERO WIDTH SPACE,bNON-JOINER,bJOINER,LEFT-TO-RIGHT MARK",
      "RIGHT-aLEFT a,HYPHEN,NON-BREAKING HYPHEN,FIGURE DASH,EN a,EM a,HORIZONTAL BAR",
      "DOUBLE VERTICAL LINE,aLOW a,LEFT SINGLE QUOTATION MARK,RIGHT c",
      "SINGLE LOW-9 QUOTATION MARK,aHIGH-REVERSED-9 QUOTATION MARK,LEFT DOUBLE QUOTATION MARK",
      "RIGHT c,DOUBLE LOW-9 QUOTATION MARK,aHIGH-REVERSED-9 QUOTATION MARK,DAGGER,DOUBLE DAGGER",
      "BULLET,TRIANGULAR BULLET,ONE DOT LEADER,TWO b,HORIZONTAL ELLIPSIS,HYPHENATION POINT",
      "LINE SEPARATOR,PARAGRAPH a,LEFT-TO-RIGHT EMBEDDING,RIGHT-aLEFT a",
      "POP DIRECTIONAL FORMATTING,LEFT-TO-RIGHT OVERRIDE,RIGHT-aLEFT a,NARROW NO-BREAK SPACE",
      "PER MILLE SIGN,aTEN THOUSAND SIGN,PRIME,DOUBLE PRIME,TRIPLE a,REVERSED a,aDOUBLE PRIME",
      "aTRIPLE a,CARET,SINGLE LEFT-POINTING ANGLE QUOTATION MARK,aRIGHT-d,REFERENCE MARK",
      "DOUBLE EXCLAMATION MARK,INTERROBANG,OVERLINE,UNDERTIE,CHARACTER TIE,CARET INSERTION POINT",
      "ASTERISM,HYPHEN BULLET,FRACTION SLASH,LEFT SQUARE BRACKET WITH QUILL,RIGHT d",
      "DOUBLE QUESTION MARK,QUESTION EXCLAMATION a,EXCLAMATION QUESTION a,TIRONIAN SIGN ET",
      "REVERSED PILCROW SIGN,BLACK LEFTWARDS BULLET,aRIGHTWARDS a,LOW ASTERISK",
      "REVERSED SEMICOLON,CLOSE UP,TWO ASTERISKS ALIGNED VERTICALLY,COMMERCIAL MINUS SIGN",
      "SWUNG DASH,INVERTED UNDERTIE,FLOWER PUNCTUATION MARK,THREE DOT PUNCTUATION",
      "QUADRUPLE PRIME,FOUR DOT PUNCTUATION,FIVE b,TWO b,FOUR aMARK,DOTTED CROSS,TRICOLON",
      "VERTICAL FOUR DOTS,MEDIUM MATHEMATICAL SPACE,WORD JOINER,FUNCTION APPLICATION",
      "INVISIBLE TIMES,aSEPARATOR,aPLUS,,LEFT-TO-RIGHT ISOLATE,RIGHT-aLEFT a",
      "FIRST STRONG ISOLATE,POP DIRECTIONAL a,INHIBIT SYMMETRIC SWAPPING,ACTIVATE b",
      "INHIBIT ARABIC FORM SHAPING,ACTIVATE c,NATIONAL DIGIT SHAPES,NOMINAL b,SUPERSCRIPT ZERO",
      "aLATIN SMALL LETTER I,,,aFOUR,aFIVE,aSIX,aSEVEN,aEIGHT,aNINE,aPLUS SIGN,aMINUS",
      "aEQUALS SIGN,aLEFT PARENTHESIS,aRIGHT a,aLATIN SMALL LETTER N,SUBSCRIPT ZERO,aONE,aTWO",
      "aTHREE,aFOUR,aFIVE,aSIX,aSEVEN,aEIGHT,aNINE,aPLUS SIGN,aMINUS,aEQUALS SIGN",
      "aLEFT PARENTHESIS,aRIGHT a,,LATIN SUBSCRIPT SMALL LETTER A,dE,dO,dX,dSCHWA,dH,dK,3,dP,dS",
      "1,,,,EURO-CURRENCY SIGN,COLON SIGN,CRUZEIRO a,FRENCH FRANC SIGN,LIRA SIGN,MILL a,NAIRA a",
      "PESETA a,RUPEE a,WON a,NEW SHEQEL SIGN,DONG SIGN,EURO a,KIP a,TUGRIK a,DRACHMA a",
      "GERMAN PENNY SIGN,PESO SIGN,GUARANI a,AUSTRAL a,HRYVNIA a,CEDI a,LIVRE TOURNOIS SIGN",
      "SPESMILO SIGN,TENGE a,INDIAN RUPEE SIGN,TURKISH LIRA a,NORDIC MARK a,MANAT SIGN,RUBLE a",
      "LARI a,BITCOIN a,SOM a"]⟩,
    ⟨0x20D0, ["COMBINING LEFT HARPOON ABOVE,aRIGHT b,aLONG VERTICAL LINE OVERLAY,aSHORT c",
      "aANTICLOCKWISE ARROW ABOVE,aCLOCKWISE b,aLEFT b,aRIGHT b,aRING OVERLAY",
      "aCLOCKWISE RING OVERLAY,aANTICLOCKWISE b,aTHREE DOTS ABOVE,aFOUR b,aENCLOSING CIRCLE",
      "bSQUARE,bDIAMOND,bCIRCLE BACKSLASH,aLEFT RIGHT ARROW ABOVE,aENCLOSING SCREEN,bKEYCAP",
      "bUPWARD POINTING TRIANGLE,aREVERSE SOLIDUS OVERLAY,aDOUBLE VERTICAL STROKE OVERLAY",
      "aANNUITY SYMBOL,aTRIPLE UNDERDOT,aWIDE BRIDGE ABOVE,aLEFTWARDS ARROW OVERLAY",
      "aLONG DOUBLE SOLIDUS OVERLAY,aRIGHTWARDS HARPOON WITH BARB DOWNWARDS,aLEFTWARDS d",
      "aLEFT ARROW BELOW,aRIGHT b,aASTERISK ABOVE"]⟩,
    ⟨0x2100, ["ACCOUNT OF,ADDRESSED TO THE SUBJECT,DOUBLE-STRUCK CAPITAL C,DEGREE CELSIUS",
      "CENTRE LINE SYMBOL,CARE OF,CADA UNA,EULER CONSTANT,SCRUPLE,DEGREE FAHRENHEIT",
      "SCRIPT SMALL G,aCAPITAL H,BLACK-LETTER CAPITAL H,DOUBLE-STRUCK b,PLANCK CONSTANT",
      "aCONSTANT OVER TWO PI,SCRIPT CAPITAL I,BLACK-LETTER CAPITAL I,SCRIPT CAPITAL L,aSMALL a",
      "L B BAR SYMBOL,DOUBLE-STRUCK CAPITAL N,NUMERO SIGN,SOUND RECORDING COPYRIGHT",
      "SCRIPT CAPITAL P,DOUBLE-STRUCK CAPITAL P,1,SCRIPT CAPITAL R,BLACK-LETTER CAPITAL R",
      "DOUBLE-STRUCK b,PRESCRIPTION TAKE,RESPONSE,SERVICE MARK,TELEPHONE SIGN,TRADE MARK SIGN",
      "VERSICLE,DOUBLE-STRUCK CAPITAL Z,OUNCE SIGN,OHM a,INVERTED OHM SIGN",
      "BLACK-LETTER CAPITAL Z,TURNED GREEK SMALL LETTER IOTA,KELVIN SIGN,ANGSTROM a",
      "SCRIPT CAPITAL B,BLACK-LETTER CAPITAL C,ESTIMATED SYMBOL,SCRIPT SMALL E,aCAPITAL a,1",
      "TURNED b,SCRIPT aM,aSMALL O,ALEF SYMBOL,BET a,GIMEL a,DALET a,INFORMATION SOURCE",
      "ROTATED CAPITAL Q,FACSIMILE SIGN,DOUBLE-STRUCK SMALL PI,cGAMMA,bCAPITAL a,cPI",
      "bN-ARY SUMMATION,TURNED SANS-SERIF CAPITAL G,dL,REVERSED d,TURNED cY",
      "DOUBLE-STRUCK ITALIC aD,cSMALL a,1,dI,1,PROPERTY LINE,TURNED AMPERSAND,PER SIGN",
      "AKTIESELSKAB,TURNED SMALL F,SYMBOL FOR SAMARITAN SOURCE,VULGAR FRACTION ONE SEVENTH",
      "cNINTH,cTENTH,cTHIRD,bTWO THIRDS,bONE FIFTH,bTWO FIFTHS,bTHREE a,bFOUR a,bONE SIXTH",
      "bFIVE SIXTHS,bONE EIGHTH,bTHREE EIGHTHS,bFIVE a,bSEVEN a,FRACTION NUMERATOR ONE",
      "ROMAN NUMERAL a,bTWO,bTHREE,bFOUR,bFIVE,bSIX,bSEVEN,bEIGHT,bNINE,bTEN,bELEVEN,bTWELVE",
      "bFIFTY,bONE HUNDRED,bFIVE a,bONE THOUSAND,SMALL ROMAN NUMERAL ONE,cTWO,cTHREE,cFOUR,cFIVE",
      "cSIX,cSEVEN,cEIGHT,cNINE,cTEN,cELEVEN,cTWELVE,cFIFTY,cONE HUNDRED,cFIVE a,cONE THOUSAND",
      "ROMAN NUMERAL ONE THOUSAND C D,bFIVE THOUSAND,bTEN a,bREVERSED ONE HUNDRED",
      "LATIN SMALL LETTER REVERSED C,ROMAN NUMERAL SIX LATE FORM,bFIFTY EARLY a,cTHOUSAND",
      "bONE HUNDRED THOUSAND,VULGAR FRACTION ZERO THIRDS,TURNED DIGIT TWO,bTHREE,,,,",
      "LEFTWARDS ARROW,UPWARDS a,RIGHTWARDS a,DOWNWARDS a,LEFT RIGHT ARROW,UP DOWN a",
      "NORTH WEST a,aEAST a,SOUTH b,aWEST a,LEFTWARDS ARROW WITH STROKE,RIGHTWARDS c",
      "LEFTWARDS WAVE ARROW,RIGHTWARDS b,LEFTWARDS TWO HEADED ARROW,UPWARDS c,RIGHTWARDS c",
      "DOWNWARDS c,LEFTWARDS ARROW WITH TAIL,RIGHTWARDS c,LEFTWARDS aFROM BAR,UPWARDS c",
      "RIGHTWARDS c,DOWNWARDS c,UP DOWN ARROW WITH BASE,LEFTWARDS ARROW WITH HOOK,RIGHTWARDS c",
      "LEFTWARDS bLOOP,RIGHTWARDS c,LEFT RIGHT WAVE ARROW,bARROW WITH STROKE",
      "DOWNWARDS ZIGZAG ARROW,UPWARDS ARROW WITH TIP LEFTWARDS,dRIGHTWARDS,DOWNWARDS cLEFTWARDS",
      "dRIGHTWARDS,RIGHTWARDS bCORNER DOWNWARDS,DOWNWARDS cLEFTWARDS",
      "ANTICLOCKWISE TOP SEMICIRCLE ARROW,CLOCKWISE c,NORTH WEST ARROW TO LONG BAR",
      "LEFTWARDS ARROW TO BAR OVER RIGHTWARDS ARROW TO BAR,ANTICLOCKWISE OPEN CIRCLE ARROW",
      "CLOCKWISE c,LEFTWARDS HARPOON WITH BARB UPWARDS,dDOWNWARDS,UPWARDS cRIGHTWARDS,dLEFTWARDS",
      "RIGHTWARDS cUPWARDS,dDOWNWARDS,DOWNWARDS cRIGHTWARDS,dLEFTWARDS",
      "RIGHTWARDS ARROW OVER LEFTWARDS ARROW,UPWARDS aLEFTWARDS OF DOWNWARDS ARROW",
      "LEFTWARDS aOVER RIGHTWARDS ARROW,aPAIRED ARROWS,UPWARDS b,RIGHTWARDS b,DOWNWARDS b",
      "LEFTWARDS HARPOON OVER RIGHTWARDS HARPOON,RIGHTWARDS bLEFTWARDS a",
      "LEFTWARDS DOUBLE ARROW WITH STROKE,LEFT RIGHT DOUBLE ARROW WITH STROKE",
      "RIGHTWARDS DOUBLE ARROW WITH STROKE,LEFTWARDS aARROW,UPWARDS b,RIGHTWARDS b,DOWNWARDS b",
      "LEFT RIGHT DOUBLE ARROW,UP DOWN b,NORTH WEST b,aEAST b,SOUTH c,aWEST b",
      "LEFTWARDS TRIPLE ARROW,RIGHTWARDS b,LEFTWARDS SQUIGGLE a,RIGHTWARDS b",
      "UPWARDS ARROW WITH DOUBLE STROKE,DOWNWARDS d,LEFTWARDS DASHED ARROW,UPWARDS b",
      "RIGHTWARDS b,DOWNWARDS b,LEFTWARDS ARROW TO BAR,RIGHTWARDS c,LEFTWARDS WHITE ARROW",
      "UPWARDS b,RIGHTWARDS b,DOWNWARDS b,UPWARDS aARROW FROM BAR,cON PEDESTAL",
      "dPEDESTAL WITH HORIZONTAL BAR,fVERTICAL a,bDOUBLE ARROW,cARROW ON PEDESTAL",
      "RIGHTWARDS aARROW FROM WALL,NORTH WEST aTO CORNER,SOUTH EAST c,UP DOWN WHITE ARROW",
      "RIGHT ARROW WITH SMALL CIRCLE,DOWNWARDS aLEFTWARDS OF UPWARDS ARROW",
      "THREE RIGHTWARDS ARROWS,LEFTWARDS ARROW WITH VERTICAL STROKE,RIGHTWARDS d",
      "LEFT RIGHT ARROW WITH VERTICAL STROKE,LEFTWARDS ARROW WITH DOUBLE b,RIGHTWARDS e",
      "LEFT RIGHT ARROW WITH DOUBLE VERTICAL STROKE,LEFTWARDS OPEN-HEADED ARROW,RIGHTWARDS c",
      "LEFT RIGHT OPEN-HEADED ARROW"]⟩,
    ⟨0x2200, ["FOR ALL,COMPLEMENT,PARTIAL DIFFERENTIAL,THERE EXISTS,aDOES NOT EXIST,EMPTY SET",
      "INCREMENT,NABLA,ELEMENT OF,NOT AN ELEMENT OF,SMALL ELEMENT OF,CONTAINS AS MEMBER",
      "DOES NOT CONTAIN AS MEMBER,SMALL CONTAINS AS MEMBER,END OF PROOF,N-ARY PRODUCT,bCOPRODUCT",
      "bSUMMATION,MINUS SIGN,MINUS-OR-PLUS SIGN,DOT PLUS,DIVISION SLASH,SET MINUS",
      "ASTERISK OPERATOR,RING a,BULLET a,SQUARE ROOT,CUBE a,FOURTH a,PROPORTIONAL TO,INFINITY",
      "RIGHT ANGLE,ANGLE,MEASURED ANGLE,SPHERICAL a,DIVIDES,DOES NOT DIVIDE,PARALLEL TO",
      "NOT PARALLEL TO,LOGICAL AND,aOR,INTERSECTION,UNION,INTEGRAL,DOUBLE INTEGRAL,TRIPLE a",
      "CONTOUR a,SURFACE a,VOLUME a,CLOCKWISE a,aCONTOUR INTEGRAL,ANTICLOCKWISE b,THEREFORE",
      "BECAUSE,RATIO,PROPORTION,DOT MINUS,EXCESS,GEOMETRIC PROPORTION,HOMOTHETIC,TILDE OPERATOR",
      "REVERSED TILDE,INVERTED LAZY S,SINE WAVE,WREATH PRODUCT,NOT TILDE,MINUS a",
      "ASYMPTOTICALLY EQUAL TO,NOT ASYMPTOTICALLY EQUAL TO,APPROXIMATELY EQUAL TO",
      "aBUT NOT ACTUALLY EQUAL TO,NEITHER APPROXIMATELY NOR c,ALMOST EQUAL TO",
      "NOT ALMOST EQUAL TO,ALMOST EQUAL OR EQUAL TO,TRIPLE TILDE,ALL EQUAL TO,EQUIVALENT TO",
      "GEOMETRICALLY EQUIVALENT TO,DIFFERENCE BETWEEN,APPROACHES THE LIMIT",
      "GEOMETRICALLY EQUAL TO,APPROXIMATELY aTO OR THE IMAGE OF",
      "IMAGE OF OR APPROXIMATELY EQUAL TO,COLON EQUALS,EQUALS COLON,RING IN EQUAL TO,aEQUAL TO",
      "CORRESPONDS TO,ESTIMATES,EQUIANGULAR TO,STAR EQUALS,DELTA EQUAL TO,EQUAL TO BY DEFINITION",
      "MEASURED BY,QUESTIONED EQUAL TO,NOT b,IDENTICAL TO,NOT IDENTICAL TO,STRICTLY EQUIVALENT a",
      "LESS-THAN OR EQUAL TO,GREATER-d,LESS-aOVER b,GREATER-d,LESS-aBUT NOT EQUAL TO,GREATER-e",
      "MUCH LESS-THAN,aGREATER-a,BETWEEN,NOT EQUIVALENT TO,aLESS-THAN,aGREATER-a",
      "NEITHER LESS-THAN NOR EQUAL TO,aGREATER-d,LESS-THAN OR EQUIVALENT TO,GREATER-d",
      "NEITHER LESS-THAN NOR EQUIVALENT TO,aGREATER-d,LESS-THAN OR GREATER-THAN,GREATER-bLESS-a",
      "NEITHER LESS-THAN NOR GREATER-THAN,aGREATER-bLESS-a,PRECEDES,SUCCEEDS",
      "PRECEDES OR EQUAL TO,SUCCEEDS c,PRECEDES aEQUIVALENT a,SUCCEEDS c,DOES NOT PRECEDE",
      "bSUCCEED,SUBSET OF,SUPERSET a,NOT A SUBSET OF,bSUPERSET a,SUBSET OF OR EQUAL TO",
      "SUPERSET d,NEITHER A SUBSET OF NOR EQUAL TO,bSUPERSET d,SUBSET OF WITH NOT EQUAL TO",
      "SUPERSET e,MULTISET,MULTISET MULTIPLICATION,aUNION,SQUARE IMAGE OF,aORIGINAL a",
      "aIMAGE OF OR EQUAL TO,aORIGINAL d,aCAP,aCUP,CIRCLED PLUS,aMINUS,aTIMES,aDIVISION SLASH",
      "aDOT OPERATOR,aRING a,aASTERISK a,aEQUALS,aDASH,SQUARED PLUS,aMINUS,aTIMES,aDOT OPERATOR",
      "RIGHT TACK,LEFT a,DOWN a,UP a,ASSERTION,MODELS,TRUE,FORCES",
      "TRIPLE VERTICAL BAR RIGHT TURNSTILE,DOUBLE bDOUBLE RIGHT TURNSTILE,DOES NOT PROVE",
      "NOT TRUE,DOES NOT FORCE,NEGATED DOUBLE VERTICAL BAR DOUBLE RIGHT TURNSTILE",
      "PRECEDES UNDER RELATION,SUCCEEDS b,NORMAL SUBGROUP OF,CONTAINS AS NORMAL SUBGROUP",
      "NORMAL SUBGROUP OF OR EQUAL TO,CONTAINS AS NORMAL SUBGROUP OR EQUAL TO,ORIGINAL OF",
      "IMAGE a,MULTIMAP,HERMITIAN CONJUGATE MATRIX,INTERCALATE,XOR,NAND,NOR,RIGHT ANGLE WITH ARC",
      "aTRIANGLE,N-ARY LOGICAL AND,cOR,bINTERSECTION,bUNION,DIAMOND OPERATOR,DOT a,STAR a",
      "DIVISION TIMES,BOWTIE,LEFT NORMAL FACTOR SEMIDIRECT PRODUCT,RIGHT d",
      "LEFT SEMIDIRECT PRODUCT,RIGHT b,REVERSED TILDE EQUALS,CURLY LOGICAL OR,bAND,DOUBLE SUBSET",
      "aSUPERSET,aINTERSECTION,aUNION,PITCHFORK,EQUAL AND PARALLEL TO,LESS-THAN WITH DOT",
      "GREATER-c,VERY MUCH LESS-THAN,bGREATER-a,LESS-THAN EQUAL TO OR GREATER-THAN",
      "GREATER-dLESS-a,EQUAL TO OR LESS-THAN,cGREATER-a,cPRECEDES,cSUCCEEDS",
      "DOES NOT PRECEDE OR EQUAL,bSUCCEED b,NOT SQUARE IMAGE OF OR EQUAL TO,bORIGINAL d",
      "SQUARE IMAGE OF OR NOT b,aORIGINAL e,LESS-THAN BUT NOT EQUIVALENT TO,GREATER-e",
      "PRECEDES BUT NOT EQUIVALENT TO,SUCCEEDS d,NOT NORMAL SUBGROUP OF",
      "DOES NOT CONTAIN AS NORMAL SUBGROUP,NOT NORMAL SUBGROUP OF OR EQUAL TO",
      "DOES NOT CONTAIN AS NORMAL SUBGROUP OR EQUAL,VERTICAL ELLIPSIS",
      "MIDLINE HORIZONTAL ELLIPSIS,UP RIGHT DIAGONAL ELLIPSIS,DOWN c",
      "ELEMENT OF WITH LONG HORIZONTAL STROKE,cVERTICAL BAR AT END OF HORIZONTAL STROKE",
      "SMALL ELEMENT OF WITH VERTICAL BAR AT END OF HORIZONTAL STROKE,ELEMENT OF WITH DOT ABOVE",
      "cOVERBAR,SMALL ELEMENT OF WITH OVERBAR,ELEMENT OF WITH UNDERBAR,cTWO HORIZONTAL STROKES",
      "CONTAINS WITH LONG HORIZONTAL STROKE,bVERTICAL BAR AT END OF HORIZONTAL STROKE",
      "SMALL CONTAINS WITH VERTICAL BAR AT END OF HORIZONTAL STROKE,CONTAINS WITH OVERBAR",
      "SMALL CONTAINS WITH OVERBAR,Z NOTATION BAG MEMBERSHIP"]⟩,
    ⟨0x2300, ["DIAMETER SIGN,ELECTRIC ARROW,HOUSE,UP ARROWHEAD,DOWN a,PROJECTIVE,PERSPECTIVE",
      "WAVY LINE,LEFT CEILING,RIGHT a,LEFT FLOOR,RIGHT a,BOTTOM RIGHT CROP,aLEFT a,TOP RIGHT a",
      "aLEFT a,REVERSED NOT SIGN,SQUARE LOZENGE,ARC,SEGMENT,SECTOR,TELEPHONE RECORDER",
      "POSITION INDICATOR,VIEWDATA SQUARE,PLACE OF INTEREST SIGN,TURNED NOT SIGN,WATCH,HOURGLASS",
      "TOP LEFT CORNER,aRIGHT a,BOTTOM LEFT a,aRIGHT a,TOP HALF INTEGRAL,BOTTOM b,FROWN,SMILE",
      "UP ARROWHEAD BETWEEN TWO HORIZONTAL BARS,OPTION KEY,ERASE TO THE RIGHT",
      "X IN A RECTANGLE BOX,KEYBOARD,LEFT-POINTING ANGLE BRACKET,RIGHT-c,ERASE TO THE LEFT",
      "BENZENE RING,CYLINDRICITY,ALL AROUND-PROFILE,SYMMETRY,TOTAL RUNOUT,DIMENSION ORIGIN",
      "CONICAL TAPER,SLOPE,COUNTERBORE,COUNTERSINK,APL FUNCTIONAL SYMBOL I-BEAM,cSQUISH QUAD",
      "cQUAD EQUAL,dDIVIDE,dDIAMOND,dJOT,dCIRCLE,cCIRCLE STILE,dJOT,cSLASH BAR,cBACKSLASH a",
      "cQUAD SLASH,dBACKSLASH,dLESS-THAN,dGREATER-a,cLEFTWARDS VANE,cRIGHTWARDS a",
      "cQUAD LEFTWARDS ARROW,dRIGHTWARDS a,cCIRCLE BACKSLASH,cDOWN TACK UNDERBAR,cDELTA STILE",
      "cQUAD DOWN CARET,dDELTA,cDOWN TACK JOT,cUPWARDS VANE,cQUAD UPWARDS ARROW,cUP TACK OVERBAR",
      "cDEL STILE,cQUAD UP CARET,dDEL,cUP TACK JOT,cDOWNWARDS VANE,cQUAD DOWNWARDS ARROW",
      "cQUOTE UNDERBAR,cDELTA a,cDIAMOND a,cJOT a,cCIRCLE a,cUP SHOE JOT,cQUOTE QUAD",
      "cCIRCLE STAR,cQUAD COLON,cUP TACK DIAERESIS,cDEL DIAERESIS,cSTAR a,cJOT a,cCIRCLE a",
      "cDOWN SHOE STILE,cLEFT b,cTILDE DIAERESIS,cGREATER-THAN DIAERESIS,cCOMMA BAR,cDEL TILDE",
      "cZILDE,cSTILE TILDE,cSEMICOLON UNDERBAR,cQUAD NOT EQUAL,dQUESTION,cDOWN CARET TILDE,cUP b",
      "cIOTA,cRHO,cOMEGA,cALPHA UNDERBAR,cEPSILON a,cIOTA a,cOMEGA a,cALPHA,NOT CHECK MARK",
      "RIGHT ANGLE WITH DOWNWARDS ZIGZAG ARROW,SHOULDERED OPEN BOX,BELL SYMBOL",
      "VERTICAL LINE WITH MIDDLE DOT,INSERTION SYMBOL,CONTINUOUS UNDERLINE SYMBOL",
      "DISCONTINUOUS b,EMPHASIS SYMBOL,COMPOSITION a,WHITE SQUARE WITH CENTRE VERTICAL LINE",
      "ENTER SYMBOL,ALTERNATIVE KEY SYMBOL,HELM SYMBOL,CIRCLED HORIZONTAL BAR WITH NOTCH",
      "aTRIANGLE DOWN,BROKEN CIRCLE WITH NORTHWEST ARROW,UNDO SYMBOL,MONOSTABLE a,HYSTERESIS a",
      "OPEN-CIRCUIT-OUTPUT H-TYPE SYMBOL,cL-b,PASSIVE-PULL-DOWN-OUTPUT SYMBOL,bUP-b",
      "DIRECT CURRENT SYMBOL FORM TWO,SOFTWARE-FUNCTION SYMBOL,APL FUNCTIONAL SYMBOL QUAD",
      "DECIMAL SEPARATOR KEY SYMBOL,PREVIOUS PAGE,NEXT a,PRINT SCREEN SYMBOL,CLEAR b",
      "LEFT PARENTHESIS UPPER HOOK,bEXTENSION,bLOWER HOOK,RIGHT aUPPER a,bEXTENSION,bLOWER HOOK",
      "LEFT SQUARE BRACKET UPPER CORNER,cEXTENSION,cLOWER CORNER,RIGHT bUPPER a,cEXTENSION",
      "cLOWER CORNER,LEFT CURLY aUPPER HOOK,cMIDDLE PIECE,cLOWER HOOK,CURLY BRACKET EXTENSION",
      "RIGHT CURLY BRACKET UPPER HOOK,cMIDDLE PIECE,cLOWER HOOK,INTEGRAL EXTENSION",
      "HORIZONTAL LINE EXTENSION,UPPER LEFT OR LOWER RIGHT CURLY BRACKET SECTION,aRIGHT bLEFT c",
      "SUMMATION TOP,aBOTTOM,TOP SQUARE BRACKET,BOTTOM b,bBRACKET OVER TOP SQUARE BRACKET",
      "RADICAL SYMBOL BOTTOM,LEFT VERTICAL BOX LINE,RIGHT c,HORIZONTAL SCAN LINE-1,c3,c7,c9",
      "DENTISTRY SYMBOL LIGHT VERTICAL AND TOP RIGHT,eBOTTOM a,dWITH CIRCLE",
      "cDOWN AND HORIZONTAL WITH CIRCLE,cUP d,cVERTICAL WITH TRIANGLE",
      "cDOWN AND HORIZONTAL WITH TRIANGLE,cUP d,cVERTICAL aWAVE,cDOWN aHORIZONTAL WITH WAVE",
      "cUP d,cDOWN aHORIZONTAL,cUP b,cVERTICAL aTOP LEFT,eBOTTOM a,SQUARE FOOT,RETURN SYMBOL",
      "EJECT a,VERTICAL LINE EXTENSION,METRICAL BREVE,aLONG OVER SHORT,aSHORT aLONG",
      "aLONG aTWO SHORTS,aTWO SHORTS OVER LONG,cJOINED,aTRISEME,aTETRASEME,aPENTASEME",
      "EARTH GROUND,FUSE,TOP PARENTHESIS,BOTTOM a,TOP CURLY BRACKET,BOTTOM b",
      "TOP TORTOISE SHELL BRACKET,BOTTOM c,WHITE TRAPEZIUM,BENZENE RING WITH CIRCLE,STRAIGHTNESS",
      "FLATNESS,AC CURRENT,ELECTRICAL INTERSECTION,DECIMAL EXPONENT SYMBOL",
      "BLACK RIGHT-POINTING DOUBLE TRIANGLE,aLEFT-c,aUP-c,aDOWN-c",
      "aRIGHT-bTRIANGLE WITH VERTICAL BAR,aLEFT-f,aRIGHT-aTRIANGLE WITH DOUBLE b,ALARM CLOCK",
      "STOPWATCH,TIMER CLOCK,HOURGLASS WITH FLOWING SAND,BLACK MEDIUM LEFT-POINTING TRIANGLE",
      "bRIGHT-b,bUP-b,bDOWN-b,DOUBLE VERTICAL BAR,BLACK SQUARE FOR STOP,aCIRCLE aRECORD",
      "POWER SYMBOL,aON-OFF SYMBOL,aON SYMBOL,aSLEEP a,OBSERVER EYE a"]⟩,
    ⟨0x2400, ["SYMBOL FOR NULL,bSTART OF HEADING,dTEXT,bEND b,dTRANSMISSION,bENQUIRY",
      "bACKNOWLEDGE,bBELL,bBACKSPACE,bHORIZONTAL TABULATION,bLINE FEED,bVERTICAL TABULATION",
      "bFORM FEED,bCARRIAGE RETURN,bSHIFT OUT,cIN,bDATA LINK ESCAPE,bDEVICE CONTROL ONE,dTWO",
      "dTHREE,dFOUR,bNEGATIVE ACKNOWLEDGE,bSYNCHRONOUS IDLE,bEND OF TRANSMISSION BLOCK,bCANCEL",
      "bEND OF MEDIUM,bSUBSTITUTE,bESCAPE,bFILE SEPARATOR,bGROUP a,bRECORD a,bUNIT a,bSPACE",
      "bDELETE,BLANK SYMBOL,OPEN BOX,SYMBOL FOR NEWLINE,bDELETE FORM TWO,bSUBSTITUTE b"]⟩,
    ⟨0x2440, ["OCR HOOK,aCHAIR,aFORK,aINVERTED FORK,aBELT BUCKLE,aBOW TIE",
      "aBRANCH BANK IDENTIFICATION,aAMOUNT OF CHECK,aDASH,aCUSTOMER ACCOUNT NUMBER",
      "aDOUBLE BACKSLASH"]⟩,
    ⟨0x2460, ["CIRCLED DIGIT ONE,bTWO,bTHREE,bFOUR,bFIVE,bSIX,bSEVEN,bEIGHT,bNINE,aNUMBER TEN",
      "bELEVEN,bTWELVE,bTHIRTEEN,bFOURTEEN,bFIFTEEN,bSIXTEEN,bSEVENTEEN,bEIGHTEEN,bNINETEEN",
      "bTWENTY,PARENTHESIZED DIGIT ONE,bTWO,bTHREE,bFOUR,bFIVE,bSIX,bSEVEN,bEIGHT,bNINE",
      "aNUMBER TEN,bELEVEN,bTWELVE,bTHIRTEEN,bFOURTEEN,bFIFTEEN,bSIXTEEN,bSEVENTEEN,bEIGHTEEN",
      "bNINETEEN,bTWENTY,DIGIT ONE FULL STOP,aTWO b,aTHREE b,aFOUR b,aFIVE b,aSIX b,aSEVEN b",
      "aEIGHT b,aNINE b,NUMBER TEN b,aELEVEN b,aTWELVE b,aTHIRTEEN b,aFOURTEEN b,aFIFTEEN b",
      "aSIXTEEN b,aSEVENTEEN b,aEIGHTEEN b,aNINETEEN b,aTWENTY b",
      "PARENTHESIZED LATIN SMALL LETTER A,25,CIRCLED aCAPITAL aA,25,bSMALL aA,25,aDIGIT ZERO",
      "NEGATIVE CIRCLED NUMBER ELEVEN,cTWELVE,cTHIRTEEN,cFOURTEEN,cFIFTEEN,cSIXTEEN,cSEVENTEEN",
      "cEIGHTEEN,cNINETEEN,cTWENTY,DOUBLE aDIGIT ONE,cTWO,cTHREE,cFOUR,cFIVE,cSIX,cSEVEN,cEIGHT",
      "cNINE,bNUMBER TEN,NEGATIVE aDIGIT ZERO"]⟩,
    ⟨0x2500, ["BOX DRAWINGS LIGHT HORIZONTAL,bHEAVY a,bLIGHT VERTICAL,bHEAVY a",
      "bLIGHT TRIPLE DASH HORIZONTAL,bHEAVY c,bLIGHT bVERTICAL,bHEAVY c",
      "bLIGHT QUADRUPLE aHORIZONTAL,bHEAVY c,bLIGHT bVERTICAL,bHEAVY c,bLIGHT DOWN AND RIGHT",
      "bDOWN LIGHT aRIGHT HEAVY,cHEAVY bLIGHT,bHEAVY DOWN aRIGHT,bLIGHT bLEFT",
      "bDOWN LIGHT aLEFT HEAVY,cHEAVY bLIGHT,bHEAVY DOWN aLEFT,bLIGHT UP aRIGHT",
      "bUP LIGHT aRIGHT HEAVY,cHEAVY bLIGHT,bHEAVY UP aRIGHT,bLIGHT bLEFT,bUP LIGHT aLEFT HEAVY",
      "cHEAVY bLIGHT,bHEAVY UP aLEFT,bLIGHT VERTICAL aRIGHT,bVERTICAL LIGHT aRIGHT HEAVY",
      "bUP HEAVY bDOWN LIGHT,bDOWN cUP a,bVERTICAL cLIGHT,bDOWN LIGHT bUP HEAVY,bUP cDOWN a",
      "bHEAVY VERTICAL aRIGHT,bLIGHT bLEFT,bVERTICAL LIGHT aLEFT HEAVY,bUP HEAVY bDOWN LIGHT",
      "bDOWN cUP a,bVERTICAL cLIGHT,bDOWN LIGHT bUP HEAVY,bUP cDOWN a,bHEAVY VERTICAL aLEFT",
      "bLIGHT DOWN aHORIZONTAL,bLEFT HEAVY aRIGHT DOWN LIGHT,bRIGHT bLEFT b",
      "bDOWN LIGHT aHORIZONTAL HEAVY,cHEAVY bLIGHT,bRIGHT LIGHT aLEFT DOWN HEAVY,bLEFT bRIGHT b",
      "bHEAVY DOWN aHORIZONTAL,bLIGHT UP b,bLEFT HEAVY aRIGHT UP LIGHT,bRIGHT bLEFT b",
      "bUP LIGHT aHORIZONTAL HEAVY,cHEAVY bLIGHT,bRIGHT LIGHT aLEFT UP HEAVY,bLEFT bRIGHT b",
      "bHEAVY UP aHORIZONTAL,bLIGHT VERTICAL b,bLEFT HEAVY aRIGHT VERTICAL LIGHT,bRIGHT bLEFT b",
      "bVERTICAL LIGHT aHORIZONTAL HEAVY,bUP HEAVY aDOWN HORIZONTAL LIGHT,bDOWN bUP b",
      "bVERTICAL bHORIZONTAL LIGHT,bLEFT UP HEAVY AND RIGHT DOWN LIGHT,bRIGHT cLEFT b",
      "bLEFT DOWN bRIGHT UP a,bRIGHT cLEFT b,bDOWN LIGHT AND UP HORIZONTAL HEAVY,bUP bDOWN b",
      "bRIGHT bLEFT VERTICAL a,bLEFT bRIGHT b,bHEAVY VERTICAL aHORIZONTAL,bLIGHT DOUBLE DASH a",
      "bHEAVY c,bLIGHT bVERTICAL,bHEAVY c,bDOUBLE HORIZONTAL,cVERTICAL",
      "bDOWN SINGLE AND RIGHT DOUBLE,cDOUBLE bSINGLE,bDOUBLE DOWN aRIGHT",
      "bDOWN SINGLE aLEFT DOUBLE,cDOUBLE bSINGLE,bDOUBLE DOWN aLEFT,bUP SINGLE aRIGHT DOUBLE",
      "cDOUBLE bSINGLE,bDOUBLE UP aRIGHT,bUP SINGLE aLEFT DOUBLE,cDOUBLE bSINGLE",
      "bDOUBLE UP aLEFT,bVERTICAL SINGLE aRIGHT DOUBLE,cDOUBLE bSINGLE,bDOUBLE VERTICAL aRIGHT",
      "bVERTICAL SINGLE aLEFT DOUBLE,cDOUBLE bSINGLE,bDOUBLE VERTICAL aLEFT",
      "bDOWN SINGLE aHORIZONTAL DOUBLE,cDOUBLE bSINGLE,bDOUBLE DOWN aHORIZONTAL",
      "bUP SINGLE aHORIZONTAL DOUBLE,cDOUBLE bSINGLE,bDOUBLE UP aHORIZONTAL",
      "bVERTICAL SINGLE aHORIZONTAL DOUBLE,cDOUBLE bSINGLE,bDOUBLE VERTICAL aHORIZONTAL",
      "bLIGHT ARC DOWN AND RIGHT,fLEFT,dUP b,fRIGHT,cDIAGONAL UPPER RIGHT TO LOWER LEFT",
      "eLEFT bRIGHT,dCROSS,cLEFT,cUP,cRIGHT,cDOWN,bHEAVY LEFT,cUP,cRIGHT,cDOWN",
      "bLIGHT LEFT AND HEAVY RIGHT,cUP bDOWN,bHEAVY LEFT aLIGHT RIGHT,cUP bDOWN,UPPER HALF BLOCK",
      "LOWER ONE EIGHTH BLOCK,bQUARTER a,aTHREE EIGHTHS a,aHALF BLOCK,aFIVE EIGHTHS BLOCK",
      "aTHREE QUARTERS a,aSEVEN EIGHTHS a,FULL BLOCK,LEFT SEVEN EIGHTHS BLOCK,aTHREE QUARTERS a",
      "aFIVE EIGHTHS a,aHALF BLOCK,aTHREE EIGHTHS BLOCK,aONE QUARTER a,bEIGHTH a",
      "RIGHT HALF BLOCK,LIGHT SHADE,MEDIUM a,DARK a,UPPER ONE EIGHTH BLOCK,RIGHT c",
      "QUADRANT LOWER LEFT,bRIGHT,aUPPER LEFT,bLEFT AND LOWER LEFT AND LOWER RIGHT,eRIGHT",
      "dUPPER RIGHT AND LOWER LEFT,hRIGHT,bRIGHT,bRIGHT AND LOWER LEFT,eLEFT AND LOWER RIGHT",
      "BLACK SQUARE,WHITE a,aSQUARE WITH ROUNDED CORNERS,bCONTAINING BLACK SMALL SQUARE",
      "SQUARE WITH HORIZONTAL FILL,bVERTICAL a,bORTHOGONAL CROSSHATCH FILL",
      "bUPPER LEFT TO LOWER RIGHT FILL,cRIGHT bLEFT a,bDIAGONAL CROSSHATCH FILL",
      "BLACK SMALL SQUARE,WHITE b,BLACK RECTANGLE,WHITE a,BLACK VERTICAL RECTANGLE,WHITE b",
      "BLACK PARALLELOGRAM,WHITE a,BLACK UP-POINTING TRIANGLE,WHITE c,BLACK bSMALL TRIANGLE",
      "WHITE d,BLACK RIGHT-aTRIANGLE,WHITE c,BLACK bSMALL TRIANGLE,WHITE d,BLACK bPOINTER",
      "WHITE c,BLACK DOWN-aTRIANGLE,WHITE c,BLACK bSMALL TRIANGLE,WHITE d,BLACK LEFT-aTRIANGLE",
      "WHITE c,BLACK bSMALL TRIANGLE,WHITE d,BLACK bPOINTER,WHITE c,BLACK DIAMOND,WHITE a",
      "aDIAMOND CONTAINING BLACK SMALL DIAMOND,FISHEYE,LOZENGE,WHITE CIRCLE,DOTTED a",
      "CIRCLE WITH VERTICAL FILL,BULLSEYE,BLACK CIRCLE,CIRCLE WITH LEFT HALF BLACK,bRIGHT b",
      "bLOWER b,bUPPER b,cRIGHT QUADRANT BLACK,bALL BUT UPPER LEFT QUADRANT BLACK",
      "LEFT HALF BLACK CIRCLE,RIGHT c,INVERSE BULLET,aWHITE CIRCLE",
      "UPPER HALF INVERSE WHITE CIRCLE,LOWER d,UPPER LEFT QUADRANT CIRCULAR ARC,aRIGHT c,LOWER d",
      "aLEFT c,UPPER HALF CIRCLE,LOWER b,BLACK LOWER RIGHT TRIANGLE,bLEFT a,aUPPER b,bRIGHT a",
      "WHITE BULLET,SQUARE WITH LEFT HALF BLACK,bRIGHT b,bUPPER LEFT DIAGONAL HALF BLACK",
      "bLOWER RIGHT c,WHITE SQUARE WITH VERTICAL BISECTING LINE,aUP-POINTING TRIANGLE WITH DOT",
      "UP-POINTING TRIANGLE WITH LEFT HALF BLACK,dRIGHT b,LARGE CIRCLE",
      "WHITE SQUARE WITH UPPER LEFT QUADRANT,cLOWER b,dRIGHT a,cUPPER b,aCIRCLE bLEFT a,cLOWER b",
      "dRIGHT a,cUPPER b,UPPER LEFT TRIANGLE,aRIGHT a,LOWER LEFT a,WHITE MEDIUM SQUARE,BLACK b",
      "WHITE aSMALL SQUARE,BLACK c,LOWER RIGHT TRIANGLE"]⟩,
    ⟨0x2600, ["BLACK SUN WITH RAYS,CLOUD,UMBRELLA,SNOWMAN,COMET,BLACK STAR,WHITE a,LIGHTNING",
      "THUNDERSTORM,SUN,ASCENDING NODE,DESCENDING a,CONJUNCTION,OPPOSITION,BLACK TELEPHONE",
      "WHITE a,BALLOT BOX,aBOX WITH CHECK,cX,SALTIRE,UMBRELLA WITH RAIN DROPS,HOT BEVERAGE",
      "WHITE SHOGI PIECE,BLACK b,SHAMROCK,REVERSED ROTATED FLORAL HEART BULLET",
      "BLACK LEFT POINTING INDEX,aRIGHT b,WHITE LEFT b,aUP b,aRIGHT b,aDOWN b",
      "SKULL AND CROSSBONES,CAUTION SIGN,RADIOACTIVE a,BIOHAZARD a,CADUCEUS,ANKH,ORTHODOX CROSS",
      "CHI RHO,CROSS OF LORRAINE,bJERUSALEM,STAR AND CRESCENT,FARSI SYMBOL,ADI SHAKTI",
      "HAMMER AND SICKLE,PEACE SYMBOL,YIN YANG,TRIGRAM FOR HEAVEN,bLAKE,bFIRE,bTHUNDER,bWIND",
      "bWATER,bMOUNTAIN,bEARTH,WHEEL OF DHARMA,WHITE FROWNING FACE,aSMILING a,BLACK b",
      "WHITE SUN WITH RAYS,FIRST QUARTER MOON,LAST b,MERCURY,FEMALE SIGN,EARTH,MALE SIGN,JUPITER",
      "SATURN,URANUS,NEPTUNE,PLUTO,ARIES,TAURUS,GEMINI,CANCER,LEO,VIRGO,LIBRA,SCORPIUS",
      "SAGITTARIUS,CAPRICORN,AQUARIUS,PISCES,WHITE CHESS KING,bQUEEN,bROOK,bBISHOP,bKNIGHT,bPAWN",
      "BLACK aKING,bQUEEN,bROOK,bBISHOP,bKNIGHT,bPAWN,aSPADE SUIT,WHITE HEART a,aDIAMOND a",
      "BLACK CLUB a,WHITE SPADE a,BLACK HEART a,aDIAMOND a,WHITE CLUB a,HOT SPRINGS,QUARTER NOTE",
      "EIGHTH a,BEAMED EIGHTH NOTES,aSIXTEENTH a,MUSIC FLAT SIGN,aNATURAL a,aSHARP a",
      "WEST SYRIAC CROSS,EAST b,UNIVERSAL RECYCLING SYMBOL,RECYCLING SYMBOL FOR TYPE-1 PLASTICS",
      "d2 a,d3 a,d4 a,d5 a,d6 a,d7 a,cGENERIC MATERIALS,BLACK UNIVERSAL RECYCLING SYMBOL",
      "RECYCLED PAPER SYMBOL,PARTIALLY-RECYCLED PAPER SYMBOL,PERMANENT PAPER SIGN",
      "WHEELCHAIR SYMBOL,DIE FACE-1,5,WHITE CIRCLE WITH DOT RIGHT,cTWO DOTS",
      "BLACK bWHITE DOT RIGHT,cTWO WHITE DOTS,MONOGRAM FOR YANG,bYIN,DIGRAM aGREATER YANG",
      "bLESSER YIN,cYANG,bGREATER YIN,WHITE FLAG,BLACK a,HAMMER AND PICK,ANCHOR,CROSSED SWORDS",
      "STAFF OF AESCULAPIUS,SCALES,ALEMBIC,FLOWER,GEAR,STAFF OF HERMES,ATOM SYMBOL,FLEUR-DE-LIS",
      "OUTLINED WHITE STAR,THREE LINES CONVERGING RIGHT,cLEFT,WARNING SIGN,HIGH VOLTAGE SIGN",
      "DOUBLED FEMALE a,aMALE a,INTERLOCKED FEMALE AND MALE SIGN,MALE AND FEMALE SIGN",
      "aWITH STROKE a,cAND MALE AND FEMALE SIGN,VERTICAL MALE WITH STROKE SIGN,HORIZONTAL d",
      "MEDIUM WHITE CIRCLE,aBLACK a,aSMALL WHITE CIRCLE,MARRIAGE SYMBOL,DIVORCE a",
      "UNMARRIED PARTNERSHIP SYMBOL,COFFIN,FUNERAL URN,NEUTER,CERES,PALLAS,JUNO,VESTA,CHIRON",
      "BLACK MOON LILITH,SEXTILE,SEMISEXTILE,QUINCUNX,SESQUIQUADRATE,SOCCER BALL,BASEBALL",
      "SQUARED KEY,WHITE DRAUGHTS MAN,bKING,BLACK aMAN,bKING,SNOWMAN WITHOUT SNOW",
      "SUN BEHIND CLOUD,RAIN,BLACK SNOWMAN,THUNDER CLOUD AND RAIN,TURNED WHITE SHOGI PIECE",
      "aBLACK b,WHITE DIAMOND IN SQUARE,CROSSING LANES,DISABLED CAR,OPHIUCHUS,PICK,CAR SLIDING",
      "HELMET WITH WHITE CROSS,CIRCLED CROSSING LANES,CHAINS,NO ENTRY",
      "ALTERNATE ONE-WAY LEFT WAY TRAFFIC,BLACK TWO-d,WHITE e,BLACK LEFT LANE MERGE,WHITE c",
      "DRIVE SLOW SIGN,HEAVY WHITE DOWN-POINTING TRIANGLE,LEFT CLOSED ENTRY,SQUARED SALTIRE",
      "FALLING DIAGONAL IN WHITE CIRCLE IN BLACK SQUARE,BLACK TRUCK,RESTRICTED LEFT ENTRY-1,1",
      "ASTRONOMICAL SYMBOL FOR URANUS,HEAVY CIRCLE WITH STROKE AND TWO DOTS ABOVE,PENTAGRAM",
      "RIGHT-HANDED INTERLACED PENTAGRAM,LEFT-c,INVERTED PENTAGRAM,BLACK CROSS ON SHIELD",
      "SHINTO SHRINE,CHURCH,CASTLE,HISTORIC SITE,GEAR WITHOUT HUB,aWITH HANDLES",
      "MAP SYMBOL FOR LIGHTHOUSE,MOUNTAIN,UMBRELLA ON GROUND,FOUNTAIN,FLAG IN HOLE,FERRY",
      "SAILBOAT,SQUARE FOUR CORNERS,SKIER,ICE SKATE,PERSON WITH BALL,TENT,JAPANESE BANK SYMBOL",
      "HEADSTONE GRAVEYARD a,FUEL PUMP,CUP ON BLACK SQUARE",
      "WHITE FLAG WITH HORIZONTAL MIDDLE BLACK STRIPE"]⟩,
    ⟨0x2700, ["BLACK SAFETY SCISSORS,UPPER BLADE a,BLACK SCISSORS,LOWER BLADE SCISSORS",
      "WHITE SCISSORS,aHEAVY CHECK MARK,TELEPHONE LOCATION SIGN,TAPE DRIVE,AIRPLANE,ENVELOPE",
      "RAISED FIST,aHAND,VICTORY a,WRITING a,LOWER RIGHT PENCIL,PENCIL,UPPER RIGHT PENCIL",
      "WHITE NIB,BLACK a,CHECK MARK,HEAVY CHECK MARK,MULTIPLICATION X,HEAVY MULTIPLICATION X",
      "BALLOT X,HEAVY BALLOT X,OUTLINED GREEK CROSS,HEAVY b,OPEN CENTRE a",
      "HEAVY OPEN CENTRE CROSS,LATIN CROSS,SHADOWED WHITE LATIN CROSS,OUTLINED LATIN CROSS",
      "MALTESE CROSS,STAR OF DAVID,FOUR TEARDROP-SPOKED ASTERISK,aBALLOON-b",
      "HEAVY FOUR BALLOON-SPOKED ASTERISK,FOUR CLUB-SPOKED ASTERISK,BLACK FOUR POINTED STAR",
      "WHITE c,SPARKLES,STRESS OUTLINED WHITE STAR,CIRCLED WHITE STAR,OPEN CENTRE BLACK STAR",
      "BLACK aWHITE a,OUTLINED BLACK STAR,HEAVY OUTLINED BLACK STAR,PINWHEEL STAR",
      "SHADOWED WHITE STAR,HEAVY ASTERISK,OPEN CENTRE ASTERISK,EIGHT SPOKED a",
      "aPOINTED BLACK STAR,bPINWHEEL a,SIX aBLACK a,EIGHT aRECTILINEAR BLACK STAR",
      "HEAVY EIGHT POINTED RECTILINEAR BLACK STAR,TWELVE POINTED BLACK STAR,SIXTEEN aASTERISK",
      "TEARDROP-SPOKED a,OPEN CENTRE TEARDROP-SPOKED ASTERISK,HEAVY TEARDROP-SPOKED ASTERISK",
      "SIX PETALLED BLACK AND WHITE FLORETTE,BLACK FLORETTE,WHITE a",
      "EIGHT PETALLED OUTLINED BLACK FLORETTE,CIRCLED OPEN CENTRE EIGHT POINTED STAR",
      "HEAVY TEARDROP-SPOKED PINWHEEL ASTERISK,SNOWFLAKE,TIGHT TRIFOLIATE SNOWFLAKE",
      "HEAVY CHEVRON a,SPARKLE,HEAVY SPARKLE,BALLOON-SPOKED ASTERISK",
      "EIGHT TEARDROP-SPOKED PROPELLER ASTERISK,HEAVY EIGHT TEARDROP-SPOKED PROPELLER ASTERISK",
      "CROSS MARK,SHADOWED WHITE CIRCLE,NEGATIVE SQUARED CROSS MARK",
      "LOWER RIGHT DROP-SHADOWED WHITE SQUARE,UPPER e,LOWER aSHADOWED WHITE SQUARE,UPPER d",
      "BLACK QUESTION MARK ORNAMENT,WHITE c,aEXCLAMATION b,BLACK DIAMOND MINUS WHITE X",
      "HEAVY EXCLAMATION MARK SYMBOL,LIGHT VERTICAL BAR,MEDIUM b,HEAVY b",
      "aSINGLE TURNED COMMA QUOTATION MARK ORNAMENT,bCOMMA QUOTATION MARK ORNAMENT",
      "aDOUBLE TURNED COMMA QUOTATION MARK ORNAMENT,bCOMMA QUOTATION MARK ORNAMENT",
      "aLOW SINGLE COMMA QUOTATION MARK ORNAMENT,bDOUBLE d,CURVED STEM PARAGRAPH SIGN ORNAMENT",
      "HEAVY EXCLAMATION MARK ORNAMENT,aHEART EXCLAMATION MARK ORNAMENT,aBLACK HEART",
      "ROTATED HEAVY BLACK HEART BULLET,FLORAL HEART,ROTATED FLORAL HEART BULLET",
      "MEDIUM LEFT PARENTHESIS ORNAMENT,aRIGHT b,aFLATTENED LEFT PARENTHESIS ORNAMENT,bRIGHT b",
      "aLEFT-POINTING ANGLE BRACKET ORNAMENT,aRIGHT-d,HEAVY LEFT-bQUOTATION MARK ORNAMENT",
      "aRIGHT-e,aLEFT-bBRACKET ORNAMENT,aRIGHT-d,LIGHT LEFT TORTOISE SHELL b,aRIGHT d",
      "MEDIUM LEFT CURLY BRACKET ORNAMENT,aRIGHT c,DINGBAT NEGATIVE CIRCLED DIGIT ONE,dTWO",
      "dTHREE,dFOUR,dFIVE,dSIX,dSEVEN,dEIGHT,dNINE,cNUMBER TEN,aCIRCLED SANS-SERIF DIGIT ONE",
      "eTWO,eTHREE,eFOUR,eFIVE,eSIX,eSEVEN,eEIGHT,eNINE,dNUMBER TEN",
      "aNEGATIVE CIRCLED SANS-SERIF DIGIT ONE,fTWO,fTHREE,fFOUR,fFIVE,fSIX,fSEVEN,fEIGHT,fNINE",
      "eNUMBER TEN,HEAVY WIDE-HEADED RIGHTWARDS ARROW,aPLUS SIGN,aMINUS a,aDIVISION a",
      "aSOUTH EAST ARROW,aRIGHTWARDS ARROW,aNORTH EAST ARROW,DRAFTING POINT RIGHTWARDS a",
      "HEAVY ROUND-TIPPED RIGHTWARDS ARROW,TRIANGLE-HEADED RIGHTWARDS ARROW",
      "HEAVY TRIANGLE-HEADED RIGHTWARDS ARROW,DASHED d",
      "HEAVY DASHED TRIANGLE-HEADED RIGHTWARDS ARROW,BLACK RIGHTWARDS ARROW",
      "THREE-D TOP-LIGHTED RIGHTWARDS ARROWHEAD,bBOTTOM-c,BLACK RIGHTWARDS ARROWHEAD",
      "HEAVY BLACK CURVED DOWNWARDS AND RIGHTWARDS ARROW,cUPWARDS c,SQUAT aRIGHTWARDS ARROW",
      "HEAVY CONCAVE-POINTED BLACK RIGHTWARDS ARROW,RIGHT-SHADED WHITE RIGHTWARDS ARROW,LEFT-d",
      "BACK-TILTED SHADOWED WHITE RIGHTWARDS ARROW,FRONT-e",
      "HEAVY LOWER RIGHT-SHADOWED WHITE RIGHTWARDS ARROW,aUPPER e,NOTCHED LOWER e,CURLY LOOP",
      "NOTCHED UPPER RIGHT-SHADOWED WHITE RIGHTWARDS ARROW,CIRCLED HEAVY WHITE RIGHTWARDS ARROW",
      "WHITE-FEATHERED RIGHTWARDS ARROW,BLACK-aSOUTH EAST ARROW,bRIGHTWARDS ARROW",
      "bNORTH EAST ARROW,HEAVY BLACK-FEATHERED SOUTH EAST ARROW,cRIGHTWARDS ARROW",
      "cNORTH EAST ARROW,TEARDROP-BARBED RIGHTWARDS ARROW",
      "HEAVY TEARDROP-SHANKED RIGHTWARDS ARROW,WEDGE-TAILED RIGHTWARDS ARROW",
      "HEAVY WEDGE-TAILED RIGHTWARDS ARROW,OPEN-OUTLINED RIGHTWARDS ARROW,DOUBLE CURLY LOOP",
      "THREE DIMENSIONAL ANGLE,WHITE TRIANGLE CONTAINING SMALL WHITE TRIANGLE,PERPENDICULAR",
      "OPEN SUBSET,aSUPERSET,LEFT S-SHAPED BAG DELIMITER,RIGHT d,OR WITH DOT INSIDE",
      "REVERSE SOLIDUS PRECEDING SUBSET,SUPERSET PRECEDING SOLIDUS",
      "VERTICAL BAR WITH HORIZONTAL STROKE,MATHEMATICAL RISING DIAGONAL,LONG DIVISION",
      "MATHEMATICAL FALLING DIAGONAL,SQUARED LOGICAL AND,bOR,WHITE DIAMOND WITH CENTRED DOT",
      "AND WITH DOT,ELEMENT OF OPENING UPWARDS,LOWER RIGHT CORNER WITH DOT,UPPER LEFT c",
      "LEFT OUTER JOIN,RIGHT b,FULL b,LARGE UP TACK,aDOWN a,LEFT AND RIGHT DOUBLE TURNSTILE",
      "cTACK,aMULTIMAP,LONG RIGHT TACK,aLEFT a,UP TACK WITH CIRCLE ABOVE",
      "LOZENGE DIVIDED BY HORIZONTAL RULE,WHITE CONCAVE-SIDED DIAMOND",
      "cDIAMOND WITH LEFTWARDS TICK,eRIGHTWARDS a,aSQUARE WITH LEFTWARDS TICK,cRIGHTWARDS a",
      "MATHEMATICAL LEFT WHITE SQUARE BRACKET,aRIGHT c,aLEFT ANGLE BRACKET,aRIGHT b",
      "aLEFT DOUBLE ANGLE BRACKET,aRIGHT c,aLEFT WHITE TORTOISE SHELL BRACKET,aRIGHT d",
      "aLEFT FLATTENED PARENTHESIS,aRIGHT b,UPWARDS QUADRUPLE ARROW,DOWNWARDS b",
      "ANTICLOCKWISE GAPPED CIRCLE ARROW,CLOCKWISE c,RIGHT ARROW WITH CIRCLED PLUS",
      "LONG LEFTWARDS ARROW,aRIGHTWARDS a,aLEFT RIGHT ARROW,aLEFTWARDS DOUBLE a,aRIGHTWARDS b",
      "aLEFT RIGHT DOUBLE ARROW,aLEFTWARDS ARROW FROM BAR,aRIGHTWARDS c",
      "aLEFTWARDS DOUBLE ARROW FROM BAR,aRIGHTWARDS d,bSQUIGGLE ARROW"]⟩,
    ⟨0x2800, ["BRAILLE PATTERN BLANK,bDOTS-1,1,c12,c3,c13,c23,c123,c4,c14,c24,c124,c34,c134",
      "c234,c1234,c5,c15,c25,c125,c35,c135,c235,c1235,c45,c145,c245,c1245,c345,c1345,c2345",
      "c12345,c6,c16,c26,c126,c36,c136,c236,c1236,c46,c146,c246,c1246,c346,c1346,c2346,c12346",
      "c56,c156,c256,c1256,c356,c1356,c2356,c12356,c456,c1456,c2456,c12456,c3456,c13456,c23456",
      "c123456,c7,c17,c27,c127,c37,c137,c237,c1237,c47,c147,c247,c1247,c347,c1347,c2347,c12347",
      "c57,c157,c257,c1257,c357,c1357,c2357,c12357,c457,c1457,c2457,c12457,c3457,c13457,c23457",
      "c123457,c67,c167,c267,c1267,c367,c1367,c2367,c12367,c467,c1467,c2467,c12467,c3467,c13467",
      "c23467,c123467,c567,c1567,c2567,c12567,c3567,c13567,c23567,c123567,c4567,c14567,c24567",
      "c124567,c34567,c134567,c234567,c1234567,c8,c18,c28,c128,c38,c138,c238,c1238,c48,c148,c248",
      "c1248,c348,c1348,c2348,c12348,c58,c158,c258,c1258,c358,c1358,c2358,c12358,c458,c1458",
      "c2458,c12458,c3458,c13458,c23458,c123458,c68,c168,c268,c1268,c368,c1368,c2368,c12368,c468",
      "c1468,c2468,c12468,c3468,c13468,c23468,c123468,c568,c1568,c2568,c12568,c3568,c13568",
      "c23568,c123568,c4568,c14568,c24568,c124568,c34568,c134568,c234568,c1234568,c78,c178,c278",
      "c1278,c378,c1378,c2378,c12378,c478,c1478,c2478,c12478,c3478,c13478,c23478,c123478,c578",
      "c1578,c2578,c12578,c3578,c13578,c23578,c123578,c4578,c14578,c24578,c124578,c34578,c134578",
      "c234578,c1234578,c678,c1678,c2678,c12678,c3678,c13678,c23678,c123678,c4678,c14678,c24678",
      "c124678,c34678,c134678,c234678,c1234678,c5678,c15678,c25678,c125678,c35678,c135678",
      "c235678,c1235678,c45678,c145678,c245678,c1245678,c345678,c1345678,c2345678,c12345678"]⟩,
    ⟨0x2900, ["RIGHTWARDS TWO-HEADED ARROW WITH VERTICAL STROKE,eDOUBLE VERTICAL STROKE",
      "LEFTWARDS DOUBLE ARROW WITH VERTICAL STROKE,RIGHTWARDS e",
      "LEFT RIGHT DOUBLE ARROW WITH VERTICAL STROKE,RIGHTWARDS TWO-HEADED aFROM BAR",
      "LEFTWARDS DOUBLE ARROW FROM BAR,RIGHTWARDS d,DOWNWARDS ARROW WITH HORIZONTAL STROKE",
      "UPWARDS d,aTRIPLE ARROW,DOWNWARDS b,LEFTWARDS DOUBLE DASH ARROW,RIGHTWARDS c",
      "LEFTWARDS TRIPLE b,RIGHTWARDS c,aTWO-HEADED TRIPLE DASH ARROW,aARROW WITH DOTTED STEM",
      "UPWARDS aTO BAR,DOWNWARDS c,RIGHTWARDS aWITH TAIL WITH VERTICAL STROKE",
      "eDOUBLE VERTICAL STROKE,aTWO-HEADED ARROW aTAIL,eTAIL WITH VERTICAL STROKE",
      "gDOUBLE VERTICAL STROKE,LEFTWARDS ARROW-TAIL,RIGHTWARDS b,LEFTWARDS DOUBLE ARROW-TAIL",
      "RIGHTWARDS c,LEFTWARDS ARROW TO BLACK DIAMOND,RIGHTWARDS d",
      "LEFTWARDS aFROM BAR TO BLACK DIAMOND,RIGHTWARDS f,NORTH WEST AND SOUTH EAST ARROW",
      "aEAST bWEST a,aWEST ARROW WITH HOOK,aEAST c,SOUTH d,aWEST c,NORTH bAND NORTH EAST ARROW",
      "aEAST bSOUTH b,SOUTH dWEST a,aWEST bNORTH b,RISING DIAGONAL CROSSING FALLING DIAGONAL",
      "FALLING bRISING a,SOUTH EAST ARROW CROSSING NORTH EAST ARROW,NORTH cSOUTH b",
      "FALLING DIAGONAL CROSSING NORTH EAST ARROW,RISING bSOUTH b",
      "NORTH EAST ARROW CROSSING NORTH WEST ARROW,aWEST cEAST a",
      "WAVE ARROW POINTING DIRECTLY RIGHT,ARROW POINTING RIGHTWARDS THEN CURVING UPWARDS",
      "eDOWNWARDS,bDOWNWARDS bLEFTWARDS,eRIGHTWARDS,RIGHT-SIDE ARC CLOCKWISE ARROW",
      "LEFT-bANTICLOCKWISE a,TOP ARC ANTICLOCKWISE ARROW,BOTTOM c",
      "TOP aCLOCKWISE ARROW WITH MINUS,bANTICLOCKWISE bPLUS",
      "LOWER RIGHT SEMICIRCULAR CLOCKWISE ARROW,aLEFT aANTICLOCKWISE a",
      "ANTICLOCKWISE CLOSED CIRCLE ARROW,CLOCKWISE c",
      "RIGHTWARDS ARROW ABOVE SHORT LEFTWARDS ARROW,LEFTWARDS cRIGHTWARDS a",
      "SHORT RIGHTWARDS ARROW ABOVE LEFTWARDS a,RIGHTWARDS ARROW WITH PLUS BELOW,LEFTWARDS d",
      "RIGHTWARDS aTHROUGH X,LEFT RIGHT ARROW THROUGH SMALL CIRCLE",
      "UPWARDS TWO-HEADED ARROW FROM SMALL CIRCLE,LEFT BARB UP RIGHT BARB DOWN HARPOON",
      "bDOWN bUP a,UP aRIGHT DOWN aLEFT a,bLEFT bRIGHT a,LEFT aUP RIGHT aUP a",
      "UP aRIGHT DOWN aRIGHT a,LEFT aDOWN RIGHT aDOWN a,UP aLEFT DOWN aLEFT a",
      "LEFTWARDS HARPOON WITH BARB UP TO BAR,RIGHTWARDS f,UPWARDS cRIGHT b,DOWNWARDS f",
      "LEFTWARDS cDOWN b,RIGHTWARDS f,UPWARDS cLEFT b,DOWNWARDS f,LEFTWARDS cUP FROM a",
      "RIGHTWARDS f,UPWARDS cRIGHT b,DOWNWARDS f,LEFTWARDS cDOWN b,RIGHTWARDS f,UPWARDS cLEFT b",
      "DOWNWARDS f,LEFTWARDS cUP ABOVE LEFTWARDS HARPOON WITH BARB DOWN",
      "UPWARDS cLEFT BESIDE UPWARDS cRIGHT,RIGHTWARDS cUP ABOVE RIGHTWARDS cDOWN",
      "DOWNWARDS cLEFT BESIDE DOWNWARDS cRIGHT,LEFTWARDS cUP ABOVE RIGHTWARDS cUP,dDOWN eDOWN",
      "RIGHTWARDS cUP aLEFTWARDS cUP,dDOWN eDOWN,LEFTWARDS cUP aLONG DASH,dDOWN BELOW b",
      "RIGHTWARDS cUP ABOVE b,dDOWN BELOW b",
      "UPWARDS cLEFT BESIDE DOWNWARDS HARPOON WITH BARB RIGHT,DOWNWARDS eUPWARDS d",
      "RIGHT DOUBLE ARROW WITH ROUNDED HEAD,EQUALS SIGN ABOVE RIGHTWARDS ARROW,TILDE OPERATOR c",
      "LEFTWARDS ARROW aTILDE OPERATOR,RIGHTWARDS d,cALMOST EQUAL TO,LESS-THAN aLEFTWARDS ARROW",
      "LEFTWARDS ARROW THROUGH LESS-THAN,GREATER-THAN ABOVE RIGHTWARDS ARROW",
      "SUBSET ABOVE RIGHTWARDS ARROW,LEFTWARDS ARROW THROUGH SUBSET",
      "SUPERSET ABOVE LEFTWARDS ARROW,LEFT FISH TAIL,RIGHT b,UP b,DOWN b",
      "TRIPLE VERTICAL BAR DELIMITER,Z NOTATION SPOT,bTYPE COLON,LEFT WHITE CURLY BRACKET",
      "RIGHT c,LEFT aPARENTHESIS,RIGHT b,Z NOTATION LEFT IMAGE BRACKET,bRIGHT b,bLEFT BINDING a",
      "bRIGHT b,LEFT SQUARE BRACKET WITH UNDERBAR,RIGHT d,LEFT cTICK IN TOP CORNER",
      "RIGHT eBOTTOM a,LEFT g,RIGHT eTOP a,LEFT ANGLE bDOT,RIGHT d,LEFT ARC LESS-THAN BRACKET",
      "RIGHT aGREATER-b,DOUBLE LEFT ARC GREATER-THAN BRACKET,aRIGHT aLESS-b",
      "LEFT BLACK TORTOISE SHELL BRACKET,RIGHT d,DOTTED FENCE,VERTICAL ZIGZAG LINE",
      "MEASURED ANGLE OPENING LEFT,RIGHT aVARIANT WITH SQUARE,MEASURED RIGHT ANGLE aDOT",
      "ANGLE WITH S INSIDE,ACUTE ANGLE,SPHERICAL ANGLE OPENING LEFT,cUP,TURNED ANGLE,REVERSED a",
      "ANGLE WITH UNDERBAR,REVERSED ANGLE WITH UNDERBAR,OBLIQUE aOPENING UP,cDOWN",
      "MEASURED aWITH OPEN ARM ENDING IN ARROW POINTING UP AND RIGHT,kLEFT,iDOWN aRIGHT,kLEFT",
      "iRIGHT aUP,iLEFT b,iRIGHT aDOWN,iLEFT b,REVERSED EMPTY SET,EMPTY SET WITH OVERBAR",
      "cSMALL CIRCLE ABOVE,cRIGHT ARROW a,cLEFT b,CIRCLE WITH HORIZONTAL BAR",
      "CIRCLED VERTICAL BAR,aPARALLEL,aREVERSE SOLIDUS,aPERPENDICULAR",
      "CIRCLE DIVIDED BY HORIZONTAL BAR AND TOP HALF DIVIDED BY VERTICAL BAR",
      "aWITH SUPERIMPOSED X,CIRCLED ANTICLOCKWISE-ROTATED DIVISION SIGN,UP ARROW THROUGH CIRCLE",
      "CIRCLED WHITE BULLET,aBULLET,aLESS-THAN,aGREATER-a,CIRCLE WITH SMALL CIRCLE TO THE RIGHT",
      "bTWO HORIZONTAL STROKES TO THE RIGHT,SQUARED RISING DIAGONAL SLASH,aFALLING b,aASTERISK",
      "aSMALL CIRCLE,aSQUARE,TWO JOINED SQUARES,TRIANGLE WITH DOT ABOVE,bUNDERBAR,S IN TRIANGLE",
      "TRIANGLE WITH SERIFS AT BOTTOM,RIGHT TRIANGLE ABOVE LEFT TRIANGLE",
      "LEFT aBESIDE VERTICAL BAR,VERTICAL BAR aRIGHT TRIANGLE,BOWTIE WITH LEFT HALF BLACK",
      "bRIGHT b,BLACK BOWTIE,TIMES WITH LEFT HALF BLACK,bRIGHT b,WHITE HOURGLASS,BLACK a",
      "LEFT WIGGLY FENCE,RIGHT b,LEFT DOUBLE WIGGLY FENCE,RIGHT c,INCOMPLETE INFINITY",
      "TIE OVER INFINITY,INFINITY NEGATED WITH VERTICAL BAR,DOUBLE-ENDED MULTIMAP",
      "SQUARE WITH CONTOURED OUTLINE,INCREASES AS,SHUFFLE PRODUCT",
      "EQUALS SIGN AND SLANTED PARALLEL,dPARALLEL WITH TILDE ABOVE,IDENTICAL TO bPARALLEL",
      "GLEICH STARK,THERMODYNAMIC,DOWN-POINTING TRIANGLE WITH LEFT HALF BLACK,dRIGHT b",
      "BLACK DIAMOND WITH DOWN ARROW,aLOZENGE,WHITE CIRCLE WITH DOWN ARROW,BLACK d",
      "ERROR-BARRED WHITE SQUARE,bBLACK a,bWHITE DIAMOND,bBLACK a,bWHITE CIRCLE,bBLACK a",
      "RULE-DELAYED,REVERSE SOLIDUS OPERATOR,SOLIDUS WITH OVERBAR",
      "REVERSE SOLIDUS WITH HORIZONTAL STROKE,BIG SOLIDUS,aREVERSE SOLIDUS,DOUBLE PLUS,TRIPLE a",
      "LEFT-POINTING CURVED ANGLE BRACKET,RIGHT-d,TINY,MINY"]⟩,
    ⟨0x2A00, ["N-ARY CIRCLED DOT OPERATOR,cPLUS a,cTIMES a,bUNION OPERATOR WITH DOT,ePLUS",
      "bSQUARE INTERSECTION OPERATOR,cUNION a,TWO LOGICAL AND OPERATOR,bOR a,N-ARY TIMES a",
      "MODULO TWO SUM,SUMMATION WITH INTEGRAL,QUADRUPLE INTEGRAL OPERATOR,FINITE PART INTEGRAL",
      "INTEGRAL WITH DOUBLE STROKE,aAVERAGE WITH SLASH,CIRCULATION FUNCTION",
      "ANTICLOCKWISE INTEGRATION,LINE INTEGRATION WITH RECTANGULAR PATH AROUND POLE",
      "cSEMICIRCULAR c,bNOT INCLUDING THE POLE,INTEGRAL AROUND A POINT OPERATOR",
      "QUATERNION INTEGRAL OPERATOR,INTEGRAL WITH LEFTWARDS ARROW WITH HOOK,bTIMES SIGN",
      "bINTERSECTION,bUNION,bOVERBAR,bUNDERBAR,JOIN,LARGE LEFT TRIANGLE OPERATOR",
      "Z NOTATION SCHEMA COMPOSITION,cPIPING,cPROJECTION,PLUS SIGN WITH SMALL CIRCLE ABOVE",
      "cCIRCUMFLEX ACCENT a,cTILDE ABOVE,cDOT BELOW,cTILDE a,cSUBSCRIPT TWO,cBLACK TRIANGLE",
      "MINUS bCOMMA ABOVE,cDOT BELOW,cFALLING DOTS,cRISING a,PLUS aIN LEFT HALF CIRCLE,cRIGHT b",
      "VECTOR OR CROSS PRODUCT,MULTIPLICATION SIGN WITH DOT ABOVE,cUNDERBAR",
      "SEMIDIRECT PRODUCT aBOTTOM CLOSED,SMASH PRODUCT,MULTIPLICATION SIGN IN LEFT HALF CIRCLE",
      "cRIGHT b,CIRCLED MULTIPLICATION SIGN WITH CIRCUMFLEX ACCENT",
      "MULTIPLICATION SIGN IN DOUBLE CIRCLE,CIRCLED DIVISION SIGN,PLUS SIGN IN TRIANGLE,MINUS c",
      "MULTIPLICATION c,INTERIOR PRODUCT,RIGHTHAND INTERIOR PRODUCT",
      "Z NOTATION RELATIONAL COMPOSITION,AMALGAMATION OR COPRODUCT,INTERSECTION WITH DOT",
      "UNION aMINUS SIGN,bOVERBAR,INTERSECTION b,bLOGICAL AND,UNION bOR,aABOVE INTERSECTION",
      "INTERSECTION aUNION,UNION aBAR ABOVE INTERSECTION,INTERSECTION cUNION",
      "UNION BESIDE AND JOINED WITH UNION,INTERSECTION dINTERSECTION,CLOSED UNION WITH SERIFS",
      "aINTERSECTION b,DOUBLE SQUARE INTERSECTION,bUNION",
      "CLOSED UNION WITH SERIFS AND SMASH PRODUCT,LOGICAL AND aDOT ABOVE,aOR c",
      "DOUBLE LOGICAL AND,bOR,TWO INTERSECTING LOGICAL AND,cOR,SLOPING LARGE OR,bAND",
      "LOGICAL OR OVERLAPPING LOGICAL AND,aAND WITH MIDDLE STEM,aOR c,aAND aHORIZONTAL DASH",
      "aOR c,aAND aDOUBLE OVERBAR,cUNDERBAR,cDOUBLE UNDERBAR,SMALL VEE aUNDERBAR",
      "LOGICAL OR aDOUBLE OVERBAR,dUNDERBAR,Z NOTATION DOMAIN ANTIRESTRICTION,bRANGE a",
      "EQUALS SIGN WITH DOT BELOW,IDENTICAL WITH DOT ABOVE",
      "TRIPLE HORIZONTAL BAR WITH DOUBLE VERTICAL STROKE,dTRIPLE b,TILDE OPERATOR WITH DOT ABOVE",
      "cRISING DOTS,SIMILAR MINUS SIMILAR,CONGRUENT WITH DOT ABOVE,EQUALS aASTERISK",
      "ALMOST EQUAL TO WITH CIRCUMFLEX ACCENT,APPROXIMATELY aOR EQUAL TO",
      "EQUALS SIGN ABOVE PLUS SIGN,PLUS bEQUALS a,EQUALS bTILDE OPERATOR,DOUBLE COLON EQUAL",
      "TWO CONSECUTIVE EQUALS SIGNS,THREE c,EQUALS SIGN WITH TWO DOTS ABOVE AND TWO DOTS BELOW",
      "EQUIVALENT WITH FOUR DOTS ABOVE,LESS-THAN WITH CIRCLE INSIDE,GREATER-d",
      "LESS-bQUESTION MARK ABOVE,GREATER-e,LESS-aOR SLANTED EQUAL TO,GREATER-e",
      "LESS-dTO WITH DOT INSIDE,GREATER-h,LESS-gABOVE,GREATER-h,LESS-gABOVE RIGHT,GREATER-hLEFT",
      "LESS-bAPPROXIMATE,GREATER-c,LESS-aAND SINGLE-LINE NOT EQUAL TO,GREATER-g",
      "LESS-bNOT APPROXIMATE,GREATER-d,LESS-aABOVE DOUBLE-LINE EQUAL ABOVE GREATER-THAN",
      "GREATER-fLESS-a,LESS-bSIMILAR OR EQUAL,GREATER-e,LESS-cABOVE GREATER-THAN,GREATER-dLESS-a",
      "LESS-bGREATER-THAN ABOVE DOUBLE-LINE EQUAL,GREATER-bLESS-e",
      "LESS-bSLANTED EQUAL aGREATER-THAN ABOVE SLANTED EQUAL,GREATER-eLESS-d",
      "SLANTED EQUAL TO OR LESS-THAN,dGREATER-a,dLESS-THAN WITH DOT INSIDE,dGREATER-d",
      "DOUBLE-LINE EQUAL TO OR LESS-THAN,eGREATER-a,bSLANTED EQUAL TO OR LESS-THAN,fGREATER-a",
      "SIMILAR OR LESS-THAN,bGREATER-a,aABOVE LESS-THAN ABOVE EQUALS SIGN,bGREATER-d",
      "DOUBLE NESTED LESS-THAN,bGREATER-a,bLESS-THAN WITH UNDERBAR",
      "GREATER-THAN OVERLAPPING LESS-THAN,bBESIDE b,LESS-aCLOSED BY CURVE,GREATER-d",
      "LESS-cCURVE ABOVE SLANTED EQUAL,GREATER-g,SMALLER THAN,LARGER a,SMALLER THAN OR EQUAL TO",
      "LARGER d,EQUALS SIGN WITH BUMPY ABOVE,PRECEDES ABOVE SINGLE-LINE EQUALS SIGN,SUCCEEDS e",
      "PRECEDES cNOT EQUAL TO,SUCCEEDS f,PRECEDES aEQUALS SIGN,SUCCEEDS c,PRECEDES aNOT EQUAL TO",
      "SUCCEEDS d,PRECEDES aALMOST b,SUCCEEDS d,PRECEDES aNOT ALMOST EQUAL TO,SUCCEEDS e",
      "DOUBLE PRECEDES,aSUCCEEDS,SUBSET WITH DOT,SUPERSET b,SUBSET aPLUS SIGN BELOW,SUPERSET d",
      "SUBSET aMULTIPLICATION b,SUPERSET d,SUBSET OF OR EQUAL TO WITH DOT ABOVE,SUPERSET g",
      "SUBSET aABOVE EQUALS SIGN,SUPERSET d,SUBSET bTILDE OPERATOR,SUPERSET d",
      "SUBSET bALMOST EQUAL TO,SUPERSET e,SUBSET bNOT b,SUPERSET e,SQUARE LEFT OPEN BOX OPERATOR",
      "aRIGHT c,CLOSED SUBSET,aSUPERSET,aSUBSET OR EQUAL TO,aSUPERSET c,SUBSET ABOVE SUPERSET",
      "SUPERSET aSUBSET,SUBSET b,SUPERSET aSUPERSET,aBESIDE SUBSET",
      "bAND JOINED BY DASH WITH SUBSET,ELEMENT OF OPENING DOWNWARDS,PITCHFORK WITH TEE TOP",
      "TRANSVERSAL INTERSECTION,FORKING,NONFORKING,SHORT LEFT TACK,aDOWN a,aUP a",
      "PERPENDICULAR WITH S,VERTICAL BAR TRIPLE RIGHT TURNSTILE,DOUBLE VERTICAL BAR LEFT a",
      "VERTICAL BAR DOUBLE b,DOUBLE VERTICAL BAR DOUBLE LEFT TURNSTILE",
      "LONG DASH FROM LEFT MEMBER OF DOUBLE VERTICAL,SHORT DOWN TACK WITH OVERBAR,aUP bUNDERBAR",
      "cABOVE SHORT DOWN TACK,DOUBLE DOWN TACK,aUP a,aSTROKE NOT SIGN",
      "REVERSED DOUBLE STROKE NOT SIGN,DOES NOT DIVIDE WITH REVERSED NEGATION SLASH",
      "VERTICAL LINE WITH CIRCLE ABOVE,dBELOW,DOWN TACK c,PARALLEL WITH HORIZONTAL STROKE",
      "bTILDE OPERATOR,TRIPLE VERTICAL BAR BINARY RELATION,cWITH HORIZONTAL STROKE",
      "aCOLON OPERATOR,aNESTED LESS-THAN,bGREATER-a,DOUBLE-LINE SLANTED LESS-THAN OR EQUAL TO",
      "cGREATER-d,TRIPLE SOLIDUS BINARY RELATION,LARGE TRIPLE VERTICAL BAR OPERATOR",
      "DOUBLE SOLIDUS OPERATOR,WHITE VERTICAL BAR,N-ARY WHITE VERTICAL BAR"]⟩,
    ⟨0x2B00, ["NORTH EAST WHITE ARROW,aWEST b,SOUTH EAST b,aWEST b,LEFT RIGHT b",
      "LEFTWARDS BLACK ARROW,UPWARDS b,DOWNWARDS b,NORTH EAST BLACK ARROW,aWEST b,SOUTH EAST b",
      "aWEST b,LEFT RIGHT b,UP DOWN b,RIGHTWARDS ARROW WITH TIP DOWNWARDS,dUPWARDS",
      "LEFTWARDS cDOWNWARDS,dUPWARDS,SQUARE WITH TOP HALF BLACK,bBOTTOM b",
      "bUPPER RIGHT DIAGONAL HALF BLACK,bLOWER LEFT c,DIAMOND aLEFT HALF BLACK,bRIGHT b,bTOP b",
      "bBOTTOM b,DOTTED SQUARE,BLACK LARGE SQUARE,WHITE b,BLACK VERY SMALL SQUARE,WHITE c",
      "BLACK PENTAGON,WHITE a,aHEXAGON,BLACK a,HORIZONTAL BLACK HEXAGON,BLACK LARGE CIRCLE",
      "aMEDIUM DIAMOND,WHITE b,BLACK aLOZENGE,WHITE b,BLACK SMALL DIAMOND,bLOZENGE,WHITE b",
      "BLACK HORIZONTAL ELLIPSE,WHITE b,BLACK VERTICAL a,WHITE b,LEFT ARROW WITH SMALL CIRCLE",
      "THREE LEFTWARDS ARROWS,LEFT ARROW WITH CIRCLED PLUS,LONG LEFTWARDS SQUIGGLE ARROW",
      "LEFTWARDS TWO-HEADED ARROW WITH VERTICAL STROKE,eDOUBLE VERTICAL STROKE,dFROM BAR",
      "cTRIPLE DASH ARROW,aARROW WITH DOTTED STEM,cTAIL WITH VERTICAL STROKE",
      "eDOUBLE VERTICAL STROKE,aTWO-HEADED ARROW aTAIL,eTAIL WITH VERTICAL STROKE",
      "gDOUBLE VERTICAL STROKE,aARROW THROUGH X,WAVE aPOINTING DIRECTLY LEFT",
      "EQUALS SIGN ABOVE LEFTWARDS ARROW,REVERSE TILDE OPERATOR ABOVE LEFTWARDS ARROW",
      "LEFTWARDS ARROW ABOVE REVERSE ALMOST EQUAL TO,RIGHTWARDS aTHROUGH GREATER-THAN,cSUPERSET",
      "LEFTWARDS QUADRUPLE ARROW,RIGHTWARDS b,REVERSE TILDE OPERATOR ABOVE RIGHTWARDS ARROW",
      "RIGHTWARDS ARROW ABOVE REVERSE ALMOST EQUAL TO,TILDE OPERATOR aLEFTWARDS ARROW",
      "LEFTWARDS ARROW aALMOST EQUAL TO,cREVERSE TILDE OPERATOR,RIGHTWARDS e",
      "DOWNWARDS TRIANGLE-HEADED ZIGZAG ARROW,SHORT SLANTED NORTH ARROW,aBACKSLANTED SOUTH a",
      "WHITE MEDIUM STAR,BLACK SMALL a,WHITE b,BLACK RIGHT-POINTING PENTAGON,WHITE c",
      "HEAVY LARGE CIRCLE,aOVAL WITH OVAL INSIDE,aCIRCLE aCIRCLE a,aCIRCLE,aCIRCLED SALTIRE",
      "SLANTED NORTH ARROW WITH HOOKED HEAD,BACKSLANTED SOUTH cTAIL,SLANTED NORTH bHORIZONTAL a",
      "BACKSLANTED SOUTH d,BENT ARROW POINTING DOWNWARDS THEN NORTH EAST",
      "SHORT BENT ARROW POINTING DOWNWARDS THEN NORTH EAST,LEFTWARDS TRIANGLE-HEADED ARROW",
      "UPWARDS c,RIGHTWARDS c,DOWNWARDS c,LEFT RIGHT TRIANGLE-HEADED ARROW,UP DOWN c",
      "NORTH WEST c,aEAST c,SOUTH d,aWEST c,LEFTWARDS TRIANGLE-HEADED DASHED a,UPWARDS d",
      "RIGHTWARDS d,DOWNWARDS d,CLOCKWISE bOPEN CIRCLE ARROW,ANTICLOCKWISE e",
      "LEFTWARDS bARROW TO BAR,UPWARDS e,RIGHTWARDS e,DOWNWARDS e,,",
      "NORTH WEST TRIANGLE-HEADED ARROW TO BAR,aEAST e,SOUTH f,aWEST e",
      "LEFTWARDS TRIANGLE-HEADED ARROW WITH DOUBLE HORIZONTAL STROKE,UPWARDS g,RIGHTWARDS g",
      "DOWNWARDS g,HORIZONTAL TAB KEY,VERTICAL b",
      "LEFTWARDS TRIANGLE-HEADED ARROW OVER RIGHTWARDS TRIANGLE-HEADED ARROW",
      "UPWARDS cLEFTWARDS OF DOWNWARDS TRIANGLE-HEADED ARROW",
      "RIGHTWARDS cOVER LEFTWARDS TRIANGLE-HEADED ARROW",
      "DOWNWARDS cLEFTWARDS OF UPWARDS TRIANGLE-HEADED ARROW,LEFTWARDS bPAIRED ARROWS,UPWARDS d",
      "RIGHTWARDS d,DOWNWARDS d,LEFTWARDS BLACK CIRCLED WHITE ARROW,UPWARDS d,RIGHTWARDS d",
      "DOWNWARDS d,ANTICLOCKWISE TRIANGLE-HEADED RIGHT U-SHAPED ARROW,cBOTTOM c,cLEFT c,cTOP c",
      "RETURN LEFT,aRIGHT,NEWLINE LEFT,aRIGHT,FOUR CORNER ARROWS CIRCLING ANTICLOCKWISE",
      "RIGHTWARDS BLACK ARROW,,SYMBOL FOR TYPE A ELECTRONICS",
      "THREE-D TOP-LIGHTED LEFTWARDS EQUILATERAL ARROWHEAD,bRIGHT-aUPWARDS b,bTOP-aRIGHTWARDS b",
      "bLEFT-aDOWNWARDS b,BLACK LEFTWARDS EQUILATERAL ARROWHEAD,aUPWARDS b,aRIGHTWARDS b",
      "aDOWNWARDS b,DOWNWARDS TRIANGLE-HEADED ARROW WITH LONG TIP LEFTWARDS,gRIGHTWARDS",
      "UPWARDS fLEFTWARDS,gRIGHTWARDS,LEFTWARDS fUPWARDS,RIGHTWARDS g,LEFTWARDS fDOWNWARDS",
      "RIGHTWARDS g,BLACK CURVED DOWNWARDS AND LEFTWARDS ARROW,dRIGHTWARDS a",
      "bUPWARDS aLEFTWARDS a,dRIGHTWARDS a,bLEFTWARDS aUPWARDS a,bRIGHTWARDS c",
      "bLEFTWARDS aDOWNWARDS a,bRIGHTWARDS c,RIBBON ARROW DOWN LEFT,cRIGHT,bUP LEFT,cRIGHT",
      "bLEFT UP,bRIGHT a,bLEFT DOWN,bRIGHT a,UPWARDS WHITE ARROW FROM BAR WITH HORIZONTAL BAR",
      "UP ARROWHEAD IN A RECTANGLE BOX,OVERLAPPING WHITE SQUARES,bAND BLACK SQUARES",
      "aBLACK SQUARES,BALLOT BOX WITH LIGHT X,CIRCLED X,aBOLD X,BLACK SQUARE CENTRED,aDIAMOND a",
      "TURNED BLACK PENTAGON,HORIZONTAL aOCTAGON,BLACK OCTAGON",
      "aMEDIUM UP-POINTING TRIANGLE CENTRED,bDOWN-c,bLEFT-c,bRIGHT-c,NEPTUNE FORM TWO",
      "TOP HALF BLACK CIRCLE,BOTTOM c,LIGHT FOUR POINTED BLACK CUSP",
      "ROTATED LIGHT FOUR POINTED BLACK CUSP,WHITE FOUR POINTED CUSP",
      "ROTATED WHITE FOUR POINTED CUSP,SQUARE POSITION INDICATOR,UNCERTAINTY SIGN,GROUP MARK",
      "PLUTO FORM TWO,bTHREE,bFOUR,bFIVE,TRANSPLUTO,PROSERPINA,ASTRAEA,HYGIEA,PHOLUS,NESSUS",
      "WHITE MOON SELENA,BLACK DIAMOND ON CROSS,TRUE LIGHT MOON ARTA,CUPIDO,HADES,ZEUS,KRONOS",
      "APOLLON,ADMETOS,VULCANUS,POSEIDON,LEFT HALF BLACK STAR,RIGHT c,STAR WITH LEFT HALF BLACK",
      "bRIGHT b,LEFTWARDS TWO-HEADED ARROW WITH TRIANGLE ARROWHEADS,UPWARDS f,RIGHTWARDS f",
      "DOWNWARDS f,ERIS FORM ONE,bTWO,SEDNA,RUSSIAN ASTROLOGICAL SYMBOL VIGINTILE,cNOVILE",
      "cQUINTILE,cBINOVILE,cSENTAGON,cTREDECILE,EQUALS SIGN WITH INFINITY BELOW,UNITED SYMBOL",
      "SEPARATED a,DOUBLED a,PASSED a,REVERSED RIGHT ANGLE,HELLSCHREIBER PAUSE SYMBOL"]⟩]

end CharacterName

end DartComments
