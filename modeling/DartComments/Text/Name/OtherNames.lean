import DartComments.Text.Name.Row

/-!
# Other names of characters

The names that characters have besides their own: those of control characters, which have no other,
abbreviations, and corrections.
-/

namespace DartComments

namespace CharacterName

set_option maxRecDepth 4000 in
/-- Names that characters have besides. -/
def otherNames : List Row :=
  [⟨0x0, ["NULL,START OF HEADING,bTEXT,END b,bTRANSMISSION,ENQUIRY,ACKNOWLEDGE,ALERT",
      "BACKSPACE,CHARACTER TABULATION,LINE FEED,aTABULATION,FORM FEED,CARRIAGE RETURN,SHIFT OUT",
      "aIN,DATA LINK ESCAPE,DEVICE CONTROL ONE,bTWO,bTHREE,bFOUR,NEGATIVE ACKNOWLEDGE",
      "SYNCHRONOUS IDLE,END OF TRANSMISSION BLOCK,CANCEL,END OF MEDIUM,SUBSTITUTE,ESCAPE",
      "INFORMATION SEPARATOR FOUR,bTHREE,bTWO,bONE,SP"]⟩,
    ⟨0x7F, ["DELETE,PADDING CHARACTER,HIGH OCTET PRESET,BREAK PERMITTED HERE,NO BREAK a,INDEX",
      "NEXT LINE,START OF SELECTED AREA,END c,CHARACTER TABULATION SET,bWITH JUSTIFICATION",
      "LINE aSET,PARTIAL LINE FORWARD,bBACKWARD,REVERSE aFEED,SINGLE SHIFT TWO,bTHREE",
      "DEVICE CONTROL STRING,PRIVATE USE ONE,bTWO,SET TRANSMIT STATE,CANCEL CHARACTER",
      "MESSAGE WAITING,START OF GUARDED AREA,END c,START aSTRING",
      "SINGLE GRAPHIC CHARACTER INTRODUCER,aCHARACTER INTRODUCER,CONTROL SEQUENCE a",
      "STRING TERMINATOR,OPERATING SYSTEM COMMAND,PRIVACY MESSAGE,APPLICATION PROGRAM COMMAND",
      "NBSP"]⟩,
    ⟨0xAD, ["SHY"]⟩,
    ⟨0x1A2, ["LATIN CAPITAL LETTER GHA,aSMALL b"]⟩,
    ⟨0x34F, ["CGJ"]⟩,
    ⟨0x61C, ["ALM"]⟩,
    ⟨0x709, ["SYRIAC SUBLINEAR COLON SKEWED LEFT"]⟩,
    ⟨0xCDE, ["KANNADA LETTER LLLA"]⟩,
    ⟨0xE9D, ["LAO LETTER FO FON,,cFAY,,,,bRO,,bLO"]⟩,
    ⟨0xFD0, ["TIBETAN MARK BKA- SHOG GI MGO RGYAN"]⟩,
    ⟨0x11EC, ["HANGUL JONGSEONG YESIEUNG-KIYEOK,cSSANGKIYEOK,bSSANGYESIEUNG,bYESIEUNG-KHIEUKH"]⟩,
    ⟨0x180B, ["FVS1,2,MVS,FVS4"]⟩,
    ⟨0x200B, ["ZWSP,ZWNJ,ZWJ,LRM,RLM"]⟩,
    ⟨0x202A, ["LRE,RLE,PDF,LRO,RLO,NNBSP"]⟩,
    ⟨0x205F, ["MMSP,WJ"]⟩,
    ⟨0x2066, ["LRI,RLI,FSI,PDI"]⟩,
    ⟨0x2118, ["WEIERSTRASS ELLIPTIC FUNCTION"]⟩,
    ⟨0x2448, ["MICR ON US SYMBOL,aDASH SYMBOL"]⟩,
    ⟨0x2B7A, ["LEFTWARDS TRIANGLE-HEADED ARROW WITH DOUBLE VERTICAL STROKE,,RIGHTWARDS g"]⟩,
    ⟨0xA015, ["YI SYLLABLE ITERATION MARK"]⟩,
    ⟨0xAA6E, ["MYANMAR LETTER KHAMTI LLA"]⟩,
    ⟨0xFE00, ["VS1,15"]⟩,
    ⟨0xFE18, ["PRESENTATION FORM FOR VERTICAL RIGHT WHITE LENTICULAR BRACKET"]⟩,
    ⟨0xFEFF, ["BYTE ORDER MARK"]⟩,
    ⟨0x122D4, ["CUNEIFORM SIGN NU11 TENU,cOVER NU11 BUR OVER BUR"]⟩,
    ⟨0x16E56, ["MEDEFAIDRIN CAPITAL LETTER H,cNG"]⟩,
    ⟨0x16E76, ["MEDEFAIDRIN SMALL LETTER H,cNG"]⟩,
    ⟨0x1B001, ["HENTAIGANA LETTER E-1"]⟩,
    ⟨0x1D0C5, ["BYZANTINE MUSICAL SYMBOL FTHORA SKLIRON CHROMA VASIS"]⟩,
    ⟨0xE0100, ["VS17,239"]⟩,
    ⟨0x0, ["NUL,SOH,STX,ETX,EOT,ENQ,ACK,BEL,BS,HORIZONTAL TABULATION,NEW LINE",
      "VERTICAL TABULATION,FF,CR,LOCKING-SHIFT ONE,bZERO,DLE,DC1,3,NAK,SYN,ETB,CAN,EOM,SUB,ESC",
      "FILE SEPARATOR,GROUP a,RECORD a,UNIT a"]⟩,
    ⟨0x7F, ["DEL,PAD,HOP,BPH,NBH,IND,NEL,SSA,ESA,HORIZONTAL TABULATION SET",
      "bWITH JUSTIFICATION,VERTICAL aSET,PARTIAL LINE DOWN,bUP,REVERSE INDEX,SINGLE-SHIFT-2,1",
      "DCS,PRIVATE USE-1,1,STS,CCH,MW,START OF PROTECTED AREA,END c,SOS,SGC,SCI,CSI,ST,OSC,PM",
      "APC"]⟩,
    ⟨0xFEFF, ["BOM"]⟩,
    ⟨0x9, ["HT,END OF LINE,VT,,,SO,SI"]⟩,
    ⟨0x1C, ["FS,GS,RS,US"]⟩,
    ⟨0x88, ["HTS,HTJ,VTS,PLD,PLU,RI,SS2,1,,PU1,1,,,,SPA,EPA"]⟩,
    ⟨0xFEFF, ["ZWNBSP"]⟩,
    ⟨0x9, ["TAB,LF"]⟩,
    ⟨0xA, ["NL"]⟩,
    ⟨0xA, ["EOL"]⟩]

end CharacterName

end DartComments
