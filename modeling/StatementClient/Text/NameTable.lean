/-!
# Unicode character names

The names of the Unicode 14 characters that are named one by one, and the aliases that name a
character as well. The CJK unified ideographs and the Hangul syllables are named by rule and are
not listed here.

The names come as lines, each covering consecutive code points from the first one it gives. A
line holds its names separated by semicolons; each name is written as a lowercase letter that
counts the leading words it shares with the name before it on the line (`a` for none), followed
by the rest of its words.
-/

namespace StatementClient.Text

/-- The lines of names from U+0020 on. -/
def namesFrom0020 : List (Nat × String) := [
  (0x20, "aSPACE;aEXCLAMATION MARK;aQUOTATION MARK;aNUMBER SIGN;aDOLLAR SIGN;aPERCENT SIGN"),
  (0x26, "aAMPERSAND;aAPOSTROPHE;aLEFT PARENTHESIS;aRIGHT PARENTHESIS;aASTERISK;aPLUS SIGN;aCOMMA"),
  (0x2D, "aHYPHEN-MINUS;aFULL STOP;aSOLIDUS;aDIGIT ZERO;bONE;bTWO;bTHREE;bFOUR;bFIVE;bSIX;bSEVEN"),
  (0x38, "aDIGIT EIGHT;bNINE;aCOLON;aSEMICOLON;aLESS-THAN SIGN;aEQUALS SIGN;aGREATER-THAN SIGN"),
  (0x3F, "aQUESTION MARK;aCOMMERCIAL AT;aLATIN CAPITAL LETTER A;dB;dC;dD;dE;dF;dG;dH;dI;dJ;dK;dL"),
  (0x4D, "aLATIN CAPITAL LETTER M;dN;dO;dP;dQ;dR;dS;dT;dU;dV;dW;dX;dY;dZ;aLEFT SQUARE BRACKET"),
  (0x5C, "aREVERSE SOLIDUS;aRIGHT SQUARE BRACKET;aCIRCUMFLEX ACCENT;aLOW LINE;aGRAVE ACCENT"),
  (0x61, "aLATIN SMALL LETTER A;dB;dC;dD;dE;dF;dG;dH;dI;dJ;dK;dL;dM;dN;dO;dP;dQ;dR;dS;dT;dU;dV;dW"),
  (0x78, "aLATIN SMALL LETTER X;dY;dZ;aLEFT CURLY BRACKET;aVERTICAL LINE;aRIGHT CURLY BRACKET"),
  (0x7E, "aTILDE"),
  (0xA0, "aNO-BREAK SPACE;aINVERTED EXCLAMATION MARK;aCENT SIGN;aPOUND SIGN;aCURRENCY SIGN"),
  (0xA5, "aYEN SIGN;aBROKEN BAR;aSECTION SIGN;aDIAERESIS;aCOPYRIGHT SIGN"),
  (0xAA, "aFEMININE ORDINAL INDICATOR;aLEFT-POINTING DOUBLE ANGLE QUOTATION MARK;aNOT SIGN"),
  (0xAD, "aSOFT HYPHEN;aREGISTERED SIGN;aMACRON;aDEGREE SIGN;aPLUS-MINUS SIGN;aSUPERSCRIPT TWO"),
  (0xB3, "aSUPERSCRIPT THREE;aACUTE ACCENT;aMICRO SIGN;aPILCROW SIGN;aMIDDLE DOT;aCEDILLA"),
  (0xB9, "aSUPERSCRIPT ONE;aMASCULINE ORDINAL INDICATOR"),
  (0xBB, "aRIGHT-POINTING DOUBLE ANGLE QUOTATION MARK;aVULGAR FRACTION ONE QUARTER;dHALF"),
  (0xBE, "aVULGAR FRACTION THREE QUARTERS;aINVERTED QUESTION MARK"),
  (0xC0, "aLATIN CAPITAL LETTER A WITH GRAVE;fACUTE;fCIRCUMFLEX;fTILDE;fDIAERESIS;fRING ABOVE;dAE"),
  (0xC7, "aLATIN CAPITAL LETTER C WITH CEDILLA;dE WITH GRAVE;fACUTE;fCIRCUMFLEX;fDIAERESIS"),
  (0xCC, "aLATIN CAPITAL LETTER I WITH GRAVE;fACUTE;fCIRCUMFLEX;fDIAERESIS;dETH;dN WITH TILDE"),
  (0xD2, "aLATIN CAPITAL LETTER O WITH GRAVE;fACUTE;fCIRCUMFLEX;fTILDE;fDIAERESIS"),
  (0xD7, "aMULTIPLICATION SIGN;aLATIN CAPITAL LETTER O WITH STROKE;dU WITH GRAVE;fACUTE"),
  (0xDB, "aLATIN CAPITAL LETTER U WITH CIRCUMFLEX;fDIAERESIS;dY WITH ACUTE;dTHORN"),
  (0xDF, "aLATIN SMALL LETTER SHARP S;dA WITH GRAVE;fACUTE;fCIRCUMFLEX;fTILDE;fDIAERESIS"),
  (0xE5, "aLATIN SMALL LETTER A WITH RING ABOVE;dAE;dC WITH CEDILLA;dE WITH GRAVE;fACUTE"),
  (0xEA, "aLATIN SMALL LETTER E WITH CIRCUMFLEX;fDIAERESIS;dI WITH GRAVE;fACUTE;fCIRCUMFLEX"),
  (0xEF, "aLATIN SMALL LETTER I WITH DIAERESIS;dETH;dN WITH TILDE;dO WITH GRAVE;fACUTE"),
  (0xF4, "aLATIN SMALL LETTER O WITH CIRCUMFLEX;fTILDE;fDIAERESIS;aDIVISION SIGN"),
  (0xF8, "aLATIN SMALL LETTER O WITH STROKE;dU WITH GRAVE;fACUTE;fCIRCUMFLEX;fDIAERESIS"),
  (0xFD, "aLATIN SMALL LETTER Y WITH ACUTE;dTHORN;dY WITH DIAERESIS;bCAPITAL LETTER A WITH MACRON"),
  (0x101, "aLATIN SMALL LETTER A WITH MACRON;bCAPITAL LETTER A WITH BREVE"),
  (0x103, "aLATIN SMALL LETTER A WITH BREVE;bCAPITAL LETTER A WITH OGONEK"),
  (0x105, "aLATIN SMALL LETTER A WITH OGONEK;bCAPITAL LETTER C WITH ACUTE"),
  (0x107, "aLATIN SMALL LETTER C WITH ACUTE;bCAPITAL LETTER C WITH CIRCUMFLEX"),
  (0x109, "aLATIN SMALL LETTER C WITH CIRCUMFLEX;bCAPITAL LETTER C WITH DOT ABOVE"),
  (0x10B, "aLATIN SMALL LETTER C WITH DOT ABOVE;bCAPITAL LETTER C WITH CARON"),
  (0x10D, "aLATIN SMALL LETTER C WITH CARON;bCAPITAL LETTER D WITH CARON"),
  (0x10F, "aLATIN SMALL LETTER D WITH CARON;bCAPITAL LETTER D WITH STROKE"),
  (0x111, "aLATIN SMALL LETTER D WITH STROKE;bCAPITAL LETTER E WITH MACRON"),
  (0x113, "aLATIN SMALL LETTER E WITH MACRON;bCAPITAL LETTER E WITH BREVE"),
  (0x115, "aLATIN SMALL LETTER E WITH BREVE;bCAPITAL LETTER E WITH DOT ABOVE"),
  (0x117, "aLATIN SMALL LETTER E WITH DOT ABOVE;bCAPITAL LETTER E WITH OGONEK"),
  (0x119, "aLATIN SMALL LETTER E WITH OGONEK;bCAPITAL LETTER E WITH CARON"),
  (0x11B, "aLATIN SMALL LETTER E WITH CARON;bCAPITAL LETTER G WITH CIRCUMFLEX"),
  (0x11D, "aLATIN SMALL LETTER G WITH CIRCUMFLEX;bCAPITAL LETTER G WITH BREVE"),
  (0x11F, "aLATIN SMALL LETTER G WITH BREVE;bCAPITAL LETTER G WITH DOT ABOVE"),
  (0x121, "aLATIN SMALL LETTER G WITH DOT ABOVE;bCAPITAL LETTER G WITH CEDILLA"),
  (0x123, "aLATIN SMALL LETTER G WITH CEDILLA;bCAPITAL LETTER H WITH CIRCUMFLEX"),
  (0x125, "aLATIN SMALL LETTER H WITH CIRCUMFLEX;bCAPITAL LETTER H WITH STROKE"),
  (0x127, "aLATIN SMALL LETTER H WITH STROKE;bCAPITAL LETTER I WITH TILDE"),
  (0x129, "aLATIN SMALL LETTER I WITH TILDE;bCAPITAL LETTER I WITH MACRON"),
  (0x12B, "aLATIN SMALL LETTER I WITH MACRON;bCAPITAL LETTER I WITH BREVE"),
  (0x12D, "aLATIN SMALL LETTER I WITH BREVE;bCAPITAL LETTER I WITH OGONEK"),
  (0x12F, "aLATIN SMALL LETTER I WITH OGONEK;bCAPITAL LETTER I WITH DOT ABOVE"),
  (0x131, "aLATIN SMALL LETTER DOTLESS I;bCAPITAL LIGATURE IJ;bSMALL LIGATURE IJ"),
  (0x134, "aLATIN CAPITAL LETTER J WITH CIRCUMFLEX;bSMALL LETTER J WITH CIRCUMFLEX"),
  (0x136, "aLATIN CAPITAL LETTER K WITH CEDILLA;bSMALL LETTER K WITH CEDILLA;dKRA"),
  (0x139, "aLATIN CAPITAL LETTER L WITH ACUTE;bSMALL LETTER L WITH ACUTE"),
  (0x13B, "aLATIN CAPITAL LETTER L WITH CEDILLA;bSMALL LETTER L WITH CEDILLA"),
  (0x13D, "aLATIN CAPITAL LETTER L WITH CARON;bSMALL LETTER L WITH CARON"),
  (0x13F, "aLATIN CAPITAL LETTER L WITH MIDDLE DOT;bSMALL LETTER L WITH MIDDLE DOT"),
  (0x141, "aLATIN CAPITAL LETTER L WITH STROKE;bSMALL LETTER L WITH STROKE"),
  (0x143, "aLATIN CAPITAL LETTER N WITH ACUTE;bSMALL LETTER N WITH ACUTE"),
  (0x145, "aLATIN CAPITAL LETTER N WITH CEDILLA;bSMALL LETTER N WITH CEDILLA"),
  (0x147, "aLATIN CAPITAL LETTER N WITH CARON;bSMALL LETTER N WITH CARON;ePRECEDED BY APOSTROPHE"),
  (0x14A, "aLATIN CAPITAL LETTER ENG;bSMALL LETTER ENG;bCAPITAL LETTER O WITH MACRON"),
  (0x14D, "aLATIN SMALL LETTER O WITH MACRON;bCAPITAL LETTER O WITH BREVE"),
  (0x14F, "aLATIN SMALL LETTER O WITH BREVE;bCAPITAL LETTER O WITH DOUBLE ACUTE"),
  (0x151, "aLATIN SMALL LETTER O WITH DOUBLE ACUTE;bCAPITAL LIGATURE OE;bSMALL LIGATURE OE"),
  (0x154, "aLATIN CAPITAL LETTER R WITH ACUTE;bSMALL LETTER R WITH ACUTE"),
  (0x156, "aLATIN CAPITAL LETTER R WITH CEDILLA;bSMALL LETTER R WITH CEDILLA"),
  (0x158, "aLATIN CAPITAL LETTER R WITH CARON;bSMALL LETTER R WITH CARON"),
  (0x15A, "aLATIN CAPITAL LETTER S WITH ACUTE;bSMALL LETTER S WITH ACUTE"),
  (0x15C, "aLATIN CAPITAL LETTER S WITH CIRCUMFLEX;bSMALL LETTER S WITH CIRCUMFLEX"),
  (0x15E, "aLATIN CAPITAL LETTER S WITH CEDILLA;bSMALL LETTER S WITH CEDILLA"),
  (0x160, "aLATIN CAPITAL LETTER S WITH CARON;bSMALL LETTER S WITH CARON"),
  (0x162, "aLATIN CAPITAL LETTER T WITH CEDILLA;bSMALL LETTER T WITH CEDILLA"),
  (0x164, "aLATIN CAPITAL LETTER T WITH CARON;bSMALL LETTER T WITH CARON"),
  (0x166, "aLATIN CAPITAL LETTER T WITH STROKE;bSMALL LETTER T WITH STROKE"),
  (0x168, "aLATIN CAPITAL LETTER U WITH TILDE;bSMALL LETTER U WITH TILDE"),
  (0x16A, "aLATIN CAPITAL LETTER U WITH MACRON;bSMALL LETTER U WITH MACRON"),
  (0x16C, "aLATIN CAPITAL LETTER U WITH BREVE;bSMALL LETTER U WITH BREVE"),
  (0x16E, "aLATIN CAPITAL LETTER U WITH RING ABOVE;bSMALL LETTER U WITH RING ABOVE"),
  (0x170, "aLATIN CAPITAL LETTER U WITH DOUBLE ACUTE;bSMALL LETTER U WITH DOUBLE ACUTE"),
  (0x172, "aLATIN CAPITAL LETTER U WITH OGONEK;bSMALL LETTER U WITH OGONEK"),
  (0x174, "aLATIN CAPITAL LETTER W WITH CIRCUMFLEX;bSMALL LETTER W WITH CIRCUMFLEX"),
  (0x176, "aLATIN CAPITAL LETTER Y WITH CIRCUMFLEX;bSMALL LETTER Y WITH CIRCUMFLEX"),
  (0x178, "aLATIN CAPITAL LETTER Y WITH DIAERESIS;dZ WITH ACUTE;bSMALL LETTER Z WITH ACUTE"),
  (0x17B, "aLATIN CAPITAL LETTER Z WITH DOT ABOVE;bSMALL LETTER Z WITH DOT ABOVE"),
  (0x17D, "aLATIN CAPITAL LETTER Z WITH CARON;bSMALL LETTER Z WITH CARON;dLONG S;dB WITH STROKE"),
  (0x181, "aLATIN CAPITAL LETTER B WITH HOOK;fTOPBAR;bSMALL LETTER B WITH TOPBAR"),
  (0x184, "aLATIN CAPITAL LETTER TONE SIX;bSMALL LETTER TONE SIX;bCAPITAL LETTER OPEN O"),
  (0x187, "aLATIN CAPITAL LETTER C WITH HOOK;bSMALL LETTER C WITH HOOK;bCAPITAL LETTER AFRICAN D"),
  (0x18A, "aLATIN CAPITAL LETTER D WITH HOOK;fTOPBAR;bSMALL LETTER D WITH TOPBAR;dTURNED DELTA"),
  (0x18E, "aLATIN CAPITAL LETTER REVERSED E;dSCHWA;dOPEN E;dF WITH HOOK;bSMALL LETTER F WITH HOOK"),
  (0x193, "aLATIN CAPITAL LETTER G WITH HOOK;dGAMMA;bSMALL LETTER HV;bCAPITAL LETTER IOTA"),
  (0x197, "aLATIN CAPITAL LETTER I WITH STROKE;dK WITH HOOK;bSMALL LETTER K WITH HOOK;dL WITH BAR"),
  (0x19B, "aLATIN SMALL LETTER LAMBDA WITH STROKE;bCAPITAL LETTER TURNED M;dN WITH LEFT HOOK"),
  (0x19E, "aLATIN SMALL LETTER N WITH LONG RIGHT LEG;bCAPITAL LETTER O WITH MIDDLE TILDE;fHORN"),
  (0x1A1, "aLATIN SMALL LETTER O WITH HORN;bCAPITAL LETTER OI;bSMALL LETTER OI"),
  (0x1A4, "aLATIN CAPITAL LETTER P WITH HOOK;bSMALL LETTER P WITH HOOK;bLETTER YR"),
  (0x1A7, "aLATIN CAPITAL LETTER TONE TWO;bSMALL LETTER TONE TWO;bCAPITAL LETTER ESH"),
  (0x1AA, "aLATIN LETTER REVERSED ESH LOOP;bSMALL LETTER T WITH PALATAL HOOK"),
  (0x1AC, "aLATIN CAPITAL LETTER T WITH HOOK;bSMALL LETTER T WITH HOOK"),
  (0x1AE, "aLATIN CAPITAL LETTER T WITH RETROFLEX HOOK;dU WITH HORN;bSMALL LETTER U WITH HORN"),
  (0x1B1, "aLATIN CAPITAL LETTER UPSILON;dV WITH HOOK;dY WITH HOOK;bSMALL LETTER Y WITH HOOK"),
  (0x1B5, "aLATIN CAPITAL LETTER Z WITH STROKE;bSMALL LETTER Z WITH STROKE;bCAPITAL LETTER EZH"),
  (0x1B8, "aLATIN CAPITAL LETTER EZH REVERSED;bSMALL LETTER EZH REVERSED;eWITH TAIL"),
  (0x1BB, "aLATIN LETTER TWO WITH STROKE;bCAPITAL LETTER TONE FIVE;bSMALL LETTER TONE FIVE"),
  (0x1BE, "aLATIN LETTER INVERTED GLOTTAL STOP WITH STROKE;cWYNN;cDENTAL CLICK;cLATERAL CLICK"),
  (0x1C2, "aLATIN LETTER ALVEOLAR CLICK;cRETROFLEX CLICK;bCAPITAL LETTER DZ WITH CARON"),
  (0x1C5, "aLATIN CAPITAL LETTER D WITH SMALL LETTER Z WITH CARON;bSMALL LETTER DZ WITH CARON"),
  (0x1C7, "aLATIN CAPITAL LETTER LJ;dL WITH SMALL LETTER J;bSMALL LETTER LJ;bCAPITAL LETTER NJ"),
  (0x1CB, "aLATIN CAPITAL LETTER N WITH SMALL LETTER J;bSMALL LETTER NJ"),
  (0x1CD, "aLATIN CAPITAL LETTER A WITH CARON;bSMALL LETTER A WITH CARON"),
  (0x1CF, "aLATIN CAPITAL LETTER I WITH CARON;bSMALL LETTER I WITH CARON"),
  (0x1D1, "aLATIN CAPITAL LETTER O WITH CARON;bSMALL LETTER O WITH CARON"),
  (0x1D3, "aLATIN CAPITAL LETTER U WITH CARON;bSMALL LETTER U WITH CARON"),
  (0x1D5, "aLATIN CAPITAL LETTER U WITH DIAERESIS AND MACRON"),
  (0x1D6, "aLATIN SMALL LETTER U WITH DIAERESIS AND MACRON"),
  (0x1D7, "aLATIN CAPITAL LETTER U WITH DIAERESIS AND ACUTE"),
  (0x1D8, "aLATIN SMALL LETTER U WITH DIAERESIS AND ACUTE"),
  (0x1D9, "aLATIN CAPITAL LETTER U WITH DIAERESIS AND CARON"),
  (0x1DA, "aLATIN SMALL LETTER U WITH DIAERESIS AND CARON"),
  (0x1DB, "aLATIN CAPITAL LETTER U WITH DIAERESIS AND GRAVE"),
  (0x1DC, "aLATIN SMALL LETTER U WITH DIAERESIS AND GRAVE;dTURNED E"),
  (0x1DE, "aLATIN CAPITAL LETTER A WITH DIAERESIS AND MACRON"),
  (0x1DF, "aLATIN SMALL LETTER A WITH DIAERESIS AND MACRON"),
  (0x1E0, "aLATIN CAPITAL LETTER A WITH DOT ABOVE AND MACRON"),
  (0x1E1, "aLATIN SMALL LETTER A WITH DOT ABOVE AND MACRON;bCAPITAL LETTER AE WITH MACRON"),
  (0x1E3, "aLATIN SMALL LETTER AE WITH MACRON;bCAPITAL LETTER G WITH STROKE"),
  (0x1E5, "aLATIN SMALL LETTER G WITH STROKE;bCAPITAL LETTER G WITH CARON"),
  (0x1E7, "aLATIN SMALL LETTER G WITH CARON;bCAPITAL LETTER K WITH CARON"),
  (0x1E9, "aLATIN SMALL LETTER K WITH CARON;bCAPITAL LETTER O WITH OGONEK"),
  (0x1EB, "aLATIN SMALL LETTER O WITH OGONEK;bCAPITAL LETTER O WITH OGONEK AND MACRON"),
  (0x1ED, "aLATIN SMALL LETTER O WITH OGONEK AND MACRON;bCAPITAL LETTER EZH WITH CARON"),
  (0x1EF, "aLATIN SMALL LETTER EZH WITH CARON;dJ WITH CARON;bCAPITAL LETTER DZ"),
  (0x1F2, "aLATIN CAPITAL LETTER D WITH SMALL LETTER Z;bSMALL LETTER DZ"),
  (0x1F4, "aLATIN CAPITAL LETTER G WITH ACUTE;bSMALL LETTER G WITH ACUTE;bCAPITAL LETTER HWAIR"),
  (0x1F7, "aLATIN CAPITAL LETTER WYNN;dN WITH GRAVE;bSMALL LETTER N WITH GRAVE"),
  (0x1FA, "aLATIN CAPITAL LETTER A WITH RING ABOVE AND ACUTE"),
  (0x1FB, "aLATIN SMALL LETTER A WITH RING ABOVE AND ACUTE;bCAPITAL LETTER AE WITH ACUTE"),
  (0x1FD, "aLATIN SMALL LETTER AE WITH ACUTE;bCAPITAL LETTER O WITH STROKE AND ACUTE"),
  (0x1FF, "aLATIN SMALL LETTER O WITH STROKE AND ACUTE;bCAPITAL LETTER A WITH DOUBLE GRAVE"),
  (0x201, "aLATIN SMALL LETTER A WITH DOUBLE GRAVE;bCAPITAL LETTER A WITH INVERTED BREVE"),
  (0x203, "aLATIN SMALL LETTER A WITH INVERTED BREVE;bCAPITAL LETTER E WITH DOUBLE GRAVE"),
  (0x205, "aLATIN SMALL LETTER E WITH DOUBLE GRAVE;bCAPITAL LETTER E WITH INVERTED BREVE"),
  (0x207, "aLATIN SMALL LETTER E WITH INVERTED BREVE;bCAPITAL LETTER I WITH DOUBLE GRAVE"),
  (0x209, "aLATIN SMALL LETTER I WITH DOUBLE GRAVE;bCAPITAL LETTER I WITH INVERTED BREVE"),
  (0x20B, "aLATIN SMALL LETTER I WITH INVERTED BREVE;bCAPITAL LETTER O WITH DOUBLE GRAVE"),
  (0x20D, "aLATIN SMALL LETTER O WITH DOUBLE GRAVE;bCAPITAL LETTER O WITH INVERTED BREVE"),
  (0x20F, "aLATIN SMALL LETTER O WITH INVERTED BREVE;bCAPITAL LETTER R WITH DOUBLE GRAVE"),
  (0x211, "aLATIN SMALL LETTER R WITH DOUBLE GRAVE;bCAPITAL LETTER R WITH INVERTED BREVE"),
  (0x213, "aLATIN SMALL LETTER R WITH INVERTED BREVE;bCAPITAL LETTER U WITH DOUBLE GRAVE"),
  (0x215, "aLATIN SMALL LETTER U WITH DOUBLE GRAVE;bCAPITAL LETTER U WITH INVERTED BREVE"),
  (0x217, "aLATIN SMALL LETTER U WITH INVERTED BREVE;bCAPITAL LETTER S WITH COMMA BELOW"),
  (0x219, "aLATIN SMALL LETTER S WITH COMMA BELOW;bCAPITAL LETTER T WITH COMMA BELOW"),
  (0x21B, "aLATIN SMALL LETTER T WITH COMMA BELOW;bCAPITAL LETTER YOGH;bSMALL LETTER YOGH"),
  (0x21E, "aLATIN CAPITAL LETTER H WITH CARON;bSMALL LETTER H WITH CARON"),
  (0x220, "aLATIN CAPITAL LETTER N WITH LONG RIGHT LEG;bSMALL LETTER D WITH CURL"),
  (0x222, "aLATIN CAPITAL LETTER OU;bSMALL LETTER OU;bCAPITAL LETTER Z WITH HOOK"),
  (0x225, "aLATIN SMALL LETTER Z WITH HOOK;bCAPITAL LETTER A WITH DOT ABOVE"),
  (0x227, "aLATIN SMALL LETTER A WITH DOT ABOVE;bCAPITAL LETTER E WITH CEDILLA"),
  (0x229, "aLATIN SMALL LETTER E WITH CEDILLA;bCAPITAL LETTER O WITH DIAERESIS AND MACRON"),
  (0x22B, "aLATIN SMALL LETTER O WITH DIAERESIS AND MACRON"),
  (0x22C, "aLATIN CAPITAL LETTER O WITH TILDE AND MACRON;bSMALL LETTER O WITH TILDE AND MACRON"),
  (0x22E, "aLATIN CAPITAL LETTER O WITH DOT ABOVE;bSMALL LETTER O WITH DOT ABOVE"),
  (0x230, "aLATIN CAPITAL LETTER O WITH DOT ABOVE AND MACRON"),
  (0x231, "aLATIN SMALL LETTER O WITH DOT ABOVE AND MACRON;bCAPITAL LETTER Y WITH MACRON"),
  (0x233, "aLATIN SMALL LETTER Y WITH MACRON;dL WITH CURL;dN WITH CURL;dT WITH CURL;dDOTLESS J"),
  (0x238, "aLATIN SMALL LETTER DB DIGRAPH;dQP DIGRAPH;bCAPITAL LETTER A WITH STROKE"),
  (0x23B, "aLATIN CAPITAL LETTER C WITH STROKE;bSMALL LETTER C WITH STROKE"),
  (0x23D, "aLATIN CAPITAL LETTER L WITH BAR;dT WITH DIAGONAL STROKE"),
  (0x23F, "aLATIN SMALL LETTER S WITH SWASH TAIL;dZ WITH SWASH TAIL;bCAPITAL LETTER GLOTTAL STOP"),
  (0x242, "aLATIN SMALL LETTER GLOTTAL STOP;bCAPITAL LETTER B WITH STROKE;dU BAR;dTURNED V"),
  (0x246, "aLATIN CAPITAL LETTER E WITH STROKE;bSMALL LETTER E WITH STROKE"),
  (0x248, "aLATIN CAPITAL LETTER J WITH STROKE;bSMALL LETTER J WITH STROKE"),
  (0x24A, "aLATIN CAPITAL LETTER SMALL Q WITH HOOK TAIL;bSMALL LETTER Q WITH HOOK TAIL"),
  (0x24C, "aLATIN CAPITAL LETTER R WITH STROKE;bSMALL LETTER R WITH STROKE"),
  (0x24E, "aLATIN CAPITAL LETTER Y WITH STROKE;bSMALL LETTER Y WITH STROKE;dTURNED A;dALPHA"),
  (0x252, "aLATIN SMALL LETTER TURNED ALPHA;dB WITH HOOK;dOPEN O;dC WITH CURL;dD WITH TAIL;fHOOK"),
  (0x258, "aLATIN SMALL LETTER REVERSED E;dSCHWA;eWITH HOOK;dOPEN E;dREVERSED OPEN E;gWITH HOOK"),
  (0x25E, "aLATIN SMALL LETTER CLOSED REVERSED OPEN E;dDOTLESS J WITH STROKE;dG WITH HOOK"),
  (0x261, "aLATIN SMALL LETTER SCRIPT G;bLETTER SMALL CAPITAL G;bSMALL LETTER GAMMA;dRAMS HORN"),
  (0x265, "aLATIN SMALL LETTER TURNED H;dH WITH HOOK;dHENG WITH HOOK;dI WITH STROKE;dIOTA"),
  (0x26A, "aLATIN LETTER SMALL CAPITAL I;bSMALL LETTER L WITH MIDDLE TILDE;fBELT;fRETROFLEX HOOK"),
  (0x26E, "aLATIN SMALL LETTER LEZH;dTURNED M;fWITH LONG LEG;dM WITH HOOK;dN WITH LEFT HOOK"),
  (0x273, "aLATIN SMALL LETTER N WITH RETROFLEX HOOK;bLETTER SMALL CAPITAL N"),
  (0x275, "aLATIN SMALL LETTER BARRED O;bLETTER SMALL CAPITAL OE;bSMALL LETTER CLOSED OMEGA;dPHI"),
  (0x279, "aLATIN SMALL LETTER TURNED R;fWITH LONG LEG;gHOOK;dR WITH LONG LEG;fTAIL;fFISHHOOK"),
  (0x27F, "aLATIN SMALL LETTER REVERSED R WITH FISHHOOK;bLETTER SMALL CAPITAL R;eINVERTED R"),
  (0x282, "aLATIN SMALL LETTER S WITH HOOK;dESH;dDOTLESS J WITH STROKE AND HOOK"),
  (0x285, "aLATIN SMALL LETTER SQUAT REVERSED ESH;dESH WITH CURL;dTURNED T;dT WITH RETROFLEX HOOK"),
  (0x289, "aLATIN SMALL LETTER U BAR;dUPSILON;dV WITH HOOK;dTURNED V;eW;eY"),
  (0x28F, "aLATIN LETTER SMALL CAPITAL Y;bSMALL LETTER Z WITH RETROFLEX HOOK;fCURL;dEZH"),
  (0x293, "aLATIN SMALL LETTER EZH WITH CURL;bLETTER GLOTTAL STOP;cPHARYNGEAL VOICED FRICATIVE"),
  (0x296, "aLATIN LETTER INVERTED GLOTTAL STOP;cSTRETCHED C;cBILABIAL CLICK;cSMALL CAPITAL B"),
  (0x29A, "aLATIN SMALL LETTER CLOSED OPEN E;bLETTER SMALL CAPITAL G WITH HOOK;eH"),
  (0x29D, "aLATIN SMALL LETTER J WITH CROSSED-TAIL;dTURNED K;bLETTER SMALL CAPITAL L"),
  (0x2A0, "aLATIN SMALL LETTER Q WITH HOOK;bLETTER GLOTTAL STOP WITH STROKE"),
  (0x2A2, "aLATIN LETTER REVERSED GLOTTAL STOP WITH STROKE;bSMALL LETTER DZ DIGRAPH;dDEZH DIGRAPH"),
  (0x2A5, "aLATIN SMALL LETTER DZ DIGRAPH WITH CURL;dTS DIGRAPH;dTESH DIGRAPH"),
  (0x2A8, "aLATIN SMALL LETTER TC DIGRAPH WITH CURL;dFENG DIGRAPH;dLS DIGRAPH;dLZ DIGRAPH"),
  (0x2AC, "aLATIN LETTER BILABIAL PERCUSSIVE;cBIDENTAL PERCUSSIVE"),
  (0x2AE, "aLATIN SMALL LETTER TURNED H WITH FISHHOOK;hAND TAIL;aMODIFIER LETTER SMALL H"),
  (0x2B1, "aMODIFIER LETTER SMALL H WITH HOOK;dJ;dR;dTURNED R;fWITH HOOK;dCAPITAL INVERTED R;dW"),
  (0x2B8, "aMODIFIER LETTER SMALL Y;cPRIME;cDOUBLE PRIME;cTURNED COMMA;cAPOSTROPHE"),
  (0x2BD, "aMODIFIER LETTER REVERSED COMMA;cRIGHT HALF RING;cLEFT HALF RING;cGLOTTAL STOP"),
  (0x2C1, "aMODIFIER LETTER REVERSED GLOTTAL STOP;cLEFT ARROWHEAD;cRIGHT ARROWHEAD;cUP ARROWHEAD"),
  (0x2C5, "aMODIFIER LETTER DOWN ARROWHEAD;cCIRCUMFLEX ACCENT;aCARON"),
  (0x2C8, "aMODIFIER LETTER VERTICAL LINE;cMACRON;cACUTE ACCENT;cGRAVE ACCENT;cLOW VERTICAL LINE"),
  (0x2CD, "aMODIFIER LETTER LOW MACRON;dGRAVE ACCENT;dACUTE ACCENT;cTRIANGULAR COLON"),
  (0x2D1, "aMODIFIER LETTER HALF TRIANGULAR COLON;cCENTRED RIGHT HALF RING;dLEFT HALF RING"),
  (0x2D4, "aMODIFIER LETTER UP TACK;cDOWN TACK;cPLUS SIGN;cMINUS SIGN;aBREVE;aDOT ABOVE"),
  (0x2DA, "aRING ABOVE;aOGONEK;aSMALL TILDE;aDOUBLE ACUTE ACCENT;aMODIFIER LETTER RHOTIC HOOK"),
  (0x2DF, "aMODIFIER LETTER CROSS ACCENT;cSMALL GAMMA;dL;dS;dX;dREVERSED GLOTTAL STOP"),
  (0x2E5, "aMODIFIER LETTER EXTRA-HIGH TONE BAR;cHIGH TONE BAR;cMID TONE BAR;cLOW TONE BAR"),
  (0x2E9, "aMODIFIER LETTER EXTRA-LOW TONE BAR;cYIN DEPARTING TONE MARK;cYANG DEPARTING TONE MARK"),
  (0x2EC, "aMODIFIER LETTER VOICING;cUNASPIRATED;cDOUBLE APOSTROPHE;cLOW DOWN ARROWHEAD")]

/-- The lines of names from U+02F0 on. -/
def namesFrom02F0 : List (Nat × String) := [
  (0x2F0, "aMODIFIER LETTER LOW UP ARROWHEAD;dLEFT ARROWHEAD;dRIGHT ARROWHEAD;dRING"),
  (0x2F4, "aMODIFIER LETTER MIDDLE GRAVE ACCENT;dDOUBLE GRAVE ACCENT;eACUTE ACCENT;cLOW TILDE"),
  (0x2F8, "aMODIFIER LETTER RAISED COLON;cBEGIN HIGH TONE;cEND HIGH TONE;cBEGIN LOW TONE"),
  (0x2FC, "aMODIFIER LETTER END LOW TONE;cSHELF;cOPEN SHELF;cLOW LEFT ARROW"),
  (0x300, "aCOMBINING GRAVE ACCENT;bACUTE ACCENT;bCIRCUMFLEX ACCENT;bTILDE;bMACRON;bOVERLINE"),
  (0x306, "aCOMBINING BREVE;bDOT ABOVE;bDIAERESIS;bHOOK ABOVE;bRING ABOVE;bDOUBLE ACUTE ACCENT"),
  (0x30C, "aCOMBINING CARON;bVERTICAL LINE ABOVE;bDOUBLE VERTICAL LINE ABOVE;cGRAVE ACCENT"),
  (0x310, "aCOMBINING CANDRABINDU;bINVERTED BREVE;bTURNED COMMA ABOVE;bCOMMA ABOVE"),
  (0x314, "aCOMBINING REVERSED COMMA ABOVE;bCOMMA ABOVE RIGHT;bGRAVE ACCENT BELOW"),
  (0x317, "aCOMBINING ACUTE ACCENT BELOW;bLEFT TACK BELOW;bRIGHT TACK BELOW;bLEFT ANGLE ABOVE"),
  (0x31B, "aCOMBINING HORN;bLEFT HALF RING BELOW;bUP TACK BELOW;bDOWN TACK BELOW;bPLUS SIGN BELOW"),
  (0x320, "aCOMBINING MINUS SIGN BELOW;bPALATALIZED HOOK BELOW;bRETROFLEX HOOK BELOW;bDOT BELOW"),
  (0x324, "aCOMBINING DIAERESIS BELOW;bRING BELOW;bCOMMA BELOW;bCEDILLA;bOGONEK"),
  (0x329, "aCOMBINING VERTICAL LINE BELOW;bBRIDGE BELOW;bINVERTED DOUBLE ARCH BELOW;bCARON BELOW"),
  (0x32D, "aCOMBINING CIRCUMFLEX ACCENT BELOW;bBREVE BELOW;bINVERTED BREVE BELOW;bTILDE BELOW"),
  (0x331, "aCOMBINING MACRON BELOW;bLOW LINE;bDOUBLE LOW LINE;bTILDE OVERLAY"),
  (0x335, "aCOMBINING SHORT STROKE OVERLAY;bLONG STROKE OVERLAY;bSHORT SOLIDUS OVERLAY"),
  (0x338, "aCOMBINING LONG SOLIDUS OVERLAY;bRIGHT HALF RING BELOW;bINVERTED BRIDGE BELOW"),
  (0x33B, "aCOMBINING SQUARE BELOW;bSEAGULL BELOW;bX ABOVE;bVERTICAL TILDE;bDOUBLE OVERLINE"),
  (0x340, "aCOMBINING GRAVE TONE MARK;bACUTE TONE MARK;bGREEK PERISPOMENI;cKORONIS"),
  (0x344, "aCOMBINING GREEK DIALYTIKA TONOS;cYPOGEGRAMMENI;bBRIDGE ABOVE;bEQUALS SIGN BELOW"),
  (0x348, "aCOMBINING DOUBLE VERTICAL LINE BELOW;bLEFT ANGLE BELOW;bNOT TILDE ABOVE"),
  (0x34B, "aCOMBINING HOMOTHETIC ABOVE;bALMOST EQUAL TO ABOVE;bLEFT RIGHT ARROW BELOW"),
  (0x34E, "aCOMBINING UPWARDS ARROW BELOW;bGRAPHEME JOINER;bRIGHT ARROWHEAD ABOVE"),
  (0x351, "aCOMBINING LEFT HALF RING ABOVE;bFERMATA;bX BELOW;bLEFT ARROWHEAD BELOW"),
  (0x355, "aCOMBINING RIGHT ARROWHEAD BELOW;dAND UP ARROWHEAD BELOW;cHALF RING ABOVE"),
  (0x358, "aCOMBINING DOT ABOVE RIGHT;bASTERISK BELOW;bDOUBLE RING BELOW;bZIGZAG ABOVE"),
  (0x35C, "aCOMBINING DOUBLE BREVE BELOW;d;cMACRON;dBELOW;cTILDE;cINVERTED BREVE"),
  (0x362, "aCOMBINING DOUBLE RIGHTWARDS ARROW BELOW;bLATIN SMALL LETTER A;eE;eI;eO;eU;eC;eD;eH;eM"),
  (0x36C, "aCOMBINING LATIN SMALL LETTER R;eT;eV;eX;aGREEK CAPITAL LETTER HETA;bSMALL LETTER HETA"),
  (0x372, "aGREEK CAPITAL LETTER ARCHAIC SAMPI;bSMALL LETTER ARCHAIC SAMPI;bNUMERAL SIGN"),
  (0x375, "aGREEK LOWER NUMERAL SIGN;bCAPITAL LETTER PAMPHYLIAN DIGAMMA"),
  (0x377, "aGREEK SMALL LETTER PAMPHYLIAN DIGAMMA"),
  (0x37A, "aGREEK YPOGEGRAMMENI;bSMALL REVERSED LUNATE SIGMA SYMBOL;cDOTTED LUNATE SIGMA SYMBOL"),
  (0x37D, "aGREEK SMALL REVERSED DOTTED LUNATE SIGMA SYMBOL;bQUESTION MARK;bCAPITAL LETTER YOT"),
  (0x384, "aGREEK TONOS;bDIALYTIKA TONOS;bCAPITAL LETTER ALPHA WITH TONOS;bANO TELEIA"),
  (0x388, "aGREEK CAPITAL LETTER EPSILON WITH TONOS;dETA WITH TONOS;dIOTA WITH TONOS"),
  (0x38C, "aGREEK CAPITAL LETTER OMICRON WITH TONOS"),
  (0x38E, "aGREEK CAPITAL LETTER UPSILON WITH TONOS;dOMEGA WITH TONOS"),
  (0x390, "aGREEK SMALL LETTER IOTA WITH DIALYTIKA AND TONOS;bCAPITAL LETTER ALPHA;dBETA;dGAMMA"),
  (0x394, "aGREEK CAPITAL LETTER DELTA;dEPSILON;dZETA;dETA;dTHETA;dIOTA;dKAPPA;dLAMDA;dMU;dNU;dXI"),
  (0x39F, "aGREEK CAPITAL LETTER OMICRON;dPI;dRHO"),
  (0x3A3, "aGREEK CAPITAL LETTER SIGMA;dTAU;dUPSILON;dPHI;dCHI;dPSI;dOMEGA;dIOTA WITH DIALYTIKA"),
  (0x3AB, "aGREEK CAPITAL LETTER UPSILON WITH DIALYTIKA;bSMALL LETTER ALPHA WITH TONOS"),
  (0x3AD, "aGREEK SMALL LETTER EPSILON WITH TONOS;dETA WITH TONOS;dIOTA WITH TONOS"),
  (0x3B0, "aGREEK SMALL LETTER UPSILON WITH DIALYTIKA AND TONOS;dALPHA;dBETA;dGAMMA;dDELTA"),
  (0x3B5, "aGREEK SMALL LETTER EPSILON;dZETA;dETA;dTHETA;dIOTA;dKAPPA;dLAMDA;dMU;dNU;dXI;dOMICRON"),
  (0x3C0, "aGREEK SMALL LETTER PI;dRHO;dFINAL SIGMA;dSIGMA;dTAU;dUPSILON;dPHI;dCHI;dPSI;dOMEGA"),
  (0x3CA, "aGREEK SMALL LETTER IOTA WITH DIALYTIKA;dUPSILON WITH DIALYTIKA;dOMICRON WITH TONOS"),
  (0x3CD, "aGREEK SMALL LETTER UPSILON WITH TONOS;dOMEGA WITH TONOS;bCAPITAL KAI SYMBOL"),
  (0x3D0, "aGREEK BETA SYMBOL;bTHETA SYMBOL;bUPSILON WITH HOOK SYMBOL;dACUTE AND HOOK SYMBOL"),
  (0x3D4, "aGREEK UPSILON WITH DIAERESIS AND HOOK SYMBOL;bPHI SYMBOL;bPI SYMBOL;bKAI SYMBOL"),
  (0x3D8, "aGREEK LETTER ARCHAIC KOPPA;bSMALL LETTER ARCHAIC KOPPA;bLETTER STIGMA"),
  (0x3DB, "aGREEK SMALL LETTER STIGMA;bLETTER DIGAMMA;bSMALL LETTER DIGAMMA;bLETTER KOPPA"),
  (0x3DF, "aGREEK SMALL LETTER KOPPA;bLETTER SAMPI;bSMALL LETTER SAMPI"),
  (0x3E2, "aCOPTIC CAPITAL LETTER SHEI;bSMALL LETTER SHEI;bCAPITAL LETTER FEI;bSMALL LETTER FEI"),
  (0x3E6, "aCOPTIC CAPITAL LETTER KHEI;bSMALL LETTER KHEI;bCAPITAL LETTER HORI;bSMALL LETTER HORI"),
  (0x3EA, "aCOPTIC CAPITAL LETTER GANGIA;bSMALL LETTER GANGIA;bCAPITAL LETTER SHIMA"),
  (0x3ED, "aCOPTIC SMALL LETTER SHIMA;bCAPITAL LETTER DEI;bSMALL LETTER DEI;aGREEK KAPPA SYMBOL"),
  (0x3F1, "aGREEK RHO SYMBOL;bLUNATE SIGMA SYMBOL;bLETTER YOT;bCAPITAL THETA SYMBOL"),
  (0x3F5, "aGREEK LUNATE EPSILON SYMBOL;bREVERSED LUNATE EPSILON SYMBOL;bCAPITAL LETTER SHO"),
  (0x3F8, "aGREEK SMALL LETTER SHO;bCAPITAL LUNATE SIGMA SYMBOL;cLETTER SAN;bSMALL LETTER SAN"),
  (0x3FC, "aGREEK RHO WITH STROKE SYMBOL;bCAPITAL REVERSED LUNATE SIGMA SYMBOL"),
  (0x3FE, "aGREEK CAPITAL DOTTED LUNATE SIGMA SYMBOL;cREVERSED DOTTED LUNATE SIGMA SYMBOL"),
  (0x400, "aCYRILLIC CAPITAL LETTER IE WITH GRAVE;dIO;dDJE;dGJE;dUKRAINIAN IE;dDZE"),
  (0x406, "aCYRILLIC CAPITAL LETTER BYELORUSSIAN-UKRAINIAN I;dYI;dJE;dLJE;dNJE;dTSHE;dKJE"),
  (0x40D, "aCYRILLIC CAPITAL LETTER I WITH GRAVE;dSHORT U;dDZHE;dA;dBE;dVE;dGHE;dDE;dIE;dZHE;dZE"),
  (0x418, "aCYRILLIC CAPITAL LETTER I;dSHORT I;dKA;dEL;dEM;dEN;dO;dPE;dER;dES;dTE;dU;dEF;dHA;dTSE"),
  (0x427, "aCYRILLIC CAPITAL LETTER CHE;dSHA;dSHCHA;dHARD SIGN;dYERU;dSOFT SIGN;dE;dYU;dYA"),
  (0x430, "aCYRILLIC SMALL LETTER A;dBE;dVE;dGHE;dDE;dIE;dZHE;dZE;dI;dSHORT I;dKA;dEL;dEM;dEN;dO"),
  (0x43F, "aCYRILLIC SMALL LETTER PE;dER;dES;dTE;dU;dEF;dHA;dTSE;dCHE;dSHA;dSHCHA;dHARD SIGN"),
  (0x44B, "aCYRILLIC SMALL LETTER YERU;dSOFT SIGN;dE;dYU;dYA;dIE WITH GRAVE;dIO;dDJE;dGJE"),
  (0x454, "aCYRILLIC SMALL LETTER UKRAINIAN IE;dDZE;dBYELORUSSIAN-UKRAINIAN I;dYI;dJE;dLJE;dNJE"),
  (0x45B, "aCYRILLIC SMALL LETTER TSHE;dKJE;dI WITH GRAVE;dSHORT U;dDZHE;bCAPITAL LETTER OMEGA"),
  (0x461, "aCYRILLIC SMALL LETTER OMEGA;bCAPITAL LETTER YAT;bSMALL LETTER YAT"),
  (0x464, "aCYRILLIC CAPITAL LETTER IOTIFIED E;bSMALL LETTER IOTIFIED E"),
  (0x466, "aCYRILLIC CAPITAL LETTER LITTLE YUS;bSMALL LETTER LITTLE YUS"),
  (0x468, "aCYRILLIC CAPITAL LETTER IOTIFIED LITTLE YUS;bSMALL LETTER IOTIFIED LITTLE YUS"),
  (0x46A, "aCYRILLIC CAPITAL LETTER BIG YUS;bSMALL LETTER BIG YUS"),
  (0x46C, "aCYRILLIC CAPITAL LETTER IOTIFIED BIG YUS;bSMALL LETTER IOTIFIED BIG YUS"),
  (0x46E, "aCYRILLIC CAPITAL LETTER KSI;bSMALL LETTER KSI;bCAPITAL LETTER PSI;bSMALL LETTER PSI"),
  (0x472, "aCYRILLIC CAPITAL LETTER FITA;bSMALL LETTER FITA;bCAPITAL LETTER IZHITSA"),
  (0x475, "aCYRILLIC SMALL LETTER IZHITSA;bCAPITAL LETTER IZHITSA WITH DOUBLE GRAVE ACCENT"),
  (0x477, "aCYRILLIC SMALL LETTER IZHITSA WITH DOUBLE GRAVE ACCENT;bCAPITAL LETTER UK"),
  (0x479, "aCYRILLIC SMALL LETTER UK;bCAPITAL LETTER ROUND OMEGA;bSMALL LETTER ROUND OMEGA"),
  (0x47C, "aCYRILLIC CAPITAL LETTER OMEGA WITH TITLO;bSMALL LETTER OMEGA WITH TITLO"),
  (0x47E, "aCYRILLIC CAPITAL LETTER OT;bSMALL LETTER OT;bCAPITAL LETTER KOPPA;bSMALL LETTER KOPPA"),
  (0x482, "aCYRILLIC THOUSANDS SIGN;aCOMBINING CYRILLIC TITLO;cPALATALIZATION;cDASIA PNEUMATA"),
  (0x486, "aCOMBINING CYRILLIC PSILI PNEUMATA;cPOKRYTIE;cHUNDRED THOUSANDS SIGN;cMILLIONS SIGN"),
  (0x48A, "aCYRILLIC CAPITAL LETTER SHORT I WITH TAIL;bSMALL LETTER SHORT I WITH TAIL"),
  (0x48C, "aCYRILLIC CAPITAL LETTER SEMISOFT SIGN;bSMALL LETTER SEMISOFT SIGN"),
  (0x48E, "aCYRILLIC CAPITAL LETTER ER WITH TICK;bSMALL LETTER ER WITH TICK"),
  (0x490, "aCYRILLIC CAPITAL LETTER GHE WITH UPTURN;bSMALL LETTER GHE WITH UPTURN"),
  (0x492, "aCYRILLIC CAPITAL LETTER GHE WITH STROKE;bSMALL LETTER GHE WITH STROKE"),
  (0x494, "aCYRILLIC CAPITAL LETTER GHE WITH MIDDLE HOOK;bSMALL LETTER GHE WITH MIDDLE HOOK"),
  (0x496, "aCYRILLIC CAPITAL LETTER ZHE WITH DESCENDER;bSMALL LETTER ZHE WITH DESCENDER"),
  (0x498, "aCYRILLIC CAPITAL LETTER ZE WITH DESCENDER;bSMALL LETTER ZE WITH DESCENDER"),
  (0x49A, "aCYRILLIC CAPITAL LETTER KA WITH DESCENDER;bSMALL LETTER KA WITH DESCENDER"),
  (0x49C, "aCYRILLIC CAPITAL LETTER KA WITH VERTICAL STROKE;bSMALL LETTER KA WITH VERTICAL STROKE"),
  (0x49E, "aCYRILLIC CAPITAL LETTER KA WITH STROKE;bSMALL LETTER KA WITH STROKE"),
  (0x4A0, "aCYRILLIC CAPITAL LETTER BASHKIR KA;bSMALL LETTER BASHKIR KA"),
  (0x4A2, "aCYRILLIC CAPITAL LETTER EN WITH DESCENDER;bSMALL LETTER EN WITH DESCENDER"),
  (0x4A4, "aCYRILLIC CAPITAL LIGATURE EN GHE;bSMALL LIGATURE EN GHE"),
  (0x4A6, "aCYRILLIC CAPITAL LETTER PE WITH MIDDLE HOOK;bSMALL LETTER PE WITH MIDDLE HOOK"),
  (0x4A8, "aCYRILLIC CAPITAL LETTER ABKHASIAN HA;bSMALL LETTER ABKHASIAN HA"),
  (0x4AA, "aCYRILLIC CAPITAL LETTER ES WITH DESCENDER;bSMALL LETTER ES WITH DESCENDER"),
  (0x4AC, "aCYRILLIC CAPITAL LETTER TE WITH DESCENDER;bSMALL LETTER TE WITH DESCENDER"),
  (0x4AE, "aCYRILLIC CAPITAL LETTER STRAIGHT U;bSMALL LETTER STRAIGHT U"),
  (0x4B0, "aCYRILLIC CAPITAL LETTER STRAIGHT U WITH STROKE;bSMALL LETTER STRAIGHT U WITH STROKE"),
  (0x4B2, "aCYRILLIC CAPITAL LETTER HA WITH DESCENDER;bSMALL LETTER HA WITH DESCENDER"),
  (0x4B4, "aCYRILLIC CAPITAL LIGATURE TE TSE;bSMALL LIGATURE TE TSE"),
  (0x4B6, "aCYRILLIC CAPITAL LETTER CHE WITH DESCENDER;bSMALL LETTER CHE WITH DESCENDER"),
  (0x4B8, "aCYRILLIC CAPITAL LETTER CHE WITH VERTICAL STROKE"),
  (0x4B9, "aCYRILLIC SMALL LETTER CHE WITH VERTICAL STROKE;bCAPITAL LETTER SHHA"),
  (0x4BB, "aCYRILLIC SMALL LETTER SHHA;bCAPITAL LETTER ABKHASIAN CHE;bSMALL LETTER ABKHASIAN CHE"),
  (0x4BE, "aCYRILLIC CAPITAL LETTER ABKHASIAN CHE WITH DESCENDER"),
  (0x4BF, "aCYRILLIC SMALL LETTER ABKHASIAN CHE WITH DESCENDER;bLETTER PALOCHKA"),
  (0x4C1, "aCYRILLIC CAPITAL LETTER ZHE WITH BREVE;bSMALL LETTER ZHE WITH BREVE"),
  (0x4C3, "aCYRILLIC CAPITAL LETTER KA WITH HOOK;bSMALL LETTER KA WITH HOOK"),
  (0x4C5, "aCYRILLIC CAPITAL LETTER EL WITH TAIL;bSMALL LETTER EL WITH TAIL"),
  (0x4C7, "aCYRILLIC CAPITAL LETTER EN WITH HOOK;bSMALL LETTER EN WITH HOOK"),
  (0x4C9, "aCYRILLIC CAPITAL LETTER EN WITH TAIL;bSMALL LETTER EN WITH TAIL"),
  (0x4CB, "aCYRILLIC CAPITAL LETTER KHAKASSIAN CHE;bSMALL LETTER KHAKASSIAN CHE"),
  (0x4CD, "aCYRILLIC CAPITAL LETTER EM WITH TAIL;bSMALL LETTER EM WITH TAIL;dPALOCHKA"),
  (0x4D0, "aCYRILLIC CAPITAL LETTER A WITH BREVE;bSMALL LETTER A WITH BREVE"),
  (0x4D2, "aCYRILLIC CAPITAL LETTER A WITH DIAERESIS;bSMALL LETTER A WITH DIAERESIS"),
  (0x4D4, "aCYRILLIC CAPITAL LIGATURE A IE;bSMALL LIGATURE A IE;bCAPITAL LETTER IE WITH BREVE"),
  (0x4D7, "aCYRILLIC SMALL LETTER IE WITH BREVE;bCAPITAL LETTER SCHWA;bSMALL LETTER SCHWA"),
  (0x4DA, "aCYRILLIC CAPITAL LETTER SCHWA WITH DIAERESIS;bSMALL LETTER SCHWA WITH DIAERESIS"),
  (0x4DC, "aCYRILLIC CAPITAL LETTER ZHE WITH DIAERESIS;bSMALL LETTER ZHE WITH DIAERESIS"),
  (0x4DE, "aCYRILLIC CAPITAL LETTER ZE WITH DIAERESIS;bSMALL LETTER ZE WITH DIAERESIS"),
  (0x4E0, "aCYRILLIC CAPITAL LETTER ABKHASIAN DZE;bSMALL LETTER ABKHASIAN DZE"),
  (0x4E2, "aCYRILLIC CAPITAL LETTER I WITH MACRON;bSMALL LETTER I WITH MACRON"),
  (0x4E4, "aCYRILLIC CAPITAL LETTER I WITH DIAERESIS;bSMALL LETTER I WITH DIAERESIS"),
  (0x4E6, "aCYRILLIC CAPITAL LETTER O WITH DIAERESIS;bSMALL LETTER O WITH DIAERESIS"),
  (0x4E8, "aCYRILLIC CAPITAL LETTER BARRED O;bSMALL LETTER BARRED O"),
  (0x4EA, "aCYRILLIC CAPITAL LETTER BARRED O WITH DIAERESIS;bSMALL LETTER BARRED O WITH DIAERESIS"),
  (0x4EC, "aCYRILLIC CAPITAL LETTER E WITH DIAERESIS;bSMALL LETTER E WITH DIAERESIS"),
  (0x4EE, "aCYRILLIC CAPITAL LETTER U WITH MACRON;bSMALL LETTER U WITH MACRON"),
  (0x4F0, "aCYRILLIC CAPITAL LETTER U WITH DIAERESIS;bSMALL LETTER U WITH DIAERESIS"),
  (0x4F2, "aCYRILLIC CAPITAL LETTER U WITH DOUBLE ACUTE;bSMALL LETTER U WITH DOUBLE ACUTE"),
  (0x4F4, "aCYRILLIC CAPITAL LETTER CHE WITH DIAERESIS;bSMALL LETTER CHE WITH DIAERESIS"),
  (0x4F6, "aCYRILLIC CAPITAL LETTER GHE WITH DESCENDER;bSMALL LETTER GHE WITH DESCENDER"),
  (0x4F8, "aCYRILLIC CAPITAL LETTER YERU WITH DIAERESIS;bSMALL LETTER YERU WITH DIAERESIS"),
  (0x4FA, "aCYRILLIC CAPITAL LETTER GHE WITH STROKE AND HOOK"),
  (0x4FB, "aCYRILLIC SMALL LETTER GHE WITH STROKE AND HOOK;bCAPITAL LETTER HA WITH HOOK"),
  (0x4FD, "aCYRILLIC SMALL LETTER HA WITH HOOK;bCAPITAL LETTER HA WITH STROKE"),
  (0x4FF, "aCYRILLIC SMALL LETTER HA WITH STROKE;bCAPITAL LETTER KOMI DE;bSMALL LETTER KOMI DE"),
  (0x502, "aCYRILLIC CAPITAL LETTER KOMI DJE;bSMALL LETTER KOMI DJE;bCAPITAL LETTER KOMI ZJE"),
  (0x505, "aCYRILLIC SMALL LETTER KOMI ZJE;bCAPITAL LETTER KOMI DZJE;bSMALL LETTER KOMI DZJE"),
  (0x508, "aCYRILLIC CAPITAL LETTER KOMI LJE;bSMALL LETTER KOMI LJE;bCAPITAL LETTER KOMI NJE"),
  (0x50B, "aCYRILLIC SMALL LETTER KOMI NJE;bCAPITAL LETTER KOMI SJE;bSMALL LETTER KOMI SJE"),
  (0x50E, "aCYRILLIC CAPITAL LETTER KOMI TJE;bSMALL LETTER KOMI TJE;bCAPITAL LETTER REVERSED ZE"),
  (0x511, "aCYRILLIC SMALL LETTER REVERSED ZE;bCAPITAL LETTER EL WITH HOOK"),
  (0x513, "aCYRILLIC SMALL LETTER EL WITH HOOK;bCAPITAL LETTER LHA;bSMALL LETTER LHA"),
  (0x516, "aCYRILLIC CAPITAL LETTER RHA;bSMALL LETTER RHA;bCAPITAL LETTER YAE;bSMALL LETTER YAE"),
  (0x51A, "aCYRILLIC CAPITAL LETTER QA;bSMALL LETTER QA;bCAPITAL LETTER WE;bSMALL LETTER WE"),
  (0x51E, "aCYRILLIC CAPITAL LETTER ALEUT KA;bSMALL LETTER ALEUT KA"),
  (0x520, "aCYRILLIC CAPITAL LETTER EL WITH MIDDLE HOOK;bSMALL LETTER EL WITH MIDDLE HOOK"),
  (0x522, "aCYRILLIC CAPITAL LETTER EN WITH MIDDLE HOOK;bSMALL LETTER EN WITH MIDDLE HOOK"),
  (0x524, "aCYRILLIC CAPITAL LETTER PE WITH DESCENDER;bSMALL LETTER PE WITH DESCENDER"),
  (0x526, "aCYRILLIC CAPITAL LETTER SHHA WITH DESCENDER;bSMALL LETTER SHHA WITH DESCENDER"),
  (0x528, "aCYRILLIC CAPITAL LETTER EN WITH LEFT HOOK;bSMALL LETTER EN WITH LEFT HOOK"),
  (0x52A, "aCYRILLIC CAPITAL LETTER DZZHE;bSMALL LETTER DZZHE;bCAPITAL LETTER DCHE"),
  (0x52D, "aCYRILLIC SMALL LETTER DCHE;bCAPITAL LETTER EL WITH DESCENDER"),
  (0x52F, "aCYRILLIC SMALL LETTER EL WITH DESCENDER"),
  (0x531, "aARMENIAN CAPITAL LETTER AYB;dBEN;dGIM;dDA;dECH;dZA;dEH;dET;dTO;dZHE;dINI;dLIWN;dXEH"),
  (0x53E, "aARMENIAN CAPITAL LETTER CA;dKEN;dHO;dJA;dGHAD;dCHEH;dMEN;dYI;dNOW;dSHA;dVO;dCHA;dPEH"),
  (0x54B, "aARMENIAN CAPITAL LETTER JHEH;dRA;dSEH;dVEW;dTIWN;dREH;dCO;dYIWN;dPIWR;dKEH;dOH;dFEH"),
  (0x559, "aARMENIAN MODIFIER LETTER LEFT HALF RING;bAPOSTROPHE;bEMPHASIS MARK;bEXCLAMATION MARK"),
  (0x55D, "aARMENIAN COMMA;bQUESTION MARK;bABBREVIATION MARK;bSMALL LETTER TURNED AYB;dAYB;dBEN"),
  (0x563, "aARMENIAN SMALL LETTER GIM;dDA;dECH;dZA;dEH;dET;dTO;dZHE;dINI;dLIWN;dXEH;dCA;dKEN;dHO"),
  (0x571, "aARMENIAN SMALL LETTER JA;dGHAD;dCHEH;dMEN;dYI;dNOW;dSHA;dVO;dCHA;dPEH;dJHEH;dRA;dSEH"),
  (0x57E, "aARMENIAN SMALL LETTER VEW;dTIWN;dREH;dCO;dYIWN;dPIWR;dKEH;dOH;dFEH;cLIGATURE ECH YIWN"),
  (0x588, "aARMENIAN SMALL LETTER YI WITH STROKE;bFULL STOP;bHYPHEN"),
  (0x58D, "aRIGHT-FACING ARMENIAN ETERNITY SIGN;aLEFT-FACING ARMENIAN ETERNITY SIGN"),
  (0x58F, "aARMENIAN DRAM SIGN"),
  (0x591, "aHEBREW ACCENT ETNAHTA;cSEGOL;cSHALSHELET;cZAQEF QATAN;dGADOL;cTIPEHA;cREVIA;cZARQA"),
  (0x599, "aHEBREW ACCENT PASHTA;cYETIV;cTEVIR;cGERESH;dMUQDAM;cGERSHAYIM;cQARNEY PARA"),
  (0x5A0, "aHEBREW ACCENT TELISHA GEDOLA;cPAZER;cATNAH HAFUKH;cMUNAH;cMAHAPAKH;cMERKHA;dKEFULA"),
  (0x5A7, "aHEBREW ACCENT DARGA;cQADMA;cTELISHA QETANA;cYERAH BEN YOMO;cOLE;cILUY;cDEHI;cZINOR"),
  (0x5AF, "aHEBREW MARK MASORA CIRCLE;bPOINT SHEVA;cHATAF SEGOL;dPATAH;dQAMATS;cHIRIQ;cTSERE"),
  (0x5B6, "aHEBREW POINT SEGOL;cPATAH;cQAMATS;cHOLAM;dHASER FOR VAV;cQUBUTS;cDAGESH OR MAPIQ"),
  (0x5BD, "aHEBREW POINT METEG;bPUNCTUATION MAQAF;bPOINT RAFE;bPUNCTUATION PASEQ;bPOINT SHIN DOT"),
  (0x5C2, "aHEBREW POINT SIN DOT;bPUNCTUATION SOF PASUQ;bMARK UPPER DOT;cLOWER DOT"),
  (0x5C6, "aHEBREW PUNCTUATION NUN HAFUKHA;bPOINT QAMATS QATAN"),
  (0x5D0, "aHEBREW LETTER ALEF;cBET;cGIMEL;cDALET;cHE;cVAV;cZAYIN;cHET;cTET;cYOD;cFINAL KAF;cKAF"),
  (0x5DC, "aHEBREW LETTER LAMED;cFINAL MEM;cMEM;cFINAL NUN;cNUN;cSAMEKH;cAYIN;cFINAL PE;cPE"),
  (0x5E5, "aHEBREW LETTER FINAL TSADI;cTSADI;cQOF;cRESH;cSHIN;cTAV"),
  (0x5EF, "aHEBREW YOD TRIANGLE;bLIGATURE YIDDISH DOUBLE VAV;dVAV YOD;dDOUBLE YOD"),
  (0x5F3, "aHEBREW PUNCTUATION GERESH;cGERSHAYIM"),
  (0x600, "aARABIC NUMBER SIGN;bSIGN SANAH;bFOOTNOTE MARKER;bSIGN SAFHA;cSAMVAT"),
  (0x605, "aARABIC NUMBER MARK ABOVE;aARABIC-INDIC CUBE ROOT;bFOURTH ROOT;aARABIC RAY"),
  (0x609, "aARABIC-INDIC PER MILLE SIGN;cTEN THOUSAND SIGN;aAFGHANI SIGN;aARABIC COMMA"),
  (0x60D, "aARABIC DATE SEPARATOR;bPOETIC VERSE SIGN;bSIGN MISRA;cSALLALLAHOU ALAYHE WASSALLAM"),
  (0x611, "aARABIC SIGN ALAYHE ASSALLAM;cRAHMATULLAH ALAYHE;cRADI ALLAHOU ANHU;cTAKHALLUS"),
  (0x615, "aARABIC SMALL HIGH TAH;dLIGATURE ALEF WITH LAM WITH YEH;dZAIN;cFATHA;cDAMMA;cKASRA"),
  (0x61B, "aARABIC SEMICOLON;bLETTER MARK;bEND OF TEXT MARK;bTRIPLE DOT PUNCTUATION MARK"),
  (0x61F, "aARABIC QUESTION MARK;bLETTER KASHMIRI YEH;cHAMZA;cALEF WITH MADDA ABOVE;eHAMZA ABOVE"),
  (0x624, "aARABIC LETTER WAW WITH HAMZA ABOVE;cALEF WITH HAMZA BELOW;cYEH WITH HAMZA ABOVE;cALEF"),
  (0x628, "aARABIC LETTER BEH;cTEH MARBUTA;d;cTHEH;cJEEM;cHAH;cKHAH;cDAL;cTHAL;cREH;cZAIN;cSEEN"),
  (0x634, "aARABIC LETTER SHEEN;cSAD;cDAD;cTAH;cZAH;cAIN;cGHAIN;cKEHEH WITH TWO DOTS ABOVE"),
  (0x63C, "aARABIC LETTER KEHEH WITH THREE DOTS BELOW;cFARSI YEH WITH INVERTED V;fTWO DOTS ABOVE"),
  (0x63F, "aARABIC LETTER FARSI YEH WITH THREE DOTS ABOVE;bTATWEEL;bLETTER FEH;cQAF;cKAF;cLAM"),
  (0x645, "aARABIC LETTER MEEM;cNOON;cHEH;cWAW;cALEF MAKSURA;cYEH;bFATHATAN;bDAMMATAN;bKASRATAN"),
  (0x64E, "aARABIC FATHA;bDAMMA;bKASRA;bSHADDA;bSUKUN;bMADDAH ABOVE;bHAMZA ABOVE;cBELOW"),
  (0x656, "aARABIC SUBSCRIPT ALEF;bINVERTED DAMMA;bMARK NOON GHUNNA;bZWARAKAY"),
  (0x65A, "aARABIC VOWEL SIGN SMALL V ABOVE;dINVERTED SMALL V ABOVE;dDOT BELOW;bREVERSED DAMMA"),
  (0x65E, "aARABIC FATHA WITH TWO DOTS;bWAVY HAMZA BELOW;aARABIC-INDIC DIGIT ZERO;cONE;cTWO"),
  (0x663, "aARABIC-INDIC DIGIT THREE;cFOUR;cFIVE;cSIX;cSEVEN;cEIGHT;cNINE;aARABIC PERCENT SIGN"),
  (0x66B, "aARABIC DECIMAL SEPARATOR;bTHOUSANDS SEPARATOR;bFIVE POINTED STAR;bLETTER DOTLESS BEH"),
  (0x66F, "aARABIC LETTER DOTLESS QAF;cSUPERSCRIPT ALEF;cALEF WASLA;dWITH WAVY HAMZA ABOVE;gBELOW"),
  (0x674, "aARABIC LETTER HIGH HAMZA;eALEF;eWAW;cU WITH HAMZA ABOVE;cHIGH HAMZA YEH;cTTEH;cTTEHEH"),
  (0x67B, "aARABIC LETTER BEEH;cTEH WITH RING;eTHREE DOTS ABOVE DOWNWARDS;cPEH;cTEHEH;cBEHEH"),
  (0x681, "aARABIC LETTER HAH WITH HAMZA ABOVE;eTWO DOTS VERTICAL ABOVE;cNYEH;cDYEH"),
  (0x685, "aARABIC LETTER HAH WITH THREE DOTS ABOVE;cTCHEH;cTCHEHEH;cDDAL;cDAL WITH RING"),
  (0x68A, "aARABIC LETTER DAL WITH DOT BELOW;gAND SMALL TAH;cDAHAL;cDDAHAL;cDUL"),
  (0x68F, "aARABIC LETTER DAL WITH THREE DOTS ABOVE DOWNWARDS;eFOUR DOTS ABOVE;cRREH"),
  (0x692, "aARABIC LETTER REH WITH SMALL V;eRING;eDOT BELOW;eSMALL V BELOW"),
  (0x696, "aARABIC LETTER REH WITH DOT BELOW AND DOT ABOVE;eTWO DOTS ABOVE;cJEH")]

/-- The lines of names from U+0699 on. -/
def namesFrom0699 : List (Nat × String) := [
  (0x699, "aARABIC LETTER REH WITH FOUR DOTS ABOVE;cSEEN WITH DOT BELOW AND DOT ABOVE"),
  (0x69B, "aARABIC LETTER SEEN WITH THREE DOTS BELOW;hAND THREE DOTS ABOVE"),
  (0x69D, "aARABIC LETTER SAD WITH TWO DOTS BELOW;eTHREE DOTS ABOVE;cTAH WITH THREE DOTS ABOVE"),
  (0x6A0, "aARABIC LETTER AIN WITH THREE DOTS ABOVE;cDOTLESS FEH;cFEH WITH DOT MOVED BELOW;fBELOW"),
  (0x6A4, "aARABIC LETTER VEH;cFEH WITH THREE DOTS BELOW;cPEHEH;cQAF WITH DOT ABOVE"),
  (0x6A8, "aARABIC LETTER QAF WITH THREE DOTS ABOVE;cKEHEH;cSWASH KAF;cKAF WITH RING;eDOT ABOVE"),
  (0x6AD, "aARABIC LETTER NG;cKAF WITH THREE DOTS BELOW;cGAF;dWITH RING;cNGOEH"),
  (0x6B2, "aARABIC LETTER GAF WITH TWO DOTS BELOW;cGUEH;cGAF WITH THREE DOTS ABOVE"),
  (0x6B5, "aARABIC LETTER LAM WITH SMALL V;eDOT ABOVE;eTHREE DOTS ABOVE;gBELOW"),
  (0x6B9, "aARABIC LETTER NOON WITH DOT BELOW;dGHUNNA;cRNOON;cNOON WITH RING;eTHREE DOTS ABOVE"),
  (0x6BE, "aARABIC LETTER HEH DOACHASHMEE;cTCHEH WITH DOT ABOVE;cHEH WITH YEH ABOVE;dGOAL"),
  (0x6C2, "aARABIC LETTER HEH GOAL WITH HAMZA ABOVE;cTEH MARBUTA GOAL;cWAW WITH RING;cKIRGHIZ OE"),
  (0x6C6, "aARABIC LETTER OE;cU;cYU;cKIRGHIZ YU;cWAW WITH TWO DOTS ABOVE;cVE;cFARSI YEH"),
  (0x6CD, "aARABIC LETTER YEH WITH TAIL;eSMALL V;cWAW WITH DOT ABOVE;cE"),
  (0x6D1, "aARABIC LETTER YEH WITH THREE DOTS BELOW;dBARREE;eWITH HAMZA ABOVE;bFULL STOP"),
  (0x6D5, "aARABIC LETTER AE;bSMALL HIGH LIGATURE SAD WITH LAM WITH ALEF MAKSURA"),
  (0x6D7, "aARABIC SMALL HIGH LIGATURE QAF WITH LAM WITH ALEF MAKSURA;dMEEM INITIAL FORM"),
  (0x6D9, "aARABIC SMALL HIGH LAM ALEF;dJEEM;dTHREE DOTS;dSEEN;bEND OF AYAH;bSTART OF RUB EL HIZB"),
  (0x6DF, "aARABIC SMALL HIGH ROUNDED ZERO;dUPRIGHT RECTANGULAR ZERO;dDOTLESS HEAD OF KHAH"),
  (0x6E2, "aARABIC SMALL HIGH MEEM ISOLATED FORM;cLOW SEEN;cHIGH MADDA;cWAW;cYEH;cHIGH YEH;dNOON"),
  (0x6E9, "aARABIC PLACE OF SAJDAH;bEMPTY CENTRE LOW STOP;dHIGH STOP"),
  (0x6EC, "aARABIC ROUNDED HIGH STOP WITH FILLED CENTRE;bSMALL LOW MEEM"),
  (0x6EE, "aARABIC LETTER DAL WITH INVERTED V;cREH WITH INVERTED V"),
  (0x6F0, "aEXTENDED ARABIC-INDIC DIGIT ZERO;dONE;dTWO;dTHREE;dFOUR;dFIVE;dSIX;dSEVEN;dEIGHT"),
  (0x6F9, "aEXTENDED ARABIC-INDIC DIGIT NINE;aARABIC LETTER SHEEN WITH DOT BELOW"),
  (0x6FB, "aARABIC LETTER DAD WITH DOT BELOW;cGHAIN WITH DOT BELOW;bSIGN SINDHI AMPERSAND"),
  (0x6FE, "aARABIC SIGN SINDHI POSTPOSITION MEN;bLETTER HEH WITH INVERTED V"),
  (0x700, "aSYRIAC END OF PARAGRAPH;bSUPRALINEAR FULL STOP;bSUBLINEAR FULL STOP"),
  (0x703, "aSYRIAC SUPRALINEAR COLON;bSUBLINEAR COLON;bHORIZONTAL COLON;bCOLON SKEWED LEFT;dRIGHT"),
  (0x708, "aSYRIAC SUPRALINEAR COLON SKEWED LEFT;bSUBLINEAR COLON SKEWED RIGHT;bCONTRACTION"),
  (0x70B, "aSYRIAC HARKLEAN OBELUS;cMETOBELUS;cASTERISCUS"),
  (0x70F, "aSYRIAC ABBREVIATION MARK;bLETTER ALAPH;cSUPERSCRIPT ALAPH;cBETH;cGAMAL;dGARSHUNI"),
  (0x715, "aSYRIAC LETTER DALATH;cDOTLESS DALATH RISH;cHE;cWAW;cZAIN;cHETH;cTETH;dGARSHUNI;cYUDH"),
  (0x71E, "aSYRIAC LETTER YUDH HE;cKAPH;cLAMADH;cMIM;cNUN;cSEMKATH;cFINAL SEMKATH;cE;cPE"),
  (0x727, "aSYRIAC LETTER REVERSED PE;cSADHE;cQAPH;cRISH;cSHIN;cTAW;cPERSIAN BHETH;dGHAMAL"),
  (0x72F, "aSYRIAC LETTER PERSIAN DHALATH;bPTHAHA ABOVE;cBELOW;cDOTTED;bZQAPHA ABOVE;cBELOW"),
  (0x735, "aSYRIAC ZQAPHA DOTTED;bRBASA ABOVE;cBELOW;bDOTTED ZLAMA HORIZONTAL;dANGULAR"),
  (0x73A, "aSYRIAC HBASA ABOVE;cBELOW;bHBASA-ESASA DOTTED;bESASA ABOVE;cBELOW;bRWAHA"),
  (0x740, "aSYRIAC FEMININE DOT;bQUSHSHAYA;bRUKKAKHA;bTWO VERTICAL DOTS ABOVE;eBELOW"),
  (0x745, "aSYRIAC THREE DOTS ABOVE;dBELOW;bOBLIQUE LINE ABOVE;dBELOW;bMUSIC;bBARREKH"),
  (0x74D, "aSYRIAC LETTER SOGDIAN ZHAIN;dKHAPH;dFE"),
  (0x750, "aARABIC LETTER BEH WITH THREE DOTS HORIZONTALLY BELOW;eDOT BELOW AND THREE DOTS ABOVE"),
  (0x752, "aARABIC LETTER BEH WITH THREE DOTS POINTING UPWARDS BELOW;jAND TWO DOTS ABOVE"),
  (0x754, "aARABIC LETTER BEH WITH TWO DOTS BELOW AND DOT ABOVE;eINVERTED SMALL V BELOW;eSMALL V"),
  (0x757, "aARABIC LETTER HAH WITH TWO DOTS ABOVE;eTHREE DOTS POINTING UPWARDS BELOW"),
  (0x759, "aARABIC LETTER DAL WITH TWO DOTS VERTICALLY BELOW AND SMALL TAH"),
  (0x75A, "aARABIC LETTER DAL WITH INVERTED SMALL V BELOW;cREH WITH STROKE"),
  (0x75C, "aARABIC LETTER SEEN WITH FOUR DOTS ABOVE;cAIN WITH TWO DOTS ABOVE"),
  (0x75E, "aARABIC LETTER AIN WITH THREE DOTS POINTING DOWNWARDS ABOVE;eTWO DOTS VERTICALLY ABOVE"),
  (0x760, "aARABIC LETTER FEH WITH TWO DOTS BELOW;eTHREE DOTS POINTING UPWARDS BELOW"),
  (0x762, "aARABIC LETTER KEHEH WITH DOT ABOVE;eTHREE DOTS ABOVE;gPOINTING UPWARDS BELOW"),
  (0x765, "aARABIC LETTER MEEM WITH DOT ABOVE;fBELOW;cNOON WITH TWO DOTS BELOW;eSMALL TAH;fV"),
  (0x76A, "aARABIC LETTER LAM WITH BAR;cREH WITH TWO DOTS VERTICALLY ABOVE;eHAMZA ABOVE"),
  (0x76D, "aARABIC LETTER SEEN WITH TWO DOTS VERTICALLY ABOVE"),
  (0x76E, "aARABIC LETTER HAH WITH SMALL ARABIC LETTER TAH BELOW;iAND TWO DOTS"),
  (0x770, "aARABIC LETTER SEEN WITH SMALL ARABIC LETTER TAH AND TWO DOTS"),
  (0x771, "aARABIC LETTER REH WITH SMALL ARABIC LETTER TAH AND TWO DOTS"),
  (0x772, "aARABIC LETTER HAH WITH SMALL ARABIC LETTER TAH ABOVE"),
  (0x773, "aARABIC LETTER ALEF WITH EXTENDED ARABIC-INDIC DIGIT TWO ABOVE;hTHREE ABOVE"),
  (0x775, "aARABIC LETTER FARSI YEH WITH EXTENDED ARABIC-INDIC DIGIT TWO ABOVE;iTHREE ABOVE"),
  (0x777, "aARABIC LETTER FARSI YEH WITH EXTENDED ARABIC-INDIC DIGIT FOUR BELOW"),
  (0x778, "aARABIC LETTER WAW WITH EXTENDED ARABIC-INDIC DIGIT TWO ABOVE;hTHREE ABOVE"),
  (0x77A, "aARABIC LETTER YEH BARREE WITH EXTENDED ARABIC-INDIC DIGIT TWO ABOVE;iTHREE ABOVE"),
  (0x77C, "aARABIC LETTER HAH WITH EXTENDED ARABIC-INDIC DIGIT FOUR BELOW"),
  (0x77D, "aARABIC LETTER SEEN WITH EXTENDED ARABIC-INDIC DIGIT FOUR ABOVE;eINVERTED V"),
  (0x77F, "aARABIC LETTER KAF WITH TWO DOTS ABOVE;aTHAANA LETTER HAA;cSHAVIYANI;cNOONU;cRAA;cBAA"),
  (0x785, "aTHAANA LETTER LHAVIYANI;cKAAFU;cALIFU;cVAAVU;cMEEMU;cFAAFU;cDHAALU;cTHAA;cLAAMU"),
  (0x78E, "aTHAANA LETTER GAAFU;cGNAVIYANI;cSEENU;cDAVIYANI;cZAVIYANI;cTAVIYANI;cYAA;cPAVIYANI"),
  (0x796, "aTHAANA LETTER JAVIYANI;cCHAVIYANI;cTTAA;cHHAA;cKHAA;cTHAALU;cZAA;cSHEENU;cSAADHU"),
  (0x79F, "aTHAANA LETTER DAADHU;cTO;cZO;cAINU;cGHAINU;cQAAFU;cWAAVU;bABAFILI;bAABAAFILI;bIBIFILI"),
  (0x7A9, "aTHAANA EEBEEFILI;bUBUFILI;bOOBOOFILI;bEBEFILI;bEYBEYFILI;bOBOFILI;bOABOAFILI;bSUKUN"),
  (0x7B1, "aTHAANA LETTER NAA"),
  (0x7C0, "aNKO DIGIT ZERO;cONE;cTWO;cTHREE;cFOUR;cFIVE;cSIX;cSEVEN;cEIGHT;cNINE;bLETTER A;cEE;cI"),
  (0x7CD, "aNKO LETTER E;cU;cOO;cO;cDAGBASINNA;cN;cBA;cPA;cTA;cJA;cCHA;cDA;cRA;cRRA;cSA;cGBA;cFA"),
  (0x7DE, "aNKO LETTER KA;cLA;cNA WOLOSO;cMA;cNYA;cNA;cHA;cWA;cYA;cNYA WOLOSO;cJONA JA;dCHA;dRA"),
  (0x7EB, "aNKO COMBINING SHORT HIGH TONE;dLOW TONE;dRISING TONE;cLONG DESCENDING TONE;dHIGH TONE"),
  (0x7F0, "aNKO COMBINING LONG LOW TONE;dRISING TONE;cNASALIZATION MARK;cDOUBLE DOT ABOVE"),
  (0x7F4, "aNKO HIGH TONE APOSTROPHE;bLOW TONE APOSTROPHE;bSYMBOL OO DENNEN;cGBAKURUNEN;bCOMMA"),
  (0x7F9, "aNKO EXCLAMATION MARK;bLAJANYALAN"),
  (0x7FD, "aNKO DANTAYALAN;bDOROME SIGN;bTAMAN SIGN;aSAMARITAN LETTER ALAF;cBIT;cGAMAN;cDALAT;cIY"),
  (0x805, "aSAMARITAN LETTER BAA;cZEN;cIT;cTIT;cYUT;cKAAF;cLABAT;cMIM;cNUN;cSINGAAT;cIN;cFI"),
  (0x811, "aSAMARITAN LETTER TSAADIY;cQUF;cRISH;cSHAN;cTAAF;bMARK IN;cIN-ALAF;cOCCLUSION;cDAGESH"),
  (0x81A, "aSAMARITAN MODIFIER LETTER EPENTHETIC YUT;bMARK EPENTHETIC YUT;bVOWEL SIGN LONG E;dE"),
  (0x81E, "aSAMARITAN VOWEL SIGN OVERLONG AA;dLONG AA;dAA;dOVERLONG A;dLONG A;dA"),
  (0x824, "aSAMARITAN MODIFIER LETTER SHORT A;bVOWEL SIGN SHORT A;dLONG U;dU;bMODIFIER LETTER I"),
  (0x829, "aSAMARITAN VOWEL SIGN LONG I;dI;dO;dSUKUN;bMARK NEQUDAA"),
  (0x830, "aSAMARITAN PUNCTUATION NEQUDAA;cAFSAAQ;cANGED;cBAU;cATMAAU;cSHIYYAALAA"),
  (0x836, "aSAMARITAN ABBREVIATION MARK;bPUNCTUATION MELODIC QITSA;cZIQAA;cQITSA;cZAEF;cTURU"),
  (0x83C, "aSAMARITAN PUNCTUATION ARKAANU;cSOF MASHFAAT;cANNAAU"),
  (0x840, "aMANDAIC LETTER HALQA;cAB;cAG;cAD;cAH;cUSHENNA;cAZ;cIT;cATT;cAKSA;cAK;cAL;cAM;cAN;cAS"),
  (0x84F, "aMANDAIC LETTER IN;cAP;cASZ;cAQ;cAR;cASH;cAT;cDUSHENNA;cKAD;cAIN;bAFFRICATION MARK"),
  (0x85A, "aMANDAIC VOCALIZATION MARK;bGEMINATION MARK"),
  (0x85E, "aMANDAIC PUNCTUATION"),
  (0x860, "aSYRIAC LETTER MALAYALAM NGA;dJA;dNYA;dTTA;dNNA;dNNNA;dBHA;dRA;dLLA;dLLLA;dSSA"),
  (0x870, "aARABIC LETTER ALEF WITH ATTACHED FATHA;fTOP RIGHT FATHA;eRIGHT MIDDLE STROKE"),
  (0x873, "aARABIC LETTER ALEF WITH LEFT MIDDLE STROKE;eATTACHED KASRA;fBOTTOM RIGHT KASRA"),
  (0x876, "aARABIC LETTER ALEF WITH ATTACHED ROUND DOT ABOVE;fRIGHT ROUND DOT;fLEFT ROUND DOT"),
  (0x879, "aARABIC LETTER ALEF WITH ATTACHED ROUND DOT BELOW;eDOT ABOVE"),
  (0x87B, "aARABIC LETTER ALEF WITH ATTACHED TOP RIGHT FATHA AND DOT ABOVE"),
  (0x87C, "aARABIC LETTER ALEF WITH RIGHT MIDDLE STROKE AND DOT ABOVE"),
  (0x87D, "aARABIC LETTER ALEF WITH ATTACHED BOTTOM RIGHT KASRA AND DOT ABOVE"),
  (0x87E, "aARABIC LETTER ALEF WITH ATTACHED TOP RIGHT FATHA AND LEFT RING"),
  (0x87F, "aARABIC LETTER ALEF WITH RIGHT MIDDLE STROKE AND LEFT RING"),
  (0x880, "aARABIC LETTER ALEF WITH ATTACHED BOTTOM RIGHT KASRA AND LEFT RING;fRIGHT HAMZA"),
  (0x882, "aARABIC LETTER ALEF WITH ATTACHED LEFT HAMZA;bTATWEEL WITH OVERSTRUCK HAMZA;eWAW"),
  (0x885, "aARABIC TATWEEL WITH TWO DOTS BELOW;bLETTER THIN YEH;bBASELINE ROUND DOT"),
  (0x888, "aARABIC RAISED ROUND DOT;bLETTER NOON WITH INVERTED SMALL V"),
  (0x88A, "aARABIC LETTER HAH WITH INVERTED SMALL V BELOW;cTAH WITH DOT BELOW;eTHREE DOTS BELOW"),
  (0x88D, "aARABIC LETTER KEHEH WITH TWO DOTS VERTICALLY BELOW;bVERTICAL TAIL"),
  (0x890, "aARABIC POUND MARK ABOVE;bPIASTRE MARK ABOVE"),
  (0x898, "aARABIC SMALL HIGH WORD AL-JUZ;cLOW WORD ISHMAAM;eIMAALA;eTASHEEL;bMADDA WAAJIB"),
  (0x89D, "aARABIC SUPERSCRIPT ALEF MOKHASSAS;bDOUBLED MADDA;bHALF MADDA OVER MADDA"),
  (0x8A0, "aARABIC LETTER BEH WITH SMALL V BELOW;eHAMZA ABOVE;cJEEM WITH TWO DOTS ABOVE"),
  (0x8A3, "aARABIC LETTER TAH WITH TWO DOTS ABOVE;cFEH WITH DOT BELOW AND THREE DOTS ABOVE"),
  (0x8A5, "aARABIC LETTER QAF WITH DOT BELOW;cLAM WITH DOUBLE BAR;cMEEM WITH THREE DOTS ABOVE"),
  (0x8A8, "aARABIC LETTER YEH WITH TWO DOTS BELOW AND HAMZA ABOVE;iDOT ABOVE;cREH WITH LOOP"),
  (0x8AB, "aARABIC LETTER WAW WITH DOT WITHIN;cROHINGYA YEH;cLOW ALEF;cDAL WITH THREE DOTS BELOW"),
  (0x8AF, "aARABIC LETTER SAD WITH THREE DOTS BELOW;cGAF WITH INVERTED STROKE;cSTRAIGHT WAW"),
  (0x8B2, "aARABIC LETTER ZAIN WITH INVERTED V ABOVE;cAIN WITH THREE DOTS BELOW"),
  (0x8B4, "aARABIC LETTER KAF WITH DOT BELOW;cQAF WITH DOT BELOW AND NO DOTS ABOVE"),
  (0x8B6, "aARABIC LETTER BEH WITH SMALL MEEM ABOVE;cPEH WITH SMALL MEEM ABOVE"),
  (0x8B8, "aARABIC LETTER TEH WITH SMALL TEH ABOVE;cREH WITH SMALL NOON ABOVE"),
  (0x8BA, "aARABIC LETTER YEH WITH TWO DOTS BELOW AND SMALL NOON ABOVE;cAFRICAN FEH;dQAF;dNOON"),
  (0x8BE, "aARABIC LETTER PEH WITH SMALL V;cTEH WITH SMALL V;cTTEH WITH SMALL V"),
  (0x8C1, "aARABIC LETTER TCHEH WITH SMALL V;cKEHEH WITH SMALL V;cGHAIN WITH THREE DOTS ABOVE"),
  (0x8C4, "aARABIC LETTER AFRICAN QAF WITH THREE DOTS ABOVE;cJEEM WITH THREE DOTS ABOVE;gBELOW"),
  (0x8C7, "aARABIC LETTER LAM WITH SMALL ARABIC LETTER TAH ABOVE;cGRAF;bSMALL FARSI YEH"),
  (0x8CA, "aARABIC SMALL HIGH FARSI YEH;dYEH BARREE WITH TWO DOTS BELOW;dWORD SAH;dZAH"),
  (0x8CE, "aARABIC LARGE ROUND DOT ABOVE;eBELOW;bSUKUN BELOW;bLARGE CIRCLE BELOW"),
  (0x8D2, "aARABIC LARGE ROUND DOT INSIDE CIRCLE BELOW;bSMALL LOW WAW;cHIGH WORD AR-RUB;dSAD;dAIN"),
  (0x8D7, "aARABIC SMALL HIGH QAF;dNOON WITH KASRA;cLOW NOON WITH KASRA;cHIGH WORD ATH-THALATHA"),
  (0x8DB, "aARABIC SMALL HIGH WORD AS-SAJDA;eAN-NISF;eSAKTA;eQIF;eWAQFA;dFOOTNOTE MARKER"),
  (0x8E1, "aARABIC SMALL HIGH SIGN SAFHA;bDISPUTED END OF AYAH;bTURNED DAMMA BELOW;bCURLY FATHA"),
  (0x8E5, "aARABIC CURLY DAMMA;cKASRA;cFATHATAN;cDAMMATAN;cKASRATAN;bTONE ONE DOT ABOVE"),
  (0x8EB, "aARABIC TONE TWO DOTS ABOVE;cLOOP ABOVE;cONE DOT BELOW;cTWO DOTS BELOW;cLOOP BELOW"),
  (0x8F0, "aARABIC OPEN FATHATAN;cDAMMATAN;cKASRATAN;bSMALL HIGH WAW;bFATHA WITH RING;dDOT ABOVE"),
  (0x8F6, "aARABIC KASRA WITH DOT BELOW;bLEFT ARROWHEAD ABOVE;bRIGHT ARROWHEAD ABOVE"),
  (0x8F9, "aARABIC LEFT ARROWHEAD BELOW;bRIGHT ARROWHEAD BELOW;bDOUBLE RIGHT ARROWHEAD ABOVE"),
  (0x8FC, "aARABIC DOUBLE RIGHT ARROWHEAD ABOVE WITH DOT;bRIGHT ARROWHEAD ABOVE WITH DOT"),
  (0x8FE, "aARABIC DAMMA WITH DOT;bMARK SIDEWAYS NOON GHUNNA"),
  (0x900, "aDEVANAGARI SIGN INVERTED CANDRABINDU;cCANDRABINDU;cANUSVARA;cVISARGA;bLETTER SHORT A"),
  (0x905, "aDEVANAGARI LETTER A;cAA;cI;cII;cU;cUU;cVOCALIC R;dL;cCANDRA E;cSHORT E;cE;cAI"),
  (0x911, "aDEVANAGARI LETTER CANDRA O;cSHORT O;cO;cAU;cKA;cKHA;cGA;cGHA;cNGA;cCA;cCHA;cJA;cJHA"),
  (0x91E, "aDEVANAGARI LETTER NYA;cTTA;cTTHA;cDDA;cDDHA;cNNA;cTA;cTHA;cDA;cDHA;cNA;cNNNA;cPA;cPHA"),
  (0x92C, "aDEVANAGARI LETTER BA;cBHA;cMA;cYA;cRA;cRRA;cLA;cLLA;cLLLA;cVA;cSHA;cSSA;cSA;cHA"),
  (0x93A, "aDEVANAGARI VOWEL SIGN OE;dOOE;bSIGN NUKTA;cAVAGRAHA;bVOWEL SIGN AA;dI;dII;dU;dUU"),
  (0x943, "aDEVANAGARI VOWEL SIGN VOCALIC R;eRR;dCANDRA E;dSHORT E;dE;dAI;dCANDRA O;dSHORT O;dO"),
  (0x94C, "aDEVANAGARI VOWEL SIGN AU;bSIGN VIRAMA;bVOWEL SIGN PRISHTHAMATRA E;dAW;bOM"),
  (0x951, "aDEVANAGARI STRESS SIGN UDATTA;dANUDATTA;bGRAVE ACCENT;bACUTE ACCENT"),
  (0x955, "aDEVANAGARI VOWEL SIGN CANDRA LONG E;dUE;dUUE;bLETTER QA;cKHHA;cGHHA;cZA;cDDDHA;cRHA"),
  (0x95E, "aDEVANAGARI LETTER FA;cYYA;cVOCALIC RR;dLL;bVOWEL SIGN VOCALIC L;eLL;bDANDA"),
  (0x965, "aDEVANAGARI DOUBLE DANDA;bDIGIT ZERO;cONE;cTWO;cTHREE;cFOUR;cFIVE;cSIX;cSEVEN;cEIGHT"),
  (0x96F, "aDEVANAGARI DIGIT NINE;bABBREVIATION SIGN;bSIGN HIGH SPACING DOT;bLETTER CANDRA A;cOE"),
  (0x974, "aDEVANAGARI LETTER OOE;cAW;cUE;cUUE;cMARWARI DDA;cZHA;cHEAVY YA;cGGA;cJJA"),
  (0x97D, "aDEVANAGARI LETTER GLOTTAL STOP;cDDDA;cBBA;aBENGALI ANJI;bSIGN CANDRABINDU;cANUSVARA"),
  (0x983, "aBENGALI SIGN VISARGA"),
  (0x985, "aBENGALI LETTER A;cAA;cI;cII;cU;cUU;cVOCALIC R;dL"),
  (0x98F, "aBENGALI LETTER E;cAI"),
  (0x993, "aBENGALI LETTER O;cAU;cKA;cKHA;cGA;cGHA;cNGA;cCA;cCHA;cJA;cJHA;cNYA;cTTA;cTTHA;cDDA"),
  (0x9A2, "aBENGALI LETTER DDHA;cNNA;cTA;cTHA;cDA;cDHA;cNA"),
  (0x9AA, "aBENGALI LETTER PA;cPHA;cBA;cBHA;cMA;cYA;cRA"),
  (0x9B2, "aBENGALI LETTER LA"),
  (0x9B6, "aBENGALI LETTER SHA;cSSA;cSA;cHA"),
  (0x9BC, "aBENGALI SIGN NUKTA;cAVAGRAHA;bVOWEL SIGN AA;dI;dII;dU;dUU;dVOCALIC R;eRR"),
  (0x9C7, "aBENGALI VOWEL SIGN E;dAI"),
  (0x9CB, "aBENGALI VOWEL SIGN O;dAU;bSIGN VIRAMA;bLETTER KHANDA TA"),
  (0x9D7, "aBENGALI AU LENGTH MARK"),
  (0x9DC, "aBENGALI LETTER RRA;cRHA"),
  (0x9DF, "aBENGALI LETTER YYA;cVOCALIC RR;dLL;bVOWEL SIGN VOCALIC L;eLL"),
  (0x9E6, "aBENGALI DIGIT ZERO;cONE;cTWO;cTHREE;cFOUR;cFIVE;cSIX;cSEVEN;cEIGHT;cNINE"),
  (0x9F0, "aBENGALI LETTER RA WITH MIDDLE DIAGONAL;eLOWER DIAGONAL;bRUPEE MARK;cSIGN"),
  (0x9F4, "aBENGALI CURRENCY NUMERATOR ONE;dTWO;dTHREE;dFOUR;dONE LESS THAN THE DENOMINATOR"),
  (0x9F9, "aBENGALI CURRENCY DENOMINATOR SIXTEEN;bISSHAR;bGANDA MARK;bLETTER VEDIC ANUSVARA"),
  (0x9FD, "aBENGALI ABBREVIATION SIGN;bSANDHI MARK"),
  (0xA01, "aGURMUKHI SIGN ADAK BINDI;cBINDI;cVISARGA"),
  (0xA05, "aGURMUKHI LETTER A;cAA;cI;cII;cU;cUU"),
  (0xA0F, "aGURMUKHI LETTER EE;cAI"),
  (0xA13, "aGURMUKHI LETTER OO;cAU;cKA;cKHA;cGA;cGHA;cNGA;cCA;cCHA;cJA;cJHA;cNYA;cTTA;cTTHA;cDDA"),
  (0xA22, "aGURMUKHI LETTER DDHA;cNNA;cTA;cTHA;cDA;cDHA;cNA"),
  (0xA2A, "aGURMUKHI LETTER PA;cPHA;cBA;cBHA;cMA;cYA;cRA"),
  (0xA32, "aGURMUKHI LETTER LA;cLLA"),
  (0xA35, "aGURMUKHI LETTER VA;cSHA"),
  (0xA38, "aGURMUKHI LETTER SA;cHA"),
  (0xA3C, "aGURMUKHI SIGN NUKTA"),
  (0xA3E, "aGURMUKHI VOWEL SIGN AA;dI;dII;dU;dUU"),
  (0xA47, "aGURMUKHI VOWEL SIGN EE;dAI"),
  (0xA4B, "aGURMUKHI VOWEL SIGN OO;dAU;bSIGN VIRAMA"),
  (0xA51, "aGURMUKHI SIGN UDAAT"),
  (0xA59, "aGURMUKHI LETTER KHHA;cGHHA;cZA;cRRA"),
  (0xA5E, "aGURMUKHI LETTER FA"),
  (0xA66, "aGURMUKHI DIGIT ZERO;cONE;cTWO;cTHREE;cFOUR;cFIVE;cSIX;cSEVEN;cEIGHT;cNINE;bTIPPI"),
  (0xA71, "aGURMUKHI ADDAK;bIRI;bURA;bEK ONKAR;bSIGN YAKASH;bABBREVIATION SIGN"),
  (0xA81, "aGUJARATI SIGN CANDRABINDU;cANUSVARA;cVISARGA"),
  (0xA85, "aGUJARATI LETTER A;cAA;cI;cII;cU;cUU;cVOCALIC R;dL;bVOWEL CANDRA E"),
  (0xA8F, "aGUJARATI LETTER E;cAI;bVOWEL CANDRA O"),
  (0xA93, "aGUJARATI LETTER O;cAU;cKA;cKHA;cGA;cGHA;cNGA;cCA;cCHA;cJA;cJHA;cNYA;cTTA;cTTHA;cDDA"),
  (0xAA2, "aGUJARATI LETTER DDHA;cNNA;cTA;cTHA;cDA;cDHA;cNA"),
  (0xAAA, "aGUJARATI LETTER PA;cPHA;cBA;cBHA;cMA;cYA;cRA"),
  (0xAB2, "aGUJARATI LETTER LA;cLLA"),
  (0xAB5, "aGUJARATI LETTER VA;cSHA;cSSA;cSA;cHA"),
  (0xABC, "aGUJARATI SIGN NUKTA;cAVAGRAHA;bVOWEL SIGN AA;dI;dII;dU;dUU;dVOCALIC R;eRR;dCANDRA E"),
  (0xAC7, "aGUJARATI VOWEL SIGN E;dAI;dCANDRA O"),
  (0xACB, "aGUJARATI VOWEL SIGN O;dAU;bSIGN VIRAMA"),
  (0xAD0, "aGUJARATI OM"),
  (0xAE0, "aGUJARATI LETTER VOCALIC RR;dLL;bVOWEL SIGN VOCALIC L;eLL"),
  (0xAE6, "aGUJARATI DIGIT ZERO;cONE;cTWO;cTHREE;cFOUR;cFIVE;cSIX;cSEVEN;cEIGHT;cNINE"),
  (0xAF0, "aGUJARATI ABBREVIATION SIGN;bRUPEE SIGN"),
  (0xAF9, "aGUJARATI LETTER ZHA;bSIGN SUKUN;cSHADDA;cMADDAH;cTHREE-DOT NUKTA ABOVE"),
  (0xAFE, "aGUJARATI SIGN CIRCLE NUKTA ABOVE;cTWO-CIRCLE NUKTA ABOVE"),
  (0xB01, "aORIYA SIGN CANDRABINDU;cANUSVARA;cVISARGA"),
  (0xB05, "aORIYA LETTER A;cAA;cI;cII;cU;cUU;cVOCALIC R;dL"),
  (0xB0F, "aORIYA LETTER E;cAI"),
  (0xB13, "aORIYA LETTER O;cAU;cKA;cKHA;cGA;cGHA;cNGA;cCA;cCHA;cJA;cJHA;cNYA;cTTA;cTTHA;cDDA"),
  (0xB22, "aORIYA LETTER DDHA;cNNA;cTA;cTHA;cDA;cDHA;cNA"),
  (0xB2A, "aORIYA LETTER PA;cPHA;cBA;cBHA;cMA;cYA;cRA"),
  (0xB32, "aORIYA LETTER LA;cLLA"),
  (0xB35, "aORIYA LETTER VA;cSHA;cSSA;cSA;cHA"),
  (0xB3C, "aORIYA SIGN NUKTA;cAVAGRAHA;bVOWEL SIGN AA;dI;dII;dU;dUU;dVOCALIC R;eRR"),
  (0xB47, "aORIYA VOWEL SIGN E;dAI"),
  (0xB4B, "aORIYA VOWEL SIGN O;dAU;bSIGN VIRAMA")]

/-- The lines of names from U+0B55 on. -/
def namesFrom0B55 : List (Nat × String) := [
  (0xB55, "aORIYA SIGN OVERLINE;bAI LENGTH MARK;bAU LENGTH MARK"),
  (0xB5C, "aORIYA LETTER RRA;cRHA"),
  (0xB5F, "aORIYA LETTER YYA;cVOCALIC RR;dLL;bVOWEL SIGN VOCALIC L;eLL"),
  (0xB66, "aORIYA DIGIT ZERO;cONE;cTWO;cTHREE;cFOUR;cFIVE;cSIX;cSEVEN;cEIGHT;cNINE;bISSHAR"),
  (0xB71, "aORIYA LETTER WA;bFRACTION ONE QUARTER;dHALF;cTHREE QUARTERS;cONE SIXTEENTH;dEIGHTH"),
  (0xB77, "aORIYA FRACTION THREE SIXTEENTHS"),
  (0xB82, "aTAMIL SIGN ANUSVARA;cVISARGA"),
  (0xB85, "aTAMIL LETTER A;cAA;cI;cII;cU;cUU"),
  (0xB8E, "aTAMIL LETTER E;cEE;cAI"),
  (0xB92, "aTAMIL LETTER O;cOO;cAU;cKA"),
  (0xB99, "aTAMIL LETTER NGA;cCA"),
  (0xB9C, "aTAMIL LETTER JA"),
  (0xB9E, "aTAMIL LETTER NYA;cTTA"),
  (0xBA3, "aTAMIL LETTER NNA;cTA"),
  (0xBA8, "aTAMIL LETTER NA;cNNNA;cPA"),
  (0xBAE, "aTAMIL LETTER MA;cYA;cRA;cRRA;cLA;cLLA;cLLLA;cVA;cSHA;cSSA;cSA;cHA"),
  (0xBBE, "aTAMIL VOWEL SIGN AA;dI;dII;dU;dUU"),
  (0xBC6, "aTAMIL VOWEL SIGN E;dEE;dAI"),
  (0xBCA, "aTAMIL VOWEL SIGN O;dOO;dAU;bSIGN VIRAMA"),
  (0xBD0, "aTAMIL OM"),
  (0xBD7, "aTAMIL AU LENGTH MARK"),
  (0xBE6, "aTAMIL DIGIT ZERO;cONE;cTWO;cTHREE;cFOUR;cFIVE;cSIX;cSEVEN;cEIGHT;cNINE;bNUMBER TEN"),
  (0xBF1, "aTAMIL NUMBER ONE HUNDRED;dTHOUSAND;bDAY SIGN;bMONTH SIGN;bYEAR SIGN;bDEBIT SIGN"),
  (0xBF7, "aTAMIL CREDIT SIGN;bAS ABOVE SIGN;bRUPEE SIGN;bNUMBER SIGN"),
  (0xC00, "aTELUGU SIGN COMBINING CANDRABINDU ABOVE;cCANDRABINDU;cANUSVARA;cVISARGA"),
  (0xC04, "aTELUGU SIGN COMBINING ANUSVARA ABOVE;bLETTER A;cAA;cI;cII;cU;cUU;cVOCALIC R;dL"),
  (0xC0E, "aTELUGU LETTER E;cEE;cAI"),
  (0xC12, "aTELUGU LETTER O;cOO;cAU;cKA;cKHA;cGA;cGHA;cNGA;cCA;cCHA;cJA;cJHA;cNYA;cTTA;cTTHA;cDDA"),
  (0xC22, "aTELUGU LETTER DDHA;cNNA;cTA;cTHA;cDA;cDHA;cNA"),
  (0xC2A, "aTELUGU LETTER PA;cPHA;cBA;cBHA;cMA;cYA;cRA;cRRA;cLA;cLLA;cLLLA;cVA;cSHA;cSSA;cSA;cHA"),
  (0xC3C, "aTELUGU SIGN NUKTA;cAVAGRAHA;bVOWEL SIGN AA;dI;dII;dU;dUU;dVOCALIC R;eRR"),
  (0xC46, "aTELUGU VOWEL SIGN E;dEE;dAI"),
  (0xC4A, "aTELUGU VOWEL SIGN O;dOO;dAU;bSIGN VIRAMA"),
  (0xC55, "aTELUGU LENGTH MARK;bAI LENGTH MARK"),
  (0xC58, "aTELUGU LETTER TSA;cDZA;cRRRA"),
  (0xC5D, "aTELUGU LETTER NAKAARA POLLU"),
  (0xC60, "aTELUGU LETTER VOCALIC RR;dLL;bVOWEL SIGN VOCALIC L;eLL"),
  (0xC66, "aTELUGU DIGIT ZERO;cONE;cTWO;cTHREE;cFOUR;cFIVE;cSIX;cSEVEN;cEIGHT;cNINE"),
  (0xC77, "aTELUGU SIGN SIDDHAM;bFRACTION DIGIT ZERO FOR ODD POWERS OF FOUR"),
  (0xC79, "aTELUGU FRACTION DIGIT ONE FOR ODD POWERS OF FOUR;dTWO FOR ODD POWERS OF FOUR"),
  (0xC7B, "aTELUGU FRACTION DIGIT THREE FOR ODD POWERS OF FOUR;dONE FOR EVEN POWERS OF FOUR"),
  (0xC7D, "aTELUGU FRACTION DIGIT TWO FOR EVEN POWERS OF FOUR;dTHREE FOR EVEN POWERS OF FOUR"),
  (0xC7F, "aTELUGU SIGN TUUMU;aKANNADA SIGN SPACING CANDRABINDU;cCANDRABINDU;cANUSVARA;cVISARGA"),
  (0xC84, "aKANNADA SIGN SIDDHAM;bLETTER A;cAA;cI;cII;cU;cUU;cVOCALIC R;dL"),
  (0xC8E, "aKANNADA LETTER E;cEE;cAI"),
  (0xC92, "aKANNADA LETTER O;cOO;cAU;cKA;cKHA;cGA;cGHA;cNGA;cCA;cCHA;cJA;cJHA;cNYA;cTTA;cTTHA"),
  (0xCA1, "aKANNADA LETTER DDA;cDDHA;cNNA;cTA;cTHA;cDA;cDHA;cNA"),
  (0xCAA, "aKANNADA LETTER PA;cPHA;cBA;cBHA;cMA;cYA;cRA;cRRA;cLA;cLLA"),
  (0xCB5, "aKANNADA LETTER VA;cSHA;cSSA;cSA;cHA"),
  (0xCBC, "aKANNADA SIGN NUKTA;cAVAGRAHA;bVOWEL SIGN AA;dI;dII;dU;dUU;dVOCALIC R;eRR"),
  (0xCC6, "aKANNADA VOWEL SIGN E;dEE;dAI"),
  (0xCCA, "aKANNADA VOWEL SIGN O;dOO;dAU;bSIGN VIRAMA"),
  (0xCD5, "aKANNADA LENGTH MARK;bAI LENGTH MARK"),
  (0xCDD, "aKANNADA LETTER NAKAARA POLLU;cFA"),
  (0xCE0, "aKANNADA LETTER VOCALIC RR;dLL;bVOWEL SIGN VOCALIC L;eLL"),
  (0xCE6, "aKANNADA DIGIT ZERO;cONE;cTWO;cTHREE;cFOUR;cFIVE;cSIX;cSEVEN;cEIGHT;cNINE"),
  (0xCF1, "aKANNADA SIGN JIHVAMULIYA;cUPADHMANIYA"),
  (0xD00, "aMALAYALAM SIGN COMBINING ANUSVARA ABOVE;cCANDRABINDU;cANUSVARA;cVISARGA"),
  (0xD04, "aMALAYALAM LETTER VEDIC ANUSVARA;cA;cAA;cI;cII;cU;cUU;cVOCALIC R;dL"),
  (0xD0E, "aMALAYALAM LETTER E;cEE;cAI"),
  (0xD12, "aMALAYALAM LETTER O;cOO;cAU;cKA;cKHA;cGA;cGHA;cNGA;cCA;cCHA;cJA;cJHA;cNYA;cTTA;cTTHA"),
  (0xD21, "aMALAYALAM LETTER DDA;cDDHA;cNNA;cTA;cTHA;cDA;cDHA;cNA;cNNNA;cPA;cPHA;cBA;cBHA;cMA;cYA"),
  (0xD30, "aMALAYALAM LETTER RA;cRRA;cLA;cLLA;cLLLA;cVA;cSHA;cSSA;cSA;cHA;cTTTA"),
  (0xD3B, "aMALAYALAM SIGN VERTICAL BAR VIRAMA;cCIRCULAR VIRAMA;cAVAGRAHA;bVOWEL SIGN AA;dI;dII"),
  (0xD41, "aMALAYALAM VOWEL SIGN U;dUU;dVOCALIC R;eRR"),
  (0xD46, "aMALAYALAM VOWEL SIGN E;dEE;dAI"),
  (0xD4A, "aMALAYALAM VOWEL SIGN O;dOO;dAU;bSIGN VIRAMA;bLETTER DOT REPH;bSIGN PARA"),
  (0xD54, "aMALAYALAM LETTER CHILLU M;dY;dLLL;bAU LENGTH MARK"),
  (0xD58, "aMALAYALAM FRACTION ONE ONE-HUNDRED-AND-SIXTIETH;dFORTIETH;cTHREE EIGHTIETHS"),
  (0xD5B, "aMALAYALAM FRACTION ONE TWENTIETH;dTENTH;cTHREE TWENTIETHS;cONE FIFTH"),
  (0xD5F, "aMALAYALAM LETTER ARCHAIC II;cVOCALIC RR;dLL;bVOWEL SIGN VOCALIC L;eLL"),
  (0xD66, "aMALAYALAM DIGIT ZERO;cONE;cTWO;cTHREE;cFOUR;cFIVE;cSIX;cSEVEN;cEIGHT;cNINE"),
  (0xD70, "aMALAYALAM NUMBER TEN;cONE HUNDRED;dTHOUSAND;bFRACTION ONE QUARTER;dHALF"),
  (0xD75, "aMALAYALAM FRACTION THREE QUARTERS;cONE SIXTEENTH;dEIGHTH;cTHREE SIXTEENTHS;bDATE MARK"),
  (0xD7A, "aMALAYALAM LETTER CHILLU NN;dN;dRR;dL;dLL;dK"),
  (0xD81, "aSINHALA SIGN CANDRABINDU;cANUSVARAYA;cVISARGAYA"),
  (0xD85, "aSINHALA LETTER AYANNA;cAAYANNA;cAEYANNA;cAEEYANNA;cIYANNA;cIIYANNA;cUYANNA;cUUYANNA"),
  (0xD8D, "aSINHALA LETTER IRUYANNA;cIRUUYANNA;cILUYANNA;cILUUYANNA;cEYANNA;cEEYANNA;cAIYANNA"),
  (0xD94, "aSINHALA LETTER OYANNA;cOOYANNA;cAUYANNA"),
  (0xD9A, "aSINHALA LETTER ALPAPRAANA KAYANNA;cMAHAAPRAANA KAYANNA;cALPAPRAANA GAYANNA"),
  (0xD9D, "aSINHALA LETTER MAHAAPRAANA GAYANNA;cKANTAJA NAASIKYAYA;cSANYAKA GAYANNA"),
  (0xDA0, "aSINHALA LETTER ALPAPRAANA CAYANNA;cMAHAAPRAANA CAYANNA;cALPAPRAANA JAYANNA"),
  (0xDA3, "aSINHALA LETTER MAHAAPRAANA JAYANNA;cTAALUJA NAASIKYAYA;dSANYOOGA NAAKSIKYAYA"),
  (0xDA6, "aSINHALA LETTER SANYAKA JAYANNA;cALPAPRAANA TTAYANNA;cMAHAAPRAANA TTAYANNA"),
  (0xDA9, "aSINHALA LETTER ALPAPRAANA DDAYANNA;cMAHAAPRAANA DDAYANNA;cMUURDHAJA NAYANNA"),
  (0xDAC, "aSINHALA LETTER SANYAKA DDAYANNA;cALPAPRAANA TAYANNA;cMAHAAPRAANA TAYANNA"),
  (0xDAF, "aSINHALA LETTER ALPAPRAANA DAYANNA;cMAHAAPRAANA DAYANNA;cDANTAJA NAYANNA"),
  (0xDB3, "aSINHALA LETTER SANYAKA DAYANNA;cALPAPRAANA PAYANNA;cMAHAAPRAANA PAYANNA"),
  (0xDB6, "aSINHALA LETTER ALPAPRAANA BAYANNA;cMAHAAPRAANA BAYANNA;cMAYANNA;cAMBA BAYANNA"),
  (0xDBA, "aSINHALA LETTER YAYANNA;cRAYANNA"),
  (0xDBD, "aSINHALA LETTER DANTAJA LAYANNA"),
  (0xDC0, "aSINHALA LETTER VAYANNA;cTAALUJA SAYANNA;cMUURDHAJA SAYANNA;cDANTAJA SAYANNA;cHAYANNA"),
  (0xDC5, "aSINHALA LETTER MUURDHAJA LAYANNA;cFAYANNA"),
  (0xDCA, "aSINHALA SIGN AL-LAKUNA"),
  (0xDCF, "aSINHALA VOWEL SIGN AELA-PILLA;dKETTI AEDA-PILLA;dDIGA AEDA-PILLA;dKETTI IS-PILLA"),
  (0xDD3, "aSINHALA VOWEL SIGN DIGA IS-PILLA;dKETTI PAA-PILLA"),
  (0xDD6, "aSINHALA VOWEL SIGN DIGA PAA-PILLA"),
  (0xDD8, "aSINHALA VOWEL SIGN GAETTA-PILLA;dKOMBUVA;dDIGA KOMBUVA;dKOMBU DEKA"),
  (0xDDC, "aSINHALA VOWEL SIGN KOMBUVA HAA AELA-PILLA;fDIGA AELA-PILLA;fGAYANUKITTA;dGAYANUKITTA"),
  (0xDE6, "aSINHALA LITH DIGIT ZERO;dONE;dTWO;dTHREE;dFOUR;dFIVE;dSIX;dSEVEN;dEIGHT;dNINE"),
  (0xDF2, "aSINHALA VOWEL SIGN DIGA GAETTA-PILLA;eGAYANUKITTA;bPUNCTUATION KUNDDALIYA"),
  (0xE01, "aTHAI CHARACTER KO KAI;cKHO KHAI;dKHUAT;dKHWAI;dKHON;dRAKHANG;cNGO NGU;cCHO CHAN"),
  (0xE09, "aTHAI CHARACTER CHO CHING;dCHANG;cSO SO;cCHO CHOE;cYO YING;cDO CHADA;cTO PATAK"),
  (0xE10, "aTHAI CHARACTER THO THAN;dNANGMONTHO;dPHUTHAO;cNO NEN;cDO DEK;cTO TAO;cTHO THUNG"),
  (0xE17, "aTHAI CHARACTER THO THAHAN;dTHONG;cNO NU;cBO BAIMAI;cPO PLA;cPHO PHUNG;cFO FA"),
  (0xE1E, "aTHAI CHARACTER PHO PHAN;cFO FAN;cPHO SAMPHAO;cMO MA;cYO YAK;cRO RUA;cRU;cLO LING;cLU"),
  (0xE27, "aTHAI CHARACTER WO WAEN;cSO SALA;dRUSI;dSUA;cHO HIP;cLO CHULA;cO ANG;cHO NOKHUK"),
  (0xE2F, "aTHAI CHARACTER PAIYANNOI;cSARA A;cMAI HAN-AKAT;cSARA AA;dAM;dI;dII;dUE;dUEE;dU;dUU"),
  (0xE3A, "aTHAI CHARACTER PHINTHU"),
  (0xE3F, "aTHAI CURRENCY SYMBOL BAHT;bCHARACTER SARA E;dAE;dO;dAI MAIMUAN;eMAIMALAI;cLAKKHANGYAO"),
  (0xE46, "aTHAI CHARACTER MAIYAMOK;cMAITAIKHU;cMAI EK;dTHO;dTRI;dCHATTAWA;cTHANTHAKHAT;cNIKHAHIT"),
  (0xE4E, "aTHAI CHARACTER YAMAKKAN;cFONGMAN;bDIGIT ZERO;cONE;cTWO;cTHREE;cFOUR;cFIVE;cSIX;cSEVEN"),
  (0xE58, "aTHAI DIGIT EIGHT;cNINE;bCHARACTER ANGKHANKHU;cKHOMUT"),
  (0xE81, "aLAO LETTER KO;cKHO SUNG"),
  (0xE84, "aLAO LETTER KHO TAM"),
  (0xE86, "aLAO LETTER PALI GHA;cNGO;cCO;cPALI CHA;cSO TAM"),
  (0xE8C, "aLAO LETTER PALI JHA;cNYO;cPALI NYA;dTTA;dTTHA;dDDA;dDDHA;dNNA;cDO;cTO;cTHO SUNG;dTAM"),
  (0xE98, "aLAO LETTER PALI DHA;cNO;cBO;cPO;cPHO SUNG;cFO TAM;cPHO TAM;cFO SUNG;cPALI BHA;cMO;cYO"),
  (0xEA3, "aLAO LETTER LO LING"),
  (0xEA5, "aLAO LETTER LO LOOT"),
  (0xEA7, "aLAO LETTER WO;cSANSKRIT SHA;dSSA;cSO SUNG;cHO SUNG;cPALI LLA;cO;cHO TAM;bELLIPSIS"),
  (0xEB0, "aLAO VOWEL SIGN A;dMAI KAN;dAA;dAM;dI;dII;dY;dYY;dU;dUU;bSIGN PALI VIRAMA"),
  (0xEBB, "aLAO VOWEL SIGN MAI KON;bSEMIVOWEL SIGN LO;dNYO"),
  (0xEC0, "aLAO VOWEL SIGN E;dEI;dO;dAY;dAI"),
  (0xEC6, "aLAO KO LA"),
  (0xEC8, "aLAO TONE MAI EK;dTHO;dTI;dCATAWA;bCANCELLATION MARK;bNIGGAHITA"),
  (0xED0, "aLAO DIGIT ZERO;cONE;cTWO;cTHREE;cFOUR;cFIVE;cSIX;cSEVEN;cEIGHT;cNINE"),
  (0xEDC, "aLAO HO NO;cMO;bLETTER KHMU GO;dNYO"),
  (0xF00, "aTIBETAN SYLLABLE OM;bMARK GTER YIG MGO TRUNCATED A;f-UM RNAM BCAD MA;gGTER TSHEG MA"),
  (0xF04, "aTIBETAN MARK INITIAL YIG MGO MDUN MA;cCLOSING YIG MGO SGAB MA"),
  (0xF06, "aTIBETAN MARK CARET YIG MGO PHUR SHAD MA;cYIG MGO TSHEG SHAD MA;cSBRUL SHAD"),
  (0xF09, "aTIBETAN MARK BSKUR YIG MGO;cBKA- SHOG YIG MGO;cINTERSYLLABIC TSHEG"),
  (0xF0C, "aTIBETAN MARK DELIMITER TSHEG BSTAR;cSHAD;cNYIS SHAD;cTSHEG SHAD;cNYIS TSHEG SHAD"),
  (0xF11, "aTIBETAN MARK RIN CHEN SPUNGS SHAD;cRGYA GRAM SHAD;cCARET -DZUD RTAGS ME LONG CAN"),
  (0xF14, "aTIBETAN MARK GTER TSHEG;bLOGOTYPE SIGN CHAD RTAGS;dLHAG RTAGS"),
  (0xF17, "aTIBETAN ASTROLOGICAL SIGN SGRA GCAN -CHAR RTAGS;d-KHYUD PA;dSDONG TSHUGS"),
  (0xF1A, "aTIBETAN SIGN RDEL DKAR GCIG;eGNYIS;eGSUM;dNAG GCIG;eGNYIS;dDKAR RDEL NAG;bDIGIT ZERO"),
  (0xF21, "aTIBETAN DIGIT ONE;cTWO;cTHREE;cFOUR;cFIVE;cSIX;cSEVEN;cEIGHT;cNINE;cHALF ONE;dTWO"),
  (0xF2C, "aTIBETAN DIGIT HALF THREE;dFOUR;dFIVE;dSIX;dSEVEN;dEIGHT;dNINE;dZERO;bMARK BSDUS RTAGS"),
  (0xF35, "aTIBETAN MARK NGAS BZUNG NYI ZLA;cCARET -DZUD RTAGS BZHI MIG CAN"),
  (0xF37, "aTIBETAN MARK NGAS BZUNG SGOR RTAGS;cCHE MGO;cTSA -PHRU;cGUG RTAGS GYON;eGYAS"),
  (0xF3C, "aTIBETAN MARK ANG KHANG GYON;eGYAS;bSIGN YAR TSHES;cMAR TSHES;bLETTER KA;cKHA;cGA;cGHA"),
  (0xF44, "aTIBETAN LETTER NGA;cCA;cCHA;cJA"),
  (0xF49, "aTIBETAN LETTER NYA;cTTA;cTTHA;cDDA;cDDHA;cNNA;cTA;cTHA;cDA;cDHA;cNA;cPA;cPHA;cBA;cBHA"),
  (0xF58, "aTIBETAN LETTER MA;cTSA;cTSHA;cDZA;cDZHA;cWA;cZHA;cZA;c-A;cYA;cRA;cLA;cSHA;cSSA;cSA"),
  (0xF67, "aTIBETAN LETTER HA;cA;cKSSA;cFIXED-FORM RA;cKKA;cRRA"),
  (0xF71, "aTIBETAN VOWEL SIGN AA;dI;dII;dU;dUU;dVOCALIC R;eRR;eL;eLL;dE;dEE;dO;dOO"),
  (0xF7E, "aTIBETAN SIGN RJES SU NGA RO;cRNAM BCAD;bVOWEL SIGN REVERSED I;eII"),
  (0xF82, "aTIBETAN SIGN NYI ZLA NAA DA;cSNA LDAN;bMARK HALANTA;cPALUTA;bSIGN LCI RTAGS"),
  (0xF87, "aTIBETAN SIGN YANG RTAGS;cLCE TSA CAN;cMCHU CAN;cGRU CAN RGYINGS;dMED RGYINGS"),
  (0xF8C, "aTIBETAN SIGN INVERTED MCHU CAN;bSUBJOINED SIGN LCE TSA CAN;dMCHU CAN"),
  (0xF8F, "aTIBETAN SUBJOINED SIGN INVERTED MCHU CAN;cLETTER KA;dKHA;dGA;dGHA;dNGA;dCA;dCHA;dJA"),
  (0xF99, "aTIBETAN SUBJOINED LETTER NYA;dTTA;dTTHA;dDDA;dDDHA;dNNA;dTA;dTHA;dDA;dDHA;dNA;dPA"),
  (0xFA5, "aTIBETAN SUBJOINED LETTER PHA;dBA;dBHA;dMA;dTSA;dTSHA;dDZA;dDZHA;dWA;dZHA;dZA;d-A;dYA"),
  (0xFB2, "aTIBETAN SUBJOINED LETTER RA;dLA;dSHA;dSSA;dSA;dHA;dA;dKSSA;dFIXED-FORM WA;eYA;eRA"),
  (0xFBE, "aTIBETAN KU RU KHA;eBZHI MIG CAN;bCANTILLATION SIGN HEAVY BEAT;dLIGHT BEAT;dCANG TE-U"),
  (0xFC3, "aTIBETAN CANTILLATION SIGN SBUB -CHAL;bSYMBOL DRIL BU;cRDO RJE;cPADMA GDAN"),
  (0xFC7, "aTIBETAN SYMBOL RDO RJE RGYA GRAM;cPHUR PA;cNOR BU;eNYIS -KHYIL;eGSUM -KHYIL"),
  (0xFCC, "aTIBETAN SYMBOL NOR BU BZHI -KHYIL"),
  (0xFCE, "aTIBETAN SIGN RDEL NAG RDEL DKAR;eGSUM;bMARK BSKA- SHOG GI MGO RGYAN"),
  (0xFD1, "aTIBETAN MARK MNYAM YIG GI MGO RGYAN;cNYIS TSHEG;cINITIAL BRDA RNYING YIG MGO MDUN MA"),
  (0xFD4, "aTIBETAN MARK CLOSING BRDA RNYING YIG MGO SGAB MA;aRIGHT-FACING SVASTI SIGN"),
  (0xFD6, "aLEFT-FACING SVASTI SIGN;aRIGHT-FACING SVASTI SIGN WITH DOTS"),
  (0xFD8, "aLEFT-FACING SVASTI SIGN WITH DOTS;aTIBETAN MARK LEADING MCHAN RTAGS"),
  (0xFDA, "aTIBETAN MARK TRAILING MCHAN RTAGS"),
  (0x1000, "aMYANMAR LETTER KA;cKHA;cGA;cGHA;cNGA;cCA;cCHA;cJA;cJHA;cNYA;cNNYA;cTTA;cTTHA;cDDA"),
  (0x100E, "aMYANMAR LETTER DDHA;cNNA;cTA;cTHA;cDA;cDHA;cNA;cPA;cPHA;cBA;cBHA;cMA;cYA;cRA;cLA;cWA"),
  (0x101E, "aMYANMAR LETTER SA;cHA;cLLA;cA;cSHAN A;cI;cII;cU;cUU;cE;cMON E;cO;cAU"),
  (0x102B, "aMYANMAR VOWEL SIGN TALL AA;dAA;dI;dII;dU;dUU;dE;dAI;dMON II;eO;dE ABOVE"),
  (0x1036, "aMYANMAR SIGN ANUSVARA;cDOT BELOW;cVISARGA;cVIRAMA;cASAT;bCONSONANT SIGN MEDIAL YA"),
  (0x103C, "aMYANMAR CONSONANT SIGN MEDIAL RA;eWA;eHA;bLETTER GREAT SA;bDIGIT ZERO;cONE;cTWO"),
  (0x1043, "aMYANMAR DIGIT THREE;cFOUR;cFIVE;cSIX;cSEVEN;cEIGHT;cNINE;bSIGN LITTLE SECTION"),
  (0x104B, "aMYANMAR SIGN SECTION;bSYMBOL LOCATIVE;cCOMPLETED;cAFOREMENTIONED;cGENITIVE"),
  (0x1050, "aMYANMAR LETTER SHA;cSSA;cVOCALIC R;dRR;dL;dLL;bVOWEL SIGN VOCALIC R;eRR;eL;eLL"),
  (0x105A, "aMYANMAR LETTER MON NGA;dJHA;dBBA;dBBE;bCONSONANT SIGN MON MEDIAL NA;fMA;fLA"),
  (0x1061, "aMYANMAR LETTER SGAW KAREN SHA;bVOWEL SIGN SGAW KAREN EU;bTONE MARK SGAW KAREN HATHI"),
  (0x1064, "aMYANMAR TONE MARK SGAW KAREN KE PHO;bLETTER WESTERN PWO KAREN THA;fPWA"),
  (0x1067, "aMYANMAR VOWEL SIGN WESTERN PWO KAREN EU;gUE;bSIGN WESTERN PWO KAREN TONE-1;fTONE-2"),
  (0x106B, "aMYANMAR SIGN WESTERN PWO KAREN TONE-3;fTONE-4;fTONE-5;bLETTER EASTERN PWO KAREN NNA"),
  (0x106F, "aMYANMAR LETTER EASTERN PWO KAREN YWA;fGHWA;bVOWEL SIGN GEBA KAREN I;dKAYAH OE;eU;eEE"),
  (0x1075, "aMYANMAR LETTER SHAN KA;dKHA;dGA;dCA;dZA;dNYA;dDA;dNA;dPHA;dFA;dBA;dTHA;dHA"),
  (0x1082, "aMYANMAR CONSONANT SIGN SHAN MEDIAL WA;bVOWEL SIGN SHAN AA;eE;fABOVE;eFINAL Y"),
  (0x1087, "aMYANMAR SIGN SHAN TONE-2;dTONE-3;dTONE-5;dTONE-6;dCOUNCIL TONE-2;eTONE-3"),
  (0x108D, "aMYANMAR SIGN SHAN COUNCIL EMPHATIC TONE;bLETTER RUMAI PALAUNG FA"),
  (0x108F, "aMYANMAR SIGN RUMAI PALAUNG TONE-5;bSHAN DIGIT ZERO;dONE;dTWO;dTHREE;dFOUR;dFIVE;dSIX"),
  (0x1097, "aMYANMAR SHAN DIGIT SEVEN;dEIGHT;dNINE;bSIGN KHAMTI TONE-1;dTONE-3"),
  (0x109C, "aMYANMAR VOWEL SIGN AITON A;eAI;bSYMBOL SHAN ONE;dEXCLAMATION"),
  (0x10A0, "aGEORGIAN CAPITAL LETTER AN;dBAN;dGAN;dDON;dEN;dVIN;dZEN;dTAN;dIN;dKAN;dLAS;dMAN;dNAR"),
  (0x10AD, "aGEORGIAN CAPITAL LETTER ON;dPAR;dZHAR;dRAE;dSAN;dTAR;dUN;dPHAR;dKHAR;dGHAN;dQAR"),
  (0x10B8, "aGEORGIAN CAPITAL LETTER SHIN;dCHIN;dCAN;dJIL;dCIL;dCHAR;dXAN;dJHAN;dHAE;dHE;dHIE;dWE"),
  (0x10C4, "aGEORGIAN CAPITAL LETTER HAR;dHOE"),
  (0x10C7, "aGEORGIAN CAPITAL LETTER YN"),
  (0x10CD, "aGEORGIAN CAPITAL LETTER AEN"),
  (0x10D0, "aGEORGIAN LETTER AN;cBAN;cGAN;cDON;cEN;cVIN;cZEN;cTAN;cIN;cKAN;cLAS;cMAN;cNAR;cON"),
  (0x10DE, "aGEORGIAN LETTER PAR;cZHAR;cRAE;cSAN;cTAR;cUN;cPHAR;cKHAR;cGHAN;cQAR;cSHIN;cCHIN;cCAN"),
  (0x10EB, "aGEORGIAN LETTER JIL;cCIL;cCHAR;cXAN;cJHAN;cHAE;cHE;cHIE;cWE;cHAR;cHOE;cFI;cYN;cELIFI"),
  (0x10F9, "aGEORGIAN LETTER TURNED GAN;cAIN;bPARAGRAPH SEPARATOR;aMODIFIER LETTER GEORGIAN NAR"),
  (0x10FD, "aGEORGIAN LETTER AEN;cHARD SIGN;cLABIAL SIGN;aHANGUL CHOSEONG KIYEOK;cSSANGKIYEOK"),
  (0x1102, "aHANGUL CHOSEONG NIEUN;cTIKEUT;cSSANGTIKEUT;cRIEUL;cMIEUM;cPIEUP;cSSANGPIEUP;cSIOS"),
  (0x110A, "aHANGUL CHOSEONG SSANGSIOS;cIEUNG;cCIEUC;cSSANGCIEUC;cCHIEUCH;cKHIEUKH;cTHIEUTH"),
  (0x1111, "aHANGUL CHOSEONG PHIEUPH;cHIEUH;cNIEUN-KIYEOK;cSSANGNIEUN;cNIEUN-TIKEUT;cNIEUN-PIEUP"),
  (0x1117, "aHANGUL CHOSEONG TIKEUT-KIYEOK;cRIEUL-NIEUN;cSSANGRIEUL;cRIEUL-HIEUH;cKAPYEOUNRIEUL"),
  (0x111C, "aHANGUL CHOSEONG MIEUM-PIEUP;cKAPYEOUNMIEUM;cPIEUP-KIYEOK;cPIEUP-NIEUN;cPIEUP-TIKEUT"),
  (0x1121, "aHANGUL CHOSEONG PIEUP-SIOS;cPIEUP-SIOS-KIYEOK;cPIEUP-SIOS-TIKEUT;cPIEUP-SIOS-PIEUP"),
  (0x1125, "aHANGUL CHOSEONG PIEUP-SSANGSIOS;cPIEUP-SIOS-CIEUC;cPIEUP-CIEUC;cPIEUP-CHIEUCH"),
  (0x1129, "aHANGUL CHOSEONG PIEUP-THIEUTH;cPIEUP-PHIEUPH;cKAPYEOUNPIEUP;cKAPYEOUNSSANGPIEUP"),
  (0x112D, "aHANGUL CHOSEONG SIOS-KIYEOK;cSIOS-NIEUN;cSIOS-TIKEUT;cSIOS-RIEUL;cSIOS-MIEUM"),
  (0x1132, "aHANGUL CHOSEONG SIOS-PIEUP;cSIOS-PIEUP-KIYEOK;cSIOS-SSANGSIOS;cSIOS-IEUNG"),
  (0x1136, "aHANGUL CHOSEONG SIOS-CIEUC;cSIOS-CHIEUCH;cSIOS-KHIEUKH;cSIOS-THIEUTH;cSIOS-PHIEUPH"),
  (0x113B, "aHANGUL CHOSEONG SIOS-HIEUH;cCHITUEUMSIOS;cCHITUEUMSSANGSIOS;cCEONGCHIEUMSIOS"),
  (0x113F, "aHANGUL CHOSEONG CEONGCHIEUMSSANGSIOS;cPANSIOS;cIEUNG-KIYEOK;cIEUNG-TIKEUT"),
  (0x1143, "aHANGUL CHOSEONG IEUNG-MIEUM;cIEUNG-PIEUP;cIEUNG-SIOS;cIEUNG-PANSIOS;cSSANGIEUNG"),
  (0x1148, "aHANGUL CHOSEONG IEUNG-CIEUC;cIEUNG-CHIEUCH;cIEUNG-THIEUTH;cIEUNG-PHIEUPH;cYESIEUNG"),
  (0x114D, "aHANGUL CHOSEONG CIEUC-IEUNG;cCHITUEUMCIEUC;cCHITUEUMSSANGCIEUC;cCEONGCHIEUMCIEUC"),
  (0x1151, "aHANGUL CHOSEONG CEONGCHIEUMSSANGCIEUC;cCHIEUCH-KHIEUKH;cCHIEUCH-HIEUH"),
  (0x1154, "aHANGUL CHOSEONG CHITUEUMCHIEUCH;cCEONGCHIEUMCHIEUCH;cPHIEUPH-PIEUP;cKAPYEOUNPHIEUPH"),
  (0x1158, "aHANGUL CHOSEONG SSANGHIEUH;cYEORINHIEUH;cKIYEOK-TIKEUT;cNIEUN-SIOS;cNIEUN-CIEUC"),
  (0x115D, "aHANGUL CHOSEONG NIEUN-HIEUH;cTIKEUT-RIEUL;cFILLER;bJUNGSEONG FILLER;cA;cAE;cYA;cYAE"),
  (0x1165, "aHANGUL JUNGSEONG EO;cE;cYEO;cYE;cO;cWA;cWAE;cOE;cYO;cU;cWEO;cWE;cWI;cYU;cEU;cYI;cI"),
  (0x1176, "aHANGUL JUNGSEONG A-O;cA-U;cYA-O;cYA-YO;cEO-O;cEO-U;cEO-EU;cYEO-O;cYEO-U;cO-EO;cO-E")]

/-- The lines of names from U+1181 on. -/
def namesFrom1181 : List (Nat × String) := [
  (0x1181, "aHANGUL JUNGSEONG O-YE;cO-O;cO-U;cYO-YA;cYO-YAE;cYO-YEO;cYO-O;cYO-I;cU-A;cU-AE"),
  (0x118B, "aHANGUL JUNGSEONG U-EO-EU;cU-YE;cU-U;cYU-A;cYU-EO;cYU-E;cYU-YEO;cYU-YE;cYU-U;cYU-I"),
  (0x1195, "aHANGUL JUNGSEONG EU-U;cEU-EU;cYI-U;cI-A;cI-YA;cI-O;cI-U;cI-EU;cI-ARAEA;cARAEA"),
  (0x119F, "aHANGUL JUNGSEONG ARAEA-EO;cARAEA-U;cARAEA-I;cSSANGARAEA;cA-EU;cYA-U;cYEO-YA;cO-YA"),
  (0x11A7, "aHANGUL JUNGSEONG O-YAE;bJONGSEONG KIYEOK;cSSANGKIYEOK;cKIYEOK-SIOS;cNIEUN"),
  (0x11AC, "aHANGUL JONGSEONG NIEUN-CIEUC;cNIEUN-HIEUH;cTIKEUT;cRIEUL;cRIEUL-KIYEOK;cRIEUL-MIEUM"),
  (0x11B2, "aHANGUL JONGSEONG RIEUL-PIEUP;cRIEUL-SIOS;cRIEUL-THIEUTH;cRIEUL-PHIEUPH;cRIEUL-HIEUH"),
  (0x11B7, "aHANGUL JONGSEONG MIEUM;cPIEUP;cPIEUP-SIOS;cSIOS;cSSANGSIOS;cIEUNG;cCIEUC;cCHIEUCH"),
  (0x11BF, "aHANGUL JONGSEONG KHIEUKH;cTHIEUTH;cPHIEUPH;cHIEUH;cKIYEOK-RIEUL;cKIYEOK-SIOS-KIYEOK"),
  (0x11C5, "aHANGUL JONGSEONG NIEUN-KIYEOK;cNIEUN-TIKEUT;cNIEUN-SIOS;cNIEUN-PANSIOS"),
  (0x11C9, "aHANGUL JONGSEONG NIEUN-THIEUTH;cTIKEUT-KIYEOK;cTIKEUT-RIEUL;cRIEUL-KIYEOK-SIOS"),
  (0x11CD, "aHANGUL JONGSEONG RIEUL-NIEUN;cRIEUL-TIKEUT;cRIEUL-TIKEUT-HIEUH;cSSANGRIEUL"),
  (0x11D1, "aHANGUL JONGSEONG RIEUL-MIEUM-KIYEOK;cRIEUL-MIEUM-SIOS;cRIEUL-PIEUP-SIOS"),
  (0x11D4, "aHANGUL JONGSEONG RIEUL-PIEUP-HIEUH;cRIEUL-KAPYEOUNPIEUP;cRIEUL-SSANGSIOS"),
  (0x11D7, "aHANGUL JONGSEONG RIEUL-PANSIOS;cRIEUL-KHIEUKH;cRIEUL-YEORINHIEUH;cMIEUM-KIYEOK"),
  (0x11DB, "aHANGUL JONGSEONG MIEUM-RIEUL;cMIEUM-PIEUP;cMIEUM-SIOS;cMIEUM-SSANGSIOS"),
  (0x11DF, "aHANGUL JONGSEONG MIEUM-PANSIOS;cMIEUM-CHIEUCH;cMIEUM-HIEUH;cKAPYEOUNMIEUM"),
  (0x11E3, "aHANGUL JONGSEONG PIEUP-RIEUL;cPIEUP-PHIEUPH;cPIEUP-HIEUH;cKAPYEOUNPIEUP;cSIOS-KIYEOK"),
  (0x11E8, "aHANGUL JONGSEONG SIOS-TIKEUT;cSIOS-RIEUL;cSIOS-PIEUP;cPANSIOS;cIEUNG-KIYEOK"),
  (0x11ED, "aHANGUL JONGSEONG IEUNG-SSANGKIYEOK;cSSANGIEUNG;cIEUNG-KHIEUKH;cYESIEUNG"),
  (0x11F1, "aHANGUL JONGSEONG YESIEUNG-SIOS;cYESIEUNG-PANSIOS;cPHIEUPH-PIEUP;cKAPYEOUNPHIEUPH"),
  (0x11F5, "aHANGUL JONGSEONG HIEUH-NIEUN;cHIEUH-RIEUL;cHIEUH-MIEUM;cHIEUH-PIEUP;cYEORINHIEUH"),
  (0x11FA, "aHANGUL JONGSEONG KIYEOK-NIEUN;cKIYEOK-PIEUP;cKIYEOK-CHIEUCH;cKIYEOK-KHIEUKH"),
  (0x11FE, "aHANGUL JONGSEONG KIYEOK-HIEUH;cSSANGNIEUN;aETHIOPIC SYLLABLE HA;cHU;cHI;cHAA;cHEE"),
  (0x1205, "aETHIOPIC SYLLABLE HE;cHO;cHOA;cLA;cLU;cLI;cLAA;cLEE;cLE;cLO;cLWA;cHHA;cHHU;cHHI"),
  (0x1213, "aETHIOPIC SYLLABLE HHAA;cHHEE;cHHE;cHHO;cHHWA;cMA;cMU;cMI;cMAA;cMEE;cME;cMO;cMWA;cSZA"),
  (0x1221, "aETHIOPIC SYLLABLE SZU;cSZI;cSZAA;cSZEE;cSZE;cSZO;cSZWA;cRA;cRU;cRI;cRAA;cREE;cRE;cRO"),
  (0x122F, "aETHIOPIC SYLLABLE RWA;cSA;cSU;cSI;cSAA;cSEE;cSE;cSO;cSWA;cSHA;cSHU;cSHI;cSHAA;cSHEE"),
  (0x123D, "aETHIOPIC SYLLABLE SHE;cSHO;cSHWA;cQA;cQU;cQI;cQAA;cQEE;cQE;cQO;cQOA;cQWA"),
  (0x124A, "aETHIOPIC SYLLABLE QWI;cQWAA;cQWEE;cQWE"),
  (0x1250, "aETHIOPIC SYLLABLE QHA;cQHU;cQHI;cQHAA;cQHEE;cQHE;cQHO"),
  (0x1258, "aETHIOPIC SYLLABLE QHWA"),
  (0x125A, "aETHIOPIC SYLLABLE QHWI;cQHWAA;cQHWEE;cQHWE"),
  (0x1260, "aETHIOPIC SYLLABLE BA;cBU;cBI;cBAA;cBEE;cBE;cBO;cBWA;cVA;cVU;cVI;cVAA;cVEE;cVE;cVO"),
  (0x126F, "aETHIOPIC SYLLABLE VWA;cTA;cTU;cTI;cTAA;cTEE;cTE;cTO;cTWA;cCA;cCU;cCI;cCAA;cCEE;cCE"),
  (0x127E, "aETHIOPIC SYLLABLE CO;cCWA;cXA;cXU;cXI;cXAA;cXEE;cXE;cXO;cXOA;cXWA"),
  (0x128A, "aETHIOPIC SYLLABLE XWI;cXWAA;cXWEE;cXWE"),
  (0x1290, "aETHIOPIC SYLLABLE NA;cNU;cNI;cNAA;cNEE;cNE;cNO;cNWA;cNYA;cNYU;cNYI;cNYAA;cNYEE;cNYE"),
  (0x129E, "aETHIOPIC SYLLABLE NYO;cNYWA;cGLOTTAL A;dU;dI;dAA;dEE;dE;dO;dWA;cKA;cKU;cKI;cKAA;cKEE"),
  (0x12AD, "aETHIOPIC SYLLABLE KE;cKO;cKOA;cKWA"),
  (0x12B2, "aETHIOPIC SYLLABLE KWI;cKWAA;cKWEE;cKWE"),
  (0x12B8, "aETHIOPIC SYLLABLE KXA;cKXU;cKXI;cKXAA;cKXEE;cKXE;cKXO"),
  (0x12C0, "aETHIOPIC SYLLABLE KXWA"),
  (0x12C2, "aETHIOPIC SYLLABLE KXWI;cKXWAA;cKXWEE;cKXWE"),
  (0x12C8, "aETHIOPIC SYLLABLE WA;cWU;cWI;cWAA;cWEE;cWE;cWO;cWOA;cPHARYNGEAL A;dU;dI;dAA;dEE;dE"),
  (0x12D6, "aETHIOPIC SYLLABLE PHARYNGEAL O"),
  (0x12D8, "aETHIOPIC SYLLABLE ZA;cZU;cZI;cZAA;cZEE;cZE;cZO;cZWA;cZHA;cZHU;cZHI;cZHAA;cZHEE;cZHE"),
  (0x12E6, "aETHIOPIC SYLLABLE ZHO;cZHWA;cYA;cYU;cYI;cYAA;cYEE;cYE;cYO;cYOA;cDA;cDU;cDI;cDAA;cDEE"),
  (0x12F5, "aETHIOPIC SYLLABLE DE;cDO;cDWA;cDDA;cDDU;cDDI;cDDAA;cDDEE;cDDE;cDDO;cDDWA;cJA;cJU;cJI"),
  (0x1303, "aETHIOPIC SYLLABLE JAA;cJEE;cJE;cJO;cJWA;cGA;cGU;cGI;cGAA;cGEE;cGE;cGO;cGOA;cGWA"),
  (0x1312, "aETHIOPIC SYLLABLE GWI;cGWAA;cGWEE;cGWE"),
  (0x1318, "aETHIOPIC SYLLABLE GGA;cGGU;cGGI;cGGAA;cGGEE;cGGE;cGGO;cGGWAA;cTHA;cTHU;cTHI;cTHAA"),
  (0x1324, "aETHIOPIC SYLLABLE THEE;cTHE;cTHO;cTHWA;cCHA;cCHU;cCHI;cCHAA;cCHEE;cCHE;cCHO;cCHWA"),
  (0x1330, "aETHIOPIC SYLLABLE PHA;cPHU;cPHI;cPHAA;cPHEE;cPHE;cPHO;cPHWA;cTSA;cTSU;cTSI;cTSAA"),
  (0x133C, "aETHIOPIC SYLLABLE TSEE;cTSE;cTSO;cTSWA;cTZA;cTZU;cTZI;cTZAA;cTZEE;cTZE;cTZO;cTZOA"),
  (0x1348, "aETHIOPIC SYLLABLE FA;cFU;cFI;cFAA;cFEE;cFE;cFO;cFWA;cPA;cPU;cPI;cPAA;cPEE;cPE;cPO"),
  (0x1357, "aETHIOPIC SYLLABLE PWA;cRYA;cMYA;cFYA"),
  (0x135D, "aETHIOPIC COMBINING GEMINATION AND VOWEL LENGTH MARK;cVOWEL LENGTH MARK"),
  (0x135F, "aETHIOPIC COMBINING GEMINATION MARK;bSECTION MARK;bWORDSPACE;bFULL STOP;bCOMMA"),
  (0x1364, "aETHIOPIC SEMICOLON;bCOLON;bPREFACE COLON;bQUESTION MARK;bPARAGRAPH SEPARATOR"),
  (0x1369, "aETHIOPIC DIGIT ONE;cTWO;cTHREE;cFOUR;cFIVE;cSIX;cSEVEN;cEIGHT;cNINE;bNUMBER TEN"),
  (0x1373, "aETHIOPIC NUMBER TWENTY;cTHIRTY;cFORTY;cFIFTY;cSIXTY;cSEVENTY;cEIGHTY;cNINETY"),
  (0x137B, "aETHIOPIC NUMBER HUNDRED;cTEN THOUSAND"),
  (0x1380, "aETHIOPIC SYLLABLE SEBATBEIT MWA;cMWI;cMWEE;cMWE;cSEBATBEIT BWA;cBWI;cBWEE;cBWE"),
  (0x1388, "aETHIOPIC SYLLABLE SEBATBEIT FWA;cFWI;cFWEE;cFWE;cSEBATBEIT PWA;cPWI;cPWEE;cPWE"),
  (0x1390, "aETHIOPIC TONAL MARK YIZET;dDERET;dRIKRIK;dSHORT RIKRIK;dDIFAT;dKENAT;dCHIRET;dHIDET"),
  (0x1398, "aETHIOPIC TONAL MARK DERET-HIDET;dKURT"),
  (0x13A0, "aCHEROKEE LETTER A;cE;cI;cO;cU;cV;cGA;cKA;cGE;cGI;cGO;cGU;cGV;cHA;cHE;cHI;cHO;cHU;cHV"),
  (0x13B3, "aCHEROKEE LETTER LA;cLE;cLI;cLO;cLU;cLV;cMA;cME;cMI;cMO;cMU;cNA;cHNA;cNAH;cNE;cNI;cNO"),
  (0x13C4, "aCHEROKEE LETTER NU;cNV;cQUA;cQUE;cQUI;cQUO;cQUU;cQUV;cSA;cS;cSE;cSI;cSO;cSU;cSV;cDA"),
  (0x13D4, "aCHEROKEE LETTER TA;cDE;cTE;cDI;cTI;cDO;cDU;cDV;cDLA;cTLA;cTLE;cTLI;cTLO;cTLU;cTLV"),
  (0x13E3, "aCHEROKEE LETTER TSA;cTSE;cTSI;cTSO;cTSU;cTSV;cWA;cWE;cWI;cWO;cWU;cWV;cYA;cYE;cYI;cYO"),
  (0x13F3, "aCHEROKEE LETTER YU;cYV;cMV"),
  (0x13F8, "aCHEROKEE SMALL LETTER YE;dYI;dYO;dYU;dYV;dMV"),
  (0x1400, "aCANADIAN SYLLABICS HYPHEN;cE;cAAI;cI;cII;cO;cOO;cY-CREE OO;cCARRIER EE;dI;cA;cAA;cWE"),
  (0x140D, "aCANADIAN SYLLABICS WEST-CREE WE;cWI;cWEST-CREE WI;cWII;cWEST-CREE WII;cWO"),
  (0x1413, "aCANADIAN SYLLABICS WEST-CREE WO;cWOO;cWEST-CREE WOO;cNASKAPI WOO;cWA;cWEST-CREE WA"),
  (0x1419, "aCANADIAN SYLLABICS WAA;cWEST-CREE WAA;cNASKAPI WAA;cAI;cY-CREE W;cGLOTTAL STOP"),
  (0x141F, "aCANADIAN SYLLABICS FINAL ACUTE;dGRAVE;dBOTTOM HALF RING;dTOP HALF RING"),
  (0x1423, "aCANADIAN SYLLABICS FINAL RIGHT HALF RING;dRING;dDOUBLE ACUTE;eSHORT VERTICAL STROKES"),
  (0x1427, "aCANADIAN SYLLABICS FINAL MIDDLE DOT;dSHORT HORIZONTAL STROKE;dPLUS;dDOWN TACK;cEN"),
  (0x142C, "aCANADIAN SYLLABICS IN;cON;cAN;cPE;cPAAI;cPI;cPII;cPO;cPOO;cY-CREE POO;cCARRIER HEE"),
  (0x1437, "aCANADIAN SYLLABICS CARRIER HI;cPA;cPAA;cPWE;cWEST-CREE PWE;cPWI;cWEST-CREE PWI;cPWII"),
  (0x143F, "aCANADIAN SYLLABICS WEST-CREE PWII;cPWO;cWEST-CREE PWO;cPWOO;cWEST-CREE PWOO;cPWA"),
  (0x1445, "aCANADIAN SYLLABICS WEST-CREE PWA;cPWAA;cWEST-CREE PWAA;cY-CREE PWAA;cP;cWEST-CREE P"),
  (0x144B, "aCANADIAN SYLLABICS CARRIER H;cTE;cTAAI;cTI;cTII;cTO;cTOO;cY-CREE TOO;cCARRIER DEE"),
  (0x1454, "aCANADIAN SYLLABICS CARRIER DI;cTA;cTAA;cTWE;cWEST-CREE TWE;cTWI;cWEST-CREE TWI;cTWII"),
  (0x145C, "aCANADIAN SYLLABICS WEST-CREE TWII;cTWO;cWEST-CREE TWO;cTWOO;cWEST-CREE TWOO;cTWA"),
  (0x1462, "aCANADIAN SYLLABICS WEST-CREE TWA;cTWAA;cWEST-CREE TWAA;cNASKAPI TWAA;cT;cTTE;cTTI"),
  (0x1469, "aCANADIAN SYLLABICS TTO;cTTA;cKE;cKAAI;cKI;cKII;cKO;cKOO;cY-CREE KOO;cKA;cKAA;cKWE"),
  (0x1475, "aCANADIAN SYLLABICS WEST-CREE KWE;cKWI;cWEST-CREE KWI;cKWII;cWEST-CREE KWII;cKWO"),
  (0x147B, "aCANADIAN SYLLABICS WEST-CREE KWO;cKWOO;cWEST-CREE KWOO;cKWA;cWEST-CREE KWA;cKWAA"),
  (0x1481, "aCANADIAN SYLLABICS WEST-CREE KWAA;cNASKAPI KWAA;cK;cKW;cSOUTH-SLAVEY KEH;dKIH;dKOH"),
  (0x1488, "aCANADIAN SYLLABICS SOUTH-SLAVEY KAH;cCE;cCAAI;cCI;cCII;cCO;cCOO;cY-CREE COO;cCA;cCAA"),
  (0x1492, "aCANADIAN SYLLABICS CWE;cWEST-CREE CWE;cCWI;cWEST-CREE CWI;cCWII;cWEST-CREE CWII;cCWO"),
  (0x1499, "aCANADIAN SYLLABICS WEST-CREE CWO;cCWOO;cWEST-CREE CWOO;cCWA;cWEST-CREE CWA;cCWAA"),
  (0x149F, "aCANADIAN SYLLABICS WEST-CREE CWAA;cNASKAPI CWAA;cC;cSAYISI TH;cME;cMAAI;cMI;cMII;cMO"),
  (0x14A8, "aCANADIAN SYLLABICS MOO;cY-CREE MOO;cMA;cMAA;cMWE;cWEST-CREE MWE;cMWI;cWEST-CREE MWI"),
  (0x14B0, "aCANADIAN SYLLABICS MWII;cWEST-CREE MWII;cMWO;cWEST-CREE MWO;cMWOO;cWEST-CREE MWOO"),
  (0x14B6, "aCANADIAN SYLLABICS MWA;cWEST-CREE MWA;cMWAA;cWEST-CREE MWAA;cNASKAPI MWAA;cM"),
  (0x14BC, "aCANADIAN SYLLABICS WEST-CREE M;cMH;cATHAPASCAN M;cSAYISI M;cNE;cNAAI;cNI;cNII;cNO"),
  (0x14C5, "aCANADIAN SYLLABICS NOO;cY-CREE NOO;cNA;cNAA;cNWE;cWEST-CREE NWE;cNWA;cWEST-CREE NWA"),
  (0x14CD, "aCANADIAN SYLLABICS NWAA;cWEST-CREE NWAA;cNASKAPI NWAA;cN;cCARRIER NG;cNH;cLE;cLAAI"),
  (0x14D5, "aCANADIAN SYLLABICS LI;cLII;cLO;cLOO;cY-CREE LOO;cLA;cLAA;cLWE;cWEST-CREE LWE;cLWI"),
  (0x14DF, "aCANADIAN SYLLABICS WEST-CREE LWI;cLWII;cWEST-CREE LWII;cLWO;cWEST-CREE LWO;cLWOO"),
  (0x14E5, "aCANADIAN SYLLABICS WEST-CREE LWOO;cLWA;cWEST-CREE LWA;cLWAA;cWEST-CREE LWAA;cL"),
  (0x14EB, "aCANADIAN SYLLABICS WEST-CREE L;cMEDIAL L;cSE;cSAAI;cSI;cSII;cSO;cSOO;cY-CREE SOO;cSA"),
  (0x14F5, "aCANADIAN SYLLABICS SAA;cSWE;cWEST-CREE SWE;cSWI;cWEST-CREE SWI;cSWII;cWEST-CREE SWII"),
  (0x14FC, "aCANADIAN SYLLABICS SWO;cWEST-CREE SWO;cSWOO;cWEST-CREE SWOO;cSWA;cWEST-CREE SWA"),
  (0x1502, "aCANADIAN SYLLABICS SWAA;cWEST-CREE SWAA;cNASKAPI SWAA;cS;cATHAPASCAN S;cSW"),
  (0x1508, "aCANADIAN SYLLABICS BLACKFOOT S;cMOOSE-CREE SK;cNASKAPI SKW;dS-W;dSPWA;dSTWA;dSKWA"),
  (0x150F, "aCANADIAN SYLLABICS NASKAPI SCWA;cSHE;cSHI;cSHII;cSHO;cSHOO;cSHA;cSHAA;cSHWE"),
  (0x1518, "aCANADIAN SYLLABICS WEST-CREE SHWE;cSHWI;cWEST-CREE SHWI;cSHWII;cWEST-CREE SHWII"),
  (0x151D, "aCANADIAN SYLLABICS SHWO;cWEST-CREE SHWO;cSHWOO;cWEST-CREE SHWOO;cSHWA"),
  (0x1522, "aCANADIAN SYLLABICS WEST-CREE SHWA;cSHWAA;cWEST-CREE SHWAA;cSH;cYE;cYAAI;cYI;cYII;cYO"),
  (0x152B, "aCANADIAN SYLLABICS YOO;cY-CREE YOO;cYA;cYAA;cYWE;cWEST-CREE YWE;cYWI;cWEST-CREE YWI"),
  (0x1533, "aCANADIAN SYLLABICS YWII;cWEST-CREE YWII;cYWO;cWEST-CREE YWO;cYWOO;cWEST-CREE YWOO"),
  (0x1539, "aCANADIAN SYLLABICS YWA;cWEST-CREE YWA;cYWAA;cWEST-CREE YWAA;cNASKAPI YWAA;cY"),
  (0x153F, "aCANADIAN SYLLABICS BIBLE-CREE Y;cWEST-CREE Y;cSAYISI YI;cRE;cR-CREE RE;cWEST-CREE LE"),
  (0x1545, "aCANADIAN SYLLABICS RAAI;cRI;cRII;cRO;cROO;cWEST-CREE LO;cRA;cRAA;cWEST-CREE LA;cRWAA"),
  (0x154F, "aCANADIAN SYLLABICS WEST-CREE RWAA;cR;cWEST-CREE R;cMEDIAL R;cFE;cFAAI;cFI;cFII;cFO"),
  (0x1558, "aCANADIAN SYLLABICS FOO;cFA;cFAA;cFWAA;cWEST-CREE FWAA;cF;cTHE;cN-CREE THE;cTHI"),
  (0x1561, "aCANADIAN SYLLABICS N-CREE THI;cTHII;cN-CREE THII;cTHO;cTHOO;cTHA;cTHAA;cTHWAA"),
  (0x1569, "aCANADIAN SYLLABICS WEST-CREE THWAA;cTH;cTTHE;cTTHI;cTTHO;cTTHA;cTTH;cTYE;cTYI;cTYO"),
  (0x1573, "aCANADIAN SYLLABICS TYA;cNUNAVIK HE;dHI;dHII;dHO;dHOO;dHA;dHAA;dH;cNUNAVUT H;cHK"),
  (0x157E, "aCANADIAN SYLLABICS QAAI;cQI;cQII;cQO;cQOO;cQA;cQAA;cQ;cTLHE;cTLHI;cTLHO;cTLHA"),
  (0x158A, "aCANADIAN SYLLABICS WEST-CREE RE;dRI;dRO;dRA;cNGAAI;cNGI;cNGII;cNGO;cNGOO;cNGA;cNGAA"),
  (0x1595, "aCANADIAN SYLLABICS NG;cNNG;cSAYISI SHE;dSHI;dSHO;dSHA;cWOODS-CREE THE;dTHI;dTHO;dTHA"),
  (0x159F, "aCANADIAN SYLLABICS WOODS-CREE TH;cLHI;cLHII;cLHO;cLHOO;cLHA;cLHAA;cLH;cTH-CREE THE"),
  (0x15A8, "aCANADIAN SYLLABICS TH-CREE THI;dTHII;dTHO;dTHOO;dTHA;dTHAA;dTH;cAIVILIK B"),
  (0x15B0, "aCANADIAN SYLLABICS BLACKFOOT E;dI;dO;dA;dWE;dWI;dWO;dWA;dNE;dNI;dNO;dNA;dKE;dKI;dKO"),
  (0x15BF, "aCANADIAN SYLLABICS BLACKFOOT KA;cSAYISI HE;dHI;dHO;dHA;cCARRIER GHU;dGHO;dGHE;dGHEE"),
  (0x15C8, "aCANADIAN SYLLABICS CARRIER GHI;dGHA;dRU;dRO;dRE;dREE;dRI;dRA;dWU;dWO;dWE;dWEE;dWI"),
  (0x15D5, "aCANADIAN SYLLABICS CARRIER WA;dHWU;dHWO;dHWE;dHWEE;dHWI;dHWA;dTHU;dTHO;dTHE;dTHEE"),
  (0x15E0, "aCANADIAN SYLLABICS CARRIER THI;dTHA;dTTU;dTTO;dTTE;dTTEE;dTTI;dTTA;dPU;dPO;dPE;dPEE"),
  (0x15EC, "aCANADIAN SYLLABICS CARRIER PI;dPA;dP;dGU;dGO;dGE;dGEE;dGI;dGA;dKHU;dKHO;dKHE;dKHEE"),
  (0x15F9, "aCANADIAN SYLLABICS CARRIER KHI;dKHA;dKKU;dKKO;dKKE;dKKEE;dKKI;dKKA;dKK;dNU;dNO;dNE"),
  (0x1605, "aCANADIAN SYLLABICS CARRIER NEE;dNI;dNA;dMU;dMO;dME;dMEE;dMI;dMA;dYU;dYO;dYE;dYEE;dYI"),
  (0x1613, "aCANADIAN SYLLABICS CARRIER YA;dJU;cSAYISI JU;cCARRIER JO;dJE;dJEE;dJI;cSAYISI JI"),
  (0x161B, "aCANADIAN SYLLABICS CARRIER JA;dJJU;dJJO;dJJE;dJJEE;dJJI;dJJA;dLU;dLO;dLE;dLEE;dLI"),
  (0x1627, "aCANADIAN SYLLABICS CARRIER LA;dDLU;dDLO;dDLE;dDLEE;dDLI;dDLA;dLHU;dLHO;dLHE;dLHEE"),
  (0x1632, "aCANADIAN SYLLABICS CARRIER LHI;dLHA;dTLHU;dTLHO;dTLHE;dTLHEE;dTLHI;dTLHA;dTLU;dTLO"),
  (0x163C, "aCANADIAN SYLLABICS CARRIER TLE;dTLEE;dTLI;dTLA;dZU;dZO;dZE;dZEE;dZI;dZA;dZ"),
  (0x1647, "aCANADIAN SYLLABICS CARRIER INITIAL Z;dDZU;dDZO;dDZE;dDZEE;dDZI;dDZA;dSU;dSO;dSE;dSEE"),
  (0x1652, "aCANADIAN SYLLABICS CARRIER SI;dSA;dSHU;dSHO;dSHE;dSHEE;dSHI;dSHA;dSH;dTSU;dTSO;dTSE"),
  (0x165E, "aCANADIAN SYLLABICS CARRIER TSEE;dTSI;dTSA;dCHU;dCHO;dCHE;dCHEE;dCHI;dCHA;dTTSU;dTTSO"),
  (0x1669, "aCANADIAN SYLLABICS CARRIER TTSE;dTTSEE;dTTSI;dTTSA;cCHI SIGN;cFULL STOP;cQAI;cNGAI"),
  (0x1671, "aCANADIAN SYLLABICS NNGI;cNNGII;cNNGO;cNNGOO;cNNGA;cNNGAA;cWOODS-CREE THWEE;dTHWI"),
  (0x1679, "aCANADIAN SYLLABICS WOODS-CREE THWII;dTHWO;dTHWOO;dTHWA;dTHWAA;dFINAL TH;cBLACKFOOT W"),
  (0x1680, "aOGHAM SPACE MARK;bLETTER BEITH;cLUIS;cFEARN;cSAIL;cNION;cUATH;cDAIR;cTINNE;cCOLL"),
  (0x168A, "aOGHAM LETTER CEIRT;cMUIN;cGORT;cNGEADAL;cSTRAIF;cRUIS;cAILM;cONN;cUR;cEADHADH"),
  (0x1694, "aOGHAM LETTER IODHADH;cEABHADH;cOR;cUILLEANN;cIFIN;cEAMHANCHOLL;cPEITH;bFEATHER MARK"),
  (0x169C, "aOGHAM REVERSED FEATHER MARK"),
  (0x16A0, "aRUNIC LETTER FEHU FEOH FE F;cV;cURUZ UR U;cYR;cY;cW;cTHURISAZ THURS THORN;cETH"),
  (0x16A8, "aRUNIC LETTER ANSUZ A;cOS O;cAC A;cAESC;cLONG-BRANCH-OSS O;cSHORT-TWIG-OSS O;cO;cOE"),
  (0x16B0, "aRUNIC LETTER ON;cRAIDO RAD REID R;cKAUNA;cCEN;cKAUN K;cG;cENG;cGEBO GYFU G;cGAR"),
  (0x16B9, "aRUNIC LETTER WUNJO WYNN W;cHAGLAZ H;cHAEGL H;cLONG-BRANCH-HAGALL H"),
  (0x16BD, "aRUNIC LETTER SHORT-TWIG-HAGALL H;cNAUDIZ NYD NAUD N;cSHORT-TWIG-NAUD N;cDOTTED-N"),
  (0x16C1, "aRUNIC LETTER ISAZ IS ISS I;cE;cJERAN J;cGER;cLONG-BRANCH-AR AE;cSHORT-TWIG-AR A"),
  (0x16C7, "aRUNIC LETTER IWAZ EOH;cPERTHO PEORTH P;cALGIZ EOLHX;cSOWILO S"),
  (0x16CB, "aRUNIC LETTER SIGEL LONG-BRANCH-SOL S;cSHORT-TWIG-SOL S;cC;cZ;cTIWAZ TIR TYR T"),
  (0x16D0, "aRUNIC LETTER SHORT-TWIG-TYR T;cD;cBERKANAN BEORC BJARKAN B;cSHORT-TWIG-BJARKAN B"),
  (0x16D4, "aRUNIC LETTER DOTTED-P;cOPEN-P;cEHWAZ EH E;cMANNAZ MAN M;cLONG-BRANCH-MADR M"),
  (0x16D9, "aRUNIC LETTER SHORT-TWIG-MADR M;cLAUKAZ LAGU LOGR L;cDOTTED-L;cINGWAZ;cING"),
  (0x16DE, "aRUNIC LETTER DAGAZ DAEG D;cOTHALAN ETHEL O;cEAR;cIOR;cCWEORTH;cCALC;cCEALC;cSTAN"),
  (0x16E6, "aRUNIC LETTER LONG-BRANCH-YR;cSHORT-TWIG-YR;cICELANDIC-YR;cQ;cX;bSINGLE PUNCTUATION"),
  (0x16EC, "aRUNIC MULTIPLE PUNCTUATION;bCROSS PUNCTUATION;bARLAUG SYMBOL;bTVIMADUR SYMBOL"),
  (0x16F0, "aRUNIC BELGTHOR SYMBOL;bLETTER K;cSH;cOO;cFRANKS CASKET OS;eIS;eEH;eAC;eAESC"),
  (0x1700, "aTAGALOG LETTER A;cI;cU;cKA;cGA;cNGA;cTA;cDA;cNA;cPA;cBA;cMA;cYA;cRA;cLA;cWA;cSA;cHA"),
  (0x1712, "aTAGALOG VOWEL SIGN I;dU;bSIGN VIRAMA;cPAMUDPOD"),
  (0x171F, "aTAGALOG LETTER ARCHAIC RA;aHANUNOO LETTER A;cI;cU;cKA;cGA;cNGA;cTA;cDA;cNA;cPA;cBA"),
  (0x172B, "aHANUNOO LETTER MA;cYA;cRA;cLA;cWA;cSA;cHA;bVOWEL SIGN I;dU;bSIGN PAMUDPOD"),
  (0x1735, "aPHILIPPINE SINGLE PUNCTUATION;bDOUBLE PUNCTUATION"),
  (0x1740, "aBUHID LETTER A;cI;cU;cKA;cGA;cNGA;cTA;cDA;cNA;cPA;cBA;cMA;cYA;cRA;cLA;cWA;cSA;cHA"),
  (0x1752, "aBUHID VOWEL SIGN I;dU"),
  (0x1760, "aTAGBANWA LETTER A;cI;cU;cKA;cGA;cNGA;cTA;cDA;cNA;cPA;cBA;cMA;cYA"),
  (0x176E, "aTAGBANWA LETTER LA;cWA;cSA"),
  (0x1772, "aTAGBANWA VOWEL SIGN I;dU"),
  (0x1780, "aKHMER LETTER KA;cKHA;cKO;cKHO;cNGO;cCA;cCHA;cCO;cCHO;cNYO;cDA;cTTHA;cDO;cTTHO;cNNO"),
  (0x178F, "aKHMER LETTER TA;cTHA;cTO;cTHO;cNO;cBA;cPHA;cPO;cPHO;cMO;cYO;cRO;cLO;cVO;cSHA;cSSO"),
  (0x179F, "aKHMER LETTER SA;cHA;cLA;cQA;bINDEPENDENT VOWEL QAQ;dQAA;dQI;dQII;dQU;dQUK;dQUU;dQUUV"),
  (0x17AB, "aKHMER INDEPENDENT VOWEL RY;dRYY;dLY;dLYY;dQE;dQAI;dQOO TYPE ONE;fTWO;dQAU"),
  (0x17B4, "aKHMER VOWEL INHERENT AQ;dAA;cSIGN AA;dI;dII;dY;dYY;dU;dUU;dUA;dOE;dYA;dIE;dE;dAE;dAI"),
  (0x17C4, "aKHMER VOWEL SIGN OO;dAU;bSIGN NIKAHIT;cREAHMUK;cYUUKALEAPINTU;cMUUSIKATOAN;cTRIISAP"),
  (0x17CB, "aKHMER SIGN BANTOC;cROBAT;cTOANDAKHIAT;cKAKABAT;cAHSDA;cSAMYOK SANNYA;cVIRIAM;cCOENG"),
  (0x17D3, "aKHMER SIGN BATHAMASAT;cKHAN;cBARIYOOSAN;cCAMNUC PII KUUH;cLEK TOO;cBEYYAL"),
  (0x17D9, "aKHMER SIGN PHNAEK MUAN;cKOOMUUT;bCURRENCY SYMBOL RIEL;bSIGN AVAKRAHASANYA;cATTHACAN"),
  (0x17E0, "aKHMER DIGIT ZERO;cONE;cTWO;cTHREE;cFOUR;cFIVE;cSIX;cSEVEN;cEIGHT;cNINE"),
  (0x17F0, "aKHMER SYMBOL LEK ATTAK SON;eMUOY;ePII;eBEI;eBUON;ePRAM;ePRAM-MUOY;ePRAM-PII"),
  (0x17F8, "aKHMER SYMBOL LEK ATTAK PRAM-BEI;ePRAM-BUON"),
  (0x1800, "aMONGOLIAN BIRGA;bELLIPSIS;bCOMMA;bFULL STOP;bCOLON;bFOUR DOTS;bTODO SOFT HYPHEN"),
  (0x1807, "aMONGOLIAN SIBE SYLLABLE BOUNDARY MARKER;bMANCHU COMMA;cFULL STOP;bNIRUGU"),
  (0x180B, "aMONGOLIAN FREE VARIATION SELECTOR ONE;eTWO;eTHREE;bVOWEL SEPARATOR"),
  (0x180F, "aMONGOLIAN FREE VARIATION SELECTOR FOUR;bDIGIT ZERO;cONE;cTWO;cTHREE;cFOUR;cFIVE;cSIX"),
  (0x1817, "aMONGOLIAN DIGIT SEVEN;cEIGHT;cNINE"),
  (0x1820, "aMONGOLIAN LETTER A;cE;cI;cO;cU;cOE;cUE;cEE;cNA;cANG;cBA;cPA;cQA;cGA;cMA;cLA;cSA;cSHA"),
  (0x1832, "aMONGOLIAN LETTER TA;cDA;cCHA;cJA;cYA;cRA;cWA;cFA;cKA;cKHA;cTSA;cZA;cHAA;cZRA;cLHA"),
  (0x1841, "aMONGOLIAN LETTER ZHI;cCHI;cTODO LONG VOWEL SIGN;dE;dI;dO;dU;dOE;dUE;dANG;dBA;dPA;dQA"),
  (0x184E, "aMONGOLIAN LETTER TODO GA;dMA;dTA;dDA;dCHA;dJA;dTSA;dYA;dWA;dKA;dGAA;dHAA;dJIA;dNIA"),
  (0x185C, "aMONGOLIAN LETTER TODO DZA;cSIBE E;dI;dIY;dUE;dU;dANG;dKA;dGA;dHA;dPA;dSHA;dTA;dDA"),
  (0x186A, "aMONGOLIAN LETTER SIBE JA;dFA;dGAA;dHAA;dTSA;dZA;dRAA;dCHA;dZHA;cMANCHU I;dKA;dRA;dFA"),
  (0x1877, "aMONGOLIAN LETTER MANCHU ZHA;cCHA WITH TWO DOTS"),
  (0x1880, "aMONGOLIAN LETTER ALI GALI ANUSVARA ONE;eVISARGA ONE;eDAMARU;eUBADAMA"),
  (0x1884, "aMONGOLIAN LETTER ALI GALI INVERTED UBADAMA;eBALUDA;eTHREE BALUDA;eA;eI;eKA;eNGA;eCA"),
  (0x188C, "aMONGOLIAN LETTER ALI GALI TTA;eTTHA;eDDA;eNNA;eTA;eDA;ePA;ePHA;eSSA;eZHA;eZA;eAH"),
  (0x1898, "aMONGOLIAN LETTER TODO ALI GALI TA;fZHA;cMANCHU ALI GALI GHA;fNGA;fCA;fJHA;fTTA;fDDHA"),
  (0x18A0, "aMONGOLIAN LETTER MANCHU ALI GALI TA;fDHA;fSSA;fCYA;fZHA;fZA;cALI GALI HALF U;fYA"),
  (0x18A8, "aMONGOLIAN LETTER MANCHU ALI GALI BHA;cALI GALI DAGALGA;cMANCHU ALI GALI LHA"),
  (0x18B0, "aCANADIAN SYLLABICS OY;cAY;cAAY;cWAY;cPOY;cPAY;cPWOY;cTAY;cKAY;cKWAY;cMAY;cNOY;cNAY"),
  (0x18BD, "aCANADIAN SYLLABICS LAY;cSOY;cSAY;cSHOY;cSHAY;cSHWOY;cYOY;cYAY;cRAY;cNWI;cOJIBWAY NWI"),
  (0x18C8, "aCANADIAN SYLLABICS NWII;cOJIBWAY NWII;cNWO;cOJIBWAY NWO;cNWOO;cOJIBWAY NWOO;cRWEE"),
  (0x18CF, "aCANADIAN SYLLABICS RWI;cRWII;cRWO;cRWOO;cRWA;cOJIBWAY P;dT;dK;dC;dM;dN;dS;dSH"),
  (0x18DC, "aCANADIAN SYLLABICS EASTERN W;cWESTERN W;cFINAL SMALL RING;dRAISED DOT;cR-CREE RWE"),
  (0x18E1, "aCANADIAN SYLLABICS WEST-CREE LOO;dLAA;cTHWE;cTHWA;cTTHWE;cTTHOO;cTTHAA;cTLHWE;cTLHOO"),
  (0x18EA, "aCANADIAN SYLLABICS SAYISI SHWE;dSHOO;dHOO;cCARRIER GWU;dDENE GEE;dGAA;dGWA"),
  (0x18F1, "aCANADIAN SYLLABICS SAYISI JUU;cCARRIER JWA;cBEAVER DENE L;eR;cCARRIER DENTAL S"),
  (0x1900, "aLIMBU VOWEL-CARRIER LETTER;bLETTER KA;cKHA;cGA;cGHA;cNGA;cCA;cCHA;cJA;cJHA;cYAN;cTA"),
  (0x190C, "aLIMBU LETTER THA;cDA;cDHA;cNA;cPA;cPHA;cBA;cBHA;cMA;cYA;cRA;cLA;cWA;cSHA;cSSA;cSA"),
  (0x191C, "aLIMBU LETTER HA;cGYAN;cTRA"),
  (0x1920, "aLIMBU VOWEL SIGN A;dI;dU;dEE;dAI;dOO;dAU;dE;dO;bSUBJOINED LETTER YA;dRA;dWA")]

/-- The lines of names from U+1930 on. -/
def namesFrom1930 : List (Nat × String) := [
  (0x1930, "aLIMBU SMALL LETTER KA;dNGA;dANUSVARA;dTA;dNA;dPA;dMA;dRA;dLA;bSIGN MUKPHRENG"),
  (0x193A, "aLIMBU SIGN KEMPHRENG;cSA-I"),
  (0x1940, "aLIMBU SIGN LOO"),
  (0x1944, "aLIMBU EXCLAMATION MARK;bQUESTION MARK;bDIGIT ZERO;cONE;cTWO;cTHREE;cFOUR;cFIVE;cSIX"),
  (0x194D, "aLIMBU DIGIT SEVEN;cEIGHT;cNINE;aTAI LE LETTER KA;dXA;dNGA;dTSA;dSA;dYA;dTA;dTHA;dLA"),
  (0x1959, "aTAI LE LETTER PA;dPHA;dMA;dFA;dVA;dHA;dQA;dKHA;dTSHA;dNA;dA;dI;dEE;dEH;dU;dOO;dO;dUE"),
  (0x196B, "aTAI LE LETTER E;dAUE;dAI"),
  (0x1970, "aTAI LE LETTER TONE-2;dTONE-3;dTONE-4;dTONE-5;dTONE-6"),
  (0x1980, "aNEW TAI LUE LETTER HIGH QA;eLOW QA;eHIGH KA;fXA;fNGA;eLOW KA;fXA;fNGA;eHIGH TSA;fSA"),
  (0x198A, "aNEW TAI LUE LETTER HIGH YA;eLOW TSA;fSA;fYA;eHIGH TA;fTHA;fNA;eLOW TA;fTHA;fNA"),
  (0x1994, "aNEW TAI LUE LETTER HIGH PA;fPHA;fMA;eLOW PA;fPHA;fMA;eHIGH FA;fVA;fLA;eLOW FA;fVA"),
  (0x199F, "aNEW TAI LUE LETTER LOW LA;eHIGH HA;fDA;fBA;eLOW HA;fDA;fBA;eHIGH KVA;fXVA;eLOW KVA"),
  (0x19A9, "aNEW TAI LUE LETTER LOW XVA;eHIGH SUA;eLOW SUA"),
  (0x19B0, "aNEW TAI LUE VOWEL SIGN VOWEL SHORTENER;fAA;fII;fU;fUU;fE;fAE;fO;fOA;fUE;fAY;fAAY;fUY"),
  (0x19BD, "aNEW TAI LUE VOWEL SIGN OY;fOAY;fUEY;fIY;dLETTER FINAL V;fNG;fN;fM;fK;fD;fB"),
  (0x19C8, "aNEW TAI LUE TONE MARK-1;eMARK-2"),
  (0x19D0, "aNEW TAI LUE DIGIT ZERO;eONE;eTWO;eTHREE;eFOUR;eFIVE;eSIX;eSEVEN;eEIGHT;eNINE"),
  (0x19DA, "aNEW TAI LUE THAM DIGIT ONE"),
  (0x19DE, "aNEW TAI LUE SIGN LAE;eLAEV;aKHMER SYMBOL PATHAMASAT;cMUOY KOET;cPII KOET;cBEI KOET"),
  (0x19E4, "aKHMER SYMBOL BUON KOET;cPRAM KOET;cPRAM-MUOY KOET;cPRAM-PII KOET;cPRAM-BEI KOET"),
  (0x19E9, "aKHMER SYMBOL PRAM-BUON KOET;cDAP KOET;cDAP-MUOY KOET;cDAP-PII KOET;cDAP-BEI KOET"),
  (0x19EE, "aKHMER SYMBOL DAP-BUON KOET;cDAP-PRAM KOET;cTUTEYASAT;cMUOY ROC;cPII ROC;cBEI ROC"),
  (0x19F4, "aKHMER SYMBOL BUON ROC;cPRAM ROC;cPRAM-MUOY ROC;cPRAM-PII ROC;cPRAM-BEI ROC"),
  (0x19F9, "aKHMER SYMBOL PRAM-BUON ROC;cDAP ROC;cDAP-MUOY ROC;cDAP-PII ROC;cDAP-BEI ROC"),
  (0x19FE, "aKHMER SYMBOL DAP-BUON ROC;cDAP-PRAM ROC;aBUGINESE LETTER KA;cGA;cNGA;cNGKA;cPA;cBA"),
  (0x1A06, "aBUGINESE LETTER MA;cMPA;cTA;cDA;cNA;cNRA;cCA;cJA;cNYA;cNYCA;cYA;cRA;cLA;cVA;cSA;cA"),
  (0x1A16, "aBUGINESE LETTER HA;bVOWEL SIGN I;dU;dE;dO;dAE"),
  (0x1A1E, "aBUGINESE PALLAWA;bEND OF SECTION;aTAI THAM LETTER HIGH KA;eKHA;eKXA;dLOW KA;eKXA"),
  (0x1A25, "aTAI THAM LETTER LOW KHA;dNGA;dHIGH CA;eCHA;dLOW CA;eSA;eCHA;dNYA;dRATA;dHIGH RATHA"),
  (0x1A2F, "aTAI THAM LETTER DA;dLOW RATHA;dRANA;dHIGH TA;eTHA;dLOW TA;eTHA;dNA;dBA;dHIGH PA;ePHA"),
  (0x1A3A, "aTAI THAM LETTER HIGH FA;dLOW PA;eFA;ePHA;dMA;dLOW YA;dHIGH YA;dRA;dRUE;dLA;dLUE;dWA"),
  (0x1A46, "aTAI THAM LETTER HIGH SHA;eSSA;eSA;eHA;dLLA;dA;dLOW HA;dI;dII;dU;dUU;dEE;dOO;dLAE"),
  (0x1A54, "aTAI THAM LETTER GREAT SA;cCONSONANT SIGN MEDIAL RA;fLA;eLA TANG LAI"),
  (0x1A58, "aTAI THAM SIGN MAI KANG LAI;cCONSONANT SIGN FINAL NGA;eLOW PA;eHIGH RATHA OR LOW PA"),
  (0x1A5C, "aTAI THAM CONSONANT SIGN MA;eBA;eSA"),
  (0x1A60, "aTAI THAM SIGN SAKOT;cVOWEL SIGN A;eMAI SAT;eAA;eTALL AA;eI;eII;eUE;eUUE;eU;eUU;eO"),
  (0x1A6C, "aTAI THAM VOWEL SIGN OA BELOW;eOY;eE;eAE;eOO;eAI;eTHAM AI;eOA ABOVE;cSIGN MAI KANG"),
  (0x1A75, "aTAI THAM SIGN TONE-1;dTONE-2;dKHUEN TONE-3;eTONE-4;eTONE-5;dRA HAAM;dMAI SAM"),
  (0x1A7C, "aTAI THAM SIGN KHUEN-LUE KARAN"),
  (0x1A7F, "aTAI THAM COMBINING CRYPTOGRAMMIC DOT;cHORA DIGIT ZERO;eONE;eTWO;eTHREE;eFOUR;eFIVE"),
  (0x1A86, "aTAI THAM HORA DIGIT SIX;eSEVEN;eEIGHT;eNINE"),
  (0x1A90, "aTAI THAM THAM DIGIT ZERO;eONE;eTWO;eTHREE;eFOUR;eFIVE;eSIX;eSEVEN;eEIGHT;eNINE"),
  (0x1AA0, "aTAI THAM SIGN WIANG;dWIANGWAAK;dSAWAN;dKEOW;dHOY;dDOKMAI;dREVERSED ROTATED RANA"),
  (0x1AA7, "aTAI THAM SIGN MAI YAMOK;dKAAN;dKAANKUU;dSATKAAN;dSATKAANKUU;dHANG;dCAANG"),
  (0x1AB0, "aCOMBINING DOUBLED CIRCUMFLEX ACCENT;bDIAERESIS-RING;bINFINITY;bDOWNWARDS ARROW"),
  (0x1AB4, "aCOMBINING TRIPLE DOT;bX-X BELOW;bWIGGLY LINE BELOW;bOPEN MARK BELOW"),
  (0x1AB8, "aCOMBINING DOUBLE OPEN MARK BELOW;bLIGHT CENTRALIZATION STROKE BELOW"),
  (0x1ABA, "aCOMBINING STRONG CENTRALIZATION STROKE BELOW;bPARENTHESES ABOVE"),
  (0x1ABC, "aCOMBINING DOUBLE PARENTHESES ABOVE;bPARENTHESES BELOW;cOVERLAY"),
  (0x1ABF, "aCOMBINING LATIN SMALL LETTER W BELOW;eTURNED W BELOW;bLEFT PARENTHESIS ABOVE LEFT"),
  (0x1AC2, "aCOMBINING RIGHT PARENTHESIS ABOVE RIGHT;bLEFT PARENTHESIS BELOW LEFT"),
  (0x1AC4, "aCOMBINING RIGHT PARENTHESIS BELOW RIGHT;bSQUARE BRACKETS ABOVE;bNUMBER SIGN ABOVE"),
  (0x1AC7, "aCOMBINING INVERTED DOUBLE ARCH ABOVE;bPLUS SIGN ABOVE;bDOUBLE PLUS SIGN ABOVE;eBELOW"),
  (0x1ACB, "aCOMBINING TRIPLE ACUTE ACCENT;bLATIN SMALL LETTER INSULAR G;fR;fT"),
  (0x1B00, "aBALINESE SIGN ULU RICEM;dCANDRA;cCECEK;cSURANG;cBISAH;bLETTER AKARA;dTEDUNG;cIKARA"),
  (0x1B08, "aBALINESE LETTER IKARA TEDUNG;cUKARA;dTEDUNG;cRA REPA;eTEDUNG;cLA LENGA;eTEDUNG"),
  (0x1B0F, "aBALINESE LETTER EKARA;cAIKARA;cOKARA;dTEDUNG;cKA;dMAHAPRANA;cGA;dGORA;cNGA;cCA;dLACA"),
  (0x1B1A, "aBALINESE LETTER JA;dJERA;cNYA;cTA LATIK;dMURDA MAHAPRANA;cDA MURDA ALPAPRANA"),
  (0x1B20, "aBALINESE LETTER DA MURDA MAHAPRANA;cNA RAMBAT;cTA;dTAWA;cDA;dMADU;cNA;cPA;dKAPAL;cBA"),
  (0x1B2A, "aBALINESE LETTER BA KEMBANG;cMA;cYA;cRA;cLA;cWA;cSA SAGA;dSAPA;d;cHA;bSIGN REREKAN"),
  (0x1B35, "aBALINESE VOWEL SIGN TEDUNG;dULU;eSARI;dSUKU;eILUT;dRA REPA;fTEDUNG;dLA LENGA;fTEDUNG"),
  (0x1B3E, "aBALINESE VOWEL SIGN TALING;eREPA;eTEDUNG;eREPA TEDUNG;dPEPET;eTEDUNG;bADEG ADEG"),
  (0x1B45, "aBALINESE LETTER KAF SASAK;cKHOT SASAK;cTZIR SASAK;cEF SASAK;cVE SASAK;cZAL SASAK"),
  (0x1B4B, "aBALINESE LETTER ASYURA SASAK;cARCHAIC JNYA"),
  (0x1B50, "aBALINESE DIGIT ZERO;cONE;cTWO;cTHREE;cFOUR;cFIVE;cSIX;cSEVEN;cEIGHT;cNINE;bPANTI"),
  (0x1B5B, "aBALINESE PAMADA;bWINDU;bCARIK PAMUNGKAH;cSIKI;cPAREREN;bPAMENENG"),
  (0x1B61, "aBALINESE MUSICAL SYMBOL DONG;dDENG;dDUNG;dDANG;eSURANG;dDING;dDAENG;dDEUNG;dDAING"),
  (0x1B6A, "aBALINESE MUSICAL SYMBOL DANG GEDE;dCOMBINING TEGEH;eENDEP;eKEMPUL;eKEMPLI;eJEGOGAN"),
  (0x1B70, "aBALINESE MUSICAL SYMBOL COMBINING KEMPUL WITH JEGOGAN;eKEMPLI WITH JEGOGAN;eBENDE"),
  (0x1B73, "aBALINESE MUSICAL SYMBOL COMBINING GONG;dRIGHT-HAND OPEN DUG;fDAG;eCLOSED TUK;fTAK"),
  (0x1B78, "aBALINESE MUSICAL SYMBOL LEFT-HAND OPEN PANG;fPUNG;eCLOSED PLAK;fPLUK;eOPEN PING"),
  (0x1B7D, "aBALINESE PANTI LANTANG;bPAMADA LANTANG"),
  (0x1B80, "aSUNDANESE SIGN PANYECEK;cPANGLAYAR;cPANGWISAD;bLETTER A;cI;cU;cAE;cO;cE;cEU;cKA;cQA"),
  (0x1B8C, "aSUNDANESE LETTER GA;cNGA;cCA;cJA;cZA;cNYA;cTA;cDA;cNA;cPA;cFA;cVA;cBA;cMA;cYA;cRA"),
  (0x1B9C, "aSUNDANESE LETTER LA;cWA;cSA;cXA;cHA;bCONSONANT SIGN PAMINGKAL;dPANYAKRA;dPANYIKU"),
  (0x1BA4, "aSUNDANESE VOWEL SIGN PANGHULU;dPANYUKU;dPANAELAENG;dPANOLONG;dPAMEPET;dPANEULEUNG"),
  (0x1BAA, "aSUNDANESE SIGN PAMAAEH;cVIRAMA;bCONSONANT SIGN PASANGAN MA;eWA;bLETTER KHA;cSYA"),
  (0x1BB0, "aSUNDANESE DIGIT ZERO;cONE;cTWO;cTHREE;cFOUR;cFIVE;cSIX;cSEVEN;cEIGHT;cNINE;bAVAGRAHA"),
  (0x1BBB, "aSUNDANESE LETTER REU;cLEU;cBHA;cFINAL K;dM;aBATAK LETTER A;cSIMALUNGUN A;cHA"),
  (0x1BC3, "aBATAK LETTER SIMALUNGUN HA;cMANDAILING HA;cBA;cKARO BA;cPA;cSIMALUNGUN PA;cNA"),
  (0x1BCA, "aBATAK LETTER MANDAILING NA;cWA;cSIMALUNGUN WA;cPAKPAK WA;cGA;cSIMALUNGUN GA;cJA;cDA"),
  (0x1BD2, "aBATAK LETTER RA;cSIMALUNGUN RA;cMA;cSIMALUNGUN MA;cSOUTHERN TA;cNORTHERN TA;cSA"),
  (0x1BD9, "aBATAK LETTER SIMALUNGUN SA;cMANDAILING SA;cYA;cSIMALUNGUN YA;cNGA;cLA;cSIMALUNGUN LA"),
  (0x1BE0, "aBATAK LETTER NYA;cCA;cNDA;cMBA;cI;cU;bSIGN TOMPI;bVOWEL SIGN E;dPAKPAK E;dEE;dI"),
  (0x1BEB, "aBATAK VOWEL SIGN KARO I;dO;dKARO O;dU;eFOR SIMALUNGUN SA;bCONSONANT SIGN NG;dH"),
  (0x1BF2, "aBATAK PANGOLAT;bPANONGONAN"),
  (0x1BFC, "aBATAK SYMBOL BINDU NA METEK;dPINARBORAS;dJUDUL;dPANGOLAT;aLEPCHA LETTER KA;cKLA;cKHA"),
  (0x1C03, "aLEPCHA LETTER GA;cGLA;cNGA;cCA;cCHA;cJA;cNYA;cTA;cTHA;cDA;cNA;cPA;cPLA;cPHA;cFA;cFLA"),
  (0x1C13, "aLEPCHA LETTER BA;cBLA;cMA;cMLA;cTSA;cTSHA;cDZA;cYA;cRA;cLA;cHA;cHLA;cVA;cSA;cSHA;cWA"),
  (0x1C23, "aLEPCHA LETTER A;bSUBJOINED LETTER YA;dRA;bVOWEL SIGN AA;dI;dO;dOO;dU;dUU;dE"),
  (0x1C2D, "aLEPCHA CONSONANT SIGN K;dM;dL;dN;dP;dR;dT;dNYIN-DO;dKANG;bSIGN RAN;cNUKTA"),
  (0x1C3B, "aLEPCHA PUNCTUATION TA-ROL;cNYET THYOOM TA-ROL;cCER-WA;cTSHOOK CER-WA;d;bDIGIT ZERO"),
  (0x1C41, "aLEPCHA DIGIT ONE;cTWO;cTHREE;cFOUR;cFIVE;cSIX;cSEVEN;cEIGHT;cNINE"),
  (0x1C4D, "aLEPCHA LETTER TTA;cTTHA;cDDA;aOL CHIKI DIGIT ZERO;dONE;dTWO;dTHREE;dFOUR;dFIVE;dSIX"),
  (0x1C57, "aOL CHIKI DIGIT SEVEN;dEIGHT;dNINE;cLETTER LA;dAT;dAG;dANG;dAL;dLAA;dAAK;dAAJ;dAAM"),
  (0x1C63, "aOL CHIKI LETTER AAW;dLI;dIS;dIH;dINY;dIR;dLU;dUC;dUD;dUNN;dUY;dLE;dEP;dEDD;dEN;dERR"),
  (0x1C73, "aOL CHIKI LETTER LO;dOTT;dOB;dOV;dOH;cMU TTUDDAG;cGAAHLAA TTUDDAAG"),
  (0x1C7A, "aOL CHIKI MU-GAAHLAA TTUDDAAG;cRELAA;cPHAARKAA;cAHAD;cPUNCTUATION MUCAAD"),
  (0x1C7F, "aOL CHIKI PUNCTUATION DOUBLE MUCAAD;aCYRILLIC SMALL LETTER ROUNDED VE;dLONG-LEGGED DE"),
  (0x1C82, "aCYRILLIC SMALL LETTER NARROW O;dWIDE ES;dTALL TE;dTHREE-LEGGED TE;dTALL HARD SIGN"),
  (0x1C87, "aCYRILLIC SMALL LETTER TALL YAT;dUNBLENDED UK"),
  (0x1C90, "aGEORGIAN MTAVRULI CAPITAL LETTER AN;eBAN;eGAN;eDON;eEN;eVIN;eZEN;eTAN;eIN;eKAN;eLAS"),
  (0x1C9B, "aGEORGIAN MTAVRULI CAPITAL LETTER MAN;eNAR;eON;ePAR;eZHAR;eRAE;eSAN;eTAR;eUN;ePHAR"),
  (0x1CA5, "aGEORGIAN MTAVRULI CAPITAL LETTER KHAR;eGHAN;eQAR;eSHIN;eCHIN;eCAN;eJIL;eCIL;eCHAR"),
  (0x1CAE, "aGEORGIAN MTAVRULI CAPITAL LETTER XAN;eJHAN;eHAE;eHE;eHIE;eWE;eHAR;eHOE;eFI;eYN"),
  (0x1CB8, "aGEORGIAN MTAVRULI CAPITAL LETTER ELIFI;eTURNED GAN;eAIN"),
  (0x1CBD, "aGEORGIAN MTAVRULI CAPITAL LETTER AEN;eHARD SIGN;eLABIAL SIGN"),
  (0x1CC0, "aSUNDANESE PUNCTUATION BINDU SURYA;dPANGLONG;dPURNAMA;dCAKRA;dLEU SATANGA;dKA SATANGA"),
  (0x1CC6, "aSUNDANESE PUNCTUATION BINDU DA SATANGA;dBA SATANGA"),
  (0x1CD0, "aVEDIC TONE KARSHANA;cSHARA;cPRENKHA;bSIGN NIHSHVASA;cYAJURVEDIC MIDLINE SVARITA"),
  (0x1CD5, "aVEDIC TONE YAJURVEDIC AGGRAVATED INDEPENDENT SVARITA;dINDEPENDENT SVARITA"),
  (0x1CD7, "aVEDIC TONE YAJURVEDIC KATHAKA INDEPENDENT SVARITA;cCANDRA BELOW"),
  (0x1CD9, "aVEDIC TONE YAJURVEDIC KATHAKA INDEPENDENT SVARITA SCHROEDER;cDOUBLE SVARITA"),
  (0x1CDB, "aVEDIC TONE TRIPLE SVARITA;cKATHAKA ANUDATTA;cDOT BELOW;cTWO DOTS BELOW"),
  (0x1CDF, "aVEDIC TONE THREE DOTS BELOW;cRIGVEDIC KASHMIRI INDEPENDENT SVARITA"),
  (0x1CE1, "aVEDIC TONE ATHARVAVEDIC INDEPENDENT SVARITA;bSIGN VISARGA SVARITA;dUDATTA"),
  (0x1CE4, "aVEDIC SIGN REVERSED VISARGA UDATTA;cVISARGA ANUDATTA;cREVERSED VISARGA ANUDATTA"),
  (0x1CE7, "aVEDIC SIGN VISARGA UDATTA WITH TAIL;dANUDATTA WITH TAIL;cANUSVARA ANTARGOMUKHA"),
  (0x1CEA, "aVEDIC SIGN ANUSVARA BAHIRGOMUKHA;dVAMAGOMUKHA;eWITH TAIL;cTIRYAK"),
  (0x1CEE, "aVEDIC SIGN HEXIFORM LONG ANUSVARA;cLONG ANUSVARA;cRTHANG LONG ANUSVARA"),
  (0x1CF1, "aVEDIC SIGN ANUSVARA UBHAYATO MUKHA;cARDHAVISARGA;cROTATED ARDHAVISARGA"),
  (0x1CF4, "aVEDIC TONE CANDRA ABOVE;bSIGN JIHVAMULIYA;cUPADHMANIYA;cATIKRAMA;bTONE RING ABOVE"),
  (0x1CF9, "aVEDIC TONE DOUBLE RING ABOVE;bSIGN DOUBLE ANUSVARA ANTARGOMUKHA"),
  (0x1D00, "aLATIN LETTER SMALL CAPITAL A;eAE;bSMALL LETTER TURNED AE"),
  (0x1D03, "aLATIN LETTER SMALL CAPITAL BARRED B;eC;eD;eETH;eE;bSMALL LETTER TURNED OPEN E;eI"),
  (0x1D0A, "aLATIN LETTER SMALL CAPITAL J;eK;eL WITH STROKE;eM;eREVERSED N;eO;eOPEN O"),
  (0x1D11, "aLATIN SMALL LETTER SIDEWAYS O;eOPEN O;eO WITH STROKE;dTURNED OE"),
  (0x1D15, "aLATIN LETTER SMALL CAPITAL OU;bSMALL LETTER TOP HALF O;dBOTTOM HALF O"),
  (0x1D18, "aLATIN LETTER SMALL CAPITAL P;eREVERSED R;eTURNED R;eT;eU;bSMALL LETTER SIDEWAYS U"),
  (0x1D1E, "aLATIN SMALL LETTER SIDEWAYS DIAERESIZED U;eTURNED M;bLETTER SMALL CAPITAL V;eW;eZ"),
  (0x1D23, "aLATIN LETTER SMALL CAPITAL EZH;cVOICED LARYNGEAL SPIRANT;cAIN"),
  (0x1D26, "aGREEK LETTER SMALL CAPITAL GAMMA;eLAMDA;ePI;eRHO;ePSI"),
  (0x1D2B, "aCYRILLIC LETTER SMALL CAPITAL EL;aMODIFIER LETTER CAPITAL A;dAE;dB;dBARRED B;dD;dE"),
  (0x1D32, "aMODIFIER LETTER CAPITAL REVERSED E;dG;dH;dI;dJ;dK;dL;dM;dN;dREVERSED N;dO;dOU;dP;dR"),
  (0x1D40, "aMODIFIER LETTER CAPITAL T;dU;dW;cSMALL A;dTURNED A;dALPHA;dTURNED AE;dB;dD;dE;dSCHWA"),
  (0x1D4B, "aMODIFIER LETTER SMALL OPEN E;dTURNED OPEN E;dG;dTURNED I;dK;dM;dENG;dO;dOPEN O"),
  (0x1D54, "aMODIFIER LETTER SMALL TOP HALF O;dBOTTOM HALF O;dP;dT;dU;dSIDEWAYS U;dTURNED M;dV"),
  (0x1D5C, "aMODIFIER LETTER SMALL AIN;dBETA;dGREEK GAMMA;dDELTA;dGREEK PHI;dCHI"),
  (0x1D62, "aLATIN SUBSCRIPT SMALL LETTER I;eR;eU;eV;aGREEK SUBSCRIPT SMALL LETTER BETA;eGAMMA"),
  (0x1D68, "aGREEK SUBSCRIPT SMALL LETTER RHO;ePHI;eCHI;aLATIN SMALL LETTER UE"),
  (0x1D6C, "aLATIN SMALL LETTER B WITH MIDDLE TILDE;dD WITH MIDDLE TILDE;dF WITH MIDDLE TILDE"),
  (0x1D6F, "aLATIN SMALL LETTER M WITH MIDDLE TILDE;dN WITH MIDDLE TILDE;dP WITH MIDDLE TILDE"),
  (0x1D72, "aLATIN SMALL LETTER R WITH MIDDLE TILDE;fFISHHOOK AND MIDDLE TILDE"),
  (0x1D74, "aLATIN SMALL LETTER S WITH MIDDLE TILDE;dT WITH MIDDLE TILDE;dZ WITH MIDDLE TILDE"),
  (0x1D77, "aLATIN SMALL LETTER TURNED G;aMODIFIER LETTER CYRILLIC EN"),
  (0x1D79, "aLATIN SMALL LETTER INSULAR G;dTH WITH STRIKETHROUGH;cCAPITAL LETTER I WITH STROKE"),
  (0x1D7C, "aLATIN SMALL LETTER IOTA WITH STROKE;dP WITH STROKE;cCAPITAL LETTER U WITH STROKE"),
  (0x1D7F, "aLATIN SMALL LETTER UPSILON WITH STROKE;dB WITH PALATAL HOOK;dD WITH PALATAL HOOK"),
  (0x1D82, "aLATIN SMALL LETTER F WITH PALATAL HOOK;dG WITH PALATAL HOOK;dK WITH PALATAL HOOK"),
  (0x1D85, "aLATIN SMALL LETTER L WITH PALATAL HOOK;dM WITH PALATAL HOOK;dN WITH PALATAL HOOK"),
  (0x1D88, "aLATIN SMALL LETTER P WITH PALATAL HOOK;dR WITH PALATAL HOOK;dS WITH PALATAL HOOK"),
  (0x1D8B, "aLATIN SMALL LETTER ESH WITH PALATAL HOOK;dV WITH PALATAL HOOK;dX WITH PALATAL HOOK"),
  (0x1D8E, "aLATIN SMALL LETTER Z WITH PALATAL HOOK;dA WITH RETROFLEX HOOK"),
  (0x1D90, "aLATIN SMALL LETTER ALPHA WITH RETROFLEX HOOK;dD WITH HOOK AND TAIL"),
  (0x1D92, "aLATIN SMALL LETTER E WITH RETROFLEX HOOK;dOPEN E WITH RETROFLEX HOOK"),
  (0x1D94, "aLATIN SMALL LETTER REVERSED OPEN E WITH RETROFLEX HOOK;dSCHWA WITH RETROFLEX HOOK"),
  (0x1D96, "aLATIN SMALL LETTER I WITH RETROFLEX HOOK;dOPEN O WITH RETROFLEX HOOK"),
  (0x1D98, "aLATIN SMALL LETTER ESH WITH RETROFLEX HOOK;dU WITH RETROFLEX HOOK"),
  (0x1D9A, "aLATIN SMALL LETTER EZH WITH RETROFLEX HOOK;aMODIFIER LETTER SMALL TURNED ALPHA;dC"),
  (0x1D9D, "aMODIFIER LETTER SMALL C WITH CURL;dETH;dREVERSED OPEN E;dF;dDOTLESS J WITH STROKE"),
  (0x1DA2, "aMODIFIER LETTER SMALL SCRIPT G;dTURNED H;dI WITH STROKE;dIOTA;dCAPITAL I"),
  (0x1DA7, "aMODIFIER LETTER SMALL CAPITAL I WITH STROKE;dJ WITH CROSSED-TAIL"),
  (0x1DA9, "aMODIFIER LETTER SMALL L WITH RETROFLEX HOOK;fPALATAL HOOK;dCAPITAL L;dM WITH HOOK"),
  (0x1DAD, "aMODIFIER LETTER SMALL TURNED M WITH LONG LEG;dN WITH LEFT HOOK;fRETROFLEX HOOK"),
  (0x1DB0, "aMODIFIER LETTER SMALL CAPITAL N;dBARRED O;dPHI;dS WITH HOOK;dESH"),
  (0x1DB5, "aMODIFIER LETTER SMALL T WITH PALATAL HOOK;dU BAR;dUPSILON;dCAPITAL U;dV WITH HOOK"),
  (0x1DBA, "aMODIFIER LETTER SMALL TURNED V;dZ;eWITH RETROFLEX HOOK;fCURL;dEZH;dTHETA"),
  (0x1DC0, "aCOMBINING DOTTED GRAVE ACCENT;cACUTE ACCENT;bSNAKE BELOW;bSUSPENSION MARK"),
  (0x1DC4, "aCOMBINING MACRON-ACUTE;bGRAVE-MACRON;bMACRON-GRAVE;bACUTE-MACRON;bGRAVE-ACUTE-GRAVE"),
  (0x1DC9, "aCOMBINING ACUTE-GRAVE-ACUTE;bLATIN SMALL LETTER R BELOW;bBREVE-MACRON;bMACRON-BREVE"),
  (0x1DCD, "aCOMBINING DOUBLE CIRCUMFLEX ABOVE;bOGONEK ABOVE;bZIGZAG BELOW;bIS BELOW;bUR ABOVE"),
  (0x1DD2, "aCOMBINING US ABOVE;bLATIN SMALL LETTER FLATTENED OPEN A ABOVE;eAE;eAO;eAV;eC CEDILLA"),
  (0x1DD8, "aCOMBINING LATIN SMALL LETTER INSULAR D;eETH;eG;cLETTER SMALL CAPITAL G"),
  (0x1DDC, "aCOMBINING LATIN SMALL LETTER K;eL;cLETTER SMALL CAPITAL L;fM;cSMALL LETTER N"),
  (0x1DE1, "aCOMBINING LATIN LETTER SMALL CAPITAL N;fR;cSMALL LETTER R ROTUNDA;eS;eLONG S;eZ"),
  (0x1DE7, "aCOMBINING LATIN SMALL LETTER ALPHA;eB;eBETA;eSCHWA;eF;eL WITH DOUBLE MIDDLE TILDE"),
  (0x1DED, "aCOMBINING LATIN SMALL LETTER O WITH LIGHT CENTRALIZATION STROKE;eP;eESH"),
  (0x1DF0, "aCOMBINING LATIN SMALL LETTER U WITH LIGHT CENTRALIZATION STROKE;eW;eA WITH DIAERESIS"),
  (0x1DF3, "aCOMBINING LATIN SMALL LETTER O WITH DIAERESIS;eU WITH DIAERESIS;bUP TACK ABOVE"),
  (0x1DF6, "aCOMBINING KAVYKA ABOVE RIGHT;dLEFT;bDOT ABOVE LEFT;bWIDE INVERTED BRIDGE BELOW"),
  (0x1DFA, "aCOMBINING DOT BELOW LEFT;bDELETION MARK;bDOUBLE INVERTED BREVE BELOW"),
  (0x1DFD, "aCOMBINING ALMOST EQUAL TO BELOW;bLEFT ARROWHEAD ABOVE"),
  (0x1DFF, "aCOMBINING RIGHT ARROWHEAD AND DOWN ARROWHEAD BELOW"),
  (0x1E00, "aLATIN CAPITAL LETTER A WITH RING BELOW;bSMALL LETTER A WITH RING BELOW"),
  (0x1E02, "aLATIN CAPITAL LETTER B WITH DOT ABOVE;bSMALL LETTER B WITH DOT ABOVE"),
  (0x1E04, "aLATIN CAPITAL LETTER B WITH DOT BELOW;bSMALL LETTER B WITH DOT BELOW"),
  (0x1E06, "aLATIN CAPITAL LETTER B WITH LINE BELOW;bSMALL LETTER B WITH LINE BELOW"),
  (0x1E08, "aLATIN CAPITAL LETTER C WITH CEDILLA AND ACUTE;bSMALL LETTER C WITH CEDILLA AND ACUTE"),
  (0x1E0A, "aLATIN CAPITAL LETTER D WITH DOT ABOVE;bSMALL LETTER D WITH DOT ABOVE"),
  (0x1E0C, "aLATIN CAPITAL LETTER D WITH DOT BELOW;bSMALL LETTER D WITH DOT BELOW"),
  (0x1E0E, "aLATIN CAPITAL LETTER D WITH LINE BELOW;bSMALL LETTER D WITH LINE BELOW"),
  (0x1E10, "aLATIN CAPITAL LETTER D WITH CEDILLA;bSMALL LETTER D WITH CEDILLA"),
  (0x1E12, "aLATIN CAPITAL LETTER D WITH CIRCUMFLEX BELOW;bSMALL LETTER D WITH CIRCUMFLEX BELOW"),
  (0x1E14, "aLATIN CAPITAL LETTER E WITH MACRON AND GRAVE;bSMALL LETTER E WITH MACRON AND GRAVE"),
  (0x1E16, "aLATIN CAPITAL LETTER E WITH MACRON AND ACUTE;bSMALL LETTER E WITH MACRON AND ACUTE"),
  (0x1E18, "aLATIN CAPITAL LETTER E WITH CIRCUMFLEX BELOW;bSMALL LETTER E WITH CIRCUMFLEX BELOW"),
  (0x1E1A, "aLATIN CAPITAL LETTER E WITH TILDE BELOW;bSMALL LETTER E WITH TILDE BELOW"),
  (0x1E1C, "aLATIN CAPITAL LETTER E WITH CEDILLA AND BREVE;bSMALL LETTER E WITH CEDILLA AND BREVE"),
  (0x1E1E, "aLATIN CAPITAL LETTER F WITH DOT ABOVE;bSMALL LETTER F WITH DOT ABOVE"),
  (0x1E20, "aLATIN CAPITAL LETTER G WITH MACRON;bSMALL LETTER G WITH MACRON"),
  (0x1E22, "aLATIN CAPITAL LETTER H WITH DOT ABOVE;bSMALL LETTER H WITH DOT ABOVE"),
  (0x1E24, "aLATIN CAPITAL LETTER H WITH DOT BELOW;bSMALL LETTER H WITH DOT BELOW"),
  (0x1E26, "aLATIN CAPITAL LETTER H WITH DIAERESIS;bSMALL LETTER H WITH DIAERESIS"),
  (0x1E28, "aLATIN CAPITAL LETTER H WITH CEDILLA;bSMALL LETTER H WITH CEDILLA"),
  (0x1E2A, "aLATIN CAPITAL LETTER H WITH BREVE BELOW;bSMALL LETTER H WITH BREVE BELOW"),
  (0x1E2C, "aLATIN CAPITAL LETTER I WITH TILDE BELOW;bSMALL LETTER I WITH TILDE BELOW"),
  (0x1E2E, "aLATIN CAPITAL LETTER I WITH DIAERESIS AND ACUTE"),
  (0x1E2F, "aLATIN SMALL LETTER I WITH DIAERESIS AND ACUTE;bCAPITAL LETTER K WITH ACUTE"),
  (0x1E31, "aLATIN SMALL LETTER K WITH ACUTE;bCAPITAL LETTER K WITH DOT BELOW"),
  (0x1E33, "aLATIN SMALL LETTER K WITH DOT BELOW;bCAPITAL LETTER K WITH LINE BELOW"),
  (0x1E35, "aLATIN SMALL LETTER K WITH LINE BELOW;bCAPITAL LETTER L WITH DOT BELOW"),
  (0x1E37, "aLATIN SMALL LETTER L WITH DOT BELOW;bCAPITAL LETTER L WITH DOT BELOW AND MACRON"),
  (0x1E39, "aLATIN SMALL LETTER L WITH DOT BELOW AND MACRON;bCAPITAL LETTER L WITH LINE BELOW"),
  (0x1E3B, "aLATIN SMALL LETTER L WITH LINE BELOW;bCAPITAL LETTER L WITH CIRCUMFLEX BELOW"),
  (0x1E3D, "aLATIN SMALL LETTER L WITH CIRCUMFLEX BELOW;bCAPITAL LETTER M WITH ACUTE"),
  (0x1E3F, "aLATIN SMALL LETTER M WITH ACUTE;bCAPITAL LETTER M WITH DOT ABOVE"),
  (0x1E41, "aLATIN SMALL LETTER M WITH DOT ABOVE;bCAPITAL LETTER M WITH DOT BELOW"),
  (0x1E43, "aLATIN SMALL LETTER M WITH DOT BELOW;bCAPITAL LETTER N WITH DOT ABOVE"),
  (0x1E45, "aLATIN SMALL LETTER N WITH DOT ABOVE;bCAPITAL LETTER N WITH DOT BELOW"),
  (0x1E47, "aLATIN SMALL LETTER N WITH DOT BELOW;bCAPITAL LETTER N WITH LINE BELOW")]

/-- The lines of names from U+1E49 on. -/
def namesFrom1E49 : List (Nat × String) := [
  (0x1E49, "aLATIN SMALL LETTER N WITH LINE BELOW;bCAPITAL LETTER N WITH CIRCUMFLEX BELOW"),
  (0x1E4B, "aLATIN SMALL LETTER N WITH CIRCUMFLEX BELOW;bCAPITAL LETTER O WITH TILDE AND ACUTE"),
  (0x1E4D, "aLATIN SMALL LETTER O WITH TILDE AND ACUTE;bCAPITAL LETTER O WITH TILDE AND DIAERESIS"),
  (0x1E4F, "aLATIN SMALL LETTER O WITH TILDE AND DIAERESIS"),
  (0x1E50, "aLATIN CAPITAL LETTER O WITH MACRON AND GRAVE;bSMALL LETTER O WITH MACRON AND GRAVE"),
  (0x1E52, "aLATIN CAPITAL LETTER O WITH MACRON AND ACUTE;bSMALL LETTER O WITH MACRON AND ACUTE"),
  (0x1E54, "aLATIN CAPITAL LETTER P WITH ACUTE;bSMALL LETTER P WITH ACUTE"),
  (0x1E56, "aLATIN CAPITAL LETTER P WITH DOT ABOVE;bSMALL LETTER P WITH DOT ABOVE"),
  (0x1E58, "aLATIN CAPITAL LETTER R WITH DOT ABOVE;bSMALL LETTER R WITH DOT ABOVE"),
  (0x1E5A, "aLATIN CAPITAL LETTER R WITH DOT BELOW;bSMALL LETTER R WITH DOT BELOW"),
  (0x1E5C, "aLATIN CAPITAL LETTER R WITH DOT BELOW AND MACRON"),
  (0x1E5D, "aLATIN SMALL LETTER R WITH DOT BELOW AND MACRON;bCAPITAL LETTER R WITH LINE BELOW"),
  (0x1E5F, "aLATIN SMALL LETTER R WITH LINE BELOW;bCAPITAL LETTER S WITH DOT ABOVE"),
  (0x1E61, "aLATIN SMALL LETTER S WITH DOT ABOVE;bCAPITAL LETTER S WITH DOT BELOW"),
  (0x1E63, "aLATIN SMALL LETTER S WITH DOT BELOW;bCAPITAL LETTER S WITH ACUTE AND DOT ABOVE"),
  (0x1E65, "aLATIN SMALL LETTER S WITH ACUTE AND DOT ABOVE"),
  (0x1E66, "aLATIN CAPITAL LETTER S WITH CARON AND DOT ABOVE"),
  (0x1E67, "aLATIN SMALL LETTER S WITH CARON AND DOT ABOVE"),
  (0x1E68, "aLATIN CAPITAL LETTER S WITH DOT BELOW AND DOT ABOVE"),
  (0x1E69, "aLATIN SMALL LETTER S WITH DOT BELOW AND DOT ABOVE;bCAPITAL LETTER T WITH DOT ABOVE"),
  (0x1E6B, "aLATIN SMALL LETTER T WITH DOT ABOVE;bCAPITAL LETTER T WITH DOT BELOW"),
  (0x1E6D, "aLATIN SMALL LETTER T WITH DOT BELOW;bCAPITAL LETTER T WITH LINE BELOW"),
  (0x1E6F, "aLATIN SMALL LETTER T WITH LINE BELOW;bCAPITAL LETTER T WITH CIRCUMFLEX BELOW"),
  (0x1E71, "aLATIN SMALL LETTER T WITH CIRCUMFLEX BELOW;bCAPITAL LETTER U WITH DIAERESIS BELOW"),
  (0x1E73, "aLATIN SMALL LETTER U WITH DIAERESIS BELOW;bCAPITAL LETTER U WITH TILDE BELOW"),
  (0x1E75, "aLATIN SMALL LETTER U WITH TILDE BELOW;bCAPITAL LETTER U WITH CIRCUMFLEX BELOW"),
  (0x1E77, "aLATIN SMALL LETTER U WITH CIRCUMFLEX BELOW;bCAPITAL LETTER U WITH TILDE AND ACUTE"),
  (0x1E79, "aLATIN SMALL LETTER U WITH TILDE AND ACUTE"),
  (0x1E7A, "aLATIN CAPITAL LETTER U WITH MACRON AND DIAERESIS"),
  (0x1E7B, "aLATIN SMALL LETTER U WITH MACRON AND DIAERESIS;bCAPITAL LETTER V WITH TILDE"),
  (0x1E7D, "aLATIN SMALL LETTER V WITH TILDE;bCAPITAL LETTER V WITH DOT BELOW"),
  (0x1E7F, "aLATIN SMALL LETTER V WITH DOT BELOW;bCAPITAL LETTER W WITH GRAVE"),
  (0x1E81, "aLATIN SMALL LETTER W WITH GRAVE;bCAPITAL LETTER W WITH ACUTE"),
  (0x1E83, "aLATIN SMALL LETTER W WITH ACUTE;bCAPITAL LETTER W WITH DIAERESIS"),
  (0x1E85, "aLATIN SMALL LETTER W WITH DIAERESIS;bCAPITAL LETTER W WITH DOT ABOVE"),
  (0x1E87, "aLATIN SMALL LETTER W WITH DOT ABOVE;bCAPITAL LETTER W WITH DOT BELOW"),
  (0x1E89, "aLATIN SMALL LETTER W WITH DOT BELOW;bCAPITAL LETTER X WITH DOT ABOVE"),
  (0x1E8B, "aLATIN SMALL LETTER X WITH DOT ABOVE;bCAPITAL LETTER X WITH DIAERESIS"),
  (0x1E8D, "aLATIN SMALL LETTER X WITH DIAERESIS;bCAPITAL LETTER Y WITH DOT ABOVE"),
  (0x1E8F, "aLATIN SMALL LETTER Y WITH DOT ABOVE;bCAPITAL LETTER Z WITH CIRCUMFLEX"),
  (0x1E91, "aLATIN SMALL LETTER Z WITH CIRCUMFLEX;bCAPITAL LETTER Z WITH DOT BELOW"),
  (0x1E93, "aLATIN SMALL LETTER Z WITH DOT BELOW;bCAPITAL LETTER Z WITH LINE BELOW"),
  (0x1E95, "aLATIN SMALL LETTER Z WITH LINE BELOW;dH WITH LINE BELOW;dT WITH DIAERESIS"),
  (0x1E98, "aLATIN SMALL LETTER W WITH RING ABOVE;dY WITH RING ABOVE;dA WITH RIGHT HALF RING"),
  (0x1E9B, "aLATIN SMALL LETTER LONG S WITH DOT ABOVE;gDIAGONAL STROKE;gHIGH STROKE"),
  (0x1E9E, "aLATIN CAPITAL LETTER SHARP S;bSMALL LETTER DELTA;bCAPITAL LETTER A WITH DOT BELOW"),
  (0x1EA1, "aLATIN SMALL LETTER A WITH DOT BELOW;bCAPITAL LETTER A WITH HOOK ABOVE"),
  (0x1EA3, "aLATIN SMALL LETTER A WITH HOOK ABOVE;bCAPITAL LETTER A WITH CIRCUMFLEX AND ACUTE"),
  (0x1EA5, "aLATIN SMALL LETTER A WITH CIRCUMFLEX AND ACUTE"),
  (0x1EA6, "aLATIN CAPITAL LETTER A WITH CIRCUMFLEX AND GRAVE"),
  (0x1EA7, "aLATIN SMALL LETTER A WITH CIRCUMFLEX AND GRAVE"),
  (0x1EA8, "aLATIN CAPITAL LETTER A WITH CIRCUMFLEX AND HOOK ABOVE"),
  (0x1EA9, "aLATIN SMALL LETTER A WITH CIRCUMFLEX AND HOOK ABOVE"),
  (0x1EAA, "aLATIN CAPITAL LETTER A WITH CIRCUMFLEX AND TILDE"),
  (0x1EAB, "aLATIN SMALL LETTER A WITH CIRCUMFLEX AND TILDE"),
  (0x1EAC, "aLATIN CAPITAL LETTER A WITH CIRCUMFLEX AND DOT BELOW"),
  (0x1EAD, "aLATIN SMALL LETTER A WITH CIRCUMFLEX AND DOT BELOW"),
  (0x1EAE, "aLATIN CAPITAL LETTER A WITH BREVE AND ACUTE;bSMALL LETTER A WITH BREVE AND ACUTE"),
  (0x1EB0, "aLATIN CAPITAL LETTER A WITH BREVE AND GRAVE;bSMALL LETTER A WITH BREVE AND GRAVE"),
  (0x1EB2, "aLATIN CAPITAL LETTER A WITH BREVE AND HOOK ABOVE"),
  (0x1EB3, "aLATIN SMALL LETTER A WITH BREVE AND HOOK ABOVE"),
  (0x1EB4, "aLATIN CAPITAL LETTER A WITH BREVE AND TILDE;bSMALL LETTER A WITH BREVE AND TILDE"),
  (0x1EB6, "aLATIN CAPITAL LETTER A WITH BREVE AND DOT BELOW"),
  (0x1EB7, "aLATIN SMALL LETTER A WITH BREVE AND DOT BELOW;bCAPITAL LETTER E WITH DOT BELOW"),
  (0x1EB9, "aLATIN SMALL LETTER E WITH DOT BELOW;bCAPITAL LETTER E WITH HOOK ABOVE"),
  (0x1EBB, "aLATIN SMALL LETTER E WITH HOOK ABOVE;bCAPITAL LETTER E WITH TILDE"),
  (0x1EBD, "aLATIN SMALL LETTER E WITH TILDE;bCAPITAL LETTER E WITH CIRCUMFLEX AND ACUTE"),
  (0x1EBF, "aLATIN SMALL LETTER E WITH CIRCUMFLEX AND ACUTE"),
  (0x1EC0, "aLATIN CAPITAL LETTER E WITH CIRCUMFLEX AND GRAVE"),
  (0x1EC1, "aLATIN SMALL LETTER E WITH CIRCUMFLEX AND GRAVE"),
  (0x1EC2, "aLATIN CAPITAL LETTER E WITH CIRCUMFLEX AND HOOK ABOVE"),
  (0x1EC3, "aLATIN SMALL LETTER E WITH CIRCUMFLEX AND HOOK ABOVE"),
  (0x1EC4, "aLATIN CAPITAL LETTER E WITH CIRCUMFLEX AND TILDE"),
  (0x1EC5, "aLATIN SMALL LETTER E WITH CIRCUMFLEX AND TILDE"),
  (0x1EC6, "aLATIN CAPITAL LETTER E WITH CIRCUMFLEX AND DOT BELOW"),
  (0x1EC7, "aLATIN SMALL LETTER E WITH CIRCUMFLEX AND DOT BELOW;bCAPITAL LETTER I WITH HOOK ABOVE"),
  (0x1EC9, "aLATIN SMALL LETTER I WITH HOOK ABOVE;bCAPITAL LETTER I WITH DOT BELOW"),
  (0x1ECB, "aLATIN SMALL LETTER I WITH DOT BELOW;bCAPITAL LETTER O WITH DOT BELOW"),
  (0x1ECD, "aLATIN SMALL LETTER O WITH DOT BELOW;bCAPITAL LETTER O WITH HOOK ABOVE"),
  (0x1ECF, "aLATIN SMALL LETTER O WITH HOOK ABOVE;bCAPITAL LETTER O WITH CIRCUMFLEX AND ACUTE"),
  (0x1ED1, "aLATIN SMALL LETTER O WITH CIRCUMFLEX AND ACUTE"),
  (0x1ED2, "aLATIN CAPITAL LETTER O WITH CIRCUMFLEX AND GRAVE"),
  (0x1ED3, "aLATIN SMALL LETTER O WITH CIRCUMFLEX AND GRAVE"),
  (0x1ED4, "aLATIN CAPITAL LETTER O WITH CIRCUMFLEX AND HOOK ABOVE"),
  (0x1ED5, "aLATIN SMALL LETTER O WITH CIRCUMFLEX AND HOOK ABOVE"),
  (0x1ED6, "aLATIN CAPITAL LETTER O WITH CIRCUMFLEX AND TILDE"),
  (0x1ED7, "aLATIN SMALL LETTER O WITH CIRCUMFLEX AND TILDE"),
  (0x1ED8, "aLATIN CAPITAL LETTER O WITH CIRCUMFLEX AND DOT BELOW"),
  (0x1ED9, "aLATIN SMALL LETTER O WITH CIRCUMFLEX AND DOT BELOW"),
  (0x1EDA, "aLATIN CAPITAL LETTER O WITH HORN AND ACUTE;bSMALL LETTER O WITH HORN AND ACUTE"),
  (0x1EDC, "aLATIN CAPITAL LETTER O WITH HORN AND GRAVE;bSMALL LETTER O WITH HORN AND GRAVE"),
  (0x1EDE, "aLATIN CAPITAL LETTER O WITH HORN AND HOOK ABOVE"),
  (0x1EDF, "aLATIN SMALL LETTER O WITH HORN AND HOOK ABOVE;bCAPITAL LETTER O WITH HORN AND TILDE"),
  (0x1EE1, "aLATIN SMALL LETTER O WITH HORN AND TILDE;bCAPITAL LETTER O WITH HORN AND DOT BELOW"),
  (0x1EE3, "aLATIN SMALL LETTER O WITH HORN AND DOT BELOW;bCAPITAL LETTER U WITH DOT BELOW"),
  (0x1EE5, "aLATIN SMALL LETTER U WITH DOT BELOW;bCAPITAL LETTER U WITH HOOK ABOVE"),
  (0x1EE7, "aLATIN SMALL LETTER U WITH HOOK ABOVE;bCAPITAL LETTER U WITH HORN AND ACUTE"),
  (0x1EE9, "aLATIN SMALL LETTER U WITH HORN AND ACUTE;bCAPITAL LETTER U WITH HORN AND GRAVE"),
  (0x1EEB, "aLATIN SMALL LETTER U WITH HORN AND GRAVE;bCAPITAL LETTER U WITH HORN AND HOOK ABOVE"),
  (0x1EED, "aLATIN SMALL LETTER U WITH HORN AND HOOK ABOVE;bCAPITAL LETTER U WITH HORN AND TILDE"),
  (0x1EEF, "aLATIN SMALL LETTER U WITH HORN AND TILDE;bCAPITAL LETTER U WITH HORN AND DOT BELOW"),
  (0x1EF1, "aLATIN SMALL LETTER U WITH HORN AND DOT BELOW;bCAPITAL LETTER Y WITH GRAVE"),
  (0x1EF3, "aLATIN SMALL LETTER Y WITH GRAVE;bCAPITAL LETTER Y WITH DOT BELOW"),
  (0x1EF5, "aLATIN SMALL LETTER Y WITH DOT BELOW;bCAPITAL LETTER Y WITH HOOK ABOVE"),
  (0x1EF7, "aLATIN SMALL LETTER Y WITH HOOK ABOVE;bCAPITAL LETTER Y WITH TILDE"),
  (0x1EF9, "aLATIN SMALL LETTER Y WITH TILDE;bCAPITAL LETTER MIDDLE-WELSH LL"),
  (0x1EFB, "aLATIN SMALL LETTER MIDDLE-WELSH LL;bCAPITAL LETTER MIDDLE-WELSH V"),
  (0x1EFD, "aLATIN SMALL LETTER MIDDLE-WELSH V;bCAPITAL LETTER Y WITH LOOP"),
  (0x1EFF, "aLATIN SMALL LETTER Y WITH LOOP;aGREEK SMALL LETTER ALPHA WITH PSILI;fDASIA"),
  (0x1F02, "aGREEK SMALL LETTER ALPHA WITH PSILI AND VARIA;fDASIA AND VARIA;fPSILI AND OXIA"),
  (0x1F05, "aGREEK SMALL LETTER ALPHA WITH DASIA AND OXIA;fPSILI AND PERISPOMENI"),
  (0x1F07, "aGREEK SMALL LETTER ALPHA WITH DASIA AND PERISPOMENI;bCAPITAL LETTER ALPHA WITH PSILI"),
  (0x1F09, "aGREEK CAPITAL LETTER ALPHA WITH DASIA;fPSILI AND VARIA;fDASIA AND VARIA"),
  (0x1F0C, "aGREEK CAPITAL LETTER ALPHA WITH PSILI AND OXIA;fDASIA AND OXIA"),
  (0x1F0E, "aGREEK CAPITAL LETTER ALPHA WITH PSILI AND PERISPOMENI;fDASIA AND PERISPOMENI"),
  (0x1F10, "aGREEK SMALL LETTER EPSILON WITH PSILI;fDASIA;fPSILI AND VARIA;fDASIA AND VARIA"),
  (0x1F14, "aGREEK SMALL LETTER EPSILON WITH PSILI AND OXIA;fDASIA AND OXIA"),
  (0x1F18, "aGREEK CAPITAL LETTER EPSILON WITH PSILI;fDASIA;fPSILI AND VARIA;fDASIA AND VARIA"),
  (0x1F1C, "aGREEK CAPITAL LETTER EPSILON WITH PSILI AND OXIA;fDASIA AND OXIA"),
  (0x1F20, "aGREEK SMALL LETTER ETA WITH PSILI;fDASIA;fPSILI AND VARIA;fDASIA AND VARIA"),
  (0x1F24, "aGREEK SMALL LETTER ETA WITH PSILI AND OXIA;fDASIA AND OXIA;fPSILI AND PERISPOMENI"),
  (0x1F27, "aGREEK SMALL LETTER ETA WITH DASIA AND PERISPOMENI;bCAPITAL LETTER ETA WITH PSILI"),
  (0x1F29, "aGREEK CAPITAL LETTER ETA WITH DASIA;fPSILI AND VARIA;fDASIA AND VARIA"),
  (0x1F2C, "aGREEK CAPITAL LETTER ETA WITH PSILI AND OXIA;fDASIA AND OXIA;fPSILI AND PERISPOMENI"),
  (0x1F2F, "aGREEK CAPITAL LETTER ETA WITH DASIA AND PERISPOMENI;bSMALL LETTER IOTA WITH PSILI"),
  (0x1F31, "aGREEK SMALL LETTER IOTA WITH DASIA;fPSILI AND VARIA;fDASIA AND VARIA;fPSILI AND OXIA"),
  (0x1F35, "aGREEK SMALL LETTER IOTA WITH DASIA AND OXIA;fPSILI AND PERISPOMENI"),
  (0x1F37, "aGREEK SMALL LETTER IOTA WITH DASIA AND PERISPOMENI;bCAPITAL LETTER IOTA WITH PSILI"),
  (0x1F39, "aGREEK CAPITAL LETTER IOTA WITH DASIA;fPSILI AND VARIA;fDASIA AND VARIA"),
  (0x1F3C, "aGREEK CAPITAL LETTER IOTA WITH PSILI AND OXIA;fDASIA AND OXIA;fPSILI AND PERISPOMENI"),
  (0x1F3F, "aGREEK CAPITAL LETTER IOTA WITH DASIA AND PERISPOMENI"),
  (0x1F40, "aGREEK SMALL LETTER OMICRON WITH PSILI;fDASIA;fPSILI AND VARIA;fDASIA AND VARIA"),
  (0x1F44, "aGREEK SMALL LETTER OMICRON WITH PSILI AND OXIA;fDASIA AND OXIA"),
  (0x1F48, "aGREEK CAPITAL LETTER OMICRON WITH PSILI;fDASIA;fPSILI AND VARIA;fDASIA AND VARIA"),
  (0x1F4C, "aGREEK CAPITAL LETTER OMICRON WITH PSILI AND OXIA;fDASIA AND OXIA"),
  (0x1F50, "aGREEK SMALL LETTER UPSILON WITH PSILI;fDASIA;fPSILI AND VARIA;fDASIA AND VARIA"),
  (0x1F54, "aGREEK SMALL LETTER UPSILON WITH PSILI AND OXIA;fDASIA AND OXIA"),
  (0x1F56, "aGREEK SMALL LETTER UPSILON WITH PSILI AND PERISPOMENI;fDASIA AND PERISPOMENI"),
  (0x1F59, "aGREEK CAPITAL LETTER UPSILON WITH DASIA"),
  (0x1F5B, "aGREEK CAPITAL LETTER UPSILON WITH DASIA AND VARIA"),
  (0x1F5D, "aGREEK CAPITAL LETTER UPSILON WITH DASIA AND OXIA"),
  (0x1F5F, "aGREEK CAPITAL LETTER UPSILON WITH DASIA AND PERISPOMENI"),
  (0x1F60, "aGREEK SMALL LETTER OMEGA WITH PSILI;fDASIA;fPSILI AND VARIA;fDASIA AND VARIA"),
  (0x1F64, "aGREEK SMALL LETTER OMEGA WITH PSILI AND OXIA;fDASIA AND OXIA;fPSILI AND PERISPOMENI"),
  (0x1F67, "aGREEK SMALL LETTER OMEGA WITH DASIA AND PERISPOMENI;bCAPITAL LETTER OMEGA WITH PSILI"),
  (0x1F69, "aGREEK CAPITAL LETTER OMEGA WITH DASIA;fPSILI AND VARIA;fDASIA AND VARIA"),
  (0x1F6C, "aGREEK CAPITAL LETTER OMEGA WITH PSILI AND OXIA;fDASIA AND OXIA"),
  (0x1F6E, "aGREEK CAPITAL LETTER OMEGA WITH PSILI AND PERISPOMENI;fDASIA AND PERISPOMENI"),
  (0x1F70, "aGREEK SMALL LETTER ALPHA WITH VARIA;fOXIA;dEPSILON WITH VARIA;fOXIA;dETA WITH VARIA"),
  (0x1F75, "aGREEK SMALL LETTER ETA WITH OXIA;dIOTA WITH VARIA;fOXIA;dOMICRON WITH VARIA;fOXIA"),
  (0x1F7A, "aGREEK SMALL LETTER UPSILON WITH VARIA;fOXIA;dOMEGA WITH VARIA;fOXIA"),
  (0x1F80, "aGREEK SMALL LETTER ALPHA WITH PSILI AND YPOGEGRAMMENI;fDASIA AND YPOGEGRAMMENI"),
  (0x1F82, "aGREEK SMALL LETTER ALPHA WITH PSILI AND VARIA AND YPOGEGRAMMENI"),
  (0x1F83, "aGREEK SMALL LETTER ALPHA WITH DASIA AND VARIA AND YPOGEGRAMMENI"),
  (0x1F84, "aGREEK SMALL LETTER ALPHA WITH PSILI AND OXIA AND YPOGEGRAMMENI"),
  (0x1F85, "aGREEK SMALL LETTER ALPHA WITH DASIA AND OXIA AND YPOGEGRAMMENI"),
  (0x1F86, "aGREEK SMALL LETTER ALPHA WITH PSILI AND PERISPOMENI AND YPOGEGRAMMENI"),
  (0x1F87, "aGREEK SMALL LETTER ALPHA WITH DASIA AND PERISPOMENI AND YPOGEGRAMMENI"),
  (0x1F88, "aGREEK CAPITAL LETTER ALPHA WITH PSILI AND PROSGEGRAMMENI;fDASIA AND PROSGEGRAMMENI"),
  (0x1F8A, "aGREEK CAPITAL LETTER ALPHA WITH PSILI AND VARIA AND PROSGEGRAMMENI"),
  (0x1F8B, "aGREEK CAPITAL LETTER ALPHA WITH DASIA AND VARIA AND PROSGEGRAMMENI"),
  (0x1F8C, "aGREEK CAPITAL LETTER ALPHA WITH PSILI AND OXIA AND PROSGEGRAMMENI"),
  (0x1F8D, "aGREEK CAPITAL LETTER ALPHA WITH DASIA AND OXIA AND PROSGEGRAMMENI"),
  (0x1F8E, "aGREEK CAPITAL LETTER ALPHA WITH PSILI AND PERISPOMENI AND PROSGEGRAMMENI"),
  (0x1F8F, "aGREEK CAPITAL LETTER ALPHA WITH DASIA AND PERISPOMENI AND PROSGEGRAMMENI"),
  (0x1F90, "aGREEK SMALL LETTER ETA WITH PSILI AND YPOGEGRAMMENI;fDASIA AND YPOGEGRAMMENI"),
  (0x1F92, "aGREEK SMALL LETTER ETA WITH PSILI AND VARIA AND YPOGEGRAMMENI"),
  (0x1F93, "aGREEK SMALL LETTER ETA WITH DASIA AND VARIA AND YPOGEGRAMMENI"),
  (0x1F94, "aGREEK SMALL LETTER ETA WITH PSILI AND OXIA AND YPOGEGRAMMENI"),
  (0x1F95, "aGREEK SMALL LETTER ETA WITH DASIA AND OXIA AND YPOGEGRAMMENI"),
  (0x1F96, "aGREEK SMALL LETTER ETA WITH PSILI AND PERISPOMENI AND YPOGEGRAMMENI"),
  (0x1F97, "aGREEK SMALL LETTER ETA WITH DASIA AND PERISPOMENI AND YPOGEGRAMMENI"),
  (0x1F98, "aGREEK CAPITAL LETTER ETA WITH PSILI AND PROSGEGRAMMENI;fDASIA AND PROSGEGRAMMENI"),
  (0x1F9A, "aGREEK CAPITAL LETTER ETA WITH PSILI AND VARIA AND PROSGEGRAMMENI"),
  (0x1F9B, "aGREEK CAPITAL LETTER ETA WITH DASIA AND VARIA AND PROSGEGRAMMENI"),
  (0x1F9C, "aGREEK CAPITAL LETTER ETA WITH PSILI AND OXIA AND PROSGEGRAMMENI"),
  (0x1F9D, "aGREEK CAPITAL LETTER ETA WITH DASIA AND OXIA AND PROSGEGRAMMENI"),
  (0x1F9E, "aGREEK CAPITAL LETTER ETA WITH PSILI AND PERISPOMENI AND PROSGEGRAMMENI"),
  (0x1F9F, "aGREEK CAPITAL LETTER ETA WITH DASIA AND PERISPOMENI AND PROSGEGRAMMENI"),
  (0x1FA0, "aGREEK SMALL LETTER OMEGA WITH PSILI AND YPOGEGRAMMENI;fDASIA AND YPOGEGRAMMENI"),
  (0x1FA2, "aGREEK SMALL LETTER OMEGA WITH PSILI AND VARIA AND YPOGEGRAMMENI"),
  (0x1FA3, "aGREEK SMALL LETTER OMEGA WITH DASIA AND VARIA AND YPOGEGRAMMENI"),
  (0x1FA4, "aGREEK SMALL LETTER OMEGA WITH PSILI AND OXIA AND YPOGEGRAMMENI"),
  (0x1FA5, "aGREEK SMALL LETTER OMEGA WITH DASIA AND OXIA AND YPOGEGRAMMENI"),
  (0x1FA6, "aGREEK SMALL LETTER OMEGA WITH PSILI AND PERISPOMENI AND YPOGEGRAMMENI"),
  (0x1FA7, "aGREEK SMALL LETTER OMEGA WITH DASIA AND PERISPOMENI AND YPOGEGRAMMENI"),
  (0x1FA8, "aGREEK CAPITAL LETTER OMEGA WITH PSILI AND PROSGEGRAMMENI;fDASIA AND PROSGEGRAMMENI"),
  (0x1FAA, "aGREEK CAPITAL LETTER OMEGA WITH PSILI AND VARIA AND PROSGEGRAMMENI"),
  (0x1FAB, "aGREEK CAPITAL LETTER OMEGA WITH DASIA AND VARIA AND PROSGEGRAMMENI"),
  (0x1FAC, "aGREEK CAPITAL LETTER OMEGA WITH PSILI AND OXIA AND PROSGEGRAMMENI"),
  (0x1FAD, "aGREEK CAPITAL LETTER OMEGA WITH DASIA AND OXIA AND PROSGEGRAMMENI"),
  (0x1FAE, "aGREEK CAPITAL LETTER OMEGA WITH PSILI AND PERISPOMENI AND PROSGEGRAMMENI"),
  (0x1FAF, "aGREEK CAPITAL LETTER OMEGA WITH DASIA AND PERISPOMENI AND PROSGEGRAMMENI"),
  (0x1FB0, "aGREEK SMALL LETTER ALPHA WITH VRACHY;fMACRON;fVARIA AND YPOGEGRAMMENI;fYPOGEGRAMMENI"),
  (0x1FB4, "aGREEK SMALL LETTER ALPHA WITH OXIA AND YPOGEGRAMMENI"),
  (0x1FB6, "aGREEK SMALL LETTER ALPHA WITH PERISPOMENI;gAND YPOGEGRAMMENI"),
  (0x1FB8, "aGREEK CAPITAL LETTER ALPHA WITH VRACHY;fMACRON;fVARIA;fOXIA;fPROSGEGRAMMENI;bKORONIS"),
  (0x1FBE, "aGREEK PROSGEGRAMMENI;bPSILI;bPERISPOMENI;bDIALYTIKA AND PERISPOMENI"),
  (0x1FC2, "aGREEK SMALL LETTER ETA WITH VARIA AND YPOGEGRAMMENI;fYPOGEGRAMMENI"),
  (0x1FC4, "aGREEK SMALL LETTER ETA WITH OXIA AND YPOGEGRAMMENI"),
  (0x1FC6, "aGREEK SMALL LETTER ETA WITH PERISPOMENI;gAND YPOGEGRAMMENI"),
  (0x1FC8, "aGREEK CAPITAL LETTER EPSILON WITH VARIA;fOXIA;dETA WITH VARIA;fOXIA;fPROSGEGRAMMENI"),
  (0x1FCD, "aGREEK PSILI AND VARIA;dOXIA;dPERISPOMENI;bSMALL LETTER IOTA WITH VRACHY;fMACRON"),
  (0x1FD2, "aGREEK SMALL LETTER IOTA WITH DIALYTIKA AND VARIA;hOXIA"),
  (0x1FD6, "aGREEK SMALL LETTER IOTA WITH PERISPOMENI;fDIALYTIKA AND PERISPOMENI"),
  (0x1FD8, "aGREEK CAPITAL LETTER IOTA WITH VRACHY;fMACRON;fVARIA;fOXIA"),
  (0x1FDD, "aGREEK DASIA AND VARIA;dOXIA;dPERISPOMENI;bSMALL LETTER UPSILON WITH VRACHY;fMACRON"),
  (0x1FE2, "aGREEK SMALL LETTER UPSILON WITH DIALYTIKA AND VARIA;hOXIA;dRHO WITH PSILI;fDASIA"),
  (0x1FE6, "aGREEK SMALL LETTER UPSILON WITH PERISPOMENI;fDIALYTIKA AND PERISPOMENI"),
  (0x1FE8, "aGREEK CAPITAL LETTER UPSILON WITH VRACHY;fMACRON;fVARIA;fOXIA;dRHO WITH DASIA"),
  (0x1FED, "aGREEK DIALYTIKA AND VARIA;dOXIA;bVARIA"),
  (0x1FF2, "aGREEK SMALL LETTER OMEGA WITH VARIA AND YPOGEGRAMMENI;fYPOGEGRAMMENI"),
  (0x1FF4, "aGREEK SMALL LETTER OMEGA WITH OXIA AND YPOGEGRAMMENI"),
  (0x1FF6, "aGREEK SMALL LETTER OMEGA WITH PERISPOMENI;gAND YPOGEGRAMMENI"),
  (0x1FF8, "aGREEK CAPITAL LETTER OMICRON WITH VARIA;fOXIA;dOMEGA WITH VARIA;fOXIA"),
  (0x1FFC, "aGREEK CAPITAL LETTER OMEGA WITH PROSGEGRAMMENI;bOXIA;bDASIA"),
  (0x2000, "aEN QUAD;aEM QUAD;aEN SPACE;aEM SPACE;aTHREE-PER-EM SPACE;aFOUR-PER-EM SPACE"),
  (0x2006, "aSIX-PER-EM SPACE;aFIGURE SPACE;aPUNCTUATION SPACE;aTHIN SPACE;aHAIR SPACE"),
  (0x200B, "aZERO WIDTH SPACE;cNON-JOINER;cJOINER;aLEFT-TO-RIGHT MARK;aRIGHT-TO-LEFT MARK;aHYPHEN"),
  (0x2011, "aNON-BREAKING HYPHEN;aFIGURE DASH;aEN DASH;aEM DASH;aHORIZONTAL BAR")]

/-- The lines of names from U+2016 on. -/
def namesFrom2016 : List (Nat × String) := [
  (0x2016, "aDOUBLE VERTICAL LINE;bLOW LINE;aLEFT SINGLE QUOTATION MARK"),
  (0x2019, "aRIGHT SINGLE QUOTATION MARK;aSINGLE LOW-9 QUOTATION MARK"),
  (0x201B, "aSINGLE HIGH-REVERSED-9 QUOTATION MARK;aLEFT DOUBLE QUOTATION MARK"),
  (0x201D, "aRIGHT DOUBLE QUOTATION MARK;aDOUBLE LOW-9 QUOTATION MARK"),
  (0x201F, "aDOUBLE HIGH-REVERSED-9 QUOTATION MARK;aDAGGER;aDOUBLE DAGGER;aBULLET"),
  (0x2023, "aTRIANGULAR BULLET;aONE DOT LEADER;aTWO DOT LEADER;aHORIZONTAL ELLIPSIS"),
  (0x2027, "aHYPHENATION POINT;aLINE SEPARATOR;aPARAGRAPH SEPARATOR;aLEFT-TO-RIGHT EMBEDDING"),
  (0x202B, "aRIGHT-TO-LEFT EMBEDDING;aPOP DIRECTIONAL FORMATTING;aLEFT-TO-RIGHT OVERRIDE"),
  (0x202E, "aRIGHT-TO-LEFT OVERRIDE;aNARROW NO-BREAK SPACE;aPER MILLE SIGN;bTEN THOUSAND SIGN"),
  (0x2032, "aPRIME;aDOUBLE PRIME;aTRIPLE PRIME;aREVERSED PRIME;bDOUBLE PRIME;bTRIPLE PRIME;aCARET"),
  (0x2039, "aSINGLE LEFT-POINTING ANGLE QUOTATION MARK;bRIGHT-POINTING ANGLE QUOTATION MARK"),
  (0x203B, "aREFERENCE MARK;aDOUBLE EXCLAMATION MARK;aINTERROBANG;aOVERLINE;aUNDERTIE"),
  (0x2040, "aCHARACTER TIE;aCARET INSERTION POINT;aASTERISM;aHYPHEN BULLET;aFRACTION SLASH"),
  (0x2045, "aLEFT SQUARE BRACKET WITH QUILL;aRIGHT SQUARE BRACKET WITH QUILL"),
  (0x2047, "aDOUBLE QUESTION MARK;aQUESTION EXCLAMATION MARK;aEXCLAMATION QUESTION MARK"),
  (0x204A, "aTIRONIAN SIGN ET;aREVERSED PILCROW SIGN;aBLACK LEFTWARDS BULLET;bRIGHTWARDS BULLET"),
  (0x204E, "aLOW ASTERISK;aREVERSED SEMICOLON;aCLOSE UP;aTWO ASTERISKS ALIGNED VERTICALLY"),
  (0x2052, "aCOMMERCIAL MINUS SIGN;aSWUNG DASH;aINVERTED UNDERTIE;aFLOWER PUNCTUATION MARK"),
  (0x2056, "aTHREE DOT PUNCTUATION;aQUADRUPLE PRIME;aFOUR DOT PUNCTUATION;aFIVE DOT PUNCTUATION"),
  (0x205A, "aTWO DOT PUNCTUATION;aFOUR DOT MARK;aDOTTED CROSS;aTRICOLON;aVERTICAL FOUR DOTS"),
  (0x205F, "aMEDIUM MATHEMATICAL SPACE;aWORD JOINER;aFUNCTION APPLICATION;aINVISIBLE TIMES"),
  (0x2063, "aINVISIBLE SEPARATOR;bPLUS"),
  (0x2066, "aLEFT-TO-RIGHT ISOLATE;aRIGHT-TO-LEFT ISOLATE;aFIRST STRONG ISOLATE"),
  (0x2069, "aPOP DIRECTIONAL ISOLATE;aINHIBIT SYMMETRIC SWAPPING;aACTIVATE SYMMETRIC SWAPPING"),
  (0x206C, "aINHIBIT ARABIC FORM SHAPING;aACTIVATE ARABIC FORM SHAPING;aNATIONAL DIGIT SHAPES"),
  (0x206F, "aNOMINAL DIGIT SHAPES;aSUPERSCRIPT ZERO;bLATIN SMALL LETTER I"),
  (0x2074, "aSUPERSCRIPT FOUR;bFIVE;bSIX;bSEVEN;bEIGHT;bNINE;bPLUS SIGN;bMINUS;bEQUALS SIGN"),
  (0x207D, "aSUPERSCRIPT LEFT PARENTHESIS;bRIGHT PARENTHESIS;bLATIN SMALL LETTER N"),
  (0x2080, "aSUBSCRIPT ZERO;bONE;bTWO;bTHREE;bFOUR;bFIVE;bSIX;bSEVEN;bEIGHT;bNINE;bPLUS SIGN"),
  (0x208B, "aSUBSCRIPT MINUS;bEQUALS SIGN;bLEFT PARENTHESIS;bRIGHT PARENTHESIS"),
  (0x2090, "aLATIN SUBSCRIPT SMALL LETTER A;eE;eO;eX;eSCHWA;eH;eK;eL;eM;eN;eP;eS;eT"),
  (0x20A0, "aEURO-CURRENCY SIGN;aCOLON SIGN;aCRUZEIRO SIGN;aFRENCH FRANC SIGN;aLIRA SIGN"),
  (0x20A5, "aMILL SIGN;aNAIRA SIGN;aPESETA SIGN;aRUPEE SIGN;aWON SIGN;aNEW SHEQEL SIGN;aDONG SIGN"),
  (0x20AC, "aEURO SIGN;aKIP SIGN;aTUGRIK SIGN;aDRACHMA SIGN;aGERMAN PENNY SIGN;aPESO SIGN"),
  (0x20B2, "aGUARANI SIGN;aAUSTRAL SIGN;aHRYVNIA SIGN;aCEDI SIGN;aLIVRE TOURNOIS SIGN"),
  (0x20B7, "aSPESMILO SIGN;aTENGE SIGN;aINDIAN RUPEE SIGN;aTURKISH LIRA SIGN;aNORDIC MARK SIGN"),
  (0x20BC, "aMANAT SIGN;aRUBLE SIGN;aLARI SIGN;aBITCOIN SIGN;aSOM SIGN"),
  (0x20D0, "aCOMBINING LEFT HARPOON ABOVE;bRIGHT HARPOON ABOVE;bLONG VERTICAL LINE OVERLAY"),
  (0x20D3, "aCOMBINING SHORT VERTICAL LINE OVERLAY;bANTICLOCKWISE ARROW ABOVE"),
  (0x20D5, "aCOMBINING CLOCKWISE ARROW ABOVE;bLEFT ARROW ABOVE;bRIGHT ARROW ABOVE;bRING OVERLAY"),
  (0x20D9, "aCOMBINING CLOCKWISE RING OVERLAY;bANTICLOCKWISE RING OVERLAY;bTHREE DOTS ABOVE"),
  (0x20DC, "aCOMBINING FOUR DOTS ABOVE;bENCLOSING CIRCLE;cSQUARE;cDIAMOND;cCIRCLE BACKSLASH"),
  (0x20E1, "aCOMBINING LEFT RIGHT ARROW ABOVE;bENCLOSING SCREEN;cKEYCAP;cUPWARD POINTING TRIANGLE"),
  (0x20E5, "aCOMBINING REVERSE SOLIDUS OVERLAY;bDOUBLE VERTICAL STROKE OVERLAY;bANNUITY SYMBOL"),
  (0x20E8, "aCOMBINING TRIPLE UNDERDOT;bWIDE BRIDGE ABOVE;bLEFTWARDS ARROW OVERLAY"),
  (0x20EB, "aCOMBINING LONG DOUBLE SOLIDUS OVERLAY;bRIGHTWARDS HARPOON WITH BARB DOWNWARDS"),
  (0x20ED, "aCOMBINING LEFTWARDS HARPOON WITH BARB DOWNWARDS;bLEFT ARROW BELOW;bRIGHT ARROW BELOW"),
  (0x20F0, "aCOMBINING ASTERISK ABOVE"),
  (0x2100, "aACCOUNT OF;aADDRESSED TO THE SUBJECT;aDOUBLE-STRUCK CAPITAL C;aDEGREE CELSIUS"),
  (0x2104, "aCENTRE LINE SYMBOL;aCARE OF;aCADA UNA;aEULER CONSTANT;aSCRUPLE;aDEGREE FAHRENHEIT"),
  (0x210A, "aSCRIPT SMALL G;bCAPITAL H;aBLACK-LETTER CAPITAL H;aDOUBLE-STRUCK CAPITAL H"),
  (0x210E, "aPLANCK CONSTANT;cOVER TWO PI;aSCRIPT CAPITAL I;aBLACK-LETTER CAPITAL I"),
  (0x2112, "aSCRIPT CAPITAL L;bSMALL L;aL B BAR SYMBOL;aDOUBLE-STRUCK CAPITAL N;aNUMERO SIGN"),
  (0x2117, "aSOUND RECORDING COPYRIGHT;aSCRIPT CAPITAL P;aDOUBLE-STRUCK CAPITAL P;cQ"),
  (0x211B, "aSCRIPT CAPITAL R;aBLACK-LETTER CAPITAL R;aDOUBLE-STRUCK CAPITAL R;aPRESCRIPTION TAKE"),
  (0x211F, "aRESPONSE;aSERVICE MARK;aTELEPHONE SIGN;aTRADE MARK SIGN;aVERSICLE"),
  (0x2124, "aDOUBLE-STRUCK CAPITAL Z;aOUNCE SIGN;aOHM SIGN;aINVERTED OHM SIGN"),
  (0x2128, "aBLACK-LETTER CAPITAL Z;aTURNED GREEK SMALL LETTER IOTA;aKELVIN SIGN;aANGSTROM SIGN"),
  (0x212C, "aSCRIPT CAPITAL B;aBLACK-LETTER CAPITAL C;aESTIMATED SYMBOL;aSCRIPT SMALL E"),
  (0x2130, "aSCRIPT CAPITAL E;cF;aTURNED CAPITAL F;aSCRIPT CAPITAL M;bSMALL O;aALEF SYMBOL"),
  (0x2136, "aBET SYMBOL;aGIMEL SYMBOL;aDALET SYMBOL;aINFORMATION SOURCE;aROTATED CAPITAL Q"),
  (0x213B, "aFACSIMILE SIGN;aDOUBLE-STRUCK SMALL PI;cGAMMA;bCAPITAL GAMMA;cPI;bN-ARY SUMMATION"),
  (0x2141, "aTURNED SANS-SERIF CAPITAL G;dL;aREVERSED SANS-SERIF CAPITAL L"),
  (0x2144, "aTURNED SANS-SERIF CAPITAL Y;aDOUBLE-STRUCK ITALIC CAPITAL D;cSMALL D;dE;dI;dJ"),
  (0x214A, "aPROPERTY LINE;aTURNED AMPERSAND;aPER SIGN;aAKTIESELSKAB;aTURNED SMALL F"),
  (0x214F, "aSYMBOL FOR SAMARITAN SOURCE;aVULGAR FRACTION ONE SEVENTH;dNINTH;dTENTH;dTHIRD"),
  (0x2154, "aVULGAR FRACTION TWO THIRDS;cONE FIFTH;cTWO FIFTHS;cTHREE FIFTHS;cFOUR FIFTHS"),
  (0x2159, "aVULGAR FRACTION ONE SIXTH;cFIVE SIXTHS;cONE EIGHTH;cTHREE EIGHTHS;cFIVE EIGHTHS"),
  (0x215E, "aVULGAR FRACTION SEVEN EIGHTHS;aFRACTION NUMERATOR ONE;aROMAN NUMERAL ONE;cTWO;cTHREE"),
  (0x2163, "aROMAN NUMERAL FOUR;cFIVE;cSIX;cSEVEN;cEIGHT;cNINE;cTEN;cELEVEN;cTWELVE;cFIFTY"),
  (0x216D, "aROMAN NUMERAL ONE HUNDRED;cFIVE HUNDRED;cONE THOUSAND;aSMALL ROMAN NUMERAL ONE;dTWO"),
  (0x2172, "aSMALL ROMAN NUMERAL THREE;dFOUR;dFIVE;dSIX;dSEVEN;dEIGHT;dNINE;dTEN;dELEVEN;dTWELVE"),
  (0x217C, "aSMALL ROMAN NUMERAL FIFTY;dONE HUNDRED;dFIVE HUNDRED;dONE THOUSAND"),
  (0x2180, "aROMAN NUMERAL ONE THOUSAND C D;cFIVE THOUSAND;cTEN THOUSAND;cREVERSED ONE HUNDRED"),
  (0x2184, "aLATIN SMALL LETTER REVERSED C;aROMAN NUMERAL SIX LATE FORM;cFIFTY EARLY FORM"),
  (0x2187, "aROMAN NUMERAL FIFTY THOUSAND;cONE HUNDRED THOUSAND;aVULGAR FRACTION ZERO THIRDS"),
  (0x218A, "aTURNED DIGIT TWO;cTHREE"),
  (0x2190, "aLEFTWARDS ARROW;aUPWARDS ARROW;aRIGHTWARDS ARROW;aDOWNWARDS ARROW;aLEFT RIGHT ARROW"),
  (0x2195, "aUP DOWN ARROW;aNORTH WEST ARROW;bEAST ARROW;aSOUTH EAST ARROW;bWEST ARROW"),
  (0x219A, "aLEFTWARDS ARROW WITH STROKE;aRIGHTWARDS ARROW WITH STROKE;aLEFTWARDS WAVE ARROW"),
  (0x219D, "aRIGHTWARDS WAVE ARROW;aLEFTWARDS TWO HEADED ARROW;aUPWARDS TWO HEADED ARROW"),
  (0x21A0, "aRIGHTWARDS TWO HEADED ARROW;aDOWNWARDS TWO HEADED ARROW;aLEFTWARDS ARROW WITH TAIL"),
  (0x21A3, "aRIGHTWARDS ARROW WITH TAIL;aLEFTWARDS ARROW FROM BAR;aUPWARDS ARROW FROM BAR"),
  (0x21A6, "aRIGHTWARDS ARROW FROM BAR;aDOWNWARDS ARROW FROM BAR;aUP DOWN ARROW WITH BASE"),
  (0x21A9, "aLEFTWARDS ARROW WITH HOOK;aRIGHTWARDS ARROW WITH HOOK;aLEFTWARDS ARROW WITH LOOP"),
  (0x21AC, "aRIGHTWARDS ARROW WITH LOOP;aLEFT RIGHT WAVE ARROW;cARROW WITH STROKE"),
  (0x21AF, "aDOWNWARDS ZIGZAG ARROW;aUPWARDS ARROW WITH TIP LEFTWARDS;eRIGHTWARDS"),
  (0x21B2, "aDOWNWARDS ARROW WITH TIP LEFTWARDS;eRIGHTWARDS"),
  (0x21B4, "aRIGHTWARDS ARROW WITH CORNER DOWNWARDS;aDOWNWARDS ARROW WITH CORNER LEFTWARDS"),
  (0x21B6, "aANTICLOCKWISE TOP SEMICIRCLE ARROW;aCLOCKWISE TOP SEMICIRCLE ARROW"),
  (0x21B8, "aNORTH WEST ARROW TO LONG BAR;aLEFTWARDS ARROW TO BAR OVER RIGHTWARDS ARROW TO BAR"),
  (0x21BA, "aANTICLOCKWISE OPEN CIRCLE ARROW;aCLOCKWISE OPEN CIRCLE ARROW"),
  (0x21BC, "aLEFTWARDS HARPOON WITH BARB UPWARDS;eDOWNWARDS;aUPWARDS HARPOON WITH BARB RIGHTWARDS"),
  (0x21BF, "aUPWARDS HARPOON WITH BARB LEFTWARDS;aRIGHTWARDS HARPOON WITH BARB UPWARDS;eDOWNWARDS"),
  (0x21C2, "aDOWNWARDS HARPOON WITH BARB RIGHTWARDS;eLEFTWARDS"),
  (0x21C4, "aRIGHTWARDS ARROW OVER LEFTWARDS ARROW;aUPWARDS ARROW LEFTWARDS OF DOWNWARDS ARROW"),
  (0x21C6, "aLEFTWARDS ARROW OVER RIGHTWARDS ARROW;bPAIRED ARROWS;aUPWARDS PAIRED ARROWS"),
  (0x21C9, "aRIGHTWARDS PAIRED ARROWS;aDOWNWARDS PAIRED ARROWS"),
  (0x21CB, "aLEFTWARDS HARPOON OVER RIGHTWARDS HARPOON;aRIGHTWARDS HARPOON OVER LEFTWARDS HARPOON"),
  (0x21CD, "aLEFTWARDS DOUBLE ARROW WITH STROKE;aLEFT RIGHT DOUBLE ARROW WITH STROKE"),
  (0x21CF, "aRIGHTWARDS DOUBLE ARROW WITH STROKE;aLEFTWARDS DOUBLE ARROW;aUPWARDS DOUBLE ARROW"),
  (0x21D2, "aRIGHTWARDS DOUBLE ARROW;aDOWNWARDS DOUBLE ARROW;aLEFT RIGHT DOUBLE ARROW"),
  (0x21D5, "aUP DOWN DOUBLE ARROW;aNORTH WEST DOUBLE ARROW;bEAST DOUBLE ARROW"),
  (0x21D8, "aSOUTH EAST DOUBLE ARROW;bWEST DOUBLE ARROW;aLEFTWARDS TRIPLE ARROW"),
  (0x21DB, "aRIGHTWARDS TRIPLE ARROW;aLEFTWARDS SQUIGGLE ARROW;aRIGHTWARDS SQUIGGLE ARROW"),
  (0x21DE, "aUPWARDS ARROW WITH DOUBLE STROKE;aDOWNWARDS ARROW WITH DOUBLE STROKE"),
  (0x21E0, "aLEFTWARDS DASHED ARROW;aUPWARDS DASHED ARROW;aRIGHTWARDS DASHED ARROW"),
  (0x21E3, "aDOWNWARDS DASHED ARROW;aLEFTWARDS ARROW TO BAR;aRIGHTWARDS ARROW TO BAR"),
  (0x21E6, "aLEFTWARDS WHITE ARROW;aUPWARDS WHITE ARROW;aRIGHTWARDS WHITE ARROW"),
  (0x21E9, "aDOWNWARDS WHITE ARROW;aUPWARDS WHITE ARROW FROM BAR;dON PEDESTAL"),
  (0x21EC, "aUPWARDS WHITE ARROW ON PEDESTAL WITH HORIZONTAL BAR;gVERTICAL BAR;cDOUBLE ARROW"),
  (0x21EF, "aUPWARDS WHITE DOUBLE ARROW ON PEDESTAL;aRIGHTWARDS WHITE ARROW FROM WALL"),
  (0x21F1, "aNORTH WEST ARROW TO CORNER;aSOUTH EAST ARROW TO CORNER;aUP DOWN WHITE ARROW"),
  (0x21F4, "aRIGHT ARROW WITH SMALL CIRCLE;aDOWNWARDS ARROW LEFTWARDS OF UPWARDS ARROW"),
  (0x21F6, "aTHREE RIGHTWARDS ARROWS;aLEFTWARDS ARROW WITH VERTICAL STROKE"),
  (0x21F8, "aRIGHTWARDS ARROW WITH VERTICAL STROKE;aLEFT RIGHT ARROW WITH VERTICAL STROKE"),
  (0x21FA, "aLEFTWARDS ARROW WITH DOUBLE VERTICAL STROKE"),
  (0x21FB, "aRIGHTWARDS ARROW WITH DOUBLE VERTICAL STROKE"),
  (0x21FC, "aLEFT RIGHT ARROW WITH DOUBLE VERTICAL STROKE;aLEFTWARDS OPEN-HEADED ARROW"),
  (0x21FE, "aRIGHTWARDS OPEN-HEADED ARROW;aLEFT RIGHT OPEN-HEADED ARROW;aFOR ALL;aCOMPLEMENT"),
  (0x2202, "aPARTIAL DIFFERENTIAL;aTHERE EXISTS;bDOES NOT EXIST;aEMPTY SET;aINCREMENT;aNABLA"),
  (0x2208, "aELEMENT OF;aNOT AN ELEMENT OF;aSMALL ELEMENT OF;aCONTAINS AS MEMBER"),
  (0x220C, "aDOES NOT CONTAIN AS MEMBER;aSMALL CONTAINS AS MEMBER;aEND OF PROOF;aN-ARY PRODUCT"),
  (0x2210, "aN-ARY COPRODUCT;bSUMMATION;aMINUS SIGN;aMINUS-OR-PLUS SIGN;aDOT PLUS;aDIVISION SLASH"),
  (0x2216, "aSET MINUS;aASTERISK OPERATOR;aRING OPERATOR;aBULLET OPERATOR;aSQUARE ROOT;aCUBE ROOT"),
  (0x221C, "aFOURTH ROOT;aPROPORTIONAL TO;aINFINITY;aRIGHT ANGLE;aANGLE;aMEASURED ANGLE"),
  (0x2222, "aSPHERICAL ANGLE;aDIVIDES;aDOES NOT DIVIDE;aPARALLEL TO;aNOT PARALLEL TO;aLOGICAL AND"),
  (0x2228, "aLOGICAL OR;aINTERSECTION;aUNION;aINTEGRAL;aDOUBLE INTEGRAL;aTRIPLE INTEGRAL"),
  (0x222E, "aCONTOUR INTEGRAL;aSURFACE INTEGRAL;aVOLUME INTEGRAL;aCLOCKWISE INTEGRAL"),
  (0x2232, "aCLOCKWISE CONTOUR INTEGRAL;aANTICLOCKWISE CONTOUR INTEGRAL;aTHEREFORE;aBECAUSE"),
  (0x2236, "aRATIO;aPROPORTION;aDOT MINUS;aEXCESS;aGEOMETRIC PROPORTION;aHOMOTHETIC"),
  (0x223C, "aTILDE OPERATOR;aREVERSED TILDE;aINVERTED LAZY S;aSINE WAVE;aWREATH PRODUCT"),
  (0x2241, "aNOT TILDE;aMINUS TILDE;aASYMPTOTICALLY EQUAL TO;aNOT ASYMPTOTICALLY EQUAL TO"),
  (0x2245, "aAPPROXIMATELY EQUAL TO;bBUT NOT ACTUALLY EQUAL TO"),
  (0x2247, "aNEITHER APPROXIMATELY NOR ACTUALLY EQUAL TO;aALMOST EQUAL TO;aNOT ALMOST EQUAL TO"),
  (0x224A, "aALMOST EQUAL OR EQUAL TO;aTRIPLE TILDE;aALL EQUAL TO;aEQUIVALENT TO"),
  (0x224E, "aGEOMETRICALLY EQUIVALENT TO;aDIFFERENCE BETWEEN;aAPPROACHES THE LIMIT"),
  (0x2251, "aGEOMETRICALLY EQUAL TO;aAPPROXIMATELY EQUAL TO OR THE IMAGE OF"),
  (0x2253, "aIMAGE OF OR APPROXIMATELY EQUAL TO;aCOLON EQUALS;aEQUALS COLON;aRING IN EQUAL TO"),
  (0x2257, "aRING EQUAL TO;aCORRESPONDS TO;aESTIMATES;aEQUIANGULAR TO;aSTAR EQUALS"),
  (0x225C, "aDELTA EQUAL TO;aEQUAL TO BY DEFINITION;aMEASURED BY;aQUESTIONED EQUAL TO"),
  (0x2260, "aNOT EQUAL TO;aIDENTICAL TO;aNOT IDENTICAL TO;aSTRICTLY EQUIVALENT TO"),
  (0x2264, "aLESS-THAN OR EQUAL TO;aGREATER-THAN OR EQUAL TO;aLESS-THAN OVER EQUAL TO"),
  (0x2267, "aGREATER-THAN OVER EQUAL TO;aLESS-THAN BUT NOT EQUAL TO"),
  (0x2269, "aGREATER-THAN BUT NOT EQUAL TO;aMUCH LESS-THAN;bGREATER-THAN;aBETWEEN"),
  (0x226D, "aNOT EQUIVALENT TO;bLESS-THAN;bGREATER-THAN;aNEITHER LESS-THAN NOR EQUAL TO"),
  (0x2271, "aNEITHER GREATER-THAN NOR EQUAL TO;aLESS-THAN OR EQUIVALENT TO"),
  (0x2273, "aGREATER-THAN OR EQUIVALENT TO;aNEITHER LESS-THAN NOR EQUIVALENT TO"),
  (0x2275, "aNEITHER GREATER-THAN NOR EQUIVALENT TO;aLESS-THAN OR GREATER-THAN"),
  (0x2277, "aGREATER-THAN OR LESS-THAN;aNEITHER LESS-THAN NOR GREATER-THAN"),
  (0x2279, "aNEITHER GREATER-THAN NOR LESS-THAN;aPRECEDES;aSUCCEEDS;aPRECEDES OR EQUAL TO"),
  (0x227D, "aSUCCEEDS OR EQUAL TO;aPRECEDES OR EQUIVALENT TO;aSUCCEEDS OR EQUIVALENT TO"),
  (0x2280, "aDOES NOT PRECEDE;cSUCCEED;aSUBSET OF;aSUPERSET OF;aNOT A SUBSET OF;cSUPERSET OF"),
  (0x2286, "aSUBSET OF OR EQUAL TO;aSUPERSET OF OR EQUAL TO;aNEITHER A SUBSET OF NOR EQUAL TO"),
  (0x2289, "aNEITHER A SUPERSET OF NOR EQUAL TO;aSUBSET OF WITH NOT EQUAL TO"),
  (0x228B, "aSUPERSET OF WITH NOT EQUAL TO;aMULTISET;bMULTIPLICATION;bUNION;aSQUARE IMAGE OF"),
  (0x2290, "aSQUARE ORIGINAL OF;bIMAGE OF OR EQUAL TO;bORIGINAL OF OR EQUAL TO;bCAP;bCUP"),
  (0x2295, "aCIRCLED PLUS;bMINUS;bTIMES;bDIVISION SLASH;bDOT OPERATOR;bRING OPERATOR"),
  (0x229B, "aCIRCLED ASTERISK OPERATOR;bEQUALS;bDASH;aSQUARED PLUS;bMINUS;bTIMES;bDOT OPERATOR"),
  (0x22A2, "aRIGHT TACK;aLEFT TACK;aDOWN TACK;aUP TACK;aASSERTION;aMODELS;aTRUE;aFORCES"),
  (0x22AA, "aTRIPLE VERTICAL BAR RIGHT TURNSTILE;aDOUBLE VERTICAL BAR DOUBLE RIGHT TURNSTILE"),
  (0x22AC, "aDOES NOT PROVE;aNOT TRUE;aDOES NOT FORCE"),
  (0x22AF, "aNEGATED DOUBLE VERTICAL BAR DOUBLE RIGHT TURNSTILE;aPRECEDES UNDER RELATION"),
  (0x22B1, "aSUCCEEDS UNDER RELATION;aNORMAL SUBGROUP OF;aCONTAINS AS NORMAL SUBGROUP"),
  (0x22B4, "aNORMAL SUBGROUP OF OR EQUAL TO;aCONTAINS AS NORMAL SUBGROUP OR EQUAL TO;aORIGINAL OF"),
  (0x22B7, "aIMAGE OF;aMULTIMAP;aHERMITIAN CONJUGATE MATRIX;aINTERCALATE;aXOR;aNAND;aNOR"),
  (0x22BE, "aRIGHT ANGLE WITH ARC;bTRIANGLE;aN-ARY LOGICAL AND;cOR;bINTERSECTION;bUNION"),
  (0x22C4, "aDIAMOND OPERATOR;aDOT OPERATOR;aSTAR OPERATOR;aDIVISION TIMES;aBOWTIE"),
  (0x22C9, "aLEFT NORMAL FACTOR SEMIDIRECT PRODUCT;aRIGHT NORMAL FACTOR SEMIDIRECT PRODUCT"),
  (0x22CB, "aLEFT SEMIDIRECT PRODUCT;aRIGHT SEMIDIRECT PRODUCT;aREVERSED TILDE EQUALS"),
  (0x22CE, "aCURLY LOGICAL OR;cAND;aDOUBLE SUBSET;bSUPERSET;bINTERSECTION;bUNION;aPITCHFORK"),
  (0x22D5, "aEQUAL AND PARALLEL TO;aLESS-THAN WITH DOT;aGREATER-THAN WITH DOT"),
  (0x22D8, "aVERY MUCH LESS-THAN;cGREATER-THAN;aLESS-THAN EQUAL TO OR GREATER-THAN"),
  (0x22DB, "aGREATER-THAN EQUAL TO OR LESS-THAN;aEQUAL TO OR LESS-THAN;dGREATER-THAN;dPRECEDES"),
  (0x22DF, "aEQUAL TO OR SUCCEEDS;aDOES NOT PRECEDE OR EQUAL;cSUCCEED OR EQUAL"),
  (0x22E2, "aNOT SQUARE IMAGE OF OR EQUAL TO;cORIGINAL OF OR EQUAL TO"),
  (0x22E4, "aSQUARE IMAGE OF OR NOT EQUAL TO;bORIGINAL OF OR NOT EQUAL TO"),
  (0x22E6, "aLESS-THAN BUT NOT EQUIVALENT TO;aGREATER-THAN BUT NOT EQUIVALENT TO"),
  (0x22E8, "aPRECEDES BUT NOT EQUIVALENT TO;aSUCCEEDS BUT NOT EQUIVALENT TO"),
  (0x22EA, "aNOT NORMAL SUBGROUP OF;aDOES NOT CONTAIN AS NORMAL SUBGROUP"),
  (0x22EC, "aNOT NORMAL SUBGROUP OF OR EQUAL TO;aDOES NOT CONTAIN AS NORMAL SUBGROUP OR EQUAL"),
  (0x22EE, "aVERTICAL ELLIPSIS;aMIDLINE HORIZONTAL ELLIPSIS;aUP RIGHT DIAGONAL ELLIPSIS"),
  (0x22F1, "aDOWN RIGHT DIAGONAL ELLIPSIS;aELEMENT OF WITH LONG HORIZONTAL STROKE"),
  (0x22F3, "aELEMENT OF WITH VERTICAL BAR AT END OF HORIZONTAL STROKE"),
  (0x22F4, "aSMALL ELEMENT OF WITH VERTICAL BAR AT END OF HORIZONTAL STROKE"),
  (0x22F5, "aELEMENT OF WITH DOT ABOVE;dOVERBAR;aSMALL ELEMENT OF WITH OVERBAR"),
  (0x22F8, "aELEMENT OF WITH UNDERBAR;dTWO HORIZONTAL STROKES"),
  (0x22FA, "aCONTAINS WITH LONG HORIZONTAL STROKE;cVERTICAL BAR AT END OF HORIZONTAL STROKE"),
  (0x22FC, "aSMALL CONTAINS WITH VERTICAL BAR AT END OF HORIZONTAL STROKE;aCONTAINS WITH OVERBAR"),
  (0x22FE, "aSMALL CONTAINS WITH OVERBAR;aZ NOTATION BAG MEMBERSHIP;aDIAMETER SIGN"),
  (0x2301, "aELECTRIC ARROW;aHOUSE;aUP ARROWHEAD;aDOWN ARROWHEAD;aPROJECTIVE;aPERSPECTIVE"),
  (0x2307, "aWAVY LINE;aLEFT CEILING;aRIGHT CEILING;aLEFT FLOOR;aRIGHT FLOOR;aBOTTOM RIGHT CROP"),
  (0x230D, "aBOTTOM LEFT CROP;aTOP RIGHT CROP;bLEFT CROP;aREVERSED NOT SIGN;aSQUARE LOZENGE;aARC"),
  (0x2313, "aSEGMENT;aSECTOR;aTELEPHONE RECORDER;aPOSITION INDICATOR;aVIEWDATA SQUARE"),
  (0x2318, "aPLACE OF INTEREST SIGN;aTURNED NOT SIGN;aWATCH;aHOURGLASS;aTOP LEFT CORNER"),
  (0x231D, "aTOP RIGHT CORNER;aBOTTOM LEFT CORNER;bRIGHT CORNER;aTOP HALF INTEGRAL"),
  (0x2321, "aBOTTOM HALF INTEGRAL;aFROWN;aSMILE;aUP ARROWHEAD BETWEEN TWO HORIZONTAL BARS"),
  (0x2325, "aOPTION KEY;aERASE TO THE RIGHT;aX IN A RECTANGLE BOX;aKEYBOARD"),
  (0x2329, "aLEFT-POINTING ANGLE BRACKET;aRIGHT-POINTING ANGLE BRACKET;aERASE TO THE LEFT"),
  (0x232C, "aBENZENE RING;aCYLINDRICITY;aALL AROUND-PROFILE;aSYMMETRY;aTOTAL RUNOUT"),
  (0x2331, "aDIMENSION ORIGIN;aCONICAL TAPER;aSLOPE;aCOUNTERBORE;aCOUNTERSINK"),
  (0x2336, "aAPL FUNCTIONAL SYMBOL I-BEAM;dSQUISH QUAD;dQUAD EQUAL;eDIVIDE;eDIAMOND;eJOT;eCIRCLE"),
  (0x233D, "aAPL FUNCTIONAL SYMBOL CIRCLE STILE;eJOT;dSLASH BAR;dBACKSLASH BAR;dQUAD SLASH"),
  (0x2342, "aAPL FUNCTIONAL SYMBOL QUAD BACKSLASH;eLESS-THAN;eGREATER-THAN;dLEFTWARDS VANE"),
  (0x2346, "aAPL FUNCTIONAL SYMBOL RIGHTWARDS VANE;dQUAD LEFTWARDS ARROW;eRIGHTWARDS ARROW"),
  (0x2349, "aAPL FUNCTIONAL SYMBOL CIRCLE BACKSLASH;dDOWN TACK UNDERBAR;dDELTA STILE"),
  (0x234C, "aAPL FUNCTIONAL SYMBOL QUAD DOWN CARET;eDELTA;dDOWN TACK JOT;dUPWARDS VANE"),
  (0x2350, "aAPL FUNCTIONAL SYMBOL QUAD UPWARDS ARROW;dUP TACK OVERBAR;dDEL STILE;dQUAD UP CARET"),
  (0x2354, "aAPL FUNCTIONAL SYMBOL QUAD DEL;dUP TACK JOT;dDOWNWARDS VANE;dQUAD DOWNWARDS ARROW"),
  (0x2358, "aAPL FUNCTIONAL SYMBOL QUOTE UNDERBAR;dDELTA UNDERBAR;dDIAMOND UNDERBAR;dJOT UNDERBAR"),
  (0x235C, "aAPL FUNCTIONAL SYMBOL CIRCLE UNDERBAR;dUP SHOE JOT;dQUOTE QUAD;dCIRCLE STAR"),
  (0x2360, "aAPL FUNCTIONAL SYMBOL QUAD COLON;dUP TACK DIAERESIS;dDEL DIAERESIS;dSTAR DIAERESIS"),
  (0x2364, "aAPL FUNCTIONAL SYMBOL JOT DIAERESIS;dCIRCLE DIAERESIS;dDOWN SHOE STILE"),
  (0x2367, "aAPL FUNCTIONAL SYMBOL LEFT SHOE STILE;dTILDE DIAERESIS;dGREATER-THAN DIAERESIS"),
  (0x236A, "aAPL FUNCTIONAL SYMBOL COMMA BAR;dDEL TILDE;dZILDE;dSTILE TILDE;dSEMICOLON UNDERBAR"),
  (0x236F, "aAPL FUNCTIONAL SYMBOL QUAD NOT EQUAL;eQUESTION;dDOWN CARET TILDE;dUP CARET TILDE"),
  (0x2373, "aAPL FUNCTIONAL SYMBOL IOTA;dRHO;dOMEGA;dALPHA UNDERBAR;dEPSILON UNDERBAR"),
  (0x2378, "aAPL FUNCTIONAL SYMBOL IOTA UNDERBAR;dOMEGA UNDERBAR;dALPHA;aNOT CHECK MARK"),
  (0x237C, "aRIGHT ANGLE WITH DOWNWARDS ZIGZAG ARROW;aSHOULDERED OPEN BOX;aBELL SYMBOL"),
  (0x237F, "aVERTICAL LINE WITH MIDDLE DOT;aINSERTION SYMBOL;aCONTINUOUS UNDERLINE SYMBOL")]

/-- The lines of names from U+2382 on. -/
def namesFrom2382 : List (Nat × String) := [
  (0x2382, "aDISCONTINUOUS UNDERLINE SYMBOL;aEMPHASIS SYMBOL;aCOMPOSITION SYMBOL"),
  (0x2385, "aWHITE SQUARE WITH CENTRE VERTICAL LINE;aENTER SYMBOL;aALTERNATIVE KEY SYMBOL"),
  (0x2388, "aHELM SYMBOL;aCIRCLED HORIZONTAL BAR WITH NOTCH;bTRIANGLE DOWN"),
  (0x238B, "aBROKEN CIRCLE WITH NORTHWEST ARROW;aUNDO SYMBOL;aMONOSTABLE SYMBOL"),
  (0x238E, "aHYSTERESIS SYMBOL;aOPEN-CIRCUIT-OUTPUT H-TYPE SYMBOL;bL-TYPE SYMBOL"),
  (0x2391, "aPASSIVE-PULL-DOWN-OUTPUT SYMBOL;aPASSIVE-PULL-UP-OUTPUT SYMBOL"),
  (0x2393, "aDIRECT CURRENT SYMBOL FORM TWO;aSOFTWARE-FUNCTION SYMBOL;aAPL FUNCTIONAL SYMBOL QUAD"),
  (0x2396, "aDECIMAL SEPARATOR KEY SYMBOL;aPREVIOUS PAGE;aNEXT PAGE;aPRINT SCREEN SYMBOL"),
  (0x239A, "aCLEAR SCREEN SYMBOL;aLEFT PARENTHESIS UPPER HOOK;cEXTENSION;cLOWER HOOK"),
  (0x239E, "aRIGHT PARENTHESIS UPPER HOOK;cEXTENSION;cLOWER HOOK"),
  (0x23A1, "aLEFT SQUARE BRACKET UPPER CORNER;dEXTENSION;dLOWER CORNER"),
  (0x23A4, "aRIGHT SQUARE BRACKET UPPER CORNER;dEXTENSION;dLOWER CORNER"),
  (0x23A7, "aLEFT CURLY BRACKET UPPER HOOK;dMIDDLE PIECE;dLOWER HOOK;aCURLY BRACKET EXTENSION"),
  (0x23AB, "aRIGHT CURLY BRACKET UPPER HOOK;dMIDDLE PIECE;dLOWER HOOK;aINTEGRAL EXTENSION"),
  (0x23AF, "aHORIZONTAL LINE EXTENSION;aUPPER LEFT OR LOWER RIGHT CURLY BRACKET SECTION"),
  (0x23B1, "aUPPER RIGHT OR LOWER LEFT CURLY BRACKET SECTION;aSUMMATION TOP;bBOTTOM"),
  (0x23B4, "aTOP SQUARE BRACKET;aBOTTOM SQUARE BRACKET;dOVER TOP SQUARE BRACKET"),
  (0x23B7, "aRADICAL SYMBOL BOTTOM;aLEFT VERTICAL BOX LINE;aRIGHT VERTICAL BOX LINE"),
  (0x23BA, "aHORIZONTAL SCAN LINE-1;cLINE-3;cLINE-7;cLINE-9"),
  (0x23BE, "aDENTISTRY SYMBOL LIGHT VERTICAL AND TOP RIGHT;fBOTTOM RIGHT;eWITH CIRCLE"),
  (0x23C1, "aDENTISTRY SYMBOL LIGHT DOWN AND HORIZONTAL WITH CIRCLE"),
  (0x23C2, "aDENTISTRY SYMBOL LIGHT UP AND HORIZONTAL WITH CIRCLE;dVERTICAL WITH TRIANGLE"),
  (0x23C4, "aDENTISTRY SYMBOL LIGHT DOWN AND HORIZONTAL WITH TRIANGLE"),
  (0x23C5, "aDENTISTRY SYMBOL LIGHT UP AND HORIZONTAL WITH TRIANGLE;dVERTICAL AND WAVE"),
  (0x23C7, "aDENTISTRY SYMBOL LIGHT DOWN AND HORIZONTAL WITH WAVE;dUP AND HORIZONTAL WITH WAVE"),
  (0x23C9, "aDENTISTRY SYMBOL LIGHT DOWN AND HORIZONTAL;dUP AND HORIZONTAL;dVERTICAL AND TOP LEFT"),
  (0x23CC, "aDENTISTRY SYMBOL LIGHT VERTICAL AND BOTTOM LEFT;aSQUARE FOOT;aRETURN SYMBOL"),
  (0x23CF, "aEJECT SYMBOL;aVERTICAL LINE EXTENSION;aMETRICAL BREVE;bLONG OVER SHORT"),
  (0x23D3, "aMETRICAL SHORT OVER LONG;bLONG OVER TWO SHORTS;bTWO SHORTS OVER LONG;dJOINED"),
  (0x23D7, "aMETRICAL TRISEME;bTETRASEME;bPENTASEME;aEARTH GROUND;aFUSE;aTOP PARENTHESIS"),
  (0x23DD, "aBOTTOM PARENTHESIS;aTOP CURLY BRACKET;aBOTTOM CURLY BRACKET"),
  (0x23E0, "aTOP TORTOISE SHELL BRACKET;aBOTTOM TORTOISE SHELL BRACKET;aWHITE TRAPEZIUM"),
  (0x23E3, "aBENZENE RING WITH CIRCLE;aSTRAIGHTNESS;aFLATNESS;aAC CURRENT"),
  (0x23E7, "aELECTRICAL INTERSECTION;aDECIMAL EXPONENT SYMBOL"),
  (0x23E9, "aBLACK RIGHT-POINTING DOUBLE TRIANGLE;bLEFT-POINTING DOUBLE TRIANGLE"),
  (0x23EB, "aBLACK UP-POINTING DOUBLE TRIANGLE;bDOWN-POINTING DOUBLE TRIANGLE"),
  (0x23ED, "aBLACK RIGHT-POINTING DOUBLE TRIANGLE WITH VERTICAL BAR"),
  (0x23EE, "aBLACK LEFT-POINTING DOUBLE TRIANGLE WITH VERTICAL BAR"),
  (0x23EF, "aBLACK RIGHT-POINTING TRIANGLE WITH DOUBLE VERTICAL BAR;aALARM CLOCK;aSTOPWATCH"),
  (0x23F2, "aTIMER CLOCK;aHOURGLASS WITH FLOWING SAND;aBLACK MEDIUM LEFT-POINTING TRIANGLE"),
  (0x23F5, "aBLACK MEDIUM RIGHT-POINTING TRIANGLE;cUP-POINTING TRIANGLE;cDOWN-POINTING TRIANGLE"),
  (0x23F8, "aDOUBLE VERTICAL BAR;aBLACK SQUARE FOR STOP;bCIRCLE FOR RECORD;aPOWER SYMBOL"),
  (0x23FC, "aPOWER ON-OFF SYMBOL;bON SYMBOL;bSLEEP SYMBOL;aOBSERVER EYE SYMBOL;aSYMBOL FOR NULL"),
  (0x2401, "aSYMBOL FOR START OF HEADING;eTEXT;cEND OF TEXT;eTRANSMISSION;cENQUIRY;cACKNOWLEDGE"),
  (0x2407, "aSYMBOL FOR BELL;cBACKSPACE;cHORIZONTAL TABULATION;cLINE FEED;cVERTICAL TABULATION"),
  (0x240C, "aSYMBOL FOR FORM FEED;cCARRIAGE RETURN;cSHIFT OUT;dIN;cDATA LINK ESCAPE"),
  (0x2411, "aSYMBOL FOR DEVICE CONTROL ONE;eTWO;eTHREE;eFOUR;cNEGATIVE ACKNOWLEDGE"),
  (0x2416, "aSYMBOL FOR SYNCHRONOUS IDLE;cEND OF TRANSMISSION BLOCK;cCANCEL;cEND OF MEDIUM"),
  (0x241A, "aSYMBOL FOR SUBSTITUTE;cESCAPE;cFILE SEPARATOR;cGROUP SEPARATOR;cRECORD SEPARATOR"),
  (0x241F, "aSYMBOL FOR UNIT SEPARATOR;cSPACE;cDELETE;aBLANK SYMBOL;aOPEN BOX;aSYMBOL FOR NEWLINE"),
  (0x2425, "aSYMBOL FOR DELETE FORM TWO;cSUBSTITUTE FORM TWO"),
  (0x2440, "aOCR HOOK;bCHAIR;bFORK;bINVERTED FORK;bBELT BUCKLE;bBOW TIE"),
  (0x2446, "aOCR BRANCH BANK IDENTIFICATION;bAMOUNT OF CHECK;bDASH;bCUSTOMER ACCOUNT NUMBER"),
  (0x244A, "aOCR DOUBLE BACKSLASH"),
  (0x2460, "aCIRCLED DIGIT ONE;cTWO;cTHREE;cFOUR;cFIVE;cSIX;cSEVEN;cEIGHT;cNINE;bNUMBER TEN"),
  (0x246A, "aCIRCLED NUMBER ELEVEN;cTWELVE;cTHIRTEEN;cFOURTEEN;cFIFTEEN;cSIXTEEN;cSEVENTEEN"),
  (0x2471, "aCIRCLED NUMBER EIGHTEEN;cNINETEEN;cTWENTY;aPARENTHESIZED DIGIT ONE;cTWO;cTHREE;cFOUR"),
  (0x2478, "aPARENTHESIZED DIGIT FIVE;cSIX;cSEVEN;cEIGHT;cNINE;bNUMBER TEN;cELEVEN;cTWELVE"),
  (0x2480, "aPARENTHESIZED NUMBER THIRTEEN;cFOURTEEN;cFIFTEEN;cSIXTEEN;cSEVENTEEN;cEIGHTEEN"),
  (0x2486, "aPARENTHESIZED NUMBER NINETEEN;cTWENTY;aDIGIT ONE FULL STOP;bTWO FULL STOP"),
  (0x248A, "aDIGIT THREE FULL STOP;bFOUR FULL STOP;bFIVE FULL STOP;bSIX FULL STOP"),
  (0x248E, "aDIGIT SEVEN FULL STOP;bEIGHT FULL STOP;bNINE FULL STOP;aNUMBER TEN FULL STOP"),
  (0x2492, "aNUMBER ELEVEN FULL STOP;bTWELVE FULL STOP;bTHIRTEEN FULL STOP;bFOURTEEN FULL STOP"),
  (0x2496, "aNUMBER FIFTEEN FULL STOP;bSIXTEEN FULL STOP;bSEVENTEEN FULL STOP;bEIGHTEEN FULL STOP"),
  (0x249A, "aNUMBER NINETEEN FULL STOP;bTWENTY FULL STOP;aPARENTHESIZED LATIN SMALL LETTER A;eB"),
  (0x249E, "aPARENTHESIZED LATIN SMALL LETTER C;eD;eE;eF;eG;eH;eI;eJ;eK;eL;eM;eN;eO;eP;eQ;eR;eS"),
  (0x24AF, "aPARENTHESIZED LATIN SMALL LETTER T;eU;eV;eW;eX;eY;eZ;aCIRCLED LATIN CAPITAL LETTER A"),
  (0x24B7, "aCIRCLED LATIN CAPITAL LETTER B;eC;eD;eE;eF;eG;eH;eI;eJ;eK;eL;eM;eN;eO;eP;eQ;eR;eS;eT"),
  (0x24CA, "aCIRCLED LATIN CAPITAL LETTER U;eV;eW;eX;eY;eZ;cSMALL LETTER A;eB;eC;eD;eE;eF;eG;eH"),
  (0x24D8, "aCIRCLED LATIN SMALL LETTER I;eJ;eK;eL;eM;eN;eO;eP;eQ;eR;eS;eT;eU;eV;eW;eX;eY;eZ"),
  (0x24EA, "aCIRCLED DIGIT ZERO;aNEGATIVE CIRCLED NUMBER ELEVEN;dTWELVE;dTHIRTEEN;dFOURTEEN"),
  (0x24EF, "aNEGATIVE CIRCLED NUMBER FIFTEEN;dSIXTEEN;dSEVENTEEN;dEIGHTEEN;dNINETEEN;dTWENTY"),
  (0x24F5, "aDOUBLE CIRCLED DIGIT ONE;dTWO;dTHREE;dFOUR;dFIVE;dSIX;dSEVEN;dEIGHT;dNINE"),
  (0x24FE, "aDOUBLE CIRCLED NUMBER TEN;aNEGATIVE CIRCLED DIGIT ZERO"),
  (0x2500, "aBOX DRAWINGS LIGHT HORIZONTAL;cHEAVY HORIZONTAL;cLIGHT VERTICAL;cHEAVY VERTICAL"),
  (0x2504, "aBOX DRAWINGS LIGHT TRIPLE DASH HORIZONTAL;cHEAVY TRIPLE DASH HORIZONTAL"),
  (0x2506, "aBOX DRAWINGS LIGHT TRIPLE DASH VERTICAL;cHEAVY TRIPLE DASH VERTICAL"),
  (0x2508, "aBOX DRAWINGS LIGHT QUADRUPLE DASH HORIZONTAL;cHEAVY QUADRUPLE DASH HORIZONTAL"),
  (0x250A, "aBOX DRAWINGS LIGHT QUADRUPLE DASH VERTICAL;cHEAVY QUADRUPLE DASH VERTICAL"),
  (0x250C, "aBOX DRAWINGS LIGHT DOWN AND RIGHT;cDOWN LIGHT AND RIGHT HEAVY;dHEAVY AND RIGHT LIGHT"),
  (0x250F, "aBOX DRAWINGS HEAVY DOWN AND RIGHT;cLIGHT DOWN AND LEFT;cDOWN LIGHT AND LEFT HEAVY"),
  (0x2512, "aBOX DRAWINGS DOWN HEAVY AND LEFT LIGHT;cHEAVY DOWN AND LEFT;cLIGHT UP AND RIGHT"),
  (0x2515, "aBOX DRAWINGS UP LIGHT AND RIGHT HEAVY;dHEAVY AND RIGHT LIGHT;cHEAVY UP AND RIGHT"),
  (0x2518, "aBOX DRAWINGS LIGHT UP AND LEFT;cUP LIGHT AND LEFT HEAVY;dHEAVY AND LEFT LIGHT"),
  (0x251B, "aBOX DRAWINGS HEAVY UP AND LEFT;cLIGHT VERTICAL AND RIGHT"),
  (0x251D, "aBOX DRAWINGS VERTICAL LIGHT AND RIGHT HEAVY;cUP HEAVY AND RIGHT DOWN LIGHT"),
  (0x251F, "aBOX DRAWINGS DOWN HEAVY AND RIGHT UP LIGHT;cVERTICAL HEAVY AND RIGHT LIGHT"),
  (0x2521, "aBOX DRAWINGS DOWN LIGHT AND RIGHT UP HEAVY;cUP LIGHT AND RIGHT DOWN HEAVY"),
  (0x2523, "aBOX DRAWINGS HEAVY VERTICAL AND RIGHT;cLIGHT VERTICAL AND LEFT"),
  (0x2525, "aBOX DRAWINGS VERTICAL LIGHT AND LEFT HEAVY;cUP HEAVY AND LEFT DOWN LIGHT"),
  (0x2527, "aBOX DRAWINGS DOWN HEAVY AND LEFT UP LIGHT;cVERTICAL HEAVY AND LEFT LIGHT"),
  (0x2529, "aBOX DRAWINGS DOWN LIGHT AND LEFT UP HEAVY;cUP LIGHT AND LEFT DOWN HEAVY"),
  (0x252B, "aBOX DRAWINGS HEAVY VERTICAL AND LEFT;cLIGHT DOWN AND HORIZONTAL"),
  (0x252D, "aBOX DRAWINGS LEFT HEAVY AND RIGHT DOWN LIGHT;cRIGHT HEAVY AND LEFT DOWN LIGHT"),
  (0x252F, "aBOX DRAWINGS DOWN LIGHT AND HORIZONTAL HEAVY;dHEAVY AND HORIZONTAL LIGHT"),
  (0x2531, "aBOX DRAWINGS RIGHT LIGHT AND LEFT DOWN HEAVY;cLEFT LIGHT AND RIGHT DOWN HEAVY"),
  (0x2533, "aBOX DRAWINGS HEAVY DOWN AND HORIZONTAL;cLIGHT UP AND HORIZONTAL"),
  (0x2535, "aBOX DRAWINGS LEFT HEAVY AND RIGHT UP LIGHT;cRIGHT HEAVY AND LEFT UP LIGHT"),
  (0x2537, "aBOX DRAWINGS UP LIGHT AND HORIZONTAL HEAVY;dHEAVY AND HORIZONTAL LIGHT"),
  (0x2539, "aBOX DRAWINGS RIGHT LIGHT AND LEFT UP HEAVY;cLEFT LIGHT AND RIGHT UP HEAVY"),
  (0x253B, "aBOX DRAWINGS HEAVY UP AND HORIZONTAL;cLIGHT VERTICAL AND HORIZONTAL"),
  (0x253D, "aBOX DRAWINGS LEFT HEAVY AND RIGHT VERTICAL LIGHT"),
  (0x253E, "aBOX DRAWINGS RIGHT HEAVY AND LEFT VERTICAL LIGHT"),
  (0x253F, "aBOX DRAWINGS VERTICAL LIGHT AND HORIZONTAL HEAVY;cUP HEAVY AND DOWN HORIZONTAL LIGHT"),
  (0x2541, "aBOX DRAWINGS DOWN HEAVY AND UP HORIZONTAL LIGHT;cVERTICAL HEAVY AND HORIZONTAL LIGHT"),
  (0x2543, "aBOX DRAWINGS LEFT UP HEAVY AND RIGHT DOWN LIGHT;cRIGHT UP HEAVY AND LEFT DOWN LIGHT"),
  (0x2545, "aBOX DRAWINGS LEFT DOWN HEAVY AND RIGHT UP LIGHT;cRIGHT DOWN HEAVY AND LEFT UP LIGHT"),
  (0x2547, "aBOX DRAWINGS DOWN LIGHT AND UP HORIZONTAL HEAVY;cUP LIGHT AND DOWN HORIZONTAL HEAVY"),
  (0x2549, "aBOX DRAWINGS RIGHT LIGHT AND LEFT VERTICAL HEAVY"),
  (0x254A, "aBOX DRAWINGS LEFT LIGHT AND RIGHT VERTICAL HEAVY;cHEAVY VERTICAL AND HORIZONTAL"),
  (0x254C, "aBOX DRAWINGS LIGHT DOUBLE DASH HORIZONTAL;cHEAVY DOUBLE DASH HORIZONTAL"),
  (0x254E, "aBOX DRAWINGS LIGHT DOUBLE DASH VERTICAL;cHEAVY DOUBLE DASH VERTICAL"),
  (0x2550, "aBOX DRAWINGS DOUBLE HORIZONTAL;dVERTICAL;cDOWN SINGLE AND RIGHT DOUBLE"),
  (0x2553, "aBOX DRAWINGS DOWN DOUBLE AND RIGHT SINGLE;cDOUBLE DOWN AND RIGHT"),
  (0x2555, "aBOX DRAWINGS DOWN SINGLE AND LEFT DOUBLE;dDOUBLE AND LEFT SINGLE"),
  (0x2557, "aBOX DRAWINGS DOUBLE DOWN AND LEFT;cUP SINGLE AND RIGHT DOUBLE"),
  (0x2559, "aBOX DRAWINGS UP DOUBLE AND RIGHT SINGLE;cDOUBLE UP AND RIGHT"),
  (0x255B, "aBOX DRAWINGS UP SINGLE AND LEFT DOUBLE;dDOUBLE AND LEFT SINGLE;cDOUBLE UP AND LEFT"),
  (0x255E, "aBOX DRAWINGS VERTICAL SINGLE AND RIGHT DOUBLE;dDOUBLE AND RIGHT SINGLE"),
  (0x2560, "aBOX DRAWINGS DOUBLE VERTICAL AND RIGHT;cVERTICAL SINGLE AND LEFT DOUBLE"),
  (0x2562, "aBOX DRAWINGS VERTICAL DOUBLE AND LEFT SINGLE;cDOUBLE VERTICAL AND LEFT"),
  (0x2564, "aBOX DRAWINGS DOWN SINGLE AND HORIZONTAL DOUBLE;dDOUBLE AND HORIZONTAL SINGLE"),
  (0x2566, "aBOX DRAWINGS DOUBLE DOWN AND HORIZONTAL;cUP SINGLE AND HORIZONTAL DOUBLE"),
  (0x2568, "aBOX DRAWINGS UP DOUBLE AND HORIZONTAL SINGLE;cDOUBLE UP AND HORIZONTAL"),
  (0x256A, "aBOX DRAWINGS VERTICAL SINGLE AND HORIZONTAL DOUBLE;dDOUBLE AND HORIZONTAL SINGLE"),
  (0x256C, "aBOX DRAWINGS DOUBLE VERTICAL AND HORIZONTAL;cLIGHT ARC DOWN AND RIGHT;gLEFT"),
  (0x256F, "aBOX DRAWINGS LIGHT ARC UP AND LEFT;gRIGHT;dDIAGONAL UPPER RIGHT TO LOWER LEFT"),
  (0x2572, "aBOX DRAWINGS LIGHT DIAGONAL UPPER LEFT TO LOWER RIGHT;eCROSS;dLEFT;dUP;dRIGHT;dDOWN"),
  (0x2578, "aBOX DRAWINGS HEAVY LEFT;dUP;dRIGHT;dDOWN;cLIGHT LEFT AND HEAVY RIGHT"),
  (0x257D, "aBOX DRAWINGS LIGHT UP AND HEAVY DOWN;cHEAVY LEFT AND LIGHT RIGHT;dUP AND LIGHT DOWN"),
  (0x2580, "aUPPER HALF BLOCK;aLOWER ONE EIGHTH BLOCK;cQUARTER BLOCK;bTHREE EIGHTHS BLOCK"),
  (0x2584, "aLOWER HALF BLOCK;bFIVE EIGHTHS BLOCK;bTHREE QUARTERS BLOCK;bSEVEN EIGHTHS BLOCK"),
  (0x2588, "aFULL BLOCK;aLEFT SEVEN EIGHTHS BLOCK;bTHREE QUARTERS BLOCK;bFIVE EIGHTHS BLOCK"),
  (0x258C, "aLEFT HALF BLOCK;bTHREE EIGHTHS BLOCK;bONE QUARTER BLOCK;cEIGHTH BLOCK"),
  (0x2590, "aRIGHT HALF BLOCK;aLIGHT SHADE;aMEDIUM SHADE;aDARK SHADE;aUPPER ONE EIGHTH BLOCK"),
  (0x2595, "aRIGHT ONE EIGHTH BLOCK;aQUADRANT LOWER LEFT;cRIGHT;bUPPER LEFT"),
  (0x2599, "aQUADRANT UPPER LEFT AND LOWER LEFT AND LOWER RIGHT;fRIGHT"),
  (0x259B, "aQUADRANT UPPER LEFT AND UPPER RIGHT AND LOWER LEFT;iRIGHT;cRIGHT;dAND LOWER LEFT"),
  (0x259F, "aQUADRANT UPPER RIGHT AND LOWER LEFT AND LOWER RIGHT;aBLACK SQUARE;aWHITE SQUARE"),
  (0x25A2, "aWHITE SQUARE WITH ROUNDED CORNERS;cCONTAINING BLACK SMALL SQUARE"),
  (0x25A4, "aSQUARE WITH HORIZONTAL FILL;cVERTICAL FILL;cORTHOGONAL CROSSHATCH FILL"),
  (0x25A7, "aSQUARE WITH UPPER LEFT TO LOWER RIGHT FILL;dRIGHT TO LOWER LEFT FILL"),
  (0x25A9, "aSQUARE WITH DIAGONAL CROSSHATCH FILL;aBLACK SMALL SQUARE;aWHITE SMALL SQUARE"),
  (0x25AC, "aBLACK RECTANGLE;aWHITE RECTANGLE;aBLACK VERTICAL RECTANGLE;aWHITE VERTICAL RECTANGLE"),
  (0x25B0, "aBLACK PARALLELOGRAM;aWHITE PARALLELOGRAM;aBLACK UP-POINTING TRIANGLE"),
  (0x25B3, "aWHITE UP-POINTING TRIANGLE;aBLACK UP-POINTING SMALL TRIANGLE"),
  (0x25B5, "aWHITE UP-POINTING SMALL TRIANGLE;aBLACK RIGHT-POINTING TRIANGLE"),
  (0x25B7, "aWHITE RIGHT-POINTING TRIANGLE;aBLACK RIGHT-POINTING SMALL TRIANGLE"),
  (0x25B9, "aWHITE RIGHT-POINTING SMALL TRIANGLE;aBLACK RIGHT-POINTING POINTER"),
  (0x25BB, "aWHITE RIGHT-POINTING POINTER;aBLACK DOWN-POINTING TRIANGLE"),
  (0x25BD, "aWHITE DOWN-POINTING TRIANGLE;aBLACK DOWN-POINTING SMALL TRIANGLE"),
  (0x25BF, "aWHITE DOWN-POINTING SMALL TRIANGLE;aBLACK LEFT-POINTING TRIANGLE"),
  (0x25C1, "aWHITE LEFT-POINTING TRIANGLE;aBLACK LEFT-POINTING SMALL TRIANGLE"),
  (0x25C3, "aWHITE LEFT-POINTING SMALL TRIANGLE;aBLACK LEFT-POINTING POINTER"),
  (0x25C5, "aWHITE LEFT-POINTING POINTER;aBLACK DIAMOND;aWHITE DIAMOND"),
  (0x25C8, "aWHITE DIAMOND CONTAINING BLACK SMALL DIAMOND;aFISHEYE;aLOZENGE;aWHITE CIRCLE"),
  (0x25CC, "aDOTTED CIRCLE;aCIRCLE WITH VERTICAL FILL;aBULLSEYE;aBLACK CIRCLE"),
  (0x25D0, "aCIRCLE WITH LEFT HALF BLACK;cRIGHT HALF BLACK;cLOWER HALF BLACK;cUPPER HALF BLACK"),
  (0x25D4, "aCIRCLE WITH UPPER RIGHT QUADRANT BLACK;cALL BUT UPPER LEFT QUADRANT BLACK"),
  (0x25D6, "aLEFT HALF BLACK CIRCLE;aRIGHT HALF BLACK CIRCLE;aINVERSE BULLET;bWHITE CIRCLE"),
  (0x25DA, "aUPPER HALF INVERSE WHITE CIRCLE;aLOWER HALF INVERSE WHITE CIRCLE"),
  (0x25DC, "aUPPER LEFT QUADRANT CIRCULAR ARC;bRIGHT QUADRANT CIRCULAR ARC"),
  (0x25DE, "aLOWER RIGHT QUADRANT CIRCULAR ARC;bLEFT QUADRANT CIRCULAR ARC;aUPPER HALF CIRCLE"),
  (0x25E1, "aLOWER HALF CIRCLE;aBLACK LOWER RIGHT TRIANGLE;cLEFT TRIANGLE;bUPPER LEFT TRIANGLE"),
  (0x25E5, "aBLACK UPPER RIGHT TRIANGLE;aWHITE BULLET;aSQUARE WITH LEFT HALF BLACK"),
  (0x25E8, "aSQUARE WITH RIGHT HALF BLACK;cUPPER LEFT DIAGONAL HALF BLACK"),
  (0x25EA, "aSQUARE WITH LOWER RIGHT DIAGONAL HALF BLACK"),
  (0x25EB, "aWHITE SQUARE WITH VERTICAL BISECTING LINE;bUP-POINTING TRIANGLE WITH DOT"),
  (0x25ED, "aUP-POINTING TRIANGLE WITH LEFT HALF BLACK;dRIGHT HALF BLACK;aLARGE CIRCLE"),
  (0x25F0, "aWHITE SQUARE WITH UPPER LEFT QUADRANT;dLOWER LEFT QUADRANT;eRIGHT QUADRANT"),
  (0x25F3, "aWHITE SQUARE WITH UPPER RIGHT QUADRANT;bCIRCLE WITH UPPER LEFT QUADRANT"),
  (0x25F5, "aWHITE CIRCLE WITH LOWER LEFT QUADRANT;eRIGHT QUADRANT;dUPPER RIGHT QUADRANT"),
  (0x25F8, "aUPPER LEFT TRIANGLE;bRIGHT TRIANGLE;aLOWER LEFT TRIANGLE;aWHITE MEDIUM SQUARE"),
  (0x25FC, "aBLACK MEDIUM SQUARE;aWHITE MEDIUM SMALL SQUARE;aBLACK MEDIUM SMALL SQUARE"),
  (0x25FF, "aLOWER RIGHT TRIANGLE;aBLACK SUN WITH RAYS;aCLOUD;aUMBRELLA;aSNOWMAN;aCOMET"),
  (0x2605, "aBLACK STAR;aWHITE STAR;aLIGHTNING;aTHUNDERSTORM;aSUN;aASCENDING NODE"),
  (0x260B, "aDESCENDING NODE;aCONJUNCTION;aOPPOSITION;aBLACK TELEPHONE;aWHITE TELEPHONE"),
  (0x2610, "aBALLOT BOX;cWITH CHECK;dX;aSALTIRE;aUMBRELLA WITH RAIN DROPS;aHOT BEVERAGE"),
  (0x2616, "aWHITE SHOGI PIECE;aBLACK SHOGI PIECE;aSHAMROCK;aREVERSED ROTATED FLORAL HEART BULLET"),
  (0x261A, "aBLACK LEFT POINTING INDEX;bRIGHT POINTING INDEX;aWHITE LEFT POINTING INDEX"),
  (0x261D, "aWHITE UP POINTING INDEX;bRIGHT POINTING INDEX;bDOWN POINTING INDEX"),
  (0x2620, "aSKULL AND CROSSBONES;aCAUTION SIGN;aRADIOACTIVE SIGN;aBIOHAZARD SIGN;aCADUCEUS;aANKH"),
  (0x2626, "aORTHODOX CROSS;aCHI RHO;aCROSS OF LORRAINE;cJERUSALEM;aSTAR AND CRESCENT"),
  (0x262B, "aFARSI SYMBOL;aADI SHAKTI;aHAMMER AND SICKLE;aPEACE SYMBOL;aYIN YANG"),
  (0x2630, "aTRIGRAM FOR HEAVEN;cLAKE;cFIRE;cTHUNDER;cWIND;cWATER;cMOUNTAIN;cEARTH"),
  (0x2638, "aWHEEL OF DHARMA;aWHITE FROWNING FACE;bSMILING FACE;aBLACK SMILING FACE"),
  (0x263C, "aWHITE SUN WITH RAYS;aFIRST QUARTER MOON;aLAST QUARTER MOON;aMERCURY;aFEMALE SIGN"),
  (0x2641, "aEARTH;aMALE SIGN;aJUPITER;aSATURN;aURANUS;aNEPTUNE;aPLUTO;aARIES;aTAURUS;aGEMINI"),
  (0x264B, "aCANCER;aLEO;aVIRGO;aLIBRA;aSCORPIUS;aSAGITTARIUS;aCAPRICORN;aAQUARIUS;aPISCES"),
  (0x2654, "aWHITE CHESS KING;cQUEEN;cROOK;cBISHOP;cKNIGHT;cPAWN;aBLACK CHESS KING;cQUEEN;cROOK"),
  (0x265D, "aBLACK CHESS BISHOP;cKNIGHT;cPAWN;bSPADE SUIT;aWHITE HEART SUIT;bDIAMOND SUIT"),
  (0x2663, "aBLACK CLUB SUIT;aWHITE SPADE SUIT;aBLACK HEART SUIT;bDIAMOND SUIT;aWHITE CLUB SUIT"),
  (0x2668, "aHOT SPRINGS;aQUARTER NOTE;aEIGHTH NOTE;aBEAMED EIGHTH NOTES;bSIXTEENTH NOTES"),
  (0x266D, "aMUSIC FLAT SIGN;bNATURAL SIGN;bSHARP SIGN;aWEST SYRIAC CROSS;aEAST SYRIAC CROSS"),
  (0x2672, "aUNIVERSAL RECYCLING SYMBOL;aRECYCLING SYMBOL FOR TYPE-1 PLASTICS;dTYPE-2 PLASTICS"),
  (0x2675, "aRECYCLING SYMBOL FOR TYPE-3 PLASTICS;dTYPE-4 PLASTICS;dTYPE-5 PLASTICS"),
  (0x2678, "aRECYCLING SYMBOL FOR TYPE-6 PLASTICS;dTYPE-7 PLASTICS;dGENERIC MATERIALS"),
  (0x267B, "aBLACK UNIVERSAL RECYCLING SYMBOL;aRECYCLED PAPER SYMBOL"),
  (0x267D, "aPARTIALLY-RECYCLED PAPER SYMBOL;aPERMANENT PAPER SIGN;aWHEELCHAIR SYMBOL;aDIE FACE-1"),
  (0x2681, "aDIE FACE-2;bFACE-3;bFACE-4;bFACE-5;bFACE-6;aWHITE CIRCLE WITH DOT RIGHT;dTWO DOTS"),
  (0x2688, "aBLACK CIRCLE WITH WHITE DOT RIGHT;dTWO WHITE DOTS;aMONOGRAM FOR YANG;cYIN"),
  (0x268C, "aDIGRAM FOR GREATER YANG;cLESSER YIN;dYANG;cGREATER YIN;aWHITE FLAG;aBLACK FLAG"),
  (0x2692, "aHAMMER AND PICK;aANCHOR;aCROSSED SWORDS;aSTAFF OF AESCULAPIUS;aSCALES;aALEMBIC"),
  (0x2698, "aFLOWER;aGEAR;aSTAFF OF HERMES;aATOM SYMBOL;aFLEUR-DE-LIS;aOUTLINED WHITE STAR"),
  (0x269E, "aTHREE LINES CONVERGING RIGHT;dLEFT;aWARNING SIGN;aHIGH VOLTAGE SIGN"),
  (0x26A2, "aDOUBLED FEMALE SIGN;bMALE SIGN;aINTERLOCKED FEMALE AND MALE SIGN"),
  (0x26A5, "aMALE AND FEMALE SIGN;bWITH STROKE SIGN;dAND MALE AND FEMALE SIGN"),
  (0x26A8, "aVERTICAL MALE WITH STROKE SIGN;aHORIZONTAL MALE WITH STROKE SIGN"),
  (0x26AA, "aMEDIUM WHITE CIRCLE;bBLACK CIRCLE;bSMALL WHITE CIRCLE;aMARRIAGE SYMBOL"),
  (0x26AE, "aDIVORCE SYMBOL;aUNMARRIED PARTNERSHIP SYMBOL;aCOFFIN;aFUNERAL URN;aNEUTER;aCERES"),
  (0x26B4, "aPALLAS;aJUNO;aVESTA;aCHIRON;aBLACK MOON LILITH;aSEXTILE;aSEMISEXTILE;aQUINCUNX"),
  (0x26BC, "aSESQUIQUADRATE;aSOCCER BALL;aBASEBALL;aSQUARED KEY;aWHITE DRAUGHTS MAN;cKING"),
  (0x26C2, "aBLACK DRAUGHTS MAN;cKING;aSNOWMAN WITHOUT SNOW;aSUN BEHIND CLOUD;aRAIN"),
  (0x26C7, "aBLACK SNOWMAN;aTHUNDER CLOUD AND RAIN;aTURNED WHITE SHOGI PIECE;bBLACK SHOGI PIECE"),
  (0x26CB, "aWHITE DIAMOND IN SQUARE;aCROSSING LANES;aDISABLED CAR;aOPHIUCHUS;aPICK;aCAR SLIDING"),
  (0x26D1, "aHELMET WITH WHITE CROSS;aCIRCLED CROSSING LANES;aCHAINS;aNO ENTRY"),
  (0x26D5, "aALTERNATE ONE-WAY LEFT WAY TRAFFIC;aBLACK TWO-WAY LEFT WAY TRAFFIC"),
  (0x26D7, "aWHITE TWO-WAY LEFT WAY TRAFFIC;aBLACK LEFT LANE MERGE;aWHITE LEFT LANE MERGE"),
  (0x26DA, "aDRIVE SLOW SIGN;aHEAVY WHITE DOWN-POINTING TRIANGLE;aLEFT CLOSED ENTRY"),
  (0x26DD, "aSQUARED SALTIRE;aFALLING DIAGONAL IN WHITE CIRCLE IN BLACK SQUARE;aBLACK TRUCK")]

/-- The lines of names from U+26E0 on. -/
def namesFrom26E0 : List (Nat × String) := [
  (0x26E0, "aRESTRICTED LEFT ENTRY-1;cENTRY-2;aASTRONOMICAL SYMBOL FOR URANUS"),
  (0x26E3, "aHEAVY CIRCLE WITH STROKE AND TWO DOTS ABOVE;aPENTAGRAM"),
  (0x26E5, "aRIGHT-HANDED INTERLACED PENTAGRAM;aLEFT-HANDED INTERLACED PENTAGRAM"),
  (0x26E7, "aINVERTED PENTAGRAM;aBLACK CROSS ON SHIELD;aSHINTO SHRINE;aCHURCH;aCASTLE"),
  (0x26EC, "aHISTORIC SITE;aGEAR WITHOUT HUB;bWITH HANDLES;aMAP SYMBOL FOR LIGHTHOUSE;aMOUNTAIN"),
  (0x26F1, "aUMBRELLA ON GROUND;aFOUNTAIN;aFLAG IN HOLE;aFERRY;aSAILBOAT;aSQUARE FOUR CORNERS"),
  (0x26F7, "aSKIER;aICE SKATE;aPERSON WITH BALL;aTENT;aJAPANESE BANK SYMBOL"),
  (0x26FC, "aHEADSTONE GRAVEYARD SYMBOL;aFUEL PUMP;aCUP ON BLACK SQUARE"),
  (0x26FF, "aWHITE FLAG WITH HORIZONTAL MIDDLE BLACK STRIPE;aBLACK SAFETY SCISSORS"),
  (0x2701, "aUPPER BLADE SCISSORS;aBLACK SCISSORS;aLOWER BLADE SCISSORS;aWHITE SCISSORS"),
  (0x2705, "aWHITE HEAVY CHECK MARK;aTELEPHONE LOCATION SIGN;aTAPE DRIVE;aAIRPLANE;aENVELOPE"),
  (0x270A, "aRAISED FIST;bHAND;aVICTORY HAND;aWRITING HAND;aLOWER RIGHT PENCIL;aPENCIL"),
  (0x2710, "aUPPER RIGHT PENCIL;aWHITE NIB;aBLACK NIB;aCHECK MARK;aHEAVY CHECK MARK"),
  (0x2715, "aMULTIPLICATION X;aHEAVY MULTIPLICATION X;aBALLOT X;aHEAVY BALLOT X"),
  (0x2719, "aOUTLINED GREEK CROSS;aHEAVY GREEK CROSS;aOPEN CENTRE CROSS;aHEAVY OPEN CENTRE CROSS"),
  (0x271D, "aLATIN CROSS;aSHADOWED WHITE LATIN CROSS;aOUTLINED LATIN CROSS;aMALTESE CROSS"),
  (0x2721, "aSTAR OF DAVID;aFOUR TEARDROP-SPOKED ASTERISK;bBALLOON-SPOKED ASTERISK"),
  (0x2724, "aHEAVY FOUR BALLOON-SPOKED ASTERISK;aFOUR CLUB-SPOKED ASTERISK"),
  (0x2726, "aBLACK FOUR POINTED STAR;aWHITE FOUR POINTED STAR;aSPARKLES"),
  (0x2729, "aSTRESS OUTLINED WHITE STAR;aCIRCLED WHITE STAR;aOPEN CENTRE BLACK STAR"),
  (0x272C, "aBLACK CENTRE WHITE STAR;aOUTLINED BLACK STAR;aHEAVY OUTLINED BLACK STAR"),
  (0x272F, "aPINWHEEL STAR;aSHADOWED WHITE STAR;aHEAVY ASTERISK;aOPEN CENTRE ASTERISK"),
  (0x2733, "aEIGHT SPOKED ASTERISK;bPOINTED BLACK STAR;cPINWHEEL STAR;aSIX POINTED BLACK STAR"),
  (0x2737, "aEIGHT POINTED RECTILINEAR BLACK STAR;aHEAVY EIGHT POINTED RECTILINEAR BLACK STAR"),
  (0x2739, "aTWELVE POINTED BLACK STAR;aSIXTEEN POINTED ASTERISK;aTEARDROP-SPOKED ASTERISK"),
  (0x273C, "aOPEN CENTRE TEARDROP-SPOKED ASTERISK;aHEAVY TEARDROP-SPOKED ASTERISK"),
  (0x273E, "aSIX PETALLED BLACK AND WHITE FLORETTE;aBLACK FLORETTE;aWHITE FLORETTE"),
  (0x2741, "aEIGHT PETALLED OUTLINED BLACK FLORETTE;aCIRCLED OPEN CENTRE EIGHT POINTED STAR"),
  (0x2743, "aHEAVY TEARDROP-SPOKED PINWHEEL ASTERISK;aSNOWFLAKE;aTIGHT TRIFOLIATE SNOWFLAKE"),
  (0x2746, "aHEAVY CHEVRON SNOWFLAKE;aSPARKLE;aHEAVY SPARKLE;aBALLOON-SPOKED ASTERISK"),
  (0x274A, "aEIGHT TEARDROP-SPOKED PROPELLER ASTERISK"),
  (0x274B, "aHEAVY EIGHT TEARDROP-SPOKED PROPELLER ASTERISK;aCROSS MARK;aSHADOWED WHITE CIRCLE"),
  (0x274E, "aNEGATIVE SQUARED CROSS MARK;aLOWER RIGHT DROP-SHADOWED WHITE SQUARE"),
  (0x2750, "aUPPER RIGHT DROP-SHADOWED WHITE SQUARE;aLOWER RIGHT SHADOWED WHITE SQUARE"),
  (0x2752, "aUPPER RIGHT SHADOWED WHITE SQUARE;aBLACK QUESTION MARK ORNAMENT"),
  (0x2754, "aWHITE QUESTION MARK ORNAMENT;bEXCLAMATION MARK ORNAMENT;aBLACK DIAMOND MINUS WHITE X"),
  (0x2757, "aHEAVY EXCLAMATION MARK SYMBOL;aLIGHT VERTICAL BAR;aMEDIUM VERTICAL BAR"),
  (0x275A, "aHEAVY VERTICAL BAR;bSINGLE TURNED COMMA QUOTATION MARK ORNAMENT"),
  (0x275C, "aHEAVY SINGLE COMMA QUOTATION MARK ORNAMENT"),
  (0x275D, "aHEAVY DOUBLE TURNED COMMA QUOTATION MARK ORNAMENT;cCOMMA QUOTATION MARK ORNAMENT"),
  (0x275F, "aHEAVY LOW SINGLE COMMA QUOTATION MARK ORNAMENT;cDOUBLE COMMA QUOTATION MARK ORNAMENT"),
  (0x2761, "aCURVED STEM PARAGRAPH SIGN ORNAMENT;aHEAVY EXCLAMATION MARK ORNAMENT"),
  (0x2763, "aHEAVY HEART EXCLAMATION MARK ORNAMENT;bBLACK HEART;aROTATED HEAVY BLACK HEART BULLET"),
  (0x2766, "aFLORAL HEART;aROTATED FLORAL HEART BULLET;aMEDIUM LEFT PARENTHESIS ORNAMENT"),
  (0x2769, "aMEDIUM RIGHT PARENTHESIS ORNAMENT;bFLATTENED LEFT PARENTHESIS ORNAMENT"),
  (0x276B, "aMEDIUM FLATTENED RIGHT PARENTHESIS ORNAMENT;bLEFT-POINTING ANGLE BRACKET ORNAMENT"),
  (0x276D, "aMEDIUM RIGHT-POINTING ANGLE BRACKET ORNAMENT"),
  (0x276E, "aHEAVY LEFT-POINTING ANGLE QUOTATION MARK ORNAMENT"),
  (0x276F, "aHEAVY RIGHT-POINTING ANGLE QUOTATION MARK ORNAMENT"),
  (0x2770, "aHEAVY LEFT-POINTING ANGLE BRACKET ORNAMENT;bRIGHT-POINTING ANGLE BRACKET ORNAMENT"),
  (0x2772, "aLIGHT LEFT TORTOISE SHELL BRACKET ORNAMENT;bRIGHT TORTOISE SHELL BRACKET ORNAMENT"),
  (0x2774, "aMEDIUM LEFT CURLY BRACKET ORNAMENT;bRIGHT CURLY BRACKET ORNAMENT"),
  (0x2776, "aDINGBAT NEGATIVE CIRCLED DIGIT ONE;eTWO;eTHREE;eFOUR;eFIVE;eSIX;eSEVEN;eEIGHT;eNINE"),
  (0x277F, "aDINGBAT NEGATIVE CIRCLED NUMBER TEN;bCIRCLED SANS-SERIF DIGIT ONE;eTWO;eTHREE;eFOUR"),
  (0x2784, "aDINGBAT CIRCLED SANS-SERIF DIGIT FIVE;eSIX;eSEVEN;eEIGHT;eNINE;dNUMBER TEN"),
  (0x278A, "aDINGBAT NEGATIVE CIRCLED SANS-SERIF DIGIT ONE;fTWO;fTHREE;fFOUR;fFIVE;fSIX;fSEVEN"),
  (0x2791, "aDINGBAT NEGATIVE CIRCLED SANS-SERIF DIGIT EIGHT;fNINE;eNUMBER TEN"),
  (0x2794, "aHEAVY WIDE-HEADED RIGHTWARDS ARROW;bPLUS SIGN;bMINUS SIGN;bDIVISION SIGN"),
  (0x2798, "aHEAVY SOUTH EAST ARROW;bRIGHTWARDS ARROW;bNORTH EAST ARROW"),
  (0x279B, "aDRAFTING POINT RIGHTWARDS ARROW;aHEAVY ROUND-TIPPED RIGHTWARDS ARROW"),
  (0x279D, "aTRIANGLE-HEADED RIGHTWARDS ARROW;aHEAVY TRIANGLE-HEADED RIGHTWARDS ARROW"),
  (0x279F, "aDASHED TRIANGLE-HEADED RIGHTWARDS ARROW"),
  (0x27A0, "aHEAVY DASHED TRIANGLE-HEADED RIGHTWARDS ARROW;aBLACK RIGHTWARDS ARROW"),
  (0x27A2, "aTHREE-D TOP-LIGHTED RIGHTWARDS ARROWHEAD;bBOTTOM-LIGHTED RIGHTWARDS ARROWHEAD"),
  (0x27A4, "aBLACK RIGHTWARDS ARROWHEAD;aHEAVY BLACK CURVED DOWNWARDS AND RIGHTWARDS ARROW"),
  (0x27A6, "aHEAVY BLACK CURVED UPWARDS AND RIGHTWARDS ARROW;aSQUAT BLACK RIGHTWARDS ARROW"),
  (0x27A8, "aHEAVY CONCAVE-POINTED BLACK RIGHTWARDS ARROW;aRIGHT-SHADED WHITE RIGHTWARDS ARROW"),
  (0x27AA, "aLEFT-SHADED WHITE RIGHTWARDS ARROW;aBACK-TILTED SHADOWED WHITE RIGHTWARDS ARROW"),
  (0x27AC, "aFRONT-TILTED SHADOWED WHITE RIGHTWARDS ARROW"),
  (0x27AD, "aHEAVY LOWER RIGHT-SHADOWED WHITE RIGHTWARDS ARROW"),
  (0x27AE, "aHEAVY UPPER RIGHT-SHADOWED WHITE RIGHTWARDS ARROW"),
  (0x27AF, "aNOTCHED LOWER RIGHT-SHADOWED WHITE RIGHTWARDS ARROW;aCURLY LOOP"),
  (0x27B1, "aNOTCHED UPPER RIGHT-SHADOWED WHITE RIGHTWARDS ARROW"),
  (0x27B2, "aCIRCLED HEAVY WHITE RIGHTWARDS ARROW;aWHITE-FEATHERED RIGHTWARDS ARROW"),
  (0x27B4, "aBLACK-FEATHERED SOUTH EAST ARROW;bRIGHTWARDS ARROW;bNORTH EAST ARROW"),
  (0x27B7, "aHEAVY BLACK-FEATHERED SOUTH EAST ARROW;cRIGHTWARDS ARROW;cNORTH EAST ARROW"),
  (0x27BA, "aTEARDROP-BARBED RIGHTWARDS ARROW;aHEAVY TEARDROP-SHANKED RIGHTWARDS ARROW"),
  (0x27BC, "aWEDGE-TAILED RIGHTWARDS ARROW;aHEAVY WEDGE-TAILED RIGHTWARDS ARROW"),
  (0x27BE, "aOPEN-OUTLINED RIGHTWARDS ARROW;aDOUBLE CURLY LOOP;aTHREE DIMENSIONAL ANGLE"),
  (0x27C1, "aWHITE TRIANGLE CONTAINING SMALL WHITE TRIANGLE;aPERPENDICULAR;aOPEN SUBSET;bSUPERSET"),
  (0x27C5, "aLEFT S-SHAPED BAG DELIMITER;aRIGHT S-SHAPED BAG DELIMITER;aOR WITH DOT INSIDE"),
  (0x27C8, "aREVERSE SOLIDUS PRECEDING SUBSET;aSUPERSET PRECEDING SOLIDUS"),
  (0x27CA, "aVERTICAL BAR WITH HORIZONTAL STROKE;aMATHEMATICAL RISING DIAGONAL;aLONG DIVISION"),
  (0x27CD, "aMATHEMATICAL FALLING DIAGONAL;aSQUARED LOGICAL AND;cOR"),
  (0x27D0, "aWHITE DIAMOND WITH CENTRED DOT;aAND WITH DOT;aELEMENT OF OPENING UPWARDS"),
  (0x27D3, "aLOWER RIGHT CORNER WITH DOT;aUPPER LEFT CORNER WITH DOT;aLEFT OUTER JOIN"),
  (0x27D6, "aRIGHT OUTER JOIN;aFULL OUTER JOIN;aLARGE UP TACK;bDOWN TACK"),
  (0x27DA, "aLEFT AND RIGHT DOUBLE TURNSTILE;dTACK;bMULTIMAP;aLONG RIGHT TACK;bLEFT TACK"),
  (0x27DF, "aUP TACK WITH CIRCLE ABOVE;aLOZENGE DIVIDED BY HORIZONTAL RULE"),
  (0x27E1, "aWHITE CONCAVE-SIDED DIAMOND;dWITH LEFTWARDS TICK;eRIGHTWARDS TICK"),
  (0x27E4, "aWHITE SQUARE WITH LEFTWARDS TICK;dRIGHTWARDS TICK"),
  (0x27E6, "aMATHEMATICAL LEFT WHITE SQUARE BRACKET;bRIGHT WHITE SQUARE BRACKET"),
  (0x27E8, "aMATHEMATICAL LEFT ANGLE BRACKET;bRIGHT ANGLE BRACKET;bLEFT DOUBLE ANGLE BRACKET"),
  (0x27EB, "aMATHEMATICAL RIGHT DOUBLE ANGLE BRACKET;bLEFT WHITE TORTOISE SHELL BRACKET"),
  (0x27ED, "aMATHEMATICAL RIGHT WHITE TORTOISE SHELL BRACKET;bLEFT FLATTENED PARENTHESIS"),
  (0x27EF, "aMATHEMATICAL RIGHT FLATTENED PARENTHESIS;aUPWARDS QUADRUPLE ARROW"),
  (0x27F1, "aDOWNWARDS QUADRUPLE ARROW;aANTICLOCKWISE GAPPED CIRCLE ARROW"),
  (0x27F3, "aCLOCKWISE GAPPED CIRCLE ARROW;aRIGHT ARROW WITH CIRCLED PLUS;aLONG LEFTWARDS ARROW"),
  (0x27F6, "aLONG RIGHTWARDS ARROW;bLEFT RIGHT ARROW;bLEFTWARDS DOUBLE ARROW"),
  (0x27F9, "aLONG RIGHTWARDS DOUBLE ARROW;bLEFT RIGHT DOUBLE ARROW;bLEFTWARDS ARROW FROM BAR"),
  (0x27FC, "aLONG RIGHTWARDS ARROW FROM BAR;bLEFTWARDS DOUBLE ARROW FROM BAR"),
  (0x27FE, "aLONG RIGHTWARDS DOUBLE ARROW FROM BAR;cSQUIGGLE ARROW;aBRAILLE PATTERN BLANK;cDOTS-1"),
  (0x2802, "aBRAILLE PATTERN DOTS-2;cDOTS-12;cDOTS-3;cDOTS-13;cDOTS-23;cDOTS-123;cDOTS-4;cDOTS-14"),
  (0x280A, "aBRAILLE PATTERN DOTS-24;cDOTS-124;cDOTS-34;cDOTS-134;cDOTS-234;cDOTS-1234;cDOTS-5"),
  (0x2811, "aBRAILLE PATTERN DOTS-15;cDOTS-25;cDOTS-125;cDOTS-35;cDOTS-135;cDOTS-235;cDOTS-1235"),
  (0x2818, "aBRAILLE PATTERN DOTS-45;cDOTS-145;cDOTS-245;cDOTS-1245;cDOTS-345;cDOTS-1345"),
  (0x281E, "aBRAILLE PATTERN DOTS-2345;cDOTS-12345;cDOTS-6;cDOTS-16;cDOTS-26;cDOTS-126;cDOTS-36"),
  (0x2825, "aBRAILLE PATTERN DOTS-136;cDOTS-236;cDOTS-1236;cDOTS-46;cDOTS-146;cDOTS-246"),
  (0x282B, "aBRAILLE PATTERN DOTS-1246;cDOTS-346;cDOTS-1346;cDOTS-2346;cDOTS-12346;cDOTS-56"),
  (0x2831, "aBRAILLE PATTERN DOTS-156;cDOTS-256;cDOTS-1256;cDOTS-356;cDOTS-1356;cDOTS-2356"),
  (0x2837, "aBRAILLE PATTERN DOTS-12356;cDOTS-456;cDOTS-1456;cDOTS-2456;cDOTS-12456;cDOTS-3456"),
  (0x283D, "aBRAILLE PATTERN DOTS-13456;cDOTS-23456;cDOTS-123456;cDOTS-7;cDOTS-17;cDOTS-27"),
  (0x2843, "aBRAILLE PATTERN DOTS-127;cDOTS-37;cDOTS-137;cDOTS-237;cDOTS-1237;cDOTS-47;cDOTS-147"),
  (0x284A, "aBRAILLE PATTERN DOTS-247;cDOTS-1247;cDOTS-347;cDOTS-1347;cDOTS-2347;cDOTS-12347"),
  (0x2850, "aBRAILLE PATTERN DOTS-57;cDOTS-157;cDOTS-257;cDOTS-1257;cDOTS-357;cDOTS-1357"),
  (0x2856, "aBRAILLE PATTERN DOTS-2357;cDOTS-12357;cDOTS-457;cDOTS-1457;cDOTS-2457;cDOTS-12457"),
  (0x285C, "aBRAILLE PATTERN DOTS-3457;cDOTS-13457;cDOTS-23457;cDOTS-123457;cDOTS-67;cDOTS-167"),
  (0x2862, "aBRAILLE PATTERN DOTS-267;cDOTS-1267;cDOTS-367;cDOTS-1367;cDOTS-2367;cDOTS-12367"),
  (0x2868, "aBRAILLE PATTERN DOTS-467;cDOTS-1467;cDOTS-2467;cDOTS-12467;cDOTS-3467;cDOTS-13467"),
  (0x286E, "aBRAILLE PATTERN DOTS-23467;cDOTS-123467;cDOTS-567;cDOTS-1567;cDOTS-2567;cDOTS-12567"),
  (0x2874, "aBRAILLE PATTERN DOTS-3567;cDOTS-13567;cDOTS-23567;cDOTS-123567;cDOTS-4567"),
  (0x2879, "aBRAILLE PATTERN DOTS-14567;cDOTS-24567;cDOTS-124567;cDOTS-34567;cDOTS-134567"),
  (0x287E, "aBRAILLE PATTERN DOTS-234567;cDOTS-1234567;cDOTS-8;cDOTS-18;cDOTS-28;cDOTS-128"),
  (0x2884, "aBRAILLE PATTERN DOTS-38;cDOTS-138;cDOTS-238;cDOTS-1238;cDOTS-48;cDOTS-148;cDOTS-248"),
  (0x288B, "aBRAILLE PATTERN DOTS-1248;cDOTS-348;cDOTS-1348;cDOTS-2348;cDOTS-12348;cDOTS-58"),
  (0x2891, "aBRAILLE PATTERN DOTS-158;cDOTS-258;cDOTS-1258;cDOTS-358;cDOTS-1358;cDOTS-2358"),
  (0x2897, "aBRAILLE PATTERN DOTS-12358;cDOTS-458;cDOTS-1458;cDOTS-2458;cDOTS-12458;cDOTS-3458"),
  (0x289D, "aBRAILLE PATTERN DOTS-13458;cDOTS-23458;cDOTS-123458;cDOTS-68;cDOTS-168;cDOTS-268"),
  (0x28A3, "aBRAILLE PATTERN DOTS-1268;cDOTS-368;cDOTS-1368;cDOTS-2368;cDOTS-12368;cDOTS-468"),
  (0x28A9, "aBRAILLE PATTERN DOTS-1468;cDOTS-2468;cDOTS-12468;cDOTS-3468;cDOTS-13468;cDOTS-23468"),
  (0x28AF, "aBRAILLE PATTERN DOTS-123468;cDOTS-568;cDOTS-1568;cDOTS-2568;cDOTS-12568;cDOTS-3568"),
  (0x28B5, "aBRAILLE PATTERN DOTS-13568;cDOTS-23568;cDOTS-123568;cDOTS-4568;cDOTS-14568"),
  (0x28BA, "aBRAILLE PATTERN DOTS-24568;cDOTS-124568;cDOTS-34568;cDOTS-134568;cDOTS-234568"),
  (0x28BF, "aBRAILLE PATTERN DOTS-1234568;cDOTS-78;cDOTS-178;cDOTS-278;cDOTS-1278;cDOTS-378"),
  (0x28C5, "aBRAILLE PATTERN DOTS-1378;cDOTS-2378;cDOTS-12378;cDOTS-478;cDOTS-1478;cDOTS-2478"),
  (0x28CB, "aBRAILLE PATTERN DOTS-12478;cDOTS-3478;cDOTS-13478;cDOTS-23478;cDOTS-123478;cDOTS-578"),
  (0x28D1, "aBRAILLE PATTERN DOTS-1578;cDOTS-2578;cDOTS-12578;cDOTS-3578;cDOTS-13578;cDOTS-23578"),
  (0x28D7, "aBRAILLE PATTERN DOTS-123578;cDOTS-4578;cDOTS-14578;cDOTS-24578;cDOTS-124578"),
  (0x28DC, "aBRAILLE PATTERN DOTS-34578;cDOTS-134578;cDOTS-234578;cDOTS-1234578;cDOTS-678"),
  (0x28E1, "aBRAILLE PATTERN DOTS-1678;cDOTS-2678;cDOTS-12678;cDOTS-3678;cDOTS-13678;cDOTS-23678"),
  (0x28E7, "aBRAILLE PATTERN DOTS-123678;cDOTS-4678;cDOTS-14678;cDOTS-24678;cDOTS-124678"),
  (0x28EC, "aBRAILLE PATTERN DOTS-34678;cDOTS-134678;cDOTS-234678;cDOTS-1234678;cDOTS-5678"),
  (0x28F1, "aBRAILLE PATTERN DOTS-15678;cDOTS-25678;cDOTS-125678;cDOTS-35678;cDOTS-135678"),
  (0x28F6, "aBRAILLE PATTERN DOTS-235678;cDOTS-1235678;cDOTS-45678;cDOTS-145678;cDOTS-245678"),
  (0x28FB, "aBRAILLE PATTERN DOTS-1245678;cDOTS-345678;cDOTS-1345678;cDOTS-2345678;cDOTS-12345678"),
  (0x2900, "aRIGHTWARDS TWO-HEADED ARROW WITH VERTICAL STROKE;eDOUBLE VERTICAL STROKE"),
  (0x2902, "aLEFTWARDS DOUBLE ARROW WITH VERTICAL STROKE"),
  (0x2903, "aRIGHTWARDS DOUBLE ARROW WITH VERTICAL STROKE"),
  (0x2904, "aLEFT RIGHT DOUBLE ARROW WITH VERTICAL STROKE;aRIGHTWARDS TWO-HEADED ARROW FROM BAR"),
  (0x2906, "aLEFTWARDS DOUBLE ARROW FROM BAR;aRIGHTWARDS DOUBLE ARROW FROM BAR"),
  (0x2908, "aDOWNWARDS ARROW WITH HORIZONTAL STROKE;aUPWARDS ARROW WITH HORIZONTAL STROKE"),
  (0x290A, "aUPWARDS TRIPLE ARROW;aDOWNWARDS TRIPLE ARROW;aLEFTWARDS DOUBLE DASH ARROW"),
  (0x290D, "aRIGHTWARDS DOUBLE DASH ARROW;aLEFTWARDS TRIPLE DASH ARROW"),
  (0x290F, "aRIGHTWARDS TRIPLE DASH ARROW;bTWO-HEADED TRIPLE DASH ARROW;bARROW WITH DOTTED STEM"),
  (0x2912, "aUPWARDS ARROW TO BAR;aDOWNWARDS ARROW TO BAR"),
  (0x2914, "aRIGHTWARDS ARROW WITH TAIL WITH VERTICAL STROKE;fDOUBLE VERTICAL STROKE"),
  (0x2916, "aRIGHTWARDS TWO-HEADED ARROW WITH TAIL;fWITH VERTICAL STROKE;gDOUBLE VERTICAL STROKE"),
  (0x2919, "aLEFTWARDS ARROW-TAIL;aRIGHTWARDS ARROW-TAIL;aLEFTWARDS DOUBLE ARROW-TAIL"),
  (0x291C, "aRIGHTWARDS DOUBLE ARROW-TAIL;aLEFTWARDS ARROW TO BLACK DIAMOND"),
  (0x291E, "aRIGHTWARDS ARROW TO BLACK DIAMOND;aLEFTWARDS ARROW FROM BAR TO BLACK DIAMOND"),
  (0x2920, "aRIGHTWARDS ARROW FROM BAR TO BLACK DIAMOND;aNORTH WEST AND SOUTH EAST ARROW"),
  (0x2922, "aNORTH EAST AND SOUTH WEST ARROW;bWEST ARROW WITH HOOK;bEAST ARROW WITH HOOK"),
  (0x2925, "aSOUTH EAST ARROW WITH HOOK;bWEST ARROW WITH HOOK"),
  (0x2927, "aNORTH WEST ARROW AND NORTH EAST ARROW;bEAST ARROW AND SOUTH EAST ARROW"),
  (0x2929, "aSOUTH EAST ARROW AND SOUTH WEST ARROW;bWEST ARROW AND NORTH WEST ARROW"),
  (0x292B, "aRISING DIAGONAL CROSSING FALLING DIAGONAL;aFALLING DIAGONAL CROSSING RISING DIAGONAL"),
  (0x292D, "aSOUTH EAST ARROW CROSSING NORTH EAST ARROW"),
  (0x292E, "aNORTH EAST ARROW CROSSING SOUTH EAST ARROW"),
  (0x292F, "aFALLING DIAGONAL CROSSING NORTH EAST ARROW"),
  (0x2930, "aRISING DIAGONAL CROSSING SOUTH EAST ARROW"),
  (0x2931, "aNORTH EAST ARROW CROSSING NORTH WEST ARROW;bWEST ARROW CROSSING NORTH EAST ARROW"),
  (0x2933, "aWAVE ARROW POINTING DIRECTLY RIGHT;aARROW POINTING RIGHTWARDS THEN CURVING UPWARDS"),
  (0x2935, "aARROW POINTING RIGHTWARDS THEN CURVING DOWNWARDS;cDOWNWARDS THEN CURVING LEFTWARDS"),
  (0x2937, "aARROW POINTING DOWNWARDS THEN CURVING RIGHTWARDS;aRIGHT-SIDE ARC CLOCKWISE ARROW"),
  (0x2939, "aLEFT-SIDE ARC ANTICLOCKWISE ARROW;aTOP ARC ANTICLOCKWISE ARROW"),
  (0x293B, "aBOTTOM ARC ANTICLOCKWISE ARROW;aTOP ARC CLOCKWISE ARROW WITH MINUS"),
  (0x293D, "aTOP ARC ANTICLOCKWISE ARROW WITH PLUS;aLOWER RIGHT SEMICIRCULAR CLOCKWISE ARROW"),
  (0x293F, "aLOWER LEFT SEMICIRCULAR ANTICLOCKWISE ARROW;aANTICLOCKWISE CLOSED CIRCLE ARROW"),
  (0x2941, "aCLOCKWISE CLOSED CIRCLE ARROW;aRIGHTWARDS ARROW ABOVE SHORT LEFTWARDS ARROW"),
  (0x2943, "aLEFTWARDS ARROW ABOVE SHORT RIGHTWARDS ARROW"),
  (0x2944, "aSHORT RIGHTWARDS ARROW ABOVE LEFTWARDS ARROW;aRIGHTWARDS ARROW WITH PLUS BELOW"),
  (0x2946, "aLEFTWARDS ARROW WITH PLUS BELOW;aRIGHTWARDS ARROW THROUGH X"),
  (0x2948, "aLEFT RIGHT ARROW THROUGH SMALL CIRCLE;aUPWARDS TWO-HEADED ARROW FROM SMALL CIRCLE"),
  (0x294A, "aLEFT BARB UP RIGHT BARB DOWN HARPOON;cDOWN RIGHT BARB UP HARPOON"),
  (0x294C, "aUP BARB RIGHT DOWN BARB LEFT HARPOON;cLEFT DOWN BARB RIGHT HARPOON"),
  (0x294E, "aLEFT BARB UP RIGHT BARB UP HARPOON;aUP BARB RIGHT DOWN BARB RIGHT HARPOON"),
  (0x2950, "aLEFT BARB DOWN RIGHT BARB DOWN HARPOON;aUP BARB LEFT DOWN BARB LEFT HARPOON"),
  (0x2952, "aLEFTWARDS HARPOON WITH BARB UP TO BAR;aRIGHTWARDS HARPOON WITH BARB UP TO BAR"),
  (0x2954, "aUPWARDS HARPOON WITH BARB RIGHT TO BAR;aDOWNWARDS HARPOON WITH BARB RIGHT TO BAR"),
  (0x2956, "aLEFTWARDS HARPOON WITH BARB DOWN TO BAR;aRIGHTWARDS HARPOON WITH BARB DOWN TO BAR"),
  (0x2958, "aUPWARDS HARPOON WITH BARB LEFT TO BAR;aDOWNWARDS HARPOON WITH BARB LEFT TO BAR"),
  (0x295A, "aLEFTWARDS HARPOON WITH BARB UP FROM BAR;aRIGHTWARDS HARPOON WITH BARB UP FROM BAR"),
  (0x295C, "aUPWARDS HARPOON WITH BARB RIGHT FROM BAR;aDOWNWARDS HARPOON WITH BARB RIGHT FROM BAR"),
  (0x295E, "aLEFTWARDS HARPOON WITH BARB DOWN FROM BAR"),
  (0x295F, "aRIGHTWARDS HARPOON WITH BARB DOWN FROM BAR;aUPWARDS HARPOON WITH BARB LEFT FROM BAR"),
  (0x2961, "aDOWNWARDS HARPOON WITH BARB LEFT FROM BAR"),
  (0x2962, "aLEFTWARDS HARPOON WITH BARB UP ABOVE LEFTWARDS HARPOON WITH BARB DOWN"),
  (0x2963, "aUPWARDS HARPOON WITH BARB LEFT BESIDE UPWARDS HARPOON WITH BARB RIGHT"),
  (0x2964, "aRIGHTWARDS HARPOON WITH BARB UP ABOVE RIGHTWARDS HARPOON WITH BARB DOWN"),
  (0x2965, "aDOWNWARDS HARPOON WITH BARB LEFT BESIDE DOWNWARDS HARPOON WITH BARB RIGHT"),
  (0x2966, "aLEFTWARDS HARPOON WITH BARB UP ABOVE RIGHTWARDS HARPOON WITH BARB UP"),
  (0x2967, "aLEFTWARDS HARPOON WITH BARB DOWN ABOVE RIGHTWARDS HARPOON WITH BARB DOWN"),
  (0x2968, "aRIGHTWARDS HARPOON WITH BARB UP ABOVE LEFTWARDS HARPOON WITH BARB UP"),
  (0x2969, "aRIGHTWARDS HARPOON WITH BARB DOWN ABOVE LEFTWARDS HARPOON WITH BARB DOWN"),
  (0x296A, "aLEFTWARDS HARPOON WITH BARB UP ABOVE LONG DASH;eDOWN BELOW LONG DASH"),
  (0x296C, "aRIGHTWARDS HARPOON WITH BARB UP ABOVE LONG DASH;eDOWN BELOW LONG DASH"),
  (0x296E, "aUPWARDS HARPOON WITH BARB LEFT BESIDE DOWNWARDS HARPOON WITH BARB RIGHT"),
  (0x296F, "aDOWNWARDS HARPOON WITH BARB LEFT BESIDE UPWARDS HARPOON WITH BARB RIGHT"),
  (0x2970, "aRIGHT DOUBLE ARROW WITH ROUNDED HEAD;aEQUALS SIGN ABOVE RIGHTWARDS ARROW"),
  (0x2972, "aTILDE OPERATOR ABOVE RIGHTWARDS ARROW;aLEFTWARDS ARROW ABOVE TILDE OPERATOR"),
  (0x2974, "aRIGHTWARDS ARROW ABOVE TILDE OPERATOR;dALMOST EQUAL TO"),
  (0x2976, "aLESS-THAN ABOVE LEFTWARDS ARROW;aLEFTWARDS ARROW THROUGH LESS-THAN"),
  (0x2978, "aGREATER-THAN ABOVE RIGHTWARDS ARROW;aSUBSET ABOVE RIGHTWARDS ARROW"),
  (0x297A, "aLEFTWARDS ARROW THROUGH SUBSET;aSUPERSET ABOVE LEFTWARDS ARROW;aLEFT FISH TAIL"),
  (0x297D, "aRIGHT FISH TAIL;aUP FISH TAIL;aDOWN FISH TAIL;aTRIPLE VERTICAL BAR DELIMITER"),
  (0x2981, "aZ NOTATION SPOT;cTYPE COLON;aLEFT WHITE CURLY BRACKET;aRIGHT WHITE CURLY BRACKET"),
  (0x2985, "aLEFT WHITE PARENTHESIS;aRIGHT WHITE PARENTHESIS;aZ NOTATION LEFT IMAGE BRACKET"),
  (0x2988, "aZ NOTATION RIGHT IMAGE BRACKET;cLEFT BINDING BRACKET;cRIGHT BINDING BRACKET"),
  (0x298B, "aLEFT SQUARE BRACKET WITH UNDERBAR;aRIGHT SQUARE BRACKET WITH UNDERBAR"),
  (0x298D, "aLEFT SQUARE BRACKET WITH TICK IN TOP CORNER")]

/-- The lines of names from U+298E on. -/
def namesFrom298E : List (Nat × String) := [
  (0x298E, "aRIGHT SQUARE BRACKET WITH TICK IN BOTTOM CORNER"),
  (0x298F, "aLEFT SQUARE BRACKET WITH TICK IN BOTTOM CORNER"),
  (0x2990, "aRIGHT SQUARE BRACKET WITH TICK IN TOP CORNER;aLEFT ANGLE BRACKET WITH DOT"),
  (0x2992, "aRIGHT ANGLE BRACKET WITH DOT;aLEFT ARC LESS-THAN BRACKET"),
  (0x2994, "aRIGHT ARC GREATER-THAN BRACKET;aDOUBLE LEFT ARC GREATER-THAN BRACKET"),
  (0x2996, "aDOUBLE RIGHT ARC LESS-THAN BRACKET;aLEFT BLACK TORTOISE SHELL BRACKET"),
  (0x2998, "aRIGHT BLACK TORTOISE SHELL BRACKET;aDOTTED FENCE;aVERTICAL ZIGZAG LINE"),
  (0x299B, "aMEASURED ANGLE OPENING LEFT;aRIGHT ANGLE VARIANT WITH SQUARE"),
  (0x299D, "aMEASURED RIGHT ANGLE WITH DOT;aANGLE WITH S INSIDE;aACUTE ANGLE"),
  (0x29A0, "aSPHERICAL ANGLE OPENING LEFT;dUP;aTURNED ANGLE;aREVERSED ANGLE;aANGLE WITH UNDERBAR"),
  (0x29A5, "aREVERSED ANGLE WITH UNDERBAR;aOBLIQUE ANGLE OPENING UP;dDOWN"),
  (0x29A8, "aMEASURED ANGLE WITH OPEN ARM ENDING IN ARROW POINTING UP AND RIGHT;lLEFT"),
  (0x29AA, "aMEASURED ANGLE WITH OPEN ARM ENDING IN ARROW POINTING DOWN AND RIGHT;lLEFT"),
  (0x29AC, "aMEASURED ANGLE WITH OPEN ARM ENDING IN ARROW POINTING RIGHT AND UP;jLEFT AND UP"),
  (0x29AE, "aMEASURED ANGLE WITH OPEN ARM ENDING IN ARROW POINTING RIGHT AND DOWN;jLEFT AND DOWN"),
  (0x29B0, "aREVERSED EMPTY SET;aEMPTY SET WITH OVERBAR;dSMALL CIRCLE ABOVE;dRIGHT ARROW ABOVE"),
  (0x29B4, "aEMPTY SET WITH LEFT ARROW ABOVE;aCIRCLE WITH HORIZONTAL BAR;aCIRCLED VERTICAL BAR"),
  (0x29B7, "aCIRCLED PARALLEL;bREVERSE SOLIDUS;bPERPENDICULAR"),
  (0x29BA, "aCIRCLE DIVIDED BY HORIZONTAL BAR AND TOP HALF DIVIDED BY VERTICAL BAR"),
  (0x29BB, "aCIRCLE WITH SUPERIMPOSED X;aCIRCLED ANTICLOCKWISE-ROTATED DIVISION SIGN"),
  (0x29BD, "aUP ARROW THROUGH CIRCLE;aCIRCLED WHITE BULLET;bBULLET;bLESS-THAN;bGREATER-THAN"),
  (0x29C2, "aCIRCLE WITH SMALL CIRCLE TO THE RIGHT;cTWO HORIZONTAL STROKES TO THE RIGHT"),
  (0x29C4, "aSQUARED RISING DIAGONAL SLASH;bFALLING DIAGONAL SLASH;bASTERISK;bSMALL CIRCLE"),
  (0x29C8, "aSQUARED SQUARE;aTWO JOINED SQUARES;aTRIANGLE WITH DOT ABOVE;cUNDERBAR;aS IN TRIANGLE"),
  (0x29CD, "aTRIANGLE WITH SERIFS AT BOTTOM;aRIGHT TRIANGLE ABOVE LEFT TRIANGLE"),
  (0x29CF, "aLEFT TRIANGLE BESIDE VERTICAL BAR;aVERTICAL BAR BESIDE RIGHT TRIANGLE"),
  (0x29D1, "aBOWTIE WITH LEFT HALF BLACK;cRIGHT HALF BLACK;aBLACK BOWTIE"),
  (0x29D4, "aTIMES WITH LEFT HALF BLACK;cRIGHT HALF BLACK;aWHITE HOURGLASS;aBLACK HOURGLASS"),
  (0x29D8, "aLEFT WIGGLY FENCE;aRIGHT WIGGLY FENCE;aLEFT DOUBLE WIGGLY FENCE"),
  (0x29DB, "aRIGHT DOUBLE WIGGLY FENCE;aINCOMPLETE INFINITY;aTIE OVER INFINITY"),
  (0x29DE, "aINFINITY NEGATED WITH VERTICAL BAR;aDOUBLE-ENDED MULTIMAP"),
  (0x29E0, "aSQUARE WITH CONTOURED OUTLINE;aINCREASES AS;aSHUFFLE PRODUCT"),
  (0x29E3, "aEQUALS SIGN AND SLANTED PARALLEL;fWITH TILDE ABOVE"),
  (0x29E5, "aIDENTICAL TO AND SLANTED PARALLEL;aGLEICH STARK;aTHERMODYNAMIC"),
  (0x29E8, "aDOWN-POINTING TRIANGLE WITH LEFT HALF BLACK;dRIGHT HALF BLACK"),
  (0x29EA, "aBLACK DIAMOND WITH DOWN ARROW;bLOZENGE;aWHITE CIRCLE WITH DOWN ARROW"),
  (0x29ED, "aBLACK CIRCLE WITH DOWN ARROW;aERROR-BARRED WHITE SQUARE;bBLACK SQUARE;bWHITE DIAMOND"),
  (0x29F1, "aERROR-BARRED BLACK DIAMOND;bWHITE CIRCLE;bBLACK CIRCLE;aRULE-DELAYED"),
  (0x29F5, "aREVERSE SOLIDUS OPERATOR;aSOLIDUS WITH OVERBAR"),
  (0x29F7, "aREVERSE SOLIDUS WITH HORIZONTAL STROKE;aBIG SOLIDUS;bREVERSE SOLIDUS;aDOUBLE PLUS"),
  (0x29FB, "aTRIPLE PLUS;aLEFT-POINTING CURVED ANGLE BRACKET;aRIGHT-POINTING CURVED ANGLE BRACKET"),
  (0x29FE, "aTINY;aMINY;aN-ARY CIRCLED DOT OPERATOR;cPLUS OPERATOR;cTIMES OPERATOR"),
  (0x2A03, "aN-ARY UNION OPERATOR WITH DOT;ePLUS;bSQUARE INTERSECTION OPERATOR;cUNION OPERATOR"),
  (0x2A07, "aTWO LOGICAL AND OPERATOR;cOR OPERATOR;aN-ARY TIMES OPERATOR;aMODULO TWO SUM"),
  (0x2A0B, "aSUMMATION WITH INTEGRAL;aQUADRUPLE INTEGRAL OPERATOR;aFINITE PART INTEGRAL"),
  (0x2A0E, "aINTEGRAL WITH DOUBLE STROKE;bAVERAGE WITH SLASH;aCIRCULATION FUNCTION"),
  (0x2A11, "aANTICLOCKWISE INTEGRATION;aLINE INTEGRATION WITH RECTANGULAR PATH AROUND POLE"),
  (0x2A13, "aLINE INTEGRATION WITH SEMICIRCULAR PATH AROUND POLE;cNOT INCLUDING THE POLE"),
  (0x2A15, "aINTEGRAL AROUND A POINT OPERATOR;aQUATERNION INTEGRAL OPERATOR"),
  (0x2A17, "aINTEGRAL WITH LEFTWARDS ARROW WITH HOOK;cTIMES SIGN;cINTERSECTION;cUNION;cOVERBAR"),
  (0x2A1C, "aINTEGRAL WITH UNDERBAR;aJOIN;aLARGE LEFT TRIANGLE OPERATOR"),
  (0x2A1F, "aZ NOTATION SCHEMA COMPOSITION;dPIPING;dPROJECTION;aPLUS SIGN WITH SMALL CIRCLE ABOVE"),
  (0x2A23, "aPLUS SIGN WITH CIRCUMFLEX ACCENT ABOVE;dTILDE ABOVE;dDOT BELOW;dTILDE BELOW"),
  (0x2A27, "aPLUS SIGN WITH SUBSCRIPT TWO;dBLACK TRIANGLE;aMINUS SIGN WITH COMMA ABOVE;dDOT BELOW"),
  (0x2A2B, "aMINUS SIGN WITH FALLING DOTS;dRISING DOTS;aPLUS SIGN IN LEFT HALF CIRCLE"),
  (0x2A2E, "aPLUS SIGN IN RIGHT HALF CIRCLE;aVECTOR OR CROSS PRODUCT"),
  (0x2A30, "aMULTIPLICATION SIGN WITH DOT ABOVE;dUNDERBAR;aSEMIDIRECT PRODUCT WITH BOTTOM CLOSED"),
  (0x2A33, "aSMASH PRODUCT;aMULTIPLICATION SIGN IN LEFT HALF CIRCLE;dRIGHT HALF CIRCLE"),
  (0x2A36, "aCIRCLED MULTIPLICATION SIGN WITH CIRCUMFLEX ACCENT"),
  (0x2A37, "aMULTIPLICATION SIGN IN DOUBLE CIRCLE;aCIRCLED DIVISION SIGN;aPLUS SIGN IN TRIANGLE"),
  (0x2A3A, "aMINUS SIGN IN TRIANGLE;aMULTIPLICATION SIGN IN TRIANGLE;aINTERIOR PRODUCT"),
  (0x2A3D, "aRIGHTHAND INTERIOR PRODUCT;aZ NOTATION RELATIONAL COMPOSITION"),
  (0x2A3F, "aAMALGAMATION OR COPRODUCT;aINTERSECTION WITH DOT;aUNION WITH MINUS SIGN;cOVERBAR"),
  (0x2A43, "aINTERSECTION WITH OVERBAR;cLOGICAL AND;aUNION WITH LOGICAL OR;bABOVE INTERSECTION"),
  (0x2A47, "aINTERSECTION ABOVE UNION;aUNION ABOVE BAR ABOVE INTERSECTION"),
  (0x2A49, "aINTERSECTION ABOVE BAR ABOVE UNION;aUNION BESIDE AND JOINED WITH UNION"),
  (0x2A4B, "aINTERSECTION BESIDE AND JOINED WITH INTERSECTION;aCLOSED UNION WITH SERIFS"),
  (0x2A4D, "aCLOSED INTERSECTION WITH SERIFS;aDOUBLE SQUARE INTERSECTION;cUNION"),
  (0x2A50, "aCLOSED UNION WITH SERIFS AND SMASH PRODUCT;aLOGICAL AND WITH DOT ABOVE"),
  (0x2A52, "aLOGICAL OR WITH DOT ABOVE;aDOUBLE LOGICAL AND;cOR;aTWO INTERSECTING LOGICAL AND;dOR"),
  (0x2A57, "aSLOPING LARGE OR;cAND;aLOGICAL OR OVERLAPPING LOGICAL AND;bAND WITH MIDDLE STEM"),
  (0x2A5B, "aLOGICAL OR WITH MIDDLE STEM;bAND WITH HORIZONTAL DASH;bOR WITH HORIZONTAL DASH"),
  (0x2A5E, "aLOGICAL AND WITH DOUBLE OVERBAR;dUNDERBAR;dDOUBLE UNDERBAR;aSMALL VEE WITH UNDERBAR"),
  (0x2A62, "aLOGICAL OR WITH DOUBLE OVERBAR;eUNDERBAR;aZ NOTATION DOMAIN ANTIRESTRICTION"),
  (0x2A65, "aZ NOTATION RANGE ANTIRESTRICTION;aEQUALS SIGN WITH DOT BELOW"),
  (0x2A67, "aIDENTICAL WITH DOT ABOVE;aTRIPLE HORIZONTAL BAR WITH DOUBLE VERTICAL STROKE"),
  (0x2A69, "aTRIPLE HORIZONTAL BAR WITH TRIPLE VERTICAL STROKE;aTILDE OPERATOR WITH DOT ABOVE"),
  (0x2A6B, "aTILDE OPERATOR WITH RISING DOTS;aSIMILAR MINUS SIMILAR;aCONGRUENT WITH DOT ABOVE"),
  (0x2A6E, "aEQUALS WITH ASTERISK;aALMOST EQUAL TO WITH CIRCUMFLEX ACCENT"),
  (0x2A70, "aAPPROXIMATELY EQUAL OR EQUAL TO;aEQUALS SIGN ABOVE PLUS SIGN"),
  (0x2A72, "aPLUS SIGN ABOVE EQUALS SIGN;aEQUALS SIGN ABOVE TILDE OPERATOR;aDOUBLE COLON EQUAL"),
  (0x2A75, "aTWO CONSECUTIVE EQUALS SIGNS;aTHREE CONSECUTIVE EQUALS SIGNS"),
  (0x2A77, "aEQUALS SIGN WITH TWO DOTS ABOVE AND TWO DOTS BELOW;aEQUIVALENT WITH FOUR DOTS ABOVE"),
  (0x2A79, "aLESS-THAN WITH CIRCLE INSIDE;aGREATER-THAN WITH CIRCLE INSIDE"),
  (0x2A7B, "aLESS-THAN WITH QUESTION MARK ABOVE;aGREATER-THAN WITH QUESTION MARK ABOVE"),
  (0x2A7D, "aLESS-THAN OR SLANTED EQUAL TO;aGREATER-THAN OR SLANTED EQUAL TO"),
  (0x2A7F, "aLESS-THAN OR SLANTED EQUAL TO WITH DOT INSIDE"),
  (0x2A80, "aGREATER-THAN OR SLANTED EQUAL TO WITH DOT INSIDE"),
  (0x2A81, "aLESS-THAN OR SLANTED EQUAL TO WITH DOT ABOVE"),
  (0x2A82, "aGREATER-THAN OR SLANTED EQUAL TO WITH DOT ABOVE"),
  (0x2A83, "aLESS-THAN OR SLANTED EQUAL TO WITH DOT ABOVE RIGHT"),
  (0x2A84, "aGREATER-THAN OR SLANTED EQUAL TO WITH DOT ABOVE LEFT;aLESS-THAN OR APPROXIMATE"),
  (0x2A86, "aGREATER-THAN OR APPROXIMATE;aLESS-THAN AND SINGLE-LINE NOT EQUAL TO"),
  (0x2A88, "aGREATER-THAN AND SINGLE-LINE NOT EQUAL TO;aLESS-THAN AND NOT APPROXIMATE"),
  (0x2A8A, "aGREATER-THAN AND NOT APPROXIMATE"),
  (0x2A8B, "aLESS-THAN ABOVE DOUBLE-LINE EQUAL ABOVE GREATER-THAN"),
  (0x2A8C, "aGREATER-THAN ABOVE DOUBLE-LINE EQUAL ABOVE LESS-THAN"),
  (0x2A8D, "aLESS-THAN ABOVE SIMILAR OR EQUAL;aGREATER-THAN ABOVE SIMILAR OR EQUAL"),
  (0x2A8F, "aLESS-THAN ABOVE SIMILAR ABOVE GREATER-THAN"),
  (0x2A90, "aGREATER-THAN ABOVE SIMILAR ABOVE LESS-THAN"),
  (0x2A91, "aLESS-THAN ABOVE GREATER-THAN ABOVE DOUBLE-LINE EQUAL"),
  (0x2A92, "aGREATER-THAN ABOVE LESS-THAN ABOVE DOUBLE-LINE EQUAL"),
  (0x2A93, "aLESS-THAN ABOVE SLANTED EQUAL ABOVE GREATER-THAN ABOVE SLANTED EQUAL"),
  (0x2A94, "aGREATER-THAN ABOVE SLANTED EQUAL ABOVE LESS-THAN ABOVE SLANTED EQUAL"),
  (0x2A95, "aSLANTED EQUAL TO OR LESS-THAN;eGREATER-THAN;eLESS-THAN WITH DOT INSIDE"),
  (0x2A98, "aSLANTED EQUAL TO OR GREATER-THAN WITH DOT INSIDE;aDOUBLE-LINE EQUAL TO OR LESS-THAN"),
  (0x2A9A, "aDOUBLE-LINE EQUAL TO OR GREATER-THAN;bSLANTED EQUAL TO OR LESS-THAN;fGREATER-THAN"),
  (0x2A9D, "aSIMILAR OR LESS-THAN;cGREATER-THAN;bABOVE LESS-THAN ABOVE EQUALS SIGN"),
  (0x2AA0, "aSIMILAR ABOVE GREATER-THAN ABOVE EQUALS SIGN;aDOUBLE NESTED LESS-THAN;cGREATER-THAN"),
  (0x2AA3, "aDOUBLE NESTED LESS-THAN WITH UNDERBAR;aGREATER-THAN OVERLAPPING LESS-THAN"),
  (0x2AA5, "aGREATER-THAN BESIDE LESS-THAN;aLESS-THAN CLOSED BY CURVE"),
  (0x2AA7, "aGREATER-THAN CLOSED BY CURVE;aLESS-THAN CLOSED BY CURVE ABOVE SLANTED EQUAL"),
  (0x2AA9, "aGREATER-THAN CLOSED BY CURVE ABOVE SLANTED EQUAL;aSMALLER THAN;aLARGER THAN"),
  (0x2AAC, "aSMALLER THAN OR EQUAL TO;aLARGER THAN OR EQUAL TO;aEQUALS SIGN WITH BUMPY ABOVE"),
  (0x2AAF, "aPRECEDES ABOVE SINGLE-LINE EQUALS SIGN;aSUCCEEDS ABOVE SINGLE-LINE EQUALS SIGN"),
  (0x2AB1, "aPRECEDES ABOVE SINGLE-LINE NOT EQUAL TO;aSUCCEEDS ABOVE SINGLE-LINE NOT EQUAL TO"),
  (0x2AB3, "aPRECEDES ABOVE EQUALS SIGN;aSUCCEEDS ABOVE EQUALS SIGN;aPRECEDES ABOVE NOT EQUAL TO"),
  (0x2AB6, "aSUCCEEDS ABOVE NOT EQUAL TO;aPRECEDES ABOVE ALMOST EQUAL TO"),
  (0x2AB8, "aSUCCEEDS ABOVE ALMOST EQUAL TO;aPRECEDES ABOVE NOT ALMOST EQUAL TO"),
  (0x2ABA, "aSUCCEEDS ABOVE NOT ALMOST EQUAL TO;aDOUBLE PRECEDES;bSUCCEEDS;aSUBSET WITH DOT"),
  (0x2ABE, "aSUPERSET WITH DOT;aSUBSET WITH PLUS SIGN BELOW;aSUPERSET WITH PLUS SIGN BELOW"),
  (0x2AC1, "aSUBSET WITH MULTIPLICATION SIGN BELOW;aSUPERSET WITH MULTIPLICATION SIGN BELOW"),
  (0x2AC3, "aSUBSET OF OR EQUAL TO WITH DOT ABOVE;aSUPERSET OF OR EQUAL TO WITH DOT ABOVE"),
  (0x2AC5, "aSUBSET OF ABOVE EQUALS SIGN;aSUPERSET OF ABOVE EQUALS SIGN"),
  (0x2AC7, "aSUBSET OF ABOVE TILDE OPERATOR;aSUPERSET OF ABOVE TILDE OPERATOR"),
  (0x2AC9, "aSUBSET OF ABOVE ALMOST EQUAL TO;aSUPERSET OF ABOVE ALMOST EQUAL TO"),
  (0x2ACB, "aSUBSET OF ABOVE NOT EQUAL TO;aSUPERSET OF ABOVE NOT EQUAL TO"),
  (0x2ACD, "aSQUARE LEFT OPEN BOX OPERATOR;bRIGHT OPEN BOX OPERATOR;aCLOSED SUBSET;bSUPERSET"),
  (0x2AD1, "aCLOSED SUBSET OR EQUAL TO;bSUPERSET OR EQUAL TO;aSUBSET ABOVE SUPERSET"),
  (0x2AD4, "aSUPERSET ABOVE SUBSET;aSUBSET ABOVE SUBSET;aSUPERSET ABOVE SUPERSET;bBESIDE SUBSET"),
  (0x2AD8, "aSUPERSET BESIDE AND JOINED BY DASH WITH SUBSET;aELEMENT OF OPENING DOWNWARDS"),
  (0x2ADA, "aPITCHFORK WITH TEE TOP;aTRANSVERSAL INTERSECTION;aFORKING;aNONFORKING"),
  (0x2ADE, "aSHORT LEFT TACK;bDOWN TACK;bUP TACK;aPERPENDICULAR WITH S"),
  (0x2AE2, "aVERTICAL BAR TRIPLE RIGHT TURNSTILE;aDOUBLE VERTICAL BAR LEFT TURNSTILE"),
  (0x2AE4, "aVERTICAL BAR DOUBLE LEFT TURNSTILE;aDOUBLE VERTICAL BAR DOUBLE LEFT TURNSTILE"),
  (0x2AE6, "aLONG DASH FROM LEFT MEMBER OF DOUBLE VERTICAL;aSHORT DOWN TACK WITH OVERBAR"),
  (0x2AE8, "aSHORT UP TACK WITH UNDERBAR;dABOVE SHORT DOWN TACK;aDOUBLE DOWN TACK;bUP TACK"),
  (0x2AEC, "aDOUBLE STROKE NOT SIGN;aREVERSED DOUBLE STROKE NOT SIGN"),
  (0x2AEE, "aDOES NOT DIVIDE WITH REVERSED NEGATION SLASH;aVERTICAL LINE WITH CIRCLE ABOVE;eBELOW"),
  (0x2AF1, "aDOWN TACK WITH CIRCLE BELOW;aPARALLEL WITH HORIZONTAL STROKE;cTILDE OPERATOR"),
  (0x2AF4, "aTRIPLE VERTICAL BAR BINARY RELATION;dWITH HORIZONTAL STROKE;bCOLON OPERATOR"),
  (0x2AF7, "aTRIPLE NESTED LESS-THAN;cGREATER-THAN;aDOUBLE-LINE SLANTED LESS-THAN OR EQUAL TO"),
  (0x2AFA, "aDOUBLE-LINE SLANTED GREATER-THAN OR EQUAL TO;aTRIPLE SOLIDUS BINARY RELATION"),
  (0x2AFC, "aLARGE TRIPLE VERTICAL BAR OPERATOR;aDOUBLE SOLIDUS OPERATOR;aWHITE VERTICAL BAR"),
  (0x2AFF, "aN-ARY WHITE VERTICAL BAR;aNORTH EAST WHITE ARROW;bWEST WHITE ARROW"),
  (0x2B02, "aSOUTH EAST WHITE ARROW;bWEST WHITE ARROW;aLEFT RIGHT WHITE ARROW"),
  (0x2B05, "aLEFTWARDS BLACK ARROW;aUPWARDS BLACK ARROW;aDOWNWARDS BLACK ARROW"),
  (0x2B08, "aNORTH EAST BLACK ARROW;bWEST BLACK ARROW;aSOUTH EAST BLACK ARROW;bWEST BLACK ARROW"),
  (0x2B0C, "aLEFT RIGHT BLACK ARROW;aUP DOWN BLACK ARROW;aRIGHTWARDS ARROW WITH TIP DOWNWARDS"),
  (0x2B0F, "aRIGHTWARDS ARROW WITH TIP UPWARDS;aLEFTWARDS ARROW WITH TIP DOWNWARDS;eUPWARDS"),
  (0x2B12, "aSQUARE WITH TOP HALF BLACK;cBOTTOM HALF BLACK;cUPPER RIGHT DIAGONAL HALF BLACK"),
  (0x2B15, "aSQUARE WITH LOWER LEFT DIAGONAL HALF BLACK;aDIAMOND WITH LEFT HALF BLACK"),
  (0x2B17, "aDIAMOND WITH RIGHT HALF BLACK;cTOP HALF BLACK;cBOTTOM HALF BLACK;aDOTTED SQUARE"),
  (0x2B1B, "aBLACK LARGE SQUARE;aWHITE LARGE SQUARE;aBLACK VERY SMALL SQUARE"),
  (0x2B1E, "aWHITE VERY SMALL SQUARE;aBLACK PENTAGON;aWHITE PENTAGON;bHEXAGON;aBLACK HEXAGON"),
  (0x2B23, "aHORIZONTAL BLACK HEXAGON;aBLACK LARGE CIRCLE;bMEDIUM DIAMOND;aWHITE MEDIUM DIAMOND"),
  (0x2B27, "aBLACK MEDIUM LOZENGE;aWHITE MEDIUM LOZENGE;aBLACK SMALL DIAMOND;cLOZENGE"),
  (0x2B2B, "aWHITE SMALL LOZENGE;aBLACK HORIZONTAL ELLIPSE;aWHITE HORIZONTAL ELLIPSE"),
  (0x2B2E, "aBLACK VERTICAL ELLIPSE;aWHITE VERTICAL ELLIPSE;aLEFT ARROW WITH SMALL CIRCLE"),
  (0x2B31, "aTHREE LEFTWARDS ARROWS;aLEFT ARROW WITH CIRCLED PLUS;aLONG LEFTWARDS SQUIGGLE ARROW"),
  (0x2B34, "aLEFTWARDS TWO-HEADED ARROW WITH VERTICAL STROKE;eDOUBLE VERTICAL STROKE;dFROM BAR"),
  (0x2B37, "aLEFTWARDS TWO-HEADED TRIPLE DASH ARROW;bARROW WITH DOTTED STEM"),
  (0x2B39, "aLEFTWARDS ARROW WITH TAIL WITH VERTICAL STROKE;fDOUBLE VERTICAL STROKE"),
  (0x2B3B, "aLEFTWARDS TWO-HEADED ARROW WITH TAIL;fWITH VERTICAL STROKE;gDOUBLE VERTICAL STROKE"),
  (0x2B3E, "aLEFTWARDS ARROW THROUGH X;aWAVE ARROW POINTING DIRECTLY LEFT"),
  (0x2B40, "aEQUALS SIGN ABOVE LEFTWARDS ARROW;aREVERSE TILDE OPERATOR ABOVE LEFTWARDS ARROW"),
  (0x2B42, "aLEFTWARDS ARROW ABOVE REVERSE ALMOST EQUAL TO;aRIGHTWARDS ARROW THROUGH GREATER-THAN"),
  (0x2B44, "aRIGHTWARDS ARROW THROUGH SUPERSET;aLEFTWARDS QUADRUPLE ARROW"),
  (0x2B46, "aRIGHTWARDS QUADRUPLE ARROW;aREVERSE TILDE OPERATOR ABOVE RIGHTWARDS ARROW"),
  (0x2B48, "aRIGHTWARDS ARROW ABOVE REVERSE ALMOST EQUAL TO;aTILDE OPERATOR ABOVE LEFTWARDS ARROW"),
  (0x2B4A, "aLEFTWARDS ARROW ABOVE ALMOST EQUAL TO;dREVERSE TILDE OPERATOR"),
  (0x2B4C, "aRIGHTWARDS ARROW ABOVE REVERSE TILDE OPERATOR"),
  (0x2B4D, "aDOWNWARDS TRIANGLE-HEADED ZIGZAG ARROW;aSHORT SLANTED NORTH ARROW"),
  (0x2B4F, "aSHORT BACKSLANTED SOUTH ARROW;aWHITE MEDIUM STAR;aBLACK SMALL STAR;aWHITE SMALL STAR"),
  (0x2B53, "aBLACK RIGHT-POINTING PENTAGON;aWHITE RIGHT-POINTING PENTAGON;aHEAVY LARGE CIRCLE"),
  (0x2B56, "aHEAVY OVAL WITH OVAL INSIDE;bCIRCLE WITH CIRCLE INSIDE;c;bCIRCLED SALTIRE"),
  (0x2B5A, "aSLANTED NORTH ARROW WITH HOOKED HEAD;aBACKSLANTED SOUTH ARROW WITH HOOKED TAIL"),
  (0x2B5C, "aSLANTED NORTH ARROW WITH HORIZONTAL TAIL"),
  (0x2B5D, "aBACKSLANTED SOUTH ARROW WITH HORIZONTAL TAIL"),
  (0x2B5E, "aBENT ARROW POINTING DOWNWARDS THEN NORTH EAST"),
  (0x2B5F, "aSHORT BENT ARROW POINTING DOWNWARDS THEN NORTH EAST;aLEFTWARDS TRIANGLE-HEADED ARROW"),
  (0x2B61, "aUPWARDS TRIANGLE-HEADED ARROW;aRIGHTWARDS TRIANGLE-HEADED ARROW"),
  (0x2B63, "aDOWNWARDS TRIANGLE-HEADED ARROW;aLEFT RIGHT TRIANGLE-HEADED ARROW"),
  (0x2B65, "aUP DOWN TRIANGLE-HEADED ARROW;aNORTH WEST TRIANGLE-HEADED ARROW"),
  (0x2B67, "aNORTH EAST TRIANGLE-HEADED ARROW;aSOUTH EAST TRIANGLE-HEADED ARROW"),
  (0x2B69, "aSOUTH WEST TRIANGLE-HEADED ARROW;aLEFTWARDS TRIANGLE-HEADED DASHED ARROW"),
  (0x2B6B, "aUPWARDS TRIANGLE-HEADED DASHED ARROW;aRIGHTWARDS TRIANGLE-HEADED DASHED ARROW"),
  (0x2B6D, "aDOWNWARDS TRIANGLE-HEADED DASHED ARROW;aCLOCKWISE TRIANGLE-HEADED OPEN CIRCLE ARROW"),
  (0x2B6F, "aANTICLOCKWISE TRIANGLE-HEADED OPEN CIRCLE ARROW"),
  (0x2B70, "aLEFTWARDS TRIANGLE-HEADED ARROW TO BAR;aUPWARDS TRIANGLE-HEADED ARROW TO BAR"),
  (0x2B72, "aRIGHTWARDS TRIANGLE-HEADED ARROW TO BAR;aDOWNWARDS TRIANGLE-HEADED ARROW TO BAR"),
  (0x2B76, "aNORTH WEST TRIANGLE-HEADED ARROW TO BAR;bEAST TRIANGLE-HEADED ARROW TO BAR"),
  (0x2B78, "aSOUTH EAST TRIANGLE-HEADED ARROW TO BAR;bWEST TRIANGLE-HEADED ARROW TO BAR"),
  (0x2B7A, "aLEFTWARDS TRIANGLE-HEADED ARROW WITH DOUBLE HORIZONTAL STROKE"),
  (0x2B7B, "aUPWARDS TRIANGLE-HEADED ARROW WITH DOUBLE HORIZONTAL STROKE"),
  (0x2B7C, "aRIGHTWARDS TRIANGLE-HEADED ARROW WITH DOUBLE HORIZONTAL STROKE"),
  (0x2B7D, "aDOWNWARDS TRIANGLE-HEADED ARROW WITH DOUBLE HORIZONTAL STROKE;aHORIZONTAL TAB KEY"),
  (0x2B7F, "aVERTICAL TAB KEY"),
  (0x2B80, "aLEFTWARDS TRIANGLE-HEADED ARROW OVER RIGHTWARDS TRIANGLE-HEADED ARROW"),
  (0x2B81, "aUPWARDS TRIANGLE-HEADED ARROW LEFTWARDS OF DOWNWARDS TRIANGLE-HEADED ARROW"),
  (0x2B82, "aRIGHTWARDS TRIANGLE-HEADED ARROW OVER LEFTWARDS TRIANGLE-HEADED ARROW"),
  (0x2B83, "aDOWNWARDS TRIANGLE-HEADED ARROW LEFTWARDS OF UPWARDS TRIANGLE-HEADED ARROW"),
  (0x2B84, "aLEFTWARDS TRIANGLE-HEADED PAIRED ARROWS;aUPWARDS TRIANGLE-HEADED PAIRED ARROWS"),
  (0x2B86, "aRIGHTWARDS TRIANGLE-HEADED PAIRED ARROWS;aDOWNWARDS TRIANGLE-HEADED PAIRED ARROWS"),
  (0x2B88, "aLEFTWARDS BLACK CIRCLED WHITE ARROW;aUPWARDS BLACK CIRCLED WHITE ARROW"),
  (0x2B8A, "aRIGHTWARDS BLACK CIRCLED WHITE ARROW;aDOWNWARDS BLACK CIRCLED WHITE ARROW"),
  (0x2B8C, "aANTICLOCKWISE TRIANGLE-HEADED RIGHT U-SHAPED ARROW;cBOTTOM U-SHAPED ARROW"),
  (0x2B8E, "aANTICLOCKWISE TRIANGLE-HEADED LEFT U-SHAPED ARROW;cTOP U-SHAPED ARROW;aRETURN LEFT"),
  (0x2B91, "aRETURN RIGHT;aNEWLINE LEFT;bRIGHT;aFOUR CORNER ARROWS CIRCLING ANTICLOCKWISE"),
  (0x2B95, "aRIGHTWARDS BLACK ARROW"),
  (0x2B97, "aSYMBOL FOR TYPE A ELECTRONICS;aTHREE-D TOP-LIGHTED LEFTWARDS EQUILATERAL ARROWHEAD"),
  (0x2B99, "aTHREE-D RIGHT-LIGHTED UPWARDS EQUILATERAL ARROWHEAD"),
  (0x2B9A, "aTHREE-D TOP-LIGHTED RIGHTWARDS EQUILATERAL ARROWHEAD"),
  (0x2B9B, "aTHREE-D LEFT-LIGHTED DOWNWARDS EQUILATERAL ARROWHEAD"),
  (0x2B9C, "aBLACK LEFTWARDS EQUILATERAL ARROWHEAD;bUPWARDS EQUILATERAL ARROWHEAD"),
  (0x2B9E, "aBLACK RIGHTWARDS EQUILATERAL ARROWHEAD;bDOWNWARDS EQUILATERAL ARROWHEAD"),
  (0x2BA0, "aDOWNWARDS TRIANGLE-HEADED ARROW WITH LONG TIP LEFTWARDS;gRIGHTWARDS"),
  (0x2BA2, "aUPWARDS TRIANGLE-HEADED ARROW WITH LONG TIP LEFTWARDS;gRIGHTWARDS"),
  (0x2BA4, "aLEFTWARDS TRIANGLE-HEADED ARROW WITH LONG TIP UPWARDS"),
  (0x2BA5, "aRIGHTWARDS TRIANGLE-HEADED ARROW WITH LONG TIP UPWARDS")]

/-- The lines of names from U+2BA6 on. -/
def namesFrom2BA6 : List (Nat × String) := [
  (0x2BA6, "aLEFTWARDS TRIANGLE-HEADED ARROW WITH LONG TIP DOWNWARDS"),
  (0x2BA7, "aRIGHTWARDS TRIANGLE-HEADED ARROW WITH LONG TIP DOWNWARDS"),
  (0x2BA8, "aBLACK CURVED DOWNWARDS AND LEFTWARDS ARROW;eRIGHTWARDS ARROW"),
  (0x2BAA, "aBLACK CURVED UPWARDS AND LEFTWARDS ARROW;eRIGHTWARDS ARROW"),
  (0x2BAC, "aBLACK CURVED LEFTWARDS AND UPWARDS ARROW;cRIGHTWARDS AND UPWARDS ARROW"),
  (0x2BAE, "aBLACK CURVED LEFTWARDS AND DOWNWARDS ARROW;cRIGHTWARDS AND DOWNWARDS ARROW"),
  (0x2BB0, "aRIBBON ARROW DOWN LEFT;dRIGHT;cUP LEFT;dRIGHT;cLEFT UP;cRIGHT UP;cLEFT DOWN"),
  (0x2BB7, "aRIBBON ARROW RIGHT DOWN;aUPWARDS WHITE ARROW FROM BAR WITH HORIZONTAL BAR"),
  (0x2BB9, "aUP ARROWHEAD IN A RECTANGLE BOX;aOVERLAPPING WHITE SQUARES;cAND BLACK SQUARES"),
  (0x2BBC, "aOVERLAPPING BLACK SQUARES;aBALLOT BOX WITH LIGHT X;aCIRCLED X;bBOLD X"),
  (0x2BC0, "aBLACK SQUARE CENTRED;bDIAMOND CENTRED;aTURNED BLACK PENTAGON"),
  (0x2BC3, "aHORIZONTAL BLACK OCTAGON;aBLACK OCTAGON;bMEDIUM UP-POINTING TRIANGLE CENTRED"),
  (0x2BC6, "aBLACK MEDIUM DOWN-POINTING TRIANGLE CENTRED;cLEFT-POINTING TRIANGLE CENTRED"),
  (0x2BC8, "aBLACK MEDIUM RIGHT-POINTING TRIANGLE CENTRED;aNEPTUNE FORM TWO"),
  (0x2BCA, "aTOP HALF BLACK CIRCLE;aBOTTOM HALF BLACK CIRCLE;aLIGHT FOUR POINTED BLACK CUSP"),
  (0x2BCD, "aROTATED LIGHT FOUR POINTED BLACK CUSP;aWHITE FOUR POINTED CUSP"),
  (0x2BCF, "aROTATED WHITE FOUR POINTED CUSP;aSQUARE POSITION INDICATOR;aUNCERTAINTY SIGN"),
  (0x2BD2, "aGROUP MARK;aPLUTO FORM TWO;cTHREE;cFOUR;cFIVE;aTRANSPLUTO;aPROSERPINA;aASTRAEA"),
  (0x2BDA, "aHYGIEA;aPHOLUS;aNESSUS;aWHITE MOON SELENA;aBLACK DIAMOND ON CROSS"),
  (0x2BDF, "aTRUE LIGHT MOON ARTA;aCUPIDO;aHADES;aZEUS;aKRONOS;aAPOLLON;aADMETOS;aVULCANUS"),
  (0x2BE7, "aPOSEIDON;aLEFT HALF BLACK STAR;aRIGHT HALF BLACK STAR;aSTAR WITH LEFT HALF BLACK"),
  (0x2BEB, "aSTAR WITH RIGHT HALF BLACK;aLEFTWARDS TWO-HEADED ARROW WITH TRIANGLE ARROWHEADS"),
  (0x2BED, "aUPWARDS TWO-HEADED ARROW WITH TRIANGLE ARROWHEADS"),
  (0x2BEE, "aRIGHTWARDS TWO-HEADED ARROW WITH TRIANGLE ARROWHEADS"),
  (0x2BEF, "aDOWNWARDS TWO-HEADED ARROW WITH TRIANGLE ARROWHEADS;aERIS FORM ONE;cTWO;aSEDNA"),
  (0x2BF3, "aRUSSIAN ASTROLOGICAL SYMBOL VIGINTILE;dNOVILE;dQUINTILE;dBINOVILE;dSENTAGON"),
  (0x2BF8, "aRUSSIAN ASTROLOGICAL SYMBOL TREDECILE;aEQUALS SIGN WITH INFINITY BELOW"),
  (0x2BFA, "aUNITED SYMBOL;aSEPARATED SYMBOL;aDOUBLED SYMBOL;aPASSED SYMBOL;aREVERSED RIGHT ANGLE"),
  (0x2BFF, "aHELLSCHREIBER PAUSE SYMBOL;aGLAGOLITIC CAPITAL LETTER AZU;dBUKY;dVEDE;dGLAGOLI"),
  (0x2C04, "aGLAGOLITIC CAPITAL LETTER DOBRO;dYESTU;dZHIVETE;dDZELO;dZEMLJA;dIZHE;dINITIAL IZHE"),
  (0x2C0B, "aGLAGOLITIC CAPITAL LETTER I;dDJERVI;dKAKO;dLJUDIJE;dMYSLITE;dNASHI;dONU;dPOKOJI"),
  (0x2C13, "aGLAGOLITIC CAPITAL LETTER RITSI;dSLOVO;dTVRIDO;dUKU;dFRITU;dHERU;dOTU;dPE;dSHTA;dTSI"),
  (0x2C1D, "aGLAGOLITIC CAPITAL LETTER CHRIVI;dSHA;dYERU;dYERI;dYATI;dSPIDERY HA;dYU;dSMALL YUS"),
  (0x2C25, "aGLAGOLITIC CAPITAL LETTER SMALL YUS WITH TAIL;dYO;dIOTATED SMALL YUS;dBIG YUS"),
  (0x2C29, "aGLAGOLITIC CAPITAL LETTER IOTATED BIG YUS;dFITA;dIZHITSA;dSHTAPIC;dTROKUTASTI A"),
  (0x2C2E, "aGLAGOLITIC CAPITAL LETTER LATINATE MYSLITE;dCAUDATE CHRIVI;bSMALL LETTER AZU;dBUKY"),
  (0x2C32, "aGLAGOLITIC SMALL LETTER VEDE;dGLAGOLI;dDOBRO;dYESTU;dZHIVETE;dDZELO;dZEMLJA;dIZHE"),
  (0x2C3A, "aGLAGOLITIC SMALL LETTER INITIAL IZHE;dI;dDJERVI;dKAKO;dLJUDIJE;dMYSLITE;dNASHI;dONU"),
  (0x2C42, "aGLAGOLITIC SMALL LETTER POKOJI;dRITSI;dSLOVO;dTVRIDO;dUKU;dFRITU;dHERU;dOTU;dPE"),
  (0x2C4B, "aGLAGOLITIC SMALL LETTER SHTA;dTSI;dCHRIVI;dSHA;dYERU;dYERI;dYATI;dSPIDERY HA;dYU"),
  (0x2C54, "aGLAGOLITIC SMALL LETTER SMALL YUS;fWITH TAIL;dYO;dIOTATED SMALL YUS;dBIG YUS"),
  (0x2C59, "aGLAGOLITIC SMALL LETTER IOTATED BIG YUS;dFITA;dIZHITSA;dSHTAPIC;dTROKUTASTI A"),
  (0x2C5E, "aGLAGOLITIC SMALL LETTER LATINATE MYSLITE;dCAUDATE CHRIVI"),
  (0x2C60, "aLATIN CAPITAL LETTER L WITH DOUBLE BAR;bSMALL LETTER L WITH DOUBLE BAR"),
  (0x2C62, "aLATIN CAPITAL LETTER L WITH MIDDLE TILDE;dP WITH STROKE;dR WITH TAIL"),
  (0x2C65, "aLATIN SMALL LETTER A WITH STROKE;dT WITH DIAGONAL STROKE"),
  (0x2C67, "aLATIN CAPITAL LETTER H WITH DESCENDER;bSMALL LETTER H WITH DESCENDER"),
  (0x2C69, "aLATIN CAPITAL LETTER K WITH DESCENDER;bSMALL LETTER K WITH DESCENDER"),
  (0x2C6B, "aLATIN CAPITAL LETTER Z WITH DESCENDER;bSMALL LETTER Z WITH DESCENDER"),
  (0x2C6D, "aLATIN CAPITAL LETTER ALPHA;dM WITH HOOK;dTURNED A;eALPHA"),
  (0x2C71, "aLATIN SMALL LETTER V WITH RIGHT HOOK;bCAPITAL LETTER W WITH HOOK"),
  (0x2C73, "aLATIN SMALL LETTER W WITH HOOK;dV WITH CURL;bCAPITAL LETTER HALF H"),
  (0x2C76, "aLATIN SMALL LETTER HALF H;dTAILLESS PHI;dE WITH NOTCH;dTURNED R WITH TAIL"),
  (0x2C7A, "aLATIN SMALL LETTER O WITH LOW RING INSIDE;bLETTER SMALL CAPITAL TURNED E"),
  (0x2C7C, "aLATIN SUBSCRIPT SMALL LETTER J;aMODIFIER LETTER CAPITAL V"),
  (0x2C7E, "aLATIN CAPITAL LETTER S WITH SWASH TAIL;dZ WITH SWASH TAIL"),
  (0x2C80, "aCOPTIC CAPITAL LETTER ALFA;bSMALL LETTER ALFA;bCAPITAL LETTER VIDA"),
  (0x2C83, "aCOPTIC SMALL LETTER VIDA;bCAPITAL LETTER GAMMA;bSMALL LETTER GAMMA"),
  (0x2C86, "aCOPTIC CAPITAL LETTER DALDA;bSMALL LETTER DALDA;bCAPITAL LETTER EIE"),
  (0x2C89, "aCOPTIC SMALL LETTER EIE;bCAPITAL LETTER SOU;bSMALL LETTER SOU;bCAPITAL LETTER ZATA"),
  (0x2C8D, "aCOPTIC SMALL LETTER ZATA;bCAPITAL LETTER HATE;bSMALL LETTER HATE"),
  (0x2C90, "aCOPTIC CAPITAL LETTER THETHE;bSMALL LETTER THETHE;bCAPITAL LETTER IAUDA"),
  (0x2C93, "aCOPTIC SMALL LETTER IAUDA;bCAPITAL LETTER KAPA;bSMALL LETTER KAPA"),
  (0x2C96, "aCOPTIC CAPITAL LETTER LAULA;bSMALL LETTER LAULA;bCAPITAL LETTER MI;bSMALL LETTER MI"),
  (0x2C9A, "aCOPTIC CAPITAL LETTER NI;bSMALL LETTER NI;bCAPITAL LETTER KSI;bSMALL LETTER KSI"),
  (0x2C9E, "aCOPTIC CAPITAL LETTER O;bSMALL LETTER O;bCAPITAL LETTER PI;bSMALL LETTER PI"),
  (0x2CA2, "aCOPTIC CAPITAL LETTER RO;bSMALL LETTER RO;bCAPITAL LETTER SIMA;bSMALL LETTER SIMA"),
  (0x2CA6, "aCOPTIC CAPITAL LETTER TAU;bSMALL LETTER TAU;bCAPITAL LETTER UA;bSMALL LETTER UA"),
  (0x2CAA, "aCOPTIC CAPITAL LETTER FI;bSMALL LETTER FI;bCAPITAL LETTER KHI;bSMALL LETTER KHI"),
  (0x2CAE, "aCOPTIC CAPITAL LETTER PSI;bSMALL LETTER PSI;bCAPITAL LETTER OOU;bSMALL LETTER OOU"),
  (0x2CB2, "aCOPTIC CAPITAL LETTER DIALECT-P ALEF;bSMALL LETTER DIALECT-P ALEF"),
  (0x2CB4, "aCOPTIC CAPITAL LETTER OLD COPTIC AIN;bSMALL LETTER OLD COPTIC AIN"),
  (0x2CB6, "aCOPTIC CAPITAL LETTER CRYPTOGRAMMIC EIE;bSMALL LETTER CRYPTOGRAMMIC EIE"),
  (0x2CB8, "aCOPTIC CAPITAL LETTER DIALECT-P KAPA;bSMALL LETTER DIALECT-P KAPA"),
  (0x2CBA, "aCOPTIC CAPITAL LETTER DIALECT-P NI;bSMALL LETTER DIALECT-P NI"),
  (0x2CBC, "aCOPTIC CAPITAL LETTER CRYPTOGRAMMIC NI;bSMALL LETTER CRYPTOGRAMMIC NI"),
  (0x2CBE, "aCOPTIC CAPITAL LETTER OLD COPTIC OOU;bSMALL LETTER OLD COPTIC OOU"),
  (0x2CC0, "aCOPTIC CAPITAL LETTER SAMPI;bSMALL LETTER SAMPI;bCAPITAL LETTER CROSSED SHEI"),
  (0x2CC3, "aCOPTIC SMALL LETTER CROSSED SHEI;bCAPITAL LETTER OLD COPTIC SHEI"),
  (0x2CC5, "aCOPTIC SMALL LETTER OLD COPTIC SHEI;bCAPITAL LETTER OLD COPTIC ESH"),
  (0x2CC7, "aCOPTIC SMALL LETTER OLD COPTIC ESH;bCAPITAL LETTER AKHMIMIC KHEI"),
  (0x2CC9, "aCOPTIC SMALL LETTER AKHMIMIC KHEI;bCAPITAL LETTER DIALECT-P HORI"),
  (0x2CCB, "aCOPTIC SMALL LETTER DIALECT-P HORI;bCAPITAL LETTER OLD COPTIC HORI"),
  (0x2CCD, "aCOPTIC SMALL LETTER OLD COPTIC HORI;bCAPITAL LETTER OLD COPTIC HA"),
  (0x2CCF, "aCOPTIC SMALL LETTER OLD COPTIC HA;bCAPITAL LETTER L-SHAPED HA"),
  (0x2CD1, "aCOPTIC SMALL LETTER L-SHAPED HA;bCAPITAL LETTER OLD COPTIC HEI"),
  (0x2CD3, "aCOPTIC SMALL LETTER OLD COPTIC HEI;bCAPITAL LETTER OLD COPTIC HAT"),
  (0x2CD5, "aCOPTIC SMALL LETTER OLD COPTIC HAT;bCAPITAL LETTER OLD COPTIC GANGIA"),
  (0x2CD7, "aCOPTIC SMALL LETTER OLD COPTIC GANGIA;bCAPITAL LETTER OLD COPTIC DJA"),
  (0x2CD9, "aCOPTIC SMALL LETTER OLD COPTIC DJA;bCAPITAL LETTER OLD COPTIC SHIMA"),
  (0x2CDB, "aCOPTIC SMALL LETTER OLD COPTIC SHIMA;bCAPITAL LETTER OLD NUBIAN SHIMA"),
  (0x2CDD, "aCOPTIC SMALL LETTER OLD NUBIAN SHIMA;bCAPITAL LETTER OLD NUBIAN NGI"),
  (0x2CDF, "aCOPTIC SMALL LETTER OLD NUBIAN NGI;bCAPITAL LETTER OLD NUBIAN NYI"),
  (0x2CE1, "aCOPTIC SMALL LETTER OLD NUBIAN NYI;bCAPITAL LETTER OLD NUBIAN WAU"),
  (0x2CE3, "aCOPTIC SMALL LETTER OLD NUBIAN WAU;bSYMBOL KAI;cMI RO;cPI RO;cSTAUROS;cTAU RO"),
  (0x2CE9, "aCOPTIC SYMBOL KHI RO;cSHIMA SIMA;bCAPITAL LETTER CRYPTOGRAMMIC SHEI"),
  (0x2CEC, "aCOPTIC SMALL LETTER CRYPTOGRAMMIC SHEI;bCAPITAL LETTER CRYPTOGRAMMIC GANGIA"),
  (0x2CEE, "aCOPTIC SMALL LETTER CRYPTOGRAMMIC GANGIA;bCOMBINING NI ABOVE;cSPIRITUS ASPER;dLENIS"),
  (0x2CF2, "aCOPTIC CAPITAL LETTER BOHAIRIC KHEI;bSMALL LETTER BOHAIRIC KHEI"),
  (0x2CF9, "aCOPTIC OLD NUBIAN FULL STOP;dDIRECT QUESTION MARK;dINDIRECT QUESTION MARK"),
  (0x2CFC, "aCOPTIC OLD NUBIAN VERSE DIVIDER;bFRACTION ONE HALF;bFULL STOP;bMORPHOLOGICAL DIVIDER"),
  (0x2D00, "aGEORGIAN SMALL LETTER AN;dBAN;dGAN;dDON;dEN;dVIN;dZEN;dTAN;dIN;dKAN;dLAS;dMAN;dNAR"),
  (0x2D0D, "aGEORGIAN SMALL LETTER ON;dPAR;dZHAR;dRAE;dSAN;dTAR;dUN;dPHAR;dKHAR;dGHAN;dQAR;dSHIN"),
  (0x2D19, "aGEORGIAN SMALL LETTER CHIN;dCAN;dJIL;dCIL;dCHAR;dXAN;dJHAN;dHAE;dHE;dHIE;dWE;dHAR"),
  (0x2D25, "aGEORGIAN SMALL LETTER HOE"),
  (0x2D27, "aGEORGIAN SMALL LETTER YN"),
  (0x2D2D, "aGEORGIAN SMALL LETTER AEN"),
  (0x2D30, "aTIFINAGH LETTER YA;cYAB;cYABH;cYAG;cYAGHH;cBERBER ACADEMY YAJ;cYAJ;cYAD;cYADH;cYADD"),
  (0x2D3A, "aTIFINAGH LETTER YADDH;cYEY;cYAF;cYAK;cTUAREG YAK;cYAKHH;cYAH;cBERBER ACADEMY YAH"),
  (0x2D42, "aTIFINAGH LETTER TUAREG YAH;cYAHH;cYAA;cYAKH;cTUAREG YAKH;cYAQ;cTUAREG YAQ;cYI;cYAZH"),
  (0x2D4B, "aTIFINAGH LETTER AHAGGAR YAZH;cTUAREG YAZH;cYAL;cYAM;cYAN;cTUAREG YAGN;dYANG;cYAP;cYU"),
  (0x2D54, "aTIFINAGH LETTER YAR;cYARR;cYAGH;cTUAREG YAGH;cAYER YAGH;cYAS;cYASS;cYASH;cYAT;cYATH"),
  (0x2D5E, "aTIFINAGH LETTER YACH;cYATT;cYAV;cYAW;cYAY;cYAZ;cTAWELLEMET YAZ;cYAZZ;cYE;cYO"),
  (0x2D6F, "aTIFINAGH MODIFIER LETTER LABIALIZATION MARK;bSEPARATOR MARK"),
  (0x2D7F, "aTIFINAGH CONSONANT JOINER;aETHIOPIC SYLLABLE LOA;cMOA;cROA;cSOA;cSHOA;cBOA;cTOA;cCOA"),
  (0x2D88, "aETHIOPIC SYLLABLE NOA;cNYOA;cGLOTTAL OA;cZOA;cDOA;cDDOA;cJOA;cTHOA;cCHOA;cPHOA;cPOA"),
  (0x2D93, "aETHIOPIC SYLLABLE GGWA;cGGWI;cGGWEE;cGGWE"),
  (0x2DA0, "aETHIOPIC SYLLABLE SSA;cSSU;cSSI;cSSAA;cSSEE;cSSE;cSSO"),
  (0x2DA8, "aETHIOPIC SYLLABLE CCA;cCCU;cCCI;cCCAA;cCCEE;cCCE;cCCO"),
  (0x2DB0, "aETHIOPIC SYLLABLE ZZA;cZZU;cZZI;cZZAA;cZZEE;cZZE;cZZO"),
  (0x2DB8, "aETHIOPIC SYLLABLE CCHA;cCCHU;cCCHI;cCCHAA;cCCHEE;cCCHE;cCCHO"),
  (0x2DC0, "aETHIOPIC SYLLABLE QYA;cQYU;cQYI;cQYAA;cQYEE;cQYE;cQYO"),
  (0x2DC8, "aETHIOPIC SYLLABLE KYA;cKYU;cKYI;cKYAA;cKYEE;cKYE;cKYO"),
  (0x2DD0, "aETHIOPIC SYLLABLE XYA;cXYU;cXYI;cXYAA;cXYEE;cXYE;cXYO"),
  (0x2DD8, "aETHIOPIC SYLLABLE GYA;cGYU;cGYI;cGYAA;cGYEE;cGYE;cGYO"),
  (0x2DE0, "aCOMBINING CYRILLIC LETTER BE;dVE;dGHE;dDE;dZHE;dZE;dKA;dEL;dEM;dEN;dO;dPE;dER;dES"),
  (0x2DEE, "aCOMBINING CYRILLIC LETTER TE;dHA;dTSE;dCHE;dSHA;dSHCHA;dFITA;dES-TE;dA;dIE;dDJERV"),
  (0x2DF9, "aCOMBINING CYRILLIC LETTER MONOGRAPH UK;dYAT;dYU;dIOTIFIED A;dLITTLE YUS;dBIG YUS"),
  (0x2DFF, "aCOMBINING CYRILLIC LETTER IOTIFIED BIG YUS;aRIGHT ANGLE SUBSTITUTION MARKER"),
  (0x2E01, "aRIGHT ANGLE DOTTED SUBSTITUTION MARKER;aLEFT SUBSTITUTION BRACKET"),
  (0x2E03, "aRIGHT SUBSTITUTION BRACKET;aLEFT DOTTED SUBSTITUTION BRACKET"),
  (0x2E05, "aRIGHT DOTTED SUBSTITUTION BRACKET;aRAISED INTERPOLATION MARKER"),
  (0x2E07, "aRAISED DOTTED INTERPOLATION MARKER;aDOTTED TRANSPOSITION MARKER"),
  (0x2E09, "aLEFT TRANSPOSITION BRACKET;aRIGHT TRANSPOSITION BRACKET;aRAISED SQUARE"),
  (0x2E0C, "aLEFT RAISED OMISSION BRACKET;aRIGHT RAISED OMISSION BRACKET;aEDITORIAL CORONIS"),
  (0x2E0F, "aPARAGRAPHOS;aFORKED PARAGRAPHOS;aREVERSED FORKED PARAGRAPHOS;aHYPODIASTOLE"),
  (0x2E13, "aDOTTED OBELOS;aDOWNWARDS ANCORA;aUPWARDS ANCORA;aDOTTED RIGHT-POINTING ANGLE"),
  (0x2E17, "aDOUBLE OBLIQUE HYPHEN;aINVERTED INTERROBANG;aPALM BRANCH;aHYPHEN WITH DIAERESIS"),
  (0x2E1B, "aTILDE WITH RING ABOVE;aLEFT LOW PARAPHRASE BRACKET;aRIGHT LOW PARAPHRASE BRACKET"),
  (0x2E1E, "aTILDE WITH DOT ABOVE;dBELOW;aLEFT VERTICAL BAR WITH QUILL"),
  (0x2E21, "aRIGHT VERTICAL BAR WITH QUILL;aTOP LEFT HALF BRACKET;bRIGHT HALF BRACKET"),
  (0x2E24, "aBOTTOM LEFT HALF BRACKET;bRIGHT HALF BRACKET;aLEFT SIDEWAYS U BRACKET"),
  (0x2E27, "aRIGHT SIDEWAYS U BRACKET;aLEFT DOUBLE PARENTHESIS;aRIGHT DOUBLE PARENTHESIS"),
  (0x2E2A, "aTWO DOTS OVER ONE DOT PUNCTUATION;aONE DOT OVER TWO DOTS PUNCTUATION"),
  (0x2E2C, "aSQUARED FOUR DOT PUNCTUATION;aFIVE DOT MARK;aREVERSED QUESTION MARK;aVERTICAL TILDE"),
  (0x2E30, "aRING POINT;aWORD SEPARATOR MIDDLE DOT;aTURNED COMMA;aRAISED DOT;bCOMMA"),
  (0x2E35, "aTURNED SEMICOLON;aDAGGER WITH LEFT GUARD;cRIGHT GUARD;aTURNED DAGGER"),
  (0x2E39, "aTOP HALF SECTION SIGN;aTWO-EM DASH;aTHREE-EM DASH;aSTENOGRAPHIC FULL STOP"),
  (0x2E3D, "aVERTICAL SIX DOTS;aWIGGLY VERTICAL LINE;aCAPITULUM;aDOUBLE HYPHEN;aREVERSED COMMA"),
  (0x2E42, "aDOUBLE LOW-REVERSED-9 QUOTATION MARK;aDASH WITH LEFT UPTURN;aDOUBLE SUSPENSION MARK"),
  (0x2E45, "aINVERTED LOW KAVYKA;dWITH KAVYKA ABOVE;aLOW KAVYKA;cWITH DOT;aDOUBLE STACKED COMMA"),
  (0x2E4A, "aDOTTED SOLIDUS;aTRIPLE DAGGER;aMEDIEVAL COMMA;aPARAGRAPHUS MARK"),
  (0x2E4E, "aPUNCTUS ELEVATUS MARK;aCORNISH VERSE DIVIDER;aCROSS PATTY WITH RIGHT CROSSBAR"),
  (0x2E51, "aCROSS PATTY WITH LEFT CROSSBAR;aTIRONIAN SIGN CAPITAL ET;aMEDIEVAL EXCLAMATION MARK"),
  (0x2E54, "aMEDIEVAL QUESTION MARK;aLEFT SQUARE BRACKET WITH STROKE"),
  (0x2E56, "aRIGHT SQUARE BRACKET WITH STROKE;aLEFT SQUARE BRACKET WITH DOUBLE STROKE"),
  (0x2E58, "aRIGHT SQUARE BRACKET WITH DOUBLE STROKE;aTOP HALF LEFT PARENTHESIS"),
  (0x2E5A, "aTOP HALF RIGHT PARENTHESIS;aBOTTOM HALF LEFT PARENTHESIS;cRIGHT PARENTHESIS"),
  (0x2E5D, "aOBLIQUE HYPHEN"),
  (0x2E80, "aCJK RADICAL REPEAT;cCLIFF;cSECOND ONE;dTWO;dTHREE;cPERSON;cBOX;cTABLE;cKNIFE ONE"),
  (0x2E89, "aCJK RADICAL KNIFE TWO;cDIVINATION;cSEAL;cSMALL ONE;dTWO;cLAME ONE;dTWO;dTHREE;dFOUR"),
  (0x2E92, "aCJK RADICAL SNAKE;cTHREAD;cSNOUT ONE;dTWO;cHEART ONE;dTWO;cHAND;cRAP"),
  (0x2E9B, "aCJK RADICAL CHOKE;cSUN;cMOON;cDEATH;cMOTHER;cCIVILIAN;cWATER ONE;dTWO;cFIRE;cPAW ONE"),
  (0x2EA5, "aCJK RADICAL PAW TWO;cSIMPLIFIED HALF TREE TRUNK;cCOW;cDOG;cJADE;cBOLT OF CLOTH;cEYE"),
  (0x2EAC, "aCJK RADICAL SPIRIT ONE;dTWO;cBAMBOO;cSILK;cC-SIMPLIFIED SILK;cNET ONE;dTWO;dTHREE"),
  (0x2EB4, "aCJK RADICAL NET FOUR;cMESH;cSHEEP;cRAM;cEWE;cOLD;cBRUSH ONE;dTWO;cMEAT;cMORTAR"),
  (0x2EBE, "aCJK RADICAL GRASS ONE;dTWO;dTHREE;cTIGER;cCLOTHES;cWEST ONE;dTWO;cC-SIMPLIFIED SEE"),
  (0x2EC6, "aCJK RADICAL SIMPLIFIED HORN;cHORN;cC-SIMPLIFIED SPEECH;dSHELL;cFOOT"),
  (0x2ECB, "aCJK RADICAL C-SIMPLIFIED CART;cSIMPLIFIED WALK;cWALK ONE;dTWO;cCITY"),
  (0x2ED0, "aCJK RADICAL C-SIMPLIFIED GOLD;cLONG ONE;dTWO;cC-SIMPLIFIED LONG;dGATE;cMOUND ONE"),
  (0x2ED6, "aCJK RADICAL MOUND TWO;cRAIN;cBLUE;cC-SIMPLIFIED TANNED LEATHER;dLEAF;dWIND;dFLY"),
  (0x2EDD, "aCJK RADICAL EAT ONE;dTWO;dTHREE;cC-SIMPLIFIED EAT;cHEAD;cC-SIMPLIFIED HORSE;cBONE"),
  (0x2EE4, "aCJK RADICAL GHOST;cC-SIMPLIFIED FISH;dBIRD;dSALT;cSIMPLIFIED WHEAT;dYELLOW"),
  (0x2EEA, "aCJK RADICAL C-SIMPLIFIED FROG;cJ-SIMPLIFIED EVEN;cC-SIMPLIFIED EVEN"),
  (0x2EED, "aCJK RADICAL J-SIMPLIFIED TOOTH;cC-SIMPLIFIED TOOTH;cJ-SIMPLIFIED DRAGON"),
  (0x2EF0, "aCJK RADICAL C-SIMPLIFIED DRAGON;cTURTLE;cJ-SIMPLIFIED TURTLE;cC-SIMPLIFIED TURTLE"),
  (0x2F00, "aKANGXI RADICAL ONE;cLINE;cDOT;cSLASH;cSECOND;cHOOK;cTWO;cLID;cMAN;cLEGS;cENTER"),
  (0x2F0B, "aKANGXI RADICAL EIGHT;cDOWN BOX;cCOVER;cICE;cTABLE;cOPEN BOX;cKNIFE;cPOWER;cWRAP"),
  (0x2F14, "aKANGXI RADICAL SPOON;cRIGHT OPEN BOX;cHIDING ENCLOSURE;cTEN;cDIVINATION;cSEAL;cCLIFF"),
  (0x2F1B, "aKANGXI RADICAL PRIVATE;cAGAIN;cMOUTH;cENCLOSURE;cEARTH;cSCHOLAR;cGO;dSLOWLY;cEVENING"),
  (0x2F24, "aKANGXI RADICAL BIG;cWOMAN;cCHILD;cROOF;cINCH;cSMALL;cLAME;cCORPSE;cSPROUT;cMOUNTAIN"),
  (0x2F2E, "aKANGXI RADICAL RIVER;cWORK;cONESELF;cTURBAN;cDRY;cSHORT THREAD;cDOTTED CLIFF"),
  (0x2F35, "aKANGXI RADICAL LONG STRIDE;cTWO HANDS;cSHOOT;cBOW;cSNOUT;cBRISTLE;cSTEP;cHEART"),
  (0x2F3D, "aKANGXI RADICAL HALBERD;cDOOR;cHAND;cBRANCH;cRAP;cSCRIPT;cDIPPER;cAXE;cSQUARE;cNOT"),
  (0x2F47, "aKANGXI RADICAL SUN;cSAY;cMOON;cTREE;cLACK;cSTOP;cDEATH;cWEAPON;cDO NOT;cCOMPARE;cFUR"),
  (0x2F52, "aKANGXI RADICAL CLAN;cSTEAM;cWATER;cFIRE;cCLAW;cFATHER;cDOUBLE X;cHALF TREE TRUNK"),
  (0x2F5A, "aKANGXI RADICAL SLICE;cFANG;cCOW;cDOG;cPROFOUND;cJADE;cMELON;cTILE;cSWEET;cLIFE;cUSE"),
  (0x2F65, "aKANGXI RADICAL FIELD;cBOLT OF CLOTH;cSICKNESS;cDOTTED TENT;cWHITE;cSKIN;cDISH;cEYE"),
  (0x2F6D, "aKANGXI RADICAL SPEAR;cARROW;cSTONE;cSPIRIT;cTRACK;cGRAIN;cCAVE;cSTAND;cBAMBOO;cRICE"),
  (0x2F77, "aKANGXI RADICAL SILK;cJAR;cNET;cSHEEP;cFEATHER;cOLD;cAND;cPLOW;cEAR;cBRUSH;cMEAT"),
  (0x2F82, "aKANGXI RADICAL MINISTER;cSELF;cARRIVE;cMORTAR;cTONGUE;cOPPOSE;cBOAT;cSTOPPING;cCOLOR"),
  (0x2F8B, "aKANGXI RADICAL GRASS;cTIGER;cINSECT;cBLOOD;cWALK ENCLOSURE;cCLOTHES;cWEST;cSEE;cHORN"),
  (0x2F94, "aKANGXI RADICAL SPEECH;cVALLEY;cBEAN;cPIG;cBADGER;cSHELL;cRED;cRUN;cFOOT;cBODY;cCART"),
  (0x2F9F, "aKANGXI RADICAL BITTER;cMORNING;cWALK;cCITY;cWINE;cDISTINGUISH;cVILLAGE;cGOLD;cLONG"),
  (0x2FA8, "aKANGXI RADICAL GATE;cMOUND;cSLAVE;cSHORT TAILED BIRD;cRAIN;cBLUE;cWRONG;cFACE"),
  (0x2FB0, "aKANGXI RADICAL LEATHER;cTANNED LEATHER;cLEEK;cSOUND;cLEAF;cWIND;cFLY;cEAT;cHEAD"),
  (0x2FB9, "aKANGXI RADICAL FRAGRANT;cHORSE;cBONE;cTALL;cHAIR;cFIGHT;cSACRIFICIAL WINE;cCAULDRON"),
  (0x2FC1, "aKANGXI RADICAL GHOST;cFISH;cBIRD;cSALT;cDEER;cWHEAT;cHEMP;cYELLOW;cMILLET;cBLACK"),
  (0x2FCB, "aKANGXI RADICAL EMBROIDERY;cFROG;cTRIPOD;cDRUM;cRAT;cNOSE;cEVEN;cTOOTH;cDRAGON"),
  (0x2FD4, "aKANGXI RADICAL TURTLE;cFLUTE"),
  (0x2FF0, "aIDEOGRAPHIC DESCRIPTION CHARACTER LEFT TO RIGHT;dABOVE TO BELOW"),
  (0x2FF2, "aIDEOGRAPHIC DESCRIPTION CHARACTER LEFT TO MIDDLE AND RIGHT"),
  (0x2FF3, "aIDEOGRAPHIC DESCRIPTION CHARACTER ABOVE TO MIDDLE AND BELOW;dFULL SURROUND"),
  (0x2FF5, "aIDEOGRAPHIC DESCRIPTION CHARACTER SURROUND FROM ABOVE;fBELOW;fLEFT;fUPPER LEFT"),
  (0x2FF9, "aIDEOGRAPHIC DESCRIPTION CHARACTER SURROUND FROM UPPER RIGHT;fLOWER LEFT;dOVERLAID"),
  (0x3000, "aIDEOGRAPHIC SPACE;bCOMMA;bFULL STOP;aDITTO MARK;aJAPANESE INDUSTRIAL STANDARD SYMBOL"),
  (0x3005, "aIDEOGRAPHIC ITERATION MARK;bCLOSING MARK;bNUMBER ZERO;aLEFT ANGLE BRACKET"),
  (0x3009, "aRIGHT ANGLE BRACKET;aLEFT DOUBLE ANGLE BRACKET;aRIGHT DOUBLE ANGLE BRACKET"),
  (0x300C, "aLEFT CORNER BRACKET;aRIGHT CORNER BRACKET;aLEFT WHITE CORNER BRACKET"),
  (0x300F, "aRIGHT WHITE CORNER BRACKET;aLEFT BLACK LENTICULAR BRACKET"),
  (0x3011, "aRIGHT BLACK LENTICULAR BRACKET;aPOSTAL MARK;aGETA MARK;aLEFT TORTOISE SHELL BRACKET"),
  (0x3015, "aRIGHT TORTOISE SHELL BRACKET;aLEFT WHITE LENTICULAR BRACKET"),
  (0x3017, "aRIGHT WHITE LENTICULAR BRACKET;aLEFT WHITE TORTOISE SHELL BRACKET"),
  (0x3019, "aRIGHT WHITE TORTOISE SHELL BRACKET;aLEFT WHITE SQUARE BRACKET"),
  (0x301B, "aRIGHT WHITE SQUARE BRACKET;aWAVE DASH;aREVERSED DOUBLE PRIME QUOTATION MARK"),
  (0x301E, "aDOUBLE PRIME QUOTATION MARK;aLOW DOUBLE PRIME QUOTATION MARK;aPOSTAL MARK FACE"),
  (0x3021, "aHANGZHOU NUMERAL ONE;cTWO;cTHREE;cFOUR;cFIVE;cSIX;cSEVEN;cEIGHT;cNINE"),
  (0x302A, "aIDEOGRAPHIC LEVEL TONE MARK;bRISING TONE MARK;bDEPARTING TONE MARK"),
  (0x302D, "aIDEOGRAPHIC ENTERING TONE MARK;aHANGUL SINGLE DOT TONE MARK;bDOUBLE DOT TONE MARK"),
  (0x3030, "aWAVY DASH;aVERTICAL KANA REPEAT MARK;dWITH VOICED SOUND MARK;dMARK UPPER HALF")]

/-- The lines of names from U+3034 on. -/
def namesFrom3034 : List (Nat × String) := [
  (0x3034, "aVERTICAL KANA REPEAT WITH VOICED SOUND MARK UPPER HALF;dMARK LOWER HALF"),
  (0x3036, "aCIRCLED POSTAL MARK;aIDEOGRAPHIC TELEGRAPH LINE FEED SEPARATOR SYMBOL"),
  (0x3038, "aHANGZHOU NUMERAL TEN;cTWENTY;cTHIRTY;aVERTICAL IDEOGRAPHIC ITERATION MARK;aMASU MARK"),
  (0x303D, "aPART ALTERNATION MARK;aIDEOGRAPHIC VARIATION INDICATOR;bHALF FILL SPACE"),
  (0x3041, "aHIRAGANA LETTER SMALL A;cA;cSMALL I;cI;cSMALL U;cU;cSMALL E;cE;cSMALL O;cO;cKA;cGA"),
  (0x304D, "aHIRAGANA LETTER KI;cGI;cKU;cGU;cKE;cGE;cKO;cGO;cSA;cZA;cSI;cZI;cSU;cZU;cSE;cZE;cSO"),
  (0x305E, "aHIRAGANA LETTER ZO;cTA;cDA;cTI;cDI;cSMALL TU;cTU;cDU;cTE;cDE;cTO;cDO;cNA;cNI;cNU;cNE"),
  (0x306E, "aHIRAGANA LETTER NO;cHA;cBA;cPA;cHI;cBI;cPI;cHU;cBU;cPU;cHE;cBE;cPE;cHO;cBO;cPO;cMA"),
  (0x307F, "aHIRAGANA LETTER MI;cMU;cME;cMO;cSMALL YA;cYA;cSMALL YU;cYU;cSMALL YO;cYO;cRA;cRI;cRU"),
  (0x308C, "aHIRAGANA LETTER RE;cRO;cSMALL WA;cWA;cWI;cWE;cWO;cN;cVU;cSMALL KA;dKE"),
  (0x3099, "aCOMBINING KATAKANA-HIRAGANA VOICED SOUND MARK;cSEMI-VOICED SOUND MARK"),
  (0x309B, "aKATAKANA-HIRAGANA VOICED SOUND MARK;bSEMI-VOICED SOUND MARK;aHIRAGANA ITERATION MARK"),
  (0x309E, "aHIRAGANA VOICED ITERATION MARK;bDIGRAPH YORI;aKATAKANA-HIRAGANA DOUBLE HYPHEN"),
  (0x30A1, "aKATAKANA LETTER SMALL A;cA;cSMALL I;cI;cSMALL U;cU;cSMALL E;cE;cSMALL O;cO;cKA;cGA"),
  (0x30AD, "aKATAKANA LETTER KI;cGI;cKU;cGU;cKE;cGE;cKO;cGO;cSA;cZA;cSI;cZI;cSU;cZU;cSE;cZE;cSO"),
  (0x30BE, "aKATAKANA LETTER ZO;cTA;cDA;cTI;cDI;cSMALL TU;cTU;cDU;cTE;cDE;cTO;cDO;cNA;cNI;cNU;cNE"),
  (0x30CE, "aKATAKANA LETTER NO;cHA;cBA;cPA;cHI;cBI;cPI;cHU;cBU;cPU;cHE;cBE;cPE;cHO;cBO;cPO;cMA"),
  (0x30DF, "aKATAKANA LETTER MI;cMU;cME;cMO;cSMALL YA;cYA;cSMALL YU;cYU;cSMALL YO;cYO;cRA;cRI;cRU"),
  (0x30EC, "aKATAKANA LETTER RE;cRO;cSMALL WA;cWA;cWI;cWE;cWO;cN;cVU;cSMALL KA;dKE;cVA;cVI;cVE"),
  (0x30FA, "aKATAKANA LETTER VO;bMIDDLE DOT;aKATAKANA-HIRAGANA PROLONGED SOUND MARK"),
  (0x30FD, "aKATAKANA ITERATION MARK;bVOICED ITERATION MARK;bDIGRAPH KOTO"),
  (0x3105, "aBOPOMOFO LETTER B;cP;cM;cF;cD;cT;cN;cL;cG;cK;cH;cJ;cQ;cX;cZH;cCH;cSH;cR;cZ;cC;cS;cA"),
  (0x311B, "aBOPOMOFO LETTER O;cE;cEH;cAI;cEI;cAU;cOU;cAN;cEN;cANG;cENG;cER;cI;cU;cIU;cV;cNG;cGN"),
  (0x312D, "aBOPOMOFO LETTER IH;cO WITH DOT ABOVE;cNN"),
  (0x3131, "aHANGUL LETTER KIYEOK;cSSANGKIYEOK;cKIYEOK-SIOS;cNIEUN;cNIEUN-CIEUC;cNIEUN-HIEUH"),
  (0x3137, "aHANGUL LETTER TIKEUT;cSSANGTIKEUT;cRIEUL;cRIEUL-KIYEOK;cRIEUL-MIEUM;cRIEUL-PIEUP"),
  (0x313D, "aHANGUL LETTER RIEUL-SIOS;cRIEUL-THIEUTH;cRIEUL-PHIEUPH;cRIEUL-HIEUH;cMIEUM;cPIEUP"),
  (0x3143, "aHANGUL LETTER SSANGPIEUP;cPIEUP-SIOS;cSIOS;cSSANGSIOS;cIEUNG;cCIEUC;cSSANGCIEUC"),
  (0x314A, "aHANGUL LETTER CHIEUCH;cKHIEUKH;cTHIEUTH;cPHIEUPH;cHIEUH;cA;cAE;cYA;cYAE;cEO;cE;cYEO"),
  (0x3156, "aHANGUL LETTER YE;cO;cWA;cWAE;cOE;cYO;cU;cWEO;cWE;cWI;cYU;cEU;cYI;cI;bFILLER"),
  (0x3165, "aHANGUL LETTER SSANGNIEUN;cNIEUN-TIKEUT;cNIEUN-SIOS;cNIEUN-PANSIOS;cRIEUL-KIYEOK-SIOS"),
  (0x316A, "aHANGUL LETTER RIEUL-TIKEUT;cRIEUL-PIEUP-SIOS;cRIEUL-PANSIOS;cRIEUL-YEORINHIEUH"),
  (0x316E, "aHANGUL LETTER MIEUM-PIEUP;cMIEUM-SIOS;cMIEUM-PANSIOS;cKAPYEOUNMIEUM;cPIEUP-KIYEOK"),
  (0x3173, "aHANGUL LETTER PIEUP-TIKEUT;cPIEUP-SIOS-KIYEOK;cPIEUP-SIOS-TIKEUT;cPIEUP-CIEUC"),
  (0x3177, "aHANGUL LETTER PIEUP-THIEUTH;cKAPYEOUNPIEUP;cKAPYEOUNSSANGPIEUP;cSIOS-KIYEOK"),
  (0x317B, "aHANGUL LETTER SIOS-NIEUN;cSIOS-TIKEUT;cSIOS-PIEUP;cSIOS-CIEUC;cPANSIOS;cSSANGIEUNG"),
  (0x3181, "aHANGUL LETTER YESIEUNG;cYESIEUNG-SIOS;cYESIEUNG-PANSIOS;cKAPYEOUNPHIEUPH;cSSANGHIEUH"),
  (0x3186, "aHANGUL LETTER YEORINHIEUH;cYO-YA;cYO-YAE;cYO-I;cYU-YEO;cYU-YE;cYU-I;cARAEA;cARAEAE"),
  (0x3190, "aIDEOGRAPHIC ANNOTATION LINKING MARK;cREVERSE MARK;cONE MARK;cTWO MARK;cTHREE MARK"),
  (0x3195, "aIDEOGRAPHIC ANNOTATION FOUR MARK;cTOP MARK;cMIDDLE MARK;cBOTTOM MARK;cFIRST MARK"),
  (0x319A, "aIDEOGRAPHIC ANNOTATION SECOND MARK;cTHIRD MARK;cFOURTH MARK;cHEAVEN MARK;cEARTH MARK"),
  (0x319F, "aIDEOGRAPHIC ANNOTATION MAN MARK;aBOPOMOFO LETTER BU;cZI;cJI;cGU;cEE;cENN;cOO;cONN"),
  (0x31A8, "aBOPOMOFO LETTER IR;cANN;cINN;cUNN;cIM;cNGG;cAINN;cAUNN;cAM;cOM;cONG;cINNN"),
  (0x31B4, "aBOPOMOFO FINAL LETTER P;dT;dK;dH;bLETTER GH;cLH;cZY;bFINAL LETTER G;bLETTER GW;cKW"),
  (0x31BE, "aBOPOMOFO LETTER OE;cAH;aCJK STROKE T;cWG;cXG;cBXG;cSW;cHZZ;cHZG;cHP;cHZWG;cSZWG;cHZT"),
  (0x31CB, "aCJK STROKE HZZP;cHPWG;cHZW;cHZZZ;cN;cH;cS;cP;cSP;cD;cHZ;cHG;cSZ;cSWZ;cST;cSG;cPD;cPZ"),
  (0x31DD, "aCJK STROKE TN;cSZZ;cSWG;cHXWG;cHZZZG;cPG;cQ"),
  (0x31F0, "aKATAKANA LETTER SMALL KU;dSI;dSU;dTO;dNU;dHA;dHI;dHU;dHE;dHO;dMU;dRA;dRI;dRU;dRE;dRO"),
  (0x3200, "aPARENTHESIZED HANGUL KIYEOK;cNIEUN;cTIKEUT;cRIEUL;cMIEUM;cPIEUP;cSIOS;cIEUNG;cCIEUC"),
  (0x3209, "aPARENTHESIZED HANGUL CHIEUCH;cKHIEUKH;cTHIEUTH;cPHIEUPH;cHIEUH;cKIYEOK A;cNIEUN A"),
  (0x3210, "aPARENTHESIZED HANGUL TIKEUT A;cRIEUL A;cMIEUM A;cPIEUP A;cSIOS A;cIEUNG A;cCIEUC A"),
  (0x3217, "aPARENTHESIZED HANGUL CHIEUCH A;cKHIEUKH A;cTHIEUTH A;cPHIEUPH A;cHIEUH A;cCIEUC U"),
  (0x321D, "aPARENTHESIZED KOREAN CHARACTER OJEON;dO HU"),
  (0x3220, "aPARENTHESIZED IDEOGRAPH ONE;cTWO;cTHREE;cFOUR;cFIVE;cSIX;cSEVEN;cEIGHT;cNINE;cTEN"),
  (0x322A, "aPARENTHESIZED IDEOGRAPH MOON;cFIRE;cWATER;cWOOD;cMETAL;cEARTH;cSUN;cSTOCK;cHAVE"),
  (0x3233, "aPARENTHESIZED IDEOGRAPH SOCIETY;cNAME;cSPECIAL;cFINANCIAL;cCONGRATULATION;cLABOR"),
  (0x3239, "aPARENTHESIZED IDEOGRAPH REPRESENT;cCALL;cSTUDY;cSUPERVISE;cENTERPRISE;cRESOURCE"),
  (0x323F, "aPARENTHESIZED IDEOGRAPH ALLIANCE;cFESTIVAL;cREST;cSELF;cREACH"),
  (0x3244, "aCIRCLED IDEOGRAPH QUESTION;cKINDERGARTEN;cSCHOOL;cKOTO;bNUMBER TEN ON BLACK SQUARE"),
  (0x3249, "aCIRCLED NUMBER TWENTY ON BLACK SQUARE;cTHIRTY ON BLACK SQUARE;cFORTY ON BLACK SQUARE"),
  (0x324C, "aCIRCLED NUMBER FIFTY ON BLACK SQUARE;cSIXTY ON BLACK SQUARE;cSEVENTY ON BLACK SQUARE"),
  (0x324F, "aCIRCLED NUMBER EIGHTY ON BLACK SQUARE;aPARTNERSHIP SIGN;aCIRCLED NUMBER TWENTY ONE"),
  (0x3252, "aCIRCLED NUMBER TWENTY TWO;dTHREE;dFOUR;dFIVE;dSIX;dSEVEN;dEIGHT;dNINE;cTHIRTY;dONE"),
  (0x325C, "aCIRCLED NUMBER THIRTY TWO;dTHREE;dFOUR;dFIVE;bHANGUL KIYEOK;cNIEUN;cTIKEUT;cRIEUL"),
  (0x3264, "aCIRCLED HANGUL MIEUM;cPIEUP;cSIOS;cIEUNG;cCIEUC;cCHIEUCH;cKHIEUKH;cTHIEUTH;cPHIEUPH"),
  (0x326D, "aCIRCLED HANGUL HIEUH;cKIYEOK A;cNIEUN A;cTIKEUT A;cRIEUL A;cMIEUM A;cPIEUP A;cSIOS A"),
  (0x3275, "aCIRCLED HANGUL IEUNG A;cCIEUC A;cCHIEUCH A;cKHIEUKH A;cTHIEUTH A;cPHIEUPH A;cHIEUH A"),
  (0x327C, "aCIRCLED KOREAN CHARACTER CHAMKO;dJUEUI;bHANGUL IEUNG U;aKOREAN STANDARD SYMBOL"),
  (0x3280, "aCIRCLED IDEOGRAPH ONE;cTWO;cTHREE;cFOUR;cFIVE;cSIX;cSEVEN;cEIGHT;cNINE;cTEN;cMOON"),
  (0x328B, "aCIRCLED IDEOGRAPH FIRE;cWATER;cWOOD;cMETAL;cEARTH;cSUN;cSTOCK;cHAVE;cSOCIETY;cNAME"),
  (0x3295, "aCIRCLED IDEOGRAPH SPECIAL;cFINANCIAL;cCONGRATULATION;cLABOR;cSECRET;cMALE;cFEMALE"),
  (0x329C, "aCIRCLED IDEOGRAPH SUITABLE;cEXCELLENT;cPRINT;cATTENTION;cITEM;cREST;cCOPY;cCORRECT"),
  (0x32A4, "aCIRCLED IDEOGRAPH HIGH;cCENTRE;cLOW;cLEFT;cRIGHT;cMEDICINE;cRELIGION;cSTUDY"),
  (0x32AC, "aCIRCLED IDEOGRAPH SUPERVISE;cENTERPRISE;cRESOURCE;cALLIANCE;cNIGHT"),
  (0x32B1, "aCIRCLED NUMBER THIRTY SIX;dSEVEN;dEIGHT;dNINE;cFORTY;dONE;dTWO;dTHREE;dFOUR;dFIVE"),
  (0x32BB, "aCIRCLED NUMBER FORTY SIX;dSEVEN;dEIGHT;dNINE;cFIFTY"),
  (0x32C0, "aIDEOGRAPHIC TELEGRAPH SYMBOL FOR JANUARY;eFEBRUARY;eMARCH;eAPRIL;eMAY;eJUNE;eJULY"),
  (0x32C7, "aIDEOGRAPHIC TELEGRAPH SYMBOL FOR AUGUST;eSEPTEMBER;eOCTOBER;eNOVEMBER;eDECEMBER"),
  (0x32CC, "aSQUARE HG;bERG;bEV;aLIMITED LIABILITY SIGN;aCIRCLED KATAKANA A;cI;cU;cE;cO;cKA;cKI"),
  (0x32D7, "aCIRCLED KATAKANA KU;cKE;cKO;cSA;cSI;cSU;cSE;cSO;cTA;cTI;cTU;cTE;cTO;cNA;cNI;cNU;cNE"),
  (0x32E8, "aCIRCLED KATAKANA NO;cHA;cHI;cHU;cHE;cHO;cMA;cMI;cMU;cME;cMO;cYA;cYU;cYO;cRA;cRI;cRU"),
  (0x32F9, "aCIRCLED KATAKANA RE;cRO;cWA;cWI;cWE;cWO;aSQUARE ERA NAME REIWA;bAPAATO;bARUHUA"),
  (0x3302, "aSQUARE ANPEA;bAARU;bININGU;bINTI;bUON;bESUKUUDO;bEEKAA;bONSU;bOOMU;bKAIRI;bKARATTO"),
  (0x330D, "aSQUARE KARORII;bGARON;bGANMA;bGIGA;bGINII;bKYURII;bGIRUDAA;bKIRO;bKIROGURAMU"),
  (0x3316, "aSQUARE KIROMEETORU;bKIROWATTO;bGURAMU;bGURAMUTON;bKURUZEIRO;bKUROONE;bKEESU;bKORUNA"),
  (0x331E, "aSQUARE KOOPO;bSAIKURU;bSANTIIMU;bSIRINGU;bSENTI;bSENTO;bDAASU;bDESI;bDORU;bTON;bNANO"),
  (0x3329, "aSQUARE NOTTO;bHAITU;bPAASENTO;bPAATU;bBAARERU;bPIASUTORU;bPIKURU;bPIKO;bBIRU"),
  (0x3332, "aSQUARE HUARADDO;bHUIITO;bBUSSYERU;bHURAN;bHEKUTAARU;bPESO;bPENIHI;bHERUTU;bPENSU"),
  (0x333B, "aSQUARE PEEZI;bBEETA;bPOINTO;bBORUTO;bHON;bPONDO;bHOORU;bHOON;bMAIKURO;bMAIRU;bMAHHA"),
  (0x3346, "aSQUARE MARUKU;bMANSYON;bMIKURON;bMIRI;bMIRIBAARU;bMEGA;bMEGATON;bMEETORU;bYAADO"),
  (0x334F, "aSQUARE YAARU;bYUAN;bRITTORU;bRIRA;bRUPII;bRUUBURU;bREMU;bRENTOGEN;bWATTO"),
  (0x3358, "aIDEOGRAPHIC TELEGRAPH SYMBOL FOR HOUR ZERO;fONE;fTWO;fTHREE;fFOUR;fFIVE;fSIX;fSEVEN"),
  (0x3360, "aIDEOGRAPHIC TELEGRAPH SYMBOL FOR HOUR EIGHT;fNINE;fTEN;fELEVEN;fTWELVE;fTHIRTEEN"),
  (0x3366, "aIDEOGRAPHIC TELEGRAPH SYMBOL FOR HOUR FOURTEEN;fFIFTEEN;fSIXTEEN;fSEVENTEEN"),
  (0x336A, "aIDEOGRAPHIC TELEGRAPH SYMBOL FOR HOUR EIGHTEEN;fNINETEEN;fTWENTY;fTWENTY-ONE"),
  (0x336E, "aIDEOGRAPHIC TELEGRAPH SYMBOL FOR HOUR TWENTY-TWO;fTWENTY-THREE;fTWENTY-FOUR"),
  (0x3371, "aSQUARE HPA;bDA;bAU;bBAR;bOV;bPC;bDM;cSQUARED;cCUBED;bIU;bERA NAME HEISEI;dSYOUWA"),
  (0x337D, "aSQUARE ERA NAME TAISYOU;dMEIZI;bCORPORATION;bPA AMPS;bNA;bMU A;bMA;bKA;bKB;bMB;bGB"),
  (0x3388, "aSQUARE CAL;bKCAL;bPF;bNF;bMU F;cG;bMG;bKG;bHZ;bKHZ;bMHZ;bGHZ;bTHZ;bMU L;bML;bDL;bKL"),
  (0x3399, "aSQUARE FM;bNM;bMU M;bMM;bCM;bKM;bMM SQUARED;bCM SQUARED;bM SQUARED;bKM SQUARED"),
  (0x33A3, "aSQUARE MM CUBED;bCM CUBED;bM CUBED;bKM CUBED;bM OVER S;eSQUARED;bPA;bKPA;bMPA;bGPA"),
  (0x33AD, "aSQUARE RAD;cOVER S;eSQUARED;bPS;bNS;bMU S;bMS;bPV;bNV;bMU V;bMV;bKV;bMV MEGA;bPW;bNW"),
  (0x33BC, "aSQUARE MU W;bMW;bKW;bMW MEGA;bK OHM;bM OHM;bAM;bBQ;bCC;bCD;bC OVER KG;bCO;bDB;bGY"),
  (0x33CA, "aSQUARE HA;bHP;bIN;bKK;bKM CAPITAL;bKT;bLM;bLN;bLOG;bLX;bMB SMALL;bMIL;bMOL;bPH;bPM"),
  (0x33D9, "aSQUARE PPM;bPR;bSR;bSV;bWB;bV OVER M;bA OVER M"),
  (0x33E0, "aIDEOGRAPHIC TELEGRAPH SYMBOL FOR DAY ONE;fTWO;fTHREE;fFOUR;fFIVE;fSIX;fSEVEN;fEIGHT"),
  (0x33E8, "aIDEOGRAPHIC TELEGRAPH SYMBOL FOR DAY NINE;fTEN;fELEVEN;fTWELVE;fTHIRTEEN;fFOURTEEN"),
  (0x33EE, "aIDEOGRAPHIC TELEGRAPH SYMBOL FOR DAY FIFTEEN;fSIXTEEN;fSEVENTEEN;fEIGHTEEN;fNINETEEN"),
  (0x33F3, "aIDEOGRAPHIC TELEGRAPH SYMBOL FOR DAY TWENTY;fTWENTY-ONE;fTWENTY-TWO;fTWENTY-THREE"),
  (0x33F7, "aIDEOGRAPHIC TELEGRAPH SYMBOL FOR DAY TWENTY-FOUR;fTWENTY-FIVE;fTWENTY-SIX"),
  (0x33FA, "aIDEOGRAPHIC TELEGRAPH SYMBOL FOR DAY TWENTY-SEVEN;fTWENTY-EIGHT;fTWENTY-NINE;fTHIRTY"),
  (0x33FE, "aIDEOGRAPHIC TELEGRAPH SYMBOL FOR DAY THIRTY-ONE;aSQUARE GAL"),
  (0x4DC0, "aHEXAGRAM FOR THE CREATIVE HEAVEN;dRECEPTIVE EARTH;cDIFFICULTY AT THE BEGINNING"),
  (0x4DC3, "aHEXAGRAM FOR YOUTHFUL FOLLY;cWAITING;cCONFLICT;cTHE ARMY;cHOLDING TOGETHER"),
  (0x4DC8, "aHEXAGRAM FOR SMALL TAMING;cTREADING;cPEACE;cSTANDSTILL;cFELLOWSHIP;cGREAT POSSESSION"),
  (0x4DCE, "aHEXAGRAM FOR MODESTY;cENTHUSIASM;cFOLLOWING;cWORK ON THE DECAYED;cAPPROACH"),
  (0x4DD3, "aHEXAGRAM FOR CONTEMPLATION;cBITING THROUGH;cGRACE;cSPLITTING APART;cRETURN"),
  (0x4DD8, "aHEXAGRAM FOR INNOCENCE;cGREAT TAMING;cMOUTH CORNERS;cGREAT PREPONDERANCE"),
  (0x4DDC, "aHEXAGRAM FOR THE ABYSMAL WATER;dCLINGING FIRE;cINFLUENCE;cDURATION;cRETREAT"),
  (0x4DE1, "aHEXAGRAM FOR GREAT POWER;cPROGRESS;cDARKENING OF THE LIGHT;cTHE FAMILY;cOPPOSITION"),
  (0x4DE6, "aHEXAGRAM FOR OBSTRUCTION;cDELIVERANCE;cDECREASE;cINCREASE;cBREAKTHROUGH"),
  (0x4DEB, "aHEXAGRAM FOR COMING TO MEET;cGATHERING TOGETHER;cPUSHING UPWARD;cOPPRESSION"),
  (0x4DEF, "aHEXAGRAM FOR THE WELL;cREVOLUTION;cTHE CAULDRON;dAROUSING THUNDER"),
  (0x4DF3, "aHEXAGRAM FOR THE KEEPING STILL MOUNTAIN;cDEVELOPMENT;cTHE MARRYING MAIDEN;cABUNDANCE"),
  (0x4DF7, "aHEXAGRAM FOR THE WANDERER;dGENTLE WIND;dJOYOUS LAKE;cDISPERSION;cLIMITATION"),
  (0x4DFC, "aHEXAGRAM FOR INNER TRUTH;cSMALL PREPONDERANCE;cAFTER COMPLETION;cBEFORE COMPLETION"),
  (0xA000, "aYI SYLLABLE IT;cIX;cI;cIP;cIET;cIEX;cIE;cIEP;cAT;cAX;cA;cAP;cUOX;cUO;cUOP;cOT;cOX;cO"),
  (0xA012, "aYI SYLLABLE OP;cEX;cE;cWU;cBIT;cBIX;cBI;cBIP;cBIET;cBIEX;cBIE;cBIEP;cBAT;cBAX;cBA"),
  (0xA021, "aYI SYLLABLE BAP;cBUOX;cBUO;cBUOP;cBOT;cBOX;cBO;cBOP;cBEX;cBE;cBEP;cBUT;cBUX;cBU;cBUP"),
  (0xA030, "aYI SYLLABLE BURX;cBUR;cBYT;cBYX;cBY;cBYP;cBYRX;cBYR;cPIT;cPIX;cPI;cPIP;cPIEX;cPIE"),
  (0xA03E, "aYI SYLLABLE PIEP;cPAT;cPAX;cPA;cPAP;cPUOX;cPUO;cPUOP;cPOT;cPOX;cPO;cPOP;cPUT;cPUX"),
  (0xA04C, "aYI SYLLABLE PU;cPUP;cPURX;cPUR;cPYT;cPYX;cPY;cPYP;cPYRX;cPYR;cBBIT;cBBIX;cBBI;cBBIP"),
  (0xA05A, "aYI SYLLABLE BBIET;cBBIEX;cBBIE;cBBIEP;cBBAT;cBBAX;cBBA;cBBAP;cBBUOX;cBBUO;cBBUOP"),
  (0xA065, "aYI SYLLABLE BBOT;cBBOX;cBBO;cBBOP;cBBEX;cBBE;cBBEP;cBBUT;cBBUX;cBBU;cBBUP;cBBURX"),
  (0xA071, "aYI SYLLABLE BBUR;cBBYT;cBBYX;cBBY;cBBYP;cNBIT;cNBIX;cNBI;cNBIP;cNBIEX;cNBIE;cNBIEP"),
  (0xA07D, "aYI SYLLABLE NBAT;cNBAX;cNBA;cNBAP;cNBOT;cNBOX;cNBO;cNBOP;cNBUT;cNBUX;cNBU;cNBUP"),
  (0xA089, "aYI SYLLABLE NBURX;cNBUR;cNBYT;cNBYX;cNBY;cNBYP;cNBYRX;cNBYR;cHMIT;cHMIX;cHMI;cHMIP"),
  (0xA095, "aYI SYLLABLE HMIEX;cHMIE;cHMIEP;cHMAT;cHMAX;cHMA;cHMAP;cHMUOX;cHMUO;cHMUOP;cHMOT"),
  (0xA0A0, "aYI SYLLABLE HMOX;cHMO;cHMOP;cHMUT;cHMUX;cHMU;cHMUP;cHMURX;cHMUR;cHMYX;cHMY;cHMYP"),
  (0xA0AC, "aYI SYLLABLE HMYRX;cHMYR;cMIT;cMIX;cMI;cMIP;cMIEX;cMIE;cMIEP;cMAT;cMAX;cMA;cMAP;cMUOT"),
  (0xA0BA, "aYI SYLLABLE MUOX;cMUO;cMUOP;cMOT;cMOX;cMO;cMOP;cMEX;cME;cMUT;cMUX;cMU;cMUP;cMURX"),
  (0xA0C8, "aYI SYLLABLE MUR;cMYT;cMYX;cMY;cMYP;cFIT;cFIX;cFI;cFIP;cFAT;cFAX;cFA;cFAP;cFOX;cFO"),
  (0xA0D7, "aYI SYLLABLE FOP;cFUT;cFUX;cFU;cFUP;cFURX;cFUR;cFYT;cFYX;cFY;cFYP;cVIT;cVIX;cVI;cVIP"),
  (0xA0E6, "aYI SYLLABLE VIET;cVIEX;cVIE;cVIEP;cVAT;cVAX;cVA;cVAP;cVOT;cVOX;cVO;cVOP;cVEX;cVEP"),
  (0xA0F4, "aYI SYLLABLE VUT;cVUX;cVU;cVUP;cVURX;cVUR;cVYT;cVYX;cVY;cVYP;cVYRX;cVYR;cDIT;cDIX;cDI"),
  (0xA103, "aYI SYLLABLE DIP;cDIEX;cDIE;cDIEP;cDAT;cDAX;cDA;cDAP;cDUOX;cDUO;cDOT;cDOX;cDO;cDOP"),
  (0xA111, "aYI SYLLABLE DEX;cDE;cDEP;cDUT;cDUX;cDU;cDUP;cDURX;cDUR;cTIT;cTIX;cTI;cTIP;cTIEX;cTIE"),
  (0xA120, "aYI SYLLABLE TIEP;cTAT;cTAX;cTA;cTAP;cTUOT;cTUOX;cTUO;cTUOP;cTOT;cTOX;cTO;cTOP;cTEX"),
  (0xA12E, "aYI SYLLABLE TE;cTEP;cTUT;cTUX;cTU;cTUP;cTURX;cTUR;cDDIT;cDDIX;cDDI;cDDIP;cDDIEX"),
  (0xA13B, "aYI SYLLABLE DDIE;cDDIEP;cDDAT;cDDAX;cDDA;cDDAP;cDDUOX;cDDUO;cDDUOP;cDDOT;cDDOX;cDDO"),
  (0xA147, "aYI SYLLABLE DDOP;cDDEX;cDDE;cDDEP;cDDUT;cDDUX;cDDU;cDDUP;cDDURX;cDDUR;cNDIT;cNDIX"),
  (0xA153, "aYI SYLLABLE NDI;cNDIP;cNDIEX;cNDIE;cNDAT;cNDAX;cNDA;cNDAP;cNDOT;cNDOX;cNDO;cNDOP"),
  (0xA15F, "aYI SYLLABLE NDEX;cNDE;cNDEP;cNDUT;cNDUX;cNDU;cNDUP;cNDURX;cNDUR;cHNIT;cHNIX;cHNI"),
  (0xA16B, "aYI SYLLABLE HNIP;cHNIET;cHNIEX;cHNIE;cHNIEP;cHNAT;cHNAX;cHNA;cHNAP;cHNUOX;cHNUO"),
  (0xA176, "aYI SYLLABLE HNOT;cHNOX;cHNOP;cHNEX;cHNE;cHNEP;cHNUT;cNIT;cNIX;cNI;cNIP;cNIEX;cNIE"),
  (0xA183, "aYI SYLLABLE NIEP;cNAX;cNA;cNAP;cNUOX;cNUO;cNUOP;cNOT;cNOX;cNO;cNOP;cNEX;cNE;cNEP"),
  (0xA191, "aYI SYLLABLE NUT;cNUX;cNU;cNUP;cNURX;cNUR;cHLIT;cHLIX;cHLI;cHLIP;cHLIEX;cHLIE;cHLIEP"),
  (0xA19E, "aYI SYLLABLE HLAT;cHLAX;cHLA;cHLAP;cHLUOX;cHLUO;cHLUOP;cHLOX;cHLO;cHLOP;cHLEX;cHLE"),
  (0xA1AA, "aYI SYLLABLE HLEP;cHLUT;cHLUX;cHLU;cHLUP;cHLURX;cHLUR;cHLYT;cHLYX;cHLY;cHLYP;cHLYRX"),
  (0xA1B6, "aYI SYLLABLE HLYR;cLIT;cLIX;cLI;cLIP;cLIET;cLIEX;cLIE;cLIEP;cLAT;cLAX;cLA;cLAP;cLUOT"),
  (0xA1C4, "aYI SYLLABLE LUOX;cLUO;cLUOP;cLOT;cLOX;cLO;cLOP;cLEX;cLE;cLEP;cLUT;cLUX;cLU;cLUP"),
  (0xA1D2, "aYI SYLLABLE LURX;cLUR;cLYT;cLYX;cLY;cLYP;cLYRX;cLYR;cGIT;cGIX;cGI;cGIP;cGIET;cGIEX"),
  (0xA1E0, "aYI SYLLABLE GIE;cGIEP;cGAT;cGAX;cGA;cGAP;cGUOT;cGUOX;cGUO;cGUOP;cGOT;cGOX;cGO;cGOP"),
  (0xA1EE, "aYI SYLLABLE GET;cGEX;cGE;cGEP;cGUT;cGUX;cGU;cGUP;cGURX;cGUR;cKIT;cKIX;cKI;cKIP;cKIEX"),
  (0xA1FD, "aYI SYLLABLE KIE;cKIEP;cKAT;cKAX;cKA;cKAP;cKUOX;cKUO;cKUOP;cKOT;cKOX;cKO;cKOP;cKET"),
  (0xA20B, "aYI SYLLABLE KEX;cKE;cKEP;cKUT;cKUX;cKU;cKUP;cKURX;cKUR;cGGIT;cGGIX;cGGI;cGGIEX;cGGIE"),
  (0xA219, "aYI SYLLABLE GGIEP;cGGAT;cGGAX;cGGA;cGGAP;cGGUOT;cGGUOX;cGGUO;cGGUOP;cGGOT;cGGOX;cGGO"),
  (0xA225, "aYI SYLLABLE GGOP;cGGET;cGGEX;cGGE;cGGEP;cGGUT;cGGUX;cGGU;cGGUP;cGGURX;cGGUR;cMGIEX"),
  (0xA231, "aYI SYLLABLE MGIE;cMGAT;cMGAX;cMGA;cMGAP;cMGUOX;cMGUO;cMGUOP;cMGOT;cMGOX;cMGO;cMGOP"),
  (0xA23D, "aYI SYLLABLE MGEX;cMGE;cMGEP;cMGUT;cMGUX;cMGU;cMGUP;cMGURX;cMGUR;cHXIT;cHXIX;cHXI"),
  (0xA249, "aYI SYLLABLE HXIP;cHXIET;cHXIEX;cHXIE;cHXIEP;cHXAT;cHXAX;cHXA;cHXAP;cHXUOT;cHXUOX"),
  (0xA254, "aYI SYLLABLE HXUO;cHXUOP;cHXOT;cHXOX;cHXO;cHXOP;cHXEX;cHXE;cHXEP;cNGIEX;cNGIE;cNGIEP"),
  (0xA260, "aYI SYLLABLE NGAT;cNGAX;cNGA;cNGAP;cNGUOT;cNGUOX;cNGUO;cNGOT;cNGOX;cNGO;cNGOP;cNGEX"),
  (0xA26C, "aYI SYLLABLE NGE;cNGEP;cHIT;cHIEX;cHIE;cHAT;cHAX;cHA;cHAP;cHUOT;cHUOX;cHUO;cHUOP;cHOT"),
  (0xA27A, "aYI SYLLABLE HOX;cHO;cHOP;cHEX;cHE;cHEP;cWAT;cWAX;cWA;cWAP;cWUOX;cWUO;cWUOP;cWOX;cWO"),
  (0xA289, "aYI SYLLABLE WOP;cWEX;cWE;cWEP;cZIT;cZIX;cZI;cZIP;cZIEX;cZIE;cZIEP;cZAT;cZAX;cZA;cZAP"),
  (0xA298, "aYI SYLLABLE ZUOX;cZUO;cZUOP;cZOT;cZOX;cZO;cZOP;cZEX;cZE;cZEP;cZUT;cZUX;cZU;cZUP"),
  (0xA2A6, "aYI SYLLABLE ZURX;cZUR;cZYT;cZYX;cZY;cZYP;cZYRX;cZYR;cCIT;cCIX;cCI;cCIP;cCIET;cCIEX"),
  (0xA2B4, "aYI SYLLABLE CIE;cCIEP;cCAT;cCAX;cCA;cCAP;cCUOX;cCUO;cCUOP;cCOT;cCOX;cCO;cCOP;cCEX"),
  (0xA2C2, "aYI SYLLABLE CE;cCEP;cCUT;cCUX;cCU;cCUP;cCURX;cCUR;cCYT;cCYX;cCY;cCYP;cCYRX;cCYR"),
  (0xA2D0, "aYI SYLLABLE ZZIT;cZZIX;cZZI;cZZIP;cZZIET;cZZIEX;cZZIE;cZZIEP;cZZAT;cZZAX;cZZA;cZZAP"),
  (0xA2DC, "aYI SYLLABLE ZZOX;cZZO;cZZOP;cZZEX;cZZE;cZZEP;cZZUX;cZZU;cZZUP;cZZURX;cZZUR;cZZYT"),
  (0xA2E8, "aYI SYLLABLE ZZYX;cZZY;cZZYP;cZZYRX;cZZYR;cNZIT;cNZIX;cNZI;cNZIP;cNZIEX;cNZIE;cNZIEP"),
  (0xA2F4, "aYI SYLLABLE NZAT;cNZAX;cNZA;cNZAP;cNZUOX;cNZUO;cNZOX;cNZOP;cNZEX;cNZE;cNZUX;cNZU"),
  (0xA300, "aYI SYLLABLE NZUP;cNZURX;cNZUR;cNZYT;cNZYX;cNZY;cNZYP;cNZYRX;cNZYR;cSIT;cSIX;cSI;cSIP"),
  (0xA30D, "aYI SYLLABLE SIEX;cSIE;cSIEP;cSAT;cSAX;cSA;cSAP;cSUOX;cSUO;cSUOP;cSOT;cSOX;cSO;cSOP"),
  (0xA31B, "aYI SYLLABLE SEX;cSE;cSEP;cSUT;cSUX;cSU;cSUP;cSURX;cSUR;cSYT;cSYX;cSY;cSYP;cSYRX;cSYR"),
  (0xA32A, "aYI SYLLABLE SSIT;cSSIX;cSSI;cSSIP;cSSIEX;cSSIE;cSSIEP;cSSAT;cSSAX;cSSA;cSSAP;cSSOT"),
  (0xA336, "aYI SYLLABLE SSOX;cSSO;cSSOP;cSSEX;cSSE;cSSEP;cSSUT;cSSUX;cSSU;cSSUP;cSSYT;cSSYX;cSSY"),
  (0xA343, "aYI SYLLABLE SSYP;cSSYRX;cSSYR;cZHAT;cZHAX;cZHA;cZHAP;cZHUOX;cZHUO;cZHUOP;cZHOT;cZHOX"),
  (0xA34F, "aYI SYLLABLE ZHO;cZHOP;cZHET;cZHEX;cZHE;cZHEP;cZHUT;cZHUX;cZHU;cZHUP;cZHURX;cZHUR"),
  (0xA35B, "aYI SYLLABLE ZHYT;cZHYX;cZHY;cZHYP;cZHYRX;cZHYR;cCHAT;cCHAX;cCHA;cCHAP;cCHUOT;cCHUOX"),
  (0xA367, "aYI SYLLABLE CHUO;cCHUOP;cCHOT;cCHOX;cCHO;cCHOP;cCHET;cCHEX;cCHE;cCHEP;cCHUX;cCHU"),
  (0xA373, "aYI SYLLABLE CHUP;cCHURX;cCHUR;cCHYT;cCHYX;cCHY;cCHYP;cCHYRX;cCHYR;cRRAX;cRRA;cRRUOX"),
  (0xA37F, "aYI SYLLABLE RRUO;cRROT;cRROX;cRRO;cRROP;cRRET;cRREX;cRRE;cRREP;cRRUT;cRRUX;cRRU"),
  (0xA38B, "aYI SYLLABLE RRUP;cRRURX;cRRUR;cRRYT;cRRYX;cRRY;cRRYP;cRRYRX;cRRYR;cNRAT;cNRAX;cNRA"),
  (0xA397, "aYI SYLLABLE NRAP;cNROX;cNRO;cNROP;cNRET;cNREX;cNRE;cNREP;cNRUT;cNRUX;cNRU;cNRUP"),
  (0xA3A3, "aYI SYLLABLE NRURX;cNRUR;cNRYT;cNRYX;cNRY;cNRYP;cNRYRX;cNRYR;cSHAT;cSHAX;cSHA;cSHAP"),
  (0xA3AF, "aYI SYLLABLE SHUOX;cSHUO;cSHUOP;cSHOT;cSHOX;cSHO;cSHOP;cSHET;cSHEX;cSHE;cSHEP;cSHUT"),
  (0xA3BB, "aYI SYLLABLE SHUX;cSHU;cSHUP;cSHURX;cSHUR;cSHYT;cSHYX;cSHY;cSHYP;cSHYRX;cSHYR;cRAT"),
  (0xA3C7, "aYI SYLLABLE RAX;cRA;cRAP;cRUOX;cRUO;cRUOP;cROT;cROX;cRO;cROP;cREX;cRE;cREP;cRUT;cRUX"),
  (0xA3D6, "aYI SYLLABLE RU;cRUP;cRURX;cRUR;cRYT;cRYX;cRY;cRYP;cRYRX;cRYR;cJIT;cJIX;cJI;cJIP"),
  (0xA3E4, "aYI SYLLABLE JIET;cJIEX;cJIE;cJIEP;cJUOT;cJUOX;cJUO;cJUOP;cJOT;cJOX;cJO;cJOP;cJUT"),
  (0xA3F1, "aYI SYLLABLE JUX;cJU;cJUP;cJURX;cJUR;cJYT;cJYX;cJY;cJYP;cJYRX;cJYR;cQIT;cQIX;cQI;cQIP"),
  (0xA400, "aYI SYLLABLE QIET;cQIEX;cQIE;cQIEP;cQUOT;cQUOX;cQUO;cQUOP;cQOT;cQOX;cQO;cQOP;cQUT"),
  (0xA40D, "aYI SYLLABLE QUX;cQU;cQUP;cQURX;cQUR;cQYT;cQYX;cQY;cQYP;cQYRX;cQYR;cJJIT;cJJIX;cJJI"),
  (0xA41B, "aYI SYLLABLE JJIP;cJJIET;cJJIEX;cJJIE;cJJIEP;cJJUOX;cJJUO;cJJUOP;cJJOT;cJJOX;cJJO"),
  (0xA426, "aYI SYLLABLE JJOP;cJJUT;cJJUX;cJJU;cJJUP;cJJURX;cJJUR;cJJYT;cJJYX;cJJY;cJJYP;cNJIT"),
  (0xA432, "aYI SYLLABLE NJIX;cNJI;cNJIP;cNJIET;cNJIEX;cNJIE;cNJIEP;cNJUOX;cNJUO;cNJOT;cNJOX;cNJO"),
  (0xA43E, "aYI SYLLABLE NJOP;cNJUX;cNJU;cNJUP;cNJURX;cNJUR;cNJYT;cNJYX;cNJY;cNJYP;cNJYRX;cNJYR"),
  (0xA44A, "aYI SYLLABLE NYIT;cNYIX;cNYI;cNYIP;cNYIET;cNYIEX;cNYIE;cNYIEP;cNYUOX;cNYUO;cNYUOP"),
  (0xA455, "aYI SYLLABLE NYOT;cNYOX;cNYO;cNYOP;cNYUT;cNYUX;cNYU;cNYUP;cXIT;cXIX;cXI;cXIP;cXIET"),
  (0xA462, "aYI SYLLABLE XIEX;cXIE;cXIEP;cXUOX;cXUO;cXOT;cXOX;cXO;cXOP;cXYT;cXYX;cXY;cXYP;cXYRX"),
  (0xA470, "aYI SYLLABLE XYR;cYIT;cYIX;cYI;cYIP;cYIET;cYIEX;cYIE;cYIEP;cYUOT;cYUOX;cYUO;cYUOP"),
  (0xA47D, "aYI SYLLABLE YOT;cYOX;cYO;cYOP;cYUT;cYUX;cYU;cYUP;cYURX;cYUR;cYYT;cYYX;cYY;cYYP;cYYRX"),
  (0xA48C, "aYI SYLLABLE YYR"),
  (0xA490, "aYI RADICAL QOT;cLI;cKIT;cNYIP;cCYP;cSSI;cGGOP;cGEP;cMI;cHXIT;cLYR;cBBUT;cMOP;cYO"),
  (0xA49E, "aYI RADICAL PUT;cHXUO;cTAT;cGA;cZUP;cCYT;cDDUR;cBUR;cGGUO;cNYOP;cTU;cOP;cJJUT;cZOT"),
  (0xA4AC, "aYI RADICAL PYT;cHMO;cYIT;cVUR;cSHY;cVEP;cZA;cJO;cNZUP;cJJY;cGOT;cJJIE;cWO;cDU;cSHUR"),
  (0xA4BB, "aYI RADICAL LIE;cCY;cCUOP;cCIP;cHXOP;cSHAT;cZUR;cSHOP;cCHE;cZZIET;cNBIE;cKE")]

/-- The lines of names from U+A4D0 on. -/
def namesFromA4D0 : List (Nat × String) := [
  (0xA4D0, "aLISU LETTER BA;cPA;cPHA;cDA;cTA;cTHA;cGA;cKA;cKHA;cJA;cCA;cCHA;cDZA;cTSA;cTSHA;cMA"),
  (0xA4E0, "aLISU LETTER NA;cLA;cSA;cZHA;cZA;cNGA;cHA;cXA;cHHA;cFA;cWA;cSHA;cYA;cGHA;cA;cAE;cE"),
  (0xA4F1, "aLISU LETTER EU;cI;cO;cU;cUE;cUH;cOE;cTONE MYA TI;dNA PO;dMYA CYA;eBO;eNA;eJEU"),
  (0xA4FE, "aLISU PUNCTUATION COMMA;cFULL STOP;aVAI SYLLABLE EE;cEEN;cHEE;cWEE;cWEEN;cPEE;cBHEE"),
  (0xA507, "aVAI SYLLABLE BEE;cMBEE;cKPEE;cMGBEE;cGBEE;cFEE;cVEE;cTEE;cTHEE;cDHEE;cDHHEE;cLEE"),
  (0xA513, "aVAI SYLLABLE REE;cDEE;cNDEE;cSEE;cSHEE;cZEE;cZHEE;cCEE;cJEE;cNJEE;cYEE;cKEE;cNGGEE"),
  (0xA520, "aVAI SYLLABLE GEE;cMEE;cNEE;cNYEE;cI;cIN;cHI;cHIN;cWI;cWIN;cPI;cBHI;cBI;cMBI;cKPI"),
  (0xA52F, "aVAI SYLLABLE MGBI;cGBI;cFI;cVI;cTI;cTHI;cDHI;cDHHI;cLI;cRI;cDI;cNDI;cSI;cSHI;cZI"),
  (0xA53E, "aVAI SYLLABLE ZHI;cCI;cJI;cNJI;cYI;cKI;cNGGI;cGI;cMI;cNI;cNYI;cA;cAN;cNGAN;cHA;cHAN"),
  (0xA54E, "aVAI SYLLABLE WA;cWAN;cPA;cBHA;cBA;cMBA;cKPA;cKPAN;cMGBA;cGBA;cFA;cVA;cTA;cTHA;cDHA"),
  (0xA55D, "aVAI SYLLABLE DHHA;cLA;cRA;cDA;cNDA;cSA;cSHA;cZA;cZHA;cCA;cJA;cNJA;cYA;cKA;cKAN;cNGGA"),
  (0xA56D, "aVAI SYLLABLE GA;cMA;cNA;cNYA;cOO;cOON;cHOO;cWOO;cWOON;cPOO;cBHOO;cBOO;cMBOO;cKPOO"),
  (0xA57B, "aVAI SYLLABLE MGBOO;cGBOO;cFOO;cVOO;cTOO;cTHOO;cDHOO;cDHHOO;cLOO;cROO;cDOO;cNDOO;cSOO"),
  (0xA588, "aVAI SYLLABLE SHOO;cZOO;cZHOO;cCOO;cJOO;cNJOO;cYOO;cKOO;cNGGOO;cGOO;cMOO;cNOO;cNYOO"),
  (0xA595, "aVAI SYLLABLE U;cUN;cHU;cHUN;cWU;cWUN;cPU;cBHU;cBU;cMBU;cKPU;cMGBU;cGBU;cFU;cVU;cTU"),
  (0xA5A5, "aVAI SYLLABLE THU;cDHU;cDHHU;cLU;cRU;cDU;cNDU;cSU;cSHU;cZU;cZHU;cCU;cJU;cNJU;cYU;cKU"),
  (0xA5B5, "aVAI SYLLABLE NGGU;cGU;cMU;cNU;cNYU;cO;cON;cNGON;cHO;cHON;cWO;cWON;cPO;cBHO;cBO;cMBO"),
  (0xA5C5, "aVAI SYLLABLE KPO;cMGBO;cGBO;cGBON;cFO;cVO;cTO;cTHO;cDHO;cDHHO;cLO;cRO;cDO;cNDO;cSO"),
  (0xA5D4, "aVAI SYLLABLE SHO;cZO;cZHO;cCO;cJO;cNJO;cYO;cKO;cNGGO;cGO;cMO;cNO;cNYO;cE;cEN;cNGEN"),
  (0xA5E4, "aVAI SYLLABLE HE;cHEN;cWE;cWEN;cPE;cBHE;cBE;cMBE;cKPE;cKPEN;cMGBE;cGBE;cGBEN;cFE;cVE"),
  (0xA5F3, "aVAI SYLLABLE TE;cTHE;cDHE;cDHHE;cLE;cRE;cDE;cNDE;cSE;cSHE;cZE;cZHE;cCE;cJE;cNJE;cYE"),
  (0xA603, "aVAI SYLLABLE KE;cNGGE;cNGGEN;cGE;cGEN;cME;cNE;cNYE;cNG;cLENGTHENER;bCOMMA;bFULL STOP"),
  (0xA60F, "aVAI QUESTION MARK;bSYLLABLE NDOLE FA;dKA;dSOO;bSYMBOL FEENG;cKEENG;cTING;cNII;cBANG"),
  (0xA618, "aVAI SYMBOL FAA;cTAA;cDANG;cDOONG;cKUNG;cTONG;cDO-O;cJONG;bDIGIT ZERO;cONE;cTWO"),
  (0xA623, "aVAI DIGIT THREE;cFOUR;cFIVE;cSIX;cSEVEN;cEIGHT;cNINE;bSYLLABLE NDOLE MA;dDO"),
  (0xA640, "aCYRILLIC CAPITAL LETTER ZEMLYA;bSMALL LETTER ZEMLYA;bCAPITAL LETTER DZELO"),
  (0xA643, "aCYRILLIC SMALL LETTER DZELO;bCAPITAL LETTER REVERSED DZE;bSMALL LETTER REVERSED DZE"),
  (0xA646, "aCYRILLIC CAPITAL LETTER IOTA;bSMALL LETTER IOTA;bCAPITAL LETTER DJERV"),
  (0xA649, "aCYRILLIC SMALL LETTER DJERV;bCAPITAL LETTER MONOGRAPH UK;bSMALL LETTER MONOGRAPH UK"),
  (0xA64C, "aCYRILLIC CAPITAL LETTER BROAD OMEGA;bSMALL LETTER BROAD OMEGA"),
  (0xA64E, "aCYRILLIC CAPITAL LETTER NEUTRAL YER;bSMALL LETTER NEUTRAL YER"),
  (0xA650, "aCYRILLIC CAPITAL LETTER YERU WITH BACK YER;bSMALL LETTER YERU WITH BACK YER"),
  (0xA652, "aCYRILLIC CAPITAL LETTER IOTIFIED YAT;bSMALL LETTER IOTIFIED YAT"),
  (0xA654, "aCYRILLIC CAPITAL LETTER REVERSED YU;bSMALL LETTER REVERSED YU"),
  (0xA656, "aCYRILLIC CAPITAL LETTER IOTIFIED A;bSMALL LETTER IOTIFIED A"),
  (0xA658, "aCYRILLIC CAPITAL LETTER CLOSED LITTLE YUS;bSMALL LETTER CLOSED LITTLE YUS"),
  (0xA65A, "aCYRILLIC CAPITAL LETTER BLENDED YUS;bSMALL LETTER BLENDED YUS"),
  (0xA65C, "aCYRILLIC CAPITAL LETTER IOTIFIED CLOSED LITTLE YUS"),
  (0xA65D, "aCYRILLIC SMALL LETTER IOTIFIED CLOSED LITTLE YUS;bCAPITAL LETTER YN;bSMALL LETTER YN"),
  (0xA660, "aCYRILLIC CAPITAL LETTER REVERSED TSE;bSMALL LETTER REVERSED TSE"),
  (0xA662, "aCYRILLIC CAPITAL LETTER SOFT DE;bSMALL LETTER SOFT DE;bCAPITAL LETTER SOFT EL"),
  (0xA665, "aCYRILLIC SMALL LETTER SOFT EL;bCAPITAL LETTER SOFT EM;bSMALL LETTER SOFT EM"),
  (0xA668, "aCYRILLIC CAPITAL LETTER MONOCULAR O;bSMALL LETTER MONOCULAR O"),
  (0xA66A, "aCYRILLIC CAPITAL LETTER BINOCULAR O;bSMALL LETTER BINOCULAR O"),
  (0xA66C, "aCYRILLIC CAPITAL LETTER DOUBLE MONOCULAR O;bSMALL LETTER DOUBLE MONOCULAR O"),
  (0xA66E, "aCYRILLIC LETTER MULTIOCULAR O;aCOMBINING CYRILLIC VZMET;cTEN MILLIONS SIGN"),
  (0xA671, "aCOMBINING CYRILLIC HUNDRED MILLIONS SIGN;cTHOUSAND MILLIONS SIGN;aSLAVONIC ASTERISK"),
  (0xA674, "aCOMBINING CYRILLIC LETTER UKRAINIAN IE;dI;dYI;dU;dHARD SIGN;dYERU;dSOFT SIGN;dOMEGA"),
  (0xA67C, "aCOMBINING CYRILLIC KAVYKA;cPAYEROK;aCYRILLIC KAVYKA;bPAYEROK;bCAPITAL LETTER DWE"),
  (0xA681, "aCYRILLIC SMALL LETTER DWE;bCAPITAL LETTER DZWE;bSMALL LETTER DZWE"),
  (0xA684, "aCYRILLIC CAPITAL LETTER ZHWE;bSMALL LETTER ZHWE;bCAPITAL LETTER CCHE"),
  (0xA687, "aCYRILLIC SMALL LETTER CCHE;bCAPITAL LETTER DZZE;bSMALL LETTER DZZE"),
  (0xA68A, "aCYRILLIC CAPITAL LETTER TE WITH MIDDLE HOOK;bSMALL LETTER TE WITH MIDDLE HOOK"),
  (0xA68C, "aCYRILLIC CAPITAL LETTER TWE;bSMALL LETTER TWE;bCAPITAL LETTER TSWE"),
  (0xA68F, "aCYRILLIC SMALL LETTER TSWE;bCAPITAL LETTER TSSE;bSMALL LETTER TSSE"),
  (0xA692, "aCYRILLIC CAPITAL LETTER TCHE;bSMALL LETTER TCHE;bCAPITAL LETTER HWE"),
  (0xA695, "aCYRILLIC SMALL LETTER HWE;bCAPITAL LETTER SHWE;bSMALL LETTER SHWE"),
  (0xA698, "aCYRILLIC CAPITAL LETTER DOUBLE O;bSMALL LETTER DOUBLE O;bCAPITAL LETTER CROSSED O"),
  (0xA69B, "aCYRILLIC SMALL LETTER CROSSED O;aMODIFIER LETTER CYRILLIC HARD SIGN;dSOFT SIGN"),
  (0xA69E, "aCOMBINING CYRILLIC LETTER EF;dIOTIFIED E;aBAMUM LETTER A;cKA;cU;cKU;cEE;cREE;cTAE;cO"),
  (0xA6A8, "aBAMUM LETTER NYI;cI;cLA;cPA;cRII;cRIEE;cLEEEE;cMEEEE;cTAA;cNDAA;cNJAEM;cM;cSUU;cMU"),
  (0xA6B6, "aBAMUM LETTER SHII;cSI;cSHEUX;cSEUX;cKYEE;cKET;cNUAE;cNU;cNJUAE;cYOQ;cSHU;cYUQ;cYA"),
  (0xA6C3, "aBAMUM LETTER NSHA;cKEUX;cPEUX;cNJEE;cNTEE;cPUE;cWUE;cPEE;cFEE;cRU;cLU;cMI;cNI;cREUX"),
  (0xA6D1, "aBAMUM LETTER RAE;cKEN;cNGKWAEN;cNGGA;cNGA;cSHO;cPUAE;cFU;cFOM;cWA;cNA;cLI;cPI;cLOQ"),
  (0xA6DF, "aBAMUM LETTER KO;cMBEN;cREN;cMEN;cMA;cTI;cKI;cMO;cMBAA;cTET;cKPA;cTEN;cNTUU;cSAMBA"),
  (0xA6ED, "aBAMUM LETTER FAAMAE;cKOVUU;cKOGHOM;bCOMBINING MARK KOQNDON;dTUKWENTIS;bNJAEMLI"),
  (0xA6F3, "aBAMUM FULL STOP;bCOLON;bCOMMA;bSEMICOLON;bQUESTION MARK"),
  (0xA700, "aMODIFIER LETTER CHINESE TONE YIN PING;eYANG PING;eYIN SHANG;eYANG SHANG;eYIN QU"),
  (0xA705, "aMODIFIER LETTER CHINESE TONE YANG QU;eYIN RU;eYANG RU;cEXTRA-HIGH DOTTED TONE BAR"),
  (0xA709, "aMODIFIER LETTER HIGH DOTTED TONE BAR;cMID DOTTED TONE BAR;cLOW DOTTED TONE BAR"),
  (0xA70C, "aMODIFIER LETTER EXTRA-LOW DOTTED TONE BAR;cEXTRA-HIGH DOTTED LEFT-STEM TONE BAR"),
  (0xA70E, "aMODIFIER LETTER HIGH DOTTED LEFT-STEM TONE BAR;cMID DOTTED LEFT-STEM TONE BAR"),
  (0xA710, "aMODIFIER LETTER LOW DOTTED LEFT-STEM TONE BAR;cEXTRA-LOW DOTTED LEFT-STEM TONE BAR"),
  (0xA712, "aMODIFIER LETTER EXTRA-HIGH LEFT-STEM TONE BAR;cHIGH LEFT-STEM TONE BAR"),
  (0xA714, "aMODIFIER LETTER MID LEFT-STEM TONE BAR;cLOW LEFT-STEM TONE BAR"),
  (0xA716, "aMODIFIER LETTER EXTRA-LOW LEFT-STEM TONE BAR;cDOT VERTICAL BAR;dSLASH"),
  (0xA719, "aMODIFIER LETTER DOT HORIZONTAL BAR;cLOWER RIGHT CORNER ANGLE;cRAISED UP ARROW"),
  (0xA71C, "aMODIFIER LETTER RAISED DOWN ARROW;dEXCLAMATION MARK;dINVERTED EXCLAMATION MARK"),
  (0xA71F, "aMODIFIER LETTER LOW INVERTED EXCLAMATION MARK;cSTRESS AND HIGH TONE;eLOW TONE"),
  (0xA722, "aLATIN CAPITAL LETTER EGYPTOLOGICAL ALEF;bSMALL LETTER EGYPTOLOGICAL ALEF"),
  (0xA724, "aLATIN CAPITAL LETTER EGYPTOLOGICAL AIN;bSMALL LETTER EGYPTOLOGICAL AIN"),
  (0xA726, "aLATIN CAPITAL LETTER HENG;bSMALL LETTER HENG;bCAPITAL LETTER TZ;bSMALL LETTER TZ"),
  (0xA72A, "aLATIN CAPITAL LETTER TRESILLO;bSMALL LETTER TRESILLO;bCAPITAL LETTER CUATRILLO"),
  (0xA72D, "aLATIN SMALL LETTER CUATRILLO;bCAPITAL LETTER CUATRILLO WITH COMMA"),
  (0xA72F, "aLATIN SMALL LETTER CUATRILLO WITH COMMA;bLETTER SMALL CAPITAL F;eS"),
  (0xA732, "aLATIN CAPITAL LETTER AA;bSMALL LETTER AA;bCAPITAL LETTER AO;bSMALL LETTER AO"),
  (0xA736, "aLATIN CAPITAL LETTER AU;bSMALL LETTER AU;bCAPITAL LETTER AV;bSMALL LETTER AV"),
  (0xA73A, "aLATIN CAPITAL LETTER AV WITH HORIZONTAL BAR;bSMALL LETTER AV WITH HORIZONTAL BAR"),
  (0xA73C, "aLATIN CAPITAL LETTER AY;bSMALL LETTER AY;bCAPITAL LETTER REVERSED C WITH DOT"),
  (0xA73F, "aLATIN SMALL LETTER REVERSED C WITH DOT;bCAPITAL LETTER K WITH STROKE"),
  (0xA741, "aLATIN SMALL LETTER K WITH STROKE;bCAPITAL LETTER K WITH DIAGONAL STROKE"),
  (0xA743, "aLATIN SMALL LETTER K WITH DIAGONAL STROKE"),
  (0xA744, "aLATIN CAPITAL LETTER K WITH STROKE AND DIAGONAL STROKE"),
  (0xA745, "aLATIN SMALL LETTER K WITH STROKE AND DIAGONAL STROKE;bCAPITAL LETTER BROKEN L"),
  (0xA747, "aLATIN SMALL LETTER BROKEN L;bCAPITAL LETTER L WITH HIGH STROKE"),
  (0xA749, "aLATIN SMALL LETTER L WITH HIGH STROKE;bCAPITAL LETTER O WITH LONG STROKE OVERLAY"),
  (0xA74B, "aLATIN SMALL LETTER O WITH LONG STROKE OVERLAY;bCAPITAL LETTER O WITH LOOP"),
  (0xA74D, "aLATIN SMALL LETTER O WITH LOOP;bCAPITAL LETTER OO;bSMALL LETTER OO"),
  (0xA750, "aLATIN CAPITAL LETTER P WITH STROKE THROUGH DESCENDER"),
  (0xA751, "aLATIN SMALL LETTER P WITH STROKE THROUGH DESCENDER;bCAPITAL LETTER P WITH FLOURISH"),
  (0xA753, "aLATIN SMALL LETTER P WITH FLOURISH;bCAPITAL LETTER P WITH SQUIRREL TAIL"),
  (0xA755, "aLATIN SMALL LETTER P WITH SQUIRREL TAIL"),
  (0xA756, "aLATIN CAPITAL LETTER Q WITH STROKE THROUGH DESCENDER"),
  (0xA757, "aLATIN SMALL LETTER Q WITH STROKE THROUGH DESCENDER"),
  (0xA758, "aLATIN CAPITAL LETTER Q WITH DIAGONAL STROKE;bSMALL LETTER Q WITH DIAGONAL STROKE"),
  (0xA75A, "aLATIN CAPITAL LETTER R ROTUNDA;bSMALL LETTER R ROTUNDA;bCAPITAL LETTER RUM ROTUNDA"),
  (0xA75D, "aLATIN SMALL LETTER RUM ROTUNDA;bCAPITAL LETTER V WITH DIAGONAL STROKE"),
  (0xA75F, "aLATIN SMALL LETTER V WITH DIAGONAL STROKE;bCAPITAL LETTER VY;bSMALL LETTER VY"),
  (0xA762, "aLATIN CAPITAL LETTER VISIGOTHIC Z;bSMALL LETTER VISIGOTHIC Z"),
  (0xA764, "aLATIN CAPITAL LETTER THORN WITH STROKE;bSMALL LETTER THORN WITH STROKE"),
  (0xA766, "aLATIN CAPITAL LETTER THORN WITH STROKE THROUGH DESCENDER"),
  (0xA767, "aLATIN SMALL LETTER THORN WITH STROKE THROUGH DESCENDER;bCAPITAL LETTER VEND"),
  (0xA769, "aLATIN SMALL LETTER VEND;bCAPITAL LETTER ET;bSMALL LETTER ET;bCAPITAL LETTER IS"),
  (0xA76D, "aLATIN SMALL LETTER IS;bCAPITAL LETTER CON;bSMALL LETTER CON;aMODIFIER LETTER US"),
  (0xA771, "aLATIN SMALL LETTER DUM;dLUM;dMUM;dNUM;dRUM;bLETTER SMALL CAPITAL RUM"),
  (0xA777, "aLATIN SMALL LETTER TUM;dUM;bCAPITAL LETTER INSULAR D;bSMALL LETTER INSULAR D"),
  (0xA77B, "aLATIN CAPITAL LETTER INSULAR F;bSMALL LETTER INSULAR F;bCAPITAL LETTER INSULAR G"),
  (0xA77E, "aLATIN CAPITAL LETTER TURNED INSULAR G;bSMALL LETTER TURNED INSULAR G"),
  (0xA780, "aLATIN CAPITAL LETTER TURNED L;bSMALL LETTER TURNED L;bCAPITAL LETTER INSULAR R"),
  (0xA783, "aLATIN SMALL LETTER INSULAR R;bCAPITAL LETTER INSULAR S;bSMALL LETTER INSULAR S"),
  (0xA786, "aLATIN CAPITAL LETTER INSULAR T;bSMALL LETTER INSULAR T"),
  (0xA788, "aMODIFIER LETTER LOW CIRCUMFLEX ACCENT;cCOLON;cSHORT EQUALS SIGN"),
  (0xA78B, "aLATIN CAPITAL LETTER SALTILLO;bSMALL LETTER SALTILLO;bCAPITAL LETTER TURNED H"),
  (0xA78E, "aLATIN SMALL LETTER L WITH RETROFLEX HOOK AND BELT;bLETTER SINOLOGICAL DOT"),
  (0xA790, "aLATIN CAPITAL LETTER N WITH DESCENDER;bSMALL LETTER N WITH DESCENDER"),
  (0xA792, "aLATIN CAPITAL LETTER C WITH BAR;bSMALL LETTER C WITH BAR;fPALATAL HOOK"),
  (0xA795, "aLATIN SMALL LETTER H WITH PALATAL HOOK;bCAPITAL LETTER B WITH FLOURISH"),
  (0xA797, "aLATIN SMALL LETTER B WITH FLOURISH;bCAPITAL LETTER F WITH STROKE"),
  (0xA799, "aLATIN SMALL LETTER F WITH STROKE;bCAPITAL LETTER VOLAPUK AE;bSMALL LETTER VOLAPUK AE"),
  (0xA79C, "aLATIN CAPITAL LETTER VOLAPUK OE;bSMALL LETTER VOLAPUK OE;bCAPITAL LETTER VOLAPUK UE"),
  (0xA79F, "aLATIN SMALL LETTER VOLAPUK UE;bCAPITAL LETTER G WITH OBLIQUE STROKE"),
  (0xA7A1, "aLATIN SMALL LETTER G WITH OBLIQUE STROKE;bCAPITAL LETTER K WITH OBLIQUE STROKE"),
  (0xA7A3, "aLATIN SMALL LETTER K WITH OBLIQUE STROKE;bCAPITAL LETTER N WITH OBLIQUE STROKE"),
  (0xA7A5, "aLATIN SMALL LETTER N WITH OBLIQUE STROKE;bCAPITAL LETTER R WITH OBLIQUE STROKE"),
  (0xA7A7, "aLATIN SMALL LETTER R WITH OBLIQUE STROKE;bCAPITAL LETTER S WITH OBLIQUE STROKE"),
  (0xA7A9, "aLATIN SMALL LETTER S WITH OBLIQUE STROKE;bCAPITAL LETTER H WITH HOOK"),
  (0xA7AB, "aLATIN CAPITAL LETTER REVERSED OPEN E;dSCRIPT G;dL WITH BELT;dSMALL CAPITAL I"),
  (0xA7AF, "aLATIN LETTER SMALL CAPITAL Q;bCAPITAL LETTER TURNED K;eT;dJ WITH CROSSED-TAIL;dCHI"),
  (0xA7B4, "aLATIN CAPITAL LETTER BETA;bSMALL LETTER BETA;bCAPITAL LETTER OMEGA"),
  (0xA7B7, "aLATIN SMALL LETTER OMEGA;bCAPITAL LETTER U WITH STROKE;bSMALL LETTER U WITH STROKE"),
  (0xA7BA, "aLATIN CAPITAL LETTER GLOTTAL A;bSMALL LETTER GLOTTAL A;bCAPITAL LETTER GLOTTAL I"),
  (0xA7BD, "aLATIN SMALL LETTER GLOTTAL I;bCAPITAL LETTER GLOTTAL U;bSMALL LETTER GLOTTAL U"),
  (0xA7C0, "aLATIN CAPITAL LETTER OLD POLISH O;bSMALL LETTER OLD POLISH O"),
  (0xA7C2, "aLATIN CAPITAL LETTER ANGLICANA W;bSMALL LETTER ANGLICANA W"),
  (0xA7C4, "aLATIN CAPITAL LETTER C WITH PALATAL HOOK;dS WITH HOOK;dZ WITH PALATAL HOOK"),
  (0xA7C7, "aLATIN CAPITAL LETTER D WITH SHORT STROKE OVERLAY"),
  (0xA7C8, "aLATIN SMALL LETTER D WITH SHORT STROKE OVERLAY"),
  (0xA7C9, "aLATIN CAPITAL LETTER S WITH SHORT STROKE OVERLAY"),
  (0xA7CA, "aLATIN SMALL LETTER S WITH SHORT STROKE OVERLAY"),
  (0xA7D0, "aLATIN CAPITAL LETTER CLOSED INSULAR G;bSMALL LETTER CLOSED INSULAR G"),
  (0xA7D3, "aLATIN SMALL LETTER DOUBLE THORN"),
  (0xA7D5, "aLATIN SMALL LETTER DOUBLE WYNN;bCAPITAL LETTER MIDDLE SCOTS S"),
  (0xA7D7, "aLATIN SMALL LETTER MIDDLE SCOTS S;bCAPITAL LETTER SIGMOID S;bSMALL LETTER SIGMOID S"),
  (0xA7F2, "aMODIFIER LETTER CAPITAL C;dF;dQ;aLATIN CAPITAL LETTER REVERSED HALF H"),
  (0xA7F6, "aLATIN SMALL LETTER REVERSED HALF H;bEPIGRAPHIC LETTER SIDEWAYS I"),
  (0xA7F8, "aMODIFIER LETTER CAPITAL H WITH STROKE;cSMALL LIGATURE OE"),
  (0xA7FA, "aLATIN LETTER SMALL CAPITAL TURNED M;bEPIGRAPHIC LETTER REVERSED F;eP;dINVERTED M"),
  (0xA7FE, "aLATIN EPIGRAPHIC LETTER I LONGA;dARCHAIC M;aSYLOTI NAGRI LETTER A;dI;cSIGN DVISVARA"),
  (0xA803, "aSYLOTI NAGRI LETTER U;dE;dO;cSIGN HASANTA;cLETTER KO;dKHO;dGO;dGHO;cSIGN ANUSVARA"),
  (0xA80C, "aSYLOTI NAGRI LETTER CO;dCHO;dJO;dJHO;dTTO;dTTHO;dDDO;dDDHO;dTO;dTHO;dDO;dDHO;dNO;dPO"),
  (0xA81A, "aSYLOTI NAGRI LETTER PHO;dBO;dBHO;dMO;dRO;dLO;dRRO;dSO;dHO;cVOWEL SIGN A;eI;eU;eE;eOO"),
  (0xA828, "aSYLOTI NAGRI POETRY MARK-1;dMARK-2;dMARK-3;dMARK-4;cSIGN ALTERNATE HASANTA"),
  (0xA830, "aNORTH INDIC FRACTION ONE QUARTER;eHALF;dTHREE QUARTERS;dONE SIXTEENTH;eEIGHTH"),
  (0xA835, "aNORTH INDIC FRACTION THREE SIXTEENTHS;cQUARTER MARK;cPLACEHOLDER MARK;cRUPEE MARK"),
  (0xA839, "aNORTH INDIC QUANTITY MARK"),
  (0xA840, "aPHAGS-PA LETTER KA;cKHA;cGA;cNGA;cCA;cCHA;cJA;cNYA;cTA;cTHA;cDA;cNA;cPA;cPHA;cBA;cMA"),
  (0xA850, "aPHAGS-PA LETTER TSA;cTSHA;cDZA;cWA;cZHA;cZA;cSMALL A;cYA;cRA;cLA;cSHA;cSA;cHA;cA;cI"),
  (0xA85F, "aPHAGS-PA LETTER U;cE;cO;cQA;cXA;cFA;cGGA;cEE;bSUBJOINED LETTER WA;dYA;bLETTER TTA"),
  (0xA86A, "aPHAGS-PA LETTER TTHA;cDDA;cNNA;cALTERNATE YA;cVOICELESS SHA;cVOICED HA;cASPIRATED FA"),
  (0xA871, "aPHAGS-PA SUBJOINED LETTER RA;bSUPERFIXED LETTER RA;bLETTER CANDRABINDU"),
  (0xA874, "aPHAGS-PA SINGLE HEAD MARK;bDOUBLE HEAD MARK;bMARK SHAD;cDOUBLE SHAD"),
  (0xA880, "aSAURASHTRA SIGN ANUSVARA;cVISARGA;bLETTER A;cAA;cI;cII;cU;cUU;cVOCALIC R;dRR;dL;dLL"),
  (0xA88C, "aSAURASHTRA LETTER E;cEE;cAI;cO;cOO;cAU;cKA;cKHA;cGA;cGHA;cNGA;cCA;cCHA;cJA;cJHA;cNYA"),
  (0xA89C, "aSAURASHTRA LETTER TTA;cTTHA;cDDA;cDDHA;cNNA;cTA;cTHA;cDA;cDHA;cNA;cPA;cPHA;cBA;cBHA"),
  (0xA8AA, "aSAURASHTRA LETTER MA;cYA;cRA;cLA;cVA;cSHA;cSSA;cSA;cHA;cLLA;bCONSONANT SIGN HAARU"),
  (0xA8B5, "aSAURASHTRA VOWEL SIGN AA;dI;dII;dU;dUU;dVOCALIC R;eRR;eL;eLL;dE;dEE;dAI;dO;dOO;dAU"),
  (0xA8C4, "aSAURASHTRA SIGN VIRAMA;cCANDRABINDU"),
  (0xA8CE, "aSAURASHTRA DANDA;bDOUBLE DANDA;bDIGIT ZERO;cONE;cTWO;cTHREE;cFOUR;cFIVE;cSIX;cSEVEN"),
  (0xA8D8, "aSAURASHTRA DIGIT EIGHT;cNINE"),
  (0xA8E0, "aCOMBINING DEVANAGARI DIGIT ZERO;dONE;dTWO;dTHREE;dFOUR;dFIVE;dSIX;dSEVEN;dEIGHT"),
  (0xA8E9, "aCOMBINING DEVANAGARI DIGIT NINE;cLETTER A;dU;dKA;dNA;dPA;dRA;dVI;cSIGN AVAGRAHA"),
  (0xA8F2, "aDEVANAGARI SIGN SPACING CANDRABINDU;cCANDRABINDU VIRAMA;cDOUBLE CANDRABINDU VIRAMA"),
  (0xA8F5, "aDEVANAGARI SIGN CANDRABINDU TWO;dTHREE;dAVAGRAHA;cPUSHPIKA;bGAP FILLER;bCARET"),
  (0xA8FB, "aDEVANAGARI HEADSTROKE;bSIGN SIDDHAM;bJAIN OM;bLETTER AY;bVOWEL SIGN AY"),
  (0xA900, "aKAYAH LI DIGIT ZERO;dONE;dTWO;dTHREE;dFOUR;dFIVE;dSIX;dSEVEN;dEIGHT;dNINE;cLETTER KA"),
  (0xA90B, "aKAYAH LI LETTER KHA;dGA;dNGA;dSA;dSHA;dZA;dNYA;dTA;dHTA;dNA;dPA;dPHA;dMA;dDA;dBA;dRA"),
  (0xA91B, "aKAYAH LI LETTER YA;dLA;dWA;dTHA;dHA;dVA;dCA;dA;dOE;dI;dOO;cVOWEL UE;dE;dU;dEE;dO"),
  (0xA92B, "aKAYAH LI TONE PLOPHU;dCALYA;ePLOPHU;cSIGN CWI;dSHYA;aREJANG LETTER KA;cGA;cNGA;cTA"),
  (0xA934, "aREJANG LETTER DA;cNA;cPA;cBA;cMA;cCA;cJA;cNYA;cSA;cRA;cLA;cYA;cWA;cHA;cMBA;cNGGA"),
  (0xA944, "aREJANG LETTER NDA;cNYJA;cA;bVOWEL SIGN I;dU;dE;dAI;dO;dAU;dEU;dEA;bCONSONANT SIGN NG"),
  (0xA950, "aREJANG CONSONANT SIGN N;dR;dH;bVIRAMA"),
  (0xA95F, "aREJANG SECTION MARK;aHANGUL CHOSEONG TIKEUT-MIEUM;cTIKEUT-PIEUP;cTIKEUT-SIOS"),
  (0xA963, "aHANGUL CHOSEONG TIKEUT-CIEUC;cRIEUL-KIYEOK;cRIEUL-SSANGKIYEOK;cRIEUL-TIKEUT"),
  (0xA967, "aHANGUL CHOSEONG RIEUL-SSANGTIKEUT;cRIEUL-MIEUM;cRIEUL-PIEUP;cRIEUL-SSANGPIEUP"),
  (0xA96B, "aHANGUL CHOSEONG RIEUL-KAPYEOUNPIEUP;cRIEUL-SIOS;cRIEUL-CIEUC;cRIEUL-KHIEUKH"),
  (0xA96F, "aHANGUL CHOSEONG MIEUM-KIYEOK;cMIEUM-TIKEUT;cMIEUM-SIOS;cPIEUP-SIOS-THIEUTH"),
  (0xA973, "aHANGUL CHOSEONG PIEUP-KHIEUKH;cPIEUP-HIEUH;cSSANGSIOS-PIEUP;cIEUNG-RIEUL"),
  (0xA977, "aHANGUL CHOSEONG IEUNG-HIEUH;cSSANGCIEUC-HIEUH;cSSANGTHIEUTH;cPHIEUPH-HIEUH"),
  (0xA97B, "aHANGUL CHOSEONG HIEUH-SIOS;cSSANGYEORINHIEUH"),
  (0xA980, "aJAVANESE SIGN PANYANGGA;cCECAK;cLAYAR;cWIGNYAN;bLETTER A;cI KAWI;d;cII;cU;cPA CEREK"),
  (0xA98A, "aJAVANESE LETTER NGA LELET;eRASWADI;cE;cAI;cO;cKA;dSASAK;dMURDA;cGA;dMURDA;cNGA;cCA"),
  (0xA996, "aJAVANESE LETTER CA MURDA;cJA;cNYA MURDA;cJA MAHAPRANA;cNYA;cTTA;dMAHAPRANA;cDDA"),
  (0xA99E, "aJAVANESE LETTER DDA MAHAPRANA;cNA MURDA;cTA;dMURDA;cDA;dMAHAPRANA;cNA;cPA;dMURDA;cBA"),
  (0xA9A8, "aJAVANESE LETTER BA MURDA;cMA;cYA;cRA;dAGUNG;cLA;cWA;cSA MURDA;dMAHAPRANA;d;cHA"),
  (0xA9B3, "aJAVANESE SIGN CECAK TELU;bVOWEL SIGN TARUNG;dTOLONG;dWULU;eMELIK;dSUKU;eMENDUT"),
  (0xA9BA, "aJAVANESE VOWEL SIGN TALING;dDIRGA MURE;dPEPET;bCONSONANT SIGN KERET;dPENGKAL;dCAKRA"),
  (0xA9C0, "aJAVANESE PANGKON;bLEFT RERENGGAN;bRIGHT RERENGGAN;bPADA ANDAP;cMADYA;cLUHUR;cWINDU"),
  (0xA9C7, "aJAVANESE PADA PANGKAT;cLINGSA;cLUNGSI;cADEG;dADEG;cPISELEH;bTURNED PADA PISELEH"),
  (0xA9CF, "aJAVANESE PANGRANGKEP;bDIGIT ZERO;cONE;cTWO;cTHREE;cFOUR;cFIVE;cSIX;cSEVEN;cEIGHT"),
  (0xA9D9, "aJAVANESE DIGIT NINE"),
  (0xA9DE, "aJAVANESE PADA TIRTA TUMETES;cISEN-ISEN;aMYANMAR LETTER SHAN GHA;dCHA;dJHA;dNNA;dBHA"),
  (0xA9E5, "aMYANMAR SIGN SHAN SAW;bMODIFIER LETTER SHAN REDUPLICATION;bLETTER TAI LAING NYA;eFA"),
  (0xA9E9, "aMYANMAR LETTER TAI LAING GA;eGHA;eJA;eJHA;eDDA;eDDHA;eNNA;bTAI LAING DIGIT ZERO;eONE"),
  (0xA9F2, "aMYANMAR TAI LAING DIGIT TWO;eTHREE;eFOUR;eFIVE;eSIX;eSEVEN;eEIGHT;eNINE"),
  (0xA9FA, "aMYANMAR LETTER TAI LAING LLA;eDA;eDHA;eBA;eBHA"),
  (0xAA00, "aCHAM LETTER A;cI;cU;cE;cAI;cO;cKA;cKHA;cGA;cGHA;cNGUE;cNGA;cCHA;cCHHA;cJA;cJHA;cNHUE"),
  (0xAA11, "aCHAM LETTER NHA;cNHJA;cTA;cTHA;cDA;cDHA;cNUE;cNA;cDDA;cPA;cPPA;cPHA;cBA;cBHA;cMUE"),
  (0xAA20, "aCHAM LETTER MA;cBBA;cYA;cRA;cLA;cVA;cSSA;cSA;cHA;bVOWEL SIGN AA;dI;dII;dEI;dU;dOE;dO"),
  (0xAA30, "aCHAM VOWEL SIGN AI;dAU;dUE;bCONSONANT SIGN YA;dRA;dLA;dWA"),
  (0xAA40, "aCHAM LETTER FINAL K;dG;dNG;bCONSONANT SIGN FINAL NG;bLETTER FINAL CH;dT;dN;dP;dY;dR")]

/-- The lines of names from U+AA4A on. -/
def namesFromAA4A : List (Nat × String) := [
  (0xAA4A, "aCHAM LETTER FINAL L;dSS;bCONSONANT SIGN FINAL M;eH"),
  (0xAA50, "aCHAM DIGIT ZERO;cONE;cTWO;cTHREE;cFOUR;cFIVE;cSIX;cSEVEN;cEIGHT;cNINE"),
  (0xAA5C, "aCHAM PUNCTUATION SPIRAL;cDANDA;cDOUBLE DANDA;cTRIPLE DANDA;aMYANMAR LETTER KHAMTI GA"),
  (0xAA61, "aMYANMAR LETTER KHAMTI CA;dCHA;dJA;dJHA;dNYA;dTTA;dTTHA;dDDA;dDDHA;dDHA;dNA;dSA;dHA"),
  (0xAA6E, "aMYANMAR LETTER KHAMTI HHA;dFA;bMODIFIER LETTER KHAMTI REDUPLICATION"),
  (0xAA71, "aMYANMAR LETTER KHAMTI XA;dZA;dRA;bLOGOGRAM KHAMTI OAY;dQN;dHM"),
  (0xAA77, "aMYANMAR SYMBOL AITON EXCLAMATION;dONE;dTWO;bLETTER AITON RA;bSIGN PAO KAREN TONE"),
  (0xAA7C, "aMYANMAR SIGN TAI LAING TONE-2;eTONE-5;bLETTER SHWE PALAUNG CHA;eSHA"),
  (0xAA80, "aTAI VIET LETTER LOW KO;dHIGH KO;dLOW KHO;dHIGH KHO;dLOW KHHO;dHIGH KHHO;dLOW GO"),
  (0xAA87, "aTAI VIET LETTER HIGH GO;dLOW NGO;dHIGH NGO;dLOW CO;dHIGH CO;dLOW CHO;dHIGH CHO"),
  (0xAA8E, "aTAI VIET LETTER LOW SO;dHIGH SO;dLOW NYO;dHIGH NYO;dLOW DO;dHIGH DO;dLOW TO;dHIGH TO"),
  (0xAA96, "aTAI VIET LETTER LOW THO;dHIGH THO;dLOW NO;dHIGH NO;dLOW BO;dHIGH BO;dLOW PO;dHIGH PO"),
  (0xAA9E, "aTAI VIET LETTER LOW PHO;dHIGH PHO;dLOW FO;dHIGH FO;dLOW MO;dHIGH MO;dLOW YO;dHIGH YO"),
  (0xAAA6, "aTAI VIET LETTER LOW RO;dHIGH RO;dLOW LO;dHIGH LO;dLOW VO;dHIGH VO;dLOW HO;dHIGH HO"),
  (0xAAAE, "aTAI VIET LETTER LOW O;dHIGH O;cMAI KANG;cVOWEL AA;dI;dUE;dU;dE;dO;cMAI KHIT"),
  (0xAAB8, "aTAI VIET VOWEL IA;dUEA;dUA;dAUE;dAY;dAN;dAM;cTONE MAI EK;eNUENG;eTHO;eSONG"),
  (0xAADB, "aTAI VIET SYMBOL KON;dNUENG;dSAM;dHO HOI;dKOI KOI;aMEETEI MAYEK LETTER E;dO;dCHA;dNYA"),
  (0xAAE4, "aMEETEI MAYEK LETTER TTA;dTTHA;dDDA;dDDHA;dNNA;dSHA;dSSA;cVOWEL SIGN II;eUU;eAAI;eAU"),
  (0xAAEF, "aMEETEI MAYEK VOWEL SIGN AAU;cCHEIKHAN;cAHANG KHUDAM;cANJI;cSYLLABLE REPETITION MARK"),
  (0xAAF4, "aMEETEI MAYEK WORD REPETITION MARK;cVOWEL SIGN VISARGA;cVIRAMA"),
  (0xAB01, "aETHIOPIC SYLLABLE TTHU;cTTHI;cTTHAA;cTTHEE;cTTHE;cTTHO"),
  (0xAB09, "aETHIOPIC SYLLABLE DDHU;cDDHI;cDDHAA;cDDHEE;cDDHE;cDDHO"),
  (0xAB11, "aETHIOPIC SYLLABLE DZU;cDZI;cDZAA;cDZEE;cDZE;cDZO"),
  (0xAB20, "aETHIOPIC SYLLABLE CCHHA;cCCHHU;cCCHHI;cCCHHAA;cCCHHEE;cCCHHE;cCCHHO"),
  (0xAB28, "aETHIOPIC SYLLABLE BBA;cBBU;cBBI;cBBAA;cBBEE;cBBE;cBBO"),
  (0xAB30, "aLATIN SMALL LETTER BARRED ALPHA;dA REVERSED-SCHWA;dBLACKLETTER E;dBARRED E"),
  (0xAB34, "aLATIN SMALL LETTER E WITH FLOURISH;dLENIS F;dSCRIPT G WITH CROSSED-TAIL"),
  (0xAB37, "aLATIN SMALL LETTER L WITH INVERTED LAZY S;fDOUBLE MIDDLE TILDE;fMIDDLE RING"),
  (0xAB3A, "aLATIN SMALL LETTER M WITH CROSSED-TAIL;dN WITH CROSSED-TAIL;dENG WITH CROSSED-TAIL"),
  (0xAB3D, "aLATIN SMALL LETTER BLACKLETTER O;fWITH STROKE;dOPEN O WITH STROKE;dINVERTED OE"),
  (0xAB41, "aLATIN SMALL LETTER TURNED OE WITH STROKE;gHORIZONTAL STROKE;eO OPEN-O;gWITH STROKE"),
  (0xAB45, "aLATIN SMALL LETTER STIRRUP R;bLETTER SMALL CAPITAL R WITH RIGHT LEG"),
  (0xAB47, "aLATIN SMALL LETTER R WITHOUT HANDLE;dDOUBLE R;dR WITH CROSSED-TAIL"),
  (0xAB4A, "aLATIN SMALL LETTER DOUBLE R WITH CROSSED-TAIL;dSCRIPT R;fWITH RING;dBASELINE ESH"),
  (0xAB4E, "aLATIN SMALL LETTER U WITH SHORT RIGHT LEG;eBAR WITH SHORT RIGHT LEG;dUI;dTURNED UI"),
  (0xAB52, "aLATIN SMALL LETTER U WITH LEFT HOOK;dCHI;eWITH LOW RIGHT RING;gLEFT SERIF"),
  (0xAB56, "aLATIN SMALL LETTER X WITH LOW RIGHT RING;fLONG LEFT LEG;iAND LOW RIGHT RING"),
  (0xAB59, "aLATIN SMALL LETTER X WITH LONG LEFT LEG WITH SERIF;dY WITH SHORT RIGHT LEG"),
  (0xAB5B, "aMODIFIER BREVE WITH INVERTED BREVE;bLETTER SMALL HENG;dL WITH INVERTED LAZY S"),
  (0xAB5E, "aMODIFIER LETTER SMALL L WITH MIDDLE TILDE;dU WITH LEFT HOOK"),
  (0xAB60, "aLATIN SMALL LETTER SAKHA YAT;dIOTIFIED E;dOPEN OE;dUO;dINVERTED ALPHA"),
  (0xAB65, "aGREEK LETTER SMALL CAPITAL OMEGA;aLATIN SMALL LETTER DZ DIGRAPH WITH RETROFLEX HOOK"),
  (0xAB67, "aLATIN SMALL LETTER TS DIGRAPH WITH RETROFLEX HOOK;dTURNED R WITH MIDDLE TILDE"),
  (0xAB69, "aMODIFIER LETTER SMALL TURNED W;cLEFT TACK;cRIGHT TACK"),
  (0xAB70, "aCHEROKEE SMALL LETTER A;dE;dI;dO;dU;dV;dGA;dKA;dGE;dGI;dGO;dGU;dGV;dHA;dHE;dHI;dHO"),
  (0xAB81, "aCHEROKEE SMALL LETTER HU;dHV;dLA;dLE;dLI;dLO;dLU;dLV;dMA;dME;dMI;dMO;dMU;dNA;dHNA"),
  (0xAB90, "aCHEROKEE SMALL LETTER NAH;dNE;dNI;dNO;dNU;dNV;dQUA;dQUE;dQUI;dQUO;dQUU;dQUV;dSA;dS"),
  (0xAB9E, "aCHEROKEE SMALL LETTER SE;dSI;dSO;dSU;dSV;dDA;dTA;dDE;dTE;dDI;dTI;dDO;dDU;dDV;dDLA"),
  (0xABAD, "aCHEROKEE SMALL LETTER TLA;dTLE;dTLI;dTLO;dTLU;dTLV;dTSA;dTSE;dTSI;dTSO;dTSU;dTSV;dWA"),
  (0xABBA, "aCHEROKEE SMALL LETTER WE;dWI;dWO;dWU;dWV;dYA;aMEETEI MAYEK LETTER KOK;dSAM;dLAI;dMIT"),
  (0xABC4, "aMEETEI MAYEK LETTER PA;dNA;dCHIL;dTIL;dKHOU;dNGOU;dTHOU;dWAI;dYANG;dHUK;dUN;dI;dPHAM"),
  (0xABD1, "aMEETEI MAYEK LETTER ATIYA;dGOK;dJHAM;dRAI;dBA;dJIL;dDIL;dGHOU;dDHOU;dBHAM"),
  (0xABDB, "aMEETEI MAYEK LETTER KOK LONSUM;dLAI LONSUM;dMIT LONSUM;dPA LONSUM;dNA LONSUM"),
  (0xABE0, "aMEETEI MAYEK LETTER TIL LONSUM;dNGOU LONSUM;dI LONSUM;cVOWEL SIGN ONAP;eINAP;eANAP"),
  (0xABE6, "aMEETEI MAYEK VOWEL SIGN YENAP;eSOUNAP;eUNAP;eCHEINAP;eNUNG;cCHEIKHEI;cLUM IYEK"),
  (0xABED, "aMEETEI MAYEK APUN IYEK"),
  (0xABF0, "aMEETEI MAYEK DIGIT ZERO;dONE;dTWO;dTHREE;dFOUR;dFIVE;dSIX;dSEVEN;dEIGHT;dNINE"),
  (0xD7B0, "aHANGUL JUNGSEONG O-YEO;cO-O-I;cYO-A;cYO-AE;cYO-EO;cU-YEO;cU-I-I;cYU-AE;cYU-O;cEU-A"),
  (0xD7BA, "aHANGUL JUNGSEONG EU-EO;cEU-E;cEU-O;cI-YA-O;cI-YAE;cI-YEO;cI-YE;cI-O-I;cI-YO;cI-YU"),
  (0xD7C4, "aHANGUL JUNGSEONG I-I;cARAEA-A;cARAEA-E"),
  (0xD7CB, "aHANGUL JONGSEONG NIEUN-RIEUL;cNIEUN-CHIEUCH;cSSANGTIKEUT;cSSANGTIKEUT-PIEUP"),
  (0xD7CF, "aHANGUL JONGSEONG TIKEUT-PIEUP;cTIKEUT-SIOS;cTIKEUT-SIOS-KIYEOK;cTIKEUT-CIEUC"),
  (0xD7D3, "aHANGUL JONGSEONG TIKEUT-CHIEUCH;cTIKEUT-THIEUTH;cRIEUL-SSANGKIYEOK"),
  (0xD7D6, "aHANGUL JONGSEONG RIEUL-KIYEOK-HIEUH;cSSANGRIEUL-KHIEUKH;cRIEUL-MIEUM-HIEUH"),
  (0xD7D9, "aHANGUL JONGSEONG RIEUL-PIEUP-TIKEUT;cRIEUL-PIEUP-PHIEUPH;cRIEUL-YESIEUNG"),
  (0xD7DC, "aHANGUL JONGSEONG RIEUL-YEORINHIEUH-HIEUH;cKAPYEOUNRIEUL;cMIEUM-NIEUN"),
  (0xD7DF, "aHANGUL JONGSEONG MIEUM-SSANGNIEUN;cSSANGMIEUM;cMIEUM-PIEUP-SIOS;cMIEUM-CIEUC"),
  (0xD7E3, "aHANGUL JONGSEONG PIEUP-TIKEUT;cPIEUP-RIEUL-PHIEUPH;cPIEUP-MIEUM;cSSANGPIEUP"),
  (0xD7E7, "aHANGUL JONGSEONG PIEUP-SIOS-TIKEUT;cPIEUP-CIEUC;cPIEUP-CHIEUCH;cSIOS-MIEUM"),
  (0xD7EB, "aHANGUL JONGSEONG SIOS-KAPYEOUNPIEUP;cSSANGSIOS-KIYEOK;cSSANGSIOS-TIKEUT"),
  (0xD7EE, "aHANGUL JONGSEONG SIOS-PANSIOS;cSIOS-CIEUC;cSIOS-CHIEUCH;cSIOS-THIEUTH;cSIOS-HIEUH"),
  (0xD7F3, "aHANGUL JONGSEONG PANSIOS-PIEUP;cPANSIOS-KAPYEOUNPIEUP;cYESIEUNG-MIEUM"),
  (0xD7F6, "aHANGUL JONGSEONG YESIEUNG-HIEUH;cCIEUC-PIEUP;cCIEUC-SSANGPIEUP;cSSANGCIEUC"),
  (0xD7FA, "aHANGUL JONGSEONG PHIEUPH-SIOS;cPHIEUPH-THIEUTH"),
  (0xF900, "aCJK COMPATIBILITY IDEOGRAPH-F900;cIDEOGRAPH-F901;cIDEOGRAPH-F902;cIDEOGRAPH-F903"),
  (0xF904, "aCJK COMPATIBILITY IDEOGRAPH-F904;cIDEOGRAPH-F905;cIDEOGRAPH-F906;cIDEOGRAPH-F907"),
  (0xF908, "aCJK COMPATIBILITY IDEOGRAPH-F908;cIDEOGRAPH-F909;cIDEOGRAPH-F90A;cIDEOGRAPH-F90B"),
  (0xF90C, "aCJK COMPATIBILITY IDEOGRAPH-F90C;cIDEOGRAPH-F90D;cIDEOGRAPH-F90E;cIDEOGRAPH-F90F"),
  (0xF910, "aCJK COMPATIBILITY IDEOGRAPH-F910;cIDEOGRAPH-F911;cIDEOGRAPH-F912;cIDEOGRAPH-F913"),
  (0xF914, "aCJK COMPATIBILITY IDEOGRAPH-F914;cIDEOGRAPH-F915;cIDEOGRAPH-F916;cIDEOGRAPH-F917"),
  (0xF918, "aCJK COMPATIBILITY IDEOGRAPH-F918;cIDEOGRAPH-F919;cIDEOGRAPH-F91A;cIDEOGRAPH-F91B"),
  (0xF91C, "aCJK COMPATIBILITY IDEOGRAPH-F91C;cIDEOGRAPH-F91D;cIDEOGRAPH-F91E;cIDEOGRAPH-F91F"),
  (0xF920, "aCJK COMPATIBILITY IDEOGRAPH-F920;cIDEOGRAPH-F921;cIDEOGRAPH-F922;cIDEOGRAPH-F923"),
  (0xF924, "aCJK COMPATIBILITY IDEOGRAPH-F924;cIDEOGRAPH-F925;cIDEOGRAPH-F926;cIDEOGRAPH-F927"),
  (0xF928, "aCJK COMPATIBILITY IDEOGRAPH-F928;cIDEOGRAPH-F929;cIDEOGRAPH-F92A;cIDEOGRAPH-F92B"),
  (0xF92C, "aCJK COMPATIBILITY IDEOGRAPH-F92C;cIDEOGRAPH-F92D;cIDEOGRAPH-F92E;cIDEOGRAPH-F92F"),
  (0xF930, "aCJK COMPATIBILITY IDEOGRAPH-F930;cIDEOGRAPH-F931;cIDEOGRAPH-F932;cIDEOGRAPH-F933"),
  (0xF934, "aCJK COMPATIBILITY IDEOGRAPH-F934;cIDEOGRAPH-F935;cIDEOGRAPH-F936;cIDEOGRAPH-F937"),
  (0xF938, "aCJK COMPATIBILITY IDEOGRAPH-F938;cIDEOGRAPH-F939;cIDEOGRAPH-F93A;cIDEOGRAPH-F93B"),
  (0xF93C, "aCJK COMPATIBILITY IDEOGRAPH-F93C;cIDEOGRAPH-F93D;cIDEOGRAPH-F93E;cIDEOGRAPH-F93F"),
  (0xF940, "aCJK COMPATIBILITY IDEOGRAPH-F940;cIDEOGRAPH-F941;cIDEOGRAPH-F942;cIDEOGRAPH-F943"),
  (0xF944, "aCJK COMPATIBILITY IDEOGRAPH-F944;cIDEOGRAPH-F945;cIDEOGRAPH-F946;cIDEOGRAPH-F947"),
  (0xF948, "aCJK COMPATIBILITY IDEOGRAPH-F948;cIDEOGRAPH-F949;cIDEOGRAPH-F94A;cIDEOGRAPH-F94B"),
  (0xF94C, "aCJK COMPATIBILITY IDEOGRAPH-F94C;cIDEOGRAPH-F94D;cIDEOGRAPH-F94E;cIDEOGRAPH-F94F"),
  (0xF950, "aCJK COMPATIBILITY IDEOGRAPH-F950;cIDEOGRAPH-F951;cIDEOGRAPH-F952;cIDEOGRAPH-F953"),
  (0xF954, "aCJK COMPATIBILITY IDEOGRAPH-F954;cIDEOGRAPH-F955;cIDEOGRAPH-F956;cIDEOGRAPH-F957"),
  (0xF958, "aCJK COMPATIBILITY IDEOGRAPH-F958;cIDEOGRAPH-F959;cIDEOGRAPH-F95A;cIDEOGRAPH-F95B"),
  (0xF95C, "aCJK COMPATIBILITY IDEOGRAPH-F95C;cIDEOGRAPH-F95D;cIDEOGRAPH-F95E;cIDEOGRAPH-F95F"),
  (0xF960, "aCJK COMPATIBILITY IDEOGRAPH-F960;cIDEOGRAPH-F961;cIDEOGRAPH-F962;cIDEOGRAPH-F963"),
  (0xF964, "aCJK COMPATIBILITY IDEOGRAPH-F964;cIDEOGRAPH-F965;cIDEOGRAPH-F966;cIDEOGRAPH-F967"),
  (0xF968, "aCJK COMPATIBILITY IDEOGRAPH-F968;cIDEOGRAPH-F969;cIDEOGRAPH-F96A;cIDEOGRAPH-F96B"),
  (0xF96C, "aCJK COMPATIBILITY IDEOGRAPH-F96C;cIDEOGRAPH-F96D;cIDEOGRAPH-F96E;cIDEOGRAPH-F96F"),
  (0xF970, "aCJK COMPATIBILITY IDEOGRAPH-F970;cIDEOGRAPH-F971;cIDEOGRAPH-F972;cIDEOGRAPH-F973"),
  (0xF974, "aCJK COMPATIBILITY IDEOGRAPH-F974;cIDEOGRAPH-F975;cIDEOGRAPH-F976;cIDEOGRAPH-F977"),
  (0xF978, "aCJK COMPATIBILITY IDEOGRAPH-F978;cIDEOGRAPH-F979;cIDEOGRAPH-F97A;cIDEOGRAPH-F97B"),
  (0xF97C, "aCJK COMPATIBILITY IDEOGRAPH-F97C;cIDEOGRAPH-F97D;cIDEOGRAPH-F97E;cIDEOGRAPH-F97F"),
  (0xF980, "aCJK COMPATIBILITY IDEOGRAPH-F980;cIDEOGRAPH-F981;cIDEOGRAPH-F982;cIDEOGRAPH-F983"),
  (0xF984, "aCJK COMPATIBILITY IDEOGRAPH-F984;cIDEOGRAPH-F985;cIDEOGRAPH-F986;cIDEOGRAPH-F987"),
  (0xF988, "aCJK COMPATIBILITY IDEOGRAPH-F988;cIDEOGRAPH-F989;cIDEOGRAPH-F98A;cIDEOGRAPH-F98B"),
  (0xF98C, "aCJK COMPATIBILITY IDEOGRAPH-F98C;cIDEOGRAPH-F98D;cIDEOGRAPH-F98E;cIDEOGRAPH-F98F"),
  (0xF990, "aCJK COMPATIBILITY IDEOGRAPH-F990;cIDEOGRAPH-F991;cIDEOGRAPH-F992;cIDEOGRAPH-F993"),
  (0xF994, "aCJK COMPATIBILITY IDEOGRAPH-F994;cIDEOGRAPH-F995;cIDEOGRAPH-F996;cIDEOGRAPH-F997"),
  (0xF998, "aCJK COMPATIBILITY IDEOGRAPH-F998;cIDEOGRAPH-F999;cIDEOGRAPH-F99A;cIDEOGRAPH-F99B"),
  (0xF99C, "aCJK COMPATIBILITY IDEOGRAPH-F99C;cIDEOGRAPH-F99D;cIDEOGRAPH-F99E;cIDEOGRAPH-F99F"),
  (0xF9A0, "aCJK COMPATIBILITY IDEOGRAPH-F9A0;cIDEOGRAPH-F9A1;cIDEOGRAPH-F9A2;cIDEOGRAPH-F9A3"),
  (0xF9A4, "aCJK COMPATIBILITY IDEOGRAPH-F9A4;cIDEOGRAPH-F9A5;cIDEOGRAPH-F9A6;cIDEOGRAPH-F9A7"),
  (0xF9A8, "aCJK COMPATIBILITY IDEOGRAPH-F9A8;cIDEOGRAPH-F9A9;cIDEOGRAPH-F9AA;cIDEOGRAPH-F9AB"),
  (0xF9AC, "aCJK COMPATIBILITY IDEOGRAPH-F9AC;cIDEOGRAPH-F9AD;cIDEOGRAPH-F9AE;cIDEOGRAPH-F9AF"),
  (0xF9B0, "aCJK COMPATIBILITY IDEOGRAPH-F9B0;cIDEOGRAPH-F9B1;cIDEOGRAPH-F9B2;cIDEOGRAPH-F9B3"),
  (0xF9B4, "aCJK COMPATIBILITY IDEOGRAPH-F9B4;cIDEOGRAPH-F9B5;cIDEOGRAPH-F9B6;cIDEOGRAPH-F9B7"),
  (0xF9B8, "aCJK COMPATIBILITY IDEOGRAPH-F9B8;cIDEOGRAPH-F9B9;cIDEOGRAPH-F9BA;cIDEOGRAPH-F9BB"),
  (0xF9BC, "aCJK COMPATIBILITY IDEOGRAPH-F9BC;cIDEOGRAPH-F9BD;cIDEOGRAPH-F9BE;cIDEOGRAPH-F9BF"),
  (0xF9C0, "aCJK COMPATIBILITY IDEOGRAPH-F9C0;cIDEOGRAPH-F9C1;cIDEOGRAPH-F9C2;cIDEOGRAPH-F9C3"),
  (0xF9C4, "aCJK COMPATIBILITY IDEOGRAPH-F9C4;cIDEOGRAPH-F9C5;cIDEOGRAPH-F9C6;cIDEOGRAPH-F9C7"),
  (0xF9C8, "aCJK COMPATIBILITY IDEOGRAPH-F9C8;cIDEOGRAPH-F9C9;cIDEOGRAPH-F9CA;cIDEOGRAPH-F9CB"),
  (0xF9CC, "aCJK COMPATIBILITY IDEOGRAPH-F9CC;cIDEOGRAPH-F9CD;cIDEOGRAPH-F9CE;cIDEOGRAPH-F9CF"),
  (0xF9D0, "aCJK COMPATIBILITY IDEOGRAPH-F9D0;cIDEOGRAPH-F9D1;cIDEOGRAPH-F9D2;cIDEOGRAPH-F9D3"),
  (0xF9D4, "aCJK COMPATIBILITY IDEOGRAPH-F9D4;cIDEOGRAPH-F9D5;cIDEOGRAPH-F9D6;cIDEOGRAPH-F9D7"),
  (0xF9D8, "aCJK COMPATIBILITY IDEOGRAPH-F9D8;cIDEOGRAPH-F9D9;cIDEOGRAPH-F9DA;cIDEOGRAPH-F9DB"),
  (0xF9DC, "aCJK COMPATIBILITY IDEOGRAPH-F9DC;cIDEOGRAPH-F9DD;cIDEOGRAPH-F9DE;cIDEOGRAPH-F9DF"),
  (0xF9E0, "aCJK COMPATIBILITY IDEOGRAPH-F9E0;cIDEOGRAPH-F9E1;cIDEOGRAPH-F9E2;cIDEOGRAPH-F9E3"),
  (0xF9E4, "aCJK COMPATIBILITY IDEOGRAPH-F9E4;cIDEOGRAPH-F9E5;cIDEOGRAPH-F9E6;cIDEOGRAPH-F9E7"),
  (0xF9E8, "aCJK COMPATIBILITY IDEOGRAPH-F9E8;cIDEOGRAPH-F9E9;cIDEOGRAPH-F9EA;cIDEOGRAPH-F9EB"),
  (0xF9EC, "aCJK COMPATIBILITY IDEOGRAPH-F9EC;cIDEOGRAPH-F9ED;cIDEOGRAPH-F9EE;cIDEOGRAPH-F9EF"),
  (0xF9F0, "aCJK COMPATIBILITY IDEOGRAPH-F9F0;cIDEOGRAPH-F9F1;cIDEOGRAPH-F9F2;cIDEOGRAPH-F9F3"),
  (0xF9F4, "aCJK COMPATIBILITY IDEOGRAPH-F9F4;cIDEOGRAPH-F9F5;cIDEOGRAPH-F9F6;cIDEOGRAPH-F9F7"),
  (0xF9F8, "aCJK COMPATIBILITY IDEOGRAPH-F9F8;cIDEOGRAPH-F9F9;cIDEOGRAPH-F9FA;cIDEOGRAPH-F9FB"),
  (0xF9FC, "aCJK COMPATIBILITY IDEOGRAPH-F9FC;cIDEOGRAPH-F9FD;cIDEOGRAPH-F9FE;cIDEOGRAPH-F9FF"),
  (0xFA00, "aCJK COMPATIBILITY IDEOGRAPH-FA00;cIDEOGRAPH-FA01;cIDEOGRAPH-FA02;cIDEOGRAPH-FA03"),
  (0xFA04, "aCJK COMPATIBILITY IDEOGRAPH-FA04;cIDEOGRAPH-FA05;cIDEOGRAPH-FA06;cIDEOGRAPH-FA07"),
  (0xFA08, "aCJK COMPATIBILITY IDEOGRAPH-FA08;cIDEOGRAPH-FA09;cIDEOGRAPH-FA0A;cIDEOGRAPH-FA0B"),
  (0xFA0C, "aCJK COMPATIBILITY IDEOGRAPH-FA0C;cIDEOGRAPH-FA0D;cIDEOGRAPH-FA0E;cIDEOGRAPH-FA0F"),
  (0xFA10, "aCJK COMPATIBILITY IDEOGRAPH-FA10;cIDEOGRAPH-FA11;cIDEOGRAPH-FA12;cIDEOGRAPH-FA13"),
  (0xFA14, "aCJK COMPATIBILITY IDEOGRAPH-FA14;cIDEOGRAPH-FA15;cIDEOGRAPH-FA16;cIDEOGRAPH-FA17"),
  (0xFA18, "aCJK COMPATIBILITY IDEOGRAPH-FA18;cIDEOGRAPH-FA19;cIDEOGRAPH-FA1A;cIDEOGRAPH-FA1B"),
  (0xFA1C, "aCJK COMPATIBILITY IDEOGRAPH-FA1C;cIDEOGRAPH-FA1D;cIDEOGRAPH-FA1E;cIDEOGRAPH-FA1F"),
  (0xFA20, "aCJK COMPATIBILITY IDEOGRAPH-FA20;cIDEOGRAPH-FA21;cIDEOGRAPH-FA22;cIDEOGRAPH-FA23"),
  (0xFA24, "aCJK COMPATIBILITY IDEOGRAPH-FA24;cIDEOGRAPH-FA25;cIDEOGRAPH-FA26;cIDEOGRAPH-FA27"),
  (0xFA28, "aCJK COMPATIBILITY IDEOGRAPH-FA28;cIDEOGRAPH-FA29;cIDEOGRAPH-FA2A;cIDEOGRAPH-FA2B"),
  (0xFA2C, "aCJK COMPATIBILITY IDEOGRAPH-FA2C;cIDEOGRAPH-FA2D;cIDEOGRAPH-FA2E;cIDEOGRAPH-FA2F"),
  (0xFA30, "aCJK COMPATIBILITY IDEOGRAPH-FA30;cIDEOGRAPH-FA31;cIDEOGRAPH-FA32;cIDEOGRAPH-FA33"),
  (0xFA34, "aCJK COMPATIBILITY IDEOGRAPH-FA34;cIDEOGRAPH-FA35;cIDEOGRAPH-FA36;cIDEOGRAPH-FA37"),
  (0xFA38, "aCJK COMPATIBILITY IDEOGRAPH-FA38;cIDEOGRAPH-FA39;cIDEOGRAPH-FA3A;cIDEOGRAPH-FA3B"),
  (0xFA3C, "aCJK COMPATIBILITY IDEOGRAPH-FA3C;cIDEOGRAPH-FA3D;cIDEOGRAPH-FA3E;cIDEOGRAPH-FA3F"),
  (0xFA40, "aCJK COMPATIBILITY IDEOGRAPH-FA40;cIDEOGRAPH-FA41;cIDEOGRAPH-FA42;cIDEOGRAPH-FA43"),
  (0xFA44, "aCJK COMPATIBILITY IDEOGRAPH-FA44;cIDEOGRAPH-FA45;cIDEOGRAPH-FA46;cIDEOGRAPH-FA47"),
  (0xFA48, "aCJK COMPATIBILITY IDEOGRAPH-FA48;cIDEOGRAPH-FA49;cIDEOGRAPH-FA4A;cIDEOGRAPH-FA4B"),
  (0xFA4C, "aCJK COMPATIBILITY IDEOGRAPH-FA4C;cIDEOGRAPH-FA4D;cIDEOGRAPH-FA4E;cIDEOGRAPH-FA4F"),
  (0xFA50, "aCJK COMPATIBILITY IDEOGRAPH-FA50;cIDEOGRAPH-FA51;cIDEOGRAPH-FA52;cIDEOGRAPH-FA53"),
  (0xFA54, "aCJK COMPATIBILITY IDEOGRAPH-FA54;cIDEOGRAPH-FA55;cIDEOGRAPH-FA56;cIDEOGRAPH-FA57"),
  (0xFA58, "aCJK COMPATIBILITY IDEOGRAPH-FA58;cIDEOGRAPH-FA59;cIDEOGRAPH-FA5A;cIDEOGRAPH-FA5B"),
  (0xFA5C, "aCJK COMPATIBILITY IDEOGRAPH-FA5C;cIDEOGRAPH-FA5D;cIDEOGRAPH-FA5E;cIDEOGRAPH-FA5F"),
  (0xFA60, "aCJK COMPATIBILITY IDEOGRAPH-FA60;cIDEOGRAPH-FA61;cIDEOGRAPH-FA62;cIDEOGRAPH-FA63"),
  (0xFA64, "aCJK COMPATIBILITY IDEOGRAPH-FA64;cIDEOGRAPH-FA65;cIDEOGRAPH-FA66;cIDEOGRAPH-FA67"),
  (0xFA68, "aCJK COMPATIBILITY IDEOGRAPH-FA68;cIDEOGRAPH-FA69;cIDEOGRAPH-FA6A;cIDEOGRAPH-FA6B"),
  (0xFA6C, "aCJK COMPATIBILITY IDEOGRAPH-FA6C;cIDEOGRAPH-FA6D"),
  (0xFA70, "aCJK COMPATIBILITY IDEOGRAPH-FA70;cIDEOGRAPH-FA71;cIDEOGRAPH-FA72;cIDEOGRAPH-FA73"),
  (0xFA74, "aCJK COMPATIBILITY IDEOGRAPH-FA74;cIDEOGRAPH-FA75;cIDEOGRAPH-FA76;cIDEOGRAPH-FA77"),
  (0xFA78, "aCJK COMPATIBILITY IDEOGRAPH-FA78;cIDEOGRAPH-FA79;cIDEOGRAPH-FA7A;cIDEOGRAPH-FA7B"),
  (0xFA7C, "aCJK COMPATIBILITY IDEOGRAPH-FA7C;cIDEOGRAPH-FA7D;cIDEOGRAPH-FA7E;cIDEOGRAPH-FA7F"),
  (0xFA80, "aCJK COMPATIBILITY IDEOGRAPH-FA80;cIDEOGRAPH-FA81;cIDEOGRAPH-FA82;cIDEOGRAPH-FA83"),
  (0xFA84, "aCJK COMPATIBILITY IDEOGRAPH-FA84;cIDEOGRAPH-FA85;cIDEOGRAPH-FA86;cIDEOGRAPH-FA87"),
  (0xFA88, "aCJK COMPATIBILITY IDEOGRAPH-FA88;cIDEOGRAPH-FA89;cIDEOGRAPH-FA8A;cIDEOGRAPH-FA8B"),
  (0xFA8C, "aCJK COMPATIBILITY IDEOGRAPH-FA8C;cIDEOGRAPH-FA8D;cIDEOGRAPH-FA8E;cIDEOGRAPH-FA8F"),
  (0xFA90, "aCJK COMPATIBILITY IDEOGRAPH-FA90;cIDEOGRAPH-FA91;cIDEOGRAPH-FA92;cIDEOGRAPH-FA93"),
  (0xFA94, "aCJK COMPATIBILITY IDEOGRAPH-FA94;cIDEOGRAPH-FA95;cIDEOGRAPH-FA96;cIDEOGRAPH-FA97"),
  (0xFA98, "aCJK COMPATIBILITY IDEOGRAPH-FA98;cIDEOGRAPH-FA99;cIDEOGRAPH-FA9A;cIDEOGRAPH-FA9B"),
  (0xFA9C, "aCJK COMPATIBILITY IDEOGRAPH-FA9C;cIDEOGRAPH-FA9D;cIDEOGRAPH-FA9E;cIDEOGRAPH-FA9F"),
  (0xFAA0, "aCJK COMPATIBILITY IDEOGRAPH-FAA0;cIDEOGRAPH-FAA1;cIDEOGRAPH-FAA2;cIDEOGRAPH-FAA3"),
  (0xFAA4, "aCJK COMPATIBILITY IDEOGRAPH-FAA4;cIDEOGRAPH-FAA5;cIDEOGRAPH-FAA6;cIDEOGRAPH-FAA7"),
  (0xFAA8, "aCJK COMPATIBILITY IDEOGRAPH-FAA8;cIDEOGRAPH-FAA9;cIDEOGRAPH-FAAA;cIDEOGRAPH-FAAB"),
  (0xFAAC, "aCJK COMPATIBILITY IDEOGRAPH-FAAC;cIDEOGRAPH-FAAD;cIDEOGRAPH-FAAE;cIDEOGRAPH-FAAF"),
  (0xFAB0, "aCJK COMPATIBILITY IDEOGRAPH-FAB0;cIDEOGRAPH-FAB1;cIDEOGRAPH-FAB2;cIDEOGRAPH-FAB3"),
  (0xFAB4, "aCJK COMPATIBILITY IDEOGRAPH-FAB4;cIDEOGRAPH-FAB5;cIDEOGRAPH-FAB6;cIDEOGRAPH-FAB7"),
  (0xFAB8, "aCJK COMPATIBILITY IDEOGRAPH-FAB8;cIDEOGRAPH-FAB9;cIDEOGRAPH-FABA;cIDEOGRAPH-FABB"),
  (0xFABC, "aCJK COMPATIBILITY IDEOGRAPH-FABC;cIDEOGRAPH-FABD;cIDEOGRAPH-FABE;cIDEOGRAPH-FABF"),
  (0xFAC0, "aCJK COMPATIBILITY IDEOGRAPH-FAC0;cIDEOGRAPH-FAC1;cIDEOGRAPH-FAC2;cIDEOGRAPH-FAC3"),
  (0xFAC4, "aCJK COMPATIBILITY IDEOGRAPH-FAC4;cIDEOGRAPH-FAC5;cIDEOGRAPH-FAC6;cIDEOGRAPH-FAC7"),
  (0xFAC8, "aCJK COMPATIBILITY IDEOGRAPH-FAC8;cIDEOGRAPH-FAC9;cIDEOGRAPH-FACA;cIDEOGRAPH-FACB"),
  (0xFACC, "aCJK COMPATIBILITY IDEOGRAPH-FACC;cIDEOGRAPH-FACD;cIDEOGRAPH-FACE;cIDEOGRAPH-FACF"),
  (0xFAD0, "aCJK COMPATIBILITY IDEOGRAPH-FAD0;cIDEOGRAPH-FAD1;cIDEOGRAPH-FAD2;cIDEOGRAPH-FAD3"),
  (0xFAD4, "aCJK COMPATIBILITY IDEOGRAPH-FAD4;cIDEOGRAPH-FAD5;cIDEOGRAPH-FAD6;cIDEOGRAPH-FAD7"),
  (0xFAD8, "aCJK COMPATIBILITY IDEOGRAPH-FAD8;cIDEOGRAPH-FAD9"),
  (0xFB00, "aLATIN SMALL LIGATURE FF;dFI;dFL;dFFI;dFFL;dLONG S T;dST"),
  (0xFB13, "aARMENIAN SMALL LIGATURE MEN NOW;eECH;eINI;dVEW NOW;dMEN XEH"),
  (0xFB1D, "aHEBREW LETTER YOD WITH HIRIQ;bPOINT JUDEO-SPANISH VARIKA"),
  (0xFB1F, "aHEBREW LIGATURE YIDDISH YOD YOD PATAH;bLETTER ALTERNATIVE AYIN;cWIDE ALEF;dDALET;dHE"),
  (0xFB24, "aHEBREW LETTER WIDE KAF;dLAMED;dFINAL MEM;dRESH;dTAV;cALTERNATIVE PLUS SIGN"),
  (0xFB2A, "aHEBREW LETTER SHIN WITH SHIN DOT;eSIN DOT;eDAGESH AND SHIN DOT;gSIN DOT"),
  (0xFB2E, "aHEBREW LETTER ALEF WITH PATAH;eQAMATS;eMAPIQ;cBET WITH DAGESH;cGIMEL WITH DAGESH"),
  (0xFB33, "aHEBREW LETTER DALET WITH DAGESH;cHE WITH MAPIQ;cVAV WITH DAGESH;cZAYIN WITH DAGESH"),
  (0xFB38, "aHEBREW LETTER TET WITH DAGESH;cYOD WITH DAGESH;cFINAL KAF WITH DAGESH"),
  (0xFB3B, "aHEBREW LETTER KAF WITH DAGESH;cLAMED WITH DAGESH"),
  (0xFB3E, "aHEBREW LETTER MEM WITH DAGESH"),
  (0xFB40, "aHEBREW LETTER NUN WITH DAGESH;cSAMEKH WITH DAGESH"),
  (0xFB43, "aHEBREW LETTER FINAL PE WITH DAGESH;cPE WITH DAGESH"),
  (0xFB46, "aHEBREW LETTER TSADI WITH DAGESH;cQOF WITH DAGESH;cRESH WITH DAGESH;cSHIN WITH DAGESH"),
  (0xFB4A, "aHEBREW LETTER TAV WITH DAGESH;cVAV WITH HOLAM;cBET WITH RAFE;cKAF WITH RAFE"),
  (0xFB4E, "aHEBREW LETTER PE WITH RAFE;bLIGATURE ALEF LAMED"),
  (0xFB50, "aARABIC LETTER ALEF WASLA ISOLATED FORM;eFINAL FORM;cBEEH ISOLATED FORM;dFINAL FORM"),
  (0xFB54, "aARABIC LETTER BEEH INITIAL FORM;dMEDIAL FORM;cPEH ISOLATED FORM;dFINAL FORM"),
  (0xFB58, "aARABIC LETTER PEH INITIAL FORM;dMEDIAL FORM;cBEHEH ISOLATED FORM;dFINAL FORM"),
  (0xFB5C, "aARABIC LETTER BEHEH INITIAL FORM;dMEDIAL FORM;cTTEHEH ISOLATED FORM;dFINAL FORM"),
  (0xFB60, "aARABIC LETTER TTEHEH INITIAL FORM;dMEDIAL FORM;cTEHEH ISOLATED FORM;dFINAL FORM"),
  (0xFB64, "aARABIC LETTER TEHEH INITIAL FORM;dMEDIAL FORM;cTTEH ISOLATED FORM;dFINAL FORM"),
  (0xFB68, "aARABIC LETTER TTEH INITIAL FORM;dMEDIAL FORM;cVEH ISOLATED FORM;dFINAL FORM"),
  (0xFB6C, "aARABIC LETTER VEH INITIAL FORM;dMEDIAL FORM;cPEHEH ISOLATED FORM;dFINAL FORM"),
  (0xFB70, "aARABIC LETTER PEHEH INITIAL FORM;dMEDIAL FORM;cDYEH ISOLATED FORM;dFINAL FORM"),
  (0xFB74, "aARABIC LETTER DYEH INITIAL FORM;dMEDIAL FORM;cNYEH ISOLATED FORM;dFINAL FORM"),
  (0xFB78, "aARABIC LETTER NYEH INITIAL FORM;dMEDIAL FORM;cTCHEH ISOLATED FORM;dFINAL FORM")]

/-- The lines of names from U+FB7C on. -/
def namesFromFB7C : List (Nat × String) := [
  (0xFB7C, "aARABIC LETTER TCHEH INITIAL FORM;dMEDIAL FORM;cTCHEHEH ISOLATED FORM;dFINAL FORM"),
  (0xFB80, "aARABIC LETTER TCHEHEH INITIAL FORM;dMEDIAL FORM;cDDAHAL ISOLATED FORM;dFINAL FORM"),
  (0xFB84, "aARABIC LETTER DAHAL ISOLATED FORM;dFINAL FORM;cDUL ISOLATED FORM;dFINAL FORM"),
  (0xFB88, "aARABIC LETTER DDAL ISOLATED FORM;dFINAL FORM;cJEH ISOLATED FORM;dFINAL FORM"),
  (0xFB8C, "aARABIC LETTER RREH ISOLATED FORM;dFINAL FORM;cKEHEH ISOLATED FORM;dFINAL FORM"),
  (0xFB90, "aARABIC LETTER KEHEH INITIAL FORM;dMEDIAL FORM;cGAF ISOLATED FORM;dFINAL FORM"),
  (0xFB94, "aARABIC LETTER GAF INITIAL FORM;dMEDIAL FORM;cGUEH ISOLATED FORM;dFINAL FORM"),
  (0xFB98, "aARABIC LETTER GUEH INITIAL FORM;dMEDIAL FORM;cNGOEH ISOLATED FORM;dFINAL FORM"),
  (0xFB9C, "aARABIC LETTER NGOEH INITIAL FORM;dMEDIAL FORM;cNOON GHUNNA ISOLATED FORM;eFINAL FORM"),
  (0xFBA0, "aARABIC LETTER RNOON ISOLATED FORM;dFINAL FORM;dINITIAL FORM;dMEDIAL FORM"),
  (0xFBA4, "aARABIC LETTER HEH WITH YEH ABOVE ISOLATED FORM;gFINAL FORM;dGOAL ISOLATED FORM"),
  (0xFBA7, "aARABIC LETTER HEH GOAL FINAL FORM;eINITIAL FORM;eMEDIAL FORM"),
  (0xFBAA, "aARABIC LETTER HEH DOACHASHMEE ISOLATED FORM;eFINAL FORM;eINITIAL FORM;eMEDIAL FORM"),
  (0xFBAE, "aARABIC LETTER YEH BARREE ISOLATED FORM;eFINAL FORM;eWITH HAMZA ABOVE ISOLATED FORM"),
  (0xFBB1, "aARABIC LETTER YEH BARREE WITH HAMZA ABOVE FINAL FORM;bSYMBOL DOT ABOVE;dBELOW"),
  (0xFBB4, "aARABIC SYMBOL TWO DOTS ABOVE;eBELOW;cTHREE DOTS ABOVE;eBELOW"),
  (0xFBB8, "aARABIC SYMBOL THREE DOTS POINTING DOWNWARDS ABOVE;gBELOW;cFOUR DOTS ABOVE;eBELOW"),
  (0xFBBC, "aARABIC SYMBOL DOUBLE VERTICAL BAR BELOW;cTWO DOTS VERTICALLY ABOVE;fBELOW;cRING"),
  (0xFBC0, "aARABIC SYMBOL SMALL TAH ABOVE;eBELOW;cWASLA ABOVE"),
  (0xFBD3, "aARABIC LETTER NG ISOLATED FORM;dFINAL FORM;dINITIAL FORM;dMEDIAL FORM"),
  (0xFBD7, "aARABIC LETTER U ISOLATED FORM;dFINAL FORM;cOE ISOLATED FORM;dFINAL FORM"),
  (0xFBDB, "aARABIC LETTER YU ISOLATED FORM;dFINAL FORM;cU WITH HAMZA ABOVE ISOLATED FORM"),
  (0xFBDE, "aARABIC LETTER VE ISOLATED FORM;dFINAL FORM;cKIRGHIZ OE ISOLATED FORM;eFINAL FORM"),
  (0xFBE2, "aARABIC LETTER KIRGHIZ YU ISOLATED FORM;eFINAL FORM;cE ISOLATED FORM;dFINAL FORM"),
  (0xFBE6, "aARABIC LETTER E INITIAL FORM;dMEDIAL FORM"),
  (0xFBE8, "aARABIC LETTER UIGHUR KAZAKH KIRGHIZ ALEF MAKSURA INITIAL FORM;hMEDIAL FORM"),
  (0xFBEA, "aARABIC LIGATURE YEH WITH HAMZA ABOVE WITH ALEF ISOLATED FORM;iFINAL FORM"),
  (0xFBEC, "aARABIC LIGATURE YEH WITH HAMZA ABOVE WITH AE ISOLATED FORM;iFINAL FORM"),
  (0xFBEE, "aARABIC LIGATURE YEH WITH HAMZA ABOVE WITH WAW ISOLATED FORM;iFINAL FORM"),
  (0xFBF0, "aARABIC LIGATURE YEH WITH HAMZA ABOVE WITH U ISOLATED FORM;iFINAL FORM"),
  (0xFBF2, "aARABIC LIGATURE YEH WITH HAMZA ABOVE WITH OE ISOLATED FORM;iFINAL FORM"),
  (0xFBF4, "aARABIC LIGATURE YEH WITH HAMZA ABOVE WITH YU ISOLATED FORM;iFINAL FORM"),
  (0xFBF6, "aARABIC LIGATURE YEH WITH HAMZA ABOVE WITH E ISOLATED FORM;iFINAL FORM;iINITIAL FORM"),
  (0xFBF9, "aARABIC LIGATURE UIGHUR KIRGHIZ YEH WITH HAMZA ABOVE WITH ALEF MAKSURA ISOLATED FORM"),
  (0xFBFA, "aARABIC LIGATURE UIGHUR KIRGHIZ YEH WITH HAMZA ABOVE WITH ALEF MAKSURA FINAL FORM"),
  (0xFBFB, "aARABIC LIGATURE UIGHUR KIRGHIZ YEH WITH HAMZA ABOVE WITH ALEF MAKSURA INITIAL FORM"),
  (0xFBFC, "aARABIC LETTER FARSI YEH ISOLATED FORM;eFINAL FORM;eINITIAL FORM;eMEDIAL FORM"),
  (0xFC00, "aARABIC LIGATURE YEH WITH HAMZA ABOVE WITH JEEM ISOLATED FORM;hHAH ISOLATED FORM"),
  (0xFC02, "aARABIC LIGATURE YEH WITH HAMZA ABOVE WITH MEEM ISOLATED FORM"),
  (0xFC03, "aARABIC LIGATURE YEH WITH HAMZA ABOVE WITH ALEF MAKSURA ISOLATED FORM"),
  (0xFC04, "aARABIC LIGATURE YEH WITH HAMZA ABOVE WITH YEH ISOLATED FORM"),
  (0xFC05, "aARABIC LIGATURE BEH WITH JEEM ISOLATED FORM;eHAH ISOLATED FORM;eKHAH ISOLATED FORM"),
  (0xFC08, "aARABIC LIGATURE BEH WITH MEEM ISOLATED FORM;eALEF MAKSURA ISOLATED FORM"),
  (0xFC0A, "aARABIC LIGATURE BEH WITH YEH ISOLATED FORM;cTEH WITH JEEM ISOLATED FORM"),
  (0xFC0C, "aARABIC LIGATURE TEH WITH HAH ISOLATED FORM;eKHAH ISOLATED FORM;eMEEM ISOLATED FORM"),
  (0xFC0F, "aARABIC LIGATURE TEH WITH ALEF MAKSURA ISOLATED FORM;eYEH ISOLATED FORM"),
  (0xFC11, "aARABIC LIGATURE THEH WITH JEEM ISOLATED FORM;eMEEM ISOLATED FORM"),
  (0xFC13, "aARABIC LIGATURE THEH WITH ALEF MAKSURA ISOLATED FORM;eYEH ISOLATED FORM"),
  (0xFC15, "aARABIC LIGATURE JEEM WITH HAH ISOLATED FORM;eMEEM ISOLATED FORM"),
  (0xFC17, "aARABIC LIGATURE HAH WITH JEEM ISOLATED FORM;eMEEM ISOLATED FORM"),
  (0xFC19, "aARABIC LIGATURE KHAH WITH JEEM ISOLATED FORM;eHAH ISOLATED FORM;eMEEM ISOLATED FORM"),
  (0xFC1C, "aARABIC LIGATURE SEEN WITH JEEM ISOLATED FORM;eHAH ISOLATED FORM;eKHAH ISOLATED FORM"),
  (0xFC1F, "aARABIC LIGATURE SEEN WITH MEEM ISOLATED FORM;cSAD WITH HAH ISOLATED FORM"),
  (0xFC21, "aARABIC LIGATURE SAD WITH MEEM ISOLATED FORM;cDAD WITH JEEM ISOLATED FORM"),
  (0xFC23, "aARABIC LIGATURE DAD WITH HAH ISOLATED FORM;eKHAH ISOLATED FORM;eMEEM ISOLATED FORM"),
  (0xFC26, "aARABIC LIGATURE TAH WITH HAH ISOLATED FORM;eMEEM ISOLATED FORM"),
  (0xFC28, "aARABIC LIGATURE ZAH WITH MEEM ISOLATED FORM;cAIN WITH JEEM ISOLATED FORM"),
  (0xFC2A, "aARABIC LIGATURE AIN WITH MEEM ISOLATED FORM;cGHAIN WITH JEEM ISOLATED FORM"),
  (0xFC2C, "aARABIC LIGATURE GHAIN WITH MEEM ISOLATED FORM;cFEH WITH JEEM ISOLATED FORM"),
  (0xFC2E, "aARABIC LIGATURE FEH WITH HAH ISOLATED FORM;eKHAH ISOLATED FORM;eMEEM ISOLATED FORM"),
  (0xFC31, "aARABIC LIGATURE FEH WITH ALEF MAKSURA ISOLATED FORM;eYEH ISOLATED FORM"),
  (0xFC33, "aARABIC LIGATURE QAF WITH HAH ISOLATED FORM;eMEEM ISOLATED FORM"),
  (0xFC35, "aARABIC LIGATURE QAF WITH ALEF MAKSURA ISOLATED FORM;eYEH ISOLATED FORM"),
  (0xFC37, "aARABIC LIGATURE KAF WITH ALEF ISOLATED FORM;eJEEM ISOLATED FORM;eHAH ISOLATED FORM"),
  (0xFC3A, "aARABIC LIGATURE KAF WITH KHAH ISOLATED FORM;eLAM ISOLATED FORM;eMEEM ISOLATED FORM"),
  (0xFC3D, "aARABIC LIGATURE KAF WITH ALEF MAKSURA ISOLATED FORM;eYEH ISOLATED FORM"),
  (0xFC3F, "aARABIC LIGATURE LAM WITH JEEM ISOLATED FORM;eHAH ISOLATED FORM;eKHAH ISOLATED FORM"),
  (0xFC42, "aARABIC LIGATURE LAM WITH MEEM ISOLATED FORM;eALEF MAKSURA ISOLATED FORM"),
  (0xFC44, "aARABIC LIGATURE LAM WITH YEH ISOLATED FORM;cMEEM WITH JEEM ISOLATED FORM"),
  (0xFC46, "aARABIC LIGATURE MEEM WITH HAH ISOLATED FORM;eKHAH ISOLATED FORM;eMEEM ISOLATED FORM"),
  (0xFC49, "aARABIC LIGATURE MEEM WITH ALEF MAKSURA ISOLATED FORM;eYEH ISOLATED FORM"),
  (0xFC4B, "aARABIC LIGATURE NOON WITH JEEM ISOLATED FORM;eHAH ISOLATED FORM;eKHAH ISOLATED FORM"),
  (0xFC4E, "aARABIC LIGATURE NOON WITH MEEM ISOLATED FORM;eALEF MAKSURA ISOLATED FORM"),
  (0xFC50, "aARABIC LIGATURE NOON WITH YEH ISOLATED FORM;cHEH WITH JEEM ISOLATED FORM"),
  (0xFC52, "aARABIC LIGATURE HEH WITH MEEM ISOLATED FORM;eALEF MAKSURA ISOLATED FORM"),
  (0xFC54, "aARABIC LIGATURE HEH WITH YEH ISOLATED FORM;cYEH WITH JEEM ISOLATED FORM"),
  (0xFC56, "aARABIC LIGATURE YEH WITH HAH ISOLATED FORM;eKHAH ISOLATED FORM;eMEEM ISOLATED FORM"),
  (0xFC59, "aARABIC LIGATURE YEH WITH ALEF MAKSURA ISOLATED FORM;eYEH ISOLATED FORM"),
  (0xFC5B, "aARABIC LIGATURE THAL WITH SUPERSCRIPT ALEF ISOLATED FORM"),
  (0xFC5C, "aARABIC LIGATURE REH WITH SUPERSCRIPT ALEF ISOLATED FORM"),
  (0xFC5D, "aARABIC LIGATURE ALEF MAKSURA WITH SUPERSCRIPT ALEF ISOLATED FORM"),
  (0xFC5E, "aARABIC LIGATURE SHADDA WITH DAMMATAN ISOLATED FORM;eKASRATAN ISOLATED FORM"),
  (0xFC60, "aARABIC LIGATURE SHADDA WITH FATHA ISOLATED FORM;eDAMMA ISOLATED FORM"),
  (0xFC62, "aARABIC LIGATURE SHADDA WITH KASRA ISOLATED FORM;eSUPERSCRIPT ALEF ISOLATED FORM"),
  (0xFC64, "aARABIC LIGATURE YEH WITH HAMZA ABOVE WITH REH FINAL FORM;hZAIN FINAL FORM"),
  (0xFC66, "aARABIC LIGATURE YEH WITH HAMZA ABOVE WITH MEEM FINAL FORM;hNOON FINAL FORM"),
  (0xFC68, "aARABIC LIGATURE YEH WITH HAMZA ABOVE WITH ALEF MAKSURA FINAL FORM;hYEH FINAL FORM"),
  (0xFC6A, "aARABIC LIGATURE BEH WITH REH FINAL FORM;eZAIN FINAL FORM;eMEEM FINAL FORM"),
  (0xFC6D, "aARABIC LIGATURE BEH WITH NOON FINAL FORM;eALEF MAKSURA FINAL FORM;eYEH FINAL FORM"),
  (0xFC70, "aARABIC LIGATURE TEH WITH REH FINAL FORM;eZAIN FINAL FORM;eMEEM FINAL FORM"),
  (0xFC73, "aARABIC LIGATURE TEH WITH NOON FINAL FORM;eALEF MAKSURA FINAL FORM;eYEH FINAL FORM"),
  (0xFC76, "aARABIC LIGATURE THEH WITH REH FINAL FORM;eZAIN FINAL FORM;eMEEM FINAL FORM"),
  (0xFC79, "aARABIC LIGATURE THEH WITH NOON FINAL FORM;eALEF MAKSURA FINAL FORM;eYEH FINAL FORM"),
  (0xFC7C, "aARABIC LIGATURE FEH WITH ALEF MAKSURA FINAL FORM;eYEH FINAL FORM"),
  (0xFC7E, "aARABIC LIGATURE QAF WITH ALEF MAKSURA FINAL FORM;eYEH FINAL FORM"),
  (0xFC80, "aARABIC LIGATURE KAF WITH ALEF FINAL FORM;eLAM FINAL FORM;eMEEM FINAL FORM"),
  (0xFC83, "aARABIC LIGATURE KAF WITH ALEF MAKSURA FINAL FORM;eYEH FINAL FORM"),
  (0xFC85, "aARABIC LIGATURE LAM WITH MEEM FINAL FORM;eALEF MAKSURA FINAL FORM;eYEH FINAL FORM"),
  (0xFC88, "aARABIC LIGATURE MEEM WITH ALEF FINAL FORM;eMEEM FINAL FORM;cNOON WITH REH FINAL FORM"),
  (0xFC8B, "aARABIC LIGATURE NOON WITH ZAIN FINAL FORM;eMEEM FINAL FORM;eNOON FINAL FORM"),
  (0xFC8E, "aARABIC LIGATURE NOON WITH ALEF MAKSURA FINAL FORM;eYEH FINAL FORM"),
  (0xFC90, "aARABIC LIGATURE ALEF MAKSURA WITH SUPERSCRIPT ALEF FINAL FORM"),
  (0xFC91, "aARABIC LIGATURE YEH WITH REH FINAL FORM;eZAIN FINAL FORM;eMEEM FINAL FORM"),
  (0xFC94, "aARABIC LIGATURE YEH WITH NOON FINAL FORM;eALEF MAKSURA FINAL FORM;eYEH FINAL FORM"),
  (0xFC97, "aARABIC LIGATURE YEH WITH HAMZA ABOVE WITH JEEM INITIAL FORM;hHAH INITIAL FORM"),
  (0xFC99, "aARABIC LIGATURE YEH WITH HAMZA ABOVE WITH KHAH INITIAL FORM;hMEEM INITIAL FORM"),
  (0xFC9B, "aARABIC LIGATURE YEH WITH HAMZA ABOVE WITH HEH INITIAL FORM"),
  (0xFC9C, "aARABIC LIGATURE BEH WITH JEEM INITIAL FORM;eHAH INITIAL FORM;eKHAH INITIAL FORM"),
  (0xFC9F, "aARABIC LIGATURE BEH WITH MEEM INITIAL FORM;eHEH INITIAL FORM"),
  (0xFCA1, "aARABIC LIGATURE TEH WITH JEEM INITIAL FORM;eHAH INITIAL FORM;eKHAH INITIAL FORM"),
  (0xFCA4, "aARABIC LIGATURE TEH WITH MEEM INITIAL FORM;eHEH INITIAL FORM"),
  (0xFCA6, "aARABIC LIGATURE THEH WITH MEEM INITIAL FORM;cJEEM WITH HAH INITIAL FORM"),
  (0xFCA8, "aARABIC LIGATURE JEEM WITH MEEM INITIAL FORM;cHAH WITH JEEM INITIAL FORM"),
  (0xFCAA, "aARABIC LIGATURE HAH WITH MEEM INITIAL FORM;cKHAH WITH JEEM INITIAL FORM"),
  (0xFCAC, "aARABIC LIGATURE KHAH WITH MEEM INITIAL FORM;cSEEN WITH JEEM INITIAL FORM"),
  (0xFCAE, "aARABIC LIGATURE SEEN WITH HAH INITIAL FORM;eKHAH INITIAL FORM;eMEEM INITIAL FORM"),
  (0xFCB1, "aARABIC LIGATURE SAD WITH HAH INITIAL FORM;eKHAH INITIAL FORM;eMEEM INITIAL FORM"),
  (0xFCB4, "aARABIC LIGATURE DAD WITH JEEM INITIAL FORM;eHAH INITIAL FORM;eKHAH INITIAL FORM"),
  (0xFCB7, "aARABIC LIGATURE DAD WITH MEEM INITIAL FORM;cTAH WITH HAH INITIAL FORM"),
  (0xFCB9, "aARABIC LIGATURE ZAH WITH MEEM INITIAL FORM;cAIN WITH JEEM INITIAL FORM"),
  (0xFCBB, "aARABIC LIGATURE AIN WITH MEEM INITIAL FORM;cGHAIN WITH JEEM INITIAL FORM"),
  (0xFCBD, "aARABIC LIGATURE GHAIN WITH MEEM INITIAL FORM;cFEH WITH JEEM INITIAL FORM"),
  (0xFCBF, "aARABIC LIGATURE FEH WITH HAH INITIAL FORM;eKHAH INITIAL FORM;eMEEM INITIAL FORM"),
  (0xFCC2, "aARABIC LIGATURE QAF WITH HAH INITIAL FORM;eMEEM INITIAL FORM"),
  (0xFCC4, "aARABIC LIGATURE KAF WITH JEEM INITIAL FORM;eHAH INITIAL FORM;eKHAH INITIAL FORM"),
  (0xFCC7, "aARABIC LIGATURE KAF WITH LAM INITIAL FORM;eMEEM INITIAL FORM"),
  (0xFCC9, "aARABIC LIGATURE LAM WITH JEEM INITIAL FORM;eHAH INITIAL FORM;eKHAH INITIAL FORM"),
  (0xFCCC, "aARABIC LIGATURE LAM WITH MEEM INITIAL FORM;eHEH INITIAL FORM"),
  (0xFCCE, "aARABIC LIGATURE MEEM WITH JEEM INITIAL FORM;eHAH INITIAL FORM;eKHAH INITIAL FORM"),
  (0xFCD1, "aARABIC LIGATURE MEEM WITH MEEM INITIAL FORM;cNOON WITH JEEM INITIAL FORM"),
  (0xFCD3, "aARABIC LIGATURE NOON WITH HAH INITIAL FORM;eKHAH INITIAL FORM;eMEEM INITIAL FORM"),
  (0xFCD6, "aARABIC LIGATURE NOON WITH HEH INITIAL FORM;cHEH WITH JEEM INITIAL FORM"),
  (0xFCD8, "aARABIC LIGATURE HEH WITH MEEM INITIAL FORM;eSUPERSCRIPT ALEF INITIAL FORM"),
  (0xFCDA, "aARABIC LIGATURE YEH WITH JEEM INITIAL FORM;eHAH INITIAL FORM;eKHAH INITIAL FORM"),
  (0xFCDD, "aARABIC LIGATURE YEH WITH MEEM INITIAL FORM;eHEH INITIAL FORM"),
  (0xFCDF, "aARABIC LIGATURE YEH WITH HAMZA ABOVE WITH MEEM MEDIAL FORM;hHEH MEDIAL FORM"),
  (0xFCE1, "aARABIC LIGATURE BEH WITH MEEM MEDIAL FORM;eHEH MEDIAL FORM"),
  (0xFCE3, "aARABIC LIGATURE TEH WITH MEEM MEDIAL FORM;eHEH MEDIAL FORM"),
  (0xFCE5, "aARABIC LIGATURE THEH WITH MEEM MEDIAL FORM;eHEH MEDIAL FORM"),
  (0xFCE7, "aARABIC LIGATURE SEEN WITH MEEM MEDIAL FORM;eHEH MEDIAL FORM"),
  (0xFCE9, "aARABIC LIGATURE SHEEN WITH MEEM MEDIAL FORM;eHEH MEDIAL FORM"),
  (0xFCEB, "aARABIC LIGATURE KAF WITH LAM MEDIAL FORM;eMEEM MEDIAL FORM"),
  (0xFCED, "aARABIC LIGATURE LAM WITH MEEM MEDIAL FORM;cNOON WITH MEEM MEDIAL FORM"),
  (0xFCEF, "aARABIC LIGATURE NOON WITH HEH MEDIAL FORM;cYEH WITH MEEM MEDIAL FORM"),
  (0xFCF1, "aARABIC LIGATURE YEH WITH HEH MEDIAL FORM;cSHADDA WITH FATHA MEDIAL FORM"),
  (0xFCF3, "aARABIC LIGATURE SHADDA WITH DAMMA MEDIAL FORM;eKASRA MEDIAL FORM"),
  (0xFCF5, "aARABIC LIGATURE TAH WITH ALEF MAKSURA ISOLATED FORM;eYEH ISOLATED FORM"),
  (0xFCF7, "aARABIC LIGATURE AIN WITH ALEF MAKSURA ISOLATED FORM;eYEH ISOLATED FORM"),
  (0xFCF9, "aARABIC LIGATURE GHAIN WITH ALEF MAKSURA ISOLATED FORM;eYEH ISOLATED FORM"),
  (0xFCFB, "aARABIC LIGATURE SEEN WITH ALEF MAKSURA ISOLATED FORM;eYEH ISOLATED FORM"),
  (0xFCFD, "aARABIC LIGATURE SHEEN WITH ALEF MAKSURA ISOLATED FORM;eYEH ISOLATED FORM"),
  (0xFCFF, "aARABIC LIGATURE HAH WITH ALEF MAKSURA ISOLATED FORM;eYEH ISOLATED FORM"),
  (0xFD01, "aARABIC LIGATURE JEEM WITH ALEF MAKSURA ISOLATED FORM;eYEH ISOLATED FORM"),
  (0xFD03, "aARABIC LIGATURE KHAH WITH ALEF MAKSURA ISOLATED FORM;eYEH ISOLATED FORM"),
  (0xFD05, "aARABIC LIGATURE SAD WITH ALEF MAKSURA ISOLATED FORM;eYEH ISOLATED FORM"),
  (0xFD07, "aARABIC LIGATURE DAD WITH ALEF MAKSURA ISOLATED FORM;eYEH ISOLATED FORM"),
  (0xFD09, "aARABIC LIGATURE SHEEN WITH JEEM ISOLATED FORM;eHAH ISOLATED FORM;eKHAH ISOLATED FORM"),
  (0xFD0C, "aARABIC LIGATURE SHEEN WITH MEEM ISOLATED FORM;eREH ISOLATED FORM"),
  (0xFD0E, "aARABIC LIGATURE SEEN WITH REH ISOLATED FORM;cSAD WITH REH ISOLATED FORM"),
  (0xFD10, "aARABIC LIGATURE DAD WITH REH ISOLATED FORM;cTAH WITH ALEF MAKSURA FINAL FORM"),
  (0xFD12, "aARABIC LIGATURE TAH WITH YEH FINAL FORM;cAIN WITH ALEF MAKSURA FINAL FORM"),
  (0xFD14, "aARABIC LIGATURE AIN WITH YEH FINAL FORM;cGHAIN WITH ALEF MAKSURA FINAL FORM"),
  (0xFD16, "aARABIC LIGATURE GHAIN WITH YEH FINAL FORM;cSEEN WITH ALEF MAKSURA FINAL FORM"),
  (0xFD18, "aARABIC LIGATURE SEEN WITH YEH FINAL FORM;cSHEEN WITH ALEF MAKSURA FINAL FORM"),
  (0xFD1A, "aARABIC LIGATURE SHEEN WITH YEH FINAL FORM;cHAH WITH ALEF MAKSURA FINAL FORM"),
  (0xFD1C, "aARABIC LIGATURE HAH WITH YEH FINAL FORM;cJEEM WITH ALEF MAKSURA FINAL FORM"),
  (0xFD1E, "aARABIC LIGATURE JEEM WITH YEH FINAL FORM;cKHAH WITH ALEF MAKSURA FINAL FORM"),
  (0xFD20, "aARABIC LIGATURE KHAH WITH YEH FINAL FORM;cSAD WITH ALEF MAKSURA FINAL FORM"),
  (0xFD22, "aARABIC LIGATURE SAD WITH YEH FINAL FORM;cDAD WITH ALEF MAKSURA FINAL FORM"),
  (0xFD24, "aARABIC LIGATURE DAD WITH YEH FINAL FORM;cSHEEN WITH JEEM FINAL FORM;eHAH FINAL FORM"),
  (0xFD27, "aARABIC LIGATURE SHEEN WITH KHAH FINAL FORM;eMEEM FINAL FORM;eREH FINAL FORM"),
  (0xFD2A, "aARABIC LIGATURE SEEN WITH REH FINAL FORM;cSAD WITH REH FINAL FORM"),
  (0xFD2C, "aARABIC LIGATURE DAD WITH REH FINAL FORM;cSHEEN WITH JEEM INITIAL FORM"),
  (0xFD2E, "aARABIC LIGATURE SHEEN WITH HAH INITIAL FORM;eKHAH INITIAL FORM;eMEEM INITIAL FORM"),
  (0xFD31, "aARABIC LIGATURE SEEN WITH HEH INITIAL FORM;cSHEEN WITH HEH INITIAL FORM"),
  (0xFD33, "aARABIC LIGATURE TAH WITH MEEM INITIAL FORM;cSEEN WITH JEEM MEDIAL FORM"),
  (0xFD35, "aARABIC LIGATURE SEEN WITH HAH MEDIAL FORM;eKHAH MEDIAL FORM"),
  (0xFD37, "aARABIC LIGATURE SHEEN WITH JEEM MEDIAL FORM;eHAH MEDIAL FORM;eKHAH MEDIAL FORM"),
  (0xFD3A, "aARABIC LIGATURE TAH WITH MEEM MEDIAL FORM;cZAH WITH MEEM MEDIAL FORM"),
  (0xFD3C, "aARABIC LIGATURE ALEF WITH FATHATAN FINAL FORM;fISOLATED FORM"),
  (0xFD3E, "aORNATE LEFT PARENTHESIS;bRIGHT PARENTHESIS;aARABIC LIGATURE RAHIMAHU ALLAAH"),
  (0xFD41, "aARABIC LIGATURE RADI ALLAAHU ANH;eANHAA;eANHUM;eANHUMAA;eANHUNNA"),
  (0xFD46, "aARABIC LIGATURE SALLALLAAHU ALAYHI WA-AALIH;cALAYHI AS-SALAAM;cALAYHIM AS-SALAAM"),
  (0xFD49, "aARABIC LIGATURE ALAYHIMAA AS-SALAAM;cALAYHI AS-SALAATU WAS-SALAAM;cQUDDISA SIRRAH"),
  (0xFD4C, "aARABIC LIGATURE SALLALLAHU ALAYHI WAAALIHEE WA-SALLAM;cALAYHAA AS-SALAAM"),
  (0xFD4E, "aARABIC LIGATURE TABAARAKA WA-TAAALAA;cRAHIMAHUM ALLAAH"),
  (0xFD50, "aARABIC LIGATURE TEH WITH JEEM WITH MEEM INITIAL FORM;eHAH WITH JEEM FINAL FORM"),
  (0xFD52, "aARABIC LIGATURE TEH WITH HAH WITH JEEM INITIAL FORM;gMEEM INITIAL FORM"),
  (0xFD54, "aARABIC LIGATURE TEH WITH KHAH WITH MEEM INITIAL FORM;eMEEM WITH JEEM INITIAL FORM"),
  (0xFD56, "aARABIC LIGATURE TEH WITH MEEM WITH HAH INITIAL FORM;gKHAH INITIAL FORM"),
  (0xFD58, "aARABIC LIGATURE JEEM WITH MEEM WITH HAH FINAL FORM;hINITIAL FORM"),
  (0xFD5A, "aARABIC LIGATURE HAH WITH MEEM WITH YEH FINAL FORM;gALEF MAKSURA FINAL FORM"),
  (0xFD5C, "aARABIC LIGATURE SEEN WITH HAH WITH JEEM INITIAL FORM;eJEEM WITH HAH INITIAL FORM"),
  (0xFD5E, "aARABIC LIGATURE SEEN WITH JEEM WITH ALEF MAKSURA FINAL FORM"),
  (0xFD5F, "aARABIC LIGATURE SEEN WITH MEEM WITH HAH FINAL FORM;hINITIAL FORM;gJEEM INITIAL FORM"),
  (0xFD62, "aARABIC LIGATURE SEEN WITH MEEM WITH MEEM FINAL FORM;hINITIAL FORM"),
  (0xFD64, "aARABIC LIGATURE SAD WITH HAH WITH HAH FINAL FORM;hINITIAL FORM"),
  (0xFD66, "aARABIC LIGATURE SAD WITH MEEM WITH MEEM FINAL FORM"),
  (0xFD67, "aARABIC LIGATURE SHEEN WITH HAH WITH MEEM FINAL FORM;hINITIAL FORM"),
  (0xFD69, "aARABIC LIGATURE SHEEN WITH JEEM WITH YEH FINAL FORM;eMEEM WITH KHAH FINAL FORM"),
  (0xFD6B, "aARABIC LIGATURE SHEEN WITH MEEM WITH KHAH INITIAL FORM;gMEEM FINAL FORM"),
  (0xFD6D, "aARABIC LIGATURE SHEEN WITH MEEM WITH MEEM INITIAL FORM"),
  (0xFD6E, "aARABIC LIGATURE DAD WITH HAH WITH ALEF MAKSURA FINAL FORM;eKHAH WITH MEEM FINAL FORM"),
  (0xFD70, "aARABIC LIGATURE DAD WITH KHAH WITH MEEM INITIAL FORM"),
  (0xFD71, "aARABIC LIGATURE TAH WITH MEEM WITH HAH FINAL FORM;hINITIAL FORM;gMEEM INITIAL FORM"),
  (0xFD74, "aARABIC LIGATURE TAH WITH MEEM WITH YEH FINAL FORM"),
  (0xFD75, "aARABIC LIGATURE AIN WITH JEEM WITH MEEM FINAL FORM;eMEEM WITH MEEM FINAL FORM"),
  (0xFD77, "aARABIC LIGATURE AIN WITH MEEM WITH MEEM INITIAL FORM;gALEF MAKSURA FINAL FORM"),
  (0xFD79, "aARABIC LIGATURE GHAIN WITH MEEM WITH MEEM FINAL FORM;gYEH FINAL FORM"),
  (0xFD7B, "aARABIC LIGATURE GHAIN WITH MEEM WITH ALEF MAKSURA FINAL FORM"),
  (0xFD7C, "aARABIC LIGATURE FEH WITH KHAH WITH MEEM FINAL FORM;hINITIAL FORM"),
  (0xFD7E, "aARABIC LIGATURE QAF WITH MEEM WITH HAH FINAL FORM;gMEEM FINAL FORM"),
  (0xFD80, "aARABIC LIGATURE LAM WITH HAH WITH MEEM FINAL FORM;gYEH FINAL FORM"),
  (0xFD82, "aARABIC LIGATURE LAM WITH HAH WITH ALEF MAKSURA FINAL FORM"),
  (0xFD83, "aARABIC LIGATURE LAM WITH JEEM WITH JEEM INITIAL FORM;hFINAL FORM"),
  (0xFD85, "aARABIC LIGATURE LAM WITH KHAH WITH MEEM FINAL FORM;hINITIAL FORM"),
  (0xFD87, "aARABIC LIGATURE LAM WITH MEEM WITH HAH FINAL FORM;hINITIAL FORM"),
  (0xFD89, "aARABIC LIGATURE MEEM WITH HAH WITH JEEM INITIAL FORM;gMEEM INITIAL FORM"),
  (0xFD8B, "aARABIC LIGATURE MEEM WITH HAH WITH YEH FINAL FORM;eJEEM WITH HAH INITIAL FORM"),
  (0xFD8D, "aARABIC LIGATURE MEEM WITH JEEM WITH MEEM INITIAL FORM;eKHAH WITH JEEM INITIAL FORM")]

/-- The lines of names from U+FD8F on. -/
def namesFromFD8F : List (Nat × String) := [
  (0xFD8F, "aARABIC LIGATURE MEEM WITH KHAH WITH MEEM INITIAL FORM"),
  (0xFD92, "aARABIC LIGATURE MEEM WITH JEEM WITH KHAH INITIAL FORM"),
  (0xFD93, "aARABIC LIGATURE HEH WITH MEEM WITH JEEM INITIAL FORM;gMEEM INITIAL FORM"),
  (0xFD95, "aARABIC LIGATURE NOON WITH HAH WITH MEEM INITIAL FORM;gALEF MAKSURA FINAL FORM"),
  (0xFD97, "aARABIC LIGATURE NOON WITH JEEM WITH MEEM FINAL FORM;hINITIAL FORM"),
  (0xFD99, "aARABIC LIGATURE NOON WITH JEEM WITH ALEF MAKSURA FINAL FORM"),
  (0xFD9A, "aARABIC LIGATURE NOON WITH MEEM WITH YEH FINAL FORM;gALEF MAKSURA FINAL FORM"),
  (0xFD9C, "aARABIC LIGATURE YEH WITH MEEM WITH MEEM FINAL FORM;hINITIAL FORM"),
  (0xFD9E, "aARABIC LIGATURE BEH WITH KHAH WITH YEH FINAL FORM;cTEH WITH JEEM WITH YEH FINAL FORM"),
  (0xFDA0, "aARABIC LIGATURE TEH WITH JEEM WITH ALEF MAKSURA FINAL FORM;eKHAH WITH YEH FINAL FORM"),
  (0xFDA2, "aARABIC LIGATURE TEH WITH KHAH WITH ALEF MAKSURA FINAL FORM;eMEEM WITH YEH FINAL FORM"),
  (0xFDA4, "aARABIC LIGATURE TEH WITH MEEM WITH ALEF MAKSURA FINAL FORM"),
  (0xFDA5, "aARABIC LIGATURE JEEM WITH MEEM WITH YEH FINAL FORM;eHAH WITH ALEF MAKSURA FINAL FORM"),
  (0xFDA7, "aARABIC LIGATURE JEEM WITH MEEM WITH ALEF MAKSURA FINAL FORM"),
  (0xFDA8, "aARABIC LIGATURE SEEN WITH KHAH WITH ALEF MAKSURA FINAL FORM"),
  (0xFDA9, "aARABIC LIGATURE SAD WITH HAH WITH YEH FINAL FORM;cSHEEN WITH HAH WITH YEH FINAL FORM"),
  (0xFDAB, "aARABIC LIGATURE DAD WITH HAH WITH YEH FINAL FORM;cLAM WITH JEEM WITH YEH FINAL FORM"),
  (0xFDAD, "aARABIC LIGATURE LAM WITH MEEM WITH YEH FINAL FORM;cYEH WITH HAH WITH YEH FINAL FORM"),
  (0xFDAF, "aARABIC LIGATURE YEH WITH JEEM WITH YEH FINAL FORM;eMEEM WITH YEH FINAL FORM"),
  (0xFDB1, "aARABIC LIGATURE MEEM WITH MEEM WITH YEH FINAL FORM"),
  (0xFDB2, "aARABIC LIGATURE QAF WITH MEEM WITH YEH FINAL FORM;cNOON WITH HAH WITH YEH FINAL FORM"),
  (0xFDB4, "aARABIC LIGATURE QAF WITH MEEM WITH HAH INITIAL FORM"),
  (0xFDB5, "aARABIC LIGATURE LAM WITH HAH WITH MEEM INITIAL FORM"),
  (0xFDB6, "aARABIC LIGATURE AIN WITH MEEM WITH YEH FINAL FORM;cKAF WITH MEEM WITH YEH FINAL FORM"),
  (0xFDB8, "aARABIC LIGATURE NOON WITH JEEM WITH HAH INITIAL FORM"),
  (0xFDB9, "aARABIC LIGATURE MEEM WITH KHAH WITH YEH FINAL FORM"),
  (0xFDBA, "aARABIC LIGATURE LAM WITH JEEM WITH MEEM INITIAL FORM"),
  (0xFDBB, "aARABIC LIGATURE KAF WITH MEEM WITH MEEM FINAL FORM"),
  (0xFDBC, "aARABIC LIGATURE LAM WITH JEEM WITH MEEM FINAL FORM"),
  (0xFDBD, "aARABIC LIGATURE NOON WITH JEEM WITH HAH FINAL FORM"),
  (0xFDBE, "aARABIC LIGATURE JEEM WITH HAH WITH YEH FINAL FORM;cHAH WITH JEEM WITH YEH FINAL FORM"),
  (0xFDC0, "aARABIC LIGATURE MEEM WITH JEEM WITH YEH FINAL FORM"),
  (0xFDC1, "aARABIC LIGATURE FEH WITH MEEM WITH YEH FINAL FORM;cBEH WITH HAH WITH YEH FINAL FORM"),
  (0xFDC3, "aARABIC LIGATURE KAF WITH MEEM WITH MEEM INITIAL FORM"),
  (0xFDC4, "aARABIC LIGATURE AIN WITH JEEM WITH MEEM INITIAL FORM"),
  (0xFDC5, "aARABIC LIGATURE SAD WITH MEEM WITH MEEM INITIAL FORM"),
  (0xFDC6, "aARABIC LIGATURE SEEN WITH KHAH WITH YEH FINAL FORM"),
  (0xFDC7, "aARABIC LIGATURE NOON WITH JEEM WITH YEH FINAL FORM"),
  (0xFDCF, "aARABIC LIGATURE SALAAMUHU ALAYNAA"),
  (0xFDF0, "aARABIC LIGATURE SALLA USED AS KORANIC STOP SIGN ISOLATED FORM"),
  (0xFDF1, "aARABIC LIGATURE QALA USED AS KORANIC STOP SIGN ISOLATED FORM;cALLAH ISOLATED FORM"),
  (0xFDF3, "aARABIC LIGATURE AKBAR ISOLATED FORM;cMOHAMMAD ISOLATED FORM;cSALAM ISOLATED FORM"),
  (0xFDF6, "aARABIC LIGATURE RASOUL ISOLATED FORM;cALAYHE ISOLATED FORM;cWASALLAM ISOLATED FORM"),
  (0xFDF9, "aARABIC LIGATURE SALLA ISOLATED FORM;cSALLALLAHOU ALAYHE WASALLAM;cJALLAJALALOUHOU"),
  (0xFDFC, "aRIAL SIGN;aARABIC LIGATURE BISMILLAH AR-RAHMAN AR-RAHEEM;cSUBHAANAHU WA TAAALAA"),
  (0xFDFF, "aARABIC LIGATURE AZZA WA JALL;aVARIATION SELECTOR-1;bSELECTOR-2;bSELECTOR-3"),
  (0xFE03, "aVARIATION SELECTOR-4;bSELECTOR-5;bSELECTOR-6;bSELECTOR-7;bSELECTOR-8;bSELECTOR-9"),
  (0xFE09, "aVARIATION SELECTOR-10;bSELECTOR-11;bSELECTOR-12;bSELECTOR-13;bSELECTOR-14"),
  (0xFE0E, "aVARIATION SELECTOR-15;bSELECTOR-16;aPRESENTATION FORM FOR VERTICAL COMMA"),
  (0xFE11, "aPRESENTATION FORM FOR VERTICAL IDEOGRAPHIC COMMA;fFULL STOP;eCOLON;eSEMICOLON"),
  (0xFE15, "aPRESENTATION FORM FOR VERTICAL EXCLAMATION MARK;eQUESTION MARK"),
  (0xFE17, "aPRESENTATION FORM FOR VERTICAL LEFT WHITE LENTICULAR BRACKET"),
  (0xFE18, "aPRESENTATION FORM FOR VERTICAL RIGHT WHITE LENTICULAR BRAKCET;eHORIZONTAL ELLIPSIS"),
  (0xFE20, "aCOMBINING LIGATURE LEFT HALF;cRIGHT HALF;bDOUBLE TILDE LEFT HALF;dRIGHT HALF"),
  (0xFE24, "aCOMBINING MACRON LEFT HALF;cRIGHT HALF;bCONJOINING MACRON;bLIGATURE LEFT HALF BELOW"),
  (0xFE28, "aCOMBINING LIGATURE RIGHT HALF BELOW;bTILDE LEFT HALF BELOW;cRIGHT HALF BELOW"),
  (0xFE2B, "aCOMBINING MACRON LEFT HALF BELOW;cRIGHT HALF BELOW;bCONJOINING MACRON BELOW"),
  (0xFE2E, "aCOMBINING CYRILLIC TITLO LEFT HALF;dRIGHT HALF"),
  (0xFE30, "aPRESENTATION FORM FOR VERTICAL TWO DOT LEADER;eEM DASH;eEN DASH;eLOW LINE"),
  (0xFE34, "aPRESENTATION FORM FOR VERTICAL WAVY LOW LINE;eLEFT PARENTHESIS;eRIGHT PARENTHESIS"),
  (0xFE37, "aPRESENTATION FORM FOR VERTICAL LEFT CURLY BRACKET;eRIGHT CURLY BRACKET"),
  (0xFE39, "aPRESENTATION FORM FOR VERTICAL LEFT TORTOISE SHELL BRACKET"),
  (0xFE3A, "aPRESENTATION FORM FOR VERTICAL RIGHT TORTOISE SHELL BRACKET"),
  (0xFE3B, "aPRESENTATION FORM FOR VERTICAL LEFT BLACK LENTICULAR BRACKET"),
  (0xFE3C, "aPRESENTATION FORM FOR VERTICAL RIGHT BLACK LENTICULAR BRACKET"),
  (0xFE3D, "aPRESENTATION FORM FOR VERTICAL LEFT DOUBLE ANGLE BRACKET;eRIGHT DOUBLE ANGLE BRACKET"),
  (0xFE3F, "aPRESENTATION FORM FOR VERTICAL LEFT ANGLE BRACKET;eRIGHT ANGLE BRACKET"),
  (0xFE41, "aPRESENTATION FORM FOR VERTICAL LEFT CORNER BRACKET;eRIGHT CORNER BRACKET"),
  (0xFE43, "aPRESENTATION FORM FOR VERTICAL LEFT WHITE CORNER BRACKET;eRIGHT WHITE CORNER BRACKET"),
  (0xFE45, "aSESAME DOT;aWHITE SESAME DOT;aPRESENTATION FORM FOR VERTICAL LEFT SQUARE BRACKET"),
  (0xFE48, "aPRESENTATION FORM FOR VERTICAL RIGHT SQUARE BRACKET;aDASHED OVERLINE"),
  (0xFE4A, "aCENTRELINE OVERLINE;aWAVY OVERLINE;aDOUBLE WAVY OVERLINE;aDASHED LOW LINE"),
  (0xFE4E, "aCENTRELINE LOW LINE;aWAVY LOW LINE;aSMALL COMMA;bIDEOGRAPHIC COMMA;bFULL STOP"),
  (0xFE54, "aSMALL SEMICOLON;bCOLON;bQUESTION MARK;bEXCLAMATION MARK;bEM DASH;bLEFT PARENTHESIS"),
  (0xFE5A, "aSMALL RIGHT PARENTHESIS;bLEFT CURLY BRACKET;bRIGHT CURLY BRACKET"),
  (0xFE5D, "aSMALL LEFT TORTOISE SHELL BRACKET;bRIGHT TORTOISE SHELL BRACKET;bNUMBER SIGN"),
  (0xFE60, "aSMALL AMPERSAND;bASTERISK;bPLUS SIGN;bHYPHEN-MINUS;bLESS-THAN SIGN"),
  (0xFE65, "aSMALL GREATER-THAN SIGN;bEQUALS SIGN"),
  (0xFE68, "aSMALL REVERSE SOLIDUS;bDOLLAR SIGN;bPERCENT SIGN;bCOMMERCIAL AT"),
  (0xFE70, "aARABIC FATHATAN ISOLATED FORM;bTATWEEL WITH FATHATAN ABOVE;bDAMMATAN ISOLATED FORM"),
  (0xFE73, "aARABIC TAIL FRAGMENT;bKASRATAN ISOLATED FORM"),
  (0xFE76, "aARABIC FATHA ISOLATED FORM;cMEDIAL FORM;bDAMMA ISOLATED FORM;cMEDIAL FORM"),
  (0xFE7A, "aARABIC KASRA ISOLATED FORM;cMEDIAL FORM;bSHADDA ISOLATED FORM;cMEDIAL FORM"),
  (0xFE7E, "aARABIC SUKUN ISOLATED FORM;cMEDIAL FORM;bLETTER HAMZA ISOLATED FORM"),
  (0xFE81, "aARABIC LETTER ALEF WITH MADDA ABOVE ISOLATED FORM;gFINAL FORM"),
  (0xFE83, "aARABIC LETTER ALEF WITH HAMZA ABOVE ISOLATED FORM;gFINAL FORM"),
  (0xFE85, "aARABIC LETTER WAW WITH HAMZA ABOVE ISOLATED FORM;gFINAL FORM"),
  (0xFE87, "aARABIC LETTER ALEF WITH HAMZA BELOW ISOLATED FORM;gFINAL FORM"),
  (0xFE89, "aARABIC LETTER YEH WITH HAMZA ABOVE ISOLATED FORM;gFINAL FORM;gINITIAL FORM"),
  (0xFE8C, "aARABIC LETTER YEH WITH HAMZA ABOVE MEDIAL FORM;cALEF ISOLATED FORM;dFINAL FORM"),
  (0xFE8F, "aARABIC LETTER BEH ISOLATED FORM;dFINAL FORM;dINITIAL FORM;dMEDIAL FORM"),
  (0xFE93, "aARABIC LETTER TEH MARBUTA ISOLATED FORM;eFINAL FORM;dISOLATED FORM;dFINAL FORM"),
  (0xFE97, "aARABIC LETTER TEH INITIAL FORM;dMEDIAL FORM;cTHEH ISOLATED FORM;dFINAL FORM"),
  (0xFE9B, "aARABIC LETTER THEH INITIAL FORM;dMEDIAL FORM;cJEEM ISOLATED FORM;dFINAL FORM"),
  (0xFE9F, "aARABIC LETTER JEEM INITIAL FORM;dMEDIAL FORM;cHAH ISOLATED FORM;dFINAL FORM"),
  (0xFEA3, "aARABIC LETTER HAH INITIAL FORM;dMEDIAL FORM;cKHAH ISOLATED FORM;dFINAL FORM"),
  (0xFEA7, "aARABIC LETTER KHAH INITIAL FORM;dMEDIAL FORM;cDAL ISOLATED FORM;dFINAL FORM"),
  (0xFEAB, "aARABIC LETTER THAL ISOLATED FORM;dFINAL FORM;cREH ISOLATED FORM;dFINAL FORM"),
  (0xFEAF, "aARABIC LETTER ZAIN ISOLATED FORM;dFINAL FORM;cSEEN ISOLATED FORM;dFINAL FORM"),
  (0xFEB3, "aARABIC LETTER SEEN INITIAL FORM;dMEDIAL FORM;cSHEEN ISOLATED FORM;dFINAL FORM"),
  (0xFEB7, "aARABIC LETTER SHEEN INITIAL FORM;dMEDIAL FORM;cSAD ISOLATED FORM;dFINAL FORM"),
  (0xFEBB, "aARABIC LETTER SAD INITIAL FORM;dMEDIAL FORM;cDAD ISOLATED FORM;dFINAL FORM"),
  (0xFEBF, "aARABIC LETTER DAD INITIAL FORM;dMEDIAL FORM;cTAH ISOLATED FORM;dFINAL FORM"),
  (0xFEC3, "aARABIC LETTER TAH INITIAL FORM;dMEDIAL FORM;cZAH ISOLATED FORM;dFINAL FORM"),
  (0xFEC7, "aARABIC LETTER ZAH INITIAL FORM;dMEDIAL FORM;cAIN ISOLATED FORM;dFINAL FORM"),
  (0xFECB, "aARABIC LETTER AIN INITIAL FORM;dMEDIAL FORM;cGHAIN ISOLATED FORM;dFINAL FORM"),
  (0xFECF, "aARABIC LETTER GHAIN INITIAL FORM;dMEDIAL FORM;cFEH ISOLATED FORM;dFINAL FORM"),
  (0xFED3, "aARABIC LETTER FEH INITIAL FORM;dMEDIAL FORM;cQAF ISOLATED FORM;dFINAL FORM"),
  (0xFED7, "aARABIC LETTER QAF INITIAL FORM;dMEDIAL FORM;cKAF ISOLATED FORM;dFINAL FORM"),
  (0xFEDB, "aARABIC LETTER KAF INITIAL FORM;dMEDIAL FORM;cLAM ISOLATED FORM;dFINAL FORM"),
  (0xFEDF, "aARABIC LETTER LAM INITIAL FORM;dMEDIAL FORM;cMEEM ISOLATED FORM;dFINAL FORM"),
  (0xFEE3, "aARABIC LETTER MEEM INITIAL FORM;dMEDIAL FORM;cNOON ISOLATED FORM;dFINAL FORM"),
  (0xFEE7, "aARABIC LETTER NOON INITIAL FORM;dMEDIAL FORM;cHEH ISOLATED FORM;dFINAL FORM"),
  (0xFEEB, "aARABIC LETTER HEH INITIAL FORM;dMEDIAL FORM;cWAW ISOLATED FORM;dFINAL FORM"),
  (0xFEEF, "aARABIC LETTER ALEF MAKSURA ISOLATED FORM;eFINAL FORM;cYEH ISOLATED FORM;dFINAL FORM"),
  (0xFEF3, "aARABIC LETTER YEH INITIAL FORM;dMEDIAL FORM"),
  (0xFEF5, "aARABIC LIGATURE LAM WITH ALEF WITH MADDA ABOVE ISOLATED FORM;iFINAL FORM"),
  (0xFEF7, "aARABIC LIGATURE LAM WITH ALEF WITH HAMZA ABOVE ISOLATED FORM;iFINAL FORM"),
  (0xFEF9, "aARABIC LIGATURE LAM WITH ALEF WITH HAMZA BELOW ISOLATED FORM;iFINAL FORM"),
  (0xFEFB, "aARABIC LIGATURE LAM WITH ALEF ISOLATED FORM;fFINAL FORM"),
  (0xFEFF, "aZERO WIDTH NO-BREAK SPACE"),
  (0xFF01, "aFULLWIDTH EXCLAMATION MARK;bQUOTATION MARK;bNUMBER SIGN;bDOLLAR SIGN;bPERCENT SIGN"),
  (0xFF06, "aFULLWIDTH AMPERSAND;bAPOSTROPHE;bLEFT PARENTHESIS;bRIGHT PARENTHESIS;bASTERISK"),
  (0xFF0B, "aFULLWIDTH PLUS SIGN;bCOMMA;bHYPHEN-MINUS;bFULL STOP;bSOLIDUS;bDIGIT ZERO;cONE;cTWO"),
  (0xFF13, "aFULLWIDTH DIGIT THREE;cFOUR;cFIVE;cSIX;cSEVEN;cEIGHT;cNINE;bCOLON;bSEMICOLON"),
  (0xFF1C, "aFULLWIDTH LESS-THAN SIGN;bEQUALS SIGN;bGREATER-THAN SIGN;bQUESTION MARK"),
  (0xFF20, "aFULLWIDTH COMMERCIAL AT;bLATIN CAPITAL LETTER A;eB;eC;eD;eE;eF;eG;eH;eI;eJ;eK;eL;eM"),
  (0xFF2E, "aFULLWIDTH LATIN CAPITAL LETTER N;eO;eP;eQ;eR;eS;eT;eU;eV;eW;eX;eY;eZ"),
  (0xFF3B, "aFULLWIDTH LEFT SQUARE BRACKET;bREVERSE SOLIDUS;bRIGHT SQUARE BRACKET"),
  (0xFF3E, "aFULLWIDTH CIRCUMFLEX ACCENT;bLOW LINE;bGRAVE ACCENT;bLATIN SMALL LETTER A;eB;eC;eD"),
  (0xFF45, "aFULLWIDTH LATIN SMALL LETTER E;eF;eG;eH;eI;eJ;eK;eL;eM;eN;eO;eP;eQ;eR;eS;eT;eU;eV;eW"),
  (0xFF58, "aFULLWIDTH LATIN SMALL LETTER X;eY;eZ;bLEFT CURLY BRACKET;bVERTICAL LINE"),
  (0xFF5D, "aFULLWIDTH RIGHT CURLY BRACKET;bTILDE;bLEFT WHITE PARENTHESIS"),
  (0xFF60, "aFULLWIDTH RIGHT WHITE PARENTHESIS;aHALFWIDTH IDEOGRAPHIC FULL STOP"),
  (0xFF62, "aHALFWIDTH LEFT CORNER BRACKET;bRIGHT CORNER BRACKET;bIDEOGRAPHIC COMMA"),
  (0xFF65, "aHALFWIDTH KATAKANA MIDDLE DOT;cLETTER WO;dSMALL A;eI;eU;eE;eO;eYA;eYU;eYO;eTU"),
  (0xFF70, "aHALFWIDTH KATAKANA-HIRAGANA PROLONGED SOUND MARK;bKATAKANA LETTER A;dI;dU;dE;dO;dKA"),
  (0xFF77, "aHALFWIDTH KATAKANA LETTER KI;dKU;dKE;dKO;dSA;dSI;dSU;dSE;dSO;dTA;dTI;dTU;dTE;dTO;dNA"),
  (0xFF86, "aHALFWIDTH KATAKANA LETTER NI;dNU;dNE;dNO;dHA;dHI;dHU;dHE;dHO;dMA;dMI;dMU;dME;dMO;dYA"),
  (0xFF95, "aHALFWIDTH KATAKANA LETTER YU;dYO;dRA;dRI;dRU;dRE;dRO;dWA;dN;cVOICED SOUND MARK"),
  (0xFF9F, "aHALFWIDTH KATAKANA SEMI-VOICED SOUND MARK;bHANGUL FILLER;cLETTER KIYEOK;dSSANGKIYEOK"),
  (0xFFA3, "aHALFWIDTH HANGUL LETTER KIYEOK-SIOS;dNIEUN;dNIEUN-CIEUC;dNIEUN-HIEUH;dTIKEUT"),
  (0xFFA8, "aHALFWIDTH HANGUL LETTER SSANGTIKEUT;dRIEUL;dRIEUL-KIYEOK;dRIEUL-MIEUM;dRIEUL-PIEUP"),
  (0xFFAD, "aHALFWIDTH HANGUL LETTER RIEUL-SIOS;dRIEUL-THIEUTH;dRIEUL-PHIEUPH;dRIEUL-HIEUH;dMIEUM"),
  (0xFFB2, "aHALFWIDTH HANGUL LETTER PIEUP;dSSANGPIEUP;dPIEUP-SIOS;dSIOS;dSSANGSIOS;dIEUNG;dCIEUC"),
  (0xFFB9, "aHALFWIDTH HANGUL LETTER SSANGCIEUC;dCHIEUCH;dKHIEUKH;dTHIEUTH;dPHIEUPH;dHIEUH"),
  (0xFFC2, "aHALFWIDTH HANGUL LETTER A;dAE;dYA;dYAE;dEO;dE"),
  (0xFFCA, "aHALFWIDTH HANGUL LETTER YEO;dYE;dO;dWA;dWAE;dOE"),
  (0xFFD2, "aHALFWIDTH HANGUL LETTER YO;dU;dWEO;dWE;dWI;dYU"),
  (0xFFDA, "aHALFWIDTH HANGUL LETTER EU;dYI;dI"),
  (0xFFE0, "aFULLWIDTH CENT SIGN;bPOUND SIGN;bNOT SIGN;bMACRON;bBROKEN BAR;bYEN SIGN;bWON SIGN"),
  (0xFFE8, "aHALFWIDTH FORMS LIGHT VERTICAL;bLEFTWARDS ARROW;bUPWARDS ARROW;bRIGHTWARDS ARROW"),
  (0xFFEC, "aHALFWIDTH DOWNWARDS ARROW;bBLACK SQUARE;bWHITE CIRCLE"),
  (0xFFF9, "aINTERLINEAR ANNOTATION ANCHOR;cSEPARATOR;cTERMINATOR;aOBJECT REPLACEMENT CHARACTER"),
  (0xFFFD, "aREPLACEMENT CHARACTER"),
  (0x10000, "aLINEAR B SYLLABLE B008 A;dB038 E;dB028 I;dB061 O;dB010 U;dB001 DA;dB045 DE;dB007 DI"),
  (0x10008, "aLINEAR B SYLLABLE B014 DO;dB051 DU;dB057 JA;dB046 JE"),
  (0x1000D, "aLINEAR B SYLLABLE B036 JO;dB065 JU;dB077 KA;dB044 KE;dB067 KI;dB070 KO;dB081 KU"),
  (0x10014, "aLINEAR B SYLLABLE B080 MA;dB013 ME;dB073 MI;dB015 MO;dB023 MU;dB006 NA;dB024 NE"),
  (0x1001B, "aLINEAR B SYLLABLE B030 NI;dB052 NO;dB055 NU;dB003 PA;dB072 PE;dB039 PI;dB011 PO"),
  (0x10022, "aLINEAR B SYLLABLE B050 PU;dB016 QA;dB078 QE;dB021 QI;dB032 QO"),
  (0x10028, "aLINEAR B SYLLABLE B060 RA;dB027 RE;dB053 RI;dB002 RO;dB026 RU;dB031 SA;dB009 SE"),
  (0x1002F, "aLINEAR B SYLLABLE B041 SI;dB012 SO;dB058 SU;dB059 TA;dB004 TE;dB037 TI;dB005 TO"),
  (0x10036, "aLINEAR B SYLLABLE B069 TU;dB054 WA;dB075 WE;dB040 WI;dB042 WO"),
  (0x1003C, "aLINEAR B SYLLABLE B017 ZA;dB074 ZE"),
  (0x1003F, "aLINEAR B SYLLABLE B020 ZO;dB025 A2;dB043 A3;dB085 AU;dB071 DWE;dB090 DWO;dB048 NWA"),
  (0x10046, "aLINEAR B SYLLABLE B029 PU2;dB062 PTE;dB076 RA2;dB033 RA3;dB068 RO2;dB066 TA2"),
  (0x1004C, "aLINEAR B SYLLABLE B087 TWE;dB091 TWO"),
  (0x10050, "aLINEAR B SYMBOL B018;dB019;dB022;dB034;dB047;dB049;dB056;dB063;dB064;dB079;dB082"),
  (0x1005B, "aLINEAR B SYMBOL B083;dB086;dB089"),
  (0x10080, "aLINEAR B IDEOGRAM B100 MAN;dB102 WOMAN;dB104 DEER;dB105 EQUID;dB105F MARE"),
  (0x10085, "aLINEAR B IDEOGRAM B105M STALLION;dB106F EWE;dB106M RAM;dB107F SHE-GOAT"),
  (0x10089, "aLINEAR B IDEOGRAM B107M HE-GOAT;dB108F SOW;dB108M BOAR;dB109F COW;dB109M BULL"),
  (0x1008E, "aLINEAR B IDEOGRAM B120 WHEAT;dB121 BARLEY;dB122 OLIVE;dB123 SPICE;dB125 CYPERUS"),
  (0x10093, "aLINEAR B MONOGRAM B127 KAPO;dB128 KANAKO;cIDEOGRAM B130 OIL;dB131 WINE;dB132"),
  (0x10098, "aLINEAR B MONOGRAM B133 AREPA;dB135 MERI;cIDEOGRAM B140 BRONZE;dB141 GOLD;dB142"),
  (0x1009D, "aLINEAR B IDEOGRAM B145 WOOL;dB146;dB150;dB151 HORN;dB152;dB153;dB154"),
  (0x100A4, "aLINEAR B MONOGRAM B156 TURO2;cIDEOGRAM B157;dB158;dB159 CLOTH;dB160;dB161"),
  (0x100AA, "aLINEAR B IDEOGRAM B162 GARMENT;dB163 ARMOUR;dB164;dB165;dB166;dB167;dB168;dB169"),
  (0x100B2, "aLINEAR B IDEOGRAM B170;dB171;dB172;dB173 MONTH;dB174;dB176 TREE;dB177;dB178;dB179"),
  (0x100BB, "aLINEAR B IDEOGRAM B180;dB181;dB182;dB183;dB184;dB185;dB189;dB190;dB191 HELMET"),
  (0x100C4, "aLINEAR B IDEOGRAM B220 FOOTSTOOL;dB225 BATHTUB;dB230 SPEAR;dB231 ARROW;dB232"),
  (0x100C9, "aLINEAR B IDEOGRAM B233 SWORD;dB234;dB236;dB240 WHEELED CHARIOT;dB241 CHARIOT"),
  (0x100CE, "aLINEAR B IDEOGRAM B242 CHARIOT FRAME;dB243 WHEEL;dB245;dB246;cMONOGRAM B247 DIPTE"),
  (0x100D3, "aLINEAR B IDEOGRAM B248;dB249;dB251;dB252;dB253;dB254 DART;dB255;dB256;dB257;dB258"),
  (0x100DD, "aLINEAR B IDEOGRAM B259;dVESSEL B155;eB200;eB201;eB202;eB203;eB204;eB205;eB206;eB207"),
  (0x100E7, "aLINEAR B IDEOGRAM VESSEL B208;eB209;eB210;eB211;eB212;eB213;eB214;eB215;eB216;eB217"),
  (0x100F1, "aLINEAR B IDEOGRAM VESSEL B218;eB219;eB221;eB222;eB226;eB227;eB228;eB229;eB250;eB305"),
  (0x10100, "aAEGEAN WORD SEPARATOR LINE;dDOT;bCHECK MARK"),
  (0x10107, "aAEGEAN NUMBER ONE;cTWO;cTHREE;cFOUR;cFIVE;cSIX;cSEVEN;cEIGHT;cNINE;cTEN;cTWENTY"),
  (0x10112, "aAEGEAN NUMBER THIRTY;cFORTY;cFIFTY;cSIXTY;cSEVENTY;cEIGHTY;cNINETY;cONE HUNDRED"),
  (0x1011A, "aAEGEAN NUMBER TWO HUNDRED;cTHREE HUNDRED;cFOUR HUNDRED;cFIVE HUNDRED;cSIX HUNDRED"),
  (0x1011F, "aAEGEAN NUMBER SEVEN HUNDRED;cEIGHT HUNDRED;cNINE HUNDRED;cONE THOUSAND"),
  (0x10123, "aAEGEAN NUMBER TWO THOUSAND;cTHREE THOUSAND;cFOUR THOUSAND;cFIVE THOUSAND"),
  (0x10127, "aAEGEAN NUMBER SIX THOUSAND;cSEVEN THOUSAND;cEIGHT THOUSAND;cNINE THOUSAND"),
  (0x1012B, "aAEGEAN NUMBER TEN THOUSAND;cTWENTY THOUSAND;cTHIRTY THOUSAND;cFORTY THOUSAND"),
  (0x1012F, "aAEGEAN NUMBER FIFTY THOUSAND;cSIXTY THOUSAND;cSEVENTY THOUSAND;cEIGHTY THOUSAND"),
  (0x10133, "aAEGEAN NUMBER NINETY THOUSAND"),
  (0x10137, "aAEGEAN WEIGHT BASE UNIT;cFIRST SUBUNIT;cSECOND SUBUNIT;cTHIRD SUBUNIT"),
  (0x1013B, "aAEGEAN WEIGHT FOURTH SUBUNIT;bDRY MEASURE FIRST SUBUNIT"),
  (0x1013D, "aAEGEAN LIQUID MEASURE FIRST SUBUNIT;bMEASURE SECOND SUBUNIT;cTHIRD SUBUNIT"),
  (0x10140, "aGREEK ACROPHONIC ATTIC ONE QUARTER;eHALF;eDRACHMA;dFIVE;dFIFTY;dFIVE HUNDRED"),
  (0x10146, "aGREEK ACROPHONIC ATTIC FIVE THOUSAND;dFIFTY THOUSAND;dFIVE TALENTS;dTEN TALENTS"),
  (0x1014A, "aGREEK ACROPHONIC ATTIC FIFTY TALENTS;dONE HUNDRED TALENTS;dFIVE HUNDRED TALENTS"),
  (0x1014D, "aGREEK ACROPHONIC ATTIC ONE THOUSAND TALENTS;dFIVE THOUSAND TALENTS;eSTATERS"),
  (0x10150, "aGREEK ACROPHONIC ATTIC TEN STATERS;dFIFTY STATERS;dONE HUNDRED STATERS"),
  (0x10153, "aGREEK ACROPHONIC ATTIC FIVE HUNDRED STATERS;dONE THOUSAND STATERS"),
  (0x10155, "aGREEK ACROPHONIC ATTIC TEN THOUSAND STATERS;dFIFTY THOUSAND STATERS;dTEN MNAS"),
  (0x10158, "aGREEK ACROPHONIC HERAEUM ONE PLETHRON;cTHESPIAN ONE;cHERMIONIAN ONE;cEPIDAUREAN TWO"),
  (0x1015C, "aGREEK ACROPHONIC THESPIAN TWO;cCYRENAIC TWO DRACHMAS;cEPIDAUREAN TWO DRACHMAS"),
  (0x1015F, "aGREEK ACROPHONIC TROEZENIAN FIVE;dTEN;eALTERNATE FORM;cHERMIONIAN TEN"),
  (0x10163, "aGREEK ACROPHONIC MESSENIAN TEN;cTHESPIAN TEN;dTHIRTY;cTROEZENIAN FIFTY"),
  (0x10167, "aGREEK ACROPHONIC TROEZENIAN FIFTY ALTERNATE FORM;cHERMIONIAN FIFTY;cTHESPIAN FIFTY"),
  (0x1016A, "aGREEK ACROPHONIC THESPIAN ONE HUNDRED;dTHREE HUNDRED;cEPIDAUREAN FIVE HUNDRED"),
  (0x1016D, "aGREEK ACROPHONIC TROEZENIAN FIVE HUNDRED;cTHESPIAN FIVE HUNDRED"),
  (0x1016F, "aGREEK ACROPHONIC CARYSTIAN FIVE HUNDRED;cNAXIAN FIVE HUNDRED;cTHESPIAN ONE THOUSAND"),
  (0x10172, "aGREEK ACROPHONIC THESPIAN FIVE THOUSAND;cDELPHIC FIVE MNAS;cSTRATIAN FIFTY MNAS"),
  (0x10175, "aGREEK ONE HALF SIGN;eALTERNATE FORM;bTWO THIRDS SIGN;bTHREE QUARTERS SIGN"),
  (0x10179, "aGREEK YEAR SIGN;bTALENT SIGN;bDRACHMA SIGN;bOBOL SIGN;bTWO OBOLS SIGN"),
  (0x1017E, "aGREEK THREE OBOLS SIGN;bFOUR OBOLS SIGN;bFIVE OBOLS SIGN;bMETRETES SIGN")]

/-- The lines of names from U+10182 on. -/
def namesFrom10182 : List (Nat × String) := [
  (0x10182, "aGREEK KYATHOS BASE SIGN;bLITRA SIGN;bOUNKIA SIGN;bXESTES SIGN;bARTABE SIGN"),
  (0x10187, "aGREEK AROURA SIGN;bGRAMMA SIGN;bTRYBLION BASE SIGN;bZERO SIGN;bONE QUARTER SIGN"),
  (0x1018C, "aGREEK SINUSOID SIGN;bINDICTION SIGN;aNOMISMA SIGN"),
  (0x10190, "aROMAN SEXTANS SIGN;bUNCIA SIGN;bSEMUNCIA SIGN;bSEXTULA SIGN;bDIMIDIA SEXTULA SIGN"),
  (0x10195, "aROMAN SILIQUA SIGN;bDENARIUS SIGN;bQUINARIUS SIGN;bSESTERTIUS SIGN;bDUPONDIUS SIGN"),
  (0x1019A, "aROMAN AS SIGN;bCENTURIAL SIGN;aASCIA SYMBOL"),
  (0x101A0, "aGREEK SYMBOL TAU RHO"),
  (0x101D0, "aPHAISTOS DISC SIGN PEDESTRIAN;dPLUMED HEAD;dTATTOOED HEAD;dCAPTIVE;dCHILD;dWOMAN"),
  (0x101D6, "aPHAISTOS DISC SIGN HELMET;dGAUNTLET;dTIARA;dARROW;dBOW;dSHIELD;dCLUB;dMANACLES"),
  (0x101DE, "aPHAISTOS DISC SIGN MATTOCK;dSAW;dLID;dBOOMERANG;dCARPENTRY PLANE;dDOLIUM;dCOMB"),
  (0x101E5, "aPHAISTOS DISC SIGN SLING;dCOLUMN;dBEEHIVE;dSHIP;dHORN;dHIDE;dBULLS LEG;dCAT;dRAM"),
  (0x101EE, "aPHAISTOS DISC SIGN EAGLE;dDOVE;dTUNNY;dBEE;dPLANE TREE;dVINE;dPAPYRUS;dROSETTE"),
  (0x101F6, "aPHAISTOS DISC SIGN LILY;dOX BACK;dFLUTE;dGRATER;dSTRAINER;dSMALL AXE;dWAVY BAND"),
  (0x101FD, "aPHAISTOS DISC SIGN COMBINING OBLIQUE STROKE"),
  (0x10280, "aLYCIAN LETTER A;cE;cB;cBH;cG;cD;cI;cW;cZ;cTH;cJ;cK;cQ;cL;cM;cN;cMM;cNN;cU;cP;cKK;cR"),
  (0x10296, "aLYCIAN LETTER S;cT;cTT;cAN;cEN;cH;cX"),
  (0x102A0, "aCARIAN LETTER A;cP2;cD;cL;cUUU;cR;cLD;cA2;cQ;cB;cM;cO;cD2;cT;cSH;cSH2;cS;cC-18;cU"),
  (0x102B3, "aCARIAN LETTER NN;cX;cN;cTT2;cP;cSS;cI;cE;cUUUU;cK;cK2;cND;cUU;cG;cG2;cST;cST2;cNG"),
  (0x102C5, "aCARIAN LETTER II;cC-39;cTT;cUUU2;cRR;cMB;cMB2;cMB3;cMB4;cLD2;cE2;cUUU3"),
  (0x102E0, "aCOPTIC EPACT THOUSANDS MARK;cDIGIT ONE;dTWO;dTHREE;dFOUR;dFIVE;dSIX;dSEVEN;dEIGHT"),
  (0x102E9, "aCOPTIC EPACT DIGIT NINE;cNUMBER TEN;dTWENTY;dTHIRTY;dFORTY;dFIFTY;dSIXTY;dSEVENTY"),
  (0x102F1, "aCOPTIC EPACT NUMBER EIGHTY;dNINETY;dONE HUNDRED;dTWO HUNDRED;dTHREE HUNDRED"),
  (0x102F6, "aCOPTIC EPACT NUMBER FOUR HUNDRED;dFIVE HUNDRED;dSIX HUNDRED;dSEVEN HUNDRED"),
  (0x102FA, "aCOPTIC EPACT NUMBER EIGHT HUNDRED;dNINE HUNDRED"),
  (0x10300, "aOLD ITALIC LETTER A;dBE;dKE;dDE;dE;dVE;dZE;dHE;dTHE;dI;dKA;dEL;dEM;dEN;dESH;dO;dPE"),
  (0x10311, "aOLD ITALIC LETTER SHE;dKU;dER;dES;dTE;dU;dEKS;dPHE;dKHE;dEF;dERS;dCHE;dII;dUU;dESS"),
  (0x10320, "aOLD ITALIC NUMERAL ONE;dFIVE;dTEN;dFIFTY"),
  (0x1032D, "aOLD ITALIC LETTER YE;dNORTHERN TSE;dSOUTHERN TSE;aGOTHIC LETTER AHSA;cBAIRKAN;cGIBA"),
  (0x10333, "aGOTHIC LETTER DAGS;cAIHVUS;cQAIRTHRA;cIUJA;cHAGL;cTHIUTH;cEIS;cKUSMA;cLAGUS;cMANNA"),
  (0x1033D, "aGOTHIC LETTER NAUTHS;cJER;cURUS;cPAIRTHRA;cNINETY;cRAIDA;cSAUIL;cTEIWS;cWINJA"),
  (0x10346, "aGOTHIC LETTER FAIHU;cIGGWS;cHWAIR;cOTHAL;cNINE HUNDRED"),
  (0x10350, "aOLD PERMIC LETTER AN;dBUR;dGAI;dDOI;dE;dZHOI;dDZHOI;dZATA;dDZITA;dI;dKOKE;dLEI"),
  (0x1035C, "aOLD PERMIC LETTER MENOE;dNENOE;dVOOI;dPEEI;dREI;dSII;dTAI;dU;dCHERY;dSHOOI;dSHCHOOI"),
  (0x10367, "aOLD PERMIC LETTER YRY;dYERU;dO;dOO;dEF;dHA;dTSIU;dVER;dYER;dYERI;dYAT;dIE;dYU;dYA"),
  (0x10375, "aOLD PERMIC LETTER IA;aCOMBINING OLD PERMIC LETTER AN;eDOI;eZATA;eNENOE;eSII"),
  (0x10380, "aUGARITIC LETTER ALPA;cBETA;cGAMLA;cKHA;cDELTA;cHO;cWO;cZETA;cHOTA;cTET;cYOD;cKAF"),
  (0x1038C, "aUGARITIC LETTER SHIN;cLAMDA;cMEM;cDHAL;cNUN;cZU;cSAMKA;cAIN;cPU;cSADE;cQOPA;cRASHA"),
  (0x10398, "aUGARITIC LETTER THANNA;cGHAIN;cTO;cI;cU;cSSU"),
  (0x1039F, "aUGARITIC WORD DIVIDER;aOLD PERSIAN SIGN A;dI;dU;dKA;dKU;dGA;dGU;dXA;dCA;dJA;dJI;dTA"),
  (0x103AC, "aOLD PERSIAN SIGN TU;dDA;dDI;dDU;dTHA;dPA;dBA;dFA;dNA;dNU;dMA;dMI;dMU;dYA;dVA;dVI"),
  (0x103BC, "aOLD PERSIAN SIGN RA;dRU;dLA;dSA;dZA;dSHA;dSSA;dHA"),
  (0x103C8, "aOLD PERSIAN SIGN AURAMAZDAA;dAURAMAZDAA-2;dAURAMAZDAAHA;dXSHAAYATHIYA;dDAHYAAUSH"),
  (0x103CD, "aOLD PERSIAN SIGN DAHYAAUSH-2;dBAGA;dBUUMISH;cWORD DIVIDER;cNUMBER ONE;dTWO;dTEN"),
  (0x103D4, "aOLD PERSIAN NUMBER TWENTY;dHUNDRED"),
  (0x10400, "aDESERET CAPITAL LETTER LONG I;eE;eA;eAH;eO;eOO;dSHORT I;eE;eA;eAH;eO;eOO;dAY;dOW"),
  (0x1040E, "aDESERET CAPITAL LETTER WU;dYEE;dH;dPEE;dBEE;dTEE;dDEE;dCHEE;dJEE;dKAY;dGAY;dEF;dVEE"),
  (0x1041B, "aDESERET CAPITAL LETTER ETH;dTHEE;dES;dZEE;dESH;dZHEE;dER;dEL;dEM;dEN;dENG;dOI;dEW"),
  (0x10428, "aDESERET SMALL LETTER LONG I;eE;eA;eAH;eO;eOO;dSHORT I;eE;eA;eAH;eO;eOO;dAY;dOW;dWU"),
  (0x10437, "aDESERET SMALL LETTER YEE;dH;dPEE;dBEE;dTEE;dDEE;dCHEE;dJEE;dKAY;dGAY;dEF;dVEE;dETH"),
  (0x10444, "aDESERET SMALL LETTER THEE;dES;dZEE;dESH;dZHEE;dER;dEL;dEM;dEN;dENG;dOI;dEW"),
  (0x10450, "aSHAVIAN LETTER PEEP;cTOT;cKICK;cFEE;cTHIGH;cSO;cSURE;cCHURCH;cYEA;cHUNG;cBIB;cDEAD"),
  (0x1045C, "aSHAVIAN LETTER GAG;cVOW;cTHEY;cZOO;cMEASURE;cJUDGE;cWOE;cHA-HA;cLOLL;cMIME;cIF;cEGG"),
  (0x10468, "aSHAVIAN LETTER ASH;cADO;cON;cWOOL;cOUT;cAH;cROAR;cNUN;cEAT;cAGE;cICE;cUP;cOAK;cOOZE"),
  (0x10476, "aSHAVIAN LETTER OIL;cAWE;cARE;cOR;cAIR;cERR;cARRAY;cEAR;cIAN;cYEW"),
  (0x10480, "aOSMANYA LETTER ALEF;cBA;cTA;cJA;cXA;cKHA;cDEEL;cRA;cSA;cSHIIN;cDHA;cCAYN;cGA;cFA"),
  (0x1048E, "aOSMANYA LETTER QAAF;cKAAF;cLAAN;cMIIN;cNUUN;cWAW;cHA;cYA;cA;cE;cI;cO;cU;cAA;cEE;cOO"),
  (0x104A0, "aOSMANYA DIGIT ZERO;cONE;cTWO;cTHREE;cFOUR;cFIVE;cSIX;cSEVEN;cEIGHT;cNINE"),
  (0x104B0, "aOSAGE CAPITAL LETTER A;dAI;dAIN;dAH;dBRA;dCHA;dEHCHA;dE;dEIN;dHA;dHYA;dI;dKA;dEHKA"),
  (0x104BE, "aOSAGE CAPITAL LETTER KYA;dLA;dMA;dNA;dO;dOIN;dPA;dEHPA;dSA;dSHA;dTA;dEHTA;dTSA"),
  (0x104CB, "aOSAGE CAPITAL LETTER EHTSA;dTSHA;dDHA;dU;dWA;dKHA;dGHA;dZA;dZHA"),
  (0x104D8, "aOSAGE SMALL LETTER A;dAI;dAIN;dAH;dBRA;dCHA;dEHCHA;dE;dEIN;dHA;dHYA;dI;dKA;dEHKA"),
  (0x104E6, "aOSAGE SMALL LETTER KYA;dLA;dMA;dNA;dO;dOIN;dPA;dEHPA;dSA;dSHA;dTA;dEHTA;dTSA;dEHTSA"),
  (0x104F4, "aOSAGE SMALL LETTER TSHA;dDHA;dU;dWA;dKHA;dGHA;dZA;dZHA"),
  (0x10500, "aELBASAN LETTER A;cBE;cCE;cCHE;cDE;cNDE;cDHE;cEI;cE;cFE;cGE;cGJE;cHE;cI;cJE;cKE;cLE"),
  (0x10511, "aELBASAN LETTER LLE;cME;cNE;cNA;cNJE;cO;cPE;cQE;cRE;cRRE;cSE;cSHE;cTE;cTHE;cU;cVE"),
  (0x10521, "aELBASAN LETTER XE;cY;cZE;cZHE;cGHE;cGHAMMA;cKHE"),
  (0x10530, "aCAUCASIAN ALBANIAN LETTER ALT;dBET;dGIM;dDAT;dEB;dZARL;dEYN;dZHIL;dTAS;dCHA;dYOWD"),
  (0x1053B, "aCAUCASIAN ALBANIAN LETTER ZHA;dIRB;dSHA;dLAN;dINYA;dXEYN;dDYAN;dCAR;dJHOX;dKAR"),
  (0x10545, "aCAUCASIAN ALBANIAN LETTER LYIT;dHEYT;dQAY;dAOR;dCHOY;dCHI;dCYAY;dMAQ;dQAR;dNOWC"),
  (0x1054F, "aCAUCASIAN ALBANIAN LETTER DZYAY;dSHAK;dJAYN;dON;dTYAY;dFAM;dDZAY;dCHAT;dPEN;dGHEYS"),
  (0x10559, "aCAUCASIAN ALBANIAN LETTER RAT;dSEYK;dVEYZ;dTIWR;dSHOY;dIWN;dCYAW;dCAYN;dYAYD;dPIWR"),
  (0x10563, "aCAUCASIAN ALBANIAN LETTER KIW"),
  (0x1056F, "aCAUCASIAN ALBANIAN CITATION MARK;aVITHKUQI CAPITAL LETTER A;dBBE;dBE;dCE;dCHE;dDE"),
  (0x10576, "aVITHKUQI CAPITAL LETTER DHE;dEI;dE;dFE;dGA"),
  (0x1057C, "aVITHKUQI CAPITAL LETTER HA;dHHA;dI;dIJE;dJE;dKA;dLA;dLLA;dME;dNE;dNJE;dO;dPE;dQA"),
  (0x1058A, "aVITHKUQI CAPITAL LETTER RE"),
  (0x1058C, "aVITHKUQI CAPITAL LETTER SE;dSHE;dTE;dTHE;dU;dVE;dXE"),
  (0x10594, "aVITHKUQI CAPITAL LETTER Y;dZE"),
  (0x10597, "aVITHKUQI SMALL LETTER A;dBBE;dBE;dCE;dCHE;dDE;dDHE;dEI;dE;dFE;dGA"),
  (0x105A3, "aVITHKUQI SMALL LETTER HA;dHHA;dI;dIJE;dJE;dKA;dLA;dLLA;dME;dNE;dNJE;dO;dPE;dQA;dRE"),
  (0x105B3, "aVITHKUQI SMALL LETTER SE;dSHE;dTE;dTHE;dU;dVE;dXE"),
  (0x105BB, "aVITHKUQI SMALL LETTER Y;dZE"),
  (0x10600, "aLINEAR A SIGN AB001;dAB002;dAB003;dAB004;dAB005;dAB006;dAB007;dAB008;dAB009;dAB010"),
  (0x1060A, "aLINEAR A SIGN AB011;dAB013;dAB016;dAB017;dAB020;dAB021;dAB021F;dAB021M;dAB022"),
  (0x10613, "aLINEAR A SIGN AB022F;dAB022M;dAB023;dAB023M;dAB024;dAB026;dAB027;dAB028;dA028B"),
  (0x1061C, "aLINEAR A SIGN AB029;dAB030;dAB031;dAB034;dAB037;dAB038;dAB039;dAB040;dAB041;dAB044"),
  (0x10626, "aLINEAR A SIGN AB045;dAB046;dAB047;dAB048;dAB049;dAB050;dAB051;dAB053;dAB054;dAB055"),
  (0x10630, "aLINEAR A SIGN AB056;dAB057;dAB058;dAB059;dAB060;dAB061;dAB065;dAB066;dAB067;dAB069"),
  (0x1063A, "aLINEAR A SIGN AB070;dAB073;dAB074;dAB076;dAB077;dAB078;dAB079;dAB080;dAB081;dAB082"),
  (0x10644, "aLINEAR A SIGN AB085;dAB086;dAB087;dA100-102;dAB118;dAB120;dA120B;dAB122;dAB123"),
  (0x1064D, "aLINEAR A SIGN AB131A;dAB131B;dA131C;dAB164;dAB171;dAB180;dAB188;dAB191;dA301;dA302"),
  (0x10657, "aLINEAR A SIGN A303;dA304;dA305;dA306;dA307;dA308;dA309A;dA309B;dA309C;dA310;dA311"),
  (0x10662, "aLINEAR A SIGN A312;dA313A;dA313B;dA313C;dA314;dA315;dA316;dA317;dA318;dA319;dA320"),
  (0x1066D, "aLINEAR A SIGN A321;dA322;dA323;dA324;dA325;dA326;dA327;dA328;dA329;dA330;dA331"),
  (0x10678, "aLINEAR A SIGN A332;dA333;dA334;dA335;dA336;dA337;dA338;dA339;dA340;dA341;dA342"),
  (0x10683, "aLINEAR A SIGN A343;dA344;dA345;dA346;dA347;dA348;dA349;dA350;dA351;dA352;dA353"),
  (0x1068E, "aLINEAR A SIGN A354;dA355;dA356;dA357;dA358;dA359;dA360;dA361;dA362;dA363;dA364"),
  (0x10699, "aLINEAR A SIGN A365;dA366;dA367;dA368;dA369;dA370;dA371;dA400-VAS;dA401-VAS"),
  (0x106A2, "aLINEAR A SIGN A402-VAS;dA403-VAS;dA404-VAS;dA405-VAS;dA406-VAS;dA407-VAS;dA408-VAS"),
  (0x106A9, "aLINEAR A SIGN A409-VAS;dA410-VAS;dA411-VAS;dA412-VAS;dA413-VAS;dA414-VAS;dA415-VAS"),
  (0x106B0, "aLINEAR A SIGN A416-VAS;dA417-VAS;dA418-VAS;dA501;dA502;dA503;dA504;dA505;dA506"),
  (0x106B9, "aLINEAR A SIGN A508;dA509;dA510;dA511;dA512;dA513;dA515;dA516;dA520;dA521;dA523"),
  (0x106C4, "aLINEAR A SIGN A524;dA525;dA526;dA527;dA528;dA529;dA530;dA531;dA532;dA534;dA535"),
  (0x106CF, "aLINEAR A SIGN A536;dA537;dA538;dA539;dA540;dA541;dA542;dA545;dA547;dA548;dA549"),
  (0x106DA, "aLINEAR A SIGN A550;dA551;dA552;dA553;dA554;dA555;dA556;dA557;dA559;dA563;dA564"),
  (0x106E5, "aLINEAR A SIGN A565;dA566;dA568;dA569;dA570;dA571;dA572;dA573;dA574;dA575;dA576"),
  (0x106F0, "aLINEAR A SIGN A577;dA578;dA579;dA580;dA581;dA582;dA583;dA584;dA585;dA586;dA587"),
  (0x106FB, "aLINEAR A SIGN A588;dA589;dA591;dA592;dA594;dA595;dA596;dA598;dA600;dA601;dA602"),
  (0x10706, "aLINEAR A SIGN A603;dA604;dA606;dA608;dA609;dA610;dA611;dA612;dA613;dA614;dA615"),
  (0x10711, "aLINEAR A SIGN A616;dA617;dA618;dA619;dA620;dA621;dA622;dA623;dA624;dA626;dA627"),
  (0x1071C, "aLINEAR A SIGN A628;dA629;dA634;dA637;dA638;dA640;dA642;dA643;dA644;dA645;dA646"),
  (0x10727, "aLINEAR A SIGN A648;dA649;dA651;dA652;dA653;dA654;dA655;dA656;dA657;dA658;dA659"),
  (0x10732, "aLINEAR A SIGN A660;dA661;dA662;dA663;dA664"),
  (0x10740, "aLINEAR A SIGN A701 A;dA702 B;dA703 D;dA704 E;dA705 F;dA706 H;dA707 J;dA708 K"),
  (0x10748, "aLINEAR A SIGN A709 L;dA709-2 L2;dA709-3 L3;dA709-4 L4;dA709-6 L6;dA710 W;dA711 X"),
  (0x1074F, "aLINEAR A SIGN A712 Y;dA713 OMEGA;dA714 ABB;dA715 BB;dA717 DD;dA726 EYYY;dA732 JE"),
  (0x10760, "aLINEAR A SIGN A800;dA801;dA802;dA803;dA804;dA805;dA806;dA807"),
  (0x10780, "aMODIFIER LETTER SMALL CAPITAL AA;cSUPERSCRIPT TRIANGULAR COLON"),
  (0x10782, "aMODIFIER LETTER SUPERSCRIPT HALF TRIANGULAR COLON;cSMALL AE;dCAPITAL B;dB WITH HOOK"),
  (0x10787, "aMODIFIER LETTER SMALL DZ DIGRAPH;fWITH RETROFLEX HOOK;gCURL;dDEZH DIGRAPH"),
  (0x1078B, "aMODIFIER LETTER SMALL D WITH TAIL;fHOOK;gAND TAIL;dREVERSED E"),
  (0x1078F, "aMODIFIER LETTER SMALL CLOSED REVERSED OPEN E;dFENG DIGRAPH;dRAMS HORN;dCAPITAL G"),
  (0x10793, "aMODIFIER LETTER SMALL G WITH HOOK;dCAPITAL G WITH HOOK;dH WITH STROKE;dCAPITAL H"),
  (0x10797, "aMODIFIER LETTER SMALL HENG WITH HOOK;dDOTLESS J WITH STROKE AND HOOK;dLS DIGRAPH"),
  (0x1079A, "aMODIFIER LETTER SMALL LZ DIGRAPH;dL WITH BELT;dCAPITAL L WITH BELT"),
  (0x1079D, "aMODIFIER LETTER SMALL L WITH RETROFLEX HOOK AND BELT;dLEZH;eWITH RETROFLEX HOOK"),
  (0x107A0, "aMODIFIER LETTER SMALL TURNED Y;fWITH BELT;dO WITH STROKE;dCAPITAL OE;dCLOSED OMEGA"),
  (0x107A5, "aMODIFIER LETTER SMALL Q;dTURNED R WITH LONG LEG;iAND RETROFLEX HOOK;dR WITH TAIL"),
  (0x107A9, "aMODIFIER LETTER SMALL R WITH FISHHOOK;dCAPITAL R;dTC DIGRAPH WITH CURL;dTS DIGRAPH"),
  (0x107AD, "aMODIFIER LETTER SMALL TS DIGRAPH WITH RETROFLEX HOOK;dTESH DIGRAPH"),
  (0x107AF, "aMODIFIER LETTER SMALL T WITH RETROFLEX HOOK;dV WITH RIGHT HOOK"),
  (0x107B2, "aMODIFIER LETTER SMALL CAPITAL Y;cGLOTTAL STOP WITH STROKE"),
  (0x107B4, "aMODIFIER LETTER REVERSED GLOTTAL STOP WITH STROKE;cBILABIAL CLICK;cDENTAL CLICK"),
  (0x107B7, "aMODIFIER LETTER LATERAL CLICK;cALVEOLAR CLICK;cRETROFLEX CLICK WITH RETROFLEX HOOK"),
  (0x107BA, "aMODIFIER LETTER SMALL S WITH CURL"),
  (0x10800, "aCYPRIOT SYLLABLE A;cE;cI;cO;cU;cJA"),
  (0x10808, "aCYPRIOT SYLLABLE JO"),
  (0x1080A, "aCYPRIOT SYLLABLE KA;cKE;cKI;cKO;cKU;cLA;cLE;cLI;cLO;cLU;cMA;cME;cMI;cMO;cMU;cNA;cNE"),
  (0x1081B, "aCYPRIOT SYLLABLE NI;cNO;cNU;cPA;cPE;cPI;cPO;cPU;cRA;cRE;cRI;cRO;cRU;cSA;cSE;cSI;cSO"),
  (0x1082C, "aCYPRIOT SYLLABLE SU;cTA;cTE;cTI;cTO;cTU;cWA;cWE;cWI;cWO"),
  (0x10837, "aCYPRIOT SYLLABLE XA;cXE"),
  (0x1083C, "aCYPRIOT SYLLABLE ZA"),
  (0x1083F, "aCYPRIOT SYLLABLE ZO;aIMPERIAL ARAMAIC LETTER ALEPH;dBETH;dGIMEL;dDALETH;dHE;dWAW"),
  (0x10846, "aIMPERIAL ARAMAIC LETTER ZAYIN;dHETH;dTETH;dYODH;dKAPH;dLAMEDH;dMEM;dNUN;dSAMEKH"),
  (0x1084F, "aIMPERIAL ARAMAIC LETTER AYIN;dPE;dSADHE;dQOPH;dRESH;dSHIN;dTAW"),
  (0x10857, "aIMPERIAL ARAMAIC SECTION SIGN;cNUMBER ONE;dTWO;dTHREE;dTEN;dTWENTY;dONE HUNDRED"),
  (0x1085E, "aIMPERIAL ARAMAIC NUMBER ONE THOUSAND;dTEN THOUSAND;aPALMYRENE LETTER ALEPH;cBETH"),
  (0x10862, "aPALMYRENE LETTER GIMEL;cDALETH;cHE;cWAW;cZAYIN;cHETH;cTETH;cYODH;cKAPH;cLAMEDH;cMEM"),
  (0x1086D, "aPALMYRENE LETTER FINAL NUN;cNUN;cSAMEKH;cAYIN;cPE;cSADHE;cQOPH;cRESH;cSHIN;cTAW"),
  (0x10877, "aPALMYRENE LEFT-POINTING FLEURON;bRIGHT-POINTING FLEURON;bNUMBER ONE;cTWO;cTHREE"),
  (0x1087C, "aPALMYRENE NUMBER FOUR;cFIVE;cTEN;cTWENTY;aNABATAEAN LETTER FINAL ALEPH;cALEPH"),
  (0x10882, "aNABATAEAN LETTER FINAL BETH;cBETH;cGIMEL;cDALETH;cFINAL HE;cHE;cWAW;cZAYIN;cHETH"),
  (0x1088B, "aNABATAEAN LETTER TETH;cFINAL YODH;cYODH;cFINAL KAPH;cKAPH;cFINAL LAMEDH;cLAMEDH"),
  (0x10892, "aNABATAEAN LETTER FINAL MEM;cMEM;cFINAL NUN;cNUN;cSAMEKH;cAYIN;cPE;cSADHE;cQOPH"),
  (0x1089B, "aNABATAEAN LETTER RESH;cFINAL SHIN;cSHIN;cTAW"),
  (0x108A7, "aNABATAEAN NUMBER ONE;cTWO;cTHREE;cFOUR;bCRUCIFORM NUMBER FOUR;bNUMBER FIVE;cTEN"),
  (0x108AE, "aNABATAEAN NUMBER TWENTY;cONE HUNDRED"),
  (0x108E0, "aHATRAN LETTER ALEPH;cBETH;cGIMEL;cDALETH-RESH;cHE;cWAW;cZAYN;cHETH;cTETH;cYODH"),
  (0x108EA, "aHATRAN LETTER KAPH;cLAMEDH;cMEM;cNUN;cSAMEKH;cAYN;cPE;cSADHE;cQOPH"),
  (0x108F4, "aHATRAN LETTER SHIN;cTAW"),
  (0x108FB, "aHATRAN NUMBER ONE;cFIVE;cTEN;cTWENTY;cONE HUNDRED;aPHOENICIAN LETTER ALF;cBET;cGAML"),
  (0x10903, "aPHOENICIAN LETTER DELT;cHE;cWAU;cZAI;cHET;cTET;cYOD;cKAF;cLAMD;cMEM;cNUN;cSEMK;cAIN"),
  (0x10910, "aPHOENICIAN LETTER PE;cSADE;cQOF;cROSH;cSHIN;cTAU;bNUMBER ONE;cTEN;cTWENTY"),
  (0x10919, "aPHOENICIAN NUMBER ONE HUNDRED;cTWO;cTHREE"),
  (0x1091F, "aPHOENICIAN WORD SEPARATOR;aLYDIAN LETTER A;cB;cG;cD;cE;cV;cI;cY;cK;cL;cM;cN;cO;cR"),
  (0x1092E, "aLYDIAN LETTER SS;cT;cU;cF;cQ;cS;cTT;cAN;cEN;cLY;cNN;cC"),
  (0x1093F, "aLYDIAN TRIANGULAR MARK"),
  (0x10980, "aMEROITIC HIEROGLYPHIC LETTER A;dE;dI;dO;dYA;dWA;dBA;dBA-2;dPA;dMA;dNA;dNA-2;dNE"),
  (0x1098D, "aMEROITIC HIEROGLYPHIC LETTER NE-2;dRA;dRA-2;dLA;dKHA;dHHA;dSA;dSA-2;dSE;dKA;dQA;dTA"),
  (0x10999, "aMEROITIC HIEROGLYPHIC LETTER TA-2;dTE;dTE-2;dTO;dDA;cSYMBOL VIDJ;dVIDJ-2"),
  (0x109A0, "aMEROITIC CURSIVE LETTER A;dE;dI;dO;dYA;dWA;dBA;dPA;dMA;dNA;dNE;dRA;dLA;dKHA;dHHA"),
  (0x109AF, "aMEROITIC CURSIVE LETTER SA;dARCHAIC SA;dSE;dKA;dQA;dTA;dTE;dTO;dDA"),
  (0x109BC, "aMEROITIC CURSIVE FRACTION ELEVEN TWELFTHS;dONE HALF;cLOGOGRAM RMT;dIMN;cNUMBER ONE"),
  (0x109C1, "aMEROITIC CURSIVE NUMBER TWO;dTHREE;dFOUR;dFIVE;dSIX;dSEVEN;dEIGHT;dNINE;dTEN"),
  (0x109CA, "aMEROITIC CURSIVE NUMBER TWENTY;dTHIRTY;dFORTY;dFIFTY;dSIXTY;dSEVENTY"),
  (0x109D2, "aMEROITIC CURSIVE NUMBER ONE HUNDRED;dTWO HUNDRED;dTHREE HUNDRED;dFOUR HUNDRED"),
  (0x109D6, "aMEROITIC CURSIVE NUMBER FIVE HUNDRED;dSIX HUNDRED;dSEVEN HUNDRED;dEIGHT HUNDRED"),
  (0x109DA, "aMEROITIC CURSIVE NUMBER NINE HUNDRED;dONE THOUSAND;dTWO THOUSAND;dTHREE THOUSAND"),
  (0x109DE, "aMEROITIC CURSIVE NUMBER FOUR THOUSAND;dFIVE THOUSAND;dSIX THOUSAND;dSEVEN THOUSAND"),
  (0x109E2, "aMEROITIC CURSIVE NUMBER EIGHT THOUSAND;dNINE THOUSAND;dTEN THOUSAND"),
  (0x109E5, "aMEROITIC CURSIVE NUMBER TWENTY THOUSAND;dTHIRTY THOUSAND;dFORTY THOUSAND"),
  (0x109E8, "aMEROITIC CURSIVE NUMBER FIFTY THOUSAND;dSIXTY THOUSAND;dSEVENTY THOUSAND"),
  (0x109EB, "aMEROITIC CURSIVE NUMBER EIGHTY THOUSAND;dNINETY THOUSAND;dONE HUNDRED THOUSAND"),
  (0x109EE, "aMEROITIC CURSIVE NUMBER TWO HUNDRED THOUSAND;dTHREE HUNDRED THOUSAND"),
  (0x109F0, "aMEROITIC CURSIVE NUMBER FOUR HUNDRED THOUSAND;dFIVE HUNDRED THOUSAND"),
  (0x109F2, "aMEROITIC CURSIVE NUMBER SIX HUNDRED THOUSAND;dSEVEN HUNDRED THOUSAND"),
  (0x109F4, "aMEROITIC CURSIVE NUMBER EIGHT HUNDRED THOUSAND;dNINE HUNDRED THOUSAND"),
  (0x109F6, "aMEROITIC CURSIVE FRACTION ONE TWELFTH;dTWO TWELFTHS;dTHREE TWELFTHS;dFOUR TWELFTHS"),
  (0x109FA, "aMEROITIC CURSIVE FRACTION FIVE TWELFTHS;dSIX TWELFTHS;dSEVEN TWELFTHS"),
  (0x109FD, "aMEROITIC CURSIVE FRACTION EIGHT TWELFTHS;dNINE TWELFTHS;dTEN TWELFTHS"),
  (0x10A00, "aKHAROSHTHI LETTER A;bVOWEL SIGN I;dU;dVOCALIC R"),
  (0x10A05, "aKHAROSHTHI VOWEL SIGN E;dO"),
  (0x10A0C, "aKHAROSHTHI VOWEL LENGTH MARK;bSIGN DOUBLE RING BELOW;cANUSVARA;cVISARGA;bLETTER KA"),
  (0x10A11, "aKHAROSHTHI LETTER KHA;cGA;cGHA"),
  (0x10A15, "aKHAROSHTHI LETTER CA;cCHA;cJA"),
  (0x10A19, "aKHAROSHTHI LETTER NYA;cTTA;cTTHA;cDDA;cDDHA;cNNA;cTA;cTHA;cDA;cDHA;cNA;cPA;cPHA;cBA"),
  (0x10A27, "aKHAROSHTHI LETTER BHA;cMA;cYA;cRA;cLA;cVA;cSHA;cSSA;cSA;cZA;cHA;cKKA;cTTTHA;cTTTA"),
  (0x10A35, "aKHAROSHTHI LETTER VHA"),
  (0x10A38, "aKHAROSHTHI SIGN BAR ABOVE;cCAUDA;cDOT BELOW"),
  (0x10A3F, "aKHAROSHTHI VIRAMA;bDIGIT ONE;cTWO;cTHREE;cFOUR;bNUMBER TEN;cTWENTY;cONE HUNDRED"),
  (0x10A47, "aKHAROSHTHI NUMBER ONE THOUSAND;bFRACTION ONE HALF"),
  (0x10A50, "aKHAROSHTHI PUNCTUATION DOT;cSMALL CIRCLE;cCIRCLE;cCRESCENT BAR;cMANGALAM;cLOTUS"),
  (0x10A56, "aKHAROSHTHI PUNCTUATION DANDA;cDOUBLE DANDA;cLINES"),
  (0x10A60, "aOLD SOUTH ARABIAN LETTER HE;eLAMEDH;eHETH;eMEM;eQOPH;eWAW;eSHIN;eRESH;eBETH;eTAW"),
  (0x10A6A, "aOLD SOUTH ARABIAN LETTER SAT;eKAPH;eNUN;eKHETH;eSADHE;eSAMEKH;eFE;eALEF;eAYN"),
  (0x10A73, "aOLD SOUTH ARABIAN LETTER DHADHE;eGIMEL;eDALETH;eGHAYN;eTETH;eZAYN;eDHALETH;eYODH"),
  (0x10A7B, "aOLD SOUTH ARABIAN LETTER THAW;eTHETH;dNUMBER ONE;eFIFTY;dNUMERIC INDICATOR"),
  (0x10A80, "aOLD NORTH ARABIAN LETTER HEH;eLAM;eHAH;eMEEM;eQAF;eWAW;eES-2;eREH;eBEH;eTEH;eES-1"),
  (0x10A8B, "aOLD NORTH ARABIAN LETTER KAF;eNOON;eKHAH;eSAD;eES-3;eFEH;eALEF;eAIN;eDAD;eGEEM;eDAL"),
  (0x10A96, "aOLD NORTH ARABIAN LETTER GHAIN;eTAH;eZAIN;eTHAL;eYEH;eTHEH;eZAH;dNUMBER ONE;eTEN"),
  (0x10A9F, "aOLD NORTH ARABIAN NUMBER TWENTY"),
  (0x10AC0, "aMANICHAEAN LETTER ALEPH;cBETH;cBHETH;cGIMEL;cGHIMEL;cDALETH;cHE;cWAW;bSIGN UD"),
  (0x10AC9, "aMANICHAEAN LETTER ZAYIN;cZHAYIN;cJAYIN;cJHAYIN;cHETH;cTETH;cYODH;cKAPH;cXAPH;cKHAPH"),
  (0x10AD3, "aMANICHAEAN LETTER LAMEDH;cDHAMEDH;cTHAMEDH;cMEM;cNUN;cSAMEKH;cAYIN;cAAYIN;cPE;cFE"),
  (0x10ADD, "aMANICHAEAN LETTER SADHE;cQOPH;cXOPH;cQHOPH;cRESH;cSHIN;cSSHIN;cTAW"),
  (0x10AE5, "aMANICHAEAN ABBREVIATION MARK ABOVE;dBELOW"),
  (0x10AEB, "aMANICHAEAN NUMBER ONE;cFIVE;cTEN;cTWENTY;cONE HUNDRED;bPUNCTUATION STAR;cFLEURON"),
  (0x10AF2, "aMANICHAEAN PUNCTUATION DOUBLE DOT WITHIN DOT;cDOT WITHIN DOT;d;cTWO DOTS"),
  (0x10AF6, "aMANICHAEAN PUNCTUATION LINE FILLER"),
  (0x10B00, "aAVESTAN LETTER A;cAA;cAO;cAAO;cAN;cAAN;cAE;cAEE;cE;cEE;cO;cOO;cI;cII;cU;cUU;cKE;cXE")]

/-- The lines of names from U+10B12 on. -/
def namesFrom10B12 : List (Nat × String) := [
  (0x10B12, "aAVESTAN LETTER XYE;cXVE;cGE;cGGE;cGHE;cCE;cJE;cTE;cTHE;cDE;cDHE;cTTE;cPE;cFE;cBE"),
  (0x10B21, "aAVESTAN LETTER BHE;cNGE;cNGYE;cNGVE;cNE;cNYE;cNNE;cME;cHME;cYYE;cYE;cVE;cRE;cLE;cSE"),
  (0x10B30, "aAVESTAN LETTER ZE;cSHE;cZHE;cSHYE;cSSHE;cHE"),
  (0x10B39, "aAVESTAN ABBREVIATION MARK;aTINY TWO DOTS OVER ONE DOT PUNCTUATION"),
  (0x10B3B, "aSMALL TWO DOTS OVER ONE DOT PUNCTUATION;aLARGE TWO DOTS OVER ONE DOT PUNCTUATION"),
  (0x10B3D, "aLARGE ONE DOT OVER TWO DOTS PUNCTUATION;bTWO RINGS OVER ONE RING PUNCTUATION"),
  (0x10B3F, "aLARGE ONE RING OVER TWO RINGS PUNCTUATION;aINSCRIPTIONAL PARTHIAN LETTER ALEPH"),
  (0x10B41, "aINSCRIPTIONAL PARTHIAN LETTER BETH;dGIMEL;dDALETH;dHE;dWAW;dZAYIN;dHETH;dTETH;dYODH"),
  (0x10B4A, "aINSCRIPTIONAL PARTHIAN LETTER KAPH;dLAMEDH;dMEM;dNUN;dSAMEKH;dAYIN;dPE;dSADHE;dQOPH"),
  (0x10B53, "aINSCRIPTIONAL PARTHIAN LETTER RESH;dSHIN;dTAW"),
  (0x10B58, "aINSCRIPTIONAL PARTHIAN NUMBER ONE;dTWO;dTHREE;dFOUR;dTEN;dTWENTY;dONE HUNDRED"),
  (0x10B5F, "aINSCRIPTIONAL PARTHIAN NUMBER ONE THOUSAND;bPAHLAVI LETTER ALEPH;dBETH;dGIMEL"),
  (0x10B63, "aINSCRIPTIONAL PAHLAVI LETTER DALETH;dHE;dWAW-AYIN-RESH;dZAYIN;dHETH;dTETH;dYODH"),
  (0x10B6A, "aINSCRIPTIONAL PAHLAVI LETTER KAPH;dLAMEDH;dMEM-QOPH;dNUN;dSAMEKH;dPE;dSADHE;dSHIN"),
  (0x10B72, "aINSCRIPTIONAL PAHLAVI LETTER TAW"),
  (0x10B78, "aINSCRIPTIONAL PAHLAVI NUMBER ONE;dTWO;dTHREE;dFOUR;dTEN;dTWENTY;dONE HUNDRED"),
  (0x10B7F, "aINSCRIPTIONAL PAHLAVI NUMBER ONE THOUSAND;aPSALTER PAHLAVI LETTER ALEPH;dBETH"),
  (0x10B82, "aPSALTER PAHLAVI LETTER GIMEL;dDALETH;dHE;dWAW-AYIN-RESH;dZAYIN;dHETH;dYODH;dKAPH"),
  (0x10B8A, "aPSALTER PAHLAVI LETTER LAMEDH;dMEM-QOPH;dNUN;dSAMEKH;dPE;dSADHE;dSHIN;dTAW"),
  (0x10B99, "aPSALTER PAHLAVI SECTION MARK;cTURNED SECTION MARK;cFOUR DOTS WITH CROSS;fDOT"),
  (0x10BA9, "aPSALTER PAHLAVI NUMBER ONE;dTWO;dTHREE;dFOUR;dTEN;dTWENTY;dONE HUNDRED"),
  (0x10C00, "aOLD TURKIC LETTER ORKHON A;dYENISEI A;eAE;dORKHON I;dYENISEI I;eE;dORKHON O;eOE"),
  (0x10C08, "aOLD TURKIC LETTER YENISEI OE;dORKHON AB;dYENISEI AB;dORKHON AEB;dYENISEI AEB"),
  (0x10C0D, "aOLD TURKIC LETTER ORKHON AG;dYENISEI AG;dORKHON AEG;dYENISEI AEG;dORKHON AD"),
  (0x10C12, "aOLD TURKIC LETTER YENISEI AD;dORKHON AED;eEZ;dYENISEI EZ;dORKHON AY;dYENISEI AY"),
  (0x10C18, "aOLD TURKIC LETTER ORKHON AEY;dYENISEI AEY;dORKHON AEK;dYENISEI AEK;dORKHON OEK"),
  (0x10C1D, "aOLD TURKIC LETTER YENISEI OEK;dORKHON AL;dYENISEI AL;dORKHON AEL;eELT;eEM;eAN;eAEN"),
  (0x10C25, "aOLD TURKIC LETTER YENISEI AEN;dORKHON ENT;dYENISEI ENT;dORKHON ENC;dYENISEI ENC"),
  (0x10C2A, "aOLD TURKIC LETTER ORKHON ENY;dYENISEI ENY;eANG;dORKHON ENG;dYENISEI AENG;dORKHON EP"),
  (0x10C30, "aOLD TURKIC LETTER ORKHON OP;eIC;eEC;dYENISEI EC;dORKHON AQ;dYENISEI AQ;dORKHON IQ"),
  (0x10C37, "aOLD TURKIC LETTER YENISEI IQ;dORKHON OQ;dYENISEI OQ;dORKHON AR;dYENISEI AR"),
  (0x10C3C, "aOLD TURKIC LETTER ORKHON AER;eAS;eAES;eASH;dYENISEI ASH;dORKHON ESH;dYENISEI ESH"),
  (0x10C43, "aOLD TURKIC LETTER ORKHON AT;dYENISEI AT;dORKHON AET;dYENISEI AET;dORKHON OT;eBASH"),
  (0x10C80, "aOLD HUNGARIAN CAPITAL LETTER A;eAA;eEB;eAMB;eEC;eENC;eECS;eED;eAND;eE;eCLOSE E;eEE"),
  (0x10C8C, "aOLD HUNGARIAN CAPITAL LETTER EF;eEG;eEGY;eEH;eI;eII;eEJ;eEK;eAK;eUNK;eEL;eELY;eEM"),
  (0x10C99, "aOLD HUNGARIAN CAPITAL LETTER EN;eENY;eO;eOO;eNIKOLSBURG OE;eRUDIMENTA OE;eOEE;eEP"),
  (0x10CA1, "aOLD HUNGARIAN CAPITAL LETTER EMP;eER;eSHORT ER;eES;eESZ;eET;eENT;eETY;eECH;eU;eUU"),
  (0x10CAC, "aOLD HUNGARIAN CAPITAL LETTER NIKOLSBURG UE;eRUDIMENTA UE;eEV;eEZ;eEZS"),
  (0x10CB1, "aOLD HUNGARIAN CAPITAL LETTER ENT-SHAPED SIGN;eUS"),
  (0x10CC0, "aOLD HUNGARIAN SMALL LETTER A;eAA;eEB;eAMB;eEC;eENC;eECS;eED;eAND;eE;eCLOSE E;eEE"),
  (0x10CCC, "aOLD HUNGARIAN SMALL LETTER EF;eEG;eEGY;eEH;eI;eII;eEJ;eEK;eAK;eUNK;eEL;eELY;eEM;eEN"),
  (0x10CDA, "aOLD HUNGARIAN SMALL LETTER ENY;eO;eOO;eNIKOLSBURG OE;eRUDIMENTA OE;eOEE;eEP;eEMP"),
  (0x10CE2, "aOLD HUNGARIAN SMALL LETTER ER;eSHORT ER;eES;eESZ;eET;eENT;eETY;eECH;eU;eUU"),
  (0x10CEC, "aOLD HUNGARIAN SMALL LETTER NIKOLSBURG UE;eRUDIMENTA UE;eEV;eEZ;eEZS"),
  (0x10CF1, "aOLD HUNGARIAN SMALL LETTER ENT-SHAPED SIGN;eUS"),
  (0x10CFA, "aOLD HUNGARIAN NUMBER ONE;dFIVE;dTEN;dFIFTY;dONE HUNDRED;eTHOUSAND"),
  (0x10D00, "aHANIFI ROHINGYA LETTER A;dBA;dPA;dTA;dTTA;dJA;dCA;dHA;dKHA;dFA;dDA;dDDA;dRA;dRRA"),
  (0x10D0E, "aHANIFI ROHINGYA LETTER ZA;dSA;dSHA;dKA;dGA;dLA;dMA;dNA;dWA;dKINNA WA;dYA;dKINNA YA"),
  (0x10D1A, "aHANIFI ROHINGYA LETTER NGA;dNYA;dVA;cVOWEL A;dI;dU;dE;dO;cMARK SAKIN;dNA KHONNA"),
  (0x10D24, "aHANIFI ROHINGYA SIGN HARBAHAY;dTAHALA;dTANA;dTASSI"),
  (0x10D30, "aHANIFI ROHINGYA DIGIT ZERO;dONE;dTWO;dTHREE;dFOUR;dFIVE;dSIX;dSEVEN;dEIGHT;dNINE"),
  (0x10E60, "aRUMI DIGIT ONE;cTWO;cTHREE;cFOUR;cFIVE;cSIX;cSEVEN;cEIGHT;cNINE;bNUMBER TEN;cTWENTY"),
  (0x10E6B, "aRUMI NUMBER THIRTY;cFORTY;cFIFTY;cSIXTY;cSEVENTY;cEIGHTY;cNINETY;cONE HUNDRED"),
  (0x10E73, "aRUMI NUMBER TWO HUNDRED;cTHREE HUNDRED;cFOUR HUNDRED;cFIVE HUNDRED;cSIX HUNDRED"),
  (0x10E78, "aRUMI NUMBER SEVEN HUNDRED;cEIGHT HUNDRED;cNINE HUNDRED;bFRACTION ONE HALF;dQUARTER"),
  (0x10E7D, "aRUMI FRACTION ONE THIRD;cTWO THIRDS"),
  (0x10E80, "aYEZIDI LETTER ELIF;cBE;cPE;cPHE;cTHE;cSE;cCIM;cCHIM;cCHHIM;cHHA;cXA;cDAL;cZAL;cRA"),
  (0x10E8E, "aYEZIDI LETTER RHA;cZA;cJA;cSIN;cSHIN;cSAD;cDAD;cTA;cZE;cEYN;cXHEYN;cFA;cVA"),
  (0x10E9B, "aYEZIDI LETTER VA ALTERNATE FORM;cQAF;cKAF;cKHAF;cGAF;cLAM;cMIM;cNUN;cUM;cWAW;cOW"),
  (0x10EA6, "aYEZIDI LETTER EW;cHAY;cYOT;cET"),
  (0x10EAB, "aYEZIDI COMBINING HAMZA MARK;cMADDA MARK;bHYPHENATION MARK"),
  (0x10EB0, "aYEZIDI LETTER LAM WITH DOT ABOVE;cYOT WITH CIRCUMFLEX ABOVE"),
  (0x10F00, "aOLD SOGDIAN LETTER ALEPH;dFINAL ALEPH;dBETH;dFINAL BETH;dGIMEL;dHE;dFINAL HE;dWAW"),
  (0x10F08, "aOLD SOGDIAN LETTER ZAYIN;dHETH;dYODH;dKAPH;dLAMEDH;dMEM;dNUN;dFINAL NUN"),
  (0x10F10, "aOLD SOGDIAN LETTER FINAL NUN WITH VERTICAL TAIL;dSAMEKH;dAYIN;dALTERNATE AYIN;dPE"),
  (0x10F15, "aOLD SOGDIAN LETTER SADHE;dFINAL SADHE;fWITH VERTICAL TAIL;dRESH-AYIN-DALETH;dSHIN"),
  (0x10F1A, "aOLD SOGDIAN LETTER TAW;dFINAL TAW;fWITH VERTICAL TAIL;cNUMBER ONE;dTWO;dTHREE;dFOUR"),
  (0x10F21, "aOLD SOGDIAN NUMBER FIVE;dTEN;dTWENTY;dTHIRTY;dONE HUNDRED;cFRACTION ONE HALF"),
  (0x10F27, "aOLD SOGDIAN LIGATURE AYIN-DALETH"),
  (0x10F30, "aSOGDIAN LETTER ALEPH;cBETH;cGIMEL;cHE;cWAW;cZAYIN;cHETH;cYODH;cKAPH;cLAMEDH;cMEM"),
  (0x10F3B, "aSOGDIAN LETTER NUN;cSAMEKH;cAYIN;cPE;cSADHE;cRESH-AYIN;cSHIN;cTAW;cFETH;cLESH"),
  (0x10F45, "aSOGDIAN INDEPENDENT SHIN;bCOMBINING DOT BELOW;cTWO DOTS BELOW;cDOT ABOVE"),
  (0x10F49, "aSOGDIAN COMBINING TWO DOTS ABOVE;cCURVE ABOVE;dBELOW;cHOOK ABOVE;dBELOW"),
  (0x10F4E, "aSOGDIAN COMBINING LONG HOOK BELOW;cRESH BELOW;cSTROKE BELOW;bNUMBER ONE;cTEN"),
  (0x10F53, "aSOGDIAN NUMBER TWENTY;cONE HUNDRED;bPUNCTUATION TWO VERTICAL BARS;fWITH DOTS"),
  (0x10F57, "aSOGDIAN PUNCTUATION CIRCLE WITH DOT;cTWO CIRCLES WITH DOTS;cHALF CIRCLE WITH DOT"),
  (0x10F70, "aOLD UYGHUR LETTER ALEPH;dBETH;dGIMEL-HETH;dWAW;dZAYIN;dFINAL HETH;dYODH;dKAPH"),
  (0x10F78, "aOLD UYGHUR LETTER LAMEDH;dMEM;dNUN;dSAMEKH;dPE;dSADHE;dRESH;dSHIN;dTAW;dLESH"),
  (0x10F82, "aOLD UYGHUR COMBINING DOT ABOVE;eBELOW;dTWO DOTS ABOVE;fBELOW;cPUNCTUATION BAR"),
  (0x10F87, "aOLD UYGHUR PUNCTUATION TWO BARS;eDOTS;dFOUR DOTS"),
  (0x10FB0, "aCHORASMIAN LETTER ALEPH;cSMALL ALEPH;cBETH;cGIMEL;cDALETH;cHE;cWAW;cCURLED WAW"),
  (0x10FB8, "aCHORASMIAN LETTER ZAYIN;cHETH;cYODH;cKAPH;cLAMEDH;cMEM;cNUN;cSAMEKH;cAYIN;cPE;cRESH"),
  (0x10FC3, "aCHORASMIAN LETTER SHIN;cTAW;bNUMBER ONE;cTWO;cTHREE;cFOUR;cTEN;cTWENTY;cONE HUNDRED"),
  (0x10FE0, "aELYMAIC LETTER ALEPH;cBETH;cGIMEL;cDALETH;cHE;cWAW;cZAYIN;cHETH;cTETH;cYODH;cKAPH"),
  (0x10FEB, "aELYMAIC LETTER LAMEDH;cMEM;cNUN;cSAMEKH;cAYIN;cPE;cSADHE;cQOPH;cRESH;cSHIN;cTAW"),
  (0x10FF6, "aELYMAIC LIGATURE ZAYIN-YODH"),
  (0x11000, "aBRAHMI SIGN CANDRABINDU;cANUSVARA;cVISARGA;cJIHVAMULIYA;cUPADHMANIYA;bLETTER A;cAA"),
  (0x11007, "aBRAHMI LETTER I;cII;cU;cUU;cVOCALIC R;dRR;dL;dLL;cE;cAI;cO;cAU;cKA;cKHA;cGA;cGHA"),
  (0x11017, "aBRAHMI LETTER NGA;cCA;cCHA;cJA;cJHA;cNYA;cTTA;cTTHA;cDDA;cDDHA;cNNA;cTA;cTHA;cDA"),
  (0x11025, "aBRAHMI LETTER DHA;cNA;cPA;cPHA;cBA;cBHA;cMA;cYA;cRA;cLA;cVA;cSHA;cSSA;cSA;cHA;cLLA"),
  (0x11035, "aBRAHMI LETTER OLD TAMIL LLLA;eRRA;eNNNA;bVOWEL SIGN AA;dBHATTIPROLU AA;dI;dII;dU"),
  (0x1103D, "aBRAHMI VOWEL SIGN UU;dVOCALIC R;eRR;eL;eLL;dE;dAI;dO;dAU;bVIRAMA;bDANDA"),
  (0x11048, "aBRAHMI DOUBLE DANDA;bPUNCTUATION DOT;cDOUBLE DOT;cLINE;cCRESCENT BAR;cLOTUS"),
  (0x11052, "aBRAHMI NUMBER ONE;cTWO;cTHREE;cFOUR;cFIVE;cSIX;cSEVEN;cEIGHT;cNINE;cTEN;cTWENTY"),
  (0x1105D, "aBRAHMI NUMBER THIRTY;cFORTY;cFIFTY;cSIXTY;cSEVENTY;cEIGHTY;cNINETY;cONE HUNDRED"),
  (0x11065, "aBRAHMI NUMBER ONE THOUSAND;bDIGIT ZERO;cONE;cTWO;cTHREE;cFOUR;cFIVE;cSIX;cSEVEN"),
  (0x1106E, "aBRAHMI DIGIT EIGHT;cNINE;bSIGN OLD TAMIL VIRAMA;bLETTER OLD TAMIL SHORT E;fO"),
  (0x11073, "aBRAHMI VOWEL SIGN OLD TAMIL SHORT E;gO;bLETTER OLD TAMIL LLA"),
  (0x1107F, "aBRAHMI NUMBER JOINER;aKAITHI SIGN CANDRABINDU;cANUSVARA;cVISARGA;bLETTER A;cAA;cI"),
  (0x11086, "aKAITHI LETTER II;cU;cUU;cE;cAI;cO;cAU;cKA;cKHA;cGA;cGHA;cNGA;cCA;cCHA;cJA;cJHA;cNYA"),
  (0x11097, "aKAITHI LETTER TTA;cTTHA;cDDA;cDDDHA;cDDHA;cRHA;cNNA;cTA;cTHA;cDA;cDHA;cNA;cPA;cPHA"),
  (0x110A5, "aKAITHI LETTER BA;cBHA;cMA;cYA;cRA;cLA;cVA;cSHA;cSSA;cSA;cHA;bVOWEL SIGN AA;dI;dII"),
  (0x110B3, "aKAITHI VOWEL SIGN U;dUU;dE;dAI;dO;dAU;bSIGN VIRAMA;cNUKTA;bABBREVIATION SIGN"),
  (0x110BC, "aKAITHI ENUMERATION SIGN;bNUMBER SIGN;bSECTION MARK;bDOUBLE SECTION MARK;bDANDA"),
  (0x110C1, "aKAITHI DOUBLE DANDA;bVOWEL SIGN VOCALIC R"),
  (0x110CD, "aKAITHI NUMBER SIGN ABOVE"),
  (0x110D0, "aSORA SOMPENG LETTER SAH;dTAH;dBAH;dCAH;dDAH;dGAH;dMAH;dNGAH;dLAH;dNAH;dVAH;dPAH"),
  (0x110DC, "aSORA SOMPENG LETTER YAH;dRAH;dHAH;dKAH;dJAH;dNYAH;dAH;dEEH;dIH;dUH;dOH;dEH;dMAE"),
  (0x110F0, "aSORA SOMPENG DIGIT ZERO;dONE;dTWO;dTHREE;dFOUR;dFIVE;dSIX;dSEVEN;dEIGHT;dNINE"),
  (0x11100, "aCHAKMA SIGN CANDRABINDU;cANUSVARA;cVISARGA;bLETTER AA;cI;cU;cE;cKAA;cKHAA;cGAA"),
  (0x1110A, "aCHAKMA LETTER GHAA;cNGAA;cCAA;cCHAA;cJAA;cJHAA;cNYAA;cTTAA;cTTHAA;cDDAA;cDDHAA"),
  (0x11115, "aCHAKMA LETTER NNAA;cTAA;cTHAA;cDAA;cDHAA;cNAA;cPAA;cPHAA;cBAA;cBHAA;cMAA;cYYAA;cYAA"),
  (0x11122, "aCHAKMA LETTER RAA;cLAA;cWAA;cSAA;cHAA;bVOWEL SIGN A;dI;dII;dU;dUU;dE;dAI;dO;dAU;dOI"),
  (0x11131, "aCHAKMA O MARK;bAU MARK;bVIRAMA;bMAAYYAA"),
  (0x11136, "aCHAKMA DIGIT ZERO;cONE;cTWO;cTHREE;cFOUR;cFIVE;cSIX;cSEVEN;cEIGHT;cNINE"),
  (0x11140, "aCHAKMA SECTION MARK;bDANDA;bDOUBLE DANDA;bQUESTION MARK;bLETTER LHAA;bVOWEL SIGN AA"),
  (0x11146, "aCHAKMA VOWEL SIGN EI;bLETTER VAA"),
  (0x11150, "aMAHAJANI LETTER A;cI;cU;cE;cO;cKA;cKHA;cGA;cGHA;cCA;cCHA;cJA;cJHA;cNYA;cTTA;cTTHA"),
  (0x11160, "aMAHAJANI LETTER DDA;cDDHA;cNNA;cTA;cTHA;cDA;cDHA;cNA;cPA;cPHA;cBA;cBHA;cMA;cRA;cLA"),
  (0x1116F, "aMAHAJANI LETTER VA;cSA;cHA;cRRA;bSIGN NUKTA;bABBREVIATION SIGN;bSECTION MARK"),
  (0x11176, "aMAHAJANI LIGATURE SHRI"),
  (0x11180, "aSHARADA SIGN CANDRABINDU;cANUSVARA;cVISARGA;bLETTER A;cAA;cI;cII;cU;cUU;cVOCALIC R"),
  (0x1118A, "aSHARADA LETTER VOCALIC RR;dL;dLL;cE;cAI;cO;cAU;cKA;cKHA;cGA;cGHA;cNGA;cCA;cCHA;cJA"),
  (0x11199, "aSHARADA LETTER JHA;cNYA;cTTA;cTTHA;cDDA;cDDHA;cNNA;cTA;cTHA;cDA;cDHA;cNA;cPA;cPHA"),
  (0x111A7, "aSHARADA LETTER BA;cBHA;cMA;cYA;cRA;cLA;cLLA;cVA;cSHA;cSSA;cSA;cHA;bVOWEL SIGN AA;dI"),
  (0x111B5, "aSHARADA VOWEL SIGN II;dU;dUU;dVOCALIC R;eRR;eL;eLL;dE;dAI;dO;dAU;bSIGN VIRAMA"),
  (0x111C1, "aSHARADA SIGN AVAGRAHA;cJIHVAMULIYA;cUPADHMANIYA;bOM;bDANDA;bDOUBLE DANDA"),
  (0x111C7, "aSHARADA ABBREVIATION SIGN;bSEPARATOR;bSANDHI MARK;bSIGN NUKTA;bVOWEL MODIFIER MARK"),
  (0x111CC, "aSHARADA EXTRA SHORT VOWEL MARK;bSUTRA MARK;bVOWEL SIGN PRISHTHAMATRA E"),
  (0x111CF, "aSHARADA SIGN INVERTED CANDRABINDU;bDIGIT ZERO;cONE;cTWO;cTHREE;cFOUR;cFIVE;cSIX"),
  (0x111D7, "aSHARADA DIGIT SEVEN;cEIGHT;cNINE;bEKAM;bSIGN SIDDHAM;bHEADSTROKE;bCONTINUATION SIGN"),
  (0x111DE, "aSHARADA SECTION MARK-1;cMARK-2"),
  (0x111E1, "aSINHALA ARCHAIC DIGIT ONE;dTWO;dTHREE;dFOUR;dFIVE;dSIX;dSEVEN;dEIGHT;dNINE"),
  (0x111EA, "aSINHALA ARCHAIC NUMBER TEN;dTWENTY;dTHIRTY;dFORTY;dFIFTY;dSIXTY;dSEVENTY;dEIGHTY"),
  (0x111F2, "aSINHALA ARCHAIC NUMBER NINETY;dONE HUNDRED;eTHOUSAND"),
  (0x11200, "aKHOJKI LETTER A;cAA;cI;cU;cE;cAI;cO;cAU;cKA;cKHA;cGA;cGGA;cGHA;cNGA;cCA;cCHA;cJA"),
  (0x11211, "aKHOJKI LETTER JJA"),
  (0x11213, "aKHOJKI LETTER NYA;cTTA;cTTHA;cDDA;cDDHA;cNNA;cTA;cTHA;cDA;cDDDA;cDHA;cNA;cPA;cPHA"),
  (0x11221, "aKHOJKI LETTER BA;cBBA;cBHA;cMA;cYA;cRA;cLA;cVA;cSA;cHA;cLLA;bVOWEL SIGN AA;dI;dII"),
  (0x1122F, "aKHOJKI VOWEL SIGN U;dE;dAI;dO;dAU;bSIGN ANUSVARA;cVIRAMA;cNUKTA;cSHADDA;bDANDA"),
  (0x11239, "aKHOJKI DOUBLE DANDA;bWORD SEPARATOR;bSECTION MARK;bDOUBLE SECTION MARK"),
  (0x1123D, "aKHOJKI ABBREVIATION SIGN;bSIGN SUKUN"),
  (0x11280, "aMULTANI LETTER A;cI;cU;cE;cKA;cKHA;cGA"),
  (0x11288, "aMULTANI LETTER GHA"),
  (0x1128A, "aMULTANI LETTER CA;cCHA;cJA;cJJA"),
  (0x1128F, "aMULTANI LETTER NYA;cTTA;cTTHA;cDDA;cDDDA;cDDHA;cNNA;cTA;cTHA;cDA;cDHA;cNA;cPA;cPHA"),
  (0x1129D, "aMULTANI LETTER BA"),
  (0x1129F, "aMULTANI LETTER BHA;cMA;cYA;cRA;cLA;cVA;cSA;cHA;cRRA;cRHA;bSECTION MARK"),
  (0x112B0, "aKHUDAWADI LETTER A;cAA;cI;cII;cU;cUU;cE;cAI;cO;cAU;cKA;cKHA;cGA;cGGA;cGHA;cNGA;cCA"),
  (0x112C1, "aKHUDAWADI LETTER CHA;cJA;cJJA;cJHA;cNYA;cTTA;cTTHA;cDDA;cDDDA;cRRA;cDDHA;cNNA;cTA"),
  (0x112CE, "aKHUDAWADI LETTER THA;cDA;cDHA;cNA;cPA;cPHA;cBA;cBBA;cBHA;cMA;cYA;cRA;cLA;cVA;cSHA"),
  (0x112DD, "aKHUDAWADI LETTER SA;cHA;bSIGN ANUSVARA;bVOWEL SIGN AA;dI;dII;dU;dUU;dE;dAI;dO;dAU"),
  (0x112E9, "aKHUDAWADI SIGN NUKTA;cVIRAMA"),
  (0x112F0, "aKHUDAWADI DIGIT ZERO;cONE;cTWO;cTHREE;cFOUR;cFIVE;cSIX;cSEVEN;cEIGHT;cNINE"),
  (0x11300, "aGRANTHA SIGN COMBINING ANUSVARA ABOVE;cCANDRABINDU;cANUSVARA;cVISARGA"),
  (0x11305, "aGRANTHA LETTER A;cAA;cI;cII;cU;cUU;cVOCALIC R;dL"),
  (0x1130F, "aGRANTHA LETTER EE;cAI"),
  (0x11313, "aGRANTHA LETTER OO;cAU;cKA;cKHA;cGA;cGHA;cNGA;cCA;cCHA;cJA;cJHA;cNYA;cTTA;cTTHA;cDDA"),
  (0x11322, "aGRANTHA LETTER DDHA;cNNA;cTA;cTHA;cDA;cDHA;cNA"),
  (0x1132A, "aGRANTHA LETTER PA;cPHA;cBA;cBHA;cMA;cYA;cRA"),
  (0x11332, "aGRANTHA LETTER LA;cLLA"),
  (0x11335, "aGRANTHA LETTER VA;cSHA;cSSA;cSA;cHA"),
  (0x1133B, "aCOMBINING BINDU BELOW;aGRANTHA SIGN NUKTA;cAVAGRAHA;bVOWEL SIGN AA;dI;dII;dU;dUU"),
  (0x11343, "aGRANTHA VOWEL SIGN VOCALIC R;eRR"),
  (0x11347, "aGRANTHA VOWEL SIGN EE;dAI"),
  (0x1134B, "aGRANTHA VOWEL SIGN OO;dAU;bSIGN VIRAMA"),
  (0x11350, "aGRANTHA OM"),
  (0x11357, "aGRANTHA AU LENGTH MARK"),
  (0x1135D, "aGRANTHA SIGN PLUTA;bLETTER VEDIC ANUSVARA;dDOUBLE ANUSVARA;cVOCALIC RR;dLL"),
  (0x11362, "aGRANTHA VOWEL SIGN VOCALIC L;eLL"),
  (0x11366, "aCOMBINING GRANTHA DIGIT ZERO;dONE;dTWO;dTHREE;dFOUR;dFIVE;dSIX"),
  (0x11370, "aCOMBINING GRANTHA LETTER A;dKA;dNA;dVI;dPA"),
  (0x11400, "aNEWA LETTER A;cAA;cI;cII;cU;cUU;cVOCALIC R;dRR;dL;dLL;cE;cAI;cO;cAU;cKA;cKHA;cGA"),
  (0x11411, "aNEWA LETTER GHA;cNGA;cNGHA;cCA;cCHA;cJA;cJHA;cNYA;cNYHA;cTTA;cTTHA;cDDA;cDDHA;cNNA"),
  (0x1141F, "aNEWA LETTER TA;cTHA;cDA;cDHA;cNA;cNHA;cPA;cPHA;cBA;cBHA;cMA;cMHA;cYA;cRA;cRHA;cLA"),
  (0x1142F, "aNEWA LETTER LHA;cWA;cSHA;cSSA;cSA;cHA;bVOWEL SIGN AA;dI;dII;dU;dUU;dVOCALIC R;eRR"),
  (0x1143C, "aNEWA VOWEL SIGN VOCALIC L;eLL;dE;dAI;dO;dAU;bSIGN VIRAMA;cCANDRABINDU;cANUSVARA"),
  (0x11445, "aNEWA SIGN VISARGA;cNUKTA;cAVAGRAHA;cFINAL ANUSVARA;bOM;bSIDDHI;bDANDA;bDOUBLE DANDA"),
  (0x1144D, "aNEWA COMMA;bGAP FILLER;bABBREVIATION SIGN;bDIGIT ZERO;cONE;cTWO;cTHREE;cFOUR;cFIVE"),
  (0x11456, "aNEWA DIGIT SIX;cSEVEN;cEIGHT;cNINE;bDOUBLE COMMA;bPLACEHOLDER MARK"),
  (0x1145D, "aNEWA INSERTION SIGN;bSANDHI MARK;bLETTER VEDIC ANUSVARA;bSIGN JIHVAMULIYA"),
  (0x11461, "aNEWA SIGN UPADHMANIYA"),
  (0x11480, "aTIRHUTA ANJI;bLETTER A;cAA;cI;cII;cU;cUU;cVOCALIC R;dRR;dL;dLL;cE;cAI;cO;cAU;cKA"),
  (0x11490, "aTIRHUTA LETTER KHA;cGA;cGHA;cNGA;cCA;cCHA;cJA;cJHA;cNYA;cTTA;cTTHA;cDDA;cDDHA;cNNA"),
  (0x1149E, "aTIRHUTA LETTER TA;cTHA;cDA;cDHA;cNA;cPA;cPHA;cBA;cBHA;cMA;cYA;cRA;cLA;cVA;cSHA;cSSA"),
  (0x114AE, "aTIRHUTA LETTER SA;cHA;bVOWEL SIGN AA;dI;dII;dU;dUU;dVOCALIC R;eRR;eL;eLL;dE"),
  (0x114BA, "aTIRHUTA VOWEL SIGN SHORT E;dAI;dO;dSHORT O;dAU;bSIGN CANDRABINDU;cANUSVARA;cVISARGA"),
  (0x114C2, "aTIRHUTA SIGN VIRAMA;cNUKTA;cAVAGRAHA;bGVANG;bABBREVIATION SIGN;bOM"),
  (0x114D0, "aTIRHUTA DIGIT ZERO;cONE;cTWO;cTHREE;cFOUR;cFIVE;cSIX;cSEVEN;cEIGHT;cNINE"),
  (0x11580, "aSIDDHAM LETTER A;cAA;cI;cII;cU;cUU;cVOCALIC R;dRR;dL;dLL;cE;cAI;cO;cAU;cKA;cKHA;cGA"),
  (0x11591, "aSIDDHAM LETTER GHA;cNGA;cCA;cCHA;cJA;cJHA;cNYA;cTTA;cTTHA;cDDA;cDDHA;cNNA;cTA;cTHA"),
  (0x1159F, "aSIDDHAM LETTER DA;cDHA;cNA;cPA;cPHA;cBA;cBHA;cMA;cYA;cRA;cLA;cVA;cSHA;cSSA;cSA;cHA"),
  (0x115AF, "aSIDDHAM VOWEL SIGN AA;dI;dII;dU;dUU;dVOCALIC R;eRR"),
  (0x115B8, "aSIDDHAM VOWEL SIGN E;dAI;dO;dAU;bSIGN CANDRABINDU;cANUSVARA;cVISARGA;cVIRAMA;cNUKTA"),
  (0x115C1, "aSIDDHAM SIGN SIDDHAM;bDANDA;bDOUBLE DANDA;bSEPARATOR DOT;cBAR;bREPETITION MARK-1"),
  (0x115C7, "aSIDDHAM REPETITION MARK-2;cMARK-3;bEND OF TEXT MARK"),
  (0x115CA, "aSIDDHAM SECTION MARK WITH TRIDENT AND U-SHAPED ORNAMENTS;gDOTTED CRESCENTS"),
  (0x115CC, "aSIDDHAM SECTION MARK WITH RAYS AND DOTTED CRESCENTS;hDOUBLE CRESCENTS"),
  (0x115CE, "aSIDDHAM SECTION MARK WITH RAYS AND DOTTED TRIPLE CRESCENTS;dDOUBLE RING;fWITH RAYS"),
  (0x115D1, "aSIDDHAM SECTION MARK WITH DOUBLE CRESCENTS;eTRIPLE CRESCENTS;eQUADRUPLE CRESCENTS"),
  (0x115D4, "aSIDDHAM SECTION MARK WITH SEPTUPLE CRESCENTS;eCIRCLES AND RAYS;gTWO ENCLOSURES"),
  (0x115D7, "aSIDDHAM SECTION MARK WITH CIRCLES AND FOUR ENCLOSURES"),
  (0x115D8, "aSIDDHAM LETTER THREE-CIRCLE ALTERNATE I;cTWO-CIRCLE ALTERNATE I;eII;cALTERNATE U"),
  (0x115DC, "aSIDDHAM VOWEL SIGN ALTERNATE U;eUU"),
  (0x11600, "aMODI LETTER A;cAA;cI;cII;cU;cUU;cVOCALIC R;dRR;dL;dLL;cE;cAI;cO;cAU;cKA;cKHA;cGA"),
  (0x11611, "aMODI LETTER GHA;cNGA;cCA;cCHA;cJA;cJHA;cNYA;cTTA;cTTHA;cDDA;cDDHA;cNNA;cTA;cTHA;cDA"),
  (0x11620, "aMODI LETTER DHA;cNA;cPA;cPHA;cBA;cBHA;cMA;cYA;cRA;cLA;cVA;cSHA;cSSA;cSA;cHA;cLLA"),
  (0x11630, "aMODI VOWEL SIGN AA;dI;dII;dU;dUU;dVOCALIC R;eRR;eL;eLL;dE;dAI;dO;dAU;bSIGN ANUSVARA"),
  (0x1163E, "aMODI SIGN VISARGA;cVIRAMA;cARDHACANDRA;bDANDA;bDOUBLE DANDA;bABBREVIATION SIGN"),
  (0x11644, "aMODI SIGN HUVA"),
  (0x11650, "aMODI DIGIT ZERO;cONE;cTWO;cTHREE;cFOUR;cFIVE;cSIX;cSEVEN;cEIGHT;cNINE"),
  (0x11660, "aMONGOLIAN BIRGA WITH ORNAMENT;bROTATED BIRGA;bDOUBLE BIRGA WITH ORNAMENT"),
  (0x11663, "aMONGOLIAN TRIPLE BIRGA WITH ORNAMENT;bBIRGA WITH DOUBLE ORNAMENT"),
  (0x11665, "aMONGOLIAN ROTATED BIRGA WITH ORNAMENT;eDOUBLE ORNAMENT;bINVERTED BIRGA"),
  (0x11668, "aMONGOLIAN INVERTED BIRGA WITH DOUBLE ORNAMENT;bSWIRL BIRGA;dWITH ORNAMENT"),
  (0x1166B, "aMONGOLIAN SWIRL BIRGA WITH DOUBLE ORNAMENT;bTURNED SWIRL BIRGA WITH DOUBLE ORNAMENT"),
  (0x11680, "aTAKRI LETTER A;cAA;cI;cII;cU;cUU;cE;cAI;cO;cAU;cKA;cKHA;cGA;cGHA;cNGA;cCA;cCHA;cJA"),
  (0x11692, "aTAKRI LETTER JHA;cNYA;cTTA;cTTHA;cDDA;cDDHA;cNNA;cTA;cTHA;cDA;cDHA;cNA;cPA;cPHA;cBA"),
  (0x116A1, "aTAKRI LETTER BHA;cMA;cYA;cRA;cLA;cVA;cSHA;cSA;cHA;cRRA;bSIGN ANUSVARA;cVISARGA"),
  (0x116AD, "aTAKRI VOWEL SIGN AA;dI;dII;dU;dUU;dE;dAI;dO;dAU;bSIGN VIRAMA;cNUKTA")]

/-- The lines of names from U+116B8 on. -/
def namesFrom116B8 : List (Nat × String) := [
  (0x116B8, "aTAKRI LETTER ARCHAIC KHA;bABBREVIATION SIGN"),
  (0x116C0, "aTAKRI DIGIT ZERO;cONE;cTWO;cTHREE;cFOUR;cFIVE;cSIX;cSEVEN;cEIGHT;cNINE"),
  (0x11700, "aAHOM LETTER KA;cKHA;cNGA;cNA;cTA;cALTERNATE TA;cPA;cPHA;cBA;cMA;cJA;cCHA;cTHA;cRA"),
  (0x1170E, "aAHOM LETTER LA;cSA;cNYA;cHA;cA;cDA;cDHA;cGA;cALTERNATE GA;cGHA;cBHA;cJHA"),
  (0x1171A, "aAHOM LETTER ALTERNATE BA"),
  (0x1171D, "aAHOM CONSONANT SIGN MEDIAL LA;eRA;eLIGATING RA;bVOWEL SIGN A;dAA;dI;dII;dU;dUU;dE"),
  (0x11727, "aAHOM VOWEL SIGN AW;dO;dAI;dAM;bSIGN KILLER"),
  (0x11730, "aAHOM DIGIT ZERO;cONE;cTWO;cTHREE;cFOUR;cFIVE;cSIX;cSEVEN;cEIGHT;cNINE;bNUMBER TEN"),
  (0x1173B, "aAHOM NUMBER TWENTY;bSIGN SMALL SECTION;cSECTION;cRULAI;bSYMBOL VI;bLETTER CA;cTTA"),
  (0x11742, "aAHOM LETTER TTHA;cDDA;cDDHA;cNNA;cLLA"),
  (0x11800, "aDOGRA LETTER A;cAA;cI;cII;cU;cUU;cE;cAI;cO;cAU;cKA;cKHA;cGA;cGHA;cNGA;cCA;cCHA;cJA"),
  (0x11812, "aDOGRA LETTER JHA;cNYA;cTTA;cTTHA;cDDA;cDDHA;cNNA;cTA;cTHA;cDA;cDHA;cNA;cPA;cPHA;cBA"),
  (0x11821, "aDOGRA LETTER BHA;cMA;cYA;cRA;cLA;cVA;cSHA;cSSA;cSA;cHA;cRRA;bVOWEL SIGN AA;dI;dII"),
  (0x1182F, "aDOGRA VOWEL SIGN U;dUU;dVOCALIC R;eRR;dE;dAI;dO;dAU;bSIGN ANUSVARA;cVISARGA;cVIRAMA"),
  (0x1183A, "aDOGRA SIGN NUKTA;bABBREVIATION SIGN"),
  (0x118A0, "aWARANG CITI CAPITAL LETTER NGAA;eA;eWI;eYU;eYA;eYO;eII;eUU;eE;eO;eANG;eGA;eKO;eENY"),
  (0x118AE, "aWARANG CITI CAPITAL LETTER YUJ;eUC;eENN;eODD;eTTE;eNUNG;eDA;eAT;eAM;eBU;ePU;eHIYO"),
  (0x118BA, "aWARANG CITI CAPITAL LETTER HOLO;eHORR;eHAR;eSSUU;eSII;eVIYO;cSMALL LETTER NGAA;eA"),
  (0x118C2, "aWARANG CITI SMALL LETTER WI;eYU;eYA;eYO;eII;eUU;eE;eO;eANG;eGA;eKO;eENY;eYUJ;eUC"),
  (0x118D0, "aWARANG CITI SMALL LETTER ENN;eODD;eTTE;eNUNG;eDA;eAT;eAM;eBU;ePU;eHIYO;eHOLO;eHORR"),
  (0x118DC, "aWARANG CITI SMALL LETTER HAR;eSSUU;eSII;eVIYO;cDIGIT ZERO;dONE;dTWO;dTHREE;dFOUR"),
  (0x118E5, "aWARANG CITI DIGIT FIVE;dSIX;dSEVEN;dEIGHT;dNINE;cNUMBER TEN;dTWENTY;dTHIRTY;dFORTY"),
  (0x118EE, "aWARANG CITI NUMBER FIFTY;dSIXTY;dSEVENTY;dEIGHTY;dNINETY"),
  (0x118FF, "aWARANG CITI OM;aDIVES AKURU LETTER A;dAA;dI;dII;dU;dUU;dE"),
  (0x11909, "aDIVES AKURU LETTER O"),
  (0x1190C, "aDIVES AKURU LETTER KA;dKHA;dGA;dGHA;dNGA;dCA;dCHA;dJA"),
  (0x11915, "aDIVES AKURU LETTER NYA;dTTA"),
  (0x11918, "aDIVES AKURU LETTER DDA;dDDHA;dNNA;dTA;dTHA;dDA;dDHA;dNA;dPA;dPHA;dBA;dBHA;dMA;dYA"),
  (0x11926, "aDIVES AKURU LETTER YYA;dRA;dLA;dVA;dSHA;dSSA;dSA;dHA;dLLA;dZA;cVOWEL SIGN AA;eI;eII"),
  (0x11933, "aDIVES AKURU VOWEL SIGN U;eUU;eE"),
  (0x11937, "aDIVES AKURU VOWEL SIGN AI;eO"),
  (0x1193B, "aDIVES AKURU SIGN ANUSVARA;dCANDRABINDU;dHALANTA;cVIRAMA;cPREFIXED NASAL SIGN"),
  (0x11940, "aDIVES AKURU MEDIAL YA;cINITIAL RA;cMEDIAL RA;cSIGN NUKTA;cDOUBLE DANDA;cGAP FILLER"),
  (0x11946, "aDIVES AKURU END OF TEXT MARK"),
  (0x11950, "aDIVES AKURU DIGIT ZERO;dONE;dTWO;dTHREE;dFOUR;dFIVE;dSIX;dSEVEN;dEIGHT;dNINE"),
  (0x119A0, "aNANDINAGARI LETTER A;cAA;cI;cII;cU;cUU;cVOCALIC R;dRR"),
  (0x119AA, "aNANDINAGARI LETTER E;cAI;cO;cAU;cKA;cKHA;cGA;cGHA;cNGA;cCA;cCHA;cJA;cJHA;cNYA;cTTA"),
  (0x119B9, "aNANDINAGARI LETTER TTHA;cDDA;cDDHA;cNNA;cTA;cTHA;cDA;cDHA;cNA;cPA;cPHA;cBA;cBHA;cMA"),
  (0x119C7, "aNANDINAGARI LETTER YA;cRA;cLA;cVA;cSHA;cSSA;cSA;cHA;cLLA;cRRA;bVOWEL SIGN AA;dI;dII"),
  (0x119D4, "aNANDINAGARI VOWEL SIGN U;dUU;dVOCALIC R;eRR"),
  (0x119DA, "aNANDINAGARI VOWEL SIGN E;dAI;dO;dAU;bSIGN ANUSVARA;cVISARGA;cVIRAMA;cAVAGRAHA"),
  (0x119E2, "aNANDINAGARI SIGN SIDDHAM;bHEADSTROKE;bVOWEL SIGN PRISHTHAMATRA E"),
  (0x11A00, "aZANABAZAR SQUARE LETTER A;cVOWEL SIGN I;eUE;eU;eE;eOE;eO;eAI;eAU;eREVERSED I"),
  (0x11A0A, "aZANABAZAR SQUARE VOWEL LENGTH MARK;cLETTER KA;dKHA;dGA;dGHA;dNGA;dCA;dCHA;dJA;dNYA"),
  (0x11A14, "aZANABAZAR SQUARE LETTER TTA;dTTHA;dDDA;dDDHA;dNNA;dTA;dTHA;dDA;dDHA;dNA;dPA;dPHA"),
  (0x11A20, "aZANABAZAR SQUARE LETTER BA;dBHA;dMA;dTSA;dTSHA;dDZA;dDZHA;dZHA;dZA;d-A;dYA;dRA;dLA"),
  (0x11A2D, "aZANABAZAR SQUARE LETTER VA;dSHA;dSSA;dSA;dHA;dKSSA;cFINAL CONSONANT MARK"),
  (0x11A34, "aZANABAZAR SQUARE SIGN VIRAMA;dCANDRABINDU;eWITH ORNAMENT;dCANDRA WITH ORNAMENT"),
  (0x11A38, "aZANABAZAR SQUARE SIGN ANUSVARA;dVISARGA;cCLUSTER-INITIAL LETTER RA"),
  (0x11A3B, "aZANABAZAR SQUARE CLUSTER-FINAL LETTER YA;eRA;eLA;eVA;cINITIAL HEAD MARK"),
  (0x11A40, "aZANABAZAR SQUARE CLOSING HEAD MARK;cMARK TSHEG;dSHAD;dDOUBLE SHAD;dLONG TSHEG"),
  (0x11A45, "aZANABAZAR SQUARE INITIAL DOUBLE-LINED HEAD MARK;cCLOSING DOUBLE-LINED HEAD MARK"),
  (0x11A47, "aZANABAZAR SQUARE SUBJOINER"),
  (0x11A50, "aSOYOMBO LETTER A;bVOWEL SIGN I;dUE;dU;dE;dO;dOE;dAI;dAU;dVOCALIC R;eL;cLENGTH MARK"),
  (0x11A5C, "aSOYOMBO LETTER KA;cKHA;cGA;cGHA;cNGA;cCA;cCHA;cJA;cJHA;cNYA;cTTA;cTTHA;cDDA;cDDHA"),
  (0x11A6A, "aSOYOMBO LETTER NNA;cTA;cTHA;cDA;cDHA;cNA;cPA;cPHA;cBA;cBHA;cMA;cTSA;cTSHA;cDZA;cZHA"),
  (0x11A79, "aSOYOMBO LETTER ZA;c-A;cYA;cRA;cLA;cVA;cSHA;cSSA;cSA;cHA;cKSSA;bSIGN JIHVAMULIYA"),
  (0x11A85, "aSOYOMBO SIGN UPADHMANIYA;bCLUSTER-INITIAL LETTER RA;dLA;dSHA;dSA"),
  (0x11A8A, "aSOYOMBO FINAL CONSONANT SIGN G;eK;eNG;eD;eN;eB;eM;eR;eL;eSH;eS;e-A;bSIGN ANUSVARA"),
  (0x11A97, "aSOYOMBO SIGN VISARGA;bGEMINATION MARK;bSUBJOINER;bMARK TSHEG;cSHAD;cDOUBLE SHAD"),
  (0x11A9D, "aSOYOMBO MARK PLUTA;bHEAD MARK WITH MOON AND SUN AND TRIPLE FLAME;iFLAME;h"),
  (0x11AA1, "aSOYOMBO TERMINAL MARK-1;cMARK-2"),
  (0x11AB0, "aCANADIAN SYLLABICS NATTILIK HI;dHII;dHO;dHOO;dHA;dHAA;dSHRI;dSHRII;dSHRO;dSHROO"),
  (0x11ABA, "aCANADIAN SYLLABICS NATTILIK SHRA;dSHRAA;cSPE;cSPI;cSPO;cSPA;aPAU CIN HAU LETTER PA"),
  (0x11AC1, "aPAU CIN HAU LETTER KA;eLA;eMA;eDA;eZA;eVA;eNGA;eHA;eGA;eKHA;eSA;eBA;eCA;eTA;eTHA"),
  (0x11AD0, "aPAU CIN HAU LETTER NA;ePHA;eRA;eFA;eCHA;eA;eE;eI;eO;eU;eUA;eIA;eFINAL P;fK;fT;fM;fN"),
  (0x11AE1, "aPAU CIN HAU LETTER FINAL L;fW;fNG;fY;dRISING TONE LONG;f;dSANDHI GLOTTAL STOP"),
  (0x11AE8, "aPAU CIN HAU RISING TONE LONG FINAL;fFINAL;dSANDHI GLOTTAL STOP FINAL;eTONE LONG;f"),
  (0x11AED, "aPAU CIN HAU SANDHI TONE LONG FINAL;fFINAL;dMID-LEVEL TONE;dGLOTTAL STOP VARIANT"),
  (0x11AF1, "aPAU CIN HAU MID-LEVEL TONE LONG FINAL;fFINAL;dLOW-FALLING TONE LONG;f;dGLOTTAL STOP"),
  (0x11AF6, "aPAU CIN HAU LOW-FALLING TONE LONG FINAL;fFINAL;dGLOTTAL STOP FINAL"),
  (0x11C00, "aBHAIKSUKI LETTER A;cAA;cI;cII;cU;cUU;cVOCALIC R;dRR;dL"),
  (0x11C0A, "aBHAIKSUKI LETTER E;cAI;cO;cAU;cKA;cKHA;cGA;cGHA;cNGA;cCA;cCHA;cJA;cJHA;cNYA;cTTA"),
  (0x11C19, "aBHAIKSUKI LETTER TTHA;cDDA;cDDHA;cNNA;cTA;cTHA;cDA;cDHA;cNA;cPA;cPHA;cBA;cBHA;cMA"),
  (0x11C27, "aBHAIKSUKI LETTER YA;cRA;cLA;cVA;cSHA;cSSA;cSA;cHA;bVOWEL SIGN AA;dI;dII;dU;dUU"),
  (0x11C34, "aBHAIKSUKI VOWEL SIGN VOCALIC R;eRR;eL"),
  (0x11C38, "aBHAIKSUKI VOWEL SIGN E;dAI;dO;dAU;bSIGN CANDRABINDU;cANUSVARA;cVISARGA;cVIRAMA"),
  (0x11C40, "aBHAIKSUKI SIGN AVAGRAHA;bDANDA;bDOUBLE DANDA;bWORD SEPARATOR;bGAP FILLER-1"),
  (0x11C45, "aBHAIKSUKI GAP FILLER-2"),
  (0x11C50, "aBHAIKSUKI DIGIT ZERO;cONE;cTWO;cTHREE;cFOUR;cFIVE;cSIX;cSEVEN;cEIGHT;cNINE"),
  (0x11C5A, "aBHAIKSUKI NUMBER ONE;cTWO;cTHREE;cFOUR;cFIVE;cSIX;cSEVEN;cEIGHT;cNINE;cTEN;cTWENTY"),
  (0x11C65, "aBHAIKSUKI NUMBER THIRTY;cFORTY;cFIFTY;cSIXTY;cSEVENTY;cEIGHTY;cNINETY"),
  (0x11C6C, "aBHAIKSUKI HUNDREDS UNIT MARK"),
  (0x11C70, "aMARCHEN HEAD MARK;bMARK SHAD;bLETTER KA;cKHA;cGA;cNGA;cCA;cCHA;cJA;cNYA;cTA;cTHA"),
  (0x11C7C, "aMARCHEN LETTER DA;cNA;cPA;cPHA;cBA;cMA;cTSA;cTSHA;cDZA;cWA;cZHA;cZA;c-A;cYA;cRA;cLA"),
  (0x11C8C, "aMARCHEN LETTER SHA;cSA;cHA;cA"),
  (0x11C92, "aMARCHEN SUBJOINED LETTER KA;dKHA;dGA;dNGA;dCA;dCHA;dJA;dNYA;dTA;dTHA;dDA;dNA;dPA"),
  (0x11C9F, "aMARCHEN SUBJOINED LETTER PHA;dBA;dMA;dTSA;dTSHA;dDZA;dWA;dZHA;dZA"),
  (0x11CA9, "aMARCHEN SUBJOINED LETTER YA;dRA;dLA;dSHA;dSA;dHA;dA;bVOWEL SIGN AA;dI;dU;dE;dO"),
  (0x11CB5, "aMARCHEN SIGN ANUSVARA;cCANDRABINDU"),
  (0x11D00, "aMASARAM GONDI LETTER A;dAA;dI;dII;dU;dUU;dE"),
  (0x11D08, "aMASARAM GONDI LETTER AI;dO"),
  (0x11D0B, "aMASARAM GONDI LETTER AU;dKA;dKHA;dGA;dGHA;dNGA;dCA;dCHA;dJA;dJHA;dNYA;dTTA;dTTHA"),
  (0x11D18, "aMASARAM GONDI LETTER DDA;dDDHA;dNNA;dTA;dTHA;dDA;dDHA;dNA;dPA;dPHA;dBA;dBHA;dMA;dYA"),
  (0x11D26, "aMASARAM GONDI LETTER RA;dLA;dVA;dSHA;dSSA;dSA;dHA;dLLA;dKSSA;dJNYA;dTRA"),
  (0x11D31, "aMASARAM GONDI VOWEL SIGN AA;eI;eII;eU;eUU;eVOCALIC R"),
  (0x11D3A, "aMASARAM GONDI VOWEL SIGN E"),
  (0x11D3C, "aMASARAM GONDI VOWEL SIGN AI;eO"),
  (0x11D3F, "aMASARAM GONDI VOWEL SIGN AU;cSIGN ANUSVARA;dVISARGA;dNUKTA;dCANDRA;dHALANTA;cVIRAMA"),
  (0x11D46, "aMASARAM GONDI REPHA;cRA-KARA"),
  (0x11D50, "aMASARAM GONDI DIGIT ZERO;dONE;dTWO;dTHREE;dFOUR;dFIVE;dSIX;dSEVEN;dEIGHT;dNINE"),
  (0x11D60, "aGUNJALA GONDI LETTER A;dAA;dI;dII;dU;dUU"),
  (0x11D67, "aGUNJALA GONDI LETTER EE;dAI"),
  (0x11D6A, "aGUNJALA GONDI LETTER OO;dAU;dYA;dVA;dBA;dBHA;dMA;dKA;dKHA;dTA;dTHA;dLA;dGA;dGHA;dDA"),
  (0x11D79, "aGUNJALA GONDI LETTER DHA;dNA;dCA;dCHA;dTTA;dTTHA;dLLA;dJA;dJHA;dDDA;dDDHA;dNGA;dPA"),
  (0x11D86, "aGUNJALA GONDI LETTER PHA;dHA;dRA;dSA;cVOWEL SIGN AA;eI;eII;eU;eUU"),
  (0x11D90, "aGUNJALA GONDI VOWEL SIGN EE;eAI"),
  (0x11D93, "aGUNJALA GONDI VOWEL SIGN OO;eAU;cSIGN ANUSVARA;dVISARGA;cVIRAMA;cOM"),
  (0x11DA0, "aGUNJALA GONDI DIGIT ZERO;dONE;dTWO;dTHREE;dFOUR;dFIVE;dSIX;dSEVEN;dEIGHT;dNINE"),
  (0x11EE0, "aMAKASAR LETTER KA;cGA;cNGA;cPA;cBA;cMA;cTA;cDA;cNA;cCA;cJA;cNYA;cYA;cRA;cLA;cVA;cSA"),
  (0x11EF1, "aMAKASAR LETTER A;bANGKA;bVOWEL SIGN I;dU;dE;dO;bPASSIMBANG;bEND OF SECTION"),
  (0x11FB0, "aLISU LETTER YHA"),
  (0x11FC0, "aTAMIL FRACTION ONE THREE-HUNDRED-AND-TWENTIETH;dONE-HUNDRED-AND-SIXTIETH;dEIGHTIETH"),
  (0x11FC3, "aTAMIL FRACTION ONE SIXTY-FOURTH;dFORTIETH;dTHIRTY-SECOND;cTHREE EIGHTIETHS"),
  (0x11FC7, "aTAMIL FRACTION THREE SIXTY-FOURTHS;cONE TWENTIETH;dSIXTEENTH-1;dSIXTEENTH-2;dTENTH"),
  (0x11FCC, "aTAMIL FRACTION ONE EIGHTH;cTHREE TWENTIETHS;dSIXTEENTHS;cONE FIFTH;dQUARTER;dHALF-1"),
  (0x11FD2, "aTAMIL FRACTION ONE HALF-2;cTHREE QUARTERS;cDOWNSCALING FACTOR KIIZH;bSIGN NEL"),
  (0x11FD6, "aTAMIL SIGN CEVITU;cAAZHAAKKU;cUZHAKKU;cMUUVUZHAKKU;cKURUNI;cPATHAKKU;cMUKKURUNI"),
  (0x11FDD, "aTAMIL SIGN KAACU;cPANAM;cPON;cVARAAKAN;cPAARAM;cKUZHI;cVELI;bWET CULTIVATION SIGN"),
  (0x11FE5, "aTAMIL DRY CULTIVATION SIGN;bLAND SIGN;bSALT PAN SIGN;bTRADITIONAL CREDIT SIGN"),
  (0x11FE9, "aTAMIL TRADITIONAL NUMBER SIGN;bCURRENT SIGN;bAND ODD SIGN;bSPENT SIGN;bTOTAL SIGN"),
  (0x11FEE, "aTAMIL IN POSSESSION SIGN;bSTARTING FROM SIGN;bSIGN MUTHALIYA;cVAKAIYARAA"),
  (0x11FFF, "aTAMIL PUNCTUATION END OF TEXT;aCUNEIFORM SIGN A;dTIMES A;eBAD;eGAN2 TENU;eHA;eIGI"),
  (0x12006, "aCUNEIFORM SIGN A TIMES LAGAR GUNU;eMUSH;eSAG;cA2;cAB;dTIMES ASH2;eDUN3 GUNU;eGAL"),
  (0x1200E, "aCUNEIFORM SIGN AB TIMES GAN2 TENU;eHA;eIGI GUNU;eIMIN;eLAGAB;eSHESH"),
  (0x12014, "aCUNEIFORM SIGN AB TIMES U PLUS U PLUS U;dGUNU;cAB2;dTIMES BALAG;eGAN2 TENU"),
  (0x12019, "aCUNEIFORM SIGN AB2 TIMES ME PLUS EN;eSHA3;eTAK4;cAD;cAK;dTIMES ERIN2"),
  (0x1201F, "aCUNEIFORM SIGN AK TIMES SHITA PLUS GISH;cAL;dTIMES AL;eDIM2;eGISH;eHA;eKAD3;eKI"),
  (0x12027, "aCUNEIFORM SIGN AL TIMES SHE;eUSH;cALAN;cALEPH;cAMAR;dTIMES SHE;cAN;dOVER AN"),
  (0x1202F, "aCUNEIFORM SIGN AN THREE TIMES;dPLUS NAGA OPPOSING AN PLUS NAGA;fSQUARED;cANSHE"),
  (0x12033, "aCUNEIFORM SIGN APIN;cARAD;dTIMES KUR;cARKAB;cASAL2;cASH;dZIDA TENU;dKABA TENU"),
  (0x1203B, "aCUNEIFORM SIGN ASH OVER ASH TUG2 OVER TUG2 TUG2 OVER TUG2 PAP;fOVER ASH"),
  (0x1203D, "aCUNEIFORM SIGN ASH OVER ASH OVER ASH CROSSING ASH OVER ASH OVER ASH;cASH2;cASHGAB"),
  (0x12040, "aCUNEIFORM SIGN BA;cBAD;cBAG3;cBAHAR2;cBAL;dOVER BAL;cBALAG;cBAR;cBARA2;cBI;dTIMES A"),
  (0x1204B, "aCUNEIFORM SIGN BI TIMES GAR;eIGI GUNU;cBU;dOVER BU AB;fUN;dCROSSING BU;cBULUG"),
  (0x12052, "aCUNEIFORM SIGN BULUG OVER BULUG;cBUR;cBUR2;cDA;cDAG;dKISIM5 TIMES A PLUS MASH;fAMAR"),
  (0x12059, "aCUNEIFORM SIGN DAG KISIM5 TIMES BALAG;fBI;fGA;gPLUS MASH;fGI;fGIR2;fGUD;fHA;fIR"),
  (0x12062, "aCUNEIFORM SIGN DAG KISIM5 TIMES IR PLUS LU;fKAK;fLA;fLU;gPLUS MASH2;fLUM;fNE"),
  (0x12069, "aCUNEIFORM SIGN DAG KISIM5 TIMES PAP PLUS PAP;fSI;fTAK4;fU2 PLUS GIR2;fUSH;cDAM;cDAR"),
  (0x12070, "aCUNEIFORM SIGN DARA3;cDARA4;cDI;cDIB;cDIM;dTIMES SHE;cDIM2;cDIN;dKASKAL U GUNU DISH"),
  (0x12079, "aCUNEIFORM SIGN DISH;cDU;dOVER DU;dGUNU;dSHESHIG;cDUB;dTIMES ESH2;cDUB2;cDUG;cDUGUD"),
  (0x12083, "aCUNEIFORM SIGN DUH;cDUN;cDUN3;dGUNU;eGUNU;cDUN4;cDUR2;cE;dTIMES PAP"),
  (0x1208C, "aCUNEIFORM SIGN E OVER E NUN OVER NUN;cE2;dTIMES A PLUS HA PLUS DA;eGAR;eMI;eSAL"),
  (0x12092, "aCUNEIFORM SIGN E2 TIMES SHE;eU;cEDIN;cEGIR;cEL;cEN;dTIMES GAN2;fTENU;eME"),
  (0x1209B, "aCUNEIFORM SIGN EN CROSSING EN;dOPPOSING EN;dSQUARED;cEREN;cERIN2;cESH2;cEZEN"),
  (0x120A2, "aCUNEIFORM SIGN EZEN TIMES A;fPLUS LAL;hTIMES LAL;eAN;eBAD;eDUN3 GUNU;gGUNU;eHA"),
  (0x120AA, "aCUNEIFORM SIGN EZEN TIMES HA GUNU;eIGI GUNU;eKASKAL;fSQUARED;eKU3;eLA"),
  (0x120B0, "aCUNEIFORM SIGN EZEN TIMES LAL TIMES LAL;eLI;eLU;eU2;eUD;cGA;dGUNU;cGA2"),
  (0x120B8, "aCUNEIFORM SIGN GA2 TIMES A PLUS DA PLUS HA;gHA;gIGI;eAB2 TENU PLUS TAB;eAN;eASH"),
  (0x120BE, "aCUNEIFORM SIGN GA2 TIMES ASH2 PLUS GAL;eBAD;eBAR PLUS RA;eBUR;fPLUS RA;eDA;eDI"),
  (0x120C5, "aCUNEIFORM SIGN GA2 TIMES DIM TIMES SHE;eDUB;eEL;fPLUS LA;eEN;fTIMES GAN2 TENU"),
  (0x120CB, "aCUNEIFORM SIGN GA2 TIMES GAN2 TENU;eGAR;eGI;eGI4;fPLUS A;eGIR2 PLUS SU"),
  (0x120D1, "aCUNEIFORM SIGN GA2 TIMES HA PLUS LU PLUS ESH2;eHAL;fPLUS LA;eHI PLUS LI;eHUB2"),
  (0x120D6, "aCUNEIFORM SIGN GA2 TIMES IGI GUNU;eISH PLUS HU PLUS ASH;eKAK;eKASKAL;eKID;fPLUS LAL"),
  (0x120DC, "aCUNEIFORM SIGN GA2 TIMES KU3 PLUS AN;eLA;eME PLUS EN;eMI;eNUN;fOVER NUN;ePA;eSAL"),
  (0x120E4, "aCUNEIFORM SIGN GA2 TIMES SAR;eSHE;fPLUS TUR;eSHID;eSUM;eTAK4;eU;eUD;fPLUS DU"),
  (0x120ED, "aCUNEIFORM SIGN GA2 OVER GA2;cGABA;dCROSSING GABA;cGAD;dOVER GAD GAR OVER GAR;cGAL"),
  (0x120F3, "aCUNEIFORM SIGN GAL GAD OVER GAD GAR OVER GAR;cGALAM;cGAM;cGAN;cGAN2;dTENU"),
  (0x120F9, "aCUNEIFORM SIGN GAN2 OVER GAN2;dCROSSING GAN2;cGAR;cGAR3;cGASHAN;cGESHTIN;dTIMES KUR"),
  (0x12100, "aCUNEIFORM SIGN GI;dTIMES E;eU;dCROSSING GI;cGI4;dOVER GI4;dCROSSING GI4;cGIDIM"),
  (0x12108, "aCUNEIFORM SIGN GIR2;dGUNU;cGIR3;dTIMES A PLUS IGI;eGAN2 TENU;eIGI;eLU PLUS IGI;ePA"),
  (0x12110, "aCUNEIFORM SIGN GISAL;cGISH;dCROSSING GISH;dTIMES BAD;eTAK4;dTENU;cGU;dCROSSING GU"),
  (0x12118, "aCUNEIFORM SIGN GU2;dTIMES KAK;fTIMES IGI GUNU;eNUN;eSAL PLUS TUG2;dGUNU;cGUD"),
  (0x1211F, "aCUNEIFORM SIGN GUD TIMES A PLUS KUR;eKUR;dOVER GUD LUGAL;cGUL;cGUM;dTIMES SHE;cGUR"),
  (0x12126, "aCUNEIFORM SIGN GUR7;cGURUN;cGURUSH;cHA;dTENU;dGUNU;cHAL;cHI;dTIMES ASH;eASH2;eBAD"),
  (0x12131, "aCUNEIFORM SIGN HI TIMES DISH;eGAD;eKIN;eNUN;eSHE;eU;cHU;cHUB2;dTIMES AN;eHAL"),
  (0x1213B, "aCUNEIFORM SIGN HUB2 TIMES KASKAL;eLISH;eUD;cHUL2;cI;dA;cIB;cIDIM;dOVER IDIM BUR"),
  (0x12144, "aCUNEIFORM SIGN IDIM OVER IDIM SQUARED;cIG;cIGI;dDIB;dRI"),
  (0x12149, "aCUNEIFORM SIGN IGI OVER IGI SHIR OVER SHIR UD OVER UD;dGUNU;cIL;dTIMES GAN2 TENU"),
  (0x1214D, "aCUNEIFORM SIGN IL2;cIM;dTIMES TAK4;dCROSSING IM;dOPPOSING IM;dSQUARED;cIMIN;cIN;cIR"),
  (0x12156, "aCUNEIFORM SIGN ISH;cKA;dTIMES A;eAD;fPLUS KU3;eASH2;eBAD;eBALAG;eBAR;eBI;eERIN2"),
  (0x12161, "aCUNEIFORM SIGN KA TIMES ESH2;eGA;eGAL;eGAN2 TENU;eGAR;fPLUS SHA3 PLUS A;eGI;eGIR2"),
  (0x12169, "aCUNEIFORM SIGN KA TIMES GISH PLUS SAR;fCROSSING GISH;eGU;eGUR7;eIGI;eIM;eKAK;eKI"),
  (0x12171, "aCUNEIFORM SIGN KA TIMES KID;eLI;eLU;eME;fPLUS DU;gGI;gTE;eMI;fPLUS NUNUZ;eNE;eNUN"),
  (0x1217C, "aCUNEIFORM SIGN KA TIMES PI;eRU;eSA;eSAR;eSHA;eSHE;eSHID;eSHU;eSIG;eSUHUR;eTAR;eU"),
  (0x12188, "aCUNEIFORM SIGN KA TIMES U2;eUD;eUMUM TIMES PA;eUSH;eZI;cKA2;dCROSSING KA2;cKAB"),
  (0x12190, "aCUNEIFORM SIGN KAD2;cKAD3;cKAD4;cKAD5;dOVER KAD5;cKAK;dTIMES IGI GUNU;cKAL"),
  (0x12198, "aCUNEIFORM SIGN KAL TIMES BAD;dCROSSING KAL;cKAM2;cKAM4;cKASKAL"),
  (0x1219D, "aCUNEIFORM SIGN KASKAL LAGAB TIMES U OVER LAGAB TIMES U"),
  (0x1219E, "aCUNEIFORM SIGN KASKAL OVER KASKAL LAGAB TIMES U OVER LAGAB TIMES U;cKESH2;cKI"),
  (0x121A1, "aCUNEIFORM SIGN KI TIMES BAD;eU;eUD;cKID;cKIN;cKISAL;cKISH;cKISIM5;dOVER KISIM5;cKU"),
  (0x121AB, "aCUNEIFORM SIGN KU OVER HI TIMES ASH2 KU OVER HI TIMES ASH2;cKU3;cKU4;dVARIANT FORM"),
  (0x121AF, "aCUNEIFORM SIGN KU7;cKUL;dGUNU;cKUN;cKUR;dOPPOSING KUR;cKUSHU2;cKWU318;cLA;cLAGAB"),
  (0x121B9, "aCUNEIFORM SIGN LAGAB TIMES A;fPLUS DA PLUS HA;gGAR;gLAL;eAL;eAN;eASH ZIDA TENU;eBAD"),
  (0x121C1, "aCUNEIFORM SIGN LAGAB TIMES BI;eDAR;eEN;eGA;eGAR;eGUD;fPLUS GUD;eHA;eHAL"),
  (0x121CA, "aCUNEIFORM SIGN LAGAB TIMES HI TIMES NUN;eIGI GUNU;eIM;fPLUS HA;gLU;eKI;eKIN;eKU3"),
  (0x121D2, "aCUNEIFORM SIGN LAGAB TIMES KUL;fPLUS HI PLUS A;eLAGAB;eLISH;eLU;eLUL;eME;fPLUS EN"),
  (0x121DA, "aCUNEIFORM SIGN LAGAB TIMES MUSH;eNE;eSHE PLUS SUM;eSHITA PLUS GISH PLUS ERIN2;hTENU"),
  (0x121DF, "aCUNEIFORM SIGN LAGAB TIMES SHU2;fPLUS SHU2;eSUM;eTAG;eTAK4"),
  (0x121E4, "aCUNEIFORM SIGN LAGAB TIMES TE PLUS A PLUS SU PLUS NA;eU;fPLUS A;gU PLUS U"),
  (0x121E8, "aCUNEIFORM SIGN LAGAB TIMES U2 PLUS ASH;eUD;eUSH;dSQUARED;cLAGAR;dTIMES SHE"),
  (0x121EE, "aCUNEIFORM SIGN LAGAR TIMES SHE PLUS SUM;dGUNU;eOVER LAGAR GUNU SHE;cLAHSHU;cLAL"),
  (0x121F3, "aCUNEIFORM SIGN LAL TIMES LAL;cLAM;dTIMES KUR;fPLUS RU;cLI;cLIL;cLIMMU2;cLISH;cLU"),
  (0x121FC, "aCUNEIFORM SIGN LU TIMES BAD;cLU2;dTIMES AL;eBAD;eESH2;fTENU;eGAN2 TENU"),
  (0x12203, "aCUNEIFORM SIGN LU2 TIMES HI TIMES BAD;eIM;eKAD2;eKAD3;fPLUS ASH;eKI;eLA PLUS ASH"),
  (0x1220A, "aCUNEIFORM SIGN LU2 TIMES LAGAB;eME PLUS EN;eNE;eNU;eSI PLUS ASH;eSIK2 PLUS BU;eTUG2"),
  (0x12211, "aCUNEIFORM SIGN LU2 TENU;dCROSSING LU2;dOPPOSING LU2;dSQUARED;dSHESHIG;cLU3;cLUGAL"),
  (0x12218, "aCUNEIFORM SIGN LUGAL OVER LUGAL;dOPPOSING LUGAL;dSHESHIG;cLUH;cLUL;cLUM;dOVER LUM"),
  (0x1221F, "aCUNEIFORM SIGN LUM OVER LUM GAR OVER GAR;cMA;dTIMES TAK4;dGUNU;cMA2;cMAH;cMAR;cMASH"),
  (0x12227, "aCUNEIFORM SIGN MASH2;cME;cMES;cMI;cMIN;cMU;dOVER MU;cMUG;dGUNU;cMUNSUB;cMURGU2"),
  (0x12232, "aCUNEIFORM SIGN MUSH;dTIMES A;eKUR;eZA;dOVER MUSH;fTIMES A PLUS NA;dCROSSING MUSH"),
  (0x12239, "aCUNEIFORM SIGN MUSH3;dTIMES A;fPLUS DI;eDI;dGUNU;cNA;cNA2;cNAGA;dINVERTED"),
  (0x12242, "aCUNEIFORM SIGN NAGA TIMES SHU TENU;dOPPOSING NAGA;cNAGAR;cNAM NUTILLU;d;cNAM2;cNE"),
  (0x12249, "aCUNEIFORM SIGN NE TIMES A;eUD;dSHESHIG;cNI;dTIMES E;cNI2;cNIM;dTIMES GAN2 TENU"),
  (0x12251, "aCUNEIFORM SIGN NIM TIMES GAR PLUS GAN2 TENU;cNINDA2;dTIMES AN;eASH;fPLUS ASH;eGUD"),
  (0x12257, "aCUNEIFORM SIGN NINDA2 TIMES ME PLUS GAN2 TENU;eNE;eNUN;eSHE;fPLUS A AN;gASH"),
  (0x1225D, "aCUNEIFORM SIGN NINDA2 TIMES SHE PLUS ASH PLUS ASH;eU2 PLUS ASH;eUSH;cNISAG;cNU"),
  (0x12262, "aCUNEIFORM SIGN NU11;cNUN;dLAGAR TIMES GAR;fMASH;fSAL;gOVER NUN LAGAR TIMES SAL;fUSH"),
  (0x12269, "aCUNEIFORM SIGN NUN TENU;dOVER NUN;dCROSSING NUN;fLAGAR OVER LAGAR;cNUNUZ"),
  (0x1226E, "aCUNEIFORM SIGN NUNUZ AB2 TIMES ASHGAB;fBI;fDUG;fGUD;fIGI GUNU;fKAD3;fLA;fNE;fSILA3"),
  (0x12277, "aCUNEIFORM SIGN NUNUZ AB2 TIMES U2;dKISIM5 TIMES BI;gU;cPA;cPAD;cPAN;cPAP;cPESH2;cPI"),
  (0x12280, "aCUNEIFORM SIGN PI TIMES A;eAB;eBI;eBU;eE;eI;eIB;eU;eU2;dCROSSING PI;cPIRIG"),
  (0x1228B, "aCUNEIFORM SIGN PIRIG TIMES KAL;eUD;eZA;dOPPOSING PIRIG;cRA;cRAB;cRI;cRU;cSA"),
  (0x12294, "aCUNEIFORM SIGN SAG NUTILLU;d;dTIMES A;eDU;eDUB;eHA;eKAK;eKUR;eLUM;eMI;eNUN;eSAL"),
  (0x122A0, "aCUNEIFORM SIGN SAG TIMES SHID;eTAB;eU2;eUB;eUM;eUR;eUSH;dOVER SAG;dGUNU;cSAL"),
  (0x122AA, "aCUNEIFORM SIGN SAL LAGAB TIMES ASH2;cSANGA2;cSAR;cSHA;cSHA3;dTIMES A;eBAD;eGISH;eNE"),
  (0x122B3, "aCUNEIFORM SIGN SHA3 TIMES SHU2;eTUR;eU;fPLUS A;cSHA6;cSHAB6;cSHAR2;cSHE;dHU"),
  (0x122BC, "aCUNEIFORM SIGN SHE OVER SHE GAD OVER GAD GAR OVER GAR;fTAB OVER TAB GAR OVER GAR"),
  (0x122BE, "aCUNEIFORM SIGN SHEG9;cSHEN;cSHESH;cSHESH2;cSHESHLAM;cSHID;dTIMES A;eIM;cSHIM"),
  (0x122C7, "aCUNEIFORM SIGN SHIM TIMES A;eBAL;eBULUG;eDIN;eGAR;eIGI;fGUNU;eKUSHU2;eLUL;eMUG;eSAL")]

/-- The lines of names from U+122D2 on. -/
def namesFrom122D2 : List (Nat × String) := [
  (0x122D2, "aCUNEIFORM SIGN SHINIG;cSHIR;dTENU;dOVER SHIR BUR OVER BUR;cSHITA;cSHU"),
  (0x122D8, "aCUNEIFORM SIGN SHU OVER INVERTED SHU;cSHU2;cSHUBUR;cSI;dGUNU;cSIG;cSIG4"),
  (0x122DF, "aCUNEIFORM SIGN SIG4 OVER SIG4 SHU2;cSIK2;cSILA3;cSU;dOVER SU;cSUD;cSUD2;cSUHUR;cSUM"),
  (0x122E8, "aCUNEIFORM SIGN SUMASH;cSUR;cSUR9;cTA;dASTERISK;dTIMES HI;eMI;dGUNU;cTAB"),
  (0x122F1, "aCUNEIFORM SIGN TAB OVER TAB NI OVER NI DISH OVER DISH;dSQUARED;cTAG;dTIMES BI;eGUD"),
  (0x122F6, "aCUNEIFORM SIGN TAG TIMES SHE;eSHU;eTUG2;eUD;cTAK4;cTAR;cTE;dGUNU;cTI;dTENU;cTIL"),
  (0x12301, "aCUNEIFORM SIGN TIR;dTIMES TAK4;dOVER TIR;fGAD OVER GAD GAR OVER GAR;cTU;cTUG2;cTUK"),
  (0x12308, "aCUNEIFORM SIGN TUM;cTUR;dOVER TUR ZA OVER ZA;cU;dGUD;dU U"),
  (0x1230E, "aCUNEIFORM SIGN U OVER U PA OVER PA GAR OVER GAR;fSUR OVER SUR"),
  (0x12310, "aCUNEIFORM SIGN U OVER U U REVERSED OVER U REVERSED;cU2;cUB;cUD;dKUSHU2;dTIMES BAD"),
  (0x12316, "aCUNEIFORM SIGN UD TIMES MI;eU PLUS U PLUS U;jGUNU;dGUNU;dSHESHIG;eTIMES BAD;cUDUG"),
  (0x1231D, "aCUNEIFORM SIGN UM;dTIMES LAGAB;eME PLUS DA;eSHA3;eU;cUMBIN;cUMUM;dTIMES KASKAL;ePA"),
  (0x12326, "aCUNEIFORM SIGN UN;dGUNU;cUR;dCROSSING UR;dSHESHIG;cUR2;dTIMES A PLUS HA;gNA;eAL;eHA"),
  (0x12330, "aCUNEIFORM SIGN UR2 TIMES NUN;eU2;fPLUS ASH;gBI;cUR4;cURI;cURI3;cURU;dTIMES A"),
  (0x12339, "aCUNEIFORM SIGN URU TIMES ASHGAB;eBAR;eDUN;eGA;eGAL;eGAN2 TENU;eGAR;eGU;eHA;eIGI;eIM"),
  (0x12344, "aCUNEIFORM SIGN URU TIMES ISH;eKI;eLUM;eMIN;ePA;eSHE;eSIG4;eTU;eU PLUS GUD;eUD"),
  (0x1234E, "aCUNEIFORM SIGN URU TIMES URUDA;cURUDA;dTIMES U;cUSH;dTIMES A;eKU;eKUR;eTAK4;cUSHX"),
  (0x12357, "aCUNEIFORM SIGN USH2;cUSHUMX;cUTUKI;cUZ3;dTIMES KASKAL;cUZU;cZA;dTENU"),
  (0x1235F, "aCUNEIFORM SIGN ZA SQUARED TIMES KUR;cZAG;cZAMX;cZE2;cZI;dOVER ZI;cZI3;cZIB"),
  (0x12367, "aCUNEIFORM SIGN ZIB KABA TENU;cZIG;cZIZ2;cZU;cZU5;dTIMES A;cZUBUR;cZUM;cKAP ELAMITE"),
  (0x12370, "aCUNEIFORM SIGN AB TIMES NUN;cAB2 TIMES A;cAMAR TIMES KUG"),
  (0x12373, "aCUNEIFORM SIGN DAG KISIM5 TIMES U2 PLUS MASH;cDAG3;cDISH PLUS SHU;cDUB TIMES SHE"),
  (0x12377, "aCUNEIFORM SIGN EZEN TIMES GUD;eSHE;cGA2 TIMES AN PLUS KAK PLUS A;eASH2;cGE22;cGIG"),
  (0x1237D, "aCUNEIFORM SIGN HUSH;cKA TIMES ANSHE;eASH3;eGISH;eGUD;eHI TIMES ASH2;eLUM;ePA;eSHUL"),
  (0x12386, "aCUNEIFORM SIGN KA TIMES TU;eUR2;cLAGAB TIMES GI;cLU2 SHESHIG TIMES BAD"),
  (0x1238A, "aCUNEIFORM SIGN LU2 TIMES ESH2 PLUS LAL;eSHU;cMESH;cMUSH3 TIMES ZA;cNA4;cNIN;cNIN9"),
  (0x12391, "aCUNEIFORM SIGN NINDA2 TIMES BAL;eGI;cNU11 ROTATED NINETY DEGREES;cPESH2 ASTERISK"),
  (0x12395, "aCUNEIFORM SIGN PIR2;cSAG TIMES IGI GUNU;cTI2;cUM TIMES ME;cU U"),
  (0x12400, "aCUNEIFORM NUMERIC SIGN TWO ASH;dTHREE ASH;dFOUR ASH;dFIVE ASH;dSIX ASH;dSEVEN ASH"),
  (0x12406, "aCUNEIFORM NUMERIC SIGN EIGHT ASH;dNINE ASH;dTHREE DISH;dFOUR DISH;dFIVE DISH"),
  (0x1240B, "aCUNEIFORM NUMERIC SIGN SIX DISH;dSEVEN DISH;dEIGHT DISH;dNINE DISH;dFOUR U;dFIVE U"),
  (0x12411, "aCUNEIFORM NUMERIC SIGN SIX U;dSEVEN U;dEIGHT U;dNINE U;dONE GESH2;dTWO GESH2"),
  (0x12417, "aCUNEIFORM NUMERIC SIGN THREE GESH2;dFOUR GESH2;dFIVE GESH2;dSIX GESH2;dSEVEN GESH2"),
  (0x1241C, "aCUNEIFORM NUMERIC SIGN EIGHT GESH2;dNINE GESH2;dONE GESHU;dTWO GESHU;dTHREE GESHU"),
  (0x12421, "aCUNEIFORM NUMERIC SIGN FOUR GESHU;dFIVE GESHU;dTWO SHAR2;dTHREE SHAR2;fVARIANT FORM"),
  (0x12426, "aCUNEIFORM NUMERIC SIGN FOUR SHAR2;dFIVE SHAR2;dSIX SHAR2;dSEVEN SHAR2;dEIGHT SHAR2"),
  (0x1242B, "aCUNEIFORM NUMERIC SIGN NINE SHAR2;dONE SHARU;dTWO SHARU;dTHREE SHARU;fVARIANT FORM"),
  (0x12430, "aCUNEIFORM NUMERIC SIGN FOUR SHARU;dFIVE SHARU;dSHAR2 TIMES GAL PLUS DISH;hMIN"),
  (0x12434, "aCUNEIFORM NUMERIC SIGN ONE BURU;dTWO BURU;dTHREE BURU;fVARIANT FORM;dFOUR BURU"),
  (0x12439, "aCUNEIFORM NUMERIC SIGN FIVE BURU;dTHREE VARIANT FORM ESH16;gESH21"),
  (0x1243C, "aCUNEIFORM NUMERIC SIGN FOUR VARIANT FORM LIMMU;gLIMMU4;gLIMMU A;hB"),
  (0x12440, "aCUNEIFORM NUMERIC SIGN SIX VARIANT FORM ASH9;dSEVEN VARIANT FORM IMIN3;gIMIN A;hB"),
  (0x12444, "aCUNEIFORM NUMERIC SIGN EIGHT VARIANT FORM USSU;gUSSU3;dNINE VARIANT FORM ILIMMU"),
  (0x12447, "aCUNEIFORM NUMERIC SIGN NINE VARIANT FORM ILIMMU3;gILIMMU4;gILIMMU A;dTWO ASH TENU"),
  (0x1244B, "aCUNEIFORM NUMERIC SIGN THREE ASH TENU;dFOUR ASH TENU;dFIVE ASH TENU;dSIX ASH TENU"),
  (0x1244F, "aCUNEIFORM NUMERIC SIGN ONE BAN2;dTWO BAN2;dTHREE BAN2;dFOUR BAN2;fVARIANT FORM"),
  (0x12454, "aCUNEIFORM NUMERIC SIGN FIVE BAN2;fVARIANT FORM;dNIGIDAMIN;dNIGIDAESH;dONE ESHE3"),
  (0x12459, "aCUNEIFORM NUMERIC SIGN TWO ESHE3;dONE THIRD DISH;dTWO THIRDS DISH;dFIVE SIXTHS DISH"),
  (0x1245D, "aCUNEIFORM NUMERIC SIGN ONE THIRD VARIANT FORM A;dTWO THIRDS VARIANT FORM A"),
  (0x1245F, "aCUNEIFORM NUMERIC SIGN ONE EIGHTH ASH;eQUARTER ASH;dOLD ASSYRIAN ONE SIXTH;gQUARTER"),
  (0x12463, "aCUNEIFORM NUMERIC SIGN ONE QUARTER GUR;eHALF GUR;dELAMITE ONE THIRD;eTWO THIRDS"),
  (0x12467, "aCUNEIFORM NUMERIC SIGN ELAMITE FORTY;eFIFTY;dFOUR U VARIANT FORM"),
  (0x1246A, "aCUNEIFORM NUMERIC SIGN FIVE U VARIANT FORM;dSIX U VARIANT FORM"),
  (0x1246C, "aCUNEIFORM NUMERIC SIGN SEVEN U VARIANT FORM;dEIGHT U VARIANT FORM"),
  (0x1246E, "aCUNEIFORM NUMERIC SIGN NINE U VARIANT FORM"),
  (0x12470, "aCUNEIFORM PUNCTUATION SIGN OLD ASSYRIAN WORD DIVIDER;dVERTICAL COLON"),
  (0x12472, "aCUNEIFORM PUNCTUATION SIGN DIAGONAL COLON;eTRICOLON;eQUADCOLON"),
  (0x12480, "aCUNEIFORM SIGN AB TIMES NUN TENU;eSHU2;cAD TIMES ESH2;cBAD TIMES DISH TENU"),
  (0x12484, "aCUNEIFORM SIGN BAHAR2 TIMES AB2;eNI;eZA;cBU OVER BU TIMES NA2;cDA TIMES TAK4"),
  (0x12489, "aCUNEIFORM SIGN DAG TIMES KUR;cDIM TIMES IGI;eU U U;cDIM2 TIMES UD;cDUG TIMES ANSHE"),
  (0x1248E, "aCUNEIFORM SIGN DUG TIMES ASH;fAT LEFT;eDIN;eDUN;eERIN2;eGA;eGI;eGIR2 GUNU;eGISH;eHA"),
  (0x12498, "aCUNEIFORM SIGN DUG TIMES HI;eIGI GUNU;eKASKAL;eKUR;eKUSHU2;fPLUS KASKAL;eLAK-020"),
  (0x1249F, "aCUNEIFORM SIGN DUG TIMES LAM;fTIMES KUR;eLUH PLUS GISH;eMASH;eMES;eMI;eNI;ePI;eSHE"),
  (0x124A8, "aCUNEIFORM SIGN DUG TIMES SI GUNU;cE2 TIMES KUR;ePAP;cERIN2 X;cESH2 CROSSING ESH2"),
  (0x124AD, "aCUNEIFORM SIGN EZEN SHESHIG TIMES ASH;fHI;fIGI GUNU;fLA;fLAL;fME;fMES;fSU;dTIMES SU"),
  (0x124B6, "aCUNEIFORM SIGN GA2 TIMES BAHAR2;eDIM GUNU;eDUG TIMES IGI GUNU;gKASKAL;eEREN;eGA"),
  (0x124BC, "aCUNEIFORM SIGN GA2 TIMES GAR PLUS DI;gNE;eHA PLUS A;eKUSHU2 PLUS KASKAL;eLAM"),
  (0x124C1, "aCUNEIFORM SIGN GA2 TIMES LAM TIMES KUR;eLUH;eMUSH;eNE;fPLUS E2;gGI;eSHIM;eZIZ2"),
  (0x124C9, "aCUNEIFORM SIGN GABA ROTATED NINETY DEGREES;cGESHTIN TIMES U"),
  (0x124CB, "aCUNEIFORM SIGN GISH TIMES GISH CROSSING GISH;cGU2 TIMES IGI GUNU"),
  (0x124CD, "aCUNEIFORM SIGN GUD PLUS GISH TIMES TAK4;cHA TENU GUNU"),
  (0x124CF, "aCUNEIFORM SIGN HI TIMES ASH OVER HI TIMES ASH;cKA TIMES BU;eKA;eU U U;eUR"),
  (0x124D4, "aCUNEIFORM SIGN LAGAB TIMES ZU OVER ZU;cLAK-003;cLAK-021;cLAK-025;cLAK-030;cLAK-050"),
  (0x124DA, "aCUNEIFORM SIGN LAK-051;cLAK-062;cLAK-079 OVER LAK-079 GUNU;cLAK-080"),
  (0x124DE, "aCUNEIFORM SIGN LAK-081 OVER LAK-081;cLAK-092;cLAK-130;cLAK-142;cLAK-210;cLAK-219"),
  (0x124E4, "aCUNEIFORM SIGN LAK-220;cLAK-225;cLAK-228;cLAK-238;cLAK-265;cLAK-266;cLAK-343"),
  (0x124EB, "aCUNEIFORM SIGN LAK-347;cLAK-348;cLAK-383;cLAK-384;cLAK-390;cLAK-441;cLAK-449"),
  (0x124F2, "aCUNEIFORM SIGN LAK-449 TIMES GU;eIGI;ePAP PLUS LU3;gPAP PLUS LU3;eU2 PLUS BA"),
  (0x124F7, "aCUNEIFORM SIGN LAK-450;cLAK-457;cLAK-470;cLAK-483;cLAK-490;cLAK-492;cLAK-493"),
  (0x124FE, "aCUNEIFORM SIGN LAK-495;cLAK-550;cLAK-608;cLAK-617;dTIMES ASH;eBAD;eDUN3 GUNU GUNU"),
  (0x12505, "aCUNEIFORM SIGN LAK-617 TIMES KU3;eLA;eTAR;eTE;eU2;eUD;eURUDA;cLAK-636;cLAK-648"),
  (0x1250E, "aCUNEIFORM SIGN LAK-648 TIMES DUB;eGA;eIGI;fGUNU;eNI;ePAP PLUS PAP PLUS LU3"),
  (0x12514, "aCUNEIFORM SIGN LAK-648 TIMES SHESH PLUS KI;eUD;eURUDA;cLAK-724;cLAK-749"),
  (0x12519, "aCUNEIFORM SIGN LU2 GUNU TIMES ASH;dTIMES DISH;eHAL;ePAP;fPLUS PAP PLUS LU3;eTAK4"),
  (0x1251F, "aCUNEIFORM SIGN MI PLUS ZA7;cMUSH OVER MUSH TIMES GA;gKAK;cNINDA2 TIMES DIM GUNU"),
  (0x12523, "aCUNEIFORM SIGN NINDA2 TIMES GISH;eGUL;eHI;eKESH2;eLAK-050;eMASH;ePAP PLUS PAP;eU"),
  (0x1252B, "aCUNEIFORM SIGN NINDA2 TIMES U PLUS U;eURUDA;cSAG GUNU TIMES HA;dTIMES EN"),
  (0x1252F, "aCUNEIFORM SIGN SAG TIMES SHE AT LEFT;eTAK4;cSHA6 TENU;cSHE OVER SHE;dPLUS HUB2"),
  (0x12534, "aCUNEIFORM SIGN SHE PLUS NAM2;eSAR;cSHU2 PLUS DUG TIMES NI;eE2 TIMES AN"),
  (0x12538, "aCUNEIFORM SIGN SI TIMES TAK4;cTAK4 PLUS SAG;cTUM TIMES GAN2 TENU;eTHREE DISH"),
  (0x1253C, "aCUNEIFORM SIGN UR2 INVERTED;dTIMES UD;cURU TIMES DARA3;eLAK-668;eLU3;cZA7"),
  (0x12542, "aCUNEIFORM SIGN ZU OVER ZU PLUS SAR;cZU5 TIMES THREE DISH TENU"),
  (0x12F90, "aCYPRO-MINOAN SIGN CM001;cCM002;cCM004;cCM005;cCM006;cCM007;cCM008;cCM009;cCM010"),
  (0x12F99, "aCYPRO-MINOAN SIGN CM011;cCM012;cCM012B;cCM013;cCM015;cCM017;cCM019;cCM021;cCM023"),
  (0x12FA2, "aCYPRO-MINOAN SIGN CM024;cCM025;cCM026;cCM027;cCM028;cCM029;cCM030;cCM033;cCM034"),
  (0x12FAB, "aCYPRO-MINOAN SIGN CM035;cCM036;cCM037;cCM038;cCM039;cCM040;cCM041;cCM044;cCM046"),
  (0x12FB4, "aCYPRO-MINOAN SIGN CM047;cCM049;cCM050;cCM051;cCM052;cCM053;cCM054;cCM055;cCM056"),
  (0x12FBD, "aCYPRO-MINOAN SIGN CM058;cCM059;cCM060;cCM061;cCM062;cCM063;cCM064;cCM066;cCM067"),
  (0x12FC6, "aCYPRO-MINOAN SIGN CM068;cCM069;cCM070;cCM071;cCM072;cCM073;cCM074;cCM075;cCM075B"),
  (0x12FCF, "aCYPRO-MINOAN SIGN CM076;cCM078;cCM079;cCM080;cCM081;cCM082;cCM083;cCM084;cCM085"),
  (0x12FD8, "aCYPRO-MINOAN SIGN CM086;cCM087;cCM088;cCM089;cCM090;cCM091;cCM092;cCM094;cCM095"),
  (0x12FE1, "aCYPRO-MINOAN SIGN CM096;cCM097;cCM098;cCM099;cCM100;cCM101;cCM102;cCM103;cCM104"),
  (0x12FEA, "aCYPRO-MINOAN SIGN CM105;cCM107;cCM108;cCM109;cCM110;cCM112;cCM114;cCM301;cCM302"),
  (0x13000, "aEGYPTIAN HIEROGLYPH A001;cA002;cA003;cA004;cA005;cA005A;cA006;cA006A;cA006B;cA007"),
  (0x1300A, "aEGYPTIAN HIEROGLYPH A008;cA009;cA010;cA011;cA012;cA013;cA014;cA014A;cA015;cA016"),
  (0x13014, "aEGYPTIAN HIEROGLYPH A017;cA017A;cA018;cA019;cA020;cA021;cA022;cA023;cA024;cA025"),
  (0x1301E, "aEGYPTIAN HIEROGLYPH A026;cA027;cA028;cA029;cA030;cA031;cA032;cA032A;cA033;cA034"),
  (0x13028, "aEGYPTIAN HIEROGLYPH A035;cA036;cA037;cA038;cA039;cA040;cA040A;cA041;cA042;cA042A"),
  (0x13032, "aEGYPTIAN HIEROGLYPH A043;cA043A;cA044;cA045;cA045A;cA046;cA047;cA048;cA049;cA050"),
  (0x1303C, "aEGYPTIAN HIEROGLYPH A051;cA052;cA053;cA054;cA055;cA056;cA057;cA058;cA059;cA060"),
  (0x13046, "aEGYPTIAN HIEROGLYPH A061;cA062;cA063;cA064;cA065;cA066;cA067;cA068;cA069;cA070"),
  (0x13050, "aEGYPTIAN HIEROGLYPH B001;cB002;cB003;cB004;cB005;cB005A;cB006;cB007;cB008;cB009"),
  (0x1305A, "aEGYPTIAN HIEROGLYPH C001;cC002;cC002A;cC002B;cC002C;cC003;cC004;cC005;cC006;cC007"),
  (0x13064, "aEGYPTIAN HIEROGLYPH C008;cC009;cC010;cC010A;cC011;cC012;cC013;cC014;cC015;cC016"),
  (0x1306E, "aEGYPTIAN HIEROGLYPH C017;cC018;cC019;cC020;cC021;cC022;cC023;cC024;cD001;cD002"),
  (0x13078, "aEGYPTIAN HIEROGLYPH D003;cD004;cD005;cD006;cD007;cD008;cD008A;cD009;cD010;cD011"),
  (0x13082, "aEGYPTIAN HIEROGLYPH D012;cD013;cD014;cD015;cD016;cD017;cD018;cD019;cD020;cD021"),
  (0x1308C, "aEGYPTIAN HIEROGLYPH D022;cD023;cD024;cD025;cD026;cD027;cD027A;cD028;cD029;cD030"),
  (0x13096, "aEGYPTIAN HIEROGLYPH D031;cD031A;cD032;cD033;cD034;cD034A;cD035;cD036;cD037;cD038"),
  (0x130A0, "aEGYPTIAN HIEROGLYPH D039;cD040;cD041;cD042;cD043;cD044;cD045;cD046;cD046A;cD047"),
  (0x130AA, "aEGYPTIAN HIEROGLYPH D048;cD048A;cD049;cD050;cD050A;cD050B;cD050C;cD050D;cD050E"),
  (0x130B3, "aEGYPTIAN HIEROGLYPH D050F;cD050G;cD050H;cD050I;cD051;cD052;cD052A;cD053;cD054"),
  (0x130BC, "aEGYPTIAN HIEROGLYPH D054A;cD055;cD056;cD057;cD058;cD059;cD060;cD061;cD062;cD063"),
  (0x130C6, "aEGYPTIAN HIEROGLYPH D064;cD065;cD066;cD067;cD067A;cD067B;cD067C;cD067D;cD067E"),
  (0x130CF, "aEGYPTIAN HIEROGLYPH D067F;cD067G;cD067H;cE001;cE002;cE003;cE004;cE005;cE006;cE007"),
  (0x130D9, "aEGYPTIAN HIEROGLYPH E008;cE008A;cE009;cE009A;cE010;cE011;cE012;cE013;cE014;cE015"),
  (0x130E3, "aEGYPTIAN HIEROGLYPH E016;cE016A;cE017;cE017A;cE018;cE019;cE020;cE020A;cE021;cE022"),
  (0x130ED, "aEGYPTIAN HIEROGLYPH E023;cE024;cE025;cE026;cE027;cE028;cE028A;cE029;cE030;cE031"),
  (0x130F7, "aEGYPTIAN HIEROGLYPH E032;cE033;cE034;cE034A;cE036;cE037;cE038;cF001;cF001A;cF002"),
  (0x13101, "aEGYPTIAN HIEROGLYPH F003;cF004;cF005;cF006;cF007;cF008;cF009;cF010;cF011;cF012"),
  (0x1310B, "aEGYPTIAN HIEROGLYPH F013;cF013A;cF014;cF015;cF016;cF017;cF018;cF019;cF020;cF021"),
  (0x13115, "aEGYPTIAN HIEROGLYPH F021A;cF022;cF023;cF024;cF025;cF026;cF027;cF028;cF029;cF030"),
  (0x1311F, "aEGYPTIAN HIEROGLYPH F031;cF031A;cF032;cF033;cF034;cF035;cF036;cF037;cF037A;cF038"),
  (0x13129, "aEGYPTIAN HIEROGLYPH F038A;cF039;cF040;cF041;cF042;cF043;cF044;cF045;cF045A;cF046"),
  (0x13133, "aEGYPTIAN HIEROGLYPH F046A;cF047;cF047A;cF048;cF049;cF050;cF051;cF051A;cF051B;cF051C"),
  (0x1313D, "aEGYPTIAN HIEROGLYPH F052;cF053;cG001;cG002;cG003;cG004;cG005;cG006;cG006A;cG007"),
  (0x13147, "aEGYPTIAN HIEROGLYPH G007A;cG007B;cG008;cG009;cG010;cG011;cG011A;cG012;cG013;cG014"),
  (0x13151, "aEGYPTIAN HIEROGLYPH G015;cG016;cG017;cG018;cG019;cG020;cG020A;cG021;cG022;cG023"),
  (0x1315B, "aEGYPTIAN HIEROGLYPH G024;cG025;cG026;cG026A;cG027;cG028;cG029;cG030;cG031;cG032"),
  (0x13165, "aEGYPTIAN HIEROGLYPH G033;cG034;cG035;cG036;cG036A;cG037;cG037A;cG038;cG039;cG040"),
  (0x1316F, "aEGYPTIAN HIEROGLYPH G041;cG042;cG043;cG043A;cG044;cG045;cG045A;cG046;cG047;cG048"),
  (0x13179, "aEGYPTIAN HIEROGLYPH G049;cG050;cG051;cG052;cG053;cG054;cH001;cH002;cH003;cH004"),
  (0x13183, "aEGYPTIAN HIEROGLYPH H005;cH006;cH006A;cH007;cH008;cI001;cI002;cI003;cI004;cI005"),
  (0x1318D, "aEGYPTIAN HIEROGLYPH I005A;cI006;cI007;cI008;cI009;cI009A;cI010;cI010A;cI011;cI011A"),
  (0x13197, "aEGYPTIAN HIEROGLYPH I012;cI013;cI014;cI015;cK001;cK002;cK003;cK004;cK005;cK006"),
  (0x131A1, "aEGYPTIAN HIEROGLYPH K007;cK008;cL001;cL002;cL002A;cL003;cL004;cL005;cL006;cL006A"),
  (0x131AB, "aEGYPTIAN HIEROGLYPH L007;cL008;cM001;cM001A;cM001B;cM002;cM003;cM003A;cM004;cM005"),
  (0x131B5, "aEGYPTIAN HIEROGLYPH M006;cM007;cM008;cM009;cM010;cM010A;cM011;cM012;cM012A;cM012B"),
  (0x131BF, "aEGYPTIAN HIEROGLYPH M012C;cM012D;cM012E;cM012F;cM012G;cM012H;cM013;cM014;cM015"),
  (0x131C8, "aEGYPTIAN HIEROGLYPH M015A;cM016;cM016A;cM017;cM017A;cM018;cM019;cM020;cM021;cM022"),
  (0x131D2, "aEGYPTIAN HIEROGLYPH M022A;cM023;cM024;cM024A;cM025;cM026;cM027;cM028;cM028A;cM029"),
  (0x131DC, "aEGYPTIAN HIEROGLYPH M030;cM031;cM031A;cM032;cM033;cM033A;cM033B;cM034;cM035;cM036"),
  (0x131E6, "aEGYPTIAN HIEROGLYPH M037;cM038;cM039;cM040;cM040A;cM041;cM042;cM043;cM044;cN001"),
  (0x131F0, "aEGYPTIAN HIEROGLYPH N002;cN003;cN004;cN005;cN006;cN007;cN008;cN009;cN010;cN011"),
  (0x131FA, "aEGYPTIAN HIEROGLYPH N012;cN013;cN014;cN015;cN016;cN017;cN018;cN018A;cN018B;cN019"),
  (0x13204, "aEGYPTIAN HIEROGLYPH N020;cN021;cN022;cN023;cN024;cN025;cN025A;cN026;cN027;cN028"),
  (0x1320E, "aEGYPTIAN HIEROGLYPH N029;cN030;cN031;cN032;cN033;cN033A;cN034;cN034A;cN035;cN035A"),
  (0x13218, "aEGYPTIAN HIEROGLYPH N036;cN037;cN037A;cN038;cN039;cN040;cN041;cN042;cNL001;cNL002"),
  (0x13222, "aEGYPTIAN HIEROGLYPH NL003;cNL004;cNL005;cNL005A;cNL006;cNL007;cNL008;cNL009;cNL010"),
  (0x1322B, "aEGYPTIAN HIEROGLYPH NL011;cNL012;cNL013;cNL014;cNL015;cNL016;cNL017;cNL017A;cNL018"),
  (0x13234, "aEGYPTIAN HIEROGLYPH NL019;cNL020;cNU001;cNU002;cNU003;cNU004;cNU005;cNU006;cNU007"),
  (0x1323D, "aEGYPTIAN HIEROGLYPH NU008;cNU009;cNU010;cNU010A;cNU011;cNU011A;cNU012;cNU013;cNU014"),
  (0x13246, "aEGYPTIAN HIEROGLYPH NU015;cNU016;cNU017;cNU018;cNU018A;cNU019;cNU020;cNU021;cNU022"),
  (0x1324F, "aEGYPTIAN HIEROGLYPH NU022A;cO001;cO001A;cO002;cO003;cO004;cO005;cO005A;cO006;cO006A"),
  (0x13259, "aEGYPTIAN HIEROGLYPH O006B;cO006C;cO006D;cO006E;cO006F;cO007;cO008;cO009;cO010"),
  (0x13262, "aEGYPTIAN HIEROGLYPH O010A;cO010B;cO010C;cO011;cO012;cO013;cO014;cO015;cO016;cO017"),
  (0x1326C, "aEGYPTIAN HIEROGLYPH O018;cO019;cO019A;cO020;cO020A;cO021;cO022;cO023;cO024;cO024A"),
  (0x13276, "aEGYPTIAN HIEROGLYPH O025;cO025A;cO026;cO027;cO028;cO029;cO029A;cO030;cO030A;cO031"),
  (0x13280, "aEGYPTIAN HIEROGLYPH O032;cO033;cO033A;cO034;cO035;cO036;cO036A;cO036B;cO036C;cO036D"),
  (0x1328A, "aEGYPTIAN HIEROGLYPH O037;cO038;cO039;cO040;cO041;cO042;cO043;cO044;cO045;cO046"),
  (0x13294, "aEGYPTIAN HIEROGLYPH O047;cO048;cO049;cO050;cO050A;cO050B;cO051;cP001;cP001A;cP002"),
  (0x1329E, "aEGYPTIAN HIEROGLYPH P003;cP003A;cP004;cP005;cP006;cP007;cP008;cP009;cP010;cP011"),
  (0x132A8, "aEGYPTIAN HIEROGLYPH Q001;cQ002;cQ003;cQ004;cQ005;cQ006;cQ007;cR001;cR002;cR002A"),
  (0x132B2, "aEGYPTIAN HIEROGLYPH R003;cR003A;cR003B;cR004;cR005;cR006;cR007;cR008;cR009;cR010"),
  (0x132BC, "aEGYPTIAN HIEROGLYPH R010A;cR011;cR012;cR013;cR014;cR015;cR016;cR016A;cR017;cR018"),
  (0x132C6, "aEGYPTIAN HIEROGLYPH R019;cR020;cR021;cR022;cR023;cR024;cR025;cR026;cR027;cR028"),
  (0x132D0, "aEGYPTIAN HIEROGLYPH R029;cS001;cS002;cS002A;cS003;cS004;cS005;cS006;cS006A;cS007"),
  (0x132DA, "aEGYPTIAN HIEROGLYPH S008;cS009;cS010;cS011;cS012;cS013;cS014;cS014A;cS014B;cS015"),
  (0x132E4, "aEGYPTIAN HIEROGLYPH S016;cS017;cS017A;cS018;cS019;cS020;cS021;cS022;cS023;cS024"),
  (0x132EE, "aEGYPTIAN HIEROGLYPH S025;cS026;cS026A;cS026B;cS027;cS028;cS029;cS030;cS031;cS032"),
  (0x132F8, "aEGYPTIAN HIEROGLYPH S033;cS034;cS035;cS035A;cS036;cS037;cS038;cS039;cS040;cS041"),
  (0x13302, "aEGYPTIAN HIEROGLYPH S042;cS043;cS044;cS045;cS046;cT001;cT002;cT003;cT003A;cT004"),
  (0x1330C, "aEGYPTIAN HIEROGLYPH T005;cT006;cT007;cT007A;cT008;cT008A;cT009;cT009A;cT010;cT011"),
  (0x13316, "aEGYPTIAN HIEROGLYPH T011A;cT012;cT013;cT014;cT015;cT016;cT016A;cT017;cT018;cT019"),
  (0x13320, "aEGYPTIAN HIEROGLYPH T020;cT021;cT022;cT023;cT024;cT025;cT026;cT027;cT028;cT029"),
  (0x1332A, "aEGYPTIAN HIEROGLYPH T030;cT031;cT032;cT032A;cT033;cT033A;cT034;cT035;cT036;cU001"),
  (0x13334, "aEGYPTIAN HIEROGLYPH U002;cU003;cU004;cU005;cU006;cU006A;cU006B;cU007;cU008;cU009"),
  (0x1333E, "aEGYPTIAN HIEROGLYPH U010;cU011;cU012;cU013;cU014;cU015;cU016;cU017;cU018;cU019"),
  (0x13348, "aEGYPTIAN HIEROGLYPH U020;cU021;cU022;cU023;cU023A;cU024;cU025;cU026;cU027;cU028"),
  (0x13352, "aEGYPTIAN HIEROGLYPH U029;cU029A;cU030;cU031;cU032;cU032A;cU033;cU034;cU035;cU036"),
  (0x1335C, "aEGYPTIAN HIEROGLYPH U037;cU038;cU039;cU040;cU041;cU042;cV001;cV001A;cV001B;cV001C"),
  (0x13366, "aEGYPTIAN HIEROGLYPH V001D;cV001E;cV001F;cV001G;cV001H;cV001I;cV002;cV002A;cV003"),
  (0x1336F, "aEGYPTIAN HIEROGLYPH V004;cV005;cV006;cV007;cV007A;cV007B;cV008;cV009;cV010;cV011"),
  (0x13379, "aEGYPTIAN HIEROGLYPH V011A;cV011B;cV011C;cV012;cV012A;cV012B;cV013;cV014;cV015;cV016"),
  (0x13383, "aEGYPTIAN HIEROGLYPH V017;cV018;cV019;cV020;cV020A;cV020B;cV020C;cV020D;cV020E"),
  (0x1338C, "aEGYPTIAN HIEROGLYPH V020F;cV020G;cV020H;cV020I;cV020J;cV020K;cV020L;cV021;cV022"),
  (0x13395, "aEGYPTIAN HIEROGLYPH V023;cV023A;cV024;cV025;cV026;cV027;cV028;cV028A;cV029;cV029A"),
  (0x1339F, "aEGYPTIAN HIEROGLYPH V030;cV030A;cV031;cV031A;cV032;cV033;cV033A;cV034;cV035;cV036"),
  (0x133A9, "aEGYPTIAN HIEROGLYPH V037;cV037A;cV038;cV039;cV040;cV040A;cW001;cW002;cW003;cW003A"),
  (0x133B3, "aEGYPTIAN HIEROGLYPH W004;cW005;cW006;cW007;cW008;cW009;cW009A;cW010;cW010A;cW011"),
  (0x133BD, "aEGYPTIAN HIEROGLYPH W012;cW013;cW014;cW014A;cW015;cW016;cW017;cW017A;cW018;cW018A"),
  (0x133C7, "aEGYPTIAN HIEROGLYPH W019;cW020;cW021;cW022;cW023;cW024;cW024A;cW025;cX001;cX002"),
  (0x133D1, "aEGYPTIAN HIEROGLYPH X003;cX004;cX004A;cX004B;cX005;cX006;cX006A;cX007;cX008;cX008A"),
  (0x133DB, "aEGYPTIAN HIEROGLYPH Y001;cY001A;cY002;cY003;cY004;cY005;cY006;cY007;cY008;cZ001"),
  (0x133E5, "aEGYPTIAN HIEROGLYPH Z002;cZ002A;cZ002B;cZ002C;cZ002D;cZ003;cZ003A;cZ003B;cZ004"),
  (0x133EE, "aEGYPTIAN HIEROGLYPH Z004A;cZ005;cZ005A;cZ006;cZ007;cZ008;cZ009;cZ010;cZ011;cZ012"),
  (0x133F8, "aEGYPTIAN HIEROGLYPH Z013;cZ014;cZ015;cZ015A;cZ015B;cZ015C;cZ015D;cZ015E;cZ015F"),
  (0x13401, "aEGYPTIAN HIEROGLYPH Z015G;cZ015H;cZ015I;cZ016;cZ016A;cZ016B;cZ016C;cZ016D;cZ016E"),
  (0x1340A, "aEGYPTIAN HIEROGLYPH Z016F;cZ016G;cZ016H;cAA001;cAA002;cAA003;cAA004;cAA005;cAA006"),
  (0x13413, "aEGYPTIAN HIEROGLYPH AA007;cAA007A;cAA007B;cAA008;cAA009;cAA010;cAA011;cAA012;cAA013"),
  (0x1341C, "aEGYPTIAN HIEROGLYPH AA014;cAA015;cAA016;cAA017;cAA018;cAA019;cAA020;cAA021;cAA022"),
  (0x13425, "aEGYPTIAN HIEROGLYPH AA023;cAA024;cAA025;cAA026;cAA027;cAA028;cAA029;cAA030;cAA031"),
  (0x1342E, "aEGYPTIAN HIEROGLYPH AA032"),
  (0x13430, "aEGYPTIAN HIEROGLYPH VERTICAL JOINER;cHORIZONTAL JOINER;cINSERT AT TOP START"),
  (0x13433, "aEGYPTIAN HIEROGLYPH INSERT AT BOTTOM START;eTOP END;eBOTTOM END;cOVERLAY MIDDLE"),
  (0x13437, "aEGYPTIAN HIEROGLYPH BEGIN SEGMENT;cEND SEGMENT"),
  (0x14400, "aANATOLIAN HIEROGLYPH A001;cA002;cA003;cA004;cA005;cA006;cA007;cA008;cA009;cA010"),
  (0x1440A, "aANATOLIAN HIEROGLYPH A010A;cA011;cA012;cA013;cA014;cA015;cA016;cA017;cA018;cA019"),
  (0x14414, "aANATOLIAN HIEROGLYPH A020;cA021;cA022;cA023;cA024;cA025;cA026;cA026A;cA027;cA028"),
  (0x1441E, "aANATOLIAN HIEROGLYPH A029;cA030;cA031;cA032;cA033;cA034;cA035;cA036;cA037;cA038")]

/-- The lines of names from U+14428 on. -/
def namesFrom14428 : List (Nat × String) := [
  (0x14428, "aANATOLIAN HIEROGLYPH A039;cA039A;cA040;cA041;cA041A;cA042;cA043;cA044;cA045;cA045A"),
  (0x14432, "aANATOLIAN HIEROGLYPH A046;cA046A;cA046B;cA047;cA048;cA049;cA050;cA051;cA052;cA053"),
  (0x1443C, "aANATOLIAN HIEROGLYPH A054;cA055;cA056;cA057;cA058;cA059;cA060;cA061;cA062;cA063"),
  (0x14446, "aANATOLIAN HIEROGLYPH A064;cA065;cA066;cA066A;cA066B;cA066C;cA067;cA068;cA069;cA070"),
  (0x14450, "aANATOLIAN HIEROGLYPH A071;cA072;cA073;cA074;cA075;cA076;cA077;cA078;cA079;cA080"),
  (0x1445A, "aANATOLIAN HIEROGLYPH A081;cA082;cA083;cA084;cA085;cA086;cA087;cA088;cA089;cA090"),
  (0x14464, "aANATOLIAN HIEROGLYPH A091;cA092;cA093;cA094;cA095;cA096;cA097;cA097A;cA098;cA098A"),
  (0x1446E, "aANATOLIAN HIEROGLYPH A099;cA100;cA100A;cA101;cA101A;cA102;cA102A;cA103;cA104;cA104A"),
  (0x14478, "aANATOLIAN HIEROGLYPH A104B;cA104C;cA105;cA105A;cA105B;cA106;cA107;cA107A;cA107B"),
  (0x14481, "aANATOLIAN HIEROGLYPH A107C;cA108;cA109;cA110;cA110A;cA110B;cA111;cA112;cA113;cA114"),
  (0x1448B, "aANATOLIAN HIEROGLYPH A115;cA115A;cA116;cA117;cA118;cA119;cA120;cA121;cA122;cA123"),
  (0x14495, "aANATOLIAN HIEROGLYPH A124;cA125;cA125A;cA126;cA127;cA128;cA129;cA130;cA131;cA132"),
  (0x1449F, "aANATOLIAN HIEROGLYPH A133;cA134;cA135;cA135A;cA136;cA137;cA138;cA139;cA140;cA141"),
  (0x144A9, "aANATOLIAN HIEROGLYPH A142;cA143;cA144;cA145;cA146;cA147;cA148;cA149;cA150;cA151"),
  (0x144B3, "aANATOLIAN HIEROGLYPH A152;cA153;cA154;cA155;cA156;cA157;cA158;cA159;cA160;cA161"),
  (0x144BD, "aANATOLIAN HIEROGLYPH A162;cA163;cA164;cA165;cA166;cA167;cA168;cA169;cA170;cA171"),
  (0x144C7, "aANATOLIAN HIEROGLYPH A172;cA173;cA174;cA175;cA176;cA177;cA178;cA179;cA180;cA181"),
  (0x144D1, "aANATOLIAN HIEROGLYPH A182;cA183;cA184;cA185;cA186;cA187;cA188;cA189;cA190;cA191"),
  (0x144DB, "aANATOLIAN HIEROGLYPH A192;cA193;cA194;cA195;cA196;cA197;cA198;cA199;cA200;cA201"),
  (0x144E5, "aANATOLIAN HIEROGLYPH A202;cA202A;cA202B;cA203;cA204;cA205;cA206;cA207;cA207A;cA208"),
  (0x144EF, "aANATOLIAN HIEROGLYPH A209;cA209A;cA210;cA211;cA212;cA213;cA214;cA215;cA215A;cA216"),
  (0x144F9, "aANATOLIAN HIEROGLYPH A216A;cA217;cA218;cA219;cA220;cA221;cA222;cA223;cA224;cA225"),
  (0x14503, "aANATOLIAN HIEROGLYPH A226;cA227;cA227A;cA228;cA229;cA230;cA231;cA232;cA233;cA234"),
  (0x1450D, "aANATOLIAN HIEROGLYPH A235;cA236;cA237;cA238;cA239;cA240;cA241;cA242;cA243;cA244"),
  (0x14517, "aANATOLIAN HIEROGLYPH A245;cA246;cA247;cA248;cA249;cA250;cA251;cA252;cA253;cA254"),
  (0x14521, "aANATOLIAN HIEROGLYPH A255;cA256;cA257;cA258;cA259;cA260;cA261;cA262;cA263;cA264"),
  (0x1452B, "aANATOLIAN HIEROGLYPH A265;cA266;cA267;cA267A;cA268;cA269;cA270;cA271;cA272;cA273"),
  (0x14535, "aANATOLIAN HIEROGLYPH A274;cA275;cA276;cA277;cA278;cA279;cA280;cA281;cA282;cA283"),
  (0x1453F, "aANATOLIAN HIEROGLYPH A284;cA285;cA286;cA287;cA288;cA289;cA289A;cA290;cA291;cA292"),
  (0x14549, "aANATOLIAN HIEROGLYPH A293;cA294;cA294A;cA295;cA296;cA297;cA298;cA299;cA299A;cA300"),
  (0x14553, "aANATOLIAN HIEROGLYPH A301;cA302;cA303;cA304;cA305;cA306;cA307;cA308;cA309;cA309A"),
  (0x1455D, "aANATOLIAN HIEROGLYPH A310;cA311;cA312;cA313;cA314;cA315;cA316;cA317;cA318;cA319"),
  (0x14567, "aANATOLIAN HIEROGLYPH A320;cA321;cA322;cA323;cA324;cA325;cA326;cA327;cA328;cA329"),
  (0x14571, "aANATOLIAN HIEROGLYPH A329A;cA330;cA331;cA332A;cA332B;cA332C;cA333;cA334;cA335;cA336"),
  (0x1457B, "aANATOLIAN HIEROGLYPH A336A;cA336B;cA336C;cA337;cA338;cA339;cA340;cA341;cA342;cA343"),
  (0x14585, "aANATOLIAN HIEROGLYPH A344;cA345;cA346;cA347;cA348;cA349;cA350;cA351;cA352;cA353"),
  (0x1458F, "aANATOLIAN HIEROGLYPH A354;cA355;cA356;cA357;cA358;cA359;cA359A;cA360;cA361;cA362"),
  (0x14599, "aANATOLIAN HIEROGLYPH A363;cA364;cA364A;cA365;cA366;cA367;cA368;cA368A;cA369;cA370"),
  (0x145A3, "aANATOLIAN HIEROGLYPH A371;cA371A;cA372;cA373;cA374;cA375;cA376;cA377;cA378;cA379"),
  (0x145AD, "aANATOLIAN HIEROGLYPH A380;cA381;cA381A;cA382;cA383 RA OR RI;cA383A;cA384;cA385"),
  (0x145B5, "aANATOLIAN HIEROGLYPH A386;cA386A;cA387;cA388;cA389;cA390;cA391;cA392;cA393 EIGHT"),
  (0x145BE, "aANATOLIAN HIEROGLYPH A394;cA395;cA396;cA397;cA398;cA399;cA400;cA401;cA402;cA403"),
  (0x145C8, "aANATOLIAN HIEROGLYPH A404;cA405;cA406;cA407;cA408;cA409;cA410 BEGIN LOGOGRAM MARK"),
  (0x145CF, "aANATOLIAN HIEROGLYPH A410A END LOGOGRAM MARK;cA411;cA412;cA413;cA414;cA415;cA416"),
  (0x145D6, "aANATOLIAN HIEROGLYPH A417;cA418;cA419;cA420;cA421;cA422;cA423;cA424;cA425;cA426"),
  (0x145E0, "aANATOLIAN HIEROGLYPH A427;cA428;cA429;cA430;cA431;cA432;cA433;cA434;cA435;cA436"),
  (0x145EA, "aANATOLIAN HIEROGLYPH A437;cA438;cA439;cA440;cA441;cA442;cA443;cA444;cA445;cA446"),
  (0x145F4, "aANATOLIAN HIEROGLYPH A447;cA448;cA449;cA450;cA450A;cA451;cA452;cA453;cA454;cA455"),
  (0x145FE, "aANATOLIAN HIEROGLYPH A456;cA457;cA457A;cA458;cA459;cA460;cA461;cA462;cA463;cA464"),
  (0x14608, "aANATOLIAN HIEROGLYPH A465;cA466;cA467;cA468;cA469;cA470;cA471;cA472;cA473;cA474"),
  (0x14612, "aANATOLIAN HIEROGLYPH A475;cA476;cA477;cA478;cA479;cA480;cA481;cA482;cA483;cA484"),
  (0x1461C, "aANATOLIAN HIEROGLYPH A485;cA486;cA487;cA488;cA489;cA490;cA491;cA492;cA493;cA494"),
  (0x14626, "aANATOLIAN HIEROGLYPH A495;cA496;cA497;cA501;cA502;cA503;cA504;cA505;cA506;cA507"),
  (0x14630, "aANATOLIAN HIEROGLYPH A508;cA509;cA510;cA511;cA512;cA513;cA514;cA515;cA516;cA517"),
  (0x1463A, "aANATOLIAN HIEROGLYPH A518;cA519;cA520;cA521;cA522;cA523;cA524;cA525;cA526;cA527"),
  (0x14644, "aANATOLIAN HIEROGLYPH A528;cA529;cA530"),
  (0x16800, "aBAMUM LETTER PHASE-A NGKUE MFON;dGBIEE FON;dPON MFON PIPAEMGBIEE;fPIPAEMBA"),
  (0x16804, "aBAMUM LETTER PHASE-A NAA MFON;dSHUENSHUET;dTITA MFON;dNZA MFON;dSHINDA PA NJI"),
  (0x16809, "aBAMUM LETTER PHASE-A PON PA NJI PIPAEMGBIEE;gPIPAEMBA;dMAEMBGBIEE;dTU MAEMBA"),
  (0x1680D, "aBAMUM LETTER PHASE-A NGANGU;dMAEMVEUX;dMANSUAE;dMVEUAENGAM;dSEUNYAM;dNTOQPEN"),
  (0x16813, "aBAMUM LETTER PHASE-A KEUKEUTNDA;dNKINDI;dSUU;dNGKUENZEUM;dLAPAQ;dLET KUT;dNTAP MFAA"),
  (0x1681A, "aBAMUM LETTER PHASE-A MAEKEUP;dPASHAE;dGHEUAERAE;dPAMSHAE;dMON NGGEUAET;dNZUN MEUT"),
  (0x16820, "aBAMUM LETTER PHASE-A U YUQ NAE;dGHEUAEGHEUAE;dNTAP NTAA;dSISA;dMGBASA;dMEUNJOMNDEUQ"),
  (0x16826, "aBAMUM LETTER PHASE-A MOOMPUQ;dKAFA;dPA LEERAEWA;dNDA LEERAEWA;dPET;dMAEMKPEN;dNIKA"),
  (0x1682D, "aBAMUM LETTER PHASE-A PUP;dTUAEP;dLUAEP;dSONJAM;dTEUTEUWEN;dMAENYI;dKET"),
  (0x16834, "aBAMUM LETTER PHASE-A NDAANGGEUAET;dKUOQ;dMOOMEUT;dSHUM;dLOMMAE;dFIRI;dROM;dKPOQ"),
  (0x1683C, "aBAMUM LETTER PHASE-A SOQ;dMAP PIEET;dSHIRAE;dNTAP;dSHOQ NSHUT YUM;dNYIT MONGKEUAEQ"),
  (0x16842, "aBAMUM LETTER PHASE-A PAARAE;dNKAARAE;dUNKNOWN;dNGGEN;dMAESI;dNJAM;dMBANYI;dNYET"),
  (0x1684A, "aBAMUM LETTER PHASE-A TEUAEN;dSOT;dPAAM;dNSHIEE;dMAEM;dNYI;dKAQ;dNSHA;dVEE;dLU;dNEN"),
  (0x16855, "aBAMUM LETTER PHASE-A NAQ;dMBAQ;cPHASE-B NSHUET;dTU MAEMGBIEE;dSIEE;dSET TU"),
  (0x1685B, "aBAMUM LETTER PHASE-B LOM NTEUM;dMBA MAELEE;dKIEEM;dYEURAE;dMBAARAE;dKAM;dPEESHI"),
  (0x16862, "aBAMUM LETTER PHASE-B YAFU LEERAEWA;dLAM NSHUT NYAM;dNTIEE SHEUOQ;dNDU NJAA"),
  (0x16866, "aBAMUM LETTER PHASE-B GHEUGHEUAEM;dPIT;dTU NSIEE;dSHET NJAQ;dSHEUAEQTU;dMFON TEUAEQ"),
  (0x1686C, "aBAMUM LETTER PHASE-B MBIT MBAAKET;dNYI NTEUM;dKEUPUQ;dGHEUGHEN;dKEUYEUX;dLAANAE"),
  (0x16872, "aBAMUM LETTER PHASE-B PARUM;dVEUM;dNGKINDI MVOP;dNGGEU MBU;dWUAET;dSAKEUAE;dTAAM"),
  (0x16879, "aBAMUM LETTER PHASE-B MEUQ;dNGGUOQ;eLARGE;dMFIYAQ;dSUE;dMBEURI;dMONTIEEN;dNYAEMAE"),
  (0x16881, "aBAMUM LETTER PHASE-B PUNGAAM;dMEUT NGGEET;dFEUX;dMBUOQ;dFEE;dKEUAEM;dMA NJEUAENA"),
  (0x16888, "aBAMUM LETTER PHASE-B MA NJUQA;dLET;dNGGAAM;dNSEN;dMA;dKIQ;dNGOM"),
  (0x1688F, "aBAMUM LETTER PHASE-C NGKUE MAEMBA;dNZA;dYUM;dWANGKUOQ;dNGGEN;dNDEUAEREE;dNGKAQ"),
  (0x16896, "aBAMUM LETTER PHASE-C GHARAE;dMBEEKEET;dGBAYI;dNYIR MKPARAQ MEUN;dNTU MBIT;dMBEUM"),
  (0x1689C, "aBAMUM LETTER PHASE-C PIRIEEN;dNDOMBU;dMBAA CABBAGE-TREE;dKEUSHEUAEP;dGHAP;dKEUKAQ"),
  (0x168A2, "aBAMUM LETTER PHASE-C YU MUOMAE;dNZEUM;dMBUE;dNSEUAEN;dMBIT;dYEUQ;dKPARAQ;dKAA;dSEUX"),
  (0x168AB, "aBAMUM LETTER PHASE-C NDIDA;dTAASHAE;dNJUEQ;dTITA YUE;dSUAET;dNGGUAEN NYAM;dVEUX"),
  (0x168B2, "aBAMUM LETTER PHASE-C NANSANAQ;dMA KEUAERI;dNTAA;dNGGUON;dLAP;dMBIRIEEN;dMGBASAQ"),
  (0x168B9, "aBAMUM LETTER PHASE-C NTEUNGBA;dTEUTEUX;dNGGUM;dFUE;dNDEUT;dNSA;dNSHAQ;dBUNG"),
  (0x168C1, "aBAMUM LETTER PHASE-C VEUAEPEN;dMBERAE;dRU;dNJAEM;dLAM;dTITUAEP;dNSUOT NGOM;dNJEEEE"),
  (0x168C9, "aBAMUM LETTER PHASE-C KET;dNGGU;dMAESI;dMBUAEM;dLU;dKUT;dNJAM;dNGOM;dWUP;dNGGUEET"),
  (0x168D3, "aBAMUM LETTER PHASE-C NSOM;dNTEN;dKUOP NKAARAE;dNSUN;dNDAM;dMA NSIEE;dYAA;dNDAP"),
  (0x168DB, "aBAMUM LETTER PHASE-C SHUEQ;dSETFON;dMBI;dMAEMBA;dMBANYI;dKEUSEUX;dMBEUX;dKEUM"),
  (0x168E3, "aBAMUM LETTER PHASE-C MBAA PICKET;dYUWOQ;dNJEUX;dMIEE;dMUAE;dSHIQ;dKEN LAW;eFATIGUE"),
  (0x168EB, "aBAMUM LETTER PHASE-C NGAQ;dNAQ;dLIQ;dPIN;dPEN;dTET;cPHASE-D MBUO;dWAP;dNJI;dMFON"),
  (0x168F5, "aBAMUM LETTER PHASE-D NJIEE;dLIEE;dNJEUT;dNSHEE;dNGGAAMAE;dNYAM;dWUAEN;dNGKUN;dSHEE"),
  (0x168FE, "aBAMUM LETTER PHASE-D NGKAP;dKEUAETMEUN;dTEUT;dSHEUAE;dNJAP;dSUE;dKET;dYAEMMAE;dKUOM"),
  (0x16907, "aBAMUM LETTER PHASE-D SAP;dMFEUT;dNDEUX;dMALEERI;dMEUT;dSEUAEQ;dYEN;dNJEUAEM"),
  (0x1690F, "aBAMUM LETTER PHASE-D KEUOT MBUAE;dNGKEURI;dTU;dGHAA;dNGKYEE;dFEUFEUAET;dNDEE"),
  (0x16916, "aBAMUM LETTER PHASE-D MGBOFUM;dLEUAEP;dNDON;dMONI;dMGBEUN;dPUUT;dMGBIEE;dMFO;dLUM"),
  (0x1691F, "aBAMUM LETTER PHASE-D NSIEEP;dMBAA;dKWAET;dNYET;dTEUAEN;dSOT;dYUWOQ;dKEUM;dRAEM"),
  (0x16928, "aBAMUM LETTER PHASE-D TEEEE;dNGKEUAEQ;dMFEUAE;dNSIEET;dKEUP;dPIP;dPEUTAE;dNYUE;dLET"),
  (0x16931, "aBAMUM LETTER PHASE-D NGGAAM;dMFIEE;dNGGWAEN;dYUOM;dPAP;dYUOP;dNDAM;dNTEUM;dSUAE"),
  (0x1693A, "aBAMUM LETTER PHASE-D KUN;dNGGEUX;dNGKIEE;dTUOT;dMEUN;dKUQ;dNSUM;dTEUN;dMAENJET"),
  (0x16943, "aBAMUM LETTER PHASE-D NGGAP;dLEUM;dNGGUOM;dNSHUT;dNJUEQ;dGHEUAE;dKU;dREN OLD;dTAE"),
  (0x1694C, "aBAMUM LETTER PHASE-D TOQ;dNYI;dRII;dLEEEE;dMEEEE;dM;dSUU;dMU;dSHII;dSHEUX;dKYEE;dNU"),
  (0x16958, "aBAMUM LETTER PHASE-D SHU;dNTEE;dPEE;dNI;dSHOQ;dPUQ;dMVOP;dLOQ;dREN MUCH;dTI;dNTUU"),
  (0x16963, "aBAMUM LETTER PHASE-D MBAA SEVEN;dSAQ;dFAA;cPHASE-E NDAP;dTOON;dMBEUM;dLAP;dVOM"),
  (0x1696B, "aBAMUM LETTER PHASE-E LOON;dPAA;dSOM;dRAQ;dNSHUOP;dNDUN;dPUAE;dTAM;dNGKA;dKPEUX;dWUO"),
  (0x16976, "aBAMUM LETTER PHASE-E SEE;dNGGEUAET;dPAAM;dTOO;dKUOP;dLOM;dNSHIEE;dNGOP;dMAEM"),
  (0x1697F, "aBAMUM LETTER PHASE-E NGKEUX;dNGOQ;dNSHUE;dRIMGBA;dNJEUX;dPEEM;dSAA;dNGGURAE;dMGBA"),
  (0x16988, "aBAMUM LETTER PHASE-E GHEUX;dNGKEUAEM;dNJAEMLI;dMAP;dLOOT;dNGGEEEE;dNDIQ;dTAEN NTEUM"),
  (0x16990, "aBAMUM LETTER PHASE-E SET;dPUM;dNDAA SOFTNESS;dNGGUAESHAE NYAM;dYIEE;dGHEUN;dTUAE"),
  (0x16997, "aBAMUM LETTER PHASE-E YEUAE;dPO;dTUMAE;dKEUAE;dSUAEN;dTEUAEQ;dVEUAE;dWEUX;dLAAM;dPU"),
  (0x169A1, "aBAMUM LETTER PHASE-E TAAQ;dGHAAMAE;dNGEUREUT;dSHEUAEQ;dMGBEN;dMBEE;dNZAQ;dNKOM"),
  (0x169A9, "aBAMUM LETTER PHASE-E GBET;dTUM;dKUET;dYAP;dNYI CLEAVER;dYIT;dMFEUQ;dNDIAQ;dPIEEQ"),
  (0x169B2, "aBAMUM LETTER PHASE-E YUEQ;dLEUAEM;dFUE;dGBEUX;dNGKUP;dKET;dMAE;dNGKAAMI;dGHET;dFA"),
  (0x169BC, "aBAMUM LETTER PHASE-E NTUM;dPEUT;dYEUM;dNGGEUAE;dNYI BETWEEN;dNZUQ;dPOON;dMIEE;dFUET"),
  (0x169C5, "aBAMUM LETTER PHASE-E NAE;dMUAE;dGHEUAE;dFU I;dMVI;dPUAQ;dNGKUM;dKUT;dPIET;dNTAP"),
  (0x169CF, "aBAMUM LETTER PHASE-E YEUAET;dNGGUP;dPA PEOPLE;dFU CALL;dFOM;dNJEE;dA;dTOQ;dO;dI"),
  (0x169D9, "aBAMUM LETTER PHASE-E LAQ;dPA PLURAL;dTAA;dTAQ;dNDAA MY HOUSE;dSHIQ;dYEUX;dNGUAE"),
  (0x169E1, "aBAMUM LETTER PHASE-E YUAEN;dYOQ SWIMMING;eCOVER;dYUQ;dYUN;dKEUX;dPEUX;dNJEE EPOCH"),
  (0x169E9, "aBAMUM LETTER PHASE-E PUE;dWUE;dFEE;dVEE;dLU;dMI;dREUX;dRAE;dNGUAET;dNGA;dSHO;dSHOQ"),
  (0x169F5, "aBAMUM LETTER PHASE-E FU REMEDY;dNA;dPI;dLOQ;dKO;dMEN;dMA;dMAQ;dTEU;dKI;dMON;dTEN"),
  (0x16A01, "aBAMUM LETTER PHASE-E FAQ;dGHOM;cPHASE-F KA;dU;dKU;dEE;dREE;dTAE;dNYI;dLA;dRII;dRIEE"),
  (0x16A0D, "aBAMUM LETTER PHASE-F MEEEE;dTAA;dNDAA;dNJAEM;dM;dSUU;dSHII;dSI;dSEUX;dKYEE;dKET"),
  (0x16A18, "aBAMUM LETTER PHASE-F NUAE;dNU;dNJUAE;dYOQ;dSHU;dYA;dNSHA;dPEUX;dNTEE;dWUE;dPEE;dRU"),
  (0x16A24, "aBAMUM LETTER PHASE-F NI;dREUX;dKEN;dNGKWAEN;dNGGA;dSHO;dPUAE;dFOM;dWA;dLI;dLOQ;dKO"),
  (0x16A30, "aBAMUM LETTER PHASE-F MBEN;dREN;dMA;dMO;dMBAA;dTET;dKPA;dSAMBA;dVUEQ"),
  (0x16A40, "aMRO LETTER TA;cNGI;cYO;cMIM;cBA;cDA;cA;cPHI;cKHAI;cHAO;cDAI;cCHU;cKEAAE;cOL;cMAEM"),
  (0x16A4F, "aMRO LETTER NIN;cPA;cOO;cO;cRO;cSHI;cTHEA;cEA;cWA;cE;cKO;cLAN;cLA;cHAI;cRI;cTEK"),
  (0x16A60, "aMRO DIGIT ZERO;cONE;cTWO;cTHREE;cFOUR;cFIVE;cSIX;cSEVEN;cEIGHT;cNINE"),
  (0x16A6E, "aMRO DANDA;bDOUBLE DANDA;aTANGSA LETTER OZ;cOC;cOQ;cOX;cAZ;cAC;cAQ;cAX;cVZ;cVC;cVQ"),
  (0x16A7B, "aTANGSA LETTER VX;cEZ;cEC;cEQ;cEX;cIZ;cIC;cIQ;cIX;cUZ;cUC;cUQ;cUX;cAWZ;cAWC;cAWQ"),
  (0x16A8B, "aTANGSA LETTER AWX;cUIZ;cUIC;cUIQ;cUIX;cFINAL NG;cLONG UEX;cSHORT UEZ;dAWX;cUEC;cUEZ"),
  (0x16A96, "aTANGSA LETTER UEQ;cUEX;cUIUZ;cUIUC;cUIUQ;cUIUX;cMZ;cMC;cMQ;cMX;cKA;cKHA;cGA;cNGA"),
  (0x16AA4, "aTANGSA LETTER SA;cYA;cWA;cPA;cNYA;cPHA;cBA;cMA;cNA;cHA;cLA;cHTA;cTA;cDA;cRA;cNHA"),
  (0x16AB4, "aTANGSA LETTER SHA;cCA;cTSA;cGHA;cHTTA;cTHA;cXA;cFA;cDHA;cCHA;cZA"),
  (0x16AC0, "aTANGSA DIGIT ZERO;cONE;cTWO;cTHREE;cFOUR;cFIVE;cSIX;cSEVEN;cEIGHT;cNINE"),
  (0x16AD0, "aBASSA VAH LETTER ENNI;dKA;dSE;dFA;dMBE;dYIE;dGAH;dDHII;dKPAH;dJO;dHWAH;dWA;dZO;dGBU"),
  (0x16ADE, "aBASSA VAH LETTER DO;dCE;dUWU;dTO;dBA;dVU;dYEIN;dPA;dWADDA;dA;dO;dOO;dU;dEE;dE;dI"),
  (0x16AF0, "aBASSA VAH COMBINING HIGH TONE;dLOW TONE;dMID TONE;dLOW-MID TONE;dHIGH-LOW TONE"),
  (0x16AF5, "aBASSA VAH FULL STOP"),
  (0x16B00, "aPAHAWH HMONG VOWEL KEEB;dKEEV;dKIB;dKIV;dKAUB;dKAUV;dKUB;dKUV;dKEB;dKEV;dKAIB;dKAIV"),
  (0x16B0C, "aPAHAWH HMONG VOWEL KOOB;dKOOV;dKAWB;dKAWV;dKUAB;dKUAV;dKOB;dKOV;dKIAB;dKIAV;dKAB"),
  (0x16B17, "aPAHAWH HMONG VOWEL KAV;dKWB;dKWV;dKAAB;dKAAV;cCONSONANT VAU;dNTSAU;dLAU;dHAU;dNLAU"),
  (0x16B21, "aPAHAWH HMONG CONSONANT RAU;dNKAU;dQHAU;dYAU;dHLAU;dMAU;dCHAU;dNCHAU;dHNAU;dPLHAU"),
  (0x16B2B, "aPAHAWH HMONG CONSONANT NTHAU;dNAU;dAU;dXAU;dCAU;cMARK CIM TUB;eSO;eKES;eKHAV;eSUAM"),
  (0x16B35, "aPAHAWH HMONG MARK CIM HOM;eTAUM;cSIGN VOS THOM;eTSHAB CEEB;dCIM CHEEM;dVOS THIAB"),
  (0x16B3B, "aPAHAWH HMONG SIGN VOS FEEM;dXYEEM NTXIV;eRHO;eTOV;eFAIB;dVOS SEEV;dMEEJ SUAB"),
  (0x16B42, "aPAHAWH HMONG SIGN VOS NRUA;dIB YAM;dXAUS;dCIM TSOV ROG"),
  (0x16B50, "aPAHAWH HMONG DIGIT ZERO;dONE;dTWO;dTHREE;dFOUR;dFIVE;dSIX;dSEVEN;dEIGHT;dNINE"),
  (0x16B5B, "aPAHAWH HMONG NUMBER TENS;dHUNDREDS;dTEN THOUSANDS;dMILLIONS;dHUNDRED MILLIONS"),
  (0x16B60, "aPAHAWH HMONG NUMBER TEN BILLIONS;dTRILLIONS"),
  (0x16B63, "aPAHAWH HMONG SIGN VOS LUB;dXYOO;dHLI;dTHIRD-STAGE HLI;dZWJ THAJ;dHNUB;dNQIG;dXIAB"),
  (0x16B6B, "aPAHAWH HMONG SIGN NTUJ;dAV;dTXHEEJ CEEV;dMEEJ TSEEB;dTAU;dLOS;dMUS"),
  (0x16B72, "aPAHAWH HMONG SIGN CIM HAIS LUS NTOG NTOG;eCUAM TSHOOJ;eTXWV;fCHWV;ePUB DAWB"),
  (0x16B77, "aPAHAWH HMONG SIGN CIM NRES TOS"),
  (0x16B7D, "aPAHAWH HMONG CLAN SIGN TSHEEJ;eYEEG;eLIS;eLAUJ;eXYOOJ;eKOO;eHAWJ;eMUAS;eTHOJ;eTSAB"),
  (0x16B87, "aPAHAWH HMONG CLAN SIGN PHAB;eKHAB;eHAM;eVAJ;eFAJ;eYAJ;eTSWB;eKWM;eVWJ"),
  (0x16E40, "aMEDEFAIDRIN CAPITAL LETTER M;dS;dV;dW;dATIU;dZ;dKP;dP;dT;dG;dF;dI;dK;dA;dJ;dE;dB;dC"),
  (0x16E52, "aMEDEFAIDRIN CAPITAL LETTER U;dYU;dL;dQ;dHP;dNY;dX;dD;dOE;dN;dR;dO;dAI;dY"),
  (0x16E60, "aMEDEFAIDRIN SMALL LETTER M;dS;dV;dW;dATIU;dZ;dKP;dP;dT;dG;dF;dI;dK;dA;dJ;dE;dB;dC"),
  (0x16E72, "aMEDEFAIDRIN SMALL LETTER U;dYU;dL;dQ;dHP;dNY;dX;dD;dOE;dN;dR;dO;dAI;dY;bDIGIT ZERO"),
  (0x16E81, "aMEDEFAIDRIN DIGIT ONE;cTWO;cTHREE;cFOUR;cFIVE;cSIX;cSEVEN;cEIGHT;cNINE;bNUMBER TEN"),
  (0x16E8B, "aMEDEFAIDRIN NUMBER ELEVEN;cTWELVE;cTHIRTEEN;cFOURTEEN;cFIFTEEN;cSIXTEEN;cSEVENTEEN"),
  (0x16E92, "aMEDEFAIDRIN NUMBER EIGHTEEN;cNINETEEN;bDIGIT ONE ALTERNATE FORM;cTWO ALTERNATE FORM"),
  (0x16E96, "aMEDEFAIDRIN DIGIT THREE ALTERNATE FORM;bCOMMA;bFULL STOP;bSYMBOL AIVA"),
  (0x16E9A, "aMEDEFAIDRIN EXCLAMATION OH"),
  (0x16F00, "aMIAO LETTER PA;cBA;cYI PA;cPLA;cMA;cMHA;cARCHAIC MA;cFA;cVA;cVFA;cTA;cDA;cYI TTA"),
  (0x16F0D, "aMIAO LETTER YI TA;cTTA;cDDA;cNA;cNHA;cYI NNA;cARCHAIC NA;cNNA;cNNHA;cLA;cLYA;cLHA"),
  (0x16F19, "aMIAO LETTER LHYA;cTLHA;cDLHA;cTLHYA;cDLHYA;cKA;cGA;cYI KA;cQA;cQGA;cNGA;cNGHA"),
  (0x16F25, "aMIAO LETTER ARCHAIC NGA;cHA;cXA;cGHA;cGHHA;cTSSA;cDZZA;cNYA;cNYHA;cTSHA;cDZHA"),
  (0x16F30, "aMIAO LETTER YI TSHA;dDZHA;cREFORMED TSHA;cSHA;cSSA;cZHA;cZSHA;cTSA;cDZA;cYI TSA;cSA"),
  (0x16F3B, "aMIAO LETTER ZA;cZSA;cZZA;cZZSA;cARCHAIC ZZA;cZZYA;cZZSYA;cWA;cAH;cHHA;cBRI;cSYI"),
  (0x16F47, "aMIAO LETTER DZYI;cTE;cTSE;cRTE"),
  (0x16F4F, "aMIAO SIGN CONSONANT MODIFIER BAR;bLETTER NASALIZATION;bSIGN ASPIRATION"),
  (0x16F52, "aMIAO SIGN REFORMED VOICING;dASPIRATION;bVOWEL SIGN A;dAA;dAHH;dAN;dANG;dO;dOO;dWO"),
  (0x16F5C, "aMIAO VOWEL SIGN W;dE;dEN;dENG;dOEY;dI;dIA;dIAN;dIANG;dIO;dIE;dII;dIU;dING;dU;dUA"),
  (0x16F6C, "aMIAO VOWEL SIGN UAN;dUANG;dUU;dUEI;dUNG;dY;dYI;dAE;dAEE;dERR;dROUNDED ERR;dER"),
  (0x16F78, "aMIAO VOWEL SIGN ROUNDED ER;dAI;dEI;dAU;dOU;dN;dNG;dUOG;dYUI;dOG;dOER;dVW;dIG;dEA"),
  (0x16F86, "aMIAO VOWEL SIGN IONG;dUI"),
  (0x16F8F, "aMIAO TONE RIGHT;cTOP RIGHT;cABOVE;cBELOW;bLETTER TONE-2;cTONE-3;cTONE-4;cTONE-5"),
  (0x16F97, "aMIAO LETTER TONE-6;cTONE-7;cTONE-8;cREFORMED TONE-1;dTONE-2;dTONE-4;dTONE-5;dTONE-6"),
  (0x16F9F, "aMIAO LETTER REFORMED TONE-8"),
  (0x16FE0, "aTANGUT ITERATION MARK;aNUSHU ITERATION MARK;aOLD CHINESE HOOK MARK;cITERATION MARK"),
  (0x16FE4, "aKHITAN SMALL SCRIPT FILLER"),
  (0x16FF0, "aVIETNAMESE ALTERNATE READING MARK CA;eNHAY"),
  (0x18800, "aTANGUT COMPONENT-001;bCOMPONENT-002;bCOMPONENT-003;bCOMPONENT-004;bCOMPONENT-005"),
  (0x18805, "aTANGUT COMPONENT-006;bCOMPONENT-007;bCOMPONENT-008;bCOMPONENT-009;bCOMPONENT-010"),
  (0x1880A, "aTANGUT COMPONENT-011;bCOMPONENT-012;bCOMPONENT-013;bCOMPONENT-014;bCOMPONENT-015"),
  (0x1880F, "aTANGUT COMPONENT-016;bCOMPONENT-017;bCOMPONENT-018;bCOMPONENT-019;bCOMPONENT-020"),
  (0x18814, "aTANGUT COMPONENT-021;bCOMPONENT-022;bCOMPONENT-023;bCOMPONENT-024;bCOMPONENT-025"),
  (0x18819, "aTANGUT COMPONENT-026;bCOMPONENT-027;bCOMPONENT-028;bCOMPONENT-029;bCOMPONENT-030"),
  (0x1881E, "aTANGUT COMPONENT-031;bCOMPONENT-032;bCOMPONENT-033;bCOMPONENT-034;bCOMPONENT-035"),
  (0x18823, "aTANGUT COMPONENT-036;bCOMPONENT-037;bCOMPONENT-038;bCOMPONENT-039;bCOMPONENT-040"),
  (0x18828, "aTANGUT COMPONENT-041;bCOMPONENT-042;bCOMPONENT-043;bCOMPONENT-044;bCOMPONENT-045"),
  (0x1882D, "aTANGUT COMPONENT-046;bCOMPONENT-047;bCOMPONENT-048;bCOMPONENT-049;bCOMPONENT-050"),
  (0x18832, "aTANGUT COMPONENT-051;bCOMPONENT-052;bCOMPONENT-053;bCOMPONENT-054;bCOMPONENT-055"),
  (0x18837, "aTANGUT COMPONENT-056;bCOMPONENT-057;bCOMPONENT-058;bCOMPONENT-059;bCOMPONENT-060"),
  (0x1883C, "aTANGUT COMPONENT-061;bCOMPONENT-062;bCOMPONENT-063;bCOMPONENT-064;bCOMPONENT-065"),
  (0x18841, "aTANGUT COMPONENT-066;bCOMPONENT-067;bCOMPONENT-068;bCOMPONENT-069;bCOMPONENT-070"),
  (0x18846, "aTANGUT COMPONENT-071;bCOMPONENT-072;bCOMPONENT-073;bCOMPONENT-074;bCOMPONENT-075"),
  (0x1884B, "aTANGUT COMPONENT-076;bCOMPONENT-077;bCOMPONENT-078;bCOMPONENT-079;bCOMPONENT-080"),
  (0x18850, "aTANGUT COMPONENT-081;bCOMPONENT-082;bCOMPONENT-083;bCOMPONENT-084;bCOMPONENT-085"),
  (0x18855, "aTANGUT COMPONENT-086;bCOMPONENT-087;bCOMPONENT-088;bCOMPONENT-089;bCOMPONENT-090"),
  (0x1885A, "aTANGUT COMPONENT-091;bCOMPONENT-092;bCOMPONENT-093;bCOMPONENT-094;bCOMPONENT-095"),
  (0x1885F, "aTANGUT COMPONENT-096;bCOMPONENT-097;bCOMPONENT-098;bCOMPONENT-099;bCOMPONENT-100"),
  (0x18864, "aTANGUT COMPONENT-101;bCOMPONENT-102;bCOMPONENT-103;bCOMPONENT-104;bCOMPONENT-105"),
  (0x18869, "aTANGUT COMPONENT-106;bCOMPONENT-107;bCOMPONENT-108;bCOMPONENT-109;bCOMPONENT-110"),
  (0x1886E, "aTANGUT COMPONENT-111;bCOMPONENT-112;bCOMPONENT-113;bCOMPONENT-114;bCOMPONENT-115"),
  (0x18873, "aTANGUT COMPONENT-116;bCOMPONENT-117;bCOMPONENT-118;bCOMPONENT-119;bCOMPONENT-120"),
  (0x18878, "aTANGUT COMPONENT-121;bCOMPONENT-122;bCOMPONENT-123;bCOMPONENT-124;bCOMPONENT-125"),
  (0x1887D, "aTANGUT COMPONENT-126;bCOMPONENT-127;bCOMPONENT-128;bCOMPONENT-129;bCOMPONENT-130"),
  (0x18882, "aTANGUT COMPONENT-131;bCOMPONENT-132;bCOMPONENT-133;bCOMPONENT-134;bCOMPONENT-135"),
  (0x18887, "aTANGUT COMPONENT-136;bCOMPONENT-137;bCOMPONENT-138;bCOMPONENT-139;bCOMPONENT-140"),
  (0x1888C, "aTANGUT COMPONENT-141;bCOMPONENT-142;bCOMPONENT-143;bCOMPONENT-144;bCOMPONENT-145"),
  (0x18891, "aTANGUT COMPONENT-146;bCOMPONENT-147;bCOMPONENT-148;bCOMPONENT-149;bCOMPONENT-150"),
  (0x18896, "aTANGUT COMPONENT-151;bCOMPONENT-152;bCOMPONENT-153;bCOMPONENT-154;bCOMPONENT-155"),
  (0x1889B, "aTANGUT COMPONENT-156;bCOMPONENT-157;bCOMPONENT-158;bCOMPONENT-159;bCOMPONENT-160"),
  (0x188A0, "aTANGUT COMPONENT-161;bCOMPONENT-162;bCOMPONENT-163;bCOMPONENT-164;bCOMPONENT-165"),
  (0x188A5, "aTANGUT COMPONENT-166;bCOMPONENT-167;bCOMPONENT-168;bCOMPONENT-169;bCOMPONENT-170"),
  (0x188AA, "aTANGUT COMPONENT-171;bCOMPONENT-172;bCOMPONENT-173;bCOMPONENT-174;bCOMPONENT-175"),
  (0x188AF, "aTANGUT COMPONENT-176;bCOMPONENT-177;bCOMPONENT-178;bCOMPONENT-179;bCOMPONENT-180")]

/-- The lines of names from U+188B4 on. -/
def namesFrom188B4 : List (Nat × String) := [
  (0x188B4, "aTANGUT COMPONENT-181;bCOMPONENT-182;bCOMPONENT-183;bCOMPONENT-184;bCOMPONENT-185"),
  (0x188B9, "aTANGUT COMPONENT-186;bCOMPONENT-187;bCOMPONENT-188;bCOMPONENT-189;bCOMPONENT-190"),
  (0x188BE, "aTANGUT COMPONENT-191;bCOMPONENT-192;bCOMPONENT-193;bCOMPONENT-194;bCOMPONENT-195"),
  (0x188C3, "aTANGUT COMPONENT-196;bCOMPONENT-197;bCOMPONENT-198;bCOMPONENT-199;bCOMPONENT-200"),
  (0x188C8, "aTANGUT COMPONENT-201;bCOMPONENT-202;bCOMPONENT-203;bCOMPONENT-204;bCOMPONENT-205"),
  (0x188CD, "aTANGUT COMPONENT-206;bCOMPONENT-207;bCOMPONENT-208;bCOMPONENT-209;bCOMPONENT-210"),
  (0x188D2, "aTANGUT COMPONENT-211;bCOMPONENT-212;bCOMPONENT-213;bCOMPONENT-214;bCOMPONENT-215"),
  (0x188D7, "aTANGUT COMPONENT-216;bCOMPONENT-217;bCOMPONENT-218;bCOMPONENT-219;bCOMPONENT-220"),
  (0x188DC, "aTANGUT COMPONENT-221;bCOMPONENT-222;bCOMPONENT-223;bCOMPONENT-224;bCOMPONENT-225"),
  (0x188E1, "aTANGUT COMPONENT-226;bCOMPONENT-227;bCOMPONENT-228;bCOMPONENT-229;bCOMPONENT-230"),
  (0x188E6, "aTANGUT COMPONENT-231;bCOMPONENT-232;bCOMPONENT-233;bCOMPONENT-234;bCOMPONENT-235"),
  (0x188EB, "aTANGUT COMPONENT-236;bCOMPONENT-237;bCOMPONENT-238;bCOMPONENT-239;bCOMPONENT-240"),
  (0x188F0, "aTANGUT COMPONENT-241;bCOMPONENT-242;bCOMPONENT-243;bCOMPONENT-244;bCOMPONENT-245"),
  (0x188F5, "aTANGUT COMPONENT-246;bCOMPONENT-247;bCOMPONENT-248;bCOMPONENT-249;bCOMPONENT-250"),
  (0x188FA, "aTANGUT COMPONENT-251;bCOMPONENT-252;bCOMPONENT-253;bCOMPONENT-254;bCOMPONENT-255"),
  (0x188FF, "aTANGUT COMPONENT-256;bCOMPONENT-257;bCOMPONENT-258;bCOMPONENT-259;bCOMPONENT-260"),
  (0x18904, "aTANGUT COMPONENT-261;bCOMPONENT-262;bCOMPONENT-263;bCOMPONENT-264;bCOMPONENT-265"),
  (0x18909, "aTANGUT COMPONENT-266;bCOMPONENT-267;bCOMPONENT-268;bCOMPONENT-269;bCOMPONENT-270"),
  (0x1890E, "aTANGUT COMPONENT-271;bCOMPONENT-272;bCOMPONENT-273;bCOMPONENT-274;bCOMPONENT-275"),
  (0x18913, "aTANGUT COMPONENT-276;bCOMPONENT-277;bCOMPONENT-278;bCOMPONENT-279;bCOMPONENT-280"),
  (0x18918, "aTANGUT COMPONENT-281;bCOMPONENT-282;bCOMPONENT-283;bCOMPONENT-284;bCOMPONENT-285"),
  (0x1891D, "aTANGUT COMPONENT-286;bCOMPONENT-287;bCOMPONENT-288;bCOMPONENT-289;bCOMPONENT-290"),
  (0x18922, "aTANGUT COMPONENT-291;bCOMPONENT-292;bCOMPONENT-293;bCOMPONENT-294;bCOMPONENT-295"),
  (0x18927, "aTANGUT COMPONENT-296;bCOMPONENT-297;bCOMPONENT-298;bCOMPONENT-299;bCOMPONENT-300"),
  (0x1892C, "aTANGUT COMPONENT-301;bCOMPONENT-302;bCOMPONENT-303;bCOMPONENT-304;bCOMPONENT-305"),
  (0x18931, "aTANGUT COMPONENT-306;bCOMPONENT-307;bCOMPONENT-308;bCOMPONENT-309;bCOMPONENT-310"),
  (0x18936, "aTANGUT COMPONENT-311;bCOMPONENT-312;bCOMPONENT-313;bCOMPONENT-314;bCOMPONENT-315"),
  (0x1893B, "aTANGUT COMPONENT-316;bCOMPONENT-317;bCOMPONENT-318;bCOMPONENT-319;bCOMPONENT-320"),
  (0x18940, "aTANGUT COMPONENT-321;bCOMPONENT-322;bCOMPONENT-323;bCOMPONENT-324;bCOMPONENT-325"),
  (0x18945, "aTANGUT COMPONENT-326;bCOMPONENT-327;bCOMPONENT-328;bCOMPONENT-329;bCOMPONENT-330"),
  (0x1894A, "aTANGUT COMPONENT-331;bCOMPONENT-332;bCOMPONENT-333;bCOMPONENT-334;bCOMPONENT-335"),
  (0x1894F, "aTANGUT COMPONENT-336;bCOMPONENT-337;bCOMPONENT-338;bCOMPONENT-339;bCOMPONENT-340"),
  (0x18954, "aTANGUT COMPONENT-341;bCOMPONENT-342;bCOMPONENT-343;bCOMPONENT-344;bCOMPONENT-345"),
  (0x18959, "aTANGUT COMPONENT-346;bCOMPONENT-347;bCOMPONENT-348;bCOMPONENT-349;bCOMPONENT-350"),
  (0x1895E, "aTANGUT COMPONENT-351;bCOMPONENT-352;bCOMPONENT-353;bCOMPONENT-354;bCOMPONENT-355"),
  (0x18963, "aTANGUT COMPONENT-356;bCOMPONENT-357;bCOMPONENT-358;bCOMPONENT-359;bCOMPONENT-360"),
  (0x18968, "aTANGUT COMPONENT-361;bCOMPONENT-362;bCOMPONENT-363;bCOMPONENT-364;bCOMPONENT-365"),
  (0x1896D, "aTANGUT COMPONENT-366;bCOMPONENT-367;bCOMPONENT-368;bCOMPONENT-369;bCOMPONENT-370"),
  (0x18972, "aTANGUT COMPONENT-371;bCOMPONENT-372;bCOMPONENT-373;bCOMPONENT-374;bCOMPONENT-375"),
  (0x18977, "aTANGUT COMPONENT-376;bCOMPONENT-377;bCOMPONENT-378;bCOMPONENT-379;bCOMPONENT-380"),
  (0x1897C, "aTANGUT COMPONENT-381;bCOMPONENT-382;bCOMPONENT-383;bCOMPONENT-384;bCOMPONENT-385"),
  (0x18981, "aTANGUT COMPONENT-386;bCOMPONENT-387;bCOMPONENT-388;bCOMPONENT-389;bCOMPONENT-390"),
  (0x18986, "aTANGUT COMPONENT-391;bCOMPONENT-392;bCOMPONENT-393;bCOMPONENT-394;bCOMPONENT-395"),
  (0x1898B, "aTANGUT COMPONENT-396;bCOMPONENT-397;bCOMPONENT-398;bCOMPONENT-399;bCOMPONENT-400"),
  (0x18990, "aTANGUT COMPONENT-401;bCOMPONENT-402;bCOMPONENT-403;bCOMPONENT-404;bCOMPONENT-405"),
  (0x18995, "aTANGUT COMPONENT-406;bCOMPONENT-407;bCOMPONENT-408;bCOMPONENT-409;bCOMPONENT-410"),
  (0x1899A, "aTANGUT COMPONENT-411;bCOMPONENT-412;bCOMPONENT-413;bCOMPONENT-414;bCOMPONENT-415"),
  (0x1899F, "aTANGUT COMPONENT-416;bCOMPONENT-417;bCOMPONENT-418;bCOMPONENT-419;bCOMPONENT-420"),
  (0x189A4, "aTANGUT COMPONENT-421;bCOMPONENT-422;bCOMPONENT-423;bCOMPONENT-424;bCOMPONENT-425"),
  (0x189A9, "aTANGUT COMPONENT-426;bCOMPONENT-427;bCOMPONENT-428;bCOMPONENT-429;bCOMPONENT-430"),
  (0x189AE, "aTANGUT COMPONENT-431;bCOMPONENT-432;bCOMPONENT-433;bCOMPONENT-434;bCOMPONENT-435"),
  (0x189B3, "aTANGUT COMPONENT-436;bCOMPONENT-437;bCOMPONENT-438;bCOMPONENT-439;bCOMPONENT-440"),
  (0x189B8, "aTANGUT COMPONENT-441;bCOMPONENT-442;bCOMPONENT-443;bCOMPONENT-444;bCOMPONENT-445"),
  (0x189BD, "aTANGUT COMPONENT-446;bCOMPONENT-447;bCOMPONENT-448;bCOMPONENT-449;bCOMPONENT-450"),
  (0x189C2, "aTANGUT COMPONENT-451;bCOMPONENT-452;bCOMPONENT-453;bCOMPONENT-454;bCOMPONENT-455"),
  (0x189C7, "aTANGUT COMPONENT-456;bCOMPONENT-457;bCOMPONENT-458;bCOMPONENT-459;bCOMPONENT-460"),
  (0x189CC, "aTANGUT COMPONENT-461;bCOMPONENT-462;bCOMPONENT-463;bCOMPONENT-464;bCOMPONENT-465"),
  (0x189D1, "aTANGUT COMPONENT-466;bCOMPONENT-467;bCOMPONENT-468;bCOMPONENT-469;bCOMPONENT-470"),
  (0x189D6, "aTANGUT COMPONENT-471;bCOMPONENT-472;bCOMPONENT-473;bCOMPONENT-474;bCOMPONENT-475"),
  (0x189DB, "aTANGUT COMPONENT-476;bCOMPONENT-477;bCOMPONENT-478;bCOMPONENT-479;bCOMPONENT-480"),
  (0x189E0, "aTANGUT COMPONENT-481;bCOMPONENT-482;bCOMPONENT-483;bCOMPONENT-484;bCOMPONENT-485"),
  (0x189E5, "aTANGUT COMPONENT-486;bCOMPONENT-487;bCOMPONENT-488;bCOMPONENT-489;bCOMPONENT-490"),
  (0x189EA, "aTANGUT COMPONENT-491;bCOMPONENT-492;bCOMPONENT-493;bCOMPONENT-494;bCOMPONENT-495"),
  (0x189EF, "aTANGUT COMPONENT-496;bCOMPONENT-497;bCOMPONENT-498;bCOMPONENT-499;bCOMPONENT-500"),
  (0x189F4, "aTANGUT COMPONENT-501;bCOMPONENT-502;bCOMPONENT-503;bCOMPONENT-504;bCOMPONENT-505"),
  (0x189F9, "aTANGUT COMPONENT-506;bCOMPONENT-507;bCOMPONENT-508;bCOMPONENT-509;bCOMPONENT-510"),
  (0x189FE, "aTANGUT COMPONENT-511;bCOMPONENT-512;bCOMPONENT-513;bCOMPONENT-514;bCOMPONENT-515"),
  (0x18A03, "aTANGUT COMPONENT-516;bCOMPONENT-517;bCOMPONENT-518;bCOMPONENT-519;bCOMPONENT-520"),
  (0x18A08, "aTANGUT COMPONENT-521;bCOMPONENT-522;bCOMPONENT-523;bCOMPONENT-524;bCOMPONENT-525"),
  (0x18A0D, "aTANGUT COMPONENT-526;bCOMPONENT-527;bCOMPONENT-528;bCOMPONENT-529;bCOMPONENT-530"),
  (0x18A12, "aTANGUT COMPONENT-531;bCOMPONENT-532;bCOMPONENT-533;bCOMPONENT-534;bCOMPONENT-535"),
  (0x18A17, "aTANGUT COMPONENT-536;bCOMPONENT-537;bCOMPONENT-538;bCOMPONENT-539;bCOMPONENT-540"),
  (0x18A1C, "aTANGUT COMPONENT-541;bCOMPONENT-542;bCOMPONENT-543;bCOMPONENT-544;bCOMPONENT-545"),
  (0x18A21, "aTANGUT COMPONENT-546;bCOMPONENT-547;bCOMPONENT-548;bCOMPONENT-549;bCOMPONENT-550"),
  (0x18A26, "aTANGUT COMPONENT-551;bCOMPONENT-552;bCOMPONENT-553;bCOMPONENT-554;bCOMPONENT-555"),
  (0x18A2B, "aTANGUT COMPONENT-556;bCOMPONENT-557;bCOMPONENT-558;bCOMPONENT-559;bCOMPONENT-560"),
  (0x18A30, "aTANGUT COMPONENT-561;bCOMPONENT-562;bCOMPONENT-563;bCOMPONENT-564;bCOMPONENT-565"),
  (0x18A35, "aTANGUT COMPONENT-566;bCOMPONENT-567;bCOMPONENT-568;bCOMPONENT-569;bCOMPONENT-570"),
  (0x18A3A, "aTANGUT COMPONENT-571;bCOMPONENT-572;bCOMPONENT-573;bCOMPONENT-574;bCOMPONENT-575"),
  (0x18A3F, "aTANGUT COMPONENT-576;bCOMPONENT-577;bCOMPONENT-578;bCOMPONENT-579;bCOMPONENT-580"),
  (0x18A44, "aTANGUT COMPONENT-581;bCOMPONENT-582;bCOMPONENT-583;bCOMPONENT-584;bCOMPONENT-585"),
  (0x18A49, "aTANGUT COMPONENT-586;bCOMPONENT-587;bCOMPONENT-588;bCOMPONENT-589;bCOMPONENT-590"),
  (0x18A4E, "aTANGUT COMPONENT-591;bCOMPONENT-592;bCOMPONENT-593;bCOMPONENT-594;bCOMPONENT-595"),
  (0x18A53, "aTANGUT COMPONENT-596;bCOMPONENT-597;bCOMPONENT-598;bCOMPONENT-599;bCOMPONENT-600"),
  (0x18A58, "aTANGUT COMPONENT-601;bCOMPONENT-602;bCOMPONENT-603;bCOMPONENT-604;bCOMPONENT-605"),
  (0x18A5D, "aTANGUT COMPONENT-606;bCOMPONENT-607;bCOMPONENT-608;bCOMPONENT-609;bCOMPONENT-610"),
  (0x18A62, "aTANGUT COMPONENT-611;bCOMPONENT-612;bCOMPONENT-613;bCOMPONENT-614;bCOMPONENT-615"),
  (0x18A67, "aTANGUT COMPONENT-616;bCOMPONENT-617;bCOMPONENT-618;bCOMPONENT-619;bCOMPONENT-620"),
  (0x18A6C, "aTANGUT COMPONENT-621;bCOMPONENT-622;bCOMPONENT-623;bCOMPONENT-624;bCOMPONENT-625"),
  (0x18A71, "aTANGUT COMPONENT-626;bCOMPONENT-627;bCOMPONENT-628;bCOMPONENT-629;bCOMPONENT-630"),
  (0x18A76, "aTANGUT COMPONENT-631;bCOMPONENT-632;bCOMPONENT-633;bCOMPONENT-634;bCOMPONENT-635"),
  (0x18A7B, "aTANGUT COMPONENT-636;bCOMPONENT-637;bCOMPONENT-638;bCOMPONENT-639;bCOMPONENT-640"),
  (0x18A80, "aTANGUT COMPONENT-641;bCOMPONENT-642;bCOMPONENT-643;bCOMPONENT-644;bCOMPONENT-645"),
  (0x18A85, "aTANGUT COMPONENT-646;bCOMPONENT-647;bCOMPONENT-648;bCOMPONENT-649;bCOMPONENT-650"),
  (0x18A8A, "aTANGUT COMPONENT-651;bCOMPONENT-652;bCOMPONENT-653;bCOMPONENT-654;bCOMPONENT-655"),
  (0x18A8F, "aTANGUT COMPONENT-656;bCOMPONENT-657;bCOMPONENT-658;bCOMPONENT-659;bCOMPONENT-660"),
  (0x18A94, "aTANGUT COMPONENT-661;bCOMPONENT-662;bCOMPONENT-663;bCOMPONENT-664;bCOMPONENT-665"),
  (0x18A99, "aTANGUT COMPONENT-666;bCOMPONENT-667;bCOMPONENT-668;bCOMPONENT-669;bCOMPONENT-670"),
  (0x18A9E, "aTANGUT COMPONENT-671;bCOMPONENT-672;bCOMPONENT-673;bCOMPONENT-674;bCOMPONENT-675"),
  (0x18AA3, "aTANGUT COMPONENT-676;bCOMPONENT-677;bCOMPONENT-678;bCOMPONENT-679;bCOMPONENT-680"),
  (0x18AA8, "aTANGUT COMPONENT-681;bCOMPONENT-682;bCOMPONENT-683;bCOMPONENT-684;bCOMPONENT-685"),
  (0x18AAD, "aTANGUT COMPONENT-686;bCOMPONENT-687;bCOMPONENT-688;bCOMPONENT-689;bCOMPONENT-690"),
  (0x18AB2, "aTANGUT COMPONENT-691;bCOMPONENT-692;bCOMPONENT-693;bCOMPONENT-694;bCOMPONENT-695"),
  (0x18AB7, "aTANGUT COMPONENT-696;bCOMPONENT-697;bCOMPONENT-698;bCOMPONENT-699;bCOMPONENT-700"),
  (0x18ABC, "aTANGUT COMPONENT-701;bCOMPONENT-702;bCOMPONENT-703;bCOMPONENT-704;bCOMPONENT-705"),
  (0x18AC1, "aTANGUT COMPONENT-706;bCOMPONENT-707;bCOMPONENT-708;bCOMPONENT-709;bCOMPONENT-710"),
  (0x18AC6, "aTANGUT COMPONENT-711;bCOMPONENT-712;bCOMPONENT-713;bCOMPONENT-714;bCOMPONENT-715"),
  (0x18ACB, "aTANGUT COMPONENT-716;bCOMPONENT-717;bCOMPONENT-718;bCOMPONENT-719;bCOMPONENT-720"),
  (0x18AD0, "aTANGUT COMPONENT-721;bCOMPONENT-722;bCOMPONENT-723;bCOMPONENT-724;bCOMPONENT-725"),
  (0x18AD5, "aTANGUT COMPONENT-726;bCOMPONENT-727;bCOMPONENT-728;bCOMPONENT-729;bCOMPONENT-730"),
  (0x18ADA, "aTANGUT COMPONENT-731;bCOMPONENT-732;bCOMPONENT-733;bCOMPONENT-734;bCOMPONENT-735"),
  (0x18ADF, "aTANGUT COMPONENT-736;bCOMPONENT-737;bCOMPONENT-738;bCOMPONENT-739;bCOMPONENT-740"),
  (0x18AE4, "aTANGUT COMPONENT-741;bCOMPONENT-742;bCOMPONENT-743;bCOMPONENT-744;bCOMPONENT-745"),
  (0x18AE9, "aTANGUT COMPONENT-746;bCOMPONENT-747;bCOMPONENT-748;bCOMPONENT-749;bCOMPONENT-750"),
  (0x18AEE, "aTANGUT COMPONENT-751;bCOMPONENT-752;bCOMPONENT-753;bCOMPONENT-754;bCOMPONENT-755"),
  (0x18AF3, "aTANGUT COMPONENT-756;bCOMPONENT-757;bCOMPONENT-758;bCOMPONENT-759;bCOMPONENT-760"),
  (0x18AF8, "aTANGUT COMPONENT-761;bCOMPONENT-762;bCOMPONENT-763;bCOMPONENT-764;bCOMPONENT-765"),
  (0x18AFD, "aTANGUT COMPONENT-766;bCOMPONENT-767;bCOMPONENT-768"),
  (0x18B00, "aKHITAN SMALL SCRIPT CHARACTER-18B00;dCHARACTER-18B01;dCHARACTER-18B02"),
  (0x18B03, "aKHITAN SMALL SCRIPT CHARACTER-18B03;dCHARACTER-18B04;dCHARACTER-18B05"),
  (0x18B06, "aKHITAN SMALL SCRIPT CHARACTER-18B06;dCHARACTER-18B07;dCHARACTER-18B08"),
  (0x18B09, "aKHITAN SMALL SCRIPT CHARACTER-18B09;dCHARACTER-18B0A;dCHARACTER-18B0B"),
  (0x18B0C, "aKHITAN SMALL SCRIPT CHARACTER-18B0C;dCHARACTER-18B0D;dCHARACTER-18B0E"),
  (0x18B0F, "aKHITAN SMALL SCRIPT CHARACTER-18B0F;dCHARACTER-18B10;dCHARACTER-18B11"),
  (0x18B12, "aKHITAN SMALL SCRIPT CHARACTER-18B12;dCHARACTER-18B13;dCHARACTER-18B14"),
  (0x18B15, "aKHITAN SMALL SCRIPT CHARACTER-18B15;dCHARACTER-18B16;dCHARACTER-18B17"),
  (0x18B18, "aKHITAN SMALL SCRIPT CHARACTER-18B18;dCHARACTER-18B19;dCHARACTER-18B1A"),
  (0x18B1B, "aKHITAN SMALL SCRIPT CHARACTER-18B1B;dCHARACTER-18B1C;dCHARACTER-18B1D"),
  (0x18B1E, "aKHITAN SMALL SCRIPT CHARACTER-18B1E;dCHARACTER-18B1F;dCHARACTER-18B20"),
  (0x18B21, "aKHITAN SMALL SCRIPT CHARACTER-18B21;dCHARACTER-18B22;dCHARACTER-18B23"),
  (0x18B24, "aKHITAN SMALL SCRIPT CHARACTER-18B24;dCHARACTER-18B25;dCHARACTER-18B26"),
  (0x18B27, "aKHITAN SMALL SCRIPT CHARACTER-18B27;dCHARACTER-18B28;dCHARACTER-18B29"),
  (0x18B2A, "aKHITAN SMALL SCRIPT CHARACTER-18B2A;dCHARACTER-18B2B;dCHARACTER-18B2C"),
  (0x18B2D, "aKHITAN SMALL SCRIPT CHARACTER-18B2D;dCHARACTER-18B2E;dCHARACTER-18B2F"),
  (0x18B30, "aKHITAN SMALL SCRIPT CHARACTER-18B30;dCHARACTER-18B31;dCHARACTER-18B32"),
  (0x18B33, "aKHITAN SMALL SCRIPT CHARACTER-18B33;dCHARACTER-18B34;dCHARACTER-18B35"),
  (0x18B36, "aKHITAN SMALL SCRIPT CHARACTER-18B36;dCHARACTER-18B37;dCHARACTER-18B38"),
  (0x18B39, "aKHITAN SMALL SCRIPT CHARACTER-18B39;dCHARACTER-18B3A;dCHARACTER-18B3B"),
  (0x18B3C, "aKHITAN SMALL SCRIPT CHARACTER-18B3C;dCHARACTER-18B3D;dCHARACTER-18B3E"),
  (0x18B3F, "aKHITAN SMALL SCRIPT CHARACTER-18B3F;dCHARACTER-18B40;dCHARACTER-18B41"),
  (0x18B42, "aKHITAN SMALL SCRIPT CHARACTER-18B42;dCHARACTER-18B43;dCHARACTER-18B44"),
  (0x18B45, "aKHITAN SMALL SCRIPT CHARACTER-18B45;dCHARACTER-18B46;dCHARACTER-18B47"),
  (0x18B48, "aKHITAN SMALL SCRIPT CHARACTER-18B48;dCHARACTER-18B49;dCHARACTER-18B4A"),
  (0x18B4B, "aKHITAN SMALL SCRIPT CHARACTER-18B4B;dCHARACTER-18B4C;dCHARACTER-18B4D"),
  (0x18B4E, "aKHITAN SMALL SCRIPT CHARACTER-18B4E;dCHARACTER-18B4F;dCHARACTER-18B50"),
  (0x18B51, "aKHITAN SMALL SCRIPT CHARACTER-18B51;dCHARACTER-18B52;dCHARACTER-18B53"),
  (0x18B54, "aKHITAN SMALL SCRIPT CHARACTER-18B54;dCHARACTER-18B55;dCHARACTER-18B56"),
  (0x18B57, "aKHITAN SMALL SCRIPT CHARACTER-18B57;dCHARACTER-18B58;dCHARACTER-18B59"),
  (0x18B5A, "aKHITAN SMALL SCRIPT CHARACTER-18B5A;dCHARACTER-18B5B;dCHARACTER-18B5C"),
  (0x18B5D, "aKHITAN SMALL SCRIPT CHARACTER-18B5D;dCHARACTER-18B5E;dCHARACTER-18B5F"),
  (0x18B60, "aKHITAN SMALL SCRIPT CHARACTER-18B60;dCHARACTER-18B61;dCHARACTER-18B62"),
  (0x18B63, "aKHITAN SMALL SCRIPT CHARACTER-18B63;dCHARACTER-18B64;dCHARACTER-18B65"),
  (0x18B66, "aKHITAN SMALL SCRIPT CHARACTER-18B66;dCHARACTER-18B67;dCHARACTER-18B68"),
  (0x18B69, "aKHITAN SMALL SCRIPT CHARACTER-18B69;dCHARACTER-18B6A;dCHARACTER-18B6B"),
  (0x18B6C, "aKHITAN SMALL SCRIPT CHARACTER-18B6C;dCHARACTER-18B6D;dCHARACTER-18B6E"),
  (0x18B6F, "aKHITAN SMALL SCRIPT CHARACTER-18B6F;dCHARACTER-18B70;dCHARACTER-18B71"),
  (0x18B72, "aKHITAN SMALL SCRIPT CHARACTER-18B72;dCHARACTER-18B73;dCHARACTER-18B74"),
  (0x18B75, "aKHITAN SMALL SCRIPT CHARACTER-18B75;dCHARACTER-18B76;dCHARACTER-18B77"),
  (0x18B78, "aKHITAN SMALL SCRIPT CHARACTER-18B78;dCHARACTER-18B79;dCHARACTER-18B7A"),
  (0x18B7B, "aKHITAN SMALL SCRIPT CHARACTER-18B7B;dCHARACTER-18B7C;dCHARACTER-18B7D"),
  (0x18B7E, "aKHITAN SMALL SCRIPT CHARACTER-18B7E;dCHARACTER-18B7F;dCHARACTER-18B80"),
  (0x18B81, "aKHITAN SMALL SCRIPT CHARACTER-18B81;dCHARACTER-18B82;dCHARACTER-18B83"),
  (0x18B84, "aKHITAN SMALL SCRIPT CHARACTER-18B84;dCHARACTER-18B85;dCHARACTER-18B86"),
  (0x18B87, "aKHITAN SMALL SCRIPT CHARACTER-18B87;dCHARACTER-18B88;dCHARACTER-18B89"),
  (0x18B8A, "aKHITAN SMALL SCRIPT CHARACTER-18B8A;dCHARACTER-18B8B;dCHARACTER-18B8C"),
  (0x18B8D, "aKHITAN SMALL SCRIPT CHARACTER-18B8D;dCHARACTER-18B8E;dCHARACTER-18B8F"),
  (0x18B90, "aKHITAN SMALL SCRIPT CHARACTER-18B90;dCHARACTER-18B91;dCHARACTER-18B92"),
  (0x18B93, "aKHITAN SMALL SCRIPT CHARACTER-18B93;dCHARACTER-18B94;dCHARACTER-18B95"),
  (0x18B96, "aKHITAN SMALL SCRIPT CHARACTER-18B96;dCHARACTER-18B97;dCHARACTER-18B98"),
  (0x18B99, "aKHITAN SMALL SCRIPT CHARACTER-18B99;dCHARACTER-18B9A;dCHARACTER-18B9B"),
  (0x18B9C, "aKHITAN SMALL SCRIPT CHARACTER-18B9C;dCHARACTER-18B9D;dCHARACTER-18B9E"),
  (0x18B9F, "aKHITAN SMALL SCRIPT CHARACTER-18B9F;dCHARACTER-18BA0;dCHARACTER-18BA1"),
  (0x18BA2, "aKHITAN SMALL SCRIPT CHARACTER-18BA2;dCHARACTER-18BA3;dCHARACTER-18BA4"),
  (0x18BA5, "aKHITAN SMALL SCRIPT CHARACTER-18BA5;dCHARACTER-18BA6;dCHARACTER-18BA7"),
  (0x18BA8, "aKHITAN SMALL SCRIPT CHARACTER-18BA8;dCHARACTER-18BA9;dCHARACTER-18BAA"),
  (0x18BAB, "aKHITAN SMALL SCRIPT CHARACTER-18BAB;dCHARACTER-18BAC;dCHARACTER-18BAD"),
  (0x18BAE, "aKHITAN SMALL SCRIPT CHARACTER-18BAE;dCHARACTER-18BAF;dCHARACTER-18BB0"),
  (0x18BB1, "aKHITAN SMALL SCRIPT CHARACTER-18BB1;dCHARACTER-18BB2;dCHARACTER-18BB3"),
  (0x18BB4, "aKHITAN SMALL SCRIPT CHARACTER-18BB4;dCHARACTER-18BB5;dCHARACTER-18BB6"),
  (0x18BB7, "aKHITAN SMALL SCRIPT CHARACTER-18BB7;dCHARACTER-18BB8;dCHARACTER-18BB9"),
  (0x18BBA, "aKHITAN SMALL SCRIPT CHARACTER-18BBA;dCHARACTER-18BBB;dCHARACTER-18BBC"),
  (0x18BBD, "aKHITAN SMALL SCRIPT CHARACTER-18BBD;dCHARACTER-18BBE;dCHARACTER-18BBF"),
  (0x18BC0, "aKHITAN SMALL SCRIPT CHARACTER-18BC0;dCHARACTER-18BC1;dCHARACTER-18BC2"),
  (0x18BC3, "aKHITAN SMALL SCRIPT CHARACTER-18BC3;dCHARACTER-18BC4;dCHARACTER-18BC5"),
  (0x18BC6, "aKHITAN SMALL SCRIPT CHARACTER-18BC6;dCHARACTER-18BC7;dCHARACTER-18BC8"),
  (0x18BC9, "aKHITAN SMALL SCRIPT CHARACTER-18BC9;dCHARACTER-18BCA;dCHARACTER-18BCB"),
  (0x18BCC, "aKHITAN SMALL SCRIPT CHARACTER-18BCC;dCHARACTER-18BCD;dCHARACTER-18BCE"),
  (0x18BCF, "aKHITAN SMALL SCRIPT CHARACTER-18BCF;dCHARACTER-18BD0;dCHARACTER-18BD1"),
  (0x18BD2, "aKHITAN SMALL SCRIPT CHARACTER-18BD2;dCHARACTER-18BD3;dCHARACTER-18BD4"),
  (0x18BD5, "aKHITAN SMALL SCRIPT CHARACTER-18BD5;dCHARACTER-18BD6;dCHARACTER-18BD7"),
  (0x18BD8, "aKHITAN SMALL SCRIPT CHARACTER-18BD8;dCHARACTER-18BD9;dCHARACTER-18BDA"),
  (0x18BDB, "aKHITAN SMALL SCRIPT CHARACTER-18BDB;dCHARACTER-18BDC;dCHARACTER-18BDD"),
  (0x18BDE, "aKHITAN SMALL SCRIPT CHARACTER-18BDE;dCHARACTER-18BDF;dCHARACTER-18BE0"),
  (0x18BE1, "aKHITAN SMALL SCRIPT CHARACTER-18BE1;dCHARACTER-18BE2;dCHARACTER-18BE3"),
  (0x18BE4, "aKHITAN SMALL SCRIPT CHARACTER-18BE4;dCHARACTER-18BE5;dCHARACTER-18BE6"),
  (0x18BE7, "aKHITAN SMALL SCRIPT CHARACTER-18BE7;dCHARACTER-18BE8;dCHARACTER-18BE9"),
  (0x18BEA, "aKHITAN SMALL SCRIPT CHARACTER-18BEA;dCHARACTER-18BEB;dCHARACTER-18BEC"),
  (0x18BED, "aKHITAN SMALL SCRIPT CHARACTER-18BED;dCHARACTER-18BEE;dCHARACTER-18BEF"),
  (0x18BF0, "aKHITAN SMALL SCRIPT CHARACTER-18BF0;dCHARACTER-18BF1;dCHARACTER-18BF2"),
  (0x18BF3, "aKHITAN SMALL SCRIPT CHARACTER-18BF3;dCHARACTER-18BF4;dCHARACTER-18BF5"),
  (0x18BF6, "aKHITAN SMALL SCRIPT CHARACTER-18BF6;dCHARACTER-18BF7;dCHARACTER-18BF8"),
  (0x18BF9, "aKHITAN SMALL SCRIPT CHARACTER-18BF9;dCHARACTER-18BFA;dCHARACTER-18BFB"),
  (0x18BFC, "aKHITAN SMALL SCRIPT CHARACTER-18BFC;dCHARACTER-18BFD;dCHARACTER-18BFE"),
  (0x18BFF, "aKHITAN SMALL SCRIPT CHARACTER-18BFF;dCHARACTER-18C00;dCHARACTER-18C01"),
  (0x18C02, "aKHITAN SMALL SCRIPT CHARACTER-18C02;dCHARACTER-18C03;dCHARACTER-18C04"),
  (0x18C05, "aKHITAN SMALL SCRIPT CHARACTER-18C05;dCHARACTER-18C06;dCHARACTER-18C07"),
  (0x18C08, "aKHITAN SMALL SCRIPT CHARACTER-18C08;dCHARACTER-18C09;dCHARACTER-18C0A"),
  (0x18C0B, "aKHITAN SMALL SCRIPT CHARACTER-18C0B;dCHARACTER-18C0C;dCHARACTER-18C0D"),
  (0x18C0E, "aKHITAN SMALL SCRIPT CHARACTER-18C0E;dCHARACTER-18C0F;dCHARACTER-18C10"),
  (0x18C11, "aKHITAN SMALL SCRIPT CHARACTER-18C11;dCHARACTER-18C12;dCHARACTER-18C13"),
  (0x18C14, "aKHITAN SMALL SCRIPT CHARACTER-18C14;dCHARACTER-18C15;dCHARACTER-18C16"),
  (0x18C17, "aKHITAN SMALL SCRIPT CHARACTER-18C17;dCHARACTER-18C18;dCHARACTER-18C19"),
  (0x18C1A, "aKHITAN SMALL SCRIPT CHARACTER-18C1A;dCHARACTER-18C1B;dCHARACTER-18C1C"),
  (0x18C1D, "aKHITAN SMALL SCRIPT CHARACTER-18C1D;dCHARACTER-18C1E;dCHARACTER-18C1F"),
  (0x18C20, "aKHITAN SMALL SCRIPT CHARACTER-18C20;dCHARACTER-18C21;dCHARACTER-18C22"),
  (0x18C23, "aKHITAN SMALL SCRIPT CHARACTER-18C23;dCHARACTER-18C24;dCHARACTER-18C25"),
  (0x18C26, "aKHITAN SMALL SCRIPT CHARACTER-18C26;dCHARACTER-18C27;dCHARACTER-18C28"),
  (0x18C29, "aKHITAN SMALL SCRIPT CHARACTER-18C29;dCHARACTER-18C2A;dCHARACTER-18C2B"),
  (0x18C2C, "aKHITAN SMALL SCRIPT CHARACTER-18C2C;dCHARACTER-18C2D;dCHARACTER-18C2E"),
  (0x18C2F, "aKHITAN SMALL SCRIPT CHARACTER-18C2F;dCHARACTER-18C30;dCHARACTER-18C31")]

/-- The lines of names from U+18C32 on. -/
def namesFrom18C32 : List (Nat × String) := [
  (0x18C32, "aKHITAN SMALL SCRIPT CHARACTER-18C32;dCHARACTER-18C33;dCHARACTER-18C34"),
  (0x18C35, "aKHITAN SMALL SCRIPT CHARACTER-18C35;dCHARACTER-18C36;dCHARACTER-18C37"),
  (0x18C38, "aKHITAN SMALL SCRIPT CHARACTER-18C38;dCHARACTER-18C39;dCHARACTER-18C3A"),
  (0x18C3B, "aKHITAN SMALL SCRIPT CHARACTER-18C3B;dCHARACTER-18C3C;dCHARACTER-18C3D"),
  (0x18C3E, "aKHITAN SMALL SCRIPT CHARACTER-18C3E;dCHARACTER-18C3F;dCHARACTER-18C40"),
  (0x18C41, "aKHITAN SMALL SCRIPT CHARACTER-18C41;dCHARACTER-18C42;dCHARACTER-18C43"),
  (0x18C44, "aKHITAN SMALL SCRIPT CHARACTER-18C44;dCHARACTER-18C45;dCHARACTER-18C46"),
  (0x18C47, "aKHITAN SMALL SCRIPT CHARACTER-18C47;dCHARACTER-18C48;dCHARACTER-18C49"),
  (0x18C4A, "aKHITAN SMALL SCRIPT CHARACTER-18C4A;dCHARACTER-18C4B;dCHARACTER-18C4C"),
  (0x18C4D, "aKHITAN SMALL SCRIPT CHARACTER-18C4D;dCHARACTER-18C4E;dCHARACTER-18C4F"),
  (0x18C50, "aKHITAN SMALL SCRIPT CHARACTER-18C50;dCHARACTER-18C51;dCHARACTER-18C52"),
  (0x18C53, "aKHITAN SMALL SCRIPT CHARACTER-18C53;dCHARACTER-18C54;dCHARACTER-18C55"),
  (0x18C56, "aKHITAN SMALL SCRIPT CHARACTER-18C56;dCHARACTER-18C57;dCHARACTER-18C58"),
  (0x18C59, "aKHITAN SMALL SCRIPT CHARACTER-18C59;dCHARACTER-18C5A;dCHARACTER-18C5B"),
  (0x18C5C, "aKHITAN SMALL SCRIPT CHARACTER-18C5C;dCHARACTER-18C5D;dCHARACTER-18C5E"),
  (0x18C5F, "aKHITAN SMALL SCRIPT CHARACTER-18C5F;dCHARACTER-18C60;dCHARACTER-18C61"),
  (0x18C62, "aKHITAN SMALL SCRIPT CHARACTER-18C62;dCHARACTER-18C63;dCHARACTER-18C64"),
  (0x18C65, "aKHITAN SMALL SCRIPT CHARACTER-18C65;dCHARACTER-18C66;dCHARACTER-18C67"),
  (0x18C68, "aKHITAN SMALL SCRIPT CHARACTER-18C68;dCHARACTER-18C69;dCHARACTER-18C6A"),
  (0x18C6B, "aKHITAN SMALL SCRIPT CHARACTER-18C6B;dCHARACTER-18C6C;dCHARACTER-18C6D"),
  (0x18C6E, "aKHITAN SMALL SCRIPT CHARACTER-18C6E;dCHARACTER-18C6F;dCHARACTER-18C70"),
  (0x18C71, "aKHITAN SMALL SCRIPT CHARACTER-18C71;dCHARACTER-18C72;dCHARACTER-18C73"),
  (0x18C74, "aKHITAN SMALL SCRIPT CHARACTER-18C74;dCHARACTER-18C75;dCHARACTER-18C76"),
  (0x18C77, "aKHITAN SMALL SCRIPT CHARACTER-18C77;dCHARACTER-18C78;dCHARACTER-18C79"),
  (0x18C7A, "aKHITAN SMALL SCRIPT CHARACTER-18C7A;dCHARACTER-18C7B;dCHARACTER-18C7C"),
  (0x18C7D, "aKHITAN SMALL SCRIPT CHARACTER-18C7D;dCHARACTER-18C7E;dCHARACTER-18C7F"),
  (0x18C80, "aKHITAN SMALL SCRIPT CHARACTER-18C80;dCHARACTER-18C81;dCHARACTER-18C82"),
  (0x18C83, "aKHITAN SMALL SCRIPT CHARACTER-18C83;dCHARACTER-18C84;dCHARACTER-18C85"),
  (0x18C86, "aKHITAN SMALL SCRIPT CHARACTER-18C86;dCHARACTER-18C87;dCHARACTER-18C88"),
  (0x18C89, "aKHITAN SMALL SCRIPT CHARACTER-18C89;dCHARACTER-18C8A;dCHARACTER-18C8B"),
  (0x18C8C, "aKHITAN SMALL SCRIPT CHARACTER-18C8C;dCHARACTER-18C8D;dCHARACTER-18C8E"),
  (0x18C8F, "aKHITAN SMALL SCRIPT CHARACTER-18C8F;dCHARACTER-18C90;dCHARACTER-18C91"),
  (0x18C92, "aKHITAN SMALL SCRIPT CHARACTER-18C92;dCHARACTER-18C93;dCHARACTER-18C94"),
  (0x18C95, "aKHITAN SMALL SCRIPT CHARACTER-18C95;dCHARACTER-18C96;dCHARACTER-18C97"),
  (0x18C98, "aKHITAN SMALL SCRIPT CHARACTER-18C98;dCHARACTER-18C99;dCHARACTER-18C9A"),
  (0x18C9B, "aKHITAN SMALL SCRIPT CHARACTER-18C9B;dCHARACTER-18C9C;dCHARACTER-18C9D"),
  (0x18C9E, "aKHITAN SMALL SCRIPT CHARACTER-18C9E;dCHARACTER-18C9F;dCHARACTER-18CA0"),
  (0x18CA1, "aKHITAN SMALL SCRIPT CHARACTER-18CA1;dCHARACTER-18CA2;dCHARACTER-18CA3"),
  (0x18CA4, "aKHITAN SMALL SCRIPT CHARACTER-18CA4;dCHARACTER-18CA5;dCHARACTER-18CA6"),
  (0x18CA7, "aKHITAN SMALL SCRIPT CHARACTER-18CA7;dCHARACTER-18CA8;dCHARACTER-18CA9"),
  (0x18CAA, "aKHITAN SMALL SCRIPT CHARACTER-18CAA;dCHARACTER-18CAB;dCHARACTER-18CAC"),
  (0x18CAD, "aKHITAN SMALL SCRIPT CHARACTER-18CAD;dCHARACTER-18CAE;dCHARACTER-18CAF"),
  (0x18CB0, "aKHITAN SMALL SCRIPT CHARACTER-18CB0;dCHARACTER-18CB1;dCHARACTER-18CB2"),
  (0x18CB3, "aKHITAN SMALL SCRIPT CHARACTER-18CB3;dCHARACTER-18CB4;dCHARACTER-18CB5"),
  (0x18CB6, "aKHITAN SMALL SCRIPT CHARACTER-18CB6;dCHARACTER-18CB7;dCHARACTER-18CB8"),
  (0x18CB9, "aKHITAN SMALL SCRIPT CHARACTER-18CB9;dCHARACTER-18CBA;dCHARACTER-18CBB"),
  (0x18CBC, "aKHITAN SMALL SCRIPT CHARACTER-18CBC;dCHARACTER-18CBD;dCHARACTER-18CBE"),
  (0x18CBF, "aKHITAN SMALL SCRIPT CHARACTER-18CBF;dCHARACTER-18CC0;dCHARACTER-18CC1"),
  (0x18CC2, "aKHITAN SMALL SCRIPT CHARACTER-18CC2;dCHARACTER-18CC3;dCHARACTER-18CC4"),
  (0x18CC5, "aKHITAN SMALL SCRIPT CHARACTER-18CC5;dCHARACTER-18CC6;dCHARACTER-18CC7"),
  (0x18CC8, "aKHITAN SMALL SCRIPT CHARACTER-18CC8;dCHARACTER-18CC9;dCHARACTER-18CCA"),
  (0x18CCB, "aKHITAN SMALL SCRIPT CHARACTER-18CCB;dCHARACTER-18CCC;dCHARACTER-18CCD"),
  (0x18CCE, "aKHITAN SMALL SCRIPT CHARACTER-18CCE;dCHARACTER-18CCF;dCHARACTER-18CD0"),
  (0x18CD1, "aKHITAN SMALL SCRIPT CHARACTER-18CD1;dCHARACTER-18CD2;dCHARACTER-18CD3"),
  (0x18CD4, "aKHITAN SMALL SCRIPT CHARACTER-18CD4;dCHARACTER-18CD5"),
  (0x1AFF0, "aKATAKANA LETTER MINNAN TONE-2;dTONE-3;dTONE-4;dTONE-5"),
  (0x1AFF5, "aKATAKANA LETTER MINNAN TONE-7;dTONE-8;dNASALIZED TONE-1;eTONE-2;eTONE-3;eTONE-4"),
  (0x1AFFB, "aKATAKANA LETTER MINNAN NASALIZED TONE-5"),
  (0x1AFFD, "aKATAKANA LETTER MINNAN NASALIZED TONE-7;eTONE-8"),
  (0x1B000, "aKATAKANA LETTER ARCHAIC E;aHIRAGANA LETTER ARCHAIC YE;aHENTAIGANA LETTER A-1;cA-2"),
  (0x1B004, "aHENTAIGANA LETTER A-3;cA-WO;cI-1;cI-2;cI-3;cI-4;cU-1;cU-2;cU-3;cU-4;cU-5;cE-2;cE-3"),
  (0x1B011, "aHENTAIGANA LETTER E-4;cE-5;cE-6;cO-1;cO-2;cO-3;cKA-1;cKA-2;cKA-3;cKA-4;cKA-5;cKA-6"),
  (0x1B01D, "aHENTAIGANA LETTER KA-7;cKA-8;cKA-9;cKA-10;cKA-11;cKA-KE;cKI-1;cKI-2;cKI-3;cKI-4"),
  (0x1B027, "aHENTAIGANA LETTER KI-5;cKI-6;cKI-7;cKI-8;cKU-1;cKU-2;cKU-3;cKU-4;cKU-5;cKU-6;cKU-7"),
  (0x1B032, "aHENTAIGANA LETTER KE-1;cKE-2;cKE-3;cKE-4;cKE-5;cKE-6;cKO-1;cKO-2;cKO-3;cKO-KI;cSA-1"),
  (0x1B03D, "aHENTAIGANA LETTER SA-2;cSA-3;cSA-4;cSA-5;cSA-6;cSA-7;cSA-8;cSI-1;cSI-2;cSI-3;cSI-4"),
  (0x1B048, "aHENTAIGANA LETTER SI-5;cSI-6;cSU-1;cSU-2;cSU-3;cSU-4;cSU-5;cSU-6;cSU-7;cSU-8;cSE-1"),
  (0x1B053, "aHENTAIGANA LETTER SE-2;cSE-3;cSE-4;cSE-5;cSO-1;cSO-2;cSO-3;cSO-4;cSO-5;cSO-6;cSO-7"),
  (0x1B05E, "aHENTAIGANA LETTER TA-1;cTA-2;cTA-3;cTA-4;cTI-1;cTI-2;cTI-3;cTI-4;cTI-5;cTI-6;cTI-7"),
  (0x1B069, "aHENTAIGANA LETTER TU-1;cTU-2;cTU-3;cTU-4;cTU-TO;cTE-1;cTE-2;cTE-3;cTE-4;cTE-5;cTE-6"),
  (0x1B074, "aHENTAIGANA LETTER TE-7;cTE-8;cTE-9;cTO-1;cTO-2;cTO-3;cTO-4;cTO-5;cTO-6;cTO-RA;cNA-1"),
  (0x1B07F, "aHENTAIGANA LETTER NA-2;cNA-3;cNA-4;cNA-5;cNA-6;cNA-7;cNA-8;cNA-9;cNI-1;cNI-2;cNI-3"),
  (0x1B08A, "aHENTAIGANA LETTER NI-4;cNI-5;cNI-6;cNI-7;cNI-TE;cNU-1;cNU-2;cNU-3;cNE-1;cNE-2;cNE-3"),
  (0x1B095, "aHENTAIGANA LETTER NE-4;cNE-5;cNE-6;cNE-KO;cNO-1;cNO-2;cNO-3;cNO-4;cNO-5;cHA-1;cHA-2"),
  (0x1B0A0, "aHENTAIGANA LETTER HA-3;cHA-4;cHA-5;cHA-6;cHA-7;cHA-8;cHA-9;cHA-10;cHA-11;cHI-1"),
  (0x1B0AA, "aHENTAIGANA LETTER HI-2;cHI-3;cHI-4;cHI-5;cHI-6;cHI-7;cHU-1;cHU-2;cHU-3;cHE-1;cHE-2"),
  (0x1B0B5, "aHENTAIGANA LETTER HE-3;cHE-4;cHE-5;cHE-6;cHE-7;cHO-1;cHO-2;cHO-3;cHO-4;cHO-5;cHO-6"),
  (0x1B0C0, "aHENTAIGANA LETTER HO-7;cHO-8;cMA-1;cMA-2;cMA-3;cMA-4;cMA-5;cMA-6;cMA-7;cMI-1;cMI-2"),
  (0x1B0CB, "aHENTAIGANA LETTER MI-3;cMI-4;cMI-5;cMI-6;cMI-7;cMU-1;cMU-2;cMU-3;cMU-4;cME-1;cME-2"),
  (0x1B0D6, "aHENTAIGANA LETTER ME-MA;cMO-1;cMO-2;cMO-3;cMO-4;cMO-5;cMO-6;cYA-1;cYA-2;cYA-3;cYA-4"),
  (0x1B0E1, "aHENTAIGANA LETTER YA-5;cYA-YO;cYU-1;cYU-2;cYU-3;cYU-4;cYO-1;cYO-2;cYO-3;cYO-4;cYO-5"),
  (0x1B0EC, "aHENTAIGANA LETTER YO-6;cRA-1;cRA-2;cRA-3;cRA-4;cRI-1;cRI-2;cRI-3;cRI-4;cRI-5;cRI-6"),
  (0x1B0F7, "aHENTAIGANA LETTER RI-7;cRU-1;cRU-2;cRU-3;cRU-4;cRU-5;cRU-6;cRE-1;cRE-2;cRE-3;cRE-4"),
  (0x1B102, "aHENTAIGANA LETTER RO-1;cRO-2;cRO-3;cRO-4;cRO-5;cRO-6;cWA-1;cWA-2;cWA-3;cWA-4;cWA-5"),
  (0x1B10D, "aHENTAIGANA LETTER WI-1;cWI-2;cWI-3;cWI-4;cWI-5;cWE-1;cWE-2;cWE-3;cWE-4;cWO-1;cWO-2"),
  (0x1B118, "aHENTAIGANA LETTER WO-3;cWO-4;cWO-5;cWO-6;cWO-7;cN-MU-MO-1;cN-MU-MO-2"),
  (0x1B11F, "aHIRAGANA LETTER ARCHAIC WU;aKATAKANA LETTER ARCHAIC YI;dYE;dWU"),
  (0x1B150, "aHIRAGANA LETTER SMALL WI;dWE;dWO"),
  (0x1B164, "aKATAKANA LETTER SMALL WI;dWE;dWO;dN"),
  (0x1B170, "aNUSHU CHARACTER-1B170;bCHARACTER-1B171;bCHARACTER-1B172;bCHARACTER-1B173"),
  (0x1B174, "aNUSHU CHARACTER-1B174;bCHARACTER-1B175;bCHARACTER-1B176;bCHARACTER-1B177"),
  (0x1B178, "aNUSHU CHARACTER-1B178;bCHARACTER-1B179;bCHARACTER-1B17A;bCHARACTER-1B17B"),
  (0x1B17C, "aNUSHU CHARACTER-1B17C;bCHARACTER-1B17D;bCHARACTER-1B17E;bCHARACTER-1B17F"),
  (0x1B180, "aNUSHU CHARACTER-1B180;bCHARACTER-1B181;bCHARACTER-1B182;bCHARACTER-1B183"),
  (0x1B184, "aNUSHU CHARACTER-1B184;bCHARACTER-1B185;bCHARACTER-1B186;bCHARACTER-1B187"),
  (0x1B188, "aNUSHU CHARACTER-1B188;bCHARACTER-1B189;bCHARACTER-1B18A;bCHARACTER-1B18B"),
  (0x1B18C, "aNUSHU CHARACTER-1B18C;bCHARACTER-1B18D;bCHARACTER-1B18E;bCHARACTER-1B18F"),
  (0x1B190, "aNUSHU CHARACTER-1B190;bCHARACTER-1B191;bCHARACTER-1B192;bCHARACTER-1B193"),
  (0x1B194, "aNUSHU CHARACTER-1B194;bCHARACTER-1B195;bCHARACTER-1B196;bCHARACTER-1B197"),
  (0x1B198, "aNUSHU CHARACTER-1B198;bCHARACTER-1B199;bCHARACTER-1B19A;bCHARACTER-1B19B"),
  (0x1B19C, "aNUSHU CHARACTER-1B19C;bCHARACTER-1B19D;bCHARACTER-1B19E;bCHARACTER-1B19F"),
  (0x1B1A0, "aNUSHU CHARACTER-1B1A0;bCHARACTER-1B1A1;bCHARACTER-1B1A2;bCHARACTER-1B1A3"),
  (0x1B1A4, "aNUSHU CHARACTER-1B1A4;bCHARACTER-1B1A5;bCHARACTER-1B1A6;bCHARACTER-1B1A7"),
  (0x1B1A8, "aNUSHU CHARACTER-1B1A8;bCHARACTER-1B1A9;bCHARACTER-1B1AA;bCHARACTER-1B1AB"),
  (0x1B1AC, "aNUSHU CHARACTER-1B1AC;bCHARACTER-1B1AD;bCHARACTER-1B1AE;bCHARACTER-1B1AF"),
  (0x1B1B0, "aNUSHU CHARACTER-1B1B0;bCHARACTER-1B1B1;bCHARACTER-1B1B2;bCHARACTER-1B1B3"),
  (0x1B1B4, "aNUSHU CHARACTER-1B1B4;bCHARACTER-1B1B5;bCHARACTER-1B1B6;bCHARACTER-1B1B7"),
  (0x1B1B8, "aNUSHU CHARACTER-1B1B8;bCHARACTER-1B1B9;bCHARACTER-1B1BA;bCHARACTER-1B1BB"),
  (0x1B1BC, "aNUSHU CHARACTER-1B1BC;bCHARACTER-1B1BD;bCHARACTER-1B1BE;bCHARACTER-1B1BF"),
  (0x1B1C0, "aNUSHU CHARACTER-1B1C0;bCHARACTER-1B1C1;bCHARACTER-1B1C2;bCHARACTER-1B1C3"),
  (0x1B1C4, "aNUSHU CHARACTER-1B1C4;bCHARACTER-1B1C5;bCHARACTER-1B1C6;bCHARACTER-1B1C7"),
  (0x1B1C8, "aNUSHU CHARACTER-1B1C8;bCHARACTER-1B1C9;bCHARACTER-1B1CA;bCHARACTER-1B1CB"),
  (0x1B1CC, "aNUSHU CHARACTER-1B1CC;bCHARACTER-1B1CD;bCHARACTER-1B1CE;bCHARACTER-1B1CF"),
  (0x1B1D0, "aNUSHU CHARACTER-1B1D0;bCHARACTER-1B1D1;bCHARACTER-1B1D2;bCHARACTER-1B1D3"),
  (0x1B1D4, "aNUSHU CHARACTER-1B1D4;bCHARACTER-1B1D5;bCHARACTER-1B1D6;bCHARACTER-1B1D7"),
  (0x1B1D8, "aNUSHU CHARACTER-1B1D8;bCHARACTER-1B1D9;bCHARACTER-1B1DA;bCHARACTER-1B1DB"),
  (0x1B1DC, "aNUSHU CHARACTER-1B1DC;bCHARACTER-1B1DD;bCHARACTER-1B1DE;bCHARACTER-1B1DF"),
  (0x1B1E0, "aNUSHU CHARACTER-1B1E0;bCHARACTER-1B1E1;bCHARACTER-1B1E2;bCHARACTER-1B1E3"),
  (0x1B1E4, "aNUSHU CHARACTER-1B1E4;bCHARACTER-1B1E5;bCHARACTER-1B1E6;bCHARACTER-1B1E7"),
  (0x1B1E8, "aNUSHU CHARACTER-1B1E8;bCHARACTER-1B1E9;bCHARACTER-1B1EA;bCHARACTER-1B1EB"),
  (0x1B1EC, "aNUSHU CHARACTER-1B1EC;bCHARACTER-1B1ED;bCHARACTER-1B1EE;bCHARACTER-1B1EF"),
  (0x1B1F0, "aNUSHU CHARACTER-1B1F0;bCHARACTER-1B1F1;bCHARACTER-1B1F2;bCHARACTER-1B1F3"),
  (0x1B1F4, "aNUSHU CHARACTER-1B1F4;bCHARACTER-1B1F5;bCHARACTER-1B1F6;bCHARACTER-1B1F7"),
  (0x1B1F8, "aNUSHU CHARACTER-1B1F8;bCHARACTER-1B1F9;bCHARACTER-1B1FA;bCHARACTER-1B1FB"),
  (0x1B1FC, "aNUSHU CHARACTER-1B1FC;bCHARACTER-1B1FD;bCHARACTER-1B1FE;bCHARACTER-1B1FF"),
  (0x1B200, "aNUSHU CHARACTER-1B200;bCHARACTER-1B201;bCHARACTER-1B202;bCHARACTER-1B203"),
  (0x1B204, "aNUSHU CHARACTER-1B204;bCHARACTER-1B205;bCHARACTER-1B206;bCHARACTER-1B207"),
  (0x1B208, "aNUSHU CHARACTER-1B208;bCHARACTER-1B209;bCHARACTER-1B20A;bCHARACTER-1B20B"),
  (0x1B20C, "aNUSHU CHARACTER-1B20C;bCHARACTER-1B20D;bCHARACTER-1B20E;bCHARACTER-1B20F"),
  (0x1B210, "aNUSHU CHARACTER-1B210;bCHARACTER-1B211;bCHARACTER-1B212;bCHARACTER-1B213"),
  (0x1B214, "aNUSHU CHARACTER-1B214;bCHARACTER-1B215;bCHARACTER-1B216;bCHARACTER-1B217"),
  (0x1B218, "aNUSHU CHARACTER-1B218;bCHARACTER-1B219;bCHARACTER-1B21A;bCHARACTER-1B21B"),
  (0x1B21C, "aNUSHU CHARACTER-1B21C;bCHARACTER-1B21D;bCHARACTER-1B21E;bCHARACTER-1B21F"),
  (0x1B220, "aNUSHU CHARACTER-1B220;bCHARACTER-1B221;bCHARACTER-1B222;bCHARACTER-1B223"),
  (0x1B224, "aNUSHU CHARACTER-1B224;bCHARACTER-1B225;bCHARACTER-1B226;bCHARACTER-1B227"),
  (0x1B228, "aNUSHU CHARACTER-1B228;bCHARACTER-1B229;bCHARACTER-1B22A;bCHARACTER-1B22B"),
  (0x1B22C, "aNUSHU CHARACTER-1B22C;bCHARACTER-1B22D;bCHARACTER-1B22E;bCHARACTER-1B22F"),
  (0x1B230, "aNUSHU CHARACTER-1B230;bCHARACTER-1B231;bCHARACTER-1B232;bCHARACTER-1B233"),
  (0x1B234, "aNUSHU CHARACTER-1B234;bCHARACTER-1B235;bCHARACTER-1B236;bCHARACTER-1B237"),
  (0x1B238, "aNUSHU CHARACTER-1B238;bCHARACTER-1B239;bCHARACTER-1B23A;bCHARACTER-1B23B"),
  (0x1B23C, "aNUSHU CHARACTER-1B23C;bCHARACTER-1B23D;bCHARACTER-1B23E;bCHARACTER-1B23F"),
  (0x1B240, "aNUSHU CHARACTER-1B240;bCHARACTER-1B241;bCHARACTER-1B242;bCHARACTER-1B243"),
  (0x1B244, "aNUSHU CHARACTER-1B244;bCHARACTER-1B245;bCHARACTER-1B246;bCHARACTER-1B247"),
  (0x1B248, "aNUSHU CHARACTER-1B248;bCHARACTER-1B249;bCHARACTER-1B24A;bCHARACTER-1B24B"),
  (0x1B24C, "aNUSHU CHARACTER-1B24C;bCHARACTER-1B24D;bCHARACTER-1B24E;bCHARACTER-1B24F"),
  (0x1B250, "aNUSHU CHARACTER-1B250;bCHARACTER-1B251;bCHARACTER-1B252;bCHARACTER-1B253"),
  (0x1B254, "aNUSHU CHARACTER-1B254;bCHARACTER-1B255;bCHARACTER-1B256;bCHARACTER-1B257"),
  (0x1B258, "aNUSHU CHARACTER-1B258;bCHARACTER-1B259;bCHARACTER-1B25A;bCHARACTER-1B25B"),
  (0x1B25C, "aNUSHU CHARACTER-1B25C;bCHARACTER-1B25D;bCHARACTER-1B25E;bCHARACTER-1B25F"),
  (0x1B260, "aNUSHU CHARACTER-1B260;bCHARACTER-1B261;bCHARACTER-1B262;bCHARACTER-1B263"),
  (0x1B264, "aNUSHU CHARACTER-1B264;bCHARACTER-1B265;bCHARACTER-1B266;bCHARACTER-1B267"),
  (0x1B268, "aNUSHU CHARACTER-1B268;bCHARACTER-1B269;bCHARACTER-1B26A;bCHARACTER-1B26B"),
  (0x1B26C, "aNUSHU CHARACTER-1B26C;bCHARACTER-1B26D;bCHARACTER-1B26E;bCHARACTER-1B26F"),
  (0x1B270, "aNUSHU CHARACTER-1B270;bCHARACTER-1B271;bCHARACTER-1B272;bCHARACTER-1B273"),
  (0x1B274, "aNUSHU CHARACTER-1B274;bCHARACTER-1B275;bCHARACTER-1B276;bCHARACTER-1B277"),
  (0x1B278, "aNUSHU CHARACTER-1B278;bCHARACTER-1B279;bCHARACTER-1B27A;bCHARACTER-1B27B"),
  (0x1B27C, "aNUSHU CHARACTER-1B27C;bCHARACTER-1B27D;bCHARACTER-1B27E;bCHARACTER-1B27F"),
  (0x1B280, "aNUSHU CHARACTER-1B280;bCHARACTER-1B281;bCHARACTER-1B282;bCHARACTER-1B283"),
  (0x1B284, "aNUSHU CHARACTER-1B284;bCHARACTER-1B285;bCHARACTER-1B286;bCHARACTER-1B287"),
  (0x1B288, "aNUSHU CHARACTER-1B288;bCHARACTER-1B289;bCHARACTER-1B28A;bCHARACTER-1B28B"),
  (0x1B28C, "aNUSHU CHARACTER-1B28C;bCHARACTER-1B28D;bCHARACTER-1B28E;bCHARACTER-1B28F"),
  (0x1B290, "aNUSHU CHARACTER-1B290;bCHARACTER-1B291;bCHARACTER-1B292;bCHARACTER-1B293"),
  (0x1B294, "aNUSHU CHARACTER-1B294;bCHARACTER-1B295;bCHARACTER-1B296;bCHARACTER-1B297"),
  (0x1B298, "aNUSHU CHARACTER-1B298;bCHARACTER-1B299;bCHARACTER-1B29A;bCHARACTER-1B29B"),
  (0x1B29C, "aNUSHU CHARACTER-1B29C;bCHARACTER-1B29D;bCHARACTER-1B29E;bCHARACTER-1B29F"),
  (0x1B2A0, "aNUSHU CHARACTER-1B2A0;bCHARACTER-1B2A1;bCHARACTER-1B2A2;bCHARACTER-1B2A3"),
  (0x1B2A4, "aNUSHU CHARACTER-1B2A4;bCHARACTER-1B2A5;bCHARACTER-1B2A6;bCHARACTER-1B2A7"),
  (0x1B2A8, "aNUSHU CHARACTER-1B2A8;bCHARACTER-1B2A9;bCHARACTER-1B2AA;bCHARACTER-1B2AB"),
  (0x1B2AC, "aNUSHU CHARACTER-1B2AC;bCHARACTER-1B2AD;bCHARACTER-1B2AE;bCHARACTER-1B2AF"),
  (0x1B2B0, "aNUSHU CHARACTER-1B2B0;bCHARACTER-1B2B1;bCHARACTER-1B2B2;bCHARACTER-1B2B3"),
  (0x1B2B4, "aNUSHU CHARACTER-1B2B4;bCHARACTER-1B2B5;bCHARACTER-1B2B6;bCHARACTER-1B2B7"),
  (0x1B2B8, "aNUSHU CHARACTER-1B2B8;bCHARACTER-1B2B9;bCHARACTER-1B2BA;bCHARACTER-1B2BB"),
  (0x1B2BC, "aNUSHU CHARACTER-1B2BC;bCHARACTER-1B2BD;bCHARACTER-1B2BE;bCHARACTER-1B2BF"),
  (0x1B2C0, "aNUSHU CHARACTER-1B2C0;bCHARACTER-1B2C1;bCHARACTER-1B2C2;bCHARACTER-1B2C3"),
  (0x1B2C4, "aNUSHU CHARACTER-1B2C4;bCHARACTER-1B2C5;bCHARACTER-1B2C6;bCHARACTER-1B2C7"),
  (0x1B2C8, "aNUSHU CHARACTER-1B2C8;bCHARACTER-1B2C9;bCHARACTER-1B2CA;bCHARACTER-1B2CB"),
  (0x1B2CC, "aNUSHU CHARACTER-1B2CC;bCHARACTER-1B2CD;bCHARACTER-1B2CE;bCHARACTER-1B2CF"),
  (0x1B2D0, "aNUSHU CHARACTER-1B2D0;bCHARACTER-1B2D1;bCHARACTER-1B2D2;bCHARACTER-1B2D3"),
  (0x1B2D4, "aNUSHU CHARACTER-1B2D4;bCHARACTER-1B2D5;bCHARACTER-1B2D6;bCHARACTER-1B2D7"),
  (0x1B2D8, "aNUSHU CHARACTER-1B2D8;bCHARACTER-1B2D9;bCHARACTER-1B2DA;bCHARACTER-1B2DB"),
  (0x1B2DC, "aNUSHU CHARACTER-1B2DC;bCHARACTER-1B2DD;bCHARACTER-1B2DE;bCHARACTER-1B2DF"),
  (0x1B2E0, "aNUSHU CHARACTER-1B2E0;bCHARACTER-1B2E1;bCHARACTER-1B2E2;bCHARACTER-1B2E3"),
  (0x1B2E4, "aNUSHU CHARACTER-1B2E4;bCHARACTER-1B2E5;bCHARACTER-1B2E6;bCHARACTER-1B2E7"),
  (0x1B2E8, "aNUSHU CHARACTER-1B2E8;bCHARACTER-1B2E9;bCHARACTER-1B2EA;bCHARACTER-1B2EB"),
  (0x1B2EC, "aNUSHU CHARACTER-1B2EC;bCHARACTER-1B2ED;bCHARACTER-1B2EE;bCHARACTER-1B2EF"),
  (0x1B2F0, "aNUSHU CHARACTER-1B2F0;bCHARACTER-1B2F1;bCHARACTER-1B2F2;bCHARACTER-1B2F3"),
  (0x1B2F4, "aNUSHU CHARACTER-1B2F4;bCHARACTER-1B2F5;bCHARACTER-1B2F6;bCHARACTER-1B2F7"),
  (0x1B2F8, "aNUSHU CHARACTER-1B2F8;bCHARACTER-1B2F9;bCHARACTER-1B2FA;bCHARACTER-1B2FB"),
  (0x1BC00, "aDUPLOYAN LETTER H;cX;cP;cT;cF;cK;cL;cB;cD;cV;cG;cR;cP N;cD S;cF N;cK M;cR S;cTH"),
  (0x1BC12, "aDUPLOYAN LETTER SLOAN DH;cDH;cKK;cSLOAN J;cHL;cLH;cRH;cM;cN;cJ;cS;cM N;cN M;cJ M"),
  (0x1BC20, "aDUPLOYAN LETTER S J;cM WITH DOT;cN WITH DOT;cJ WITH DOT;eDOTS INSIDE AND ABOVE"),
  (0x1BC25, "aDUPLOYAN LETTER S WITH DOT;fBELOW;cM S;cN S;cJ S;cS S;cM N S;cN M S;cJ M S;cS J S"),
  (0x1BC2F, "aDUPLOYAN LETTER J S WITH DOT;dN;eS;cS T;eR;dP;eR;cT S;dR S;cW;cWH;cW R;cS N;dM"),
  (0x1BC3D, "aDUPLOYAN LETTER K R S;cG R S;cS K;eR;cA;cSLOAN OW;cOA;cO;cAOU;cI;cE;cIE;cSHORT I"),
  (0x1BC4A, "aDUPLOYAN LETTER UI;cEE;cSLOAN EH;cROMANIAN I;cSLOAN EE;cLONG I;cYE;cU;cEU;cXW;cU N"),
  (0x1BC55, "aDUPLOYAN LETTER LONG U;cROMANIAN U;cUH;cSLOAN U;cOOH;cOW;cOU;cWA;cWO;cWI;cWEI;cWOW"),
  (0x1BC61, "aDUPLOYAN LETTER NASAL U;dO;dI;dA;cPERNIN AN;dAM;cSLOAN EN;dAN;dON;cVOCALIC M"),
  (0x1BC70, "aDUPLOYAN AFFIX LEFT HORIZONTAL SECANT;cMID HORIZONTAL SECANT"),
  (0x1BC72, "aDUPLOYAN AFFIX RIGHT HORIZONTAL SECANT;cLOW VERTICAL SECANT;cMID VERTICAL SECANT"),
  (0x1BC75, "aDUPLOYAN AFFIX HIGH VERTICAL SECANT;cATTACHED SECANT;dLEFT-TO-RIGHT SECANT;dTANGENT"),
  (0x1BC79, "aDUPLOYAN AFFIX ATTACHED TAIL;dE HOOK;dI HOOK;dTANGENT HOOK"),
  (0x1BC80, "aDUPLOYAN AFFIX HIGH ACUTE;dTIGHT ACUTE;dGRAVE;dLONG GRAVE;dDOT;dCIRCLE;dLINE;dWAVE"),
  (0x1BC88, "aDUPLOYAN AFFIX HIGH VERTICAL"),
  (0x1BC90, "aDUPLOYAN AFFIX LOW ACUTE;dTIGHT ACUTE;dGRAVE;dLONG GRAVE;dDOT;dCIRCLE;dLINE;dWAVE"),
  (0x1BC98, "aDUPLOYAN AFFIX LOW VERTICAL;dARROW"),
  (0x1BC9C, "aDUPLOYAN SIGN O WITH CROSS;bTHICK LETTER SELECTOR;bDOUBLE MARK"),
  (0x1BC9F, "aDUPLOYAN PUNCTUATION CHINOOK FULL STOP;aSHORTHAND FORMAT LETTER OVERLAP"),
  (0x1BCA1, "aSHORTHAND FORMAT CONTINUING OVERLAP;cDOWN STEP;cUP STEP"),
  (0x1CF00, "aZNAMENNY COMBINING MARK GORAZDO NIZKO S KRYZHEM ON LEFT;dNIZKO S KRYZHEM ON LEFT"),
  (0x1CF02, "aZNAMENNY COMBINING MARK TSATA ON LEFT;dGORAZDO NIZKO ON LEFT;dNIZKO ON LEFT"),
  (0x1CF05, "aZNAMENNY COMBINING MARK SREDNE ON LEFT;dMALO POVYSHE ON LEFT;dPOVYSHE ON LEFT"),
  (0x1CF08, "aZNAMENNY COMBINING MARK VYSOKO ON LEFT;dMALO POVYSHE S KHOKHLOM ON LEFT"),
  (0x1CF0A, "aZNAMENNY COMBINING MARK POVYSHE S KHOKHLOM ON LEFT;dVYSOKO S KHOKHLOM ON LEFT"),
  (0x1CF0C, "aZNAMENNY COMBINING MARK GORAZDO NIZKO S KRYZHEM ON RIGHT;dNIZKO S KRYZHEM ON RIGHT"),
  (0x1CF0E, "aZNAMENNY COMBINING MARK TSATA ON RIGHT;dGORAZDO NIZKO ON RIGHT;dNIZKO ON RIGHT"),
  (0x1CF11, "aZNAMENNY COMBINING MARK SREDNE ON RIGHT;dMALO POVYSHE ON RIGHT;dPOVYSHE ON RIGHT"),
  (0x1CF14, "aZNAMENNY COMBINING MARK VYSOKO ON RIGHT;dMALO POVYSHE S KHOKHLOM ON RIGHT"),
  (0x1CF16, "aZNAMENNY COMBINING MARK POVYSHE S KHOKHLOM ON RIGHT;dVYSOKO S KHOKHLOM ON RIGHT"),
  (0x1CF18, "aZNAMENNY COMBINING MARK TSATA S KRYZHEM;dMALO POVYSHE S KRYZHEM"),
  (0x1CF1A, "aZNAMENNY COMBINING MARK STRANNO MALO POVYSHE;dPOVYSHE S KRYZHEM;eSTRANNO")]

/-- The lines of names from U+1CF1D on. -/
def namesFrom1CF1D : List (Nat × String) := [
  (0x1CF1D, "aZNAMENNY COMBINING MARK VYSOKO S KRYZHEM;dMALO POVYSHE STRANNO;dGORAZDO VYSOKO"),
  (0x1CF20, "aZNAMENNY COMBINING MARK ZELO;dON;dRAVNO;dTIKHAYA;dBORZAYA;dUDARKA;dPODVERTKA;dLOMKA"),
  (0x1CF28, "aZNAMENNY COMBINING MARK KUPNAYA;dKACHKA;dZEVOK;dSKOBA;dRAZSEKA;dKRYZH ON LEFT"),
  (0x1CF30, "aZNAMENNY COMBINING TONAL RANGE MARK MRACHNO;fSVETLO;fTRESVETLO;cMARK ZADERZHKA"),
  (0x1CF34, "aZNAMENNY COMBINING MARK DEMESTVENNY ZADERZHKA;dOTSECHKA;dPODCHASHIE"),
  (0x1CF37, "aZNAMENNY COMBINING MARK PODCHASHIE WITH VERTICAL STROKE;dCHASHKA;ePOLNAYA;dOBLACHKO"),
  (0x1CF3B, "aZNAMENNY COMBINING MARK SOROCHYA NOZHKA;dTOCHKA;dDVOETOCHIE"),
  (0x1CF3E, "aZNAMENNY COMBINING ATTACHING VERTICAL OMET;cMARK CURVED OMET;dKRYZH"),
  (0x1CF41, "aZNAMENNY COMBINING LOWER TONAL RANGE INDICATOR;bPRIZNAK MODIFIER LEVEL-2;dLEVEL-3"),
  (0x1CF44, "aZNAMENNY PRIZNAK MODIFIER DIRECTION FLIP;dKRYZH;dROG"),
  (0x1CF50, "aZNAMENNY NEUME KRYUK;dTIKHY;cPARAKLIT;cDVA V CHELNU;cKLYUCH;cZANOZHEK;cSTOPITSA"),
  (0x1CF57, "aZNAMENNY NEUME STOPITSA S OCHKOM;cPEREVODKA;dNEPOSTOYANNAYA"),
  (0x1CF5A, "aZNAMENNY NEUME STOPITSA WITH SOROCHYA NOZHKA;cCHELYUSTKA;cPALKA;cZAPYATAYA"),
  (0x1CF5E, "aZNAMENNY NEUME GOLUBCHIK BORZY;dTIKHY;dMRACHNY;dSVETLY;dTRESVETLY"),
  (0x1CF63, "aZNAMENNY NEUME VRAKHIYA PROSTAYA;dMRACHNAYA;dSVETLAYA;dTRESVETLAYA"),
  (0x1CF67, "aZNAMENNY NEUME VRAKHIYA KLYUCHEVAYA PROSTAYA;eMRACHNAYA;eSVETLAYA;eTRESVETLAYA"),
  (0x1CF6B, "aZNAMENNY NEUME DOUBLE ZAPYATAYA;cREVERSED CHELYUSTKA;cDERBITSA;cKHAMILO;cCHASHKA"),
  (0x1CF70, "aZNAMENNY NEUME PODCHASHIE;cSKAMEYTSA MRACHNAYA;dSVETLAYA;dTRESVETLAYA;dTIKHAYA"),
  (0x1CF75, "aZNAMENNY NEUME DEMESTVENNY KLYUCH;cSKAMEYTSA KLYUCHEVAYA SVETLAYA"),
  (0x1CF77, "aZNAMENNY NEUME SKAMEYTSA KLYUCHENEPOSTOYANNAYA;dKLYUCHEVAYA TIKHAYA"),
  (0x1CF79, "aZNAMENNY NEUME SKAMEYTSA DVOECHELNAYA PROSTAYA;eSVETLAYA;eNEPOSTOYANNAYA"),
  (0x1CF7C, "aZNAMENNY NEUME SKAMEYTSA DVOECHELNAYA KLYUCHEVAYA;cSLOZHITIE;dS ZAPYATOY;dZAKRYTOE"),
  (0x1CF80, "aZNAMENNY NEUME SLOZHITIE S KRYZHEM;cKRYZH;cROG;cFITA;cKOBYLA;cZMEYTSA;cSTATYA"),
  (0x1CF87, "aZNAMENNY NEUME STATYA S ZAPYATOY;eKRYZHEM;eZAPYATOY I KRYZHEM;eKRYZHEM I ZAPYATOY"),
  (0x1CF8B, "aZNAMENNY NEUME STATYA ZAKRYTAYA;eS ZAPYATOY;dS ROGOM;eDVUMYA ZAPYATYMI"),
  (0x1CF8F, "aZNAMENNY NEUME STATYA S ZAPYATOY I PODCHASHIEM;cPOLKULIZMY;cSTATYA NEPOSTOYANNAYA"),
  (0x1CF92, "aZNAMENNY NEUME STRELA PROSTAYA;dMRACHNOTIKHAYA;dKRYZHEVAYA;dPOLUPOVODNAYA"),
  (0x1CF96, "aZNAMENNY NEUME STRELA POVODNAYA;dNEPOSTOYANNAYA;dKLYUCHEPOVODNAYA"),
  (0x1CF99, "aZNAMENNY NEUME STRELA KLYUCHENEPOSTOYANNAYA;dTIKHAYA PUTNAYA;dDVOECHELNAYA"),
  (0x1CF9C, "aZNAMENNY NEUME STRELA DVOECHELNOKRYZHEVAYA;dDVOECHELNOPOVODNAYA"),
  (0x1CF9E, "aZNAMENNY NEUME STRELA DVOECHELNAYA KLYUCHEVAYA;dDVOECHELNOPOVODNAYA KLYUCHEVAYA"),
  (0x1CFA0, "aZNAMENNY NEUME STRELA GROMNAYA WITH SINGLE ZAPYATAYA"),
  (0x1CFA1, "aZNAMENNY NEUME STRELA GROMOPOVODNAYA WITH SINGLE ZAPYATAYA;dGROMNAYA"),
  (0x1CFA3, "aZNAMENNY NEUME STRELA GROMOPOVODNAYA;eWITH DOUBLE ZAPYATAYA;dGROMOKRYZHEVAYA"),
  (0x1CFA6, "aZNAMENNY NEUME STRELA GROMOKRYZHEVAYA POVODNAYA;cMECHIK;dPOVODNY;dKLYUCHEVOY"),
  (0x1CFAA, "aZNAMENNY NEUME MECHIK KLYUCHEPOVODNY;dKLYUCHENEPOSTOYANNY;cSTRELA TRYASOGLASNAYA"),
  (0x1CFAD, "aZNAMENNY NEUME STRELA TRYASOPOVODNAYA;dTRYASOSTRELNAYA;cOSOKA;dSVETLAYA"),
  (0x1CFB1, "aZNAMENNY NEUME OSOKA TRESVETLAYA;dKRYUKOVAYA SVETLAYA;dKLYUCHEVAYA SVETLAYA"),
  (0x1CFB4, "aZNAMENNY NEUME OSOKA KLYUCHEVAYA NEPOSTOYANNAYA;cSTRELA KRYUKOVAYA;ePOVODNAYA"),
  (0x1CFB7, "aZNAMENNY NEUME STRELA KRYUKOVAYA GROMNAYA WITH SINGLE ZAPYATAYA"),
  (0x1CFB8, "aZNAMENNY NEUME STRELA KRYUKOVAYA GROMOPOVODNAYA WITH SINGLE ZAPYATAYA;eGROMNAYA"),
  (0x1CFBA, "aZNAMENNY NEUME STRELA KRYUKOVAYA GROMOPOVODNAYA;fWITH DOUBLE ZAPYATAYA"),
  (0x1CFBC, "aZNAMENNY NEUME STRELA KRYUKOVAYA GROMOKRYZHEVAYA;fPOVODNAYA;eTRYASKA;cKUFISMA"),
  (0x1CFC0, "aZNAMENNY NEUME OBLAKO;cDUDA;cNEMKA;cPAUK"),
  (0x1D000, "aBYZANTINE MUSICAL SYMBOL PSILI;dDASEIA;dPERISPOMENI;dOXEIA EKFONITIKON;eDIPLI"),
  (0x1D005, "aBYZANTINE MUSICAL SYMBOL VAREIA EKFONITIKON;eDIPLI;dKATHISTI;dSYRMATIKI"),
  (0x1D009, "aBYZANTINE MUSICAL SYMBOL PARAKLITIKI;dYPOKRISIS;eDIPLI;dKREMASTI;dAPESO EKFONITIKON"),
  (0x1D00E, "aBYZANTINE MUSICAL SYMBOL EXO EKFONITIKON;dTELEIA;dKENTIMATA;dAPOSTROFOS;eDIPLI"),
  (0x1D013, "aBYZANTINE MUSICAL SYMBOL SYNEVMA;dTHITA;dOLIGON ARCHAION;dGORGON ARCHAION;dPSILON"),
  (0x1D018, "aBYZANTINE MUSICAL SYMBOL CHAMILON;dVATHY;dISON ARCHAION;dKENTIMA ARCHAION"),
  (0x1D01C, "aBYZANTINE MUSICAL SYMBOL KENTIMATA ARCHAION;dSAXIMATA;dPARICHON;dSTAVROS APODEXIA"),
  (0x1D020, "aBYZANTINE MUSICAL SYMBOL OXEIAI ARCHAION;dVAREIAI ARCHAION;dAPODERMA ARCHAION"),
  (0x1D023, "aBYZANTINE MUSICAL SYMBOL APOTHEMA;dKLASMA;dREVMA;dPIASMA ARCHAION;dTINAGMA"),
  (0x1D028, "aBYZANTINE MUSICAL SYMBOL ANATRICHISMA;dSEISMA;dSYNAGMA ARCHAION;eMETA STAVROU"),
  (0x1D02C, "aBYZANTINE MUSICAL SYMBOL OYRANISMA ARCHAION;dTHEMA;dLEMOI;dDYO;dTRIA;dTESSERA"),
  (0x1D032, "aBYZANTINE MUSICAL SYMBOL KRATIMATA;dAPESO EXO NEO;dFTHORA ARCHAION;dIMIFTHORA"),
  (0x1D036, "aBYZANTINE MUSICAL SYMBOL TROMIKON ARCHAION;dKATAVA TROMIKON;dPELASTON;dPSIFISTON"),
  (0x1D03A, "aBYZANTINE MUSICAL SYMBOL KONTEVMA;dCHOREVMA ARCHAION;dRAPISMA;dPARAKALESMA ARCHAION"),
  (0x1D03E, "aBYZANTINE MUSICAL SYMBOL PARAKLITIKI ARCHAION;dICHADIN;dNANA;dPETASMA"),
  (0x1D042, "aBYZANTINE MUSICAL SYMBOL KONTEVMA ALLO;dTROMIKON ALLO;dSTRAGGISMATA;dGRONTHISMATA"),
  (0x1D046, "aBYZANTINE MUSICAL SYMBOL ISON NEO;dOLIGON NEO;dOXEIA NEO;dPETASTI;dKOUFISMA"),
  (0x1D04B, "aBYZANTINE MUSICAL SYMBOL PETASTOKOUFISMA;dKRATIMOKOUFISMA;dPELASTON NEO"),
  (0x1D04E, "aBYZANTINE MUSICAL SYMBOL KENTIMATA NEO ANO;dKENTIMA NEO ANO;dYPSILI;dAPOSTROFOS NEO"),
  (0x1D052, "aBYZANTINE MUSICAL SYMBOL APOSTROFOI SYNDESMOS NEO;dYPORROI;dKRATIMOYPORROON"),
  (0x1D055, "aBYZANTINE MUSICAL SYMBOL ELAFRON;dCHAMILI;dMIKRON ISON;dVAREIA NEO;dPIASMA NEO"),
  (0x1D05A, "aBYZANTINE MUSICAL SYMBOL PSIFISTON NEO;dOMALON;dANTIKENOMA;dLYGISMA"),
  (0x1D05E, "aBYZANTINE MUSICAL SYMBOL PARAKLITIKI NEO;dPARAKALESMA NEO;dETERON PARAKALESMA"),
  (0x1D061, "aBYZANTINE MUSICAL SYMBOL KYLISMA;dANTIKENOKYLISMA;dTROMIKON NEO;dEKSTREPTON"),
  (0x1D065, "aBYZANTINE MUSICAL SYMBOL SYNAGMA NEO;dSYRMA;dCHOREVMA NEO;dEPEGERMA;dSEISMA NEO"),
  (0x1D06A, "aBYZANTINE MUSICAL SYMBOL XIRON KLASMA;dTROMIKOPSIFISTON;dPSIFISTOLYGISMA"),
  (0x1D06D, "aBYZANTINE MUSICAL SYMBOL TROMIKOLYGISMA;dTROMIKOPARAKALESMA;dPSIFISTOPARAKALESMA"),
  (0x1D070, "aBYZANTINE MUSICAL SYMBOL TROMIKOSYNAGMA;dPSIFISTOSYNAGMA;dGORGOSYNTHETON"),
  (0x1D073, "aBYZANTINE MUSICAL SYMBOL ARGOSYNTHETON;dETERON ARGOSYNTHETON;dOYRANISMA NEO"),
  (0x1D076, "aBYZANTINE MUSICAL SYMBOL THEMATISMOS ESO;eEXO;dTHEMA APLOUN;dTHES KAI APOTHES"),
  (0x1D07A, "aBYZANTINE MUSICAL SYMBOL KATAVASMA;dENDOFONON;dYFEN KATO;eANO;dSTAVROS;dKLASMA ANO"),
  (0x1D080, "aBYZANTINE MUSICAL SYMBOL DIPLI ARCHAION;dKRATIMA ARCHAION;eALLO;eNEO;dAPODERMA NEO"),
  (0x1D085, "aBYZANTINE MUSICAL SYMBOL APLI;dDIPLI;dTRIPLI;dTETRAPLI;dKORONIS"),
  (0x1D08A, "aBYZANTINE MUSICAL SYMBOL LEIMMA ENOS CHRONOU;eDYO CHRONON;eTRION CHRONON"),
  (0x1D08D, "aBYZANTINE MUSICAL SYMBOL LEIMMA TESSARON CHRONON;eIMISEOS CHRONOU;dGORGON NEO ANO"),
  (0x1D090, "aBYZANTINE MUSICAL SYMBOL GORGON PARESTIGMENON ARISTERA;fDEXIA;dDIGORGON"),
  (0x1D093, "aBYZANTINE MUSICAL SYMBOL DIGORGON PARESTIGMENON ARISTERA KATO;gANO;fDEXIA"),
  (0x1D096, "aBYZANTINE MUSICAL SYMBOL TRIGORGON;dARGON;dIMIDIARGON;dDIARGON;dAGOGI POLI ARGI"),
  (0x1D09B, "aBYZANTINE MUSICAL SYMBOL AGOGI ARGOTERI;eARGI;eMETRIA;eMESI;eGORGI;eGORGOTERI"),
  (0x1D0A1, "aBYZANTINE MUSICAL SYMBOL AGOGI POLI GORGI;dMARTYRIA PROTOS ICHOS;eALLI PROTOS ICHOS"),
  (0x1D0A4, "aBYZANTINE MUSICAL SYMBOL MARTYRIA DEYTEROS ICHOS;eALLI DEYTEROS ICHOS;eTRITOS ICHOS"),
  (0x1D0A7, "aBYZANTINE MUSICAL SYMBOL MARTYRIA TRIFONIAS;eTETARTOS ICHOS;fLEGETOS ICHOS"),
  (0x1D0AA, "aBYZANTINE MUSICAL SYMBOL MARTYRIA LEGETOS ICHOS;ePLAGIOS ICHOS"),
  (0x1D0AC, "aBYZANTINE MUSICAL SYMBOL ISAKIA TELOUS ICHIMATOS;dAPOSTROFOI TELOUS ICHIMATOS"),
  (0x1D0AE, "aBYZANTINE MUSICAL SYMBOL FANEROSIS TETRAFONIAS;eMONOFONIAS;eDIFONIAS"),
  (0x1D0B1, "aBYZANTINE MUSICAL SYMBOL MARTYRIA VARYS ICHOS;ePROTOVARYS ICHOS"),
  (0x1D0B3, "aBYZANTINE MUSICAL SYMBOL MARTYRIA PLAGIOS TETARTOS ICHOS;dGORTHMIKON N APLOUN"),
  (0x1D0B5, "aBYZANTINE MUSICAL SYMBOL GORTHMIKON N DIPLOUN;dENARXIS KAI FTHORA VOU;dIMIFONON"),
  (0x1D0B8, "aBYZANTINE MUSICAL SYMBOL IMIFTHORON;dFTHORA ARCHAION DEYTEROU ICHOU;eDIATONIKI PA"),
  (0x1D0BB, "aBYZANTINE MUSICAL SYMBOL FTHORA DIATONIKI NANA;eNAOS ICHOS;eDIATONIKI DI"),
  (0x1D0BE, "aBYZANTINE MUSICAL SYMBOL FTHORA SKLIRON DIATONON DI;eDIATONIKI KE;fZO;fNI KATO;gANO"),
  (0x1D0C3, "aBYZANTINE MUSICAL SYMBOL FTHORA MALAKON CHROMA DIFONIAS;gMONOFONIAS"),
  (0x1D0C5, "aBYZANTINE MUSICAL SYMBOL FHTORA SKLIRON CHROMA VASIS;dFTHORA SKLIRON CHROMA SYNAFI"),
  (0x1D0C7, "aBYZANTINE MUSICAL SYMBOL FTHORA NENANO;dCHROA ZYGOS;eKLITON;eSPATHI"),
  (0x1D0CB, "aBYZANTINE MUSICAL SYMBOL FTHORA I YFESIS TETARTIMORION;eENARMONIOS ANTIFONIA"),
  (0x1D0CD, "aBYZANTINE MUSICAL SYMBOL YFESIS TRITIMORION;dDIESIS TRITIMORION;eTETARTIMORION"),
  (0x1D0D0, "aBYZANTINE MUSICAL SYMBOL DIESIS APLI DYO DODEKATA;eMONOGRAMMOS TESSERA DODEKATA"),
  (0x1D0D2, "aBYZANTINE MUSICAL SYMBOL DIESIS DIGRAMMOS EX DODEKATA;eTRIGRAMMOS OKTO DODEKATA"),
  (0x1D0D4, "aBYZANTINE MUSICAL SYMBOL YFESIS APLI DYO DODEKATA;eMONOGRAMMOS TESSERA DODEKATA"),
  (0x1D0D6, "aBYZANTINE MUSICAL SYMBOL YFESIS DIGRAMMOS EX DODEKATA;eTRIGRAMMOS OKTO DODEKATA"),
  (0x1D0D8, "aBYZANTINE MUSICAL SYMBOL GENIKI DIESIS;eYFESIS;dDIASTOLI APLI MIKRI;fMEGALI;eDIPLI"),
  (0x1D0DD, "aBYZANTINE MUSICAL SYMBOL DIASTOLI THESEOS;dSIMANSIS THESEOS;fDISIMOU;fTRISIMOU"),
  (0x1D0E1, "aBYZANTINE MUSICAL SYMBOL SIMANSIS THESEOS TETRASIMOU;eARSEOS;fDISIMOU;fTRISIMOU"),
  (0x1D0E5, "aBYZANTINE MUSICAL SYMBOL SIMANSIS ARSEOS TETRASIMOU;dDIGRAMMA GG;dDIFTOGGOS OU"),
  (0x1D0E8, "aBYZANTINE MUSICAL SYMBOL STIGMA;dARKTIKO PA;eVOU;eGA;eDI;eKE;eZO;eNI"),
  (0x1D0F0, "aBYZANTINE MUSICAL SYMBOL KENTIMATA NEO MESO;dKENTIMA NEO MESO;dKENTIMATA NEO KATO"),
  (0x1D0F3, "aBYZANTINE MUSICAL SYMBOL KENTIMA NEO KATO;dKLASMA KATO;dGORGON NEO KATO"),
  (0x1D100, "aMUSICAL SYMBOL SINGLE BARLINE;cDOUBLE BARLINE;cFINAL BARLINE;cREVERSE FINAL BARLINE"),
  (0x1D104, "aMUSICAL SYMBOL DASHED BARLINE;cSHORT BARLINE;cLEFT REPEAT SIGN;cRIGHT REPEAT SIGN"),
  (0x1D108, "aMUSICAL SYMBOL REPEAT DOTS;cDAL SEGNO;cDA CAPO;cSEGNO;cCODA;cREPEATED FIGURE-1"),
  (0x1D10E, "aMUSICAL SYMBOL REPEATED FIGURE-2;dFIGURE-3;cFERMATA;dBELOW;cBREATH MARK;cCAESURA"),
  (0x1D114, "aMUSICAL SYMBOL BRACE;cBRACKET;cONE-LINE STAFF;cTWO-LINE STAFF;cTHREE-LINE STAFF"),
  (0x1D119, "aMUSICAL SYMBOL FOUR-LINE STAFF;cFIVE-LINE STAFF;cSIX-LINE STAFF"),
  (0x1D11C, "aMUSICAL SYMBOL SIX-STRING FRETBOARD;cFOUR-STRING FRETBOARD;cG CLEF;eOTTAVA ALTA"),
  (0x1D120, "aMUSICAL SYMBOL G CLEF OTTAVA BASSA;cC CLEF;cF CLEF;eOTTAVA ALTA;fBASSA;cDRUM CLEF-1"),
  (0x1D126, "aMUSICAL SYMBOL DRUM CLEF-2"),
  (0x1D129, "aMUSICAL SYMBOL MULTIPLE MEASURE REST;cDOUBLE SHARP;dFLAT;cFLAT UP;dDOWN;cNATURAL UP"),
  (0x1D12F, "aMUSICAL SYMBOL NATURAL DOWN;cSHARP UP;dDOWN;cQUARTER TONE SHARP;eFLAT;cCOMMON TIME"),
  (0x1D135, "aMUSICAL SYMBOL CUT TIME;cOTTAVA ALTA;dBASSA;cQUINDICESIMA ALTA;dBASSA;cMULTI REST"),
  (0x1D13B, "aMUSICAL SYMBOL WHOLE REST;cHALF REST;cQUARTER REST;cEIGHTH REST;cSIXTEENTH REST"),
  (0x1D140, "aMUSICAL SYMBOL THIRTY-SECOND REST;cSIXTY-FOURTH REST"),
  (0x1D142, "aMUSICAL SYMBOL ONE HUNDRED TWENTY-EIGHTH REST;cX NOTEHEAD;cPLUS NOTEHEAD"),
  (0x1D145, "aMUSICAL SYMBOL CIRCLE X NOTEHEAD;cSQUARE NOTEHEAD WHITE;eBLACK"),
  (0x1D148, "aMUSICAL SYMBOL TRIANGLE NOTEHEAD UP WHITE;fBLACK;eLEFT WHITE;fBLACK;eRIGHT WHITE"),
  (0x1D14D, "aMUSICAL SYMBOL TRIANGLE NOTEHEAD RIGHT BLACK;eDOWN WHITE;fBLACK;eUP RIGHT WHITE"),
  (0x1D151, "aMUSICAL SYMBOL TRIANGLE NOTEHEAD UP RIGHT BLACK;cMOON NOTEHEAD WHITE;eBLACK"),
  (0x1D154, "aMUSICAL SYMBOL TRIANGLE-ROUND NOTEHEAD DOWN WHITE;fBLACK;cPARENTHESIS NOTEHEAD"),
  (0x1D157, "aMUSICAL SYMBOL VOID NOTEHEAD;cNOTEHEAD BLACK;cNULL NOTEHEAD;cCLUSTER NOTEHEAD WHITE"),
  (0x1D15B, "aMUSICAL SYMBOL CLUSTER NOTEHEAD BLACK;cBREVE;cWHOLE NOTE;cHALF NOTE;cQUARTER NOTE"),
  (0x1D160, "aMUSICAL SYMBOL EIGHTH NOTE;cSIXTEENTH NOTE;cTHIRTY-SECOND NOTE;cSIXTY-FOURTH NOTE"),
  (0x1D164, "aMUSICAL SYMBOL ONE HUNDRED TWENTY-EIGHTH NOTE;cCOMBINING STEM;dSPRECHGESANG STEM"),
  (0x1D167, "aMUSICAL SYMBOL COMBINING TREMOLO-1;dTREMOLO-2;dTREMOLO-3;cFINGERED TREMOLO-1"),
  (0x1D16B, "aMUSICAL SYMBOL FINGERED TREMOLO-2;dTREMOLO-3;cCOMBINING AUGMENTATION DOT;dFLAG-1"),
  (0x1D16F, "aMUSICAL SYMBOL COMBINING FLAG-2;dFLAG-3;dFLAG-4;dFLAG-5;cBEGIN BEAM;cEND BEAM"),
  (0x1D175, "aMUSICAL SYMBOL BEGIN TIE;cEND TIE;cBEGIN SLUR;cEND SLUR;cBEGIN PHRASE;cEND PHRASE"),
  (0x1D17B, "aMUSICAL SYMBOL COMBINING ACCENT;dSTACCATO;dTENUTO;dSTACCATISSIMO;dMARCATO"),
  (0x1D180, "aMUSICAL SYMBOL COMBINING MARCATO-STACCATO;dACCENT-STACCATO;dLOURE;cARPEGGIATO UP"),
  (0x1D184, "aMUSICAL SYMBOL ARPEGGIATO DOWN;cCOMBINING DOIT;dRIP;dFLIP;dSMEAR;dBEND"),
  (0x1D18A, "aMUSICAL SYMBOL COMBINING DOUBLE TONGUE;dTRIPLE TONGUE;cRINFORZANDO;cSUBITO;cZ"),
  (0x1D18F, "aMUSICAL SYMBOL PIANO;cMEZZO;cFORTE;cCRESCENDO;cDECRESCENDO;cGRACE NOTE SLASH"),
  (0x1D195, "aMUSICAL SYMBOL GRACE NOTE NO SLASH;cTR;cTURN;cINVERTED TURN;cTURN SLASH;dUP"),
  (0x1D19B, "aMUSICAL SYMBOL ORNAMENT STROKE-1;dSTROKE-2;dSTROKE-3;dSTROKE-4;dSTROKE-5;dSTROKE-6"),
  (0x1D1A1, "aMUSICAL SYMBOL ORNAMENT STROKE-7;dSTROKE-8;dSTROKE-9;dSTROKE-10;dSTROKE-11"),
  (0x1D1A6, "aMUSICAL SYMBOL HAUPTSTIMME;cNEBENSTIMME;cEND OF STIMME;cDEGREE SLASH"),
  (0x1D1AA, "aMUSICAL SYMBOL COMBINING DOWN BOW;dUP BOW;dHARMONIC;dSNAP PIZZICATO;cPEDAL MARK"),
  (0x1D1AF, "aMUSICAL SYMBOL PEDAL UP MARK;cHALF PEDAL MARK;cGLISSANDO UP;dDOWN;cWITH FINGERNAILS"),
  (0x1D1B4, "aMUSICAL SYMBOL DAMP;dALL;cMAXIMA;cLONGA;cBREVIS;cSEMIBREVIS WHITE;dBLACK;cMINIMA"),
  (0x1D1BC, "aMUSICAL SYMBOL MINIMA BLACK;cSEMIMINIMA WHITE;dBLACK;cFUSA WHITE;dBLACK"),
  (0x1D1C1, "aMUSICAL SYMBOL LONGA PERFECTA REST;dIMPERFECTA REST;cBREVIS REST;cSEMIBREVIS REST"),
  (0x1D1C5, "aMUSICAL SYMBOL MINIMA REST;cSEMIMINIMA REST"),
  (0x1D1C7, "aMUSICAL SYMBOL TEMPUS PERFECTUM CUM PROLATIONE PERFECTA;gIMPERFECTA"),
  (0x1D1C9, "aMUSICAL SYMBOL TEMPUS PERFECTUM CUM PROLATIONE PERFECTA DIMINUTION-1"),
  (0x1D1CA, "aMUSICAL SYMBOL TEMPUS IMPERFECTUM CUM PROLATIONE PERFECTA;gIMPERFECTA;hDIMINUTION-1"),
  (0x1D1CD, "aMUSICAL SYMBOL TEMPUS IMPERFECTUM CUM PROLATIONE IMPERFECTA DIMINUTION-2"),
  (0x1D1CE, "aMUSICAL SYMBOL TEMPUS IMPERFECTUM CUM PROLATIONE IMPERFECTA DIMINUTION-3;cCROIX"),
  (0x1D1D0, "aMUSICAL SYMBOL GREGORIAN C CLEF;dF CLEF;cSQUARE B;cVIRGA;cPODATUS;cCLIVIS"),
  (0x1D1D6, "aMUSICAL SYMBOL SCANDICUS;cCLIMACUS;cTORCULUS;cPORRECTUS;dFLEXUS;cSCANDICUS FLEXUS"),
  (0x1D1DC, "aMUSICAL SYMBOL TORCULUS RESUPINUS;cPES SUBPUNCTIS;cKIEVAN C CLEF;dEND OF PIECE"),
  (0x1D1E0, "aMUSICAL SYMBOL KIEVAN FINAL NOTE;dRECITATIVE MARK;dWHOLE NOTE;dHALF NOTE"),
  (0x1D1E4, "aMUSICAL SYMBOL KIEVAN QUARTER NOTE STEM DOWN;gUP;dEIGHTH NOTE STEM DOWN;gUP"),
  (0x1D1E8, "aMUSICAL SYMBOL KIEVAN FLAT SIGN;cSORI;cKORON"),
  (0x1D200, "aGREEK VOCAL NOTATION SYMBOL-1;dSYMBOL-2;dSYMBOL-3;dSYMBOL-4;dSYMBOL-5;dSYMBOL-6"),
  (0x1D206, "aGREEK VOCAL NOTATION SYMBOL-7;dSYMBOL-8;dSYMBOL-9;dSYMBOL-10;dSYMBOL-11;dSYMBOL-12"),
  (0x1D20C, "aGREEK VOCAL NOTATION SYMBOL-13;dSYMBOL-14;dSYMBOL-15;dSYMBOL-16;dSYMBOL-17"),
  (0x1D211, "aGREEK VOCAL NOTATION SYMBOL-18;dSYMBOL-19;dSYMBOL-20;dSYMBOL-21;dSYMBOL-22"),
  (0x1D216, "aGREEK VOCAL NOTATION SYMBOL-23;dSYMBOL-24;dSYMBOL-50;dSYMBOL-51;dSYMBOL-52"),
  (0x1D21B, "aGREEK VOCAL NOTATION SYMBOL-53;dSYMBOL-54;bINSTRUMENTAL NOTATION SYMBOL-1;dSYMBOL-2"),
  (0x1D21F, "aGREEK INSTRUMENTAL NOTATION SYMBOL-4;dSYMBOL-5;dSYMBOL-7;dSYMBOL-8;dSYMBOL-11"),
  (0x1D224, "aGREEK INSTRUMENTAL NOTATION SYMBOL-12;dSYMBOL-13;dSYMBOL-14;dSYMBOL-17;dSYMBOL-18"),
  (0x1D229, "aGREEK INSTRUMENTAL NOTATION SYMBOL-19;dSYMBOL-23;dSYMBOL-24;dSYMBOL-25;dSYMBOL-26"),
  (0x1D22E, "aGREEK INSTRUMENTAL NOTATION SYMBOL-27;dSYMBOL-29;dSYMBOL-30;dSYMBOL-32;dSYMBOL-36"),
  (0x1D233, "aGREEK INSTRUMENTAL NOTATION SYMBOL-37;dSYMBOL-38;dSYMBOL-39;dSYMBOL-40;dSYMBOL-42"),
  (0x1D238, "aGREEK INSTRUMENTAL NOTATION SYMBOL-43;dSYMBOL-45;dSYMBOL-47;dSYMBOL-48;dSYMBOL-49"),
  (0x1D23D, "aGREEK INSTRUMENTAL NOTATION SYMBOL-50;dSYMBOL-51;dSYMBOL-52;dSYMBOL-53;dSYMBOL-54"),
  (0x1D242, "aCOMBINING GREEK MUSICAL TRISEME;dTETRASEME;dPENTASEME;aGREEK MUSICAL LEIMMA"),
  (0x1D2E0, "aMAYAN NUMERAL ZERO;cONE;cTWO;cTHREE;cFOUR;cFIVE;cSIX;cSEVEN;cEIGHT;cNINE;cTEN"),
  (0x1D2EB, "aMAYAN NUMERAL ELEVEN;cTWELVE;cTHIRTEEN;cFOURTEEN;cFIFTEEN;cSIXTEEN;cSEVENTEEN"),
  (0x1D2F2, "aMAYAN NUMERAL EIGHTEEN;cNINETEEN"),
  (0x1D300, "aMONOGRAM FOR EARTH;aDIGRAM FOR HEAVENLY EARTH;cHUMAN EARTH;cEARTHLY HEAVEN;dHUMAN"),
  (0x1D305, "aDIGRAM FOR EARTH;aTETRAGRAM FOR CENTRE;cFULL CIRCLE;cMIRED;cBARRIER;cKEEPING SMALL"),
  (0x1D30B, "aTETRAGRAM FOR CONTRARIETY;cASCENT;cOPPOSITION;cBRANCHING OUT"),
  (0x1D30F, "aTETRAGRAM FOR DEFECTIVENESS OR DISTORTION;cDIVERGENCE;cYOUTHFULNESS;cINCREASE"),
  (0x1D313, "aTETRAGRAM FOR PENETRATION;cREACH;cCONTACT;cHOLDING BACK;cWAITING;cFOLLOWING"),
  (0x1D319, "aTETRAGRAM FOR ADVANCE;cRELEASE;cRESISTANCE;cEASE;cJOY;cCONTENTION;cENDEAVOUR"),
  (0x1D320, "aTETRAGRAM FOR DUTIES;cCHANGE;cDECISIVENESS;cBOLD RESOLUTION;cPACKING;cLEGION"),
  (0x1D326, "aTETRAGRAM FOR CLOSENESS;cKINSHIP;cGATHERING;cSTRENGTH;cPURITY;cFULLNESS;cRESIDENCE"),
  (0x1D32D, "aTETRAGRAM FOR LAW OR MODEL;cRESPONSE;cGOING TO MEET;cENCOUNTERS;cSTOVE;cGREATNESS"),
  (0x1D333, "aTETRAGRAM FOR ENLARGEMENT;cPATTERN;cRITUAL;cFLIGHT;cVASTNESS OR WASTING;cCONSTANCY"),
  (0x1D339, "aTETRAGRAM FOR MEASURE;cETERNITY;cUNITY;cDIMINISHMENT;cCLOSED MOUTH;cGUARDEDNESS"),
  (0x1D33F, "aTETRAGRAM FOR GATHERING IN;cMASSING;cACCUMULATION;cEMBELLISHMENT;cDOUBT;cWATCH"),
  (0x1D345, "aTETRAGRAM FOR SINKING;cINNER;cDEPARTURE;cDARKENING;cDIMMING;cEXHAUSTION;cSEVERANCE"),
  (0x1D34C, "aTETRAGRAM FOR STOPPAGE;cHARDNESS;cCOMPLETION;cCLOSURE;cFAILURE;cAGGRAVATION"),
  (0x1D352, "aTETRAGRAM FOR COMPLIANCE;cON THE VERGE;cDIFFICULTIES;cLABOURING;cFOSTERING"),
  (0x1D360, "aCOUNTING ROD UNIT DIGIT ONE;eTWO;eTHREE;eFOUR;eFIVE;eSIX;eSEVEN;eEIGHT;eNINE"),
  (0x1D369, "aCOUNTING ROD TENS DIGIT ONE;eTWO;eTHREE;eFOUR;eFIVE;eSIX;eSEVEN;eEIGHT;eNINE"),
  (0x1D372, "aIDEOGRAPHIC TALLY MARK ONE;dTWO;dTHREE;dFOUR;dFIVE;aTALLY MARK ONE;cFIVE"),
  (0x1D400, "aMATHEMATICAL BOLD CAPITAL A;dB;dC;dD;dE;dF;dG;dH;dI;dJ;dK;dL;dM;dN;dO;dP;dQ;dR;dS"),
  (0x1D413, "aMATHEMATICAL BOLD CAPITAL T;dU;dV;dW;dX;dY;dZ;cSMALL A;dB;dC;dD;dE;dF;dG;dH;dI;dJ"),
  (0x1D424, "aMATHEMATICAL BOLD SMALL K;dL;dM;dN;dO;dP;dQ;dR;dS;dT;dU;dV;dW;dX;dY;dZ"),
  (0x1D434, "aMATHEMATICAL ITALIC CAPITAL A;dB;dC;dD;dE;dF;dG;dH;dI;dJ;dK;dL;dM;dN;dO;dP;dQ;dR;dS"),
  (0x1D447, "aMATHEMATICAL ITALIC CAPITAL T;dU;dV;dW;dX;dY;dZ;cSMALL A;dB;dC;dD;dE;dF;dG"),
  (0x1D456, "aMATHEMATICAL ITALIC SMALL I;dJ;dK;dL;dM;dN;dO;dP;dQ;dR;dS;dT;dU;dV;dW;dX;dY;dZ"),
  (0x1D468, "aMATHEMATICAL BOLD ITALIC CAPITAL A;eB;eC;eD;eE;eF;eG;eH;eI;eJ;eK;eL;eM;eN;eO;eP;eQ"),
  (0x1D479, "aMATHEMATICAL BOLD ITALIC CAPITAL R;eS;eT;eU;eV;eW;eX;eY;eZ;dSMALL A;eB;eC;eD;eE;eF"),
  (0x1D488, "aMATHEMATICAL BOLD ITALIC SMALL G;eH;eI;eJ;eK;eL;eM;eN;eO;eP;eQ;eR;eS;eT;eU;eV;eW;eX"),
  (0x1D49A, "aMATHEMATICAL BOLD ITALIC SMALL Y;eZ;bSCRIPT CAPITAL A"),
  (0x1D49E, "aMATHEMATICAL SCRIPT CAPITAL C;dD"),
  (0x1D4A2, "aMATHEMATICAL SCRIPT CAPITAL G"),
  (0x1D4A5, "aMATHEMATICAL SCRIPT CAPITAL J;dK"),
  (0x1D4A9, "aMATHEMATICAL SCRIPT CAPITAL N;dO;dP;dQ"),
  (0x1D4AE, "aMATHEMATICAL SCRIPT CAPITAL S;dT;dU;dV;dW;dX;dY;dZ;cSMALL A;dB;dC;dD"),
  (0x1D4BB, "aMATHEMATICAL SCRIPT SMALL F"),
  (0x1D4BD, "aMATHEMATICAL SCRIPT SMALL H;dI;dJ;dK;dL;dM;dN"),
  (0x1D4C5, "aMATHEMATICAL SCRIPT SMALL P;dQ;dR;dS;dT;dU;dV;dW;dX;dY;dZ;bBOLD SCRIPT CAPITAL A;eB"),
  (0x1D4D2, "aMATHEMATICAL BOLD SCRIPT CAPITAL C;eD;eE;eF;eG;eH;eI;eJ;eK;eL;eM;eN;eO;eP;eQ;eR;eS"),
  (0x1D4E3, "aMATHEMATICAL BOLD SCRIPT CAPITAL T;eU;eV;eW;eX;eY;eZ;dSMALL A;eB;eC;eD;eE;eF;eG;eH")]

/-- The lines of names from U+1D4F2 on. -/
def namesFrom1D4F2 : List (Nat × String) := [
  (0x1D4F2, "aMATHEMATICAL BOLD SCRIPT SMALL I;eJ;eK;eL;eM;eN;eO;eP;eQ;eR;eS;eT;eU;eV;eW;eX;eY;eZ"),
  (0x1D504, "aMATHEMATICAL FRAKTUR CAPITAL A;dB"),
  (0x1D507, "aMATHEMATICAL FRAKTUR CAPITAL D;dE;dF;dG"),
  (0x1D50D, "aMATHEMATICAL FRAKTUR CAPITAL J;dK;dL;dM;dN;dO;dP;dQ"),
  (0x1D516, "aMATHEMATICAL FRAKTUR CAPITAL S;dT;dU;dV;dW;dX;dY"),
  (0x1D51E, "aMATHEMATICAL FRAKTUR SMALL A;dB;dC;dD;dE;dF;dG;dH;dI;dJ;dK;dL;dM;dN;dO;dP;dQ;dR;dS"),
  (0x1D531, "aMATHEMATICAL FRAKTUR SMALL T;dU;dV;dW;dX;dY;dZ;bDOUBLE-STRUCK CAPITAL A;dB"),
  (0x1D53B, "aMATHEMATICAL DOUBLE-STRUCK CAPITAL D;dE;dF;dG"),
  (0x1D540, "aMATHEMATICAL DOUBLE-STRUCK CAPITAL I;dJ;dK;dL;dM"),
  (0x1D546, "aMATHEMATICAL DOUBLE-STRUCK CAPITAL O"),
  (0x1D54A, "aMATHEMATICAL DOUBLE-STRUCK CAPITAL S;dT;dU;dV;dW;dX;dY"),
  (0x1D552, "aMATHEMATICAL DOUBLE-STRUCK SMALL A;dB;dC;dD;dE;dF;dG;dH;dI;dJ;dK;dL;dM;dN;dO;dP;dQ"),
  (0x1D563, "aMATHEMATICAL DOUBLE-STRUCK SMALL R;dS;dT;dU;dV;dW;dX;dY;dZ;bBOLD FRAKTUR CAPITAL A"),
  (0x1D56D, "aMATHEMATICAL BOLD FRAKTUR CAPITAL B;eC;eD;eE;eF;eG;eH;eI;eJ;eK;eL;eM;eN;eO;eP;eQ;eR"),
  (0x1D57E, "aMATHEMATICAL BOLD FRAKTUR CAPITAL S;eT;eU;eV;eW;eX;eY;eZ;dSMALL A;eB;eC;eD;eE;eF;eG"),
  (0x1D58D, "aMATHEMATICAL BOLD FRAKTUR SMALL H;eI;eJ;eK;eL;eM;eN;eO;eP;eQ;eR;eS;eT;eU;eV;eW;eX"),
  (0x1D59E, "aMATHEMATICAL BOLD FRAKTUR SMALL Y;eZ;bSANS-SERIF CAPITAL A;dB;dC;dD;dE;dF;dG;dH;dI"),
  (0x1D5A9, "aMATHEMATICAL SANS-SERIF CAPITAL J;dK;dL;dM;dN;dO;dP;dQ;dR;dS;dT;dU;dV;dW;dX;dY;dZ"),
  (0x1D5BA, "aMATHEMATICAL SANS-SERIF SMALL A;dB;dC;dD;dE;dF;dG;dH;dI;dJ;dK;dL;dM;dN;dO;dP;dQ;dR"),
  (0x1D5CC, "aMATHEMATICAL SANS-SERIF SMALL S;dT;dU;dV;dW;dX;dY;dZ;cBOLD CAPITAL A;eB;eC;eD;eE;eF"),
  (0x1D5DA, "aMATHEMATICAL SANS-SERIF BOLD CAPITAL G;eH;eI;eJ;eK;eL;eM;eN;eO;eP;eQ;eR;eS;eT;eU;eV"),
  (0x1D5EA, "aMATHEMATICAL SANS-SERIF BOLD CAPITAL W;eX;eY;eZ;dSMALL A;eB;eC;eD;eE;eF;eG;eH;eI;eJ"),
  (0x1D5F8, "aMATHEMATICAL SANS-SERIF BOLD SMALL K;eL;eM;eN;eO;eP;eQ;eR;eS;eT;eU;eV;eW;eX;eY;eZ"),
  (0x1D608, "aMATHEMATICAL SANS-SERIF ITALIC CAPITAL A;eB;eC;eD;eE;eF;eG;eH;eI;eJ;eK;eL;eM;eN;eO"),
  (0x1D617, "aMATHEMATICAL SANS-SERIF ITALIC CAPITAL P;eQ;eR;eS;eT;eU;eV;eW;eX;eY;eZ;dSMALL A;eB"),
  (0x1D624, "aMATHEMATICAL SANS-SERIF ITALIC SMALL C;eD;eE;eF;eG;eH;eI;eJ;eK;eL;eM;eN;eO;eP;eQ;eR"),
  (0x1D634, "aMATHEMATICAL SANS-SERIF ITALIC SMALL S;eT;eU;eV;eW;eX;eY;eZ;cBOLD ITALIC CAPITAL A"),
  (0x1D63D, "aMATHEMATICAL SANS-SERIF BOLD ITALIC CAPITAL B;fC;fD;fE;fF;fG;fH;fI;fJ;fK;fL;fM;fN"),
  (0x1D64A, "aMATHEMATICAL SANS-SERIF BOLD ITALIC CAPITAL O;fP;fQ;fR;fS;fT;fU;fV;fW;fX;fY;fZ"),
  (0x1D656, "aMATHEMATICAL SANS-SERIF BOLD ITALIC SMALL A;fB;fC;fD;fE;fF;fG;fH;fI;fJ;fK;fL;fM;fN"),
  (0x1D664, "aMATHEMATICAL SANS-SERIF BOLD ITALIC SMALL O;fP;fQ;fR;fS;fT;fU;fV;fW;fX;fY;fZ"),
  (0x1D670, "aMATHEMATICAL MONOSPACE CAPITAL A;dB;dC;dD;dE;dF;dG;dH;dI;dJ;dK;dL;dM;dN;dO;dP;dQ;dR"),
  (0x1D682, "aMATHEMATICAL MONOSPACE CAPITAL S;dT;dU;dV;dW;dX;dY;dZ;cSMALL A;dB;dC;dD;dE;dF;dG;dH"),
  (0x1D692, "aMATHEMATICAL MONOSPACE SMALL I;dJ;dK;dL;dM;dN;dO;dP;dQ;dR;dS;dT;dU;dV;dW;dX;dY;dZ"),
  (0x1D6A4, "aMATHEMATICAL ITALIC SMALL DOTLESS I;eJ"),
  (0x1D6A8, "aMATHEMATICAL BOLD CAPITAL ALPHA;dBETA;dGAMMA;dDELTA;dEPSILON;dZETA;dETA;dTHETA"),
  (0x1D6B0, "aMATHEMATICAL BOLD CAPITAL IOTA;dKAPPA;dLAMDA;dMU;dNU;dXI;dOMICRON;dPI;dRHO"),
  (0x1D6B9, "aMATHEMATICAL BOLD CAPITAL THETA SYMBOL;dSIGMA;dTAU;dUPSILON;dPHI;dCHI;dPSI;dOMEGA"),
  (0x1D6C1, "aMATHEMATICAL BOLD NABLA;cSMALL ALPHA;dBETA;dGAMMA;dDELTA;dEPSILON;dZETA;dETA;dTHETA"),
  (0x1D6CA, "aMATHEMATICAL BOLD SMALL IOTA;dKAPPA;dLAMDA;dMU;dNU;dXI;dOMICRON;dPI;dRHO"),
  (0x1D6D3, "aMATHEMATICAL BOLD SMALL FINAL SIGMA;dSIGMA;dTAU;dUPSILON;dPHI;dCHI;dPSI;dOMEGA"),
  (0x1D6DB, "aMATHEMATICAL BOLD PARTIAL DIFFERENTIAL;cEPSILON SYMBOL;cTHETA SYMBOL;cKAPPA SYMBOL"),
  (0x1D6DF, "aMATHEMATICAL BOLD PHI SYMBOL;cRHO SYMBOL;cPI SYMBOL;bITALIC CAPITAL ALPHA;dBETA"),
  (0x1D6E4, "aMATHEMATICAL ITALIC CAPITAL GAMMA;dDELTA;dEPSILON;dZETA;dETA;dTHETA;dIOTA;dKAPPA"),
  (0x1D6EC, "aMATHEMATICAL ITALIC CAPITAL LAMDA;dMU;dNU;dXI;dOMICRON;dPI;dRHO;dTHETA SYMBOL"),
  (0x1D6F4, "aMATHEMATICAL ITALIC CAPITAL SIGMA;dTAU;dUPSILON;dPHI;dCHI;dPSI;dOMEGA;cNABLA"),
  (0x1D6FC, "aMATHEMATICAL ITALIC SMALL ALPHA;dBETA;dGAMMA;dDELTA;dEPSILON;dZETA;dETA;dTHETA"),
  (0x1D704, "aMATHEMATICAL ITALIC SMALL IOTA;dKAPPA;dLAMDA;dMU;dNU;dXI;dOMICRON;dPI;dRHO"),
  (0x1D70D, "aMATHEMATICAL ITALIC SMALL FINAL SIGMA;dSIGMA;dTAU;dUPSILON;dPHI;dCHI;dPSI;dOMEGA"),
  (0x1D715, "aMATHEMATICAL ITALIC PARTIAL DIFFERENTIAL;cEPSILON SYMBOL;cTHETA SYMBOL"),
  (0x1D718, "aMATHEMATICAL ITALIC KAPPA SYMBOL;cPHI SYMBOL;cRHO SYMBOL;cPI SYMBOL"),
  (0x1D71C, "aMATHEMATICAL BOLD ITALIC CAPITAL ALPHA;eBETA;eGAMMA;eDELTA;eEPSILON;eZETA;eETA"),
  (0x1D723, "aMATHEMATICAL BOLD ITALIC CAPITAL THETA;eIOTA;eKAPPA;eLAMDA;eMU;eNU;eXI;eOMICRON;ePI"),
  (0x1D72C, "aMATHEMATICAL BOLD ITALIC CAPITAL RHO;eTHETA SYMBOL;eSIGMA;eTAU;eUPSILON;ePHI;eCHI"),
  (0x1D733, "aMATHEMATICAL BOLD ITALIC CAPITAL PSI;eOMEGA;dNABLA;dSMALL ALPHA;eBETA;eGAMMA;eDELTA"),
  (0x1D73A, "aMATHEMATICAL BOLD ITALIC SMALL EPSILON;eZETA;eETA;eTHETA;eIOTA;eKAPPA;eLAMDA;eMU"),
  (0x1D742, "aMATHEMATICAL BOLD ITALIC SMALL NU;eXI;eOMICRON;ePI;eRHO;eFINAL SIGMA;eSIGMA;eTAU"),
  (0x1D74A, "aMATHEMATICAL BOLD ITALIC SMALL UPSILON;ePHI;eCHI;ePSI;eOMEGA;dPARTIAL DIFFERENTIAL"),
  (0x1D750, "aMATHEMATICAL BOLD ITALIC EPSILON SYMBOL;dTHETA SYMBOL;dKAPPA SYMBOL;dPHI SYMBOL"),
  (0x1D754, "aMATHEMATICAL BOLD ITALIC RHO SYMBOL;dPI SYMBOL;bSANS-SERIF BOLD CAPITAL ALPHA;eBETA"),
  (0x1D758, "aMATHEMATICAL SANS-SERIF BOLD CAPITAL GAMMA;eDELTA;eEPSILON;eZETA;eETA;eTHETA;eIOTA"),
  (0x1D75F, "aMATHEMATICAL SANS-SERIF BOLD CAPITAL KAPPA;eLAMDA;eMU;eNU;eXI;eOMICRON;ePI;eRHO"),
  (0x1D767, "aMATHEMATICAL SANS-SERIF BOLD CAPITAL THETA SYMBOL;eSIGMA;eTAU;eUPSILON;ePHI;eCHI"),
  (0x1D76D, "aMATHEMATICAL SANS-SERIF BOLD CAPITAL PSI;eOMEGA;dNABLA;dSMALL ALPHA;eBETA;eGAMMA"),
  (0x1D773, "aMATHEMATICAL SANS-SERIF BOLD SMALL DELTA;eEPSILON;eZETA;eETA;eTHETA;eIOTA;eKAPPA"),
  (0x1D77A, "aMATHEMATICAL SANS-SERIF BOLD SMALL LAMDA;eMU;eNU;eXI;eOMICRON;ePI;eRHO;eFINAL SIGMA"),
  (0x1D782, "aMATHEMATICAL SANS-SERIF BOLD SMALL SIGMA;eTAU;eUPSILON;ePHI;eCHI;ePSI;eOMEGA"),
  (0x1D789, "aMATHEMATICAL SANS-SERIF BOLD PARTIAL DIFFERENTIAL;dEPSILON SYMBOL;dTHETA SYMBOL"),
  (0x1D78C, "aMATHEMATICAL SANS-SERIF BOLD KAPPA SYMBOL;dPHI SYMBOL;dRHO SYMBOL;dPI SYMBOL"),
  (0x1D790, "aMATHEMATICAL SANS-SERIF BOLD ITALIC CAPITAL ALPHA;fBETA;fGAMMA;fDELTA;fEPSILON"),
  (0x1D795, "aMATHEMATICAL SANS-SERIF BOLD ITALIC CAPITAL ZETA;fETA;fTHETA;fIOTA;fKAPPA;fLAMDA"),
  (0x1D79B, "aMATHEMATICAL SANS-SERIF BOLD ITALIC CAPITAL MU;fNU;fXI;fOMICRON;fPI;fRHO"),
  (0x1D7A1, "aMATHEMATICAL SANS-SERIF BOLD ITALIC CAPITAL THETA SYMBOL;fSIGMA;fTAU;fUPSILON;fPHI"),
  (0x1D7A6, "aMATHEMATICAL SANS-SERIF BOLD ITALIC CAPITAL CHI;fPSI;fOMEGA;eNABLA;eSMALL ALPHA"),
  (0x1D7AB, "aMATHEMATICAL SANS-SERIF BOLD ITALIC SMALL BETA;fGAMMA;fDELTA;fEPSILON;fZETA;fETA"),
  (0x1D7B1, "aMATHEMATICAL SANS-SERIF BOLD ITALIC SMALL THETA;fIOTA;fKAPPA;fLAMDA;fMU;fNU;fXI"),
  (0x1D7B8, "aMATHEMATICAL SANS-SERIF BOLD ITALIC SMALL OMICRON;fPI;fRHO;fFINAL SIGMA;fSIGMA;fTAU"),
  (0x1D7BE, "aMATHEMATICAL SANS-SERIF BOLD ITALIC SMALL UPSILON;fPHI;fCHI;fPSI;fOMEGA"),
  (0x1D7C3, "aMATHEMATICAL SANS-SERIF BOLD ITALIC PARTIAL DIFFERENTIAL;eEPSILON SYMBOL"),
  (0x1D7C5, "aMATHEMATICAL SANS-SERIF BOLD ITALIC THETA SYMBOL;eKAPPA SYMBOL;ePHI SYMBOL"),
  (0x1D7C8, "aMATHEMATICAL SANS-SERIF BOLD ITALIC RHO SYMBOL;ePI SYMBOL;bBOLD CAPITAL DIGAMMA"),
  (0x1D7CB, "aMATHEMATICAL BOLD SMALL DIGAMMA"),
  (0x1D7CE, "aMATHEMATICAL BOLD DIGIT ZERO;dONE;dTWO;dTHREE;dFOUR;dFIVE;dSIX;dSEVEN;dEIGHT;dNINE"),
  (0x1D7D8, "aMATHEMATICAL DOUBLE-STRUCK DIGIT ZERO;dONE;dTWO;dTHREE;dFOUR;dFIVE;dSIX;dSEVEN"),
  (0x1D7E0, "aMATHEMATICAL DOUBLE-STRUCK DIGIT EIGHT;dNINE;bSANS-SERIF DIGIT ZERO;dONE;dTWO"),
  (0x1D7E5, "aMATHEMATICAL SANS-SERIF DIGIT THREE;dFOUR;dFIVE;dSIX;dSEVEN;dEIGHT;dNINE"),
  (0x1D7EC, "aMATHEMATICAL SANS-SERIF BOLD DIGIT ZERO;eONE;eTWO;eTHREE;eFOUR;eFIVE;eSIX;eSEVEN"),
  (0x1D7F4, "aMATHEMATICAL SANS-SERIF BOLD DIGIT EIGHT;eNINE;bMONOSPACE DIGIT ZERO;dONE;dTWO"),
  (0x1D7F9, "aMATHEMATICAL MONOSPACE DIGIT THREE;dFOUR;dFIVE;dSIX;dSEVEN;dEIGHT;dNINE"),
  (0x1D800, "aSIGNWRITING HAND-FIST INDEX;bHAND-CIRCLE INDEX;bHAND-CUP INDEX;bHAND-OVAL INDEX"),
  (0x1D804, "aSIGNWRITING HAND-HINGE INDEX;bHAND-ANGLE INDEX;bHAND-FIST INDEX BENT"),
  (0x1D807, "aSIGNWRITING HAND-CIRCLE INDEX BENT;bHAND-FIST THUMB UNDER INDEX BENT"),
  (0x1D809, "aSIGNWRITING HAND-FIST INDEX RAISED KNUCKLE;dCUPPED;dHINGED;eLOW"),
  (0x1D80D, "aSIGNWRITING HAND-CIRCLE INDEX HINGE;bHAND-FIST INDEX MIDDLE"),
  (0x1D80F, "aSIGNWRITING HAND-CIRCLE INDEX MIDDLE;bHAND-FIST INDEX MIDDLE BENT;eRAISED KNUCKLES"),
  (0x1D812, "aSIGNWRITING HAND-FIST INDEX MIDDLE HINGED;dUP MIDDLE HINGED;dHINGED MIDDLE UP"),
  (0x1D815, "aSIGNWRITING HAND-FIST INDEX MIDDLE CONJOINED;fINDEX BENT;fMIDDLE BENT;fCUPPED"),
  (0x1D819, "aSIGNWRITING HAND-FIST INDEX MIDDLE CONJOINED HINGED;eCROSSED"),
  (0x1D81B, "aSIGNWRITING HAND-CIRCLE INDEX MIDDLE CROSSED;bHAND-FIST MIDDLE BENT OVER INDEX"),
  (0x1D81D, "aSIGNWRITING HAND-FIST INDEX BENT OVER MIDDLE;dMIDDLE THUMB"),
  (0x1D81F, "aSIGNWRITING HAND-CIRCLE INDEX MIDDLE THUMB"),
  (0x1D820, "aSIGNWRITING HAND-FIST INDEX MIDDLE STRAIGHT THUMB BENT;eBENT THUMB STRAIGHT"),
  (0x1D822, "aSIGNWRITING HAND-FIST INDEX MIDDLE THUMB BENT;eHINGED SPREAD THUMB SIDE"),
  (0x1D824, "aSIGNWRITING HAND-FIST INDEX UP MIDDLE HINGED THUMB SIDE;hCONJOINED"),
  (0x1D826, "aSIGNWRITING HAND-FIST INDEX HINGED MIDDLE UP THUMB SIDE"),
  (0x1D827, "aSIGNWRITING HAND-FIST INDEX MIDDLE UP SPREAD THUMB FORWARD;eTHUMB CUPPED;fCIRCLED"),
  (0x1D82A, "aSIGNWRITING HAND-FIST INDEX MIDDLE THUMB HOOKED;fHINGED"),
  (0x1D82C, "aSIGNWRITING HAND-FIST THUMB BETWEEN INDEX MIDDLE STRAIGHT"),
  (0x1D82D, "aSIGNWRITING HAND-FIST INDEX MIDDLE CONJOINED THUMB SIDE;hCONJOINED;hBENT"),
  (0x1D830, "aSIGNWRITING HAND-FIST MIDDLE THUMB HOOKED INDEX UP;cINDEX THUMB HOOKED MIDDLE UP"),
  (0x1D832, "aSIGNWRITING HAND-FIST INDEX MIDDLE CONJOINED HINGED THUMB SIDE;eCROSSED THUMB SIDE"),
  (0x1D834, "aSIGNWRITING HAND-FIST INDEX MIDDLE CONJOINED THUMB FORWARD;fCUPPED THUMB FORWARD"),
  (0x1D836, "aSIGNWRITING HAND-FIST MIDDLE THUMB CUPPED INDEX UP;cINDEX THUMB CUPPED MIDDLE UP"),
  (0x1D838, "aSIGNWRITING HAND-FIST MIDDLE THUMB CIRCLED INDEX UP;gHINGED"),
  (0x1D83A, "aSIGNWRITING HAND-FIST INDEX THUMB ANGLED OUT MIDDLE UP;fIN MIDDLE UP"),
  (0x1D83C, "aSIGNWRITING HAND-FIST INDEX THUMB CIRCLED MIDDLE UP;dMIDDLE THUMB CONJOINED HINGED"),
  (0x1D83E, "aSIGNWRITING HAND-FIST INDEX MIDDLE THUMB ANGLED OUT;g"),
  (0x1D840, "aSIGNWRITING HAND-FIST MIDDLE THUMB ANGLED OUT INDEX UP;hCROSSED;fINDEX UP"),
  (0x1D843, "aSIGNWRITING HAND-FIST INDEX THUMB HOOKED MIDDLE HINGED;bHAND-FLAT FOUR FINGERS"),
  (0x1D845, "aSIGNWRITING HAND-FLAT FOUR FINGERS BENT;eHINGED;eCONJOINED;fSPLIT"),
  (0x1D849, "aSIGNWRITING HAND-CLAW FOUR FINGERS CONJOINED;bHAND-FIST FOUR FINGERS CONJOINED BENT"),
  (0x1D84B, "aSIGNWRITING HAND-HINGE FOUR FINGERS CONJOINED;bHAND-FLAT FIVE FINGERS SPREAD"),
  (0x1D84D, "aSIGNWRITING HAND-FLAT HEEL FIVE FINGERS SPREAD;cFIVE FINGERS SPREAD FOUR BENT"),
  (0x1D84F, "aSIGNWRITING HAND-FLAT HEEL FIVE FINGERS SPREAD FOUR BENT;cFIVE FINGERS SPREAD BENT"),
  (0x1D851, "aSIGNWRITING HAND-FLAT HEEL FIVE FINGERS SPREAD BENT"),
  (0x1D852, "aSIGNWRITING HAND-FLAT FIVE FINGERS SPREAD THUMB FORWARD"),
  (0x1D853, "aSIGNWRITING HAND-CUP FIVE FINGERS SPREAD;fOPEN;bHAND-HINGE FIVE FINGERS SPREAD OPEN"),
  (0x1D856, "aSIGNWRITING HAND-OVAL FIVE FINGERS SPREAD;bHAND-FLAT FIVE FINGERS SPREAD HINGED"),
  (0x1D858, "aSIGNWRITING HAND-FLAT FIVE FINGERS SPREAD HINGED THUMB SIDE;gNO THUMB;c"),
  (0x1D85B, "aSIGNWRITING HAND-FLAT BETWEEN PALM FACINGS;cHEEL;cTHUMB SIDE;cHEEL THUMB SIDE"),
  (0x1D85F, "aSIGNWRITING HAND-FLAT THUMB BENT;dFORWARD;cSPLIT INDEX THUMB SIDE;dCENTRE"),
  (0x1D863, "aSIGNWRITING HAND-FLAT SPLIT CENTRE THUMB SIDE;gBENT;dLITTLE;bHAND-CLAW;cTHUMB SIDE"),
  (0x1D868, "aSIGNWRITING HAND-CLAW NO THUMB;cTHUMB FORWARD;bHAND-HOOK CURLICUE;c;bHAND-CUP OPEN"),
  (0x1D86D, "aSIGNWRITING HAND-CUP;cOPEN THUMB SIDE;cTHUMB SIDE;cOPEN NO THUMB;cNO THUMB"),
  (0x1D872, "aSIGNWRITING HAND-CUP OPEN THUMB FORWARD;cTHUMB FORWARD;bHAND-CURLICUE OPEN;c"),
  (0x1D876, "aSIGNWRITING HAND-CIRCLE;bHAND-OVAL;cTHUMB SIDE;cNO THUMB;cTHUMB FORWARD"),
  (0x1D87B, "aSIGNWRITING HAND-HINGE OPEN;dTHUMB FORWARD;c;cSMALL;cOPEN THUMB SIDE;cTHUMB SIDE"),
  (0x1D881, "aSIGNWRITING HAND-HINGE OPEN NO THUMB;cNO THUMB;cTHUMB SIDE TOUCHING INDEX"),
  (0x1D884, "aSIGNWRITING HAND-HINGE THUMB BETWEEN MIDDLE RING;bHAND-ANGLE"),
  (0x1D886, "aSIGNWRITING HAND-FIST INDEX MIDDLE RING;bHAND-CIRCLE INDEX MIDDLE RING"),
  (0x1D888, "aSIGNWRITING HAND-HINGE INDEX MIDDLE RING;bHAND-ANGLE INDEX MIDDLE RING"),
  (0x1D88A, "aSIGNWRITING HAND-HINGE LITTLE;bHAND-FIST INDEX MIDDLE RING BENT;fCONJOINED"),
  (0x1D88D, "aSIGNWRITING HAND-HINGE INDEX MIDDLE RING CONJOINED;bHAND-FIST LITTLE DOWN"),
  (0x1D88F, "aSIGNWRITING HAND-FIST LITTLE DOWN RIPPLE STRAIGHT;fCURVED;eOTHERS CIRCLED;dUP"),
  (0x1D893, "aSIGNWRITING HAND-FIST THUMB UNDER LITTLE UP;bHAND-CIRCLE LITTLE UP"),
  (0x1D895, "aSIGNWRITING HAND-OVAL LITTLE UP;bHAND-ANGLE LITTLE UP"),
  (0x1D897, "aSIGNWRITING HAND-FIST LITTLE RAISED KNUCKLE;dBENT;dTOUCHES THUMB;dTHUMB"),
  (0x1D89B, "aSIGNWRITING HAND-HINGE LITTLE THUMB;bHAND-FIST LITTLE INDEX THUMB"),
  (0x1D89D, "aSIGNWRITING HAND-HINGE LITTLE INDEX THUMB"),
  (0x1D89E, "aSIGNWRITING HAND-ANGLE LITTLE INDEX THUMB INDEX THUMB OUT;h;bHAND-FIST LITTLE INDEX"),
  (0x1D8A1, "aSIGNWRITING HAND-CIRCLE LITTLE INDEX;bHAND-HINGE LITTLE INDEX"),
  (0x1D8A3, "aSIGNWRITING HAND-ANGLE LITTLE INDEX;bHAND-FIST INDEX MIDDLE LITTLE"),
  (0x1D8A5, "aSIGNWRITING HAND-CIRCLE INDEX MIDDLE LITTLE;bHAND-HINGE INDEX MIDDLE LITTLE;cRING"),
  (0x1D8A8, "aSIGNWRITING HAND-ANGLE INDEX MIDDLE LITTLE;bHAND-FIST INDEX MIDDLE CROSS LITTLE"),
  (0x1D8AA, "aSIGNWRITING HAND-CIRCLE INDEX MIDDLE CROSS LITTLE;bHAND-FIST RING DOWN"),
  (0x1D8AC, "aSIGNWRITING HAND-HINGE RING DOWN INDEX THUMB HOOK MIDDLE"),
  (0x1D8AD, "aSIGNWRITING HAND-ANGLE RING DOWN MIDDLE THUMB INDEX CROSS;bHAND-FIST RING UP"),
  (0x1D8AF, "aSIGNWRITING HAND-FIST RING RAISED KNUCKLE;dLITTLE;bHAND-CIRCLE RING LITTLE"),
  (0x1D8B2, "aSIGNWRITING HAND-OVAL RING LITTLE;bHAND-ANGLE RING LITTLE;bHAND-FIST RING MIDDLE"),
  (0x1D8B5, "aSIGNWRITING HAND-FIST RING MIDDLE CONJOINED;eRAISED KNUCKLES;dINDEX;dTHUMB"),
  (0x1D8B9, "aSIGNWRITING HAND-HOOK RING THUMB;bHAND-FIST INDEX RING LITTLE"),
  (0x1D8BB, "aSIGNWRITING HAND-CIRCLE INDEX RING LITTLE;bHAND-CURLICUE INDEX RING LITTLE ON"),
  (0x1D8BD, "aSIGNWRITING HAND-HOOK INDEX RING LITTLE OUT;fIN;fUNDER;bHAND-CUP INDEX RING LITTLE"),
  (0x1D8C1, "aSIGNWRITING HAND-HINGE INDEX RING LITTLE;bHAND-ANGLE INDEX RING LITTLE OUT;f"),
  (0x1D8C4, "aSIGNWRITING HAND-FIST MIDDLE DOWN;bHAND-HINGE MIDDLE;bHAND-FIST MIDDLE UP"),
  (0x1D8C7, "aSIGNWRITING HAND-CIRCLE MIDDLE UP;bHAND-FIST MIDDLE RAISED KNUCKLE;dUP THUMB SIDE"),
  (0x1D8CA, "aSIGNWRITING HAND-HOOK MIDDLE THUMB;bHAND-FIST MIDDLE THUMB LITTLE;dLITTLE"),
  (0x1D8CD, "aSIGNWRITING HAND-FIST MIDDLE RING LITTLE;bHAND-CIRCLE MIDDLE RING LITTLE"),
  (0x1D8CF, "aSIGNWRITING HAND-CURLICUE MIDDLE RING LITTLE ON;bHAND-CUP MIDDLE RING LITTLE"),
  (0x1D8D1, "aSIGNWRITING HAND-HINGE MIDDLE RING LITTLE;bHAND-ANGLE MIDDLE RING LITTLE OUT;fIN;f"),
  (0x1D8D5, "aSIGNWRITING HAND-CIRCLE MIDDLE RING LITTLE BENT"),
  (0x1D8D6, "aSIGNWRITING HAND-CLAW MIDDLE RING LITTLE CONJOINED;gSIDE"),
  (0x1D8D8, "aSIGNWRITING HAND-HOOK MIDDLE RING LITTLE CONJOINED OUT;gIN;g"),
  (0x1D8DB, "aSIGNWRITING HAND-HINGE INDEX HINGED;bHAND-FIST INDEX THUMB SIDE"),
  (0x1D8DD, "aSIGNWRITING HAND-HINGE INDEX THUMB SIDE;bHAND-FIST INDEX THUMB SIDE THUMB DIAGONAL"),
  (0x1D8DF, "aSIGNWRITING HAND-FIST INDEX THUMB SIDE THUMB CONJOINED;gBENT;fINDEX BENT;fBOTH BENT"),
  (0x1D8E3, "aSIGNWRITING HAND-FIST INDEX THUMB SIDE INDEX HINGE;eFORWARD INDEX STRAIGHT;gBENT"),
  (0x1D8E6, "aSIGNWRITING HAND-FIST INDEX THUMB HOOK;eCURLICUE;eCURVE THUMB INSIDE"),
  (0x1D8E9, "aSIGNWRITING HAND-CLAW INDEX THUMB CURVE THUMB INSIDE"),
  (0x1D8EA, "aSIGNWRITING HAND-FIST INDEX THUMB CURVE THUMB UNDER;eCIRCLE;bHAND-CUP INDEX THUMB"),
  (0x1D8ED, "aSIGNWRITING HAND-CUP INDEX THUMB OPEN;bHAND-HINGE INDEX THUMB OPEN;eLARGE;e;eSMALL"),
  (0x1D8F2, "aSIGNWRITING HAND-ANGLE INDEX THUMB OUT;eIN;e;bHAND-FIST THUMB;dHEEL;dSIDE DIAGONAL"),
  (0x1D8F8, "aSIGNWRITING HAND-FIST THUMB SIDE CONJOINED;eBENT;dFORWARD;dBETWEEN INDEX MIDDLE"),
  (0x1D8FC, "aSIGNWRITING HAND-FIST THUMB BETWEEN MIDDLE RING;eRING LITTLE;dUNDER TWO FINGERS"),
  (0x1D8FF, "aSIGNWRITING HAND-FIST THUMB OVER TWO FINGERS;dUNDER THREE FINGERS;eFOUR FINGERS"),
  (0x1D902, "aSIGNWRITING HAND-FIST THUMB OVER FOUR RAISED KNUCKLES;c;cHEEL;bTOUCH SINGLE"),
  (0x1D906, "aSIGNWRITING TOUCH MULTIPLE;cBETWEEN;bGRASP SINGLE;cMULTIPLE;cBETWEEN;bSTRIKE SINGLE"),
  (0x1D90C, "aSIGNWRITING STRIKE MULTIPLE;cBETWEEN;bBRUSH SINGLE;cMULTIPLE;cBETWEEN;bRUB SINGLE"),
  (0x1D912, "aSIGNWRITING RUB MULTIPLE;cBETWEEN;bSURFACE SYMBOLS;cBETWEEN;bSQUEEZE LARGE SINGLE"),
  (0x1D917, "aSIGNWRITING SQUEEZE SMALL SINGLE;cLARGE MULTIPLE;cSMALL MULTIPLE;cSEQUENTIAL"),
  (0x1D91B, "aSIGNWRITING FLICK LARGE SINGLE;cSMALL SINGLE;cLARGE MULTIPLE;cSMALL MULTIPLE"),
  (0x1D91F, "aSIGNWRITING FLICK SEQUENTIAL;bSQUEEZE FLICK ALTERNATING"),
  (0x1D921, "aSIGNWRITING MOVEMENT-HINGE UP DOWN LARGE;eSMALL;dSEQUENTIAL;cDOWN SEQUENTIAL"),
  (0x1D925, "aSIGNWRITING MOVEMENT-HINGE UP DOWN ALTERNATING LARGE;fSMALL;cSIDE TO SIDE SCISSORS"),
  (0x1D928, "aSIGNWRITING MOVEMENT-WALLPLANE FINGER CONTACT;bMOVEMENT-FLOORPLANE FINGER CONTACT"),
  (0x1D92A, "aSIGNWRITING MOVEMENT-WALLPLANE SINGLE STRAIGHT SMALL;eMEDIUM;eLARGE;eLARGEST"),
  (0x1D92E, "aSIGNWRITING MOVEMENT-WALLPLANE SINGLE WRIST FLEX;cDOUBLE STRAIGHT;dWRIST FLEX"),
  (0x1D931, "aSIGNWRITING MOVEMENT-WALLPLANE DOUBLE ALTERNATING;eWRIST FLEX;cCROSS"),
  (0x1D934, "aSIGNWRITING MOVEMENT-WALLPLANE TRIPLE STRAIGHT MOVEMENT;dWRIST FLEX;dALTERNATING"),
  (0x1D937, "aSIGNWRITING MOVEMENT-WALLPLANE TRIPLE ALTERNATING WRIST FLEX;cBEND SMALL;dMEDIUM"),
  (0x1D93A, "aSIGNWRITING MOVEMENT-WALLPLANE BEND LARGE;cCORNER SMALL;dMEDIUM;dLARGE;dROTATION"),
  (0x1D93F, "aSIGNWRITING MOVEMENT-WALLPLANE CHECK SMALL;dMEDIUM;dLARGE;cBOX SMALL;dMEDIUM;dLARGE"),
  (0x1D945, "aSIGNWRITING MOVEMENT-WALLPLANE ZIGZAG SMALL;dMEDIUM;dLARGE;cPEAKS SMALL;dMEDIUM"),
  (0x1D94A, "aSIGNWRITING MOVEMENT-WALLPLANE PEAKS LARGE"),
  (0x1D94B, "aSIGNWRITING TRAVEL-WALLPLANE ROTATION-WALLPLANE SINGLE;dDOUBLE;dALTERNATING"),
  (0x1D94E, "aSIGNWRITING TRAVEL-WALLPLANE ROTATION-FLOORPLANE SINGLE;dDOUBLE;dALTERNATING"),
  (0x1D951, "aSIGNWRITING TRAVEL-WALLPLANE SHAKING;cARM SPIRAL SINGLE;eDOUBLE;eTRIPLE"),
  (0x1D955, "aSIGNWRITING MOVEMENT-DIAGONAL AWAY SMALL;dMEDIUM;dLARGE;dLARGEST;cTOWARDS SMALL"),
  (0x1D95A, "aSIGNWRITING MOVEMENT-DIAGONAL TOWARDS MEDIUM;dLARGE;dLARGEST;cBETWEEN AWAY SMALL"),
  (0x1D95E, "aSIGNWRITING MOVEMENT-DIAGONAL BETWEEN AWAY MEDIUM;eLARGE;eLARGEST;dTOWARDS SMALL"),
  (0x1D962, "aSIGNWRITING MOVEMENT-DIAGONAL BETWEEN TOWARDS MEDIUM;eLARGE;eLARGEST"),
  (0x1D965, "aSIGNWRITING MOVEMENT-FLOORPLANE SINGLE STRAIGHT SMALL;eMEDIUM;eLARGE;eLARGEST"),
  (0x1D969, "aSIGNWRITING MOVEMENT-FLOORPLANE SINGLE WRIST FLEX;cDOUBLE STRAIGHT;dWRIST FLEX"),
  (0x1D96C, "aSIGNWRITING MOVEMENT-FLOORPLANE DOUBLE ALTERNATING;eWRIST FLEX;cCROSS"),
  (0x1D96F, "aSIGNWRITING MOVEMENT-FLOORPLANE TRIPLE STRAIGHT MOVEMENT;dWRIST FLEX"),
  (0x1D971, "aSIGNWRITING MOVEMENT-FLOORPLANE TRIPLE ALTERNATING MOVEMENT;eWRIST FLEX;cBEND"),
  (0x1D974, "aSIGNWRITING MOVEMENT-FLOORPLANE CORNER SMALL;dMEDIUM;dLARGE;cCHECK;cBOX SMALL"),
  (0x1D979, "aSIGNWRITING MOVEMENT-FLOORPLANE BOX MEDIUM;dLARGE;cZIGZAG SMALL;dMEDIUM;dLARGE"),
  (0x1D97E, "aSIGNWRITING MOVEMENT-FLOORPLANE PEAKS SMALL;dMEDIUM;dLARGE"),
  (0x1D981, "aSIGNWRITING TRAVEL-FLOORPLANE ROTATION-FLOORPLANE SINGLE;dDOUBLE;dALTERNATING")]

/-- The lines of names from U+1D984 on. -/
def namesFrom1D984 : List (Nat × String) := [
  (0x1D984, "aSIGNWRITING TRAVEL-FLOORPLANE ROTATION-WALLPLANE SINGLE;dDOUBLE;dALTERNATING"),
  (0x1D987, "aSIGNWRITING TRAVEL-FLOORPLANE SHAKING;bMOVEMENT-WALLPLANE CURVE QUARTER SMALL"),
  (0x1D989, "aSIGNWRITING MOVEMENT-WALLPLANE CURVE QUARTER MEDIUM;eLARGE;eLARGEST"),
  (0x1D98C, "aSIGNWRITING MOVEMENT-WALLPLANE CURVE HALF-CIRCLE SMALL;eMEDIUM;eLARGE;eLARGEST"),
  (0x1D990, "aSIGNWRITING MOVEMENT-WALLPLANE CURVE THREE-QUARTER CIRCLE SMALL;fMEDIUM;cHUMP SMALL"),
  (0x1D993, "aSIGNWRITING MOVEMENT-WALLPLANE HUMP MEDIUM;dLARGE;cLOOP SMALL;dMEDIUM;dLARGE"),
  (0x1D998, "aSIGNWRITING MOVEMENT-WALLPLANE LOOP SMALL DOUBLE;cWAVE CURVE DOUBLE SMALL;fMEDIUM"),
  (0x1D99B, "aSIGNWRITING MOVEMENT-WALLPLANE WAVE CURVE DOUBLE LARGE;eTRIPLE SMALL;fMEDIUM;fLARGE"),
  (0x1D99F, "aSIGNWRITING MOVEMENT-WALLPLANE CURVE THEN STRAIGHT;cCURVED CROSS SMALL;eMEDIUM"),
  (0x1D9A2, "aSIGNWRITING ROTATION-WALLPLANE SINGLE;cDOUBLE;cALTERNATE"),
  (0x1D9A5, "aSIGNWRITING MOVEMENT-WALLPLANE SHAKING;cCURVE HITTING FRONT WALL"),
  (0x1D9A7, "aSIGNWRITING MOVEMENT-WALLPLANE HUMP HITTING FRONT WALL;cLOOP HITTING FRONT WALL"),
  (0x1D9A9, "aSIGNWRITING MOVEMENT-WALLPLANE WAVE HITTING FRONT WALL"),
  (0x1D9AA, "aSIGNWRITING ROTATION-WALLPLANE SINGLE HITTING FRONT WALL;cDOUBLE HITTING FRONT WALL"),
  (0x1D9AC, "aSIGNWRITING ROTATION-WALLPLANE ALTERNATING HITTING FRONT WALL"),
  (0x1D9AD, "aSIGNWRITING MOVEMENT-WALLPLANE CURVE HITTING CHEST;cHUMP HITTING CHEST"),
  (0x1D9AF, "aSIGNWRITING MOVEMENT-WALLPLANE LOOP HITTING CHEST;cWAVE HITTING CHEST"),
  (0x1D9B1, "aSIGNWRITING ROTATION-WALLPLANE SINGLE HITTING CHEST;cDOUBLE HITTING CHEST"),
  (0x1D9B3, "aSIGNWRITING ROTATION-WALLPLANE ALTERNATING HITTING CHEST"),
  (0x1D9B4, "aSIGNWRITING MOVEMENT-WALLPLANE WAVE DIAGONAL PATH SMALL;fMEDIUM;fLARGE"),
  (0x1D9B7, "aSIGNWRITING MOVEMENT-FLOORPLANE CURVE HITTING CEILING SMALL;fLARGE"),
  (0x1D9B9, "aSIGNWRITING MOVEMENT-FLOORPLANE HUMP HITTING CEILING SMALL DOUBLE;fLARGE DOUBLE"),
  (0x1D9BB, "aSIGNWRITING MOVEMENT-FLOORPLANE HUMP HITTING CEILING SMALL TRIPLE;fLARGE TRIPLE"),
  (0x1D9BD, "aSIGNWRITING MOVEMENT-FLOORPLANE LOOP HITTING CEILING SMALL SINGLE;fLARGE SINGLE"),
  (0x1D9BF, "aSIGNWRITING MOVEMENT-FLOORPLANE LOOP HITTING CEILING SMALL DOUBLE;fLARGE DOUBLE"),
  (0x1D9C1, "aSIGNWRITING MOVEMENT-FLOORPLANE WAVE HITTING CEILING SMALL;fLARGE"),
  (0x1D9C3, "aSIGNWRITING ROTATION-FLOORPLANE SINGLE HITTING CEILING;cDOUBLE HITTING CEILING"),
  (0x1D9C5, "aSIGNWRITING ROTATION-FLOORPLANE ALTERNATING HITTING CEILING"),
  (0x1D9C6, "aSIGNWRITING MOVEMENT-FLOORPLANE CURVE HITTING FLOOR SMALL;fLARGE"),
  (0x1D9C8, "aSIGNWRITING MOVEMENT-FLOORPLANE HUMP HITTING FLOOR SMALL DOUBLE;fLARGE DOUBLE"),
  (0x1D9CA, "aSIGNWRITING MOVEMENT-FLOORPLANE HUMP HITTING FLOOR TRIPLE SMALL TRIPLE"),
  (0x1D9CB, "aSIGNWRITING MOVEMENT-FLOORPLANE HUMP HITTING FLOOR TRIPLE LARGE TRIPLE"),
  (0x1D9CC, "aSIGNWRITING MOVEMENT-FLOORPLANE LOOP HITTING FLOOR SMALL SINGLE;fLARGE SINGLE"),
  (0x1D9CE, "aSIGNWRITING MOVEMENT-FLOORPLANE LOOP HITTING FLOOR SMALL DOUBLE;fLARGE DOUBLE"),
  (0x1D9D0, "aSIGNWRITING MOVEMENT-FLOORPLANE WAVE HITTING FLOOR SMALL;fLARGE"),
  (0x1D9D2, "aSIGNWRITING ROTATION-FLOORPLANE SINGLE HITTING FLOOR;cDOUBLE HITTING FLOOR"),
  (0x1D9D4, "aSIGNWRITING ROTATION-FLOORPLANE ALTERNATING HITTING FLOOR"),
  (0x1D9D5, "aSIGNWRITING MOVEMENT-FLOORPLANE CURVE SMALL;dMEDIUM;dLARGE;dLARGEST;dCOMBINED"),
  (0x1D9DA, "aSIGNWRITING MOVEMENT-FLOORPLANE HUMP SMALL;cLOOP SMALL;cWAVE SNAKE;dSMALL;dLARGE"),
  (0x1D9DF, "aSIGNWRITING ROTATION-FLOORPLANE SINGLE;cDOUBLE;cALTERNATING"),
  (0x1D9E2, "aSIGNWRITING MOVEMENT-FLOORPLANE SHAKING PARALLEL"),
  (0x1D9E3, "aSIGNWRITING MOVEMENT-WALLPLANE ARM CIRCLE SMALL SINGLE;eMEDIUM SINGLE;eSMALL DOUBLE"),
  (0x1D9E6, "aSIGNWRITING MOVEMENT-WALLPLANE ARM CIRCLE MEDIUM DOUBLE"),
  (0x1D9E7, "aSIGNWRITING MOVEMENT-FLOORPLANE ARM CIRCLE HITTING WALL SMALL SINGLE;gMEDIUM SINGLE"),
  (0x1D9E9, "aSIGNWRITING MOVEMENT-FLOORPLANE ARM CIRCLE HITTING WALL LARGE SINGLE;gSMALL DOUBLE"),
  (0x1D9EB, "aSIGNWRITING MOVEMENT-FLOORPLANE ARM CIRCLE HITTING WALL MEDIUM DOUBLE;gLARGE DOUBLE"),
  (0x1D9ED, "aSIGNWRITING MOVEMENT-WALLPLANE WRIST CIRCLE FRONT SINGLE;fDOUBLE"),
  (0x1D9EF, "aSIGNWRITING MOVEMENT-FLOORPLANE WRIST CIRCLE HITTING WALL SINGLE;gDOUBLE"),
  (0x1D9F1, "aSIGNWRITING MOVEMENT-WALLPLANE FINGER CIRCLES SINGLE;eDOUBLE"),
  (0x1D9F3, "aSIGNWRITING MOVEMENT-FLOORPLANE FINGER CIRCLES HITTING WALL SINGLE;gDOUBLE"),
  (0x1D9F5, "aSIGNWRITING DYNAMIC ARROWHEAD SMALL;dLARGE;cFAST;cSLOW;cTENSE;cRELAXED"),
  (0x1D9FB, "aSIGNWRITING DYNAMIC SIMULTANEOUS;dALTERNATING;cEVERY OTHER TIME;cGRADUAL;bHEAD;cRIM"),
  (0x1DA01, "aSIGNWRITING HEAD MOVEMENT-WALLPLANE STRAIGHT;dTILT;cMOVEMENT-FLOORPLANE STRAIGHT"),
  (0x1DA04, "aSIGNWRITING HEAD MOVEMENT-WALLPLANE CURVE;cMOVEMENT-FLOORPLANE CURVE"),
  (0x1DA06, "aSIGNWRITING HEAD MOVEMENT CIRCLE;bFACE DIRECTION POSITION NOSE FORWARD TILTING"),
  (0x1DA08, "aSIGNWRITING FACE DIRECTION POSITION NOSE UP OR DOWN;iTILTING;bEYEBROWS STRAIGHT UP"),
  (0x1DA0B, "aSIGNWRITING EYEBROWS STRAIGHT NEUTRAL;dDOWN;bDREAMY EYEBROWS NEUTRAL DOWN"),
  (0x1DA0E, "aSIGNWRITING DREAMY EYEBROWS DOWN NEUTRAL;dUP NEUTRAL;dNEUTRAL UP;bFOREHEAD NEUTRAL"),
  (0x1DA12, "aSIGNWRITING FOREHEAD CONTACT;cWRINKLED;bEYES OPEN;cSQUEEZED;cCLOSED"),
  (0x1DA17, "aSIGNWRITING EYE BLINK SINGLE;dMULTIPLE;bEYES HALF OPEN;cWIDE OPEN;cHALF CLOSED"),
  (0x1DA1C, "aSIGNWRITING EYES WIDENING MOVEMENT;bEYE WINK;bEYELASHES UP;cDOWN;cFLUTTERING"),
  (0x1DA21, "aSIGNWRITING EYEGAZE-WALLPLANE STRAIGHT;dDOUBLE;dALTERNATING"),
  (0x1DA24, "aSIGNWRITING EYEGAZE-FLOORPLANE STRAIGHT;dDOUBLE;dALTERNATING"),
  (0x1DA27, "aSIGNWRITING EYEGAZE-WALLPLANE CURVED;bEYEGAZE-FLOORPLANE CURVED"),
  (0x1DA29, "aSIGNWRITING EYEGAZE-WALLPLANE CIRCLING;bCHEEKS PUFFED;cNEUTRAL;cSUCKED"),
  (0x1DA2D, "aSIGNWRITING TENSE CHEEKS HIGH;dMIDDLE;dLOW;bEARS;bNOSE NEUTRAL;cCONTACT;cWRINKLES"),
  (0x1DA34, "aSIGNWRITING NOSE WIGGLES;bAIR BLOWING OUT;cSUCKING IN;cBLOW SMALL ROTATIONS"),
  (0x1DA38, "aSIGNWRITING AIR SUCK SMALL ROTATIONS;bBREATH INHALE;cEXHALE;bMOUTH CLOSED NEUTRAL"),
  (0x1DA3C, "aSIGNWRITING MOUTH CLOSED FORWARD;dCONTACT;cSMILE;dWRINKLED;dOPEN;cFROWN;dWRINKLED"),
  (0x1DA43, "aSIGNWRITING MOUTH FROWN OPEN;cOPEN CIRCLE;dFORWARD;dWRINKLED;dOVAL;eWRINKLED;eYAWN"),
  (0x1DA4A, "aSIGNWRITING MOUTH OPEN RECTANGLE;eWRINKLED;eYAWN;cKISS;dFORWARD;dWRINKLED;cTENSE"),
  (0x1DA51, "aSIGNWRITING MOUTH TENSE FORWARD;dSUCKED;bLIPS PRESSED TOGETHER"),
  (0x1DA54, "aSIGNWRITING LIP LOWER OVER UPPER;cUPPER OVER LOWER;bMOUTH CORNERS;cWRINKLES SINGLE"),
  (0x1DA58, "aSIGNWRITING MOUTH WRINKLES DOUBLE;bTONGUE STICKING OUT FAR;cLICKING LIPS"),
  (0x1DA5B, "aSIGNWRITING TONGUE TIP BETWEEN LIPS;dTOUCHING INSIDE MOUTH;cINSIDE MOUTH RELAXED"),
  (0x1DA5E, "aSIGNWRITING TONGUE MOVES AGAINST CHEEK;cCENTRE STICKING OUT;dINSIDE MOUTH;bTEETH"),
  (0x1DA62, "aSIGNWRITING TEETH MOVEMENT;cON TONGUE;eMOVEMENT;dLIPS;eMOVEMENT;cBITE LIPS"),
  (0x1DA68, "aSIGNWRITING MOVEMENT-WALLPLANE JAW;bMOVEMENT-FLOORPLANE JAW;bNECK;bHAIR;bEXCITEMENT"),
  (0x1DA6D, "aSIGNWRITING SHOULDER HIP SPINE;dPOSITIONS;bWALLPLANE SHOULDER HIP MOVE"),
  (0x1DA70, "aSIGNWRITING FLOORPLANE SHOULDER HIP MOVE;bSHOULDER TILTING FROM WAIST"),
  (0x1DA72, "aSIGNWRITING TORSO-WALLPLANE STRAIGHT STRETCH;cCURVED BEND"),
  (0x1DA74, "aSIGNWRITING TORSO-FLOORPLANE TWISTING;bUPPER BODY TILTING FROM HIP JOINTS"),
  (0x1DA76, "aSIGNWRITING LIMB COMBINATION;cLENGTH-1;cLENGTH-2;cLENGTH-3;cLENGTH-4;cLENGTH-5"),
  (0x1DA7C, "aSIGNWRITING LIMB LENGTH-6;cLENGTH-7;bFINGER;bLOCATION-WALLPLANE SPACE"),
  (0x1DA80, "aSIGNWRITING LOCATION-FLOORPLANE SPACE;bLOCATION HEIGHT;cWIDTH;cDEPTH;cHEAD NECK"),
  (0x1DA85, "aSIGNWRITING LOCATION TORSO;cLIMBS DIGITS;bCOMMA;bFULL STOP;bSEMICOLON;bCOLON"),
  (0x1DA8B, "aSIGNWRITING PARENTHESIS"),
  (0x1DA9B, "aSIGNWRITING FILL MODIFIER-2;cMODIFIER-3;cMODIFIER-4;cMODIFIER-5;cMODIFIER-6"),
  (0x1DAA1, "aSIGNWRITING ROTATION MODIFIER-2;cMODIFIER-3;cMODIFIER-4;cMODIFIER-5;cMODIFIER-6"),
  (0x1DAA6, "aSIGNWRITING ROTATION MODIFIER-7;cMODIFIER-8;cMODIFIER-9;cMODIFIER-10;cMODIFIER-11"),
  (0x1DAAB, "aSIGNWRITING ROTATION MODIFIER-12;cMODIFIER-13;cMODIFIER-14;cMODIFIER-15"),
  (0x1DAAF, "aSIGNWRITING ROTATION MODIFIER-16"),
  (0x1DF00, "aLATIN SMALL LETTER FENG DIGRAPH WITH TRILL;dREVERSED SCRIPT G"),
  (0x1DF02, "aLATIN LETTER SMALL CAPITAL TURNED G;bSMALL LETTER REVERSED K"),
  (0x1DF04, "aLATIN LETTER SMALL CAPITAL L WITH BELT;bSMALL LETTER LEZH WITH RETROFLEX HOOK"),
  (0x1DF06, "aLATIN SMALL LETTER TURNED Y WITH BELT;dREVERSED ENG"),
  (0x1DF08, "aLATIN SMALL LETTER TURNED R WITH LONG LEG AND RETROFLEX HOOK"),
  (0x1DF09, "aLATIN SMALL LETTER T WITH HOOK AND RETROFLEX HOOK"),
  (0x1DF0A, "aLATIN LETTER RETROFLEX CLICK WITH RETROFLEX HOOK;bSMALL LETTER ESH WITH DOUBLE BAR"),
  (0x1DF0C, "aLATIN SMALL LETTER ESH WITH DOUBLE BAR AND CURL;dTURNED T WITH CURL"),
  (0x1DF0E, "aLATIN LETTER INVERTED GLOTTAL STOP WITH CURL;cSTRETCHED C WITH CURL"),
  (0x1DF10, "aLATIN LETTER SMALL CAPITAL TURNED K;bSMALL LETTER L WITH FISHHOOK"),
  (0x1DF12, "aLATIN SMALL LETTER DEZH DIGRAPH WITH PALATAL HOOK;dL WITH BELT AND PALATAL HOOK"),
  (0x1DF14, "aLATIN SMALL LETTER ENG WITH PALATAL HOOK;dTURNED R WITH PALATAL HOOK"),
  (0x1DF16, "aLATIN SMALL LETTER R WITH FISHHOOK AND PALATAL HOOK;dTESH DIGRAPH WITH PALATAL HOOK"),
  (0x1DF18, "aLATIN SMALL LETTER EZH WITH PALATAL HOOK;dDEZH DIGRAPH WITH RETROFLEX HOOK"),
  (0x1DF1A, "aLATIN SMALL LETTER I WITH STROKE AND RETROFLEX HOOK;dO WITH RETROFLEX HOOK"),
  (0x1DF1C, "aLATIN SMALL LETTER TESH DIGRAPH WITH RETROFLEX HOOK;dC WITH RETROFLEX HOOK"),
  (0x1DF1E, "aLATIN SMALL LETTER S WITH CURL"),
  (0x1E000, "aCOMBINING GLAGOLITIC LETTER AZU;dBUKY;dVEDE;dGLAGOLI;dDOBRO;dYESTU;dZHIVETE"),
  (0x1E008, "aCOMBINING GLAGOLITIC LETTER ZEMLJA;dIZHE;dINITIAL IZHE;dI;dDJERVI;dKAKO;dLJUDIJE"),
  (0x1E00F, "aCOMBINING GLAGOLITIC LETTER MYSLITE;dNASHI;dONU;dPOKOJI;dRITSI;dSLOVO;dTVRIDO;dUKU"),
  (0x1E017, "aCOMBINING GLAGOLITIC LETTER FRITU;dHERU"),
  (0x1E01B, "aCOMBINING GLAGOLITIC LETTER SHTA;dTSI;dCHRIVI;dSHA;dYERU;dYERI;dYATI"),
  (0x1E023, "aCOMBINING GLAGOLITIC LETTER YU;dSMALL YUS"),
  (0x1E026, "aCOMBINING GLAGOLITIC LETTER YO;dIOTATED SMALL YUS;dBIG YUS;dIOTATED BIG YUS;dFITA"),
  (0x1E100, "aNYIAKENG PUACHUE HMONG LETTER MA;eTSA;eNTA;eTA;eHA;eNA;eXA;eNKA;eCA;eLA;eSA;eZA"),
  (0x1E10C, "aNYIAKENG PUACHUE HMONG LETTER NCA;eNTSA;eKA;eDA;eNYA;eNRA;eVA;eNTXA;eTXA;eFA;eRA"),
  (0x1E117, "aNYIAKENG PUACHUE HMONG LETTER QA;eYA;eNQA;ePA;eXYA;eNPA;eDLA;eNPLA;eHAH;eMLA;ePLA"),
  (0x1E122, "aNYIAKENG PUACHUE HMONG LETTER GA;eRRA;eA;eAA;eI;eU;eO;eOO;eE;eEE;eW"),
  (0x1E130, "aNYIAKENG PUACHUE HMONG TONE-B;dTONE-M;dTONE-J;dTONE-V;dTONE-S;dTONE-G;dTONE-D"),
  (0x1E137, "aNYIAKENG PUACHUE HMONG SIGN FOR PERSON;fTHING;fLOCATION;fANIMAL;fINVERTEBRATE"),
  (0x1E13C, "aNYIAKENG PUACHUE HMONG SIGN XW XW;dSYLLABLE LENGTHENER"),
  (0x1E140, "aNYIAKENG PUACHUE HMONG DIGIT ZERO;eONE;eTWO;eTHREE;eFOUR;eFIVE;eSIX;eSEVEN;eEIGHT"),
  (0x1E149, "aNYIAKENG PUACHUE HMONG DIGIT NINE"),
  (0x1E14E, "aNYIAKENG PUACHUE HMONG LOGOGRAM NYAJ;dCIRCLED CA"),
  (0x1E290, "aTOTO LETTER PA;cBA;cTA;cDA;cKA;cGA;cMA;cNA;cNGA;cSA;cCHA;cYA;cWA;cJA;cHA;cRA;cLA;cI"),
  (0x1E2A2, "aTOTO LETTER BREATHY I;cIU;cBREATHY IU;cU;cE;cBREATHY E;cEO;cBREATHY EO;cO;cAE"),
  (0x1E2AC, "aTOTO LETTER BREATHY AE;cA;bSIGN RISING TONE"),
  (0x1E2C0, "aWANCHO LETTER AA;cA;cBA;cCA;cDA;cGA;cYA;cPHA;cLA;cNA;cPA;cTA;cTHA;cFA;cSA;cSHA;cJA"),
  (0x1E2D1, "aWANCHO LETTER ZA;cWA;cVA;cKA;cO;cAU;cRA;cMA;cKHA;cHA;cE;cI;cNGA;cU;cLLHA;cTSA;cTRA"),
  (0x1E2E2, "aWANCHO LETTER ONG;cAANG;cANG;cING;cON;cEN;cAAN;cNYA;cUEN;cYIH;bTONE TUP;cTUPNI;cKOI"),
  (0x1E2EF, "aWANCHO TONE KOINI;bDIGIT ZERO;cONE;cTWO;cTHREE;cFOUR;cFIVE;cSIX;cSEVEN;cEIGHT;cNINE"),
  (0x1E2FF, "aWANCHO NGUN SIGN"),
  (0x1E7E0, "aETHIOPIC SYLLABLE HHYA;cHHYU;cHHYI;cHHYAA;cHHYEE;cHHYE;cHHYO"),
  (0x1E7E8, "aETHIOPIC SYLLABLE GURAGE HHWA;cHHWI;cHHWEE;cHHWE"),
  (0x1E7ED, "aETHIOPIC SYLLABLE GURAGE MWI;dMWEE"),
  (0x1E7F0, "aETHIOPIC SYLLABLE GURAGE QWI;dQWEE;dQWE;dBWI;dBWEE;dKWI;dKWEE;dKWE;dGWI;dGWEE;dGWE"),
  (0x1E7FB, "aETHIOPIC SYLLABLE GURAGE FWI;dFWEE;dPWI;dPWEE"),
  (0x1E800, "aMENDE KIKAKUI SYLLABLE M001 KI;dM002 KA;dM003 KU;dM065 KEE;dM095 KE;dM076 KOO"),
  (0x1E806, "aMENDE KIKAKUI SYLLABLE M048 KO;dM179 KUA;dM004 WI;dM005 WA;dM006 WU;dM126 WEE"),
  (0x1E80C, "aMENDE KIKAKUI SYLLABLE M118 WE;dM114 WOO;dM045 WO;dM194 WUI;dM143 WEI;dM061 WVI"),
  (0x1E812, "aMENDE KIKAKUI SYLLABLE M049 WVA;dM139 WVE;dM007 MIN;dM008 MAN;dM009 MUN;dM059 MEN"),
  (0x1E818, "aMENDE KIKAKUI SYLLABLE M094 MON;dM154 MUAN;dM189 MUEN;dM010 BI;dM011 BA;dM012 BU"),
  (0x1E81E, "aMENDE KIKAKUI SYLLABLE M150 BEE;dM097 BE;dM103 BOO;dM138 BO;dM013 I;dM014 A;dM015 U"),
  (0x1E825, "aMENDE KIKAKUI SYLLABLE M163 EE;dM100 E;dM165 OO;dM147 O;dM137 EI;dM131 IN;dM135 IN"),
  (0x1E82C, "aMENDE KIKAKUI SYLLABLE M195 AN;dM178 EN;dM019 SI;dM020 SA;dM021 SU;dM162 SEE"),
  (0x1E832, "aMENDE KIKAKUI SYLLABLE M116 SE;dM136 SOO;dM079 SO;dM196 SIA;dM025 LI;dM026 LA"),
  (0x1E838, "aMENDE KIKAKUI SYLLABLE M027 LU;dM084 LEE;dM073 LE;dM054 LOO;dM153 LO;dM110 LONG LE"),
  (0x1E83E, "aMENDE KIKAKUI SYLLABLE M016 DI;dM017 DA;dM018 DU;dM089 DEE;dM180 DOO;dM181 DO"),
  (0x1E844, "aMENDE KIKAKUI SYLLABLE M022 TI;dM023 TA;dM024 TU;dM091 TEE;dM055 TE;dM104 TOO"),
  (0x1E84A, "aMENDE KIKAKUI SYLLABLE M069 TO;dM028 JI;dM029 JA;dM030 JU;dM157 JEE;dM113 JE"),
  (0x1E850, "aMENDE KIKAKUI SYLLABLE M160 JOO;dM063 JO;dM175 LONG JO;dM031 YI;dM032 YA;dM033 YU"),
  (0x1E856, "aMENDE KIKAKUI SYLLABLE M109 YEE;dM080 YE;dM141 YOO;dM121 YO;dM034 FI;dM035 FA"),
  (0x1E85C, "aMENDE KIKAKUI SYLLABLE M036 FU;dM078 FEE;dM075 FE;dM133 FOO;dM088 FO;dM197 FUA"),
  (0x1E862, "aMENDE KIKAKUI SYLLABLE M101 FAN;dM037 NIN;dM038 NAN;dM039 NUN;dM117 NEN;dM169 NON"),
  (0x1E868, "aMENDE KIKAKUI SYLLABLE M176 HI;dM041 HA;dM186 HU;dM040 HEE;dM096 HE;dM042 HOO"),
  (0x1E86E, "aMENDE KIKAKUI SYLLABLE M140 HO;dM083 HEEI;dM128 HOOU;dM053 HIN;dM130 HAN;dM087 HUN"),
  (0x1E874, "aMENDE KIKAKUI SYLLABLE M052 HEN;dM193 HON;dM046 HUAN;dM090 NGGI;dM043 NGGA"),
  (0x1E879, "aMENDE KIKAKUI SYLLABLE M082 NGGU;dM115 NGGEE;dM146 NGGE;dM156 NGGOO;dM120 NGGO"),
  (0x1E87E, "aMENDE KIKAKUI SYLLABLE M159 NGGAA;dM127 NGGUA;dM086 LONG NGGE;dM106 LONG NGGOO"),
  (0x1E882, "aMENDE KIKAKUI SYLLABLE M183 LONG NGGO;dM155 GI;dM111 GA;dM168 GU;dM190 GEE"),
  (0x1E887, "aMENDE KIKAKUI SYLLABLE M166 GUEI;dM167 GUAN;dM184 NGEN;dM057 NGON;dM177 NGUAN"),
  (0x1E88C, "aMENDE KIKAKUI SYLLABLE M068 PI;dM099 PA;dM050 PU;dM081 PEE;dM051 PE;dM102 POO"),
  (0x1E892, "aMENDE KIKAKUI SYLLABLE M066 PO;dM145 MBI;dM062 MBA;dM122 MBU;dM047 MBEE;dM188 MBEE"),
  (0x1E898, "aMENDE KIKAKUI SYLLABLE M072 MBE;dM172 MBOO;dM174 MBO;dM187 MBUU;dM161 LONG MBE"),
  (0x1E89D, "aMENDE KIKAKUI SYLLABLE M105 LONG MBOO;dM142 LONG MBO;dM132 KPI;dM092 KPA;dM074 KPU"),
  (0x1E8A2, "aMENDE KIKAKUI SYLLABLE M044 KPEE;dM108 KPE;dM112 KPOO;dM158 KPO;dM124 GBI;dM056 GBA"),
  (0x1E8A8, "aMENDE KIKAKUI SYLLABLE M148 GBU;dM093 GBEE;dM107 GBE;dM071 GBOO;dM070 GBO;dM171 RA"),
  (0x1E8AE, "aMENDE KIKAKUI SYLLABLE M123 NDI;dM129 NDA;dM125 NDU;dM191 NDEE;dM119 NDE;dM067 NDOO"),
  (0x1E8B4, "aMENDE KIKAKUI SYLLABLE M064 NDO;dM152 NJA;dM192 NJU;dM149 NJEE;dM134 NJOO;dM182 VI"),
  (0x1E8BA, "aMENDE KIKAKUI SYLLABLE M185 VA;dM151 VU;dM173 VEE;dM085 VE;dM144 VOO;dM077 VO"),
  (0x1E8C0, "aMENDE KIKAKUI SYLLABLE M164 NYIN;dM058 NYAN;dM170 NYUN;dM098 NYEN;dM060 NYON"),
  (0x1E8C7, "aMENDE KIKAKUI DIGIT ONE;dTWO;dTHREE;dFOUR;dFIVE;dSIX;dSEVEN;dEIGHT;dNINE"),
  (0x1E8D0, "aMENDE KIKAKUI COMBINING NUMBER TEENS;eTENS;eHUNDREDS;eTHOUSANDS;eTEN THOUSANDS"),
  (0x1E8D5, "aMENDE KIKAKUI COMBINING NUMBER HUNDRED THOUSANDS;eMILLIONS"),
  (0x1E900, "aADLAM CAPITAL LETTER ALIF;dDAALI;dLAAM;dMIIM;dBA;dSINNYIIYHE;dPE;dBHE;dRA;dE;dFA;dI"),
  (0x1E90C, "aADLAM CAPITAL LETTER O;dDHA;dYHE;dWAW;dNUN;dKAF;dYA;dU;dJIIM;dCHI;dHA;dQAAF;dGA"),
  (0x1E919, "aADLAM CAPITAL LETTER NYA;dTU;dNHA;dVA;dKHA;dGBE;dZAL;dKPO;dSHA;bSMALL LETTER ALIF"),
  (0x1E923, "aADLAM SMALL LETTER DAALI;dLAAM;dMIIM;dBA;dSINNYIIYHE;dPE;dBHE;dRA;dE;dFA;dI;dO;dDHA"),
  (0x1E930, "aADLAM SMALL LETTER YHE;dWAW;dNUN;dKAF;dYA;dU;dJIIM;dCHI;dHA;dQAAF;dGA;dNYA;dTU;dNHA"),
  (0x1E93E, "aADLAM SMALL LETTER VA;dKHA;dGBE;dZAL;dKPO;dSHA;bALIF LENGTHENER;bVOWEL LENGTHENER"),
  (0x1E946, "aADLAM GEMINATION MARK;bHAMZA;bCONSONANT MODIFIER;bGEMINATE CONSONANT MODIFIER"),
  (0x1E94A, "aADLAM NUKTA;bNASALIZATION MARK"),
  (0x1E950, "aADLAM DIGIT ZERO;cONE;cTWO;cTHREE;cFOUR;cFIVE;cSIX;cSEVEN;cEIGHT;cNINE"),
  (0x1E95E, "aADLAM INITIAL EXCLAMATION MARK;cQUESTION MARK"),
  (0x1EC71, "aINDIC SIYAQ NUMBER ONE;dTWO;dTHREE;dFOUR;dFIVE;dSIX;dSEVEN;dEIGHT;dNINE;dTEN"),
  (0x1EC7B, "aINDIC SIYAQ NUMBER TWENTY;dTHIRTY;dFORTY;dFIFTY;dSIXTY;dSEVENTY;dEIGHTY;dNINETY"),
  (0x1EC83, "aINDIC SIYAQ NUMBER ONE HUNDRED;dTWO HUNDRED;dTHREE HUNDRED;dFOUR HUNDRED"),
  (0x1EC87, "aINDIC SIYAQ NUMBER FIVE HUNDRED;dSIX HUNDRED;dSEVEN HUNDRED;dEIGHT HUNDRED"),
  (0x1EC8B, "aINDIC SIYAQ NUMBER NINE HUNDRED;dONE THOUSAND;dTWO THOUSAND;dTHREE THOUSAND"),
  (0x1EC8F, "aINDIC SIYAQ NUMBER FOUR THOUSAND;dFIVE THOUSAND;dSIX THOUSAND;dSEVEN THOUSAND"),
  (0x1EC93, "aINDIC SIYAQ NUMBER EIGHT THOUSAND;dNINE THOUSAND;dTEN THOUSAND;dTWENTY THOUSAND"),
  (0x1EC97, "aINDIC SIYAQ NUMBER THIRTY THOUSAND;dFORTY THOUSAND;dFIFTY THOUSAND;dSIXTY THOUSAND"),
  (0x1EC9B, "aINDIC SIYAQ NUMBER SEVENTY THOUSAND;dEIGHTY THOUSAND;dNINETY THOUSAND;dLAKH;dLAKHAN"),
  (0x1ECA0, "aINDIC SIYAQ LAKH MARK;cNUMBER KAROR;dKARORAN;dPREFIXED ONE;eTWO;eTHREE;eFOUR;eFIVE"),
  (0x1ECA8, "aINDIC SIYAQ NUMBER PREFIXED SIX;eSEVEN;eEIGHT;eNINE;cPLACEHOLDER"),
  (0x1ECAD, "aINDIC SIYAQ FRACTION ONE QUARTER;eHALF;dTHREE QUARTERS;cRUPEE MARK"),
  (0x1ECB1, "aINDIC SIYAQ NUMBER ALTERNATE ONE;eTWO;eTEN THOUSAND;cALTERNATE LAKH MARK"),
  (0x1ED01, "aOTTOMAN SIYAQ NUMBER ONE;dTWO;dTHREE;dFOUR;dFIVE;dSIX;dSEVEN;dEIGHT;dNINE;dTEN"),
  (0x1ED0B, "aOTTOMAN SIYAQ NUMBER TWENTY;dTHIRTY;dFORTY;dFIFTY;dSIXTY;dSEVENTY;dEIGHTY;dNINETY"),
  (0x1ED13, "aOTTOMAN SIYAQ NUMBER ONE HUNDRED;dTWO HUNDRED;dTHREE HUNDRED;dFOUR HUNDRED"),
  (0x1ED17, "aOTTOMAN SIYAQ NUMBER FIVE HUNDRED;dSIX HUNDRED;dSEVEN HUNDRED;dEIGHT HUNDRED"),
  (0x1ED1B, "aOTTOMAN SIYAQ NUMBER NINE HUNDRED;dONE THOUSAND;dTWO THOUSAND;dTHREE THOUSAND"),
  (0x1ED1F, "aOTTOMAN SIYAQ NUMBER FOUR THOUSAND;dFIVE THOUSAND;dSIX THOUSAND;dSEVEN THOUSAND"),
  (0x1ED23, "aOTTOMAN SIYAQ NUMBER EIGHT THOUSAND;dNINE THOUSAND;dTEN THOUSAND;dTWENTY THOUSAND"),
  (0x1ED27, "aOTTOMAN SIYAQ NUMBER THIRTY THOUSAND;dFORTY THOUSAND;dFIFTY THOUSAND"),
  (0x1ED2A, "aOTTOMAN SIYAQ NUMBER SIXTY THOUSAND;dSEVENTY THOUSAND;dEIGHTY THOUSAND"),
  (0x1ED2D, "aOTTOMAN SIYAQ NUMBER NINETY THOUSAND;cMARRATAN;cALTERNATE NUMBER TWO;eTHREE;eFOUR"),
  (0x1ED32, "aOTTOMAN SIYAQ ALTERNATE NUMBER FIVE;eSIX;eSEVEN;eEIGHT;eNINE;eTEN;eFOUR HUNDRED"),
  (0x1ED39, "aOTTOMAN SIYAQ ALTERNATE NUMBER SIX HUNDRED;eTWO THOUSAND;eTEN THOUSAND"),
  (0x1ED3C, "aOTTOMAN SIYAQ FRACTION ONE HALF;eSIXTH"),
  (0x1EE00, "aARABIC MATHEMATICAL ALEF;cBEH;cJEEM;cDAL"),
  (0x1EE05, "aARABIC MATHEMATICAL WAW;cZAIN;cHAH;cTAH;cYEH;cKAF;cLAM;cMEEM;cNOON;cSEEN;cAIN;cFEH"),
  (0x1EE11, "aARABIC MATHEMATICAL SAD;cQAF;cREH;cSHEEN;cTEH;cTHEH;cKHAH;cTHAL;cDAD;cZAH;cGHAIN"),
  (0x1EE1C, "aARABIC MATHEMATICAL DOTLESS BEH;dNOON;dFEH;dQAF"),
  (0x1EE21, "aARABIC MATHEMATICAL INITIAL BEH;dJEEM"),
  (0x1EE24, "aARABIC MATHEMATICAL INITIAL HEH"),
  (0x1EE27, "aARABIC MATHEMATICAL INITIAL HAH"),
  (0x1EE29, "aARABIC MATHEMATICAL INITIAL YEH;dKAF;dLAM;dMEEM;dNOON;dSEEN;dAIN;dFEH;dSAD;dQAF")]

/-- The lines of names from U+1EE34 on. -/
def namesFrom1EE34 : List (Nat × String) := [
  (0x1EE34, "aARABIC MATHEMATICAL INITIAL SHEEN;dTEH;dTHEH;dKHAH"),
  (0x1EE39, "aARABIC MATHEMATICAL INITIAL DAD"),
  (0x1EE3B, "aARABIC MATHEMATICAL INITIAL GHAIN"),
  (0x1EE42, "aARABIC MATHEMATICAL TAILED JEEM"),
  (0x1EE47, "aARABIC MATHEMATICAL TAILED HAH"),
  (0x1EE49, "aARABIC MATHEMATICAL TAILED YEH"),
  (0x1EE4B, "aARABIC MATHEMATICAL TAILED LAM"),
  (0x1EE4D, "aARABIC MATHEMATICAL TAILED NOON;dSEEN;dAIN"),
  (0x1EE51, "aARABIC MATHEMATICAL TAILED SAD;dQAF"),
  (0x1EE54, "aARABIC MATHEMATICAL TAILED SHEEN"),
  (0x1EE57, "aARABIC MATHEMATICAL TAILED KHAH"),
  (0x1EE59, "aARABIC MATHEMATICAL TAILED DAD"),
  (0x1EE5B, "aARABIC MATHEMATICAL TAILED GHAIN"),
  (0x1EE5D, "aARABIC MATHEMATICAL TAILED DOTLESS NOON"),
  (0x1EE5F, "aARABIC MATHEMATICAL TAILED DOTLESS QAF"),
  (0x1EE61, "aARABIC MATHEMATICAL STRETCHED BEH;dJEEM"),
  (0x1EE64, "aARABIC MATHEMATICAL STRETCHED HEH"),
  (0x1EE67, "aARABIC MATHEMATICAL STRETCHED HAH;dTAH;dYEH;dKAF"),
  (0x1EE6C, "aARABIC MATHEMATICAL STRETCHED MEEM;dNOON;dSEEN;dAIN;dFEH;dSAD;dQAF"),
  (0x1EE74, "aARABIC MATHEMATICAL STRETCHED SHEEN;dTEH;dTHEH;dKHAH"),
  (0x1EE79, "aARABIC MATHEMATICAL STRETCHED DAD;dZAH;dGHAIN;dDOTLESS BEH"),
  (0x1EE7E, "aARABIC MATHEMATICAL STRETCHED DOTLESS FEH"),
  (0x1EE80, "aARABIC MATHEMATICAL LOOPED ALEF;dBEH;dJEEM;dDAL;dHEH;dWAW;dZAIN;dHAH;dTAH;dYEH"),
  (0x1EE8B, "aARABIC MATHEMATICAL LOOPED LAM;dMEEM;dNOON;dSEEN;dAIN;dFEH;dSAD;dQAF;dREH;dSHEEN"),
  (0x1EE95, "aARABIC MATHEMATICAL LOOPED TEH;dTHEH;dKHAH;dTHAL;dDAD;dZAH;dGHAIN"),
  (0x1EEA1, "aARABIC MATHEMATICAL DOUBLE-STRUCK BEH;dJEEM;dDAL"),
  (0x1EEA5, "aARABIC MATHEMATICAL DOUBLE-STRUCK WAW;dZAIN;dHAH;dTAH;dYEH"),
  (0x1EEAB, "aARABIC MATHEMATICAL DOUBLE-STRUCK LAM;dMEEM;dNOON;dSEEN;dAIN;dFEH;dSAD;dQAF;dREH"),
  (0x1EEB4, "aARABIC MATHEMATICAL DOUBLE-STRUCK SHEEN;dTEH;dTHEH;dKHAH;dTHAL;dDAD;dZAH;dGHAIN"),
  (0x1EEF0, "aARABIC MATHEMATICAL OPERATOR MEEM WITH HAH WITH TATWEEL;dHAH WITH DAL"),
  (0x1F000, "aMAHJONG TILE EAST WIND;cSOUTH WIND;cWEST WIND;cNORTH WIND;cRED DRAGON;cGREEN DRAGON"),
  (0x1F006, "aMAHJONG TILE WHITE DRAGON;cONE OF CHARACTERS;cTWO OF CHARACTERS"),
  (0x1F009, "aMAHJONG TILE THREE OF CHARACTERS;cFOUR OF CHARACTERS;cFIVE OF CHARACTERS"),
  (0x1F00C, "aMAHJONG TILE SIX OF CHARACTERS;cSEVEN OF CHARACTERS;cEIGHT OF CHARACTERS"),
  (0x1F00F, "aMAHJONG TILE NINE OF CHARACTERS;cONE OF BAMBOOS;cTWO OF BAMBOOS;cTHREE OF BAMBOOS"),
  (0x1F013, "aMAHJONG TILE FOUR OF BAMBOOS;cFIVE OF BAMBOOS;cSIX OF BAMBOOS;cSEVEN OF BAMBOOS"),
  (0x1F017, "aMAHJONG TILE EIGHT OF BAMBOOS;cNINE OF BAMBOOS;cONE OF CIRCLES;cTWO OF CIRCLES"),
  (0x1F01B, "aMAHJONG TILE THREE OF CIRCLES;cFOUR OF CIRCLES;cFIVE OF CIRCLES;cSIX OF CIRCLES"),
  (0x1F01F, "aMAHJONG TILE SEVEN OF CIRCLES;cEIGHT OF CIRCLES;cNINE OF CIRCLES;cPLUM;cORCHID"),
  (0x1F024, "aMAHJONG TILE BAMBOO;cCHRYSANTHEMUM;cSPRING;cSUMMER;cAUTUMN;cWINTER;cJOKER;cBACK"),
  (0x1F030, "aDOMINO TILE HORIZONTAL BACK;cHORIZONTAL-00-00;cHORIZONTAL-00-01;cHORIZONTAL-00-02"),
  (0x1F034, "aDOMINO TILE HORIZONTAL-00-03;cHORIZONTAL-00-04;cHORIZONTAL-00-05;cHORIZONTAL-00-06"),
  (0x1F038, "aDOMINO TILE HORIZONTAL-01-00;cHORIZONTAL-01-01;cHORIZONTAL-01-02;cHORIZONTAL-01-03"),
  (0x1F03C, "aDOMINO TILE HORIZONTAL-01-04;cHORIZONTAL-01-05;cHORIZONTAL-01-06;cHORIZONTAL-02-00"),
  (0x1F040, "aDOMINO TILE HORIZONTAL-02-01;cHORIZONTAL-02-02;cHORIZONTAL-02-03;cHORIZONTAL-02-04"),
  (0x1F044, "aDOMINO TILE HORIZONTAL-02-05;cHORIZONTAL-02-06;cHORIZONTAL-03-00;cHORIZONTAL-03-01"),
  (0x1F048, "aDOMINO TILE HORIZONTAL-03-02;cHORIZONTAL-03-03;cHORIZONTAL-03-04;cHORIZONTAL-03-05"),
  (0x1F04C, "aDOMINO TILE HORIZONTAL-03-06;cHORIZONTAL-04-00;cHORIZONTAL-04-01;cHORIZONTAL-04-02"),
  (0x1F050, "aDOMINO TILE HORIZONTAL-04-03;cHORIZONTAL-04-04;cHORIZONTAL-04-05;cHORIZONTAL-04-06"),
  (0x1F054, "aDOMINO TILE HORIZONTAL-05-00;cHORIZONTAL-05-01;cHORIZONTAL-05-02;cHORIZONTAL-05-03"),
  (0x1F058, "aDOMINO TILE HORIZONTAL-05-04;cHORIZONTAL-05-05;cHORIZONTAL-05-06;cHORIZONTAL-06-00"),
  (0x1F05C, "aDOMINO TILE HORIZONTAL-06-01;cHORIZONTAL-06-02;cHORIZONTAL-06-03;cHORIZONTAL-06-04"),
  (0x1F060, "aDOMINO TILE HORIZONTAL-06-05;cHORIZONTAL-06-06;cVERTICAL BACK;cVERTICAL-00-00"),
  (0x1F064, "aDOMINO TILE VERTICAL-00-01;cVERTICAL-00-02;cVERTICAL-00-03;cVERTICAL-00-04"),
  (0x1F068, "aDOMINO TILE VERTICAL-00-05;cVERTICAL-00-06;cVERTICAL-01-00;cVERTICAL-01-01"),
  (0x1F06C, "aDOMINO TILE VERTICAL-01-02;cVERTICAL-01-03;cVERTICAL-01-04;cVERTICAL-01-05"),
  (0x1F070, "aDOMINO TILE VERTICAL-01-06;cVERTICAL-02-00;cVERTICAL-02-01;cVERTICAL-02-02"),
  (0x1F074, "aDOMINO TILE VERTICAL-02-03;cVERTICAL-02-04;cVERTICAL-02-05;cVERTICAL-02-06"),
  (0x1F078, "aDOMINO TILE VERTICAL-03-00;cVERTICAL-03-01;cVERTICAL-03-02;cVERTICAL-03-03"),
  (0x1F07C, "aDOMINO TILE VERTICAL-03-04;cVERTICAL-03-05;cVERTICAL-03-06;cVERTICAL-04-00"),
  (0x1F080, "aDOMINO TILE VERTICAL-04-01;cVERTICAL-04-02;cVERTICAL-04-03;cVERTICAL-04-04"),
  (0x1F084, "aDOMINO TILE VERTICAL-04-05;cVERTICAL-04-06;cVERTICAL-05-00;cVERTICAL-05-01"),
  (0x1F088, "aDOMINO TILE VERTICAL-05-02;cVERTICAL-05-03;cVERTICAL-05-04;cVERTICAL-05-05"),
  (0x1F08C, "aDOMINO TILE VERTICAL-05-06;cVERTICAL-06-00;cVERTICAL-06-01;cVERTICAL-06-02"),
  (0x1F090, "aDOMINO TILE VERTICAL-06-03;cVERTICAL-06-04;cVERTICAL-06-05;cVERTICAL-06-06"),
  (0x1F0A0, "aPLAYING CARD BACK;cACE OF SPADES;cTWO OF SPADES;cTHREE OF SPADES;cFOUR OF SPADES"),
  (0x1F0A5, "aPLAYING CARD FIVE OF SPADES;cSIX OF SPADES;cSEVEN OF SPADES;cEIGHT OF SPADES"),
  (0x1F0A9, "aPLAYING CARD NINE OF SPADES;cTEN OF SPADES;cJACK OF SPADES;cKNIGHT OF SPADES"),
  (0x1F0AD, "aPLAYING CARD QUEEN OF SPADES;cKING OF SPADES"),
  (0x1F0B1, "aPLAYING CARD ACE OF HEARTS;cTWO OF HEARTS;cTHREE OF HEARTS;cFOUR OF HEARTS"),
  (0x1F0B5, "aPLAYING CARD FIVE OF HEARTS;cSIX OF HEARTS;cSEVEN OF HEARTS;cEIGHT OF HEARTS"),
  (0x1F0B9, "aPLAYING CARD NINE OF HEARTS;cTEN OF HEARTS;cJACK OF HEARTS;cKNIGHT OF HEARTS"),
  (0x1F0BD, "aPLAYING CARD QUEEN OF HEARTS;cKING OF HEARTS;cRED JOKER"),
  (0x1F0C1, "aPLAYING CARD ACE OF DIAMONDS;cTWO OF DIAMONDS;cTHREE OF DIAMONDS;cFOUR OF DIAMONDS"),
  (0x1F0C5, "aPLAYING CARD FIVE OF DIAMONDS;cSIX OF DIAMONDS;cSEVEN OF DIAMONDS"),
  (0x1F0C8, "aPLAYING CARD EIGHT OF DIAMONDS;cNINE OF DIAMONDS;cTEN OF DIAMONDS;cJACK OF DIAMONDS"),
  (0x1F0CC, "aPLAYING CARD KNIGHT OF DIAMONDS;cQUEEN OF DIAMONDS;cKING OF DIAMONDS;cBLACK JOKER"),
  (0x1F0D1, "aPLAYING CARD ACE OF CLUBS;cTWO OF CLUBS;cTHREE OF CLUBS;cFOUR OF CLUBS"),
  (0x1F0D5, "aPLAYING CARD FIVE OF CLUBS;cSIX OF CLUBS;cSEVEN OF CLUBS;cEIGHT OF CLUBS"),
  (0x1F0D9, "aPLAYING CARD NINE OF CLUBS;cTEN OF CLUBS;cJACK OF CLUBS;cKNIGHT OF CLUBS"),
  (0x1F0DD, "aPLAYING CARD QUEEN OF CLUBS;cKING OF CLUBS;cWHITE JOKER;cFOOL;cTRUMP-1;cTRUMP-2"),
  (0x1F0E3, "aPLAYING CARD TRUMP-3;cTRUMP-4;cTRUMP-5;cTRUMP-6;cTRUMP-7;cTRUMP-8;cTRUMP-9"),
  (0x1F0EA, "aPLAYING CARD TRUMP-10;cTRUMP-11;cTRUMP-12;cTRUMP-13;cTRUMP-14;cTRUMP-15;cTRUMP-16"),
  (0x1F0F1, "aPLAYING CARD TRUMP-17;cTRUMP-18;cTRUMP-19;cTRUMP-20;cTRUMP-21"),
  (0x1F100, "aDIGIT ZERO FULL STOP;cCOMMA;bONE COMMA;bTWO COMMA;bTHREE COMMA;bFOUR COMMA"),
  (0x1F106, "aDIGIT FIVE COMMA;bSIX COMMA;bSEVEN COMMA;bEIGHT COMMA;bNINE COMMA"),
  (0x1F10B, "aDINGBAT CIRCLED SANS-SERIF DIGIT ZERO;bNEGATIVE CIRCLED SANS-SERIF DIGIT ZERO"),
  (0x1F10D, "aCIRCLED ZERO WITH SLASH;bANTICLOCKWISE ARROW;bDOLLAR SIGN WITH OVERLAID BACKSLASH"),
  (0x1F110, "aPARENTHESIZED LATIN CAPITAL LETTER A;eB;eC;eD;eE;eF;eG;eH;eI;eJ;eK;eL;eM;eN;eO;eP"),
  (0x1F120, "aPARENTHESIZED LATIN CAPITAL LETTER Q;eR;eS;eT;eU;eV;eW;eX;eY;eZ"),
  (0x1F12A, "aTORTOISE SHELL BRACKETED LATIN CAPITAL LETTER S"),
  (0x1F12B, "aCIRCLED ITALIC LATIN CAPITAL LETTER C;fR;bCD;bWZ;aCOPYLEFT SYMBOL"),
  (0x1F130, "aSQUARED LATIN CAPITAL LETTER A;eB;eC;eD;eE;eF;eG;eH;eI;eJ;eK;eL;eM;eN;eO;eP;eQ;eR"),
  (0x1F142, "aSQUARED LATIN CAPITAL LETTER S;eT;eU;eV;eW;eX;eY;eZ;bHV;bMV;bSD;bSS;bPPV;bWC"),
  (0x1F150, "aNEGATIVE CIRCLED LATIN CAPITAL LETTER A;fB;fC;fD;fE;fF;fG;fH;fI;fJ;fK;fL;fM;fN;fO"),
  (0x1F15F, "aNEGATIVE CIRCLED LATIN CAPITAL LETTER P;fQ;fR;fS;fT;fU;fV;fW;fX;fY;fZ"),
  (0x1F16A, "aRAISED MC SIGN;bMD SIGN;bMR SIGN;aCIRCLED CC;bC WITH OVERLAID BACKSLASH"),
  (0x1F16F, "aCIRCLED HUMAN FIGURE;aNEGATIVE SQUARED LATIN CAPITAL LETTER A;fB;fC;fD;fE;fF;fG;fH"),
  (0x1F178, "aNEGATIVE SQUARED LATIN CAPITAL LETTER I;fJ;fK;fL;fM;fN;fO;fP;fQ;fR;fS;fT;fU;fV;fW"),
  (0x1F187, "aNEGATIVE SQUARED LATIN CAPITAL LETTER X;fY;fZ"),
  (0x1F18A, "aCROSSED NEGATIVE SQUARED LATIN CAPITAL LETTER P;aNEGATIVE SQUARED IC;cPA;cSA;cAB"),
  (0x1F18F, "aNEGATIVE SQUARED WC;aSQUARE DJ;aSQUARED CL;bCOOL;bFREE;bID;bNEW;bNG;bOK;bSOS"),
  (0x1F199, "aSQUARED UP WITH EXCLAMATION MARK;bVS;bTHREE D;bSECOND SCREEN;bTWO K;bFOUR K"),
  (0x1F19F, "aSQUARED EIGHT K;bFIVE POINT ONE;bSEVEN POINT ONE;bTWENTY-TWO POINT TWO;bSIXTY P"),
  (0x1F1A4, "aSQUARED ONE HUNDRED TWENTY P;bLATIN SMALL LETTER D;bHC;bHDR;bHI-RES;bLOSSLESS;bSHV"),
  (0x1F1AB, "aSQUARED UHD;bVOD;aMASK WORK SYMBOL"),
  (0x1F1E6, "aREGIONAL INDICATOR SYMBOL LETTER A;eB;eC;eD;eE;eF;eG;eH;eI;eJ;eK;eL;eM;eN;eO;eP;eQ"),
  (0x1F1F7, "aREGIONAL INDICATOR SYMBOL LETTER R;eS;eT;eU;eV;eW;eX;eY;eZ;aSQUARE HIRAGANA HOKA"),
  (0x1F201, "aSQUARED KATAKANA KOKO;cSA"),
  (0x1F210, "aSQUARED CJK UNIFIED IDEOGRAPH-624B;dIDEOGRAPH-5B57;dIDEOGRAPH-53CC;bKATAKANA DE"),
  (0x1F214, "aSQUARED CJK UNIFIED IDEOGRAPH-4E8C;dIDEOGRAPH-591A;dIDEOGRAPH-89E3;dIDEOGRAPH-5929"),
  (0x1F218, "aSQUARED CJK UNIFIED IDEOGRAPH-4EA4;dIDEOGRAPH-6620;dIDEOGRAPH-7121;dIDEOGRAPH-6599"),
  (0x1F21C, "aSQUARED CJK UNIFIED IDEOGRAPH-524D;dIDEOGRAPH-5F8C;dIDEOGRAPH-518D;dIDEOGRAPH-65B0"),
  (0x1F220, "aSQUARED CJK UNIFIED IDEOGRAPH-521D;dIDEOGRAPH-7D42;dIDEOGRAPH-751F;dIDEOGRAPH-8CA9"),
  (0x1F224, "aSQUARED CJK UNIFIED IDEOGRAPH-58F0;dIDEOGRAPH-5439;dIDEOGRAPH-6F14;dIDEOGRAPH-6295"),
  (0x1F228, "aSQUARED CJK UNIFIED IDEOGRAPH-6355;dIDEOGRAPH-4E00;dIDEOGRAPH-4E09;dIDEOGRAPH-904A"),
  (0x1F22C, "aSQUARED CJK UNIFIED IDEOGRAPH-5DE6;dIDEOGRAPH-4E2D;dIDEOGRAPH-53F3;dIDEOGRAPH-6307"),
  (0x1F230, "aSQUARED CJK UNIFIED IDEOGRAPH-8D70;dIDEOGRAPH-6253;dIDEOGRAPH-7981;dIDEOGRAPH-7A7A"),
  (0x1F234, "aSQUARED CJK UNIFIED IDEOGRAPH-5408;dIDEOGRAPH-6E80;dIDEOGRAPH-6709;dIDEOGRAPH-6708"),
  (0x1F238, "aSQUARED CJK UNIFIED IDEOGRAPH-7533;dIDEOGRAPH-5272;dIDEOGRAPH-55B6;dIDEOGRAPH-914D"),
  (0x1F240, "aTORTOISE SHELL BRACKETED CJK UNIFIED IDEOGRAPH-672C;fIDEOGRAPH-4E09;fIDEOGRAPH-4E8C"),
  (0x1F243, "aTORTOISE SHELL BRACKETED CJK UNIFIED IDEOGRAPH-5B89;fIDEOGRAPH-70B9;fIDEOGRAPH-6253"),
  (0x1F246, "aTORTOISE SHELL BRACKETED CJK UNIFIED IDEOGRAPH-76D7;fIDEOGRAPH-52DD;fIDEOGRAPH-6557"),
  (0x1F250, "aCIRCLED IDEOGRAPH ADVANTAGE;cACCEPT"),
  (0x1F260, "aROUNDED SYMBOL FOR FU;dLU;dSHOU;dXI;dSHUANGXI;dCAI"),
  (0x1F300, "aCYCLONE;aFOGGY;aCLOSED UMBRELLA;aNIGHT WITH STARS;aSUNRISE OVER MOUNTAINS;b"),
  (0x1F306, "aCITYSCAPE AT DUSK;aSUNSET OVER BUILDINGS;aRAINBOW;aBRIDGE AT NIGHT;aWATER WAVE"),
  (0x1F30B, "aVOLCANO;aMILKY WAY;aEARTH GLOBE EUROPE-AFRICA;cAMERICAS;cASIA-AUSTRALIA"),
  (0x1F310, "aGLOBE WITH MERIDIANS;aNEW MOON SYMBOL;aWAXING CRESCENT MOON SYMBOL"),
  (0x1F313, "aFIRST QUARTER MOON SYMBOL;aWAXING GIBBOUS MOON SYMBOL;aFULL MOON SYMBOL"),
  (0x1F316, "aWANING GIBBOUS MOON SYMBOL;aLAST QUARTER MOON SYMBOL;aWANING CRESCENT MOON SYMBOL"),
  (0x1F319, "aCRESCENT MOON;aNEW MOON WITH FACE;aFIRST QUARTER MOON WITH FACE"),
  (0x1F31C, "aLAST QUARTER MOON WITH FACE;aFULL MOON WITH FACE;aSUN WITH FACE;aGLOWING STAR"),
  (0x1F320, "aSHOOTING STAR;aTHERMOMETER;aBLACK DROPLET;aWHITE SUN;cWITH SMALL CLOUD"),
  (0x1F325, "aWHITE SUN BEHIND CLOUD;eWITH RAIN;aCLOUD WITH RAIN;cSNOW;cLIGHTNING;cTORNADO;aFOG"),
  (0x1F32C, "aWIND BLOWING FACE;aHOT DOG;aTACO;aBURRITO;aCHESTNUT;aSEEDLING;aEVERGREEN TREE"),
  (0x1F333, "aDECIDUOUS TREE;aPALM TREE;aCACTUS;aHOT PEPPER;aTULIP;aCHERRY BLOSSOM;aROSE"),
  (0x1F33A, "aHIBISCUS;aSUNFLOWER;aBLOSSOM;aEAR OF MAIZE;cRICE;aHERB;aFOUR LEAF CLOVER"),
  (0x1F341, "aMAPLE LEAF;aFALLEN LEAF;aLEAF FLUTTERING IN WIND;aMUSHROOM;aTOMATO;aAUBERGINE"),
  (0x1F347, "aGRAPES;aMELON;aWATERMELON;aTANGERINE;aLEMON;aBANANA;aPINEAPPLE;aRED APPLE"),
  (0x1F34F, "aGREEN APPLE;aPEAR;aPEACH;aCHERRIES;aSTRAWBERRY;aHAMBURGER;aSLICE OF PIZZA"),
  (0x1F356, "aMEAT ON BONE;aPOULTRY LEG;aRICE CRACKER;bBALL;aCOOKED RICE;aCURRY AND RICE"),
  (0x1F35C, "aSTEAMING BOWL;aSPAGHETTI;aBREAD;aFRENCH FRIES;aROASTED SWEET POTATO;aDANGO;aODEN"),
  (0x1F363, "aSUSHI;aFRIED SHRIMP;aFISH CAKE WITH SWIRL DESIGN;aSOFT ICE CREAM;aSHAVED ICE"),
  (0x1F368, "aICE CREAM;aDOUGHNUT;aCOOKIE;aCHOCOLATE BAR;aCANDY;aLOLLIPOP;aCUSTARD;aHONEY POT"),
  (0x1F370, "aSHORTCAKE;aBENTO BOX;aPOT OF FOOD;aCOOKING;aFORK AND KNIFE;aTEACUP WITHOUT HANDLE"),
  (0x1F376, "aSAKE BOTTLE AND CUP;aWINE GLASS;aCOCKTAIL GLASS;aTROPICAL DRINK;aBEER MUG"),
  (0x1F37B, "aCLINKING BEER MUGS;aBABY BOTTLE;aFORK AND KNIFE WITH PLATE"),
  (0x1F37E, "aBOTTLE WITH POPPING CORK;aPOPCORN;aRIBBON;aWRAPPED PRESENT;aBIRTHDAY CAKE"),
  (0x1F383, "aJACK-O-LANTERN;aCHRISTMAS TREE;aFATHER CHRISTMAS;aFIREWORKS;aFIREWORK SPARKLER"),
  (0x1F388, "aBALLOON;aPARTY POPPER;aCONFETTI BALL;aTANABATA TREE;aCROSSED FLAGS;aPINE DECORATION"),
  (0x1F38E, "aJAPANESE DOLLS;aCARP STREAMER;aWIND CHIME;aMOON VIEWING CEREMONY;aSCHOOL SATCHEL"),
  (0x1F393, "aGRADUATION CAP;aHEART WITH TIP ON THE LEFT;aBOUQUET OF FLOWERS;aMILITARY MEDAL"),
  (0x1F397, "aREMINDER RIBBON;aMUSICAL KEYBOARD WITH JACKS;aSTUDIO MICROPHONE;aLEVEL SLIDER"),
  (0x1F39B, "aCONTROL KNOBS;aBEAMED ASCENDING MUSICAL NOTES;bDESCENDING MUSICAL NOTES"),
  (0x1F39E, "aFILM FRAMES;aADMISSION TICKETS;aCAROUSEL HORSE;aFERRIS WHEEL;aROLLER COASTER"),
  (0x1F3A3, "aFISHING POLE AND FISH;aMICROPHONE;aMOVIE CAMERA;aCINEMA;aHEADPHONE;aARTIST PALETTE"),
  (0x1F3A9, "aTOP HAT;aCIRCUS TENT;aTICKET;aCLAPPER BOARD;aPERFORMING ARTS;aVIDEO GAME"),
  (0x1F3AF, "aDIRECT HIT;aSLOT MACHINE;aBILLIARDS;aGAME DIE;aBOWLING;aFLOWER PLAYING CARDS"),
  (0x1F3B5, "aMUSICAL NOTE;aMULTIPLE MUSICAL NOTES;aSAXOPHONE;aGUITAR;aMUSICAL KEYBOARD;aTRUMPET"),
  (0x1F3BB, "aVIOLIN;aMUSICAL SCORE;aRUNNING SHIRT WITH SASH;aTENNIS RACQUET AND BALL"),
  (0x1F3BF, "aSKI AND SKI BOOT;aBASKETBALL AND HOOP;aCHEQUERED FLAG;aSNOWBOARDER;aRUNNER;aSURFER"),
  (0x1F3C5, "aSPORTS MEDAL;aTROPHY;aHORSE RACING;aAMERICAN FOOTBALL;aRUGBY FOOTBALL;aSWIMMER"),
  (0x1F3CB, "aWEIGHT LIFTER;aGOLFER;aRACING MOTORCYCLE;bCAR;aCRICKET BAT AND BALL;aVOLLEYBALL"),
  (0x1F3D1, "aFIELD HOCKEY STICK AND BALL;aICE HOCKEY STICK AND PUCK"),
  (0x1F3D3, "aTABLE TENNIS PADDLE AND BALL;aSNOW CAPPED MOUNTAIN;aCAMPING;aBEACH WITH UMBRELLA"),
  (0x1F3D7, "aBUILDING CONSTRUCTION;aHOUSE BUILDINGS;aCITYSCAPE;aDERELICT HOUSE BUILDING"),
  (0x1F3DB, "aCLASSICAL BUILDING;aDESERT;bISLAND;aNATIONAL PARK;aSTADIUM;aHOUSE BUILDING"),
  (0x1F3E1, "aHOUSE WITH GARDEN;aOFFICE BUILDING;aJAPANESE POST OFFICE;aEUROPEAN POST OFFICE"),
  (0x1F3E5, "aHOSPITAL;aBANK;aAUTOMATED TELLER MACHINE;aHOTEL;aLOVE HOTEL;aCONVENIENCE STORE"),
  (0x1F3EB, "aSCHOOL;aDEPARTMENT STORE;aFACTORY;aIZAKAYA LANTERN;aJAPANESE CASTLE"),
  (0x1F3F0, "aEUROPEAN CASTLE;aWHITE PENNANT;aBLACK PENNANT;aWAVING WHITE FLAG;bBLACK FLAG"),
  (0x1F3F5, "aROSETTE;aBLACK ROSETTE;aLABEL;aBADMINTON RACQUET AND SHUTTLECOCK;aBOW AND ARROW"),
  (0x1F3FA, "aAMPHORA;aEMOJI MODIFIER FITZPATRICK TYPE-1-2;dTYPE-3;dTYPE-4;dTYPE-5;dTYPE-6;aRAT"),
  (0x1F401, "aMOUSE;aOX;aWATER BUFFALO;aCOW;aTIGER;aLEOPARD;aRABBIT;aCAT;aDRAGON;aCROCODILE"),
  (0x1F40B, "aWHALE;aSNAIL;aSNAKE;aHORSE;aRAM;aGOAT;aSHEEP;aMONKEY;aROOSTER;aCHICKEN;aDOG;aPIG"),
  (0x1F417, "aBOAR;aELEPHANT;aOCTOPUS;aSPIRAL SHELL;aBUG;aANT;aHONEYBEE;aLADY BEETLE;aFISH"),
  (0x1F420, "aTROPICAL FISH;aBLOWFISH;aTURTLE;aHATCHING CHICK;aBABY CHICK"),
  (0x1F425, "aFRONT-FACING BABY CHICK;aBIRD;aPENGUIN;aKOALA;aPOODLE;aDROMEDARY CAMEL"),
  (0x1F42B, "aBACTRIAN CAMEL;aDOLPHIN;aMOUSE FACE;aCOW FACE;aTIGER FACE;aRABBIT FACE;aCAT FACE"),
  (0x1F432, "aDRAGON FACE;aSPOUTING WHALE;aHORSE FACE;aMONKEY FACE;aDOG FACE;aPIG FACE;aFROG FACE"),
  (0x1F439, "aHAMSTER FACE;aWOLF FACE;aBEAR FACE;aPANDA FACE;aPIG NOSE;aPAW PRINTS;aCHIPMUNK"),
  (0x1F440, "aEYES;aEYE;aEAR;aNOSE;aMOUTH;aTONGUE;aWHITE UP POINTING BACKHAND INDEX"),
  (0x1F447, "aWHITE DOWN POINTING BACKHAND INDEX;bLEFT POINTING BACKHAND INDEX"),
  (0x1F449, "aWHITE RIGHT POINTING BACKHAND INDEX;aFISTED HAND SIGN;aWAVING HAND SIGN"),
  (0x1F44C, "aOK HAND SIGN;aTHUMBS UP SIGN;bDOWN SIGN;aCLAPPING HANDS SIGN;aOPEN HANDS SIGN"),
  (0x1F451, "aCROWN;aWOMANS HAT;aEYEGLASSES;aNECKTIE;aT-SHIRT;aJEANS;aDRESS;aKIMONO;aBIKINI"),
  (0x1F45A, "aWOMANS CLOTHES;aPURSE;aHANDBAG;aPOUCH;aMANS SHOE;aATHLETIC SHOE;aHIGH-HEELED SHOE"),
  (0x1F461, "aWOMANS SANDAL;bBOOTS;aFOOTPRINTS;aBUST IN SILHOUETTE;aBUSTS IN SILHOUETTE;aBOY"),
  (0x1F467, "aGIRL;aMAN;aWOMAN;aFAMILY;aMAN AND WOMAN HOLDING HANDS;aTWO MEN HOLDING HANDS"),
  (0x1F46D, "aTWO WOMEN HOLDING HANDS;aPOLICE OFFICER;aWOMAN WITH BUNNY EARS;aBRIDE WITH VEIL"),
  (0x1F471, "aPERSON WITH BLOND HAIR;aMAN WITH GUA PI MAO;cTURBAN;aOLDER MAN;bWOMAN;aBABY"),
  (0x1F477, "aCONSTRUCTION WORKER;aPRINCESS;aJAPANESE OGRE;bGOBLIN;aGHOST;aBABY ANGEL"),
  (0x1F47D, "aEXTRATERRESTRIAL ALIEN;aALIEN MONSTER;aIMP;aSKULL;aINFORMATION DESK PERSON"),
  (0x1F482, "aGUARDSMAN;aDANCER;aLIPSTICK;aNAIL POLISH;aFACE MASSAGE;aHAIRCUT;aBARBER POLE"),
  (0x1F489, "aSYRINGE;aPILL;aKISS MARK;aLOVE LETTER;aRING;aGEM STONE;aKISS;aBOUQUET"),
  (0x1F491, "aCOUPLE WITH HEART;aWEDDING;aBEATING HEART;aBROKEN HEART;aTWO HEARTS"),
  (0x1F496, "aSPARKLING HEART;aGROWING HEART;aHEART WITH ARROW;aBLUE HEART;aGREEN HEART"),
  (0x1F49B, "aYELLOW HEART;aPURPLE HEART;aHEART WITH RIBBON;aREVOLVING HEARTS;aHEART DECORATION"),
  (0x1F4A0, "aDIAMOND SHAPE WITH A DOT INSIDE;aELECTRIC LIGHT BULB;aANGER SYMBOL;aBOMB"),
  (0x1F4A4, "aSLEEPING SYMBOL;aCOLLISION SYMBOL;aSPLASHING SWEAT SYMBOL;aDROPLET;aDASH SYMBOL"),
  (0x1F4A9, "aPILE OF POO;aFLEXED BICEPS;aDIZZY SYMBOL;aSPEECH BALLOON;aTHOUGHT BALLOON"),
  (0x1F4AE, "aWHITE FLOWER;aHUNDRED POINTS SYMBOL;aMONEY BAG;aCURRENCY EXCHANGE"),
  (0x1F4B2, "aHEAVY DOLLAR SIGN;aCREDIT CARD;aBANKNOTE WITH YEN SIGN;cDOLLAR SIGN;cEURO SIGN"),
  (0x1F4B7, "aBANKNOTE WITH POUND SIGN;aMONEY WITH WINGS;aCHART WITH UPWARDS TREND AND YEN SIGN"),
  (0x1F4BA, "aSEAT;aPERSONAL COMPUTER;aBRIEFCASE;aMINIDISC;aFLOPPY DISK;aOPTICAL DISC;aDVD"),
  (0x1F4C1, "aFILE FOLDER;aOPEN FILE FOLDER;aPAGE WITH CURL;bFACING UP;aCALENDAR"),
  (0x1F4C6, "aTEAR-OFF CALENDAR;aCARD INDEX;aCHART WITH UPWARDS TREND;cDOWNWARDS TREND;aBAR CHART"),
  (0x1F4CB, "aCLIPBOARD;aPUSHPIN;aROUND PUSHPIN;aPAPERCLIP;aSTRAIGHT RULER;aTRIANGULAR RULER"),
  (0x1F4D1, "aBOOKMARK TABS;aLEDGER;aNOTEBOOK;bWITH DECORATIVE COVER;aCLOSED BOOK;aOPEN BOOK"),
  (0x1F4D7, "aGREEN BOOK;aBLUE BOOK;aORANGE BOOK;aBOOKS;aNAME BADGE;aSCROLL;aMEMO"),
  (0x1F4DE, "aTELEPHONE RECEIVER;aPAGER;aFAX MACHINE;aSATELLITE ANTENNA"),
  (0x1F4E2, "aPUBLIC ADDRESS LOUDSPEAKER;aCHEERING MEGAPHONE;aOUTBOX TRAY;aINBOX TRAY;aPACKAGE"),
  (0x1F4E7, "aE-MAIL SYMBOL;aINCOMING ENVELOPE;aENVELOPE WITH DOWNWARDS ARROW ABOVE"),
  (0x1F4EA, "aCLOSED MAILBOX WITH LOWERED FLAG;dRAISED FLAG;aOPEN MAILBOX WITH RAISED FLAG"),
  (0x1F4ED, "aOPEN MAILBOX WITH LOWERED FLAG;aPOSTBOX;aPOSTAL HORN;aNEWSPAPER;aMOBILE PHONE"),
  (0x1F4F2, "aMOBILE PHONE WITH RIGHTWARDS ARROW AT LEFT;aVIBRATION MODE;aMOBILE PHONE OFF"),
  (0x1F4F5, "aNO MOBILE PHONES;aANTENNA WITH BARS;aCAMERA;bWITH FLASH;aVIDEO CAMERA;aTELEVISION"),
  (0x1F4FB, "aRADIO;aVIDEOCASSETTE;aFILM PROJECTOR;aPORTABLE STEREO;aPRAYER BEADS"),
  (0x1F500, "aTWISTED RIGHTWARDS ARROWS;aCLOCKWISE RIGHTWARDS AND LEFTWARDS OPEN CIRCLE ARROWS")]

/-- The lines of names from U+1F502 on. -/
def namesFrom1F502 : List (Nat × String) := [
  (0x1F502, "aCLOCKWISE RIGHTWARDS AND LEFTWARDS OPEN CIRCLE ARROWS WITH CIRCLED ONE OVERLAY"),
  (0x1F503, "aCLOCKWISE DOWNWARDS AND UPWARDS OPEN CIRCLE ARROWS"),
  (0x1F504, "aANTICLOCKWISE DOWNWARDS AND UPWARDS OPEN CIRCLE ARROWS;aLOW BRIGHTNESS SYMBOL"),
  (0x1F506, "aHIGH BRIGHTNESS SYMBOL;aSPEAKER WITH CANCELLATION STROKE;b;bWITH ONE SOUND WAVE"),
  (0x1F50A, "aSPEAKER WITH THREE SOUND WAVES;aBATTERY;aELECTRIC PLUG"),
  (0x1F50D, "aLEFT-POINTING MAGNIFYING GLASS;aRIGHT-POINTING MAGNIFYING GLASS;aLOCK WITH INK PEN"),
  (0x1F510, "aCLOSED LOCK WITH KEY;aKEY;aLOCK;aOPEN LOCK;aBELL;bWITH CANCELLATION STROKE"),
  (0x1F516, "aBOOKMARK;aLINK SYMBOL;aRADIO BUTTON;aBACK WITH LEFTWARDS ARROW ABOVE"),
  (0x1F51A, "aEND WITH LEFTWARDS ARROW ABOVE"),
  (0x1F51B, "aON WITH EXCLAMATION MARK WITH LEFT RIGHT ARROW ABOVE"),
  (0x1F51C, "aSOON WITH RIGHTWARDS ARROW ABOVE;aTOP WITH UPWARDS ARROW ABOVE"),
  (0x1F51E, "aNO ONE UNDER EIGHTEEN SYMBOL;aKEYCAP TEN;aINPUT SYMBOL FOR LATIN CAPITAL LETTERS"),
  (0x1F521, "aINPUT SYMBOL FOR LATIN SMALL LETTERS;dNUMBERS;dSYMBOLS;dLATIN LETTERS;aFIRE"),
  (0x1F526, "aELECTRIC TORCH;aWRENCH;aHAMMER;aNUT AND BOLT;aHOCHO;aPISTOL;aMICROSCOPE;aTELESCOPE"),
  (0x1F52E, "aCRYSTAL BALL;aSIX POINTED STAR WITH MIDDLE DOT;aJAPANESE SYMBOL FOR BEGINNER"),
  (0x1F531, "aTRIDENT EMBLEM;aBLACK SQUARE BUTTON;aWHITE SQUARE BUTTON;aLARGE RED CIRCLE"),
  (0x1F535, "aLARGE BLUE CIRCLE;bORANGE DIAMOND;bBLUE DIAMOND;aSMALL ORANGE DIAMOND;bBLUE DIAMOND"),
  (0x1F53A, "aUP-POINTING RED TRIANGLE;aDOWN-POINTING RED TRIANGLE"),
  (0x1F53C, "aUP-POINTING SMALL RED TRIANGLE;aDOWN-POINTING SMALL RED TRIANGLE"),
  (0x1F53E, "aLOWER RIGHT SHADOWED WHITE CIRCLE;aUPPER RIGHT SHADOWED WHITE CIRCLE"),
  (0x1F540, "aCIRCLED CROSS POMMEE;aCROSS POMMEE WITH HALF-CIRCLE BELOW;c"),
  (0x1F543, "aNOTCHED LEFT SEMICIRCLE WITH THREE DOTS;bRIGHT SEMICIRCLE WITH THREE DOTS"),
  (0x1F545, "aSYMBOL FOR MARKS CHAPTER;aWHITE LATIN CROSS;aHEAVY LATIN CROSS;aCELTIC CROSS"),
  (0x1F549, "aOM SYMBOL;aDOVE OF PEACE;aKAABA;aMOSQUE;aSYNAGOGUE;aMENORAH WITH NINE BRANCHES"),
  (0x1F54F, "aBOWL OF HYGIEIA;aCLOCK FACE ONE OCLOCK;cTWO OCLOCK;cTHREE OCLOCK;cFOUR OCLOCK"),
  (0x1F554, "aCLOCK FACE FIVE OCLOCK;cSIX OCLOCK;cSEVEN OCLOCK;cEIGHT OCLOCK;cNINE OCLOCK"),
  (0x1F559, "aCLOCK FACE TEN OCLOCK;cELEVEN OCLOCK;cTWELVE OCLOCK;cONE-THIRTY;cTWO-THIRTY"),
  (0x1F55E, "aCLOCK FACE THREE-THIRTY;cFOUR-THIRTY;cFIVE-THIRTY;cSIX-THIRTY;cSEVEN-THIRTY"),
  (0x1F563, "aCLOCK FACE EIGHT-THIRTY;cNINE-THIRTY;cTEN-THIRTY;cELEVEN-THIRTY;cTWELVE-THIRTY"),
  (0x1F568, "aRIGHT SPEAKER;cWITH ONE SOUND WAVE;dTHREE SOUND WAVES;aBULLHORN;bWITH SOUND WAVES"),
  (0x1F56D, "aRINGING BELL;aBOOK;aCANDLE;aMANTELPIECE CLOCK;aBLACK SKULL AND CROSSBONES"),
  (0x1F572, "aNO PIRACY;aHOLE;aMAN IN BUSINESS SUIT LEVITATING;aSLEUTH OR SPY;aDARK SUNGLASSES"),
  (0x1F577, "aSPIDER;bWEB;aJOYSTICK;aMAN DANCING;aLEFT HAND TELEPHONE RECEIVER"),
  (0x1F57C, "aTELEPHONE RECEIVER WITH PAGE;aRIGHT HAND TELEPHONE RECEIVER"),
  (0x1F57E, "aWHITE TOUCHTONE TELEPHONE;aBLACK TOUCHTONE TELEPHONE;aTELEPHONE ON TOP OF MODEM"),
  (0x1F581, "aCLAMSHELL MOBILE PHONE;aBACK OF ENVELOPE;aSTAMPED ENVELOPE;aENVELOPE WITH LIGHTNING"),
  (0x1F585, "aFLYING ENVELOPE;aPEN OVER STAMPED ENVELOPE;aLINKED PAPERCLIPS;aBLACK PUSHPIN"),
  (0x1F589, "aLOWER LEFT PENCIL;cBALLPOINT PEN;cFOUNTAIN PEN;cPAINTBRUSH;cCRAYON"),
  (0x1F58E, "aLEFT WRITING HAND;aTURNED OK HAND SIGN;aRAISED HAND WITH FINGERS SPLAYED"),
  (0x1F591, "aREVERSED RAISED HAND WITH FINGERS SPLAYED;bTHUMBS UP SIGN;cDOWN SIGN;bVICTORY HAND"),
  (0x1F595, "aREVERSED HAND WITH MIDDLE FINGER EXTENDED"),
  (0x1F596, "aRAISED HAND WITH PART BETWEEN MIDDLE AND RING FINGERS"),
  (0x1F597, "aWHITE DOWN POINTING LEFT HAND INDEX;aSIDEWAYS WHITE LEFT POINTING INDEX"),
  (0x1F599, "aSIDEWAYS WHITE RIGHT POINTING INDEX;bBLACK LEFT POINTING INDEX"),
  (0x1F59B, "aSIDEWAYS BLACK RIGHT POINTING INDEX;aBLACK LEFT POINTING BACKHAND INDEX"),
  (0x1F59D, "aBLACK RIGHT POINTING BACKHAND INDEX;aSIDEWAYS WHITE UP POINTING INDEX"),
  (0x1F59F, "aSIDEWAYS WHITE DOWN POINTING INDEX;bBLACK UP POINTING INDEX;cDOWN POINTING INDEX"),
  (0x1F5A2, "aBLACK UP POINTING BACKHAND INDEX;bDOWN POINTING BACKHAND INDEX;bHEART"),
  (0x1F5A5, "aDESKTOP COMPUTER;aKEYBOARD AND MOUSE;aTHREE NETWORKED COMPUTERS;aPRINTER"),
  (0x1F5A9, "aPOCKET CALCULATOR;aBLACK HARD SHELL FLOPPY DISK;aWHITE HARD SHELL FLOPPY DISK"),
  (0x1F5AC, "aSOFT SHELL FLOPPY DISK;aTAPE CARTRIDGE;aWIRED KEYBOARD;aONE BUTTON MOUSE"),
  (0x1F5B0, "aTWO BUTTON MOUSE;aTHREE BUTTON MOUSE;aTRACKBALL;aOLD PERSONAL COMPUTER;aHARD DISK"),
  (0x1F5B5, "aSCREEN;aPRINTER ICON;aFAX ICON;aOPTICAL DISC ICON;aDOCUMENT WITH TEXT;dAND PICTURE"),
  (0x1F5BB, "aDOCUMENT WITH PICTURE;aFRAME WITH PICTURE;cTILES;cAN X;aBLACK FOLDER;aFOLDER"),
  (0x1F5C1, "aOPEN FOLDER;aCARD INDEX DIVIDERS;bFILE BOX;aFILE CABINET;aEMPTY NOTE;cPAGE;cPAD"),
  (0x1F5C8, "aNOTE;bPAGE;bPAD;aEMPTY DOCUMENT;bPAGE;bPAGES;aDOCUMENT;aPAGE;aPAGES;aWASTEBASKET"),
  (0x1F5D2, "aSPIRAL NOTE PAD;bCALENDAR PAD;aDESKTOP WINDOW;aMINIMIZE;aMAXIMIZE;aOVERLAP"),
  (0x1F5D8, "aCLOCKWISE RIGHT AND LEFT SEMICIRCLE ARROWS;aCANCELLATION X"),
  (0x1F5DA, "aINCREASE FONT SIZE SYMBOL;aDECREASE FONT SIZE SYMBOL;aCOMPRESSION;aOLD KEY"),
  (0x1F5DE, "aROLLED-UP NEWSPAPER;aPAGE WITH CIRCLED TEXT;aSTOCK CHART;aDAGGER KNIFE;aLIPS"),
  (0x1F5E3, "aSPEAKING HEAD IN SILHOUETTE;aTHREE RAYS ABOVE;cBELOW;cLEFT;cRIGHT"),
  (0x1F5E8, "aLEFT SPEECH BUBBLE;aRIGHT SPEECH BUBBLE;aTWO SPEECH BUBBLES;aTHREE SPEECH BUBBLES"),
  (0x1F5EC, "aLEFT THOUGHT BUBBLE;aRIGHT THOUGHT BUBBLE;aLEFT ANGER BUBBLE;aRIGHT ANGER BUBBLE"),
  (0x1F5F0, "aMOOD BUBBLE;aLIGHTNING MOOD BUBBLE;c;aBALLOT BOX WITH BALLOT;bSCRIPT X"),
  (0x1F5F5, "aBALLOT BOX WITH SCRIPT X;bBOLD SCRIPT X;bBOX WITH BOLD SCRIPT X;aLIGHT CHECK MARK"),
  (0x1F5F9, "aBALLOT BOX WITH BOLD CHECK;aWORLD MAP;aMOUNT FUJI;aTOKYO TOWER;aSTATUE OF LIBERTY"),
  (0x1F5FE, "aSILHOUETTE OF JAPAN;aMOYAI;aGRINNING FACE;cWITH SMILING EYES"),
  (0x1F602, "aFACE WITH TEARS OF JOY;aSMILING FACE WITH OPEN MOUTH;fAND SMILING EYES;gCOLD SWEAT"),
  (0x1F606, "aSMILING FACE WITH OPEN MOUTH AND TIGHTLY-CLOSED EYES;dHALO;dHORNS;aWINKING FACE"),
  (0x1F60A, "aSMILING FACE WITH SMILING EYES;aFACE SAVOURING DELICIOUS FOOD;aRELIEVED FACE"),
  (0x1F60D, "aSMILING FACE WITH HEART-SHAPED EYES;dSUNGLASSES;aSMIRKING FACE;aNEUTRAL FACE"),
  (0x1F611, "aEXPRESSIONLESS FACE;aUNAMUSED FACE;aFACE WITH COLD SWEAT;aPENSIVE FACE"),
  (0x1F615, "aCONFUSED FACE;aCONFOUNDED FACE;aKISSING FACE;aFACE THROWING A KISS"),
  (0x1F619, "aKISSING FACE WITH SMILING EYES;dCLOSED EYES;aFACE WITH STUCK-OUT TONGUE"),
  (0x1F61C, "aFACE WITH STUCK-OUT TONGUE AND WINKING EYE;fTIGHTLY-CLOSED EYES;aDISAPPOINTED FACE"),
  (0x1F61F, "aWORRIED FACE;aANGRY FACE;aPOUTING FACE;aCRYING FACE;aPERSEVERING FACE"),
  (0x1F624, "aFACE WITH LOOK OF TRIUMPH;aDISAPPOINTED BUT RELIEVED FACE"),
  (0x1F626, "aFROWNING FACE WITH OPEN MOUTH;aANGUISHED FACE;aFEARFUL FACE;aWEARY FACE"),
  (0x1F62A, "aSLEEPY FACE;aTIRED FACE;aGRIMACING FACE;aLOUDLY CRYING FACE;aFACE WITH OPEN MOUTH"),
  (0x1F62F, "aHUSHED FACE;aFACE WITH OPEN MOUTH AND COLD SWEAT;bSCREAMING IN FEAR"),
  (0x1F632, "aASTONISHED FACE;aFLUSHED FACE;aSLEEPING FACE;aDIZZY FACE;aFACE WITHOUT MOUTH"),
  (0x1F637, "aFACE WITH MEDICAL MASK;aGRINNING CAT FACE WITH SMILING EYES"),
  (0x1F639, "aCAT FACE WITH TEARS OF JOY;aSMILING CAT FACE WITH OPEN MOUTH;eHEART-SHAPED EYES"),
  (0x1F63C, "aCAT FACE WITH WRY SMILE;aKISSING CAT FACE WITH CLOSED EYES;aPOUTING CAT FACE"),
  (0x1F63F, "aCRYING CAT FACE;aWEARY CAT FACE;aSLIGHTLY FROWNING FACE;bSMILING FACE"),
  (0x1F643, "aUPSIDE-DOWN FACE;aFACE WITH ROLLING EYES;cNO GOOD GESTURE;cOK GESTURE"),
  (0x1F647, "aPERSON BOWING DEEPLY;aSEE-NO-EVIL MONKEY;aHEAR-NO-EVIL MONKEY;aSPEAK-NO-EVIL MONKEY"),
  (0x1F64B, "aHAPPY PERSON RAISING ONE HAND;aPERSON RAISING BOTH HANDS IN CELEBRATION;bFROWNING"),
  (0x1F64E, "aPERSON WITH POUTING FACE;cFOLDED HANDS;aNORTH WEST POINTING LEAF"),
  (0x1F651, "aSOUTH WEST POINTING LEAF;aNORTH EAST POINTING LEAF;aSOUTH EAST POINTING LEAF"),
  (0x1F654, "aTURNED NORTH WEST POINTING LEAF;bSOUTH WEST POINTING LEAF;bNORTH EAST POINTING LEAF"),
  (0x1F657, "aTURNED SOUTH EAST POINTING LEAF;aNORTH WEST POINTING VINE LEAF"),
  (0x1F659, "aSOUTH WEST POINTING VINE LEAF;aNORTH EAST POINTING VINE LEAF"),
  (0x1F65B, "aSOUTH EAST POINTING VINE LEAF;aHEAVY NORTH WEST POINTING VINE LEAF"),
  (0x1F65D, "aHEAVY SOUTH WEST POINTING VINE LEAF;bNORTH EAST POINTING VINE LEAF"),
  (0x1F65F, "aHEAVY SOUTH EAST POINTING VINE LEAF;aNORTH WEST POINTING BUD"),
  (0x1F661, "aSOUTH WEST POINTING BUD;aNORTH EAST POINTING BUD;aSOUTH EAST POINTING BUD"),
  (0x1F664, "aHEAVY NORTH WEST POINTING BUD;bSOUTH WEST POINTING BUD;bNORTH EAST POINTING BUD"),
  (0x1F667, "aHEAVY SOUTH EAST POINTING BUD;aHOLLOW QUILT SQUARE ORNAMENT;eIN BLACK SQUARE"),
  (0x1F66A, "aSOLID QUILT SQUARE ORNAMENT;eIN BLACK SQUARE;aLEFTWARDS ROCKET;aUPWARDS ROCKET"),
  (0x1F66E, "aRIGHTWARDS ROCKET;aDOWNWARDS ROCKET;aSCRIPT LIGATURE ET ORNAMENT"),
  (0x1F671, "aHEAVY SCRIPT LIGATURE ET ORNAMENT;aLIGATURE OPEN ET ORNAMENT"),
  (0x1F673, "aHEAVY LIGATURE OPEN ET ORNAMENT;bAMPERSAND ORNAMENT;aSWASH AMPERSAND ORNAMENT"),
  (0x1F676, "aSANS-SERIF HEAVY DOUBLE TURNED COMMA QUOTATION MARK ORNAMENT"),
  (0x1F677, "aSANS-SERIF HEAVY DOUBLE COMMA QUOTATION MARK ORNAMENT"),
  (0x1F678, "aSANS-SERIF HEAVY LOW DOUBLE COMMA QUOTATION MARK ORNAMENT"),
  (0x1F679, "aHEAVY INTERROBANG ORNAMENT;aSANS-SERIF INTERROBANG ORNAMENT"),
  (0x1F67B, "aHEAVY SANS-SERIF INTERROBANG ORNAMENT;aVERY HEAVY SOLIDUS;cREVERSE SOLIDUS"),
  (0x1F67E, "aCHECKER BOARD;aREVERSE CHECKER BOARD;aROCKET;aHELICOPTER;aSTEAM LOCOMOTIVE"),
  (0x1F683, "aRAILWAY CAR;aHIGH-SPEED TRAIN;cWITH BULLET NOSE;aTRAIN;aMETRO;aLIGHT RAIL;aSTATION"),
  (0x1F68A, "aTRAM;bCAR;aBUS;aONCOMING BUS;aTROLLEYBUS;aBUS STOP;aMINIBUS;aAMBULANCE;aFIRE ENGINE"),
  (0x1F693, "aPOLICE CAR;aONCOMING POLICE CAR;aTAXI;aONCOMING TAXI;aAUTOMOBILE"),
  (0x1F698, "aONCOMING AUTOMOBILE;aRECREATIONAL VEHICLE;aDELIVERY TRUCK;aARTICULATED LORRY"),
  (0x1F69C, "aTRACTOR;aMONORAIL;aMOUNTAIN RAILWAY;aSUSPENSION RAILWAY;aMOUNTAIN CABLEWAY"),
  (0x1F6A1, "aAERIAL TRAMWAY;aSHIP;aROWBOAT;aSPEEDBOAT;aHORIZONTAL TRAFFIC LIGHT"),
  (0x1F6A6, "aVERTICAL TRAFFIC LIGHT;aCONSTRUCTION SIGN;aPOLICE CARS REVOLVING LIGHT"),
  (0x1F6A9, "aTRIANGULAR FLAG ON POST;aDOOR;aNO ENTRY SIGN;aSMOKING SYMBOL;aNO SMOKING SYMBOL"),
  (0x1F6AE, "aPUT LITTER IN ITS PLACE SYMBOL;aDO NOT LITTER SYMBOL;aPOTABLE WATER SYMBOL"),
  (0x1F6B1, "aNON-POTABLE WATER SYMBOL;aBICYCLE;aNO BICYCLES;aBICYCLIST;aMOUNTAIN BICYCLIST"),
  (0x1F6B6, "aPEDESTRIAN;aNO PEDESTRIANS;aCHILDREN CROSSING;aMENS SYMBOL;aWOMENS SYMBOL;aRESTROOM"),
  (0x1F6BC, "aBABY SYMBOL;aTOILET;aWATER CLOSET;aSHOWER;aBATH;aBATHTUB;aPASSPORT CONTROL;aCUSTOMS"),
  (0x1F6C4, "aBAGGAGE CLAIM;aLEFT LUGGAGE;aTRIANGLE WITH ROUNDED CORNERS;aPROHIBITED SIGN"),
  (0x1F6C8, "aCIRCLED INFORMATION SOURCE;aBOYS SYMBOL;aGIRLS SYMBOL;aCOUCH AND LAMP"),
  (0x1F6CC, "aSLEEPING ACCOMMODATION;aSHOPPING BAGS;aBELLHOP BELL;aBED;aPLACE OF WORSHIP"),
  (0x1F6D1, "aOCTAGONAL SIGN;aSHOPPING TROLLEY;aSTUPA;aPAGODA;aHINDU TEMPLE;aHUT;aELEVATOR"),
  (0x1F6DD, "aPLAYGROUND SLIDE;aWHEEL;aRING BUOY;aHAMMER AND WRENCH;aSHIELD;aOIL DRUM;aMOTORWAY"),
  (0x1F6E4, "aRAILWAY TRACK;aMOTOR BOAT;aUP-POINTING MILITARY AIRPLANE;bAIRPLANE;bSMALL AIRPLANE"),
  (0x1F6E9, "aSMALL AIRPLANE;aNORTHEAST-POINTING AIRPLANE;aAIRPLANE DEPARTURE;bARRIVING"),
  (0x1F6F0, "aSATELLITE;aONCOMING FIRE ENGINE;aDIESEL LOCOMOTIVE;aPASSENGER SHIP;aSCOOTER"),
  (0x1F6F5, "aMOTOR SCOOTER;aCANOE;aSLED;aFLYING SAUCER;aSKATEBOARD;aAUTO RICKSHAW;aPICKUP TRUCK"),
  (0x1F6FC, "aROLLER SKATE"),
  (0x1F700, "aALCHEMICAL SYMBOL FOR QUINTESSENCE;dAIR;dFIRE;dEARTH;dWATER;dAQUAFORTIS;dAQUA REGIA"),
  (0x1F707, "aALCHEMICAL SYMBOL FOR AQUA REGIA-2;eVITAE;eVITAE-2;dVINEGAR;dVINEGAR-2;dVINEGAR-3"),
  (0x1F70D, "aALCHEMICAL SYMBOL FOR SULFUR;dPHILOSOPHERS SULFUR;dBLACK SULFUR;dMERCURY SUBLIMATE"),
  (0x1F711, "aALCHEMICAL SYMBOL FOR MERCURY SUBLIMATE-2;eSUBLIMATE-3;dCINNABAR;dSALT;dNITRE"),
  (0x1F716, "aALCHEMICAL SYMBOL FOR VITRIOL;dVITRIOL-2;dROCK SALT;eSALT-2;dGOLD;dSILVER;dIRON ORE"),
  (0x1F71D, "aALCHEMICAL SYMBOL FOR IRON ORE-2;dCROCUS OF IRON;dREGULUS OF IRON;dCOPPER ORE"),
  (0x1F721, "aALCHEMICAL SYMBOL FOR IRON-COPPER ORE;dSUBLIMATE OF COPPER;dCROCUS OF COPPER"),
  (0x1F724, "aALCHEMICAL SYMBOL FOR CROCUS OF COPPER-2;dCOPPER ANTIMONIATE"),
  (0x1F726, "aALCHEMICAL SYMBOL FOR SALT OF COPPER ANTIMONIATE;dSUBLIMATE OF SALT OF COPPER"),
  (0x1F728, "aALCHEMICAL SYMBOL FOR VERDIGRIS;dTIN ORE;dLEAD ORE;dANTIMONY ORE"),
  (0x1F72C, "aALCHEMICAL SYMBOL FOR SUBLIMATE OF ANTIMONY;dSALT OF ANTIMONY"),
  (0x1F72E, "aALCHEMICAL SYMBOL FOR SUBLIMATE OF SALT OF ANTIMONY;dVINEGAR OF ANTIMONY"),
  (0x1F730, "aALCHEMICAL SYMBOL FOR REGULUS OF ANTIMONY;fANTIMONY-2;e;dREGULUS-2;dREGULUS-3"),
  (0x1F735, "aALCHEMICAL SYMBOL FOR REGULUS-4;dALKALI;dALKALI-2;dMARCASITE;dSAL-AMMONIAC;dARSENIC"),
  (0x1F73B, "aALCHEMICAL SYMBOL FOR REALGAR;dREALGAR-2;dAURIPIGMENT;dBISMUTH ORE;dTARTAR"),
  (0x1F740, "aALCHEMICAL SYMBOL FOR TARTAR-2;dQUICK LIME;dBORAX;dBORAX-2;dBORAX-3;dALUM;dOIL"),
  (0x1F747, "aALCHEMICAL SYMBOL FOR SPIRIT;dTINCTURE;dGUM;dWAX;dPOWDER;dCALX;dTUTTY"),
  (0x1F74E, "aALCHEMICAL SYMBOL FOR CAPUT MORTUUM;dSCEPTER OF JOVE;dCADUCEUS;dTRIDENT"),
  (0x1F752, "aALCHEMICAL SYMBOL FOR STARRED TRIDENT;dLODESTONE;dSOAP;dURINE;dHORSE DUNG;dASHES"),
  (0x1F758, "aALCHEMICAL SYMBOL FOR POT ASHES;dBRICK;dPOWDERED BRICK;dAMALGAM"),
  (0x1F75C, "aALCHEMICAL SYMBOL FOR STRATUM SUPER STRATUM;fSTRATUM-2;dSUBLIMATION;dPRECIPITATE"),
  (0x1F760, "aALCHEMICAL SYMBOL FOR DISTILL;dDISSOLVE;dDISSOLVE-2;dPURIFY;dPUTREFACTION;dCRUCIBLE"),
  (0x1F766, "aALCHEMICAL SYMBOL FOR CRUCIBLE-2;dCRUCIBLE-3;dCRUCIBLE-4;dCRUCIBLE-5;dALEMBIC"),
  (0x1F76B, "aALCHEMICAL SYMBOL FOR BATH OF MARY;fVAPOURS;dRETORT;dHOUR;dNIGHT;dDAY-NIGHT;dMONTH"),
  (0x1F772, "aALCHEMICAL SYMBOL FOR HALF DRAM;eOUNCE"),
  (0x1F780, "aBLACK LEFT-POINTING ISOSCELES RIGHT TRIANGLE;bUP-POINTING ISOSCELES RIGHT TRIANGLE"),
  (0x1F782, "aBLACK RIGHT-POINTING ISOSCELES RIGHT TRIANGLE"),
  (0x1F783, "aBLACK DOWN-POINTING ISOSCELES RIGHT TRIANGLE;bSLIGHTLY SMALL CIRCLE"),
  (0x1F785, "aMEDIUM BOLD WHITE CIRCLE;aBOLD WHITE CIRCLE;aHEAVY WHITE CIRCLE"),
  (0x1F788, "aVERY HEAVY WHITE CIRCLE;aEXTREMELY HEAVY WHITE CIRCLE"),
  (0x1F78A, "aWHITE CIRCLE CONTAINING BLACK SMALL CIRCLE;aROUND TARGET;aBLACK TINY SQUARE"),
  (0x1F78D, "aBLACK SLIGHTLY SMALL SQUARE;aLIGHT WHITE SQUARE;aMEDIUM WHITE SQUARE"),
  (0x1F790, "aBOLD WHITE SQUARE;aHEAVY WHITE SQUARE;aVERY HEAVY WHITE SQUARE"),
  (0x1F793, "aEXTREMELY HEAVY WHITE SQUARE;aWHITE SQUARE CONTAINING BLACK VERY SMALL SQUARE"),
  (0x1F795, "aWHITE SQUARE CONTAINING BLACK MEDIUM SQUARE;aSQUARE TARGET;aBLACK TINY DIAMOND"),
  (0x1F798, "aBLACK VERY SMALL DIAMOND;bMEDIUM SMALL DIAMOND"),
  (0x1F79A, "aWHITE DIAMOND CONTAINING BLACK VERY SMALL DIAMOND;eMEDIUM DIAMOND;aDIAMOND TARGET"),
  (0x1F79D, "aBLACK TINY LOZENGE;bVERY SMALL LOZENGE;bMEDIUM SMALL LOZENGE"),
  (0x1F7A0, "aWHITE LOZENGE CONTAINING BLACK SMALL LOZENGE;aTHIN GREEK CROSS;aLIGHT GREEK CROSS"),
  (0x1F7A3, "aMEDIUM GREEK CROSS;aBOLD GREEK CROSS;aVERY BOLD GREEK CROSS;bHEAVY GREEK CROSS"),
  (0x1F7A7, "aEXTREMELY HEAVY GREEK CROSS;aTHIN SALTIRE;aLIGHT SALTIRE;aMEDIUM SALTIRE"),
  (0x1F7AB, "aBOLD SALTIRE;aHEAVY SALTIRE;aVERY HEAVY SALTIRE;aEXTREMELY HEAVY SALTIRE"),
  (0x1F7AF, "aLIGHT FIVE SPOKED ASTERISK;aMEDIUM FIVE SPOKED ASTERISK;aBOLD FIVE SPOKED ASTERISK"),
  (0x1F7B2, "aHEAVY FIVE SPOKED ASTERISK;aVERY HEAVY FIVE SPOKED ASTERISK"),
  (0x1F7B4, "aEXTREMELY HEAVY FIVE SPOKED ASTERISK;aLIGHT SIX SPOKED ASTERISK"),
  (0x1F7B6, "aMEDIUM SIX SPOKED ASTERISK;aBOLD SIX SPOKED ASTERISK;aHEAVY SIX SPOKED ASTERISK"),
  (0x1F7B9, "aVERY HEAVY SIX SPOKED ASTERISK;aEXTREMELY HEAVY SIX SPOKED ASTERISK"),
  (0x1F7BB, "aLIGHT EIGHT SPOKED ASTERISK;aMEDIUM EIGHT SPOKED ASTERISK"),
  (0x1F7BD, "aBOLD EIGHT SPOKED ASTERISK;aHEAVY EIGHT SPOKED ASTERISK"),
  (0x1F7BF, "aVERY HEAVY EIGHT SPOKED ASTERISK;aLIGHT THREE POINTED BLACK STAR"),
  (0x1F7C1, "aMEDIUM THREE POINTED BLACK STAR;aTHREE POINTED BLACK STAR"),
  (0x1F7C3, "aMEDIUM THREE POINTED PINWHEEL STAR;aLIGHT FOUR POINTED BLACK STAR"),
  (0x1F7C5, "aMEDIUM FOUR POINTED BLACK STAR;aFOUR POINTED BLACK STAR"),
  (0x1F7C7, "aMEDIUM FOUR POINTED PINWHEEL STAR;aREVERSE LIGHT FOUR POINTED PINWHEEL STAR"),
  (0x1F7C9, "aLIGHT FIVE POINTED BLACK STAR;aHEAVY FIVE POINTED BLACK STAR"),
  (0x1F7CB, "aMEDIUM SIX POINTED BLACK STAR;aHEAVY SIX POINTED BLACK STAR"),
  (0x1F7CD, "aSIX POINTED PINWHEEL STAR;aMEDIUM EIGHT POINTED BLACK STAR"),
  (0x1F7CF, "aHEAVY EIGHT POINTED BLACK STAR;aVERY HEAVY EIGHT POINTED BLACK STAR"),
  (0x1F7D1, "aHEAVY EIGHT POINTED PINWHEEL STAR;aLIGHT TWELVE POINTED BLACK STAR"),
  (0x1F7D3, "aHEAVY TWELVE POINTED BLACK STAR;dPINWHEEL STAR;aCIRCLED TRIANGLE"),
  (0x1F7D6, "aNEGATIVE CIRCLED TRIANGLE;aCIRCLED SQUARE;aNEGATIVE CIRCLED SQUARE"),
  (0x1F7E0, "aLARGE ORANGE CIRCLE;bYELLOW CIRCLE;bGREEN CIRCLE;bPURPLE CIRCLE;bBROWN CIRCLE"),
  (0x1F7E5, "aLARGE RED SQUARE;bBLUE SQUARE;bORANGE SQUARE;bYELLOW SQUARE;bGREEN SQUARE"),
  (0x1F7EA, "aLARGE PURPLE SQUARE;bBROWN SQUARE"),
  (0x1F7F0, "aHEAVY EQUALS SIGN"),
  (0x1F800, "aLEFTWARDS ARROW WITH SMALL TRIANGLE ARROWHEAD"),
  (0x1F801, "aUPWARDS ARROW WITH SMALL TRIANGLE ARROWHEAD"),
  (0x1F802, "aRIGHTWARDS ARROW WITH SMALL TRIANGLE ARROWHEAD"),
  (0x1F803, "aDOWNWARDS ARROW WITH SMALL TRIANGLE ARROWHEAD"),
  (0x1F804, "aLEFTWARDS ARROW WITH MEDIUM TRIANGLE ARROWHEAD"),
  (0x1F805, "aUPWARDS ARROW WITH MEDIUM TRIANGLE ARROWHEAD"),
  (0x1F806, "aRIGHTWARDS ARROW WITH MEDIUM TRIANGLE ARROWHEAD"),
  (0x1F807, "aDOWNWARDS ARROW WITH MEDIUM TRIANGLE ARROWHEAD"),
  (0x1F808, "aLEFTWARDS ARROW WITH LARGE TRIANGLE ARROWHEAD"),
  (0x1F809, "aUPWARDS ARROW WITH LARGE TRIANGLE ARROWHEAD"),
  (0x1F80A, "aRIGHTWARDS ARROW WITH LARGE TRIANGLE ARROWHEAD"),
  (0x1F80B, "aDOWNWARDS ARROW WITH LARGE TRIANGLE ARROWHEAD"),
  (0x1F810, "aLEFTWARDS ARROW WITH SMALL EQUILATERAL ARROWHEAD"),
  (0x1F811, "aUPWARDS ARROW WITH SMALL EQUILATERAL ARROWHEAD"),
  (0x1F812, "aRIGHTWARDS ARROW WITH SMALL EQUILATERAL ARROWHEAD"),
  (0x1F813, "aDOWNWARDS ARROW WITH SMALL EQUILATERAL ARROWHEAD"),
  (0x1F814, "aLEFTWARDS ARROW WITH EQUILATERAL ARROWHEAD"),
  (0x1F815, "aUPWARDS ARROW WITH EQUILATERAL ARROWHEAD"),
  (0x1F816, "aRIGHTWARDS ARROW WITH EQUILATERAL ARROWHEAD"),
  (0x1F817, "aDOWNWARDS ARROW WITH EQUILATERAL ARROWHEAD"),
  (0x1F818, "aHEAVY LEFTWARDS ARROW WITH EQUILATERAL ARROWHEAD"),
  (0x1F819, "aHEAVY UPWARDS ARROW WITH EQUILATERAL ARROWHEAD"),
  (0x1F81A, "aHEAVY RIGHTWARDS ARROW WITH EQUILATERAL ARROWHEAD"),
  (0x1F81B, "aHEAVY DOWNWARDS ARROW WITH EQUILATERAL ARROWHEAD")]

/-- The lines of names from U+1F81C on. -/
def namesFrom1F81C : List (Nat × String) := [
  (0x1F81C, "aHEAVY LEFTWARDS ARROW WITH LARGE EQUILATERAL ARROWHEAD"),
  (0x1F81D, "aHEAVY UPWARDS ARROW WITH LARGE EQUILATERAL ARROWHEAD"),
  (0x1F81E, "aHEAVY RIGHTWARDS ARROW WITH LARGE EQUILATERAL ARROWHEAD"),
  (0x1F81F, "aHEAVY DOWNWARDS ARROW WITH LARGE EQUILATERAL ARROWHEAD"),
  (0x1F820, "aLEFTWARDS TRIANGLE-HEADED ARROW WITH NARROW SHAFT"),
  (0x1F821, "aUPWARDS TRIANGLE-HEADED ARROW WITH NARROW SHAFT"),
  (0x1F822, "aRIGHTWARDS TRIANGLE-HEADED ARROW WITH NARROW SHAFT"),
  (0x1F823, "aDOWNWARDS TRIANGLE-HEADED ARROW WITH NARROW SHAFT"),
  (0x1F824, "aLEFTWARDS TRIANGLE-HEADED ARROW WITH MEDIUM SHAFT"),
  (0x1F825, "aUPWARDS TRIANGLE-HEADED ARROW WITH MEDIUM SHAFT"),
  (0x1F826, "aRIGHTWARDS TRIANGLE-HEADED ARROW WITH MEDIUM SHAFT"),
  (0x1F827, "aDOWNWARDS TRIANGLE-HEADED ARROW WITH MEDIUM SHAFT"),
  (0x1F828, "aLEFTWARDS TRIANGLE-HEADED ARROW WITH BOLD SHAFT"),
  (0x1F829, "aUPWARDS TRIANGLE-HEADED ARROW WITH BOLD SHAFT"),
  (0x1F82A, "aRIGHTWARDS TRIANGLE-HEADED ARROW WITH BOLD SHAFT"),
  (0x1F82B, "aDOWNWARDS TRIANGLE-HEADED ARROW WITH BOLD SHAFT"),
  (0x1F82C, "aLEFTWARDS TRIANGLE-HEADED ARROW WITH HEAVY SHAFT"),
  (0x1F82D, "aUPWARDS TRIANGLE-HEADED ARROW WITH HEAVY SHAFT"),
  (0x1F82E, "aRIGHTWARDS TRIANGLE-HEADED ARROW WITH HEAVY SHAFT"),
  (0x1F82F, "aDOWNWARDS TRIANGLE-HEADED ARROW WITH HEAVY SHAFT"),
  (0x1F830, "aLEFTWARDS TRIANGLE-HEADED ARROW WITH VERY HEAVY SHAFT"),
  (0x1F831, "aUPWARDS TRIANGLE-HEADED ARROW WITH VERY HEAVY SHAFT"),
  (0x1F832, "aRIGHTWARDS TRIANGLE-HEADED ARROW WITH VERY HEAVY SHAFT"),
  (0x1F833, "aDOWNWARDS TRIANGLE-HEADED ARROW WITH VERY HEAVY SHAFT;aLEFTWARDS FINGER-POST ARROW"),
  (0x1F835, "aUPWARDS FINGER-POST ARROW;aRIGHTWARDS FINGER-POST ARROW"),
  (0x1F837, "aDOWNWARDS FINGER-POST ARROW;aLEFTWARDS SQUARED ARROW;aUPWARDS SQUARED ARROW"),
  (0x1F83A, "aRIGHTWARDS SQUARED ARROW;aDOWNWARDS SQUARED ARROW;aLEFTWARDS COMPRESSED ARROW"),
  (0x1F83D, "aUPWARDS COMPRESSED ARROW;aRIGHTWARDS COMPRESSED ARROW;aDOWNWARDS COMPRESSED ARROW"),
  (0x1F840, "aLEFTWARDS HEAVY COMPRESSED ARROW;aUPWARDS HEAVY COMPRESSED ARROW"),
  (0x1F842, "aRIGHTWARDS HEAVY COMPRESSED ARROW;aDOWNWARDS HEAVY COMPRESSED ARROW"),
  (0x1F844, "aLEFTWARDS HEAVY ARROW;aUPWARDS HEAVY ARROW;aRIGHTWARDS HEAVY ARROW"),
  (0x1F847, "aDOWNWARDS HEAVY ARROW"),
  (0x1F850, "aLEFTWARDS SANS-SERIF ARROW;aUPWARDS SANS-SERIF ARROW;aRIGHTWARDS SANS-SERIF ARROW"),
  (0x1F853, "aDOWNWARDS SANS-SERIF ARROW;aNORTH WEST SANS-SERIF ARROW;bEAST SANS-SERIF ARROW"),
  (0x1F856, "aSOUTH EAST SANS-SERIF ARROW;bWEST SANS-SERIF ARROW;aLEFT RIGHT SANS-SERIF ARROW"),
  (0x1F859, "aUP DOWN SANS-SERIF ARROW"),
  (0x1F860, "aWIDE-HEADED LEFTWARDS LIGHT BARB ARROW;bUPWARDS LIGHT BARB ARROW"),
  (0x1F862, "aWIDE-HEADED RIGHTWARDS LIGHT BARB ARROW;bDOWNWARDS LIGHT BARB ARROW"),
  (0x1F864, "aWIDE-HEADED NORTH WEST LIGHT BARB ARROW;cEAST LIGHT BARB ARROW"),
  (0x1F866, "aWIDE-HEADED SOUTH EAST LIGHT BARB ARROW;cWEST LIGHT BARB ARROW"),
  (0x1F868, "aWIDE-HEADED LEFTWARDS BARB ARROW;bUPWARDS BARB ARROW;bRIGHTWARDS BARB ARROW"),
  (0x1F86B, "aWIDE-HEADED DOWNWARDS BARB ARROW;bNORTH WEST BARB ARROW;cEAST BARB ARROW"),
  (0x1F86E, "aWIDE-HEADED SOUTH EAST BARB ARROW;cWEST BARB ARROW;bLEFTWARDS MEDIUM BARB ARROW"),
  (0x1F871, "aWIDE-HEADED UPWARDS MEDIUM BARB ARROW;bRIGHTWARDS MEDIUM BARB ARROW"),
  (0x1F873, "aWIDE-HEADED DOWNWARDS MEDIUM BARB ARROW;bNORTH WEST MEDIUM BARB ARROW"),
  (0x1F875, "aWIDE-HEADED NORTH EAST MEDIUM BARB ARROW;bSOUTH EAST MEDIUM BARB ARROW"),
  (0x1F877, "aWIDE-HEADED SOUTH WEST MEDIUM BARB ARROW;bLEFTWARDS HEAVY BARB ARROW"),
  (0x1F879, "aWIDE-HEADED UPWARDS HEAVY BARB ARROW;bRIGHTWARDS HEAVY BARB ARROW"),
  (0x1F87B, "aWIDE-HEADED DOWNWARDS HEAVY BARB ARROW;bNORTH WEST HEAVY BARB ARROW"),
  (0x1F87D, "aWIDE-HEADED NORTH EAST HEAVY BARB ARROW;bSOUTH EAST HEAVY BARB ARROW"),
  (0x1F87F, "aWIDE-HEADED SOUTH WEST HEAVY BARB ARROW;bLEFTWARDS VERY HEAVY BARB ARROW"),
  (0x1F881, "aWIDE-HEADED UPWARDS VERY HEAVY BARB ARROW;bRIGHTWARDS VERY HEAVY BARB ARROW"),
  (0x1F883, "aWIDE-HEADED DOWNWARDS VERY HEAVY BARB ARROW;bNORTH WEST VERY HEAVY BARB ARROW"),
  (0x1F885, "aWIDE-HEADED NORTH EAST VERY HEAVY BARB ARROW;bSOUTH EAST VERY HEAVY BARB ARROW"),
  (0x1F887, "aWIDE-HEADED SOUTH WEST VERY HEAVY BARB ARROW"),
  (0x1F890, "aLEFTWARDS TRIANGLE ARROWHEAD;aUPWARDS TRIANGLE ARROWHEAD"),
  (0x1F892, "aRIGHTWARDS TRIANGLE ARROWHEAD;aDOWNWARDS TRIANGLE ARROWHEAD"),
  (0x1F894, "aLEFTWARDS WHITE ARROW WITHIN TRIANGLE ARROWHEAD"),
  (0x1F895, "aUPWARDS WHITE ARROW WITHIN TRIANGLE ARROWHEAD"),
  (0x1F896, "aRIGHTWARDS WHITE ARROW WITHIN TRIANGLE ARROWHEAD"),
  (0x1F897, "aDOWNWARDS WHITE ARROW WITHIN TRIANGLE ARROWHEAD;aLEFTWARDS ARROW WITH NOTCHED TAIL"),
  (0x1F899, "aUPWARDS ARROW WITH NOTCHED TAIL;aRIGHTWARDS ARROW WITH NOTCHED TAIL"),
  (0x1F89B, "aDOWNWARDS ARROW WITH NOTCHED TAIL;aHEAVY ARROW SHAFT WIDTH ONE;eTWO THIRDS"),
  (0x1F89E, "aHEAVY ARROW SHAFT WIDTH ONE HALF;fTHIRD;aLEFTWARDS BOTTOM-SHADED WHITE ARROW"),
  (0x1F8A1, "aRIGHTWARDS BOTTOM SHADED WHITE ARROW;aLEFTWARDS TOP SHADED WHITE ARROW"),
  (0x1F8A3, "aRIGHTWARDS TOP SHADED WHITE ARROW;aLEFTWARDS LEFT-SHADED WHITE ARROW"),
  (0x1F8A5, "aRIGHTWARDS RIGHT-SHADED WHITE ARROW;aLEFTWARDS RIGHT-SHADED WHITE ARROW"),
  (0x1F8A7, "aRIGHTWARDS LEFT-SHADED WHITE ARROW;aLEFTWARDS BACK-TILTED SHADOWED WHITE ARROW"),
  (0x1F8A9, "aRIGHTWARDS BACK-TILTED SHADOWED WHITE ARROW"),
  (0x1F8AA, "aLEFTWARDS FRONT-TILTED SHADOWED WHITE ARROW"),
  (0x1F8AB, "aRIGHTWARDS FRONT-TILTED SHADOWED WHITE ARROW;aWHITE ARROW SHAFT WIDTH ONE"),
  (0x1F8AD, "aWHITE ARROW SHAFT WIDTH TWO THIRDS"),
  (0x1F8B0, "aARROW POINTING UPWARDS THEN NORTH WEST;cRIGHTWARDS THEN CURVING SOUTH WEST"),
  (0x1F900, "aCIRCLED CROSS FORMEE WITH FOUR DOTS;eTWO DOTS;d;aLEFT HALF CIRCLE WITH FOUR DOTS"),
  (0x1F904, "aLEFT HALF CIRCLE WITH THREE DOTS;eTWO DOTS;eDOT;d;aDOWNWARD FACING HOOK"),
  (0x1F909, "aDOWNWARD FACING NOTCHED HOOK;cHOOK WITH DOT;cNOTCHED HOOK WITH DOT;aPINCHED FINGERS"),
  (0x1F90D, "aWHITE HEART;aBROWN HEART;aPINCHING HAND;aZIPPER-MOUTH FACE;aMONEY-MOUTH FACE"),
  (0x1F912, "aFACE WITH THERMOMETER;aNERD FACE;aTHINKING FACE;aFACE WITH HEAD-BANDAGE;aROBOT FACE"),
  (0x1F917, "aHUGGING FACE;aSIGN OF THE HORNS;aCALL ME HAND;aRAISED BACK OF HAND"),
  (0x1F91B, "aLEFT-FACING FIST;aRIGHT-FACING FIST;aHANDSHAKE"),
  (0x1F91E, "aHAND WITH INDEX AND MIDDLE FINGERS CROSSED;aI LOVE YOU HAND SIGN"),
  (0x1F920, "aFACE WITH COWBOY HAT;aCLOWN FACE;aNAUSEATED FACE;aROLLING ON THE FLOOR LAUGHING"),
  (0x1F924, "aDROOLING FACE;aLYING FACE;aFACE PALM;aSNEEZING FACE;aFACE WITH ONE EYEBROW RAISED"),
  (0x1F929, "aGRINNING FACE WITH STAR EYES;dONE LARGE AND ONE SMALL EYE"),
  (0x1F92B, "aFACE WITH FINGER COVERING CLOSED LIPS;aSERIOUS FACE WITH SYMBOLS COVERING MOUTH"),
  (0x1F92D, "aSMILING FACE WITH SMILING EYES AND HAND COVERING MOUTH"),
  (0x1F92E, "aFACE WITH OPEN MOUTH VOMITING;aSHOCKED FACE WITH EXPLODING HEAD;aPREGNANT WOMAN"),
  (0x1F931, "aBREAST-FEEDING;aPALMS UP TOGETHER;aSELFIE;aPRINCE;aMAN IN TUXEDO;aMOTHER CHRISTMAS"),
  (0x1F937, "aSHRUG;aPERSON DOING CARTWHEEL;aJUGGLING;aFENCER;aMODERN PENTATHLON;aWRESTLERS"),
  (0x1F93D, "aWATER POLO;aHANDBALL;aDIVING MASK;aWILTED FLOWER;aDRUM WITH DRUMSTICKS"),
  (0x1F942, "aCLINKING GLASSES;aTUMBLER GLASS;aSPOON;aGOAL NET;aRIFLE;aFIRST PLACE MEDAL"),
  (0x1F948, "aSECOND PLACE MEDAL;aTHIRD PLACE MEDAL;aBOXING GLOVE;aMARTIAL ARTS UNIFORM"),
  (0x1F94C, "aCURLING STONE;aLACROSSE STICK AND BALL;aSOFTBALL;aFLYING DISC;aCROISSANT;aAVOCADO"),
  (0x1F952, "aCUCUMBER;aBACON;aPOTATO;aCARROT;aBAGUETTE BREAD;aGREEN SALAD;aSHALLOW PAN OF FOOD"),
  (0x1F959, "aSTUFFED FLATBREAD;aEGG;aGLASS OF MILK;aPEANUTS;aKIWIFRUIT;aPANCAKES;aDUMPLING"),
  (0x1F960, "aFORTUNE COOKIE;aTAKEOUT BOX;aCHOPSTICKS;aBOWL WITH SPOON;aCUP WITH STRAW;aCOCONUT"),
  (0x1F966, "aBROCCOLI;aPIE;aPRETZEL;aCUT OF MEAT;aSANDWICH;aCANNED FOOD;aLEAFY GREEN;aMANGO"),
  (0x1F96E, "aMOON CAKE;aBAGEL;aSMILING FACE WITH SMILING EYES AND THREE HEARTS;aYAWNING FACE"),
  (0x1F972, "aSMILING FACE WITH TEAR;aFACE WITH PARTY HORN AND PARTY HAT"),
  (0x1F974, "aFACE WITH UNEVEN EYES AND WAVY MOUTH;aOVERHEATED FACE;aFREEZING FACE;aNINJA"),
  (0x1F978, "aDISGUISED FACE;aFACE HOLDING BACK TEARS;bWITH PLEADING EYES;aSARI;aLAB COAT"),
  (0x1F97D, "aGOGGLES;aHIKING BOOT;aFLAT SHOE;aCRAB;aLION FACE;aSCORPION;aTURKEY;aUNICORN FACE"),
  (0x1F985, "aEAGLE;aDUCK;aBAT;aSHARK;aOWL;aFOX FACE;aBUTTERFLY;aDEER;aGORILLA;aLIZARD"),
  (0x1F98F, "aRHINOCEROS;aSHRIMP;aSQUID;aGIRAFFE FACE;aZEBRA FACE;aHEDGEHOG;aSAUROPOD;aT-REX"),
  (0x1F997, "aCRICKET;aKANGAROO;aLLAMA;aPEACOCK;aHIPPOPOTAMUS;aPARROT;aRACCOON;aLOBSTER;aMOSQUITO"),
  (0x1F9A0, "aMICROBE;aBADGER;aSWAN;aMAMMOTH;aDODO;aSLOTH;aOTTER;aORANGUTAN;aSKUNK;aFLAMINGO"),
  (0x1F9AA, "aOYSTER;aBEAVER;aBISON;aSEAL;aGUIDE DOG;aPROBING CANE;aEMOJI COMPONENT RED HAIR"),
  (0x1F9B1, "aEMOJI COMPONENT CURLY HAIR;cBALD;cWHITE HAIR;aBONE;aLEG;aFOOT;aTOOTH;aSUPERHERO"),
  (0x1F9B9, "aSUPERVILLAIN;aSAFETY VEST;aEAR WITH HEARING AID;aMOTORIZED WHEELCHAIR"),
  (0x1F9BD, "aMANUAL WHEELCHAIR;aMECHANICAL ARM;bLEG;aCHEESE WEDGE;aCUPCAKE;aSALT SHAKER"),
  (0x1F9C3, "aBEVERAGE BOX;aGARLIC;aONION;aFALAFEL;aWAFFLE;aBUTTER;aMATE DRINK;aICE CUBE"),
  (0x1F9CB, "aBUBBLE TEA;aTROLL;aSTANDING PERSON;aKNEELING PERSON;aDEAF PERSON;aFACE WITH MONOCLE"),
  (0x1F9D1, "aADULT;aCHILD;aOLDER ADULT;aBEARDED PERSON;aPERSON WITH HEADSCARF;bIN STEAMY ROOM"),
  (0x1F9D7, "aPERSON CLIMBING;bIN LOTUS POSITION;aMAGE;aFAIRY;aVAMPIRE;aMERPERSON;aELF;aGENIE"),
  (0x1F9DF, "aZOMBIE;aBRAIN;aORANGE HEART;aBILLED CAP;aSCARF;aGLOVES;aCOAT;aSOCKS"),
  (0x1F9E7, "aRED GIFT ENVELOPE;aFIRECRACKER;aJIGSAW PUZZLE PIECE;aTEST TUBE;aPETRI DISH"),
  (0x1F9EC, "aDNA DOUBLE HELIX;aCOMPASS;aABACUS;aFIRE EXTINGUISHER;aTOOLBOX;aBRICK;aMAGNET"),
  (0x1F9F3, "aLUGGAGE;aLOTION BOTTLE;aSPOOL OF THREAD;aBALL OF YARN;aSAFETY PIN;aTEDDY BEAR"),
  (0x1F9F9, "aBROOM;aBASKET;aROLL OF PAPER;aBAR OF SOAP;aSPONGE;aRECEIPT;aNAZAR AMULET"),
  (0x1FA00, "aNEUTRAL CHESS KING;cQUEEN;cROOK;cBISHOP;cKNIGHT;cPAWN"),
  (0x1FA06, "aWHITE CHESS KNIGHT ROTATED FORTY-FIVE DEGREES"),
  (0x1FA07, "aBLACK CHESS KNIGHT ROTATED FORTY-FIVE DEGREES"),
  (0x1FA08, "aNEUTRAL CHESS KNIGHT ROTATED FORTY-FIVE DEGREES"),
  (0x1FA09, "aWHITE CHESS KING ROTATED NINETY DEGREES;cQUEEN ROTATED NINETY DEGREES"),
  (0x1FA0B, "aWHITE CHESS ROOK ROTATED NINETY DEGREES;cBISHOP ROTATED NINETY DEGREES"),
  (0x1FA0D, "aWHITE CHESS KNIGHT ROTATED NINETY DEGREES;cPAWN ROTATED NINETY DEGREES"),
  (0x1FA0F, "aBLACK CHESS KING ROTATED NINETY DEGREES;cQUEEN ROTATED NINETY DEGREES"),
  (0x1FA11, "aBLACK CHESS ROOK ROTATED NINETY DEGREES;cBISHOP ROTATED NINETY DEGREES"),
  (0x1FA13, "aBLACK CHESS KNIGHT ROTATED NINETY DEGREES;cPAWN ROTATED NINETY DEGREES"),
  (0x1FA15, "aNEUTRAL CHESS KING ROTATED NINETY DEGREES;cQUEEN ROTATED NINETY DEGREES"),
  (0x1FA17, "aNEUTRAL CHESS ROOK ROTATED NINETY DEGREES;cBISHOP ROTATED NINETY DEGREES"),
  (0x1FA19, "aNEUTRAL CHESS KNIGHT ROTATED NINETY DEGREES;cPAWN ROTATED NINETY DEGREES"),
  (0x1FA1B, "aWHITE CHESS KNIGHT ROTATED ONE HUNDRED THIRTY-FIVE DEGREES"),
  (0x1FA1C, "aBLACK CHESS KNIGHT ROTATED ONE HUNDRED THIRTY-FIVE DEGREES"),
  (0x1FA1D, "aNEUTRAL CHESS KNIGHT ROTATED ONE HUNDRED THIRTY-FIVE DEGREES"),
  (0x1FA1E, "aWHITE CHESS TURNED KING;dQUEEN;dROOK;dBISHOP;dKNIGHT;dPAWN;aBLACK CHESS TURNED KING"),
  (0x1FA25, "aBLACK CHESS TURNED QUEEN;dROOK;dBISHOP;dKNIGHT;dPAWN;aNEUTRAL CHESS TURNED KING"),
  (0x1FA2B, "aNEUTRAL CHESS TURNED QUEEN;dROOK;dBISHOP;dKNIGHT;dPAWN"),
  (0x1FA30, "aWHITE CHESS KNIGHT ROTATED TWO HUNDRED TWENTY-FIVE DEGREES"),
  (0x1FA31, "aBLACK CHESS KNIGHT ROTATED TWO HUNDRED TWENTY-FIVE DEGREES"),
  (0x1FA32, "aNEUTRAL CHESS KNIGHT ROTATED TWO HUNDRED TWENTY-FIVE DEGREES"),
  (0x1FA33, "aWHITE CHESS KING ROTATED TWO HUNDRED SEVENTY DEGREES"),
  (0x1FA34, "aWHITE CHESS QUEEN ROTATED TWO HUNDRED SEVENTY DEGREES"),
  (0x1FA35, "aWHITE CHESS ROOK ROTATED TWO HUNDRED SEVENTY DEGREES"),
  (0x1FA36, "aWHITE CHESS BISHOP ROTATED TWO HUNDRED SEVENTY DEGREES"),
  (0x1FA37, "aWHITE CHESS KNIGHT ROTATED TWO HUNDRED SEVENTY DEGREES"),
  (0x1FA38, "aWHITE CHESS PAWN ROTATED TWO HUNDRED SEVENTY DEGREES"),
  (0x1FA39, "aBLACK CHESS KING ROTATED TWO HUNDRED SEVENTY DEGREES"),
  (0x1FA3A, "aBLACK CHESS QUEEN ROTATED TWO HUNDRED SEVENTY DEGREES"),
  (0x1FA3B, "aBLACK CHESS ROOK ROTATED TWO HUNDRED SEVENTY DEGREES"),
  (0x1FA3C, "aBLACK CHESS BISHOP ROTATED TWO HUNDRED SEVENTY DEGREES"),
  (0x1FA3D, "aBLACK CHESS KNIGHT ROTATED TWO HUNDRED SEVENTY DEGREES"),
  (0x1FA3E, "aBLACK CHESS PAWN ROTATED TWO HUNDRED SEVENTY DEGREES"),
  (0x1FA3F, "aNEUTRAL CHESS KING ROTATED TWO HUNDRED SEVENTY DEGREES"),
  (0x1FA40, "aNEUTRAL CHESS QUEEN ROTATED TWO HUNDRED SEVENTY DEGREES"),
  (0x1FA41, "aNEUTRAL CHESS ROOK ROTATED TWO HUNDRED SEVENTY DEGREES"),
  (0x1FA42, "aNEUTRAL CHESS BISHOP ROTATED TWO HUNDRED SEVENTY DEGREES"),
  (0x1FA43, "aNEUTRAL CHESS KNIGHT ROTATED TWO HUNDRED SEVENTY DEGREES"),
  (0x1FA44, "aNEUTRAL CHESS PAWN ROTATED TWO HUNDRED SEVENTY DEGREES"),
  (0x1FA45, "aWHITE CHESS KNIGHT ROTATED THREE HUNDRED FIFTEEN DEGREES"),
  (0x1FA46, "aBLACK CHESS KNIGHT ROTATED THREE HUNDRED FIFTEEN DEGREES"),
  (0x1FA47, "aNEUTRAL CHESS KNIGHT ROTATED THREE HUNDRED FIFTEEN DEGREES;aWHITE CHESS EQUIHOPPER"),
  (0x1FA49, "aBLACK CHESS EQUIHOPPER;aNEUTRAL CHESS EQUIHOPPER"),
  (0x1FA4B, "aWHITE CHESS EQUIHOPPER ROTATED NINETY DEGREES"),
  (0x1FA4C, "aBLACK CHESS EQUIHOPPER ROTATED NINETY DEGREES"),
  (0x1FA4D, "aNEUTRAL CHESS EQUIHOPPER ROTATED NINETY DEGREES;aWHITE CHESS KNIGHT-QUEEN"),
  (0x1FA4F, "aWHITE CHESS KNIGHT-ROOK;cKNIGHT-BISHOP;aBLACK CHESS KNIGHT-QUEEN;cKNIGHT-ROOK"),
  (0x1FA53, "aBLACK CHESS KNIGHT-BISHOP"),
  (0x1FA60, "aXIANGQI RED GENERAL;cMANDARIN;cELEPHANT;cHORSE;cCHARIOT;cCANNON;cSOLDIER"),
  (0x1FA67, "aXIANGQI BLACK GENERAL;cMANDARIN;cELEPHANT;cHORSE;cCHARIOT;cCANNON;cSOLDIER"),
  (0x1FA70, "aBALLET SHOES;aONE-PIECE SWIMSUIT;aBRIEFS;aSHORTS;aTHONG SANDAL"),
  (0x1FA78, "aDROP OF BLOOD;aADHESIVE BANDAGE;aSTETHOSCOPE;aX-RAY;aCRUTCH"),
  (0x1FA80, "aYO-YO;aKITE;aPARACHUTE;aBOOMERANG;aMAGIC WAND;aPINATA;aNESTING DOLLS"),
  (0x1FA90, "aRINGED PLANET;aCHAIR;aRAZOR;aAXE;aDIYA LAMP;aBANJO;aMILITARY HELMET;aACCORDION"),
  (0x1FA98, "aLONG DRUM;aCOIN;aCARPENTRY SAW;aSCREWDRIVER;aLADDER;aHOOK;aMIRROR;aWINDOW;aPLUNGER"),
  (0x1FAA1, "aSEWING NEEDLE;aKNOT;aBUCKET;aMOUSE TRAP;aTOOTHBRUSH;aHEADSTONE;aPLACARD;aROCK"),
  (0x1FAA9, "aMIRROR BALL;aIDENTIFICATION CARD;aLOW BATTERY;aHAMSA"),
  (0x1FAB0, "aFLY;aWORM;aBEETLE;aCOCKROACH;aPOTTED PLANT;aWOOD;aFEATHER;aLOTUS;aCORAL;aEMPTY NEST"),
  (0x1FABA, "aNEST WITH EGGS"),
  (0x1FAC0, "aANATOMICAL HEART;aLUNGS;aPEOPLE HUGGING;aPREGNANT MAN;bPERSON;aPERSON WITH CROWN"),
  (0x1FAD0, "aBLUEBERRIES;aBELL PEPPER;aOLIVE;aFLATBREAD;aTAMALE;aFONDUE;aTEAPOT;aPOURING LIQUID"),
  (0x1FAD8, "aBEANS;aJAR"),
  (0x1FAE0, "aMELTING FACE;aSALUTING FACE;aFACE WITH OPEN EYES AND HAND OVER MOUTH;cPEEKING EYE"),
  (0x1FAE4, "aFACE WITH DIAGONAL MOUTH;aDOTTED LINE FACE;aBITING LIP;aBUBBLES"),
  (0x1FAF0, "aHAND WITH INDEX FINGER AND THUMB CROSSED;aRIGHTWARDS HAND;aLEFTWARDS HAND"),
  (0x1FAF3, "aPALM DOWN HAND;bUP HAND;aINDEX POINTING AT THE VIEWER;aHEART HANDS"),
  (0x1FB00, "aBLOCK SEXTANT-1;bSEXTANT-2;bSEXTANT-12;bSEXTANT-3;bSEXTANT-13;bSEXTANT-23"),
  (0x1FB06, "aBLOCK SEXTANT-123;bSEXTANT-4;bSEXTANT-14;bSEXTANT-24;bSEXTANT-124;bSEXTANT-34"),
  (0x1FB0C, "aBLOCK SEXTANT-134;bSEXTANT-234;bSEXTANT-1234;bSEXTANT-5;bSEXTANT-15;bSEXTANT-25"),
  (0x1FB12, "aBLOCK SEXTANT-125;bSEXTANT-35;bSEXTANT-235;bSEXTANT-1235;bSEXTANT-45;bSEXTANT-145"),
  (0x1FB18, "aBLOCK SEXTANT-245;bSEXTANT-1245;bSEXTANT-345;bSEXTANT-1345;bSEXTANT-2345"),
  (0x1FB1D, "aBLOCK SEXTANT-12345;bSEXTANT-6;bSEXTANT-16;bSEXTANT-26;bSEXTANT-126;bSEXTANT-36"),
  (0x1FB23, "aBLOCK SEXTANT-136;bSEXTANT-236;bSEXTANT-1236;bSEXTANT-46;bSEXTANT-146;bSEXTANT-1246"),
  (0x1FB29, "aBLOCK SEXTANT-346;bSEXTANT-1346;bSEXTANT-2346;bSEXTANT-12346;bSEXTANT-56"),
  (0x1FB2E, "aBLOCK SEXTANT-156;bSEXTANT-256;bSEXTANT-1256;bSEXTANT-356;bSEXTANT-1356"),
  (0x1FB33, "aBLOCK SEXTANT-2356;bSEXTANT-12356;bSEXTANT-456;bSEXTANT-1456;bSEXTANT-2456"),
  (0x1FB38, "aBLOCK SEXTANT-12456;bSEXTANT-3456;bSEXTANT-13456;bSEXTANT-23456"),
  (0x1FB3C, "aLOWER LEFT BLOCK DIAGONAL LOWER MIDDLE LEFT TO LOWER CENTRE;jRIGHT"),
  (0x1FB3E, "aLOWER LEFT BLOCK DIAGONAL UPPER MIDDLE LEFT TO LOWER CENTRE;jRIGHT"),
  (0x1FB40, "aLOWER LEFT BLOCK DIAGONAL UPPER LEFT TO LOWER CENTRE"),
  (0x1FB41, "aLOWER RIGHT BLOCK DIAGONAL UPPER MIDDLE LEFT TO UPPER CENTRE;jRIGHT"),
  (0x1FB43, "aLOWER RIGHT BLOCK DIAGONAL LOWER MIDDLE LEFT TO UPPER CENTRE;jRIGHT"),
  (0x1FB45, "aLOWER RIGHT BLOCK DIAGONAL LOWER LEFT TO UPPER CENTRE"),
  (0x1FB46, "aLOWER RIGHT BLOCK DIAGONAL LOWER MIDDLE LEFT TO UPPER MIDDLE RIGHT"),
  (0x1FB47, "aLOWER RIGHT BLOCK DIAGONAL LOWER CENTRE TO LOWER MIDDLE RIGHT"),
  (0x1FB48, "aLOWER RIGHT BLOCK DIAGONAL LOWER LEFT TO LOWER MIDDLE RIGHT"),
  (0x1FB49, "aLOWER RIGHT BLOCK DIAGONAL LOWER CENTRE TO UPPER MIDDLE RIGHT"),
  (0x1FB4A, "aLOWER RIGHT BLOCK DIAGONAL LOWER LEFT TO UPPER MIDDLE RIGHT;fCENTRE TO UPPER RIGHT"),
  (0x1FB4C, "aLOWER LEFT BLOCK DIAGONAL UPPER CENTRE TO UPPER MIDDLE RIGHT"),
  (0x1FB4D, "aLOWER LEFT BLOCK DIAGONAL UPPER LEFT TO UPPER MIDDLE RIGHT"),
  (0x1FB4E, "aLOWER LEFT BLOCK DIAGONAL UPPER CENTRE TO LOWER MIDDLE RIGHT"),
  (0x1FB4F, "aLOWER LEFT BLOCK DIAGONAL UPPER LEFT TO LOWER MIDDLE RIGHT;fCENTRE TO LOWER RIGHT"),
  (0x1FB51, "aLOWER LEFT BLOCK DIAGONAL UPPER MIDDLE LEFT TO LOWER MIDDLE RIGHT"),
  (0x1FB52, "aUPPER RIGHT BLOCK DIAGONAL LOWER MIDDLE LEFT TO LOWER CENTRE;jRIGHT"),
  (0x1FB54, "aUPPER RIGHT BLOCK DIAGONAL UPPER MIDDLE LEFT TO LOWER CENTRE;jRIGHT"),
  (0x1FB56, "aUPPER RIGHT BLOCK DIAGONAL UPPER LEFT TO LOWER CENTRE"),
  (0x1FB57, "aUPPER LEFT BLOCK DIAGONAL UPPER MIDDLE LEFT TO UPPER CENTRE;jRIGHT"),
  (0x1FB59, "aUPPER LEFT BLOCK DIAGONAL LOWER MIDDLE LEFT TO UPPER CENTRE;jRIGHT"),
  (0x1FB5B, "aUPPER LEFT BLOCK DIAGONAL LOWER LEFT TO UPPER CENTRE"),
  (0x1FB5C, "aUPPER LEFT BLOCK DIAGONAL LOWER MIDDLE LEFT TO UPPER MIDDLE RIGHT")]

/-- The lines of names from U+1FB5D on. -/
def namesFrom1FB5D : List (Nat × String) := [
  (0x1FB5D, "aUPPER LEFT BLOCK DIAGONAL LOWER CENTRE TO LOWER MIDDLE RIGHT"),
  (0x1FB5E, "aUPPER LEFT BLOCK DIAGONAL LOWER LEFT TO LOWER MIDDLE RIGHT"),
  (0x1FB5F, "aUPPER LEFT BLOCK DIAGONAL LOWER CENTRE TO UPPER MIDDLE RIGHT"),
  (0x1FB60, "aUPPER LEFT BLOCK DIAGONAL LOWER LEFT TO UPPER MIDDLE RIGHT;fCENTRE TO UPPER RIGHT"),
  (0x1FB62, "aUPPER RIGHT BLOCK DIAGONAL UPPER CENTRE TO UPPER MIDDLE RIGHT"),
  (0x1FB63, "aUPPER RIGHT BLOCK DIAGONAL UPPER LEFT TO UPPER MIDDLE RIGHT"),
  (0x1FB64, "aUPPER RIGHT BLOCK DIAGONAL UPPER CENTRE TO LOWER MIDDLE RIGHT"),
  (0x1FB65, "aUPPER RIGHT BLOCK DIAGONAL UPPER LEFT TO LOWER MIDDLE RIGHT;fCENTRE TO LOWER RIGHT"),
  (0x1FB67, "aUPPER RIGHT BLOCK DIAGONAL UPPER MIDDLE LEFT TO LOWER MIDDLE RIGHT"),
  (0x1FB68, "aUPPER AND RIGHT AND LOWER TRIANGULAR THREE QUARTERS BLOCK"),
  (0x1FB69, "aLEFT AND LOWER AND RIGHT TRIANGULAR THREE QUARTERS BLOCK"),
  (0x1FB6A, "aUPPER AND LEFT AND LOWER TRIANGULAR THREE QUARTERS BLOCK"),
  (0x1FB6B, "aLEFT AND UPPER AND RIGHT TRIANGULAR THREE QUARTERS BLOCK"),
  (0x1FB6C, "aLEFT TRIANGULAR ONE QUARTER BLOCK;aUPPER TRIANGULAR ONE QUARTER BLOCK"),
  (0x1FB6E, "aRIGHT TRIANGULAR ONE QUARTER BLOCK;aLOWER TRIANGULAR ONE QUARTER BLOCK"),
  (0x1FB70, "aVERTICAL ONE EIGHTH BLOCK-2;dBLOCK-3;dBLOCK-4;dBLOCK-5;dBLOCK-6;dBLOCK-7"),
  (0x1FB76, "aHORIZONTAL ONE EIGHTH BLOCK-2;dBLOCK-3;dBLOCK-4;dBLOCK-5;dBLOCK-6;dBLOCK-7"),
  (0x1FB7C, "aLEFT AND LOWER ONE EIGHTH BLOCK;cUPPER ONE EIGHTH BLOCK"),
  (0x1FB7E, "aRIGHT AND UPPER ONE EIGHTH BLOCK;cLOWER ONE EIGHTH BLOCK"),
  (0x1FB80, "aUPPER AND LOWER ONE EIGHTH BLOCK;aHORIZONTAL ONE EIGHTH BLOCK-1358"),
  (0x1FB82, "aUPPER ONE QUARTER BLOCK;bTHREE EIGHTHS BLOCK;bFIVE EIGHTHS BLOCK"),
  (0x1FB85, "aUPPER THREE QUARTERS BLOCK;bSEVEN EIGHTHS BLOCK;aRIGHT ONE QUARTER BLOCK"),
  (0x1FB88, "aRIGHT THREE EIGHTHS BLOCK;bFIVE EIGHTHS BLOCK;bTHREE QUARTERS BLOCK"),
  (0x1FB8B, "aRIGHT SEVEN EIGHTHS BLOCK;aLEFT HALF MEDIUM SHADE;aRIGHT HALF MEDIUM SHADE"),
  (0x1FB8E, "aUPPER HALF MEDIUM SHADE;aLOWER HALF MEDIUM SHADE;aINVERSE MEDIUM SHADE"),
  (0x1FB91, "aUPPER HALF BLOCK AND LOWER HALF INVERSE MEDIUM SHADE"),
  (0x1FB92, "aUPPER HALF INVERSE MEDIUM SHADE AND LOWER HALF BLOCK"),
  (0x1FB94, "aLEFT HALF INVERSE MEDIUM SHADE AND RIGHT HALF BLOCK;aCHECKER BOARD FILL"),
  (0x1FB96, "aINVERSE CHECKER BOARD FILL;aHEAVY HORIZONTAL FILL;aUPPER LEFT TO LOWER RIGHT FILL"),
  (0x1FB99, "aUPPER RIGHT TO LOWER LEFT FILL;bAND LOWER TRIANGULAR HALF BLOCK"),
  (0x1FB9B, "aLEFT AND RIGHT TRIANGULAR HALF BLOCK;aUPPER LEFT TRIANGULAR MEDIUM SHADE"),
  (0x1FB9D, "aUPPER RIGHT TRIANGULAR MEDIUM SHADE;aLOWER RIGHT TRIANGULAR MEDIUM SHADE"),
  (0x1FB9F, "aLOWER LEFT TRIANGULAR MEDIUM SHADE"),
  (0x1FBA0, "aBOX DRAWINGS LIGHT DIAGONAL UPPER CENTRE TO MIDDLE LEFT;iRIGHT"),
  (0x1FBA2, "aBOX DRAWINGS LIGHT DIAGONAL MIDDLE LEFT TO LOWER CENTRE;fRIGHT TO LOWER CENTRE"),
  (0x1FBA4, "aBOX DRAWINGS LIGHT DIAGONAL UPPER CENTRE TO MIDDLE LEFT TO LOWER CENTRE"),
  (0x1FBA5, "aBOX DRAWINGS LIGHT DIAGONAL UPPER CENTRE TO MIDDLE RIGHT TO LOWER CENTRE"),
  (0x1FBA6, "aBOX DRAWINGS LIGHT DIAGONAL MIDDLE LEFT TO LOWER CENTRE TO MIDDLE RIGHT"),
  (0x1FBA7, "aBOX DRAWINGS LIGHT DIAGONAL MIDDLE LEFT TO UPPER CENTRE TO MIDDLE RIGHT"),
  (0x1FBA8, "aBOX DRAWINGS LIGHT DIAGONAL UPPER CENTRE TO MIDDLE LEFT AND MIDDLE RIGHT TO LOWER CENTRE"),
  (0x1FBA9, "aBOX DRAWINGS LIGHT DIAGONAL UPPER CENTRE TO MIDDLE RIGHT AND MIDDLE LEFT TO LOWER CENTRE"),
  (0x1FBAA, "aBOX DRAWINGS LIGHT DIAGONAL UPPER CENTRE TO MIDDLE RIGHT TO LOWER CENTRE TO MIDDLE LEFT"),
  (0x1FBAB, "aBOX DRAWINGS LIGHT DIAGONAL UPPER CENTRE TO MIDDLE LEFT TO LOWER CENTRE TO MIDDLE RIGHT"),
  (0x1FBAC, "aBOX DRAWINGS LIGHT DIAGONAL MIDDLE LEFT TO UPPER CENTRE TO MIDDLE RIGHT TO LOWER CENTRE"),
  (0x1FBAD, "aBOX DRAWINGS LIGHT DIAGONAL MIDDLE RIGHT TO UPPER CENTRE TO MIDDLE LEFT TO LOWER CENTRE"),
  (0x1FBAE, "aBOX DRAWINGS LIGHT DIAGONAL DIAMOND;dHORIZONTAL WITH VERTICAL STROKE"),
  (0x1FBB0, "aARROWHEAD-SHAPED POINTER;aINVERSE CHECK MARK;aLEFT HALF RUNNING MAN"),
  (0x1FBB3, "aRIGHT HALF RUNNING MAN;aINVERSE DOWNWARDS ARROW WITH TIP LEFTWARDS"),
  (0x1FBB5, "aLEFTWARDS ARROW AND UPPER AND LOWER ONE EIGHTH BLOCK"),
  (0x1FBB6, "aRIGHTWARDS ARROW AND UPPER AND LOWER ONE EIGHTH BLOCK"),
  (0x1FBB7, "aDOWNWARDS ARROW AND RIGHT ONE EIGHTH BLOCK"),
  (0x1FBB8, "aUPWARDS ARROW AND RIGHT ONE EIGHTH BLOCK;aLEFT HALF FOLDER;aRIGHT HALF FOLDER"),
  (0x1FBBB, "aVOIDED GREEK CROSS;aRIGHT OPEN SQUARED DOT;aNEGATIVE DIAGONAL CROSS"),
  (0x1FBBE, "aNEGATIVE DIAGONAL MIDDLE RIGHT TO LOWER CENTRE;cDIAMOND"),
  (0x1FBC0, "aWHITE HEAVY SALTIRE WITH ROUNDED CORNERS;aLEFT THIRD WHITE RIGHT POINTING INDEX"),
  (0x1FBC2, "aMIDDLE THIRD WHITE RIGHT POINTING INDEX;aRIGHT THIRD WHITE RIGHT POINTING INDEX"),
  (0x1FBC4, "aNEGATIVE SQUARED QUESTION MARK;aSTICK FIGURE;cWITH ARMS RAISED;cLEANING LEFT;dRIGHT"),
  (0x1FBC9, "aSTICK FIGURE WITH DRESS;aWHITE UP-POINTING CHEVRON"),
  (0x1FBF0, "aSEGMENTED DIGIT ZERO;cONE;cTWO;cTHREE;cFOUR;cFIVE;cSIX;cSEVEN;cEIGHT;cNINE"),
  (0x2F800, "aCJK COMPATIBILITY IDEOGRAPH-2F800;cIDEOGRAPH-2F801;cIDEOGRAPH-2F802"),
  (0x2F803, "aCJK COMPATIBILITY IDEOGRAPH-2F803;cIDEOGRAPH-2F804;cIDEOGRAPH-2F805"),
  (0x2F806, "aCJK COMPATIBILITY IDEOGRAPH-2F806;cIDEOGRAPH-2F807;cIDEOGRAPH-2F808"),
  (0x2F809, "aCJK COMPATIBILITY IDEOGRAPH-2F809;cIDEOGRAPH-2F80A;cIDEOGRAPH-2F80B"),
  (0x2F80C, "aCJK COMPATIBILITY IDEOGRAPH-2F80C;cIDEOGRAPH-2F80D;cIDEOGRAPH-2F80E"),
  (0x2F80F, "aCJK COMPATIBILITY IDEOGRAPH-2F80F;cIDEOGRAPH-2F810;cIDEOGRAPH-2F811"),
  (0x2F812, "aCJK COMPATIBILITY IDEOGRAPH-2F812;cIDEOGRAPH-2F813;cIDEOGRAPH-2F814"),
  (0x2F815, "aCJK COMPATIBILITY IDEOGRAPH-2F815;cIDEOGRAPH-2F816;cIDEOGRAPH-2F817"),
  (0x2F818, "aCJK COMPATIBILITY IDEOGRAPH-2F818;cIDEOGRAPH-2F819;cIDEOGRAPH-2F81A"),
  (0x2F81B, "aCJK COMPATIBILITY IDEOGRAPH-2F81B;cIDEOGRAPH-2F81C;cIDEOGRAPH-2F81D"),
  (0x2F81E, "aCJK COMPATIBILITY IDEOGRAPH-2F81E;cIDEOGRAPH-2F81F;cIDEOGRAPH-2F820"),
  (0x2F821, "aCJK COMPATIBILITY IDEOGRAPH-2F821;cIDEOGRAPH-2F822;cIDEOGRAPH-2F823"),
  (0x2F824, "aCJK COMPATIBILITY IDEOGRAPH-2F824;cIDEOGRAPH-2F825;cIDEOGRAPH-2F826"),
  (0x2F827, "aCJK COMPATIBILITY IDEOGRAPH-2F827;cIDEOGRAPH-2F828;cIDEOGRAPH-2F829"),
  (0x2F82A, "aCJK COMPATIBILITY IDEOGRAPH-2F82A;cIDEOGRAPH-2F82B;cIDEOGRAPH-2F82C"),
  (0x2F82D, "aCJK COMPATIBILITY IDEOGRAPH-2F82D;cIDEOGRAPH-2F82E;cIDEOGRAPH-2F82F"),
  (0x2F830, "aCJK COMPATIBILITY IDEOGRAPH-2F830;cIDEOGRAPH-2F831;cIDEOGRAPH-2F832"),
  (0x2F833, "aCJK COMPATIBILITY IDEOGRAPH-2F833;cIDEOGRAPH-2F834;cIDEOGRAPH-2F835"),
  (0x2F836, "aCJK COMPATIBILITY IDEOGRAPH-2F836;cIDEOGRAPH-2F837;cIDEOGRAPH-2F838"),
  (0x2F839, "aCJK COMPATIBILITY IDEOGRAPH-2F839;cIDEOGRAPH-2F83A;cIDEOGRAPH-2F83B"),
  (0x2F83C, "aCJK COMPATIBILITY IDEOGRAPH-2F83C;cIDEOGRAPH-2F83D;cIDEOGRAPH-2F83E"),
  (0x2F83F, "aCJK COMPATIBILITY IDEOGRAPH-2F83F;cIDEOGRAPH-2F840;cIDEOGRAPH-2F841"),
  (0x2F842, "aCJK COMPATIBILITY IDEOGRAPH-2F842;cIDEOGRAPH-2F843;cIDEOGRAPH-2F844"),
  (0x2F845, "aCJK COMPATIBILITY IDEOGRAPH-2F845;cIDEOGRAPH-2F846;cIDEOGRAPH-2F847"),
  (0x2F848, "aCJK COMPATIBILITY IDEOGRAPH-2F848;cIDEOGRAPH-2F849;cIDEOGRAPH-2F84A"),
  (0x2F84B, "aCJK COMPATIBILITY IDEOGRAPH-2F84B;cIDEOGRAPH-2F84C;cIDEOGRAPH-2F84D"),
  (0x2F84E, "aCJK COMPATIBILITY IDEOGRAPH-2F84E;cIDEOGRAPH-2F84F;cIDEOGRAPH-2F850"),
  (0x2F851, "aCJK COMPATIBILITY IDEOGRAPH-2F851;cIDEOGRAPH-2F852;cIDEOGRAPH-2F853"),
  (0x2F854, "aCJK COMPATIBILITY IDEOGRAPH-2F854;cIDEOGRAPH-2F855;cIDEOGRAPH-2F856"),
  (0x2F857, "aCJK COMPATIBILITY IDEOGRAPH-2F857;cIDEOGRAPH-2F858;cIDEOGRAPH-2F859"),
  (0x2F85A, "aCJK COMPATIBILITY IDEOGRAPH-2F85A;cIDEOGRAPH-2F85B;cIDEOGRAPH-2F85C"),
  (0x2F85D, "aCJK COMPATIBILITY IDEOGRAPH-2F85D;cIDEOGRAPH-2F85E;cIDEOGRAPH-2F85F"),
  (0x2F860, "aCJK COMPATIBILITY IDEOGRAPH-2F860;cIDEOGRAPH-2F861;cIDEOGRAPH-2F862"),
  (0x2F863, "aCJK COMPATIBILITY IDEOGRAPH-2F863;cIDEOGRAPH-2F864;cIDEOGRAPH-2F865"),
  (0x2F866, "aCJK COMPATIBILITY IDEOGRAPH-2F866;cIDEOGRAPH-2F867;cIDEOGRAPH-2F868"),
  (0x2F869, "aCJK COMPATIBILITY IDEOGRAPH-2F869;cIDEOGRAPH-2F86A;cIDEOGRAPH-2F86B"),
  (0x2F86C, "aCJK COMPATIBILITY IDEOGRAPH-2F86C;cIDEOGRAPH-2F86D;cIDEOGRAPH-2F86E"),
  (0x2F86F, "aCJK COMPATIBILITY IDEOGRAPH-2F86F;cIDEOGRAPH-2F870;cIDEOGRAPH-2F871"),
  (0x2F872, "aCJK COMPATIBILITY IDEOGRAPH-2F872;cIDEOGRAPH-2F873;cIDEOGRAPH-2F874"),
  (0x2F875, "aCJK COMPATIBILITY IDEOGRAPH-2F875;cIDEOGRAPH-2F876;cIDEOGRAPH-2F877"),
  (0x2F878, "aCJK COMPATIBILITY IDEOGRAPH-2F878;cIDEOGRAPH-2F879;cIDEOGRAPH-2F87A"),
  (0x2F87B, "aCJK COMPATIBILITY IDEOGRAPH-2F87B;cIDEOGRAPH-2F87C;cIDEOGRAPH-2F87D"),
  (0x2F87E, "aCJK COMPATIBILITY IDEOGRAPH-2F87E;cIDEOGRAPH-2F87F;cIDEOGRAPH-2F880"),
  (0x2F881, "aCJK COMPATIBILITY IDEOGRAPH-2F881;cIDEOGRAPH-2F882;cIDEOGRAPH-2F883"),
  (0x2F884, "aCJK COMPATIBILITY IDEOGRAPH-2F884;cIDEOGRAPH-2F885;cIDEOGRAPH-2F886"),
  (0x2F887, "aCJK COMPATIBILITY IDEOGRAPH-2F887;cIDEOGRAPH-2F888;cIDEOGRAPH-2F889"),
  (0x2F88A, "aCJK COMPATIBILITY IDEOGRAPH-2F88A;cIDEOGRAPH-2F88B;cIDEOGRAPH-2F88C"),
  (0x2F88D, "aCJK COMPATIBILITY IDEOGRAPH-2F88D;cIDEOGRAPH-2F88E;cIDEOGRAPH-2F88F"),
  (0x2F890, "aCJK COMPATIBILITY IDEOGRAPH-2F890;cIDEOGRAPH-2F891;cIDEOGRAPH-2F892"),
  (0x2F893, "aCJK COMPATIBILITY IDEOGRAPH-2F893;cIDEOGRAPH-2F894;cIDEOGRAPH-2F895"),
  (0x2F896, "aCJK COMPATIBILITY IDEOGRAPH-2F896;cIDEOGRAPH-2F897;cIDEOGRAPH-2F898"),
  (0x2F899, "aCJK COMPATIBILITY IDEOGRAPH-2F899;cIDEOGRAPH-2F89A;cIDEOGRAPH-2F89B"),
  (0x2F89C, "aCJK COMPATIBILITY IDEOGRAPH-2F89C;cIDEOGRAPH-2F89D;cIDEOGRAPH-2F89E"),
  (0x2F89F, "aCJK COMPATIBILITY IDEOGRAPH-2F89F;cIDEOGRAPH-2F8A0;cIDEOGRAPH-2F8A1"),
  (0x2F8A2, "aCJK COMPATIBILITY IDEOGRAPH-2F8A2;cIDEOGRAPH-2F8A3;cIDEOGRAPH-2F8A4"),
  (0x2F8A5, "aCJK COMPATIBILITY IDEOGRAPH-2F8A5;cIDEOGRAPH-2F8A6;cIDEOGRAPH-2F8A7"),
  (0x2F8A8, "aCJK COMPATIBILITY IDEOGRAPH-2F8A8;cIDEOGRAPH-2F8A9;cIDEOGRAPH-2F8AA"),
  (0x2F8AB, "aCJK COMPATIBILITY IDEOGRAPH-2F8AB;cIDEOGRAPH-2F8AC;cIDEOGRAPH-2F8AD"),
  (0x2F8AE, "aCJK COMPATIBILITY IDEOGRAPH-2F8AE;cIDEOGRAPH-2F8AF;cIDEOGRAPH-2F8B0"),
  (0x2F8B1, "aCJK COMPATIBILITY IDEOGRAPH-2F8B1;cIDEOGRAPH-2F8B2;cIDEOGRAPH-2F8B3"),
  (0x2F8B4, "aCJK COMPATIBILITY IDEOGRAPH-2F8B4;cIDEOGRAPH-2F8B5;cIDEOGRAPH-2F8B6"),
  (0x2F8B7, "aCJK COMPATIBILITY IDEOGRAPH-2F8B7;cIDEOGRAPH-2F8B8;cIDEOGRAPH-2F8B9"),
  (0x2F8BA, "aCJK COMPATIBILITY IDEOGRAPH-2F8BA;cIDEOGRAPH-2F8BB;cIDEOGRAPH-2F8BC"),
  (0x2F8BD, "aCJK COMPATIBILITY IDEOGRAPH-2F8BD;cIDEOGRAPH-2F8BE;cIDEOGRAPH-2F8BF"),
  (0x2F8C0, "aCJK COMPATIBILITY IDEOGRAPH-2F8C0;cIDEOGRAPH-2F8C1;cIDEOGRAPH-2F8C2"),
  (0x2F8C3, "aCJK COMPATIBILITY IDEOGRAPH-2F8C3;cIDEOGRAPH-2F8C4;cIDEOGRAPH-2F8C5"),
  (0x2F8C6, "aCJK COMPATIBILITY IDEOGRAPH-2F8C6;cIDEOGRAPH-2F8C7;cIDEOGRAPH-2F8C8"),
  (0x2F8C9, "aCJK COMPATIBILITY IDEOGRAPH-2F8C9;cIDEOGRAPH-2F8CA;cIDEOGRAPH-2F8CB"),
  (0x2F8CC, "aCJK COMPATIBILITY IDEOGRAPH-2F8CC;cIDEOGRAPH-2F8CD;cIDEOGRAPH-2F8CE"),
  (0x2F8CF, "aCJK COMPATIBILITY IDEOGRAPH-2F8CF;cIDEOGRAPH-2F8D0;cIDEOGRAPH-2F8D1"),
  (0x2F8D2, "aCJK COMPATIBILITY IDEOGRAPH-2F8D2;cIDEOGRAPH-2F8D3;cIDEOGRAPH-2F8D4"),
  (0x2F8D5, "aCJK COMPATIBILITY IDEOGRAPH-2F8D5;cIDEOGRAPH-2F8D6;cIDEOGRAPH-2F8D7"),
  (0x2F8D8, "aCJK COMPATIBILITY IDEOGRAPH-2F8D8;cIDEOGRAPH-2F8D9;cIDEOGRAPH-2F8DA"),
  (0x2F8DB, "aCJK COMPATIBILITY IDEOGRAPH-2F8DB;cIDEOGRAPH-2F8DC;cIDEOGRAPH-2F8DD"),
  (0x2F8DE, "aCJK COMPATIBILITY IDEOGRAPH-2F8DE;cIDEOGRAPH-2F8DF;cIDEOGRAPH-2F8E0"),
  (0x2F8E1, "aCJK COMPATIBILITY IDEOGRAPH-2F8E1;cIDEOGRAPH-2F8E2;cIDEOGRAPH-2F8E3"),
  (0x2F8E4, "aCJK COMPATIBILITY IDEOGRAPH-2F8E4;cIDEOGRAPH-2F8E5;cIDEOGRAPH-2F8E6"),
  (0x2F8E7, "aCJK COMPATIBILITY IDEOGRAPH-2F8E7;cIDEOGRAPH-2F8E8;cIDEOGRAPH-2F8E9"),
  (0x2F8EA, "aCJK COMPATIBILITY IDEOGRAPH-2F8EA;cIDEOGRAPH-2F8EB;cIDEOGRAPH-2F8EC"),
  (0x2F8ED, "aCJK COMPATIBILITY IDEOGRAPH-2F8ED;cIDEOGRAPH-2F8EE;cIDEOGRAPH-2F8EF"),
  (0x2F8F0, "aCJK COMPATIBILITY IDEOGRAPH-2F8F0;cIDEOGRAPH-2F8F1;cIDEOGRAPH-2F8F2"),
  (0x2F8F3, "aCJK COMPATIBILITY IDEOGRAPH-2F8F3;cIDEOGRAPH-2F8F4;cIDEOGRAPH-2F8F5"),
  (0x2F8F6, "aCJK COMPATIBILITY IDEOGRAPH-2F8F6;cIDEOGRAPH-2F8F7;cIDEOGRAPH-2F8F8"),
  (0x2F8F9, "aCJK COMPATIBILITY IDEOGRAPH-2F8F9;cIDEOGRAPH-2F8FA;cIDEOGRAPH-2F8FB"),
  (0x2F8FC, "aCJK COMPATIBILITY IDEOGRAPH-2F8FC;cIDEOGRAPH-2F8FD;cIDEOGRAPH-2F8FE"),
  (0x2F8FF, "aCJK COMPATIBILITY IDEOGRAPH-2F8FF;cIDEOGRAPH-2F900;cIDEOGRAPH-2F901"),
  (0x2F902, "aCJK COMPATIBILITY IDEOGRAPH-2F902;cIDEOGRAPH-2F903;cIDEOGRAPH-2F904"),
  (0x2F905, "aCJK COMPATIBILITY IDEOGRAPH-2F905;cIDEOGRAPH-2F906;cIDEOGRAPH-2F907"),
  (0x2F908, "aCJK COMPATIBILITY IDEOGRAPH-2F908;cIDEOGRAPH-2F909;cIDEOGRAPH-2F90A"),
  (0x2F90B, "aCJK COMPATIBILITY IDEOGRAPH-2F90B;cIDEOGRAPH-2F90C;cIDEOGRAPH-2F90D"),
  (0x2F90E, "aCJK COMPATIBILITY IDEOGRAPH-2F90E;cIDEOGRAPH-2F90F;cIDEOGRAPH-2F910"),
  (0x2F911, "aCJK COMPATIBILITY IDEOGRAPH-2F911;cIDEOGRAPH-2F912;cIDEOGRAPH-2F913"),
  (0x2F914, "aCJK COMPATIBILITY IDEOGRAPH-2F914;cIDEOGRAPH-2F915;cIDEOGRAPH-2F916"),
  (0x2F917, "aCJK COMPATIBILITY IDEOGRAPH-2F917;cIDEOGRAPH-2F918;cIDEOGRAPH-2F919"),
  (0x2F91A, "aCJK COMPATIBILITY IDEOGRAPH-2F91A;cIDEOGRAPH-2F91B;cIDEOGRAPH-2F91C"),
  (0x2F91D, "aCJK COMPATIBILITY IDEOGRAPH-2F91D;cIDEOGRAPH-2F91E;cIDEOGRAPH-2F91F"),
  (0x2F920, "aCJK COMPATIBILITY IDEOGRAPH-2F920;cIDEOGRAPH-2F921;cIDEOGRAPH-2F922"),
  (0x2F923, "aCJK COMPATIBILITY IDEOGRAPH-2F923;cIDEOGRAPH-2F924;cIDEOGRAPH-2F925"),
  (0x2F926, "aCJK COMPATIBILITY IDEOGRAPH-2F926;cIDEOGRAPH-2F927;cIDEOGRAPH-2F928"),
  (0x2F929, "aCJK COMPATIBILITY IDEOGRAPH-2F929;cIDEOGRAPH-2F92A;cIDEOGRAPH-2F92B"),
  (0x2F92C, "aCJK COMPATIBILITY IDEOGRAPH-2F92C;cIDEOGRAPH-2F92D;cIDEOGRAPH-2F92E"),
  (0x2F92F, "aCJK COMPATIBILITY IDEOGRAPH-2F92F;cIDEOGRAPH-2F930;cIDEOGRAPH-2F931"),
  (0x2F932, "aCJK COMPATIBILITY IDEOGRAPH-2F932;cIDEOGRAPH-2F933;cIDEOGRAPH-2F934"),
  (0x2F935, "aCJK COMPATIBILITY IDEOGRAPH-2F935;cIDEOGRAPH-2F936;cIDEOGRAPH-2F937"),
  (0x2F938, "aCJK COMPATIBILITY IDEOGRAPH-2F938;cIDEOGRAPH-2F939;cIDEOGRAPH-2F93A"),
  (0x2F93B, "aCJK COMPATIBILITY IDEOGRAPH-2F93B;cIDEOGRAPH-2F93C;cIDEOGRAPH-2F93D"),
  (0x2F93E, "aCJK COMPATIBILITY IDEOGRAPH-2F93E;cIDEOGRAPH-2F93F;cIDEOGRAPH-2F940"),
  (0x2F941, "aCJK COMPATIBILITY IDEOGRAPH-2F941;cIDEOGRAPH-2F942;cIDEOGRAPH-2F943"),
  (0x2F944, "aCJK COMPATIBILITY IDEOGRAPH-2F944;cIDEOGRAPH-2F945;cIDEOGRAPH-2F946"),
  (0x2F947, "aCJK COMPATIBILITY IDEOGRAPH-2F947;cIDEOGRAPH-2F948;cIDEOGRAPH-2F949"),
  (0x2F94A, "aCJK COMPATIBILITY IDEOGRAPH-2F94A;cIDEOGRAPH-2F94B;cIDEOGRAPH-2F94C"),
  (0x2F94D, "aCJK COMPATIBILITY IDEOGRAPH-2F94D;cIDEOGRAPH-2F94E;cIDEOGRAPH-2F94F"),
  (0x2F950, "aCJK COMPATIBILITY IDEOGRAPH-2F950;cIDEOGRAPH-2F951;cIDEOGRAPH-2F952"),
  (0x2F953, "aCJK COMPATIBILITY IDEOGRAPH-2F953;cIDEOGRAPH-2F954;cIDEOGRAPH-2F955"),
  (0x2F956, "aCJK COMPATIBILITY IDEOGRAPH-2F956;cIDEOGRAPH-2F957;cIDEOGRAPH-2F958"),
  (0x2F959, "aCJK COMPATIBILITY IDEOGRAPH-2F959;cIDEOGRAPH-2F95A;cIDEOGRAPH-2F95B"),
  (0x2F95C, "aCJK COMPATIBILITY IDEOGRAPH-2F95C;cIDEOGRAPH-2F95D;cIDEOGRAPH-2F95E"),
  (0x2F95F, "aCJK COMPATIBILITY IDEOGRAPH-2F95F;cIDEOGRAPH-2F960;cIDEOGRAPH-2F961"),
  (0x2F962, "aCJK COMPATIBILITY IDEOGRAPH-2F962;cIDEOGRAPH-2F963;cIDEOGRAPH-2F964"),
  (0x2F965, "aCJK COMPATIBILITY IDEOGRAPH-2F965;cIDEOGRAPH-2F966;cIDEOGRAPH-2F967"),
  (0x2F968, "aCJK COMPATIBILITY IDEOGRAPH-2F968;cIDEOGRAPH-2F969;cIDEOGRAPH-2F96A"),
  (0x2F96B, "aCJK COMPATIBILITY IDEOGRAPH-2F96B;cIDEOGRAPH-2F96C;cIDEOGRAPH-2F96D"),
  (0x2F96E, "aCJK COMPATIBILITY IDEOGRAPH-2F96E;cIDEOGRAPH-2F96F;cIDEOGRAPH-2F970"),
  (0x2F971, "aCJK COMPATIBILITY IDEOGRAPH-2F971;cIDEOGRAPH-2F972;cIDEOGRAPH-2F973"),
  (0x2F974, "aCJK COMPATIBILITY IDEOGRAPH-2F974;cIDEOGRAPH-2F975;cIDEOGRAPH-2F976"),
  (0x2F977, "aCJK COMPATIBILITY IDEOGRAPH-2F977;cIDEOGRAPH-2F978;cIDEOGRAPH-2F979"),
  (0x2F97A, "aCJK COMPATIBILITY IDEOGRAPH-2F97A;cIDEOGRAPH-2F97B;cIDEOGRAPH-2F97C"),
  (0x2F97D, "aCJK COMPATIBILITY IDEOGRAPH-2F97D;cIDEOGRAPH-2F97E;cIDEOGRAPH-2F97F"),
  (0x2F980, "aCJK COMPATIBILITY IDEOGRAPH-2F980;cIDEOGRAPH-2F981;cIDEOGRAPH-2F982"),
  (0x2F983, "aCJK COMPATIBILITY IDEOGRAPH-2F983;cIDEOGRAPH-2F984;cIDEOGRAPH-2F985"),
  (0x2F986, "aCJK COMPATIBILITY IDEOGRAPH-2F986;cIDEOGRAPH-2F987;cIDEOGRAPH-2F988"),
  (0x2F989, "aCJK COMPATIBILITY IDEOGRAPH-2F989;cIDEOGRAPH-2F98A;cIDEOGRAPH-2F98B"),
  (0x2F98C, "aCJK COMPATIBILITY IDEOGRAPH-2F98C;cIDEOGRAPH-2F98D;cIDEOGRAPH-2F98E"),
  (0x2F98F, "aCJK COMPATIBILITY IDEOGRAPH-2F98F;cIDEOGRAPH-2F990;cIDEOGRAPH-2F991"),
  (0x2F992, "aCJK COMPATIBILITY IDEOGRAPH-2F992;cIDEOGRAPH-2F993;cIDEOGRAPH-2F994"),
  (0x2F995, "aCJK COMPATIBILITY IDEOGRAPH-2F995;cIDEOGRAPH-2F996;cIDEOGRAPH-2F997"),
  (0x2F998, "aCJK COMPATIBILITY IDEOGRAPH-2F998;cIDEOGRAPH-2F999;cIDEOGRAPH-2F99A"),
  (0x2F99B, "aCJK COMPATIBILITY IDEOGRAPH-2F99B;cIDEOGRAPH-2F99C;cIDEOGRAPH-2F99D"),
  (0x2F99E, "aCJK COMPATIBILITY IDEOGRAPH-2F99E;cIDEOGRAPH-2F99F;cIDEOGRAPH-2F9A0"),
  (0x2F9A1, "aCJK COMPATIBILITY IDEOGRAPH-2F9A1;cIDEOGRAPH-2F9A2;cIDEOGRAPH-2F9A3"),
  (0x2F9A4, "aCJK COMPATIBILITY IDEOGRAPH-2F9A4;cIDEOGRAPH-2F9A5;cIDEOGRAPH-2F9A6"),
  (0x2F9A7, "aCJK COMPATIBILITY IDEOGRAPH-2F9A7;cIDEOGRAPH-2F9A8;cIDEOGRAPH-2F9A9"),
  (0x2F9AA, "aCJK COMPATIBILITY IDEOGRAPH-2F9AA;cIDEOGRAPH-2F9AB;cIDEOGRAPH-2F9AC"),
  (0x2F9AD, "aCJK COMPATIBILITY IDEOGRAPH-2F9AD;cIDEOGRAPH-2F9AE;cIDEOGRAPH-2F9AF"),
  (0x2F9B0, "aCJK COMPATIBILITY IDEOGRAPH-2F9B0;cIDEOGRAPH-2F9B1;cIDEOGRAPH-2F9B2"),
  (0x2F9B3, "aCJK COMPATIBILITY IDEOGRAPH-2F9B3;cIDEOGRAPH-2F9B4;cIDEOGRAPH-2F9B5"),
  (0x2F9B6, "aCJK COMPATIBILITY IDEOGRAPH-2F9B6;cIDEOGRAPH-2F9B7;cIDEOGRAPH-2F9B8"),
  (0x2F9B9, "aCJK COMPATIBILITY IDEOGRAPH-2F9B9;cIDEOGRAPH-2F9BA;cIDEOGRAPH-2F9BB"),
  (0x2F9BC, "aCJK COMPATIBILITY IDEOGRAPH-2F9BC;cIDEOGRAPH-2F9BD;cIDEOGRAPH-2F9BE"),
  (0x2F9BF, "aCJK COMPATIBILITY IDEOGRAPH-2F9BF;cIDEOGRAPH-2F9C0;cIDEOGRAPH-2F9C1"),
  (0x2F9C2, "aCJK COMPATIBILITY IDEOGRAPH-2F9C2;cIDEOGRAPH-2F9C3;cIDEOGRAPH-2F9C4"),
  (0x2F9C5, "aCJK COMPATIBILITY IDEOGRAPH-2F9C5;cIDEOGRAPH-2F9C6;cIDEOGRAPH-2F9C7"),
  (0x2F9C8, "aCJK COMPATIBILITY IDEOGRAPH-2F9C8;cIDEOGRAPH-2F9C9;cIDEOGRAPH-2F9CA"),
  (0x2F9CB, "aCJK COMPATIBILITY IDEOGRAPH-2F9CB;cIDEOGRAPH-2F9CC;cIDEOGRAPH-2F9CD"),
  (0x2F9CE, "aCJK COMPATIBILITY IDEOGRAPH-2F9CE;cIDEOGRAPH-2F9CF;cIDEOGRAPH-2F9D0"),
  (0x2F9D1, "aCJK COMPATIBILITY IDEOGRAPH-2F9D1;cIDEOGRAPH-2F9D2;cIDEOGRAPH-2F9D3"),
  (0x2F9D4, "aCJK COMPATIBILITY IDEOGRAPH-2F9D4;cIDEOGRAPH-2F9D5;cIDEOGRAPH-2F9D6"),
  (0x2F9D7, "aCJK COMPATIBILITY IDEOGRAPH-2F9D7;cIDEOGRAPH-2F9D8;cIDEOGRAPH-2F9D9"),
  (0x2F9DA, "aCJK COMPATIBILITY IDEOGRAPH-2F9DA;cIDEOGRAPH-2F9DB;cIDEOGRAPH-2F9DC"),
  (0x2F9DD, "aCJK COMPATIBILITY IDEOGRAPH-2F9DD;cIDEOGRAPH-2F9DE;cIDEOGRAPH-2F9DF"),
  (0x2F9E0, "aCJK COMPATIBILITY IDEOGRAPH-2F9E0;cIDEOGRAPH-2F9E1;cIDEOGRAPH-2F9E2")]

/-- The lines of names from U+2F9E3 on. -/
def namesFrom2F9E3 : List (Nat × String) := [
  (0x2F9E3, "aCJK COMPATIBILITY IDEOGRAPH-2F9E3;cIDEOGRAPH-2F9E4;cIDEOGRAPH-2F9E5"),
  (0x2F9E6, "aCJK COMPATIBILITY IDEOGRAPH-2F9E6;cIDEOGRAPH-2F9E7;cIDEOGRAPH-2F9E8"),
  (0x2F9E9, "aCJK COMPATIBILITY IDEOGRAPH-2F9E9;cIDEOGRAPH-2F9EA;cIDEOGRAPH-2F9EB"),
  (0x2F9EC, "aCJK COMPATIBILITY IDEOGRAPH-2F9EC;cIDEOGRAPH-2F9ED;cIDEOGRAPH-2F9EE"),
  (0x2F9EF, "aCJK COMPATIBILITY IDEOGRAPH-2F9EF;cIDEOGRAPH-2F9F0;cIDEOGRAPH-2F9F1"),
  (0x2F9F2, "aCJK COMPATIBILITY IDEOGRAPH-2F9F2;cIDEOGRAPH-2F9F3;cIDEOGRAPH-2F9F4"),
  (0x2F9F5, "aCJK COMPATIBILITY IDEOGRAPH-2F9F5;cIDEOGRAPH-2F9F6;cIDEOGRAPH-2F9F7"),
  (0x2F9F8, "aCJK COMPATIBILITY IDEOGRAPH-2F9F8;cIDEOGRAPH-2F9F9;cIDEOGRAPH-2F9FA"),
  (0x2F9FB, "aCJK COMPATIBILITY IDEOGRAPH-2F9FB;cIDEOGRAPH-2F9FC;cIDEOGRAPH-2F9FD"),
  (0x2F9FE, "aCJK COMPATIBILITY IDEOGRAPH-2F9FE;cIDEOGRAPH-2F9FF;cIDEOGRAPH-2FA00"),
  (0x2FA01, "aCJK COMPATIBILITY IDEOGRAPH-2FA01;cIDEOGRAPH-2FA02;cIDEOGRAPH-2FA03"),
  (0x2FA04, "aCJK COMPATIBILITY IDEOGRAPH-2FA04;cIDEOGRAPH-2FA05;cIDEOGRAPH-2FA06"),
  (0x2FA07, "aCJK COMPATIBILITY IDEOGRAPH-2FA07;cIDEOGRAPH-2FA08;cIDEOGRAPH-2FA09"),
  (0x2FA0A, "aCJK COMPATIBILITY IDEOGRAPH-2FA0A;cIDEOGRAPH-2FA0B;cIDEOGRAPH-2FA0C"),
  (0x2FA0D, "aCJK COMPATIBILITY IDEOGRAPH-2FA0D;cIDEOGRAPH-2FA0E;cIDEOGRAPH-2FA0F"),
  (0x2FA10, "aCJK COMPATIBILITY IDEOGRAPH-2FA10;cIDEOGRAPH-2FA11;cIDEOGRAPH-2FA12"),
  (0x2FA13, "aCJK COMPATIBILITY IDEOGRAPH-2FA13;cIDEOGRAPH-2FA14;cIDEOGRAPH-2FA15"),
  (0x2FA16, "aCJK COMPATIBILITY IDEOGRAPH-2FA16;cIDEOGRAPH-2FA17;cIDEOGRAPH-2FA18"),
  (0x2FA19, "aCJK COMPATIBILITY IDEOGRAPH-2FA19;cIDEOGRAPH-2FA1A;cIDEOGRAPH-2FA1B"),
  (0x2FA1C, "aCJK COMPATIBILITY IDEOGRAPH-2FA1C;cIDEOGRAPH-2FA1D"),
  (0xE0001, "aLANGUAGE TAG"),
  (0xE0020, "aTAG SPACE;bEXCLAMATION MARK;bQUOTATION MARK;bNUMBER SIGN;bDOLLAR SIGN;bPERCENT SIGN"),
  (0xE0026, "aTAG AMPERSAND;bAPOSTROPHE;bLEFT PARENTHESIS;bRIGHT PARENTHESIS;bASTERISK;bPLUS SIGN"),
  (0xE002C, "aTAG COMMA;bHYPHEN-MINUS;bFULL STOP;bSOLIDUS;bDIGIT ZERO;cONE;cTWO;cTHREE;cFOUR"),
  (0xE0035, "aTAG DIGIT FIVE;cSIX;cSEVEN;cEIGHT;cNINE;bCOLON;bSEMICOLON;bLESS-THAN SIGN"),
  (0xE003D, "aTAG EQUALS SIGN;bGREATER-THAN SIGN;bQUESTION MARK;bCOMMERCIAL AT"),
  (0xE0041, "aTAG LATIN CAPITAL LETTER A;eB;eC;eD;eE;eF;eG;eH;eI;eJ;eK;eL;eM;eN;eO;eP;eQ;eR;eS;eT"),
  (0xE0055, "aTAG LATIN CAPITAL LETTER U;eV;eW;eX;eY;eZ;bLEFT SQUARE BRACKET;bREVERSE SOLIDUS"),
  (0xE005D, "aTAG RIGHT SQUARE BRACKET;bCIRCUMFLEX ACCENT;bLOW LINE;bGRAVE ACCENT"),
  (0xE0061, "aTAG LATIN SMALL LETTER A;eB;eC;eD;eE;eF;eG;eH;eI;eJ;eK;eL;eM;eN;eO;eP;eQ;eR;eS;eT"),
  (0xE0075, "aTAG LATIN SMALL LETTER U;eV;eW;eX;eY;eZ;bLEFT CURLY BRACKET;bVERTICAL LINE"),
  (0xE007D, "aTAG RIGHT CURLY BRACKET;bTILDE;aCANCEL TAG"),
  (0xE0100, "aVARIATION SELECTOR-17;bSELECTOR-18;bSELECTOR-19;bSELECTOR-20;bSELECTOR-21"),
  (0xE0105, "aVARIATION SELECTOR-22;bSELECTOR-23;bSELECTOR-24;bSELECTOR-25;bSELECTOR-26"),
  (0xE010A, "aVARIATION SELECTOR-27;bSELECTOR-28;bSELECTOR-29;bSELECTOR-30;bSELECTOR-31"),
  (0xE010F, "aVARIATION SELECTOR-32;bSELECTOR-33;bSELECTOR-34;bSELECTOR-35;bSELECTOR-36"),
  (0xE0114, "aVARIATION SELECTOR-37;bSELECTOR-38;bSELECTOR-39;bSELECTOR-40;bSELECTOR-41"),
  (0xE0119, "aVARIATION SELECTOR-42;bSELECTOR-43;bSELECTOR-44;bSELECTOR-45;bSELECTOR-46"),
  (0xE011E, "aVARIATION SELECTOR-47;bSELECTOR-48;bSELECTOR-49;bSELECTOR-50;bSELECTOR-51"),
  (0xE0123, "aVARIATION SELECTOR-52;bSELECTOR-53;bSELECTOR-54;bSELECTOR-55;bSELECTOR-56"),
  (0xE0128, "aVARIATION SELECTOR-57;bSELECTOR-58;bSELECTOR-59;bSELECTOR-60;bSELECTOR-61"),
  (0xE012D, "aVARIATION SELECTOR-62;bSELECTOR-63;bSELECTOR-64;bSELECTOR-65;bSELECTOR-66"),
  (0xE0132, "aVARIATION SELECTOR-67;bSELECTOR-68;bSELECTOR-69;bSELECTOR-70;bSELECTOR-71"),
  (0xE0137, "aVARIATION SELECTOR-72;bSELECTOR-73;bSELECTOR-74;bSELECTOR-75;bSELECTOR-76"),
  (0xE013C, "aVARIATION SELECTOR-77;bSELECTOR-78;bSELECTOR-79;bSELECTOR-80;bSELECTOR-81"),
  (0xE0141, "aVARIATION SELECTOR-82;bSELECTOR-83;bSELECTOR-84;bSELECTOR-85;bSELECTOR-86"),
  (0xE0146, "aVARIATION SELECTOR-87;bSELECTOR-88;bSELECTOR-89;bSELECTOR-90;bSELECTOR-91"),
  (0xE014B, "aVARIATION SELECTOR-92;bSELECTOR-93;bSELECTOR-94;bSELECTOR-95;bSELECTOR-96"),
  (0xE0150, "aVARIATION SELECTOR-97;bSELECTOR-98;bSELECTOR-99;bSELECTOR-100;bSELECTOR-101"),
  (0xE0155, "aVARIATION SELECTOR-102;bSELECTOR-103;bSELECTOR-104;bSELECTOR-105;bSELECTOR-106"),
  (0xE015A, "aVARIATION SELECTOR-107;bSELECTOR-108;bSELECTOR-109;bSELECTOR-110;bSELECTOR-111"),
  (0xE015F, "aVARIATION SELECTOR-112;bSELECTOR-113;bSELECTOR-114;bSELECTOR-115;bSELECTOR-116"),
  (0xE0164, "aVARIATION SELECTOR-117;bSELECTOR-118;bSELECTOR-119;bSELECTOR-120;bSELECTOR-121"),
  (0xE0169, "aVARIATION SELECTOR-122;bSELECTOR-123;bSELECTOR-124;bSELECTOR-125;bSELECTOR-126"),
  (0xE016E, "aVARIATION SELECTOR-127;bSELECTOR-128;bSELECTOR-129;bSELECTOR-130;bSELECTOR-131"),
  (0xE0173, "aVARIATION SELECTOR-132;bSELECTOR-133;bSELECTOR-134;bSELECTOR-135;bSELECTOR-136"),
  (0xE0178, "aVARIATION SELECTOR-137;bSELECTOR-138;bSELECTOR-139;bSELECTOR-140;bSELECTOR-141"),
  (0xE017D, "aVARIATION SELECTOR-142;bSELECTOR-143;bSELECTOR-144;bSELECTOR-145;bSELECTOR-146"),
  (0xE0182, "aVARIATION SELECTOR-147;bSELECTOR-148;bSELECTOR-149;bSELECTOR-150;bSELECTOR-151"),
  (0xE0187, "aVARIATION SELECTOR-152;bSELECTOR-153;bSELECTOR-154;bSELECTOR-155;bSELECTOR-156"),
  (0xE018C, "aVARIATION SELECTOR-157;bSELECTOR-158;bSELECTOR-159;bSELECTOR-160;bSELECTOR-161"),
  (0xE0191, "aVARIATION SELECTOR-162;bSELECTOR-163;bSELECTOR-164;bSELECTOR-165;bSELECTOR-166"),
  (0xE0196, "aVARIATION SELECTOR-167;bSELECTOR-168;bSELECTOR-169;bSELECTOR-170;bSELECTOR-171"),
  (0xE019B, "aVARIATION SELECTOR-172;bSELECTOR-173;bSELECTOR-174;bSELECTOR-175;bSELECTOR-176"),
  (0xE01A0, "aVARIATION SELECTOR-177;bSELECTOR-178;bSELECTOR-179;bSELECTOR-180;bSELECTOR-181"),
  (0xE01A5, "aVARIATION SELECTOR-182;bSELECTOR-183;bSELECTOR-184;bSELECTOR-185;bSELECTOR-186"),
  (0xE01AA, "aVARIATION SELECTOR-187;bSELECTOR-188;bSELECTOR-189;bSELECTOR-190;bSELECTOR-191"),
  (0xE01AF, "aVARIATION SELECTOR-192;bSELECTOR-193;bSELECTOR-194;bSELECTOR-195;bSELECTOR-196"),
  (0xE01B4, "aVARIATION SELECTOR-197;bSELECTOR-198;bSELECTOR-199;bSELECTOR-200;bSELECTOR-201"),
  (0xE01B9, "aVARIATION SELECTOR-202;bSELECTOR-203;bSELECTOR-204;bSELECTOR-205;bSELECTOR-206"),
  (0xE01BE, "aVARIATION SELECTOR-207;bSELECTOR-208;bSELECTOR-209;bSELECTOR-210;bSELECTOR-211"),
  (0xE01C3, "aVARIATION SELECTOR-212;bSELECTOR-213;bSELECTOR-214;bSELECTOR-215;bSELECTOR-216"),
  (0xE01C8, "aVARIATION SELECTOR-217;bSELECTOR-218;bSELECTOR-219;bSELECTOR-220;bSELECTOR-221"),
  (0xE01CD, "aVARIATION SELECTOR-222;bSELECTOR-223;bSELECTOR-224;bSELECTOR-225;bSELECTOR-226"),
  (0xE01D2, "aVARIATION SELECTOR-227;bSELECTOR-228;bSELECTOR-229;bSELECTOR-230;bSELECTOR-231"),
  (0xE01D7, "aVARIATION SELECTOR-232;bSELECTOR-233;bSELECTOR-234;bSELECTOR-235;bSELECTOR-236"),
  (0xE01DC, "aVARIATION SELECTOR-237;bSELECTOR-238;bSELECTOR-239;bSELECTOR-240;bSELECTOR-241"),
  (0xE01E1, "aVARIATION SELECTOR-242;bSELECTOR-243;bSELECTOR-244;bSELECTOR-245;bSELECTOR-246"),
  (0xE01E6, "aVARIATION SELECTOR-247;bSELECTOR-248;bSELECTOR-249;bSELECTOR-250;bSELECTOR-251"),
  (0xE01EB, "aVARIATION SELECTOR-252;bSELECTOR-253;bSELECTOR-254;bSELECTOR-255;bSELECTOR-256")]

/-- The lines of names, by code point. -/
def nameLines : List (Nat × String) :=
  namesFrom0020 ++ namesFrom02F0 ++ namesFrom0699 ++ namesFrom0B55 ++ namesFrom1181 ++
  namesFrom1930 ++ namesFrom1E49 ++ namesFrom2016 ++ namesFrom2382 ++ namesFrom26E0 ++
  namesFrom298E ++ namesFrom2BA6 ++ namesFrom3034 ++ namesFromA4D0 ++ namesFromAA4A ++
  namesFromFB7C ++ namesFromFD8F ++ namesFrom10182 ++ namesFrom10B12 ++ namesFrom116B8 ++
  namesFrom122D2 ++ namesFrom14428 ++ namesFrom188B4 ++ namesFrom18C32 ++ namesFrom1CF1D ++
  namesFrom1D4F2 ++ namesFrom1D984 ++ namesFrom1EE34 ++ namesFrom1F502 ++ namesFrom1F81C ++
  namesFrom1FB5D ++ namesFrom2F9E3

/-- Aliases of the characters from U+0000 on. -/
def aliasesFrom0000 : List (Nat × String) := [
  (0x0, "NULL"), (0x0, "NUL"), (0x1, "START OF HEADING"), (0x1, "SOH"), (0x2, "START OF TEXT"),
  (0x2, "STX"), (0x3, "END OF TEXT"), (0x3, "ETX"), (0x4, "END OF TRANSMISSION"), (0x4, "EOT"),
  (0x5, "ENQUIRY"), (0x5, "ENQ"), (0x6, "ACKNOWLEDGE"), (0x6, "ACK"), (0x7, "ALERT"), (0x7, "BEL"),
  (0x8, "BACKSPACE"), (0x8, "BS"), (0x9, "CHARACTER TABULATION"), (0x9, "HORIZONTAL TABULATION"),
  (0x9, "HT"), (0x9, "TAB"), (0xA, "LINE FEED"), (0xA, "NEW LINE"), (0xA, "END OF LINE"),
  (0xA, "EOL"), (0xA, "LF"), (0xA, "NL"), (0xB, "LINE TABULATION"), (0xB, "VERTICAL TABULATION"),
  (0xB, "VT"), (0xC, "FORM FEED"), (0xC, "FF"), (0xD, "CARRIAGE RETURN"), (0xD, "CR"),
  (0xE, "SHIFT OUT"), (0xE, "LOCKING-SHIFT ONE"), (0xE, "SO"), (0xF, "SHIFT IN"),
  (0xF, "LOCKING-SHIFT ZERO"), (0xF, "SI"), (0x10, "DATA LINK ESCAPE"), (0x10, "DLE"),
  (0x11, "DEVICE CONTROL ONE"), (0x11, "DC1"), (0x12, "DEVICE CONTROL TWO"), (0x12, "DC2"),
  (0x13, "DEVICE CONTROL THREE"), (0x13, "DC3"), (0x14, "DEVICE CONTROL FOUR"), (0x14, "DC4"),
  (0x15, "NEGATIVE ACKNOWLEDGE"), (0x15, "NAK"), (0x16, "SYNCHRONOUS IDLE"), (0x16, "SYN"),
  (0x17, "END OF TRANSMISSION BLOCK"), (0x17, "ETB"), (0x18, "CANCEL"), (0x18, "CAN"),
  (0x19, "END OF MEDIUM"), (0x19, "EOM"), (0x1A, "SUBSTITUTE"), (0x1A, "SUB"), (0x1B, "ESCAPE"),
  (0x1B, "ESC"), (0x1C, "INFORMATION SEPARATOR FOUR"), (0x1C, "FILE SEPARATOR"), (0x1C, "FS"),
  (0x1D, "INFORMATION SEPARATOR THREE"), (0x1D, "GROUP SEPARATOR"), (0x1D, "GS"),
  (0x1E, "INFORMATION SEPARATOR TWO"), (0x1E, "RECORD SEPARATOR"), (0x1E, "RS"),
  (0x1F, "INFORMATION SEPARATOR ONE"), (0x1F, "UNIT SEPARATOR"), (0x1F, "US"), (0x20, "SP"),
  (0x7F, "DELETE"), (0x7F, "DEL"), (0x80, "PADDING CHARACTER"), (0x80, "PAD"),
  (0x81, "HIGH OCTET PRESET"), (0x81, "HOP"), (0x82, "BREAK PERMITTED HERE"), (0x82, "BPH"),
  (0x83, "NO BREAK HERE"), (0x83, "NBH"), (0x84, "INDEX"), (0x84, "IND"), (0x85, "NEXT LINE"),
  (0x85, "NEL"), (0x86, "START OF SELECTED AREA"), (0x86, "SSA"), (0x87, "END OF SELECTED AREA"),
  (0x87, "ESA"), (0x88, "CHARACTER TABULATION SET"), (0x88, "HORIZONTAL TABULATION SET"),
  (0x88, "HTS"), (0x89, "CHARACTER TABULATION WITH JUSTIFICATION")]

/-- Aliases of the characters from U+0089 on. -/
def aliasesFrom0089 : List (Nat × String) := [
  (0x89, "HORIZONTAL TABULATION WITH JUSTIFICATION"), (0x89, "HTJ"), (0x8A, "LINE TABULATION SET"),
  (0x8A, "VERTICAL TABULATION SET"), (0x8A, "VTS"), (0x8B, "PARTIAL LINE FORWARD"),
  (0x8B, "PARTIAL LINE DOWN"), (0x8B, "PLD"), (0x8C, "PARTIAL LINE BACKWARD"),
  (0x8C, "PARTIAL LINE UP"), (0x8C, "PLU"), (0x8D, "REVERSE LINE FEED"), (0x8D, "REVERSE INDEX"),
  (0x8D, "RI"), (0x8E, "SINGLE SHIFT TWO"), (0x8E, "SINGLE-SHIFT-2"), (0x8E, "SS2"),
  (0x8F, "SINGLE SHIFT THREE"), (0x8F, "SINGLE-SHIFT-3"), (0x8F, "SS3"),
  (0x90, "DEVICE CONTROL STRING"), (0x90, "DCS"), (0x91, "PRIVATE USE ONE"),
  (0x91, "PRIVATE USE-1"), (0x91, "PU1"), (0x92, "PRIVATE USE TWO"), (0x92, "PRIVATE USE-2"),
  (0x92, "PU2"), (0x93, "SET TRANSMIT STATE"), (0x93, "STS"), (0x94, "CANCEL CHARACTER"),
  (0x94, "CCH"), (0x95, "MESSAGE WAITING"), (0x95, "MW"), (0x96, "START OF GUARDED AREA"),
  (0x96, "START OF PROTECTED AREA"), (0x96, "SPA"), (0x97, "END OF GUARDED AREA"),
  (0x97, "END OF PROTECTED AREA"), (0x97, "EPA"), (0x98, "START OF STRING"), (0x98, "SOS"),
  (0x99, "SINGLE GRAPHIC CHARACTER INTRODUCER"), (0x99, "SGC"),
  (0x9A, "SINGLE CHARACTER INTRODUCER"), (0x9A, "SCI"), (0x9B, "CONTROL SEQUENCE INTRODUCER"),
  (0x9B, "CSI"), (0x9C, "STRING TERMINATOR"), (0x9C, "ST"), (0x9D, "OPERATING SYSTEM COMMAND"),
  (0x9D, "OSC"), (0x9E, "PRIVACY MESSAGE"), (0x9E, "PM"), (0x9F, "APPLICATION PROGRAM COMMAND"),
  (0x9F, "APC"), (0xA0, "NBSP"), (0xAD, "SHY"), (0x1A2, "LATIN CAPITAL LETTER GHA"),
  (0x1A3, "LATIN SMALL LETTER GHA"), (0x34F, "CGJ"), (0x61C, "ALM"),
  (0x709, "SYRIAC SUBLINEAR COLON SKEWED LEFT"), (0xCDE, "KANNADA LETTER LLLA"),
  (0xE9D, "LAO LETTER FO FON"), (0xE9F, "LAO LETTER FO FAY"), (0xEA3, "LAO LETTER RO"),
  (0xEA5, "LAO LETTER LO"), (0xFD0, "TIBETAN MARK BKA- SHOG GI MGO RGYAN"),
  (0x11EC, "HANGUL JONGSEONG YESIEUNG-KIYEOK"), (0x11ED, "HANGUL JONGSEONG YESIEUNG-SSANGKIYEOK"),
  (0x11EE, "HANGUL JONGSEONG SSANGYESIEUNG"), (0x11EF, "HANGUL JONGSEONG YESIEUNG-KHIEUKH"),
  (0x180B, "FVS1"), (0x180C, "FVS2"), (0x180D, "FVS3"), (0x180E, "MVS"), (0x180F, "FVS4"),
  (0x200B, "ZWSP"), (0x200C, "ZWNJ"), (0x200D, "ZWJ"), (0x200E, "LRM"), (0x200F, "RLM"),
  (0x202A, "LRE"), (0x202B, "RLE"), (0x202C, "PDF"), (0x202D, "LRO"), (0x202E, "RLO"),
  (0x202F, "NNBSP"), (0x205F, "MMSP"), (0x2060, "WJ"), (0x2066, "LRI"), (0x2067, "RLI"),
  (0x2068, "FSI"), (0x2069, "PDI"), (0x2118, "WEIERSTRASS ELLIPTIC FUNCTION"),
  (0x2448, "MICR ON US SYMBOL"), (0x2449, "MICR DASH SYMBOL"),
  (0x2B7A, "LEFTWARDS TRIANGLE-HEADED ARROW WITH DOUBLE VERTICAL STROKE"),
  (0x2B7C, "RIGHTWARDS TRIANGLE-HEADED ARROW WITH DOUBLE VERTICAL STROKE")]

/-- Aliases of the characters from U+A015 on. -/
def aliasesFromA015 : List (Nat × String) := [
  (0xA015, "YI SYLLABLE ITERATION MARK"), (0xAA6E, "MYANMAR LETTER KHAMTI LLA"), (0xFE00, "VS1"),
  (0xFE01, "VS2"), (0xFE02, "VS3"), (0xFE03, "VS4"), (0xFE04, "VS5"), (0xFE05, "VS6"),
  (0xFE06, "VS7"), (0xFE07, "VS8"), (0xFE08, "VS9"), (0xFE09, "VS10"), (0xFE0A, "VS11"),
  (0xFE0B, "VS12"), (0xFE0C, "VS13"), (0xFE0D, "VS14"), (0xFE0E, "VS15"), (0xFE0F, "VS16"),
  (0xFE18, "PRESENTATION FORM FOR VERTICAL RIGHT WHITE LENTICULAR BRACKET"),
  (0xFEFF, "BYTE ORDER MARK"), (0xFEFF, "BOM"), (0xFEFF, "ZWNBSP"),
  (0x122D4, "CUNEIFORM SIGN NU11 TENU"), (0x122D5, "CUNEIFORM SIGN NU11 OVER NU11 BUR OVER BUR"),
  (0x16E56, "MEDEFAIDRIN CAPITAL LETTER H"), (0x16E57, "MEDEFAIDRIN CAPITAL LETTER NG"),
  (0x16E76, "MEDEFAIDRIN SMALL LETTER H"), (0x16E77, "MEDEFAIDRIN SMALL LETTER NG"),
  (0x1B001, "HENTAIGANA LETTER E-1"),
  (0x1D0C5, "BYZANTINE MUSICAL SYMBOL FTHORA SKLIRON CHROMA VASIS"), (0xE0100, "VS17"),
  (0xE0101, "VS18"), (0xE0102, "VS19"), (0xE0103, "VS20"), (0xE0104, "VS21"), (0xE0105, "VS22"),
  (0xE0106, "VS23"), (0xE0107, "VS24"), (0xE0108, "VS25"), (0xE0109, "VS26"), (0xE010A, "VS27"),
  (0xE010B, "VS28"), (0xE010C, "VS29"), (0xE010D, "VS30"), (0xE010E, "VS31"), (0xE010F, "VS32"),
  (0xE0110, "VS33"), (0xE0111, "VS34"), (0xE0112, "VS35"), (0xE0113, "VS36"), (0xE0114, "VS37"),
  (0xE0115, "VS38"), (0xE0116, "VS39"), (0xE0117, "VS40"), (0xE0118, "VS41"), (0xE0119, "VS42"),
  (0xE011A, "VS43"), (0xE011B, "VS44"), (0xE011C, "VS45"), (0xE011D, "VS46"), (0xE011E, "VS47"),
  (0xE011F, "VS48"), (0xE0120, "VS49"), (0xE0121, "VS50"), (0xE0122, "VS51"), (0xE0123, "VS52"),
  (0xE0124, "VS53"), (0xE0125, "VS54"), (0xE0126, "VS55"), (0xE0127, "VS56"), (0xE0128, "VS57"),
  (0xE0129, "VS58"), (0xE012A, "VS59"), (0xE012B, "VS60"), (0xE012C, "VS61"), (0xE012D, "VS62"),
  (0xE012E, "VS63"), (0xE012F, "VS64"), (0xE0130, "VS65"), (0xE0131, "VS66"), (0xE0132, "VS67"),
  (0xE0133, "VS68"), (0xE0134, "VS69"), (0xE0135, "VS70"), (0xE0136, "VS71"), (0xE0137, "VS72"),
  (0xE0138, "VS73"), (0xE0139, "VS74"), (0xE013A, "VS75"), (0xE013B, "VS76"), (0xE013C, "VS77"),
  (0xE013D, "VS78"), (0xE013E, "VS79"), (0xE013F, "VS80"), (0xE0140, "VS81"), (0xE0141, "VS82"),
  (0xE0142, "VS83"), (0xE0143, "VS84"), (0xE0144, "VS85"), (0xE0145, "VS86")]

/-- Aliases of the characters from U+E0146 on. -/
def aliasesFromE0146 : List (Nat × String) := [
  (0xE0146, "VS87"), (0xE0147, "VS88"), (0xE0148, "VS89"), (0xE0149, "VS90"), (0xE014A, "VS91"),
  (0xE014B, "VS92"), (0xE014C, "VS93"), (0xE014D, "VS94"), (0xE014E, "VS95"), (0xE014F, "VS96"),
  (0xE0150, "VS97"), (0xE0151, "VS98"), (0xE0152, "VS99"), (0xE0153, "VS100"), (0xE0154, "VS101"),
  (0xE0155, "VS102"), (0xE0156, "VS103"), (0xE0157, "VS104"), (0xE0158, "VS105"),
  (0xE0159, "VS106"), (0xE015A, "VS107"), (0xE015B, "VS108"), (0xE015C, "VS109"),
  (0xE015D, "VS110"), (0xE015E, "VS111"), (0xE015F, "VS112"), (0xE0160, "VS113"),
  (0xE0161, "VS114"), (0xE0162, "VS115"), (0xE0163, "VS116"), (0xE0164, "VS117"),
  (0xE0165, "VS118"), (0xE0166, "VS119"), (0xE0167, "VS120"), (0xE0168, "VS121"),
  (0xE0169, "VS122"), (0xE016A, "VS123"), (0xE016B, "VS124"), (0xE016C, "VS125"),
  (0xE016D, "VS126"), (0xE016E, "VS127"), (0xE016F, "VS128"), (0xE0170, "VS129"),
  (0xE0171, "VS130"), (0xE0172, "VS131"), (0xE0173, "VS132"), (0xE0174, "VS133"),
  (0xE0175, "VS134"), (0xE0176, "VS135"), (0xE0177, "VS136"), (0xE0178, "VS137"),
  (0xE0179, "VS138"), (0xE017A, "VS139"), (0xE017B, "VS140"), (0xE017C, "VS141"),
  (0xE017D, "VS142"), (0xE017E, "VS143"), (0xE017F, "VS144"), (0xE0180, "VS145"),
  (0xE0181, "VS146"), (0xE0182, "VS147"), (0xE0183, "VS148"), (0xE0184, "VS149"),
  (0xE0185, "VS150"), (0xE0186, "VS151"), (0xE0187, "VS152"), (0xE0188, "VS153"),
  (0xE0189, "VS154"), (0xE018A, "VS155"), (0xE018B, "VS156"), (0xE018C, "VS157"),
  (0xE018D, "VS158"), (0xE018E, "VS159"), (0xE018F, "VS160"), (0xE0190, "VS161"),
  (0xE0191, "VS162"), (0xE0192, "VS163"), (0xE0193, "VS164"), (0xE0194, "VS165"),
  (0xE0195, "VS166"), (0xE0196, "VS167"), (0xE0197, "VS168"), (0xE0198, "VS169"),
  (0xE0199, "VS170"), (0xE019A, "VS171"), (0xE019B, "VS172"), (0xE019C, "VS173"),
  (0xE019D, "VS174"), (0xE019E, "VS175"), (0xE019F, "VS176"), (0xE01A0, "VS177"),
  (0xE01A1, "VS178"), (0xE01A2, "VS179"), (0xE01A3, "VS180"), (0xE01A4, "VS181"),
  (0xE01A5, "VS182"), (0xE01A6, "VS183"), (0xE01A7, "VS184"), (0xE01A8, "VS185"),
  (0xE01A9, "VS186")]

/-- Aliases of the characters from U+E01AA on. -/
def aliasesFromE01AA : List (Nat × String) := [
  (0xE01AA, "VS187"), (0xE01AB, "VS188"), (0xE01AC, "VS189"), (0xE01AD, "VS190"),
  (0xE01AE, "VS191"), (0xE01AF, "VS192"), (0xE01B0, "VS193"), (0xE01B1, "VS194"),
  (0xE01B2, "VS195"), (0xE01B3, "VS196"), (0xE01B4, "VS197"), (0xE01B5, "VS198"),
  (0xE01B6, "VS199"), (0xE01B7, "VS200"), (0xE01B8, "VS201"), (0xE01B9, "VS202"),
  (0xE01BA, "VS203"), (0xE01BB, "VS204"), (0xE01BC, "VS205"), (0xE01BD, "VS206"),
  (0xE01BE, "VS207"), (0xE01BF, "VS208"), (0xE01C0, "VS209"), (0xE01C1, "VS210"),
  (0xE01C2, "VS211"), (0xE01C3, "VS212"), (0xE01C4, "VS213"), (0xE01C5, "VS214"),
  (0xE01C6, "VS215"), (0xE01C7, "VS216"), (0xE01C8, "VS217"), (0xE01C9, "VS218"),
  (0xE01CA, "VS219"), (0xE01CB, "VS220"), (0xE01CC, "VS221"), (0xE01CD, "VS222"),
  (0xE01CE, "VS223"), (0xE01CF, "VS224"), (0xE01D0, "VS225"), (0xE01D1, "VS226"),
  (0xE01D2, "VS227"), (0xE01D3, "VS228"), (0xE01D4, "VS229"), (0xE01D5, "VS230"),
  (0xE01D6, "VS231"), (0xE01D7, "VS232"), (0xE01D8, "VS233"), (0xE01D9, "VS234"),
  (0xE01DA, "VS235"), (0xE01DB, "VS236"), (0xE01DC, "VS237"), (0xE01DD, "VS238"),
  (0xE01DE, "VS239"), (0xE01DF, "VS240"), (0xE01E0, "VS241"), (0xE01E1, "VS242"),
  (0xE01E2, "VS243"), (0xE01E3, "VS244"), (0xE01E4, "VS245"), (0xE01E5, "VS246"),
  (0xE01E6, "VS247"), (0xE01E7, "VS248"), (0xE01E8, "VS249"), (0xE01E9, "VS250"),
  (0xE01EA, "VS251"), (0xE01EB, "VS252"), (0xE01EC, "VS253"), (0xE01ED, "VS254"),
  (0xE01EE, "VS255"), (0xE01EF, "VS256")]

/-- The aliases: corrected names, the names of the control characters, and abbreviations. -/
def characterAliases : List (Nat × String) :=
  aliasesFrom0000 ++ aliasesFrom0089 ++ aliasesFromA015 ++ aliasesFromE0146 ++ aliasesFromE01AA

end StatementClient.Text
