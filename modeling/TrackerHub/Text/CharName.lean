/-! # Names of characters

The standard names of the letters, punctuation marks and symbols that patterns may call by name:
Latin, Greek, general punctuation, currencies, letter-like symbols, arrows and common signs.
-/
namespace TrackerHub.Text

def charNames : List (Nat × String) := [
  (0x20, "SPACE"), (0x21, "EXCLAMATION MARK"), (0x22, "QUOTATION MARK"), (0x23, "NUMBER SIGN"),
   (0x24, "DOLLAR SIGN"), (0x25, "PERCENT SIGN"), (0x26, "AMPERSAND"), (0x27, "APOSTROPHE"),
   (0x28, "LEFT PARENTHESIS"), (0x29, "RIGHT PARENTHESIS"), (0x2A, "ASTERISK"),
   (0x2B, "PLUS SIGN"), (0x2C, "COMMA"), (0x2D, "HYPHEN-MINUS"), (0x2E, "FULL STOP"),
   (0x2F, "SOLIDUS"), (0x30, "DIGIT ZERO"), (0x31, "DIGIT ONE"), (0x32, "DIGIT TWO"),
   (0x33, "DIGIT THREE"), (0x34, "DIGIT FOUR"), (0x35, "DIGIT FIVE"), (0x36, "DIGIT SIX"),
   (0x37, "DIGIT SEVEN"), (0x38, "DIGIT EIGHT"), (0x39, "DIGIT NINE"), (0x3A, "COLON"),
   (0x3B, "SEMICOLON"), (0x3C, "LESS-THAN SIGN"), (0x3D, "EQUALS SIGN"),
   (0x3E, "GREATER-THAN SIGN"), (0x3F, "QUESTION MARK"), (0x40, "COMMERCIAL AT"),
   (0x41, "LATIN CAPITAL LETTER A"), (0x42, "LATIN CAPITAL LETTER B"),
   (0x43, "LATIN CAPITAL LETTER C"), (0x44, "LATIN CAPITAL LETTER D"),
   (0x45, "LATIN CAPITAL LETTER E"), (0x46, "LATIN CAPITAL LETTER F"),
   (0x47, "LATIN CAPITAL LETTER G"), (0x48, "LATIN CAPITAL LETTER H"),
   (0x49, "LATIN CAPITAL LETTER I"), (0x4A, "LATIN CAPITAL LETTER J"),
   (0x4B, "LATIN CAPITAL LETTER K"), (0x4C, "LATIN CAPITAL LETTER L"),
   (0x4D, "LATIN CAPITAL LETTER M"), (0x4E, "LATIN CAPITAL LETTER N"),
   (0x4F, "LATIN CAPITAL LETTER O"), (0x50, "LATIN CAPITAL LETTER P"),
   (0x51, "LATIN CAPITAL LETTER Q"), (0x52, "LATIN CAPITAL LETTER R"),
   (0x53, "LATIN CAPITAL LETTER S"), (0x54, "LATIN CAPITAL LETTER T"),
   (0x55, "LATIN CAPITAL LETTER U"), (0x56, "LATIN CAPITAL LETTER V"),
   (0x57, "LATIN CAPITAL LETTER W"), (0x58, "LATIN CAPITAL LETTER X"),
   (0x59, "LATIN CAPITAL LETTER Y"), (0x5A, "LATIN CAPITAL LETTER Z"),
   (0x5B, "LEFT SQUARE BRACKET"), (0x5C, "REVERSE SOLIDUS"), (0x5D, "RIGHT SQUARE BRACKET"),
   (0x5E, "CIRCUMFLEX ACCENT"), (0x5F, "LOW LINE"), (0x60, "GRAVE ACCENT"),
   (0x61, "LATIN SMALL LETTER A"), (0x62, "LATIN SMALL LETTER B"),
   (0x63, "LATIN SMALL LETTER C"), (0x64, "LATIN SMALL LETTER D"),
   (0x65, "LATIN SMALL LETTER E"), (0x66, "LATIN SMALL LETTER F"),
   (0x67, "LATIN SMALL LETTER G"), (0x68, "LATIN SMALL LETTER H"),
   (0x69, "LATIN SMALL LETTER I"), (0x6A, "LATIN SMALL LETTER J"),
   (0x6B, "LATIN SMALL LETTER K"), (0x6C, "LATIN SMALL LETTER L"),
   (0x6D, "LATIN SMALL LETTER M"), (0x6E, "LATIN SMALL LETTER N"),
   (0x6F, "LATIN SMALL LETTER O"), (0x70, "LATIN SMALL LETTER P"),
   (0x71, "LATIN SMALL LETTER Q"), (0x72, "LATIN SMALL LETTER R"),
   (0x73, "LATIN SMALL LETTER S"), (0x74, "LATIN SMALL LETTER T"),
   (0x75, "LATIN SMALL LETTER U"), (0x76, "LATIN SMALL LETTER V"),
   (0x77, "LATIN SMALL LETTER W"), (0x78, "LATIN SMALL LETTER X"),
   (0x79, "LATIN SMALL LETTER Y"), (0x7A, "LATIN SMALL LETTER Z"), (0x7B, "LEFT CURLY BRACKET"),
   (0x7C, "VERTICAL LINE"), (0x7D, "RIGHT CURLY BRACKET"), (0x7E, "TILDE"),
   (0xA0, "NO-BREAK SPACE"), (0xA1, "INVERTED EXCLAMATION MARK"), (0xA2, "CENT SIGN"),
   (0xA3, "POUND SIGN"), (0xA4, "CURRENCY SIGN"), (0xA5, "YEN SIGN"), (0xA6, "BROKEN BAR"),
   (0xA7, "SECTION SIGN"), (0xA8, "DIAERESIS"), (0xA9, "COPYRIGHT SIGN"),
   (0xAA, "FEMININE ORDINAL INDICATOR"), (0xAB, "LEFT-POINTING DOUBLE ANGLE QUOTATION MARK"),
   (0xAC, "NOT SIGN"), (0xAD, "SOFT HYPHEN"), (0xAE, "REGISTERED SIGN"), (0xAF, "MACRON"),
   (0xB0, "DEGREE SIGN"), (0xB1, "PLUS-MINUS SIGN"), (0xB2, "SUPERSCRIPT TWO"),
   (0xB3, "SUPERSCRIPT THREE"), (0xB4, "ACUTE ACCENT"), (0xB5, "MICRO SIGN"),
   (0xB6, "PILCROW SIGN"), (0xB7, "MIDDLE DOT"), (0xB8, "CEDILLA"), (0xB9, "SUPERSCRIPT ONE"),
   (0xBA, "MASCULINE ORDINAL INDICATOR"), (0xBB, "RIGHT-POINTING DOUBLE ANGLE QUOTATION MARK"),
   (0xBC, "VULGAR FRACTION ONE QUARTER"), (0xBD, "VULGAR FRACTION ONE HALF"),
   (0xBE, "VULGAR FRACTION THREE QUARTERS"), (0xBF, "INVERTED QUESTION MARK"),
   (0xC0, "LATIN CAPITAL LETTER A WITH GRAVE"), (0xC1, "LATIN CAPITAL LETTER A WITH ACUTE"),
   (0xC2, "LATIN CAPITAL LETTER A WITH CIRCUMFLEX"), (0xC3, "LATIN CAPITAL LETTER A WITH TILDE"),
   (0xC4, "LATIN CAPITAL LETTER A WITH DIAERESIS"),
   (0xC5, "LATIN CAPITAL LETTER A WITH RING ABOVE"), (0xC6, "LATIN CAPITAL LETTER AE"),
   (0xC7, "LATIN CAPITAL LETTER C WITH CEDILLA"), (0xC8, "LATIN CAPITAL LETTER E WITH GRAVE"),
   (0xC9, "LATIN CAPITAL LETTER E WITH ACUTE"), (0xCA, "LATIN CAPITAL LETTER E WITH CIRCUMFLEX"),
   (0xCB, "LATIN CAPITAL LETTER E WITH DIAERESIS"), (0xCC, "LATIN CAPITAL LETTER I WITH GRAVE"),
   (0xCD, "LATIN CAPITAL LETTER I WITH ACUTE"), (0xCE, "LATIN CAPITAL LETTER I WITH CIRCUMFLEX"),
   (0xCF, "LATIN CAPITAL LETTER I WITH DIAERESIS"), (0xD0, "LATIN CAPITAL LETTER ETH"),
   (0xD1, "LATIN CAPITAL LETTER N WITH TILDE"), (0xD2, "LATIN CAPITAL LETTER O WITH GRAVE"),
   (0xD3, "LATIN CAPITAL LETTER O WITH ACUTE"), (0xD4, "LATIN CAPITAL LETTER O WITH CIRCUMFLEX"),
   (0xD5, "LATIN CAPITAL LETTER O WITH TILDE"), (0xD6, "LATIN CAPITAL LETTER O WITH DIAERESIS"),
   (0xD7, "MULTIPLICATION SIGN"), (0xD8, "LATIN CAPITAL LETTER O WITH STROKE"),
   (0xD9, "LATIN CAPITAL LETTER U WITH GRAVE"), (0xDA, "LATIN CAPITAL LETTER U WITH ACUTE"),
   (0xDB, "LATIN CAPITAL LETTER U WITH CIRCUMFLEX"),
   (0xDC, "LATIN CAPITAL LETTER U WITH DIAERESIS"), (0xDD, "LATIN CAPITAL LETTER Y WITH ACUTE"),
   (0xDE, "LATIN CAPITAL LETTER THORN"), (0xDF, "LATIN SMALL LETTER SHARP S"),
   (0xE0, "LATIN SMALL LETTER A WITH GRAVE"), (0xE1, "LATIN SMALL LETTER A WITH ACUTE"),
   (0xE2, "LATIN SMALL LETTER A WITH CIRCUMFLEX"), (0xE3, "LATIN SMALL LETTER A WITH TILDE"),
   (0xE4, "LATIN SMALL LETTER A WITH DIAERESIS"), (0xE5, "LATIN SMALL LETTER A WITH RING ABOVE"),
   (0xE6, "LATIN SMALL LETTER AE"), (0xE7, "LATIN SMALL LETTER C WITH CEDILLA"),
   (0xE8, "LATIN SMALL LETTER E WITH GRAVE"), (0xE9, "LATIN SMALL LETTER E WITH ACUTE"),
   (0xEA, "LATIN SMALL LETTER E WITH CIRCUMFLEX"), (0xEB, "LATIN SMALL LETTER E WITH DIAERESIS"),
   (0xEC, "LATIN SMALL LETTER I WITH GRAVE"), (0xED, "LATIN SMALL LETTER I WITH ACUTE"),
   (0xEE, "LATIN SMALL LETTER I WITH CIRCUMFLEX"), (0xEF, "LATIN SMALL LETTER I WITH DIAERESIS"),
   (0xF0, "LATIN SMALL LETTER ETH"), (0xF1, "LATIN SMALL LETTER N WITH TILDE"),
   (0xF2, "LATIN SMALL LETTER O WITH GRAVE"), (0xF3, "LATIN SMALL LETTER O WITH ACUTE"),
   (0xF4, "LATIN SMALL LETTER O WITH CIRCUMFLEX"), (0xF5, "LATIN SMALL LETTER O WITH TILDE"),
   (0xF6, "LATIN SMALL LETTER O WITH DIAERESIS"), (0xF7, "DIVISION SIGN"),
   (0xF8, "LATIN SMALL LETTER O WITH STROKE"), (0xF9, "LATIN SMALL LETTER U WITH GRAVE"),
   (0xFA, "LATIN SMALL LETTER U WITH ACUTE"), (0xFB, "LATIN SMALL LETTER U WITH CIRCUMFLEX"),
   (0xFC, "LATIN SMALL LETTER U WITH DIAERESIS"), (0xFD, "LATIN SMALL LETTER Y WITH ACUTE"),
   (0xFE, "LATIN SMALL LETTER THORN"), (0xFF, "LATIN SMALL LETTER Y WITH DIAERESIS"),
   (0x370, "GREEK CAPITAL LETTER HETA"), (0x371, "GREEK SMALL LETTER HETA"),
   (0x372, "GREEK CAPITAL LETTER ARCHAIC SAMPI"), (0x373, "GREEK SMALL LETTER ARCHAIC SAMPI"),
   (0x374, "GREEK NUMERAL SIGN"), (0x375, "GREEK LOWER NUMERAL SIGN"),
   (0x376, "GREEK CAPITAL LETTER PAMPHYLIAN DIGAMMA"),
   (0x377, "GREEK SMALL LETTER PAMPHYLIAN DIGAMMA"), (0x37A, "GREEK YPOGEGRAMMENI"),
   (0x37B, "GREEK SMALL REVERSED LUNATE SIGMA SYMBOL"),
   (0x37C, "GREEK SMALL DOTTED LUNATE SIGMA SYMBOL"),
   (0x37D, "GREEK SMALL REVERSED DOTTED LUNATE SIGMA SYMBOL"), (0x37E, "GREEK QUESTION MARK"),
   (0x37F, "GREEK CAPITAL LETTER YOT"), (0x384, "GREEK TONOS"), (0x385, "GREEK DIALYTIKA TONOS"),
   (0x386, "GREEK CAPITAL LETTER ALPHA WITH TONOS"), (0x387, "GREEK ANO TELEIA"),
   (0x388, "GREEK CAPITAL LETTER EPSILON WITH TONOS"),
   (0x389, "GREEK CAPITAL LETTER ETA WITH TONOS"),
   (0x38A, "GREEK CAPITAL LETTER IOTA WITH TONOS"),
   (0x38C, "GREEK CAPITAL LETTER OMICRON WITH TONOS"),
   (0x38E, "GREEK CAPITAL LETTER UPSILON WITH TONOS"),
   (0x38F, "GREEK CAPITAL LETTER OMEGA WITH TONOS"),
   (0x390, "GREEK SMALL LETTER IOTA WITH DIALYTIKA AND TONOS"),
   (0x391, "GREEK CAPITAL LETTER ALPHA"), (0x392, "GREEK CAPITAL LETTER BETA"),
   (0x393, "GREEK CAPITAL LETTER GAMMA"), (0x394, "GREEK CAPITAL LETTER DELTA"),
   (0x395, "GREEK CAPITAL LETTER EPSILON"), (0x396, "GREEK CAPITAL LETTER ZETA"),
   (0x397, "GREEK CAPITAL LETTER ETA"), (0x398, "GREEK CAPITAL LETTER THETA"),
   (0x399, "GREEK CAPITAL LETTER IOTA"), (0x39A, "GREEK CAPITAL LETTER KAPPA"),
   (0x39B, "GREEK CAPITAL LETTER LAMDA"), (0x39C, "GREEK CAPITAL LETTER MU"),
   (0x39D, "GREEK CAPITAL LETTER NU"), (0x39E, "GREEK CAPITAL LETTER XI"),
   (0x39F, "GREEK CAPITAL LETTER OMICRON"), (0x3A0, "GREEK CAPITAL LETTER PI"),
   (0x3A1, "GREEK CAPITAL LETTER RHO"), (0x3A3, "GREEK CAPITAL LETTER SIGMA"),
   (0x3A4, "GREEK CAPITAL LETTER TAU"), (0x3A5, "GREEK CAPITAL LETTER UPSILON"),
   (0x3A6, "GREEK CAPITAL LETTER PHI"), (0x3A7, "GREEK CAPITAL LETTER CHI"),
   (0x3A8, "GREEK CAPITAL LETTER PSI"), (0x3A9, "GREEK CAPITAL LETTER OMEGA"),
   (0x3AA, "GREEK CAPITAL LETTER IOTA WITH DIALYTIKA"),
   (0x3AB, "GREEK CAPITAL LETTER UPSILON WITH DIALYTIKA"),
   (0x3AC, "GREEK SMALL LETTER ALPHA WITH TONOS"),
   (0x3AD, "GREEK SMALL LETTER EPSILON WITH TONOS"),
   (0x3AE, "GREEK SMALL LETTER ETA WITH TONOS"), (0x3AF, "GREEK SMALL LETTER IOTA WITH TONOS"),
   (0x3B0, "GREEK SMALL LETTER UPSILON WITH DIALYTIKA AND TONOS"),
   (0x3B1, "GREEK SMALL LETTER ALPHA"), (0x3B2, "GREEK SMALL LETTER BETA"),
   (0x3B3, "GREEK SMALL LETTER GAMMA"), (0x3B4, "GREEK SMALL LETTER DELTA"),
   (0x3B5, "GREEK SMALL LETTER EPSILON"), (0x3B6, "GREEK SMALL LETTER ZETA"),
   (0x3B7, "GREEK SMALL LETTER ETA"), (0x3B8, "GREEK SMALL LETTER THETA"),
   (0x3B9, "GREEK SMALL LETTER IOTA"), (0x3BA, "GREEK SMALL LETTER KAPPA"),
   (0x3BB, "GREEK SMALL LETTER LAMDA"), (0x3BC, "GREEK SMALL LETTER MU"),
   (0x3BD, "GREEK SMALL LETTER NU"), (0x3BE, "GREEK SMALL LETTER XI"),
   (0x3BF, "GREEK SMALL LETTER OMICRON"), (0x3C0, "GREEK SMALL LETTER PI"),
   (0x3C1, "GREEK SMALL LETTER RHO"), (0x3C2, "GREEK SMALL LETTER FINAL SIGMA"),
   (0x3C3, "GREEK SMALL LETTER SIGMA"), (0x3C4, "GREEK SMALL LETTER TAU"),
   (0x3C5, "GREEK SMALL LETTER UPSILON"), (0x3C6, "GREEK SMALL LETTER PHI"),
   (0x3C7, "GREEK SMALL LETTER CHI"), (0x3C8, "GREEK SMALL LETTER PSI"),
   (0x3C9, "GREEK SMALL LETTER OMEGA"), (0x3CA, "GREEK SMALL LETTER IOTA WITH DIALYTIKA"),
   (0x3CB, "GREEK SMALL LETTER UPSILON WITH DIALYTIKA"),
   (0x3CC, "GREEK SMALL LETTER OMICRON WITH TONOS"),
   (0x3CD, "GREEK SMALL LETTER UPSILON WITH TONOS"),
   (0x3CE, "GREEK SMALL LETTER OMEGA WITH TONOS"), (0x3CF, "GREEK CAPITAL KAI SYMBOL"),
   (0x3D0, "GREEK BETA SYMBOL"), (0x3D1, "GREEK THETA SYMBOL"),
   (0x3D2, "GREEK UPSILON WITH HOOK SYMBOL"),
   (0x3D3, "GREEK UPSILON WITH ACUTE AND HOOK SYMBOL"),
   (0x3D4, "GREEK UPSILON WITH DIAERESIS AND HOOK SYMBOL"), (0x3D5, "GREEK PHI SYMBOL"),
   (0x3D6, "GREEK PI SYMBOL"), (0x3D7, "GREEK KAI SYMBOL"),
   (0x3D8, "GREEK LETTER ARCHAIC KOPPA"), (0x3D9, "GREEK SMALL LETTER ARCHAIC KOPPA"),
   (0x3DA, "GREEK LETTER STIGMA"), (0x3DB, "GREEK SMALL LETTER STIGMA"),
   (0x3DC, "GREEK LETTER DIGAMMA"), (0x3DD, "GREEK SMALL LETTER DIGAMMA"),
   (0x3DE, "GREEK LETTER KOPPA"), (0x3DF, "GREEK SMALL LETTER KOPPA"),
   (0x3E0, "GREEK LETTER SAMPI"), (0x3E1, "GREEK SMALL LETTER SAMPI"),
   (0x3E2, "COPTIC CAPITAL LETTER SHEI"), (0x3E3, "COPTIC SMALL LETTER SHEI"),
   (0x3E4, "COPTIC CAPITAL LETTER FEI"), (0x3E5, "COPTIC SMALL LETTER FEI"),
   (0x3E6, "COPTIC CAPITAL LETTER KHEI"), (0x3E7, "COPTIC SMALL LETTER KHEI"),
   (0x3E8, "COPTIC CAPITAL LETTER HORI"), (0x3E9, "COPTIC SMALL LETTER HORI"),
   (0x3EA, "COPTIC CAPITAL LETTER GANGIA"), (0x3EB, "COPTIC SMALL LETTER GANGIA"),
   (0x3EC, "COPTIC CAPITAL LETTER SHIMA"), (0x3ED, "COPTIC SMALL LETTER SHIMA"),
   (0x3EE, "COPTIC CAPITAL LETTER DEI"), (0x3EF, "COPTIC SMALL LETTER DEI"),
   (0x3F0, "GREEK KAPPA SYMBOL"), (0x3F1, "GREEK RHO SYMBOL"),
   (0x3F2, "GREEK LUNATE SIGMA SYMBOL"), (0x3F3, "GREEK LETTER YOT"),
   (0x3F4, "GREEK CAPITAL THETA SYMBOL"), (0x3F5, "GREEK LUNATE EPSILON SYMBOL"),
   (0x3F6, "GREEK REVERSED LUNATE EPSILON SYMBOL"), (0x3F7, "GREEK CAPITAL LETTER SHO"),
   (0x3F8, "GREEK SMALL LETTER SHO"), (0x3F9, "GREEK CAPITAL LUNATE SIGMA SYMBOL"),
   (0x3FA, "GREEK CAPITAL LETTER SAN"), (0x3FB, "GREEK SMALL LETTER SAN"),
   (0x3FC, "GREEK RHO WITH STROKE SYMBOL"),
   (0x3FD, "GREEK CAPITAL REVERSED LUNATE SIGMA SYMBOL"),
   (0x3FE, "GREEK CAPITAL DOTTED LUNATE SIGMA SYMBOL"),
   (0x3FF, "GREEK CAPITAL REVERSED DOTTED LUNATE SIGMA SYMBOL"), (0x2000, "EN QUAD"),
   (0x2001, "EM QUAD"), (0x2002, "EN SPACE"), (0x2003, "EM SPACE"),
   (0x2004, "THREE-PER-EM SPACE"), (0x2005, "FOUR-PER-EM SPACE"), (0x2006, "SIX-PER-EM SPACE"),
   (0x2007, "FIGURE SPACE"), (0x2008, "PUNCTUATION SPACE"), (0x2009, "THIN SPACE"),
   (0x200A, "HAIR SPACE"), (0x200B, "ZERO WIDTH SPACE"), (0x200C, "ZERO WIDTH NON-JOINER"),
   (0x200D, "ZERO WIDTH JOINER"), (0x200E, "LEFT-TO-RIGHT MARK"), (0x200F, "RIGHT-TO-LEFT MARK"),
   (0x2010, "HYPHEN"), (0x2011, "NON-BREAKING HYPHEN"), (0x2012, "FIGURE DASH"),
   (0x2013, "EN DASH"), (0x2014, "EM DASH"), (0x2015, "HORIZONTAL BAR"),
   (0x2016, "DOUBLE VERTICAL LINE"), (0x2017, "DOUBLE LOW LINE"),
   (0x2018, "LEFT SINGLE QUOTATION MARK"), (0x2019, "RIGHT SINGLE QUOTATION MARK"),
   (0x201A, "SINGLE LOW-9 QUOTATION MARK"), (0x201B, "SINGLE HIGH-REVERSED-9 QUOTATION MARK"),
   (0x201C, "LEFT DOUBLE QUOTATION MARK"), (0x201D, "RIGHT DOUBLE QUOTATION MARK"),
   (0x201E, "DOUBLE LOW-9 QUOTATION MARK"), (0x201F, "DOUBLE HIGH-REVERSED-9 QUOTATION MARK"),
   (0x2020, "DAGGER"), (0x2021, "DOUBLE DAGGER"), (0x2022, "BULLET"),
   (0x2023, "TRIANGULAR BULLET"), (0x2024, "ONE DOT LEADER"), (0x2025, "TWO DOT LEADER"),
   (0x2026, "HORIZONTAL ELLIPSIS"), (0x2027, "HYPHENATION POINT"), (0x2028, "LINE SEPARATOR"),
   (0x2029, "PARAGRAPH SEPARATOR"), (0x202A, "LEFT-TO-RIGHT EMBEDDING"),
   (0x202B, "RIGHT-TO-LEFT EMBEDDING"), (0x202C, "POP DIRECTIONAL FORMATTING"),
   (0x202D, "LEFT-TO-RIGHT OVERRIDE"), (0x202E, "RIGHT-TO-LEFT OVERRIDE"),
   (0x202F, "NARROW NO-BREAK SPACE"), (0x2030, "PER MILLE SIGN"),
   (0x2031, "PER TEN THOUSAND SIGN"), (0x2032, "PRIME"), (0x2033, "DOUBLE PRIME"),
   (0x2034, "TRIPLE PRIME"), (0x2035, "REVERSED PRIME"), (0x2036, "REVERSED DOUBLE PRIME"),
   (0x2037, "REVERSED TRIPLE PRIME"), (0x2038, "CARET"),
   (0x2039, "SINGLE LEFT-POINTING ANGLE QUOTATION MARK"),
   (0x203A, "SINGLE RIGHT-POINTING ANGLE QUOTATION MARK"), (0x203B, "REFERENCE MARK"),
   (0x203C, "DOUBLE EXCLAMATION MARK"), (0x203D, "INTERROBANG"), (0x203E, "OVERLINE"),
   (0x203F, "UNDERTIE"), (0x2040, "CHARACTER TIE"), (0x2041, "CARET INSERTION POINT"),
   (0x2042, "ASTERISM"), (0x2043, "HYPHEN BULLET"), (0x2044, "FRACTION SLASH"),
   (0x2045, "LEFT SQUARE BRACKET WITH QUILL"), (0x2046, "RIGHT SQUARE BRACKET WITH QUILL"),
   (0x2047, "DOUBLE QUESTION MARK"), (0x2048, "QUESTION EXCLAMATION MARK"),
   (0x2049, "EXCLAMATION QUESTION MARK"), (0x204A, "TIRONIAN SIGN ET"),
   (0x204B, "REVERSED PILCROW SIGN"), (0x204C, "BLACK LEFTWARDS BULLET"),
   (0x204D, "BLACK RIGHTWARDS BULLET"), (0x204E, "LOW ASTERISK"), (0x204F, "REVERSED SEMICOLON"),
   (0x2050, "CLOSE UP"), (0x2051, "TWO ASTERISKS ALIGNED VERTICALLY"),
   (0x2052, "COMMERCIAL MINUS SIGN"), (0x2053, "SWUNG DASH"), (0x2054, "INVERTED UNDERTIE"),
   (0x2055, "FLOWER PUNCTUATION MARK"), (0x2056, "THREE DOT PUNCTUATION"),
   (0x2057, "QUADRUPLE PRIME"), (0x2058, "FOUR DOT PUNCTUATION"),
   (0x2059, "FIVE DOT PUNCTUATION"), (0x205A, "TWO DOT PUNCTUATION"), (0x205B, "FOUR DOT MARK"),
   (0x205C, "DOTTED CROSS"), (0x205D, "TRICOLON"), (0x205E, "VERTICAL FOUR DOTS"),
   (0x205F, "MEDIUM MATHEMATICAL SPACE"), (0x2060, "WORD JOINER"),
   (0x2061, "FUNCTION APPLICATION"), (0x2062, "INVISIBLE TIMES"),
   (0x2063, "INVISIBLE SEPARATOR"), (0x2064, "INVISIBLE PLUS"),
   (0x2066, "LEFT-TO-RIGHT ISOLATE"), (0x2067, "RIGHT-TO-LEFT ISOLATE"),
   (0x2068, "FIRST STRONG ISOLATE"), (0x2069, "POP DIRECTIONAL ISOLATE"),
   (0x206A, "INHIBIT SYMMETRIC SWAPPING"), (0x206B, "ACTIVATE SYMMETRIC SWAPPING"),
   (0x206C, "INHIBIT ARABIC FORM SHAPING"), (0x206D, "ACTIVATE ARABIC FORM SHAPING"),
   (0x206E, "NATIONAL DIGIT SHAPES"), (0x206F, "NOMINAL DIGIT SHAPES"),
   (0x20A0, "EURO-CURRENCY SIGN"), (0x20A1, "COLON SIGN"), (0x20A2, "CRUZEIRO SIGN"),
   (0x20A3, "FRENCH FRANC SIGN"), (0x20A4, "LIRA SIGN"), (0x20A5, "MILL SIGN"),
   (0x20A6, "NAIRA SIGN"), (0x20A7, "PESETA SIGN"), (0x20A8, "RUPEE SIGN"), (0x20A9, "WON SIGN"),
   (0x20AA, "NEW SHEQEL SIGN"), (0x20AB, "DONG SIGN"), (0x20AC, "EURO SIGN"),
   (0x20AD, "KIP SIGN"), (0x20AE, "TUGRIK SIGN"), (0x20AF, "DRACHMA SIGN"),
   (0x20B0, "GERMAN PENNY SIGN"), (0x20B1, "PESO SIGN"), (0x20B2, "GUARANI SIGN"),
   (0x20B3, "AUSTRAL SIGN"), (0x20B4, "HRYVNIA SIGN"), (0x20B5, "CEDI SIGN"),
   (0x20B6, "LIVRE TOURNOIS SIGN"), (0x20B7, "SPESMILO SIGN"), (0x20B8, "TENGE SIGN"),
   (0x20B9, "INDIAN RUPEE SIGN"), (0x20BA, "TURKISH LIRA SIGN"), (0x20BB, "NORDIC MARK SIGN"),
   (0x20BC, "MANAT SIGN"), (0x20BD, "RUBLE SIGN"), (0x20BE, "LARI SIGN"),
   (0x20BF, "BITCOIN SIGN"), (0x20C0, "SOM SIGN"), (0x2100, "ACCOUNT OF"),
   (0x2101, "ADDRESSED TO THE SUBJECT"), (0x2102, "DOUBLE-STRUCK CAPITAL C"),
   (0x2103, "DEGREE CELSIUS"), (0x2104, "CENTRE LINE SYMBOL"), (0x2105, "CARE OF"),
   (0x2106, "CADA UNA"), (0x2107, "EULER CONSTANT"), (0x2108, "SCRUPLE"),
   (0x2109, "DEGREE FAHRENHEIT"), (0x210A, "SCRIPT SMALL G"), (0x210B, "SCRIPT CAPITAL H"),
   (0x210C, "BLACK-LETTER CAPITAL H"), (0x210D, "DOUBLE-STRUCK CAPITAL H"),
   (0x210E, "PLANCK CONSTANT"), (0x210F, "PLANCK CONSTANT OVER TWO PI"),
   (0x2110, "SCRIPT CAPITAL I"), (0x2111, "BLACK-LETTER CAPITAL I"),
   (0x2112, "SCRIPT CAPITAL L"), (0x2113, "SCRIPT SMALL L"), (0x2114, "L B BAR SYMBOL"),
   (0x2115, "DOUBLE-STRUCK CAPITAL N"), (0x2116, "NUMERO SIGN"),
   (0x2117, "SOUND RECORDING COPYRIGHT"), (0x2118, "SCRIPT CAPITAL P"),
   (0x2119, "DOUBLE-STRUCK CAPITAL P"), (0x211A, "DOUBLE-STRUCK CAPITAL Q"),
   (0x211B, "SCRIPT CAPITAL R"), (0x211C, "BLACK-LETTER CAPITAL R"),
   (0x211D, "DOUBLE-STRUCK CAPITAL R"), (0x211E, "PRESCRIPTION TAKE"), (0x211F, "RESPONSE"),
   (0x2120, "SERVICE MARK"), (0x2121, "TELEPHONE SIGN"), (0x2122, "TRADE MARK SIGN"),
   (0x2123, "VERSICLE"), (0x2124, "DOUBLE-STRUCK CAPITAL Z"), (0x2125, "OUNCE SIGN"),
   (0x2126, "OHM SIGN"), (0x2127, "INVERTED OHM SIGN"), (0x2128, "BLACK-LETTER CAPITAL Z"),
   (0x2129, "TURNED GREEK SMALL LETTER IOTA"), (0x212A, "KELVIN SIGN"),
   (0x212B, "ANGSTROM SIGN"), (0x212C, "SCRIPT CAPITAL B"), (0x212D, "BLACK-LETTER CAPITAL C"),
   (0x212E, "ESTIMATED SYMBOL"), (0x212F, "SCRIPT SMALL E"), (0x2130, "SCRIPT CAPITAL E"),
   (0x2131, "SCRIPT CAPITAL F"), (0x2132, "TURNED CAPITAL F"), (0x2133, "SCRIPT CAPITAL M"),
   (0x2134, "SCRIPT SMALL O"), (0x2135, "ALEF SYMBOL"), (0x2136, "BET SYMBOL"),
   (0x2137, "GIMEL SYMBOL"), (0x2138, "DALET SYMBOL"), (0x2139, "INFORMATION SOURCE"),
   (0x213A, "ROTATED CAPITAL Q"), (0x213B, "FACSIMILE SIGN"), (0x213C, "DOUBLE-STRUCK SMALL PI"),
   (0x213D, "DOUBLE-STRUCK SMALL GAMMA"), (0x213E, "DOUBLE-STRUCK CAPITAL GAMMA"),
   (0x213F, "DOUBLE-STRUCK CAPITAL PI"), (0x2140, "DOUBLE-STRUCK N-ARY SUMMATION"),
   (0x2141, "TURNED SANS-SERIF CAPITAL G"), (0x2142, "TURNED SANS-SERIF CAPITAL L"),
   (0x2143, "REVERSED SANS-SERIF CAPITAL L"), (0x2144, "TURNED SANS-SERIF CAPITAL Y"),
   (0x2145, "DOUBLE-STRUCK ITALIC CAPITAL D"), (0x2146, "DOUBLE-STRUCK ITALIC SMALL D"),
   (0x2147, "DOUBLE-STRUCK ITALIC SMALL E"), (0x2148, "DOUBLE-STRUCK ITALIC SMALL I"),
   (0x2149, "DOUBLE-STRUCK ITALIC SMALL J"), (0x214A, "PROPERTY LINE"),
   (0x214B, "TURNED AMPERSAND"), (0x214C, "PER SIGN"), (0x214D, "AKTIESELSKAB"),
   (0x214E, "TURNED SMALL F"), (0x214F, "SYMBOL FOR SAMARITAN SOURCE"),
   (0x2190, "LEFTWARDS ARROW"), (0x2191, "UPWARDS ARROW"), (0x2192, "RIGHTWARDS ARROW"),
   (0x2193, "DOWNWARDS ARROW"), (0x2194, "LEFT RIGHT ARROW"), (0x2195, "UP DOWN ARROW"),
   (0x2196, "NORTH WEST ARROW"), (0x2197, "NORTH EAST ARROW"), (0x2198, "SOUTH EAST ARROW"),
   (0x2199, "SOUTH WEST ARROW"), (0x219A, "LEFTWARDS ARROW WITH STROKE"),
   (0x219B, "RIGHTWARDS ARROW WITH STROKE"), (0x219C, "LEFTWARDS WAVE ARROW"),
   (0x219D, "RIGHTWARDS WAVE ARROW"), (0x219E, "LEFTWARDS TWO HEADED ARROW"),
   (0x219F, "UPWARDS TWO HEADED ARROW"), (0x21A0, "RIGHTWARDS TWO HEADED ARROW"),
   (0x21A1, "DOWNWARDS TWO HEADED ARROW"), (0x21A2, "LEFTWARDS ARROW WITH TAIL"),
   (0x21A3, "RIGHTWARDS ARROW WITH TAIL"), (0x21A4, "LEFTWARDS ARROW FROM BAR"),
   (0x21A5, "UPWARDS ARROW FROM BAR"), (0x21A6, "RIGHTWARDS ARROW FROM BAR"),
   (0x21A7, "DOWNWARDS ARROW FROM BAR"), (0x21A8, "UP DOWN ARROW WITH BASE"),
   (0x21A9, "LEFTWARDS ARROW WITH HOOK"), (0x21AA, "RIGHTWARDS ARROW WITH HOOK"),
   (0x21AB, "LEFTWARDS ARROW WITH LOOP"), (0x21AC, "RIGHTWARDS ARROW WITH LOOP"),
   (0x21AD, "LEFT RIGHT WAVE ARROW"), (0x21AE, "LEFT RIGHT ARROW WITH STROKE"),
   (0x21AF, "DOWNWARDS ZIGZAG ARROW"), (0x21B0, "UPWARDS ARROW WITH TIP LEFTWARDS"),
   (0x25A0, "BLACK SQUARE"), (0x25A1, "WHITE SQUARE"),
   (0x25A2, "WHITE SQUARE WITH ROUNDED CORNERS"),
   (0x25A3, "WHITE SQUARE CONTAINING BLACK SMALL SQUARE"),
   (0x25A4, "SQUARE WITH HORIZONTAL FILL"), (0x25A5, "SQUARE WITH VERTICAL FILL"),
   (0x25A6, "SQUARE WITH ORTHOGONAL CROSSHATCH FILL"),
   (0x25A7, "SQUARE WITH UPPER LEFT TO LOWER RIGHT FILL"),
   (0x25A8, "SQUARE WITH UPPER RIGHT TO LOWER LEFT FILL"),
   (0x25A9, "SQUARE WITH DIAGONAL CROSSHATCH FILL"), (0x25AA, "BLACK SMALL SQUARE"),
   (0x25AB, "WHITE SMALL SQUARE"), (0x25AC, "BLACK RECTANGLE"), (0x25AD, "WHITE RECTANGLE"),
   (0x25AE, "BLACK VERTICAL RECTANGLE"), (0x25AF, "WHITE VERTICAL RECTANGLE"),
   (0x25B0, "BLACK PARALLELOGRAM"), (0x25B1, "WHITE PARALLELOGRAM"),
   (0x25B2, "BLACK UP-POINTING TRIANGLE"), (0x25B3, "WHITE UP-POINTING TRIANGLE"),
   (0x25B4, "BLACK UP-POINTING SMALL TRIANGLE"), (0x25B5, "WHITE UP-POINTING SMALL TRIANGLE"),
   (0x25B6, "BLACK RIGHT-POINTING TRIANGLE"), (0x25B7, "WHITE RIGHT-POINTING TRIANGLE"),
   (0x25B8, "BLACK RIGHT-POINTING SMALL TRIANGLE"),
   (0x25B9, "WHITE RIGHT-POINTING SMALL TRIANGLE"), (0x25BA, "BLACK RIGHT-POINTING POINTER"),
   (0x25BB, "WHITE RIGHT-POINTING POINTER"), (0x25BC, "BLACK DOWN-POINTING TRIANGLE"),
   (0x25BD, "WHITE DOWN-POINTING TRIANGLE"), (0x25BE, "BLACK DOWN-POINTING SMALL TRIANGLE"),
   (0x25BF, "WHITE DOWN-POINTING SMALL TRIANGLE"), (0x25C0, "BLACK LEFT-POINTING TRIANGLE"),
   (0x25C1, "WHITE LEFT-POINTING TRIANGLE"), (0x25C2, "BLACK LEFT-POINTING SMALL TRIANGLE"),
   (0x25C3, "WHITE LEFT-POINTING SMALL TRIANGLE"), (0x25C4, "BLACK LEFT-POINTING POINTER"),
   (0x25C5, "WHITE LEFT-POINTING POINTER"), (0x25C6, "BLACK DIAMOND"), (0x25C7, "WHITE DIAMOND"),
   (0x25C8, "WHITE DIAMOND CONTAINING BLACK SMALL DIAMOND"), (0x25C9, "FISHEYE"),
   (0x25CA, "LOZENGE"), (0x25CB, "WHITE CIRCLE"), (0x25CC, "DOTTED CIRCLE"),
   (0x25CD, "CIRCLE WITH VERTICAL FILL"), (0x25CE, "BULLSEYE"), (0x25CF, "BLACK CIRCLE"),
   (0x2600, "BLACK SUN WITH RAYS"), (0x2601, "CLOUD"), (0x2602, "UMBRELLA"), (0x2603, "SNOWMAN"),
   (0x2604, "COMET"), (0x2605, "BLACK STAR"), (0x2606, "WHITE STAR"), (0x2607, "LIGHTNING"),
   (0x2608, "THUNDERSTORM"), (0x2609, "SUN"), (0x260A, "ASCENDING NODE"),
   (0x260B, "DESCENDING NODE"), (0x260C, "CONJUNCTION"), (0x260D, "OPPOSITION"),
   (0x260E, "BLACK TELEPHONE"), (0x260F, "WHITE TELEPHONE"), (0x2610, "BALLOT BOX"),
   (0x2611, "BALLOT BOX WITH CHECK"), (0x2612, "BALLOT BOX WITH X"), (0x2613, "SALTIRE"),
   (0x2614, "UMBRELLA WITH RAIN DROPS"), (0x2615, "HOT BEVERAGE"), (0x2616, "WHITE SHOGI PIECE"),
   (0x2617, "BLACK SHOGI PIECE"), (0x2618, "SHAMROCK"),
   (0x2619, "REVERSED ROTATED FLORAL HEART BULLET"), (0x261A, "BLACK LEFT POINTING INDEX"),
   (0x261B, "BLACK RIGHT POINTING INDEX"), (0x261C, "WHITE LEFT POINTING INDEX"),
   (0x261D, "WHITE UP POINTING INDEX"), (0x261E, "WHITE RIGHT POINTING INDEX"),
   (0x261F, "WHITE DOWN POINTING INDEX"), (0x2620, "SKULL AND CROSSBONES"),
   (0x2621, "CAUTION SIGN"), (0x2622, "RADIOACTIVE SIGN"), (0x2623, "BIOHAZARD SIGN"),
   (0x2624, "CADUCEUS"), (0x2625, "ANKH"), (0x2626, "ORTHODOX CROSS"), (0x2627, "CHI RHO"),
   (0x2628, "CROSS OF LORRAINE"), (0x2629, "CROSS OF JERUSALEM"), (0x262A, "STAR AND CRESCENT"),
   (0x262B, "FARSI SYMBOL"), (0x262C, "ADI SHAKTI"), (0x262D, "HAMMER AND SICKLE"),
   (0x262E, "PEACE SYMBOL"), (0x262F, "YIN YANG"), (0x2630, "TRIGRAM FOR HEAVEN"),
   (0x2631, "TRIGRAM FOR LAKE"), (0x2632, "TRIGRAM FOR FIRE"), (0x2633, "TRIGRAM FOR THUNDER"),
   (0x2634, "TRIGRAM FOR WIND"), (0x2635, "TRIGRAM FOR WATER"), (0x2636, "TRIGRAM FOR MOUNTAIN"),
   (0x2637, "TRIGRAM FOR EARTH"), (0x2638, "WHEEL OF DHARMA"), (0x2639, "WHITE FROWNING FACE"),
   (0x263A, "WHITE SMILING FACE"), (0x263B, "BLACK SMILING FACE"),
   (0x263C, "WHITE SUN WITH RAYS"), (0x263D, "FIRST QUARTER MOON"),
   (0x263E, "LAST QUARTER MOON"), (0x263F, "MERCURY"), (0x2640, "FEMALE SIGN"),
   (0x2641, "EARTH"), (0x2642, "MALE SIGN"), (0x2643, "JUPITER"), (0x2644, "SATURN"),
   (0x2645, "URANUS"), (0x2646, "NEPTUNE"), (0x2647, "PLUTO"), (0x2648, "ARIES"),
   (0x2649, "TAURUS"), (0x264A, "GEMINI"), (0x264B, "CANCER"), (0x264C, "LEO"),
   (0x264D, "VIRGO"), (0x264E, "LIBRA"), (0x264F, "SCORPIUS"), (0x2650, "SAGITTARIUS"),
   (0x2651, "CAPRICORN"), (0x2652, "AQUARIUS"), (0x2653, "PISCES"), (0x2654, "WHITE CHESS KING"),
   (0x2655, "WHITE CHESS QUEEN"), (0x2656, "WHITE CHESS ROOK"), (0x2657, "WHITE CHESS BISHOP"),
   (0x2658, "WHITE CHESS KNIGHT"), (0x2659, "WHITE CHESS PAWN"), (0x265A, "BLACK CHESS KING"),
   (0x265B, "BLACK CHESS QUEEN"), (0x265C, "BLACK CHESS ROOK"), (0x265D, "BLACK CHESS BISHOP"),
   (0x265E, "BLACK CHESS KNIGHT"), (0x265F, "BLACK CHESS PAWN"), (0x2660, "BLACK SPADE SUIT"),
   (0x2661, "WHITE HEART SUIT"), (0x2662, "WHITE DIAMOND SUIT"), (0x2663, "BLACK CLUB SUIT"),
   (0x2664, "WHITE SPADE SUIT"), (0x2665, "BLACK HEART SUIT"), (0x2666, "BLACK DIAMOND SUIT"),
   (0x2667, "WHITE CLUB SUIT"), (0x2668, "HOT SPRINGS"), (0x2669, "QUARTER NOTE"),
   (0x266A, "EIGHTH NOTE"), (0x266B, "BEAMED EIGHTH NOTES"), (0x266C, "BEAMED SIXTEENTH NOTES"),
   (0x266D, "MUSIC FLAT SIGN"), (0x266E, "MUSIC NATURAL SIGN"), (0x266F, "MUSIC SHARP SIGN"),
   (0x2713, "CHECK MARK"), (0x2714, "HEAVY CHECK MARK"), (0x2715, "MULTIPLICATION X"),
   (0x2716, "HEAVY MULTIPLICATION X"), (0x2717, "BALLOT X"), (0x2718, "HEAVY BALLOT X")]

/-- The character with the given name; case does not matter. -/
def charNamed? (name : String) : Option Nat :=
  let wanted := String.ofList (name.toList.map Char.toUpper)
  (charNames.find? fun e => e.2 == wanted).map (·.1)

end TrackerHub.Text
