/-!
# Words of character names

The words that are frequent in the names of characters, in their order.
-/

namespace Taxonomy.Text.Names

/-- The frequent words, in rows with blanks between them. -/
def wordRows : List String := [
  "AA ABBREVIATION ABKHASIAN ABOVE ACCENT ACKNOWLEDGE ACUTE ADEG AE AELA-PILLA AFRICAN AI AIN",
  "AIRPLANE AITON ALAYHE ALAYHI ALEF ALEPH ALI ALMOST ALPAPRAANA ALPHA ALTA ALTERNATE",
  "ALTERNATING ALTERNATIVE AMPERSAND AN AND ANG ANGLE ANGLED ANNOTATION ANO ANTARGOMUKHA",
  "ANTICLOCKWISE ANUDATTA ANUSVARA APLI APOSTROFOI APOSTROFOS APOSTROPHE APPROXIMATE",
  "APPROXIMATELY ARABIC ARABIC-INDIC ARC ARCHAIC ARCHAION ARMENIAN ARROW ARROWHEAD ARROWS",
  "AS-SALAAM ASCENDING ASH ASH2 ASHGAB ASPIRATION ASTERISK ASTROLOGICAL AT ATHAPASCAN ATTACHED",
  "AU AVAGRAHA AYIN BA BABY BACK BACK-TILTED BACKHAND BACKSLANTED BACKSLASH BAD BAHAR2 BALAG",
  "BALL BALLOON-SPOKED BALLOT BAMBOO BAR BARB BARRED BARREE BARS BASE BASSA BBA BE BEE BEGIN BEH",
  "BELL BELOW BELT BEND BENT BESIDE BET BETA BETH BETWEEN BHA BI BIG BILABIAL BINDU BIRD BIRGA",
  "BISHOP BLACK BLACK-FEATHERED BLACK-LETTER BLACKFOOT BLACKLETTER BLOCK BLUE BOLD BONE",
  "BOOMERANG BOTTLE BOTTOM BOWTIE BOX BRACKET BRACKETED BRANCH BREATHY BREVE BRIDGE BROKEN BRUSH",
  "BU BUBBLE BUILDING BUILDINGS BULLET BUR BUT BUTTON BYELORUSSIAN-UKRAINIAN C-SIMPLIFIED CA",
  "CAMERA CAN CANADIAN CANCELLATION CANDRA CANDRABINDU CAPITAL CAR CARD CARET CARON CARPENTRY",
  "CARRIER CAT CEDILLA CEILING CENTRALIZATION CENTRE CENTRED CENTRELINE CHA CHAR CHARACTER",
  "CHARIOT CHART CHE CHECK CHEE CHELYUSTKA CHESS CHI CHIEUCH CHILD CHIN CHO CHRISTMAS CHRIVI",
  "CHROMA CIEUC CIRCLE CIRCLED CIRCLES CIRCUMFLEX CITYSCAPE CLEF CLICK CLIFF CLOCK CLOCKWISE",
  "CLOSE CLOSED CLOSING CLOTH CLOTHES CLOUD CLUSTER-INITIAL COLON COMBINING COMMA COMMERCIAL",
  "COMPLETION COMPOSITION COMPUTER CONGRATULATION CONJOINED CONJOINING CONSONANT CONSTRUCTION",
  "CONTACT CONTAIN CONTAINING CONTAINS CONTROL COPPER COPRODUCT COPTIC COPYRIGHT CORNER CORNERS",
  "COVER CREDIT CRESCENT CRESCENTS CROSS CROSSBONES CROSSED CROSSED-TAIL CROSSHATCH CROSSING",
  "CRYING CRYPTOGRAMMIC CUATRILLO CUPPED CURL CURLY CURRENCY CURRENT CURVE CURVED CURVING",
  "CYRILLIC DA DAD DAGESH DAGGER DAL DALET DALETH DAMMA DAMMATAN DANDA DANTAJA DARKENING DASH",
  "DASHED DASIA DDA DDDA DDHA DE DECIMAL DECORATION DEE DEGREE DEGREES DELIMITER DELTA",
  "DEMESTVENNY DENOMINATOR DENTAL DEPARTING DEPARTURE DESCENDER DESCENDING DEVANAGARI DEZH DHA",
  "DI DIAERESIS DIAGONAL DIALECT-P DIALYTIKA DIAMOND DIATONIKI DIFFERENTIAL DIGA DIGAMMA DIGIT",
  "DIGRAMMOS DIGRAPH DIMINUTION-1 DIPLI DIRECT DIRECTION DIRECTIONAL DISAPPOINTED DISC DISH",
  "DIVIDE DIVIDED DIVIDER DIVINATION DIVISION DJERVI DO DOACHASHMEE DOBRO DOCUMENT DOES DOG",
  "DOLLAR DOT DOTLESS DOTS DOTTED DOUBLE DOUBLE-LINE DOUBLE-STRUCK DOUBLED DOWN DOWN-POINTING",
  "DOWNWARDS DRACHMA DRAGON DRUM DU DUG DUN3 DVOECHELNAYA DVOECHELNOPOVODNAYA DZA DZE DZELO DZHA",
  "EAR EARTH EAST ECH EE EGYPTOLOGICAL EIGHT EIGHTEEN EIGHTH EIGHTHS EIGHTIETHS EIGHTY",
  "EKFONITIKON EL ELECTRIC ELEMENT ELEPHANT ELEVEN ELLIPSIS EM EMPTY EN ENCLOSING ENCLOSURE END",
  "ENG ENT-SHAPED ENTERPRISE ENTRY ENVELOPE EPIDAUREAN EPIGRAPHIC EPSILON EQUAL EQUALS",
  "EQUIHOPPER EQUILATERAL EQUIVALENT ERIN2 ESH ESH2 ETA ETH ETHIOPIC EXCLAMATION EXTENDED",
  "EXTENSION EXTRA-HIGH EXTRA-LOW EXTREMELY EYE EYEGAZE-FLOORPLANE EYEGAZE-WALLPLANE EYES EZH FA",
  "FACE FALLING FARSI FATHA FATHATAN FEATHER FEE FEH FEMALE FIFTEEN FIFTH FIFTY FIGURE FILE FILL",
  "FILLER FINAL FINANCIAL FINGER FINGERS FIRE FIRST FISH FISHHOOK FITA FIVE FIXED-FORM FLAG FLAT",
  "FLATBREAD FLATTENED FLEX FLOOR FLORAL FLOURISH FLOWER FLUTTERING FLYING FOLDER FOLLOWING FOOD",
  "FOOT FOR FORM FORTY FORWARD FOUR FOURTEEN FOURTH FRACTION FRITU FROM FRONT-TILTED FROWNING",
  "FTHORA FULL FULLWIDTH FUNCTIONAL GA GAD GAETTA-PILLA GAF GAL GALI GAMMA GAN GAN2 GANGIA GAR",
  "GATHERING GAYANUKITTA GEMINATION GEOMETRICALLY GEORGIAN GERSHAYIM GGA GHA GHAIN GHAN GHE",
  "GHOST GHUNNA GI GIMEL GIR2 GISH GLAGOLI GLAGOLITIC GLASS GLOTTAL GOAL GOLD GORAZDO GORGON",
  "GRANTHA GRAVE GREAT GREATER-THAN GREEK GREEN GRINNING GROMNAYA GROMOKRYZHEVAYA GROMOPOVODNAYA",
  "GU GUD GUNU HA HAA HAH HAIR HALANTA HALF HALF-CIRCLE HALFWIDTH HAMMER HAMZA HAND HAND-ANGLE",
  "HAND-CIRCLE HAND-CLAW HAND-CUP HAND-CURLICUE HAND-FIST HAND-FLAT HAND-HINGE HAND-HOOK",
  "HAND-OVAL HANDS HANGUL HAR HARD HARPOON HAT HE HEAD HEADSTONE HEADSTROKE HEART HEART-SHAPED",
  "HEARTS HEAVEN HEAVY HEEL HEH HELMET HENG HERMIONIAN HETH HHA HI HIEROGLYPH HIEUH HIGH",
  "HIGH-REVERSED-9 HINGED HIRAGANA HITTING HO HOLDING HOMOTHETIC HOOK HOOKED HORIZONTAL HORN",
  "HORSE HOURGLASS HOUSE HU HUMP HUNDRED HUNDREDS HYPHEN HYPHEN-MINUS HYPHENATION ICE ICHOS",
  "IDENTICAL IDENTIFICATION IDEOGRAM IDEOGRAPH IDEOGRAPH-4E09 IDEOGRAPH-4E8C IDEOGRAPH-6253",
  "IDEOGRAPHIC IE IEUNG IEUNG-KIYEOK IGI II IMAGE IMPERFECTA IN INCREASE INDEPENDENT INDEX",
  "INDICATOR INFINITY INFORMATION INITIAL INSERTION INSIDE INSULAR INTEGRAL INTEGRATION",
  "INTERROBANG INTERSECTION INVERSE INVERTED IOTA IOTATED IOTIFIED ISOLATED ITALIC ITERATION",
  "IZHITSA J-SIMPLIFIED JA JACK JAPANESE JEE JEEM JHA JHAN JIHVAMULIYA JOINED JOINER JOKER",
  "JONGSEONG JOT JUNGSEONG KA KAD3 KAF KAI KAK KAN KANG KAPH KAPPA KAPYEOUNMIEUM KAPYEOUNPHIEUPH",
  "KAPYEOUNPIEUP KAPYEOUNRIEUL KAPYEOUNSSANGPIEUP KAREN KASKAL KASRA KASRATAN KATAKANA",
  "KATAKANA-HIRAGANA KATHAKA KATO KAVYKA KE KEHEH KENTIMA KENTIMATA KET KETTI KEY KEYBOARD KHA",
  "KHAH KHAMTI KHAR KHIEUKH KHO KI KING KIRGHIZ KISIM5 KISS KISSING KIYEOK KIYEOK-SIOS KLASMA",
  "KLYUCHENEPOSTOYANNAYA KLYUCHEVAYA KNIFE KNIGHT KNIGHT-BISHOP KNIGHT-QUEEN KNIGHT-ROOK KNUCKLE",
  "KNUCKLES KO KOMI KOPPA KOREAN KORONIS KRYUKOVAYA KRYZH KRYZHEM KSSA KU KU3 KUR KUSHU2 KYEE LA",
  "LAGAB LAGAR LAING LAL LAM LAMDA LAMED LAMEDH LARGE LARGEST LATIN LE LEAF LEFT LEFT-FACING",
  "LEFT-POINTING LEFT-SHADED LEFT-TO-RIGHT LEFTWARDS LEG LENGTH LENGTHENER LENTICULAR LESS-THAN",
  "LETTER LHA LI LIGATURE LIGHT LIGHTNING LINE LIPS LITTLE LJUDIJE LL LLA LLLA LO LOCATION",
  "LOCOMOTIVE LOGICAL LOGOGRAM LONG LOOP LOTUS LOW LOW-FALLING LOWER LOZENGE LU LUM LUNATE MA",
  "MACHINE MACRON MADDA MAEMBA MAHAAPRAANA MAHAPRANA MAI MAKSURA MALAYALAM MALE MALO MAN MANCHU",
  "MANDAILING MAPIQ MARBUTA MARK MARK-1 MARK-2 MARKER MASH MATHEMATICAL MBAA ME MEASURE MEASURED",
  "MEAT MEDIAL MEDIUM MEEM MEM MEN MFON MGO MI MICROPHONE MID MID-LEVEL MIDDLE MIDDLE-WELSH",
  "MIEUM MIEUM-KIYEOK MIEUM-PANSIOS MIEUM-PIEUP MIEUM-SIOS MILITARY MILLIONS MINUS MO MOBILE",
  "MODIFIER MODIFIER-2 MODIFIER-3 MODIFIER-4 MODIFIER-5 MODIFIER-6 MON MONGOLIAN MONKEY",
  "MONOCULAR MONOFONIAS MONOGRAM MONOGRAMMOS MONOGRAPH MONOSPACE MONTH MOON MOUNTAIN MOUSE MOUTH",
  "MOVEMENT MOVEMENT-FLOORPLANE MOVEMENT-WALLPLANE MRACHNAYA MU MULTIMAP MULTIPLE MULTIPLICATION",
  "MURDA MUSH MUSICAL MUURDHAJA MYANMAR MYSLITE N-ARY N-CREE NA NAA NAASIKYAYA NABLA NAGA NAME",
  "NARROW NASALIZATION NASHI NASKAPI NDA NDAA NE NEGATIVE NEITHER NEO NEPOSTOYANNAYA NEUTRAL",
  "NEWSPAPER NG NGA NGAA NGGA NGGEN NGGOO NGO NHA NI NIEUN NIEUN-CIEUC NIEUN-HIEUH NIEUN-KIYEOK",
  "NIEUN-PANSIOS NIEUN-SIOS NIEUN-TIKEUT NIGHT NIKOLSBURG NINDA2 NINE NINETEEN NINETY NIZKO NJE",
  "NJEE NNA NNNA NO NO-BREAK NOON NOR NORMAL NORTH NOSE NOT NOTATION NOTCHED NOTE NOTEHEAD NOTES",
  "NTAP NTEUM NU NUBIAN NUKTA NUMBER NUMERAL NUMERATOR NUN NYA NYAM NYI NYIS NYO OBLIQUE OE OF",
  "OGONEK OJIBWAY OLD OM OMEGA OMICRON ON ONCOMING ONE ONE-HUNDRED-AND-SIXTIETH OO OPEN OPENING",
  "OPERATOR OPPOSING OPPOSITION OR ORANGE ORIGINAL ORKHON ORNAMENT OTTAVA OUT OUTLINED OVER",
  "OVERBAR OVERLAID OVERLAPPING OVERLAY OVERLINE OXIA OYRANISMA PA PAGE PALATAL PALAUNG PALI",
  "PALM PANSIOS PAP PAPER PARAGRAPH PARAKALESMA PARAKLITIKI PARALLEL PARENTHESES PARENTHESIS",
  "PARENTHESIZED PARESTIGMENON PARTIAL PARTNERSHIP PATAH PAWN PE PEACE PEDESTRIAN PEE PEH",
  "PENTAGON PENTASEME PERCENT PERFECTA PERISPOMENI PERPENDICULAR PERSON PHA PHAR PHARYNGEAL PHI",
  "PHIEUPH PHIEUPH-PIEUP PHO PI PIECE PIEUP PIEUP-CHIEUCH PIEUP-CIEUC PIEUP-HIEUH PIEUP-KIYEOK",
  "PIEUP-PHIEUPH PIEUP-SIOS PIEUP-SIOS-KIYEOK PIEUP-SIOS-TIKEUT PIEUP-THIEUTH PIEUP-TIKEUT",
  "PINWHEEL PIPAEMGBIEE PITCHFORK PLACE PLACEHOLDER PLUS PO PODCHASHIE POINT POINTED POINTER",
  "POINTING POKOJI POLICE POSITION POSSESSION POSTAL POUND POUTING POVODNAYA POVYSHE POWER",
  "PRAM-BEI PRAM-BUON PRAM-MUOY PRAM-PII PRECEDES PRECEDING PREPONDERANCE PRESENTATION PRIME",
  "PRISHTHAMATRA PRODUCT PROLATIONE PROLONGED PROPORTION PROSGEGRAMMENI PROSTAYA PSI PSIFISTON",
  "PSILI PU PUNCTUATION PURPLE QA QAF QAMATS QOPH QUAD QUADRANT QUADRUPLE QUARTER QUARTERS QUEEN",
  "QUESTION QUOTATION RA RADICAL RAE RAILWAY RAIN RAISED RANGE RATHA RAYS RDEL RE RECEIVER",
  "RECTANGLE RECTANGULAR RECYCLING RED REDUPLICATION REFORMED REH RELATION REPA REPEAT",
  "REPETITION RESH REST RETROFLEX RETURN REVERSE REVERSED REVOLVING RHA RHO RI RIBBON RICE RIEUL",
  "RIEUL-HIEUH RIEUL-KAPYEOUNPIEUP RIEUL-KHIEUKH RIEUL-KIYEOK RIEUL-KIYEOK-SIOS RIEUL-MIEUM",
  "RIEUL-NIEUN RIEUL-PANSIOS RIEUL-PHIEUPH RIEUL-PIEUP RIEUL-PIEUP-SIOS RIEUL-SIOS",
  "RIEUL-SSANGKIYEOK RIEUL-THIEUTH RIEUL-TIKEUT RIEUL-YEORINHIEUH RIGHT RIGHT-FACING",
  "RIGHT-POINTING RIGHT-SHADED RIGHT-SHADOWED RIGHT-TO-LEFT RIGHTWARDS RING RISING RITSI RO",
  "ROMAN ROOK ROTATED ROTATION-FLOORPLANE ROTATION-WALLPLANE ROUND ROUNDED RR RRA RTAGS RU",
  "RUDIMENTA RUPEE SA SAD SADHE SAFETY SAG SAL SALLALLAHOU SALT SALTIRE SAMARITAN SAMEKH SAMPI",
  "SANDHI SANS-SERIF SANYAKA SAR SATELLITE SAYISI SCANDICUS SCHOOL SCHWA SCREEN SCRIPT SE",
  "SEBATBEIT SECOND SECTION SEE SEEN SEGOL SELECTOR SEMI-VOICED SEMIBREVIS SEMICIRCLE",
  "SEMICIRCULAR SEMICOLON SEMIDIRECT SEMIMINIMA SEPARATOR SEQUENTIAL SERIFS SET SEVEN SEVENTEEN",
  "SEVENTY SHA SHA3 SHAD SHADDA SHADE SHADOWED SHAKING SHAN SHAR2 SHARP SHCHA SHE SHEE SHEEN",
  "SHEEP SHELL SHESHIG SHI SHID SHIELD SHII SHIMA SHIN SHIR SHO SHOE SHORT SHORTS SHOULDER SHU",
  "SHU2 SHWE SI SIDDHAM SIDE SIDEWAYS SIGMA SIGN SILHOUETTE SIMALUNGUN SIMILAR SIMPLIFIED SINGLE",
  "SINGLE-LINE SINNYIIYHE SIOS SIOS-CHIEUCH SIOS-CIEUC SIOS-HIEUH SIOS-KIYEOK SIOS-MIEUM",
  "SIOS-NIEUN SIOS-PIEUP SIOS-RIEUL SIOS-THIEUTH SIOS-TIKEUT SIX SIXTEEN SIXTEENTH SIXTEENTHS",
  "SIXTH SIXTY SIXTY-FOURTH SKAMEYTSA SKEWED SKLIRON SKULL SLANTED SLASH SLEEPING SLIGHTLY SLOAN",
  "SLOVO SMALL SMILE SMILING SNAKE SNOWMAN SO SOFT SOGDIAN SOLIDUS SOUND SOURCE SOUTH SPACE",
  "SPACING SPEECH SPHERICAL SPIRAL SPIRIT SPOON SPREAD SQUARE SQUARED SQUIGGLE SSA SSANGCIEUC",
  "SSANGHIEUH SSANGIEUNG SSANGKIYEOK SSANGNIEUN SSANGPIEUP SSANGRIEUL SSANGSIOS SSANGTIKEUT",
  "STAFF STAR START STEM STICK STILE STOCK STONE STOP STRAIGHT STRANNO STRELA STRESS STRETCHED",
  "STROKE STROKES SU SUBGROUP SUBJOINED SUBJOINER SUBLIMATE SUBLINEAR SUBSCRIPT SUBSET",
  "SUBSTITUTE SUBSTITUTION SUCCEEDS SUKUN SUM SUMMATION SUN SUNDANESE SUNG SUNGLASSES",
  "SUPERSCRIPT SUPERSET SUPERVISE SUPRALINEAR SUSPENSION SVARITA SVETLAYA SWASH SWEAT SYLLABICS",
  "SYLLABLE SYMBOL SYMBOL-11 SYMBOL-12 SYMBOL-13 SYMBOL-14 SYMBOL-17 SYMBOL-18 SYMBOL-19",
  "SYMBOL-23 SYMBOL-24 SYMBOL-50 SYMBOL-51 SYMBOL-52 SYMBOL-53 SYMBOL-54 SYMBOLS SYRIAC TA TAA",
  "TAB TABLE TABULATION TACK TAH TAI TAIL TAK4 TALL TAM TAMIL TAR TARGET TATWEEL TAU TAW TCHEH",
  "TE TEARDROP-SPOKED TEDUNG TEE TEH TELEGRAPH TELEPHONE TEN TENTH TENU TESH TESSERA TET",
  "TETARTIMORION TETH TETRASEME TETRASIMOU TEXT THA THAA THAL THAM THAN THE THEE THEH THEN",
  "THERMOMETER THESPIAN THETA THI THIEUTH THIN THIRD THIRDS THIRTEEN THIRTY THIRTY-SECOND THO",
  "THORN THOUSAND THOUSANDS THREAD THREE THROUGH THUMB THUNDER TI TICK TIGER TIGHT",
  "TIGHTLY-CLOSED TIKEUT TIKEUT-CIEUC TIKEUT-KIYEOK TIKEUT-PIEUP TIKEUT-RIEUL TIKEUT-SIOS",
  "TIKHAYA TILDE TILTING TIMES TINY TIP TITLO TO TOGETHER TONAL TONE TONE-1 TONE-2 TONE-3 TONE-4",
  "TONE-5 TONE-6 TONE-7 TONE-8 TONGUE TONOS TOOTH TOP TOP-LIGHTED TORTOISE TRANSMISSION",
  "TRANSPOSITION TREE TREMOLO-1 TREMOLO-2 TREMOLO-3 TRESVETLAYA TRIANGLE TRIANGLE-HEADED",
  "TRIANGULAR TRIDENT TRIGRAMMOS TRIPLE TROEZENIAN TROKUTASTI TROMIKON TRUCK TSA TSE TSHA TSHEG",
  "TSI TTA TTHA TTHAA TTHO TU TUAREG TUG2 TURNED TURNSTILE TURTLE TVRIDO TWELVE TWENTIETH",
  "TWENTIETHS TWENTY TWENTY-EIGHTH TWENTY-FIVE TWENTY-FOUR TWENTY-ONE TWENTY-THREE TWENTY-TWO",
  "TWO TWO-CIRCLE TWO-HEADED U2 UD UDATTA UE UKRAINIAN UMBRELLA UNDER UNDERBAR UNIFIED UNION",
  "UNIT UNIVERSAL UP UP-POINTING UPADHMANIYA UPPER UPSILON UPWARDS URUDA USH UU VA VARIA VARIANT",
  "VARIATION VAV VE VEDIC VEE VERSE VERTICAL VERTICALLY VERY VIRAMA VISARGA VOCALIC VOICED",
  "VOLAPUK VOWEL VRACHY VULGAR VYSOKO WA WALK WALL WASLA WATER WAVE WAVY WAW WAW-AYIN-RESH WE",
  "WEST WEST-CREE WESTERN WHEAT WHEEL WHEELCHAIR WHITE WI WIDE WIDE-HEADED WIDTH WIGGLY WIND",
  "WINE WITH WITHIN WITHOUT WO WOMAN WOMANS WOODS-CREE WORD WRINKLED WRIST WYNN XA XI Y-CREE YA",
  "YAA YAJURVEDIC YANG YAT YE YEE YEH YELLOW YENISEI YEORINHIEUH YERI YERU YESIEUNG",
  "YESIEUNG-PANSIOS YESIEUNG-SIOS YESTU YFESIS YI YIG YIN YO YOD YODH YPOGEGRAMMENI YU YUS ZA",
  "ZAH ZAIN ZAPYATAYA ZAPYATOY ZAYIN ZE ZEMLJA ZERO ZETA ZHA ZHAR ZHE ZHEE ZHIVETE ZIGZAG"]

end Taxonomy.Text.Names
