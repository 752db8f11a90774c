/-!
# Character name data

The names of the named characters of Unicode 14.0, and their aliases, in a
compact text form read by `MaskedLog.Unicode.Names`.

* `nameWordText` — the words that occur in more than one place of the records,
  most used first, separated by spaces.
* `nameRecordText` — one record per named character, in code point order.
* `nameAliasText` — the aliases: a code point in hexadecimal, a space and the
  alias, entries separated by `;`.

A record starts with a lowercase letter: `a` opens a record that begins
afresh, and each later letter keeps one more leading piece of the previous
record. The pieces that follow are words of `nameWordText` (the character
U+0100 and the 767 after it for the first 768 words, then U+4E00 onwards for
the rest), a word spelled out after `.`, or `#` for the record's code point in
hexadecimal. A record names the code point after the previous record's, unless
`!` and hexadecimal digits before it give its code point. The names of CJK
unified ideographs and Hangul syllables are made from their code points and
are not listed.

## References

The names of Python's `unicodedata.lookup`, Unicode 14.0.
-/

namespace MaskedLog.Unicode

/-- The words that occur in more than one place of the name records. -/
def nameWordText : List String := [
  "WITH LETTER SMALL FORM CAPITAL SIGN AND ARROW RIGHT ABOVE LEFT U A O TWO E BELOW FINAL ONE DOUBLE I DOT MARK THREE TO BLACK ISOLATED WHITE OF FOUR HOOK STROKE SYMBOL FIVE INITIAL RIGHTWARDS HEAVY MIDDLE R S VERTICAL UP SIX EIGHT TIMES L MEEM BAR PLUS LEFTWARDS SEVEN HALF DOWN HUNDRED HA NINE BRACKET KA SQUARE FACE PA N RA CIRCLE YEH DOTS OVER THOUSAND LA NA MA YA M EQUAL ALEF VOWEL LIGHT INDEX HORIZONTAL TILDE TA SA DIGIT RING DA DOWNWARDS G LOWER TRIANGLE K T V GA LOW BARB H ACUTE UPWARDS D MEDIUM Y HAH BA MEDIAL ZERO AA WEST-CREE C Z UPPER P OPEN OR TURNED JEEM X LONG TEN B W",
  "CIRCUMFLEX TONE THUMB II AI DASIA REVERSED PSILI J DIAERESIS HIGH NGA AU STOP SHA UU ARROWHEAD JA WA TRIANGLE-HEADED CA LARGE F GRAVE SINGLE CHA LINE NYA INVERTED MACRON MAKSURA POINTING KHA NUMBER ON ROTATED EAST VARIA OXIA COMMA THA LESS-THAN Q NOT GREATER-THAN STAR VOCALIC BLOCK CENTRE BREVE HARPOON TAIL LITTLE PHA KHAH IN VA WEST CIRCLED OLD ANGLE ORNAMENT GUNU DEGREES FULL LATIN SHORT TTA ANUSVARA EN DDA ZA OO DHA NORTH PE NUN GHA ASTERISK CROSS TRIPLE CARON DIAGONAL ASH NNA PERISPOMENI BHA OPERATOR PUNCTUATION SOUTH PARENTHESIS RETROFLEX PI EE TOP TTHA HE FA VIRAMA TWENTY DASH TENU OE DESCENDER SSA NO DDHA RR DIAMOND ACCENT COMBINING NOON OMEGA YPOGEGRAMMENI DOTTED MU FOR WAW THE NINETY",
  "YU LAM TE HAMZA VISARGA JHA EQUALS CLOSED POINTED LL SQUARED HORN TACK SHE SEVENTY QUARTER LIGATURE ALPHA AIN AN NI FIFTY AE NU BOTTOM YO CORNER CHESS COLON IOTA CANDRABINDU REH FROM CROSSING HAND HITTING QUOTATION MODIFIER END SHIN KAF DANDA TSA ME NE BENT QUESTION CEDILLA PALATAL YUS HEH MI HEART BOLD ORKHON UPSILON GLOTTAL DIGRAPH YI TAH HI PROSGEGRAMMENI VERY KNIGHT YENISEI HAND-FIST RHO SEEN LLA EIGHTH GAR BOX NEO EXCLAMATION CURLY RAISED SIGMA EPSILON WE HO QAF RO SUBSET MOON IGI SIDE SCRIPT PHI GREEK THETA COPTIC NUKTA KO TU UNDERBAR SOLIDUS AT SECTION RIGHT-POINTING CHI CHE STRAIGHT SEPARATOR SO LU WO SUPERSET SHELL EQUILATERAL FINGERS OVERLAY FEH DAGESH SAD UE CONSONANT SANS-SERIF ALTERNATE DISH SPACE",
  "GAMMA CURL TRIANGULAR DE ZE EL ZHA MO RU WI SI SE THIRTY WAVE VARIANT SLANTED LEAF NEUTRAL SHAFT REVERSE ETA SU GI KE MAN KI MOUTH EYES LEFT-POINTING DELTA QA BEH RRA DO KU NOTE FRACTION TONOS ARCHAIC BETA MEM ARABIC TEH SHEEN DAD HEAD INSIDE LO BU DI UD INTEGRAL BAD ARCHAION ESH LOOP MINUS OMICRON KAPPA TAU GHE EM ABBREVIATION PO TI LI RE FORTY INSULAR ANTICLOCKWISE TORTOISE KING SPOKED CURVE REST GAN2 HAND-HINGE CONJOINED ALTERNATING LEG PSI IE GHAIN NG BETH SIXTY SOUND INTERSECTION UNION BETWEEN SMILING KUR ALEPH HAND-CIRCLE FORWARD HEARTS ALMOST VE ZHE IOTIFIED KOMI GIMEL SAMEKH KAPH TAW AVAGRAHA THO SYLLABLE SHAD YE RI DU GU SLASH ARROWS ARC QUEEN PERSON PAP TAK4",
  "GISH HINGED QUARTERS OGONEK XI BE ER ZAIN HETH SADHE OBLIQUE WORD CANDRA LENGTH TSHA LE BI XA EIGHTY KOET ROC EIGHTHS EQUIVALENT OUT NEGATIVE SHADE QUADRANT C-SIMPLIFIED IDEOGRAPHIC YODH LAMEDH SOFT DOTLESS DIALYTIKA LAMDA CYRILLIC TSE BIG ZAYIN DAL AS CAN NYI HU SHU QUAD BULLET TWELVE TIP EARTH UP-POINTING FILL THROUGH SPADES DIAMONDS CLUBS SUPERSCRIPT ZETA ET POINT RESH KASRA RISING OM DZA MAI GO MGO PU MULTIPLE CLOCKWISE THIRD DASHED PRODUCT LOGICAL PRECEDES SUCCEEDS OVERBAR LOZENGE WATER CROSSED SHADOWED RED CIRCLES GUD U2 ICHOS SPREAD SEMICOLON HYPHEN BY ENG PRIME YANG JE ROUND CO AYIN FATHA THEH FE ZO AH BO ANG AY RTAGS ZU Y-CREE TEDUNG MUSICAL TELEPHONE ELEVEN CHECK DOWN-POINTING ROOK BISHOP PAWN FLAG BALL",
  "CAT BACK LAGAB KASKAL KRYZHEM POVYSHE NOTEHEAD HAND-ANGLE MOVEMENT-WALLPLANE MOVEMENT-FLOORPLANE WRIST OCLOCK MULTIPLICATION CLICK BELT SHO ES YERU ZAH FI SHAN PHO FO TSHEG NOR WU JO CARRIER MURDA SIMALUNGUN QUADRUPLE DOUBLE-STRUCK ITALIC WALL FIFTEEN SUN SALTIRE FIRE WIND CURVED TWO-HEADED KATAKANA SCHWA BARRED VOICED NUMERAL LUNATE EF HARD TICK EH VO YOD ARABIC-INDIC DAMMA WAVY ROUNDED TETH AM SIXTEEN ALPAPRAANA MAHAAPRAANA YIG CARET TONE-2 TONE-5 ZI GE NASKAPI BIRGA SVARITA DOES ELEMENT BUT NORMAL FLOOR INVERSE BESIDE FISH TREE SALT LEFT-STEM DALETH TWELFTHS ASH2 LAL SHAR2 FLEX APOSTROPHE EZH CROSSED-TAIL YIN YAT RHA MEN MADDA HAA AB AL SIDEWAYS CHARACTER CHO NYO EI KAREN EU TONE-3 HANGUL IEUNG CIEUC FILLER HHA VI CE FU PEE SAYISI TAI CRYPTOGRAMMIC FIRST",
  "THIRDS IMAGE UNDER CEILING KEY PAGE EYE EIGHTEEN SUIT ENVELOPE PINWHEEL STEM NOTCHED NUBIAN HORSE HANDS ITERATION IM LUM VINE ESH2 GAD GESH2 LARGEST CHARACTERS BAMBOOS BUBBLE AMPERSAND INDICATOR ETH THORN DIVISION DZ OU CENTRED BEGIN OVERLINE ZIGZAG ANO SHEI DZE NJE THOUSANDS ABKHASIAN LHA MARKER TEXT EXTENDED PALI ELLIPSIS UN KIYEOK NIEUN TIKEUT RIEUL MIEUM PIEUP SIOS CHIEUCH KHIEUKH THIEUTH PHIEUPH HIEUH VEE JI TH INDEPENDENT MAHAPRANA SASAK PAIRED CONTAINS PARALLEL TURNSTILE SUBGROUP NOTATION JOT EXTENSION PIECE THIRTEEN FOURTEEN SEVENTEEN NINETEEN MOUNTAIN MALE STAFF CAR ICE TAB DIALECT-P BLUE DRAGON WOMAN LENTICULAR BUR LONSUM SUBUNIT STATERS QOPH CRESCENTS MUSH USH OPPOSING TUG2 KAK SHESHIG SAL SECANT NIZKO ZAPYATAYA SVETLAYA DODEKATA FINGER MOVEMENT FRONT GREEN BACKHAND BUD COMPRESSED DOLLAR FISHHOOK",
  "MID JOINER SHIMA FITA MILLIONS TET THAL FARSI SUKUN SUBSCRIPT PLACE EMPTY VERTICALLY WITHIN BBA RUPEE TAMIL SIDDHAM ODD POWERS KHO NGO TAM MON TONE-4 GAN TAR SEE VU TAA JU THI TSI FEE SH UR ALI GALI HAIR BACKSLASH RECTANGLE SHOE CONTAINING BALLOT RAIN PLASTICS OUTLINED FALLING JAPANESE AIRPLANE TEARDROP-SPOKED THEN SIMILAR HAT TUAREG CJK SECOND SPEECH TONGUE GAL KET TALENTS LAGAR MASH SHU2 MFON SLOAN MALO KLYUCHEVAYA DIPLI KATO HEEL CHEST WRINKLED LIPS MOUSE FOLDER ORE BROKEN SHARP SWASH BRIDGE SAMPI DIGAMMA KAI KOPPA KHEI HORI GANGIA SAN IZHITSA UK ECH PEH VAV BET KEHEH FATHATAN SHADDA GAF YAA NAA AD LLLA ATTACHED GGA THAN EK SIXTEENTH EVEN JIHVAMULIYA UPADHMANIYA DIGA SUNG KAN -A SUBJOINED GREAT PWO RAE",
  "HAR YN AEN SHI BEE TEE XE YEE DEE JEE TOO LOO SHWE IS EAR UA INFINITY WIGGLY DUG NDA NARROW AV KAVYKA VRACHY DAGGER TIE MATHEMATICAL N-ARY PARTIAL DIFFERENTIAL SET NABLA STILE BELL BOW CORNERS RAYS CLOUD CRESCENT FEMALE FLAT MONOGRAM SCISSORS SUM SINGLE-LINE DOUBLE-LINE HOOKED IZHE IOTATED DIVIDER SUBSTITUTION DOG NOSE HIRAGANA HOLDING MBAA VOLAPUK NHA MEASURE THESPIAN PEN ENY SAG ERIN2 GIR2 KU3 SAR LU3 VYSOKO KHOKHLOM ZAPYATOY BARLINE CLEF CONTACT HAND-CUP CUPPED HUMP GLASS BABY BOOK ORANGE BUTTON COPPER ANTIMONY EXTREMELY EQUIHOPPER PERCENT COMMERCIAL CURRENCY YEN OI HENG YOT YAE ARMENIAN KEN OH ROOT ALAYHE DAMMATAN KASRATAN KIRGHIZ PARAGRAPH RAA THAA ZEN AQ GEMINATION NNNA ANUDATTA JJA VEDIC SANDHI CIRCULAR NN HIP CLOSING DZHA KSSA TALL",
  "BBE PWA TONE-1 KHAMTI GEORGIAN NAR QAR JIL HIE EO LAA REE QU QI WAA ZEE GAA GEE THEE MV WOO PII POO TWE TTE KOO SII SOO HOO MANCHU VARIATION WAY OJIBWAY NEW OA MARK-1 MARK-2 MBA WIDE ROTUNDA WIDTH LEFT-TO-RIGHT INTERROBANG FLOWER SCREEN BLACK-LETTER ROMAN SEMICIRCLE ALL MEASURED APPROXIMATELY NEITHER ORIGINAL CUP SEMIDIRECT HOUSE KEYBOARD JOINED FILE POINTER UMBRELLA HOT NOTES WITHOUT TRAFFIC MAP OPENING FENCE ARM TINY POLE PENTAGON U-SHAPED MYSLITE CHRIVI PALM REPEAT KNIFE COW YELLOW TURTLE RICE DRUM KATAKANA-HIRAGANA IU NAME CUBED KPA TUR GAP NJI NJEE NGGA DHE YER FLOURISH UM LOGOGRAM IDEOGRAM CHARIOT E2 OW EZ EC CIM AB2 KISIM5 DIM DUB HAL KUSHU2 TAG LU2 PAD URUDA GESHU SHARU BURU BAN2 BASSA",
  "VOS GORAZDO NEPOSTOYANNAYA KENTIMATA FTHORA HAND-OVAL HAND-HOOK ROTATION-WALLPLANE ROTATION-FLOORPLANE BREATHY CARD MEDAL BOARD BUILDING MONKEY DISK ROCKET ONCOMING SUBLIMATE HYPHEN-MINUS POUND DEGREE TOPBAR HV WYNN DEZH TESH EXTRA-HIGH EXTRA-LOW DJE LJE KSI TITLO OT SHHA NOW RIGHT-FACING LEFT-FACING PATAH QAMATS RAFE SIN DALET LAMED FOURTH TATWEEL GHUNNA TCHEH GOAL BARREE START SYRIAC MIM BAA YUT AG AK THIN DOUBLED UDATTA YYA DDDA SIXTEENTHS SANYAKA PLA CANCELLATION DELIMITER NYIS RDEL MCHU SVASTI WESTERN TONE-6 BAN DON VIN TAN LAS PAR ZHAR PHAR KHAR GHAN CHIN CIL CHAR XAN JHAN HAE HOE SSANGKIYEOK SSANGTIKEUT SSANGPIEUP SSANGSIOS SSANGCIEUC RIEUL-HIEUH PIEUP-SIOS NIEUN-CIEUC NIEUN-HIEUH RIEUL-KIYEOK RIEUL-MIEUM RIEUL-PIEUP RIEUL-SIOS ETHIOPIC HEE LEE MWA SAA SHEE QE QO CI NWA KAA KWI KWAA KWE WEE ZHEE CHU",
  "CHEE TSU TSO FAA PAA SEBATBEIT MWI PWI DLA SHII YOO RII TTHO NGI NGAA KHI KK FEATHER AC THAM LAI KANG CENTRALIZATION REPA ADEG ZAL DAG IR UC EP ERR SATANGA SNAKE US FLATTENED AO MIDDLE-WELSH FIGURE RIGHT-TO-LEFT QUILL ISOLATE OHM SUMMATION HEADED BASE SQUIGGLE MEMBER IDENTICAL CAP RELATION BAG ELECTRIC CROP POSITION HOURGLASS BARS VANE DEL RADICAL FOOT RETURN CLOCK UNIT FORK PARENTHESIZED LIGHTNING SHOGI HAMMER HEAVEN WHEEL FROWNING PAPER HELMET PENTAGRAM PENCIL FLORETTE RIGHT-SHADOWED JOIN ARROW-TAIL SQUARES SERIFS APPROXIMATE ELLIPSE RIBBON CUSP ARROWHEADS DZELO YERI EIE ZATA KAPA OOU YAH ZZA KYEE SIMPLIFIED RAM MEAT TIGER WALK GOLD EAT BONE BIRD J-SIMPLIFIED TOOTH PIG WINE RAT POSTAL TELEGRAPH HP IDEOGRAPH NIGHT MM KM TWENTY-FIVE TOGETHER OX EX",
  "POT NDE NDU GUR KUT SUR MBEE KPO BHE MBE GBE LENGTHENER MONOCULAR NDAA SUU LOQ REN EGYPTOLOGICAL CUATRILLO RUM TUM LAING SS SPIRAL IA UI ALAYHI AS-SALAAM OIL OBOLS DISC LOTUS ENT ENC NIKOLSBURG RUDIMENTA TRIDENT DUN3 BALAG SHA3 KAD3 NAGA BAL GA2 GI4 SHID LUGAL SHIR MIN NTAP NTEUM NYAM TONE-8 TIKHAYA KRYZH PROSTAYA TRESVETLAYA POVODNAYA GROMNAYA GROMOPOVODNAYA EKFONITIKON KENTIMA KLASMA DYO TROMIKON APLI YFESIS ALTA BEND PERFECTA KNUCKLE HAND-CLAW SEQUENTIAL SHAKING TILTING KISS SHOULDER JOKER ACE JACK OK FOOD BOTTLE STICK SILHOUETTE POLICE SWEAT CHART FLOPPY RECEIVER MOBILE LOCK CHECKER RAILWAY ISOSCELES FINGER-POST NO-BREAK VULGAR AFRICAN DENTAL LEZH STRETCHED BILABIAL TS FENG DEPARTING KORONIS STIGMA IO GJE UKRAINIAN SHCHA UPTURN AYB BEN GIM INI XEH VEW YIWN",
  "PIWR KEH ETERNITY SEGOL MAPIQ TSADI QOF TAV CUBE PER VERSE MARBUTA DECIMAL WASLA TTEH SUPRALINEAR SUBLINEAR SKEWED RISH SOGDIAN GBA DESCENDING NASALIZATION IY IT AR DEVANAGARI PRISHTHAMATRA AW STRESS UUE GHHA SPACING ANJI MONTH CREDIT TENTH FIFTH GAYANNA JAYANNA DDAYANNA MUURDHAJA DAYANNA DANTAJA BAYANNA SAYANNA AELA-PILLA KETTI KOMBUVA GAYANUKITTA NEN YAK SUA SARA YY GTER DKAR GSUM NAG BZHI KKA HALANTA -KHYIL MYANMAR SGAW YWA PALAUNG AITON SSANGNIEUN NIEUN-TIKEUT MIEUM-PIEUP KAPYEOUNMIEUM PIEUP-TIKEUT PIEUP-SIOS-TIKEUT PIEUP-CIEUC KAPYEOUNPIEUP SIOS-KIYEOK SIOS-TIKEUT SIOS-PIEUP SIOS-CIEUC PANSIOS SSANGIEUNG YESIEUNG KAPYEOUNPHIEUPH YEORINHIEUH NIEUN-SIOS YEO WAE WEO KIYEOK-SIOS RIEUL-THIEUTH RIEUL-PHIEUPH RIEUL-TIKEUT MIEUM-SIOS LWA MAA MEE SWA SHWA QAA TWA CU CAA CWA NEE NYU NYE KEE KWA KXA ZHU ZHI ZHO DDO GGE THU THWA PHE MYA MWE",
  "PWE TONAL HNA NAH NV QUO QUU SV TLA TLE TLI TLO TLU CANADIAN SYLLABICS STROKES PWAA TWAA TTO KW COO CWI CWAA MOO MWAA NOO NWAA SWAA BLACKFOOT SHOO YWAA FOO N-CREE THII THOO THWAA TLHA LH HWE KHE TIR ING SSO LY TYPE MUOY BEI BUON PRAM PRAM-MUOY PRAM-PII PRAM-BEI PRAM-BUON TODO FREE SELECTOR OY KAY TTHAA TRA DAP NRA RATHA SAT SAM PARENTHESES DANG JEGOGAN PING MANDAILING KARO BINDU NYET IH YAJURVEDIC KATHAKA SUSPENSION LEADER POP INSERTION CLOSE WON DRACHMA INFORMATION SOURCE FIFTHS SIXTH OPEN-HEADED CONTAIN DIVIDE CONTOUR LAZY MUCH TRUE MULTIMAP BOWTIE FACTOR SEGMENT SMILE COMPOSITION ALTERNATIVE DIRECT CURRENT SHORTS POWER FEED CONTROL BRANCH BANK SNOWMAN OPPOSITION FLORAL SKULL PEACE THUNDER LAST CLUB RECYCLING WHEELCHAIR DIE",
  "SNOW ENTRY TRUCK SHIELD CASTLE TENT SAFETY LOCATION FIST BALLOON-SPOKED SNOWFLAKE TIGHT TOP-LIGHTED RIGHT-SHADED LEFT-SHADED BACK-TILTED FRONT-TILTED PERPENDICULAR OUTER DIVIDED CURVING SEMICIRCULAR PART PATH AROUND OVERLAPPING RANGE HEXAGON BACKSLANTED OVAL AZU BUKY VEDE GLAGOLI DOBRO YESTU ZHIVETE ZEMLJA DJERVI KAKO LJUDIJE NASHI ONU POKOJI RITSI SLOVO TVRIDO UKU FRITU HERU SHTA YATI SIMA WAU YAJ YAZH YAGH SSU SSI CCHE KYA DJERV MONOGRAPH TRANSPOSITION PARAGRAPHOS CLIFF TABLE SEAL THREAD RAP BOLT CLOTH SPIRIT BAMBOO SILK NET SHEEP BRUSH CLOTHES LEATHER FLY GHOST WHEAT FROG COVER SPOON ENCLOSURE CHILD WORK DRY STEP AXE TILE STONE DEER OVERLAID SEMI-VOICED ENN ST KOREAN WOOD STOCK CALL SCHOOL EV HON MEGA TWENTY-TWO MB CM INCREASE GATHERING COMPLETION OP BAT PUT MIT FAX VY NDI",
  "NDAP NDO HLI LIP LAP KUOP CUT NZA SOT NJU YIT UH NDEE MBI MBOO NGGOO MBU GBU NGGU MBO NGGO NGGE NGGEN DWE TAE MEEEE NJAEM SEUX YOQ YUQ NSHA PEUX NTEE WUE REUX PUAE FOM POLISH LONGA PLACEHOLDER HEADSTROKE EA PADA SAW KOI REPETITION TIL NUNG PRESENTATION A2 MNAS HERMIONIAN EPIDAUREAN TROEZENIAN SHIP ROSETTE TT EW AIR QAAF EB FLEURON IC IQ OQ GRANTHA SWIRL HUNDREDS SIXTY-FOURTH THIRTY-SECOND PON PAN IMIN SHESH SHITA DIM2 AMAR ANSHE ASHGAB BAHAR2 BULUG DIN DUN EZEN HUB2 ISH KID GABA KIN LISH IB KAL LUL LUH MES MUG NINDA2 SIG4 UR2 NIN MAEMBA LET MEUT LEERAEWA SHOQ NSHUT MAEM MBIT NGOM LAAM ROG TENS REFORMED TONE-7 XW OVERLAP TSATA STRANNO MRACHNAYA DVOECHELNAYA",
  "STRELA PARAKLITIKI EXO GORGON ISON TESSERA PARAKALESMA ALLO CHRONON DIATONIKI SKLIRON CHROMA OTTAVA TIME WHOLE TURN IMPERFECTA HUMAN JOY KNUCKLES ANGLED HAND-FLAT HAND-CURLICUE SYMBOLS TENSE EYEGAZE-WALLPLANE ALIF LAKH MASK UNIFIED BOWL CAKE CHRISTMAS BALLOON PARTY MILITARY CAMERA MACHINE RUNNING CONSTRUCTION OFFICE POST LOVE ELEPHANT CHICK WOMANS PURPLE ANGER SLEEPING THOUGHT TREND COMPUTER CALENDAR PUSHPIN PHONE WAVES LETTERS FLYING ICON DOCUMENT PICTURE BUBBLES GRINNING TEARS COLD KISSING POUTING CRYING SLIGHTLY BUS SULFUR IRON BRICK TARGET BROWN SHADED COVERING FORTY-FIVE THIRTY-FIVE CENT COPYRIGHT FEMININE ORDINAL PILCROW IJ YR LATERAL ALVEOLAR LJ NJ HWAIR YOGH DB RAMS SQUAT PHARYNGEAL TC LS LZ PERCUSSIVE VOICING SHELF ARCH HOMOTHETIC FERMATA HETA PAMPHYLIAN TELEIA FEI DEI BYELORUSSIAN-UKRAINIAN TSHE KJE DZHE PNEUMATA SEMISOFT BASHKIR PALOCHKA KHAKASSIAN ZJE",
  "DZJE SJE TJE ALEUT DZZHE DCHE LIWN GHAD CHEH JHEH SEH TIWN EMPHASIS DRAM HEBREW QATAN GERESH GERSHAYIM PARA TELISHA HIRIQ HOLAM SOF HET YIDDISH FOOTNOTE SAFHA RAY MILLE DATE SALLALLAHOU RADI KASHMIRI MADDAH TTEHEH BEEH TEHEH BEHEH NYEH DYEH TCHEHEH DDAL DAHAL DDAHAL DUL RREH JEH VEH PEHEH NGOEH GUEH RNOON DOACHASHMEE AYAH RUB RECTANGULAR ALAPH GARSHUNI DALATH SEMKATH PERSIAN BHETH MUSIC KHAPH TTAA HHAA KHAA ZAA WOLOSO SAMARITAN BIT TIT KAAF EPENTHETIC OVERLONG NEQUDAA QITSA AZ AP MALAYALAM BASELINE ROHINGYA SAH OOE KHHA DDDHA NUMERATOR DENOMINATOR ISSHAR BINDI TWO-CIRCLE DAY YEAR NAKAARA POLLU TTTA CHILLU ONE-HUNDRED-AND-SIXTIETH FORTIETH EIGHTIETHS TWENTIETH TWENTIETHS SINHALA KAYANNA NAASIKYAYA CAYANNA TAALUJA TTAYANNA NAYANNA TAYANNA PAYANNA LAYANNA AEDA-PILLA IS-PILLA PAA-PILLA GAETTA-PILLA KHAI THONG FAN LING",
  "LOOT KON TIBETAN RNAM BCAD MDUN SGAB PHUR SHOG RGYA GRAM -DZUD ASTROLOGICAL GCIG GNYIS NGAS BZUNG ZLA MIG GYON GYAS YAR TSHES MAR FIXED-FORM LCE RGYINGS BEAT RDO RJE RGYAN BRDA RNYING MCHAN EASTERN KAYAH RUMAI ELIFI LABIAL CHOSEONG NIEUN-KIYEOK TIKEUT-KIYEOK RIEUL-NIEUN SSANGRIEUL KAPYEOUNRIEUL PIEUP-KIYEOK PIEUP-SIOS-KIYEOK PIEUP-CHIEUCH PIEUP-THIEUTH PIEUP-PHIEUPH KAPYEOUNSSANGPIEUP SIOS-NIEUN SIOS-RIEUL SIOS-MIEUM SIOS-CHIEUCH SIOS-THIEUTH SIOS-HIEUH IEUNG-KIYEOK PHIEUPH-PIEUP SSANGHIEUH TIKEUT-RIEUL JUNGSEONG YA-YO YO-YA YO-YAE YO-I YU-YEO YU-YE YU-I ARAEA JONGSEONG NIEUN-PANSIOS RIEUL-KIYEOK-SIOS RIEUL-PIEUP-SIOS RIEUL-KAPYEOUNPIEUP RIEUL-PANSIOS RIEUL-KHIEUKH RIEUL-YEORINHIEUH MIEUM-KIYEOK MIEUM-PANSIOS PIEUP-HIEUH YESIEUNG-SIOS YESIEUNG-PANSIOS HHWA RWA SHAA QWI QWEE QWE BWA VAA CEE XO NYAA NYEE KWEE DAA DDU DDI DDAA DDE JAA JWA GWA GWI GWEE GWE GGU GGI GGO CHAA PHAA TSEE FWA MWEE BWI BWEE FWI FWEE PWEE",
  "RIKRIK CHEROKEE GV LV QUA QUE QUI QUV DV TLV TSV WV YV AAI WII PWII PWOO TWI TWII TWOO TTI KWII KWO KWOO KAH CWE CWII CWO CWOO MWII MWO MWOO ATHAPASCAN NII NWE LWE LWI LWII LWO LWOO LWAA SWE SWI SWII SWO SWOO SW SHWI SHWII SHWO SHWOO SHWAA YWE YWI YWII YWO YWOO R-CREE ROO RWAA FWAA TTHE TTHI HII QII QOO TLHE TLHI TLHO WOODS-CREE LHI LHO LHAA GHO JJU JJO JJI DZU DZO DZEE DZI QAI ONN OS AESC RAD PAMUDPOD KHMER RY LEK MUAN MONGOLIAN SIBE UBADAMA BALUDA CYA AAY MAY SAY SHOY YAY NWI NWII NWO NWOO DENE BEAVER YAN AUE LUE KVA XVA UY OAY LAE DAP-MUOY DAP-PII DAP-BEI DAP-BUON DAP-PRAM",
  "NGKA MPA RANA STRONG ULU SURANG LENGA SARI SUKU TALING PEPET JNYA PANTI PAMADA WINDU DONG DUNG KEMPUL KEMPLI TUK LANTANG SUNDANESE LEU PAKPAK SOUTHERN NORTHERN PANGOLAT MLA HLA TA-ROL CER-WA OL UNN OV TTUDDAAG MUCAAD CAKRA MIDLINE ANTARGOMUKHA ARDHAVISARGA LOW-9 HIGH-REVERSED-9 HYPHENATION EMBEDDING DIRECTIONAL OVERRIDE UNDERTIE TIRONIAN TRICOLON FUNCTION INHIBIT SYMMETRIC SWAPPING ACTIVATE SHAPING NATIONAL SHAPES FRENCH LIRA EURO KIP PESO SOM ENCLOSING KEYCAP UPWARD ACCOUNT CONSTANT RESPONSE OUNCE SIXTHS PEDESTAL COPRODUCT SPHERICAL SURFACE PROPORTION ASYMPTOTICALLY ACTUALLY GEOMETRICALLY PRECEDE SUCCEED NEGATED PITCHFORK WATCH FROWN ERASE BENZENE TOTAL APL FUNCTIONAL QUOTE UNDERLINE ENTER NOTCH PRINT TRISEME TETRASEME PENTASEME GROUND RECORD NULL TRANSMISSION ACKNOWLEDGE TABULATION LINK ESCAPE CANCEL SUBSTITUTE GROUP DELETE BLANK NEWLINE CHAIR IDENTIFICATION DRAWINGS DARK CROSSHATCH PARALLELOGRAM ASCENDING NODE",
  "BEVERAGE CROSSBONES CADUCEUS LAKE MERCURY URANUS NEPTUNE PLUTO SPADE BEAMED NATURAL UNIVERSAL TYPE-3 TYPE-4 TYPE-5 TYPE-6 DIGRAM GREATER PICK ANCHOR ALEMBIC GEAR LINES PARTNERSHIP DRAUGHTS BEHIND LANES TWO-WAY LANE MERGE DRIVE SLOW INTERLACED CHURCH FOUNTAIN HOLE SKATE HEADSTONE BLADE TAPE VICTORY WRITING NIB RECTILINEAR PETALLED CHEVRON SPARKLE PROPELLER DROP-SHADOWED DINGBAT WIDE-HEADED THREE-D BLACK-FEATHERED WEDGE-TAILED S-SHAPED PRECEDING GAPPED PATTERN DIRECTLY BINDING INTEGRATION SMASH INTERIOR ANTIRESTRICTION CONSECUTIVE SIGNS NESTED SMALLER LARGER BINARY CIRCLING OCTAGON GLAGOLITIC OTU SPIDERY SHTAPIC TROKUTASTI LATINATE CAUDATE ALFA VIDA DALDA SOU HATE THETHE IAUDA LAULA AKHMIMIC L-SHAPED HEI DJA LENIS BOHAIRIC BERBER ACADEMY YAKH YAQ YAM YAP YAZ SSE ZZU ZZI ZZE ZZO XYA XYE INTERPOLATION OMISSION FORKED ANCORA PARAPHRASE GUARD MEDIEVAL CROSSBAR DIVINATION LAME SNOUT DEATH MOTHER",
  "PAW TRUNK JADE MESH EWE MORTAR GRASS CART CITY GATE MOUND TANNED LID TURBAN DOOR FUR CLAN STEAM FATHER SLICE MELON SWEET FIELD SPEAR TRACK JAR SELF BOAT BLOOD BADGER BODY TAILED CAULDRON FLUTE SURROUND STANDARD HANGZHOU LEVEL PROLONGED KOTO BOPOMOFO CH ANNOTATION ONG ZY HZ HG METAL HAVE SOCIETY SPECIAL FINANCIAL CONGRATULATION LABOR STUDY SUPERVISE ENTERPRISE RESOURCE ALLIANCE REACH ERA HOUR TWENTY-ONE TWENTY-THREE TWENTY-FOUR KG MW CC CD WAITING TAMING POSSESSION FOLLOWING BITING GRACE PREPONDERANCE DARKENING FAMILY DECREASE MEET KEEPING INNER IX AX UO PIT PIP PIE PUP PYT BBI BBO BBUT BBU NBIE HMO MOP MY FOX VIET VEP VUR DAT TAT TUOT TOT TUP DDUR NUT LIE LYR GOT GEP KIT KAP GGUO GGOP HXIT HXUO HXOP",
  "NGOP NGE HIT WAX WAP WUO ZOT ZUP ZUR CIP CUOP CYT CY CYP ZZIET NZUP SAP CHAT RRO RRE SHAT SHOP SHET SHUR SHY QOT JJIE JJUT JJY NJO NYIT NYIP NYOP YIE YUOP LISU KPEE GBEE NGGEE HIN KPI GBI NGGI HAN MGBA NJA BOO KPOO GBOO VOO DOO NDOO ZOO JOO NJOO HUN KPU NGON BHO GBO DHO NGEN HEN KPE NDOLE ZEMLYA BROAD BLENDED BINOCULAR PAYEROK DZWE ZHWE DZZE TSWE TSSE TCHE BAMUM RIEE LEEEE SHEUX NUAE NJUAE KEUX PUE NGKWAEN MBEN NTUU SAMBA NJAEMLI CHINESE SHANG TZ TRESILLO SQUIRREL VISIGOTHIC VEND CON SALTILLO ANGLICANA SCOTS SIGMOID EPIGRAPHIC HASANTA DDHO MARK-3 INDIC HTA PLOPHU TIKEUT-PIEUP TIKEUT-SIOS TIKEUT-CIEUC RIEUL-SSANGKIYEOK CECAK RERENGGAN PISELEH REDUPLICATION KHHO NUENG MEETEI MAYEK",
  "DDHAA BLACKLETTER HANDLE SERIF KOK NGOU IYEK COMPATIBILITY IDEOGRAPH- UIGHUR ALLAAH SALLA USED KORANIC WASALLAM CONJOINING SESAME CENTRELINE FULLWIDTH HALFWIDTH REPLACEMENT LINEAR B008 B001 B007 B006 B003 B002 B009 B004 B005 BOAR OLIVE WOOL BATHTUB FRAME WEIGHT LIQUID DRACHMAS SEXTULA PEDESTRIAN BOOMERANG CARPENTRY PLANE EAGLE DOVE PERMIC DOI NENOE SADE GAY EGG IAN CAYN BRA EHCHA EIN HYA EHKA OIN EHPA EHTA EHTSA EYN LAN MAQ IJE A301 A302 A303 A304 A305 A306 A307 A308 A309A A310 A311 A312 A314 A315 A316 A317 A318 A319 A320 A321 A322 A323 A324 A325 A326 A327 A328 A329 A330 A331 A333 A334 A335 A336 A337 A338 A339 A340 A341 A342 A343 A344 A345 A346 A347 A348 A349 A350 A351 A352 A353 A354 A355",
  "A356 A357 A358 A359 A360 A361 A362 A363 A364 A365 A366 A367 A368 A369 A370 A371 A501 A502 A503 A504 A505 A506 A508 A509 A510 A511 A512 A513 A515 A516 A520 A521 A523 A524 A525 A526 A527 A528 A529 A530 ZAYN AYN NA-2 NE-2 RA-2 SA-2 TA-2 TE-2 ARABIAN NUMERIC AAN AEE RINGS PAHLAVI WAW-AYIN-RESH MEM-QOPH AEB AEG AEY AEK OEK AET AMB ECS ED EG EGY EJ UNK ELY OEE EMP ESZ ETY EZS ENT-SHAPED KINNA LESH GAH MAH VAH MAE GHAA SHRI PLUTA NGHA NYHA MHA ENCLOSURES YUJ HIYO HOLO HORR SSUU VIYO PREFIXED NASAL CLUSTER-INITIAL DOUBLE-LINED SUBJOINER FLAME HAU MID-LEVEL LOW-FALLING GONDI CULTIVATION ZIDA KABA MASH2 DAR DARA3 DIB EREN GESHTIN GU2 GUL GUM GUR7 IDIM IG",
  "NUNUZ SIG SUHUR UMUM KA2 KAB KAD2 KAD5 KESH2 KUL KUN SIK2 MUSH3 NA2 NUTILLU NAM2 NU11 SILA3 PESH2 PIRIG UB SHA6 SHIM URU ZIZ2 ZU5 ELAMITE LIMMU ILIMMU ESHE3 ASSYRIAN LAK-050 LAK-079 LAK-081 ZA7 HIEROGLYPH A001 A002 A003 A004 A005 A006 A007 A008 A009 A010 A011 A012 A013 A014 A015 A016 A017 A018 A019 A020 A021 A022 A023 A024 A025 A026 A027 A028 A029 A030 A031 A032 A033 A034 A035 A036 A037 A038 A039 A040 A041 A042 A043 A044 A045 A045A A046 A047 A048 A049 A050 A051 A052 A053 A054 A055 A056 A057 A058 A059 A060 A061 A062 A063 A064 A065 A066 A067 A068 A069 A070 M001 M002 M003 M004 M005 M006 M007 M008 M009 M010 M011 M012 M013",
  "M014 M015 M016 M017 M018 M019 M020 M021 M022 M023 M024 M025 M026 M027 M028 M029 M030 M031 M032 M033 M034 M035 M036 M037 M038 M039 M040 M041 M042 M043 M044 NGKUE PIPAEMGBIEE PIPAEMBA TITA NGGEUAET NAE NTAA YUM NKAARAE MAESI NJAM MBANYI TEUAEN PAAM NSHIEE NAQ LOM NSIEE TEUAEQ MVOP SUE NGGAAM MEUN MBEUM NJUEQ FUE NDAM KEUM YUWOQ NJEUX MIEE MUAE SHIQ LAW PIN GHEUAE TOQ PEOPLE AWX UEX UEZ MC HMONG MEEJ NTOG ATIU KP NY ASPIRATION TANGUT NUSHU KHITAN CHARACTER- DH ROMANIAN WEI TANGENT SREDNE ZADERZHKA DEMESTVENNY PODCHASHIE CHASHKA SOROCHYA NOZHKA OMET DIRECTION FLIP TIKHY KLYUCH STOPITSA CHELYUSTKA SKAMEYTSA KLYUCHENEPOSTOYANNAYA STATYA DVOECHELNOPOVODNAYA GROMOKRYZHEVAYA KRYUKOVAYA OXEIA VAREIA APESO APOSTROFOS OLIGON STAVROS APODERMA PIASMA SEISMA SYNAGMA OYRANISMA THEMA",
  "PELASTON PSIFISTON KONTEVMA CHOREVMA NANA APOSTROFOI ETERON ARGOSYNTHETON APLOUN LEIMMA CHRONOU PARESTIGMENON ARISTERA DEXIA POLI ARGI GORGI MARTYRIA PROTOS ALLI DEYTEROS TETARTOS LEGETOS PLAGIOS TELOUS ICHIMATOS MONOFONIAS DIFONIAS VOU TETARTIMORION TRITIMORION DIESIS MONOGRAMMOS DIGRAMMOS TRIGRAMMOS OKTO THESEOS DISIMOU TRISIMOU TETRASIMOU MESO SEGNO BREATH FRETBOARD TWENTY-EIGHTH TREMOLO-1 TREMOLO-2 TREMOLO-3 BEAM SLUR PHRASE PEDAL BREVIS SEMIBREVIS MINIMA SEMIMINIMA CUM PROLATIONE DIMINUTION-1 SCANDICUS TORCULUS FLEXUS SYMBOL-1 SYMBOL-2 SYMBOL-4 SYMBOL-5 SYMBOL-7 SYMBOL-8 SYMBOL-11 SYMBOL-12 SYMBOL-13 SYMBOL-14 SYMBOL-17 SYMBOL-18 SYMBOL-19 SYMBOL-23 SYMBOL-24 SYMBOL-50 SYMBOL-51 SYMBOL-52 SYMBOL-53 SYMBOL-54 DEPARTURE TALLY FRAKTUR MONOSPACE HINGE SPLIT CURLICUE TOUCHING BOTH SQUEEZE FLICK ROTATION PEAKS AWAY TOWARDS HALF-CIRCLE RELAXED EYEBROWS FLUTTERING EYEGAZE-FLOORPLANE CHEEKS SUCKED EARS WRINKLES BLOWING ROTATIONS YAWN STICKING JAW NECK MOVE MODIFIER-2 MODIFIER-3 MODIFIER-4 MODIFIER-5 MODIFIER-6 GURAGE DAALI",
  "MIIM SINNYIIYHE YHE JIIM SIYAQ PLAYING BRACKETED WC IDEOGRAPH-4E8C IDEOGRAPH-4E09 IDEOGRAPH-6253 CITYSCAPE BUILDINGS GLOBE WAXING GIBBOUS WANING THERMOMETER DROPLET PEPPER BLOSSOM APPLE BREAD POTATO SHRIMP CREAM COOKIE TROPICAL DRINK BEER CLINKING DECORATION DOLLS BOUQUET MICROPHONE FILM ROLLER ARTS VIDEO GAME TENNIS RACQUET SKI BOOT RACING FOOTBALL CRICKET HOCKEY EUROPEAN HOTEL STORE PENNANT WAVING EMOJI RABBIT WHALE BEETLE CAMEL BEAR THUMBS CROWN DRESS SANDAL OLDER ALIEN REVOLVING DIZZY MONEY PERSONAL OPTICAL FACING RULER BOOKMARK SATELLITE ANTENNA TRAY MAILBOX LOWERED NEWSPAPER RADIO BRIGHTNESS SPEAKER BATTERY MAGNIFYING WRENCH POMMEE SUNGLASSES TOUCHTONE STAMPED SPLAYED DESKTOP PRINTER PAGES WINDOW FONT SIZE MOOD TIGHTLY-CLOSED HORNS WINKING RELIEVED HEART-SHAPED DISAPPOINTED WEARY ROLLING GESTURE RAISING QUILT LOCOMOTIVE TRAIN ENGINE TAXI AUTOMOBILE SMOKING LITTER BICYCLIST BATH LUGGAGE LAMP SHOPPING",
  "MOTOR SCOOTER VINEGAR ROCK CROCUS REGULUS ANTIMONIATE SOAP ASHES STRATUM HUGGING PREGNANT FLATBREAD COAT ADULT KNIGHT-QUEEN KNIGHT-ROOK KNIGHT-BISHOP GENERAL MANDARIN CANNON SOLDIER MIRROR NEST BLOCK-2 BLOCK-3 BLOCK-4 BLOCK-5 BLOCK-6 BLOCK-7"]

/-- The name records, in code point order. -/
def nameRecordText : List String := [
  "!20aɧaȹĖaȔĖaƙąa乆ąa伖ąaϫaΰaĊǒaĈǒaǆaİąaƟa促aƸƅaɏaŒŨbĒbĎbėbĝbġbĪbĲbībķaȌa̸aơąaǶąaƤąaȞĖa众ɐaƹĄāČdŶdūdŢdďdƎdŖdşdĔdƀdřdĭdňdĽdčdŮdƢdĦdħdŚdċdśdŷdųdŤdŬaĊĺĸaɻɏaĈĺĸaŸǥaŝƒaƏǥaƹĂāČdŶdūdŢdďdƎdŖdşdĔdƀdřdĭdňdĽdčdŮdƢdĦdħdŚdċdśdŷdųdŤdŬaĊȺĸaĨƒaĈȺĸaŏ!A0a儀ɧaƔȹĖa升ąa俄ąa优ąa伙ąa亖įaɑąaƁa午ąa卉半ϬaʄēƴȔĖaƣąa˿̹a.REGISTEREDąaƕa俅ąa.PLUS-MINUSąa̘ĎbėaŠǥa.MICROąa卋ąaĥĕaȟa̘Ēa.MASCULINE半ϬaɒēƴȔĖa儁ʌĒǿdĳcėˢaƔȞĖaƹĄāČĀƏfŠfŸfŏfƁfœĉdȆdūĀȟdďĀƏfŠfŸfƁdĔĀƏfŠfŸfƁdϭdĽĀŏdčĀƏfŠfŸfŏfƁaͤąaƹĄāčĀğdċĀƏfŠfŸfƁdŤĀŠdϮbĂā亗ħdČĀƏfŠfŸfŏfƁfœĉdȆdūĀȟdďĀƏfŠfŸfƁdĔĀƏfŠfŸfƁdϭdĽĀŏdčĀƏfŠfŸfŏfƁaϯąaƹĂāčĀğdċĀƏfŠfŸfƁdŤĀŠdϮdŤĀƁbĄāČĀƕbĂāČĀƕbĄāČĀƩbĂāČĀƩbĄāČĀˣbĂāČĀˣbĄāūĀŠbĂāūĀŠbĄāūĀŸbĂāūĀŸbĄāūĀĕĉbĂāūĀĕĉbĄāūĀǉbĂāūĀǉbĄāŢĀǉbĂāŢĀǉbĄāŢĀğbĂāŢĀğbĄāďĀƕbĂāďĀƕbĄāďĀƩbĂāďĀƩbĄāďĀĕĉbĂāďĀĕĉbĄāďĀˣbĂāďĀˣbĄāďĀǉbĂāďĀǉbĄāŖĀŸbĂāŖĀŸbĄāŖĀƩbĂāŖĀƩbĄāŖĀĕĉbĂāŖĀĕĉbĄāŖĀȟbĂāŖĀȟbĄāşĀŸbĂāşĀŸbĄāşĀğbĂāşĀğbĄāĔĀŏbĂāĔĀŏbĄāĔĀƕbĂāĔĀƕbĄāĔĀƩbĂāĔĀƩbĄāĔĀˣbĂāĔĀˣbĄāĔĀĕĉbĂā̀ĔbĄȀ卌bĂȀ卌bĄāƀĀŸbĂāƀĀŸbĄāřĀȟbĂāřĀȟd.KRAbĄāĭĀŠbĂāĭĀŠbĄāĭĀȟbĂāĭĀȟbĄāĭĀǉbĂāĭĀǉbĄāĭĀĥĕbĂāĭĀĥĕbĄāĭĀğbĂāĭĀğbĄāĽĀŠbĂāĽĀŠbĄāĽĀȟbĂāĽĀȟbĄāĽĀǉbĂāĽĀǉe.PRECEDED̺ΰbĄā̻bĂā̻bĄāčĀƕbĂāčĀƕbĄāčĀƩbĂāčĀƩbĄāčĀēŠbĂāčĀēŠbĄȀǞbĂȀǞbĄāĦĀŠbĂāĦĀŠbĄāĦĀȟbĂāĦĀȟbĄāĦĀǉbĂāĦĀǉbĄāħĀŠbĂāħĀŠbĄāħĀŸbĂāħĀŸbĄāħĀȟbĂāħĀȟbĄāħĀǉbĂāħĀǉbĄāŚĀȟbĂāŚĀȟbĄāŚĀǉbĂāŚĀǉbĄāŚĀğbĂāŚĀğbĄāċĀŏbĂāċĀŏbĄāċĀƕbĂāċĀƕ",
  "bĄāċĀƩbĂāċĀƩbĄāċĀœĉbĂāċĀœĉbĄāċĀēŠbĂāċĀēŠbĄāċĀˣbĂāċĀˣbĄāŷĀŸbĂāŷĀŸbĄāŤĀŸbĂāŤĀŸbĄāŤĀƁdŬĀŠbĂāŬĀŠbĄāŬĀĕĉbĂāŬĀĕĉbĄāŬĀǉbĂāŬĀǉdŴħdŶĀğbĄāŶĀĞf俆bĂāŶĀ俆bĄāŹĪbĂāŹĪbĄāůčdūĀĞbĂāūĀĞbĄā儂ŢdŢĀĞf俆bĂāŢĀ俆dűʅbĄāžďd΂důďdƎĀĞbĂāƎĀĞbĄāŖĀĞdɨbĂā俇bĄāȍdĔĀğdřĀĞbĂāřĀĞdĭĀįd.LAMBDAĀğbĄāűňdĽĀĊĞbĂāĽĀŴĈʷbĄāčĀĥŏfǻbĂāčĀǻbĄā会bĂā会bĄāŮĀĞbĂāŮĀĞbā卍bĄāŹĎbĂāŹĎbĄāʞbāžʞʟbĂāŚĀȠĞbĄāŚĀĞbĂāŚĀĞbĄāŚĀǓĞdċĀǻbĂāċĀǻbĄāȧdśĀĞdŤĀĞbĂāŤĀĞbĄāŬĀğbĂāŬĀğbĄāαežbĂāαžeĀƫbāĎĀğbĄāŹġbĂāŹġbāƔȨƅĀğc俈c儃ͥc华ͥc协ͥcǓͥbĄāϰĀǉdŢĀĂāŬĀǉbĂāϰĀǉbĄā卐dĭĀĂāƀbĂā卐bĄā卑dĽĀĂāƀbĂā卑bĄāČĀǉbĂāČĀǉbĄāĔĀǉbĂāĔĀǉbĄāčĀǉbĂāčĀǉbĄāċĀǉbĂāċĀǉbĄāċĀƁĆƕbĂāċĀƁĆƕbĄāċĀƁĆŠbĂāċĀƁĆŠbĄāċĀƁĆǉbĂāċĀƁĆǉbĄāċĀƁĆƏbĂāċĀƁĆƏdűďbĄāČĀƁĆƕbĂāČĀƁĆƕbĄāČĀĕĉĆƕbĂāČĀĕĉĆƕbĄāȆĀƕbĂāȆĀƕbĄāŖĀğbĂāŖĀğbĄāŖĀǉbĂāŖĀǉbĄāřĀǉbĂāřĀǉbĄāčĀˣbĂāčĀˣbĄāčĀˣĆƕbĂāčĀˣĆƕbĄāαĀǉbĂāαĀǉdƀĀǉbĄāϰdŢĀĂāŬbĂāϰbĄāŖĀŠbĂāŖĀŠbĄā卒d俈dĽĀƏbĂāĽĀƏbĄāČĀœĉĆŠbĂāČĀœĉĆŠbĄāȆĀŠbĂāȆĀŠbĄāčĀğĆŠbĂāčĀğĆŠbĄāČĀēƏbĂāČĀēƏbĄāČĀƔƩbĂāČĀƔƩbĄāďĀēƏbĂāďĀēƏbĄāďĀƔƩbĂāďĀƔƩbĄāĔĀēƏbĂāĔĀēƏbĄāĔĀƔƩbĂāĔĀƔƩbĄāčĀēƏbĂāčĀēƏbĄāčĀƔƩbĂāčĀƔƩbĄāĦĀēƏbĂāĦĀēƏbĄāĦĀƔƩbĂāĦĀƔƩbĄāċĀēƏbĂāċĀēƏbĄāċĀƔƩbĂāċĀƔƩbĄāħĀƟĐbĂāħĀƟĐbĄāŚĀƟĐbĂāŚĀƟĐbĄā卓bĂā卓bĄāşĀǉbĂāşĀǉbĄāĽĀŴĈʷbĂāŢĀɩbĄāϱbĂāϱbĄāŬĀĞbĂāŬĀĞbĄāČĀĕĉbĂāČĀĕĉbĄāďĀȟbĂāďĀȟbĄāčĀƁĆƕbĂāčĀƁĆƕbĄāčĀŏĆƕbĂāčĀŏĆƕbĄāčĀĕĉbĂāčĀĕĉbĄāčĀĕĉĆƕbĂāčĀĕĉĆƕbĄāŤĀƕbĂāŤĀƕdĭĀɩdĽĀɩdŚĀɩd̀ƀd協ȩd.QPȩbĄāČĀğ",
  "dūĀğbĂāūĀğbĄāĭĀįdŚĀǊğbĂāħĀ亘ƫdŬĀ亘ƫbĄāȨƅbĂāȨƅbĄāŶĀğdċįdűśdďĀğbĂāďĀğbĄāƀĀğbĂāƀĀğbĄāĂƢĀĞƫbĂāƢĀĞƫbĄāĦĀğbĂāĦĀğbĄāŤĀğbĂāŤĀğdűČdȁdűȁdŶĀĞdůčdūĀɩdŢĀƫfĞdžďd΂eĀĞdůďdžůďgĀĞdǷžůďd̀ƀĀğdŖĀĞdɆŖbāĂĄŖbĂāɨd单ǻdűşdşĀĞd伛ĀĞdĔĀğdȍbāĂĄĔbĂāĭĀĥŏfͦfǓĞd億dűňfĀŴʷdňĀĞdĽĀĊĞfǓĞbāĂĄĽbĂā΃čbāĂĄǞbĂāǷǨdɇdűĦfĀŴʷgĞdĦĀŴʷfƫf乇džĦĀ乇bāĂĄĦeƔĦbĂāħĀĞdʞd̀ƀĀğĆĞd卖žʞdʞĀɩdűŚdŚĀǓĞdċįdȧdśĀĞdűśeŷeŤbāĂĄŤbĂāŬĀǓĞfɩdαeĀɩbāȨƅc南΄.FRICATIVEcƔȨƅc儅ūc儆ͥcĂĄŶbĂāǷůďbāĂĄŖĀĞeşbĂāƀĀβdűřbāĂĄĭbĂāƢĀĞbāȨƅĀğcžȨƅĀğbĂāϰȩd俉ȩdϰȩĀɩd儇ȩd俊ȩd単ȩĀɩd儈ȩd卙ȩd博ȩbā儆卛c.BIDENTAL卛bĂāűşĀ乇hĆƫaȕāĂşeĀĞdƀdĦdűĦfĀĞdĄƔĦdŷdŤc̼cē̼cűƟcΰcžƟcĈĳœcĊĳœcȨƅcžȨƅcĊƈcĈƈcĩƈcĴƈcŸǥaǉaȕāĨƒcƕcŠǥcƏǥcŝĨƒdƕdƏǥdŠǥcɪȌcĳɪȌcϲĈĳœdĊĳœcĩǼcĴǼcİącʠąaƩaĕĉaœĉaˣaĂŏaēŠǥaȕā.RHOTICĞcǇǥcĂɨdĭdħdųdžȨƅc俋ŹįcƂŹįc么ŹįcŝŹįc俌Źįcγ儉ŹĖc̽儉ŹĖc卜c.UNASPIRATEDcēΰcŝĴƈdĩƈdĊƈdĈƈdœcĥƏǥdēƏǥeŠǥcŝŏcȻȌcϳƂŹcȖƂŹcϳŝŹcȖŝŹc卝ců卝cŝĊćaǦƏǥbŠǥbŸǥbŏbƕbϴbƩbĕĉbƁbĞĉbœĉbēŠǥbǉbĨƒĉbēĨƒĉcƏǥbȎbƔƩbűƟĉbƟĉbžƟĉbƟĉĈbƏǥĐbŠǥĐbĊǼĐbĈǼĐbĊƴĉbǻbĊĳœĐbĩǼĐbĴǼĐbİąĐbʠąĐb.PALATALIZEDĞĐbǓĞĐbĕĐbƁĐbœĐbƟĐbȟbˣbĨƒĐb亙ĐbƔē卞ĐbǉĐbŸǥĐbƩĐbƔƩĐbŏĐbƕĐbŝƒbēŝƒbŏɞbƺğɞbŴğɞbƺɏɞbŴɏɞbĈĳœĐbƔ亙ĐbĺĐb.SEAGULLĐbųĉbĨŏbēϴbƏŹĖbŠŹĖbɈǍc儊ćʍcǩb亙ĉbǶąĐbēĨƒĐbĊƴĐbƣŏĉb卟ĉbˈŉĘĉbĊĈćĐbšćĐb.GRAPHEME义bĈƈĉbĊĳœĉb占bųĐbĊƈĐbĈƈĐdĆĩƈĐcĳœĉbĕĉĈbǆĐbēœĐbϵĉbēƩĐdcƕdĐcŏcƔƩcģćĐbƹĂāČeďeĔečeċeūeŢeşeňeĦeŚeśeųaɈĄā卡bĂā卡bĄāʎ亚bĂāʎ亚b΅ąbŗ΅ąbĄā卢些bĂā卢些",
  "!37AbǩbĂžΆȼĠcǪΆȼĠcžǪΆȼĠbȞĖbĄā伜!384bʍb́ʍbĄāȁĀʍb϶卣bĄāȽĀʍdɼĀʍdȍĀʍ!38CdʡĀʍ!38EdȧĀʍdǨĀʍbĂāȍĀ́ĆʍbĄāȁdʏdɨdʅdȽd̙dɼdɉdȍdʢd̂dǫdȇdˤdʡdǔdȲ!3A3dȼdʣdȧdɇdɓdʸdǨdȍĀ́dȧĀ́bĂāȁĀʍdȽĀʍdɼĀʍdȍĀʍdȧĀ́ĆʍdȁdʏdɨdʅdȽd̙dɼdɉdȍdʢd̂dǫdȇdˤdʡdǔdȲdđȼdȼdʣdȧdɇdɓdʸdǨdȍĀ́dȧĀ́dʡĀʍdȧĀʍdǨĀʍbĄ亜ĠbʏĠbɉĠbȧĀĞĠdŠĆĞĠdƁĆĞĠbɇĠbǔĠb亜Ġbāʎ亝bĂāʎ亝bā儋bĂā儋bā些bĂā些bā亝bĂā亝bā亚bĂā亚aɊĄāϷbĂāϷbĄā卤bĂā卤bĄā亞bĂā亞bĄā亟bĂā亟bĄā亠bĂā亠bĄā乊bĂā乊bĄā卥bĂā卥aɈʢĠbȲĠbΆȼĠbā伜bĄɉĠbΆȽĠbžΆȽĠbĄāͧbĂāͧbĄΆȼĠcā亡bĂā亡bȲĀğĠbĄžΆȼĠcǪΆȼĠcžǪΆȼĠãĄāʹĀƏd儌d俍d儍d儎ʹdϸd卦ĔdȪd̾d俎dϹd卧d卨dĔĀƏdƺċd卩dČd˥dˉdʤdɫdʹdˊdɬdĔdƺĔdĹdɭdʥdƽdčdǃd˦dͨdǲdċd·dĶd̄dɔdƆd儏dΈądͩd˿ądďdǰdŇbĂāČd˥dˉdʤdɫdʹdˊdɬdĔdƺĔdĹdɭdʥdƽdčdǃd˦dͨdǲdċd·dĶd̄dɔdƆd儏dΈądͩd˿ądďdǰdŇdʹĀƏd儌d俍d儍d儎ʹdϸd卦ĔdȪd̾d俎dϹd卧d卨dĔĀƏdƺċd卩bĄāǨbĂāǨbĄāδbĂāδbĄāˋďbĂāˋďbĄāƬȡbĂāƬȡbĄāˋƬȡbĂāˋƬȡbĄā̅ȡbĂā̅ȡbĄāˋ̅ȡbĂāˋ̅ȡbĄā俏bĂā俏bĄāʸbĂāʸbĄā之bĂā之bĄā亢bĂā亢bĄā亢ĀēƏǥbĂā亢ĀēƏǥbĄā亣bĂā亣bĄā̿ǨbĂā̿ǨbĄāǨĀ俐bĂāǨĀ俐bĄā俑bĂā俑bĄā亝bĂā亝bϺąaǦ̃俐c.PALATALIZATIONcŽ卪cſ卪c.POKRYTIEcĵϺąc乌ąãĄāƺĔĀƫbĂāƺĔĀƫbĄā卫ąbĂā卫ąbĄā˦ĀΉbĂā˦ĀΉbĄāʤĀ儐bĂāʤĀ儐bĄāʤĀğbĂāʤĀğbĄāʤĀĥĞbĂāʤĀĥĞbĄāˊĀǟbĂāˊĀǟbĄāɬĀǟbĂāɬĀǟbĄāĹĀǟbĂāĹĀǟbĄāĹĀĨğbĂāĹĀĨğbĄāĹĀğbĂāĹĀğbĄā卬ĹbĂā卬ĹbĄāƽĀǟbĂāƽĀǟbĄȀƽʤbĂȀƽʤbĄāǃĀĥĞbĂāǃĀĥĞbĄāϻĶbĂāϻĶbĄāͨĀǟbĂāͨĀǟbĄāǲĀǟbĂāǲĀǟbĄāɕċbĂāɕċbĄāɕċĀğbĂāɕċĀğbĄāĶĀǟbĂāĶĀǟbĄȀǲ̄bĂȀǲ̄bĄāɔĀǟbĂāɔĀǟbĄāɔĀĨğbĂāɔĀĨğbĄā俒bĂā俒bĄāϻɔbĂāϻɔbĄāϻɔĀǟbĂāϻɔĀǟbā卭",
  "bĄāˊĀƩbĂāˊĀƩbĄāĹĀĞbĂāĹĀĞbĄāɭĀƫbĂāɭĀƫbĄāƽĀĞbĂāƽĀĞbĄāƽĀƫbĂāƽĀƫbĄā卮ɔbĂā卮ɔbĄāʥĀƫbĂāʥĀƫd卭bĄāČĀƩbĂāČĀƩbĄāČĀƁbĂāČĀƁbĄȀČʹbĂȀČʹbĄāʹĀƩbĂāʹĀƩbĄā΂bĂā΂bĄā΂ĀƁbĂā΂ĀƁbĄāˊĀƁbĂāˊĀƁbĄāɬĀƁbĂāɬĀƁbĄāϻϸbĂāϻϸbĄāĔĀƕbĂāĔĀƕbĄāĔĀƁbĂāĔĀƁbĄāčĀƁbĂāčĀƁbĄā΃čbĂā΃čbĄā΃čĀƁbĂā΃čĀƁbĄāďĀƁbĂāďĀƁbĄāċĀƕbĂāċĀƕbĄāċĀƁbĂāċĀƁbĄāċĀēŠbĂāċĀēŠbĄāɔĀƁbĂāɔĀƁbĄāʤĀǟbĂāʤĀǟbĄāͩĀƁbĂāͩĀƁbĄāʤĀğĆĞbĂāʤĀğĆĞbĄāĶĀĞbĂāĶĀĞbĄāĶĀğbĂāĶĀğbĄāˌɫbĂāˌɫbĄāˌ俍bĂāˌ俍bĄāˌ卯bĂāˌ卯bĄāˌ印bĂāˌ印bĄāˌ俎bĂāˌ俎bĄāˌϹbĂāˌϹbĄāˌ危bĂāˌ危bĄāˌ卲bĂāˌ卲bĄāžɬbĂāžɬbĄāɭĀĞbĂāɭĀĞbĄāϼbĂāϼbĄāεbĂāεbĄā伝bĂā伝bĄāʆbĂāʆbĄāȾbĂāȾbĄā即ĹbĂā即ĹbĄāɭĀĥĞbĂāɭĀĥĞbĄāƽĀĥĞbĂāƽĀĥĞbĄāǃĀǟbĂāǃĀǟbĄā俒ĀǟbĂā俒ĀǟbĄāƽĀĊĞbĂāƽĀĊĞbĄā却bĂā却bĄā卵bĂā卵bĄāɭĀǟbĂāɭĀǟ!531a伞Ąā儑d儒d儓dŔd交dƿdΊd̚dĘdˊd儔d卶d儕dƌd伟dȿdƉd卷d卸dζdȪd俓dƆd΋dƑd亥d卹dľd卺d儖d卻dȏd̀d儗d儘d儙d传dɟ!559bȕāĊĳœbΰb卼ĖbȹĖbƟbȞĖbʦĖbĂāű儑d儑d儒d儓dŔd交dƿdΊd̚dĘdˊd儔d卶d儕dƌd伟dȿdƉd卷d卸dζdȪd俓dƆd΋dƑd亥d卹dľd卺d儖d卻dȏd̀d儗d儘d儙d传dɟcȀ交儗cāȪĀğbƸƅb̹!58Da俔伞儚ąa俕伞儚ąa伞卽ą!591a卾ǥ.ETNAHTAc儛c.SHALSHELETc.ZAQEF卿d.GADOLc.TIPEHAc.REVIAc.ZARQAc.PASHTAc.YETIVc.TEVIRc厀d.MUQDAMc厁c.QARNEY厂c厃.GEDOLAc.PAZERc.ATNAH.HAFUKHc.MUNAHc.MAHAPAKHc.MERKHAd.KEFULAc.DARGAc.QADMAc厃.QETANAc.YERAH儒.YOMOc.OLEc.ILUYc.DEHIc.ZINORbĖ.MASORAĿb̛.SHEVAc.HATAF儛d俖d俗c厄c.TSEREc儛c俖c俗c厅d.HASERǬ亦c.QUBUTScɠŰ儜c.METEGbǐ.MAQAFb̛俘bǐ.PASEQb̛ȗĕc俙ĕbǐ历.PASUQbĖŭĕcŗĕbǐǄ.HAFUKHA",
  "b̛俗卿!5D0bāŊc产cˍc俚cǘc亦c̆c厇c乍cΌcđȘcȘc俛cđʐcʐcđǄcǄcˎćcđǃcǃcđ儝c儝c儞c̜cȗc償!5EFbΌŘbȀ厈ē亦d亦ΌdēΌbǐ厀c厁!600aʑƙąbą.SANAHb厉Ͻbą厊c.SAMVATbƙĖĉa΍儠伡b俜伡aʑ压a΍儡厌ącŵŃąa.AFGHANIąaʑƟb厍ɖb.POETIC儢ąbą.MISRAc厎伢.WASSALLAMc伢.ASSALLAMc.RAHMATULLAH伢c厏.ALLAHOU.ANHUc.TAKHALLUSbĂƂȫdȀŊĀǱĀŀd˧c͂cΎc̝b̸bāĖbȖĜϾĖbǈĕǐĖbȞĖbā厐ŀcǳcŊĀηĉeǳĉcǭĀǳĉcŊĀǳĐcŀĀǳĉcŊcʇcʒ儣dc̓cŲcťcƮċc乎cȏc˧cȳcʓcɡcʔcȫcͪcȂcʺc亨ĀĎŁĉeėŁĐc乏ŀĀƔśfĎŁĉfėŁĉb保bāɟcɀcȘcǱcĮcǧcȢcǭcŊƖcŀb亩b伣b伤b͂bΎb̝b亪b乐b厑ĉbǳĉcĐb乑ŊbƔΎbĖǧ俞b.ZWARAKAYbŋąĂśĉdƔĂśĉdĕĐbžΎb͂ĀĎŁbΏǳĐa΍ŒŨcĒcĎcėcĝcġcĪcĲcīcķaʑ伖ąb儤ɖbϺɖbġǸƥbā̀ʇdɀc̘ŊcŊ儥dĀΏǳĉgĐcƂǳeŊeǭcċĀǳĉcƂǳŀc儦c厒c厓cʒĀœeėŁĉŕc亥c厔c厕cťĀǳĉeĎŁĨĉc厖c厗cťĀėŁĉc俟c厘c厙ċĀœeĕĐgĆĂȫc厚c厛c厜ċĀėŁĉŕeĝŁĉc厝cȏĀĂśeœeĕĐeĂśĐeĕĐĆĕĉeĎŁĉc厞cȏĀĝŁĉcȳĀĕĐĆĕĉeėŁĐhĆėŁĉcɡĀĎŁĐeėŁĉcȫĀėŁĉcȂĀėŁĉc̀ɟcɟĀĕ.MOVEDĐfĐc原cɟĀėŁĐc厠cɀĀĕĉeėŁĉc亨c亘ȘcȘĀœeĕĉcʻcȘĀėŁĐc享dĀœc厡c享ĀĎŁĐc厢c享ĀėŁĉcǱĀĂśeĕĉeėŁĉgĐcǧĀĕĐd俞c厣cǧĀœeėŁĉcȢ厤c俟ĀĕĉcȢĀŀĉd俠eĀǳĉcʒ儣俠cǭĀœc伥ǞcǞcċcǰc伥ǰcǭĀĎŁĉcˉc乏ŀcŀĀƫeĂścǭĀĕĉcďcŀĀėŁĐd信eĀǳĉbƸƅbāȆbĂƂȀɡĀǱĀŊƖeɀĀǱĀŊƖdĮĢădǱŊdŲdėŁdȳbȖĜ厥b俢Ĝ厦ɭ.HIZBbĂƂΐŨd.UPRIGHT厧Ũd̀ʕĜƮdĮĚăcŝȳcƂηcǭcŀcƂŀdǧb乒Ĝ.SAJDAHb乓ƨŝƅdƂƅbΐƂƅĀ.FILLEDƨbĂŝĮbā̇ĀƔścȏĀƔśaϿ΍ŒŨdĒdĎdėdĝdġdĪdĲdīdķaʑāʓĀĕĐcʔĀĕĐcʺĀĕĐbą.SINDHIϫd.POSTPOSITIONζbāȢĀƔśa俣ȖĜ伦b儧Ƹƅb儨Ƹƅb儧Ȍb儨ȌbŎȌbȌ儩ĊdĈb儧Ȍ儩Ċb儨Ȍ儩Ĉb.CONTRACTIONb.HARKLEAN.OBELUSc.METOBELUSc.ASTERISCUS!70FbʦĖbā厨c̘厨cʼc.GAMALd厩c厪c̀厪優cǘ",
  "cǭc˧c˨cΑd厩c.YUDHdǘcˏc.LAMADHc俤cǄc厫cđ厫cďcǃcžǃc˩c.QAPHc優cȗcːc厬厭d.GHAMALd.DHALATHb.PTHAHAĉcĐcǪb.ZQAPHAĉcĐcǪb.RBASAĉcĐbǪ.ZLAMAŎd.ANGULARb.HBASAĉcĐb.HBASA-ESASAǪb.ESASAĉcĐb.RWAHAb卉ĕb.QUSHSHAYAb.RUKKAKHAbĎĨŁĉeĐbėŁĉdĐb˪ƒĉdĐb厮b.BARREKH!74Dbā儫.ZHAINd厯d̈́aʑāʇĀėŁ.HORIZONTALLYĐeĕĐĆėŁĉeėŁƗšĐjĆĎŁĉeĎŁĐĆĕĉeƔĂśĐeĂścťĀĎŁĉeėŁƗšĐċĀĎŁ乔ĐĆĂȫeƔĂśĐcȏĀğcȳĀĝŁĉcȂĀĎŁĉeėŁƗŕĉeĎŁ乔ĉcɟĀĎŁĐeėŁƗšĐc亨ĀĕĉeėŁĉgƗšĐcĮĀĕĉfĐcǧĀĎŁĐeĂȫfścǱĀįcȏĀĎŁ乔ĉeǳĉcȳĀĎŁ乔ĉcťĀĂʑāȫĐiĆĎŁcȳĀĂʑāȫĆĎŁcȏĀĂʑāȫĆĎŁcťĀĂʑāȫĉcŊĀϿ΍ŒĎĉhėĉc乏ŀĀϿ΍ŒĎĉiėĉiĝĐcǭĀϿ΍ŒĎĉhėĉcŀ信ĀϿ΍ŒĎĉiėĉcťĀϿ΍ŒĝĐcȳĀϿ΍ŒĝĉeƔścȘĀĎŁĉa.THAANAāθc.SHAVIYANIc.NOONUc伧c俥c.LHAVIYANIc.KAAFUc.ALIFUc.VAAVUc.MEEMUc.FAAFUc.DHAALUc伨c.LAAMUc.GAAFUc.GNAVIYANIc.SEENUc.DAVIYANIc.ZAVIYANIc.TAVIYANIc京c.PAVIYANIc.JAVIYANIc.CHAVIYANIc厰c厱c厲c.THAALUc厳c.SHEENUc.SAADHUc.DAADHUcĘcͅc.AINUc.GHAINUc.QAAFUc.WAAVUb.ABAFILIb.AABAAFILIb.IBIFILIb.EEBEEFILIb.UBUFILIb.OOBOOFILIb.EBEFILIb.EYBEYFILIb.OBOFILIb.OABOAFILIb乐bā亭!7C0a.NKOŒŨcĒcĎcėcĝcġcĪcĲcīcķbāČcǕcĔcďcċcǀcčc.DAGBASINNAcĽcŦcļcŐcƉcƑcŔcľcʈcőc儬cǙcĹcńcŅ厴cņcƓcŅcĶcƊcŇcƓ厴c.JONAƉdƑdľbǦƺƂŹdŝŹd̞ŹcŴ儭ŹdƂŹdŝŹd̞Źc儮ĖcēĕĉbƂŹΰbŝŹΰbĠǀ.DENNENc.GBAKURUNENbƟbȹĖb.LAJANYALAN!7FDb.DANTAYALANb.DOROMEąb.TAMANąa厵ā.ALAFc厶c.GAMANc.DALATc儯c俥c伩c儰c厷c俦c厸c.LABATc俤cǄc.SINGAATcƯcͫc.TSAADIYc.QUFc優cͬc.TAAF",
  "bĖƯc.IN-ALAFc.OCCLUSIONcɠbȕā厹俦bĖ厹俦bŋąŴďdďd厺ũdŴũdũd厺ČdŴČdČbȕāƺČbŋąƺČdŴċdċbȕāĔbŋąŴĔdĔdčd乐bĖ去!830bǐ去c.AFSAAQc.ANGEDc.BAUc.ATMAAUc.SHIYYAALAAbʦĖbǐ.MELODIC厼c.ZIQAAc厼c.ZAEFc.TURUc.ARKAANUc历.MASHFAATc.ANNAAU!840a.MANDAICā.HALQAcιc俧c亮c͆c.USHENNAc厽c儰c.ATTc.AKSAc俨cκcΒcȃc̈cƯc厾c.ASZc伪c儱cǋcɐc.DUSHENNAc.KADcȂb.AFFRICATIONĖb.VOCALIZATIONĖb伫Ė!85Ebǐ!860a俣ā县ƃdƉdƓdƻdǌd伬dǎdľdȴd亯dǠ!870aʑāŊĀ亰͂fǖĈ͂eĈĥğeĊĥğe亰̝fȈĈ̝f̿ĕĉfĈ̿ĕfĊ̿ĕf̿ĕĐeĕĉe亰ǖĈ͂ĆĕĉeĈĥğĆĕĉe亰ȈĈ̝ĆĕĉfǖĈ͂ĆĊœeĈĥğĆĊœe亰ȈĈ̝ĆĊœfĈǳfĊǳb保Ā.OVERSTRUCKǳeǭdĎŁĐbā俩ŀb叀̿ĕbȻ̿ĕbāǧĀƔĂścťĀƔĂśĐcȫĀĕĐeėŁĐc亨ĀĎŁ乔ĐbĨƫ!890b俄Ėĉb.PIASTREĖĉ!898bĂƂ˫.AL-JUZcŝ˫.ISHMAAMe.IMAALAe.TASHEELbη.WAAJIBb̘Ŋ.MOKHASSASb俪ηbĳηłηbāʇĀĂśĐeǳĉcŲĀĎŁĉcȫĀĎŁĉcɟĀĕĐĆėŁĉcɀĀĕĐcǱĀēįcĮĀėŁĉcŀĀĎŁĐĆǳĉiĕĉcȏĀʟcǭĀĕ乕c叁ŀcŝŊċĀėŁĐcɡĀėŁĐc享ĀƔğcɕǭc˧ĀƔśĉcȂĀėŁĐcȘĀĕĐcɀĀĕĐĆǡŁĉcʇĀĂĮĉc亥ĀĂĮĉcʒĀĂʒĉcȏĀĂǧĉcŀĀĎŁĐĆĂǧĉc儂ɟdɀdǧc亥ĀĂścʒĀĂśc儦ĀĂśc俟ĀĂśc亨ĀĂścʺĀėŁĉc儂ɀĀėŁĉcŲĀėŁĉgĐcǱĀĂʑāȫĉc.GRAFbĂ乏ŀcƂ乏ŀdŀ信ĀĎŁĐd˫参dͪbƍ̿ĕĉeĐb乐ĐbƍĿĐc̿ĕʖĿĐbĂŝǭcƂ˫.AR-RUBdɡdȂdɀdǧĀ̝cŝǧĀ̝cƂ˫.ATH-THALATHAe.AS-SAJDAe.AN-NISFe.SAKTAe.QIFe.WAQFAd厉Ͻdą厊b.DISPUTEDȖĜ厥bűΎĐbȺ͂cΎc̝c亩c伣c伤bŹĒĕĉcĎŁĉcʟĉcĒĕĐcĎŁĐcʟĐbů亩c伣c伤bĂƂǭb͂Āœdĕĉb̝ĀĕĐbĊƈĉbĈƈĉbĊƈĐbĈƈĐbēĈƈĉfĀĕbĈƈĉĀĕbΎĀĕbĖλǧ俞a儲ąƔȎcȎcƼcǴbāƺČcČcũcĔcŻcċcƇcƦĦdĭcˬďcƺďcďcżcˬčcƺčcčcƄcĹcƘcŜcǅcƃcƌcƑcƉcǵcƓcƻcǗcƾcǢcǌcŐcƠcŔcǁcŅc伬cļcƭcŦcǎcņcŇcľcʈcńcȴ",
  "c亯cưcƆcǠcőcĶbŋąǞd參bąɋcˑbŋąũdĔdŻdċdƇdƦĦeǣdˬďdƺďdďdżdˬčdƺčdčdƄbąǚbŋą儳ďd儴b̟b儵ą俫d伭bƏǥbŠǥbŋąˬŴďdɢd儶bāʆc叄c儷cƿc叅cεcǙc俬cƦǣdǹbŋąƦĭeǹbșbēșbŒŨcĒcĎcėcĝcġcĪcĲcīcķbʦąbąƂ儸ĕbāˬČcǞc參c儴cɢc儶c.MARWARIƾcɮcĤŇc亱c伮cȨƅc俭c乖a.BENGALI儹bąȎcƼcǴ!985bāČcũcĔcŻcċcƇcƦĦdĭ!98Fcďcż!993cčcƄcĹcƘcŜcǅcƃcƌcƑcƉcǵcƓcƻcǗcƾcǢcǌcŐcƠcŔcǁcŅ!9AAcļcƭcŦcǎcņcŇcľ!9B2cń!9B6cƆcǠcőcĶ!9BCbąɋcˑbŋąũdĔdŻdċdƇdƦĦeǣ!9C7dďdż!9CBdčdƄbąǚbā.KHANDAŐ!9D7bƄ˭Ė!9DCbāʈcε!9DFc俬cƦǣdǹbŋąƦĭeǹ!9E6bŒŨcĒcĎcėcĝcġcĪcĲcīcķbāľĀĥǊeŗǊb乗Ėcąb优叆ĒdĎdėdĝdĒ.LESS亲Ǯ叇c叇Γb又b.GANDAĖbā伯Ƽbʦąb估Ė!A01a.GURMUKHIą.ADAK叉c叉cǴ!A05bāČcũcĔcŻcċcƇ!A0FcǕcż!A13cǀcƄcĹcƘcŜcǅcƃcƌcƑcƉcǵcƓcƻcǗcƾcǢcǌcŐcƠcŔcǁcŅ!A2AcļcƭcŦcǎcņcŇcľ!A32cńcȴ!A35cưcƆ!A38cőcĶ!A3Cbąɋ!A3EbŋąũdĔdŻdċdƇ!A47dǕdż!A4BdǀdƄbąǚ!A51c.UDAAT!A59bā叄c儷cƿcʈ!A5EcǙ!A66bŒŨcĒcĎcėcĝcġcĪcĲcīcķb.TIPPIb.ADDAKb.IRIb.URAb亳.ONKARbą.YAKASHbʦą!A81a.GUJARATIąȎcƼcǴ!A85bāČcũcĔcŻcċcƇcƦĦdĭbŋˬď!A8Fbāďcżbŋˬč!A93bāčcƄcĹcƘcŜcǅcƃcƌcƑcƉcǵcƓcƻcǗcƾcǢcǌcŐcƠcŔcǁcŅ!AAAcļcƭcŦcǎcņcŇcľ!AB2cńcȴ!AB5cưcƆcǠcőcĶ!ABCbąɋcˑbŋąũdĔdŻdċdƇdƦĦeǣdˬď!AC7dďdżdˬč!ACBdčdƄbąǚ!AD0b̟!AE0bāƦǣdǹbŋąƦĭeǹ!AE6bŒŨcĒcĎcėcĝcġcĪcĲcīcķbʦąb乗ą!AF9bāɮbą乐c亪c厑c.THREE-DOTɋĉcĿɋĉc及ɋĉ!B01a.ORIYAąȎcƼcǴ!B05bāČcũcĔcŻcċcƇcƦĦdĭ!B0Fcďcż!B13cčcƄcĹcƘcŜcǅcƃcƌcƑcƉcǵcƓcƻcǗcƾcǢcǌcŐcƠcŔcǁcŅ!B2AcļcƭcŦcǎcņcŇcľ!B32cńcȴ!B35cưcƆcǠ",
  "cőcĶ!B3CbąɋcˑbŋąũdĔdŻdċdƇdƦĦeǣ!B47dďdż!B4BdčdƄbąǚ!B55cϴbż˭ĖbƄ˭Ė!B5Cbāʈcε!B5Fc俬cƦǣdǹbŋąƦĭeǹ!B66bŒŨcĒcĎcėcĝcġcĪcĲcīcķb又bāƊbʌĒǿdĳcėˢcĒ亴dȵcė修!B82a乘ąƼcǴ!B85bāČcũcĔcŻcċcƇ!B8EcďcǕcż!B92cčcǀcƄcĹ!B99cƃcƌ!B9CcƉ!B9EcƓcƻ!BA3cǌcŐ!BA8cŅc伬cļ!BAEcņcŇcľcʈcńcȴc亯cưcƆcǠcőcĶ!BBEbŋąũdĔdŻdċdƇ!BC6dďdǕdż!BCAdčdǀdƄbąǚ!BD0b̟!BD7bƄ˭Ė!BE6bŒŨcĒcĎcėcĝcġcĪcĲcīcķbƙŵcĒĵdŃb友ąb儺ąb双ąb.DEBITąb儻ąb̈ĉąb乗ąbƙą!C00a.TELUGUąǦȎĉcȎcƼcǴcǦƼĉbāČcũcĔcŻcċcƇcƦĦdĭ!C0EcďcǕcż!C12cčcǀcƄcĹcƘcŜcǅcƃcƌcƑcƉcǵcƓcƻcǗcƾcǢcǌcŐcƠcŔcǁcŅ!C2AcļcƭcŦcǎcņcŇcľcʈcńcȴc亯cưcƆcǠcőcĶ!C3CbąɋcˑbŋąũdĔdŻdċdƇdƦĦeǣ!C46dďdǕdż!C4AdčdǀdƄbąǚ!C55b˭Ėbż˭Ė!C58bāȚc̠c.RRRA!C5Dc反収!C60cƦǣdǹbŋąƦĭeǹ!C66bŒŨcĒcĎcėcĝcġcĪcĲcīcķ!C77bą乙bʌŒŨǬ乚乛ĜĝdĒǬ乚乛ĜĝdĎǬ乚乛ĜĝdėǬ乚乛ĜĝdĒǬ亵乛ĜĝdĎǬ亵乛ĜĝdėǬ亵乛Ĝĝbą.TUUMUa.KANNADAą儸ȎcȎcƼcǴc乙bāČcũcĔcŻcċcƇcƦĦdĭ!C8EcďcǕcż!C92cčcǀcƄcĹcƘcŜcǅcƃcƌcƑcƉcǵcƓcƻcǗcƾcǢcǌcŐcƠcŔcǁcŅ!CAAcļcƭcŦcǎcņcŇcľcʈcńcȴ!CB5cưcƆcǠcőcĶ!CBCbąɋcˑbŋąũdĔdŻdċdƇdƦĦeǣ!CC6dďdǕdż!CCAdčdǀdƄbąǚ!CD5b˭Ėbż˭Ė!CDDbā反収cǙ!CE0cƦǣdǹbŋąƦĭeǹ!CE6bŒŨcĒcĎcėcĝcġcĪcĲcīcķ!CF1bą亶c亷!D00a县ąǦƼĉcȎcƼcǴbā伯ƼcČcũcĔcŻcċcƇcƦĦdĭ!D0EcďcǕcż!D12cčcǀcƄcĹcƘcŜcǅcƃcƌcƑcƉcǵcƓcƻcǗcƾcǢcǌcŐcƠcŔcǁcŅc伬cļcƭcŦcǎcņcŇcľcʈcńcȴc亯cưcƆcǠcőcĶc叏bąĨįǚc伱ǚcˑbŋąũdĔdŻdċdƇdƦĦeǣ!D46dďdǕdż!D4AdčdǀdƄbąǚbāĕ.REPHbą厂!D54bā叐ňdŤd.LLLbƄ˭ĖbʌĒ发d叒cė叓cĒ叔d儼cė叕cĒ儽bāʎŻcƦǣdǹ",
  "bŋąƦĭeǹ!D66bŒŨcĒcĎcėcĝcġcĪcĲcīcķbƙŵcĒĵdŃbʌĒǿdĳcėˢcĒ亴dȵcė修b厍Ėbā叐伲dĽdǣdĭdǹdř!D81a取ąȎc.ANUSVARAYAc.VISARGAYA!D85bā.AYANNAc.AAYANNAc.AEYANNAc.AEEYANNAc.IYANNAc.IIYANNAc.UYANNAc.UUYANNAc.IRUYANNAc.IRUUYANNAc.ILUYANNAc.ILUUYANNAc.EYANNAc.EEYANNAc.AIYANNAc.OYANNAc.OOYANNAc.AUYANNA!D9AcΔ受cΕ受cΔ儾cΕ儾c.KANTAJA变c俯儾cΔ叙cΕ叙cΔ儿cΕ儿c叚变d.SANYOOGA.NAAKSIKYAYAc俯儿cΔ叛cΕ叛cΔ兀cΕ兀c允叜c俯兀cΔ叝cΕ叝cΔ兂cΕ兂c元叜!DB3c俯兂cΔ叞cΕ叞cΔ兄cΕ兄c.MAYANNAc.AMBA兄c.YAYANNAc.RAYANNA!DBDc元叟!DC0c.VAYANNAc叚充c允充c元充c.HAYANNAc允叟c.FAYANNA!DCAbą.AL-LAKUNA!DCFbŋą兆d兇叠d亸叠d兇叡d亸叡d兇叢!DD6d亸叢!DD8d口d先d亸先d.KOMBU.DEKAd先θ兆f亸兆f光d光!DE6b.LITHŒŨdĒdĎdėdĝdġdĪdĲdīdķ!DF2bŋą亸口e光bǐ.KUNDDALIYA!E01a.THAIμɌ亜c乜古d.KHUATd.KHWAId.KHONd.RAKHANGc九.NGUcν.CHANd.CHINGd.CHANGcɗɗcν.CHOEcȉ.YINGcʉ.CHADAcĘ.PATAKc˒亲d.NANGMONTHOd.PHUTHAOcǡ兊cʉ.DEKcĘ.TAOc˒.THUNGd.THAHANd句cǡȇc͇.BAIMAIcʧ俰cͭ.PHUNGcͮǙcͭ.PHANcͮ另cͭ.SAMPHAOcɯņcȉ克cɁ.RUAcɰcʗ叧cɘcə.WAENcɗ.SALAd.RUSId兌cȿ伳cʗ.CHULAcč͈cȿ.NOKHUKc.PAIYANNOIc免Čc̡.HAN-AKATc免ũdΒdĔdŻdɢd.UEEdċdƇc.PHINTHU!E3Fb优Ġ.BAHTbμ免ďdȆdčdż.MAIMUANe.MAIMALAIc.LAKKHANGYAOc.MAIYAMOKc.MAITAIKHUc̡亳d˒d.TRId.CHATTAWAc.THANTHAKHATc.NIKHAHITc.YAMAKKANc.FONGMANbŒŨcĒcĎcėcĝcġcĪcĲcīcķbμ.ANGKHANKHUc.KHOMUT!E81a.LAOāɌc乜亹!E84d乞!E86c一ǅc九c̀c一Ƒcɗ乞!E8Cc一ǵcξc一ƓdƻdǗdƾdǢdǌcʉcĘc˒亹d乞c一ǁcǡc͇cʧcͭ亹cͮ乞",
  "cͭ乞cͮ亹c一ǎcɯcȉcʗ叧!EA5d叨!EA7cəc.SANSKRITƆdǠcɗ亹cȿ亹c一ȴcčcȿ乞b丁bŋąČd̡人dũdΒdĔdŻdŤd兎dċdƇbą一ǚbŋą̡叩b.SEMIVOWELąʗdξ!EC0bŋąďdοdčd͉dż!EC6bɌń!EC8bŹ̡亳d˒dʨd.CATAWAb俱Ėb.NIGGAHITA!ED0bŒŨcĒcĎcėcĝcġcĪcĲcīcķ!EDCbȿǡcɯbā.KHMU̢dξ!F00a只˓̟bĖ兏Ζ̣.TRUNCATEDČf.-UM叫召ņg兏ͯņcĢΖ̣叭ņc伴Ζ̣叮ņcΗΖ̣可˔ņcΖ̣ͯ˔ņc.SBRUL˔c.BSKURΖ̣c.BKA-台Ζ̣c.INTERSYLLABICͯc俲ͯ.BSTARc˔c俳˔cͯ˔c俳ͯ˔c.RIN.CHEN.SPUNGS˔c叱史˔cΗ右͊țŴ̉c兏ͯb.LOGOTYPEą.CHAD͊d.LHAG͊b叴ą.SGRA.GCAN.-CHAR͊d.-KHYUDļd.SDONG.TSHUGSbą俴児叵e叶e兑d兒叵e叶d児俴兒bŒŨcĒcĎcėcĝcġcĪcĲcīcķcĳĒdĎdėdĝdġdĪdĲdīdķdŨbĖ.BSDUS͊c号司̊叹cΗ右͊兓叺̉c号司.SGOR͊cɔ̣cȚ.-PHRUc.GUG͊叻e叼c͈.KHANG叻e叼bą叽叾c叿叾bāĹcƘcŜcǅcƃcƌcƑcƉ!F49cƓcƻcǗcƾcǢcǌcŐcƠcŔcǁcŅcļcƭcŦcǎcņcȚcˮc̠c伵cƊcɮcƿc亻cŇcľcńcƆcǠcőcĶcČc伶c吀ľc兔cʈ!F71bŋąũdĔdŻdċdƇdƦĦeǣeĭeǹdďdǕdčdǀbą.RJESɽƃɁc叫召bŋąžĔeŻbą̊叹亭Ŕc.SNA.LDANbĖ兕c.PALUTAbą.LCI͊c̽͊c吁Ț̉c俵̉c.GRỦ吂d.MED吂cƔ俵̉b亼ą吁Ț̉d俵̉dƔ俵̉cāĹdƘdŜdǅdƃdƌdƑdƉ!F99dƓdƻdǗdƾdǢdǌdŐdƠdŔdǁdŅdļdƭdŦdǎdņdȚdˮd̠d伵dƊdɮdƿd亻dŇdľdńdƆdǠdődĶdČd伶d吀ƊeŇeľ!FBEbʊɰƘe兓叺̉b.CANTILLATIONąĤ吃dŌ吃d.CANG.TE-Ud.SBUB.-CHALbĠ.DRILʘc各吅c.PADMA.GDANc各吅叱史c可ļcͰʘe俳兖e兑兖e兓兖!FCEbą俴兒俴児e兑bĖ.BSKA-台ɾ̣吆c.MNYAMΖɾ̣吆c俳ͯcĢ吇合Ζ̣叭ņc伴吇合Ζ̣叮ņa俔俶ąa俕俶ąa俔俶ąĀŁa俕俶ąĀŁa只Ė.LEADING吉͊c.TRAILING吉͊!1000a兗āĹcƘcŜcǅcƃcƌcƑcƉcǵcƓc.NNYAcƻcǗcƾcǢcǌcŐcƠcŔcǁcŅcļcƭcŦcǎcņcŇcľcńcƊcőcĶcȴcČcͬČcĔcŻcċcƇcďc也ďcčcƄbŋą伷ũdũdĔdŻdċdƇdďdżd也ŻečdďĉbąƼcĕĐ",
  "cǴcǚc.ASATbɣąŧŇeľeƊeĶbā亽őbŒŨcĒcĎcėcĝcġcĪcĲcīcķbąƬɑcɑbĠ.LOCATIVEc.COMPLETEDc.AFOREMENTIONEDc.GENITIVEbāƆcǠcƦĦdǣdĭdǹbŋąƦĦeǣeĭeǹbā也ƃdǵd乖d伸bɣą也ŧŅfņfńbā兘πƆbŋą兘πρbŹĖ兘π.HATHIfɿͭbā俷亾πƠf伹bŋą俷亾πρgɢbą俷亾π伺fΘfςf习fΙbā吊亾πǌf兙f.GHWAbŋą.GEBAπĔd吋ǞeċeǕbāͬĹdƘdŜdƌdƿdƓdŔdŅdƭdǙdŦdƠdĶbɣąͬŧƊbŋąͬũeďfĉeđŤbąͬΘdςdΙd俸d.COUNCILΘeςe.EMPHATICŹbā同党Ǚbą同党ΙbͬŒŨdĒdĎdėdĝdġdĪdĲdīdķbą伻伺dςbŋą兛ČeżbĠͬĒdȹa似Ąāȃd俹d乡d俺dƽd俻d伩d俼dƯd人d俽dʀd伽dƚd俾d俿d亿d亡d乢d丂d倀d倁d倂d伾dȗd倃d̉d伿d倄d倅d倆d倇d倈dǘd佀dȾd什d倉!10C7d仁!10CDd仂!10D0bāȃc俹c乡c俺cƽc俻c伩c俼cƯc人c俽cʀc伽cƚc俾c俿c亿c亡c乢c丂c倀c倁c倂c伾cȗc倃c̉c伿c倄c倅c倆c倇c倈cǘc佀cȾc什c倉cͫc仁c名cű乡cȂb伦ɖaȕā似伽a似ā仂cΈąc后ąaσ吏七c倊c丄c丅c個c丆c万c丈c倌c三c倍cτcυc倎c上c下c丌c不c与c吐c兜c兝c.NIEUN-PIEUPc向c吒c吓c倏c吔c兞c兟c吕c.PIEUP-NIEUNc兠c倐c吖c兡c.PIEUP-SIOS-PIEUPc.PIEUP-SSANGSIOSc.PIEUP-SIOS-CIEUCc兢c吗c吘c吙c兣c吚c兤c君c入c吜c吝c兦c.SIOS-PIEUP-KIYEOKc.SIOS-SSANGSIOSc.SIOS-IEUNGc內c吞c.SIOS-KHIEUKHc吟c.SIOS-PHIEUPHc吠c.CHITUEUMSIOSc.CHITUEUMSSANGSIOSc.CEONGCHIEUMSIOSc.CEONGCHIEUMSSANGSIOSc全c吡c.IEUNG-TIKEUTc.IEUNG-MIEUMc.IEUNG-PIEUPc.IEUNG-SIOSc.IEUNG-PANSIOSc兩c.IEUNG-CIEUCc.IEUNG-CHIEUCHc.IEUNG-THIEUTHc.IEUNG-PHIEUPHc兪c.CIEUC-IEUNGc.CHITUEUMCIEUCc.CHITUEUMSSANGCIEUCc.CEONGCHIEUMCIEUCc.CEONGCHIEUMSSANGCIEUCc.CHIEUCH-KHIEUKHc.CHIEUCH-HIEUHc.CHITUEUMCHIEUCHc.CEONGCHIEUMCHIEUCHc吢c八c吣c公",
  "c.KIYEOK-TIKEUTc六c們c倒c吤cφb吥φcČcȆcŇc伝c佁cďc兮c˕cčcƊc兯cǞcȉcċc兰cȾcɱcǰcρcȪcĔc.A-Oc.A-Uc.YA-Oc否c.EO-Oc.EO-Uc.EO-EUc.YEO-Oc.YEO-Uc.O-EOc.O-Ec.O-YEc.O-Oc.O-Uc吧c吨c.YO-YEOc.YO-Oc吩c.U-Ac.U-AEc.U-EO-EUc.U-YEc.U-Uc.YU-Ac.YU-EOc.YU-Ec吪c含c.YU-Uc听c.EU-Uc.EU-EUc.YI-Uc.I-Ac.I-YAc.I-Oc.I-Uc.I-EUc.I-ARAEAc吭c.ARAEA-EOc.ARAEA-Uc.ARAEA-Ic.SSANGARAEAc.A-EUc.YA-Uc.YEO-YAc.O-YAc.O-YAEb吮七c倊c共c丄c們c倒c丅c丆c倓c倔c倕c倖c兲c关c倏c万c丈c倐c三c倍cτcυc上c下c丌c不c与c.KIYEOK-RIEULc.KIYEOK-SIOS-KIYEOKc吐c兝c六c启c.NIEUN-THIEUTHc向c吤c吰c吒c兴c.RIEUL-TIKEUT-HIEUHc吓c.RIEUL-MIEUM-KIYEOKc.RIEUL-MIEUM-SIOSc吱c.RIEUL-PIEUP-HIEUHc吲c.RIEUL-SSANGSIOSc吳c吴c吵c吶c.MIEUM-RIEULc兞c兵c.MIEUM-SSANGSIOSc吷c.MIEUM-CHIEUCHc.MIEUM-HIEUHc兟c.PIEUP-RIEULc吙c吸c兣c兤c入c吜c兦c全c吡c.IEUNG-SSANGKIYEOKc兩c.IEUNG-KHIEUKHc兪c吹c吺c吢c八c.HIEUH-NIEUNc.HIEUH-RIEULc.HIEUH-MIEUMc.HIEUH-PIEUPc公c.KIYEOK-NIEUNc.KIYEOK-PIEUPc.KIYEOK-CHIEUCHc.KIYEOK-KHIEUKHc.KIYEOK-HIEUHc兜a倗˓Ķc̋cȬcθc倘cǘcȿc.HOAcńcɘcʩc佂c候c˯cʗc其cχc.HHUc.HHIc厱c.HHEEc.HHEc.HHOc吻cņcǫcȣc具c典cțcɯc倚c.SZAc.SZUc.SZIc.SZAAc.SZEEc.SZEc.SZOc.SZWAcľcɰc˖c伧c佃cʪcɁc吼cőcɽcɲc倛c乣cɳcɗc兹cƆčc仃c吽c倜cǽcͧc兺cʆc佄c佅c养c.QEEc倝c倞c.QOAc.QWA!124Ac吾c.QWAAc吿c呀!1250c.QHAc.QHUc.QHIc.QHAAc.QHEEc.QHEc.QHO!1258c.QHWA!125Ac.QHWIc.QHWAAc.QHWEEc.QHWE!1260cŦcʘc˰c俥c仄c˥c͇c呁cưc乤cψc呂c丏cˉ",
  "c΋c.VWAcŐcɍcʨc乥c仅cǲcĘc兼cƌc兽c借c兾c呃cωc̀c兿c˱c.XUcˤc.XAAc.XEEc仆c呄c.XOAc.XWA!128Ac.XWIc.XWAAc.XWEEc.XWE!1290cŅcȇcȄc亭c冀cȜcǡc倠cƓc冁c̊c呅c呆c冂cξc.NYWAcȨČdċdĔdũdǕdďdčdƊcĹcʊcʁc倡c冃cɿcɌc.KOAc冄!12B2c倢c倣c呇c値!12B8c内c.KXUc.KXIc.KXAAc.KXEEc.KXEc.KXO!12C0c.KXWA!12C2c.KXWIc.KXWAAc.KXWEEc.KXWE!12C8cƊcͱcɱc但c倥cȾcəc.WOAc南ČdċdĔdũdǕdďdč!12D8cƿc͋cΚc厳c佇cɬcͅc.ZWAcɮc円c冇c.ZHAAc倦cˊc冈c.ZHWAcŇcǰcȪc京c仇c˕cȉc.YOAcŔc˗cʙc呈c仈cɫcʉc.DWAcƾc呉c告c呋c.DDEEc呌c冉c.DDWAcƉc书c丐c呍c仉c̾cͲc呎cŜc˘cɾc佈c佉cΛc̢c.GOAc呏!1312c呐c.GWAAc呑c呒!1318c亱c呓c呔c.GGAAc.GGEEc冊c呕c.GGWAAcƠc冋c乧c伨c佊cǮc˒c册cƑc倧cɓc呖c倨cɔcνc.CHWAcƭc.PHUcɇc呗c.PHEEc再cͭc.PHWAcȚc倩c乨c.TSAAc员c̄c倪c.TSWAc.TZAc.TZUc.TZIc.TZAAc.TZEEc.TZEc.TZOc.TZOAcǙcϊcͫc倫c乩c̈́cͮc呙cļc̤cǔc倬cϋcǃcʧc伹c.RYAc冎c.FYA!135DbǦ伫Ćŋ˭Ėcŋ˭Ėc伫ĖbɑĖb.WORDSPACEbƸƅbƟb̸bȌb.PREFACEȌbȞĖb伦ɖbŒĒcĎcėcĝcġcĪcĲcīcķbƙŵcǛcɴcʫcȅcʽcǾc˲cǯcĵcŵŃ!1380b˓倭倚c倮c呚c冏c倭呁c呛c呜c.BWEc倭呙c呝c呞c.FWEc倭伹c倯c呟c冐b冑Ė.YIZETd.DERETd呠dƺ呠d.DIFATd.KENATd.CHIRETd.HIDETd.DERET-HIDETd.KURT!13A0a呡āČcďcĔcčcċcścŜcĹcΛcɾc̢c˘c呢cĶcǘcȬcȿc̋c俇cńc˯cʩcʗcɘc呣cņcțcȣcɯcǫcŅc冒c冓cȜcȄcǡcȇc冔c呤c呥c呦c冕c冖c呧cőcħcɳcɲcɗcɽc冗cŔcŐcɫcǲcʙcʨcʉc˗c周c倰c冘c写c冚c军c农c呩cȚc̄c乨c倪c倩c呪cƊcȾcɱcəcͱc呫cŇc˕cȪcȉcǰc呬c佋!13F8bĂā˕dȪdȉdǰd呬d佋!1400a冝冞̹cďc呭cĔcŻcčcǀc͌ǀcͳǕdĔcČcũcȾcŪȾcɱcŪɱc呮cŪ呮cəcŪəc佌cŪ佌cΜ佌cƊcŪƊc但cŪ但cΜ但cżc͌ŷcȨƅcđŠdƏdȈĳœdǖĳœdĈĳœdœ",
  "dēŠeƺĨ冟dĥĕdƺŎğdİdĴǼcƽcƯcƚcȃcǃc.PAAIcǔc位cʧc低c͌低cͳ倘dȬcļc倬c冐cŪ冐c倯cŪ倯c呯cŪ呯c亾cŪ亾c呰cŪ呰c伹cŪ伹c冠cŪ冠c͌冠cŮcŪŮcͳşcǲc.TAAIcʨc.TIIcĘc今c͌今cͳ仈dʙcŐc乥c住cŪ住c呱cŪ呱c呲cŪ呲cĎcŪĎc味cŪ味c兼cŪ兼c冡cŪ冡cΜ冡cŚc佐c呴c冢cƻcɿc.KAAIcʁc.KIIcɌc佑c͌佑cĹc倡c値cŪ値c倢cŪ倢c呵cŪ呵c呶cŪ呶c呷cŪ呷c冄cŪ冄c倣cŪ倣cΜ倣cřc冣c.SOUTH-SLAVEY儙d.KIHd.KOHd呸cωc.CAAIc借c.CIIc̀c冤c͌冤cƌc兾c呹cŪ呹c冥cŪ冥c呺cŪ呺c呻cŪ呻c呼cŪ呼c兿cŪ兿c冦cŪ冦cΜ冦cūcό丑cțc.MAAIcȣc.MIIcɯc冧c͌冧cņc具c冏cŪ冏c倮cŪ倮c命cŪ命c呾cŪ呾c呿cŪ呿c倚cŪ倚c冨cŪ冨cΜ冨cňcŪňc.MHc咀ňcόňcȜc.NAAIcȄc咁cǡc冩c͌冩cŅc亭c咂cŪ咂c倠cŪ倠c冪cŪ冪cΜ冪cĽcͳʻc.NHc˯c.LAAIcʩc.LIIcʗc介c͌介cńc佂c咃cŪ咃c咄cŪ咄c咅cŪ咅c咆cŪ咆c咇cŪ咇c其cŪ其c咈cŪ咈cĭcŪĭcŧĭcɳc.SAAIcɲc佒cɗc体c͌体cőc倛c咉cŪ咉c咊cŪ咊c咋cŪ咋c和cŪ和c咍cŪ咍c兹cŪ兹c冫cŪ冫cΜ冫cħc咀ħc咎c冬ħc.MOOSE-CREE.SKcΜ.SKWd.S-Wd.SPWAd.STWAd.SKWAd.SCWAcǽc仃c倱cͧc冭cƆc吽c仌cŪ仌c咏cŪ咏c咐cŪ咐c咑cŪ咑c咒cŪ咒c兺cŪ兺c咓cŪ咓c乪c˕c.YAAIcȪc.YIIcȉc倲c͌倲cŇc京c咔cŪ咔c咕cŪ咕c咖cŪ咖c咗cŪ咗c咘cŪ咘c兙cŪ兙c冮cŪ冮cΜ冮cŤc.BIBLE-CREEŤcŪŤcόȪcʪc咙ʪcŪ˯c.RAAIc˖c倳cɁc咚cŪʗcľc伧cŪńc咛cŪ咛cĦcŪĦcŧĦc̈́c.FAAIcͫc.FIIcͮc冯cǙc倫c咜cŪ咜cƎcǮc冰Ǯc乧c冰乧c冱c冰冱c˒c冲cƠc伨c决cŪ决c丑c咝c咞c倴cǗc.TTHc.TYEc.TYIc.TYOc.TYAc.NUNAVIKǘdȬd咟dȿd佔dĶdθdşc.NUNAVUTşc.HKc.QAAIc佅c咠c倞c咡cʆc养cƢc咢c咣c咤c冴cŪʪd˖dɁdľc.NGAAIc倵c.NGIIc九c.NGOOcƃc倶cʻc.NNGcόǽd仃dͧdƆc咥Ǯd乧d˒dƠd丑c咦c.LHIIc咧c.LHOOcϼc咨c况c.TH-CREEǮd乧d冱d˒d冲dƠd伨d丑c.AIVILIKŶc冬ďdĔdčdČdȾdɱdədƊdȜdȄdǡdŅdɿdʁdɌdĹcόǘdȬdȿdĶcͳ.GHUd咩dʤd.GHEEd.GHIdǅdɰdɁdʪd佃d˖dľ",
  "dͱdədȾd倥dɱdƊd.HWUd.HWOd冶d.HWEEd.HWId.HWAd冋d˒dǮd佊d乧dƠd.TTUd冢d佐d.TTEEd呴dƻd̤dʧdǃdϋdǔdļdŮd˘d̢dΛd佉dɾdŜd.KHUd乜d冷d.KHEEd倷dƘd.KKUd.KKOd.KKEd.KKEEd.KKId兔d倸dȇdǡdȜd冀dȄdŅdǫdɯdțd典dȣdņdǰdȉd˕d仇dȪdŇd书cό书cͳͲd̾d仉d丐cό丐cͳƉd咪d咫d.JJEd.JJEEd咬d伮dɘdʗd˯d候dʩdńd.DLUd.DLOd.DLEd.DLEEd.DLId倰d.LHUd咧d.LHEd.LHEEd咦dϼd.TLHUd咤d咢d.TLHEEd咣d冴d农d军d写d.TLEEd冚d冘d͋dͅdɬd佇dΚdƿdŬdĢŬd咭d咮dϸd咯d咰d̠dɽdɗdɳd乣dɲdőďdͧdǽd倜d仃dƆd乪d倩d倪d̄d员d乨dȚd倧dνdɔd倨dɓdƑd.TTSUd.TTSOd.TTSEd.TTSEEd.TTSId.TTSAcɓącƸƅc咱c.NGAIc.NNGIc.NNGIIc.NNGOc.NNGOOc.NNGAc.NNGAAc咥.THWEEd.THWId.THWIId.THWOd.THWOOd册d决dđ丑c冬ŷa.OGHAMɧĖbā.BEITHc.LUISc.FEARNc.SAILc.NIONc.UATHc.DAIRc.TINNEc.COLLc.CEIRTc.MUINc.GORTc.NGEADALc.STRAIFc.RUISc.AILMc咲c乫c.EADHADHc.IODHADHc.EABHADHcŰc.UILLEANNc.IFINc.EAMHANCHOLLc.PEITHb倹Ėbž倹Ė!16A0a.RUNICā.FEHU.FEOḦ́Ǝcśc.URUZ乫ċc卍cŤcŷc.THURISAZ.THURSϮcϭc.ANSUZČc咳čc债Čc咴c.LONG-BRANCH-OSSčc.SHORT-TWIG-OSSčcčcǞcƚc.RAIDO咵.REIDĦc.KAUNAc.CENc.KAUNřcŖc̻c.GEBO.GYFUŖcȶc.WUNJO俈ŷc.HAGLAZşc.HAEGLşc.LONG-BRANCH-HAGALLşc.SHORT-TWIG-HAGALLşc.NAUDIZ.NYD.NAUDĽc.SHORT-TWIG-NAUDĽc.DOTTED-Nc.ISAZ仍.ISSĔcďc.JERANƀc.GERc.LONG-BRANCH-ARȆc.SHORT-TWIG-ARČc.IWAZ.EOHc.PERTHO.PEORTHŮc.ALGIZ.EOLHXc.SOWILOħc.SIGEL.LONG-BRANCH-SOLħc.SHORT-TWIG-SOLħcūcŬc.TIWAZ冸.TYRŚc.SHORT-TWIG-TYRŚcŢ",
  "c.BERKANAN.BEORC.BJARKANŶc.SHORT-TWIG-BJARKANŶc.DOTTED-Pc.OPEN-Pc.EHWAZΊďc.MANNAZʀňc.LONG-BRANCH-MADRňc.SHORT-TWIG-MADRňc.LAUKAZ.LAGU.LOGRĭc.DOTTED-Lc.INGWAZc冹c.DAGAZ.DAEGŢc.OTHALAN.ETHELčc从c.IORc.CWEORTHc.CALCc.CEALCc.STANc.LONG-BRANCH-YRc.SHORT-TWIG-YRc.ICELANDIC-YRcƢcųbƐǐb̥ǐbǇǐb.ARLAUGĠb.TVIMADURĠb.BELGTHORĠbāřc乪cǀc.FRANKS.CASKET咳e仍eΊe债e咴!1700a.TAGALOGāČcĔcċcĹcŜcƃcŐcŔcŅcļcŦcņcŇcľcńcƊcőcĶbŋąĔdċbąǚc咶!171Fbāʎľa.HANUNOOāČcĔcċcĹcŜcƃcŐcŔcŅcļcŦcņcŇcľcńcƊcőcĶbŋąĔdċbą咶a.PHILIPPINEƐǐbēǐ!1740a.BUHIDāČcĔcċcĹcŜcƃcŐcŔcŅcļcŦcņcŇcľcńcƊcőcĶbŋąĔdċ!1760a.TAGBANWAāČcĔcċcĹcŜcƃcŐcŔcŅcļcŦcņcŇ!176EcńcƊcő!1772bŋąĔdċ!1780a咷āĹcƘcɌc乜c九cƌcƑc̀cνcξcŔcǗcʉc倴c.NNOcŐcƠcĘc˒cǡcŦcƭcʧcͭcɯcȉcɁcʗc΋cƆc冺cőcĶcńcʆb丒ŋ.QAQd养d佅d咠d佄d.QUKd冖d.QUUVd咸d.RYYd冻d.LYYd倝d咱d咡冼ĒfĎd.QAUbŋ.INHERENT伪dũcąũdĔdŻdŤd兎dċdƇd仏dǞdŇdʹdďdȆdżdǀdƄbą.NIKAHITc.REAHMUKc.YUUKALEAPINTUc.MUUSIKATOANc.TRIISAPc.BANTOCc.ROBATc.TOANDAKHIATc.KAKABATc.AHSDAc.SAMYOK.SANNYAc.VIRIAMc.COENGc.BATHAMASATc.KHANc.BARIYOOSANc.CAMNUC位.KUUHc咹今c.BEYYALc.PHNAEK咺c.KOOMUUTb优Ġ.RIELbą.AVAKRAHASANYAc.ATTHACAN!17E0bŒŨcĒcĎcėcĝcġcĪcĲcīcķ!17F0bĠ咹.ATTAK.SONe冽e位e冾e冿e净e凁e凂e凃e凄!1800a咻Νb丁bƟbƸƅbȌbĝŁb凅˿̹b咼˓.BOUNDARYϽb何ƟcƸƅb.NIRUGUb准佖凇ĒeĎeėbŋɖb准佖凇ĝbŒŨcĒcĎcėcĝcġcĪcĲcīcķ!1820bāČcďcĔcčcċcǞcɢcǕcŅc͈",
  "cŦcļcʆcŜcņcńcőcƆcŐcŔcƑcƉcŇcľcƊcǙcĹcƘcȚcƿcθc.ZRAcϼc冇cɓc凅ŴŋądďdĔdčdċdǞdɢd͈dŦdļdʆdŜdņdŐdŔdƑdƉdȚdŇdƊdĹd佈dθd.JIAd.NIAd̠c咼ďdĔd儯dɢdċd͈dĹdŜdĶdļdƆdŐdŔdƉdǙd佈dθdȚdƿd伧dƑdɮc何ĔdĹdľdǙdɮcƑĀĎŁ!1880c乬乭ƼĒeǴĒe.DAMARUe咽eƔ咽e咾eė咾eČeĔeĹeƃeƌeƻeǗeƾeǌeŐeŔeļeƭeǠeɮeƿe͆c凅乬乭Őfɮc何乬乭ǅfƃfƌfǵfƻfǢfŐfǁfǠf咿fɮfƿc乬乭ĳċfŇc何乬乭ǎc乬乭.DAGALGAc何乬乭ϼ!18B0a冝冞凈c͉c哀c佗c.POYc.PAYc.PWOYc.TAYc凉c.KWAYc品c.NOYc.NAYc.LAYc.SOYc哂c哃c.SHAYc.SHWOYc.YOYc哄c压c哅c佘哅c哆c佘哆c哇c佘哇c哈c佘哈c.RWEEc.RWIc.RWIIc.RWOc.RWOOc吼c佘ŮdŚdřdūdňdĽdħd乪c吊ŷc俷ŷcđĂœdȻĕc咙.RWEcŪ介d佂c.THWEc册c.TTHWEc.TTHOOc凊c.TLHWEc.TLHOOcό仌d冭d佔cͳ.GWUd哉佉d佈d呏cό.JUUcͳ呎c哊哉ĭeĦcͳ儃ħ!1900a.LIMBU.VOWEL-CARRIERābāĹcƘcŜcǅcƃcƌcƑcƉcǵc哋cŐcƠcŔcǁcŅcļcƭcŦcǎcņcŇcľcńcƊcƆcǠcőcĶc.GYANc凋!1920bŋąČdĔdċdǕdżdǀdƄdďdčb亼āŇdľdƊ!1930bĂāĹdƃdƼdŐdŅdļdņdľdńbą.MUKPHRENGc.KEMPHRENGc.SA-I!1940c介!1944bȹĖbȞĖbŒŨcĒcĎcėcĝcġcĪcĲcīcķaύ˯āĹd˱dƃdȚdődŇdŐdƠdńdļdƭdņdǙdưdĶdʆdƘdˮdŅdČdĔdǕdΊdċdǀdčdɢdďd哌dż!1970dΘdςd习dΙd俸!1980a余ύ响āƂʆeŝʆeƂĹf˱fƃeŝĹf˱fƃeƂȚfőfŇeŝȚfőfŇeƂŐfƠfŅeŝŐfƠfŅeƂļfƭfņeŝļfƭfņeƂǙfưfńeŝǙfưfńeƂĶfŔfŦeŝĶfŔfŦeƂ哎f哏eŝ哎f哏eƂ兌eŝ兌!19B0dŋąŋ.SHORTENERfũfŻfċfƇfďfȆfčf佚fɢf͉f哀f哐f凈f哑f.UEYf儯dāđśfʻfĽfňfřfŢfŶdŹ佛e作!19D0dŒŨeĒeĎeėeĝeġeĪeĲeīeķd倻ŒĒ!19DEdą哒e.LAEVa咷Ġ.PATHAMASATc冽˳c位˳c冾˳c冿˳c净˳c凁˳c凂˳c凃˳c凄˳c凌˳c哓˳c哔˳c哕˳c哖˳c哗˳c.TUTEYASATc冽˴c位˴c冾˴c冿˴c净˴c凁˴c凂˴c凃˴c凄˴c凌˴c哓˴c哔˴",
  "c哕˴c哖˴c哗˴a.BUGINESEāĹcŜcƃc哘cļcŦcņc哙cŐcŔcŅc凍cƌcƉcƓc.NYCAcŇcľcńcưcőcČcĶbŋąĔdċdďdčdȆ!1A1Eb.PALLAWAbȖĜɑaύ倻āƂĹeƘe内dŝĹe内eƘdƃdƂƌeƑdŝƌeőeƑdƓd.RATAdƂ凎dŔdŝ凎d哚dƂŐeƠdŝŐeƠdŅdŦdƂļeƭeǙdŝļeǙeƭdņdŝŇdƂŇdľd.RUEdńd响dƊdƂƆeǠeőeĶdȴdČdŝĶdĔdŻdċdƇdǕdǀd哒d亽őcɣąŧľfńeń.TANG值cą̡倽值cɣąđƃeŝļeƂ凎ŰŝļeņeŦeő!1A60cą.SAKOTcŋąČe̡减eũe伷ũeĔeŻeɢe儶eċeƇeče佚Đe凈eďeȆeǀeże倻że佚ĉcą̡倽d伺dΘd.KHUENςe习eΙdľ.HAAMd̡凐d.KHUEN-LUE.KARAN!1A7FcǦώĕc.HORAŒŨeĒeĎeėeĝeġeĪeĲeīeķ!1A90c倻ŒŨeĒeĎeėeĝeġeĪeĲeīeķ!1AA0cą.WIANGd.WIANGWAAKd.SAWANd.KEOWd.HOYd.DOKMAIdžƛ哚d̡.YAMOKd.KAANd.KAANKUUd.SATKAANd.SATKAANKUUd.HANGd.CAANG!1AB0aǦ俪Ÿǥb.DIAERESIS-RINGb仐bŕćbǈĕb.X-XĐb仑ƒĐbůĖĐbēůĖĐbŌ倾ğĐb哛倾ğĐb凑ĉbē凑ĉb凑ĐcɞbƹĂāŷĐeűŷĐbĊǒĉĊbĈǒĉĈbĊǒĐĊbĈǒĐĈbĺ.BRACKETSĉbƙąĉbƔē卞ĉbİąĉbēİąĉeĐbǈŠǥbƹĂāʬŖfĦfŚ!1B00a.BALINESEą哜.RICEMdˬc.CECEKc哝c.BISAHbā.AKARAd͍c.IKARAd͍c.UKARAd͍cľ倿e͍cń哞e͍c.EKARAc.AIKARAc.OKARAd͍cĹd专cŜd.GORAcƃcƌd.LACAcƉd.JERAcƓcŐ.LATIKdʹ专cŔʹ.ALPAPRANAe专cŅ.RAMBATcŐd.TAWAcŔd.MADUcŅcļd.KAPALcŦd.KEMBANGcņcŇcľcńcƊcő.SAGAd.SAPAdcĶbą.REREKANbŋą͍d哜e哟d哠e.ILUTdľ倿f͍dń哞f͍d員e倿e͍e倿͍d哢e͍b偀偀bāȘ且c.KHOT且c.TZIR且c·且cˉ且c偁且c.ASYURA且cʎ哣!1B50bŒŨcĒcĎcėcĝcġcĪcĲcīcķb哤b哥b哦b.CARIK.PAMUNGKAHc.SIKIc.PARERENb.PAMENENGb͎Ġ哧d.DENGd哨d凒e哝d.DINGd.DAENGd.DEUNGd.DAINGd凒.GEDEdǦ.TEGEHe.ENDEPe哩e哪e凓e哩Ā凓e哪Ā凓e.BENDEe.GONG",
  "d.RIGHT-HANDů仒f偂eǷ哫f.TAKd.LEFT-HANDů.PANGf.PUNGeǷ.PLAKf.PLUKeů凔b哤哬b哥哬!1B80a哭ą.PANYECEKc.PANGLAYARc.PANGWISADbāČcĔcċcȆcčcďcρcĹcʆcŜcƃcƌcƉcƿcƓcŐcŔcŅcļcǙcưcŦcņcŇcľcńcƊcőc˱cĶbɣą.PAMINGKALd.PANYAKRAd.PANYIKUbŋą.PANGHULUd.PANYUKUd.PANAELAENGd.PANOLONGd.PAMEPETd.PANEULEUNGbą.PAMAAEHcǚbɣą.PASANGANņeƊbāƘc.SYAbŒŨcĒcĎcėcĝcġcĪcĲcīcķbˑbā.REUc哮cǎcđřdňa.BATAKāČc͵ČcĶc͵Ķc凕ĶcŦc凖Ŧcļc͵ļcŅc凕ŅcƊc͵Ɗc哯ƊcŜc͵ŜcƉcŔcľc͵ľcņc͵ņc哰Őc哱Őcőc͵őc凕őcŇc͵Ňcƃcńc͵ńcƓcƌc仓c佝cĔcċbą.TOMPIbŋąďd哯ďdǕdĔd凖Ĕdčd凖čdċeǬ͵őbɣąʻdşb哲b.PANONGONAN!1BFCbĠ凗Ņ.METEKd.PINARBORASd.JUDULd哲a.LEPCHAāĹc.KLAcƘcŜc.GLAcƃcƌcƑcƉcƓcŐcƠcŔcŅcļc俰cƭcǙc.FLAcŦc.BLAcņc哳cȚcˮc̠cŇcľcńcĶc哴cưcőcƆcƊcČb亼āŇdľbŋąũdĔdčdǀdċdƇdďbɣąřdňdĭdĽdŮdĦdŚd.NYIN-DOd倽bą.RANcɋ!1C3Bbǐ哵c凘.THYOOM哵c哶c.TSHOOK哶dbŒŨcĒcĎcėcĝcġcĪcĲcīcķ!1C4DbāƻcǗcƾa哷.CHIKIŒŨdĒdĎdėdĝdġdĪdĲdīdķcāńdɐd俧d͈dκd佂d.AAKd.AAJd.AAMd.AAWdʩd仍d凙d.INYd偃dɘd偄dʚd哸d哐d˯d偅d.EDDdƽd偆dʗd.OTTd.OBd哹d传cǫ.TTUDDAGc.GAAHLAA哺c.MU-GAAHLAA哺c.RELAAc.PHAARKAAc.AHADcǐ哻dē哻ãĂāΐˉd.LONG-LEGGEDɫd仔čd佞ͨd伷ǲd.THREE-LEGGEDǲd伷Έąeδd.UNBLENDED亣!1C90a似.MTAVRULIĄāȃe俹e乡e俺eƽe俻e伩e俼eƯe人e俽eʀe伽eƚe俾e俿e亿e亡e乢e丂e倀e倁e倂e伾eȗe倃ẻe伿e倄e倅e倆e倇e倈eǘe佀eȾe什e倉eͫe仁e名eű乡eȂ!1CBDe仂eΈąe后ąa哭ǐ凗.SURYAd.PANGLONGd.PURNAMAd哼d哮假dĹ假dŔ假dŦ假!1CD0a伯Ź.KARSHANAc.SHARAc.PRENKHAbą.NIHSHVASAc凚哽ΞbŹ凚.AGGRAVATED丒Ξ",
  "d丒Ξd凛丒ΞcˬĐc凚凛丒Ξ.SCHROEDERcēΞcǈΞc凛伭cĕĐcĎŁĐcėŁĐc.RIGVEDIC厐丒Ξc.ATHARVAVEDIC丒ΞbąǴΞd俫cžǴ俫cǴ伭cžǴ伭cǴ俫Āƫd伭ĀƫcƼ哾d.BAHIRGOMUKHAd.VAMAGOMUKHAeĀƫc.TIRYAKc.HEXIFORMŴƼcŴƼc.RTHANGŴƼcƼ.UBHAYATO.MUKHAc哿cƛ哿bŹˬĉbą亶c亷c.ATIKRAMAbŹœĉcēœĉbąēƼ哾!1D00aƹāĂĄČeȆbĂāűȆbāĂĄ΃ŶeūeŢeϭeďbĂāűůďeĔbāĂĄƀeřeĭĀğeňežĽečeůčbĂāλčeůčečĀğdűǞbāĂĄϱbĂāǖĳčdȈĳčbāĂĄŮežĦeűĦeŚeċbĂāλċe.DIAERESIZEDċeűňbāĂĄśeŷeŬeαc΄.LARYNGEAL.SPIRANTcȂaɈāĂĄɨêeǔeȲeʸãāĂĄɭaȕāĄČdȆdŶd΃ŶdŢdďdžďdŖdşdĔdƀdřdĭdňdĽdžĽdčdϱdŮdĦdŚdċdŷcĂČdűČdȁdűȆdŶdŢdďd΂důďdűůďdŖdűĔdřdňd̻dčdůčdǖĳčdȈĳčdŮdŚdċdλċdűňdśdȂdʏdɈɨdʅdɈɇdɓaƹ乑ĂāĔeĦeċeśaɈ乑ĂāʏeɨeȲeɇeɓaƹĂāɢdŶĀĥŏdŢĀĥŏdƎĀĥŏdňĀĥŏdĽĀĥŏdŮĀĥŏdĦĀĥŏf乇ĆĥŏdħĀĥŏdŚĀĥŏdŬĀĥŏdűŖaȕā̃ƽaƹĂāʬŖd丑Ā.STRIKETHROUGHcĄāĔĀğcāȍĀğdŮĀğcĄāċĀğcāȧĀğdŶĀȠĞdŢĀȠĞdƎĀȠĞdŖĀȠĞdřĀȠĞdĭĀȠĞdňĀȠĞdĽĀȠĞdŮĀȠĞdĦĀȠĞdħĀȠĞdʞĀȠĞdśĀȠĞdųĀȠĞdŬĀȠĞdČĀǓĞdȁĀǓĞdŢĀĞĆƫdďĀǓĞdůďĀǓĞdžůďĀǓĞd΂ĀǓĞdĔĀǓĞdůčĀǓĞdʞĀǓĞdċĀǓĞdαĀǓĞaȕāĂűȁdūeĀɩdϭdžůďdƎd̀ƀĀğdɆŖdűşdĔĀğdȍdĄĔfĀğdƀĀβdĭĀǓĞfȠĞdĄĭdňĀĞdűňĀŴʷdĽĀĊĞfǓĞdĄĽd΃čdɇdħĀĞdʞdŚĀȠĞdċįdȧdĄċdśĀĞdűśdŬeĀǓĞfɩdαdɉaǦǪƏǥcŠǥb偈Đb凜Ėb.MACRON-ACUTEb.GRAVE-MACRONb.MACRON-GRAVEb.ACUTE-MACRONb.GRAVE-ACUTE-GRAVEb.ACUTE-GRAVE-ACUTEbƹĂāĦĐb.BREVE-MACRONb.MACRON-BREVEbēŸĉbˣĉbϵĐb仍Đb乫ĉb偉ĉbƹĂā偊ůČĉeȆe偋e仕eūȟeʬŢeϭeŖcāĂĄŖcĂāřeĭcāĂĄĭfňcĂāĽcāĂĄĽfĦcĂāĦ佟eħeŴħeŬeȁeŶeʏe΂eƎeĭĀēĥŏečĀŌ倾ğeŮeʞeċĀŌ倾ğeŷeČĀƁ",
  "ečĀƁeċĀƁbĩǼĉb他ĉĈdĊbĕĉĊb佞Ɣ亙ĐbĕĐĊb.DELETIONĖbēƔƩĐbˈŉĘĐbĊƈĉbĈƈĆĴƈĐaƹĄāČĀœĐbĂāČĀœĐbĄāŶĀĕĉbĂāŶĀĕĉbĄāŶĀĕĐbĂāŶĀĕĐbĄāŶĀƒĐbĂāŶĀƒĐbĄāūĀȟĆŠbĂāūĀȟĆŠbĄāŢĀĕĉbĂāŢĀĕĉbĄāŢĀĕĐbĂāŢĀĕĐbĄāŢĀƒĐbĂāŢĀƒĐbĄāŢĀȟbĂāŢĀȟbĄāŢĀŸĐbĂāŢĀŸĐbĄāďĀƕĆƏbĂāďĀƕĆƏbĄāďĀƕĆŠbĂāďĀƕĆŠbĄāďĀŸĐbĂāďĀŸĐbĄāďĀŏĐbĂāďĀŏĐbĄāďĀȟĆƩbĂāďĀȟĆƩbĄāƎĀĕĉbĂāƎĀĕĉbĄāŖĀƕbĂāŖĀƕbĄāşĀĕĉbĂāşĀĕĉbĄāşĀĕĐbĂāşĀĕĐbĄāşĀƁbĂāşĀƁbĄāşĀȟbĂāşĀȟbĄāşĀƩĐbĂāşĀƩĐbĄāĔĀŏĐbĂāĔĀŏĐbĄāĔĀƁĆŠbĂāĔĀƁĆŠbĄāřĀŠbĂāřĀŠbĄāřĀĕĐbĂāřĀĕĐbĄāřĀƒĐbĂāřĀƒĐbĄāĭĀĕĐbĂāĭĀĕĐbĄāĭĀĕĐĆƕbĂāĭĀĕĐĆƕbĄāĭĀƒĐbĂāĭĀƒĐbĄāĭĀŸĐbĂāĭĀŸĐbĄāňĀŠbĂāňĀŠbĄāňĀĕĉbĂāňĀĕĉbĄāňĀĕĐbĂāňĀĕĐbĄāĽĀĕĉbĂāĽĀĕĉbĄāĽĀĕĐbĂāĽĀĕĐbĄāĽĀƒĐbĂāĽĀƒĐbĄāĽĀŸĐbĂāĽĀŸĐbĄāčĀŏĆŠbĂāčĀŏĆŠbĄāčĀŏĆƁbĂāčĀŏĆƁbĄāčĀƕĆƏbĂāčĀƕĆƏbĄāčĀƕĆŠbĂāčĀƕĆŠbĄāŮĀŠbĂāŮĀŠbĄāŮĀĕĉbĂāŮĀĕĉbĄāĦĀĕĉbĂāĦĀĕĉbĄāĦĀĕĐbĂāĦĀĕĐbĄāĦĀĕĐĆƕbĂāĦĀĕĐĆƕbĄāĦĀƒĐbĂāĦĀƒĐbĄāħĀĕĉbĂāħĀĕĉbĄāħĀĕĐbĂāħĀĕĐbĄāħĀŠĆĕĉbĂāħĀŠĆĕĉbĄāħĀǉĆĕĉbĂāħĀǉĆĕĉbĄāħĀĕĐĆĕĉbĂāħĀĕĐĆĕĉbĄāŚĀĕĉbĂāŚĀĕĉbĄāŚĀĕĐbĂāŚĀĕĐbĄāŚĀƒĐbĂāŚĀƒĐbĄāŚĀŸĐbĂāŚĀŸĐbĄāċĀƁĐbĂāċĀƁĐbĄāċĀŏĐbĂāċĀŏĐbĄāċĀŸĐbĂāċĀŸĐbĄāċĀŏĆŠbĂāċĀŏĆŠbĄāċĀƕĆƁbĂāċĀƕĆƁbĄāśĀŏbĂāśĀŏbĄāśĀĕĐbĂāśĀĕĐbĄāŷĀƏbĂāŷĀƏbĄāŷĀŠbĂāŷĀŠbĄāŷĀƁbĂāŷĀƁbĄāŷĀĕĉbĂāŷĀĕĉbĄāŷĀĕĐbĂāŷĀĕĐbĄāųĀĕĉbĂāųĀĕĉbĄāųĀƁbĂāųĀƁbĄāŤĀĕĉbĂāŤĀĕĉbĄāŬĀŸbĂāŬĀŸbĄāŬĀĕĐbĂāŬĀĕĐbĄāŬĀƒĐbĂāŬĀƒĐdşĀƒĐdŚĀƁdŷĀœĉdŤĀœĉdČĀĈĳœdŴħĀĕĉgǊğgƂğbĄā亗ħbĂāʅbĄāČĀĕĐbĂāČĀĕĐbĄāČĀĞĉ",
  "bĂāČĀĞĉbĄāČĀŸĆŠbĂāČĀŸĆŠbĄāČĀŸĆƏbĂāČĀŸĆƏbĄāČĀŸĆĞĉbĂāČĀŸĆĞĉbĄāČĀŸĆŏbĂāČĀŸĆŏbĄāČĀŸĆĕĐbĂāČĀŸĆĕĐbĄāČĀƩĆŠbĂāČĀƩĆŠbĄāČĀƩĆƏbĂāČĀƩĆƏbĄāČĀƩĆĞĉbĂāČĀƩĆĞĉbĄāČĀƩĆŏbĂāČĀƩĆŏbĄāČĀƩĆĕĐbĂāČĀƩĆĕĐbĄāďĀĕĐbĂāďĀĕĐbĄāďĀĞĉbĂāďĀĞĉbĄāďĀŏbĂāďĀŏbĄāďĀŸĆŠbĂāďĀŸĆŠbĄāďĀŸĆƏbĂāďĀŸĆƏbĄāďĀŸĆĞĉbĂāďĀŸĆĞĉbĄāďĀŸĆŏbĂāďĀŸĆŏbĄāďĀŸĆĕĐbĂāďĀŸĆĕĐbĄāĔĀĞĉbĂāĔĀĞĉbĄāĔĀĕĐbĂāĔĀĕĐbĄāčĀĕĐbĂāčĀĕĐbĄāčĀĞĉbĂāčĀĞĉbĄāčĀŸĆŠbĂāčĀŸĆŠbĄāčĀŸĆƏbĂāčĀŸĆƏbĄāčĀŸĆĞĉbĂāčĀŸĆĞĉbĄāčĀŸĆŏbĂāčĀŸĆŏbĄāčĀŸĆĕĐbĂāčĀŸĆĕĐbĄāčĀǻĆŠbĂāčĀǻĆŠbĄāčĀǻĆƏbĂāčĀǻĆƏbĄāčĀǻĆĞĉbĂāčĀǻĆĞĉbĄāčĀǻĆŏbĂāčĀǻĆŏbĄāčĀǻĆĕĐbĂāčĀǻĆĕĐbĄāċĀĕĐbĂāċĀĕĐbĄāċĀĞĉbĂāċĀĞĉbĄāċĀǻĆŠbĂāċĀǻĆŠbĄāċĀǻĆƏbĂāċĀǻĆƏbĄāċĀǻĆĞĉbĂāċĀǻĆĞĉbĄāċĀǻĆŏbĂāċĀǻĆŏbĄāċĀǻĆĕĐbĂāċĀǻĆĕĐbĄāŤĀƏbĂāŤĀƏbĄāŤĀĕĐbĂāŤĀĕĐbĄāŤĀĞĉbĂāŤĀĞĉbĄāŤĀŏbĂāŤĀŏbĄā偌ǹbĂā偌ǹbĄā偌śbĂā偌śbĄāŤĀʟbĂāŤĀʟaɈĂāȁĀſfŽfſĆƝfŽĆƝfſĆƞfŽĆƞfſĆǍfŽĆǍbĄāȁĀſfŽfſĆƝfŽĆƝfſĆƞfŽĆƞfſĆǍfŽĆǍbĂāȽĀſfŽfſĆƝfŽĆƝfſĆƞfŽĆƞ!1F18bĄāȽĀſfŽfſĆƝfŽĆƝfſĆƞfŽĆƞ!1F20bĂāɼĀſfŽfſĆƝfŽĆƝfſĆƞfŽĆƞfſĆǍfŽĆǍbĄāɼĀſfŽfſĆƝfŽĆƝfſĆƞfŽĆƞfſĆǍfŽĆǍbĂāȍĀſfŽfſĆƝfŽĆƝfſĆƞfŽĆƞfſĆǍfŽĆǍbĄāȍĀſfŽfſĆƝfŽĆƝfſĆƞfŽĆƞfſĆǍfŽĆǍbĂāʡĀſfŽfſĆƝfŽĆƝfſĆƞfŽĆƞ!1F48bĄāʡĀſfŽfſĆƝfŽĆƝfſĆƞfŽĆƞ!1F50bĂāȧĀſfŽfſĆƝfŽĆƝfſĆƞfŽĆƞfſĆǍfŽĆǍ!1F59bĄāȧĀŽ!1F5BgĆƝ!1F5Dhƞ!1F5FhǍbĂāǨĀſfŽfſĆƝfŽĆƝfſĆƞfŽĆƞfſĆǍfŽĆǍbĄāǨĀſfŽfſĆƝfŽĆƝfſĆƞfŽĆƞfſĆǍfŽĆǍbĂāȁĀƝfƞdȽĀƝfƞdɼĀƝfƞdȍĀƝfƞdʡĀƝfƞdȧĀƝfƞdǨĀƝ",
  "fƞ!1F80dȁĀſĆǩfŽĆǩfſĆƝĆǩfŽĆƝĆǩfſĆƞĆǩfŽĆƞĆǩfſĆǍĆǩfŽĆǍĆǩbĄāȁĀſĆȭfŽĆȭfſĆƝĆȭfŽĆƝĆȭfſĆƞĆȭfŽĆƞĆȭfſĆǍĆȭfŽĆǍĆȭbĂāɼĀſĆǩfŽĆǩfſĆƝĆǩfŽĆƝĆǩfſĆƞĆǩfŽĆƞĆǩfſĆǍĆǩfŽĆǍĆǩbĄāɼĀſĆȭfŽĆȭfſĆƝĆȭfŽĆƝĆȭfſĆƞĆȭfŽĆƞĆȭfſĆǍĆȭfŽĆǍĆȭbĂāǨĀſĆǩfŽĆǩfſĆƝĆǩfŽĆƝĆǩfſĆƞĆǩfŽĆƞĆǩfſĆǍĆǩfŽĆǍĆǩbĄāǨĀſĆȭfŽĆȭfſĆƝĆȭfŽĆƝĆȭfſĆƞĆȭfŽĆƞĆȭfſĆǍĆȭfŽĆǍĆȭbĂāȁĀ仗fƕfƝĆǩfǩfƞĆǩ!1FB6fǍgĆǩbĄāȁĀ仗fƕfƝfƞfȭb儊bȭbſbǍb́ĆǍbĂāɼĀƝĆǩfǩfƞĆǩ!1FC6fǍgĆǩbĄāȽĀƝfƞdɼĀƝfƞfȭbſĆƝdƞdǍbĂāȍĀ仗fƕf́ĆƝhƞ!1FD6fǍf́ĆǍbĄāȍĀ仗fƕfƝfƞ!1FDDbŽĆƝdƞdǍbĂāȧĀ仗fƕf́ĆƝhƞdȲĀſfŽdȧĀǍf́ĆǍbĄāȧĀ仗fƕfƝfƞdȲĀŽb́ĆƝdƞbƝ!1FF2bĂāǨĀƝĆǩfǩfƞĆǩ!1FF6fǍgĆǩbĄāʡĀƝfƞdǨĀƝfƞfȭbƞbŽ!2000aƽ̍aʥ̍aƽɧaʥɧa.THREE-PER-EMɧa.FOUR-PER-EMɧa.SIX-PER-EMɧa偍ɧaǐɧa俩ɧa乮ɧaŨ你ɧc.NON-JOINERc义a佡Ėa偎Ėa̹a.NON-BREAKING̹a偍ǜaƽǜaʥǜaŎįaēĨƒbŝƒaĊƐȔĖaĈƐȔĖaƐ唀ȔĖb唁ȔĖaĊēȔĖaĈēȔĖaē唀ȔĖb唁ȔĖa付aē付a̎aɪ̎aĒĕ凝aĎĕ凝aŎ丁a唂̛aƒɖa伦ɖa佡唃a偎唃a凞唄.FORMATTINGa佡唅a偎唅a仔儀ɧa儡厌ąbŵŃąa̼aē̼aǈ̼až̼bē̼bǈ̼aΗaƐʄƴȔĖbɒƴȔĖa.REFERENCEĖaēȹĖa佢aϴa唆aμ仙aΗ凟̛a.ASTERISMa̹̎aʌ˙aĊĺĸĀ偏aĈĺĸĀ偏aēȞĖaȞȹĖaȹȞĖa唇ą̚až卋ąaęı̎bģ̎aŝǆaž̸a几ĩaĎ.ASTERISKS.ALIGNED乔a众ʠąa.SWUNGǜaƔ唆a佣ǐĖaėĕǐaͶ̼aĝĕǐaġĕǐaĎĕǐaĝĕĖaǪǇa唈aĨĝŁaţ仚ɧa˫义a唉.APPLICATIONa.INVISIBLEĬbɖbİ!2066a佡偐a偎偐aϏ哛偐a凞唄偐a唊唋唌a唍唋唌a唊ʑă唎a唍ʑă唎a唏Œ唐a.NOMINALŒ唐a̘ŨbƹĂāĔ!2074bĝbġbĪbĲbībķbİąbʠbǶąbĊǒbĈǒbƹĂāĽa乑ŨbĒbĎbėbĝbġbĪbĲbībķbİąbʠbǶąbĊǒbĈǒ!2090aƹ乑ĂāČeďečeųe΂eşeřeĭeňeĽeŮeħeŚ!20A0",
  "a.EURO-CURRENCYąaȌąa.CRUZEIROąa唑.FRANCąa唒ąa.MILLąa.NAIRAąa.PESETAąa乗ąa凡ąa余.SHEQELąa哧ąa唓ąa唔ąa.TUGRIKąa凢ąa.GERMAN.PENNYąa唕ąa.GUARANIąa.AUSTRALąa.HRYVNIAąa.CEDIąa.LIVRE.TOURNOISąa.SPESMILOąa.TENGEąa.INDIAN乗ąa.TURKISH唒ąa.NORDICĖąa.MANATąa.RUBLEąa.LARIąa.BITCOINąa唖ą!20D0aǦĊƪĉbĈƪĉbŴĨƒɞbƺĨƒɞbʭćĉb̦ćĉbĊćĉbĈćĉbœɞb̦œɞbʭœɞbėŁĉbĝŁĉb唗ĿcĺcǤcĿ乯bĊĈćĉb唗佤c唘c唙ƗŘbɻɏɞbēĨğɞb.ANNUITYĠbǈ.UNDERDOTb佞亙ĉbıćɞbŴēɏɞbģƪĀŞŕbıƪĀŞŕbĊćĐbĈćĐbǆĉ!2100a唚Ĝa.ADDRESSEDĘǮ.SUBJECTaͷĄūa俅.CELSIUSaƨƒĠa.CAREĜa.CADA.UNAa.EULER唛a.SCRUPLEa俅.FAHRENHEITaɆĂŖbĄşa佥ĄşaͷĄşa.PLANCK唛cłĎǔaɆĄĔa佥ĄĔaɆĄĭbĂĭaĭŶįĠaͷĄĽa.NUMEROąaʾ.RECORDING午aɆĄŮaͷĄŮcƢaɆĄĦa佥ĄĦaͷĄĦa.PRESCRIPTION.TAKEa唜a.SERVICEĖa͏ąa.TRADEĖąa.VERSICLEaͷĄŬa唝ąa偑ąaƔ偑ąa佥ĄŬaűɈĂāȍa.KELVINąa.ANGSTROMąaɆĄŶa佥Ąūa.ESTIMATEDĠaɆĂďbĄďcƎaűĄƎaɆĄňbĂčaŊĠa产ĠaˍĠa俚Ġa凣凤aƛĄƢa.FACSIMILEąaͷĂǔcɨbĄɨcǔb仛偒aűɤĄŖdĭažɤĄĭaűɤĄŤaͷ͸ĄŢcĂŢdďdĔdƀa.PROPERTYƒaűϫa儡ąa.AKTIESELSKABaűĂƎaĠǬ厵凤a儁ʌĒ.SEVENTHd.NINTHd儼ḑcĎϐcĒ儽cĎ凥cė凥cĝ凥cĒ処cġ唞cĒȵcė˵cġ˵cĲ˵aʌ叆Ēa佦΅ĒcĎcėcĝcġcĪcĲcīcķcŵc͐c̏cȅcĒĵcġĵcĒŃaĂ佦΅ĒdĎdėdĝdġdĪdĲdīdķdŵd͐d̏dȅdĒĵdġĵdĒŃa佦΅ĒŃūŢcġŃcŵŃcžĒĵaƹĂāžūa佦΅Ī.LATEăcȅ.EARLYădŃcĒĵŃa儁ʌŨϐaűŒĎcė!2190aıćašćaģćaŕćaĊĈćaĩĴćaǂƱćbƜćaǑƜćbƱćaıćĀğaģćĀğaıɵćaģɵćaıĎ偓ćašĎ偓ćaģĎ偓ćaŕĎ偓ćaıćĀƫaģćĀƫaıćȐįašćȐįaģćȐįaŕćȐįaĩĴćĀ偔aıćĀĞaģćĀĞaıćĀʟaģćĀʟaĊĈɵćcćĀğaŕϵćašćĀ̐ı",
  "eģaŕćĀ̐ıeģaģćĀȊŕaŕćĀȊıaʭǖ佧ća̦ǖ佧ćaǂƱćĘŴįaıćĘįłģćĘįaʭůĿća̦ůĿćaıƪĀŞšeŕašƪĀŞģeıaģƪĀŞšeŕaŕƪĀŞģeıaģćłıćašćıĜŕćaıćłģćb丕˚aš丕˚aģ丕˚aŕ丕˚aıƪłģƪaģƪłıƪaıēćĀğaĊĈēćĀğaģēćĀğaıēćašēćaģēćaŕēćaĊĈēćaĩĴēćaǂƱēćbƜēćaǑƜēćbƱēćaıǈćaģǈćaı偕ćaģ偕ćašćĀēğaŕćĀēğaı̨ćaš̨ćaģ̨ćaŕ̨ćaıćĘįaģćĘįaıěćašěćaģěćaŕěćašěćȐįdƚ唟fĀŎįgĨįcēćeƚ唟aģěćȐ͹aǂƱćĘȊaǑƜćĘȊaĩĴěćaĈćĀĂĿaŕćıĜšćaėģ˚aıćĀĨğaģćĀĨğaĊĈćĀĨğaıćĀēĨğaģćĀēĨğaĊĈćĀēĨğaı凧ćaģ凧ćaĊĈ凧ćaǬ佨a.COMPLEMENTa仜仝a.THERE.EXISTSbΟƣ.EXISTa乓仞a.INCREMENTa仟aΠĜaƣȃΠĜaĂΠĜa世̈偖aΟƣ凨̈偖aĂ世̈偖aȖĜ.PROOFa仛̩b唠b偒aʠąa.MINUS-OR-PLUSąaĕİaϯ˙a仞ʠaǆǏaœǏa̎Ǐaĺ伡a儠伡a俜伡a.PROPORTIONALĘa仐aĈƴaƴa佩ƴa唡ƴa.DIVIDESaΟƣ凩a丗Ęaƣ丗Ęa̪ĆbŰaʿaˀaʛaēʛaǈʛa凪ʛa唢ʛa.VOLUMEʛa̦ʛb凪ʛaʭ凪ʛa.THEREFOREa.BECAUSEa.RATIOa唣aĕʠa.EXCESSa.GEOMETRIC唣a卟aŏǏažŏaƔ凫ħa.SINEɵa.WREATH̩aƣŏaʠŏa唤ŉĘaƣ唤ŉĘa佪ŉĘbΡƣ唥ŉĘa佫佪Ͱ唥ŉĘaˈŉĘaƣˈŉĘaˈŉŰŉĘaǈŏa佨ŉĘa˶Ęa唦˶Ęa.DIFFERENCEˁa.APPROACHESǮ.LIMITa唦ŉĘa佪ŉĘŰǮϑĜaϑĜŰ佪ŉĘaȌǶaǶȌaœƯŉĘbŉĘa.CORRESPONDSĘa.ESTIMATESa.EQUIANGULARĘaƥǶaʅŉĘaŉĘ̺.DEFINITIONa佩̺a.QUESTIONEDŉĘaƣŉĘa偗Ęaƣ偗Ęa.STRICTLY˶ĘaơŰŉĘaƤŰŉĘaơłŉĘaƤłŉĘaơΡƣŉĘaƤΡƣŉĘa凬ơbƤaˁaƣ˶ĘbơbƤa佫ơͰŉĘbƤͰŉĘaơŰ˶ĘaƤŰ˶Ęa佫ơͰ˶ĘbƤͰ˶ĘaơŰƤaƤŰơa佫ơͰƤbƤͰơa̫a̬a̫ŰŉĘa̬ŰŉĘa̫Ű˶Ęa̬Ű˶ĘaΟƣ唧c唨aɂĜaɚĜaƣČɂĜcɚĜaɂĜŰŉĘaɚĜŰŉĘa佫ČɂĜͰŉĘcɚĜͰŉĘaɂĜĀƣŉĘaɚĜĀƣŉĘa.MULTISETbͤbˀaĺϑĜb佬ĜbϑĜŰŉĘb佬ĜŰŉĘb偘b佭aƲİbʠbĬbϯ˙bĕǏbœǏbǆǏbǶbǜaǺİbʠbĬbĕǏaĈǼaĊǼaĴǼaĩǼ",
  "a.ASSERTIONa.MODELSa凭a.FORCESaǈĨįĈ丘aēĨįēĈ丘aΟƣ.PROVEaƣ凭aΟƣ.FORCEa唩ēĨįēĈ丘a̫ϒ偙a̬ϒ偙a΢丙Ĝa世̈΢丙a΢丙ĜŰŉĘa世̈΢丙ŰŉĘa佬ĜaϑĜa凮a.HERMITIAN.CONJUGATE.MATRIXa.INTERCALATEa.XORa.NANDaͰaĈƴĀ˛bŘa仛̪ĆcŰbʿbˀaǤǏaĕǏaƥǏaϯĬa凯aĊ΢凰佮̩aĈ΢凰佮̩aĊ佮̩aĈ佮̩ažŏǶaȺ̪ŰcĆaēɂbɚbʿbˀa唪aŉĆ丗ĘaơĀĕaƤĀĕaȮ凬ơcƤaơŉĘŰƤaƤŉĘŰơaŉĘŰơdƤd̫d̬aΟƣ唧Űŉc唨ŰŉaƣĺϑĜŰŉĘc佬ĜŰŉĘaĺϑĜŰƣŉĘb佬ĜŰƣŉĘaơΡƣ˶ĘaƤΡƣ˶Ęa̫Ρƣ˶Ęa̬Ρƣ˶Ęaƣ΢丙ĜaΟƣ凨̈΢丙aƣ΢丙ĜŰŉĘaΟƣ凨̈΢丙ŰŉaĨ丁a哽Ŏ丁aĩĈǊ丁aĴĈǊ丁aΠĜĀŴŎğdĨįɐȖĜŎğaĂΠĜĀĨįɐȖĜŎğaΠĜĀĕĉḓaĂΠĜĀ̭aΠĜĀɎdĎŎ冟a世ĀŴŎğcĨįɐȖĜŎğaĂ世ĀĨįɐȖĜŎğa世Ā̭aĂ世Ā̭aŬ业做.MEMBERSHIPa.DIAMETERąa偛ća佯aĩƈaĴƈa.PROJECTIVEa.PERSPECTIVEaΏƒaĊϓaĈϓaĊΣaĈΣaȈĈ停bĊ停aǖĈ停bĊ停ažƣąaĺ̮a˛a凱a.SECTORa͏.RECORDERa偝Ϭa.VIEWDATAĺa乒Ĝ.INTERESTąaűƣąa唫a偞aǖĊȊbĈȊaȈĊȊbĈȊaǖĳʛaȈĳʛa唬a凲aĩƈˁĎŎ偟a.OPTIONϔa唭ĘǮĈaųƯČ买ȷa佰aʄƴĸaɒƴĸa唭ĘǮĊa售œa.CYLINDRICITYa佨.AROUND-PROFILEa.SYMMETRYa唯.RUNOUTa.DIMENSION.ORIGINa.CONICAL.TAPERa.SLOPEa.COUNTERBOREa.COUNTERSINKa唰唱Ġ.I-BEAMd.SQUISH̍d̍ŉe凩eǤe丛eĿdĿ仠e丛d˙įd乯įd̍˙e乯eơeƤdı偠dģ偠d̍ıćeģćdĿ乯dĴǼɎdʅ仠d̍ĴΗeʅdĴǼ丛dš偠d̍šćdĩǼ̭d偡仠d̍ĩΗe偡dĩǼ丛dŕ偠d̍ŕćd唲ɎdʅɎdǤɎd丛ɎdĿɎdĩ乱丛d唲̍dĿƥd̍ȌdĩǼƁd偡ƁdƥƁd丛ƁdĿƁdĴ乱仠dĊ乱仠dŏƁdƤƁdƟįd偡ŏd.ZILDEd仠ŏd̸Ɏd̍ƣŉeȞdĴΗŏdĩΗŏdȍdȲdǨdȁɎdȽɎdȍɎdǨɎdȁaƣ͑ĖaĈƴĀŕϵća.SHOULDEREDůȷa仡ĠaĨƒĀĥĕa凟Ġa.CONTINUOUS唳Ġa.DISCONTINUOUS唳Ġa卼Ġa凳ĠaěĺĀƨĨƒa唴Ġa凴ϔĠa.HELMĠaƲŎįĀ唵bŘĴa亖ĿĀ.NORTHWESTća.UNDOĠa.MONOSTABLEĠa.HYSTERESISĠ",
  "a.OPEN-CIRCUIT-OUTPUT.H-TYPEĠb.L-TYPEĠa.PASSIVE-PULL-DOWN-OUTPUTĠa.PASSIVE-PULL-UP-OUTPUTĠa凵凶ĠăĎa.SOFTWARE-FUNCTIONĠa唰唱Ġ̍a儤ɖϔĠa.PREVIOUSϕa.NEXTϕa唶佤Ġa.CLEAR佤ĠaĊǒŭĞc东cŗĞaĈǒŭĞc东cŗĞaĊĺĸŭȊd东dŗȊaĈĺĸŭȊd东dŗȊaĊȺĸŭĞdĥ丝dŗĞaȺĸ东aĈȺĸŭĞdĥ丝dŗĞaʛ东aŎƒ东aŭĊŰŗĈȺĸɑbĈŰŗĊȺĸɑa偒ǖbȈaǖĺĸaȈĺĸdłǖĺĸa偢ĠȈaĊĨȷƒaĈĨȷƒaŎ.SCAN.LINE-1c.LINE-3c.LINE-7c.LINE-9a.DENTISTRYĠŌĨĆǖĈfȈĈeĀĿdĴĆŎĀĿdĩĆŎĀĿdĨĀŘdĴĆŎĀŘdĩĆŎĀŘdĨĆɵdĴĆŎĀɵdĩĆŎĀɵdĴĆŎdĩĆŎdĨĆǖĊfȈĊaĺ偣a偤Ġa.EJECTĠaĨƒ东a.METRICALƩbŴłƺbƺłŴbŴłĎ凷bĎ凷łŴd佱b唷b唸b唹ȃ唺a.FUSEaǖǒaȈǒaǖȺĸaȈȺĸaǖʮɛĸaȈʮɛĸaě.TRAPEZIUMa售œĀĿa.STRAIGHTNESSa.FLATNESSa债凶a.ELECTRICALʿa儤.EXPONENTĠaęɒēŘbʄēŘb̒ēŘb͒ēŘbɒēŘĀĨįbʄēŘĀĨįbɒŘĀēĨįa.ALARM健a.STOPWATCHa.TIMER健a偞Ā.FLOWING.SANDaęţʄŘcɒŘc̒Řc͒ŘaēĨįaęĺǬƅbĿǬ唻a凸Ġb.ON-OFFĠbƚĠb.SLEEPĠa.OBSERVERϖĠaĠǬ唼c俢Ĝ.HEADINGeϾcȖĜϾe唽c.ENQUIRYc唾c仡c.BACKSPACEcŎ唿cƒ凹cĨ唿că凹c.CARRIAGE偤c.SHIFT˷dƯc.DATA啀啁c.DEVICE出ĒeĎeėeĝc˸唾c.SYNCHRONOUS.IDLEcȖĜ唽Ƨc啂cȖĜţc啃c啁c佲ɖc啄ɖc唻ɖc偦ɖcɧc啅a商ĠaůȷaĠǬ啇c啅ăĎc啃ăĎ!2440a.OCRĞb啈b偧bƔ偧bͦ.BUCKLEb仢仙b击凼啉b.AMOUNTĜ͑bǜb.CUSTOMER唚ƙbē乯!2460aƲŒĒcĎcėcĝcġcĪcĲcīcķbƙŵc͐c̏c丞c丟cͺcΓc丠cϗc両cǛa偨ŒĒcĎcėcĝcġcĪcĲcīcķbƙŵc͐c̏c丞c丟cͺcΓc丠cϗc両cǛaŒĒƸƅbĎƸƅbėƸƅbĝƸƅbġƸƅbĪƸƅbĲƸƅbīƸƅbķƸƅaƙŵƸƅb͐Ƹƅb̏Ƹƅb丞Ƹƅb丟ƸƅbͺƸƅbΓƸƅb丠ƸƅbϗƸƅb両ƸƅbǛƸƅa偨ƹĂāČeŶeūeŢeďeƎeŖeşeĔeƀeřeĭeňeĽečeŮeƢeĦeħeŚeċeśeŷeųeŤeŬaƲƹĄāČeŶeūeŢeďeƎeŖeşeĔeƀeřeĭeňeĽ",
  "ečeŮeƢeĦeħeŚeċeśeŷeųeŤeŬcĂāČeŶeūeŢeďeƎeŖeşeĔeƀeřeĭeňeĽečeŮeƢeĦeħeŚeċeśeŷeųeŤeŬbŒŨa˸Ʋƙ͐d̏d丞d丟dͺdΓd丠dϗd両dǛaēƲŒĒdĎdėdĝdġdĪdĲdīdķcƙŵa˸ƲŒŨaȷ啊ŌŎcĤŎcŌĨcĤĨcŌǈǜŎcĤǈǜŎcŌǈǜĨcĤǈǜĨcŌͶǜŎcĤͶǜŎcŌͶǜĨcĤͶǜĨcŌĴĆĈcĴŌĆĈĤdĤĆĈŌcĤĴĆĈcŌĴĆĊcĴŌĆĊĤdĤĆĊŌcĤĴĆĊcŌĩĆĈcĩŌĆĈĤdĤĆĈŌcĤĩĆĈcŌĩĆĊcĩŌĆĊĤdĤĆĊŌcĤĩĆĊcŌĨĆĈcĨŌĆĈĤcĩĤĆĈĴŌcĴĤĆĈĩŌcĨĤĆĈŌcĴŌĆĈĩĤcĩŌĆĈĴĤcĤĨĆĈcŌĨĆĊcĨŌĆĊĤcĩĤĆĊĴŌcĴĤĆĊĩŌcĨĤĆĊŌcĴŌĆĊĩĤcĩŌĆĊĴĤcĤĨĆĊcŌĴĆŎcĊĤĆĈĴŌcĈĤĆĊĴŌcĴŌĆŎĤdĤĆŎŌcĈŌĆĊĴĤcĊŌĆĈĴĤcĤĴĆŎcŌĩĆŎcĊĤĆĈĩŌcĈĤĆĊĩŌcĩŌĆŎĤdĤĆŎŌcĈŌĆĊĩĤcĊŌĆĈĩĤcĤĩĆŎcŌĨĆŎcĊĤĆĈĨŌcĈĤĆĊĨŌcĨŌĆŎĤcĩĤĆĴŎŌcĴĤĆĩŎŌcĨĤĆŎŌcĊĩĤĆĈĴŌcĈĩĤĆĊĴŌcĊĴĤĆĈĩŌcĈĴĤĆĊĩŌcĴŌĆĩŎĤcĩŌĆĴŎĤcĈŌĆĊĨĤcĊŌĆĈĨĤcĤĨĆŎcŌēǜŎcĤēǜŎcŌēǜĨcĤēǜĨcēŎdĨcĴƐĆĈēdēĆĈƐcēĴĆĈcĴƐĆĊēdēĆĊƐcēĴĆĊcĩƐĆĈēdēĆĈƐcēĩĆĈcĩƐĆĊēdēĆĊƐcēĩĆĊcĨƐĆĈēdēĆĈƐcēĨĆĈcĨƐĆĊēdēĆĊƐcēĨĆĊcĴƐĆŎēdēĆŎƐcēĴĆŎcĩƐĆŎēdēĆŎƐcēĩĆŎcĨƐĆŎēdēĆŎƐcēĨĆŎcŌ˛ĴĆĈgĊeĩĆĊgĈdǊŭĈĘŗĊfĊĘŗĈeǇdĊdĩdĈdĴcĤĊdĩdĈdĴcŌĊĆĤĈdĩĆĤĴcĤĊĆŌĈdĩĆŌĴaŭĳƧaŗĒȵƧcǿƧbė˵ƧbĳƧbġ˵ƧbėˢƧbĲ˵ƧaƸƧaĊĲ˵ƧbėˢƧbġ˵ƧbĳƧbė˵ƧbĒǿƧcȵƧaĈĳƧaŌ˹aţ˹a啋˹aŭĒȵƧaĈĒȵƧa˺ŗĊcĈbŭĊdĆŗĊĆŗĈfĈeŭĈĆŗĊiĈcĈdĆŗĊgĆŗĈaęĺaěĺcĀΐ代c乲ęĂĺaĺĀŎ̓cĨ̓c.ORTHOGONAL啌̓cŭĊĘŗĈ̓dĈĘŗĊ̓cǊ啌̓aęĂĺaěĂĺaę买aě买aęĨ买aěĨ买aę啍aě啍aę̒Řaě̒Řaę̒ĂŘaě̒ĂŘaęɒŘaěɒŘaęɒĂŘaěɒĂŘaęɒ佳aěɒ佳aę͒Řaě͒Řaę͒ĂŘaě͒ĂŘaęʄŘaěʄŘaęʄĂŘaěʄĂŘaęʄ佳aěʄ佳aęǤaěǤc乲ęĂǤa.FISHEYEa̮aěĿaǪĿaĿĀĨ̓a.BULLSEYEaęĿaĿĀĊĳęcĈĳęcŗĳęcŭĳędĈ˺ęc佨ΡŭĊ˺ęaĊĳęĿaĈĳęĿaΤ̎běĿ",
  "aŭĳΤěĿaŗĳΤěĿaŭĊ˺伱˛bĈ˺伱˛aŗĈ˺伱˛bĊ˺伱˛aŭĳĿaŗĳĿaęŗĈŘcĊŘbŭĊŘcĈŘaě̎aĺĀĊĳęcĈĳęcŭĊǊĳęcŗĈǊĳęaěĺĀĨ.BISECTINGƒb̒ŘĀĕa̒ŘĀĊĳędĈĳęaƍĿaěĺĀŭĊ˺dŗĊ˺eĈ˺dŭĈ˺bĿĀŭĊ˺dŗĊ˺eĈ˺dŭĈ˺aŭĊŘbĈŘaŗĊŘaěţĺaęţĺaěţĂĺaęţĂĺaŗĈŘaęͻĀ令a以a佴a函a.COMETaęƥaěƥa偩a.THUNDERSTORMaͻa啎問a儭問a.CONJUNCTIONa凾aę͏aě͏a乳ȷcĀ͑dųaͼa佴Ā乴.DROPSa併啐aě偪丝aę偪丝a.SHAMROCKažƛ凿Ȥ̎aęĊƗōbĈƗōaěĊƗōbĩƗōbĈƗōbĴƗōa刀Ć啑a.CAUTIONąa.RADIOACTIVEąa.BIOHAZARDąa啒a.ANKHa.ORTHODOXǇaɓȲaǇĜ.LORRAINEc.JERUSALEMaƥĆ仦a乏Ġa.ADI.SHAKTIa偫Ć.SICKLEa刁Ġaγ̽a.TRIGRAMǬ偬c啓cͽc刂c;c̯c丢c̑a偭Ĝ.DHARMAaě偮Ļb˂Ļaę˂ĻaěͻĀ令aϏǿɃa刃ǿɃa啔a仧ąȃa丣ąa.JUPITERa.SATURNa啕a啖a啗a.ARIESa.TAURUSa.GEMINIa.CANCERa.LEOa.VIRGOa.LIBRAa.SCORPIUSa.SAGITTARIUSa.CAPRICORNa.AQUARIUSa.PISCESaěȋʯc˜c͓c͔cȯc͕aęȋʯc˜c͓c͔cȯc͕b啘ϘaěȤϘbǤϘaę刄Ϙaě啘ϘaęȤϘbǤϘaě刄Ϙa併.SPRINGSaǿʋaȵʋa啙ȵ佶b亴佶a厮仨ąb啚ąb亗ąaƱ俣ǇaƜ俣Ǉa啛刅Ġa刅ĠǬ.TYPE-1乵d.TYPE-2乵d啜乵d啝乵d啞乵d啟乵d.TYPE-7乵d.GENERIC.MATERIALSaę啛刅Ġa.RECYCLED偯Ġa.PARTIALLY-RECYCLED偯Ġa.PERMANENT偯ąa分Ġa切.FACE-1b.FACE-2b.FACE-3b.FACE-4b.FACE-5b.FACE-6aěĿĀĕĈdĎŁaęĿĀěĕĈdĎěŁa仩Ǭ̽cγa啠Ǭ啡̽c.LESSERγd̽c啡γaě͖aę͖a偫Ć啢a啣a̰.SWORDSa两Ĝ.AESCULAPIUSa.SCALESa啤a佣a啥a两Ĝ.HERMESa.ATOMĠa.FLEUR-DE-LISa乶ěƥaė啦.CONVERGINGĈdĊa.WARNINGąaƂ.VOLTAGEąa俪仧ąb丣ąa.INTERLOCKED仧Ć丣ąa丣Ć仧ąbĀğądĆ丣Ć仧ąaĨ丣ĀğąaŎ丣ĀğąaţěĿbęĿbĂěĿa.MARRIAGEĠa.DIVORCEĠa.UNMARRIED啧Ġa.COFFINa.FUNERAL.URN",
  "a.NEUTERa.CERESa.PALLASa.JUNOa.VESTAa.CHIRONaęɃ.LILITHa.SEXTILEa.SEMISEXTILEa.QUINCUNXa.SESQUIQUADRATEa.SOCCER͗a.BASEBALLaǺϔaě啨ʀcʯaę啨ʀcʯa函佷刈aͻ啩以a乴aę函a刂以Ć乴aűě偪丝bę偪丝aěǤƯĺaȑ啪a.DISABLED严a.OPHIUCHUSa啢a严.SLIDINGa偰ĀěǇaƲȑ啪a.CHAINSaǡ刉aɥ.ONE-WAYĊ佗佸aę啫Ċ佗佸aě啫Ċ佗佸aęĊ啬啭aěĊ啬啭a啮啯ąaĤě͒ŘaĊǷ刉aǺͼa乷ǊƯěĿƯęĺaę刊a.RESTRICTEDĊ.ENTRY-1c.ENTRY-2a.ASTRONOMICALĠǬ啕aĤĿĀğĆĎŁĉa偱a.RIGHT-HANDED啰偱a.LEFT-HANDED啰偱aƔ偱aęǇƚ刋a.SHINTO.SHRINEa啱a刌a.HISTORIC.SITEa啥佷.HUBbĀ.HANDLESa佹ĠǬ.LIGHTHOUSEa丢a佴ƚ唺a啲a͖Ư啳a.FERRYa.SAILBOATaĺĝ代a.SKIERa並啴a˝Ā͗a刍a乸凼Ġa啵.GRAVEYARDĠa.FUEL.PUMPa佭ƚęĺaě͖ĀŎĥę.STRIPEaę刎仪aŭ啶仪aę仪aŗ啶仪aě仪bĤ͑Ėa͏刏ąa啷啮a乹aϙaȻ刐bȒa啸Ȓa啹ȒaŗĈ偲a偲aŭĈ偲aě啺aę啺a͑ĖaĤ͑ĖaͤųaĤͤųa乳ųaĤ乳ųa乶ɈǇaĤɈǇaůƨǇaĤůƨǇaƹǇa̱ěƹǇa乶ƹǇa.MALTESEǇaƥĜ.DAVIDaĝ乺ǆb刑ǆaĤĝ刑ǆaĝ.CLUB-SPOKEDǆaęĝǸƥaěĝǸƥa.SPARKLESa儵乶ěƥaƲěƥaůƨęƥaęƨěƥa乶ęƥaĤ乶ęƥaϚƥa̱ěƥaĤǆaůƨǆaīʰǆbǸęƥcϚƥaĪǸęƥaīǸ啻ęƥaĤīǸ啻ęƥȁǸęƥaΓǸǆa乺ǆaůƨ乺ǆaĤ乺ǆaĪ啼ęĆě偳aę偳aě偳aī啼乶ę偳aƲůƨīǸƥaĤ乺Ϛǆa划a刓.TRIFOLIATE划aĤ啽划a啾aĤ啾a刑ǆaī乺啿ǆaĤī乺啿ǆaǇĖa̱ěĿa˸ǺǇĖaŗĈ喀ěĺaŭĈ喀ěĺaŗĈ̱ěĺaŭĈ̱ěĺaęȞĖƵaěȞĖƵbȹĖƵaęǤʠěųaĤȹĖĠaŌĨįaţĨįaĤĨįbƐűƟȔĖƵcƟȔĖƵbēűƟȔĖƵcƟȔĖƵbŝƐƟȔĖƵcēƟȔĖƵaͿϛ伦ąƵaĤȹĖƵbȤȹĖƵbęȤaƛĤęȤ̎a凿Ȥaƛ凿Ȥ̎aţĊǒƵbĈǒƵb偊ĊǒƵcĈǒƵbʄƴĸƵbɒƴĸƵaĤʄƴȔĖƵbɒƴȔĖƵbʄƴĸƵbɒƴĸƵaŌĊʮɛĸƵbĈʮɛĸƵaţĊȺĸƵbĈȺĸƵa喁˸ƲŒĒeĎeėeĝeġeĪeĲeīeķdƙŵbƲɤŒĒeĎeėeĝeġeĪeĲeīeķdƙŵb˸ƲɤŒĒfĎfėfĝfġfĪfĲfīfķeƙŵaĤ喂ģćbİąbʠąbϯąbǑƜćbģć",
  "bǂƜća.DRAFTING̛ģćaĤ.ROUND-TIPPEDģćaƋģćaĤƋģćąƋģćaĤ̨Ƌģćaęģća喃刔ģƈb.BOTTOM-LIGHTEDģƈaęģƈaĤęͿŕĆģćdšĆģća卖ęģćaĤ.CONCAVE-POINTEDęģća刕ěģća刖ěģća列̱ěģća刘̱ěģćaĤŗ側ěģćbŭ側ěģćaϜŗ側ěģćaȺʟaϜŭ側ěģćaƲĤěģća.WHITE-FEATHEREDģća善ǑƜćbģćbǂƜćaĤ善ǑƜćcģćcǂƜća.TEARDROP-BARBEDģćaĤ.TEARDROP-SHANKEDģća喅ģćaĤ喅ģća.OPEN-OUTLINEDģćaēȺʟaė.DIMENSIONALƴaěŘ乲ĂěŘa则aůɂbɚaĊ喆做俲aĈ喆做俲aŰĀĕʖaɻɏ喇ɂaɚ喇ɏaĨįĀŎğa仚̞ǊaŴϯa仚乷ǊaǺ̪ĆcŰaěǤĀϲĕaĆĀĕaΠĜ佺šaŗĈȊĀĕaŭĊȊĀĕaĊ刚偵aĈ刚偵aƸ刚偵aƍĩǼbĴǼaĊĆĈē丘dǼb凮aŴĈǼbĊǼaĩǼĀĿĉa̮创̺Ŏ.RULEaě.CONCAVE-SIDEDǤdĀıΉeģΉbĺĀıΉdģΉa仚ĊěĺĸbĈěĺĸbĊƴĸbĈƴĸbĊēƴĸbĈēƴĸbĊěʮɛĸbĈěʮɛĸbĊ偊ǒbĈ偊ǒašͶćaŕͶćaʭ喈Ŀća̦喈ĿćaĈćĀƲİaŴıćbģćbĊĈćbıēćbģēćbĊĈēćbıćȐįbģćȐįbıēćȐįbģēćȐįc偕ća.BRAILLE喉商c.DOTS-1c.DOTS-2c.DOTS-12c.DOTS-3c.DOTS-13c.DOTS-23c.DOTS-123c.DOTS-4c.DOTS-14c.DOTS-24c.DOTS-124c.DOTS-34c.DOTS-134c.DOTS-234c.DOTS-1234c.DOTS-5c.DOTS-15c.DOTS-25c.DOTS-125c.DOTS-35c.DOTS-135c.DOTS-235c.DOTS-1235c.DOTS-45c.DOTS-145c.DOTS-245c.DOTS-1245c.DOTS-345c.DOTS-1345c.DOTS-2345c.DOTS-12345c.DOTS-6c.DOTS-16c.DOTS-26c.DOTS-126c.DOTS-36c.DOTS-136c.DOTS-236c.DOTS-1236c.DOTS-46c.DOTS-146c.DOTS-246c.DOTS-1246c.DOTS-346c.DOTS-1346c.DOTS-2346c.DOTS-12346c.DOTS-56c.DOTS-156c.DOTS-256c.DOTS-1256c.DOTS-356c.DOTS-1356c.DOTS-2356c.DOTS-12356c.DOTS-456c.DOTS-1456c.DOTS-2456",
  "c.DOTS-12456c.DOTS-3456c.DOTS-13456c.DOTS-23456c.DOTS-123456c.DOTS-7c.DOTS-17c.DOTS-27c.DOTS-127c.DOTS-37c.DOTS-137c.DOTS-237c.DOTS-1237c.DOTS-47c.DOTS-147c.DOTS-247c.DOTS-1247c.DOTS-347c.DOTS-1347c.DOTS-2347c.DOTS-12347c.DOTS-57c.DOTS-157c.DOTS-257c.DOTS-1257c.DOTS-357c.DOTS-1357c.DOTS-2357c.DOTS-12357c.DOTS-457c.DOTS-1457c.DOTS-2457c.DOTS-12457c.DOTS-3457c.DOTS-13457c.DOTS-23457c.DOTS-123457c.DOTS-67c.DOTS-167c.DOTS-267c.DOTS-1267c.DOTS-367c.DOTS-1367c.DOTS-2367c.DOTS-12367c.DOTS-467c.DOTS-1467c.DOTS-2467c.DOTS-12467c.DOTS-3467c.DOTS-13467c.DOTS-23467c.DOTS-123467c.DOTS-567c.DOTS-1567c.DOTS-2567c.DOTS-12567c.DOTS-3567c.DOTS-13567c.DOTS-23567c.DOTS-123567c.DOTS-4567c.DOTS-14567c.DOTS-24567c.DOTS-124567c.DOTS-34567c.DOTS-134567c.DOTS-234567c.DOTS-1234567c.DOTS-8c.DOTS-18c.DOTS-28c.DOTS-128c.DOTS-38c.DOTS-138c.DOTS-238c.DOTS-1238c.DOTS-48c.DOTS-148c.DOTS-248c.DOTS-1248c.DOTS-348c.DOTS-1348c.DOTS-2348c.DOTS-12348c.DOTS-58c.DOTS-158c.DOTS-258c.DOTS-1258c.DOTS-358c.DOTS-1358c.DOTS-2358c.DOTS-12358c.DOTS-458c.DOTS-1458c.DOTS-2458c.DOTS-12458c.DOTS-3458c.DOTS-13458c.DOTS-23458c.DOTS-123458c.DOTS-68c.DOTS-168c.DOTS-268c.DOTS-1268c.DOTS-368c.DOTS-1368c.DOTS-2368c.DOTS-12368c.DOTS-468",
  "c.DOTS-1468c.DOTS-2468c.DOTS-12468c.DOTS-3468c.DOTS-13468c.DOTS-23468c.DOTS-123468c.DOTS-568c.DOTS-1568c.DOTS-2568c.DOTS-12568c.DOTS-3568c.DOTS-13568c.DOTS-23568c.DOTS-123568c.DOTS-4568c.DOTS-14568c.DOTS-24568c.DOTS-124568c.DOTS-34568c.DOTS-134568c.DOTS-234568c.DOTS-1234568c.DOTS-78c.DOTS-178c.DOTS-278c.DOTS-1278c.DOTS-378c.DOTS-1378c.DOTS-2378c.DOTS-12378c.DOTS-478c.DOTS-1478c.DOTS-2478c.DOTS-12478c.DOTS-3478c.DOTS-13478c.DOTS-23478c.DOTS-123478c.DOTS-578c.DOTS-1578c.DOTS-2578c.DOTS-12578c.DOTS-3578c.DOTS-13578c.DOTS-23578c.DOTS-123578c.DOTS-4578c.DOTS-14578c.DOTS-24578c.DOTS-124578c.DOTS-34578c.DOTS-134578c.DOTS-234578c.DOTS-1234578c.DOTS-678c.DOTS-1678c.DOTS-2678c.DOTS-12678c.DOTS-3678c.DOTS-13678c.DOTS-23678c.DOTS-123678c.DOTS-4678c.DOTS-14678c.DOTS-24678c.DOTS-124678c.DOTS-34678c.DOTS-134678c.DOTS-234678c.DOTS-1234678c.DOTS-5678c.DOTS-15678c.DOTS-25678c.DOTS-125678c.DOTS-35678c.DOTS-135678c.DOTS-235678c.DOTS-1235678c.DOTS-45678c.DOTS-145678c.DOTS-245678c.DOTS-1245678c.DOTS-345678c.DOTS-1345678c.DOTS-2345678c.DOTS-12345678aģ΀ćĀĨğeēĨğaıēćĀĨğaģēćĀĨğaĊĈēćĀĨğaģ΀ćȐįaıēćȐįaģēćȐįaŕćĀŎğašćĀŎğbǈćaŕǈćaıēǜćaģēǜćaıǈǜćaģǈǜćb΀ǈǜćbćĀǪϛašćĘįaŕćĘįaģćĀƫĀĨğfēĨğb΀ćĀƫfĀĨğgēĨğaı偶aģ偶aıē偶aģē偶aıćĘęǤ",
  "aģćĘęǤaıćȐįĘęǤaģćȐįĘęǤaǂƱĆǑƜćbƜĆǑƱćbƱćĀĞbƜćĀĞaǑƜćĀĞbƱćĀĞaǂƱćĆǂƜćbƜćĆǑƜćaǑƜćĆǑƱćbƱćĆǂƱća̞Ǌȑ乷Ǌa乷Ǌȑ̞ǊaǑƜćȑǂƜćaǂƜćȑǑƜća乷ǊȑǂƜća̞ǊȑǑƜćaǂƜćȑǂƱćbƱćȑǂƜćaɵćƗ喊ĈaćƗģ乻刜šfŕcŕ乻刜ıfģa.RIGHT-SIDE˛̦ća.LEFT-SIDE˛ʭćaǖ˛ʭćaȈ˛ʭćaǖ˛̦ćĀʠcʭćĀİaŗĈ初̦ćbĊ初ʭćaʭǷĿća̦ǷĿćaģćĉƺıćaıćĉƺģćaƺģćĉıćaģćĀİĐaıćĀİĐaģć̔ųaĊĈć̔ĂĿaš΀ćȐĂĿaĊŞĩĈŞĴƪcĴĈŞĩƪaĩŞĈĴŞĊƪcĊĴŞĈƪaĊŞĩĈŞĩƪaĩŞĈĴŞĈƪaĊŞĴĈŞĴƪaĩŞĊĴŞĊƪaıƪĀŞĩĘįaģƪĀŞĩĘįašƪĀŞĈĘįaŕƪĀŞĈĘįaıƪĀŞĴĘįaģƪĀŞĴĘįašƪĀŞĊĘįaŕƪĀŞĊĘįaıƪĀŞĩȐįaģƪĀŞĩȐįašƪĀŞĈȐįaŕƪĀŞĈȐįaıƪĀŞĴȐįaģƪĀŞĴȐįašƪĀŞĊȐįaŕƪĀŞĊȐįaıƪĀŞĩĉıƪĀŞĴašƪĀŞĊΥšƪĀŞĈaģƪĀŞĩĉģƪĀŞĴaŕƪĀŞĊΥŕƪĀŞĈaıƪĀŞĩĉģƪĀŞĩeĴĉģƪĀŞĴaģƪĀŞĩĉıƪĀŞĩeĴĉıƪĀŞĴaıƪĀŞĩĉŴǜeĴĐŴǜaģƪĀŞĩĉŴǜeĴĐŴǜašƪĀŞĊΥŕƪĀŞĈaŕƪĀŞĊΥšƪĀŞĈaĈēćĀΐʕaǶąĉģćaŏǏĉģćaıćĉŏǏaģćĉŏǏdˈŉĘaơĉıćaıć̔ơaƤĉģćaɂĉģćaıć̔ɂaɚĉıćaĊΦƫaĈΦƫaĩΦƫaĴΦƫaǈĨį俲aŬ业.SPOTc冼ȌaĊěȺĸaĈěȺĸaĊěǒaĈěǒaŬ业ĊϑĸcĈϑĸcĊ喋ĸcĈ喋ĸaĊĺĸĀɎaĈĺĸĀɎaĊĺĸĀΉƯǖȊaĈĺĸĀΉƯȈȊaĊĺĸĀΉƯȈȊaĈĺĸĀΉƯǖȊaĊƴĸĀĕaĈƴĸĀĕaĊ˛ơĸaĈ˛ƤĸaēĊ˛ƤĸbĈ˛ơĸaĊęʮɛĸaĈęʮɛĸaǪ佻aĨϵƒa佩ƴ佺ĊaĈƴɶĀĺa佩ĈƴĀĕaƴĀħʖaŠƴa唡ƴ佺ĊdĩaűƴažƴaƴĀɎažƴĀɎa˪ƴ佺ĩdĴa佩ƴĀů佼.ENDINGƯćƗĩĆĈlĊjĴĆĈlĊjĈĆĩjĊĆĩjĈĆĴjĊĆĴaž乓仞a乓仞Ā̭dĂĿĉdĈćĉdĊćĉaĿĀŎįaƲĨįb丗bɻɏb则aĿ创̺ŎįĆǖĳ创̺ĨįbĀ.SUPERIMPOSEDųaƲ.ANTICLOCKWISE-ROTATEDϯąaĩć̔ĿaƲě̎b̎bơbƤaĿĀĂĿĘǮĈcĎŎ冟ĘǮĈaǺ̞Ǌ˙b乷Ǌ˙bǆbĂĿbĺaĎ佱偷aŘĀĕĉcɎaħƯŘaŘĀ偸ɐȈaĈŘĉĊŘaĊŘΥĨįaĨįΥĈŘa凯ĀĊĳęcĈĳęaę凯aĬĀĊĳęcĈĳęaě偞aę偞aĊ仑佻aĈ仑佻aĊē仑佻aĈē仑佻a.INCOMPLETE仐a仙ł仐a仐唩ĀĨį",
  "a.DOUBLE-ENDED凮aĺĀ.CONTOURED.OUTLINEa.INCREASES̈a.SHUFFLE̩aǶąĆɷ丗fĀŏĉa偗ĘĆɷ丗a.GLEICH.STARKa.THERMODYNAMICa͒ŘĀĊĳędĈĳęaęǤĀĴćb̮aěĿĀĴćaęĿĀĴća.ERROR-BARREDěĺbęĺběǤbęǤběĿbęĿa.RULE-DELAYEDaɻɏǏaɏĀ̭aɻɏĀŎğa̅ɏbɻɏaēİaǈİaʄͿƴĸaɒͿƴĸa佽a.MINYa仛ƲĕǏcİǏcĬǏbˀǏĀĕeİbĺʿǏcˀǏaĎ̪ĆǏcŰǏa仛ĬǏa.MODULOĎ仫a偒ĀʛaͶʛǏa.FINITE刞ʛaʛĀēğb.AVERAGEĀ˙a.CIRCULATION唉aʭ喌aƒ喌Ā厧刟删佾d初刟删佾cƣ.INCLUDINGǮ佾aʛ删Č̛Ǐa.QUATERNIONʛǏaʛĀıćĀĞcĬącʿcˀc̭cɎa偵aƍĊŘǏaŬ业.SCHEMA凳d.PIPINGd.PROJECTIONaİąĀĂĿĉdŸǥĉdŏĉdĕĐdŏĐd乑ĎdęŘaʠąĀƟĉdĕĐd乷Łd̞ŁaİąƯĊĳĿdĈĳĿa.VECTORŰǇ̩aͤąĀĕĉdɎa佮̩ĀȈǷa喍̩aͤąƯĊĳĿdĈĳĿaƲͤąĀŸǥaͤąƯēĿaƲϯąaİąƯŘaʠąƯŘaͤąƯŘa喎̩a.RIGHTHAND喎̩aŬ业.RELATIONAL凳a.AMALGAMATIONŰ唠aʿĀĕaˀĀʠąc̭aʿĀ̭c̪ĆaˀĀ̪ŰbĉʿaʿĉˀaˀĉįĉʿaʿĉįĉˀaˀΥĆ佱ĀˀaʿΥĆ佱ĀʿaǷˀĀ偸bʿĀ偸aēĺʿcˀaǷˀĀ偸Ć喍̩a̪ĆĀĕĉbŰĀĕĉaē̪ĆcŰaĎ.INTERSECTING̪ĆdŰa.SLOPINGƍŰcĆa̪Ű刡̪ĆbĆĀĥϛbŰĀĥϛbĆĀŎǜbŰĀŎǜbĆĀḙ̄dɎdēɎaĂ丏ĀɎa̪ŰĀḙ̄eɎaŬ业.DOMAIN喏c刢喏aǶąĀĕĐa偗ĀĕĉaǈŎįĀēĨğeǈĨğaŏǏĀĕĉd̞Ła乼ʠ乼a.CONGRUENTĀĕĉaǶĀǆaˈŉĘĀŸǥa佪ŉŰŉĘaǶąĉİąaİąĉǶąaǶąĉŏǏaēȌŉaĎ喐Ƕ喑aė喐Ƕ喑aǶąĀĎŁĉĆĎŁĐa˶ĀĝŁĉaơĀĿʖaƤĀĿʖaơĀȞĖĉaƤĀȞĖĉaơŰɷŉĘaƤŰɷŉĘaơŰɷŉĘĀĕʖaƤŰɷŉĘĀĕʖaơŰɷŉĘĀĕĉaƤŰɷŉĘĀĕĉaơŰɷŉĘĀĕĉĈaƤŰɷŉĘĀĕĉĊaơŰ偹aƤŰ偹aơĆ们ƣŉĘaƤĆ们ƣŉĘaơĆƣ偹aƤĆƣ偹aơĉ仭ŉĉƤaƤĉ仭ŉĉơaơĉ乼ŰŉaƤĉ乼Űŉaơĉ乼ĉƤaƤĉ乼ĉơaơĉƤĉ仭ŉaƤĉơĉ仭ŉaơĉɷŉĉƤĉɷŉaƤĉɷŉĉơĉɷŉaɷŉĘŰơeƤeơĀĕʖeƤĀĕʖa仭ŉĘŰơeƤbɷŉĘŰơfƤa乼ŰơcƤbĉơĉǶącƤĉǶąaē喒ơcƤcơĀɎaƤ刡ơbΥơaơǷ̺ʱaƤǷ̺ʱaơǷ̺ʱĉɷŉaƤǷ̺ʱĉɷŉa喓亲a喔亲",
  "a喓亲ŰŉĘa喔亲ŰŉĘaǶąĀ.BUMPYĉa̫ĉ们Ƕąa̬ĉ们Ƕąa̫ĉ们ƣŉĘa̬ĉ们ƣŉĘa̫ĉǶąa̬ĉǶąa̫ĉƣŉĘa̬ĉƣŉĘa̫ĉˈŉĘa̬ĉˈŉĘa̫ĉƣˈŉĘa̬ĉƣˈŉĘaē̫b̬aɂĀĕaɚĀĕaɂĀİąĐaɚĀİąĐaɂĀͤąĐaɚĀͤąĐaɂĜŰŉĘĀĕĉaɚĜŰŉĘĀĕĉaɂĜĉǶąaɚĜĉǶąaɂĜĉŏǏaɚĜĉŏǏaɂĜĉˈŉĘaɚĜĉˈŉĘaɂĜĉƣŉĘaɚĜĉƣŉĘaĺĊůȷǏbĈůȷǏaǷɂbɚbɂŰŉĘbɚŰŉĘaɂĉɚaɚĉɂaɂĉɂaɚĉɚbΥɂcĆ佱̺ǜĀɂaΠĜ佺ŕa唪Ā仅ǖa.TRANSVERSALʿa.FORKINGa.NONFORKINGaƺĊǼbĴǼbĩǼa则ĀħaĨįǈĈ丘aēĨįĊ丘aĨįēĊ丘aēĨįēĊ丘aŴǜȐĊ偖ĜēĨaƺĴǼĀ̭bĩǼĀɎdĉƺĴǼaēĴǼbĩǼbğƣąažēğƣąaΟƣ凩Āž.NEGATION˙aĨƒĀĿĉeĐaĴǼĀĿĐa丗ĀŎğcŏǏaǈĨį喕偙dĀŎğbȌǏb喒ơcƤa仭ɷơŰŉĘcƤŰŉĘaǈɏ喕偙aƍǈĨįǏaēɏǏaěĨįa仛ěĨįaǂƜěćbƱěćaǑƜěćbƱěćaĊĈěćaıęćašęćaŕęćaǂƜęćbƱęćaǑƜęćbƱęćaĊĈęćaĩĴęćaģćĀ̐ŕešaıćĀ̐ŕešaĺĀǖĳęcȈĳęcŭĈǊĳęcŗĊǊĳęaǤĀĊĳęcĈĳęcǖĳęcȈĳęaǪĺaęƍĺaěƍĺaęȮĂĺaěȮĂĺaę使aě使b刣aę刣aŎę刣aęƍĿbţǤaěţǤaęţ̮aěţ̮aęĂǤc̮aěĂ̮aęŎ偺aěŎ偺aęĨ偺aěĨ偺aĊćĀĂĿaėı˚aĊćĀƲİaŴı偕ćaı΀ćĀĨğeēĨğdȐįcǈǜćbćĀǪϛdƫĀĨğfēĨğb΀ćĀƫfĀĨğgēĨğbć̔ųaɵćƗ喊ĊaǶąĉıćaɻŏǏĉıćaıćĉɻˈŉĘaģć̔ƤdɚaıͶćaģͶćaɻŏǏĉģćaģćĉɻˈŉĘaŏǏĉıćaıćĉˈŉĘdɻŏǏaģćĉɻŏǏaŕƋϵćaƺɷǂćb判ǑćaěţƥaęĂƥaěĂƥaęɒ使aěɒ使aĤƍĿb別Ā別ʖbĿĀĿʖcbƲͼaɷǂćĀ仮ʕa判ǑćĀ仮ƫaɷǂćĀŎƫa判ǑćĀŎƫaȝćƗŕ乻ǂƜaƺȝćƗŕ乻ǂƜaıƋćašƋćaģƋćaŕƋćaĊĈƋćaĩĴƋćaǂƱƋćbƜƋćaǑƜƋćbƱƋćaıƋ̨ćašƋ̨ćaģƋ̨ćaŕƋ̨ća̦ƋůĿćaʭƋůĿćaıƋćĘįašƋćĘįaģƋćĘįaŕƋćĘį!2B76aǂƱƋćĘįbƜƋćĘįaǑƜƋćĘįbƱƋćĘįaıƋćĀēŎğašƋćĀēŎğaģƋćĀēŎğaŕƋćĀēŎğaŎ丧ϔaĨ丧ϔaıƋćłģƋćašƋćıĜŕƋćaģƋćłıƋćaŕƋćıĜšƋćaıƋ丕˚ašƋ丕˚aģƋ丕˚aŕƋ丕˚aıęƲěćašęƲěćaģęƲěćaŕęƲěćaʭƋĈ侀ćcȈ侀ćcĊ侀ćcǖ侀ća偤ĊbĈa啇ĊbĈ",
  "aĝȊ˚喖ʭaģęć!2B97aĠǬ冼Č.ELECTRONICSa喃刔ıɜƈb.RIGHT-LIGHTEDšɜƈb刔ģɜƈb.LEFT-LIGHTEDŕɜƈaęıɜƈbšɜƈbģɜƈbŕɜƈaŕƋćĀŴ̐ıgģašƋćĀŴ̐ıgģaıƋćĀŴ̐šaģƋćĀŴ̐šaıƋćĀŴ̐ŕaģƋćĀŴ̐ŕaęͿŕĆıćeģćcšĆıćeģćcıĆšćcģĆšćcıĆŕćcģĆŕća偻ćĴĊdĈcĩĊdĈcĊĩcĈĩcĊĴcĈĴašěćȐįĀŎįaĩƈƯČ买ȷa刡ě偷cĆę偷bę偷a乳ȷĀŌųaƲųbȥųaęĺϲbǤϲaűę使aŎę喗aę喗bţ̒Řϲc͒ŘϲcʄŘϲcɒŘϲa啖ăĎaǖĳęĿaȈĳęĿaŌĝǸę偼aƛŌĝǸę偼aěĝǸ偼aƛěĝǸ偼aĺ偝Ϭa.UNCERTAINTYąa啄Ėa啗ăĎcėcĝcġa.TRANSPLUTOa.PROSERPINAa.ASTRAEAa.HYGIEAa.PHOLUSa.NESSUSaěɃ.SELENAaęǤƚǇa凭ŌɃ.ARTAa.CUPIDOa.HADESa.ZEUSa.KRONOSa.APOLLONa.ADMETOSa.VULCANUSa.POSEIDONaĊĳęƥaĈĳęƥaƥĀĊĳęcĈĳęaı΀ćĀŘ偽aš΀ćĀŘ偽aģ΀ćĀŘ偽aŕ΀ćĀŘ偽a.ERISăĒcĎa.SEDNAa.RUSSIAN叴Ġ.VIGINTILEd.NOVILEd.QUINTILEd.BINOVILEd.SENTAGONd.TREDECILEaǶąĀ仐Đa.UNITEDĠa.SEPARATEDĠa俪Ġa.PASSEDĠažĈƴa.HELLSCHREIBER.PAUSEĠa喘Ąā刦d刧d刨d利d刪d别d刬d偾d刭d仯dĢ仯dĔd刮d刯d到d侁d刱d刲d刳d刴d刵d制d刷d券d刹d喙dǃd刺d乨d侂dƆdͩd偿d刻d喚ĶdǰdĂȡfĀƫdȉd仰Ăȡd̅ȡd仰̅ȡd之d亢d喛d喜Čd喝侁d喞侂bĂā刦d刧d刨d利d刪d别d刬d偾d刭d仯dĢ仯dĔd刮d刯d到d侁d刱d刲d刳d刴d刵d制d刷d券d刹d喙dǃd刺d乨d侂dƆdͩd偿d刻d喚ĶdǰdĂȡfĀƫdȉd仰Ăȡd̅ȡd仰̅ȡd之d亢d喛d喜Čd喝侁d喞侂aƹĄāĭĀēįbĂāĭĀēįbĄāĭĀĥŏdŮĀğdĦĀƫbĂāČĀğdŚĀǊğbĄāşĀǟbĂāşĀǟbĄāřĀǟbĂāřĀǟbĄāŬĀǟbĂāŬĀǟbĄāȁdňĀĞdűČeȁbĂāśĀĈĞbĄāŷĀĞbĂāŷĀĞdśĀɩbĄāĳşbĂāĳşd.TAILLESSɇdďĀ唵dűĦĀƫdčĀŝœʖbāĂĄűďb乑ĂāƀaȕāĄśaƹĄāħĀ亘ƫdŬĀ亘ƫaɊĄā喟bĂā喟bĄā喠bĂā喠bĄāɨbĂāɨbĄā喡bĂā喡bĄā傀bĂā傀bĄā喢bĂā喢bĄā傁bĂā傁bĄā喣bĂā喣bĄā喤bĂā喤bĄā喥bĂā喥bĄā傂bĂā傂bĄā喦bĂā喦bĄāȣ",
  "bĂāȣbĄāȄbĂāȄbĄā俏bĂā俏bĄāčbĂāčbĄāǔbĂāǔbĄāɁbĂāɁbĄā刼bĂā刼bĄāʣbĂāʣbĄā仏bĂā仏bĄāͫbĂāͫbĄā倷bĂā倷bĄāʸbĂāʸbĄā傃bĂā傃bĄā丨ŊbĂā丨ŊbĄāƳɊȂbĂāƳɊȂbĄāώ傀bĂāώ傀bĄā丨傂bĂā丨傂bĄā丨ȄbĂā丨ȄbĄāώȄbĂāώȄbĄāƳɊ傃bĂāƳɊ傃bĄā亚bĂā亚bĄā̰ϷbĂā̰ϷbĄāƳɊϷbĂāƳɊϷbĄāƳɊʞbĂāƳɊʞbĄā喧亞bĂā喧亞bĄā丨亟bĂā丨亟bĄāƳɊ亟bĂāƳɊ亟bĄāƳɊĶbĂāƳɊĶbĄā喨ĶbĂā喨ĶbĄāƳɊ喩bĂāƳɊ喩bĄāƳɊ乽bĂāƳɊ乽bĄāƳɊ亠bĂāƳɊ亠bĄāƳɊ喪bĂāƳɊ喪bĄāƳɊ乊bĂāƳɊ乊bĄāƳϝ乊bĂāƳϝ乊bĄāƳϝ倵bĂāƳϝ倵bĄāƳϝ̊bĂāƳϝ̊bĄāƳϝ刽bĂāƳϝ刽bĠ亜cȣɁcǔɁc.STAUROScʣɁc倷Ɂc乊刼bĄāώϷbĂāώϷbĄāώ亠bĂāώ亠bǦȄĉc.SPIRITUS.ASPERd喫bĄā喬亞bĂā喬亞!2CF9bƳϝƸƅd凵ȞĖd.INDIRECTȞĖd儢仱bʌĒĳbƸƅb.MORPHOLOGICAL仱a似Ăāȃd俹d乡d俺dƽd俻d伩d俼dƯd人d俽dʀd伽dƚd俾d俿d亿d亡d乢d丂d倀d倁d倂d伾dȗd倃d̉d伿d倄d倅d倆d倇d倈dǘd佀dȾd什d倉!2D27d仁!2D2Dd仂!2D30a.TIFINAGHāŇc.YABc.YABHc.YAGc.YAGHHc喭單刾c刾c.YADc.YADHc.YADDc.YADDHc.YEYc.YAFc克c乾克c.YAKHHc傄c喭單傄c乾傄c.YAHHc京c喯c乾喯c喰c乾喰cȪc刿c.AHAGGAR刿c乾刿c.YALc喱c哋c乾.YAGNd̽c喲cǰc叽c.YARRc剀c乾剀c.AYER剀c.YASc.YASSc.YASHcδc.YATHc.YACHc.YATTc.YAVc.YAWc哄c喳c.TAWELLEMET喳c.YAZZc˕cȉ!2D6Fbȕā.LABIALIZATIONĖbɖĖ!2D7Fbɣ义a倗˓.LOAc.MOAc.ROAc.SOAc.SHOAc.BOAc.TOAc.COAc.NOAc.NYOAcȨ佚c.ZOAc.DOAc.DDOAc.JOAc.THOAc.CHOAc.PHOAc.POAc.GGWAc.GGWIc.GGWEEc.GGWE!2DA0cǠc剁c剂c.SSAAc.SSEEc喴c冺!2DA8c.CCAc.CCUc.CCIc.CCAAc.CCEEc.CCEc.CCO!2DB0c傅c喵c営c.ZZAAc.ZZEEc喷c喸!2DB8c.CCHAc.CCHUc.CCHIc.CCHAAc.CCHEEc剃c.CCHO!2DC0c.QYAc.QYUc.QYIc.QYAAc.QYEEc.QYEc.QYO",
  "!2DC8c剄c.KYUc.KYIc.KYAAc傆c.KYEc.KYO!2DD0c喹c.XYUc.XYIc.XYAAc.XYEEc喺c.XYO!2DD8c.GYAc.GYUc.GYIc.GYAAc.GYEEc.GYEc.GYO!2DE0aǦ̃ā˥dˉdʤdɫdˊdɬdĹdɭdʥdƽdčdǃd˦dͨdǲdĶd̄dɔdƆd儏d之d.ES-TEdČdʹd剅d剆亣dδdǰdˋČdƬȡd̅ȡdˋ̅ȡaĈƴ仲ϽcǪ仲ϽaĊ仲ĸaĈ仲ĸaĊǪ仲ĸaĈǪ仲ĸaȻ喻ϽbǪ喻ϽaǪ則ϽaĊ則ĸaĈ則ĸaȻĺaĊȻ喼ĸaĈȻ喼ĸa.EDITORIAL.CORONISa剈a喽剈až喽剈a.HYPODIASTOLEaǪ.OBELOSaŕ喾aš喾aǪɒƴaē˪̹aƔ佢a侃击a̹ĀƁaŏĀœĉaĊŝ喿ĸaĈŝ喿ĸaŏĀĕĉdĐaĊĨįĀ偏aĈĨįĀ偏aǖĊĳĸbĈĳĸaȈĊĳĸbĈĳĸaĊλċĸaĈλċĸaĊēǒaĈēǒaĎŁłĒĕǐaĒĕłĎŁǐaǺĝĕǐaġĕĖažȞĖaĨŏaœ̛a˫ɖĥĕaűƟaȻĕbƟaű̸a付ĀĊ嗀cĈ嗀aű付aǖĳɑąa.TWO-EMǜa.THREE-EMǜa.STENOGRAPHICƸƅaĨĪŁa仑Ĩƒa.CAPITULUMaē̹ažƟaē.LOW-REVERSED-9ȔĖaǜĀĊ儐aē凜ĖaƔŝ他dĀ他ĉaŝ他cĀĕaē.STACKEDƟaǪɏaǈ付a嗁Ɵa.PARAGRAPHUSĖa.PUNCTUS.ELEVATUSĖa.CORNISH儢仱aǇ.PATTYĀĈ嗂dĊ嗂a唇ąĄ̚a嗁ȹĖbȞĖaĊĺĸĀğaĈĺĸĀğaĊĺĸĀēğaĈĺĸĀēğaǖĳĊǒcĈǒaȈĳĊǒcĈǒa˪̹!2E80a乿偢侄c剉c亀ĒdĎdėc˝cȷc削c侅ĒdĎc嗃c剋cĂĒdĎc嗄ĒdĎdėdĝc偈c剌c嗅ĒdĎcȤĒdĎcȒc前!2E9Bc.CHOKEcͻcɃc嗆c嗇c.CIVILIANc̯ĒdĎcͽc嗈ĒdĎc傇ĳΧ嗉c來c仳c嗊c剎Ĝ剏cϖc剐ĒdĎc剑c剒c˻剒c剓ĒdĎdėdĝc嗋c剔c傈c嗌cƳc剕ĒdĎc傉c嗍c嗎ĒdĎdėc傊c剖cƱĒdĎc˻乣c傇ǻcǻc˻亁dɛc偣c˻嗏c傇傋c傋ĒdĎc嗐c˻傌cŴĒdĎc˻Ŵd嗑c嗒ĒdĎc乴c丩c˻嗓剗dɸd;d剘c傍ĒdĎdėc˻傍cʕc˻Ϟc傎c剙c˻Φd傏dΨc傇剚d侇c˻剛c傐亵c˻亵c傐傑c˻傑c傐个c˻个c侈c傐侈c˻侈!2F00a.KANGXI偢Ēcƒcĕc˙c亀cĞcĎc嗔cʀc.LEGSc唴cīcĴȷc剜c並c削cůȷc侅c凸c.WRAPc剝cĈůȷc.HIDING剞cŵc嗃c剋c剉c.PRIVATEc.AGAINcʂc剞c̑c.SCHOLARc̢d.SLOWLYc.EVENINGc̅c丫c剟c.ROOFc.INCHcĂc嗄c.CORPSEc.SPROUTc丢c.RIVERc剠c.ONESELFc嗕",
  "c剡cƺ剌cǪ剉cŴ.STRIDEcĎϟc.SHOOTc仢c嗅c.BRISTLEc剢cȤc.HALBERDc嗖cȒc击c前cɆc.DIPPERc剣cĺcƣcͻc哂cɃcΧc.LACKcƅc嗆c.WEAPONcʉƣc.COMPAREc嗗c嗘c嗙c̯cͽc.CLAWc嗚cēųcĳΧ嗉c嗛c.FANGc來c仳c.PROFOUNDc嗊c嗜c剤c嗝c.LIFEc.USEc嗞c剎Ĝ剏c.SICKNESScǪ刍cěc.SKINcɦcϖc嗟cćc剥c剐c嗠c.GRAINc.CAVEc.STANDc剑c侉c剒c嗡c剓c剔c倹cƳcĆc.PLOWc从c剕c傉c.MINISTERc嗢c.ARRIVEc嗍c亂c.OPPOSEc嗣c.STOPPINGc.COLORc嗎c傊c.INSECTc嗤c傋剞c剖cƱc乣cǻc亁c.VALLEYc.BEANc傒c嗥cɛc̲c.RUNc偣c嗦c嗏c.BITTERc.MORNINGc傋c嗐c傓c.DISTINGUISHc.VILLAGEc傌cŴc嗑c嗒c.SLAVEcƺ嗧傏c乴c丩c.WRONGcĻc剗c嗓剗c.LEEKcʾcɸc;c剘c傍cʕc.FRAGRANTcϞc傎c伷c乮c.FIGHTc.SACRIFICIAL傓c嗨c剙cΦc傏cΨc剦c剚c.HEMPc侇c.MILLETcęc.EMBROIDERYc剛c.TRIPODc侊c傔c仴c亵c傑c个c侈c嗩!2FF0a˼.DESCRIPTIONμĊĘĈdĉĘĐdĊĘĥĆĈdĉĘĥĆĐdƸ嗪d嗪ȐĉfĐfĊfŭĊgĈfŗĊd剧!3000bɧbƟbƸƅa.DITTOĖa乸.INDUSTRIAL嗫Ġa˼ϠĖb伴ĖbƙŨaĊƴĸaĈƴĸaĊēƴĸaĈēƴĸaĊȊĸaĈȊĸaĊěȊĸaĈěȊĸaĊę丬ĸaĈę丬ĸa傕Ėa.GETAĖaĊʮɛĸaĈʮɛĸaĊě丬ĸaĈě丬ĸaĊěʮɛĸaĈěʮɛĸaĊěĺĸaĈěĺĸaɵǜažē̼ȔĖaē̼ȔĖaŝē̼ȔĖa傕ĖĻa嗬΅ĒcĎcėcĝcġcĪcĲcīcķa˼嗭ŹĖb̞ŹĖb儉ŹĖb.ENTERINGŹĖaσƐĕŹĖbēĕŹĖaΏǜaĨ.KANA侄ĖdĀ΄ʾĖdĖŭĳdĀ΄ʾĖŭĳdĖŗĳaƲ傕Ėa˼傖ƒ凹ɖĠa嗬΅ŵcǛcɴaĨ˼ϠĖa.MASUĖa刞.ALTERNATIONĖa˼佖Ϭbĳ̓ɧ!3041a仵āĂČcČcĂĔcĔcĂċcċcĂďcďcĂčcčcĹcŜcʁcɾcʊc˘cɿcΛcɌc̢cőcƿcɲcΚcɽc͋cɳcɬcɗcͅcŐcŔcʨcʙcĂɍcɍc˗cǲcɫcĘcʉcŅcȄcȇcȜcǡcĶcŦcļcȬc˰cǔc̋cʘc̤cǘc˥cǃcȿc͇cʧcņcȣcǫcțcɯcĂŇcŇcĂǰcǰcĂȉcȉcľc˖cɰcʪcɁcĂƊcƊcɱcȾcəcĽc乤cĂĹdɿ!3099aǦ例΄ʾĖc剨ʾĖa例΄ʾĖb剨ʾĖa仵ϠĖb΄ϠĖbȩ.YORIa例ē̹a΁āĂČ",
  "cČcĂĔcĔcĂċcċcĂďcďcĂčcčcĹcŜcʁcɾcʊc˘cɿcΛcɌc̢cőcƿcɲcΚcɽc͋cɳcɬcɗcͅcŐcŔcʨcʙcĂɍcɍc˗cǲcɫcĘcʉcŅcȄcȇcȜcǡcĶcŦcļcȬc˰cǔc̋cʘc̤cǘc˥cǃcȿc͇cʧcņcȣcǫcțcɯcĂŇcŇcĂǰcǰcĂȉcȉcľc˖cɰcʪcɁcĂƊcƊcɱcȾcəcĽc乤cĂĹdɿcưcψcˉc΋bĥĕa例嗮ʾĖa΁ϠĖb΄ϠĖbȩ嗯!3105a嗰āŶcŮcňcƎcŢcŚcĽcĭcŖcřcşcƀcƢcųc.ZHc嗱c乪cĦcŬcūcħcČcčcďcΊcżcοcƄcϱcȃcƽc͈c̻c˦cĔcċc侌cścʻc.GNc凙cčĀĕĉc伲!3131aσā七c倊c共c丄c們c倒c丅c個c丆c倓c倔c倕c倖c兲c关c倏c万c丈c倌c倐c三c倍cτcυc倎c上c下c丌c不c与cČcȆcŇc伝c佁cďc兮c˕cčcƊc兯cǞcȉcċc兰cȾcɱcǰcρcȪcĔbφbā兜c兝c六c启c吰c兴c吱c吳c吵c兞c兵c吷c兟c吕c兠c吖c兡c兢c吘c兣c吚c兤c君c入c兦c內c全c兩c兪c吹c吺c八c吣c公c吧c吨c吩c吪c含c听c吭c.ARAEAE!3190a˼嗲.LINKINGĖcɻĖcĒĖcĎĖcėĖcĝĖcǖĖcĥĖcȈĖcϏĖc亀ĖçĖc俜Ėc偬Ėc̑ĖcʀĖa嗰āʘcΚc丐c˘cǕc剩cǀc咲c偃c.ANNc.INNc哸cϡc.NGGc.AINNc.AUNNcΒc̟c嗳c.INNNbđāŮdŚdřdşbā.GHc况c嗴bđāŖbā.GWc冣cǞc͆a乿ğŚc.WGc.XGc.BXGc咎c.HZZc.HZGc傗c.HZWGc.SZWGc.HZTc.HZZPc.HPWGc.HZWc.HZZZcĽcşcħcŮc.SPcŢc嗵c嗶c.SZc.SWZc剪c.SGc.PDc.PZc.TNc.SZZc.SWGc.HXWGc.HZZZGc.PGcƢ!31F0a΁āĂʊdɲdɽdĘdȇdĶdȬd̋dǘdȿdǫdľd˖dɰdʪdɁa偨σ七c丄c丅c丆c万c丈c三cτcυc上c下c丌c不c与c七Čc丄Čc丅Čc丆Čc万Čc丈Čc三ČcτČcυČc上Čc下Čc丌Čc不Čc与Čcυċb剫μ.OJEONdč̋!3220b傘ĒcĎcėcĝcġcĪcĲcīcķcŵcɃcͽc̯c剬c嗷c̑cͻc剭c嗸c嗹c侍c嗺c嗻c嗼c嗽c.REPRESENTc剮c嗾c嗿c嘀c嘁c嘂c.FESTIVALcʲc嗢c嘃aƲ傘Ȟc.KINDERGARTENc副c嗯bƙŵƚęĺcǛƚęĺcɴƚęĺcʫƚęĺcȅƚęĺcʽƚęĺcǾƚęĺc˲ƚęĺa啧ąaƲƙǛĒdĎdėdĝdġdĪdĲdīdķcɴdĒdĎdėdĝdġbσ七c丄c丅c丆c万c丈c三cτcυc上c下c丌c不c与c七Čc丄Čc丅Čc丆Čc万Čc丈Čc三ČcτČcυČc上Čc下Čc丌Č",
  "c不Čc与Čb剫μ.CHAMKOd.JUEUIbστċa剫嗫ĠaƲ傘ĒcĎcėcĝcġcĪcĲcīcķcŵcɃcͽc̯c剬c嗷c̑cͻc剭c嗸c嗹c侍c嗺c嗻c嗼c嗽c.SECRETc丣c仧c.SUITABLEc.EXCELLENTc唶c.ATTENTIONc.ITEMcʲc.COPYc.CORRECTcƂcƨcŝcĊcĈc.MEDICINEc.RELIGIONc嗾c嗿c嘀c嘁c嘂c備bƙɴĪdĲdīdķcʫdĒdĎdėdĝdġdĪdĲdīdķcȅa˼傖ĠǬ.JANUARYe.FEBRUARYe.MARCHe.APRILe品e.JUNEe.JULYe.AUGUSTe.SEPTEMBERe.OCTOBERe.NOVEMBERe.DECEMBERaĺ嗶b.ERGb剰a.LIMITED.LIABILITYąaƲ΁ČcĔcċcďcčcĹcʁcʊcɿcɌcőcɲcɽcɳcɗcŐcʨcɍcǲcĘcŅcȄcȇcȜcǡcĶcȬc̋cǘcȿcņcȣcǫcțcɯcŇcǰcȉcľc˖cɰcʪcɁcƊcɱcȾcəaĺ嘄侍.REIWAb.APAATOb.ARUHUAb.ANPEAb.AARUb.ININGUb.INTIb.UONb.ESUKUUDOb.EEKAAb.ONSUb.OOMUb.KAIRIb.KARATTOb.KARORIIb.GARONb.GANMAb.GIGAb.GINIIb.KYURIIb.GIRUDAAb.KIROb.KIROGURAMUb.KIROMEETORUb.KIROWATTOb.GURAMUb.GURAMUTONb.KURUZEIROb.KUROONEb.KEESUb.KORUNAb.KOOPOb.SAIKURUb.SANTIIMUb.SIRINGUb.SENTIb.SENTOb.DAASUb.DESIb.DORUb.TONb.NANOb.NOTTOb.HAITUb.PAASENTOb.PAATUb.BAARERUb.PIASUTORUb.PIKURUb.PIKOb.BIRUb.HUARADDOb.HUIITOb.BUSSYERUb.HURANb.HEKUTAARUb唕b.PENIHIb.HERUTUb.PENSUb.PEEZIb.BEETAb.POINTOb.BORUTOb剱b.PONDOb.HOORUb.HOONb.MAIKUROb.MAIRUb.MAHHAb.MARUKUb.MANSYONb.MIKURONb.MIRIb.MIRIBAARUb割b.MEGATONb.MEETORUb.YAADOb.YAARUb.YUANb.RITTORUb.RIRAb.RUPIIb.RUUBURUb.REMUb.RENTOGENb.WATTOa˼傖ĠǬ嘅ŨfĒfĎfėfĝfġfĪfĲfīfķfŵf͐f̏f丞f丟fͺfΓf丠fϗf両fǛf嘆f剳f嘇f嘈aĺ.HPAbŔ",
  "bƄbįb哹b.PCb.DMcǺc侎b侌b嘄侍.HEISEId.SYOUWAd.TAISYOUd.MEIZIb.CORPORATIONbļ.AMPSbŅbǫČbņbĹb.KBb剴b.GBb.CALb.KCALb.PFb.NFbǫƎcŖb.MGb嘉b嗵b.KHZb.MHZb.GHZb.THZbǫĭb.MLb.DLb.KLb.FMb.NMbǫňb傚b創b傛b傚Ǻb創ǺbňǺb傛Ǻb傚侎b創侎bň侎b傛侎bňłħeǺbļb侏b哙b.GPAb咵cłħeǺb.PSb.NSbǫħb.MSb.PVb冔bǫśb佋b.KVb佋割b.PWb.NWbǫŷb嘊b冣b嘊割bř偑bň偑bΒb.BQb嘋b嘌būł嘉b̀b協b.GYbĶb傗bƯb倸b傛Ąb.KTb.LMb.LNb.LOGb.LXb剴Ăb.MILb.MOLb.PHb.PMb.PPMb.PRb.SRb冗b.WBbśłňbČłňa˼傖ĠǬ友ĒfĎfėfĝfġfĪfĲfīfķfŵf͐f̏f丞f丟fͺfΓf丠fϗf両fǛf嘆f剳f嘇f嘈f傜f.TWENTY-SIXf.TWENTY-SEVENf.TWENTY-EIGHTf.TWENTY-NINEfɴf.THIRTY-ONEaĺ亃!4DC0a.HEXAGRAMǬǮ.CREATIVE偬d.RECEPTIVȆc.DIFFICULTYɐǮ.BEGINNINGc.YOUTHFUL.FOLLYc嘍c.CONFLICTcǮ.ARMYc件傝cĂ嘎c.TREADINGc刁c.STANDSTILLc.FELLOWSHIPc亽嘏c.MODESTYc.ENTHUSIASMc嘐c剠ƚǮ.DECAYEDc.APPROACHc.CONTEMPLATIONc嘑̔c嘒c.SPLITTING.APARTc偤c.INNOCENCEc亽嘎cʂ代c亽嘓cǮ.ABYSMAL̯d.CLINGINGͽc.INFLUENCEc.DURATIONc.RETREATc亽凸c.PROGRESSc嘔ĜǮŌcǮ嘕c凾c.OBSTRUCTIONc.DELIVERANCEc嘖c剶c.BREAKTHROUGHc.COMINGĘ嘗c剷傝c.PUSHING唙c.OPPRESSIONcǮ.WELLc.REVOLUTIONcǮ嗨d.AROUSING刂d嘘.STILL丢c.DEVELOPMENTcǮ.MARRYING.MAIDENc.ABUNDANCEcǮ.WANDERERd.GENTLE;d.JOYOUS啓c.DISPERSIONc.LIMITATIONc嘙.TRUTHcĂ嘓c.AFTER剸c.BEFORE剸!A000aȪ˓儰c嘚cĔc.IPc.IETc.IEXcʹc.IEPcɐc嘛cČc厾c.UOXc嘜c.UOPc俑c傞cčc剹c傟cďcͱc厶c.BIXc˰c.BIPc.BIETc.BIEXc.BIEc.BIEPc剺c.BAXcŦc.BAPc.BUOX",
  "c.BUOc.BUOPc.BOTcȷc͇c.BOPc.BEXc˥c.BEPcΡc.BUXcʘc.BUPc.BURXc中c.BYTc.BYXc̺c.BYPc.BYRXc.BYRc嘝c.PIXcǔc嘞c.PIEXc嘟c.PIEPc.PATc.PAXcļc˞c.PUOXc.PUOc.PUOPc傠c.POXcʧc凞c剻c.PUXc̤c嘠c.PURXc.PURc嘡c.PYXc.PYc.PYPc.PYRXc.PYRc.BBITc.BBIXc嘢c.BBIPc.BBIETc.BBIEXc.BBIEc.BBIEPc.BBATc.BBAXc乖c.BBAPc.BBUOXc.BBUOc.BBUOPc.BBOTc.BBOXc嘣c.BBOPc.BBEXc伸c.BBEPc嘤c.BBUXc嘥c.BBUPc.BBURXc.BBURc.BBYTc.BBYXc.BBYc.BBYPc.NBITc.NBIXc.NBIc.NBIPc.NBIEXc嘦c.NBIEPc.NBATc.NBAXc.NBAc.NBAPc.NBOTc.NBOXc.NBOc.NBOPc.NBUTc.NBUXc.NBUc.NBUPc.NBURXc.NBURc.NBYTc.NBYXc.NBYc.NBYPc.NBYRXc.NBYRc.HMITc.HMIXc.HMIc.HMIPc.HMIEXc.HMIEc.HMIEPc.HMATc.HMAXc.HMAc.HMAPc.HMUOXc.HMUOc.HMUOPc.HMOTc.HMOXc嘧c.HMOPc.HMUTc.HMUXc.HMUc.HMUPc.HMURXc.HMURc.HMYXc.HMYc.HMYPc.HMYRXc.HMYRc剼c.MIXcȣc.MIPc.MIEXc.MIEc.MIEPc.MATc.MAXcņc佹c.MUOTc.MUOXc.MUOc.MUOPc.MOTc.MOXcɯc嘨c.MEXcțc.MUTc.MUXcǫc.MUPc.MURXc.MURc.MYTc.MYXc嘩c.MYPc.FITc.FIXcͫc.FIPc.FATc剽cǙc.FAPc嘪cͮc.FOPc.FUTc.FUXcϊc.FUPc.FURXc嗗c.FYTc.FYXc.FYc.FYPc.VITc.VIXcψc.VIPc嘫c.VIEXc.VIEc.VIEPc.VATc.VAXcưc.VAPc.VOTc.VOXc΋c.VOPc.VEXc嘬c.VUTc.VUXc乤c.VUPc.VURXc嘭c.VYTc.VYXc剾c.VYPc.VYRXc.VYRc.DITc.DIXcʙc.DIPc.DIEXc切c.DIEPc嘮c.DAXcŔc凌c.DUOXc.DUOcĕc.DOXcʉc.DOPc.DEXcɫc.DEPc.DUTc.DUXc˗c.DUPc.DURXc.DURc厷c.TIXcʨc̐c.TIEXc仙c.TIEPc嘯c.TAXcŐc.TAP",
  "c嘰c.TUOXc.TUOc.TUOPc嘱c.TOXcĘcǖc.TEXcǲc.TEPc.TUTc.TUXcɍc嘲c.TURXc侐c.DDITc.DDIXc告c.DDIPc.DDIEXc.DDIEc.DDIEPc.DDATc.DDAXcƾc.DDAPc.DDUOXc.DDUOc.DDUOPc.DDOTc.DDOXc冉c.DDOPc.DDEXc呌c.DDEPc.DDUTc.DDUXc呉c.DDUPc.DDURXc嘳c.NDITc.NDIXc剿c.NDIPc.NDIEXc.NDIEc.NDATc.NDAXc仓c劀c.NDOTc.NDOXc劁c.NDOPc.NDEXc傡c.NDEPc.NDUTc.NDUXc傢c.NDUPc.NDURXc.NDURc.HNITc.HNIXc.HNIc.HNIPc.HNIETc.HNIEXc.HNIEc.HNIEPc.HNATc.HNAXc冒c.HNAPc.HNUOXc.HNUOc.HNOTc.HNOXc.HNOPc.HNEXc.HNEc.HNEPc.HNUTc.NITc.NIXcȄc.NIPc.NIEXc.NIEc.NIEPc.NAXcŅc.NAPc.NUOXc.NUOc.NUOPcƣc.NOXcǡc.NOPc.NEXcȜc.NEPc嘴c.NUXcȇc.NUPc.NURXc.NURc.HLITc.HLIXc劂c.HLIPc.HLIEXc.HLIEc.HLIEPc.HLATc.HLAXc哴c.HLAPc.HLUOXc.HLUOc.HLUOPc.HLOXc.HLOc.HLOPc.HLEXc.HLEc.HLEPc.HLUTc.HLUXc.HLUc.HLUPc.HLURXc.HLURc.HLYTc.HLYXc.HLYc.HLYPc.HLYRXc.HLYRc.LITc.LIXcʩc劃c.LIETc.LIEXc嘵c.LIEPc.LATc.LAXcńc劄c.LUOTc.LUOXc.LUOc.LUOPc.LOTc.LOXcʗc.LOPc.LEXc˯c.LEPc.LUTc.LUXcɘc.LUPc.LURXc.LURc.LYTc.LYXc冻c.LYPc.LYRXc嘶c.GITc.GIXcɾc.GIPc.GIETc.GIEXc.GIEc.GIEPc.GATc.GAXcŜc侑c.GUOTc.GUOXc.GUOc.GUOPc嘷c.GOXc̢c.GOPc.GETc.GEXcΛc嘸c.GUTc.GUXc˘c.GUPc.GURXc傣c嘹c.KIXcʁc唔c.KIEXc.KIEc.KIEPc.KATc.KAXcĹc嘺c.KUOXc.KUOc劅c.KOTc.KOXcɌc.KOPc亄c.KEXcɿc.KEPc傤c.KUXcʊc.KUPc.KURXc˃c.GGITc.GGIXc呔c.GGIEXc.GGIEc.GGIEPc.GGATc.GGAXc亱c.GGAPc.GGUOT",
  "c.GGUOXc嘻c.GGUOPc.GGOTc.GGOXc呕c嘼c.GGETc.GGEXc冊c.GGEPc.GGUTc.GGUXc呓c.GGUPc.GGURXc.GGURc.MGIEXc.MGIEc.MGATc.MGAXc.MGAc.MGAPc.MGUOXc.MGUOc.MGUOPc.MGOTc.MGOXc̣c.MGOPc.MGEXc.MGEc.MGEPc.MGUTc.MGUXc.MGUc.MGUPc.MGURXc.MGURc嘽c.HXIXc.HXIc.HXIPc.HXIETc.HXIEXc.HXIEc.HXIEPc.HXATc.HXAXc.HXAc.HXAPc.HXUOTc.HXUOXc嘾c.HXUOPc.HXOTc.HXOXc.HXOc嘿c.HXEXc.HXEc.HXEPc.NGIEXc.NGIEc.NGIEPc.NGATc.NGAXcƃc.NGAPc.NGUOTc.NGUOXc.NGUOc.NGOTc.NGOXc九c噀c.NGEXc噁c.NGEPc噂c.HIEXc佀c乽c.HAXcĶc.HAPc.HUOTc.HUOXc.HUOc.HUOPc併c.HOXcȿc.HOPc.HEXcǘc.HEPc.WATc噃cƊc噄c.WUOXc噅c.WUOPc.WOXcəc.WOPc.WEXcȾc.WEPc.ZITc.ZIXcΚc.ZIPc.ZIEXc.ZIEc.ZIEPc.ZATc.ZAXcƿc.ZAPc.ZUOXc.ZUOc.ZUOPc噆c.ZOXcͅc.ZOPc.ZEXcɬc.ZEPc.ZUTc.ZUXc͋c噇c.ZURXc噈c.ZYTc.ZYXc嗴c.ZYPc.ZYRXc.ZYRc.CITc.CIXc借c噉c.CIETc.CIEXc.CIEc.CIEPc͘c.CAXcƌc偘c.CUOXc.CUOc噊c.COTc.COXc̀c.COPc.CEXcωc.CEPc劆c.CUXc兽c佭c.CURXc.CURc噋c.CYXc噌c噍c.CYRXc.CYRc.ZZITc.ZZIXc営c.ZZIPc噎c.ZZIEXc.ZZIEc.ZZIEPc.ZZATc.ZZAXc傅c.ZZAPc.ZZOXc喸c.ZZOPc.ZZEXc喷c.ZZEPc.ZZUXc喵c.ZZUPc.ZZURXc.ZZURc.ZZYTc.ZZYXc.ZZYc.ZZYPc.ZZYRXc.ZZYRc.NZITc.NZIXc.NZIc.NZIPc.NZIEXc.NZIEc.NZIEPc.NZATc.NZAXc劇c.NZAPc.NZUOXc.NZUOc.NZOXc.NZOPc.NZEXc.NZEc.NZUXc.NZUc噏c.NZURXc.NZURc.NZYTc.NZYXc.NZYc.NZYPc.NZYRXc.NZYRc.SITcĪcɲc.SIPc.SIEXc.SIEc.SIEPc减c.SAXcőc噐c.SUOXc.SUO",
  "c.SUOPc劈c.SOXcɗc.SOPc.SEXcɳc.SEPc.SUTc.SUXcɽc.SUPc.SURXc傥c.SYTc.SYXc.SYc.SYPc.SYRXc.SYRc.SSITc.SSIXc剂c.SSIPc.SSIEXc.SSIEc.SSIEPc.SSATc.SSAXcǠc.SSAPc.SSOTc.SSOXc冺c.SSOPc.SSEXc喴c.SSEPc.SSUTc.SSUXc剁c.SSUPc.SSYTc.SSYXc.SSYc.SSYPc.SSYRXc.SSYRc.ZHATc.ZHAXcɮc.ZHAPc.ZHUOXc.ZHUOc.ZHUOPc.ZHOTc.ZHOXc冈c.ZHOPc.ZHETc.ZHEXcˊc.ZHEPc.ZHUTc.ZHUXc円c.ZHUPc.ZHURXc.ZHURc.ZHYTc.ZHYXc.ZHYc.ZHYPc.ZHYRXc.ZHYRc噑c.CHAXcƑc.CHAPc.CHUOTc.CHUOXc.CHUOc.CHUOPc.CHOTc.CHOXcνc.CHOPc.CHETc.CHEXcɔc.CHEPc.CHUXc倧c.CHUPc.CHURXc.CHURc.CHYTc.CHYXc.CHYc.CHYPc.CHYRXc.CHYRc.RRAXcʈc.RRUOXc.RRUOc.RROTc.RROXc噒c.RROPc.RRETc.RREXc噓c.RREPc.RRUTc.RRUXc.RRUc.RRUPc.RRURXc.RRURc.RRYTc.RRYXc.RRYc.RRYPc.RRYRXc.RRYRc.NRATc.NRAXc凍c.NRAPc.NROXc.NROc.NROPc.NRETc.NREXc.NREc.NREPc.NRUTc.NRUXc.NRUc.NRUPc.NRURXc.NRURc.NRYTc.NRYXc.NRYc.NRYPc.NRYRXc.NRYRc噔c.SHAXcƆc.SHAPc.SHUOXc.SHUOc.SHUOPc.SHOTc.SHOXcͧc噕c噖c.SHEXcǽc.SHEPc.SHUTc.SHUXčc.SHUPc.SHURXc噗c.SHYTc.SHYXc噘c.SHYPc.SHYRXc.SHYRc傔c.RAXcľc前c.RUOXc.RUOc.RUOPc.ROTc.ROXcɁc.ROPc.REXcʪc.REPc.RUTc.RUXcɰc.RUPc.RURXc.RURc.RYTc.RYXc咸c.RYPc.RYRXc.RYRc.JITc.JIXc丐c.JIPc.JIETc.JIEXc.JIEc.JIEPc.JUOTc.JUOXc.JUOc.JUOPc丛c.JOXcͲc.JOPc.JUTc.JUXc书c.JUPc.JURXc.JURc.JYTc.JYXc.JYc.JYPc.JYRXc.JYRc.QITc.QIXc佅c.QIPc.QIET",
  "c.QIEXc.QIEc.QIEPc.QUOTc.QUOXc冕c.QUOPc噙c.QOXc倞c.QOPc.QUTc.QUXc佄c.QUPc.QURXc.QURc.QYTc.QYXc.QYc.QYPc.QYRXc.QYRc.JJITc.JJIXc咬c.JJIPc.JJIETc.JJIEXc噚c.JJIEPc.JJUOXc.JJUOc.JJUOPc.JJOTc.JJOXc咫c.JJOPc噛c.JJUXc咪c.JJUPc.JJURXc.JJURc.JJYTc.JJYXc噜c.JJYPc.NJITc.NJIXc侒c.NJIPc.NJIETc.NJIEXc.NJIEc.NJIEPc.NJUOXc.NJUOc.NJOTc.NJOXc噝c.NJOPc.NJUXc劉c.NJUPc.NJURXc.NJURc.NJYTc.NJYXc.NJYc.NJYPc.NJYRXc.NJYRc噞c.NYIXc̊c噟c.NYIETc.NYIEXc.NYIEc.NYIEPc.NYUOXc.NYUOc.NYUOPc.NYOTc.NYOXcξc噠c.NYUTc.NYUXc冁c.NYUPc.XITc.XIXcˤc.XIPc.XIETc.XIEXc.XIEc.XIEPc.XUOXc.XUOc.XOTc.XOXc呄c.XOPc.XYTc.XYXc.XYc.XYPc.XYRXc.XYRc劊c.YIXcȪc.YIPc.YIETc.YIEXc噡c.YIEPc.YUOTc.YUOXc.YUOc噢c伜c.YOXcȉc.YOPc俦c.YUXcǰc.YUPc.YURXc.YURc.YYTc.YYXc兎c.YYPc.YYRXc.YYR!A490b偢噙cʩc嘹c噟c噍c剂c嘼c嘸cȣc嘽c嘶c嘤c嘨cȉc剻c嘾c嘯cŜc噇c噋c嘳c中c嘻c噠cɍc剹c噛c噆c嘡c嘧c劊c嘭c噘c嘬cƿcͲc噏c噜c嘷c噚cəc˗c噗c嘵c噌c噊c噉c嘿c噔c噈c噕cɔc噎c嘦cɿ!A4D0a噣āŦcļcƭcŔcŐcƠcŜcĹcƘcƉcƌcƑc̠cȚcˮcņcŅcńcőcɮcƿcƃcĶc˱cχcǙcƊcƆcŇcǅcČcȆcďcρcĔcčcċcɢc劋cǞcŹ冎ʨdŅʧd冎咿e͇eŅe.JEUbǐƟcƸƅa.VAI˓Ǖc.EENc倘c倥c.WEENcϋc.BHEEc仄c傦c噤c.MGBEEc噥c乩c丏c仅c佊c.DHEEc.DHHEEc候c佃c仈c劌c乣c倜c佇c倦c呃c仉c侓c仇c冃c噦c佉c典c冀c呆cĔcƯcȬc噧cɱc.WINcǔc.BHIc˰c劍c器c.MGBIc噩cͫcψcʨc乧c.DHIc.DHHIcʩc˖cʙc剿cɲc仃cΚc冇c借c丐c侒cȪcʁc噪cɾcȣcȄc̊cČcȃc.NGANcĶc噫cƊc.WANcļcǎcŦc佝c侏c.KPANc噬c儬cǙcưcŐcƠcǁc.DHHAcńcľcŔc仓cőcƆcƿcɮcƌcƉc噭cŇ",
  "cĹc人c侔cŜcņcŅcƓcǀc.OONc佔c佌c.WOONc低c.BHOOc噮c劎c噯c.MGBOOc噰c冯c噱c今c冲c.DHOOc.DHHOOc介c咚c噲c噳c体c冭c噴c.ZHOOc冤c噵c噶c倲c佑c劏c.GOOc冧c冩c.NYOOcċc丂c̋c噷cͱc.WUNc̤c.BHUcʘc劐c噸c.MGBUc劑cϊc乤cɍc冋c.DHUc.DHHUcɘcɰc˗c傢cɽčc͋c円c兽c书c劉cǰcʊc劒c˘cǫcȇc冁cčcƚc噹cȿc剱cəc凡cʧc噺c͇c劓c傧c.MGBOc噻c.GBONcͮc΋cĘc˒c噼c.DHHOcʗcɁcʉc劁cɗcͧcͅc冈c̀cͲc噝cȉcɌc劔c̢cɯcǡcξcďcƽc噽cǘc噾cȾc.WENcǃc储c˥c傩c噿c.KPENc.MGBEc傪c.GBENc̈́cˉcǲcǮc侕c.DHHEc˯cʪcɫc傡cɳcǽcɬcˊcωc̾cϹc˕cɿc劕c劖cΛc.GENcțcȜc冂cʻc傫bƟbƸƅbȞĖb˓嚀ǙdĹd体bĠ.FEENGc.KEENGc.TINGc咁c.BANGc倫c乥c凒c.DOONGc.KUNGc.TONGc.DO-Oc.JONGbŒŨcĒcĎcėcĝcġcĪcĲcīcķb˓嚀ņdʉ!A640ãĄā嚁bĂā嚁bĄā偾bĂā偾bĄāžϸbĂāžϸbĄāȍbĂāȍbĄā剅bĂā剅bĄā剆亣bĂā剆亣bĄā嚂ǨbĂā嚂ǨbĄāɹ侖bĂāɹ侖bĄāͩĀ͙侖bĂāͩĀ͙侖bĄāˋδbĂāˋδbĄāžǰbĂāžǰbĄāˋČbĂāˋČbĄāǷƬȡbĂāǷƬȡbĄā嚃ȡbĂā嚃ȡbĄāˋǷƬȡbĂāˋǷƬȡbĄā仁bĂā仁bĄāž̄bĂāž̄bĄā˿ɫbĂā˿ɫbĄā˿ɭbĂā˿ɭbĄā˿ʥbĂā˿ʥbĄā催čbĂā催čbĄā嚄čbĂā嚄čbĄāē催čbĂāē催čbā.MULTIOCULARčaǦ̃.VZMETcŵ乌ącĵ乌ącŃ乌ąa.SLAVONICǆaǦ̃ā儎ʹdĔdȪdċdΈądͩd˿ądǨc他c嚅ã他b嚅bĄā劗bĂā劗bĄā嚆bĂā嚆bĄā嚇bĂā嚇bĄā剃bĂā剃bĄā嚈bĂā嚈bĄāǲĀĥĞbĂāǲĀĥĞbĄā住bĂā住bĄā嚉bĂā嚉bĄā嚊bĂā嚊bĄā嚋bĂā嚋bĄā冶bĂā冶bĄā仌bĂā仌bĄāēčbĂāēčbĄā̰čbĂā̰čaȕā̃Έąd˿ąaǦ̃ā·dˋďa嚌āČcĹcċcʊcǕc佃c劘cčc̊cĔcńcļc倳c嚍c嚎c劙c乥c傭c劚cňc傮cǫc倱cɲc嚏c力c傆c亄c嚐cȇc嚑c劜čc劝cŇc办c嚒c功c侓c加c嚓c务cϋc乩cɰcɘcȣcȄc劢c亿c伟c嚔c侔cƃcͧc劣cϊc劤cƊcŅcʩcǔc傯cɌc嚕c傰cζcņcʨcʁcɯc价c乍c侏cŵc嚖c嚗c.FAAMAEc.KOVUUc.KOGHOMbǦĖ.KOQNDONd.TUKWENTISb嚘bƸƅbȌbƟb̸bȞĖ!A700",
  "aȕā嚙Źγ凔e̽凔eγ嚚e̽嚚eγ佄e̽佄eγɰe̽ɰc俋ǪŹįcƂǪŹįc么ǪŹįcŝǪŹįc俌ǪŹįc俋ǪΩŹįcƂǪΩŹįc么ǪΩŹįcŝǪΩŹįc俌ǪΩŹįc俋ΩŹįcƂΩŹįc么ΩŹįcŝΩŹįc俌ΩŹįcĕĨįd˙dŎįcŗĈȊƴcȻĩćdĴćdȹĖdƔȹĖcŝƔȹĖc儵ĆƂŹeŝŹaƹĄā傱ŊbĂā傱ŊbĄā傱ȂbĂā傱ȂbĄā伛bĂā伛bĄā嚛bĂā嚛bĄā嚜bĂā嚜bĄā傲bĂā傲bĄā傲ĀƟbĂā傲ĀƟbāĂĄƎeħbĄāũbĂāũbĄā偋bĂā偋bĄāƄbĂāƄbĄā仕bĂā仕bĄā仕ĀŎįbĂā仕ĀŎįbĄā͉bĂā͉bĄāžūĀĕbĂāžūĀĕbĄāřĀğbĂāřĀğbĄāřĀǊğbĂāřĀǊğbĄāřĀğĆǊğbĂāřĀğĆǊğbĄā亖ĭbĂā亖ĭbĄāĭĀƂğbĂāĭĀƂğbĄāčĀŴğɞbĂāčĀŴğɞbĄāčĀʟbĂāčĀʟbĄāǀbĂāǀbĄāŮĀğ̔ǟbĂāŮĀğ̔ǟbĄāŮĀ侗bĂāŮĀ侗bĄāŮĀ嚝ƫbĂāŮĀ嚝ƫbĄāƢĀğ̔ǟbĂāƢĀğ̔ǟbĄāƢĀǊğbĂāƢĀǊğbĄāĦ佟bĂāĦ佟bĄā傳佟bĂā傳佟bĄāśĀǊğbĂāśĀǊğbĄā剾bĂā剾bĄā嚞ŬbĂā嚞ŬbĄāϮĀğbĂāϮĀğbĄāϮĀğ̔ǟbĂāϮĀğ̔ǟbĄā嚟bĂā嚟bĄā̚bĂā̚bĄā仍bĂā仍bĄā嚠bĂā嚠aȕā偉aƹĂā.DUMdϢd.MUMd.NUMd傳bāĂĄ傳bĂā傴d侘bĄāʬŢbĂāʬŢbĄāʬƎbĂāʬƎbĄāʬŖdűʬŖbĂāűʬŖbĄāűĭbĂāűĭbĄāʬĦbĂāʬĦbĄāʬħbĂāʬħbĄāʬŚbĂāʬŚaȕāŝŸǥcȌcƺǶąaƹĄā嚡bĂā嚡bĄāűşbĂāĭĀǓĞĆͦbā.SINOLOGICALĕbĄāĽĀǟbĂāĽĀǟbĄāūĀįbĂāūĀįfȠĞdşĀȠĞbĄāŶĀ侗bĂāŶĀ侗bĄāƎĀğbĂāƎĀğbĄā仸ȆbĂā仸ȆbĄā仸ǞbĂā仸ǞbĄā仸ɢbĂā仸ɢbĄāŖĀ˪ğbĂāŖĀ˪ğbĄāřĀ˪ğbĂāřĀ˪ğbĄāĽĀ˪ğbĂāĽĀ˪ğbĄāĦĀ˪ğbĂāĦĀ˪ğbĄāħĀ˪ğbĂāħĀ˪ğbĄāşĀĞdžůďdɆŖdĭĀͦdĂĄĔbāĂĄƢbĄāűřeŚdƀĀβdɓdʏbĂāʏbĄāǨbĂāǨbĄāċĀğbĂāċĀğbĄāȨČbĂāȨČbĄāȨĔbĂāȨĔbĄāȨċbĂāȨċbĄāƳ劥čbĂāƳ劥čbĄā嚢ŷbĂā嚢ŷbĄāūĀȠĞdħĀĞdŬĀȠĞdŢĀƺğɞbĂāŢĀƺğɞbĄāħĀƺğɞbĂāħĀƺğɞ!A7D0bĄāǷʬŖbĂāǷʬŖ!A7D3dēϮ!A7D5e俈bĄāĥ嚣ħbĂāĥ嚣ħbĄā嚤ħbĂā嚤ħ!A7F2aȕāĄūdƎdƢaƹĄāžĳşbĂāžĳşb嚥āλĔaȕāĄşĀğcĂȀǞaƹāĂĄűňb嚥āžƎeŮdƔňdĔ劦dʎňa.SYLOTI.NAGRIāČdĔ",
  "cą.DVISVARAcāċdďdčcą嚦cāɌd乜d̢d咩cąƼcā̀dνdͲd.JHOd冢d倴d冉d嚧dĘd˒dʉd噼dǡdʧdͭd͇d噺dɯdɁdʗd噒dɗdȿcŋąČeĔeċeďeǀc.POETRY佛d作d嚨d.MARK-4cąɥ嚦!A830aǂ嚩ʌĒǿeĳdėˢdĒ亴eȵdė修cǿĖc劧Ėc乗Ėc.QUANTITYĖ!A840a.PHAGS-PAāĹcƘcŜcƃcƌcƑcƉcƓcŐcƠcŔcŅcļcƭcŦcņcȚcˮc̠cƊcɮcƿcĂČcŇcľcńcƆcőcĶcČcĔcċcďcčcʆc˱cǙc亱cǕb亼āƊdŇbāƻcǗcƾcǌcɥŇc.VOICELESSƆc΄Ķc.ASPIRATEDǙb亼āľb.SUPERFIXEDāľbāȎbƐʕĖbēʕĖbĖ˔cē˔!A880a.SAURASHTRAąƼcǴbāČcũcĔcŻcċcƇcƦĦdǣdĭdǹcďcǕcżcčcǀcƄcĹcƘcŜcǅcƃcƌcƑcƉcǵcƓcƻcǗcƾcǢcǌcŐcƠcŔcǁcŅcļcƭcŦcǎcņcŇcľcńcưcƆcǠcőcĶcȴbɣą.HAARUbŋąũdĔdŻdċdƇdƦĦeǣeĭeǹdďdǕdżdčdǀdƄbąǚcȎ!A8CEbșbēșbŒŨcĒcĎcėcĝcġcĪcĲcīcķ!A8E0aǦ儲ŒŨdĒdĎdėdĝdġdĪdĲdīdķcāČdċdĹdŅdļdľdψcąˑa儲ą儸ȎcȎǚcēȎǚcȎĎdėdˑc.PUSHPIKAb侑φbΗb动bą乙b.JAIN̟bā͉bŋą͉a吋ʩŒŨdĒdĎdėdĝdġdĪdĲdīdķcāĹdƘdŜdƃdődƆdƿdƓdŐd嚪dŅdļdƭdņdŔdŦdľdŇdńdƊdƠdĶdưdƌdČdǞdĔdǀcŋɢdďdċdǕdčcŹ嚫d.CALYAe嚫cą冥d.SHYAa.REJANGāĹcŜcƃcŐcŔcŅcļcŦcņcƌcƉcƓcőcľcńcŇcƊcĶc佝c侔c仓c.NYJAcČbŋąĔdċdďdżdčdƄdρd助bɣąʻdĽdĦdşbǚ!A95FbɑĖaσ吏.TIKEUT-MIEUMc嚬c嚭c嚮c倓c嚯c兴c.RIEUL-SSANGTIKEUTc倔c倕c.RIEUL-SSANGPIEUPc吲c倖c.RIEUL-CIEUCc吴c吶c.MIEUM-TIKEUTc兵c.PIEUP-SIOS-THIEUTHc.PIEUP-KHIEUKHc吸c.SSANGSIOS-PIEUPc.IEUNG-RIEULc.IEUNG-HIEUHc.SSANGCIEUC-HIEUHc.SSANGTHIEUTHc.PHIEUPH-HIEUHc.HIEUH-SIOSc.SSANGYEORINHIEUH!A980a.JAVANESEą.PANYANGGAc嚰c.LAYARc.WIGNYANbāČcĔ.KAWIdcŻcċcļ.CEREKcƃ.LELETe.RASWADIcďcżcč",
  "cĹd且dʹcŜdʹcƃcƌdʹcƉcƓʹcƉ专cƓcƻd专cƾd专cŅʹcŐdʹcŔd专cŅcļdʹcŦdʹcņcŇcľd.AGUNGcńcƊcőʹd专dcĶbą嚰.TELUbŋą.TARUNGd.TOLONGd.WULUe.MELIKd哠e.MENDUTd員d.DIRGA.MUREd哢bɣą.KERETd.PENGKALd哼b.PANGKONbĊ嚱bĈ嚱b努.ANDAPc.MADYAc.LUHURc哦c.PANGKATc.LINGSAc.LUNGSIc偀d偀c嚲bű努嚲!A9CFb.PANGRANGKEPbŒŨcĒcĎcėcĝcġcĪcĲcīcķ!A9DEb努.TIRTA.TUMETESc.ISEN-ISENa兗āͬǅdƑdǵdǌdǎbąͬ劫bȕāͬ嚳bāύ債ƓeǙeŜeǅeƉeǵeƾeǢeǌbύ債ŒŨeĒeĎeėeĝeġeĪeĲeīeķbāύ債ȴeŔeǁeŦeǎ!AA00a.CHAMāČcĔcċcďcżcčcĹcƘcŜcǅc.NGUEcƃcƑc.CHHAcƉcǵc.NHUEc仹c.NHJAcŐcƠcŔcǁc.NUEcŅcƾcļc.PPAcƭcŦcǎc.MUEcņc乖cŇcľcńcưcǠcőcĶbŋąũdĔdŻdοdċdǞdčdżdƄdɢbɣąŇdľdńdƊ!AA40bāđřdŖdʻbɣąđʻbāđ嗱dŚdĽdŮdŤdĦdĭd傶bɣąđňeş!AA50bŒŨcĒcĎcėcĝcġcĪcĲcīcķ!AA5Cbǐ傷cșcēșcǈșa兗ā伻ŜdƌdƑdƉdǵdƓdƻdǗdƾdǢdǁdŅdődĶdχdǙbȕā伻嚳bā伻˱dƿdľb侙伻哑d.QNd.HMbĠ兛ȹdĒdĎbā兛ľbą.PAOπŹcύ債ΘeΙbā仌党ƑeƆaύ嘫āŝɌdƂɌdŝ乜dƂ乜dŝ嚴dƂ嚴dŝ̢dƂ̢dŝ九dƂ九dŝ̀dƂ̀dŝνdƂνdŝɗdƂɗdŝξdƂξdŝʉdƂʉdŝĘdƂĘdŝ˒dƂ˒dŝǡdƂǡdŝ͇dƂ͇dŝʧdƂʧdŝͭdƂͭdŝͮdƂͮdŝɯdƂɯdŝȉdƂȉdŝɁdƂɁdŝʗdƂʗdŝ΋dƂ΋dŝȿdƂȿdŝčdƂčc̡倽cŋũdĔdɢdċdďdčc̡.KHITcŋ傸d.UEAd仏d哌d͉dȃdΒcŹ̡亳e嚵e˒e.SONG!AADBcĠ叩d嚵d凐dȿ.HOId劬劬a嚶嚷āďdčdƑdƓdƻdǗdƾdǢdǌdƆdǠcŋąŻeƇe呭eƄe.AAUc.CHEIKHANc.AHANG.KHUDAMc儹c˓劭Ėc˫劭ĖcŋąǴcǚ!AB01a倗˓.TTHUc咞c凊c.TTHEEc咝c倴!AB09c.DDHUc.DDHIc嚸c.DDHEEc.DDHEc嚧!AB11c咭c咰c.DZAAc咯cϸc咮!AB20c.CCHHAc.CCHHUc.CCHHIc.CCHHAAc.CCHHEEc.CCHHEc.CCHHO!AB28c乖c嘥c嘢c.BBAAc.BBEEc伸c嘣!AB30aƹĂā΃ȁ",
  "dČ.REVERSED-SCHWAd嚹ďd΃ďdďĀ侗d喫ƎdɆŖĀβdĭĀƔ凫ħfēĥŏfĥœdňĀβdĽĀβd̻Āβd嚹čfĀğdůčĀğdƔǞdűǞĀğgŎğeč.OPEN-OgĀğd.STIRRUPĦbāĂĄĦĀĈʷbĂāĦ佷嚺dēĦdĦĀβdēĦĀβdɆĦfĀœd叀ʞdċĀƺĈʷeįĀƺĈʷd傹dű傹dċĀĊĞdɓeĀŝĈœgĊ嚻dųĀŝĈœfŴĊʷiĆŝĈœiĀ嚻dŤĀƺĈʷaȕƩĀƔƩbāĂ伛dĭĀƔ凫ħfĥŏdċĀĊĞaƹĂā.SAKHAδdˋďdůǞd嘜dƔȁaɈāĂĄǨaƹĂāϰȩĀǓĞd儇ȩĀǓĞdűĦĀĥŏaȕāĂűŷcĊǼcĈǼ!AB70a呡ĂāČdďdĔdčdċdśdŜdĹdΛdɾd̢d˘d呢dĶdǘdȬdȿd̋d俇dńd˯dʩdʗdɘd呣dņdțdȣdɯdǫdŅd冒d冓dȜdȄdǡdȇd冔d呤d呥d呦d冕d冖d呧dődħdɳdɲdɗdɽd冗dŔdŐdɫdǲdʙdʨdʉd˗d周d倰d冘d写d冚d军d农d呩dȚd̄d乨d倪d倩d呪dƊdȾdɱdədͱd呫dŇa嚶嚷ā嚼d凐d值d剼dļdŅd.CHILd劮d.KHOUd嚽d.THOUd.WAId̽d.HUKd丂dĔd.PHAMd.ATIYAd.GOKd.JHAMd.RAIdŦd伿d.DILd.GHOUd.DHOUd.BHAMd嚼丮d值丮d剼丮dļ丮dŅ丮d劮丮d嚽丮dĔ丮cŋą.ONAPe.INAPe.ANAPe.YENAPe.SOUNAPe.UNAPe.CHEINAPe劯c.CHEIKHEIcϢ嚾c.APUN嚾!ABF0cŒŨdĒdĎdėdĝdġdĪdĲdīdķ!D7B0aσ吥.O-YEOc.O-O-Ic.YO-Ac.YO-AEc.YO-EOc.U-YEOc.U-I-Ic.YU-AEc.YU-Oc.EU-Ac.EU-EOc.EU-Ec.EU-Oc.I-YA-Oc.I-YAEc.I-YEOc.I-YEc.I-O-Ic.I-YOc.I-YUc.I-Ic.ARAEA-Ac.ARAEA-E!D7CBb吮.NIEUN-RIEULc.NIEUN-CHIEUCHc個c.SSANGTIKEUT-PIEUPc嚬c嚭c.TIKEUT-SIOS-KIYEOKc嚮c.TIKEUT-CHIEUCHc.TIKEUT-THIEUTHc嚯c.RIEUL-KIYEOK-HIEUHc.SSANGRIEUL-KHIEUKHc.RIEUL-MIEUM-HIEUHc.RIEUL-PIEUP-TIKEUTc.RIEUL-PIEUP-PHIEUPHc.RIEUL-YESIEUNGc.RIEUL-YEORINHIEUH-HIEUHc吔c.MIEUM-NIEUNc.MIEUM-SSANGNIEUNc.SSANGMIEUMc.MIEUM-PIEUP-SIOSc.MIEUM-CIEUCc兠c.PIEUP-RIEUL-PHIEUPH",
  "c.PIEUP-MIEUMc倌c兡c兢c吗c吝c.SIOS-KAPYEOUNPIEUPc.SSANGSIOS-KIYEOKc.SSANGSIOS-TIKEUTc.SIOS-PANSIOSc內c吞c吟c吠c.PANSIOS-PIEUPc.PANSIOS-KAPYEOUNPIEUPc.YESIEUNG-MIEUMc.YESIEUNG-HIEUHc.CIEUC-PIEUPc.CIEUC-SSANGPIEUPc倎c.PHIEUPH-SIOSc.PHIEUPH-THIEUTH!F900a乿嚿囀#eeeeeeeeeeeeeeeeeeeeeeeeeeeeeeeeeeeeeeeeeeeeeeeeeeeeeeeeeeeeeeeeeeeeeeeeeeeeeeeeeeeeeeeeeeeeeeeeeeeeeeeeeeeeeeeeeeeeeeeeeeeeeeeeeeeeeeeeeeeeeeeeeeeeeeeeeeeeeeeeeeeeeeeeeeeeeeeeeeeeeeeeeeeeeeeeeeeeeeeeeeeeeeeeeeeeeeeeeeeeeeeeeeeeeeeeeeeeeeeeeeeeeeeeeeeeeeeeeeeeeeeeeeeeeeeeeeeeeeeeeeeeeeeeeeeeeeeeeeeeeeeeeeeeeeeeeeeeeeeeeeeeeeeeeeeeeeeeeeeeeeeeeeeeeeeeeeeeeeeeeeeee!FA70eeeeeeeeeeeeeeeeeeeeeeeeeeeeeeeeeeeeeeeeeeeeeeeeeeeeeeeeeeeeeeeeeeeeeeeeeeeeeeeeeeeeeeeeeeeeeeeeeeeeeeeeee!FB00aƹĂȀ.FFdͫd.FLd.FFId.FFLdŴħŚd剪!FB13a伞ĂȀζ俓e交e儔d儖俓dζ儕!FB1Da卾āΌĀ厄b̛.JUDEO-SPANISH.VARIKAbȀ厈ΌΌ俖bā凴́c佞Ŋd俚dǘdȘd俛dđʐd̜d償c凴İącȗĀȗĕe俙ĕeɠĆȗĕg俙ĕcŊĀ俖e俗e儜c产ĀɠcˍĀɠc俚ĀɠcǘĀ儜c亦Āɠc̆Āɠ!FB38c乍ĀɠcΌĀɠcđȘĀɠcȘĀɠc俛Āɠ!FB3EcʐĀɠ!FB40cǄĀɠcˎĀɠ!FB43cđǃĀɠcǃĀɠ!FB46c儝Āɠc儞Āɠc̜ĀɠcȗĀɠc償Āɠc亦Ā厅c产Ā俘cȘĀ俘cǃĀ俘bȀŊ俛aʑāŊ儥Ěăeđăc厓ĚădđădĢădŧăc亥ĚădđădĢădŧăc厕ĚădđădĢădŧăc厒ĚădđădĢădŧăc厔ĚădđădĢădŧăc儦ĚădđădĢădŧăc原ĚădđădĢădŧăc厠ĚădđădĢădŧăc厗ĚădđădĢădŧăc厖ĚădđădĢădŧăc俟ĚădđădĢădŧăc厘ĚădđădĢădŧăc厛Ěădđăc厚Ěădđăc厜Ěădđăc厙Ěădđăc厞Ěădđă",
  "c厝Ěădđăc亨ĚădđădĢădŧăc享ĚădđădĢădŧăc厢ĚădđădĢădŧăc厡ĚădđădĢădŧăcǧ俞Ěăeđăc厣ĚădđădĢădŧăcȢĀŀĉĚăgđăd俠ĚăeđăeĢăeŧăd厤ĚăeđăeĢăeŧăcŀ信ĚăeđăeĀǳĉĚăhđăbĠĕĉdĐcĎŁĉeĐcėŁĉeĐeƗŕĉgĐcĝŁĉeĐcēĨįĐcĎŁ乔ĉfĐcœcĂȫĉeĐc儥ĉ!FBD3bāʻĚădđădĢădŧăcċĚădđăcǞĚădđăcǰĚădđăcċĀǳĉĚăcˉĚădđăc伥ǞĚăeđădǰĚăeđăcďĚădđădĢădŧăc囁.KAZAKH伥ŊƖĢăhŧăbȀŀĀǳĉĀŊĚăiđăhȆĚăiđăhǭĚăiđăhċĚăiđăhǞĚăiđăhǰĚăiđăhďĚăiđăiĢăc囁伥ŀĀǳĉĀŊƖĚălđălĢăbā乏ŀĚăeđăeĢăeŧăbȀŀĀǳĉĀŲĚăhťĚăhĮĚăhŊƖĚăhŀĚăcʇĀŲĚăeťĚăeƮĚăeĮĚăeŊƖĚăeŀĚăcʒĀŲĚăeťĚăeƮĚăeĮĚăeŊƖĚăeŀĚăc̓ĀŲĚăeĮĚăeŊƖĚăeŀĚăcŲĀťĚăeĮĚăcťĀŲĚăeĮĚăcƮĀŲĚăeťĚăeĮĚăcȳĀŲĚăeťĚăeƮĚăeĮĚăcɡĀťĚăeĮĚăcʔĀŲĚăeťĚăeƮĚăeĮĚăcȫĀťĚăeĮĚăcͪĀĮĚăcȂĀŲĚăeĮĚăcʺĀŲĚăeĮĚăcɟĀŲĚăeťĚăeƮĚăeĮĚăeŊƖĚăeŀĚăcɀĀťĚăeĮĚăeŊƖĚăeŀĚăcȘĀŊĚăeŲĚăeťĚăeƮĚăeǱĚăeĮĚăeŊƖĚăeŀĚăcǱĀŲĚăeťĚăeƮĚăeĮĚăeŊƖĚăeŀĚăcĮĀŲĚăeťĚăeƮĚăeĮĚăeŊƖĚăeŀĚăcǧĀŲĚăeťĚăeƮĚăeĮĚăeŊƖĚăeŀĚăcȢĀŲĚăeĮĚăeŊƖĚăeŀĚăcŀĀŲĚăeťĚăeƮĚăeĮĚăeŊƖĚăeŀĚăc乎Ā̘ŊĚăcȏĀ̘ŊĚăcŊƖĀ̘ŊĚăc亪Ā伣Ěăe伤Ěăe͂ĚăeΎĚăe̝Ěăe̘ŊĚăcŀĀǳĉĀȏđăh˧đăhĮđăhǧđăhŊƖđăhŀđăcʇĀȏđăe˧đăeĮđăeǧđăeŊƖđăeŀđăcʒĀȏđăe˧đăeĮđăeǧđăeŊƖđăeŀđăc̓Āȏđăe˧đăeĮđăeǧđăeŊƖđăeŀđăcɟĀŊƖđăeŀđăcɀĀŊƖđăeŀđăcȘĀŊđăeǱđăeĮđăeŊƖđăeŀđăcǱĀĮđăeŊƖđăeŀđăcĮĀŊđăeĮđăcǧĀȏđăe˧đăeĮđăeǧđăeŊƖđăeŀđăcŊƖĀ̘ŊđăcŀĀȏđăe˧đăeĮđăeǧđăeŊƖđăeŀđăeǳĉĀŲĢăhťĢăhƮĢăhĮĢăhȢĢăcʇĀŲĢăeťĢăeƮĢăeĮĢăeȢĢăcʒĀŲĢăeťĢăeƮĢăeĮĢăeȢĢăc̓ĀĮĢăcŲĀťĢăeĮĢăcťĀŲĢăeĮĢăcƮĀŲĢăeĮĢă",
  "cȳĀŲĢăeťĢăeƮĢăeĮĢăcɡĀťĢăeƮĢăeĮĢăcʔĀŲĢăeťĢăeƮĢăeĮĢăcȫĀťĢăcͪĀĮĢăcȂĀŲĢăeĮĢăcʺĀŲĢăeĮĢăcɟĀŲĢăeťĢăeƮĢăeĮĢăcɀĀťĢăeĮĢăcȘĀŲĢăeťĢăeƮĢăeǱĢăeĮĢăcǱĀŲĢăeťĢăeƮĢăeĮĢăeȢĢăcĮĀŲĢăeťĢăeƮĢăeĮĢăcǧĀŲĢăeťĢăeƮĢăeĮĢăeȢĢăcȢĀŲĢăeĮĢăe̘ŊĢăcŀĀŲĢăeťĢăeƮĢăeĮĢăeȢĢăeǳĉĀĮŧăhȢŧăcʇĀĮŧăeȢŧăcʒĀĮŧăeȢŧăc̓ĀĮŧăeȢŧăcȳĀĮŧăeȢŧăcʓĀĮŧăeȢŧăcȘĀǱŧăeĮŧăcǱĀĮŧăcǧĀĮŧăeȢŧăcŀĀĮŧăeȢŧăc亪Ā͂ŧăeΎŧăe̝ŧăcȫĀŊƖĚăeŀĚăcȂĀŊƖĚăeŀĚăcʺĀŊƖĚăeŀĚăcȳĀŊƖĚăeŀĚăcʓĀŊƖĚăeŀĚăcťĀŊƖĚăeŀĚăcŲĀŊƖĚăeŀĚăcƮĀŊƖĚăeŀĚăcɡĀŊƖĚăeŀĚăcʔĀŊƖĚăeŀĚăcʓĀŲĚăeťĚăeƮĚăeĮĚăeȏĚăcȳĀȏĚăcɡĀȏĚăcʔĀȏĚăcȫĀŊƖđăeŀđăcȂĀŊƖđăeŀđăcʺĀŊƖđăeŀđăcȳĀŊƖđăeŀđăcʓĀŊƖđăeŀđăcťĀŊƖđăeŀđăcŲĀŊƖđăeŀđăcƮĀŊƖđăeŀđăcɡĀŊƖđăeŀđăcʔĀŊƖđăeŀđăcʓĀŲđăeťđăeƮđăeĮđăeȏđăcȳĀȏđăcɡĀȏđăcʔĀȏđăcʓĀŲĢăeťĢăeƮĢăeĮĢăcȳĀȢĢăcʓĀȢĢăcȫĀĮĢăcȳĀŲŧăeťŧăeƮŧăcʓĀŲŧăeťŧăeƮŧăcȫĀĮŧăcͪĀĮŧăcŊĀ亩đăfĚăa.ORNATEĊǒbĈǒaʑȀ.RAHIMAHU囂c厏.ALLAAHU.ANHe.ANHAAe.ANHUMe.ANHUMAAe.ANHUNNAc.SALLALLAAHU傺.WA-AALIHc傺傻c.ALAYHIM傻c.ALAYHIMAA傻c傺.AS-SALAATU.WAS-SALAAMc.QUDDISA.SIRRAHc.SALLALLAHU傺.WAAALIHEE.WA-SALLAMc.ALAYHAA傻c.TABAARAKA.WA-TAAALAAc.RAHIMAHUM囂cʒĀŲĀĮĢăeťĀŲđăhĢăgĮĢăeƮĀĮĢăeĮĀŲĢăgťĢăgƮĢăcŲĀĮĀťđăhĢăcťĀĮĀŀđăgŊƖđăcȳĀťĀŲĢăeŲĀťĢăgŊƖđăeĮĀťđăhĢăgŲĢăgĮđăhĢăcɡĀťĀťđăhĢăeĮĀĮđăcʓĀťĀĮđăhĢăeŲĀŀđăeĮĀƮđăhĢăgĮđăhĢăcʔĀťĀŊƖđăeƮĀĮđăhĢăcȫĀĮĀťđăhĢăgĮĢăgŀđăcȂĀŲĀĮđăeĮĀĮđăhĢăgŊƖđăcʺĀĮĀĮđăgŀđăgŊƖđă",
  "cɟĀƮĀĮđăhĢăcɀĀĮĀťđăgĮđăcǱĀťĀĮđăgŀđăgŊƖđăeŲĀŲĢăhđăeƮĀĮđăhĢăeĮĀťđăhĢăcĮĀťĀŲĢăgĮĢăgŀđăeŲĀťĢăgĮĢăeƮĀŲĢăgĮĢă!FD92eŲĀƮĢăcȢĀĮĀŲĢăgĮĢăcǧĀťĀĮĢăgŊƖđăeŲĀĮđăhĢăgŊƖđăeĮĀŀđăgŊƖđăcŀĀĮĀĮđăhĢăcʇĀƮĀŀđăcʒĀŲĀŀđăgŊƖđăeƮĀŀđăgŊƖđăeĮĀŀđăgŊƖđăcŲĀĮĀŀđăeťĀŊƖđăeĮĀŊƖđăcȳĀƮĀŊƖđăcɡĀťĀŀđăcʓĀťĀŀđăcʔĀťĀŀđăcǱĀŲĀŀđăeĮĀŀđăcŀĀťĀŀđăeŲĀŀđăeĮĀŀđăcĮĀĮĀŀđăcɀĀĮĀŀđăcǧĀťĀŀđăcɀĀĮĀťĢăcǱĀťĀĮĢăcȂĀĮĀŀđăcȘĀĮĀŀđăcǧĀŲĀťĢăcĮĀƮĀŀđăcǱĀŲĀĮĢăcȘĀĮĀĮđăcǱĀŲĀĮđăcǧĀŲĀťđăcŲĀťĀŀđăcťĀŲĀŀđăcĮĀŲĀŀđăcɟĀĮĀŀđăcʇĀťĀŀđăcȘĀĮĀĮĢăcȂĀŲĀĮĢăcɡĀĮĀĮĢăcȳĀƮĀŀđăcǧĀŲĀŀđă!FDCFc.SALAAMUHU.ALAYNAA!FDF0c囃囄̈囅ƅąĚăc.QALA囄̈囅ƅąĚăc.ALLAHĚăc.AKBARĚăc.MOHAMMADĚăc.SALAMĚăc.RASOULĚăc伢Ěăc囆Ěăc囃Ěăc厎伢囆c.JALLAJALALOUHOUa.RIALąaʑȀ.BISMILLAH.AR-RAHMAN.AR-RAHEEMc.SUBHAANAHUƊ.TAAALAAc.AZZAƊ.JALLa佖.SELECTOR-1b.SELECTOR-2b.SELECTOR-3b.SELECTOR-4b.SELECTOR-5b.SELECTOR-6b.SELECTOR-7b.SELECTOR-8b.SELECTOR-9b.SELECTOR-10b.SELECTOR-11b.SELECTOR-12b.SELECTOR-13b.SELECTOR-14b.SELECTOR-15b.SELECTOR-16a劰ăǬĨƟe˼ƟfƸƅeȌe̸eȹĖeȞĖeĊě丬ĸeĈě丬.BRAKCETeŎ丁!FE20aǦȀĊĳcĈĳbēŏĊĳdĈĳbƕĊĳcĈĳb囇ƕbȀĊĳĐcĈĳĐbŏĊĳĐcĈĳĐbƕĊĳĐcĈĳĐb囇ƕĐb̃俐ĊĳdĈĳa劰ăǬĨĎĕ凝eʥǜeƽǜeŝƒeΏŝƒeĊǒeĈǒeĊȺĸeĈȺĸeĊʮɛĸeĈʮɛĸeĊę丬ĸeĈę丬ĸeĊēƴĸeĈēƴĸeĊƴĸeĈƴĸeĊȊĸeĈȊĸeĊěȊĸeĈěȊĸa囈ĕaě囈ĕa劰ăǬĨĊĺĸeĈĺĸąϴa囉ϴaΏϴaēΏϴąŝƒa囉ŝƒaΏŝƒaĂƟb˼ƟbƸƅ!FE54b̸bȌbȞĖbȹĖbʥǜbĊǒbĈǒbĊȺĸbĈȺĸbĊʮɛĸbĈʮɛĸbƙąbϫ",
  "bǆbİąb促bơąbƤąbǶą!FE68bɻɏb乆ąb伖ąb众ɐ!FE70aʑ亩Ěăb保Ā亩ĉb伣Ěăbƫ.FRAGMENTb伤Ěă!FE76b͂ĚăcŧăbΎĚăcŧăb̝Ěăcŧăb亪Ěăcŧăb乐ĚăcŧăbāǳĚăcŊĀηĉĚăgđăeǳĉĚăgđăcǭĀǳĉĚăgđăcŊĀǳĐĚăgđăcŀĀǳĉĚăgđăgĢăgŧăcŊĚădđăcʇĚădđădĢădŧăcʒ儣ĚăeđădĚădđădĢădŧăc̓ĚădđădĢădŧăcŲĚădđădĢădŧăcťĚădđădĢădŧăcƮĚădđădĢădŧăċĚădđăc乎ĚădđăcȏĚădđăc˧ĚădđăcȳĚădđădĢădŧăcʓĚădđădĢădŧăcɡĚădđădĢădŧăcʔĚădđădĢădŧăcȫĚădđădĢădŧăcͪĚădđădĢădŧăcȂĚădđădĢădŧăcʺĚădđădĢădŧăcɟĚădđădĢădŧăcɀĚădđădĢădŧăcȘĚădđădĢădŧăcǱĚădđădĢădŧăcĮĚădđădĢădŧăcǧĚădđădĢădŧăcȢĚădđădĢădŧăcǭĚădđăcŊƖĚăeđăcŀĚădđădĢădŧăbȀǱĀŊĀηĉĚăiđăgǳĉĚăiđăhĐĚăiđăfĚăfđă!FEFFaŨ你儀ɧ!FF01a囊ȹĖbȔĖbƙąb乆ąb伖ąbϫbΰbĊǒbĈǒbǆbİąbƟb促bƸƅbɏbŒŨcĒcĎcėcĝcġcĪcĲcīcķbȌb̸bơąbǶąbƤąbȞĖb众ɐbƹĄāČeŶeūeŢeďeƎeŖeşeĔeƀeřeĭeňeĽečeŮeƢeĦeħeŚeċeśeŷeųeŤeŬbĊĺĸbɻɏbĈĺĸbŸǥbŝƒbƏǥbƹĂāČeŶeūeŢeďeƎeŖeşeĔeƀeřeĭeňeĽečeŮeƢeĦeħeŚeċeśeŷeųeŤeŬbĊȺĸbĨƒbĈȺĸbŏbĊěǒbĈěǒa囋˼ƸƅbĊȊĸbĈȊĸb˼Ɵb΁ĥĕcāədĂČeĔeċeďečeŇeǰeȉeɍb例嗮ʾĖb΁āČdĔdċdďdčdĹdʁdʊdɿdɌdődɲdɽdɳdɗdŐdʨdɍdǲdĘdŅdȄdȇdȜdǡdĶdȬd̋dǘdȿdņdȣdǫdțdɯdŇdǰdȉdľd˖dɰdʪdɁdƊdĽc΄ʾĖc剨ʾĖbσφcā七d倊d共d丄d們d倒d丅d個d丆d倓d倔d倕d倖d兲d关d倏d万d丈d倌d倐d三d倍dτdυd倎d上d下d丌d不d与!FFC2dČdȆdŇd伝d佁dď!FFCAd兮d˕dčdƊd兯dǞ!FFD2dȉdċd兰dȾdɱdǰ!FFDAdρdȪdĔ!FFE0a囊升ąb俄ąbƣąbƕb亖įb伙ąb凡ą!FFE8a囋.FORMSŌĨbıćbšćbģćbŕćbęĺběĿ!FFF9a.INTERLINEAR嗲啣cɖc.TERMINATORa.OBJECT囌μa囌μ!10000a囍Ŷ˓囎Čd.B038ďd.B028Ĕ",
  "d.B061čd.B010ċd囏Ŕd.B045ɫd囐ʙd.B014ʉd.B051˗d.B057Ɖd.B046̾!1000Dd.B036Ͳd.B065书d.B077Ĺd.B044ɿd.B067ʁd.B070Ɍd.B081ʊd.B080ņd.B013țd.B073ȣd.B015ɯd.B023ǫd囑Ņd.B024Ȝd.B030Ȅd.B052ǡd.B055ȇd囒ļd.B072ǃd.B039ǔd.B011ʧd.B050̤d.B016ʆd.B078倝d.B021佅d.B032倞!10028d.B060ľd.B027ʪd.B053˖d囓Ɂd.B026ɰd.B031őd囔ɳd.B041ɲd.B012ɗd.B058ɽd.B059Őd囕ǲd.B037ʨd囖Ęd.B069ɍd.B054Ɗd.B075Ⱦd.B040ɱd.B042ə!1003Cd.B017ƿd.B074ɬ!1003Fd.B020ͅd.B025励d.B043.A3d.B085Ƅd.B071劗d.B090.DWOd.B048倠d.B029.PU2d.B062.PTEd.B076.RA2d.B033.RA3d.B068.RO2d.B066.TA2d.B087住d.B091Ď!10050cĠ.B018d.B019d.B022d.B034d.B047d.B049d.B056d.B063d.B064d.B079d.B082d.B083d.B086d.B089!10080c侚.B100ʀd.B102丫d.B104剦d.B105.EQUIDd.B105F.MAREd.B105M.STALLIONd.B106F嗌d.B106M傈d.B107F.SHE-GOATd.B107M.HE-GOATd.B108F.SOWd.B108M囗d.B109F來d.B109M.BULLd.B120剚d.B121.BARLEYd.B122囘d.B123.SPICEd.B125.CYPERUSc仩.B127.KAPOd.B128.KANAKOc侚.B130傼d.B131傓d.B132c仩.B133.AREPAd.B135.MERIc侚.B140.BRONZEd.B141傌d.B142d.B145囙d.B146d.B150d.B151ǻd.B152d.B153d.B154c仩.B156.TURO2c侚.B157d.B158d.B159剏d.B160d.B161d.B162.GARMENTd.B163.ARMOURd.B164d.B165d.B166d.B167d.B168d.B169d.B170d.B171d.B172d.B173儺d.B174d.B176Χd.B177d.B178d.B179d.B180d.B181d.B182d.B183d.B184d.B185d.B189d.B190d.B191偰d.B220.FOOTSTOOLd.B225囚d.B230嗟",
  "d.B231ćd.B232d.B233.SWORDd.B234d.B236d.B240.WHEELED供d.B241供d.B242供四d.B243偭d.B245d.B246c仩.B247.DIPTEc侚.B248d.B249d.B251d.B252d.B253d.B254.DARTd.B255d.B256d.B257d.B258d.B259d.VESSEL.B155e.B200e.B201e.B202e.B203e.B204e.B205e.B206e.B207e.B208e.B209e.B210e.B211e.B212e.B213e.B214e.B215e.B216e.B217e.B218e.B219e.B221e.B222e.B226e.B227e.B228e.B229e.B250e.B305!10100a.AEGEAN˫ɖƒdĕb͑Ė!10107bƙĒcĎcėcĝcġcĪcĲcīcķcŵcǛcɴcʫcȅcʽcǾc˲cǯcĒĵcĎĵcėĵcĝĵcġĵcĪĵcĲĵcīĵcķĵcĒŃcĎŃcėŃcĝŃcġŃcĪŃcĲŃcīŃcķŃcŵŃcǛŃcɴŃcʫŃcȅŃcʽŃcǾŃc˲ŃcǯŃ!10137b囜偔偦cϏ丯c亀丯ç丯c俜丯b剡仺Ϗ丯b囝仺Ϗ丯b仺亀丯ç丯aɈ.ACROPHONIC.ATTICĒǿeĳe凢dġdȅdġĵeŃdȅŃdġ亅dŵ亅dȅ亅dĒĵ亅dġĵ亅dĒŃ亅dġŃ亅e丰dŵ丰dȅ丰dĒĵ丰dġĵ丰dĒŃ丰dŵŃ丰dȅŃ丰dŵ劲c.HERAEUMĒ.PLETHRONc任Ēc劳Ēc労Ďc任Ďc.CYRENAICĎ回c労Ď回c劵ġdŵeɥăc劳ŵc.MESSENIANŵc任ŵdɴc劵ȅeɥăc劳ȅc任ȅdĒĵdėĵc労ġĵc劵ġĵc任ġĵc.CARYSTIANġĵc.NAXIANġĵc任ĒŃdġŃc.DELPHICġ劲c.STRATIANȅ劲bĒĳąeɥăbĎϐąbėˢąb双ąb.TALENTąb凢ąb.OBOLąbĎ傽ąbė傽ąbĝ傽ąbġ傽ąb.METRETESąb.KYATHOS偔ąb.LITRAąb.OUNKIAąb.XESTESąb.ARTABEąb.AROURAąb.GRAMMAąb.TRYBLION偔ąbŨąbĒǿąb.SINUSOIDąb.INDICTIONąa.NOMISMAą!10190a佦.SEXTANSąb.UNCIAąb.SEMUNCIAąb囟ąb.DIMIDIA囟ąb.SILIQUAąb.DENARIUSąb.QUINARIUSąb.SESTERTIUSąb.DUPONDIUSąb̈ąb.CENTURIALąa.ASCIAĠ!101A0aɈĠʣȲ!101D0a.PHAISTOS傾ą因d.PLUMEDʕd.TATTOOEDʕd.CAPTIVEd剟d丫d偰d.GAUNTLETd.TIARAdćd仢d刋d刄d.MANACLES",
  "d.MATTOCKd劫d嗔d囡d团団d.DOLIUMd.COMBd.SLINGd.COLUMNd.BEEHIVEd劶dǻd.HIDEd.BULLSʷd͘d傈d囤d囥d.TUNNYd仄d団Χdϣd.PAPYRUSd劷d.LILYd傞͙d嗩d.GRATERd.STRAINERdĂ剣dΏ.BANDdǦ˪ğ!10280a.LYCIANāČcďcŶc.BHcŖcŢcĔcŷcŬc丑cƀcřcƢcĭcňcĽc傚c伲cċcŮc倸cĦcħcŚc劸cȃcƽcşcų!102A0a.CARIANāČc.P2cŢcĭc.UUUcĦc.LDc励cƢcŶcňcčc.D2cŚc乪c.SH2cħc.C-18cċc伲cųcĽc.TT2cŮc傶cĔcďc.UUUUcřc.K2c.NDcƇcŖc.G2c剪c.ST2cʻcŻc.C-39c劸c.UUU2cǣc剴c.MB2c.MB3c.MB4c.LD2c侜c.UUU3!102E0aɊ.EPACTϺĖcŒĒdĎdėdĝdġdĪdĲdīdķcƙŵdǛdɴdʫdȅdʽdǾd˲dǯdĒĵdĎĵdėĵdĝĵdġĵdĪĵdĲĵdīĵdķĵ!10300aƳ͸āČd˥dɿdɫdďdˉdɬdǘdǮdĔdĹdɭdʥdƽdʞdčdǃdǽdʊd˦dͨdǲdċd.EKSd再d冷d·d.ERSdɔdŻdƇd.ESSc΅Ēdġdŵdȅ!1032Dcā˕d哱̄d哰̄a.GOTHICā.AHSAc.BAIRKANc.GIBAc.DAGSc.AIHVUSc.QAIRTHRAc.IUJAc.HAGLc.THIUTHc.EISc.KUSMAc.LAGUSc.MANNAc.NAUTHSc.JERc.URUSc.PAIRTHRAcǯc.RAIDAc.SAUILc.TEIWSc.WINJAc.FAIHUc.IGGWSc卒c.OTHALcķĵ!10350aƳ囦āȃd中d.GAId囧dďd.ZHOId.DZHOId傁d.DZITAdĔd.KOKEd.LEId.MENOEd囨d.VOOId.PEEId.REId佒dύdċd.CHERYd.SHOOId.SHCHOOId.YRYdͩdčdǀd·dĶd.TSIUd.VERd侖d偿dδdʹdǰdŇd傸aǦƳ囦āȃe囧e傁e囨e佒!10380a.UGARITICā.ALPAcʏc.GAMLAcƘcʅcȿcəc̙c.HOTAc乍cΌcȘcȗĉcʐc.DHALcǄc͋c.SAMKAcȂc̤c囩c.QOPAc.RASHAc.THANNAcʺcĘcĔcċc剁!1039Fb˫仱aƳ厬ąČdĔdċdĹdʊdŜd˘d˱dƌdƉd丐dŐdɍdŔdʙd˗dƠdļdŦdǙdŅdȇdņdȣdǫdŇdưdψdľdɰdńdődƿdƆdǠdĶ!103C8d.AURAMAZDAAd.AURAMAZDAA-2d.AURAMAZDAAHAd.XSHAAYATHIYAd.DAHYAAUSH",
  "d.DAHYAAUSH-2d.BAGAd.BUUMISHc˫仱cƙĒdĎdŵdǛdĵ!10400a.DESERETĄāŴĔeďeČe͆ečeǀdƺĔeďeČe͆ečeǀd͉d依dͱd仇dşdϋd仄d仅d仈d倨d仉d凉d囪d·d丏dϭd佊dͨd佇dʞd倦d˦dɭdʥdƽd̻d会d効bĂāŴĔeďeČe͆ečeǀdƺĔeďeČe͆ečeǀd͉d依dͱd仇dşdϋd仄d仅d仈d倨d仉d凉d囪d·d丏dϭd佊dͨd佇dʞd倦d˦dɭdʥdƽd̻d会d効a.SHAVIANā.PEEPc嘱c.KICKc乩c.THIGHcɗc.SUREc啱c.YEAc.HUNGc.BIBc.DEADc.GAGc.VOWc.THEYc噴c仺c.JUDGEc.WOEc.HA-HAc.LOLLc.MIMEc.IFc囫cǋc.ADOcƚc囙c˷c͆c.ROARcǄc傍c.AGEc並cĩc.OAKc.OOZEc傼c.AWEc.AREcŰc劺c偆c.ARRAYc从c囬c.YEWa.OSMANYAāŊcŦcŐcƉc˱cƘc.DEELcľcőc.SHIINcǁc园cŜcǙc劻c厸c.LAANc.MIINc.NUUNcǭcĶcŇcČcďcĔcčcċcũcǕcǀ!104A0bŒŨcĒcĎcėcĝcġcĪcĲcīcķ!104B0a.OSAGEĄāČdżdȂd͆d囮dƑd囯dďd困dĶd囱dĔdĹd囲d剄dńdņdŅdčd図dļd围dődƆdŐd囵dȚd囶dˮdǁdċdƊdƘdǅdƿdɮ!104D8bĂāČdżdȂd͆d囮dƑd囯dďd困dĶd囱dĔdĹd囲d剄dńdņdŅdčd図dļd围dődƆdŐd囵dȚd囶dˮdǁdċdƊdƘdǅdƿdɮ!10500a.ELBASANāČc˥cωcɔcɫc傡c侕cοcďc̈́cΛc儍cǘcĔc̾cɿc˯c.LLEcțcȜcŅcϹcčcǃc倝cʪc噓cɳcǽcǲcǮcċcˉc仆cŤcɬcˊcʤc.GHAMMAc冷!10530a.CAUCASIAN.ALBANIANā.ALTd产d儓d嘮d劼d.ZARLd囷d.ZHILd.TASdƑd.YOWDdɮd.IRBdƆd囸d.INYAd.XEYNd.DYANd严d.JHOXd.KARd.LYITd.HEYTd.QAYd.AORd.CHOYdɓd.CYAYd囹d伾d.NOWCd.DZYAYd.SHAKd.JAYNdƚd.TYAYd.FAMd.DZAYd噑d仼d.GHEYSd傔d.SEYKd.VEYZd.TIWRd哃d.IWNd.CYAWd园d.YAYDd儘d.KIW!1056Fc.CITATIONĖa.VITHKUQIĄāČd伸d˥dωdɔdɫd侕dοdďd̈́dŜ!1057CdĶdχdĔd固d̾dĹdńdȴdțdȜdϹdčdǃdʆdʪ!1058CdɳdǽdǲdǮdċdˉd仆!10594dŤdɬ!10597bĂāČd伸d˥dωdɔdɫd侕",
  "dοdďd̈́dŜ!105A3dĶdχdĔd固d̾dĹdńdȴdțdȜdϹdčdǃdʆdʪ!105B3dɳdǽdǲdǮdċdˉd仆!105BBdŤdɬ!10600a囍Čą.AB001d.AB002d.AB003d.AB004d.AB005d.AB006d.AB007d.AB008d.AB009d.AB010d.AB011d.AB013d.AB016d.AB017d.AB020d.AB021d.AB021Fd.AB021Md.AB022d.AB022Fd.AB022Md.AB023d.AB023Md.AB024d.AB026d.AB027d.AB028d.A028Bd.AB029d.AB030d.AB031d.AB034d.AB037d.AB038d.AB039d.AB040d.AB041d.AB044d.AB045d.AB046d.AB047d.AB048d.AB049d.AB050d.AB051d.AB053d.AB054d.AB055d.AB056d.AB057d.AB058d.AB059d.AB060d.AB061d.AB065d.AB066d.AB067d.AB069d.AB070d.AB073d.AB074d.AB076d.AB077d.AB078d.AB079d.AB080d.AB081d.AB082d.AB085d.AB086d.AB087d.A100-102d.AB118d.AB120d.A120Bd.AB122d.AB123d.AB131Ad.AB131Bd.A131Cd.AB164d.AB171d.AB180d.AB188d.AB191d囻d囼d国d图d囿d圀d圁d圂d圃d.A309Bd.A309Cd圄d圅d圆d.A313Ad.A313Bd.A313Cd圇d圈d圉d圊d國d圌d圍d圎d圏d圐d圑d園d圓d圔d圕d圖d圗d團d.A332d圙d圚d圛d圜d圝d圞d土d圠d圡d圢d圣d圤d圥d圦d圧d在d圩d圪d圫d圬d圭d圮d圯d地d圱d圲d圳d圴d圵d圶d圷d圸d圹d场d圻d圼d圽d圾d圿d.A400-VASd.A401-VASd.A402-VASd.A403-VASd.A404-VASd.A405-VASd.A406-VASd.A407-VASd.A408-VASd.A409-VASd.A410-VASd.A411-VASd.A412-VASd.A413-VASd.A414-VASd.A415-VASd.A416-VASd.A417-VASd.A418-VASd址d坁d坂d坃d坄d坅d坆d均d坈d坉d坊d坋d坌d坍d坎d坏d坐d坑d坒d坓d坔d坕d坖d块d.A531d.A532d.A534d.A535d.A536d.A537d.A538d.A539d.A540d.A541d.A542d.A545d.A547d.A548d.A549",
  "d.A550d.A551d.A552d.A553d.A554d.A555d.A556d.A557d.A559d.A563d.A564d.A565d.A566d.A568d.A569d.A570d.A571d.A572d.A573d.A574d.A575d.A576d.A577d.A578d.A579d.A580d.A581d.A582d.A583d.A584d.A585d.A586d.A587d.A588d.A589d.A591d.A592d.A594d.A595d.A596d.A598d.A600d.A601d.A602d.A603d.A604d.A606d.A608d.A609d.A610d.A611d.A612d.A613d.A614d.A615d.A616d.A617d.A618d.A619d.A620d.A621d.A622d.A623d.A624d.A626d.A627d.A628d.A629d.A634d.A637d.A638d.A640d.A642d.A643d.A644d.A645d.A646d.A648d.A649d.A651d.A652d.A653d.A654d.A655d.A656d.A657d.A658d.A659d.A660d.A661d.A662d.A663d.A664!10740d.A701Čd.A702Ŷd.A703Ţd.A704ďd.A705Ǝd.A706şd.A707ƀd.A708řd.A709ĭd.A709-2.L2d.A709-3.L3d.A709-4.L4d.A709-6.L6d.A710ŷd.A711ųd.A712Ťd.A713Ǩd.A714.ABBd.A715.BBd.A717.DDd.A726.EYYYd.A732̾!10760d.A800d.A801d.A802d.A803d.A804d.A805d.A806d.A807!10780aȕāĂĄũc̘ɪȌdĳɪȌcĂȆdĄŶdŶĀĞ!10787dϰȩfĀǓĞgɩd俉ȩdŢĀƫfĞgĆƫdžďdǷžůďd儈ȩd单ǻdĄŖdŖĀĞdĄŖĀĞdşĀğdĄşd伛ĀĞd̀ƀĀğĆĞd卙ȩd博ȩdĭĀͦdĄĭĀͦdĭĀǓĞĆͦd億eĀǓĞdűŤfĀͦdčĀğdĄǞdǷǨdƢdűĦĀŴʷiĆǓĞdĦĀƫf乇dĄĦd単ȩĀɩd儇ȩfĀǓĞd俊ȩdŚĀǓĞdśĀĈĞ!107B2dĄŤcȨƅĀğcžȨƅĀğc儆ͥc儃ͥc华ͥc协ͥcǓͥĀǓĞcĂħĀɩ!10800a.CYPRIOT˓ČcďcĔcčcċcƉ!10808cͲ!1080AcĹcɿcʁcɌcʊcńc˯cʩcʗcɘcņcțcȣcɯcǫcŅcȜcȄcǡcȇcļcǃcǔcʧc̤cľcʪc˖cɁcɰcőcɳcɲcɗcɽcŐcǲcʨcĘcɍcƊcȾcɱcə!10837c˱c仆!1083Ccƿ!1083Fcͅ",
  "a.IMPERIAL.ARAMAICā˄dʼdˍdΪdǘdǭd̆d˨dΑd˽dˏd˾dʐdǄdˎd́dǃd˩d丱d̜dȗdː!10857cɑącƙĒdĎdėdŵdǛdĒĵeŃdŵŃa.PALMYRENEā˄cʼcˍcΪcǘcǭc̆c˨cΑc˽cˏc˾cʐcđǄcǄcˎćcǃc˩c丱c̜cȗcːbʄ劽bɒ劽bƙĒcĎcėcĝcġcŵcǛa.NABATAEANāđ˄c˄cđʼcʼcˍcΪcđǘcǘcǭc̆c˨cΑcđ˽c˽cđˏcˏcđ˾c˾cđʐcʐcđǄcǄcˎćcǃc˩c丱c̜cđȗcȗcː!108A7bƙĒcĎcėcĝb.CRUCIFORMƙĝbƙġcŵcǛcĒĵ!108E0a.HATRANā˄cʼcˍc.DALETH-RESHcǘcǭc坘c˨cΑc˽cˏc˾cʐcǄcˎc坙cǃc˩c丱!108F4cȗcː!108FBbƙĒcġcŵcǛcĒĵa.PHOENICIANā.ALFc产c.GAMLc.DELTcǘc刽c.ZAIc厇c乍cΌcȘc.LAMDcʐcǄc.SEMKcȂcǃc囩c儞c.ROSHcȗcʣbƙĒcŵcǛcĒĵcĎcė!1091Fb˫ɖa.LYDIANāČcŶcŖcŢcďcścĔcŤcřcĭcňcĽcčcĦc傶cŚcċcƎcƢcħc劸cȃcƽc冻c伲cū!1093FbɪĖ!10980a.MEROITIC.HIEROGLYPHICāČdďdĔdčdŇdƊdŦd.BA-2dļdņdŅd坚dȜd坛dľd坜dńdƘdχdőd坝dɳdĹdʆdŐd坞dǲd坟dĘdŔcĠ.VIDJd.VIDJ-2b.CURSIVEāČdďdĔdčdŇdƊdŦdļdņdŅdȜdľdńdƘdχdődʎődɳdĹdʆdŐdǲdĘdŔ!109BCcʌ͐ΫdĒĳc侙.RMTd.IMNcƙĒdĎdėdĝdġdĪdĲdīdķdŵdǛdɴdʫdȅdʽdǾ!109D2dĒĵdĎĵdėĵdĝĵdġĵdĪĵdĲĵdīĵdķĵdĒŃdĎŃdėŃdĝŃdġŃdĪŃdĲŃdīŃdķŃdŵŃdǛŃdɴŃdʫŃdȅŃdʽŃdǾŃd˲ŃdǯŃdĒĵŃdĎĵŃdėĵŃdĝĵŃdġĵŃdĪĵŃdĲĵŃdīĵŃdķĵŃcʌĒ.TWELFTHdĎΫdėΫdĝΫdġΫdĪΫdĲΫdīΫdķΫdŵΫa.KHAROSHTHIāČbŋąĔdċdƦĦ!10A05dďdč!10A0Cc˭ĖbąēœĐcƼcǴbāĹcƘcŜcǅ!10A15cƌcƑcƉ!10A19cƓcƻcǗcƾcǢcǌcŐcƠcŔcǁcŅcļcƭcŦcǎcņcŇcľcńcưcƆcǠcőcƿcĶc兔c.TTTHAc叏c.VHA!10A38bąįĉc.CAUDAcĕĐ!10A3FbǚbŒĒcĎcėcĝbƙŵcǛcĒĵdŃbʌĒĳ!10A50bǐĕcĂĿcĿc仦įc.MANGALAMc傿cșcēșc啦!10A60aƳǑ坠āǘe˾e˨eʐe丱eǭeȗe̜eʼeː",
  "e减eˏeǄe.KHETHe˩eˎë́eŊe坙e.DHADHEeˍeΪe.GHAYNeΑe坘e.DHALETHe˽e.THAWe.THETHdƙĒeȅd坡Ϭbǂ坠āȢeǱeťeĮeɀeǭe.ES-2eȏeʇeʒe.ES-1eȘeǧeƮeɡe.ES-3eɟeŊeȂeʔe.GEEMėeʺeȫe˧e乎eŀe̓eͪdƙĒeŵeǛ!10AC0a.MANICHAEANā˄cʼc厭cˍc.GHIMELcΪcǘcǭbąʚbā̆c.ZHAYINc.JAYINc.JHAYINc˨cΑc˽cˏc.XAPHc厯c˾c.DHAMEDHc.THAMEDHcʐcǄcˎćc.AAYINcǃc̈́c˩c丱c.XOPHc.QHOPHc̜cȗc.SSHINcːbʦĖĉdĐ!10AEBbƙĒcġcŵcǛcĒĵbǐƥc劽cēĕ乕ĕcĕ乕ĕdcĎŁcƒφ!10B00a.AVESTANāČcũc偋c.AAOcȃc坢cȆc坣cďcǕcčcǀcĔcŻcċcƇcɿc仆c喺c.XVEcΛc冊cʤcωc̾cǲcǮcɫc侕c佐cǃc̈́c˥c储c噁c.NGYEc.NGVEcȜc冂c.NNEcțc.HMEc.YYEc˕cˉcʪc˯cɳcɬcǽcˊc.SHYEc.SSHEcǘ!10B39bʦĖa佽ĎŁłĒĕǐaĂĎŁłĒĕǐaƍĎŁłĒĕǐbĒĕłĎŁǐbĎ坤łĒœǐbĒœłĎ坤ǐa.INSCRIPTIONAL.PARTHIANā˄dʼdˍdΪdǘdǭd̆d˨dΑd˽dˏd˾dʐdǄdˎd́dǃd˩d丱d̜dȗdː!10B58cƙĒdĎdėdĝdŵdǛdĒĵeŃb坥ā˄dʼdˍdΪdǘd坦d̆d˨dΑd˽dˏd˾d坧dǄdˎdǃd˩dȗdː!10B78cƙĒdĎdėdĝdŵdǛdĒĵeŃa.PSALTER坥ā˄dʼdˍdΪdǘd坦d̆d˨d˽dˏd˾d坧dǄdˎdǃd˩dȗdː!10B99cɑĖcűɑĖcĝŁĀǇfĕ!10BA9cƙĒdĎdėdĝdŵdǛdĒĵ!10C00aƳ.TURKICāȦČdȰČeȆdȦĔdȰĔeďdȦčeǞdȰǞdȦιdȰιdȦ坨dȰ坨dȦ俧dȰ俧dȦ坩dȰ坩dȦ亮dȰ亮dȦ.AEDe侞dȰ侞dȦ͉dȰ͉dȦ坪dȰ坪dȦ坫dȰ坫dȦ坬dȰ坬dȦκdȰκdȦ.AELe.ELTeʥeȃe仂dȰ仂dȦ僀dȰ僀dȦ僁dȰ僁dȦ份dȰ份e͈dȦ̻dȰ.AENGdȦ偅e剹e劾e侟dȰ侟dȦ伪dȰ伪dȦ势dȰ势dȦ勀dȰ勀dȦ儱dȰ儱dȦ.AERëe.AESeǋdȰǋdȦʞdȰʞdȦɐdȰɐdȦ坭dȰ坭dȦ俑e.BASH!10C80b.HUNGARIANĄāČeũe劼e坮e侟e僁e坯e坰eĆeďe几ďeǕe·e坱e坲eΊeĔeŻe坳e亳e俨e坴eɭe坵eʥeƽe份ečeǀe僂Ǟe僃Ǟe坶e偅e坷e˦eƺ˦eͨe坸e̚e僀e坹e交eċeƇe僂ɢe僃ɢe剰e侞e坺e坻ąe偉!10CC0cĂāČeũe劼e坮e侟",
  "e僁e坯e坰eĆeďe几ďeǕe·e坱e坲eΊeĔeŻe坳e亳e俨e坴eɭe坵eʥeƽe份ečeǀe僂Ǟe僃Ǟe坶e偅e坷e˦eƺ˦eͨe坸e̚e僀e坹e交eċeƇe僂ɢe僃ɢe剰e侞e坺e坻ąe偉!10CFAcƙĒdġdŵdȅdĒĵeŃa.HANIFI叁āČdŦdļdŐdƻdƉdƌdĶdƘdǙdŔdƾdľdʈdƿdődƆdĹdŜdńdņdŅdƊd坼ƊdŇd坼ŇdƃdƓdưcŋČdĔdċdďdčcĖ.SAKINdŅ.KHONNAcą.HARBAHAYd.TAHALAd.TANAd.TASSI!10D30cŒŨdĒdĎdėdĝdġdĪdĲdīdķ!10E60a.RUMIŒĒcĎcėcĝcġcĪcĲcīcķbƙŵcǛcɴcʫcȅcʽcǾc˲cǯcĒĵcĎĵcėĵcĝĵcġĵcĪĵcĲĵcīĵcķĵbʌĒĳdǿḑcĎϐ!10E80a.YEZIDIā.ELIFc˥cǃc再cǮcɳc侠c.CHIMc.CHHIMcχc˱ċc偁cľcεcƿcƉc俙cȗcɡcʔcŐcɬc囷c.XHEYNcǙcưdɥăcɀcȘc.KHAFc享cǱc俤cǄc侘cǭc依c効c.HAYc伜c̚!10EABbǦǳĖcηĖb唂Ė!10EB0bāǱĀĕĉc伜ĀŸĉ!10F00aƳ儫ā˄dđ˄dʼdđʼdˍdǘdđǘdǭd̆d˨d˽dˏd˾dʐdǄdđǄfĀĨƫdˎd́dɥ́dǃd˩dđ˩fĀĨƫd.RESH-AYIN-DALETHdȗdːdđːfĀĨƫcƙĒdĎdėdĝdġdŵdǛdɴdĒĵcʌĒĳcȀ.AYIN-DALETH!10F30a儫ā˄cʼcˍcǘcǭc̆c˨c˽cˏc˾cʐcǄcˎćcǃc˩c.RESH-AYINcȗcːc.FETHc坽b丒ȗbǦĕĐcĎŁĐcĕĉcĎŁĉcʱĉdĐcĞĉdĐcŴĞĐc̜ĐcğĐbƙĒcŵcǛcĒĵbǐĎĨ偟fĀŁcĿĀĕcĎ̳ĀŁcĳĿĀĕ!10F70aƳ.UYGHURā˄dʼd.GIMEL-HETHdǭd̆dđ˨d˽dˏd˾dʐdǄdˎdǃd˩d̜dȗdːd坽cǦĕĉeĐdĎŁĉfĐcǐįdĎ偟eŁdĝŁ!10FB0a.CHORASMIANā˄cĂ˄cʼcˍcΪcǘcǭc.CURLEDǭc̆c˨c˽cˏc˾cʐcǄcˎćcǃc̜cȗcːbƙĒcĎcėcĝcŵcǛcĒĵ!10FE0a.ELYMAICā˄cʼcˍcΪcǘcǭc̆c˨cΑc˽cˏc˾cʐcǄcˎćcǃc˩c丱c̜cȗcːbȀ.ZAYIN-YODH!11000a.BRAHMIąȎcƼcǴc亶c亷bāČcũcĔcŻcċcƇcƦĦdǣdĭdǹcďcżcčcƄcĹcƘcŜcǅcƃcƌcƑcƉcǵcƓcƻcǗcƾcǢcǌcŐcƠcŔcǁcŅcļcƭcŦcǎcņcŇcľcńcưcƆcǠcőcĶcȴcƳ乘亯eʈe伬bŋąũd.BHATTIPROLUũdĔdŻdċdƇdƦĦeǣeĭeǹdďdżdčdƄ",
  "bǚbșbēșbǐĕcēĕcƒc仦įc傿!11052bƙĒcĎcėcĝcġcĪcĲcīcķcŵcǛcɴcʫcȅcʽcǾc˲cǯcĒĵdŃbŒŨcĒcĎcėcĝcġcĪcĲcīcķbąƳ乘ǚbāƳ乘ƺďfčbŋąƳ乘ƺďgčbāƳ乘ȴ!1107Fbƙ义a.KAITHIąȎcƼcǴbāČcũcĔcŻcċcƇcďcżcčcƄcĹcƘcŜcǅcƃcƌcƑcƉcǵcƓcƻcǗcƾc叅cǢcεcǌcŐcƠcŔcǁcŅcļcƭcŦcǎcņcŇcľcńcưcƆcǠcőcĶbŋąũdĔdŻdċdƇdďdżdčdƄbąǚcɋbʦąb.ENUMERATIONąbƙąbɑĖbēɑĖbșbēșbŋąƦĦ!110CDbƙąĉ!110D0a.SORA.SOMPENGā参dȫd.BAHd.CAHd.DAHd坾d坿d.NGAHd.LAHd冓d垀d.PAHd傄d.RAHdťd呸d.JAHd.NYAHd͆d.EEHd凙d劋d传dΊd垁!110F0cŒŨdĒdĎdėdĝdġdĪdĲdīdķ!11100a.CHAKMAąȎcƼcǴbāũcĔcċcďc倡c厲c佈c垂c倶c兾c呖c呍c.JHAAc呅c厰c凊c呋c嚸c.NNAAc乥c伨c呈c.DHAAc亭c倬c呗c俥c.BHAAc具c.YYAAc京c伧c佂c但c倛cθbŋąČdĔdŻdċdƇdďdżdčdƄd会bčĖbƄĖbǚb.MAAYYAA!11136bŒŨcĒcĎcėcĝcġcĪcĲcīcķbɑĖbșbēșbȞĖbā咨bŋąũdοbā呂!11150a.MAHAJANIāČcĔcċcďcčcĹcƘcŜcǅcƌcƑcƉcǵcƓcƻcǗcƾcǢcǌcŐcƠcŔcǁcŅcļcƭcŦcǎcņcľcńcưcőcĶcʈbąɋbʦąbɑĖbȀ垃!11180a.SHARADAąȎcƼcǴbāČcũcĔcŻcċcƇcƦĦdǣdĭdǹcďcżcčcƄcĹcƘcŜcǅcƃcƌcƑcƉcǵcƓcƻcǗcƾcǢcǌcŐcƠcŔcǁcŅcļcƭcŦcǎcņcŇcľcńcȴcưcƆcǠcőcĶbŋąũdĔdŻdċdƇdƦĦeǣeĭeǹdďdżdčdƄbąǚcˑc亶c亷b̟bșbēșbʦąbɖb估ĖbąɋbŋȕĖb.EXTRAƺŋĖb.SUTRAĖbŋą儳ďbąƔȎbŒŨcĒcĎcėcĝcġcĪcĲcīcķb.EKAMbą乙b动b.CONTINUATIONąbɑ佛c作!111E1a取ʎŒĒdĎdėdĝdġdĪdĲdīdķcƙŵdǛdɴdʫdȅdʽdǾd˲dǯdĒĵeŃ!11200a.KHOJKIāČcũcĔcċcďcżcčcƄcĹcƘcŜc亱cǅcƃcƌcƑcƉc伮!11213cƓcƻcǗcƾcǢcǌcŐcƠcŔc俭cǁcŅcļcƭcŦc乖cǎcņcŇcľcńcưcőcĶcȴbŋąũdĔdŻdċdďdżdčdƄbąƼcǚcɋc亪bșbēșb˫ɖbɑĖbēɑĖbʦąbą乐!11280",
  "a.MULTANIāČcĔcċcďcĹcƘcŜ!11288cǅ!1128AcƌcƑcƉc伮!1128FcƓcƻcǗcƾc俭cǢcǌcŐcƠcŔcǁcŅcļcƭcŦ!1129FcǎcņcŇcľcńcưcőcĶcʈcεbɑĖ!112B0a.KHUDAWADIāČcũcĔcŻcċcƇcďcżcčcƄcĹcƘcŜc亱cǅcƃcƌcƑcƉc伮cǵcƓcƻcǗcƾc俭cʈcǢcǌcŐcƠcŔcǁcŅcļcƭcŦc乖cǎcņcŇcľcńcưcƆcőcĶbąƼbŋąũdĔdŻdċdƇdďdżdčdƄbąɋcǚ!112F0bŒŨcĒcĎcėcĝcġcĪcĲcīcķ!11300a勁ąǦƼĉcȎcƼcǴ!11305bāČcũcĔcŻcċcƇcƦĦdĭ!1130FcǕcż!11313cǀcƄcĹcƘcŜcǅcƃcƌcƑcƉcǵcƓcƻcǗcƾcǢcǌcŐcƠcŔcǁcŅ!1132AcļcƭcŦcǎcņcŇcľ!11332cńcȴ!11335cưcƆcǠcőcĶ!1133BaǦ凗Đa勁ąɋcˑbŋąũdĔdŻdċdƇdƦĦeǣ!11347dǕdż!1134BdǀdƄbąǚ!11350b̟!11357bƄ˭Ė!1135Dbą垄bā伯ƼdēƼcƦǣdǹbŋąƦĭeǹ!11366aǦ勁ŒŨdĒdĎdėdĝdġdĪ!11370cāČdĹdŅdψdļ!11400a.NEWAāČcũcĔcŻcċcƇcƦĦdǣdĭdǹcďcżcčcƄcĹcƘcŜcǅcƃc垅cƌcƑcƉcǵcƓc垆cƻcǗcƾcǢcǌcŐcƠcŔcǁcŅc仹cļcƭcŦcǎcņc垇cŇcľcεcńcϼcƊcƆcǠcőcĶbŋąũdĔdŻdċdƇdƦĦeǣeĭeǹdďdżdčdƄbąǚcȎcƼcǴcɋcˑcđƼb̟b.SIDDHIbșbēșbƟb侑φbʦąbŒŨcĒcĎcėcĝcġcĪcĲcīcķbēƟb劧Ė!1145Db凟ąb估Ėbā伯Ƽbą亶c亷!11480a.TIRHUTA儹bāČcũcĔcŻcċcƇcƦĦdǣdĭdǹcďcżcčcƄcĹcƘcŜcǅcƃcƌcƑcƉcǵcƓcƻcǗcƾcǢcǌcŐcƠcŔcǁcŅcļcƭcŦcǎcņcŇcľcńcưcƆcǠcőcĶbŋąũdĔdŻdċdƇdƦĦeǣeĭeǹdďdƺďdżdčdƺčdƄbąȎcƼcǴcǚcɋcˑb.GVANGbʦąb̟!114D0bŒŨcĒcĎcėcĝcġcĪcĲcīcķ!11580a乙āČcũcĔcŻcċcƇcƦĦdǣdĭdǹcďcżcčcƄcĹcƘcŜcǅcƃcƌcƑcƉcǵcƓcƻcǗcƾcǢcǌcŐcƠcŔcǁcŅcļcƭcŦcǎcņcŇcľcńcưcƆcǠcőcĶbŋąũdĔdŻdċdƇdƦĦeǣ!115B8dďdżdčdƄbąȎcƼcǴcǚcɋc乙bșbēșbɖĕcįb劭佛c作c嚨bȖĜϾĖbɑĖĀ僄Ć侀.ORNAMENTSgǪ串e令ĆǪ串hē串hǈ串",
  "dēœfĀ令dĀē串eǈ串eͶ串e.SEPTUPLE串e̳Ć令gĎ垈gĝ垈bā.THREE-CIRCLEɥĔc及ɥĔeŻcɥċbŋąɥċeƇ!11600a.MODIāČcũcĔcŻcċcƇcƦĦdǣdĭdǹcďcżcčcƄcĹcƘcŜcǅcƃcƌcƑcƉcǵcƓcƻcǗcƾcǢcǌcŐcƠcŔcǁcŅcļcƭcŦcǎcņcŇcľcńcưcƆcǠcőcĶcȴbŋąũdĔdŻdċdƇdƦĦeǣeĭeǹdďdżdčdƄbąƼcǴcǚc.ARDHACANDRAbșbēșbʦąbą.HUVA!11650bŒŨcĒcĎcėcĝcġcĪcĲcīcķ!11660a咻ΝĀƵbƛΝbēΝĀƵbǈΝĀƵbΝĀēƵbƛΝĀƵeēƵbƔΝdĀēƵb勂ΝdĀƵeēƵbű勂ΝĀēƵ!11680a.TAKRIāČcũcĔcŻcċcƇcďcżcčcƄcĹcƘcŜcǅcƃcƌcƑcƉcǵcƓcƻcǗcƾcǢcǌcŐcƠcŔcǁcŅcļcƭcŦcǎcņcŇcľcńcưcƆcőcĶcʈbąƼcǴbŋąũdĔdŻdċdƇdďdżdčdƄbąǚcɋbāʎƘbʦą!116C0bŒŨcĒcĎcėcĝcġcĪcĲcīcķ!11700a.AHOMāĹcƘcƃcŅcŐcɥŐcļcƭcŦcņcƉcƑcƠcľcńcőcƓcĶcČcŔcǁcŜcɥŜcǅcǎcǵcɥŦ!1171Dbɣąŧńeľe.LIGATINGľbŋąČdũdĔdŻdċdƇdďd儴dčdżdΒbą.KILLER!11730bŒŨcĒcĎcėcĝcġcĪcĲcīcķbƙŵcǛbąĂɑcɑc.RULAIbĠψbāƌcƻcǗcƾcǢcǌcȴ!11800a.DOGRAāČcũcĔcŻcċcƇcďcżcčcƄcĹcƘcŜcǅcƃcƌcƑcƉcǵcƓcƻcǗcƾcǢcǌcŐcƠcŔcǁcŅcļcƭcŦcǎcņcŇcľcńcưcƆcǠcőcĶcʈbŋąũdĔdŻdċdƇdƦĦeǣdďdżdčdƄbąƼcǴcǚcɋbʦą!118A0a.WARANG.CITIĄā倶eČeɱeǰeŇeȉeŻeƇeďeče͈eŜeɌe份e垉e偄e剩e乚e佐e劯eŔeɐeΒeʘe̤e垊e型e垌e什e垍e佒e垎cĂā倶eČeɱeǰeŇeȉeŻeƇeďeče͈eŜeɌe份e垉e偄e剩e乚e佐e劯eŔeɐeΒeʘe̤e垊e型e垌e什e垍e佒e垎cŒŨdĒdĎdėdĝdġdĪdĲdīdķcƙŵdǛdɴdʫdȅdʽdǾd˲dǯ!118FFc̟a.DIVES.AKURUāČdũdĔdŻdċdƇdď!11909dč!1190CdĹdƘdŜdǅdƃdƌdƑdƉ!11915dƓdƻ!11918dƾdǢdǌdŐdƠdŔdǁdŅdļdƭdŦdǎdņdŇd俬dľdńdưdƆdǠdődĶdȴdƿcŋąũeĔeŻeċeƇeď!11937eżeč!1193BcąƼdȎd兕cǚc垏垐ącŧŇcĢľcŧľcąɋcēșc侑φ",
  "cȖĜϾĖ!11950cŒŨdĒdĎdėdĝdġdĪdĲdīdķ!119A0a.NANDINAGARIāČcũcĔcŻcċcƇcƦĦdǣ!119AAcďcżcčcƄcĹcƘcŜcǅcƃcƌcƑcƉcǵcƓcƻcǗcƾcǢcǌcŐcƠcŔcǁcŅcļcƭcŦcǎcņcŇcľcńcưcƆcǠcőcĶcȴcʈbŋąũdĔdŻdċdƇdƦĦeǣ!119DAdďdżdčdƄbąƼcǴcǚcˑc乙b动bŋą儳ď!11A00a.ZANABAZARĺāČcŋąĔeɢeċeďeǞečeżeƄežĔd˭ĖcāĹdƘdŜdǅdƃdƌdƑdƉdƓdƻdǗdƾdǢdǌdŐdƠdŔdǁdŅdļdƭdŦdǎdņdȚdˮd̠d伵dɮdƿd亻dŇdľdńdưdƆdǠdődĶd伶cđɣĖcąǚdȎeĀƵdˬĀƵdƼdǴc垑āľc.CLUSTER-FINALāŇeľeńeưcĢʕĖc伴ʕĖcĖͯd˔dē˔dŴͯcĢ垒ʕĖc伴垒ʕĖc垓!11A50a.SOYOMBOāČbŋąĔdɢdċdďdčdǞdżdƄdƦĦeĭc˭ĖbāĹcƘcŜcǅcƃcƌcƑcƉcǵcƓcƻcǗcƾcǢcǌcŐcƠcŔcǁcŅcļcƭcŦcǎcņcȚcˮc̠cɮcƿc亻cŇcľcńcưcƆcǠcőcĶc伶bą亶c亷b垑āľdńdƆdőbđɣąŖeřeʻeŢeĽeŶeňeĦeĭe乪eħe亻bąƼcǴb伫Ėb垓bĖͯc˔cē˔c垄bʕĖĀɃĆͻĆǈ垔i垔hb.TERMINAL佛c作!11AB0a冝冞.NATTILIKȬd咟dȿd佔dĶdθd垃d.SHRIId.SHROd.SHROOd.SHRAd.SHRAAc.SPEc.SPIc.SPOc.SPAa.PAU.CIN垕āļeĹeńeņeŔeƿeưeƃeĶeŜeƘeőeŦeƌeŐeƠeŅeƭeľeǙeƑeČeďeĔečeċe仏e傸eđŮfřfŚfňfĽfĭfŷfʻfŤd̞ŹŴfd估Ȩƅd̞ŹŴđfđd估ȨƅđeŹŴffŴđfđd垖ŹdȨƅɶd垖ŹŴđfđd垗ŹŴfdȨƅd垗ŹŴđfđdȨƅđ!11C00a.BHAIKSUKIāČcũcĔcŻcċcƇcƦĦdǣdĭ!11C0AcďcżcčcƄcĹcƘcŜcǅcƃcƌcƑcƉcǵcƓcƻcǗcƾcǢcǌcŐcƠcŔcǁcŅcļcƭcŦcǎcņcŇcľcńcưcƆcǠcőcĶbŋąũdĔdŻdċdƇdƦĦeǣeĭ!11C38dďdżdčdƄbąȎcƼcǴcǚcˑbșbēșb˫ɖb侑.FILLER-1c.FILLER-2!11C50bŒŨcĒcĎcėcĝcġcĪcĲcīcķbƙĒcĎcėcĝcġcĪcĲcīcķcŵcǛcɴcʫcȅcʽcǾc˲cǯb勃偦Ė!11C70a.MARCHENʕĖbĖ˔bāĹcƘcŜcƃcƌcƑcƉcƓcŐcƠcŔcŅcļcƭcŦcņcȚcˮc̠cƊcɮcƿc亻cŇcľcńcƆcőcĶcČ!11C92b亼āĹdƘdŜ",
  "dƃdƌdƑdƉdƓdŐdƠdŔdŅdļdƭdŦdņdȚdˮd̠dƊdɮdƿ!11CA9dŇdľdńdƆdődĶdČbŋąũdĔdċdďdčbąƼcȎ!11D00a.MASARAM垘āČdũdĔdŻdċdƇdď!11D08dżdč!11D0BdƄdĹdƘdŜdǅdƃdƌdƑdƉdǵdƓdƻdǗdƾdǢdǌdŐdƠdŔdǁdŅdļdƭdŦdǎdņdŇdľdńdưdƆdǠdődĶdȴd伶d哣d凋cŋąũeĔeŻeċeƇeƦĦ!11D3Aeď!11D3Ceżeč!11D3FeƄcąƼdǴdɋdˬd兕cǚc.REPHAc.RA-KARA!11D50cŒŨdĒdĎdėdĝdġdĪdĲdīdķ!11D60a.GUNJALA垘āČdũdĔdŻdċdƇ!11D67dǕdż!11D6AdǀdƄdŇdưdŦdǎdņdĹdƘdŐdƠdńdŜdǅdŔdǁdŅdƌdƑdƻdǗdȴdƉdǵdƾdǢdƃdļdƭdĶdľdőcŋąũeĔeŻeċeƇ!11D90eǕeż!11D93eǀeƄcąƼdǴcǚc̟!11DA0cŒŨdĒdĎdėdĝdġdĪdĲdīdķ!11EE0a.MAKASARāĹcŜcƃcļcŦcņcŐcŔcŅcƌcƉcƓcŇcľcńcưcőcČb.ANGKAbŋąĔdċdďdčb.PASSIMBANGbȖĜɑ!11FB0a噣ā.YHA!11FC0a乘ʌĒ.THREE-HUNDRED-AND-TWENTIETHd发d.EIGHTIETHd勄d叒d勅cė叓d.SIXTY-FOURTHScĒ叔d.SIXTEENTH-1d.SIXTEENTH-2d儼dȵcė叕d修cĒ儽dǿd.HALF-1d.HALF-2cėˢc.DOWNSCALING凰.KIIZHbą.NELc.CEVITUc.AAZHAAKKUc.UZHAKKUc.MUUVUZHAKKUc.KURUNIc.PATHAKKUc.MUKKURUNIc.KAACUc.PANAMc勆c.VARAAKANc.PAARAMc.KUZHIc.VELIb.WET垙ąb剡垙ąb.LANDąbΨ勇ąb.TRADITIONAL儻ącƙąb凶ąbĆ乚ąb.SPENTąb唯ąbƯ嘏ąb.STARTINGȐąbą.MUTHALIYAc.VAKAIYARAA!11FFFbǐȖĜϾa.CUNEIFORMąČdĬČeʜeʳǝeĶeɄe了ƶe丳e仾c励cιdĬάe僅ƶe亃eʳǝeĶeɄƶe勈e͚e勉eċİċİċdƶc価dĬ僆eʳǝețİƽe僇e˟c亮c俨dĬ仿e勊İˠcκdĬκe勋eˠeĶe僈eʁeǽe临c.ALANc˄c勌dĬǽcȃdłȃdėĬdİ僉丵ȃİ僉fǺc勍c.APINc.ARADdĬ˃c.ARKABc.ASAL2cǋd垚ǝd垛ǝdłǋ丶ł丶丶ł丶˞fłǋhȑǋłǋłǋcάc勎cŦcʜc.BAG3c勏c僊dł僊c僆cįc.BARA2c˰dĬČeȶeɄƶ",
  "cʘdłʘιf丂dȑʘc勐dł勐c中c.BUR2cŔc偂d侢ĬČİ亇f勌f僆f˰fŜgİ亇fɾf伀f̴fĶf偃gİɘf丷fńfɘgİ垜fϢfȜf˞İ˞fɲf˟f̵İ伀f临c.DAMc垝c垞c.DARA4cʙc垟c侣dĬǽc勋c勑d͛ċƶɦcɦc˗dł˗dƶd丸c侤dĬϤc.DUB2c仒c.DUGUDc.DUHc勒c僅dƶeƶc.DUN4c.DUR2cďdĬ˞dłďǄłǄc侜dĬČİĶİŔeȶeȣe丹eǽeċc.EDINc.EGIRcɭcƽdĬʳfǝețdȑƽd丵ƽdǺc垠c仿cϤc勓dĬČfİέhĬέeȃeʜe僅ƶgƶeĶfƶeɄƶe͛fǺe企eńeέĬέeʩeɘe̵eʚcŜdƶc僋dĬČİŔİĶgĶgɄe価ǝİ丧eȃeǋeάİ亃eʜeįİľe中fİľeŔeʙe侣Ĭǽe侤eɭfİńeƽfĬʳǝeʳǝeȶeɾe僌fİČe伀İɽeĶİɘİϤe侥fİńeȬİʩe勔eɄƶe動İ̋İǋe丷e͛e勖fİέe企İȃeńețİƽeȣeǄfłǄeļe丹e伂eǽfİ侐e働e仫e˟eċeʚfİ˗dł僋c勗dȑ勗cϥdłϥȶłȶc亃dϥłϥȶłȶc.GALAMc.GAMc乡cʳdǝdłʳdȑʳcȶc.GAR3c.GASHANc垡dĬ˃cɾdĬďeċdȑɾc僌dł僌dȑ僌c.GIDIMc伀dƶc.GIR3dĬČİɄeʳǝeɄeɘİɄeļc.GISALcˠdȑˠdĬʜe˟dǝc˘dȑ˘c垢dĬ丷fĬɄƶeǄe丹İ丶dƶc̴dĬČİ˃e˃dł̴僎c垣c垤dĬǽc傣c垥c.GURUNc.GURUSHcĶdǝdƶc侥cȬdĬǋeάeʜeɦeϥe勘eǄeǽeċc̋c勔dĬȃe侥e͛e務eʚc.HUL2cĔdČc勚c垦dł垦中fǺc垧cɄd垟d˖dłɄ像ł像ʚłʚdƶc.ILdĬʳǝc.IL2cϡdĬ˟dȑϡd丵ϡdǺc勈cƯc偃c動cĹdĬČe亮fİ企eάeʜe僆eįe˰e仿eϤeŜe亃eʳǝeȶfİ僇İČeɾe伀eˠİ伂fȑˠe˘e垥eɄeϡe丷eʁe勖eʩeɘețfİ˗gɾgǲeȣfİ垨eȜeǄeǔeɰeőe伂eƆeǽe働ěe垩e垪e乢eċe̵eʚe垫Ĭļe临eΚc垬dȑ垬c垭c垮c僈c.KAD4c垯dł垯c丷dĬɄƶc勛dĬʜdȑ勛c.KAM2c.KAM4c͛d͚Ĭċł͚Ĭċdł͚͛Ĭċł͚Ĭċc垰cʁdĬʜeċeʚc勖c勘c.KISALc.KISHc侢dł侢cʊdłȬĬάʊłȬĬάc企c.KU4dɶăc.KU7c垱dƶc垲c˃d丵˃c侦c.KWU318cńc͚dĬČfİŔİĶgȶgέeκeȃeǋ垚ǝeʜe˰e垝eƽeŜeȶe̴fİ̴eĶe侥eȬĬǄeɄƶeϡfİĶgɘeʁe勘e企e垱fİȬİČe͚e務eɘe勜ețfİƽe丳eȜeǽİ仫e勊İˠİ仿hǝe予fİ予e仫e侧e˟eǲİČİɽİŅeċfİČgċİċe̵İǋeʚe临dǺc了dĬǽfİ仫dƶeł了ƶǽc.LAHSHUcέdĬέcǱ",
  "dĬ˃fİɰcʩc.LILc.LIMMU2c務cɘdĬʜc侨dĬκeʜeϤfǝeʳǝeȬĬʜeϡe垮e僈fİǋeʁeńİǋe͚ețİƽeȜeȇeɲİǋe垳İʘe丶dǝdȑ侨d丵侨dǺd丸c伃c僎dł僎d丵僎d丸c勝c勜cϢdłϢfȶłȶcņdĬ˟dƶc.MA2c坿c叿c亇c垜cțc勞cȣc僐cǫdłǫc募dƶc.MUNSUBc.MURGU2c丳dĬČe˃eƿdł丳fĬČİŅdȑ丳c垴dĬČfİʙeʙdƶcŅc垵c僉dƔdĬ̌ǝd丵僉c.NAGARc.NAM垶dc垷cȜdĬČeʚd丸cȄdĬďc.NI2c.NIMdĬʳǝeȶİʳǝc勠dĬȃeǋfİǋe̴ețİʳǝeȜeǄeǽfİČȃgǋhİǋe̵İǋe临c.NISAGcȇc垸cǄd了Ĭȶf亇f丹głǄ了Ĭ丹f临dǝdłǄdȑǄf了ł了c垨d価Ĭ勎f˰f仒f̴fɄƶf僈fńfȜf垹f̵d侢Ĭ˰gċcļc侩c勇c˞c垺cǔdĬČeιe˰eʘeďeĔe勚eċe̵dȑǔc垻dĬ勛eʚeƿd丵垻cľc.RABc˖cɰcőc仾垶ddĬČe˗e侤eĶe丷e˃eϢeȣeǄe丹e働e丧e̵e垼e侘e乫e临dł仾dƶc丹d͚Ĭάc.SANGA2c伂cƆc僇dĬČeʜeˠeȜe予e侐eċfİČc垽c.SHAB6cήcǽd̋dłǽϥłϥȶłȶf丧ł丧ȶłȶc.SHEG9c.SHENc勉c.SHESH2c.SHESHLAMc働dĬČeϡc垾dĬČe僊e勐e勑eȶeɄfƶe侦e勜e募e丹c.SHINIGc像dǝdł像中ł中c勊čdłƔ̌c予c.SHUBURcɲdƶc垩c勡dł勡予c垳c垹cɽdłɽc.SUDc.SUD2c垪c仫c.SUMASHc傥c.SUR9cŐdǆdĬȬeȣdƶc丧dł丧ȄłȄɦłɦdǺc侧dĬ˰e̴eǽěe丶eʚc˟c乢cǲdƶcʨdǝc劮c冸dĬ˟dł冸fϥłϥȶłȶcɍc丶c哫c傴c侐dł侐ƿłƿcċd̴dċċdłċļłļȶłȶf傥ł傥fċžłċžc̵c垼cʚd侦dĬʜeȣeċİċİċjƶdƶd丸eĬʜc.UDUGc侘dĬ͚ețİŔe僇eċc.UMBINc垫dĬ͛eļc丂dƶc乫dȑ乫d丸c勢dĬČİĶgŅeκeĶeǄe̵fİǋg˰c.UR4c.URIc.URI3c垿dĬČe勎eįe勒eŜe亃eʳǝeȶe˘eĶeɄeϡe動eʁeϢe僐eļeǽe勡eɍeċİ̴eʚe侪c侪dĬċc临dĬČeʊe˃e˟c.USHXc.USH2c.USHUMXc.UTUKIc.UZ3dĬ͛c.UZUcƿdǝdǺĬ˃c.ZAGc.ZAMXc.ZE2cΚdłΚc.ZI3c.ZIBd垛ǝc.ZIGc埀c͋c埁dĬČc.ZUBURc.ZUMc嘺埂cιĬǄc価ĬČc勌Ĭ.KUGc偂侢Ĭ̵İ亇c.DAG3cɦİ̌c侤Ĭǽc勓Ĭ̴eǽc僋Ĭȃİ丷İČeάc.GE22c.GIGc.HUSHcĹĬ勍e.ASH3eˠe̴eȬĬάeϢeļe.SHULeɍ",
  "e勢c͚Ĭɾc侨丸ĬʜdĬϤİέěc嗋c垴Ĭƿc.NA4c勣c.NIN9c勠Ĭ僊eɾc垸ƛǯƷc垺ǆc.PIR2c仾ĬɄƶc.TI2c侘Ĭțcċċ!12400b坡ąĎǋdėǋdĝǋdġǋdĪǋdĲǋdīǋdķǋdėɦdĝɦdġɦdĪɦdĲɦdīɦdķɦdĝċdġċdĪċdĲċdīċdķċdĒϦdĎϦdėϦdĝϦdġϦdĪϦdĲϦdīϦdķϦdĒ侫dĎ侫dė侫dĝ侫dġ侫dĎήdėήfɶădĝήdġήdĪήdĲήdīήdķήdĒ侬dĎ侬dė侬fɶădĝ侬dġ侬dήĬ亃İɦh僐dĒ侭dĎ侭dė侭fɶădĝ侭dġ侭dėɶă.ESH16g.ESH21dĝɶă埃g.LIMMU4g埃ČhŶdĪɶă.ASH9dĲɶă.IMIN3g勈ČhŶdīɶă.USSUg.USSU3dķɶă埄g.ILIMMU3g.ILIMMU4g埄ČdĎǋǝdėǋǝdĝǋǝdġǋǝdĪǋǝdĒ侮dĎ侮dė侮dĝ侮fɶădġ侮fɶăd.NIGIDAMINd.NIGIDAESHdĒ埅dĎ埅dȨ̄ɦdĎϐɦdġ唞ɦdȨ̄ɶăČdĎϐɶăČdĒȵǋeǿǋdƳ埆Ē処gǿdĒǿ傣eĳ傣d埂Ȩ̄eĎϐeʫeȅdĝċɶădġċɶădĪċɶădĲċɶădīċɶădķċɶă!12470bǐąƳ埆˫仱dĨȌdǊȌe唈e.QUADCOLON!12480bąιĬǄǝe予c亮ĬϤcʜĬɦǝc勏Ĭ価eȄeƿcʘłʘĬ垵cŔĬ˟c偂Ĭ˃c侣ĬɄeċċċc勋Ĭʚc仒Ĭ勍eǋfɐĊe勑e勒e仿eŜeɾe伀ƶeˠeĶeȬeɄƶe͛e˃e侦fİ͛e.LAK-020eǱfĬ˃e勝İˠe亇e勞eȣeȄeǔeǽeɲƶc侜Ĭ˃e˞c仿ųcϤȑϤc勓丸ĬǋfȬfɄƶfńfέfțf勞fɽdĬɽc僋Ĭ勏e侣ƶe仒ĬɄƶg͛e垠eŜeȶİʙgȜeĶİČe侦İ͛eǱfĬ˃e勝e丳eȜfİ侜gɾe垾e埀c勗ƛǯƷc垡ĬċcˠĬˠȑˠc垢ĬɄƶc̴İˠĬ˟cĶǝƶcȬĬǋłȬĬǋcĹĬʘeĹeċċċe乫c͚Ĭ͋ł͋c.LAK-003c.LAK-021c.LAK-025c.LAK-030c埇c.LAK-051c.LAK-062c埈ł埈ƶc.LAK-080c埉ł埉c.LAK-092c.LAK-130c.LAK-142c.LAK-210c.LAK-219c.LAK-220c.LAK-225c.LAK-228c.LAK-238c.LAK-265c.LAK-266c.LAK-343c.LAK-347c.LAK-348c.LAK-383c.LAK-384c.LAK-390c.LAK-441c.LAK-449dĬ˘eɄe˞İ伃g˞İ伃e̵İŦc.LAK-450c.LAK-457c.LAK-470c.LAK-483c.LAK-490c.LAK-492c.LAK-493c.LAK-495c.LAK-550c.LAK-608c.LAK-617dĬǋeʜe僅ƶƶe企eńe乢eǲe̵",
  "eʚe侪c.LAK-636c.LAK-648dĬ侤eŜeɄfƶeȄe˞İ˞İ伃e勉İʁeʚe侪c.LAK-724c.LAK-749c侨ƶĬǋdĬɦe侥e˞fİ˞İ伃e˟cȣİ埊c丳ł丳ĬŜg丷c勠Ĭ侣ƶeˠe垣eȬe垰e埇e亇e˞İ˞eċfİċe侪c仾ƶĬĶdĬƽeǽɐĊe˟c垽ǝcǽłǽdİ勔e垷e伂c予İ仒ĬȄe侜ĬȃcɲĬ˟c˟İ仾c傴Ĭʳǝeėɦc勢ƔdĬʚc垿Ĭ垞e.LAK-668e伃c埊c͋ł͋İ伂c埁Ĭėɦǝ!12F90a.CYPRO-MINOANą.CM001c.CM002c.CM004c.CM005c.CM006c.CM007c.CM008c.CM009c.CM010c.CM011c.CM012c.CM012Bc.CM013c.CM015c.CM017c.CM019c.CM021c.CM023c.CM024c.CM025c.CM026c.CM027c.CM028c.CM029c.CM030c.CM033c.CM034c.CM035c.CM036c.CM037c.CM038c.CM039c.CM040c.CM041c.CM044c.CM046c.CM047c.CM049c.CM050c.CM051c.CM052c.CM053c.CM054c.CM055c.CM056c.CM058c.CM059c.CM060c.CM061c.CM062c.CM063c.CM064c.CM066c.CM067c.CM068c.CM069c.CM070c.CM071c.CM072c.CM073c.CM074c.CM075c.CM075Bc.CM076c.CM078c.CM079c.CM080c.CM081c.CM082c.CM083c.CM084c.CM085c.CM086c.CM087c.CM088c.CM089c.CM090c.CM091c.CM092c.CM094c.CM095c.CM096c.CM097c.CM098c.CM099c.CM100c.CM101c.CM102c.CM103c.CM104c.CM105c.CM107c.CM108c.CM109c.CM110c.CM112c.CM114c.CM301c.CM302!13000a.EGYPTIAN埋埌c埍c城c埏c埐c.A005Ac埑c.A006Ac.A006Bc埒c埓c埔c埕c埖c埗c埘c埙c.A014Ac埚c埛c埜c.A017Ac埝c埞c域c埠c埡c埢c埣c埤c埥c埦c埧c埨c埩c埪c埫c.A032Ac埬c埭c埮c埯c埰c埱c埲c埳c.A040Ac埴c埵c.A042Ac埶c.A043Ac執c埸c培c基c埻c埼c埽c埾c埿c堀c堁c堂c堃c堄c堅c堆c堇c堈c堉c堊c堋c堌c堍c堎c堏c堐c堑c堒c囏c囓c囒c囕c囖c.B005Ac囑c囐c囎c囔c.C001c.C002c.C002Ac.C002B",
  "c.C002Cc.C003c.C004c.C005c.C006c.C007c.C008c.C009c.C010c.C010Ac.C011c.C012c.C013c.C014c.C015c.C016c.C017c.C018c.C019c.C020c.C021c.C022c.C023c.C024c.D001c.D002c.D003c.D004c.D005c.D006c.D007c.D008c.D008Ac.D009c.D010c.D011c.D012c.D013c.D014c.D015c.D016c.D017c.D018c.D019c.D020c.D021c.D022c.D023c.D024c.D025c.D026c.D027c.D027Ac.D028c.D029c.D030c.D031c.D031Ac.D032c.D033c.D034c.D034Ac.D035c.D036c.D037c.D038c.D039c.D040c.D041c.D042c.D043c.D044c.D045c.D046c.D046Ac.D047c.D048c.D048Ac.D049c.D050c.D050Ac.D050Bc.D050Cc.D050Dc.D050Ec.D050Fc.D050Gc.D050Hc.D050Ic.D051c.D052c.D052Ac.D053c.D054c.D054Ac.D055c.D056c.D057c.D058c.D059c.D060c.D061c.D062c.D063c.D064c.D065c.D066c.D067c.D067Ac.D067Bc.D067Cc.D067Dc.D067Ec.D067Fc.D067Gc.D067Hc.E001c.E002c.E003c.E004c.E005c.E006c.E007c.E008c.E008Ac.E009c.E009Ac.E010c.E011c.E012c.E013c.E014c.E015c.E016c.E016Ac.E017c.E017Ac.E018c.E019c.E020c.E020Ac.E021c.E022c.E023c.E024c.E025c.E026c.E027c.E028c.E028Ac.E029c.E030c.E031c.E032c.E033c.E034c.E034Ac.E036c.E037c.E038c.F001c.F001Ac.F002c.F003c.F004c.F005c.F006c.F007c.F008c.F009c.F010c.F011c.F012c.F013c.F013Ac.F014c.F015c.F016c.F017c.F018c.F019c.F020c.F021c.F021Ac.F022c.F023c.F024c.F025c.F026c.F027c.F028c.F029c.F030",
  "c.F031c.F031Ac.F032c.F033c.F034c.F035c.F036c.F037c.F037Ac.F038c.F038Ac.F039c.F040c.F041c.F042c.F043c.F044c.F045c.F045Ac.F046c.F046Ac.F047c.F047Ac.F048c.F049c.F050c.F051c.F051Ac.F051Bc.F051Cc.F052c.F053c.G001c.G002c.G003c.G004c.G005c.G006c.G006Ac.G007c.G007Ac.G007Bc.G008c.G009c.G010c.G011c.G011Ac.G012c.G013c.G014c.G015c.G016c.G017c.G018c.G019c.G020c.G020Ac.G021c.G022c.G023c.G024c.G025c.G026c.G026Ac.G027c.G028c.G029c.G030c.G031c.G032c.G033c.G034c.G035c.G036c.G036Ac.G037c.G037Ac.G038c.G039c.G040c.G041c.G042c.G043c.G043Ac.G044c.G045c.G045Ac.G046c.G047c.G048c.G049c.G050c.G051c.G052c.G053c.G054c.H001c.H002c.H003c.H004c.H005c.H006c.H006Ac.H007c.H008c.I001c.I002c.I003c.I004c.I005c.I005Ac.I006c.I007c.I008c.I009c.I009Ac.I010c.I010Ac.I011c.I011Ac.I012c.I013c.I014c.I015c.K001c.K002c.K003c.K004c.K005c.K006c.K007c.K008c.L001c.L002c.L002Ac.L003c.L004c.L005c.L006c.L006Ac.L007c.L008c堓c.M001Ac.M001Bc堔c堕c.M003Ac堖c堗c堘c堙c堚c堛c堜c.M010Ac堝c堞c.M012Ac.M012Bc.M012Cc.M012Dc.M012Ec.M012Fc.M012Gc.M012Hc堟c堠c堡c.M015Ac堢c.M016Ac堣c.M017Ac堤c堥c堦c堧c堨c.M022Ac堩c堪c.M024Ac堫c堬c堭c堮c.M028Ac堯c堰c報c.M031Ac堲c堳c.M033Ac.M033Bc場c堵c堶c堷c堸c堹c堺c.M040Ac堻c堼c堽c堾c.N001c.N002c.N003c.N004c.N005c.N006c.N007c.N008c.N009c.N010c.N011c.N012c.N013",
  "c.N014c.N015c.N016c.N017c.N018c.N018Ac.N018Bc.N019c.N020c.N021c.N022c.N023c.N024c.N025c.N025Ac.N026c.N027c.N028c.N029c.N030c.N031c.N032c.N033c.N033Ac.N034c.N034Ac.N035c.N035Ac.N036c.N037c.N037Ac.N038c.N039c.N040c.N041c.N042c.NL001c.NL002c.NL003c.NL004c.NL005c.NL005Ac.NL006c.NL007c.NL008c.NL009c.NL010c.NL011c.NL012c.NL013c.NL014c.NL015c.NL016c.NL017c.NL017Ac.NL018c.NL019c.NL020c.NU001c.NU002c.NU003c.NU004c.NU005c.NU006c.NU007c.NU008c.NU009c.NU010c.NU010Ac.NU011c.NU011Ac.NU012c.NU013c.NU014c.NU015c.NU016c.NU017c.NU018c.NU018Ac.NU019c.NU020c.NU021c.NU022c.NU022Ac.O001c.O001Ac.O002c.O003c.O004c.O005c.O005Ac.O006c.O006Ac.O006Bc.O006Cc.O006Dc.O006Ec.O006Fc.O007c.O008c.O009c.O010c.O010Ac.O010Bc.O010Cc.O011c.O012c.O013c.O014c.O015c.O016c.O017c.O018c.O019c.O019Ac.O020c.O020Ac.O021c.O022c.O023c.O024c.O024Ac.O025c.O025Ac.O026c.O027c.O028c.O029c.O029Ac.O030c.O030Ac.O031c.O032c.O033c.O033Ac.O034c.O035c.O036c.O036Ac.O036Bc.O036Cc.O036Dc.O037c.O038c.O039c.O040c.O041c.O042c.O043c.O044c.O045c.O046c.O047c.O048c.O049c.O050c.O050Ac.O050Bc.O051c.P001c.P001Ac.P002c.P003c.P003Ac.P004c.P005c.P006c.P007c.P008c.P009c.P010c.P011c.Q001c.Q002c.Q003c.Q004c.Q005c.Q006c.Q007c.R001c.R002c.R002Ac.R003c.R003Ac.R003B",
  "c.R004c.R005c.R006c.R007c.R008c.R009c.R010c.R010Ac.R011c.R012c.R013c.R014c.R015c.R016c.R016Ac.R017c.R018c.R019c.R020c.R021c.R022c.R023c.R024c.R025c.R026c.R027c.R028c.R029c.S001c.S002c.S002Ac.S003c.S004c.S005c.S006c.S006Ac.S007c.S008c.S009c.S010c.S011c.S012c.S013c.S014c.S014Ac.S014Bc.S015c.S016c.S017c.S017Ac.S018c.S019c.S020c.S021c.S022c.S023c.S024c.S025c.S026c.S026Ac.S026Bc.S027c.S028c.S029c.S030c.S031c.S032c.S033c.S034c.S035c.S035Ac.S036c.S037c.S038c.S039c.S040c.S041c.S042c.S043c.S044c.S045c.S046c.T001c.T002c.T003c.T003Ac.T004c.T005c.T006c.T007c.T007Ac.T008c.T008Ac.T009c.T009Ac.T010c.T011c.T011Ac.T012c.T013c.T014c.T015c.T016c.T016Ac.T017c.T018c.T019c.T020c.T021c.T022c.T023c.T024c.T025c.T026c.T027c.T028c.T029c.T030c.T031c.T032c.T032Ac.T033c.T033Ac.T034c.T035c.T036c.U001c.U002c.U003c.U004c.U005c.U006c.U006Ac.U006Bc.U007c.U008c.U009c.U010c.U011c.U012c.U013c.U014c.U015c.U016c.U017c.U018c.U019c.U020c.U021c.U022c.U023c.U023Ac.U024c.U025c.U026c.U027c.U028c.U029c.U029Ac.U030c.U031c.U032c.U032Ac.U033c.U034c.U035c.U036c.U037c.U038c.U039c.U040c.U041c.U042c.V001c.V001Ac.V001Bc.V001Cc.V001Dc.V001Ec.V001Fc.V001Gc.V001Hc.V001Ic.V002c.V002Ac.V003c.V004c.V005c.V006c.V007c.V007Ac.V007Bc.V008c.V009",
  "c.V010c.V011c.V011Ac.V011Bc.V011Cc.V012c.V012Ac.V012Bc.V013c.V014c.V015c.V016c.V017c.V018c.V019c.V020c.V020Ac.V020Bc.V020Cc.V020Dc.V020Ec.V020Fc.V020Gc.V020Hc.V020Ic.V020Jc.V020Kc.V020Lc.V021c.V022c.V023c.V023Ac.V024c.V025c.V026c.V027c.V028c.V028Ac.V029c.V029Ac.V030c.V030Ac.V031c.V031Ac.V032c.V033c.V033Ac.V034c.V035c.V036c.V037c.V037Ac.V038c.V039c.V040c.V040Ac.W001c.W002c.W003c.W003Ac.W004c.W005c.W006c.W007c.W008c.W009c.W009Ac.W010c.W010Ac.W011c.W012c.W013c.W014c.W014Ac.W015c.W016c.W017c.W017Ac.W018c.W018Ac.W019c.W020c.W021c.W022c.W023c.W024c.W024Ac.W025c.X001c.X002c.X003c.X004c.X004Ac.X004Bc.X005c.X006c.X006Ac.X007c.X008c.X008Ac.Y001c.Y001Ac.Y002c.Y003c.Y004c.Y005c.Y006c.Y007c.Y008c.Z001c.Z002c.Z002Ac.Z002Bc.Z002Cc.Z002Dc.Z003c.Z003Ac.Z003Bc.Z004c.Z004Ac.Z005c.Z005Ac.Z006c.Z007c.Z008c.Z009c.Z010c.Z011c.Z012c.Z013c.Z014c.Z015c.Z015Ac.Z015Bc.Z015Cc.Z015Dc.Z015Ec.Z015Fc.Z015Gc.Z015Hc.Z015Ic.Z016c.Z016Ac.Z016Bc.Z016Cc.Z016Dc.Z016Ec.Z016Fc.Z016Gc.Z016Hc.AA001c.AA002c.AA003c.AA004c.AA005c.AA006c.AA007c.AA007Ac.AA007Bc.AA008c.AA009c.AA010c.AA011c.AA012c.AA013c.AA014c.AA015c.AA016c.AA017c.AA018c.AA019c.AA020c.AA021c.AA022c.AA023c.AA024c.AA025c.AA026c.AA027c.AA028c.AA029c.AA030c.AA031",
  "c.AA032!13430cĨ义cŎ义c.INSERTɐǖ俢eȈ俢eǖȖeȈȖcɞĥcϳ凱cȖ凱!14400a.ANATOLIAN埋埌c埍c城c埏c埐c埑c埒c埓c埔c埕c.A010Ac埖c埗c埘c埙c埚c埛c埜c埝c埞c域c埠c埡c埢c埣c埤c埥c.A026Ac埦c埧c埨c埩c埪c埫c埬c埭c埮c埯c埰c埱c埲c.A039Ac埳c埴c.A041Ac埵c埶c執c埸c培c基c.A046Ac.A046Bc埻c埼c埽c埾c埿c堀c堁c堂c堃c堄c堅c堆c堇c堈c堉c堊c堋c堌c堍c堎c.A066Ac.A066Bc.A066Cc堏c堐c堑c堒c.A071c.A072c.A073c.A074c.A075c.A076c.A077c.A078c.A079c.A080c.A081c.A082c.A083c.A084c.A085c.A086c.A087c.A088c.A089c.A090c.A091c.A092c.A093c.A094c.A095c.A096c.A097c.A097Ac.A098c.A098Ac.A099c.A100c.A100Ac.A101c.A101Ac.A102c.A102Ac.A103c.A104c.A104Ac.A104Bc.A104Cc.A105c.A105Ac.A105Bc.A106c.A107c.A107Ac.A107Bc.A107Cc.A108c.A109c.A110c.A110Ac.A110Bc.A111c.A112c.A113c.A114c.A115c.A115Ac.A116c.A117c.A118c.A119c.A120c.A121c.A122c.A123c.A124c.A125c.A125Ac.A126c.A127c.A128c.A129c.A130c.A131c.A132c.A133c.A134c.A135c.A135Ac.A136c.A137c.A138c.A139c.A140c.A141c.A142c.A143c.A144c.A145c.A146c.A147c.A148c.A149c.A150c.A151c.A152c.A153c.A154c.A155c.A156c.A157c.A158c.A159c.A160c.A161c.A162c.A163c.A164c.A165c.A166c.A167c.A168c.A169c.A170c.A171c.A172c.A173c.A174c.A175c.A176c.A177c.A178c.A179c.A180c.A181c.A182c.A183c.A184c.A185c.A186c.A187c.A188c.A189c.A190c.A191c.A192c.A193c.A194c.A195c.A196c.A197c.A198c.A199c.A200c.A201c.A202c.A202A",
  "c.A202Bc.A203c.A204c.A205c.A206c.A207c.A207Ac.A208c.A209c.A209Ac.A210c.A211c.A212c.A213c.A214c.A215c.A215Ac.A216c.A216Ac.A217c.A218c.A219c.A220c.A221c.A222c.A223c.A224c.A225c.A226c.A227c.A227Ac.A228c.A229c.A230c.A231c.A232c.A233c.A234c.A235c.A236c.A237c.A238c.A239c.A240c.A241c.A242c.A243c.A244c.A245c.A246c.A247c.A248c.A249c.A250c.A251c.A252c.A253c.A254c.A255c.A256c.A257c.A258c.A259c.A260c.A261c.A262c.A263c.A264c.A265c.A266c.A267c.A267Ac.A268c.A269c.A270c.A271c.A272c.A273c.A274c.A275c.A276c.A277c.A278c.A279c.A280c.A281c.A282c.A283c.A284c.A285c.A286c.A287c.A288c.A289c.A289Ac.A290c.A291c.A292c.A293c.A294c.A294Ac.A295c.A296c.A297c.A298c.A299c.A299Ac.A300c囻c囼c国c图c囿c圀c圁c圂c.A309c圃c圄c圅c圆c.A313c圇c圈c圉c圊c國c圌c圍c圎c圏c圐c圑c園c圓c圔c圕c圖c.A329Ac圗c團c.A332Ac.A332Bc.A332Cc圙c圚c圛c圜c.A336Ac.A336Bc.A336Cc圝c圞c土c圠c圡c圢c圣c圤c圥c圦c圧c在c圩c圪c圫c圬c圭c圮c圯c地c圱c圲c圳c.A359Ac圴c圵c圶c圷c圸c.A364Ac圹c场c圻c圼c.A368Ac圽c圾c圿c.A371Ac.A372c.A373c.A374c.A375c.A376c.A377c.A378c.A379c.A380c.A381c.A381Ac.A382c.A383ľŰ˖c.A383Ac.A384c.A385c.A386c.A386Ac.A387c.A388c.A389c.A390c.A391c.A392c.A393īc.A394c.A395c.A396c.A397c.A398c.A399c.A400c.A401c.A402c.A403c.A404c.A405c.A406c.A407c.A408c.A409c.A410ϳ侙Ėc.A410AȖ侙Ėc.A411c.A412c.A413c.A414c.A415c.A416c.A417",
  "c.A418c.A419c.A420c.A421c.A422c.A423c.A424c.A425c.A426c.A427c.A428c.A429c.A430c.A431c.A432c.A433c.A434c.A435c.A436c.A437c.A438c.A439c.A440c.A441c.A442c.A443c.A444c.A445c.A446c.A447c.A448c.A449c.A450c.A450Ac.A451c.A452c.A453c.A454c.A455c.A456c.A457c.A457Ac.A458c.A459c.A460c.A461c.A462c.A463c.A464c.A465c.A466c.A467c.A468c.A469c.A470c.A471c.A472c.A473c.A474c.A475c.A476c.A477c.A478c.A479c.A480c.A481c.A482c.A483c.A484c.A485c.A486c.A487c.A488c.A489c.A490c.A491c.A492c.A493c.A494c.A495c.A496c.A497c址c坁c坂c坃c坄c坅c.A507c坆c均c坈c坉c坊c坋c.A514c坌c坍c.A517c.A518c.A519c坎c坏c.A522c坐c坑c坒c坓c坔c坕c坖c块!16800a嚌ā.PHASE-A堿争d.GBIEE.FONd勆争塀f塁d亭争d.SHUENSHUETd塂争d劇争d.SHINDAļ侒d勆ļ侒塀g塁d.MAEMBGBIEEdɍ勤d.NGANGUd.MAEMVEUXd.MANSUAEd.MVEUAENGAMd.SEUNYAMd.NTOQPENd.KEUKEUTNDAd.NKINDId傮d.NGKUENZEUMd.LAPAQd勥傤d僑.MFAAd.MAEKEUPd.PASHAEd.GHEUAERAEd.PAMSHAEd也塃d.NZUN勦dċ劝塄d.GHEUAEGHEUAEd僑塅d.SISAd.MGBASAd.MEUNJOMNDEUQd.MOOMPUQd.KAFAdļ勧d仓勧d.PETd.MAEMKPENd.NIKAd嘠d.TUAEPd.LUAEPd.SONJAMd.TEUTEUWENd.MAENYId亄d.NDAANGGEUAETd.KUOQd.MOOMEUTd.SHUMd.LOMMAEd.FIRId.ROMd.KPOQd.SOQd佹.PIEETd.SHIRAEd僑d勨勩塆d噞.MONGKEUAEQd.PAARAEd塇d.UNKNOWNd劖d塈d塉d塊d凘d塋d劈d塌d塍d勪d̊d.KAQd办d丏dɘd兊d塎d.MBAQc.PHASE-B.NSHUETdɍ.MAEMGBIEEd.SIEEd仞ɍd塏僒d佝.MAELEEd.KIEEMd.YEURAEd.MBAARAEd.KAM",
  "d.PEESHId.YAFU勧dǱ勩僓d.NTIEE.SHEUOQd傢.NJAAd.GHEUGHEUAEMd嘝dɍ塐d噖.NJAQd.SHEUAEQTUd争塑d勫.MBAAKETd̊僒d.KEUPUQd.GHEUGHENd.KEUYEUXd.LAANAEd.PARUMd.VEUMd.NGKINDI塒d.NGGEU劐d.WUAETd.SAKEUAEd.TAAMd.MEUQd.NGGUOQeƍd.MFIYAQd塓d.MBEURId.MONTIEENd.NYAEMAEd.PUNGAAMd勦.NGGEETd.FEUXd.MBUOQd乩d.KEUAEMdņ.NJEUAENAe.NJUQAd勥d塔d.NSENdņd.KIQd勬c.PHASE-C堿勤d劇d塆d.WANGKUOQd劖d.NDEUAEREEd.NGKAQd.GHARAEd.MBEEKEETd.GBAYId.NYIR.MKPARAQ塕d.NTU勫d塖d.PIRIEENd.NDOMBUd价.CABBAGE-TREEd.KEUSHEUAEPd.GHAPd.KEUKAQdǰ.MUOMAEd.NZEUMd.MBUEd.NSEUAENd勫d.YEUQd.KPARAQd倡d力d.NDIDAd.TAASHAEd塗d塂.YUEd.SUAETd.NGGUAEN僓d.VEUXd.NANSANAQdņ.KEUAERId塅d.NGGUONd劄d.MBIRIEENd.MGBASAQd.NTEUNGBAd.TEUTEUXd.NGGUMd塘d.NDEUTd.NSAd.NSHAQd.BUNGd.VEUAEPENd.MBERAEdɰd劚dǱd.TITUAEPd.NSUOT勬d.NJEEEEd亄d劒d塈d.MBUAEMdɘd傤d塉d勬d.WUPd.NGGUEETd.NSOMd.NTENd劅塇d.NSUNd塙dņ塐d京d劀d.SHUEQd.SETFONd劍d勤d塊d.KEUSEUXd.MBEUXd塚d价.PICKETd塛d塜d塝d塞d塟d伟塠e.FATIGUEd.NGAQd塎d.LIQd塡d仼d乍c.PHASE-D.MBUOd噄d侒d争d.NJIEEd.LIEEd.NJEUTd.NSHEEd.NGGAAMAEd僓d.WUAENd.NGKUNd倜d.NGKAPd.KEUAETMEUNd.TEUTd.SHEUAEd.NJAPd塓d亄d.YAEMMAEd.KUOMd噐d.MFEUTd.NDEUXd.MALEERId勦d.SEUAEQd伙d.NJEUAEMd.KEUOT.MBUAEd.NGKEURIdɍd垂d.NGKYEEd.FEUFEUAETd劌d.MGBOFUMd.LEUAEPd.NDONd.MONId.MGBEUNd.PUUTd.MGBIEEd.MFOdϢd.NSIEEPd价d.KWAETd凘d塋d劈d塛d塚d.RAEMd.TEEEE",
  "d.NGKEUAEQd.MFEUAEd.NSIEETd.KEUPd嘞d.PEUTAEd.NYUEd勥d塔d.MFIEEd.NGGWAENd.YUOMd˞d噢d塙d僒d.SUAEd垲d.NGGEUXd.NGKIEEd嘰d塕d.KUQd.NSUMd.TEUNd.MAENJETd.NGGAPd.LEUMd.NGGUOMd勩d塗d塢dʊd傰Ƴd劘d塣d̊d倳d嚎d劙dňd傮dǫd倱d嚏d傆dȇďd加dϋdȄd勨d.PUQd塒d傯d傰凬dʨd嚖d价Ĳd.SAQd倫c.PHASE-E劀d.TOONd塖d劄d.VOMd.LOONd倬d唖d.RAQd.NSHUOPd.NDUNd劣d乞d哘d.KPEUXd噅d乣d塃d塌d今d劅d塏d塍d噀d勪d.NGKEUXd.NGOQd.NSHUEd.RIMGBAd塜d.PEEMd倛d.NGGURAEd噬d.GHEUXd.NGKEUAEMd嚘d佹d叨d.NGGEEEEd.NDIQd.TAEN僒d仞d.PUMd傭.SOFTNESSd.NGGUAESHAE僓d.YIEEd.GHEUNd.TUAEd.YEUAEdʧd.TUMAEd.KEUAEd.SUAENd塑d.VEUAEd.WEUXd勭d̤d.TAAQd.GHAAMAEd.NGEUREUTd.SHEUAEQd.MGBENd傦d.NZAQd.NKOMd.GBETd傴d.KUETd喲d̊.CLEAVERd劊d.MFEUQd.NDIAQd.PIEEQd.YUEQd.LEUAEMd塘d.GBEUXd.NGKUPd亄d垁d.NGKAAMId.GHETdǙd.NTUMd.PEUTd.YEUMd.NGGEUAEd̊ˁd.NZUQd.POONd塝d.FUETd塄d塞d塢dϊĔd.MVId.PUAQd.NGKUMd傤d.PIETd僑d.YEUAETd.NGGUPdļ塤dϊ剮d劤d侓dČd塣dčdĔd.LAQdļ.PLURALd乥d.TAQd傭嘩佯d塟d.YEUXd.NGUAEd.YUAENd劜.SWIMMINGe剜d劝d.YUNd嚒d功d侓.EPOCHd嚓d务d乩d丏dɘdȣd劢d亿d.NGUAETdƃdͧd勨dϊ.REMEDYdŅdǔd傯dɌdζdņd囹d.TEUdʁd也dŵd.FAQd.GHOMc.PHASE-FĹdċdʊdǕd佃d劘d̊dńd倳d嚍d劙d乥d傭d劚dňd傮d倱dɲd力d傆d亄d嚐dȇd嚑d劜ďdŇd办d功d加d务dϋdɰdȄd劢d伟d嚔d侔dͧd劣d劤dƊdʩd傯dɌd嚕d傰dņdɯd价d乍d侏d嚗d.VUEQ!16A40a.MROāŐc倵cȉc俤cŦcŔcČcɇc古c.HAOc.DAIc倧c.KEAAEc哷c勪c勣cļcǀcčcɁc仃c.THEAc助cƊcďcɌc囸cńc.HAIc˖c.TEK!16A60bŒŨcĒcĎcėcĝcġcĪcĲcīcķ!16A6Ebșbēș",
  "a.TANGSAā.OZc.OCc勀c傞c厽c债c伪c嘛c.VZc.VCc.VQc.VXc侞c侟c.EQc傟c.IZc劾c势c嘚c.UZc偄c.UQc.UXc.AWZc.AWCc.AWQc塥c.UIZc.UICc.UIQc.UIXcđʻcŴ塦cƺ塧d塥c.UECc塧c.UEQc塦c.UIUZc.UIUCc.UIUQc.UIUXc.MZc塨c.MQc.MXcĹcƘcŜcƃcőcŇcƊcļcƓcƭcŦcņcŅcĶcńc嚪cŐcŔcľc仹cƆcƌcȚcǅc.HTTAcƠc˱cǙcǁcƑcƿ!16AC0bŒŨcĒcĎcėcĝcġcĪcĲcīcķ!16AD0a侯垀ā.ENNIdĹdɳdǙd傩d噡d坾d.DHIId.KPAHdͲd.HWAHdƊdͅd劑dʉdωd.UWUdĘdŦd乤d.YEINdļd.WADDAdČdčdǀdċdǕdďdĔ!16AF0cǦƂŹdŝŹd么Źd.LOW-MIDŹd.HIGH-LOWŹcƸƅ!16B00a.PAHAWH塩ŋ.KEEBd.KEEVd.KIBd.KIVd.KAUBd.KAUVd.KUBd.KUVd.KEBd.KEVd.KAIBd.KAIVd.KOOBd.KOOVd.KAWBd.KAWVd.KUABd.KUAVd.KOBd.KOVd.KIABd.KIAVd垭d.KAVd.KWBd.KWVd.KAABd.KAAVcɣ.VAUd.NTSAUd.LAUd垕d.NLAUd.RAUd.NKAUd.QHAUd.YAUd.HLAUd.MAUd.CHAUd.NCHAUd.HNAUd.PLHAUd.NTHAUd.NAUdƄd.XAUd.CAUcĖ侠.TUBeɗe.KESe.KHAVe.SUAMe.HOMe.TAUMcą侰.THOMe.TSHAB.CEEBd侠.CHEEMd侰.THIABe.FEEMd.XYEEM.NTXIVeȲe.TOVe.FAIBd侰.SEEVd塪.SUABd侰.NRUAd勚喱d.XAUSd侠.TSOV勮!16B50cŒŨdĒdĎdėdĝdġdĪdĲdīdķ!16B5Bcƙ勯d勃dŵϺd乌dĵ乌dŵ.BILLIONSd.TRILLIONS!16B63cą侰.LUBd.XYOOd劂d.THIRD-STAGE劂d.ZWJ.THAJd.HNUBd.NQIGd.XIABd.NTUJd仕d.TXHEEJ.CEEVd塪.TSEEBdʣd.LOSd.MUSd侠.HAIS.LUS填填e.CUAM.TSHOOJe.TXWVf.CHWVe.PUB.DAWBe.NRES.TOS!16B7Dc嗘ą.TSHEEJe.YEEGe.LISe.LAUJe.XYOOJe佑e.HAWJe.MUASe.THOJe.TSABe.PHABe.KHABe.HAMe.VAJe.FAJe刾e.TSWBe.KWMe.VWJ!16E40a.MEDEFAIDRINĄāňdħdśdŷd塬",
  "dŬd塭dŮdŚdŖdƎdĔdřdČdƀdďdŶdūdċdǰdĭdƢd傗d塮dųdŢdǞdĽdĦdčdżdŤbĂāňdħdśdŷd塬dŬd塭dŮdŚdŖdƎdĔdřdČdƀdďdŶdūdċdǰdĭdƢd傗d塮dųdŢdǞdĽdĦdčdżdŤbŒŨcĒcĎcėcĝcġcĪcĲcīcķbƙŵc͐c̏c丞c丟cͺcΓc丠cϗc両bŒĒɥăcĎɥăcėɥăbƟbƸƅbĠ.AIVAbȹ传!16F00a.MIAOāļcŦcȪļc俰cņc垇cʎņcǙcưc.VFAcŐcŔcȪƻdŐcƻcƾcŅc仹cȪǌcʎŅcǌc.NNHAcńc.LYAcϼc.LHYAc冴c.DLHAc.TLHYAc.DLHYAcĹcŜcȪĹcʆc.QGAcƃc垅cʎƃcĶc˱cǅc儷c.TSSAc.DZZAcƓc垆cˮc伵cȪˮd伵c勰ˮcƆcǠcɮc.ZSHAcȚc̠cȪȚcőcƿc.ZSAc傅c.ZZSAcʎ傅c.ZZYAc.ZZSYAcƊc͆cχc.BRIc.SYIc.DZYIcǲc̄c.RTE!16F4Fbąɣȕįbā儮bą塯c勰卜d塯bŋąČdũd.AHHdȃd͈dčdǀdədŷdďdƽd̻d.OEYdĔd傸d囬d.IANGd儌dʹdŻd侌d冹dċd仏d.UANd.UANGdƇd.UEId.UNGdŤdȪdȆd坣d偆dΐ偆d˦dΐ˦dżdοdƄdϱdĽdʻd.UOGd.YUId.OGd.OERd.VWd垧d助d.IONGd傹!16F8FbŹĈcǖĈcĉcĐbāΘcςc习cΙc俸c勱c僔c勰伺dΘd习dΙd俸d僔!16FE0a塰ϠĖa塱ϠĖaƳ嚙ĞĖcϠĖa塲ĂɆφ!16FF0a.VIETNAMESEɥ.READINGĖƌe.NHAY!18800a塰.COMPONENT-001b.COMPONENT-002b.COMPONENT-003b.COMPONENT-004b.COMPONENT-005b.COMPONENT-006b.COMPONENT-007b.COMPONENT-008b.COMPONENT-009b.COMPONENT-010b.COMPONENT-011b.COMPONENT-012b.COMPONENT-013b.COMPONENT-014b.COMPONENT-015b.COMPONENT-016b.COMPONENT-017b.COMPONENT-018b.COMPONENT-019b.COMPONENT-020b.COMPONENT-021b.COMPONENT-022b.COMPONENT-023b.COMPONENT-024b.COMPONENT-025b.COMPONENT-026b.COMPONENT-027b.COMPONENT-028b.COMPONENT-029b.COMPONENT-030b.COMPONENT-031b.COMPONENT-032",
  "b.COMPONENT-033b.COMPONENT-034b.COMPONENT-035b.COMPONENT-036b.COMPONENT-037b.COMPONENT-038b.COMPONENT-039b.COMPONENT-040b.COMPONENT-041b.COMPONENT-042b.COMPONENT-043b.COMPONENT-044b.COMPONENT-045b.COMPONENT-046b.COMPONENT-047b.COMPONENT-048b.COMPONENT-049b.COMPONENT-050b.COMPONENT-051b.COMPONENT-052b.COMPONENT-053b.COMPONENT-054b.COMPONENT-055b.COMPONENT-056b.COMPONENT-057b.COMPONENT-058b.COMPONENT-059b.COMPONENT-060b.COMPONENT-061b.COMPONENT-062b.COMPONENT-063b.COMPONENT-064b.COMPONENT-065b.COMPONENT-066b.COMPONENT-067b.COMPONENT-068b.COMPONENT-069b.COMPONENT-070b.COMPONENT-071b.COMPONENT-072b.COMPONENT-073b.COMPONENT-074b.COMPONENT-075b.COMPONENT-076b.COMPONENT-077b.COMPONENT-078b.COMPONENT-079b.COMPONENT-080b.COMPONENT-081b.COMPONENT-082b.COMPONENT-083b.COMPONENT-084b.COMPONENT-085b.COMPONENT-086b.COMPONENT-087b.COMPONENT-088b.COMPONENT-089b.COMPONENT-090b.COMPONENT-091b.COMPONENT-092b.COMPONENT-093b.COMPONENT-094b.COMPONENT-095b.COMPONENT-096b.COMPONENT-097b.COMPONENT-098b.COMPONENT-099b.COMPONENT-100b.COMPONENT-101b.COMPONENT-102b.COMPONENT-103b.COMPONENT-104b.COMPONENT-105b.COMPONENT-106b.COMPONENT-107b.COMPONENT-108b.COMPONENT-109b.COMPONENT-110b.COMPONENT-111b.COMPONENT-112",
  "b.COMPONENT-113b.COMPONENT-114b.COMPONENT-115b.COMPONENT-116b.COMPONENT-117b.COMPONENT-118b.COMPONENT-119b.COMPONENT-120b.COMPONENT-121b.COMPONENT-122b.COMPONENT-123b.COMPONENT-124b.COMPONENT-125b.COMPONENT-126b.COMPONENT-127b.COMPONENT-128b.COMPONENT-129b.COMPONENT-130b.COMPONENT-131b.COMPONENT-132b.COMPONENT-133b.COMPONENT-134b.COMPONENT-135b.COMPONENT-136b.COMPONENT-137b.COMPONENT-138b.COMPONENT-139b.COMPONENT-140b.COMPONENT-141b.COMPONENT-142b.COMPONENT-143b.COMPONENT-144b.COMPONENT-145b.COMPONENT-146b.COMPONENT-147b.COMPONENT-148b.COMPONENT-149b.COMPONENT-150b.COMPONENT-151b.COMPONENT-152b.COMPONENT-153b.COMPONENT-154b.COMPONENT-155b.COMPONENT-156b.COMPONENT-157b.COMPONENT-158b.COMPONENT-159b.COMPONENT-160b.COMPONENT-161b.COMPONENT-162b.COMPONENT-163b.COMPONENT-164b.COMPONENT-165b.COMPONENT-166b.COMPONENT-167b.COMPONENT-168b.COMPONENT-169b.COMPONENT-170b.COMPONENT-171b.COMPONENT-172b.COMPONENT-173b.COMPONENT-174b.COMPONENT-175b.COMPONENT-176b.COMPONENT-177b.COMPONENT-178b.COMPONENT-179b.COMPONENT-180b.COMPONENT-181b.COMPONENT-182b.COMPONENT-183b.COMPONENT-184b.COMPONENT-185b.COMPONENT-186b.COMPONENT-187b.COMPONENT-188b.COMPONENT-189b.COMPONENT-190b.COMPONENT-191b.COMPONENT-192",
  "b.COMPONENT-193b.COMPONENT-194b.COMPONENT-195b.COMPONENT-196b.COMPONENT-197b.COMPONENT-198b.COMPONENT-199b.COMPONENT-200b.COMPONENT-201b.COMPONENT-202b.COMPONENT-203b.COMPONENT-204b.COMPONENT-205b.COMPONENT-206b.COMPONENT-207b.COMPONENT-208b.COMPONENT-209b.COMPONENT-210b.COMPONENT-211b.COMPONENT-212b.COMPONENT-213b.COMPONENT-214b.COMPONENT-215b.COMPONENT-216b.COMPONENT-217b.COMPONENT-218b.COMPONENT-219b.COMPONENT-220b.COMPONENT-221b.COMPONENT-222b.COMPONENT-223b.COMPONENT-224b.COMPONENT-225b.COMPONENT-226b.COMPONENT-227b.COMPONENT-228b.COMPONENT-229b.COMPONENT-230b.COMPONENT-231b.COMPONENT-232b.COMPONENT-233b.COMPONENT-234b.COMPONENT-235b.COMPONENT-236b.COMPONENT-237b.COMPONENT-238b.COMPONENT-239b.COMPONENT-240b.COMPONENT-241b.COMPONENT-242b.COMPONENT-243b.COMPONENT-244b.COMPONENT-245b.COMPONENT-246b.COMPONENT-247b.COMPONENT-248b.COMPONENT-249b.COMPONENT-250b.COMPONENT-251b.COMPONENT-252b.COMPONENT-253b.COMPONENT-254b.COMPONENT-255b.COMPONENT-256b.COMPONENT-257b.COMPONENT-258b.COMPONENT-259b.COMPONENT-260b.COMPONENT-261b.COMPONENT-262b.COMPONENT-263b.COMPONENT-264b.COMPONENT-265b.COMPONENT-266b.COMPONENT-267b.COMPONENT-268b.COMPONENT-269b.COMPONENT-270b.COMPONENT-271b.COMPONENT-272",
  "b.COMPONENT-273b.COMPONENT-274b.COMPONENT-275b.COMPONENT-276b.COMPONENT-277b.COMPONENT-278b.COMPONENT-279b.COMPONENT-280b.COMPONENT-281b.COMPONENT-282b.COMPONENT-283b.COMPONENT-284b.COMPONENT-285b.COMPONENT-286b.COMPONENT-287b.COMPONENT-288b.COMPONENT-289b.COMPONENT-290b.COMPONENT-291b.COMPONENT-292b.COMPONENT-293b.COMPONENT-294b.COMPONENT-295b.COMPONENT-296b.COMPONENT-297b.COMPONENT-298b.COMPONENT-299b.COMPONENT-300b.COMPONENT-301b.COMPONENT-302b.COMPONENT-303b.COMPONENT-304b.COMPONENT-305b.COMPONENT-306b.COMPONENT-307b.COMPONENT-308b.COMPONENT-309b.COMPONENT-310b.COMPONENT-311b.COMPONENT-312b.COMPONENT-313b.COMPONENT-314b.COMPONENT-315b.COMPONENT-316b.COMPONENT-317b.COMPONENT-318b.COMPONENT-319b.COMPONENT-320b.COMPONENT-321b.COMPONENT-322b.COMPONENT-323b.COMPONENT-324b.COMPONENT-325b.COMPONENT-326b.COMPONENT-327b.COMPONENT-328b.COMPONENT-329b.COMPONENT-330b.COMPONENT-331b.COMPONENT-332b.COMPONENT-333b.COMPONENT-334b.COMPONENT-335b.COMPONENT-336b.COMPONENT-337b.COMPONENT-338b.COMPONENT-339b.COMPONENT-340b.COMPONENT-341b.COMPONENT-342b.COMPONENT-343b.COMPONENT-344b.COMPONENT-345b.COMPONENT-346b.COMPONENT-347b.COMPONENT-348b.COMPONENT-349b.COMPONENT-350b.COMPONENT-351b.COMPONENT-352",
  "b.COMPONENT-353b.COMPONENT-354b.COMPONENT-355b.COMPONENT-356b.COMPONENT-357b.COMPONENT-358b.COMPONENT-359b.COMPONENT-360b.COMPONENT-361b.COMPONENT-362b.COMPONENT-363b.COMPONENT-364b.COMPONENT-365b.COMPONENT-366b.COMPONENT-367b.COMPONENT-368b.COMPONENT-369b.COMPONENT-370b.COMPONENT-371b.COMPONENT-372b.COMPONENT-373b.COMPONENT-374b.COMPONENT-375b.COMPONENT-376b.COMPONENT-377b.COMPONENT-378b.COMPONENT-379b.COMPONENT-380b.COMPONENT-381b.COMPONENT-382b.COMPONENT-383b.COMPONENT-384b.COMPONENT-385b.COMPONENT-386b.COMPONENT-387b.COMPONENT-388b.COMPONENT-389b.COMPONENT-390b.COMPONENT-391b.COMPONENT-392b.COMPONENT-393b.COMPONENT-394b.COMPONENT-395b.COMPONENT-396b.COMPONENT-397b.COMPONENT-398b.COMPONENT-399b.COMPONENT-400b.COMPONENT-401b.COMPONENT-402b.COMPONENT-403b.COMPONENT-404b.COMPONENT-405b.COMPONENT-406b.COMPONENT-407b.COMPONENT-408b.COMPONENT-409b.COMPONENT-410b.COMPONENT-411b.COMPONENT-412b.COMPONENT-413b.COMPONENT-414b.COMPONENT-415b.COMPONENT-416b.COMPONENT-417b.COMPONENT-418b.COMPONENT-419b.COMPONENT-420b.COMPONENT-421b.COMPONENT-422b.COMPONENT-423b.COMPONENT-424b.COMPONENT-425b.COMPONENT-426b.COMPONENT-427b.COMPONENT-428b.COMPONENT-429b.COMPONENT-430b.COMPONENT-431b.COMPONENT-432",
  "b.COMPONENT-433b.COMPONENT-434b.COMPONENT-435b.COMPONENT-436b.COMPONENT-437b.COMPONENT-438b.COMPONENT-439b.COMPONENT-440b.COMPONENT-441b.COMPONENT-442b.COMPONENT-443b.COMPONENT-444b.COMPONENT-445b.COMPONENT-446b.COMPONENT-447b.COMPONENT-448b.COMPONENT-449b.COMPONENT-450b.COMPONENT-451b.COMPONENT-452b.COMPONENT-453b.COMPONENT-454b.COMPONENT-455b.COMPONENT-456b.COMPONENT-457b.COMPONENT-458b.COMPONENT-459b.COMPONENT-460b.COMPONENT-461b.COMPONENT-462b.COMPONENT-463b.COMPONENT-464b.COMPONENT-465b.COMPONENT-466b.COMPONENT-467b.COMPONENT-468b.COMPONENT-469b.COMPONENT-470b.COMPONENT-471b.COMPONENT-472b.COMPONENT-473b.COMPONENT-474b.COMPONENT-475b.COMPONENT-476b.COMPONENT-477b.COMPONENT-478b.COMPONENT-479b.COMPONENT-480b.COMPONENT-481b.COMPONENT-482b.COMPONENT-483b.COMPONENT-484b.COMPONENT-485b.COMPONENT-486b.COMPONENT-487b.COMPONENT-488b.COMPONENT-489b.COMPONENT-490b.COMPONENT-491b.COMPONENT-492b.COMPONENT-493b.COMPONENT-494b.COMPONENT-495b.COMPONENT-496b.COMPONENT-497b.COMPONENT-498b.COMPONENT-499b.COMPONENT-500b.COMPONENT-501b.COMPONENT-502b.COMPONENT-503b.COMPONENT-504b.COMPONENT-505b.COMPONENT-506b.COMPONENT-507b.COMPONENT-508b.COMPONENT-509b.COMPONENT-510b.COMPONENT-511b.COMPONENT-512",
  "b.COMPONENT-513b.COMPONENT-514b.COMPONENT-515b.COMPONENT-516b.COMPONENT-517b.COMPONENT-518b.COMPONENT-519b.COMPONENT-520b.COMPONENT-521b.COMPONENT-522b.COMPONENT-523b.COMPONENT-524b.COMPONENT-525b.COMPONENT-526b.COMPONENT-527b.COMPONENT-528b.COMPONENT-529b.COMPONENT-530b.COMPONENT-531b.COMPONENT-532b.COMPONENT-533b.COMPONENT-534b.COMPONENT-535b.COMPONENT-536b.COMPONENT-537b.COMPONENT-538b.COMPONENT-539b.COMPONENT-540b.COMPONENT-541b.COMPONENT-542b.COMPONENT-543b.COMPONENT-544b.COMPONENT-545b.COMPONENT-546b.COMPONENT-547b.COMPONENT-548b.COMPONENT-549b.COMPONENT-550b.COMPONENT-551b.COMPONENT-552b.COMPONENT-553b.COMPONENT-554b.COMPONENT-555b.COMPONENT-556b.COMPONENT-557b.COMPONENT-558b.COMPONENT-559b.COMPONENT-560b.COMPONENT-561b.COMPONENT-562b.COMPONENT-563b.COMPONENT-564b.COMPONENT-565b.COMPONENT-566b.COMPONENT-567b.COMPONENT-568b.COMPONENT-569b.COMPONENT-570b.COMPONENT-571b.COMPONENT-572b.COMPONENT-573b.COMPONENT-574b.COMPONENT-575b.COMPONENT-576b.COMPONENT-577b.COMPONENT-578b.COMPONENT-579b.COMPONENT-580b.COMPONENT-581b.COMPONENT-582b.COMPONENT-583b.COMPONENT-584b.COMPONENT-585b.COMPONENT-586b.COMPONENT-587b.COMPONENT-588b.COMPONENT-589b.COMPONENT-590b.COMPONENT-591b.COMPONENT-592",
  "b.COMPONENT-593b.COMPONENT-594b.COMPONENT-595b.COMPONENT-596b.COMPONENT-597b.COMPONENT-598b.COMPONENT-599b.COMPONENT-600b.COMPONENT-601b.COMPONENT-602b.COMPONENT-603b.COMPONENT-604b.COMPONENT-605b.COMPONENT-606b.COMPONENT-607b.COMPONENT-608b.COMPONENT-609b.COMPONENT-610b.COMPONENT-611b.COMPONENT-612b.COMPONENT-613b.COMPONENT-614b.COMPONENT-615b.COMPONENT-616b.COMPONENT-617b.COMPONENT-618b.COMPONENT-619b.COMPONENT-620b.COMPONENT-621b.COMPONENT-622b.COMPONENT-623b.COMPONENT-624b.COMPONENT-625b.COMPONENT-626b.COMPONENT-627b.COMPONENT-628b.COMPONENT-629b.COMPONENT-630b.COMPONENT-631b.COMPONENT-632b.COMPONENT-633b.COMPONENT-634b.COMPONENT-635b.COMPONENT-636b.COMPONENT-637b.COMPONENT-638b.COMPONENT-639b.COMPONENT-640b.COMPONENT-641b.COMPONENT-642b.COMPONENT-643b.COMPONENT-644b.COMPONENT-645b.COMPONENT-646b.COMPONENT-647b.COMPONENT-648b.COMPONENT-649b.COMPONENT-650b.COMPONENT-651b.COMPONENT-652b.COMPONENT-653b.COMPONENT-654b.COMPONENT-655b.COMPONENT-656b.COMPONENT-657b.COMPONENT-658b.COMPONENT-659b.COMPONENT-660b.COMPONENT-661b.COMPONENT-662b.COMPONENT-663b.COMPONENT-664b.COMPONENT-665b.COMPONENT-666b.COMPONENT-667b.COMPONENT-668b.COMPONENT-669b.COMPONENT-670b.COMPONENT-671b.COMPONENT-672",
  "b.COMPONENT-673b.COMPONENT-674b.COMPONENT-675b.COMPONENT-676b.COMPONENT-677b.COMPONENT-678b.COMPONENT-679b.COMPONENT-680b.COMPONENT-681b.COMPONENT-682b.COMPONENT-683b.COMPONENT-684b.COMPONENT-685b.COMPONENT-686b.COMPONENT-687b.COMPONENT-688b.COMPONENT-689b.COMPONENT-690b.COMPONENT-691b.COMPONENT-692b.COMPONENT-693b.COMPONENT-694b.COMPONENT-695b.COMPONENT-696b.COMPONENT-697b.COMPONENT-698b.COMPONENT-699b.COMPONENT-700b.COMPONENT-701b.COMPONENT-702b.COMPONENT-703b.COMPONENT-704b.COMPONENT-705b.COMPONENT-706b.COMPONENT-707b.COMPONENT-708b.COMPONENT-709b.COMPONENT-710b.COMPONENT-711b.COMPONENT-712b.COMPONENT-713b.COMPONENT-714b.COMPONENT-715b.COMPONENT-716b.COMPONENT-717b.COMPONENT-718b.COMPONENT-719b.COMPONENT-720b.COMPONENT-721b.COMPONENT-722b.COMPONENT-723b.COMPONENT-724b.COMPONENT-725b.COMPONENT-726b.COMPONENT-727b.COMPONENT-728b.COMPONENT-729b.COMPONENT-730b.COMPONENT-731b.COMPONENT-732b.COMPONENT-733b.COMPONENT-734b.COMPONENT-735b.COMPONENT-736b.COMPONENT-737b.COMPONENT-738b.COMPONENT-739b.COMPONENT-740b.COMPONENT-741b.COMPONENT-742b.COMPONENT-743b.COMPONENT-744b.COMPONENT-745b.COMPONENT-746b.COMPONENT-747b.COMPONENT-748b.COMPONENT-749b.COMPONENT-750b.COMPONENT-751b.COMPONENT-752",
  "b.COMPONENT-753b.COMPONENT-754b.COMPONENT-755b.COMPONENT-756b.COMPONENT-757b.COMPONENT-758b.COMPONENT-759b.COMPONENT-760b.COMPONENT-761b.COMPONENT-762b.COMPONENT-763b.COMPONENT-764b.COMPONENT-765b.COMPONENT-766b.COMPONENT-767b.COMPONENT-768a塲ĂɆ塳#fffffffffffffffffffffffffffffffffffffffffffffffffffffffffffffffffffffffffffffffffffffffffffffffffffffffffffffffffffffffffffffffffffffffffffffffffffffffffffffffffffffffffffffffffffffffffffffffffffffffffffffffffffffffffffffffffffffffffffffffffffffffffffffffffffffffffffffffffffffffffffffffffffffffffffffffffffffffffffffffffffffffffffffffffffffffffffffffffffffffffffffffffffffffffffffffffffffffffffffffffffffffffffffffffffffffffffffffffffffffffffffffffffffffffffffffffffff!1AFF0a΁ā.MINNANΘdςd习dΙ!1AFF5d勱d僔d.NASALIZED伺eΘeςe习eΙ!1AFFDe勱e僔!1B000cʎďa仵āʎ˕a.HENTAIGANAā.A-1c.A-2c.A-3c.A-WOc.I-1c.I-2c.I-3c.I-4c.U-1c.U-2c.U-3c.U-4c.U-5c.E-2c.E-3c.E-4c.E-5c.E-6c.O-1c.O-2c.O-3c.KA-1c.KA-2c.KA-3c.KA-4c.KA-5c.KA-6c.KA-7c.KA-8c.KA-9c.KA-10c.KA-11c.KA-KEc.KI-1c.KI-2c.KI-3c.KI-4c.KI-5c.KI-6c.KI-7c.KI-8c.KU-1c.KU-2c.KU-3c.KU-4c.KU-5c.KU-6c.KU-7c.KE-1c.KE-2c.KE-3c.KE-4c.KE-5c.KE-6c.KO-1c.KO-2c.KO-3c.KO-KIc.SA-1c坝c.SA-3c.SA-4c.SA-5c.SA-6c.SA-7c.SA-8c.SI-1c.SI-2c.SI-3",
  "c.SI-4c.SI-5c.SI-6c.SU-1c.SU-2c.SU-3c.SU-4c.SU-5c.SU-6c.SU-7c.SU-8c.SE-1c.SE-2c.SE-3c.SE-4c.SE-5c.SO-1c.SO-2c.SO-3c.SO-4c.SO-5c.SO-6c.SO-7c.TA-1c坞c.TA-3c.TA-4c.TI-1c.TI-2c.TI-3c.TI-4c.TI-5c.TI-6c.TI-7c.TU-1c.TU-2c.TU-3c.TU-4c.TU-TOc.TE-1c坟c.TE-3c.TE-4c.TE-5c.TE-6c.TE-7c.TE-8c.TE-9c.TO-1c.TO-2c.TO-3c.TO-4c.TO-5c.TO-6c.TO-RAc.NA-1c坚c.NA-3c.NA-4c.NA-5c.NA-6c.NA-7c.NA-8c.NA-9c.NI-1c.NI-2c.NI-3c.NI-4c.NI-5c.NI-6c.NI-7c.NI-TEc.NU-1c.NU-2c.NU-3c.NE-1c坛c.NE-3c.NE-4c.NE-5c.NE-6c.NE-KOc.NO-1c.NO-2c.NO-3c.NO-4c.NO-5c.HA-1c.HA-2c.HA-3c.HA-4c.HA-5c.HA-6c.HA-7c.HA-8c.HA-9c.HA-10c.HA-11c.HI-1c.HI-2c.HI-3c.HI-4c.HI-5c.HI-6c.HI-7c.HU-1c.HU-2c.HU-3c.HE-1c.HE-2c.HE-3c.HE-4c.HE-5c.HE-6c.HE-7c.HO-1c.HO-2c.HO-3c.HO-4c.HO-5c.HO-6c.HO-7c.HO-8c.MA-1c.MA-2c.MA-3c.MA-4c.MA-5c.MA-6c.MA-7c.MI-1c.MI-2c.MI-3c.MI-4c.MI-5c.MI-6c.MI-7c.MU-1c.MU-2c.MU-3c.MU-4c.ME-1c.ME-2c.ME-MAc.MO-1c.MO-2c.MO-3c.MO-4c.MO-5c.MO-6c.YA-1c.YA-2c.YA-3c.YA-4c.YA-5c否c.YU-1c.YU-2c.YU-3c.YU-4c.YO-1c.YO-2c.YO-3c.YO-4c.YO-5c.YO-6c.RA-1c坜c.RA-3c.RA-4c.RI-1c.RI-2c.RI-3c.RI-4c.RI-5c.RI-6c.RI-7c.RU-1c.RU-2c.RU-3c.RU-4c.RU-5c.RU-6c.RE-1c.RE-2c.RE-3c.RE-4c.RO-1c.RO-2c.RO-3c.RO-4c.RO-5c.RO-6c.WA-1c.WA-2c.WA-3c.WA-4c.WA-5c.WI-1c.WI-2c.WI-3c.WI-4",
  "c.WI-5c.WE-1c.WE-2c.WE-3c.WE-4c.WO-1c.WO-2c.WO-3c.WO-4c.WO-5c.WO-6c.WO-7c.N-MU-MO-1c.N-MU-MO-2a仵āʎͱa΁āʎȪd˕dͱ!1B150a仵āĂɱdȾdə!1B164a΁āĂɱdȾdədĽ!1B170a塱塳#ddddddddddddddddddddddddddddddddddddddddddddddddddddddddddddddddddddddddddddddddddddddddddddddddddddddddddddddddddddddddddddddddddddddddddddddddddddddddddddddddddddddddddddddddddddddddddddddddddddddddddddddddddddddddddddddddddddddddddddddddddddddddddddddddddddddddddddddddddddddddddddddddddddddddddddddddddddddddddddddddddddddddddddddddddddddddddddddddddddddddddddddddddddddddddddddddddddddddddd!1BC00a.DUPLOYANāşcųcŮcŚcƎcřcĭcŶcŢcścŖcĦcŮĽcŢħcƎĽcřňcĦħc丑c亊塴c塴c倸c亊ƀc.HLc况c.RHcňcĽcƀcħcňĽcĽňcƀňcħƀcňĀĕcĽĀĕcƀĀĕeŁʖĆĉcħĀĕfĐcňħcĽħcƀħcħħcňĽħcĽňħcƀňħcħƀħcƀħĀĕdĽeħcħŚeĦdŮeĦcŚħdĦħcŷc.WHcŷĦcħĽdňcřĦħcŖĦħcħřeĦcČc亊依c佚cčc.AOUcĔcďcʹcƺĔc傹cǕc亊Ίc塵Ĕc亊ǕcŴĔc˕cċcρc勲cċĽcŴċc塵ċc劋c亊ċc.OOHc依cϱcƊcəcɱc塶c.WOWc垐ċdčdĔdČc.PERNINȃdΒc亊ƽdȃdƚcƦň!1BC70b.AFFIXĊŎ为c么Ŏ为cĈŎ为cŝĨ为c么Ĩ为cƂĨ为c亰为d佡为d塷dƫdďĞdĔĞd塷Ğ!1BC80cƂŠd刓ŠdƏdŴƏdĕdĿdƒdɵdĨ!1BC90cŝŠd刓ŠdƏdŴƏdĕdĿdƒdɵdĨdć!1BC9CbąčĀǇb.THICKā凇bēĖbǐ.CHINOOKƸƅa.SHORTHAND.FORMATā勳c.CONTINUING勳cĴ剢cĩ剢!1CF00a.ZNAMENNYǦĖ侱主ħ͜ƚĊd主ħ͜ƚĊd勴ƚĊd侱主ƚĊd主ƚĊd塸ƚĊd事͝ƚĊd͝ƚĊd伄ƚĊd事͝ħ伅ƚĊd͝ħ伅ƚĊd伄ħ伅ƚĊd侱主ħ͜ƚĈd主ħ͜ƚĈd勴ƚĈd侱主ƚĈd主ƚĈd塸ƚĈd事͝ƚĈd͝ƚĈd伄ƚĈd事͝ħ伅ƚĈd͝ħ伅ƚĈd伄ħ伅ƚĈd勴ħ͜d事͝ħ͜d勵事͝d͝ħ͜",
  "e勵d伄ħ͜d事͝勵d侱伄d.ZELOdƚd.RAVNOd僕d.BORZAYAd.UDARKAd.PODVERTKAd.LOMKAd.KUPNAYAd.KACHKAd.ZEVOKd.SKOBAd.RAZSEKAd僖ƚĊ!1CF30c冑刢Ė.MRACHNOf.SVETLOf.TRESVETLOcĖ塹d塺塹d.OTSECHKAd塻eĀĨğd塼e.POLNAYAd.OBLACHKOd塽塾d.TOCHKAd.DVOETOCHIEc.ATTACHINGĨ塿cĖͿ塿d僖cŗ冑刢Ϭb.PRIZNAKȕ.LEVEL-2d.LEVEL-3d墀墁d僖d勮!1CF50b.NEUME.KRYUKd墂c.PARAKLITc.DVAś.CHELNUc境c.ZANOZHEKc墄dħ.OCHKOMc.PEREVODKAd侲c墄Ā塽塾c墅c.PALKAc丼c.GOLUBCHIK.BORZYd墂d.MRACHNYd.SVETLYd.TRESVETLYc.VRAKHIYA僗d勶d丽d僘d二僗e勶e丽e僘cē丼cž墅c.DERBITSAc.KHAMILOc塼c塻c墆勶d丽d僘d僕c塺境c墆二丽d墇d二僕d勷僗e丽e侲e二c.SLOZHITIEdħ伆d.ZAKRYTOEdħ͜c僖c勮c之c.KOBYLAc.ZMEYTSAc墈dħ伆e͜e伆Ĕ͜e͜Ĕ伆d.ZAKRYTAYAeħ伆dħ.ROGOMe.DVUMYA.ZAPYATYMIe伆Ĕ.PODCHASHIEMc.POLKULIZMYc墈侲c勸僗d.MRACHNOTIKHAYAd.KRYZHEVAYAd.POLUPOVODNAYAd僙d侲d.KLYUCHEPOVODNAYAd墇d僕.PUTNAYAd勷d.DVOECHELNOKRYZHEVAYAd墉d勷二d墉二d僚ĀƐ丼d僛ĀƐ丼d僚d僛eĀē丼d墊e僙c.MECHIKd.POVODNYd.KLYUCHEVOYd.KLYUCHEPOVODNYd.KLYUCHENEPOSTOYANNYc勸.TRYASOGLASNAYAd.TRYASOPOVODNAYAd.TRYASOSTRELNAYAc.OSOKAd丽d僘d墋丽d二丽e侲c勸墋e僙e僚ĀƐ丼e僛ĀƐ丼e僚e僛fĀē丼e墊f僙e.TRYASKAc.KUFISMAc.OBLAKOc.DUDAc.NEMKAc.PAUK!1D000a.BYZANTINE͎Ġſd.DASEIAdǍd墌僜e亍d墍僜e亍d.KATHISTId.SYRMATIKId勹d.YPOKRISISe亍d.KREMASTId墎僜d勺僜d卣d侳d墏e亍d.SYNEVMAd.THITAd墐ʝd勻ʝd.PSILONd.CHAMILONd.VATHYd勼ʝd僝ʝd侳ʝd.SAXIMATAd.PARICHONd墑.APODEXIAd.OXEIAIʝd.VAREIAIʝd墒ʝd.APOTHEMAd僞",
  "d.REVMAd墓ʝd.TINAGMAd.ANATRICHISMAd墔d墕ʝe.META.STAVROUd墖ʝd増d.LEMOId僟d.TRIAd勽d.KRATIMATAd墎勺ȸd侴ʝd.IMIFTHORAd僠ʝd.KATAVA僠d墘d墙d墚d墛ʝd.RAPISMAd勾ʝd勹ʝd.ICHADINd墜d.PETASMAd墚勿d僠勿d.STRAGGISMATAd.GRONTHISMATAd勼ȸd墐ȸd墌ȸd.PETASTId.KOUFISMAd.PETASTOKOUFISMAd.KRATIMOKOUFISMAd墘ȸd侳ȸ϶d僝ȸ϶d.YPSILId墏ȸd墝.SYNDESMOSȸd.YPORROId.KRATIMOYPORROONd.ELAFRONd.CHAMILId.MIKRON勼d墍ȸd墓ȸd墙ȸd.OMALONd.ANTIKENOMAd.LYGISMAd勹ȸd勾ȸd增勾d.KYLISMAd.ANTIKENOKYLISMAd僠ȸd.EKSTREPTONd墕ȸd.SYRMAd墛ȸd.EPEGERMAd墔ȸd.XIRON僞d.TROMIKOPSIFISTONd.PSIFISTOLYGISMAd.TROMIKOLYGISMAd.TROMIKOPARAKALESMAd.PSIFISTOPARAKALESMAd.TROMIKOSYNAGMAd.PSIFISTOSYNAGMAd.GORGOSYNTHETONd墟d增墟d墖ȸd.THEMATISMOS.ESOe勺d増墠d.THES亜.APOTHESd.KATAVASMAd.ENDOFONONd.YFEN于e϶d墑d僞϶d亍ʝd.KRATIMAʝe勿eȸd墒ȸd僡d亍d.TRIPLId.TETRAPLId儊d墡.ENOS墢e僟匀e.TRION匀e.TESSARON匀e.IMISEOS墢d勻ȸ϶e墣墤f墥d.DIGORGONe墣墤于g϶f墥d.TRIGORGONd.ARGONd.IMIDIARGONd.DIARGONd.AGOGI墦墧e.ARGOTERIe墧e.METRIAe.MESIe墨e.GORGOTERIe墦墨d墩墪̶e墫墪̶e墬̶e墫墬̶e.TRITOS̶e.TRIFONIASe墭̶f墮̶e墮̶e墯̶d.ISAKIA墰墱d墝墰墱d.FANEROSIS.TETRAFONIASe墲e墳d墩.VARYS̶e.PROTOVARYS̶e墯墭̶d.GORTHMIKONĽ墠f.DIPLOUNd.ENARXIS亜侴墴d.IMIFONONd.IMIFTHORONd侴ʝ.DEYTEROU.ICHOUe匁ļf墜e.NAOS̶e匁ʙe匂.DIATONONʙe匁ɿfͅfȄ于g϶e.MALAKON匃墳g墲d.FHTORA匂匃.VASISd侴匂匃.SYNAFIe.NENANOd.CHROA.ZYGOSe.KLITONe.SPATHId侴Ĕ僢墵",
  "e.ENARMONIOS.ANTIFONIAd僢墶d墷墶e墵e僡僟举e墸勽举e墹傟举e墺墻举d僢僡僟举e墸勽举e墹傟举e墺墻举d.GENIKI墷e僢d.DIASTOLI僡.MIKRIf.MEGALIe亍e墼d.SIMANSIS墼f墽f墾f墿e.ARSEOSf墽f墾f墿d.DIGRAMMA.GGd.DIFTOGGOSϱd儋d.ARKTIKOļe墴eŜeʙeɿeͅeȄd侳ȸ壀d僝ȸ壀d侳ȸ于d僝ȸ于d僞于d勻ȸ于!1D100a͎ĠƐ伇cē伇cđ伇cɻđ伇c̨伇cƺ伇cĊ侄ącĈ侄ąc侄Łċ壁cŔ.CAPOc壁c.CODAc.REPEATED.FIGURE-1d.FIGURE-2d.FIGURE-3c占dĐc壂Ėc.CAESURAc.BRACEcĸc.ONE-LINE两c.TWO-LINE两c.THREE-LINE两c.FOUR-LINE两c.FIVE-LINE两c.SIX-LINE两c.SIX-STRING壃c.FOUR-STRING壃cŖ伈e匄僣f侯cū伈cƎ伈e匄僣f侯c侊.CLEF-1d.CLEF-2!1D129c̥仺ʲcē亗d仨c仨ĩdĴc啚ĩdĴc亗ĩdĴcǿŹ亗e仨c.COMMON包c劆包c匄僣d侯c.QUINDICESIMA僣d侯c.MULTIʲc匆ʲcĳʲcǿʲcȵʲc亴ʲc勅ʲc勄ʲcĒĵ壄ʲcų͞cİ͞cĿų͞cĺ͞ěeęcŘ͞ĩěfęeĊěfęeĈěfęeĴěfęeĩĈěgęcɃ͞ěeęc.TRIANGLE-ROUND͞Ĵěfęcǒ͞c.VOID͞c͞ęc唼͞c.CLUSTER͞ěeęcƩc匆ʋcĳʋcǿʋcȵʋc亴ʋc勅ʋc勄ʋcĒĵ壄ʋcǦϛd.SPRECHGESANGϛd壅d壆d壇c.FINGERED壅d壆d壇cǦ.AUGMENTATIONĕd.FLAG-1d.FLAG-2d.FLAG-3d.FLAG-4d.FLAG-5cϳ壈cȖ壈cϳ仙cȖ仙cϳ壉cȖ壉cϳ壊cȖ壊cǦǥd.STACCATOd.TENUTOd.STACCATISSIMOd.MARCATOd.MARCATO-STACCATOd.ACCENT-STACCATOd.LOUREc.ARPEGGIATOĩdĴcǦ.DOITd.RIPd墁d.SMEARd僤dē亂dǈ亂c.RINFORZANDOc.SUBITOcŬc.PIANOc.MEZZOc.FORTEc.CRESCENDOc.DECRESCENDOc嘒ʋ˙eǡ˙c.TRc匇cƔ匇c匇˙dĩcƵ.STROKE-1d.STROKE-2d.STROKE-3d.STROKE-4d.STROKE-5d.STROKE-6d.STROKE-7d.STROKE-8d.STROKE-9d.STROKE-10d.STROKE-11c.HAUPTSTIMMEc.NEBENSTIMMEcȖĜ.STIMMEc俅˙cǦĴ仢dĩ仢d.HARMONIC",
  "d.SNAP.PIZZICATOc壋ĖdĩĖcĳ壋Ėc.GLISSANDOĩdĴcĀ.FINGERNAILSc.DAMPd佨c.MAXIMAc劦c壌c壍ědęc壎dęc壏ědęc.FUSAědęc劦僥ʲd匈ʲc壌ʲc壍ʲc壎ʲc壏ʲc.TEMPUS.PERFECTUM壐壑僥g匈g僥壒d.IMPERFECTUM壐壑僥g匈h壒h.DIMINUTION-2h.DIMINUTION-3c.CROIXc.GREGORIANū伈dƎ伈cĺŶc.VIRGAc.PODATUSc.CLIVISc壓c.CLIMACUSc壔c.PORRECTUSd壕c壓壕c壔.RESUPINUSc.PES.SUBPUNCTISc.KIEVANū伈dȖĜ丝dđʋd.RECITATIVEĖd匆ʋdĳʋdǿʋϛĴgĩdȵʋϛĴgĩd仨ąc.SORIc.KORON!1D200aɈ.VOCAL业壖d壗d.SYMBOL-3d壘d壙d.SYMBOL-6d壚d壛d.SYMBOL-9d.SYMBOL-10d壜d壝d壞d壟d.SYMBOL-15d.SYMBOL-16d壠d壡d壢d.SYMBOL-20d.SYMBOL-21d.SYMBOL-22d壣d壤d壥d壦d壧d壨d壩b.INSTRUMENTAL业壖d壗d壘d壙d壚d壛d壜d壝d壞d壟d壠d壡d壢d壣d壤d.SYMBOL-25d.SYMBOL-26d.SYMBOL-27d.SYMBOL-29d.SYMBOL-30d.SYMBOL-32d.SYMBOL-36d.SYMBOL-37d.SYMBOL-38d.SYMBOL-39d.SYMBOL-40d.SYMBOL-42d.SYMBOL-43d.SYMBOL-45d.SYMBOL-47d.SYMBOL-48d.SYMBOL-49d壥d壦d壧d壨d壩aǦɈ͎唷d唸d唹aɈ͎墡!1D2E0a.MAYAN΅ŨcĒcĎcėcĝcġcĪcĲcīcķcŵc͐c̏c丞c丟cͺcΓc丠cϗc両!1D300a仩Ǭ̑a啠Ǭ.HEAVENLY̑c匉̑c.EARTHLY偬d匉c̑a.TETRAGRAMǬƨcƸĿc.MIREDc.BARRIERc嘘Ăc.CONTRARIETYc.ASCENTc凾c.BRANCHING˷c.DEFECTIVENESSŰ.DISTORTIONc.DIVERGENCEc.YOUTHFULNESSc剶c.PENETRATIONc嘃c伉c件͙c嘍c嘐c.ADVANCEc.RELEASEc.RESISTANCEc.EASEc匊c.CONTENTIONc.ENDEAVOURc.DUTIESc.CHANGEc.DECISIVENESScȥ.RESOLUTIONc.PACKINGc.LEGIONc.CLOSENESSc.KINSHIPc剷c.STRENGTHc.PURITYc.FULLNESSc.RESIDENCE",
  "c塠Ű.MODELc唜c.GOINGĘ嘗c.ENCOUNTERSc.STOVEc.GREATNESSc.ENLARGEMENTc喉c.RITUALc.FLIGHTc.VASTNESSŰ.WASTINGc.CONSTANCYc仺c儚c.UNITYc.DIMINISHMENTcǷʂc.GUARDEDNESSc剷Ưc.MASSINGc.ACCUMULATIONc.EMBELLISHMENTc.DOUBTc唫c.SINKINGc嘙c壪c嘔c.DIMMINGc.EXHAUSTIONc.SEVERANCEc.STOPPAGEc.HARDNESSc剸c.CLOSUREc.FAILUREc.AGGRAVATIONc.COMPLIANCEcƚǮ.VERGEc.DIFFICULTIESc.LABOURINGc.FOSTERING!1D360a.COUNTING.ROD偦ŒĒeĎeėeĝeġeĪeĲeīeķc勯ŒĒeĎeėeĝeġeĪeĲeīeķa˼士ĖĒdĎdėdĝdġa士ĖĒcġ!1D400a仚ȥĄČdŶdūdŢdďdƎdŖdşdĔdƀdřdĭdňdĽdčdŮdƢdĦdħdŚdċdśdŷdųdŤdŬcĂČdŶdūdŢdďdƎdŖdşdĔdƀdřdĭdňdĽdčdŮdƢdĦdħdŚdċdśdŷdųdŤdŬb͸ĄČdŶdūdŢdďdƎdŖdşdĔdƀdřdĭdňdĽdčdŮdƢdĦdħdŚdċdśdŷdųdŤdŬcĂČdŶdūdŢdďdƎdŖ!1D456dĔdƀdřdĭdňdĽdčdŮdƢdĦdħdŚdċdśdŷdųdŤdŬbȥ͸ĄČeŶeūeŢeďeƎeŖeşeĔeƀeřeĭeňeĽečeŮeƢeĦeħeŚeċeśeŷeųeŤeŬdĂČeŶeūeŢeďeƎeŖeşeĔeƀeřeĭeňeĽečeŮeƢeĦeħeŚeċeśeŷeųeŤeŬbɆĄČ!1D49EdūdŢ!1D4A2dŖ!1D4A5dƀdř!1D4A9dĽdčdŮdƢ!1D4AEdħdŚdċdśdŷdųdŤdŬcĂČdŶdūdŢ!1D4BBdƎ!1D4BDdşdĔdƀdřdĭdňdĽ!1D4C5dŮdƢdĦdħdŚdċdśdŷdųdŤdŬbȥɆĄČeŶeūeŢeďeƎeŖeşeĔeƀeřeĭeňeĽečeŮeƢeĦeħeŚeċeśeŷeųeŤeŬdĂČeŶeūeŢeďeƎeŖeşeĔeƀeřeĭeňeĽečeŮeƢeĦeħeŚeċeśeŷeųeŤeŬb壬ĄČdŶ!1D507dŢdďdƎdŖ!1D50DdƀdřdĭdňdĽdčdŮdƢ!1D516dħdŚdċdśdŷdųdŤ!1D51EcĂČdŶdūdŢdďdƎdŖdşdĔdƀdřdĭdňdĽdčdŮdƢdĦdħdŚdċdśdŷdųdŤdŬbͷĄČdŶ!1D53BdŢdďdƎdŖ!1D540dĔdƀdřdĭdň!1D546dč!1D54AdħdŚdċdśdŷdųdŤ",
  "!1D552cĂČdŶdūdŢdďdƎdŖdşdĔdƀdřdĭdňdĽdčdŮdƢdĦdħdŚdċdśdŷdųdŤdŬbȥ壬ĄČeŶeūeŢeďeƎeŖeşeĔeƀeřeĭeňeĽečeŮeƢeĦeħeŚeċeśeŷeųeŤeŬdĂČeŶeūeŢeďeƎeŖeşeĔeƀeřeĭeňeĽečeŮeƢeĦeħeŚeċeśeŷeųeŤeŬbɤĄČdŶdūdŢdďdƎdŖdşdĔdƀdřdĭdňdĽdčdŮdƢdĦdħdŚdċdśdŷdųdŤdŬcĂČdŶdūdŢdďdƎdŖdşdĔdƀdřdĭdňdĽdčdŮdƢdĦdħdŚdċdśdŷdųdŤdŬcȥĄČeŶeūeŢeďeƎeŖeşeĔeƀeřeĭeňeĽečeŮeƢeĦeħeŚeċeśeŷeųeŤeŬdĂČeŶeūeŢeďeƎeŖeşeĔeƀeřeĭeňeĽečeŮeƢeĦeħeŚeċeśeŷeųeŤeŬc͸ĄČeŶeūeŢeďeƎeŖeşeĔeƀeřeĭeňeĽečeŮeƢeĦeħeŚeċeśeŷeųeŤeŬdĂČeŶeūeŢeďeƎeŖeşeĔeƀeřeĭeňeĽečeŮeƢeĦeħeŚeċeśeŷeųeŤeŬcȥ͸ĄČfŶfūfŢfďfƎfŖfşfĔfƀfřfĭfňfĽfčfŮfƢfĦfħfŚfċfśfŷfųfŤfŬeĂČfŶfūfŢfďfƎfŖfşfĔfƀfřfĭfňfĽfčfŮfƢfĦfħfŚfċfśfŷfųfŤfŬb壭ĄČdŶdūdŢdďdƎdŖdşdĔdƀdřdĭdňdĽdčdŮdƢdĦdħdŚdċdśdŷdųdŤdŬcĂČdŶdūdŢdďdƎdŖdşdĔdƀdřdĭdňdĽdčdŮdƢdĦdħdŚdċdśdŷdųdŤdŬb͸ẰĔeƀ!1D6A8bȥĄȁdʏdɨdʅdȽd̙dɼdɉdȍdʢd̂dǫdȇdˤdʡdǔdȲdɉĠdȼdʣdȧdɇdɓdʸdǨc仟cĂȁdʏdɨdʅdȽd̙dɼdɉdȍdʢd̂dǫdȇdˤdʡdǔdȲdđȼdȼdʣdȧdɇdɓdʸdǨc仜仝cȽĠcɉĠcʢĠcɇĠcȲĠcǔĠb͸ĄȁdʏdɨdʅdȽd̙dɼdɉdȍdʢd̂dǫdȇdˤdʡdǔdȲdɉĠdȼdʣdȧdɇdɓdʸdǨc仟cĂȁdʏdɨdʅdȽd̙dɼdɉdȍdʢd̂dǫdȇdˤdʡdǔdȲdđȼdȼdʣdȧdɇdɓdʸdǨc仜仝cȽĠcɉĠcʢĠcɇĠcȲĠcǔĠbȥ͸ĄȁeʏeɨeʅeȽe̙eɼeɉeȍeʢêeǫeȇeˤeʡeǔeȲeɉĠeȼeʣeȧeɇeɓeʸeǨd仟dĂȁeʏeɨeʅeȽe̙eɼeɉeȍeʢêeǫeȇeˤeʡeǔeȲeđȼeȼeʣeȧeɇeɓeʸeǨd仜仝dȽĠdɉĠdʢĠdɇĠdȲĠdǔĠbɤȥĄȁeʏeɨeʅeȽe̙eɼeɉeȍeʢêeǫeȇeˤeʡeǔeȲeɉĠeȼeʣeȧeɇeɓeʸeǨd仟dĂȁeʏeɨeʅeȽe̙eɼeɉeȍeʢêeǫeȇeˤeʡeǔeȲeđȼeȼeʣ",
  "eȧeɇeɓeʸeǨd仜仝dȽĠdɉĠdʢĠdɇĠdȲĠdǔĠd͸ĄȁfʏfɨfʅfȽf̙fɼfɉfȍfʢf̂fǫfȇfˤfʡfǔfȲfɉĠfȼfʣfȧfɇfɓfʸfǨe仟eĂȁfʏfɨfʅfȽf̙fɼfɉfȍfʢf̂fǫfȇfˤfʡfǔfȲfđȼfȼfʣfȧfɇfɓfʸfǨe仜仝eȽĠeɉĠeʢĠeɇĠeȲĠeǔĠbȥĄ些cĂ些!1D7CEcŒŨdĒdĎdėdĝdġdĪdĲdīdķbͷŒŨdĒdĎdėdĝdġdĪdĲdīdķbɤŒŨdĒdĎdėdĝdġdĪdĲdīdķcȥŒŨeĒeĎeėeĝeġeĪeĲeīeķb壭ŒŨdĒdĎdėdĝdġdĪdĲdīdķa.SIGNWRITINGȱōb˅ōb伊ōb侵ōbʴōb͟ōbȱōȝb˅ōȝbȱźϒōȝcōȻ僦d伋dˡeŝb˅ō壮bȱōĥb˅ōĥbȱōĥȝeȻ匋eˡdĩĥˡdˡĥĩdĥʵfōȝfĥȝf伋fˡḛb˅ōĥ̰bȱĥȝłōcōȝłĥdĥźb˅ōĥźbȱōĥɕźȝeȝźɕeźȝeˡ̷źɅdĩĥˡźɅhʵdˡĥĩźɅdĥĩ̷źˆeź伋fƲf仮fˡcźˁōĥɕcōĥʵźɅhʵhȝcĥź仮ōĩcōź仮ĥĩdĥʵˡźɅḛźɅeʵźˆf伋źˆcĥź伋ōĩcōź伋ĥĩcĥźƲōĩgˡcōź匌˷ĥĩfƯĥĩeƲĥĩdĥźʵˡf匌˷gcĥź匌˷ōĩh̰fōĩcōź仮ĥˡb匍ĝɝeȝeˡeʵf壯b僧ĝɝʵbȱĝɝʵȝbʴĝɝʵb匍ġɝ̷c亏ġɝ̷cġɝ̷ĝȝc亏ġɝ̷ĝȝcġɝ̷ȝc亏ġɝ̷ȝcġɝ̷źˆb伊ġɝ̷fůbʴġɝ̷ůb侵ġɝ̷b匍ġɝ̷ˡgźɅgǡźccˁ侃.FACINGSc亏cźɅc亏źɅcźȝdˆc壯ōźɅdƨeźɅgȝdƬb僧cźɅcǡźcźˆb侶声cb伊ůccůźɅcźɅcůǡźcǡźcůźˆcźˆb匎ůcb˅b侵cźɅcǡźcźˆbʴůdźˆccĂcůźɅcźɅcůǡźcǡźcźɅ壱ōdˁĥœb͟bȱōĥœb˅ōĥœbʴōĥœb͟ōĥœbʴƬbȱōĥœȝfʵbʴōĥœʵbȱƬĴe.RIPPLEɕfͿe.OTHERSƲdĩcźϒƬĩb˅Ƭĩb侵Ƭĩb͟ƬĩbȱƬȻ僦dȝd.TOUCHESźdźbʴƬźbȱƬōźbʴƬōźb͟Ƭōźōź˷hbȱƬōb˅ƬōbʴƬōb͟ƬōbȱōĥƬb˅ōĥƬbʴōĥƬcœb͟ōĥƬbȱōĥǇƬb˅ōĥǇƬbȱœĴbʴœĴōźĞĥb͟œĴĥźōǇbȱœĩdȻ僦dƬb˅œƬb侵œƬb͟œƬbȱœĥeʵeȻ匋dōdźb侶œźbȱōœƬb˅ōœƬb匎ōœƬƚb侶ōœƬ˷fƯfϒb伊ōœƬbʴōœƬb͟ōœƬ˷fbȱĥĴbʴĥbȱĥĩb˅ĥĩbȱĥȻ僦dĩźɅb侶ĥźbȱĥźƬdƬdœƬb˅ĥœƬb匎ĥœƬƚb伊ĥœƬbʴĥœƬb͟ĥœƬ˷fƯfb˅ĥœƬȝb僧ĥœƬʵgɅb侶ĥœƬʵ˷gƯgbʴōˡbȱōźɅbʴōźɅbȱōźɅźǊgʵgȝfōȝf売ȝfō壮eˆōɕgȝeĞe声",
  "eʱźʖb僧ōźʱźʖbȱōźʱźϒeĿb伊ōźeůbʴōźůeƍeeĂb͟ōź˷eƯebȱźd亏dɅǊeʵeȝdˆdˁōĥeĥœeœƬdϒĎɝdłĎɝdϒėɝeĝɝdłĝȻ匋cc亏b.TOUCHƐc̥cˁb.GRASPƐc̥cˁb.STRIKEƐc̥cˁb剕Ɛc̥cˁb厦Ɛc̥cˁb唢匏cˁb壳ƍƐcĂƐcƍ̥cḀ̆c僨b壴ƍƐcĂƐcƍ̥cḀ̆c僨b壳壴ʶb.MOVEMENT-HINGEĩĴƍeĂd僨cĴ僨cĩĴʶƍfĂcɅĘɅ仪b͠丿伉b͡丿伉b͠ƐɕĂeţeƍeϧd͢ίcēɕd͢ίdʶe͢ίcǇcǈɕ乀d͢ίdʶe͢ίc僤ĂdţdƍcȊĂdţdƍd壵c͑ĂdţdƍcȷĂdţdƍcϵĂdţdƍc壶Ădţdƍb.TRAVEL-WALLPLANE侷Ɛdēdʶc侸Ɛdēdʶc僩c佼傷Ɛeēeǈb.MOVEMENT-DIAGONAL壷Ădţdƍdϧc壸Ădţdƍdϧcˁ壷Ăeţeƍeϧd壸Ăeţeƍeϧb͡ƐɕĂeţeƍeϧd͢ίcēɕd͢ίdʶe͢ίcǇcǈɕ乀d͢ίdʶ乀e͢ίc僤cȊĂdţdƍc͑cȷĂdţdƍcϵĂdţdƍc壶Ădţdƍb.TRAVEL-FLOORPLANE侸Ɛdēdʶc侷Ɛdēdʶc僩b͠ʱǿĂeţeƍeϧd壹Ăeţeƍeϧd.THREE-QUARTERĿĂfţc伌ĂdţdƍcʟĂdţdƍdĂēcɵʱēĂfţfƍeǈĂfţfƍcʱ乻ɕcͿǇĂeţb侷Ɛcēcɥb͠僩cʱȓ乁͹c伌ȓ乁͹cʟȓ乁͹cɵȓ乁͹b侷Ɛȓ乁͹cēȓ乁͹cʶȓ乁͹b͠ʱȓ亐c伌ȓ亐cʟȓ亐cɵȓ亐b侷Ɛȓ亐cēȓ亐cʶȓ亐b͠ɵǊ刟Ăfţfƍb͡ʱȓϓĂfƍc伌ȓϓĂēfƍēfĂǈfƍǈcʟȓϓĂƐfƍƐfĂēfƍēcɵȓϓĂfƍb侸Ɛȓϓcēȓϓcʶȓϓb͡ʱȓΣĂfƍc伌ȓΣĂēfƍēfǈĂǈgƍǈcʟȓΣĂƐfƍƐfĂēfƍēcɵȓΣĂfƍb侸ƐȓΣcēȓΣcʶȓΣb͡ʱĂdţdƍdϧd.COMBINEDc伌ĂcʟĂcɵ偈dĂdƍb侸Ɛcēcʶb͡僩丗b͠佼ĿĂƐeţƐeĂēeţēb͡佼Ŀȓ͹ĂƐgţƐgƍƐgĂēgţēgƍēb͢͠Ŀ乁Ɛfēb͢͡Ŀȓ͹Ɛgēb͠丿̳Ɛeēb͡丿̳ȓ͹Ɛgēb.DYNAMICƈĂdƍc.FASTc啯c匐c壺c.SIMULTANEOUSdʶc.EVERY.OTHER包c.GRADUALbʕc.RIMc͠ɕd.TILTc͡ɕc͠ʱc͡ʱc乀ĿbĻ墀偝仴ˆ僪fĩŰĴi僪b壻ɕĩdɹdĴb.DREAMY壻ɹĴdĴɹdĩɹdɹĩb.FOREHEADɹc伉c云bʃůc.SQUEEZEDcǷbϖ.BLINKƐd̥bʃĳůc佞ůcĳǷc.WIDENING乀bϖ.WINKb.EYELASHESĩcĴc壼b匑ɕdēdʶb壽ɕdēdʶb匑Ϳb壽Ϳb匑喖b壾.PUFFEDcɹc壿b匐壾Ƃdĥdŝb夀b仴ɹc伉c夁c.WIGGLESb劺夂˷",
  "c.SUCKINGƯc.BLOWĂ夃c.SUCKĂ夃b壂.INHALEc.EXHALEbʂǷɹdˆd伉c凲d云důc唬d云důcůĿdˆd云d別e云e处d买e云e处c僫dˆd云c匐dˆd壿b互.PRESSED傝b劃ŗłŭcŭłŗbʂ代c夁Ɛdēb亂夅˷.FARc.LICKING互c̐ˁ互d壱ʖʂcʖʂ壺c.MOVES.AGAINST.CHEEKcƨ夅˷dʖʂb.TEETHc乀cƚ亂e乀d互e乀c.BITE互b͠夆b͡夆b备b乮b.EXCITEMENTb僬伳.SPINEd.POSITIONSb.WALLPLANE僬伳夈b.FLOORPLANE僬伳夈b僬僪Ȑ.WAISTb.TORSO-WALLPLANEɕ.STRETCHcͿ僤b.TORSO-FLOORPLANE.TWISTINGbŭ嗦僪Ȑ伳.JOINTSb.LIMB.COMBINATIONc.LENGTH-1c.LENGTH-2c.LENGTH-3c.LENGTH-4c.LENGTH-5c.LENGTH-6c.LENGTH-7b丿b.LOCATION-WALLPLANEɧb.LOCATION-FLOORPLANEɧb刏.HEIGHTc你c.DEPTHcʕ备c.TORSOc.LIMBS.DIGITSbƟbƸƅb̸bȌbǒ!1DA9Bb̓変c夊c夋c夌c复!1DAA1b壵変c夊c夋c夌c复c.MODIFIER-7c.MODIFIER-8c.MODIFIER-9c.MODIFIER-10c.MODIFIER-11c.MODIFIER-12c.MODIFIER-13c.MODIFIER-14c.MODIFIER-15c.MODIFIER-16!1DF00aƹĂā儈ȩĀ.TRILLdžɆŖbāĂĄűŖbĂāžřbāĂĄĭĀͦbĂā億ĀǓĞdűŤĀͦdž̻dűĦĀŴʷĆǓĞdŚĀĞĆǓĞbāǓͥĀǓĞbĂāʞĀēįhĆɩdűŚĀɩbāƔȨƅĀɩc儅ūĀɩcĂĄűřbĂāĭĀ乇d俉ȩĀȠĞdĭĀͦĆȠĞd̻ĀȠĞdűĦĀȠĞdĦĀ乇ĆȠĞd俊ȩĀȠĞdαĀȠĞd俉ȩĀǓĞdĔĀğĆǓĞdčĀǓĞd俊ȩĀǓĞdūĀǓĞdħĀɩ!1E000aǦ喘ā刦d刧d刨d利d刪d别d刬!1E008d刭d仯dĢ仯dĔd刮d刯d到d侁d刱d刲d刳d刴d刵d制d刷d券d刹!1E01Bd刺d乨d侂dƆdͩd偿d刻!1E023dǰdĂȡ!1E026dȉd仰Ăȡd̅ȡd仰̅ȡd之!1E100a.NYIAKENG.PUACHUE塩āņeȚe.NTAeŐeĶeŅe˱e.NKAeƌeńeőeƿe.NCAe.NTSAeĹeŔeƓe凍eưe.NTXAe.TXAeǙeľeʆeŇe.NQAeļe喹e.NPAe倰e.NPLAeťe哳e俰eŜeʈeČeũeĔeċečeǀeďeǕeŷ!1E130d.TONE-Bd.TONE-Md.TONE-Jd.TONE-V",
  "d.TONE-Sd.TONE-Gd.TONE-DdąǬ˝f.THINGf刏f.ANIMALf.INVERTEBRATEe勲勲d˓傫!1E140dŒŨeĒeĎeėeĝeġeĪeĲeīeķ!1E14Ed侙.NYAJdƲƌ!1E290a.TOTOāļcŦcŐcŔcĹcŜcņcŅcƃcőcƑcŇcƊcƉcĶcľcńcĔc侹Ĕc侌c侹侌cċcďc侹ďc佁c侹佁cčcȆc侹ȆcČbą̞Ź!1E2C0a.WANCHOāũcČcŦcƌcŔcŜcŇcƭcńcŅcļcŐcƠcǙcőcƆcƉcƿcƊcưcĹcčcƄcľcņcƘcĶcďcĔcƃcċc.LLHAcȚc凋c嗳c.AANGc͈c冹cƚcƽc坢cƓc.UENc.YIHbŹ嘲c.TUPNIc劬c.KOINIbŒŨcĒcĎcėcĝcġcĪcĲcīcķ!1E2FFb.NGUNą!1E7E0a倗˓.HHYAc.HHYUc.HHYIc.HHYAAc.HHYEEc.HHYEc.HHYO!1E7E8c夎吻c.HHWIc.HHWEEc.HHWE!1E7EDc夎倮d呚!1E7F0d吾d吿d呀d呛d呜d倢d呇d値d呐d呑d呒d呝d呞d倯d呟!1E800a.MENDE.KIKAKUI˓堓ʁd堔Ĺd堕ʊd.M065冃d.M095ɿd.M076佑d.M048Ɍd.M179.KUAd堖ɱd堗Ɗd堘ͱd.M126倥d.M118Ⱦd.M114佌d.M045əd.M194.WUId.M143塶d.M061.WVId.M049.WVAd.M139.WVEd堙僐d堚ʀd堛.MUNd.M059ζd.M094也d.M154咺d.M189.MUENd堜˰d堝Ŧd堞ʘd.M150仄d.M097˥d.M103噮d.M138͇d堟Ĕd堠Čd堡ċd.M163Ǖd.M100ďd.M165ǀd.M147čd.M137οd.M131Ưd.M135Ưd.M195ȃd.M178ƽd堥ɲd堦őd堧ɽd.M162乣d.M116ɳd.M136体d.M079ɗd.M196.SIAd堫ʩd堬ńd堭ɘd.M084候d.M073˯d.M054介d.M153ʗd.M110Ŵ˯d堢ʙd堣Ŕd堤˗d.M089仈d.M180噲d.M181ʉd堨ʨd堩Őd堪ɍd.M091仅d.M055ǲd.M104今d.M069Ęd堮丐d堯Ɖd堰书d.M157仉d.M113̾d.M160噵d.M063Ͳd.M175ŴͲd報Ȫd堲Ňd堳ǰd.M109仇d.M080˕d.M141倲d.M121ȉd場ͫd堵Ǚd堶ϊd.M078乩d.M075̈́d.M133冯d.M088ͮd.M197.FUAd.M101另d堷勣d堸.NANd堹Ǆd.M117兊d.M169.NONd.M176Ȭd堻Ķd.M186̋d堺倘d.M096ǘd堼佔d.M140ȿd.M083.HEEId.M128.HOOUd.M053噧d.M130噫d.M087噷",
  "d.M052噾d.M193剱d.M046.HUANd.M090噪d堽侔d.M082劒d.M115噦d.M146劕d.M156劏d.M120劔d.M159.NGGAAd.M127.NGGUAd.M086Ŵ劕d.M106Ŵ劏d.M183Ŵ劔d.M155ɾd.M111Ŝd.M168˘d.M190佉d.M166.GUEId.M167.GUANd.M184噽d.M057噹d.M177.NGUANd.M068ǔd.M099ļd.M050̤d.M081ϋd.M051ǃd.M102低d.M066ʧd.M145劍d.M062佝d.M122劐d.M047傦d.M188傦d.M072傩d.M172劎d.M174劓d.M187.MBUUd.M161Ŵ傩d.M105Ŵ劎d.M142Ŵ劓d.M132器d.M092侏d.M074噸d堾噤d.M108噿d.M112噯d.M158傧d.M124噩d.M056儬d.M148劑d.M093噥d.M107傪d.M071噰d.M070噻d.M171ľd.M123剿d.M129仓d.M125傢d.M191劌d.M119傡d.M067噳d.M064劁d.M152噭d.M192劉d.M149侓d.M134噶d.M182ψd.M185ưd.M151乤d.M173丏d.M085ˉd.M144噱d.M077΋d.M164.NYINd.M058.NYANd.M170.NYUNd.M098.NYENd.M060.NYON!1E8C7cŒĒdĎdėdĝdġdĪdĲdīdķcǦƙ.TEENSe勯e勃eϺeŵϺeĵϺe乌!1E900a.ADLAMĄā匒d夏d勭d夐dŦd夑dǃd储dľdďdǙdĔdčdǁd夒dǭdǄdȘdŇdċd夓dɓdĶd劻dŜdƓdɍd仹dưdƘd傪d偁d傧dƆbĂā匒d夏d勭d夐dŦd夑dǃd储dľdďdǙdĔdčdǁd夒dǭdǄdȘdŇdċd夓dɓdĶd劻dŜdƓdɍd仹dưdƘd傪d偁d傧dƆb匒傫bŋ傫b伫Ėbǳbɣȕb.GEMINATEɣȕbɋb儮Ė!1E950bŒŨcĒcĎcėcĝcġcĪcĲcīcķ!1E95EbĢȹĖcȞĖ!1EC71a嚩夔ƙĒdĎdėdĝdġdĪdĲdīdķdŵdǛdɴdʫdȅdʽdǾd˲dǯdĒĵdĎĵdėĵdĝĵdġĵdĪĵdĲĵdīĵdķĵdĒŃdĎŃdėŃdĝŃdġŃdĪŃdĲŃdīŃdķŃdŵŃdǛŃdɴŃdʫŃdȅŃdʽŃdǾŃd˲ŃdǯŃd匓d.LAKHANc匓Ėcƙ.KARORd.KARORANd垏ĒeĎeėeĝeġeĪeĲeīeķc劧cʌĒǿeĳdėˢc乗ĖcƙɥĒeĎeŵŃcɥ匓Ė!1ED01a.OTTOMAN夔ƙĒdĎdėdĝdġdĪdĲdīdķdŵdǛdɴdʫdȅdʽdǾd˲dǯdĒĵdĎĵdėĵdĝĵdġĵdĪĵdĲĵdīĵdķĵdĒŃdĎŃdėŃdĝŃdġŃdĪŃdĲŃdīŃdķŃdŵŃ",
  "dǛŃdɴŃdʫŃdȅŃdʽŃdǾŃd˲ŃdǯŃc.MARRATANcɥƙĎeėeĝeġeĪeĲeīeķeŵeĝĵeĪĵeĎŃeŵŃcʌĒĳe処!1EE00aʑ仚ŊcʇcŲċ!1EE05cǭc˧cťcȫcŀcȘcǱcĮcǧcȳcȂcɟcɡcɀcȏcʓcʒc̓cƮc乎cʔcͪcʺc̀ʇdǧdɟdɀ!1EE21cĢʇdŲ!1EE24dȢ!1EE27dť!1EE29dŀdȘdǱdĮdǧdȳdȂdɟdɡdɀ!1EE34dʓdʒd̓dƮ!1EE39dʔ!1EE3Bdʺ!1EE42c嗧Ų!1EE47dť!1EE49dŀ!1EE4BdǱ!1EE4DdǧdȳdȂ!1EE51dɡdɀ!1EE54dʓ!1EE57dƮ!1EE59dʔ!1EE5Bdʺ!1EE5Dd̀ǧ!1EE5Feɀ!1EE61c儅ʇdŲ!1EE64dȢ!1EE67dťdȫdŀdȘ!1EE6CdĮdǧdȳdȂdɟdɡdɀ!1EE74dʓdʒd̓dƮ!1EE79dʔdͪdʺd̀ʇ!1EE7Eeɟ!1EE80c.LOOPEDŊdʇdŲḋdȢdǭd˧dťdȫdŀ!1EE8BdǱdĮdǧdȳdȂdɟdɡdɀdȏdʓdʒd̓dƮd乎dʔdͪdʺ!1EEA1cͷʇdŲḋ!1EEA5dǭd˧dťdȫdŀ!1EEABdǱdĮdǧdȳdȂdɟdɡdɀdȏdʓdʒd̓dƮd乎dʔdͪdʺ!1EEF0cǏĮĀťĀ保dťĀ̇!1F000a.MAHJONG剤Ɯ;cǑ;cƱ;cǂ;c̲个c乂个cě个cĒĜϨcĎĜϨcėĜϨcĝĜϨcġĜϨcĪĜϨcĲĜϨcīĜϨcķĜϨcĒĜϩcĎĜϩcėĜϩcĝĜϩcġĜϩcĪĜϩcĲĜϩcīĜϩcķĜϩcĒĜ̳cĎĜ̳cėĜ̳cĝĜ̳cġĜ̳cĪĜ̳cĲĜ̳cīĜ̳cķĜ̳c.PLUMc.ORCHIDc剑c.CHRYSANTHEMUMc.SPRINGc.SUMMERc.AUTUMNc.WINTERc僭c͙!1F030a.DOMINO剤Ŏ͙c.HORIZONTAL-00-00c.HORIZONTAL-00-01c.HORIZONTAL-00-02c.HORIZONTAL-00-03c.HORIZONTAL-00-04c.HORIZONTAL-00-05c.HORIZONTAL-00-06c.HORIZONTAL-01-00c.HORIZONTAL-01-01c.HORIZONTAL-01-02c.HORIZONTAL-01-03c.HORIZONTAL-01-04c.HORIZONTAL-01-05c.HORIZONTAL-01-06c.HORIZONTAL-02-00c.HORIZONTAL-02-01c.HORIZONTAL-02-02c.HORIZONTAL-02-03c.HORIZONTAL-02-04c.HORIZONTAL-02-05c.HORIZONTAL-02-06",
  "c.HORIZONTAL-03-00c.HORIZONTAL-03-01c.HORIZONTAL-03-02c.HORIZONTAL-03-03c.HORIZONTAL-03-04c.HORIZONTAL-03-05c.HORIZONTAL-03-06c.HORIZONTAL-04-00c.HORIZONTAL-04-01c.HORIZONTAL-04-02c.HORIZONTAL-04-03c.HORIZONTAL-04-04c.HORIZONTAL-04-05c.HORIZONTAL-04-06c.HORIZONTAL-05-00c.HORIZONTAL-05-01c.HORIZONTAL-05-02c.HORIZONTAL-05-03c.HORIZONTAL-05-04c.HORIZONTAL-05-05c.HORIZONTAL-05-06c.HORIZONTAL-06-00c.HORIZONTAL-06-01c.HORIZONTAL-06-02c.HORIZONTAL-06-03c.HORIZONTAL-06-04c.HORIZONTAL-06-05c.HORIZONTAL-06-06cĨ͙c.VERTICAL-00-00c.VERTICAL-00-01c.VERTICAL-00-02c.VERTICAL-00-03c.VERTICAL-00-04c.VERTICAL-00-05c.VERTICAL-00-06c.VERTICAL-01-00c.VERTICAL-01-01c.VERTICAL-01-02c.VERTICAL-01-03c.VERTICAL-01-04c.VERTICAL-01-05c.VERTICAL-01-06c.VERTICAL-02-00c.VERTICAL-02-01c.VERTICAL-02-02c.VERTICAL-02-03c.VERTICAL-02-04c.VERTICAL-02-05c.VERTICAL-02-06c.VERTICAL-03-00c.VERTICAL-03-01c.VERTICAL-03-02c.VERTICAL-03-03c.VERTICAL-03-04c.VERTICAL-03-05c.VERTICAL-03-06c.VERTICAL-04-00c.VERTICAL-04-01c.VERTICAL-04-02c.VERTICAL-04-03c.VERTICAL-04-04c.VERTICAL-04-05c.VERTICAL-04-06c.VERTICAL-05-00c.VERTICAL-05-01c.VERTICAL-05-02c.VERTICAL-05-03c.VERTICAL-05-04c.VERTICAL-05-05c.VERTICAL-05-06c.VERTICAL-06-00",
  "c.VERTICAL-06-01c.VERTICAL-06-02c.VERTICAL-06-03c.VERTICAL-06-04c.VERTICAL-06-05c.VERTICAL-06-06!1F0A0a夕侺͙c僮Ĝ̕cĎĜ̕cėĜ̕cĝĜ̕cġĜ̕cĪĜ̕cĲĜ̕cīĜ̕cķĜ̕cŵĜ̕c僯Ĝ̕cȯĜ̕c˜Ĝ̕cʯĜ̕!1F0B1c僮ĜˇcĎĜˇcėĜˇcĝĜˇcġĜˇcĪĜˇcĲĜˇcīĜˇcķĜˇcŵĜˇc僯ĜˇcȯĜˇc˜ĜˇcʯĜˇc̲僭!1F0C1c僮Ĝ̖cĎĜ̖cėĜ̖cĝĜ̖cġĜ̖cĪĜ̖cĲĜ̖cīĜ̖cķĜ̖cŵĜ̖c僯Ĝ̖cȯĜ̖c˜Ĝ̖cʯĜ̖cę僭!1F0D1c僮Ĝ̗cĎĜ̗cėĜ̗cĝĜ̗cġĜ̗cĪĜ̗cĲĜ̗cīĜ̗cķĜ̗cŵĜ̗c僯Ĝ̗cȯĜ̗c˜Ĝ̗cʯĜ̗cě僭c.FOOLc.TRUMP-1c.TRUMP-2c.TRUMP-3c.TRUMP-4c.TRUMP-5c.TRUMP-6c.TRUMP-7c.TRUMP-8c.TRUMP-9c.TRUMP-10c.TRUMP-11c.TRUMP-12c.TRUMP-13c.TRUMP-14c.TRUMP-15c.TRUMP-16c.TRUMP-17c.TRUMP-18c.TRUMP-19c.TRUMP-20c.TRUMP-21!1F100aŒŨƸƅcƟbĒƟbĎƟbėƟbĝƟbġƟbĪƟbĲƟbīƟbķƟa喁ƲɤŒŨb˸ƲɤŒŨaƲŨĀ˙bʭćb乆ąĀ剧乯a偨ƹĄāČeŶeūeŢeďeƎeŖeşeĔeƀeřeĭeňeĽečeŮeƢeĦeħeŚeċeśeŷeųeŤeŬaʮɛ外ƹĄāħaƲ͸ƹĄāūfĦb嘌b.WZa.COPYLEFTĠaǺƹĄāČeŶeūeŢeďeƎeŖeşeĔeƀeřeĭeňeĽečeŮeƢeĦeħeŚeċeśeŷeųeŤeŬb俇b佋b.SDb傶b.PPVb夗a˸ƲƹĄāČfŶfūfŢfďfƎfŖfşfĔfƀfřfĭfňfĽfčfŮfƢfĦfħfŚfċfśfŷfųfŤfŬaȻ塨ąb.MDąb.MRąaƲ嘋būĀ剧乯b匉偍a˸ǺƹĄāČfŶfūfŢfďfƎfŖfşfĔfƀfřfĭfňfĽfčfŮfƢfĦfħfŚfċfśfŷfųfŤfŬa̰˸ǺƹĄāŮa˸Ǻ劾cļcőcιc夗aĺ.DJaǺ.CLb.COOLb准b.IDb余bʻb僰b.SOSbĩĀȹĖb.VSbėŢb亀佤bĎřbĝřbīřbġ̛ĒbĲ̛Ēb剳̛ĎbʽŮbĒĵǛŮbƹĂāŢb.HCb.HDRb.HI-RESb.LOSSLESSb.SHVb.UHDb.VODa匔剠Ġ!1F1E6a.REGIONALϬĠāČeŶeūeŢeďeƎeŖeşeĔeƀeřeĭeňeĽečeŮeƢeĦeħeŚeċeśeŷeųeŤeŬaĺ仵.HOKAaǺ΁.KOKOcő!1F210b乿匕.IDEOGRAPH-624B",
  "d.IDEOGRAPH-5B57d.IDEOGRAPH-53CCb΁ɫb乿匕夘d.IDEOGRAPH-591Ad.IDEOGRAPH-89E3d.IDEOGRAPH-5929d.IDEOGRAPH-4EA4d.IDEOGRAPH-6620d.IDEOGRAPH-7121d.IDEOGRAPH-6599d.IDEOGRAPH-524Dd.IDEOGRAPH-5F8Cd.IDEOGRAPH-518Dd.IDEOGRAPH-65B0d.IDEOGRAPH-521Dd.IDEOGRAPH-7D42d.IDEOGRAPH-751Fd.IDEOGRAPH-8CA9d.IDEOGRAPH-58F0d.IDEOGRAPH-5439d.IDEOGRAPH-6F14d.IDEOGRAPH-6295d.IDEOGRAPH-6355d.IDEOGRAPH-4E00d夙d.IDEOGRAPH-904Ad.IDEOGRAPH-5DE6d.IDEOGRAPH-4E2Dd.IDEOGRAPH-53F3d.IDEOGRAPH-6307d.IDEOGRAPH-8D70d多d.IDEOGRAPH-7981d.IDEOGRAPH-7A7Ad.IDEOGRAPH-5408d.IDEOGRAPH-6E80d.IDEOGRAPH-6709d.IDEOGRAPH-6708d.IDEOGRAPH-7533d.IDEOGRAPH-5272d.IDEOGRAPH-55B6d.IDEOGRAPH-914D!1F240aʮɛ外乿匕.IDEOGRAPH-672Cf夙f夘f.IDEOGRAPH-5B89f.IDEOGRAPH-70B9f多f.IDEOGRAPH-76D7f.IDEOGRAPH-52DDf.IDEOGRAPH-6557!1F250aƲ傘.ADVANTAGEc.ACCEPT!1F260aΐĠǬϊdɘd.SHOUdˤd.SHUANGXId.CAI!1F300a.CYCLONEa.FOGGYaǷ佴a備Ā.STARSa.SUNRISEł.MOUNTAINSba夛ɐ.DUSKa.SUNSETł夜a.RAINBOWa亙ɐ備a̯ɵa.VOLCANOa.MILKY佗ȃ夝.EUROPE-AFRICAc.AMERICASc.ASIA-AUSTRALIAa夝Ā.MERIDIANSa余ɃĠa夞仦ɃĠaϏǿɃĠa夞够ɃĠaƸɃĠa夠够ɃĠa刃ǿɃĠa夠仦ɃĠa仦Ƀa余ɃĀĻaϏǿɃĀĻa刃ǿɃĀĻaƸɃĀĻaͻĀĻa.GLOWINGƥa.SHOOTINGƥa夡aę夢aěͻcĀĂ以c啩以eĀ乴a以Ā乴c刈c偩c.TORNADOa.FOGa;夂Ļa併仳a.TACOa.BURRITOa.CHESTNUTa.SEEDLINGa.EVERGREENΧa.DECIDUOUSΧa侃Χa.CACTUSa併夣a.TULIPa.CHERRY夤",
  "a.ROSEa.HIBISCUSa.SUNFLOWERa夤a从Ĝ.MAIZEc侉a.HERBaĝɸ.CLOVERa.MAPLEɸa.FALLENɸaɸ壼Ư;a.MUSHROOMa.TOMATOa.AUBERGINEa.GRAPESa嗜a.WATERMELONa.TANGERINEa.LEMONa.BANANAa.PINEAPPLEa̲夥a乂夥a.PEARa.PEACHa.CHERRIESa.STRAWBERRYa.HAMBURGERa嗛Ĝ.PIZZAa傉ƚ傎a.POULTRYʷa侉.CRACKERb͗a.COOKED侉a.CURRYĆ侉a.STEAMING化a.SPAGHETTIa夦a唑.FRIESa.ROASTED嗝大a.DANGOa.ODENa.SUSHIa.FRIED夨aΦ北Ā勂.DESIGNa˿並天a.SHAVED並a並天a.DOUGHNUTa太a.CHOCOLATEįa.CANDYa.LOLLIPOPa.CUSTARDa.HONEY傠a.SHORTCAKEa.BENTOȷa傠Ĝ僱a.COOKINGa偧Ć侅a.TEACUP佷嚺a.SAKE僲Ć佭a傓伍a.COCKTAIL伍a夫夬a夭募a央夭.MUGSa伎僲a偧Ć侅Ā.PLATEa僲Ā.POPPING.CORKa.POPCORNa偻a.WRAPPED.PRESENTa.BIRTHDAY北a.JACK-O-LANTERNa匘Χa嗚匘a.FIREWORKSa.FIREWORK.SPARKLERa匙a匚.POPPERa.CONFETTI͗a.TANABATAΧa̰.FLAGSa.PINE夯a乸夰a.CARP.STREAMERa;.CHIMEaɃ.VIEWING.CEREMONYa副.SATCHELa.GRADUATION偘aȤĀ̐ƚǮĊa失Ĝ.FLOWERSa匛侻a.REMINDER偻a͎佰Ā.JACKSa.STUDIO夲a嗭.SLIDERa出.KNOBSa啙啎͎佶b儭͎佶a夳.FRAMESa.ADMISSION.TICKETSa.CAROUSELϞa.FERRIS偭a头.COASTERa.FISHING佾ĆΦa夲a.MOVIE匜a.CINEMAa.HEADPHONEa.ARTIST.PALETTEaǖ乽a.CIRCUS刍a.TICKETa.CLAPPER侼a.PERFORMING夵a夶夷a凵噂a.SLOT匝a.BILLIARDSa夷切a.BOWLINGa佣夕.CARDSa͎ʋḁ͎佶a.SAXOPHONEa.GUITARa͎佰a.TRUMPETa.VIOLINa͎.SCOREa匞.SHIRTĀ.SASHa夸夹Ć͗a夺Ć夺夻a.BASKETBALLĆ.HOOPa.CHEQUERED͖a.SNOWBOARDERa.RUNNERa.SURFERa.SPORTS侻a.TROPHYaϞ夼a.AMERICAN夽",
  "a.RUGBY夽a.SWIMMERa囜.LIFTERa.GOLFERa夼.MOTORCYCLEb严a夾剺Ć͗a.VOLLEYBALLa嗞夿僳Ć͗a並夿僳Ć.PUCKa削夸.PADDLEĆ͗a刈.CAPPED丢a.CAMPINGa.BEACHĀ佴a侽匟a佯夜a夛a.DERELICT佯侽a.CLASSICAL侽a.DESERTb.ISLANDa唏.PARKa.STADIUMa佯侽bĀ.GARDENa匠侽a乸匡匠a奀匡匠a.HOSPITALa凼a.AUTOMATED.TELLER匝a奁a匢奁a.CONVENIENCE奂a副a.DEPARTMENT奂a.FACTORYa.IZAKAYA.LANTERNa乸刌a奀刌aě奃aę奃a奄ě͖bę͖a劷aę劷a.LABELa.BADMINTON夹Ć.SHUTTLECOCKa仢Ćća.AMPHORAa奅ȕ.FITZPATRICK.TYPE-1-2d啜d啝d啞d啟a傔a亓a傞a̯.BUFFALOa來a傊a.LEOPARDa奆a͘a个a.CROCODILEa奇a.SNAILa偈aϞa傈a.GOATa剔a侾a.ROOSTERa.CHICKENa仳a傒a囗a匣a.OCTOPUSa傷ɛa.BUGa.ANTa.HONEYBEEa.LADY奈aΦa夫Φa.BLOWFISHa侈a.HATCHING匤a伎匤a.FRONT-FACING伎匤a傏a.PENGUINa.KOALAa.POODLEa.DROMEDARY奉a.BACTRIAN奉a.DOLPHINa亓Ļa來Ļa傊Ļa奆Ļa͘Ļa个Ļa.SPOUTING奇aϞĻa侾Ļa仳Ļa傒Ļa剛Ļa.HAMSTERĻa.WOLFĻa奊Ļa.PANDAĻa傒仴a嗈.PRINTSa.CHIPMUNKaʃaϖa从a仴aʂa亂aěĩƗ乃ōbĴƗ乃ōbĊƗ乃ōbĈƗ乃ōa.FISTEDȒąa奄Ȓąa僰Ȓąa奋ĩąbĴąa.CLAPPINGϟąaůϟąa奌a匥乽a.EYEGLASSESa.NECKTIEa.T-SHIRTa.JEANSa奍a.KIMONOa.BIKINIa匥剖a.PURSEa.HANDBAGa.POUCHa.MANS乱a.ATHLETIC乱a.HIGH-HEELED乱a匥奎b.BOOTSa.FOOTPRINTSa.BUSTƯ僴a.BUSTSƯ僴a.BOYa.GIRLaʀa丫a嘕aʀĆ丫件ϟaĎζ件ϟb.WOMEN件ϟa僵.OFFICERa丫Ā.BUNNY夀a.BRIDEĀ.VEILa˝Ā.BLOND乮aʀĀ.GUAǔ.MAOc嗕a奏ʀb丫a伎a匟.WORKERa.PRINCESSa乸.OGREb.GOBLINa剙a伎.ANGELa.EXTRATERRESTRIAL奐a奐.MONSTERa.IMPa刀a凣.DESK˝a.GUARDSMANa.DANCERa.LIPSTICKa.NAIL劥",
  "aĻ.MASSAGEa.HAIRCUTa.BARBER佾a.SYRINGEa.PILLa僫Ėa匢āaœa.GEM剥a僫a失a.COUPLEĀȤa.WEDDINGa.BEATINGȤa亖ȤaĎˇa.SPARKLINGȤa.GROWINGȤaȤĀća丩Ȥa乂Ȥa侇Ȥa匦ȤaȤĀ偻a契ˇaȤ夯aǤ.SHAPEĀČĕʖa偛Ō.BULBa匧Ġa.BOMBa匨Ġa.COLLISIONĠa.SPLASHING僶Ġa夢aǜĠa.PILEĜ低a.FLEXED.BICEPSa奒Ġa亁匙a匩匙aě佣aĵ.POINTSĠa奓做a优.EXCHANGEaĤ乆ąa儻侺a.BANKNOTEĀ伙ąc乆ąc唓ąc俄ąa奓Ā.WINGSa僷Āš匪Ć伙ąa.SEATa奔匫a.BRIEFCASEa.MINIDISCa僸便a奕傾a.DVDa佲五aů佲五aϕĀɩb奖ĩa匬a.TEAR-OFF匬a侺ōa僷Āš匪cŕ匪aį僷a.CLIPBOARDa匭a̿匭a.PAPERCLIPaɕ套aɪ套a奘.TABSa.LEDGERa.NOTEBOOKbĀ.DECORATIVE剜aǷ伏aů伏a乂伏a丩伏a伐伏a.BOOKSa侍.BADGEa.SCROLLa.MEMOa͏價a.PAGERa剽匝a奙奚a.PUBLIC.ADDRESS.LOUDSPEAKERa.CHEERING.MEGAPHONEa.OUTBOX奛a.INBOX奛a.PACKAGEa.E-MAILĠa.INCOMINGϙaϙĀŕćĉaǷ奜Ā奝͖dȻ͖aů奜ĀȻ͖d奝͖a.POSTBOXa傕ǻa奞a僺匮cĀģćɐĊa.VIBRATION.MODEa僺匮.OFFaǡ僺.PHONESa奚Ā偟a匜bĀ.FLASHa夶匜a.TELEVISIONa奟a.VIDEOCASSETTEa夳.PROJECTORa.PORTABLE.STEREOa.PRAYER.BEADSa.TWISTEDģ˚a̦ģĆıůĿ˚hĀƲĒɞbŕĆšůĿ˚aʭŕĆšůĿ˚aŝ奠ĠaƂ奠Ġa奡Ā俱ğbbĀĒʾɵcėʾ匯a奢a偛.PLUGaʄ奣伍aɒ奣伍a僻Ā.INK仼aǷ僻Āϔaϔa僻aů僻a仡bĀ俱ğa奘a啀Ġa奟休a͙ĀıćĉaȖĀıćĉaƚĀȹĖĀĊĈćĉa.SOONĀģćĉaǖĀšćĉaǡĒϒϗĠa唘ŵa.INPUTĠǬƹĄ匰eĂ匰d.NUMBERSd匏dƹ匰aͽa偛.TORCHa奤a偫a嘴Ć剎a.HOCHOa.PISTOLa.MICROSCOPEa.TELESCOPEa.CRYSTAL͗aĪǸƥĀĥĕa乸ĠǬ.BEGINNERa僄.EMBLEMaęĺ休aěĺ休aƍ̲Ŀb丩Ŀb伐Ǥb丩ǤaĂ伐Ǥb丩Ǥa̲̒Řa̲͒Řa̒Ă̲Řa͒Ă̲ŘaŗĈ̱ěĿaŭĈ̱ěĿaƲǇ奥aǇ奥Ā壹ĐcaϜĊ佧ĀėŁbĈ佧ĀėŁaĠǬ.MARKS.CHAPTERaěƹǇaĤƹǇa.CELTICǇa̟Ġa囥Ĝ刁",
  "a.KAABAa.MOSQUEa.SYNAGOGUEa.MENORAHĀķ.BRANCHESa化Ĝ.HYGIEIAa健ĻĒͣcĎͣcėͣcĝͣcġͣcĪͣcĲͣcīͣcķͣcŵͣc͐ͣc̏ͣc.ONE-THIRTYc.TWO-THIRTYc.THREE-THIRTYc.FOUR-THIRTYc.FIVE-THIRTYc.SIX-THIRTYc.SEVEN-THIRTYc.EIGHT-THIRTYc.NINE-THIRTYc.TEN-THIRTYc.ELEVEN-THIRTYc.TWELVE-THIRTYaĈ奡cĀĒʾɵdėʾ匯a.BULLHORNbĀʾ匯a.RINGING仡a伏a.CANDLEa.MANTELPIECE健aę刀Ć啑aǡ.PIRACYa啳aʀƯ.BUSINESSϘ.LEVITATINGa.SLEUTHŰ.SPYa啋奦a.SPIDERb.WEBa.JOYSTICKaʀ.DANCINGaĊȒ͏價a͏價ĀϕaĈȒ͏價aě奧͏aę奧͏a͏ƚǖĜ.MODEMa.CLAMSHELL僺匮a͙Ĝϙa奨ϙaϙĀ偩a匱ϙa仼ł奨ϙa.LINKED.PAPERCLIPSaę匭aŗĊ偲c.BALLPOINT仼c啲仼c.PAINTBRUSHc.CRAYONaĊ啹Ȓaű僰ȒąaȻȒĀɝ奩ažȻȒĀɝ奩b奋ĩącĴąb啸ȒbȒĀĥ丿ϿaȻȒĀ刞ˁĥĆœɝaěĴƗĊȒōaλěĊƗōcĈƗōbęĊƗōcĈƗōaęĊƗ乃ōbĈƗ乃ōaλěĩƗōcĴƗōbęĩƗōcĴƗōaęĩƗ乃ōbĴƗ乃ōbȤa奪匫a佰Ć亓aė.NETWORKED.COMPUTERSa奫a.POCKET.CALCULATORaęΈɛ僸便aěΈɛ僸便a˿ɛ僸便a啷.CARTRIDGEa.WIRED佰aĒ休亓aĎ休亓aė休亓a.TRACKBALLaƳ奔匫aΈ便a佤a奫匲a剽匲a奕傾匲a匳ĀϾdĆ匴c匴a四Ā匴c.TILEScȃųaę五a五aů五a侺ō.DIVIDERSb佲ȷa佲.CABINETa乓ʋcϕc侩aʋbϕb侩a乓匳bϕb奬a匳aϕa奬a.WASTEBASKETa傷ʋ侩b匬侩a奪奭a.MINIMIZEa.MAXIMIZEa勳a̦ĈĆĊ佧˚a俱ųa剶奮奯Ġa嘖奮奯Ġa.COMPRESSIONaƳϔa.ROLLED-UP奞aϕĀƲϾa剭僷a付侅a互a.SPEAKINGʕƯ僴aė令ĉcĐcĊcĈaĊ亁ϪaĈ亁ϪaĎ亁匵aė亁匵aĊ匩ϪaĈ匩ϪaĊ匧ϪaĈ匧Ϫa奰Ϫa偩奰Ϫca乳ȷĀ乳bɆųbȷĀɆųbȥɆųbȷĀȥɆųaŌ͑Ėa乳ȷĀȥ͑a.WORLD佹a.MOUNT.FUJIa.TOKYO.TOWERa.STATUEĜ.LIBERTYa僴Ĝ.JAPANa.MOYAIa匶ĻcĀ˂ʃaĻĀ匷Ĝ匊a˂ĻĀůʂfĆ˂ʃg匸僶g奱ʃd.HALOd奲a女Ļa˂ĻĀ˂ʃaĻ.SAVOURING.DELICIOUS僱a奴Ļ",
  "a˂ĻĀ奵ʃd奦a.SMIRKINGĻaɹĻa.EXPRESSIONLESSĻa.UNAMUSEDĻaĻĀ匸僶a.PENSIVEĻa.CONFUSEDĻa.CONFOUNDEDĻa匹ĻaĻ.THROWINGČ僫a匹ĻĀ˂ʃdǷʃaĻĀ.STUCK-OUT亂eĆ女ϖf奱ʃa奶Ļa.WORRIEDĻa.ANGRYĻa区Ļa医Ļa.PERSEVERINGĻaĻĀ.LOOKĜ.TRIUMPHa奶Ρ奴Ļa偮ĻĀůʂa.ANGUISHEDĻa.FEARFULĻa奷Ļa.SLEEPYĻa.TIREDĻa.GRIMACINGĻa.LOUDLY医ĻaĻĀůʂa.HUSHEDĻaĻĀůʂĆ匸僶b.SCREAMINGƯ.FEARa.ASTONISHEDĻa.FLUSHEDĻa匨Ļa奒ĻaĻ佷ʂbĀ.MEDICAL匔a匶͘ĻĀ˂ʃa͘ĻĀ匷Ĝ匊a˂͘ĻĀůʂe奵ʃa͘ĻĀ.WRY凲a匹͘ĻĀǷʃa区͘Ļa医͘Ļa奷͘Ļa匼偮Ļb˂Ļa.UPSIDE-DOWNĻaĻĀ奸ʃcǡ.GOOD她c僰她a˝.BOWING.DEEPLYa.SEE-NO-EVIL侾a.HEAR-NO-EVIL侾a.SPEAK-NO-EVIL侾a.HAPPY˝奺ĒȒa˝奺売ϟƯ.CELEBRATIONb偮bĀ区Ļc.FOLDEDϟaǂƱƗɸaǑƱƗɸaǂƜƗɸaǑƜƗɸaűǂƱƗɸbǑƱƗɸbǂƜƗɸbǑƜƗɸaǂƱƗϣɸaǑƱƗϣɸaǂƜƗϣɸaǑƜƗϣɸaĤǂƱƗϣɸbǑƱƗϣɸbǂƜƗϣɸbǑƜƗϣɸaǂƱƗ乄aǑƱƗ乄aǂƜƗ乄aǑƜƗ乄aĤǂƱƗ乄bǑƱƗ乄bǂƜƗ乄bǑƜƗ乄a.HOLLOW奻ĺƵeƯęĺa.SOLID奻ĺƵeƯęĺaı俀aš俀aģ俀aŕ俀aɆȀ̚ƵaĤɆȀ̚ƵaȀů̚ƵaĤȀů̚ƵbϫƵa亘ϫƵaɤĤēűƟȔĖƵdƟȔĖƵcŝēƟȔĖƵaĤ佢Ƶaɤ佢ƵaĤɤ佢ƵaȮĤɏcɻɏa僼侼aɻ僼侼a俀a.HELICOPTERa嗙奼a僽严a.HIGH-SPEED好cĀ̎仴a好a.METROaŌ.RAILa.STATIONa.TRAMb严a匽a俁匽a.TROLLEYBUSa匽ƅa.MINIBUSa.AMBULANCEaͽ奾a僵严a俁僵严a奿a俁奿a妀a俁妀a.RECREATIONAL.VEHICLEa.DELIVERY刊a.ARTICULATED.LORRYa.TRACTORa.MONORAILa丢僽a凜僽a丢.CABLEWAYa.AERIAL.TRAMWAYa劶a.ROWBOATa.SPEEDBOATaŎ佸ŌaĨ佸Ōa匟ąa僵.CARS契Ōaɪ͖ƚ匡a嗖aǡ刉ąa妁Ġaǡ妁Ġa剻如Ư.ITS乒Ġaʉƣ如Ġa.POTABLE̯Ġa.NON-POTABLE̯Ġa.BICYCLEaǡ.BICYCLESa妃a丢妃a因aǡ.PEDESTRIANSa.CHILDRENȑa.MENSĠa.WOMENSĠ",
  "a.RESTROOMa伎Ġa.TOILETa̯.CLOSETa.SHOWERa妄a囚a.PASSPORT出a.CUSTOMSa.BAGGAGE.CLAIMaĊ妅aŘĀΐ代a.PROHIBITEDąaƲ凣凤a.BOYSĠa.GIRLSĠa.COUCHĆ妆a匨.ACCOMMODATIONa妇.BAGSa.BELLHOP仡a.BEDa乒Ĝ.WORSHIPa.OCTAGONALąa妇.TROLLEYa.STUPAa.PAGODAa.HINDU.TEMPLEa.HUTa.ELEVATOR!1F6DDa.PLAYGROUND.SLIDEa偭aœ.BUOYa偫Ć奤a刋a傼侊a.MOTORWAYa僽嗠a妈嗣a̒匛乹b乹bĂ乹aĂ乹a.NORTHEAST-POINTING乹a乹壪b.ARRIVING!1F6F0a奙a俁ͽ奾a.DIESEL奼a.PASSENGER劶a妉a妈妉a.CANOEa.SLEDa匱.SAUCERa.SKATEBOARDa.AUTO.RICKSHAWa.PICKUP刊a头啴!1F700a.ALCHEMICALĠǬ.QUINTESSENCEd劺dͽd̑d̯d.AQUAFORTISd.AQUA.REGIAe.REGIA-2e.VITAEe.VITAE-2d妊d.VINEGAR-2d.VINEGAR-3d匾d.PHILOSOPHERS匾dę匾d啔係e.SUBLIMATE-2e.SUBLIMATE-3d.CINNABARdΨd.NITREd.VITRIOLd.VITRIOL-2d妋Ψe.SALT-2d傌d.SILVERd匿井e.ORE-2d妌Ĝ匿d妍Ĝ匿d伒井d.IRON-COPPER井d係Ĝ伒d妌Ĝ伒f.COPPER-2d伒妎dΨĜ伒妎d係ĜΨĜ伒d.VERDIGRISd.TIN井d.LEAD井d伓井d係Ĝ伓dΨĜ伓d係ĜΨĜ伓d妊Ĝ伓d妍Ĝ伓f.ANTIMONY-2ed.REGULUS-2d.REGULUS-3d.REGULUS-4d.ALKALId.ALKALI-2d.MARCASITEd.SAL-AMMONIACd.ARSENICd.REALGARd.REALGAR-2d.AURIPIGMENTd.BISMUTH井d.TARTARd.TARTAR-2d.QUICK.LIMEd.BORAXd.BORAX-2d.BORAX-3d.ALUMd傼d剐d.TINCTUREd垤d噃d.POWDERd.CALXd.TUTTYd.CAPUT.MORTUUMd.SCEPTERĜ.JOVEd啒d僄d.STARRED僄d.LODESTONEd妏d.URINEdϞ哨d妐d傠妐d區d.POWDERED區d.AMALGAMd妑.SUPER妑f.STRATUM-2d.SUBLIMATIONd.PRECIPITATEd.DISTILLd.DISSOLVEd.DISSOLVE-2",
  "d.PURIFYd.PUTREFACTIONd.CRUCIBLEd.CRUCIBLE-2d.CRUCIBLE-3d.CRUCIBLE-4d.CRUCIBLE-5d啤d妄Ĝ.MARYf.VAPOURSd.RETORTd嘅d備d.DAY-NIGHTd儺dĳ卽e唝!1F780aęʄ僾ĈŘb̒僾ĈŘbɒ僾ĈŘb͒僾ĈŘb匼ĂĿaţȥěĿaȥěĿaĤěĿaȮĤěĿa伔ĤěĿaěĿ乲ęĂĿa̿十aę佽ĺb匼ĂĺaŌěĺaţěĺaȥěĺaĤěĺaȮĤěĺa伔Ĥěĺaěĺ乲ęȮĂĺeţĺaĺ十aę佽ǤbȮĂǤbţĂǤaěǤ乲ęȮĂǤeţǤaǤ十aę佽̮bȮĂ̮bţĂ̮aě̮乲ęĂ̮a俩ɈǇaŌɈǇaţɈǇaȥɈǇaȮȥɈǇbĤɈǇa伔ĤɈǇa俩ͼaŌͼaţͼaȥͼaĤͼaȮĤͼa伔ĤͼaŌġʰǆaţġʰǆaȥġʰǆaĤġʰǆaȮĤġʰǆa伔ĤġʰǆaŌĪʰǆaţĪʰǆaȥĪʰǆaĤĪʰǆaȮĤĪʰǆa伔ĤĪʰǆaŌīʰǆaţīʰǆaȥīʰǆaĤīʰǆaȮĤīʰǆaŌėǸęƥaţėǸęƥaėǸęƥaţėǸϚƥaŌĝǸęƥaţĝǸęƥaĝǸęƥaţĝǸϚƥaɻŌĝǸϚƥaŌġǸęƥaĤġǸęƥaţĪǸęƥaĤĪǸęƥaĪǸϚƥaţīǸęƥaĤīǸęƥaȮĤīǸęƥaĤīǸϚƥaŌ̏ǸęƥaĤ̏ǸęƥdϚƥaƲŘa˸ƲŘaƲĺa˸Ʋĺ!1F7E0aƍ伐Ŀb侇Ŀb乂Ŀb匦Ŀb卂Ŀb̲ĺb丩ĺb伐ĺb侇ĺb乂ĺb匦ĺb卂ĺ!1F7F0aĤǶą!1F800aıćĀĂŘƈašćĀĂŘƈaģćĀĂŘƈaŕćĀĂŘƈaıćĀţŘƈašćĀţŘƈaģćĀţŘƈaŕćĀţŘƈaıćĀƍŘƈašćĀƍŘƈaģćĀƍŘƈaŕćĀƍŘƈ!1F810aıćĀĂɜƈašćĀĂɜƈaģćĀĂɜƈaŕćĀĂɜƈaıćĀɜƈašćĀɜƈaģćĀɜƈaŕćĀɜƈaĤıćĀɜƈbšćĀɜƈbģćĀɜƈbŕćĀɜƈbıćĀƍɜƈbšćĀƍɜƈbģćĀƍɜƈbŕćĀƍɜƈaıƋćĀ仔ɺašƋćĀ仔ɺaģƋćĀ仔ɺaŕƋćĀ仔ɺaıƋćĀţɺašƋćĀţɺaģƋćĀţɺaŕƋćĀţɺaıƋćĀȥɺašƋćĀȥɺaģƋćĀȥɺaŕƋćĀȥɺaıƋćĀĤɺašƋćĀĤɺaģƋćĀĤɺaŕƋćĀĤɺaıƋćĀȮĤɺašƋćĀȮĤɺaģƋćĀȮĤɺaŕƋćĀȮĤɺaı僿ćaš僿ćaģ僿ćaŕ僿ćaıǺćašǺćaģǺćaŕǺćaı久ćaš久ćaģ久ćaŕ久ćaıĤ久ćašĤ久ćaģĤ久ćaŕĤ久ćaıĤćašĤćaģĤćaŕĤć!1F850aıɤćašɤćaģɤćaŕɤćaǂƱɤćbƜɤćaǑƜɤćbƱɤćaĊĈɤćaĩĴɤć!1F860a喂ıŌŞćbšŌŞćbģŌŞćbŕŌŞćbǂƱŌŞćcƜŌŞćbǑƜŌŞćcƱŌŞćbıŞćbšŞćbģŞćbŕŞćbǂƱŞćcƜŞćbǑƜŞćcƱŞćbıţŞćbšţŞćbģţŞćbŕţŞć",
  "bǂƱţŞćcƜţŞćbǑƜţŞćcƱţŞćbıĤŞćbšĤŞćbģĤŞćbŕĤŞćbǂƱĤŞćcƜĤŞćbǑƜĤŞćcƱĤŞćbıȮĤŞćbšȮĤŞćbģȮĤŞćbŕȮĤŞćbǂƱȮĤŞćcƜȮĤŞćbǑƜȮĤŞćcƱȮĤŞć!1F890aıŘƈašŘƈaģŘƈaŕŘƈaıěć乕Řƈašěć乕Řƈaģěć乕Řƈaŕěć乕ŘƈaıćĀϜƫašćĀϜƫaģćĀϜƫaŕćĀϜƫaĤćɺ你ĒeĎϐeĒĳf̧aı.BOTTOM-SHADEDěćaģȈ千ěćaıǖ千ěćaģǖ千ěćaı刖ěćaģ刕ěćaı刕ěćaģ刖ěćaı列̱ěćaģ列̱ěćaı刘̱ěćaģ刘̱ěćaěćɺ你ĒeĎϐ!1F8B0aćƗš乻ǂƱcģ乻刜ǑƱ!1F900aƲǇ.FORMEEĀĝŁeĎŁdaĊĳĿĀĝŁeėŁeĎŁeĕda.DOWNWARD奖ĞcϜĞcĞĀĕcϜĞĀĕa.PINCHEDɝaěȤa卂Ȥa.PINCHINGȒa.ZIPPER-MOUTHĻa.MONEY-MOUTHĻaĻĀ夡a.NERDĻa.THINKINGĻaĻĀ.HEAD-BANDAGEa.ROBOTĻa妒ĻaąĜǮ奲a剮țȒaȻ͙ĜȒa俕刐a俔刐a.HANDSHAKEaȒĀōĆĥɝ̰aĔ匢.YOUȒąaĻĀ.COWBOY乽a.CLOWNĻa.NAUSEATEDĻa奸ƚǮΣ.LAUGHINGa.DROOLINGĻa.LYINGĻaĻ侃a.SNEEZINGĻaĻĀĒ.EYEBROWȻa匶ĻĀƥʃdĒƍĆĒĂϖaĻĀ丿卄Ƿ互a.SERIOUSĻĀ匏卄ʂa˂ĻĀ˂ʃĆȒ卄ʂaĻĀůʂ.VOMITINGa.SHOCKEDĻĀ.EXPLODINGʕa妓丫a.BREAST-FEEDINGa.PALMSĩ傝a.SELFIEa.PRINCEaʀƯ.TUXEDOa嗇匘a.SHRUGa˝.DOING.CARTWHEELa.JUGGLINGa.FENCERa.MODERN.PENTATHLONa.WRESTLERSa̯.POLOa.HANDBALLa.DIVING匔a.WILTED佣a侊Ā.DRUMSTICKSa央.GLASSESa.TUMBLER伍a剝a俠剓a.RIFLEaϏ乒侻a亀乒侻a̧乒侻a.BOXING.GLOVEa.MARTIAL夵.UNIFORMa.CURLING剥a.LACROSSE僳Ć͗a.SOFTBALLa匱傾a.CROISSANTa.AVOCADOa.CUCUMBERa.BACONa大a.CARROTa.BAGUETTE夦a乂.SALADa.SHALLOW勇Ĝ僱a.STUFFED妔a囫a伍Ĝ.MILKa.PEANUTSa.KIWIFRUITa.PANCAKESa.DUMPLINGa.FORTUNE太a.TAKEOUTȷa.CHOPSTICKSa化Ā剝a佭Ā.STRAWa.COCONUTa.BROCCOLIa嘟",
  "a.PRETZELa劆Ĝ傉a.SANDWICHa.CANNED僱a.LEAFY乂a.MANGOaɃ北a.BAGELa˂ĻĀ˂ʃĆėˇa.YAWNINGĻa˂ĻĀ.TEARaĻĀ匚ǻĆ匚乽c.UNEVENʃĆΏʂa.OVERHEATEDĻa.FREEZINGĻa.NINJAa.DISGUISEDĻaĻ件͙匷bĀ.PLEADINGʃa哟a.LAB妕a.GOGGLESa.HIKING夻a仨乱a.CRABa.LIONĻa.SCORPIONa.TURKEYa.UNICORNĻa囤a.DUCKa剺a.SHARKa.OWLa嘪Ļa.BUTTERFLYa剦a.GORILLAa.LIZARDa.RHINOCEROSa夨a.SQUIDa.GIRAFFEĻa.ZEBRAĻa.HEDGEHOGa.SAUROPODa.T-REXa夾a.KANGAROOa.LLAMAa.PEACOCKa.HIPPOPOTAMUSa.PARROTa.RACCOONa.LOBSTERa.MOSQUITOa.MICROBEa嗥a.SWANa.MAMMOTHa.DODOa.SLOTHa.OTTERa.ORANGUTANa.SKUNKa.FLAMINGOa.OYSTERa哊a.BISONa剋a.GUIDE仳a.PROBING.CANEa奅.COMPONENT̲乮cȺ乮c.BALDcě乮a傎aʷa偣a傑a.SUPERHEROa.SUPERVILLAINa刎.VESTa从Ā.HEARING.AIDa.MOTORIZED分a.MANUAL分a.MECHANICAL佼bʷa.CHEESE.WEDGEa.CUPCAKEaΨ.SHAKERa啐ȷa.GARLICa.ONIONa.FALAFELa.WAFFLEa.BUTTERa.MATE夬a並儠aϪ.TEAa.TROLLa.STANDING˝a.KNEELING˝a.DEAF˝aĻĀ.MONOCLEa妖a剟a奏妖a.BEARDED˝a˝Ā.HEADSCARFbƯ.STEAMY.ROOMb.CLIMBINGbƯ傿偝a.MAGEa.FAIRYa.VAMPIREa.MERPERSONa.ELFa.GENIEa.ZOMBIEa.BRAINa伐Ȥa.BILLED偘a.SCARFa.GLOVESa妕a.SOCKSa̲.GIFTϙa.FIRECRACKERa.JIGSAW.PUZZLE丝a.TEST.TUBEa.PETRIɦa.DNAē.HELIXa.COMPASSa.ABACUSaͽ.EXTINGUISHERa.TOOLBOXa區a.MAGNETa妅a.LOTION僲a.SPOOLĜ剌a͗Ĝ.YARNa刎塡a.TEDDY奊a.BROOMa.BASKETa.ROLLĜ偯aįĜ妏a.SPONGEa.RECEIPTa.NAZAR.AMULETaɹȋʯc˜c͓c͔cȯc͕aěȋȯƛ卅Ʒ",
  "aęȋȯƛ卅Ʒaɹȋȯƛ卅ƷaěȋʯƛǯƷc˜ƛǯƷc͓ƛǯƷc͔ƛǯƷcȯƛǯƷc͕ƛǯƷaęȋʯƛǯƷc˜ƛǯƷc͓ƛǯƷc͔ƛǯƷcȯƛǯƷc͕ƛǯƷaɹȋʯƛǯƷc˜ƛǯƷc͓ƛǯƷc͔ƛǯƷcȯƛǯƷc͕ƛǯƷaěȋȯƛĒĵ卆ƷaęȋȯƛĒĵ卆ƷaɹȋȯƛĒĵ卆Ʒaěȋűʯd˜d͓d͔dȯd͕aęȋűʯd˜d͓d͔dȯd͕aɹȋűʯd˜d͓d͔dȯd͕aěȋȯƛĎĵ傜ƷaęȋȯƛĎĵ傜ƷaɹȋȯƛĎĵ傜ƷaěȋʯƛĎĵǾƷc˜ƛĎĵǾƷc͓ƛĎĵǾƷc͔ƛĎĵǾƷcȯƛĎĵǾƷc͕ƛĎĵǾƷaęȋʯƛĎĵǾƷc˜ƛĎĵǾƷc͓ƛĎĵǾƷc͔ƛĎĵǾƷcȯƛĎĵǾƷc͕ƛĎĵǾƷaɹȋʯƛĎĵǾƷc˜ƛĎĵǾƷc͓ƛĎĵǾƷc͔ƛĎĵǾƷcȯƛĎĵǾƷc͕ƛĎĵǾƷaěȋȯƛėĵͺƷaęȋȯƛėĵͺƷaɹȋȯƛėĵͺƷaěȋ伕aęȋ伕aɹȋ伕aěȋ伕ƛǯƷaęȋ伕ƛǯƷaɹȋ伕ƛǯƷaěȋ妗c妘c妙aęȋ妗c妘c妙!1FA60a.XIANGQI̲妚c妛c匣cϞc供c妜c妝bę妚c妛c匣cϞc供c妜c妝!1FA70a.BALLET.SHOESa.ONE-PIECE.SWIMSUITa.BRIEFSa凷a句奎!1FA78a.DROPĜ嗤a.ADHESIVE.BANDAGEa.STETHOSCOPEa.X-RAYa.CRUTCH!1FA80a.YO-YOa.KITEa.PARACHUTEa囡a.MAGIC.WANDa.PINATAa.NESTING夰!1FA90a.RINGED.PLANETa啈a.RAZORa剣a.DIYA妆a.BANJOa匛偰a.ACCORDIONaŴ侊a.COINa团劫a.SCREWDRIVERa.LADDERaĞa妞a奭a.PLUNGERa.SEWING.NEEDLEa.KNOTa.BUCKETa亓.TRAPa.TOOTHBRUSHa啵a.PLACARDa妋a妞͗a啉侺aŝ奢a.HAMSA!1FAB0a剘a.WORMa奈a.COCKROACHa.POTTED.PLANTa剬a倹a傿a.CORALa乓妟a妟Ā.EGGS!1FAC0a.ANATOMICALȤa.LUNGSa塤妒a妓ʀb˝a˝Ā奌!1FAD0a.BLUEBERRIESa仡夣a囘a妔a.TAMALEa.FONDUEa.TEAPOTa.POURING囝a.BEANSa嗡!1FAE0a.MELTINGĻa.SALUTINGĻaĻĀůʃĆȒłʂc.PEEKINGϖcǊʂaǪƒĻa嘑劃a匵!1FAF0aȒĀō丿Ćź̰aģȒaıȒa侃ĴȒbĩȒaōƗɐǮ.VIEWERaȤϟ!1FB00aƧ.SEXTANT-1b.SEXTANT-2b.SEXTANT-12b.SEXTANT-3b.SEXTANT-13b.SEXTANT-23b.SEXTANT-123b.SEXTANT-4",
  "b.SEXTANT-14b.SEXTANT-24b.SEXTANT-124b.SEXTANT-34b.SEXTANT-134b.SEXTANT-234b.SEXTANT-1234b.SEXTANT-5b.SEXTANT-15b.SEXTANT-25b.SEXTANT-125b.SEXTANT-35b.SEXTANT-235b.SEXTANT-1235b.SEXTANT-45b.SEXTANT-145b.SEXTANT-245b.SEXTANT-1245b.SEXTANT-345b.SEXTANT-1345b.SEXTANT-2345b.SEXTANT-12345b.SEXTANT-6b.SEXTANT-16b.SEXTANT-26b.SEXTANT-126b.SEXTANT-36b.SEXTANT-136b.SEXTANT-236b.SEXTANT-1236b.SEXTANT-46b.SEXTANT-146b.SEXTANT-1246b.SEXTANT-346b.SEXTANT-1346b.SEXTANT-2346b.SEXTANT-12346b.SEXTANT-56b.SEXTANT-156b.SEXTANT-256b.SEXTANT-1256b.SEXTANT-356b.SEXTANT-1356b.SEXTANT-2356b.SEXTANT-12356b.SEXTANT-456b.SEXTANT-1456b.SEXTANT-2456b.SEXTANT-12456b.SEXTANT-3456b.SEXTANT-13456b.SEXTANT-23456aŗĊƧǊŗĥĊĘŗƨjĈeŭĥĊĘŗƨjĈfĊĘŗƨbĈƧǊŭĥĊĘŭƨjĈeŗĥĊĘŭƨjĈfĊĘŭƨfĥĊĘŭĥĈfƨĘŗĥĈfĊĘŗĥĈfƨĘŭĥĈfĊĘŭĥĈfƨĘŭĈbĊƧǊŭƨĘŭĥĈfĊĘŭĥĈfƨĘŗĥĈfĊĘŗĥĈfƨĘŗĈfĥĊĘŗĥĈaŭĈƧǊŗĥĊĘŗƨjĈeŭĥĊĘŗƨjĈfĊĘŗƨbĊƧǊŭĥĊĘŭƨjĈeŗĥĊĘŭƨjĈfĊĘŭƨfĥĊĘŭĥĈfƨĘŗĥĈfĊĘŗĥĈfƨĘŭĥĈfĊĘŭĥĈfƨĘŭĈbĈƧǊŭƨĘŭĥĈfĊĘŭĥĈfƨĘŗĥĈfĊĘŗĥĈfƨĘŗĈfĥĊĘŗĥĈbĆĈĆŗɪėˢƧaĊĆŗĆĈɪėˢƧaŭĆĊĆŗɪėˢƧaĊĆŭĆĈɪėˢƧbɪĒǿƧaŭɪĒǿƧaĈɪĒǿƧaŗɪĒǿƧaĨĒȵ妠d妡d妢d妣d妤d妥aŎĒȵ妠d妡d妢d妣d妤d妥aĊĆŗĒȵƧcŭĒȵƧaĈĆŭĒȵƧcŗĒȵƧaŭĆŗĒȵƧaŎĒȵ.BLOCK-1358aŭĒǿƧbė˵Ƨbġ˵ƧbėˢƧbĲ˵ƧaĈĒǿƧbė˵Ƨbġ˵ƧbėˢƧbĲ˵ƧaĊĳţ˹aĈĳţ˹aŭĳţ˹aŗĳţ˹aΤţ˹aŭĳƧĆŗĳΤţ˹cΤţ˹ĆŗĳƧ!1FB94aĊĳΤţ˹ĆĈĳƧa僼侼̓aΤ僼侼̓aĤŎ̓",
  "aŭĊĘŗĈ̓bĈĘŗĊ̓bĆŗɪĳƧaĊĆĈɪĳƧaŭĊɪţ˹bĈɪţ˹aŗĈɪţ˹bĊɪţ˹aȷ啊ŌǊŭƨĘĥĊiĈeĥĊĘŗƨfĈĘŗƨeŭƨĘĥĊĘŗƨiĈĘŗƨeĥĊĘŗƨĘĥĈhŭƨĘĥĈeŭƨĘĥĊĆĥĈĘŗƨiĈĆĥĊĘŗƨjĘŗƨĘĥĊiĊĘŗƨĘĥĈeĥĊĘŭƨĘĥĈĘŗƨfĈĘŭƨĘĥĊĘŗƨeǤdŎĀĨğa.ARROWHEAD-SHAPED佳aΤ͑ĖaĊĳ匞ʀaĈĳ匞ʀaΤŕćĀ̐ıaıćĆŭĆŗĒȵƧaģćĆŭĆŗĒȵƧaŕćĆĈĒȵƧašćĆĈĒȵƧaĊĳ五aĈĳ五a.VOIDEDɈǇaĈůǺĕa˸ǊǇcĥĈĘŗƨcǤaěĤͼĀΐ代aÇ̇ěĈƗōaḩ̂ěĈƗōaÇ̂ěĈƗōa˸ǺȞĖa僳偍cĀ.ARMSȻc.LEANINGĊdĈcĀ奍aě̒啽!1FBF0a.SEGMENTEDŒŨcĒcĎcėcĝcġcĪcĲcīcķ!2F800a乿嚿囀#eeeeeeeeeeeeeeeeeeeeeeeeeeeeeeeeeeeeeeeeeeeeeeeeeeeeeeeeeeeeeeeeeeeeeeeeeeeeeeeeeeeeeeeeeeeeeeeeeeeeeeeeeeeeeeeeeeeeeeeeeeeeeeeeeeeeeeeeeeeeeeeeeeeeeeeeeeeeeeeeeeeeeeeeeeeeeeeeeeeeeeeeeeeeeeeeeeeeeeeeeeeeeeeeeeeeeeeeeeeeeeeeeeeeeeeeeeeeeeeeeeeeeeeeeeeeeeeeeeeeeeeeeeeeeeeeeeeeeeeeeeeeeeeeeeeeeeeeeeeeeeeeeeeeeeeeeeeeeeeeeeeeeeeeeeeeeeeeeeeeeeeeeeeeeeeeeeeeeeeeeeeeeeeeeeeeeeeeeeeeeeeeeeeeeeeeeeeeeeeeeeeeeeeeeeeeeeeeeeeeeeeeeeeeeeeeeeeeeeeeeeeeeeeeeeeeeeeeeeeeeeeeeeeeeeeeeeeeeeeeeeeeeeeeeeeeeeeeeeeeeeeeeeeeeeeeeeeeeeeeeeeeeeeeeeeeeeeeeeeee!E0001a.LANGUAGE侧!E0020a侧ɧbȹĖbȔĖbƙąb乆ąb伖ąbϫbΰbĊǒbĈǒbǆbİąbƟb促bƸƅbɏbŒŨcĒcĎcėcĝcġcĪcĲcīcķbȌb̸bơąbǶąbƤąbȞĖb众ɐbƹĄāČeŶeūeŢeďeƎeŖeşeĔeƀeřeĭeňeĽečeŮeƢeĦeħeŚeċeśeŷeųeŤeŬbĊĺĸbɻɏbĈĺĸbŸǥbŝƒbƏǥbƹĂāČeŶeūeŢeďeƎeŖeşeĔeƀeřeĭeňeĽečeŮeƢeĦeħeŚeċeśeŷeųeŤeŬbĊȺĸbĨƒbĈȺĸbŏa啂侧!E0100a佖.SELECTOR-17",
  "b.SELECTOR-18b.SELECTOR-19b.SELECTOR-20b.SELECTOR-21b.SELECTOR-22b.SELECTOR-23b.SELECTOR-24b.SELECTOR-25b.SELECTOR-26b.SELECTOR-27b.SELECTOR-28b.SELECTOR-29b.SELECTOR-30b.SELECTOR-31b.SELECTOR-32b.SELECTOR-33b.SELECTOR-34b.SELECTOR-35b.SELECTOR-36b.SELECTOR-37b.SELECTOR-38b.SELECTOR-39b.SELECTOR-40b.SELECTOR-41b.SELECTOR-42b.SELECTOR-43b.SELECTOR-44b.SELECTOR-45b.SELECTOR-46b.SELECTOR-47b.SELECTOR-48b.SELECTOR-49b.SELECTOR-50b.SELECTOR-51b.SELECTOR-52b.SELECTOR-53b.SELECTOR-54b.SELECTOR-55b.SELECTOR-56b.SELECTOR-57b.SELECTOR-58b.SELECTOR-59b.SELECTOR-60b.SELECTOR-61b.SELECTOR-62b.SELECTOR-63b.SELECTOR-64b.SELECTOR-65b.SELECTOR-66b.SELECTOR-67b.SELECTOR-68b.SELECTOR-69b.SELECTOR-70b.SELECTOR-71b.SELECTOR-72b.SELECTOR-73b.SELECTOR-74b.SELECTOR-75b.SELECTOR-76b.SELECTOR-77b.SELECTOR-78b.SELECTOR-79b.SELECTOR-80b.SELECTOR-81b.SELECTOR-82b.SELECTOR-83b.SELECTOR-84b.SELECTOR-85b.SELECTOR-86b.SELECTOR-87b.SELECTOR-88b.SELECTOR-89b.SELECTOR-90b.SELECTOR-91b.SELECTOR-92b.SELECTOR-93b.SELECTOR-94b.SELECTOR-95b.SELECTOR-96b.SELECTOR-97b.SELECTOR-98b.SELECTOR-99b.SELECTOR-100b.SELECTOR-101b.SELECTOR-102b.SELECTOR-103b.SELECTOR-104b.SELECTOR-105b.SELECTOR-106b.SELECTOR-107b.SELECTOR-108",
  "b.SELECTOR-109b.SELECTOR-110b.SELECTOR-111b.SELECTOR-112b.SELECTOR-113b.SELECTOR-114b.SELECTOR-115b.SELECTOR-116b.SELECTOR-117b.SELECTOR-118b.SELECTOR-119b.SELECTOR-120b.SELECTOR-121b.SELECTOR-122b.SELECTOR-123b.SELECTOR-124b.SELECTOR-125b.SELECTOR-126b.SELECTOR-127b.SELECTOR-128b.SELECTOR-129b.SELECTOR-130b.SELECTOR-131b.SELECTOR-132b.SELECTOR-133b.SELECTOR-134b.SELECTOR-135b.SELECTOR-136b.SELECTOR-137b.SELECTOR-138b.SELECTOR-139b.SELECTOR-140b.SELECTOR-141b.SELECTOR-142b.SELECTOR-143b.SELECTOR-144b.SELECTOR-145b.SELECTOR-146b.SELECTOR-147b.SELECTOR-148b.SELECTOR-149b.SELECTOR-150b.SELECTOR-151b.SELECTOR-152b.SELECTOR-153b.SELECTOR-154b.SELECTOR-155b.SELECTOR-156b.SELECTOR-157b.SELECTOR-158b.SELECTOR-159b.SELECTOR-160b.SELECTOR-161b.SELECTOR-162b.SELECTOR-163b.SELECTOR-164b.SELECTOR-165b.SELECTOR-166b.SELECTOR-167b.SELECTOR-168b.SELECTOR-169b.SELECTOR-170b.SELECTOR-171b.SELECTOR-172b.SELECTOR-173b.SELECTOR-174b.SELECTOR-175b.SELECTOR-176b.SELECTOR-177b.SELECTOR-178b.SELECTOR-179b.SELECTOR-180b.SELECTOR-181b.SELECTOR-182b.SELECTOR-183b.SELECTOR-184b.SELECTOR-185b.SELECTOR-186b.SELECTOR-187b.SELECTOR-188b.SELECTOR-189b.SELECTOR-190b.SELECTOR-191b.SELECTOR-192b.SELECTOR-193",
  "b.SELECTOR-194b.SELECTOR-195b.SELECTOR-196b.SELECTOR-197b.SELECTOR-198b.SELECTOR-199b.SELECTOR-200b.SELECTOR-201b.SELECTOR-202b.SELECTOR-203b.SELECTOR-204b.SELECTOR-205b.SELECTOR-206b.SELECTOR-207b.SELECTOR-208b.SELECTOR-209b.SELECTOR-210b.SELECTOR-211b.SELECTOR-212b.SELECTOR-213b.SELECTOR-214b.SELECTOR-215b.SELECTOR-216b.SELECTOR-217b.SELECTOR-218b.SELECTOR-219b.SELECTOR-220b.SELECTOR-221b.SELECTOR-222b.SELECTOR-223b.SELECTOR-224b.SELECTOR-225b.SELECTOR-226b.SELECTOR-227b.SELECTOR-228b.SELECTOR-229b.SELECTOR-230b.SELECTOR-231b.SELECTOR-232b.SELECTOR-233b.SELECTOR-234b.SELECTOR-235b.SELECTOR-236b.SELECTOR-237b.SELECTOR-238b.SELECTOR-239b.SELECTOR-240b.SELECTOR-241b.SELECTOR-242b.SELECTOR-243b.SELECTOR-244b.SELECTOR-245b.SELECTOR-246b.SELECTOR-247b.SELECTOR-248b.SELECTOR-249b.SELECTOR-250b.SELECTOR-251b.SELECTOR-252b.SELECTOR-253b.SELECTOR-254b.SELECTOR-255b.SELECTOR-256"]

/-- The aliases of characters. -/
def nameAliasText : List String := [
  "0 NULL;0 NUL;1 START OF HEADING;1 SOH;2 START OF TEXT;2 STX;3 END OF TEXT;3 ETX;4 END OF TRANSMISSION;4 EOT;5 ENQUIRY;5 ENQ;6 ACKNOWLEDGE;6 ACK;7 ALERT;7 BEL;8 BACKSPACE;8 BS;9 CHARACTER TABULATION;9 HORIZONTAL TABULATION;9 HT;9 TAB;A LINE FEED;A NEW LINE;A END OF LINE",
  "A LF;A NL;A EOL;B LINE TABULATION;B VERTICAL TABULATION;B VT;C FORM FEED;C FF;D CARRIAGE RETURN;D CR;E SHIFT OUT;E LOCKING-SHIFT ONE;E SO;F SHIFT IN;F LOCKING-SHIFT ZERO;F SI;10 DATA LINK ESCAPE;10 DLE;11 DEVICE CONTROL ONE;11 DC1;12 DEVICE CONTROL TWO;12 DC2;13 DEVICE CONTROL THREE;13 DC3;14 DEVICE CONTROL FOUR",
  "14 DC4;15 NEGATIVE ACKNOWLEDGE;15 NAK;16 SYNCHRONOUS IDLE;16 SYN;17 END OF TRANSMISSION BLOCK;17 ETB;18 CANCEL;18 CAN;19 END OF MEDIUM;19 EOM;1A SUBSTITUTE;1A SUB;1B ESCAPE;1B ESC;1C INFORMATION SEPARATOR FOUR;1C FILE SEPARATOR;1C FS;1D INFORMATION SEPARATOR THREE;1D GROUP SEPARATOR;1D GS;1E INFORMATION SEPARATOR TWO;1E RECORD SEPARATOR;1E RS;1F INFORMATION SEPARATOR ONE",
  "1F UNIT SEPARATOR;1F US;20 SP;7F DELETE;7F DEL;80 PADDING CHARACTER;80 PAD;81 HIGH OCTET PRESET;81 HOP;82 BREAK PERMITTED HERE;82 BPH;83 NO BREAK HERE;83 NBH;84 INDEX;84 IND;85 NEXT LINE;85 NEL;86 START OF SELECTED AREA;86 SSA;87 END OF SELECTED AREA;87 ESA;88 CHARACTER TABULATION SET;88 HORIZONTAL TABULATION SET;88 HTS;89 CHARACTER TABULATION WITH JUSTIFICATION",
  "89 HORIZONTAL TABULATION WITH JUSTIFICATION;89 HTJ;8A LINE TABULATION SET;8A VERTICAL TABULATION SET;8A VTS;8B PARTIAL LINE FORWARD;8B PARTIAL LINE DOWN;8B PLD;8C PARTIAL LINE BACKWARD;8C PARTIAL LINE UP;8C PLU;8D REVERSE LINE FEED;8D REVERSE INDEX;8D RI;8E SINGLE SHIFT TWO;8E SINGLE-SHIFT-2;8E SS2;8F SINGLE SHIFT THREE;8F SINGLE-SHIFT-3;8F SS3;90 DEVICE CONTROL STRING;90 DCS;91 PRIVATE USE ONE;91 PRIVATE USE-1;91 PU1",
  "92 PRIVATE USE TWO;92 PRIVATE USE-2;92 PU2;93 SET TRANSMIT STATE;93 STS;94 CANCEL CHARACTER;94 CCH;95 MESSAGE WAITING;95 MW;96 START OF GUARDED AREA;96 START OF PROTECTED AREA;96 SPA;97 END OF GUARDED AREA;97 END OF PROTECTED AREA;97 EPA;98 START OF STRING;98 SOS;99 SINGLE GRAPHIC CHARACTER INTRODUCER;99 SGC;9A SINGLE CHARACTER INTRODUCER;9A SCI;9B CONTROL SEQUENCE INTRODUCER;9B CSI;9C STRING TERMINATOR;9C ST",
  "9D OPERATING SYSTEM COMMAND;9D OSC;9E PRIVACY MESSAGE;9E PM;9F APPLICATION PROGRAM COMMAND;9F APC;A0 NBSP;AD SHY;1A2 LATIN CAPITAL LETTER GHA;1A3 LATIN SMALL LETTER GHA;34F CGJ;61C ALM;709 SYRIAC SUBLINEAR COLON SKEWED LEFT;CDE KANNADA LETTER LLLA;E9D LAO LETTER FO FON;E9F LAO LETTER FO FAY;EA3 LAO LETTER RO;EA5 LAO LETTER LO;FD0 TIBETAN MARK BKA- SHOG GI MGO RGYAN;11EC HANGUL JONGSEONG YESIEUNG-KIYEOK;11ED HANGUL JONGSEONG YESIEUNG-SSANGKIYEOK;11EE HANGUL JONGSEONG SSANGYESIEUNG;11EF HANGUL JONGSEONG YESIEUNG-KHIEUKH;180B FVS1;180C FVS2",
  "180D FVS3;180E MVS;180F FVS4;200B ZWSP;200C ZWNJ;200D ZWJ;200E LRM;200F RLM;202A LRE;202B RLE;202C PDF;202D LRO;202E RLO;202F NNBSP;205F MMSP;2060 WJ;2066 LRI;2067 RLI;2068 FSI;2069 PDI;2118 WEIERSTRASS ELLIPTIC FUNCTION;2448 MICR ON US SYMBOL;2449 MICR DASH SYMBOL;2B7A LEFTWARDS TRIANGLE-HEADED ARROW WITH DOUBLE VERTICAL STROKE;2B7C RIGHTWARDS TRIANGLE-HEADED ARROW WITH DOUBLE VERTICAL STROKE",
  "A015 YI SYLLABLE ITERATION MARK;AA6E MYANMAR LETTER KHAMTI LLA;FE00 VS1;FE01 VS2;FE02 VS3;FE03 VS4;FE04 VS5;FE05 VS6;FE06 VS7;FE07 VS8;FE08 VS9;FE09 VS10;FE0A VS11;FE0B VS12;FE0C VS13;FE0D VS14;FE0E VS15;FE0F VS16;FE18 PRESENTATION FORM FOR VERTICAL RIGHT WHITE LENTICULAR BRACKET;FEFF BYTE ORDER MARK;FEFF BOM;FEFF ZWNBSP;122D4 CUNEIFORM SIGN NU11 TENU;122D5 CUNEIFORM SIGN NU11 OVER NU11 BUR OVER BUR;16E56 MEDEFAIDRIN CAPITAL LETTER H",
  "16E57 MEDEFAIDRIN CAPITAL LETTER NG;16E76 MEDEFAIDRIN SMALL LETTER H;16E77 MEDEFAIDRIN SMALL LETTER NG;1B001 HENTAIGANA LETTER E-1;1D0C5 BYZANTINE MUSICAL SYMBOL FTHORA SKLIRON CHROMA VASIS;E0100 VS17;E0101 VS18;E0102 VS19;E0103 VS20;E0104 VS21;E0105 VS22;E0106 VS23;E0107 VS24;E0108 VS25;E0109 VS26;E010A VS27;E010B VS28;E010C VS29;E010D VS30;E010E VS31;E010F VS32;E0110 VS33;E0111 VS34;E0112 VS35;E0113 VS36",
  "E0114 VS37;E0115 VS38;E0116 VS39;E0117 VS40;E0118 VS41;E0119 VS42;E011A VS43;E011B VS44;E011C VS45;E011D VS46;E011E VS47;E011F VS48;E0120 VS49;E0121 VS50;E0122 VS51;E0123 VS52;E0124 VS53;E0125 VS54;E0126 VS55;E0127 VS56;E0128 VS57;E0129 VS58;E012A VS59;E012B VS60;E012C VS61",
  "E012D VS62;E012E VS63;E012F VS64;E0130 VS65;E0131 VS66;E0132 VS67;E0133 VS68;E0134 VS69;E0135 VS70;E0136 VS71;E0137 VS72;E0138 VS73;E0139 VS74;E013A VS75;E013B VS76;E013C VS77;E013D VS78;E013E VS79;E013F VS80;E0140 VS81;E0141 VS82;E0142 VS83;E0143 VS84;E0144 VS85;E0145 VS86",
  "E0146 VS87;E0147 VS88;E0148 VS89;E0149 VS90;E014A VS91;E014B VS92;E014C VS93;E014D VS94;E014E VS95;E014F VS96;E0150 VS97;E0151 VS98;E0152 VS99;E0153 VS100;E0154 VS101;E0155 VS102;E0156 VS103;E0157 VS104;E0158 VS105;E0159 VS106;E015A VS107;E015B VS108;E015C VS109;E015D VS110;E015E VS111",
  "E015F VS112;E0160 VS113;E0161 VS114;E0162 VS115;E0163 VS116;E0164 VS117;E0165 VS118;E0166 VS119;E0167 VS120;E0168 VS121;E0169 VS122;E016A VS123;E016B VS124;E016C VS125;E016D VS126;E016E VS127;E016F VS128;E0170 VS129;E0171 VS130;E0172 VS131;E0173 VS132;E0174 VS133;E0175 VS134;E0176 VS135;E0177 VS136",
  "E0178 VS137;E0179 VS138;E017A VS139;E017B VS140;E017C VS141;E017D VS142;E017E VS143;E017F VS144;E0180 VS145;E0181 VS146;E0182 VS147;E0183 VS148;E0184 VS149;E0185 VS150;E0186 VS151;E0187 VS152;E0188 VS153;E0189 VS154;E018A VS155;E018B VS156;E018C VS157;E018D VS158;E018E VS159;E018F VS160;E0190 VS161",
  "E0191 VS162;E0192 VS163;E0193 VS164;E0194 VS165;E0195 VS166;E0196 VS167;E0197 VS168;E0198 VS169;E0199 VS170;E019A VS171;E019B VS172;E019C VS173;E019D VS174;E019E VS175;E019F VS176;E01A0 VS177;E01A1 VS178;E01A2 VS179;E01A3 VS180;E01A4 VS181;E01A5 VS182;E01A6 VS183;E01A7 VS184;E01A8 VS185;E01A9 VS186",
  "E01AA VS187;E01AB VS188;E01AC VS189;E01AD VS190;E01AE VS191;E01AF VS192;E01B0 VS193;E01B1 VS194;E01B2 VS195;E01B3 VS196;E01B4 VS197;E01B5 VS198;E01B6 VS199;E01B7 VS200;E01B8 VS201;E01B9 VS202;E01BA VS203;E01BB VS204;E01BC VS205;E01BD VS206;E01BE VS207;E01BF VS208;E01C0 VS209;E01C1 VS210;E01C2 VS211",
  "E01C3 VS212;E01C4 VS213;E01C5 VS214;E01C6 VS215;E01C7 VS216;E01C8 VS217;E01C9 VS218;E01CA VS219;E01CB VS220;E01CC VS221;E01CD VS222;E01CE VS223;E01CF VS224;E01D0 VS225;E01D1 VS226;E01D2 VS227;E01D3 VS228;E01D4 VS229;E01D5 VS230;E01D6 VS231;E01D7 VS232;E01D8 VS233;E01D9 VS234;E01DA VS235;E01DB VS236",
  "E01DC VS237;E01DD VS238;E01DE VS239;E01DF VS240;E01E0 VS241;E01E1 VS242;E01E2 VS243;E01E3 VS244;E01E4 VS245;E01E5 VS246;E01E6 VS247;E01E7 VS248;E01E8 VS249;E01E9 VS250;E01EA VS251;E01EB VS252;E01EC VS253;E01ED VS254;E01EE VS255;E01EF VS256"]

end MaskedLog.Unicode
