namespace TierRelay.Url.Domain

/-- For each mark, the letters that take it and what the two make: of the Latin, Greek, Cyrillic and
Arabic scripts and the Japanese syllabaries. -/
def markedLetters : List (Char × String × String) :=
  [('\u0300', "aeiouünеиēōwâăêôơưyἀἁἐἑἠἡἰἱὀὁὐὑὠὡαεηιουωϊϋ",
      "àèìòùǜǹѐѝḕṑẁầằềồờừỳἂἃἒἓἢἣἲἳὂὃὒὓὢὣὰὲὴὶὸὺὼῒῢ"),
    ('\u0301', "aeiouyclnrszügåæøϊαεηιϋουωгкçēïkmõōpũwâăêôơưἀἁἐἑἠἡἰἱὀὁὐὑὠὡ",
      "áéíóúýćĺńŕśźǘǵǻǽǿΐάέήίΰόύώѓќḉḗḯḱḿṍṓṕṹẃấắếốớứἄἅἔἕἤἥἴἵὄὅὔὕὤὥ"),
    ('\u0302', "aeioucghjswyzạẹọ", "âêîôûĉĝĥĵŝŵŷẑậệộ"),
    ('\u0303', "anoiuvâăeêôơưy", "ãñõĩũṽẫẵẽễỗỡữỹ"),
    ('\u0304', "aeiouüäȧæǫöõȯyиуgḷṛαιυ", "āēīōūǖǟǡǣǭȫȭȱȳӣӯḡḹṝᾱῑῡ"),
    ('\u0306', "aegiouиужаеȩạαιυ", "ăĕğĭŏŭйўӂӑӗḝặᾰῐῠ"),
    ('\u0307', "cegzaobdfhmnprsśšṣtwxy", "ċėġżȧȯḃḋḟḣṁṅṗṙṡṥṧṩṫẇẋẏ"),
    ('\u0308', "aeiouyιυеіаәжзиоөэучыhõūwxt", "äëïöüÿϊϋёїӓӛӝӟӥӧӫӭӱӵӹḧṏṻẅẍẗ"),
    ('\u0309', "aâăeêioôơuưy", "ảẩẳẻểỉỏổởủửỷ"),
    ('\u030a', "auwy", "åůẘẙ"),
    ('\u030b', "ouу", "őűӳ"),
    ('\u030c', "cdelnrstzaiouügkʒjh", "čďěľňřšťžǎǐǒǔǚǧǩǯǰȟ"),
    ('\u030f', "aeioruѵ", "ȁȅȉȍȑȕѷ"),
    ('\u0311', "aeioru", "ȃȇȋȏȓȗ"),
    ('\u0313', "αεηιουωρ", "ἀἐἠἰὀὐὠῤ"),
    ('\u0314', "αεηιουωρ", "ἁἑἡἱὁὑὡῥ"),
    ('\u031b', "ou", "ơư"),
    ('\u0323', "bdhklmnrstvwzaeioơuưy", "ḅḍḥḳḷṃṇṛṣṭṿẉẓạẹịọợụựỵ"),
    ('\u0324', "u", "ṳ"),
    ('\u0325', "a", "ḁ"),
    ('\u0326', "st", "șț"),
    ('\u0327', "cgklnrstedh", "çģķļņŗşţȩḑḩ"),
    ('\u0328', "aeiuo", "ąęįųǫ"),
    ('\u032d', "delntu", "ḓḙḽṋṱṷ"),
    ('\u032e', "h", "ḫ"),
    ('\u0330', "eiu", "ḛḭṵ"),
    ('\u0331', "bdklnrtzh", "ḇḏḵḻṉṟṯẕẖ"),
    ('\u0342', "ἀἁἠἡἰἱὐὑὠὡαηιϊυϋω", "ἆἇἦἧἶἷὖὗὦὧᾶῆῖῗῦῧῶ"),
    ('\u0653', "ا", "آ"),
    ('\u0654', "اويەہے", "أؤئۀۂۓ"),
    ('\u0655', "ا", "إ"),
    ('\u3099', "かきくけこさしすせそたちつてとはひふへほうゝカキクケコサシスセソタチツテトハヒフヘホウワヰヱヲヽ",
      "がぎぐげござじずぜぞだぢづでどばびぶべぼゔゞガギグゲゴザジズゼゾダヂヅデドバビブベボヴヷヸヹヺヾ"),
    ('\u309a', "はひふへほハヒフヘホ", "ぱぴぷぺぽパピプペポ")]

def join? (letter mark : Char) : Option Char := do
  let (letters, joined) ← markedLetters.lookup mark
  (letters.toList.zip joined.toList).lookup letter

def addJoined (before : List Char) (c : Char) : List Char :=
  match before with
  | [] => [c]
  | last :: others =>
    match join? last c with
    | some joined => joined :: others
    | none => c :: before

def composed (s : List Char) : List Char :=
  (s.foldl addJoined []).reverse

def markRuns : List (Nat × Nat) :=
  [(0x300, 0x36F), (0x483, 0x489), (0x64B, 0x65F), (0x1AB0, 0x1ACE), (0x1DC0, 0x1DFF),
    (0x20D0, 0x20F0), (0x3099, 0x309A), (0xFE20, 0xFE2F)]

end TierRelay.Url.Domain
