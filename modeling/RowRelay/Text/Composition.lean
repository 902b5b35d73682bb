import RowRelay.Text.CombiningClass

/-!
# Letters with marks

A letter with a mark is one character or two. `compose` writes a text in the shorter way: it takes
letters and marks apart, puts the marks of each letter in the order of their classes, and joins what
can be joined. Two texts that look the same are then the same. The table is made for characters
that names of hosts can have.
-/

set_option autoImplicit false

namespace RowRelay.Text

/-! ## One letter and one mark -/

/-- Each mark with the letters it joins, and behind each letter what the two make. -/
def compositions : List (Nat × String) := [
    (0x0300, "aàeèiìoòuùüǜnǹеѐиѝēḕōṑwẁâầăằêềôồơờưừyỳἀἂἁἃἐἒἑἓἠἢἡἣἰἲἱἳὀὂὁὃὐὒὑὓὠὢὡὣαὰεὲηὴιὶοὸυὺωὼϊῒ"),
    (0x0300, "ϋῢ"),
    (0x0301, "aáeéiíoóuúyýcćlĺnńrŕsśzźüǘgǵåǻæǽøǿϊΐαάεέηήιίϋΰοόυύωώгѓкќçḉēḗïḯkḱmḿõṍōṓpṕũṹwẃâấăắêế"),
    (0x0301, "ôốơớưứἀἄἁἅἐἔἑἕἠἤἡἥἰἴἱἵὀὄὁὅὐὔὑὕὠὤὡὥ"),
    (0x0302, "aâeêiîoôuûcĉgĝhĥjĵsŝwŵyŷzẑạậẹệọộ"),
    (0x0303, "aãnñoõiĩuũvṽâẫăẵeẽêễôỗơỡưữyỹ"),
    (0x0304, "aāeēiīoōuūüǖäǟȧǡæǣǫǭöȫõȭȯȱyȳиӣуӯgḡḷḹṛṝαᾱιῑυῡ"),
    (0x0306, "aăeĕgğiĭoŏuŭийуўжӂаӑеӗȩḝạặαᾰιῐυῠ"),
    (0x0307, "cċeėgġzżaȧoȯbḃdḋfḟhḣmṁnṅpṗrṙsṡśṥšṧṣṩtṫwẇxẋyẏ𐗒𐗉𐗚𐗤"),
    (0x0308, "aäeëiïoöuüyÿιϊυϋеёіїаӓәӛжӝзӟиӥоӧөӫэӭуӱчӵыӹhḧõṏūṻwẅxẍtẗ"),
    (0x0309, "aảâẩăẳeẻêểiỉoỏôổơởuủưửyỷ"),
    (0x030A, "aåuůwẘyẙ"),
    (0x030B, "oőuűуӳ"),
    (0x030C, "cčdďeělľnňrřsštťzžaǎiǐoǒuǔüǚgǧkǩʒǯjǰhȟ"),
    (0x030F, "aȁeȅiȉoȍrȑuȕѵѷ"),
    (0x0311, "aȃeȇiȋoȏrȓuȗ"),
    (0x0313, "αἀεἐηἠιἰοὀυὐωὠρῤ"),
    (0x0314, "αἁεἑηἡιἱοὁυὑωὡρῥ"),
    (0x031B, "oơuư"),
    (0x0323, "bḅdḍhḥkḳlḷmṃnṇrṛsṣtṭvṿwẉzẓaạeẹiịoọơợuụưựyỵ"),
    (0x0324, "uṳ"),
    (0x0325, "aḁ"),
    (0x0326, "sștț"),
    (0x0327, "cçgģkķlļnņrŗsştţeȩdḑhḩ"),
    (0x0328, "aąeęiįuųoǫ"),
    (0x032D, "dḓeḙlḽnṋtṱuṷ"),
    (0x032E, "hḫ"),
    (0x0330, "eḛiḭuṵ"),
    (0x0331, "bḇdḏkḵlḻnṉrṟtṯzẕhẖ"),
    (0x0338, "←↚→↛↔↮⇐⇍⇔⇎⇒⇏∃∄∈∉∋∌∣∤∥∦∼≁≃≄≅≇≈≉=≠≡≢≍≭<≮>≯≤≰≥≱≲≴≳≵≶≸≷≹≺⊀≻⊁⊂⊄⊃⊅⊆⊈⊇⊉⊢⊬⊨⊭⊩⊮⊫⊯≼⋠≽⋡⊑⋢⊒⋣⊲⋪"),
    (0x0338, "⊳⋫⊴⋬⊵⋭"),
    (0x0342, "ἀἆἁἇἠἦἡἧἰἶἱἷὐὖὑὗὠὦὡὧαᾶηῆιῖϊῗυῦϋῧωῶ"),
    (0x0653, "اآ"),
    (0x0654, "اأوؤيئەۀہۂےۓ"),
    (0x0655, "اإ"),
    (0x093C, "नऩरऱळऴ"),
    (0x09BE, "েো"),
    (0x09D7, "েৌ"),
    (0x0B3E, "େୋ"),
    (0x0B56, "େୈ"),
    (0x0B57, "େୌ"),
    (0x0BBE, "ெொேோ"),
    (0x0BD7, "ஒஔெௌ"),
    (0x0C56, "ెై"),
    (0x0CC2, "ೆೊ"),
    (0x0CD5, "ಿೀೆೇೊೋ"),
    (0x0CD6, "ೆೈ"),
    (0x0D3E, "െൊേോ"),
    (0x0D57, "െൌ"),
    (0x0DCA, "ෙේොෝ"),
    (0x0DCF, "ෙො"),
    (0x0DDF, "ෙෞ"),
    (0x102E, "ဥဦ"),
    (0x1B35, "ᬅᬆᬇᬈᬉᬊᬋᬌᬍᬎᬑᬒᬺᬻᬼᬽᬾᭀᬿᭁᭂᭃ"),
    (0x3099, "かがきぎくぐけげこごさざしじすずせぜそぞただちぢつづてでとどはばひびふぶへべほぼうゔゝゞカガキギクグケゲコゴサザシジスズセゼソゾタダチヂツヅテデトドハバヒビフブヘベ"),
    (0x3099, "ホボウヴワヷヰヸヱヹヲヺヽヾ"),
    (0x309A, "はぱひぴふぷへぺほぽハパヒピフプヘペホポ"),
    (0x110BA, "𑂙𑂚𑂛𑂜𑂥𑂫"),
    (0x11127, "𑄱𑄮𑄲𑄯"),
    (0x1133E, "𑍇𑍋"),
    (0x11357, "𑍇𑍌"),
    (0x113B8, "𑏅𑎸"),
    (0x113BB, "𑎄𑎅"),
    (0x113C2, "𑎋𑎎𑏅𑏂"),
    (0x113C9, "𑎂𑎃𑎐𑎑𑏅𑏉"),
    (0x114B0, "𑒹𑒼"),
    (0x114BA, "𑒹𑒻"),
    (0x114BD, "𑒹𑒾"),
    (0x115AF, "𑖸𑖺𑖹𑖻"),
    (0x11930, "𑤵𑤸"),
    (0x1611E, "𖄡𖄞"),
    (0x1611F, "𖄦𖄩𖄤𖄡𖄦𖄢𖄧"),
    (0x16120, "𖄨𖄡𖄨"),
    (0x16129, "𖄡𖄩"),
    (0x16D67, "𖵨𖵧𖵣𖵩𖵩𖵪")]

/-- Letters and what they are made into, in turn. -/
def pairsOf : List Char → List (Char × Char)
  | letter :: made :: rest => (letter, made) :: pairsOf rest
  | _ => []

/-- Joins the letters of a syllable of Hangul: 19 that begin one, 21 that follow, and 27 that end
it. All syllables stand in one block, in the order of their letters. -/
def joinHangul? (a b : Char) : Option Char :=
  let (m, n) := (a.toNat, b.toNat)
  if 0x1100 ≤ m ∧ m < 0x1113 ∧ 0x1161 ≤ n ∧ n < 0x1176 then
    some (Char.ofNat (0xAC00 + ((m - 0x1100) * 21 + (n - 0x1161)) * 28))
  else if 0xAC00 ≤ m ∧ m < 0xD7A4 ∧ (m - 0xAC00) % 28 = 0 ∧ 0x11A7 < n ∧ n < 0x11C3 then
    some (Char.ofNat (m + (n - 0x11A7)))
  else none

/-- Joins a letter and a mark, or two letters. -/
def join? (a b : Char) : Option Char :=
  (joinHangul? a b).or <| (compositions.filter (·.1 == b.toNat)).findSome? fun row =>
    (pairsOf row.2.toList).lookup a

/-- Takes the last letter off a syllable of Hangul. -/
def splitHangul? (c : Char) : Option (Char × Char) :=
  let n := c.toNat - 0xAC00
  if 0xAC00 ≤ c.toNat ∧ c.toNat < 0xD7A4 then
    if n % 28 = 0 then
      some (Char.ofNat (0x1100 + n / 28 / 21), Char.ofNat (0x1161 + n / 28 % 21))
    else some (Char.ofNat (c.toNat - n % 28), Char.ofNat (0x11A7 + n % 28))
  else none

/-- Takes the last mark or letter off. -/
def split? (c : Char) : Option (Char × Char) :=
  (splitHangul? c).or <| compositions.findSome? fun row =>
    ((pairsOf row.2.toList).find? (·.2 == c)).map fun pair => (pair.1, Char.ofNat row.1)

/-! ## Texts -/

/-- Takes a character apart, at most so many times. -/
def takeApart : Nat → Char → List Char
  | 0, c => [c]
  | depth + 1, c =>
    match split? c with
    | some (letter, mark) => takeApart depth letter ++ [mark]
    | none => [c]

/-- Puts a mark behind those of lower classes. -/
def place (c : Char) : List Char → List Char
  | [] => [c]
  | d :: ds =>
    if 0 < combiningClass d ∧ combiningClass d < combiningClass c then d :: place c ds
    else c :: d :: ds

/-- Joins a letter with the marks behind it. A mark is out of reach when one of its class or above,
that could not be joined, stands before it. `marks` are those that could not be joined, last first,
`cls` is the class of the last. -/
def joinOn (letter : Char) (marks : List Char) (cls : Nat) : List Char → List Char
  | [] => letter :: marks.reverse
  | c :: cs =>
    let k := combiningClass c
    match if marks.isEmpty || cls < k then join? letter c else none with
    | some made => joinOn made marks cls cs
    | none =>
      if k = 0 then letter :: marks.reverse ++ joinOn c [] 0 cs
      else joinOn letter (c :: marks) k cs

/-- The text with letters and marks joined. No character of a host's name has more than
two marks. -/
def compose (cs : List Char) : List Char :=
  match (cs.flatMap (takeApart 2)).foldr place [] with
  | [] => []
  | c :: cs => joinOn c [] 0 cs

end RowRelay.Text
