/-
Characters that are one in writing and two in meaning: a letter with a
mark, or two signs that make a third. Hangul syllables are composed by
counting, all others by a table. Every composed character has exactly
one pair of parts.
-/
namespace ProviderLink.Text

/-- For a mark the letters it joins, each followed by what the two make. -/
def letterCompositions : List (Nat × String) :=
  [(0x300, "AÀEÈIÌNǸOÒUÙWẀYỲaàeèiìnǹoòuùwẁyỳ¨῭ÂẦÊỀÔỒÜǛâầêềôồüǜĂẰăằĒḔēḕŌṐōṑƠỜơờƯỪưừΑᾺ"),
   (0x300, "ΕῈΗῊΙῚΟῸΥῪΩῺαὰεὲηὴιὶοὸυὺωὼϊῒϋῢЕЀИЍеѐиѝἀἂἁἃἈἊἉἋἐἒἑἓἘἚἙἛἠἢἡἣἨἪἩἫἰἲἱἳἸἺἹἻὀὂ"),
   (0x300, "ὁὃὈὊὉὋὐὒὑὓὙὛὠὢὡὣὨὪὩὫ᾿῍῾῝"),
   (0x301, "AÁCĆEÉGǴIÍKḰLĹMḾNŃOÓPṔRŔSŚUÚWẂYÝZŹaácćeégǵiíkḱlĺmḿnńoópṕrŕsśuúwẃyýzź¨΅ÂẤ"),
   (0x301, "ÅǺÆǼÇḈÊẾÏḮÔỐÕṌØǾÜǗâấåǻæǽçḉêếïḯôốõṍøǿüǘĂẮăắĒḖēḗŌṒōṓŨṸũṹƠỚơớƯỨưứΑΆΕΈΗΉΙΊΟΌ"),
   (0x301, "ΥΎΩΏαάεέηήιίοόυύωώϊΐϋΰϒϓГЃКЌгѓкќἀἄἁἅἈἌἉἍἐἔἑἕἘἜἙἝἠἤἡἥἨἬἩἭἰἴἱἵἸἼἹἽὀὄὁὅὈὌὉὍ"),
   (0x301, "ὐὔὑὕὙὝὠὤὡὥὨὬὩὭ᾿῎῾῞"),
   (0x302, "AÂCĈEÊGĜHĤIÎJĴOÔSŜUÛWŴYŶZẐaâcĉeêgĝhĥiîjĵoôsŝuûwŵyŷzẑẠẬạậẸỆẹệỌỘọộ"),
   (0x303, "AÃEẼIĨNÑOÕUŨVṼYỸaãeẽiĩnñoõuũvṽyỹÂẪÊỄÔỖâẫêễôỗĂẴăẵƠỠơỡƯỮưữ"),
   (0x304, "AĀEĒGḠIĪOŌUŪYȲaāeēgḡiīoōuūyȳÄǞÆǢÕȬÖȪÜǕäǟæǣõȭöȫüǖǪǬǫǭȦǠȧǡȮȰȯȱΑᾹΙῙΥῩαᾱιῑυῡ"),
   (0x304, "ИӢУӮиӣуӯḶḸḷḹṚṜṛṝ"),
   (0x306, "AĂEĔGĞIĬOŎUŬaăeĕgğiĭoŏuŭȨḜȩḝΑᾸΙῘΥῨαᾰιῐυῠАӐЕӖЖӁИЙУЎаӑеӗжӂийуўẠẶạặ"),
   (0x307, "AȦBḂCĊDḊEĖFḞGĠHḢIİMṀNṄOȮPṖRṘSṠTṪWẆXẊYẎZŻaȧbḃcċdḋeėfḟgġhḣmṁnṅoȯpṗrṙsṡtṫwẇ"),
   (0x307, "xẋyẏzżŚṤśṥŠṦšṧſẛṢṨṣṩ𐗒𐗉𐗚𐗤"),
   (0x308, "AÄEËHḦIÏOÖUÜWẄXẌYŸaäeëhḧiïoötẗuüwẅxẍyÿÕṎõṏŪṺūṻΙΪΥΫιϊυϋϒϔІЇАӒЕЁЖӜЗӞИӤОӦУӰ"),
   (0x308, "ЧӴЫӸЭӬаӓеёжӝзӟиӥоӧуӱчӵыӹэӭіїӘӚәӛӨӪөӫ"),
   (0x309, "AẢEẺIỈOỎUỦYỶaảeẻiỉoỏuủyỷÂẨÊỂÔỔâẩêểôổĂẲăẳƠỞơởƯỬưử"),
   (0x30a, "AÅUŮaåuůwẘyẙ"),
   (0x30b, "OŐUŰoőuűУӲуӳ"),
   (0x30c, "AǍCČDĎEĚGǦHȞIǏKǨLĽNŇOǑRŘSŠTŤUǓZŽaǎcčdďeěgǧhȟiǐjǰkǩlľnňoǒrřsštťuǔzžÜǙüǚƷǮ"),
   (0x30c, "ʒǯ"),
   (0x30f, "AȀEȄIȈOȌRȐUȔaȁeȅiȉoȍrȑuȕѴѶѵѷ"),
   (0x311, "AȂEȆIȊOȎRȒUȖaȃeȇiȋoȏrȓuȗ"),
   (0x313, "ΑἈΕἘΗἨΙἸΟὈΩὨαἀεἐηἠιἰοὀρῤυὐωὠ"),
   (0x314, "ΑἉΕἙΗἩΙἹΟὉΡῬΥὙΩὩαἁεἑηἡιἱοὁρῥυὑωὡ"),
   (0x31b, "OƠUƯoơuư"),
   (0x323, "AẠBḄDḌEẸHḤIỊKḲLḶMṂNṆOỌRṚSṢTṬUỤVṾWẈYỴZẒaạbḅdḍeẹhḥiịkḳlḷmṃnṇoọrṛsṣtṭuụvṿwẉ"),
   (0x323, "yỵzẓƠỢơợƯỰưự"),
   (0x324, "UṲuṳ"),
   (0x325, "AḀaḁ"),
   (0x326, "SȘTȚsștț"),
   (0x327, "CÇDḐEȨGĢHḨKĶLĻNŅRŖSŞTŢcçdḑeȩgģhḩkķlļnņrŗsştţ"),
   (0x328, "AĄEĘIĮOǪUŲaąeęiįoǫuų"),
   (0x32d, "DḒEḘLḼNṊTṰUṶdḓeḙlḽnṋtṱuṷ"),
   (0x32e, "HḪhḫ"),
   (0x330, "EḚIḬUṴeḛiḭuṵ"),
   (0x331, "BḆDḎKḴLḺNṈRṞTṮZẔbḇdḏhẖkḵlḻnṉrṟtṯzẕ"),
   (0x338, "<≮=≠>≯←↚→↛↔↮⇐⇍⇒⇏⇔⇎∃∄∈∉∋∌∣∤∥∦∼≁≃≄≅≇≈≉≍≭≡≢≤≰≥≱≲≴≳≵≶≸≷≹≺⊀≻⊁≼⋠≽⋡⊂⊄⊃⊅⊆⊈⊇⊉⊑⋢⊒⋣"),
   (0x338, "⊢⊬⊨⊭⊩⊮⊫⊯⊲⋪⊳⋫⊴⋬⊵⋭"),
   (0x342, "¨῁αᾶηῆιῖυῦωῶϊῗϋῧἀἆἁἇἈἎἉἏἠἦἡἧἨἮἩἯἰἶἱἷἸἾἹἿὐὖὑὗὙὟὠὦὡὧὨὮὩὯ᾿῏῾῟"),
   (0x345, "ΑᾼΗῌΩῼάᾴήῄαᾳηῃωῳώῴἀᾀἁᾁἂᾂἃᾃἄᾄἅᾅἆᾆἇᾇἈᾈἉᾉἊᾊἋᾋἌᾌἍᾍἎᾎἏᾏἠᾐἡᾑἢᾒἣᾓἤᾔἥᾕἦᾖἧᾗἨᾘἩᾙἪᾚ"),
   (0x345, "ἫᾛἬᾜἭᾝἮᾞἯᾟὠᾠὡᾡὢᾢὣᾣὤᾤὥᾥὦᾦὧᾧὨᾨὩᾩὪᾪὫᾫὬᾬὭᾭὮᾮὯᾯὰᾲὴῂὼῲᾶᾷῆῇῶῷ"),
   (0x3099, "うゔかがきぎくぐけげこごさざしじすずせぜそぞただちぢつづてでとどはばひびふぶへべほぼゝゞウヴカガキギクグケゲコゴサザシジスズセゼソゾタダチヂツヅ"),
   (0x3099, "テデトドハバヒビフブヘベホボワヷヰヸヱヹヲヺヽヾ"),
   (0x309a, "はぱひぴふぷへぺほぽハパヒピフプヘペホポ")]

/-- Further compositions: two characters and what they make. -/
def signCompositions : List (Nat × Nat × Nat) :=
  [(0x627, 0x653, 0x622), (0x627, 0x654, 0x623), (0x648, 0x654, 0x624), (0x64a, 0x654, 0x626),
   (0x6c1, 0x654, 0x6c2), (0x6d2, 0x654, 0x6d3), (0x6d5, 0x654, 0x6c0), (0x627, 0x655, 0x625),
   (0x928, 0x93c, 0x929), (0x930, 0x93c, 0x931), (0x933, 0x93c, 0x934), (0x9c7, 0x9be, 0x9cb),
   (0x9c7, 0x9d7, 0x9cc), (0xb47, 0xb3e, 0xb4b), (0xb47, 0xb56, 0xb48), (0xb47, 0xb57, 0xb4c),
   (0xbc6, 0xbbe, 0xbca), (0xbc7, 0xbbe, 0xbcb), (0xb92, 0xbd7, 0xb94), (0xbc6, 0xbd7, 0xbcc),
   (0xc46, 0xc56, 0xc48), (0xcc6, 0xcc2, 0xcca), (0xcbf, 0xcd5, 0xcc0), (0xcc6, 0xcd5, 0xcc7),
   (0xcca, 0xcd5, 0xccb), (0xcc6, 0xcd6, 0xcc8), (0xd46, 0xd3e, 0xd4a), (0xd47, 0xd3e, 0xd4b),
   (0xd46, 0xd57, 0xd4c), (0xdd9, 0xdca, 0xdda), (0xddc, 0xdca, 0xddd), (0xdd9, 0xdcf, 0xddc),
   (0xdd9, 0xddf, 0xdde), (0x1025, 0x102e, 0x1026), (0x1b05, 0x1b35, 0x1b06),
   (0x1b07, 0x1b35, 0x1b08), (0x1b09, 0x1b35, 0x1b0a), (0x1b0b, 0x1b35, 0x1b0c),
   (0x1b0d, 0x1b35, 0x1b0e), (0x1b11, 0x1b35, 0x1b12), (0x1b3a, 0x1b35, 0x1b3b),
   (0x1b3c, 0x1b35, 0x1b3d), (0x1b3e, 0x1b35, 0x1b40), (0x1b3f, 0x1b35, 0x1b41),
   (0x1b42, 0x1b35, 0x1b43), (0x11099, 0x110ba, 0x1109a), (0x1109b, 0x110ba, 0x1109c),
   (0x110a5, 0x110ba, 0x110ab), (0x11131, 0x11127, 0x1112e), (0x11132, 0x11127, 0x1112f),
   (0x11347, 0x1133e, 0x1134b), (0x11347, 0x11357, 0x1134c), (0x113c2, 0x113b8, 0x113c7),
   (0x11384, 0x113bb, 0x11385), (0x1138b, 0x113c2, 0x1138e), (0x113c2, 0x113c2, 0x113c5),
   (0x11382, 0x113c9, 0x11383), (0x11390, 0x113c9, 0x11391), (0x113c2, 0x113c9, 0x113c8),
   (0x114b9, 0x114b0, 0x114bc), (0x114b9, 0x114ba, 0x114bb), (0x114b9, 0x114bd, 0x114be),
   (0x115b8, 0x115af, 0x115ba), (0x115b9, 0x115af, 0x115bb), (0x11935, 0x11930, 0x11938),
   (0x1611e, 0x1611e, 0x16121), (0x1611e, 0x1611f, 0x16123), (0x16121, 0x1611f, 0x16126),
   (0x16122, 0x1611f, 0x16127), (0x16129, 0x1611f, 0x16124), (0x1611e, 0x16120, 0x16125),
   (0x16121, 0x16120, 0x16128), (0x1611e, 0x16129, 0x16122), (0x16d63, 0x16d67, 0x16d69),
   (0x16d67, 0x16d67, 0x16d68), (0x16d69, 0x16d67, 0x16d6a)]

-- ============================================================ the table

/-- What follows a character in pairs. -/
def second? (c : Char) : List Char → Option Char
  | a :: b :: pairs => if a = c then some b else second? c pairs
  | _ => none

/-- What stands before a character in pairs. -/
def first? (c : Char) : List Char → Option Char
  | a :: b :: pairs => if b = c then some a else first? c pairs
  | _ => none

/-- What two characters make by the table. -/
def tableComposed? (a b : Char) : Option Char :=
  (letterCompositions.findSome? fun (mark, pairs) =>
    if mark = b.toNat then second? a pairs.toList else none).or
  (signCompositions.findSome? fun (first, second, composed) =>
    if first = a.toNat ∧ second = b.toNat then some (Char.ofNat composed) else none)

def tableParts? (c : Char) : Option (Char × Char) :=
  (letterCompositions.findSome? fun (mark, pairs) =>
    (first? c pairs.toList).map fun a => (a, Char.ofNat mark)).or
  (signCompositions.findSome? fun (first, second, composed) =>
    if composed = c.toNat then some (Char.ofNat first, Char.ofNat second) else none)

-- =============================================================== Hangul

/-- The first leading consonant, of 19. -/
def leadBase : Nat := 0x1100

/-- The first vowel, of 21. -/
def vowelBase : Nat := 0x1161

/-- One before the first trailing consonant, of 27. -/
def tailBase : Nat := 0x11a7

/-- The first syllable; there are 28 for each pair of a leading consonant and a vowel. -/
def syllableBase : Nat := 0xac00

/-- How many syllables there are. -/
def syllableCount : Nat := 19 * 21 * 28

/-- The place of a syllable among the syllables. -/
def syllable? (c : Char) : Option Nat :=
  if syllableBase ≤ c.toNat ∧ c.toNat < syllableBase + syllableCount then
    some (c.toNat - syllableBase)
  else none

/-- What two parts of a syllable make. -/
def syllableComposed? (a b : Char) : Option Char :=
  if leadBase ≤ a.toNat ∧ a.toNat < leadBase + 19 ∧ vowelBase ≤ b.toNat ∧
      b.toNat < vowelBase + 21 then
    some (Char.ofNat
      (syllableBase + ((a.toNat - leadBase) * 21 + (b.toNat - vowelBase)) * 28))
  else if tailBase < b.toNat ∧ b.toNat < tailBase + 28 ∧
      (syllable? a).any (fun n => n % 28 == 0) then
    some (Char.ofNat (a.toNat + (b.toNat - tailBase)))
  else none

/-- The parts of a syllable: it without its tail and the tail, or its first two parts. -/
def syllableParts? (c : Char) : Option (Char × Char) :=
  (syllable? c).map fun n =>
    if n % 28 = 0 then
      (Char.ofNat (leadBase + n / 588), Char.ofNat (vowelBase + n / 28 % 21))
    else (Char.ofNat (c.toNat - n % 28), Char.ofNat (tailBase + n % 28))

-- =================================================================== all

/-- The character that two make. -/
def composed? (a b : Char) : Option Char :=
  if b.toNat < 0x300 then none else (syllableComposed? a b).or (tableComposed? a b)

/-- The two characters that make one. -/
def parts? (c : Char) : Option (Char × Char) :=
  if c.toNat < 0xc0 then none else (syllableParts? c).or (tableParts? c)

end ProviderLink.Text
