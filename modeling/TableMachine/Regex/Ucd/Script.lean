import TableMachine.Unicode.Table

/-!
# Scripts of patterns

The script of every code point as Unicode 16.0 gives it, kept by runs as indices into
`scriptNames`; each script is listed with its loose aliases (long name and four-letter code)
and with whether the script data lists it. `Unknown`, what every code point left out has, is
not listed, nor is `Katakana_Or_Hiragana`, a value that no code point has.
The script extensions of a code point are the scripts it is used with: `scriptExtensionMap`
gives, by runs, an index into `scriptExtensionSets`.
-/

namespace TableMachine.Regex.Ucd

open TableMachine.Unicode

/-- Every script: its name, its aliases in loose form, and whether the script data lists it. -/
def scriptNames : Array (String × List String × Bool) := #[
  ("Adlam", ["adlam", "adlm"], true),
  ("Ahom", ["ahom"], true),
  ("Anatolian_Hieroglyphs", ["anatolianhieroglyphs", "hluw"], true),
  ("Arabic", ["arabic", "arab"], true),
  ("Armenian", ["armenian", "armn"], true),
  ("Avestan", ["avestan", "avst"], true),
  ("Balinese", ["balinese", "bali"], true),
  ("Bamum", ["bamum", "bamu"], true),
  ("Bassa_Vah", ["bassavah", "bass"], true),
  ("Batak", ["batak", "batk"], true),
  ("Bengali", ["bengali", "beng"], true),
  ("Bhaiksuki", ["bhaiksuki", "bhks"], true),
  ("Bopomofo", ["bopomofo", "bopo"], true),
  ("Brahmi", ["brahmi", "brah"], true),
  ("Braille", ["braille", "brai"], true),
  ("Buginese", ["buginese", "bugi"], true),
  ("Buhid", ["buhid", "buhd"], true),
  ("Canadian_Aboriginal", ["canadianaboriginal", "cans"], true),
  ("Carian", ["carian", "cari"], true),
  ("Caucasian_Albanian", ["caucasianalbanian", "aghb"], true),
  ("Chakma", ["chakma", "cakm"], true),
  ("Cham", ["cham"], true),
  ("Cherokee", ["cherokee", "cher"], true),
  ("Chorasmian", ["chorasmian", "chrs"], true),
  ("Common", ["common", "zyyy"], true),
  ("Coptic", ["coptic", "copt", "qaac"], true),
  ("Cuneiform", ["cuneiform", "xsux"], true),
  ("Cypriot", ["cypriot", "cprt"], true),
  ("Cypro_Minoan", ["cyprominoan", "cpmn"], true),
  ("Cyrillic", ["cyrillic", "cyrl"], true),
  ("Deseret", ["deseret", "dsrt"], true),
  ("Devanagari", ["devanagari", "deva"], true),
  ("Dives_Akuru", ["divesakuru", "diak"], true),
  ("Dogra", ["dogra", "dogr"], true),
  ("Duployan", ["duployan", "dupl"], true),
  ("Egyptian_Hieroglyphs", ["egyptianhieroglyphs", "egyp"], true),
  ("Elbasan", ["elbasan", "elba"], true),
  ("Elymaic", ["elymaic", "elym"], true),
  ("Ethiopic", ["ethiopic", "ethi"], true),
  ("Garay", ["garay", "gara"], true),
  ("Georgian", ["georgian", "geor"], true),
  ("Glagolitic", ["glagolitic", "glag"], true),
  ("Gothic", ["gothic", "goth"], true),
  ("Grantha", ["grantha", "gran"], true),
  ("Greek", ["greek", "grek"], true),
  ("Gujarati", ["gujarati", "gujr"], true),
  ("Gunjala_Gondi", ["gunjalagondi", "gong"], true),
  ("Gurmukhi", ["gurmukhi", "guru"], true),
  ("Gurung_Khema", ["gurungkhema", "gukh"], true),
  ("Han", ["han", "hani"], true),
  ("Hangul", ["hangul", "hang"], true),
  ("Hanifi_Rohingya", ["hanifirohingya", "rohg"], true),
  ("Hanunoo", ["hanunoo", "hano"], true),
  ("Hatran", ["hatran", "hatr"], true),
  ("Hebrew", ["hebrew", "hebr"], true),
  ("Hiragana", ["hiragana", "hira"], true),
  ("Imperial_Aramaic", ["imperialaramaic", "armi"], true),
  ("Inherited", ["inherited", "qaai", "zinh"], true),
  ("Inscriptional_Pahlavi", ["inscriptionalpahlavi", "phli"], true),
  ("Inscriptional_Parthian", ["inscriptionalparthian", "prti"], true),
  ("Javanese", ["javanese", "java"], true),
  ("Kaithi", ["kaithi", "kthi"], true),
  ("Kannada", ["kannada", "knda"], true),
  ("Katakana", ["katakana", "kana"], true),
  ("Katakana_Or_Hiragana", ["katakanaorhiragana", "hrkt"], false),
  ("Kawi", ["kawi"], true),
  ("Kayah_Li", ["kayahli", "kali"], true),
  ("Kharoshthi", ["kharoshthi", "khar"], true),
  ("Khitan_Small_Script", ["khitansmallscript", "kits"], true),
  ("Khmer", ["khmer", "khmr"], true),
  ("Khojki", ["khojki", "khoj"], true),
  ("Khudawadi", ["khudawadi", "sind"], true),
  ("Kirat_Rai", ["kiratrai", "krai"], true),
  ("Lao", ["lao", "laoo"], true),
  ("Latin", ["latin", "latn"], true),
  ("Lepcha", ["lepcha", "lepc"], true),
  ("Limbu", ["limbu", "limb"], true),
  ("Linear_A", ["lineara", "lina"], true),
  ("Linear_B", ["linearb", "linb"], true),
  ("Lisu", ["lisu"], true),
  ("Lycian", ["lycian", "lyci"], true),
  ("Lydian", ["lydian", "lydi"], true),
  ("Mahajani", ["mahajani", "mahj"], true),
  ("Makasar", ["makasar", "maka"], true),
  ("Malayalam", ["malayalam", "mlym"], true),
  ("Mandaic", ["mandaic", "mand"], true),
  ("Manichaean", ["manichaean", "mani"], true),
  ("Marchen", ["marchen", "marc"], true),
  ("Masaram_Gondi", ["masaramgondi", "gonm"], true),
  ("Medefaidrin", ["medefaidrin", "medf"], true),
  ("Meetei_Mayek", ["meeteimayek", "mtei"], true),
  ("Mende_Kikakui", ["mendekikakui", "mend"], true),
  ("Meroitic_Cursive", ["meroiticcursive", "merc"], true),
  ("Meroitic_Hieroglyphs", ["meroitichieroglyphs", "mero"], true),
  ("Miao", ["miao", "plrd"], true),
  ("Modi", ["modi"], true),
  ("Mongolian", ["mongolian", "mong"], true),
  ("Mro", ["mro", "mroo"], true),
  ("Multani", ["multani", "mult"], true),
  ("Myanmar", ["myanmar", "mymr"], true),
  ("Nabataean", ["nabataean", "nbat"], true),
  ("Nag_Mundari", ["nagmundari", "nagm"], true),
  ("Nandinagari", ["nandinagari", "nand"], true),
  ("New_Tai_Lue", ["newtailue", "talu"], true),
  ("Newa", ["newa"], true),
  ("Nko", ["nko", "nkoo"], true),
  ("Nushu", ["nushu", "nshu"], true),
  ("Nyiakeng_Puachue_Hmong", ["nyiakengpuachuehmong", "hmnp"], true),
  ("Ogham", ["ogham", "ogam"], true),
  ("Ol_Chiki", ["olchiki", "olck"], true),
  ("Ol_Onal", ["olonal", "onao"], true),
  ("Old_Hungarian", ["oldhungarian", "hung"], true),
  ("Old_Italic", ["olditalic", "ital"], true),
  ("Old_North_Arabian", ["oldnortharabian", "narb"], true),
  ("Old_Permic", ["oldpermic", "perm"], true),
  ("Old_Persian", ["oldpersian", "xpeo"], true),
  ("Old_Sogdian", ["oldsogdian", "sogo"], true),
  ("Old_South_Arabian", ["oldsoutharabian", "sarb"], true),
  ("Old_Turkic", ["oldturkic", "orkh"], true),
  ("Old_Uyghur", ["olduyghur", "ougr"], true),
  ("Oriya", ["oriya", "orya"], true),
  ("Osage", ["osage", "osge"], true),
  ("Osmanya", ["osmanya", "osma"], true),
  ("Pahawh_Hmong", ["pahawhhmong", "hmng"], true),
  ("Palmyrene", ["palmyrene", "palm"], true),
  ("Pau_Cin_Hau", ["paucinhau", "pauc"], true),
  ("Phags_Pa", ["phagspa", "phag"], true),
  ("Phoenician", ["phoenician", "phnx"], true),
  ("Psalter_Pahlavi", ["psalterpahlavi", "phlp"], true),
  ("Rejang", ["rejang", "rjng"], true),
  ("Runic", ["runic", "runr"], true),
  ("Samaritan", ["samaritan", "samr"], true),
  ("Saurashtra", ["saurashtra", "saur"], true),
  ("Sharada", ["sharada", "shrd"], true),
  ("Shavian", ["shavian", "shaw"], true),
  ("Siddham", ["siddham", "sidd"], true),
  ("SignWriting", ["signwriting", "sgnw"], true),
  ("Sinhala", ["sinhala", "sinh"], true),
  ("Sogdian", ["sogdian", "sogd"], true),
  ("Sora_Sompeng", ["sorasompeng", "sora"], true),
  ("Soyombo", ["soyombo", "soyo"], true),
  ("Sundanese", ["sundanese", "sund"], true),
  ("Sunuwar", ["sunuwar", "sunu"], true),
  ("Syloti_Nagri", ["sylotinagri", "sylo"], true),
  ("Syriac", ["syriac", "syrc"], true),
  ("Tagalog", ["tagalog", "tglg"], true),
  ("Tagbanwa", ["tagbanwa", "tagb"], true),
  ("Tai_Le", ["taile", "tale"], true),
  ("Tai_Tham", ["taitham", "lana"], true),
  ("Tai_Viet", ["taiviet", "tavt"], true),
  ("Takri", ["takri", "takr"], true),
  ("Tamil", ["tamil", "taml"], true),
  ("Tangsa", ["tangsa", "tnsa"], true),
  ("Tangut", ["tangut", "tang"], true),
  ("Telugu", ["telugu", "telu"], true),
  ("Thaana", ["thaana", "thaa"], true),
  ("Thai", ["thai"], true),
  ("Tibetan", ["tibetan", "tibt"], true),
  ("Tifinagh", ["tifinagh", "tfng"], true),
  ("Tirhuta", ["tirhuta", "tirh"], true),
  ("Todhri", ["todhri", "todr"], true),
  ("Toto", ["toto"], true),
  ("Tulu_Tigalari", ["tulutigalari", "tutg"], true),
  ("Ugaritic", ["ugaritic", "ugar"], true),
  ("Unknown", ["unknown", "zzzz"], false),
  ("Vai", ["vai", "vaii"], true),
  ("Vithkuqi", ["vithkuqi", "vith"], true),
  ("Wancho", ["wancho", "wcho"], true),
  ("Warang_Citi", ["warangciti", "wara"], true),
  ("Yezidi", ["yezidi", "yezi"], true),
  ("Yi", ["yi", "yiii"], true),
  ("Zanabazar_Square", ["zanabazarsquare", "zanb"], true)]

/-- Runs of the script map, as `difference:script,` entries. -/
def scriptText : String :=
  "0:18,41:4a,1a:18,6:4a,1a:18,2f:4a,1:18,f:4a,1:18,5:4a,17:18,1:4a,1f:18,1:4a,1c1:18,27:4a,5:18,5:" ++
  "c,2:18,14:39,70:2c,4:18,1:2c,3:a4,2:2c,4:18,1:2c,1:a4,4:2c,1:18,1:2c,1:18,1:2c,3:a4,1:2c,1:a4,1:" ++
  "2c,14:a4,1:2c,3f:19,e:2c,10:1d,85:39,2:1d,a9:a4,1:4,26:a4,2:4,32:a4,2:4,3:a4,1:36,37:a4,8:36,1b:" ++
  "a4,4:36,6:a4,b:3,5:18,1:3,6:18,1:3,e:18,1:3,3:18,1:3,20:18,1:3,a:39,b:3,1a:39,1:3,6c:18,1:3,22:9" ++
  "0,e:a4,1:90,3c:a4,2:90,3:3,30:9b,32:a4,e:69,3b:a4,2:69,3:83,2e:a4,2:83,f:a4,1:55,1c:a4,2:55,1:a4" ++
  ",1:90,b:a4,5:3,1f:a4,1:3,2:a4,5:3,4b:18,1:3,1d:1f,51:39,4:1f,f:18,2:1f,1a:a,4:a4,1:a,8:a4,2:a,2:" ++
  "a4,2:a,16:a4,1:a,7:a4,1:a,1:a4,3:a,4:a4,2:a,9:a4,2:a,2:a4,2:a,4:a4,8:a,1:a4,4:a,2:a4,1:a,5:a4,2:" ++
  "a,19:a4,2:2f,3:a4,1:2f,6:a4,4:2f,2:a4,2:2f,16:a4,1:2f,7:a4,1:2f,2:a4,1:2f,2:a4,1:2f,2:a4,2:2f,1:" ++
  "a4,1:2f,5:a4,4:2f,2:a4,2:2f,3:a4,3:2f,1:a4,7:2f,4:a4,1:2f,1:a4,7:2f,11:a4,a:2d,3:a4,1:2d,9:a4,1:" ++
  "2d,3:a4,1:2d,16:a4,1:2d,7:a4,1:2d,2:a4,1:2d,5:a4,2:2d,a:a4,1:2d,3:a4,1:2d,3:a4,2:2d,1:a4,f:2d,4:" ++
  "a4,2:2d,c:a4,7:2d,7:a4,1:78,3:a4,1:78,8:a4,2:78,2:a4,2:78,16:a4,1:78,7:a4,1:78,2:a4,1:78,5:a4,2:" ++
  "78,9:a4,2:78,2:a4,2:78,3:a4,7:78,3:a4,4:78,2:a4,1:78,5:a4,2:78,12:a4,a:97,2:a4,1:97,6:a4,3:97,3:" ++
  "a4,1:97,4:a4,3:97,2:a4,1:97,1:a4,1:97,2:a4,3:97,2:a4,3:97,3:a4,3:97,c:a4,4:97,5:a4,3:97,3:a4,1:9" ++
  "7,4:a4,2:97,1:a4,6:97,1:a4,e:97,15:a4,5:9a,d:a4,1:9a,3:a4,1:9a,17:a4,1:9a,10:a4,2:9a,9:a4,1:9a,3" ++
  ":a4,1:9a,4:a4,7:9a,2:a4,1:9a,3:a4,2:9a,1:a4,2:9a,4:a4,2:9a,a:a4,7:9a,9:3e,d:a4,1:3e,3:a4,1:3e,17" ++
  ":a4,1:3e,a:a4,1:3e,5:a4,2:3e,9:a4,1:3e,3:a4,1:3e,4:a4,7:3e,2:a4,6:3e,2:a4,1:3e,4:a4,2:3e,a:a4,1:" ++
  "3e,3:a4,c:54,d:a4,1:54,3:a4,1:54,33:a4,1:54,3:a4,1:54,6:a4,4:54,10:a4,2:54,1a:a4,1:89,3:a4,1:89," ++
  "12:a4,3:89,18:a4,1:89,9:a4,1:89,1:a4,2:89,7:a4,3:89,1:a4,4:89,6:a4,1:89,1:a4,1:89,8:a4,6:89,a:a4" ++
  ",2:89,3:a4,c:9c,3a:a4,4:18,1:9c,1c:a4,25:49,2:a4,1:49,1:a4,1:49,5:a4,1:49,18:a4,1:49,1:a4,1:49,1" ++
  "7:a4,2:49,5:a4,1:49,1:a4,1:49,7:a4,1:49,a:a4,2:49,4:a4,20:9d,48:a4,1:9d,24:a4,4:9d,27:a4,1:9d,24" ++
  ":a4,1:9d,f:a4,1:9d,7:18,4:9d,2:a4,25:63,a0:28,26:a4,1:28,1:a4,5:28,1:a4,2:28,2b:18,1:28,4:32,100" ++
  ":26,49:a4,1:26,4:a4,2:26,7:a4,1:26,1:a4,1:26,4:a4,2:26,29:a4,1:26,4:a4,2:26,21:a4,1:26,4:a4,2:26" ++
  ",7:a4,1:26,1:a4,1:26,4:a4,2:26,f:a4,1:26,39:a4,1:26,4:a4,2:26,43:a4,2:26,20:a4,3:26,1a:a4,6:16,5" ++
  "6:a4,2:16,6:a4,2:11,280:6c,1d:a4,3:82,4b:18,3:82,b:a4,7:91,16:a4,9:91,1:34,15:18,2:a4,9:10,14:a4" ++
  ",c:92,d:a4,1:92,3:a4,1:92,2:a4,c:45,5e:a4,2:45,a:a4,6:45,a:a4,6:60,2:18,2:60,1:18,1:60,14:a4,6:6" ++
  "0,59:a4,7:60,2b:a4,5:11,46:a4,a:4c,1f:a4,1:4c,c:a4,4:4c,c:a4,4:4c,1:a4,3:4c,c:93,1e:a4,2:93,5:a4" ++
  ",b:67,2c:a4,4:67,1a:a4,6:67,b:a4,3:67,2:45,20:f,1c:a4,2:f,2:94,3f:a4,1:94,1d:a4,2:94,b:a4,6:94,a" ++
  ":a4,6:94,e:a4,2:39,1f:a4,31:6,4d:a4,1:6,32:8d,40:9,34:a4,8:9,4:4b,38:a4,3:4b,f:a4,3:4b,3:6d,30:1" ++
  "d,b:a4,5:28,2b:a4,2:28,3:8d,8:a4,8:39,3:18,1:39,d:18,1:39,7:18,4:39,1:18,6:39,1:18,3:39,2:18,1:a" ++
  "4,5:4a,26:2c,5:1d,1:4a,31:2c,5:4a,4:2c,5:4a,d:1d,1:4a,46:2c,1:39,40:4a,100:2c,16:a4,2:2c,6:a4,2:" ++
  "2c,26:a4,2:2c,6:a4,2:2c,8:a4,1:2c,1:a4,1:2c,1:a4,1:2c,1:a4,1:2c,1f:a4,2:2c,35:a4,1:2c,f:a4,1:2c," ++
  "e:a4,2:2c,6:a4,1:2c,13:a4,2:2c,3:a4,1:2c,9:a4,1:18,c:39,2:18,57:a4,1:18,b:4a,1:a4,2:18,b:4a,1:18" ++
  ",f:a4,1:4a,d:a4,3:18,21:a4,f:39,21:a4,f:18,26:2c,1:18,3:4a,2:18,6:4a,1:18,1b:4a,1:18,11:4a,29:18" ++
  ",3:a4,4:18,29a:a4,16:18,b:a4,15:18,3a0:e,100:18,274:a4,2:18,20:a4,1:18,69:29,60:4a,20:19,74:a4,5" ++
  ":19,7:28,26:a4,1:28,1:a4,5:28,1:a4,2:9e,38:a4,7:9e,2:a4,e:9e,1:26,17:a4,9:26,7:a4,1:26,7:a4,1:26" ++
  ",7:a4,1:26,7:a4,1:26,7:a4,1:26,7:a4,1:26,7:a4,1:26,7:a4,1:1d,20:18,5e:a4,22:31,1a:a4,1:31,59:a4," ++
  "c:31,d6:a4,1a:18,15:31,1:18,1:31,1:18,19:31,9:39,4:32,2:18,8:31,4:18,4:a4,1:37,56:a4,2:39,2:18,2" ++
  ":37,3:18,1:3f,5a:18,2:3f,3:a4,5:c,2b:a4,1:32,5e:a4,1:18,10:c,20:18,26:a4,9:18,1:3f,10:32,1f:a4,1" ++
  ":18,40:32,1f:18,51:3f,2f:18,1:3f,58:18,a8:31,19c0:18,40:31,5200:aa,48d:a4,3:aa,37:a4,9:4f,30:a5," ++
  "12c:a4,14:1d,60:7,58:a4,8:18,22:4a,66:18,3:4a,43:a4,2:4a,2:a4,1:4a,1:a4,1:4a,8:a4,15:4a,e:8f,2d:" ++
  "a4,3:18,a:a4,6:7e,38:a4,8:84,46:a4,8:84,c:a4,6:1f,20:42,2e:18,1:42,1:81,24:a4,b:81,1:32,1d:a4,3:" ++
  "3c,4e:a4,1:18,1:3c,a:a4,4:3c,2:63,1f:a4,1:15,37:a4,9:15,e:a4,2:15,a:a4,2:15,4:63,20:95,43:a4,18:" ++
  "95,5:5a,17:a4,a:26,6:a4,2:26,6:a4,2:26,6:a4,9:26,7:a4,1:26,7:a4,1:4a,2b:18,1:4a,9:2c,1:4a,4:18,2" ++
  ":a4,4:16,50:5a,2e:a4,2:5a,a:a4,6:32,2ba4:a4,c:32,17:a4,4:32,31:a4,2104:31,16e:a4,2:31,6a:a4,26:4" ++
  "a,7:a4,c:4,5:a4,5:36,1a:a4,1:36,5:a4,1:36,1:a4,1:36,2:a4,1:36,2:a4,1:36,a:3,73:a4,10:3,16b:18,2:" ++
  "3,50:a4,2:3,36:a4,7:3,1:a4,20:3,10:39,10:18,a:a4,6:39,e:1d,2:18,23:a4,1:18,13:a4,1:18,4:a4,4:3,5" ++
  ":a4,1:3,87:a4,2:18,1:a4,1:18,20:4a,1a:18,6:4a,1a:18,b:3f,a:18,1:3f,2d:18,2:32,1f:a4,3:32,6:a4,2:" ++
  "32,6:a4,2:32,6:a4,2:32,3:a4,3:18,7:a4,1:18,7:a4,a:18,5:a4,2:4e,c:a4,1:4e,1a:a4,1:4e,13:a4,1:4e,2" ++
  ":a4,1:4e,f:a4,2:4e,e:a4,22:4e,7b:a4,5:18,3:a4,4:18,2d:a4,3:18,9:2c,4f:a4,1:18,d:a4,3:2c,1:a4,2f:" ++
  "18,2d:39,1:a4,82:50,1d:a4,3:12,31:a4,f:39,1:18,1b:a4,4:70,24:a4,9:70,3:2a,1b:a4,5:72,2b:a4,5:a3," ++
  "1e:a4,1:a3,1:73,24:a4,4:73,e:a4,2a:1e,50:86,30:7a,1e:a4,2:7a,a:a4,6:79,24:a4,4:79,24:a4,4:24,28:" ++
  "a4,8:13,34:a4,b:13,1:a6,b:a4,1:a6,f:a4,1:a6,7:a4,1:a6,2:a4,1:a6,b:a4,1:a6,f:a4,1:a6,7:a4,1:a6,2:" ++
  "a4,3:a0,34:a4,c:4d,137:a4,9:4d,16:a4,a:4d,8:a4,18:4a,6:a4,1:4a,2a:a4,1:4a,9:a4,45:1b,6:a4,2:1b,1" ++
  ":a4,1:1b,2c:a4,1:1b,2:a4,3:1b,1:a4,2:1b,1:38,16:a4,1:38,9:7c,20:64,1f:a4,8:64,9:a4,30:35,13:a4,1" ++
  ":35,2:a4,5:35,5:7f,1c:a4,3:7f,1:51,1a:a4,5:51,1:a4,40:5d,20:5c,18:a4,4:5c,14:a4,2:5c,2e:43,4:a4," ++
  "1:43,2:a4,5:43,8:a4,1:43,3:a4,1:43,1d:a4,2:43,3:a4,4:43,a:a4,7:43,9:a4,7:75,20:71,20:a4,20:56,27" ++
  ":a4,4:56,c:a4,9:5,36:a4,3:5,7:3b,16:a4,2:3b,8:3a,13:a4,5:3a,8:80,12:a4,7:80,4:a4,c:80,7:a4,50:76" ++
  ",49:a4,37:6f,33:a4,d:6f,33:a4,7:6f,6:33,28:a4,8:33,a:a4,6:27,26:a4,3:27,1d:a4,8:27,2:a4,d0:3,1f:" ++
  "a4,1:a9,2a:a4,1:a9,3:a4,2:a9,2:a4,10:3,3:a4,37:3,4:74,28:a4,8:8a,2a:a4,16:77,1a:a4,26:17,1c:a4,1" ++
  "4:25,17:a4,9:d,4e:a4,4:d,24:a4,9:d,1:3d,43:a4,a:3d,1:a4,2:8b,19:a4,7:8b,a:a4,6:14,35:a4,1:14,12:" ++
  "a4,8:52,27:a4,9:85,60:a4,1:89,14:a4,b:46,12:a4,1:46,2f:a4,3e:62,7:a4,1:62,1:a4,1:62,4:a4,1:62,f:" ++
  "a4,1:62,b:a4,6:47,3b:a4,5:47,a:a4,6:2b,4:a4,1:2b,8:a4,2:2b,2:a4,2:2b,16:a4,1:2b,7:a4,1:2b,2:a4,1" ++
  ":2b,5:a4,1:39,1:2b,9:a4,2:2b,2:a4,2:2b,3:a4,2:2b,1:a4,6:2b,1:a4,5:2b,7:a4,2:2b,7:a4,3:2b,5:a4,b:" ++
  "a2,a:a4,1:a2,1:a4,2:a2,1:a4,1:a2,26:a4,1:a2,a:a4,1:a2,1:a4,2:a2,1:a4,1:a2,4:a4,1:a2,a:a4,1:a2,2:" ++
  "a4,8:a2,2:a4,1d:68,5c:a4,1:68,5:a4,1e:9f,48:a4,8:9f,a:a4,a6:87,36:a4,2:87,26:a4,22:5f,45:a4,b:5f" ++
  ",a:a4,6:60,d:a4,13:96,3a:a4,6:96,a:a4,6:63,14:a4,1c:1,1b:a4,2:1,f:a4,4:1,17:a4,b9:21,3c:a4,64:a8" ++
  ",53:a4,c:a8,1:20,7:a4,2:20,1:a4,2:20,8:a4,1:20,2:a4,1:20,1e:a4,1:20,2:a4,2:20,c:a4,9:20,a:a4,46:" ++
  "66,8:a4,2:66,2e:a4,2:66,b:a4,1b:ab,48:a4,8:8c,53:a4,d:11,10:7d,39:a4,7:1f,a:a4,b6:8e,22:a4,e:8e," ++
  "a:a4,6:b,9:a4,1:b,2d:a4,1:b,e:a4,a:b,1d:a4,3:57,20:a4,2:57,16:a4,1:57,e:a4,49:58,7:a4,1:58,2:a4," ++
  "1:58,2c:a4,3:58,1:a4,1:58,2:a4,1:58,9:a4,8:58,a:a4,6:2e,6:a4,1:2e,2:a4,1:2e,25:a4,1:2e,2:a4,1:2e" ++
  ",6:a4,7:2e,a:a4,136:53,19:a4,7:41,11:a4,1:41,29:a4,3:41,1d:a4,55:4f,1:a4,f:97,32:a4,d:97,1:1a,39" ++
  "a:a4,66:1a,6f:a4,1:1a,5:a4,b:1a,c4:a4,a4c:1c,63:a4,d:23,456:a4,a:23,f9b:a4,5:2,247:a4,1ab9:30,3a" ++
  ":a4,6c6:7,239:a4,7:61,1f:a4,1:61,a:a4,4:61,2:98,4f:a4,1:98,a:a4,6:8,1e:a4,2:8,6:a4,a:7b,46:a4,a:" ++
  "7b,a:a4,1:7b,7:a4,1:7b,15:a4,5:7b,13:a4,1b0:48,3a:a4,c6:59,5b:a4,65:5e,4b:a4,4:5e,39:a4,7:5e,11:" ++
  "a4,40:99,1:6a,1:31,2:44,1:a4,b:31,2:a4,e:99,17f8:a4,8:99,300:44,1d6:a4,29:44,1:99,9:a4,22e7:3f,4" ++
  ":a4,1:3f,7:a4,1:3f,2:a4,1:3f,1:37,11f:3f,3:a4,f:37,1:a4,1d:37,3:a4,2:3f,1:a4,e:3f,4:a4,8:6a,18c:" ++
  "a4,904:22,6b:a4,5:22,d:a4,3:22,9:a4,7:22,a:a4,2:22,4:18,4:a4,f5c:18,fa:a4,6:18,1b4:a4,4c:39,2e:a" ++
  "4,2:39,17:a4,9:18,74:a4,3c:18,f6:a4,a:18,27:a4,2:18,3e:39,3:18,11:39,8:18,2:39,7:18,1e:39,4:18,3" ++
  "d:a4,15:2c,46:a4,7a:18,14:a4,c:18,14:a4,c:18,57:a4,9:18,19:a4,87:18,55:a4,1:18,47:a4,1:18,2:a4,2" ++
  ":18,1:a4,2:18,2:a4,2:18,4:a4,1:18,c:a4,1:18,1:a4,1:18,7:a4,1:18,41:a4,1:18,4:a4,2:18,8:a4,1:18,7" ++
  ":a4,1:18,1c:a4,1:18,4:a4,1:18,5:a4,1:18,1:a4,3:18,7:a4,1:18,154:a4,2:18,124:a4,2:18,32:88,28c:a4" ++
  ",f:88,5:a4,1:88,f:a4,450:4a,1f:a4,6:4a,6:a4,d5:29,7:a4,1:29,11:a4,2:29,7:a4,1:29,2:a4,1:29,5:a4," ++
  "5:1d,3e:a4,21:1d,1:a4,70:6b,2d:a4,3:6b,e:a4,2:6b,a:a4,4:6b,2:a4,140:a1,1f:a4,11:a7,3a:a4,5:a7,1:" ++
  "a4,1d0:65,2a:a4,d6:6e,2b:a4,4:6e,1:a4,1e0:26,7:a4,1:26,4:a4,1:26,2:a4,1:26,f:a4,1:5b,c5:a4,2:5b," ++
  "10:a4,29:0,4c:a4,4:0,a:a4,4:0,2:a4,311:18,44:a4,4c:18,3d:a4,c2:3,4:a4,1:3,1b:a4,1:3,2:a4,1:3,1:a" ++
  "4,2:3,1:a4,1:3,a:a4,1:3,4:a4,1:3,1:a4,1:3,1:a4,6:3,1:a4,4:3,1:a4,1:3,1:a4,1:3,1:a4,1:3,3:a4,1:3," ++
  "2:a4,1:3,1:a4,2:3,1:a4,1:3,1:a4,1:3,1:a4,1:3,1:a4,1:3,1:a4,1:3,2:a4,1:3,1:a4,2:3,4:a4,1:3,7:a4,1" ++
  ":3,4:a4,1:3,4:a4,1:3,1:a4,1:3,a:a4,1:3,11:a4,5:3,3:a4,1:3,5:a4,1:3,11:a4,34:3,2:a4,10e:18,2c:a4," ++
  "4:18,64:a4,c:18,f:a4,2:18,f:a4,1:18,f:a4,1:18,25:a4,a:18,ae:a4,38:18,1a:37,1:18,2:a4,d:18,2c:a4," ++
  "4:18,9:a4,7:18,2:a4,e:18,6:a4,9a:18,3d8:a4,4:18,11:a4,3:18,d:a4,3:18,77:a4,4:18,5f:a4,6:18,c:a4," ++
  "4:18,1:a4,f:18,c:a4,4:18,38:a4,8:18,a:a4,6:18,28:a4,8:18,1e:a4,2:18,c:a4,4:18,2:a4,3e:18,154:a4," ++
  "c:18,e:a4,2:18,d:a4,3:18,a:a4,5:18,38:a4,7:18,f:a4,2:18,b:a4,6:18,9:a4,7:18,93:a4,1:18,66:a4,406" ++
  ":31,a6e0:a4,20:31,103a:a4,6:31,de:a4,2:31,1682:a4,e:31,1d31:a4,f:31,26e:a4,9a2:31,21e:a4,5e2:31," ++
  "134b:a4,5:31,1060:a4,adc51:18,1:a4,1e:18,60:a4,80:39,f0:a4,"

/-- The script map of all code points, as indices into `scriptNames`. -/
def scriptMap : InversionMap Nat :=
  InversionMap.decode ((List.range scriptNames.size).toArray) 164 scriptText

/-- The sets of scripts that code points are used with, as indices into `scriptNames`. -/
def scriptExtensionSets : Array (List Nat) := #[
  [],
  [24],
  [74],
  [5, 18, 25, 34, 36, 40, 41, 42, 44, 46, 49, 74, 81, 82, 114, 134],
  [10, 29, 31, 74, 79, 156, 161],
  [12, 74],
  [74, 79],
  [74, 156],
  [12],
  [22, 25, 29, 44, 74, 114, 142, 147],
  [22, 29, 44, 74, 121, 142, 147, 160],
  [22, 29, 74, 158],
  [41, 74, 142, 144, 156],
  [19, 22, 25, 29, 42, 44, 74, 121, 144, 158, 160],
  [25, 36, 41, 42, 63, 74],
  [29, 44, 74, 114],
  [25, 34, 54, 74, 114, 144, 147, 158, 160],
  [4, 29, 34, 42, 44, 54, 74, 114, 144, 147],
  [74, 158],
  [34, 74, 144],
  [22, 29, 74, 121],
  [22, 74, 147],
  [74, 142],
  [38, 74],
  [57],
  [29, 74, 160],
  [44, 74, 114, 160],
  [74, 144],
  [22, 34, 63, 74, 144],
  [22, 34, 74, 144],
  [74, 142, 144],
  [22, 74, 144],
  [19, 22, 42, 74, 142, 156],
  [44],
  [74, 121],
  [19, 74, 160],
  [25, 44],
  [25],
  [29],
  [29, 114],
  [29, 41],
  [29, 74],
  [4],
  [4, 40, 41],
  [54],
  [3],
  [3, 39, 51, 105, 144, 155, 169],
  [3, 144, 155],
  [0, 3, 39, 51, 105, 144, 155, 169],
  [0, 3, 51, 85, 86, 119, 128, 138, 144],
  [3, 144],
  [3, 155, 169],
  [3, 51],
  [144],
  [155],
  [105],
  [131],
  [85],
  [31],
  [10, 31, 43, 45, 47, 62, 74, 84, 120, 133, 151, 154, 159],
  [10, 31, 43, 45, 47, 62, 74, 84, 120, 151, 154, 159],
  [10, 31, 33, 43, 45, 46, 47, 62, 71, 82, 84, 88, 102, 110, 120, 137, 143, 150, 151, 154, 159],
  [10, 31, 33, 43, 45, 46, 47, 48, 62, 71, 76, 82, 84, 88, 102, 110, 120, 137, 143, 150, 151, 154, 159],
  [31, 33, 61, 82],
  [10],
  [10, 20, 143],
  [47],
  [47, 98],
  [45],
  [45, 70],
  [120],
  [151],
  [43, 151],
  [154],
  [62],
  [62, 102, 162],
  [84],
  [137],
  [156],
  [73],
  [157],
  [99],
  [20, 99, 147],
  [40],
  [40, 41, 74],
  [50],
  [38],
  [22],
  [17],
  [108],
  [130],
  [145],
  [52],
  [16, 52, 145, 146],
  [16],
  [146],
  [69],
  [96],
  [96, 126],
  [76],
  [147],
  [103],
  [15],
  [148],
  [6],
  [141],
  [9],
  [75],
  [109],
  [10, 31, 43, 62],
  [31, 43, 62],
  [10, 31],
  [31, 133],
  [31, 62, 84, 120, 151, 154],
  [31, 102],
  [10, 31, 43, 62, 84, 102, 120, 137, 154, 159, 162],
  [31, 43],
  [31, 43, 62, 162],
  [102],
  [29, 74, 144],
  [74, 96, 126],
  [0, 3],
  [18, 40, 41, 80, 111, 118],
  [18, 44, 93, 111],
  [31, 43, 74],
  [14],
  [41],
  [158],
  [25, 74],
  [5, 118],
  [5, 18, 40, 61, 81, 111, 131],
  [34],
  [0, 3, 111],
  [49],
  [49, 153],
  [12, 49, 50, 55, 63, 96, 170],
  [12, 49, 50, 55, 63, 96, 126, 170],
  [12, 49, 50, 55, 63],
  [12, 49, 50, 55, 63, 96, 157, 170],
  [12, 49, 50, 55, 63, 79, 96, 157, 170],
  [12, 49, 50, 55, 63, 170],
  [12, 49],
  [55, 63],
  [49, 55, 63],
  [55],
  [63],
  [170],
  [79],
  [165],
  [7],
  [49, 74],
  [143],
  [31, 33, 45, 47, 61, 62, 70, 71, 82, 84, 95, 102, 133, 150, 159, 162],
  [31, 33, 45, 47, 61, 62, 70, 71, 82, 95, 102, 133, 150, 159, 162],
  [31, 33, 45, 47, 61, 70, 71, 82, 95, 150, 159],
  [31, 33, 45, 47, 61, 70, 71, 82, 95, 133, 150, 159],
  [126],
  [132],
  [10, 31, 162],
  [31, 151],
  [66],
  [66, 74, 99],
  [129],
  [60],
  [15, 60],
  [21],
  [149],
  [90],
  [3, 105],
  [3, 155],
  [78],
  [27, 28, 78],
  [27, 78],
  [27, 77, 78],
  [80],
  [18],
  [3, 25],
  [112],
  [42],
  [114],
  [163],
  [115],
  [30],
  [134],
  [122],
  [121],
  [36],
  [19],
  [166],
  [160],
  [77],
  [27],
  [56],
  [124],
  [100],
  [53],
  [127],
  [81],
  [93],
  [92],
  [67],
  [117],
  [113],
  [86],
  [86, 119],
  [5],
  [59],
  [58],
  [128],
  [118],
  [111],
  [51],
  [39],
  [169],
  [116],
  [138],
  [119],
  [23],
  [37],
  [13],
  [61],
  [139],
  [20],
  [82],
  [133],
  [70],
  [98],
  [71],
  [43],
  [162],
  [104],
  [159],
  [135],
  [95],
  [150],
  [1],
  [33],
  [168],
  [32],
  [171],
  [140],
  [125],
  [142],
  [11],
  [87],
  [88],
  [46],
  [83],
  [65],
  [26],
  [28],
  [35],
  [2],
  [48],
  [97],
  [152],
  [8],
  [123],
  [72],
  [89],
  [94],
  [153],
  [106],
  [68],
  [136],
  [107],
  [161],
  [167],
  [101],
  [110],
  [91],
  [0]]

/-- Runs of the script extension map, as `difference:set,` entries. -/
def scriptExtensionText : String :=
  "0:1,41:2,1a:1,6:2,1a:1,2f:2,1:1,c:3,1:1,2:2,1:1,5:2,17:1,1:2,1f:1,1:2,1c1:1,3:4,1:1,a:5,1:1,1:5," ++
  "3:1,1:6,1:1,9:7,1:1,1:5,1:1,6:2,5:1,5:8,2:1,14:9,1:a,1:b,1:c,1:d,1:e,1:f,1:10,1:11,1:12,1:13,1:1" ++
  "4,1:15,1:16,1:17,1:18,1:16,1:19,1:18,1:1a,1:18,c:1b,1:18,2:1c,1:1d,1:1b,1:18,7:1e,1:1b,1:18,1:1f" ++
  ",1:20,1:18,10:21,1:18,2:21,1:18,12:22,1:18,5:23,1:18,4:2,d:21,4:24,2:21,2:0,2:21,4:1,1:21,1:0,4:" ++
  "21,1:1,1:21,1:1,1:21,3:0,1:21,1:0,1:21,14:0,1:21,3f:25,e:21,10:26,83:27,1:28,1:29,2:28,1:26,a8:0" ++
  ",1:2a,26:0,2:2a,30:2b,1:2a,1:0,2:2a,3:0,1:2c,37:0,8:2c,1b:0,4:2c,6:0,b:2d,5:1,1:2d,6:2e,1:2d,e:2" ++
  "e,1:2f,1:2d,2:30,1:2d,20:31,1:2d,a:32,b:2d,a:33,a:2d,6:32,1:2d,63:34,1:2d,8:1,1:2d,22:35,e:0,1:3" ++
  "5,3c:0,2:35,3:2d,30:36,32:0,e:37,3b:0,2:37,3:38,2e:0,2:38,f:0,1:39,1c:0,2:39,1:0,1:35,b:0,5:2d,1" ++
  "f:0,1:2d,2:0,5:2d,4b:1,1:2d,1d:3a,51:3b,1:3c,1:18,2:3a,f:3d,1:3e,1:3f,a:3a,10:40,4:0,1:40,8:0,2:" ++
  "40,2:0,2:40,16:0,1:40,7:0,1:40,1:0,3:40,4:0,2:40,9:0,2:40,2:0,2:40,4:0,8:40,1:0,4:40,2:0,1:40,5:" ++
  "0,2:41,a:40,f:0,2:42,3:0,1:42,6:0,4:42,2:0,2:42,16:0,1:42,7:0,1:42,2:0,1:42,2:0,1:42,2:0,2:42,1:" ++
  "0,1:42,5:0,4:42,2:0,2:42,3:0,3:42,1:0,7:42,4:0,1:42,1:0,7:43,a:42,7:0,a:44,3:0,1:44,9:0,1:44,3:0" ++
  ",1:44,16:0,1:44,7:0,1:44,2:0,1:44,5:0,2:44,a:0,1:44,3:0,1:44,3:0,2:44,1:0,f:44,4:0,2:45,a:44,2:0" ++
  ",7:44,7:0,1:46,3:0,1:46,8:0,2:46,2:0,2:46,16:0,1:46,7:0,1:46,2:0,1:46,5:0,2:46,9:0,2:46,2:0,2:46" ++
  ",3:0,7:46,3:0,4:46,2:0,1:46,5:0,2:46,12:0,a:47,2:0,1:47,6:0,3:47,3:0,1:47,4:0,3:47,2:0,1:47,1:0," ++
  "1:47,2:0,3:47,2:0,3:47,3:0,3:47,c:0,4:47,5:0,3:47,3:0,1:47,4:0,2:47,1:0,6:47,1:0,e:48,e:47,7:0,5" ++
  ":49,d:0,1:49,3:0,1:49,17:0,1:49,10:0,2:49,9:0,1:49,3:0,1:49,4:0,7:49,2:0,1:49,3:0,2:49,1:0,2:49," ++
  "4:0,2:49,a:0,7:49,9:4a,d:0,1:4a,3:0,1:4a,17:0,1:4a,a:0,1:4a,5:0,2:4a,9:0,1:4a,3:0,1:4a,4:0,7:4a," ++
  "2:0,6:4a,2:0,1:4a,4:0,2:4b,a:0,1:4a,3:0,c:4c,d:0,1:4c,3:0,1:4c,33:0,1:4c,3:0,1:4c,6:0,4:4c,10:0," ++
  "2:4c,1a:0,1:4d,3:0,1:4d,12:0,3:4d,18:0,1:4d,9:0,1:4d,1:0,2:4d,7:0,3:4d,1:0,4:4d,6:0,1:4d,1:0,1:4" ++
  "d,8:0,6:4d,a:0,2:4d,3:0,c:4e,3a:0,4:1,1:4e,1c:0,25:4f,2:0,1:4f,1:0,1:4f,5:0,1:4f,18:0,1:4f,1:0,1" ++
  ":4f,17:0,2:4f,5:0,1:4f,1:0,1:4f,7:0,1:4f,a:0,2:4f,4:0,20:50,48:0,1:50,24:0,4:50,27:0,1:50,24:0,1" ++
  ":50,f:0,1:50,7:1,4:50,2:0,25:51,40:52,a:51,56:53,26:0,1:53,1:0,5:53,1:0,2:53,2b:54,1:53,4:55,100" ++
  ":56,49:0,1:56,4:0,2:56,7:0,1:56,1:0,1:56,4:0,2:56,29:0,1:56,4:0,2:56,21:0,1:56,4:0,2:56,7:0,1:56" ++
  ",1:0,1:56,4:0,2:56,f:0,1:56,39:0,1:56,4:0,2:56,43:0,2:56,20:0,3:56,1a:0,6:57,56:0,2:57,6:0,2:58," ++
  "280:59,1d:0,3:5a,59:0,7:5b,16:0,9:5b,1:5c,15:5d,2:0,9:5e,14:0,c:5f,d:0,1:5f,3:0,1:5f,2:0,c:60,5e" ++
  ":0,2:60,a:0,6:60,a:0,6:61,2:62,2:61,1:62,1:61,14:0,6:61,59:0,7:61,2b:0,5:58,46:0,a:63,1f:0,1:63," ++
  "c:0,4:63,c:0,4:63,1:0,3:63,c:64,1e:0,2:64,5:0,b:65,2c:0,4:65,1a:0,6:65,b:0,3:65,2:60,20:66,1c:0," ++
  "2:66,2:67,3f:0,1:67,1d:0,2:67,b:0,6:67,a:0,6:67,e:0,2:18,1f:0,31:68,4d:0,1:68,32:69,40:6a,34:0,8" ++
  ":6a,4:6b,38:0,3:6b,f:0,3:6b,3:6c,30:26,b:0,5:53,2b:0,2:53,3:69,8:0,8:6d,1:3a,1:6d,1:6e,1:3a,1:6f" ++
  ",2:70,1:6f,1:70,1:71,1:3a,1:70,2:3a,2:70,1:6f,1:3a,7:72,1:6f,1:3a,2:6f,1:3a,4:73,1:74,1:75,1:6f," ++
  "2:40,1:74,2:76,1:0,5:2,26:21,5:26,1:2,31:21,5:2,4:21,5:2,d:26,1:2,46:21,3:18,36:77,1:18,1:35,1:1" ++
  "8,5:2,100:21,16:0,2:21,6:0,2:21,26:0,2:21,6:0,2:21,8:0,1:21,1:0,1:21,1:0,1:21,1:0,1:21,1f:0,2:21" ++
  ",35:0,1:21,f:0,1:21,e:0,2:21,6:0,1:21,13:0,2:21,3:0,1:21,9:0,1:1,c:18,2:1,21:78,1:1,1f:79,1:1,a:" ++
  "7a,1:1,2:7b,1:1,7:0,1:1,b:2,1:0,2:1,b:2,1:1,f:0,1:2,d:0,3:1,21:0,f:18,20:7c,1:0,f:1,26:21,1:1,3:" ++
  "2,2:1,6:2,1:1,1b:2,1:1,11:2,29:1,3:0,4:1,29a:0,16:1,b:0,15:1,3a0:7d,100:1,274:0,2:1,20:0,1:1,69:" ++
  "7e,60:2,20:25,74:0,5:25,7:53,26:0,1:53,1:0,5:53,1:0,2:7f,38:0,7:7f,2:0,e:7f,1:56,17:0,9:56,7:0,1" ++
  ":56,7:0,1:56,7:0,1:56,7:0,1:56,7:0,1:56,7:0,1:56,7:0,1:56,7:0,1:26,20:1,17:80,1:1,18:81,1:82,1:1" ++
  ",a:83,1:1,4:84,1:1,1:28,1:1,1a:0,22:85,1a:0,1:85,59:0,c:85,d6:0,1a:86,10:1,1:87,1:88,1:89,1:1,1:" ++
  "85,3:8a,2:8b,2:8c,6:1,1:89,1:8c,8:89,4:1,1:85,9:8d,4:55,2:89,1:8e,5:1,1:89,1:85,4:8f,2:85,2:0,1:" ++
  "90,56:0,2:8e,4:90,3:8e,1:91,5a:8c,1:8e,1:91,3:0,5:8,2b:0,1:55,5e:0,1:85,10:8,20:85,26:0,9:86,1:9" ++
  "1,10:55,1f:0,1:85,28:1,18:55,1f:1,1:85,31:1,f:85,c:1,4:91,2f:85,1:91,58:85,19:1,a:85,5:1,60:85,1" ++
  "f:1,1:85,19c0:1,40:85,5200:92,48d:0,3:92,37:0,9:93,30:94,12c:0,14:26,2f:28,1:26,30:95,58:0,8:96," ++
  "8:1,1a:2,66:1,3:2,43:0,2:2,2:0,1:2,1:0,1:2,8:0,15:2,e:97,2d:0,3:98,3:99,3:9a,2:9b,1:9a,1:0,6:9c," ++
  "38:0,8:9d,46:0,8:9d,c:0,6:3a,11:9e,1:3a,1:9f,1:3a,c:a0,2e:a1,1:a0,1:a2,24:0,b:a2,1:55,1d:0,3:a3," ++
  "4e:0,1:a4,1:a3,a:0,4:a3,2:51,1f:0,1:a5,37:0,9:a5,e:0,2:a5,a:0,2:a5,4:51,20:a6,43:0,18:a6,5:a7,17" ++
  ":0,a:56,6:0,2:56,6:0,2:56,6:0,9:56,7:0,1:56,7:0,1:2,2b:1,1:2,9:21,1:2,4:1,2:0,4:57,50:a7,2e:0,2:" ++
  "a7,a:0,6:55,2ba4:0,c:55,17:0,4:55,31:0,2104:85,16e:0,2:85,6a:0,26:2,7:0,c:2a,5:0,5:2c,1a:0,1:2c," ++
  "5:0,1:2c,1:0,1:2c,2:0,1:2c,2:0,1:2c,a:2d,73:0,10:2d,16b:a8,2:2d,50:0,2:2d,36:0,7:2d,1:0,20:2d,2:" ++
  "a9,1:2d,a:a9,1:2d,2:18,10:1,a:0,6:18,e:26,2:1,15:89,2:1,c:0,1:1,13:0,1:1,4:0,4:2d,5:0,1:2d,87:0," ++
  "2:1,1:0,1:1,20:2,1a:1,6:2,1a:1,6:8c,5:91,a:8e,1:91,2d:8e,2:55,1f:0,3:55,6:0,2:55,6:0,2:55,6:0,2:" ++
  "55,3:0,3:1,7:0,1:1,7:0,a:1,5:0,2:aa,c:0,1:aa,1a:0,1:aa,13:0,1:aa,2:0,1:aa,f:0,2:aa,e:0,22:aa,7b:" ++
  "0,5:ab,2:ac,1:0,4:ad,2d:0,3:ac,9:21,4f:0,1:1,d:0,3:21,1:0,2f:1,2d:18,1:0,82:ae,1d:0,3:af,31:0,f:" ++
  "b0,1c:0,4:b1,24:0,9:b1,3:b2,1b:0,5:b3,2b:0,5:b4,1e:0,1:b4,1:b5,24:0,4:b5,e:0,2a:b6,50:b7,30:b8,1" ++
  "e:0,2:b8,a:0,6:b9,24:0,4:b9,24:0,4:ba,28:0,8:bb,34:0,b:bb,1:bc,b:0,1:bc,f:0,1:bc,7:0,1:bc,2:0,1:" ++
  "bc,b:0,1:bc,f:0,1:bc,7:0,1:bc,2:0,3:bd,34:0,c:be,137:0,9:be,16:0,a:be,8:0,18:2,6:0,1:2,2a:0,1:2," ++
  "9:0,45:bf,6:0,2:bf,1:0,1:bf,2c:0,1:bf,2:0,3:bf,1:0,2:bf,1:c0,16:0,1:c0,9:c1,20:c2,1f:0,8:c2,9:0," ++
  "30:c3,13:0,1:c3,2:0,5:c3,5:c4,1c:0,3:c4,1:c5,1a:0,5:c5,1:0,40:c6,20:c7,18:0,4:c7,14:0,2:c7,2e:c8" ++
  ",4:0,1:c8,2:0,5:c8,8:0,1:c8,3:0,1:c8,1d:0,2:c8,3:0,4:c8,a:0,7:c8,9:0,7:c9,20:ca,20:0,20:cb,27:0," ++
  "4:cb,7:cc,1:cb,4:0,9:cd,36:0,3:cd,7:ce,16:0,2:ce,8:cf,13:0,5:cf,8:d0,12:0,7:d0,4:0,c:d0,7:0,50:d" ++
  "1,49:0,37:d2,33:0,d:d2,33:0,7:d2,6:d3,28:0,8:d3,a:0,6:d4,26:0,3:d4,1d:0,8:d4,2:0,d0:2d,1f:0,1:d5" ++
  ",2a:0,1:d5,3:0,2:d5,2:0,10:2d,3:0,37:2d,4:d6,28:0,8:d7,2a:0,16:d8,1a:0,26:d9,1c:0,14:da,17:0,9:d" ++
  "b,4e:0,4:db,24:0,9:db,1:dc,43:0,a:dc,1:0,2:dd,19:0,7:dd,a:0,6:de,35:0,1:de,12:0,8:df,27:0,9:e0,6" ++
  "0:0,1:4d,14:0,b:e1,12:0,1:e1,2f:0,3e:e2,7:0,1:e2,1:0,1:e2,4:0,1:e2,f:0,1:e2,b:0,6:e3,3b:0,5:e3,a" ++
  ":0,6:e4,1:48,1:e4,1:48,1:0,1:e4,8:0,2:e4,2:0,2:e4,16:0,1:e4,7:0,1:e4,2:0,1:e4,5:0,1:48,2:e4,8:0," ++
  "2:e4,2:0,2:e4,3:0,2:e4,1:0,6:e4,1:0,5:e4,7:0,2:e4,7:0,3:e4,5:0,b:e5,a:0,1:e5,1:0,2:e5,1:0,1:e5,2" ++
  "6:0,1:e5,a:0,1:e5,1:0,2:e5,1:0,1:e5,4:0,1:e5,a:0,1:e5,2:0,8:e5,2:0,1d:e6,5c:0,1:e6,5:0,1e:e7,48:" ++
  "0,8:e7,a:0,a6:e8,36:0,2:e8,26:0,22:e9,45:0,b:e9,a:0,6:61,d:0,13:ea,3a:0,6:ea,a:0,6:51,14:0,1c:eb" ++
  ",1b:0,2:eb,f:0,4:eb,17:0,b9:ec,3c:0,64:ed,53:0,c:ed,1:ee,7:0,2:ee,1:0,2:ee,8:0,1:ee,2:0,1:ee,1e:" ++
  "0,1:ee,2:0,2:ee,c:0,9:ee,a:0,46:76,8:0,2:76,2e:0,2:76,b:0,1b:ef,48:0,8:f0,53:0,d:58,10:f1,39:0,7" ++
  ":3a,a:0,b6:f2,22:0,e:f2,a:0,6:f3,9:0,1:f3,2d:0,1:f3,e:0,a:f3,1d:0,3:f4,20:0,2:f4,16:0,1:f4,e:0,4" ++
  "9:f5,7:0,1:f5,2:0,1:f5,2c:0,3:f5,1:0,1:f5,2:0,1:f5,9:0,8:f5,a:0,6:f6,6:0,1:f6,2:0,1:f6,25:0,1:f6" ++
  ",2:0,1:f6,6:0,7:f6,a:0,136:f7,19:0,7:f8,11:0,1:f8,29:0,3:f8,1d:0,55:93,1:0,f:47,10:48,2:47,1:48," ++
  "1:47,1e:0,d:47,1:f9,39a:0,66:f9,6f:0,1:f9,5:0,b:f9,c4:0,a4c:fa,63:0,d:fb,456:0,a:fb,f9b:0,5:fc,2" ++
  "47:0,1ab9:fd,3a:0,6c6:95,239:0,7:fe,1f:0,1:fe,a:0,4:fe,2:ff,4f:0,1:ff,a:0,6:100,1e:0,2:100,6:0,a" ++
  ":101,46:0,a:101,a:0,1:101,7:0,1:101,15:0,5:101,13:0,1b0:102,3a:0,c6:103,5b:0,65:104,4b:0,4:104,3" ++
  "9:0,7:104,11:0,40:105,1:106,1:85,2:107,1:0,b:85,2:0,e:105,17f8:0,8:105,300:107,1d6:0,29:107,1:10" ++
  "5,9:0,22e7:91,4:0,1:91,7:0,1:91,2:0,1:91,1:90,11f:91,3:0,f:90,1:0,1d:90,3:0,2:91,1:0,e:91,4:0,8:" ++
  "106,18c:0,904:83,6b:0,5:83,d:0,3:83,9:0,7:83,a:0,2:83,8:0,f5c:1,fa:0,6:1,1b4:0,4c:18,2e:0,2:18,1" ++
  "7:0,9:1,74:0,3c:1,f6:0,a:1,27:0,2:1,3e:18,3:1,11:18,8:1,2:18,7:1,1e:18,4:1,3d:0,15:21,46:0,7a:1," ++
  "14:0,c:1,14:0,c:1,57:0,9:85,12:1,7:0,87:1,55:0,1:1,47:0,1:1,2:0,2:1,1:0,2:1,2:0,2:1,4:0,1:1,c:0," ++
  "1:1,1:0,1:1,7:0,1:1,41:0,1:1,4:0,2:1,8:0,1:1,7:0,1:1,1c:0,1:1,4:0,1:1,5:0,1:1,1:0,3:1,7:0,1:1,15" ++
  "4:0,2:1,124:0,2:1,32:108,28c:0,f:108,5:0,1:108,f:0,450:2,1f:0,6:2,6:0,d5:7e,7:0,1:7e,11:0,2:7e,7" ++
  ":0,1:7e,2:0,1:7e,5:0,5:26,3e:0,21:26,1:0,70:109,2d:0,3:109,e:0,2:109,a:0,4:109,2:0,140:10a,1f:0," ++
  "11:10b,3a:0,5:10b,1:0,1d0:10c,2a:0,d6:10d,2b:0,4:10d,1:0,1e0:56,7:0,1:56,4:0,1:56,2:0,1:56,f:0,1" ++
  ":10e,c5:0,2:10e,10:0,29:10f,4c:0,4:10f,a:0,4:10f,2:0,311:1,44:0,4c:1,3d:0,c2:2d,4:0,1:2d,1b:0,1:" ++
  "2d,2:0,1:2d,1:0,2:2d,1:0,1:2d,a:0,1:2d,4:0,1:2d,1:0,1:2d,1:0,6:2d,1:0,4:2d,1:0,1:2d,1:0,1:2d,1:0" ++
  ",1:2d,3:0,1:2d,2:0,1:2d,1:0,2:2d,1:0,1:2d,1:0,1:2d,1:0,1:2d,1:0,1:2d,1:0,1:2d,2:0,1:2d,1:0,2:2d," ++
  "4:0,1:2d,7:0,1:2d,4:0,1:2d,4:0,1:2d,1:0,1:2d,a:0,1:2d,11:0,5:2d,3:0,1:2d,5:0,1:2d,11:0,34:2d,2:0" ++
  ",10e:1,2c:0,4:1,64:0,c:1,f:0,2:1,f:0,1:1,f:0,1:1,25:0,a:1,ae:0,38:1,1a:90,1:1,2:0,d:1,2c:0,4:1,9" ++
  ":0,7:85,2:0,e:1,6:0,9a:1,3d8:0,4:1,11:0,3:1,d:0,3:1,77:0,4:1,5f:0,6:1,c:0,4:1,1:0,f:1,c:0,4:1,38" ++
  ":0,8:1,a:0,6:1,28:0,8:1,1e:0,2:1,c:0,4:1,2:0,3e:1,154:0,c:1,e:0,2:1,d:0,3:1,a:0,5:1,38:0,7:1,f:0" ++
  ",2:1,b:0,6:1,9:0,7:1,93:0,1:1,66:0,406:85,a6e0:0,20:85,103a:0,6:85,de:0,2:85,1682:0,e:85,1d31:0," ++
  "f:85,26e:0,9a2:85,21e:0,5e2:85,134b:0,5:85,1060:0,adc51:1,1:0,1e:1,60:0,80:18,f0:0,"

/-- The script extension map of all code points, as indices into `scriptExtensionSets`. -/
def scriptExtensionMap : InversionMap Nat :=
  InversionMap.decode ((List.range scriptExtensionSets.size).toArray) 0 scriptExtensionText

end TableMachine.Regex.Ucd
