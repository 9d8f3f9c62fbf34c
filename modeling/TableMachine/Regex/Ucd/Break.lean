import TableMachine.Unicode.Table

/-!
# Break properties

The properties that text segmentation uses: grapheme cluster, word and sentence breaks, as
Unicode 16.0 gives them, each a map from code points to values kept by runs. Each value is listed
with its loose aliases, and with whether the property's data lists it: the default value `Other`
is not listed, being what every code point left out has, nor are a few values (such as `E_Base`)
that are still named but no longer used.
-/

namespace TableMachine.Regex.Ucd

open TableMachine.Unicode

/-- The values of the property Grapheme cluster break, each with its loose aliases and whether the
property's data lists it. -/
def graphemeClusterBreakValues : Array (String × List String × Bool) := #[
  ("CR", ["cr"], true),
  ("Control", ["control", "cn"], true),
  ("E_Base", ["ebase", "eb"], false),
  ("E_Base_GAZ", ["ebasegaz", "ebg"], false),
  ("E_Modifier", ["emodifier", "em"], false),
  ("Extend", ["extend", "ex"], true),
  ("Glue_After_Zwj", ["glueafterzwj", "gaz"], false),
  ("L", ["l"], true),
  ("LF", ["lf"], true),
  ("LV", ["lv"], true),
  ("LVT", ["lvt"], true),
  ("Other", ["other", "xx"], false),
  ("Prepend", ["prepend", "pp"], true),
  ("Regional_Indicator", ["regionalindicator", "ri"], true),
  ("SpacingMark", ["spacingmark", "sm"], true),
  ("T", ["t"], true),
  ("V", ["v"], true),
  ("ZWJ", ["zwj"], true)]

/-- Runs of the grapheme cluster break map, as `difference:value,` entries. -/
def graphemeClusterBreakText : String :=
  "0:1,a:8,1:1,2:0,1:1,12:b,5f:1,21:b,d:1,1:b,252:5,70:b,113:5,7:b,107:5,2d:b,1:5,1:b,1:5,2:b,1:5,2" ++
  ":b,1:5,1:b,38:c,6:b,a:5,b:b,1:1,1:b,2e:5,15:b,10:5,1:b,65:5,7:c,1:b,1:5,6:b,2:5,2:b,1:5,4:b,21:c" ++
  ",1:b,1:5,1:b,1e:5,1b:b,5b:5,b:b,3a:5,9:b,9:5,1:b,18:5,4:b,1:5,9:b,1:5,3:b,1:5,5:b,2b:5,3:b,34:c," ++
  "2:b,5:5,9:b,2a:5,18:c,1:5,20:e,1:b,36:5,1:e,1:5,1:b,1:e,3:5,8:e,4:5,1:e,2:b,1:5,7:b,a:5,2:b,1d:5" ++
  ",1:e,2:b,38:5,1:b,1:5,1:e,2:5,4:b,2:e,2:b,2:e,2:5,1:b,9:5,1:b,a:5,2:b,1a:5,1:b,2:5,2:e,1:b,38:5," ++
  "1:b,1:e,3:5,2:b,4:5,2:b,2:5,3:b,3:5,1:b,1e:5,2:b,3:5,1:b,b:5,2:e,1:b,38:5,1:b,1:e,3:5,5:b,1:5,2:" ++
  "e,1:b,1:e,2:5,1:b,14:5,2:b,16:5,6:b,1:5,1:e,2:b,38:5,1:b,1:5,2:e,1:5,4:b,2:e,2:b,2:e,2:5,1:b,7:5" ++
  ",3:b,a:5,2:b,1e:5,1:b,3b:5,1:e,1:5,1:e,2:b,3:e,3:b,1:e,3:5,1:b,9:5,1:b,28:5,1:e,3:5,1:b,37:5,1:b" ++
  ",1:5,3:e,4:b,1:5,3:b,1:5,4:b,7:5,2:b,b:5,2:b,1d:5,1:e,2:b,38:5,1:b,1:e,1:5,2:e,1:5,1:e,2:b,1:5,3" ++
  ":b,1:5,4:b,7:5,2:b,b:5,2:b,f:e,1:b,c:5,2:e,2:b,37:5,2:b,1:5,1:e,2:5,4:b,1:e,3:b,1:e,3:5,1:c,1:b," ++
  "8:5,1:b,a:5,2:b,1d:5,1:e,2:b,46:5,1:b,4:5,1:e,2:5,3:b,1:5,1:b,1:e,7:5,1:b,12:e,2:b,3d:5,1:b,1:e," ++
  "1:5,7:b,c:5,8:b,62:5,1:b,1:e,1:5,9:b,b:5,7:b,49:5,2:b,1b:5,1:b,1:5,1:b,1:5,1:b,4:e,2:b,31:5,e:e," ++
  "1:5,5:b,1:5,2:b,5:5,b:b,1:5,24:b,9:5,1:b,66:5,4:e,1:5,6:b,1:5,2:e,2:5,2:b,17:e,2:5,2:b,4:5,3:b,1" ++
  "0:5,4:b,d:5,1:b,1:e,1:5,2:b,6:5,1:b,f:5,1:b,62:7,60:10,48:f,58:b,15d:5,3:b,3b2:5,4:b,1c:5,3:b,1d" ++
  ":5,2:b,1e:5,2:b,40:5,2:e,1:5,7:e,8:5,1:e,2:5,b:b,9:5,1:b,2d:5,3:1,1:5,1:b,75:5,2:b,22:5,1:b,76:5" ++
  ",3:e,4:5,2:e,3:b,4:e,2:5,1:e,6:5,3:b,db:5,2:e,2:5,1:b,39:e,1:5,1:e,1:5,7:b,1:5,1:b,1:5,1:b,2:5,8" ++
  ":e,6:5,a:b,2:5,1:b,30:5,1f:b,31:5,4:e,1:b,2f:5,a:e,4:5,3:b,26:5,9:b,c:5,2:e,1:b,1e:e,1:5,4:e,2:5" ++
  ",6:b,38:5,1:e,1:5,2:e,3:5,1:e,1:5,5:b,30:e,8:5,8:e,2:5,2:b,98:5,3:b,1:5,d:e,1:5,7:b,4:5,1:b,6:5," ++
  "1:b,2:e,1:5,2:b,c6:5,40:b,20b:1,1:5,1:11,1:1,2:b,18:1,7:b,31:1,10:b,60:5,21:b,bfe:5,3:b,8d:5,1:b" ++
  ",60:5,20:b,22a:5,6:b,69:5,2:b,75d4:5,4:b,1:5,a:b,20:5,2:b,50:5,2:b,110:5,1:b,3:5,1:b,4:5,1:b,17:" ++
  "e,2:5,2:e,1:b,4:5,1:b,53:e,2:b,32:e,10:5,2:b,1a:5,12:b,d:5,1:b,26:5,8:b,19:5,b:e,1:5,1:b,c:7,1d:" ++
  "b,3:5,3:e,1:b,2f:5,1:e,2:5,4:e,2:5,2:e,2:5,1:b,24:5,1:b,43:5,6:e,2:5,2:e,2:5,2:b,c:5,1:b,8:5,1:e" ++
  ",1:b,2e:5,1:b,33:5,1:b,1:5,3:b,2:5,2:b,5:5,2:b,1:5,1:b,29:e,1:5,2:e,2:b,5:e,1:5,1:b,ec:e,2:5,1:e" ++
  ",2:5,1:e,2:b,1:e,1:5,1:b,12:9,1:a,1b:9,1:a,1b:9,1:a,1b:9,1:a,1b:9,1:a,1b:9,1:a,1b:9,1:a,1b:9,1:a" ++
  ",1b:9,1:a,1b:9,1:a,1b:9,1:a,1b:9,1:a,1b:9,1:a,1b:9,1:a,1b:9,1:a,1b:9,1:a,1b:9,1:a,1b:9,1:a,1b:9," ++
  "1:a,1b:9,1:a,1b:9,1:a,1b:9,1:a,1b:9,1:a,1b:9,1:a,1b:9,1:a,1b:9,1:a,1b:9,1:a,1b:9,1:a,1b:9,1:a,1b" ++
  ":9,1:a,1b:9,1:a,1b:9,1:a,1b:9,1:a,1b:9,1:a,1b:9,1:a,1b:9,1:a,1b:9,1:a,1b:9,1:a,1b:9,1:a,1b:9,1:a" ++
  ",1b:9,1:a,1b:9,1:a,1b:9,1:a,1b:9,1:a,1b:9,1:a,1b:9,1:a,1b:9,1:a,1b:9,1:a,1b:9,1:a,1b:9,1:a,1b:9," ++
  "1:a,1b:9,1:a,1b:9,1:a,1b:9,1:a,1b:9,1:a,1b:9,1:a,1b:9,1:a,1b:9,1:a,1b:9,1:a,1b:9,1:a,1b:9,1:a,1b" ++
  ":9,1:a,1b:9,1:a,1b:9,1:a,1b:9,1:a,1b:9,1:a,1b:9,1:a,1b:9,1:a,1b:9,1:a,1b:9,1:a,1b:9,1:a,1b:9,1:a" ++
  ",1b:9,1:a,1b:9,1:a,1b:9,1:a,1b:9,1:a,1b:9,1:a,1b:9,1:a,1b:9,1:a,1b:9,1:a,1b:9,1:a,1b:9,1:a,1b:9," ++
  "1:a,1b:9,1:a,1b:9,1:a,1b:9,1:a,1b:9,1:a,1b:9,1:a,1b:9,1:a,1b:9,1:a,1b:9,1:a,1b:9,1:a,1b:9,1:a,1b" ++
  ":9,1:a,1b:9,1:a,1b:9,1:a,1b:9,1:a,1b:9,1:a,1b:9,1:a,1b:9,1:a,1b:9,1:a,1b:9,1:a,1b:9,1:a,1b:9,1:a" ++
  ",1b:9,1:a,1b:9,1:a,1b:9,1:a,1b:9,1:a,1b:9,1:a,1b:9,1:a,1b:9,1:a,1b:9,1:a,1b:9,1:a,1b:9,1:a,1b:9," ++
  "1:a,1b:9,1:a,1b:9,1:a,1b:9,1:a,1b:9,1:a,1b:9,1:a,1b:9,1:a,1b:9,1:a,1b:9,1:a,1b:9,1:a,1b:9,1:a,1b" ++
  ":9,1:a,1b:9,1:a,1b:9,1:a,1b:9,1:a,1b:9,1:a,1b:9,1:a,1b:9,1:a,1b:9,1:a,1b:9,1:a,1b:9,1:a,1b:9,1:a" ++
  ",1b:9,1:a,1b:9,1:a,1b:9,1:a,1b:9,1:a,1b:9,1:a,1b:9,1:a,1b:9,1:a,1b:9,1:a,1b:9,1:a,1b:9,1:a,1b:9," ++
  "1:a,1b:9,1:a,1b:9,1:a,1b:9,1:a,1b:9,1:a,1b:9,1:a,1b:9,1:a,1b:9,1:a,1b:9,1:a,1b:9,1:a,1b:9,1:a,1b" ++
  ":9,1:a,1b:9,1:a,1b:9,1:a,1b:9,1:a,1b:9,1:a,1b:9,1:a,1b:9,1:a,1b:9,1:a,1b:9,1:a,1b:9,1:a,1b:9,1:a" ++
  ",1b:9,1:a,1b:9,1:a,1b:9,1:a,1b:9,1:a,1b:9,1:a,1b:9,1:a,1b:9,1:a,1b:9,1:a,1b:9,1:a,1b:9,1:a,1b:9," ++
  "1:a,1b:9,1:a,1b:9,1:a,1b:9,1:a,1b:9,1:a,1b:9,1:a,1b:9,1:a,1b:9,1:a,1b:9,1:a,1b:9,1:a,1b:9,1:a,1b" ++
  ":9,1:a,1b:9,1:a,1b:9,1:a,1b:9,1:a,1b:9,1:a,1b:9,1:a,1b:9,1:a,1b:9,1:a,1b:9,1:a,1b:9,1:a,1b:9,1:a" ++
  ",1b:9,1:a,1b:9,1:a,1b:9,1:a,1b:9,1:a,1b:9,1:a,1b:9,1:a,1b:9,1:a,1b:9,1:a,1b:9,1:a,1b:9,1:a,1b:9," ++
  "1:a,1b:9,1:a,1b:9,1:a,1b:9,1:a,1b:9,1:a,1b:9,1:a,1b:9,1:a,1b:9,1:a,1b:9,1:a,1b:9,1:a,1b:9,1:a,1b" ++
  ":9,1:a,1b:9,1:a,1b:9,1:a,1b:9,1:a,1b:9,1:a,1b:9,1:a,1b:9,1:a,1b:9,1:a,1b:9,1:a,1b:9,1:a,1b:9,1:a" ++
  ",1b:9,1:a,1b:9,1:a,1b:9,1:a,1b:9,1:a,1b:9,1:a,1b:9,1:a,1b:9,1:a,1b:9,1:a,1b:9,1:a,1b:9,1:a,1b:9," ++
  "1:a,1b:9,1:a,1b:9,1:a,1b:9,1:a,1b:9,1:a,1b:9,1:a,1b:9,1:a,1b:9,1:a,1b:9,1:a,1b:9,1:a,1b:9,1:a,1b" ++
  ":9,1:a,1b:9,1:a,1b:9,1:a,1b:9,1:a,1b:9,1:a,1b:9,1:a,1b:9,1:a,1b:9,1:a,1b:9,1:a,1b:9,1:a,1b:9,1:a" ++
  ",1b:9,1:a,1b:9,1:a,1b:9,1:a,1b:9,1:a,1b:9,1:a,1b:9,1:a,1b:9,1:a,1b:9,1:a,1b:9,1:a,1b:9,1:a,1b:9," ++
  "1:a,1b:9,1:a,1b:9,1:a,1b:9,1:a,1b:9,1:a,1b:9,1:a,1b:9,1:a,1b:9,1:a,1b:9,1:a,1b:9,1:a,1b:9,1:a,1b" ++
  ":9,1:a,1b:9,1:a,1b:9,1:a,1b:9,1:a,1b:9,1:a,1b:9,1:a,1b:9,1:a,1b:9,1:a,1b:9,1:a,1b:9,1:a,1b:9,1:a" ++
  ",1b:9,1:a,1b:9,1:a,1b:9,1:a,1b:9,1:a,1b:9,1:a,1b:9,1:a,1b:9,1:a,1b:9,1:a,1b:9,1:a,1b:9,1:a,1b:9," ++
  "1:a,1b:9,1:a,1b:9,1:a,1b:9,1:a,1b:9,1:a,1b:9,1:a,1b:9,1:a,1b:9,1:a,1b:9,1:a,1b:9,1:a,1b:9,1:a,1b" ++
  ":9,1:a,1b:9,1:a,1b:9,1:a,1b:9,1:a,1b:9,1:a,1b:9,1:a,1b:9,1:a,1b:9,1:a,1b:9,1:a,1b:9,1:a,1b:9,1:a" ++
  ",1b:9,1:a,1b:9,1:a,1b:9,1:a,1b:9,1:a,1b:9,1:a,1b:9,1:a,1b:9,1:a,1b:9,1:a,1b:9,1:a,1b:9,1:a,1b:9," ++
  "1:a,1b:9,1:a,1b:9,1:a,1b:9,1:a,1b:9,1:a,1b:9,1:a,1b:9,1:a,1b:9,1:a,1b:9,1:a,1b:9,1:a,1b:9,1:a,1b" ++
  ":9,1:a,1b:9,1:a,1b:9,1:a,1b:9,1:a,1b:9,1:a,1b:9,1:a,1b:9,1:a,1b:9,1:a,1b:9,1:a,1b:9,1:a,1b:9,1:a" ++
  ",1b:9,1:a,1b:9,1:a,1b:9,1:a,1b:9,1:a,1b:9,1:a,1b:9,1:a,1b:9,1:a,1b:9,1:a,1b:9,1:a,1b:9,1:a,1b:9," ++
  "1:a,1b:9,1:a,1b:9,1:a,1b:9,1:a,1b:9,1:a,1b:9,1:a,1b:9,1:a,1b:9,1:a,1b:9,1:a,1b:9,1:a,1b:9,1:a,1b" ++
  ":9,1:a,1b:9,1:a,1b:9,1:a,1b:9,1:a,1b:9,1:a,1b:9,1:a,1b:9,1:a,1b:9,1:a,1b:9,1:a,1b:9,1:a,1b:9,1:a" ++
  ",1b:9,1:a,1b:9,1:a,1b:9,1:a,1b:9,1:a,1b:9,1:a,1b:9,1:a,1b:9,1:a,1b:b,c:10,17:b,4:f,31:b,2322:5,1" ++
  ":b,2e1:5,10:b,10:5,10:b,cf:1,1:b,9e:5,2:b,50:1,c:b,201:5,1:b,e2:5,1:b,95:5,5:b,686:5,3:b,1:5,2:b" ++
  ",5:5,4:b,28:5,3:b,4:5,1:b,a5:5,2:b,23d:5,4:b,41:5,5:b,13d:5,2:b,4f:5,4:b,46:5,b:b,31:5,4:b,7a:e," ++
  "1:5,1:e,1:b,35:5,f:b,29:5,1:b,2:5,2:b,a:5,3:e,1:b,2d:e,3:5,4:e,2:5,2:b,2:c,1:b,4:5,1:b,a:c,1:b,3" ++
  "2:5,3:b,24:5,5:e,1:5,8:b,10:e,2:b,2c:5,1:b,c:5,2:e,1:b,30:e,3:5,9:e,1:5,1:b,1:c,2:b,5:5,4:b,1:e," ++
  "1:5,1:b,5c:e,3:5,3:e,2:5,4:b,6:5,1:b,2:5,1:b,9d:5,1:e,3:5,8:b,15:5,2:e,2:b,37:5,2:b,1:5,1:e,1:5," ++
  "1:e,4:b,2:e,2:b,2:e,2:5,1:b,9:5,1:b,a:e,2:b,2:5,7:b,3:5,5:b,43:5,1:e,2:5,6:b,1:5,1:b,2:5,1:b,1:5" ++
  ",3:e,1:b,1:e,2:5,3:c,1:5,1:b,e:5,2:b,52:e,3:5,8:e,2:5,3:e,1:5,1:b,17:5,1:b,51:5,1:e,2:5,6:e,1:5," ++
  "1:e,2:5,1:e,1:5,2:e,1:5,2:b,eb:5,1:e,2:5,4:b,2:e,4:5,2:e,1:5,2:b,1b:5,2:b,52:e,3:5,8:e,2:5,1:e,1" ++
  ":5,2:b,6a:5,1:e,1:5,1:e,2:5,8:b,65:5,1:e,1:5,1:b,2:5,4:e,1:5,5:b,100:e,3:5,9:e,1:5,2:b,f5:5,1:e," ++
  "5:b,1:e,2:b,2:5,4:c,1:e,1:c,1:e,1:5,1:b,8d:e,3:5,4:b,2:5,2:e,4:5,1:b,3:e,1:b,1c:5,a:b,28:5,6:e,1" ++
  ":c,1:5,4:b,8:5,1:b,9:5,6:e,2:5,3:b,28:c,6:5,d:e,1:5,2:b,195:e,1:5,7:b,1:5,6:e,1:5,1:b,52:5,16:b," ++
  "1:e,1:5,7:e,1:5,2:e,1:5,2:b,7a:5,6:b,3:5,1:b,1:5,2:b,1:5,7:c,1:5,1:b,42:e,5:b,1:5,2:b,1:e,2:5,1:" ++
  "e,1:5,1:b,15b:5,2:e,2:b,9:5,2:c,1:e,1:b,30:e,2:5,5:b,3:e,2:5,3:b,17:5,1:b,14d5:1,10:5,1:b,6:5,f:" ++
  "b,2cc8:5,c:e,3:5,3:b,9c0:5,5:b,3b:5,7:b,22c:10,1:b,3:10,4:b,1e4:5,1:b,1:e,37:b,7:5,4:b,51:5,1:b," ++
  "b:5,2:b,4cab:5,2:b,1:1,4:b,125c:5,2e:b,2:5,17:b,21e:5,5:b,3:5,6:1,8:5,8:b,2:5,7:b,1e:5,4:b,94:5," ++
  "3:b,7bb:5,37:b,4:5,32:b,8:5,1:b,e:5,1:b,16:5,5:b,1:5,f:b,550:5,7:b,1:5,11:b,2:5,7:b,1:5,2:b,1:5," ++
  "5:b,64:5,1:b,a0:5,7:b,177:5,1:b,3d:5,4:b,1fc:5,4:b,fe:5,2:b,2e0:5,7:b,6d:5,7:b,89b:d,1a:b,1fb:5," ++
  "5:b,c0c00:1,20:5,60:1,80:5,f0:1,e10:b,"

/-- The grapheme cluster break map of all code points, as indices into `graphemeClusterBreakValues`. -/
def graphemeClusterBreakMap : InversionMap Nat :=
  InversionMap.decode ((List.range graphemeClusterBreakValues.size).toArray) 11 graphemeClusterBreakText

/-- The values of the property Word break, each with its loose aliases and whether the
property's data lists it. -/
def wordBreakValues : Array (String × List String × Bool) := #[
  ("ALetter", ["aletter", "le"], true),
  ("CR", ["cr"], true),
  ("Double_Quote", ["doublequote", "dq"], true),
  ("E_Base", ["ebase", "eb"], false),
  ("E_Base_GAZ", ["ebasegaz", "ebg"], false),
  ("E_Modifier", ["emodifier", "em"], false),
  ("Extend", ["extend"], true),
  ("ExtendNumLet", ["extendnumlet", "ex"], true),
  ("Format", ["format", "fo"], true),
  ("Glue_After_Zwj", ["glueafterzwj", "gaz"], false),
  ("Hebrew_Letter", ["hebrewletter", "hl"], true),
  ("Katakana", ["katakana", "ka"], true),
  ("LF", ["lf"], true),
  ("MidLetter", ["midletter", "ml"], true),
  ("MidNum", ["midnum", "mn"], true),
  ("MidNumLet", ["midnumlet", "mb"], true),
  ("Newline", ["newline", "nl"], true),
  ("Numeric", ["numeric", "nu"], true),
  ("Other", ["other", "xx"], false),
  ("Regional_Indicator", ["regionalindicator", "ri"], true),
  ("Single_Quote", ["singlequote", "sq"], true),
  ("WSegSpace", ["wsegspace"], true),
  ("ZWJ", ["zwj"], true)]

/-- Runs of the word break map, as `difference:value,` entries. -/
def wordBreakText : String :=
  "0:12,a:c,1:10,2:1,1:12,12:15,1:12,1:2,1:12,4:14,1:12,4:e,1:12,1:f,1:12,1:11,a:d,1:e,1:12,5:0,1a:" ++
  "12,4:7,1:12,1:0,1a:12,a:10,1:12,24:0,1:12,2:8,1:12,7:0,1:12,1:d,1:12,2:0,1:12,5:0,17:12,1:0,1f:1" ++
  "2,1:0,1e0:12,6:0,22:6,70:0,5:12,1:0,2:12,2:0,4:e,1:0,1:12,6:0,1:d,1:0,3:12,1:0,1:12,1:0,14:12,1:" ++
  "0,53:12,1:0,8b:12,1:6,7:0,a6:12,1:0,26:12,2:0,4:12,1:0,1:d,1:0,29:e,1:0,1:12,6:6,2d:12,1:6,1:12," ++
  "1:6,2:12,1:6,2:12,1:6,1:12,8:a,1b:12,4:a,4:0,1:d,1:12,b:11,6:12,6:e,2:12,2:6,b:12,1:8,1:12,3:0,2" ++
  "b:6,15:11,a:12,1:11,1:e,1:12,1:0,2:6,1:0,63:12,1:0,1:6,7:11,1:12,1:6,6:0,2:6,2:12,1:6,4:0,2:11,a" ++
  ":0,3:12,2:0,1:12,f:0,2:6,1:0,1e:6,1b:12,2:0,59:6,b:0,1:12,e:11,a:0,21:6,9:0,2:12,2:e,1:12,1:0,1:" ++
  "12,2:6,1:12,2:0,16:6,4:0,1:6,9:0,1:6,3:0,1:6,5:12,12:0,19:6,3:12,4:0,b:12,5:0,18:12,1:0,6:12,1:1" ++
  "1,2:12,5:6,9:0,2a:6,18:11,1:6,21:0,36:6,3:0,1:6,12:0,1:6,7:0,a:6,2:12,2:11,a:12,1:0,10:6,3:12,1:" ++
  "0,8:12,2:0,2:12,2:0,16:12,1:0,7:12,1:0,1:12,3:0,4:12,2:6,1:0,1:6,7:12,2:6,2:12,2:6,3:0,1:12,8:6," ++
  "1:12,4:0,2:12,1:0,3:6,2:12,2:11,a:0,2:12,a:0,1:12,1:6,1:12,2:6,3:12,1:0,6:12,4:0,2:12,2:0,16:12," ++
  "1:0,7:12,1:0,2:12,1:0,2:12,1:0,2:12,2:6,1:12,1:6,5:12,4:6,2:12,2:6,3:12,3:6,1:12,7:0,4:12,1:0,1:" ++
  "12,7:11,a:6,2:0,3:6,1:12,b:6,3:12,1:0,9:12,1:0,3:12,1:0,16:12,1:0,7:12,1:0,2:12,1:0,5:12,2:6,1:0" ++
  ",1:6,8:12,1:6,3:12,1:6,3:12,2:0,1:12,f:0,2:6,2:12,2:11,a:12,9:0,1:6,6:12,1:6,3:12,1:0,8:12,2:0,2" ++
  ":12,2:0,16:12,1:0,7:12,1:0,2:12,1:0,5:12,2:6,1:0,1:6,7:12,2:6,2:12,2:6,3:12,7:6,3:12,4:0,2:12,1:" ++
  "0,3:6,2:12,2:11,a:12,1:0,1:12,10:6,1:0,1:12,1:0,6:12,3:0,3:12,1:0,4:12,3:0,2:12,1:0,1:12,1:0,2:1" ++
  "2,3:0,2:12,3:0,3:12,3:0,c:12,4:6,5:12,3:6,3:12,1:6,4:12,2:0,1:12,6:6,1:12,e:11,a:12,10:6,5:0,8:1" ++
  "2,1:0,3:12,1:0,17:12,1:0,10:12,2:6,1:0,1:6,7:12,1:6,3:12,1:6,4:12,7:6,2:12,1:0,3:12,2:0,1:12,2:0" ++
  ",2:6,2:12,2:11,a:12,10:0,1:6,3:12,1:0,8:12,1:0,3:12,1:0,17:12,1:0,a:12,1:0,5:12,2:6,1:0,1:6,7:12" ++
  ",1:6,3:12,1:6,4:12,7:6,2:12,6:0,2:12,1:0,2:6,2:12,2:11,a:12,1:0,2:6,1:12,c:6,4:0,9:12,1:0,3:12,1" ++
  ":0,29:6,2:0,1:6,7:12,1:6,3:12,1:6,4:0,1:12,5:0,3:6,1:12,7:0,3:6,2:12,2:11,a:12,a:0,6:12,1:6,3:12" ++
  ",1:0,12:12,3:0,18:12,1:0,9:12,1:0,1:12,2:0,7:12,3:6,1:12,4:6,6:12,1:6,1:12,1:6,8:12,6:11,a:12,2:" ++
  "6,2:12,3d:6,1:12,2:6,7:12,c:6,8:12,1:11,a:12,57:6,1:12,2:6,9:12,b:6,7:12,1:11,a:12,26:0,1:12,17:" ++
  "6,2:12,6:11,a:12,b:6,1:12,1:6,1:12,1:6,1:12,4:6,2:0,8:12,1:0,24:12,4:6,14:12,1:6,2:0,5:6,b:12,1:" ++
  "6,24:12,9:6,1:12,64:6,14:12,1:11,a:12,c:6,4:12,4:6,3:12,1:6,3:12,2:6,7:12,3:6,4:12,d:6,c:12,1:6," ++
  "1:11,a:6,4:12,2:0,26:12,1:0,1:12,5:0,1:12,2:0,2b:12,1:0,14d:12,1:0,4:12,2:0,7:12,1:0,1:12,1:0,4:" ++
  "12,2:0,29:12,1:0,4:12,2:0,21:12,1:0,4:12,2:0,7:12,1:0,1:12,1:0,4:12,2:0,f:12,1:0,39:12,1:0,4:12," ++
  "2:0,43:12,2:6,3:12,20:0,10:12,10:0,56:12,2:0,6:12,3:0,26c:12,2:0,11:15,1:0,1a:12,5:0,4b:12,3:0,b" ++
  ":12,7:0,12:6,4:12,9:0,13:6,3:12,b:0,12:6,2:12,c:0,d:12,1:0,3:12,1:6,2:12,40:6,20:12,9:6,1:12,2:1" ++
  "1,a:12,21:6,3:8,1:6,1:11,a:12,6:0,59:12,7:0,5:6,2:0,22:6,1:0,1:12,5:0,46:12,a:0,1f:12,1:6,c:12,4" ++
  ":6,c:12,a:11,a:12,80:11,b:12,25:0,17:6,5:12,39:6,a:12,1:6,1d:12,2:6,1:11,a:12,6:11,a:12,16:6,1f:" ++
  "12,31:6,5:0,2f:6,11:0,8:12,3:11,a:12,11:6,9:12,c:6,3:0,1e:6,d:0,2:11,a:0,2c:6,e:12,c:0,24:6,14:1" ++
  "2,8:11,a:12,3:0,3:11,a:0,24:12,2:0,b:12,5:0,2b:12,2:0,3:12,10:6,3:12,1:6,15:0,4:6,1:0,6:6,1:0,2:" ++
  "6,3:0,1:12,5:0,c0:6,40:0,116:12,2:0,6:12,2:0,26:12,2:0,6:12,2:0,8:12,1:0,1:12,1:0,1:12,1:0,1:12," ++
  "1:0,1f:12,2:0,35:12,1:0,7:12,1:0,1:12,3:0,3:12,1:0,7:12,3:0,4:12,2:0,6:12,4:0,d:12,5:0,3:12,1:0," ++
  "7:12,3:15,7:12,1:15,3:12,1:6,1:16,1:8,2:12,8:f,2:12,a:f,1:12,2:d,1:10,2:8,5:7,1:12,f:7,2:12,3:e," ++
  "1:12,f:7,1:12,a:15,1:8,5:12,1:8,a:12,1:0,1:12,d:0,1:12,10:0,d:12,33:6,21:12,11:0,1:12,4:0,1:12,2" ++
  ":0,a:12,1:0,1:12,3:0,5:12,6:0,1:12,1:0,1:12,1:0,1:12,1:0,4:12,1:0,b:12,2:0,4:12,5:0,5:12,4:0,1:1" ++
  "2,11:0,29:12,32d:0,34:12,716:0,e5:12,6:0,4:6,3:0,2:12,c:0,26:12,1:0,1:12,5:0,1:12,2:0,38:12,7:0," ++
  "1:12,f:6,1:0,17:12,9:0,7:12,1:0,7:12,1:0,7:12,1:0,7:12,1:0,7:12,1:0,7:12,1:0,7:12,1:0,7:12,1:6,2" ++
  "0:12,2f:0,1:12,1d0:15,1:12,4:0,1:12,24:6,6:12,1:b,5:12,5:0,2:12,5c:6,2:b,2:12,3:b,5b:12,1:b,4:12" ++
  ",5:0,2b:12,1:0,5e:12,11:0,20:12,30:b,10:12,d0:b,2f:12,1:b,58:12,6ca8:0,48d:12,43:0,2e:12,2:0,10d" ++
  ":12,3:0,10:11,a:0,2:12,14:0,2f:6,4:12,1:6,a:12,1:0,1f:6,2:0,50:6,2:12,16:0,c6:12,2:0,2:12,1:0,1:" ++
  "12,1:0,8:12,15:0,10:6,1:0,3:6,1:0,4:6,1:0,17:6,5:12,4:6,1:12,13:0,34:12,c:6,2:0,32:6,12:12,a:11," ++
  "a:12,6:6,12:0,6:12,3:0,1:12,1:0,2:6,1:11,a:0,1c:6,8:12,2:0,17:6,d:12,c:0,1d:12,3:6,4:0,2f:6,e:12" ++
  ",e:0,1:11,a:12,b:6,1:12,a:11,a:12,6:0,29:6,e:12,9:0,3:6,1:0,8:6,2:12,2:11,a:12,21:6,3:12,32:6,1:" ++
  "12,1:6,3:12,2:6,2:12,5:6,2:12,1:6,1:12,1e:0,b:6,5:12,2:0,3:6,2:12,a:0,6:12,2:0,6:12,2:0,6:12,9:0" ++
  ",7:12,1:0,7:12,1:0,3a:12,6:0,73:6,8:12,1:6,2:12,2:11,a:12,6:0,2ba4:12,c:0,17:12,4:0,31:12,2304:0" ++
  ",7:12,c:0,5:12,5:a,1:6,1:a,a:12,1:a,d:12,1:a,5:12,1:a,1:12,1:a,2:12,1:a,2:12,1:a,a:0,62:12,21:0," ++
  "16b:12,12:0,40:12,2:0,36:12,28:0,c:12,4:6,10:12,3:d,1:12,c:6,10:12,3:7,2:12,18:7,3:e,1:12,1:f,1:" ++
  "12,1:e,1:d,1:12,1a:0,5:12,1:0,87:12,2:8,1:12,7:f,1:12,4:e,1:12,1:f,1:12,1:11,a:d,1:e,1:12,5:0,1a" ++
  ":12,4:7,1:12,1:0,1a:12,b:b,38:6,2:0,1f:12,3:0,6:12,2:0,6:12,2:0,6:12,2:0,3:12,1c:8,3:12,4:0,c:12" ++
  ",1:0,1a:12,1:0,13:12,1:0,2:12,1:0,f:12,2:0,e:12,22:0,7b:12,45:0,35:12,88:6,1:12,82:0,1d:12,3:0,3" ++
  "1:12,f:6,1:12,1f:0,20:12,d:0,1e:12,5:0,26:6,5:12,5:0,1e:12,2:0,24:12,4:0,8:12,1:0,5:12,2a:0,9e:1" ++
  "2,2:11,a:12,6:0,24:12,4:0,24:12,4:0,28:12,8:0,34:12,c:0,b:12,1:0,f:12,1:0,7:12,1:0,2:12,1:0,b:12" ++
  ",1:0,f:12,1:0,7:12,1:0,2:12,3:0,34:12,c:0,137:12,9:0,16:12,a:0,8:12,18:0,6:12,1:0,2a:12,1:0,9:12" ++
  ",45:0,6:12,2:0,1:12,1:0,2c:12,1:0,2:12,3:0,1:12,2:0,17:12,a:0,17:12,9:0,1f:12,41:0,13:12,1:0,2:1" ++
  "2,a:0,16:12,a:0,1a:12,46:0,38:12,6:0,2:12,40:0,1:6,3:12,1:6,2:12,5:6,4:0,4:12,1:0,3:12,1:0,1d:12" ++
  ",2:6,3:12,4:6,1:12,20:0,1d:12,3:0,1d:12,23:0,8:12,1:0,1c:6,2:12,19:0,36:12,a:0,16:12,a:0,13:12,d" ++
  ":0,12:12,6e:0,49:12,37:0,33:12,d:0,33:12,d:0,24:6,4:12,8:11,a:12,6:11,a:0,1c:12,3:6,5:12,1:0,17:" ++
  "12,fa:0,2a:12,1:6,2:12,3:0,2:12,10:0,3:12,37:6,4:0,1d:12,a:0,1:12,8:0,16:6,b:12,1f:0,12:6,4:12,2" ++
  "a:0,15:12,1b:0,17:12,9:6,3:0,35:6,f:12,1f:11,a:6,1:0,2:6,2:0,1:12,9:6,4:0,2d:6,b:12,2:11,1:12,4:" ++
  "6,1:12,a:11,1:12,2:0,19:12,7:11,a:12,6:6,3:0,24:6,e:12,1:11,a:12,4:0,1:6,2:0,1:12,8:0,23:6,1:12," ++
  "2:0,1:12,9:6,3:0,30:6,e:0,4:12,4:6,4:12,1:6,2:11,a:0,1:12,1:0,1:12,23:0,12:12,1:0,19:6,c:12,6:6," ++
  "1:0,2:6,1:12,3e:0,7:12,1:0,1:12,1:0,4:12,1:0,f:12,1:0,a:12,7:0,2f:6,c:12,5:11,a:12,6:6,4:12,1:0," ++
  "8:12,2:0,2:12,2:0,16:12,1:0,7:12,1:0,2:12,1:0,5:12,1:6,2:0,1:6,7:12,2:6,2:12,2:6,3:12,2:0,1:12,6" ++
  ":6,1:12,5:0,5:6,2:12,2:6,7:12,3:6,5:12,b:0,a:12,1:0,1:12,2:0,1:12,1:0,26:12,1:0,1:6,9:12,1:6,1:1" ++
  "2,2:6,1:12,1:6,4:12,1:6,5:0,1:6,1:0,1:12,d:6,2:12,1d:0,35:6,12:0,4:12,5:11,a:12,4:6,1:0,3:12,1e:" ++
  "0,30:6,14:0,2:12,1:0,1:12,8:11,a:12,a6:0,2f:6,7:12,2:6,9:12,17:0,4:6,2:12,22:0,30:6,11:12,3:0,1:" ++
  "12,b:11,a:12,26:0,2b:6,d:0,1:12,7:11,a:12,6:11,14:12,39:6,f:12,4:11,a:12,c6:0,2c:6,f:12,65:0,40:" ++
  "11,a:12,15:0,8:12,2:0,1:12,2:0,8:12,1:0,2:12,1:0,18:6,6:12,1:6,2:12,2:6,4:0,1:6,1:0,1:6,2:12,c:1" ++
  "1,a:12,46:0,8:12,2:0,27:6,7:12,2:6,7:0,1:12,1:0,1:6,1:12,1b:0,1:6,a:0,28:6,7:0,1:6,4:12,8:6,1:12" ++
  ",8:0,1:6,b:0,2e:6,10:12,3:0,1:12,12:0,49:12,c7:0,21:12,f:11,a:12,6:0,9:12,1:0,25:6,8:12,1:6,8:0," ++
  "1:12,f:11,a:12,18:0,1e:12,2:6,16:12,1:6,e:12,49:0,7:12,1:0,2:12,1:0,26:6,6:12,3:6,1:12,1:6,2:12," ++
  "1:6,7:0,1:6,1:12,8:11,a:12,6:0,6:12,1:0,2:12,1:0,20:6,5:12,1:6,2:12,1:6,5:0,1:12,7:11,a:12,136:0" ++
  ",13:6,4:12,9:6,2:0,1:6,1:0,d:12,1:0,22:6,7:12,3:6,5:12,d:11,a:6,1:12,55:0,1:12,4f:0,39a:12,66:0," ++
  "6f:12,11:0,c4:12,a4c:0,61:12,f:0,430:8,10:6,1:0,6:6,f:12,a:0,f9b:12,5:0,247:12,1ab9:0,1e:6,12:11" ++
  ",a:12,6c6:0,239:12,7:0,1f:12,1:11,a:12,6:0,4f:12,1:11,a:12,6:0,1e:12,2:6,5:12,b:0,30:6,7:12,9:0," ++
  "4:12,c:11,a:12,9:0,15:12,5:0,13:12,1b0:0,2d:12,3:11,a:12,c6:0,40:12,80:0,4b:12,4:6,1:0,1:6,37:12" ++
  ",7:6,4:0,d:12,40:0,2:12,1:0,1:6,1:12,b:6,2:12,3ffe:b,4:12,1:b,7:12,1:b,2:12,1:b,1:12,11f:b,3:12," ++
  "32:b,1:12,e:b,4:12,a98:0,6b:12,5:0,d:12,3:0,9:12,7:0,a:12,3:6,2:12,1:8,4:12,104c:11,a:12,206:6,2" ++
  "e:12,2:6,17:12,21e:6,5:12,3:6,6:8,8:6,8:12,2:6,7:12,1e:6,4:12,94:6,3:12,1bb:0,55:12,1:0,47:12,1:" ++
  "0,2:12,2:0,1:12,2:0,2:12,2:0,4:12,1:0,c:12,1:0,1:12,1:0,7:12,1:0,41:12,1:0,4:12,2:0,8:12,1:0,7:1" ++
  "2,1:0,1c:12,1:0,4:12,1:0,5:12,1:0,1:12,3:0,7:12,1:0,154:12,2:0,19:12,1:0,19:12,1:0,1f:12,1:0,19:" ++
  "12,1:0,1f:12,1:0,19:12,1:0,1f:12,1:0,19:12,1:0,1f:12,1:0,19:12,1:0,8:12,2:11,32:12,200:6,37:12,4" ++
  ":6,32:12,8:6,1:12,e:6,1:12,16:6,5:12,1:6,f:12,450:0,1f:12,6:0,6:12,d5:6,7:12,1:6,11:12,2:6,7:12," ++
  "1:6,2:12,1:6,5:12,5:0,3e:12,21:6,1:12,70:0,2d:12,3:6,7:0,7:12,2:11,a:12,4:0,1:12,141:0,1e:6,1:12" ++
  ",11:0,2c:6,4:11,a:12,1d6:0,1c:6,4:11,a:12,d6:0,1e:6,2:0,1:11,a:12,1e5:0,7:12,1:0,4:12,1:0,2:12,1" ++
  ":0,f:12,1:0,c5:12,b:6,7:12,29:0,44:6,7:0,1:12,4:11,a:12,4a6:0,4:12,1:0,1b:12,1:0,2:12,1:0,1:12,2" ++
  ":0,1:12,1:0,a:12,1:0,4:12,1:0,1:12,1:0,1:12,6:0,1:12,4:0,1:12,1:0,1:12,1:0,1:12,1:0,3:12,1:0,2:1" ++
  "2,1:0,1:12,2:0,1:12,1:0,1:12,1:0,1:12,1:0,1:12,1:0,1:12,1:0,2:12,1:0,1:12,2:0,4:12,1:0,7:12,1:0," ++
  "4:12,1:0,4:12,1:0,1:12,1:0,a:12,1:0,11:12,5:0,3:12,1:0,5:12,1:0,11:12,274:0,1a:12,6:0,1a:12,6:0," ++
  "1a:12,5c:13,1a:12,1fb:6,5:12,7f0:11,a:12,c0407:8,1:12,1e:6,60:12,80:6,f0:12,"

/-- The word break map of all code points, as indices into `wordBreakValues`. -/
def wordBreakMap : InversionMap Nat :=
  InversionMap.decode ((List.range wordBreakValues.size).toArray) 18 wordBreakText

/-- The values of the property Sentence break, each with its loose aliases and whether the
property's data lists it. -/
def sentenceBreakValues : Array (String × List String × Bool) := #[
  ("ATerm", ["aterm", "at"], true),
  ("CR", ["cr"], true),
  ("Close", ["close", "cl"], true),
  ("Extend", ["extend", "ex"], true),
  ("Format", ["format", "fo"], true),
  ("LF", ["lf"], true),
  ("Lower", ["lower", "lo"], true),
  ("Numeric", ["numeric", "nu"], true),
  ("OLetter", ["oletter", "le"], true),
  ("Other", ["other", "xx"], false),
  ("SContinue", ["scontinue", "sc"], true),
  ("STerm", ["sterm", "st"], true),
  ("Sep", ["sep", "se"], true),
  ("Sp", ["sp"], true),
  ("Upper", ["upper", "up"], true)]

/-- Runs of the sentence break map, as `difference:value,` entries. -/
def sentenceBreakText : String :=
  "0:9,9:d,1:5,1:d,2:1,1:9,12:d,1:b,1:2,1:9,4:2,3:9,2:a,2:0,1:9,1:7,a:a,2:9,3:b,1:9,1:e,1a:2,1:9,1:" ++
  "2,1:9,3:6,1a:2,1:9,1:2,1:9,7:c,1:9,1a:d,1:9,9:6,1:2,1:9,1:4,1:9,7:6,1:9,4:6,1:2,1:9,4:e,17:9,1:e" ++
  ",7:6,18:9,1:6,8:e,1:6,1:e,1:6,1:e,1:6,1:e,1:6,1:e,1:6,1:e,1:6,1:e,1:6,1:e,1:6,1:e,1:6,1:e,1:6,1:" ++
  "e,1:6,1:e,1:6,1:e,1:6,1:e,1:6,1:e,1:6,1:e,1:6,1:e,1:6,1:e,1:6,1:e,1:6,1:e,1:6,1:e,1:6,1:e,1:6,1:" ++
  "e,1:6,1:e,1:6,1:e,1:6,1:e,1:6,1:e,1:6,1:e,1:6,2:e,1:6,1:e,1:6,1:e,1:6,1:e,1:6,1:e,1:6,1:e,1:6,1:" ++
  "e,1:6,1:e,1:6,2:e,1:6,1:e,1:6,1:e,1:6,1:e,1:6,1:e,1:6,1:e,1:6,1:e,1:6,1:e,1:6,1:e,1:6,1:e,1:6,1:" ++
  "e,1:6,1:e,1:6,1:e,1:6,1:e,1:6,1:e,1:6,1:e,1:6,1:e,1:6,1:e,1:6,1:e,1:6,1:e,1:6,1:e,1:6,1:e,1:6,1:" ++
  "e,1:6,1:e,2:6,1:e,1:6,1:e,1:6,3:e,2:6,1:e,1:6,1:e,2:6,1:e,3:6,2:e,4:6,1:e,2:6,1:e,3:6,3:e,2:6,1:" ++
  "e,2:6,1:e,1:6,1:e,1:6,1:e,2:6,1:e,1:6,2:e,1:6,1:e,2:6,1:e,3:6,1:e,1:6,1:e,2:6,2:8,1:e,1:6,3:8,4:" ++
  "e,2:6,1:e,2:6,1:e,2:6,1:e,1:6,1:e,1:6,1:e,1:6,1:e,1:6,1:e,1:6,1:e,1:6,1:e,1:6,1:e,1:6,2:e,1:6,1:" ++
  "e,1:6,1:e,1:6,1:e,1:6,1:e,1:6,1:e,1:6,1:e,1:6,1:e,1:6,1:e,1:6,2:e,2:6,1:e,1:6,1:e,3:6,1:e,1:6,1:" ++
  "e,1:6,1:e,1:6,1:e,1:6,1:e,1:6,1:e,1:6,1:e,1:6,1:e,1:6,1:e,1:6,1:e,1:6,1:e,1:6,1:e,1:6,1:e,1:6,1:" ++
  "e,1:6,1:e,1:6,1:e,1:6,1:e,1:6,1:e,1:6,1:e,1:6,1:e,1:6,1:e,1:6,1:e,1:6,1:e,1:6,1:e,1:6,1:e,1:6,1:" ++
  "e,1:6,1:e,1:6,1:e,1:6,1:e,1:6,7:e,2:6,1:e,2:6,2:e,1:6,1:e,4:6,1:e,1:6,1:e,1:6,1:e,1:6,1:e,1:6,45" ++
  ":8,1:6,24:8,7:6,2:9,4:8,c:9,e:6,5:9,7:8,1:9,1:8,1:9,11:3,70:e,1:6,1:e,1:6,1:8,1:9,1:e,1:6,1:9,2:" ++
  "6,4:a,1:e,1:9,6:e,1:9,1:e,3:9,1:e,1:9,1:e,2:6,1:e,11:9,1:e,9:6,23:e,1:6,2:e,3:6,3:e,1:6,1:e,1:6," ++
  "1:e,1:6,1:e,1:6,1:e,1:6,1:e,1:6,1:e,1:6,1:e,1:6,1:e,1:6,1:e,1:6,1:e,1:6,1:e,1:6,5:e,1:6,1:9,1:e," ++
  "1:6,1:e,2:6,2:e,33:6,30:e,1:6,1:e,1:6,1:e,1:6,1:e,1:6,1:e,1:6,1:e,1:6,1:e,1:6,1:e,1:6,1:e,1:6,1:" ++
  "e,1:6,1:e,1:6,1:e,1:6,1:e,1:6,1:e,1:6,1:e,1:6,1:e,1:6,1:e,1:6,1:9,1:3,7:e,1:6,1:e,1:6,1:e,1:6,1:" ++
  "e,1:6,1:e,1:6,1:e,1:6,1:e,1:6,1:e,1:6,1:e,1:6,1:e,1:6,1:e,1:6,1:e,1:6,1:e,1:6,1:e,1:6,1:e,1:6,1:" ++
  "e,1:6,1:e,1:6,1:e,1:6,1:e,1:6,1:e,1:6,1:e,1:6,1:e,1:6,1:e,1:6,1:e,1:6,1:e,1:6,1:e,1:6,1:e,1:6,1:" ++
  "e,2:6,1:e,1:6,1:e,1:6,1:e,1:6,1:e,1:6,1:e,1:6,1:e,1:6,2:e,1:6,1:e,1:6,1:e,1:6,1:e,1:6,1:e,1:6,1:" ++
  "e,1:6,1:e,1:6,1:e,1:6,1:e,1:6,1:e,1:6,1:e,1:6,1:e,1:6,1:e,1:6,1:e,1:6,1:e,1:6,1:e,1:6,1:e,1:6,1:" ++
  "e,1:6,1:e,1:6,1:e,1:6,1:e,1:6,1:e,1:6,1:e,1:6,1:e,1:6,1:e,1:6,1:e,1:6,1:e,1:6,1:e,1:6,1:e,1:6,1:" ++
  "e,1:6,1:e,1:6,1:e,1:6,1:e,1:6,1:e,1:6,1:e,1:6,1:e,1:6,1:e,1:6,1:e,1:6,1:e,1:6,1:e,1:6,1:e,1:6,1:" ++
  "e,1:6,1:e,1:6,1:e,1:6,1:e,1:6,1:e,1:6,1:e,1:6,1:e,1:6,1:9,1:e,26:9,2:8,1:9,3:a,1:9,2:6,29:b,1:9," ++
  "7:3,2d:9,1:3,1:9,1:3,2:9,1:3,2:9,1:3,1:9,8:8,1b:9,4:8,5:9,c:7,6:9,6:a,2:9,2:3,b:9,1:4,1:b,3:8,2b" ++
  ":3,15:7,a:9,1:7,2:9,1:8,2:3,1:8,63:b,1:8,1:3,7:7,1:9,1:3,6:8,2:3,2:9,1:3,4:8,2:7,a:8,3:9,2:8,1:b" ++
  ",3:9,c:4,1:8,1:3,1:8,1e:3,1b:9,2:8,59:3,b:8,1:9,e:7,a:8,21:3,9:8,2:9,2:a,1:b,1:8,1:9,2:3,1:9,2:8" ++
  ",16:3,4:8,1:3,9:8,1:3,3:8,1:3,5:9,9:b,1:9,1:b,1:9,3:b,2:9,1:8,19:3,3:9,4:8,b:9,5:8,18:9,1:8,6:9," ++
  "1:7,2:9,5:3,9:8,2a:3,18:7,1:3,21:8,36:3,3:8,1:3,12:8,1:3,7:8,a:3,2:b,2:7,a:9,1:8,10:3,3:9,1:8,8:" ++
  "9,2:8,2:9,2:8,16:9,1:8,7:9,1:8,1:9,3:8,4:9,2:3,1:8,1:3,7:9,2:3,2:9,2:3,3:8,1:9,8:3,1:9,4:8,2:9,1" ++
  ":8,3:3,2:9,2:7,a:8,2:9,a:8,1:9,1:3,1:9,2:3,3:9,1:8,6:9,4:8,2:9,2:8,16:9,1:8,7:9,1:8,2:9,1:8,2:9," ++
  "1:8,2:9,2:3,1:9,1:3,5:9,4:3,2:9,2:3,3:9,3:3,1:9,7:8,4:9,1:8,1:9,7:7,a:3,2:8,3:3,1:9,b:3,3:9,1:8," ++
  "9:9,1:8,3:9,1:8,16:9,1:8,7:9,1:8,2:9,1:8,5:9,2:3,1:8,1:3,8:9,1:3,3:9,1:3,3:9,2:8,1:9,f:8,2:3,2:9" ++
  ",2:7,a:9,9:8,1:3,6:9,1:3,3:9,1:8,8:9,2:8,2:9,2:8,16:9,1:8,7:9,1:8,2:9,1:8,5:9,2:3,1:8,1:3,7:9,2:" ++
  "3,2:9,2:3,3:9,7:3,3:9,4:8,2:9,1:8,3:3,2:9,2:7,a:9,1:8,1:9,10:3,1:8,1:9,1:8,6:9,3:8,3:9,1:8,4:9,3" ++
  ":8,2:9,1:8,1:9,1:8,2:9,3:8,2:9,3:8,3:9,3:8,c:9,4:3,5:9,3:3,3:9,1:3,4:9,2:8,1:9,6:3,1:9,e:7,a:9,1" ++
  "0:3,5:8,8:9,1:8,3:9,1:8,17:9,1:8,10:9,2:3,1:8,1:3,7:9,1:3,3:9,1:3,4:9,7:3,2:9,1:8,3:9,2:8,1:9,2:" ++
  "8,2:3,2:9,2:7,a:9,10:8,1:3,3:9,1:8,8:9,1:8,3:9,1:8,17:9,1:8,a:9,1:8,5:9,2:3,1:8,1:3,7:9,1:3,3:9," ++
  "1:3,4:9,7:3,2:9,6:8,2:9,1:8,2:3,2:9,2:7,a:9,1:8,2:3,1:9,c:3,4:8,9:9,1:8,3:9,1:8,29:3,2:8,1:3,7:9" ++
  ",1:3,3:9,1:3,4:8,1:9,5:8,3:3,1:9,7:8,3:3,2:9,2:7,a:9,a:8,6:9,1:3,3:9,1:8,12:9,3:8,18:9,1:8,9:9,1" ++
  ":8,1:9,2:8,7:9,3:3,1:9,4:3,6:9,1:3,1:9,1:3,8:9,6:7,a:9,2:3,2:9,d:8,30:3,1:8,2:3,7:9,5:8,7:3,8:9," ++
  "1:7,a:9,27:8,2:9,1:8,1:9,1:8,5:9,1:8,18:9,1:8,1:9,1:8,a:3,1:8,2:3,9:8,1:9,2:8,5:9,1:8,1:9,1:3,7:" ++
  "9,1:7,a:9,2:8,4:9,20:8,1:9,17:3,2:9,6:7,a:9,b:3,1:9,1:3,1:9,1:3,1:2,4:3,2:8,8:9,1:8,24:9,4:3,14:" ++
  "9,1:3,2:8,5:3,b:9,1:3,24:9,9:3,1:9,39:8,2b:3,14:8,1:7,a:b,2:9,4:8,6:3,4:8,4:3,3:8,1:3,3:8,2:3,7:" ++
  "8,3:3,4:8,d:3,c:8,1:3,1:7,a:3,4:9,2:e,26:9,1:e,1:9,5:e,1:9,2:8,2b:9,1:6,1:8,14c:9,1:8,4:9,2:8,7:" ++
  "9,1:8,1:9,1:8,4:9,2:8,29:9,1:8,4:9,2:8,21:9,1:8,4:9,2:8,7:9,1:8,1:9,1:8,4:9,2:8,f:9,1:8,39:9,1:8" ++
  ",4:9,2:8,43:9,2:3,3:9,2:b,1:9,4:b,2:9,17:8,10:9,10:e,56:9,2:6,6:9,3:8,26c:9,1:b,1:8,11:d,1:8,1a:" ++
  "2,2:9,3:8,4b:9,3:8,b:9,7:8,12:3,4:9,9:8,13:3,3:b,2:9,9:8,12:3,2:9,c:8,d:9,1:8,3:9,1:3,2:9,c:8,34" ++
  ":3,20:b,2:9,1:8,1:9,4:8,1:3,1:9,2:7,a:9,18:a,1:b,1:9,4:a,1:b,1:9,1:3,3:4,1:3,1:7,a:9,6:8,59:9,7:" ++
  "8,5:3,2:8,22:3,1:8,1:9,5:8,46:9,a:8,1f:9,1:3,c:9,4:3,c:9,8:b,2:7,a:8,1e:9,2:8,5:9,b:8,2c:9,4:8,1" ++
  "a:9,6:7,b:9,25:8,17:3,5:9,4:8,35:3,a:9,1:3,1d:9,2:3,1:7,a:9,6:7,a:9,d:8,1:b,4:9,4:3,1f:9,31:3,5:" ++
  "8,2f:3,11:8,8:9,1:b,2:7,a:b,2:9,2:b,2:9,b:3,9:9,9:b,3:3,3:8,1e:3,d:8,2:7,a:8,2c:3,e:9,c:8,24:3,1" ++
  "4:9,3:b,2:9,3:7,a:9,3:8,3:7,a:8,24:b,2:6,9:e,1:6,1:9,5:8,2b:9,2:8,3:9,10:3,3:9,1:3,15:8,4:3,1:8," ++
  "6:3,1:8,2:3,3:8,1:9,5:6,c0:3,40:e,1:6,1:e,1:6,1:e,1:6,1:e,1:6,1:e,1:6,1:e,1:6,1:e,1:6,1:e,1:6,1:" ++
  "e,1:6,1:e,1:6,1:e,1:6,1:e,1:6,1:e,1:6,1:e,1:6,1:e,1:6,1:e,1:6,1:e,1:6,1:e,1:6,1:e,1:6,1:e,1:6,1:" ++
  "e,1:6,1:e,1:6,1:e,1:6,1:e,1:6,1:e,1:6,1:e,1:6,1:e,1:6,1:e,1:6,1:e,1:6,1:e,1:6,1:e,1:6,1:e,1:6,1:" ++
  "e,1:6,1:e,1:6,1:e,1:6,1:e,1:6,1:e,1:6,1:e,1:6,1:e,1:6,1:e,1:6,1:e,1:6,1:e,1:6,1:e,1:6,1:e,1:6,1:" ++
  "e,1:6,1:e,1:6,1:e,1:6,1:e,1:6,1:e,1:6,1:e,1:6,1:e,1:6,1:e,1:6,1:e,1:6,1:e,1:6,1:e,1:6,1:e,1:6,1:" ++
  "e,1:6,1:e,1:6,1:e,1:6,1:e,1:6,1:e,1:6,1:e,1:6,1:e,1:6,1:e,1:6,1:e,1:6,1:e,1:6,1:e,1:6,1:e,1:6,1:" ++
  "e,1:6,1:e,1:6,1:e,1:6,1:e,1:6,1:e,1:6,1:e,1:6,1:e,1:6,9:e,1:6,1:e,1:6,1:e,1:6,1:e,1:6,1:e,1:6,1:" ++
  "e,1:6,1:e,1:6,1:e,1:6,1:e,1:6,1:e,1:6,1:e,1:6,1:e,1:6,1:e,1:6,1:e,1:6,1:e,1:6,1:e,1:6,1:e,1:6,1:" ++
  "e,1:6,1:e,1:6,1:e,1:6,1:e,1:6,1:e,1:6,1:e,1:6,1:e,1:6,1:e,1:6,1:e,1:6,1:e,1:6,1:e,1:6,1:e,1:6,1:" ++
  "e,1:6,1:e,1:6,1:e,1:6,1:e,1:6,1:e,1:6,1:e,1:6,1:e,1:6,1:e,1:6,1:e,1:6,1:e,1:6,1:e,1:6,1:e,1:6,1:" ++
  "e,1:6,1:e,1:6,1:e,1:6,1:e,1:6,1:e,1:6,1:e,1:6,1:e,1:6,1:e,1:6,9:e,8:6,6:9,2:e,6:9,2:6,8:e,8:6,8:" ++
  "e,8:6,6:9,2:e,6:9,2:6,8:9,1:e,1:9,1:e,1:9,1:e,1:9,1:e,1:6,8:e,8:6,e:9,2:6,8:e,8:6,8:e,8:6,8:e,8:" ++
  "6,5:9,1:6,2:e,5:9,1:6,1:9,3:6,3:9,1:6,2:e,5:9,3:6,4:9,2:6,2:e,4:9,4:6,8:e,5:9,5:6,3:9,1:6,2:e,5:" ++
  "9,3:d,b:4,1:3,2:4,2:9,3:a,2:9,3:2,8:9,4:0,1:9,3:c,2:4,5:d,1:9,9:2,2:9,1:b,2:9,7:2,2:b,3:9,15:d,1" ++
  ":4,5:9,1:4,a:9,1:6,1:9,b:2,2:6,1:9,d:2,2:9,1:6,d:9,33:3,21:9,11:e,1:9,4:e,1:9,2:6,1:e,3:6,2:e,3:" ++
  "6,1:9,1:e,1:9,3:e,5:9,6:e,1:9,1:e,1:9,1:e,1:9,1:e,4:9,1:6,1:e,4:6,1:8,4:6,1:9,2:6,2:e,2:9,5:e,1:" ++
  "6,4:9,4:6,1:9,11:e,10:6,10:8,3:e,1:6,1:8,4:9,17f:2,4:9,1d:2,2:9,18b:e,1a:6,1a:9,271:2,6:9,7:2,e:" ++
  "9,4f:2,2:9,1f:2,a:9,193:2,16:9,3f:2,4:9,20:2,2:9,202:e,30:6,30:e,1:6,1:e,3:6,2:e,1:6,1:e,1:6,1:e" ++
  ",1:6,1:e,4:6,1:e,1:6,2:e,1:6,8:e,3:6,1:e,1:6,1:e,1:6,1:e,1:6,1:e,1:6,1:e,1:6,1:e,1:6,1:e,1:6,1:e" ++
  ",1:6,1:e,1:6,1:e,1:6,1:e,1:6,1:e,1:6,1:e,1:6,1:e,1:6,1:e,1:6,1:e,1:6,1:e,1:6,1:e,1:6,1:e,1:6,1:e" ++
  ",1:6,1:e,1:6,1:e,1:6,1:e,1:6,1:e,1:6,1:e,1:6,1:e,1:6,1:e,1:6,1:e,1:6,1:e,1:6,1:e,1:6,1:e,1:6,1:e" ++
  ",1:6,1:e,1:6,1:e,1:6,1:e,1:6,1:e,1:6,1:e,1:6,1:e,1:6,1:e,1:6,1:e,1:6,1:e,1:6,1:e,1:6,1:e,1:6,1:e" ++
  ",1:6,1:e,1:6,1:e,1:6,1:e,1:6,1:e,1:6,1:e,1:6,2:9,6:e,1:6,1:e,1:6,1:3,3:e,1:6,1:9,5:b,3:9,4:6,26:" ++
  "9,1:6,1:9,5:6,1:9,2:8,38:9,7:8,1:9,f:3,1:8,17:9,9:8,7:9,1:8,7:9,1:8,7:9,1:8,7:9,1:8,7:9,1:8,7:9," ++
  "1:8,7:9,1:8,7:9,1:3,20:2,e:9,e:2,2:9,2:2,a:9,4:b,1:8,1:9,c:b,1:9,5:2,1:9,10:b,2:2,8:9,1a3:d,1:a," ++
  "1:b,1:9,2:8,3:2,a:9,2:2,8:9,1:2,3:9,1:8,9:3,6:9,1:8,5:9,2:8,5:9,4:8,56:9,2:3,2:9,2:8,3:9,1:8,5a:" ++
  "9,1:8,4:9,5:8,2b:9,1:8,5e:9,11:8,20:9,30:8,10:9,200:8,19c0:9,40:8,568d:9,43:8,2e:9,1:b,1:8,10d:9" ++
  ",1:b,2:8,10:7,a:8,2:9,14:e,1:6,1:e,1:6,1:e,1:6,1:e,1:6,1:e,1:6,1:e,1:6,1:e,1:6,1:e,1:6,1:e,1:6,1" ++
  ":e,1:6,1:e,1:6,1:e,1:6,1:e,1:6,1:e,1:6,1:e,1:6,1:e,1:6,1:e,1:6,1:e,1:6,1:e,1:6,1:e,1:6,1:e,1:6,1" ++
  ":e,1:6,1:e,1:6,1:8,1:3,4:9,1:3,a:9,1:8,1:e,1:6,1:e,1:6,1:e,1:6,1:e,1:6,1:e,1:6,1:e,1:6,1:e,1:6,1" ++
  ":e,1:6,1:e,1:6,1:e,1:6,1:e,1:6,1:e,1:6,1:e,1:6,1:e,1:6,3:3,2:8,50:3,2:9,1:b,1:9,3:b,1:9,1f:8,9:9" ++
  ",2:e,1:6,1:e,1:6,1:e,1:6,1:e,1:6,1:e,1:6,1:e,1:6,1:e,1:6,3:e,1:6,1:e,1:6,1:e,1:6,1:e,1:6,1:e,1:6" ++
  ",1:e,1:6,1:e,1:6,1:e,1:6,1:e,1:6,1:e,1:6,1:e,1:6,1:e,1:6,1:e,1:6,1:e,1:6,1:e,1:6,1:e,1:6,1:e,1:6" ++
  ",1:e,1:6,1:e,1:6,1:e,1:6,1:e,1:6,1:e,1:6,1:e,1:6,1:e,1:6,1:e,1:6,1:e,1:6,1:e,1:6,1:e,1:6,1:e,1:6" ++
  ",1:e,1:6,1:e,1:6,a:e,1:6,1:e,1:6,1:e,2:6,1:e,1:6,1:e,1:6,1:e,1:6,1:e,1:6,1:8,1:9,2:e,1:6,1:e,1:6" ++
  ",1:8,1:e,1:6,1:e,1:6,3:e,1:6,1:e,1:6,1:e,1:6,1:e,1:6,1:e,1:6,1:e,1:6,1:e,1:6,1:e,1:6,1:e,1:6,1:e" ++
  ",1:6,1:e,5:6,1:e,5:6,1:e,1:6,1:e,1:6,1:e,1:6,1:e,1:6,1:e,1:6,1:e,1:6,1:e,1:6,1:e,4:6,1:e,1:6,1:e" ++
  ",2:6,1:9,2:e,1:6,1:9,1:6,1:9,1:6,1:e,1:6,1:e,1:6,1:e,1:6,1:e,1:9,15:6,3:e,1:6,1:8,1:6,3:8,7:3,1:" ++
  "8,3:3,1:8,4:3,1:8,17:3,5:9,4:3,1:9,13:8,34:9,2:b,2:9,8:3,2:8,32:3,12:9,8:b,2:7,a:9,6:3,12:8,6:9," ++
  "3:8,1:9,1:8,2:3,1:7,a:8,1c:3,8:9,1:b,1:8,17:3,d:9,c:8,1d:9,3:3,4:8,2f:3,e:9,7:b,2:9,5:8,1:7,a:9," ++
  "6:8,5:3,1:8,a:7,a:8,5:9,1:8,29:3,e:9,9:8,3:3,1:8,8:3,2:9,2:7,a:9,3:b,3:8,17:9,3:8,1:3,3:8,32:3,1" ++
  ":8,1:3,3:8,2:3,2:8,5:3,2:8,1:3,1:8,1:9,18:8,3:9,2:8,b:3,5:b,2:8,3:3,2:9,a:8,6:9,2:8,6:9,2:8,6:9," ++
  "9:8,7:9,1:8,7:9,1:6,2b:9,1:6,e:9,6:6,50:8,23:3,8:b,1:3,2:9,2:7,a:9,6:8,2ba4:9,c:8,17:9,4:8,31:9," ++
  "2104:8,16e:9,2:8,6a:9,26:6,7:9,c:6,5:9,5:8,1:3,1:8,a:9,1:8,d:9,1:8,5:9,1:8,1:9,1:8,2:9,1:8,2:9,1" ++
  ":8,6c:9,21:8,16b:2,2:9,10:8,40:9,2:8,36:9,28:8,c:9,4:3,10:a,2:b,1:a,2:b,2:2,2:9,7:3,10:9,1:a,2:9" ++
  ",2:2,10:9,2:2,2:9,7:a,2:0,1:9,1:a,2:b,2:a,1:2,6:9,4:a,1:9,c:8,5:9,1:8,87:9,2:4,1:9,1:b,1:9,6:2,2" ++
  ":9,2:a,2:0,1:9,1:7,a:a,2:9,3:b,1:9,1:e,1a:2,1:9,1:2,1:9,3:6,1a:2,1:9,1:2,1:9,1:2,2:b,1:2,2:a,1:9" ++
  ",1:8,38:3,2:8,1f:9,3:8,6:9,2:8,6:9,2:8,6:9,2:8,3:9,1c:4,3:9,4:8,c:9,1:8,1a:9,1:8,13:9,1:8,2:9,1:" ++
  "8,f:9,2:8,e:9,22:8,7b:9,45:8,35:9,88:3,1:9,82:8,1d:9,3:8,31:9,f:3,1:9,1f:8,20:9,d:8,1e:9,5:8,26:" ++
  "3,5:9,5:8,1e:9,2:8,24:9,4:8,8:9,1:8,5:9,2a:e,28:6,28:8,4e:9,2:7,a:9,6:e,24:9,4:6,24:9,4:8,28:9,8" ++
  ":8,34:9,c:e,b:9,1:e,f:9,1:e,7:9,1:e,2:9,1:6,b:9,1:6,f:9,1:6,7:9,1:6,2:9,3:8,34:9,c:8,137:9,9:8,1" ++
  "6:9,a:8,8:9,18:6,1:8,2:6,3:9,1:6,2a:9,1:6,9:9,45:8,6:9,2:8,1:9,1:8,2c:9,1:8,2:9,3:8,1:9,2:8,17:9" ++
  ",a:8,17:9,9:8,1f:9,41:8,13:9,1:8,2:9,a:8,16:9,a:8,1a:9,46:8,38:9,6:8,2:9,40:8,1:3,3:9,1:3,2:9,5:" ++
  "3,4:8,4:9,1:8,3:9,1:8,1d:9,2:3,3:9,4:3,1:9,16:b,2:9,8:8,1d:9,3:8,1d:9,23:8,8:9,1:8,1c:3,2:9,19:8" ++
  ",36:9,a:8,16:9,a:8,13:9,d:8,12:9,6e:8,49:9,37:e,33:9,d:6,33:9,d:8,24:3,4:9,8:7,a:9,6:7,a:8,6:e,1" ++
  "6:9,3:3,5:9,1:8,1:6,16:9,fa:8,2a:9,1:3,2:9,3:8,2:9,10:8,3:9,37:3,4:8,1d:9,a:8,1:9,8:8,16:3,b:9,4" ++
  ":b,5:9,16:8,12:3,4:b,4:9,26:8,15:9,1b:8,17:9,9:3,3:8,35:3,f:b,2:9,1d:7,a:3,1:8,2:3,2:8,1:9,9:3,4" ++
  ":8,2d:3,b:9,2:7,1:b,4:3,1:9,a:7,1:9,2:8,19:9,7:7,a:9,6:3,3:8,24:3,e:9,1:7,a:9,1:b,3:8,1:3,2:8,1:" ++
  "9,8:8,23:3,1:9,2:8,1:9,9:3,3:8,30:3,e:8,4:b,2:9,2:3,4:b,1:3,2:7,a:8,1:9,1:8,1:9,1:b,2:9,20:8,12:" ++
  "9,1:8,19:3,c:b,2:9,1:b,2:9,1:3,1:8,2:3,1:9,3e:8,7:9,1:8,1:9,1:8,4:9,1:8,f:9,1:8,a:b,1:9,6:8,2f:3" ++
  ",c:9,5:7,a:9,6:3,4:9,1:8,8:9,2:8,2:9,2:8,16:9,1:8,7:9,1:8,2:9,1:8,5:9,1:3,2:8,1:3,7:9,2:3,2:9,2:" ++
  "3,3:9,2:8,1:9,6:3,1:9,5:8,5:3,2:9,2:3,7:9,3:3,5:9,b:8,a:9,1:8,1:9,2:8,1:9,1:8,26:9,1:8,1:3,9:9,1" ++
  ":3,1:9,2:3,1:9,1:3,4:9,1:3,5:8,1:3,1:8,1:b,2:9,b:3,2:9,1d:8,35:3,12:8,4:b,2:9,3:7,a:9,4:3,1:8,3:" ++
  "9,1e:8,30:3,14:8,2:9,1:8,1:9,8:7,a:9,a6:8,2f:3,7:9,2:3,9:9,1:b,2:9,5:b,f:8,4:3,2:9,22:8,30:3,11:" ++
  "b,2:9,1:8,1:9,b:7,a:9,26:8,2b:3,d:8,1:9,7:7,a:9,6:7,14:9,1c:8,1b:9,2:3,f:9,4:7,a:9,2:b,3:9,1:8,7" ++
  ":9,b9:8,2c:3,f:9,65:e,20:6,20:7,a:9,15:8,8:9,2:8,1:9,2:8,8:9,1:8,2:9,1:8,18:3,6:9,1:3,2:9,2:3,4:" ++
  "8,1:3,1:8,1:3,2:b,1:9,1:b,1:9,9:7,a:9,46:8,8:9,2:8,27:3,7:9,2:3,7:8,1:9,1:8,1:3,1:9,1b:8,1:3,a:8" ++
  ",28:3,7:8,1:3,4:9,3:b,2:9,3:3,1:9,8:8,1:3,b:8,2e:3,10:9,1:b,2:8,1:9,12:8,49:9,c7:8,21:9,f:7,a:9," ++
  "6:8,9:9,1:8,25:3,8:9,1:3,8:8,1:b,2:9,d:7,a:9,18:8,1e:9,2:3,16:9,1:3,e:9,49:8,7:9,1:8,2:9,1:8,26:" ++
  "3,6:9,3:3,1:9,1:3,2:9,1:3,7:8,1:3,1:9,8:7,a:9,6:8,6:9,1:8,2:9,1:8,20:3,5:9,1:3,2:9,1:3,5:8,1:9,7" ++
  ":7,a:9,136:8,13:3,4:b,2:9,7:3,2:8,1:3,1:8,d:9,1:8,22:3,7:9,3:3,5:b,2:9,b:7,a:3,1:9,55:8,1:9,4f:8" ++
  ",39a:9,66:8,6f:9,11:8,c4:9,a4c:8,61:9,f:8,430:4,10:3,1:8,6:3,f:9,a:8,f9b:9,5:8,247:9,1ab9:8,1e:3" ++
  ",12:7,a:9,6c6:8,239:9,7:8,1f:9,1:7,a:9,4:b,2:8,4f:9,1:7,a:9,6:8,1e:9,2:3,5:b,1:9,a:8,30:3,7:b,2:" ++
  "9,7:8,4:b,1:9,b:7,a:9,9:8,15:9,5:8,13:9,1b0:8,2d:9,1:b,2:7,a:9,c6:e,20:6,20:9,18:b,1:9,67:8,4b:9" ++
  ",4:3,1:8,1:3,37:9,7:3,4:8,d:9,40:8,2:9,1:8,1:3,1:9,b:3,2:9,e:8,17f8:9,8:8,4d6:9,29:8,a:9,22e7:8," ++
  "4:9,1:8,7:9,1:8,2:9,1:8,123:9,f:8,1:9,1d:8,3:9,2:8,1:9,e:8,4:9,8:8,18c:9,904:8,6b:9,5:8,d:9,3:8," ++
  "9:9,7:8,a:9,3:3,2:b,1:4,4:9,104c:7,a:9,206:3,2e:9,2:3,17:9,21e:3,5:9,3:3,6:4,8:3,8:9,2:3,7:9,1e:" ++
  "3,4:9,94:3,3:9,1bb:e,1a:6,1a:e,1a:6,7:9,1:6,12:e,1a:6,1a:e,1:9,1:e,2:9,2:e,1:9,2:e,2:9,2:e,4:9,1" ++
  ":e,8:6,4:9,1:6,1:9,1:6,7:9,1:6,b:e,1a:6,1a:e,2:9,1:e,4:9,2:e,8:9,1:e,7:9,1:6,1a:e,2:9,1:e,4:9,1:" ++
  "e,5:9,1:e,1:9,3:e,7:9,1:6,1a:e,1a:6,1a:e,1a:6,1a:e,1a:6,1a:e,1a:6,1a:e,1a:6,1a:e,1a:6,1c:9,2:e,1" ++
  "9:9,1:6,19:9,1:6,6:e,19:9,1:6,19:9,1:6,6:e,19:9,1:6,19:9,1:6,6:e,19:9,1:6,19:9,1:6,6:e,19:9,1:6," ++
  "19:9,1:6,6:e,1:6,1:9,2:7,32:9,200:3,37:9,4:3,32:9,8:3,1:9,e:3,1:9,3:b,1:9,12:3,5:9,1:3,f:9,450:6" ++
  ",a:8,1:6,14:9,6:6,6:9,d5:3,7:9,1:3,11:9,2:3,7:9,1:3,2:9,1:3,5:9,5:6,3e:9,21:3,1:9,70:8,2d:9,3:3," ++
  "7:8,7:9,2:7,a:9,4:8,1:9,141:8,1e:3,1:9,11:8,2c:3,4:7,a:9,1d6:8,1c:3,4:7,a:9,d6:8,1e:3,2:8,1:7,a:" ++
  "9,1e5:8,7:9,1:8,4:9,1:8,2:9,1:8,f:9,1:8,c5:9,b:3,7:9,29:e,22:6,22:3,7:8,1:9,4:7,a:9,4a6:8,4:9,1:" ++
  "8,1b:9,1:8,2:9,1:8,1:9,2:8,1:9,1:8,a:9,1:8,4:9,1:8,1:9,1:8,1:9,6:8,1:9,4:8,1:9,1:8,1:9,1:8,1:9,1" ++
  ":8,3:9,1:8,2:9,1:8,1:9,2:8,1:9,1:8,1:9,1:8,1:9,1:8,1:9,1:8,1:9,1:8,2:9,1:8,1:9,2:8,4:9,1:8,7:9,1" ++
  ":8,4:9,1:8,4:9,1:8,1:9,1:8,a:9,1:8,11:9,5:8,3:9,1:8,5:9,1:8,11:9,274:e,1a:9,6:e,1a:9,6:e,1a:9,4e" ++
  "c:2,3:9,577:7,a:9,406:8,a6e0:9,20:8,103a:9,6:8,de:9,2:8,1682:9,e:8,1d31:9,f:8,26e:9,9a2:8,21e:9," ++
  "5e2:8,134b:9,5:8,1060:9,adc51:4,1:9,1e:3,60:9,80:3,f0:9,"

/-- The sentence break map of all code points, as indices into `sentenceBreakValues`. -/
def sentenceBreakMap : InversionMap Nat :=
  InversionMap.decode ((List.range sentenceBreakValues.size).toArray) 9 sentenceBreakText

end TableMachine.Regex.Ucd
