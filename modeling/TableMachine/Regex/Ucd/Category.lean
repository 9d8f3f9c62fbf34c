import TableMachine.Unicode.Category

/-!
# General categories of patterns

Patterns follow Unicode 16.0: `categoryMap` gives every code point its general category there.
`categoryNames` lists the names a pattern may use for a category or a group of them, such as `L`
for all letters, in the loose form that `looseName` produces, with the categories each stands
for and whether the category data lists it: the surrogates have a name but no set.
-/

namespace TableMachine.Regex.Ucd

open TableMachine.Unicode

/-- Runs of the category map, as `difference:category,` entries. -/
def categoryText : String :=
  "0:19,20:16,1:11,3:13,1:11,3:d,1:e,1:11,1:12,1:11,1:c,1:11,2:8,a:11,2:12,3:11,2:0,1a:d,1:11,1:e,1" ++
  ":14,1:b,1:14,1:1,1a:d,1:12,1:e,1:12,1:19,21:16,1:11,1:13,4:15,1:11,1:14,1:15,1:4,1:f,1:12,1:1a,1" ++
  ":15,1:14,1:15,1:12,1:a,2:14,1:1,1:11,2:14,1:a,1:4,1:10,1:a,3:11,1:0,17:12,1:0,7:1,18:12,1:1,8:0," ++
  "1:1,1:0,1:1,1:0,1:1,1:0,1:1,1:0,1:1,1:0,1:1,1:0,1:1,1:0,1:1,1:0,1:1,1:0,1:1,1:0,1:1,1:0,1:1,1:0," ++
  "1:1,1:0,1:1,1:0,1:1,1:0,1:1,1:0,1:1,1:0,1:1,1:0,1:1,1:0,1:1,1:0,1:1,1:0,1:1,1:0,1:1,1:0,1:1,1:0," ++
  "1:1,1:0,1:1,1:0,1:1,1:0,1:1,2:0,1:1,1:0,1:1,1:0,1:1,1:0,1:1,1:0,1:1,1:0,1:1,1:0,1:1,1:0,1:1,2:0," ++
  "1:1,1:0,1:1,1:0,1:1,1:0,1:1,1:0,1:1,1:0,1:1,1:0,1:1,1:0,1:1,1:0,1:1,1:0,1:1,1:0,1:1,1:0,1:1,1:0," ++
  "1:1,1:0,1:1,1:0,1:1,1:0,1:1,1:0,1:1,1:0,1:1,1:0,1:1,1:0,1:1,1:0,1:1,1:0,1:1,1:0,1:1,1:0,2:1,1:0," ++
  "1:1,1:0,1:1,3:0,2:1,1:0,1:1,1:0,2:1,1:0,3:1,2:0,4:1,1:0,2:1,1:0,3:1,3:0,2:1,1:0,2:1,1:0,1:1,1:0," ++
  "1:1,1:0,2:1,1:0,1:1,2:0,1:1,1:0,2:1,1:0,3:1,1:0,1:1,1:0,2:1,2:4,1:0,1:1,3:4,4:0,1:2,1:1,1:0,1:2," ++
  "1:1,1:0,1:2,1:1,1:0,1:1,1:0,1:1,1:0,1:1,1:0,1:1,1:0,1:1,1:0,1:1,1:0,1:1,1:0,1:1,2:0,1:1,1:0,1:1," ++
  "1:0,1:1,1:0,1:1,1:0,1:1,1:0,1:1,1:0,1:1,1:0,1:1,1:0,1:1,2:0,1:2,1:1,1:0,1:1,1:0,3:1,1:0,1:1,1:0," ++
  "1:1,1:0,1:1,1:0,1:1,1:0,1:1,1:0,1:1,1:0,1:1,1:0,1:1,1:0,1:1,1:0,1:1,1:0,1:1,1:0,1:1,1:0,1:1,1:0," ++
  "1:1,1:0,1:1,1:0,1:1,1:0,1:1,1:0,1:1,1:0,1:1,1:0,1:1,1:0,1:1,1:0,1:1,1:0,1:1,1:0,1:1,1:0,1:1,1:0," ++
  "1:1,1:0,1:1,1:0,1:1,1:0,1:1,7:0,2:1,1:0,2:1,2:0,1:1,1:0,4:1,1:0,1:1,1:0,1:1,1:0,1:1,1:0,1:1,45:4" ++
  ",1:1,1b:3,12:14,4:3,c:14,e:3,5:14,7:3,1:14,1:3,1:14,11:5,70:0,1:1,1:0,1:1,1:3,1:14,1:0,1:1,1:1d," ++
  "2:3,1:1,3:11,1:0,1:1d,4:14,2:0,1:11,1:0,3:1d,1:0,1:1d,1:0,2:1,1:0,11:1d,1:0,9:1,23:0,1:1,2:0,3:1" ++
  ",3:0,1:1,1:0,1:1,1:0,1:1,1:0,1:1,1:0,1:1,1:0,1:1,1:0,1:1,1:0,1:1,1:0,1:1,1:0,1:1,1:0,1:1,1:0,1:1" ++
  ",5:0,1:1,1:12,1:0,1:1,1:0,2:1,2:0,33:1,30:0,1:1,1:0,1:1,1:0,1:1,1:0,1:1,1:0,1:1,1:0,1:1,1:0,1:1," ++
  "1:0,1:1,1:0,1:1,1:0,1:1,1:0,1:1,1:0,1:1,1:0,1:1,1:0,1:1,1:0,1:1,1:0,1:1,1:0,1:1,1:15,1:5,5:7,2:0" ++
  ",1:1,1:0,1:1,1:0,1:1,1:0,1:1,1:0,1:1,1:0,1:1,1:0,1:1,1:0,1:1,1:0,1:1,1:0,1:1,1:0,1:1,1:0,1:1,1:0" ++
  ",1:1,1:0,1:1,1:0,1:1,1:0,1:1,1:0,1:1,1:0,1:1,1:0,1:1,1:0,1:1,1:0,1:1,1:0,1:1,1:0,1:1,1:0,1:1,1:0" ++
  ",1:1,1:0,1:1,1:0,1:1,1:0,2:1,1:0,1:1,1:0,1:1,1:0,1:1,1:0,1:1,1:0,1:1,1:0,1:1,2:0,1:1,1:0,1:1,1:0" ++
  ",1:1,1:0,1:1,1:0,1:1,1:0,1:1,1:0,1:1,1:0,1:1,1:0,1:1,1:0,1:1,1:0,1:1,1:0,1:1,1:0,1:1,1:0,1:1,1:0" ++
  ",1:1,1:0,1:1,1:0,1:1,1:0,1:1,1:0,1:1,1:0,1:1,1:0,1:1,1:0,1:1,1:0,1:1,1:0,1:1,1:0,1:1,1:0,1:1,1:0" ++
  ",1:1,1:0,1:1,1:0,1:1,1:0,1:1,1:0,1:1,1:0,1:1,1:0,1:1,1:0,1:1,1:0,1:1,1:0,1:1,1:0,1:1,1:0,1:1,1:0" ++
  ",1:1,1:0,1:1,1:0,1:1,1:0,1:1,1:0,1:1,1:0,1:1,1:0,1:1,1:0,1:1,1:0,1:1,1:0,1:1,1:1d,1:0,26:1d,2:3," ++
  "1:11,6:1,29:11,1:c,1:1d,2:15,2:13,1:1d,1:5,2d:c,1:5,1:11,1:5,2:11,1:5,2:11,1:5,1:1d,8:4,1b:1d,4:" ++
  "4,4:11,2:1d,b:1a,6:12,3:11,2:13,1:11,2:15,2:5,b:11,1:1a,1:11,3:4,20:3,1:4,a:5,15:8,a:11,4:4,2:5," ++
  "1:4,63:11,1:4,1:5,7:1a,1:15,1:5,6:3,2:5,2:15,1:5,4:4,2:8,a:4,3:15,2:4,1:11,e:1d,1:1a,1:4,1:5,1:4" ++
  ",1e:5,1b:1d,2:4,59:5,b:4,1:1d,e:8,a:4,21:5,9:3,2:15,1:11,3:3,1:1d,2:5,1:13,2:4,16:5,4:3,1:5,9:3," ++
  "1:5,3:3,1:5,5:1d,2:11,f:1d,1:4,19:5,3:1d,2:11,1:1d,1:4,b:1d,5:4,18:14,1:4,6:1d,1:1a,2:1d,5:5,9:4" ++
  ",29:3,1:5,18:1a,1:5,20:6,1:4,36:5,1:6,1:5,1:4,1:6,3:5,8:6,4:5,1:6,2:4,1:5,7:4,a:5,2:11,2:8,a:11," ++
  "1:3,1:4,f:5,1:6,2:1d,1:4,8:1d,2:4,2:1d,2:4,16:1d,1:4,7:1d,1:4,1:1d,3:4,4:1d,2:5,1:4,1:6,3:5,4:1d" ++
  ",2:6,2:1d,2:6,2:5,1:4,1:1d,8:6,1:1d,4:4,2:1d,1:4,3:5,2:1d,2:8,a:4,2:13,2:a,6:15,1:13,1:4,1:11,1:" ++
  "5,1:1d,2:5,2:6,1:1d,1:4,6:1d,4:4,2:1d,2:4,16:1d,1:4,7:1d,1:4,2:1d,1:4,2:1d,1:4,2:1d,2:5,1:1d,1:6" ++
  ",3:5,2:1d,4:5,2:1d,2:5,3:1d,3:5,1:1d,7:4,4:1d,1:4,1:1d,7:8,a:5,2:4,3:5,1:11,1:1d,a:5,2:6,1:1d,1:" ++
  "4,9:1d,1:4,3:1d,1:4,16:1d,1:4,7:1d,1:4,2:1d,1:4,5:1d,2:5,1:4,1:6,3:5,5:1d,1:5,2:6,1:1d,1:6,2:5,1" ++
  ":1d,2:4,1:1d,f:4,2:5,2:1d,2:8,a:11,1:13,1:1d,7:4,1:5,6:1d,1:5,1:6,2:1d,1:4,8:1d,2:4,2:1d,2:4,16:" ++
  "1d,1:4,7:1d,1:4,2:1d,1:4,5:1d,2:5,1:4,1:6,1:5,1:6,1:5,4:1d,2:6,2:1d,2:6,2:5,1:1d,7:5,2:6,1:1d,4:" ++
  "4,2:1d,1:4,3:5,2:1d,2:8,a:15,1:4,1:a,6:1d,a:5,1:4,1:1d,1:4,6:1d,3:4,3:1d,1:4,4:1d,3:4,2:1d,1:4,1" ++
  ":1d,1:4,2:1d,3:4,2:1d,3:4,3:1d,3:4,c:1d,4:6,2:5,1:6,2:1d,3:6,3:1d,1:6,3:5,1:1d,2:4,1:1d,6:6,1:1d" ++
  ",e:8,a:a,3:15,6:13,1:15,1:1d,5:5,1:6,3:5,1:4,8:1d,1:4,3:1d,1:4,17:1d,1:4,10:1d,2:5,1:4,1:5,3:6,4" ++
  ":1d,1:5,3:1d,1:5,4:1d,7:5,2:1d,1:4,3:1d,2:4,1:1d,2:4,2:5,2:1d,2:8,a:1d,7:11,1:a,7:15,1:4,1:5,1:6" ++
  ",2:11,1:4,8:1d,1:4,3:1d,1:4,17:1d,1:4,a:1d,1:4,5:1d,2:5,1:4,1:6,1:5,1:6,5:1d,1:5,1:6,2:1d,1:6,2:" ++
  "5,2:1d,7:6,2:1d,6:4,2:1d,1:4,2:5,2:1d,2:8,a:1d,1:4,2:6,1:1d,c:5,2:6,2:4,9:1d,1:4,3:1d,1:4,29:5,2" ++
  ":4,1:6,3:5,4:1d,1:6,3:1d,1:6,3:5,1:4,1:15,1:1d,4:4,3:6,1:a,7:4,3:5,2:1d,2:8,a:a,9:15,1:4,6:1d,1:" ++
  "5,1:6,2:1d,1:4,12:1d,3:4,18:1d,1:4,9:1d,1:4,1:1d,2:4,7:1d,3:5,1:1d,4:6,3:5,3:1d,1:5,1:1d,1:6,8:1" ++
  "d,6:8,a:1d,2:6,2:11,1:1d,c:4,30:5,1:4,2:5,7:1d,4:13,1:4,6:3,1:5,8:11,1:8,a:11,2:1d,25:4,2:1d,1:4" ++
  ",1:1d,1:4,5:1d,1:4,18:1d,1:4,1:1d,1:4,a:5,1:4,2:5,9:4,1:1d,2:4,5:1d,1:3,1:1d,1:5,7:1d,1:8,a:1d,2" ++
  ":4,4:1d,20:4,1:15,3:11,f:15,1:11,1:15,3:5,2:15,6:8,a:a,a:15,1:5,1:15,1:5,1:15,1:5,1:d,1:e,1:d,1:" ++
  "e,1:6,2:4,8:1d,1:4,24:1d,4:5,e:6,1:5,5:11,1:5,2:4,5:5,b:1d,1:5,24:1d,1:15,8:5,1:15,6:1d,1:15,2:1" ++
  "1,5:15,4:11,2:1d,25:4,2b:6,2:5,4:6,1:5,6:6,1:5,2:6,2:5,2:4,1:8,a:11,6:4,6:6,2:5,2:4,4:5,3:4,1:6," ++
  "3:4,2:6,7:4,3:5,4:4,d:5,1:6,2:5,2:6,6:5,1:4,1:6,1:8,a:6,3:5,1:15,2:0,26:1d,1:0,1:1d,5:0,1:1d,2:1" ++
  ",2b:11,1:3,1:1,3:4,149:1d,1:4,4:1d,2:4,7:1d,1:4,1:1d,1:4,4:1d,2:4,29:1d,1:4,4:1d,2:4,21:1d,1:4,4" ++
  ":1d,2:4,7:1d,1:4,1:1d,1:4,4:1d,2:4,f:1d,1:4,39:1d,1:4,4:1d,2:4,43:1d,2:5,3:11,9:a,14:1d,3:4,10:1" ++
  "5,a:1d,6:0,56:1d,2:1,6:1d,2:c,1:4,26c:15,1:11,1:4,11:16,1:4,1a:d,1:e,1:1d,3:4,4b:11,3:9,3:4,8:1d" ++
  ",7:4,12:5,3:6,1:1d,9:4,13:5,2:6,1:11,2:1d,9:4,12:5,2:1d,c:4,d:1d,1:4,3:1d,1:5,2:1d,c:4,34:5,2:6," ++
  "1:5,7:6,8:5,1:6,2:5,b:11,3:3,1:11,3:13,1:4,1:5,1:1d,2:8,a:1d,6:a,a:1d,6:11,6:c,1:11,4:5,3:1a,1:5" ++
  ",1:8,a:1d,6:4,23:3,1:4,35:1d,7:4,5:5,2:4,22:5,1:4,1:1d,5:4,46:1d,a:4,1f:1d,1:5,3:6,4:5,2:6,3:1d," ++
  "4:6,2:5,1:6,6:5,3:1d,4:15,1:1d,3:11,2:8,a:4,1e:1d,2:4,5:1d,b:4,2c:1d,4:4,1a:1d,6:8,a:a,1:1d,3:15" ++
  ",22:4,17:5,2:6,2:5,1:1d,2:11,2:4,35:6,1:5,1:6,1:5,7:1d,1:5,1:6,1:5,1:6,2:5,8:6,6:5,a:1d,2:5,1:8," ++
  "a:1d,6:8,a:1d,6:11,7:3,1:11,6:1d,2:5,e:7,1:5,10:1d,31:5,4:6,1:4,2f:5,1:6,1:5,5:6,1:5,1:6,5:5,1:6" ++
  ",2:4,8:1d,1:11,2:8,a:11,7:15,a:5,9:15,9:11,3:5,2:6,1:4,1e:6,1:5,4:6,2:5,2:6,1:5,3:4,2:8,a:4,2c:5" ++
  ",1:6,1:5,2:6,3:5,1:6,1:5,3:6,2:1d,8:11,4:4,24:6,8:5,8:6,2:5,2:1d,3:11,5:8,a:1d,3:4,3:8,a:4,1e:3," ++
  "6:11,2:1,9:0,1:1,1:1d,5:0,2b:1d,2:0,3:11,8:1d,8:5,3:11,1:5,d:6,1:5,7:4,4:5,1:4,6:5,1:4,2:6,1:5,2" ++
  ":4,1:1d,5:1,2c:3,3f:1,d:3,1:1,22:3,25:5,40:0,1:1,1:0,1:1,1:0,1:1,1:0,1:1,1:0,1:1,1:0,1:1,1:0,1:1" ++
  ",1:0,1:1,1:0,1:1,1:0,1:1,1:0,1:1,1:0,1:1,1:0,1:1,1:0,1:1,1:0,1:1,1:0,1:1,1:0,1:1,1:0,1:1,1:0,1:1" ++
  ",1:0,1:1,1:0,1:1,1:0,1:1,1:0,1:1,1:0,1:1,1:0,1:1,1:0,1:1,1:0,1:1,1:0,1:1,1:0,1:1,1:0,1:1,1:0,1:1" ++
  ",1:0,1:1,1:0,1:1,1:0,1:1,1:0,1:1,1:0,1:1,1:0,1:1,1:0,1:1,1:0,1:1,1:0,1:1,1:0,1:1,1:0,1:1,1:0,1:1" ++
  ",1:0,1:1,1:0,1:1,1:0,1:1,1:0,1:1,1:0,1:1,1:0,1:1,1:0,1:1,1:0,1:1,1:0,1:1,1:0,1:1,1:0,1:1,1:0,1:1" ++
  ",1:0,1:1,1:0,1:1,1:0,1:1,1:0,1:1,1:0,1:1,1:0,1:1,1:0,1:1,1:0,1:1,1:0,1:1,1:0,1:1,1:0,1:1,1:0,1:1" ++
  ",1:0,1:1,1:0,1:1,1:0,1:1,1:0,1:1,1:0,1:1,1:0,1:1,1:0,1:1,1:0,1:1,9:0,1:1,1:0,1:1,1:0,1:1,1:0,1:1" ++
  ",1:0,1:1,1:0,1:1,1:0,1:1,1:0,1:1,1:0,1:1,1:0,1:1,1:0,1:1,1:0,1:1,1:0,1:1,1:0,1:1,1:0,1:1,1:0,1:1" ++
  ",1:0,1:1,1:0,1:1,1:0,1:1,1:0,1:1,1:0,1:1,1:0,1:1,1:0,1:1,1:0,1:1,1:0,1:1,1:0,1:1,1:0,1:1,1:0,1:1" ++
  ",1:0,1:1,1:0,1:1,1:0,1:1,1:0,1:1,1:0,1:1,1:0,1:1,1:0,1:1,1:0,1:1,1:0,1:1,1:0,1:1,1:0,1:1,1:0,1:1" ++
  ",1:0,1:1,1:0,1:1,1:0,1:1,1:0,1:1,1:0,1:1,1:0,1:1,1:0,1:1,1:0,1:1,1:0,1:1,9:0,8:1,6:1d,2:0,6:1d,2" ++
  ":1,8:0,8:1,8:0,8:1,6:1d,2:0,6:1d,2:1,8:1d,1:0,1:1d,1:0,1:1d,1:0,1:1d,1:0,1:1,8:0,8:1,e:1d,2:1,8:" ++
  "2,8:1,8:2,8:1,8:2,8:1,5:1d,1:1,2:0,4:2,1:14,1:1,1:14,3:1,3:1d,1:1,2:0,4:2,1:14,3:1,4:1d,2:1,2:0," ++
  "4:1d,1:14,3:1,8:0,5:14,3:1d,2:1,3:1d,1:1,2:0,4:2,1:14,2:1d,1:16,b:1a,5:c,6:11,2:f,1:10,1:d,1:f,2" ++
  ":10,1:d,1:f,1:11,8:17,1:18,1:1a,5:16,1:11,9:f,1:10,1:11,4:b,2:11,3:12,1:d,1:e,1:11,b:12,1:11,1:b" ++
  ",1:11,a:16,1:1a,5:1d,1:1a,a:a,1:3,1:1d,2:a,6:12,3:d,1:e,1:3,1:a,a:12,3:d,1:e,1:1d,1:3,d:1d,3:13," ++
  "21:1d,f:5,d:7,4:5,1:7,3:5,c:1d,f:15,2:0,1:15,4:0,1:15,2:1,1:0,3:1,2:0,3:1,1:15,1:0,1:15,2:12,1:0" ++
  ",5:15,6:0,1:15,1:0,1:15,1:0,1:15,1:0,4:15,1:1,1:0,4:1,1:4,4:1,1:15,2:1,2:0,2:12,5:0,1:1,4:15,1:1" ++
  "2,1:15,2:1,1:15,1:a,10:9,23:0,1:1,1:9,4:a,1:15,2:1d,4:12,5:15,5:12,2:15,4:12,1:15,2:12,1:15,2:12" ++
  ",1:15,7:12,1:15,1f:12,2:15,2:12,1:15,1:12,1:15,1f:12,10c:15,8:d,1:e,1:d,1:e,1:15,14:12,2:15,7:d," ++
  "1:e,1:15,51:12,1:15,1e:12,19:15,28:12,6:15,48:1d,16:15,b:1d,15:a,3c:15,4e:a,16:15,b7:12,1:15,9:1" ++
  "2,1:15,36:12,8:15,6f:12,1:15,f8:d,1:e,1:d,1:e,1:d,1:e,1:d,1:e,1:d,1:e,1:d,1:e,1:d,1:e,1:a,1e:15," ++
  "2c:12,5:d,1:e,1:12,1f:d,1:e,1:d,1:e,1:d,1:e,1:d,1:e,1:d,1:e,1:12,10:15,100:12,83:d,1:e,1:d,1:e,1" ++
  ":d,1:e,1:d,1:e,1:d,1:e,1:d,1:e,1:d,1:e,1:d,1:e,1:d,1:e,1:d,1:e,1:d,1:e,1:12,3f:d,1:e,1:d,1:e,1:1" ++
  "2,20:d,1:e,1:12,102:15,30:12,15:15,2:12,6:15,27:1d,2:15,20:1d,1:15,69:0,30:1,30:0,1:1,1:0,3:1,2:" ++
  "0,1:1,1:0,1:1,1:0,1:1,1:0,4:1,1:0,1:1,2:0,1:1,6:3,2:0,3:1,1:0,1:1,1:0,1:1,1:0,1:1,1:0,1:1,1:0,1:" ++
  "1,1:0,1:1,1:0,1:1,1:0,1:1,1:0,1:1,1:0,1:1,1:0,1:1,1:0,1:1,1:0,1:1,1:0,1:1,1:0,1:1,1:0,1:1,1:0,1:" ++
  "1,1:0,1:1,1:0,1:1,1:0,1:1,1:0,1:1,1:0,1:1,1:0,1:1,1:0,1:1,1:0,1:1,1:0,1:1,1:0,1:1,1:0,1:1,1:0,1:" ++
  "1,1:0,1:1,1:0,1:1,1:0,1:1,1:0,1:1,1:0,1:1,1:0,1:1,1:0,1:1,1:0,1:1,1:0,1:1,1:0,1:1,1:0,1:1,1:0,1:" ++
  "1,1:0,1:1,1:0,1:1,1:0,1:1,1:0,1:1,1:0,1:1,1:0,1:1,1:0,1:1,1:0,1:1,2:15,6:0,1:1,1:0,1:1,1:5,3:0,1" ++
  ":1,1:1d,5:11,4:a,1:11,2:1,26:1d,1:1,1:1d,5:1,1:1d,2:4,38:1d,7:3,1:11,1:1d,e:5,1:4,17:1d,9:4,7:1d" ++
  ",1:4,7:1d,1:4,7:1d,1:4,7:1d,1:4,7:1d,1:4,7:1d,1:4,7:1d,1:4,7:1d,1:5,20:11,2:f,1:10,1:f,1:10,1:11" ++
  ",3:f,1:10,1:11,1:f,1:10,1:11,9:c,1:11,2:c,1:11,1:f,1:10,1:11,2:f,1:10,1:d,1:e,1:d,1:e,1:d,1:e,1:" ++
  "d,1:e,1:11,5:3,1:11,a:c,2:11,4:c,1:11,1:d,1:11,d:15,2:11,3:d,1:e,1:d,1:e,1:d,1:e,1:d,1:e,1:c,1:1" ++
  "d,22:15,1a:1d,1:15,59:1d,c:15,d6:1d,1a:15,10:16,1:11,3:15,1:3,1:4,1:9,1:d,1:e,1:d,1:e,1:d,1:e,1:" ++
  "d,1:e,1:d,1:e,1:15,2:d,1:e,1:d,1:e,1:d,1:e,1:d,1:e,1:c,1:d,1:e,2:15,1:9,9:5,4:6,2:c,1:3,5:15,2:9" ++
  ",3:3,1:4,1:11,1:15,2:1d,1:4,56:1d,2:5,2:14,2:3,2:4,1:c,1:4,5a:11,1:3,3:4,1:1d,5:4,2b:1d,1:4,5e:1" ++
  "d,1:15,2:a,4:15,a:4,20:15,26:1d,9:15,1:4,10:15,1f:1d,1:a,a:15,1e:a,8:15,1:a,f:15,20:a,a:15,27:a," ++
  "f:15,140:4,19c0:15,40:4,5215:3,1:4,477:1d,3:15,37:1d,9:4,28:3,6:11,2:4,10c:3,1:11,3:4,10:8,a:4,2" ++
  ":1d,14:0,1:1,1:0,1:1,1:0,1:1,1:0,1:1,1:0,1:1,1:0,1:1,1:0,1:1,1:0,1:1,1:0,1:1,1:0,1:1,1:0,1:1,1:0" ++
  ",1:1,1:0,1:1,1:0,1:1,1:0,1:1,1:0,1:1,1:0,1:1,1:0,1:1,1:0,1:1,1:0,1:1,1:0,1:1,1:0,1:1,1:0,1:1,1:4" ++
  ",1:5,1:7,3:11,1:5,a:11,1:3,1:0,1:1,1:0,1:1,1:0,1:1,1:0,1:1,1:0,1:1,1:0,1:1,1:0,1:1,1:0,1:1,1:0,1" ++
  ":1,1:0,1:1,1:0,1:1,1:0,1:1,1:0,1:1,1:0,1:1,1:3,2:5,2:4,46:9,a:5,2:11,6:1d,8:14,17:3,9:14,2:0,1:1" ++
  ",1:0,1:1,1:0,1:1,1:0,1:1,1:0,1:1,1:0,1:1,1:0,1:1,3:0,1:1,1:0,1:1,1:0,1:1,1:0,1:1,1:0,1:1,1:0,1:1" ++
  ",1:0,1:1,1:0,1:1,1:0,1:1,1:0,1:1,1:0,1:1,1:0,1:1,1:0,1:1,1:0,1:1,1:0,1:1,1:0,1:1,1:0,1:1,1:0,1:1" ++
  ",1:0,1:1,1:0,1:1,1:0,1:1,1:0,1:1,1:0,1:1,1:0,1:1,1:0,1:1,1:0,1:1,1:0,1:1,1:0,1:1,1:0,1:1,1:0,1:1" ++
  ",1:0,1:1,1:3,1:1,8:0,1:1,1:0,1:1,1:0,2:1,1:0,1:1,1:0,1:1,1:0,1:1,1:0,1:1,1:3,1:14,2:0,1:1,1:0,1:" ++
  "1,1:4,1:0,1:1,1:0,1:1,3:0,1:1,1:0,1:1,1:0,1:1,1:0,1:1,1:0,1:1,1:0,1:1,1:0,1:1,1:0,1:1,1:0,1:1,1:" ++
  "0,1:1,1:0,5:1,1:0,5:1,1:0,1:1,1:0,1:1,1:0,1:1,1:0,1:1,1:0,1:1,1:0,1:1,1:0,1:1,1:0,4:1,1:0,1:1,1:" ++
  "0,2:1,1:1d,2:0,1:1,1:1d,1:1,1:1d,1:1,1:0,1:1,1:0,1:1,1:0,1:1,1:0,1:1d,15:3,3:0,1:1,1:4,1:3,2:1,1" ++
  ":4,7:5,1:4,3:5,1:4,4:5,1:4,17:6,2:5,2:6,1:15,4:5,1:1d,3:a,6:15,2:13,1:15,1:1d,6:4,34:11,4:1d,8:6" ++
  ",2:4,32:6,10:5,2:1d,8:11,2:8,a:1d,6:5,12:4,6:11,3:4,1:11,1:4,2:5,1:8,a:4,1c:5,8:11,2:4,17:5,b:6," ++
  "2:1d,b:11,1:4,1d:1d,3:5,3:6,1:4,2f:5,1:6,2:5,4:6,2:5,2:6,3:11,d:1d,1:3,1:8,a:1d,4:11,2:4,5:5,1:3" ++
  ",1:4,9:8,a:4,5:1d,1:4,29:5,6:6,2:5,2:6,2:5,2:1d,9:4,3:5,1:4,8:5,1:6,1:1d,2:8,a:1d,2:11,4:4,10:3," ++
  "1:4,6:15,3:4,1:6,1:5,1:6,1:4,32:5,1:4,1:5,3:4,2:5,2:4,5:5,2:4,1:5,1:4,1:1d,18:4,2:3,1:11,2:4,b:6" ++
  ",1:5,2:6,2:11,2:4,1:3,2:6,1:5,1:1d,a:4,6:1d,2:4,6:1d,2:4,6:1d,9:4,7:1d,1:4,7:1d,1:1,2b:14,1:3,4:" ++
  "1,9:3,1:14,2:1d,4:1,50:4,23:6,2:5,1:6,2:5,1:6,2:11,1:6,1:5,1:1d,2:8,a:1d,6:4,2ba4:1d,c:4,17:1d,4" ++
  ":4,31:1d,4:1b,800:1c,1900:4,16e:1d,2:4,6a:1d,26:1,7:1d,c:1,5:1d,5:4,1:5,1:4,a:12,1:4,d:1d,1:4,5:" ++
  "1d,1:4,1:1d,1:4,2:1d,1:4,2:1d,1:4,6c:14,11:1d,10:4,16b:e,1:d,1:15,10:4,40:1d,2:4,36:1d,7:15,1:1d" ++
  ",20:4,c:13,1:15,3:5,10:11,7:d,1:e,1:11,1:1d,6:5,10:11,1:c,2:b,2:d,1:e,1:d,1:e,1:d,1:e,1:d,1:e,1:" ++
  "d,1:e,1:d,1:e,1:d,1:e,1:d,1:e,1:11,2:d,1:e,1:11,4:b,3:11,3:1d,1:11,4:c,1:d,1:e,1:d,1:e,1:d,1:e,1" ++
  ":11,3:12,1:c,1:12,3:1d,1:11,1:13,1:11,2:1d,4:4,5:1d,1:4,87:1d,2:1a,1:1d,1:11,3:13,1:11,3:d,1:e,1" ++
  ":11,1:12,1:11,1:c,1:11,2:8,a:11,2:12,3:11,2:0,1a:d,1:11,1:e,1:14,1:b,1:14,1:1,1a:d,1:12,1:e,1:12" ++
  ",1:d,1:e,1:11,1:d,1:e,1:11,2:4,a:3,1:4,2d:3,2:4,1f:1d,3:4,6:1d,2:4,6:1d,2:4,6:1d,2:4,3:1d,3:13,2" ++
  ":12,1:14,1:15,1:13,2:1d,1:15,1:12,4:15,2:1d,a:1a,3:15,2:1d,2:4,c:1d,1:4,1a:1d,1:4,13:1d,1:4,2:1d" ++
  ",1:4,f:1d,2:4,e:1d,22:4,7b:1d,5:11,3:1d,4:a,2d:1d,3:15,9:9,35:a,4:15,11:a,2:15,3:1d,1:15,d:1d,3:" ++
  "15,1:1d,2f:15,2d:5,1:1d,82:4,1d:1d,3:4,31:1d,f:5,1:a,1b:1d,4:4,20:a,4:1d,9:4,14:9,1:4,8:9,1:1d,5" ++
  ":4,26:5,5:1d,5:4,1e:1d,1:11,1:4,24:1d,4:4,8:11,1:9,5:1d,2a:0,28:1,28:4,4e:1d,2:8,a:1d,6:0,24:1d," ++
  "4:1,24:1d,4:4,28:1d,8:4,34:1d,b:11,1:0,b:1d,1:0,f:1d,1:0,7:1d,1:0,2:1d,1:1,b:1d,1:1,f:1d,1:1,7:1" ++
  "d,1:1,2:1d,3:4,34:1d,c:4,137:1d,9:4,16:1d,a:4,8:1d,18:3,6:1d,1:3,2a:1d,1:3,9:1d,45:4,6:1d,2:4,1:" ++
  "1d,1:4,2c:1d,1:4,2:1d,3:4,1:1d,2:4,17:1d,1:11,1:a,8:4,17:15,2:a,7:4,1f:1d,8:a,9:1d,30:4,13:1d,1:" ++
  "4,2:1d,5:a,5:4,16:a,6:1d,3:11,1:4,1a:1d,5:11,1:1d,40:4,38:1d,4:a,2:4,2:a,10:1d,2:a,2e:4,1:5,3:1d" ++
  ",1:5,2:1d,5:5,4:4,4:1d,1:4,3:1d,1:4,1d:1d,2:5,3:1d,4:5,1:a,9:1d,7:11,9:1d,7:4,1d:a,2:11,1:4,1d:a" ++
  ",3:1d,20:4,8:15,1:4,1c:5,2:1d,4:a,5:11,7:1d,9:4,36:1d,3:11,7:4,16:1d,2:a,8:4,13:1d,5:a,8:4,12:1d" ++
  ",7:11,4:1d,c:a,7:1d,50:4,49:1d,37:0,33:1d,d:1,33:1d,7:a,6:4,24:5,4:1d,8:8,a:1d,6:8,a:4,4:3,1:4,1" ++
  ":0,16:1d,3:5,5:c,1:3,1:1,16:1d,8:12,2:1d,d0:a,1f:1d,1:4,2a:1d,1:5,2:c,1:1d,2:4,2:1d,10:4,3:1d,37" ++
  ":5,4:4,1d:a,a:4,1:1d,8:4,16:5,b:a,4:11,5:1d,16:4,12:5,4:11,4:1d,26:4,15:a,7:1d,14:4,17:1d,9:6,1:" ++
  "5,1:6,1:4,35:5,f:11,7:1d,4:a,14:8,a:5,1:4,2:5,2:4,1:1d,9:5,3:6,1:4,2d:6,3:5,4:6,2:5,2:11,2:1a,1:" ++
  "11,4:5,1:1d,a:1a,1:1d,2:4,19:1d,7:8,a:1d,6:5,3:4,24:5,5:6,1:5,8:1d,1:8,a:11,4:4,1:6,2:4,1:1d,8:4" ++
  ",23:5,1:11,2:4,1:1d,9:5,2:6,1:4,30:6,3:5,9:6,2:4,4:11,4:5,4:11,1:6,1:5,1:8,a:4,1:11,1:4,1:11,3:1" ++
  "d,1:a,14:1d,b:4,12:1d,1:4,19:6,3:5,3:6,2:5,1:6,1:5,2:11,6:5,1:4,2:5,1:1d,3e:4,7:1d,1:4,1:1d,1:4," ++
  "4:1d,1:4,f:1d,1:4,a:11,1:1d,6:4,2f:5,1:6,3:5,8:1d,5:8,a:1d,6:5,2:6,2:1d,1:4,8:1d,2:4,2:1d,2:4,16" ++
  ":1d,1:4,7:1d,1:4,2:1d,1:4,5:1d,1:5,2:4,1:6,2:5,1:6,4:1d,2:6,2:1d,2:6,3:1d,2:4,1:1d,6:6,1:1d,5:4," ++
  "5:6,2:1d,2:5,7:1d,3:5,5:1d,b:4,a:1d,1:4,1:1d,2:4,1:1d,1:4,26:1d,1:4,1:6,3:5,6:1d,1:6,1:1d,2:6,1:" ++
  "1d,1:6,4:1d,1:6,2:5,1:6,1:5,1:4,1:5,1:4,1:11,2:1d,1:11,2:1d,8:5,2:1d,1d:4,35:6,3:5,8:6,2:5,3:6,1" ++
  ":5,1:4,4:11,5:8,a:11,2:1d,1:11,1:5,1:4,3:1d,1e:4,30:6,3:5,6:6,1:5,1:6,4:5,2:6,1:5,2:4,2:11,1:4,1" ++
  ":1d,8:8,a:1d,a6:4,2f:6,3:5,4:1d,2:6,4:5,2:6,1:5,2:11,17:4,4:5,2:1d,22:4,30:6,3:5,8:6,2:5,1:6,1:5" ++
  ",2:11,3:4,1:1d,b:8,a:1d,6:11,d:1d,13:4,2b:5,1:6,1:5,1:6,2:5,6:6,1:5,1:4,1:11,1:1d,6:8,a:1d,6:8,1" ++
  "4:1d,1c:4,1b:1d,2:5,1:6,1:5,1:6,2:5,4:6,1:5,5:1d,4:8,a:a,2:11,3:15,1:4,7:1d,b9:4,2c:6,3:5,9:6,1:" ++
  "5,2:11,1:1d,64:0,20:1,20:8,a:a,9:1d,c:4,8:1d,2:4,1:1d,2:4,8:1d,1:4,2:1d,1:4,18:6,6:1d,1:6,2:1d,2" ++
  ":5,2:6,1:5,1:4,1:6,1:4,1:6,1:5,1:11,3:1d,9:8,a:1d,46:4,8:1d,2:4,27:6,3:5,4:1d,2:5,2:6,4:5,1:4,1:" ++
  "11,1:4,1:6,1:1d,1b:4,1:5,a:4,28:5,6:6,1:4,1:5,4:11,8:5,1:1d,8:4,1:5,6:6,2:5,3:4,2e:5,d:6,1:5,2:1" ++
  "1,3:4,1:11,5:1d,d:4,49:1d,7:11,a:1d,b6:4,21:11,1:1d,e:8,a:1d,6:4,9:1d,1:4,25:6,1:5,7:1d,1:5,6:6," ++
  "1:5,1:4,1:11,5:1d,a:8,a:a,13:1d,3:11,2:4,1e:1d,2:5,16:1d,1:6,1:5,7:6,1:5,2:6,1:5,2:1d,49:4,7:1d," ++
  "1:4,2:1d,1:4,26:5,6:1d,3:5,1:1d,1:5,2:1d,1:5,7:4,1:5,1:1d,8:8,a:1d,6:4,6:1d,1:4,2:1d,1:4,20:6,5:" ++
  "1d,1:5,2:1d,1:6,2:5,1:6,1:5,1:4,1:1d,7:8,a:1d,136:4,13:5,2:6,2:11,2:1d,7:5,2:4,1:6,1:4,d:1d,1:4," ++
  "22:6,2:5,5:1d,3:6,2:5,1:6,1:5,1:11,d:8,a:5,1:1d,55:4,1:1d,f:a,15:15,8:13,4:15,11:1d,d:11,1:4,39a" ++
  ":1d,66:9,6f:1d,1:11,5:1d,b:4,c4:1d,a4c:4,61:11,2:1d,d:4,430:1a,10:5,1:4,6:5,f:1d,a:4,f9b:1d,5:4," ++
  "247:1d,1ab9:4,1e:5,c:6,3:5,3:8,a:1d,6c6:4,239:1d,7:4,1f:1d,1:8,a:1d,4:11,2:4,4f:1d,1:8,a:1d,6:4," ++
  "1e:1d,2:5,5:11,1:1d,a:4,30:5,7:11,5:15,4:3,4:11,1:15,1:1d,a:8,a:1d,1:a,7:1d,1:4,15:1d,5:4,13:1d," ++
  "1b0:3,3:4,28:3,2:11,3:8,a:1d,c6:0,20:1,20:a,17:11,4:1d,65:4,4b:1d,4:5,1:4,1:6,37:1d,7:5,4:3,d:1d" ++
  ",40:3,2:11,1:3,1:5,1:1d,b:6,2:1d,e:4,17f8:1d,8:4,4d6:1d,29:4,a:1d,22e7:3,4:1d,1:3,7:1d,1:3,2:1d," ++
  "1:4,123:1d,f:4,1:1d,1d:4,3:1d,2:4,1:1d,e:4,4:1d,8:4,18c:1d,904:4,6b:1d,5:4,d:1d,3:4,9:1d,7:4,a:1" ++
  "d,2:15,1:5,2:11,1:1a,4:1d,f5c:15,f0:8,a:1d,6:15,1b4:1d,4c:5,2e:1d,2:5,17:1d,9:15,74:1d,3c:15,f6:" ++
  "1d,a:15,27:1d,2:15,3c:6,2:5,3:15,3:6,6:1a,8:5,8:15,2:5,7:15,1e:5,4:15,3d:1d,15:15,42:5,3:15,1:1d" ++
  ",7a:a,14:1d,c:a,14:1d,c:15,57:1d,9:a,19:1d,87:0,1a:1,1a:0,1a:1,7:1d,1:1,12:0,1a:1,1a:0,1:1d,1:0," ++
  "2:1d,2:0,1:1d,2:0,2:1d,2:0,4:1d,1:0,8:1,4:1d,1:1,1:1d,1:1,7:1d,1:1,b:0,1a:1,1a:0,2:1d,1:0,4:1d,2" ++
  ":0,8:1d,1:0,7:1d,1:1,1a:0,2:1d,1:0,4:1d,1:0,5:1d,1:0,1:1d,3:0,7:1d,1:1,1a:0,1a:1,1a:0,1a:1,1a:0," ++
  "1a:1,1a:0,1a:1,1a:0,1a:1,1a:0,1a:1,1c:1d,2:0,19:12,1:1,19:12,1:1,6:0,19:12,1:1,19:12,1:1,6:0,19:" ++
  "12,1:1,19:12,1:1,6:0,19:12,1:1,19:12,1:1,6:0,19:12,1:1,19:12,1:1,6:0,1:1,1:1d,2:8,32:15,200:5,37" ++
  ":15,4:5,32:15,8:5,1:15,e:5,1:15,2:11,5:1d,f:5,5:1d,1:5,f:1d,450:1,a:4,1:1,14:1d,6:1,6:1d,d5:5,7:" ++
  "1d,1:5,11:1d,2:5,7:1d,1:5,2:1d,1:5,5:1d,5:3,3e:1d,21:5,1:1d,70:4,2d:1d,3:5,7:3,7:1d,2:8,a:1d,4:4" ++
  ",1:15,1:1d,140:4,1e:5,1:1d,11:4,2c:5,4:8,a:1d,5:13,1:1d,1d0:4,1b:3,1:5,4:8,a:1d,d6:4,1e:5,2:4,1:" ++
  "8,a:1d,4:11,1:1d,1e0:4,7:1d,1:4,4:1d,1:4,2:1d,1:4,f:1d,1:4,c5:1d,2:a,9:5,7:1d,29:0,22:1,22:5,7:3" ++
  ",1:1d,4:8,a:1d,4:11,2:1d,311:a,3b:15,1:a,3:13,1:a,4:1d,4c:a,2d:15,1:a,f:1d,c2:4,4:1d,1:4,1b:1d,1" ++
  ":4,2:1d,1:4,1:1d,2:4,1:1d,1:4,a:1d,1:4,4:1d,1:4,1:1d,1:4,1:1d,6:4,1:1d,4:4,1:1d,1:4,1:1d,1:4,1:1" ++
  "d,1:4,3:1d,1:4,2:1d,1:4,1:1d,2:4,1:1d,1:4,1:1d,1:4,1:1d,1:4,1:1d,1:4,1:1d,1:4,2:1d,1:4,1:1d,2:4," ++
  "4:1d,1:4,7:1d,1:4,4:1d,1:4,4:1d,1:4,1:1d,1:4,a:1d,1:4,11:1d,5:4,3:1d,1:4,5:1d,1:4,11:1d,34:12,2:" ++
  "1d,10e:15,2c:1d,4:15,64:1d,c:15,f:1d,2:15,f:1d,1:15,f:1d,1:15,25:1d,a:a,d:15,a1:1d,38:15,1d:1d,d" ++
  ":15,2c:1d,4:15,9:1d,7:15,2:1d,e:15,6:1d,9a:15,fb:14,5:15,2d8:1d,4:15,11:1d,3:15,d:1d,3:15,77:1d," ++
  "4:15,5f:1d,6:15,c:1d,4:15,1:1d,f:15,c:1d,4:15,38:1d,8:15,a:1d,6:15,28:1d,8:15,1e:1d,2:15,c:1d,4:" ++
  "15,2:1d,3e:15,154:1d,c:15,e:1d,2:15,d:1d,3:15,a:1d,5:15,38:1d,7:15,f:1d,2:15,b:1d,6:15,9:1d,7:15" ++
  ",93:1d,1:15,5c:8,a:1d,406:4,a6e0:1d,20:4,103a:1d,6:4,de:1d,2:4,1682:1d,e:4,1d31:1d,f:4,26e:1d,9a" ++
  "2:4,21e:1d,5e2:4,134b:1d,5:4,1060:1d,adc51:1a,1:1d,1e:1a,60:1d,80:5,f0:1d,fe10:1c,fffe:1d,2:1c,f" ++
  "ffe:1d,"

/-- The category map of all code points. -/
def categoryMap : InversionMap GeneralCategory :=
  InversionMap.decode GeneralCategory.all .unassigned categoryText

/-- Names of categories and category groups: the loose aliases, the categories, and whether the
category data lists a set for it. -/
def categoryNames : List (List String × List GeneralCategory × Bool) := [
  (["casedletter", "lc"], [.uppercaseLetter, .lowercaseLetter, .titlecaseLetter], true),
  (["closepunctuation", "pe"], [.closePunctuation], true),
  (["connectorpunctuation", "pc"], [.connectorPunctuation], true),
  (["control", "cc", "cntrl"], [.control], true),
  (["currencysymbol", "sc"], [.currencySymbol], true),
  (["dashpunctuation", "pd"], [.dashPunctuation], true),
  (["decimalnumber", "digit", "nd"], [.decimalNumber], true),
  (["enclosingmark", "me"], [.enclosingMark], true),
  (["finalpunctuation", "pf"], [.finalPunctuation], true),
  (["format", "cf"], [.format], true),
  (["initialpunctuation", "pi"], [.initialPunctuation], true),
  (["letter", "l"], [.uppercaseLetter, .lowercaseLetter, .titlecaseLetter, .modifierLetter, .otherLetter], true),
  (["letternumber", "nl"], [.letterNumber], true),
  (["lineseparator", "zl"], [.lineSeparator], true),
  (["lowercaseletter", "ll"], [.lowercaseLetter], true),
  (["mark", "combiningmark", "m"], [.nonspacingMark, .spacingMark, .enclosingMark], true),
  (["mathsymbol", "sm"], [.mathSymbol], true),
  (["modifierletter", "lm"], [.modifierLetter], true),
  (["modifiersymbol", "sk"], [.modifierSymbol], true),
  (["nonspacingmark", "mn"], [.nonspacingMark], true),
  (["number", "n"], [.decimalNumber, .letterNumber, .otherNumber], true),
  (["openpunctuation", "ps"], [.openPunctuation], true),
  (["other", "c"], [.control, .format, .surrogate, .privateUse, .unassigned], true),
  (["otherletter", "lo"], [.otherLetter], true),
  (["othernumber", "no"], [.otherNumber], true),
  (["otherpunctuation", "po"], [.otherPunctuation], true),
  (["othersymbol", "so"], [.otherSymbol], true),
  (["paragraphseparator", "zp"], [.paragraphSeparator], true),
  (["privateuse", "co"], [.privateUse], true),
  (["punctuation", "p", "punct"], [.connectorPunctuation, .dashPunctuation, .openPunctuation, .closePunctuation, .initialPunctuation, .finalPunctuation, .otherPunctuation], true),
  (["separator", "z"], [.spaceSeparator, .lineSeparator, .paragraphSeparator], true),
  (["spaceseparator", "zs"], [.spaceSeparator], true),
  (["spacingmark", "mc"], [.spacingMark], true),
  (["surrogate", "cs"], [.surrogate], false),
  (["symbol", "s"], [.mathSymbol, .currencySymbol, .modifierSymbol, .otherSymbol], true),
  (["titlecaseletter", "lt"], [.titlecaseLetter], true),
  (["unassigned", "cn"], [.unassigned], true),
  (["uppercaseletter", "lu"], [.uppercaseLetter], true)]

end TableMachine.Regex.Ucd
