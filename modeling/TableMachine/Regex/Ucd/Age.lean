import TableMachine.Unicode.Table

/-!
# Ages of code points

The version of Unicode in which each code point was assigned, up to 16.0, kept by runs as
indices into `ageNames` counted from 1 (0 for code points not yet assigned). Each version is
listed with its loose aliases, such as `6.0` and `v60`.
-/

namespace TableMachine.Regex.Ucd

open TableMachine.Unicode

/-- Every version: its name and its aliases in loose form, oldest first. -/
def ageNames : Array (String × List String) := #[
  ("V1_1", ["1.1", "v11"]),
  ("V2_0", ["2.0", "v20"]),
  ("V2_1", ["2.1", "v21"]),
  ("V3_0", ["3.0", "v30"]),
  ("V3_1", ["3.1", "v31"]),
  ("V3_2", ["3.2", "v32"]),
  ("V4_0", ["4.0", "v40"]),
  ("V4_1", ["4.1", "v41"]),
  ("V5_0", ["5.0", "v50"]),
  ("V5_1", ["5.1", "v51"]),
  ("V5_2", ["5.2", "v52"]),
  ("V6_0", ["6.0", "v60"]),
  ("V6_1", ["6.1", "v61"]),
  ("V6_2", ["6.2", "v62"]),
  ("V6_3", ["6.3", "v63"]),
  ("V7_0", ["7.0", "v70"]),
  ("V8_0", ["8.0", "v80"]),
  ("V9_0", ["9.0", "v90"]),
  ("V10_0", ["10.0", "v100"]),
  ("V11_0", ["11.0", "v110"]),
  ("V12_0", ["12.0", "v120"]),
  ("V12_1", ["12.1", "v121"]),
  ("V13_0", ["13.0", "v130"]),
  ("V14_0", ["14.0", "v140"]),
  ("V15_0", ["15.0", "v150"]),
  ("V15_1", ["15.1", "v151"]),
  ("V16_0", ["16.0", "v160"])]

/-- Runs of the age map, as `difference:version,` entries. -/
def ageText : String :=
  "0:1,1f6:4,4:1,1e:4,8:6,1:7,1:4,12:7,3:8,b:9,e:1,59:4,5:7,2:1,2f:4,1:1,a:4,5:7,11:1,46:4,9:6,1:7," ++
  "8:8,5:7,3:1,2:4,1:6,d:a,4:1,2:a,2:0,2:1,1:9,3:1,1:10,1:0,4:1,7:0,1:1,1:0,1:1,14:0,1:1,2c:a,1:1,7" ++
  ":4,1:6,2:1,1:4,1:1,1:4,1:1,1:4,1:1,1:4,1:1,12:5,2:6,1:7,5:8,4:4,1:1,c:4,1:1,42:4,1:1,c:4,1:1,29:" ++
  "a,1:4,2:6,2:4,4:1,35:6,2:1,2:6,2:1,2:6,2:9,1:1,1c:4,2:1,8:8,2:1,2:9,6:6,10:9,4:a,10:b,2:c,2:10,8" ++
  ":0,1:1,26:0,2:1,7:14,1:1,27:14,1:1,1:4,1:0,2:10,2:d,1:0,1:2,11:8,1:2,d:1,a:9,1:1,9:2,1:8,3:0,8:1" ++
  ",1b:0,4:14,1:1,5:0,b:7,4:d,1:10,1:a,5:8,1:1,1:7,9:a,5:1,1:f,1:18,1:8,1:1,1:c,1:1,1a:a,5:1,13:4,3" ++
  ":7,3:8,6:c,1:1,e:6,2:1,48:4,2:1,5:4,1:1,f:4,1:1,1e:7,2:1,a:4,5:7,1:4,e:0,1:4,1e:7,3:4,1b:0,2:7,3" ++
  ":8,1e:a,12:4,31:6,1:0,e:9,3b:0,2:14,3:b,2e:0,2:b,f:0,1:c,1c:0,2:c,1:0,1:13,b:0,5:18,1f:0,1:18,2:" ++
  "0,5:1b,1:18,8:d,1:10,1:d,b:10,6:11,2:18,1:12,8:17,a:18,b:14,1:12,f:11,1:d,1b:10,1:b,1:1,3:7,1:1," ++
  "35:c,2:1,12:b,1:c,1:1,5:b,1:c,2:1,19:a,2:c,5:10,1:b,2:9,2:8,1:9,2:10,1:1,3:0,1:1,8:0,2:1,2:0,2:1" ++
  ",16:0,1:1,7:0,1:1,1:0,3:1,4:0,2:1,1:7,1:1,7:0,2:1,2:0,2:1,3:8,1:0,8:1,1:0,4:1,2:0,1:1,5:0,2:1,15" ++
  ":b,1:13,2:14,1:0,2:7,1:1,1:7,1:0,1:1,6:0,4:1,2:0,2:1,16:0,1:1,7:0,1:1,2:0,1:1,2:0,1:1,2:0,2:1,1:" ++
  "0,1:1,5:0,4:1,2:0,2:1,3:0,3:a,1:0,7:1,4:0,1:1,1:0,7:1,f:a,1:14,1:0,a:1,3:0,1:1,7:7,1:1,1:0,1:1,3" ++
  ":0,1:1,16:0,1:1,7:0,1:1,2:0,1:1,5:0,2:1,a:0,1:1,3:0,1:1,3:0,2:1,1:0,f:1,1:7,3:0,2:1,a:d,1:7,1:0," ++
  "7:11,1:13,6:0,1:1,3:0,1:1,8:0,2:1,2:0,2:1,16:0,1:1,7:0,1:1,2:0,1:7,1:1,4:0,2:1,8:a,1:0,2:1,2:0,2" ++
  ":1,3:0,7:17,1:1,2:0,4:1,2:0,1:1,3:a,2:0,2:1,b:7,1:c,6:0,a:1,2:0,1:1,6:0,3:1,3:0,1:1,4:0,3:1,2:0," ++
  "1:1,1:0,1:1,2:0,3:1,2:0,3:1,3:0,3:1,8:8,1:1,3:0,4:1,5:0,3:1,3:0,1:1,4:0,2:a,1:0,6:1,1:0,e:8,1:1," ++
  "c:7,8:0,5:10,1:1,3:14,1:1,8:0,1:1,3:0,1:1,17:0,1:1,a:10,1:1,5:0,2:18,1:a,1:1,7:0,1:1,3:0,1:1,4:0" ++
  ",7:1,2:0,1:a,2:11,1:0,2:18,1:0,2:1,2:a,2:0,2:1,a:0,7:15,1:a,8:12,1:10,1:1,2:14,1:1,8:0,1:1,3:0,1" ++
  ":1,17:0,1:1,a:0,1:1,5:0,2:7,2:1,7:0,1:1,3:0,1:1,4:0,7:1,2:0,6:18,1:1,1:0,1:1,2:9,2:0,2:1,a:0,1:9" ++
  ",2:19,1:0,c:13,1:10,1:1,2:17,1:1,8:0,1:1,3:0,1:1,17:c,1:1,10:c,1:13,2:a,1:1,6:a,1:0,1:1,3:0,1:1," ++
  "4:c,1:12,1:0,4:12,3:1,1:12,7:11,1:1,2:a,2:0,2:1,a:a,6:12,3:a,7:0,1:17,1:4,2:0,1:4,12:0,3:4,18:0," ++
  "1:4,9:0,1:4,1:0,2:4,7:0,3:4,1:0,4:4,6:0,1:4,1:0,1:4,8:0,6:10,a:0,2:4,3:0,c:1,3a:0,4:1,1d:0,25:1," ++
  "2:0,1:1,1:0,1:15,1:1,2:15,1:1,1:0,1:15,1:1,1:15,6:1,4:15,1:1,7:15,1:1,3:0,1:1,1:0,1:1,1:15,2:1,2" ++
  ":15,1:1,d:15,1:1,3:0,2:1,5:0,1:1,1:0,1:1,6:19,1:0,1:1,a:0,2:1,2:d,2:0,20:2,48:0,1:2,21:4,1:a,2:0" ++
  ",4:2,1b:c,4:2,6:4,1:2,1:0,1:2,15:4,3:2,7:4,1:2,1:4,3:0,1:4,f:0,1:a,1:4,1:8,2:a,3:b,4:c,2:0,25:4," ++
  "22:a,1:4,5:a,1:4,2:a,1:4,7:a,3:4,4:a,6:4,1a:a,40:b,4:a,2:1,26:0,1:d,1:0,5:d,1:0,2:1,27:6,2:8,2:1" ++
  ",1:8,1:d,3:1,5a:b,5:1,44:b,5:1,52:b,6:4,7:8,1:4,3f:8,1:4,1:0,1:4,4:0,2:4,7:0,1:4,1:0,1:4,4:0,2:4" ++
  ",27:8,1:4,1:0,1:4,4:0,2:4,1f:8,1:4,1:0,1:4,4:0,2:4,7:0,1:4,1:0,1:4,4:0,2:4,7:8,1:4,7:0,1:4,17:8," ++
  "1:4,1f:8,1:4,1:0,1:4,4:0,2:4,7:8,1:4,27:8,1:4,13:0,2:c,2:8,2:4,1c:0,3:8,1a:0,6:4,55:11,1:0,2:11," ++
  "6:0,2:b,1:4,276:b,9:4,1d:0,3:4,51:10,8:0,7:6,d:18,1:6,7:18,1:0,9:18,1:6,17:0,9:6,14:0,c:6,d:0,1:" ++
  "6,3:0,1:6,2:0,c:4,5d:7,1:0,2:4,a:0,6:7,a:0,6:4,f:18,1:4,a:0,6:4,58:14,1:0,7:4,2a:a,1:0,5:b,46:0," ++
  "a:7,1d:10,2:0,1:7,c:0,4:7,c:0,4:7,1:0,3:7,2a:0,2:7,5:0,b:8,2a:b,2:0,4:8,1a:0,6:8,a:b,1:0,3:8,2:7" ++
  ",20:8,1c:0,2:8,2:b,3f:0,1:b,1d:0,2:b,b:0,6:b,a:0,6:b,e:0,2:10,f:17,2:18,e:0,31:9,4c:18,1:0,1:1b," ++
  "2:9,2d:18,2:1b,1:a,2b:d,3:a,c:d,6:c,34:0,8:c,4:a,38:0,3:a,f:0,3:a,33:12,9:1b,2:0,5:14,2b:0,2:14," ++
  "3:d,8:0,8:b,23:d,4:13,1:10,2:15,1:0,5:7,6c:8,58:9,7:a,1c:10,f:13,4:18,1:12,1:c,1:b,1:9,2:1,9b:2," ++
  "1:a,4:1,5a:a,6:1,16:0,2:1,6:0,2:1,26:0,2:1,6:0,2:1,8:0,1:1,1:0,1:1,1:0,1:1,1:0,1:1,1f:0,2:1,35:0" ++
  ",1:1,f:0,1:1,e:0,2:1,6:0,1:1,13:0,2:1,3:0,1:1,9:0,1:1,2f:4,1:1,17:6,1:4,6:6,5:7,2:8,2:6,1:8,7:6," ++
  "5:a,1:0,1:f,4:1,7:6,1:0,2:1,1b:0,1:8,5:c,8:0,3:1,b:2,1:3,1:4,3:6,2:8,4:b,3:c,1:e,1:10,3:11,1:13," ++
  "1:18,1:0,f:1,12:4,2:6,7:8,1:9,4:a,1:0,f:1,39:4,2:7,1:8,1:6,f:8,1:9,2:a,1:b,3:1,30:4,1:9,1:a,4:b," ++
  "1:11,2:0,4:1,5b:4,9:6,c:1,f2:6,e:1,1:4,1:1,79:4,1:6,1:4,1e:6,34:7,2:8,b:9,c:b,1:c,b:10,7:12,4:13" ++
  ",1:1,25:4,2:1b,3:0,16:1,b:0,15:1,8b:6,14:7,1:1,96:6,a:1,50:4,8:6,8:1,14:7,2:6,2:8,1:4,1:1,56:4,2" ++
  ":6,c:8,2:6,a:7,8:8,b:a,1:b,2:7,2:8,10:9,1:a,a:b,3:a,4:b,a:c,1:b,13:c,1:b,1:c,4:b,18:10,1:1,4:c,1" ++
  ":1,4:c,2:1,1c:c,1:1,23:c,1:1,1:c,1:1,4:c,3:1,1:b,1:1,7:c,2:1,7:6,e:1,1f:c,3:1,18:c,1:1,e:c,1:8,7" ++
  ":9,4:d,1:a,1:d,1:c,2:6,1c:a,4:6,10:4,100:6,200:7,e:8,6:9,7:a,5:9,4:a,29:10,3:a,5:b,5:10,1a:0,2:1" ++
  "0,20:0,1:17,1:10,22:14,3:10,c:15,1:10,8:13,1:14,19:11,4:14,f:15,1:8,2f:18,1:8,2f:18,1:9,d:a,3:b," ++
  "1:a,3:9,4:a,6:b,2:8,6b:b,7:d,2:0,5:8,2d:0,1:d,1:0,5:d,1:0,2:8,36:d,2:0,7:8,1:c,1:0,e:c,1:8,17:0," ++
  "9:8,7:0,1:8,7:0,1:8,7:0,1:8,7:0,1:8,7:0,1:8,7:0,1:8,7:0,1:8,7:0,1:a,20:8,18:a,4:8,2:a,13:b,1:d,a" ++
  ":10,7:12,2:13,5:14,5:15,1:17,3:18,b:0,22:4,1a:0,1:4,59:0,c:4,d6:0,1a:4,c:1a,4:1,38:4,3:6,3:4,1:1" ++
  ",1:0,1:1,54:6,2:0,2:1,6:6,2:1,5e:6,1:0,5:1,28:a,1:13,1:14,1:0,1:1,5e:0,1:1,10:4,18:c,3:17,5:8,10" ++
  ":a,14:1b,2:0,9:1a,1:6,10:1,1d:7,2:0,1:1,24:b,c:7,1:6,f:1,1c:7,2:8,1:1,32:6,f:1,c:7,4:1,2f:16,1:1" ++
  ",77:7,4:1,63:7,2:1,1f:7,1:4,19b6:17,a:7,40:1,51a6:8,16:a,8:b,8:d,1:11,9:13,15:14,5:17,d:18,3:4,4" ++
  "8d:0,3:4,12:6,2:4,10:6,1:4,c:6,1:4,3:6,1:4,1:0,9:b,30:a,12c:0,14:a,20:c,2:a,12:d,8:a,1c:10,6:11," ++
  "1:d,1:b,58:0,8:8,17:9,4:a,5:9,2:a,6b:c,2:11,1:c,2:d,2:10,c:c,a:d,1:10,3:12,1:14,1:10,2:11,6:14,2" ++
  ":15,6:18,2:15,5:17,4:1b,3:0,2:18,2:0,1:18,1:0,1:18,5:1b,3:0,15:18,3:17,2:10,1:d,2:c,1:a,5:8,2c:1" ++
  "7,1:0,3:b,a:0,6:9,38:0,8:a,45:12,1:0,8:a,c:0,6:b,1c:11,2:14,2:a,54:0,b:a,1:b,1d:0,3:b,4e:0,1:b,b" ++
  ":0,4:b,2:10,1f:0,1:a,37:0,9:a,e:0,2:a,a:0,2:a,4:b,1c:10,4:b,43:0,18:b,5:d,17:0,a:c,6:0,2:c,6:0,2" ++
  ":c,6:0,9:c,7:0,1:c,7:0,1:10,30:11,4:10,2:15,2:17,4:0,4:11,50:b,2e:0,2:b,a:0,6:2,2ba4:0,c:b,17:0," ++
  "4:b,31:0,804:1,1a2e:d,2:6,3b:b,3:0,2:8,6a:0,26:1,7:0,c:1,5:0,5:4,1:1,19:0,1:1,5:0,1:1,1:0,1:1,2:" ++
  "0,1:1,2:0,1:1,6c:c,10:18,1:0,10:1,16d:18,10:1,40:0,2:1,36:0,7:18,1:5,20:1,c:6,1:7,1:18,2:6,10:8," ++
  "a:0,6:1,4:a,3:10,7:11,2:1,15:6,2:7,2:1,a:0,1:1,13:0,1:1,4:0,4:1,3:6,1:1,1:0,1:1,87:0,2:1,1:0,1:1" ++
  ",5e:6,2:1,5e:0,3:1,6:0,2:1,6:0,2:1,6:0,2:1,3:0,3:1,7:0,1:1,7:0,a:4,3:3,1:1,3:7,c:0,1:7,1a:0,1:7," ++
  "13:0,1:7,2:0,1:7,f:0,2:7,e:0,22:7,7b:0,5:7,3:0,4:7,2d:0,3:7,9:8,4b:10,2:12,2:0,1:a,c:17,1:0,3:10" ++
  ",1:0,2f:a,2e:0,82:a,1d:0,3:a,31:0,f:10,1c:0,4:5,1f:10,1:5,4:0,9:13,3:5,1b:0,5:10,2b:0,5:7,1e:0,1" ++
  ":7,1:8,24:0,4:8,e:0,2a:5,26:7,2:5,26:7,50:0,2:7,a:0,6:12,24:0,4:12,24:0,4:10,28:0,8:10,34:0,b:10" ++
  ",1:18,b:0,1:18,f:0,1:18,7:0,1:18,2:0,1:18,b:0,1:18,f:0,1:18,7:0,1:18,2:0,3:1b,34:0,c:10,137:0,9:" ++
  "10,16:0,a:10,8:0,18:18,6:0,1:18,2a:0,1:18,9:0,45:7,6:0,2:7,1:0,1:7,2c:0,1:7,2:0,3:7,1:0,2:7,1:b," ++
  "16:0,1:b,9:10,3f:0,8:10,9:0,30:11,13:0,1:11,2:0,5:11,5:9,1a:b,2:0,3:9,1:a,1a:0,5:a,1:0,40:d,38:0" ++
  ",4:11,2:d,2:11,10:0,2:11,2e:8,4:0,1:8,2:0,5:8,8:0,1:8,3:0,1:8,1b:14,2:0,2:8,3:0,4:8,9:14,1:0,7:8" ++
  ",9:0,7:b,20:10,20:0,20:10,27:0,4:10,c:0,9:b,36:0,3:b,1d:0,2:b,1b:0,5:b,8:10,12:0,7:10,4:0,c:10,7" ++
  ":0,50:b,49:0,37:11,33:0,d:11,33:0,7:11,6:14,28:0,8:14,a:0,6:1b,26:0,3:1b,1d:0,8:1b,2:0,d0:b,1f:0" ++
  ",1:17,2a:0,1:17,3:0,2:17,2:0,10:1b,3:0,37:1b,1:19,3:14,28:0,8:14,2a:0,16:18,1a:0,26:17,1c:0,14:1" ++
  "5,17:0,9:c,4e:0,4:c,1e:18,6:0,9:10,1:b,42:18,1:0,a:14,1:0,2:d,19:0,7:d,a:0,6:d,35:0,1:d,e:14,3:1" ++
  "7,1:0,8:10,27:0,9:d,49:11,4:10,1:17,2:d,a:10,1:11,5:0,1:10,14:0,b:10,12:0,1:10,2b:12,1:19,3:0,3e" ++
  ":11,7:0,1:11,1:0,1:11,4:0,1:11,f:0,1:11,b:0,6:10,3b:0,5:10,a:0,6:11,1:10,3:0,1:10,8:0,2:10,2:0,2" ++
  ":10,16:0,1:10,7:0,1:10,2:0,1:10,5:0,1:14,1:10,9:0,2:10,2:0,2:10,3:0,2:11,1:0,6:10,1:0,5:10,7:0,2" ++
  ":10,7:0,3:10,5:0,b:1b,a:0,1:1b,1:0,2:1b,1:0,1:1b,26:0,1:1b,a:0,1:1b,1:0,2:1b,1:0,1:1b,4:0,1:1b,a" ++
  ":0,1:1b,2:0,8:1b,2:0,1d:12,5a:17,1:12,1:0,1:12,1:14,1:15,1:17,2:0,1e:10,48:0,8:10,a:0,a6:10,36:0" ++
  ",2:10,12:11,14:0,22:10,45:0,b:10,a:0,6:12,d:0,13:d,38:15,1:18,1:0,6:d,a:0,6:1b,14:0,1c:11,1a:14," ++
  "1:0,2:11,f:0,4:11,10:18,7:0,b9:14,3c:0,64:10,53:0,c:10,1:17,7:0,2:17,1:0,2:17,8:0,1:17,2:0,1:17," ++
  "1e:0,1:17,2:0,2:17,c:0,9:17,a:0,46:15,8:0,2:15,2e:0,2:15,b:0,1b:13,48:0,8:13,34:15,2:13,17:14,1:" ++
  "13,5:0,d:18,10:10,39:0,7:19,a:0,b6:1b,22:0,e:1b,a:0,6:12,9:0,1:12,2d:0,1:12,e:0,a:12,1d:0,3:12,2" ++
  "0:0,2:12,16:0,1:12,e:0,49:13,7:0,1:13,2:0,1:13,2c:0,3:13,1:0,1:13,2:0,1:13,9:0,8:13,a:0,6:14,6:0" ++
  ",1:14,2:0,1:14,25:0,1:14,2:0,1:14,6:0,7:14,a:0,136:14,19:0,7:19,11:0,1:19,29:0,3:19,1c:1b,1:0,55" ++
  ":17,1:0,f:15,32:0,d:15,1:9,36f:10,2a:11,1:0,66:9,63:10,c:0,1:9,4:10,1:0,b:11,c4:0,a4c:18,63:0,d:" ++
  "b,42f:19,1:15,9:19,1d:0,a:1b,f9b:0,5:11,247:0,1ab9:1b,3a:0,6c6:c,239:0,7:10,1f:0,1:10,a:0,4:10,2" ++
  ":18,4f:0,1:18,a:0,6:10,1e:0,2:10,6:0,a:10,46:0,a:10,a:0,1:10,7:0,1:10,15:0,5:10,13:0,1b0:1b,3a:0" ++
  ",c6:14,5b:0,65:d,45:15,6:0,4:15,1:d,2f:15,9:0,7:d,11:0,40:12,1:13,1:15,2:17,1:0,b:17,2:0,e:12,17" ++
  "ed:14,5:15,6:0,8:12,2f3:17,1e3:0,29:1b,1:17,9:0,22e7:18,4:0,1:18,7:0,1:18,2:0,1:c,2:13,11d:18,4:" ++
  "0,f:19,1:0,1d:15,3:0,2:19,1:0,e:15,4:0,8:13,18c:0,904:10,6b:0,5:10,d:0,3:10,9:0,7:10,a:0,2:10,8:" ++
  "0,f5c:1b,fa:0,6:1b,1b4:0,4c:18,2e:0,2:18,17:0,9:18,74:0,3c:5,f6:0,a:5,27:0,2:a,1:5,b4:11,b:18,2:" ++
  "0,15:8,46:0,7a:19,14:0,c:14,14:0,c:7,57:0,9:9,12:14,7:0,87:5,55:0,1:5,47:0,1:5,2:0,2:5,1:0,2:5,2" ++
  ":0,2:5,4:0,1:5,c:0,1:5,1:0,1:5,4:7,1:5,2:0,1:5,41:0,1:5,4:0,2:5,8:0,1:5,7:0,1:5,1c:0,1:5,4:0,1:5" ++
  ",5:0,1:5,1:0,3:5,7:0,1:5,152:8,2:0,2:5,122:9,2:0,2:5,32:11,28c:0,f:11,5:0,1:11,f:0,450:18,1f:0,6" ++
  ":19,6:0,d5:12,7:0,1:12,11:0,2:12,7:0,1:12,2:0,1:12,5:0,5:19,3e:0,21:19,1:0,70:15,2d:0,3:15,e:0,2" ++
  ":15,a:0,4:15,2:0,140:18,1f:0,11:15,3a:0,5:15,1:0,1d0:19,2a:0,d6:1b,2b:0,4:1b,1:0,1e0:18,7:0,1:18" ++
  ",4:0,1:18,2:0,1:18,f:0,1:10,c5:0,2:10,10:0,29:12,4b:15,1:0,4:12,a:0,4:12,2:0,311:14,44:0,4c:15,3" ++
  "d:0,c2:d,4:0,1:d,1b:0,1:d,2:0,1:d,1:0,2:d,1:0,1:d,a:0,1:d,4:0,1:d,1:0,1:d,1:0,6:d,1:0,4:d,1:0,1:" ++
  "d,1:0,1:d,1:0,1:d,3:0,1:d,2:0,1:d,1:0,2:d,1:0,1:d,1:0,1:d,1:0,1:d,1:0,1:d,1:0,1:d,2:0,1:d,1:0,2:" ++
  "d,4:0,1:d,7:0,1:d,4:0,1:d,4:0,1:d,1:0,1:d,a:0,1:d,11:0,5:d,3:0,1:d,5:0,1:d,11:0,34:d,2:0,10e:a,2" ++
  "c:0,4:a,64:0,c:c,f:0,2:c,e:10,1:0,1:c,f:0,1:c,f:10,16:0,a:b,b:10,2:17,3:b,1f:14,1:c,1:b,1:c,b:b," ++
  "1:c,1:b,1:c,2:b,1:c,3:b,1:c,3:b,5:c,8:b,1:c,7:b,1:c,a:d,2:15,1:17,3:c,9:b,1:c,1:b,2:c,2:b,1:c,a:" ++
  "b,4:c,2:b,1:c,a:12,12:17,1:0,38:c,1a:b,1:c,2:0,d:b,22:c,9:12,1:0,4:b,9:0,7:c,2:0,e:13,6:0,9a:c,2" ++
  "1:10,c:11,3:c,6:10,1:c,46:10,1:11,2:c,14:10,c:c,25:10,1:c,5:10,4:11,5:10,c:c,11:10,7:11,8:c,3f:1" ++
  "0,1:c,1:10,1:c,b6:10,1:c,4:10,2:11,1:c,3e:10,2:d,4:10,7:11,5:c,18:10,12:12,1:10,29:12,1:10,56:c," ++
  "5:d,1:c,10:d,1:c,3:d,1:c,1:d,1:c,1:d,1:c,1:d,1:c,3:d,1:c,6:d,2:c,4:d,1:c,1:d,2:c,4:d,1:c,c:10,2:" ++
  "11,2:c,b:10,30:c,46:10,a:11,1:12,2:13,2:15,1:17,2:0,4:19,1:18,3:10,d:0,3:10,4:12,3:13,2:14,1:15," ++
  "1:17,2:0,3:c,74:19,3:0,4:19,5:10,55:14,4:19,1:0,6:15,c:0,4:18,1:0,f:10,c:0,4:10,38:0,8:10,a:0,6:" ++
  "10,28:0,8:10,1e:0,2:17,2:1b,a:0,4:1b,2:0,3e:13,c:17,1:15,3:11,9:12,6:13,1:12,8:13,8:12,1:13,2:12" ++
  ",c:15,1:12,c:13,1:14,3:12,f:13,d:14,5:15,1:17,1:14,4:17,2:18,1:14,1:15,1:14,4:11,5:12,d:13,6:14," ++
  "b:17,2:15,6:17,3:15,2:14,a:15,6:11,1:14,2:15,8:17,1:18,1:15,3:13,17:14,19:15,54:0,c:14,e:0,2:15," ++
  "4:17,1:19,3:15,3:18,2:0,3:15,3:17,4:19,2:1b,1:0,5:1b,1:15,6:17,13:18,4:19,3:17,7:18,4:19,3:1b,1:" ++
  "19,1:17,3:18,3:1b,1:0,7:19,2:17,7:18,3:19,2:1b,1:0,2:1b,1:18,8:19,1:1b,1:0,6:18,7:19,2:0,7:17,93" ++
  ":0,1:17,37:1b,25:17,a:0,404:2,2:5,a6d7:17,7:18,2:0,20:b,1035:18,4:19,1:0,6:c,de:0,2:11,1682:0,e:" ++
  "13,1d31:0,f:1a,26e:0,9a2:5,21e:0,5e0:2,2:17,134b:0,5:19,1060:0,dc4e:2,2:0,fffe:2,2:0,fffe:2,2:0," ++
  "fffe:2,2:0,fffe:2,2:0,fffe:2,2:0,fffe:2,2:0,fffe:2,2:0,fffe:2,2:0,fffe:2,2:0,fffe:2,2:0,1:5,1:0," ++
  "1e:5,60:0,80:7,f0:0,fe0e:2,"

/-- The age map of all code points: 0 for unassigned, else the position in `ageNames` plus 1. -/
def ageMap : InversionMap Nat :=
  InversionMap.decode ((List.range (ageNames.size + 1)).toArray) 0 ageText

end TableMachine.Regex.Ucd
