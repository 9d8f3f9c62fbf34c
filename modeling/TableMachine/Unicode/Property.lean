import TableMachine.Unicode.Table

/-!
# Character properties of text

The binary properties that the text functions use, as Unicode 17.0 gives them: white space
(trimming), alphabetic characters, the cased and case-ignorable characters (the final sigma),
and the default-ignorable and grapheme-extending characters (escaping in listings).
-/

namespace TableMachine.Unicode

/-- The code points with the property White Space. -/
def whiteSpace : InversionList :=
  InversionList.decode (
  "9,5,12,1,64,1,1a,1,15df,1,97f,b,1d,2,5,1,2f,1,fa0,1,")

/-- The code points with the property Alphabetic. -/
def alphabetic : InversionList :=
  InversionList.decode (
  "41,1a,6,1a,2f,1,a,1,4,1,5,17,1,1f,1,1ca,4,c,e,5,7,1,1,1,56,1,1d,12,1,2,2,4,1,1,6,1,1,3,1,1,1,14," ++
  "1,53,1,8b,8,a6,1,26,2,1,6,29,27,e,1,1,1,2,1,2,1,1,8,1b,4,4,1d,b,5,38,1,7,e,66,1,8,4,8,4,3,a,3,2," ++
  "1,10,30,d,65,18,21,9,2,4,1,5,18,2,13,13,19,7,b,5,18,1,7,7,1,8,2a,a,c,3,7,6,4c,1,10,1,3,4,f,d,13," ++
  "1,8,2,2,2,16,1,7,1,1,3,4,3,8,2,2,2,2,1,1,8,1,4,2,1,5,c,2,a,1,4,3,1,6,4,2,2,16,1,7,1,2,1,2,1,2,4," ++
  "5,4,2,2,2,4,1,7,4,1,1,11,6,b,3,1,9,1,3,1,16,1,7,1,2,1,5,3,9,1,3,1,2,3,1,f,4,15,4,4,3,1,8,2,2,2,1" ++
  "6,1,7,1,2,1,5,3,8,2,2,2,2,9,2,4,2,1,5,d,1,10,2,1,6,3,3,1,4,3,2,1,1,1,2,3,2,3,3,3,c,4,5,3,3,1,3,3" ++
  ",1,6,1,28,d,1,3,1,17,1,10,3,8,1,3,1,3,8,2,1,3,1,2,2,4,1c,4,1,8,1,3,1,17,1,a,1,5,3,8,1,3,1,3,8,2," ++
  "5,3,1,4,d,3,c,d,1,3,1,29,2,8,1,3,1,3,1,1,5,4,7,5,16,6,1,3,1,12,3,18,1,9,1,1,2,7,8,6,1,1,1,8,12,2" ++
  ",d,3a,5,7,6,1,33,2,1,1,1,5,1,18,1,1,1,13,1,3,2,5,1,1,6,1,e,4,20,1,3f,8,1,24,4,13,4,10,1,24,43,37" ++
  ",1,1,2,5,10,40,a,4,2,26,1,1,5,1,2,2b,1,14d,1,4,2,7,1,1,1,4,2,29,1,4,2,21,1,4,2,7,1,1,1,4,2,f,1,3" ++
  "9,1,4,2,43,25,10,10,56,2,6,3,26c,2,11,1,1a,5,4b,3,b,7,14,b,15,c,14,c,d,1,3,1,2,c,34,2,13,e,1,4,1" ++
  ",43,59,7,2b,5,46,a,1f,1,c,4,9,17,1e,2,5,b,2c,4,1a,36,1c,4,3f,2,14,32,1,17,2,b,3,31,34,1,f,1,8,33" ++
  ",2a,2,4,a,2c,1,b,e,37,16,3,a,24,2,b,5,2b,2,3,29,4,1,6,1,2,3,1,5,c0,13,22,b,116,2,6,2,26,2,6,2,8," ++
  "1,1,1,1,1,1,1,1f,2,35,1,7,1,1,3,3,1,7,3,4,2,6,4,d,5,3,1,7,74,1,d,1,10,d,65,1,4,1,2,a,1,1,3,5,6,1" ++
  ",1,1,1,1,1,4,1,b,2,4,5,5,4,1,11,29,32d,34,716,e5,6,4,3,2,c,26,1,1,5,1,2,38,7,1,10,17,9,7,1,7,1,7" ++
  ",1,7,1,7,1,7,1,7,1,7,1,20,2f,1,1d5,3,19,9,7,5,2,5,4,56,6,3,1,5a,1,4,5,2b,1,5e,11,20,30,10,200,19" ++
  "c0,40,568d,43,2e,2,10d,3,10,a,2,14,2f,5,8,3,71,27,9,2,67,2,52,14,15,1,21,18,34,c,44,1,1,2c,6,3,1" ++
  ",1,3,a,21,5,23,d,1d,3,33,1,c,f,1,10,10,a,5,1,37,9,e,12,17,3,45,1,1,1,1,18,3,2,10,2,4,b,6,2,6,2,6" ++
  ",9,7,1,7,1,2b,1,e,6,7b,15,2ba4,c,17,4,31,2104,16e,2,6a,26,7,c,5,5,c,1,d,1,5,1,1,1,2,1,2,1,6c,21," ++
  "16b,12,40,2,36,28,c,74,5,1,87,24,1a,6,1a,b,59,3,6,2,6,2,6,2,3,23,c,1,1a,1,13,1,2,1,f,2,e,22,7b,4" ++
  "5,35,10b,1d,3,31,2f,20,d,1e,5,2b,5,1e,2,24,4,8,1,5,2a,9e,12,24,4,24,4,28,8,34,c,b,1,f,1,7,1,2,1," ++
  "b,1,f,1,7,1,2,3,34,c,137,9,16,a,8,18,6,1,2a,1,9,45,6,2,1,1,2c,1,2,3,1,2,17,a,17,9,1f,41,13,1,2,a" ++
  ",16,a,1a,6,1a,26,38,6,2,40,4,1,2,5,8,1,3,1,1d,2a,1d,3,1d,23,8,1,1c,1b,36,a,16,a,13,d,12,6e,49,37" ++
  ",33,d,33,d,28,22,1c,3,1,5,17,fa,2a,1,2,3,2,10,6,32,3,3,1d,a,1,8,16,2a,12,2e,15,1b,17,9,46,2b,5,a" ++
  ",39,9,1,d,19,17,33,11,4,8,23,3,1,9,40,1,4,9,2,a,1,1,1,23,12,1,22,2,1,6,4,3e,7,1,1,1,4,1,f,1,a,7," ++
  "39,17,4,1,8,2,2,2,16,1,7,1,2,1,5,3,8,2,2,2,2,3,1,6,1,5,7,1c,a,1,1,2,1,1,26,1,a,1,1,2,1,1,4,1,2,3" ++
  ",1,1,1,2c,42,1,3,1,4,14,3,1e,42,2,2,1,1,b8,36,2,7,19,6,22,3f,1,1,3,1,3b,36,2,1,47,1b,2,e,15,7,b9" ++
  ",39,67,40,1f,8,2,1,2,8,1,2,1,1e,1,2,2,2,2,4,5d,8,2,2e,2,6,1,1,1,2,1b,33,2,a,11,48,5,1,12,49,67,8" ++
  ",58,21,1f,9,1,2d,1,7,1,1,31,1e,2,16,1,e,49,7,1,2,1,2c,3,1,1,2,1,3,1,1,2,2,18,6,1,2,1,25,1,2,1,4," ++
  "1,1,17,2c,104,17,9,11,1,29,3,3,6f,1,4f,39a,66,6f,11,c4,a4c,61,f,430,11,6,19,f9b,5,247,1ab9,2f,6d" ++
  "1,239,7,1f,11,4f,11,1e,12,30,10,4,1f,15,5,13,1b0,2d,d3,40,20,19,2,19,2c,4b,4,39,7,11,40,2,1,1,c," ++
  "7,9,1cd6,29,20,61,73,21fd,4,1,7,1,2,1,123,f,1,1d,3,2,1,e,4,8,18c,904,6b,5,d,3,9,7,a,4,1,1761,55," ++
  "1,47,1,2,2,1,2,2,2,4,1,c,1,1,1,7,1,41,1,4,2,8,1,7,1,1c,1,4,1,5,1,1,3,7,1,154,2,19,1,19,1,1f,1,19" ++
  ",1,1f,1,19,1,1f,1,19,1,1f,1,19,1,8,734,1f,6,6,d5,7,1,11,2,7,1,2,1,5,5,3e,21,1,70,2d,a,7,10,1,141" ++
  ",1e,12,2c,1e4,1c,e4,1e,2,1,cf,1f,1,16,8,2,e0,7,1,4,1,2,1,f,1,c5,3b,44,3,1,3,1,4b4,4,1,1b,1,2,1,1" ++
  ",2,1,1,a,1,4,1,1,1,1,6,1,4,1,1,1,1,1,1,3,1,2,1,1,2,1,1,1,1,1,1,1,1,1,1,2,1,1,2,4,1,7,1,4,1,4,1,1" ++
  ",1,a,1,11,5,3,1,5,1,11,274,1a,6,1a,6,1a,e76,a6e0,20,111e,2,168e,2,1d31,f,26e,9a2,21e,5e2,134b,5," ++
  "212a,")

/-- The code points with the property Cased. -/
def cased : InversionList :=
  InversionList.decode (
  "41,1a,6,1a,2f,1,a,1,4,1,5,17,1,1f,1,c3,1,4,4,d0,2,23,7,2,1e,5,60,1,2a,4,2,2,2,4,1,1,6,1,1,3,1,1," ++
  "1,14,1,53,1,8b,8,a6,1,26,9,29,b17,26,1,1,5,1,2,2b,1,4,2a0,56,2,6,882,b,5,2b,2,3,40,c0,40,116,2,6" ++
  ",2,26,2,6,2,8,1,1,1,1,1,1,1,1f,2,35,1,7,1,1,3,3,1,7,3,4,2,6,4,d,5,3,1,7,74,1,d,1,10,d,65,1,4,1,2" ++
  ",a,1,1,3,5,6,1,1,1,1,1,1,4,1,6,4,1,2,4,5,5,4,1,11,20,3,2,331,34,716,e5,6,4,3,2,c,26,1,1,5,1,7912" ++
  ",2e,12,1e,84,66,3,4,1,4d,14,6,1,3,335,2b,1,e,6,50,4f40,7,c,5,409,1a,6,1a,4a5,50,60,24,4,24,74,b," ++
  "1,f,1,7,1,2,1,b,1,f,1,7,1,2,1c3,1,2,3,1,2a,1,9,4c5,33,d,33,5d,16,a,16,b1a,40,5560,40,20,19,2,19," ++
  "652c,55,1,47,1,2,2,1,2,2,2,4,1,c,1,1,1,7,1,41,1,4,2,8,1,7,1,1c,1,4,1,5,1,1,3,7,1,154,2,19,1,19,1" ++
  ",1f,1,19,1,1f,1,19,1,1f,1,19,1,1f,1,19,1,8,734,a,1,14,6,6,105,3e,892,44,7ec,1a,6,1a,6,1a,")

/-- The code points with the property Case Ignorable. -/
def caseIgnorable : InversionList :=
  InversionList.decode (
  "27,1,6,1,b,1,23,1,1,1,47,1,4,1,1,1,4,1,2,2,1f7,c0,4,2,4,1,9,2,1,1,fb,7,cf,1,5,1,31,2d,1,1,1,2,1," ++
  "2,1,1,2c,1,b,6,a,b,1,1,23,1,a,15,10,1,65,8,1,a,1,4,21,1,1,1,1e,1b,5b,b,3a,b,4,1,2,1,18,18,2b,3,2" ++
  "c,1,7,2,5,9,29,3a,37,1,1,1,4,8,4,1,3,7,a,2,d,1,f,1,3a,1,4,4,8,1,14,2,1a,1,2,2,39,1,4,2,4,2,2,3,3" ++
  ",1,1e,2,3,1,b,2,39,1,4,5,1,2,4,1,14,2,16,6,1,1,3a,1,2,1,1,4,8,1,7,2,b,2,1e,1,3d,1,c,1,32,1,3,1,3" ++
  "7,1,1,3,5,3,1,4,7,2,b,2,1d,1,3a,1,2,1,6,1,5,2,14,2,1c,2,39,2,4,4,8,1,14,2,1d,1,48,1,7,3,1,1,5a,1" ++
  ",2,7,b,9,62,1,2,9,9,1,1,7,49,2,1b,1,1,1,1,1,37,e,1,5,1,2,5,b,1,24,9,1,66,4,1,6,1,2,2,2,19,2,4,3," ++
  "10,4,d,1,2,2,6,1,f,1,5e,1,260,3,3b2,3,1d,2,1e,2,1e,2,40,2,1,7,8,1,2,b,3,1,5,1,2d,5,33,1,41,2,22," ++
  "1,76,3,4,2,9,1,6,3,db,2,2,1,3a,1,1,7,1,1,1,1,2,8,6,a,2,1,27,1,8,2e,2,c,14,4,30,1,1,5,1,1,5,1,28," ++
  "9,c,2,20,4,2,2,1,3,38,1,1,2,3,1,1,3,3a,8,2,2,40,6,52,3,1,d,1,7,4,1,6,1,3,2,32,3f,d,1,22,65,1bd,1" ++
  ",1,3,b,3,d,3,d,3,d,2,c,5,8,2,a,1,2,1,2,5,31,5,1,a,1,1,d,1,10,d,33,21,b8b,2,71,3,7d,1,f,1,60,20,2" ++
  "f,1,1d5,1,24,4,3,5,5,1,5d,6,5d,3,6f16,1,4e2,6,10e,1,62,4,1,a,1,1,1c,4,50,2,e,22,4e,1,17,3,66,4,3" ++
  ",2,8,1,3,1,4,1,19,2,5,1,97,2,1a,12,d,1,26,8,19,b,2e,3,30,1,2,4,2,2,11,1,15,2,42,6,2,2,2,2,c,1,8," ++
  "1,23,1,b,1,33,1,1,3,2,2,5,2,1,1,1b,1,e,2,5,2,1,1,64,5,9,3,79,1,2,1,4,1,4f30,1,93,11,23d,10,3,1,c" ++
  ",10,22,1,2,1,a9,1,7,1,6,1,b,1,23,1,1,1,2f,1,2d,2,43,1,15,3,201,1,e2,1,95,5,405,6,1,2a,1,9,246,3," ++
  "1,2,5,4,28,3,4,1,a5,2,23d,4,26,1,1a,5,1,1,13b,2,18,1,34,6,46,b,31,4,7b,1,36,f,29,1,2,2,a,3,31,4," ++
  "2,2,2,1,4,1,a,1,32,3,24,5,1,8,3e,1,c,2,34,9,a,4,2,1,5f,3,2,1,1,2,6,1,2,1,9d,1,3,8,15,2,39,2,3,1," ++
  "25,7,3,5,46,6,d,1,1,1,1,1,e,2,55,8,2,3,1,1,17,1,54,6,1,1,4,2,1,2,ee,4,6,2,1,2,1b,2,55,8,2,1,1,2," ++
  "6a,1,1,1,2,6,1,1,65,1,1,1,2,4,1,5,103,9,1,2,100,2,1,1,4,1,90,4,2,2,4,1,20,a,28,6,2,4,8,1,9,6,2,3" ++
  ",2e,d,1,2,c6,1,1,3,1,1,c9,7,1,6,1,1,52,16,2,7,1,2,1,2,7a,6,3,1,1,2,1,7,1,1,48,2,3,1,1,1,41,1,119" ++
  ",2,b,2,34,5,5,1,1,1,17,1,14d5,11,6,f,2cc8,c,3,3,9c0,5,3b,7,9,4,1fc,3,28,2,1e2,1,3f,11,40,2,1,2,d" ++
  ",2,3ffc,4,1,7,1,2,c9e,2,1,4,125c,2e,2,17,220,3,9,10,2,7,1e,4,94,3,7bb,37,4,32,8,1,e,1,16,5,1,f,5" ++
  "50,7,1,11,2,7,1,2,1,5,5,3e,21,1,a0,e,170,1,3d,4,1fb,5,fe,2,f3,1,2,1,7,2,5,1,9,1,1d0,7,6d,8,aaf,5" ++
  ",c0c01,1,1e,60,80,f0,")

/-- The code points with the property Default Ignorable Code Point. -/
def defaultIgnorableCodePoint : InversionList :=
  InversionList.decode (
  "ad,1,2a1,1,2cc,1,b42,2,653,2,55,5,7fb,5,1a,5,31,10,10f4,1,cc9b,10,ef,1,a0,1,4f,9,bca7,4,14cf,8,c" ++
  "2e85,1000,")

/-- The code points with the property Grapheme Extend. -/
def graphemeExtend : InversionList :=
  InversionList.decode (
  "300,70,113,7,107,2d,1,1,1,2,1,2,1,1,48,b,30,15,10,1,65,7,2,6,2,2,1,4,23,1,1e,1b,5b,b,3a,9,9,1,18" ++
  ",4,1,9,1,3,1,5,2b,3,3b,9,2a,18,1,20,37,1,1,1,4,8,4,1,3,7,a,2,1d,1,3a,1,1,1,2,4,8,1,9,1,a,2,1a,1," ++
  "2,2,39,1,4,2,4,2,2,3,3,1,1e,2,3,1,b,2,39,1,4,5,1,2,4,1,14,2,16,6,1,1,3a,1,1,2,1,4,8,1,7,3,a,2,1e" ++
  ",1,3b,1,1,1,c,1,9,1,28,1,3,1,37,1,1,3,5,3,1,4,7,2,b,2,1d,1,3a,1,2,2,1,1,3,3,1,4,7,2,b,2,1c,2,39," ++
  "2,1,1,2,4,8,1,9,1,a,2,1d,1,48,1,4,1,2,3,1,1,8,1,51,1,2,7,c,8,62,1,2,9,b,7,49,2,1b,1,1,1,1,1,37,e" ++
  ",1,5,1,2,5,b,1,24,9,1,66,4,1,6,1,2,2,2,19,2,4,3,10,4,d,1,2,2,6,1,f,1,2bf,3,3b2,4,1c,3,1d,2,1e,2," ++
  "40,2,1,7,8,1,2,b,9,1,2d,3,1,1,75,2,22,1,76,3,4,2,9,1,6,3,db,2,2,1,3a,1,1,7,1,1,1,1,2,8,6,a,2,1,3" ++
  "0,2e,2,c,14,4,30,a,4,3,26,9,c,2,20,4,2,6,38,1,1,2,3,1,1,5,38,8,2,2,98,3,1,d,1,7,4,1,6,1,3,2,c6,4" ++
  "0,20c,1,c3,21,bfe,3,8d,1,60,20,22a,6,69,2,75d4,4,1,a,20,2,50,2,110,1,3,1,4,1,19,2,5,1,97,2,1a,12" ++
  ",d,1,26,8,19,b,1,1,2c,3,30,1,2,4,2,2,2,1,24,1,43,6,2,2,2,2,c,1,8,1,2f,1,33,1,1,3,2,2,5,2,1,1,2a," ++
  "2,8,1,ee,1,2,1,4,1,4f30,1,2e1,10,10,10,16e,2,25d,1,e2,1,95,5,686,3,1,2,5,4,28,3,4,1,a5,2,23d,4,4" ++
  "1,5,13d,2,4d,6,46,b,31,4,7b,1,36,f,29,1,2,2,a,3,31,4,2,2,7,1,3d,3,24,5,1,8,3e,1,c,2,34,9,1,1,8,4" ++
  ",2,1,5f,3,2,4,6,1,2,1,9d,1,3,8,15,2,39,2,1,1,1,1,c,1,9,1,e,7,3,5,43,1,2,6,1,1,2,1,1,3,4,3,1,1,e," ++
  "2,55,8,2,3,1,1,17,1,51,1,2,6,1,1,2,1,1,2,1,2,eb,1,2,4,6,2,1,2,1b,2,55,8,2,1,1,2,6a,1,1,1,2,8,65," ++
  "1,1,1,2,4,1,5,103,9,1,2,f5,1,a,4,4,1,90,4,2,2,4,1,20,a,28,6,2,4,8,1,9,6,2,3,2e,d,1,2,c6,1,1,3,1," ++
  "1,c9,7,1,6,1,1,52,16,2,7,1,2,1,2,7a,6,3,1,1,2,1,7,1,1,48,2,3,1,1,1,15b,2,b,2,34,5,5,3,17,1,14e5," ++
  "1,6,f,2cc8,c,3,3,9c0,5,3b,7,418,1,3f,4,51,1,b,2,4cab,2,1261,2e,2,17,21e,5,3,6,8,8,2,7,1e,4,94,3," ++
  "7bb,37,4,32,8,1,e,1,16,5,1,f,550,7,1,11,2,7,1,2,1,5,64,1,a0,7,177,1,3d,4,1fc,4,fe,2,f3,1,2,1,7,2" ++
  ",5,1,1da,7,6d,7,c16d5,60,80,f0,")

end TableMachine.Unicode
