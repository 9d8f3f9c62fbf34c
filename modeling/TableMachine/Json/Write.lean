import TableMachine.Json.Value

/-!
# Writing JSON

Two layouts of one value: `compact` with no blanks at all, and `pretty` with each item on its
own line, indented by two spaces a level, a space after each colon, and `[]`/`{}` for empty
containers.

Strings escape the double quote and the backslash, write backspace, form feed, line feed,
carriage return and tab as `\b \f \n \r \t`, the other control characters below U+0020 as `\u00`
and two lower-case hexadecimal digits, and every other character as it is.
-/

namespace TableMachine.Json

/-- Two lower-case hexadecimal digits. -/
private def hex2 (n : Nat) : String :=
  let d := fun (k : Nat) => if k < 10 then Char.ofNat (48 + k) else Char.ofNat (87 + k)
  String.ofList [d (n / 16 % 16), d (n % 16)]

/-- How one character is written inside a JSON string. -/
def escapeChar (c : Char) : String :=
  match c with
  | '"' => "\\\""
  | '\\' => "\\\\"
  | '\x08' => "\\b"
  | '\x0c' => "\\f"
  | '\n' => "\\n"
  | '\r' => "\\r"
  | '\t' => "\\t"
  | _ => if c.toNat < 0x20 then "\\u00" ++ hex2 c.toNat else c.toString

/-- A string between double quotes, escaped. -/
def quote (s : String) : String := "\"" ++ String.join (s.toList.map escapeChar) ++ "\""

/-- The decimal text of an exact number: digits, then a fraction if the power of ten is
negative. -/
def numberText (m e : Int) : String :=
  if 0 ≤ e then toString (m * Int.pow 10 e.toNat)
  else
    let sign := if m < 0 then "-" else ""
    let digits := toString m.natAbs
    let places := (-e).toNat
    let padded := String.ofList (List.replicate (places + 1 - digits.length) '0') ++ digits
    let whole := padded.take (padded.length - places)
    let frac := padded.drop (padded.length - places)
    sign ++ whole.toString ++ "." ++ frac.toString

mutual

/-- The compact text of a value. -/
def compact : Json → String
  | .null => "null"
  | .bool b => if b then "true" else "false"
  | .num m e => numberText m e
  | .str s => quote s
  | .arr xs => "[" ++ compactItems xs ++ "]"
  | .obj fs => "\x7b" ++ compactFields fs ++ "\x7d"

/-- The compact text of array items, comma-separated. -/
def compactItems : List Json → String
  | [] => ""
  | [x] => compact x
  | x :: xs => compact x ++ "," ++ compactItems xs

/-- The compact text of object fields, comma-separated. -/
def compactFields : List (String × Json) → String
  | [] => ""
  | [(k, v)] => quote k ++ ":" ++ compact v
  | (k, v) :: fs => quote k ++ ":" ++ compact v ++ "," ++ compactFields fs

end

/-- The indentation of a nesting level. -/
def indent (level : Nat) : String := String.ofList (List.replicate (2 * level) ' ')

mutual

/-- The pretty text of a value whose first line starts at nesting `level`. -/
def pretty (level : Nat) : Json → String
  | .arr [] => "[]"
  | .obj [] => "\x7b\x7d"
  | .arr xs => "[\n" ++ prettyItems (level + 1) xs ++ "\n" ++ indent level ++ "]"
  | .obj fs => "\x7b\n" ++ prettyFields (level + 1) fs ++ "\n" ++ indent level ++ "\x7d"
  | j => compact j

/-- Array items, one a line at nesting `level`. -/
def prettyItems (level : Nat) : List Json → String
  | [] => ""
  | [x] => indent level ++ pretty level x
  | x :: xs => indent level ++ pretty level x ++ ",\n" ++ prettyItems level xs

/-- Object fields, one a line at nesting `level`. -/
def prettyFields (level : Nat) : List (String × Json) → String
  | [] => ""
  | [(k, v)] => indent level ++ quote k ++ ": " ++ pretty level v
  | (k, v) :: fs => indent level ++ quote k ++ ": " ++ pretty level v ++ ",\n" ++ prettyFields level fs

end

end TableMachine.Json
