import TableMachine.Unicode.Category
import TableMachine.Unicode.Property

/-!
# Quoted strings in listings

Listings show a string between double quotes with its special characters escaped, so that a
reader can tell `"a b"` from `"a\tb"`:

* NUL, tab, carriage return and line feed as `\0`, `\t`, `\r`, `\n`;
* backslash and double quote with a backslash before them;
* a character that extends the grapheme before it, or that is not printable, as `\u` followed
  by its code in lower-case hexadecimal between braces.

A character is printable unless it is a control, format, surrogate, private-use or unassigned
character, a separator other than the plain space, or default-ignorable (which adds the Hangul
fillers to the categories before).
-/

namespace TableMachine.Text

open TableMachine.Unicode

/-- Whether a listing can show the character as it is. -/
def printable (c : Char) : Bool :=
  c = ' ' ||
  (!defaultIgnorableCodePoint.contains c.toNat &&
    match generalCategory c with
    | .control | .format | .surrogate | .privateUse | .unassigned
    | .spaceSeparator | .lineSeparator | .paragraphSeparator => false
    | _ => true)

/-- Lower-case hexadecimal digits of a number, at least one. -/
def hexDigits (n : Nat) : String := String.ofList (Nat.toDigits 16 n)

/-- The escape of a character by its code, braces included. -/
def codeEscape (c : Char) : String := "\\u" ++ "\x7b" ++ hexDigits c.toNat ++ "\x7d"

/-- How one character appears inside a quoted string. -/
def quoteChar (c : Char) : String :=
  match c with
  | '\x00' => "\\0"
  | '\t' => "\\t"
  | '\r' => "\\r"
  | '\n' => "\\n"
  | '\\' => "\\\\"
  | '"' => "\\\""
  | _ => if graphemeExtend.contains c.toNat || !printable c then codeEscape c else c.toString

/-- A string between double quotes, escaped for a listing. -/
def quote (s : String) : String :=
  "\"" ++ String.join (s.toList.map quoteChar) ++ "\""

end TableMachine.Text
