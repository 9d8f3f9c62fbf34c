/-!
# JSON values

A JSON value whose objects keep their fields in order. An object never holds a key twice:
`Json.Fields.insert` puts a new key at the end and gives an existing key its new value in place,
so reading `{"a": 1, "b": 2, "a": 3}` yields the fields `a: 3, b: 2`.

Numbers are kept exactly, as an integer mantissa and a power of ten.
-/

namespace TableMachine

/-- A JSON value with ordered objects. -/
inductive Json where
  | null
  | bool (b : Bool)
  /-- The number `mantissa * 10 ^ exponent`. -/
  | num (mantissa : Int) (exponent : Int)
  | str (s : String)
  | arr (items : List Json)
  | obj (fields : List (String × Json))
  deriving Inhabited, Repr

namespace Json

/-- Puts a field into a field list: in place if the key is there, else at the end. -/
def Fields.insert (k : String) (v : Json) : List (String × Json) → List (String × Json)
  | [] => [(k, v)]
  | (k', v') :: rest => if k' = k then (k, v) :: rest else (k', v') :: Fields.insert k v rest

/-- The value of a key in a field list. -/
def Fields.get? (k : String) : List (String × Json) → Option Json
  | [] => none
  | (k', v) :: rest => if k' = k then some v else Fields.get? k rest

/-- The value of a field of an object; `none` for a missing key or a value that is no object. -/
def field? (j : Json) (k : String) : Option Json :=
  match j with
  | .obj fs => Fields.get? k fs
  | _ => none

/-- The text of a string value. -/
def str? : Json → Option String
  | .str s => some s
  | _ => none

/-- The items of an array value. -/
def arr? : Json → Option (List Json)
  | .arr xs => some xs
  | _ => none

/-- A boolean value. -/
def bool? : Json → Option Bool
  | .bool b => some b
  | _ => none

/-- A number value that is a whole number at least zero. -/
def nat? : Json → Option Nat
  | .num m e =>
    if m < 0 then none
    else if 0 ≤ e then some (m.toNat * Nat.pow 10 e.toNat)
    else if m.toNat % Nat.pow 10 (-e).toNat = 0 then some (m.toNat / Nat.pow 10 (-e).toNat)
    else none
  | _ => none

/-- A whole number as a JSON value. -/
def ofNat (n : Nat) : Json := .num n 0

/-- A list of strings as a JSON array. -/
def ofStrings (xs : List String) : Json := .arr (xs.map .str)

/-- An optional string, `null` when absent. -/
def ofOption (o : Option String) : Json :=
  match o with
  | some s => .str s
  | none => .null

end Json

end TableMachine
