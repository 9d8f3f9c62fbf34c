import TableMachine.Yaml.Decode

/-!
# YAML as JSON

`Yaml.toJson` reads the first document of a YAML text as a JSON value. Plain scalars are read
by `Reading.ofPlain` (null, booleans, numbers, text), quoted and block scalars are text, and the
core tags `!!bool`, `!!int`, `!!float` and `!!null` check their text. A mapping becomes an
object whose keys are the keys' texts, whatever they spell (`1: a` has the key `"1"`); a key given
twice keeps its first place and its last value. Infinities and not-a-number become `null`.

Refused are: a node with a local tag (`!name`), which names a variant that JSON cannot hold; a
key that is not a scalar; a whole number beyond 64 bits; and nesting deeper than 128
collections.
-/

namespace TableMachine.Yaml

namespace Decode

/-- The deepest nesting of collections that is read. -/
def nestingLimit : Nat := 128

/-- The refusal of a node that names a variant. -/
def variantInJson : Error := invalidType "enum" "any valid JSON value"

/-- Reads a node that holds no other: a scalar, or the empty stream; a collection here is one
too many. -/
def leaf (item : Item) (mark : Mark) : Decode Json :=
  match item with
  | .scalar tag value style =>
    if (Tag.local? tag).isSome then throw variantInJson
    else match reading tag value style with
      | .error e => throw e
      | .ok r =>
        match r.toJson? with
        | some j => pure j
        | none => throw (.message "JSON number out of range" none)
  | .sequenceStart tag | .mappingStart tag =>
    if (Tag.local? tag).isSome then throw variantInJson
    else throw (.located "recursion limit exceeded" mark)
  | .void => pure .null
  | _ => throw (unexpected item "any valid JSON value")

/-- Reads a value as JSON, with `depth` more collections allowed inside it. -/
def json (d : Document) (path : Path) : Nat → Decode Json
  | 0 => follow d path fun item mark path => placed path mark (leaf item mark)
  | inner + 1 => follow d path fun item mark path => placed path mark do
    match item with
    | .sequenceStart tag =>
      if (Tag.local? tag).isSome then throw variantInJson
      let mut items : Array Json := #[]
      for _ in List.range (d.items.size + 1) do
        let (it, _) ← peek d
        if it = .sequenceEnd || it = .void then break
        let v ← json d (.index path items.size) inner
        items := items.push v
      let _ ← next d
      pure (.arr items.toList)
    | .mappingStart tag =>
      if (Tag.local? tag).isSome then throw variantInJson
      let mut fields : List (String × Json) := []
      let mut first := true
      for _ in List.range (d.items.size + 1) do
        let (it, _) ← peek d
        if it = .mappingEnd || it = .void then break
        let keyName : Option String := match it with
          | .scalar _ v _ => some v
          | _ => none
        let key ← text d path (if first then "a string key" else "a string")
        first := false
        let valuePath := match keyName with
          | some k => Path.key path k
          | none => Path.unknown path
        let v ← json d valuePath inner
        fields := Json.Fields.insert key v fields
      let _ ← next d
      pure (.obj fields)
    | _ => leaf item mark

end Decode

/-- Reads the first document of a YAML text as a JSON value. -/
def toJson (text : String) : Except Error Json :=
  let d := Document.load text
  d.decode (Decode.json d .root Decode.nestingLimit)

end TableMachine.Yaml
