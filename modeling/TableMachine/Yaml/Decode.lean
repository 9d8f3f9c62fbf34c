import TableMachine.Yaml.Document
import TableMachine.Yaml.Scalar

/-!
# Decoding YAML documents

A decoder reads the items of a loaded document from a position, one value at a time: text
(`Decode.text`), a boolean (`Decode.bool`), an optional value (`Decode.option`), a record with
named fields (`Decode.record`) and a name from a fixed list (`Decode.variant`). An alias is read
as the node it refers to, and reading goes on after the alias; following more aliases than a
hundred times the number of items is refused.

A decoder that finds the wrong kind of value refuses with a message naming what it found and
what it expected. The message gets its place from the innermost value being read
(`Error.place`): the path of keys down to that value and where it starts. When the decoder
runs out of items, the document's own fault is the answer, since the document was cut short
there.

`Document.decode` runs a decoder on the first document and refuses a malformed text or a text
with a second document, after the decoder's own refusal.
-/

namespace TableMachine.Yaml

/-- The path from the top of a document down to a value. -/
inductive Path where
  | root
  | index (parent : Path) (i : Nat)
  | key (parent : Path) (k : String)
  /-- The node an alias refers to, read in place of the alias. -/
  | alias (parent : Path)
  /-- The value of a key that is not a scalar. -/
  | unknown (parent : Path)
  deriving DecidableEq, Repr

/-- The text of a path: `.` at the top, keys joined by dots, indexes in brackets (`a.b[0]`), and
`?` for the value of a key that is not a scalar. -/
def Path.text : Path → String
  | .root => "."
  | .index p i => p.text ++ "[" ++ toString i ++ "]"
  | .key p k => (match p with | .root => "" | _ => p.text ++ ".") ++ k
  | .alias p => p.text
  | .unknown p => (match p with | .root => "" | _ => p.text ++ ".") ++ "?"

/-- Where a decoder is: the item to read next, and how many aliases it followed. -/
structure Cursor where
  pos : Nat := 0
  jumps : Nat := 0
  deriving Inhabited

/-- Decoding: a cursor over a document's items, and refusal. -/
abbrev Decode := StateT Cursor (Except Error)

/-- The tag of core booleans. -/
def Tag.bool : String := "tag:yaml.org,2002:bool"
/-- The tag of core integers. -/
def Tag.int : String := "tag:yaml.org,2002:int"
/-- The tag of core floating-point numbers. -/
def Tag.float : String := "tag:yaml.org,2002:float"
/-- The tag of core null. -/
def Tag.null : String := "tag:yaml.org,2002:null"

/-- The name a local tag gives, `!name`; a lone `!` names itself. -/
def Tag.local? (tag : Option String) : Option String :=
  tag.bind fun t =>
    match t.toList with
    | '!' :: rest => if rest.isEmpty then some t else some (String.ofList rest)
    | _ => none

/-- A name between grave accents, as messages quote names. -/
def Tag.grave (s : String) : String := "\x60" ++ s ++ "\x60"

namespace Decode

variable {α : Type}

/-- A type error: what was found, and what was expected. -/
def invalidType (found expected : String) : Error :=
  .message ("invalid type: " ++ found ++ ", expected " ++ expected) none

/-- A value error: what was found, and what was expected. -/
def invalidValue (found expected : String) : Error :=
  .message ("invalid value: " ++ found ++ ", expected " ++ expected) none

/-- The message that the value does not end where the document does. -/
def endOfStream : Error := .plain "EOF while parsing a value"

/-- The item at the cursor; past the last item, the document's fault. -/
def peek (d : Document) : Decode (Item × Mark) := do
  match d.item? (← get).pos with
  | some im => pure im
  | none => throw (d.error.getD endOfStream)

/-- Takes the item at the cursor. -/
def next (d : Document) : Decode (Item × Mark) := do
  let im ← peek d
  modify fun c => { c with pos := c.pos + 1 }
  pure im

/-- Steps over the item at the cursor. -/
def skip : Decode Unit := modify fun c => { c with pos := c.pos + 1 }

/-- Runs a decoder and gives an unplaced refusal of it a path and a place. -/
def placed (path : Path) (m : Mark) (k : Decode α) : Decode α :=
  tryCatch k fun e => throw (e.place path.text m)

/-- Runs a decoder at the node that an anchor number refers to, and then goes on where it was. -/
def jump (d : Document) (id : Nat) (k : Decode α) : Decode α := do
  let c ← get
  let jumps := c.jumps + 1
  if jumps > d.items.size * 100 then throw (.plain "repetition limit exceeded")
  match d.target? id with
  | none => throw (.plain ("unresolved alias: " ++ toString id))
  | some t =>
    set ({ pos := t, jumps } : Cursor)
    let a ← k
    modify fun c' => { c' with pos := c.pos }
    pure a

/-- Takes the next item, reading an alias as the node it refers to; `k` gets the item, its place
and its path. -/
def follow (d : Document) (path : Path) (k : Item → Mark → Path → Decode α) : Decode α := do
  let (item, mark) ← next d
  match item with
  | .alias id => jump d id do
      let (item, mark) ← next d
      k item mark (.alias path)
  | _ => k item mark path

/-- The nesting left after entering a collection at a place; none is left at the limit. -/
def descend (depth : Nat) (m : Mark) : Decode Nat :=
  match depth with
  | 0 => throw (.located "recursion limit exceeded" m)
  | d + 1 => pure d

/-- What a scalar stands for, its tag first: the core tags `bool`, `int`, `float` and `null`
check the text, a local tag on a plain scalar reads it as untagged, and other tags make text. -/
def reading (tag : Option String) (value : String) (style : ScalarStyle) : Except Error Reading :=
  let plain := style = .plain
  match tag with
  | some t =>
    if t = Tag.bool then
      match Scalar.bool? value with
      | some b => .ok (.bool b)
      | none => .error (invalidValue (Reading.text value).describe "a boolean")
    else if t = Tag.int then
      match Scalar.integer value with
      | some r => .ok r
      | none => .error (invalidValue (Reading.text value).describe "an integer")
    else if t = Tag.float then
      match Scalar.float? value with
      | some f => .ok (.float f)
      | none => .error (invalidValue (Reading.text value).describe "a float")
    else if t = Tag.null then
      if Scalar.isNull value then .ok .null
      else .error (invalidValue (Reading.text value).describe "null")
    else if t.startsWith "!" && plain then .ok (Reading.ofPlain value)
    else .ok (.text value)
  | none => .ok (if plain then Reading.ofPlain value else .text value)

/-- The refusal for an item of the wrong kind. -/
def unexpected (item : Item) (expected : String) : Error :=
  match item with
  | .scalar tag value style =>
    match reading tag value style with
    | .ok r => invalidType r.describe expected
    | .error e => e
  | .sequenceStart _ => invalidType "sequence" expected
  | .mappingStart _ => invalidType "map" expected
  | .void => endOfStream
  | .sequenceEnd => .plain "unexpected end of sequence"
  | .mappingEnd => .plain "unexpected end of mapping"
  | .alias _ => .plain "unexpected alias"

/-- Steps over one value, nested collections included, without following aliases. -/
def ignore (d : Document) : Decode Unit := do
  let mut level := 0
  for _ in List.range (d.items.size + 1) do
    let (item, _) ← next d
    match item with
    | .sequenceStart _ | .mappingStart _ => level := level + 1
    | .sequenceEnd | .mappingEnd => level := level - 1
    | _ => pure ()
    if level = 0 then break

/-- Reads a scalar's text, whatever its tag and style. -/
def text (d : Document) (path : Path) (expected : String) : Decode String :=
  follow d path fun item mark path => placed path mark do
    match item with
    | .scalar _ value _ => pure value
    | _ => throw (unexpected item expected)

/-- Reads a boolean: a plain scalar, or a literal block scalar tagged `!!bool`, spelling one. -/
def bool (d : Document) (path : Path) : Decode Bool :=
  follow d path fun item mark path => placed path mark do
    match item with
    | .scalar tag value style =>
      let eligible := style = .plain || (style = .literal && tag = some Tag.bool)
      match (if eligible then Scalar.bool? value else none) with
      | some b => pure b
      | none => throw (unexpected item "a boolean")
    | _ => throw (unexpected item "a boolean")

/-- Reads an optional value: null (an empty or null plain scalar, or one tagged `!!null`) is
absent, anything else is read by `k` at the value's path. A `!!null` scalar that is not null is
refused. -/
def option (d : Document) (path : Path) (k : Path → Decode α) : Decode (Option α) := do
  let present (item : Item) : Except Error Bool :=
    match item with
    | .scalar tag value style =>
      if style ≠ .plain then .ok true
      else match tag with
        | some t =>
          if t = Tag.null then
            if Scalar.isNull value then .ok false
            else .error (invalidValue (Reading.text value).describe "null")
          else .ok true
        | none => .ok (!value.isEmpty && !Scalar.isNull value)
    | .void => .ok false
    | _ => .ok true
  let atNode (path : Path) : Decode (Option α) := do
    let (item, _) ← peek d
    if ← liftM (present item) then some <$> k path
    else
      skip
      pure none
  let (item, _) ← peek d
  match item with
  | .alias id =>
    skip
    jump d id (atNode (.alias path))
  | _ => atNode path
where
  liftM {β : Type} (e : Except Error β) : Decode β := match e with
    | .ok b => pure b
    | .error err => throw err

/-- A field of a record: its name, and how its value, read at a path with some nesting left,
updates the record. -/
structure Field (σ : Type) where
  name : String
  decode : Path → Nat → σ → Decode σ

/-- Reads a record from a mapping: each known key's value updates the record, unknown keys are
stepped over, and a key given twice is refused. An empty plain scalar (or an empty stream) is
the record with no fields given. -/
def record {σ : Type} (d : Document) (path : Path) (depth : Nat) (expected : String)
    (fields : List (Field σ)) (init : σ) : Decode σ :=
  follow d path fun item mark path => placed path mark do
    match item with
    | .mappingStart _ =>
      let inner ← descend depth mark
      let mut acc := init
      let mut seen : List String := []
      for _ in List.range (d.items.size + 1) do
        let (it, _) ← peek d
        if it = .mappingEnd || it = .void then break
        let keyName : Option String := match it with
          | .scalar _ v _ => some v
          | _ => none
        let key ← text d path "field identifier"
        let valuePath := match keyName with
          | some k => Path.key path k
          | none => Path.unknown path
        match fields.find? (·.name = key) with
        | some f =>
          if seen.contains key then throw (.message ("duplicate field " ++ Tag.grave key) none)
          seen := key :: seen
          acc ← f.decode valuePath inner acc
        | none => ignore d
      let _ ← next d
      pure acc
    | .void => pure init
    | .scalar _ "" .plain => pure init
    | _ => throw (unexpected item expected)

/-- The refusal of a name that is not among the variants. -/
def unknownVariant (name : String) (variants : List String) : Error :=
  let quoted := variants.map Tag.grave
  let expected := match quoted with
    | [] => "there are no variants"
    | [a] => "expected " ++ a
    | [a, b] => "expected " ++ a ++ " or " ++ b
    | _ => "expected one of " ++ ", ".intercalate quoted
  .message ("unknown variant " ++ Tag.grave name ++ ", " ++ expected) none

/-- Checks a name against the variants. -/
def choose (name : String) (variants : List String) : Except Error String :=
  if variants.contains name then .ok name else .error (unknownVariant name variants)

/-- Reads what follows a variant named by a tag: nothing, that is an empty or null plain
scalar. -/
def unit (d : Document) (path : Path) : Decode Unit :=
  follow d path fun item mark path => placed path mark do
    match item with
    | .scalar _ value style =>
      if style = .plain && (value.isEmpty || Scalar.isNull value) then pure ()
      else throw (invalidValue (Reading.text value).describe "null")
    | .void => pure ()
    | _ => throw (unexpected item "unit")

/-- Reads one of a fixed list of names: a scalar's text, or the name of a local tag
(`!name`) on an empty node. -/
def variant (d : Document) (path : Path) (expected : String) (variants : List String) :
    Decode String := do
  let atNode (path : Path) : Decode String := do
    let (item, mark) ← peek d
    let byTag (name : String) : Decode String := do
      let v ← liftM (choose name variants)
      unit d path
      pure v
    match item with
    | .scalar tag _ _ =>
      match Tag.local? tag with
      | some name => byTag name
      | none => placed path mark do
        let name ← text d path "variant identifier"
        liftM (choose name variants)
    | .mappingStart tag | .sequenceStart tag =>
      match Tag.local? tag with
      | some name =>
        skip
        byTag name
      | none =>
        let found := match item with
          | .mappingStart _ => "map"
          | _ => "sequence"
        throw ((invalidType found "a YAML tag starting with '!'").place path.text mark)
    | .void => throw endOfStream
    | _ => placed path mark (throw (unexpected item expected))
  let (item, _) ← peek d
  match item with
  | .alias id =>
    skip
    jump d id (atNode (.alias path))
  | _ => atNode path
where
  liftM {β : Type} (e : Except Error β) : Decode β := match e with
    | .ok b => pure b
    | .error err => throw err

end Decode

namespace Document

/-- Runs a decoder on the first document: its refusal first, then the document's fault, then a
second document. -/
def decode {α : Type} (d : Document) (k : Decode α) : Except Error α := do
  let (a, _) ← k.run {}
  if let some e := d.error then throw e
  if d.more then throw (.plain "deserializing from YAML containing more than one document is not supported")
  pure a

end Document

end TableMachine.Yaml
