import TableMachine.Yaml.Event

/-!
# YAML documents

`Document.load` reads the first document of a YAML text as a flat array of node events
(`Item`), each with the place where it starts. Anchors are numbered in order of first
appearance, and an alias refers to the number of its anchor; `Document.target?` gives the item
that a number last anchored. Every anchor gets the count of names seen before it as its number,
also when its name is reused; so a reused name shares its new number with the next new name,
and an alias to either follows the latest node numbered so.

A text whose first document is malformed still gives the items read before the fault, with the
fault kept in `error`; a decoder that runs out of items reports it. An empty stream gives one
`void` item. `more` tells whether anything follows the first document.
-/

namespace TableMachine.Yaml

/-- A node event of a loaded document. -/
inductive Item where
  | scalar (tag : Option String) (value : String) (style : ScalarStyle)
  | sequenceStart (tag : Option String)
  | sequenceEnd
  | mappingStart (tag : Option String)
  | mappingEnd
  /-- An alias to the node numbered `id`. -/
  | alias (id : Nat)
  /-- The place of the value of an empty stream. -/
  | void
  deriving DecidableEq, Repr, Inhabited

/-- The first document of a YAML text. -/
structure Document where
  items : Array (Item × Mark) := #[]
  /-- Anchor names with their numbers. -/
  anchors : List (String × Nat) := []
  /-- Anchor numbers with the items they anchor, the latest first. -/
  targets : List (Nat × Nat) := []
  /-- The fault that cut the document short. -/
  error : Option Error := none
  /-- Whether another document follows. -/
  more : Bool := false
  deriving Inhabited

namespace Document

/-- The item that an anchor number refers to. -/
def target? (d : Document) (id : Nat) : Option Nat := (d.targets.find? (·.1 = id)).map (·.2)

/-- The item at a position. -/
def item? (d : Document) (pos : Nat) : Option (Item × Mark) := d.items[pos]?

/-- Records an anchor on the next item. -/
def anchor (d : Document) : Option String → Document
  | none => d
  | some name =>
    let id := d.anchors.length
    let anchors := if d.anchors.any (·.1 = name) then
        d.anchors.map fun (n, k) => if n = name then (n, id) else (n, k)
      else d.anchors ++ [(name, id)]
    { d with anchors, targets := (id, d.items.size) :: d.targets }

/-- Appends an item. -/
def push (d : Document) (item : Item) (m : Mark) : Document := { d with items := d.items.push (item, m) }

/-- Whether the parser, after the first document, finds another one. -/
def follows (p : EventParser) : Bool :=
  match EventParser.next.run p with
  | .ok (ev, _) => ev.kind ≠ .streamEnd
  | .error _ => true

/-- Reads events into the document until its end, with at most `fuel` events. -/
def collect (d : Document) (p : EventParser) : Nat → Document
  | 0 => d
  | fuel + 1 =>
    match EventParser.next.run p with
    | .error e => { d with error := some e }
    | .ok (ev, p) =>
      match ev.kind with
      | .streamStart | .documentStart _ => collect d p fuel
      | .streamEnd => if d.items.isEmpty then d.push .void ev.start else d
      | .documentEnd _ => { d with more := follows p }
      | .alias name =>
        match d.anchors.find? (·.1 = name) with
        | some (_, id) => collect (d.push (.alias id) ev.start) p fuel
        | none => { d with error := some (.located "unknown anchor" ev.start) }
      | .scalar a tag value style => collect ((d.anchor a).push (.scalar tag value style) ev.start) p fuel
      | .sequenceStart a tag => collect ((d.anchor a).push (.sequenceStart tag) ev.start) p fuel
      | .sequenceEnd => collect (d.push .sequenceEnd ev.start) p fuel
      | .mappingStart a tag => collect ((d.anchor a).push (.mappingStart tag) ev.start) p fuel
      | .mappingEnd => collect (d.push .mappingEnd ev.start) p fuel

/-- Loads the first document of a text. Every event but the last reads a token or stands for
an empty node beside one, so eight events per character bound the work. -/
def load (text : String) : Document :=
  match Scanner.start text with
  | .error e => { error := some e }
  | .ok sc => collect {} { scanner := sc } (8 * (text.length + 8))

end Document

end TableMachine.Yaml
