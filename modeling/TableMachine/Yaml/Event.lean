import TableMachine.Yaml.Scanner

/-!
# YAML events

The event parser turns tokens into the events of the YAML grammar: stream and document
boundaries, scalars, aliases, and the starts and ends of sequences and mappings, each with its
anchor and its tag resolved through the `%TAG` directives (`!!str` is
`tag:yaml.org,2002:str`). Where a node is left out (a key without a value, `- ` with nothing
after it) the parser gives an empty plain scalar.

The parser is a state machine with a stack of states to return to, and a stack of the places
where the open collections started, for messages. `EventParser.next` gives one event at a time.
-/

namespace TableMachine.Yaml

/-- The kinds of event. -/
inductive EventKind where
  | streamStart
  | streamEnd
  | documentStart (implicit : Bool)
  | documentEnd (implicit : Bool)
  | alias (name : String)
  | scalar (anchor tag : Option String) (value : String) (style : ScalarStyle)
  | sequenceStart (anchor tag : Option String)
  | sequenceEnd
  | mappingStart (anchor tag : Option String)
  | mappingEnd
  deriving DecidableEq, Repr, Inhabited

/-- An event with the places where it starts and ends. -/
structure Event where
  kind : EventKind
  start : Mark
  stop : Mark
  deriving DecidableEq, Repr, Inhabited

/-- The states of the event parser. -/
inductive ParseState where
  | streamStart
  | implicitDocumentStart
  | documentStart
  | documentContent
  | documentEnd
  | blockNode
  | blockNodeOrIndentlessSequence
  | flowNode
  | blockSequenceFirstEntry
  | blockSequenceEntry
  | indentlessSequenceEntry
  | blockMappingFirstKey
  | blockMappingKey
  | blockMappingValue
  | flowSequenceFirstEntry
  | flowSequenceEntry
  | flowSequenceEntryMappingKey
  | flowSequenceEntryMappingValue
  | flowSequenceEntryMappingEnd
  | flowMappingFirstKey
  | flowMappingKey
  | flowMappingValue
  | flowMappingEmptyValue
  | finished
  deriving DecidableEq, Repr, Inhabited

/-- The event parser's state. -/
structure EventParser where
  scanner : Scanner
  state : ParseState := .streamStart
  states : List ParseState := []
  marks : List Mark := []
  tagDirectives : List (String × String) := []

/-- Parsing events: state and refusal. -/
abbrev EventM := StateT EventParser (Except Error)

namespace EventParser

/-- Runs a scanner step on the parser's scanner. -/
def scan {α : Type} (m : ScanM α) : EventM α := do
  let p ← get
  let (a, sc) ← liftM (m.run p.scanner)
  set { p with scanner := sc }
  return a
where
  liftM {β : Type} (e : Except Error β) : EventM β := match e with
    | .ok b => pure b
    | .error err => throw err

/-- The next token. -/
def peek : EventM Token := scan Scanner.peek

/-- Takes the next token. -/
def skipToken : EventM Unit := scan Scanner.next

/-- Refuses with a problem at a place. -/
def fail {α : Type} (problem : String) (mark : Mark) : EventM α :=
  throw (.malformed .parser problem mark none)

/-- Refuses with a problem at a place and what was being read. -/
def failIn {α : Type} (context : String) (contextMark : Mark) (problem : String) (mark : Mark) :
    EventM α :=
  throw (.malformed .parser problem mark (some (context, contextMark)))

/-- Pops the state to return to. -/
def popState : EventM Unit :=
  modify fun p => { p with state := p.states.headD .finished, states := p.states.drop 1 }

/-- Pushes a state to return to. -/
def pushState (st : ParseState) : EventM Unit := modify fun p => { p with states := st :: p.states }

/-- Pops the start of the innermost open collection. -/
def popMark : EventM Mark := do
  let p ← get
  set { p with marks := p.marks.drop 1 }
  return p.marks.headD default

/-- Pushes the start of a collection. -/
def pushMark (m : Mark) : EventM Unit := modify fun p => { p with marks := m :: p.marks }

/-- Sets the next state. -/
def goto (st : ParseState) : EventM Unit := modify fun p => { p with state := st }

/-- An empty plain scalar at a place. -/
def emptyScalar (m : Mark) : Event := ⟨.scalar none none "" .plain, m, m⟩

/-- The default tag directives. -/
def defaultDirectives : List (String × String) := [("!", "!"), ("!!", "tag:yaml.org,2002:")]

/-- Reads the directives before a document; adds the default ones. -/
def directives : EventM Unit := do
  let mut seenVersion := false
  let mut found : List (String × String) := []
  for _ in List.range ((← get).scanner.input.size + 2) do
    let t ← peek
    match t.kind with
    | .versionDirective major minor =>
      if seenVersion then fail "found duplicate %YAML directive" t.start
      if major ≠ 1 ∨ (minor ≠ 1 ∧ minor ≠ 2) then fail "found incompatible YAML document" t.start
      seenVersion := true
      skipToken
    | .tagDirective handle pre =>
      if found.any (·.1 = handle) then fail "found duplicate %TAG directive" t.start
      found := found ++ [(handle, pre)]
      skipToken
    | _ => break
  let defaults := defaultDirectives.filter fun (h, _) => !found.any (·.1 = h)
  modify fun p => { p with tagDirectives := found ++ defaults }

/-- The full tag of a handle and suffix. -/
def resolveTag (handle suffix : String) (start tagMark : Mark) : EventM String := do
  if handle.isEmpty then return suffix
  match (← get).tagDirectives.find? (·.1 = handle) with
  | some (_, pre) => return pre ++ suffix
  | none => failIn "while parsing a node" start "found undefined tag handle" tagMark

/-- Parses a node: an alias, or a scalar or the start of a collection with its properties. -/
def node (block indentless : Bool) : EventM Event := do
  let t ← peek
  if let .alias name := t.kind then
    popState
    skipToken
    return ⟨.alias name, t.start, t.stop⟩
  let mut start := t.start
  let mut stop := t.start
  let mut anchor : Option String := none
  let mut tagParts : Option (String × String × Mark) := none
  let mut t := t
  match t.kind with
  | .anchor name =>
    anchor := some name
    stop := t.stop
    skipToken
    t ← peek
    if let .tag h s := t.kind then
      tagParts := some (h, s, t.start)
      stop := t.stop
      skipToken
      t ← peek
  | .tag h s =>
    tagParts := some (h, s, t.start)
    stop := t.stop
    skipToken
    t ← peek
    if let .anchor name := t.kind then
      anchor := some name
      stop := t.stop
      skipToken
      t ← peek
  | _ => pure ()
  let tag ← match tagParts with
    | some (h, s, m) => some <$> resolveTag h s start m
    | none => pure none
  if indentless && t.kind = .blockEntry then
    goto .indentlessSequenceEntry
    return ⟨.sequenceStart anchor tag, start, t.stop⟩
  match t.kind with
  | .scalar value style =>
    popState
    skipToken
    return ⟨.scalar anchor tag value style, start, t.stop⟩
  | .flowSequenceStart =>
    goto .flowSequenceFirstEntry
    return ⟨.sequenceStart anchor tag, start, t.stop⟩
  | .flowMappingStart =>
    goto .flowMappingFirstKey
    return ⟨.mappingStart anchor tag, start, t.stop⟩
  | .blockSequenceStart =>
    if block then
      goto .blockSequenceFirstEntry
      return ⟨.sequenceStart anchor tag, start, t.stop⟩
  | .blockMappingStart =>
    if block then
      goto .blockMappingFirstKey
      return ⟨.mappingStart anchor tag, start, t.stop⟩
  | _ => pure ()
  if anchor.isSome || tag.isSome then
    popState
    return ⟨.scalar anchor tag "" .plain, start, stop⟩
  failIn (if block then "while parsing a block node" else "while parsing a flow node") start
    "did not find expected node content" t.start

/-- The start of a document, or the end of the stream. -/
def documentStart (implicit : Bool) : EventM Event := do
  let mut t ← peek
  if !implicit then
    for _ in List.range ((← get).scanner.input.size + 2) do
      if t.kind ≠ .documentEnd then break
      skipToken
      t ← peek
  let isDirective := match t.kind with
    | .versionDirective .. | .tagDirective .. => true
    | _ => false
  if implicit && !isDirective && t.kind ≠ .documentStart && t.kind ≠ .streamEnd then
    directives
    pushState .documentEnd
    goto .blockNode
    return ⟨.documentStart true, t.start, t.start⟩
  if t.kind ≠ .streamEnd then
    let start := t.start
    directives
    let u ← peek
    if u.kind ≠ .documentStart then fail "did not find expected <document start>" u.start
    pushState .documentEnd
    goto .documentContent
    skipToken
    return ⟨.documentStart false, start, u.stop⟩
  goto .finished
  skipToken
  return ⟨.streamEnd, t.start, t.stop⟩

/-- The next event. -/
def next : EventM Event := do
  let p ← get
  match p.state with
  | .streamStart =>
    let t ← peek
    if t.kind ≠ .streamStart then fail "did not find expected <stream-start>" t.start
    goto .implicitDocumentStart
    skipToken
    return ⟨.streamStart, t.start, t.start⟩
  | .implicitDocumentStart => documentStart true
  | .documentStart => documentStart false
  | .documentContent =>
    let t ← peek
    match t.kind with
    | .versionDirective .. | .tagDirective .. | .documentStart | .documentEnd | .streamEnd =>
      popState
      return emptyScalar t.start
    | _ => node true false
  | .documentEnd =>
    let t ← peek
    let mut stop := t.start
    let mut implicit := true
    if t.kind = .documentEnd then
      stop := t.stop
      skipToken
      implicit := false
    modify fun p => { p with tagDirectives := [] }
    goto .documentStart
    return ⟨.documentEnd implicit, t.start, stop⟩
  | .blockNode => node true false
  | .blockNodeOrIndentlessSequence => node true true
  | .flowNode => node false false
  | .blockSequenceFirstEntry | .blockSequenceEntry =>
    if p.state = .blockSequenceFirstEntry then
      pushMark (← peek).start
      skipToken
    let t ← peek
    match t.kind with
    | .blockEntry =>
      skipToken
      let u ← peek
      if u.kind ≠ .blockEntry && u.kind ≠ .blockEnd then
        pushState .blockSequenceEntry
        node true false
      else
        goto .blockSequenceEntry
        return emptyScalar t.stop
    | .blockEnd =>
      popState
      let _ ← popMark
      skipToken
      return ⟨.sequenceEnd, t.start, t.stop⟩
    | _ =>
      failIn "while parsing a block collection" (← popMark) "did not find expected '-' indicator" t.start
  | .indentlessSequenceEntry =>
    let t ← peek
    if t.kind = .blockEntry then
      skipToken
      let u ← peek
      if u.kind ≠ .blockEntry && u.kind ≠ .key && u.kind ≠ .value && u.kind ≠ .blockEnd then
        pushState .indentlessSequenceEntry
        node true false
      else
        goto .indentlessSequenceEntry
        return emptyScalar t.stop
    else
      popState
      return ⟨.sequenceEnd, t.start, t.start⟩
  | .blockMappingFirstKey | .blockMappingKey =>
    if p.state = .blockMappingFirstKey then
      pushMark (← peek).start
      skipToken
    let t ← peek
    match t.kind with
    | .key =>
      skipToken
      let u ← peek
      if u.kind ≠ .key && u.kind ≠ .value && u.kind ≠ .blockEnd then
        pushState .blockMappingValue
        node true true
      else
        goto .blockMappingValue
        return emptyScalar t.stop
    | .blockEnd =>
      popState
      let _ ← popMark
      skipToken
      return ⟨.mappingEnd, t.start, t.stop⟩
    | _ =>
      failIn "while parsing a block mapping" (← popMark) "did not find expected key" t.start
  | .blockMappingValue =>
    let t ← peek
    if t.kind = .value then
      skipToken
      let u ← peek
      if u.kind ≠ .key && u.kind ≠ .value && u.kind ≠ .blockEnd then
        pushState .blockMappingKey
        node true true
      else
        goto .blockMappingKey
        return emptyScalar t.stop
    else
      goto .blockMappingKey
      return emptyScalar t.start
  | .flowSequenceFirstEntry | .flowSequenceEntry =>
    let first := p.state = .flowSequenceFirstEntry
    if first then
      pushMark (← peek).start
      skipToken
    let mut t ← peek
    if t.kind ≠ .flowSequenceEnd then
      if !first then
        if t.kind = .flowEntry then
          skipToken
          t ← peek
        else
          failIn "while parsing a flow sequence" (← popMark) "did not find expected ',' or ']'" t.start
      if t.kind = .key then
        goto .flowSequenceEntryMappingKey
        skipToken
        return ⟨.mappingStart none none, t.start, t.stop⟩
      if t.kind ≠ .flowSequenceEnd then
        pushState .flowSequenceEntry
        return ← node false false
    popState
    let _ ← popMark
    skipToken
    return ⟨.sequenceEnd, t.start, t.stop⟩
  | .flowSequenceEntryMappingKey =>
    let t ← peek
    if t.kind ≠ .value && t.kind ≠ .flowEntry && t.kind ≠ .flowSequenceEnd then
      pushState .flowSequenceEntryMappingValue
      node false false
    else
      goto .flowSequenceEntryMappingValue
      return emptyScalar t.start
  | .flowSequenceEntryMappingValue =>
    let mut t ← peek
    if t.kind = .value then
      skipToken
      t ← peek
      if t.kind ≠ .flowEntry && t.kind ≠ .flowSequenceEnd then
        pushState .flowSequenceEntryMappingEnd
        return ← node false false
    goto .flowSequenceEntryMappingEnd
    return emptyScalar t.start
  | .flowSequenceEntryMappingEnd =>
    let t ← peek
    goto .flowSequenceEntry
    return ⟨.mappingEnd, t.start, t.start⟩
  | .flowMappingFirstKey | .flowMappingKey =>
    let first := p.state = .flowMappingFirstKey
    if first then
      pushMark (← peek).start
      skipToken
    let mut t ← peek
    if t.kind ≠ .flowMappingEnd then
      if !first then
        if t.kind = .flowEntry then
          skipToken
          t ← peek
        else
          failIn "while parsing a flow mapping" (← popMark) "did not find expected ',' or '\x7d'" t.start
      if t.kind = .key then
        skipToken
        let u ← peek
        if u.kind ≠ .value && u.kind ≠ .flowEntry && u.kind ≠ .flowMappingEnd then
          pushState .flowMappingValue
          return ← node false false
        else
          goto .flowMappingValue
          return emptyScalar u.start
      if t.kind ≠ .flowMappingEnd then
        pushState .flowMappingEmptyValue
        return ← node false false
    popState
    let _ ← popMark
    skipToken
    return ⟨.mappingEnd, t.start, t.stop⟩
  | .flowMappingValue =>
    let mut t ← peek
    if t.kind = .value then
      skipToken
      t ← peek
      if t.kind ≠ .flowEntry && t.kind ≠ .flowMappingEnd then
        pushState .flowMappingKey
        return ← node false false
    goto .flowMappingKey
    return emptyScalar t.start
  | .flowMappingEmptyValue =>
    let t ← peek
    goto .flowMappingKey
    return emptyScalar t.start
  | .finished =>
    let m := p.scanner.mark
    return ⟨.streamEnd, m, m⟩

end EventParser

end TableMachine.Yaml
