import TableMachine.Tool.Usage
import TableMachine.Tool.Failure
import TableMachine.Tool.Similar
import TableMachine.Naming.Label

/-!
# Reading the command line

The arguments are read left to right. At the top level a subcommand name hands the rest of the
arguments to that subcommand; `help` instead shows the help of the commands named after it.
`--` makes every later argument positional. `--name` and `--name=value` are long options, `-x`,
`-xvalue` and `-x=value` short ones; an option without an attached value takes the next argument
as its value. Anything else is the next positional argument; a positional argument that takes
many values keeps taking them.

An option's values are only checked once the next flag, positional argument or the end of the
command line shows that it has them all (`resolve`); an option then without a value is refused,
and so is an argument given twice, and a value that the argument's check refuses. `--help` and
`--version` stop the reading where they stand, after that check of the option before them.

When a command's own arguments are read, each option not given on the command line takes the
value of its environment variable, if that is set, checked the same way; then every required
argument must be there. The top level is finished after its subcommand, so a bad value in the
environment is reported by the subcommand first. A global option can be given at both levels:
the value from the better source wins (the command line over the environment over the default),
and the subcommand's value on a tie.
-/

namespace TableMachine.Tool

/-- Where a value came from, from weakest to strongest. -/
inductive Source where
  | env
  | commandLine
  deriving DecidableEq, Repr

/-- The strength of a source. -/
def Source.rank : Source → Nat
  | .env => 1
  | .commandLine => 2

/-- The values an argument received and where they came from. -/
structure Given where
  arg : ArgSpec
  values : List String
  source : Source
  deriving DecidableEq, Repr

/-- The state of reading one command's arguments. -/
structure ParseState where
  /-- The arguments received, in the order they were first given. -/
  given : List Given := []
  /-- The argument whose values are being collected. -/
  pending : Option (ArgSpec × List String) := none
  /-- Whether the pending option still waits for its value. -/
  awaiting : Bool := false
  /-- The index of the next positional argument. -/
  position : Nat := 0
  /-- Whether `--` was seen. -/
  trailing : Bool := false
  deriving DecidableEq, Repr

namespace ParseState

/-- Whether an argument was received. -/
def has (st : ParseState) (id : String) : Bool := st.given.any (·.arg.id = id)

/-- Forgets an argument. -/
def forget (st : ParseState) (id : String) : ParseState := { st with given := st.given.filter (·.arg.id ≠ id) }

/-- Records an argument, without values yet, unless it is already there. -/
def start (st : ParseState) (arg : ArgSpec) (source : Source) : ParseState :=
  if st.has arg.id then st else { st with given := st.given ++ [⟨arg, [], source⟩] }

/-- Adds a value to a recorded argument. -/
def add (st : ParseState) (id : String) (v : String) : ParseState :=
  { st with given := st.given.map fun g => if g.arg.id = id then { g with values := g.values ++ [v] } else g }

/-- The arguments received, in order. -/
def used (st : ParseState) : List ArgSpec := st.given.map (·.arg)

/-- The values of an argument and their source. -/
def find? (st : ParseState) (id : String) : Option Given := st.given.find? (·.arg.id = id)

end ParseState

/-- Why reading the command line stopped early. -/
inductive Stop where
  /-- Help was asked for: the help screen of a command goes to standard output. -/
  | help (scope : Scope)
  /-- Nothing was given: the help screen goes to standard error, as a refusal. -/
  | helpOnEmpty (scope : Scope)
  /-- The version was asked for. -/
  | version
  /-- The command line is refused. -/
  | failure (f : Failure)
  deriving DecidableEq, Repr

/-- The reason an argument's check refuses a value. -/
def refusal (arg : ArgSpec) (v : String) : Option Failure :=
  match arg.value with
  | .path => if v.isEmpty then some (Failure.emptyValue arg.display) else none
  | .capitalization =>
    match Capitalization.ofString? v with
    | .ok _ => none
    | .error reason => some (Failure.invalidValue arg.display v reason)
  | _ => none

/-- Adds checked values to an argument, stopping at the first refused one. -/
def addValues (arg : ArgSpec) : ParseState → List String → ParseState × Option Failure
  | st, [] => (st, none)
  | st, v :: rest =>
    match refusal arg v with
    | some f => (st, some f)
    | none => addValues arg (st.add arg.id v) rest

/-- Whether an argument takes every value from its position on. -/
def ArgSpec.many (a : ArgSpec) : Bool :=
  match a.kind with
  | .positional _ _ many => many
  | _ => false

/-- Gives an argument its values. Refuses an option without a value on the command line, an
argument given twice and a refused value; the state returned is the one the refusal leaves
(an argument given twice is forgotten, one with a refused value keeps the values before it). -/
def react (sc : Scope) (st : ParseState) (arg : ArgSpec) (vals : List String) (source : Source) :
    ParseState × Option Failure :=
  let isOption : Bool := match arg.kind with
    | .option _ => true
    | _ => false
  if source == .commandLine && isOption && vals.isEmpty then (st, some (Failure.emptyValue arg.display))
  else if !arg.many ∧ st.has arg.id then (st.forget arg.id, some (Failure.repeated arg.display sc.usage))
  else
    let vals := if vals.isEmpty then ["true"] else vals
    addValues arg (st.start arg source) vals

/-- Gives the pending argument its values. -/
def resolve (sc : Scope) (st : ParseState) : ParseState × Option Failure :=
  match st.pending with
  | none => (st, none)
  | some (arg, vals) => react sc { st with pending := none, awaiting := false } arg vals .commandLine

/-- The state, or the refusal as a stop. -/
def strict : ParseState × Option Failure → Except Stop ParseState
  | (_, some f) => .error (.failure f)
  | (st, none) => .ok st

/-- What one argument does to the reading. -/
inductive Step where
  /-- Reading goes on with the next argument. -/
  | next (st : ParseState)
  /-- A subcommand is named: the arguments after it are its own. -/
  | enter (st : ParseState) (c : CommandSpec)

/-- The help screen of the commands named after `help`, or the refusal of a name that is not a
subcommand. -/
def helpFor (p : ProgramSpec) : Scope → List String → Stop
  | sc, [] => .help sc
  | sc, name :: more =>
    match sc.command? name with
    | some c => helpFor p (p.scopeOf c) more
    | none => .failure { Failure.unrecognizedSubcommand name sc.usage with helpHint := sc.helpFlag }

/-- The refusal of an argument that is neither a flag nor a positional argument of the
command. -/
def strayArgument (sc : Scope) (st : ParseState) (a : String) : Failure :=
  if st.trailing ∧ (sc.command? a).isSome then
    { Failure.unknownArgument a sc.usage with tips := [Failure.doubleDashTip a] }
  else if !sc.commands.isEmpty then
    match similarNames a (sc.commands.map (·.name)) with
    | [] =>
      if sc.hasPositionals then Failure.unknownArgument a sc.usage
      else Failure.unrecognizedSubcommand a sc.usage
    | names => { Failure.unrecognizedSubcommand a sc.usage with similar := some ("subcommand", names) }
  else Failure.unknownArgument a sc.usage

/-- A positional argument. -/
def positional (sc : Scope) (st : ParseState) (a : String) : Except Stop Step :=
  match sc.positionals[st.position]? with
  | none => .error (.failure (strayArgument sc (resolve sc st).1 a))
  | some arg => do
    let same := (st.pending.map (·.1.id)) = some arg.id
    let st ← if arg.many ∧ same then pure st else strict (resolve sc st)
    let vals := match st.pending with
      | some (b, vs) => if b.id = arg.id then vs ++ [a] else [a]
      | none => [a]
    return .next { st with pending := some (arg, vals), awaiting := false,
                           position := if arg.many then st.position else st.position + 1 }

/-- The best flag of another subcommand named later on the command line. -/
def laterSubcommandFlag (p : ProgramSpec) (sc : Scope) (name : String) (rest : List String) :
    Option (String × String) :=
  let found := sc.commands.filterMap fun c =>
    match (similarNames name (p.scopeOf c).longs).getLast?, rest.idxOf? c.name with
    | some flag, some pos => some (pos, flag, c.name)
    | _, _ => none
  match found with
  | [] => none
  | first :: others =>
    let best := others.foldl (fun b x => if x.1 < b.1 then x else b) first
    some (best.2.1, best.2.2)

/-- The refusal of an unknown long flag, with the known flag most like it, or one of a
subcommand named later on the command line. -/
def unknownLong (p : ProgramSpec) (sc : Scope) (st : ParseState) (name : String) (rest : List String) :
    Failure :=
  let flag := "--" ++ name
  let own := (similarNames name sc.longs).getLast?
  let other := if own.isSome then none else laterSubcommandFlag p sc name rest
  let suggested := (own.bind sc.findLong).toList.filter fun a => !st.has a.id
  let plainTip := own.isNone ∧ other.isNone ∧ !st.trailing ∧ sc.hasPositionals
  { Failure.unknownArgument flag (sc.smartUsage (st.used ++ suggested)) with
    similar := own.map fun l => ("argument", ["--" ++ l]),
    tips := (if plainTip then [Failure.trailingTip flag] else []) ++
      (other.map fun (l, c) => Failure.subcommandTip c ("--" ++ l)).toList }

/-- Splits `name=value` at the first `=`. -/
def splitValue (body : String) : String × Option String :=
  match body.toList.idxOf? '=' with
  | some i => (String.ofList (body.toList.take i), some (String.ofList (body.toList.drop (i + 1))))
  | none => (body, none)

/-- A long flag, `--name` or `--name=value`. -/
def long (p : ProgramSpec) (sc : Scope) (st : ParseState) (body : String) (rest : List String) :
    Except Stop Step :=
  let (name, value?) := splitValue body
  match sc.findLong name with
  | none => .error (.failure (unknownLong p sc (resolve sc st).1 name rest))
  | some arg =>
    match arg.kind, value? with
    | .option _, none => do
      let st ← strict (resolve sc st)
      return .next { st with pending := some (arg, []), awaiting := true }
    | .option _, some v => do
      let st ← strict (resolve sc st)
      return .next (← strict (react sc st arg [v] .commandLine))
    | _, some v =>
      let used := (st.used.filter fun a => !(sc.required.any (·.id = a.id))) ++ [arg]
      .error (.failure (Failure.unexpectedValue v arg.display (sc.smartUsage used)))
    | .help, none => do
      let _ ← strict (resolve sc st)
      .error (.help sc)
    | .version, none => do
      let _ ← strict (resolve sc st)
      .error .version
    | _, none => do
      let st ← strict (resolve sc st)
      return .next (← strict (react sc st arg [] .commandLine))

/-- A cluster of short flags after a single dash; an option takes the rest of the cluster as its
value, or the next argument when the cluster ends with it. -/
def short (sc : Scope) (st : ParseState) : List Char → Except Stop Step
  | [] => .ok (.next st)
  | c :: more =>
    let unknown : Except Stop Step :=
      let tips := if !st.trailing ∧ sc.hasPositionals then [Failure.trailingTip ("-" ++ c.toString)] else []
      .error (.failure { Failure.unknownArgument ("-" ++ c.toString) sc.usage with tips })
    match sc.findShort c with
    | none => unknown
    | some arg =>
      match arg.kind with
      | .help => do
        let _ ← strict (resolve sc st)
        .error (.help sc)
      | .version => do
        let _ ← strict (resolve sc st)
        .error .version
      | .flag => do
        let st ← strict (resolve sc st)
        short sc (← strict (react sc st arg [] .commandLine)) more
      | .option _ => do
        let st ← strict (resolve sc st)
        match more with
        | [] => return .next { st with pending := some (arg, []), awaiting := true }
        | '=' :: value => return .next (← strict (react sc st arg [String.ofList value] .commandLine))
        | value => return .next (← strict (react sc st arg [String.ofList value] .commandLine))
      | .positional .. => unknown

/-- One argument. -/
def step (p : ProgramSpec) (sc : Scope) (st : ParseState) (a : String) (rest : List String) :
    Except Stop Step :=
  if st.trailing then positional sc st a
  else
    match sc.command? a with
    | some c => if c.name = helpCommand.name then .error (helpFor p p.top rest) else .ok (.enter st c)
    | none =>
      let cs := a.toList
      if a = "--" then .ok (.next { st with trailing := true })
      else if cs.take 2 = ['-', '-'] then long p sc st (String.ofList (cs.drop 2)) rest
      else if cs.head? = some '-' ∧ cs.length > 1 then short sc st (cs.drop 1)
      else if st.awaiting then
        .ok (.next { st with pending := st.pending.map (fun (arg, vs) => (arg, vs ++ [a])), awaiting := false })
      else positional sc st a

/-- Reads a command's arguments up to the end or to a subcommand name; gives the state and the
subcommand with the arguments after it. -/
def walk (p : ProgramSpec) (sc : Scope) :
    ParseState → List String → Except Stop (ParseState × Option (CommandSpec × List String))
  | st, [] => .ok (st, none)
  | st, a :: rest => do
    match ← step p sc st a rest with
    | .next st => walk p sc st rest
    | .enter st c => return (st, some (c, rest))

/-- Gives each argument not on the command line the value of its environment variable. -/
def fromEnvironment (sc : Scope) (env : Environment) : ParseState → List ArgSpec → Except Stop ParseState
  | st, [] => .ok st
  | st, a :: more =>
    match a.env.bind env.get? with
    | some v =>
      if st.has a.id then fromEnvironment sc env st more
      else do fromEnvironment sc env (← strict (react sc st a [v] .env)) more
    | none => fromEnvironment sc env st more

/-- Finishes a command's arguments: the pending values, then the environment. -/
def settle (sc : Scope) (env : Environment) (st : ParseState) : Except Stop ParseState := do
  let st ← strict (resolve sc st)
  fromEnvironment sc env st sc.args

/-- Refuses a command line without a required argument. -/
def checkRequired (sc : Scope) (st : ParseState) : Except Stop Unit :=
  match sc.required.filter fun a => !st.has a.id with
  | [] => .ok ()
  | missing =>
    .error (.failure (Failure.missingRequired (missing.map (·.placeholder)) (sc.smartUsage (st.used ++ missing))))

/-- A command line read in full: the top level's arguments, the subcommand and its arguments. -/
structure Parsed where
  top : ParseState
  command : CommandSpec
  sub : ParseState
  deriving DecidableEq, Repr

/-- Reads a command line. -/
def parse (p : ProgramSpec) (env : Environment) (args : List String) : Except Stop Parsed := do
  let (st, found) ← walk p p.top {} args
  match found with
  | some (c, rest) =>
    let sc := p.sub c
    let (subSt, _) ← walk p sc {} rest
    let subSt ← settle sc env subSt
    checkRequired sc subSt
    let st ← settle p.top env st
    return ⟨st, c, subSt⟩
  | none =>
    let st ← settle p.top env st
    if st.given.isEmpty then .error (.helpOnEmpty p.top)
    else
      .error (.failure (Failure.missingSubcommand p.name (p.allCommands.map (·.name)) p.top.usage))

namespace Parsed

/-- The values an argument ends with: the subcommand's, unless the top level has them from a
stronger source. -/
def values? (r : Parsed) (id : String) : Option (List String) :=
  match r.top.find? id, r.sub.find? id with
  | some t, some s => some (if s.source.rank < t.source.rank then t.values else s.values)
  | some t, none => some t.values
  | none, some s => some s.values
  | none, none => none

/-- The last value of an argument. -/
def value? (r : Parsed) (id : String) : Option String := (r.values? id).bind List.getLast?

end Parsed

end TableMachine.Tool
