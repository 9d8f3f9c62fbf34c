import TableMachine.Tool.Repl
import TableMachine.Proofs.Interpreter

/-!
# Resetting a session starts it anew

A session remembers the table and the state it was asked to start in, and `:reset` builds a new
session from them. Nothing else a line does touches either, so however many lines came before,
and however many resets among them, a reset gives back the session as it started:

> `reset_restarts_session`: a session started on a table that handles any lines and then a
> `:reset` line (with any white space around `reset`) is the session as it started. So it answers
> every later line as a fresh session does and ends where a fresh one ends; it is back in the
> state asked for, or the first declared state; and on every session reached from the start, a
> line that is fed to the machine shows each notification of its step exactly once, in order.

The proof rests on one invariant, `Session.Runs`: the session keeps its table and initial state,
its machine runs on that table, and the machine's registry is the one the session started with,
a single catch-all handler. A session starts so (`start_runs`), every line keeps it
(`handle_runs`), and under it the handler receives each notification once (`captured_eq`).
-/

namespace TableMachine.Unicode

/-- The boundaries of the white-space ranges, read off the table: tab to carriage return, space,
next line, no-break space, ogham space, the spaces from en quad to hair space, the line and
paragraph separators, narrow no-break space, medium mathematical space and ideographic space. -/
theorem whiteSpace_points : whiteSpace.points =
    #[9, 14, 32, 33, 133, 134, 160, 161, 5760, 5761, 8192, 8203, 8232, 8234, 8239, 8240, 8287, 8288,
      12288, 12289] := by
  simp only [whiteSpace, InversionList.decode, fields, String.foldl_eq_foldl_toList,
    String.reduceToList]
  decide

end TableMachine.Unicode

namespace TableMachine.Tool

open TableMachine.Text

/-- Handles lines one after another: the session after them and the reply to each. -/
def Session.handleAll (colors : Bool) (s : Session) : List String → Session × List Reply
  | [] => (s, [])
  | line :: rest =>
    let (s', reply, _) := s.handle colors line
    let (last, replies) := s'.handleAll colors rest
    (last, reply :: replies)

namespace Session

/-- The registry of a session's machine as it starts: one catch-all handler. -/
def capturing : Listeners Unit := (({} : Listeners Unit).onAny ()).1

/-- A session at work on table `c` that was asked to start in `initial`: it keeps both, its
machine runs on `c`, and its machine's registry is the one it started with. -/
structure Runs (c : Compiled) (initial : Option String) (s : Session) : Prop where
  table_eq : s.table = c
  initial_eq : s.initial = initial
  machine_table : s.machine.table = c
  listeners_eq : s.machine.listeners = capturing

theorem start_runs (c : Compiled) (initial : Option String) : (start c initial).1.Runs c initial := by
  cases initial <;> exact ⟨rfl, rfl, rfl, rfl⟩

/-- A session starts in the state asked for, or else in the table's first declared state. -/
theorem start_state (c : Compiled) (initial : Option String) :
    (start c initial).1.machine.state = initial.getD c.initialState := by
  cases initial <;> rfl

/-- A command leaves the session as it is, except `reset`, which starts it anew. -/
theorem command_fst (colors : Bool) (s : Session) (cmd : String) :
    (s.command colors cmd).1 = if cmd = "reset" then (start s.table s.initial).1 else s := by
  unfold command
  split
  case h_7 => simp
  case h_10 => rw [if_neg (by assumption)]
  -- every other command names itself, which is not `reset`
  all_goals simp

/-- A line that starts with `:` runs the command after it, trimmed. -/
theorem handle_command_fst (colors : Bool) (s : Session) {line : String} {cmd : List Char}
    (h : line.toList = ':' :: cmd) :
    (s.handle colors line).1 = (s.command colors (trim (String.ofList cmd))).1 := by
  unfold handle
  split
  · next heq => rw [h, List.cons.injEq] at heq; rw [heq.2]
  · next hne => exact absurd h (hne cmd)

/-- Any other line is fed to the machine. -/
theorem handle_input_fst (colors : Bool) (s : Session) {line : String}
    (h : line.toList.head? ≠ some ':') :
    (s.handle colors line).1 = { s with machine := (s.machine.transition line).1 } := by
  unfold handle
  split
  · next heq => simp [heq] at h
  · rfl

/-- Every line keeps a session running on its table with its registry. -/
theorem handle_runs {c : Compiled} {initial : Option String} {s : Session} (h : s.Runs c initial)
    (colors : Bool) (line : String) : (s.handle colors line).1.Runs c initial := by
  by_cases hc : line.toList.head? = some ':'
  · obtain ⟨cmd, hcmd⟩ := List.head?_eq_some_iff.mp hc
    rw [handle_command_fst colors s hcmd, command_fst]
    split
    · rw [h.table_eq, h.initial_eq]
      exact start_runs c initial
    · exact h
  · rw [handle_input_fst colors s hc]
    exact ⟨h.table_eq, h.initial_eq, by simp [h.machine_table], by simp [h.listeners_eq]⟩

/-- However many lines, resets among them, a session keeps running on its table with its
registry. -/
theorem handleAll_runs {c : Compiled} {initial : Option String} (colors : Bool) :
    ∀ (lines : List String) {s : Session}, s.Runs c initial →
      (s.handleAll colors lines).1.Runs c initial
  | [], _, h => h
  | line :: rest, _, h => handleAll_runs colors rest (handle_runs h colors line)

/-- The session's handler receives every notification of a step exactly once, in order. -/
theorem captured_eq (ns : List Notification) : (Machine.calls capturing ns).map (·.2) = ns :=
  Machine.calls_onAny_empty_snd () ns

/-- A line that is not a command shows the step with the notifications it emitted. -/
theorem handle_feed {c : Compiled} {initial : Option String} {s : Session} (h : s.Runs c initial)
    (colors : Bool) {line : String} (hline : line.toList.head? ≠ some ':') :
    (s.handle colors line).2.1 =
      .print (stepText colors line s.machine.state (s.machine.transition line).1.state
        (s.machine.transition line).2.1.notifications) := by
  unfold handle
  split
  · next cmd heq => simp [heq] at hline
  · simp only [Machine.transition, h.listeners_eq, captured_eq]

/-! ## Resetting -/

/-- Whether a character is white space, as trimming reads it. -/
def isWhite (ch : Char) : Bool := Unicode.whiteSpace.contains ch.toNat

/-- Trimming the end of a text whose last character is not white space, followed by white space,
gives back the text. -/
theorem trimEnd_append_white {s w : String} (hw : w.toList.all isWhite)
    (hs : s.toList.getLast?.any isWhite = false) : trimEnd (s ++ w) = s := by
  have hkeep : s.toList.reverse.dropWhile isWhite = s.toList.reverse := by
    cases hrev : s.toList.reverse with
    | nil => rfl
    | cons z zs =>
      -- the last character stays, and with it everything before
      have hz : s.toList.getLast? = some z := by
        rw [← List.head?_reverse, hrev, List.head?_cons]
      rw [hz, Option.any_some] at hs
      exact List.dropWhile_cons_of_neg (by simp [hs])
  show String.ofList ((s ++ w).toList.reverse.dropWhile isWhite).reverse = s
  rw [String.toList_append, List.reverse_append, List.dropWhile_append_of_pos (by simpa using hw),
    hkeep, List.reverse_reverse, String.ofList_toList]

/-- White space around a word that neither starts nor ends with white space is trimmed away. -/
theorem trim_around {w₁ w₂ word : String} (hw₁ : w₁.toList.all isWhite)
    (hw₂ : w₂.toList.all isWhite)
    (hne : word ≠ "") (hfirst : word.toList.head?.any isWhite = false)
    (hlast : word.toList.getLast?.any isWhite = false) :
    trim (w₁ ++ word ++ w₂) = word := by
  have hword : word.toList ≠ [] := fun h => hne (String.toList_eq_nil_iff.mp h)
  have hend : (w₁ ++ word).toList.getLast?.any isWhite = false := by
    rw [String.toList_append, List.getLast?_append_of_ne_nil _ hword]
    exact hlast
  have hstart : word.toList.dropWhile isWhite = word.toList := by
    obtain ⟨a, rest, ha⟩ := List.exists_cons_of_ne_nil hword
    rw [ha] at hfirst ⊢
    exact List.dropWhile_cons_of_neg (by simpa using hfirst)
  show String.ofList ((trimEnd (w₁ ++ word ++ w₂)).toList.dropWhile isWhite) = word
  rw [trimEnd_append_white hw₂ hend, String.toList_append,
    List.dropWhile_append_of_pos (by simpa using hw₁), hstart, String.ofList_toList]

/-- Tab and space are white space; the letters `reset` starts and ends with are not. -/
theorem isWhite_chars : isWhite '\t' = true ∧ isWhite ' ' = true ∧ isWhite 'r' = false ∧
    isWhite 't' = false := by
  simp [isWhite, Unicode.InversionList.contains, Unicode.whiteSpace_points, Unicode.countAtMost,
    Unicode.countWhile, Unicode.countWhile.go]

/-- A `:reset` line, with any white space around the word, starts the session anew. -/
theorem handle_reset (colors : Bool) (s : Session) {w₁ w₂ : String}
    (hw₁ : w₁.toList.all isWhite) (hw₂ : w₂.toList.all isWhite) :
    (s.handle colors (":" ++ w₁ ++ "reset" ++ w₂)).1 = (start s.table s.initial).1 := by
  have htext : (":" ++ w₁ ++ "reset" ++ w₂).toList = ':' :: (w₁ ++ "reset" ++ w₂).toList := by
    simp
  -- the word starts and ends with letters, which are no white space
  have htrim : trim (w₁ ++ "reset" ++ w₂) = "reset" :=
    trim_around hw₁ hw₂ (by simp) (by simp [isWhite_chars.2.2.1]) (by simp [isWhite_chars.2.2.2])
  rw [handle_command_fst colors s htext, String.ofList_toList, htrim, command_fst, if_pos rfl]

end Session

/-- **Resetting a session starts it anew.** A session started on a table, having handled any
lines and then a `:reset` line with any white space around the word, is the session as it
started: it answers any further lines exactly as a fresh session does and ends in the same
session and machine state; it is back in the state asked for, or the first declared state when
none was; and on every session reached from the start, whatever resets came before, a line that
is not a command shows its step with each notification of the step exactly once, in order. -/
theorem reset_restarts_session (colors : Bool) (c : Compiled) (initial : Option String)
    (L₁ L₂ : List String) (w₁ w₂ : String)
    (hw₁ : w₁.toList.all Session.isWhite) (hw₂ : w₂.toList.all Session.isWhite) :
    let fresh := (Session.start c initial).1
    let reset := ((fresh.handleAll colors L₁).1.handle colors (":" ++ w₁ ++ "reset" ++ w₂)).1
    reset.handleAll colors L₂ = fresh.handleAll colors L₂ ∧
    reset.machine.state = initial.getD c.initialState ∧
    ∀ (L : List String) (line : String), line.toList.head? ≠ some ':' →
      let s := (fresh.handleAll colors L).1
      (s.handle colors line).2.1 =
        .print (stepText colors line s.machine.state (s.machine.transition line).1.state
          (s.machine.transition line).2.1.notifications) := by
  intro fresh reset
  have hruns := Session.handleAll_runs colors L₁ (Session.start_runs c initial)
  -- the reset rebuilds the session from what it kept: the table and the initial state
  have hreset : reset = fresh := by
    show ((fresh.handleAll colors L₁).1.handle colors _).1 = _
    rw [Session.handle_reset colors _ hw₁ hw₂, hruns.table_eq, hruns.initial_eq]
  refine ⟨by rw [hreset], by rw [hreset]; exact Session.start_state c initial, ?_⟩
  intro L line hline
  exact Session.handle_feed (Session.handleAll_runs colors L (Session.start_runs c initial)) colors hline

/-- A turnstile session asked to start unlocked, reset after two inputs with white space around
the command, is back where it started. -/
theorem turnstile_reset_restarts :
    let t := Table.build [("locked", [("coin", "unlocked"), ("push", "locked")]),
      ("unlocked", [("push", "locked"), ("coin", "unlocked")])]
    ∃ c, t.compile {} = .ok c ∧ " ".toList.all Session.isWhite ∧ "\t".toList.all Session.isWhite ∧
      let fresh := (Session.start c (some "unlocked")).1
      let reset := ((fresh.handleAll false ["push", "coin"]).1.handle false (":" ++ " " ++ "reset" ++ "\t")).1
      reset.handleAll false ["push"] = fresh.handleAll false ["push"] ∧
      reset.machine.state = (some "unlocked").getD c.initialState ∧
      ∀ (L : List String) (line : String), line.toList.head? ≠ some ':' →
        let s := (fresh.handleAll false L).1
        (s.handle false line).2.1 =
          .print (stepText false line s.machine.state (s.machine.transition line).1.state
            (s.machine.transition line).2.1.notifications) :=
  have hspace : " ".toList.all Session.isWhite := by simp [Session.isWhite_chars.2.1]
  have htab : "\t".toList.all Session.isWhite := by simp [Session.isWhite_chars.1]
  ⟨_, rfl, hspace, htab,
    reset_restarts_session false _ (some "unlocked") ["push", "coin"] ["push"] " " "\t" hspace htab⟩

end TableMachine.Tool
