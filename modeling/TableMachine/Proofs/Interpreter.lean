import TableMachine.Proofs.Builder
import TableMachine.Proofs.Compile
import TableMachine.Machine

/-!
# Compiled machines refine the table read directly

`Table.interpStep` reads a transition table as it was authored, with no compilation:

> in an undeclared state the input is ignored; in a declared state without rules it is ignored
> too, and announces `inFinal` when terminal signals are on; otherwise the first authored rule
> whose key is not the wildcard and accepts the input fires, or else the wildcard rule; a fired
> rule moves to its target and announces the move, with `final` when terminal signals are on
> and the target has no rules (or is not declared).

A machine over the compiled table does the same, input after input and whatever its state:

> `compiled_machine_refines_interpreter`: for a well-formed table that compiles, every run of a
> machine over the compiled table passes through the states of the direct reading and makes,
> at each step, the handler calls of the notifications the direct reading announces; a
> machine's first state is the table's first state.

All the work is in one step (`Table.dispatch_eq_interpStep`), which composes the facts of
`Proofs.Compile`: the compiled state of a name is the first declaration of that name, compiled;
a state without rules compiles to no rules; and the compiled rules, wildcard moved last, fire
what the authored rules fire. Well-formedness is needed only there, for a state's keys: with two
wildcard keys the compiler keeps the last and the direct reading the first. Every table the
builder or `Table.ofJson` makes is well formed (`Table.build_wellFormed`,
`Table.ofJson_wellFormed`). A run is then an induction on the inputs (`Machine.trace_eq_interpret`).
-/

namespace TableMachine

variable {α : Type}

/-! ## Runs -/

namespace Machine

/-- Feeds inputs one after another: what each transition returns, in order. -/
def trace (m : Machine α) : List String → List (Machine α × Step × List (α × Notification))
  | [] => []
  | x :: xs => (m.transition x) :: (m.transition x).1.trace xs

/-- The machine after it is fed inputs one after another. -/
def feed (m : Machine α) (xs : List String) : Machine α :=
  xs.foldl (fun m x => (m.transition x).1) m

@[simp] theorem transition_table (m : Machine α) (x : String) :
    (m.transition x).1.table = m.table := rfl

@[simp] theorem transition_listeners (m : Machine α) (x : String) :
    (m.transition x).1.listeners = m.listeners := rfl

/-- A registry whose one handler is a catch-all calls it with every notification. -/
theorem calls_onAny_empty (h : α) (ns : List Notification) :
    calls (({} : Listeners α).onAny h).1 ns = ns.map (h, ·) := by
  simp [calls, Listeners.onAny, Listeners.handlersFor, Listeners.registrationsFor,
    Std.HashMap.getD_empty, List.map_eq_flatMap]

/-- A registry whose one handler is a catch-all hands it every notification once, in order. -/
theorem calls_onAny_empty_snd (h : α) (ns : List Notification) :
    (calls (({} : Listeners α).onAny h).1 ns).map (·.2) = ns := by
  rw [calls_onAny_empty, List.map_map]
  exact List.map_id' ns

end Machine

/-! ## The table read directly -/

namespace Table

/-- One step of the table read directly: the state after it and what it announces. -/
def interpStep (t : Table) (o : CompileOptions) (s input : String) :
    String × List Notification :=
  match t.rules? s with
  | none => (s, [])
  | some [] => (s, if o.terminalSignals then [inFinalNotification s] else [])
  | some rules =>
    match firedRule o rules input with
    | none => (s, [])
    | some r =>
      (r.target, moveNotifications s r.target o.capitalization
        (o.terminalSignals && (t.rules? r.target).all List.isEmpty))

/-- The table read directly over inputs from state `s`: for each input, the state after it and
what it announces. -/
def interpret (t : Table) (o : CompileOptions) : String → List String →
    List (String × List Notification)
  | _, [] => []
  | s, x :: xs => t.interpStep o s x :: t.interpret o (t.interpStep o s x).1 xs

/-- Dispatching in the compiled table moves and announces as the table read directly. -/
theorem dispatch_eq_interpStep {t : Table} {o : CompileOptions} {c : Compiled}
    (ht : t.WellFormed) (hc : t.compile o = .ok c) (s x : String) :
    ((c.dispatch s x).target.getD s, (c.dispatch s x).notifications) = t.interpStep o s x := by
  rcases state?_cases hc s with ⟨hcs, hts⟩ | ⟨e, cs, he, hcs, hecs⟩
  · simp [Compiled.dispatch, interpStep, hcs, hts, Step.target, Step.notifications]
  · have hes : e.name = s := by simpa using List.find?_some he
    have hts : t.rules? s = some e.rules := by simp [rules?, he]
    obtain ⟨crs, hcrs, rfl⟩ := compileState_eq_ok hecs
    subst hes
    rw [interpStep, hts]
    simp only [Compiled.dispatch, hcs]
    cases hr : e.rules with
    | nil =>
      -- a state without rules compiles to no rules: the terminal step
      rw [hr] at hcrs
      cases hcrs
      by_cases hsig : o.terminalSignals <;>
        simp [CompiledState.isTerminal, wildcardLast, hsig, Step.target, Step.notifications]
    | cons r rs =>
      rw [hr] at hcrs
      have hne : wildcardLast crs ≠ [] := by
        rw [Ne, wildcardLast_eq_nil]
        rintro rfl
        cases hcrs
      have hrel := find?_compiled_rules (ht.keys_nodup e (List.mem_of_find?_eq_some he))
        (hr ▸ hcrs) x
      rw [hr] at hrel
      simp only [CompiledState.isTerminal, List.isEmpty_iff, hne, if_false]
      -- the compiled search and the authored reading fire related rules, or none
      generalize firedRule o (r :: rs) x = fr at hrel ⊢
      generalize (wildcardLast crs).find? (·.matcher.accepts x) = fc at hrel ⊢
      cases hrel with
      | none => rfl
      | some h =>
        obtain ⟨-, htarget, hnotes⟩ := compileRule_eq_ok h
        simp [Step.target, Step.notifications, htarget, hnotes, isTerminalTarget_eq]

/-- The first state of a table that compiles is the compiled table's initial state. -/
theorem firstState_eq_initialState {t : Table} {o : CompileOptions} {c : Compiled}
    (hc : t.compile o = .ok c) : t.firstState = some c.initialState := by
  obtain ⟨hne, hstates, -⟩ := compile_eq_ok hc
  obtain ⟨e, es, hes⟩ := List.exists_cons_of_ne_nil hne
  rw [hes] at hstates
  obtain ⟨cs, cstates, hecs, -, hc'⟩ := List.forall₂_cons_left_iff.mp hstates
  obtain ⟨crs, -, rfl⟩ := compileState_eq_ok hecs
  simp [firstState, Compiled.initialState, hes, hc']

end Table

/-! ## Runs of a machine -/

namespace Machine

theorem transition_eq_interpStep {t : Table} {o : CompileOptions} {c : Compiled}
    (ht : t.WellFormed) (hc : t.compile o = .ok c) (m : Machine α) (hm : m.table = c)
    (x : String) :
    (m.transition x).1.state = (t.interpStep o m.state x).1 ∧
      (m.transition x).2.2 = calls m.listeners (t.interpStep o m.state x).2 := by
  have h := Table.dispatch_eq_interpStep ht hc m.state x
  rw [← hm] at h
  exact ⟨congrArg Prod.fst h, by rw [← congrArg Prod.snd h]; rfl⟩

/-- A run of a machine over a compiled table passes through the states of the table read
directly, with the handler calls of what it announces. -/
theorem trace_eq_interpret {t : Table} {o : CompileOptions} {c : Compiled}
    (ht : t.WellFormed) (hc : t.compile o = .ok c) :
    ∀ (m : Machine α) (xs : List String), m.table = c →
      (m.trace xs).map (fun r => (r.1.state, r.2.2)) =
        (t.interpret o m.state xs).map fun p => (p.1, calls m.listeners p.2)
  | _, [], _ => rfl
  | m, x :: xs, hm => by
    obtain ⟨hs, hcalls⟩ := transition_eq_interpStep ht hc m hm x
    have ih := trace_eq_interpret ht hc (m.transition x).1 xs (by rw [transition_table, hm])
    rw [hs, transition_listeners] at ih
    rw [trace, Table.interpret, List.map_cons, List.map_cons, ih, hs, hcalls]

end Machine

/-- **Compiled machines refine the table read directly.** For a well-formed table that compiles,
a machine's first state is the table's first state, and a machine over the compiled table, in
any state (declared or not) and with any handlers, fed any inputs, passes through the states of
the table read directly and makes at each step the handler calls of the notifications that
reading announces; in particular a catch-all handler receives them exactly. -/
theorem compiled_machine_refines_interpreter {t : Table} {o : CompileOptions} {c : Compiled}
    (ht : t.WellFormed) (hc : t.compile o = .ok c) :
    t.firstState = some c.initialState ∧
    (∀ (m : Machine α) (xs : List String), m.table = c →
      (m.trace xs).map (fun r => (r.1.state, r.2.2)) =
        (t.interpret o m.state xs).map fun p => (p.1, Machine.calls m.listeners p.2)) ∧
    (∀ (s₀ : String) (h : α) (xs : List String),
      (((Machine.inState c s₀ : Machine α).onAny h).1.trace xs).map (fun r => (r.1.state, r.2.2)) =
        (t.interpret o s₀ xs).map fun p => (p.1, p.2.map (h, ·))) := by
  refine ⟨Table.firstState_eq_initialState hc, Machine.trace_eq_interpret ht hc, ?_⟩
  intro s₀ h xs
  rw [Machine.trace_eq_interpret ht hc _ xs rfl]
  simp [Machine.onAny, Machine.inState, Machine.calls_onAny_empty]

/-- A turnstile whose wildcard rule is authored first: it is well formed, it compiles, and its
machines refine its direct reading. -/
theorem turnstile_refines_interpreter :
    let t := Table.build [("locked", [("coin", "unlocked"), ("push", "locked")]),
      ("unlocked", [("_", "unlocked"), ("push", "locked")])]
    ∃ c, t.WellFormed ∧ t.compile {} = .ok c ∧
      t.firstState = some c.initialState ∧
      (∀ (m : Machine String) (xs : List String), m.table = c →
        (m.trace xs).map (fun r => (r.1.state, r.2.2)) =
          (t.interpret {} m.state xs).map fun p => (p.1, Machine.calls m.listeners p.2)) ∧
      (∀ (s₀ : String) (h : String) (xs : List String),
        (((Machine.inState c s₀ : Machine String).onAny h).1.trace xs).map
            (fun r => (r.1.state, r.2.2)) =
          (t.interpret {} s₀ xs).map fun p => (p.1, p.2.map (h, ·))) :=
  ⟨_, Table.build_wellFormed _, rfl,
    compiled_machine_refines_interpreter (Table.build_wellFormed _) rfl⟩

end TableMachine
