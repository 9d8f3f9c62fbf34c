import TableMachine.Proofs.Names

/-!
# Terminal states at compile time and at run time

A state is terminal when it has no rules, or is not declared at all. Compilation decides it once,
from the table (`Table.isTerminalTarget`), to mark the moves that reach such a state with `final`
and such a state itself with `inFinal`; a running machine decides it through the compiled lookup
(`Compiled.isTerminal`). The two agree, and so do the signals:

> `terminal_signals_agree`: for a table that compiles, every name is terminal for the table
> exactly when it is terminal for the compiled table; and at every transition of a machine over
> the compiled table, `final` is announced exactly when terminal signals are on and a rule fires
> that moves to another state, terminal after the move, and it is then the last notification,
> from the state before to the state after; `inFinal` is announced exactly when terminal signals
> are on and the state, declared, is terminal, and it is then the only notification, about that
> state, which is kept.

The undeclared state is where the two sides differ in shape: a move into it announces `final`,
while a machine already in it announces nothing, not even `inFinal`.

The proof states once what compilation puts into a compiled table (`Compiled.MarksTerminal`:
every rule's notifications are those of its move, marked `final` by the compiled lookup, and a
state holds `inFinal` exactly when signals are on and it has no rules), and once what a transition
can do (`Machine.transition_terminal_cases`); when `final` and when `inFinal` is announced are
then each a short case analysis over the three kinds of step, with the shape of a move's
notifications (`final_mem_moveNotifications`, `final_of_mem_moveNotifications`).
-/

namespace TableMachine

/-! ## `final` and `inFinal` among a move's notifications -/

section Move

variable (s d : String) (caps : Capitalization) (b : Bool)

/-- A move announces `final` exactly when it goes to another state and is marked as reaching a
terminal one. -/
theorem final_mem_moveNotifications :
    (∃ n ∈ moveNotifications s d caps b, n.signal.kind = "final") ↔ s ≠ d ∧ b = true := by
  unfold moveNotifications
  by_cases hsd : s = d
  · simp [hsd, Signal.kind]
  · cases b <;> simp [hsd, Signal.kind]

/-- A `final` that a move announces is its last notification, from its origin to its target. -/
theorem final_of_mem_moveNotifications {n : Notification} (hn : n ∈ moveNotifications s d caps b)
    (hk : n.signal.kind = "final") :
    (moveNotifications s d caps b).getLast? = some n ∧ n.signal = .final s d := by
  unfold moveNotifications at hn ⊢
  by_cases hsd : s = d
  · -- a move that stays put announces no `final`
    simp only [hsd, if_true, List.mem_cons, List.not_mem_nil, or_false] at hn
    rcases hn with rfl | rfl | rfl <;> simp [Signal.kind] at hk
  · cases b with
    | false =>
      simp only [hsd, if_false, Bool.false_eq_true, List.mem_cons, List.not_mem_nil,
        or_false] at hn
      rcases hn with rfl | rfl | rfl | rfl <;> simp [Signal.kind] at hk
    | true =>
      simp only [hsd, if_false, if_true, List.mem_append, List.mem_cons, List.not_mem_nil,
        or_false] at hn
      rcases hn with (rfl | rfl | rfl | rfl) | rfl
      all_goals simp [Signal.kind] at hk
      simp [hsd]

/-- A move never announces `inFinal`. -/
theorem inFinal_not_mem_moveNotifications :
    ∀ n ∈ moveNotifications s d caps b, n.signal.kind ≠ "in_final" := by
  unfold moveNotifications
  by_cases hsd : s = d
  · simp [hsd, Signal.kind]
  · cases b <;> simp [hsd, Signal.kind]

/-- A terminal state announces its `inFinal`, and nothing else, exactly when signals are on. -/
theorem mem_inFinalNotes {n : Notification} :
    n ∈ (if b then [inFinalNotification s] else []) ↔ b = true ∧ n = inFinalNotification s := by
  cases b <;> simp

end Move

/-! ## Compile time and run time agree -/

namespace Table

/-- A name is terminal for a table exactly when it is terminal for the compiled table. -/
theorem isTerminalTarget_eq_isTerminal {t : Table} {o : CompileOptions} {c : Compiled}
    (hc : t.compile o = .ok c) (s : String) : t.isTerminalTarget s = c.isTerminal s := by
  rcases state?_cases hc s with ⟨hcs, hts⟩ | ⟨e, cs, he, hcs, hecs⟩
  · simp [isTerminalTarget, Compiled.isTerminal, hcs, hts]
  · have hts : t.rules? s = some e.rules := by simp [rules?, he]
    obtain ⟨crs, hcrs, rfl⟩ := compileState_eq_ok hecs
    -- a state compiles to no rules exactly when it has none
    have hnil : crs = [] ↔ e.rules = [] := by
      constructor
      · rintro rfl
        exact List.forall₂_nil_right_iff.mp hcrs
      · rintro hr
        rw [hr] at hcrs
        exact List.forall₂_nil_left_iff.mp hcrs
    simp only [isTerminalTarget, Compiled.isTerminal, hts, hcs, CompiledState.isTerminal]
    rw [Bool.eq_iff_iff, List.isEmpty_iff, List.isEmpty_iff, wildcardLast_eq_nil, hnil]

end Table

/-- What a compiled table holds about terminal states, read through its own lookup: every rule
announces its move, marked `final` exactly when terminal signals are on and its target is
terminal, and a state holds `inFinal` exactly when terminal signals are on and it has no rules. -/
def Compiled.MarksTerminal (c : Compiled) : Prop :=
  ∀ cs ∈ c.states,
    (∀ r ∈ cs.rules, r.notifications = moveNotifications cs.name r.target c.options.capitalization
      (c.options.terminalSignals && c.isTerminal r.target)) ∧
    cs.inFinal = if c.options.terminalSignals && cs.isTerminal then
      some (inFinalNotification cs.name) else none

theorem Table.compile_marksTerminal {t : Table} {o : CompileOptions} {c : Compiled}
    (hc : t.compile o = .ok c) : c.MarksTerminal := by
  obtain ⟨-, hstates, hopts, -⟩ := Table.compile_eq_ok hc
  subst hopts
  refine forall_mem_of_forall₂ (fun e cs hecs => ?_) hstates
  obtain ⟨crs, hcrs, rfl⟩ := Table.compileState_eq_ok hecs
  refine ⟨fun cr hcr => ?_, rfl⟩
  -- each compiled rule was marked by the table's notion of a terminal target
  have hall := forall_mem_of_forall₂ (P := fun cr : CompiledRule =>
      cr.notifications = moveNotifications e.name cr.target c.options.capitalization
        (c.options.terminalSignals && c.isTerminal cr.target))
    (fun r cr h => by
      obtain ⟨-, htarget, hnotes⟩ := Table.compileRule_eq_ok h
      rw [hnotes, htarget, Table.isTerminalTarget_eq_isTerminal hc]) hcrs
  exact hall cr (Table.mem_wildcardLast hcr)

/-! ## One transition -/

namespace Machine

variable {α : Type} {c : Compiled}

/-- What one transition of a machine over a compiled table can do, as terminal signals see it:
in an undeclared state, or a state with rules none of which accepts the input, nothing happens;
in a declared state without rules the state is kept and `inFinal` of it announced if signals are
on; otherwise a rule fires, moves to its target and announces its move, marked `final` by the
compiled lookup. -/
theorem transition_terminal_cases (hc : c.MarksTerminal) (m : Machine α) (hm : m.table = c)
    (x : String) :
    ((m.transition x).2.1.isMatch = false ∧ (m.transition x).1.state = m.state ∧
        (m.transition x).2.1.notifications = [] ∧ ¬(c.hasState m.state ∧ c.isTerminal m.state)) ∨
      ((m.transition x).2.1.isMatch = false ∧ (m.transition x).1.state = m.state ∧
        c.hasState m.state ∧ c.isTerminal m.state ∧
        (m.transition x).2.1.notifications =
          if c.options.terminalSignals then [inFinalNotification m.state] else []) ∨
      ∃ r, (m.transition x).2.1 = .matched r ∧ (m.transition x).1.state = r.target ∧
        c.isTerminal m.state = false ∧
        (m.transition x).2.1.notifications = moveNotifications m.state r.target
          c.options.capitalization (c.options.terminalSignals && c.isTerminal r.target) := by
  subst hm
  simp only [transition]
  rcases Compiled.dispatch_cases m.table m.state x with
    ⟨hs, hd⟩ | ⟨cs, hs, ⟨hterm, hd⟩ | ⟨hterm, r, hf, hd⟩ | ⟨hterm, -, hd⟩⟩ <;> rw [hd]
  · -- an undeclared state
    refine .inl ⟨rfl, rfl, rfl, ?_⟩
    simp [Compiled.hasState, hs]
  all_goals
    have hname : cs.name = m.state := by simpa using List.find?_some hs
    obtain ⟨hrules, hfinal⟩ := hc cs (List.mem_of_find?_eq_some hs)
    have hdecl : m.table.hasState m.state := by simp [Compiled.hasState, hs]
  · -- a declared state without rules
    refine .inr (.inl ⟨rfl, rfl, hdecl, by simp [Compiled.isTerminal, hs, hterm], ?_⟩)
    cases hsig : m.table.options.terminalSignals <;>
      simp [Step.notifications, hfinal, hterm, hsig, hname]
  · -- the first rule that accepts the input fires
    refine .inr (.inr ⟨r, rfl, rfl, by simp [Compiled.isTerminal, hs, hterm], ?_⟩)
    rw [Step.notifications, hrules r (List.mem_of_find?_eq_some hf), hname]
  · -- no rule accepts the input
    refine .inl ⟨rfl, rfl, rfl, ?_⟩
    simp [Compiled.isTerminal, hs, hterm]

theorem ne_matched_of_isMatch {step : Step} (h : step.isMatch = false) (r : CompiledRule) :
    step ≠ .matched r := by
  rintro rfl
  cases h

/-- A transition announces `final` exactly when terminal signals are on and a rule fires that
moves to another state, terminal after the move. -/
theorem final_announced_iff (hc : c.MarksTerminal) (m : Machine α) (hm : m.table = c)
    (x : String) :
    (∃ n ∈ (m.transition x).2.1.notifications, n.signal.kind = "final") ↔
      c.options.terminalSignals ∧
        (∃ r, (m.transition x).2.1 = .matched r ∧ r.target ≠ m.state) ∧
        (m.transition x).1.isTerminal := by
  have hterm : (m.transition x).1.isTerminal = c.isTerminal (m.transition x).1.state := by
    rw [isTerminal, transition_table, hm]
  rcases transition_terminal_cases hc m hm x with
    ⟨hmatch, -, hnotes, -⟩ | ⟨hmatch, -, -, -, hnotes⟩ | ⟨r, hstep, hstate, -, hnotes⟩
  · refine iff_of_false (by simp [hnotes]) ?_
    rintro ⟨-, ⟨r, hr, -⟩, -⟩
    exact ne_matched_of_isMatch hmatch r hr
  · -- a terminal state announces at most `inFinal`
    refine iff_of_false ?_ ?_
    · rw [hnotes]
      split <;> simp [inFinalNotification, Signal.kind]
    · rintro ⟨-, ⟨r, hr, -⟩, -⟩
      exact ne_matched_of_isMatch hmatch r hr
  · rw [hnotes, final_mem_moveNotifications, hterm, hstate, hstep]
    simp [ne_comm, and_left_comm]

/-- A `final` that a transition announces is its last notification, from the state before to the
state after. -/
theorem final_last (hc : c.MarksTerminal) (m : Machine α) (hm : m.table = c) (x : String) :
    ∀ n ∈ (m.transition x).2.1.notifications, n.signal.kind = "final" →
      (m.transition x).2.1.notifications.getLast? = some n ∧
        n.signal = .final m.state (m.transition x).1.state := by
  intro n hn hk
  rcases transition_terminal_cases hc m hm x with
    ⟨-, -, hnotes, -⟩ | ⟨-, -, -, -, hnotes⟩ | ⟨r, -, hstate, -, hnotes⟩
  · simp [hnotes] at hn
  · rw [hnotes, mem_inFinalNotes] at hn
    obtain ⟨-, rfl⟩ := hn
    simp [inFinalNotification, Signal.kind] at hk
  · rw [hnotes] at hn ⊢
    rw [hstate]
    exact final_of_mem_moveNotifications _ _ _ _ hn hk

/-- A transition announces `inFinal` exactly when terminal signals are on and the state, declared,
is terminal. -/
theorem inFinal_announced_iff (hc : c.MarksTerminal) (m : Machine α) (hm : m.table = c)
    (x : String) :
    (∃ n ∈ (m.transition x).2.1.notifications, n.signal.kind = "in_final") ↔
      c.options.terminalSignals ∧ c.hasState m.state ∧ c.isTerminal m.state := by
  rcases transition_terminal_cases hc m hm x with
    ⟨-, -, hnotes, hnot⟩ | ⟨-, -, hdecl, hterm, hnotes⟩ | ⟨r, -, -, hterm, hnotes⟩
  · exact iff_of_false (by simp [hnotes]) fun h => hnot ⟨h.2.1, h.2.2⟩
  · rw [hnotes]
    cases c.options.terminalSignals <;> simp [hdecl, hterm, inFinalNotification, Signal.kind]
  · -- a state whose rule fires is not terminal, and a move announces no `inFinal`
    refine iff_of_false ?_ fun h => by simp [hterm] at h
    rw [hnotes]
    rintro ⟨n, hn, hk⟩
    exact inFinal_not_mem_moveNotifications _ _ _ _ n hn hk

/-- An `inFinal` that a transition announces is its only notification, about the state, which is
kept. -/
theorem inFinal_only (hc : c.MarksTerminal) (m : Machine α) (hm : m.table = c) (x : String) :
    ∀ n ∈ (m.transition x).2.1.notifications, n.signal.kind = "in_final" →
      (m.transition x).2.1.notifications = [n] ∧ n.signal = .inFinal m.state ∧
        (m.transition x).1.state = m.state := by
  intro n hn hk
  rcases transition_terminal_cases hc m hm x with
    ⟨-, -, hnotes, -⟩ | ⟨-, hstate, -, -, hnotes⟩ | ⟨r, -, -, -, hnotes⟩
  · simp [hnotes] at hn
  · rw [hnotes] at hn ⊢
    obtain ⟨hsig, rfl⟩ := (mem_inFinalNotes _ _).mp hn
    rw [if_pos hsig]
    exact ⟨rfl, rfl, hstate⟩
  · rw [hnotes] at hn
    exact absurd hk (inFinal_not_mem_moveNotifications _ _ _ _ n hn)

end Machine

/-- **Terminal states agree at compile time and at run time, and so do `final` and `inFinal`.**
For a table that compiles, a name is terminal for the table (no rules, or not declared) exactly
when it is terminal for the compiled table. At every transition of a machine over the compiled
table, in any state and on any input: `final` is announced exactly when terminal signals are on,
a rule fires that moves to another state, and the machine is in a terminal state after the step,
and it is then the last notification, from the state before to the state after; `inFinal` is
announced exactly when terminal signals are on and the state before the step is declared and
terminal, and it is then the only notification, about that state, which is kept. -/
theorem terminal_signals_agree {α : Type} {t : Table} {o : CompileOptions} {c : Compiled}
    (hc : t.compile o = .ok c) :
    (∀ s, t.isTerminalTarget s = c.isTerminal s) ∧
    ∀ (m : Machine α) (x : String), m.table = c →
      ((∃ n ∈ (m.transition x).2.1.notifications, n.signal.kind = "final") ↔
        o.terminalSignals ∧ (∃ r, (m.transition x).2.1 = .matched r ∧ r.target ≠ m.state) ∧
          (m.transition x).1.isTerminal) ∧
      (∀ n ∈ (m.transition x).2.1.notifications, n.signal.kind = "final" →
        (m.transition x).2.1.notifications.getLast? = some n ∧
          n.signal = .final m.state (m.transition x).1.state) ∧
      ((∃ n ∈ (m.transition x).2.1.notifications, n.signal.kind = "in_final") ↔
        o.terminalSignals ∧ c.hasState m.state ∧ c.isTerminal m.state) ∧
      (∀ n ∈ (m.transition x).2.1.notifications, n.signal.kind = "in_final" →
        (m.transition x).2.1.notifications = [n] ∧ n.signal = .inFinal m.state ∧
          (m.transition x).1.state = m.state) := by
  have hmarks := Table.compile_marksTerminal hc
  refine ⟨Table.isTerminalTarget_eq_isTerminal hc, fun m x hm => ?_⟩
  rw [← (Table.compile_eq_ok hc).2.2.1]
  exact ⟨Machine.final_announced_iff hmarks m hm x, Machine.final_last hmarks m hm x,
    Machine.inFinal_announced_iff hmarks m hm x, Machine.inFinal_only hmarks m hm x⟩

/-- A turnstile that breaks down into a state without rules, compiled with terminal signals on:
it compiles, and its terminal states and signals agree. -/
theorem turnstile_terminal_signals :
    let t := Table.build [("locked", [("coin", "unlocked"), ("kick", "broken")]),
      ("unlocked", [("push", "locked")]), ("broken", [])]
    let o : CompileOptions := { terminalSignals := true }
    ∃ c, t.compile o = .ok c ∧
      (∀ s, t.isTerminalTarget s = c.isTerminal s) ∧
      ∀ (m : Machine Unit) (x : String), m.table = c →
        ((∃ n ∈ (m.transition x).2.1.notifications, n.signal.kind = "final") ↔
          o.terminalSignals ∧ (∃ r, (m.transition x).2.1 = .matched r ∧ r.target ≠ m.state) ∧
            (m.transition x).1.isTerminal) ∧
        (∀ n ∈ (m.transition x).2.1.notifications, n.signal.kind = "final" →
          (m.transition x).2.1.notifications.getLast? = some n ∧
            n.signal = .final m.state (m.transition x).1.state) ∧
        ((∃ n ∈ (m.transition x).2.1.notifications, n.signal.kind = "in_final") ↔
          o.terminalSignals ∧ c.hasState m.state ∧ c.isTerminal m.state) ∧
        (∀ n ∈ (m.transition x).2.1.notifications, n.signal.kind = "in_final" →
          (m.transition x).2.1.notifications = [n] ∧ n.signal = .inFinal m.state ∧
            (m.transition x).1.state = m.state) :=
  ⟨_, rfl, terminal_signals_agree rfl⟩

end TableMachine
