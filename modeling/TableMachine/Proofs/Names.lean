import TableMachine.Proofs.Interpreter

/-!
# Every delivered notification is named in the table's list of names

`Compiled.notificationNames` lists, sorted and without duplicates, the name of every notification
a compiled table holds: those its rules announce and its states' `inFinal`. It is computed once,
from the table, while a machine may be put in any state, declared or not, and driven anywhere.
Every name it delivers is listed anyway:

> `delivered_names_listed`: in every run of a machine, from any state and on any inputs, every
> notification a step announces, and so every one a handler receives, has its name in the list
> of names of the machine's table.

A step only announces notifications its table holds (`Compiled.holds_of_dispatch`): the rule it
fires is a rule of the state it looked up, and a terminal state announces its own `inFinal`. The
list of names keeps every name it is built from (`Compiled.mem_notificationNames`), since sorted
insertion keeps what it inserts into. A run is then an induction on the inputs.
-/

namespace TableMachine

namespace Compiled

theorem mem_insertSorted {a n : String} {l : List String} :
    a ∈ insertSorted n l ↔ a = n ∨ a ∈ l := by
  induction l with
  | nil => simp [insertSorted]
  | cons m l ih =>
    unfold insertSorted
    split
    · simp
    · split
      · next hnm =>
        -- `n` is already there: inserting it again adds nothing
        subst hnm
        simp
      · simp only [List.mem_cons, ih]
        exact or_left_comm

theorem mem_foldl_insertSorted {a : String} :
    ∀ (names acc : List String),
      a ∈ names.foldl (fun acc n => insertSorted n acc) acc ↔ a ∈ names ∨ a ∈ acc
  | [], acc => by simp
  | n :: names, acc => by
    rw [List.foldl_cons, mem_foldl_insertSorted names, mem_insertSorted, List.mem_cons]
    tauto

/-- A compiled table holds a notification when a rule of one of its states announces it, or it
is the `inFinal` of one of its states. -/
def Holds (c : Compiled) (n : Notification) : Prop :=
  ∃ cs ∈ c.states, (∃ r ∈ cs.rules, n ∈ r.notifications) ∨ n ∈ cs.inFinal

/-- The list of names is exactly the names of the notifications the table holds. -/
theorem mem_notificationNames {c : Compiled} {a : String} :
    a ∈ c.notificationNames ↔ ∃ n, c.Holds n ∧ n.name = a := by
  rw [notificationNames, mem_foldl_insertSorted]
  simp only [List.not_mem_nil, or_false, List.mem_flatMap, List.mem_append, List.mem_map,
    Option.mem_toList, Holds]
  constructor
  · rintro ⟨cs, hcs, ⟨r, hr, n, hn, rfl⟩ | ⟨n, hn, rfl⟩⟩
    · exact ⟨n, ⟨cs, hcs, .inl ⟨r, hr, hn⟩⟩, rfl⟩
    · exact ⟨n, ⟨cs, hcs, .inr hn⟩, rfl⟩
  · rintro ⟨n, ⟨cs, hcs, ⟨r, hr, hn⟩ | hn⟩, rfl⟩
    · exact ⟨cs, hcs, .inl ⟨r, hr, n, hn, rfl⟩⟩
    · exact ⟨cs, hcs, .inr ⟨n, hn, rfl⟩⟩

/-- What dispatching an input can give: an undeclared state ignores it, a terminal state
announces its `inFinal`, and otherwise the first rule that accepts the input fires, if any. -/
theorem dispatch_cases (c : Compiled) (s x : String) :
    (c.state? s = none ∧ c.dispatch s x = .undeclared) ∨
      ∃ cs, c.state? s = some cs ∧
        ((cs.isTerminal ∧ c.dispatch s x = .terminal cs.inFinal) ∨
          (cs.isTerminal = false ∧ ∃ r, cs.rules.find? (·.matcher.accepts x) = some r ∧
            c.dispatch s x = .matched r) ∨
          (cs.isTerminal = false ∧ cs.rules.find? (·.matcher.accepts x) = none ∧
            c.dispatch s x = .unmatched)) := by
  cases hs : c.state? s with
  | none => exact .inl ⟨rfl, by simp [dispatch, hs]⟩
  | some cs =>
    refine .inr ⟨cs, rfl, ?_⟩
    cases hterm : cs.isTerminal
    · cases hf : cs.rules.find? (·.matcher.accepts x) with
      | none => exact .inr (.inr ⟨rfl, rfl, by simp [dispatch, hs, hterm, hf]⟩)
      | some r => exact .inr (.inl ⟨rfl, r, rfl, by simp [dispatch, hs, hterm, hf]⟩)
    · exact .inl ⟨rfl, by simp [dispatch, hs, hterm]⟩

/-- Dispatching announces only notifications the table holds. -/
theorem holds_of_dispatch (c : Compiled) (s x : String) :
    ∀ n ∈ (c.dispatch s x).notifications, c.Holds n := by
  intro n hn
  rcases dispatch_cases c s x with ⟨-, hd⟩ | ⟨cs, hs, ⟨-, hd⟩ | ⟨-, r, hf, hd⟩ | ⟨-, -, hd⟩⟩ <;>
    rw [hd] at hn
  · simp [Step.notifications] at hn
  · -- a terminal state announces its `inFinal`, if it holds one
    have hcs : cs ∈ c.states := List.mem_of_find?_eq_some hs
    cases hi : cs.inFinal with
    | none => simp [hi, Step.notifications] at hn
    | some n' =>
      rw [hi, Step.notifications, List.mem_singleton] at hn
      exact ⟨cs, hcs, .inr (by rw [hi, hn]; rfl)⟩
  · exact ⟨cs, List.mem_of_find?_eq_some hs, .inl ⟨r, List.mem_of_find?_eq_some hf, hn⟩⟩
  · simp [Step.notifications] at hn

end Compiled

namespace Machine

variable {α : Type}

theorem mem_calls {l : Listeners α} {ns : List Notification} {call : α × Notification}
    (h : call ∈ calls l ns) : call.2 ∈ ns := by
  obtain ⟨n, hn, hcall⟩ := List.mem_flatMap.mp h
  obtain ⟨a, -, rfl⟩ := List.mem_map.mp hcall
  exact hn

/-- One transition announces, and delivers to handlers, only notifications whose names the
table lists. -/
theorem transition_names_listed (m : Machine α) (x : String) :
    (∀ n ∈ (m.transition x).2.1.notifications, n.name ∈ m.table.notificationNames) ∧
      ∀ call ∈ (m.transition x).2.2, call.2.name ∈ m.table.notificationNames := by
  have hstep : ∀ n ∈ (m.transition x).2.1.notifications, n.name ∈ m.table.notificationNames :=
    fun n hn =>
      Compiled.mem_notificationNames.mpr ⟨n, m.table.holds_of_dispatch m.state x n hn, rfl⟩
  exact ⟨hstep, fun call hcall => hstep call.2 (mem_calls hcall)⟩

end Machine

/-- **The list of notification names is sound for every run.** Whatever the compiled table, the
machine's state (declared or not) and its handlers, at every step of a run on any inputs, every
notification the step announces, and every notification a handler is called with, has its name
in the table's list of notification names. -/
theorem delivered_names_listed {α : Type} (m : Machine α) (xs : List String) :
    ∀ r ∈ m.trace xs,
      (∀ n ∈ r.2.1.notifications, n.name ∈ m.table.notificationNames) ∧
        ∀ call ∈ r.2.2, call.2.name ∈ m.table.notificationNames := by
  -- induction on the inputs; every transition keeps the table
  induction xs generalizing m with
  | nil => simp [Machine.trace]
  | cons x xs ih =>
    intro r hr
    rcases List.mem_cons.mp hr with rfl | hr
    · exact Machine.transition_names_listed m x
    · have h := ih (m.transition x).1 r hr
      rwa [Machine.transition_table] at h

/-- The first step of a turnstile run, a move out of the first state, announces and delivers only
names the compiled table lists. -/
theorem turnstile_names_listed :
    let t := Table.build [("locked", [("coin", "unlocked"), ("push", "locked")]),
      ("unlocked", [("_", "unlocked"), ("push", "locked")])]
    ∃ c, t.compile {} = .ok c ∧
      (Machine.new c : Machine Unit).transition "coin" ∈
        (Machine.new c : Machine Unit).trace ["coin", "push"] ∧
      (∀ n ∈ ((Machine.new c : Machine Unit).transition "coin").2.1.notifications,
        n.name ∈ (Machine.new c : Machine Unit).table.notificationNames) ∧
      ∀ call ∈ ((Machine.new c : Machine Unit).transition "coin").2.2,
        call.2.name ∈ (Machine.new c : Machine Unit).table.notificationNames := by
  intro t
  obtain ⟨c, hc⟩ : ∃ c, t.compile {} = .ok c := ⟨_, rfl⟩
  have hmem : (Machine.new c : Machine Unit).transition "coin" ∈
      (Machine.new c : Machine Unit).trace ["coin", "push"] := List.mem_cons_self
  exact ⟨c, hc, hmem, delivered_names_listed _ _ _ hmem⟩

end TableMachine
