import TableMachine.Proofs.Terminal

/-!
# The update chain of a run

Compilation freezes every notification a rule emits, from the name of the compiled state and the
rule's authored target, while the state a machine is in is a run-time string. They agree at every
step:

> a step either keeps the state and announces nothing or only `inFinal` of that state, or fires
> a rule of the state whose target is the new state, announces `update` of that move first, and
> announces nothing that is not about that move (`Machine.transition_stepLaw`);

so the `update` notifications of a whole run form a chain, each starting where the previous one
ended, from the first state to the last (`Machine.feed_movesChain`).

The proof does the case analysis of a step once, in the inversion lemma
`Machine.transition_cases`, on top of `Compiled.Announces`: every notification a compiled table
holds is that of a move out of the state it belongs to, or `inFinal` of that state, which is part
of what compilation marks in a table (`Table.compile_marksTerminal`, hence
`Table.compile_announces`). The shape of a move's notifications is
`moveNotifications_eq_cons`: an `update` followed by notifications about the same move, none of
them an `update`.
-/

namespace TableMachine

variable {α : Type}

/-! ## What a notification is about -/

/-- A signal is about the move from `src` to `dst` when it carries both ends, or, for `staying`
and `stayingIn`, when its state is both ends. `inFinal` is about no move. -/
def Signal.About (src dst : String) : Signal → Prop
  | .update s d | .leaving s d | .entering s d | .goingFrom s d | .final s d => s = src ∧ d = dst
  | .staying s | .stayingIn s => s = src ∧ s = dst
  | .inFinal _ => False

/-- The move an `update` notification reports. -/
def Notification.move? (n : Notification) : Option (String × String) :=
  match n.signal with
  | .update s d => some (s, d)
  | _ => none

/-- The notifications of a move are its `update` followed by notifications about the same move,
none of them another `update`. -/
theorem moveNotifications_eq_cons (s d : String) (caps : Capitalization) (b : Bool) :
    ∃ rest, moveNotifications s d caps b = ⟨"update", .update s d⟩ :: rest ∧
      ∀ n ∈ rest, n.signal.About s d ∧ n.move? = none := by
  unfold moveNotifications
  by_cases hsd : s = d
  · subst hsd
    refine ⟨_, by rw [if_pos rfl], ?_⟩
    simp [Signal.About, Notification.move?]
  · rw [if_neg hsd]
    cases b
    · refine ⟨_, rfl, ?_⟩
      simp [Signal.About, Notification.move?]
    · refine ⟨_, rfl, ?_⟩
      simp [Signal.About, Notification.move?]

theorem moves_moveNotifications (s d : String) (caps : Capitalization) (b : Bool) :
    (moveNotifications s d caps b).filterMap Notification.move? = [(s, d)] := by
  obtain ⟨rest, heq, hrest⟩ := moveNotifications_eq_cons s d caps b
  have hupdate : Notification.move? ⟨"update", .update s d⟩ = some (s, d) := rfl
  rw [heq, List.filterMap_cons_some hupdate,
    List.filterMap_eq_nil_iff.mpr fun n hn => (hrest n hn).2]

/-! ## Compiled tables announce their own moves -/

/-- Every notification a compiled table holds is about the state it belongs to: a rule
announces its move out of the state, and `inFinal` names the state. -/
def Compiled.Announces (c : Compiled) : Prop :=
  ∀ cs ∈ c.states,
    (∀ r ∈ cs.rules, ∃ b, r.notifications =
      moveNotifications cs.name r.target c.options.capitalization b) ∧
    ∀ n ∈ cs.inFinal, n = inFinalNotification cs.name

theorem Table.compile_announces {t : Table} {o : CompileOptions} {c : Compiled}
    (hc : t.compile o = .ok c) : c.Announces := by
  intro cs hcs
  -- what compilation marks about terminal states says in particular whose moves are announced
  obtain ⟨hrules, hfinal⟩ := Table.compile_marksTerminal hc cs hcs
  refine ⟨fun r hr => ⟨_, hrules r hr⟩, fun n hn => ?_⟩
  rw [hfinal] at hn
  split at hn
  · exact (Option.mem_some_iff.mp hn).symm
  · cases hn

/-! ## One step -/

/-- The update-chain law of one step from `s` on input `x` to `s'`, announcing `ns`: either the
state is kept and nothing or only `inFinal` of it is announced, or a rule of `s` that accepts `x`
and targets `s'` fires, `ns` opens with the `update` of that move, and announces nothing else
that is not about it. -/
def StepLaw (c : Compiled) (s x s' : String) (ns : List Notification) : Prop :=
  (s' = s ∧ (ns = [] ∨ ns = [inFinalNotification s])) ∨
    ((∃ cs, c.state? s = some cs ∧ ∃ r ∈ cs.rules, r.matcher.accepts x ∧ r.target = s') ∧
      ∃ rest, ns = ⟨"update", .update s s'⟩ :: rest ∧ ∀ n ∈ rest, n.signal.About s s')

namespace Machine

/-- What one transition of a machine over a compiled table can do: keep the state and announce
nothing or `inFinal` of it, or fire a rule of the current state that accepts the input, move to
its target and announce that move. -/
theorem transition_cases {c : Compiled} (hc : c.Announces) (m : Machine α) (hm : m.table = c)
    (x : String) :
    ((m.transition x).1.state = m.state ∧
      ((m.transition x).2.1.notifications = [] ∨
        (m.transition x).2.1.notifications = [inFinalNotification m.state])) ∨
    ∃ cs r b, c.state? m.state = some cs ∧ r ∈ cs.rules ∧ r.matcher.accepts x ∧
      (m.transition x).1.state = r.target ∧
      (m.transition x).2.1.notifications =
        moveNotifications m.state r.target c.options.capitalization b := by
  subst hm
  simp only [transition]
  rcases Compiled.dispatch_cases m.table m.state x with
    ⟨-, hd⟩ | ⟨cs, hs, ⟨-, hd⟩ | ⟨-, r, hf, hd⟩ | ⟨-, -, hd⟩⟩ <;> rw [hd]
  · exact .inl ⟨rfl, .inl rfl⟩
  all_goals
    have hname : cs.name = m.state := by simpa using List.find?_some hs
    obtain ⟨hrules, hfinal⟩ := hc cs (List.mem_of_find?_eq_some hs)
  · -- a state without rules announces its `inFinal`, if it holds one
    refine .inl ⟨rfl, ?_⟩
    cases hi : cs.inFinal with
    | none => exact .inl (by simp [Step.notifications])
    | some n =>
      have hn : n = inFinalNotification m.state := hname ▸ hfinal n hi
      exact .inr (by simp [Step.notifications, hn])
  · obtain ⟨b, hb⟩ := hrules r (List.mem_of_find?_eq_some hf)
    refine .inr ⟨cs, r, b, hs, List.mem_of_find?_eq_some hf, by simpa using List.find?_some hf,
      rfl, ?_⟩
    rw [← hname]
    exact hb
  · -- no rule accepts the input: the state is kept and nothing announced
    exact .inl ⟨rfl, .inl rfl⟩

/-- Every step of a machine over a compiled table obeys the update-chain law. -/
theorem transition_stepLaw {c : Compiled} (hc : c.Announces) (m : Machine α) (hm : m.table = c)
    (x : String) :
    StepLaw c m.state x (m.transition x).1.state (m.transition x).2.1.notifications := by
  rcases transition_cases hc m hm x with hstay | ⟨cs, r, b, hcs, hr, hacc, hstate, hnotes⟩
  · exact .inl hstay
  · obtain ⟨rest, heq, hrest⟩ :=
      moveNotifications_eq_cons m.state r.target c.options.capitalization b
    refine .inr ⟨⟨cs, hcs, r, hr, hacc, hstate.symm⟩, rest, ?_, ?_⟩
    · rw [hnotes, heq, hstate]
    · intro n hn
      rw [hstate]
      exact (hrest n hn).1

/-- The moves a step reports by `update`: none if it keeps the state, else exactly its move. -/
theorem transition_moves {c : Compiled} (hc : c.Announces) (m : Machine α) (hm : m.table = c)
    (x : String) :
    ((m.transition x).2.1.notifications.filterMap Notification.move? = [] ∧
        (m.transition x).1.state = m.state) ∨
      (m.transition x).2.1.notifications.filterMap Notification.move? =
        [(m.state, (m.transition x).1.state)] := by
  rcases transition_cases hc m hm x with
    ⟨hstate, hnone | hfinal⟩ | ⟨cs, r, b, -, -, -, hstate, hnotes⟩
  · exact .inl ⟨by rw [hnone]; rfl, hstate⟩
  · exact .inl ⟨by rw [hfinal]; rfl, hstate⟩
  · exact .inr (by rw [hnotes, moves_moveNotifications, hstate])

end Machine

/-! ## Whole runs -/

/-- The moves `us` form a chain from `s` to `t`: the first starts at `s`, each next one where
the previous one ended, and the last ends at `t` (with `s = t` if there is none). -/
def MovesChain : String → String → List (String × String) → Prop
  | s, t, [] => s = t
  | s, t, (a, b) :: rest => a = s ∧ MovesChain b t rest

namespace Machine

theorem feed_cons (m : Machine α) (x : String) (xs : List String) :
    m.feed (x :: xs) = (m.transition x).1.feed xs := rfl

/-- The `update` notifications of a run chain from its first state to its last. -/
theorem feed_movesChain {c : Compiled} (hc : c.Announces) :
    ∀ (m : Machine α) (xs : List String), m.table = c →
      MovesChain m.state (m.feed xs).state
        ((m.trace xs).flatMap fun r => r.2.1.notifications.filterMap Notification.move?)
  | m, [], _ => rfl
  | m, x :: xs, hm => by
    have ih := feed_movesChain hc (m.transition x).1 xs (by rw [transition_table, hm])
    rw [feed_cons, trace, List.flatMap_cons]
    rcases transition_moves hc m hm x with ⟨hnone, hstate⟩ | hmove
    · rw [hnone, List.nil_append, ← hstate]
      exact ih
    · rw [hmove, List.singleton_append]
      exact ⟨rfl, ih⟩

theorem feed_take_succ (m : Machine α) (xs : List String) (i : Nat) (hi : i < xs.length) :
    m.feed (xs.take (i + 1)) = ((m.feed (xs.take i)).transition xs[i]).1 := by
  rw [List.take_add_one, List.getElem?_eq_getElem hi, Option.toList_some, feed, List.foldl_append]
  rfl

theorem feed_table (m : Machine α) (xs : List String) : (m.feed xs).table = m.table := by
  induction xs generalizing m with
  | nil => rfl
  | cons x xs ih => rw [feed_cons, ih, transition_table]

end Machine

/-- **The update-chain law.** In every run of a machine over a compiled table, from any state and
on any inputs, the `i`-th step either keeps the state and announces nothing or only `inFinal` of
it, or fires a rule of the state before it that targets the state after it, announcing the
`update` of that move first and nothing else that is not about it; and the `update`
notifications of the whole run chain from the first state to the last. -/
theorem update_chain_law {t : Table} {o : CompileOptions} {c : Compiled}
    (hc : t.compile o = .ok c) (m : Machine α) (xs : List String) (hm : m.table = c) :
    (∀ (i : Nat) (hi : i < xs.length),
      StepLaw c (m.feed (xs.take i)).state xs[i] (m.feed (xs.take (i + 1))).state
        ((m.feed (xs.take i)).transition xs[i]).2.1.notifications) ∧
    MovesChain m.state (m.feed xs).state
      ((m.trace xs).flatMap fun r => r.2.1.notifications.filterMap Notification.move?) := by
  have hann := Table.compile_announces hc
  refine ⟨fun i hi => ?_, Machine.feed_movesChain hann m xs hm⟩
  rw [Machine.feed_take_succ m xs i hi]
  exact Machine.transition_stepLaw hann _ (by rw [Machine.feed_table, hm]) xs[i]

/-- A turnstile run through a self-loop, a move, an unmatched input and a wildcard move obeys the
update-chain law. -/
theorem turnstile_update_chain :
    let t := Table.build [("locked", [("coin", "unlocked"), ("push", "locked")]),
      ("unlocked", [("_", "unlocked"), ("push", "locked")])]
    let xs := ["push", "coin", "kick", "push", "coin"]
    ∃ c, t.compile {} = .ok c ∧ (Machine.new c : Machine Unit).table = c ∧
      (∀ (i : Nat) (hi : i < xs.length),
        StepLaw c ((Machine.new c : Machine Unit).feed (xs.take i)).state xs[i]
          ((Machine.new c : Machine Unit).feed (xs.take (i + 1))).state
          (((Machine.new c : Machine Unit).feed (xs.take i)).transition xs[i]).2.1.notifications) ∧
      MovesChain (Machine.new c : Machine Unit).state ((Machine.new c : Machine Unit).feed xs).state
        (((Machine.new c : Machine Unit).trace xs).flatMap
          fun r => r.2.1.notifications.filterMap Notification.move?) := by
  intro t xs
  obtain ⟨c, hc⟩ : ∃ c, t.compile {} = .ok c := ⟨_, rfl⟩
  exact ⟨c, hc, rfl, update_chain_law hc _ xs rfl⟩

end TableMachine
