import TableMachine.Proofs.Interpreter
import Mathlib.Data.List.Nodup

/-!
# The layout of a compiled table

Compiling a table keeps its states and its rules and moves only the wildcard rule:

> `compile_keeps_rules`: for a well-formed table that compiles, the compiled states are the
> declared states, one each, in declaration order and under the same names, and the compiled rules
> of a state keep its authored rules in the order they are tried (`Table.tryOrder`): the rules
> whose key is not the wildcard, in authored order, then the wildcard rule if there is one. Looking
> a name up finds the compiled state of that name, and nothing for an undeclared name; the first
> declared state is the initial state; no rule is lost or repeated, and only the last rule of a
> state can be a wildcard.

A compiled rule keeps an authored rule (`Table.KeepsRule`) when its matcher is the classification
of the authored key and its target the authored target. `Table.wildcardLast` keeps the last
wildcard rule it meets; distinct keys leave at most one, which is then also the first
(`Table.forall₂_tryOrder`). Only the wildcard's place needs nothing of the table: whatever the
rules, `Table.wildcardLast` puts at most one wildcard rule after the others
(`Table.isWildcard_of_mem_dropLast`).
-/

namespace TableMachine

/-- Related options are related as lists of at most one element. -/
theorem forall₂_toList {α β : Type} {R : α → β → Prop} {a : Option α} {b : Option β}
    (h : Option.Rel R a b) : List.Forall₂ R a.toList b.toList := by
  cases h with
  | none => exact .nil
  | some hab => exact .cons hab .nil

/-- A list of at most one element is the list of its last element. -/
theorem toList_getLast? {α : Type} {l : List α} (h : l.length ≤ 1) : l.getLast?.toList = l := by
  match l, h with
  | [], _ => rfl
  | [_], _ => rfl

/-- Looking up an element by a key no two elements share finds exactly the element with that
key. -/
theorem find?_key_eq_some_iff {α : Type} {key : α → String} {l : List α}
    (hnd : (l.map key).Nodup) {k : String} {a : α} :
    l.find? (fun x => decide (key x = k)) = some a ↔ a ∈ l ∧ key a = k := by
  constructor
  · intro h
    exact ⟨List.mem_of_find?_eq_some h, by simpa using List.find?_some h⟩
  · rintro ⟨ha, rfl⟩
    have hsome : (l.find? fun x => decide (key x = key a)).isSome :=
      List.find?_isSome.mpr ⟨a, ha, by simp⟩
    obtain ⟨b, hb⟩ := Option.isSome_iff_exists.mp hsome
    have hbk : key b = key a := by simpa using List.find?_some hb
    rw [hb, List.inj_on_of_nodup_map hnd (List.mem_of_find?_eq_some hb) ha hbk]

namespace Table

/-! ## Compiled rules and the authored rules they keep -/

/-- A compiled rule keeps an authored rule: its matcher is the classification of the authored key
under the wildcard token, and its target is the authored target. -/
def KeepsRule (o : CompileOptions) (r : Rule) (cr : CompiledRule) : Prop :=
  Matcher.classify r.key o.wildcard = .ok cr.matcher ∧ cr.target = r.target

/-- The authored rules of a state in the order compilation tries them: the rules whose key is not
the wildcard, in authored order, then the rule whose key is the wildcard, if there is one. -/
def tryOrder (o : CompileOptions) (rules : List Rule) : List Rule :=
  rules.filter (fun r => !keyIsWildcard o r.key) ++
    (rules.find? fun r => keyIsWildcard o r.key).toList

/-- A compiled state keeps an authored state: it has the same name, and its rules keep the
authored rules in the order compilation tries them. -/
def KeepsState (o : CompileOptions) (e : StateEntry) (cs : CompiledState) : Prop :=
  cs.name = e.name ∧ List.Forall₂ (KeepsRule o) (tryOrder o e.rules) cs.rules

variable {o : CompileOptions}

theorem KeepsRule.key_eq {r : Rule} {cr : CompiledRule} (h : KeepsRule o r cr) :
    cr.matcher.key = r.key :=
  (Matcher.key_of_classify h.1).1

theorem KeepsRule.keyIsWildcard_eq {r : Rule} {cr : CompiledRule} (h : KeepsRule o r cr) :
    keyIsWildcard o r.key = cr.matcher.isWildcard := by
  simp [keyIsWildcard, h.1]

theorem keepsRule_of_compileRule {t : Table} {s : String} {r : Rule} {cr : CompiledRule}
    (h : t.compileRule o s r = .ok cr) : KeepsRule o r cr :=
  ⟨(compileRule_eq_ok h).1, (compileRule_eq_ok h).2.1⟩

/-- A key read as the wildcard is the wildcard token. -/
theorem eq_wildcard_of_keyIsWildcard {k : String} (h : keyIsWildcard o k) : k = o.wildcard := by
  unfold keyIsWildcard at h
  split at h
  · next m hm => exact (Matcher.key_of_classify hm).2 h
  · cases h

/-! ## The order rules are tried in -/

/-- Rules with distinct keys try every rule once. -/
theorem tryOrder_perm {rules : List Rule} (hnd : (rules.map (·.key)).Nodup) :
    (tryOrder o rules).Perm rules := by
  have hone : (rules.filter fun r => keyIsWildcard o r.key).length ≤ 1 :=
    length_filter_le_one hnd fun r _ h => eq_wildcard_of_keyIsWildcard h
  rw [tryOrder, ← getLast?_filter_eq_find? hone, toList_getLast? hone]
  exact List.perm_append_comm.trans (List.filter_append_perm _ rules)

/-- Moving the wildcard last keeps the authored rules in the order they are tried, once the
compiled rules hold at most one wildcard. -/
theorem forall₂_tryOrder {rules : List Rule} {crs : List CompiledRule}
    (hkeep : List.Forall₂ (KeepsRule o) rules crs)
    (hone : (crs.filter (·.matcher.isWildcard)).length ≤ 1) :
    List.Forall₂ (KeepsRule o) (tryOrder o rules) (wildcardLast crs) := by
  have hw : ∀ r cr, KeepsRule o r cr → keyIsWildcard o r.key = cr.matcher.isWildcard :=
    fun _ _ h => h.keyIsWildcard_eq
  rw [tryOrder, wildcardLast, getLast?_filter_eq_find? hone]
  exact List.rel_append (List.rel_filter (fun r cr h => by simp [hw r cr h]) hkeep)
    (forall₂_toList (find?_rel hw hkeep))

/-- Whatever the rules, only the last one can be a wildcard once the wildcard is moved last. -/
theorem isWildcard_of_mem_dropLast {crs : List CompiledRule} :
    ∀ cr ∈ (wildcardLast crs).dropLast, cr.matcher.isWildcard = false := by
  intro cr hcr
  -- the rules kept in place are no wildcards, and at most one rule follows them
  have hkept : ∀ cr ∈ crs.filter (!·.matcher.isWildcard), cr.matcher.isWildcard = false := by
    intro cr hcr
    simpa using (List.mem_filter.mp hcr).2
  rw [wildcardLast] at hcr
  cases hw : (crs.filter (·.matcher.isWildcard)).getLast? with
  | none =>
    rw [hw, Option.toList_none, List.append_nil] at hcr
    exact hkept cr (List.dropLast_subset _ hcr)
  | some w =>
    rw [hw, Option.toList_some, List.dropLast_concat] at hcr
    exact hkept cr hcr

/-! ## Compiled states -/

theorem compileState_keeps {t : Table} {e : StateEntry} {cs : CompiledState}
    (hnd : (e.rules.map (·.key)).Nodup) (h : t.compileState o e = .ok cs) : KeepsState o e cs := by
  obtain ⟨crs, hcrs, rfl⟩ := compileState_eq_ok h
  exact ⟨rfl, forall₂_tryOrder (hcrs.imp fun _ _ => keepsRule_of_compileRule)
    (length_filter_wildcard_le_one hnd hcrs)⟩

theorem compile_keeps {t : Table} {c : Compiled} (ht : t.WellFormed) (hc : t.compile o = .ok c) :
    List.Forall₂ (KeepsState o) t.states c.states := by
  have h := (List.forall₂_and_left _ _).mpr ⟨ht.keys_nodup, (compile_eq_ok hc).2.1⟩
  exact h.imp fun e cs ⟨hnd, hecs⟩ => compileState_keeps hnd hecs

/-- The compiled rules keep the authored keys and targets, state by state, in the order the rules
are tried. -/
theorem pairs_compile {t : Table} {c : Compiled} (ht : t.WellFormed) (hc : t.compile o = .ok c) :
    c.states.map (fun cs => cs.rules.map fun cr => (cr.matcher.key, cr.target)) =
      t.states.map fun e => (tryOrder o e.rules).map fun r => (r.key, r.target) := by
  refine (map_eq_of_forall₂ (fun e cs h => ?_) (compile_keeps ht hc)).symm
  exact map_eq_of_forall₂ (fun r cr hr => by rw [hr.key_eq, hr.2]) h.2

/-- The compiled states carry the declared names, in order. -/
theorem names_compile {t : Table} {c : Compiled} (hc : t.compile o = .ok c) :
    c.states.map (·.name) = t.states.map (·.name) := by
  refine (map_eq_of_forall₂ (fun e cs h => ?_) (compile_eq_ok hc).2.1).symm
  obtain ⟨crs, -, rfl⟩ := compileState_eq_ok h
  rfl

/-- A well-formed table's compiled states keep its rule counts. -/
theorem ruleCounts_compile {t : Table} {c : Compiled} (ht : t.WellFormed)
    (hc : t.compile o = .ok c) :
    c.states.map (·.rules.length) = t.states.map (·.rules.length) := by
  have h := (List.forall₂_and_left _ _).mpr ⟨ht.keys_nodup, compile_keeps ht hc⟩
  refine (map_eq_of_forall₂ (fun e cs ⟨hnd, _, hrules⟩ => ?_) h).symm
  rw [← hrules.length_eq, (tryOrder_perm hnd).length_eq]

/-- Only the last compiled rule of a state can be a wildcard. -/
theorem wildcard_last_compile {t : Table} {c : Compiled} (hc : t.compile o = .ok c) :
    ∀ cs ∈ c.states, ∀ cr ∈ cs.rules.dropLast, cr.matcher.isWildcard = false := by
  refine forall_mem_of_forall₂ (fun e cs h => ?_) (compile_eq_ok hc).2.1
  obtain ⟨crs, -, rfl⟩ := compileState_eq_ok h
  exact isWildcard_of_mem_dropLast

/-! ## Looking states up -/

theorem names_nodup_compile {t : Table} {c : Compiled} (ht : t.WellFormed)
    (hc : t.compile o = .ok c) : (c.states.map (·.name)).Nodup := by
  rw [names_compile hc]
  exact ht.names_nodup

theorem state?_eq_some_iff {t : Table} {c : Compiled} (ht : t.WellFormed)
    (hc : t.compile o = .ok c) {n : String} {cs : CompiledState} :
    c.state? n = some cs ↔ cs ∈ c.states ∧ cs.name = n :=
  find?_key_eq_some_iff (names_nodup_compile ht hc)

/-- Looking a name up finds the last state of that name as well as the first, which is the one
an index of the states by name, where a later state replaces an earlier one, would give: a
well-formed table's names are distinct. -/
theorem state?_eq_find?_reverse {t : Table} {c : Compiled} (ht : t.WellFormed)
    (hc : t.compile o = .ok c) (n : String) :
    c.state? n = c.states.reverse.find? (·.name = n) := by
  have hnd : (c.states.reverse.map (·.name)).Nodup := by
    rw [List.map_reverse]
    exact List.nodup_reverse.mpr (names_nodup_compile ht hc)
  apply Option.ext
  intro cs
  rw [state?_eq_some_iff ht hc, find?_key_eq_some_iff hnd, List.mem_reverse]

theorem state?_eq_none_iff {t : Table} {c : Compiled} (hc : t.compile o = .ok c) {n : String} :
    c.state? n = none ↔ n ∉ t.states.map (·.name) := by
  rw [← names_compile hc, Compiled.state?, List.find?_eq_none]
  simp

theorem hasState_iff {t : Table} {c : Compiled} (hc : t.compile o = .ok c) {n : String} :
    c.hasState n ↔ n ∈ t.states.map (·.name) := by
  rw [Compiled.hasState, Option.isSome_iff_ne_none, Ne, state?_eq_none_iff hc, not_not]

end Table

/-- **Compilation keeps every rule and moves only the wildcard.** For a well-formed table that
compiles: the compiled states keep the declared states one for one, in declaration order, under
the same names, each with the authored rules in the order they are tried (the rules whose key is
not the wildcard, in authored order, then the wildcard rule if there is one), every compiled rule
with the authored key's matcher, and so the authored key, and the authored target; looking up a
declared name finds the compiled state of that name, and an undeclared one finds nothing; the
initial state is the first declared state; every rule is tried once, so a state keeps its number
of rules; and only the last rule of a state can be a wildcard. -/
theorem compile_keeps_rules {t : Table} {o : CompileOptions} {c : Compiled}
    (ht : t.WellFormed) (hc : t.compile o = .ok c) :
    List.Forall₂ (Table.KeepsState o) t.states c.states ∧
    c.states.map (fun cs => cs.rules.map fun cr => (cr.matcher.key, cr.target)) =
      t.states.map (fun e => (Table.tryOrder o e.rules).map fun r => (r.key, r.target)) ∧
    (∀ n cs, c.state? n = some cs ↔ cs ∈ c.states ∧ cs.name = n) ∧
    (∀ n, c.state? n = none ↔ n ∉ t.states.map (·.name)) ∧
    (∀ n, c.hasState n ↔ n ∈ t.states.map (·.name)) ∧
    t.firstState = some c.initialState ∧
    (∀ e ∈ t.states, (Table.tryOrder o e.rules).Perm e.rules) ∧
    c.states.map (·.rules.length) = t.states.map (·.rules.length) ∧
    (∀ cs ∈ c.states, ∀ cr ∈ cs.rules.dropLast, cr.matcher.isWildcard = false) := by
  refine ⟨Table.compile_keeps ht hc, Table.pairs_compile ht hc,
    fun n cs => Table.state?_eq_some_iff ht hc,
    fun n => Table.state?_eq_none_iff hc, fun n => Table.hasState_iff hc,
    Table.firstState_eq_initialState hc, fun e he => Table.tryOrder_perm (ht.keys_nodup e he),
    Table.ruleCounts_compile ht hc, Table.wildcard_last_compile hc⟩

/-- A turnstile whose wildcard rule is authored first: it is well formed, it compiles, and its
compiled table keeps its rules with the wildcard moved last. -/
theorem turnstile_keeps_rules :
    let t := Table.build [("locked", [("coin", "unlocked"), ("push", "locked")]),
      ("unlocked", [("_", "unlocked"), ("push", "locked")])]
    ∃ c, t.WellFormed ∧ t.compile {} = .ok c ∧
      List.Forall₂ (Table.KeepsState {}) t.states c.states ∧
      c.states.map (fun cs => cs.rules.map fun cr => (cr.matcher.key, cr.target)) =
        t.states.map (fun e => (Table.tryOrder {} e.rules).map fun r => (r.key, r.target)) ∧
      (∀ n cs, c.state? n = some cs ↔ cs ∈ c.states ∧ cs.name = n) ∧
      (∀ n, c.state? n = none ↔ n ∉ t.states.map (·.name)) ∧
      (∀ n, c.hasState n ↔ n ∈ t.states.map (·.name)) ∧
      t.firstState = some c.initialState ∧
      (∀ e ∈ t.states, (Table.tryOrder {} e.rules).Perm e.rules) ∧
      c.states.map (·.rules.length) = t.states.map (·.rules.length) ∧
      (∀ cs ∈ c.states, ∀ cr ∈ cs.rules.dropLast, cr.matcher.isWildcard = false) :=
  ⟨_, Table.build_wellFormed _, rfl, compile_keeps_rules (Table.build_wellFormed _) rfl⟩

end TableMachine
