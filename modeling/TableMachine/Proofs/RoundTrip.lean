import TableMachine.Proofs.Reading

/-!
# The canonical JSON form reads back as the same table

`Table.toJson` writes a table in its canonical form, each state mapped to its rules as
`{"on", "to"}` objects. Reading that form back gives the table itself:

> `ofJson_toJson_roundTrip`: `Table.ofJson` reads the canonical form of every well-formed table
> with a state as the table itself. Hence the canonical form tells such tables apart; reading a
> value, writing it and reading it again gives what reading it gave; and the table read back
> compiles to the same checksum. The canonical form of the empty table is refused, as a table
> without states.

The canonical form reads (in the sense of `Table.Reads`) as the table's own declarations,
`Table.decls`, and the builder turns these back into the table when the table is well formed
(`Table.build_decls`): each declaration then brings a new state and each pair a new key, so every
merge is an append (`Rule.upsertAll_fresh`, `Table.foldl_insertState_fresh`). Well-formed tables
are exactly the tables the builder makes (`Table.wellFormed_iff_build`), so the round trip covers
every table built by the builder or read from JSON.
-/

namespace TableMachine

namespace Rule

/-- A rule as the pair it is declared with. -/
def pair (r : Rule) : String × String := (r.key, r.target)

/-- Merging rules whose keys are all new appends them. -/
theorem upsertAll_fresh : ∀ (rs more : List Rule), ((rs ++ more).map (·.key)).Nodup →
    upsertAll rs (more.map pair) = rs ++ more
  | rs, [], _ => by simp [upsertAll]
  | rs, r :: more, hnd => by
    have hrs : (rs.map (·.key)).Nodup := (List.nodup_append.mp (by simpa using hnd)).1
    have hfresh : r.key ∉ rs.map (·.key) := by
      intro hr
      simp only [List.map_append, List.map_cons, List.nodup_append, List.nodup_cons] at hnd
      exact hnd.2.2 r.key hr r.key List.mem_cons_self rfl
    show upsertAll (upsert r.key r.target rs) (more.map pair) = _
    rw [upsert_eq r.key r.target rs hrs, if_neg hfresh]
    show upsertAll (rs ++ [r]) (more.map pair) = _
    rw [upsertAll_fresh (rs ++ [r]) more (by simpa using hnd)]
    simp

end Rule

namespace Table

/-- The declarations a table is made of: each state with the pairs of its rules, in order. -/
def decls (t : Table) : List (String × List (String × String)) :=
  t.states.map fun e => (e.name, e.rules.map Rule.pair)

/-- Declaring states with new names, each with rules of distinct keys, appends them. -/
theorem foldl_insertState_fresh : ∀ (es more : List StateEntry),
    ((es ++ more).map (·.name)).Nodup → (∀ e ∈ more, (e.rules.map (·.key)).Nodup) →
    (more.map fun e => (e.name, e.rules.map Rule.pair)).foldl
      (fun t (name, pairs) => t.insertState name pairs) (⟨es⟩ : Table) = ⟨es ++ more⟩
  | es, [], _, _ => by simp
  | es, e :: more, hnd, hkeys => by
    have hes : (es.map (·.name)).Nodup := (List.nodup_append.mp (by simpa using hnd)).1
    have hfresh : e.name ∉ es.map (·.name) := by
      intro he
      simp only [List.map_append, List.map_cons, List.nodup_append, List.nodup_cons] at hnd
      exact hnd.2.2 e.name he e.name List.mem_cons_self rfl
    -- the new state is appended with exactly its own rules
    have hstep : (⟨es⟩ : Table).insertState e.name (e.rules.map Rule.pair) = ⟨es ++ [e]⟩ := by
      rw [insertState, insertStateIn_eq _ _ es hes, if_neg hfresh,
        Rule.upsertAll_fresh [] e.rules (by simpa using hkeys e List.mem_cons_self)]
      rfl
    simp only [List.map_cons, List.foldl_cons]
    rw [hstep, foldl_insertState_fresh (es ++ [e]) more (by simpa using hnd)
        (fun e' he' => hkeys e' (List.mem_cons_of_mem _ he'))]
    simp

/-- The builder rebuilds a well-formed table from its declarations. -/
theorem build_decls {t : Table} (h : t.WellFormed) : build t.decls = t :=
  foldl_insertState_fresh [] t.states (by simpa using h.names_nodup) h.keys_nodup

/-- The well-formed tables are exactly the tables the builder makes. -/
theorem wellFormed_iff_build (t : Table) : t.WellFormed ↔ ∃ decls, build decls = t :=
  ⟨fun h => ⟨t.decls, build_decls h⟩, fun ⟨decls, h⟩ => h ▸ build_wellFormed decls⟩

/-- The canonical form of a table with a state reads as the table's declarations. -/
theorem toJson_reads {t : Table} (hne : t.states ≠ []) : Reads t.toJson t.decls := by
  refine ⟨_, rfl, by simpa using hne, ?_⟩
  rw [decls, List.forall₂_map_left_iff, List.forall₂_map_right_iff, List.forall₂_same]
  intro e _
  refine ⟨rfl, ?_⟩
  -- the rules are written in the `{on, to}` form of their pairs
  have hforms := (bodyGives_forms (e.rules.map Rule.pair)).2.2
  rw [List.map_map] at hforms
  exact hforms

theorem ofJson_toJson {t : Table} (hwf : t.WellFormed) (hne : t.states ≠ []) :
    ofJson t.toJson = .ok t :=
  ofJson_eq_ok_iff.mpr ⟨t.decls, toJson_reads hne, (build_decls hwf).symm⟩

/-- A table read from JSON declares a state. -/
theorem states_ne_nil_of_ofJson {j : Json} {t : Table} (h : ofJson j = .ok t) : t.states ≠ [] := by
  obtain ⟨decls, ⟨fs, -, hfs, hrel⟩, rfl⟩ := ofJson_eq_ok_iff.mp h
  have hdecls : decls ≠ [] := by
    rintro rfl
    exact hfs (List.forall₂_nil_right_iff.mp hrel)
  intro hnil
  have hfirst := (build_merges_declarations decls).2.2.2
  rw [firstState, hnil] at hfirst
  cases decls with
  | nil => exact hdecls rfl
  | cons d ds => cases hfirst

/-- **Canonical JSON round trip.** Reading the canonical form of a well-formed table with a state
gives the table back; so well-formed tables with a state have different canonical forms, reading
a value, writing what was read and reading again gives what the first reading gave, and the table
read back compiles to the same checksum. The empty table's canonical form is refused. -/
theorem ofJson_toJson_roundTrip :
    (∀ t : Table, t.WellFormed → t.states ≠ [] → ofJson t.toJson = .ok t) ∧
    (∀ t₁ t₂ : Table, t₁.WellFormed → t₂.WellFormed → t₁.states ≠ [] → t₂.states ≠ [] →
      t₁.toJson = t₂.toJson → t₁ = t₂) ∧
    (∀ j : Json, (ofJson j >>= fun t => ofJson t.toJson) = ofJson j) ∧
    (∀ (t : Table) (o : CompileOptions), t.WellFormed → t.states ≠ [] →
      ∃ t', ofJson t.toJson = .ok t' ∧
        (t'.compile o).map (·.checksum) = (t.compile o).map (·.checksum)) ∧
    ofJson empty.toJson = .error .noStates := by
  refine ⟨fun t hwf hne => ofJson_toJson hwf hne, ?_, fun j => ?_, ?_, rfl⟩
  · intro t₁ t₂ hwf₁ hwf₂ hne₁ hne₂ heq
    have h := (ofJson_toJson hwf₁ hne₁).symm.trans (heq ▸ ofJson_toJson hwf₂ hne₂)
    exact Except.ok.inj h
  · -- a value that reads as a table reads back as it; a refused one is refused again
    cases h : ofJson j with
    | error e => rfl
    | ok t => exact ofJson_toJson (ofJson_wellFormed h) (states_ne_nil_of_ofJson h)
  · intro t o hwf hne
    exact ⟨t, ofJson_toJson hwf hne, rfl⟩

/-- The turnstile table, made by the builder, reads back from its canonical form. -/
theorem turnstile_roundTrip :
    let t := build [("locked", [("coin", "unlocked"), ("push", "locked")]),
      ("unlocked", [("push", "locked"), ("coin", "unlocked")])]
    t.WellFormed ∧ t.states ≠ [] ∧ ofJson t.toJson = .ok t := by
  intro t
  have hwf : t.WellFormed := build_wellFormed _
  have hne : t.states ≠ [] := by decide
  exact ⟨hwf, hne, ofJson_toJson_roundTrip.1 t hwf hne⟩

end Table

end TableMachine
