import TableMachine.Proofs.Builder
import TableMachine.Proofs.Compile

/-!
# What a table reads from JSON

`Table.ofJson` reads a JSON value as a table. What it accepts is a grammar, stated here on its own
terms, without the reader:

* an item of an array body gives the pair `(key, target)` when it is `[key, target]`, or an object
  whose `on` is `key` and whose `to` is `target`, whatever its other fields (`Table.ItemGives`);
* a state's body gives a list of pairs when it is an object of string values, or an array whose
  items give the pairs in order (`Table.BodyGives`);
* a value reads as a list of declarations when it is a non-empty object whose bodies give them,
  state by state (`Table.Reads`).

Every other value is refused with its first violation, found state by state in key order and,
inside a state, field by field or item by item (`Table.Refuses`, `Table.BodyFault`,
`Table.ItemFault`):

> `ofJson_reads_grammar`: `Table.ofJson` accepts exactly the values that read as declarations,
> and builds from them the table the builder makes of those declarations; it refuses every other
> value with the fault of its first violation.

The reader is a chain of `Except` computations: a `List.mapM` over the items of a body, and a walk
over the states (`Table.ofFields`), which is a `mapM` over the bodies followed by the builder
(`Table.ofFields_eq`). Each level is then settled by two facts about `mapM`: it succeeds exactly
when every element does (`mapM_eq_ok_iff`), and it fails with the failure of the first element
that fails (`mapM_eq_error_iff`).
-/

namespace TableMachine

/-! ## The first failure of a list walk -/

section MapM

variable {ε α β : Type} {f : α → Except ε β}

/-- Related lists stay related under a relation that agrees with the first. -/
theorem forall₂_iff_of_iff {R S : α → β → Prop} (h : ∀ a b, R a b ↔ S a b) {l : List α}
    {l' : List β} : List.Forall₂ R l l' ↔ List.Forall₂ S l l' :=
  ⟨List.Forall₂.imp fun a b => (h a b).1, List.Forall₂.imp fun a b => (h a b).2⟩

@[simp] theorem ok_bind {a : α} {g : α → Except ε β} : (Except.ok a >>= g) = g a := rfl

@[simp] theorem error_bind {e : ε} {g : α → Except ε β} : (Except.error e >>= g) = .error e := rfl

theorem map_eq_ok {g : α → β} {x : Except ε α} {b : β} :
    g <$> x = .ok b ↔ ∃ a, x = .ok a ∧ g a = b := by
  cases x <;> simp [Functor.map, Except.map]

theorem map_eq_error {g : α → β} {x : Except ε α} {e : ε} : g <$> x = .error e ↔ x = .error e := by
  cases x <;> simp [Functor.map, Except.map]

theorem bind_cons_eq_ok {x : Except ε (List β)} {b : β} {l' : List β} :
    (x >>= fun bs => pure (b :: bs)) = .ok l' ↔ ∃ bs, x = .ok bs ∧ l' = b :: bs := by
  cases x <;> simp [bind, Except.bind, pure, Except.pure, eq_comm]

theorem bind_cons_eq_error {x : Except ε (List β)} {b : β} {e : ε} :
    (x >>= fun bs => pure (b :: bs)) = .error e ↔ x = .error e := by
  cases x <;> simp [bind, Except.bind, pure, Except.pure]

/-- `mapM` succeeds exactly when every element does, with the outputs in order. -/
theorem mapM_eq_ok_iff {l : List α} {l' : List β} :
    l.mapM f = .ok l' ↔ List.Forall₂ (fun a b => f a = .ok b) l l' := by
  refine ⟨mapM_eq_ok, fun h => ?_⟩
  induction h with
  | nil => rfl
  | cons hab _ ih =>
    rw [List.mapM_cons, hab]
    exact bind_cons_eq_ok.mpr ⟨_, ih, rfl⟩

/-- `mapM` fails with the failure of the first element that fails. -/
theorem mapM_eq_error_iff {e : ε} : ∀ {l : List α},
    l.mapM f = .error e ↔
      ∃ pre x post, l = pre ++ x :: post ∧ (∀ y ∈ pre, ∃ b, f y = .ok b) ∧ f x = .error e
  | [] => by simp [List.mapM_nil, pure, Except.pure]
  | a :: l => by
    rw [List.mapM_cons]
    cases ha : f a with
    | error e' =>
      -- the head fails, so it is the first failure
      rw [error_bind, Except.error.injEq]
      constructor
      · rintro rfl
        exact ⟨[], a, l, rfl, by simp, ha⟩
      · rintro ⟨pre, x, post, hl, hpre, hx⟩
        cases pre with
        | nil =>
          obtain ⟨rfl, -⟩ := List.cons.inj hl
          rw [ha] at hx
          exact Except.error.inj hx
        | cons y pre =>
          obtain ⟨hy, -⟩ := List.cons.inj hl
          obtain ⟨b, hb⟩ := hpre y List.mem_cons_self
          rw [← hy, ha] at hb
          cases hb
    | ok b =>
      -- the head succeeds, so the first failure is in the tail
      rw [ok_bind, bind_cons_eq_error, mapM_eq_error_iff]
      constructor
      · rintro ⟨pre, x, post, rfl, hpre, hx⟩
        refine ⟨a :: pre, x, post, rfl, fun y hy => ?_, hx⟩
        rcases List.mem_cons.mp hy with rfl | hy
        · exact ⟨b, ha⟩
        · exact hpre y hy
      · rintro ⟨pre, x, post, hl, hpre, hx⟩
        cases pre with
        | nil =>
          obtain ⟨rfl, -⟩ := List.cons.inj hl
          rw [ha] at hx
          cases hx
        | cons y pre =>
          obtain ⟨rfl, rfl⟩ := List.cons.inj hl
          exact ⟨pre, x, post, rfl, fun z hz => hpre z (List.mem_cons_of_mem _ hz), hx⟩

end MapM

namespace Table

/-! ## The grammar -/

/-- An item of an array body gives the pair `(key, target)` when it is the pair `[key, target]`,
or an object whose `on` is `key` and whose `to` is `target`, whatever its other fields. -/
def ItemGives (item : Json) (p : String × String) : Prop :=
  item = .arr [.str p.1, .str p.2] ∨
    ∃ fs, item = .obj fs ∧ Json.Fields.get? "on" fs = some (.str p.1) ∧
      Json.Fields.get? "to" fs = some (.str p.2)

/-- A state's body gives the pairs `ps` when it is the object that maps each key to its target,
or an array whose items give the pairs one by one. -/
def BodyGives (body : Json) (ps : List (String × String)) : Prop :=
  body = .obj (ps.map fun p => (p.1, .str p.2)) ∨
    ∃ items, body = .arr items ∧ List.Forall₂ ItemGives items ps

/-- A JSON value reads as the declarations `decls` when it is a non-empty object whose fields are
the declared states, in order, each with a body that gives its pairs. -/
def Reads (j : Json) (decls : List (String × List (String × String))) : Prop :=
  ∃ fs, j = .obj fs ∧ fs ≠ [] ∧ List.Forall₂ (fun f d => f.1 = d.1 ∧ BodyGives f.2 d.2) fs decls

/-- The fault that an item of state `state` giving no pair is refused with. -/
inductive ItemFault (state : String) : Json → TableFault → Prop
  /-- A pair whose key is not a string. -/
  | pairKey {k t : Json} : k.str? = none →
      ItemFault state (.arr [k, t]) (.keyNotString state k.kindName)
  /-- A pair whose target is not a string. -/
  | pairTarget {key : String} {t : Json} : t.str? = none →
      ItemFault state (.arr [.str key, t]) (.targetNotString state key t.kindName)
  /-- An object without a string `on` field. -/
  | noOn {fs : List (String × Json)} : (∀ key, Json.Fields.get? "on" fs ≠ some (.str key)) →
      ItemFault state (.obj fs) (.noOnField state)
  /-- An object whose `to` is not a string, a missing `to` counting as `null`. -/
  | objTarget {fs : List (String × Json)} {key : String} {t : Json} :
      Json.Fields.get? "on" fs = some (.str key) → (Json.Fields.get? "to" fs).getD .null = t →
      t.str? = none → ItemFault state (.obj fs) (.targetNotString state key t.kindName)
  /-- Anything else: neither a two-element array nor an object. -/
  | other {j : Json} : (∀ k t, j ≠ .arr [k, t]) → (∀ fs, j ≠ .obj fs) →
      ItemFault state j (.badItem state j.kindName)

/-- The fault that a body of state `state` giving no pairs is refused with: that of its first
offending field or item. -/
inductive BodyFault (state : String) : Json → TableFault → Prop
  /-- A body that is neither an object nor an array. -/
  | kind {j : Json} : (∀ fs, j ≠ .obj fs) → (∀ items, j ≠ .arr items) →
      BodyFault state j (.badBody state j.kindName)
  /-- An object body whose first value that is not a string is the target of `key`. -/
  | field {pre post : List (String × Json)} {key : String} {t : Json} :
      (∀ f ∈ pre, ∃ target, f.2 = .str target) → t.str? = none →
      BodyFault state (.obj (pre ++ (key, t) :: post)) (.targetNotString state key t.kindName)
  /-- An array body whose first item giving no pair is refused with `fault`. -/
  | item {pre post : List Json} {x : Json} {fault : TableFault} :
      (∀ y ∈ pre, ∃ p, ItemGives y p) → ItemFault state x fault →
      BodyFault state (.arr (pre ++ x :: post)) fault

/-- The fault that a JSON value reading as no declarations is refused with. -/
inductive Refuses : Json → TableFault → Prop
  /-- A value that is not an object. -/
  | notMapping {j : Json} : (∀ fs, j ≠ .obj fs) → Refuses j (.notMapping j.kindName)
  /-- The empty object. -/
  | noStates : Refuses (.obj []) .noStates
  /-- An object whose first state with a body giving no pairs is refused with `fault`. -/
  | body {pre post : List (String × Json)} {state : String} {b : Json} {fault : TableFault} :
      (∀ f ∈ pre, ∃ ps, BodyGives f.2 ps) → BodyFault state b fault →
      Refuses (.obj (pre ++ (state, b) :: post)) fault

/-! ## Targets and items -/

theorem targetOf_eq_ok_iff {state key t : String} {j : Json} :
    targetOf state key j = .ok t ↔ j = .str t := by
  cases j <;> simp [targetOf]

theorem targetOf_eq_error_iff {state key : String} {j : Json} {fault : TableFault} :
    targetOf state key j = .error fault ↔
      j.str? = none ∧ fault = .targetNotString state key j.kindName := by
  cases j <;> simp [targetOf, Json.str?, eq_comm]

theorem ruleItem_eq_ok_iff {state : String} {x : Json} {p : String × String} :
    ruleItem state x = .ok p ↔ ItemGives x p := by
  obtain ⟨key, target⟩ := p
  unfold ruleItem
  split
  · next k t =>
    -- a two-element array gives a pair when both elements are strings
    cases k with
    | str k => cases t <;> simp [targetOf, ItemGives, bind, Except.bind, pure, Except.pure, and_comm]
    | _ => simp [ItemGives]
  · next fs =>
    -- an object gives a pair when its `on` and `to` are strings
    rcases hon : Json.Fields.get? "on" fs with _ | ⟨_ | _ | _ | k | _ | _⟩ <;>
      rcases hto : Json.Fields.get? "to" fs with _ | ⟨_ | _ | _ | t | _ | _⟩ <;>
      simp [hon, hto, targetOf, ItemGives, bind, Except.bind, pure, Except.pure, and_comm]
  · next j hpair hobj =>
    simp only [ItemGives, reduceCtorEq, false_iff, not_or, not_exists, not_and]
    exact ⟨fun h => hpair _ _ h, fun fs h => (hobj fs h).elim⟩

theorem ruleItem_eq_error_iff {state : String} {x : Json} {fault : TableFault} :
    ruleItem state x = .error fault ↔ ItemFault state x fault := by
  constructor
  · intro h
    unfold ruleItem at h
    split at h
    · next k t =>
      cases k with
      | str key =>
        simp only [bind, Except.bind] at h
        split at h
        · next e he =>
          obtain ⟨hstr, rfl⟩ := targetOf_eq_error_iff.mp he
          cases h
          exact .pairTarget hstr
        · cases h
      | _ => cases h; exact .pairKey rfl
    · next fs =>
      split at h
      · next key hon =>
        simp only [bind, Except.bind] at h
        split at h
        · next e he =>
          obtain ⟨hstr, rfl⟩ := targetOf_eq_error_iff.mp he
          cases h
          exact .objTarget hon rfl hstr
        · cases h
      · next hon =>
        cases h
        exact .noOn fun key h => hon key h
    · next j hpair hobj =>
      cases h
      exact .other (fun k t h => hpair k t h) (fun fs h => hobj fs h)
  · intro h
    cases h with
    | @pairKey k t hk =>
      cases k with
      | str key => cases hk
      | _ => rfl
    | pairTarget ht => simp [ruleItem, targetOf_eq_error_iff.mpr ⟨ht, rfl⟩, bind, Except.bind]
    | noOn hon =>
      simp only [ruleItem]
    | objTarget hon hto ht =>
      simp [ruleItem, hon, hto, targetOf_eq_error_iff.mpr ⟨ht, rfl⟩, bind, Except.bind]
    | other hpair hobj =>
      unfold ruleItem
      split
      · next k t => exact absurd rfl (hpair k t)
      · next fs => exact absurd rfl (hobj fs)
      · rfl

/-! ## Bodies -/

theorem bodyPairs_eq_ok_iff {state : String} {b : Json} {ps : List (String × String)} :
    bodyPairs state b = .ok ps ↔ BodyGives b ps := by
  cases b with
  | obj fs =>
    -- each field reads as its key with its value, which must be a string
    rw [bodyPairs, mapM_eq_ok_iff,
      forall₂_iff_of_iff (S := fun f p => f = (p.1, Json.str p.2)) ?field]
    · have hmap := List.forall₂_map_right_iff (R := fun (a b : String × Json) => a = b)
        (f := fun p : String × String => (p.1, Json.str p.2)) (l := fs) (u := ps)
      rw [List.forall₂_eq_eq_eq] at hmap
      rw [← hmap]
      simp [BodyGives]
    · rintro ⟨key, t⟩ ⟨key', target⟩
      simp only [bind_pure_comp, map_eq_ok, targetOf_eq_ok_iff, Prod.mk.injEq]
      constructor
      · rintro ⟨_, rfl, rfl, rfl⟩
        exact ⟨rfl, rfl⟩
      · rintro ⟨rfl, rfl⟩
        exact ⟨_, rfl, rfl, rfl⟩
  | arr items =>
    rw [bodyPairs, mapM_eq_ok_iff, forall₂_iff_of_iff fun _ _ => ruleItem_eq_ok_iff]
    simp [BodyGives]
  | _ => simp [bodyPairs, BodyGives]

theorem bodyPairs_eq_error_iff {state : String} {b : Json} {fault : TableFault} :
    bodyPairs state b = .error fault ↔ BodyFault state b fault := by
  cases b with
  | obj fs =>
    -- the first field whose value is not a string
    rw [bodyPairs, mapM_eq_error_iff]
    constructor
    · rintro ⟨pre, ⟨key, t⟩, post, rfl, hpre, hx⟩
      simp only [bind_pure_comp] at hx hpre
      obtain ⟨hstr, rfl⟩ := targetOf_eq_error_iff.mp (map_eq_error.mp hx)
      refine .field (fun f hf => ?_) hstr
      obtain ⟨p, hp⟩ := hpre f hf
      obtain ⟨target, ht, -⟩ := map_eq_ok.mp hp
      exact ⟨target, targetOf_eq_ok_iff.mp ht⟩
    · intro h
      cases h with
      | kind hobj => exact absurd rfl (hobj fs)
      | @field pre post key t hpre hstr =>
        simp only [bind_pure_comp]
        refine ⟨pre, (key, t), post, rfl, fun f hf => ?_, ?_⟩
        · obtain ⟨target, ht⟩ := hpre f hf
          exact ⟨(f.1, target), map_eq_ok.mpr ⟨target, targetOf_eq_ok_iff.mpr ht, rfl⟩⟩
        · exact map_eq_error.mpr (targetOf_eq_error_iff.mpr ⟨hstr, rfl⟩)
  | arr items =>
    -- the first item that gives no pair
    rw [bodyPairs, mapM_eq_error_iff]
    constructor
    · rintro ⟨pre, x, post, rfl, hpre, hx⟩
      refine .item (fun y hy => ?_) (ruleItem_eq_error_iff.mp hx)
      obtain ⟨p, hp⟩ := hpre y hy
      exact ⟨p, ruleItem_eq_ok_iff.mp hp⟩
    · intro h
      cases h with
      | kind _ harr => exact absurd rfl (harr items)
      | @item pre post x _ hpre hx =>
        refine ⟨pre, x, post, rfl, fun y hy => ?_, ruleItem_eq_error_iff.mpr hx⟩
        obtain ⟨p, hp⟩ := hpre y hy
        exact ⟨p, ruleItem_eq_ok_iff.mpr hp⟩
  | _ =>
    simp only [bodyPairs, Except.error.injEq]
    constructor
    · rintro rfl
      exact .kind (fun _ h => nomatch h) (fun _ h => nomatch h)
    · rintro ⟨⟩
      rfl

/-- The three forms of a state's body: an object of targets, an array of pairs, and an array of
`{on, to}` objects. Each gives the pairs it was made from. -/
theorem bodyGives_forms (ps : List (String × String)) :
    BodyGives (.obj (ps.map fun p => (p.1, .str p.2))) ps ∧
    BodyGives (.arr (ps.map fun p => .arr [.str p.1, .str p.2])) ps ∧
    BodyGives (.arr (ps.map fun p => .obj [("on", .str p.1), ("to", .str p.2)])) ps := by
  refine ⟨.inl rfl, .inr ⟨_, rfl, ?_⟩, .inr ⟨_, rfl, ?_⟩⟩
  · rw [List.forall₂_map_left_iff, List.forall₂_same]
    exact fun p _ => .inl rfl
  · rw [List.forall₂_map_left_iff, List.forall₂_same]
    exact fun p _ => .inr ⟨_, rfl, by simp [Json.Fields.get?]⟩

/-! ## Tables -/

/-- Reading the states of an object reads every body, in key order, and then declares the states
to the builder. -/
theorem ofFields_eq (t : Table) : ∀ fs : List (String × Json),
    ofFields t fs = (·.foldl (fun t (name, pairs) => t.insertState name pairs) t) <$>
      fs.mapM fun f => (f.1, ·) <$> bodyPairs f.1 f.2
  | [] => rfl
  | (state, body) :: rest => by
    rw [ofFields, List.mapM_cons]
    cases bodyPairs state body with
    | error e => rfl
    | ok pairs =>
      rw [ok_bind, ofFields_eq _ rest]
      cases rest.mapM fun f => (f.1, ·) <$> bodyPairs f.1 f.2 <;> rfl

/-- A state's field reads as a declaration when its body gives the declared pairs. -/
theorem declOf_eq_ok_iff {f : String × Json} {d : String × List (String × String)} :
    (f.1, ·) <$> bodyPairs f.1 f.2 = .ok d ↔ f.1 = d.1 ∧ BodyGives f.2 d.2 := by
  rw [map_eq_ok]
  constructor
  · rintro ⟨ps, hps, rfl⟩
    exact ⟨rfl, bodyPairs_eq_ok_iff.mp hps⟩
  · obtain ⟨name, ps⟩ := d
    rintro ⟨rfl, hps⟩
    exact ⟨ps, bodyPairs_eq_ok_iff.mpr hps, rfl⟩

theorem ofFields_eq_ok_iff {t t' : Table} {fs : List (String × Json)} :
    ofFields t fs = .ok t' ↔
      ∃ decls, List.Forall₂ (fun f d => f.1 = d.1 ∧ BodyGives f.2 d.2) fs decls ∧
        t' = decls.foldl (fun t (name, pairs) => t.insertState name pairs) t := by
  rw [ofFields_eq, map_eq_ok]
  refine exists_congr fun decls => ?_
  rw [mapM_eq_ok_iff, forall₂_iff_of_iff fun _ _ => declOf_eq_ok_iff, eq_comm]

theorem ofFields_eq_error_iff {t : Table} {fs : List (String × Json)} {fault : TableFault} :
    ofFields t fs = .error fault ↔
      ∃ pre state b post, fs = pre ++ (state, b) :: post ∧
        (∀ f ∈ pre, ∃ ps, BodyGives f.2 ps) ∧ BodyFault state b fault := by
  rw [ofFields_eq, map_eq_error, mapM_eq_error_iff]
  constructor
  · rintro ⟨pre, ⟨state, b⟩, post, rfl, hpre, hx⟩
    refine ⟨pre, state, b, post, rfl, fun f hf => ?_,
      bodyPairs_eq_error_iff.mp (map_eq_error.mp hx)⟩
    obtain ⟨d, hd⟩ := hpre f hf
    exact ⟨d.2, (declOf_eq_ok_iff.mp hd).2⟩
  · rintro ⟨pre, state, b, post, rfl, hpre, hb⟩
    refine ⟨pre, (state, b), post, rfl, fun f hf => ?_,
      map_eq_error.mpr (bodyPairs_eq_error_iff.mpr hb)⟩
    obtain ⟨ps, hps⟩ := hpre f hf
    exact ⟨(f.1, ps), declOf_eq_ok_iff.mpr ⟨rfl, hps⟩⟩

theorem ofJson_obj {fs : List (String × Json)} (h : fs ≠ []) : ofJson (.obj fs) = ofFields empty fs := by
  cases fs with
  | nil => exact absurd rfl h
  | cons f fs => rfl

theorem ofJson_eq_ok_iff {j : Json} {t : Table} :
    ofJson j = .ok t ↔ ∃ decls, Reads j decls ∧ t = build decls := by
  cases j with
  | obj fs =>
    cases fs with
    | nil => simp [ofJson, Reads]
    | cons f fs =>
      rw [ofJson_obj (List.cons_ne_nil f fs), ofFields_eq_ok_iff]
      simp [Reads, build]
  | _ => simp [ofJson, Reads]

theorem ofJson_eq_error_iff {j : Json} {fault : TableFault} :
    ofJson j = .error fault ↔ Refuses j fault := by
  constructor
  · intro h
    cases j with
    | obj fs =>
      cases fs with
      | nil =>
        cases h
        exact .noStates
      | cons f fs =>
        -- the first state whose body gives no pairs
        obtain ⟨pre, state, b, post, hfs, hpre, hb⟩ :=
          ofFields_eq_error_iff.mp ((ofJson_obj (List.cons_ne_nil f fs)).symm.trans h)
        rw [hfs]
        exact .body hpre hb
    | _ =>
      cases h
      exact .notMapping fun _ h => nomatch h
  · intro h
    cases h with
    | @notMapping j hj =>
      cases j with
      | obj fs => exact absurd rfl (hj fs)
      | _ => rfl
    | noStates => rfl
    | @body pre post state b _ hpre hb =>
      rw [ofJson_obj (by simp)]
      exact ofFields_eq_error_iff.mpr ⟨pre, state, b, post, rfl, hpre, hb⟩

/-- **What a table reads from JSON.** `Table.ofJson` accepts a value exactly when it reads as
declarations (a non-empty object whose bodies are objects of string targets or arrays of
`[key, target]` pairs and `{on, to}` objects), and then returns the table the builder makes of
those declarations; every other value is refused with the fault of its first violation, in key
order and, inside a body, in item order. -/
theorem ofJson_reads_grammar (j : Json) :
    (∀ t, ofJson j = .ok t ↔ ∃ decls, Reads j decls ∧ t = build decls) ∧
    (∀ fault, ofJson j = .error fault ↔ Refuses j fault) :=
  ⟨fun _ => ofJson_eq_ok_iff, fun _ => ofJson_eq_error_iff⟩

/-- Of two items that give no pair, the first is reported: here a one-element array, before an
object without `on`. -/
example : ofJson (.obj [("a", .obj [("coin", .str "b")]),
    ("b", .arr [.arr [.str "push"], .obj [("to", .str "a")]])]) =
      .error (.badItem "b" "sequence") := by decide

end Table

end TableMachine
