import TableMachine.Proofs.Reading

/-!
# Why compiling a table fails

`Table.compile` checks, in this order, that the table declares a state, that the wildcard token
is not empty, and then every key, state after state and rule after rule, of which it compiles
the patterns. A key is a pattern when it is written `/body/flags` with flags drawn from `g`, `i`
and `m` (`Matcher.PatternShape`), whether or not it is also the wildcard token; it is refused when
the pattern compiler refuses its body under the flags' settings (`Matcher.Refuses`). These are
all the failures there are:

> `compile_errors`: compiling fails with "no states" exactly when the table has none; otherwise
> with "empty wildcard" exactly when the token is empty; otherwise with the refusal of the first
> refused key, in state and then rule order, exactly when there is a refused key; and it
> succeeds otherwise. It never fails with a JSON or YAML error.

The key check is a walk over the states, each a walk over its rules (`List.mapM`). Two facts turn
it into one walk over the table's keys (`Table.keys`): walks whose steps fail alike fail alike
(`mapM_eq_error_congr`), and a walk over pieces fails as the walk over their concatenation
(`mapM_flatMap_eq_error`). The first failure of that walk is `mapM_eq_error_iff`'s.
-/

namespace TableMachine

/-! ## Walks that fail alike -/

section MapM

variable {ε α β γ : Type}

theorem exists_eq_ok_iff {x : Except ε α} : (∃ a, x = .ok a) ↔ ∀ e, ¬x = .error e := by
  cases x <;> simp

theorem bind_pure_eq_error {x : Except ε α} {f : α → β} {e : ε} :
    (x >>= fun a => pure (f a)) = .error e ↔ x = .error e := by
  cases x <;> simp [bind, Except.bind, pure, Except.pure]

theorem exists_map_eq_ok_iff {x : Except ε α} {f : α → β} :
    (∃ b, f <$> x = .ok b) ↔ ∃ a, x = .ok a := by
  cases x <;> simp [Functor.map, Except.map]

theorem mapError_eq_error_iff {x : Except ε α} {f : ε → γ} {e : γ} :
    x.mapError f = .error e ↔ ∃ e', x = .error e' ∧ e = f e' := by
  cases x <;> simp [Except.mapError, eq_comm]

theorem exists_mapError_eq_ok_iff {x : Except ε α} {f : ε → γ} :
    (∃ a, x.mapError f = .ok a) ↔ ∃ a, x = .ok a := by
  cases x <;> simp [Except.mapError]

/-- Two walks whose steps fail alike fail alike. -/
theorem mapM_eq_error_congr {f : α → Except ε β} {g : α → Except ε γ}
    (h : ∀ a e, f a = .error e ↔ g a = .error e) {l : List α} {e : ε} :
    l.mapM f = .error e ↔ l.mapM g = .error e := by
  -- a step succeeds exactly when it does not fail
  have hok : ∀ a, (∃ b, f a = .ok b) ↔ ∃ c, g a = .ok c := fun a => by
    rw [exists_eq_ok_iff, exists_eq_ok_iff]
    exact forall_congr' fun e => not_congr (h a e)
  rw [mapM_eq_error_iff, mapM_eq_error_iff]
  constructor
  · rintro ⟨pre, x, post, hl, hpre, hx⟩
    exact ⟨pre, x, post, hl, fun y hy => (hok y).mp (hpre y hy), (h x e).mp hx⟩
  · rintro ⟨pre, x, post, hl, hpre, hx⟩
    exact ⟨pre, x, post, hl, fun y hy => (hok y).mpr (hpre y hy), (h x e).mpr hx⟩

/-- A walk over a concatenation of pieces fails as the walk over the pieces does. -/
theorem mapM_flatMap_eq_error {φ : α → List γ} {g : γ → Except ε β} {e : ε} :
    ∀ {l : List α},
      (l.flatMap φ).mapM g = .error e ↔ l.mapM (fun a => (φ a).mapM g) = .error e
  | [] => by simp [pure, Except.pure]
  | a :: l => by
    rw [List.flatMap_cons, List.mapM_append, List.mapM_cons]
    cases (φ a).mapM g with
    | error e' => simp
    | ok v => rw [ok_bind, ok_bind, bind_pure_eq_error, bind_pure_eq_error, mapM_flatMap_eq_error]

/-- A walk succeeds exactly when every step does. -/
theorem exists_mapM_eq_ok_iff {f : α → Except ε β} :
    ∀ {l : List α}, (∃ l', l.mapM f = .ok l') ↔ ∀ a ∈ l, ∃ b, f a = .ok b
  | [] => by simp [pure, Except.pure]
  | a :: l => by
    rw [List.mapM_cons, List.forall_mem_cons, ← exists_mapM_eq_ok_iff]
    cases f a with
    | error e' => simp
    | ok b =>
      simp only [ok_bind, bind_cons_eq_ok]
      constructor
      · rintro ⟨-, bs, hbs, -⟩
        exact ⟨⟨b, rfl⟩, bs, hbs⟩
      · rintro ⟨-, bs, hbs⟩
        exact ⟨_, bs, hbs, rfl⟩

end MapM

/-! ## Refused keys -/

namespace Matcher

open Regex

/-- A key is written as a pattern, `/body/flags`, with flags drawn from `g`, `i` and `m`. The
flags hold no `/`, so body and flags are split at the key's last `/`. -/
def PatternShape (key body flags : String) : Prop :=
  key.toList = '/' :: (body.toList ++ '/' :: flags.toList) ∧
    ∀ c ∈ flags.toList, c = 'g' ∨ c = 'i' ∨ c = 'm'

/-- A key is refused with `e` when it is written as a pattern whose body the pattern compiler
refuses with `e` under the flags' settings: `i` case-insensitive, `m` multi-line. Whether the key
is the wildcard token plays no part. -/
def Refuses (key : String) (e : PatternError) : Prop :=
  ∃ body flags, PatternShape key body flags ∧
    Pattern.compile body (flags.contains 'i') (flags.contains 'm') = .error e

/-- A key that reads `/`, a body, `/` and a part without `/` is split after the body, and kept
as a pattern exactly when that part is made of flags. -/
theorem splitPattern_of_lastSlash {key body flags : String}
    (hkey : key.toList = '/' :: (body.toList ++ '/' :: flags.toList)) (hf : '/' ∉ flags.toList) :
    splitPattern key =
      if flags.toList.all (fun c => c = 'g' ∨ c = 'i' ∨ c = 'm') then some (body, flags)
      else none := by
  -- read from the end, the first `/` is the one after the body
  have hnone : flags.toList.reverse.findIdx? (· = '/') = none := by
    rw [List.findIdx?_eq_none_iff]
    intro c hc
    simpa using fun h : c = '/' => hf (h ▸ List.mem_reverse.mp hc)
  have hidx : (body.toList ++ '/' :: flags.toList).reverse.findIdx? (· = '/') =
      some flags.toList.length := by
    simp [List.findIdx?_append, hnone, List.findIdx?_cons]
  have hdrop : (body.toList ++ '/' :: flags.toList).drop (body.toList.length + 1) =
      flags.toList := by
    simp [List.drop_append]
  unfold splitPattern
  simp only [hkey, hidx, List.length_append, List.length_cons]
  rw [show body.toList.length + (flags.toList.length + 1) - 1 - flags.toList.length =
    body.toList.length by omega, hdrop, List.take_left' rfl, String.ofList_toList,
    String.ofList_toList]

/-- Splitting a key at its last `/` finds exactly the pattern shape. -/
theorem splitPattern_eq_some_iff {key body flags : String} :
    splitPattern key = some (body, flags) ↔ PatternShape key body flags := by
  constructor
  · intro h
    unfold splitPattern at h
    split at h
    · next rest hkey =>
      split at h
      · next i hi =>
        dsimp only at h
        split at h
        · next hflags =>
          -- the last `/` of `rest` stands `i` places from its end
          obtain ⟨hlt, hslash, -⟩ := List.findIdx?_eq_some_iff_getElem.mp hi
          rw [List.length_reverse] at hlt
          have hclose : rest[rest.length - 1 - i] = '/' := by
            rw [List.getElem_reverse] at hslash
            simpa using hslash
          cases h
          refine ⟨?_, by simpa using hflags⟩
          rw [hkey, String.toList_ofList, String.toList_ofList, ← hclose,
            ← List.drop_eq_getElem_cons, List.take_append_drop]
        · cases h
      · cases h
    · cases h
  · rintro ⟨hkey, hflags⟩
    -- flags hold no `/`
    have hf : '/' ∉ flags.toList := fun h => by
      rcases hflags '/' h with h | h | h <;> cases h
    have hall : (flags.toList.all fun c => decide (c = 'g' ∨ c = 'i' ∨ c = 'm')) = true :=
      List.all_eq_true.mpr fun c hc => decide_eq_true (hflags c hc)
    rw [splitPattern_of_lastSlash hkey hf, if_pos hall]

theorem classify_of_splitPattern_eq_none {key w : String} (hs : splitPattern key = none) :
    classify key w = if key = w then .ok (.wildcard key) else .ok (.literal key) := by
  simp only [classify, hs]

theorem classify_of_splitPattern_eq_some {key w body flags : String}
    (hs : splitPattern key = some (body, flags)) :
    classify key w =
      pattern key <$> Pattern.compile body (flags.contains 'i') (flags.contains 'm') := by
  simp only [classify, hs]
  rfl

/-- Classifying a key fails exactly when the key is refused, whatever the wildcard token. -/
theorem classify_eq_error_iff {key w : String} {e : PatternError} :
    classify key w = .error e ↔ Refuses key e := by
  cases hs : splitPattern key with
  | none =>
    -- a key not written as a pattern is the wildcard or a literal
    refine iff_of_false (by rw [classify_of_splitPattern_eq_none hs]; split <;> simp) ?_
    rintro ⟨body, flags, hshape, -⟩
    rw [splitPattern_eq_some_iff.mpr hshape] at hs
    cases hs
  | some bf =>
    obtain ⟨body, flags⟩ := bf
    rw [classify_of_splitPattern_eq_some hs, map_eq_error]
    constructor
    · intro h
      exact ⟨body, flags, splitPattern_eq_some_iff.mp hs, h⟩
    · rintro ⟨body', flags', hshape', h⟩
      -- the shape fixes body and flags
      rw [splitPattern_eq_some_iff.mpr hshape', Option.some.injEq, Prod.mk.injEq] at hs
      rw [← hs.1, ← hs.2]
      exact h

theorem exists_classify_eq_ok_iff {key w : String} :
    (∃ m, classify key w = .ok m) ↔ ∀ e, ¬Refuses key e := by
  rw [exists_eq_ok_iff]
  exact forall_congr' fun e => not_congr classify_eq_error_iff

end Matcher

/-! ## Compiling a table -/

namespace Table

/-- The keys of a table, state after state and, within a state, in authored order. -/
def keys (t : Table) : List String := t.states.flatMap fun e => e.rules.map (·.key)

variable {t : Table} {o : CompileOptions}

/-! The three branches of `compile`, and the one step of `compileState` and `compileRule`. -/

theorem compile_of_states_eq_nil (hs : t.states = []) :
    t.compile o = .error (.invalidTable .noStates) := by
  simp [compile, isEmpty, hs]
  rfl

theorem compile_of_wildcard_eq_empty (hs : t.states ≠ []) (hw : o.wildcard = "") :
    t.compile o = .error (.invalidTable .emptyWildcard) := by
  simp [compile, isEmpty, hs, hw]
  rfl

theorem compile_eq_map (hs : t.states ≠ []) (hw : o.wildcard ≠ "") :
    t.compile o =
      (fun states => ⟨states, o, t, t.checksum⟩) <$> t.states.mapM (t.compileState o) := by
  simp [compile, isEmpty, hs, hw]

theorem compileState_eq_map (e : StateEntry) :
    t.compileState o e = (fun crs => ⟨e.name, wildcardLast crs,
      if o.terminalSignals && (wildcardLast crs).isEmpty then some (inFinalNotification e.name)
      else none⟩) <$> e.rules.mapM (t.compileRule o e.name) := by
  simp [compileState]

theorem compileRule_eq_map (s : String) (r : Rule) :
    t.compileRule o s r = (fun m => ⟨m, r.target, moveNotifications s r.target o.capitalization
      (o.terminalSignals && t.isTerminalTarget r.target)⟩) <$>
        (Matcher.classify r.key o.wildcard).mapError (TableError.invalidPattern r.key) := by
  simp [compileRule]

/-- Compiling the states fails as checking the table's keys one after another does. -/
theorem mapM_compileState_eq_error_iff {err : TableError} :
    t.states.mapM (t.compileState o) = .error err ↔
      t.keys.mapM (fun k =>
        (Matcher.classify k o.wildcard).mapError (TableError.invalidPattern k)) =
        .error err := by
  rw [keys, mapM_flatMap_eq_error]
  refine mapM_eq_error_congr fun e err' => ?_
  rw [compileState_eq_map, map_eq_error, List.mapM_map]
  exact mapM_eq_error_congr fun r err'' => by rw [compileRule_eq_map, map_eq_error]; rfl

/-- Compiling fails exactly in three ways, in this order: the table has no states; the wildcard
token is empty; a key is refused, and then the first refused key is reported. -/
theorem compile_eq_error_iff {err : TableError} :
    t.compile o = .error err ↔
      (t.states = [] ∧ err = .invalidTable .noStates) ∨
      (t.states ≠ [] ∧ o.wildcard = "" ∧ err = .invalidTable .emptyWildcard) ∨
      (t.states ≠ [] ∧ o.wildcard ≠ "" ∧ ∃ pre k post e, t.keys = pre ++ k :: post ∧
        (∀ k' ∈ pre, ∀ e', ¬Matcher.Refuses k' e') ∧ Matcher.Refuses k e ∧
        err = .invalidPattern k e) := by
  by_cases hs : t.states = []
  · rw [compile_of_states_eq_nil hs]
    simp [hs, @eq_comm _ err]
  by_cases hw : o.wildcard = ""
  · rw [compile_of_wildcard_eq_empty hs hw]
    simp [hs, hw, @eq_comm _ err]
  rw [compile_eq_map hs hw, map_eq_error, mapM_compileState_eq_error_iff, mapM_eq_error_iff]
  -- a key passes when it is not refused, and fails with its refusal
  simp only [exists_mapError_eq_ok_iff, Matcher.exists_classify_eq_ok_iff,
    mapError_eq_error_iff, Matcher.classify_eq_error_iff]
  simp only [hs, hw, false_and, false_or, ne_eq, not_false_eq_true, true_and]
  constructor
  · rintro ⟨pre, k, post, hkeys, hpre, e, hk, rfl⟩
    exact ⟨pre, k, post, e, hkeys, hpre, hk, rfl⟩
  · rintro ⟨pre, k, post, e, hkeys, hpre, hk, rfl⟩
    exact ⟨pre, k, post, hkeys, hpre, e, hk, rfl⟩

/-- A failed compilation is a table fault or a refused pattern. -/
theorem compile_error_cases {err : TableError} (h : t.compile o = .error err) :
    (∃ f, err = .invalidTable f) ∨ ∃ k e, err = .invalidPattern k e := by
  rcases compile_eq_error_iff.mp h with
    ⟨-, rfl⟩ | ⟨-, -, rfl⟩ | ⟨-, -, _, k, _, e, -, -, -, rfl⟩
  · exact .inl ⟨_, rfl⟩
  · exact .inl ⟨_, rfl⟩
  · exact .inr ⟨k, e, rfl⟩

/-- Compiling succeeds exactly when the table has a state, the wildcard token is not empty, and
no key is refused. -/
theorem exists_compile_eq_ok_iff :
    (∃ c, t.compile o = .ok c) ↔
      t.states ≠ [] ∧ o.wildcard ≠ "" ∧ ∀ k ∈ t.keys, ∀ e, ¬Matcher.Refuses k e := by
  by_cases hs : t.states = []
  · simp [compile_of_states_eq_nil hs, hs]
  by_cases hw : o.wildcard = ""
  · simp [compile_of_wildcard_eq_empty hs hw, hw]
  -- the states compile exactly when the walk over the keys does not fail
  rw [compile_eq_map hs hw, exists_map_eq_ok_iff, exists_eq_ok_iff]
  simp only [mapM_compileState_eq_error_iff]
  rw [← exists_eq_ok_iff, exists_mapM_eq_ok_iff]
  simp only [exists_mapError_eq_ok_iff, Matcher.exists_classify_eq_ok_iff]
  simp [hs, hw]

end Table

/-- **Compile errors are exactly these, in this order.** Compiling a table fails with "table must
declare at least one state" exactly when it declares none; otherwise with "wildcard token must
not be empty" exactly when the wildcard token is empty; otherwise with the refusal of the first
refused key, in state order and then authored rule order, whether or not that key is the wildcard
token. It succeeds exactly when none of these happens, and it never fails with a JSON or YAML
error. -/
theorem compile_errors (t : Table) (o : CompileOptions) :
    (∀ err, t.compile o = .error err ↔
      (t.states = [] ∧ err = .invalidTable .noStates) ∨
      (t.states ≠ [] ∧ o.wildcard = "" ∧ err = .invalidTable .emptyWildcard) ∨
      (t.states ≠ [] ∧ o.wildcard ≠ "" ∧ ∃ pre k post e, t.keys = pre ++ k :: post ∧
        (∀ k' ∈ pre, ∀ e', ¬Matcher.Refuses k' e') ∧ Matcher.Refuses k e ∧
        err = .invalidPattern k e)) ∧
    ((∃ c, t.compile o = .ok c) ↔
      t.states ≠ [] ∧ o.wildcard ≠ "" ∧ ∀ k ∈ t.keys, ∀ e, ¬Matcher.Refuses k e) ∧
    (∀ e, t.compile o ≠ .error (.json e)) ∧ (∀ e, t.compile o ≠ .error (.yaml e)) ∧
    TableFault.noStates.reason = "table must declare at least one state" ∧
    TableFault.emptyWildcard.reason = "wildcard token must not be empty" := by
  -- a table fault or a refused pattern is never a reading error
  have hread : ∀ err, t.compile o = .error err → (∀ e, err ≠ .json e) ∧ ∀ e, err ≠ .yaml e := by
    intro err h
    rcases Table.compile_error_cases h with ⟨f, rfl⟩ | ⟨k, e, rfl⟩ <;> simp
  refine ⟨fun err => Table.compile_eq_error_iff, Table.exists_compile_eq_ok_iff,
    fun e h => (hread _ h).1 e rfl, fun e h => (hread _ h).2 e rfl, rfl, rfl⟩

end TableMachine
