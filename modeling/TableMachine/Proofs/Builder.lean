import TableMachine.Table.OfJson

/-!
# The builder's merge semantics and the table's representation invariant

`Table.build` feeds declarations `(s, pairs)` one after another to `Table.insertState`, which
merges at two levels: a state already declared keeps its position and takes the new pairs, and
within a state `Rule.upsert` keeps an already declared key where it stands and overwrites its
target. This file states what a whole sequence of declarations builds, without reference to the
order in which the merges happened:

> `build_merges_declarations`: the built table lists each declared state once, in order of first
> declaration; the rules of a state are the pairs of all its declarations, concatenated in call
> order, with each distinct key kept once, at its first position, with its last target.

The two-level statement is `Table.merged`, with `Rule.merged` for one state; both are written
with `List.eraseDups` (first occurrences, in order) and `List.lookup` on the reversed pairs (last
occurrence). The proof is a simulation: merging into the merge of a prefix gives the merge of the
longer prefix (`Rule.upsert_merged`, `Table.insertState_merged`), for which the uniqueness of
keys and names in a merged list is what lets a single in-place update stand for "the last
target wins".

The invariant that follows, `Table.WellFormed` (no state twice, no key twice within a state), is
the fact compilation relies on: it leaves a state at most one wildcard rule. Tables read from
JSON are built the same way (`Table.ofJson_eq_build`), so they are well formed too.
-/

namespace TableMachine

/-! ## First occurrences -/

/-- Erasing duplicates leaves no duplicates. -/
theorem nodup_eraseDups {α : Type} [BEq α] [LawfulBEq α] : ∀ (l : List α), l.eraseDups.Nodup
  | [] => List.nodup_nil
  | a :: as => by
    rw [List.eraseDups_cons, List.nodup_cons]
    have : (as.filter fun b => !b == a).length < as.length + 1 :=
      Nat.lt_add_one_of_le (List.length_filter_le _ as)
    refine ⟨?_, nodup_eraseDups _⟩
    simp
termination_by l => l.length

/-- An element appended at the end is new to the first occurrences only if it is new to the
list. -/
theorem eraseDups_concat {α : Type} [BEq α] [LawfulBEq α] (l : List α) (a : α) :
    (l ++ [a]).eraseDups = if a ∈ l then l.eraseDups else l.eraseDups ++ [a] := by
  rw [List.eraseDups_append]
  split
  · next h => simp [List.removeAll, h]
  · next h => simp [List.removeAll, h, List.eraseDups_cons]

theorem head?_eraseDups {α : Type} [BEq α] [LawfulBEq α] (l : List α) :
    l.eraseDups.head? = l.head? := by
  cases l with
  | nil => rfl
  | cons a as => simp [List.eraseDups_cons]

/-- Looking for a member of a list by equality finds it. -/
theorem find?_eq_self {α : Type} [DecidableEq α] {l : List α} {a : α} (h : a ∈ l) :
    l.find? (fun x => decide (x = a)) = some a := by
  have hsome : (l.find? (fun x => decide (x = a))).isSome :=
    List.find?_isSome.mpr ⟨a, h, decide_eq_true rfl⟩
  obtain ⟨r, hr⟩ := Option.isSome_iff_exists.mp hsome
  have hra : r = a := by simpa using List.find?_some hr
  rw [hr, hra]

/-! ## Keyed updates -/

/-- A keyed update, given by its equations: it rewrites the first element with key `k` and
appends `new` when there is none. On a list with distinct keys it rewrites in place, or
appends. -/
theorem keyedUpdate_eq {β : Type} (key : β → String) (k : String) (upd : β → β) (new : β)
    (f : List β → List β) (hnil : f [] = [new])
    (hcons : ∀ x xs, f (x :: xs) = if key x = k then upd x :: xs else x :: f xs) :
    ∀ (xs : List β), (xs.map key).Nodup →
      f xs = if k ∈ xs.map key then xs.map (fun x => if key x = k then upd x else x)
        else xs ++ [new]
  | [], _ => by simp [hnil]
  | x :: xs, hnd => by
    rw [List.map_cons, List.nodup_cons] at hnd
    rw [hcons]
    by_cases hx : key x = k
    · -- the key is found here, so the rest of the list does not hold it
      have hk : ∀ y ∈ xs, key y ≠ k :=
        fun y hy he => hnd.1 (hx ▸ he ▸ List.mem_map_of_mem hy)
      simp [hx, List.map_congr_left (fun y hy => if_neg (hk y hy))]
    · rw [if_neg hx, keyedUpdate_eq key k upd new f hnil hcons xs hnd.2]
      simp [hx, Ne.symm hx]
      split <;> simp

/-! ## Merging the pairs of one state -/

namespace Rule

/-- The target that the last pair with key `k` gives it. -/
def lastTarget (pairs : List (String × String)) (k : String) : String :=
  (pairs.reverse.lookup k).getD ""

/-- The rules that merging `pairs` should give: every distinct key once, in the order of its
first occurrence, with the target of its last occurrence. -/
def merged (pairs : List (String × String)) : List Rule :=
  (pairs.map Prod.fst).eraseDups.map fun k => ⟨k, lastTarget pairs k⟩

@[simp] theorem merged_nil : merged [] = [] := rfl

theorem lastTarget_concat (pairs : List (String × String)) (k t k' : String) :
    lastTarget (pairs ++ [(k, t)]) k' = if k' = k then t else lastTarget pairs k' := by
  by_cases h : k' = k
  · simp [lastTarget, h]
  · simp [lastTarget, List.lookup_cons, beq_eq_false_iff_ne.mpr h, h]

@[simp] theorem keys_merged (pairs : List (String × String)) :
    (merged pairs).map (·.key) = (pairs.map Prod.fst).eraseDups := by
  simp [merged, Function.comp_def]

/-- On rules with distinct keys, `upsert` overwrites the rule of a known key in place and
appends a new key. -/
theorem upsert_eq (k t : String) (rs : List Rule) (hnd : (rs.map (·.key)).Nodup) :
    upsert k t rs =
      if k ∈ rs.map (·.key) then rs.map (fun r => if r.key = k then ⟨k, t⟩ else r)
      else rs ++ [⟨k, t⟩] :=
  keyedUpdate_eq (·.key) k (fun _ => ⟨k, t⟩) ⟨k, t⟩ (upsert k t) rfl (fun _ _ => rfl) rs hnd

/-- One more pair merged into a merge is the merge of the longer list. -/
theorem upsert_merged (pairs : List (String × String)) (k t : String) :
    upsert k t (merged pairs) = merged (pairs ++ [(k, t)]) := by
  have hnd : ((merged pairs).map (·.key)).Nodup := by
    rw [keys_merged]
    exact nodup_eraseDups _
  rw [upsert_eq k t _ hnd]
  simp only [keys_merged, List.mem_eraseDups]
  by_cases hk : k ∈ pairs.map Prod.fst
  · -- a known key takes the new target where it stands
    rw [if_pos hk]
    simp only [merged, List.map_append, List.map_cons, List.map_nil, eraseDups_concat, if_pos hk,
      List.map_map]
    refine List.map_congr_left fun k' _ => ?_
    by_cases h : k' = k
    · simp [h, lastTarget_concat]
    · simp [h, lastTarget_concat]
  · -- a new key goes last
    rw [if_neg hk]
    simp only [merged, List.map_append, List.map_cons, List.map_nil, eraseDups_concat, if_neg hk]
    congr 1
    · refine List.map_congr_left fun k' hk' => ?_
      have : k' ≠ k := fun h => hk (h ▸ List.mem_eraseDups.mp hk')
      simp [lastTarget_concat, this]
    · simp [lastTarget_concat]

theorem upsertAll_merged (pairs : List (String × String)) :
    ∀ (more : List (String × String)), upsertAll (merged pairs) more = merged (pairs ++ more)
  | [] => by simp [upsertAll]
  | (k, t) :: more => by
    show upsertAll (upsert k t (merged pairs)) more = _
    rw [upsert_merged, upsertAll_merged, List.append_assoc, List.singleton_append]

end Rule

/-! ## Merging the declarations of a table -/

namespace Table

/-- The pairs that the declarations give state `s`, in call order. -/
def declaredPairs (decls : List (String × List (String × String))) (s : String) :
    List (String × String) :=
  (decls.filter (·.1 = s)).flatMap (·.2)

/-- The table that the declarations should build: each declared state once, in the order of its
first declaration, with the merge of all the pairs declared for it. -/
def merged (decls : List (String × List (String × String))) : Table :=
  ⟨(decls.map Prod.fst).eraseDups.map fun s => ⟨s, Rule.merged (declaredPairs decls s)⟩⟩

/-- The representation invariant of tables: no state is declared twice, and no key twice within
a state. -/
structure WellFormed (t : Table) : Prop where
  names_nodup : (t.states.map (·.name)).Nodup
  keys_nodup : ∀ e ∈ t.states, (e.rules.map (·.key)).Nodup

theorem declaredPairs_concat (decls : List (String × List (String × String))) (s s' : String)
    (pairs : List (String × String)) :
    declaredPairs (decls ++ [(s, pairs)]) s' =
      declaredPairs decls s' ++ if s = s' then pairs else [] := by
  by_cases h : s = s' <;> simp [declaredPairs, List.filter_append, h]

theorem declaredPairs_of_not_mem {decls : List (String × List (String × String))} {s : String}
    (h : s ∉ decls.map Prod.fst) : declaredPairs decls s = [] := by
  simp only [declaredPairs, List.flatMap_eq_nil_iff, List.mem_filter]
  intro d hd
  exact absurd (List.mem_map.mpr ⟨d, hd.1, of_decide_eq_true hd.2⟩) h

@[simp] theorem names_merged (decls : List (String × List (String × String))) :
    (merged decls).states.map (·.name) = (decls.map Prod.fst).eraseDups := by
  simp [merged, Function.comp_def]

/-- On states with distinct names, `insertStateIn` merges into the state of a known name in
place and appends a new name. -/
theorem insertStateIn_eq (name : String) (pairs : List (String × String))
    (es : List StateEntry) (hnd : (es.map (·.name)).Nodup) :
    insertStateIn name pairs es =
      if name ∈ es.map (·.name) then
        es.map fun e => if e.name = name then ⟨name, Rule.upsertAll e.rules pairs⟩ else e
      else es ++ [⟨name, Rule.upsertAll [] pairs⟩] :=
  keyedUpdate_eq (·.name) name (fun e => ⟨name, Rule.upsertAll e.rules pairs⟩)
    ⟨name, Rule.upsertAll [] pairs⟩ (insertStateIn name pairs) rfl (fun _ _ => rfl) es hnd

/-- One more declaration inserted into a merge is the merge of the longer list. -/
theorem insertState_merged (decls : List (String × List (String × String))) (s : String)
    (pairs : List (String × String)) :
    (merged decls).insertState s pairs = merged (decls ++ [(s, pairs)]) := by
  have hnd : ((merged decls).states.map (·.name)).Nodup := by
    rw [names_merged]
    exact nodup_eraseDups _
  simp only [insertState, insertStateIn_eq s pairs _ hnd, names_merged, List.mem_eraseDups]
  by_cases hs : s ∈ decls.map Prod.fst
  · -- a known state takes the new pairs where it stands
    rw [if_pos hs]
    simp only [merged, List.map_append, List.map_cons, List.map_nil, eraseDups_concat, if_pos hs,
      List.map_map]
    congr 1
    refine List.map_congr_left fun s' _ => ?_
    by_cases h : s' = s
    · subst h
      simp [declaredPairs_concat, Rule.upsertAll_merged]
    · simp [h, declaredPairs_concat, Ne.symm h]
  · -- a new state goes last, with the merge of its own pairs
    rw [if_neg hs]
    simp only [merged, List.map_append, List.map_cons, List.map_nil, eraseDups_concat, if_neg hs]
    congr 2
    · refine List.map_congr_left fun s' hs' => ?_
      have : s ≠ s' := fun h => hs (h ▸ List.mem_eraseDups.mp hs')
      simp [declaredPairs_concat, this]
    · simp [declaredPairs_concat, declaredPairs_of_not_mem hs, ← Rule.merged_nil,
        Rule.upsertAll_merged]

theorem foldl_insertState_merged (decls : List (String × List (String × String))) :
    ∀ (more : List (String × List (String × String))),
      more.foldl (fun t (name, pairs) => t.insertState name pairs) (merged decls) =
        merged (decls ++ more)
  | [] => by simp
  | (s, pairs) :: more => by
    show more.foldl _ ((merged decls).insertState s pairs) = _
    rw [insertState_merged, foldl_insertState_merged, List.append_assoc, List.singleton_append]

/-- The builder computes the merge. -/
theorem build_eq_merged (decls : List (String × List (String × String))) :
    build decls = merged decls := by
  have h := foldl_insertState_merged [] decls
  rwa [List.nil_append] at h

theorem merged_wellFormed (decls : List (String × List (String × String))) :
    (merged decls).WellFormed := by
  refine ⟨by rw [names_merged]; exact nodup_eraseDups _, ?_⟩
  intro e he
  obtain ⟨s, -, rfl⟩ := List.mem_map.mp he
  rw [Rule.keys_merged]
  exact nodup_eraseDups _

theorem build_wellFormed (decls : List (String × List (String × String))) :
    (build decls).WellFormed := by
  rw [build_eq_merged]
  exact merged_wellFormed decls

theorem rules?_merged (decls : List (String × List (String × String))) (s : String) :
    (merged decls).rules? s =
      if s ∈ decls.map Prod.fst then some (Rule.merged (declaredPairs decls s)) else none := by
  simp only [rules?, merged, List.find?_map, Function.comp_def]
  split
  · next hs =>
    have : (decls.map Prod.fst).eraseDups.find? (· = s) = some s :=
      find?_eq_self (List.mem_eraseDups.mpr hs)
    simp [this]
  · next hs =>
    have : (decls.map Prod.fst).eraseDups.find? (· = s) = none := by
      refine List.find?_eq_none.mpr fun n hn hns => hs ?_
      rw [← of_decide_eq_true hns]
      exact List.mem_eraseDups.mp hn
    simp [this]

theorem firstState_merged (decls : List (String × List (String × String))) :
    (merged decls).firstState = decls.head?.map Prod.fst := by
  simp [firstState, merged, head?_eraseDups, Function.comp_def]

/-- **Builder merge semantics.** Declaring states one after another from the empty table lists
each declared state once, in order of first declaration, with the merge of all the pairs
declared for it (each key once, at its first position, with its last target); no state and no
key within a state appears twice; a state's lookup gives its merged rules, and the first state
is the first one declared. -/
theorem build_merges_declarations (decls : List (String × List (String × String))) :
    build decls = merged decls ∧ (build decls).WellFormed ∧
      (∀ s, (build decls).rules? s =
        if s ∈ decls.map Prod.fst then some (Rule.merged (declaredPairs decls s)) else none) ∧
      (build decls).firstState = decls.head?.map Prod.fst := by
  rw [build_eq_merged]
  exact ⟨rfl, merged_wellFormed decls, rules?_merged decls, firstState_merged decls⟩

/-! ## Tables read from JSON -/

/-- Reading the states of an object declares them one after another. -/
theorem ofFields_eq_foldl : ∀ (t : Table) (fs : List (String × Json)) {t' : Table},
    ofFields t fs = .ok t' →
      ∃ decls : List (String × List (String × String)),
        t' = decls.foldl (fun t (name, pairs) => t.insertState name pairs) t
  | t, [], t', h => ⟨[], by cases h; rfl⟩
  | t, (state, body) :: rest, t', h => by
    cases hb : bodyPairs state body with
    | error e => simp [ofFields, hb, bind, Except.bind] at h
    | ok pairs =>
      have h' : ofFields (t.insertState state pairs) rest = .ok t' := by
        simpa [ofFields, hb, bind, Except.bind] using h
      obtain ⟨decls, rfl⟩ := ofFields_eq_foldl _ rest h'
      exact ⟨(state, pairs) :: decls, rfl⟩

/-- A table read from JSON is one the builder makes. -/
theorem ofJson_eq_build {j : Json} {t : Table} (h : ofJson j = .ok t) :
    ∃ decls, t = build decls := by
  match j, h with
  | .obj ((state, body) :: rest), h => exact ofFields_eq_foldl empty _ h

theorem ofJson_wellFormed {j : Json} {t : Table} (h : ofJson j = .ok t) : t.WellFormed := by
  obtain ⟨decls, rfl⟩ := ofJson_eq_build h
  exact build_wellFormed decls

end Table

end TableMachine
