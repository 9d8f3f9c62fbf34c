import TableMachine.Machine

/-!
# Listener registries refine a ledger of live registrations

A registry is driven by three operations (`Listeners.Op`): registering a handler for a name,
registering a catch-all handler, and removing a handler by its identifier. What they should do
is said by a `Ledger`, which keeps nothing but the history: every registration ever made, in
order, and the identifiers removed since. In the ledger,

> the `k`-th registration (from `0`, named or catch-all) is answered with identifier `k`;
> removing identifier `k` succeeds exactly when `k` was issued and has not been removed yet,
> and then takes exactly that registration out; otherwise it changes nothing;

and the live registrations (`Ledger.live`) are the registrations not removed, in registration
order; those of one name, or the catch-all ones, are `Ledger.registered`.

The registry keeps them apart: one vector per name in a hash map, and a catch-all vector.
`Listeners.Tracks l L` relates a registry to a ledger: each name's vector, and the catch-all
vector, hold the ledger's live registrations of that name, in order; every name with a live
registration has its vector in the map; and the next identifier is the number of registrations
made. Every operation preserves the relation and gives the ledger's answer
(`Listeners.perform_tracks`); the relation starts out true, so it holds after any sequence of
operations (`Listeners.performAll_tracks`).

Removal is where the representation matters. It searches the catch-all vector first, then the
vectors of the map in whatever order the map iterates, and takes out the first registration
with the identifier. Live identifiers are distinct (`Ledger.nodup_live_ids`), so a vector holds
an identifier at most once and only the vector of its own name can hold it: the search finds
the one registration the ledger removes, whatever the iteration order (`Listeners.off_tracks`).
The ledger keeps an invariant of its own on the way: every removed identifier was issued
(`Ledger.Valid`), so a fresh identifier is never one removed before. Counting handlers sums the
vectors of the map, whose keys are distinct (`Listeners.size_of_tracks`), and choosing the
handlers of a notification reads two vectors (`Listeners.handlersFor_of_tracks`).

A machine's registry moves only through the machine's own registry operations; inputs leave it
alone (`Machine.performAll_listeners`), so a machine's registry tracks the ledger of those
operations (`Machine.performAll_tracks`). The main statement,
`registry_refines_live_registrations`, puts both together.
-/

namespace TableMachine

variable {α : Type}

/-! ## Operations -/

namespace Listeners

/-- An operation on a registry. -/
inductive Op (α : Type) where
  | on (name : String) (h : α)
  | onAny (h : α)
  | off (id : ListenerId)

/-- The answer of an operation: the identifier a registration was given, or whether a removal
found its handler. -/
inductive Answer where
  | issued (id : ListenerId)
  | removed (found : Bool)
  deriving DecidableEq, Repr

/-- Performs one operation on a registry. -/
def perform (l : Listeners α) : Op α → Listeners α × Answer
  | .on name h => let (l, id) := l.on name h; (l, .issued id)
  | .onAny h => let (l, id) := l.onAny h; (l, .issued id)
  | .off id => let (l, found) := l.off id; (l, .removed found)

/-- Performs operations in order, collecting the answers. -/
def performAll (l : Listeners α) : List (Op α) → Listeners α × List Answer
  | [] => (l, [])
  | op :: ops =>
    let (l, a) := l.perform op
    let (l, as) := l.performAll ops
    (l, a :: as)

end Listeners

/-! ## The ledger -/

/-- One registration as the ledger lists it: its identifier, the name it listens to (`none` for
every notification), and its handler. -/
structure Registration (α : Type) where
  id : ListenerId
  topic : Option String
  handler : α

/-- The history of a registry: every registration made, in order, as its name (`none` for a
catch-all) and handler, and the identifiers removed since. -/
structure Ledger (α : Type) where
  made : List (Option String × α) := []
  removed : List Nat := []

namespace Ledger

/-- What each operation does to the history, and what it answers. -/
def perform (L : Ledger α) : Listeners.Op α → Ledger α × Listeners.Answer
  | .on name h => ({ L with made := L.made ++ [(some name, h)] }, .issued ⟨L.made.length⟩)
  | .onAny h => ({ L with made := L.made ++ [(none, h)] }, .issued ⟨L.made.length⟩)
  | .off ⟨k⟩ =>
    if k < L.made.length ∧ k ∉ L.removed then ({ L with removed := k :: L.removed }, .removed true)
    else (L, .removed false)

/-- Performs operations in order, collecting the answers. -/
def performAll (L : Ledger α) : List (Listeners.Op α) → Ledger α × List Listeners.Answer
  | [] => (L, [])
  | op :: ops =>
    let (L, a) := L.perform op
    let (L, as) := L.performAll ops
    (L, a :: as)

/-- The live registrations, in registration order: the `k`-th registration, with identifier
`k`, unless `k` was removed. -/
def live (L : Ledger α) : List (Registration α) :=
  L.made.zipIdx.filterMap fun ((topic, h), k) =>
    if k ∈ L.removed then none else some ⟨⟨k⟩, topic, h⟩

/-- The live handlers registered for a name (`none`: the catch-all ones), in registration
order. -/
def handlers (L : Ledger α) (topic : Option String) : List α :=
  (L.live.filter (·.topic = topic)).map (·.handler)

/-- Every removed identifier was issued. -/
def Valid (L : Ledger α) : Prop := ∀ k ∈ L.removed, k < L.made.length

/-- A fresh registration joins the live ones at the end. -/
theorem live_concat (L : Ledger α) (x : Option String × α) (hx : L.made.length ∉ L.removed) :
    ({ L with made := L.made ++ [x] } : Ledger α).live =
      L.live ++ [⟨⟨L.made.length⟩, x.1, x.2⟩] := by
  simp [live, List.zipIdx_append, hx]

/-- An identifier is live exactly when it was issued and not removed. -/
theorem any_live_id (L : Ledger α) (k : Nat) :
    L.live.any (·.id = ⟨k⟩) = decide (k < L.made.length ∧ k ∉ L.removed) := by
  rw [Bool.eq_iff_iff, List.any_eq_true, decide_eq_true_iff]
  constructor
  · rintro ⟨r, hr, hid⟩
    simp only [live, List.mem_filterMap] at hr
    obtain ⟨⟨⟨t, h⟩, i⟩, hi, hr⟩ := hr
    by_cases hrem : i ∈ L.removed
    · simp [hrem] at hr
    · simp only [hrem, if_false, Option.some.injEq] at hr
      subst hr
      have hik : i = k := by simpa using hid
      subst hik
      have hget : L.made[i]? = some (t, h) := List.mem_zipIdx_iff_getElem?.mp hi
      exact ⟨(List.getElem?_eq_some_iff.mp hget).1, hrem⟩
  · rintro ⟨hk, hrem⟩
    refine ⟨⟨⟨k⟩, L.made[k].1, L.made[k].2⟩, ?_, by simp⟩
    simp only [live, List.mem_filterMap]
    refine ⟨(L.made[k], k), List.mem_zipIdx_iff_getElem?.mpr (List.getElem?_eq_getElem hk), ?_⟩
    simp [hrem]

/-- Removing an identifier takes exactly its registration out of the live ones. -/
theorem live_remove (L : Ledger α) (k : Nat) :
    ({ L with removed := k :: L.removed } : Ledger α).live = L.live.filter (·.id ≠ ⟨k⟩) := by
  simp only [live, List.filter_filterMap]
  congr 1
  funext ⟨⟨t, h⟩, i⟩
  by_cases hik : i = k
  · subst hik
    by_cases hrem : i ∈ L.removed <;> simp [hrem, Option.filter]
  · by_cases hrem : i ∈ L.removed <;> simp [hrem, hik, Option.filter]

theorem valid_empty : ({} : Ledger α).Valid := fun _ h => nomatch h

theorem perform_valid {L : Ledger α} (hv : L.Valid) (op : Listeners.Op α) :
    (L.perform op).1.Valid := by
  cases op with
  | on name h =>
    show ∀ k ∈ L.removed, k < (L.made ++ [(some name, h)]).length
    simpa using fun k hk => Nat.lt_succ_of_lt (hv k hk)
  | onAny h =>
    show ∀ k ∈ L.removed, k < (L.made ++ [(none, h)]).length
    simpa using fun k hk => Nat.lt_succ_of_lt (hv k hk)
  | off id =>
    obtain ⟨k⟩ := id
    simp only [perform]
    split
    · next hk =>
      intro k' hk'
      rcases List.mem_cons.mp hk' with rfl | hk'
      · exact hk.1
      · exact hv k' hk'
    · exact hv

/-- The live registrations of a name (`none`: the catch-all ones) as a registry keeps them,
identifier and handler, in registration order. -/
def registered (L : Ledger α) (topic : Option String) : List (ListenerId × α) :=
  (L.live.filter (·.topic = topic)).map fun r => (r.id, r.handler)

/-- Live identifiers are distinct: the `k`-th registration has identifier `k`. -/
theorem live_ids_pairwise (L : Ledger α) : L.live.Pairwise (fun a b => a.id ≠ b.id) := by
  -- the identifiers are the indices of the registrations made, less those removed
  have hvals : L.live.map (·.id.val) = (L.made.zipIdx.map Prod.snd).filter (· ∉ L.removed) := by
    simp only [live, List.map_filterMap, List.filter_map]
    generalize L.made.zipIdx = xs
    induction xs with
    | nil => rfl
    | cons x xs ih => by_cases hx : x.2 ∈ L.removed <;> simp [hx, ih]
  have hnd : (L.live.map (·.id.val)).Nodup := by
    rw [hvals, List.zipIdx_map_snd]
    exact (List.nodup_range' 1).sublist List.filter_sublist
  exact (List.pairwise_map.mp hnd).imp fun h heq => h (congrArg ListenerId.val heq)

theorem nodup_live_ids (L : Ledger α) : (L.live.map (·.id)).Nodup :=
  List.pairwise_map.mpr L.live_ids_pairwise

/-- Of a list whose elements differ under `f`, two with the same image are one. -/
theorem eq_of_pairwise_ne {β γ : Type} {f : β → γ} :
    ∀ {xs : List β}, xs.Pairwise (fun a b => f a ≠ f b) →
      ∀ {a b}, a ∈ xs → b ∈ xs → f a = f b → a = b
  | [], _, _, _, ha, _, _ => nomatch ha
  | x :: xs, hp, a, b, ha, hb, hab => by
    rw [List.pairwise_cons] at hp
    rcases List.mem_cons.mp ha with rfl | ha'
    · rcases List.mem_cons.mp hb with rfl | hb'
      · rfl
      · exact absurd hab (hp.1 b hb')
    · rcases List.mem_cons.mp hb with rfl | hb'
      · exact absurd hab.symm (hp.1 a ha')
      · exact eq_of_pairwise_ne hp.2 ha' hb' hab

theorem mem_registered_ids {L : Ledger α} {topic : Option String} {id : ListenerId} :
    id ∈ (L.registered topic).map (·.1) ↔ ∃ r ∈ L.live, r.id = id ∧ r.topic = topic := by
  simp only [registered, List.map_map, List.mem_map, List.mem_filter, decide_eq_true_eq,
    Function.comp_def]
  exact ⟨fun ⟨r, ⟨hr, ht⟩, hid⟩ => ⟨r, hr, hid, ht⟩, fun ⟨r, hr, hid, ht⟩ => ⟨r, ⟨hr, ht⟩, hid⟩⟩

theorem nodup_registered_ids (L : Ledger α) (topic : Option String) :
    ((L.registered topic).map (·.1)).Nodup := by
  have hids : (L.registered topic).map (·.1) = (L.live.filter (·.topic = topic)).map (·.id) := by
    simp [registered, Function.comp_def]
  rw [hids]
  exact L.nodup_live_ids.sublist (List.filter_sublist.map _)

/-- A fresh registration joins the live ones of its name at the end. -/
theorem registered_concat (L : Ledger α) (x : Option String × α) (hx : L.made.length ∉ L.removed)
    (topic : Option String) :
    ({ L with made := L.made ++ [x] } : Ledger α).registered topic =
      L.registered topic ++ if x.1 = topic then [(⟨L.made.length⟩, x.2)] else [] := by
  rw [registered, live_concat L x hx, List.filter_append, List.map_append]
  by_cases ht : x.1 = topic <;> simp [registered, ht]

/-- Removing an identifier takes it out of the live registrations of every name. -/
theorem registered_remove (L : Ledger α) (k : Nat) (topic : Option String) :
    ({ L with removed := k :: L.removed } : Ledger α).registered topic =
      (L.registered topic).filter (·.1 ≠ ⟨k⟩) := by
  simp only [registered, live_remove, List.filter_filter, List.filter_map, Function.comp_def]
  congr 1
  exact List.filter_congr fun r _ => Bool.and_comm _ _

/-- No live registration of another name has the identifier of a live registration. -/
theorem not_live_of_topic_ne {L : Ledger α} {r : Registration α} (hr : r ∈ L.live)
    {id : ListenerId} (hid : r.id = id) {topic : Option String} (hne : r.topic ≠ topic) :
    ¬∃ r' ∈ L.live, r'.id = id ∧ r'.topic = topic := by
  rintro ⟨r', hr', hid', ht'⟩
  exact hne (eq_of_pairwise_ne L.live_ids_pairwise hr' hr (hid'.trans hid.symm) ▸ ht')

/-- Taking the identifier of a live registration out of the live registrations of another name
changes nothing. -/
theorem filter_registered_of_topic_ne {L : Ledger α} {r : Registration α} (hr : r ∈ L.live)
    {id : ListenerId} (hid : r.id = id) {topic : Option String} (hne : r.topic ≠ topic) :
    (L.registered topic).filter (·.1 ≠ id) = L.registered topic :=
  List.filter_eq_self.mpr fun e he => by
    simp only [ne_eq, decide_eq_true_eq]
    intro hek
    exact not_live_of_topic_ne hr hid hne (mem_registered_ids.mp (List.mem_map.mpr ⟨e, he, hek⟩))

end Ledger

/-! ## The simulation -/

namespace Listeners

/-- A registry tracks a ledger: each name's vector, and the catch-all vector, hold the ledger's
live registrations of that name, in order; every name with a live registration has its vector in
the map; and the next identifier is the number of registrations made. -/
structure Tracks (l : Listeners α) (L : Ledger α) : Prop where
  named_eq : ∀ name, l.named.getD name [] = L.registered (some name)
  any_eq : l.any = L.registered none
  mem_named : ∀ r ∈ L.live, ∀ name, r.topic = some name → name ∈ l.named
  nextId_eq : l.nextId = L.made.length

theorem tracks_empty : Tracks ({} : Listeners α) ({} : Ledger α) where
  named_eq _ := by simp [Std.HashMap.getD_empty, Ledger.registered, Ledger.live]
  any_eq := rfl
  mem_named _ h := nomatch h
  nextId_eq := rfl

/-- In a vector that holds each identifier at most once, removing the first registration of an
identifier removes its only one. -/
theorem removeFirst_of_nodup {id : ListenerId} :
    ∀ {v : List (ListenerId × α)}, (v.map (·.1)).Nodup →
      removeFirst v id = if id ∈ v.map (·.1) then some (v.filter (·.1 ≠ id)) else none
  | [], _ => rfl
  | x :: v, hnd => by
    rw [List.map_cons, List.nodup_cons] at hnd
    have ih := @removeFirst_of_nodup id v hnd.2
    by_cases hx : x.1 = id
    · -- the first registration is the one; none after it has the identifier
      have hrest : v = v.filter (fun y => !decide (y.1 = id)) := (List.filter_eq_self.mpr
        fun y hy => by simpa [← hx] using fun hy' => hnd.1 (List.mem_map.mpr ⟨y, hy, hy'⟩)).symm
      simpa [removeFirst, List.findIdx?_cons, hx] using hrest
    · unfold removeFirst at ih ⊢
      rw [List.findIdx?_cons, if_neg (by simpa using hx)]
      by_cases hv : id ∈ v.map (·.1)
      · rw [if_pos hv] at ih
        obtain ⟨i, hi, hrem⟩ := Option.map_eq_some_iff.mp ih
        simp [hi, hrem, hx, hv]
      · rw [if_neg hv] at ih
        simp [Option.map_eq_none_iff.mp ih, hv, Ne.symm hx]

/-- A search that finds something at exactly one place finds it there. -/
theorem findSome?_of_unique {β γ : Type} {f : β → Option γ} {c : γ} {a : β} :
    ∀ {xs : List β}, a ∈ xs → f a = some c → (∀ x ∈ xs, f x = none ∨ f x = some c) →
      xs.findSome? f = some c
  | [], ha, _, _ => nomatch ha
  | x :: xs, ha, hfa, hall => by
    rw [List.findSome?_cons]
    rcases hall x List.mem_cons_self with hx | hx
    · rw [hx]
      -- `a` is not `x`, which finds nothing
      have ha' : a ∈ xs := by
        rcases List.mem_cons.mp ha with rfl | ha'
        · rw [hfa] at hx
          cases hx
        · exact ha'
      exact findSome?_of_unique ha' hfa fun y hy => hall y (List.mem_cons_of_mem x hy)
    · rw [hx]

variable {l : Listeners α} {L : Ledger α}

/-- What removing the first registration of `id` from a name's vector does, read on the
ledger. -/
theorem removeFirst_registered (L : Ledger α) (id : ListenerId) (topic : Option String) :
    removeFirst (L.registered topic) id =
      if ∃ r ∈ L.live, r.id = id ∧ r.topic = topic then
        some ((L.registered topic).filter (·.1 ≠ id))
      else none := by
  rw [removeFirst_of_nodup (L.nodup_registered_ids topic)]
  simp only [Ledger.mem_registered_ids]

theorem on_tracks (ht : Tracks l L) (hv : L.Valid) (name : String) (h : α) :
    Tracks (l.on name h).1 { L with made := L.made ++ [(some name, h)] } ∧
      (l.on name h).2 = ⟨L.made.length⟩ := by
  -- the identifier about to be issued was never issued, so never removed
  have hfresh : L.made.length ∉ L.removed := fun hk => Nat.lt_irrefl _ (hv _ hk)
  refine ⟨⟨fun name' => ?_, ?_, fun r hr name' htopic => ?_, ?_⟩, by simp [on, ht.nextId_eq]⟩
  · rw [Ledger.registered_concat L _ hfresh, on, Std.HashMap.getD_alter]
    by_cases hn : name = name'
    · subst hn
      simp [← Std.HashMap.getD_eq_getD_getElem?, ht.named_eq, ht.nextId_eq]
    · simp [hn, ht.named_eq]
  · simp [on, Ledger.registered_concat L _ hfresh, ht.any_eq]
  · simp only [on, Std.HashMap.mem_alter, beq_iff_eq]
    split
    · rfl
    · next hn =>
      -- an old registration, since the new one listens to `name`
      rw [Ledger.live_concat L _ hfresh, List.mem_append, List.mem_singleton] at hr
      rcases hr with hr | rfl
      · exact ht.mem_named r hr name' htopic
      · exact absurd (Option.some.inj htopic) hn
  · simp [on, ht.nextId_eq]

theorem onAny_tracks (ht : Tracks l L) (hv : L.Valid) (h : α) :
    Tracks (l.onAny h).1 { L with made := L.made ++ [(none, h)] } ∧
      (l.onAny h).2 = ⟨L.made.length⟩ := by
  have hfresh : L.made.length ∉ L.removed := fun hk => Nat.lt_irrefl _ (hv _ hk)
  refine ⟨⟨fun name => ?_, ?_, fun r hr name htopic => ?_, ?_⟩, by simp [onAny, ht.nextId_eq]⟩
  · simp [onAny, Ledger.registered_concat L _ hfresh, ht.named_eq]
  · simp [onAny, Ledger.registered_concat L _ hfresh, ht.any_eq, ht.nextId_eq]
  · rw [Ledger.live_concat L _ hfresh, List.mem_append, List.mem_singleton] at hr
    rcases hr with hr | rfl
    · exact ht.mem_named r hr name htopic
    · cases htopic
  · simp [onAny, ht.nextId_eq]

/-- Removing an identifier from a registry whose registrations all stay keeps the relation with
a ledger that removes it too, when no live registration of the ledger has it elsewhere. -/
theorem tracks_remove_of_registered (ht : Tracks l L) {k : Nat} {l' : Listeners α}
    (hnamed : ∀ name, l'.named.getD name [] =
      (L.registered (some name)).filter (·.1 ≠ ⟨k⟩))
    (hany : l'.any = (L.registered none).filter (·.1 ≠ ⟨k⟩))
    (hmem : ∀ name, name ∈ l.named → name ∈ l'.named) (hnext : l'.nextId = l.nextId) :
    Tracks l' { L with removed := k :: L.removed } where
  named_eq name := by rw [hnamed, Ledger.registered_remove]
  any_eq := by rw [hany, Ledger.registered_remove]
  mem_named r hr name htopic := by
    rw [Ledger.live_remove, List.mem_filter] at hr
    exact hmem name (ht.mem_named r hr.1 name htopic)
  nextId_eq := hnext.trans ht.nextId_eq

/-- A vector of the map is the ledger's live registrations of its name. -/
theorem Tracks.snd_eq_of_mem (ht : Tracks l L) {e : String × List (ListenerId × α)}
    (he : e ∈ l.named.toList) : e.2 = L.registered (some e.1) := by
  rw [← ht.named_eq, Std.HashMap.getD_eq_getD_getElem?,
    Std.HashMap.mem_toList_iff_getElem?_eq_some.mp he]
  rfl

/-- Removal looks into a vector of the map as into the ledger's live registrations of its
name. -/
theorem removeFirstIn_of_tracks (ht : Tracks l L) (id : ListenerId)
    {e : String × List (ListenerId × α)} (he : e ∈ l.named.toList) :
    removeFirstIn id e =
      if ∃ r ∈ L.live, r.id = id ∧ r.topic = some e.1 then
        some (e.1, (L.registered (some e.1)).filter (·.1 ≠ id))
      else none := by
  rw [removeFirstIn, ht.snd_eq_of_mem he, removeFirst_registered L]
  split <;> rfl

/-- Searching the map's vectors finds the identifier of a live named registration in the vector
of its name, whatever order the map iterates in. -/
theorem findSome?_removeFirstIn_of_live (ht : Tracks l L) {r : Registration α} (hr : r ∈ L.live)
    {id : ListenerId} (hid : r.id = id) {n : String} (htop : r.topic = some n) :
    l.named.toList.findSome? (removeFirstIn id) =
      some (n, (L.registered (some n)).filter (·.1 ≠ id)) := by
  have hn : (n, L.registered (some n)) ∈ l.named.toList := by
    rw [Std.HashMap.mem_toList_iff_getElem?_eq_some, ← ht.named_eq]
    exact Std.HashMap.getElem?_eq_some_getD_of_contains
      (Std.HashMap.mem_iff_contains.mp (ht.mem_named r hr n htop))
  refine findSome?_of_unique hn ?_ fun e he => ?_
  · rw [removeFirstIn_of_tracks ht _ hn, if_pos ⟨r, hr, hid, htop⟩]
  · rw [removeFirstIn_of_tracks ht _ he]
    -- only the vector of `n` holds the identifier
    by_cases hname : e.1 = n
    · exact .inr (by rw [if_pos ⟨r, hr, hid, hname ▸ htop⟩, hname])
    · exact .inl (if_neg (Ledger.not_live_of_topic_ne hr hid (by simpa [htop] using Ne.symm hname)))

/-- Removal finds the one registration the ledger removes, in the catch-all vector or in the
vector of its name, whatever order the map iterates in; an identifier that is not live is found
nowhere. -/
theorem off_tracks (ht : Tracks l L) (k : Nat) :
    Tracks (l.perform (.off ⟨k⟩)).1 (L.perform (.off ⟨k⟩)).1 ∧
      (l.perform (.off ⟨k⟩)).2 = (L.perform (.off ⟨k⟩)).2 := by
  have hlive := Ledger.any_live_id L k
  simp only [perform, Ledger.perform]
  by_cases hk : k < L.made.length ∧ k ∉ L.removed
  · rw [if_pos hk]
    obtain ⟨r, hr, hid⟩ := List.any_eq_true.mp (hlive.trans (decide_eq_true hk))
    have hrid : r.id = ⟨k⟩ := of_decide_eq_true hid
    cases htop : r.topic with
    | none =>
      -- a catch-all handler: found in the catch-all vector
      have hfound : removeFirst l.any ⟨k⟩ = some ((L.registered none).filter (·.1 ≠ ⟨k⟩)) := by
        rw [ht.any_eq, removeFirst_registered L, if_pos ⟨r, hr, hrid, htop⟩]
      simp only [off, hfound]
      refine ⟨tracks_remove_of_registered ht (fun name => ?_) rfl (fun _ h => h) rfl, trivial⟩
      rw [ht.named_eq, Ledger.filter_registered_of_topic_ne hr hrid (by simp [htop])]
    | some n =>
      -- a named handler: not a catch-all one, and found in the vector of its name
      have hnone : removeFirst l.any ⟨k⟩ = none := by
        rw [ht.any_eq, removeFirst_registered L,
          if_neg (Ledger.not_live_of_topic_ne hr hrid (by simp [htop]))]
      simp only [off, hnone, findSome?_removeFirstIn_of_live ht hr hrid htop]
      refine ⟨tracks_remove_of_registered ht (fun name => ?_) ?_ (fun name h => ?_) rfl, trivial⟩
      · rw [Std.HashMap.getD_insert]
        by_cases hname : n = name
        · simp [hname]
        · rw [if_neg (by simpa using hname), ht.named_eq,
            Ledger.filter_registered_of_topic_ne hr hrid (by simpa [htop] using hname)]
      · rw [ht.any_eq, Ledger.filter_registered_of_topic_ne hr hrid (by simp [htop])]
      · exact Std.HashMap.mem_insert.mpr (.inr h)
  · rw [if_neg hk]
    -- no live registration has the identifier: nothing is found
    have hnot : ∀ topic, ¬∃ r ∈ L.live, r.id = ⟨k⟩ ∧ r.topic = topic := by
      rintro topic ⟨r, hr, hid, -⟩
      exact hk (of_decide_eq_true (hlive.symm.trans (List.any_eq_true.mpr ⟨r, hr, by simp [hid]⟩)))
    have hnone : removeFirst l.any ⟨k⟩ = none := by
      rw [ht.any_eq, removeFirst_registered L, if_neg (hnot none)]
    have hsearch : l.named.toList.findSome? (removeFirstIn ⟨k⟩) = none :=
      List.findSome?_eq_none_iff.mpr fun e he => by
        rw [removeFirstIn_of_tracks ht _ he, if_neg (hnot _)]
    simp only [off, hnone, hsearch]
    exact ⟨ht, trivial⟩

/-- One operation keeps a registry in step with its ledger and answers as the ledger does. -/
theorem perform_tracks (ht : Tracks l L) (hv : L.Valid) (op : Op α) :
    Tracks (l.perform op).1 (L.perform op).1 ∧ (l.perform op).2 = (L.perform op).2 := by
  cases op with
  | on name h =>
    obtain ⟨ht', hid⟩ := on_tracks ht hv name h
    exact ⟨ht', by simp [perform, Ledger.perform, hid]⟩
  | onAny h =>
    obtain ⟨ht', hid⟩ := onAny_tracks ht hv h
    exact ⟨ht', by simp [perform, Ledger.perform, hid]⟩
  | off id => exact off_tracks ht id.val

/-- Any sequence of operations keeps a registry in step with its ledger, with the same
answers. -/
theorem performAll_tracks :
    ∀ (ops : List (Op α)) {l : Listeners α} {L : Ledger α}, Tracks l L → L.Valid →
      Tracks (l.performAll ops).1 (L.performAll ops).1 ∧
        (l.performAll ops).2 = (L.performAll ops).2
  | [], _, _, ht, _ => ⟨ht, rfl⟩
  | op :: ops, l, L, ht, hv => by
    obtain ⟨ht₁, ha⟩ := perform_tracks ht hv op
    obtain ⟨ht₂, has⟩ := performAll_tracks ops ht₁ (Ledger.perform_valid hv op)
    exact ⟨ht₂, by simp [performAll, Ledger.performAll, ha, has]⟩

theorem count_of_tracks (ht : Tracks l L) (name : String) :
    l.count name = (L.handlers (some name)).length := by
  simp [count, ht.named_eq, Ledger.handlers, Ledger.registered]

/-- Filtering by either of two tests that never hold together keeps as many elements as the two
filters do. -/
theorem length_filter_or {β : Type} {p q : β → Bool} (h : ∀ x, p x = true → q x = false) :
    ∀ xs : List β, (xs.filter fun x => p x || q x).length = (xs.filter p).length + (xs.filter q).length
  | [] => rfl
  | x :: xs => by
    have ih := length_filter_or h xs
    cases hp : p x <;> cases hq : q x <;> simp [hp, hq, ih]
    · omega
    · omega
    · exact absurd (h x hp) (by simp [hq])

/-- Counting over vectors of distinct names, each the live registrations of its name, counts the
live registrations of those names. -/
theorem foldl_length_registered (L : Ledger α) :
    ∀ (es : List (String × List (ListenerId × α))) (n₀ : Nat),
      es.Pairwise (fun a b => a.1 ≠ b.1) → (∀ e ∈ es, e.2 = L.registered (some e.1)) →
      es.foldl (fun n e => n + e.2.length) n₀ =
        n₀ + (L.live.filter fun r => r.topic ∈ es.map (some ·.1)).length
  | [], n₀, _, _ => by simp
  | e :: es, n₀, hnd, hes => by
    rw [List.pairwise_cons] at hnd
    rw [List.foldl_cons, foldl_length_registered L es _ hnd.2 fun e' he' =>
      hes e' (List.mem_cons_of_mem e he'), hes e List.mem_cons_self]
    -- the live registrations of `e`'s name and those of the other names are apart
    have hapart : ∀ r : Registration α, decide (r.topic = some e.1) = true →
        decide (r.topic ∈ es.map (some ·.1)) = false := by
      intro r hr
      rw [of_decide_eq_true hr, decide_eq_false_iff_not, List.mem_map]
      rintro ⟨e', he', heq⟩
      exact hnd.1 e' he' (Option.some.inj heq).symm
    have hsplit : (L.live.filter fun r => r.topic ∈ (e :: es).map (some ·.1)) =
        L.live.filter fun r => decide (r.topic = some e.1) || decide (r.topic ∈ es.map (some ·.1)) :=
      List.filter_congr fun r _ => by by_cases h : r.topic = some e.1 <;> simp [h]
    rw [hsplit, length_filter_or hapart, Ledger.registered, List.length_map]
    omega

theorem size_of_tracks (ht : Tracks l L) : l.size = L.live.length := by
  have hdistinct : l.named.toList.Pairwise (fun a b => a.1 ≠ b.1) :=
    Std.HashMap.distinct_keys_toList.imp fun h => by simpa using h
  -- every live registration of a name has its vector among the map's entries
  have hcover : (L.live.filter fun r => r.topic ∈ l.named.toList.map (some ·.1)) =
      L.live.filter (·.topic.isSome) := by
    refine List.filter_congr fun r hr => ?_
    cases htop : r.topic with
    | none => simp
    | some n =>
      have hn := Std.HashMap.mem_iff_contains.mp (ht.mem_named r hr n htop)
      simpa using ⟨l.named.getD n [], Std.HashMap.getElem?_eq_some_getD_of_contains hn⟩
  -- the named live registrations and the catch-all ones are all of them
  have hall : (L.live.filter (·.topic.isSome)).length + (L.live.filter (·.topic = none)).length =
      L.live.length := by
    rw [← length_filter_or (fun r h => by simpa [Option.isSome_iff_ne_none] using h)]
    congr 1
    exact List.filter_eq_self.mpr fun r _ => by cases r.topic <;> simp
  rw [size, Std.HashMap.fold_eq_foldl_toList,
    foldl_length_registered L _ 0 hdistinct fun _ he => ht.snd_eq_of_mem he, hcover, ht.any_eq, Ledger.registered,
    List.length_map, Nat.zero_add, hall]

theorem handlersFor_of_tracks (ht : Tracks l L) (n : Notification) :
    l.handlersFor n = L.handlers (some n.name) ++ L.handlers none := by
  simp [handlersFor, registrationsFor, ht.named_eq, ht.any_eq, Ledger.handlers,
    Ledger.registered, Function.comp_def]

end Listeners

/-! ## Machines -/

/-- Something done to a running machine: a registry operation, or an input. -/
inductive MachineOp (α : Type) where
  | listen (op : Listeners.Op α)
  | feed (input : String)

/-- The registry operation of a machine operation, if it is one. -/
def MachineOp.registryOp? : MachineOp α → Option (Listeners.Op α)
  | .listen op => some op
  | .feed _ => none

namespace Machine

/-- Does one thing to a machine through the machine's own operations; a registry operation
also answers. -/
def perform (m : Machine α) : MachineOp α → Machine α × Option Listeners.Answer
  | .listen (.on name h) => let (m, id) := m.on name h; (m, some (.issued id))
  | .listen (.onAny h) => let (m, id) := m.onAny h; (m, some (.issued id))
  | .listen (.off id) => let (m, found) := m.off id; (m, some (.removed found))
  | .feed x => ((m.transition x).1, none)

/-- Does things to a machine in order, collecting the answers of the registry operations. -/
def performAll (m : Machine α) : List (MachineOp α) → Machine α × List Listeners.Answer
  | [] => (m, [])
  | op :: ops =>
    let (m, a) := m.perform op
    let (m, as) := m.performAll ops
    (m, a.toList ++ as)

theorem perform_listeners (m : Machine α) (op : MachineOp α) :
    (m.perform op).1.table = m.table ∧
    ((m.perform op).1.listeners, (m.perform op).2) =
      match op.registryOp? with
      | some op => ((m.listeners.perform op).1, some (m.listeners.perform op).2)
      | none => (m.listeners, none) := by
  cases op with
  | listen op => cases op <;> exact ⟨rfl, rfl⟩
  | feed x => exact ⟨rfl, rfl⟩

/-- Whatever is done to a machine, its registry is where its registry operations alone take
it, with their answers. -/
theorem performAll_listeners :
    ∀ (m : Machine α) (ops : List (MachineOp α)),
      (m.performAll ops).1.table = m.table ∧
      ((m.performAll ops).1.listeners, (m.performAll ops).2) =
        m.listeners.performAll (ops.filterMap MachineOp.registryOp?)
  | m, [] => ⟨rfl, rfl⟩
  | m, op :: ops => by
    obtain ⟨htab, hop⟩ := perform_listeners m op
    obtain ⟨htab', hops⟩ := performAll_listeners (m.perform op).1 ops
    refine ⟨htab'.trans htab, ?_⟩
    show (((m.perform op).1.performAll ops).1.listeners,
      (m.perform op).2.toList ++ ((m.perform op).1.performAll ops).2) = _
    cases hr : op.registryOp? with
    | none =>
      rw [hr] at hop
      obtain ⟨hl, ha⟩ := Prod.mk.inj hop
      rw [List.filterMap_cons_none hr, ha, ← hl]
      simpa using hops
    | some rop =>
      rw [hr] at hop
      obtain ⟨hl, ha⟩ := Prod.mk.inj hop
      rw [List.filterMap_cons_some hr, ha]
      simp only [Listeners.performAll, ← hl, ← hops]
      rfl

/-- A machine whose registry tracks a ledger, after anything is done to it, tracks the ledger
advanced by the machine's registry operations, and has answered as that ledger. -/
theorem performAll_tracks {m : Machine α} {L : Ledger α} (ht : Listeners.Tracks m.listeners L)
    (hv : L.Valid) (ops : List (MachineOp α)) :
    Listeners.Tracks (m.performAll ops).1.listeners
        (L.performAll (ops.filterMap MachineOp.registryOp?)).1 ∧
      (m.performAll ops).2 = (L.performAll (ops.filterMap MachineOp.registryOp?)).2 := by
  obtain ⟨-, hm⟩ := performAll_listeners m ops
  obtain ⟨hl, ha⟩ := Prod.mk.inj hm
  obtain ⟨hmt, hmans⟩ := Listeners.performAll_tracks _ ht hv
  rw [← hl] at hmt
  exact ⟨hmt, ha.trans hmans⟩

/-- A transition calls, for each notification of the step in turn, the live handlers of its
name and then the live catch-all handlers. -/
theorem transition_calls_of_tracks {m : Machine α} {L : Ledger α}
    (ht : Listeners.Tracks m.listeners L) (x : String) :
    (m.transition x).2.2 = (m.transition x).2.1.notifications.flatMap
      fun n => (L.handlers (some n.name) ++ L.handlers none).map (·, n) := by
  simp [transition, calls, Listeners.handlersFor_of_tracks ht]

end Machine

/-- **The registry refines the list of live registrations.** After any sequence of
registrations and removals from an empty registry, every answer is the ledger's (the `k`-th
registration gets identifier `k`; a removal succeeds exactly for an issued identifier not yet
removed, and takes out exactly that registration), each name's vector and the catch-all vector
hold the live registrations of that name and the live catch-all ones in registration order, a
name's count and the total count are those of live handlers, and a notification goes to the live
handlers of its name, then the live catch-all handlers, each once, in registration order. The
same holds of a machine, through its own operations, whatever inputs it is fed in between: its
registry is that of its registry operations, and a transition calls, for each notification of
the step in turn, exactly those handlers. -/
theorem registry_refines_live_registrations (ops : List (Listeners.Op α))
    (mops : List (MachineOp α)) (c : Compiled) (s x : String) :
    let run := ({} : Listeners α).performAll ops
    let spec := ({} : Ledger α).performAll ops
    run.2 = spec.2 ∧
    (∀ name, run.1.named.getD name [] = spec.1.registered (some name)) ∧
    run.1.any = spec.1.registered none ∧
    (∀ name, run.1.count name = (spec.1.handlers (some name)).length) ∧
    run.1.size = spec.1.live.length ∧
    (∀ n, run.1.handlersFor n = spec.1.handlers (some n.name) ++ spec.1.handlers none) ∧
    let mrun := (Machine.inState c s : Machine α).performAll mops
    let mspec := ({} : Ledger α).performAll (mops.filterMap MachineOp.registryOp?)
    mrun.2 = mspec.2 ∧
    (∀ name, mrun.1.listeners.named.getD name [] = mspec.1.registered (some name)) ∧
    mrun.1.listeners.any = mspec.1.registered none ∧
    (∀ name, mrun.1.listenerCount name = (mspec.1.handlers (some name)).length) ∧
    mrun.1.handlerCount = mspec.1.live.length ∧
    (mrun.1.transition x).2.2 = (mrun.1.transition x).2.1.notifications.flatMap
      fun n => (mspec.1.handlers (some n.name) ++ mspec.1.handlers none).map (·, n) := by
  dsimp only
  obtain ⟨ht, hans⟩ := Listeners.performAll_tracks ops Listeners.tracks_empty Ledger.valid_empty
  refine ⟨hans, ht.named_eq, ht.any_eq, Listeners.count_of_tracks ht, Listeners.size_of_tracks ht,
    Listeners.handlersFor_of_tracks ht, ?_⟩
  -- a machine, in whatever state, starts with an empty registry
  obtain ⟨hmt, hmans⟩ := Machine.performAll_tracks (m := (Machine.inState c s : Machine α))
    Listeners.tracks_empty Ledger.valid_empty mops
  exact ⟨hmans, hmt.named_eq, hmt.any_eq, Listeners.count_of_tracks hmt,
    Listeners.size_of_tracks hmt, Machine.transition_calls_of_tracks hmt x⟩

end TableMachine
