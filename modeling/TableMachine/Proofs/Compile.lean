import TableMachine.Dispatch
import Mathlib.Data.List.Forall2

/-!
# What compilation keeps of a table

`Table.compile` is a chain of `Except` computations: the table and the wildcard token are
checked, every state is compiled (`Table.compileState`), and within a state every rule
(`Table.compileRule`), after which the wildcard rule is moved last (`Table.wildcardLast`). This
file opens the chain once, so that later proofs cite its lemmas and never unfold it:

> `Table.compile_eq_ok`: a compiled table's states are the table's states, each compiled, in
> order; `Table.compileState_eq_ok` and `Table.compileRule_eq_ok` say the same one level down,
> with the matcher of each rule the classification of its key, its target the authored target,
> and its notifications those of the move it makes.

Lists related element by element (`List.Forall₂`) carry searches across: `find?_rel` finds
related elements in both lists or nothing in both. On the compiled side the wildcard rule goes
last (`Table.find?_wildcardLast`); since the keys of a well-formed state are distinct and every
wildcard key is the wildcard token, there is at most one wildcard rule to move, so the compiled
search fires what the authored rules fire when read in their own order with the wildcard
deferred (`Table.find?_compiled_rules`). The lookup of a state by name is carried across the same
way (`Table.state?_cases`).
-/

namespace TableMachine

/-! ## `Except` and related lists -/

theorem bind_eq_ok {ε α β : Type} {x : Except ε α} {f : α → Except ε β} {b : β} :
    x >>= f = .ok b ↔ ∃ a, x = .ok a ∧ f a = .ok b := by
  cases x with
  | error e => simp [bind, Except.bind]
  | ok a => simp [bind, Except.bind]

/-- A successful `mapM` relates each input to its output. -/
theorem mapM_eq_ok {ε α β : Type} {f : α → Except ε β} :
    ∀ {l : List α} {l' : List β}, l.mapM f = .ok l' → List.Forall₂ (fun a b => f a = .ok b) l l'
  | [], l', h => by
    cases h
    exact List.Forall₂.nil
  | a :: l, l', h => by
    rw [List.mapM_cons, bind_eq_ok] at h
    obtain ⟨b, hb, h⟩ := h
    rw [bind_eq_ok] at h
    obtain ⟨bs, hbs, h⟩ := h
    cases h
    exact List.Forall₂.cons hb (mapM_eq_ok hbs)

/-- Finding in two related lists, with predicates that agree on related elements, finds
related elements, or nothing in both. -/
theorem find?_rel {α β : Type} {R : α → β → Prop} {p : α → Bool} {q : β → Bool}
    (hpq : ∀ a b, R a b → p a = q b) :
    ∀ {l₁ : List α} {l₂ : List β}, List.Forall₂ R l₁ l₂ → Option.Rel R (l₁.find? p) (l₂.find? q)
  | [], [], .nil => .none
  | a :: l₁, b :: l₂, .cons hab hl => by
    rw [List.find?_cons, List.find?_cons, hpq a b hab]
    split
    · exact .some hab
    · exact find?_rel hpq hl

theorem rel_or {α β : Type} {R : α → β → Prop} {a a' : Option α} {b b' : Option β}
    (h : Option.Rel R a b) (h' : Option.Rel R a' b') : Option.Rel R (a.or a') (b.or b') := by
  cases h with
  | none => exact h'
  | some hab => exact .some hab

theorem map_eq_of_forall₂ {α β γ : Type} {R : α → β → Prop} {f : α → γ} {g : β → γ}
    (hfg : ∀ a b, R a b → f a = g b) :
    ∀ {l₁ : List α} {l₂ : List β}, List.Forall₂ R l₁ l₂ → l₁.map f = l₂.map g
  | [], [], .nil => rfl
  | _ :: _, _ :: _, .cons hab hl => by
    rw [List.map_cons, List.map_cons, hfg _ _ hab, map_eq_of_forall₂ hfg hl]

theorem forall_mem_of_forall₂ {α β : Type} {R : α → β → Prop} {P : β → Prop}
    (h : ∀ a b, R a b → P b) :
    ∀ {l₁ : List α} {l₂ : List β}, List.Forall₂ R l₁ l₂ → ∀ b ∈ l₂, P b
  | [], [], .nil => fun _ hb => nomatch hb
  | _ :: _, _ :: _, .cons hab hl => by
    intro b hb
    rcases List.mem_cons.mp hb with rfl | hb
    · exact h _ _ hab
    · exact forall_mem_of_forall₂ h hl b hb

/-- A filter that keeps at most one element has that element both first and last. -/
theorem getLast?_filter_eq_find? {α : Type} {p : α → Bool} {l : List α}
    (h : (l.filter p).length ≤ 1) : (l.filter p).getLast? = l.find? p := by
  rw [← List.head?_filter]
  match l.filter p, h with
  | [], _ => rfl
  | [_], _ => rfl

/-- Among elements with distinct keys, at most one has a given key. -/
theorem length_filter_le_one {α β : Type} [DecidableEq β] {f : α → β} {p : α → Bool} {k : β}
    {l : List α} (hnd : (l.map f).Nodup) (hk : ∀ a ∈ l, p a → f a = k) :
    (l.filter p).length ≤ 1 := by
  have hsub : ((l.filter p).map f).Nodup := hnd.sublist (List.filter_sublist.map f)
  have hrep : (l.filter p).map f = List.replicate ((l.filter p).length) k := by
    rw [List.eq_replicate_iff]
    refine ⟨by simp, fun b hb => ?_⟩
    obtain ⟨a, ha, rfl⟩ := List.mem_map.mp hb
    exact hk a (List.mem_filter.mp ha).1 (List.mem_filter.mp ha).2
  rw [hrep, List.nodup_replicate] at hsub
  exact hsub

/-! ## Matchers -/

theorem Matcher.accepts_of_isWildcard {m : Matcher} (h : m.isWildcard) (input : String) :
    m.accepts input := by
  cases m with
  | literal k => simp [Matcher.isWildcard, Matcher.kind] at h
  | pattern k p => simp [Matcher.isWildcard, Matcher.kind] at h
  | wildcard k => rfl

/-- A classified key keeps its text, and it is the wildcard only if it is the wildcard
token. -/
theorem Matcher.key_of_classify {key w : String} {m : Matcher}
    (h : Matcher.classify key w = .ok m) : m.key = key ∧ (m.isWildcard → key = w) := by
  unfold Matcher.classify at h
  split at h
  · rw [bind_eq_ok] at h
    obtain ⟨p, -, h⟩ := h
    cases h
    exact ⟨rfl, by simp [Matcher.isWildcard, Matcher.kind]⟩
  · split at h
    · next hw =>
      cases h
      exact ⟨rfl, fun _ => hw⟩
    · cases h
      exact ⟨rfl, by simp [Matcher.isWildcard, Matcher.kind]⟩

/-! ## Opening `compile` -/

namespace Table

theorem compileRule_eq_ok {t : Table} {o : CompileOptions} {s : String} {r : Rule}
    {cr : CompiledRule} (h : t.compileRule o s r = .ok cr) :
    Matcher.classify r.key o.wildcard = .ok cr.matcher ∧ cr.target = r.target ∧
      cr.notifications = moveNotifications s r.target o.capitalization
        (o.terminalSignals && t.isTerminalTarget r.target) := by
  simp only [compileRule, bind_eq_ok] at h
  obtain ⟨m, hm, h⟩ := h
  cases hc : Matcher.classify r.key o.wildcard with
  | error e => simp [hc, Except.mapError] at hm
  | ok m' =>
    simp [hc, Except.mapError] at hm
    subst hm
    cases h
    exact ⟨rfl, rfl, rfl⟩

theorem compileState_eq_ok {t : Table} {o : CompileOptions} {e : StateEntry}
    {cs : CompiledState} (h : t.compileState o e = .ok cs) :
    ∃ crs, List.Forall₂ (fun r cr => t.compileRule o e.name r = .ok cr) e.rules crs ∧
      cs = ⟨e.name, wildcardLast crs,
        if o.terminalSignals && (wildcardLast crs).isEmpty then some (inFinalNotification e.name)
        else none⟩ := by
  simp only [compileState, bind_eq_ok] at h
  obtain ⟨crs, hcrs, h⟩ := h
  cases h
  exact ⟨crs, mapM_eq_ok hcrs, rfl⟩

theorem compile_eq_ok {t : Table} {o : CompileOptions} {c : Compiled} (h : t.compile o = .ok c) :
    t.states ≠ [] ∧ List.Forall₂ (fun e cs => t.compileState o e = .ok cs) t.states c.states ∧
      c.options = o ∧ c.source = t := by
  simp only [compile] at h
  split at h
  · cases h
  · next hne =>
    split at h
    · cases h
    · rw [bind_eq_ok] at h
      obtain ⟨states, hs, h⟩ := h
      cases h
      exact ⟨by simpa [isEmpty] using hne, mapM_eq_ok hs, rfl, rfl⟩

/-! ## The wildcard goes last -/

theorem mem_wildcardLast {crs : List CompiledRule} {cr : CompiledRule}
    (h : cr ∈ wildcardLast crs) : cr ∈ crs := by
  rcases List.mem_append.mp h with h | h
  · exact (List.mem_filter.mp h).1
  · exact (List.mem_filter.mp (List.mem_of_getLast? (Option.mem_toList.mp h))).1

theorem wildcardLast_eq_nil {crs : List CompiledRule} : wildcardLast crs = [] ↔ crs = [] := by
  constructor
  · intro h
    rw [wildcardLast, List.append_eq_nil_iff, Option.toList_eq_nil_iff, List.getLast?_eq_none_iff,
      List.filter_eq_nil_iff, List.filter_eq_nil_iff] at h
    refine List.eq_nil_iff_forall_not_mem.mpr fun cr hcr => ?_
    -- every rule is either the wildcard or not, and neither part kept it
    have h1 := h.1 cr hcr
    have h2 := h.2 cr hcr
    cases hw : cr.matcher.isWildcard
    · exact h1 (by rw [hw]; rfl)
    · exact h2 hw
  · rintro rfl
    rfl

/-- Searching the rules with the wildcard rule moved last finds the first other rule that
accepts, or else the wildcard rule, which accepts everything. -/
theorem find?_wildcardLast (crs : List CompiledRule) (input : String) :
    (wildcardLast crs).find? (·.matcher.accepts input) =
      (crs.find? fun cr => !cr.matcher.isWildcard && cr.matcher.accepts input).or
        (crs.filter (·.matcher.isWildcard)).getLast? := by
  rw [wildcardLast, List.find?_append, List.find?_filter]
  congr 1
  · congr 1
    funext cr
    simp
  cases hw : (crs.filter (·.matcher.isWildcard)).getLast? with
  | none => rfl
  | some w =>
    have hmem : w ∈ crs.filter (·.matcher.isWildcard) := List.mem_of_getLast? hw
    have : w.matcher.accepts input :=
      Matcher.accepts_of_isWildcard (List.mem_filter.mp hmem).2 input
    simp [this]

/-! ## Reading keys as the compiler does -/

/-- Whether a key, read under the options' wildcard token, is the wildcard. -/
def keyIsWildcard (o : CompileOptions) (key : String) : Bool :=
  match Matcher.classify key o.wildcard with
  | .ok m => m.isWildcard
  | .error _ => false

/-- Whether a key, read under the options' wildcard token, accepts an input. -/
def keyAccepts (o : CompileOptions) (key input : String) : Bool :=
  match Matcher.classify key o.wildcard with
  | .ok m => m.accepts input
  | .error _ => false

/-- The rule an input fires among a state's authored rules: the first, in authored order, whose
key is not the wildcard and accepts the input, or else the rule whose key is the wildcard. -/
def firedRule (o : CompileOptions) (rules : List Rule) (input : String) : Option Rule :=
  (rules.find? fun r => !keyIsWildcard o r.key && keyAccepts o r.key input).or
    (rules.find? fun r => keyIsWildcard o r.key)

/-- The compiled rules of a state with distinct keys hold at most one wildcard: every wildcard
key is the wildcard token, and keys are distinct. -/
theorem length_filter_wildcard_le_one {t : Table} {o : CompileOptions} {s : String}
    {rules : List Rule} {crs : List CompiledRule} (hnd : (rules.map (·.key)).Nodup)
    (hcrs : List.Forall₂ (fun r cr => t.compileRule o s r = .ok cr) rules crs) :
    (crs.filter (·.matcher.isWildcard)).length ≤ 1 := by
  refine length_filter_le_one (f := (·.matcher.key)) (k := o.wildcard) ?_ ?_
  · rw [← map_eq_of_forall₂ (f := (·.key))
      (fun r cr h => (Matcher.key_of_classify (compileRule_eq_ok h).1).1.symm) hcrs]
    exact hnd
  · refine forall_mem_of_forall₂ (fun r cr h hw => ?_) hcrs
    obtain ⟨hk, hw'⟩ := Matcher.key_of_classify (compileRule_eq_ok h).1
    rw [hk, hw' hw]

/-- The compiled rules of a state with distinct keys fire what its authored rules fire. -/
theorem find?_compiled_rules {t : Table} {o : CompileOptions} {s : String} {rules : List Rule}
    {crs : List CompiledRule} (hnd : (rules.map (·.key)).Nodup)
    (hcrs : List.Forall₂ (fun r cr => t.compileRule o s r = .ok cr) rules crs) (input : String) :
    Option.Rel (fun r cr => t.compileRule o s r = .ok cr)
      (firedRule o rules input) ((wildcardLast crs).find? (·.matcher.accepts input)) := by
  have hkey : ∀ r cr, t.compileRule o s r = .ok cr →
      keyIsWildcard o r.key = cr.matcher.isWildcard ∧
        keyAccepts o r.key input = cr.matcher.accepts input := by
    intro r cr h
    simp [keyIsWildcard, keyAccepts, (compileRule_eq_ok h).1]
  rw [find?_wildcardLast, getLast?_filter_eq_find? (length_filter_wildcard_le_one hnd hcrs),
    firedRule]
  have hfirst := find?_rel (p := fun r => !keyIsWildcard o r.key && keyAccepts o r.key input)
    (q := fun cr => !cr.matcher.isWildcard && cr.matcher.accepts input)
    (fun r cr h => by rw [(hkey r cr h).1, (hkey r cr h).2]) hcrs
  have hwild := find?_rel (p := fun r => keyIsWildcard o r.key)
    (q := fun cr => cr.matcher.isWildcard) (fun r cr h => (hkey r cr h).1) hcrs
  exact rel_or hfirst hwild

/-! ## Looking states up -/

/-- A state is declared in a compiled table exactly when it is declared in the table, and then
the compiled state is the first declaration of that name, compiled. -/
theorem state?_cases {t : Table} {o : CompileOptions} {c : Compiled} (hc : t.compile o = .ok c)
    (s : String) :
    (c.state? s = none ∧ t.rules? s = none) ∨
      ∃ e cs, t.states.find? (·.name = s) = some e ∧ c.state? s = some cs ∧
        t.compileState o e = .ok cs := by
  have hname : ∀ e cs, t.compileState o e = .ok cs → cs.name = e.name := fun e cs h => by
    obtain ⟨crs, -, rfl⟩ := compileState_eq_ok h
    rfl
  have hfind := find?_rel (p := fun e : StateEntry => decide (e.name = s))
    (q := fun cs : CompiledState => decide (cs.name = s))
    (fun e cs h => by rw [hname e cs h]) (compile_eq_ok hc).2.1
  rw [Compiled.state?, rules?]
  generalize t.states.find? (fun e => decide (e.name = s)) = fe at hfind ⊢
  generalize c.states.find? (fun cs => decide (cs.name = s)) = fc at hfind ⊢
  cases hfind with
  | none => exact .inl ⟨rfl, rfl⟩
  | some h => exact .inr ⟨_, _, rfl, rfl, h⟩

theorem isTerminalTarget_eq (t : Table) (d : String) :
    t.isTerminalTarget d = (t.rules? d).all List.isEmpty := by
  unfold isTerminalTarget
  split <;> simp_all

end Table

end TableMachine
