import TableMachine.Proofs.Layout
import TableMachine.Proofs.ToolRun
import TableMachine.Proofs.CompileErrors
import Mathlib.Tactic.IntervalCases

/-!
# The lines of a listing

`Compiled.render` writes a listing line by line (`Compiled.listing`): a header, then a block for
each state in declaration order. A block is the state's line; for a state without rules, one line
saying what it does on any input; otherwise two lines for each rule in the order dispatch tries
them, the rule (keyword `if` or `always` for the first, `else if` or `else` after it) and what it
emits, the names as the description lists them, and then `else: ignore input` unless a wildcard
rule catches every input (`ShowsState`).

State names, literals and targets are quoted, and a quoted text never holds a line feed
(`Text.lf_not_mem_quote`); nor do the header's count and checksum. Pattern sources and
notification names are written as they are, and the text splits at line feeds into the listing's
lines exactly when none of these holds one (`Compiled.splitOn_render_iff`). A move into a state
named `a\nb` emits `enteringA\nb`, so a target alone can break a line
(`target_with_line_feed_listing`). Where nothing breaks a line:

> `listing_lines_mirror_dispatch`: for a table that compiles, whose pattern sources and
> notification names hold no line feed, the rendered text split at line feeds is the header and
> the states' blocks, line for line (and an empty piece after the last line feed); every block
> has the shape above, so the listing has one line plus `CompiledState.blockLength` lines per
> state; and a wildcard rule's two lines end its block, since compiling puts it last.

Whether the texts written unquoted are one line can be read off the table before compiling it:
a compiled rule writes only its authored key and the names of its move's notifications
(`Compiled.rawOneLine_of_compile`).
-/

namespace TableMachine

/-! ## Quoted texts are one line -/

namespace Text

theorem digitChar_ne_lf (n : Nat) : n.digitChar ≠ '\n' := by
  rcases Nat.lt_or_ge n 16 with hlt | hge
  · interval_cases n <;> decide
  · rw [Nat.digitChar_eq_star.mpr hge]
    decide

/-- The digits of a number, in any base, hold no line feed. -/
theorem lf_not_mem_toDigits {b : Nat} (hb : 1 < b) (n : Nat) : '\n' ∉ Nat.toDigits b n := by
  induction n using Nat.strongRecOn with
  | ind n ih =>
    rw [Nat.toDigits_eq_if hb]
    split
    · simp [(digitChar_ne_lf n).symm]
    · next hge =>
      rw [List.mem_append, List.mem_singleton, not_or]
      exact ⟨ih (n / b) (Nat.div_lt_self (by omega) hb), (digitChar_ne_lf _).symm⟩

theorem lf_not_mem_quoteChar (c : Char) : '\n' ∉ (quoteChar c).toList := by
  unfold quoteChar
  split
  case h_7 hnul htab hcr hlf hbs hquote =>
    split
    · simp [codeEscape, hexDigits, lf_not_mem_toDigits (by decide : 1 < 16)]
    · simpa [eq_comm] using hlf
  all_goals decide

/-- A quoted text is one line. -/
theorem lf_not_mem_quote (s : String) : '\n' ∉ (quote s).toList := by
  simp [quote, String.toList_join, lf_not_mem_quoteChar]

end Text

/-! ## What a listing writes as it is -/

/-- What a rule's lines show as it is, unquoted: the source of its pattern, and the names of its
notifications. -/
def CompiledRule.rawTexts (r : CompiledRule) : List String :=
  (match r.matcher with
    | .pattern key _ => [key]
    | _ => []) ++ r.names

/-- What a state's block shows as it is: the name of what it emits on any input, and its rules'
unquoted texts. -/
def CompiledState.rawTexts (s : CompiledState) : List String :=
  s.inFinal.toList.map (·.name) ++ s.rules.flatMap CompiledRule.rawTexts

/-- Whether every text a compiled table's listing writes unquoted is one line. -/
def Compiled.RawOneLine (c : Compiled) : Prop :=
  ∀ s ∈ c.states, ∀ x ∈ s.rawTexts, '\n' ∉ x.toList

/-- How many lines the listing gives a state: its own line, then one line if it has no rules, or
two for each rule and one more unless a wildcard rule catches every input. -/
def CompiledState.blockLength (s : CompiledState) : Nat :=
  1 + if s.isTerminal then 1
    else 2 * s.rules.length + if s.rules.any (·.matcher.isWildcard) then 0 else 1

/-- The lines of a state's block, as a listing shows a state: its line first; for a state without
rules, one more line, naming the notification it emits on any input if it has one; otherwise the
two lines of its `i`-th rule after its first `2 * i + 1` lines, the first rule's with keyword `if`
or `always` and the others' with `else if` or `else`, and a last line `else: ignore input` exactly
when no rule is a wildcard. -/
structure ShowsState (s : CompiledState) (lines : List String) : Prop where
  head : lines.head? = some ("state " ++ Text.quote s.name ++ ":")
  length : lines.length = s.blockLength
  terminal : s.isTerminal →
    lines.drop 1 =
      [(s.inFinal.map fun n => "  terminal: emit " ++ n.name ++ "(" ++ Text.quote s.name ++ ")").getD
        "  terminal: ignore input"]
  rule : ∀ i r, s.rules[i]? = some r → (lines.drop (2 * i + 1)).take 2 = Compiled.ruleLines (i = 0) r
  ignore : s.isTerminal = false →
    (lines.getLast? = some "  else: ignore input" ↔ s.rules.any (·.matcher.isWildcard) = false)

/-- What the listing of a compiled table shows, line by line: split at line feeds, the rendered
text is the header and then each state's block in declaration order, and an empty piece after the
last line feed; the listing has one line, and `CompiledState.blockLength` lines for each state;
every block has the shape `ShowsState` gives; and a wildcard rule's two lines end its block. -/
structure Compiled.ListsByLine (c : Compiled) : Prop where
  lines : c.render.toList.splitOn '\n' =
    (c.header :: c.states.flatMap Compiled.stateLines).map String.toList ++ [[]]
  length : (c.header :: c.states.flatMap Compiled.stateLines).length =
    1 + (c.states.map (·.blockLength)).sum
  blocks : ∀ s ∈ c.states, ShowsState s (Compiled.stateLines s)
  wildcard_last : ∀ s ∈ c.states, ∀ i r, s.rules[i]? = some r → r.matcher.isWildcard = true →
    (Compiled.stateLines s).drop (2 * i + 1) = Compiled.ruleLines (i = 0) r

namespace Compiled

/-! ## Every line is one line -/

theorem lf_not_mem_intercalate {sep : String} (hsep : '\n' ∉ sep.toList) :
    ∀ {ns : List String}, (∀ n ∈ ns, '\n' ∉ n.toList) → '\n' ∉ (sep.intercalate ns).toList
  | [], _ => by simp
  | [n], h => by simpa using h n (by simp)
  | n :: m :: ns, h => by
    rw [String.intercalate_cons_cons]
    simp only [String.toList_append, List.mem_append, not_or]
    exact ⟨⟨h n List.mem_cons_self, hsep⟩,
      lf_not_mem_intercalate hsep fun x hx => h x (List.mem_cons_of_mem _ hx)⟩

theorem lf_not_mem_ruleLines (first : Bool) {r : CompiledRule}
    (hr : ∀ x ∈ r.rawTexts, '\n' ∉ x.toList) :
    ∀ line ∈ ruleLines first r, '\n' ∉ line.toList := by
  have hnames : ∀ n ∈ r.names, '\n' ∉ n.toList := fun n hn => hr n (List.mem_append_right _ hn)
  intro line hline
  simp only [ruleLines, List.mem_cons, List.mem_nil_iff, or_false] at hline
  rcases hline with rfl | rfl
  · -- the rule's line: all quoted but a pattern's source
    split
    · cases first <;> simp [Text.lf_not_mem_quote]
    · next key _ hm =>
      have hkey := hr key (by simp [CompiledRule.rawTexts, hm])
      cases first <;> simp [Text.lf_not_mem_quote, hkey]
    · cases first <;> simp [Text.lf_not_mem_quote]
  · have hjoin := lf_not_mem_intercalate (show '\n' ∉ ", ".toList by decide) hnames
    simpa using hjoin

theorem lf_not_mem_stateLines {s : CompiledState} (hs : ∀ x ∈ s.rawTexts, '\n' ∉ x.toList) :
    ∀ line ∈ stateLines s, '\n' ∉ line.toList := by
  have hrules : ∀ r ∈ s.rules, ∀ x ∈ r.rawTexts, '\n' ∉ x.toList :=
    fun r hr x hx => hs x (List.mem_append_right _ (List.mem_flatMap.mpr ⟨r, hr, hx⟩))
  intro line hline
  unfold stateLines at hline
  split at hline
  · -- a state without rules: its line, and what it does on any input
    split at hline
    · next n hn =>
      have hname := hs n.name (by simp [CompiledState.rawTexts, hn])
      simp only [List.mem_cons, List.mem_nil_iff, or_false] at hline
      rcases hline with rfl | rfl <;> simp [Text.lf_not_mem_quote, hname]
    · simp only [List.mem_cons, List.mem_nil_iff, or_false] at hline
      rcases hline with rfl | rfl <;> simp [Text.lf_not_mem_quote]
  · simp only [List.mem_cons, List.mem_append, List.mem_flatten, List.mem_map] at hline
    rcases hline with (rfl | ⟨_, ⟨⟨r, i⟩, hri, rfl⟩, hl⟩) | hl
    · simp [Text.lf_not_mem_quote]
    · exact lf_not_mem_ruleLines _ (hrules r (List.fst_mem_of_mem_zipIdx hri)) line hl
    · split at hl
      · cases hl
      · rw [List.mem_singleton.mp hl]
        decide

/-- The checksum a table compiles with is its own. -/
theorem checksum_compile {t : Table} {o : CompileOptions} {c : Compiled} (h : t.compile o = .ok c) :
    c.checksum = t.checksum := by
  simp only [Table.compile] at h
  split at h
  · cases h
  · split at h
    · cases h
    · rw [bind_eq_ok] at h
      obtain ⟨states, -, h⟩ := h
      cases h
      rfl

theorem lf_not_mem_header {t : Table} {o : CompileOptions} {c : Compiled} (h : t.compile o = .ok c) :
    '\n' ∉ c.header.toList := by
  have hsum : '\n' ∉ c.checksum.toList := by
    rw [checksum_compile h, Table.checksum, hex8]
    simp [Text.lf_not_mem_toDigits (by decide : 1 < 16)]
  have hcount : '\n' ∉ (toString c.states.length).toList := by
    rw [show toString c.states.length = c.states.length.repr from rfl, Nat.toList_repr]
    exact Text.lf_not_mem_toDigits (by decide) _
  have htext : ∀ s : String, toString s = s := fun _ => rfl
  simp only [header, htext, String.toList_append, List.mem_append, not_or]
  exact ⟨⟨⟨⟨⟨by decide, hcount⟩, by decide⟩, Text.lf_not_mem_quote _⟩, by decide⟩, hsum⟩

/-- Lines that hold no line feed are what splitting the rendered text at line feeds gives back,
with an empty piece after the last line feed. -/
theorem splitOn_render {c : Compiled} (h : ∀ line ∈ c.listing, '\n' ∉ line.toList) :
    c.render.toList.splitOn '\n' = c.listing.map String.toList ++ [[]] := by
  have htext : c.render.toList = (c.listing.map String.toList).flatMap (· ++ ['\n']) := by
    simp [render, List.flatMap_map]
  rw [htext]
  exact splitOn_flatMap_terminated '\n' _ (by simpa using h)

/-! ## The shape of a block -/

section Pairs

variable {α β : Type} {f : α × Nat → List β}

theorem length_flatten_pairs (hf : ∀ x, (f x).length = 2) :
    ∀ (l : List α) (k : Nat), (((l.zipIdx k).map f).flatten).length = 2 * l.length
  | [], _ => rfl
  | a :: l, k => by
    rw [List.zipIdx_cons, List.map_cons, List.flatten_cons, List.length_append, hf,
      length_flatten_pairs hf l (k + 1), List.length_cons]
    omega

/-- Past the first `2 * i` items of the pairs of a list's elements come the pair of its `i`-th
element and the pairs of the elements after it. -/
theorem drop_flatten_pairs (hf : ∀ x, (f x).length = 2) :
    ∀ (l : List α) (k i : Nat) (a : α), l[i]? = some a →
      (((l.zipIdx k).map f).flatten).drop (2 * i) =
        f (a, k + i) ++ (((l.drop (i + 1)).zipIdx (k + i + 1)).map f).flatten
  | [], _, _, _, h => by simp at h
  | b :: l, k, 0, a, h => by
    rw [List.getElem?_cons_zero, Option.some.injEq] at h
    subst h
    simp
  | b :: l, k, i + 1, a, h => by
    rw [List.getElem?_cons_succ] at h
    have hk : k + 1 + i = k + (i + 1) := by omega
    rw [List.zipIdx_cons, List.map_cons, List.flatten_cons, show 2 * (i + 1) = 2 + 2 * i by omega,
      ← List.drop_drop, List.drop_left' (hf _), drop_flatten_pairs hf l (k + 1) i a h,
      List.drop_succ_cons, hk]

end Pairs

/-- Past the first `2 * i + 1` lines of a block of a state with rules come the two lines of its
`i`-th rule, and then, after its last rule, only the line for inputs no rule takes, if any. -/
theorem drop_stateLines {s : CompiledState} {i : Nat} {r : CompiledRule}
    (h : s.rules[i]? = some r) :
    ∃ rest, (stateLines s).drop (2 * i + 1) = ruleLines (i = 0) r ++ rest ∧
      (i + 1 = s.rules.length →
        rest = if s.rules.any (·.matcher.isWildcard) then [] else ["  else: ignore input"]) := by
  obtain ⟨hi, -⟩ := List.getElem?_eq_some_iff.mp h
  have hterm : s.isTerminal = false := by
    simpa [CompiledState.isTerminal] using List.ne_nil_of_mem (List.mem_of_getElem? h)
  unfold stateLines
  rw [if_neg (Bool.eq_false_iff.mp hterm)]
  dsimp only
  rw [List.cons_append, List.drop_succ_cons, List.drop_append_of_le_length,
    drop_flatten_pairs ?hf _ 0 i r h,
    Nat.zero_add, List.append_assoc]
  · refine ⟨_, rfl, fun hlast => ?_⟩
    rw [List.drop_eq_nil_of_le (by omega)]
    rfl
  case hf => exact fun _ => rfl
  · rw [length_flatten_pairs fun _ => rfl]
    omega

/-- A rule's last line says what it emits, so it is no line for inputs that no rule takes. -/
theorem getLast?_ruleLines_ne (first : Bool) (r : CompiledRule) :
    (ruleLines first r).getLast? ≠ some "  else: ignore input" := by
  intro h
  simp only [ruleLines, List.getLast?_cons_cons, List.getLast?_singleton, Option.some.injEq] at h
  have hstart := congrArg (fun line : String => line.toList.take 3) h
  simp at hstart

/-- Every state's lines have the shape of a block. -/
theorem stateLines_shows (s : CompiledState) : ShowsState s (stateLines s) := by
  cases hterm : s.isTerminal
  · -- a state with rules
    have hne : s.rules ≠ [] := by simpa [CompiledState.isTerminal] using hterm
    have hnt := Bool.eq_false_iff.mp hterm
    have hlen : (stateLines s).length = s.blockLength := by
      unfold stateLines CompiledState.blockLength
      rw [if_neg hnt, if_neg hnt]
      dsimp only
      rw [List.cons_append, List.length_cons, List.length_append,
        length_flatten_pairs (fun _ => rfl)]
      by_cases hany : (s.rules.any fun r => r.matcher.isWildcard) = true
      · rw [if_pos hany, if_pos hany, List.length_nil]
        omega
      · rw [if_neg hany, if_neg hany, List.length_singleton]
        omega
    refine ⟨?_, hlen, fun h => absurd h hnt, ?_, fun _ => ?_⟩
    · unfold stateLines
      rw [if_neg hnt]
      rfl
    · intro i r h
      obtain ⟨rest, hdrop, -⟩ := drop_stateLines h
      rw [hdrop, List.take_left' (show (ruleLines _ r).length = 2 from rfl)]
    · -- the last line is the last rule's, or the line for inputs no rule takes
      have hlast : s.rules.length - 1 < s.rules.length := by
        have := List.length_pos_of_ne_nil hne
        omega
      obtain ⟨rest, hdrop, htail⟩ :=
        drop_stateLines (List.getElem?_eq_getElem hlast)
      have hkeep : (stateLines s).getLast? =
          ((stateLines s).drop (2 * (s.rules.length - 1) + 1)).getLast? := by
        rw [List.getLast?_drop, if_neg]
        rw [hlen, CompiledState.blockLength, if_neg hnt]
        have := List.length_pos_of_ne_nil hne
        omega
      rw [hkeep, hdrop, htail (by omega)]
      split
      · next hany =>
        rw [List.append_nil, hany]
        simpa using getLast?_ruleLines_ne _ _
      · next hany =>
        simpa using hany
  · -- a state without rules: its line and what it does on any input
    have hnil : s.rules = [] := by simpa [CompiledState.isTerminal] using hterm
    refine ⟨?_, ?_, fun _ => ?_, fun i r h => by simp [hnil] at h,
      fun h => absurd hterm (by simp [h])⟩
    all_goals
      unfold stateLines
      rw [if_pos hterm]
    · split <;> rfl
    · rw [CompiledState.blockLength, if_pos hterm]
      split <;> rfl
    · split
      · next n hn => rw [hn]; rfl
      · next hn => rw [hn]; rfl

/-- Every line of a rule stands in its state's block. -/
theorem mem_stateLines_of_mem_ruleLines {s : CompiledState} {i : Nat} {r : CompiledRule}
    (h : s.rules[i]? = some r) : ∀ line ∈ ruleLines (i = 0) r, line ∈ stateLines s := by
  intro line hline
  obtain ⟨rest, hdrop, -⟩ := drop_stateLines h
  have hmem : line ∈ (stateLines s).drop (2 * i + 1) := by
    rw [hdrop]
    exact List.mem_append_left _ hline
  exact List.mem_of_mem_drop hmem

/-- No piece of a split holds the separator. -/
theorem not_mem_of_mem_splitOn {α : Type} [BEq α] [LawfulBEq α] {x : α} :
    ∀ {xs w : List α}, w ∈ xs.splitOn x → x ∉ w
  | [], w, h => by
    rw [List.splitOn_nil, List.mem_singleton] at h
    subst h
    exact List.not_mem_nil
  | y :: xs, w, h => by
    rw [List.splitOn_cons_eq_if_modifyHead] at h
    split at h
    · rcases List.mem_cons.mp h with rfl | h
      · exact List.not_mem_nil
      · exact not_mem_of_mem_splitOn h
    · next hne =>
      -- the first piece gains `y`, which is not the separator
      obtain ⟨p, ps, hps⟩ := List.exists_cons_of_ne_nil (List.splitOn_ne_nil x xs)
      rw [hps, List.modifyHead_cons] at h
      rcases List.mem_cons.mp h with rfl | h
      · have hp : x ∉ p := not_mem_of_mem_splitOn (hps ▸ List.mem_cons_self)
        rw [List.mem_cons, not_or]
        exact ⟨fun hxy => hne (by simp [hxy]), hp⟩
      · exact not_mem_of_mem_splitOn (hps ▸ List.mem_cons_of_mem _ h)

/-- Splitting the rendered text at line feeds gives back the listing's lines exactly when none of
them holds a line feed. -/
theorem splitOn_render_iff (c : Compiled) :
    c.render.toList.splitOn '\n' = c.listing.map String.toList ++ [[]] ↔
      ∀ line ∈ c.listing, '\n' ∉ line.toList := by
  refine ⟨fun h line hline => ?_, splitOn_render⟩
  have hpiece : line.toList ∈ c.render.toList.splitOn '\n' := by
    rw [h]
    exact List.mem_append_left _ (List.mem_map_of_mem hline)
  exact not_mem_of_mem_splitOn hpiece

/-- Where the texts a listing writes unquoted are each one line, so is every line of the listing
of a compiled table. -/
theorem lf_not_mem_listing {t : Table} {o : CompileOptions} {c : Compiled} (hc : t.compile o = .ok c)
    (hraw : c.RawOneLine) : ∀ line ∈ c.listing, '\n' ∉ line.toList := by
  intro line hline
  rcases List.mem_cons.mp hline with rfl | hline
  · exact lf_not_mem_header hc
  · obtain ⟨s, hs, hl⟩ := List.mem_flatMap.mp hline
    exact lf_not_mem_stateLines (hraw s hs) line hl

/-- In a compiled table only a state's last rule can be a wildcard. -/
theorem eq_length_of_wildcard {t : Table} {o : CompileOptions} {c : Compiled}
    (hc : t.compile o = .ok c) {s : CompiledState} (hs : s ∈ c.states) {i : Nat} {r : CompiledRule}
    (hr : s.rules[i]? = some r) (hwild : r.matcher.isWildcard = true) : i + 1 = s.rules.length := by
  obtain ⟨hi, -⟩ := List.getElem?_eq_some_iff.mp hr
  by_contra hne
  have hlt : i < s.rules.length - 1 := by omega
  have hmem : r ∈ s.rules.dropLast := by
    apply List.mem_of_getElem?
    rw [List.getElem?_dropLast, if_pos hlt]
    exact hr
  rw [Table.wildcard_last_compile hc s hs r hmem] at hwild
  cases hwild

end Compiled

/-! ## One line, read off the table -/

namespace Table

/-- Whether the texts the listing of a table's compilation writes unquoted are each one line, read
off the table: every key, and the name of every notification a move of it emits. -/
def RawOneLine (t : Table) (o : CompileOptions) : Prop :=
  ∀ e ∈ t.states, ∀ r ∈ e.rules, '\n' ∉ r.key.toList ∧
    ∀ n ∈ moveNotifications e.name r.target o.capitalization
      (o.terminalSignals && t.isTerminalTarget r.target), '\n' ∉ n.name.toList

instance (t : Table) (o : CompileOptions) : Decidable (t.RawOneLine o) := by
  delta RawOneLine
  infer_instance

end Table

namespace Compiled

/-- A compiled rule writes unquoted only its authored key, when it is a pattern, and the names of
the notifications of its move. -/
theorem rawTexts_compileRule {t : Table} {o : CompileOptions} {s : String} {r : Rule}
    {cr : CompiledRule} (h : t.compileRule o s r = .ok cr) :
    ∀ x ∈ cr.rawTexts, x = r.key ∨ x ∈ (moveNotifications s r.target o.capitalization
      (o.terminalSignals && t.isTerminalTarget r.target)).map (·.name) := by
  obtain ⟨hm, -, hn⟩ := Table.compileRule_eq_ok h
  intro x hx
  rcases List.mem_append.mp hx with hx | hx
  · -- a pattern keeps its key as authored
    left
    split at hx
    · next key _ hpat =>
      rw [List.mem_singleton.mp hx]
      simpa [hpat, Matcher.key] using (Matcher.key_of_classify hm).1
    · cases hx
  · right
    rwa [CompiledRule.names, hn] at hx

/-- Where a table's keys and the names its moves emit are each one line, so is every text the
listing of its compilation writes unquoted. -/
theorem rawOneLine_of_compile {t : Table} {o : CompileOptions} {c : Compiled}
    (hc : t.compile o = .ok c) (ht : t.RawOneLine o) : c.RawOneLine := by
  -- each compiled state is the compilation of a declared state, which meets the condition
  have hstates := (List.forall₂_and_left _ _).mpr ⟨ht, (Table.compile_eq_ok hc).2.1⟩
  refine forall_mem_of_forall₂ (fun e cs ⟨he, hcs⟩ => ?_) hstates
  obtain ⟨crs, hcrs, rfl⟩ := Table.compileState_eq_ok hcs
  -- and so does each compiled rule, the compilation of a rule of that state
  have hrules : ∀ cr ∈ crs, ∀ x ∈ cr.rawTexts, '\n' ∉ x.toList := by
    refine forall_mem_of_forall₂ (fun r cr ⟨hr, hcr⟩ x hx => ?_)
      ((List.forall₂_and_left _ _).mpr ⟨he, hcrs⟩)
    rcases rawTexts_compileRule hcr x hx with rfl | hx
    · exact hr.1
    · obtain ⟨n, hn, rfl⟩ := List.mem_map.mp hx
      exact hr.2 n hn
  intro x hx
  rcases List.mem_append.mp hx with hx | hx
  · -- what a state without rules emits on any input is named `inFinal`
    dsimp only at hx
    split at hx
    · rw [Option.toList_some, List.map_singleton, List.mem_singleton] at hx
      rw [hx]
      show '\n' ∉ "inFinal".toList
      decide
    · cases hx
  · obtain ⟨cr, hcr, hx⟩ := List.mem_flatMap.mp hx
    exact hrules cr (Table.mem_wildcardLast hcr) x hx

end Compiled

/-- **The lines of a listing mirror dispatch.** For a table that compiles, whose pattern sources
and notification names are each one line, the rendered text split at line feeds is the header and
then each state's block in declaration order, line for line (and an empty piece after the last
line feed); the listing has one line, and `CompiledState.blockLength` lines for each state; each
block is the state's line, then for a state without rules one line naming what it emits on any
input, or else the two lines of each rule in the order dispatch tries them and the line for other
inputs exactly when no rule is a wildcard; and a wildcard rule's lines end its block. -/
theorem listing_lines_mirror_dispatch {t : Table} {o : CompileOptions} {c : Compiled}
    (hc : t.compile o = .ok c) (hraw : c.RawOneLine) : c.ListsByLine := by
  refine ⟨Compiled.splitOn_render (Compiled.lf_not_mem_listing hc hraw), ?_,
    fun s _ => Compiled.stateLines_shows s, ?_⟩
  · rw [List.length_cons, List.length_flatMap, Nat.add_comm]
    congr 1
    exact congrArg List.sum (List.map_congr_left fun s _ => (Compiled.stateLines_shows s).length)
  · intro s hs i r hr hwild
    -- the wildcard rule is the last, and no line for other inputs follows it
    have hany : (s.rules.any fun r => r.matcher.isWildcard) = true :=
      List.any_eq_true.mpr ⟨r, List.mem_of_getElem? hr, hwild⟩
    obtain ⟨rest, hdrop, htail⟩ := Compiled.drop_stateLines hr
    rw [hdrop, htail (Compiled.eq_length_of_wildcard hc hs hr hwild), if_pos hany, List.append_nil]

/-- A table whose one state with rules has a literal, a pattern and a wildcard rule, each moving
back into that state, and a state without rules. The state with rules has the empty name, whose
label is empty, so its moves emit `update`, `staying` and `stayingIn`: its block has the three
rules' lines, the wildcard's last, and no line for other inputs. -/
theorem looping_state_listing_lines :
    let t := Table.build [("", [("coin", ""), ("/^p/", ""), ("_", "")]), ("done", [])]
    ∃ c, t.compile {} = .ok c ∧ c.RawOneLine ∧ c.ListsByLine := by
  intro t
  -- the pattern's body compiles, so no key is refused
  have hpat : (Regex.Pattern.compile "^p" false false).isOk = true := by decide +kernel
  have hkeys : t.keys = ["coin", "/^p/", "_"] := rfl
  obtain ⟨c, hc⟩ : ∃ c, t.compile {} = .ok c := by
    refine Table.exists_compile_eq_ok_iff.mpr ⟨by decide, by decide, fun k hk e hre => ?_⟩
    obtain ⟨body, flags, hshape, herr⟩ := hre
    have hsplit := Matcher.splitPattern_eq_some_iff.mpr hshape
    rw [hkeys] at hk
    simp only [List.mem_cons, List.mem_nil_iff, or_false] at hk
    rcases hk with rfl | rfl | rfl
    · rw [show splitPattern "coin" = none by decide] at hsplit
      cases hsplit
    · rw [show splitPattern "/^p/" = some ("^p", "") by decide] at hsplit
      cases hsplit
      simp only [String.contains_char_eq, String.toList_empty, List.not_mem_nil, decide_false]
        at herr
      rw [herr] at hpat
      cases hpat
    · rw [show splitPattern "_" = none by decide] at hsplit
      cases hsplit
  have hraw := Compiled.rawOneLine_of_compile hc (by decide)
  exact ⟨c, hc, hraw, listing_lines_mirror_dispatch hc hraw⟩

/-- A target with a line feed puts it into the names of the notifications of a move there, and
the listing's line of those names is split in two at each: the one state's block has five lines
by `CompiledState.blockLength`, but splitting the rendered text at line feeds does not give the
listing's lines back. -/
theorem target_with_line_feed_listing :
    let t := Table.build [("s", [("x", "a\nb")])]
    ∃ c, t.compile {} = .ok c ∧ 1 + (c.states.map (·.blockLength)).sum = 5 ∧
      c.render.toList.splitOn '\n' ≠ c.listing.map String.toList ++ [[]] := by
  intro t
  let r : CompiledRule := ⟨.literal "x", "a\nb", moveNotifications "s" "a\nb" .firstLetter false⟩
  obtain ⟨c, hc, hstates⟩ : ∃ c, t.compile {} = .ok c ∧ c.states = [⟨"s", [r], none⟩] :=
    ⟨_, rfl, rfl⟩
  refine ⟨c, hc, by rw [hstates]; decide, ?_⟩
  rw [Ne, Compiled.splitOn_render_iff]
  intro hone
  -- the rule's second line lists the names of its notifications, two of which hold a line feed
  have hmem : "      emit " ++ ", ".intercalate r.names ∈ c.listing := by
    refine List.mem_cons_of_mem _
      (List.mem_flatMap.mpr ⟨⟨"s", [r], none⟩, by simp [hstates], ?_⟩)
    exact Compiled.mem_stateLines_of_mem_ruleLines (show [r][0]? = some r from rfl) _
      (List.mem_cons_of_mem _ (List.mem_singleton_self _))
  have hne : ("s" : String) ≠ "a\nb" := by decide
  have hlf : '\n' ∈ ("      emit " ++ ", ".intercalate r.names).toList := by
    simp [r, CompiledRule.names, moveNotifications, hne, Capitalization.label, Text.capitalize]
  exact hone _ hmem hlf

end TableMachine
