import TableMachine.Proofs.Runner
import TableMachine.Proofs.UpdateChain

/-!
# How a run over failing streams leaves the registry

`Runner.runOn` runs a machine over any reader and writer. It registers a collecting handler
before its loop and removes it after the final flush; a read, a write or the flush that fails
returns its error at once, before the removal. So the registry a run leaves depends on how the
run ends:

> `runOn_handlers_on_exit`: a run that ends well leaves the machine with exactly the
> registrations it had, only its counter moved on; a run that ends with an error leaves the
> collecting handler registered too, the last catch-all handler, under the identifier after the
> others.

A run that ends with an error is no rare path: the first read may fail
(`failed_read_keeps_handler`), and the handler then stays and keeps collecting.

Whatever happens in the loop, the machine only takes inputs (`Runner.feedOn_fed`), which leave
its registry alone; the one registry change after the loop is the removal, done only when the
flush succeeds, and it takes out the collecting handler and nothing else (`Listeners.off_onAny`).

Over streams held in memory nothing fails, and the run is `Runner.run`, the runner whose
output the line runner's other statements describe (`Runner.runOn_textWriter`).
-/

namespace TableMachine

namespace Runner

variable {α ω ε : Type}

/-! ## The loop only feeds inputs -/

/-- However a loop over streams ends, its machine is the machine fed the inputs read until
then. -/
theorem feedOn_fed (w : Writer ω ε) (echo : Bool) (sink : ListenerId) (m : Machine α)
    (lineNo : Nat) (out : ω) (counts : Nat × Nat × Nat) (events : List LineEvent)
    (reads : Reads ε) :
    ∃ xs, (feedOn w echo sink m lineNo out counts events reads).1 = m.feed xs := by
  fun_induction feedOn w echo sink m lineNo out counts events reads with
  | case1 | case2 | case3 => exact ⟨[], rfl⟩
  | case4 _ _ _ _ _ _ _ _ _ _ _ _ ih => exact ih
  | case5 m _ _ _ _ _ _ _ _ _ input _ _ m' _ _ htr =>
    -- the input was fed, then a write failed
    refine ⟨[input], ?_⟩
    rw [Machine.feed_cons, htr]
    rfl
  | case6 m _ _ _ _ _ _ _ _ _ input _ _ m' _ _ htr _ _ _ _ ih =>
    obtain ⟨xs, hxs⟩ := ih
    refine ⟨input :: xs, ?_⟩
    rw [Machine.feed_cons, htr]
    exact hxs

/-! ## The registry at every exit -/

/-- A run over streams ends in one of two ways: with an error, leaving the machine the loop left,
or well, with the collecting handler removed from it. -/
theorem runOn_exits (w : Writer ω ε) (m : Machine α) (sink : α) (reads : Reads ε) (out : ω)
    (echo : Bool) :
    let r := runOn w m sink reads out echo
    let looped := (feedOn w echo (m.onAny sink).2 (m.onAny sink).1 1 out (0, 0, 0) [] reads).1
    (r.result.isOk = false ∧ r.machine = looped) ∨
      (r.result.isOk = true ∧ r.machine = (looped.off (m.onAny sink).2).1) := by
  simp only [runOn]
  split
  · -- a read or a write failed
    rename_i hloop
    exact .inl ⟨rfl, by rw [hloop]⟩
  · rename_i hloop
    split
    · -- the flush failed
      exact .inl ⟨rfl, by rw [hloop]⟩
    · exact .inr ⟨rfl, by rw [hloop]⟩

/-- A run over streams keeps the collecting handler registered until it ends, and removes it
only when it ends well. -/
theorem runOn_handlers_on_exit (w : Writer ω ε) {m : Machine α} (hm : m.listeners.IdsBelow)
    (sink : α) (reads : Reads ε) (out : ω) (echo : Bool) :
    (runOn w m sink reads out echo).machine.listeners =
      if (runOn w m sink reads out echo).result.isOk then
        { m.listeners with nextId := m.listeners.nextId + 1 }
      else
        { m.listeners with
          any := m.listeners.any ++ [(⟨m.listeners.nextId⟩, sink)]
          nextId := m.listeners.nextId + 1 } := by
  -- during the loop the registry is the one with the collecting handler added
  have hduring : (feedOn w echo (m.onAny sink).2 (m.onAny sink).1 1 out (0, 0, 0) []
      reads).1.listeners = (m.listeners.onAny sink).1 := by
    obtain ⟨xs, hfed⟩ := feedOn_fed w echo (m.onAny sink).2 (m.onAny sink).1 1 out (0, 0, 0) [] reads
    rw [hfed, Machine.feed_listeners]
    rfl
  rcases runOn_exits w m sink reads out echo with ⟨hfail, hmachine⟩ | ⟨hok, hmachine⟩
  · -- the run ended with an error: the handler stays
    rw [hfail, if_neg Bool.false_ne_true, hmachine, hduring]
    rfl
  · -- the run ended well: the removal takes out exactly the collecting handler
    rw [hok, if_pos rfl, hmachine, Machine.off, hduring]
    exact Listeners.off_onAny hm sink

/-- A writer into a text, which never fails. -/
def textWriter (ε : Type) : Writer String ε := ⟨fun s t => .ok (s ++ t), fun s => .ok s⟩

/-- A turnstile machine with a handler for `update` and a catch-all handler, run over a stream
that reads one line and then fails: the run ends with the error, and the machine keeps the
collecting handler after its own. -/
theorem turnstile_handlers_on_exit :
    let t := Table.build [("locked", [("coin", "unlocked"), ("push", "locked")]),
      ("unlocked", [("push", "locked"), ("coin", "unlocked")])]
    ∃ c, t.compile {} = .ok c ∧
      let m : Machine Unit := (((Machine.new c).on "update" ()).1.onAny ()).1
      m.listeners.IdsBelow ∧
      let r := runOn (textWriter Unit) m () [.ok (Text.encode "coin\n"), .error ()] "" false
      r.machine.listeners =
        if r.result.isOk then { m.listeners with nextId := m.listeners.nextId + 1 }
        else
          { m.listeners with
            any := m.listeners.any ++ [(⟨m.listeners.nextId⟩, ())]
            nextId := m.listeners.nextId + 1 } := by
  refine ⟨_, rfl, ?_⟩
  intro m
  have hm : m.listeners.IdsBelow := (Listeners.idsBelow_empty.on "update" ()).onAny ()
  exact ⟨hm, runOn_handlers_on_exit (textWriter Unit) hm () _ "" false⟩

/-- A read that fails at once: the run ends with the error, and the machine, which had no
handler before the run, has one after it. -/
theorem failed_read_keeps_handler :
    let t := Table.build [("locked", [("coin", "unlocked"), ("push", "locked")]),
      ("unlocked", [("push", "locked"), ("coin", "unlocked")])]
    ∃ c, t.compile {} = .ok c ∧
      let r := runOn (textWriter Unit) (Machine.new c : Machine Unit) () [.error ()] "" false
      r.result = .error () ∧ (Machine.new c : Machine Unit).handlerCount = 0 ∧
        r.machine.handlerCount = 1 := by
  refine ⟨_, rfl, rfl, ?_, ?_⟩
  · simp [Machine.handlerCount, Machine.new, Listeners.size, Std.HashMap.fold_eq_foldl_toList]
  · simp [runOn, feedOn, Machine.handlerCount, Machine.onAny, Machine.new, Listeners.onAny,
      Listeners.size, Std.HashMap.fold_eq_foldl_toList]

/-! ## Streams held in memory -/

theorem writeAll_textWriter (out : String) :
    ∀ ts : List String, (textWriter ε).writeAll out ts = (out ++ String.join ts, none)
  | [] => by simp [Writer.writeAll]
  | t :: ts => by
    rw [Writer.writeAll, show (textWriter ε).write out t = .ok (out ++ t) from rfl]
    simp only [writeAll_textWriter (out ++ t) ts, String.join_cons, String.append_assoc]

/-- What is written for an input, as one text: its notification lines, then the echo. -/
theorem join_textsFor (echo : Bool) (notes : List Notification) (input state : String) :
    String.join (textsFor echo notes input state) =
      noteLines notes ++ if echo then echoLine input state else "" := by
  have hnotes : ∀ ns : List Notification,
      String.join (ns.flatMap fun n => [n.toJson.compact, "\n"]) = noteLines ns := by
    intro ns
    induction ns with
    | nil => rfl
    | cons n ns ih =>
      rw [List.flatMap_cons, String.join_append, ih, noteLines, noteLines, List.map_cons,
        String.join_cons]
      simp [String.append_assoc]
  rw [textsFor, String.join_append, hnotes]
  cases echo <;> simp [echoLine]

/-- The lines the runner splits a stream into are never empty. -/
theorem ne_nil_of_mem_splitLinesFrom :
    ∀ (bs cur : List UInt8), ∀ l ∈ splitLinesFrom cur bs, l ≠ []
  | [], cur, l, hl => by
    rw [splitLinesFrom] at hl
    split at hl
    · cases hl
    · next hcur =>
      rw [List.mem_singleton] at hl
      subst hl
      simpa using hcur
  | b :: rest, cur, l, hl => by
    rw [splitLinesFrom] at hl
    split at hl
    · rcases List.mem_cons.mp hl with rfl | hl
      · simp
      · exact ne_nil_of_mem_splitLinesFrom rest [] l hl
    · exact ne_nil_of_mem_splitLinesFrom rest (b :: cur) l hl

/-- Over lines that are read one by one and written to a text, the loop over streams is the line
loop, and ends well. -/
theorem feedOn_textWriter (echo : Bool) (sink : ListenerId) :
    ∀ (lines : List (List UInt8)), (∀ l ∈ lines, l ≠ []) →
    ∀ (m : Machine α) (lineNo : Nat) (out : String) (counts : Nat × Nat × Nat)
      (events : List LineEvent),
    let f := feed echo sink m lineNo out counts events lines
    feedOn (textWriter ε) echo sink m lineNo out counts events (lines.map .ok) =
      (f.1, f.2.1, f.2.2.2, .ok f.2.2.1)
  | [], _, _, _, _, _, _ => rfl
  | [] :: _, hne, _, _, _, _, _ => absurd rfl (hne [] List.mem_cons_self)
  | (b :: bs) :: rest, hne, m, lineNo, out, (i, s, n), events => by
    have ih := feedOn_textWriter echo sink rest fun l hl => hne l (List.mem_cons_of_mem _ hl)
    rw [List.map_cons, feedOn, feed]
    cases Text.decode (lineBytes (b :: bs)) with
    | error err => exact ih _ _ _ _ _
    | ok input =>
      dsimp only
      rw [writeAll_textWriter, join_textsFor]
      dsimp only
      rw [ih]
      simp only [noteLines, String.append_assoc]

/-- Over a stream held in memory and a text to write to, nothing fails: the run over streams is
the line runner's run. -/
theorem runOn_textWriter (m : Machine α) (sink : α) (bytes : List UInt8) (echo : Bool) :
    runOn (textWriter ε) m sink ((splitLines bytes).map .ok) "" echo =
      ⟨(run m sink bytes echo).machine, (run m sink bytes echo).output,
        (run m sink bytes echo).events, .ok (run m sink bytes echo).summary⟩ := by
  simp only [runOn, run_eq]
  rw [feedOn_textWriter echo _ (splitLines bytes) (ne_nil_of_mem_splitLinesFrom bytes [])]
  rfl

end Runner

end TableMachine
