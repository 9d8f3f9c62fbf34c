import TableMachine.Runner
import TableMachine.Proofs.UpdateChain
import TableMachine.Proofs.Registry
import Mathlib.Algebra.GroupWithZero.Nat

/-!
# The line runner is a fold of transitions

`Runner.run` feeds a byte stream to a machine line by line, through a loop over bytes with
counters and a collecting handler. What it does is said here without the loop:

* the lines of a stream (`Runner.inputLines`) are the pieces between line feeds (`List.splitOn`),
  less a last piece that is empty, each without one trailing carriage return;
* the inputs are the lines that are UTF-8, read as text, and the others are skipped;
* the machine takes the inputs one after another (`Machine.feed`), and what is written is, for
  each input, each notification of its step as a line of compact JSON, followed, with echo on, by
  the input with the state after it (`Runner.written`).

> `run_folds_transitions`: a run counts as inputs the lines that are UTF-8 and as skipped the
> others, ends in the state that feeding the inputs reaches, writes exactly `Runner.written`, and
> counts the notification lines written; afterwards the machine has its table and exactly the
> handlers it had before.

The byte loop keeps the bytes of the line being read, last first, as the library's
`List.splitOnPPrepend` does, so the two split alike (`Runner.splitLinesFrom_eq`). The line loop
is settled by one induction over the lines (`Runner.feed_eq`), in which a line that is not UTF-8
only counts. The collecting handler is registered before the loop and removed after it: since
every identifier a registry holds is below the next one it issues (`Listeners.IdsBelow`, true of
every registry reached by registry operations), the removal takes out that handler and nothing
else (`Listeners.off_onAny`). The handler does not change what a transition does, which reads
only the table and the state (`Runner.feed_congr`). Together these say what a run returns without
its loops (`Runner.run_fold`), and the main statement reads it off.
-/

namespace TableMachine

variable {α : Type}

/-! ## The collecting handler -/

namespace Listeners

/-- Every identifier a registry holds is below the next one it issues. -/
def IdsBelow (l : Listeners α) : Prop :=
  (∀ e ∈ l.any, e.1.val < l.nextId) ∧ ∀ name, ∀ e ∈ l.named.getD name [], e.1.val < l.nextId

theorem idsBelow_empty : ({} : Listeners α).IdsBelow := by
  refine ⟨fun _ h => (nomatch h), fun _ _ h => ?_⟩
  simp [Std.HashMap.getD_empty] at h

theorem IdsBelow.on {l : Listeners α} (h : l.IdsBelow) (name : String) (x : α) :
    (l.on name x).1.IdsBelow := by
  refine ⟨fun e he => Nat.lt_succ_of_lt (h.1 e he), fun name' e he => ?_⟩
  simp only [Listeners.on, Std.HashMap.getD_alter, beq_iff_eq] at he
  split at he
  · -- the vector of `name` gained the new registration
    rw [Option.getD_some, ← Std.HashMap.getD_eq_getD_getElem?, List.mem_append,
      List.mem_singleton] at he
    rcases he with he | rfl
    · exact Nat.lt_succ_of_lt (h.2 name e he)
    · exact Nat.lt_succ_self _
  · exact Nat.lt_succ_of_lt (h.2 name' e he)

theorem IdsBelow.onAny {l : Listeners α} (h : l.IdsBelow) (x : α) : (l.onAny x).1.IdsBelow := by
  refine ⟨fun e he => ?_, fun name e he => Nat.lt_succ_of_lt (h.2 name e he)⟩
  rcases List.mem_append.mp he with he | he
  · exact Nat.lt_succ_of_lt (h.1 e he)
  · rw [List.mem_singleton.mp he]
    exact Nat.lt_succ_self _

/-- A registry that tracks a ledger holds identifiers below the next one. -/
theorem idsBelow_of_tracks {l : Listeners α} {L : Ledger α} (ht : l.Tracks L) : l.IdsBelow := by
  -- a held identifier is a live one, below the number of registrations made
  have hlt : ∀ topic, ∀ e ∈ L.registered topic, e.1.val < l.nextId := by
    intro topic e he
    obtain ⟨r, hr, hid, -⟩ := Ledger.mem_registered_ids.mp (List.mem_map.mpr ⟨e, he, rfl⟩)
    have hlive : L.live.any (·.id = ⟨r.id.val⟩) = true := List.any_eq_true.mpr ⟨r, hr, by simp⟩
    rw [Ledger.any_live_id] at hlive
    rw [ht.nextId_eq, ← hid]
    exact (of_decide_eq_true hlive).1
  exact ⟨fun e he => hlt none e (ht.any_eq ▸ he),
    fun name e he => hlt (some name) e (ht.named_eq name ▸ he)⟩

/-- A vector ending in the only registration of an identifier loses exactly that one. -/
theorem removeFirst_concat {id : ListenerId} {h : α} :
    ∀ {v : List (ListenerId × α)}, id ∉ v.map (·.1) → removeFirst (v ++ [(id, h)]) id = some v
  | [], _ => by simp [removeFirst]
  | x :: v, hv => by
    rw [List.map_cons, List.mem_cons, not_or] at hv
    have ih := removeFirst_concat (h := h) hv.2
    unfold removeFirst at ih ⊢
    obtain ⟨i, hi, hrem⟩ := Option.map_eq_some_iff.mp ih
    rw [List.cons_append, List.findIdx?_cons, if_neg (by simpa [eq_comm] using hv.1), hi]
    simp [hrem]

/-- Registering a catch-all handler and removing it by its identifier leaves the registrations as
they were, the counter moved on by one, when every identifier held is below the next one. -/
theorem off_onAny {l : Listeners α} (h : l.IdsBelow) (sink : α) :
    ((l.onAny sink).1.off (l.onAny sink).2).1 = { l with nextId := l.nextId + 1 } := by
  -- the new identifier is no catch-all handler's yet
  have hfresh : (⟨l.nextId⟩ : ListenerId) ∉ l.any.map (·.1) := fun hm => by
    obtain ⟨e, he, hid⟩ := List.mem_map.mp hm
    exact Nat.lt_irrefl _ (hid ▸ h.1 e he)
  simp [onAny, off, removeFirst_concat hfresh]

/-- A catch-all handler registered under a fresh identifier receives every notification once. -/
theorem deliveredTo_onAny {l : Listeners α} (h : l.IdsBelow) (sink : α) (ns : List Notification) :
    (l.onAny sink).1.deliveredTo (l.onAny sink).2 ns = ns := by
  -- no registration held before has the new identifier
  have hnamed : ∀ name, (l.named.getD name []).filter (·.1 = (l.onAny sink).2) = [] := fun name =>
    List.filter_eq_nil_iff.mpr fun e he hid =>
      Nat.lt_irrefl _ (of_decide_eq_true hid ▸ h.2 name e he)
  have hany : l.any.filter (·.1 = (l.onAny sink).2) = [] :=
    List.filter_eq_nil_iff.mpr fun e he hid => Nat.lt_irrefl _ (of_decide_eq_true hid ▸ h.1 e he)
  have hone : ∀ n : Notification,
      ((l.onAny sink).1.registrationsFor n).filter (·.1 = (l.onAny sink).2) =
        [(⟨l.nextId⟩, sink)] := by
    intro n
    have hreg : (l.onAny sink).1.registrationsFor n =
        l.named.getD n.name [] ++ (l.any ++ [((l.onAny sink).2, sink)]) := rfl
    rw [hreg, List.filter_append, List.filter_append, hnamed, hany]
    simp [onAny]
  simp only [deliveredTo, hone, List.map_cons, List.map_nil]
  exact List.flatMap_singleton' ns

end Listeners

/-! ## Lines -/

namespace Runner

/-- A list of pieces without its last piece, when that one is empty. -/
def withoutEmptyLast (ps : List (List UInt8)) : List (List UInt8) :=
  if ps.getLast? = some [] then ps.dropLast else ps

/-- The lines of a byte stream: the stream cut at every line feed, the line feeds dropped, a last
piece that is empty left out, and one trailing carriage return cut off each line. -/
def inputLines (bs : List UInt8) : List (List UInt8) :=
  (withoutEmptyLast (bs.splitOn 10)).map (dropSuffix 13)

theorem withoutEmptyLast_cons (p : List UInt8) {ps : List (List UInt8)} (h : ps ≠ []) :
    withoutEmptyLast (p :: ps) = p :: withoutEmptyLast ps := by
  obtain ⟨q, qs, rfl⟩ := List.exists_cons_of_ne_nil h
  unfold withoutEmptyLast
  rw [List.getLast?_cons_cons]
  split
  · rw [List.dropLast_cons_cons]
  · rfl

/-- The bytes of an unfinished line, which hold no line feed, have none at their end either. -/
theorem dropSuffix_reverse {cur : List UInt8} (h : (10 : UInt8) ∉ cur) :
    dropSuffix 10 cur.reverse = cur.reverse := by
  rw [dropSuffix, if_neg]
  rw [List.getLast?_reverse]
  intro hhead
  exact h (List.mem_of_head? hhead)

/-- Splitting at line feeds, with the unfinished line `cur` kept last first, cuts where the
library's split does. -/
theorem splitLinesFrom_eq : ∀ (bs cur : List UInt8), (10 : UInt8) ∉ cur →
    (splitLinesFrom cur bs).map (dropSuffix 10) =
      withoutEmptyLast (bs.splitOnPPrepend (· == 10) cur)
  | [], cur, h => by
    cases cur with
    | nil => rfl
    | cons b cur =>
      -- a last piece that is not empty is a line
      rw [splitLinesFrom, if_neg (by simp), List.map_singleton, dropSuffix_reverse h,
        List.splitOnPPrepend_nil]
      simp [withoutEmptyLast]
  | b :: rest, cur, h => by
    by_cases hb : b = 10
    · -- a line feed ends the line being read
      subst hb
      rw [splitLinesFrom, if_pos rfl, List.map_cons, splitLinesFrom_eq rest [] (by simp),
        List.splitOnPPrepend_nil_right, List.splitOnPPrepend_cons_pos (by simp),
        withoutEmptyLast_cons _ (List.splitOnP_ne_nil _ _)]
      congr 1
      rw [dropSuffix, List.reverse_cons, List.getLast?_concat, if_pos rfl, List.dropLast_concat]
    · rw [splitLinesFrom, if_neg hb, splitLinesFrom_eq rest (b :: cur) (by simp [Ne.symm hb, h]),
        List.splitOnPPrepend_cons_neg (by simpa using hb)]

/-- The runner's lines are the lines of the stream. -/
theorem lines_eq (bs : List UInt8) : (splitLines bs).map lineBytes = inputLines bs := by
  rw [inputLines, List.splitOn, List.splitOnP_eq_splitOnPPrepend,
    ← splitLinesFrom_eq bs [] (by simp), List.map_map]
  rfl

example : inputLines [99, 13, 10, 255, 10, 10, 112] = [[99], [255], [], [112]] := by decide

/-! ## What is written -/

/-- Notifications written one a line, as compact JSON. -/
def noteLines (ns : List Notification) : String :=
  String.join (ns.map fun n => n.toJson.compact ++ "\n")

/-- What the runner writes for inputs fed one after another from machine `m`: for each input, each
notification of its step as a line of compact JSON, then, with `echoState`, the input with the
state after it. -/
def written (echoState : Bool) (m : Machine α) : List String → String
  | [] => ""
  | x :: xs =>
    noteLines (m.transition x).2.1.notifications ++
      (if echoState then echoLine x (m.transition x).1.state else "") ++
      written echoState (m.transition x).1 xs

/-- The number of notifications of the steps of inputs fed one after another from `m`. -/
def noteCount (m : Machine α) (xs : List String) : Nat :=
  ((m.trace xs).map fun r => r.2.1.notifications.length).sum

/-- The inputs of some lines: those that are UTF-8, read as text. -/
def inputs (lines : List (List UInt8)) : List String :=
  lines.filterMap fun l => (Text.decode l).toOption

/-- Whether a line is skipped: it is not UTF-8. -/
def isSkipped (l : List UInt8) : Bool := (Text.decode l).toOption.isNone

theorem inputs_cons_error {l : List UInt8} {e : Text.Utf8Error} (h : Text.decode l = .error e)
    (ls : List (List UInt8)) : inputs (l :: ls) = inputs ls := by
  simp only [inputs, List.filterMap_cons, h]
  rfl

theorem inputs_cons_ok {l : List UInt8} {x : String} (h : Text.decode l = .ok x)
    (ls : List (List UInt8)) : inputs (l :: ls) = x :: inputs ls := by
  simp only [inputs, List.filterMap_cons, h]
  rfl

theorem isSkipped_of_error {l : List UInt8} {e : Text.Utf8Error} (h : Text.decode l = .error e) :
    isSkipped l = true := by
  rw [isSkipped, h]
  rfl

theorem isSkipped_of_ok {l : List UInt8} {x : String} (h : Text.decode l = .ok x) :
    isSkipped l = false := by
  rw [isSkipped, h]
  rfl

/-! ## The line loop -/

/-- Feeding lines, with a collecting handler that receives every notification once: the machine
takes their inputs one after another, what their steps write is appended, and the inputs, the
skipped lines and the notifications written are counted. -/
theorem feed_eq (echo : Bool) (sink : ListenerId) : ∀ (lines : List (List UInt8)) (M : Machine α)
    (lineNo : Nat) (out : String) (i s w : Nat) (events : List LineEvent),
    (∀ ns, M.listeners.deliveredTo sink ns = ns) →
    (feed echo sink M lineNo out (i, s, w) events lines).1 = M.feed (inputs (lines.map lineBytes)) ∧
    (feed echo sink M lineNo out (i, s, w) events lines).2.1 =
      out ++ written echo M (inputs (lines.map lineBytes)) ∧
    (feed echo sink M lineNo out (i, s, w) events lines).2.2.1 =
      (i + (inputs (lines.map lineBytes)).length, s + (lines.map lineBytes).countP isSkipped,
        w + noteCount M (inputs (lines.map lineBytes)))
  | [], M, _, out, i, s, w, _, _ => by
    simp [feed, inputs, written, noteCount, Machine.feed, Machine.trace]
  | line :: rest, M, lineNo, out, i, s, w, events, hsink => by
    cases hd : Text.decode (lineBytes line) with
    | error e =>
      -- a line that is not UTF-8 is counted and leaves everything else as it was
      obtain ⟨h1, h2, h3⟩ :=
        feed_eq echo sink rest M (lineNo + 1) out i (s + 1) w (.skipped lineNo e :: events) hsink
      simp only [feed, hd]
      rw [List.map_cons, inputs_cons_error hd]
      refine ⟨h1, h2, ?_⟩
      rw [h3, List.countP_cons, isSkipped_of_error hd, if_pos rfl]
      simp only [Prod.mk.injEq, true_and, and_true]
      omega
    | ok x =>
      -- an input: one transition, what the handler received of it (all its notifications), its
      -- text, and the rest from the machine after it, whose handlers are the same
      obtain ⟨h1, h2, h3⟩ := feed_eq echo sink rest (M.transition x).1 (lineNo + 1)
        (out ++ String.join ((M.transition x).2.1.notifications.map
            fun n => n.toJson.compact ++ "\n") ++
          (if echo then echoLine x (M.transition x).1.state else ""))
        (i + 1) s (w + (M.transition x).2.1.notifications.length)
        (.fed lineNo x M.state (M.transition x).2.1 :: events)
        (by simpa only [Machine.transition_listeners] using hsink)
      simp only [feed, hd, hsink]
      rw [List.map_cons, inputs_cons_ok hd]
      refine ⟨h1, ?_, ?_⟩
      · rw [h2, written, noteLines]
        simp only [String.append_assoc]
      · rw [h3, List.countP_cons, isSkipped_of_ok hd, noteCount, noteCount, Machine.trace]
        simp only [List.map_cons, List.sum_cons, List.length_cons, Bool.false_eq_true, if_false,
          Nat.add_zero, Prod.mk.injEq, true_and]
        omega

/-- What inputs do reads only the table and the state, not the handlers. -/
theorem feed_congr (echo : Bool) : ∀ (xs : List String) {M m : Machine α},
    M.table = m.table → M.state = m.state →
    (M.feed xs).state = (m.feed xs).state ∧ written echo M xs = written echo m xs ∧
      noteCount M xs = noteCount m xs
  | [], _, _, _, hs => ⟨hs, rfl, rfl⟩
  | x :: xs, M, m, ht, hs => by
    have hstep : (M.transition x).2.1 = (m.transition x).2.1 := by
      simp [Machine.transition, ht, hs]
    have hstate : (M.transition x).1.state = (m.transition x).1.state := by
      simp [Machine.transition, ht, hs]
    obtain ⟨h1, h2, h3⟩ := feed_congr echo xs (M := (M.transition x).1) (m := (m.transition x).1)
      (by simp [ht]) hstate
    refine ⟨h1, ?_, ?_⟩
    · simp [written, hstep, hstate, h2]
    · simp only [noteCount, Machine.trace, List.map_cons, List.sum_cons] at h3 ⊢
      rw [hstep, h3]

end Runner

theorem Machine.feed_listeners (m : Machine α) (xs : List String) :
    (m.feed xs).listeners = m.listeners := by
  induction xs generalizing m with
  | nil => rfl
  | cons x xs ih => rw [Machine.feed_cons, ih, Machine.transition_listeners]

namespace Runner

/-- The number of lines that are inputs and the number skipped add up to the number of lines. -/
theorem length_inputs_add_countP_isSkipped :
    ∀ ls : List (List UInt8), (inputs ls).length + ls.countP isSkipped = ls.length
  | [] => rfl
  | l :: ls => by
    have ih := length_inputs_add_countP_isSkipped ls
    cases hd : Text.decode l with
    | error e =>
      rw [inputs_cons_error hd, List.countP_cons, isSkipped_of_error hd, if_pos rfl, List.length_cons]
      omega
    | ok x =>
      rw [inputs_cons_ok hd, List.countP_cons, isSkipped_of_ok hd, List.length_cons, List.length_cons]
      simp only [Bool.false_eq_true, if_false]
      omega

/-- A run, its tuple patterns read as projections. -/
theorem run_eq (m : Machine α) (sink : α) (bytes : List UInt8) (echo : Bool) :
    run m sink bytes echo =
      let f := feed echo (m.onAny sink).2 (m.onAny sink).1 1 "" (0, 0, 0) [] (splitLines bytes)
      let m' := (f.1.off (m.onAny sink).2).1
      ⟨m', f.2.1, ⟨f.2.2.1.1, f.2.2.1.2.1, f.2.2.1.2.2, m'.state⟩, f.2.2.2⟩ := rfl

/-- A run without its loops: the machine after it is the machine fed the inputs, with the
registry that registering the collecting handler and removing it leave; what it writes and its
totals are those of the inputs. -/
theorem run_fold (m : Machine α) (hm : m.listeners.IdsBelow) (sink : α) (bytes : List UInt8)
    (echo : Bool) :
    (run m sink bytes echo).machine =
      { m.feed (inputs (inputLines bytes)) with
        listeners := ((m.listeners.onAny sink).1.off (m.listeners.onAny sink).2).1 } ∧
    (run m sink bytes echo).output = written echo m (inputs (inputLines bytes)) ∧
    (run m sink bytes echo).summary = ⟨(inputs (inputLines bytes)).length,
      (inputLines bytes).countP isSkipped, noteCount m (inputs (inputLines bytes)),
      (m.feed (inputs (inputLines bytes))).state⟩ := by
  -- the collecting handler receives every notification once
  obtain ⟨hfed, hout, hcounts⟩ :=
    feed_eq echo (m.onAny sink).2 (splitLines bytes) (m.onAny sink).1 1 "" 0 0 0 []
      (Listeners.deliveredTo_onAny hm sink)
  rw [lines_eq] at hfed hout hcounts
  -- the collecting handler changes neither what is fed nor what is written
  obtain ⟨hstate, hwritten, hnotes⟩ :=
    feed_congr echo (inputs (inputLines bytes)) (M := (m.onAny sink).1) (m := m) rfl rfl
  have hmachine : ((feed echo (m.onAny sink).2 (m.onAny sink).1 1 "" (0, 0, 0) []
      (splitLines bytes)).1.off (m.onAny sink).2).1 = { m.feed (inputs (inputLines bytes)) with
        listeners := ((m.listeners.onAny sink).1.off (m.listeners.onAny sink).2).1 } := by
    rw [hfed]
    show Machine.mk _ _ (((m.onAny sink).1.feed _).listeners.off _).1 = Machine.mk _ _ _
    rw [Machine.feed_table, Machine.feed_table, hstate, Machine.feed_listeners]
    rfl
  simp only [run_eq]
  refine ⟨hmachine, ?_, ?_⟩
  · rw [hout, hwritten, String.empty_append]
  · simp only [hcounts, hnotes, hmachine, Nat.zero_add]

/-- **The runner is a fold of transitions.** A run counts as inputs the lines of the stream that
are UTF-8 and as skipped the others; it leaves the table as it was and ends in the state that
feeding the inputs one after another reaches; it writes, for each input, each notification of its
step as a line of compact JSON and, with echo on, the input with the state after it; it counts the
notification lines written and reports the state it ends in. Afterwards the machine holds exactly
the registrations it held before, each name's vector and the catch-all vector as they were, its
counter moved on by the one identifier the run used, when the registry it starts with holds
identifiers below the next one, as every registry reached by registering and removing handlers
does (`Listeners.idsBelow_of_tracks`). -/
theorem run_folds_transitions (m : Machine α) (hm : m.listeners.IdsBelow) (sink : α)
    (bytes : List UInt8) (echo : Bool) :
    let r := run m sink bytes echo
    let xs := inputs (inputLines bytes)
    r.summary.inputs = xs.length ∧
    r.summary.skipped = (inputLines bytes).countP isSkipped ∧
    r.summary.inputs + r.summary.skipped = (inputLines bytes).length ∧
    r.machine.table = m.table ∧
    r.machine.state = (m.feed xs).state ∧
    r.output = written echo m xs ∧
    r.summary.notifications = noteCount m xs ∧
    r.summary.finalState = r.machine.state ∧
    r.machine.listeners = { m.listeners with nextId := m.listeners.nextId + 1 } := by
  intro r xs
  obtain ⟨hmachine, hout, hsummary⟩ := run_fold m hm sink bytes echo
  refine ⟨congrArg RunSummary.inputs hsummary, congrArg RunSummary.skipped hsummary, ?_,
    (congrArg Machine.table hmachine).trans (Machine.feed_table m xs),
    (congrArg Machine.state hmachine).trans rfl, hout, congrArg RunSummary.notifications hsummary,
    (congrArg RunSummary.finalState hsummary).trans (congrArg Machine.state hmachine).symm, ?_⟩
  · rw [congrArg RunSummary.inputs hsummary, congrArg RunSummary.skipped hsummary]
    exact length_inputs_add_countP_isSkipped _
  · -- the run takes out the handler it put in, and nothing else
    rw [congrArg Machine.listeners hmachine]
    exact Listeners.off_onAny hm sink

/-- A turnstile machine with two handlers of its own, one for `update` and one catch-all, run
over two inputs (the first ended by a carriage return and a line feed, the last by nothing) around
a line that is not UTF-8. -/
theorem turnstile_run_folds_transitions :
    ∃ c, (Table.build [("locked", [("coin", "unlocked"), ("push", "locked")]),
        ("unlocked", [("push", "locked"), ("coin", "unlocked")])]).compile {} = .ok c ∧
      let m : Machine String := (((Machine.new c).on "update" "named").1.onAny "log").1
      let bytes : List UInt8 := [99, 111, 105, 110, 13, 10, 255, 10, 112, 117, 115, 104]
      m.listeners.IdsBelow ∧
      let r := run m "sink" bytes true
      let xs := inputs (inputLines bytes)
      r.summary.inputs = xs.length ∧
      r.summary.skipped = (inputLines bytes).countP isSkipped ∧
      r.summary.inputs + r.summary.skipped = (inputLines bytes).length ∧
      r.machine.table = m.table ∧
      r.machine.state = (m.feed xs).state ∧
      r.output = written true m xs ∧
      r.summary.notifications = noteCount m xs ∧
      r.summary.finalState = r.machine.state ∧
      r.machine.listeners = { m.listeners with nextId := m.listeners.nextId + 1 } := by
  refine ⟨_, rfl, ?_⟩
  intro m bytes
  have hm : m.listeners.IdsBelow := (Listeners.idsBelow_empty.on "update" "named").onAny "log"
  exact ⟨hm, run_folds_transitions m hm "sink" bytes true⟩

end Runner

end TableMachine
