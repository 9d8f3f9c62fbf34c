import TableMachine.Tool.Commands
import TableMachine.Proofs.Runner
import TableMachine.Proofs.Utf8

/-!
# The `run` command and the line runner agree

The tool's `run` command feeds a list of inputs to a machine and, with `--json`, builds one line
of compact JSON for each notification of each step, and joins the lines with line feeds
(`Tool.runText`). The line runner reads its inputs from a byte stream instead. Given the inputs as
UTF-8, each ended by a line feed, the runner on the command's machine writes the same lines:

> `runner_agrees_with_run_command`: for inputs that hold no line feed and do not end in a carriage
> return, the runner with echo off writes each of the command's JSON lines followed by a line
> feed, counts every input and skips none, and ends in the state the command's machine ends in.

The lines of such a stream are the inputs' bytes (`Runner.inputLines_terminated`): the split is
the library's, and an input's bytes hold no line feed and do not end in a carriage return
(`Text.lineFeed_not_mem_encode`, `Text.getLast?_encode`). They read back as the inputs
(`Text.decode_encode`). The command's loop `Tool.feedAll` is a fold of transitions too, and what
the runner writes for it is its JSON lines (`Tool.written_feedAll`).
-/

namespace TableMachine

namespace Text

theorem encode_join : ∀ ss : List String, encode (String.join ss) = ss.flatMap encode
  | [] => by simp [encode_eq]
  | s :: ss => by rw [String.join_cons, encode_append, encode_join ss, List.flatMap_cons]

/-- Texts each ended by a line feed are, as bytes, their bytes each ended by a line feed. -/
theorem encode_join_lines (xs : List String) :
    encode (String.join (xs.map (· ++ "\n"))) = (xs.map encode).flatMap (· ++ [10]) := by
  have hlf : encode "\n" = [10] := by rw [encode_eq]; rfl
  rw [encode_join, List.flatMap_map, List.flatMap_map]
  simp only [encode_append, hlf]

end Text

/-- Pieces that do not hold a separator, each ended by it, split at the separator into
themselves and an empty last piece. -/
theorem splitOn_flatMap_terminated {α : Type} [BEq α] [LawfulBEq α] (x : α) (ls : List (List α))
    (h : ∀ l ∈ ls, x ∉ l) : (ls.flatMap (· ++ [x])).splitOn x = ls ++ [[]] := by
  -- ending every piece by the separator is putting it between the pieces and an empty last one
  have hjoin : ∀ ls : List (List α), ls.flatMap (· ++ [x]) = [x].intercalate (ls ++ [[]]) := by
    intro ls
    induction ls with
    | nil => rfl
    | cons l ls ih =>
      rw [List.flatMap_cons, ih, List.cons_append, List.intercalate_cons_of_ne_nil (by simp)]
  have hpieces : ∀ l ∈ ls ++ [[]], x ∉ l := by
    intro l hl
    rcases List.mem_append.mp hl with hl | hl
    · exact h l hl
    · rw [List.mem_singleton.mp hl]
      exact List.not_mem_nil
  rw [hjoin]
  exact List.splitOn_intercalate x hpieces (by simp)

namespace Runner

/-- Lines that hold no line feed, each ended by one, split at line feeds into themselves and an
empty last piece. -/
theorem splitOn_terminated (ls : List (List UInt8)) (h : ∀ l ∈ ls, (10 : UInt8) ∉ l) :
    (ls.flatMap (· ++ [10])).splitOn 10 = ls ++ [[]] :=
  splitOn_flatMap_terminated 10 ls h

theorem withoutEmptyLast_concat_nil (ls : List (List UInt8)) : withoutEmptyLast (ls ++ [[]]) = ls := by
  rw [withoutEmptyLast, List.getLast?_concat, if_pos rfl, List.dropLast_concat]

/-- The lines of a stream of lines each ended by a line feed, none holding a line feed or ending in
a carriage return, are those lines. -/
theorem inputLines_terminated {ls : List (List UInt8)}
    (h : ∀ l ∈ ls, (10 : UInt8) ∉ l ∧ l.getLast? ≠ some 13) :
    inputLines (ls.flatMap (· ++ [10])) = ls := by
  rw [inputLines, splitOn_terminated ls (fun l hl => (h l hl).1), withoutEmptyLast_concat_nil]
  -- no carriage return is cut off
  have hkeep : ∀ l ∈ ls, dropSuffix 13 l = l := fun l hl => by rw [dropSuffix, if_neg (h l hl).2]
  rw [List.map_congr_left hkeep, List.map_id']

/-- The bytes of texts are all UTF-8, and read back as the texts. -/
theorem inputs_encode (xs : List String) : inputs (xs.map Text.encode) = xs := by
  simp only [inputs, List.filterMap_map, Function.comp_def, Text.decode_encode]
  exact List.filterMap_some

theorem countP_isSkipped_encode (xs : List String) : (xs.map Text.encode).countP isSkipped = 0 := by
  rw [List.countP_eq_zero]
  intro l hl
  obtain ⟨x, -, rfl⟩ := List.mem_map.mp hl
  rw [isSkipped_of_ok (Text.decode_encode x)]
  exact Bool.false_ne_true

end Runner

namespace Tool

/-- The command starts with a machine without handlers. -/
theorem newMachine_listeners (c : Compiled) (initial : Option String) :
    (newMachine c initial).1.listeners = {} := by
  cases initial <;> rfl

/-- The command's loop ends where feeding the inputs one after another ends. -/
theorem feedAll_machine (m : Machine Unit) : ∀ xs, (feedAll m xs).1 = m.feed xs
  | [] => rfl
  | x :: xs => feedAll_machine (m.transition x).1 xs

/-- What the runner writes with echo off, for the inputs of the command's loop on a machine whose
one handler is a catch-all, is the loop's JSON lines, each followed by a line feed: the handler
captures each notification of each step once. -/
theorem written_feedAll (m : Machine Unit) (hm : m.listeners = (({} : Listeners Unit).onAny ()).1) :
    ∀ xs, Runner.written false m xs = String.join
      (((feedAll m xs).2.1.flatMap fun (_, _, _, ns) => ns.map fun n => n.toJson.compact).map
        (· ++ "\n"))
  | [] => rfl
  | x :: xs => by
    have hnext : (m.transition x).1.listeners = (({} : Listeners Unit).onAny ()).1 := by
      rw [Machine.transition_listeners, hm]
    rw [Runner.written, written_feedAll (m.transition x).1 hnext xs]
    show _ = String.join ((((x, m.state, (m.transition x).1.state,
      (Machine.calls m.listeners (m.transition x).2.1.notifications).map (·.2)) ::
        (feedAll (m.transition x).1 xs).2.1).flatMap
          fun (_, _, _, ns) => ns.map fun n => n.toJson.compact).map (· ++ "\n"))
    rw [hm, Machine.calls_onAny_empty_snd, List.flatMap_cons, List.map_append, String.join_append,
      Runner.noteLines, List.map_map]
    simp only [Bool.false_eq_true, if_false, String.append_empty]
    rfl

end Tool

/-- **The `run` command and the line runner agree.** For inputs that hold no line feed and do not
end in a carriage return, let `L` be the JSON lines the `run` command builds from what its
catch-all handler captures, which it prints joined by line feeds. The runner with echo off, on the
machine the command starts with, fed the inputs as UTF-8 each ended by a line feed, writes each
line of `L` followed by a line feed, counts every input as one and skips none, and ends in the
state the command's machine ends in. -/
theorem runner_agrees_with_run_command (colors : Bool) (c : Compiled) (initial : Option String)
    (xs : List String) (hxs : ∀ x ∈ xs, '\n' ∉ x.toList ∧ x.toList.getLast? ≠ some '\r') :
    let m := (Tool.newMachine c initial).1
    let L := (Tool.feedAll (m.onAny ()).1 xs).2.1.flatMap
      fun (_, _, _, ns) => ns.map fun n => n.toJson.compact
    let r := Runner.run m () (Text.encode (String.join (xs.map (· ++ "\n")))) false
    (Tool.runText colors c xs initial true).1 = "\n".intercalate L ∧
    r.output = String.join (L.map (· ++ "\n")) ∧
    r.summary.inputs = xs.length ∧ r.summary.skipped = 0 ∧
    r.machine.state = (Tool.feedAll (m.onAny ()).1 xs).1.state := by
  intro m L r
  -- the runner's lines are the inputs' bytes, all of them UTF-8
  have hlines : Runner.inputLines (Text.encode (String.join (xs.map (· ++ "\n")))) =
      xs.map Text.encode := by
    rw [Text.encode_join_lines]
    refine Runner.inputLines_terminated fun l hl => ?_
    obtain ⟨x, hx, rfl⟩ := List.mem_map.mp hl
    exact ⟨Text.lineFeed_not_mem_encode (hxs x hx).1, Text.getLast?_encode (hxs x hx).2⟩
  have hm : m.listeners.IdsBelow := Tool.newMachine_listeners c initial ▸ Listeners.idsBelow_empty
  obtain ⟨hmachine, hout, hsummary⟩ :=
    Runner.run_fold m hm () (Text.encode (String.join (xs.map (· ++ "\n")))) false
  rw [hlines, Runner.inputs_encode] at hmachine hout hsummary
  rw [Runner.countP_isSkipped_encode] at hsummary
  -- the command's capturing handler changes neither what is fed nor what is written
  obtain ⟨hstate, hwritten, -⟩ := Runner.feed_congr false xs (M := (m.onAny ()).1) (m := m) rfl rfl
  have hcap : (m.onAny ()).1.listeners = (({} : Listeners Unit).onAny ()).1 := by
    show (m.listeners.onAny ()).1 = _
    rw [Tool.newMachine_listeners]
  refine ⟨rfl, ?_, congrArg RunSummary.inputs hsummary, congrArg RunSummary.skipped hsummary, ?_⟩
  · rw [hout, ← hwritten]
    exact Tool.written_feedAll _ hcap xs
  · -- both end where feeding the inputs one after another ends
    rw [Tool.feedAll_machine, hstate]
    exact (congrArg Machine.state hmachine).trans rfl

/-- A turnstile run from its first state over a coin, a push and an empty input. -/
theorem turnstile_runner_agrees_with_run_command :
    ∃ c, (Table.build [("locked", [("coin", "unlocked"), ("push", "locked")]),
        ("unlocked", [("push", "locked"), ("coin", "unlocked")])]).compile {} = .ok c ∧
      let xs := ["coin", "push", ""]
      (∀ x ∈ xs, '\n' ∉ x.toList ∧ x.toList.getLast? ≠ some '\r') ∧
      let m := (Tool.newMachine c none).1
      let L := (Tool.feedAll (m.onAny ()).1 xs).2.1.flatMap
        fun (_, _, _, ns) => ns.map fun n => n.toJson.compact
      let r := Runner.run m () (Text.encode (String.join (xs.map (· ++ "\n")))) false
      (Tool.runText false c xs none true).1 = "\n".intercalate L ∧
      r.output = String.join (L.map (· ++ "\n")) ∧
      r.summary.inputs = xs.length ∧ r.summary.skipped = 0 ∧
      r.machine.state = (Tool.feedAll (m.onAny ()).1 xs).1.state := by
  refine ⟨_, rfl, ?_⟩
  intro xs
  have hxs : ∀ x ∈ xs, '\n' ∉ x.toList ∧ x.toList.getLast? ≠ some '\r' := by decide
  exact ⟨hxs, runner_agrees_with_run_command false _ none xs hxs⟩

end TableMachine
