import TableMachine.Proofs.CompileErrors
import TableMachine.Proofs.Utf8

/-!
# The grammar of matcher keys

A key is classified by its shape alone: written `/body/flags` with flags drawn from `g`, `i` and
`m` it is a pattern, whatever the wildcard token is; otherwise it is the wildcard when it is the
token, and a literal when it is not. Main statement:

> `classify_follows_key_grammar`: `splitPattern key` gives `(body, flags)` exactly when
> `key = "/" ++ body ++ "/" ++ flags` with such flags; cut at the byte offset of its last `/`,
> the text after the leading `/` falls into two pieces that read back as UTF-8 text, the very
> body and flags that `splitPattern` returns when the flags pass; a key of pattern shape is
> classified as the pattern compiled from its body under its flags, or refused with the
> compiler's error; any other key is the wildcard if it is the token and a literal if not; and
> a classified key keeps its text.

Flags hold no `/`, so the shape fixes body and flags and the split falls at the key's last `/`
(`Matcher.splitPattern_eq_some_iff`). Cutting bytes there is safe because a byte below 128
encodes its own character and nothing else (`Text.ascii_not_mem_encode`): the last `/` byte of
a text is its last `/` character, and everything before it is the encoding of whole characters.
-/

namespace TableMachine

open Regex

/-! ## The last `/` of a text, on bytes -/

namespace Text

/-- The offset of the last byte `b` in `bytes`, found by a search from the end. -/
def lastByteOffset (b : UInt8) (bytes : List UInt8) : Option Nat :=
  (bytes.reverse.findIdx? (· = b)).map fun i => bytes.length - 1 - i

theorem lastByteOffset_append_cons {b : UInt8} {xs ys : List UInt8} (h : b ∉ ys) :
    lastByteOffset b (xs ++ b :: ys) = some xs.length := by
  -- searched from the end, `ys` holds no `b` and the next byte is one
  have hnone : ys.reverse.findIdx? (· = b) = none := by
    rw [List.findIdx?_eq_none_iff]
    intro y hy
    simpa using fun hyb : y = b => h (hyb ▸ List.mem_reverse.mp hy)
  simp only [lastByteOffset, List.reverse_append, List.reverse_cons, List.append_assoc,
    List.singleton_append, List.findIdx?_append, hnone, List.findIdx?_cons, decide_true,
    if_true, Option.map_some, Option.none_or, List.length_append, List.length_cons,
    List.length_reverse, Option.some.injEq]
  omega

/-- A text that holds a `/` is its part before the last `/`, that `/`, and a part without
`/`. -/
theorem exists_eq_append_lastSlash {rest : String} (h : '/' ∈ rest.toList) :
    ∃ body flags : String, rest = body ++ "/" ++ flags ∧ '/' ∉ flags.toList := by
  -- the first `/` of the reversed text is its last
  obtain ⟨after, before, hrev, hafter⟩ := List.eq_append_cons_of_mem (List.mem_reverse.mpr h)
  refine ⟨String.ofList before.reverse, String.ofList after.reverse, ?_, by simpa using hafter⟩
  rw [← String.toList_inj, ← List.reverse_reverse rest.toList, hrev]
  simp

/-- Cut at the offset of its last `/` byte, a text falls into the encodings of the parts on
either side of its last `/`, so both pieces read back as those parts. -/
theorem decode_cut_at_lastSlash {rest body flags : String} (h : rest = body ++ "/" ++ flags)
    (hf : '/' ∉ flags.toList) :
    lastByteOffset 47 (encode rest) = some (encode body).length ∧
      decode ((encode rest).take (encode body).length) = .ok body ∧
      decode ((encode rest).drop ((encode body).length + 1)) = .ok flags := by
  have hbytes : encode rest = encode body ++ 47 :: encode flags := by
    rw [h, encode_append, encode_append, show encode "/" = [47] by rw [encode_eq]; decide]
    simp
  have hslash : (47 : UInt8) ∉ encode flags := ascii_not_mem_encode (d := '/') (by decide) hf
  rw [hbytes]
  refine ⟨lastByteOffset_append_cons hslash, ?_, ?_⟩
  · rw [List.take_left' rfl, decode_encode]
  · rw [List.drop_append, List.drop_of_length_le (by omega),
      show (encode body).length + 1 - (encode body).length = 1 by omega, List.drop_one,
      List.tail_cons, List.nil_append, decode_encode]

end Text

/-! ## Keys of pattern shape -/

namespace Matcher

open Text

/-- The pattern shape, said on strings: `key = "/" ++ body ++ "/" ++ flags`. -/
theorem patternShape_iff {key body flags : String} :
    PatternShape key body flags ↔
      key = "/" ++ body ++ "/" ++ flags ∧ ∀ c ∈ flags.toList, c = 'g' ∨ c = 'i' ∨ c = 'm' := by
  rw [PatternShape, ← String.toList_inj]
  simp

/-- After the leading `/`, a key holding another `/` is cut at the byte offset of its last
one into two pieces of text, and `splitPattern` returns them exactly when the flags pass. -/
theorem splitPattern_of_cut {key rest : String} (hkey : key = "/" ++ rest)
    (h : '/' ∈ rest.toList) :
    ∃ close body flags, lastByteOffset 47 (encode rest) = some close ∧
      decode ((encode rest).take close) = .ok body ∧
      decode ((encode rest).drop (close + 1)) = .ok flags ∧
      splitPattern key =
        if flags.toList.all (fun c => c = 'g' ∨ c = 'i' ∨ c = 'm') then some (body, flags)
        else none := by
  obtain ⟨body, flags, hrest, hf⟩ := exists_eq_append_lastSlash h
  obtain ⟨hclose, hbody, hflags⟩ := decode_cut_at_lastSlash hrest hf
  refine ⟨_, body, flags, hclose, hbody, hflags, splitPattern_of_lastSlash ?_ hf⟩
  rw [hkey, hrest]
  simp

/-- A body may hold `/` and characters of several bytes; an unknown flag leaves no split. -/
example : splitPattern "/é/x/gi" = some ("é/x", "gi") ∧ splitPattern "/a/x" = none := by
  decide

/-- A key of pattern shape is the pattern compiled from its body, or the compiler's refusal. -/
theorem classify_of_patternShape {key w body flags : String}
    (h : PatternShape key body flags) :
    classify key w =
      pattern key <$> Pattern.compile body (flags.contains 'i') (flags.contains 'm') :=
  classify_of_splitPattern_eq_some (splitPattern_eq_some_iff.mpr h)

/-- Any other key is the wildcard when it is the token, and a literal otherwise. -/
theorem classify_of_not_patternShape {key w : String}
    (h : ¬∃ body flags, PatternShape key body flags) :
    classify key w = if key = w then .ok (.wildcard key) else .ok (.literal key) := by
  -- a split would be a pattern shape
  cases hs : splitPattern key with
  | none => exact classify_of_splitPattern_eq_none hs
  | some bf => exact absurd ⟨bf.1, bf.2, splitPattern_eq_some_iff.mp hs⟩ h

end Matcher

/-! ## Classification -/

/-- A key is a pattern exactly when it reads `/body/flags` with flags drawn from `g`, `i` and
`m`, split at its last `/`, a cut that always falls between characters; otherwise it is the
wildcard when it is the token and a literal when it is not; and it keeps its text. -/
theorem classify_follows_key_grammar (key wildcard : String) :
    (∀ body flags, splitPattern key = some (body, flags) ↔
      key = "/" ++ body ++ "/" ++ flags ∧ ∀ c ∈ flags.toList, c = 'g' ∨ c = 'i' ∨ c = 'm') ∧
    (∀ rest, key = "/" ++ rest → '/' ∈ rest.toList →
      ∃ close body flags, Text.lastByteOffset 47 (Text.encode rest) = some close ∧
        Text.decode ((Text.encode rest).take close) = .ok body ∧
        Text.decode ((Text.encode rest).drop (close + 1)) = .ok flags ∧
        splitPattern key =
          if flags.toList.all (fun c => c = 'g' ∨ c = 'i' ∨ c = 'm') then some (body, flags)
          else none) ∧
    (∀ body flags, key = "/" ++ body ++ "/" ++ flags →
      (∀ c ∈ flags.toList, c = 'g' ∨ c = 'i' ∨ c = 'm') →
      Matcher.classify key wildcard =
        Matcher.pattern key <$> Pattern.compile body (flags.contains 'i') (flags.contains 'm')) ∧
    ((¬∃ body flags, key = "/" ++ body ++ "/" ++ flags ∧
        ∀ c ∈ flags.toList, c = 'g' ∨ c = 'i' ∨ c = 'm') →
      Matcher.classify key wildcard =
        if key = wildcard then .ok (.wildcard key) else .ok (.literal key)) ∧
    (∀ m, Matcher.classify key wildcard = .ok m → m.key = key) := by
  refine ⟨fun _ _ => Matcher.splitPattern_eq_some_iff.trans Matcher.patternShape_iff,
    fun _ hkey h => Matcher.splitPattern_of_cut hkey h, fun _ _ hkey hflags => ?_, fun h => ?_,
    fun _ h => (Matcher.key_of_classify h).1⟩
  · exact Matcher.classify_of_patternShape (Matcher.patternShape_iff.mpr ⟨hkey, hflags⟩)
  · -- a key of no shape on strings has none on characters either
    refine Matcher.classify_of_not_patternShape ?_
    rintro ⟨body, flags, hshape⟩
    exact h ⟨body, flags, Matcher.patternShape_iff.mp hshape⟩

end TableMachine
