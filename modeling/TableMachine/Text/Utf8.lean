/-!
# Reading UTF-8

`decode` reads bytes as UTF-8 text. On failure it reports where the valid prefix ends and how
long the offending sequence is:

* a byte that cannot start a character, or a start followed by a byte that cannot continue it,
  gives the length of the longest prefix that could still have begun a character (1 to 3);
* bytes that end in the middle of a character that had been valid so far give no length: the
  text is incomplete.

Overlong forms, surrogates and code points above U+10FFFF are refused through the allowed
ranges of the second byte (`E0 A0..BF`, `ED 80..9F`, `F0 90..BF`, `F4 80..8F`).
-/

namespace TableMachine.Text

/-- Where UTF-8 reading stopped: the length of the valid prefix and, unless the text ended
inside a character, the length of the invalid sequence. -/
structure Utf8Error where
  validUpTo : Nat
  errorLength : Option Nat
  deriving DecidableEq, Repr

/-- The wording of a reading failure. -/
def Utf8Error.message (e : Utf8Error) : String :=
  match e.errorLength with
  | some n => s!"invalid utf-8 sequence of {n} bytes from index {e.validUpTo}"
  | none => s!"incomplete utf-8 byte sequence from index {e.validUpTo}"

/-- Whether a byte continues a character. -/
def isContinuation (b : UInt8) : Bool := b &&& 0xC0 == 0x80

/-- The bits a continuation byte adds. -/
def low6 (b : UInt8) : Nat := (b &&& 0x3F).toNat

/-- Whether the second byte is allowed after a three-byte lead. -/
def secondOfThree (lead b : UInt8) : Bool :=
  if lead == 0xE0 then 0xA0 ≤ b ∧ b ≤ 0xBF
  else if lead == 0xED then 0x80 ≤ b ∧ b ≤ 0x9F
  else 0x80 ≤ b ∧ b ≤ 0xBF

/-- Whether the second byte is allowed after a four-byte lead. -/
def secondOfFour (lead b : UInt8) : Bool :=
  if lead == 0xF0 then 0x90 ≤ b ∧ b ≤ 0xBF
  else if lead == 0xF4 then 0x80 ≤ b ∧ b ≤ 0x8F
  else 0x80 ≤ b ∧ b ≤ 0xBF

/-- Reads bytes as UTF-8, `offset` counting the bytes already read and `acc` holding the
characters read so far, newest first. -/
def decodeFrom (offset : Nat) (acc : List Char) : List UInt8 → Except Utf8Error String
  | [] => .ok (String.ofList acc.reverse)
  | b0 :: rest =>
    let stop := fun (len : Option Nat) => Except.error (Utf8Error.mk offset len)
    if b0 < 0x80 then decodeFrom (offset + 1) (Char.ofNat b0.toNat :: acc) rest
    else if 0xC2 ≤ b0 ∧ b0 ≤ 0xDF then
      match rest with
      | [] => stop none
      | b1 :: rest =>
        if isContinuation b1 then
          decodeFrom (offset + 2) (Char.ofNat ((b0 &&& 0x1F).toNat * 64 + low6 b1) :: acc) rest
        else stop (some 1)
    else if 0xE0 ≤ b0 ∧ b0 ≤ 0xEF then
      match rest with
      | [] => stop none
      | b1 :: rest =>
        if !secondOfThree b0 b1 then stop (some 1) else
        match rest with
        | [] => stop none
        | b2 :: rest =>
          if isContinuation b2 then
            let c := Char.ofNat ((b0 &&& 0x0F).toNat * 4096 + low6 b1 * 64 + low6 b2)
            decodeFrom (offset + 3) (c :: acc) rest
          else stop (some 2)
    else if 0xF0 ≤ b0 ∧ b0 ≤ 0xF4 then
      match rest with
      | [] => stop none
      | b1 :: rest =>
        if !secondOfFour b0 b1 then stop (some 1) else
        match rest with
        | [] => stop none
        | b2 :: rest =>
          if !isContinuation b2 then stop (some 2) else
          match rest with
          | [] => stop none
          | b3 :: rest =>
            if isContinuation b3 then
              let c := Char.ofNat ((b0 &&& 0x07).toNat * 262144 + low6 b1 * 4096 + low6 b2 * 64
                + low6 b3)
              decodeFrom (offset + 4) (c :: acc) rest
            else stop (some 3)
    else stop (some 1)

/-- Reads bytes as UTF-8 text. -/
def decode (bs : List UInt8) : Except Utf8Error String := decodeFrom 0 [] bs

/-- The UTF-8 bytes of a string. -/
def encode (s : String) : List UInt8 := s.toUTF8.toList

end TableMachine.Text
