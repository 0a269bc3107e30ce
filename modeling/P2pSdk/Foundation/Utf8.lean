import P2pSdk.Foundation.Bytes
import Mathlib.Tactic.SplitIfs

namespace P2pSdk
namespace Foundation

/-!
# UTF-8 text on the wire

`asBytes` is the encoding of a text.  `fromUtf8Lossy` is the decoder that
never fails: a maximal prefix of an ill-formed sequence is replaced by one
U+FFFD and decoding continues after it, so that two different byte strings
may decode to the same text.  Decoding an encoding is exact, whatever follows.
-/

/-- The UTF-8 bytes of a text. -/
def asBytes (text : String) : Bytes := text.toList.flatMap String.utf8EncodeChar

/-- U+FFFD, which stands for every ill-formed sequence. -/
def replacementChar : Char := Char.ofNat 0xFFFD

/-- A continuation byte `10xxxxxx`. -/
def isContinuation (byte : UInt8) : Bool := byte.toNat / 64 = 2

/-- The second bytes that a three-byte sequence with this first byte admits. -/
def admitsSecondOfThree (first second : UInt8) : Bool :=
  if first.toNat = 0xE0 then 0xA0 ≤ second.toNat ∧ second.toNat ≤ 0xBF
  else if first.toNat = 0xED then 0x80 ≤ second.toNat ∧ second.toNat ≤ 0x9F
  else isContinuation second

/-- The second bytes that a four-byte sequence with this first byte admits. -/
def admitsSecondOfFour (first second : UInt8) : Bool :=
  if first.toNat = 0xF0 then 0x90 ≤ second.toNat ∧ second.toNat ≤ 0xBF
  else if first.toNat = 0xF4 then 0x80 ≤ second.toNat ∧ second.toNat ≤ 0x8F
  else isContinuation second

/-- The characters of a byte string, ill-formed parts replaced.  The width of
a sequence is read off its first byte; each following byte that does not fit
ends the replaced part just before it. -/
def decodeLossy : Bytes -> List Char
  | [] => []
  | b0 :: t0 =>
      if b0.toNat < 0x80 then Char.ofNat b0.toNat :: decodeLossy t0
      else if 0xC2 ≤ b0.toNat ∧ b0.toNat ≤ 0xDF then
        match t0 with
        | [] => [replacementChar]
        | b1 :: t1 =>
            if isContinuation b1 then
              Char.ofNat (b0.toNat % 32 * 64 + b1.toNat % 64) :: decodeLossy t1
            else replacementChar :: decodeLossy (b1 :: t1)
      else if 0xE0 ≤ b0.toNat ∧ b0.toNat ≤ 0xEF then
        match t0 with
        | [] => [replacementChar]
        | b1 :: t1 =>
            if admitsSecondOfThree b0 b1 then
              match t1 with
              | [] => [replacementChar]
              | b2 :: t2 =>
                  if isContinuation b2 then
                    Char.ofNat (b0.toNat % 16 * 4096 + b1.toNat % 64 * 64 + b2.toNat % 64) ::
                      decodeLossy t2
                  else replacementChar :: decodeLossy (b2 :: t2)
            else replacementChar :: decodeLossy (b1 :: t1)
      else if 0xF0 ≤ b0.toNat ∧ b0.toNat ≤ 0xF4 then
        match t0 with
        | [] => [replacementChar]
        | b1 :: t1 =>
            if admitsSecondOfFour b0 b1 then
              match t1 with
              | [] => [replacementChar]
              | b2 :: t2 =>
                  if isContinuation b2 then
                    match t2 with
                    | [] => [replacementChar]
                    | b3 :: t3 =>
                        if isContinuation b3 then
                          Char.ofNat (b0.toNat % 8 * 262144 + b1.toNat % 64 * 4096 +
                            b2.toNat % 64 * 64 + b3.toNat % 64) :: decodeLossy t3
                        else replacementChar :: decodeLossy (b3 :: t3)
                  else replacementChar :: decodeLossy (b2 :: t2)
            else replacementChar :: decodeLossy (b1 :: t1)
      else replacementChar :: decodeLossy t0

/-- `String::from_utf8_lossy(bytes).into_owned()`. -/
def fromUtf8Lossy (bytes : Bytes) : String := String.ofList (decodeLossy bytes)

theorem decodeLossy_ne_nil (byte : UInt8) (rest : Bytes) : decodeLossy (byte :: rest) ≠ [] := by
  rw [decodeLossy.eq_def]
  dsimp only
  repeat' split
  all_goals exact List.cons_ne_nil _ _

/-- The text of a non-empty byte string is not empty. -/
theorem fromUtf8Lossy_ne_empty {bytes : Bytes} (nonempty : bytes ≠ []) :
    fromUtf8Lossy bytes ≠ "" := by
  cases bytes with
  | nil => exact absurd rfl nonempty
  | cons byte rest =>
      intro empty
      have chars := congrArg String.toList empty
      unfold fromUtf8Lossy at chars
      rw [String.toList_ofList] at chars
      exact decodeLossy_ne_nil byte rest chars

/-! ## Decoding an encoding -/

/-- A scalar value is below the surrogates or between them and U+10FFFF. -/
theorem scalar_range (char : Char) :
    char.val.toNat < 0xD800 ∨ 0xDFFF < char.val.toNat ∧ char.val.toNat < 0x110000 := by
  have valid := char.valid
  simpa [UInt32.isValidChar, Nat.isValidChar] using valid

theorem toNat_ofNat_small (value : Nat) (small : value < 256) : (UInt8.ofNat value).toNat = value := by
  rw [UInt8.toNat_ofNat']
  omega

theorem decodeLossy_width_one {b0 : UInt8} (rest : Bytes) (ascii : b0.toNat < 0x80) :
    decodeLossy (b0 :: rest) = Char.ofNat b0.toNat :: decodeLossy rest := by
  rw [decodeLossy.eq_def]
  simp only [if_pos ascii]

theorem decodeLossy_width_two {b0 b1 : UInt8} (rest : Bytes)
    (lead : 0xC2 ≤ b0.toNat ∧ b0.toNat ≤ 0xDF) (second : isContinuation b1 = true) :
    decodeLossy (b0 :: b1 :: rest) =
      Char.ofNat (b0.toNat % 32 * 64 + b1.toNat % 64) :: decodeLossy rest := by
  have wide : ¬ b0.toNat < 0x80 := by omega
  rw [decodeLossy.eq_def]
  simp only [if_neg wide, if_pos lead, if_pos second]

theorem decodeLossy_width_three {b0 b1 b2 : UInt8} (rest : Bytes)
    (lead : 0xE0 ≤ b0.toNat ∧ b0.toNat ≤ 0xEF) (second : admitsSecondOfThree b0 b1 = true)
    (third : isContinuation b2 = true) :
    decodeLossy (b0 :: b1 :: b2 :: rest) =
      Char.ofNat (b0.toNat % 16 * 4096 + b1.toNat % 64 * 64 + b2.toNat % 64) ::
        decodeLossy rest := by
  have notOne : ¬ b0.toNat < 0x80 := by omega
  have notTwo : ¬ (0xC2 ≤ b0.toNat ∧ b0.toNat ≤ 0xDF) := by omega
  rw [decodeLossy.eq_def]
  simp only [if_neg notOne, if_neg notTwo, if_pos lead, if_pos second, if_pos third]

theorem decodeLossy_width_four {b0 b1 b2 b3 : UInt8} (rest : Bytes)
    (lead : 0xF0 ≤ b0.toNat ∧ b0.toNat ≤ 0xF4) (second : admitsSecondOfFour b0 b1 = true)
    (third : isContinuation b2 = true) (fourth : isContinuation b3 = true) :
    decodeLossy (b0 :: b1 :: b2 :: b3 :: rest) =
      Char.ofNat (b0.toNat % 8 * 262144 + b1.toNat % 64 * 4096 + b2.toNat % 64 * 64 +
        b3.toNat % 64) :: decodeLossy rest := by
  have notOne : ¬ b0.toNat < 0x80 := by omega
  have notTwo : ¬ (0xC2 ≤ b0.toNat ∧ b0.toNat ≤ 0xDF) := by omega
  have notThree : ¬ (0xE0 ≤ b0.toNat ∧ b0.toNat ≤ 0xEF) := by omega
  rw [decodeLossy.eq_def]
  simp only [if_neg notOne, if_neg notTwo, if_neg notThree, if_pos lead, if_pos second,
    if_pos third, if_pos fourth]

theorem isContinuation_ofNat (low : Nat) : isContinuation (UInt8.ofNat (low % 64 + 128)) = true := by
  have byte := toNat_ofNat_small (low % 64 + 128) (by omega)
  simp only [isContinuation, byte, decide_eq_true_eq]
  omega

/-- The encoding of one character is consumed as a whole, and exactly. -/
theorem decodeLossy_encodeChar (char : Char) (rest : Bytes) :
    decodeLossy (String.utf8EncodeChar char ++ rest) = char :: decodeLossy rest := by
  have range := scalar_range char
  have scalar : Char.ofNat char.val.toNat = char := Char.ofNat_toNat char
  unfold String.utf8EncodeChar
  dsimp only
  generalize char.val.toNat = value at *
  have last := toNat_ofNat_small (value % 64 + 128) (by omega)
  have middle := toNat_ofNat_small (value / 64 % 64 + 128) (by omega)
  by_cases one : value ≤ 127
  · have first := toNat_ofNat_small value (by omega)
    rw [if_pos one, List.singleton_append, decodeLossy_width_one rest (by omega), first, scalar]
  · rw [if_neg one]
    by_cases two : value ≤ 2047
    · have first := toNat_ofNat_small (value / 64 % 32 + 192) (by omega)
      rw [if_pos two, List.cons_append, List.singleton_append,
        decodeLossy_width_two rest (by omega) (isContinuation_ofNat value), first, last]
      rw [show (value / 64 % 32 + 192) % 32 * 64 + (value % 64 + 128) % 64 = value by omega, scalar]
    · rw [if_neg two]
      by_cases three : value ≤ 65535
      · have first := toNat_ofNat_small (value / 4096 % 16 + 224) (by omega)
        have admitted : admitsSecondOfThree (UInt8.ofNat (value / 4096 % 16 + 224))
            (UInt8.ofNat (value / 64 % 64 + 128)) = true := by
          simp only [admitsSecondOfThree, isContinuation_ofNat, first, middle]
          split_ifs <;> simp <;> omega
        rw [if_pos three, List.cons_append, List.cons_append, List.singleton_append,
          decodeLossy_width_three rest (by omega) admitted (isContinuation_ofNat value),
          first, middle, last]
        rw [show (value / 4096 % 16 + 224) % 16 * 4096 + (value / 64 % 64 + 128) % 64 * 64 +
          (value % 64 + 128) % 64 = value by omega, scalar]
      · have first := toNat_ofNat_small (value / 262144 % 8 + 240) (by omega)
        have second := toNat_ofNat_small (value / 4096 % 64 + 128) (by omega)
        have admitted : admitsSecondOfFour (UInt8.ofNat (value / 262144 % 8 + 240))
            (UInt8.ofNat (value / 4096 % 64 + 128)) = true := by
          simp only [admitsSecondOfFour, isContinuation_ofNat, first, second]
          split_ifs <;> simp <;> omega
        rw [if_neg three, List.cons_append, List.cons_append, List.cons_append,
          List.singleton_append,
          decodeLossy_width_four rest (by omega) admitted (isContinuation_ofNat (value / 64))
            (isContinuation_ofNat value), first, second, middle, last]
        rw [show (value / 262144 % 8 + 240) % 8 * 262144 + (value / 4096 % 64 + 128) % 64 * 4096 +
          (value / 64 % 64 + 128) % 64 * 64 + (value % 64 + 128) % 64 = value by omega, scalar]

theorem decodeLossy_encode (chars : List Char) :
    decodeLossy (chars.flatMap String.utf8EncodeChar) = chars := by
  induction chars with
  | nil => rfl
  | cons char chars ih => rw [List.flatMap_cons, decodeLossy_encodeChar, ih]

/-- Well-formed text survives the lossy decoder. -/
@[simp] theorem fromUtf8Lossy_asBytes (text : String) : fromUtf8Lossy (asBytes text) = text := by
  rw [fromUtf8Lossy, asBytes, decodeLossy_encode, String.ofList_toList]

/-- Two ill-formed byte strings with one decoding: the decoder is not injective. -/
example : fromUtf8Lossy [0x61, 0xFF] = fromUtf8Lossy [0x61, 0xFE] := by decide

end Foundation
end P2pSdk
