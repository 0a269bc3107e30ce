import P2pSdk.Foundation.Bytes
import Mathlib.Logic.Function.Iterate

namespace P2pSdk
namespace Foundation

/-!
# Cyclic redundancy checks

A check is computed in a register: a byte is added to its low end, and the
register is shifted out bit by bit, where a one that falls out subtracts the
polynomial.  Without the bytes that are added the shift is linear in exclusive
or, so that two registers that run over the same bytes differ by a register
that runs over zeros.

From this follows when appended bytes leave a check as it is.  A difference of
two registers that both return to themselves is fixed by the shift itself, as
often as it is applied; for a polynomial whose register shift fixes zero only
there is one such register at most.  This is shown for a number of shifts that
is a power of two.
-/

/-- Exclusive or is addition in which every value is its own inverse. -/
theorem xor_self_cancel {w : Nat} (left right : BitVec w) : left ^^^ (left ^^^ right) = right := by
  rw [← BitVec.xor_assoc, BitVec.xor_self, BitVec.zero_xor]

/-! ## Linear maps of registers -/

section Linear

variable {w : Nat} {shift : BitVec w -> BitVec w}

theorem iterate_xor (linear : forall left right, shift (left ^^^ right) = shift left ^^^ shift right)
    (n : Nat) (left right : BitVec w) :
    shift^[n] (left ^^^ right) = shift^[n] left ^^^ shift^[n] right := by
  induction n generalizing left right with
  | zero => rfl
  | succ n ih => rw [Function.iterate_succ_apply, linear, ih]; rfl

/-- A linear map that fixes zero only still does so after any number of
doublings: what the square fixes is moved by a difference that the map fixes. -/
theorem eq_zero_of_iterate_fixed
    (linear : forall left right, shift (left ^^^ right) = shift left ^^^ shift right)
    (zeroOnly : forall register, shift register = register -> register = 0#w) (k : Nat)
    {register : BitVec w} (fixed : shift^[2 ^ k] register = register) : register = 0#w := by
  induction k generalizing register with
  | zero => exact zeroOnly register fixed
  | succ k ih =>
      have twice : shift^[2 ^ k] (shift^[2 ^ k] register) = register := by
        rw [← Function.iterate_add_apply, ← two_mul, ← pow_succ', fixed]
      have moved : shift^[2 ^ k] (register ^^^ shift^[2 ^ k] register) =
          register ^^^ shift^[2 ^ k] register := by
        rw [iterate_xor linear, twice, BitVec.xor_comm]
      exact ih (BitVec.xor_eq_zero_iff.mp (ih moved)).symm

end Linear

/-! ## The register -/

section Register

variable {w : Nat}

/-- Shift one bit out; a one subtracts the polynomial. -/
def crcBit (polynomial register : BitVec w) : BitVec w :=
  if register.getLsbD 0 then (register >>> 1) ^^^ polynomial else register >>> 1

/-- Add a byte at the low end and shift it out. -/
def crcByte (polynomial register : BitVec w) (byte : UInt8) : BitVec w :=
  (crcBit polynomial)^[8] (register ^^^ byte.toBitVec.setWidth w)

def crcBytes (polynomial register : BitVec w) (bytes : Bytes) : BitVec w :=
  bytes.foldl (crcByte polynomial) register

variable (polynomial : BitVec w)

theorem crcBit_xor (left right : BitVec w) :
    crcBit polynomial (left ^^^ right) = crcBit polynomial left ^^^ crcBit polynomial right := by
  unfold crcBit
  rw [BitVec.getLsbD_xor, BitVec.ushiftRight_xor_distrib]
  cases left.getLsbD 0 <;> cases right.getLsbD 0
  · rfl
  · exact BitVec.xor_assoc _ _ _
  · show left >>> 1 ^^^ right >>> 1 ^^^ polynomial = (left >>> 1 ^^^ polynomial) ^^^ right >>> 1
    rw [BitVec.xor_assoc, BitVec.xor_assoc, BitVec.xor_comm polynomial]
  · show left >>> 1 ^^^ right >>> 1 = (left >>> 1 ^^^ polynomial) ^^^ (right >>> 1 ^^^ polynomial)
    rw [BitVec.xor_assoc, BitVec.xor_comm (right >>> 1), xor_self_cancel]

theorem crcByte_xor (register difference : BitVec w) (byte : UInt8) :
    crcByte polynomial (register ^^^ difference) byte =
      crcByte polynomial register byte ^^^ (crcBit polynomial)^[8] difference := by
  have reordered : register ^^^ difference ^^^ byte.toBitVec.setWidth w =
      (register ^^^ byte.toBitVec.setWidth w) ^^^ difference := by
    rw [BitVec.xor_assoc, BitVec.xor_comm difference, BitVec.xor_assoc]
  rw [crcByte, reordered, iterate_xor (crcBit_xor polynomial)]
  rfl

/-- Registers that run over the same bytes differ by a register that runs
over zeros. -/
theorem crcBytes_xor (bytes : Bytes) (register difference : BitVec w) :
    crcBytes polynomial (register ^^^ difference) bytes =
      crcBytes polynomial register bytes ^^^ (crcBit polynomial)^[8 * bytes.length] difference := by
  induction bytes generalizing register difference with
  | nil => rfl
  | cons byte bytes ih =>
      have shifts : 8 * (byte :: bytes).length = 8 * bytes.length + 8 := by
        rw [List.length_cons, Nat.mul_succ]
      have step := ih (crcByte polynomial register byte) ((crcBit polynomial)^[8] difference)
      rw [← crcByte_xor] at step
      rw [shifts, Function.iterate_add_apply]
      exact step

theorem crcBytes_append (register : BitVec w) (first second : Bytes) :
    crcBytes polynomial register (first ++ second) =
      crcBytes polynomial (crcBytes polynomial register first) second :=
  List.foldl_append

/-- At most one register returns to itself over the same bytes. -/
theorem crcBytes_fixed_unique
    (zeroOnly : forall register, crcBit polynomial register = register -> register = 0#w)
    {bytes : Bytes} {k : Nat} (length : 8 * bytes.length = 2 ^ k) {first second : BitVec w}
    (firstFixed : crcBytes polynomial first bytes = first)
    (secondFixed : crcBytes polynomial second bytes = second) : first = second := by
  have moved := crcBytes_xor polynomial bytes first (first ^^^ second)
  rw [xor_self_cancel, firstFixed, secondFixed, length] at moved
  have fixed : (crcBit polynomial)^[2 ^ k] (first ^^^ second) = first ^^^ second := by
    rw [← xor_self_cancel first ((crcBit polynomial)^[2 ^ k] (first ^^^ second)), ← moved]
  exact BitVec.xor_eq_zero_iff.mp
    (eq_zero_of_iterate_fixed (crcBit_xor polynomial) zeroOnly k fixed)

end Register

/-! ## Polynomials whose shift fixes zero only -/

section Polynomial

variable {w : Nat}

/-- Add a register to itself, moved down. -/
def spread (distance : Nat) (register : BitVec w) : BitVec w :=
  register ^^^ (register >>> distance)

theorem spread_spread (distance : Nat) (register : BitVec w) :
    spread distance (spread distance register) = spread (2 * distance) register := by
  unfold spread
  rw [BitVec.ushiftRight_xor_distrib, ← BitVec.shiftRight_add, ← two_mul, BitVec.xor_assoc,
    xor_self_cancel]

/-- Undo `spread 1`, for registers of at most `2 ^ k` bits. -/
def gather : Nat -> BitVec w -> BitVec w
  | 0, register => register
  | k + 1, register => spread (2 ^ k) (gather k register)

theorem gather_spread (k : Nat) (register : BitVec w) :
    gather k (spread 1 register) = spread (2 ^ k) register := by
  induction k with
  | zero => rfl
  | succ k ih => rw [gather, ih, spread_spread, pow_succ']

theorem gather_spread_of_wide {k : Nat} (wide : w ≤ 2 ^ k) (register : BitVec w) :
    gather k (spread 1 register) = register := by
  have nothing : register >>> 2 ^ k = 0#w := BitVec.ushiftRight_eq_zero wide
  rw [gather_spread, spread, nothing, BitVec.xor_zero]

theorem gather_zero (k : Nat) : gather k (0#w) = 0#w := by
  induction k with
  | zero => rfl
  | succ k ih => rw [gather, ih, spread, BitVec.zero_ushiftRight, BitVec.xor_zero]

/-- A fixed register whose low bit is set is what the polynomial gathers to. -/
theorem eq_zero_of_crcBit_fixed {polynomial : BitVec w} {k : Nat} (wide : w ≤ 2 ^ k)
    (even : (gather k polynomial).getLsbD 0 = false) {register : BitVec w}
    (fixed : crcBit polynomial register = register) : register = 0#w := by
  have gathered := gather_spread_of_wide wide register
  unfold crcBit at fixed
  cases low : register.getLsbD 0 with
  | false =>
      rw [low, if_neg Bool.false_ne_true] at fixed
      rw [spread, fixed, BitVec.xor_self, gather_zero] at gathered
      exact gathered.symm
  | true =>
      rw [low, if_pos rfl] at fixed
      have isPolynomial : spread 1 register = polynomial := by
        rw [spread, BitVec.xor_comm]
        exact (congrArg (register >>> 1 ^^^ ·) fixed.symm).trans (xor_self_cancel _ _)
      rw [← isPolynomial, gathered, low] at even
      cases even

end Polynomial

/-! ## Parametrised checks -/

/-- A check that reads its bytes low bit first.  `polynomial` is in reversed
bit order. -/
structure ReflectedCrc (w : Nat) where
  polynomial : BitVec w
  start : BitVec w
  xorOut : BitVec w

namespace ReflectedCrc

variable {w : Nat} (crc : ReflectedCrc w)

def checksum (bytes : Bytes) : BitVec w :=
  crcBytes crc.polynomial crc.start bytes ^^^ crc.xorOut

/-- Appended bytes leave the check as it is exactly at the check that a register
which returns to itself over them has. -/
theorem checksum_append_iff
    (zeroOnly : forall register, crcBit crc.polynomial register = register -> register = 0#w)
    {appended : Bytes} {k : Nat} (length : 8 * appended.length = 2 ^ k) {fixed : BitVec w}
    (isFixed : crcBytes crc.polynomial fixed appended = fixed) (bytes : Bytes) :
    crc.checksum (bytes ++ appended) = crc.checksum bytes <->
      crc.checksum bytes = fixed ^^^ crc.xorOut := by
  unfold checksum
  rw [crcBytes_append, BitVec.xor_left_inj, BitVec.xor_left_inj]
  constructor
  · intro returns
    exact crcBytes_fixed_unique crc.polynomial zeroOnly length returns isFixed
  · intro same
    rw [same, isFixed]

end ReflectedCrc

end Foundation
end P2pSdk
