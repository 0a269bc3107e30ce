import Mathlib.Data.List.Induction
import Mathlib.InformationTheory.Coding.UniquelyDecodable
import Mathlib.Tactic.Ring

namespace P2pSdk
namespace Foundation

universe u v

/-!
# Byte buffers with checked access

A slice index outside the buffer ends a Rust program with a panic.  Reads are
therefore partial here: they return in `Checked`, and a caller that never
proves its bounds keeps the panic as a possible result.  Writes go into a
buffer that was allocated beforehand; `writeAt` keeps the length exactly when
the write lies inside the buffer, which is how its callers account for bounds.

Multi-byte integers are big-endian on the wire.  `beBytes` and `beNat` are the
two directions, at any width.
-/

abbrev Bytes := List UInt8

/-- The ways in which the modelled code can panic. -/
inductive Panic where
  | indexOutOfBounds
  | unwrapFailure
  | arithmeticOverflow
  deriving DecidableEq, Repr

/-- A computation that returns a value or panics. -/
abbrev Checked (α : Type u) := Except Panic α

namespace Checked

variable {α β : Type u}

@[simp] theorem ok_bind (value : α) (next : α -> Checked β) :
    (Except.ok value >>= next) = next value := rfl

@[simp] theorem error_bind (panic : Panic) (next : α -> Checked β) :
    ((Except.error panic : Checked α) >>= next) = Except.error panic := rfl

@[simp] theorem pure_eq_ok (value : α) : (pure value : Checked α) = Except.ok value := rfl

theorem bind_eq_ok {first : Checked α} {next : α -> Checked β} {result : β} :
    (first >>= next) = Except.ok result <->
      exists value, first = Except.ok value ∧ next value = Except.ok result := by
  cases first with
  | error panic => simp
  | ok value => simp

/-- A computation followed by one that always returns. -/
theorem bind_returns_iff {first : Checked α} {next : α -> Checked β}
    (total : forall value, exists result, next value = Except.ok result) :
    (exists result, (first >>= next) = Except.ok result) <->
      exists value, first = Except.ok value := by
  constructor
  · rintro ⟨result, returned⟩
    rcases bind_eq_ok.mp returned with ⟨value, isValue, _⟩
    exact ⟨value, isValue⟩
  · rintro ⟨value, rfl⟩
    exact total value

/-- A test of the value of a computation that returns. -/
theorem exists_of_any {result : Checked α} {test : α -> Bool}
    (passes : result.toOption.any test = true) :
    exists value, result = Except.ok value ∧ test value = true := by
  cases result with
  | error panic => cases passes
  | ok value => exact ⟨value, rfl, passes⟩

end Checked

/-! ## Reading -/

/-- `buf[start..start + len]`. -/
def sliceAt (buf : Bytes) (start len : Nat) : Checked Bytes :=
  if start + len ≤ buf.length then .ok ((buf.drop start).take len) else .error .indexOutOfBounds

/-- `&buf[start..stop]`. -/
def sliceRange (buf : Bytes) (start stop : Nat) : Checked Bytes :=
  if start ≤ stop then sliceAt buf start (stop - start) else .error .indexOutOfBounds

/-- `buf[index]`. -/
def byteAt (buf : Bytes) (index : Nat) : Checked UInt8 :=
  match buf[index]? with
  | some byte => .ok byte
  | none => .error .indexOutOfBounds

theorem sliceAt_returns {buf : Bytes} {start len : Nat} :
    (exists slice, sliceAt buf start len = .ok slice) <-> start + len ≤ buf.length := by
  unfold sliceAt
  by_cases inside : start + len ≤ buf.length
  · rw [if_pos inside]
    exact ⟨fun _ => inside, fun _ => ⟨_, rfl⟩⟩
  · rw [if_neg inside]
    constructor
    · rintro ⟨slice, impossible⟩
      cases impossible
    · intro contrary
      exact absurd contrary inside

theorem byteAt_returns {buf : Bytes} {index : Nat} :
    (exists byte, byteAt buf index = .ok byte) <-> index < buf.length := by
  unfold byteAt
  by_cases inside : index < buf.length
  · rw [List.getElem?_eq_getElem inside]
    exact ⟨fun _ => inside, fun _ => ⟨_, rfl⟩⟩
  · rw [List.getElem?_eq_none (Nat.le_of_not_lt inside)]
    constructor
    · rintro ⟨byte, impossible⟩
      cases impossible
    · intro contrary
      exact absurd contrary inside

theorem sliceAt_length {buf slice : Bytes} {start len : Nat}
    (read : sliceAt buf start len = .ok slice) : slice.length = len := by
  unfold sliceAt at read
  by_cases inside : start + len ≤ buf.length
  · rw [if_pos inside] at read
    cases read
    rw [List.length_take, List.length_drop]
    omega
  · rw [if_neg inside] at read
    cases read

/-- A slice that lies between two known parts of the buffer is read exactly. -/
theorem sliceAt_append (before slice after : Bytes) :
    sliceAt (before ++ (slice ++ after)) before.length slice.length = .ok slice := by
  unfold sliceAt
  rw [if_pos (by simp only [List.length_append]; omega), List.drop_left, List.take_left]

/-- A read inside a part of the buffer does not depend on the rest. -/
theorem sliceAt_inside (before part after : Bytes) (start len : Nat)
    (inside : start + len ≤ part.length) :
    sliceAt (before ++ (part ++ after)) (before.length + start) len = sliceAt part start len := by
  have room : before.length + start + len ≤ (before ++ (part ++ after)).length := by
    simp only [List.length_append]
    omega
  unfold sliceAt
  rw [if_pos inside, if_pos room, List.drop_length_add_append,
    List.drop_append_of_le_length (by omega),
    List.take_append_of_le_length (by rw [List.length_drop]; omega)]

theorem byteAt_inside (before part after : Bytes) (index : Nat) (inside : index < part.length) :
    byteAt (before ++ (part ++ after)) (before.length + index) = byteAt part index := by
  unfold byteAt
  rw [List.getElem?_append_right (by omega), Nat.add_sub_cancel_left,
    List.getElem?_append_left inside]

/-! ## Writing -/

/-- `buf[offset..offset + value.len()].copy_from_slice(value)`. -/
def writeAt (buf : Bytes) (offset : Nat) (value : Bytes) : Bytes :=
  buf.take offset ++ value ++ buf.drop (offset + value.length)

/-- The same write as the program makes it: a panic when it does not lie inside. -/
def storeAt (buf : Bytes) (offset : Nat) (value : Bytes) : Checked Bytes :=
  if offset + value.length ≤ buf.length then .ok (writeAt buf offset value)
  else .error .indexOutOfBounds

theorem writeAt_length {buf value : Bytes} {offset : Nat}
    (inside : offset + value.length ≤ buf.length) :
    (writeAt buf offset value).length = buf.length := by
  unfold writeAt
  simp only [List.length_append, List.length_take, List.length_drop]
  omega

/-- A write that returns lies inside and keeps the length. -/
theorem storeAt_eq_ok {buf value after : Bytes} {offset : Nat} :
    storeAt buf offset value = .ok after <->
      offset + value.length ≤ buf.length ∧ after = writeAt buf offset value := by
  unfold storeAt
  by_cases inside : offset + value.length ≤ buf.length
  · rw [if_pos inside, Except.ok.injEq]
    exact ⟨fun same => ⟨inside, same.symm⟩, fun both => both.2.symm⟩
  · rw [if_neg inside]
    constructor
    · intro impossible
      cases impossible
    · rintro ⟨contrary, _⟩
      exact absurd contrary inside

/-- Two writes, one right behind the other, are one. -/
theorem writeAt_writeAt {buf first second : Bytes} {offset : Nat}
    (inside : offset + first.length + second.length ≤ buf.length) :
    writeAt (writeAt buf offset first) (offset + first.length) second =
      writeAt buf offset (first ++ second) := by
  have taken : (buf.take offset).length = offset := by
    rw [List.length_take, Nat.min_eq_left (by omega)]
  have front : (buf.take offset ++ first).length = offset + first.length := by
    rw [List.length_append, taken]
  unfold writeAt
  rw [← front, List.take_left, List.drop_length_add_append, List.drop_drop, front,
    List.length_append, Nat.add_assoc, List.append_assoc (buf.take offset)]

def zeros (count : Nat) : Bytes := List.replicate count 0

@[simp] theorem zeros_length (count : Nat) : (zeros count).length = count :=
  List.length_replicate

theorem zeros_add (first second : Nat) : zeros (first + second) = zeros first ++ zeros second :=
  List.replicate_append_replicate.symm

/-- Overwrite a part of the buffer whose surroundings are known. -/
theorem writeAt_middle (before old after value : Bytes) (same : old.length = value.length) :
    writeAt (before ++ (old ++ after)) before.length value = before ++ (value ++ after) := by
  unfold writeAt
  rw [List.take_left, ← same, List.drop_length_add_append, List.drop_left, List.append_assoc]

/-- Writing at the end of the finished part of a zeroed buffer appends. -/
theorem writeAt_zeros (done value : Bytes) (size room offset : Nat)
    (atEnd : offset = done.length) (sized : size = value.length + room) :
    writeAt (done ++ zeros size) offset value = done ++ (value ++ zeros room) := by
  subst atEnd sized
  rw [zeros_add, writeAt_middle done (zeros value.length) (zeros room) value (zeros_length _)]

/-! ## Big-endian integers -/

/-- The `width` low-order bytes of a number, most significant first. -/
def beBytes : Nat -> Nat -> Bytes
  | 0, _ => []
  | width + 1, value => beBytes width (value / 256) ++ [UInt8.ofNat value]

/-- The number a big-endian byte string denotes. -/
def beNat (bytes : Bytes) : Nat := bytes.foldl (fun high byte => high * 256 + byte.toNat) 0

@[simp] theorem beBytes_length (width value : Nat) : (beBytes width value).length = width := by
  induction width generalizing value with
  | zero => rfl
  | succ width ih => rw [beBytes, List.length_append, ih, List.length_singleton]

theorem beNat_concat (bytes : Bytes) (byte : UInt8) :
    beNat (bytes ++ [byte]) = beNat bytes * 256 + byte.toNat := by
  simp [beNat, List.foldl_append]

theorem beNat_beBytes (width value : Nat) : beNat (beBytes width value) = value % 256 ^ width := by
  induction width generalizing value with
  | zero => simp [beBytes, beNat, Nat.mod_one]
  | succ width ih =>
      have lowByte : (UInt8.ofNat value).toNat = value % 256 := by simp
      rw [beBytes, beNat_concat, ih, lowByte, pow_succ', Nat.mod_mul]
      omega

/-- At a width that holds the value nothing is lost. -/
theorem beNat_beBytes_of_lt {width value : Nat} (fits : value < 256 ^ width) :
    beNat (beBytes width value) = value := by
  rw [beNat_beBytes, Nat.mod_eq_of_lt fits]

/-- The number at some bytes is written as these bytes. -/
theorem beBytes_beNat {width : Nat} {bytes : Bytes} (sized : bytes.length = width) :
    beBytes width (beNat bytes) = bytes := by
  induction width generalizing bytes with
  | zero => exact (List.length_eq_zero_iff.mp sized).symm
  | succ width ih =>
      cases bytes using List.reverseRecOn with
      | nil => cases sized
      | append_singleton bytes byte =>
          have shorter : bytes.length = width := by
            rw [List.length_append, List.length_singleton] at sized
            omega
          have small := byte.toNat_lt
          have front : (beNat bytes * 256 + byte.toNat) / 256 = beNat bytes := by omega
          have lowByte : UInt8.ofNat (beNat bytes * 256 + byte.toNat) = byte := by
            rw [← UInt8.toNat_inj, UInt8.toNat_ofNat']
            omega
          rw [beNat_concat, beBytes, front, ih shorter, lowByte]

/-- Only the lower bytes of a number are written. -/
theorem beBytes_mod (width value : Nat) : beBytes width (value % 256 ^ width) = beBytes width value := by
  rw [← beNat_beBytes, beBytes_beNat (beBytes_length width value)]

/-- Some bytes stand for a number below the power of 256 of their count. -/
theorem beNat_lt (bytes : Bytes) : beNat bytes < 256 ^ bytes.length := by
  have same := congrArg beNat (beBytes_beNat (rfl : bytes.length = bytes.length))
  rw [beNat_beBytes] at same
  rw [← same]
  exact Nat.mod_lt _ (Nat.pow_pos (by decide))

theorem beBytes_injective {width first second : Nat} (firstFits : first < 256 ^ width)
    (secondFits : second < 256 ^ width) (same : beBytes width first = beBytes width second) :
    first = second := by
  rw [← beNat_beBytes_of_lt firstFits, same, beNat_beBytes_of_lt secondFits]

/-! ## Words that tell where they end -/

/-- Words of which none is empty or begins another can be cut apart in one way only. -/
theorem uniquelyDecodable_of_initial {Letter : Type u} {words : Set (List Letter)} (nonempty : [] ∉ words)
    (initial : forall first, first ∈ words -> forall second, second ∈ words -> first <+: second -> first = second) :
    InformationTheory.UniquelyDecodable words := by
  intro firsts
  induction firsts with
  | nil =>
      intro seconds _ areSeconds same
      cases seconds with
      | nil => rfl
      | cons second seconds =>
          rcases List.append_eq_nil_iff.mp same.symm with ⟨rfl, _⟩
          exact absurd (areSeconds [] List.mem_cons_self) nonempty
  | cons first firsts ih =>
      intro seconds areFirsts areSeconds same
      have isFirst := areFirsts first List.mem_cons_self
      cases seconds with
      | nil =>
          rcases List.append_eq_nil_iff.mp same with ⟨rfl, _⟩
          exact absurd isFirst nonempty
      | cons second seconds =>
          have isSecond := areSeconds second List.mem_cons_self
          rw [List.flatten_cons, List.flatten_cons] at same
          -- Of two words that begin the same letters, one begins the other.
          have sameHead : first = second := by
            rcases List.append_eq_append_iff.mp same with ⟨between, isLonger, _⟩ | ⟨between, isShorter, _⟩
            · exact initial first isFirst second isSecond ⟨between, isLonger.symm⟩
            · exact (initial second isSecond first isFirst ⟨between, isShorter.symm⟩).symm
          rw [sameHead] at same ⊢
          rw [ih seconds (fun word isWord => areFirsts word (List.mem_cons_of_mem _ isWord))
            (fun word isWord => areSeconds word (List.mem_cons_of_mem _ isWord)) (List.append_cancel_left same)]

end Foundation
end P2pSdk
