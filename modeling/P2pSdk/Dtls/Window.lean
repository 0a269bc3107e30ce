import P2pSdk.Foundation.SlidingWindow
import Mathlib.Data.List.Induction
import Mathlib.Data.List.Nodup
import Mathlib.Data.Nat.Bitwise

namespace P2pSdk
namespace Dtls

open Foundation

/-!
# The replay window (`window.rs`)

The window keeps the newest sequence number and one bit for each of the 64
numbers that end there.  It refines a `SlidingWindow` of width 64.
-/

structure ReplayWindow where
  maxSeq : UInt64
  window : UInt64
  deriving DecidableEq, Repr

namespace ReplayWindow

def new : ReplayWindow := ⟨0, 0⟩

/-- Whether the sequence number is acceptable: no replay, and not too old. -/
def check (self : ReplayWindow) (seqno : UInt64) : Bool :=
  if seqno > self.maxSeq then true
  else
    let offset := self.maxSeq - seqno
    if offset ≥ 64 then false
    else
      let mask := (1 : UInt64) <<< offset
      (self.window &&& mask) == 0

/-- Record that the sequence number was received. -/
def update (self : ReplayWindow) (seqno : UInt64) : ReplayWindow :=
  if seqno > self.maxSeq then
    let delta := seqno - self.maxSeq
    { maxSeq := seqno
      window := if delta > 63 then 1 else (self.window <<< delta) ||| 1 }
  else
    let offset := self.maxSeq - seqno
    if offset < 64 then { self with window := self.window ||| ((1 : UInt64) <<< offset) } else self

/-- What the record layer does with a record: the window is updated when the
record passes the check and is authentic. -/
def receive (self : ReplayWindow) (seqno : UInt64) (authentic : Bool) : ReplayWindow × Bool :=
  if self.check seqno && authentic then (self.update seqno, true) else (self, false)

/-! ## Bits -/

/-- The bit of the window for an offset. -/
def bit (self : ReplayWindow) (offset : Nat) : Bool := self.window.toNat.testBit offset

/-- The abstract window. -/
def abstraction (self : ReplayWindow) : SlidingWindow := ⟨self.maxSeq.toNat, self.bit⟩

theorem toNat_mask {offset : UInt64} (small : offset.toNat < 64) :
    ((1 : UInt64) <<< offset).toNat = 2 ^ offset.toNat := by
  rw [UInt64.toNat_shiftLeft, Nat.mod_eq_of_lt small, Nat.shiftLeft_eq]
  have fits : 2 ^ offset.toNat < 2 ^ 64 := Nat.pow_lt_pow_right (by decide) small
  rw [show (1 : UInt64).toNat = 1 from rfl, Nat.one_mul, Nat.mod_eq_of_lt fits]

theorem and_mask_eq_zero {window offset : UInt64} (small : offset.toNat < 64) :
    ((window &&& (1 : UInt64) <<< offset) == 0) = !window.toNat.testBit offset.toNat := by
  have same : (window &&& (1 : UInt64) <<< offset).toNat =
      (window.toNat.testBit offset.toNat).toNat * 2 ^ offset.toNat := by
    rw [UInt64.toNat_and, toNat_mask small, Nat.and_two_pow]
  have isZero : (window &&& (1 : UInt64) <<< offset) = 0 <->
      (window.toNat.testBit offset.toNat).toNat * 2 ^ offset.toNat = 0 := by
    rw [← UInt64.toNat_inj, same]
    rfl
  cases marked : window.toNat.testBit offset.toNat with
  | true =>
      rw [marked] at isZero
      have positive : 0 < 2 ^ offset.toNat := Nat.two_pow_pos _
      have apart : ¬ (window &&& (1 : UInt64) <<< offset) = 0 := by
        intro contrary
        have := isZero.mp contrary
        simp only [Bool.toNat_true, Nat.one_mul] at this
        omega
      simpa using apart
  | false =>
      rw [marked] at isZero
      simpa using isZero.mpr (by simp)

theorem testBit_or_mask {window offset : UInt64} (small : offset.toNat < 64) (index : Nat) :
    (window ||| (1 : UInt64) <<< offset).toNat.testBit index =
      (window.toNat.testBit index || (index == offset.toNat)) := by
  rw [UInt64.toNat_or, Nat.testBit_or, toNat_mask small, Nat.testBit_two_pow]
  congr 1
  rw [Bool.eq_iff_iff, decide_eq_true_eq, beq_iff_eq]
  exact eq_comm

theorem testBit_shift {window delta : UInt64} (small : delta.toNat < 64) {index : Nat} (inside : index < 64) :
    (window <<< delta ||| 1).toNat.testBit index =
      (index == 0 || (decide (delta.toNat ≤ index) && window.toNat.testBit (index - delta.toNat))) := by
  rw [UInt64.toNat_or, Nat.testBit_or, UInt64.toNat_shiftLeft, Nat.mod_eq_of_lt small, Nat.testBit_mod_two_pow,
    Nat.testBit_shiftLeft, decide_eq_true inside, Bool.true_and, Bool.or_comm]
  congr 1
  rw [show (1 : UInt64).toNat = 2 ^ 0 from rfl, Nat.testBit_two_pow, Bool.eq_iff_iff, decide_eq_true_eq,
    beq_iff_eq]
  exact eq_comm

/-! ## Refinement -/

theorem check_eq (self : ReplayWindow) (seqno : UInt64) :
    self.check seqno = self.abstraction.check 64 seqno.toNat := by
  unfold check SlidingWindow.check
  by_cases newer : seqno > self.maxSeq
  · have newerNat : self.abstraction.newest < seqno.toNat := UInt64.lt_iff_toNat_lt.mp newer
    rw [if_pos newer, if_pos newerNat]
  · have notNewer : ¬ self.abstraction.newest < seqno.toNat := fun contrary =>
      newer (UInt64.lt_iff_toNat_lt.mpr contrary)
    have below : seqno ≤ self.maxSeq := UInt64.le_iff_toNat_le.mpr (Nat.le_of_not_lt notNewer)
    have offset : (self.maxSeq - seqno).toNat = self.abstraction.newest - seqno.toNat :=
      UInt64.toNat_sub_of_le _ _ below
    rw [if_neg newer, if_neg notNewer]
    dsimp only
    rw [← offset]
    by_cases old : self.maxSeq - seqno ≥ 64
    · have oldNat : ¬ (self.maxSeq - seqno).toNat < 64 := Nat.not_lt.mpr (UInt64.le_iff_toNat_le.mp old)
      rw [if_pos old, decide_eq_false oldNat, Bool.false_and]
    · have small : (self.maxSeq - seqno).toNat < 64 := by
        rw [ge_iff_le, UInt64.le_iff_toNat_le] at old
        exact Nat.lt_of_not_le old
      rw [if_neg old, and_mask_eq_zero small, decide_eq_true small, Bool.true_and]
      rfl

theorem update_newest (self : ReplayWindow) (seqno : UInt64) :
    (self.update seqno).abstraction.newest = (self.abstraction.update 64 seqno.toNat).newest := by
  unfold update SlidingWindow.update
  by_cases newer : seqno > self.maxSeq
  · have newerNat : self.abstraction.newest < seqno.toNat := UInt64.lt_iff_toNat_lt.mp newer
    rw [if_pos newer, if_pos newerNat]
    rfl
  · have notNewer : ¬ self.abstraction.newest < seqno.toNat := fun contrary =>
      newer (UInt64.lt_iff_toNat_lt.mpr contrary)
    rw [if_neg newer, if_neg notNewer]
    dsimp only
    split
    · rfl
    · rfl

theorem update_marked (self : ReplayWindow) (seqno : UInt64) {offset : Nat} (inside : offset < 64) :
    (self.update seqno).abstraction.marked offset =
      (self.abstraction.update 64 seqno.toNat).marked offset := by
  unfold update SlidingWindow.update
  by_cases newer : seqno > self.maxSeq
  · have newerNat : self.abstraction.newest < seqno.toNat := UInt64.lt_iff_toNat_lt.mp newer
    have delta : (seqno - self.maxSeq).toNat = seqno.toNat - self.abstraction.newest :=
      UInt64.toNat_sub_of_le _ _ (UInt64.le_of_lt newer)
    rw [if_pos newer, if_pos newerNat]
    dsimp only [abstraction, bit]
    rw [show self.maxSeq.toNat = self.abstraction.newest from rfl, ← delta]
    by_cases far : seqno - self.maxSeq > 63
    · have farNat : ¬ (seqno - self.maxSeq).toNat < 64 := Nat.not_lt.mpr (UInt64.lt_iff_toNat_lt.mp far)
      rw [if_pos far, decide_eq_false farNat, Bool.false_and, Bool.false_and, Bool.or_false]
      rw [show (1 : UInt64).toNat = 2 ^ 0 from rfl, Nat.testBit_two_pow, Bool.eq_iff_iff, decide_eq_true_eq,
        beq_iff_eq]
      exact eq_comm
    · have small : (seqno - self.maxSeq).toNat < 64 := by
        rw [gt_iff_lt, UInt64.lt_iff_toNat_lt] at far
        exact Nat.lt_succ_of_le (Nat.le_of_not_lt far)
      rw [if_neg far, decide_eq_true small, Bool.true_and, testBit_shift small inside]
  · have notNewer : ¬ self.abstraction.newest < seqno.toNat := fun contrary =>
      newer (UInt64.lt_iff_toNat_lt.mpr contrary)
    have below : seqno ≤ self.maxSeq := UInt64.le_iff_toNat_le.mpr (Nat.le_of_not_lt notNewer)
    have distance : (self.maxSeq - seqno).toNat = self.abstraction.newest - seqno.toNat :=
      UInt64.toNat_sub_of_le _ _ below
    rw [if_neg newer, if_neg notNewer]
    dsimp only
    rw [← distance, decide_eq_true inside, Bool.true_and]
    by_cases close : self.maxSeq - seqno < 64
    · have small : (self.maxSeq - seqno).toNat < 64 := UInt64.lt_iff_toNat_lt.mp close
      rw [if_pos close]
      exact testBit_or_mask small offset
    · have old : 64 ≤ (self.maxSeq - seqno).toNat := Nat.le_of_not_lt fun contrary =>
        close (UInt64.lt_iff_toNat_lt.mpr contrary)
      have apart : (offset == (self.maxSeq - seqno).toNat) = false := beq_false_of_ne (by omega)
      rw [if_neg close, apart, Bool.or_false]

/-- The window is that of a receiver which took these sequence numbers. -/
def Took (self : ReplayWindow) (taken : List UInt64) : Prop :=
  self.abstraction.Represents 64 (taken.map UInt64.toNat)

theorem took_new : new.Took [] := by
  refine SlidingWindow.represents_empty.of_agrees rfl fun offset _ => ?_
  exact Nat.zero_testBit offset

theorem Took.update {self : ReplayWindow} {taken : List UInt64} (took : self.Took taken) (seqno : UInt64) :
    (self.update seqno).Took (seqno :: taken) :=
  (SlidingWindow.Represents.update took seqno.toNat).of_agrees (self.update_newest seqno)
    fun _ inside => self.update_marked seqno inside

theorem Took.check_iff {self : ReplayWindow} {taken : List UInt64} (took : self.Took taken) (seqno : UInt64) :
    self.check seqno = true <-> Fresh 64 (taken.map UInt64.toNat) seqno.toNat := by
  rw [check_eq]
  exact SlidingWindow.Represents.check_iff (by decide) took seqno.toNat

/-- A sequence number that passes the check was not taken. -/
theorem Took.not_mem {self : ReplayWindow} {taken : List UInt64} (took : self.Took taken) {seqno : UInt64}
    (passes : self.check seqno = true) : seqno ∉ taken :=
  fun contrary => ((took.check_iff seqno).mp passes).1 (List.mem_map_of_mem contrary)

/-- A sequence number that was taken is refused. -/
theorem Took.refuses {self : ReplayWindow} {taken : List UInt64} (took : self.Took taken) {seqno : UInt64}
    (isTaken : seqno ∈ taken) : self.check seqno = false :=
  Bool.eq_false_of_not_eq_true fun passes =>
    not_fresh_of_taken (List.mem_map_of_mem isTaken) ((took.check_iff seqno).mp passes)

/-- What is refused is refused for ever. -/
theorem Took.refuses_update {self : ReplayWindow} {taken : List UInt64} (took : self.Took taken) {seqno : UInt64}
    (refused : self.check seqno = false) (other : UInt64) : (self.update other).check seqno = false := by
  refine Bool.eq_false_of_not_eq_true fun passes => ?_
  have fresh := ((took.update other).check_iff seqno).mp passes
  rw [List.map_cons] at fresh
  have stillFresh := (took.check_iff seqno).mpr (fresh_of_cons fresh)
  cases refused.symm.trans stillFresh

/-! ## Runs -/

/-- The records of a run, newest last: the window after them, and the sequence
numbers accepted, newest first. -/
def receiveAll : List (UInt64 × Bool) -> ReplayWindow × List UInt64 :=
  List.foldl
    (fun run record =>
      let outcome := run.1.receive record.1 record.2
      (outcome.1, if outcome.2 then record.1 :: run.2 else run.2))
    (new, [])

theorem receiveAll_took (records : List (UInt64 × Bool)) :
    (receiveAll records).1.Took (receiveAll records).2 ∧ (receiveAll records).2.Nodup := by
  induction records using List.reverseRecOn with
  | nil => exact ⟨took_new, List.nodup_nil⟩
  | append_singleton records record ih =>
      unfold receiveAll at ih ⊢
      rw [List.foldl_append]
      generalize List.foldl _ (new, []) records = run at ih ⊢
      rw [List.foldl_cons, List.foldl_nil]
      dsimp only
      by_cases passes : (run.1.check record.1 && record.2) = true
      · have outcome : run.1.receive record.1 record.2 = (run.1.update record.1, true) := if_pos passes
        rw [outcome, if_pos rfl]
        rw [Bool.and_eq_true] at passes
        exact ⟨ih.1.update record.1, List.nodup_cons.mpr ⟨ih.1.not_mem passes.1, ih.2⟩⟩
      · have outcome : run.1.receive record.1 record.2 = (run.1, false) := if_neg passes
        rw [outcome, if_neg Bool.false_ne_true]
        exact ih

/-- Over any run of records, authentic or not, no sequence number is accepted
twice, and the next one passes the check exactly when it was not accepted
before and no accepted one is 64 or more above it. -/
theorem replay_window_exact (records : List (UInt64 × Bool)) (seqno : UInt64) :
    (receiveAll records).2.Nodup ∧
      ((receiveAll records).1.check seqno = true <->
        seqno ∉ (receiveAll records).2 ∧
          forall other, other ∈ (receiveAll records).2 -> other.toNat < seqno.toNat + 64) := by
  rcases receiveAll_took records with ⟨took, distinct⟩
  refine ⟨distinct, (took.check_iff seqno).trans (and_congr (not_congr ?_) ?_)⟩
  · rw [List.mem_map]
    exact ⟨fun ⟨other, isTaken, same⟩ => UInt64.toNat_inj.mp same ▸ isTaken, fun isTaken => ⟨seqno, isTaken, rfl⟩⟩
  · constructor
    · intro close other isTaken
      exact close _ (List.mem_map_of_mem isTaken)
    · intro close number isNumber
      rcases List.mem_map.mp isNumber with ⟨other, isTaken, rfl⟩
      exact close other isTaken

end ReplayWindow

end Dtls
end P2pSdk
