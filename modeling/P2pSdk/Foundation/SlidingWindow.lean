import Mathlib.Data.List.Basic

namespace P2pSdk
namespace Foundation

/-!
# Sliding windows

A receiver that must take no number twice, but cannot remember every number it
took, remembers the newest one and marks for the `width` numbers that end
there.  A number below the window counts as taken.

`Fresh` says in terms of the numbers taken so far what such a receiver still
accepts.  `SlidingWindow.Represents` ties the marks to these numbers; a window
kept in a machine word only has to agree with one of these on the offsets
below the width.
-/

/-- The number was not taken, and no number taken is `width` or more above it. -/
def Fresh (width : Nat) (taken : List Nat) (number : Nat) : Prop :=
  number ∉ taken ∧ forall other, other ∈ taken -> other < number + width

/-- The newest number, and a mark for each distance below it. -/
structure SlidingWindow where
  newest : Nat
  marked : Nat -> Bool

namespace SlidingWindow

variable {width : Nat}

/-- Whether a number may still be taken. -/
def check (width : Nat) (window : SlidingWindow) (number : Nat) : Bool :=
  if window.newest < number then true
  else
    let offset := window.newest - number
    decide (offset < width) && !window.marked offset

/-- Take a number. -/
def update (width : Nat) (window : SlidingWindow) (number : Nat) : SlidingWindow :=
  if window.newest < number then
    let delta := number - window.newest
    { newest := number
      marked := fun offset =>
        offset == 0 || (decide (delta < width) && decide (delta ≤ offset) && window.marked (offset - delta)) }
  else
    { window with
      marked := fun offset =>
        window.marked offset || (decide (offset < width) && (offset == window.newest - number)) }

/-- The window is that of a receiver which took these numbers. -/
structure Represents (width : Nat) (window : SlidingWindow) (taken : List Nat) : Prop where
  below : forall number, number ∈ taken -> number ≤ window.newest
  reached : window.newest ∈ taken ∨ (taken = [] ∧ window.newest = 0)
  marks : forall offset, offset < width ->
    (window.marked offset = true <-> offset ≤ window.newest ∧ window.newest - offset ∈ taken)

/-- Only the marks inside the window count. -/
theorem Represents.of_agrees {window other : SlidingWindow} {taken : List Nat}
    (represents : Represents width window taken) (newest : other.newest = window.newest)
    (marks : forall offset, offset < width -> other.marked offset = window.marked offset) :
    Represents width other taken := by
  refine ⟨?_, ?_, ?_⟩
  · rw [newest]
    exact represents.below
  · rw [newest]
    exact represents.reached
  · intro offset inside
    rw [newest, marks offset inside]
    exact represents.marks offset inside

theorem represents_empty : Represents width ⟨0, fun _ => false⟩ [] := by
  refine ⟨fun number contrary => absurd contrary List.not_mem_nil, Or.inr ⟨rfl, rfl⟩, ?_⟩
  intro offset _
  simp

/-- The check passes exactly for the fresh numbers. -/
theorem Represents.check_iff {window : SlidingWindow} {taken : List Nat} (positive : 0 < width)
    (represents : Represents width window taken) (number : Nat) :
    window.check width number = true <-> Fresh width taken number := by
  unfold check
  by_cases newer : window.newest < number
  · rw [if_pos newer]
    refine ⟨fun _ => ⟨?_, ?_⟩, fun _ => rfl⟩
    · intro contrary
      have := represents.below number contrary
      omega
    · intro other isTaken
      have := represents.below other isTaken
      omega
  · rw [if_neg newer, Bool.and_eq_true, decide_eq_true_eq, Bool.not_eq_true']
    have back : window.newest - (window.newest - number) = number := by omega
    constructor
    · rintro ⟨inside, unmarked⟩
      have marks := represents.marks _ inside
      rw [back, unmarked] at marks
      refine ⟨fun contrary => ?_, fun other isTaken => ?_⟩
      · exact Bool.false_ne_true (marks.mpr ⟨by omega, contrary⟩)
      · have := represents.below other isTaken
        omega
    · rintro ⟨untaken, close⟩
      have inside : window.newest - number < width := by
        rcases represents.reached with isTaken | ⟨_, isZero⟩
        · have := close _ isTaken
          omega
        · omega
      refine ⟨inside, ?_⟩
      have marks := represents.marks _ inside
      rw [back] at marks
      rw [← Bool.not_eq_true]
      exact fun contrary => untaken (marks.mp contrary).2

/-- Taking a number, whether it was fresh or not. -/
theorem Represents.update {window : SlidingWindow} {taken : List Nat}
    (represents : Represents width window taken) (number : Nat) :
    Represents width (window.update width number) (number :: taken) := by
  unfold SlidingWindow.update
  by_cases newer : window.newest < number
  · rw [if_pos newer]
    refine ⟨?_, Or.inl List.mem_cons_self, ?_⟩
    · intro other isTaken
      rcases List.mem_cons.mp isTaken with rfl | isTaken
      · exact Nat.le_refl _
      · have := represents.below other isTaken
        exact Nat.le_of_lt (Nat.lt_of_le_of_lt this newer)
    · intro offset inside
      simp only [Bool.or_eq_true, beq_iff_eq, Bool.and_eq_true, decide_eq_true_eq, List.mem_cons]
      constructor
      · rintro (rfl | ⟨⟨_, after⟩, marked⟩)
        · exact ⟨Nat.zero_le _, Or.inl (Nat.sub_zero _)⟩
        · rcases (represents.marks _ (by omega)).mp marked with ⟨reach, isTaken⟩
          have same : window.newest - (offset - (number - window.newest)) = number - offset := by omega
          rw [same] at isTaken
          exact ⟨by omega, Or.inr isTaken⟩
      · rintro ⟨reach, same | isTaken⟩
        · left
          omega
        · right
          have := represents.below _ isTaken
          have same : window.newest - (offset - (number - window.newest)) = number - offset := by omega
          refine ⟨⟨by omega, by omega⟩, (represents.marks _ (by omega)).mpr ⟨by omega, ?_⟩⟩
          rw [same]
          exact isTaken
  · rw [if_neg newer]
    refine ⟨?_, ?_, ?_⟩
    · intro other isTaken
      rcases List.mem_cons.mp isTaken with rfl | isTaken
      · exact Nat.le_of_not_lt newer
      · exact represents.below other isTaken
    · rcases represents.reached with isTaken | ⟨_, isZero⟩
      · exact Or.inl (List.mem_cons_of_mem _ isTaken)
      · refine Or.inl (List.mem_cons.mpr (Or.inl ?_))
        show window.newest = number
        omega
    · intro offset inside
      simp only [Bool.or_eq_true, beq_iff_eq, Bool.and_eq_true, decide_eq_true_eq, List.mem_cons]
      rw [represents.marks offset inside]
      constructor
      · rintro (⟨reach, isTaken⟩ | ⟨_, same⟩)
        · exact ⟨reach, Or.inr isTaken⟩
        · exact ⟨by omega, Or.inl (by omega)⟩
      · rintro ⟨reach, same | isTaken⟩
        · exact Or.inr ⟨inside, by omega⟩
        · exact Or.inl ⟨reach, isTaken⟩

end SlidingWindow

/-- What was fresh when it was taken is not fresh again. -/
theorem not_fresh_of_taken {width number : Nat} {taken : List Nat} (isTaken : number ∈ taken) :
    ¬ Fresh width taken number :=
  fun fresh => fresh.1 isTaken

/-- What is fresh was fresh before another number was taken. -/
theorem fresh_of_cons {width number other : Nat} {taken : List Nat} (fresh : Fresh width (other :: taken) number) :
    Fresh width taken number :=
  ⟨fun contrary => fresh.1 (List.mem_cons_of_mem _ contrary),
    fun earlier isEarlier => fresh.2 earlier (List.mem_cons_of_mem _ isEarlier)⟩

end Foundation
end P2pSdk
