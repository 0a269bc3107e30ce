import P2pSdk.Foundation.Threads

namespace P2pSdk
namespace Foundation

universe u v w x

/-!
# Turns of a loop

A thread that runs a loop takes a turn: from a program point inside the loop
back to its head.  Other threads may change the shared state between any two of
its steps; `others k` stands for all they do after step `k`, and `inputs k` is
what the environment supplies to that step.  A turn is determined by these, so
that to exhibit one is to show that the thread returns to the head of its loop.
-/

/-- What one step of a thread did to the shared state, and what it let be observed. -/
structure Transition (Shared : Type u) (Note : Type w) where
  before : Shared
  after : Shared
  note : Note

variable {Shared : Type u} {Thread : Type v} {Note : Type w} {Input : Type x}

section Turns

variable (step : Shared -> Thread -> Input -> Option (Outcome Shared Thread Note))
  (atHead : Thread -> Bool) (inputs : Nat -> Input) (others : Nat -> Shared -> Shared)

/-- The transitions from step `k` on until the thread is at the head of its loop. -/
inductive Turn : Nat -> Shared -> Thread -> List (Transition Shared Note) -> Prop
  | returned {k : Nat} {shared : Shared} {thread : Thread} :
      atHead thread = true -> Turn k shared thread []
  | step {k : Nat} {shared : Shared} {thread : Thread} {outcome : Outcome Shared Thread Note}
      {rest : List (Transition Shared Note)} :
      atHead thread = false -> step shared thread (inputs k) = some outcome ->
      Turn (k + 1) (others k outcome.shared) outcome.thread rest ->
      Turn k shared thread (⟨shared, outcome.shared, outcome.note⟩ :: rest)

variable {step atHead inputs others}

/-- A turn is determined by where it starts. -/
theorem Turn.unique {k : Nat} {shared : Shared} {thread : Thread}
    {first second : List (Transition Shared Note)}
    (isFirst : Turn step atHead inputs others k shared thread first)
    (isSecond : Turn step atHead inputs others k shared thread second) : first = second := by
  induction isFirst generalizing second with
  | returned home =>
      cases isSecond with
      | returned _ => rfl
      | step away _ _ =>
          rw [home] at away
          cases away
  | step away stepped _ ih =>
      cases isSecond with
      | returned home =>
          rw [home] at away
          cases away
      | step _ again later =>
          rw [stepped] at again
          cases again
          rw [ih later]

end Turns

end Foundation
end P2pSdk
