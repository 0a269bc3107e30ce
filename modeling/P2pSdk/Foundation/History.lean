import P2pSdk.Foundation.TransitionSystem

namespace P2pSdk
namespace Foundation

universe u v w

/-!
# Runs that remember

A property that looks back over a run cannot be read off the state.  A
recorder adds what it needs to the state: a memory that starts empty and that
every step extends from the states around it and its label.  Remembering takes
no run away and adds none: the runs of the system are those of the remembering
system with the memory left out, so what holds of every reachable state with
its memory holds of every run.
-/

/-- The memory of a run without steps, and what a step makes of it. -/
structure Recorder (State : Type u) (Label : Type v) (Memory : Type w) where
  start : Memory
  record : State -> Label -> State -> Memory -> Memory

namespace TransitionSystem

variable {State : Type u} {Label : Type v} {Memory : Type w}

/-- The system with a memory beside its state. -/
def remember (system : TransitionSystem State Label) (recorder : Recorder State Label Memory) :
    TransitionSystem (State × Memory) Label where
  initial := fun run => system.initial run.1 ∧ run.2 = recorder.start
  step := fun before label after => system.step before.1 label after.1 ∧
    after.2 = recorder.record before.1 label after.1 before.2

variable {system : TransitionSystem State Label} {recorder : Recorder State Label Memory}

/-- Without its memory, a remembering run is a run. -/
theorem Reachable.forget {run : State × Memory}
    (reachable : (system.remember recorder).Reachable run) : system.Reachable run.1 := by
  induction reachable with
  | start isInitial => exact .start isInitial.1
  | step _ stepped ih => exact .step ih stepped.1

/-- Every run can be remembered. -/
theorem Reachable.remembered (recorder : Recorder State Label Memory) {state : State}
    (reachable : system.Reachable state) :
    exists memory, (system.remember recorder).Reachable (state, memory) := by
  induction reachable with
  | start isInitial => exact ⟨_, .start ⟨isInitial, rfl⟩⟩
  | @step before after label _ stepped ih =>
      rcases ih with ⟨memory, earlier⟩
      exact ⟨recorder.record before label after memory, .step earlier ⟨stepped, rfl⟩⟩

/-- What holds at the start with an empty memory and is kept by every step,
from a reachable state, holds in every reachable state with its memory. -/
theorem Reachable.remembered_invariant (holds : State -> Memory -> Prop) {run : State × Memory}
    (reachable : (system.remember recorder).Reachable run)
    (initially : forall state, system.initial state -> holds state recorder.start)
    (preserved : forall before memory label after, system.Reachable before ->
      holds before memory -> system.step before label after ->
      holds after (recorder.record before label after memory)) :
    holds run.1 run.2 := by
  induction reachable with
  | start isInitial =>
      rw [isInitial.2]
      exact initially _ isInitial.1
  | step earlier stepped ih =>
      rw [stepped.2]
      exact preserved _ _ _ _ earlier.forget ih stepped.1

/-! ## Concrete runs -/

/-- A step of a partial step function, remembered. -/
def recordNext (recorder : Recorder State Label Memory) (next : State -> Label -> Option State)
    (run : State × Memory) (label : Label) : Option (State × Memory) :=
  (next run.1 label).map fun after => (after, recorder.record run.1 label after run.2)

theorem recordNext_step {next : State -> Label -> Option State}
    (steps : forall before label after, next before label = some after ->
      system.step before label after)
    {before after : State × Memory} {label : Label}
    (stepped : recordNext recorder next before label = some after) :
    (system.remember recorder).step before label after := by
  rcases Option.map_eq_some_iff.mp stepped with ⟨state, isState, rfl⟩
  exact ⟨steps _ _ _ isState, rfl⟩

/-- Steps may be left out before or after remembering. -/
theorem Reachable.restrict_remember {allowed : State -> Label -> Prop} {run : State × Memory}
    (reachable : ((system.remember recorder).restrict fun run => allowed run.1).Reachable run) :
    ((system.restrict allowed).remember recorder).Reachable run := by
  induction reachable with
  | start isInitial => exact .start isInitial
  | step _ stepped ih => exact .step ih ⟨⟨stepped.1, stepped.2.1⟩, stepped.2.2⟩

/-- Leaving steps out only removes remembering runs. -/
theorem Reachable.of_restrict_remember {allowed : State -> Label -> Prop} {run : State × Memory}
    (reachable : ((system.restrict allowed).remember recorder).Reachable run) :
    (system.remember recorder).Reachable run := by
  induction reachable with
  | start isInitial => exact .start isInitial
  | step _ stepped ih => exact .step ih ⟨stepped.1.2, stepped.2⟩

/-- A condition that every step meets leaves nothing out. -/
theorem Reachable.restrict_all {allowed : State -> Label -> Prop}
    (all : forall state label, allowed state label) {run : State × Memory}
    (reachable : (system.remember recorder).Reachable run) :
    ((system.restrict allowed).remember recorder).Reachable run := by
  induction reachable with
  | start isInitial => exact .start isInitial
  | step _ stepped ih => exact .step ih ⟨⟨all _ _, stepped.1⟩, stepped.2⟩

/-- A run given by its labels, and a test of the state and the memory it ends in. -/
theorem exists_remembered (recorder : Recorder State Label Memory)
    {next : State -> Label -> Option State} {allowed : State -> Label -> Bool}
    (condition : State -> Label -> Prop)
    (steps : forall before label after, next before label = some after ->
      system.step before label after)
    (meets : forall state label, allowed state label = true -> condition state label)
    {start : State} {labels : List Label} {test : State × Memory -> Bool}
    (initially : system.initial start)
    (ends : (perform (recordNext recorder next) (fun run => allowed run.1) (start, recorder.start)
      labels).any test = true) :
    exists run, ((system.restrict condition).remember recorder).Reachable run ∧ test run = true := by
  rcases exists_reachable (fun run => condition run.1)
    (fun _ _ _ stepped => recordNext_step steps stepped)
    (fun run => meets run.1) ⟨initially, rfl⟩ ends with ⟨run, reachable, passes⟩
  exact ⟨run, reachable.restrict_remember, passes⟩

end TransitionSystem
end Foundation
end P2pSdk
