import Mathlib.Logic.Relation

namespace P2pSdk
namespace Foundation

universe u v

/-!
# Labelled transition systems

A run is a finite sequence of labelled steps from an initial state.  The
labels carry everything a run chooses: the operation called, the clock value,
the datagram delivered.  A condition on runs is a predicate on the state
before a step together with the label of that step; `restrict` keeps exactly
the steps that meet it, so that "every run whose steps all meet the condition"
is reachability in the restricted system.

The induction over a run is made here once.  Every safety theorem of the
development is an invariant of `Reachable`.
-/

/-- Initial states and labelled steps. -/
structure TransitionSystem (State : Type u) (Label : Type v) where
  initial : State -> Prop
  step : State -> Label -> State -> Prop

namespace TransitionSystem

variable {State : Type u} {Label : Type v}

/-- The states that finite runs end in. -/
inductive Reachable (system : TransitionSystem State Label) : State -> Prop
  | start {state : State} : system.initial state -> Reachable system state
  | step {before after : State} {label : Label} :
      Reachable system before -> system.step before label after -> Reachable system after

/-- Keep the steps whose source state and label are allowed. -/
def restrict (system : TransitionSystem State Label) (allowed : State -> Label -> Prop) :
    TransitionSystem State Label where
  initial := system.initial
  step := fun before label after => allowed before label ∧ system.step before label after

/-- A step of a run: the state before it is reachable. -/
def ReachableStep (system : TransitionSystem State Label)
    (before : State) (label : Label) (after : State) : Prop :=
  system.Reachable before ∧ system.step before label after

variable {system : TransitionSystem State Label}

/-- What holds initially and is kept by every step holds in every reachable state. -/
theorem Reachable.invariant (holds : State -> Prop) {state : State}
    (reachable : system.Reachable state)
    (initially : forall start, system.initial start -> holds start)
    (preserved : forall before label after,
      holds before -> system.step before label after -> holds after) :
    holds state := by
  induction reachable with
  | start isInitial => exact initially _ isInitial
  | step _ stepped ih => exact preserved _ _ _ ih stepped

/-- The invariant rule when the step lemma itself uses an earlier invariant,
through the reachability of the state before the step. -/
theorem Reachable.invariant_of_reachable (holds : State -> Prop) {state : State}
    (reachable : system.Reachable state)
    (initially : forall start, system.initial start -> holds start)
    (preserved : forall before label after, system.Reachable before ->
      holds before -> system.step before label after -> holds after) :
    holds state := by
  induction reachable with
  | start isInitial => exact initially _ isInitial
  | step earlier stepped ih => exact preserved _ _ _ earlier ih stepped

/-- Restricting the steps only removes runs. -/
theorem Reachable.of_restrict {allowed : State -> Label -> Prop} {state : State}
    (reachable : (system.restrict allowed).Reachable state) : system.Reachable state := by
  induction reachable with
  | start isInitial => exact .start isInitial
  | step _ stepped ih => exact .step ih stepped.2

/-! ## Concrete runs -/

/-- Take a sequence of steps of a partial step function, each allowed where it
is taken. -/
def perform (next : State -> Label -> Option State) (allowed : State -> Label -> Bool) :
    State -> List Label -> Option State
  | state, [] => some state
  | state, label :: rest =>
      if allowed state label then
        match next state label with
        | some after => perform next allowed after rest
        | none => none
      else none

section Concrete

variable {next : State -> Label -> Option State} {allowed : State -> Label -> Bool}
  (condition : State -> Label -> Prop)

theorem Reachable.perform
    (steps : forall before label after, next before label = some after ->
      system.step before label after)
    (meets : forall state label, allowed state label = true -> condition state label)
    {state after : State} {labels : List Label}
    (reachable : (system.restrict condition).Reachable state)
    (performed : TransitionSystem.perform next allowed state labels = some after) :
    (system.restrict condition).Reachable after := by
  induction labels generalizing state with
  | nil =>
      cases performed
      exact reachable
  | cons label rest ih =>
      unfold TransitionSystem.perform at performed
      cases permitted : allowed state label with
      | false =>
          rw [permitted] at performed
          cases performed
      | true =>
          cases stepped : next state label with
          | none =>
              rw [permitted, stepped] at performed
              cases performed
          | some middle =>
              rw [permitted, stepped] at performed
              exact ih (.step reachable ⟨meets state label permitted, steps _ _ _ stepped⟩)
                performed

/-- A run given by its labels, and a test of the state it ends in. -/
theorem exists_reachable
    (steps : forall before label after, next before label = some after ->
      system.step before label after)
    (meets : forall state label, allowed state label = true -> condition state label)
    {start : State} {labels : List Label} {test : State -> Bool} (initially : system.initial start)
    (ends : (perform next allowed start labels).any test = true) :
    exists state, (system.restrict condition).Reachable state ∧ test state = true := by
  rcases (Option.any_eq_true _ _).mp ends with ⟨state, performed, passes⟩
  exact ⟨state, .perform condition steps meets (.start initially) performed, passes⟩

end Concrete

end TransitionSystem

/-! ## Termination -/

/-- Where every state of a kind has a successor of the same kind, runs do not end. -/
theorem not_acc_of_again {State : Type u} {next : State -> State -> Prop} (again : State -> Prop)
    (onward : forall before, again before -> exists after, next before after ∧ again after)
    {state : State} (here : again state) : ¬ Acc (fun after before => next before after) state := by
  intro ends
  induction ends with
  | intro before _ ih =>
      rcases onward before here with ⟨after, stepped, there⟩
      exact ih after stepped there

end Foundation
end P2pSdk
