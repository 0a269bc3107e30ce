import Mathlib.Data.List.Basic

namespace P2pSdk
namespace Foundation

universe u

/-!
# Computations on a state that may fail

What a computation did to the state before it failed stays done: the caller of
a method that returns an error still has the object.  So a computation returns
a state in either case.

`Ends` says what holds in the state that a computation leaves, for each of the
two ways in which it ends.  Its rules follow the operators, so that a statement
about a computation is taken apart in the order of its steps.  `Keeps` is the
special case of an invariant, which holds however the computation ends.
-/

/-- A computation on a state. -/
def Effect (State Fault Value : Type) : Type := State -> Except Fault Value × State

namespace Effect

variable {State Inner Fault Value Result : Type}

/-- One computation after the other.  The second is not run when the first fails. -/
def andThen (first : Effect State Fault Value) (next : Value -> Effect State Fault Result) :
    Effect State Fault Result := fun state =>
  match first state with
  | (.ok value, after) => next value after
  | (.error fault, after) => (.error fault, after)

instance : Monad (Effect State Fault) where
  pure value := fun state => (.ok value, state)
  bind := andThen

def get : Effect State Fault State := fun state => (.ok state, state)

def modify (change : State -> State) : Effect State Fault Unit := fun state => (.ok (), change state)

def fail (fault : Fault) : Effect State Fault Value := fun state => (.error fault, state)

/-- A result that was computed without the state. -/
def ofExcept (result : Except Fault Value) : Effect State Fault Value := fun state => (result, state)

/-- Run a computation on a part of the state. -/
def zoom (part : State -> Inner) (update : Inner -> State -> State) (action : Effect Inner Fault Value) :
    Effect State Fault Value := fun state =>
  ((action (part state)).1, update (action (part state)).2 state)

/-- Run a computation for each item in turn. -/
def each {Item : Type u} (items : List Item) (action : Item -> Effect State Fault Unit) :
    Effect State Fault Unit :=
  match items with
  | [] => pure ()
  | item :: rest => do
      action item
      each rest action

/-- What follows on a computation that is known to return. -/
theorem bind_of_ok {first : Effect State Fault Value} {before after : State} {value : Value}
    (ran : first before = (.ok value, after)) (next : Value -> Effect State Fault Result) :
    (first >>= next) before = next value after := by
  show andThen first next before = _
  unfold andThen
  rw [ran]

/-- What follows on a look at the state. -/
theorem get_bind (next : State -> Effect State Fault Result) (before : State) :
    (get >>= next) before = next before before := rfl

/-! ## How a computation ends -/

/-- The states in which a computation may end, by returning and by failing. -/
def Ends (action : Effect State Fault Value) (returned : Value -> State -> Prop)
    (failed : Fault -> State -> Prop) (before : State) : Prop :=
  match action before with
  | (.ok value, after) => returned value after
  | (.error fault, after) => failed fault after

section Rules

variable {action : Effect State Fault Value} {next : Value -> Effect State Fault Result}
  {returned : Value -> State -> Prop} {failed : Fault -> State -> Prop} {before : State}

theorem Ends.of_ok {value : Value} {after : State} (ends : action.Ends returned failed before)
    (ran : action before = (.ok value, after)) : returned value after := by
  unfold Ends at ends
  rwa [ran] at ends

theorem Ends.of_error {fault : Fault} {after : State} (ends : action.Ends returned failed before)
    (ran : action before = (.error fault, after)) : failed fault after := by
  unfold Ends at ends
  rwa [ran] at ends

theorem Ends.mono {returned' : Value -> State -> Prop} {failed' : Fault -> State -> Prop}
    (ends : action.Ends returned failed before)
    (weakerReturned : forall value after, returned value after -> returned' value after)
    (weakerFailed : forall fault after, failed fault after -> failed' fault after) :
    action.Ends returned' failed' before := by
  unfold Ends at ends ⊢
  split at ends
  · exact weakerReturned _ _ ends
  · exact weakerFailed _ _ ends

theorem Ends.and {returned' : Value -> State -> Prop} {failed' : Fault -> State -> Prop}
    (ends : action.Ends returned failed before) (ends' : action.Ends returned' failed' before) :
    action.Ends (fun value after => returned value after ∧ returned' value after)
      (fun fault after => failed fault after ∧ failed' fault after) before := by
  unfold Ends at ends ends' ⊢
  rcases found : action before with ⟨outcome, after⟩
  rw [found] at ends ends'
  cases outcome with
  | error fault => exact ⟨ends, ends'⟩
  | ok value => exact ⟨ends, ends'⟩

@[simp] theorem ends_pure {value : Value} :
    (pure value : Effect State Fault Value).Ends returned failed before <-> returned value before := Iff.rfl

@[simp] theorem ends_bind {returned : Result -> State -> Prop} :
    (action >>= next).Ends returned failed before <->
      action.Ends (fun value => (next value).Ends returned failed) failed before := by
  show Ends (andThen action next) _ _ _ <-> _
  unfold Ends andThen
  rcases action before with ⟨outcome, after⟩
  cases outcome with
  | error fault => rfl
  | ok value => rfl

@[simp] theorem ends_map {change : Value -> Result} {returned : Result -> State -> Prop} :
    (change <$> action).Ends returned failed before <->
      action.Ends (fun value => returned (change value)) failed before := by
  show (action >>= fun value => pure (change value)).Ends _ _ _ <-> _
  rw [ends_bind]
  rfl

@[simp] theorem ends_get {returned : State -> State -> Prop} :
    (get : Effect State Fault State).Ends returned failed before <-> returned before before := Iff.rfl

@[simp] theorem ends_modify {change : State -> State} {returned : Unit -> State -> Prop} :
    (modify change : Effect State Fault Unit).Ends returned failed before <-> returned () (change before) :=
  Iff.rfl

@[simp] theorem ends_fail {fault : Fault} :
    (fail fault : Effect State Fault Value).Ends returned failed before <-> failed fault before := Iff.rfl

@[simp] theorem ends_ofExcept_ok {value : Value} :
    (ofExcept (.ok value) : Effect State Fault Value).Ends returned failed before <-> returned value before :=
  Iff.rfl

@[simp] theorem ends_ofExcept_error {fault : Fault} :
    (ofExcept (.error fault) : Effect State Fault Value).Ends returned failed before <-> failed fault before :=
  Iff.rfl

@[simp] theorem ends_zoom {part : State -> Inner} {update : Inner -> State -> State}
    {action : Effect Inner Fault Value} :
    (zoom part update action).Ends returned failed before <->
      action.Ends (fun value inner => returned value (update inner before))
        (fun fault inner => failed fault (update inner before)) (part before) := by
  unfold Ends zoom
  dsimp only
  rcases action (part before) with ⟨outcome, after⟩
  cases outcome with
  | error fault => rfl
  | ok value => rfl

theorem ends_ite {condition : Prop} [Decidable condition] {other : Effect State Fault Value} :
    (if condition then action else other).Ends returned failed before <->
      (condition -> action.Ends returned failed before) ∧ (¬ condition -> other.Ends returned failed before) := by
  by_cases holds : condition
  · rw [if_pos holds]
    exact ⟨fun ends => ⟨fun _ => ends, fun contrary => absurd holds contrary⟩, fun both => both.1 holds⟩
  · rw [if_neg holds]
    exact ⟨fun ends => ⟨fun contrary => absurd contrary holds, fun _ => ends⟩, fun both => both.2 holds⟩

end Rules

/-! ## Invariants -/

/-- The property holds when the computation ends if it held before. -/
def Keeps (holds : State -> Prop) (action : Effect State Fault Value) : Prop :=
  forall before, holds before -> action.Ends (fun _ => holds) (fun _ => holds) before

section Invariants

variable {holds : State -> Prop} {action : Effect State Fault Value}

theorem keeps_pure (value : Value) : Keeps holds (pure value : Effect State Fault Value) := fun _ held => held

theorem keeps_fail (fault : Fault) : Keeps holds (fail fault : Effect State Fault Value) := fun _ held => held

theorem keeps_get : Keeps holds (get : Effect State Fault State) := fun _ held => held

theorem keeps_modify {change : State -> State} (kept : forall state, holds state -> holds (change state)) :
    Keeps holds (modify change : Effect State Fault Unit) := kept

theorem keeps_ofExcept (result : Except Fault Value) :
    Keeps holds (ofExcept result : Effect State Fault Value) := by
  intro before held
  cases result with
  | error fault => exact held
  | ok value => exact held

theorem Keeps.bind {next : Value -> Effect State Fault Result} (first : Keeps holds action)
    (rest : forall value, Keeps holds (next value)) : Keeps holds (action >>= next) := by
  intro before held
  rw [ends_bind]
  exact (first before held).mono (fun value after kept => rest value after kept) fun _ _ kept => kept

/-- What is read from the state is known of the state that the rest starts in. -/
theorem Keeps.get_bind {next : State -> Effect State Fault Result}
    (rest : forall state, holds state -> (next state).Ends (fun _ => holds) (fun _ => holds) state) :
    Keeps holds (get >>= next) := by
  intro before held
  rw [ends_bind]
  exact rest before held

theorem Keeps.ite {condition : Prop} [Decidable condition] {other : Effect State Fault Value}
    (first : Keeps holds action) (second : Keeps holds other) :
    Keeps holds (if condition then action else other) := by
  split
  · exact first
  · exact second

theorem Keeps.zoom {part : State -> Inner} {update : Inner -> State -> State} {action : Effect Inner Fault Value}
    {holdsInner : Inner -> Prop} (kept : Keeps holdsInner action)
    (enter : forall state, holds state -> holdsInner (part state))
    (leave : forall state inner, holds state -> holdsInner inner -> holds (update inner state)) :
    Keeps holds (Effect.zoom part update action) := by
  intro before held
  rw [ends_zoom]
  exact (kept _ (enter before held)).mono (fun _ inner keptInner => leave before inner held keptInner)
    fun _ inner keptInner => leave before inner held keptInner

/-- A property of the whole state, as one of the part within the rest. -/
theorem Keeps.within {part : State -> Inner} {update : Inner -> State -> State} {action : Effect Inner Fault Value}
    (lens : forall state, update (part state) state = state)
    (kept : forall outer, Keeps (fun inner => holds (update inner outer)) action) :
    Keeps holds (Effect.zoom part update action) := by
  intro before held
  rw [ends_zoom]
  rw [← lens before] at held
  exact kept before _ held

theorem Keeps.each {Item : Type u} {items : List Item} {body : Item -> Effect State Fault Unit}
    (kept : forall item, item ∈ items -> Keeps holds (body item)) : Keeps holds (Effect.each items body) := by
  induction items with
  | nil => exact keeps_pure ()
  | cons item rest ih =>
      exact (kept item List.mem_cons_self).bind fun _ =>
        ih fun other isItem => kept other (List.mem_cons_of_mem _ isItem)

end Invariants

/-! ## Results -/

/-- What the computation returns has the property, whatever state it starts in. -/
def Returns (property : Value -> Prop) (action : Effect State Fault Value) : Prop :=
  forall before, action.Ends (fun value _ => property value) (fun _ _ => True) before

section Results

variable {property : Value -> Prop} {action : Effect State Fault Value}

theorem returns_pure {value : Value} (holds : property value) :
    Returns property (pure value : Effect State Fault Value) := fun _ => holds

theorem returns_fail (fault : Fault) : Returns property (fail fault : Effect State Fault Value) := fun _ => trivial

theorem Returns.mono {weaker : Value -> Prop} (returns : Returns property action)
    (implies : forall value, property value -> weaker value) : Returns weaker action := fun before =>
  (returns before).mono (fun value _ => implies value) fun _ _ _ => trivial

theorem Returns.bind {property : Result -> Prop} {next : Value -> Effect State Fault Result}
    (rest : forall value, Returns property (next value)) : Returns property (action >>= next) := by
  intro before
  rw [ends_bind]
  unfold Ends
  split
  · exact rest _ _
  · trivial

theorem Returns.ite {condition : Prop} [Decidable condition] {other : Effect State Fault Value}
    (first : Returns property action) (second : Returns property other) :
    Returns property (if condition then action else other) := by
  split
  · exact first
  · exact second

end Results

end Effect

end Foundation
end P2pSdk
