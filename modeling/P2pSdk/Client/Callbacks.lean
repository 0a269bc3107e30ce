import P2pSdk.Client.Threads
import P2pSdk.Foundation.TransitionSystem

namespace P2pSdk

open Foundation

/-!
# Registrations of the state callback (`client.rs`)

`fire_state_change` takes the callback out of the client, calls it without
the lock, and puts it back.  The tick threads and the background threads of
`connect` fire; the application registers callbacks with `on_state_change`,
also while one is running.  `Firing` knows only whether a callback is there;
here a callback has an identity, which is the number of registrations up to
and with its own.
-/

/-- A state callback called with a state. -/
structure StateCall where
  callback : Nat
  state : IceState
  deriving DecidableEq, Repr

/-- The callback in the client, and how many were registered so far. -/
structure CallbackSlot where
  onStateChange : Option Nat
  registered : Nat
  deriving DecidableEq, Repr

inductive FirePc where
  | take
  | call (callback : Nat)
  /-- Until this step is made, the callback may still be running. -/
  | restore (callback : Nat)
  /-- With the registrations made until then. -/
  | ended (registered : Nat)
  deriving DecidableEq, Repr

/-- A call of `fire_state_change`, with the registrations made before it and
the callbacks that it called. -/
structure FireStateChange where
  state : IceState
  begun : Nat
  pc : FirePc
  calls : List StateCall
  deriving DecidableEq, Repr

/-- The callback that is out of the client. -/
def FirePc.held : FirePc -> Option Nat
  | .take => none
  | .call callback => some callback
  | .restore callback => some callback
  | .ended _ => none

/-- `on_state_change`. -/
def CallbackSlot.register (slot : CallbackSlot) : CallbackSlot where
  onStateChange := some (slot.registered + 1)
  registered := slot.registered + 1

/-- The client as the other threads have it, without the identity. -/
def CallbackSlot.toClient (slot : CallbackSlot) (client : Client) : Client :=
  { client with onStateChange := slot.onStateChange.isSome }

namespace FireStateChange

def begin (slot : CallbackSlot) (state : IceState) : FireStateChange where
  state := state
  begun := slot.registered
  pc := .take
  calls := []

/-- Go on at a program point. -/
def goto (self : FireStateChange) (pc : FirePc) (slot : CallbackSlot) :
    Outcome CallbackSlot FireStateChange Note where
  shared := slot
  thread := { self with pc := pc }
  spawned := none
  note := .quiet

/-- The three steps of `fire_state_change`. -/
def step (slot : CallbackSlot) (self : FireStateChange) :
    Option (Outcome CallbackSlot FireStateChange Note) :=
  match self.pc with
  | .take =>
      match slot.onStateChange with
      | none => some (self.goto (.ended slot.registered) slot)
      | some callback => some (self.goto (.call callback) { slot with onStateChange := none })
  | .call callback =>
      some
        { shared := slot
          thread :=
            { self with
              pc := .restore callback
              calls := self.calls ++ [⟨callback, self.state⟩] }
          spawned := none
          note := .called (.state self.state) }
  | .restore callback =>
      some (self.goto (.ended slot.registered) { slot with onStateChange := some callback })
  | .ended _ => none

/-- The program point of `Firing`, which does not know the callback. -/
def firing (self : FireStateChange) : Option Firing :=
  match self.pc with
  | .take => some .take
  | .call _ => some .call
  | .restore _ => some .restore
  | .ended _ => none

/-- Without the identities, the steps are those of the tick and background threads. -/
theorem step_firing {slot : CallbackSlot} {self : FireStateChange}
    {outcome : Outcome CallbackSlot FireStateChange Note}
    (stepped : self.step slot = some outcome) (client : Client) :
    exists firing, self.firing = some firing ∧
      firing.step (.state self.state) (slot.toClient client) =
        (outcome.shared.toClient client, outcome.thread.firing, outcome.note) := by
  unfold step at stepped
  unfold FireStateChange.firing
  cases pc : self.pc with
  | take =>
      refine ⟨.take, rfl, ?_⟩
      cases found : slot.onStateChange with
      | none =>
          simp only [pc, found, Option.some.injEq] at stepped
          subst stepped
          simp only [Firing.step, CallbackSlot.toClient, Client.callback, goto, found,
            Option.isSome_none, Bool.false_eq_true, if_false]
      | some callback =>
          simp only [pc, found, Option.some.injEq] at stepped
          subst stepped
          simp only [Firing.step, CallbackSlot.toClient, Client.callback, Client.setCallback, goto,
            found, Option.isSome_some, if_true, Option.isSome_none]
  | call callback =>
      simp only [pc, Option.some.injEq] at stepped
      subst stepped
      exact ⟨.call, rfl, rfl⟩
  | restore callback =>
      simp only [pc, Option.some.injEq] at stepped
      subst stepped
      exact ⟨.restore, rfl, rfl⟩
  | ended registered =>
      simp only [pc] at stepped
      cases stepped

end FireStateChange

/-! ## Runs -/

/-- The slot, and all calls of `fire_state_change` so far. -/
structure Callbacks where
  slot : CallbackSlot
  fires : List FireStateChange
  deriving DecidableEq, Repr

inductive CallbackEvent where
  | onStateChange
  | begin (state : IceState)
  | run (id : Nat)
  deriving DecidableEq, Repr

namespace Callbacks

def new : Callbacks where
  slot := ⟨none, 0⟩
  fires := []

def apply (world : Callbacks) : CallbackEvent -> Option Callbacks
  | .onStateChange => some { world with slot := world.slot.register }
  | .begin state =>
      some { world with fires := world.fires ++ [FireStateChange.begin world.slot state] }
  | .run id =>
      match world.fires[id]? with
      | none => none
      | some fire =>
          (fire.step world.slot).map fun outcome =>
            { slot := outcome.shared, fires := threadsAfter world.fires id outcome }

end Callbacks

/-- All interleavings of registrations and calls of `fire_state_change`. -/
def callbackSystem : TransitionSystem Callbacks CallbackEvent where
  initial := fun world => world = Callbacks.new
  step := fun before event after => before.apply event = some after

namespace FireStateChange

/-- A state that is fired after some registration has been delivered exactly
once when the call has ended.  The registrations at the begin and at the end
bound the callbacks that were the latest ones in between. -/
structure Delivered (fire : FireStateChange) : Prop where
  atEnd : forall ended, fire.pc = .ended ended -> 0 < fire.begun ->
    exists callback, fire.calls = [⟨callback, fire.state⟩] ∧
      fire.begun ≤ callback ∧ callback ≤ ended
  atMostOnce : fire.calls.length ≤ 1
  noneOlder : forall call, call ∈ fire.calls -> fire.begun ≤ call.callback

end FireStateChange

namespace Callbacks

/-- No state and no registration is lost. -/
def NoneLost (world : Callbacks) : Prop :=
  forall fire, fire ∈ world.fires -> fire.Delivered

/-- No call is between taking the callback and putting it back. -/
def NoneHeld (world : Callbacks) : Prop :=
  forall fire, fire ∈ world.fires -> fire.pc.held = none

/-- A callback is registered, and taken by a call that began after some
registration, only while none is out of the client. -/
def InTurn (before : Callbacks) : CallbackEvent -> Prop
  | .onStateChange => before.NoneHeld
  | .begin _ => True
  | .run id => forall fire, fire ∈ before.fires[id]? -> fire.pc = .take ->
      0 < fire.begun -> before.NoneHeld

instance (world : Callbacks) : Decidable world.NoneHeld :=
  inferInstanceAs (Decidable (forall fire, fire ∈ world.fires -> fire.pc.held = none))

instance (before : Callbacks) (event : CallbackEvent) : Decidable (before.InTurn event) :=
  match event with
  | .onStateChange => inferInstanceAs (Decidable before.NoneHeld)
  | .begin _ => .isTrue trivial
  | .run id =>
      inferInstanceAs (Decidable (forall fire, fire ∈ before.fires[id]? -> fire.pc = .take ->
        0 < fire.begun -> before.NoneHeld))

/-! ## Why none is lost -/

/-- What a call has done so far.  A callback that is out of the client is the
latest one. -/
structure Sound (slot : CallbackSlot) (fire : FireStateChange) : Prop where
  begun : fire.begun ≤ slot.registered
  held : forall callback, fire.pc.held = some callback ->
    callback = slot.registered ∧ slot.onStateChange = none
  atTake : fire.pc = .take -> fire.calls = []
  atCall : forall callback, fire.pc = .call callback -> fire.calls = []
  atRestore : forall callback, fire.pc = .restore callback ->
    fire.calls = [⟨callback, fire.state⟩]
  atEnd : forall ended, fire.pc = .ended ended ->
    (fire.begun = 0 ∧ fire.calls = []) ∨
    exists callback, fire.calls = [⟨callback, fire.state⟩] ∧
      fire.begun ≤ callback ∧ callback ≤ ended

/-- The callback in the client is the latest one, and it is missing only
before the first registration and while one call has it. -/
structure Consistent (world : Callbacks) : Prop where
  latest : forall callback, world.slot.onStateChange = some callback ->
    callback = world.slot.registered
  missing : world.slot.onStateChange = none -> world.NoneHeld -> world.slot.registered = 0
  sound : forall (id : Nat) (fire : FireStateChange), world.fires[id]? = some fire -> Sound world.slot fire
  alone : forall (id other : Nat) (fire rival : FireStateChange), world.fires[id]? = some fire ->
    world.fires[other]? = some rival -> fire.pc.held ≠ none -> rival.pc.held ≠ none -> id = other

theorem delivered_of_none {fire : FireStateChange} (calls : fire.calls = [])
    (early : forall ended, fire.pc = .ended ended -> fire.begun = 0) : fire.Delivered where
  atEnd := by
    intro ended atEnd late
    have := early ended atEnd
    omega
  atMostOnce := by
    rw [calls]
    exact Nat.zero_le 1
  noneOlder := by
    intro call member
    rw [calls] at member
    cases member

theorem delivered_of_one {fire : FireStateChange} {callback : Nat}
    (calls : fire.calls = [⟨callback, fire.state⟩]) (older : fire.begun ≤ callback)
    (newer : forall ended, fire.pc = .ended ended -> callback ≤ ended) : fire.Delivered where
  atEnd := fun ended atEnd _ => ⟨callback, calls, older, newer ended atEnd⟩
  atMostOnce := by
    rw [calls]
    exact Nat.le_refl 1
  noneOlder := by
    intro call member
    rw [calls] at member
    cases List.mem_singleton.mp member
    exact older

theorem Sound.delivered {slot : CallbackSlot} {fire : FireStateChange}
    (sound : Sound slot fire) : fire.Delivered := by
  cases pc : fire.pc with
  | take =>
      apply delivered_of_none (sound.atTake pc)
      intro ended atEnd
      cases pc.symm.trans atEnd
  | call callback =>
      apply delivered_of_none (sound.atCall callback pc)
      intro ended atEnd
      cases pc.symm.trans atEnd
  | restore callback =>
      have latest := (sound.held callback (by rw [pc]; rfl)).1
      apply delivered_of_one (sound.atRestore callback pc)
      · rw [latest]
        exact sound.begun
      · intro ended atEnd
        cases pc.symm.trans atEnd
  | ended ended =>
      rcases sound.atEnd ended pc with ⟨early, calls⟩ | ⟨callback, calls, older, newer⟩
      · exact delivered_of_none calls fun _ _ => early
      · apply delivered_of_one calls older
        intro other atEnd
        cases pc.symm.trans atEnd
        exact newer

/-- A call is not affected by what others do to the slot, unless it has the
callback. -/
theorem Sound.of_slot {slot after : CallbackSlot} {fire : FireStateChange} (sound : Sound slot fire)
    (registered : slot.registered ≤ after.registered) (free : fire.pc.held = none) :
    Sound after fire where
  begun := Nat.le_trans sound.begun registered
  held := by
    intro callback held
    cases free.symm.trans held
  atTake := sound.atTake
  atCall := sound.atCall
  atRestore := sound.atRestore
  atEnd := sound.atEnd

section Steps

variable {before : Callbacks} {id : Nat} {fire : FireStateChange}

/-- While the client has a callback, no call has it. -/
theorem Consistent.noneHeld (consistent : before.Consistent) {callback : Nat}
    (present : before.slot.onStateChange = some callback) : before.NoneHeld := by
  intro other member
  rcases List.mem_iff_getElem?.mp member with ⟨k, found⟩
  cases held : other.pc.held with
  | none => rfl
  | some taken =>
      have missing := ((consistent.sound k other found).held taken held).2
      cases present.symm.trans missing

theorem consistent_register (consistent : before.Consistent) (noneHeld : before.NoneHeld) :
    Consistent { before with slot := before.slot.register } where
  latest := by
    intro callback present
    cases present
    rfl
  missing := by
    intro missing
    cases missing
  sound := by
    intro k other found
    exact (consistent.sound k other found).of_slot (Nat.le_succ _)
      (noneHeld other (List.mem_of_getElem? found))
  alone := consistent.alone

theorem sound_begin (slot : CallbackSlot) (state : IceState) :
    Sound slot (FireStateChange.begin slot state) where
  begun := Nat.le_refl _
  held := by
    intro callback held
    cases held
  atTake := fun _ => rfl
  atCall := by
    intro callback atCall
    cases atCall
  atRestore := by
    intro callback atRestore
    cases atRestore
  atEnd := by
    intro ended atEnd
    cases atEnd

theorem consistent_begin (consistent : before.Consistent) (state : IceState) :
    Consistent { before with fires := before.fires ++ [FireStateChange.begin before.slot state] } := by
  have cases_of : forall (k : Nat) (other : FireStateChange),
      (before.fires ++ [FireStateChange.begin before.slot state])[k]? = some other ->
      before.fires[k]? = some other ∨ other = FireStateChange.begin before.slot state := by
    intro k other found
    rw [List.getElem?_append] at found
    split at found
    · exact Or.inl found
    · exact Or.inr (List.mem_singleton.mp (List.mem_of_getElem? found))
  refine ⟨consistent.latest, ?_, ?_, ?_⟩
  · intro missing noneHeld
    refine consistent.missing missing ?_
    intro other member
    exact noneHeld other (List.mem_append_left _ member)
  · intro k other found
    rcases cases_of k other found with old | rfl
    · exact consistent.sound k other old
    · exact sound_begin _ _
  · intro first second one two isOne isTwo oneHeld twoHeld
    rcases cases_of first one isOne with oldOne | rfl
    · rcases cases_of second two isTwo with oldTwo | rfl
      · exact consistent.alone first second one two oldOne oldTwo oneHeld twoHeld
      · exact absurd rfl twoHeld
    · exact absurd rfl oneHeld

/-- When one call has the callback, the others do not. -/
theorem Consistent.othersFree (consistent : before.Consistent)
    (found : before.fires[id]? = some fire) (held : fire.pc.held ≠ none) (k : Nat)
    (other : FireStateChange) (different : k ≠ id) (isOther : before.fires[k]? = some other) :
    other.pc.held = none := by
  by_contra otherHeld
  exact different (consistent.alone k id other fire isOther found otherHeld held)

/-- A step of one call, from what it means for that call and for the others. -/
theorem consistent_after {outcome : Outcome CallbackSlot FireStateChange Note}
    (consistent : before.Consistent) (found : before.fires[id]? = some fire)
    (spawned : outcome.spawned = none)
    (latest : forall callback, outcome.shared.onStateChange = some callback ->
      callback = outcome.shared.registered)
    (missing : outcome.shared.onStateChange = none -> outcome.thread.pc.held = none ->
      before.slot.onStateChange = none ∧ fire.pc.held = none ∧
        outcome.shared.registered = before.slot.registered)
    (sound : Sound outcome.shared outcome.thread)
    (others : forall k other, k ≠ id -> before.fires[k]? = some other ->
      Sound outcome.shared other ∧ (outcome.thread.pc.held = none ∨ other.pc.held = none)) :
    Consistent { slot := outcome.shared, fires := threadsAfter before.fires id outcome } := by
  have inside := (List.getElem?_eq_some_iff.mp found).1
  have cases_of : forall (k : Nat) (other : FireStateChange),
      (threadsAfter before.fires id outcome)[k]? = some other ->
      (k = id ∧ other = outcome.thread) ∨ (k ≠ id ∧ before.fires[k]? = some other) := by
    intro k other isOther
    rcases threadsAfter_cases inside isOther with moved | kept | ⟨_, contrary⟩
    · exact Or.inl moved
    · exact Or.inr kept
    · cases spawned.symm.trans contrary
  refine ⟨latest, ?_, ?_, ?_⟩
  · intro noCallback noneHeld
    have threadFree :=
      noneHeld outcome.thread (List.mem_of_getElem? (threadsAfter_self inside))
    rcases missing noCallback threadFree with ⟨wasMissing, wasFree, same⟩
    refine same.trans (consistent.missing wasMissing ?_)
    intro other member
    rcases List.mem_iff_getElem?.mp member with ⟨k, isOther⟩
    by_cases here : k = id
    · subst here
      cases found.symm.trans isOther
      exact wasFree
    · exact noneHeld other (List.mem_of_getElem? (threadsAfter_of_ne here isOther))
  · intro k other isOther
    rcases cases_of k other isOther with ⟨_, rfl⟩ | ⟨different, kept⟩
    · exact sound
    · exact (others k other different kept).1
  · intro first second one two isOne isTwo oneHeld twoHeld
    rcases cases_of first one isOne with ⟨rfl, rfl⟩ | ⟨firstDifferent, oneKept⟩
    · rcases cases_of second two isTwo with ⟨rfl, _⟩ | ⟨different, kept⟩
      · rfl
      · rcases (others second two different kept).2 with free | free
        · exact absurd free oneHeld
        · exact absurd free twoHeld
    · rcases cases_of second two isTwo with ⟨rfl, rfl⟩ | ⟨_, twoKept⟩
      · rcases (others first one firstDifferent oneKept).2 with free | free
        · exact absurd free twoHeld
        · exact absurd free oneHeld
      · exact consistent.alone first second one two oneKept twoKept oneHeld twoHeld

variable {outcome : Outcome CallbackSlot FireStateChange Note}

/-- A call that finds no callback has begun before the first registration. -/
theorem consistent_absent (consistent : before.Consistent) (found : before.fires[id]? = some fire)
    (inTurn : before.InTurn (.run id)) (pc : fire.pc = .take) (absent : before.slot.onStateChange = none)
    (isOutcome : fire.goto (.ended before.slot.registered) before.slot = outcome) :
    Consistent { slot := outcome.shared, fires := threadsAfter before.fires id outcome } := by
  subst isOutcome
  have sound := consistent.sound id fire found
  have early : fire.begun = 0 := by
    by_contra late
    have none := consistent.missing absent (inTurn fire found pc (Nat.pos_of_ne_zero late))
    have := sound.begun
    omega
  have ended : Sound before.slot { fire with pc := .ended before.slot.registered } :=
    ⟨sound.begun, nofun, nofun, nofun, nofun, fun _ _ => Or.inl ⟨early, sound.atTake pc⟩⟩
  apply consistent_after consistent found rfl consistent.latest _ ended
  · intro k other _ isOther
    exact ⟨consistent.sound k other isOther, Or.inl rfl⟩
  · intro _ _
    exact ⟨absent, by rw [pc]; rfl, rfl⟩

/-- A call that takes the callback is the only one to have it. -/
theorem consistent_take (consistent : before.Consistent) (found : before.fires[id]? = some fire)
    (pc : fire.pc = .take) {callback : Nat} (present : before.slot.onStateChange = some callback)
    (isOutcome : fire.goto (.call callback) { before.slot with onStateChange := none } = outcome) :
    Consistent { slot := outcome.shared, fires := threadsAfter before.fires id outcome } := by
  subst isOutcome
  have sound := consistent.sound id fire found
  have noneHeld := consistent.noneHeld present
  have takes : Sound { before.slot with onStateChange := none } { fire with pc := .call callback } := by
    refine ⟨sound.begun, ?_, nofun, fun _ _ => sound.atTake pc, nofun, nofun⟩
    intro other held
    cases held
    exact ⟨consistent.latest callback present, rfl⟩
  apply consistent_after consistent found rfl (fun _ contrary => by cases contrary) _ takes
  · intro k other _ isOther
    have free := noneHeld other (List.mem_of_getElem? isOther)
    exact ⟨(consistent.sound k other isOther).of_slot (Nat.le_refl _) free, Or.inr free⟩
  · intro _ held
    cases held

/-- The call of the callback is counted. -/
theorem consistent_call (consistent : before.Consistent) (found : before.fires[id]? = some fire)
    {callback : Nat} (pc : fire.pc = .call callback)
    (isOutcome :
      { shared := before.slot
        thread := { fire with
          pc := .restore callback
          calls := fire.calls ++ [⟨callback, fire.state⟩] }
        spawned := none
        note := .called (.state fire.state) } = outcome) :
    Consistent { slot := outcome.shared, fires := threadsAfter before.fires id outcome } := by
  subst isOutcome
  have sound := consistent.sound id fire found
  have isHeld : fire.pc.held = some callback := by rw [pc]; rfl
  have called : Sound before.slot { fire with
      pc := .restore callback
      calls := fire.calls ++ [⟨callback, fire.state⟩] } := by
    refine ⟨sound.begun, ?_, nofun, nofun, ?_, nofun⟩
    · intro other held
      cases held
      exact sound.held callback isHeld
    · intro other atRestore
      cases atRestore
      change fire.calls ++ [⟨callback, fire.state⟩] = [⟨callback, fire.state⟩]
      rw [sound.atCall callback pc]
      rfl
  apply consistent_after consistent found rfl consistent.latest _ called
  · intro k other different isOther
    refine ⟨consistent.sound k other isOther, Or.inr ?_⟩
    apply consistent.othersFree found _ k other different isOther
    rw [isHeld]
    exact Option.some_ne_none callback
  · intro _ held
    cases held

/-- What is put back is the latest callback. -/
theorem consistent_restore (consistent : before.Consistent) (found : before.fires[id]? = some fire)
    {callback : Nat} (pc : fire.pc = .restore callback)
    (isOutcome : fire.goto (.ended before.slot.registered)
      { before.slot with onStateChange := some callback } = outcome) :
    Consistent { slot := outcome.shared, fires := threadsAfter before.fires id outcome } := by
  subst isOutcome
  have sound := consistent.sound id fire found
  have isHeld : fire.pc.held = some callback := by rw [pc]; rfl
  have latest := (sound.held callback isHeld).1
  have ended : Sound { before.slot with onStateChange := some callback }
      { fire with pc := .ended before.slot.registered } := by
    refine ⟨sound.begun, nofun, nofun, nofun, nofun, ?_⟩
    intro ended atEnd
    cases atEnd
    refine Or.inr ⟨callback, sound.atRestore callback pc, ?_, Nat.le_of_eq latest⟩
    rw [latest]
    exact sound.begun
  apply consistent_after consistent found rfl _ (fun contrary _ => by cases contrary) ended
  · intro k other different isOther
    have free := consistent.othersFree found
      (by rw [isHeld]; exact Option.some_ne_none callback) k other different isOther
    exact ⟨(consistent.sound k other isOther).of_slot (Nat.le_refl _) free, Or.inr free⟩
  · intro other present
    cases present
    exact latest

theorem consistent_step (consistent : before.Consistent) (found : before.fires[id]? = some fire)
    (inTurn : before.InTurn (.run id)) (stepped : fire.step before.slot = some outcome) :
    Consistent { slot := outcome.shared, fires := threadsAfter before.fires id outcome } := by
  unfold FireStateChange.step at stepped
  cases pc : fire.pc with
  | take =>
      cases present : before.slot.onStateChange with
      | none =>
          simp only [pc, present, Option.some.injEq] at stepped
          exact consistent_absent consistent found inTurn pc present stepped
      | some callback =>
          simp only [pc, present, Option.some.injEq] at stepped
          exact consistent_take consistent found pc present stepped
  | call callback =>
      simp only [pc, Option.some.injEq] at stepped
      exact consistent_call consistent found pc stepped
  | restore callback =>
      simp only [pc, Option.some.injEq] at stepped
      exact consistent_restore consistent found pc stepped
  | ended ended =>
      simp only [pc] at stepped
      cases stepped

end Steps

theorem consistent_new : Consistent new where
  latest := by
    intro callback present
    cases present
  missing := fun _ _ => rfl
  sound := by
    intro id fire found
    cases found
  alone := by
    intro first second one two isOne
    cases isOne

theorem consistent_of_reachable {world : Callbacks}
    (reachable : (callbackSystem.restrict InTurn).Reachable world) : world.Consistent := by
  refine reachable.invariant Consistent ?_ ?_
  · rintro world rfl
    exact consistent_new
  · rintro before event after consistent ⟨inTurn, applied⟩
    cases event with
    | onStateChange =>
        cases applied
        exact consistent_register consistent inTurn
    | begin state =>
        cases applied
        exact consistent_begin consistent state
    | run id =>
        change before.apply (.run id) = some after at applied
        simp only [apply] at applied
        cases found : before.fires[id]? with
        | none =>
            rw [found] at applied
            cases applied
        | some fire =>
            rw [found] at applied
            rcases Option.map_eq_some_iff.mp applied with ⟨outcome, stepped, rfl⟩
            exact consistent_step consistent found inTurn stepped

/-- In every run in which no registration and no second call falls between
taking the callback and putting it back, no state and no registration is lost. -/
theorem none_lost {world : Callbacks}
    (reachable : (callbackSystem.restrict InTurn).Reachable world) : world.NoneLost := by
  intro fire member
  rcases List.mem_iff_getElem?.mp member with ⟨id, found⟩
  exact ((consistent_of_reachable reachable).sound id fire found).delivered

/-! ## Concrete runs -/

/-- A run given by its events, each allowed where it happens, and a test of the
state it ends in. -/
theorem exists_callbacks {allowed : Callbacks -> CallbackEvent -> Bool}
    (condition : Callbacks -> CallbackEvent -> Prop)
    (meets : forall world event, allowed world event = true -> condition world event)
    {events : List CallbackEvent} {test : Callbacks -> Bool}
    (ends : (TransitionSystem.perform apply allowed new events).any test = true) :
    exists world, (callbackSystem.restrict condition).Reachable world ∧ test world = true := by
  refine TransitionSystem.exists_reachable condition ?_ meets rfl ends
  intro before event after applied
  exact applied

/-- A registration between two calls, and one between the begin of a call and
its first step. -/
theorem none_lost_in_turn :
    exists world, (callbackSystem.restrict InTurn).Reachable world ∧
      world.fires.map (fun fire => fire.calls) =
        [[⟨1, .connecting⟩], [⟨2, .connected⟩], [⟨3, .completed⟩]] ∧ world.NoneLost := by
  have ends : (TransitionSystem.perform apply (fun before event => decide (InTurn before event)) new
      [.onStateChange, .begin .connecting, .run 0, .run 0, .run 0, .onStateChange,
        .begin .connected, .begin .completed, .run 1, .run 1, .run 1, .onStateChange,
        .run 2, .run 2, .run 2]).any
      (fun world => world.fires.map (fun fire => fire.calls) =
        [[⟨1, .connecting⟩], [⟨2, .connected⟩], [⟨3, .completed⟩]]) = true := by
    decide +kernel
  rcases exists_callbacks InTurn (fun _ _ => of_decide_eq_true) ends with ⟨world, reachable, test⟩
  exact ⟨world, reachable, of_decide_eq_true test, none_lost reachable⟩

/-- A background thread fires while a tick thread has the callback: it finds
none, and its state is lost. -/
theorem state_lost : ¬ forall world, callbackSystem.Reachable world -> world.NoneLost := by
  intro claim
  have ends : (TransitionSystem.perform apply (fun _ _ => true) new
      [.onStateChange, .begin .connecting, .begin .failed, .run 0, .run 1]).any
      (fun world => world.fires[1]? = some ⟨.failed, 1, .ended 1, []⟩) = true := by
    decide +kernel
  rcases exists_callbacks (fun _ _ => True) (fun _ _ _ => trivial) ends with
    ⟨world, reachable, test⟩
  have lost := claim world reachable.of_restrict _ (List.mem_of_getElem? (of_decide_eq_true test))
  rcases lost.atEnd 1 rfl Nat.one_pos with ⟨callback, calls, _⟩
  cases calls

end Callbacks

end P2pSdk
