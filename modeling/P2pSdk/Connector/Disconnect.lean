import P2pSdk.Connector.Reconnect
import P2pSdk.Foundation.History
import P2pSdk.Foundation.Threads

namespace P2pSdk
namespace Connector

open Foundation

/-!
# Disconnecting the connector (`client_napi.rs`)

`disconnect_connector` stops the connector thread in two parts: one block under
the mutex raises the stop flag and clears `connector_registered`, and the join
comes after it.  In between the thread goes on to the next test of its flag, and
it may be on its way to set `connector_registered`.  The join does not clear
what the thread has set.

The thread and an app thread take their steps in any order.  A memory beside
the state keeps whether the last call was a disconnect that has returned, and
whether a thread has registered after it was told to stop.
-/

/-! ## The connector thread -/

/-- `Inner`, as far as it tells about the connector thread, and the stop flags.
A flag is known by its index: a thread keeps its own when the next is made. -/
structure ConnectorInner where
  connectorRegistered : Bool
  connectorStop : Nat
  /-- The handle of the thread. -/
  connector : Option Nat
  stops : List Bool
  deriving DecidableEq, Repr

/-- A loop that keeps a stop flag reads it here. -/
def ConnectorInner.load (inner : ConnectorInner) (stop : Nat) : Bool := inner.stops.getD stop false

/-- Where `connector_loop_inner` stands. -/
inductive LoopPc (Json : Type) where
  | checkStop
  | connect
  | clearRegistered
  | checkStopPolling
  | sendOutgoing
  | poll
  | lostRegistered
  | setRegistered (msgs : List (ConnectorMessage Json))
  | handle (msgs : List (ConnectorMessage Json))
  | disconnect
  | discardOutgoing
  | checkStopRetry
  | finished
  deriving DecidableEq, Repr

/-- What a step of the loop is answered: the result of `connect`, the outgoing
message and the result of sending it, or the texts that the transport has and
whether it is still connected afterwards. -/
inductive LoopInput where
  | proceed
  | connected (ok : Bool)
  | outgoing (sent : Option Bool)
  | polled (texts : List String) (isConnected : Bool)
  deriving DecidableEq, Repr

structure ConnectorThread (Json : Type) where
  identifier : String
  /-- Its stop flag. -/
  stop : Nat
  pc : LoopPc Json
  delay : Nat
  connector : ConnectorClient
  wasRegistered : Bool
  deriving DecidableEq, Repr

variable {Json : Type}

/-- All texts that have arrived. -/
def ConnectorClient.poll (serde : Serde Json) (client : ConnectorClient) (texts : List String) :
    ConnectorClient × List (ConnectorMessage Json) :=
  texts.foldl (fun polled text => polled.1.pollText serde polled.2 text) (client, [])

namespace ConnectorThread

/-- `thread::spawn` with the arguments of the call. -/
def spawn (identifier : String) (stop : Nat) : ConnectorThread Json where
  identifier := identifier
  stop := stop
  pc := .checkStop
  delay := Reconnect.initialDelay
  connector := { identifier := "", registered := false }
  wasRegistered := false

/-- Sleep and double the delay. -/
def backOff (self : ConnectorThread Json) : ConnectorThread Json :=
  { self with pc := .checkStop, delay := min (self.delay * 2) Reconnect.maxDelay }

/-- A step that leaves `Inner` as it is. -/
def goto (inner : ConnectorInner) (thread : ConnectorThread Json) :
    Outcome ConnectorInner (ConnectorThread Json) (Option Bool) where
  shared := inner
  thread := thread
  spawned := none
  note := none

/-- A step that writes `connector_registered`. -/
def register (inner : ConnectorInner) (value : Bool) (note : Option Bool)
    (thread : ConnectorThread Json) : Outcome ConnectorInner (ConnectorThread Json) (Option Bool) where
  shared := { inner with connectorRegistered := value }
  thread := thread
  spawned := none
  note := note

/-- Where the loop goes on after a poll. -/
def afterPoll (connector : ConnectorClient) (wasRegistered isConnected : Bool)
    (msgs : List (ConnectorMessage Json)) : LoopPc Json :=
  if isConnected = false then
    if wasRegistered then .lostRegistered else .disconnect
  else if connector.registered ∧ wasRegistered = false then .setRegistered msgs
  else .handle msgs

/-- One step of the loop.  The note is the value given to `fire_connector_state`. -/
def step (serde : Serde Json) (inner : ConnectorInner) (self : ConnectorThread Json)
    (input : LoopInput) : Option (Outcome ConnectorInner (ConnectorThread Json) (Option Bool)) :=
  match self.pc, input with
  | .checkStop, .proceed =>
      some (goto inner
        (if inner.load self.stop then { self with pc := .finished }
        else { self with pc := .connect, connector := { identifier := "", registered := false } }))
  | .connect, .connected true =>
      some (goto inner { self with
        pc := .clearRegistered
        delay := Reconnect.initialDelay
        connector := { identifier := self.identifier, registered := false } })
  | .connect, .connected false => some (goto inner self.backOff)
  | .clearRegistered, .proceed =>
      some (register inner false none { self with pc := .checkStopPolling, wasRegistered := false })
  | .checkStopPolling, .proceed =>
      some (goto inner
        { self with pc := if inner.load self.stop then .disconnect else .sendOutgoing })
  | .sendOutgoing, .outgoing (some _) => some (goto inner self)
  | .sendOutgoing, .outgoing none => some (goto inner { self with pc := .poll })
  | .poll, .polled texts isConnected =>
      let (connector, msgs) := self.connector.poll serde texts
      some (goto inner { self with
        connector := connector
        pc := afterPoll connector self.wasRegistered isConnected msgs })
  | .lostRegistered, .proceed =>
      some (register inner false (some false) { self with pc := .disconnect })
  | .setRegistered msgs, .proceed =>
      some (register inner true (some true) { self with pc := .handle msgs, wasRegistered := true })
  -- A message works on the agent and its threads, never on this part of `Inner`.
  | .handle (_ :: msgs), .proceed => some (goto inner { self with pc := .handle msgs })
  | .handle [], .proceed => some (goto inner { self with pc := .checkStopPolling })
  | .disconnect, .proceed =>
      some (goto inner { self with
        pc := .discardOutgoing
        connector := { self.connector with registered := false } })
  | .discardOutgoing, .outgoing (some _) => some (goto inner self)
  | .discardOutgoing, .outgoing none => some (goto inner { self with pc := .checkStopRetry })
  | .checkStopRetry, .proceed =>
      some (goto inner
        (if inner.load self.stop then { self with pc := .checkStop } else self.backOff))
  | _, _ => none

end ConnectorThread

/-! ## The app thread -/

inductive ConnectorCall where
  | connectConnector (identifier : String)
  | disconnectConnector
  deriving DecidableEq, Repr

/-- Where a call stands.  Both calls begin with `stop_connector`. -/
inductive AppPc where
  | idle
  | stopConnector (call : ConnectorCall)
  | join (call : ConnectorCall) (handle : Option Nat)
  | newStop (identifier : String)
  | spawn (identifier : String) (stop : Nat)
  | keepHandle (handle : Nat)
  deriving DecidableEq, Repr

structure ConnectorWorld (Json : Type) where
  inner : ConnectorInner
  threads : List (ConnectorThread Json)
  app : AppPc
  deriving DecidableEq, Repr

inductive ConnectorEvent where
  | call (call : ConnectorCall)
  | app
  | thread (id : Nat) (input : LoopInput)
  deriving DecidableEq, Repr

namespace ConnectorWorld

def new : ConnectorWorld Json where
  inner := { connectorRegistered := false, connectorStop := 0, connector := none, stops := [false] }
  threads := []
  app := .idle

/-- A thread can be joined when it has finished. -/
def joinable (world : ConnectorWorld Json) : Option Nat -> Bool
  | none => true
  | some id =>
      match world.threads[id]? with
      | some thread =>
          match thread.pc with
          | .finished => true
          | _ => false
      | none => false

/-- Where a call goes on behind the join. -/
def afterJoin : ConnectorCall -> AppPc
  | .connectConnector identifier => .newStop identifier
  | .disconnectConnector => .idle

/-- One step of the call that is running. -/
def appStep (world : ConnectorWorld Json) : Option (ConnectorWorld Json) :=
  match world.app with
  | .idle => none
  | .stopConnector call =>
      some { world with
        app := .join call world.inner.connector
        inner := { world.inner with
          stops := world.inner.stops.set world.inner.connectorStop true
          connectorRegistered := false
          connector := none } }
  | .join call handle =>
      if world.joinable handle then some { world with app := afterJoin call } else none
  | .newStop identifier =>
      some { world with
        app := .spawn identifier world.inner.stops.length
        inner := { world.inner with
          stops := world.inner.stops ++ [false]
          connectorStop := world.inner.stops.length } }
  | .spawn identifier stop =>
      some { world with
        app := .keepHandle world.threads.length
        threads := world.threads ++ [.spawn identifier stop] }
  | .keepHandle handle =>
      some { world with app := .idle, inner := { world.inner with connector := some handle } }

def apply (serde : Serde Json) (world : ConnectorWorld Json) :
    ConnectorEvent -> Option (ConnectorWorld Json)
  | .call call =>
      match world.app with
      | .idle => some { world with app := .stopConnector call }
      | _ => none
  | .app => world.appStep
  | .thread id input =>
      match world.threads[id]? with
      | none => none
      | some thread =>
          (thread.step serde world.inner input).map fun outcome =>
            { world with
              inner := outcome.shared
              threads := threadsAfter world.threads id outcome }

/-- `is_connector_registered`. -/
def isConnectorRegistered (world : ConnectorWorld Json) : Int :=
  if world.inner.connectorRegistered then 1 else 0

/-- `initiate_ice`, as far as it returns before its work is done. -/
def initiateIce (world : ConnectorWorld Json) : Int :=
  if world.inner.connectorRegistered = false then -1 else 0

end ConnectorWorld

/-- Any interleaving of the calls and the connector threads. -/
def connectorSystem (serde : Serde Json) :
    TransitionSystem (ConnectorWorld Json) ConnectorEvent where
  initial := fun world => world = .new
  step := fun before event after => before.apply serde event = some after

/-! ## What is remembered -/

/-- The thread sets `connector_registered` although its stop flag is up. -/
def ConnectorWorld.registersLate (world : ConnectorWorld Json) : ConnectorEvent -> Bool
  | .thread id _ =>
      match world.threads[id]? with
      | some thread =>
          match thread.pc with
          | .setRegistered _ => world.inner.load thread.stop
          | _ => false
      | none => false
  | _ => false

/-- No thread sets `connector_registered` once it is told to stop. -/
def RegistersInTime (before : ConnectorWorld Json) (event : ConnectorEvent) : Prop :=
  before.registersLate event = false

instance (before : ConnectorWorld Json) (event : ConnectorEvent) :
    Decidable (RegistersInTime before event) :=
  inferInstanceAs (Decidable (_ = false))

structure ConnectorHistory where
  /-- A disconnect has returned, and no connect was called since. -/
  disconnected : Bool
  /-- A thread has registered late since the last clearing block. -/
  late : Bool
  deriving DecidableEq, Repr

def ConnectorHistory.start : ConnectorHistory where
  disconnected := false
  late := false

/-- What a step of a call adds to the memory. -/
def ConnectorHistory.afterStep (memory : ConnectorHistory) : AppPc -> ConnectorHistory
  | .stopConnector _ => { memory with late := false }
  | .join .disconnectConnector _ => { memory with disconnected := true }
  | _ => memory

def connectorHistory : Recorder (ConnectorWorld Json) ConnectorEvent ConnectorHistory where
  start := .start
  record := fun before event _ memory =>
    match event with
    | .call (.connectConnector _) => { memory with disconnected := false }
    | .call .disconnectConnector => memory
    | .app => memory.afterStep before.app
    | .thread _ _ => { memory with late := memory.late || before.registersLate event }

/-! ## What a step does -/

namespace ConnectorThread

/-- Where the loop is on its way out, once its flag is up. -/
def Leaving (thread : ConnectorThread Json) : Prop :=
  match thread.pc with
  | .connect | .clearRegistered | .sendOutgoing | .poll | .lostRegistered | .setRegistered _ => False
  | _ => True

/-- What `connector_registered` is after a step of the loop. -/
def registeredAfter (thread : ConnectorThread Json) (registered : Bool) : Bool :=
  match thread.pc with
  | .clearRegistered | .lostRegistered => false
  | .setRegistered _ => true
  | _ => registered

/-- The step registers. -/
def sets (thread : ConnectorThread Json) : Bool :=
  match thread.pc with
  | .setRegistered _ => true
  | _ => false

/-- What a step of the loop can do to what the invariant speaks about. -/
structure Steps (inner : ConnectorInner) (thread : ConnectorThread Json)
    (outcome : Outcome ConnectorInner (ConnectorThread Json) (Option Bool)) : Prop where
  running : thread.pc ≠ .finished
  shared : outcome.shared =
    { inner with connectorRegistered := thread.registeredAfter inner.connectorRegistered }
  stop : outcome.thread.stop = thread.stop
  spawned : outcome.spawned = none
  leaving : inner.load thread.stop = true -> thread.Leaving ∨ thread.sets = true ->
    outcome.thread.Leaving

section Cases

variable {serde : Serde Json} {inner : ConnectorInner} {self : ConnectorThread Json} {input : LoopInput}
  {outcome : Outcome ConnectorInner (ConnectorThread Json) (Option Bool)}

/-- Before the loop leaves, nothing is asked of a step. -/
theorem Steps.early {moved : ConnectorThread Json} (running : self.pc ≠ .finished)
    (unchanged : self.registeredAfter inner.connectorRegistered = inner.connectorRegistered)
    (sameStop : moved.stop = self.stop) (notLeaving : ¬ (self.Leaving ∨ self.sets = true)) :
    Steps inner self (goto inner moved) where
  running := running
  shared := by rw [unchanged, goto]
  stop := sameStop
  spawned := rfl
  leaving := fun _ late => absurd late notLeaving

/-- A step to a point where the loop leaves. -/
theorem Steps.late {moved : ConnectorThread Json} (running : self.pc ≠ .finished)
    (unchanged : self.registeredAfter inner.connectorRegistered = inner.connectorRegistered)
    (sameStop : moved.stop = self.stop)
    (leaves : inner.load self.stop = true -> moved.Leaving) : Steps inner self (goto inner moved) where
  running := running
  shared := by rw [unchanged, goto]
  stop := sameStop
  spawned := rfl
  leaving := fun isStopped _ => leaves isStopped

/-- The tests of the stop flag. -/
theorem steps_tests (tests : self.pc = .checkStop ∨ self.pc = .checkStopPolling ∨ self.pc = .checkStopRetry)
    (stepped : self.step serde inner input = some outcome) : Steps inner self outcome := by
  rcases self with ⟨identifier, stop, pc, delay, connector, wasRegistered⟩
  rcases tests with rfl | rfl | rfl
  · cases input with
    | proceed =>
        cases stepped
        refine .late nofun rfl (by dsimp only; split <;> rfl) ?_
        intro isStopped
        rw [if_pos isStopped]
        trivial
    | _ => cases stepped
  · cases input with
    | proceed =>
        cases stepped
        refine .late nofun rfl rfl ?_
        intro isStopped
        dsimp only [Leaving]
        rw [if_pos isStopped]
        trivial
    | _ => cases stepped
  · cases input with
    | proceed =>
        cases stepped
        refine .late nofun rfl (by dsimp only; split <;> rfl) ?_
        intro isStopped
        rw [if_pos isStopped]
        trivial
    | _ => cases stepped

/-- The steps of a loop that is connecting or polling. -/
theorem steps_polls (polls : self.pc = .connect ∨ self.pc = .sendOutgoing ∨ self.pc = .poll)
    (stepped : self.step serde inner input = some outcome) : Steps inner self outcome := by
  rcases self with ⟨identifier, stop, pc, delay, connector, wasRegistered⟩
  have away : ¬ (False ∨ false = true) := by
    rintro (contrary | contrary) <;> cases contrary
  rcases polls with rfl | rfl | rfl
  · cases input with
    | connected ok => cases ok <;> cases stepped <;> exact .early nofun rfl rfl away
    | _ => cases stepped
  · cases input with
    | outgoing sent => cases sent <;> cases stepped <;> exact .early nofun rfl rfl away
    | _ => cases stepped
  · cases input with
    | polled texts isConnected =>
        cases stepped
        exact .early nofun rfl rfl away
    | _ => cases stepped

/-- The steps that write `connector_registered`. -/
theorem steps_registers {msgs : List (ConnectorMessage Json)}
    (registers : self.pc = .clearRegistered ∨ self.pc = .lostRegistered ∨ self.pc = .setRegistered msgs)
    (stepped : self.step serde inner input = some outcome) : Steps inner self outcome := by
  rcases self with ⟨identifier, stop, pc, delay, connector, wasRegistered⟩
  have away : ¬ (False ∨ false = true) := by
    rintro (contrary | contrary) <;> cases contrary
  rcases registers with rfl | rfl | rfl
  · cases input with
    | proceed =>
        cases stepped
        exact ⟨nofun, rfl, rfl, rfl, fun _ late => absurd late away⟩
    | _ => cases stepped
  · cases input with
    | proceed =>
        cases stepped
        exact ⟨nofun, rfl, rfl, rfl, fun _ late => absurd late away⟩
    | _ => cases stepped
  · cases input with
    | proceed =>
        cases stepped
        exact ⟨nofun, rfl, rfl, rfl, fun _ _ => trivial⟩
    | _ => cases stepped

/-- The steps of a loop that handles messages or disconnects. -/
theorem steps_leaves {msgs : List (ConnectorMessage Json)}
    (leaves : self.pc = .handle msgs ∨ self.pc = .disconnect ∨ self.pc = .discardOutgoing)
    (stepped : self.step serde inner input = some outcome) : Steps inner self outcome := by
  rcases self with ⟨identifier, stop, pc, delay, connector, wasRegistered⟩
  rcases leaves with rfl | rfl | rfl
  · cases input with
    | proceed => cases msgs <;> cases stepped <;> exact .late nofun rfl rfl fun _ => trivial
    | _ => cases msgs <;> cases stepped
  · cases input with
    | proceed =>
        cases stepped
        exact .late nofun rfl rfl fun _ => trivial
    | _ => cases stepped
  · cases input with
    | outgoing sent => cases sent <;> cases stepped <;> exact .late nofun rfl rfl fun _ => trivial
    | _ => cases stepped

/-- A step of the loop. -/
theorem step_steps (stepped : self.step serde inner input = some outcome) : Steps inner self outcome := by
  cases isPc : self.pc with
  | checkStop => exact steps_tests (Or.inl isPc) stepped
  | checkStopPolling => exact steps_tests (Or.inr (Or.inl isPc)) stepped
  | checkStopRetry => exact steps_tests (Or.inr (Or.inr isPc)) stepped
  | connect => exact steps_polls (Or.inl isPc) stepped
  | sendOutgoing => exact steps_polls (Or.inr (Or.inl isPc)) stepped
  | poll => exact steps_polls (Or.inr (Or.inr isPc)) stepped
  | clearRegistered => exact @steps_registers _ _ _ _ _ _ [] (Or.inl isPc) stepped
  | lostRegistered => exact @steps_registers _ _ _ _ _ _ [] (Or.inr (Or.inl isPc)) stepped
  | setRegistered msgs => exact steps_registers (Or.inr (Or.inr isPc)) stepped
  | handle msgs => exact steps_leaves (Or.inl isPc) stepped
  | disconnect => exact @steps_leaves _ _ _ _ _ _ [] (Or.inr (Or.inl isPc)) stepped
  | discardOutgoing => exact @steps_leaves _ _ _ _ _ _ [] (Or.inr (Or.inr isPc)) stepped
  | finished =>
      rcases self with ⟨identifier, stop, pc, delay, connector, wasRegistered⟩
      cases isPc
      cases input <;> cases stepped

end Cases

variable {thread : ConnectorThread Json}

theorem registeredAfter_sets (sets : thread.sets = true) (registered : Bool) :
    thread.registeredAfter registered = true := by
  rcases thread with ⟨identifier, stop, pc, delay, connector, wasRegistered⟩
  cases pc with
  | setRegistered msgs => rfl
  | _ => cases sets

theorem registeredAfter_leaving (leaving : thread.Leaving) (registered : Bool) :
    thread.registeredAfter registered = registered := by
  rcases thread with ⟨identifier, stop, pc, delay, connector, wasRegistered⟩
  cases pc with
  | clearRegistered | lostRegistered => exact leaving.elim
  | setRegistered msgs => exact leaving.elim
  | _ => rfl

theorem registeredAfter_false (sets : thread.sets = false) : thread.registeredAfter false = false := by
  rcases thread with ⟨identifier, stop, pc, delay, connector, wasRegistered⟩
  cases pc with
  | setRegistered msgs => cases sets
  | _ => rfl

theorem leaving_of_finished (finished : thread.pc = .finished) : thread.Leaving := by
  rw [Leaving, finished]
  trivial

end ConnectorThread

/-! ## The invariant -/

namespace ConnectorWorld

/-- The thread that may still run. -/
def running (world : ConnectorWorld Json) : Option Nat :=
  match world.app with
  | .idle | .stopConnector _ => world.inner.connector
  | .join _ handle => handle
  | .newStop _ | .spawn _ _ => none
  | .keepHandle handle => some handle

/-- A call to `connect_connector` is under way. -/
def connecting (world : ConnectorWorld Json) : Bool :=
  match world.app with
  | .idle | .stopConnector .disconnectConnector | .join .disconnectConnector _ => false
  | _ => true

/-- All threads have finished. -/
def AllFinished (world : ConnectorWorld Json) : Prop :=
  forall (id : Nat) (thread : ConnectorThread Json), world.threads[id]? = some thread ->
    thread.pc = .finished

/-- What holds of the world and the memory of a run.  Only one thread may run,
and it has the current flag.  While a call waits for it, `connector_registered`
is true exactly if the thread has registered late, and then it is on its way
out: nothing clears the flag again. -/
structure Orderly (world : ConnectorWorld Json) (memory : ConnectorHistory) : Prop where
  flag : world.inner.connectorStop < world.inner.stops.length
  alone : forall (id : Nat) (thread : ConnectorThread Json), world.threads[id]? = some thread ->
    thread.pc ≠ .finished -> world.running = some id ∧ thread.stop = world.inner.connectorStop
  ownFlag : forall identifier stop, world.app = .spawn identifier stop ->
    stop = world.inner.connectorStop
  joining : forall call handle, world.app = .join call handle ->
    world.inner.load world.inner.connectorStop = true ∧
    world.inner.connectorRegistered = memory.late ∧
    (memory.late = true -> forall (id : Nat) (thread : ConnectorThread Json),
      world.threads[id]? = some thread -> thread.Leaving)
  disconnected : memory.disconnected = true ->
    world.connecting = false ∧ world.AllFinished ∧ world.inner.connectorRegistered = memory.late

theorem Orderly.new : Orderly (new : ConnectorWorld Json) .start where
  flag := Nat.one_pos
  alone := fun _ _ found => (by cases found)
  ownFlag := fun _ _ contrary => (by cases contrary)
  joining := fun _ _ contrary => (by cases contrary)
  disconnected := fun contrary => (by cases contrary)

variable {serde : Serde Json} {before after : ConnectorWorld Json} {memory : ConnectorHistory}

/-- Behind the join every thread has finished. -/
theorem Orderly.joined (orderly : Orderly before memory) {call : ConnectorCall}
    {handle : Option Nat} (isPc : before.app = .join call handle)
    (joinable : before.joinable handle = true) : before.AllFinished := by
  intro id thread found
  by_contra unfinished
  have isHandle : handle = some id := by
    have runs := (orderly.alone id thread found unfinished).1
    rw [running, isPc] at runs
    exact runs
  rw [isHandle] at joinable
  rcases thread with ⟨identifier, stop, pc, delay, connector, wasRegistered⟩
  rw [ConnectorWorld.joinable, found] at joinable
  cases pc with
  | finished => exact unfinished rfl
  | _ => cases joinable

/-- A step of a call. -/
theorem Orderly.app (orderly : Orderly before memory) (stepped : before.appStep = some after) :
    Orderly after (memory.afterStep before.app) := by
  rcases before with ⟨⟨connectorRegistered, connectorStop, connector, stops⟩, threads, app⟩
  cases app with
  | idle => cases stepped
  | stopConnector call =>
      cases stepped
      have isStopped : (stops.set connectorStop true).getD connectorStop false = true := by
        rw [List.getD_eq_getElem?_getD, List.getElem?_set_self orderly.flag, Option.getD_some]
      refine ⟨?_, orderly.alone, fun _ _ contrary => (by cases contrary), ?_, ?_⟩
      · change connectorStop < (stops.set connectorStop true).length
        rw [List.length_set]
        exact orderly.flag
      · intro _ _ _
        exact ⟨isStopped, rfl, fun contrary => (by cases contrary)⟩
      · intro disconnected
        rcases orderly.disconnected disconnected with ⟨notConnecting, finished, _⟩
        refine ⟨?_, finished, rfl⟩
        cases call with
        | connectConnector identifier => cases notConnecting
        | disconnectConnector => rfl
  | join call handle =>
      unfold appStep at stepped
      dsimp only at stepped
      split_ifs at stepped with joinable
      cases stepped
      have finished := orderly.joined rfl joinable
      have quiet := (orderly.joining call handle rfl).2.1
      have alone : forall (alone : Nat -> ConnectorThread Json -> Prop) (id : Nat)
          (thread : ConnectorThread Json), threads[id]? = some thread -> thread.pc ≠ .finished ->
          alone id thread :=
        fun _ id thread found unfinished => absurd (finished id thread found) unfinished
      cases call with
      | connectConnector identifier =>
          refine ⟨orderly.flag, alone _, ?_, ?_, ?_⟩
          · intro _ _ contrary
            cases contrary
          · intro _ _ contrary
            cases contrary
          · intro disconnected
            cases (orderly.disconnected disconnected).1
      | disconnectConnector =>
          refine ⟨orderly.flag, alone _, ?_, ?_, ?_⟩
          · intro _ _ contrary
            cases contrary
          · intro _ _ contrary
            cases contrary
          · intro _
            exact ⟨rfl, finished, quiet⟩
  | newStop identifier =>
      cases stepped
      refine ⟨?_, ?_, ?_, ?_, ?_⟩
      · change stops.length < (stops ++ [false]).length
        rw [List.length_append]
        exact Nat.lt_succ_self _
      · intro id thread found unfinished
        cases (orderly.alone id thread found unfinished).1
      · intro _ _ isPc
        cases isPc
        rfl
      · intro _ _ contrary
        cases contrary
      · intro disconnected
        cases (orderly.disconnected disconnected).1
  | spawn identifier stop =>
      cases stepped
      refine ⟨orderly.flag, ?_, ?_, ?_, ?_⟩
      · intro id thread found unfinished
        rcases getElem?_concat_cases found with old | ⟨rfl, rfl⟩
        · cases (orderly.alone id thread old unfinished).1
        · exact ⟨rfl, orderly.ownFlag identifier stop rfl⟩
      · intro _ _ contrary
        cases contrary
      · intro _ _ contrary
        cases contrary
      · intro disconnected
        cases (orderly.disconnected disconnected).1
  | keepHandle handle =>
      cases stepped
      refine ⟨orderly.flag, orderly.alone, ?_, ?_, ?_⟩
      · intro _ _ contrary
        cases contrary
      · intro _ _ contrary
        cases contrary
      · intro disconnected
        cases (orderly.disconnected disconnected).1

theorem registersLate_eq {id : Nat} {thread : ConnectorThread Json} (input : LoopInput)
    (found : before.threads[id]? = some thread) :
    before.registersLate (.thread id input) = (thread.sets && before.inner.load thread.stop) := by
  rcases thread with ⟨identifier, stop, pc, delay, connector, wasRegistered⟩
  simp only [registersLate, found]
  cases pc <;> rfl

/-- A step of a thread. -/
theorem Orderly.thread (orderly : Orderly before memory) {id : Nat} {thread : ConnectorThread Json}
    {outcome : Outcome ConnectorInner (ConnectorThread Json) (Option Bool)} (input : LoopInput)
    (found : before.threads[id]? = some thread)
    (steps : ConnectorThread.Steps before.inner thread outcome) :
    Orderly
      { before with
        inner := outcome.shared
        threads := threadsAfter before.threads id outcome }
      { memory with late := memory.late || before.registersLate (.thread id input) } := by
  have inside := (List.getElem?_eq_some_iff.mp found).1
  have isAlone := orderly.alone id thread found steps.running
  have cases_of : forall (k : Nat) (other : ConnectorThread Json),
      (threadsAfter before.threads id outcome)[k]? = some other ->
      (k = id ∧ other = outcome.thread) ∨ (k ≠ id ∧ before.threads[k]? = some other) := by
    intro k other isOther
    rcases threadsAfter_cases inside isOther with moved | old | ⟨_, spawned⟩
    · exact Or.inl moved
    · exact Or.inr old
    · rw [steps.spawned] at spawned
      cases spawned
  rw [registersLate_eq input found, steps.shared]
  refine ⟨orderly.flag, ?_, orderly.ownFlag, ?_, ?_⟩
  · intro k other isOther unfinished
    rcases cases_of k other isOther with ⟨rfl, rfl⟩ | ⟨_, old⟩
    · exact ⟨isAlone.1, steps.stop.trans isAlone.2⟩
    · exact orderly.alone k other old unfinished
  · intro call handle isPc
    rcases orderly.joining call handle isPc with ⟨isStopped, isLate, leaving⟩
    have ownStopped : before.inner.load thread.stop = true := by
      rw [isAlone.2]
      exact isStopped
    dsimp only
    rw [ownStopped, Bool.and_true, isLate]
    refine ⟨isStopped, ?_, ?_⟩
    · cases sets : thread.sets with
      | true => rw [ConnectorThread.registeredAfter_sets sets, Bool.or_true]
      | false =>
          rw [Bool.or_false]
          cases wasLate : memory.late with
          | true =>
              exact ConnectorThread.registeredAfter_leaving (leaving wasLate id thread found) true
          | false => exact ConnectorThread.registeredAfter_false sets
    · intro nowLate k other isOther
      have before_or : thread.Leaving ∨ thread.sets = true := by
        rcases Bool.or_eq_true_iff.mp nowLate with wasLate | sets
        · exact Or.inl (leaving wasLate id thread found)
        · exact Or.inr sets
      rcases cases_of k other isOther with ⟨rfl, rfl⟩ | ⟨different, old⟩
      · exact steps.leaving ownStopped before_or
      · -- Only one thread has not finished, and that is the one that moved.
        by_cases finished : other.pc = .finished
        · exact ConnectorThread.leaving_of_finished finished
        · have same := (orderly.alone k other old finished).1.symm.trans isAlone.1
          exact absurd (Option.some.inj same) different
  · intro disconnected
    exact absurd ((orderly.disconnected disconnected).2.1 id thread found) steps.running

theorem Orderly.step (orderly : Orderly before memory) {event : ConnectorEvent}
    (stepped : before.apply serde event = some after) :
    Orderly after (connectorHistory.record before event after memory) := by
  cases event with
  | call call =>
      rcases before with ⟨inner, threads, app⟩
      cases app with
      | idle =>
          cases stepped
          cases call with
          | connectConnector identifier =>
              refine ⟨orderly.flag, orderly.alone, ?_, ?_, ?_⟩
              · intro _ _ contrary
                cases contrary
              · intro _ _ contrary
                cases contrary
              · intro contrary
                cases contrary
          | disconnectConnector =>
              refine ⟨orderly.flag, orderly.alone, ?_, ?_, ?_⟩
              · intro _ _ contrary
                cases contrary
              · intro _ _ contrary
                cases contrary
              · intro disconnected
                exact ⟨rfl, (orderly.disconnected disconnected).2⟩
      | _ => cases stepped
  | app => exact orderly.app stepped
  | thread id input =>
      simp only [apply] at stepped
      cases found : before.threads[id]? with
      | none =>
          rw [found] at stepped
          cases stepped
      | some thread =>
          rw [found] at stepped
          rcases Option.map_eq_some_iff.mp stepped with ⟨outcome, moved, rfl⟩
          exact orderly.thread input found (ConnectorThread.step_steps moved)

theorem orderly_of_reachable {run : ConnectorWorld Json × ConnectorHistory}
    (reachable : ((connectorSystem serde).remember connectorHistory).Reachable run) :
    Orderly run.1 run.2 := by
  refine reachable.remembered_invariant Orderly ?_ ?_
  · intro world isNew
    rw [isNew]
    exact Orderly.new
  · intro before memory event after _ orderly stepped
    exact orderly.step stepped

/-- In a run in which no thread registers late, none has. -/
theorem not_late_of_inTime {run : ConnectorWorld Json × ConnectorHistory}
    (reachable : (((connectorSystem serde).restrict RegistersInTime).remember
      connectorHistory).Reachable run) : run.2.late = false := by
  refine reachable.remembered_invariant (fun _ memory => memory.late = false) ?_ ?_
  · intro _ _
    rfl
  · intro before memory event after _ notLate stepped
    cases event with
    | call call => cases call <;> exact notLate
    | app =>
        change (memory.afterStep before.app).late = false
        cases before.app with
        | stopConnector call => rfl
        | join call handle => cases call <;> exact notLate
        | _ => exact notLate
    | thread id input =>
        change (memory.late || before.registersLate (.thread id input)) = false
        rw [notLate, stepped.1]
        rfl

/-- The connector counts as disconnected. -/
def Refuses (world : ConnectorWorld Json) : Prop :=
  world.isConnectorRegistered = 0 ∧ world.initiateIce = -1

instance (world : ConnectorWorld Json) : Decidable world.Refuses :=
  inferInstanceAs (Decidable (_ ∧ _))

theorem refuses_iff {world : ConnectorWorld Json} :
    world.Refuses <-> world.inner.connectorRegistered = false := by
  unfold Refuses isConnectorRegistered initiateIce
  cases world.inner.connectorRegistered <;> decide

/-- **A disconnect sticks unless the thread registers late.**  Behind a disconnect,
until the next connect, the connector counts as disconnected in every run whose
threads register in time, and in any run exactly as long as no thread has
registered between the clearing block and the join. -/
theorem disconnect_sticks {run : ConnectorWorld Json × ConnectorHistory}
    (reachable : ((connectorSystem serde).remember connectorHistory).Reachable run)
    (disconnected : run.2.disconnected = true) :
    (run.1.Refuses <-> run.2.late = false) ∧
    ((((connectorSystem serde).restrict RegistersInTime).remember connectorHistory).Reachable run ->
      run.1.Refuses) := by
  have isLate := ((orderly_of_reachable reachable).disconnected disconnected).2.2
  have exactly : run.1.Refuses <-> run.2.late = false := by rw [refuses_iff, isLate]
  exact ⟨exactly, fun inTime => exactly.mpr (not_late_of_inTime inTime)⟩

/-! ## Two runs -/

/-- `connect_connector`, up to its return. -/
def connectEvents : List ConnectorEvent :=
  [.call (.connectConnector "me"), .app, .app, .app, .app, .app]

/-- The first thread connects and polls, and the server has answered. -/
def registerEvents : List ConnectorEvent :=
  [.thread 0 .proceed, .thread 0 (.connected true), .thread 0 .proceed, .thread 0 .proceed,
    .thread 0 (.outgoing none), .thread 0 (.polled [registerOkText] true)]

/-- From the end of a round without messages the thread goes on to its end. -/
def finishEvents : List ConnectorEvent :=
  [.thread 0 .proceed, .thread 0 .proceed, .thread 0 .proceed, .thread 0 (.outgoing none),
    .thread 0 .proceed, .thread 0 .proceed]

/-- The clearing block of the disconnect comes behind the registration. -/
def registeredFirst : List ConnectorEvent :=
  connectEvents ++ registerEvents ++ [.thread 0 .proceed, .call .disconnectConnector, .app] ++
    finishEvents ++ [.app]

/-- The clearing block of the disconnect comes between the poll that hears the
answer and the block that registers. -/
def clearedFirst : List ConnectorEvent :=
  connectEvents ++ registerEvents ++ [.call .disconnectConnector, .app, .thread 0 .proceed] ++
    finishEvents ++ [.app]

/-- A run of given events, with its memory. -/
def performed (allowed : ConnectorWorld Foundation.Json -> ConnectorEvent -> Bool)
    (events : List ConnectorEvent) : Option (ConnectorWorld Foundation.Json × ConnectorHistory) :=
  TransitionSystem.perform
    (TransitionSystem.recordNext connectorHistory (apply plainSerde))
    (fun run => allowed run.1) (new, .start) events

/-- A run of the connector, and a test of the world and the memory it ends in. -/
theorem exists_connectorRun {allowed : ConnectorWorld Foundation.Json -> ConnectorEvent -> Bool}
    (condition : ConnectorWorld Foundation.Json -> ConnectorEvent -> Prop)
    (meets : forall world event, allowed world event = true -> condition world event)
    {events : List ConnectorEvent} {test : ConnectorWorld Foundation.Json × ConnectorHistory -> Bool}
    (ends : (performed allowed events).any test = true) :
    exists run, (((connectorSystem plainSerde).restrict condition).remember
      connectorHistory).Reachable run ∧ test run = true :=
  TransitionSystem.exists_remembered connectorHistory condition (fun _ _ _ applied => applied) meets
    rfl ends

theorem disconnect_sticks_registered :
    exists run : ConnectorWorld Foundation.Json × ConnectorHistory,
      run.2.disconnected = true ∧ run.1.Refuses := by
  have ends : (performed (fun before event => decide (RegistersInTime before event))
      registeredFirst).any (fun run => run.2.disconnected) = true := by
    decide +kernel
  rcases exists_connectorRun RegistersInTime (fun _ _ => of_decide_eq_true) ends with
    ⟨run, reachable, disconnected⟩
  exact ⟨run, disconnected,
    (disconnect_sticks reachable.of_restrict_remember disconnected).2 reachable⟩

/-- A thread that has heard the answer registers behind the clearing block. -/
theorem registered_behind_disconnect :
    ¬ forall (Json : Type) (serde : Serde Json) (run : ConnectorWorld Json × ConnectorHistory),
      ((connectorSystem serde).remember connectorHistory).Reachable run ->
      run.2.disconnected = true -> run.1.Refuses := by
  intro claim
  have ends : (performed (fun _ _ => true) clearedFirst).any
      (fun run => run.2.disconnected && run.1.inner.connectorRegistered) = true := by
    decide +kernel
  rcases exists_connectorRun (fun _ _ => True) (fun _ _ _ => trivial) ends with
    ⟨run, reachable, test⟩
  rcases Bool.and_eq_true_iff.mp test with ⟨disconnected, registered⟩
  have refuses := claim Foundation.Json _ run reachable.of_restrict_remember disconnected
  rw [refuses_iff, registered] at refuses
  cases refuses

end ConnectorWorld

end Connector
end P2pSdk
