import P2pSdk.Client.Threads

namespace P2pSdk

open Foundation

/-!
# Calls to a client and their interleavings (`client.rs`)

A call to `connect` or `close` can come at any time, also while others are
under way.  Its first block is the call itself; the rest of it is a thread of
its own, as is the background thread that `connect` spawns.  A run is any
sequence of calls and of steps of the threads.

The world remembers what the two properties of the client are about: whether
a `close` has returned since the last call to `connect`, whether a state or
data callback was called after that, and which thread ticked which agent at
what time.
-/

/-! ## Threads -/

inductive ConnectPc where
  | storeHeartbeat (heartbeatIntervalSecs : Nat)
  | spawnBackground
  | returned
  deriving DecidableEq, Repr

/-- The program points of `connect_background`.  A block that the code skips
is a step without effect here. -/
inductive BackgroundPc where
  | storeRoute
  | readRoute
  | storeStunIp
  | storeStunPort
  | storeTurn
  | gather
  | negotiate
  | storeAgent (agent : IceAgent)
  | stopThreads
  | joinTick (tick recv : Option Nat)
  | joinRecv (recv : Option Nat)
  | replaceStop
  | spawnTick (stop : Nat)
  | spawnRecv (stop tick : Nat)
  | storeHandles (tick recv : Nat)
  | fireFailed (firing : Firing)
  | done
  deriving DecidableEq, Repr

inductive ClosePc where
  | joinTick (tick recv : Option Nat)
  | joinRecv (recv : Option Nat)
  | clear
  | returned
  deriving DecidableEq, Repr

inductive Thread where
  | connect (pc : ConnectPc)
  | background (pc : BackgroundPc)
  | close (pc : ClosePc)
  | tick (self : TickThread)
  | recv (self : RecvThread)
  deriving DecidableEq, Repr

/-- The thread has ended. -/
def Thread.finished : Thread -> Bool
  | .connect pc => pc = .returned
  | .background pc => pc = .done
  | .close pc => pc = .returned
  | .tick self => self.pc = .finished
  | .recv self => self.pc = .finished

/-- `join` goes on when there is no handle, or its thread has ended. -/
def joinable (threads : List Thread) : Option Nat -> Bool
  | none => true
  | some id => threads[id]?.any Thread.finished

section Steps

/-- Replace the thread and leave the shared state. -/
def quietly (thread : Thread) (shared : Shared) : Outcome Shared Thread Note where
  shared := shared
  thread := thread
  spawned := none
  note := .quiet

/-- `connect` after its first block. -/
def ConnectPc.step (shared : Shared) (input : Input) :
    ConnectPc -> Option (Outcome Shared Thread Note)
  | .storeHeartbeat heartbeatIntervalSecs =>
      match input with
      | .failed => some (quietly (.connect .returned) shared)
      | _ =>
          some (quietly (.connect .spawnBackground)
            { shared with
              client := { shared.client with
                heartbeatIntervalSecs := heartbeatIntervalSecs } })
  | .spawnBackground =>
      some
        { shared := shared
          thread := .connect .returned
          spawned := some (.background .storeRoute)
          note := .quiet }
  | .returned => none

/-- The agent that the background thread builds, and the result of its `start_checks`. -/
def negotiated (seed : AgentSeed) (candidates : List IceCandidate)
    (answer : IceSessionDescription) : IceAgent × Except String Unit :=
  ((candidates.foldl IceAgent.addLocalCandidate (IceAgent.new true seed)).setRemoteSessionDescription
    answer).startChecks

/-- `connect_background` as the thread with index `id`. -/
def BackgroundPc.step (shared : Shared) (threads : List Thread) (id : Nat) (input : Input) :
    BackgroundPc -> Option (Outcome Shared Thread Note)
  | .storeRoute => some (quietly (.background .readRoute) shared)
  | .readRoute => some (quietly (.background .storeStunIp) shared)
  | .storeStunIp => some (quietly (.background .storeStunPort) shared)
  | .storeStunPort => some (quietly (.background .storeTurn) shared)
  | .storeTurn => some (quietly (.background .gather) shared)
  | .gather =>
      match input with
      | .failed => some (quietly (.background (.fireFailed .take)) shared)
      | _ => some (quietly (.background .negotiate) shared)
  | .negotiate =>
      match input with
      | .answered seed candidates answer =>
          match negotiated seed candidates answer with
          | (agent, .ok ()) => some (quietly (.background (.storeAgent agent)) shared)
          | (_, .error _) => some (quietly (.background (.fireFailed .take)) shared)
      | _ => some (quietly (.background (.fireFailed .take)) shared)
  | .storeAgent agent =>
      some (quietly (.background .stopThreads)
        { shared with
          client := { shared.client with iceAgent := some ⟨id, agent⟩, iceUdp := some id } })
  | .stopThreads =>
      let stopping := shared.stopIceThreads
      some (quietly (.background (.joinTick stopping.2.1 stopping.2.2)) stopping.1)
  | .joinTick tick recv =>
      if joinable threads tick then some (quietly (.background (.joinRecv recv)) shared) else none
  | .joinRecv recv =>
      if joinable threads recv then some (quietly (.background .replaceStop) shared) else none
  | .replaceStop =>
      some (quietly (.background (.spawnTick shared.flags.length))
        { shared with
          client := { shared.client with iceStop := shared.flags.length }
          flags := shared.flags ++ [false] })
  | .spawnTick stop =>
      some
        { shared := shared
          thread := .background (.spawnRecv stop threads.length)
          spawned := some (.tick (.start id stop))
          note := .quiet }
  | .spawnRecv stop tick =>
      some
        { shared := shared
          thread := .background (.storeHandles tick threads.length)
          spawned := some (.recv (.start id stop))
          note := .quiet }
  | .storeHandles tick recv =>
      some (quietly (.background .done)
        { shared with
          client := { shared.client with tickHandle := some tick, recvHandle := some recv } })
  | .fireFailed firing =>
      let fired := firing.step (.state .failed) shared.client
      some
        { shared := { shared with client := fired.1 }
          thread := .background (match fired.2.1 with
            | some later => .fireFailed later
            | none => .done)
          spawned := none
          note := fired.2.2 }
  | .done => none

/-- `close` after its first block.  Its last block stops and drops the agent. -/
def ClosePc.step (shared : Shared) (threads : List Thread) :
    ClosePc -> Option (Outcome Shared Thread Note)
  | .joinTick tick recv =>
      if joinable threads tick then some (quietly (.close (.joinRecv recv)) shared) else none
  | .joinRecv recv =>
      if joinable threads recv then some (quietly (.close .clear) shared) else none
  | .clear =>
      some
        { shared :=
            { shared with
              client := { shared.client with
                iceAgent := none, iceUdp := none, heartbeatIntervalSecs := 0 } }
          thread := .close .returned
          spawned := none
          note := .returned }
  | .returned => none

/-- The next atomic step of a thread. -/
def Thread.step (env : Environment) (shared : Shared) (threads : List Thread) (id : Nat)
    (input : Input) : Thread -> Option (Outcome Shared Thread Note)
  | .connect pc => pc.step shared input
  | .background pc => pc.step shared threads id input
  | .close pc => pc.step shared threads
  | .tick self => (self.step env shared input).map (Outcome.map .tick)
  | .recv self => (self.step shared input).map (Outcome.map .recv)

end Steps

/-! ## The world -/

/-- A call of `tick` on the agent of a background thread. -/
structure TickRecord where
  owner : Nat
  thread : Nat
  now : Nat
  deriving DecidableEq, Repr

structure World where
  shared : Shared
  threads : List Thread
  /-- A `close` has returned, and no `connect` was called since. -/
  closed : Bool
  /-- State and data callbacks called while the client was closed. -/
  lateCalls : Nat
  /-- The latest first. -/
  ticks : List TickRecord
  deriving DecidableEq, Repr

inductive Event where
  | connect (heartbeatIntervalSecs : Nat)
  | close
  | run (id : Nat) (input : Input)

/-- State and data callbacks count while the client is closed. -/
def Note.late (closed : Bool) : Note -> Nat
  | .called (.state _) => if closed then 1 else 0
  | .called (.data _) => if closed then 1 else 0
  | _ => 0

/-- The tick that a step made. -/
def Note.record (id : Nat) : Note -> List TickRecord
  | .ticked owner now => [⟨owner, id, now⟩]
  | _ => []

namespace World

/-- A client before its first call, with the callbacks that are registered. -/
def new (io onStateChange onData onLog : Bool) : World where
  shared :=
    { client :=
        { io := io
          iceAgent := none
          iceUdp := none
          tickHandle := none
          recvHandle := none
          iceStop := 0
          onStateChange := onStateChange
          onData := onData
          onLog := onLog
          heartbeatIntervalSecs := 0
          lastRecvInstant := none
          pendingSeqIds := [] }
      flags := [false]
      drawn := 0
      sent := [] }
  threads := []
  closed := false
  lateCalls := 0
  ticks := []

/-- The world after a step of the thread at `id`. -/
def record (world : World) (id : Nat) (outcome : Outcome Shared Thread Note) : World where
  shared := outcome.shared
  threads := threadsAfter world.threads id outcome
  closed := world.closed || outcome.note = .returned
  lateCalls := world.lateCalls + outcome.note.late world.closed
  ticks := outcome.note.record id ++ world.ticks

/-- A call to `connect`, up to and with its first block. -/
def callConnect (world : World) (heartbeatIntervalSecs : Nat) : World :=
  { world with
    threads :=
      if world.shared.client.io then
        world.threads ++ [.connect (.storeHeartbeat heartbeatIntervalSecs)]
      else world.threads
    closed := false }

/-- A call to `close`, up to and with its first block. -/
def callClose (world : World) : World :=
  let stopping := world.shared.stopIceThreads
  { world with
    shared := stopping.1
    threads := world.threads ++ [.close (.joinTick stopping.2.1 stopping.2.2)] }

def apply (env : Environment) (world : World) : Event -> Option World
  | .connect heartbeatIntervalSecs => some (world.callConnect heartbeatIntervalSecs)
  | .close => some world.callClose
  | .run id input =>
      match world.threads[id]? with
      | none => none
      | some thread =>
          (thread.step env world.shared world.threads id input).map (world.record id)

end World

/-- A step of a thread in the world. -/
theorem World.apply_run {env : Environment} {before after : World} {id : Nat} {input : Input}
    (applied : before.apply env (.run id input) = some after) :
    exists thread outcome, before.threads[id]? = some thread ∧
      thread.step env before.shared before.threads id input = some outcome ∧
      after = before.record id outcome := by
  simp only [World.apply] at applied
  cases found : before.threads[id]? with
  | none =>
      rw [found] at applied
      cases applied
  | some thread =>
      rw [found] at applied
      rcases Option.map_eq_some_iff.mp applied with ⟨outcome, isOutcome, same⟩
      exact ⟨thread, outcome, rfl, isOutcome, same.symm⟩

/-- All runs of one client. -/
def clientSystem (env : Environment) : TransitionSystem World Event where
  initial := fun world => exists io onStateChange onData onLog,
    world = World.new io onStateChange onData onLog
  step := fun before event after => before.apply env event = some after

/-! ## Concrete runs -/

/-- Perform a sequence of events, each allowed where it happens. -/
def World.events (env : Environment) (allowed : World -> Event -> Bool) :
    World -> List Event -> Option World :=
  TransitionSystem.perform (fun world event => world.apply env event) allowed

/-- A run of a client with all callbacks, given by its events, and a test of
the world it ends in. -/
theorem World.exists_world {env : Environment} {allowed : World -> Event -> Bool}
    (condition : World -> Event -> Prop)
    (meets : forall world event, allowed world event = true -> condition world event)
    {events : List Event} {test : World -> Bool}
    (ends : ((World.new true true true true).events env allowed events).any test = true) :
    exists world, ((clientSystem env).restrict condition).Reachable world ∧ test world = true := by
  refine TransitionSystem.exists_reachable condition ?_ meets ?_ ends
  · intro before event after stepped
    exact stepped
  · exact ⟨true, true, true, true, rfl⟩

/-- Transaction ids that count up, and hash functions that return zeros. -/
def concreteEnvironment : Environment := ⟨zeroCrypto, countingIds⟩

/-- One local candidate, and the answer of a peer with one candidate. -/
def concreteAnswer : Input :=
  .answered (uniformSeed 0 0)
    [{ foundation := "host1", componentId := 1, transport := "UDP",
       priority := calcCandidatePriority .host, connectionAddress := "10.0.0.1", port := 5000,
       candidateType := .host, relatedAddress := "", relatedPort := 0 }]
    { iceUfrag := "peer", icePwd := "secret", isLite := false,
      candidates := ["candidate:1 1 UDP 2113929471 10.0.0.2 6000 typ host"] }

/-- Steps of one thread that need no input. -/
def runs (id steps : Nat) : List Event := List.replicate steps (.run id .proceed)

/-- A call to `connect` as thread `id`, and its background thread up to the
block that stores the agent. -/
def connectEvents (id : Nat) : List Event :=
  .connect 0 :: runs id 2 ++ runs (id + 1) 6 ++ [.run (id + 1) concreteAnswer]

/-- A request of a controlling peer that nominates. -/
def nominatingRequest : Bytes :=
  stunHeader STUN_BINDING_REQUEST 16 (countingIds 0).bytes ++
    [0x80, 0x2A, 0, 8, 0, 0, 0, 0, 0, 0, 0, 0, 0, 0x25, 0, 0]

/-- A receive thread gets a datagram and hands it to the agent. -/
def receiveEvents (id : Nat) (data : Bytes) : List Event :=
  runs id 2 ++ .run id (.datagram data peerAddress) :: runs id 1

/-- A call to `connect` as thread `id` on a client without threads, up to the
point where the receive thread, the fourth, has completed the agent. -/
def sessionEvents (id heartbeatIntervalSecs : Nat) : List Event :=
  .connect heartbeatIntervalSecs :: runs id 2 ++ runs (id + 1) 6 ++
    .run (id + 1) concreteAnswer :: runs (id + 1) 8 ++ receiveEvents (id + 3) nominatingRequest

end P2pSdk
