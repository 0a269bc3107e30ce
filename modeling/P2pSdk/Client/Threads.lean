import P2pSdk.Core.Frame
import P2pSdk.Foundation.Threads
import P2pSdk.Ice.AgentRun

namespace P2pSdk

open Foundation

/-!
# Threads of a client (`client.rs`)

`connect`, its background thread, `close`, and the tick and receive threads,
as atomic steps: one for each block that holds the mutex, each spawn, each
join and each call of a callback.  What happens between two of these belongs
to the step before it.  Network answers, datagrams and clock readings are
inputs of the steps.

An agent, its socket and its tick and receive threads carry the index of the
background thread that made them.  The code does not see this label.
-/

/-! ## Shared state -/

/-- An agent with the background thread that built it. -/
structure OwnedAgent where
  owner : Nat
  agent : IceAgent
  deriving DecidableEq, Repr

/-- `ClientInner`, as far as these threads use it.  A callback is present
unless it was never registered or is being called. -/
structure Client where
  io : Bool
  iceAgent : Option OwnedAgent
  /-- A socket is known by the background thread that bound it. -/
  iceUdp : Option Nat
  tickHandle : Option Nat
  recvHandle : Option Nat
  iceStop : Nat
  onStateChange : Bool
  onData : Bool
  onLog : Bool
  heartbeatIntervalSecs : Nat
  lastRecvInstant : Option Nat
  pendingSeqIds : List UInt64
  deriving DecidableEq, Repr

/-- A datagram handed to a socket. -/
structure SentDatagram where
  udp : Nat
  action : IceAction
  deriving DecidableEq, Repr

/-- The client behind its mutex, the stop flags, and the transaction ids drawn. -/
structure Shared where
  client : Client
  flags : List Bool
  drawn : Nat
  sent : List SentDatagram
  deriving DecidableEq, Repr

/-- What the steps take from outside the repository. -/
structure Environment where
  crypto : Crypto
  ids : Nat -> TransactionId

/-- The input of a step. -/
inductive Input where
  | proceed
  | failed
  /-- The gathered candidates, and the peer's answer to the offer. -/
  | answered (seed : AgentSeed) (candidates : List IceCandidate) (answer : IceSessionDescription)
  | datagram (data : Bytes) (source : Address)
  | instant (now : Nat)

/-- What a callback is called with. -/
inductive Notice where
  | state (state : IceState)
  | data (payload : Bytes)
  | log
  deriving DecidableEq, Repr

/-- What a step does that others can observe. -/
inductive Note where
  | quiet
  | called (notice : Notice)
  | ticked (owner now : Nat)
  | returned
  deriving DecidableEq, Repr

namespace Client

/-- The callback for a notice. -/
def callback (client : Client) : Notice -> Bool
  | .state _ => client.onStateChange
  | .data _ => client.onData
  | .log => client.onLog

def setCallback (client : Client) (present : Bool) : Notice -> Client
  | .state _ => { client with onStateChange := present }
  | .data _ => { client with onData := present }
  | .log => { client with onLog := present }

end Client

namespace Shared

def stopped (shared : Shared) (flag : Nat) : Bool := shared.flags.getD flag false

/-- Send on the current socket. -/
def sendAll (shared : Shared) (actions : List IceAction) : Shared :=
  match shared.client.iceUdp with
  | none => shared
  | some udp => { shared with sent := shared.sent ++ actions.map fun action => ⟨udp, action⟩ }

/-- Send a heartbeat to the nominated pair, on a given socket. -/
def sendHeartbeat (shared : Shared) (udp : Option Nat) : Shared :=
  match shared.client.iceAgent.bind fun owned => owned.agent.sendData encodeHeartbeatReply, udp with
  | some action, some udp => { shared with sent := shared.sent ++ [⟨udp, action⟩] }
  | _, _ => shared

/-- The first block of `stop_ice_threads`: the flag is set and the handles are taken. -/
def stopIceThreads (shared : Shared) : Shared × Option Nat × Option Nat :=
  ({ shared with
      client := { shared.client with tickHandle := none, recvHandle := none }
      flags := shared.flags.set shared.client.iceStop true },
    shared.client.tickHandle, shared.client.recvHandle)

end Shared

/-! ## Callbacks -/

/-- The three steps of `fire_state_change`, `fire_on_data` and `sdk_log`. -/
inductive Firing where
  | take
  | call
  | restore
  deriving DecidableEq, Repr

/-- The callback is taken out of the client, called, and put back.  An absent
callback ends this at once. -/
def Firing.step (firing : Firing) (notice : Notice) (client : Client) :
    Client × Option Firing × Note :=
  match firing with
  | .take =>
      if client.callback notice then (client.setCallback false notice, some .call, .quiet)
      else (client, none, .quiet)
  | .call => (client, some .restore, .called notice)
  | .restore => (client.setCallback true notice, none, .quiet)

/-! ## The tick thread -/

inductive TickPc where
  | checkStop
  | observe
  | fireState (state : IceState) (firing : Firing)
  | tickAgent
  | send (actions : List IceAction)
  | readHeartbeat
  | sendHeartbeat (hbSecs : Nat)
  | checkTimeout (hbSecs : Nat)
  | fireTimeout (firing : Firing)
  | finished
  deriving DecidableEq, Repr

structure TickThread where
  starter : Nat
  stop : Nat
  nowMs : Nat
  lastState : Option IceState
  lastHeartbeatMs : Nat
  pc : TickPc
  deriving DecidableEq, Repr

namespace TickThread

def start (starter stop : Nat) : TickThread where
  starter := starter
  stop := stop
  nowMs := 0
  lastState := none
  lastHeartbeatMs := 0
  pc := .checkStop

/-- Go on at a program point. -/
def goto (self : TickThread) (pc : TickPc) (shared : Shared) : Outcome Shared TickThread Note where
  shared := shared
  thread := { self with pc := pc }
  spawned := none
  note := .quiet

/-- `agent.tick(now_ms)` on the agent that the client holds. -/
def tickAgent (env : Environment) (self : TickThread) (shared : Shared) :
    Outcome Shared TickThread Note :=
  match shared.client.iceAgent with
  | none => self.goto (.send []) shared
  | some owned =>
      let round := owned.agent.tick env.crypto env.ids shared.drawn self.nowMs
      { shared :=
          { shared with
            client := { shared.client with iceAgent := some { owned with agent := round.1 } }
            drawn := round.2.2 }
        thread := { self with pc := .send round.2.1 }
        spawned := none
        note := .ticked owned.owner self.nowMs }

/-- A step of a callback, after which the thread goes on at `next`. -/
def fire (self : TickThread) (shared : Shared) (notice : Notice) (firing : Firing)
    (again : Firing -> TickPc) (next : TickPc) : Outcome Shared TickThread Note :=
  let fired := firing.step notice shared.client
  { shared := { shared with client := fired.1 }
    thread := { self with pc := match fired.2.1 with
      | some later => again later
      | none => next }
    spawned := none
    note := fired.2.2 }

/-- After the heartbeat interval is read: is a heartbeat due, or a timeout to be checked? -/
def afterHeartbeatInterval (self : TickThread) (hbSecs : Nat) : TickThread :=
  if 0 < hbSecs ∧ self.lastState = some .completed then
    if hbSecs * 1000 ≤ self.nowMs - self.lastHeartbeatMs then
      { self with lastHeartbeatMs := self.nowMs, pc := .sendHeartbeat hbSecs }
    else { self with pc := .checkTimeout hbSecs }
  else { self with pc := .checkStop }

/-- Nothing has been received for two heartbeat intervals. -/
def timedOut (lastRecvInstant : Option Nat) (hbSecs now : Nat) : Bool :=
  match lastRecvInstant with
  | some instant => hbSecs * 2 * 1000 ≤ now - instant
  | none => false

/-- One step of the loop of the tick thread. -/
def step (env : Environment) (shared : Shared) (self : TickThread) (input : Input) :
    Option (Outcome Shared TickThread Note) :=
  match self.pc with
  | .checkStop =>
      if shared.stopped self.stop then some (self.goto .finished shared)
      else some ({ self with nowMs := self.nowMs + 50 }.goto .observe shared)
  | .observe =>
      match shared.client.iceAgent with
      | none => some (self.goto (.send []) shared)
      | some owned =>
          let state := owned.agent.state
          if self.lastState ≠ some state then
            some ({ self with lastState := some state }.goto (.fireState state .take) shared)
          else some (self.tickAgent env shared)
  | .fireState state firing =>
      some (self.fire shared (.state state) firing (.fireState state) .tickAgent)
  | .tickAgent => some (self.tickAgent env shared)
  | .send actions => some (self.goto .readHeartbeat (shared.sendAll actions))
  | .readHeartbeat =>
      let after := self.afterHeartbeatInterval shared.client.heartbeatIntervalSecs
      some (after.goto after.pc shared)
  | .sendHeartbeat hbSecs =>
      some (self.goto (.checkTimeout hbSecs) (shared.sendHeartbeat shared.client.iceUdp))
  | .checkTimeout hbSecs =>
      match input with
      | .instant now =>
          if timedOut shared.client.lastRecvInstant hbSecs now then
            some (self.goto (.fireTimeout .take) shared)
          else some (self.goto .checkStop shared)
      | _ => none
  | .fireTimeout firing =>
      some (self.fire shared (.state .disconnected) firing .fireTimeout .checkStop)
  | .finished => none

end TickThread

/-! ## The receive thread -/

/-- What follows a log message. -/
inductive AfterLog where
  | again
  | deliver (seqId : UInt64) (payload : Bytes)
  deriving DecidableEq, Repr

inductive RecvPc where
  | checkStop
  | cloneUdp
  | receive (udp : Nat)
  | handle (udp : Nat) (data : Bytes) (source : Address)
  | storeInstant (udp : Nat) (appData : Bytes)
  | readHeartbeat (udp : Nat) (appData : Bytes)
  | replyHeartbeat (udp : Nat)
  | log (firing : Firing) (next : AfterLog)
  | pushSeqId (seqId : UInt64) (payload : Bytes)
  | fireData (payload : Bytes) (firing : Firing)
  | finished
  deriving DecidableEq, Repr

structure RecvThread where
  starter : Nat
  stop : Nat
  pc : RecvPc
  deriving DecidableEq, Repr

namespace RecvThread

def start (starter stop : Nat) : RecvThread where
  starter := starter
  stop := stop
  pc := .checkStop

def goto (self : RecvThread) (pc : RecvPc) (shared : Shared) : Outcome Shared RecvThread Note where
  shared := shared
  thread := { self with pc := pc }
  spawned := none
  note := .quiet

def fire (self : RecvThread) (shared : Shared) (notice : Notice) (firing : Firing)
    (again : Firing -> RecvPc) (next : RecvPc) : Outcome Shared RecvThread Note :=
  let fired := firing.step notice shared.client
  { shared := { shared with client := fired.1 }
    thread := { self with pc := match fired.2.1 with
      | some later => again later
      | none => next }
    spawned := none
    note := fired.2.2 }

/-- Where application data go, once the heartbeat interval is known. -/
def dispatch (hbSecs udp : Nat) (appData : Bytes) : RecvPc :=
  match parseFrame appData with
  | none => .log .take .again
  | some parsed =>
      if 0 < hbSecs ∧ parsed.frameType = TYPE_HEARTBEAT then .replyHeartbeat udp
      else if parsed.frameType = TYPE_DATA then .log .take (.deliver parsed.seqId parsed.payload)
      else .log .take .again

/-- Where a message goes after its log line. -/
def afterLog : AfterLog -> RecvPc
  | .again => .checkStop
  | .deliver seqId payload =>
      if 0 < seqId then .pushSeqId seqId payload else .fireData payload .take

/-- The block that hands a datagram to the agent.  A panic of the agent is no step. -/
def handle (self : RecvThread) (shared : Shared) (udp : Nat) (data : Bytes) (source : Address) :
    Option (Outcome Shared RecvThread Note) :=
  match shared.client.iceAgent with
  | none => some (self.goto .checkStop shared)
  | some owned =>
      match owned.agent.handleIncomingData data source with
      | .error _ => none
      | .ok (agent, result) =>
          let next :=
            match result.appData with
            | some appData => RecvPc.storeInstant udp appData
            | none => .checkStop
          some (self.goto next
            { shared with
              client := { shared.client with iceAgent := some { owned with agent := agent } }
              sent := shared.sent ++ result.actions.map fun action => ⟨udp, action⟩ })

/-- One step of the loop of the receive thread. -/
def step (shared : Shared) (self : RecvThread) (input : Input) :
    Option (Outcome Shared RecvThread Note) :=
  match self.pc with
  | .checkStop =>
      if shared.stopped self.stop then some (self.goto .finished shared)
      else some (self.goto .cloneUdp shared)
  | .cloneUdp =>
      match shared.client.iceUdp with
      | none => some (self.goto .checkStop shared)
      | some udp => some (self.goto (.receive udp) shared)
  | .receive udp =>
      match input with
      | .datagram data source => some (self.goto (.handle udp data source) shared)
      | _ => some (self.goto .checkStop shared)
  | .handle udp data source => self.handle shared udp data source
  | .storeInstant udp appData =>
      match input with
      | .instant now =>
          some (self.goto (.readHeartbeat udp appData)
            { shared with client := { shared.client with lastRecvInstant := some now } })
      | _ => none
  | .readHeartbeat udp appData =>
      some (self.goto (dispatch shared.client.heartbeatIntervalSecs udp appData) shared)
  | .replyHeartbeat udp => some (self.goto .checkStop (shared.sendHeartbeat (some udp)))
  | .log firing next =>
      some (self.fire shared .log firing (fun later => .log later next) (afterLog next))
  | .pushSeqId seqId payload =>
      some (self.goto (.fireData payload .take)
        { shared with
          client := { shared.client with
            pendingSeqIds := shared.client.pendingSeqIds ++ [seqId] } })
  | .fireData payload firing =>
      some (self.fire shared (.data payload) firing (.fireData payload) .checkStop)
  | .finished => none

end RecvThread

end P2pSdk
