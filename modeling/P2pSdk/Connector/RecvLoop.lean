import P2pSdk.Client.Delivery

namespace P2pSdk
namespace Connector

open Foundation

/-!
# The receive loop of the connector path (`client_napi.rs`)

The connector path has its own tick and receive threads, written apart from
those of the client, over its own `Inner`.  This is its receive loop, with one
step for each block that holds the mutex, and its comparison with the loop of
the client.  The two read the same frames but end differently: here the data
callback is called behind the frame check, with the whole datagram.
-/

/-! ## The loop -/

/-- `Inner`, as far as the receive loop uses it. -/
structure Inner where
  iceAgent : Option IceAgent
  iceUdp : Option Nat
  heartbeatInterval : Nat
  pendingSeqIds : List UInt64
  deriving DecidableEq, Repr

structure Shared where
  inner : Inner
  iceStop : Bool
  sent : List SentDatagram
  deriving DecidableEq, Repr

/-- Send a heartbeat to the nominated pair. -/
def Shared.sendHeartbeat (shared : Shared) (udp : Nat) : Shared :=
  match shared.inner.iceAgent.bind fun agent => agent.sendData encodeHeartbeatReply with
  | some action => { shared with sent := shared.sent ++ [⟨udp, action⟩] }
  | none => shared

inductive RecvPc where
  | checkStop
  | cloneUdp
  | receive (udp : Nat)
  | handle (udp : Nat) (data : Bytes) (source : Address)
  | readHeartbeat (udp : Nat) (appData : Bytes)
  | replyHeartbeat (udp : Nat)
  | pushSeqId (seqId : UInt64) (appData : Bytes)
  | fireData (appData : Bytes)
  | finished
  deriving DecidableEq, Repr

structure RecvThread where
  pc : RecvPc
  deriving DecidableEq, Repr

namespace RecvThread

def goto (pc : RecvPc) (shared : Shared) : Outcome Shared RecvThread Note where
  shared := shared
  thread := { pc := pc }
  spawned := none
  note := .quiet

/-- Where application data go, once the heartbeat interval is known. -/
def dispatch (hbInterval udp : Nat) (appData : Bytes) : RecvPc :=
  if 0 < hbInterval ∧ isHeartbeatFrame appData = true then .replyHeartbeat udp
  else
    match parseFrame appData with
    | some parsed =>
        if parsed.frameType = TYPE_DATA ∧ 0 < parsed.seqId then .pushSeqId parsed.seqId appData
        else .fireData appData
    | none => .fireData appData

/-- The block that hands a datagram to the agent.  A panic of the agent is no step. -/
def handle (shared : Shared) (udp : Nat) (data : Bytes) (source : Address) :
    Option (Outcome Shared RecvThread Note) :=
  match shared.inner.iceAgent with
  | none => some (goto .checkStop shared)
  | some agent =>
      match agent.handleIncomingData data source with
      | .error _ => none
      | .ok (agent, result) =>
          let next :=
            match result.appData with
            | some appData => RecvPc.readHeartbeat udp appData
            | none => .checkStop
          some (goto next
            { shared with
              inner := { shared.inner with iceAgent := some agent }
              sent := shared.sent ++ result.actions.map fun action => ⟨udp, action⟩ })

/-- One step of the loop of the receive thread. -/
def step (shared : Shared) (self : RecvThread) (input : Input) :
    Option (Outcome Shared RecvThread Note) :=
  match self.pc with
  | .checkStop => some (goto (if shared.iceStop then .finished else .cloneUdp) shared)
  | .cloneUdp =>
      match shared.inner.iceUdp with
      | none => some (goto .checkStop shared)
      | some udp => some (goto (.receive udp) shared)
  | .receive udp =>
      match input with
      | .datagram data source => some (goto (.handle udp data source) shared)
      | _ => some (goto .checkStop shared)
  | .handle udp data source => handle shared udp data source
  | .readHeartbeat udp appData =>
      some (goto (dispatch shared.inner.heartbeatInterval udp appData) shared)
  | .replyHeartbeat udp => some (goto .checkStop (shared.sendHeartbeat udp))
  | .pushSeqId seqId appData =>
      some (goto (.fireData appData)
        { shared with
          inner := { shared.inner with pendingSeqIds := shared.inner.pendingSeqIds ++ [seqId] } })
  -- `fire_data` runs the registered callbacks in this thread, with all of the datagram.
  | .fireData appData =>
      some { goto .checkStop shared with note := .called (.data appData) }
  | .finished => none

def atHead (self : RecvThread) : Bool := self.pc = .checkStop

/-- Turns of the loop. -/
abbrev Turn (others : Nat -> Shared -> Shared) :
    Nat -> Shared -> RecvThread -> List (Transition Shared Note) -> Prop :=
  Foundation.Turn step atHead (fun _ => .proceed) others

/-- The other threads leave the heartbeat setting as it is. -/
def LeaveHeartbeat (others : Nat -> Shared -> Shared) : Prop :=
  forall k shared, (others k shared).inner.heartbeatInterval = shared.inner.heartbeatInterval

/-! ## What it delivers -/

variable {others : Nat -> Shared -> Shared}

theorem turn_fireData (k : Nat) (shared : Shared) (appData : Bytes) :
    exists trace, Turn others k shared ⟨.fireData appData⟩ trace ∧ deliveries trace = [appData] :=
  ⟨_, .step rfl rfl (.returned rfl), rfl⟩

/-- Everything but a heartbeat that is answered reaches the callback whole. -/
theorem turn_dispatch (k hbInterval udp : Nat) (shared : Shared) (appData : Bytes) :
    exists trace, Turn others k shared ⟨dispatch hbInterval udp appData⟩ trace ∧
      deliveries trace =
        if 0 < hbInterval ∧ isHeartbeatFrame appData = true then [] else [appData] := by
  unfold dispatch
  by_cases answered : 0 < hbInterval ∧ isHeartbeatFrame appData = true
  · rw [if_pos answered, if_pos answered]
    exact ⟨_, .step rfl rfl (.returned rfl), rfl⟩
  · rw [if_neg answered, if_neg answered]
    cases parseFrame appData with
    | none => exact turn_fireData k shared appData
    | some parsed =>
        dsimp only
        by_cases correlated : parsed.frameType = TYPE_DATA ∧ 0 < parsed.seqId
        · rw [if_pos correlated]
          exact ⟨_, .step rfl rfl (.step rfl rfl (.returned rfl)), rfl⟩
        · rw [if_neg correlated]
          exact turn_fireData k shared appData

theorem turn_handle (undisturbed : LeaveHeartbeat others) {udp : Nat} {data : Bytes}
    {source : Address} {agent : IceAgent}
    (passes : agent.handleIncomingData data source =
      .ok (agent, { appData := some data, actions := [] })) (k : Nat) {shared : Shared}
    (current : shared.inner.iceAgent = some agent) :
    exists trace, Turn others k shared ⟨.handle udp data source⟩ trace ∧
      deliveries trace =
        if 0 < shared.inner.heartbeatInterval ∧ isHeartbeatFrame data = true then []
        else [data] := by
  have handled : step shared ⟨.handle udp data source⟩ .proceed =
      some (goto (.readHeartbeat udp data) shared) := by
    obtain ⟨inner, iceStop, sent⟩ := shared
    obtain ⟨iceAgent, _⟩ := inner
    simp only at current
    subst current
    simp [step, handle, passes, goto]
  have read : step (others k shared) ⟨.readHeartbeat udp data⟩ .proceed =
      some (goto (dispatch shared.inner.heartbeatInterval udp data) (others k shared)) := by
    simp [step, undisturbed k shared]
  obtain ⟨rest, turn, delivered⟩ := @turn_dispatch others (k + 2)
    shared.inner.heartbeatInterval udp (others (k + 1) (others k shared)) data
  exact ⟨_, .step rfl handled (.step rfl read turn), delivered⟩

end RecvThread

/-! ## The two loops -/

/-- What an agent classifies as application data is the datagram itself, and
leaves the agent as it was. -/
theorem passes_of_appData {agent next : IceAgent} {data appData : Bytes} {source : Address}
    {result : HandleDataResult}
    (classified : agent.handleIncomingData data source = .ok (next, result))
    (isAppData : result.appData = some appData) :
    appData = data ∧ agent.handleIncomingData data source =
      .ok (agent, { appData := some data, actions := [] }) := by
  rw [IceAgent.handleIncomingData] at classified ⊢
  rcases Checked.bind_eq_ok.mp classified with ⟨parsed, isParsed, handled⟩
  rw [isParsed, Checked.ok_bind]
  by_cases notStun : parsed.isStun = false
  · rw [if_pos notStun] at handled ⊢
    cases handled
    cases isAppData
    exact ⟨rfl, rfl⟩
  · rw [if_neg notStun] at handled
    -- A STUN message never returns application data.
    by_cases isRequest : parsed.isRequest = true
    · rw [if_pos isRequest, Checked.pure_eq_ok, IceAgent.handleIncomingStun] at handled
      split_ifs at handled
      · cases handled
        cases isAppData
      · dsimp only at handled
        split at handled
        · cases handled
          cases isAppData
        · cases handled
          cases isAppData
    · rw [if_neg isRequest] at handled
      cases handled
      cases isAppData

/-- Handed this datagram under this heartbeat setting, both loops return to
their heads with the same deliveries, and these are what the contract of the
data callback promises. -/
def BothObey (agent : IceAgent) (data : Bytes) (source : Address) (hbSecs : Nat) : Prop :=
  forall (clock : Nat -> Nat) (clientOthers : Nat -> P2pSdk.Shared -> P2pSdk.Shared)
    (connectorOthers : Nat -> Shared -> Shared) (self : P2pSdk.RecvThread) (owner udp : Nat)
    (client : P2pSdk.Shared) (connector : Shared),
    P2pSdk.RecvThread.LeaveOnData clientOthers -> RecvThread.LeaveHeartbeat connectorOthers ->
    client.client.iceAgent = some ⟨owner, agent⟩ -> connector.inner.iceAgent = some agent ->
    client.client.onData = true -> client.client.heartbeatIntervalSecs = hbSecs ->
    connector.inner.heartbeatInterval = hbSecs ->
      exists clientTrace connectorTrace,
        P2pSdk.RecvThread.Turn clock clientOthers 0 client
          { self with pc := .handle udp data source } clientTrace ∧
        RecvThread.Turn connectorOthers 0 connector ⟨.handle udp data source⟩ connectorTrace ∧
        deliveries connectorTrace = deliveries clientTrace ∧
        deliveries clientTrace = payloadOf data

/-- The payload of a frame is shorter than the frame. -/
theorem payloadOf_ne_self (data : Bytes) : payloadOf data ≠ [data] := by
  intro same
  unfold payloadOf at same
  cases parsed : parseFrame data with
  | none =>
      rw [parsed] at same
      cases same
  | some frame =>
      rw [parsed] at same
      dsimp only at same
      split_ifs at same
      have isPayload := (List.cons.inj same).1
      have length := congrArg List.length isPayload
      unfold parseFrame at parsed
      dsimp only at parsed
      split_ifs at parsed with short cut
      rw [← Option.some.inj parsed] at length
      simp only [List.length_take, List.length_drop] at length
      omega

theorem payloadOf_heartbeat {data : Bytes} (isHeartbeat : isHeartbeatFrame data = true) :
    payloadOf data = [] := by
  obtain ⟨parsed, isParsed, isType⟩ := (Option.any_eq_true _ _).mp isHeartbeat
  have notData : parsed.frameType ≠ TYPE_DATA := by
    rw [of_decide_eq_true isType]
    decide
  rw [payloadOf, isParsed]
  exact if_neg notData

/-- Two loops that obey the contract have answered a heartbeat: everything
else reaches the callback of the connector path whole. -/
theorem BothObey.answered {agent : IceAgent} {data : Bytes} {source : Address} {hbSecs : Nat}
    (obey : BothObey agent data source hbSecs)
    (passes : agent.handleIncomingData data source =
      .ok (agent, { appData := some data, actions := [] })) :
    0 < hbSecs ∧ isHeartbeatFrame data = true := by
  let client : P2pSdk.Shared :=
    { client :=
        { io := true, iceAgent := some ⟨0, agent⟩, iceUdp := some 0, tickHandle := none
          recvHandle := none, iceStop := 0, onStateChange := true, onData := true, onLog := true
          heartbeatIntervalSecs := hbSecs, lastRecvInstant := none, pendingSeqIds := [] }
      flags := [false], drawn := 0, sent := [] }
  let connector : Shared :=
    { inner := ⟨some agent, some 0, hbSecs, []⟩, iceStop := false, sent := [] }
  have undisturbed : RecvThread.LeaveHeartbeat fun _ shared => shared := fun _ _ => rfl
  obtain ⟨clientTrace, connectorTrace, _, connectorTurn, same, contract⟩ := obey (fun _ => 0)
    (fun _ shared => shared) (fun _ shared => shared) (.start 0 0) 0 0 client connector
    (fun _ _ registered => registered) undisturbed rfl rfl rfl rfl rfl
  obtain ⟨trace, turn, delivered⟩ := @RecvThread.turn_handle _ undisturbed 0 _ _ _ passes 0
    connector rfl
  rw [connectorTurn.unique turn, delivered, contract] at same
  by_contra unanswered
  rw [if_neg unanswered] at same
  exact payloadOf_ne_self data same.symm

/-- The client keeps the contract on every datagram.  The connector path keeps
it exactly on heartbeat frames while its heartbeats are on. -/
theorem bothObey_iff {agent next : IceAgent} {data appData : Bytes} {source : Address}
    {result : HandleDataResult}
    (classified : agent.handleIncomingData data source = .ok (next, result))
    (isAppData : result.appData = some appData) (hbSecs : Nat) :
    BothObey agent data source hbSecs <-> 0 < hbSecs ∧ isHeartbeatFrame data = true := by
  have passes := (passes_of_appData classified isAppData).2
  constructor
  · intro obey
    exact obey.answered passes
  · intro answered clock clientOthers connectorOthers self owner udp client connector clientLeave
      connectorLeave clientAgent connectorAgent registered _ connectorHb
    obtain ⟨clientTrace, clientTurn, served⟩ := @P2pSdk.RecvThread.serves_handle clock clientOthers
      self clientLeave udp owner _ source _ passes 0 client clientAgent registered
    obtain ⟨connectorTrace, connectorTurn, delivered⟩ := @RecvThread.turn_handle connectorOthers
      connectorLeave udp _ source _ passes 0 connector connectorAgent
    refine ⟨clientTrace, connectorTrace, clientTurn, connectorTurn, ?_, served.deliveries⟩
    rw [delivered, served.deliveries, payloadOf_heartbeat answered.2, connectorHb, if_pos answered]

/-- The heartbeat of the peer, with heartbeats on. -/
theorem bothObey_heartbeat :
    BothObey (IceAgent.new true (uniformSeed 0 0)) encodeHeartbeatReply ⟨"10.0.0.2", 6000⟩ 10 := by
  have classified : (IceAgent.new true (uniformSeed 0 0)).handleIncomingData encodeHeartbeatReply
      ⟨"10.0.0.2", 6000⟩ = .ok (IceAgent.new true (uniformSeed 0 0),
        { appData := some encodeHeartbeatReply, actions := [] }) := by
    decide +kernel
  exact (bothObey_iff classified rfl 10).mpr ⟨by decide, by decide +kernel⟩

/-- A data frame reaches the callback of the connector path with its header. -/
theorem header_delivered :
    ¬ forall (agent next : IceAgent) (data appData : Bytes) (source : Address)
      (result : HandleDataResult), agent.handleIncomingData data source = .ok (next, result) ->
      result.appData = some appData -> forall hbSecs, BothObey agent data source hbSecs := by
  intro claim
  have passes := IceAgent.handle_notStun (dataFrame_notStun "hi" 7)
    (IceAgent.new true (uniformSeed 0 0)) ⟨"10.0.0.2", 6000⟩
  have obey := claim _ _ _ _ _ _ passes rfl 0
  exact absurd (obey.answered passes).1 (by decide)

end Connector
end P2pSdk
