import P2pSdk.Connector.Messages
import P2pSdk.Connector.Signalling

namespace P2pSdk
namespace Connector

open Foundation IceDataMessage

/-!
# Handling the messages of a peer (`client_napi.rs`)

The connector thread handles one message at a time.  An offer takes the running
session down first: the tick and receive threads are stopped and joined, and
the agent is stopped and dropped.  Only then are a socket bound, its address
read and the payload parsed, each of which can fail and end the handler.
Nothing is put back.

`serde_json` is a parameter: what it makes of a payload is data of the message.
The joined threads may finish their turns first; what they still do to the agent
is data of the run, and is lost with the agent.
-/

/-! ## The session of the connector path -/

/-- The ICE part of `ThreadHandles`.  The flag is the one that the threads of
the handles read. -/
structure IceThreads where
  tick : Option Nat
  recv : Option Nat
  iceStop : Bool
  deriving DecidableEq, Repr

/-- The threads that have not been told to stop. -/
def IceThreads.running (threads : IceThreads) : List Nat :=
  if threads.iceStop then [] else threads.tick.toList ++ threads.recv.toList

/-- `Inner`, as far as the handlers of messages use it.  A sender of the outgoing
channel comes with the messages that were put into it. -/
structure IceSession where
  iceAgent : Option IceAgent
  stunExternalIp : String
  stunExternalPort : UInt16
  turnRelayIp : String
  turnRelayPort : UInt16
  iceUdp : Option Nat
  threads : IceThreads
  connectorTx : Option (List (String × IceDataMessage))
  deriving DecidableEq, Repr

/-- What the handler of an offer gets from outside. -/
structure OfferInput where
  /-- The last turns of the threads that are joined. -/
  lastTurns : IceAgent -> IceAgent
  /-- The socket of `bind_any`. -/
  socket : Option Nat
  /-- The port of `local_addr`. -/
  localPort : Option UInt16
  localAddrs : List String
  seed : AgentSeed
  tickThread : Nat
  recvThread : Nat

namespace IceSession

/-- `stop_ice_threads`.  A thread that is joined may have finished its turn. -/
def stopIceThreads (session : IceSession) (lastTurns : IceAgent -> IceAgent) : IceSession :=
  { session with
    iceAgent :=
      if session.threads.tick.isSome ∨ session.threads.recv.isSome then
        session.iceAgent.map lastTurns
      else session.iceAgent
    threads := { tick := none, recv := none, iceStop := true } }

/-- `start_ice_threads_inner`. -/
def startIceThreads (session : IceSession) (input : OfferInput) : IceSession :=
  let session := session.stopIceThreads input.lastTurns
  { session with
    threads := { tick := some input.tickThread, recv := some input.recvThread, iceStop := false } }

/-- `send_via_connector`; without a sender nothing is sent. -/
def sendViaConnector (session : IceSession) (targetId : String) (message : IceDataMessage) :
    IceSession :=
  { session with connectorTx := session.connectorTx.map fun sent => sent ++ [(targetId, message)] }

/-- Addresses that make a host candidate. -/
def usableAddr (addr : String) : Bool := addr ≠ "127.0.0.1" ∧ addr ≠ "::1" ∧ addr ≠ "0.0.0.0"

/-- The agent that answers an offer, with the candidates known so far. -/
def offeredAgent (session : IceSession) (input : OfferInput) (localPort : UInt16) : IceAgent :=
  ((input.localAddrs.filter usableAddr).foldl
    (fun agent addr => agent.addHostCandidate addr localPort)
    (IceAgent.new false input.seed)).addExternal
    session.stunExternalIp session.stunExternalPort session.turnRelayIp session.turnRelayPort
    (input.localAddrs.head?.getD "") localPort

variable {Json : Type} (serde : IceSerde Json)

/-- `handle_ice_offer_inner`. -/
def handleIceOffer (input : OfferInput) (fromId : String) (data : Json) (session : IceSession) :
    IceSession :=
  let session := session.stopIceThreads input.lastTurns
  let session := { session with iceAgent := none }
  match input.socket with
  | none => session
  | some udp =>
      match input.localPort with
      | none => session
      | some localPort =>
          let agent := session.offeredAgent input localPort
          match serde.iceData data with
          | .error _ => session
          | .ok desc =>
              -- A start that fails is only logged.
              let agent := (agent.setRemoteSessionDescription desc).startChecks.1
              let session := session.sendViaConnector fromId (answerOf agent)
              let session := { session with iceAgent := some agent, iceUdp := some udp }
              session.startIceThreads input

/-- `handle_ice_answer_inner`. -/
def handleIceAnswer (data : Json) (session : IceSession) : IceSession :=
  match serde.iceData data with
  | .error _ => session
  | .ok desc =>
      { session with
        iceAgent := session.iceAgent.map fun agent =>
          (agent.setRemoteSessionDescription desc).startChecks.1 }

/-- The branch for `iceCandidate`. -/
def handleIceCandidate (data : Json) (session : IceSession) : IceSession :=
  match serde.iceCandidate data with
  | .error _ => session
  | .ok candidate =>
      { session with
        iceAgent := session.iceAgent.map fun agent => agent.addRemoteCandidate candidate }

/-- `handle_connector_msg_inner`. -/
def handleConnectorMsg (input : OfferInput) (fromId : String) (data : Json)
    (session : IceSession) : IceSession :=
  if serde.action data = "iceOffer" then session.handleIceOffer serde input fromId data
  else if serde.action data = "iceAnswer" then session.handleIceAnswer serde data
  else if serde.action data = "iceCandidate" then session.handleIceCandidate serde data
  else session

/-! ## Offers that are rejected -/

/-- The handler ends early: no socket, no address, or no payload. -/
def Rejected (input : OfferInput) (data : Json) : Prop :=
  input.socket = none ∨ input.localPort = none ∨ exists error, serde.iceData data = .error error

/-- There is no session to lose. -/
def Idle (session : IceSession) : Prop :=
  session.iceAgent = none ∧ session.threads.running = []

/-- The agent, its socket and the running threads are the same. -/
def Intact (before after : IceSession) : Prop :=
  after.iceAgent = before.iceAgent ∧ after.iceUdp = before.iceUdp ∧
    after.threads.running = before.threads.running

/-- A rejected offer has only taken the session down. -/
theorem handleIceOffer_rejected {input : OfferInput} {data : Json}
    (rejected : Rejected serde input data) (fromId : String) (session : IceSession) :
    session.handleIceOffer serde input fromId data =
      { session.stopIceThreads input.lastTurns with iceAgent := none } := by
  unfold handleIceOffer
  cases socket : input.socket with
  | none => rfl
  | some udp =>
      cases address : input.localPort with
      | none => rfl
      | some localPort =>
          rcases rejected with noSocket | noAddress | ⟨error, invalid⟩
          · cases noSocket.symm.trans socket
          · cases noAddress.symm.trans address
          · simp only [invalid]

/-- An offer that is not rejected installs an agent and a socket, and starts threads. -/
theorem handleIceOffer_installs {input : OfferInput} {data : Json}
    (accepted : ¬ Rejected serde input data) (fromId : String) (session : IceSession) :
    (session.handleIceOffer serde input fromId data).iceAgent.isSome = true := by
  rcases not_or.mp accepted with ⟨hasSocket, others⟩
  rcases not_or.mp others with ⟨hasAddress, valid⟩
  unfold handleIceOffer
  cases socket : input.socket with
  | none => exact absurd socket hasSocket
  | some udp =>
      cases address : input.localPort with
      | none => exact absurd address hasAddress
      | some localPort =>
          cases parsed : serde.iceData data with
          | error error => exact absurd ⟨error, parsed⟩ valid
          | ok desc => rfl

theorem handleIceOffer_none_iff (input : OfferInput) (fromId : String) (data : Json)
    (session : IceSession) :
    (session.handleIceOffer serde input fromId data).iceAgent = none <->
      Rejected serde input data := by
  constructor
  · intro dropped
    by_contra accepted
    have installed := handleIceOffer_installs serde accepted fromId session
    rw [dropped] at installed
    cases installed
  · intro rejected
    rw [handleIceOffer_rejected serde rejected]

/-- **What a rejected offer costs.**  The handler leaves no agent behind exactly
when it rejects the offer, and then agent, socket and running threads are as
before exactly when there was neither an agent nor a running thread. -/
theorem rejected_offer_intact_iff (input : OfferInput) (fromId : String) (data : Json)
    (session : IceSession) :
    ((session.handleIceOffer serde input fromId data).iceAgent = none <->
      Rejected serde input data) ∧
    ((Rejected serde input data ->
        Intact session (session.handleIceOffer serde input fromId data)) <->
      (Rejected serde input data -> session.Idle)) := by
  refine ⟨handleIceOffer_none_iff serde input fromId data session, ?_⟩
  refine forall_congr' fun rejected => ?_
  rw [handleIceOffer_rejected serde rejected]
  constructor
  · rintro ⟨agent, _, threads⟩
    exact ⟨agent.symm, threads.symm⟩
  · rintro ⟨noAgent, noThreads⟩
    exact ⟨noAgent.symm, rfl, noThreads.symm⟩

end IceSession

/-! ## A session that is lost -/

/-- A handler that gets its socket. -/
def plainInput (socket : Nat) : OfferInput where
  lastTurns := id
  socket := some socket
  localPort := some 5000
  localAddrs := ["10.0.0.1"]
  seed := uniformSeed 0 0
  tickThread := 0
  recvThread := 1

/-- No session yet. -/
def noSession : IceSession where
  iceAgent := none
  stunExternalIp := ""
  stunExternalPort := 0
  turnRelayIp := ""
  turnRelayPort := 0
  iceUdp := none
  threads := { tick := none, recv := none, iceStop := false }
  connectorTx := some []

/-- A description of a peer, as the data of a message. -/
def describedAs (action : String) : Foundation.Json :=
  .object
    [("action", .string action),
      ("candidates", .array [.string "candidate:1 1 UDP 2113929471 10.0.0.2 6000 typ host"]),
      ("icePwd", .string "secret"), ("iceUfrag", .string "peer"), ("isLite", .bool false)]

/-- A message with nothing but its action. -/
def bareAction (action : String) : Foundation.Json := .object [("action", .string action)]

/-- A malformed offer ends the session that a good one began. -/
theorem rejected_offer_drops_session :
    ¬ forall (Json : Type) (serde : IceSerde Json) (input : OfferInput) (fromId : String)
      (data : Json) (session : IceSession),
      (session.handleIceOffer serde input fromId data).iceAgent = none ->
        session.Intact (session.handleIceOffer serde input fromId data) := by
  intro claim
  have intact := claim _ jsonPayloads (plainInput 2) "mallory" (bareAction "iceOffer")
    (noSession.handleIceOffer jsonPayloads (plainInput 1) "peer" (describedAs "iceOffer")) rfl
  cases intact.1

end Connector
end P2pSdk
