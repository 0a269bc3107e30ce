import P2pSdk.Client.Heartbeats
import P2pSdk.Connector.RecvLoop

namespace P2pSdk

open Foundation

/-!
# Binary data (`send_data` of `client.rs`)

`send_text` frames its text; `send_data` hands its bytes to the socket as they
are.  The receive loop of the peer reports payloads of data frames and nothing
else, so that bytes sent with `send_data` reach the application of the peer
only as far as they are themselves a data frame, and then without its header.
-/

/-- A datagram that an agent takes for STUN is no data frame: its second word
is the magic cookie and not the frame type. -/
theorem payloadOf_stun {data : Bytes} {parsed : ParsedStunMessage}
    (isParsed : parseIceStunMessage data = .ok parsed) (isStun : parsed.isStun = true) :
    payloadOf data = [] := by
  rw [payloadOf]
  cases isFrame : parseFrame data with
  | none => rfl
  | some frame =>
      dsimp only
      refine if_neg ?_
      intro isData
      have second := readU32_of_parseFrame isFrame
      rw [isData] at second
      have notStun := parse_notStun second (show TYPE_DATA ≠ STUN_MAGIC_COOKIE by decide)
      rw [notStun] at isParsed
      cases isParsed
      cases isStun

/-- A datagram that the agent keeps to itself is no data frame. -/
theorem payloadOf_kept {agent next : IceAgent} {data : Bytes} {source : Address}
    {result : HandleDataResult}
    (handled : agent.handleIncomingData data source = .ok (next, result))
    (kept : result.appData = none) : payloadOf data = [] := by
  rw [IceAgent.handleIncomingData] at handled
  rcases Checked.bind_eq_ok.mp handled with ⟨parsed, isParsed, rest⟩
  cases isStun : parsed.isStun with
  | true => exact payloadOf_stun isParsed isStun
  | false =>
      rw [if_pos isStun] at rest
      cases rest
      cases kept

namespace RecvThread

variable {clock : Nat -> Nat} {others : Nat -> Shared -> Shared} {self : RecvThread}

/-- Whatever the agent makes of a datagram, the turn that handles it delivers
its payload. -/
theorem turn_payload (undisturbed : LeaveOnData others) {udp owner k : Nat} {data : Bytes}
    {source : Address} {agent : IceAgent} {shared : Shared}
    {trace : List (Transition Shared Note)}
    (current : shared.client.iceAgent = some ⟨owner, agent⟩)
    (registered : shared.client.onData = true)
    (turn : Turn clock others k shared { self with pc := .handle udp data source } trace) :
    deliveries trace = payloadOf data := by
  have whole := turn
  cases turn with
  | returned home => cases home
  | @step _ _ _ outcome rest _ stepped later =>
      have handled : self.handle shared udp data source = some outcome := stepped
      rw [handle, current] at handled
      dsimp only at handled
      cases classified : agent.handleIncomingData data source with
      | error panic =>
          rw [classified] at handled
          cases handled
      | ok outcome_ =>
          rcases outcome_ with ⟨next, result⟩
          rw [classified] at handled
          cases isAppData : result.appData with
          | some appData =>
              have passes := (Connector.passes_of_appData classified isAppData).2
              rcases @serves_handle clock others self undisturbed udp owner data source agent passes
                k shared current registered with ⟨again, isTurn, served⟩
              rw [whole.unique isTurn, served.deliveries]
          | none =>
              dsimp only at handled
              rw [isAppData] at handled
              cases handled
              cases later with
              | returned _ => exact (payloadOf_kept classified isAppData).symm
              | step away _ _ => cases away

end RecvThread

/-- No agent takes a data frame for STUN. -/
theorem notStun_of_payload {data : Bytes} (someData : payloadOf data ≠ []) :
    parseIceStunMessage data = .ok {} := by
  rw [payloadOf] at someData
  cases isFrame : parseFrame data with
  | none =>
      rw [isFrame] at someData
      exact absurd rfl someData
  | some frame =>
      rw [isFrame] at someData
      by_cases isData : frame.frameType = TYPE_DATA
      · have second := readU32_of_parseFrame isFrame
        rw [isData] at second
        exact parse_notStun second (by decide)
      · exact absurd (if_neg isData) someData

/-- What becomes of binary data.  They leave through the nominated pair as they
are.  At the peer every turn that handles them calls the data callback for the
payload of a data frame, and for nothing else; for a data frame there is such a
turn.  The callback never gets the bytes that were sent. -/
theorem data_delivered_as_frame (data : Bytes) (source : Address) :
    (forall (sender : Shared) datagram, sender.sendData data = some datagram ->
      datagram.action.data = data ∧ exists owned, sender.client.iceAgent = some owned ∧
        owned.agent.nominatedRemote = some datagram.action.target) ∧
    (forall (self : RecvThread) (udp owner k : Nat) (clock : Nat -> Nat)
        (others : Nat -> Shared -> Shared) (receiver : Shared) (agent : IceAgent),
      RecvThread.LeaveOnData others -> receiver.client.iceAgent = some ⟨owner, agent⟩ ->
      receiver.client.onData = true ->
        (forall trace, RecvThread.Turn clock others k receiver
            { self with pc := .handle udp data source } trace ->
          deliveries trace = payloadOf data) ∧
        (payloadOf data ≠ [] -> exists trace, RecvThread.Turn clock others k receiver
            { self with pc := .handle udp data source } trace)) ∧
    payloadOf data ≠ [data] := by
  refine ⟨?_, ?_, Connector.payloadOf_ne_self data⟩
  · intro sender datagram sends
    exact Shared.sendData_some sends
  · intro self udp owner k clock others receiver agent undisturbed current registered
    constructor
    · intro trace turn
      exact RecvThread.turn_payload undisturbed current registered turn
    · intro someData
      have passes := agent.handle_notStun (notStun_of_payload someData) source
      rcases @RecvThread.serves_handle clock others self undisturbed udp owner data source agent
        passes k receiver current registered with ⟨trace, turn, _⟩
      exact ⟨trace, turn⟩

/-- A client with a nominated pair and all callbacks registered. -/
def nominatedClient : Shared := Link.quietLink.endpoint .a

/-- A text frame that is sent as binary data. -/
theorem data_delivered_as_frame_text :
    exists trace, RecvThread.Turn (fun _ => 0) (fun _ shared => shared) 0 nominatedClient
        { RecvThread.start 0 0 with
          pc := .handle 0 (encodeDataFrame "hi") ⟨"10.0.0.2", 6000⟩ } trace ∧
      deliveries trace = [[0x68, 0x69]] := by
  have delivered := (data_delivered_as_frame (encodeDataFrame "hi") ⟨"10.0.0.2", 6000⟩).2.1
    (RecvThread.start 0 0) 0 0 0 (fun _ => 0) (fun _ shared => shared) nominatedClient
    nominatedAgent (fun _ _ registered => registered) rfl rfl
  rcases delivered.2 (by decide +kernel) with ⟨trace, turn⟩
  have payload : payloadOf (encodeDataFrame "hi") = [[0x68, 0x69]] := by decide +kernel
  exact ⟨trace, turn, (delivered.1 trace turn).trans payload⟩

/-- Three bytes are sent and never delivered, whatever the state of the peer. -/
theorem raw_bytes_not_delivered :
    (exists datagram, nominatedClient.sendData [1, 2, 3] = some datagram) ∧
    forall (self : RecvThread) (udp owner k : Nat) (clock : Nat -> Nat)
      (others : Nat -> Shared -> Shared) (receiver : Shared) (agent : IceAgent) (source : Address),
      RecvThread.LeaveOnData others -> receiver.client.iceAgent = some ⟨owner, agent⟩ ->
      receiver.client.onData = true ->
        exists trace, RecvThread.Turn clock others k receiver
            { self with pc := .handle udp [1, 2, 3] source } trace ∧
          deliveries trace = [] := by
  have notStun : parseIceStunMessage [1, 2, 3] = .ok {} := by decide
  have noPayload : payloadOf [1, 2, 3] = [] := by decide
  constructor
  · exact Option.isSome_iff_exists.mp (by decide +kernel)
  · intro self udp owner k clock others receiver agent source undisturbed current registered
    have passes := agent.handle_notStun notStun source
    rcases @RecvThread.serves_handle clock others self undisturbed udp owner [1, 2, 3] source agent
      passes k receiver current registered with ⟨trace, turn, served⟩
    exact ⟨trace, turn, served.deliveries.trans noPayload⟩

end P2pSdk
