import P2pSdk.Connector.RecvLoop

namespace P2pSdk

open Foundation

/-!
# What a call of `send_text` reports (`client.rs`, `client_napi.rs`)

Both paths take a sequence id from the queue before they know whether they can
send, and neither puts it back.  The path of the client reports every failure.
The path of the connector reports a missing agent and a missing socket; without
a nominated pair, or when the socket refuses the datagram, it returns 0.

A call is described on its own, with nothing else running between its blocks.
The answer of the socket to a datagram is given from outside.
-/

/-- The answer of a socket to a datagram: accepted, or an error. -/
abbrev SocketAnswer := SentDatagram -> Except String Unit

/-- `udp.send_to`: its result, and the datagrams that were accepted. -/
def sendTo (socket : SocketAnswer) (datagram : SentDatagram) :
    Except String Unit × List SentDatagram :=
  match socket datagram with
  | .ok _ => (.ok (), [datagram])
  | .error error => (.error error, [])

/-! ## The path of the client -/

namespace Client

/-- `P2pClient::send_data`. -/
def sendData (client : Client) (socket : SocketAnswer) (data : Bytes) :
    Except String Unit × List SentDatagram :=
  match client.iceAgent with
  | none => (.error "no ICE agent", [])
  | some owned =>
      match client.iceUdp with
      | none => (.error "no UDP socket", [])
      | some udp =>
          match owned.agent.sendData data with
          | none => (.error "no nominated pair", [])
          | some action => sendTo socket ⟨udp, action⟩

/-- `P2pClient::send_text`: the client after it, its result, and the datagrams
that were accepted. -/
def sendText (client : Client) (socket : SocketAnswer) (text : String) :
    Client × Except String Unit × List SentDatagram :=
  let popped := client.popSeqId
  let sent := popped.2.sendData socket (textFrame text popped.1)
  (popped.2, sent.1, sent.2)

def isIceCompleted (client : Client) : Bool :=
  client.iceAgent.any fun owned => owned.agent.state = .completed

end Client

/-- On a socket that accepts everything, the datagram is the one that the call
of the threaded client hands over. -/
theorem Shared.sendData_toList (shared : Shared) (data : Bytes) :
    (shared.client.sendData (fun _ => .ok ()) data).2 = (shared.sendData data).toList := by
  unfold Client.sendData Shared.sendData
  cases shared.client.iceAgent with
  | none => rfl
  | some owned =>
      cases shared.client.iceUdp with
      | none =>
          dsimp only [Option.bind_some]
          cases owned.agent.sendData data <;> rfl
      | some udp =>
          dsimp only [Option.bind_some]
          cases owned.agent.sendData data <;> rfl

/-! ## The path of the connector -/

namespace Connector

/-- `pending_seq_ids.pop_front().unwrap_or(0)`. -/
def Inner.popSeqId (inner : Inner) : UInt64 × Inner :=
  match inner.pendingSeqIds with
  | [] => (0, inner)
  | seqId :: rest => (seqId, { inner with pendingSeqIds := rest })

/-- The part of `send_text` after the client: `Inner` after it, the value it
returns, and the datagrams that were accepted. -/
def Inner.sendText (inner : Inner) (socket : SocketAnswer) (text : String) :
    Inner × Int × List SentDatagram :=
  let popped := inner.popSeqId
  let inner := popped.2
  let frame := textFrame text popped.1
  match inner.iceAgent with
  | none => (inner, -2, [])
  | some agent =>
      match inner.iceUdp with
      | none => (inner, -3, [])
      | some udp =>
          match agent.sendData frame with
          | none => (inner, 0, [])
          -- The result of `send_to` is dropped.
          | some action => (inner, 0, (sendTo socket ⟨udp, action⟩).2)

/-- The global state, with the client it holds. -/
structure Napi where
  p2pClient : Client
  inner : Inner

/-- `client_napi::send_text`. -/
def Napi.sendText (napi : Napi) (socket : SocketAnswer) (text : String) :
    Napi × Int × List SentDatagram :=
  if napi.p2pClient.isIceCompleted then
    let sent := napi.p2pClient.sendText socket text
    ({ napi with p2pClient := sent.1 },
      match sent.2.1 with
      | .ok _ => 0
      | .error _ => -1,
      sent.2.2)
  else
    let sent := napi.inner.sendText socket text
    ({ napi with inner := sent.1 }, sent.2)

end Connector

/-! ## All or nothing -/

/-- A call of `send_text`, over the queue, the agent and the socket it works on. -/
structure TextOutcome where
  queueBefore : List UInt64
  queueAfter : List UInt64
  iceUdp : Option Nat
  nominatedRemote : Option Address
  success : Bool
  accepted : List SentDatagram

/-- The call succeeds, the socket has accepted one datagram, to the nominated
remote address, and the id on it has left the queue; or the call fails, and
nothing has changed. -/
def TextOutcome.AllOrNothing (text : String) (outcome : TextOutcome) : Prop :=
  (outcome.success = true ∧ exists datagram, outcome.accepted = [datagram] ∧
      some datagram.udp = outcome.iceUdp ∧
      some datagram.action.target = outcome.nominatedRemote ∧
      datagram.action.data = textFrame text (outcome.queueBefore.headD 0) ∧
      outcome.queueAfter = outcome.queueBefore.tail) ∨
    (outcome.success = false ∧ outcome.accepted = [] ∧ outcome.queueAfter = outcome.queueBefore)

/-- The call on the path of the client. -/
def Client.textOutcome (client : Client) (socket : SocketAnswer) (text : String) : TextOutcome where
  queueBefore := client.pendingSeqIds
  queueAfter := (client.sendText socket text).1.pendingSeqIds
  iceUdp := client.iceUdp
  nominatedRemote := client.iceAgent.bind fun owned => owned.agent.nominatedRemote
  success := (client.sendText socket text).2.1.isOk
  accepted := (client.sendText socket text).2.2

/-- The call on the path of the connector. -/
def Connector.Inner.textOutcome (inner : Inner) (socket : SocketAnswer) (text : String) :
    TextOutcome where
  queueBefore := inner.pendingSeqIds
  queueAfter := (inner.sendText socket text).1.pendingSeqIds
  iceUdp := inner.iceUdp
  nominatedRemote := inner.iceAgent.bind fun agent => agent.nominatedRemote
  success := (inner.sendText socket text).2.1 = 0
  accepted := (inner.sendText socket text).2.2

/-- The call of `client_napi::send_text`, over the state of the path it takes. -/
def Connector.Napi.textOutcome (napi : Napi) (socket : SocketAnswer) (text : String) :
    TextOutcome :=
  let after := napi.sendText socket text
  { queueBefore :=
      if napi.p2pClient.isIceCompleted then napi.p2pClient.pendingSeqIds
      else napi.inner.pendingSeqIds
    queueAfter :=
      if napi.p2pClient.isIceCompleted then after.1.p2pClient.pendingSeqIds
      else after.1.inner.pendingSeqIds
    iceUdp := if napi.p2pClient.isIceCompleted then napi.p2pClient.iceUdp else napi.inner.iceUdp
    nominatedRemote :=
      if napi.p2pClient.isIceCompleted then
        napi.p2pClient.iceAgent.bind fun owned => owned.agent.nominatedRemote
      else napi.inner.iceAgent.bind fun agent => agent.nominatedRemote
    success := after.2.1 = 0
    accepted := after.2.2 }

/-! ## When a call is all or nothing -/

/-- There are an agent, a socket and a nominated pair, and the socket takes the frame. -/
def Accepts (iceAgent : Option IceAgent) (iceUdp : Option Nat) (socket : SocketAnswer)
    (frame : Bytes) : Prop :=
  exists agent udp action, iceAgent = some agent ∧ iceUdp = some udp ∧
    agent.sendData frame = some action ∧ socket ⟨udp, action⟩ = .ok ()

/-- What an agent sends is the data, to its nominated pair. -/
theorem IceAgent.sendData_target {agent : IceAgent} {data : Bytes} {action : IceAction}
    (sends : agent.sendData data = some action) :
    action.data = data ∧ agent.nominatedRemote = some action.target := by
  rcases Option.map_eq_some_iff.mp sends with ⟨pair, isPair, rfl⟩
  refine ⟨rfl, ?_⟩
  rw [IceAgent.nominatedRemote, isPair]
  rfl

/-- `send_to` has a socket accept the datagram or reports its error. -/
theorem sendTo_cases (socket : SocketAnswer) (datagram : SentDatagram) :
    (socket datagram = .ok () ∧ sendTo socket datagram = (.ok (), [datagram])) ∨
      exists error, socket datagram = .error error ∧
        sendTo socket datagram = (.error error, []) := by
  unfold sendTo
  cases socket datagram with
  | ok _ => exact Or.inl ⟨rfl, rfl⟩
  | error error => exact Or.inr ⟨error, rfl, rfl⟩

/-- A queue that has lost its first id is not as it was, unless it was empty. -/
theorem tail_eq_self_iff {queue : List UInt64} : queue.tail = queue <-> queue = [] := by
  cases queue with
  | nil => exact iff_of_true rfl rfl
  | cons first rest => exact iff_of_false (List.cons_ne_self first rest).symm (List.cons_ne_nil _ _)

namespace TextOutcome

variable {text : String} {outcome : TextOutcome}

/-- A call that succeeds has to have sent. -/
theorem allOrNothing_success (popped : outcome.queueAfter = outcome.queueBefore.tail)
    (succeeds : outcome.success = true) :
    outcome.AllOrNothing text <-> exists datagram, outcome.accepted = [datagram] ∧
      some datagram.udp = outcome.iceUdp ∧
      some datagram.action.target = outcome.nominatedRemote ∧
      datagram.action.data = textFrame text (outcome.queueBefore.headD 0) := by
  constructor
  · rintro (⟨_, datagram, isOne, udp, target, data, _⟩ | ⟨fails, _⟩)
    · exact ⟨datagram, isOne, udp, target, data⟩
    · cases succeeds.symm.trans fails
  · rintro ⟨datagram, isOne, udp, target, data⟩
    exact Or.inl ⟨succeeds, datagram, isOne, udp, target, data, popped⟩

/-- A call that fails has to have had no id to take. -/
theorem allOrNothing_failure (popped : outcome.queueAfter = outcome.queueBefore.tail)
    (fails : outcome.success = false) (nothing : outcome.accepted = []) :
    outcome.AllOrNothing text <-> outcome.queueBefore = [] := by
  rw [← tail_eq_self_iff, ← popped]
  constructor
  · rintro (⟨succeeds, _⟩ | ⟨_, _, same⟩)
    · cases succeeds.symm.trans fails
    · exact same
  · intro same
    exact Or.inr ⟨fails, nothing, same⟩

end TextOutcome

/-! ## The path of the client -/

namespace Client

theorem popSeqId_eq (client : Client) :
    client.popSeqId =
      (client.pendingSeqIds.headD 0, { client with pendingSeqIds := client.pendingSeqIds.tail }) := by
  unfold popSeqId
  cases pending : client.pendingSeqIds with
  | nil =>
      cases client
      cases pending
      rfl
  | cons first rest => rfl

/-- The agent of the client without its owner. -/
def agent? (client : Client) : Option IceAgent := client.iceAgent.map OwnedAgent.agent

/-- `send_data` sends exactly when it reports success. -/
theorem sendData_cases (client : Client) (socket : SocketAnswer) (data : Bytes) :
    (Accepts client.agent? client.iceUdp socket data ∧ exists datagram,
        client.sendData socket data = (.ok (), [datagram]) ∧
        some datagram.udp = client.iceUdp ∧
        some datagram.action.target =
          client.iceAgent.bind (fun owned => owned.agent.nominatedRemote) ∧
        datagram.action.data = data) ∨
    (¬ Accepts client.agent? client.iceUdp socket data ∧ exists error,
      client.sendData socket data = (.error error, [])) := by
  unfold sendData agent?
  cases held : client.iceAgent with
  | none =>
      refine Or.inr ⟨?_, "no ICE agent", rfl⟩
      rintro ⟨_, _, _, contrary, _⟩
      cases contrary
  | some owned =>
      cases bound : client.iceUdp with
      | none =>
          refine Or.inr ⟨?_, "no UDP socket", rfl⟩
          rintro ⟨_, _, _, _, contrary, _⟩
          cases contrary
      | some udp =>
          dsimp only
          cases sends : owned.agent.sendData data with
          | none =>
              refine Or.inr ⟨?_, "no nominated pair", rfl⟩
              rintro ⟨_, _, _, same, _, contrary, _⟩
              cases same
              cases sends.symm.trans contrary
          | some action =>
              rcases IceAgent.sendData_target sends with ⟨isData, target⟩
              rcases sendTo_cases socket ⟨udp, action⟩ with ⟨accepted, result⟩ |
                ⟨error, refused, result⟩
              · refine Or.inl ⟨⟨owned.agent, udp, action, rfl, rfl, sends, accepted⟩,
                  ⟨udp, action⟩, result, rfl, target.symm, isData⟩
              · refine Or.inr ⟨?_, error, result⟩
                rintro ⟨_, _, _, same, sameUdp, isAction, accepted⟩
                cases same
                cases sameUdp
                cases sends.symm.trans isAction
                cases refused.symm.trans accepted

/-- A call on the path of the client is all or nothing exactly when the frame is
accepted or there was no id to take. -/
theorem textOutcome_iff (client : Client) (socket : SocketAnswer) (text : String) :
    (client.textOutcome socket text).AllOrNothing text <->
      Accepts client.agent? client.iceUdp socket
          (textFrame text (client.pendingSeqIds.headD 0)) ∨
        client.pendingSeqIds = [] := by
  have popped : (client.textOutcome socket text).queueAfter =
      (client.textOutcome socket text).queueBefore.tail := by
    simp only [textOutcome, sendText, popSeqId_eq]
  have sends : client.sendText socket text =
      ({ client with pendingSeqIds := client.pendingSeqIds.tail },
        client.sendData socket (textFrame text (client.pendingSeqIds.headD 0))) := by
    simp only [sendText, popSeqId_eq]
    rfl
  rcases client.sendData_cases socket (textFrame text (client.pendingSeqIds.headD 0)) with
    ⟨accepts, datagram, result, udp, target, data⟩ | ⟨refused, error, result⟩
  · refine iff_of_true ?_ (Or.inl accepts)
    rw [TextOutcome.allOrNothing_success popped]
    · refine ⟨datagram, ?_, udp, target, data⟩
      simp only [textOutcome, sends, result]
    · simp only [textOutcome, sends, result]
      rfl
  · rw [or_iff_right refused]
    refine TextOutcome.allOrNothing_failure popped ?_ ?_
    · simp only [textOutcome, sends, result]
      rfl
    · simp only [textOutcome, sends, result]

end Client

/-! ## The path of the connector -/

namespace Connector

theorem Inner.popSeqId_eq (inner : Inner) :
    inner.popSeqId =
      (inner.pendingSeqIds.headD 0, { inner with pendingSeqIds := inner.pendingSeqIds.tail }) := by
  unfold Inner.popSeqId
  cases pending : inner.pendingSeqIds with
  | nil =>
      cases inner
      cases pending
      rfl
  | cons first rest => rfl

/-- The path of the connector reports a missing agent and a missing socket, and
succeeds otherwise, whether or not anything was sent. -/
theorem Inner.sendText_cases (inner : Inner) (socket : SocketAnswer) (text : String) :
    (inner.sendText socket text).1.pendingSeqIds = inner.pendingSeqIds.tail ∧
    ((Accepts inner.iceAgent inner.iceUdp socket
          (textFrame text (inner.pendingSeqIds.headD 0)) ∧ exists datagram,
        (inner.sendText socket text).2 = (0, [datagram]) ∧ some datagram.udp = inner.iceUdp ∧
        some datagram.action.target =
          inner.iceAgent.bind (fun agent => agent.nominatedRemote) ∧
        datagram.action.data = textFrame text (inner.pendingSeqIds.headD 0)) ∨
      (¬ Accepts inner.iceAgent inner.iceUdp socket
          (textFrame text (inner.pendingSeqIds.headD 0)) ∧
        (inner.sendText socket text).2.2 = [] ∧
        ((inner.sendText socket text).2.1 ≠ 0 <->
          inner.iceAgent = none ∨ inner.iceUdp = none))) := by
  unfold Inner.sendText
  rw [Inner.popSeqId_eq]
  dsimp only
  cases held : inner.iceAgent with
  | none =>
      dsimp only
      refine ⟨rfl, Or.inr ⟨?_, rfl, iff_of_true ?_ (Or.inl rfl)⟩⟩
      · rintro ⟨_, _, _, contrary, _⟩
        cases contrary
      · decide
  | some agent =>
      cases bound : inner.iceUdp with
      | none =>
          dsimp only
          refine ⟨rfl, Or.inr ⟨?_, rfl, iff_of_true ?_ (Or.inr rfl)⟩⟩
          · rintro ⟨_, _, _, _, contrary, _⟩
            cases contrary
          · decide
      | some udp =>
          have present : ¬ ((some agent : Option IceAgent) = none ∨
              (some udp : Option Nat) = none) := by
            rintro (contrary | contrary) <;> cases contrary
          dsimp only
          cases sends : agent.sendData (textFrame text (inner.pendingSeqIds.headD 0)) with
          | none =>
              dsimp only
              refine ⟨rfl, Or.inr ⟨?_, rfl, iff_of_false (fun contrary => contrary rfl) present⟩⟩
              rintro ⟨_, _, _, same, _, contrary, _⟩
              cases same
              cases sends.symm.trans contrary
          | some action =>
              rcases IceAgent.sendData_target sends with ⟨isData, target⟩
              dsimp only
              rcases sendTo_cases socket ⟨udp, action⟩ with ⟨accepted, result⟩ |
                ⟨error, refused, result⟩
              · rw [result]
                exact ⟨rfl, Or.inl ⟨⟨agent, udp, action, rfl, rfl, sends, accepted⟩,
                  ⟨udp, action⟩, rfl, rfl, target.symm, isData⟩⟩
              · rw [result]
                refine ⟨rfl, Or.inr ⟨?_, rfl, iff_of_false (fun contrary => contrary rfl) present⟩⟩
                rintro ⟨_, _, _, same, sameUdp, isAction, accepted⟩
                cases same
                cases sameUdp
                cases sends.symm.trans isAction
                cases refused.symm.trans accepted

/-- A call on the path of the connector is all or nothing exactly when the frame
is accepted, or there was no id to take and the agent or the socket is missing. -/
theorem Inner.textOutcome_iff (inner : Inner) (socket : SocketAnswer) (text : String) :
    (inner.textOutcome socket text).AllOrNothing text <->
      Accepts inner.iceAgent inner.iceUdp socket
          (textFrame text (inner.pendingSeqIds.headD 0)) ∨
        (inner.pendingSeqIds = [] ∧ (inner.iceAgent = none ∨ inner.iceUdp = none)) := by
  rcases inner.sendText_cases socket text with
    ⟨popped, ⟨accepts, datagram, result, udp, target, data⟩ | ⟨refused, nothing, reported⟩⟩
  · refine iff_of_true ?_ (Or.inl accepts)
    refine (TextOutcome.allOrNothing_success popped ?_).mpr ⟨datagram, ?_, udp, target, data⟩
    · exact decide_eq_true (congrArg Prod.fst result)
    · exact congrArg Prod.snd result
  · rw [or_iff_right refused]
    by_cases missing : inner.iceAgent = none ∨ inner.iceUdp = none
    · rw [and_iff_left missing]
      exact TextOutcome.allOrNothing_failure popped (decide_eq_false (reported.mpr missing)) nothing
    · rw [iff_false_right fun idle => missing idle.2]
      have zero : (inner.sendText socket text).2.1 = 0 := by
        by_contra code
        exact missing (reported.mp code)
      rw [TextOutcome.allOrNothing_success popped (decide_eq_true zero)]
      rintro ⟨datagram, isOne, _⟩
      cases nothing.symm.trans isOne

/-- A call of `client_napi` is the call of the path it takes. -/
theorem Napi.textOutcome_eq (napi : Napi) (socket : SocketAnswer) (text : String) :
    napi.textOutcome socket text =
      if napi.p2pClient.isIceCompleted then napi.p2pClient.textOutcome socket text
      else napi.inner.textOutcome socket text := by
  unfold Napi.textOutcome Napi.sendText
  cases completed : napi.p2pClient.isIceCompleted with
  | false =>
      simp only [Bool.false_eq_true, if_false]
      rfl
  | true =>
      simp only [if_true, Client.textOutcome]
      cases (napi.p2pClient.sendText socket text).2.1 <;> rfl

end Connector

/-! ## Both paths -/

/-- **When `send_text` is all or nothing.**  On the path of the client: the frame is
accepted, or there was no id to take.  On the path of the connector, which does
not report every failure: the frame is accepted, or there was no id to take and
the agent or the socket is missing. -/
theorem sendText_allOrNothing_iff (socket : SocketAnswer) (text : String) (client : Client)
    (napi : Connector.Napi) :
    ((client.textOutcome socket text).AllOrNothing text <->
      Accepts client.agent? client.iceUdp socket
          (textFrame text (client.pendingSeqIds.headD 0)) ∨
        client.pendingSeqIds = []) ∧
    ((napi.textOutcome socket text).AllOrNothing text <->
      if napi.p2pClient.isIceCompleted then
        Accepts napi.p2pClient.agent? napi.p2pClient.iceUdp socket
            (textFrame text (napi.p2pClient.pendingSeqIds.headD 0)) ∨
          napi.p2pClient.pendingSeqIds = []
      else
        Accepts napi.inner.iceAgent napi.inner.iceUdp socket
            (textFrame text (napi.inner.pendingSeqIds.headD 0)) ∨
          (napi.inner.pendingSeqIds = [] ∧
            (napi.inner.iceAgent = none ∨ napi.inner.iceUdp = none))) := by
  refine ⟨client.textOutcome_iff socket text, ?_⟩
  rw [napi.textOutcome_eq socket text]
  split_ifs
  · exact napi.p2pClient.textOutcome_iff socket text
  · exact napi.inner.textOutcome_iff socket text

/-- A client without a session that still has a sequence id, as after `close`. -/
def closedClient : Client where
  io := true
  iceAgent := none
  iceUdp := none
  tickHandle := none
  recvHandle := none
  iceStop := 0
  onStateChange := true
  onData := true
  onLog := true
  heartbeatIntervalSecs := 0
  lastRecvInstant := none
  pendingSeqIds := [7]

/-- A connector session that has just been initiated: no pair is nominated. -/
def initiatedInner : Connector.Inner where
  iceAgent := some (IceAgent.new true (uniformSeed 0 0))
  iceUdp := some 1
  heartbeatInterval := 0
  pendingSeqIds := []

/-- The client reports an error and loses the id; the connector path reports
success and sends nothing. -/
theorem sendText_half_done :
    (exists client : Client, forall text,
      ¬ (client.textOutcome (fun _ => .ok ()) text).AllOrNothing text) ∧
    ¬ forall (socket : SocketAnswer) (text : String) (napi : Connector.Napi),
      (napi.textOutcome socket text).AllOrNothing text := by
  constructor
  · refine ⟨closedClient, ?_⟩
    rintro text (⟨succeeds, _⟩ | ⟨_, _, queue⟩)
    · cases succeeds
    · cases queue
  · intro claim
    rcases claim (fun _ => .ok ()) "" ⟨closedClient, initiatedInner⟩ with
      ⟨_, datagram, isOne, _⟩ | ⟨fails, _⟩
    · cases isOne
    · cases fails

end P2pSdk
