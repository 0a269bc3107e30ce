import P2pSdk.Client.SendText
import P2pSdk.Foundation.Turns

namespace P2pSdk

open Foundation

/-!
# Delivery of application data

One turn of the receive loop of a client, from the block that hands a datagram
to the agent back to the head of the loop.  Other threads may do anything
between two of its steps, except that they leave the registered data callback
in place.
-/

namespace RecvThread

/-- The head of the loop. -/
def atHead (self : RecvThread) : Bool := self.pc = .checkStop

/-- Turns of the loop; every clock reading is given. -/
abbrev Turn (clock : Nat -> Nat) (others : Nat -> Shared -> Shared) :
    Nat -> Shared -> RecvThread -> List (Transition Shared Note) -> Prop :=
  Foundation.Turn step atHead (fun k => .instant (clock k)) others

/-- The other threads leave the registered data callback in place. -/
def LeaveOnData (others : Nat -> Shared -> Shared) : Prop :=
  forall k shared, shared.client.onData = true -> (others k shared).client.onData = true

end RecvThread

/-- A step of a callback leaves the pending sequence ids. -/
theorem Firing.step_pendingSeqIds (firing : Firing) (notice : Notice) (client : Client) :
    (firing.step notice client).1.pendingSeqIds = client.pendingSeqIds := by
  cases firing with
  | take =>
      simp only [Firing.step]
      split
      · cases notice <;> rfl
      · rfl
  | call => rfl
  | restore => cases notice <;> rfl

/-- What a turn delivered to the data callback. -/
def deliveries {State : Type} (trace : List (Transition State Note)) : List Bytes :=
  trace.filterMap fun transition =>
    match transition.note with
    | .called (.data payload) => some payload
    | _ => none

/-- What a turn appended to the pending sequence ids. -/
def queued (trace : List (Transition Shared Note)) : List UInt64 :=
  trace.flatMap fun transition =>
    transition.after.client.pendingSeqIds.drop transition.before.client.pendingSeqIds.length

/-- No step removed a pending sequence id. -/
def OnlyQueues (trace : List (Transition Shared Note)) : Prop :=
  forall transition, transition ∈ trace ->
    transition.before.client.pendingSeqIds <+: transition.after.client.pendingSeqIds

/-- What a turn did for the application: its deliveries and the sequence ids it queued. -/
structure Served (trace : List (Transition Shared Note)) (payloads : List Bytes)
    (seqIds : List UInt64) : Prop where
  deliveries : deliveries trace = payloads
  queued : queued trace = seqIds
  onlyQueues : OnlyQueues trace

theorem quiet_silent (payload : Bytes) : Note.quiet ≠ .called (.data payload) := nofun

theorem log_silent (payload : Bytes) : Note.called .log ≠ .called (.data payload) := nofun

theorem Served.nothing : Served [] [] [] := by
  refine ⟨rfl, rfl, ?_⟩
  intro transition isMember
  cases isMember

theorem Served.onlyQueues_cons {transition : Transition Shared Note}
    {rest : List (Transition Shared Note)} {payloads : List Bytes} {seqIds : List UInt64}
    (served : Served rest payloads seqIds)
    (here : transition.before.client.pendingSeqIds <+: transition.after.client.pendingSeqIds) :
    OnlyQueues (transition :: rest) := by
  intro other isMember
  rcases List.mem_cons.mp isMember with same | later
  · rw [same]
    exact here
  · exact served.onlyQueues other later

/-- A step that leaves the pending sequence ids and calls no data callback. -/
theorem Served.quiet {transition : Transition Shared Note} {rest : List (Transition Shared Note)}
    {payloads : List Bytes} {seqIds : List UInt64} (served : Served rest payloads seqIds)
    (kept : transition.after.client.pendingSeqIds = transition.before.client.pendingSeqIds)
    (silent : forall payload, transition.note ≠ .called (.data payload)) :
    Served (transition :: rest) payloads seqIds where
  deliveries := by
    rw [P2pSdk.deliveries, List.filterMap_cons]
    cases noted : transition.note with
    | called notice =>
        cases notice with
        | data payload => exact absurd noted (silent payload)
        | _ => exact served.deliveries
    | _ => exact served.deliveries
  queued := by
    rw [P2pSdk.queued, List.flatMap_cons, kept, List.drop_length, List.nil_append]
    exact served.queued
  onlyQueues := served.onlyQueues_cons (kept ▸ List.prefix_refl _)

/-- The call of the data callback. -/
theorem Served.called {transition : Transition Shared Note}
    {rest : List (Transition Shared Note)} {payload : Bytes} {payloads : List Bytes}
    {seqIds : List UInt64} (served : Served rest payloads seqIds)
    (kept : transition.after.client.pendingSeqIds = transition.before.client.pendingSeqIds)
    (noted : transition.note = .called (.data payload)) :
    Served (transition :: rest) (payload :: payloads) seqIds where
  deliveries := by
    rw [P2pSdk.deliveries, List.filterMap_cons, noted]
    exact congrArg (List.cons payload) served.deliveries
  queued := by
    rw [P2pSdk.queued, List.flatMap_cons, kept, List.drop_length, List.nil_append]
    exact served.queued
  onlyQueues := served.onlyQueues_cons (kept ▸ List.prefix_refl _)

/-- The step that queues a sequence id. -/
theorem Served.queues {transition : Transition Shared Note}
    {rest : List (Transition Shared Note)} {payloads : List Bytes} {seqId : UInt64}
    {seqIds : List UInt64} (served : Served rest payloads seqIds)
    (grown : transition.after.client.pendingSeqIds =
      transition.before.client.pendingSeqIds ++ [seqId])
    (quiet : transition.note = .quiet) :
    Served (transition :: rest) payloads (seqId :: seqIds) where
  deliveries := by
    rw [P2pSdk.deliveries, List.filterMap_cons, quiet]
    exact served.deliveries
  queued := by
    rw [P2pSdk.queued, List.flatMap_cons, grown, List.drop_left]
    exact congrArg (List.cons seqId) served.queued
  onlyQueues := served.onlyQueues_cons (by rw [grown]; exact List.prefix_append _ _)

/-- What the application is to be told of a datagram: the payload of a
well-formed data frame, and nothing of a heartbeat, an unknown frame type or
bytes that are no frame. -/
def payloadOf (appData : Bytes) : List Bytes :=
  match parseFrame appData with
  | some parsed => if parsed.frameType = TYPE_DATA then [parsed.payload] else []
  | none => []

/-- The sequence id of a data frame, unless it is zero. -/
def seqIdOf (appData : Bytes) : List UInt64 :=
  match parseFrame appData with
  | some parsed => if parsed.frameType = TYPE_DATA ∧ 0 < parsed.seqId then [parsed.seqId] else []
  | none => []

namespace RecvThread

/-- The block that hands the agent a datagram which it passes through. -/
theorem step_handle (self : RecvThread) (udp : Nat) {data : Bytes} {source : Address}
    {agent : IceAgent}
    (passes : agent.handleIncomingData data source =
      .ok (agent, { appData := some data, actions := [] })) (input : Input) {shared : Shared}
    {owner : Nat} (current : shared.client.iceAgent = some ⟨owner, agent⟩) :
    step shared { self with pc := .handle udp data source } input =
      some (self.goto (.storeInstant udp data) shared) := by
  obtain ⟨client, flags, drawn, sent⟩ := shared
  obtain ⟨io, iceAgent, _⟩ := client
  simp only at current
  subst current
  simp [step, handle, passes, goto]

/-! ## The phases of a turn -/

section Phases

variable (clock : Nat -> Nat) (others : Nat -> Shared -> Shared) (self : RecvThread)

/-- From this program point on the turn serves the application like this,
whatever has happened before. -/
def Serves (pc : RecvPc) (payloads : List Bytes) (seqIds : List UInt64) : Prop :=
  forall k shared, shared.client.onData = true ->
    exists trace, Turn clock others k shared { self with pc := pc } trace ∧
      Served trace payloads seqIds

variable {clock others self}

theorem serves_checkStop : Serves clock others self .checkStop [] [] :=
  fun _ _ _ => ⟨[], .returned rfl, .nothing⟩

theorem serves_fireData (payload : Bytes) :
    Serves clock others self (.fireData payload .take) [payload] [] := by
  intro k shared registered
  have taken : step shared { self with pc := .fireData payload .take } (.instant (clock k)) = some
      { shared := { shared with client := shared.client.setCallback false (.data payload) },
        thread := { self with pc := .fireData payload .call }, spawned := none, note := .quiet } := by
    simp [step, fire, Firing.step, Client.callback, registered]
  refine ⟨_, .step rfl taken (.step rfl rfl (.step rfl rfl (.returned rfl))), ?_⟩
  apply Served.quiet _ rfl quiet_silent
  apply Served.called _ (Firing.step_pendingSeqIds .call (.data payload) _) rfl
  exact Served.nothing.quiet (Firing.step_pendingSeqIds .restore (.data payload) _) quiet_silent

theorem serves_pushSeqId (undisturbed : LeaveOnData others) (seqId : UInt64) (payload : Bytes) :
    Serves clock others self (.pushSeqId seqId payload) [payload] [seqId] := by
  intro k shared registered
  obtain ⟨rest, turn, served⟩ := serves_fireData payload (k + 1)
    (others k { shared with
      client := { shared.client with pendingSeqIds := shared.client.pendingSeqIds ++ [seqId] } })
    (undisturbed k _ registered)
  exact ⟨_, .step rfl rfl turn, served.queues rfl rfl⟩

/-- A log line neither delivers nor queues, whether a log callback is registered or not. -/
theorem serves_log (undisturbed : LeaveOnData others) {next : AfterLog} {payloads : List Bytes}
    {seqIds : List UInt64} (later : Serves clock others self (afterLog next) payloads seqIds) :
    Serves clock others self (.log .take next) payloads seqIds := by
  intro k shared registered
  cases logs : shared.client.onLog with
  | false =>
      have skipped : step shared { self with pc := .log .take next } (.instant (clock k)) =
          some (self.goto (afterLog next) shared) := by
        simp [step, fire, Firing.step, Client.callback, logs, goto]
      obtain ⟨rest, turn, served⟩ := later (k + 1) (others k shared)
        (undisturbed k _ registered)
      exact ⟨_, .step rfl skipped turn, served.quiet rfl quiet_silent⟩
  | true =>
      have taken : step shared { self with pc := .log .take next } (.instant (clock k)) = some
          { shared := { shared with client := shared.client.setCallback false .log },
            thread := { self with pc := .log .call next }, spawned := none, note := .quiet } := by
        simp [step, fire, Firing.step, Client.callback, logs]
      let taking : Shared := { shared with client := shared.client.setCallback false .log }
      let called := others (k + 1) (others k taking)
      have stillRegistered : called.client.onData = true :=
        undisturbed (k + 1) _ (undisturbed k taking registered)
      obtain ⟨rest, turn, served⟩ := later (k + 3) _ (undisturbed (k + 2)
        { called with client := called.client.setCallback true .log } stillRegistered)
      refine ⟨_, .step rfl taken (.step rfl rfl (.step rfl rfl turn)), ?_⟩
      apply Served.quiet _ rfl quiet_silent
      apply Served.quiet _ (Firing.step_pendingSeqIds .call .log _) log_silent
      exact served.quiet (Firing.step_pendingSeqIds .restore .log _) quiet_silent

theorem serves_replyHeartbeat (udp : Nat) :
    Serves clock others self (.replyHeartbeat udp) [] [] := by
  intro k shared _
  have client : (shared.sendHeartbeat (some udp)).client = shared.client := by
    unfold Shared.sendHeartbeat
    split <;> rfl
  refine ⟨_, .step rfl rfl (.returned rfl), ?_⟩
  exact Served.nothing.quiet (congrArg Client.pendingSeqIds client) quiet_silent

/-- The dispatch serves the contract under every heartbeat setting: a data
frame is not a heartbeat. -/
theorem serves_dispatch (undisturbed : LeaveOnData others) (hbSecs udp : Nat) (appData : Bytes) :
    Serves clock others self (dispatch hbSecs udp appData) (payloadOf appData)
      (seqIdOf appData) := by
  unfold dispatch payloadOf seqIdOf
  cases parseFrame appData with
  | none => exact serves_log undisturbed serves_checkStop
  | some parsed =>
      dsimp only
      by_cases isData : parsed.frameType = TYPE_DATA
      · have notHeartbeat : ¬ (0 < hbSecs ∧ parsed.frameType = TYPE_HEARTBEAT) := by
          rw [isData]
          rintro ⟨_, contrary⟩
          exact absurd contrary (by decide)
        rw [if_neg notHeartbeat, if_pos isData, if_pos isData]
        by_cases positive : 0 < parsed.seqId
        · rw [if_pos ⟨isData, positive⟩]
          apply serves_log undisturbed
          rw [afterLog, if_pos positive]
          exact serves_pushSeqId undisturbed parsed.seqId parsed.payload
        · rw [if_neg (fun both => positive both.2)]
          apply serves_log undisturbed
          rw [afterLog, if_neg positive]
          exact serves_fireData parsed.payload
      · have noSeqId : ¬ (parsed.frameType = TYPE_DATA ∧ 0 < parsed.seqId) :=
          fun both => isData both.1
        rw [if_neg isData, if_neg isData, if_neg noSeqId]
        by_cases heartbeat : 0 < hbSecs ∧ parsed.frameType = TYPE_HEARTBEAT
        · rw [if_pos heartbeat]
          exact serves_replyHeartbeat udp
        · rw [if_neg heartbeat]
          exact serves_log undisturbed serves_checkStop

/-- Application data that the agent returned. -/
theorem serves_storeInstant (undisturbed : LeaveOnData others) (udp : Nat) (appData : Bytes) :
    Serves clock others self (.storeInstant udp appData) (payloadOf appData)
      (seqIdOf appData) := by
  intro k shared registered
  let stored : Shared :=
    { shared with client := { shared.client with lastRecvInstant := some (clock k) } }
  have stillRegistered := undisturbed k stored registered
  obtain ⟨rest, turn, served⟩ := serves_dispatch undisturbed
    (others k stored).client.heartbeatIntervalSecs udp appData (k + 2) _
    (undisturbed (k + 1) (others k stored) stillRegistered)
  refine ⟨_, .step rfl rfl (.step rfl rfl turn), ?_⟩
  exact (served.quiet rfl quiet_silent).quiet rfl quiet_silent

/-- A datagram that the agent passes through unchanged. -/
theorem serves_handle (undisturbed : LeaveOnData others) {udp owner : Nat} {data : Bytes}
    {source : Address} {agent : IceAgent}
    (passes : agent.handleIncomingData data source =
      .ok (agent, { appData := some data, actions := [] })) {k : Nat} {shared : Shared}
    (current : shared.client.iceAgent = some ⟨owner, agent⟩)
    (registered : shared.client.onData = true) :
    exists trace, Turn clock others k shared { self with pc := .handle udp data source } trace ∧
      Served trace (payloadOf data) (seqIdOf data) := by
  have handled := step_handle self udp passes (.instant (clock k)) current
  obtain ⟨rest, turn, served⟩ := serves_storeInstant undisturbed udp data (k + 1) (others k shared)
    (undisturbed k shared registered)
  exact ⟨_, .step rfl handled turn, served.quiet rfl quiet_silent⟩

end Phases

end RecvThread

/-! ## Text -/

/-- A datagram whose second word is not the magic cookie is no STUN message. -/
theorem parse_notStun {data : Bytes} {word : UInt32} (second : readU32 data 4 = .ok word)
    (notCookie : word ≠ STUN_MAGIC_COOKIE) : parseIceStunMessage data = .ok {} := by
  by_cases short : data.length < STUN_HEADER_LEN
  · rw [parseIceStunMessage, if_pos short, Checked.pure_eq_ok]
  · have long : 20 ≤ data.length := Nat.not_lt.mp short
    obtain ⟨first, isFirst⟩ : exists first, byteAt data 0 = .ok first := by
      rw [byteAt, List.getElem?_eq_getElem (by omega)]
      exact ⟨_, rfl⟩
    obtain ⟨msgType, isType⟩ : exists msgType, readU16 data 0 = .ok msgType := by
      rw [readU16, sliceAt, if_pos (by omega)]
      exact ⟨_, rfl⟩
    rw [parseIceStunMessage, if_neg short, isFirst, Checked.ok_bind]
    by_cases classBits : first &&& 0xC0 ≠ 0
    · rw [if_pos classBits, Checked.pure_eq_ok]
    · rw [if_neg classBits, isType, Checked.ok_bind, second, Checked.ok_bind, if_pos notCookie,
        Checked.pure_eq_ok]

/-- The second word of a frame is its type. -/
theorem readU32_of_parseFrame {data : Bytes} {parsed : ParsedFrame}
    (isParsed : parseFrame data = some parsed) : readU32 data 4 = .ok parsed.frameType := by
  unfold parseFrame at isParsed
  dsimp only at isParsed
  split_ifs at isParsed with short cut
  rw [← Option.some.inj isParsed, readU32, sliceAt, if_pos (by omega), Checked.ok_bind,
    Checked.pure_eq_ok]

/-- What is no STUN message is application data to every agent. -/
theorem IceAgent.handle_notStun {data : Bytes} (notStun : parseIceStunMessage data = .ok {})
    (agent : IceAgent) (source : Address) :
    agent.handleIncomingData data source =
      .ok (agent, { appData := some data, actions := [] }) := by
  rw [handleIncomingData, notStun]
  rfl

theorem dataFrame_notStun (text : String) (seqId : UInt64) :
    parseIceStunMessage (encodeDataFrameWithSeq text seqId) = .ok {} := by
  have second := readU32_append (beBytes 4 (asBytes text).length)
    (beBytes 8 seqId.toNat ++ asBytes text) TYPE_DATA 4 (beBytes_length _ _).symm
  apply parse_notStun _ (show TYPE_DATA ≠ STUN_MAGIC_COOKIE by decide)
  simpa only [encodeDataFrameWithSeq, u32Bytes, List.append_assoc] using second

/-- Text below the width of the length field is delivered intact.  A call of
`send_text` with a nominated pair and a socket, that the other threads leave in
place, sends the frame to the nominated remote as it was encoded, once, and
whatever is sent goes to the nominated pair; no agent, in any state, takes the
frame for STUN; and the receive loop, whatever the heartbeat setting and whatever
other threads do meanwhile, delivers the bytes of the text once and queues the
sequence id exactly when it is positive. -/
theorem text_delivered (agent : IceAgent) (text : String)
    (small : (asBytes text).length < 2 ^ 32) (seqId : UInt64) (source : Address) :
    let frame := encodeDataFrameWithSeq text seqId
    (forall (sender : Shared) (udp : Nat) (target : Address) (others : Nat -> Shared -> Shared) (k : Nat),
      sender.Routes udp target -> SendText.LeaveRoute udp target others ->
      sender.client.popSeqId.1 = seqId ->
        SendText.Sends others k sender text [⟨udp, ⟨frame, target.ip, target.port⟩⟩]) ∧
    (forall (sender : Shared) datagram, sender.sendData (textFrame text seqId) = some datagram ->
      datagram.action.data = frame ∧ exists owned, sender.client.iceAgent = some owned ∧
        owned.agent.nominatedRemote = some datagram.action.target) ∧
    agent.handleIncomingData frame source =
      .ok (agent, { appData := some frame, actions := [] }) ∧
    forall (self : RecvThread) (udp owner k : Nat) (clock : Nat -> Nat)
        (others : Nat -> Shared -> Shared) (receiver : Shared),
      RecvThread.LeaveOnData others -> receiver.client.iceAgent = some ⟨owner, agent⟩ ->
      receiver.client.onData = true ->
        exists trace, RecvThread.Turn clock others k receiver
            { self with pc := .handle udp frame source } trace ∧
          deliveries trace = [asBytes text] ∧
          queued trace = (if 0 < seqId then [seqId] else []) ∧ OnlyQueues trace := by
  have passes := agent.handle_notStun (dataFrame_notStun text seqId) source
  have parsed := parseFrame_encodeDataFrameWithSeq small seqId
  refine ⟨?_, ?_, passes, ?_⟩
  · intro sender udp target others k routes leave popped
    rw [← popped]
    exact SendText.sends_frame leave k routes text
  · intro sender datagram sends
    rw [textFrame_eq] at sends
    exact Shared.sendData_some sends
  · intro self udp owner k clock others receiver undisturbed current registered
    obtain ⟨trace, turn, served⟩ := @RecvThread.serves_handle clock others self undisturbed udp owner
      _ source _ passes k receiver current registered
    refine ⟨trace, turn, ?_, ?_, served.onlyQueues⟩
    · rw [served.deliveries, payloadOf, parsed]
      rfl
    · rw [served.queued, seqIdOf, parsed]
      simp

/-- A controlled agent after the nominating request of its peer. -/
def nominatedAgent : IceAgent :=
  IceAgent.markPair
    (((IceAgent.new false (uniformSeed 0 0)).addHostCandidate "10.0.0.1" 5000).setRemoteSessionDescription
      { iceUfrag := "peer", icePwd := "secret", isLite := false,
        candidates := ["candidate:1 1 UDP 2113929471 10.0.0.2 6000 typ host"] }).startChecks.1
    true ⟨"10.0.0.2", 6000⟩

/-- A client with a socket and an agent, and all callbacks registered. -/
def clientWith (agent : IceAgent) (pending : List UInt64) : Shared where
  client :=
    { io := true, iceAgent := some ⟨0, agent⟩, iceUdp := some 0, tickHandle := none, recvHandle := none
      iceStop := 0, onStateChange := true, onData := true, onLog := true, heartbeatIntervalSecs := 10
      lastRecvInstant := none, pendingSeqIds := pending }
  flags := [false]
  drawn := 0
  sent := []

/-- A call takes the sequence id 7 from the queue and sends the frame to the
nominated pair, and a client whose heartbeats are on takes it up, undisturbed. -/
theorem text_delivered_undisturbed :
    SendText.Sends (fun _ shared => shared) 0 (clientWith nominatedAgent [7]) "hi"
      [⟨0, ⟨encodeDataFrameWithSeq "hi" 7, "10.0.0.2", 6000⟩⟩] ∧
    exists trace : List (Transition Shared Note),
      RecvThread.Turn (fun _ => 0) (fun _ shared => shared) 0
        (clientWith (IceAgent.new true (uniformSeed 0 0)) [])
        { RecvThread.start 0 0 with
          pc := .handle 0 (encodeDataFrameWithSeq "hi" 7) ⟨"10.0.0.1", 5000⟩ } trace ∧
      deliveries trace = [[0x68, 0x69]] ∧ queued trace = [7] := by
  obtain ⟨sends, _, _, delivered⟩ := text_delivered (IceAgent.new true (uniformSeed 0 0)) "hi" (by decide) 7
    ⟨"10.0.0.1", 5000⟩
  constructor
  · exact sends _ 0 ⟨"10.0.0.2", 6000⟩ _ 0 ⟨rfl, _, rfl, by decide +kernel⟩ (fun _ _ routes => routes) rfl
  · obtain ⟨trace, turn, payloads, seqIds, _⟩ := delivered (RecvThread.start 0 0) 0 0 0 (fun _ => 0)
      (fun _ shared => shared) (clientWith (IceAgent.new true (uniformSeed 0 0)) [])
      (fun _ _ registered => registered) rfl rfl
    exact ⟨trace, turn, payloads, seqIds⟩

end P2pSdk
