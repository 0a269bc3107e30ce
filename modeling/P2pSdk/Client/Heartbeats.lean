import P2pSdk.Client.Delivery
import P2pSdk.Session.TwoAgents

namespace P2pSdk

open Foundation

/-!
# Heartbeats between two clients

Two clients with a nominated pair run the receive loop over a network that
delivers every datagram once.  A client sends heartbeats from its tick thread
and data frames from `send_text`; a delivery is one turn of the receive loop of
the addressed client, and what that turn sends is in flight afterwards.

The reply to a heartbeat is built by the encoder of the heartbeat itself, so a
heartbeat in flight is answered by a heartbeat, and the exchange never ends.
-/

structure Link where
  endpoint : Side -> Shared
  /-- Datagrams on their way, each with the side it is addressed to. -/
  flight : List (Side × Bytes)

namespace Link

/-- The endpoint of a side after a step, and its new datagrams under way. -/
def proceed (link : Link) (side : Side) (after : Shared) (flight : List (Side × Bytes)) : Link where
  endpoint := Function.update link.endpoint side after
  flight := flight ++ (after.sent.drop (link.endpoint side).sent.length).map
    fun datagram => (side.other, datagram.action.data)

/-- The shared state at the end of a turn without interference. -/
def lastShared (shared : Shared) (trace : List (Transition Shared Note)) : Shared :=
  trace.foldl (fun _ transition => transition.after) shared

inductive Event where
  /-- The block of the tick thread that sends the periodic heartbeat. -/
  | periodic (side : Side)
  /-- The last block of `send_text`. -/
  | text (side : Side) (text : String) (seqId : UInt64)
  /-- The receive loop of the addressed side takes the datagram at this position. -/
  | deliver (i : Nat)

inductive Step : Link -> Event -> Link -> Prop
  | periodic {link : Link} (side : Side) :
      Step link (.periodic side) (link.proceed side
        ((link.endpoint side).sendHeartbeat (link.endpoint side).client.iceUdp) link.flight)
  | text {link : Link} (side : Side) (text : String) (seqId : UInt64) :
      Step link (.text side text seqId) (link.proceed side
        { link.endpoint side with
          sent := (link.endpoint side).sent ++
            ((link.endpoint side).sendData (textFrame text seqId)).toList } link.flight)
  | deliver {link : Link} {i : Nat} {side : Side} {data : Bytes} {self : RecvThread} {udp : Nat}
      {source : Address} {clock : Nat -> Nat} {trace : List (Transition Shared Note)} :
      link.flight[i]? = some (side, data) ->
      RecvThread.Turn clock (fun _ shared => shared) 0 (link.endpoint side)
        { self with pc := .handle udp data source } trace ->
      Step link (.deliver i)
        (link.proceed side (lastShared (link.endpoint side) trace) (link.flight.eraseIdx i))

/-- Heartbeats are on, and a pair is nominated. -/
structure Ready (shared : Shared) : Prop where
  heartbeats : 0 < shared.client.heartbeatIntervalSecs
  nominated : exists owned, shared.client.iceAgent = some owned ∧
    owned.agent.nominatedPair.isSome = true

/-- Two clients that are ready, with nothing in flight. -/
def system : TransitionSystem Link Event where
  initial := fun link => (forall side, Ready (link.endpoint side)) ∧ link.flight = []
  step := Step

/-- The delivery of a heartbeat frame. -/
def DeliversHeartbeat (before after : Link) : Prop :=
  exists i side data, before.flight[i]? = some (side, data) ∧ isHeartbeatFrame data = true ∧
    Step before (.deliver i) after

/-- Delivering heartbeats and the replies to them, in whatever order, comes to an end. -/
def DiesOut (link : Link) : Prop := Acc (fun after before => DeliversHeartbeat before after) link

/-- A heartbeat frame is in flight. -/
def HeartbeatInFlight (link : Link) : Prop :=
  exists side data, (side, data) ∈ link.flight ∧ isHeartbeatFrame data = true

/-! ## Turns on application data -/

/-- What the exchange of heartbeats depends on. -/
structure SameLink (before after : Shared) : Prop where
  iceAgent : after.client.iceAgent = before.client.iceAgent
  heartbeats : after.client.heartbeatIntervalSecs = before.client.heartbeatIntervalSecs
  sent : after.sent = before.sent

theorem SameLink.refl (shared : Shared) : SameLink shared shared := ⟨rfl, rfl, rfl⟩

theorem SameLink.trans {first second third : Shared} (earlier : SameLink first second)
    (later : SameLink second third) : SameLink first third where
  iceAgent := later.iceAgent.trans earlier.iceAgent
  heartbeats := later.heartbeats.trans earlier.heartbeats
  sent := later.sent.trans earlier.sent

/-- The program points behind the heartbeat check. -/
def behindCheck : RecvPc -> Bool
  | .log _ _ => true
  | .pushSeqId _ _ => true
  | .fireData _ _ => true
  | .checkStop => true
  | _ => false

theorem step_behindCheck {shared : Shared} {self : RecvThread} {input : Input}
    {outcome : Outcome Shared RecvThread Note} (behind : behindCheck self.pc = true)
    (away : self.atHead = false) (stepped : self.step shared input = some outcome) :
    SameLink shared outcome.shared ∧ behindCheck outcome.thread.pc = true := by
  have fired : forall (firing : Firing) (notice : Notice),
      SameLink shared { shared with client := (firing.step notice shared.client).1 } := by
    intro firing notice
    cases firing with
    | take =>
        simp only [Firing.step]
        split
        · cases notice <;> exact ⟨rfl, rfl, rfl⟩
        · exact .refl shared
    | call => exact .refl shared
    | restore => cases notice <;> exact ⟨rfl, rfl, rfl⟩
  obtain ⟨starter, stop, pc⟩ := self
  cases pc with
  | log firing next =>
      cases stepped
      refine ⟨fired firing .log, ?_⟩
      simp only [RecvThread.fire]
      split
      · rfl
      · cases next with
        | again => rfl
        | deliver seqId payload =>
            simp only [RecvThread.afterLog]
            split <;> rfl
  | pushSeqId seqId payload =>
      cases stepped
      exact ⟨⟨rfl, rfl, rfl⟩, rfl⟩
  | fireData payload firing =>
      cases stepped
      refine ⟨fired firing (.data payload), ?_⟩
      simp only [RecvThread.fire]
      split <;> rfl
  | checkStop => cases away
  | _ => cases behind

theorem turn_behindCheck {clock : Nat -> Nat} {k : Nat} {shared : Shared} {self : RecvThread}
    {trace : List (Transition Shared Note)}
    (turn : RecvThread.Turn clock (fun _ shared => shared) k shared self trace)
    (behind : behindCheck self.pc = true) : SameLink shared (lastShared shared trace) := by
  induction turn with
  | returned _ => exact .refl _
  | step away stepped _ ih =>
      rcases step_behindCheck behind away stepped with ⟨here, next⟩
      exact here.trans (ih next)

/-- The reply of a ready endpoint to application data. -/
def reply (data : Bytes) : List Bytes :=
  if isHeartbeatFrame data then [encodeHeartbeatReply] else []

theorem Ready.of_same {before after : Shared} (ready : Ready before)
    (same : SameLink before after) : Ready after where
  heartbeats := by
    rw [same.heartbeats]
    exact ready.heartbeats
  nominated := by
    rw [same.iceAgent]
    exact ready.nominated

theorem sendHeartbeat_ready {shared : Shared} (ready : Ready shared) (udp : Nat) :
    exists datagram : SentDatagram, datagram.action.data = encodeHeartbeatReply ∧
      shared.sendHeartbeat (some udp) = { shared with sent := shared.sent ++ [datagram] } := by
  rcases ready.nominated with ⟨owned, current, nominated⟩
  obtain ⟨pair, isPair⟩ := Option.isSome_iff_exists.mp nominated
  let action : IceAction :=
    { data := encodeHeartbeatReply
      targetIp := pair.remoteCand.connectionAddress
      targetPort := pair.remoteCand.port }
  refine ⟨⟨udp, action⟩, rfl, ?_⟩
  simp [Shared.sendHeartbeat, current, IceAgent.sendData, isPair, action]

/-- Whatever `sendHeartbeat` sends is the heartbeat. -/
theorem sendHeartbeat_sent (shared : Shared) (udp : Option Nat) :
    exists datagrams : List SentDatagram,
      shared.sendHeartbeat udp = { shared with sent := shared.sent ++ datagrams } ∧
      forall datagram, datagram ∈ datagrams -> datagram.action.data = encodeHeartbeatReply := by
  unfold Shared.sendHeartbeat
  split
  · rename_i action udp isAction
    refine ⟨[⟨udp, action⟩], rfl, ?_⟩
    intro datagram isMember
    obtain ⟨owned, _, isSent⟩ := Option.bind_eq_some_iff.mp isAction
    obtain ⟨pair, _, same⟩ := Option.map_eq_some_iff.mp isSent
    rw [List.mem_singleton.mp isMember, ← same]
  · refine ⟨[], by rw [List.append_nil], ?_⟩
    intro datagram isMember
    cases isMember

/-- A turn on application data at a ready endpoint: the endpoint stays ready,
and exactly a heartbeat frame is answered, with a heartbeat frame. -/
theorem turn_appData {clock : Nat -> Nat} {shared : Shared} {self : RecvThread} {udp : Nat}
    {data : Bytes} {source : Address} {trace : List (Transition Shared Note)} (ready : Ready shared)
    (notStun : parseIceStunMessage data = .ok {})
    (turn : RecvThread.Turn clock (fun _ shared => shared) 0 shared
      { self with pc := .handle udp data source } trace) :
    Ready (lastShared shared trace) ∧
      ((lastShared shared trace).sent.drop shared.sent.length).map
        (fun datagram => datagram.action.data) = reply data := by
  rcases ready.nominated with ⟨owned, current, nominated⟩
  have passes := owned.agent.handle_notStun notStun source
  have handled := RecvThread.step_handle self udp passes (.instant (clock 0)) current
  let stored : Shared :=
    { shared with client := { shared.client with lastRecvInstant := some (clock 1) } }
  have stillReady : Ready stored := ⟨ready.heartbeats, ready.nominated⟩
  -- The first three steps are the same for every datagram; the rest depends on the dispatch.
  obtain ⟨rest, isRest, same⟩ : exists rest,
      RecvThread.Turn clock (fun _ shared => shared) 3 stored
        { self with pc := RecvThread.dispatch shared.client.heartbeatIntervalSecs udp data } rest ∧
      lastShared shared trace = lastShared stored rest := by
    cases turn with
    | returned home => cases home
    | step _ first turn =>
        rw [handled] at first
        cases first
        cases turn with
        | returned home => cases home
        | step _ second turn =>
            cases second
            cases turn with
            | returned home => cases home
            | step _ third turn =>
                cases third
                exact ⟨_, turn, rfl⟩
  rw [same]
  unfold RecvThread.dispatch at isRest
  -- Behind the check nothing is sent.
  have unanswered : forall {pc : RecvPc}, behindCheck pc = true ->
      RecvThread.Turn clock (fun _ shared => shared) 3 stored { self with pc := pc } rest ->
      isHeartbeatFrame data = false -> Ready (lastShared stored rest) ∧
        ((lastShared stored rest).sent.drop shared.sent.length).map
          (fun datagram => datagram.action.data) = reply data := by
    intro pc behind turn notHeartbeat
    have kept := turn_behindCheck turn behind
    refine ⟨stillReady.of_same kept, ?_⟩
    have sent : (lastShared stored rest).sent = shared.sent := kept.sent
    rw [sent, List.drop_length, reply, if_neg (by rw [notHeartbeat]; decide)]
    rfl
  cases parsed : parseFrame data with
  | none =>
      rw [parsed] at isRest
      exact unanswered rfl isRest (by rw [isHeartbeatFrame, parsed]; rfl)
  | some frame =>
      rw [parsed] at isRest
      dsimp only at isRest
      by_cases isHeartbeat : frame.frameType = TYPE_HEARTBEAT
      · have answered : isHeartbeatFrame data = true := by
          simp [isHeartbeatFrame, parsed, isHeartbeat]
        rw [if_pos ⟨ready.heartbeats, isHeartbeat⟩] at isRest
        obtain ⟨datagram, isReply, sends⟩ := sendHeartbeat_ready stillReady udp
        have last : lastShared stored rest =
            { stored with sent := stored.sent ++ [datagram] } := by
          rw [← sends]
          cases isRest with
          | returned home => cases home
          | step _ replied turn =>
              cases replied
              cases turn with
              | returned _ => rfl
              | step away _ _ => cases away
        rw [last]
        refine ⟨⟨stillReady.heartbeats, stillReady.nominated⟩, ?_⟩
        rw [reply, if_pos answered]
        simp [stored, isReply]
      · have notHeartbeat : isHeartbeatFrame data = false := by
          simp [isHeartbeatFrame, parsed, isHeartbeat]
        rw [if_neg (fun both => isHeartbeat both.2)] at isRest
        split_ifs at isRest with isData
        · exact unanswered rfl isRest notHeartbeat
        · exact unanswered rfl isRest notHeartbeat

/-! ## Reachable links -/

/-- Both endpoints are ready, and nothing in flight is a STUN message. -/
structure Underway (link : Link) : Prop where
  ready : forall side, Ready (link.endpoint side)
  notStun : forall side data, (side, data) ∈ link.flight -> parseIceStunMessage data = .ok {}

theorem heartbeatReply_notStun : parseIceStunMessage encodeHeartbeatReply = .ok {} := by
  decide +kernel

theorem Underway.proceed {link : Link} (underway : Underway link) {side : Side} {after : Shared}
    {flight : List (Side × Bytes)} (ready : Ready after)
    (earlier : forall entry, entry ∈ flight -> entry ∈ link.flight)
    (new : forall datagram, datagram ∈ after.sent.drop (link.endpoint side).sent.length ->
      parseIceStunMessage datagram.action.data = .ok {}) :
    Underway (link.proceed side after flight) where
  ready := by
    intro other
    by_cases same : other = side
    · subst same
      simpa [Link.proceed] using ready
    · simpa [Link.proceed, same] using underway.ready other
  notStun := by
    intro receiver data inFlight
    rcases List.mem_append.mp inFlight with old | sent
    · exact underway.notStun receiver data (earlier _ old)
    · obtain ⟨datagram, isNew, same⟩ := List.mem_map.mp sent
      cases same
      exact new datagram isNew

theorem Underway.step {before after : Link} {event : Event} (underway : Underway before)
    (stepped : Step before event after) : Underway after := by
  cases stepped with
  | periodic side =>
      have ready := underway.ready side
      obtain ⟨datagrams, sends, heartbeats⟩ := sendHeartbeat_sent (before.endpoint side)
        (before.endpoint side).client.iceUdp
      rw [sends]
      refine underway.proceed ⟨ready.heartbeats, ready.nominated⟩ (fun _ old => old) ?_
      intro datagram isNew
      rw [List.drop_left] at isNew
      rw [heartbeats datagram isNew]
      exact heartbeatReply_notStun
  | text side text seqId =>
      have ready := underway.ready side
      refine underway.proceed ⟨ready.heartbeats, ready.nominated⟩ (fun _ old => old) ?_
      intro datagram isNew
      rw [List.drop_left, Option.mem_toList] at isNew
      rw [(Shared.sendData_some isNew).1, textFrame_eq]
      exact dataFrame_notStun text seqId
  | @deliver i side data self udp source clock trace found turn =>
      have notStun := underway.notStun side data (List.mem_of_getElem? found)
      rcases turn_appData (underway.ready side) notStun turn with ⟨ready, replied⟩
      refine underway.proceed ready (fun _ old => List.mem_of_mem_eraseIdx old) ?_
      intro datagram isNew
      have inReply : datagram.action.data ∈ reply data := by
        rw [← replied]
        exact List.mem_map_of_mem isNew
      rw [reply] at inReply
      split_ifs at inReply
      · rw [List.mem_singleton.mp inReply]
        exact heartbeatReply_notStun
      · cases inReply

theorem underway_of_reachable {link : Link} (reachable : system.Reachable link) :
    Underway link := by
  refine reachable.invariant Underway ?_ (fun _ _ _ underway => underway.step)
  rintro start ⟨ready, nothing⟩
  refine ⟨ready, ?_⟩
  intro side data inFlight
  rw [nothing] at inFlight
  cases inFlight

/-! ## The exchange does not end -/

/-- A heartbeat runs no callback: its turn exists, whatever is registered. -/
theorem exists_turn_heartbeat {shared : Shared} (ready : Ready shared) {data : Bytes}
    (notStun : parseIceStunMessage data = .ok {}) (isHeartbeat : isHeartbeatFrame data = true) :
    exists trace, RecvThread.Turn (fun _ => 0) (fun _ shared => shared) 0 shared
      { RecvThread.start 0 0 with pc := .handle 0 data ⟨"", 0⟩ } trace := by
  rcases ready.nominated with ⟨owned, current, _⟩
  have passes := owned.agent.handle_notStun notStun ⟨"", 0⟩
  have handled := RecvThread.step_handle (.start 0 0) 0 passes (.instant 0) current
  let stored : Shared := { shared with client := { shared.client with lastRecvInstant := some 0 } }
  have read : RecvThread.step stored { RecvThread.start 0 0 with pc := .readHeartbeat 0 data }
      (.instant 0) = some (RecvThread.goto (.start 0 0) (.replyHeartbeat 0) stored) := by
    obtain ⟨parsed, isParsed, isType⟩ := (Option.any_eq_true _ _).mp isHeartbeat
    have dispatched : RecvThread.dispatch stored.client.heartbeatIntervalSecs 0 data =
        .replyHeartbeat 0 := by
      rw [RecvThread.dispatch, isParsed]
      exact if_pos ⟨ready.heartbeats, of_decide_eq_true isType⟩
    exact congrArg (fun pc => some (RecvThread.goto (.start 0 0) pc stored)) dispatched
  exact ⟨_, .step rfl handled (.step rfl rfl (.step rfl read (.step rfl rfl (.returned rfl))))⟩

/-- The reply to a heartbeat is a heartbeat: one delivery leads to the next. -/
theorem heartbeat_answered {link : Link} (underway : Underway link)
    (inFlight : HeartbeatInFlight link) :
    exists after, DeliversHeartbeat link after ∧ Underway after ∧ HeartbeatInFlight after := by
  rcases inFlight with ⟨side, data, isMember, isHeartbeat⟩
  obtain ⟨i, found⟩ := List.getElem?_of_mem isMember
  have notStun := underway.notStun side data isMember
  have ready := underway.ready side
  obtain ⟨trace, turn⟩ := exists_turn_heartbeat ready notStun isHeartbeat
  have stepped := Step.deliver found turn
  rcases turn_appData ready notStun turn with ⟨_, replied⟩
  refine ⟨_, ⟨i, side, data, found, isHeartbeat, stepped⟩, underway.step stepped, ?_⟩
  refine ⟨side.other, encodeHeartbeatReply, ?_, by decide +kernel⟩
  have inReply : encodeHeartbeatReply ∈ ((lastShared (link.endpoint side) trace).sent.drop
      (link.endpoint side).sent.length).map (fun datagram => datagram.action.data) := by
    rw [replied, reply, if_pos isHeartbeat]
    exact List.mem_singleton_self _
  obtain ⟨datagram, isNew, same⟩ := List.mem_map.mp inReply
  apply List.mem_append_right
  exact List.mem_map.mpr ⟨datagram, isNew, by rw [same]⟩

theorem HeartbeatInFlight.not_diesOut {link : Link} (inFlight : HeartbeatInFlight link)
    (underway : Underway link) : ¬ DiesOut link := by
  apply not_acc_of_again (fun other => Underway other ∧ HeartbeatInFlight other)
  · rintro before ⟨underway, there⟩
    exact heartbeat_answered underway there
  · exact ⟨underway, inFlight⟩

/-- Heartbeats die out exactly when there are none in flight. -/
theorem diesOut_iff {link : Link} (reachable : system.Reachable link) :
    DiesOut link <-> ¬ HeartbeatInFlight link := by
  constructor
  · intro diesOut inFlight
    exact inFlight.not_diesOut (underway_of_reachable reachable) diesOut
  · intro nothing
    refine .intro link ?_
    rintro after ⟨i, side, data, found, isHeartbeat, _⟩
    exact absurd ⟨side, data, List.mem_of_getElem? found, isHeartbeat⟩ nothing

/-- Two endpoints with heartbeats every ten seconds, before the first one. -/
def quietLink : Link where
  endpoint := fun _ => clientWith nominatedAgent []
  flight := []

theorem quietLink_initial : system.initial quietLink :=
  ⟨fun _ => ⟨show 0 < 10 by decide, ⟨0, nominatedAgent⟩, rfl, by decide +kernel⟩, rfl⟩

/-- The endpoints after one of them has sent a text. -/
def textLink : Link :=
  quietLink.proceed .a
    { quietLink.endpoint .a with
      sent := (quietLink.endpoint .a).sent ++
        ((quietLink.endpoint .a).sendData (textFrame "hi" 7)).toList } quietLink.flight

theorem diesOut_before_first :
    system.Reachable textLink ∧ textLink.flight = [(Side.b, encodeDataFrameWithSeq "hi" 7)] ∧
      DiesOut textLink := by
  have reachable : system.Reachable textLink := .step (.start quietLink_initial) (.text .a "hi" 7)
  have flight : textLink.flight = [(Side.b, encodeDataFrameWithSeq "hi" 7)] := by decide +kernel
  refine ⟨reachable, flight, (diesOut_iff reachable).mpr ?_⟩
  rintro ⟨side, data, inFlight, isHeartbeat⟩
  rw [flight, List.mem_singleton] at inFlight
  cases inFlight
  exact absurd isHeartbeat (by decide +kernel)

/-- One periodic heartbeat is enough. -/
theorem heartbeat_never_dies_out : ¬ forall link, system.Reachable link -> DiesOut link := by
  intro claim
  have reachable : system.Reachable (quietLink.proceed .a
      ((quietLink.endpoint .a).sendHeartbeat (some 0)) []) :=
    .step (.start quietLink_initial) (.periodic .a)
  have inFlight : HeartbeatInFlight (quietLink.proceed .a
      ((quietLink.endpoint .a).sendHeartbeat (some 0)) []) :=
    ⟨.b, encodeHeartbeatReply, by decide +kernel, by decide +kernel⟩
  exact inFlight.not_diesOut (underway_of_reachable reachable) (claim _ reachable)

end Link

end P2pSdk
