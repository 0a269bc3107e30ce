import P2pSdk.Session.TwoAgents
import P2pSdk.Ice.Datagrams

namespace P2pSdk

open Foundation

/-!
# From bytes to messages

In a reachable session the bytes of a datagram encode the message it is
labelled with.  Both directions of the codec are used: a built request is read
back with its role and its flag and is answered under its own transaction id,
and a built response is read back with its id.  What a delivery does to the
receiver is then a function of the message and the source address.
-/

/-! ## Sizes -/

theorem asBytes_length_le (text : String) : (asBytes text).length ≤ 4 * text.toList.length := by
  unfold asBytes
  induction text.toList with
  | nil => exact Nat.le_refl _
  | cons char rest ih =>
      have width : (String.utf8EncodeChar char).length ≤ 4 := by
        rw [String.length_utf8EncodeChar]
        exact char.utf8Size_le_four
      rw [List.flatMap_cons, List.length_append, List.length_cons]
      omega

theorem hexText_length (bytes : Bytes) : (hexText bytes).toList.length = 2 * bytes.length := by
  rw [hexText, String.toList_ofList]
  induction bytes with
  | nil => rfl
  | cons byte rest ih =>
      rw [List.flatMap_cons, List.length_append, ih, List.length_cons]
      have two : (hexByte byte).length = 2 := rfl
      omega

theorem Setting.username_length (setting : Setting) (side : Side) :
    (setting.username side).toList.length = 17 := by
  unfold username ufrag
  simp [hexText_length, (setting.party side).seed.ufrag_length,
    (setting.party side.other).seed.ufrag_length]

theorem Setting.username_fits (setting : Setting) (side : Side) :
    (asBytes (setting.username side)).length ≤ 68 := by
  have bound := asBytes_length_le (setting.username side)
  rw [setting.username_length] at bound
  exact bound

/-! ## Encoded messages -/

/-- The bytes of a datagram are those that its sender builds for its message. -/
def Datagram.Encodes (setting : Setting) (datagram : Datagram) : Prop :=
  match datagram.message with
  | .request controlling useCandidate id =>
      exists fields : RequestFields, fields.username = setting.username datagram.sender ∧
        fields.controlling = controlling ∧ fields.useCandidate = useCandidate ∧
        fields.transactionId = id ∧ datagram.data = (fields.build setting.crypto).data
  | .response id => datagram.data = stunHeader STUN_BINDING_SUCCESS 0 id.bytes

/-- A request of a session is small enough for its length fields. -/
theorem RequestFields.attrsLen_fits {setting : Setting} {side : Side} {fields : RequestFields}
    (isUsername : fields.username = setting.username side) :
    fields.attrsLen setting.crypto < 65536 := by
  have bound := setting.username_fits side
  have padded := padTo4_lt (4 + (asBytes (setting.username side)).length)
  rw [← fields.attrsLen_eq, isUsername]
  split_ifs <;> omega

namespace IceAgent

/-- What a request of the peer does. -/
def receiveRequest (agent : IceAgent) (controlling useCandidate : Bool) (source : Address) :
    IceAgent :=
  ((agent.resolveRoleConflict (some controlling)).markPair useCandidate source).noteContact

/-- What a success response of the peer does. -/
def receiveResponse (agent : IceAgent) (id : TransactionId) : IceAgent :=
  match agent.pairOfTransaction id.bytes with
  | none => agent
  | some idx => agent.acknowledgePair idx

theorem handle_response (agent : IceAgent) (id : TransactionId) (source : Address) :
    agent.handleIncomingData (stunHeader STUN_BINDING_SUCCESS 0 id.bytes) source =
      .ok (agent.receiveResponse id, { appData := none, actions := [] }) := by
  have received : agent.handleStunResponse
      { isStun := true, isResponse := true, transactionId := id.bytes } =
      agent.receiveResponse id := by
    unfold receiveResponse
    rcases handleStunResponse_cases agent
        { isStun := true, isResponse := true, transactionId := id.bytes } with
      ⟨isError, _⟩ | ⟨_, notResponse | noPair, same⟩ | ⟨idx, _, _, found, same⟩
    · cases isError
    · cases notResponse
    · rw [same, noPair]
    · rw [same, found]
  simp [handleIncomingData, parse_response, received]

theorem handle_request {setting : Setting} {agent : IceAgent} {fields : RequestFields}
    {sender : Side} (isUsername : fields.username = setting.username sender)
    (localUfrag : agent.localUfrag = setting.ufrag sender.other)
    (remoteUfrag : agent.remoteUfrag = setting.ufrag sender) (source : Address) :
    agent.handleIncomingData (fields.build setting.crypto).data source =
      .ok (agent.receiveRequest fields.controlling fields.useCandidate source,
        { appData := none
          actions := [⟨stunHeader STUN_BINDING_SUCCESS 0 fields.transactionId.bytes, source.ip,
            source.port⟩] }) := by
  have parsed := fields.parse_build setting.crypto (RequestFields.attrsLen_fits isUsername)
  have answered := fields.respond_build setting.crypto
  have noColon : ':' ∉ agent.localUfrag.toList := by
    rw [localUfrag]
    exact colon_not_mem_hexText _
  have accepted : agent.acceptsUsername fields.username = true := by
    rw [acceptsUsername_iff noColon, isUsername, localUfrag, remoteUfrag]
    exact Or.inr rfl
  simp [handleIncomingData, parsed, handleIncomingStun, accepted, answered, receiveRequest]

end IceAgent

namespace IceAgent

/-! ## What a message does to its receiver -/

theorem tickChecks_role (crypto : Crypto) (ids : Nat -> TransactionId) (agent : IceAgent)
    (next now : Nat) : (agent.tickChecks crypto ids next now).1.role = agent.role := by
  rcases tickChecks_cases crypto ids next agent now with ⟨_, same⟩ | ⟨_, state, _, same⟩
  · rw [same]
  · rw [same]

theorem receiveRequest_role (agent : IceAgent) (controlling useCandidate : Bool)
    (source : Address) :
    (agent.receiveRequest controlling useCandidate source).role =
      if controlling = true ∧ agent.role = .controlling then .controlled else agent.role := by
  have marked : forall other : IceAgent,
      ((other.markPair useCandidate source).noteContact).role = other.role := by
    intro other
    rw [noteContact_eq]
    rcases markPair_cases other useCandidate source with
      ⟨_, same⟩ | ⟨idx, _, ⟨_, _, same⟩ | ⟨_, same⟩⟩
    · rw [same]
    · rw [same]
    · rw [same]
  unfold receiveRequest
  rw [marked]
  rcases resolveRoleConflict_cases agent (some controlling) with
    ⟨same, noConflict⟩ | ⟨isControlling, role, same⟩
  · rw [same, if_neg]
    rintro ⟨isControlling, role⟩
    exact noConflict ⟨congrArg some isControlling, role⟩
  · rw [same, if_pos ⟨Option.some.inj isControlling, role⟩]

theorem receiveResponse_cases (agent : IceAgent) (id : TransactionId) :
    (agent.pairOfTransaction id.bytes = none ∧ agent.receiveResponse id = agent) ∨
    exists idx pair, agent.pairOfTransaction id.bytes = some idx ∧
      agent.checkList[idx]? = some pair ∧ pair.transactionId = id.bytes ∧
      agent.receiveResponse id = agent.acknowledgePair idx := by
  unfold receiveResponse
  cases found : agent.pairOfTransaction id.bytes with
  | none => exact Or.inl ⟨rfl, rfl⟩
  | some idx =>
      rcases pairOfTransaction_some found with ⟨pair, inside, transaction⟩
      exact Or.inr ⟨idx, pair, rfl, inside, transaction, rfl⟩

theorem receiveResponse_role (agent : IceAgent) (id : TransactionId) :
    (agent.receiveResponse id).role = agent.role := by
  rcases receiveResponse_cases agent id with ⟨_, same⟩ | ⟨idx, pair, _, inside, _, same⟩
  · rw [same]
  · rw [same]
    rcases acknowledgePair_cases agent inside with
      ⟨_, same⟩ | ⟨_, _, _, same⟩ | ⟨_, _, _, best, chosen, _, _, same⟩
    · rw [same]
    · rw [same]
    · rw [same]

/-- The pairs after a request without nomination from a source address. -/
def markedBy (agent : IceAgent) (source : Address) : List PairEntry :=
  match agent.pairOfRemote source with
  | none => agent.checkList
  | some idx => agent.checkList.modify idx PairEntry.succeed

theorem mem_markedBy {agent : IceAgent} {source : Address} {later : PairEntry}
    (member : later ∈ agent.markedBy source) :
    exists pair, pair ∈ agent.checkList ∧ (later = pair ∨ later = pair.succeed) := by
  unfold markedBy at member
  cases found : agent.pairOfRemote source with
  | none =>
      rw [found] at member
      exact ⟨later, member, Or.inl rfl⟩
  | some idx =>
      rw [found] at member
      rcases List.mem_iff_getElem?.mp member with ⟨k, isLater⟩
      rw [List.getElem?_modify] at isLater
      rcases Option.map_eq_some_iff.mp isLater with ⟨pair, isPair, rfl⟩
      refine ⟨pair, List.mem_of_getElem? isPair, ?_⟩
      split_ifs
      · exact Or.inr rfl
      · exact Or.inl rfl

theorem getElem?_markedBy {agent : IceAgent} (source : Address) {k : Nat} {pair : PairEntry}
    (found : agent.checkList[k]? = some pair) :
    (agent.pairOfRemote source = some k ∧ (agent.markedBy source)[k]? = some pair.succeed) ∨
      (agent.pairOfRemote source ≠ some k ∧ (agent.markedBy source)[k]? = some pair) := by
  unfold markedBy
  cases search : agent.pairOfRemote source with
  | none => exact Or.inr ⟨nofun, found⟩
  | some idx =>
      by_cases here : idx = k
      · subst here
        exact Or.inl ⟨rfl, getElem?_modify_self PairEntry.succeed found⟩
      · exact Or.inr ⟨fun same => here (Option.some.inj same),
          (getElem?_modify_of_ne here).trans found⟩

/-- A controlling agent marks a pair on a request of a controlled one, and
nothing else. -/
theorem receiveRequest_controlling {agent : IceAgent} (role : agent.role = .controlling)
    (useCandidate : Bool) (source : Address) :
    agent.receiveRequest false useCandidate source =
      { agent with checkList := agent.markedBy source, state := contacted agent.state } := by
  have resolved : agent.resolveRoleConflict (some false) = agent := by
    simp [resolveRoleConflict, role, IceRole.isControlling]
  unfold receiveRequest markedBy
  rw [resolved, noteContact_eq]
  rcases markPair_cases agent useCandidate source with
    ⟨none, same⟩ | ⟨idx, found, ⟨_, isControlled, _⟩ | ⟨_, same⟩⟩
  · rw [same, none]
  · exact absurd (role.symm.trans isControlled) (by decide)
  · rw [same, found]

/-- A controlled agent marks the pair of a request, and completes when the
request nominates it. -/
theorem receiveRequest_controlled {agent : IceAgent} (role : agent.role = .controlled)
    (controlling useCandidate : Bool) (source : Address) :
    (agent.pairOfRemote source = none ∧
      agent.receiveRequest controlling useCandidate source =
        { agent with state := contacted agent.state }) ∨
    exists idx, agent.pairOfRemote source = some idx ∧
      ((useCandidate = true ∧ agent.receiveRequest controlling useCandidate source =
          { agent with
            checkList := agent.checkList.modify idx PairEntry.succeedNominated
            nominatedPairIdx := some idx
            nominatedPairConfirmed := true
            state := contacted (if agent.nominatedPairConfirmed then agent.state
              else .completed) }) ∨
        (useCandidate = false ∧ agent.receiveRequest controlling useCandidate source =
          { agent with
            checkList := agent.checkList.modify idx PairEntry.succeed
            state := contacted agent.state })) := by
  have resolved : agent.resolveRoleConflict (some controlling) = agent := by
    simp [resolveRoleConflict, role, IceRole.isControlling]
  unfold receiveRequest
  rw [resolved, noteContact_eq]
  rcases markPair_cases agent useCandidate source with
    ⟨none, same⟩ | ⟨idx, found, ⟨chosen, _, same⟩ | ⟨notChosen, same⟩⟩
  · rw [same]
    exact Or.inl ⟨none, rfl⟩
  · rw [same]
    exact Or.inr ⟨idx, found, Or.inl ⟨chosen, rfl⟩⟩
  · rw [same]
    refine Or.inr ⟨idx, found, Or.inr ⟨?_, rfl⟩⟩
    rw [← Bool.not_eq_true]
    intro chosen
    exact notChosen ⟨chosen, role⟩

/-- A controlled agent marks the pair of a response, and nothing else. -/
theorem acknowledgePair_controlled {agent : IceAgent} (role : agent.role = .controlled) {idx : Nat}
    {pair : PairEntry} (found : agent.checkList[idx]? = some pair) :
    agent.acknowledgePair idx = { agent with
      checkList := agent.checkList.modify idx PairEntry.succeed
      state := acknowledged agent.state } := by
  rcases acknowledgePair_cases agent found with
    ⟨_, same⟩ | ⟨isControlling, _⟩ | ⟨isControlling, _⟩
  · exact same
  · exact absurd (role.symm.trans isControlling) (by decide)
  · exact absurd (role.symm.trans isControlling) (by decide)

end IceAgent

/-! ## Grounded sessions -/

/-- Every datagram in flight encodes its message, and the agents are still
those that were set up for this session. -/
structure Grounded (setting : Setting) (session : Session) : Prop where
  encodes : forall datagram, datagram ∈ session.flight -> datagram.Encodes setting
  setup : forall side, (session.agent side).setup = (setting.described side).setup
  sound : forall side, (session.agent side).NominationSound
  targets : forall side, (session.agent side).checkList.map PairEntry.target =
    ((setting.described side).startChecks.1).checkList.map PairEntry.target

/-- The datagram that answers a request. -/
def responseDatagram (receiver : Side) (id : TransactionId) (source : Address) : Datagram where
  sender := receiver
  message := .response id
  data := stunHeader STUN_BINDING_SUCCESS 0 id.bytes
  target := source

/-- The steps of a session in terms of messages. -/
inductive Move (setting : Setting) (before : Session) : NetworkEvent -> Session -> Prop
  | tick (side : Side) (now : Nat) :
      Move setting before (.tick side now) (before.tickAt setting side now)
  | request {index : Nat} {source : Address} {datagram : Datagram}
      {controlling useCandidate : Bool} {id : TransactionId}
      (inFlight : before.flight[index]? = some datagram)
      (meant : datagram.message = .request controlling useCandidate id) :
      Move setting before (.deliver index source)
        (before.received index datagram
          ((before.agent datagram.sender.other).receiveRequest controlling useCandidate source)
          [responseDatagram datagram.sender.other id source])
  | response {index : Nat} {source : Address} {datagram : Datagram} {id : TransactionId}
      (inFlight : before.flight[index]? = some datagram)
      (meant : datagram.message = .response id) :
      Move setting before (.deliver index source)
        (before.received index datagram
          ((before.agent datagram.sender.other).receiveResponse id) [])
  | duplicate {index : Nat} {datagram : Datagram}
      (inFlight : before.flight[index]? = some datagram) :
      Move setting before (.duplicate index)
        { before with flight := before.flight ++ [datagram] }
  | lose {index : Nat} {datagram : Datagram}
      (inFlight : before.flight[index]? = some datagram) :
      Move setting before (.lose index) { before with flight := before.flight.eraseIdx index }

namespace Grounded

variable {setting : Setting} {session : Session}

theorem ufrags (grounded : Grounded setting session) (side : Side) :
    (session.agent side).localUfrag = setting.ufrag side ∧
      (session.agent side).remoteUfrag = setting.ufrag side.other := by
  have same := grounded.setup side
  simp only [IceAgent.setup, IceAgent.Setup.mk.injEq] at same
  rw [same.1, same.2.2.2.2.2.1]
  exact setting.described_ufrags side

/-- Every step of a grounded session is a move. -/
theorem move (grounded : Grounded setting session) {event : NetworkEvent} {after : Session}
    (step : session.apply setting event = some after) : Move setting session event after := by
  cases event with
  | tick side now =>
      cases step
      exact .tick side now
  | deliver index source =>
      cases inFlight : session.flight[index]? with
      | none =>
          simp only [Session.apply, inFlight] at step
          cases step
      | some datagram =>
          have encoded := grounded.encodes datagram (List.mem_of_getElem? inFlight)
          have known := grounded.ufrags datagram.sender.other
          rw [Side.other_other] at known
          unfold Datagram.Encodes at encoded
          cases meant : datagram.message with
          | request controlling useCandidate id =>
              rw [meant] at encoded
              rcases encoded with ⟨fields, isUsername, rfl, rfl, rfl, isData⟩
              have handled := IceAgent.handle_request isUsername known.1 known.2 source
              simp only [Session.apply, inFlight, isData, handled] at step
              cases step
              simp only [List.map_cons, List.map_nil]
              have answer : answerDatagram datagram
                  ⟨stunHeader STUN_BINDING_SUCCESS 0 fields.transactionId.bytes, source.ip,
                    source.port⟩ =
                  responseDatagram datagram.sender.other fields.transactionId source := by
                simp only [answerDatagram, responseDatagram, meant]
                rfl
              rw [answer]
              exact .request inFlight meant
          | response id =>
              rw [meant] at encoded
              have handled := IceAgent.handle_response
                (session.agent datagram.sender.other) id source
              simp only [Session.apply, inFlight, encoded, handled] at step
              cases step
              exact .response inFlight meant
  | duplicate index =>
      cases inFlight : session.flight[index]? with
      | none =>
          simp only [Session.apply, inFlight] at step
          cases step
      | some datagram =>
          simp only [Session.apply, inFlight, Option.map_some] at step
          cases step
          exact .duplicate inFlight
  | lose index =>
      cases inFlight : session.flight[index]? with
      | none =>
          simp only [Session.apply, inFlight] at step
          cases step
      | some datagram =>
          simp only [Session.apply, inFlight, Option.map_some] at step
          cases step
          exact .lose inFlight

/-- The requests of a round encode the messages they are labelled with. -/
theorem encodes_check (grounded : Grounded setting session) (side : Side) (now : Nat)
    {check : IceAgent.SentCheck}
    (sent : check ∈ ((session.agent side).tickChecks setting.crypto setting.ids session.drawn
      now).2.1) : (checkDatagram side check).Encodes setting := by
  have known := grounded.ufrags side
  rcases IceAgent.tickChecks_cases setting.crypto setting.ids session.drawn (session.agent side)
    now with ⟨_, same⟩ | ⟨_, state, _, same⟩
  · rw [same] at sent
    cases sent
  · rw [same] at sent
    rcases IceAgent.tickPairs_checks setting.crypto setting.ids (session.agent side) now 0 _ _ check
      sent with ⟨k, pair, m, _, _, _, _, rfl, _⟩
    have isUsername : (session.agent side).remoteUfrag ++ ":" ++ (session.agent side).localUfrag =
        setting.username side := by
      rw [known.1, known.2]
      rfl
    refine ⟨{ username := setting.username side
              priority := pair.localCand.priority
              controlling := (session.agent side).role.isControlling
              tieBreaker := (session.agent side).tieBreaker
              useCandidate := pair.nominated
              remotePwd := if (session.agent side).remotePwd = "" then none
                else some (session.agent side).remotePwd
              transactionId := setting.ids m
              username_fits := lt_of_le_of_lt (setting.username_fits side) (by decide) },
      rfl, rfl, rfl, rfl, ?_⟩
    simp only [checkDatagram, IceAgent.sendCheck, IceAgent.checkRequest, RequestFields.build,
      isUsername]

/-- Replace one agent by one that keeps what the session was set up with. -/
theorem withAgent (grounded : Grounded setting session) (side : Side) {agent : IceAgent}
    (setup : agent.setup = (session.agent side).setup) (sound : agent.NominationSound)
    (targets : agent.checkList.map PairEntry.target =
      (session.agent side).checkList.map PairEntry.target) :
    (forall other, ((session.withAgent side agent).agent other).setup =
        (setting.described other).setup) ∧
      (forall other, ((session.withAgent side agent).agent other).NominationSound) ∧
      forall other, ((session.withAgent side agent).agent other).checkList.map PairEntry.target =
        ((setting.described other).startChecks.1).checkList.map PairEntry.target := by
  refine ⟨?_, ?_, ?_⟩
  · intro other
    by_cases same : other = side
    · subst same
      rw [Session.withAgent_self]
      exact setup.trans (grounded.setup other)
    · rw [Session.withAgent_of_ne _ _ same]
      exact grounded.setup other
  · intro other
    by_cases same : other = side
    · subst same
      rw [Session.withAgent_self]
      exact sound
    · rw [Session.withAgent_of_ne _ _ same]
      exact grounded.sound other
  · intro other
    by_cases same : other = side
    · subst same
      rw [Session.withAgent_self]
      exact targets.trans (grounded.targets other)
    · rw [Session.withAgent_of_ne _ _ same]
      exact grounded.targets other

/-- A delivery whose answers encode their messages keeps the session grounded. -/
theorem received (grounded : Grounded setting session) (index : Nat) (datagram : Datagram)
    {data : Bytes} {source : Address} {agent : IceAgent} {result : HandleDataResult}
    {answers : List Datagram}
    (handled : (session.agent datagram.sender.other).handleIncomingData data source =
      .ok (agent, result))
    (encoded : forall answer, answer ∈ answers -> answer.Encodes setting) :
    Grounded setting (session.received index datagram agent answers) := by
  have kept := grounded.withAgent datagram.sender.other
    (IceAgent.handleIncomingData_setup handled)
    ((grounded.sound datagram.sender.other).handleIncomingData handled)
    (IceAgent.handleIncomingData_pairs handled).targets
  have agents : (session.received index datagram agent answers).agent =
      (session.withAgent datagram.sender.other agent).agent := by
    simp [Session.received]
  refine ⟨?_, ?_, ?_, ?_⟩
  · intro other member
    rw [Session.received_flight] at member
    rcases List.mem_append.mp member with old | new
    · exact grounded.encodes other (List.mem_of_mem_eraseIdx old)
    · exact encoded other new
  · rw [agents]
    exact kept.1
  · rw [agents]
    exact kept.2.1
  · rw [agents]
    exact kept.2.2

theorem started (setting : Setting) : Grounded setting setting.started where
  encodes := by
    intro datagram member
    cases member
  setup := fun side => IceAgent.startChecks_setup _
  sound := fun side => ((IceAgent.NominationSound.new _ _).configure
    (setting.described_configures side)).startChecks
  targets := fun side => rfl

/-- Every move keeps the session grounded. -/
theorem preserved (grounded : Grounded setting session) {event : NetworkEvent} {after : Session}
    (move : Move setting session event after) : Grounded setting after := by
  cases move with
  | tick side now =>
      have kept := grounded.withAgent side
        (IceAgent.tickChecks_setup setting.crypto setting.ids (session.agent side) session.drawn now)
        ((grounded.sound side).tickChecks setting.crypto setting.ids session.drawn now) (by
          rcases IceAgent.tickChecks_cases setting.crypto setting.ids session.drawn
            (session.agent side) now with ⟨_, same⟩ | ⟨_, state, _, same⟩
          · rw [same]
          · rw [same]
            exact IceAgent.map_tickPairs_eq _ _ IceAgent.target_pairAfterCheck _ _ _ _ _)
      refine ⟨?_, kept.1, kept.2.1, kept.2.2⟩
      intro datagram member
      rcases List.mem_append.mp member with old | new
      · exact grounded.encodes datagram old
      · rcases List.mem_map.mp new with ⟨check, sent, rfl⟩
        exact grounded.encodes_check side now sent
  | @request index source datagram controlling useCandidate id inFlight meant =>
      have encoded := grounded.encodes datagram (List.mem_of_getElem? inFlight)
      have known := grounded.ufrags datagram.sender.other
      rw [Side.other_other] at known
      unfold Datagram.Encodes at encoded
      rw [meant] at encoded
      rcases encoded with ⟨fields, isUsername, rfl, rfl, rfl, isData⟩
      apply grounded.received index datagram
        (IceAgent.handle_request isUsername known.1 known.2 source)
      intro answer isAnswer
      rw [List.mem_singleton.mp isAnswer]
      rfl
  | @response index source datagram id inFlight meant =>
      apply grounded.received index datagram
        (IceAgent.handle_response (session.agent datagram.sender.other) id source)
      intro answer isAnswer
      cases isAnswer
  | duplicate inFlight =>
      refine ⟨?_, grounded.setup, grounded.sound, grounded.targets⟩
      intro other member
      rcases List.mem_append.mp member with old | new
      · exact grounded.encodes other old
      · rw [List.mem_singleton.mp new]
        exact grounded.encodes _ (List.mem_of_getElem? inFlight)
  | lose inFlight =>
      refine ⟨?_, grounded.setup, grounded.sound, grounded.targets⟩
      intro other member
      exact grounded.encodes other (List.mem_of_mem_eraseIdx member)

end Grounded

/-! ## The invariant rule over moves -/

namespace Session

variable {setting : Setting} {allowed : Session -> NetworkEvent -> Prop}

theorem grounded_of_reachable {session : Session}
    (reachable : (sessionSystem setting).Reachable session) : Grounded setting session := by
  refine TransitionSystem.Reachable.invariant (Grounded setting) reachable ?_ ?_
  · rintro start ⟨rfl, _⟩
    exact Grounded.started setting
  · intro before event after grounded step
    exact grounded.preserved (grounded.move step)

/-- What holds at the start and is kept by every allowed move of a grounded
session holds in every session that allowed events lead to. -/
theorem invariant_of_moves (holds : Session -> Prop) {session : Session}
    (reachable : ((sessionSystem setting).restrict allowed).Reachable session)
    (initially : holds setting.started)
    (preserved : forall before event after, allowed before event -> Grounded setting before ->
      holds before -> Move setting before event after -> holds after) : holds session := by
  refine TransitionSystem.Reachable.invariant_of_reachable holds reachable ?_ ?_
  · rintro start ⟨rfl, _⟩
    exact initially
  · intro before event after earlier held step
    have grounded := grounded_of_reachable earlier.of_restrict
    exact preserved before event after step.1 grounded held (grounded.move step.2)

/-! ## What a move does to one agent and to the flight -/

section Effects

variable {setting : Setting} {before after : Session} {event : NetworkEvent}

/-- Nothing reaches a side from its peer in this event. -/
def NothingFrom (before : Session) (sender : Side) (event : NetworkEvent) : Prop :=
  forall index source datagram, event = .deliver index source ->
    before.flight[index]? = some datagram -> datagram.sender ≠ sender

/-- A move leaves an agent alone, or is its tick, or delivers a message of its
peer to it. -/
theorem agent_of_move (move : Move setting before event after) (side : Side) :
    (NothingFrom before side.other event ∧ after.agent side = before.agent side) ∨
    (exists now, event = .tick side now ∧ after.agent side =
      ((before.agent side).tickChecks setting.crypto setting.ids before.drawn now).1) ∨
    (exists index source datagram controlling useCandidate id, event = .deliver index source ∧
      before.flight[index]? = some datagram ∧ datagram.sender = side.other ∧
      datagram.message = .request controlling useCandidate id ∧
      after.agent side = (before.agent side).receiveRequest controlling useCandidate source) ∨
    exists index source datagram id, event = .deliver index source ∧
      before.flight[index]? = some datagram ∧ datagram.sender = side.other ∧
      datagram.message = .response id ∧
      after.agent side = (before.agent side).receiveResponse id := by
  cases move with
  | tick mover now =>
      by_cases same : side = mover
      · subst same
        exact Or.inr (Or.inl ⟨now, rfl, tickAt_self ..⟩)
      · rw [Side.eq_other same]
        refine Or.inl ⟨?_, tickAt_other ..⟩
        intro index source datagram contrary
        cases contrary
  | @request index source datagram controlling useCandidate id inFlight meant =>
      by_cases same : side = datagram.sender
      · rw [same]
        refine Or.inl ⟨?_, received_sender ..⟩
        intro delivered arrived found isEvent isFound
        cases isEvent
        cases inFlight.symm.trans isFound
        exact (Side.other_ne _).symm
      · rw [Side.eq_other same]
        refine Or.inr (Or.inr (Or.inl ⟨index, source, datagram, controlling, useCandidate, id, rfl,
          inFlight, (Side.other_other _).symm, meant, received_receiver ..⟩))
  | @response index source datagram id inFlight meant =>
      by_cases same : side = datagram.sender
      · rw [same]
        refine Or.inl ⟨?_, received_sender ..⟩
        intro delivered arrived found isEvent isFound
        cases isEvent
        cases inFlight.symm.trans isFound
        exact (Side.other_ne _).symm
      · rw [Side.eq_other same]
        refine Or.inr (Or.inr (Or.inr ⟨index, source, datagram, id, rfl, inFlight,
          (Side.other_other _).symm, meant, received_receiver ..⟩))
  | duplicate inFlight =>
      refine Or.inl ⟨?_, rfl⟩
      intro index source datagram contrary
      cases contrary
  | lose inFlight =>
      refine Or.inl ⟨?_, rfl⟩
      intro index source datagram contrary
      cases contrary

/-- What is in flight after a move was so before, or is a request of a tick, or
answers the request that was delivered. -/
theorem flight_of_move (move : Move setting before event after) {datagram : Datagram}
    (member : datagram ∈ after.flight) :
    datagram ∈ before.flight ∨
    (exists side now check, event = .tick side now ∧
      check ∈ ((before.agent side).tickChecks setting.crypto setting.ids before.drawn now).2.1 ∧
      datagram = checkDatagram side check) ∨
    exists index source request controlling useCandidate id, event = .deliver index source ∧
      before.flight[index]? = some request ∧
      request.message = .request controlling useCandidate id ∧
      datagram = responseDatagram request.sender.other id source := by
  cases move with
  | tick side now =>
      rcases List.mem_append.mp member with old | new
      · exact Or.inl old
      · rcases List.mem_map.mp new with ⟨check, sent, rfl⟩
        exact Or.inr (Or.inl ⟨side, now, check, rfl, sent, rfl⟩)
  | request inFlight meant =>
      rw [received_flight] at member
      rcases List.mem_append.mp member with old | new
      · exact Or.inl (List.mem_of_mem_eraseIdx old)
      · exact Or.inr (Or.inr ⟨_, _, _, _, _, _, rfl, inFlight, meant, List.mem_singleton.mp new⟩)
  | response inFlight meant =>
      rw [received_flight, List.append_nil] at member
      exact Or.inl (List.mem_of_mem_eraseIdx member)
  | duplicate inFlight =>
      rcases List.mem_append.mp member with old | new
      · exact Or.inl old
      · rw [List.mem_singleton.mp new]
        exact Or.inl (List.mem_of_getElem? inFlight)
  | lose inFlight => exact Or.inl (List.mem_of_mem_eraseIdx member)

end Effects

end Session

end P2pSdk
