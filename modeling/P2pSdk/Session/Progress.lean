import P2pSdk.Session.Selection

namespace P2pSdk

open Foundation

/-!
# Deliveries without loss

Every datagram is delivered once, from an address that its sender advertised.
A check then stays outstanding until its answer arrives: its request is in
flight, or the response to it is.  A request with USE-CANDIDATE finds a pair of
its receiver, because every advertised address is the target of a pair.
-/

/-- The addresses in the candidate lines of the description of a side. -/
def Setting.advertised (setting : Setting) (side : Side) : List Address :=
  (setting.party side).gathered.localSessionDescription.candidates.filterMap fun line =>
    (parseCandidateLine line).map IceCandidate.address

/-- Ticks in the order of time, and deliveries from advertised addresses. -/
def LossFree (setting : Setting) (before : Session) : NetworkEvent -> Prop
  | .tick side now => before.clock side ≤ now
  | .deliver index source => forall datagram, before.flight[index]? = some datagram ->
      source ∈ setting.advertised datagram.sender
  | .duplicate _ => False
  | .lose _ => False

instance (setting : Setting) (before : Session) (event : NetworkEvent) :
    Decidable (LossFree setting before event) :=
  match event with
  | .tick side now => inferInstanceAs (Decidable (before.clock side ≤ now))
  | .deliver index source =>
      inferInstanceAs (Decidable (forall datagram, before.flight[index]? = some datagram ->
        source ∈ setting.advertised datagram.sender))
  | .duplicate _ => .isFalse id
  | .lose _ => .isFalse id

namespace IceAgent

/-! ## Advertised addresses become targets -/

theorem addRemoteCand_address (agent : IceAgent) (cand : IceCandidate) (address : Address)
    (known : address ∈ agent.remoteCandidates.map IceCandidate.address ∨ address = cand.address) :
    address ∈ (agent.addRemoteCand cand).remoteCandidates.map IceCandidate.address := by
  unfold addRemoteCand
  by_cases present : agent.remoteCandidates.any (fun known => known.address == cand.address)
  · rw [if_pos present]
    rcases known with old | rfl
    · exact old
    · rcases List.any_eq_true.mp present with ⟨same, member, equal⟩
      exact List.mem_map.mpr ⟨same, member, eq_of_beq equal⟩
  · rw [if_neg present]
    dsimp only
    rw [List.map_append]
    rcases known with old | rfl
    · exact List.mem_append_left _ old
    · exact List.mem_append_right _ (List.mem_singleton_self _)

theorem setRemoteSessionDescription_address (agent : IceAgent) (desc : IceSessionDescription)
    {address : Address}
    (advertised : address ∈ desc.candidates.filterMap fun line =>
      (parseCandidateLine line).map IceCandidate.address) :
    address ∈ (agent.setRemoteSessionDescription desc).remoteCandidates.map
      IceCandidate.address := by
  have lines : forall (lines : List String) (agent : IceAgent),
      (address ∈ agent.remoteCandidates.map IceCandidate.address ∨
        address ∈ lines.filterMap fun line =>
          (parseCandidateLine line).map IceCandidate.address) ->
      address ∈ (lines.foldl addRemoteCandidate agent).remoteCandidates.map
        IceCandidate.address := by
    intro lines
    induction lines with
    | nil =>
        rintro agent (old | contrary)
        · exact old
        · cases contrary
    | cons line rest ih =>
        intro agent known
        rw [List.foldl_cons]
        apply ih
        unfold addRemoteCandidate
        cases parsed : parseCandidateLine line with
        | none =>
            rw [List.filterMap_cons_none (by rw [parsed]; rfl)] at known
            exact known
        | some cand =>
            rw [List.filterMap_cons_some (by rw [parsed]; rfl)] at known
            rcases known with old | new
            · exact Or.inl (addRemoteCand_address agent cand address (Or.inl old))
            · rcases List.mem_cons.mp new with isCand | later
              · exact Or.inl (addRemoteCand_address agent cand address (Or.inr isCand))
              · exact Or.inr later
  exact lines _ _ (Or.inr advertised)

/-- Every remote candidate of a started agent is the target of a pair. -/
theorem startChecks_targets {agent : IceAgent} (started : agent.startChecks.2 = .ok ())
    {address : Address}
    (known : address ∈ agent.remoteCandidates.map IceCandidate.address) :
    address ∈ agent.startChecks.1.checkList.map PairEntry.target := by
  rcases startChecks_ok started with ⟨_, hasLocal, _, same⟩
  rcases List.mem_map.mp known with ⟨remoteCand, isRemote, rfl⟩
  rcases List.exists_mem_of_ne_nil _ hasLocal with ⟨localCand, isLocal⟩
  rw [same]
  apply List.mem_map.mpr
  refine ⟨freshPair agent.role localCand remoteCand, ?_, rfl⟩
  apply (List.mem_insertionSort _).mpr
  apply List.mem_flatMap.mpr
  exact ⟨localCand, isLocal, List.mem_map.mpr ⟨remoteCand, isRemote, rfl⟩⟩

/-! ## Completion is final -/

/-- A completed agent stays completed, and no message closes an agent. -/
structure Advances (before after : IceState) : Prop where
  completed : before = .completed -> after = .completed
  running : before ≠ .closed -> after ≠ .closed

theorem Advances.refl (state : IceState) : Advances state state := ⟨id, id⟩

theorem Advances.complete (state : IceState) : Advances state .completed :=
  ⟨fun _ => rfl, fun _ => by decide⟩

theorem Advances.contacted (state : IceState) : Advances state (contacted state) := by
  refine ⟨?_, ?_⟩
  · rintro rfl
    rfl
  · intro running
    unfold IceAgent.contacted
    split_ifs
    · decide
    · exact running

theorem Advances.acknowledged (state : IceState) : Advances state (acknowledged state) := by
  refine ⟨?_, ?_⟩
  · rintro rfl
    rfl
  · intro running
    unfold IceAgent.acknowledged
    split_ifs
    · decide
    · exact running

theorem tickChecks_advances (crypto : Crypto) (ids : Nat -> TransactionId) (agent : IceAgent)
    (next now : Nat) : Advances agent.state (agent.tickChecks crypto ids next now).1.state := by
  rcases tickChecks_cases crypto ids next agent now with ⟨_, same⟩ | ⟨notDone, state, isState, same⟩
  · rw [same]
    exact .refl _
  · rw [same]
    refine ⟨?_, ?_⟩
    · intro completed
      exact absurd (Or.inl completed) notDone
    · intro running
      rcases isState with rfl | rfl
      · exact running
      · intro contrary
        cases contrary

theorem receiveRequest_advances (agent : IceAgent) (controlling useCandidate : Bool)
    (source : Address) :
    Advances agent.state (agent.receiveRequest controlling useCandidate source).state := by
  have marked : forall other : IceAgent,
      Advances other.state ((other.markPair useCandidate source).noteContact).state := by
    intro other
    rw [noteContact_eq]
    rcases markPair_cases other useCandidate source with
      ⟨_, same⟩ | ⟨idx, _, ⟨_, _, same⟩ | ⟨_, same⟩⟩
    · rw [same]
      exact .contacted _
    · rw [same]
      dsimp only
      split_ifs
      · exact .contacted _
      · exact .complete _
    · rw [same]
      exact .contacted _
  have resolved : (agent.resolveRoleConflict (some controlling)).state = agent.state := by
    rw [resolveRoleConflict_eq]
  rw [← resolved]
  exact marked _

theorem receiveResponse_advances (agent : IceAgent) (id : TransactionId) :
    Advances agent.state (agent.receiveResponse id).state := by
  rcases receiveResponse_cases agent id with ⟨_, same⟩ | ⟨idx, pair, _, inside, _, same⟩
  · rw [same]
    exact .refl _
  · rw [same]
    rcases acknowledgePair_cases agent inside with
      ⟨_, same⟩ | ⟨_, _, _, same⟩ | ⟨_, _, _, best, chosen, _, _, same⟩
    · rw [same]
      exact .acknowledged _
    · rw [same]
      exact .complete _
    · rw [same]
      exact .acknowledged _

/-! ## Transaction ids of the pairs -/

/-- The latest transaction id of each pair, empty for an unchecked one. -/
def transactionIds (agent : IceAgent) : List Bytes :=
  agent.checkList.map PairEntry.transactionId

theorem pair_of_transactionIds {agent : IceAgent} {k : Nat} {id : Bytes}
    (found : agent.transactionIds[k]? = some id) :
    exists pair, agent.checkList[k]? = some pair ∧ pair.transactionId = id := by
  unfold transactionIds at found
  rw [List.getElem?_map] at found
  exact Option.map_eq_some_iff.mp found

theorem transactionIds_modify (agent : IceAgent) (i : Nat) {update : PairEntry -> PairEntry}
    (keeps : forall pair, (update pair).transactionId = pair.transactionId) :
    (agent.updatePair i update).transactionIds = agent.transactionIds := by
  apply map_modify_eq
  exact keeps

theorem receiveRequest_transactionIds (agent : IceAgent) (controlling useCandidate : Bool)
    (source : Address) :
    (agent.receiveRequest controlling useCandidate source).transactionIds =
      agent.transactionIds := by
  have marked : forall other : IceAgent,
      ((other.markPair useCandidate source).noteContact).transactionIds = other.transactionIds := by
    intro other
    rw [noteContact_eq]
    rcases markPair_cases other useCandidate source with
      ⟨_, same⟩ | ⟨idx, _, ⟨_, _, same⟩ | ⟨_, same⟩⟩
    · rw [same]
      rfl
    · rw [same]
      apply other.transactionIds_modify idx
      intro pair
      rfl
    · rw [same]
      apply other.transactionIds_modify idx
      intro pair
      rfl
  have resolved : (agent.resolveRoleConflict (some controlling)).transactionIds =
      agent.transactionIds := by
    rw [resolveRoleConflict_eq]
    rfl
  exact (marked _).trans resolved

theorem receiveResponse_transactionIds (agent : IceAgent) (id : TransactionId) :
    (agent.receiveResponse id).transactionIds = agent.transactionIds := by
  have succeeds : forall idx,
      (agent.updatePair idx PairEntry.succeed).transactionIds = agent.transactionIds := by
    intro idx
    apply transactionIds_modify
    intro pair
    rfl
  rcases receiveResponse_cases agent id with ⟨_, same⟩ | ⟨idx, pair, _, inside, _, same⟩
  · rw [same]
  · rw [same]
    rcases acknowledgePair_cases agent inside with
      ⟨_, same⟩ | ⟨_, _, _, same⟩ | ⟨_, _, _, best, chosen, _, _, same⟩
    · rw [same]
      exact succeeds idx
    · rw [same]
      exact succeeds idx
    · rw [same]
      refine Eq.trans ?_ (succeeds idx)
      apply (agent.updatePair idx PairEntry.succeed).transactionIds_modify best
      intro pair
      rfl

/-- What a tick does to one pair: nothing, or it sends a request for it under a
newly drawn id. -/
def TickAt (crypto : Crypto) (ids : Nat -> TransactionId) (agent : IceAgent) (next now k : Nat)
    (pair later : PairEntry) : Prop :=
  later = pair ∨
  exists m, next ≤ m ∧ m < (agent.tickChecks crypto ids next now).2.2 ∧
    agent.skipsPair now k pair = false ∧ later = pairAfterCheck pair now (ids m) ∧
    sendCheck crypto agent now k pair (ids m) ∈ (agent.tickChecks crypto ids next now).2.1

section Ticks

variable (crypto : Crypto) (ids : Nat -> TransactionId) (agent : IceAgent) (next now : Nat)

theorem tickChecks_kept :
    (agent.tickChecks crypto ids next now).1.nominatedPairIdx = agent.nominatedPairIdx ∧
      (agent.tickChecks crypto ids next now).1.nominatedPairConfirmed =
        agent.nominatedPairConfirmed := by
  rcases tickChecks_cases crypto ids next agent now with ⟨_, same⟩ | ⟨_, state, _, same⟩
  · rw [same]
    exact ⟨rfl, rfl⟩
  · rw [same]
    exact ⟨rfl, rfl⟩

theorem tickChecks_length :
    (agent.tickChecks crypto ids next now).1.checkList.length = agent.checkList.length := by
  rcases tickChecks_cases crypto ids next agent now with ⟨_, same⟩ | ⟨_, state, _, same⟩
  · rw [same]
  · rw [same]
    exact (tickPairs_pairs crypto ids agent now 0 agent.checkList next).2.1

theorem tickChecks_pair {k : Nat} {pair : PairEntry} (found : agent.checkList[k]? = some pair) :
    exists later, (agent.tickChecks crypto ids next now).1.checkList[k]? = some later ∧
      TickAt crypto ids agent next now k pair later := by
  unfold TickAt
  rcases tickChecks_cases crypto ids next agent now with ⟨_, same⟩ | ⟨_, state, _, same⟩
  · rw [same]
    exact ⟨pair, found, Or.inl rfl⟩
  · rw [same]
    cases checked : agent.skipsPair now k pair with
    | false =>
        have here : agent.skipsPair now (0 + k) pair = false := by
          rw [Nat.zero_add]
          exact checked
        rcases tickPairs_sends crypto ids agent now 0 _ next k pair found here with
          ⟨m, low, high, sent, isLater⟩
        rw [Nat.zero_add] at sent
        exact ⟨_, isLater, Or.inr ⟨m, low, high, rfl, rfl, sent⟩⟩
    | true =>
        rcases (tickPairs_pairs crypto ids agent now 0 agent.checkList next).2.2 k pair found with
          ⟨later, isLater, ⟨_, unchanged⟩ | ⟨m, _, _, contrary, _⟩⟩
        · exact ⟨later, isLater, Or.inl unchanged⟩
        · rw [Nat.zero_add, checked] at contrary
          cases contrary

theorem tickChecks_later {k : Nat} {later : PairEntry}
    (found : (agent.tickChecks crypto ids next now).1.checkList[k]? = some later) :
    exists pair, agent.checkList[k]? = some pair ∧
      TickAt crypto ids agent next now k pair later := by
  have inside : k < agent.checkList.length := by
    rw [← tickChecks_length crypto ids agent next now]
    exact (List.getElem?_eq_some_iff.mp found).1
  rcases tickChecks_pair crypto ids agent next now (List.getElem?_eq_getElem inside) with
    ⟨same, isSame, tickAt⟩
  cases found.symm.trans isSame
  exact ⟨_, List.getElem?_eq_getElem inside, tickAt⟩

theorem tickChecks_sent {check : SentCheck}
    (sent : check ∈ (agent.tickChecks crypto ids next now).2.1) :
    exists k pair m, agent.checkList[k]? = some pair ∧ agent.skipsPair now k pair = false ∧
      next ≤ m ∧ m < (agent.tickChecks crypto ids next now).2.2 ∧
      check = sendCheck crypto agent now k pair (ids m) := by
  rcases tickChecks_cases crypto ids next agent now with ⟨_, same⟩ | ⟨_, state, _, same⟩
  · rw [same] at sent
    cases sent
  · rw [same] at sent ⊢
    rcases tickPairs_checks crypto ids agent now 0 _ next check sent with
      ⟨k, pair, m, found, checked, low, high, isCheck, _⟩
    rw [Nat.zero_add] at checked isCheck
    exact ⟨k, pair, m, found, checked, low, high, isCheck⟩

end Ticks

end IceAgent

/-- The side whose check a datagram belongs to. -/
def Datagram.opener (datagram : Datagram) : Side :=
  match datagram.message with
  | .request _ _ _ => datagram.sender
  | .response _ => datagram.sender.other

namespace Session

variable {setting : Setting} {before after : Session} {event : NetworkEvent}

theorem started_of_reachable {session : Session}
    (reachable : (sessionSystem setting).Reachable session) :
    forall side, (setting.described side).startChecks.2 = .ok () := by
  induction reachable with
  | start initially => exact initially.2
  | step _ _ ih => exact ih

/-- A request from an advertised address finds a pair. -/
theorem pairOfRemote_advertised {session : Session} (grounded : Grounded setting session)
    {side : Side} (started : (setting.described side).startChecks.2 = .ok ()) {source : Address}
    (advertised : source ∈ setting.advertised side.other) :
    exists idx, (session.agent side).pairOfRemote source = some idx := by
  cases search : (session.agent side).pairOfRemote source with
  | some idx => exact ⟨idx, rfl⟩
  | none =>
      have remote : source ∈ (setting.described side).remoteCandidates.map
          IceCandidate.address :=
        IceAgent.setRemoteSessionDescription_address _ _ advertised
      have isTarget := IceAgent.startChecks_targets started remote
      rw [← grounded.targets side] at isTarget
      rcases List.mem_map.mp isTarget with ⟨pair, member, same⟩
      exact absurd same (IceAgent.pairOfRemote_none.mp search pair member)

theorem advances_of_move (move : Move setting before event after) (side : Side) :
    IceAgent.Advances (before.agent side).state (after.agent side).state := by
  rcases agent_of_move move side with ⟨_, same⟩ | ⟨now, _, same⟩ |
    ⟨_, _, _, _, _, _, _, _, _, _, same⟩ | ⟨_, _, _, _, _, _, _, _, same⟩
  · rw [same]
    exact .refl _
  · rw [same]
    apply IceAgent.tickChecks_advances
  · rw [same]
    apply IceAgent.receiveRequest_advances
  · rw [same]
    apply IceAgent.receiveResponse_advances

/-! ## Outstanding checks -/

/-- A request of a side under this transaction id, or the response to it, is in flight. -/
def Outstanding (session : Session) (side : Side) (id : Bytes) : Prop :=
  exists datagram, datagram ∈ session.flight ∧ datagram.opener = side ∧
    datagram.message.id.bytes = id

theorem mem_eraseIdx_or {datagram delivered : Datagram} {flight : List Datagram} {index : Nat}
    (member : datagram ∈ flight) (inFlight : flight[index]? = some delivered) :
    datagram ∈ flight.eraseIdx index ∨ datagram = delivered := by
  rcases List.mem_iff_getElem?.mp member with ⟨k, found⟩
  by_cases here : k = index
  · subst here
    exact Or.inr (Option.some.inj (found.symm.trans inFlight))
  · exact Or.inl (List.mem_eraseIdx_iff_getElem?.mpr ⟨k, here, found⟩)

/-- The event delivers the response to a check of a side. -/
def Answers (before : Session) (event : NetworkEvent) (side : Side) (id : TransactionId) : Prop :=
  exists index source datagram, event = .deliver index source ∧
    before.flight[index]? = some datagram ∧ datagram.sender = side.other ∧
    datagram.message = .response id

theorem Answers.unique {side : Side} {first second : TransactionId}
    (one : before.Answers event side first) (other : before.Answers event side second) :
    first = second := by
  rcases one with ⟨index, source, datagram, rfl, inFlight, _, meant⟩
  rcases other with ⟨_, _, _, isEvent, inFlightToo, _, meantToo⟩
  cases isEvent
  cases inFlight.symm.trans inFlightToo
  cases meant.symm.trans meantToo
  rfl

theorem not_answers_tick {mover side : Side} {now : Nat} {id : TransactionId}
    (isEvent : event = .tick mover now) : ¬ before.Answers event side id := by
  rintro ⟨index, source, datagram, contrary, _⟩
  cases isEvent.symm.trans contrary

theorem not_answers_request {index : Nat} {source : Address} {datagram : Datagram} {side : Side}
    {controlling useCandidate : Bool} {asked id : TransactionId}
    (isEvent : event = .deliver index source) (inFlight : before.flight[index]? = some datagram)
    (meant : datagram.message = .request controlling useCandidate asked) :
    ¬ before.Answers event side id := by
  rintro ⟨_, _, _, isEventToo, inFlightToo, _, contrary⟩
  cases isEvent.symm.trans isEventToo
  cases inFlight.symm.trans inFlightToo
  cases meant.symm.trans contrary

theorem not_answers_nothing {side : Side} {id : TransactionId}
    (nothing : NothingFrom before side.other event) : ¬ before.Answers event side id := by
  rintro ⟨index, source, datagram, isEvent, inFlight, sender, _⟩
  exact nothing index source datagram isEvent inFlight sender

/-- An outstanding check stays outstanding until its response is delivered. -/
theorem outstanding_of_move {side : Side} {id : Bytes} (lossFree : LossFree setting before event)
    (move : Move setting before event after)
    (unanswered : forall answered, before.Answers event side answered -> answered.bytes ≠ id)
    (outstanding : before.Outstanding side id) : after.Outstanding side id := by
  rcases outstanding with ⟨datagram, member, opener, isId⟩
  cases move with
  | tick mover now =>
      exact ⟨datagram, List.mem_append_left _ member, opener, isId⟩
  | @request index source delivered controlling useCandidate answered inFlight meant =>
      rcases mem_eraseIdx_or member inFlight with kept | rfl
      · exact ⟨datagram, List.mem_append_left _ kept, opener, isId⟩
      · -- The answer takes the place of the request.
        refine ⟨_, List.mem_append_right _ (List.mem_singleton_self _), ?_, ?_⟩
        · rw [← opener]
          simp only [Datagram.opener, meant, responseDatagram, Side.other_other]
        · rw [← isId, meant]
          rfl
  | @response index source delivered answered inFlight meant =>
      rcases mem_eraseIdx_or member inFlight with kept | rfl
      · exact ⟨datagram, List.mem_append_left _ kept, opener, isId⟩
      · have sender : datagram.sender = side.other := by
          rw [← opener]
          simp only [Datagram.opener, meant, Side.other_other]
        apply absurd _ (unanswered answered ⟨index, source, datagram, rfl, inFlight, sender, meant⟩)
        rw [← isId, meant]
        rfl
  | duplicate inFlight => exact lossFree.elim
  | lose inFlight => exact lossFree.elim

/-- The request that a tick sent is outstanding. -/
theorem outstanding_sent {side : Side} {now : Nat} {check : IceAgent.SentCheck}
    (isEvent : event = .tick side now) (move : Move setting before event after)
    (sent : check ∈ ((before.agent side).tickChecks setting.crypto setting.ids before.drawn
      now).2.1) : after.Outstanding side check.transactionId.bytes := by
  cases isEvent
  cases move
  refine ⟨checkDatagram side check, ?_, rfl, rfl⟩
  exact List.mem_append_right _ (List.mem_map_of_mem sent)

/-! ## Drawn transaction ids -/

/-- A transaction id that has been drawn. -/
def Drawn (setting : Setting) (session : Session) (id : Bytes) : Prop :=
  exists m, m < session.drawn ∧ id = (setting.ids m).bytes

theorem drawn_of_move (move : Move setting before event after) : before.drawn ≤ after.drawn := by
  cases move with
  | tick side now =>
      rcases IceAgent.tickChecks_cases setting.crypto setting.ids before.drawn (before.agent side)
        now with ⟨_, same⟩ | ⟨_, state, _, same⟩
      · rw [tickAt_drawn, same]
      · rw [tickAt_drawn, same]
        exact (IceAgent.tickPairs_pairs ..).1
  | request inFlight meant => rw [received_drawn]
  | response inFlight meant => rw [received_drawn]
  | duplicate inFlight => exact Nat.le_refl _
  | lose inFlight => exact Nat.le_refl _

theorem Drawn.mono {id : Bytes} (drawn : before.Drawn setting id)
    (grows : before.drawn ≤ after.drawn) : after.Drawn setting id := by
  rcases drawn with ⟨m, below, same⟩
  exact ⟨m, below.trans_le grows, same⟩

/-- The ids in flight and those of the pairs of `a` have been drawn. -/
structure IdsDrawn (setting : Setting) (session : Session) : Prop where
  flight : forall datagram, datagram ∈ session.flight ->
    session.Drawn setting datagram.message.id.bytes
  pairs : forall id, id ∈ (session.agent .a).transactionIds -> id = [] ∨ session.Drawn setting id

theorem IdsDrawn.move (drawn : IdsDrawn setting before) (move : Move setting before event after) :
    IdsDrawn setting after := by
  have grows := drawn_of_move move
  refine ⟨?_, ?_⟩
  · intro datagram member
    rcases flight_of_move move member with old | ⟨side, now, check, isEvent, sent, rfl⟩ |
      ⟨index, source, request, _, _, id, _, inFlight, meant, rfl⟩
    · exact (drawn.flight datagram old).mono grows
    · rcases IceAgent.tickChecks_sent _ _ _ _ _ sent with ⟨k, pair, m, _, _, _, high, rfl⟩
      cases isEvent
      cases move
      exact ⟨m, high, rfl⟩
    · have earlier := drawn.flight request (List.mem_of_getElem? inFlight)
      rw [meant] at earlier
      exact earlier.mono grows
  · intro id member
    rcases agent_of_move move .a with ⟨_, same⟩ | ⟨now, isEvent, same⟩ |
      ⟨_, _, _, _, _, _, _, _, _, _, same⟩ | ⟨_, _, _, _, _, _, _, _, same⟩
    · rw [same] at member
      exact (drawn.pairs id member).imp_right fun old => old.mono grows
    · rw [same] at member
      rcases List.mem_map.mp member with ⟨later, isLater, rfl⟩
      rcases List.mem_iff_getElem?.mp isLater with ⟨k, found⟩
      rcases IceAgent.tickChecks_later _ _ _ _ _ found with
        ⟨pair, isPair, rfl | ⟨m, _, high, _, rfl, _⟩⟩
      · have old := drawn.pairs _ (List.mem_map_of_mem (List.mem_of_getElem? isPair))
        exact old.imp_right fun old => old.mono grows
      · cases isEvent
        cases move
        exact Or.inr ⟨m, high, IceAgent.pairAfterCheck_transactionId ..⟩
    · rw [same, IceAgent.receiveRequest_transactionIds] at member
      exact (drawn.pairs id member).imp_right fun old => old.mono grows
    · rw [same, IceAgent.receiveResponse_transactionIds] at member
      exact (drawn.pairs id member).imp_right fun old => old.mono grows

end Session

end P2pSdk
