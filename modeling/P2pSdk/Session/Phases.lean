import P2pSdk.Session.Progress

namespace P2pSdk

open Foundation

/-!
# The phases of a handshake

The controlling agent `a` goes through four phases.  It checks pairs until a
first response arrives, puts a pair forward, announces it with USE-CANDIDATE,
and completes.  In each phase something is outstanding or a later tick sends
something, so the handshake goes on.

Requests and responses that arrive at `a` can end this early.  A request that
marks the last unchecked pair leaves nothing to check, and a datagram that
marks the pair put forward before its announcement keeps it from being
announced.
-/

namespace IceAgent

/-- No pair has been checked. -/
def unchecked (agent : IceAgent) : Bool := agent.transactionIds.all fun id => id = []

/-- The pair has been put forward, and its request with USE-CANDIDATE has not
been sent. -/
def unannounced (agent : IceAgent) (idx : Nat) : Bool :=
  agent.nominatedPairIdx = some idx ∧ agent.nominatedPairConfirmed = false ∧
    agent.checkList[idx]?.any fun pair => pair.retransmitCount = 0

/-- A request would mark the last pair before any was checked, or a message
would mark the pair put forward before it is announced. -/
def disturbedBy (agent : IceAgent) (message : Message) (source : Address) : Bool :=
  match message with
  | .request _ _ _ =>
      match agent.pairOfRemote source with
      | none => false
      | some idx => agent.unannounced idx ∨ (agent.unchecked ∧
          (agent.checkList.modify idx PairEntry.succeed).all fun pair => pair.state = .succeeded)
  | .response id =>
      match agent.pairOfTransaction id.bytes with
      | none => false
      | some idx => agent.unannounced idx

theorem disturbedBy_request {agent : IceAgent} {source : Address} {idx : Nat}
    (controlling useCandidate : Bool) (id : TransactionId)
    (marked : agent.pairOfRemote source = some idx) :
    agent.disturbedBy (.request controlling useCandidate id) source =
      decide (agent.unannounced idx ∨ (agent.unchecked ∧
        (agent.checkList.modify idx PairEntry.succeed).all fun pair =>
          pair.state = .succeeded)) := by
  simp only [disturbedBy, marked]

theorem disturbedBy_response {agent : IceAgent} (source : Address) {id : TransactionId} {idx : Nat}
    (answered : agent.pairOfTransaction id.bytes = some idx) :
    agent.disturbedBy (.response id) source = agent.unannounced idx := by
  simp only [disturbedBy, answered]

/-- A controlled agent completes on a request with USE-CANDIDATE for a pair. -/
theorem receiveRequest_completes {agent : IceAgent} (role : agent.role = .controlled)
    (confirmed : agent.nominatedPairConfirmed = true -> agent.state = .completed)
    (controlling : Bool) {source : Address} (finds : exists idx, agent.pairOfRemote source = some idx) :
    (agent.receiveRequest controlling true source).state = .completed := by
  rcases finds with ⟨known, isKnown⟩
  rcases receiveRequest_controlled role controlling true source with
    ⟨contrary, _⟩ | ⟨idx, _, ⟨_, same⟩ | ⟨contrary, _⟩⟩
  · cases isKnown.symm.trans contrary
  · rw [same]
    dsimp only
    split_ifs with already
    · rw [confirmed already]
      rfl
    · rfl
  · cases contrary

theorem unchecked_iff {agent : IceAgent} :
    agent.unchecked = true ↔ forall id, id ∈ agent.transactionIds -> id = [] := by
  simp [unchecked]

end IceAgent

namespace Session

/-- No datagram that reaches `a` disturbs its nomination. -/
def Undisturbed (before : Session) (event : NetworkEvent) : Prop :=
  match event with
  | .deliver index source => forall datagram, before.flight[index]? = some datagram ->
      datagram.sender = .b -> (before.agent .a).disturbedBy datagram.message source = false
  | _ => True

instance (before : Session) (event : NetworkEvent) : Decidable (Undisturbed before event) :=
  match event with
  | .tick _ _ => .isTrue trivial
  | .deliver index source =>
      inferInstanceAs (Decidable (forall datagram, before.flight[index]? = some datagram ->
        datagram.sender = .b -> (before.agent .a).disturbedBy datagram.message source = false))
  | .duplicate _ => .isTrue trivial
  | .lose _ => .isTrue trivial

/-- Nothing is in flight, an agent has not completed, none has failed, and no
later tick sends anything. -/
structure Stuck (setting : Setting) (session : Session) : Prop where
  quiet : session.flight = []
  incomplete : exists side, (session.agent side).state ≠ .completed
  unfailed : forall side, (session.agent side).state ≠ .failed
  silent : forall side now, session.clock side < now ->
    ((session.agent side).tick setting.crypto setting.ids session.drawn now).2.1 = []

/-! ## The phases of the controlling agent -/

/-- No response has arrived.  Every check is outstanding, and some pair is
left to check as long as none was. -/
structure Checking (session : Session) : Prop where
  unset : (session.agent .a).nominatedPairIdx = none
  unconfirmed : (session.agent .a).nominatedPairConfirmed = false
  outstanding : forall id, id ∈ (session.agent .a).transactionIds -> id ≠ [] ->
    session.Outstanding .a id
  undecided : (session.agent .a).unchecked = true ->
    exists pair, pair ∈ (session.agent .a).checkList ∧ pair.state ≠ .succeeded
  waiting : forall pair, pair ∈ (session.agent .a).checkList -> pair.transactionId = [] ->
    pair.state = .waiting ∨ pair.state = .succeeded

/-- A pair has been put forward and waits for its announcement. -/
structure Pending (session : Session) (idx : Nat) (pair : PairEntry) : Prop where
  set : (session.agent .a).nominatedPairIdx = some idx
  unconfirmed : (session.agent .a).nominatedPairConfirmed = false
  found : (session.agent .a).checkList[idx]? = some pair
  unsent : pair.retransmitCount = 0
  unanswered : pair.state = .inProgress

/-- What a datagram of the announced check means: its request carries
USE-CANDIDATE, and its response is sent after `b` has completed. -/
def Announces (session : Session) (datagram : Datagram) : Prop :=
  match datagram.message with
  | .request _ useCandidate _ => useCandidate = true
  | .response _ => (session.agent .b).state = .completed

/-- The pair put forward has been announced, and its latest check is outstanding. -/
structure Announced (session : Session) (idx : Nat) (pair : PairEntry) : Prop where
  set : (session.agent .a).nominatedPairIdx = some idx
  unconfirmed : (session.agent .a).nominatedPairConfirmed = false
  found : (session.agent .a).checkList[idx]? = some pair
  outstanding : session.Outstanding .a pair.transactionId
  announces : forall datagram, datagram ∈ session.flight -> datagram.opener = .a ->
    datagram.message.id.bytes = pair.transactionId -> session.Announces datagram
  alone : forall k id, (session.agent .a).transactionIds[k]? = some id -> k ≠ idx ->
    id ≠ pair.transactionId

inductive Phase (session : Session) : Prop
  | checking (checking : Checking session)
  | pending (idx : Nat) (pair : PairEntry) (pending : Pending session idx pair)
  | announced (idx : Nat) (pair : PairEntry) (announced : Announced session idx pair)
  | completed (completed : forall side, (session.agent side).state = .completed)

/-! ## No phase is stuck -/

/-- A pair that is neither decided nor passed over for the nomination is
checked by a late enough tick. -/
theorem exists_tick_sends {setting : Setting} {session : Session} {k : Nat} {pair : PairEntry}
    (running : ¬ ((session.agent .a).state = .completed ∨ (session.agent .a).state = .failed ∨
      (session.agent .a).state = .closed))
    (found : (session.agent .a).checkList[k]? = some pair)
    (undecided : pair.state = .waiting ∨ pair.state = .inProgress)
    (unblocked : (session.agent .a).nominatedPairIdx = none ∨
      (session.agent .a).nominatedPairIdx = some k) : ¬ Stuck setting session := by
  intro stuck
  have later : session.clock .a <
      session.clock .a + pair.lastSentTimeMs + pair.retransmitTimerMs + 1 := by
    omega
  have silent := stuck.silent .a _ later
  have checked : (session.agent .a).skipsPair
      (session.clock .a + pair.lastSentTimeMs + pair.retransmitTimerMs + 1) (0 + k) pair =
      false := by
    unfold IceAgent.skipsPair
    rw [Nat.zero_add, decide_eq_false_iff_not]
    rintro (succeeded | failed | ⟨isSet, elsewhere⟩ | early)
    · rcases undecided with same | same
      · cases same.symm.trans succeeded
      · cases same.symm.trans succeeded
    · rcases undecided with same | same
      · cases same.symm.trans failed
      · cases same.symm.trans failed
    · rcases unblocked with same | same
      · rw [same] at isSet
        cases isSet
      · exact elsewhere same
    · omega
  rcases IceAgent.tickPairs_sends setting.crypto setting.ids (session.agent .a) _ 0 _ session.drawn
    k pair found checked with ⟨m, _, _, sent, _⟩
  rcases IceAgent.tickChecks_cases setting.crypto setting.ids session.drawn (session.agent .a)
    (session.clock .a + pair.lastSentTimeMs + pair.retransmitTimerMs + 1) with
    ⟨stopped, _⟩ | ⟨_, state, _, same⟩
  · exact running stopped
  · unfold IceAgent.tick at silent
    rw [same] at silent
    have none := List.map_eq_nil_iff.mp silent
    dsimp only at none
    rw [none] at sent
    cases sent

theorem Phase.not_stuck {setting : Setting} {session : Session} (phase : Phase session)
    (sound : (session.agent .a).NominationSound)
    (notClosed : (session.agent .a).state ≠ .closed) : ¬ Stuck setting session := by
  intro stuck
  have running : (session.agent .a).nominatedPairConfirmed = false ->
      ¬ ((session.agent .a).state = .completed ∨ (session.agent .a).state = .failed ∨
        (session.agent .a).state = .closed) := by
    rintro unconfirmed (completed | failed | closed)
    · cases unconfirmed.symm.trans (sound.completed completed).1
    · exact stuck.unfailed .a failed
    · exact notClosed closed
  have noneOutstanding : forall id, ¬ session.Outstanding .a id := by
    rintro id ⟨datagram, member, _⟩
    rw [stuck.quiet] at member
    cases member
  cases phase with
  | checking checking =>
      have allEmpty : forall id, id ∈ (session.agent .a).transactionIds -> id = [] := by
        intro id member
        by_contra nonempty
        exact noneOutstanding id (checking.outstanding id member nonempty)
      rcases checking.undecided (IceAgent.unchecked_iff.mpr allEmpty) with ⟨pair, member, left⟩
      rcases List.mem_iff_getElem?.mp member with ⟨k, found⟩
      rcases checking.waiting pair member (allEmpty _ (List.mem_map_of_mem member)) with
        waiting | succeeded
      · exact exists_tick_sends (running checking.unconfirmed) found (Or.inl waiting)
          (Or.inl checking.unset) stuck
      · exact left succeeded
  | pending idx pair pending =>
      exact exists_tick_sends (running pending.unconfirmed) pending.found (Or.inr pending.unanswered)
        (Or.inr pending.set) stuck
  | announced idx pair announced => exact noneOutstanding _ announced.outstanding
  | completed completed =>
      rcases stuck.incomplete with ⟨side, incomplete⟩
      exact incomplete (completed side)

/-! ## What keeps a phase -/

/-- A move of a grounded session that loses nothing and does not disturb the
nomination. -/
structure Proceeds (setting : Setting) (before : Session) (event : NetworkEvent)
    (after : Session) : Prop where
  move : Move setting before event after
  lossFree : LossFree setting before event
  undisturbed : Undisturbed before event
  grounded : Grounded setting before
  steady : Steady before
  drawn : IdsDrawn setting before
  confirmed : (before.agent .b).nominatedPairConfirmed = true ->
    (before.agent .b).state = .completed
  started : forall side, (setting.described side).startChecks.2 = .ok ()
  fresh : Set.InjOn setting.ids (Set.Iio after.drawn)

section Moves

variable {setting : Setting} {before after : Session} {event : NetworkEvent}

theorem Proceeds.outstanding (proceeds : Proceeds setting before event after) {id : Bytes}
    (unanswered : forall answered, before.Answers event .a answered -> answered.bytes ≠ id)
    (outstanding : before.Outstanding .a id) : after.Outstanding .a id :=
  outstanding_of_move proceeds.lossFree proceeds.move unanswered outstanding

/-- Nothing reaches `a`. -/
theorem Checking.idle (checking : Checking before)
    (proceeds : Proceeds setting before event after) (nothing : NothingFrom before .b event)
    (same : after.agent .a = before.agent .a) : Checking after := by
  refine ⟨?_, ?_, ?_, ?_, ?_⟩
  · rw [same]
    exact checking.unset
  · rw [same]
    exact checking.unconfirmed
  · intro id member nonempty
    rw [same] at member
    apply proceeds.outstanding
    · intro answered contrary
      exact absurd contrary (not_answers_nothing nothing)
    · exact checking.outstanding id member nonempty
  · rw [same]
    exact checking.undecided
  · rw [same]
    exact checking.waiting

/-- A tick of `a` keeps the first phase: what it checks is outstanding. -/
theorem Checking.tick {now : Nat} (checking : Checking before)
    (proceeds : Proceeds setting before event after) (isEvent : event = .tick .a now)
    (same : after.agent .a =
      ((before.agent .a).tickChecks setting.crypto setting.ids before.drawn now).1) :
    Checking after := by
  have kept := IceAgent.tickChecks_kept setting.crypto setting.ids (before.agent .a) before.drawn
    now
  refine ⟨?_, ?_, ?_, ?_, ?_⟩
  · rw [same, kept.1]
    exact checking.unset
  · rw [same, kept.2]
    exact checking.unconfirmed
  · intro id member nonempty
    rw [same] at member
    rcases List.mem_map.mp member with ⟨later, isLater, rfl⟩
    rcases List.mem_iff_getElem?.mp isLater with ⟨k, found⟩
    rcases IceAgent.tickChecks_later _ _ _ _ _ found with
      ⟨pair, isPair, rfl | ⟨m, _, _, _, rfl, sent⟩⟩
    · apply proceeds.outstanding
      · intro answered contrary
        exact absurd contrary (not_answers_tick isEvent)
      · exact checking.outstanding _ (List.mem_map_of_mem (List.mem_of_getElem? isPair)) nonempty
    · rw [IceAgent.pairAfterCheck_transactionId]
      exact outstanding_sent isEvent proceeds.move sent
  · -- Nothing was checked, so every pair is as before.
    intro unchecked
    have allEmpty := IceAgent.unchecked_iff.mp unchecked
    have unchanged : forall (k : Nat) (pair : PairEntry),
        (before.agent .a).checkList[k]? = some pair ->
        (after.agent .a).checkList[k]? = some pair := by
      intro k pair found
      rcases IceAgent.tickChecks_pair setting.crypto setting.ids (before.agent .a) before.drawn now
        found with ⟨later, isLater, rfl | ⟨m, _, _, _, rfl, _⟩⟩
      · rw [same]
        exact isLater
      · rw [← same] at isLater
        have empty := allEmpty _ (List.mem_map_of_mem (List.mem_of_getElem? isLater))
        rw [IceAgent.pairAfterCheck_transactionId] at empty
        exact absurd empty (TransactionId.bytes_ne_nil _)
    have wasUnchecked : (before.agent .a).unchecked = true := by
      apply IceAgent.unchecked_iff.mpr
      intro id member
      rcases List.mem_map.mp member with ⟨pair, isPair, rfl⟩
      rcases List.mem_iff_getElem?.mp isPair with ⟨k, found⟩
      exact allEmpty _ (List.mem_map_of_mem (List.mem_of_getElem? (unchanged k pair found)))
    rcases checking.undecided wasUnchecked with ⟨pair, member, left⟩
    rcases List.mem_iff_getElem?.mp member with ⟨k, found⟩
    exact ⟨pair, List.mem_of_getElem? (unchanged k pair found), left⟩
  · intro later isLater empty
    rw [same] at isLater
    rcases List.mem_iff_getElem?.mp isLater with ⟨k, found⟩
    rcases IceAgent.tickChecks_later _ _ _ _ _ found with
      ⟨pair, isPair, rfl | ⟨m, _, _, _, rfl, _⟩⟩
    · exact checking.waiting _ (List.mem_of_getElem? isPair) empty
    · rw [IceAgent.pairAfterCheck_transactionId] at empty
      exact absurd empty (TransactionId.bytes_ne_nil _)

/-- A request that does not mark the last unchecked pair keeps the first phase. -/
theorem Checking.request {controlling useCandidate : Bool} {id : TransactionId} {source : Address}
    (checking : Checking before) (proceeds : Proceeds setting before event after)
    (unanswered : forall answered, ¬ before.Answers event .a answered)
    (undisturbed : (before.agent .a).disturbedBy (.request controlling useCandidate id) source =
      false)
    (same : after.agent .a = (before.agent .a).receiveRequest false useCandidate source) :
    Checking after := by
  have ids : (after.agent .a).transactionIds = (before.agent .a).transactionIds := by
    rw [same, IceAgent.receiveRequest_transactionIds]
  rw [IceAgent.receiveRequest_controlling proceeds.steady.aControls] at same
  refine ⟨?_, ?_, ?_, ?_, ?_⟩
  · rw [same]
    exact checking.unset
  · rw [same]
    exact checking.unconfirmed
  · intro known member nonempty
    rw [ids] at member
    apply proceeds.outstanding
    · intro answered contrary
      exact absurd contrary (unanswered answered)
    · exact checking.outstanding known member nonempty
  · intro unchecked
    have wasUnchecked : (before.agent .a).unchecked = true := by
      unfold IceAgent.unchecked at unchecked ⊢
      rw [← ids]
      exact unchecked
    rw [same]
    unfold IceAgent.markedBy
    cases marked : (before.agent .a).pairOfRemote source with
    | none => exact checking.undecided wasUnchecked
    | some idx =>
        rw [IceAgent.disturbedBy_request controlling useCandidate id marked] at undisturbed
        simp only [decide_eq_false_iff_not, not_or, not_and] at undisturbed
        have left := undisturbed.2 wasUnchecked
        simp only [List.all_eq_true, decide_eq_true_eq, not_forall] at left
        rcases left with ⟨pair, member, notSucceeded⟩
        exact ⟨pair, member, notSucceeded⟩
  · intro later member empty
    rw [same] at member
    rcases IceAgent.mem_markedBy member with ⟨pair, isPair, rfl | rfl⟩
    · exact checking.waiting _ isPair empty
    · exact Or.inr rfl

/-- The first response that arrives puts a pair forward; any other changes nothing. -/
theorem Checking.response {id : TransactionId} (checking : Checking before)
    (proceeds : Proceeds setting before event after) (answers : before.Answers event .a id)
    (same : after.agent .a = (before.agent .a).receiveResponse id) : Phase after := by
  rcases IceAgent.receiveResponse_cases (before.agent .a) id with
    ⟨unknown, unchanged⟩ | ⟨idx, pair, _, inside, _, acknowledged⟩
  · have kept : after.agent .a = before.agent .a := same.trans unchanged
    apply Phase.checking
    refine ⟨?_, ?_, ?_, ?_, ?_⟩
    · rw [kept]
      exact checking.unset
    · rw [kept]
      exact checking.unconfirmed
    · intro known member nonempty
      rw [kept] at member
      apply proceeds.outstanding
      · intro answered isAnswered
        rw [isAnswered.unique answers]
        rcases List.mem_map.mp member with ⟨pair, isPair, rfl⟩
        exact (IceAgent.pairOfTransaction_none.mp unknown pair isPair).symm
      · exact checking.outstanding known member nonempty
    · rw [kept]
      exact checking.undecided
    · rw [kept]
      exact checking.waiting
  · rcases IceAgent.acknowledgePair_cases (before.agent .a) inside with
      ⟨contrary, _⟩ | ⟨_, _, contrary, _⟩ | ⟨_, _, _, best, chosen, isBest, _, result⟩
    · rcases contrary with isControlled | confirmed | ⟨other, _, isSet⟩
      · cases proceeds.steady.aControls.symm.trans isControlled
      · cases checking.unconfirmed.symm.trans confirmed
      · cases checking.unset.symm.trans isSet
    · cases checking.unset.symm.trans contrary
    · have forward := same.trans (acknowledged.trans result)
      apply Phase.pending best chosen.putForward
      refine ⟨?_, ?_, ?_, rfl, rfl⟩
      · rw [forward]
      · rw [forward]
        exact checking.unconfirmed
      · rw [forward]
        exact IceAgent.getElem?_modify_self PairEntry.putForward isBest

/-! ## New transaction ids -/

theorem drawn_tick {side : Side} {now : Nat} (isEvent : event = .tick side now)
    (move : Move setting before event after) : after.drawn =
      ((before.agent side).tickChecks setting.crypto setting.ids before.drawn now).2.2 := by
  cases isEvent
  cases move
  rfl

theorem Proceeds.drawn_ne (proceeds : Proceeds setting before event after) {id : Bytes}
    (old : before.Drawn setting id) {m : Nat} (low : before.drawn ≤ m) (high : m < after.drawn) :
    id ≠ (setting.ids m).bytes := by
  rcases old with ⟨earlier, below, rfl⟩
  intro same
  have equal := proceeds.fresh (Set.mem_Iio.mpr (by omega)) (Set.mem_Iio.mpr high)
    (TransactionId.eq_of_bytes same)
  omega

/-- A new id differs from that of every pair of `a`. -/
theorem Proceeds.pair_ne (proceeds : Proceeds setting before event after) {id : Bytes}
    (old : id ∈ (before.agent .a).transactionIds) {m : Nat} (low : before.drawn ≤ m)
    (high : m < after.drawn) : id ≠ (setting.ids m).bytes := by
  rcases proceeds.drawn.pairs id old with rfl | drawn
  · exact (TransactionId.bytes_ne_nil _).symm
  · exact proceeds.drawn_ne drawn low high

/-! ## The announcement -/

/-- Once a pair is put forward, only that pair is checked. -/
theorem skipsPair_elsewhere {agent : IceAgent} {now k idx : Nat} {pair : PairEntry}
    (set : agent.nominatedPairIdx = some idx) (checked : agent.skipsPair now k pair = false) :
    k = idx := by
  unfold IceAgent.skipsPair at checked
  rw [decide_eq_false_iff_not] at checked
  by_contra elsewhere
  apply checked
  refine Or.inr (Or.inr (Or.inl ⟨?_, ?_⟩))
  · rw [set]
    rfl
  · rw [set]
    intro same
    exact elsewhere (Option.some.inj same).symm

/-- The tick that checks the pair put forward announces it. -/
theorem announced_of_sent {now idx m : Nat} {pair : PairEntry}
    (proceeds : Proceeds setting before event after) (isEvent : event = .tick .a now)
    (same : after.agent .a =
      ((before.agent .a).tickChecks setting.crypto setting.ids before.drawn now).1)
    (set : (before.agent .a).nominatedPairIdx = some idx)
    (unconfirmed : (before.agent .a).nominatedPairConfirmed = false)
    (found : (after.agent .a).checkList[idx]? =
      some (IceAgent.pairAfterCheck pair now (setting.ids m)))
    (low : before.drawn ≤ m) (high : m < after.drawn)
    (sent : IceAgent.sendCheck setting.crypto (before.agent .a) now idx pair (setting.ids m) ∈
      ((before.agent .a).tickChecks setting.crypto setting.ids before.drawn now).2.1) :
    Announced after idx (IceAgent.pairAfterCheck pair now (setting.ids m)) := by
  have kept := IceAgent.tickChecks_kept setting.crypto setting.ids (before.agent .a) before.drawn
    now
  refine ⟨?_, ?_, found, ?_, ?_, ?_⟩
  · rw [same, kept.1]
    exact set
  · rw [same, kept.2]
    exact unconfirmed
  · rw [IceAgent.pairAfterCheck_transactionId]
    exact outstanding_sent isEvent proceeds.move sent
  · intro datagram member opener isId
    rw [IceAgent.pairAfterCheck_transactionId] at isId
    rcases flight_of_move proceeds.move member with old | ⟨side, time, check, isTick, isSent, rfl⟩ |
      ⟨_, _, _, _, _, _, contrary, _⟩
    · exact absurd isId (proceeds.drawn_ne (proceeds.drawn.flight datagram old) low high)
    · cases isEvent.symm.trans isTick
      rcases IceAgent.tickChecks_sent _ _ _ _ _ isSent with
        ⟨k, other, _, isOther, checked, _, _, rfl⟩
      have here := skipsPair_elsewhere set checked
      rw [← here] at set
      exact (proceeds.steady.marked k other isOther).mpr set
    · cases isEvent.symm.trans contrary
  · intro k id isId elsewhere
    rw [IceAgent.pairAfterCheck_transactionId]
    rw [same] at isId
    rcases IceAgent.pair_of_transactionIds isId with ⟨later, isLater, rfl⟩
    rcases IceAgent.tickChecks_later _ _ _ _ _ isLater with
      ⟨other, isOther, rfl | ⟨_, _, _, checked, _⟩⟩
    · exact proceeds.pair_ne (List.mem_map_of_mem (List.mem_of_getElem? isOther)) low high
    · exact absurd (skipsPair_elsewhere set checked) elsewhere

/-- The request with USE-CANDIDATE completes `b`. -/
theorem Proceeds.completes (proceeds : Proceeds setting before event after) {index : Nat}
    {source : Address} {datagram : Datagram} {controlling : Bool} {id : TransactionId}
    (isEvent : event = .deliver index source) (inFlight : before.flight[index]? = some datagram)
    (sender : datagram.sender = .a) (meant : datagram.message = .request controlling true id) :
    (after.agent .b).state = .completed := by
  have advertised := proceeds.lossFree
  rw [isEvent] at advertised
  have known := advertised datagram inFlight
  rw [sender] at known
  have finds := pairOfRemote_advertised proceeds.grounded (proceeds.started .b) known
  rcases agent_of_move proceeds.move .b with ⟨nothing, _⟩ | ⟨now, contrary, _⟩ |
    ⟨_, _, _, _, _, _, isEventToo, inFlightToo, _, meantToo, same⟩ |
    ⟨_, _, _, _, isEventToo, inFlightToo, _, meantToo, _⟩
  · exact absurd sender (nothing index source datagram isEvent inFlight)
  · cases isEvent.symm.trans contrary
  · cases isEvent.symm.trans isEventToo
    cases inFlight.symm.trans inFlightToo
    cases meant.symm.trans meantToo
    rw [same]
    exact IceAgent.receiveRequest_completes proceeds.steady.bControlled proceeds.confirmed
      controlling finds
  · cases isEvent.symm.trans isEventToo
    cases inFlight.symm.trans inFlightToo
    cases meant.symm.trans meantToo

/-- What the datagrams of the announced check mean stays so. -/
theorem Announced.announces_after {idx : Nat} {pair : PairEntry}
    (announced : Announced before idx pair) (proceeds : Proceeds setting before event after)
    {datagram : Datagram} (member : datagram ∈ after.flight) (opener : datagram.opener = .a)
    (isId : datagram.message.id.bytes = pair.transactionId) : after.Announces datagram := by
  rcases flight_of_move proceeds.move member with old | ⟨side, now, check, isEvent, sent, rfl⟩ |
    ⟨index, source, request, controlling, useCandidate, id, isEvent, inFlight, meant, rfl⟩
  · have earlier := announced.announces datagram old opener isId
    unfold Announces at earlier ⊢
    cases meant : datagram.message with
    | request controlling useCandidate id =>
        rw [meant] at earlier
        exact earlier
    | response id =>
        rw [meant] at earlier
        exact (advances_of_move proceeds.move .b).completed earlier
  · rcases IceAgent.tickChecks_sent _ _ _ _ _ sent with ⟨_, _, m, _, _, low, high, rfl⟩
    rw [← drawn_tick isEvent proceeds.move] at high
    have different := proceeds.pair_ne
      (List.mem_map_of_mem (List.mem_of_getElem? announced.found)) low high
    exact absurd isId.symm different
  · have sender : request.sender = .a := by
      simp only [Datagram.opener, responseDatagram, Side.other_other] at opener
      exact opener
    have requested : request.message.id.bytes = pair.transactionId := by
      rw [meant]
      exact isId
    have opened : request.opener = .a := by
      simp only [Datagram.opener, meant, sender]
    have carries := announced.announces request (List.mem_of_getElem? inFlight) opened requested
    unfold Announces at carries
    rw [meant] at carries
    cases carries
    exact proceeds.completes isEvent inFlight sender meant

/-- The announced check goes on while its pair keeps its transaction id. -/
theorem Announced.kept {idx : Nat} {pair later : PairEntry}
    (announced : Announced before idx pair) (proceeds : Proceeds setting before event after)
    (unanswered : forall answered, before.Answers event .a answered ->
      answered.bytes ≠ pair.transactionId)
    (set : (after.agent .a).nominatedPairIdx = (before.agent .a).nominatedPairIdx)
    (unconfirmed : (after.agent .a).nominatedPairConfirmed =
      (before.agent .a).nominatedPairConfirmed)
    (found : (after.agent .a).checkList[idx]? = some later)
    (sameId : later.transactionId = pair.transactionId)
    (ids : (after.agent .a).transactionIds = (before.agent .a).transactionIds) :
    Announced after idx later := by
  refine ⟨?_, ?_, found, ?_, ?_, ?_⟩
  · rw [set]
    exact announced.set
  · rw [unconfirmed]
    exact announced.unconfirmed
  · rw [sameId]
    exact proceeds.outstanding unanswered announced.outstanding
  · intro datagram member opener isId
    rw [sameId] at isId
    exact announced.announces_after proceeds member opener isId
  · rw [ids, sameId]
    exact announced.alone

/-! ## The phases after a move -/

/-- While a pair is put forward, a tick that leaves it leaves every id. -/
theorem transactionIds_of_tick {agent : IceAgent} {crypto : Crypto} {ids : Nat -> TransactionId}
    {next now idx : Nat} {pair : PairEntry} (set : agent.nominatedPairIdx = some idx)
    (found : agent.checkList[idx]? = some pair)
    (unchanged : (agent.tickChecks crypto ids next now).1.checkList[idx]? = some pair) :
    (agent.tickChecks crypto ids next now).1.transactionIds = agent.transactionIds := by
  apply List.ext_getElem?
  intro k
  unfold IceAgent.transactionIds
  rw [List.getElem?_map, List.getElem?_map]
  cases known : agent.checkList[k]? with
  | none =>
      have outside : agent.checkList.length ≤ k := List.getElem?_eq_none_iff.mp known
      rw [List.getElem?_eq_none (by rw [IceAgent.tickChecks_length]; exact outside)]
  | some other =>
      rcases IceAgent.tickChecks_pair crypto ids agent next now known with
        ⟨later, isLater, rfl | ⟨_, _, _, checked, _⟩⟩
      · rw [isLater]
      · have here := skipsPair_elsewhere set checked
        subst here
        cases found.symm.trans known
        rw [unchanged]

theorem Pending.unannounced {idx : Nat} {pair : PairEntry} (pending : Pending before idx pair) :
    (before.agent .a).unannounced idx = true := by
  simp [IceAgent.unannounced, pending.set, pending.unconfirmed, pending.found, pending.unsent]

theorem Pending.of_agent {idx : Nat} {pair : PairEntry} (pending : Pending before idx pair)
    (set : (after.agent .a).nominatedPairIdx = (before.agent .a).nominatedPairIdx)
    (unconfirmed : (after.agent .a).nominatedPairConfirmed =
      (before.agent .a).nominatedPairConfirmed)
    (found : (after.agent .a).checkList[idx]? = some pair) : Pending after idx pair :=
  ⟨set.trans pending.set, unconfirmed.trans pending.unconfirmed, found, pending.unsent,
    pending.unanswered⟩

/-- A pair put forward stays so until its announcement. -/
theorem Pending.move {idx : Nat} {pair : PairEntry} (pending : Pending before idx pair)
    (proceeds : Proceeds setting before event after) : Phase after := by
  have undisturbed := proceeds.undisturbed
  rcases agent_of_move proceeds.move .a with ⟨_, same⟩ | ⟨now, isEvent, same⟩ |
    ⟨_, source, datagram, controlling, useCandidate, id, rfl, inFlight, sender, meant, same⟩ |
    ⟨_, source, datagram, id, rfl, inFlight, sender, meant, same⟩
  · apply Phase.pending idx pair
    apply pending.of_agent
    · rw [same]
    · rw [same]
    · rw [same]
      exact pending.found
  · have kept := IceAgent.tickChecks_kept setting.crypto setting.ids (before.agent .a)
      before.drawn now
    rcases IceAgent.tickChecks_pair setting.crypto setting.ids (before.agent .a) before.drawn now
      pending.found with ⟨later, isLater, rfl | ⟨m, low, high, _, rfl, sent⟩⟩
    · apply Phase.pending idx later
      apply pending.of_agent
      · rw [same, kept.1]
      · rw [same, kept.2]
      · rw [same]
        exact isLater
    · rw [← drawn_tick isEvent proceeds.move] at high
      rw [← same] at isLater
      exact .announced _ _ (announced_of_sent proceeds isEvent same pending.set
        pending.unconfirmed isLater low high sent)
  · have calm := undisturbed datagram inFlight sender
    rw [meant] at calm
    rw [proceeds.steady.claims_b inFlight sender meant,
      IceAgent.receiveRequest_controlling proceeds.steady.aControls] at same
    apply Phase.pending idx pair
    apply pending.of_agent
    · rw [same]
    · rw [same]
    · rw [same]
      rcases IceAgent.getElem?_markedBy source pending.found with ⟨marked, _⟩ | ⟨_, kept⟩
      · -- Marking the pair would disturb it.
        rw [IceAgent.disturbedBy_request controlling useCandidate id marked,
          decide_eq_false_iff_not] at calm
        exact absurd (Or.inl pending.unannounced) calm
      · exact kept
  · have calm := undisturbed datagram inFlight sender
    rw [meant] at calm
    rcases IceAgent.receiveResponse_cases (before.agent .a) id with
      ⟨_, unchanged⟩ | ⟨known, other, search, inside, _, acknowledged⟩
    · apply Phase.pending idx pair
      apply pending.of_agent
      · rw [same, unchanged]
      · rw [same, unchanged]
      · rw [same, unchanged]
        exact pending.found
    · have elsewhere : known ≠ idx := by
        rintro rfl
        rw [IceAgent.disturbedBy_response source search] at calm
        cases pending.unannounced.symm.trans calm
      rcases IceAgent.acknowledgePair_cases (before.agent .a) inside with
        ⟨_, result⟩ | ⟨_, _, contrary, _⟩ | ⟨_, _, contrary, _⟩
      · have settled := same.trans (acknowledged.trans result)
        apply Phase.pending idx pair
        apply pending.of_agent
        · rw [settled]
        · rw [settled]
        · rw [settled]
          exact (IceAgent.getElem?_modify_of_ne elsewhere).trans pending.found
      · cases pending.set.symm.trans contrary
        exact absurd rfl elsewhere
      · cases pending.set.symm.trans contrary

/-- Nothing reaches `a`. -/
theorem Announced.idle {idx : Nat} {pair : PairEntry} (announced : Announced before idx pair)
    (proceeds : Proceeds setting before event after) (nothing : NothingFrom before .b event)
    (same : after.agent .a = before.agent .a) : Announced after idx pair := by
  apply announced.kept proceeds
  · intro answered contrary
    exact absurd contrary (not_answers_nothing nothing)
  · rw [same]
  · rw [same]
  · rw [same]
    exact announced.found
  · rfl
  · rw [same]

/-- A tick of `a` sends the announcement again, or leaves the pair. -/
theorem Announced.tick {idx now : Nat} {pair : PairEntry} (announced : Announced before idx pair)
    (proceeds : Proceeds setting before event after) (isEvent : event = .tick .a now)
    (same : after.agent .a =
      ((before.agent .a).tickChecks setting.crypto setting.ids before.drawn now).1) :
    exists later, Announced after idx later := by
  have kept := IceAgent.tickChecks_kept setting.crypto setting.ids (before.agent .a)
    before.drawn now
  rcases IceAgent.tickChecks_pair setting.crypto setting.ids (before.agent .a) before.drawn now
    announced.found with ⟨later, isLater, rfl | ⟨m, low, high, _, rfl, sent⟩⟩
  · refine ⟨later, ?_⟩
    apply announced.kept proceeds
    · intro answered contrary
      exact absurd contrary (not_answers_tick isEvent)
    · rw [same, kept.1]
    · rw [same, kept.2]
    · rw [same]
      exact isLater
    · rfl
    · rw [same]
      exact transactionIds_of_tick announced.set announced.found isLater
  · rw [← drawn_tick isEvent proceeds.move] at high
    rw [← same] at isLater
    exact ⟨_, announced_of_sent proceeds isEvent same announced.set announced.unconfirmed isLater
      low high sent⟩

/-- A request of `b` may mark the pair, but leaves its transaction id. -/
theorem Announced.request {idx : Nat} {pair : PairEntry} {useCandidate : Bool} {source : Address}
    (announced : Announced before idx pair) (proceeds : Proceeds setting before event after)
    (unanswered : forall answered, ¬ before.Answers event .a answered)
    (same : after.agent .a = (before.agent .a).receiveRequest false useCandidate source) :
    exists later, Announced after idx later := by
  have ids := congrArg IceAgent.transactionIds same
  rw [IceAgent.receiveRequest_transactionIds] at ids
  rw [IceAgent.receiveRequest_controlling proceeds.steady.aControls] at same
  have other : forall answered, before.Answers event .a answered ->
      answered.bytes ≠ pair.transactionId :=
    fun answered contrary => absurd contrary (unanswered answered)
  rcases IceAgent.getElem?_markedBy source announced.found with ⟨_, marked⟩ | ⟨_, marked⟩
  · refine ⟨pair.succeed, ?_⟩
    apply announced.kept proceeds other
    · rw [same]
    · rw [same]
    · rw [same]
      exact marked
    · rfl
    · exact ids
  · refine ⟨pair, ?_⟩
    apply announced.kept proceeds other
    · rw [same]
    · rw [same]
    · rw [same]
      exact marked
    · rfl
    · exact ids

/-- The response to the announcement completes `a`: `b` has completed before it
was sent.  Any other response leaves the pair. -/
theorem Announced.response {idx : Nat} {pair : PairEntry} {id : TransactionId}
    {datagram : Datagram} (announced : Announced before idx pair)
    (proceeds : Proceeds setting before event after) (answers : before.Answers event .a id)
    (inFlight : datagram ∈ before.flight) (sender : datagram.sender = .b)
    (meant : datagram.message = .response id)
    (same : after.agent .a = (before.agent .a).receiveResponse id) : Phase after := by
  have ids := congrArg IceAgent.transactionIds same
  rw [IceAgent.receiveResponse_transactionIds] at ids
  rcases IceAgent.receiveResponse_cases (before.agent .a) id with
    ⟨unknown, unchanged⟩ | ⟨known, other, _, inside, isId, acknowledged⟩
  · apply Phase.announced idx pair
    apply announced.kept proceeds
    · intro answered isAnswered
      rw [isAnswered.unique answers]
      exact (IceAgent.pairOfTransaction_none.mp unknown pair
        (List.mem_of_getElem? announced.found)).symm
    · rw [same, unchanged]
    · rw [same, unchanged]
    · rw [same, unchanged]
      exact announced.found
    · rfl
    · exact ids
  · rcases IceAgent.acknowledgePair_cases (before.agent .a) inside with
      ⟨notHere, result⟩ | ⟨_, _, set, result⟩ | ⟨_, _, contrary, _⟩
    · have settled := same.trans (acknowledged.trans result)
      have elsewhere : known ≠ idx := by
        rintro rfl
        rcases notHere with isControlled | confirmed | ⟨different, isDifferent, set⟩
        · cases proceeds.steady.aControls.symm.trans isControlled
        · cases announced.unconfirmed.symm.trans confirmed
        · cases announced.set.symm.trans set
          exact isDifferent rfl
      apply Phase.announced idx pair
      apply announced.kept proceeds
      · intro answered isAnswered
        rw [isAnswered.unique answers, ← isId]
        apply announced.alone known _ _ elsewhere
        unfold IceAgent.transactionIds
        rw [List.getElem?_map, inside, Option.map_some]
      · rw [settled]
      · rw [settled]
      · rw [settled]
        exact (IceAgent.getElem?_modify_of_ne elsewhere).trans announced.found
      · rfl
      · exact ids
    · cases announced.set.symm.trans set
      cases announced.found.symm.trans inside
      have opener : datagram.opener = .a := by
        simp only [Datagram.opener, meant, sender]
        rfl
      have announcement := announced.announces datagram inFlight opener
        (by rw [meant]; exact isId.symm)
      unfold Announces at announcement
      rw [meant] at announcement
      apply Phase.completed
      intro side
      cases side with
      | a => rw [same.trans (acknowledged.trans result)]
      | b => exact (advances_of_move proceeds.move .b).completed announcement
    · cases announced.set.symm.trans contrary

/-- The announced check goes on until its response completes `a`. -/
theorem Announced.move {idx : Nat} {pair : PairEntry} (announced : Announced before idx pair)
    (proceeds : Proceeds setting before event after) : Phase after := by
  rcases agent_of_move proceeds.move .a with ⟨nothing, same⟩ | ⟨now, isEvent, same⟩ |
    ⟨index, source, datagram, controlling, useCandidate, id, isEvent, inFlight, sender, meant,
      same⟩ | ⟨index, source, datagram, id, isEvent, inFlight, sender, meant, same⟩
  · exact .announced idx pair (announced.idle proceeds nothing same)
  · rcases announced.tick proceeds isEvent same with ⟨later, isLater⟩
    exact .announced idx later isLater
  · rw [proceeds.steady.claims_b inFlight sender meant] at same
    rcases announced.request proceeds (fun _ => not_answers_request isEvent inFlight meant) same
      with ⟨later, isLater⟩
    exact .announced idx later isLater
  · exact announced.response proceeds
      ⟨index, source, datagram, isEvent, inFlight, sender, meant⟩ (List.mem_of_getElem? inFlight)
      sender meant same

theorem Phase.move (phase : Phase before) (proceeds : Proceeds setting before event after) :
    Phase after := by
  cases phase with
  | checking checking =>
      rcases agent_of_move proceeds.move .a with ⟨nothing, same⟩ | ⟨now, isEvent, same⟩ |
        ⟨index, source, datagram, controlling, useCandidate, id, isEvent, inFlight, sender, meant,
          same⟩ | ⟨index, source, datagram, id, isEvent, inFlight, sender, meant, same⟩
      · exact .checking (checking.idle proceeds nothing same)
      · exact .checking (checking.tick proceeds isEvent same)
      · have undisturbed := proceeds.undisturbed
        rw [isEvent] at undisturbed
        have calm := undisturbed datagram inFlight sender
        rw [meant] at calm
        rw [proceeds.steady.claims_b inFlight sender meant] at same
        apply Phase.checking
        apply checking.request proceeds _ calm same
        intro answered
        exact not_answers_request isEvent inFlight meant
      · exact checking.response proceeds
          ⟨index, source, datagram, isEvent, inFlight, sender, meant⟩ same
  | pending idx pair pending => exact pending.move proceeds
  | announced idx pair announced => exact announced.move proceeds
  | completed completed =>
      apply Phase.completed
      intro side
      exact (advances_of_move proceeds.move side).completed (completed side)

end Moves

end Session

end P2pSdk
