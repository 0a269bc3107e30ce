import P2pSdk.Session.Messages

namespace P2pSdk

open Foundation

/-!
# Selection by the controlling agent

While `a` controls and `b` is controlled, the roles never change: requests of
`b` do not claim control.  The nominated index of `a` never moves once it is
set, so every request with USE-CANDIDATE in flight goes to the same remote
candidate.
-/

namespace IceAgent

/-! ## The nomination of a controlling agent -/

/-- The marked pairs are exactly the one that the index points at. -/
def MarksNominated (agent : IceAgent) : Prop :=
  forall k pair, agent.checkList[k]? = some pair ->
    (pair.nominated = true ↔ agent.nominatedPairIdx = some k)

/-- What the nomination of an agent consists of, together with its role. -/
structure NominationView where
  role : IceRole
  nominatedPairIdx : Option Nat
  targets : List Address
  marks : List Bool

def nominationView (agent : IceAgent) : NominationView where
  role := agent.role
  nominatedPairIdx := agent.nominatedPairIdx
  targets := agent.checkList.map PairEntry.target
  marks := agent.checkList.map PairEntry.nominated

theorem nominatedRemote_eq (agent : IceAgent) :
    agent.nominatedRemote =
      agent.nominatedPairIdx.bind fun i => (agent.checkList.map PairEntry.target)[i]? := by
  unfold nominatedRemote nominatedPair
  cases agent.nominatedPairIdx with
  | none => rfl
  | some i => exact (List.getElem?_map ..).symm

/-- The agent still controls, its marks still agree with its index, and a
selected remote candidate stays selected. -/
structure KeepsNomination (before after : IceAgent) : Prop where
  role : after.role = before.role
  marks : before.MarksNominated -> after.MarksNominated
  remote : forall address, before.nominatedRemote = some address ->
    after.nominatedRemote = some address

namespace KeepsNomination

variable {agent : IceAgent}

/-- Nothing that the nomination consists of has changed. -/
theorem of_view {after : IceAgent} (same : after.nominationView = agent.nominationView) :
    KeepsNomination agent after := by
  simp only [nominationView, NominationView.mk.injEq] at same
  rcases same with ⟨role, idx, targets, marks⟩
  refine ⟨role, ?_, ?_⟩
  · intro marked k pair found
    have old : (agent.checkList.map PairEntry.nominated)[k]? = some pair.nominated := by
      rw [← marks, List.getElem?_map, found, Option.map_some]
    rw [List.getElem?_map, Option.map_eq_some_iff] at old
    rcases old with ⟨earlier, isEarlier, sameMark⟩
    rw [idx, ← sameMark]
    exact marked k earlier isEarlier
  · intro address known
    rw [nominatedRemote_eq, idx, targets, ← nominatedRemote_eq]
    exact known

theorem tickChecks (crypto : Crypto) (ids : Nat -> TransactionId) (agent : IceAgent)
    (next now : Nat) : KeepsNomination agent (agent.tickChecks crypto ids next now).1 := by
  apply of_view
  rcases tickChecks_cases crypto ids next agent now with ⟨_, same⟩ | ⟨_, state, _, same⟩
  · rw [same]
  · rw [same]
    simp only [nominationView, map_tickPairs_eq crypto ids target_pairAfterCheck,
      map_tickPairs_eq crypto ids pairAfterCheck_nominated]

/-- A request of a controlled peer marks a pair as succeeded at most. -/
theorem receiveRequest (role : agent.role = .controlling) (useCandidate : Bool)
    (source : Address) : KeepsNomination agent (agent.receiveRequest false useCandidate source) := by
  apply of_view
  rw [receiveRequest_controlling role]
  unfold nominationView markedBy
  cases agent.pairOfRemote source with
  | none => rfl
  | some idx =>
      simp only [map_modify_eq PairEntry.target_succeed, map_modify_eq PairEntry.nominated_succeed]

/-- An acknowledgment may set the index, but never moves it. -/
theorem acknowledgePair {idx : Nat} {pair : PairEntry}
    (found : agent.checkList[idx]? = some pair) :
    KeepsNomination agent (agent.acknowledgePair idx) := by
  rcases acknowledgePair_cases agent found with
    ⟨_, same⟩ | ⟨_, _, _, same⟩ | ⟨_, _, unset, best, chosen, isBest, _, same⟩
  · apply of_view
    rw [same]
    simp only [nominationView, map_modify_eq PairEntry.target_succeed, map_modify_eq PairEntry.nominated_succeed]
  · apply of_view
    rw [same]
    simp only [nominationView, map_modify_eq PairEntry.target_succeed, map_modify_eq PairEntry.nominated_succeed]
  · rw [same]
    refine ⟨rfl, ?_, ?_⟩
    · -- No pair was marked before, and the best pair is marked now.
      intro marked k after isAfter
      dsimp only at isAfter ⊢
      by_cases here : best = k
      · subst here
        rw [getElem?_modify_self PairEntry.putForward isBest] at isAfter
        cases isAfter
        exact ⟨fun _ => rfl, fun _ => rfl⟩
      · rw [getElem?_modify_of_ne here] at isAfter
        have old : (agent.checkList.map PairEntry.nominated)[k]? = some after.nominated := by
          rw [← map_modify_eq PairEntry.nominated_succeed agent.checkList idx, List.getElem?_map, isAfter,
            Option.map_some]
        rw [List.getElem?_map, Option.map_eq_some_iff] at old
        rcases old with ⟨earlier, isEarlier, sameMark⟩
        rw [← sameMark, marked k earlier isEarlier, unset]
        constructor
        · intro contrary
          cases contrary
        · intro contrary
          exact absurd (Option.some.inj contrary) here
    · intro address known
      rw [nominatedRemote_eq, unset] at known
      cases known

theorem receiveResponse (agent : IceAgent) (id : TransactionId) :
    KeepsNomination agent (agent.receiveResponse id) := by
  rcases receiveResponse_cases agent id with ⟨_, same⟩ | ⟨idx, pair, _, inside, _, same⟩
  · rw [same]
    exact of_view rfl
  · rw [same]
    exact acknowledgePair inside

end KeepsNomination

/-! ## The selection of a controlled agent -/

theorem tickChecks_nominatedRemote (crypto : Crypto) (ids : Nat -> TransactionId)
    (agent : IceAgent) (next now : Nat) :
    (agent.tickChecks crypto ids next now).1.nominatedRemote = agent.nominatedRemote := by
  rw [nominatedRemote_eq, nominatedRemote_eq]
  rcases tickChecks_cases crypto ids next agent now with ⟨_, same⟩ | ⟨_, state, _, same⟩
  · rw [same]
  · rw [same]
    simp only [map_tickPairs_eq crypto ids target_pairAfterCheck]

/-- The selection of a controlled agent is the source of a request with
USE-CANDIDATE, or the one it had. -/
theorem receiveRequest_nominatedRemote {agent : IceAgent} (role : agent.role = .controlled)
    (controlling useCandidate : Bool) (source : Address) :
    (agent.receiveRequest controlling useCandidate source).nominatedRemote =
        agent.nominatedRemote ∨
      (useCandidate = true ∧
        (agent.receiveRequest controlling useCandidate source).nominatedRemote = some source) := by
  rw [nominatedRemote_eq, nominatedRemote_eq]
  rcases receiveRequest_controlled role controlling useCandidate source with
    ⟨_, same⟩ | ⟨idx, found, ⟨chosen, same⟩ | ⟨_, same⟩⟩
  · rw [same]
    exact Or.inl rfl
  · rcases pairOfRemote_some found with ⟨pair, inside, isSource⟩
    refine Or.inr ⟨chosen, ?_⟩
    rw [same]
    simp only [map_modify_eq PairEntry.target_succeedNominated, Option.bind_some, List.getElem?_map,
      inside, Option.map_some, isSource]
  · rw [same]
    exact Or.inl (by simp only [map_modify_eq PairEntry.target_succeed])

theorem receiveResponse_nominatedRemote {agent : IceAgent} (role : agent.role = .controlled)
    (id : TransactionId) : (agent.receiveResponse id).nominatedRemote = agent.nominatedRemote := by
  rw [nominatedRemote_eq, nominatedRemote_eq]
  rcases receiveResponse_cases agent id with ⟨_, same⟩ | ⟨idx, pair, _, inside, _, same⟩
  · rw [same]
  · rw [same, acknowledgePair_controlled role inside]
    simp only [map_modify_eq PairEntry.target_succeed]

/-- The requests of a round with USE-CANDIDATE go to the selected candidate. -/
theorem MarksNominated.announces {agent : IceAgent} (marked : agent.MarksNominated)
    {crypto : Crypto} {ids : Nat -> TransactionId} {next now : Nat} {check : SentCheck}
    (sent : check ∈ (agent.tickChecks crypto ids next now).2.1)
    (useCandidate : check.useCandidate = true) :
    agent.nominatedRemote = some check.action.target := by
  rcases tickChecks_cases crypto ids next agent now with ⟨_, same⟩ | ⟨_, state, _, same⟩
  · rw [same] at sent
    cases sent
  · rw [same] at sent
    rcases tickPairs_checks crypto ids agent now 0 _ _ check sent with
      ⟨k, pair, m, found, _, _, _, rfl, _⟩
    have idx := (marked k pair found).mp useCandidate
    rw [nominatedRemote_eq, idx, Option.bind_some, List.getElem?_map, found, Option.map_some]
    rfl

/-- The role that a round claims in its requests is that of the agent. -/
theorem tickChecks_controlling {agent : IceAgent} {crypto : Crypto} {ids : Nat -> TransactionId}
    {next now : Nat} {check : SentCheck}
    (sent : check ∈ (agent.tickChecks crypto ids next now).2.1) :
    check.controlling = agent.role.isControlling := by
  rcases tickChecks_cases crypto ids next agent now with ⟨_, same⟩ | ⟨_, state, _, same⟩
  · rw [same] at sent
    cases sent
  · rw [same] at sent
    rcases tickPairs_checks crypto ids agent now 0 _ _ check sent with
      ⟨k, pair, m, _, _, _, _, rfl, _⟩
    rfl

end IceAgent

namespace Session

/-! ## Steady roles -/

/-- What a datagram may claim while `a` controls with a given selection:
requests of `b` do not claim control, and requests of `a` with USE-CANDIDATE go
to the selected candidate. -/
def Claims (selected : Option Address) (datagram : Datagram) : Prop :=
  match datagram.message, datagram.sender with
  | .request _ useCandidate _, .a => useCandidate = true -> selected = some datagram.target
  | .request controlling _ _, .b => controlling = false
  | .response _, _ => True

/-- `a` controls, selects one candidate for good and announces only that one. -/
structure Steady (session : Session) : Prop where
  aControls : (session.agent .a).role = .controlling
  bControlled : (session.agent .b).role = .controlled
  marked : (session.agent .a).MarksNominated
  claims : forall datagram, datagram ∈ session.flight ->
    Claims (session.agent .a).nominatedRemote datagram

theorem Claims.mono {before after : Option Address} {datagram : Datagram}
    (claims : Claims before datagram)
    (kept : forall address, before = some address -> after = some address) :
    Claims after datagram := by
  rcases datagram with ⟨sender, message, data, target⟩
  cases message with
  | request controlling useCandidate id =>
      cases sender with
      | a => exact fun chosen => kept _ (claims chosen)
      | b => exact claims
  | response id => trivial

section Moves

variable {setting : Setting} {before after : Session} {event : NetworkEvent}

/-- A request that reaches `a` does not claim control. -/
theorem Steady.claims_b (steady : Steady before) {index : Nat} {datagram : Datagram}
    (inFlight : before.flight[index]? = some datagram) (sender : datagram.sender = .b)
    {controlling useCandidate : Bool} {id : TransactionId}
    (meant : datagram.message = .request controlling useCandidate id) : controlling = false := by
  have claims := steady.claims datagram (List.mem_of_getElem? inFlight)
  unfold Claims at claims
  rw [meant, sender] at claims
  exact claims

/-- A request with USE-CANDIDATE that reaches `b` was sent to the candidate
selected by `a`. -/
theorem Steady.claims_a (steady : Steady before) {index : Nat} {datagram : Datagram}
    (inFlight : before.flight[index]? = some datagram) (sender : datagram.sender = .a)
    {controlling : Bool} {id : TransactionId}
    (meant : datagram.message = .request controlling true id) :
    (before.agent .a).nominatedRemote = some datagram.target := by
  have claims := steady.claims datagram (List.mem_of_getElem? inFlight)
  unfold Claims at claims
  rw [meant, sender] at claims
  exact claims rfl

/-- The controlling agent keeps its nomination in every move. -/
theorem Steady.keepsNomination (steady : Steady before) (move : Move setting before event after) :
    IceAgent.KeepsNomination (before.agent .a) (after.agent .a) := by
  rcases agent_of_move move .a with ⟨_, same⟩ | ⟨now, _, same⟩ |
    ⟨_, source, _, _, useCandidate, _, _, inFlight, sender, meant, same⟩ |
    ⟨_, _, _, id, _, _, _, _, same⟩
  · exact .of_view (congrArg _ same)
  · rw [same]
    apply IceAgent.KeepsNomination.tickChecks
  · rw [same, steady.claims_b inFlight sender meant]
    apply IceAgent.KeepsNomination.receiveRequest
    exact steady.aControls
  · rw [same]
    apply IceAgent.KeepsNomination.receiveResponse

/-- The controlled agent stays controlled in every move. -/
theorem Steady.staysControlled (steady : Steady before) (move : Move setting before event after) :
    (after.agent .b).role = .controlled := by
  rcases agent_of_move move .b with ⟨_, same⟩ | ⟨now, _, same⟩ |
    ⟨_, _, _, _, _, _, _, _, _, _, same⟩ | ⟨_, _, _, _, _, _, _, _, same⟩
  · rw [same]
    exact steady.bControlled
  · rw [same, IceAgent.tickChecks_role]
    exact steady.bControlled
  · rw [same, IceAgent.receiveRequest_role, if_neg]
    · exact steady.bControlled
    · rintro ⟨_, contrary⟩
      cases steady.bControlled.symm.trans contrary
  · rw [same, IceAgent.receiveResponse_role]
    exact steady.bControlled

/-- Requests of a round claim the role and the selection of their sender. -/
theorem Steady.claims_check (steady : Steady before) (side : Side) {now : Nat}
    {check : IceAgent.SentCheck}
    (sent : check ∈ ((before.agent side).tickChecks setting.crypto setting.ids before.drawn
      now).2.1) : Claims (before.agent .a).nominatedRemote (checkDatagram side check) := by
  cases side with
  | a => exact steady.marked.announces sent
  | b =>
      change check.controlling = false
      rw [IceAgent.tickChecks_controlling sent, steady.bControlled]
      rfl

theorem Steady.move (steady : Steady before) (move : Move setting before event after) :
    Steady after := by
  have kept := steady.keepsNomination move
  refine ⟨kept.role.trans steady.aControls, steady.staysControlled move, kept.marks steady.marked,
    ?_⟩
  intro datagram member
  rcases flight_of_move move member with old | ⟨side, now, check, _, sent, rfl⟩ |
    ⟨_, _, _, _, _, _, _, _, _, rfl⟩
  · exact (steady.claims datagram old).mono kept.remote
  · exact (steady.claims_check side sent).mono kept.remote
  · trivial

end Moves

theorem Steady.started {setting : Setting} (aControls : (setting.party .a).isControlling = true)
    (bControlled : (setting.party .b).isControlling = false) : Steady setting.started where
  aControls := by
    rw [Setting.started_role, aControls]
    rfl
  bControlled := by
    rw [Setting.started_role, bControlled]
    rfl
  marked := by
    intro k pair found
    rcases setting.started_pairs .a (List.mem_of_getElem? found) with
      ⟨role, localCand, remoteCand, rfl⟩
    rw [setting.started_nominatedPairIdx]
    constructor
    · intro contrary
      cases contrary
    · intro contrary
      cases contrary
  claims := by
    intro datagram member
    cases member

end Session

end P2pSdk
