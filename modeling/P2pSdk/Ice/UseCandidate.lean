import P2pSdk.Ice.AgentHistory
import P2pSdk.Ice.Datagrams

namespace P2pSdk

open Foundation

/-!
# Who may nominate

USE-CANDIDATE goes out on the checks of a pair that has its nominated flag,
and the role attribute of a check is the role the agent has at that time.  A
controlling agent sets the flag when it puts a pair forward.  The two can part
before that check is answered: a peer that claims the controlling role, or a
response 487, takes the role away and leaves the flag, and the next check of
the pair asks for its nomination as a controlled agent.

The flag of a controlled agent, set by its peer, stands on a pair that has
succeeded and is not checked any more.  So the loss of the role with a pair put
forward is the only way.
-/

namespace PairEntry

/-- A nominated pair whose check is still to be sent or answered. -/
def pending (pair : PairEntry) : Bool :=
  pair.nominated ∧ (pair.state = .waiting ∨ pair.state = .inProgress)

@[simp] theorem pending_succeed (pair : PairEntry) : pair.succeed.pending = false := by
  simp [pending, succeed]

@[simp] theorem pending_succeedNominated (pair : PairEntry) :
    pair.succeedNominated.pending = false := by
  simp [pending, succeedNominated]

/-- The reset after a role conflict keeps the nominated flag and the open check. -/
theorem pending_restartUnanswered (pair : PairEntry) :
    pair.restartUnanswered.pending = pair.pending := by
  unfold restartUnanswered
  split_ifs with inProgress
  · simp [pending, inProgress]
  · rfl

end PairEntry

namespace IceAgent

/-! ## Pairs put forward -/

/-- `tick` sends checks in this state. -/
def active (agent : IceAgent) : Bool :=
  ¬ (agent.state = .completed ∨ agent.state = .failed ∨ agent.state = .closed)

/-- The pair at `i` is nominated and its check is open. -/
def pendingAt (pairs : List PairEntry) (i : Nat) : Bool := pairs[i]?.any PairEntry.pending

theorem pendingAt_iff {pairs : List PairEntry} {i : Nat} :
    pendingAt pairs i = true <-> exists pair, pairs[i]? = some pair ∧ pair.pending = true := by
  unfold pendingAt
  rw [Option.any_eq_true]

/-- An update that closes the check of its pair. -/
theorem pendingAt_modify {update : PairEntry -> PairEntry}
    (closes : forall pair, (update pair).pending = false) (pairs : List PairEntry) (idx i : Nat) :
    pendingAt (pairs.modify idx update) i = true <-> i ≠ idx ∧ pendingAt pairs i = true := by
  by_cases here : idx = i
  · subst here
    unfold pendingAt
    rw [List.getElem?_modify]
    cases pairs[idx]? with
    | none => simp
    | some pair => simp [closes]
  · unfold pendingAt
    rw [getElem?_modify_of_ne here]
    exact (and_iff_right (Ne.symm here)).symm

theorem pendingAt_restartUnanswered (pairs : List PairEntry) (i : Nat) :
    pendingAt (pairs.map PairEntry.restartUnanswered) i = pendingAt pairs i := by
  unfold pendingAt
  rw [List.getElem?_map, Option.any_map]
  congr 1
  funext pair
  exact PairEntry.pending_restartUnanswered pair

/-- Putting a pair forward opens no other. -/
theorem pendingAt_putForward {pairs : List PairEntry} {best i : Nat}
    (pending : pendingAt (pairs.modify best PairEntry.putForward) i = true) :
    i = best ∨ pendingAt pairs i = true := by
  by_cases here : best = i
  · exact Or.inl here.symm
  · unfold pendingAt at pending
    rw [getElem?_modify_of_ne here] at pending
    exact Or.inr pending

/-- No pair of a new list is nominated. -/
theorem pendingAt_fresh (agent : IceAgent) (i : Nat) :
    pendingAt (agent.allPairs.insertionSort beforeInList) i = false := by
  cases pending : pendingAt (agent.allPairs.insertionSort beforeInList) i with
  | false => rfl
  | true =>
      rcases pendingAt_iff.mp pending with ⟨pair, found, isPending⟩
      have member := (List.mem_insertionSort beforeInList).mp (List.mem_of_getElem? found)
      rcases mem_allPairs member with ⟨localCand, remoteCand, _, _, rfl⟩
      cases isPending

/-- A round opens no check: a pair that is open after it was open before. -/
theorem pendingAt_tickPairs (crypto : Crypto) (ids : Nat -> TransactionId) (agent : IceAgent)
    (now : Nat) (next i : Nat)
    (pending : pendingAt (tickPairs crypto ids agent now 0 agent.checkList next).1 i = true) :
    pendingAt agent.checkList i = true := by
  rcases pendingAt_iff.mp pending with ⟨later, found, isPending⟩
  rcases tickPairs_later crypto ids agent now 0 agent.checkList next found with
    ⟨pair, isPair, ⟨_, rfl⟩ | ⟨m, checked, rfl, _⟩⟩
  · exact pendingAt_iff.mpr ⟨_, isPair, isPending⟩
  · refine pendingAt_iff.mpr ⟨pair, isPair, ?_⟩
    simp only [PairEntry.pending, pairAfterCheck_nominated, decide_eq_true_eq] at isPending ⊢
    refine ⟨isPending.1, ?_⟩
    unfold skipsPair at checked
    have stillOpen := of_decide_eq_false checked
    push Not at stillOpen
    cases state : pair.state with
    | waiting => exact Or.inl rfl
    | inProgress => exact Or.inr rfl
    | succeeded => exact absurd state stillOpen.1
    | failed => exact absurd state stillOpen.2.1

/-! ## The loss of the role -/

/-- The reaction takes the role from a controlling agent and leaves its pair `i`
to be checked.  A request from the address of the pair closes the check, and
one that nominates another pair completes the agent. -/
def takesRole (agent : IceAgent) (i : Nat) (source : Address) : Reaction -> Bool
  | .unanswered parsed => parsed.controlling = some true
  | .accepted parsed =>
      parsed.controlling = some true ∧
        (agent.pairOfRemote source).all fun idx => idx ≠ i ∧ parsed.useCandidate = false
  | .conflict => true
  | _ => false

/-- A datagram takes the role from an agent with a pair put forward. -/
def losesNomination (agent : IceAgent) : AgentOp -> Bool
  | .handleIncomingData data source =>
      agent.nominatedPairIdx.any fun i =>
        agent.role = .controlling ∧ agent.active ∧ pendingAt agent.checkList i ∧
          agent.takesRole i source (agent.reaction data)
  | _ => false

/-- An agent that sends checks has at most one pair put forward, and is then the
controlling one, with its nomination still to be confirmed. -/
def NominatesInControl (agent : IceAgent) : Prop :=
  agent.active = true -> forall i, pendingAt agent.checkList i = true ->
    agent.role = .controlling ∧ agent.nominatedPairIdx = some i ∧
      agent.nominatedPairConfirmed = false

namespace NominatesInControl

variable {agent : IceAgent}

theorem of_inactive (inactive : agent.active = false) : agent.NominatesInControl :=
  fun isActive => absurd (inactive.symm.trans isActive) Bool.false_ne_true

/-- A pair that is not lost keeps its agent in control. -/
theorem not_takesRole (holds : agent.NominatesInControl) (isActive : agent.active = true) {i : Nat}
    (pending : pendingAt agent.checkList i = true) {data : Bytes} {source : Address}
    (notLost : agent.losesNomination (.handleIncomingData data source) = false) :
    agent.takesRole i source (agent.reaction data) = false := by
  rcases holds isActive i pending with ⟨role, idx, _⟩
  simp only [losesNomination, idx, Option.any_some, role, isActive, pending, true_and,
    decide_eq_false_iff_not, Bool.not_eq_true] at notLost
  exact notLost

theorem startChecks (agent : IceAgent) : agent.startChecks.1.NominatesInControl := by
  by_cases started : agent.startChecks.2 = .ok ()
  · rw [(startChecks_ok started).2.2.2]
    intro _ i pending
    exact absurd ((pendingAt_fresh agent i).symm.trans pending) Bool.false_ne_true
  · rw [startChecks_error started]
    exact of_inactive rfl

theorem tickChecks (crypto : Crypto) (ids : Nat -> TransactionId)
    (holds : agent.NominatesInControl) (next now : Nat) :
    (agent.tickChecks crypto ids next now).1.NominatesInControl := by
  rcases tickChecks_cases crypto ids next agent now with ⟨_, same⟩ | ⟨running, state, isState, same⟩
  · rw [same]
    exact holds
  · rw [same]
    intro _ i pending
    exact holds (decide_eq_true running) i (pendingAt_tickPairs crypto ids agent now next i pending)

/-- The first contact does not stop the checks. -/
theorem active_contacted (agent : IceAgent) :
    active { agent with state := contacted agent.state } = agent.active := by
  unfold active contacted
  cases agent.state <;> rfl

theorem active_acknowledged (agent : IceAgent) :
    active { agent with state := acknowledged agent.state } = agent.active := by
  unfold active acknowledged
  cases agent.state <;> rfl

/-- A request that only settles the role. -/
theorem resolveRoleConflict (holds : agent.NominatesInControl) {peerControlling : Option Bool}
    (kept : agent.active = true -> forall i, pendingAt agent.checkList i = true ->
      peerControlling ≠ some true) :
    (agent.resolveRoleConflict peerControlling).NominatesInControl := by
  rcases resolveRoleConflict_cases agent peerControlling with ⟨same, _⟩ | ⟨claims, _, same⟩
  · rw [same]
    exact holds
  · rw [same]
    intro isActive i pending
    exact absurd claims (kept isActive i pending)

/-- An accepted request that does not take the role, closes the open check, or
completes the agent. -/
theorem acceptRequest (holds : agent.NominatesInControl) {parsed : ParsedStunMessage}
    {source : Address}
    (kept : agent.active = true -> forall i, pendingAt agent.checkList i = true ->
      agent.takesRole i source (.accepted parsed) = false) :
    (agent.acceptRequest parsed source).NominatesInControl := by
  have search : (agent.resolveRoleConflict parsed.controlling).pairOfRemote source =
      agent.pairOfRemote source := by
    rw [resolveRoleConflict_eq]
    rfl
  have confirmed : (agent.resolveRoleConflict parsed.controlling).nominatedPairConfirmed =
      agent.nominatedPairConfirmed := by
    rw [resolveRoleConflict_eq]
  have pairs : (agent.resolveRoleConflict parsed.controlling).checkList = agent.checkList := by
    rw [resolveRoleConflict_eq]
  have state : (agent.resolveRoleConflict parsed.controlling).state = agent.state := by
    rw [resolveRoleConflict_eq]
  have idxKept : (agent.resolveRoleConflict parsed.controlling).nominatedPairIdx =
      agent.nominatedPairIdx := by
    rw [resolveRoleConflict_eq]
  have activeKept : forall other : IceAgent, other.state = agent.state ->
      active { other with state := contacted other.state } = true -> agent.active = true := by
    intro other same isActive
    rw [active_contacted] at isActive
    unfold active at isActive ⊢
    rw [← same]
    exact isActive
  unfold IceAgent.acceptRequest
  rw [noteContact_eq]
  rcases markPair_cases (agent.resolveRoleConflict parsed.controlling) parsed.useCandidate source
    with ⟨noPair, same⟩ | ⟨idx, isPair, ⟨asked, controlled, same⟩ | ⟨notNominated, same⟩⟩
  · rw [same]
    intro isActive i pending
    have wasActive := activeKept _ state isActive
    dsimp only at pending ⊢
    rw [pairs] at pending
    rcases holds wasActive i pending with ⟨role, isIdx, unconfirmed⟩
    have notTaken := kept wasActive i pending
    rw [search] at noPair
    simp only [takesRole, noPair, Option.all_none, and_true, decide_eq_false_iff_not] at notTaken
    rcases resolveRoleConflict_cases agent parsed.controlling with ⟨unchanged, _⟩ | ⟨claims, _, _⟩
    · rw [unchanged]
      exact ⟨role, isIdx, unconfirmed⟩
    · exact absurd claims notTaken
  · rw [same]
    intro isActive i pending
    dsimp only at isActive pending
    rw [pairs, pendingAt_modify PairEntry.pending_succeedNominated] at pending
    -- An agent whose nomination was open is completed by this request.
    cases isConfirmed : agent.nominatedPairConfirmed with
    | false =>
        rw [confirmed, isConfirmed] at isActive
        cases isActive
    | true =>
        rw [confirmed, isConfirmed] at isActive
        have wasActive := activeKept _ state isActive
        have stillOpen := (holds wasActive i pending.2).2.2
        exact absurd (stillOpen.symm.trans isConfirmed) Bool.false_ne_true
  · rw [same]
    intro isActive i pending
    have wasActive := activeKept _ state isActive
    dsimp only at pending ⊢
    rw [pairs, pendingAt_modify PairEntry.pending_succeed] at pending
    rcases holds wasActive i pending.2 with ⟨role, isIdx, unconfirmed⟩
    have notTaken := kept wasActive i pending.2
    rw [search] at isPair
    rcases resolveRoleConflict_cases agent parsed.controlling with ⟨unchanged, _⟩ | ⟨claims, _, taken⟩
    · rw [unchanged]
      exact ⟨role, isIdx, unconfirmed⟩
    · rw [taken] at notNominated
      have notAsked : parsed.useCandidate = false := by
        cases asked : parsed.useCandidate with
        | false => rfl
        | true => exact absurd ⟨asked, rfl⟩ notNominated
      simp [takesRole, isPair, claims, notAsked, Ne.symm pending.1] at notTaken

/-- A response to a check. -/
theorem acknowledge (holds : agent.NominatesInControl) {idx : Nat} {pair : PairEntry}
    (found : agent.checkList[idx]? = some pair) : (agent.acknowledgePair idx).NominatesInControl := by
  have activeKept : active { agent with state := acknowledged agent.state } = true ->
      agent.active = true := by
    rw [active_acknowledged]
    exact id
  rcases acknowledgePair_cases agent found with
    ⟨_, same⟩ | ⟨_, _, _, same⟩ | ⟨role, unconfirmed, noIndex, best, chosen, _, _, same⟩
  · rw [same]
    intro isActive i pending
    rw [pendingAt_modify PairEntry.pending_succeed] at pending
    exact holds (activeKept isActive) i pending.2
  · rw [same]
    exact of_inactive rfl
  · rw [same]
    intro isActive i pending
    rcases pendingAt_putForward pending with rfl | earlier
    · exact ⟨role, rfl, unconfirmed⟩
    · rw [pendingAt_modify PairEntry.pending_succeed] at earlier
      have isIdx := (holds (activeKept isActive) i earlier.2).2.1
      exact absurd (noIndex.symm.trans isIdx) (Option.some_ne_none i).symm

/-- A datagram that does not take the role from an agent with a pair put forward. -/
theorem react (holds : agent.NominatesInControl) {data : Bytes} {source : Address}
    (notLost : agent.losesNomination (.handleIncomingData data source) = false) :
    (agent.react source (agent.reaction data)).NominatesInControl := by
  have kept := fun isActive i pending =>
    not_takesRole holds isActive (i := i) pending notLost
  cases reacts : agent.reaction data with
  | ignored => exact holds
  | unanswered parsed =>
      rw [reacts] at kept
      refine resolveRoleConflict holds ?_
      intro isActive i pending
      exact of_decide_eq_false (kept isActive i pending)
  | accepted parsed =>
      rw [reacts] at kept
      exact acceptRequest holds kept
  | conflict =>
      rw [reacts] at kept
      change agent.handleRoleConflict.NominatesInControl
      rw [handleRoleConflict_eq]
      intro isActive i pending
      dsimp only at pending
      rw [pendingAt_restartUnanswered] at pending
      cases kept isActive i pending
  | acknowledged idx =>
      rcases reaction_acknowledged reacts with ⟨parsed, _, _, isIdx⟩
      rcases pairOfTransaction_some isIdx with ⟨pair, found, _⟩
      exact acknowledge holds found

end NominatesInControl

/-! ## The requests of a round -/

/-- The datagram of a check is the Binding request with the role and the
USE-CANDIDATE that are recorded of it. -/
def SentCheck.Built (crypto : Crypto) (check : SentCheck) : Prop :=
  exists username priority tieBreaker remotePwd,
    check.action.data = (buildIceBindingRequest crypto username priority check.controlling tieBreaker
      check.useCandidate remotePwd check.transactionId).data

theorem sendCheck_built (crypto : Crypto) (agent : IceAgent) (now i : Nat) (pair : PairEntry)
    (id : TransactionId) : (sendCheck crypto agent now i pair id).Built crypto :=
  ⟨_, _, _, _, rfl⟩

theorem tickChecks_built (crypto : Crypto) (ids : Nat -> TransactionId) {agent : IceAgent}
    {next now : Nat} {check : SentCheck} (sent : check ∈ (agent.tickChecks crypto ids next now).2.1) :
    check.Built crypto := by
  rcases tickChecks_cases crypto ids next agent now with ⟨_, same⟩ | ⟨_, state, _, same⟩
  · rw [same] at sent
    cases sent
  · rw [same] at sent
    rcases tickPairs_checks crypto ids agent now 0 agent.checkList next check sent with
      ⟨k, pair, m, _, _, _, _, rfl, _⟩
    exact sendCheck_built crypto agent now (0 + k) pair (ids m)

/-- An agent that nominates in control says so in its requests. -/
theorem tickChecks_inControl (crypto : Crypto) (ids : Nat -> TransactionId) {agent : IceAgent}
    (holds : agent.NominatesInControl) {next now : Nat} {check : SentCheck}
    (sent : check ∈ (agent.tickChecks crypto ids next now).2.1)
    (useCandidate : check.useCandidate = true) : check.controlling = true := by
  rcases tickChecks_cases crypto ids next agent now with ⟨_, same⟩ | ⟨running, state, _, same⟩
  · rw [same] at sent
    cases sent
  · rw [same] at sent
    rcases tickPairs_checks crypto ids agent now 0 agent.checkList next check sent with
      ⟨k, pair, m, found, checked, _, _, rfl, _⟩
    have nominated : pair.nominated = true := useCandidate
    have pending : pair.pending = true := by
      unfold skipsPair at checked
      have stillOpen := of_decide_eq_false checked
      push Not at stillOpen
      refine decide_eq_true ⟨nominated, ?_⟩
      cases state : pair.state with
      | waiting => exact Or.inl rfl
      | inProgress => exact Or.inr rfl
      | succeeded => exact absurd state stillOpen.1
      | failed => exact absurd state stillOpen.2.1
    have role := (holds (decide_eq_true running) k (pendingAt_iff.mpr ⟨pair, found, pending⟩)).1
    change agent.role.isControlling = true
    rw [role]
    rfl

/-! ## A role that is lost -/

/-- A controlled agent that still checks a pair it put forward. -/
def Demoted (agent : IceAgent) : Prop :=
  agent.role = .controlled ∧ agent.active = true ∧
    exists i, agent.nominatedPairIdx = some i ∧ pendingAt agent.checkList i = true

/-- The agent after the role was taken. -/
theorem losesNomination_after {agent after : IceAgent} {data : Bytes} {source : Address}
    {result : HandleDataResult} (lost : agent.losesNomination (.handleIncomingData data source) = true)
    (handled : agent.handleIncomingData data source = .ok (after, result)) : after.Demoted := by
  rcases (Option.any_eq_true _ _).mp lost with ⟨i, isIdx, facts⟩
  rcases of_decide_eq_true facts with ⟨role, isActive, pending, taken⟩
  rw [handleIncomingData_reacts handled]
  cases reacts : agent.reaction data with
  | ignored =>
      rw [reacts] at taken
      cases taken
  | unanswered parsed =>
      rw [reacts] at taken
      change (agent.resolveRoleConflict parsed.controlling).Demoted
      rcases resolveRoleConflict_cases agent parsed.controlling with ⟨_, unclaimed⟩ | ⟨_, _, same⟩
      · exact absurd ⟨of_decide_eq_true taken, role⟩ unclaimed
      · rw [same]
        exact ⟨rfl, isActive, i, isIdx, pending⟩
  | accepted parsed =>
      rw [reacts] at taken
      rcases of_decide_eq_true taken with ⟨claims, elsewhere⟩
      have resolved : agent.resolveRoleConflict parsed.controlling =
          { agent with role := .controlled } := by
        rcases resolveRoleConflict_cases agent parsed.controlling with ⟨_, unclaimed⟩ | ⟨_, _, same⟩
        · exact absurd ⟨claims, role⟩ unclaimed
        · exact same
      have activeAfter : active { agent with state := contacted agent.state } = true := by
        rw [NominatesInControl.active_contacted]
        exact isActive
      change (agent.acceptRequest parsed source).Demoted
      unfold acceptRequest
      rw [noteContact_eq, resolved]
      rcases markPair_cases { agent with role := .controlled } parsed.useCandidate source with
        ⟨_, same⟩ | ⟨idx, isPair, ⟨asked, _, same⟩ | ⟨_, same⟩⟩
      · rw [same]
        exact ⟨rfl, activeAfter, i, isIdx, pending⟩
      · have unasked := of_decide_eq_true ((Option.all_eq_true _ _).mp elsewhere idx isPair)
        exact absurd (unasked.2.symm.trans asked) Bool.false_ne_true
      · have other := of_decide_eq_true ((Option.all_eq_true _ _).mp elsewhere idx isPair)
        rw [same]
        refine ⟨rfl, activeAfter, i, isIdx, ?_⟩
        exact (pendingAt_modify PairEntry.pending_succeed _ _ _).mpr ⟨Ne.symm other.1, pending⟩
  | conflict =>
      refine ⟨?_, isActive, i, isIdx, ?_⟩
      · change agent.role.switched = .controlled
        rw [role]
        rfl
      · exact (pendingAt_restartUnanswered agent.checkList i).trans pending
  | acknowledged idx =>
      rw [reacts] at taken
      cases taken

/-- The check of that pair is sent when its time has come. -/
theorem tickChecks_nominates (crypto : Crypto) (ids : Nat -> TransactionId) {agent : IceAgent}
    (demoted : agent.Demoted) (next : Nat) :
    exists now check, check ∈ (agent.tickChecks crypto ids next now).2.1 ∧
      check.useCandidate = true ∧ check.controlling = false := by
  rcases demoted with ⟨role, isActive, i, isIdx, pending⟩
  rcases pendingAt_iff.mp pending with ⟨pair, found, isPending⟩
  rcases of_decide_eq_true isPending with ⟨nominated, stillOpen⟩
  let now := pair.lastSentTimeMs + pair.retransmitTimerMs
  have due : agent.skipsPair now (0 + i) pair = false := by
    rcases stillOpen with state | state <;> simp [skipsPair, state, isIdx, now]
  rcases tickPairs_sends crypto ids agent now 0 agent.checkList next i pair found due with
    ⟨m, _, _, sent, _⟩
  refine ⟨now, sendCheck crypto agent now (0 + i) pair (ids m), ?_, nominated, ?_⟩
  · rw [tickChecks_running crypto ids (of_decide_eq_true isActive)]
    exact sent
  · change agent.role.isControlling = false
    rw [role]
    rfl

end IceAgent

/-! ## Runs -/

/-- The step does not take the role from an agent with a pair put forward. -/
def KeepsNomination (before : AgentRun) (op : AgentOp) : Prop :=
  before.agent.losesNomination op = false

instance (before : AgentRun) (op : AgentOp) : Decidable (KeepsNomination before op) :=
  inferInstanceAs (Decidable (_ = false))

namespace AgentRun

variable {crypto : Crypto} {ids : Nat -> TransactionId} {isControlling : Bool} {seed : AgentSeed}

/-- The agent nominates in control, and its requests so far did. -/
structure NominatedInControl (crypto : Crypto) (run : AgentRun) : Prop where
  agent : run.agent.NominatesInControl
  checks : forall check, check ∈ run.checks ->
    check.Built crypto ∧ (check.useCandidate = true -> check.controlling = true)

theorem nominatedInControl_step {before after : AgentRun} {op : AgentOp}
    (holds : before.NominatedInControl crypto) (kept : KeepsNomination before op)
    (stepped : (agentSystem crypto ids isControlling seed).step before op after) :
    after.NominatedInControl crypto := by
  rcases stepped with ⟨output, called⟩
  rcases call_cases called with ⟨agent, configures, rfl⟩ | ⟨_, rfl⟩ | ⟨now, _, rfl⟩ |
    ⟨data, source, agent, result, rfl, handled, rfl⟩ | ⟨_, rfl⟩
  · refine ⟨?_, holds.checks⟩
    have same := configures.progress
    simp only [IceAgent.progress, IceAgent.Progress.mk.injEq] at same
    rcases same with ⟨state, role, checkList, idx, confirmed⟩
    intro isActive i pending
    unfold IceAgent.active at isActive
    dsimp only at isActive pending ⊢
    rw [state] at isActive
    rw [checkList] at pending
    rw [role, idx, confirmed]
    exact holds.agent isActive i pending
  · exact ⟨.startChecks before.agent, holds.checks⟩
  · refine ⟨holds.agent.tickChecks crypto ids before.next now, ?_⟩
    intro check member
    rcases List.mem_append.mp member with earlier | sent
    · exact holds.checks check earlier
    · exact ⟨IceAgent.tickChecks_built crypto ids sent,
        IceAgent.tickChecks_inControl crypto ids holds.agent sent⟩
  · refine ⟨?_, holds.checks⟩
    rw [IceAgent.handleIncomingData_reacts handled]
    exact holds.agent.react kept
  · exact ⟨.of_inactive rfl, holds.checks⟩

/-- **Nominations in control.**  In a run in which no datagram takes the role from
an agent with a pair put forward, every request with USE-CANDIDATE claims the
controlling role.  The condition leaves out no more than it has to: after a
datagram that does take the role, a round at the right time sends a request
with USE-CANDIDATE in the controlled role. -/
theorem nominates_in_control {run : AgentRun}
    (reachable : ((agentSystem crypto ids isControlling seed).restrict KeepsNomination).Reachable
      run) :
    (forall check, check ∈ run.checks ->
      check.Built crypto ∧ (check.useCandidate = true -> check.controlling = true)) ∧
    forall op after, (agentSystem crypto ids isControlling seed).step run op after ->
      ¬ KeepsNomination run op ->
      exists now later check, (agentSystem crypto ids isControlling seed).step after (.tick now) later ∧
        check ∈ later.checks ∧ check.useCandidate = true ∧ check.controlling = false := by
  constructor
  · have holds : run.NominatedInControl crypto := by
      refine TransitionSystem.Reachable.invariant (NominatedInControl crypto) reachable ?_ ?_
      · intro run isNew
        rw [isNew]
        refine ⟨fun _ i pending => (by cases pending), ?_⟩
        intro check member
        cases member
      · intro before op after holds stepped
        exact nominatedInControl_step holds stepped.1 stepped.2
    exact holds.checks
  · rintro op after ⟨output, called⟩ lost
    have isLost : run.agent.losesNomination op = true := Bool.eq_true_of_not_eq_false lost
    cases op with
    | handleIncomingData data source =>
        rcases Checked.bind_eq_ok.mp called with ⟨⟨agent, result⟩, handled, rest⟩
        cases rest
        rcases IceAgent.tickChecks_nominates crypto ids
          (IceAgent.losesNomination_after isLost handled) run.next with
          ⟨now, check, sent, useCandidate, controlled⟩
        exact ⟨now, _, check, ⟨_, rfl⟩, List.mem_append_right _ sent, useCandidate, controlled⟩
    | _ => cases isLost

/-- A controlling agent nominates the pair whose check was answered. -/
theorem nominates_in_control_answered :
    exists (run : AgentRun) (check : IceAgent.SentCheck), check ∈ run.checks ∧
      check.useCandidate = true ∧ check.controlling = true := by
  have ends : ((new true (uniformSeed 0 0)).calls zeroCrypto countingIds
      (fun before op => decide (KeepsNomination before op))
      (setupCalls ++ [.tick 500, .handleIncomingData (responseTo 0) peerAddress, .tick 2000])).any
      (fun run => run.checks.any fun check => check.useCandidate) = true := by
    decide +kernel
  rcases exists_run KeepsNomination (fun _ _ => of_decide_eq_true) ends with ⟨run, reachable, test⟩
  rcases List.any_eq_true.mp test with ⟨check, member, useCandidate⟩
  exact ⟨run, check, member, useCandidate,
    ((nominates_in_control reachable).1 check member).2 useCandidate⟩

/-- A response 487 arrives between the nomination and the check that carries it. -/
def demotedCalls : List AgentOp :=
  setupCalls ++ [.tick 500, .handleIncomingData (responseTo 0) peerAddress,
    .handleIncomingData roleConflictResponse peerAddress, .tick 2000]

theorem nominates_as_controlled :
    ¬ forall (crypto : Crypto) (ids : Nat -> TransactionId) (isControlling : Bool)
      (seed : AgentSeed) (run : AgentRun),
      (agentSystem crypto ids isControlling seed).Reachable run ->
      forall check, check ∈ run.checks -> check.useCandidate = true -> check.controlling = true := by
  intro claim
  have ends : ((new true (uniformSeed 0 0)).calls zeroCrypto countingIds (fun _ _ => true)
      demotedCalls).any
      (fun run => run.checks.any fun check => check.useCandidate ∧ check.controlling = false) =
        true := by
    decide +kernel
  rcases exists_run (fun _ _ => True) (fun _ _ _ => trivial) ends with ⟨run, reachable, test⟩
  rcases List.any_eq_true.mp test with ⟨check, member, nominates⟩
  rcases of_decide_eq_true nominates with ⟨useCandidate, controlled⟩
  have inControl := claim _ _ _ _ run reachable.of_restrict check member useCandidate
  rw [controlled] at inControl
  cases inControl

/-- On the wire that request has USE-CANDIDATE and ICE-CONTROLLED. -/
example : ((new true (uniformSeed 0 0)).calls zeroCrypto countingIds (fun _ _ => true)
    demotedCalls).any
    (fun run => run.checks.any fun check =>
      (parseIceStunMessage check.action.data).toOption.any fun parsed =>
        parsed.useCandidate ∧ parsed.controlling = some false) = true := by
  decide +kernel

end AgentRun

end P2pSdk
