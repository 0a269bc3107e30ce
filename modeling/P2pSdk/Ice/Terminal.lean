import P2pSdk.Ice.AgentHistory

namespace P2pSdk

open Foundation

/-!
# Leaving a terminal state

`tick` passes over a FAILED or CLOSED agent.  The handlers of datagrams move
an agent to CONNECTED only from the states before it, but to COMPLETED from
any state.  A FAILED agent keeps its pairs, its nomination and the transaction
ids of its last checks, so a late nomination or a late answer revives it.  A
CLOSED agent has no pairs left, and nothing finds one.
-/

namespace IceAgent

/-- The datagram is a nomination by the peer, or the answer to the latest
check of the pair put forward, and the agent has confirmed no pair yet. -/
def revives (agent : IceAgent) : AgentOp -> Bool
  | .handleIncomingData data source =>
      match agent.reaction data with
      | .accepted parsed => (agent.pairOfRemote source).isSome ∧ parsed.useCandidate ∧
          (agent.resolveRoleConflict parsed.controlling).role = .controlled ∧
          agent.nominatedPairConfirmed = false
      | .acknowledged idx => agent.role = .controlling ∧ agent.nominatedPairConfirmed = false ∧
          agent.nominatedPairIdx = some idx
      | _ => false
  | _ => false

/-- The agent has given up or is closed. -/
def IsTerminal (agent : IceAgent) : Prop := agent.state = .failed ∨ agent.state = .closed

namespace IsTerminal

variable {agent : IceAgent}

theorem notCompleted (terminal : agent.IsTerminal) : agent.state ≠ .completed := by
  rcases terminal with same | same <;> simp [same]

theorem contacted (terminal : agent.IsTerminal) :
    IceAgent.contacted agent.state = agent.state := by
  rcases terminal with same | same <;> simp [IceAgent.contacted, same]

theorem acknowledged (terminal : agent.IsTerminal) :
    IceAgent.acknowledged agent.state = agent.state := by
  rcases terminal with same | same <;> simp [IceAgent.acknowledged, same]

/-- A request moves a terminal agent exactly when the peer nominates a first pair. -/
theorem accept_iff (terminal : agent.IsTerminal) (parsed : ParsedStunMessage) (source : Address) :
    (agent.acceptRequest parsed source).state = agent.state <->
      ¬ ((agent.pairOfRemote source).isSome = true ∧ parsed.useCandidate = true ∧
        (agent.resolveRoleConflict parsed.controlling).role = .controlled ∧
        agent.nominatedPairConfirmed = false) := by
  have resolved : (agent.resolveRoleConflict parsed.controlling).state = agent.state ∧
      (agent.resolveRoleConflict parsed.controlling).pairOfRemote source =
        agent.pairOfRemote source ∧
      (agent.resolveRoleConflict parsed.controlling).nominatedPairConfirmed =
        agent.nominatedPairConfirmed := by
    rw [resolveRoleConflict_eq]
    exact ⟨rfl, rfl, rfl⟩
  rcases resolved with ⟨state, search, confirmed⟩
  unfold acceptRequest
  rw [noteContact_eq]
  dsimp only
  rcases markPair_cases (agent.resolveRoleConflict parsed.controlling) parsed.useCandidate source
    with ⟨noPair, same⟩ | ⟨idx, isPair, ⟨useCandidate, role, same⟩ | ⟨notChosen, same⟩⟩
  · rw [search] at noPair
    rw [same, state, terminal.contacted, noPair]
    simp
  · rw [search] at isPair
    rw [same, confirmed, isPair, useCandidate, role]
    cases agent.nominatedPairConfirmed with
    | true =>
        dsimp only
        rw [if_pos rfl, state, terminal.contacted]
        simp
    | false =>
        simp [IceAgent.contacted, terminal.notCompleted.symm]
  · rw [same]
    dsimp only
    rw [state, terminal.contacted]
    refine iff_of_true rfl ?_
    rintro ⟨_, useCandidate, role, _⟩
    exact notChosen ⟨useCandidate, role⟩

/-- A response moves a terminal agent exactly when it confirms the nomination. -/
theorem acknowledge_iff (terminal : agent.IsTerminal) {idx : Nat} {pair : PairEntry}
    (found : agent.checkList[idx]? = some pair) :
    (agent.acknowledgePair idx).state = agent.state <->
      ¬ (agent.role = .controlling ∧ agent.nominatedPairConfirmed = false ∧
        agent.nominatedPairIdx = some idx) := by
  rcases acknowledgePair_cases agent found with
    ⟨other, same⟩ | ⟨role, unconfirmed, nominated, same⟩ | ⟨_, _, noIndex, best, chosen, _, _, same⟩
  · rw [same]
    refine iff_of_true terminal.acknowledged ?_
    rintro ⟨role, unconfirmed, nominated⟩
    rcases other with isControlled | confirmed | ⟨elsewhere, isOther, known⟩
    · cases role.symm.trans isControlled
    · cases unconfirmed.symm.trans confirmed
    · exact isOther (Option.some.inj (known.symm.trans nominated))
  · rw [same]
    refine iff_of_false terminal.notCompleted.symm ?_
    intro contrary
    exact contrary ⟨role, unconfirmed, nominated⟩
  · rw [same]
    refine iff_of_true terminal.acknowledged ?_
    rintro ⟨_, _, nominated⟩
    cases noIndex.symm.trans nominated

/-- A datagram moves a terminal agent exactly when it revives it. -/
theorem react_iff (terminal : agent.IsTerminal) (data : Bytes) (source : Address) :
    (agent.react source (agent.reaction data)).state = agent.state <->
      agent.revives (.handleIncomingData data source) = false := by
  unfold revives
  dsimp only
  cases reacts : agent.reaction data with
  | ignored => exact iff_of_true rfl rfl
  | unanswered parsed =>
      refine iff_of_true ?_ rfl
      rw [react, resolveRoleConflict_eq]
  | accepted parsed =>
      rw [react, terminal.accept_iff parsed source]
      exact decide_eq_false_iff_not.symm
  | conflict => exact iff_of_true rfl rfl
  | acknowledged idx =>
      rcases reaction_acknowledged reacts with ⟨parsed, _, _, isIdx⟩
      rcases pairOfTransaction_some isIdx with ⟨pair, found, _⟩
      rw [react, terminal.acknowledge_iff found]
      exact decide_eq_false_iff_not.symm

end IsTerminal

end IceAgent

namespace AgentRun

variable {crypto : Crypto} {ids : Nat -> TransactionId} {isControlling : Bool} {seed : AgentSeed}

/-- A closed agent has no pairs. -/
theorem closed_empty {run : AgentRun}
    (reachable : (agentSystem crypto ids isControlling seed).Reachable run) :
    run.agent.state = .closed -> run.agent.checkList = [] := by
  have keep : forall {before after : IceAgent},
      (before.state = .closed -> before.checkList = []) -> after.state = before.state ->
      (before.checkList = [] -> after.checkList = []) ->
      (after.state = .closed -> after.checkList = []) :=
    fun held state empty isClosed => empty (held (state.symm.trans isClosed))
  refine agent_invariant (fun agent => agent.state = .closed -> agent.checkList = []) reachable
    (fun _ => rfl) ?_ ?_ ?_ ?_ (fun _ _ _ => rfl)
  · intro before after held configures
    exact keep held configures.state fun empty => configures.checkList.trans empty
  · intro agent _ isClosed
    by_cases started : agent.startChecks.2 = .ok ()
    · rw [(IceAgent.startChecks_ok started).2.2.2] at isClosed
      cases isClosed
    · rw [IceAgent.startChecks_error started] at isClosed
      cases isClosed
  · intro agent next now held
    rcases IceAgent.tickChecks_cases crypto ids next agent now with
      ⟨_, same⟩ | ⟨open_, state, isState, same⟩
    · rw [same]
      exact held
    · rw [same]
      intro isClosed
      rcases isState with rfl | rfl
      · exact absurd (Or.inr (Or.inr isClosed)) open_
      · cases isClosed
  · intro agent data source after result held handled isClosed
    have kept := (IceAgent.handleIncomingData_pairs handled).length
    rcases IceAgent.handleIncomingData_state handled with same | completed | ⟨connected, _⟩
    · rw [held (same.symm.trans isClosed)] at kept
      exact List.length_eq_zero_iff.mp kept
    · cases isClosed.symm.trans completed
    · cases isClosed.symm.trans connected

/-- Without pairs nothing revives an agent. -/
theorem revives_empty {agent : IceAgent} (empty : agent.checkList = []) (op : AgentOp) :
    agent.revives op = false := by
  cases op with
  | handleIncomingData data source =>
      unfold IceAgent.revives
      dsimp only
      cases reacts : agent.reaction data with
      | accepted parsed => simp [IceAgent.pairOfRemote, empty]
      | acknowledged idx =>
          rcases IceAgent.reaction_acknowledged reacts with ⟨parsed, _, _, isIdx⟩
          rcases IceAgent.pairOfTransaction_some isIdx with ⟨pair, found, _⟩
          rw [empty] at found
          cases found
      | ignored => rfl
      | unanswered parsed => rfl
      | conflict => rfl
  | _ => rfl

/-- An operation other than `start_checks` and `stop` leaves a FAILED or CLOSED
agent as it is, and `tick` returns nothing, exactly when it does not revive the
agent.  Nothing revives a CLOSED one. -/
theorem terminal_iff {before after : AgentRun} {op : AgentOp} {output : AgentOutput}
    (reachable : (agentSystem crypto ids isControlling seed).Reachable before)
    (terminal : before.agent.IsTerminal) (noStart : op ≠ .startChecks) (noStop : op ≠ .stop)
    (called : before.call crypto ids op = .ok (after, output)) :
    ((after.agent.state = before.agent.state ∧
        forall actions, output = .requests actions -> actions = []) <->
      before.agent.revives op = false) ∧
    (before.agent.state = .closed -> before.agent.revives op = false) := by
  refine ⟨?_, fun isClosed => revives_empty (closed_empty reachable isClosed) op⟩
  cases op with
  | startChecks => exact absurd rfl noStart
  | stop => exact absurd rfl noStop
  | tick now =>
      have isOver : before.agent.state = .completed ∨ before.agent.state = .failed ∨
          before.agent.state = .closed := Or.inr terminal
      have quiet : before.agent.tickChecks crypto ids before.next now =
          (before.agent, [], before.next) := if_pos isOver
      simp only [call, quiet, Checked.pure_eq_ok, Except.ok.injEq, Prod.mk.injEq] at called
      rw [← called.1, ← called.2]
      refine iff_of_true ⟨rfl, ?_⟩ rfl
      intro actions same
      cases same
      rfl
  | handleIncomingData data source =>
      rcases Checked.bind_eq_ok.mp called with ⟨⟨agent, result⟩, handled, rest⟩
      cases rest
      have isAgent := IceAgent.handleIncomingData_reacts handled
      subst isAgent
      rw [← terminal.react_iff data source]
      constructor
      · intro kept
        exact kept.1
      · intro same
        exact ⟨same, fun actions other => by cases other⟩
  | addLocalCandidate cand =>
      cases called
      exact iff_of_true ⟨rfl, fun actions other => by cases other⟩ rfl
  | addHostCandidate addr port =>
      cases called
      exact iff_of_true ⟨rfl, fun actions other => by cases other⟩ rfl
  | setRemoteSessionDescription desc =>
      have configures := IceAgent.setRemoteSessionDescription_configures before.agent desc
      cases called
      exact iff_of_true ⟨configures.state, fun actions other => by cases other⟩ rfl
  | addRemoteCandidate line =>
      have configures := IceAgent.addRemoteCandidate_configures before.agent line
      cases called
      exact iff_of_true ⟨configures.state, fun actions other => by cases other⟩ rfl
  | setRemotePwd pwd =>
      cases called
      exact iff_of_true ⟨rfl, fun actions other => by cases other⟩ rfl
  | sendData data =>
      cases called
      exact iff_of_true ⟨rfl, fun actions other => by cases other⟩ rfl

/-- A controlling agent whose nomination was never answered. -/
def givenUpCalls : List AgentOp :=
  setupCalls ++ [.tick 500, .handleIncomingData (responseTo 0) peerAddress, .tick 1000, .tick 2000,
    .tick 4000, .tick 8000, .tick 16000, .tick 32000, .tick 48000]

/-- The late answer to an earlier transmission changes nothing. -/
theorem failed_remains :
    exists (before after : AgentRun) (output : AgentOutput),
      before.agent.state = .failed ∧
      before.call zeroCrypto countingIds (.handleIncomingData (responseTo 6) peerAddress) =
        .ok (after, output) ∧ after.agent.state = .failed := by
  have ends : ((new true (uniformSeed 0 0)).calls zeroCrypto countingIds (fun _ _ => true)
      givenUpCalls).any (fun before => (before.calls zeroCrypto countingIds (fun _ _ => true)
        [.handleIncomingData (responseTo 6) peerAddress]).any fun _ =>
          before.agent.state = .failed ∧
            before.agent.revives (.handleIncomingData (responseTo 6) peerAddress) = false) =
        true := by
    decide +kernel
  rcases exists_step (fun _ _ => True) (fun _ _ _ => trivial) ends with ⟨before, after, step, test⟩
  rcases of_decide_eq_true test with ⟨isFailed, quiet⟩
  rcases step with ⟨reachable, _, output, called⟩
  have kept := (terminal_iff reachable.of_restrict (Or.inl isFailed) (by simp) (by simp)
    called).1.mpr quiet
  exact ⟨before, after, output, isFailed, called, kept.1.trans isFailed⟩

/-- The late answer to the last transmission completes the agent. -/
theorem failed_completes :
    ¬ forall (crypto : Crypto) (ids : Nat -> TransactionId) (isControlling : Bool)
      (seed : AgentSeed) (before after : AgentRun) (op : AgentOp) (output : AgentOutput),
      (agentSystem crypto ids isControlling seed).Reachable before -> before.agent.IsTerminal ->
      op ≠ .startChecks -> op ≠ .stop -> before.call crypto ids op = .ok (after, output) ->
      after.agent.state = before.agent.state ∧
        forall actions, output = .requests actions -> actions = [] := by
  intro claim
  have ends : ((new true (uniformSeed 0 0)).calls zeroCrypto countingIds (fun _ _ => true)
      givenUpCalls).any (fun before => (before.calls zeroCrypto countingIds (fun _ _ => true)
        [.handleIncomingData (responseTo 7) peerAddress]).any fun after =>
          before.agent.state = .failed ∧ after.agent.state = .completed) = true := by
    decide +kernel
  rcases exists_step (fun _ _ => True) (fun _ _ _ => trivial) ends with ⟨before, after, step, test⟩
  rcases of_decide_eq_true test with ⟨isFailed, isCompleted⟩
  rcases step with ⟨reachable, _, output, called⟩
  have kept := (claim _ _ _ _ before after _ output reachable.of_restrict (Or.inl isFailed)
    (by simp) (by simp) called).1
  rw [isFailed, isCompleted] at kept
  cases kept

end AgentRun

end P2pSdk
