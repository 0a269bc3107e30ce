import P2pSdk.Ice.AgentRun

namespace P2pSdk

open Foundation

/-!
# Completion by an acknowledged nomination

A controlling agent should complete on the answer to a request that carried
USE-CANDIDATE.  `nominate_best` leaves the transaction id of the earlier plain
check in place, so an answer to that check completes the agent as well.  A
restart with a nomination pending does the same: the new list has no pair put
forward, while the nominated index is kept.

What decides is the record `announced` of a run: once `tick` has sent
USE-CANDIDATE on the pair put forward, every answer that can still complete
the agent is an answer to such a request.
-/

namespace AgentRun

/-- A step moves the agent to COMPLETED and leaves it controlling. -/
structure CompletesControlling (before after : AgentRun) : Prop where
  notYet : before.agent.state ≠ .completed
  isCompleted : after.agent.state = .completed
  role : after.agent.role = .controlling

/-- The step handles a success response to a request that `tick` returned for
the nominated pair and that carried USE-CANDIDATE. -/
def AcknowledgesNomination (before : AgentRun) (op : AgentOp) (after : AgentRun) : Prop :=
  exists data source parsed check, op = .handleIncomingData data source ∧
    parseIceStunMessage data = .ok parsed ∧ parsed.isResponse = true ∧
    check ∈ before.checks ∧ after.agent.nominatedPairIdx = some check.pair ∧
    check.useCandidate = true ∧ check.transactionId.bytes = parsed.transactionId

/-- The operation handles a success response to the latest check of a pair
that a controlling agent has put forward and not confirmed. -/
def answersPending (agent : IceAgent) : AgentOp -> Bool
  | .handleIncomingData data _ =>
      match parseIceStunMessage data with
      | .ok parsed =>
          parsed.isResponse ∧ agent.role = .controlling ∧ agent.nominatedPairConfirmed = false ∧
            agent.nominatedPairIdx.isSome ∧
            agent.pairOfTransaction parsed.transactionId = agent.nominatedPairIdx
      | .error _ => false
  | _ => false

/-- No answer to the latest check of a pending nomination arrives before the
nomination was announced. -/
def AnsweredOnceAnnounced (before : AgentRun) (op : AgentOp) : Prop :=
  answersPending before.agent op = true -> before.announced = true

instance (before : AgentRun) (op : AgentOp) : Decidable (AnsweredOnceAnnounced before op) :=
  inferInstanceAs (Decidable (answersPending before.agent op = true -> before.announced = true))

/-- An announced nomination: the latest request of the nominated pair carried
USE-CANDIDATE, and so will the next. -/
def AnnouncedSound (run : AgentRun) : Prop :=
  run.announced = true -> exists pair check, check ∈ run.checks ∧ check.useCandidate = true ∧
    run.agent.nominatedPairIdx = some check.pair ∧ run.agent.checkList[check.pair]? = some pair ∧
    pair.nominated = true ∧ check.transactionId.bytes = pair.transactionId

variable {crypto : Crypto} {ids : Nat -> TransactionId} {isControlling : Bool} {seed : AgentSeed}

/-- A round keeps the announcement on the latest request: if it checks the
nominated pair again, the new request is the one to answer. -/
theorem tick_announcedSound {run : AgentRun} (sound : run.AnnouncedSound) (now : Nat) :
    AnnouncedSound
      { agent := (run.agent.tickChecks crypto ids run.next now).1
        next := (run.agent.tickChecks crypto ids run.next now).2.2
        checks := run.checks ++ (run.agent.tickChecks crypto ids run.next now).2.1
        announced := run.announced ||
          announces run.agent (run.agent.tickChecks crypto ids run.next now).2.1 } := by
  intro isAnnounced
  rcases IceAgent.tickChecks_cases crypto ids run.next run.agent now with
    ⟨_, same⟩ | ⟨_, state, _, same⟩
  · rw [same] at isAnnounced ⊢
    rw [show announces run.agent [] = false from rfl, Bool.or_false] at isAnnounced
    rw [List.append_nil]
    exact sound isAnnounced
  rw [same] at isAnnounced ⊢
  dsimp only at isAnnounced ⊢
  by_cases newly : announces run.agent
      (IceAgent.tickPairs crypto ids run.agent now 0 run.agent.checkList run.next).2.1 = true
  · rcases List.any_eq_true.mp newly with ⟨check, isNew, carries⟩
    rw [decide_eq_true_eq] at carries
    rcases IceAgent.tickPairs_checks crypto ids run.agent now 0 run.agent.checkList run.next check
      isNew with ⟨k, pair, m, _, _, _, _, isCheck, isAfter⟩
    have here : check.pair = k := by
      rw [isCheck]
      exact Nat.zero_add k
    rw [← here] at isAfter
    refine ⟨_, check, List.mem_append_right _ isNew, carries.1, carries.2, isAfter, ?_, ?_⟩
    · rw [IceAgent.pairAfterCheck_nominated, ← carries.1, isCheck]
      rfl
    · rw [IceAgent.pairAfterCheck_transactionId, isCheck]
      rfl
  · have old : run.announced = true := by
      rcases Bool.or_eq_true_iff.mp isAnnounced with old | contrary
      · exact old
      · exact absurd contrary newly
    rcases sound old with ⟨pair, check, sent, carries, known, found, nominated, latest⟩
    rcases (IceAgent.tickPairs_pairs crypto ids run.agent now 0 run.agent.checkList run.next).2.2
      check.pair pair found with ⟨after, isAfter, round⟩
    rcases round with ⟨_, rfl⟩ | ⟨_, _, _, checked, _⟩
    · exact ⟨after, check, List.mem_append_left _ sent, carries, known, isAfter, nominated, latest⟩
    · -- The nominated pair was checked: the round itself announces it again.
      rcases IceAgent.tickPairs_sends crypto ids run.agent now 0 run.agent.checkList run.next
        check.pair pair found checked with ⟨m, _, _, isNew, _⟩
      apply absurd _ newly
      refine List.any_eq_true.mpr ⟨_, isNew, ?_⟩
      rw [decide_eq_true_eq]
      refine ⟨nominated, ?_⟩
      rw [known]
      exact congrArg some (Nat.zero_add check.pair).symm

/-- A datagram that keeps the nominated index keeps the announcement. -/
theorem handle_announcedSound {run : AgentRun} (sound : run.AnnouncedSound) {agent : IceAgent}
    {data : Bytes} {source : Address} {result : HandleDataResult}
    (handled : run.agent.handleIncomingData data source = .ok (agent, result)) :
    AnnouncedSound { run with
      agent := agent
      announced := run.announced && agent.nominatedPairIdx == run.agent.nominatedPairIdx } := by
  intro isAnnounced
  rcases Bool.and_eq_true_iff.mp isAnnounced with ⟨old, same⟩
  rcases sound old with ⟨pair, check, sent, carries, known, found, nominated, latest⟩
  rcases (IceAgent.handleIncomingData_pairs handled).kept check.pair pair found with
    ⟨later, isLater, kept⟩
  refine ⟨later, check, sent, carries, ?_, isLater, kept.nominated nominated, ?_⟩
  · exact (beq_iff_eq.mp same).trans known
  · rw [kept.transactionId]
    exact latest

theorem announcedSound_of_reachable {run : AgentRun}
    (reachable : (agentSystem crypto ids isControlling seed).Reachable run) :
    run.AnnouncedSound := by
  refine TransitionSystem.Reachable.invariant AnnouncedSound reachable ?_ ?_
  · intro run isNew isAnnounced
    rw [isNew] at isAnnounced
    cases isAnnounced
  · intro before op after sound stepped
    rcases stepped with ⟨output, called⟩
    rcases call_cases called with ⟨agent, configures, rfl⟩ | ⟨_, rfl⟩ | ⟨now, _, rfl⟩ |
      ⟨data, source, agent, result, _, handled, rfl⟩ | ⟨_, rfl⟩
    · intro isAnnounced
      rcases sound isAnnounced with ⟨pair, check, sent, carries, known, found, rest⟩
      refine ⟨pair, check, sent, carries, ?_, ?_, rest⟩
      · exact configures.nominatedPairIdx.trans known
      · dsimp only
        rw [configures.checkList]
        exact found
    · intro isAnnounced
      rcases Bool.and_eq_true_iff.mp isAnnounced with ⟨notStarted, old⟩
      have failed : before.agent.startChecks.2 ≠ .ok () := by
        intro started
        rw [started] at notStarted
        cases notStarted
      dsimp only
      rw [IceAgent.startChecks_error failed]
      exact sound old
    · exact tick_announcedSound sound now
    · exact handle_announcedSound sound handled
    · intro isAnnounced
      cases isAnnounced

/-- Only a datagram moves the agent to COMPLETED. -/
theorem completes_by_datagram {before after : AgentRun} {op : AgentOp} {output : AgentOutput}
    (called : before.call crypto ids op = .ok (after, output))
    (notYet : before.agent.state ≠ .completed) (isCompleted : after.agent.state = .completed) :
    exists data source result, op = .handleIncomingData data source ∧
      before.agent.handleIncomingData data source = .ok (after.agent, result) := by
  rcases call_cases called with ⟨agent, configures, rfl⟩ | ⟨_, rfl⟩ | ⟨now, _, rfl⟩ |
    ⟨data, source, agent, result, isOp, handled, rfl⟩ | ⟨_, rfl⟩
  · exact absurd (configures.state.symm.trans isCompleted) notYet
  · by_cases started : before.agent.startChecks.2 = .ok ()
    · rw [(IceAgent.startChecks_ok started).2.2.2] at isCompleted
      cases isCompleted
    · rw [IceAgent.startChecks_error started] at isCompleted
      cases isCompleted
  · rcases IceAgent.tickChecks_cases crypto ids before.next before.agent now with
      ⟨_, same⟩ | ⟨_, state, isState, same⟩
    · rw [same] at isCompleted
      exact absurd isCompleted notYet
    · rw [same] at isCompleted
      rcases isState with isState | isState
      · exact absurd (isState.symm.trans isCompleted) notYet
      · rw [isState] at isCompleted
        cases isCompleted
  · exact ⟨data, source, result, isOp, handled⟩
  · cases isCompleted

/-- In a run in which pending nominations are answered only once announced,
a controlling agent completes on the answer to a request with USE-CANDIDATE
for its nominated pair. -/
theorem completes_acknowledged {before after : AgentRun} {op : AgentOp}
    (step : ((agentSystem crypto ids isControlling seed).restrict
      AnsweredOnceAnnounced).ReachableStep before op after)
    (completes : CompletesControlling before after) : AcknowledgesNomination before op after := by
  rcases step with ⟨reachable, answered, output, called⟩
  rcases completes_by_datagram called completes.notYet completes.isCompleted with
    ⟨data, source, result, isOp, handled⟩
  rcases IceAgent.handleIncomingData_completes handled completes.notYet completes.isCompleted with
    isControlled | ⟨parsed, idx, isParsed, success, role, unconfirmed, nominated, found, remains⟩
  · rw [completes.role] at isControlled
    cases isControlled
  have isAnnounced : before.announced = true := by
    apply answered
    subst isOp
    simp [answersPending, isParsed, success, role, unconfirmed, nominated, found]
  rcases announcedSound_of_reachable reachable.of_restrict isAnnounced with
    ⟨pair, check, sent, carries, known, inList, _, latest⟩
  have same : idx = check.pair := Option.some.inj (nominated.symm.trans known)
  subst same
  rcases IceAgent.pairOfTransaction_some found with ⟨matched, isMatched, transaction⟩
  have samePair : matched = pair := Option.some.inj (isMatched.symm.trans inList)
  refine ⟨data, source, parsed, check, isOp, isParsed, success, sent, remains, carries, ?_⟩
  rw [latest, ← samePair, transaction]

/-- The order of the calls that a controlling agent's session test makes. -/
theorem completes_acknowledged_in_order :
    exists before after,
      CompletesControlling before after ∧
      AcknowledgesNomination before (.handleIncomingData (responseTo 1) peerAddress) after := by
  have ends : ((new true (uniformSeed 0 0)).calls zeroCrypto countingIds
      (fun before op => decide (AnsweredOnceAnnounced before op))
      (setupCalls ++ [.tick 500, .handleIncomingData (responseTo 0) peerAddress, .tick 1000])).any
      (fun before => (before.calls zeroCrypto countingIds
        (fun before op => decide (AnsweredOnceAnnounced before op))
        [.handleIncomingData (responseTo 1) peerAddress]).any fun after =>
          before.agent.state ≠ .completed ∧ after.agent.state = .completed ∧
            after.agent.role = .controlling) = true := by
    decide +kernel
  rcases exists_step AnsweredOnceAnnounced (fun _ _ => of_decide_eq_true) ends with
    ⟨before, after, step, test⟩
  rcases of_decide_eq_true test with ⟨notYet, isCompleted, role⟩
  exact ⟨before, after, ⟨notYet, isCompleted, role⟩,
    completes_acknowledged step ⟨notYet, isCompleted, role⟩⟩

/-- A second copy of the answer to the plain check completes the agent: no
request with USE-CANDIDATE was sent, and no transaction id was drawn twice. -/
theorem completes_on_duplicate :
    ¬ forall (crypto : Crypto) (ids : Nat -> TransactionId) (isControlling : Bool)
      (seed : AgentSeed) (before : AgentRun) (op : AgentOp) (after : AgentRun),
      (agentSystem crypto ids isControlling seed).ReachableStep before op after ->
      after.NoRepeat ids -> CompletesControlling before after ->
      AcknowledgesNomination before op after := by
  intro claim
  have ends : ((new true (uniformSeed 0 0)).calls zeroCrypto countingIds (fun _ _ => true)
      (setupCalls ++ [.tick 500, .handleIncomingData (responseTo 0) peerAddress])).any
      (fun before => (before.calls zeroCrypto countingIds (fun _ _ => true)
        [.handleIncomingData (responseTo 0) peerAddress]).any fun after =>
          before.agent.state ≠ .completed ∧ after.agent.state = .completed ∧
            after.agent.role = .controlling ∧ after.next = 1 ∧
            before.checks.all fun check => check.useCandidate = false) = true := by
    decide +kernel
  rcases exists_step (fun _ _ => True) (fun _ _ _ => trivial) ends with
    ⟨before, after, step, test⟩
  rcases of_decide_eq_true test with ⟨notYet, isCompleted, role, drawn, plain⟩
  have noRepeat : after.NoRepeat countingIds := countingIds_injOn (by rw [drawn]; decide)
  rcases claim zeroCrypto countingIds true (uniformSeed 0 0) before _ after
      ⟨step.1.of_restrict, step.2.2⟩ noRepeat ⟨notYet, isCompleted, role⟩ with
    ⟨_, _, _, check, _, _, _, sent, _, carries, _⟩
  have without := of_decide_eq_true (List.all_eq_true.mp plain check sent)
  rw [carries] at without
  cases without

end AgentRun

end P2pSdk
