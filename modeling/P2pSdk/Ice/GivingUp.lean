import P2pSdk.Ice.Transmissions

namespace P2pSdk

open Foundation

/-!
# The last request before giving up

A pair fails when its seventh request is sent, in the same round.  An agent
that still checks has a pair that has not failed, so the round that gives up
has itself sent the last request of a pair, and that request is given no time
to be answered.
-/


namespace IceAgent

/-- Every pair that a request was sent on has waited out the timeout in force
after its last request, the `retransmit_count`-th since its last reset. -/
def AllTimedOut (agent : IceAgent) (now : Nat) : Prop :=
  forall pair, pair ∈ agent.checkList -> pair.transactionId ≠ [] ->
    pair.lastSentTimeMs + retransmissionTimeout pair.retransmitCount ≤ now

/-- There are no pairs, or one that has not failed. -/
def HasOpen (pairs : List PairEntry) : Prop :=
  pairs = [] ∨ exists pair, pair ∈ pairs ∧ pair.state ≠ .failed

theorem HasOpen.modify {pairs : List PairEntry} (isOpen : HasOpen pairs) (i : Nat)
    {update : PairEntry -> PairEntry}
    (keeps : forall pair, pair.state ≠ .failed -> (update pair).state ≠ .failed) :
    HasOpen (pairs.modify i update) := by
  rcases isOpen with empty | ⟨pair, isMember, alive⟩
  · rw [empty]
    exact Or.inl (List.modify_nil update i)
  · rcases List.mem_iff_getElem?.mp isMember with ⟨k, found⟩
    by_cases here : i = k
    · subst here
      exact Or.inr ⟨_, List.mem_of_getElem? (getElem?_modify_self update found), keeps pair alive⟩
    · exact Or.inr ⟨pair, List.mem_of_getElem? ((getElem?_modify_of_ne here).trans found), alive⟩

theorem HasOpen.map {pairs : List PairEntry} (isOpen : HasOpen pairs)
    {update : PairEntry -> PairEntry}
    (keeps : forall pair, pair.state ≠ .failed -> (update pair).state ≠ .failed) :
    HasOpen (pairs.map update) := by
  rcases isOpen with empty | ⟨pair, isMember, alive⟩
  · rw [empty]
    exact Or.inl rfl
  · exact Or.inr ⟨_, List.mem_map_of_mem isMember, keeps pair alive⟩

/-- An agent whose checks are not over has something left to check. -/
def HasOpenPair (agent : IceAgent) : Prop :=
  ¬ (agent.state = .completed ∨ agent.state = .failed ∨ agent.state = .closed) ->
    HasOpen agent.checkList

theorem succeed_alive (pair : PairEntry) (_ : pair.state ≠ .failed) :
    pair.succeed.state ≠ .failed := by
  simp [PairEntry.succeed]

theorem succeedNominated_alive (pair : PairEntry) (_ : pair.state ≠ .failed) :
    pair.succeedNominated.state ≠ .failed := by
  simp [PairEntry.succeedNominated]

theorem putForward_alive (pair : PairEntry) (_ : pair.state ≠ .failed) :
    pair.putForward.state ≠ .failed := by
  simp [PairEntry.putForward]

theorem restartUnanswered_alive (pair : PairEntry) (alive : pair.state ≠ .failed) :
    pair.restartUnanswered.state ≠ .failed := by
  unfold PairEntry.restartUnanswered
  split_ifs
  · simp
  · exact alive

/-- No datagram fails a pair, and none brings the checks back. -/
theorem HasOpenPair.handleIncomingData {agent after : IceAgent} (held : agent.HasOpenPair)
    {data : Bytes} {source : Address} {result : HandleDataResult}
    (handled : agent.handleIncomingData data source = .ok (after, result)) :
    after.HasOpenPair := by
  intro running
  have wasRunning : ¬ (agent.state = .completed ∨ agent.state = .failed ∨
      agent.state = .closed) := by
    intro isOver
    rcases handleIncomingData_state handled with same | completed | ⟨_, early⟩
    · rw [same] at running
      exact running isOver
    · exact running (Or.inl completed)
    · rcases isOver with state | state | state <;> simp [state] at early
  have isOpen := held wasRunning
  rcases handleIncomingData_checkList handled with
    same | ⟨idx, same⟩ | ⟨idx, same⟩ | same | ⟨idx, best, same⟩
  · rw [same]
    exact isOpen
  · rw [same]
    exact isOpen.modify idx succeed_alive
  · rw [same]
    exact isOpen.modify idx succeedNominated_alive
  · rw [same]
    exact isOpen.map restartUnanswered_alive
  · rw [same]
    exact (isOpen.modify idx succeed_alive).modify best putForward_alive

theorem HasOpenPair.startChecks (agent : IceAgent) : agent.startChecks.1.HasOpenPair := by
  by_cases started : agent.startChecks.2 = .ok ()
  · rw [(startChecks_ok started).2.2.2]
    intro _
    dsimp only
    cases isList : agent.allPairs.insertionSort beforeInList with
    | nil => exact Or.inl rfl
    | cons pair rest =>
        have isMember : pair ∈ agent.allPairs.insertionSort beforeInList := by
          rw [isList]
          exact List.mem_cons_self
        rcases mem_allPairs ((List.mem_insertionSort beforeInList).mp isMember) with
          ⟨localCand, remoteCand, _, _, isFresh⟩
        refine Or.inr ⟨pair, List.mem_cons_self, ?_⟩
        rw [isFresh]
        simp [freshPair]
  · rw [startChecks_error started]
    intro running
    exact absurd (Or.inr (Or.inl rfl)) running

variable {crypto : Crypto} {ids : Nat -> TransactionId}

/-- A round either leaves a pair open or gives up. -/
theorem HasOpenPair.tickChecks {agent : IceAgent} (held : agent.HasOpenPair) (next now : Nat) :
    (agent.tickChecks crypto ids next now).1.HasOpenPair := by
  by_cases isOver : agent.state = .completed ∨ agent.state = .failed ∨ agent.state = .closed
  · rcases tickChecks_cases crypto ids next agent now with ⟨_, same⟩ | ⟨running, _⟩
    · rw [same]
      exact held
    · exact absurd isOver running
  · rw [tickChecks_running crypto ids isOver]
    dsimp only
    by_cases isOpen : HasOpen (tickPairs crypto ids agent now 0 agent.checkList next).1
    · intro _
      rcases checkCompletion_cases { agent with
        checkList := (tickPairs crypto ids agent now 0 agent.checkList next).1 } with same | same
      · rw [same]
        exact isOpen
      · rw [same]
        exact isOpen
    · rw [checkCompletion_failed]
      · intro running
        exact absurd (Or.inr (Or.inl rfl)) running
      · exact fun empty => isOpen (Or.inl empty)
      · intro pair isMember
        by_contra alive
        exact isOpen (Or.inr ⟨pair, isMember, alive⟩)

/-- A round that gives up has itself sent the last request of a pair. -/
theorem gives_up_sending {agent : IceAgent} (held : agent.HasOpenPair)
    (notYet : agent.state ≠ .failed) {next now : Nat}
    (gaveUp : (agent.tickChecks crypto ids next now).1.state = .failed) :
    exists pair, pair ∈ (agent.tickChecks crypto ids next now).1.checkList ∧
      pair.transactionId ≠ [] ∧ pair.lastSentTimeMs = now := by
  by_cases isOver : agent.state = .completed ∨ agent.state = .failed ∨ agent.state = .closed
  · rcases tickChecks_cases crypto ids next agent now with ⟨_, same⟩ | ⟨running, _⟩
    · rw [same] at gaveUp
      exact absurd gaveUp notYet
    · exact absurd isOver running
  rw [tickChecks_running crypto ids isOver] at gaveUp ⊢
  dsimp only at gaveUp ⊢
  have kept : ({ agent with
      checkList := (tickPairs crypto ids agent now 0 agent.checkList next).1
      }.checkCompletion).checkList =
        (tickPairs crypto ids agent now 0 agent.checkList next).1 := by
    rcases checkCompletion_cases { agent with
        checkList := (tickPairs crypto ids agent now 0 agent.checkList next).1 } with same | same
    · rw [same]
    · rw [same]
  rw [kept]
  rcases tickPairs_pairs crypto ids agent now 0 agent.checkList next with ⟨_, length, later⟩
  rcases held isOver with empty | ⟨pair, isMember, alive⟩
  · rw [empty] at gaveUp
    exact absurd gaveUp notYet
  · rcases List.mem_iff_getElem?.mp isMember with ⟨k, found⟩
    rcases later k pair found with ⟨after, isAfter, ⟨_, same⟩ | ⟨m, _, _, _, same⟩⟩
    · -- An open pair that the round passed over would have kept the agent going.
      rw [same] at isAfter
      rw [@checkCompletion_alive { agent with
        checkList := (tickPairs crypto ids agent now 0 agent.checkList next).1 } pair
        (List.mem_of_getElem? isAfter) alive] at gaveUp
      exact absurd gaveUp notYet
    · rw [same] at isAfter
      refine ⟨_, List.mem_of_getElem? isAfter, ?_, pairAfterCheck_lastSentTimeMs pair now (ids m)⟩
      rw [pairAfterCheck_transactionId]
      exact (ids m).bytes_ne_nil

end IceAgent

namespace AgentRun

variable {crypto : Crypto} {ids : Nat -> TransactionId} {isControlling : Bool} {seed : AgentSeed}

theorem hasOpenPair_of_reachable {run : AgentRun}
    (reachable : (agentSystem crypto ids isControlling seed).Reachable run) :
    run.agent.HasOpenPair := by
  refine agent_invariant IceAgent.HasOpenPair reachable (fun _ => Or.inl rfl) ?_
    (fun agent _ => IceAgent.HasOpenPair.startChecks agent)
    (fun _ next now held => held.tickChecks next now)
    (fun _ _ _ _ _ held handled => held.handleIncomingData handled) (fun _ _ _ => Or.inl rfl)
  intro before after held configures running
  rw [configures.state] at running
  rw [configures.checkList]
  exact held running

/-- No call of `tick` that gives up has let every pair wait out the timeout of
its last request. -/
theorem gives_up_early {before after : AgentRun} {now : Nat} {output : AgentOutput}
    (reachable : (agentSystem crypto ids isControlling seed).Reachable before)
    (called : before.call crypto ids (.tick now) = .ok (after, output))
    (notYet : before.agent.state ≠ .failed) (gaveUp : after.agent.state = .failed) :
    ¬ after.agent.AllTimedOut now := by
  have isAfter := (congrArg Prod.fst (Except.ok.inj called)).symm
  dsimp only at isAfter
  rw [isAfter] at gaveUp ⊢
  rcases IceAgent.gives_up_sending (hasOpenPair_of_reachable reachable) notYet gaveUp with
    ⟨pair, isMember, wasSent, justNow⟩
  intro waited
  have long := waited pair isMember wasSent
  have positive := IceAgent.le_retransmissionTimeout pair.retransmitCount
  unfold INITIAL_RTO_MS at positive
  omega

/-- Seven requests on a single pair. -/
def unansweredCalls : List AgentOp :=
  setupCalls ++ [.tick 500, .tick 1500, .tick 3500, .tick 7500, .tick 15500, .tick 31500]

/-- The round of the seventh request gives up at once. -/
theorem gives_up_with_last_request :
    exists (before after : AgentRun) (output : AgentOutput),
      before.call zeroCrypto countingIds (.tick 47500) = .ok (after, output) ∧
      before.agent.state = .connecting ∧ after.agent.state = .failed ∧
      ¬ after.agent.AllTimedOut 47500 := by
  have ends : ((new true (uniformSeed 0 0)).calls zeroCrypto countingIds (fun _ _ => true)
      unansweredCalls).any (fun before => (before.calls zeroCrypto countingIds (fun _ _ => true)
        [.tick 47500]).any fun after =>
          before.agent.state = .connecting ∧ after.agent.state = .failed) = true := by
    decide +kernel
  rcases exists_step (fun _ _ => True) (fun _ _ _ => trivial) ends with ⟨before, after, step, test⟩
  rcases of_decide_eq_true test with ⟨isConnecting, isFailed⟩
  rcases step with ⟨reachable, _, output, called⟩
  exact ⟨before, after, output, called, isConnecting, isFailed,
    gives_up_early reachable.of_restrict called (by simp [isConnecting]) isFailed⟩

theorem last_request_unwaited :
    ¬ forall (crypto : Crypto) (ids : Nat -> TransactionId) (isControlling : Bool)
      (seed : AgentSeed) (before after : AgentRun) (now : Nat) (output : AgentOutput),
      (agentSystem crypto ids isControlling seed).Reachable before ->
      before.call crypto ids (.tick now) = .ok (after, output) ->
      before.agent.state ≠ .failed -> after.agent.state = .failed ->
        after.agent.AllTimedOut now := by
  intro claim
  have ends : ((new true (uniformSeed 0 0)).calls zeroCrypto countingIds (fun _ _ => true)
      unansweredCalls).any (fun before => (before.calls zeroCrypto countingIds (fun _ _ => true)
        [.tick 47500]).any fun after =>
          before.agent.state = .connecting ∧ after.agent.state = .failed ∧
            after.agent.checkList.any fun pair =>
              pair.transactionId ≠ [] ∧ pair.lastSentTimeMs = 47500) = true := by
    decide +kernel
  rcases exists_step (fun _ _ => True) (fun _ _ _ => trivial) ends with ⟨before, after, step, test⟩
  rcases of_decide_eq_true test with ⟨isConnecting, isFailed, last⟩
  rcases step with ⟨reachable, _, output, called⟩
  rcases List.any_eq_true.mp last with ⟨pair, isMember, just⟩
  rcases of_decide_eq_true just with ⟨wasSent, justNow⟩
  have long := claim _ _ _ _ before after 47500 output reachable.of_restrict called
    (by simp [isConnecting]) isFailed pair isMember wasSent
  have positive := IceAgent.le_retransmissionTimeout pair.retransmitCount
  unfold INITIAL_RTO_MS at positive
  omega

end AgentRun

end P2pSdk
