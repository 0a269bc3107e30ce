import P2pSdk.Ice.Nomination

namespace P2pSdk

open Foundation

/-!
# Restarting the checks

`start_checks` rebuilds the check list and the state, but not the nomination.
A restarted agent is therefore the fresh agent of the same configuration with
the old nominated index and the old confirmation put back.  What a caller can
see of the difference is described by observation sequences: the outputs of
`tick`, `handle_incoming_data`, `send_data` and `stop`, each with the state
after it.
-/

/-- The operations of a session that is under way. -/
def AgentOp.isSession : AgentOp -> Bool
  | .tick _ => true
  | .handleIncomingData _ _ => true
  | .sendData _ => true
  | .stop => true
  | _ => false

namespace IceAgent

/-- A newly constructed agent with the credentials of the seed, and the role,
candidates and peer description of another agent. -/
def freshTwin (seed : AgentSeed) (agent : IceAgent) : IceAgent :=
  { IceAgent.new agent.role.isControlling seed with
    localCandidates := agent.localCandidates
    remoteCandidates := agent.remoteCandidates
    remoteUfrag := agent.remoteUfrag
    remotePwd := agent.remotePwd
    remoteIsLite := agent.remoteIsLite }

theorem freshTwin_role (seed : AgentSeed) (agent : IceAgent) :
    (freshTwin seed agent).role = agent.role := by
  cases role : agent.role <;> simp [freshTwin, IceAgent.new, role, IceRole.isControlling]

end IceAgent

namespace AgentRun

/-- The outputs of a sequence of operations, each with the state after it. -/
def observe (crypto : Crypto) (ids : Nat -> TransactionId) :
    AgentRun -> List AgentOp -> Checked (List (AgentOutput × IceState))
  | _, [] => pure []
  | run, op :: rest => do
      let (after, output) ← run.call crypto ids op
      let later ← after.observe crypto ids rest
      pure ((output, after.agent.state) :: later)

/-- The run after a restart. -/
def restarted (run : AgentRun) : AgentRun := { run with agent := run.agent.startChecks.1 }

/-- The same moment with a newly constructed agent in place of the restarted one. -/
def startedFresh (seed : AgentSeed) (run : AgentRun) : AgentRun :=
  { run with agent := (run.agent.freshTwin seed).startChecks.1 }

/-- No sequence of session operations tells the restarted agent from the fresh one. -/
def RestartsLikeFresh (crypto : Crypto) (ids : Nat -> TransactionId) (seed : AgentSeed)
    (run : AgentRun) : Prop :=
  forall ops, (forall op, op ∈ ops -> op.isSession = true) ->
    run.restarted.observe crypto ids ops = (run.startedFresh seed).observe crypto ids ops

variable {crypto : Crypto} {ids : Nat -> TransactionId} {isControlling : Bool} {seed : AgentSeed}

/-- The fresh agent that `start_checks` has just been called on. -/
theorem startedFresh_agent {run : AgentRun}
    (reachable : (agentSystem crypto ids isControlling seed).Reachable run)
    (started : run.agent.startChecks.2 = .ok ()) :
    (run.agent.freshTwin seed).startChecks.1 =
      { run.agent with
        checkList := run.agent.allPairs.insertionSort IceAgent.beforeInList
        state := .connecting
        nominatedPairIdx := none
        nominatedPairConfirmed := false } := by
  rcases IceAgent.startChecks_ok started with ⟨known, hasLocal, hasRemote, _⟩
  rcases identity_of_reachable reachable with ⟨ufrag, pwd, tieBreaker⟩
  have role := IceAgent.freshTwin_role seed run.agent
  have pairs : (run.agent.freshTwin seed).allPairs = run.agent.allPairs := by
    unfold IceAgent.allPairs
    rw [role]
    rfl
  have result := @IceAgent.startChecks_of (run.agent.freshTwin seed) known hasLocal hasRemote
  rw [result, pairs]
  apply IceAgent.eq_of_parts
  · simp [IceAgent.setup, IceAgent.freshTwin, IceAgent.new, ufrag, pwd, tieBreaker]
  · rfl
  · exact role
  · rfl
  · rfl
  · rfl

/-- The restarted agent is the fresh one with the old nomination put back. -/
theorem restarted_agent {run : AgentRun}
    (reachable : (agentSystem crypto ids isControlling seed).Reachable run)
    (started : run.agent.startChecks.2 = .ok ()) :
    run.restarted.agent = { (run.startedFresh seed).agent with
      nominatedPairIdx := run.agent.nominatedPairIdx
      nominatedPairConfirmed := run.agent.nominatedPairConfirmed } := by
  unfold restarted startedFresh
  dsimp only
  rw [startedFresh_agent reachable started, (IceAgent.startChecks_ok started).2.2.2]

/-- With no nomination left over, the two agents are the same. -/
theorem restarted_eq_startedFresh {run : AgentRun}
    (reachable : (agentSystem crypto ids isControlling seed).Reachable run)
    (started : run.agent.startChecks.2 = .ok ())
    (noIndex : run.agent.nominatedPairIdx = none)
    (unconfirmed : run.agent.nominatedPairConfirmed = false) :
    run.restarted = run.startedFresh seed := by
  have agents := restarted_agent reachable started
  rw [noIndex, unconfirmed] at agents
  have fresh : (run.startedFresh seed).agent.nominatedPairIdx = none ∧
      (run.startedFresh seed).agent.nominatedPairConfirmed = false := by
    unfold startedFresh
    dsimp only
    rw [startedFresh_agent reachable started]
    exact ⟨rfl, rfl⟩
  rw [← fresh.1, ← fresh.2] at agents
  unfold restarted startedFresh at agents ⊢
  dsimp only at agents
  rw [agents]

/-- The pairs of a started agent are as many as there are pairs of candidates. -/
theorem started_length (agent : IceAgent) :
    (agent.allPairs.insertionSort IceAgent.beforeInList).length =
      agent.localCandidates.length * agent.remoteCandidates.length := by
  rw [List.length_insertionSort, IceAgent.allPairs_length]

/-- A started agent has a first pair, and it is unchecked. -/
theorem started_pair {agent : IceAgent} (started : agent.startChecks.2 = .ok ()) :
    exists localCand remoteCand,
      (agent.allPairs.insertionSort IceAgent.beforeInList)[0]? =
        some (IceAgent.freshPair agent.role localCand remoteCand) := by
  rcases IceAgent.startChecks_ok started with ⟨_, hasLocal, hasRemote, _⟩
  have positive : 0 < (agent.allPairs.insertionSort IceAgent.beforeInList).length := by
    rw [started_length]
    exact Nat.mul_pos (List.length_pos_iff.mpr hasLocal) (List.length_pos_iff.mpr hasRemote)
  have found := List.getElem?_eq_getElem positive
  have member := (List.mem_insertionSort IceAgent.beforeInList).mp (List.mem_of_getElem? found)
  rcases IceAgent.mem_allPairs member with ⟨localCand, remoteCand, _, _, isFresh⟩
  rw [isFresh] at found
  exact ⟨localCand, remoteCand, found⟩

/-! ## A nominated index left over -/

/-- `send_data` sees a stale index at once. -/
theorem stale_index_observed {run : AgentRun}
    (reachable : (agentSystem crypto ids isControlling seed).Reachable run)
    (started : run.agent.startChecks.2 = .ok ()) {idx : Nat}
    (stale : run.agent.nominatedPairIdx = some idx) :
    ¬ RestartsLikeFresh crypto ids seed run := by
  intro alike
  have same := alike [.sendData []] (by simp [AgentOp.isSession])
  have inside := (nominationSound_of_reachable reachable).inside idx stale
  have fits := (nominationSound_of_reachable reachable).fits
  have agents := restarted_agent reachable started
  have fresh := startedFresh_agent reachable started
  rw [← started_length] at fits
  have found := List.getElem?_eq_getElem (inside.trans_le fits)
  simp only [observe, call, Checked.ok_bind, Checked.pure_eq_ok, Except.ok.injEq, List.cons.injEq,
    Prod.mk.injEq, AgentOutput.send.injEq, and_true] at same
  have sends := same.1
  rw [agents] at sends
  unfold startedFresh IceAgent.sendData IceAgent.nominatedPair at sends
  dsimp only at sends
  rw [fresh, stale] at sends
  simp [found] at sends

/-! ## A confirmation left over -/

theorem useCandidate_fits : ([] : Bytes).length < 65536 := by
  decide

/-- A request that only asks for the nomination of the pair it arrives on. -/
def nominationRequest : Bytes :=
  stunHeader STUN_BINDING_REQUEST 4 (countingIds 0).bytes ++
    (WireAttribute.zeroPadded ATTR_USE_CANDIDATE [] useCandidate_fits).bytes

theorem parse_nominationRequest :
    parseIceStunMessage nominationRequest = .ok
      { isStun := true, isRequest := true, transactionId := (countingIds 0).bytes,
        useCandidate := true } := by
  have parsed := parseIceStunMessage_serialize STUN_BINDING_REQUEST (Or.inl rfl) (countingIds 0)
    [.zeroPadded ATTR_USE_CANDIDATE [] (by decide)] [] (by decide)
  have read := fun result => WireAttribute.read_useCandidate
    (.zeroPadded ATTR_USE_CANDIDATE [] (by decide)) result rfl
  have whole : nominationRequest = stunHeader STUN_BINDING_REQUEST
      (serialize [.zeroPadded ATTR_USE_CANDIDATE [] (by decide)]).length (countingIds 0).bytes ++
        (serialize [.zeroPadded ATTR_USE_CANDIDATE [] (by decide)] ++ []) := by
    rw [List.append_nil, serialize_cons, serialize_nil, List.append_nil,
      WireAttribute.bytes_length]
    rfl
  rw [whole, parsed]
  simp [headerResult, read, STUN_BINDING_REQUEST, STUN_BINDING_SUCCESS, STUN_BINDING_ERROR]

/-- A controlled agent completes on the request unless it has a confirmation already. -/
theorem nominationRequest_state {agent : IceAgent} (role : agent.role = .controlled)
    {source : Address} {idx : Nat} (found : agent.pairOfRemote source = some idx) :
    exists after result, agent.handleIncomingData nominationRequest source = .ok (after, result) ∧
      after.state = if agent.nominatedPairConfirmed then IceAgent.contacted agent.state
        else .completed := by
  have answer : exists resp, buildIceBindingResponse nominationRequest = some resp :=
    ⟨_, respond_request 4 (countingIds 0) _⟩
  rcases answer with ⟨resp, isAnswer⟩
  refine ⟨(agent.markPair true source).noteContact,
    { appData := none, actions := [⟨resp, source.ip, source.port⟩] }, ?_, ?_⟩
  · simp [IceAgent.handleIncomingData, parse_nominationRequest, IceAgent.handleIncomingStun,
      IceAgent.acceptsUsername, IceAgent.resolveRoleConflict, isAnswer]
  · rw [IceAgent.noteContact_eq]
    rcases IceAgent.markPair_cases agent true source with
      ⟨none, _⟩ | ⟨other, _, ⟨_, _, same⟩ | ⟨notChosen, _⟩⟩
    · rw [none] at found
      cases found
    · rw [same]
      cases agent.nominatedPairConfirmed with
      | true => rfl
      | false => rfl
    · exact absurd ⟨rfl, role⟩ notChosen

/-- The confirmation of a controlled agent is seen when its peer nominates. -/
theorem stale_confirmation_observed_controlled {run : AgentRun}
    (reachable : (agentSystem crypto ids isControlling seed).Reachable run)
    (started : run.agent.startChecks.2 = .ok ()) (role : run.agent.role = .controlled)
    (stale : run.agent.nominatedPairConfirmed = true) :
    ¬ RestartsLikeFresh crypto ids seed run := by
  intro alike
  rcases started_pair started with ⟨localCand, remoteCand, found⟩
  have agents := restarted_agent reachable started
  have fresh := startedFresh_agent reachable started
  have search : exists idx, (run.startedFresh seed).agent.pairOfRemote remoteCand.address =
      some idx := by
    cases none : (run.startedFresh seed).agent.pairOfRemote remoteCand.address with
    | some idx => exact ⟨idx, rfl⟩
    | none =>
        have absent := IceAgent.pairOfRemote_none.mp none
        unfold startedFresh at absent
        rw [fresh] at absent
        exact absurd rfl (absent _ (List.mem_of_getElem? found))
  rcases search with ⟨idx, isIdx⟩
  have same := alike [.handleIncomingData nominationRequest remoteCand.address]
    (by simp [AgentOp.isSession])
  have isIdxRestarted : run.restarted.agent.pairOfRemote remoteCand.address = some idx := by
    rw [agents]
    exact isIdx
  have freshRole : (run.startedFresh seed).agent.role = .controlled := by
    unfold startedFresh
    rw [fresh]
    exact role
  have restartedRole : run.restarted.agent.role = .controlled := by
    rw [agents]
    exact freshRole
  rcases nominationRequest_state freshRole isIdx with ⟨first, firstResult, handled, firstState⟩
  rcases nominationRequest_state restartedRole isIdxRestarted with
    ⟨second, secondResult, handledRestarted, secondState⟩
  simp only [observe, call, handled, handledRestarted, Checked.ok_bind, Checked.pure_eq_ok,
    Except.ok.injEq, List.cons.injEq, Prod.mk.injEq, and_true] at same
  have states := same.2
  rw [firstState, secondState, agents] at states
  unfold startedFresh at states
  dsimp only at states
  rw [fresh, stale] at states
  cases states

/-! ## A controlling agent -/

/-- A controlling agent without a nomination puts a pair forward on the answer
to its own check, unless it has a confirmation already. -/
theorem responds_and_sends {agent : IceAgent} (role : agent.role = .controlling)
    (noIndex : agent.nominatedPairIdx = none) {k : Nat} {pair : PairEntry} {id : TransactionId}
    (found : agent.checkList[k]? = some pair) (transaction : pair.transactionId = id.bytes)
    (source : Address) :
    exists after result,
      agent.handleIncomingData (stunHeader STUN_BINDING_SUCCESS 0 id.bytes) source =
        .ok (after, result) ∧ (after.sendData []).isSome = !agent.nominatedPairConfirmed := by
  refine ⟨agent.handleStunResponse { isStun := true, isResponse := true, transactionId := id.bytes },
    { appData := none, actions := [] }, ?_, ?_⟩
  · simp [IceAgent.handleIncomingData, parse_response]
  · rcases IceAgent.handleStunResponse_cases agent
        { isStun := true, isResponse := true, transactionId := id.bytes } with
      ⟨isError, _⟩ | ⟨_, notResponse | noPair, _⟩ | ⟨idx, _, _, isIdx, same⟩
    · cases isError
    · cases notResponse
    · exact absurd transaction (IceAgent.pairOfTransaction_none.mp noPair pair
        (List.mem_of_getElem? found))
    · rcases IceAgent.pairOfTransaction_some isIdx with ⟨matched, inside, _⟩
      rw [same]
      rcases IceAgent.acknowledgePair_cases agent inside with
        ⟨isControlled | confirmed | ⟨other, _, isOther⟩, same⟩ | ⟨_, _, nominated, _⟩ |
        ⟨_, unconfirmed, _, best, chosen, isBest, _, same⟩
      · exact absurd (role.symm.trans isControlled) (by decide)
      · rw [same, confirmed]
        simp [IceAgent.sendData, IceAgent.nominatedPair, noIndex]
      · exact absurd (noIndex.symm.trans isOther) (Option.some_ne_none other).symm
      · exact absurd (noIndex.symm.trans nominated) (Option.some_ne_none idx).symm
      · rw [same, unconfirmed]
        have putForward := IceAgent.getElem?_modify_self PairEntry.putForward isBest
        simp [IceAgent.sendData, IceAgent.nominatedPair, putForward]

/-- The observation of a tick, the answer to a check of that tick, and a send. -/
theorem observe_probe {run : AgentRun} (role : run.agent.role = .controlling)
    (noIndex : run.agent.nominatedPairIdx = none) {k : Nat} {pair : PairEntry} {id : TransactionId}
    (found : (run.agent.tickChecks crypto ids run.next 500).1.checkList[k]? = some pair)
    (transaction : pair.transactionId = id.bytes) (source : Address) :
    exists first second state action,
      run.observe crypto ids [.tick 500,
        .handleIncomingData (stunHeader STUN_BINDING_SUCCESS 0 id.bytes) source, .sendData []] =
          .ok [first, second, (.send action, state)] ∧
      action.isSome = !run.agent.nominatedPairConfirmed := by
  have kept : (run.agent.tickChecks crypto ids run.next 500).1.role = .controlling ∧
      (run.agent.tickChecks crypto ids run.next 500).1.nominatedPairIdx = none ∧
      (run.agent.tickChecks crypto ids run.next 500).1.nominatedPairConfirmed =
        run.agent.nominatedPairConfirmed := by
    rcases IceAgent.tickChecks_cases crypto ids run.next run.agent 500 with
      ⟨_, same⟩ | ⟨_, state, _, same⟩
    · rw [same]
      exact ⟨role, noIndex, rfl⟩
    · rw [same]
      exact ⟨role, noIndex, rfl⟩
  rcases responds_and_sends kept.1 kept.2.1 found transaction source with
    ⟨after, result, handled, sends⟩
  rw [kept.2.2] at sends
  have observed : run.observe crypto ids [.tick 500,
      .handleIncomingData (stunHeader STUN_BINDING_SUCCESS 0 id.bytes) source, .sendData []] =
      .ok [(.requests ((run.agent.tickChecks crypto ids run.next 500).2.1.map
          IceAgent.SentCheck.action), (run.agent.tickChecks crypto ids run.next 500).1.state),
        (.handled result, after.state), (.send (after.sendData []), after.state)] := by
    simp only [observe, call, Checked.ok_bind, Checked.pure_eq_ok, handled]
  exact ⟨_, _, _, _, observed, sends⟩

/-- The confirmation does not steer a round of checks. -/
theorem tickPairs_confirmed (agent : IceAgent) (confirmed : Bool) (now i : Nat)
    (pairs : List PairEntry) (next : Nat) :
    IceAgent.tickPairs crypto ids { agent with nominatedPairConfirmed := confirmed } now i pairs
        next = IceAgent.tickPairs crypto ids agent now i pairs next := by
  induction pairs generalizing i next with
  | nil => rfl
  | cons pair rest ih =>
      unfold IceAgent.tickPairs
      rw [ih, ih]
      rfl

/-- The confirmation of a controlling agent is seen when its own check is answered. -/
theorem stale_confirmation_observed_controlling {run : AgentRun}
    (reachable : (agentSystem crypto ids isControlling seed).Reachable run)
    (started : run.agent.startChecks.2 = .ok ()) (role : run.agent.role = .controlling)
    (noIndex : run.agent.nominatedPairIdx = none)
    (stale : run.agent.nominatedPairConfirmed = true) :
    ¬ RestartsLikeFresh crypto ids seed run := by
  intro alike
  rcases started_pair started with ⟨localCand, remoteCand, found⟩
  have fresh : (run.startedFresh seed).agent = _ := startedFresh_agent reachable started
  have restartedIs : run.restarted.agent = { (run.startedFresh seed).agent with
      nominatedPairConfirmed := true } := by
    rw [restarted_agent reachable started, noIndex, stale, fresh]
  have freshIs : (run.startedFresh seed).agent.role = .controlling ∧
      (run.startedFresh seed).agent.nominatedPairIdx = none ∧
      (run.startedFresh seed).agent.nominatedPairConfirmed = false ∧
      (run.startedFresh seed).agent.state = .connecting ∧
      (run.startedFresh seed).agent.checkList[0]? =
        some (IceAgent.freshPair run.agent.role localCand remoteCand) := by
    rw [fresh]
    exact ⟨role, rfl, rfl, rfl, found⟩
  have due : (run.startedFresh seed).agent.skipsPair 500 (0 + 0)
      (IceAgent.freshPair run.agent.role localCand remoteCand) = false := by
    simp [IceAgent.skipsPair, IceAgent.freshPair, freshIs.2.1, INITIAL_RTO_MS]
  rcases IceAgent.tickPairs_sends crypto ids (run.startedFresh seed).agent 500 0
    (run.startedFresh seed).agent.checkList run.next 0 _ freshIs.2.2.2.2 due with
    ⟨m, _, _, _, checked⟩
  -- Both agents send the same checks, so one answer serves both.
  have running : forall agent : IceAgent, agent.state = .connecting ->
      (agent.tickChecks crypto ids run.next 500).1.checkList =
        (IceAgent.tickPairs crypto ids agent 500 0 agent.checkList run.next).1 := by
    intro agent connecting
    rcases IceAgent.tickChecks_cases crypto ids run.next agent 500 with
      ⟨done, _⟩ | ⟨_, state, _, same⟩
    · rw [connecting] at done
      simp at done
    · rw [same]
  have foundFresh := checked
  rw [← running _ freshIs.2.2.2.1] at foundFresh
  have restartedRole : run.restarted.agent.role = .controlling ∧
      run.restarted.agent.nominatedPairIdx = none ∧
      run.restarted.agent.nominatedPairConfirmed = true ∧
      run.restarted.agent.state = .connecting := by
    rw [restartedIs]
    exact ⟨freshIs.1, freshIs.2.1, rfl, freshIs.2.2.2.1⟩
  have foundRestarted : (run.restarted.agent.tickChecks crypto ids run.next 500).1.checkList[0]? =
      some (IceAgent.pairAfterCheck (IceAgent.freshPair run.agent.role localCand remoteCand) 500
        (ids m)) := by
    have sameList : run.restarted.agent.checkList = (run.startedFresh seed).agent.checkList := by
      rw [restartedIs]
    rw [running _ restartedRole.2.2.2, sameList, restartedIs, tickPairs_confirmed]
    exact checked
  rcases observe_probe freshIs.1 freshIs.2.1 foundFresh
    (IceAgent.pairAfterCheck_transactionId _ _ _) peerAddress with
    ⟨_, _, _, sent, observedFresh, sends⟩
  rcases observe_probe restartedRole.1 restartedRole.2.1 foundRestarted
    (IceAgent.pairAfterCheck_transactionId _ _ _) peerAddress with
    ⟨_, _, _, sentRestarted, observedRestarted, sendsRestarted⟩
  have same := alike [.tick 500,
    .handleIncomingData (stunHeader STUN_BINDING_SUCCESS 0 (ids m).bytes) peerAddress, .sendData []]
    (by simp [AgentOp.isSession])
  rw [observedFresh, observedRestarted] at same
  simp only [Except.ok.injEq, List.cons.injEq, Prod.mk.injEq, AgentOutput.send.injEq,
    and_true] at same
  rw [same.2.2.1, sends, freshIs.2.2.1, restartedRole.2.2.1] at sendsRestarted
  cases sendsRestarted

/-! ## The law -/

/-- A restarted agent behaves like a freshly started one exactly when it has
neither a nominated index nor a confirmation left over. -/
theorem restartsLikeFresh_iff {run : AgentRun}
    (reachable : (agentSystem crypto ids isControlling seed).Reachable run)
    (started : run.agent.startChecks.2 = .ok ()) :
    RestartsLikeFresh crypto ids seed run <->
      run.agent.nominatedPairIdx = none ∧ run.agent.nominatedPairConfirmed = false := by
  constructor
  · intro alike
    cases index : run.agent.nominatedPairIdx with
    | some idx => exact absurd alike (stale_index_observed reachable started index)
    | none =>
        refine ⟨rfl, ?_⟩
        cases confirmed : run.agent.nominatedPairConfirmed with
        | false => rfl
        | true =>
            cases role : run.agent.role with
            | controlled =>
                exact absurd alike
                  (stale_confirmation_observed_controlled reachable started role confirmed)
            | controlling =>
                exact absurd alike
                  (stale_confirmation_observed_controlling reachable started role index confirmed)
  · rintro ⟨noIndex, unconfirmed⟩ ops _
    rw [restarted_eq_startedFresh reachable started noIndex unconfirmed]

/-- The second start of an agent that was never nominated is a fresh start. -/
theorem restartsLikeFresh_before_nomination :
    exists run, (agentSystem zeroCrypto countingIds true (uniformSeed 0 0)).Reachable run ∧
      run.checks ≠ [] ∧ RestartsLikeFresh zeroCrypto countingIds (uniformSeed 0 0) run := by
  have ends : ((new true (uniformSeed 0 0)).calls zeroCrypto countingIds (fun _ _ => true)
      (setupCalls ++ [.tick 500])).any (fun run =>
        run.agent.startChecks.2.isOk ∧ run.checks.length = 1 ∧
          run.agent.nominatedPairIdx = none ∧ run.agent.nominatedPairConfirmed = false) = true := by
    decide +kernel
  rcases exists_run (fun _ _ => True) (fun _ _ _ => trivial) ends with ⟨run, restricted, test⟩
  rcases of_decide_eq_true test with ⟨isOk, sent, noIndex, unconfirmed⟩
  have reachable := restricted.of_restrict
  have started : run.agent.startChecks.2 = .ok () := by
    cases result : run.agent.startChecks.2 with
    | ok value => rfl
    | error message =>
        rw [result] at isOk
        cases isOk
  refine ⟨run, reachable, ?_, (restartsLikeFresh_iff reachable started).mpr ⟨noIndex, unconfirmed⟩⟩
  intro none
  rw [none] at sent
  cases sent

/-- After a completed session the restarted agent still sends to the old pair. -/
theorem restart_after_completion :
    ¬ forall (crypto : Crypto) (ids : Nat -> TransactionId) (isControlling : Bool)
      (seed : AgentSeed) (run : AgentRun),
      (agentSystem crypto ids isControlling seed).Reachable run ->
      run.agent.startChecks.2 = .ok () -> RestartsLikeFresh crypto ids seed run := by
  intro claim
  have ends : ((new true (uniformSeed 0 0)).calls zeroCrypto countingIds (fun _ _ => true)
      (setupCalls ++ [.tick 500, .handleIncomingData (responseTo 0) peerAddress, .tick 1000,
        .handleIncomingData (responseTo 1) peerAddress])).any (fun run =>
        run.agent.startChecks.2.isOk ∧ (run.restarted.agent.sendData []).isSome ∧
          (run.startedFresh (uniformSeed 0 0)).agent.sendData [] = none) = true := by
    decide +kernel
  rcases exists_run (fun _ _ => True) (fun _ _ _ => trivial) ends with ⟨run, restricted, test⟩
  rcases of_decide_eq_true test with ⟨isOk, sends, silent⟩
  have started : run.agent.startChecks.2 = .ok () := by
    cases result : run.agent.startChecks.2 with
    | ok value => rfl
    | error message =>
        rw [result] at isOk
        cases isOk
  have same := claim zeroCrypto countingIds true (uniformSeed 0 0) run restricted.of_restrict
    started [.sendData []] (by simp [AgentOp.isSession])
  simp only [observe, call, Checked.ok_bind, Checked.pure_eq_ok, Except.ok.injEq, List.cons.injEq,
    Prod.mk.injEq, AgentOutput.send.injEq, and_true] at same
  rw [same.1, silent] at sends
  cases sends

end AgentRun

end P2pSdk
