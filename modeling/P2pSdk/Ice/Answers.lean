import P2pSdk.Ice.Transmissions
import P2pSdk.Ice.Datagrams

namespace P2pSdk

open Foundation

/-!
# Answers to earlier transmissions

Every transmission of a check draws a new transaction id, and the pair keeps
the id of its latest one only.  A slow answer to an earlier transmission finds
no pair.  Whether an answer counts is therefore decided by whether the pair
still remembers the request that it answers.

That no other pair can be taken for the one asked rests on two facts: every
id that a pair remembers was drawn for a request on that pair, and no id was
drawn twice.
-/

namespace IceAgent

variable (crypto : Crypto) (ids : Nat -> TransactionId)

/-- The requests of a round carry the transaction ids drawn, in order. -/
theorem tickPairs_transactionIds (agent : IceAgent) (now i : Nat) (pairs : List PairEntry)
    (next : Nat) :
    (tickPairs crypto ids agent now i pairs next).2.1.map SentCheck.transactionId =
      (List.range' next ((tickPairs crypto ids agent now i pairs next).2.2 - next)).map ids := by
  induction pairs generalizing i next with
  | nil => simp [tickPairs]
  | cons first rest ih =>
      cases skipped : agent.skipsPair now i first with
      | true =>
          simp only [tickPairs, skipped, if_true]
          exact ih (i + 1) next
      | false =>
          have grows := (tickPairs_pairs crypto ids agent now (i + 1) rest (next + 1)).1
          simp only [tickPairs, skipped, Bool.false_eq_true, if_false, List.map_cons]
          rw [ih (i + 1) (next + 1)]
          have drawn : (tickPairs crypto ids agent now (i + 1) rest (next + 1)).2.2 - next =
              (tickPairs crypto ids agent now (i + 1) rest (next + 1)).2.2 - (next + 1) + 1 := by
            omega
          rw [drawn, List.range'_succ, List.map_cons]
          rfl

end IceAgent

/-- The requests sent since the last successful call of `start_checks`, or
since `stop`. -/
def recentRecorder : AgentRecorder (List IceAgent.SentCheck) where
  start := []
  onStart := fun agent recent => if agent.startChecks.2.isOk then [] else recent
  onTick := fun _ sent recent => recent ++ sent
  onData := fun _ _ _ _ recent => recent
  onStop := fun _ => []

namespace AgentRun

variable {crypto : Crypto} {ids : Nat -> TransactionId} {isControlling : Bool} {seed : AgentSeed}

/-- The requests of a run carry all the transaction ids drawn, in order. -/
theorem checks_transactionIds {run : AgentRun}
    (reachable : (agentSystem crypto ids isControlling seed).Reachable run) :
    run.checks.map IceAgent.SentCheck.transactionId = (List.range run.next).map ids := by
  refine TransitionSystem.Reachable.invariant (fun run =>
    run.checks.map IceAgent.SentCheck.transactionId = (List.range run.next).map ids) reachable ?_ ?_
  · intro run isNew
    rw [isNew]
    rfl
  · intro before op after held stepped
    rcases stepped with ⟨output, called⟩
    rcases call_cases called with ⟨agent, configures, rfl⟩ | ⟨_, rfl⟩ | ⟨now, _, rfl⟩ |
      ⟨data, source, agent, result, _, handled, rfl⟩ | ⟨_, rfl⟩
    · exact held
    · exact held
    · rcases IceAgent.tickChecks_cases crypto ids before.next before.agent now with
        ⟨_, same⟩ | ⟨_, state, _, same⟩
      · rw [same]
        dsimp only
        rw [List.append_nil]
        exact held
      · rw [same]
        dsimp only
        have grows := (IceAgent.tickPairs_pairs crypto ids before.agent now 0
          before.agent.checkList before.next).1
        have joined := @List.range'_append_1 0 before.next ((IceAgent.tickPairs crypto ids
          before.agent now 0 before.agent.checkList before.next).2.2 - before.next)
        rw [Nat.zero_add, Nat.add_sub_cancel' grows] at joined
        rw [List.map_append, held, IceAgent.tickPairs_transactionIds, ← List.map_append,
          List.range_eq_range', List.range_eq_range', joined]
    · exact held
    · exact held

/-- Without repeated ids a request is determined by its transaction id. -/
theorem check_unique {run : AgentRun}
    (reachable : (agentSystem crypto ids isControlling seed).Reachable run)
    (noRepeat : run.NoRepeat ids) {first second : IceAgent.SentCheck} (isFirst : first ∈ run.checks)
    (isSecond : second ∈ run.checks)
    (same : first.transactionId.bytes = second.transactionId.bytes) : first = second := by
  have distinct : (run.checks.map IceAgent.SentCheck.transactionId).Nodup := by
    rw [checks_transactionIds reachable]
    refine List.Nodup.map_on ?_ List.nodup_range
    intro left isLeft right isRight
    exact noRepeat (List.mem_range.mp isLeft) (List.mem_range.mp isRight)
  exact List.inj_on_of_nodup_map distinct isFirst isSecond (TransactionId.eq_of_bytes same)

/-- The recent requests are requests of the run on pairs of the list, and the
id that a pair remembers is that of a recent request on it. -/
structure AnswerSound (run : AgentRun) (recent : List IceAgent.SentCheck) : Prop where
  sent : forall check, check ∈ recent -> check ∈ run.checks
  inside : forall check, check ∈ recent -> check.pair < run.agent.checkList.length
  origin : forall (k : Nat) pair, run.agent.checkList[k]? = some pair -> pair.transactionId = [] ∨
    exists check, check ∈ recent ∧ check.pair = k ∧ check.transactionId.bytes = pair.transactionId

/-- The invariant looks at the requests and at the ids of the pairs. -/
theorem AnswerSound.of_kept {run : AgentRun} {recent : List IceAgent.SentCheck}
    (sound : run.AnswerSound recent) {agent : IceAgent} {announced : Bool}
    (kept : IceAgent.PairsKept run.agent.checkList agent.checkList) :
    AnswerSound { run with agent := agent, announced := announced } recent where
  sent := sound.sent
  inside := by
    intro check isRecent
    dsimp only
    rw [kept.length]
    exact sound.inside check isRecent
  origin := by
    intro k later isLater
    have before : k < run.agent.checkList.length := by
      rw [← kept.length]
      exact (List.getElem?_eq_some_iff.mp isLater).1
    have found := List.getElem?_eq_getElem before
    rcases kept.kept k _ found with ⟨same, isSame, keeps⟩
    rw [Option.some.inj (isLater.symm.trans isSame), keeps.transactionId]
    exact sound.origin k _ found

theorem AnswerSound.tick {run : AgentRun} {recent : List IceAgent.SentCheck}
    (sound : run.AnswerSound recent) (now : Nat) (announced : Bool) :
    AnswerSound
      { agent := (run.agent.tickChecks crypto ids run.next now).1
        next := (run.agent.tickChecks crypto ids run.next now).2.2
        checks := run.checks ++ (run.agent.tickChecks crypto ids run.next now).2.1
        announced := announced }
      (recent ++ (run.agent.tickChecks crypto ids run.next now).2.1) := by
  rcases IceAgent.tickChecks_cases crypto ids run.next run.agent now with
    ⟨_, same⟩ | ⟨_, state, _, same⟩
  · rw [same]
    dsimp only
    rw [List.append_nil, List.append_nil]
    exact ⟨sound.sent, sound.inside, sound.origin⟩
  rw [same]
  refine ⟨?_, ?_, ?_⟩
  · intro check isRecent
    rcases List.mem_append.mp isRecent with old | new
    · exact List.mem_append_left _ (sound.sent check old)
    · exact List.mem_append_right _ new
  · intro check isRecent
    dsimp only
    rw [(IceAgent.tickPairs_pairs crypto ids run.agent now 0 run.agent.checkList run.next).2.1]
    rcases List.mem_append.mp isRecent with old | new
    · exact sound.inside check old
    · rcases IceAgent.tickPairs_checks crypto ids run.agent now 0 run.agent.checkList run.next check
        new with ⟨k, pair, m, found, _, _, _, isCheck, _⟩
      rw [isCheck]
      dsimp only [IceAgent.sendCheck]
      rw [Nat.zero_add]
      exact (List.getElem?_eq_some_iff.mp found).1
  · intro k after isAfter
    rcases IceAgent.tickPairs_later crypto ids run.agent now 0 run.agent.checkList run.next isAfter
      with ⟨pair, found, ⟨_, unchanged⟩ | ⟨m, _, checked, isNew⟩⟩
    · rw [unchanged]
      rcases sound.origin k pair found with never | ⟨check, isRecent, isPair, isId⟩
      · exact Or.inl never
      · exact Or.inr ⟨check, List.mem_append_left _ isRecent, isPair, isId⟩
    · refine Or.inr ⟨_, List.mem_append_right _ isNew, Nat.zero_add k, ?_⟩
      rw [checked, IceAgent.pairAfterCheck_transactionId]
      rfl

theorem answerSound_of_reachable {run : AgentRun × List IceAgent.SentCheck}
    (reachable : ((agentSystem crypto ids isControlling seed).remember
      recentRecorder.recorder).Reachable run) : run.1.AnswerSound run.2 := by
  have none : forall run : AgentRun, (forall pair, pair ∈ run.agent.checkList ->
      pair.transactionId = []) -> run.AnswerSound [] := by
    intro run unsent
    refine ⟨fun _ never => absurd never List.not_mem_nil,
      fun _ never => absurd never List.not_mem_nil, ?_⟩
    intro k pair found
    exact Or.inl (unsent pair (List.mem_of_getElem? found))
  refine remembered_invariant AnswerSound
    (reachable.restrict_all fun (_ : AgentRun) (_ : AgentOp) => trivial) ?_ ?_ ?_ ?_ ?_ ?_
  · exact none _ (fun _ never => absurd never List.not_mem_nil)
  · intro before recent agent sound configures
    refine sound.of_kept ?_
    rw [configures.checkList]
    exact IceAgent.PairsKept.refl _
  · intro before recent announced sound
    by_cases started : before.agent.startChecks.2 = .ok ()
    · unfold recentRecorder
      dsimp only
      rw [if_pos (IceAgent.startChecks_isOk_iff.mpr started)]
      refine none _ ?_
      intro pair member
      dsimp only at member
      rw [(IceAgent.startChecks_ok started).2.2.2] at member
      rcases IceAgent.mem_allPairs ((List.mem_insertionSort IceAgent.beforeInList).mp member) with
        ⟨localCand, remoteCand, _, _, rfl⟩
      rfl
    · unfold recentRecorder
      dsimp only
      rw [if_neg fun isOk => started (IceAgent.startChecks_isOk_iff.mp isOk)]
      refine sound.of_kept ?_
      rw [IceAgent.startChecks_error started]
      exact IceAgent.PairsKept.refl _
  · intro before recent now announced _ sound
    exact sound.tick now announced
  · intro before recent data source agent result announced _ sound _ handled
    exact sound.of_kept (IceAgent.handleIncomingData_pairs handled)
  · intro before recent announced _
    exact none _ (fun _ never => absurd never List.not_mem_nil)

end AgentRun

namespace IceAgent

/-- The pair still remembers the request, or has succeeded already. -/
def remembersCheck (agent : IceAgent) (check : SentCheck) : Bool :=
  agent.checkList[check.pair]?.any fun pair =>
    pair.transactionId = check.transactionId.bytes ∨ pair.state = .succeeded

/-- Between the two states the answer has counted for the pair at `k`: it is
succeeded now, or it has been put forward. -/
def AnswerCounts (before after : IceAgent) (k : Nat) : Prop :=
  exists pair, after.checkList[k]? = some pair ∧
    (pair.state = .succeeded ∨
      (pair.state = .inProgress ∧ pair.nominated = true ∧ before.nominatedPairIdx ≠ some k ∧
        after.nominatedPairIdx = some k))

/-- A success response is ignored, or acknowledges the pair that remembers it. -/
theorem reaction_response (agent : IceAgent) {data : Bytes} {parsed : ParsedStunMessage}
    (isParsed : parseIceStunMessage data = .ok parsed) (isResponse : parsed.isResponse = true) :
    agent.reaction data =
      match agent.pairOfTransaction parsed.transactionId with
      | none => .ignored
      | some idx => .acknowledged idx := by
  have kind := parse_kind isParsed (Or.inr (Or.inl isResponse))
  have success := kind.2.2.1.mp isResponse
  have noRequest : ¬ parsed.isRequest = true := by
    rw [kind.2.1, success]
    decide
  have noError : ¬ parsed.isErrorResponse = true := by
    rw [kind.2.2.2, success]
    decide
  unfold reaction
  rw [isParsed]
  dsimp only
  rw [if_neg (by simp [kind.1]), if_neg noRequest, if_neg (fun conflict => noError conflict.1)]
  refine (if_neg (by simp [isResponse])).trans ?_
  cases agent.pairOfTransaction parsed.transactionId with
  | none => rfl
  | some idx => rfl

/-- The acknowledged pair has succeeded, or is put forward for the first time. -/
theorem acknowledgePair_counts (agent : IceAgent) {idx : Nat} {pair : PairEntry}
    (found : agent.checkList[idx]? = some pair) :
    AnswerCounts agent (agent.acknowledgePair idx) idx := by
  have marked := getElem?_modify_self PairEntry.succeed found
  rcases acknowledgePair_cases agent found with
    ⟨_, same⟩ | ⟨_, _, _, same⟩ | ⟨_, _, noIndex, best, chosen, _, _, same⟩
  · rw [same]
    exact ⟨_, marked, Or.inl rfl⟩
  · rw [same]
    exact ⟨_, marked, Or.inl rfl⟩
  · rw [same]
    by_cases here : best = idx
    · subst here
      refine ⟨_, getElem?_modify_self PairEntry.putForward marked, Or.inr ⟨rfl, rfl, ?_, rfl⟩⟩
      rw [noIndex]
      exact (Option.some_ne_none best).symm
    · exact ⟨_, (getElem?_modify_of_ne here).trans marked, Or.inl rfl⟩

end IceAgent

namespace AgentRun

/-- An answer to a request that was sent since the last successful start counts
exactly when no later request has gone out on its pair, or the pair has
succeeded already. -/
theorem answer_counts_iff {run : AgentRun × List IceAgent.SentCheck}
    (reachable : ((agentSystem crypto ids isControlling seed).remember
      recentRecorder.recorder).Reachable run)
    (noRepeat : run.1.NoRepeat ids) {check : IceAgent.SentCheck} (sent : check ∈ run.2)
    {data : Bytes} {parsed : ParsedStunMessage} (isParsed : parseIceStunMessage data = .ok parsed)
    (isResponse : parsed.isResponse = true)
    (answers : parsed.transactionId = check.transactionId.bytes) {source : Address}
    {after : IceAgent} {result : HandleDataResult}
    (handled : run.1.agent.handleIncomingData data source = .ok (after, result)) :
    IceAgent.AnswerCounts run.1.agent after check.pair <->
      run.1.agent.remembersCheck check = true := by
  have sound := answerSound_of_reachable reachable
  have isPair : exists pair, run.1.agent.checkList[check.pair]? = some pair :=
    ⟨_, List.getElem?_eq_getElem (sound.inside check sent)⟩
  rcases isPair with ⟨pair, found⟩
  have reacts := run.1.agent.reaction_response isParsed isResponse
  rw [IceAgent.handleIncomingData_reacts handled, reacts, answers]
  -- The pair that remembers the id is the one that the request was sent on.
  have only : forall (k : Nat) other, run.1.agent.checkList[k]? = some other ->
      other.transactionId = check.transactionId.bytes -> k = check.pair := by
    intro k other isOther same
    rcases sound.origin k other isOther with never | ⟨second, isRecent, isPair, isId⟩
    · exact absurd (same.symm.trans never) check.transactionId.bytes_ne_nil
    · have unique := check_unique reachable.forget noRepeat (sound.sent second isRecent)
        (sound.sent check sent) (isId.trans same)
      rw [← isPair, unique]
  cases search : run.1.agent.pairOfTransaction check.transactionId.bytes with
  | none =>
      have forgotten := IceAgent.pairOfTransaction_none.mp search pair (List.mem_of_getElem? found)
      unfold IceAgent.remembersCheck IceAgent.AnswerCounts
      dsimp only [IceAgent.react]
      rw [found, Option.any_some, decide_eq_true_eq]
      constructor
      · rintro ⟨same, isSame, succeeded | ⟨_, _, before, now⟩⟩
        · rw [Option.some.inj isSame]
          exact Or.inr succeeded
        · exact absurd now before
      · rintro (remembered | succeeded)
        · exact absurd remembered forgotten
        · exact ⟨pair, rfl, Or.inl succeeded⟩
  | some idx =>
      rcases IceAgent.pairOfTransaction_some search with ⟨other, isOther, same⟩
      have here := only idx other isOther same
      subst here
      refine iff_of_true (IceAgent.acknowledgePair_counts run.1.agent found) ?_
      unfold IceAgent.remembersCheck
      rw [found, Option.any_some, decide_eq_true_eq, Option.some.inj (found.symm.trans isOther)]
      exact Or.inl same

/-- The answer to the only request counts. -/
theorem answer_counts_first :
    exists (run : AgentRun × List IceAgent.SentCheck) (check : IceAgent.SentCheck)
      (after : IceAgent) (result : HandleDataResult), check ∈ run.2 ∧
      run.1.agent.handleIncomingData (responseTo 0) peerAddress = .ok (after, result) ∧
      IceAgent.AnswerCounts run.1.agent after check.pair := by
  have ends : (remembers recentRecorder zeroCrypto countingIds (fun _ _ => true)
      (new true (uniformSeed 0 0), recentRecorder.start) (setupCalls ++ [.tick 500])).any
      (fun run => run.1.next ≤ 7 ∧
        (run.2.any fun check => check.transactionId = countingIds 0 ∧
          run.1.agent.remembersCheck check = true) ∧
        (run.1.agent.handleIncomingData (responseTo 0) peerAddress).isOk) = true := by
    decide +kernel
  rcases exists_remembered (fun _ _ => True) (fun _ _ _ => trivial) ends with
    ⟨run, reachable, test⟩
  rcases of_decide_eq_true test with ⟨drawn, some_check, returns⟩
  rcases List.any_eq_true.mp some_check with ⟨check, sent, isFirst⟩
  rcases of_decide_eq_true isFirst with ⟨isId, remembered⟩
  have noRepeat : run.1.NoRepeat countingIds :=
    countingIds_injOn (drawn.trans (by decide))
  cases handled : run.1.agent.handleIncomingData (responseTo 0) peerAddress with
  | error panic =>
      rw [handled] at returns
      cases returns
  | ok outcome =>
      exact ⟨run, check, outcome.1, outcome.2, sent, handled,
        (answer_counts_iff reachable.of_restrict_remember noRepeat sent
          (parse_response (countingIds 0)) rfl (by rw [isId]) handled).mpr remembered⟩

/-- The answer to the first of two transmissions is lost. -/
theorem slow_answer_lost :
    ¬ forall (crypto : Crypto) (ids : Nat -> TransactionId) (isControlling : Bool)
      (seed : AgentSeed) (run : AgentRun × List IceAgent.SentCheck) (check : IceAgent.SentCheck)
      (data : Bytes) (parsed : ParsedStunMessage) (after : IceAgent) (result : HandleDataResult),
      ((agentSystem crypto ids isControlling seed).remember
        recentRecorder.recorder).Reachable run ->
      run.1.NoRepeat ids -> check ∈ run.2 -> parseIceStunMessage data = .ok parsed ->
      parsed.isResponse = true -> parsed.transactionId = check.transactionId.bytes ->
      run.1.agent.handleIncomingData data check.action.target = .ok (after, result) ->
        IceAgent.AnswerCounts run.1.agent after check.pair := by
  intro claim
  have ends : (remembers recentRecorder zeroCrypto countingIds (fun _ _ => true)
      (new true (uniformSeed 0 0), recentRecorder.start)
      (setupCalls ++ [.tick 500, .tick 1500])).any
      (fun run => run.1.next ≤ 7 ∧
        (run.2.any fun check => check.transactionId = countingIds 0 ∧
          (run.1.agent.handleIncomingData (responseTo 0) check.action.target).toOption.any
            fun outcome => outcome.1.checkList[check.pair]?.all fun pair =>
              pair.state ≠ .succeeded ∧ pair.nominated = false)) = true := by
    decide +kernel
  rcases exists_remembered (fun _ _ => True) (fun _ _ _ => trivial) ends with
    ⟨run, reachable, test⟩
  rcases of_decide_eq_true test with ⟨drawn, some_check⟩
  rcases List.any_eq_true.mp some_check with ⟨check, sent, isFirst⟩
  rcases of_decide_eq_true isFirst with ⟨isId, outcome⟩
  rcases Checked.exists_of_any outcome with ⟨⟨after, result⟩, handled, unmarked⟩
  have noRepeat : run.1.NoRepeat countingIds :=
    countingIds_injOn (drawn.trans (by decide))
  rcases claim _ _ _ _ run check (responseTo 0) _ after result reachable.of_restrict_remember
    noRepeat sent (parse_response (countingIds 0)) rfl (by rw [isId]) handled with
    ⟨pair, found, counts⟩
  rw [found] at unmarked
  rcases of_decide_eq_true unmarked with ⟨notSucceeded, notNominated⟩
  rcases counts with succeeded | ⟨_, nominated, _⟩
  · exact notSucceeded succeeded
  · rw [notNominated] at nominated
    cases nominated

end AgentRun

end P2pSdk
