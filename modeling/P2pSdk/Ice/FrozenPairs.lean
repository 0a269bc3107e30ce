import P2pSdk.Ice.Transmissions
import P2pSdk.Ice.Nomination

namespace P2pSdk

open Foundation

/-!
# Pairs frozen by a nomination

An agent gives up in the round after which all its pairs have failed.  A
nomination freezes every pair but the one put forward: no round checks or
fails the others any more.  So a nomination that goes unanswered is noticed
only if the other pairs had failed before, and otherwise never.
-/

namespace IceAgent

variable {crypto : Crypto} {ids : Nat -> TransactionId}

/-! ## Rounds with a nomination -/

/-- The agent is connecting or connected: `tick` goes over its pairs. -/
def IsChecking (agent : IceAgent) : Prop := agent.state = .connecting ∨ agent.state = .connected

theorem IsChecking.running {agent : IceAgent} (checking : agent.IsChecking) :
    ¬ (agent.state = .completed ∨ agent.state = .failed ∨ agent.state = .closed) := by
  rcases checking with same | same <;> simp [same]

/-- A frozen pair is passed over. -/
theorem tickPairs_frozen {agent : IceAgent} {i : Nat} (nominated : agent.nominatedPairIdx = some i)
    (now next : Nat) (pairs : List PairEntry) {k : Nat} (other : k ≠ i) :
    (tickPairs crypto ids agent now 0 pairs next).1[k]? = pairs[k]? := by
  rcases tickPairs_pairs crypto ids agent now 0 pairs next with ⟨_, length, later⟩
  cases known : pairs[k]? with
  | none => rw [List.getElem?_eq_none (by rw [length]; exact List.getElem?_eq_none_iff.mp known)]
  | some pair =>
      rcases later k pair known with ⟨after, isAfter, ⟨_, same⟩ | ⟨_, _, _, checked, _⟩⟩
      · rw [isAfter, same]
      · have skipped : agent.skipsPair now (0 + k) pair = true := by
          simp [skipsPair, nominated, Ne.symm other]
        rw [skipped] at checked
        cases checked

variable (crypto ids)

/-- The pair put forward is passed over, or checked. -/
theorem tickPairs_nominated {agent : IceAgent} {i : Nat} {pairs : List PairEntry} {pair : PairEntry}
    (found : pairs[i]? = some pair) (now next : Nat) :
    (agent.skipsPair now i pair = true ∧
        (tickPairs crypto ids agent now 0 pairs next).1[i]? = some pair) ∨
      exists id, agent.skipsPair now i pair = false ∧
        (tickPairs crypto ids agent now 0 pairs next).1[i]? = some (pairAfterCheck pair now id) := by
  rcases (tickPairs_pairs crypto ids agent now 0 pairs next).2.2 i pair found with
    ⟨after, isAfter, ⟨skipped, same⟩ | ⟨m, _, _, checked, same⟩⟩
  · rw [Nat.zero_add] at skipped
    rw [same] at isAfter
    exact Or.inl ⟨skipped, isAfter⟩
  · rw [Nat.zero_add] at checked
    rw [same] at isAfter
    exact Or.inr ⟨ids m, checked, isAfter⟩

variable {crypto ids}

/-- The pairs other than the one at `i` have failed. -/
def othersFailed (agent : IceAgent) (i : Nat) : Bool :=
  agent.checkList.zipIdx.all fun entry => entry.2 = i ∨ entry.1.state = .failed

/-- The pair at `i` has been answered, or marked by a request. -/
def hasSucceeded (agent : IceAgent) (i : Nat) : Bool :=
  agent.checkList[i]?.any fun pair => pair.state = .succeeded

/-- The failure of the nomination of `i` would be noticed. -/
def notices (agent : IceAgent) (i : Nat) : Bool := agent.othersFailed i && !agent.hasSucceeded i

theorem othersFailed_iff {agent : IceAgent} {i : Nat} :
    agent.othersFailed i = true <->
      forall (k : Nat) pair, k ≠ i -> agent.checkList[k]? = some pair -> pair.state = .failed := by
  unfold othersFailed
  rw [List.all_eq_true]
  constructor
  · intro all k pair other found
    have decided := of_decide_eq_true (all (pair, k) (List.mk_mem_zipIdx_iff_getElem?.mpr found))
    rcases decided with same | failed
    · exact absurd same other
    · exact failed
  · rintro all ⟨pair, k⟩ member
    rw [decide_eq_true_eq]
    by_cases other : k = i
    · exact Or.inl other
    · exact Or.inr (all k pair other (List.mk_mem_zipIdx_iff_getElem?.mp member))

theorem hasSucceeded_iff {agent : IceAgent} {i : Nat} :
    agent.hasSucceeded i = true <->
      exists pair, agent.checkList[i]? = some pair ∧ pair.state = .succeeded := by
  unfold hasSucceeded
  rw [Option.any_eq_true]
  simp only [decide_eq_true_eq]

/-- A nomination that is not noticed: a frozen pair has not failed, or the pair
put forward has succeeded. -/
theorem notices_eq_false {agent : IceAgent} {i : Nat} (unnoticed : agent.notices i = false) :
    exists k pair, agent.checkList[k]? = some pair ∧ pair.state ≠ .failed ∧
      (k ≠ i ∨ pair.state = .succeeded) := by
  by_contra none
  push Not at none
  have others : agent.othersFailed i = true := by
    rw [othersFailed_iff]
    intro k pair other found
    by_contra alive
    exact other (none k pair found alive).1
  have notSucceeded : agent.hasSucceeded i = false := by
    rw [← Bool.not_eq_true, hasSucceeded_iff]
    rintro ⟨pair, found, succeeded⟩
    exact (none i pair found (by simp [succeeded])).2 succeeded
  rw [notices, others, notSucceeded] at unnoticed
  cases unnoticed

theorem notices_false {agent : IceAgent} {i k : Nat} {pair : PairEntry}
    (found : agent.checkList[k]? = some pair) (alive : pair.state ≠ .failed)
    (blocks : k ≠ i ∨ pair.state = .succeeded) : agent.notices i = false := by
  rw [← Bool.not_eq_true, notices, Bool.and_eq_true, not_and]
  intro others
  rcases blocks with other | succeeded
  · exact absurd (othersFailed_iff.mp others k pair other found) alive
  · by_cases other : k = i
    · subst other
      have isTrue := hasSucceeded_iff.mpr ⟨pair, found, succeeded⟩
      rw [isTrue]
      exact Bool.false_ne_true
    · exact absurd (othersFailed_iff.mp others k pair other found) alive

/-! ## A nomination that is not noticed -/

variable (crypto ids) in
/-- An unnoticed nomination stays unnoticed. -/
theorem unnoticed_round {agent : IceAgent} {i : Nat} (checking : agent.IsChecking)
    (nominated : agent.nominatedPairIdx = some i) (unnoticed : agent.notices i = false)
    (next now : Nat) :
    (agent.tickChecks crypto ids next now).1.IsChecking ∧
      (agent.tickChecks crypto ids next now).1.nominatedPairIdx = some i ∧
      (agent.tickChecks crypto ids next now).1.notices i = false := by
  rcases notices_eq_false unnoticed with ⟨k, pair, found, alive, blocks⟩
  -- The pair that blocks is passed over.
  have kept : (tickPairs crypto ids agent now 0 agent.checkList next).1[k]? = some pair := by
    by_cases other : k = i
    · subst other
      have succeeded := blocks.resolve_left (fun contrary => contrary rfl)
      rcases tickPairs_nominated crypto ids found now next with
        ⟨_, same⟩ | ⟨id, checked, _⟩
      · exact same
      · simp [skipsPair, succeeded] at checked
    · rw [tickPairs_frozen nominated now next agent.checkList other]
      exact found
  rw [tickChecks_running crypto ids checking.running]
  dsimp only
  rw [@checkCompletion_alive { agent with
    checkList := (tickPairs crypto ids agent now 0 agent.checkList next).1 } pair
    (List.mem_of_getElem? kept) alive]
  exact ⟨checking, nominated, notices_false kept alive blocks⟩

/-! ## A nomination that is noticed -/

/-- Only the pair put forward is left, and at most `left` requests on it, the
next one from the time `due` on. -/
structure Awaits (agent : IceAgent) (i left due : Nat) : Prop where
  checking : agent.IsChecking
  nominated : agent.nominatedPairIdx = some i
  others : agent.othersFailed i = true
  pending : exists pair, agent.checkList[i]? = some pair ∧ pair.state ≠ .succeeded ∧
    (pair.state = .failed ∨
      (MAX_RETRANSMITS ≤ pair.retransmitCount + left ∧
        pair.lastSentTimeMs + pair.retransmitTimerMs ≤ due))

theorem othersFailed_round {agent : IceAgent} {i : Nat} (nominated : agent.nominatedPairIdx = some i)
    (others : agent.othersFailed i = true) (next now : Nat) :
    { agent with checkList := (tickPairs crypto ids agent now 0 agent.checkList next).1
      }.othersFailed i = true := by
  rw [othersFailed_iff]
  intro k other elsewhere isOther
  dsimp only at isOther
  rw [tickPairs_frozen nominated now next agent.checkList elsewhere] at isOther
  exact othersFailed_iff.mp others k other elsewhere isOther

/-- When the last pair has failed the agent gives up. -/
theorem gives_up {agent : IceAgent} {i : Nat} (checking : agent.IsChecking)
    (nominated : agent.nominatedPairIdx = some i) (others : agent.othersFailed i = true)
    {next now : Nat} {pair : PairEntry}
    (found : (tickPairs crypto ids agent now 0 agent.checkList next).1[i]? = some pair)
    (failed : pair.state = .failed) :
    (agent.tickChecks crypto ids next now).1.state = .failed := by
  rw [tickChecks_running crypto ids checking.running]
  dsimp only
  rw [checkCompletion_failed]
  · intro empty
    dsimp only at empty
    rw [empty] at found
    cases found
  · intro other member
    rcases List.mem_iff_getElem?.mp member with ⟨k, isOther⟩
    by_cases here : k = i
    · subst here
      rw [Option.some.inj (isOther.symm.trans found)]
      exact failed
    · exact othersFailed_iff.mp (othersFailed_round nominated others next now) k other here isOther

variable (crypto ids) in
/-- A round that is due gives up, or uses up one of the requests left. -/
theorem awaits_round {agent : IceAgent} {i left due : Nat} (awaits : agent.Awaits i left due)
    {now : Nat} (isDue : due ≤ now) (next : Nat) :
    (agent.tickChecks crypto ids next now).1.state = .failed ∨
      (1 < left ∧
        (agent.tickChecks crypto ids next now).1.Awaits i (left - 1) (now + MAX_RTO_MS)) := by
  rcases awaits.pending with ⟨pair, found, notSucceeded, state⟩
  rcases tickPairs_nominated crypto ids found now next with
    ⟨skipped, same⟩ | ⟨id, checked, same⟩
  · -- A pair that is due is passed over only when it has failed.
    rcases state with failed | ⟨_, waited⟩
    · exact Or.inl (gives_up awaits.checking awaits.nominated awaits.others same failed)
    · refine Or.inl (gives_up awaits.checking awaits.nominated awaits.others same ?_)
      have reasons := of_decide_eq_true skipped
      rcases reasons with succeeded | failed | ⟨_, elsewhere⟩ | early
      · exact absurd succeeded notSucceeded
      · exact failed
      · exact absurd awaits.nominated elsewhere
      · omega
  · have alive : pair.state ≠ .failed := by
      intro failed
      simp [skipsPair, failed] at checked
    have enough := (state.resolve_left alive).1
    by_cases last : MAX_RETRANSMITS ≤ pair.retransmitCount + 1
    · refine Or.inl (gives_up awaits.checking awaits.nominated awaits.others same ?_)
      rw [pairAfterCheck_state, if_pos last]
    · have isOpen : (pairAfterCheck pair now id).state = .inProgress := by
        rw [pairAfterCheck_state, if_neg last]
      refine Or.inr ⟨by omega, ?_⟩
      rw [tickChecks_running crypto ids awaits.checking.running]
      dsimp only
      rw [@checkCompletion_alive { agent with
        checkList := (tickPairs crypto ids agent now 0 agent.checkList next).1 } _
        (List.mem_of_getElem? same) (by simp [isOpen])]
      refine ⟨awaits.checking, awaits.nominated,
        othersFailed_round awaits.nominated awaits.others next now, _, same, by simp [isOpen],
        Or.inr ⟨?_, ?_⟩⟩
      · rw [pairAfterCheck_retransmitCount]
        omega
      · rw [pairAfterCheck_lastSentTimeMs, pairAfterCheck_retransmitTimerMs, if_neg last]
        omega

variable (crypto ids) in
/-- A round that is not due changes nothing. -/
theorem early_round {agent : IceAgent} {i : Nat} (checking : agent.IsChecking)
    (nominated : agent.nominatedPairIdx = some i) (others : agent.othersFailed i = true)
    {pair : PairEntry} (found : agent.checkList[i]? = some pair) (alive : pair.state ≠ .failed)
    {now : Nat} (early : now < pair.lastSentTimeMs + pair.retransmitTimerMs) (next : Nat) :
    (agent.tickChecks crypto ids next now).1.IsChecking ∧
      (agent.tickChecks crypto ids next now).1.nominatedPairIdx = some i ∧
      (agent.tickChecks crypto ids next now).1.othersFailed i = true ∧
      (agent.tickChecks crypto ids next now).1.checkList[i]? = some pair := by
  rcases tickPairs_nominated crypto ids found now next with
    ⟨_, same⟩ | ⟨id, checked, _⟩
  · rw [tickChecks_running crypto ids checking.running]
    dsimp only
    rw [@checkCompletion_alive { agent with
      checkList := (tickPairs crypto ids agent now 0 agent.checkList next).1 } pair
      (List.mem_of_getElem? same) alive]
    exact ⟨checking, nominated, othersFailed_round nominated others next now, same⟩
  · simp [skipsPair, early] at checked

end IceAgent

namespace AgentRun

variable {crypto : Crypto} {ids : Nat -> TransactionId} {isControlling : Bool} {seed : AgentSeed}

/-! ## Rounds without datagrams -/

/-- The run after a round. -/
def afterTick (crypto : Crypto) (ids : Nat -> TransactionId) (run : AgentRun) (now : Nat) :
    AgentRun where
  agent := (run.agent.tickChecks crypto ids run.next now).1
  next := (run.agent.tickChecks crypto ids run.next now).2.2
  checks := run.checks ++ (run.agent.tickChecks crypto ids run.next now).2.1
  announced := run.announced ||
    announces run.agent (run.agent.tickChecks crypto ids run.next now).2.1

/-- A sequence of rounds, at the given times. -/
def ticks (crypto : Crypto) (ids : Nat -> TransactionId) (run : AgentRun) (times : List Nat) :
    Option AgentRun :=
  run.calls crypto ids (fun _ _ => true) (times.map AgentOp.tick)

theorem ticks_cons (run : AgentRun) (now : Nat) (times : List Nat) :
    run.ticks crypto ids (now :: times) = (run.afterTick crypto ids now).ticks crypto ids times :=
  rfl

theorem failed_ticks {run after : AgentRun} {times : List Nat} (isFailed : run.agent.state = .failed)
    (continued : run.ticks crypto ids times = some after) : after.agent.state = .failed := by
  induction times generalizing run with
  | nil =>
      cases continued
      exact isFailed
  | cons now rest ih =>
      rw [ticks_cons] at continued
      refine ih ?_ continued
      unfold afterTick
      dsimp only
      have isOver : run.agent.tickChecks crypto ids run.next now = (run.agent, [], run.next) :=
        if_pos (Or.inr (Or.inl isFailed))
      rw [isOver]
      exact isFailed

/-- An unnoticed nomination stays for good. -/
theorem unnoticed_ticks {run after : AgentRun} {i : Nat} {times : List Nat}
    (checking : run.agent.IsChecking) (nominated : run.agent.nominatedPairIdx = some i)
    (unnoticed : run.agent.notices i = false)
    (continued : run.ticks crypto ids times = some after) :
    after.agent.IsChecking ∧ after.agent.nominatedPairIdx = some i := by
  induction times generalizing run with
  | nil =>
      cases continued
      exact ⟨checking, nominated⟩
  | cons now rest ih =>
      rw [ticks_cons] at continued
      rcases IceAgent.unnoticed_round crypto ids checking nominated unnoticed
        run.next now with ⟨stillChecking, stillNominated, stillUnnoticed⟩
      exact @ih (run.afterTick crypto ids now) stillChecking stillNominated stillUnnoticed
        continued

/-- Times that are far enough apart, from `due` on. -/
def Spaced : Nat -> List Nat -> Prop
  | _, [] => True
  | due, now :: rest => due ≤ now ∧ Spaced (now + MAX_RTO_MS) rest

/-- As many rounds as there are requests left make the agent give up. -/
theorem awaits_ticks {run after : AgentRun} {i left due : Nat} {times : List Nat}
    (awaits : run.agent.Awaits i left due) (some_left : 1 ≤ left) (enough : left ≤ times.length)
    (spaced : Spaced due times) (continued : run.ticks crypto ids times = some after) :
    after.agent.state = .failed := by
  induction times generalizing run left due with
  | nil =>
      rw [List.length_nil] at enough
      omega
  | cons now rest ih =>
      rw [ticks_cons] at continued
      rw [List.length_cons] at enough
      rcases IceAgent.awaits_round crypto ids awaits spaced.1 run.next with
        gaveUp | ⟨more, still⟩
      · exact @failed_ticks crypto ids (run.afterTick crypto ids now) _ _ gaveUp continued
      · exact @ih (run.afterTick crypto ids now) _ _ still (by omega) (by omega) spaced.2 continued

/-- A pair that no request was sent on for the maximal timeout is due, or no
request was sent on it yet. -/
theorem due_or_unsent {run : AgentRun}
    (reachable : (agentSystem crypto ids isControlling seed).Reachable run) {due : Nat}
    (waited : forall check, check ∈ run.checks -> check.time + MAX_RTO_MS ≤ due) {pair : PairEntry}
    (member : pair ∈ run.agent.checkList) :
    pair.retransmitTimerMs ≤ MAX_RTO_MS ∧
      (pair.lastSentTimeMs = 0 ∨ pair.lastSentTimeMs + pair.retransmitTimerMs ≤ due) := by
  have timed := (IceAgent.timed_invariant crypto).of_reachable reachable pair member
  have bound := IceAgent.retransmissionTimeout_le pair.retransmitCount
  rw [← timed.timeout] at bound
  refine ⟨bound, ?_⟩
  rcases timed.sent with never | ⟨check, isMember, same⟩
  · exact Or.inl never
  · have long := waited check isMember
    exact Or.inr (by omega)

/-- The failure of a nomination is noticed within eight rounds: the first may
come too early for a pair that no request was sent on yet, and seven are enough
from then on. -/
theorem noticed_ticks {run after : AgentRun} {i due : Nat} {times : List Nat}
    (reachable : (agentSystem crypto ids isControlling seed).Reachable run)
    (checking : run.agent.IsChecking) (nominated : run.agent.nominatedPairIdx = some i)
    (noticed : run.agent.notices i = true) (eight : times.length = 8)
    (waited : forall check, check ∈ run.checks -> check.time + MAX_RTO_MS ≤ due)
    (spaced : Spaced due times) (continued : run.ticks crypto ids times = some after) :
    after.agent.state = .failed := by
  rcases Bool.and_eq_true_iff.mp noticed with ⟨others, notSucceeded⟩
  rw [Bool.not_eq_true', ← Bool.not_eq_true, IceAgent.hasSucceeded_iff] at notSucceeded
  have inside := (nominationSound_of_reachable reachable).inside i nominated
  have found := List.getElem?_eq_getElem inside
  rcases due_or_unsent reachable waited (List.mem_of_getElem? found) with ⟨bound, isDue⟩
  generalize run.agent.checkList[i] = pair at found bound isDue
  have unanswered : pair.state ≠ .succeeded :=
    fun succeeded => notSucceeded ⟨pair, found, succeeded⟩
  cases times with
  | nil => cases eight
  | cons first rest =>
      rw [List.length_cons] at eight
      by_cases early : pair.state ≠ .failed ∧ first < pair.lastSentTimeMs + pair.retransmitTimerMs
      · rcases IceAgent.early_round crypto ids checking nominated others found early.1 early.2
          run.next with ⟨stillChecking, stillNominated, stillOthers, stillFound⟩
        have begins := spaced.1
        have never := isDue.resolve_right (by omega)
        rw [ticks_cons] at continued
        refine @awaits_ticks crypto ids (run.afterTick crypto ids first) after i 7 _ rest
          ⟨stillChecking, stillNominated, stillOthers, pair, stillFound, unanswered,
            Or.inr ⟨by unfold MAX_RETRANSMITS; omega, ?_⟩⟩ (by decide) (by omega) spaced.2
          continued
        omega
      · refine @awaits_ticks crypto ids run after i 7 first (first :: rest)
          ⟨checking, nominated, others, pair, found, unanswered, ?_⟩ (by decide)
          (by rw [List.length_cons]; omega) ⟨Nat.le_refl first, spaced.2⟩ continued
        by_cases failed : pair.state = .failed
        · exact Or.inl failed
        · refine Or.inr ⟨by unfold MAX_RETRANSMITS; omega, ?_⟩
          by_contra late
          exact early ⟨failed, by omega⟩

/-- In a state in which a nomination is pending, eight rounds that are at least
the maximal timeout apart, the first one so long after the last request, come
to a verdict exactly when the failure of the nomination is noticed: every other
pair has failed, and the pair put forward has not succeeded meanwhile. -/
theorem nomination_noticed_iff {run after : AgentRun} {i due : Nat} {times : List Nat}
    (reachable : (agentSystem crypto ids isControlling seed).Reachable run)
    (checking : run.agent.IsChecking) (nominated : run.agent.nominatedPairIdx = some i)
    (eight : times.length = 8)
    (waited : forall check, check ∈ run.checks -> check.time + MAX_RTO_MS ≤ due)
    (spaced : Spaced due times) (continued : run.ticks crypto ids times = some after) :
    (after.agent.state = .completed ∨ after.agent.state = .failed ∨
        exists other, other ≠ i ∧ after.agent.nominatedPairIdx = some other) <->
      run.agent.notices i = true := by
  cases noticed : run.agent.notices i with
  | false =>
      rcases unnoticed_ticks checking nominated noticed continued with ⟨still, same⟩
      refine iff_of_false ?_ Bool.false_ne_true
      rintro (isCompleted | isFailed | ⟨other, different, known⟩)
      · exact still.running (Or.inl isCompleted)
      · exact still.running (Or.inr (Or.inl isFailed))
      · exact different (Option.some.inj (known.symm.trans same))
  | true =>
      refine iff_of_true (Or.inr (Or.inl ?_)) rfl
      exact noticed_ticks reachable checking nominated noticed eight waited spaced continued

/-- Eight times that are far enough apart, after a first request at 500. -/
def slowTimes : List Nat := [16500, 32500, 48500, 64500, 80500, 96500, 112500, 128500]

theorem slowTimes_spaced : Spaced 16500 slowTimes := by
  unfold slowTimes Spaced Spaced Spaced Spaced Spaced Spaced Spaced Spaced Spaced MAX_RTO_MS
  decide

/-- With a single pair the failure is noticed. -/
theorem nomination_noticed_alone :
    exists run after : AgentRun, run.agent.IsChecking ∧ run.agent.nominatedPairIdx = some 0 ∧
      run.ticks zeroCrypto countingIds slowTimes = some after ∧
      (after.agent.state = .completed ∨ after.agent.state = .failed ∨
        exists other, other ≠ 0 ∧ after.agent.nominatedPairIdx = some other) := by
  have ends : ((new true (uniformSeed 0 0)).calls zeroCrypto countingIds (fun _ _ => true)
      (setupCalls ++ [.tick 500, .handleIncomingData (responseTo 0) peerAddress])).any
      (fun run => run.agent.state = .connected ∧ run.agent.nominatedPairIdx = some 0 ∧
        (run.checks.all fun check => check.time = 500) ∧ run.agent.notices 0 = true ∧
        (run.ticks zeroCrypto countingIds slowTimes).isSome) = true := by
    decide +kernel
  rcases exists_run (fun _ _ => True) (fun _ _ _ => trivial) ends with ⟨run, reachable, test⟩
  rcases of_decide_eq_true test with ⟨isConnected, nominated, sent, noticed, continues⟩
  rcases Option.isSome_iff_exists.mp continues with ⟨after, continued⟩
  have waited : forall check, check ∈ run.checks -> check.time + MAX_RTO_MS ≤ 16500 := by
    intro check isMember
    have same := of_decide_eq_true (List.all_eq_true.mp sent check isMember)
    unfold MAX_RTO_MS
    omega
  exact ⟨run, after, Or.inr isConnected, nominated, continued,
    (nomination_noticed_iff reachable.of_restrict (Or.inr isConnected) nominated rfl waited
      slowTimes_spaced continued).mpr noticed⟩

/-- Set up an agent against a peer with two candidates. -/
def twoPairsCalls : List AgentOp :=
  [.addHostCandidate "10.0.0.1" 5000,
    .setRemoteSessionDescription
      { iceUfrag := "peer", icePwd := "secret", isLite := false,
        candidates := ["candidate:1 1 UDP 2113929471 10.0.0.2 6000 typ host",
          "candidate:2 1 UDP 2113929471 10.0.0.3 7000 typ host"] },
    .startChecks]

/-- With a second pair, still unanswered when the first is put forward, the
agent stays CONNECTED. -/
theorem nomination_unnoticed_frozen :
    ¬ forall (crypto : Crypto) (ids : Nat -> TransactionId) (isControlling : Bool)
      (seed : AgentSeed) (run after : AgentRun) (i due : Nat) (times : List Nat),
      (agentSystem crypto ids isControlling seed).Reachable run -> run.agent.IsChecking ->
      run.agent.nominatedPairIdx = some i -> run.agent.nominatedPairConfirmed = false ->
      times.length = 8 -> (forall check, check ∈ run.checks -> check.time + MAX_RTO_MS ≤ due) ->
      Spaced due times -> run.ticks crypto ids times = some after ->
        after.agent.state = .completed ∨ after.agent.state = .failed ∨
          exists other, other ≠ i ∧ after.agent.nominatedPairIdx = some other := by
  intro claim
  have ends : ((new true (uniformSeed 0 0)).calls zeroCrypto countingIds (fun _ _ => true)
      (twoPairsCalls ++ [.tick 500, .handleIncomingData (responseTo 0) peerAddress])).any
      (fun run => run.agent.state = .connected ∧ run.agent.nominatedPairIdx = some 0 ∧
        run.agent.nominatedPairConfirmed = false ∧
        (run.checks.all fun check => check.time = 500) ∧
        (run.ticks zeroCrypto countingIds slowTimes).any fun after =>
          after.agent.state = .connected ∧ after.agent.nominatedPairIdx = some 0) = true := by
    decide +kernel
  rcases exists_run (fun _ _ => True) (fun _ _ _ => trivial) ends with ⟨run, reachable, test⟩
  rcases of_decide_eq_true test with ⟨isConnected, nominated, unconfirmed, sent, stays⟩
  rcases (Option.any_eq_true _ _).mp stays with ⟨after, continued, remains⟩
  rcases of_decide_eq_true remains with ⟨stillConnected, stillNominated⟩
  have waited : forall check, check ∈ run.checks -> check.time + MAX_RTO_MS ≤ 16500 := by
    intro check isMember
    have same := of_decide_eq_true (List.all_eq_true.mp sent check isMember)
    unfold MAX_RTO_MS
    omega
  rcases claim _ _ _ _ run after 0 16500 slowTimes reachable.of_restrict (Or.inr isConnected)
    nominated unconfirmed rfl waited slowTimes_spaced continued with
    isCompleted | isFailed | ⟨other, different, known⟩
  · cases stillConnected.symm.trans isCompleted
  · cases stillConnected.symm.trans isFailed
  · exact different (Option.some.inj (known.symm.trans stillNominated))

end AgentRun

end P2pSdk
