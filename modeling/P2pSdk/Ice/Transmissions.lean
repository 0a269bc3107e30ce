import P2pSdk.Ice.AgentHistory

namespace P2pSdk

open Foundation

/-!
# The transmission fields of a pair

A pair counts its requests, keeps the timeout of the next one, and the time of
the last one.  Five operations touch these fields; that they belong together
is an invariant of every pair of every reachable agent, whatever its state.
The invariants of pairs are made by one rule, from what a fresh pair satisfies
and what each update of a pair keeps.
-/

namespace IceAgent

/-- The timeout after `k` requests since the last reset. -/
def retransmissionTimeout (k : Nat) : Nat := min (INITIAL_RTO_MS * 2 ^ k) MAX_RTO_MS

theorem retransmissionTimeout_le (k : Nat) : retransmissionTimeout k ≤ MAX_RTO_MS :=
  Nat.min_le_right _ _

theorem le_retransmissionTimeout (k : Nat) : INITIAL_RTO_MS ≤ retransmissionTimeout k := by
  have positive : INITIAL_RTO_MS * 1 ≤ INITIAL_RTO_MS * 2 ^ k :=
    Nat.mul_le_mul_left _ Nat.one_le_two_pow
  exact Nat.le_min.mpr ⟨by omega, by decide⟩

theorem retransmissionTimeout_succ (k : Nat) :
    min (retransmissionTimeout k * 2) MAX_RTO_MS = retransmissionTimeout (k + 1) := by
  unfold retransmissionTimeout
  rw [Nat.pow_succ, ← Nat.mul_assoc]
  omega

/-- From the sixth request on the timeout is at its cap. -/
theorem retransmissionTimeout_capped {k : Nat} (many : 5 ≤ k) :
    retransmissionTimeout k = MAX_RTO_MS := by
  have power : 2 ^ 5 ≤ 2 ^ k := Nat.pow_le_pow_right (by decide) many
  unfold retransmissionTimeout INITIAL_RTO_MS MAX_RTO_MS
  omega

/-! ## Fields after a check -/

@[simp] theorem pairAfterCheck_retransmitCount (pair : PairEntry) (now : Nat) (id : TransactionId) :
    (pairAfterCheck pair now id).retransmitCount = pair.retransmitCount + 1 := by
  unfold pairAfterCheck
  dsimp only
  split_ifs <;> rfl

@[simp] theorem pairAfterCheck_lastSentTimeMs (pair : PairEntry) (now : Nat) (id : TransactionId) :
    (pairAfterCheck pair now id).lastSentTimeMs = now := by
  unfold pairAfterCheck
  dsimp only
  split_ifs <;> rfl

theorem pairAfterCheck_state (pair : PairEntry) (now : Nat) (id : TransactionId) :
    (pairAfterCheck pair now id).state =
      if MAX_RETRANSMITS ≤ pair.retransmitCount + 1 then .failed else .inProgress := by
  unfold pairAfterCheck
  dsimp only
  split_ifs <;> rfl

theorem pairAfterCheck_retransmitTimerMs (pair : PairEntry) (now : Nat) (id : TransactionId) :
    (pairAfterCheck pair now id).retransmitTimerMs =
      if MAX_RETRANSMITS ≤ pair.retransmitCount + 1 then pair.retransmitTimerMs
      else min (pair.retransmitTimerMs * 2) MAX_RTO_MS := by
  unfold pairAfterCheck
  dsimp only
  split_ifs <;> rfl

/-! ## Members of an updated list -/

theorem mem_modify {pairs : List PairEntry} {i : Nat} {update : PairEntry -> PairEntry}
    {pair : PairEntry} (member : pair ∈ pairs.modify i update) :
    pair ∈ pairs ∨ exists old, old ∈ pairs ∧ pair = update old := by
  rcases List.mem_iff_getElem?.mp member with ⟨k, found⟩
  rw [List.getElem?_modify] at found
  rcases Option.map_eq_some_iff.mp found with ⟨old, isOld, same⟩
  have isMember := List.mem_of_getElem? isOld
  by_cases here : i = k
  · rw [if_pos here] at same
    exact Or.inr ⟨old, isMember, same.symm⟩
  · rw [if_neg here] at same
    subst same
    exact Or.inl isMember

/-- A pair after a round was passed over or checked. -/
theorem mem_tickPairs {crypto : Crypto} {ids : Nat -> TransactionId} {agent : IceAgent}
    {now next : Nat} {pairs : List PairEntry} {pair : PairEntry}
    (member : pair ∈ (tickPairs crypto ids agent now 0 pairs next).1) :
    pair ∈ pairs ∨ exists old k m, old ∈ pairs ∧ pair = pairAfterCheck old now (ids m) ∧
      agent.skipsPair now k old = false ∧
      sendCheck crypto agent now k old (ids m) ∈
        (tickPairs crypto ids agent now 0 pairs next).2.1 := by
  rcases List.mem_iff_getElem?.mp member with ⟨k, found⟩
  rcases tickPairs_later crypto ids agent now 0 pairs next found with
    ⟨old, isOld, ⟨_, same⟩ | ⟨m, checked, same, sent⟩⟩
  · rw [same]
    exact Or.inl (List.mem_of_getElem? isOld)
  · exact Or.inr ⟨old, 0 + k, m, List.mem_of_getElem? isOld, same, checked, sent⟩

/-! ## Invariants of pairs -/

/-- A property of pairs, relative to the requests sent so far, that a fresh
pair has and that every update of a pair keeps. -/
structure PairInvariant (crypto : Crypto) (holds : List SentCheck -> PairEntry -> Prop) : Prop where
  fresh : forall checks role localCand remoteCand, holds checks (freshPair role localCand remoteCand)
  grows : forall checks more pair, holds checks pair -> holds (checks ++ more) pair
  checked : forall checks more pair agent now k id, holds checks pair ->
    skipsPair agent now k pair = false -> sendCheck crypto agent now k pair id ∈ more ->
    holds (checks ++ more) (pairAfterCheck pair now id)
  succeed : forall checks pair, holds checks pair -> holds checks pair.succeed
  succeedNominated : forall checks pair, holds checks pair -> holds checks pair.succeedNominated
  putForward : forall checks pair, holds checks pair -> holds checks pair.putForward
  restart : forall checks pair, holds checks pair -> holds checks pair.restartUnanswered

namespace PairInvariant

variable {crypto : Crypto} {holds : List SentCheck -> PairEntry -> Prop}

/-- An update that keeps the property keeps it of every pair. -/
theorem modify {checks : List SentCheck} {pairs : List PairEntry}
    (all : forall pair, pair ∈ pairs -> holds checks pair) (i : Nat)
    {update : PairEntry -> PairEntry}
    (keeps : forall pair, holds checks pair -> holds checks (update pair)) :
    forall pair, pair ∈ pairs.modify i update -> holds checks pair := by
  intro pair member
  rcases mem_modify member with old | ⟨old, isMember, rfl⟩
  · exact all pair old
  · exact keeps old (all old isMember)

theorem handleIncomingData (invariant : PairInvariant crypto holds) {checks : List SentCheck}
    {agent after : IceAgent} {data : Bytes} {source : Address} {result : HandleDataResult}
    (all : forall pair, pair ∈ agent.checkList -> holds checks pair)
    (handled : agent.handleIncomingData data source = .ok (after, result)) :
    forall pair, pair ∈ after.checkList -> holds checks pair := by
  rcases handleIncomingData_checkList handled with
    same | ⟨idx, same⟩ | ⟨idx, same⟩ | same | ⟨idx, best, same⟩
  · rw [same]
    exact all
  · rw [same]
    exact modify all idx (invariant.succeed checks)
  · rw [same]
    exact modify all idx (invariant.succeedNominated checks)
  · rw [same]
    intro pair member
    rcases List.mem_map.mp member with ⟨old, isMember, rfl⟩
    exact invariant.restart checks old (all old isMember)
  · rw [same]
    exact modify (modify all idx (invariant.succeed checks)) best (invariant.putForward checks)

theorem tickChecks (invariant : PairInvariant crypto holds) {checks : List SentCheck}
    {agent : IceAgent} (ids : Nat -> TransactionId) (next now : Nat)
    (all : forall pair, pair ∈ agent.checkList -> holds checks pair) :
    forall pair, pair ∈ (agent.tickChecks crypto ids next now).1.checkList ->
      holds (checks ++ (agent.tickChecks crypto ids next now).2.1) pair := by
  intro pair member
  rcases tickChecks_cases crypto ids next agent now with ⟨_, same⟩ | ⟨_, state, _, same⟩
  · rw [same] at member ⊢
    exact invariant.grows checks [] pair (all pair member)
  · rw [same] at member ⊢
    rcases mem_tickPairs member with old | ⟨old, k, m, isMember, rfl, checked, sent⟩
    · exact invariant.grows checks _ pair (all pair old)
    · exact invariant.checked checks _ old agent now k (ids m) (all old isMember) checked sent

/-- The rule: the property holds of every pair in every reachable state. -/
theorem of_reachable (invariant : PairInvariant crypto holds) {ids : Nat -> TransactionId}
    {isControlling : Bool} {seed : AgentSeed} {run : AgentRun}
    (reachable : (agentSystem crypto ids isControlling seed).Reachable run) :
    forall pair, pair ∈ run.agent.checkList -> holds run.checks pair := by
  refine TransitionSystem.Reachable.invariant
    (fun run => forall pair, pair ∈ run.agent.checkList -> holds run.checks pair) reachable ?_ ?_
  · intro run isNew pair member
    rw [isNew] at member
    cases member
  · intro before op after held stepped
    rcases stepped with ⟨output, called⟩
    rcases AgentRun.call_cases called with ⟨agent, configures, rfl⟩ | ⟨_, rfl⟩ | ⟨now, _, rfl⟩ |
      ⟨data, source, agent, result, _, handled, rfl⟩ | ⟨_, rfl⟩
    · intro pair member
      rw [configures.checkList] at member
      exact held pair member
    · by_cases started : before.agent.startChecks.2 = .ok ()
      · intro pair member
        dsimp only at member
        rw [(startChecks_ok started).2.2.2] at member
        rcases mem_allPairs ((List.mem_insertionSort beforeInList).mp member) with
          ⟨localCand, remoteCand, _, _, rfl⟩
        exact invariant.fresh _ _ _ _
      · dsimp only
        rw [startChecks_error started]
        exact held
    · exact invariant.tickChecks ids before.next now held
    · exact invariant.handleIncomingData held handled
    · intro pair member
      cases member

end PairInvariant

/-- The timeout is that of the number of requests, and the time of the last
request is zero or that of a request sent. -/
structure Timed (checks : List SentCheck) (pair : PairEntry) : Prop where
  timeout : pair.retransmitTimerMs = retransmissionTimeout pair.retransmitCount
  sent : pair.lastSentTimeMs = 0 ∨ exists check, check ∈ checks ∧ check.time = pair.lastSentTimeMs

theorem timed_invariant (crypto : Crypto) : PairInvariant crypto Timed where
  fresh := fun _ _ _ _ => ⟨rfl, Or.inl rfl⟩
  grows := by
    intro checks more pair timed
    refine ⟨timed.timeout, ?_⟩
    rcases timed.sent with never | ⟨check, isMember, same⟩
    · exact Or.inl never
    · exact Or.inr ⟨check, List.mem_append_left _ isMember, same⟩
  checked := by
    intro checks more pair agent now k id timed _ sent
    refine ⟨?_, Or.inr ⟨_, List.mem_append_right _ sent, ?_⟩⟩
    · rw [pairAfterCheck_retransmitTimerMs, pairAfterCheck_retransmitCount, timed.timeout]
      split_ifs with last
      · -- The last request leaves the timeout as it is, which is at its cap.
        unfold MAX_RETRANSMITS at last
        rw [retransmissionTimeout_capped (by omega), retransmissionTimeout_capped (by omega)]
      · exact retransmissionTimeout_succ _
    · rw [pairAfterCheck_lastSentTimeMs]
      rfl
  succeed := fun _ _ timed => ⟨timed.timeout, timed.sent⟩
  succeedNominated := fun _ _ timed => ⟨timed.timeout, timed.sent⟩
  putForward := fun _ _ timed => ⟨rfl, timed.sent⟩
  restart := by
    intro checks pair timed
    unfold PairEntry.restartUnanswered
    split_ifs
    · exact ⟨rfl, timed.sent⟩
    · exact timed

end IceAgent

end P2pSdk
