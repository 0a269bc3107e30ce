import P2pSdk.Ice.AgentHistory
import P2pSdk.Ice.Contact
import Mathlib.Data.List.ProdSigma

namespace P2pSdk

open Foundation

/-!
# The order of the check list

`start_checks` pairs every local with every remote candidate and sorts the
pairs by priority.  Everything that happens to the list afterwards happens to
its pairs in place, and none of it touches the candidates or the priority of a
pair: a switch of roles does not compute the priorities again.  The list
stays the one of the last successful start, in its order.

A nomination by a controlling agent takes the first pair that succeeded.  In a
sorted list the first pair with a property has the highest priority of all
pairs with the property.
-/

/-- What the start of the checks fixes of a pair. -/
structure PairRank where
  localCand : IceCandidate
  remoteCand : IceCandidate
  priority : UInt64

def PairEntry.rank (pair : PairEntry) : PairRank where
  localCand := pair.localCand
  remoteCand := pair.remoteCand
  priority := pair.priority

/-- The agent as it was at the last successful start of the checks; nothing
after `stop`.  A start that fails leaves the check list as it is. -/
def startRecorder : AgentRecorder (Option IceAgent) where
  start := none
  onStart := fun agent started => if agent.startChecks.2.isOk then some agent else started
  onTick := fun _ _ started => started
  onData := fun _ _ _ _ started => started
  onStop := fun _ => none

namespace IceAgent

/-! ## What updates keep -/

/-- The ranks of the check list, in its order. -/
def ranks (agent : IceAgent) : List PairRank := agent.checkList.map PairEntry.rank

theorem rank_succeed (pair : PairEntry) : pair.succeed.rank = pair.rank := rfl

theorem rank_succeedNominated (pair : PairEntry) : pair.succeedNominated.rank = pair.rank := rfl

theorem rank_putForward (pair : PairEntry) : pair.putForward.rank = pair.rank := rfl

theorem rank_pairAfterCheck (pair : PairEntry) (now : Nat) (id : TransactionId) :
    (pairAfterCheck pair now id).rank = pair.rank := by
  unfold pairAfterCheck
  dsimp only
  split_ifs <;> rfl

theorem rank_restartUnanswered (pair : PairEntry) :
    pair.restartUnanswered.rank = pair.rank := by
  unfold PairEntry.restartUnanswered
  split_ifs <;> rfl

theorem tickChecks_ranks (crypto : Crypto) (ids : Nat -> TransactionId) (agent : IceAgent)
    (next now : Nat) : (agent.tickChecks crypto ids next now).1.ranks = agent.ranks := by
  rcases tickChecks_cases crypto ids next agent now with ⟨_, same⟩ | ⟨_, state, _, same⟩
  · rw [same]
  · rw [same]
    exact map_tickPairs_eq crypto ids rank_pairAfterCheck agent now 0 agent.checkList next

theorem handleIncomingData_ranks {agent after : IceAgent} {data : Bytes} {source : Address}
    {result : HandleDataResult}
    (handled : agent.handleIncomingData data source = .ok (after, result)) :
    after.ranks = agent.ranks := by
  unfold ranks
  rcases handleIncomingData_checkList handled with
    same | ⟨idx, same⟩ | ⟨idx, same⟩ | same | ⟨idx, best, same⟩
  · rw [same]
  · rw [same, map_modify_eq rank_succeed]
  · rw [same, map_modify_eq rank_succeedNominated]
  · rw [same, List.map_map]
    exact List.map_congr_left fun pair _ => rank_restartUnanswered pair
  · rw [same, map_modify_eq rank_putForward, map_modify_eq rank_succeed]

/-! ## The list as it was built -/

instance : Std.Total beforeInList where
  total := fun left right => UInt64.le_total right.priority left.priority

instance : IsTrans PairEntry beforeInList where
  trans := fun _ _ _ first second => UInt64.le_trans second first

/-- The ranks of the list that a successful start builds. -/
theorem startChecks_ranks {agent : IceAgent} (started : agent.startChecks.2.isOk = true) :
    agent.startChecks.1.ranks =
      (agent.allPairs.insertionSort beforeInList).map PairEntry.rank := by
  rw [(startChecks_ok (startChecks_isOk_iff.mp started)).2.2.2]
  rfl

theorem allPairs_candidates (agent : IceAgent) :
    agent.allPairs.map (fun pair => (pair.localCand, pair.remoteCand)) =
      agent.localCandidates ×ˢ agent.remoteCandidates := by
  unfold allPairs
  rw [List.map_flatMap]
  simp only [List.map_map]
  rfl

/-- The order of a list is a matter of its ranks. -/
theorem pairwise_ranks {pairs : List PairEntry} :
    pairs.Pairwise beforeInList <->
      (pairs.map PairEntry.rank).Pairwise fun left right => right.priority ≤ left.priority := by
  rw [List.pairwise_map]
  rfl

/-- The check list is the one that the given agent built, in its order. -/
def KeepsOrder (agent : IceAgent) : Option IceAgent -> Prop
  | none => agent.checkList = []
  | some start => start.startChecks.2.isOk = true ∧ agent.ranks = start.startChecks.1.ranks

namespace KeepsOrder

variable {agent : IceAgent} {started : Option IceAgent}

/-- It is a matter of the ranks. -/
theorem of_ranks (keeps : agent.KeepsOrder started) {after : IceAgent}
    (same : after.ranks = agent.ranks) : after.KeepsOrder started := by
  cases started with
  | none =>
      have empty : agent.checkList = [] := keeps
      unfold ranks at same
      rw [empty, List.map_nil] at same
      exact List.map_eq_nil_iff.mp same
  | some start => exact ⟨keeps.1, same.trans keeps.2⟩

theorem sorted (keeps : agent.KeepsOrder started) : agent.checkList.Pairwise beforeInList := by
  cases started with
  | none =>
      have empty : agent.checkList = [] := keeps
      rw [empty]
      exact List.Pairwise.nil
  | some start =>
      rw [pairwise_ranks]
      change agent.ranks.Pairwise _
      rw [keeps.2, startChecks_ranks keeps.1, ← pairwise_ranks]
      exact List.pairwise_insertionSort beforeInList start.allPairs

/-- All pairs of the candidates are in the list, each once. -/
theorem candidates {start : IceAgent} (keeps : agent.KeepsOrder (some start)) :
    (agent.checkList.map fun pair => (pair.localCand, pair.remoteCand)).Perm
      (start.localCandidates ×ˢ start.remoteCandidates) := by
  have viaRanks : forall pairs : List PairEntry,
      pairs.map (fun pair => (pair.localCand, pair.remoteCand)) =
        (pairs.map PairEntry.rank).map fun rank => (rank.localCand, rank.remoteCand) := by
    intro pairs
    rw [List.map_map]
    rfl
  have ranks : agent.checkList.map PairEntry.rank = start.startChecks.1.ranks := keeps.2
  rw [viaRanks, ranks, startChecks_ranks keeps.1, ← viaRanks, ← allPairs_candidates]
  exact (List.perm_insertionSort beforeInList start.allPairs).map _

/-- The priority of a pair is that of its candidates in the role of the start. -/
theorem priority {start : IceAgent} (keeps : agent.KeepsOrder (some start)) {pair : PairEntry}
    (member : pair ∈ agent.checkList) :
    pair.priority = calcPairPriority pair.localCand.priority pair.remoteCand.priority start.role := by
  have ranked : pair.rank ∈ agent.ranks := List.mem_map_of_mem member
  rw [keeps.2, startChecks_ranks keeps.1] at ranked
  rcases List.mem_map.mp ranked with ⟨built, isBuilt, same⟩
  rcases mem_allPairs ((List.mem_insertionSort beforeInList).mp isBuilt) with
    ⟨localCand, remoteCand, _, _, rfl⟩
  cases pair
  cases same
  rfl

end KeepsOrder

/-! ## The first pair of a sorted list -/

/-- The first element that passes a test comes before all others that pass it. -/
theorem first_dominates {Element : Type} {before : Element -> Element -> Prop}
    {elements : List Element} (sorted : elements.Pairwise before) {test : Element -> Bool}
    {first : Nat} {chosen : Element} (search : elements.findIdx? test = some first)
    (isFirst : elements[first]? = some chosen) {other : Element} (member : other ∈ elements)
    (passes : test other = true) : other = chosen ∨ before chosen other := by
  rcases List.findIdx?_eq_some_iff_getElem.mp search with ⟨inside, _, earlierFail⟩
  rcases List.getElem?_eq_some_iff.mp isFirst with ⟨_, rfl⟩
  rcases List.mem_iff_getElem.mp member with ⟨k, isInside, rfl⟩
  rcases Nat.lt_trichotomy k first with earlier | same | later
  · exact absurd passes (earlierFail k earlier)
  · subst same
    exact Or.inl rfl
  · exact Or.inr (List.pairwise_iff_getElem.mp sorted first k inside isInside later)

/-- The check list when a response for the pair at `idx` has marked it, and a
pair may be put forward. -/
def markedPairs (agent : IceAgent) (idx : Nat) : List PairEntry :=
  agent.checkList.modify idx PairEntry.succeed

/-- Putting forward takes the first pair that succeeded. -/
theorem nominateBest_first {agent : IceAgent} {best : Nat}
    (nominated : agent.nominateBest.nominatedPairIdx = some best)
    (noIndex : agent.nominatedPairIdx = none) :
    agent.checkList.findIdx? (fun pair => pair.state = .succeeded) = some best := by
  cases search : agent.checkList.findIdx? fun pair => pair.state = .succeeded with
  | none =>
      simp only [nominateBest, search] at nominated
      rw [noIndex] at nominated
      cases nominated
  | some first =>
      simp only [nominateBest, search] at nominated
      exact nominated

/-- A nomination by a response is of the first pair that succeeded. -/
theorem acknowledgePair_first {agent : IceAgent} {idx best : Nat} {pair : PairEntry}
    (found : agent.checkList[idx]? = some pair)
    (nominated : (agent.acknowledgePair idx).nominatedPairIdx = some best)
    (new : agent.nominatedPairIdx ≠ some best) :
    (agent.markedPairs idx).findIdx? (fun pair => pair.state = .succeeded) = some best := by
  rcases acknowledgePair_cases agent found with
    ⟨_, same⟩ | ⟨_, _, _, same⟩ | ⟨role, unconfirmed, noIndex, _⟩
  · rw [same] at nominated
    exact absurd nominated new
  · rw [same] at nominated
    exact absurd nominated new
  · have advance : (agent.updatePair idx PairEntry.succeed).advanceNomination idx =
        (agent.updatePair idx PairEntry.succeed).nominateBest := by
      simp [advanceNomination, updatePair, role, unconfirmed, noIndex]
    have keepsIndex : (agent.acknowledgePair idx).nominatedPairIdx =
        (agent.updatePair idx PairEntry.succeed).nominateBest.nominatedPairIdx := by
      unfold acknowledgePair
      rw [advance]
      dsimp only
      split_ifs <;> rfl
    rw [keepsIndex] at nominated
    exact nominateBest_first nominated noIndex

theorem resolveRoleConflict_nominatedPairIdx (agent : IceAgent) (peerControlling : Option Bool) :
    (agent.resolveRoleConflict peerControlling).nominatedPairIdx = agent.nominatedPairIdx := by
  rw [resolveRoleConflict_eq]

/-- A request makes an agent nominate as the controlled one only. -/
theorem acceptRequest_nominatedPairIdx (agent : IceAgent) (parsed : ParsedStunMessage)
    (source : Address) (role : (agent.acceptRequest parsed source).role = .controlling) :
    (agent.acceptRequest parsed source).nominatedPairIdx = agent.nominatedPairIdx := by
  unfold acceptRequest at role ⊢
  rw [noteContact_eq] at role ⊢
  dsimp only at role ⊢
  rw [← resolveRoleConflict_nominatedPairIdx agent parsed.controlling]
  rcases markPair_cases (agent.resolveRoleConflict parsed.controlling) parsed.useCandidate source
    with ⟨_, same⟩ | ⟨idx, _, ⟨_, controlled, same⟩ | ⟨_, same⟩⟩
  · rw [same]
  · rw [same] at role
    cases controlled.symm.trans role
  · rw [same]

/-- A datagram that makes an agent nominate as the controlling one is a
response to a check. -/
theorem controlling_nomination {before after : IceAgent} {data : Bytes} {source : Address}
    {result : HandleDataResult}
    (handled : before.handleIncomingData data source = .ok (after, result))
    (role : after.role = .controlling)
    (new : after.nominatedPairIdx ≠ before.nominatedPairIdx) :
    exists idx, before.reaction data = .acknowledged idx ∧ after = before.acknowledgePair idx := by
  have reacted := handleIncomingData_reacts handled
  cases reacts : before.reaction data with
  | ignored =>
      rw [reacts] at reacted
      exact absurd (congrArg nominatedPairIdx reacted) new
  | unanswered parsed =>
      rw [reacts] at reacted
      refine absurd ?_ new
      rw [reacted]
      exact resolveRoleConflict_nominatedPairIdx before parsed.controlling
  | accepted parsed =>
      rw [reacts] at reacted
      refine absurd ?_ new
      rw [reacted] at role ⊢
      exact acceptRequest_nominatedPairIdx before parsed source role
  | conflict =>
      rw [reacts] at reacted
      exact absurd (congrArg nominatedPairIdx reacted) new
  | acknowledged idx =>
      rw [reacts] at reacted
      exact ⟨idx, rfl, reacted⟩

/-- In a sorted list the pair that a response nominates is the best of those
that succeeded. -/
theorem acknowledgePair_best {agent : IceAgent} (sorted : agent.checkList.Pairwise beforeInList)
    {idx best : Nat} {pair : PairEntry} (found : agent.checkList[idx]? = some pair)
    (nominated : (agent.acknowledgePair idx).nominatedPairIdx = some best)
    (new : agent.nominatedPairIdx ≠ some best) :
    exists chosen, (agent.markedPairs idx)[best]? = some chosen ∧ chosen.state = .succeeded ∧
      forall other, other ∈ agent.markedPairs idx -> other.state = .succeeded ->
        other.priority ≤ chosen.priority := by
  have search := acknowledgePair_first found nominated new
  rcases List.findIdx?_eq_some_iff_getElem.mp search with ⟨inside, succeeded, _⟩
  have isChosen := List.getElem?_eq_getElem inside
  have stillSorted : (agent.markedPairs idx).Pairwise beforeInList := by
    rw [pairwise_ranks, markedPairs, map_modify_eq rank_succeed, ← pairwise_ranks]
    exact sorted
  refine ⟨(agent.markedPairs idx)[best], isChosen, of_decide_eq_true succeeded, ?_⟩
  intro other member otherSucceeded
  rcases first_dominates stillSorted search isChosen member (decide_eq_true otherSucceeded) with
    same | below
  · rw [same]
    exact UInt64.le_refl _
  · exact below

end IceAgent

namespace AgentRun

variable {crypto : Crypto} {ids : Nat -> TransactionId} {isControlling : Bool} {seed : AgentSeed}

theorem keepsOrder_of_reachable {run : AgentRun × Option IceAgent}
    (reachable : ((agentSystem crypto ids isControlling seed).remember
      startRecorder.recorder).Reachable run) : run.1.agent.KeepsOrder run.2 := by
  refine remembered_invariant (fun run started => run.agent.KeepsOrder started)
    (reachable.restrict_all fun (_ : AgentRun) (_ : AgentOp) => trivial) rfl ?_ ?_ ?_ ?_ ?_
  · intro before started agent keeps configures
    exact keeps.of_ranks (congrArg (List.map PairEntry.rank) configures.checkList)
  · intro before started _ keeps
    unfold startRecorder
    dsimp only
    split_ifs with isOk
    · exact ⟨isOk, rfl⟩
    · rw [IceAgent.startChecks_error fun contrary => isOk (IceAgent.startChecks_isOk_iff.mpr contrary)]
      exact keeps.of_ranks rfl
  · intro before started now _ _ keeps
    exact keeps.of_ranks (IceAgent.tickChecks_ranks crypto ids before.agent before.next now)
  · intro before started data source agent result _ _ keeps _ handled
    exact keeps.of_ranks (IceAgent.handleIncomingData_ranks handled)
  · intro before started _ _
    rfl

/-- **The best working pair is nominated.**  In every reachable state between a
successful start of the checks and the next stop, the check list holds each
pair of a local and a remote candidate of that start once, by non-increasing
priority, the priorities being those of the role at that start.  And when a
datagram makes the agent nominate a pair as the controlling one, the datagram
answers a check, and once the answered pair is marked the nominated pair is
one that succeeded, with a priority no lower than that of any other. -/
theorem best_pair_nominated {run : AgentRun × Option IceAgent}
    (reachable : ((agentSystem crypto ids isControlling seed).remember
      startRecorder.recorder).Reachable run) :
    (forall start, run.2 = some start ->
      (run.1.agent.checkList.map fun pair => (pair.localCand, pair.remoteCand)).Perm
        (start.localCandidates ×ˢ start.remoteCandidates) ∧
      (run.1.agent.checkList.Pairwise fun earlier later => later.priority ≤ earlier.priority) ∧
      forall pair, pair ∈ run.1.agent.checkList ->
        pair.priority =
          calcPairPriority pair.localCand.priority pair.remoteCand.priority start.role) ∧
    (forall data source after result best,
      run.1.agent.handleIncomingData data source = .ok (after, result) ->
      after.role = .controlling -> after.nominatedPairIdx = some best ->
      run.1.agent.nominatedPairIdx ≠ some best ->
        exists idx chosen, run.1.agent.reaction data = .acknowledged idx ∧
          (run.1.agent.markedPairs idx)[best]? = some chosen ∧ chosen.state = .succeeded ∧
          forall other, other ∈ run.1.agent.markedPairs idx -> other.state = .succeeded ->
            other.priority ≤ chosen.priority) := by
  have keeps := keepsOrder_of_reachable reachable
  constructor
  · intro start isStart
    rw [isStart] at keeps
    exact ⟨keeps.candidates, keeps.sorted, fun pair member => keeps.priority member⟩
  · intro data source after result best handled role nominated new
    have moved : after.nominatedPairIdx ≠ run.1.agent.nominatedPairIdx := by
      rw [nominated]
      exact new.symm
    rcases IceAgent.controlling_nomination handled role moved with ⟨idx, reacts, rfl⟩
    rcases IceAgent.reaction_acknowledged reacts with ⟨parsed, _, _, found⟩
    rcases IceAgent.pairOfTransaction_some found with ⟨pair, isPair, _⟩
    rcases IceAgent.acknowledgePair_best keeps.sorted isPair nominated new with
      ⟨chosen, isChosen, succeeded, best⟩
    exact ⟨idx, chosen, reacts, isChosen, succeeded, best⟩

/-- Set up an agent against a peer that lists the worse of its two candidates
first. -/
def worseFirstCalls : List AgentOp :=
  [.addHostCandidate "10.0.0.1" 5000,
    .setRemoteSessionDescription
      { iceUfrag := "peer", icePwd := "secret", isLite := false,
        candidates := ["candidate:1 1 UDP 1000 10.0.0.3 7000 typ host",
          "candidate:2 1 UDP 2113929471 10.0.0.2 6000 typ host"] },
    .startChecks]

/-- A request marks the better pair, and the answer to the check of the worse
one nominates the better. -/
theorem best_pair_nominated_marked :
    exists (run : AgentRun × Option IceAgent) (start after : IceAgent) (idx : Nat)
      (chosen : PairEntry), run.2 = some start ∧
      (run.1.agent.checkList.map fun pair => (pair.localCand, pair.remoteCand)).Perm
        (start.localCandidates ×ˢ start.remoteCandidates) ∧
      run.1.agent.reaction (responseTo 1) = .acknowledged idx ∧ after.nominatedPairIdx = some 0 ∧
      (run.1.agent.markedPairs idx)[0]? = some chosen ∧ chosen.state = .succeeded ∧
      forall other, other ∈ run.1.agent.markedPairs idx -> other.state = .succeeded ->
        other.priority ≤ chosen.priority := by
  have ends : (remembers startRecorder zeroCrypto countingIds (fun _ _ => true)
      (new true (uniformSeed 0 0), startRecorder.start)
      (worseFirstCalls ++ [.tick 500, .handleIncomingData bareRequest peerAddress])).any
      (fun run => run.2.isSome ∧ run.1.agent.nominatedPairIdx = none ∧
        (run.1.agent.handleIncomingData (responseTo 1) peerAddress).toOption.any fun outcome =>
          outcome.1.role = .controlling ∧ outcome.1.nominatedPairIdx = some 0) = true := by
    decide +kernel
  rcases exists_remembered (fun _ _ => True) (fun _ _ _ => trivial) ends with
    ⟨run, reachable, test⟩
  rcases of_decide_eq_true test with ⟨isSome, noIndex, outcome⟩
  rcases Option.isSome_iff_exists.mp isSome with ⟨start, isStart⟩
  rcases Checked.exists_of_any outcome with ⟨⟨after, result⟩, handled, becomes⟩
  rcases of_decide_eq_true becomes with ⟨role, nominated⟩
  have best := best_pair_nominated reachable.of_restrict_remember
  have new : run.1.agent.nominatedPairIdx ≠ some 0 := by
    rw [noIndex]
    exact (Option.some_ne_none 0).symm
  rcases best.2 (responseTo 1) peerAddress after result 0 handled role nominated new with
    ⟨idx, chosen, reacts, isChosen, succeeded, dominates⟩
  exact ⟨run, start, after, idx, chosen, isStart, (best.1 start isStart).1, reacts, nominated,
    isChosen, succeeded, dominates⟩

end AgentRun

end P2pSdk
