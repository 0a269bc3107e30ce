import P2pSdk.Ice.AgentRun

namespace P2pSdk

open Foundation

/-!
# The nomination of one agent

The nominated index survives every operation that rebuilds the check list,
because candidate lists never shrink and a list is always as long as the
candidates were when it was built.  A completed agent has a confirmed
nomination, and nothing takes a succeeded pair out of that state once the
nomination is confirmed.
-/

namespace IceAgent

/-- The nomination points into the check list, and a completed agent has a
confirmed nomination of a succeeded pair. -/
structure NominationSound (agent : IceAgent) : Prop where
  fits : agent.checkList.length ≤ agent.localCandidates.length * agent.remoteCandidates.length
  inside : forall i, agent.nominatedPairIdx = some i -> i < agent.checkList.length
  completed : agent.state = .completed -> agent.nominatedPairConfirmed = true ∧
    exists i pair, agent.nominatedPairIdx = some i ∧ agent.checkList[i]? = some pair ∧
      pair.state = .succeeded

namespace NominationSound

variable {agent : IceAgent}

theorem new (isControlling : Bool) (seed : AgentSeed) :
    NominationSound (IceAgent.new isControlling seed) where
  fits := Nat.zero_le _
  inside := by
    intro i known
    cases known
  completed := by
    intro isCompleted
    cases isCompleted

theorem configure {after : IceAgent} (sound : NominationSound agent)
    (configures : Configures agent after) : NominationSound after := by
  refine ⟨?_, ?_, ?_⟩
  · rw [configures.checkList]
    exact sound.fits.trans (Nat.mul_le_mul configures.localGrows configures.remoteGrows)
  · rw [configures.checkList, configures.nominatedPairIdx]
    exact sound.inside
  · rw [configures.state, configures.checkList, configures.nominatedPairIdx,
      configures.nominatedPairConfirmed]
    exact sound.completed

theorem setState (sound : NominationSound agent) {state : IceState}
    (notCompleted : state = .completed -> agent.state = .completed) :
    NominationSound (agent.setState state) :=
  ⟨sound.fits, sound.inside, fun isCompleted => sound.completed (notCompleted isCompleted)⟩

/-- The check list is rebuilt at least as long as it was, so the index of a
kept nomination still points into it. -/
theorem startChecks (sound : NominationSound agent) : NominationSound agent.startChecks.1 := by
  by_cases started : agent.startChecks.2 = .ok ()
  · rcases startChecks_ok started with ⟨_, _, _, same⟩
    have length : (agent.allPairs.insertionSort beforeInList).length =
        agent.localCandidates.length * agent.remoteCandidates.length := by
      rw [List.length_insertionSort, allPairs_length]
    rw [same]
    refine ⟨length.le, ?_, ?_⟩
    · intro i known
      exact (sound.inside i known).trans_le (sound.fits.trans length.ge)
    · intro isCompleted
      cases isCompleted
  · rw [startChecks_error started]
    exact sound.setState (fun isCompleted => nomatch isCompleted)

theorem stop (agent : IceAgent) : NominationSound agent.stop where
  fits := Nat.zero_le _
  inside := by
    intro i known
    cases known
  completed := by
    intro isCompleted
    cases isCompleted

theorem tickChecks (sound : NominationSound agent) (crypto : Crypto) (ids : Nat -> TransactionId)
    (next now : Nat) : NominationSound (agent.tickChecks crypto ids next now).1 := by
  rcases tickChecks_cases crypto ids next agent now with ⟨_, same⟩ | ⟨running, state, isState, same⟩
  · rw [same]
    exact sound
  · rw [same]
    have length := (tickPairs_pairs crypto ids agent now 0 agent.checkList next).2.1
    refine ⟨?_, ?_, ?_⟩
    · dsimp only
      rw [length]
      exact sound.fits
    · dsimp only
      rw [length]
      exact sound.inside
    · intro isCompleted
      rcases isState with isState | isState
      · exact absurd (Or.inl (isState.symm.trans isCompleted)) running
      · rw [isState] at isCompleted
        cases isCompleted

/-- Updating a pair so that a succeeded pair stays succeeded. -/
theorem updatePair (sound : NominationSound agent) (idx : Nat) (update : PairEntry -> PairEntry)
    (keeps : forall pair, pair.state = .succeeded -> (update pair).state = .succeeded) :
    NominationSound { agent with checkList := agent.checkList.modify idx update } := by
  refine ⟨?_, ?_, ?_⟩
  · dsimp only
    rw [List.length_modify]
    exact sound.fits
  · dsimp only
    rw [List.length_modify]
    exact sound.inside
  · intro isCompleted
    rcases sound.completed isCompleted with ⟨confirmed, i, pair, known, found, succeeded⟩
    refine ⟨confirmed, i, ?_⟩
    by_cases here : idx = i
    · subst here
      exact ⟨update pair, known, getElem?_modify_self update found, keeps pair succeeded⟩
    · exact ⟨pair, known, (getElem?_modify_of_ne here).trans found, succeeded⟩

theorem resolveRoleConflict (sound : NominationSound agent) (peerControlling : Option Bool) :
    NominationSound (agent.resolveRoleConflict peerControlling) := by
  rw [resolveRoleConflict_eq]
  exact ⟨sound.fits, sound.inside, sound.completed⟩

theorem markPair (sound : NominationSound agent) (useCandidate : Bool) (source : Address) :
    NominationSound (agent.markPair useCandidate source) := by
  rcases markPair_cases agent useCandidate source with
    ⟨_, same⟩ | ⟨idx, found, ⟨_, _, same⟩ | ⟨_, same⟩⟩
  · rw [same]
    exact sound
  · rw [same]
    rcases pairOfRemote_some found with ⟨pair, inside, _⟩
    have marked := getElem?_modify_self PairEntry.succeedNominated inside
    refine ⟨?_, ?_, ?_⟩
    · dsimp only
      rw [List.length_modify]
      exact sound.fits
    · intro i known
      cases known
      exact (List.getElem?_eq_some_iff.mp marked).1
    · intro _
      exact ⟨rfl, idx, pair.succeedNominated, rfl, marked, rfl⟩
  · rw [same]
    exact sound.updatePair idx PairEntry.succeed (fun _ _ => rfl)

theorem noteContact (sound : NominationSound agent) : NominationSound agent.noteContact := by
  rw [noteContact_eq]
  refine sound.setState ?_
  intro isCompleted
  unfold contacted at isCompleted
  split_ifs at isCompleted
  exact isCompleted

/-- A role conflict resets unanswered pairs only. -/
theorem handleRoleConflict (sound : NominationSound agent) :
    NominationSound agent.handleRoleConflict := by
  rw [handleRoleConflict_eq]
  refine ⟨?_, ?_, ?_⟩
  · dsimp only
    rw [List.length_map]
    exact sound.fits
  · dsimp only
    rw [List.length_map]
    exact sound.inside
  · intro isCompleted
    rcases sound.completed isCompleted with ⟨confirmed, i, pair, known, found, succeeded⟩
    refine ⟨confirmed, i, pair, known, ?_, succeeded⟩
    have unchanged : pair.restartUnanswered = pair := by
      simp [PairEntry.restartUnanswered, succeeded]
    dsimp only
    rw [List.getElem?_map, found, Option.map_some, unchanged]

theorem acknowledgePair (sound : NominationSound agent) {idx : Nat} {pair : PairEntry}
    (found : agent.checkList[idx]? = some pair) : NominationSound (agent.acknowledgePair idx) := by
  have marked := sound.updatePair idx PairEntry.succeed (fun _ _ => rfl)
  have stays : acknowledged agent.state = .completed -> agent.state = .completed := by
    intro isCompleted
    unfold acknowledged at isCompleted
    split_ifs at isCompleted
    exact isCompleted
  rcases acknowledgePair_cases agent found with
    ⟨_, same⟩ | ⟨_, _, nominated, same⟩ | ⟨_, unconfirmed, _, best, chosen, isBest, _, same⟩
  · rw [same]
    exact marked.setState stays
  · rw [same]
    refine ⟨marked.fits, marked.inside, ?_⟩
    intro _
    exact ⟨rfl, idx, pair.succeed, nominated, getElem?_modify_self PairEntry.succeed found, rfl⟩
  · rw [same]
    refine ⟨?_, ?_, ?_⟩
    · dsimp only
      rw [List.length_modify]
      exact marked.fits
    · intro i known
      cases known
      dsimp only
      rw [List.length_modify]
      exact (List.getElem?_eq_some_iff.mp isBest).1
    · intro isCompleted
      have confirmed := (sound.completed (stays isCompleted)).1
      rw [unconfirmed] at confirmed
      cases confirmed

theorem handleIncomingData (sound : NominationSound agent) {after : IceAgent} {data : Bytes}
    {source : Address} {result : HandleDataResult}
    (handled : agent.handleIncomingData data source = .ok (after, result)) :
    NominationSound after :=
  handleIncomingData_preserves NominationSound handled sound
    (fun _ peer sound => sound.resolveRoleConflict peer)
    (fun _ useCandidate source sound => sound.markPair useCandidate source)
    (fun _ sound => sound.noteContact) (fun _ sound => sound.handleRoleConflict)
    (fun _ _ _ sound found => sound.acknowledgePair found)

end NominationSound

end IceAgent

namespace AgentRun

variable {crypto : Crypto} {ids : Nat -> TransactionId} {isControlling : Bool} {seed : AgentSeed}

theorem nominationSound_of_reachable {run : AgentRun}
    (reachable : (agentSystem crypto ids isControlling seed).Reachable run) :
    run.agent.NominationSound :=
  agent_invariant IceAgent.NominationSound reachable (IceAgent.NominationSound.new _ _)
    (fun _ _ sound configures => sound.configure configures) (fun _ sound => sound.startChecks)
    (fun _ next now sound => sound.tickChecks crypto ids next now)
    (fun _ _ _ _ _ sound handled => sound.handleIncomingData handled) (fun agent _ => IceAgent.NominationSound.stop agent)

/-- In every reachable state the nominated index points into the check list,
and a completed agent sends data to the remote address of a succeeded pair. -/
theorem nomination_of_reachable {run : AgentRun}
    (reachable : (agentSystem crypto ids isControlling seed).Reachable run) :
    (forall i, run.agent.nominatedPairIdx = some i -> i < run.agent.checkList.length) ∧
    (run.agent.state = .completed -> exists i pair, run.agent.nominatedPairIdx = some i ∧
      run.agent.checkList[i]? = some pair ∧ pair.state = .succeeded ∧
      forall data, run.agent.sendData data = some
        { data := data
          targetIp := pair.remoteCand.connectionAddress
          targetPort := pair.remoteCand.port }) := by
  have sound := nominationSound_of_reachable reachable
  refine ⟨sound.inside, ?_⟩
  intro isCompleted
  rcases sound.completed isCompleted with ⟨_, i, pair, known, found, succeeded⟩
  refine ⟨i, pair, known, found, succeeded, ?_⟩
  intro data
  simp only [IceAgent.sendData, IceAgent.nominatedPair, known, Option.bind_some, found,
    Option.map_some]

/-- A controlling agent that was answered twice is such a completed agent. -/
theorem nomination_of_completed_run :
    exists run, (agentSystem zeroCrypto countingIds true (uniformSeed 0 0)).Reachable run ∧
      run.agent.state = .completed ∧ exists i pair, run.agent.nominatedPairIdx = some i ∧
        run.agent.checkList[i]? = some pair ∧ pair.state = .succeeded ∧
        forall data, run.agent.sendData data = some
          { data := data
            targetIp := pair.remoteCand.connectionAddress
            targetPort := pair.remoteCand.port } := by
  have ends : ((new true (uniformSeed 0 0)).calls zeroCrypto countingIds (fun _ _ => true)
      (setupCalls ++ [.tick 500, .handleIncomingData (responseTo 0) peerAddress, .tick 1000,
        .handleIncomingData (responseTo 1) peerAddress])).any
      (fun run => run.agent.state = .completed) = true := by
    decide +kernel
  rcases exists_run (fun _ _ => True) (fun _ _ _ => trivial) ends with
    ⟨run, restricted, test⟩
  have reachable := restricted.of_restrict
  have isCompleted : run.agent.state = .completed := of_decide_eq_true test
  exact ⟨run, reachable, isCompleted, (nomination_of_reachable reachable).2 isCompleted⟩

end AgentRun

end P2pSdk
