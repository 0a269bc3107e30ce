import P2pSdk.Ice.CheckOrder
import P2pSdk.Foundation.Ranking

namespace P2pSdk

open Foundation

/-!
# Both sides rank the pairs alike (`ice/check_list.rs`, `ice/agent.rs`)

`build_check_list` and `start_checks` build the same list twice over: a table
of all pairs, row by row in the local candidates, sorted stably by priority.
The peer's table has the rows and columns exchanged, and it computes the
priority of an exchanged pair in the other role, which exchanges the arguments
back.  So the two sides hold the same pairs under the same priorities.  Pairs
of equal priority may stand in another order on the other side; the priorities
themselves are the same at every position.
-/

/-! ## The list of `check_list.rs` -/

/-- A pair as `check_list.rs` keeps it. -/
structure CandidatePair where
  localCand : IceCandidate
  remoteCand : IceCandidate
  state : CheckState
  nominated : Bool
  priority : UInt64
  retransmitCount : Nat
  retransmitTimerMs : Nat
  lastSentTimeMs : Nat
  transactionId : Bytes
  deriving DecidableEq, Repr

/-- The comparison of the stable sort of `build_check_list`. -/
def CandidatePair.before (left right : CandidatePair) : Prop := right.priority ≤ left.priority

instance : DecidableRel CandidatePair.before := fun left right =>
  inferInstanceAs (Decidable (right.priority ≤ left.priority))

/-- A pair as `build_check_list` pushes it. -/
def waitingPair (role : IceRole) (localCand remoteCand : IceCandidate) : CandidatePair where
  localCand := localCand
  remoteCand := remoteCand
  state := .waiting
  nominated := false
  priority := calcPairPriority localCand.priority remoteCand.priority role
  retransmitCount := 0
  retransmitTimerMs := INITIAL_RTO_MS
  lastSentTimeMs := 0
  transactionId := []

/-- All local × remote pairs, sorted by descending priority. -/
def buildCheckList (localCands remoteCands : List IceCandidate) (role : IceRole) :
    List CandidatePair :=
  (localCands.flatMap fun localCand =>
    remoteCands.map fun remoteCand => waitingPair role localCand remoteCand).insertionSort
      CandidatePair.before

/-! ## The priority of an exchanged pair -/

/-- The peer computes the same priority: the other role exchanges the arguments
that the other side exchanged. -/
theorem calcPairPriority_exchanged (localPriority remotePriority : UInt32) (role : IceRole) :
    calcPairPriority remotePriority localPriority role.switched =
      calcPairPriority localPriority remotePriority role := by
  cases role <;> rfl

namespace CandidatePair

/-- The pair as the peer sees it. -/
def exchanged (pair : CandidatePair) : CandidatePair :=
  { pair with localCand := pair.remoteCand, remoteCand := pair.localCand }

theorem exchanged_waitingPair (role : IceRole) (localCand remoteCand : IceCandidate) :
    (waitingPair role localCand remoteCand).exchanged =
      waitingPair role.switched remoteCand localCand := by
  simp only [waitingPair, exchanged, calcPairPriority_exchanged]

instance : Std.Total before where
  total := fun left right => UInt64.le_total right.priority left.priority

instance : IsTrans CandidatePair before where
  trans := fun _ _ _ first second => UInt64.le_trans second first

end CandidatePair

namespace PairEntry

/-- The pair of the agent, as `check_list.rs` keeps it. -/
def asCandidatePair (pair : PairEntry) : CandidatePair where
  localCand := pair.localCand
  remoteCand := pair.remoteCand
  state := pair.state
  nominated := pair.nominated
  priority := pair.priority
  retransmitCount := pair.retransmitCount
  retransmitTimerMs := pair.retransmitTimerMs
  lastSentTimeMs := pair.lastSentTimeMs
  transactionId := pair.transactionId

/-- The pair as the peer sees it. -/
def exchanged (pair : PairEntry) : PairEntry :=
  { pair with localCand := pair.remoteCand, remoteCand := pair.localCand }

theorem asCandidatePair_injective : Function.Injective asCandidatePair := by
  intro first second same
  cases first
  cases second
  cases same
  rfl

end PairEntry

/-! ## Two lists over the same table -/

/-- The peer's list is a rearrangement of the exchanged pairs. -/
theorem buildCheckList_exchanged (localCands remoteCands : List IceCandidate) (role : IceRole) :
    ((buildCheckList localCands remoteCands role).map CandidatePair.exchanged).Perm
      (buildCheckList remoteCands localCands role.switched) := by
  have rows : (table (waitingPair role) localCands remoteCands).map CandidatePair.exchanged =
      table (fun localCand remoteCand => waitingPair role.switched remoteCand localCand)
        localCands remoteCands := by
    rw [map_table]
    simp only [CandidatePair.exchanged_waitingPair]
  have sorted := (List.perm_insertionSort CandidatePair.before
    (table (waitingPair role) localCands remoteCands)).map CandidatePair.exchanged
  rw [rows] at sorted
  exact (sorted.trans (table_transpose _ _ _)).trans (List.perm_insertionSort _ _).symm

theorem antisymm_priority : Std.Antisymm fun left right : UInt64 => right ≤ left :=
  ⟨fun _ _ first second => UInt64.le_antisymm second first⟩

theorem buildCheckList_sorted (localCands remoteCands : List IceCandidate) (role : IceRole) :
    (buildCheckList localCands remoteCands role).Pairwise
      fun first second => second.priority ≤ first.priority :=
  List.pairwise_insertionSort CandidatePair.before _

/-- The two lists have the same priorities, position by position. -/
theorem buildCheckList_priorities (localCands remoteCands : List IceCandidate) (role : IceRole) :
    (buildCheckList localCands remoteCands role).map CandidatePair.priority =
      (buildCheckList remoteCands localCands role.switched).map CandidatePair.priority := by
  have := antisymm_priority
  refine keys_eq_of_sorted (fun left right : UInt64 => right ≤ left)
    (buildCheckList_sorted localCands remoteCands role)
    (buildCheckList_sorted remoteCands localCands role.switched) ?_
  have exchanged :=
    (buildCheckList_exchanged localCands remoteCands role).map CandidatePair.priority
  rw [List.map_map] at exchanged
  exact exchanged

namespace IceAgent

/-! ## The list of the agent -/

/-- An agent about to start its checks between given candidates.  The peer's
ufrag is known, without which no check starts.  Where a list is empty the start
fails and leaves the check list alone, which then has to be empty already. -/
structure Faces (agent : IceAgent) (role : IceRole) (localCands remoteCands : List IceCandidate) :
    Prop where
  role_eq : agent.role = role
  localCandidates : agent.localCandidates = localCands
  remoteCandidates : agent.remoteCandidates = remoteCands
  described : agent.remoteUfrag ≠ ""
  unlisted : localCands = [] ∨ remoteCands = [] -> agent.checkList = []

/-- `start_checks` builds the list of `build_check_list`, pair by pair. -/
theorem startChecks_checkList {agent : IceAgent} {role : IceRole}
    {localCands remoteCands : List IceCandidate} (faces : agent.Faces role localCands remoteCands) :
    agent.startChecks.1.checkList.map PairEntry.asCandidatePair =
      buildCheckList localCands remoteCands role := by
  rcases faces with ⟨rfl, rfl, rfl, described, unlisted⟩
  by_cases missing : agent.localCandidates = [] ∨ agent.remoteCandidates = []
  · have fails : agent.startChecks.1 = agent.setState .failed := by
      apply startChecks_error
      intro started
      rcases startChecks_ok started with ⟨_, hasLocal, hasRemote, _⟩
      exact missing.elim hasLocal hasRemote
    have noRows : buildCheckList agent.localCandidates agent.remoteCandidates agent.role = [] := by
      change (table (waitingPair agent.role) _ _).insertionSort CandidatePair.before = []
      rcases missing with none | none
      · rw [none, table_nil_left, List.insertionSort_nil]
      · rw [none, table_nil_right, List.insertionSort_nil]
    rw [fails, noRows]
    change agent.checkList.map PairEntry.asCandidatePair = []
    rw [unlisted missing, List.map_nil]
  · rcases not_or.mp missing with ⟨hasLocal, hasRemote⟩
    rw [startChecks_of described hasLocal hasRemote]
    change (agent.allPairs.insertionSort beforeInList).map PairEntry.asCandidatePair = _
    rw [List.map_insertionSort beforeInList CandidatePair.before PairEntry.asCandidatePair
      agent.allPairs fun _ _ _ _ => Iff.rfl]
    have rows : agent.allPairs.map PairEntry.asCandidatePair =
        table (waitingPair agent.role) agent.localCandidates agent.remoteCandidates :=
      map_table PairEntry.asCandidatePair (freshPair agent.role) _ _
    rw [rows]
    rfl

/-! ## Two agents -/

/-- A controlling agent and its controlled peer, with each other's candidates,
hold the same pairs under the same priorities, and the priorities in the same
order.  So do the two lists of `build_check_list`, of which each agent's list is
a copy.  Nothing is used of the remote lists: duplicates would pair alike too. -/
theorem startChecks_ranked_alike (localCands remoteCands : List IceCandidate)
    (controlling controlled : IceAgent)
    (isControlling : controlling.Faces .controlling localCands remoteCands)
    (isControlled : controlled.Faces .controlled remoteCands localCands) :
    controlling.startChecks.1.checkList.map PairEntry.priority =
        controlled.startChecks.1.checkList.map PairEntry.priority ∧
      (controlling.startChecks.1.checkList.map PairEntry.exchanged).Perm
        controlled.startChecks.1.checkList ∧
      (buildCheckList localCands remoteCands .controlling).map CandidatePair.priority =
        (buildCheckList remoteCands localCands .controlled).map CandidatePair.priority ∧
      ((buildCheckList localCands remoteCands .controlling).map CandidatePair.exchanged).Perm
        (buildCheckList remoteCands localCands .controlled) ∧
      controlling.startChecks.1.checkList.map PairEntry.asCandidatePair =
        buildCheckList localCands remoteCands .controlling := by
  have ours := startChecks_checkList isControlling
  have theirs := startChecks_checkList isControlled
  have priorities := buildCheckList_priorities localCands remoteCands .controlling
  have pairs := buildCheckList_exchanged localCands remoteCands .controlling
  refine ⟨?_, ?_, priorities, pairs, ours⟩
  · have same := priorities
    change _ = (buildCheckList remoteCands localCands .controlled).map _ at same
    rw [← ours, ← theirs, List.map_map, List.map_map] at same
    exact same
  · have exchanged := pairs
    change List.Perm _ (buildCheckList remoteCands localCands .controlled) at exchanged
    rw [← ours, ← theirs, List.map_map] at exchanged
    rw [← List.map_perm_map_iff PairEntry.asCandidatePair_injective, List.map_map]
    exact exchanged

/-- A new agent with its own candidates and its peer's. -/
def facing (isControlling : Bool) (localCands remoteCands : List IceCandidate) : IceAgent :=
  { IceAgent.new isControlling (uniformSeed 0 0) with
    localCandidates := localCands, remoteCandidates := remoteCands, remoteUfrag := "peer" }

/-- A host candidate of the given address, with a priority of its own. -/
def hostAt (addr : String) (priority : UInt32) : IceCandidate where
  foundation := "host-" ++ addr
  componentId := 1
  transport := "UDP"
  priority := priority
  connectionAddress := addr
  port := 5000
  candidateType := .host
  relatedAddress := ""
  relatedPort := 0

/-- Two candidates of equal priority on each side, and a worse one. -/
theorem startChecks_ranked_alike_tied :
    (facing true [hostAt "a" 200, hostAt "b" 200] [hostAt "c" 200, hostAt "d" 200, hostAt "e" 100]
      ).startChecks.1.checkList.map PairEntry.priority =
    (facing false [hostAt "c" 200, hostAt "d" 200, hostAt "e" 100] [hostAt "a" 200, hostAt "b" 200]
      ).startChecks.1.checkList.map PairEntry.priority :=
  (startChecks_ranked_alike [hostAt "a" 200, hostAt "b" 200]
    [hostAt "c" 200, hostAt "d" 200, hostAt "e" 100] (facing true _ _) (facing false _ _)
    ⟨rfl, rfl, rfl, by decide, fun missing => by cases missing <;> contradiction⟩
    ⟨rfl, rfl, rfl, by decide, fun missing => by cases missing <;> contradiction⟩).1

/-- Pairs of equal priority stand in another order on the other side. -/
example :
    ((facing true [hostAt "a" 200, hostAt "b" 200] [hostAt "c" 200, hostAt "d" 200]
      ).startChecks.1.checkList.map PairEntry.exchanged) ≠
    (facing false [hostAt "c" 200, hostAt "d" 200] [hostAt "a" 200, hostAt "b" 200]
      ).startChecks.1.checkList := by
  decide

end IceAgent

end P2pSdk
