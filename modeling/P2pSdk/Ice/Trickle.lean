import P2pSdk.Ice.CheckOrder

namespace P2pSdk

open Foundation

/-!
# Candidates that come late

The check list is the table of all pairs at the moment the checks start.  The
operations that add a candidate do not touch it, whether they come before the
start or after, and a message `iceCandidate` is free to come after.  A
candidate that is added while the agent checks is held, and is never checked:
no operation but another start makes a pair of it.

A new agent that somebody sends an acceptable request is CONNECTED at once,
and has no pairs at all.

These are the only ways to leave candidates unpaired.  The condition below
says so of each operation, by the agent before it.
-/

namespace IceAgent

/-- The agent is CONNECTING or CONNECTED. -/
def checking (agent : IceAgent) : Bool := agent.state = .connecting ∨ agent.state = .connected

/-- The check list has a pair of these candidates. -/
def Paired (agent : IceAgent) (localCand remoteCand : IceCandidate) : Prop :=
  exists pair, pair ∈ agent.checkList ∧ pair.localCand = localCand ∧ pair.remoteCand = remoteCand

/-- While the agent checks, every local candidate is paired with every remote one. -/
def CoversCandidates (agent : IceAgent) : Prop :=
  agent.checking = true -> forall localCand, localCand ∈ agent.localCandidates ->
    forall remoteCand, remoteCand ∈ agent.remoteCandidates -> agent.Paired localCand remoteCand

instance (agent : IceAgent) (localCand remoteCand : IceCandidate) :
    Decidable (agent.Paired localCand remoteCand) :=
  inferInstanceAs (Decidable (exists pair, pair ∈ agent.checkList ∧ _ ∧ _))

instance (agent : IceAgent) : Decidable agent.CoversCandidates :=
  inferInstanceAs (Decidable (_ -> forall localCand, localCand ∈ agent.localCandidates ->
    forall remoteCand, remoteCand ∈ agent.remoteCandidates -> _))

/-- The test of `add_remote_cand` for a duplicate. -/
def knowsAddress (agent : IceAgent) (address : Address) : Bool :=
  agent.remoteCandidates.any fun known => known.address == address

/-- A candidate line that adds nothing: it does not parse, or its address is known. -/
def knowsLine (agent : IceAgent) (line : String) : Bool :=
  match parseCandidateLine line with
  | some cand => agent.knowsAddress cand.address
  | none => true

/-- A local candidate that would be paired with nothing new. -/
def pairsLocal (agent : IceAgent) (cand : IceCandidate) : Bool :=
  agent.remoteCandidates.isEmpty || agent.localCandidates.contains cand

/-- Remote candidates that would be paired with nothing new. -/
def pairsLines (agent : IceAgent) (lines : List String) : Bool :=
  agent.localCandidates.isEmpty || lines.all agent.knowsLine

/-- An operation that does not leave candidates unpaired: it adds none while the
agent checks, and does not connect a new agent that has both kinds. -/
def inTime (agent : IceAgent) : AgentOp -> Bool
  | .addLocalCandidate cand => !agent.checking || agent.pairsLocal cand
  | .addHostCandidate addr port => !agent.checking || agent.pairsLocal (hostCandidate addr port)
  | .setRemoteSessionDescription desc => !agent.checking || agent.pairsLines desc.candidates
  | .addRemoteCandidate line => !agent.checking || agent.pairsLines [line]
  | .handleIncomingData data _ =>
      match agent.reaction data with
      | .accepted _ =>
          agent.state ≠ .new ∨ agent.localCandidates = [] ∨ agent.remoteCandidates = []
      | _ => true
  | _ => true

/-! ## What the operations add -/

theorem addRemoteCand_known {agent : IceAgent} {cand : IceCandidate}
    (known : agent.knowsAddress cand.address = true) : agent.addRemoteCand cand = agent := by
  unfold addRemoteCand
  rw [if_pos]
  exact known

theorem addRemoteCand_new {agent : IceAgent} {cand : IceCandidate}
    (unknown : agent.knowsAddress cand.address = false) :
    agent.addRemoteCand cand =
      { agent with remoteCandidates := agent.remoteCandidates ++ [cand] } := by
  unfold addRemoteCand
  rw [if_neg]
  exact fun known => Bool.false_ne_true (unknown.symm.trans known)

theorem addRemoteCandidate_known {agent : IceAgent} {line : String}
    (known : agent.knowsLine line = true) : agent.addRemoteCandidate line = agent := by
  unfold knowsLine at known
  unfold addRemoteCandidate
  cases parsed : parseCandidateLine line with
  | none => rfl
  | some cand =>
      rw [parsed] at known
      exact addRemoteCand_known known

/-- Lines add remote candidates and nothing else. -/
structure AddsRemote (before after : IceAgent) : Prop where
  localCandidates : after.localCandidates = before.localCandidates
  remoteCandidates : before.remoteCandidates ⊆ after.remoteCandidates
  state : after.state = before.state
  checkList : after.checkList = before.checkList

theorem AddsRemote.trans {first second third : IceAgent} (earlier : AddsRemote first second)
    (later : AddsRemote second third) : AddsRemote first third where
  localCandidates := later.localCandidates.trans earlier.localCandidates
  remoteCandidates := List.Subset.trans earlier.remoteCandidates later.remoteCandidates
  state := later.state.trans earlier.state
  checkList := later.checkList.trans earlier.checkList

theorem addRemoteCandidate_adds (agent : IceAgent) (line : String) :
    AddsRemote agent (agent.addRemoteCandidate line) := by
  unfold addRemoteCandidate
  cases parseCandidateLine line with
  | none => exact ⟨rfl, List.Subset.refl _, rfl, rfl⟩
  | some cand =>
      cases known : agent.knowsAddress cand.address with
      | true =>
          dsimp only
          rw [addRemoteCand_known known]
          exact ⟨rfl, List.Subset.refl _, rfl, rfl⟩
      | false =>
          dsimp only
          rw [addRemoteCand_new known]
          exact ⟨rfl, List.subset_append_left _ _, rfl, rfl⟩

theorem addLines_adds (lines : List String) (agent : IceAgent) :
    AddsRemote agent (lines.foldl addRemoteCandidate agent) := by
  induction lines generalizing agent with
  | nil => exact ⟨rfl, List.Subset.refl _, rfl, rfl⟩
  | cons line rest ih => exact (addRemoteCandidate_adds agent line).trans (ih _)

theorem addLines_known {lines : List String} {agent : IceAgent}
    (known : lines.all agent.knowsLine = true) : lines.foldl addRemoteCandidate agent = agent := by
  induction lines with
  | nil => rfl
  | cons line rest ih =>
      rw [List.all_cons, Bool.and_eq_true] at known
      rw [List.foldl_cons, addRemoteCandidate_known known.1]
      exact ih known.2

/-- After a line, its address is known. -/
theorem knowsLine_addRemoteCandidate (agent : IceAgent) (line : String) :
    (agent.addRemoteCandidate line).knowsLine line = true := by
  cases known : agent.knowsLine line with
  | true => rw [addRemoteCandidate_known known, known]
  | false =>
      unfold knowsLine at known ⊢
      unfold addRemoteCandidate
      cases parsed : parseCandidateLine line with
      | none => rfl
      | some cand =>
          rw [parsed] at known
          dsimp only at known ⊢
          rw [addRemoteCand_new known]
          simp [knowsAddress]

/-- An address stays known when candidates are added. -/
theorem knowsLine_mono {before after : IceAgent}
    (grows : before.remoteCandidates ⊆ after.remoteCandidates) {line : String}
    (known : before.knowsLine line = true) : after.knowsLine line = true := by
  unfold knowsLine at known ⊢
  cases parsed : parseCandidateLine line with
  | none => rfl
  | some cand =>
      rw [parsed] at known
      rcases List.any_eq_true.mp known with ⟨other, member, same⟩
      exact List.any_eq_true.mpr ⟨other, grows member, same⟩

/-- After lines, the addresses of all of them are known. -/
theorem addLines_knows (lines : List String) (agent : IceAgent) :
    lines.all (lines.foldl addRemoteCandidate agent).knowsLine = true := by
  induction lines generalizing agent with
  | nil => rfl
  | cons line rest ih =>
      rw [List.all_cons, Bool.and_eq_true]
      refine ⟨?_, ih _⟩
      exact knowsLine_mono (addLines_adds rest (agent.addRemoteCandidate line)).remoteCandidates
        (knowsLine_addRemoteCandidate agent line)

/-- Lines add no candidate exactly when they are known. -/
theorem addLines_subset_iff (lines : List String) (agent : IceAgent) :
    (lines.foldl addRemoteCandidate agent).remoteCandidates ⊆ agent.remoteCandidates <->
      lines.all agent.knowsLine = true := by
  constructor
  · intro included
    rw [List.all_eq_true]
    intro line member
    exact knowsLine_mono included (List.all_eq_true.mp (addLines_knows lines agent) line member)
  · intro known
    rw [addLines_known known]
    exact List.Subset.refl _

/-! ## The pairs of the list -/

/-- What every run keeps: the pairs are of candidates that the agent holds, a
new agent has none, and no agent is ever GATHERING. -/
structure Listed (agent : IceAgent) : Prop where
  fresh : agent.state = .new -> agent.checkList = []
  notGathering : agent.state ≠ .gathering
  members : forall pair, pair ∈ agent.checkList ->
    pair.localCand ∈ agent.localCandidates ∧ pair.remoteCand ∈ agent.remoteCandidates

/-- Membership of a pair is a matter of the ranks. -/
theorem exists_pair_of_ranks {before after : IceAgent} (same : after.ranks = before.ranks)
    {pair : PairEntry} (member : pair ∈ after.checkList) :
    exists earlier, earlier ∈ before.checkList ∧ earlier.localCand = pair.localCand ∧
      earlier.remoteCand = pair.remoteCand := by
  have ranked : pair.rank ∈ before.ranks := by
    rw [← same]
    exact List.mem_map_of_mem member
  rcases List.mem_map.mp ranked with ⟨earlier, isEarlier, rank⟩
  exact ⟨earlier, isEarlier, congrArg PairRank.localCand rank, congrArg PairRank.remoteCand rank⟩

theorem Paired.of_ranks {before after : IceAgent} {localCand remoteCand : IceCandidate}
    (paired : before.Paired localCand remoteCand) (same : after.ranks = before.ranks) :
    after.Paired localCand remoteCand := by
  rcases paired with ⟨pair, member, rfl, rfl⟩
  exact exists_pair_of_ranks same.symm member

namespace Listed

variable {agent : IceAgent}

/-- Only the candidates and the ranks of the pairs matter, apart from the state. -/
theorem of_ranks (listed : agent.Listed) {after : IceAgent} (same : after.ranks = agent.ranks)
    (localCandidates : agent.localCandidates ⊆ after.localCandidates)
    (remoteCandidates : agent.remoteCandidates ⊆ after.remoteCandidates)
    (fresh : after.state = .new -> agent.state = .new) (notGathering : after.state ≠ .gathering) :
    after.Listed where
  fresh := by
    intro isNew
    have empty : after.ranks = [] := by
      rw [same, ranks, listed.fresh (fresh isNew), List.map_nil]
    exact List.map_eq_nil_iff.mp empty
  notGathering := notGathering
  members := by
    intro pair member
    rcases exists_pair_of_ranks same member with ⟨earlier, isEarlier, sameLocal, sameRemote⟩
    rw [← sameLocal, ← sameRemote]
    exact ⟨localCandidates (listed.members earlier isEarlier).1,
      remoteCandidates (listed.members earlier isEarlier).2⟩

/-- A covered agent that checks pairs exactly the candidates it holds. -/
theorem paired_iff (listed : agent.Listed) (covers : agent.CoversCandidates)
    (checks : agent.checking = true) {localCand remoteCand : IceCandidate} :
    agent.Paired localCand remoteCand <->
      localCand ∈ agent.localCandidates ∧ remoteCand ∈ agent.remoteCandidates := by
  constructor
  · rintro ⟨pair, member, rfl, rfl⟩
    exact listed.members pair member
  · rintro ⟨isLocal, isRemote⟩
    exact covers checks localCand isLocal remoteCand isRemote

/-! ## One operation -/

/-- A local candidate added to a covered agent. -/
theorem covers_addLocalCandidate (listed : agent.Listed) (covers : agent.CoversCandidates)
    (cand : IceCandidate) :
    (agent.addLocalCandidate cand).CoversCandidates <->
      (!agent.checking || agent.pairsLocal cand) = true := by
  cases checks : agent.checking with
  | false =>
      refine iff_of_true ?_ rfl
      intro contrary
      exact absurd (checks.symm.trans contrary) Bool.false_ne_true
  | true =>
      have paired : forall localCand remoteCand, agent.Paired localCand remoteCand <->
          localCand ∈ agent.localCandidates ∧ remoteCand ∈ agent.remoteCandidates :=
        fun _ _ => paired_iff listed covers checks
      simp only [Bool.not_true, Bool.false_or, pairsLocal, Bool.or_eq_true, List.isEmpty_iff,
        List.contains_iff_mem]
      constructor
      · intro after
        cases remotes : agent.remoteCandidates with
        | nil => exact Or.inl rfl
        | cons remoteCand rest =>
            have isRemote : remoteCand ∈ agent.remoteCandidates := by
              rw [remotes]
              exact List.mem_cons_self ..
            have new := after checks cand (List.mem_append_right _ (List.mem_singleton_self cand))
              remoteCand isRemote
            exact Or.inr ((paired cand remoteCand).mp new).1
      · rintro noNew _ localCand isLocal remoteCand isRemote
        refine (paired localCand remoteCand).mpr ⟨?_, isRemote⟩
        rcases noNew with noRemote | known
        · change remoteCand ∈ agent.remoteCandidates at isRemote
          rw [noRemote] at isRemote
          cases isRemote
        · rcases List.mem_append.mp isLocal with old | new
          · exact old
          · rw [List.mem_singleton.mp new]
            exact known

/-- Lines added to a covered agent; the description may change with them. -/
theorem covers_addLines (listed : agent.Listed) (covers : agent.CoversCandidates)
    (lines : List String) {start : IceAgent} (state : start.state = agent.state)
    (checkList : start.checkList = agent.checkList)
    (localCandidates : start.localCandidates = agent.localCandidates)
    (remoteCandidates : start.remoteCandidates = agent.remoteCandidates) :
    (lines.foldl addRemoteCandidate start).CoversCandidates <->
      (!agent.checking || agent.pairsLines lines) = true := by
  have adds := addLines_adds lines start
  have sameLines : agent.knowsLine = start.knowsLine := by
    unfold knowsLine knowsAddress
    rw [remoteCandidates]
  have checkingAfter : (lines.foldl addRemoteCandidate start).checking = agent.checking := by
    unfold checking
    rw [adds.state, state]
  cases checks : agent.checking with
  | false =>
      refine iff_of_true ?_ rfl
      intro contrary
      exact absurd ((checkingAfter.trans checks).symm.trans contrary) Bool.false_ne_true
  | true =>
      have paired : forall localCand remoteCand,
          (lines.foldl addRemoteCandidate start).Paired localCand remoteCand <->
            localCand ∈ agent.localCandidates ∧ remoteCand ∈ agent.remoteCandidates := by
        intro localCand remoteCand
        rw [← paired_iff listed covers checks]
        unfold Paired
        rw [adds.checkList, checkList]
      have locals : (lines.foldl addRemoteCandidate start).localCandidates =
          agent.localCandidates := adds.localCandidates.trans localCandidates
      simp only [Bool.not_true, Bool.false_or, pairsLines, Bool.or_eq_true, List.isEmpty_iff]
      rw [sameLines, ← addLines_subset_iff, remoteCandidates]
      constructor
      · intro after
        cases isLocal : agent.localCandidates with
        | nil => exact Or.inl rfl
        | cons localCand rest =>
            refine Or.inr ?_
            intro remoteCand isRemote
            have member : localCand ∈ (lines.foldl addRemoteCandidate start).localCandidates := by
              rw [locals, isLocal]
              exact List.mem_cons_self ..
            have new := after (checkingAfter.trans checks) localCand member remoteCand isRemote
            exact ((paired localCand remoteCand).mp new).2
      · rintro noNew _ localCand isLocal remoteCand isRemote
        rw [locals] at isLocal
        rcases noNew with noLocal | included
        · rw [noLocal] at isLocal
          cases isLocal
        · exact (paired localCand remoteCand).mpr ⟨isLocal, included isRemote⟩

end Listed

/-- An agent that does not check covers its candidates. -/
theorem covers_of_not_checking {agent : IceAgent} (idle : agent.checking = false) :
    agent.CoversCandidates := fun checks => absurd (idle.symm.trans checks) Bool.false_ne_true

theorem checking_of_state {agent : IceAgent} (late : agent.state ≠ .connecting)
    (notConnected : agent.state ≠ .connected) : agent.checking = false := by
  simp [checking, late, notConnected]

/-- A start pairs all candidates, or fails. -/
theorem startChecks_covers (agent : IceAgent) : agent.startChecks.1.CoversCandidates := by
  by_cases started : agent.startChecks.2 = .ok ()
  · rw [(startChecks_ok started).2.2.2]
    intro _ localCand isLocal remoteCand isRemote
    refine ⟨freshPair agent.role localCand remoteCand, ?_, rfl, rfl⟩
    apply (List.mem_insertionSort beforeInList).mpr
    exact List.mem_flatMap.mpr ⟨localCand, isLocal, List.mem_map_of_mem isRemote⟩
  · rw [startChecks_error started]
    exact covers_of_not_checking rfl

theorem startChecks_listed {agent : IceAgent} (listed : agent.Listed) :
    agent.startChecks.1.Listed := by
  by_cases started : agent.startChecks.2 = .ok ()
  · rw [(startChecks_ok started).2.2.2]
    refine ⟨fun contrary => (by cases contrary), fun contrary => (by cases contrary), ?_⟩
    intro pair member
    rcases mem_allPairs ((List.mem_insertionSort beforeInList).mp member) with
      ⟨localCand, remoteCand, isLocal, isRemote, rfl⟩
    exact ⟨isLocal, isRemote⟩
  · rw [startChecks_error started]
    exact listed.of_ranks rfl (List.Subset.refl _) (List.Subset.refl _)
      (fun contrary => (by cases contrary)) (fun contrary => (by cases contrary))

theorem subset_of_eq {first second : List IceCandidate} (same : first = second) :
    first ⊆ second := by
  rw [same]
  exact List.Subset.refl second

/-- The candidates of two agents with the same setup. -/
theorem candidates_of_setup {before after : IceAgent} (same : after.setup = before.setup) :
    after.localCandidates = before.localCandidates ∧
      after.remoteCandidates = before.remoteCandidates :=
  ⟨congrArg Setup.localCandidates same, congrArg Setup.remoteCandidates same⟩

/-- What keeps the ranks and the candidates, and starts no checks, keeps the cover. -/
theorem CoversCandidates.of_ranks {before after : IceAgent} (covers : before.CoversCandidates)
    (same : after.ranks = before.ranks)
    (candidates : after.localCandidates = before.localCandidates ∧
      after.remoteCandidates = before.remoteCandidates)
    (checks : after.checking = true -> before.checking = true) : after.CoversCandidates := by
  intro checking localCand isLocal remoteCand isRemote
  rw [candidates.1] at isLocal
  rw [candidates.2] at isRemote
  exact (covers (checks checking) localCand isLocal remoteCand isRemote).of_ranks same

theorem tickChecks_state (crypto : Crypto) (ids : Nat -> TransactionId) (agent : IceAgent)
    (next now : Nat) :
    (agent.tickChecks crypto ids next now).1.state = agent.state ∨
      (agent.tickChecks crypto ids next now).1.state = .failed := by
  rcases tickChecks_cases crypto ids next agent now with ⟨_, same⟩ | ⟨_, state, isState, same⟩
  · rw [same]
    exact Or.inl rfl
  · rw [same]
    exact isState

theorem tickChecks_listed (crypto : Crypto) (ids : Nat -> TransactionId) {agent : IceAgent}
    (listed : agent.Listed) (next now : Nat) : (agent.tickChecks crypto ids next now).1.Listed := by
  have candidates := candidates_of_setup (tickChecks_setup crypto ids agent next now)
  refine listed.of_ranks (tickChecks_ranks crypto ids agent next now) (subset_of_eq candidates.1.symm)
    (subset_of_eq candidates.2.symm) ?_ ?_
  · intro isNew
    rcases tickChecks_state crypto ids agent next now with same | failed
    · exact same.symm.trans isNew
    · cases failed.symm.trans isNew
  · intro isGathering
    rcases tickChecks_state crypto ids agent next now with same | failed
    · exact listed.notGathering (same.symm.trans isGathering)
    · cases failed.symm.trans isGathering

theorem tickChecks_covers (crypto : Crypto) (ids : Nat -> TransactionId) {agent : IceAgent}
    (covers : agent.CoversCandidates) (next now : Nat) :
    (agent.tickChecks crypto ids next now).1.CoversCandidates := by
  refine covers.of_ranks (tickChecks_ranks crypto ids agent next now)
    (candidates_of_setup (tickChecks_setup crypto ids agent next now)) ?_
  intro checks
  unfold checking at checks ⊢
  rcases tickChecks_state crypto ids agent next now with same | failed
  · rw [same] at checks
    exact checks
  · rw [failed] at checks
    cases checks

theorem handleIncomingData_listed {agent after : IceAgent} (listed : agent.Listed) {data : Bytes}
    {source : Address} {result : HandleDataResult}
    (handled : agent.handleIncomingData data source = .ok (after, result)) : after.Listed := by
  have candidates := candidates_of_setup (handleIncomingData_setup handled)
  refine listed.of_ranks (handleIncomingData_ranks handled) (subset_of_eq candidates.1.symm)
    (subset_of_eq candidates.2.symm) ?_ ?_
  · intro isNew
    rcases handleIncomingData_state handled with same | completed | ⟨connected, _⟩
    · exact same.symm.trans isNew
    · cases completed.symm.trans isNew
    · cases connected.symm.trans isNew
  · intro isGathering
    rcases handleIncomingData_state handled with same | completed | ⟨connected, _⟩
    · exact listed.notGathering (same.symm.trans isGathering)
    · cases completed.symm.trans isGathering
    · cases connected.symm.trans isGathering

/-- A new agent is connected by an answered request, and by nothing else. -/
theorem react_new {agent : IceAgent} (listed : agent.Listed) (isNew : agent.state = .new)
    (source : Address) (data : Bytes) :
    ((agent.react source (agent.reaction data)).state = .connected ∧
      exists parsed, agent.reaction data = .accepted parsed) ∨
    ((agent.react source (agent.reaction data)).state = .new ∧
      forall parsed, agent.reaction data ≠ .accepted parsed) := by
  have empty := listed.fresh isNew
  cases reacts : agent.reaction data with
  | ignored => exact Or.inr ⟨isNew, fun parsed same => (by cases same)⟩
  | unanswered parsed =>
      refine Or.inr ⟨?_, fun other same => (by cases same)⟩
      change (agent.resolveRoleConflict parsed.controlling).state = .new
      rw [resolveRoleConflict_eq]
      exact isNew
  | accepted parsed =>
      refine Or.inl ⟨?_, parsed, rfl⟩
      change (agent.acceptRequest parsed source).state = .connected
      unfold acceptRequest
      rw [noteContact_eq, resolveRoleConflict_eq]
      rcases markPair_cases { agent with role := (agent.resolveRoleConflict parsed.controlling).role }
        parsed.useCandidate source with ⟨_, same⟩ | ⟨idx, isPair, _⟩
      · rw [same]
        change contacted agent.state = .connected
        rw [isNew]
        rfl
      · rcases pairOfRemote_some isPair with ⟨pair, found, _⟩
        change agent.checkList[idx]? = some pair at found
        rw [empty] at found
        cases found
  | conflict => exact Or.inr ⟨isNew, fun parsed same => (by cases same)⟩
  | acknowledged idx =>
      rcases reaction_acknowledged reacts with ⟨parsed, _, _, isIdx⟩
      rcases pairOfTransaction_some isIdx with ⟨pair, found, _⟩
      rw [empty] at found
      cases found

/-- A datagram leaves candidates unpaired exactly when it connects a new agent
that has some of both kinds. -/
theorem handleIncomingData_covers {agent after : IceAgent} (listed : agent.Listed)
    (covers : agent.CoversCandidates) {data : Bytes} {source : Address} {result : HandleDataResult}
    (handled : agent.handleIncomingData data source = .ok (after, result)) :
    after.CoversCandidates <-> agent.inTime (.handleIncomingData data source) = true := by
  have candidates := candidates_of_setup (handleIncomingData_setup handled)
  by_cases isNew : agent.state = .new
  · have reacts := react_new listed isNew source data
    rw [← handleIncomingData_reacts handled] at reacts
    rcases reacts with ⟨connected, parsed, isAccepted⟩ | ⟨stillNew, notAccepted⟩
    · have noPair : forall localCand remoteCand, ¬ after.Paired localCand remoteCand := by
        rintro localCand remoteCand ⟨pair, member, _⟩
        rcases exists_pair_of_ranks (handleIncomingData_ranks handled) member with ⟨earlier, inOld, _⟩
        rw [listed.fresh isNew] at inOld
        cases inOld
      unfold inTime
      dsimp only
      rw [isAccepted]
      simp only [isNew, ne_eq, not_true_eq_false, false_or, decide_eq_true_eq]
      constructor
      · intro coversAfter
        have checks : after.checking = true := by simp [checking, connected]
        cases locals : agent.localCandidates with
        | nil => exact Or.inl rfl
        | cons localCand others =>
            cases remotes : agent.remoteCandidates with
            | nil => exact Or.inr rfl
            | cons remoteCand rest =>
                have isLocal : localCand ∈ after.localCandidates := by
                  rw [candidates.1, locals]
                  exact List.mem_cons_self ..
                have isRemote : remoteCand ∈ after.remoteCandidates := by
                  rw [candidates.2, remotes]
                  exact List.mem_cons_self ..
                exact absurd (coversAfter checks localCand isLocal remoteCand isRemote)
                  (noPair localCand remoteCand)
      · rintro none _ localCand isLocal remoteCand isRemote
        rw [candidates.1] at isLocal
        rw [candidates.2] at isRemote
        rcases none with noLocal | noRemote
        · rw [noLocal] at isLocal
          cases isLocal
        · rw [noRemote] at isRemote
          cases isRemote
    · have idle : after.checking = false := checking_of_state (by rw [stillNew]; decide)
        (by rw [stillNew]; decide)
      refine iff_of_true (covers_of_not_checking idle) ?_
      unfold inTime
      dsimp only
      cases reacts : agent.reaction data with
      | accepted parsed => exact absurd reacts (notAccepted parsed)
      | _ => rfl
  · refine iff_of_true ?_ ?_
    · refine covers.of_ranks (handleIncomingData_ranks handled) candidates ?_
      intro checks
      unfold checking at checks ⊢
      rcases handleIncomingData_state handled with same | completed | ⟨_, early⟩
      · rw [same] at checks
        exact checks
      · rw [completed] at checks
        cases checks
      · rcases early with contrary | contrary | connecting
        · exact absurd contrary isNew
        · exact absurd contrary listed.notGathering
        · rw [connecting]
          rfl
    · unfold inTime
      dsimp only
      cases agent.reaction data with
      | accepted parsed => exact decide_eq_true (Or.inl isNew)
      | _ => rfl

end IceAgent

/-! ## Runs -/

namespace AgentRun

variable {crypto : Crypto} {ids : Nat -> TransactionId} {isControlling : Bool} {seed : AgentSeed}

theorem listed_of_reachable {run : AgentRun}
    (reachable : (agentSystem crypto ids isControlling seed).Reachable run) :
    run.agent.Listed := by
  refine TransitionSystem.Reachable.invariant (fun run => run.agent.Listed) reachable ?_ ?_
  · intro run isNew
    rw [isNew]
    refine ⟨fun _ => rfl, fun contrary => (by cases contrary), ?_⟩
    intro pair member
    cases member
  · rintro before op after listed ⟨output, called⟩
    have addsLocal : forall cand, (before.agent.addLocalCandidate cand).Listed := fun cand =>
      listed.of_ranks rfl (List.subset_append_left _ _) (List.Subset.refl _) id listed.notGathering
    have addsRemote : forall (start : IceAgent) (lines : List String), start.Listed ->
        (lines.foldl IceAgent.addRemoteCandidate start).Listed := by
      intro start lines startListed
      have adds := IceAgent.addLines_adds lines start
      refine startListed.of_ranks (congrArg (List.map PairEntry.rank) adds.checkList)
        (IceAgent.subset_of_eq adds.localCandidates.symm) adds.remoteCandidates ?_ ?_
      · exact fun isNew => adds.state.symm.trans isNew
      · exact fun isGathering => startListed.notGathering (adds.state.symm.trans isGathering)
    cases op with
    | addLocalCandidate cand =>
        cases called
        exact addsLocal cand
    | addHostCandidate addr port =>
        cases called
        exact addsLocal (hostCandidate addr port)
    | setRemoteSessionDescription desc =>
        cases called
        refine addsRemote _ desc.candidates ?_
        exact listed.of_ranks rfl (List.Subset.refl _) (List.Subset.refl _) id listed.notGathering
    | addRemoteCandidate line =>
        cases called
        exact addsRemote before.agent [line] listed
    | setRemotePwd pwd =>
        cases called
        exact listed.of_ranks rfl (List.Subset.refl _) (List.Subset.refl _) id listed.notGathering
    | startChecks =>
        cases called
        exact IceAgent.startChecks_listed listed
    | tick now =>
        cases called
        exact IceAgent.tickChecks_listed crypto ids listed before.next now
    | handleIncomingData data source =>
        rcases Checked.bind_eq_ok.mp called with ⟨⟨agent, result⟩, handled, rest⟩
        cases rest
        exact IceAgent.handleIncomingData_listed listed handled
    | sendData data =>
        cases called
        exact listed
    | stop =>
        cases called
        refine ⟨fun contrary => (by cases contrary), fun contrary => (by cases contrary), ?_⟩
        intro pair member
        cases member

/-- One operation on a covered agent leaves it covered exactly when it is in time. -/
theorem covers_step {before after : AgentRun} {op : AgentOp} (listed : before.agent.Listed)
    (covers : before.agent.CoversCandidates)
    (stepped : (agentSystem crypto ids isControlling seed).step before op after) :
    after.agent.CoversCandidates <-> before.agent.inTime op = true := by
  rcases stepped with ⟨output, called⟩
  cases op with
  | addLocalCandidate cand =>
      cases called
      exact listed.covers_addLocalCandidate covers cand
  | addHostCandidate addr port =>
      cases called
      exact listed.covers_addLocalCandidate covers (hostCandidate addr port)
  | setRemoteSessionDescription desc =>
      cases called
      exact listed.covers_addLines covers desc.candidates rfl rfl rfl rfl
  | addRemoteCandidate line =>
      cases called
      exact listed.covers_addLines covers [line] rfl rfl rfl rfl
  | setRemotePwd pwd =>
      cases called
      exact iff_of_true (covers.of_ranks rfl ⟨rfl, rfl⟩ id) rfl
  | startChecks =>
      cases called
      exact iff_of_true (IceAgent.startChecks_covers before.agent) rfl
  | tick now =>
      cases called
      exact iff_of_true (IceAgent.tickChecks_covers crypto ids covers before.next now) rfl
  | handleIncomingData data source =>
      rcases Checked.bind_eq_ok.mp called with ⟨⟨agent, result⟩, handled, rest⟩
      cases rest
      exact IceAgent.handleIncomingData_covers listed covers handled
  | sendData data =>
      cases called
      exact iff_of_true covers rfl
  | stop =>
      cases called
      exact iff_of_true (IceAgent.covers_of_not_checking rfl) rfl

end AgentRun

/-- The operation comes in time. -/
def ComesInTime (before : AgentRun) (op : AgentOp) : Prop := before.agent.inTime op = true

instance (before : AgentRun) (op : AgentOp) : Decidable (ComesInTime before op) :=
  inferInstanceAs (Decidable (_ = true))

namespace AgentRun

variable {crypto : Crypto} {ids : Nat -> TransactionId} {isControlling : Bool} {seed : AgentSeed}

/-- **Candidates in time are checked.**  In a run whose operations all come in
time, every agent that is CONNECTING or CONNECTED has a pair for each of its
local and each of its remote candidates.  The condition leaves out no more than
it has to: the first operation that does not come in time leaves some pair out. -/
theorem covers_of_reachable {run : AgentRun}
    (reachable : ((agentSystem crypto ids isControlling seed).restrict ComesInTime).Reachable run) :
    run.agent.CoversCandidates ∧
      forall op after, (agentSystem crypto ids isControlling seed).step run op after ->
        (after.agent.CoversCandidates <-> ComesInTime run op) := by
  have covers : run.agent.CoversCandidates := by
    refine TransitionSystem.Reachable.invariant_of_reachable
      (fun run => run.agent.CoversCandidates) reachable ?_ ?_
    · intro run isNew
      rw [isNew]
      exact IceAgent.covers_of_not_checking rfl
    · intro before op after earlier covers stepped
      exact (covers_step (listed_of_reachable earlier.of_restrict) covers stepped.2).mpr stepped.1
  refine ⟨covers, ?_⟩
  intro op after stepped
  exact covers_step (listed_of_reachable reachable.of_restrict) covers stepped

/-- A candidate of the peer that is not in its description. -/
def trickledLine : String := "candidate:2 1 UDP 1000 10.0.0.3 7000 typ host"

/-- The candidate comes before the start, and once more while the agent checks. -/
theorem covers_of_reachable_early :
    exists run : AgentRun, run.agent.state = .connecting ∧ run.agent.remoteCandidates.length = 2 ∧
      run.agent.CoversCandidates := by
  have ends : ((new true (uniformSeed 0 0)).calls zeroCrypto countingIds
      (fun before op => decide (ComesInTime before op))
      (.addRemoteCandidate trickledLine :: setupCalls ++ [.addRemoteCandidate trickledLine])).any
      (fun run => run.agent.state = .connecting ∧ run.agent.remoteCandidates.length = 2) = true := by
    decide +kernel
  rcases exists_run ComesInTime (fun _ _ => of_decide_eq_true) ends with ⟨run, reachable, test⟩
  rcases of_decide_eq_true test with ⟨connecting, two⟩
  exact ⟨run, connecting, two, (covers_of_reachable reachable).1⟩

/-- The candidate comes after the start, and is held without a pair. -/
theorem trickled_candidate_unpaired :
    ¬ forall (crypto : Crypto) (ids : Nat -> TransactionId) (isControlling : Bool)
      (seed : AgentSeed) (run : AgentRun),
      (agentSystem crypto ids isControlling seed).Reachable run -> run.agent.CoversCandidates := by
  intro claim
  have ends : ((new true (uniformSeed 0 0)).calls zeroCrypto countingIds (fun _ _ => true)
      (setupCalls ++ [.addRemoteCandidate trickledLine])).any
      (fun run => ¬ run.agent.CoversCandidates) = true := by
    decide +kernel
  rcases exists_run (fun _ _ => True) (fun _ _ _ => trivial) ends with ⟨run, reachable, test⟩
  exact of_decide_eq_true test (claim _ _ _ _ run reachable.of_restrict)

end AgentRun

end P2pSdk
