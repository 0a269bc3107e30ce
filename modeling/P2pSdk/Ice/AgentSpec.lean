import P2pSdk.Ice.Agent

namespace P2pSdk

open Foundation

/-!
# What each operation of the agent can do

One lemma for each operation states everything it does, guards included.  The
invariants of the later modules are derived from these lemmas and do not
unfold the operations again.

A round of `tick` is described pair by pair.  A datagram has one of three
effects: nothing, an accepted request, or a response; the response in turn is
a role conflict or the acknowledgment of a pair.
-/

/-! ## Candidates -/

/-- The candidate of `add_host_candidate`. -/
def hostCandidate (addr : String) (port : UInt16) : IceCandidate where
  foundation := "host-" ++ addr
  componentId := 1
  transport := "UDP"
  priority := calcCandidatePriority .host
  connectionAddress := addr
  port := port
  candidateType := .host
  relatedAddress := ""
  relatedPort := 0

/-- The candidate for the address that a STUN server has seen. -/
def srflxCandidate (ip : String) (port : UInt16) (relatedAddress : String) (relatedPort : UInt16) :
    IceCandidate where
  foundation := "srflx1"
  componentId := 1
  transport := "UDP"
  priority := calcCandidatePriority .srflx
  connectionAddress := ip
  port := port
  candidateType := .srflx
  relatedAddress := relatedAddress
  relatedPort := relatedPort

/-- The candidate for the address that a TURN server relays. -/
def relayCandidate (ip : String) (port : UInt16) (relatedAddress : String) (relatedPort : UInt16) :
    IceCandidate where
  foundation := "relay1"
  componentId := 1
  transport := "UDP"
  priority := calcCandidatePriority .relay
  connectionAddress := ip
  port := port
  candidateType := .relay
  relatedAddress := relatedAddress
  relatedPort := relatedPort

/-- The clients add these behind the host candidates, as far as the servers have
told an address. -/
def IceAgent.addExternal (agent : IceAgent) (stunIp : String) (stunPort : UInt16) (relayIp : String)
    (relayPort : UInt16) (localAddr : String) (localPort : UInt16) : IceAgent :=
  let agent :=
    if stunIp = "" then agent
    else agent.addLocalCandidate (srflxCandidate stunIp stunPort localAddr localPort)
  if relayIp = "" then agent
  else agent.addLocalCandidate (relayCandidate relayIp relayPort stunIp stunPort)

/-! ## Updates of a pair -/

namespace PairEntry

/-- A pair whose check was answered, or that a peer checked. -/
def succeed (pair : PairEntry) : PairEntry := { pair with state := .succeeded }

/-- A pair that a controlling peer nominated. -/
def succeedNominated (pair : PairEntry) : PairEntry :=
  { pair with state := .succeeded, nominated := true }

/-- A pair put forward to be checked again with USE-CANDIDATE. -/
def putForward (pair : PairEntry) : PairEntry :=
  { pair with
    state := .inProgress, retransmitCount := 0, retransmitTimerMs := INITIAL_RTO_MS,
    nominated := true }

/-- The reset of an unanswered check after a role conflict. -/
def restartUnanswered (pair : PairEntry) : PairEntry :=
  if pair.state = .inProgress then
    { pair with state := .waiting, retransmitCount := 0, retransmitTimerMs := INITIAL_RTO_MS }
  else pair

/-- The address that the checks of a pair are sent to. -/
def target (pair : PairEntry) : Address := pair.remoteCand.address

@[simp] theorem target_succeed (pair : PairEntry) : pair.succeed.target = pair.target := rfl

@[simp] theorem nominated_succeed (pair : PairEntry) : pair.succeed.nominated = pair.nominated :=
  rfl

@[simp] theorem target_succeedNominated (pair : PairEntry) :
    pair.succeedNominated.target = pair.target := rfl

end PairEntry

namespace IceAgent

/-! ## Updates of one pair in the list -/

theorem getElem?_modify_self {pairs : List PairEntry} {i : Nat} (update : PairEntry -> PairEntry)
    {pair : PairEntry} (found : pairs[i]? = some pair) :
    (pairs.modify i update)[i]? = some (update pair) := by
  rw [List.getElem?_modify, found]
  simp

theorem getElem?_modify_of_ne {pairs : List PairEntry} {i k : Nat}
    {update : PairEntry -> PairEntry} (other : i ≠ k) :
    (pairs.modify i update)[k]? = pairs[k]? := by
  rw [List.getElem?_modify]
  cases pairs[k]? with
  | none => rfl
  | some pair => simp [other]

/-- An update keeps every reading of the list that it keeps of its pair. -/
theorem map_modify_eq {Reading : Type} {read : PairEntry -> Reading}
    {update : PairEntry -> PairEntry} (keeps : forall pair, read (update pair) = read pair)
    (pairs : List PairEntry) (i : Nat) : (pairs.modify i update).map read = pairs.map read := by
  apply List.ext_getElem?
  intro k
  rw [List.getElem?_map, List.getElem?_map, List.getElem?_modify]
  cases pairs[k]? with
  | none => rfl
  | some pair =>
      by_cases here : i = k
      · simp [here, keeps]
      · simp [here]

/-! ## Frame -/

/-- Credentials, candidates and the peer's description. -/
structure Setup where
  localUfrag : String
  localPwd : String
  tieBreaker : UInt64
  localCandidates : List IceCandidate
  remoteCandidates : List IceCandidate
  remoteUfrag : String
  remotePwd : String
  remoteIsLite : Bool

/-- The part of the agent that checks and datagrams leave as it is. -/
def setup (agent : IceAgent) : Setup where
  localUfrag := agent.localUfrag
  localPwd := agent.localPwd
  tieBreaker := agent.tieBreaker
  localCandidates := agent.localCandidates
  remoteCandidates := agent.remoteCandidates
  remoteUfrag := agent.remoteUfrag
  remotePwd := agent.remotePwd
  remoteIsLite := agent.remoteIsLite

/-- Two agents with the same setup, role, check list, nomination and state are equal. -/
theorem eq_of_parts {first second : IceAgent} (setup : first.setup = second.setup)
    (state : first.state = second.state) (role : first.role = second.role)
    (checkList : first.checkList = second.checkList)
    (idx : first.nominatedPairIdx = second.nominatedPairIdx)
    (confirmed : first.nominatedPairConfirmed = second.nominatedPairConfirmed) :
    first = second := by
  cases first
  cases second
  cases setup
  cases state
  cases role
  cases checkList
  cases idx
  cases confirmed
  rfl

/-! ## Checks -/

theorem startChecks_ok {agent : IceAgent} (started : agent.startChecks.2 = .ok ()) :
    agent.remoteUfrag ≠ "" ∧ agent.localCandidates ≠ [] ∧ agent.remoteCandidates ≠ [] ∧
      agent.startChecks.1 = { agent with
        checkList := agent.allPairs.insertionSort beforeInList, state := .connecting } := by
  unfold startChecks at started ⊢
  by_cases noUfrag : agent.remoteUfrag = ""
  · rw [if_pos noUfrag] at started
    cases started
  rw [if_neg noUfrag] at started ⊢
  by_cases noCandidates : agent.localCandidates = [] ∨ agent.remoteCandidates = []
  · rw [if_pos noCandidates] at started
    cases started
  rw [if_neg noCandidates]
  exact ⟨noUfrag, fun none => noCandidates (Or.inl none), fun none => noCandidates (Or.inr none),
    rfl⟩

theorem startChecks_of {agent : IceAgent} (known : agent.remoteUfrag ≠ "")
    (hasLocal : agent.localCandidates ≠ []) (hasRemote : agent.remoteCandidates ≠ []) :
    agent.startChecks = ({ agent with
      checkList := agent.allPairs.insertionSort beforeInList, state := .connecting }, .ok ()) := by
  unfold startChecks
  rw [if_neg known, if_neg]
  rintro (none | none)
  · exact hasLocal none
  · exact hasRemote none

theorem startChecks_error {agent : IceAgent} (failed : agent.startChecks.2 ≠ .ok ()) :
    agent.startChecks.1 = agent.setState .failed := by
  unfold startChecks at failed ⊢
  by_cases noUfrag : agent.remoteUfrag = ""
  · rw [if_pos noUfrag]
  rw [if_neg noUfrag] at failed ⊢
  by_cases noCandidates : agent.localCandidates = [] ∨ agent.remoteCandidates = []
  · rw [if_pos noCandidates]
  · rw [if_neg noCandidates] at failed
    exact absurd rfl failed

theorem startChecks_isOk_iff {agent : IceAgent} :
    agent.startChecks.2.isOk = true <-> agent.startChecks.2 = .ok () := by
  cases agent.startChecks.2 with
  | error message => exact iff_of_false Bool.false_ne_true (fun contrary => by cases contrary)
  | ok _ => exact iff_of_true rfl rfl

/-- The number of pairs is the product of the numbers of candidates. -/
theorem allPairs_length (agent : IceAgent) :
    agent.allPairs.length = agent.localCandidates.length * agent.remoteCandidates.length := by
  unfold allPairs
  rw [List.length_flatMap]
  simp

/-- Every pair of a new check list is unchecked. -/
theorem mem_allPairs {agent : IceAgent} {pair : PairEntry} (member : pair ∈ agent.allPairs) :
    exists localCand remoteCand, localCand ∈ agent.localCandidates ∧
      remoteCand ∈ agent.remoteCandidates ∧ pair = freshPair agent.role localCand remoteCand := by
  rcases List.mem_flatMap.mp member with ⟨localCand, isLocal, inner⟩
  rcases List.mem_map.mp inner with ⟨remoteCand, isRemote, rfl⟩
  exact ⟨localCand, remoteCand, isLocal, isRemote, rfl⟩

/-- What one round does to the pair at index `k` of the list it walks. -/
def RoundAt (ids : Nat -> TransactionId) (agent : IceAgent) (now i low high : Nat)
    (before after : PairEntry) : Prop :=
  (agent.skipsPair now i before = true ∧ after = before) ∨
    exists m, low ≤ m ∧ m < high ∧ agent.skipsPair now i before = false ∧
      after = pairAfterCheck before now (ids m)

variable (crypto : Crypto) (ids : Nat -> TransactionId)

/-- A round of `tick`, pair by pair: each pair is passed over and unchanged,
or checked under a newly drawn transaction id. -/
theorem tickPairs_pairs (agent : IceAgent) (now i : Nat) (pairs : List PairEntry) (next : Nat) :
    next ≤ (tickPairs crypto ids agent now i pairs next).2.2 ∧
    (tickPairs crypto ids agent now i pairs next).1.length = pairs.length ∧
    forall k pair, pairs[k]? = some pair -> exists after,
      (tickPairs crypto ids agent now i pairs next).1[k]? = some after ∧
      RoundAt ids agent now (i + k) next (tickPairs crypto ids agent now i pairs next).2.2
        pair after := by
  induction pairs generalizing i next with
  | nil =>
      refine ⟨Nat.le_refl _, rfl, ?_⟩
      intro k pair found
      cases found
  | cons first rest ih =>
      cases skipped : agent.skipsPair now i first with
      | true =>
          rcases ih (i + 1) next with ⟨grows, length, later⟩
          simp only [tickPairs, skipped, if_true]
          refine ⟨grows, by rw [List.length_cons, List.length_cons, length], ?_⟩
          intro k pair found
          cases k with
          | zero =>
              cases found
              exact ⟨first, rfl, Or.inl ⟨skipped, rfl⟩⟩
          | succ k =>
              have inRest := later k pair found
              rwa [Nat.add_right_comm] at inRest
      | false =>
          rcases ih (i + 1) (next + 1) with ⟨grows, length, later⟩
          simp only [tickPairs, skipped, Bool.false_eq_true, if_false]
          refine ⟨by omega, by rw [List.length_cons, List.length_cons, length], ?_⟩
          intro k pair found
          cases k with
          | zero =>
              cases found
              exact ⟨_, rfl, Or.inr ⟨next, Nat.le_refl _, by omega, skipped, rfl⟩⟩
          | succ k =>
              rcases later k pair found with ⟨after, isAfter, round⟩
              rw [Nat.add_right_comm] at round
              refine ⟨after, isAfter, ?_⟩
              rcases round with unchanged | ⟨m, low, high, checked, isAfter⟩
              · exact Or.inl unchanged
              · exact Or.inr ⟨m, by omega, high, checked, isAfter⟩

/-- The requests of a round: each belongs to a pair that the round checked. -/
theorem tickPairs_checks (agent : IceAgent) (now i : Nat) (pairs : List PairEntry) (next : Nat)
    (check : SentCheck) (sent : check ∈ (tickPairs crypto ids agent now i pairs next).2.1) :
    exists k pair m, pairs[k]? = some pair ∧ agent.skipsPair now (i + k) pair = false ∧
      next ≤ m ∧ m < (tickPairs crypto ids agent now i pairs next).2.2 ∧
      check = sendCheck crypto agent now (i + k) pair (ids m) ∧
      (tickPairs crypto ids agent now i pairs next).1[k]? =
        some (pairAfterCheck pair now (ids m)) := by
  induction pairs generalizing i next with
  | nil => cases sent
  | cons first rest ih =>
      cases skipped : agent.skipsPair now i first with
      | true =>
          simp only [tickPairs, skipped, if_true] at sent ⊢
          rcases ih (i + 1) next sent with ⟨k, pair, m, found, checked, low, high, isCheck, after⟩
          rw [Nat.add_right_comm] at checked isCheck
          exact ⟨k + 1, pair, m, found, checked, low, high, isCheck, after⟩
      | false =>
          simp only [tickPairs, skipped, Bool.false_eq_true, if_false] at sent ⊢
          have grows := (tickPairs_pairs crypto ids agent now (i + 1) rest (next + 1)).1
          rcases List.mem_cons.mp sent with isFirst | inRest
          · exact ⟨0, first, next, rfl, skipped, Nat.le_refl _, by omega, isFirst, rfl⟩
          · rcases ih (i + 1) (next + 1) inRest with
              ⟨k, pair, m, found, checked, low, high, isCheck, after⟩
            rw [Nat.add_right_comm] at checked isCheck
            exact ⟨k + 1, pair, m, found, checked, by omega, high, isCheck, after⟩

/-- Every checked pair has its request among those returned. -/
theorem tickPairs_sends (agent : IceAgent) (now i : Nat) (pairs : List PairEntry) (next k : Nat)
    (pair : PairEntry) (found : pairs[k]? = some pair)
    (checked : agent.skipsPair now (i + k) pair = false) :
    exists m, next ≤ m ∧ m < (tickPairs crypto ids agent now i pairs next).2.2 ∧
      sendCheck crypto agent now (i + k) pair (ids m) ∈
        (tickPairs crypto ids agent now i pairs next).2.1 ∧
      (tickPairs crypto ids agent now i pairs next).1[k]? =
        some (pairAfterCheck pair now (ids m)) := by
  induction pairs generalizing i next k with
  | nil => cases found
  | cons first rest ih =>
      cases k with
      | zero =>
          cases found
          have grows := (tickPairs_pairs crypto ids agent now (i + 1) rest (next + 1)).1
          rw [Nat.add_zero] at checked
          simp only [tickPairs, checked, Bool.false_eq_true, if_false, Nat.add_zero]
          exact ⟨next, Nat.le_refl _, by omega, List.mem_cons_self .., rfl⟩
      | succ k =>
          have here : i + (k + 1) = i + 1 + k := by omega
          rw [here] at checked ⊢
          cases skipped : agent.skipsPair now i first with
          | true =>
              simp only [tickPairs, skipped, if_true]
              rcases ih (i + 1) next k found checked with ⟨m, low, high, sent, after⟩
              exact ⟨m, low, high, sent, after⟩
          | false =>
              simp only [tickPairs, skipped, Bool.false_eq_true, if_false]
              rcases ih (i + 1) (next + 1) k found checked with ⟨m, low, high, sent, after⟩
              exact ⟨m, by omega, high, List.mem_cons_of_mem _ sent, after⟩

/-- Where a pair after a round comes from: it was passed over, or checked by one
of the requests. -/
theorem tickPairs_later (agent : IceAgent) (now i : Nat) (pairs : List PairEntry) (next : Nat)
    {k : Nat} {later : PairEntry}
    (found : (tickPairs crypto ids agent now i pairs next).1[k]? = some later) :
    exists pair, pairs[k]? = some pair ∧
      ((agent.skipsPair now (i + k) pair = true ∧ later = pair) ∨
        exists m, agent.skipsPair now (i + k) pair = false ∧
          later = pairAfterCheck pair now (ids m) ∧
          sendCheck crypto agent now (i + k) pair (ids m) ∈
            (tickPairs crypto ids agent now i pairs next).2.1) := by
  rcases tickPairs_pairs crypto ids agent now i pairs next with ⟨_, length, rounds⟩
  have inside : k < pairs.length := by
    rw [← length]
    exact (List.getElem?_eq_some_iff.mp found).1
  have before := List.getElem?_eq_getElem inside
  refine ⟨pairs[k], before, ?_⟩
  rcases rounds k pairs[k] before with ⟨after, isAfter, ⟨skipped, same⟩ | ⟨_, _, _, checked, _⟩⟩
  · exact Or.inl ⟨skipped, (Option.some.inj (found.symm.trans isAfter)).trans same⟩
  · rcases tickPairs_sends crypto ids agent now i pairs next k pairs[k] before checked with
      ⟨m, _, _, sent, isChecked⟩
    exact Or.inr ⟨m, checked, Option.some.inj (found.symm.trans isChecked), sent⟩

/-- Giving up changes the state only. -/
theorem checkCompletion_cases (agent : IceAgent) :
    agent.checkCompletion = agent ∨ agent.checkCompletion = { agent with state := .failed } := by
  unfold checkCompletion
  split_ifs
  · exact Or.inl rfl
  · exact Or.inr rfl
  · exact Or.inl rfl

/-- An agent gives up when it has pairs and all of them failed. -/
theorem checkCompletion_failed {agent : IceAgent} (nonempty : agent.checkList ≠ [])
    (all : forall pair, pair ∈ agent.checkList -> pair.state = .failed) :
    agent.checkCompletion = { agent with state := .failed } := by
  unfold checkCompletion
  rw [if_neg nonempty, if_pos]
  · rfl
  · rw [List.all_eq_true, List.all_eq_true]
    constructor
    · intro pair member
      simp [all pair member]
    · intro pair member
      simp [all pair member]

/-- A pair that has not failed keeps it from giving up. -/
theorem checkCompletion_alive {agent : IceAgent} {pair : PairEntry}
    (member : pair ∈ agent.checkList) (alive : pair.state ≠ .failed) :
    agent.checkCompletion = agent := by
  unfold checkCompletion
  rw [if_neg (List.ne_nil_of_mem member), if_neg]
  rintro ⟨terminal, noneOk⟩
  have decided := of_decide_eq_true (List.all_eq_true.mp terminal pair member)
  have notOk := of_decide_eq_true (List.all_eq_true.mp noneOk pair member)
  rcases decided with succeeded | failed
  · exact notOk succeeded
  · exact alive failed

/-- A round of an agent that still checks. -/
theorem tickChecks_running {agent : IceAgent}
    (running : ¬ (agent.state = .completed ∨ agent.state = .failed ∨ agent.state = .closed))
    (next now : Nat) :
    agent.tickChecks crypto ids next now =
      ({ agent with checkList := (tickPairs crypto ids agent now 0 agent.checkList next).1
          }.checkCompletion,
        (tickPairs crypto ids agent now 0 agent.checkList next).2.1,
        (tickPairs crypto ids agent now 0 agent.checkList next).2.2) :=
  if_neg running

/-- The two results of a call to `tick`. -/
theorem tickChecks_cases (next : Nat) (agent : IceAgent) (now : Nat) :
    ((agent.state = .completed ∨ agent.state = .failed ∨ agent.state = .closed) ∧
      agent.tickChecks crypto ids next now = (agent, [], next)) ∨
    (¬ (agent.state = .completed ∨ agent.state = .failed ∨ agent.state = .closed) ∧
      exists state, (state = agent.state ∨ state = .failed) ∧
        agent.tickChecks crypto ids next now =
          ({ agent with
              checkList := (tickPairs crypto ids agent now 0 agent.checkList next).1
              state := state },
            (tickPairs crypto ids agent now 0 agent.checkList next).2.1,
            (tickPairs crypto ids agent now 0 agent.checkList next).2.2)) := by
  unfold tickChecks
  by_cases done : agent.state = .completed ∨ agent.state = .failed ∨ agent.state = .closed
  · rw [if_pos done]
    exact Or.inl ⟨done, rfl⟩
  · rw [if_neg done]
    refine Or.inr ⟨done, ?_⟩
    rcases checkCompletion_cases { agent with
        checkList := (tickPairs crypto ids agent now 0 agent.checkList next).1 } with kept | gaveUp
    · exact ⟨agent.state, Or.inl rfl, by dsimp only; rw [kept]⟩
    · exact ⟨.failed, Or.inr rfl, by dsimp only; rw [gaveUp]⟩

@[simp] theorem pairAfterCheck_transactionId (pair : PairEntry) (now : Nat) (id : TransactionId) :
    (pairAfterCheck pair now id).transactionId = id.bytes := by
  unfold pairAfterCheck
  dsimp only
  split_ifs <;> rfl

@[simp] theorem pairAfterCheck_nominated (pair : PairEntry) (now : Nat) (id : TransactionId) :
    (pairAfterCheck pair now id).nominated = pair.nominated := by
  unfold pairAfterCheck
  dsimp only
  split_ifs <;> rfl

@[simp] theorem target_pairAfterCheck (pair : PairEntry) (now : Nat) (id : TransactionId) :
    (pairAfterCheck pair now id).target = pair.target := by
  unfold pairAfterCheck
  dsimp only
  split_ifs <;> rfl

/-- A round keeps every reading of the pairs that a check keeps. -/
theorem map_tickPairs_eq {Reading : Type} {read : PairEntry -> Reading}
    (keeps : forall pair now id, read (pairAfterCheck pair now id) = read pair)
    (agent : IceAgent) (now i : Nat) (pairs : List PairEntry) (next : Nat) :
    (tickPairs crypto ids agent now i pairs next).1.map read = pairs.map read := by
  rcases tickPairs_pairs crypto ids agent now i pairs next with ⟨_, length, later⟩
  apply List.ext_getElem?
  intro k
  rw [List.getElem?_map, List.getElem?_map]
  cases known : pairs[k]? with
  | none =>
      rw [List.getElem?_eq_none (by rw [length]; exact List.getElem?_eq_none_iff.mp known)]
  | some pair =>
      rcases later k pair known with ⟨after, isAfter, round⟩
      rw [isAfter]
      rcases round with ⟨_, rfl⟩ | ⟨m, _, _, _, rfl⟩
      · rfl
      · rw [Option.map_some, Option.map_some, keeps]

/-! ## Requests -/

/-- The role after a request that claims a role. -/
theorem resolveRoleConflict_cases (agent : IceAgent) (peerControlling : Option Bool) :
    (agent.resolveRoleConflict peerControlling = agent ∧
      ¬ (peerControlling = some true ∧ agent.role = .controlling)) ∨
    (peerControlling = some true ∧ agent.role = .controlling ∧
      agent.resolveRoleConflict peerControlling = { agent with role := .controlled }) := by
  cases peerControlling with
  | none => exact Or.inl ⟨rfl, by simp⟩
  | some peer =>
      cases role : agent.role <;> cases peer <;>
        simp [resolveRoleConflict, role, IceRole.isControlling]

/-- Giving way changes the role only. -/
theorem resolveRoleConflict_eq (agent : IceAgent) (peerControlling : Option Bool) :
    agent.resolveRoleConflict peerControlling =
      { agent with role := (agent.resolveRoleConflict peerControlling).role } := by
  rcases resolveRoleConflict_cases agent peerControlling with ⟨same, _⟩ | ⟨_, _, same⟩
  · rw [same]
  · rw [same]

/-- Everything that an accepted request does to the pairs and the nomination. -/
theorem markPair_cases (agent : IceAgent) (useCandidate : Bool) (source : Address) :
    (agent.pairOfRemote source = none ∧ agent.markPair useCandidate source = agent) ∨
    exists idx, agent.pairOfRemote source = some idx ∧
      ((useCandidate = true ∧ agent.role = .controlled ∧
          agent.markPair useCandidate source = { agent with
            checkList := agent.checkList.modify idx PairEntry.succeedNominated
            nominatedPairIdx := some idx
            nominatedPairConfirmed := true
            state := if agent.nominatedPairConfirmed then agent.state else .completed }) ∨
        (¬ (useCandidate = true ∧ agent.role = .controlled) ∧
          agent.markPair useCandidate source = { agent with
            checkList := agent.checkList.modify idx PairEntry.succeed })) := by
  cases found : agent.pairOfRemote source with
  | none => exact Or.inl ⟨rfl, by simp only [markPair, found]⟩
  | some idx =>
      refine Or.inr ⟨idx, rfl, ?_⟩
      by_cases chosen : useCandidate = true ∧ agent.role = .controlled
      · refine Or.inl ⟨chosen.1, chosen.2, ?_⟩
        have twice : (agent.checkList.modify idx fun pair => { pair with state := .succeeded }).modify
            idx (fun pair => { pair with nominated := true }) =
            agent.checkList.modify idx PairEntry.succeedNominated := by
          rw [List.modify_modify_eq]
          rfl
        cases confirmed : agent.nominatedPairConfirmed <;>
          simp [markPair, found, updatePair, chosen.1, chosen.2, confirmed, twice]
      · refine Or.inr ⟨chosen, ?_⟩
        have plain : agent.markPair useCandidate source =
            agent.updatePair idx fun pair => { pair with state := .succeeded } := by
          simp only [markPair, found]
          exact if_neg chosen
        rw [plain]
        rfl


/-- The state after the first contact. -/
def contacted (state : IceState) : IceState :=
  if state = .new ∨ state = .gathering ∨ state = .connecting then .connected else state

theorem noteContact_eq (agent : IceAgent) :
    agent.noteContact = { agent with state := contacted agent.state } := by
  unfold noteContact contacted
  split_ifs <;> rfl

/-- An accepted request: the role gives way, the pair is marked, contact is noted. -/
def acceptRequest (agent : IceAgent) (parsed : ParsedStunMessage) (source : Address) : IceAgent :=
  ((agent.resolveRoleConflict parsed.controlling).markPair parsed.useCandidate source).noteContact

/-- A request is turned away, changes the role only when it cannot be
answered, or is accepted and answered. -/
theorem handleIncomingStun_cases (agent : IceAgent) (raw : Bytes) (parsed : ParsedStunMessage)
    (source : Address) :
    (agent.acceptsUsername parsed.username = false ∧
      agent.handleIncomingStun raw parsed source = (agent, { appData := none, actions := [] })) ∨
    (agent.acceptsUsername parsed.username = true ∧ buildIceBindingResponse raw = none ∧
      agent.handleIncomingStun raw parsed source =
        (agent.resolveRoleConflict parsed.controlling, { appData := none, actions := [] })) ∨
    exists resp, agent.acceptsUsername parsed.username = true ∧
      buildIceBindingResponse raw = some resp ∧
      agent.handleIncomingStun raw parsed source =
        (agent.acceptRequest parsed source,
          { appData := none, actions := [⟨resp, source.ip, source.port⟩] }) := by
  unfold handleIncomingStun
  cases accepted : agent.acceptsUsername parsed.username with
  | false => exact Or.inl ⟨rfl, rfl⟩
  | true =>
      rw [if_neg (by simp)]
      cases answer : buildIceBindingResponse raw with
      | none => exact Or.inr (Or.inl ⟨rfl, rfl, rfl⟩)
      | some resp => exact Or.inr (Or.inr ⟨resp, rfl, rfl, rfl⟩)

/-! ## Responses -/

/-- The state after the first acknowledged check. -/
def acknowledged (state : IceState) : IceState := if state = .connecting then .connected else state

theorem handleRoleConflict_eq (agent : IceAgent) :
    agent.handleRoleConflict = { agent with
      role := agent.role.switched
      checkList := agent.checkList.map PairEntry.restartUnanswered } := rfl

/-- A success response for the pair at `idx`. -/
def acknowledgePair (agent : IceAgent) (idx : Nat) : IceAgent :=
  let agent := (agent.updatePair idx PairEntry.succeed).advanceNomination idx
  if agent.state = .connecting then agent.setState .connected else agent

/-- A response is a role conflict, is ignored, or acknowledges a pair. -/
theorem handleStunResponse_cases (agent : IceAgent) (parsed : ParsedStunMessage) :
    (parsed.isErrorResponse = true ∧ parsed.errorCode = ICE_ERROR_ROLE_CONFLICT ∧
      agent.handleStunResponse parsed = agent.handleRoleConflict) ∨
    (¬ (parsed.isErrorResponse = true ∧ parsed.errorCode = ICE_ERROR_ROLE_CONFLICT) ∧
      (parsed.isResponse = false ∨ agent.pairOfTransaction parsed.transactionId = none) ∧
      agent.handleStunResponse parsed = agent) ∨
    exists idx, ¬ (parsed.isErrorResponse = true ∧ parsed.errorCode = ICE_ERROR_ROLE_CONFLICT) ∧
      parsed.isResponse = true ∧ agent.pairOfTransaction parsed.transactionId = some idx ∧
      agent.handleStunResponse parsed = agent.acknowledgePair idx := by
  unfold handleStunResponse
  by_cases conflict : parsed.isErrorResponse = true ∧ parsed.errorCode = ICE_ERROR_ROLE_CONFLICT
  · rw [if_pos conflict]
    exact Or.inl ⟨conflict.1, conflict.2, rfl⟩
  · rw [if_neg conflict]
    refine Or.inr ?_
    cases response : parsed.isResponse with
    | false =>
        rw [if_pos rfl]
        exact Or.inl ⟨conflict, Or.inl rfl, rfl⟩
    | true =>
        rw [if_neg (by simp)]
        cases found : agent.pairOfTransaction parsed.transactionId with
        | none => exact Or.inl ⟨conflict, Or.inr rfl, rfl⟩
        | some idx => exact Or.inr ⟨idx, conflict, rfl, rfl, rfl⟩

theorem pairOfTransaction_some {agent : IceAgent} {transactionId : Bytes} {idx : Nat}
    (found : agent.pairOfTransaction transactionId = some idx) :
    exists pair, agent.checkList[idx]? = some pair ∧ pair.transactionId = transactionId := by
  rcases List.findIdx?_eq_some_iff_getElem.mp found with ⟨inside, here, _⟩
  exact ⟨agent.checkList[idx], List.getElem?_eq_getElem inside, by simpa using here⟩

theorem pairOfTransaction_none {agent : IceAgent} {transactionId : Bytes} :
    agent.pairOfTransaction transactionId = none <->
      forall pair, pair ∈ agent.checkList -> pair.transactionId ≠ transactionId := by
  unfold pairOfTransaction
  rw [List.findIdx?_eq_none_iff]
  simp

theorem pairOfRemote_some {agent : IceAgent} {source : Address} {idx : Nat}
    (found : agent.pairOfRemote source = some idx) :
    exists pair, agent.checkList[idx]? = some pair ∧ pair.target = source := by
  rcases List.findIdx?_eq_some_iff_getElem.mp found with ⟨inside, here, _⟩
  exact ⟨agent.checkList[idx], List.getElem?_eq_getElem inside,
    by simpa [PairEntry.target] using here⟩

theorem pairOfRemote_none {agent : IceAgent} {source : Address} :
    agent.pairOfRemote source = none <->
      forall pair, pair ∈ agent.checkList -> pair.target ≠ source := by
  unfold pairOfRemote PairEntry.target
  rw [List.findIdx?_eq_none_iff]
  simp

/-- Putting forward takes a succeeded pair, if there is one. -/
theorem nominateBest_cases (agent : IceAgent) {idx : Nat} {pair : PairEntry}
    (found : agent.checkList[idx]? = some pair) (succeeded : pair.state = .succeeded) :
    exists best chosen, agent.checkList[best]? = some chosen ∧ chosen.state = .succeeded ∧
      agent.nominateBest = { agent with
        checkList := agent.checkList.modify best PairEntry.putForward
        nominatedPairIdx := some best } := by
  cases search : agent.checkList.findIdx? fun pair => pair.state = .succeeded with
  | none =>
      rw [List.findIdx?_eq_none_iff] at search
      have contrary := search pair (List.mem_of_getElem? found)
      simp [succeeded] at contrary
  | some best =>
      rcases List.findIdx?_eq_some_iff_getElem.mp search with ⟨inside, here, _⟩
      refine ⟨best, agent.checkList[best], List.getElem?_eq_getElem inside, by simpa using here, ?_⟩
      simp only [nominateBest, search]
      rfl

/-- Everything that the acknowledgment of a pair does.  In the first case the
nomination does not move; in the second the nominated pair is confirmed; in
the third a first pair is put forward. -/
theorem acknowledgePair_cases (agent : IceAgent) {idx : Nat} {pair : PairEntry}
    (found : agent.checkList[idx]? = some pair) :
    ((agent.role = .controlled ∨ agent.nominatedPairConfirmed = true ∨
        exists other, other ≠ idx ∧ agent.nominatedPairIdx = some other) ∧
      agent.acknowledgePair idx = { agent with
        checkList := agent.checkList.modify idx PairEntry.succeed
        state := acknowledged agent.state }) ∨
    (agent.role = .controlling ∧ agent.nominatedPairConfirmed = false ∧
      agent.nominatedPairIdx = some idx ∧
      agent.acknowledgePair idx = { agent with
        checkList := agent.checkList.modify idx PairEntry.succeed
        nominatedPairConfirmed := true
        state := .completed }) ∨
    (agent.role = .controlling ∧ agent.nominatedPairConfirmed = false ∧
      agent.nominatedPairIdx = none ∧
      exists best chosen, (agent.checkList.modify idx PairEntry.succeed)[best]? = some chosen ∧
        chosen.state = .succeeded ∧
        agent.acknowledgePair idx = { agent with
          checkList := (agent.checkList.modify idx PairEntry.succeed).modify best
            PairEntry.putForward
          nominatedPairIdx := some best
          state := acknowledged agent.state }) := by
  have settle : forall other : IceAgent,
      (if other.state = .connecting then other.setState .connected else other) =
        { other with state := acknowledged other.state } := by
    intro other
    unfold acknowledged
    split_ifs <;> rfl
  unfold acknowledgePair
  simp only [settle]
  cases role : agent.role with
  | controlled =>
      refine Or.inl ⟨Or.inl rfl, ?_⟩
      simp [advanceNomination, updatePair, role]
  | controlling =>
      cases confirmed : agent.nominatedPairConfirmed with
      | true =>
          refine Or.inl ⟨Or.inr (Or.inl rfl), ?_⟩
          simp [advanceNomination, updatePair, role, confirmed]
      | false =>
          cases nominated : agent.nominatedPairIdx with
          | none =>
              refine Or.inr (Or.inr ⟨rfl, rfl, rfl, ?_⟩)
              have marked := getElem?_modify_self PairEntry.succeed found
              rcases nominateBest_cases (agent.updatePair idx PairEntry.succeed) marked rfl with
                ⟨best, chosen, isBest, succeeded, result⟩
              refine ⟨best, chosen, isBest, succeeded, ?_⟩
              have advance : (agent.updatePair idx PairEntry.succeed).advanceNomination idx =
                  (agent.updatePair idx PairEntry.succeed).nominateBest := by
                simp [advanceNomination, updatePair, role, confirmed, nominated]
              rw [advance, result]
              simp [updatePair, role, confirmed]
          | some other =>
              by_cases same : other = idx
              · subst same
                refine Or.inr (Or.inl ⟨rfl, rfl, rfl, ?_⟩)
                simp [advanceNomination, updatePair, role, confirmed, nominated, acknowledged]
              · refine Or.inl ⟨Or.inr (Or.inr ⟨other, same, rfl⟩), ?_⟩
                simp [advanceNomination, updatePair, role, confirmed, nominated, same]

/-! ## Datagrams -/

/-- The three kinds of datagram. -/
theorem handleIncomingData_cases {agent after : IceAgent} {data : Bytes} {source : Address}
    {result : HandleDataResult}
    (handled : agent.handleIncomingData data source = .ok (after, result)) :
    exists parsed, parseIceStunMessage data = .ok parsed ∧
      ((parsed.isStun = false ∧ after = agent ∧
          result = { appData := some data, actions := [] }) ∨
        (parsed.isStun = true ∧ parsed.isRequest = true ∧
          agent.handleIncomingStun data parsed source = (after, result)) ∨
        (parsed.isStun = true ∧ parsed.isRequest = false ∧
          after = agent.handleStunResponse parsed ∧
          result = { appData := none, actions := [] })) := by
  unfold handleIncomingData at handled
  rcases Checked.bind_eq_ok.mp handled with ⟨parsed, isParsed, outcome⟩
  refine ⟨parsed, isParsed, ?_⟩
  cases stun : parsed.isStun with
  | false =>
      rw [if_pos stun] at outcome
      cases outcome
      exact Or.inl ⟨rfl, rfl, rfl⟩
  | true =>
      rw [if_neg (by simp [stun])] at outcome
      cases request : parsed.isRequest with
      | true =>
          rw [if_pos request, Checked.pure_eq_ok] at outcome
          exact Or.inr (Or.inl ⟨rfl, rfl, Except.ok.inj outcome⟩)
      | false =>
          rw [if_neg (by simp [request])] at outcome
          cases outcome
          exact Or.inr (Or.inr ⟨rfl, rfl, rfl, rfl⟩)

/-- What holds of the agent and is kept by each of the updates that a datagram
can cause is kept by every datagram. -/
theorem handleIncomingData_preserves (holds : IceAgent -> Prop) {agent after : IceAgent}
    {data : Bytes} {source : Address} {result : HandleDataResult}
    (handled : agent.handleIncomingData data source = .ok (after, result)) (before : holds agent)
    (resolve : forall agent peerControlling, holds agent ->
      holds (agent.resolveRoleConflict peerControlling))
    (mark : forall agent useCandidate source, holds agent ->
      holds (agent.markPair useCandidate source))
    (contact : forall agent, holds agent -> holds agent.noteContact)
    (conflict : forall agent, holds agent -> holds agent.handleRoleConflict)
    (acknowledge : forall agent idx pair, holds agent -> agent.checkList[idx]? = some pair ->
      holds (agent.acknowledgePair idx)) :
    holds after := by
  rcases handleIncomingData_cases handled with ⟨parsed, _, plain | request | response⟩
  · rw [plain.2.1]
    exact before
  · have outcome := request.2.2
    rcases handleIncomingStun_cases agent data parsed source with
      ⟨_, same⟩ | ⟨_, _, same⟩ | ⟨resp, _, _, same⟩
    · rw [same] at outcome
      cases outcome
      exact before
    · rw [same] at outcome
      cases outcome
      exact resolve _ _ before
    · rw [same] at outcome
      cases outcome
      exact contact _ (mark _ _ _ (resolve _ _ before))
  · rw [response.2.2.1]
    rcases handleStunResponse_cases agent parsed with
      ⟨_, _, same⟩ | ⟨_, _, same⟩ | ⟨idx, _, _, found, same⟩
    · rw [same]
      exact conflict _ before
    · rw [same]
      exact before
    · rw [same]
      rcases pairOfTransaction_some found with ⟨pair, inside, _⟩
      exact acknowledge _ _ _ before inside

/-- What a datagram does to the check list: nothing, a pair is marked by a
request or a response, the unanswered pairs start again, or an answered pair is
marked and a pair put forward. -/
theorem handleIncomingData_checkList {agent after : IceAgent} {data : Bytes} {source : Address}
    {result : HandleDataResult}
    (handled : agent.handleIncomingData data source = .ok (after, result)) :
    after.checkList = agent.checkList ∨
    (exists idx, after.checkList = agent.checkList.modify idx PairEntry.succeed) ∨
    (exists idx, after.checkList = agent.checkList.modify idx PairEntry.succeedNominated) ∨
    after.checkList = agent.checkList.map PairEntry.restartUnanswered ∨
    exists idx best, after.checkList =
      (agent.checkList.modify idx PairEntry.succeed).modify best PairEntry.putForward := by
  rcases handleIncomingData_cases handled with ⟨parsed, _, plain | request | response⟩
  · rw [plain.2.1]
    exact Or.inl rfl
  · have outcome := request.2.2
    rcases handleIncomingStun_cases agent data parsed source with
      ⟨_, same⟩ | ⟨_, _, same⟩ | ⟨resp, _, _, same⟩
    · rw [same] at outcome
      cases outcome
      exact Or.inl rfl
    · rw [same, resolveRoleConflict_eq] at outcome
      cases outcome
      exact Or.inl rfl
    · rw [same, acceptRequest, noteContact_eq, resolveRoleConflict_eq] at outcome
      cases outcome
      rcases markPair_cases { agent with role := (agent.resolveRoleConflict parsed.controlling).role }
        parsed.useCandidate source with ⟨_, same⟩ | ⟨idx, _, ⟨_, _, same⟩ | ⟨_, same⟩⟩
      · rw [same]
        exact Or.inl rfl
      · rw [same]
        exact Or.inr (Or.inr (Or.inl ⟨idx, rfl⟩))
      · rw [same]
        exact Or.inr (Or.inl ⟨idx, rfl⟩)
  · rw [response.2.2.1]
    rcases handleStunResponse_cases agent parsed with
      ⟨_, _, same⟩ | ⟨_, _, same⟩ | ⟨idx, _, _, found, same⟩
    · rw [same]
      exact Or.inr (Or.inr (Or.inr (Or.inl rfl)))
    · rw [same]
      exact Or.inl rfl
    · rcases pairOfTransaction_some found with ⟨pair, inside, _⟩
      rw [same]
      rcases acknowledgePair_cases agent inside with
        ⟨_, same⟩ | ⟨_, _, _, same⟩ | ⟨_, _, _, best, chosen, _, _, same⟩
      · rw [same]
        exact Or.inr (Or.inl ⟨idx, rfl⟩)
      · rw [same]
        exact Or.inr (Or.inl ⟨idx, rfl⟩)
      · rw [same]
        exact Or.inr (Or.inr (Or.inr (Or.inr ⟨idx, best, rfl⟩)))

/-! ## What a datagram keeps of the pairs -/

/-- The transaction id and the target of a pair stay, and so does a nomination. -/
structure PairKept (before after : PairEntry) : Prop where
  transactionId : after.transactionId = before.transactionId
  target : after.target = before.target
  nominated : before.nominated = true -> after.nominated = true

theorem PairKept.refl (pair : PairEntry) : PairKept pair pair := ⟨rfl, rfl, id⟩

/-- The same number of pairs, each one kept. -/
structure PairsKept (before after : List PairEntry) : Prop where
  length : after.length = before.length
  kept : forall (k : Nat) (pair : PairEntry), before[k]? = some pair ->
    exists later, after[k]? = some later ∧ PairKept pair later

theorem PairsKept.refl (pairs : List PairEntry) : PairsKept pairs pairs :=
  ⟨rfl, fun _ pair found => ⟨pair, found, PairKept.refl pair⟩⟩

theorem PairsKept.trans {first second third : List PairEntry} (earlier : PairsKept first second)
    (later : PairsKept second third) : PairsKept first third := by
  refine ⟨later.length.trans earlier.length, ?_⟩
  intro k pair found
  rcases earlier.kept k pair found with ⟨middle, isMiddle, keptFirst⟩
  rcases later.kept k middle isMiddle with ⟨last, isLast, keptSecond⟩
  exact ⟨last, isLast, keptSecond.transactionId.trans keptFirst.transactionId,
    keptSecond.target.trans keptFirst.target, fun held => keptSecond.nominated
      (keptFirst.nominated held)⟩

theorem PairsKept.modify (pairs : List PairEntry) (idx : Nat) (update : PairEntry -> PairEntry)
    (keeps : forall pair, PairKept pair (update pair)) :
    PairsKept pairs (pairs.modify idx update) := by
  refine ⟨List.length_modify .., ?_⟩
  intro k pair found
  by_cases here : idx = k
  · subst here
    exact ⟨update pair, getElem?_modify_self update found, keeps pair⟩
  · exact ⟨pair, (getElem?_modify_of_ne here).trans found, PairKept.refl pair⟩

theorem PairsKept.map (pairs : List PairEntry) (update : PairEntry -> PairEntry)
    (keeps : forall pair, PairKept pair (update pair)) : PairsKept pairs (pairs.map update) := by
  refine ⟨List.length_map .., ?_⟩
  intro k pair found
  exact ⟨update pair, by rw [List.getElem?_map, found, Option.map_some], keeps pair⟩

theorem PairsKept.targets {before after : List PairEntry} (kept : PairsKept before after) :
    after.map PairEntry.target = before.map PairEntry.target := by
  apply List.ext_getElem?
  intro k
  rw [List.getElem?_map, List.getElem?_map]
  cases known : before[k]? with
  | none =>
      rw [List.getElem?_eq_none (by rw [kept.length]; exact List.getElem?_eq_none_iff.mp known)]
  | some pair =>
      rcases kept.kept k pair known with ⟨later, isLater, same⟩
      rw [isLater, Option.map_some, Option.map_some, same.target]

theorem succeed_kept (pair : PairEntry) : PairKept pair pair.succeed := ⟨rfl, rfl, id⟩

theorem succeedNominated_kept (pair : PairEntry) : PairKept pair pair.succeedNominated :=
  ⟨rfl, rfl, fun _ => rfl⟩

theorem putForward_kept (pair : PairEntry) : PairKept pair pair.putForward :=
  ⟨rfl, rfl, fun _ => rfl⟩

theorem restartUnanswered_kept (pair : PairEntry) : PairKept pair pair.restartUnanswered := by
  unfold PairEntry.restartUnanswered
  split_ifs
  · exact ⟨rfl, rfl, id⟩
  · exact PairKept.refl pair

/-- Every pair is kept by a datagram. -/
theorem handleIncomingData_pairs {agent after : IceAgent} {data : Bytes} {source : Address}
    {result : HandleDataResult}
    (handled : agent.handleIncomingData data source = .ok (after, result)) :
    PairsKept agent.checkList after.checkList := by
  rcases handleIncomingData_checkList handled with
    same | ⟨idx, same⟩ | ⟨idx, same⟩ | same | ⟨idx, best, same⟩
  · rw [same]
    exact PairsKept.refl _
  · rw [same]
    exact PairsKept.modify _ idx _ succeed_kept
  · rw [same]
    exact PairsKept.modify _ idx _ succeedNominated_kept
  · rw [same]
    exact PairsKept.map _ _ restartUnanswered_kept
  · rw [same]
    exact (PairsKept.modify _ idx _ succeed_kept).trans (PairsKept.modify _ best _ putForward_kept)

/-! ## How an agent completes -/

/-- How a datagram can move the state: to COMPLETED, or to CONNECTED from a
state before it. -/
def MovesTo (before after : IceState) : Prop :=
  after = before ∨ after = .completed ∨
    (after = .connected ∧ (before = .new ∨ before = .gathering ∨ before = .connecting))

theorem MovesTo.contacted {before middle : IceState} (moved : MovesTo before middle) :
    MovesTo before (contacted middle) := by
  unfold IceAgent.contacted
  split_ifs with early
  · rcases moved with rfl | rfl | ⟨rfl, _⟩
    · exact Or.inr (Or.inr ⟨rfl, early⟩)
    · simp at early
    · simp at early
  · exact moved

theorem MovesTo.acknowledged {before middle : IceState} (moved : MovesTo before middle) :
    MovesTo before (acknowledged middle) := by
  unfold IceAgent.acknowledged
  split_ifs with connecting
  · subst connecting
    have noted := moved.contacted
    exact noted
  · exact moved

theorem handleIncomingData_state {agent after : IceAgent} {data : Bytes} {source : Address}
    {result : HandleDataResult}
    (handled : agent.handleIncomingData data source = .ok (after, result)) :
    MovesTo agent.state after.state := by
  refine handleIncomingData_preserves (fun other => MovesTo agent.state other.state) handled
    (Or.inl rfl) ?_ ?_ ?_ ?_ ?_
  · intro other peer moved
    rw [resolveRoleConflict_eq]
    exact moved
  · intro other useCandidate source moved
    rcases markPair_cases other useCandidate source with
      ⟨_, same⟩ | ⟨idx, _, ⟨_, _, same⟩ | ⟨_, same⟩⟩
    · rw [same]
      exact moved
    · rw [same]
      dsimp only
      split_ifs
      · exact moved
      · exact Or.inr (Or.inl rfl)
    · rw [same]
      exact moved
  · intro other moved
    rw [noteContact_eq]
    exact moved.contacted
  · intro other moved
    exact moved
  · intro other idx pair moved found
    rcases acknowledgePair_cases other found with
      ⟨_, same⟩ | ⟨_, _, _, same⟩ | ⟨_, _, _, best, chosen, _, _, same⟩
    · rw [same]
      exact moved.acknowledged
    · rw [same]
      exact Or.inr (Or.inl rfl)
    · rw [same]
      exact moved.acknowledged

/-- A datagram completes an agent in one of two ways: a request with
USE-CANDIDATE nominates a pair of a controlled agent, or a response confirms
the nominated pair of a controlling one. -/
theorem handleIncomingData_completes {agent after : IceAgent} {data : Bytes} {source : Address}
    {result : HandleDataResult}
    (handled : agent.handleIncomingData data source = .ok (after, result))
    (notYet : agent.state ≠ .completed) (isCompleted : after.state = .completed) :
    after.role = .controlled ∨
    exists parsed idx, parseIceStunMessage data = .ok parsed ∧ parsed.isResponse = true ∧
      agent.role = .controlling ∧ agent.nominatedPairConfirmed = false ∧
      agent.nominatedPairIdx = some idx ∧
      agent.pairOfTransaction parsed.transactionId = some idx ∧
      after.nominatedPairIdx = some idx := by
  have contactKeeps : forall state, contacted state = .completed -> state = .completed := by
    intro state same
    unfold contacted at same
    split_ifs at same
    exact same
  have acknowledgedKeeps : acknowledged agent.state ≠ .completed := by
    intro same
    unfold acknowledged at same
    split_ifs at same
    exact notYet same
  rcases handleIncomingData_cases handled with ⟨parsed, isParsed, plain | request | response⟩
  · rw [plain.2.1] at isCompleted
    exact absurd isCompleted notYet
  · have outcome := request.2.2
    have resolved : (agent.resolveRoleConflict parsed.controlling).state = agent.state := by
      rw [resolveRoleConflict_eq]
    rcases handleIncomingStun_cases agent data parsed source with
      ⟨_, same⟩ | ⟨_, _, same⟩ | ⟨resp, _, _, same⟩
    · rw [same] at outcome
      cases outcome
      exact absurd isCompleted notYet
    · rw [same] at outcome
      cases outcome
      rw [resolved] at isCompleted
      exact absurd isCompleted notYet
    · rw [same] at outcome
      cases outcome
      unfold acceptRequest at isCompleted ⊢
      rw [noteContact_eq] at isCompleted ⊢
      have marked := contactKeeps _ isCompleted
      dsimp only at marked ⊢
      rcases markPair_cases (agent.resolveRoleConflict parsed.controlling) parsed.useCandidate
          source with ⟨_, same⟩ | ⟨idx, _, ⟨_, role, same⟩ | ⟨_, same⟩⟩
      · rw [same, resolved] at marked
        exact absurd marked notYet
      · rw [same]
        exact Or.inl role
      · rw [same] at marked
        exact absurd (resolved.symm.trans marked) notYet
  · rw [response.2.2.1] at isCompleted ⊢
    rcases handleStunResponse_cases agent parsed with
      ⟨_, _, same⟩ | ⟨_, _, same⟩ | ⟨idx, _, success, found, same⟩
    · rw [same] at isCompleted
      exact absurd isCompleted notYet
    · rw [same] at isCompleted
      exact absurd isCompleted notYet
    · rcases pairOfTransaction_some found with ⟨pair, inside, _⟩
      rw [same] at isCompleted ⊢
      rcases acknowledgePair_cases agent inside with
        ⟨_, same⟩ | ⟨role, unconfirmed, nominated, same⟩ | ⟨_, _, _, best, chosen, _, _, same⟩
      · rw [same] at isCompleted
        exact absurd isCompleted acknowledgedKeeps
      · rw [same]
        exact Or.inr ⟨parsed, idx, isParsed, success, role, unconfirmed, nominated, found,
          nominated⟩
      · rw [same] at isCompleted
        exact absurd isCompleted acknowledgedKeeps

end IceAgent
end P2pSdk
