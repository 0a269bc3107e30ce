import P2pSdk.Ice.Trickle
import P2pSdk.Ice.CandidateRoundTrip
import P2pSdk.Stun.Ipv6Text

namespace P2pSdk

open Foundation

/-!
# IPv6 addresses in the agent (`ice/agent.rs`)

The agent keeps the address of a candidate as a text and compares texts, when
it looks for duplicates and when it looks for the pair of a request.  One IPv6
address has many texts.  The two places treat two texts alike exactly when
they are the same text: for any two others there is a run in which the second
candidate is kept and the request marks no pair.
-/

/-! ## IPv6 texts are tokens -/

theorem isWhitespace_of_isIpv6Letter {char : Char} (isLetter : isIpv6Letter char = true) :
    isWhitespace char = false := by
  have bounds : char.toNat = 43 ∨ (48 ≤ char.toNat ∧ char.toNat ≤ 58) ∨
      (65 ≤ char.toNat ∧ char.toNat ≤ 70) ∨ (97 ≤ char.toNat ∧ char.toNat ≤ 102) := by
    simp only [isIpv6Letter, Bool.or_eq_true, beq_iff_eq] at isLetter
    rcases isLetter with (isHex | rfl) | rfl
    · unfold hexDigit at isHex
      split at isHex
      · rename_i range
        exact Or.inr (Or.inl ⟨range.1, Nat.le_succ_of_le range.2⟩)
      · split at isHex
        · rename_i range
          exact Or.inr (Or.inr (Or.inr range))
        · split at isHex
          · rename_i range
            exact Or.inr (Or.inr (Or.inl range))
          · cases isHex
    · exact Or.inr (Or.inl (by decide))
    · exact Or.inl rfl
  simp only [isWhitespace, Bool.or_eq_false_iff, Bool.and_eq_false_iff, decide_eq_false_iff_not,
    beq_eq_false_iff_ne]
  omega

/-- A text that reads as an address can stand in a candidate line. -/
theorem isToken_of_ipv6ToBytes {text : String} {bytes : Bytes} (isOk : ipv6ToBytes text = .ok bytes) :
    IsToken text where
  nonempty := fun isEmpty => (ipv6ToBytes_letters isOk).1 (String.toList_eq_nil_iff.mp isEmpty)
  unspaced := fun char isMember =>
    isWhitespace_of_isIpv6Letter ((ipv6ToBytes_letters isOk).2 char isMember)

/-- Different texts that read alike read as an address: an error names its text. -/
theorem exists_bytes_of_same {t u : String} (same : ipv6ToBytes t = ipv6ToBytes u) (differ : t ≠ u) :
    exists bytes, ipv6ToBytes t = .ok bytes := by
  have named : forall text error, ipv6ToBytes text = .error error -> error = .invalidIpv6 text := by
    intro text error isError
    unfold ipv6ToBytes at isError
    split at isError
    · cases isError
      rfl
    · split at isError
      · cases isError
        rfl
      · split at isError
        · cases isError
          rfl
        · cases isError
  cases isText : ipv6ToBytes t with
  | ok bytes => exact ⟨bytes, rfl⟩
  | error error =>
      have first := named t error isText
      have second := named u error (same ▸ isText)
      rw [first] at second
      injection second with equal
      exact absurd equal differ

/-! ## Matching -/

section Matching

variable (crypto : Crypto) (ids : Nat -> TransactionId) (isControlling : Bool) (seed : AgentSeed)

/-- In every run, a remote candidate at `t` makes one at `u` a duplicate. -/
def MakesDuplicate (t u : String) (port : UInt16) : Prop :=
  forall run, (agentSystem crypto ids isControlling seed).Reachable run ->
    (exists known, known ∈ run.agent.remoteCandidates ∧ known.address = ⟨t, port⟩) ->
    forall cand : IceCandidate, cand.address = ⟨u, port⟩ -> run.agent.addRemoteCand cand = run.agent

/-- In every run with a pair at `t`, a datagram from `u` does to the agent what
the same datagram from `t` does. -/
def MarksPair (t u : String) (port : UInt16) : Prop :=
  forall run, (agentSystem crypto ids isControlling seed).Reachable run ->
    (exists pair, pair ∈ run.agent.checkList ∧ pair.remoteCand.address = ⟨t, port⟩) ->
    forall data, (run.agent.handleIncomingData data ⟨u, port⟩).map Prod.fst =
      (run.agent.handleIncomingData data ⟨t, port⟩).map Prod.fst

/-! ## A run with one remote candidate -/

/-- A host candidate at a text. -/
def candidateAt (text : String) (port : UInt16) : IceCandidate where
  foundation := "1"
  componentId := 1
  transport := "UDP"
  priority := 1
  connectionAddress := text
  port := port
  candidateType := .host
  relatedAddress := ""
  relatedPort := 0

theorem candidateAt_wellFormed {text : String} (isToken : IsToken text) (port : UInt16) :
    (candidateAt text port).WellFormed where
  foundation := (isToken_of_all (by decide) (by decide) : IsToken "1")
  transport := (isToken_of_all (by decide) (by decide) : IsToken "UDP")
  connectionAddress := isToken
  related := Or.inl ⟨rfl, rfl⟩

/-- The description of a peer with this one candidate. -/
def peerAt (text : String) (port : UInt16) : IceSessionDescription where
  iceUfrag := "peer"
  icePwd := "secret"
  isLite := false
  candidates := [formatCandidateLine (candidateAt text port)]

/-- The agent that was told of the peer. -/
def toldAgent (text : String) (port : UInt16) : IceAgent :=
  { IceAgent.new isControlling seed with
    remoteUfrag := "peer", remotePwd := "secret", remoteIsLite := false
    remoteCandidates := [candidateAt text port] }

theorem setRemoteSessionDescription_told {text : String} (isToken : IsToken text) (port : UInt16) :
    (IceAgent.new isControlling seed).setRemoteSessionDescription (peerAt text port) =
      toldAgent isControlling seed text port := by
  have parsed := parse_formatCandidateLine (candidateAt_wellFormed isToken port)
  rw [IceAgent.setRemoteSessionDescription, peerAt, List.foldl_cons, List.foldl_nil,
    IceAgent.addRemoteCandidate, parsed]
  rfl

/-- The run that told it. -/
def toldRun (text : String) (port : UInt16) : AgentRun :=
  { AgentRun.new isControlling seed with agent := toldAgent isControlling seed text port }

theorem toldRun_reachable {text : String} (isToken : IsToken text) (port : UInt16) :
    (agentSystem crypto ids isControlling seed).Reachable (toldRun isControlling seed text port) := by
  have stepped : (agentSystem crypto ids isControlling seed).step (AgentRun.new isControlling seed)
      (.setRemoteSessionDescription (peerAt text port)) (toldRun isControlling seed text port) := by
    refine ⟨.none, ?_⟩
    have told := setRemoteSessionDescription_told isControlling seed isToken port
    exact congrArg (fun agent => Except.ok ({ AgentRun.new isControlling seed with agent := agent },
      AgentOutput.none)) told
  exact .step (.start rfl) stepped

/-- The agent behind that run with a candidate of its own, checking. -/
def checkingAgent (text : String) (port : UInt16) : IceAgent :=
  let agent := (toldAgent isControlling seed text port).addHostCandidate "::1" 5000
  { agent with
    checkList := [IceAgent.freshPair agent.role (hostCandidate "::1" 5000)
      (candidateAt text port)]
    state := .connecting }

/-- The run in which it started its checks. -/
def checkingRun (text : String) (port : UInt16) : AgentRun :=
  { toldRun isControlling seed text port with agent := checkingAgent isControlling seed text port }

theorem checkingRun_reachable {text : String} (isToken : IsToken text) (port : UInt16) :
    (agentSystem crypto ids isControlling seed).Reachable (checkingRun isControlling seed text port) := by
  have addHost : (agentSystem crypto ids isControlling seed).step (toldRun isControlling seed text port)
      (.addHostCandidate "::1" 5000)
      { toldRun isControlling seed text port with
        agent := (toldAgent isControlling seed text port).addHostCandidate "::1" 5000 } := ⟨.none, rfl⟩
  have startChecks : (agentSystem crypto ids isControlling seed).step
      { toldRun isControlling seed text port with
        agent := (toldAgent isControlling seed text port).addHostCandidate "::1" 5000 }
      .startChecks (checkingRun isControlling seed text port) := by
    have told : (toldAgent isControlling seed text port).remoteUfrag ≠ "" :=
      (by decide : "peer" ≠ "")
    have started : ((toldAgent isControlling seed text port).addHostCandidate "::1" 5000).startChecks = _ :=
      IceAgent.startChecks_of told (List.cons_ne_nil _ _) (List.cons_ne_nil _ _)
    refine ⟨.started (.ok ()), ?_⟩
    rw [AgentRun.call, started]
    rfl
  exact .step (.step (toldRun_reachable crypto ids isControlling seed isToken port) addHost) startChecks

end Matching

/-! ## The two places -/

/-- A Binding request without attributes is accepted by every agent. -/
theorem handle_bareRequest (agent : IceAgent) (source : Address) :
    exists parsed, (parsed.useCandidate = false ∧ parsed.controlling = none) ∧
      (agent.handleIncomingData bareRequest source).map Prod.fst =
        .ok (agent.acceptRequest parsed source) := by
  have parses : (parseIceStunMessage bareRequest).toOption.any (fun parsed =>
      parsed.isStun && parsed.isRequest && parsed.username = "" && parsed.useCandidate = false &&
        parsed.controlling = none) = true := by
    decide +kernel
  rcases Checked.exists_of_any parses with ⟨parsed, isParsed, fields⟩
  simp only [Bool.and_eq_true, decide_eq_true_eq] at fields
  rcases fields with ⟨⟨⟨⟨isStun, isRequest⟩, noUsername⟩, notUse⟩, noRole⟩
  refine ⟨parsed, ⟨notUse, noRole⟩, ?_⟩
  have answered : (buildIceBindingResponse bareRequest).isSome = true := by decide +kernel
  have accepted : agent.acceptsUsername parsed.username = true := by
    rw [IceAgent.acceptsUsername, if_pos noUsername]
  have handled : agent.handleIncomingData bareRequest source =
      .ok (agent.handleIncomingStun bareRequest parsed source) := by
    rw [IceAgent.handleIncomingData, isParsed, Checked.ok_bind, isStun, isRequest]
    rfl
  rw [handled]
  rcases agent.handleIncomingStun_cases bareRequest parsed source with
    ⟨refused, _⟩ | ⟨_, unanswered, _⟩ | ⟨resp, _, _, outcome⟩
  · rw [accepted] at refused
    cases refused
  · rw [unanswered] at answered
    cases answered
  · rw [outcome]
    rfl

theorem acceptRequest_unmarked {agent : IceAgent} {parsed : ParsedStunMessage} {source : Address}
    (plain : parsed.useCandidate = false ∧ parsed.controlling = none)
    (notFound : agent.pairOfRemote source = none) :
    (agent.acceptRequest parsed source).checkList = agent.checkList := by
  rcases agent.markPair_cases parsed.useCandidate source with ⟨_, unmarked⟩ | ⟨idx, found, _⟩
  · rw [IceAgent.acceptRequest, plain.2, IceAgent.noteContact_eq]
    have same : ((agent.resolveRoleConflict none).markPair parsed.useCandidate source).checkList =
        agent.checkList := congrArg IceAgent.checkList unmarked
    exact same
  · rw [notFound] at found
    cases found

theorem acceptRequest_marked {agent : IceAgent} {parsed : ParsedStunMessage} {source : Address} {idx : Nat}
    (plain : parsed.useCandidate = false ∧ parsed.controlling = none)
    (found : agent.pairOfRemote source = some idx) :
    (agent.acceptRequest parsed source).checkList = agent.checkList.modify idx PairEntry.succeed := by
  rcases agent.markPair_cases parsed.useCandidate source with
    ⟨notFound, _⟩ | ⟨other, isOther, ⟨chosen, _⟩ | ⟨_, marked⟩⟩
  · rw [found] at notFound
    cases notFound
  · rw [plain.1] at chosen
    cases chosen
  · rw [found] at isOther
    cases isOther
    rw [IceAgent.acceptRequest, plain.2, IceAgent.noteContact_eq]
    have updated : ((agent.resolveRoleConflict none).markPair parsed.useCandidate source).checkList =
        agent.checkList.modify idx PairEntry.succeed := congrArg IceAgent.checkList marked
    exact updated

theorem makesDuplicate_iff (crypto : Crypto) (ids : Nat -> TransactionId) (isControlling : Bool)
    (seed : AgentSeed) {t u : String} (same : ipv6ToBytes t = ipv6ToBytes u) (port : UInt16) :
    MakesDuplicate crypto ids isControlling seed t u port <-> t = u := by
  constructor
  · intro duplicates
    by_contra differ
    rcases exists_bytes_of_same same differ with ⟨bytes, isOk⟩
    have unchanged := duplicates _
      (toldRun_reachable crypto ids isControlling seed (isToken_of_ipv6ToBytes isOk) port)
      ⟨candidateAt t port, List.mem_singleton_self _, rfl⟩ (candidateAt u port) rfl
    have unknown : (toldRun isControlling seed t port).agent.knowsAddress (candidateAt u port).address =
        false := by
      have differs : (candidateAt t port).address ≠ (candidateAt u port).address := by
        intro equal
        exact differ (congrArg Address.ip equal)
      refine List.any_eq_false.mpr ?_
      intro known isKnown
      rw [List.mem_singleton.mp isKnown, beq_iff_eq]
      exact differs
    rw [IceAgent.addRemoteCand_new unknown] at unchanged
    have longer := congrArg (fun agent => agent.remoteCandidates.length) unchanged
    cases longer
  · rintro rfl run _ ⟨known, isKnown, isAddress⟩ cand isCandidate
    refine IceAgent.addRemoteCand_known (List.any_eq_true.mpr ⟨known, isKnown, ?_⟩)
    rw [isAddress, isCandidate]
    exact beq_self_eq_true _

theorem marksPair_iff (crypto : Crypto) (ids : Nat -> TransactionId) (isControlling : Bool)
    (seed : AgentSeed) {t u : String} (same : ipv6ToBytes t = ipv6ToBytes u) (port : UInt16) :
    MarksPair crypto ids isControlling seed t u port <-> t = u := by
  constructor
  · intro marks
    by_contra differ
    rcases exists_bytes_of_same same differ with ⟨bytes, isOk⟩
    have alike := marks _
      (checkingRun_reachable crypto ids isControlling seed (isToken_of_ipv6ToBytes isOk) port)
      ⟨_, List.mem_singleton_self _, rfl⟩ bareRequest
    rcases handle_bareRequest (checkingAgent isControlling seed t port) ⟨u, port⟩ with
      ⟨parsedU, fieldsU, outcomeU⟩
    rcases handle_bareRequest (checkingAgent isControlling seed t port) ⟨t, port⟩ with
      ⟨parsedT, fieldsT, outcomeT⟩
    have notFound : (checkingAgent isControlling seed t port).pairOfRemote ⟨u, port⟩ = none := by
      refine List.findIdx?_eq_none_iff.mpr ?_
      intro pair isPair
      rw [List.mem_singleton.mp isPair]
      exact decide_eq_false (fun equal => differ (congrArg Address.ip equal))
    have found : (checkingAgent isControlling seed t port).pairOfRemote ⟨t, port⟩ = some 0 := by
      have here : decide ((candidateAt t port).address = ⟨t, port⟩) = true := decide_eq_true rfl
      exact (List.findIdx?_cons).trans (if_pos here)
    have sameAgent : (checkingAgent isControlling seed t port).acceptRequest parsedU ⟨u, port⟩ =
        (checkingAgent isControlling seed t port).acceptRequest parsedT ⟨t, port⟩ := by
      rw [show (checkingRun isControlling seed t port).agent = checkingAgent isControlling seed t port
        from rfl, outcomeU, outcomeT] at alike
      exact Except.ok.inj alike
    have lists := congrArg IceAgent.checkList sameAgent
    rw [acceptRequest_unmarked fieldsU notFound, acceptRequest_marked fieldsT found] at lists
    have states := congrArg (List.map PairEntry.state) lists
    cases states
  · rintro rfl run _ _ data
    rfl

/-- Of two texts of one address, a candidate at the first makes one at the
second a duplicate exactly when the texts are the same, and a request from the
second marks the pair at the first exactly then. -/
theorem ipv6_matched_iff (crypto : Crypto) (ids : Nat -> TransactionId) (isControlling : Bool)
    (seed : AgentSeed) {t u : String} (same : ipv6ToBytes t = ipv6ToBytes u) (port : UInt16) :
    (MakesDuplicate crypto ids isControlling seed t u port <-> t = u) ∧
      (MarksPair crypto ids isControlling seed t u port <-> t = u) :=
  ⟨makesDuplicate_iff crypto ids isControlling seed same port,
    marksPair_iff crypto ids isControlling seed same port⟩

/-- The text of a reflexive candidate and the text that the socket reports. -/
theorem ipv6_matched_printed :
    (MakesDuplicate zeroCrypto countingIds true (uniformSeed 0 0) "2001:db8:0:0:0:0:0:1" "2001:db8::1"
        6000 <-> "2001:db8:0:0:0:0:0:1" = "2001:db8::1") ∧
      (MarksPair zeroCrypto countingIds true (uniformSeed 0 0) "2001:db8:0:0:0:0:0:1" "2001:db8::1"
        6000 <-> "2001:db8:0:0:0:0:0:1" = "2001:db8::1") :=
  ipv6_matched_iff zeroCrypto countingIds true (uniformSeed 0 0) (by decide +kernel) 6000

/-- The two texts are one address, and are matched in neither place. -/
theorem ipv6_spellings_unmatched :
    ipv6ToBytes "2001:db8:0:0:0:0:0:1" = ipv6ToBytes "2001:db8::1" ∧
      ¬ MakesDuplicate zeroCrypto countingIds true (uniformSeed 0 0) "2001:db8:0:0:0:0:0:1"
        "2001:db8::1" 6000 ∧
      ¬ MarksPair zeroCrypto countingIds true (uniformSeed 0 0) "2001:db8:0:0:0:0:0:1"
        "2001:db8::1" 6000 := by
  have same : ipv6ToBytes "2001:db8:0:0:0:0:0:1" = ipv6ToBytes "2001:db8::1" := by decide +kernel
  have differ : "2001:db8:0:0:0:0:0:1" ≠ "2001:db8::1" := by decide
  refine ⟨same, ?_, ?_⟩
  · intro duplicates
    exact differ ((makesDuplicate_iff zeroCrypto countingIds true (uniformSeed 0 0) same 6000).mp duplicates)
  · intro marks
    exact differ ((marksPair_iff zeroCrypto countingIds true (uniformSeed 0 0) same 6000).mp marks)

end P2pSdk
