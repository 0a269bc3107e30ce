import P2pSdk.Connector.OfferHandling

namespace P2pSdk

open Foundation

/-!
# The two signalling handlers (`client.rs`, `client_napi.rs`)

`P2pClient::handle_signaling_message` and `handle_connector_msg_inner` handle
the same messages over the same kind of agent.  The first takes an offer and an
answer in one branch and starts the checks for an offer only.  The second
starts them for an answer.  An offerer that is served by the first never
checks.

Candidates are handled alike, and so are payloads that do not parse, which
neither lets reach the agent.
-/

namespace IceAgent

/-- A start of the checks would leave the agent as it is: it would fail an agent
that has failed, or build the list that a connecting agent has. -/
def StartsIdle (agent : IceAgent) : Prop :=
  if agent.remoteUfrag = "" ∨ agent.localCandidates = [] ∨ agent.remoteCandidates = [] then
    agent.state = .failed
  else
    agent.state = .connecting ∧ agent.checkList = agent.allPairs.insertionSort beforeInList

theorem setState_eq_iff (agent : IceAgent) (state : IceState) :
    agent.setState state = agent <-> agent.state = state := by
  constructor
  · intro same
    exact (congrArg IceAgent.state same).symm
  · intro same
    rw [← same]
    rfl

theorem startChecks_eq_iff (agent : IceAgent) :
    agent.startChecks.1 = agent <-> agent.StartsIdle := by
  unfold StartsIdle
  by_cases missing :
      agent.remoteUfrag = "" ∨ agent.localCandidates = [] ∨ agent.remoteCandidates = []
  · have fails : agent.startChecks.1 = agent.setState .failed := by
      apply startChecks_error
      intro started
      rcases startChecks_ok started with ⟨known, hasLocal, hasRemote, _⟩
      rcases missing with noUfrag | noLocal | noRemote
      · exact known noUfrag
      · exact hasLocal noLocal
      · exact hasRemote noRemote
    rw [if_pos missing, fails, setState_eq_iff]
  · rcases not_or.mp missing with ⟨known, others⟩
    rcases not_or.mp others with ⟨hasLocal, hasRemote⟩
    rw [if_neg missing, startChecks_of known hasLocal hasRemote]
    constructor
    · intro same
      exact ⟨(congrArg IceAgent.state same).symm, (congrArg IceAgent.checkList same).symm⟩
    · rintro ⟨connecting, list⟩
      exact eq_of_parts rfl connecting.symm rfl list.symm rfl rfl

end IceAgent

namespace Connector

variable {Json : Type} (serde : IceSerde Json)

/-! ## The handler of the client -/

/-- `P2pClient::handle_signaling_message`: the agent after it, and its result. -/
def handleSignalingMessage (data : Json) (iceAgent : Option IceAgent) :
    Option IceAgent × Except String (List IceAction) :=
  let action := serde.action data
  if action = "iceOffer" ∨ action = "iceAnswer" then
    match serde.iceData data with
    | .error error => (iceAgent, .error error)
    | .ok desc =>
        match iceAgent with
        | none => (none, .error "no ICE agent")
        | some agent =>
            let agent := agent.setRemoteSessionDescription desc
            if action = "iceOffer" then
              (some agent.startChecks.1, agent.startChecks.2.map fun _ => [])
            else (some agent, .ok [])
  else if action = "iceCandidate" then
    match serde.iceCandidate data with
    | .error error => (iceAgent, .error error)
    | .ok candidate =>
        match iceAgent with
        | none => (none, .error "no ICE agent")
        | some agent => (some (agent.addRemoteCandidate candidate), .ok [])
  else (iceAgent, .ok [])

/-! ## Answers -/

/-- The client describes its agent, and starts nothing. -/
theorem handleSignalingMessage_answer {data : Json} (isAnswer : serde.action data = "iceAnswer")
    (iceAgent : Option IceAgent) :
    (handleSignalingMessage serde data iceAgent).1 =
      match serde.iceData data with
      | .error _ => iceAgent
      | .ok desc => iceAgent.map fun agent => agent.setRemoteSessionDescription desc := by
  have noOffer : serde.action data ≠ "iceOffer" := by
    rw [isAnswer]
    decide
  unfold handleSignalingMessage
  dsimp only
  rw [if_pos (Or.inr isAnswer)]
  cases serde.iceData data with
  | error error => rfl
  | ok desc =>
      cases iceAgent with
      | none => rfl
      | some agent =>
          dsimp only
          rw [if_neg noOffer]
          rfl

/-- The connector thread starts the checks of the agent it described. -/
theorem handleConnectorMsg_answer {data : Json} (isAnswer : serde.action data = "iceAnswer")
    (input : OfferInput) (fromId : String) (session : IceSession) :
    (session.handleConnectorMsg serde input fromId data).iceAgent =
      match serde.iceData data with
      | .error _ => session.iceAgent
      | .ok desc =>
          session.iceAgent.map fun agent => (agent.setRemoteSessionDescription desc).startChecks.1 := by
  have noOffer : serde.action data ≠ "iceOffer" := by
    rw [isAnswer]
    decide
  unfold IceSession.handleConnectorMsg IceSession.handleIceAnswer
  rw [if_neg noOffer, if_pos isAnswer]
  cases serde.iceData data with
  | error error => rfl
  | ok desc => rfl

/-! ## Candidates -/

theorem candidates_handled_alike {data : Json} (isCandidate : serde.action data = "iceCandidate")
    (input : OfferInput) (fromId : String) (session : IceSession) :
    (handleSignalingMessage serde data session.iceAgent).1 =
      (session.handleConnectorMsg serde input fromId data).iceAgent := by
  have noOffer : serde.action data ≠ "iceOffer" := by
    rw [isCandidate]
    decide
  have noAnswer : serde.action data ≠ "iceAnswer" := by
    rw [isCandidate]
    decide
  unfold handleSignalingMessage IceSession.handleConnectorMsg IceSession.handleIceCandidate
  dsimp only
  rw [if_neg (not_or.mpr ⟨noOffer, noAnswer⟩), if_pos isCandidate, if_neg noOffer, if_neg noAnswer,
    if_pos isCandidate]
  cases serde.iceCandidate data with
  | error error => rfl
  | ok candidate =>
      cases session.iceAgent with
      | none => rfl
      | some agent => rfl

/-! ## Agreement -/

/-- **Where the two handlers agree.**  On an answer or a candidate, from the same
agent, they leave the same agent behind exactly when the message is no answer,
or is an answer whose payload does not parse, or finds no agent, or describes
an agent on which a start of the checks has no effect. -/
theorem handlers_agree_iff (input : OfferInput) (fromId : String) (data : Json)
    (session : IceSession)
    (action : serde.action data = "iceAnswer" ∨ serde.action data = "iceCandidate") :
    (handleSignalingMessage serde data session.iceAgent).1 =
        (session.handleConnectorMsg serde input fromId data).iceAgent <->
      (serde.action data = "iceAnswer" -> forall desc agent, serde.iceData data = .ok desc ->
        session.iceAgent = some agent -> (agent.setRemoteSessionDescription desc).StartsIdle) := by
  rcases action with isAnswer | isCandidate
  · rw [handleSignalingMessage_answer serde isAnswer, handleConnectorMsg_answer serde isAnswer]
    cases parsed : serde.iceData data with
    | error error =>
        refine iff_of_true rfl ?_
        intro _ desc agent valid
        cases valid
    | ok desc =>
        cases held : session.iceAgent with
        | none =>
            refine iff_of_true rfl ?_
            intro _ other agent _ contrary
            cases contrary
        | some agent =>
            dsimp only
            rw [Option.map_some, Option.map_some, Option.some.injEq, eq_comm,
              IceAgent.startChecks_eq_iff]
            constructor
            · rintro idle _ other found valid same
              cases valid
              cases same
              exact idle
            · intro idle
              exact idle isAnswer desc agent rfl rfl
  · refine iff_of_true (candidates_handled_alike serde isCandidate input fromId session) ?_
    intro isAnswer
    rw [isCandidate] at isAnswer
    exact absurd isAnswer (by decide)

/-- An offerer with one candidate. -/
def offererSession : IceSession :=
  { noSession with
    iceAgent := some ((IceAgent.new true (uniformSeed 0 0)).addHostCandidate "10.0.0.1" 5000) }

/-- A malformed answer changes neither agent. -/
theorem handlers_agree_iff_malformed :
    (handleSignalingMessage jsonPayloads (bareAction "iceAnswer") offererSession.iceAgent).1 =
      (offererSession.handleConnectorMsg jsonPayloads (plainInput 1) "peer"
        (bareAction "iceAnswer")).iceAgent :=
  (handlers_agree_iff jsonPayloads (plainInput 1) "peer" (bareAction "iceAnswer") offererSession
    (Or.inl rfl)).mpr fun _ _ _ malformed => by cases malformed

/-- The answer to an offer starts the checks of one offerer, and not of the other. -/
theorem handlers_disagree_on_answer :
    ¬ forall (Json : Type) (serde : IceSerde Json) (input : OfferInput) (fromId : String)
      (data : Json) (session : IceSession),
      serde.action data = "iceAnswer" ∨ serde.action data = "iceCandidate" ->
        (handleSignalingMessage serde data session.iceAgent).1 =
          (session.handleConnectorMsg serde input fromId data).iceAgent := by
  intro claim
  have same := claim _ jsonPayloads (plainInput 1) "peer" (describedAs "iceAnswer")
    offererSession (Or.inl rfl)
  have client : (handleSignalingMessage jsonPayloads (describedAs "iceAnswer")
      offererSession.iceAgent).1.any (fun agent => agent.state = .new) = true := by
    decide +kernel
  have connector : (offererSession.handleConnectorMsg jsonPayloads (plainInput 1)
      "peer" (describedAs "iceAnswer")).iceAgent.any (fun agent => agent.state = .connecting) = true := by
    decide +kernel
  rw [← same] at connector
  rcases (Option.any_eq_true _ _).mp client with ⟨agent, isAgent, isNew⟩
  rcases (Option.any_eq_true _ _).mp connector with ⟨other, isOther, connecting⟩
  rw [isAgent] at isOther
  cases isOther
  cases (of_decide_eq_true isNew).symm.trans (of_decide_eq_true connecting)

end Connector
end P2pSdk
