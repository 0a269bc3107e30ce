import P2pSdk.Ice.AgentRun
import P2pSdk.Foundation.History

namespace P2pSdk

open Foundation

/-!
# Runs of an agent that remember

What an agent does with a datagram depends on the datagram and on the agent
before it only.  The reaction names the case; the agent afterwards follows
from it.  The recorders of the later modules look at the reaction where they
have to know what happened inside a single call: a pair that a response marked
may have been put forward again before the call returns.

Of the public operations only five act on the checks.  A recorder says what
each of the five adds to the memory of a run.
-/

namespace IceAgent

/-! ## Reactions -/

/-- What an agent makes of a datagram. -/
inductive Reaction where
  /-- No STUN, turned away, or of no meaning to the agent. -/
  | ignored
  /-- A request with an acceptable USERNAME that cannot be answered. -/
  | unanswered (parsed : ParsedStunMessage)
  /-- A request that is answered. -/
  | accepted (parsed : ParsedStunMessage)
  /-- An error response with the code 487. -/
  | conflict
  /-- A success response under the transaction id of a pair. -/
  | acknowledged (idx : Nat)

/-- The branch that `handle_incoming_data` takes.  A datagram that the parser
panics on has no reaction; it counts as ignored. -/
def reaction (agent : IceAgent) (data : Bytes) : Reaction :=
  match parseIceStunMessage data with
  | .error _ => .ignored
  | .ok parsed =>
      if parsed.isStun = false then .ignored
      else if parsed.isRequest then
        if agent.acceptsUsername parsed.username = false then .ignored
        else if (buildIceBindingResponse data).isNone then .unanswered parsed
        else .accepted parsed
      else if parsed.isErrorResponse ∧ parsed.errorCode = ICE_ERROR_ROLE_CONFLICT then .conflict
      else if parsed.isResponse = false then .ignored
      else
        match agent.pairOfTransaction parsed.transactionId with
        | none => .ignored
        | some idx => .acknowledged idx

/-- The agent after a reaction. -/
def react (agent : IceAgent) (source : Address) : Reaction -> IceAgent
  | .ignored => agent
  | .unanswered parsed => agent.resolveRoleConflict parsed.controlling
  | .accepted parsed => agent.acceptRequest parsed source
  | .conflict => agent.handleRoleConflict
  | .acknowledged idx => agent.acknowledgePair idx

/-- The agent after a datagram is the one after the reaction to it. -/
theorem handleIncomingData_reacts {agent after : IceAgent} {data : Bytes} {source : Address}
    {result : HandleDataResult}
    (handled : agent.handleIncomingData data source = .ok (after, result)) :
    after = agent.react source (agent.reaction data) := by
  rcases handleIncomingData_cases handled with ⟨parsed, isParsed, plain | request | response⟩
  · rw [plain.2.1, reaction, isParsed]
    dsimp only
    rw [if_pos plain.1]
    rfl
  · rcases request with ⟨isStun, isRequest, outcome⟩
    rw [reaction, isParsed]
    dsimp only
    rw [if_neg (by simp [isStun]), if_pos isRequest]
    rcases handleIncomingStun_cases agent data parsed source with
      ⟨refused, same⟩ | ⟨accepted, unanswered, same⟩ | ⟨resp, accepted, answer, same⟩
    · rw [if_pos refused]
      rw [same] at outcome
      cases outcome
      rfl
    · rw [if_neg (by simp [accepted]), if_pos (by simp [unanswered])]
      rw [same] at outcome
      cases outcome
      rfl
    · rw [if_neg (by simp [accepted]), if_neg (by simp [answer])]
      rw [same] at outcome
      cases outcome
      rfl
  · rcases response with ⟨isStun, noRequest, isAfter, _⟩
    rw [isAfter, reaction, isParsed]
    dsimp only
    rw [if_neg (by simp [isStun]), if_neg (by simp [noRequest])]
    rcases handleStunResponse_cases agent parsed with
      ⟨isError, code, same⟩ | ⟨noConflict, unknown, same⟩ | ⟨idx, noConflict, success, found, same⟩
    · rw [if_pos ⟨isError, code⟩, same]
      rfl
    · rw [if_neg noConflict, same]
      rcases unknown with noResponse | noPair
      · rw [if_pos noResponse]
        rfl
      · rw [noPair]
        split_ifs <;> rfl
    · rw [if_neg noConflict, if_neg (by simp [success]), found, same]
      rfl

/-- An acknowledged pair is in the list. -/
theorem reaction_acknowledged {agent : IceAgent} {data : Bytes} {idx : Nat}
    (reacts : agent.reaction data = .acknowledged idx) :
    exists parsed, parseIceStunMessage data = .ok parsed ∧ parsed.isResponse = true ∧
      agent.pairOfTransaction parsed.transactionId = some idx := by
  unfold reaction at reacts
  cases isParsed : parseIceStunMessage data with
  | error panic =>
      rw [isParsed] at reacts
      cases reacts
  | ok parsed =>
      rw [isParsed] at reacts
      dsimp only at reacts
      split_ifs at reacts with _ _ _ _ _ noResponse
      cases found : agent.pairOfTransaction parsed.transactionId with
      | none =>
          rw [found] at reacts
          cases reacts
      | some other =>
          rw [found] at reacts
          cases reacts
          refine ⟨parsed, rfl, ?_, found⟩
          cases isResponse : parsed.isResponse with
          | true => rfl
          | false => exact absurd isResponse noResponse

end IceAgent

/-! ## Recorders of an agent -/

/-- What the operations that act on the checks add to a memory.  A round adds
the requests it sent. -/
structure AgentRecorder (Memory : Type) where
  start : Memory
  onStart : IceAgent -> Memory -> Memory
  onTick : Nat -> List IceAgent.SentCheck -> Memory -> Memory
  onData : IceAgent -> Bytes -> Address -> IceAgent -> Memory -> Memory
  onStop : Memory -> Memory

namespace AgentRecorder

variable {Memory : Type}

/-- The other operations add nothing. -/
def recorder (memories : AgentRecorder Memory) : Recorder AgentRun AgentOp Memory where
  start := memories.start
  record := fun before op after memory =>
    match op with
    | .startChecks => memories.onStart before.agent memory
    | .tick now => memories.onTick now (after.checks.drop before.checks.length) memory
    | .handleIncomingData data source => memories.onData before.agent data source after.agent memory
    | .stop => memories.onStop memory
    | _ => memory

end AgentRecorder

/-- The operations that act on the checks. -/
def AgentOp.acts : AgentOp -> Bool
  | .startChecks => true
  | .tick _ => true
  | .handleIncomingData _ _ => true
  | .stop => true
  | _ => false

namespace AgentRun

variable {crypto : Crypto} {ids : Nat -> TransactionId}

theorem call_configures {before after : AgentRun} {op : AgentOp} {output : AgentOutput}
    (idle : op.acts = false) (called : before.call crypto ids op = .ok (after, output)) :
    exists agent, IceAgent.Configures before.agent agent ∧
      after = { before with agent := agent } := by
  rcases call_cases called with configures | ⟨rfl, _⟩ | ⟨now, rfl, _⟩ | ⟨data, source, _, _, rfl, _⟩ |
    ⟨rfl, _⟩
  · exact configures
  · cases idle
  · cases idle
  · cases idle
  · cases idle

/-- The invariant rule for runs with a memory: each operation on its own, with
the condition on the steps where it can matter. -/
theorem remembered_invariant {Memory : Type} {memories : AgentRecorder Memory}
    {isControlling : Bool} {seed : AgentSeed} {allowed : AgentRun -> AgentOp -> Prop}
    {run : AgentRun × Memory} (holds : AgentRun -> Memory -> Prop)
    (reachable : (((agentSystem crypto ids isControlling seed).restrict allowed).remember
      memories.recorder).Reachable run)
    (initially : holds (AgentRun.new isControlling seed) memories.start)
    (configure : forall before memory agent, holds before memory ->
      IceAgent.Configures before.agent agent -> holds { before with agent := agent } memory)
    (start : forall before memory announced, holds before memory ->
      holds { before with agent := before.agent.startChecks.1, announced := announced }
        (memories.onStart before.agent memory))
    (tick : forall before memory now announced,
      (agentSystem crypto ids isControlling seed).Reachable before -> holds before memory ->
      holds
        { agent := (before.agent.tickChecks crypto ids before.next now).1
          next := (before.agent.tickChecks crypto ids before.next now).2.2
          checks := before.checks ++ (before.agent.tickChecks crypto ids before.next now).2.1
          announced := announced }
        (memories.onTick now (before.agent.tickChecks crypto ids before.next now).2.1 memory))
    (handle : forall before memory data source agent result announced,
      (agentSystem crypto ids isControlling seed).Reachable before ->
      holds before memory -> allowed before (.handleIncomingData data source) ->
      before.agent.handleIncomingData data source = .ok (agent, result) ->
      holds { before with agent := agent, announced := announced }
        (memories.onData before.agent data source agent memory))
    (stop : forall before memory announced, holds before memory ->
      holds { before with agent := before.agent.stop, announced := announced }
        (memories.onStop memory)) :
    holds run.1 run.2 := by
  refine TransitionSystem.Reachable.remembered_invariant holds reachable ?_ ?_
  · intro state isNew
    rw [isNew]
    exact initially
  · intro before memory op after earlier held stepped
    rcases stepped with ⟨permitted, output, called⟩
    cases acts : op.acts with
    | false =>
        have kept : memories.recorder.record before op after memory = memory := by
          cases op <;> first | rfl | cases acts
        rcases call_configures acts called with ⟨agent, configures, rfl⟩
        rw [kept]
        exact configure before memory agent held configures
    | true =>
        cases op with
        | startChecks =>
            cases called
            exact start before memory _ held
        | tick now =>
            have isAfter := (congrArg Prod.fst (Except.ok.inj called)).symm
            dsimp only at isAfter
            rw [isAfter]
            unfold AgentRecorder.recorder
            dsimp only
            rw [List.drop_left]
            exact tick before memory now _ earlier.of_restrict held
        | handleIncomingData data source =>
            rcases Checked.bind_eq_ok.mp called with ⟨⟨agent, result⟩, handled, rest⟩
            cases rest
            exact handle before memory data source agent result _ earlier.of_restrict held permitted
              handled
        | stop =>
            cases called
            exact stop before memory _ held
        | addLocalCandidate cand => cases acts
        | addHostCandidate addr port => cases acts
        | setRemoteSessionDescription desc => cases acts
        | addRemoteCandidate line => cases acts
        | setRemotePwd pwd => cases acts
        | sendData data => cases acts

/-! ## Concrete runs -/

/-- Perform a sequence of operations, each allowed where it is performed, and
remember them. -/
def remembers {Memory : Type} (memories : AgentRecorder Memory) (crypto : Crypto)
    (ids : Nat -> TransactionId) (allowed : AgentRun -> AgentOp -> Bool) :
    AgentRun × Memory -> List AgentOp -> Option (AgentRun × Memory) :=
  TransitionSystem.perform
    (TransitionSystem.recordNext memories.recorder
      fun run op => (run.call crypto ids op).toOption.map Prod.fst)
    fun run => allowed run.1

/-- A run given by its operations, and a test of the state and the memory it
ends in. -/
theorem exists_remembered {Memory : Type} {memories : AgentRecorder Memory} {isControlling : Bool}
    {seed : AgentSeed} {allowed : AgentRun -> AgentOp -> Bool}
    (condition : AgentRun -> AgentOp -> Prop)
    (meets : forall run op, allowed run op = true -> condition run op) {ops : List AgentOp}
    {test : AgentRun × Memory -> Bool}
    (ends : (remembers memories crypto ids allowed (new isControlling seed, memories.start)
      ops).any test = true) :
    exists run, (((agentSystem crypto ids isControlling seed).restrict condition).remember
      memories.recorder).Reachable run ∧ test run = true := by
  apply TransitionSystem.exists_remembered memories.recorder condition _ meets rfl ends
  intro before op after called
  exact step_of_calls called

end AgentRun

end P2pSdk
