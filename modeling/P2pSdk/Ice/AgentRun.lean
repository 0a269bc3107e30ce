import P2pSdk.Ice.AgentSpec
import P2pSdk.Ice.StunRoundTrip
import P2pSdk.Foundation.TransitionSystem

namespace P2pSdk

open Foundation

/-!
# Runs of one agent

A run is any finite sequence of the agent's public operations, with any clock
values and any datagrams.  An operation that panics ends the run: it has no
step.  The accessors only read and are left out.

Besides the agent, the state of a run holds the number of transaction ids
drawn so far, and two records that the code does not keep: every request that
`tick` returned, with the pair it was for, and whether `tick` has sent a
request with USE-CANDIDATE on the pair that is put forward.
-/

/-- The public operations. -/
inductive AgentOp where
  | addLocalCandidate (cand : IceCandidate)
  | addHostCandidate (addr : String) (port : UInt16)
  | setRemoteSessionDescription (desc : IceSessionDescription)
  | addRemoteCandidate (line : String)
  | setRemotePwd (pwd : String)
  | startChecks
  | tick (now : Nat)
  | handleIncomingData (data : Bytes) (source : Address)
  | sendData (data : Bytes)
  | stop

/-- What an operation returns. -/
inductive AgentOutput where
  | none
  | started (result : Except String Unit)
  | requests (actions : List IceAction)
  | handled (result : HandleDataResult)
  | send (action : Option IceAction)

structure AgentRun where
  agent : IceAgent
  /-- Transaction ids drawn so far. -/
  next : Nat
  /-- The requests returned by `tick`, oldest first. -/
  checks : List IceAgent.SentCheck
  /-- A request with USE-CANDIDATE went out on the pair that is put forward,
  since it was put forward. -/
  announced : Bool

namespace AgentRun

/-- A new agent. -/
def new (isControlling : Bool) (seed : AgentSeed) : AgentRun where
  agent := IceAgent.new isControlling seed
  next := 0
  checks := []
  announced := false

/-- An operation that only configures the agent. -/
def configure (run : AgentRun) (agent : IceAgent) : AgentRun × AgentOutput :=
  ({ run with agent := agent }, .none)

/-- The requests of a round that carry USE-CANDIDATE for the pair put forward. -/
def announces (agent : IceAgent) (checks : List IceAgent.SentCheck) : Bool :=
  checks.any fun check => check.useCandidate ∧ agent.nominatedPairIdx = some check.pair

/-- One operation. -/
def call (crypto : Crypto) (ids : Nat -> TransactionId) (run : AgentRun) :
    AgentOp -> Checked (AgentRun × AgentOutput)
  | .addLocalCandidate cand => pure (run.configure (run.agent.addLocalCandidate cand))
  | .addHostCandidate addr port => pure (run.configure (run.agent.addHostCandidate addr port))
  | .setRemoteSessionDescription desc =>
      pure (run.configure (run.agent.setRemoteSessionDescription desc))
  | .addRemoteCandidate line => pure (run.configure (run.agent.addRemoteCandidate line))
  | .setRemotePwd pwd => pure (run.configure (run.agent.setRemotePwd pwd))
  | .startChecks =>
      let (agent, result) := run.agent.startChecks
      pure ({ run with agent := agent, announced := !result.isOk && run.announced },
        .started result)
  | .tick now =>
      let (agent, checks, next) := run.agent.tickChecks crypto ids run.next now
      pure
        ({ agent := agent
           next := next
           checks := run.checks ++ checks
           announced := run.announced || announces run.agent checks },
          .requests (checks.map IceAgent.SentCheck.action))
  | .handleIncomingData data source => do
      let (agent, result) ← run.agent.handleIncomingData data source
      pure ({ run with
          agent := agent
          announced := run.announced && agent.nominatedPairIdx == run.agent.nominatedPairIdx },
        .handled result)
  | .sendData data => pure (run, .send (run.agent.sendData data))
  | .stop => pure ({ run with agent := run.agent.stop, announced := false }, .none)

end AgentRun

/-- All runs of an agent. -/
def agentSystem (crypto : Crypto) (ids : Nat -> TransactionId) (isControlling : Bool)
    (seed : AgentSeed) : TransitionSystem AgentRun AgentOp where
  initial := fun run => run = AgentRun.new isControlling seed
  step := fun before op after => exists output, before.call crypto ids op = .ok (after, output)

/-- No transaction id has been drawn twice. -/
def AgentRun.NoRepeat (ids : Nat -> TransactionId) (run : AgentRun) : Prop :=
  Set.InjOn ids (Set.Iio run.next)

namespace IceAgent

/-! ## Configuring operations -/

/-- The check list, the nomination, the role and the state: what configuring
operations leave as it is. -/
structure Progress where
  state : IceState
  role : IceRole
  checkList : List PairEntry
  nominatedPairIdx : Option Nat
  nominatedPairConfirmed : Bool

def progress (agent : IceAgent) : Progress where
  state := agent.state
  role := agent.role
  checkList := agent.checkList
  nominatedPairIdx := agent.nominatedPairIdx
  nominatedPairConfirmed := agent.nominatedPairConfirmed

/-- A configuring operation keeps the progress and the identity of the agent,
and its candidate lists only grow. -/
structure Configures (before after : IceAgent) : Prop where
  progress : after.progress = before.progress
  localUfrag : after.localUfrag = before.localUfrag
  localPwd : after.localPwd = before.localPwd
  tieBreaker : after.tieBreaker = before.tieBreaker
  localGrows : before.localCandidates.length ≤ after.localCandidates.length
  remoteGrows : before.remoteCandidates.length ≤ after.remoteCandidates.length

namespace Configures

variable {before after : IceAgent} (configures : Configures before after)

include configures

theorem state : after.state = before.state := congrArg Progress.state configures.progress

theorem checkList : after.checkList = before.checkList :=
  congrArg Progress.checkList configures.progress

theorem nominatedPairIdx : after.nominatedPairIdx = before.nominatedPairIdx :=
  congrArg Progress.nominatedPairIdx configures.progress

theorem nominatedPairConfirmed : after.nominatedPairConfirmed = before.nominatedPairConfirmed :=
  congrArg Progress.nominatedPairConfirmed configures.progress

end Configures

theorem Configures.refl (agent : IceAgent) : Configures agent agent :=
  ⟨rfl, rfl, rfl, rfl, Nat.le_refl _, Nat.le_refl _⟩

theorem Configures.trans {first second third : IceAgent} (earlier : Configures first second)
    (later : Configures second third) : Configures first third where
  progress := later.progress.trans earlier.progress
  localUfrag := later.localUfrag.trans earlier.localUfrag
  localPwd := later.localPwd.trans earlier.localPwd
  tieBreaker := later.tieBreaker.trans earlier.tieBreaker
  localGrows := earlier.localGrows.trans later.localGrows
  remoteGrows := earlier.remoteGrows.trans later.remoteGrows

theorem addLocalCandidate_configures (agent : IceAgent) (cand : IceCandidate) :
    Configures agent (agent.addLocalCandidate cand) where
  progress := rfl
  localUfrag := rfl
  localPwd := rfl
  tieBreaker := rfl
  localGrows := by
    rw [addLocalCandidate, List.length_append]
    exact Nat.le_add_right _ _
  remoteGrows := Nat.le_refl _

theorem addRemoteCand_configures (agent : IceAgent) (cand : IceCandidate) :
    Configures agent (agent.addRemoteCand cand) := by
  unfold addRemoteCand
  split_ifs
  · exact Configures.refl agent
  · refine ⟨rfl, rfl, rfl, rfl, Nat.le_refl _, ?_⟩
    rw [List.length_append]
    exact Nat.le_add_right _ _

theorem addRemoteCandidate_configures (agent : IceAgent) (line : String) :
    Configures agent (agent.addRemoteCandidate line) := by
  unfold addRemoteCandidate
  cases parseCandidateLine line with
  | none => exact Configures.refl agent
  | some cand => exact addRemoteCand_configures agent cand

theorem setRemoteSessionDescription_configures (agent : IceAgent) (desc : IceSessionDescription) :
    Configures agent (agent.setRemoteSessionDescription desc) := by
  have lines : forall (lines : List String) (agent : IceAgent),
      Configures agent (lines.foldl addRemoteCandidate agent) := by
    intro lines
    induction lines with
    | nil => exact Configures.refl
    | cons line rest ih =>
        intro agent
        exact (addRemoteCandidate_configures agent line).trans (ih _)
  have described : Configures agent { agent with
      remoteUfrag := desc.iceUfrag, remotePwd := desc.icePwd, remoteIsLite := desc.isLite } :=
    ⟨rfl, rfl, rfl, rfl, Nat.le_refl _, Nat.le_refl _⟩
  exact described.trans (lines _ _)

end IceAgent

namespace AgentRun

variable {crypto : Crypto} {ids : Nat -> TransactionId}

/-- The steps of a run: an operation configures the agent, or is one of the
five that act on the checks. -/
theorem call_cases {before after : AgentRun} {op : AgentOp} {output : AgentOutput}
    (called : before.call crypto ids op = .ok (after, output)) :
    (exists agent, IceAgent.Configures before.agent agent ∧
        after = { before with agent := agent }) ∨
    (op = .startChecks ∧ after = { before with
        agent := before.agent.startChecks.1
        announced := !before.agent.startChecks.2.isOk && before.announced }) ∨
    (exists now, op = .tick now ∧ after =
        { agent := (before.agent.tickChecks crypto ids before.next now).1
          next := (before.agent.tickChecks crypto ids before.next now).2.2
          checks := before.checks ++ (before.agent.tickChecks crypto ids before.next now).2.1
          announced := before.announced ||
            announces before.agent (before.agent.tickChecks crypto ids before.next now).2.1 }) ∨
    (exists data source agent result, op = .handleIncomingData data source ∧
        before.agent.handleIncomingData data source = .ok (agent, result) ∧
        after = { before with
          agent := agent
          announced := before.announced &&
            agent.nominatedPairIdx == before.agent.nominatedPairIdx }) ∨
    (op = .stop ∧ after = { before with agent := before.agent.stop, announced := false }) := by
  cases op with
  | addLocalCandidate cand =>
      cases called
      exact Or.inl ⟨_, IceAgent.addLocalCandidate_configures _ _, rfl⟩
  | addHostCandidate addr port =>
      cases called
      exact Or.inl ⟨_, IceAgent.addLocalCandidate_configures _ _, rfl⟩
  | setRemoteSessionDescription desc =>
      cases called
      exact Or.inl ⟨_, IceAgent.setRemoteSessionDescription_configures _ _, rfl⟩
  | addRemoteCandidate line =>
      cases called
      exact Or.inl ⟨_, IceAgent.addRemoteCandidate_configures _ _, rfl⟩
  | setRemotePwd pwd =>
      cases called
      exact Or.inl ⟨before.agent.setRemotePwd pwd,
        ⟨rfl, rfl, rfl, rfl, Nat.le_refl _, Nat.le_refl _⟩, rfl⟩
  | startChecks =>
      cases called
      exact Or.inr (Or.inl ⟨rfl, rfl⟩)
  | tick now =>
      cases called
      exact Or.inr (Or.inr (Or.inl ⟨now, rfl, rfl⟩))
  | handleIncomingData data source =>
      rcases Checked.bind_eq_ok.mp called with ⟨⟨agent, result⟩, handled, rest⟩
      cases rest
      exact Or.inr (Or.inr (Or.inr (Or.inl ⟨data, source, agent, result, rfl, handled, rfl⟩)))
  | sendData data =>
      cases called
      exact Or.inl ⟨_, IceAgent.Configures.refl _, rfl⟩
  | stop =>
      cases called
      exact Or.inr (Or.inr (Or.inr (Or.inr ⟨rfl, rfl⟩)))

/-- The invariant rule for properties of the agent alone. -/
theorem agent_invariant {isControlling : Bool} {seed : AgentSeed} {run : AgentRun}
    (holds : IceAgent -> Prop)
    (reachable : (agentSystem crypto ids isControlling seed).Reachable run)
    (initially : holds (IceAgent.new isControlling seed))
    (configure : forall before after, holds before -> IceAgent.Configures before after ->
      holds after)
    (start : forall agent, holds agent -> holds agent.startChecks.1)
    (tick : forall agent next now, holds agent -> holds (agent.tickChecks crypto ids next now).1)
    (handle : forall agent data source after result, holds agent ->
      agent.handleIncomingData data source = .ok (after, result) -> holds after)
    (stop : forall agent, holds agent -> holds agent.stop) :
    holds run.agent := by
  refine TransitionSystem.Reachable.invariant (fun run => holds run.agent) reachable ?_ ?_
  · intro run isNew
    rw [isNew]
    exact initially
  · intro before op after earlier stepped
    rcases stepped with ⟨output, called⟩
    rcases call_cases called with ⟨agent, configures, rfl⟩ | ⟨_, rfl⟩ | ⟨now, _, rfl⟩ |
      ⟨data, source, agent, result, _, handled, rfl⟩ | ⟨_, rfl⟩
    · exact configure _ _ earlier configures
    · exact start _ earlier
    · exact tick _ _ _ earlier
    · exact handle _ _ _ _ _ earlier handled
    · exact stop _ earlier

end AgentRun

namespace IceAgent

/-! ## What operations on the checks keep -/

theorem startChecks_setup (agent : IceAgent) : agent.startChecks.1.setup = agent.setup := by
  unfold startChecks
  split_ifs <;> rfl

theorem tickChecks_setup (crypto : Crypto) (ids : Nat -> TransactionId) (agent : IceAgent)
    (next now : Nat) : (agent.tickChecks crypto ids next now).1.setup = agent.setup := by
  rcases tickChecks_cases crypto ids next agent now with ⟨_, same⟩ | ⟨_, state, _, same⟩
  · rw [same]
  · rw [same]
    rfl

theorem resolveRoleConflict_setup (agent : IceAgent) (peerControlling : Option Bool) :
    (agent.resolveRoleConflict peerControlling).setup = agent.setup := by
  rw [resolveRoleConflict_eq]
  rfl

theorem markPair_setup (agent : IceAgent) (useCandidate : Bool) (source : Address) :
    (agent.markPair useCandidate source).setup = agent.setup := by
  rcases markPair_cases agent useCandidate source with
    ⟨_, same⟩ | ⟨idx, _, ⟨_, _, same⟩ | ⟨_, same⟩⟩
  · rw [same]
  · rw [same]
    rfl
  · rw [same]
    rfl

theorem acknowledgePair_setup (agent : IceAgent) {idx : Nat} {pair : PairEntry}
    (found : agent.checkList[idx]? = some pair) :
    (agent.acknowledgePair idx).setup = agent.setup := by
  rcases acknowledgePair_cases agent found with
    ⟨_, same⟩ | ⟨_, _, _, same⟩ | ⟨_, _, _, best, chosen, _, _, same⟩
  · rw [same]
    rfl
  · rw [same]
    rfl
  · rw [same]
    rfl

/-- A datagram leaves credentials, candidates and the description as they are. -/
theorem handleIncomingData_setup {agent after : IceAgent} {data : Bytes} {source : Address}
    {result : HandleDataResult}
    (handled : agent.handleIncomingData data source = .ok (after, result)) :
    after.setup = agent.setup := by
  refine handleIncomingData_preserves (fun other => other.setup = agent.setup) handled rfl
    ?_ ?_ ?_ ?_ ?_
  · intro other peer same
    rw [resolveRoleConflict_setup, same]
  · intro other useCandidate source same
    rw [markPair_setup, same]
  · intro other same
    rw [noteContact_eq]
    exact same
  · intro other same
    exact same
  · intro other idx pair same found
    rw [acknowledgePair_setup other found, same]

end IceAgent

namespace AgentRun

/-- The agent of a run keeps the identity it was constructed with. -/
theorem identity_of_reachable {crypto : Crypto} {ids : Nat -> TransactionId} {isControlling : Bool}
    {seed : AgentSeed} {run : AgentRun}
    (reachable : (agentSystem crypto ids isControlling seed).Reachable run) :
    run.agent.localUfrag = hexText seed.ufrag ∧ run.agent.localPwd = hexText seed.pwd ∧
      run.agent.tieBreaker = seed.tieBreaker := by
  refine agent_invariant (fun agent => agent.localUfrag = hexText seed.ufrag ∧
    agent.localPwd = hexText seed.pwd ∧ agent.tieBreaker = seed.tieBreaker) reachable
    ⟨rfl, rfl, rfl⟩ ?_ ?_ ?_ ?_ ?_
  · intro before after earlier configures
    rw [configures.localUfrag, configures.localPwd, configures.tieBreaker]
    exact earlier
  · intro agent earlier
    have same := IceAgent.startChecks_setup agent
    simp only [IceAgent.setup, IceAgent.Setup.mk.injEq] at same
    rw [same.1, same.2.1, same.2.2.1]
    exact earlier
  · intro agent next now earlier
    have same := IceAgent.tickChecks_setup crypto ids agent next now
    simp only [IceAgent.setup, IceAgent.Setup.mk.injEq] at same
    rw [same.1, same.2.1, same.2.2.1]
    exact earlier
  · intro agent data source after result earlier handled
    have same := IceAgent.handleIncomingData_setup handled
    simp only [IceAgent.setup, IceAgent.Setup.mk.injEq] at same
    rw [same.1, same.2.1, same.2.2.1]
    exact earlier
  · intro agent earlier
    exact earlier

end AgentRun

/-! ## Concrete runs -/

/-- Perform a sequence of operations, each allowed where it is performed; the
outputs are dropped. -/
def AgentRun.calls (crypto : Crypto) (ids : Nat -> TransactionId)
    (allowed : AgentRun -> AgentOp -> Bool) : AgentRun -> List AgentOp -> Option AgentRun :=
  TransitionSystem.perform (fun run op => (run.call crypto ids op).toOption.map Prod.fst) allowed

section Concrete

variable {crypto : Crypto} {ids : Nat -> TransactionId} {isControlling : Bool} {seed : AgentSeed}
  {allowed : AgentRun -> AgentOp -> Bool} (condition : AgentRun -> AgentOp -> Prop)

theorem AgentRun.step_of_calls {before after : AgentRun} {op : AgentOp}
    (called : (before.call crypto ids op).toOption.map Prod.fst = some after) :
    (agentSystem crypto ids isControlling seed).step before op after := by
  cases stepped : before.call crypto ids op with
  | error panic =>
      rw [stepped] at called
      cases called
  | ok result =>
      rw [stepped] at called
      cases called
      exact ⟨result.2, stepped⟩

/-- A run given by its operations, and a test of the state it ends in. -/
theorem AgentRun.exists_run (meets : forall run op, allowed run op = true -> condition run op)
    {ops : List AgentOp} {test : AgentRun -> Bool}
    (ends : ((new isControlling seed).calls crypto ids allowed ops).any test = true) :
    exists run, ((agentSystem crypto ids isControlling seed).restrict condition).Reachable run ∧
      test run = true := by
  apply TransitionSystem.exists_reachable condition _ meets rfl ends
  intro before op after called
  exact step_of_calls called

/-- A run given by its operations, one more operation, and a test of the
states before and after it. -/
theorem AgentRun.exists_step (meets : forall run op, allowed run op = true -> condition run op)
    {ops : List AgentOp} {op : AgentOp} {test : AgentRun -> AgentRun -> Bool}
    (ends : ((new isControlling seed).calls crypto ids allowed ops).any (fun before =>
      (before.calls crypto ids allowed [op]).any (test before)) = true) :
    exists before after,
      ((agentSystem crypto ids isControlling seed).restrict condition).ReachableStep
        before op after ∧ test before after = true := by
  rcases exists_run condition meets ends with ⟨before, reachable, last⟩
  rcases (Option.any_eq_true _ _).mp last with ⟨after, called, passes⟩
  refine ⟨before, after, ⟨reachable, ?_⟩, passes⟩
  unfold calls TransitionSystem.perform at called
  cases permitted : allowed before op with
  | false =>
      rw [permitted] at called
      cases called
  | true =>
      cases stepped : (before.call crypto ids op).toOption.map Prod.fst with
      | none =>
          simp only [permitted, stepped, if_pos] at called
          cases called
      | some next =>
          simp only [permitted, stepped, if_pos] at called
          cases called
          exact ⟨meets before op permitted, step_of_calls stepped⟩

end Concrete

/-- Transaction ids that count up. -/
def countingIds (k : Nat) : TransactionId := ⟨beBytes 12 k, beBytes_length 12 k⟩

theorem countingIds_injOn {bound : Nat} (small : bound ≤ 256 ^ 12) :
    Set.InjOn countingIds (Set.Iio bound) := by
  intro first isFirst second isSecond same
  have bytes := congrArg (fun id => beNat id.bytes) same
  simp only [countingIds, beNat_beBytes] at bytes
  rwa [Nat.mod_eq_of_lt (lt_of_lt_of_le isFirst small),
    Nat.mod_eq_of_lt (lt_of_lt_of_le isSecond small)] at bytes

/-- Hash functions that return zeros. -/
def zeroCrypto : Crypto where
  hmacSha1 := fun _ _ => zeros 20
  hmacSha1_length := fun _ _ => zeros_length 20
  crc32 := fun _ => 0

/-- A seed whose bytes are all equal. -/
def uniformSeed (byte : UInt8) (tieBreaker : UInt64) : AgentSeed where
  ufrag := List.replicate 4 byte
  pwd := List.replicate 16 byte
  tieBreaker := tieBreaker
  ufrag_length := List.length_replicate
  pwd_length := List.length_replicate

/-- Set up an agent at `10.0.0.1:5000` against a peer at `10.0.0.2:6000`. -/
def setupCalls : List AgentOp :=
  [.addHostCandidate "10.0.0.1" 5000,
    .setRemoteSessionDescription
      { iceUfrag := "peer", icePwd := "secret", isLite := false,
        candidates := ["candidate:1 1 UDP 2113929471 10.0.0.2 6000 typ host"] },
    .startChecks]

/-- The address of the peer of `setupCalls`. -/
def peerAddress : Address := ⟨"10.0.0.2", 6000⟩

/-- A Binding request without attributes. -/
def bareRequest : Bytes := stunHeader STUN_BINDING_REQUEST 0 (countingIds 0).bytes

/-- A success response under the transaction id `k`. -/
def responseTo (k : Nat) : Bytes := stunHeader STUN_BINDING_SUCCESS 0 (countingIds k).bytes

end P2pSdk
