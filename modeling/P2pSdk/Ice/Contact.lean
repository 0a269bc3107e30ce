import P2pSdk.Ice.AgentHistory

namespace P2pSdk

open Foundation

/-!
# What CONNECTED says

The API document calls an agent CONNECTED once a first candidate pair has
succeeded.  A success response looks for its pair before it changes the state.
A request does not: whoever sends an acceptable Binding request makes an agent
CONNECTED that is new or still checking, from any address and before any
check was started.  Such a request from an address that no pair has is stray
contact.  Without stray contact the document is right.
-/

namespace IceAgent

/-- A datagram marks a pair as succeeded. -/
def marksPair (agent : IceAgent) (data : Bytes) (source : Address) : Bool :=
  match agent.reaction data with
  | .accepted _ => (agent.pairOfRemote source).isSome
  | .acknowledged _ => true
  | _ => false

/-- An answered request reaches an agent that is not yet connected from an
address that no pair has as its remote address. -/
def strayContact (agent : IceAgent) : AgentOp -> Bool
  | .handleIncomingData data source =>
      match agent.reaction data with
      | .accepted _ => (agent.pairOfRemote source).isNone ∧
          (agent.state = .new ∨ agent.state = .gathering ∨ agent.state = .connecting)
      | _ => false
  | _ => false

end IceAgent

/-- What is remembered of a run: whether the last call of `start_checks`
succeeded, and whether a pair was marked as succeeded since then. -/
structure ContactMemory where
  started : Bool
  succeeded : Bool

def contactRecorder : AgentRecorder ContactMemory where
  start := ⟨false, false⟩
  onStart := fun agent _ => ⟨agent.startChecks.2.isOk, false⟩
  onTick := fun _ _ memory => memory
  onData := fun agent data source _ memory =>
    { memory with succeeded := memory.succeeded || agent.marksPair data source }
  onStop := fun memory => memory

/-- The step is no stray contact. -/
def NoStrayContact (before : AgentRun) (op : AgentOp) : Prop :=
  before.agent.strayContact op = false

instance (before : AgentRun) (op : AgentOp) : Decidable (NoStrayContact before op) :=
  inferInstanceAs (Decidable (_ = false))

namespace IceAgent

/-- What the states before COMPLETED say about the run.  A new agent has no
pairs, and no agent is ever GATHERING. -/
structure ContactSound (agent : IceAgent) (memory : ContactMemory) : Prop where
  fresh : agent.state = .new -> agent.checkList = []
  notGathering : agent.state ≠ .gathering
  connecting : agent.state = .connecting -> memory.started = true
  connected : agent.state = .connected -> memory.started = true ∧ memory.succeeded = true

namespace ContactSound

variable {agent : IceAgent} {memory : ContactMemory}

/-- An agent that is past CONNECTED satisfies the invariant. -/
theorem of_later (isLater : agent.state = .completed ∨ agent.state = .failed ∨
    agent.state = .closed) : agent.ContactSound memory := by
  refine ⟨?_, ?_, ?_, ?_⟩ <;> rcases isLater with same | same | same <;> simp [same]

/-- The invariant looks at the state and at whether there are pairs. -/
theorem of_same (sound : agent.ContactSound memory) {after : IceAgent}
    (state : after.state = agent.state) (empty : agent.checkList = [] -> after.checkList = []) :
    after.ContactSound memory where
  fresh := fun isNew => empty (sound.fresh (state.symm.trans isNew))
  notGathering := fun isGathering => sound.notGathering (state.symm.trans isGathering)
  connecting := fun isConnecting => sound.connecting (state.symm.trans isConnecting)
  connected := fun isConnected => sound.connected (state.symm.trans isConnected)

theorem startChecks (agent : IceAgent) :
    agent.startChecks.1.ContactSound ⟨agent.startChecks.2.isOk, false⟩ := by
  by_cases started : agent.startChecks.2 = .ok ()
  · rw [started, (startChecks_ok started).2.2.2]
    exact ⟨fun other => (by cases other), fun other => (by cases other), fun _ => rfl,
      fun other => (by cases other)⟩
  · rw [startChecks_error started]
    exact of_later (Or.inr (Or.inl rfl))

theorem tickChecks (crypto : Crypto) (ids : Nat -> TransactionId)
    (sound : agent.ContactSound memory) (next now : Nat) :
    (agent.tickChecks crypto ids next now).1.ContactSound memory := by
  rcases tickChecks_cases crypto ids next agent now with ⟨_, same⟩ | ⟨_, state, isState, same⟩
  · rw [same]
    exact sound
  · rw [same]
    rcases isState with rfl | rfl
    · refine sound.of_same rfl ?_
      intro empty
      dsimp only
      rw [empty]
      rfl
    · exact of_later (Or.inr (Or.inl rfl))

/-- A pair was marked and the state moved on: what is left to see is that an
agent which is CONNECTED now was started. -/
theorem marked (sound : agent.ContactSound memory) (isPair : agent.checkList ≠ [])
    {after : IceAgent} (state : after.state = .completed ∨ after.state = acknowledged agent.state)
    (remembered : memory.succeeded = true) : after.ContactSound memory := by
  rcases state with state | state
  · exact of_later (Or.inl state)
  · have notNew : agent.state ≠ .new := fun isNew => isPair (sound.fresh isNew)
    unfold acknowledged at state
    by_cases isConnecting : agent.state = .connecting
    · rw [if_pos isConnecting] at state
      exact ⟨fun other => (by cases state.symm.trans other),
        fun other => (by cases state.symm.trans other),
        fun other => (by cases state.symm.trans other),
        fun _ => ⟨sound.connecting isConnecting, remembered⟩⟩
    · rw [if_neg isConnecting] at state
      refine sound.of_same state ?_
      intro empty
      exact absurd empty isPair

theorem remember (sound : agent.ContactSound memory) (succeeded : Bool) :
    agent.ContactSound { memory with succeeded := memory.succeeded || succeeded } where
  fresh := sound.fresh
  notGathering := sound.notGathering
  connecting := sound.connecting
  connected := by
    intro isConnected
    exact ⟨(sound.connected isConnected).1, Bool.or_eq_true_iff.mpr
      (Or.inl (sound.connected isConnected).2)⟩

theorem resolveRoleConflict (sound : agent.ContactSound memory) (peerControlling : Option Bool) :
    (agent.resolveRoleConflict peerControlling).ContactSound memory := by
  rw [resolveRoleConflict_eq]
  exact sound.of_same rfl id

/-- Away from the start the two ways of being CONNECTED agree. -/
theorem contacted_eq (sound : agent.ContactSound memory) (notNew : agent.state ≠ .new) :
    contacted agent.state = acknowledged agent.state := by
  unfold contacted acknowledged
  simp [notNew, sound.notGathering]

/-- An accepted request that is no stray contact. -/
theorem accept (sound : agent.ContactSound memory) {parsed : ParsedStunMessage} {source : Address}
    (noStray : ¬ (agent.pairOfRemote source = none ∧
      (agent.state = .new ∨ agent.state = .gathering ∨ agent.state = .connecting))) :
    (agent.acceptRequest parsed source).ContactSound
      { memory with succeeded := memory.succeeded || (agent.pairOfRemote source).isSome } := by
  have resolved := sound.resolveRoleConflict parsed.controlling
  have search : (agent.resolveRoleConflict parsed.controlling).pairOfRemote source =
      agent.pairOfRemote source := by
    rw [resolveRoleConflict_eq]
    rfl
  have state : (agent.resolveRoleConflict parsed.controlling).state = agent.state := by
    rw [resolveRoleConflict_eq]
  unfold acceptRequest
  rw [noteContact_eq]
  rcases markPair_cases (agent.resolveRoleConflict parsed.controlling) parsed.useCandidate source
    with ⟨noPair, same⟩ | ⟨idx, isPair, cases⟩
  · rw [search] at noPair
    have notEarly := fun early => noStray ⟨noPair, early⟩
    refine (resolved.remember _).of_same ?_ ?_
    · dsimp only
      rw [same, state, contacted, if_neg notEarly]
    · intro empty
      rw [same]
      exact empty
  · have nonempty : (agent.resolveRoleConflict parsed.controlling).checkList ≠ [] := by
      intro empty
      rcases pairOfRemote_some isPair with ⟨pair, found, _⟩
      rw [empty] at found
      cases found
    have notNew : (agent.resolveRoleConflict parsed.controlling).state ≠ .new :=
      fun isNew => nonempty (resolved.fresh isNew)
    have remembered : (memory.succeeded || (agent.pairOfRemote source).isSome) = true := by
      rw [← search, isPair]
      exact Bool.or_true _
    refine (resolved.remember _).marked nonempty ?_ remembered
    dsimp only
    rcases cases with ⟨_, _, same⟩ | ⟨_, same⟩
    · rw [same]
      dsimp only
      split_ifs
      · exact Or.inr (resolved.contacted_eq notNew)
      · exact Or.inl rfl
    · rw [same]
      exact Or.inr (resolved.contacted_eq notNew)

theorem acknowledge (sound : agent.ContactSound memory) {idx : Nat} {pair : PairEntry}
    (found : agent.checkList[idx]? = some pair) :
    (agent.acknowledgePair idx).ContactSound
      { memory with succeeded := memory.succeeded || true } := by
  have nonempty : agent.checkList ≠ [] := by
    intro empty
    rw [empty] at found
    cases found
  refine (sound.remember true).marked nonempty ?_ (Bool.or_true _)
  rcases acknowledgePair_cases agent found with
    ⟨_, same⟩ | ⟨_, _, _, same⟩ | ⟨_, _, _, best, chosen, _, _, same⟩
  · rw [same]
    exact Or.inr rfl
  · rw [same]
    exact Or.inl rfl
  · rw [same]
    exact Or.inr rfl

/-- Every datagram that is no stray contact. -/
theorem react (sound : agent.ContactSound memory) {data : Bytes} {source : Address}
    (noStray : agent.strayContact (.handleIncomingData data source) = false) :
    (agent.react source (agent.reaction data)).ContactSound
      { memory with succeeded := memory.succeeded || agent.marksPair data source } := by
  unfold strayContact at noStray
  unfold marksPair
  dsimp only at noStray
  cases reacts : agent.reaction data with
  | ignored => exact sound.remember false
  | unanswered parsed => exact (sound.resolveRoleConflict parsed.controlling).remember false
  | accepted parsed =>
      rw [reacts] at noStray
      refine sound.accept ?_
      rintro ⟨noPair, early⟩
      simp [noPair, early] at noStray
  | conflict =>
      refine (sound.remember false).of_same rfl ?_
      intro empty
      simp [IceAgent.react, handleRoleConflict_eq, empty]
  | acknowledged idx =>
      rcases reaction_acknowledged reacts with ⟨parsed, _, _, isIdx⟩
      rcases pairOfTransaction_some isIdx with ⟨pair, found, _⟩
      exact sound.acknowledge found

end ContactSound

end IceAgent

namespace AgentRun

variable {crypto : Crypto} {ids : Nat -> TransactionId} {isControlling : Bool} {seed : AgentSeed}

/-- In a run without stray contact, a CONNECTED agent was started by the last
call of `start_checks`, and one of its pairs has succeeded since. -/
theorem connected_of_reachable {run : AgentRun × ContactMemory}
    (reachable : (((agentSystem crypto ids isControlling seed).restrict NoStrayContact).remember
      contactRecorder.recorder).Reachable run)
    (isConnected : run.1.agent.state = .connected) :
    run.2.started = true ∧ run.2.succeeded = true := by
  have sound : run.1.agent.ContactSound run.2 := by
    refine remembered_invariant (fun run memory => run.agent.ContactSound memory) reachable
      ?_ ?_ ?_ ?_ ?_ ?_
    · exact ⟨fun _ => rfl, fun other => (by cases other), fun other => (by cases other),
        fun other => (by cases other)⟩
    · intro before memory agent sound configures
      refine sound.of_same configures.state ?_
      intro empty
      exact configures.checkList.trans empty
    · intro before memory announced _
      exact IceAgent.ContactSound.startChecks before.agent
    · intro before memory now announced _ sound
      exact sound.tickChecks crypto ids before.next now
    · intro before memory data source agent result announced _ sound noStray handled
      rw [IceAgent.handleIncomingData_reacts handled]
      exact sound.react noStray
    · intro before memory announced _
      exact IceAgent.ContactSound.of_later (Or.inr (Or.inr rfl))
  exact sound.connected isConnected

/-- The agent of a session whose first check was answered. -/
theorem connected_after_answer :
    exists run : AgentRun × ContactMemory, run.1.agent.state = .connected ∧
      run.2.started = true ∧ run.2.succeeded = true := by
  have ends : ((new true (uniformSeed 0 0)).calls zeroCrypto countingIds
      (fun before op => decide (NoStrayContact before op))
      (setupCalls ++ [.tick 500, .handleIncomingData (responseTo 0) peerAddress])).any
      (fun run => run.agent.state = .connected) = true := by
    decide +kernel
  rcases exists_run NoStrayContact (fun _ _ => of_decide_eq_true) ends with ⟨run, reachable, test⟩
  rcases reachable.remembered contactRecorder.recorder with ⟨memory, remembered⟩
  exact ⟨(run, memory), of_decide_eq_true test,
    connected_of_reachable remembered (of_decide_eq_true test)⟩

/-- A Binding request without attributes, from anywhere, connects a new agent. -/
theorem connected_by_stranger :
    ¬ forall (crypto : Crypto) (ids : Nat -> TransactionId) (isControlling : Bool)
      (seed : AgentSeed) (run : AgentRun × ContactMemory),
      ((agentSystem crypto ids isControlling seed).remember contactRecorder.recorder).Reachable
        run -> run.1.agent.state = .connected ->
      run.2.started = true ∧ run.2.succeeded = true := by
  intro claim
  have ends : (remembers contactRecorder zeroCrypto countingIds (fun _ _ => true)
      (new true (uniformSeed 0 0), contactRecorder.start)
      [.handleIncomingData bareRequest peerAddress]).any
      (fun run => run.1.agent.state = .connected ∧ run.2.started = false) = true := by
    decide +kernel
  rcases exists_remembered (fun _ _ => True) (fun _ _ _ => trivial) ends with
    ⟨run, reachable, test⟩
  rcases of_decide_eq_true test with ⟨isConnected, notStarted⟩
  have started := (claim _ _ _ _ run reachable.of_restrict_remember isConnected).1
  rw [notStarted] at started
  cases started

end AgentRun

end P2pSdk
