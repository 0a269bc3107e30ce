import P2pSdk.Ice.Nomination

namespace P2pSdk

open Foundation

/-!
# Two agents and the network between them

Each agent holds the other's session description and has started its checks
once.  From there a run is any sequence of ticks, of deliveries of datagrams
in flight, and of duplications and losses.  Every datagram was returned by
`tick` or `handle_incoming_data`: nothing is forged.

The bytes of a datagram travel with the message its sender meant by them.  The
code does not see this label; `Grounded` shows that the receiver parses
exactly the message from the bytes.  From then on the two agents exchange
messages: every step of a reachable session is a `Move`, which names the
message and no bytes.
-/

/-! ## Parties and datagrams -/

inductive Side where
  | a
  | b
  deriving DecidableEq, Repr

def Side.other : Side -> Side
  | .a => .b
  | .b => .a

@[simp] theorem Side.other_other (side : Side) : side.other.other = side := by
  cases side <;> rfl

theorem Side.other_ne (side : Side) : side.other ≠ side := by
  cases side <;> decide

theorem Side.eq_other {side one : Side} (different : one ≠ side) : one = side.other := by
  cases one <;> cases side <;> first | rfl | exact absurd rfl different

/-- What one side brings along: its configuration, its random draws, and the
candidates it gathered. -/
structure Party where
  isControlling : Bool
  seed : AgentSeed
  candidates : List IceCandidate

/-- The agent of a party before it knows its peer. -/
def Party.gathered (party : Party) : IceAgent :=
  party.candidates.foldl IceAgent.addLocalCandidate (IceAgent.new party.isControlling party.seed)

/-- A message, as its sender means it. -/
inductive Message where
  | request (controlling useCandidate : Bool) (id : TransactionId)
  | response (id : TransactionId)
  deriving DecidableEq

def Message.id : Message -> TransactionId
  | .request _ _ id => id
  | .response id => id

structure Datagram where
  sender : Side
  message : Message
  data : Bytes
  target : Address

/-- The request that `tick` returned. -/
def checkDatagram (side : Side) (check : IceAgent.SentCheck) : Datagram where
  sender := side
  message := .request check.controlling check.useCandidate check.transactionId
  data := check.action.data
  target := check.action.target

/-- A datagram that the receiver of `datagram` returned for it. -/
def answerDatagram (datagram : Datagram) (action : IceAction) : Datagram where
  sender := datagram.sender.other
  message := .response datagram.message.id
  data := action.data
  target := action.target

/-! ## Sessions -/

/-- The parameters of a session.  Both sides draw transaction ids from one stream. -/
structure Setting where
  crypto : Crypto
  ids : Nat -> TransactionId
  party : Side -> Party

/-- The agent of a side that knows its peer's description. -/
def Setting.described (setting : Setting) (side : Side) : IceAgent :=
  (setting.party side).gathered.setRemoteSessionDescription
    (setting.party side.other).gathered.localSessionDescription

structure Session where
  agent : Side -> IceAgent
  /-- The time of each agent's last tick. -/
  clock : Side -> Nat
  /-- Transaction ids drawn so far. -/
  drawn : Nat
  flight : List Datagram
  /-- The roles under which the requests that a side processed were sent. -/
  heard : Side -> List IceRole

/-- Both agents have started their checks; nothing has been sent. -/
def Setting.started (setting : Setting) : Session where
  agent := fun side => (setting.described side).startChecks.1
  clock := fun _ => 0
  drawn := 0
  flight := []
  heard := fun _ => []

inductive NetworkEvent where
  | tick (side : Side) (now : Nat)
  /-- The datagram at an index of the flight arrives from a source address. -/
  | deliver (index : Nat) (source : Address)
  | duplicate (index : Nat)
  | lose (index : Nat)
  deriving DecidableEq, Repr

namespace Session

/-- Replace the agent of one side. -/
def withAgent (session : Session) (side : Side) (agent : IceAgent) : Session :=
  { session with agent := Function.update session.agent side agent }

@[simp] theorem withAgent_self (session : Session) (side : Side) (agent : IceAgent) :
    (session.withAgent side agent).agent side = agent := by
  dsimp only [withAgent]
  rw [Function.update_self]

theorem withAgent_of_ne (session : Session) {side other : Side} (agent : IceAgent)
    (different : other ≠ side) :
    (session.withAgent side agent).agent other = session.agent other := by
  dsimp only [withAgent]
  rw [Function.update_of_ne different]

/-- The role that a request was sent in is noted when it is processed. -/
def noteHeard (session : Session) (side : Side) : Message -> Session
  | .request controlling _ _ =>
      { session with
        heard := Function.update session.heard side
          ((if controlling then .controlling else .controlled) :: session.heard side) }
  | .response _ => session

/-- A datagram is taken out of the flight by its receiver, whose answers go in. -/
def received (session : Session) (index : Nat) (datagram : Datagram) (agent : IceAgent)
    (answers : List Datagram) : Session :=
  { (session.withAgent datagram.sender.other agent).noteHeard datagram.sender.other
      datagram.message with
    flight := session.flight.eraseIdx index ++ answers }

/-- One agent ticks: its requests are in flight. -/
def tickAt (setting : Setting) (session : Session) (side : Side) (now : Nat) : Session :=
  let round := (session.agent side).tickChecks setting.crypto setting.ids session.drawn now
  { session.withAgent side round.1 with
    clock := Function.update session.clock side now
    drawn := round.2.2
    flight := session.flight ++ round.2.1.map (checkDatagram side) }

/-- One event.  A delivery takes the datagram out of the flight and puts the
answers of the receiver in. -/
def apply (setting : Setting) (session : Session) : NetworkEvent -> Option Session
  | .tick side now => some (session.tickAt setting side now)
  | .deliver index source =>
      match session.flight[index]? with
      | none => none
      | some datagram =>
          match (session.agent datagram.sender.other).handleIncomingData datagram.data source with
          | .error _ => none
          | .ok (agent, result) =>
              some (session.received index datagram agent
                (result.actions.map (answerDatagram datagram)))
  | .duplicate index =>
      session.flight[index]?.map fun datagram =>
        { session with flight := session.flight ++ [datagram] }
  | .lose index =>
      session.flight[index]?.map fun _ =>
        { session with flight := session.flight.eraseIdx index }

section Projections

variable (session : Session) (setting : Setting) (index : Nat) (datagram : Datagram)
  (agent : IceAgent) (answers : List Datagram) (side : Side) (now : Nat)

@[simp] theorem noteHeard_agent (message : Message) :
    (session.noteHeard side message).agent = session.agent := by
  cases message <;> rfl

@[simp] theorem noteHeard_drawn (message : Message) :
    (session.noteHeard side message).drawn = session.drawn := by
  cases message <;> rfl

@[simp] theorem received_receiver :
    (session.received index datagram agent answers).agent datagram.sender.other = agent := by
  simp [received]

@[simp] theorem received_sender :
    (session.received index datagram agent answers).agent datagram.sender =
      session.agent datagram.sender := by
  simp [received, withAgent_of_ne _ _ (Side.other_ne datagram.sender).symm]

@[simp] theorem received_flight :
    (session.received index datagram agent answers).flight =
      session.flight.eraseIdx index ++ answers := rfl

@[simp] theorem received_drawn :
    (session.received index datagram agent answers).drawn = session.drawn := by
  simp [received, withAgent]

@[simp] theorem tickAt_self :
    (session.tickAt setting side now).agent side =
      ((session.agent side).tickChecks setting.crypto setting.ids session.drawn now).1 := by
  simp [tickAt]

@[simp] theorem tickAt_other :
    (session.tickAt setting side now).agent side.other = session.agent side.other := by
  simp [tickAt, withAgent_of_ne _ _ (Side.other_ne side)]

@[simp] theorem tickAt_drawn :
    (session.tickAt setting side now).drawn =
      ((session.agent side).tickChecks setting.crypto setting.ids session.drawn now).2.2 := rfl

end Projections

end Session

/-- All sessions of two parties whose checks have started. -/
def sessionSystem (setting : Setting) : TransitionSystem Session NetworkEvent where
  initial := fun session => session = setting.started ∧
    forall side, (setting.described side).startChecks.2 = .ok ()
  step := fun before event after => before.apply setting event = some after

/-! ## Concrete sessions -/

/-- Perform a sequence of events, each allowed where it happens. -/
def Session.events (setting : Setting) (allowed : Session -> NetworkEvent -> Bool) :
    Session -> List NetworkEvent -> Option Session :=
  TransitionSystem.perform (fun session event => session.apply setting event) allowed

section Concrete

variable {setting : Setting} {allowed : Session -> NetworkEvent -> Bool}
  (condition : Session -> NetworkEvent -> Prop)

/-- A session given by its events, and a test of the state it ends in. -/
theorem Session.exists_session
    (meets : forall session event, allowed session event = true -> condition session event)
    {events : List NetworkEvent} {test : Session -> Bool}
    (starts : (setting.described .a).startChecks.2.isOk = true ∧
      (setting.described .b).startChecks.2.isOk = true)
    (ends : (setting.started.events setting allowed events).any test = true) :
    exists session, ((sessionSystem setting).restrict condition).Reachable session ∧
      test session = true := by
  have started : forall side, (setting.described side).startChecks.2 = .ok () := by
    intro side
    have isOk : (setting.described side).startChecks.2.isOk = true := by
      cases side with
      | a => exact starts.1
      | b => exact starts.2
    cases result : (setting.described side).startChecks.2 with
    | ok value => rfl
    | error message =>
        rw [result] at isOk
        cases isOk
  refine TransitionSystem.exists_reachable condition ?_ meets ?_ ends
  · intro before event after stepped
    exact stepped
  · exact ⟨rfl, started⟩

end Concrete

def addressA : Address := ⟨"10.0.0.1", 5000⟩

def addressB : Address := ⟨"10.0.0.2", 6000⟩

/-- Two parties with given roles and candidates. -/
def concreteSetting (aControls bControls : Bool) (aCandidates bCandidates : List IceCandidate) :
    Setting where
  crypto := zeroCrypto
  ids := countingIds
  party := fun side =>
    match side with
    | .a => ⟨aControls, uniformSeed 0x0A 1, aCandidates⟩
    | .b => ⟨bControls, uniformSeed 0x0B 2, bCandidates⟩

/-! ## Descriptions -/

namespace IceAgent

theorem addRemoteCand_description (agent : IceAgent) (cand : IceCandidate) :
    (agent.addRemoteCand cand).remoteUfrag = agent.remoteUfrag := by
  unfold addRemoteCand
  split_ifs <;> rfl

theorem addRemoteCandidate_description (agent : IceAgent) (line : String) :
    (agent.addRemoteCandidate line).remoteUfrag = agent.remoteUfrag := by
  unfold addRemoteCandidate
  cases parseCandidateLine line with
  | none => rfl
  | some cand => exact addRemoteCand_description agent cand

theorem setRemoteSessionDescription_remoteUfrag (agent : IceAgent)
    (desc : IceSessionDescription) :
    (agent.setRemoteSessionDescription desc).remoteUfrag = desc.iceUfrag := by
  have lines : forall (lines : List String) (agent : IceAgent),
      (lines.foldl addRemoteCandidate agent).remoteUfrag = agent.remoteUfrag := by
    intro lines
    induction lines with
    | nil =>
        intro agent
        rfl
    | cons line rest ih =>
        intro agent
        rw [List.foldl_cons, ih, addRemoteCandidate_description]
  exact lines _ _

end IceAgent

theorem Party.gathered_configures (party : Party) :
    IceAgent.Configures (IceAgent.new party.isControlling party.seed) party.gathered := by
  have candidates : forall (candidates : List IceCandidate) (agent : IceAgent),
      IceAgent.Configures agent (candidates.foldl IceAgent.addLocalCandidate agent) := by
    intro candidates
    induction candidates with
    | nil => exact IceAgent.Configures.refl
    | cons cand rest ih =>
        intro agent
        exact (IceAgent.addLocalCandidate_configures agent cand).trans (ih _)
  exact candidates _ _

theorem Setting.described_configures (setting : Setting) (side : Side) :
    IceAgent.Configures
      (IceAgent.new (setting.party side).isControlling (setting.party side).seed)
      (setting.described side) :=
  (setting.party side).gathered_configures.trans
    (IceAgent.setRemoteSessionDescription_configures _ _)

/-- The fragment by which a side is known. -/
def Setting.ufrag (setting : Setting) (side : Side) : String :=
  hexText (setting.party side).seed.ufrag

theorem Setting.described_ufrags (setting : Setting) (side : Side) :
    (setting.described side).localUfrag = setting.ufrag side ∧
      (setting.described side).remoteUfrag = setting.ufrag side.other := by
  constructor
  · exact (setting.described_configures side).localUfrag
  · unfold Setting.described
    rw [IceAgent.setRemoteSessionDescription_remoteUfrag]
    exact (setting.party side.other).gathered_configures.localUfrag

/-- The username of the requests of a side. -/
def Setting.username (setting : Setting) (side : Side) : String :=
  setting.ufrag side.other ++ ":" ++ setting.ufrag side

/-! ## The start -/

/-- Starting the checks keeps the role and the nomination. -/
theorem IceAgent.startChecks_kept (agent : IceAgent) :
    agent.startChecks.1.role = agent.role ∧
      agent.startChecks.1.nominatedPairIdx = agent.nominatedPairIdx ∧
      agent.startChecks.1.nominatedPairConfirmed = agent.nominatedPairConfirmed := by
  unfold IceAgent.startChecks
  split_ifs
  · exact ⟨rfl, rfl, rfl⟩
  · exact ⟨rfl, rfl, rfl⟩
  · exact ⟨rfl, rfl, rfl⟩

theorem Setting.described_progress (setting : Setting) (side : Side) :
    (setting.described side).progress =
      (IceAgent.new (setting.party side).isControlling (setting.party side).seed).progress :=
  (setting.described_configures side).progress

theorem Setting.started_role (setting : Setting) (side : Side) :
    (setting.started.agent side).role =
      if (setting.party side).isControlling then .controlling else .controlled := by
  have same := congrArg IceAgent.Progress.role (setting.described_progress side)
  exact (IceAgent.startChecks_kept _).1.trans same

theorem Setting.started_nominatedPairIdx (setting : Setting) (side : Side) :
    (setting.started.agent side).nominatedPairIdx = none := by
  have same := congrArg IceAgent.Progress.nominatedPairIdx (setting.described_progress side)
  exact (IceAgent.startChecks_kept _).2.1.trans same

theorem Setting.started_nominatedPairConfirmed (setting : Setting) (side : Side) :
    (setting.started.agent side).nominatedPairConfirmed = false := by
  have same := congrArg IceAgent.Progress.nominatedPairConfirmed (setting.described_progress side)
  exact (IceAgent.startChecks_kept _).2.2.trans same

/-- No pair has been checked at the start. -/
theorem Setting.started_pairs (setting : Setting) (side : Side) {pair : PairEntry}
    (member : pair ∈ (setting.started.agent side).checkList) :
    exists role localCand remoteCand, pair = IceAgent.freshPair role localCand remoteCand := by
  change pair ∈ (setting.described side).startChecks.1.checkList at member
  by_cases started : (setting.described side).startChecks.2 = .ok ()
  · rcases IceAgent.startChecks_ok started with ⟨_, _, _, same⟩
    rw [same] at member
    rcases IceAgent.mem_allPairs ((List.mem_insertionSort _).mp member) with
      ⟨localCand, remoteCand, _, _, isPair⟩
    exact ⟨_, localCand, remoteCand, isPair⟩
  · have empty := congrArg IceAgent.Progress.checkList (setting.described_progress side)
    rw [IceAgent.startChecks_error started] at member
    change pair ∈ (setting.described side).progress.checkList at member
    rw [empty] at member
    cases member

end P2pSdk
