import P2pSdk.Session.TwoAgents

namespace P2pSdk
namespace Connector

open Foundation

/-!
# Offers and answers through the connector (`client_napi.rs`)

Two endpoints exchange `iceOffer` and `iceAnswer` messages.  A call to
`initiate_ice` runs in a thread of its own, the messages of the peer are handled
one after the other by the connector thread, and both work on the one agent of
their endpoint, with one step for each block that holds the mutex.  The
signalling server delivers every message once and keeps the order of a sender.

An offer replaces whatever agent there is.  An answer goes to whatever agent
there is: nothing ties it to the offer it answers.

The tick and receive threads of the agents are left out.  A message counts as
in flight until the first block of its handler.
-/

/-! ## Messages -/

inductive SignalAction where
  | iceOffer
  | iceAnswer
  deriving DecidableEq, Repr

structure IceDataMessage where
  action : SignalAction
  iceUfrag : String
  icePwd : String
  isLite : Bool
  candidates : List String
  deriving DecidableEq, Repr

namespace IceDataMessage

/-- The message that carries a description. -/
def ofDescription (action : SignalAction) (desc : IceSessionDescription) : IceDataMessage where
  action := action
  iceUfrag := desc.iceUfrag
  icePwd := desc.icePwd
  isLite := desc.isLite
  candidates := desc.candidates

def description (message : IceDataMessage) : IceSessionDescription where
  iceUfrag := message.iceUfrag
  icePwd := message.icePwd
  isLite := message.isLite
  candidates := message.candidates

def offerOf (agent : IceAgent) : IceDataMessage :=
  ofDescription .iceOffer agent.localSessionDescription

def answerOf (agent : IceAgent) : IceDataMessage :=
  ofDescription .iceAnswer agent.localSessionDescription

end IceDataMessage

open IceDataMessage

/-! ## Endpoints -/

/-- What a step that binds a socket and gathers candidates gets. -/
inductive Gathering where
  | failed
  | gathered (seed : AgentSeed) (candidates : List IceCandidate)

/-- The agent that both kinds of threads build. -/
def gatheredAgent (isControlling : Bool) (seed : AgentSeed) (candidates : List IceCandidate) :
    IceAgent :=
  Party.gathered ⟨isControlling, seed, candidates⟩

/-- `set_remote_session_description` and `start_checks`, whose error is only logged. -/
def described (agent : IceAgent) (message : IceDataMessage) : IceAgent :=
  (agent.setRemoteSessionDescription message.description).startChecks.1

/-- `initiate_ice_bg_inner` after its first block. -/
inductive InitiatePc where
  | build
  | store (agent : IceAgent)
  | send (offer : IceDataMessage)
  deriving DecidableEq, Repr

/-- `handle_ice_offer_inner` after its first block. -/
inductive OfferPc where
  | build (offer : IceDataMessage)
  | send (agent : IceAgent)
  | store (agent : IceAgent)
  deriving DecidableEq, Repr

structure Endpoint where
  iceAgent : Option IceAgent
  /-- The calls to `initiate_ice` that have not ended. -/
  initiating : List InitiatePc
  /-- The offer that the connector thread is handling. -/
  handling : Option OfferPc
  deriving DecidableEq, Repr

namespace Endpoint

def new : Endpoint where
  iceAgent := none
  initiating := []
  handling := none

/-- The first block of `initiate_ice_bg_inner` and of `handle_ice_offer_inner`:
the agent is stopped and dropped. -/
def clear (endpoint : Endpoint) : Endpoint := { endpoint with iceAgent := none }

/-- A later block of the call to `initiate_ice` at an index, and the message it sends. -/
def runInitiate (endpoint : Endpoint) (id : Nat) (input : Gathering) :
    Option (Endpoint × Option IceDataMessage) :=
  match endpoint.initiating[id]? with
  | none => none
  | some .build =>
      match input with
      | .failed => some ({ endpoint with initiating := endpoint.initiating.eraseIdx id }, none)
      | .gathered seed candidates =>
          some ({ endpoint with
            initiating := endpoint.initiating.set id
              (.store (gatheredAgent true seed candidates)) }, none)
  | some (.store agent) =>
      some ({ endpoint with
        iceAgent := some agent
        initiating := endpoint.initiating.set id (.send (offerOf agent)) }, none)
  | some (.send offer) =>
      some ({ endpoint with initiating := endpoint.initiating.eraseIdx id }, some offer)

/-- A later block of the connector thread for an offer, and the message it sends. -/
def runOffer (endpoint : Endpoint) (input : Gathering) :
    Option (Endpoint × Option IceDataMessage) :=
  match endpoint.handling with
  | none => none
  | some (.build offer) =>
      match input with
      | .failed => some ({ endpoint with handling := none }, none)
      | .gathered seed candidates =>
          some ({ endpoint with
            handling := some (.send (described (gatheredAgent false seed candidates) offer)) }, none)
  | some (.send agent) =>
      some ({ endpoint with handling := some (.store agent) }, some (answerOf agent))
  | some (.store agent) => some ({ endpoint with iceAgent := some agent, handling := none }, none)

/-- The first block of the connector thread for a message. -/
def receive (endpoint : Endpoint) (message : IceDataMessage) : Endpoint :=
  match message.action with
  | .iceOffer => { endpoint.clear with handling := some (.build message) }
  | .iceAnswer =>
      { endpoint with iceAgent := endpoint.iceAgent.map fun agent => described agent message }

end Endpoint

/-! ## Runs -/

structure Signalling where
  endpoint : Side -> Endpoint
  /-- The messages to a side, oldest first. -/
  inFlight : Side -> List IceDataMessage

inductive SignalEvent where
  | initiateIce (side : Side)
  | runInitiate (side : Side) (id : Nat) (input : Gathering)
  | deliver (side : Side)
  | runOffer (side : Side) (input : Gathering)

namespace Signalling

def new : Signalling where
  endpoint := fun _ => .new
  inFlight := fun _ => []

/-- A side has made a step, and sends at most one message to the other. -/
def moved (world : Signalling) (side : Side) (endpoint : Endpoint)
    (message : Option IceDataMessage) : Signalling where
  endpoint := Function.update world.endpoint side endpoint
  inFlight := Function.update world.inFlight side.other
    (world.inFlight side.other ++ message.toList)

/-- A side takes the oldest message in flight to it. -/
def delivered (world : Signalling) (side : Side) (endpoint : Endpoint)
    (rest : List IceDataMessage) : Signalling where
  endpoint := Function.update world.endpoint side endpoint
  inFlight := Function.update world.inFlight side rest

def apply (world : Signalling) : SignalEvent -> Option Signalling
  | .initiateIce side =>
      let endpoint := world.endpoint side
      some (world.moved side
        { endpoint.clear with initiating := endpoint.initiating ++ [.build] } none)
  | .runInitiate side id input =>
      ((world.endpoint side).runInitiate id input).map fun stepped =>
        world.moved side stepped.1 stepped.2
  | .deliver side =>
      match world.inFlight side, (world.endpoint side).handling with
      | message :: rest, none => some (world.delivered side ((world.endpoint side).receive message) rest)
      | _, _ => none
  | .runOffer side input =>
      ((world.endpoint side).runOffer input).map fun stepped =>
        world.moved side stepped.1 stepped.2

/-- When nothing is in flight and both sides hold an agent that knows a peer,
each knows the other, and exactly one of them is controlling. -/
def RolesOpposite (world : Signalling) : Prop :=
  (forall side, world.inFlight side = []) ->
    forall side one two, (world.endpoint side).iceAgent = some one ->
      (world.endpoint side.other).iceAgent = some two -> one.remoteUfrag ≠ "" ->
        two.remoteUfrag ≠ "" -> one.remoteUfrag = two.localUfrag ∧ one.role ≠ two.role

/-- No exchange is under way of which the side could still hear: no thread works
on an agent, no message is in flight to the side, and no offer from it. -/
structure AtRest (world : Signalling) (side : Side) : Prop where
  initiating : forall any, (world.endpoint any).initiating = []
  handling : forall any, (world.endpoint any).handling = none
  toSide : world.inFlight side = []
  noOffer : forall message, message ∈ world.inFlight side.other -> message.action = .iceAnswer

/-- `initiate_ice` starts its work when the side is at rest. -/
def InTurn (before : Signalling) : SignalEvent -> Prop
  | .initiateIce side => before.AtRest side
  | _ => True

end Signalling

/-- All interleavings of calls to `initiate_ice` on the two sides, of their
later blocks, and of deliveries. -/
def signalSystem : TransitionSystem Signalling SignalEvent where
  initial := fun world => world = .new
  step := fun before event after => before.apply event = some after

/-! ## Agents of an exchange -/

theorem described_role (agent : IceAgent) (message : IceDataMessage) :
    (described agent message).role = agent.role :=
  (IceAgent.startChecks_kept _).1.trans
    (congrArg IceAgent.Progress.role
      (IceAgent.setRemoteSessionDescription_configures agent _).progress)

theorem described_localUfrag (agent : IceAgent) (message : IceDataMessage) :
    (described agent message).localUfrag = agent.localUfrag :=
  (congrArg IceAgent.Setup.localUfrag (IceAgent.startChecks_setup _)).trans
    (IceAgent.setRemoteSessionDescription_configures agent _).localUfrag

theorem described_remoteUfrag (agent : IceAgent) (message : IceDataMessage) :
    (described agent message).remoteUfrag = message.iceUfrag :=
  (congrArg IceAgent.Setup.remoteUfrag (IceAgent.startChecks_setup _)).trans
    (IceAgent.setRemoteSessionDescription_remoteUfrag agent _)

theorem gatheredAgent_role (isControlling : Bool) (seed : AgentSeed)
    (candidates : List IceCandidate) :
    (gatheredAgent isControlling seed candidates).role =
      if isControlling then .controlling else .controlled :=
  congrArg IceAgent.Progress.role
    (Party.gathered_configures ⟨isControlling, seed, candidates⟩).progress

theorem gatheredAgent_remoteUfrag (isControlling : Bool) (seed : AgentSeed)
    (candidates : List IceCandidate) :
    (gatheredAgent isControlling seed candidates).remoteUfrag = "" := by
  have adding : forall (candidates : List IceCandidate) (agent : IceAgent),
      (candidates.foldl IceAgent.addLocalCandidate agent).remoteUfrag = agent.remoteUfrag := by
    intro candidates
    induction candidates with
    | nil => exact fun _ => rfl
    | cons cand rest ih =>
        intro agent
        exact ih (agent.addLocalCandidate cand)
  exact adding _ _

/-- An agent that has yet to hear of the peer it makes an offer to. -/
structure Offers (agent : IceAgent) : Prop where
  role : agent.role = .controlling
  remoteUfrag : agent.remoteUfrag = ""

/-- An agent made for the offer of another. -/
structure Answers (agent offerer : IceAgent) : Prop where
  role : agent.role = .controlled
  remoteUfrag : agent.remoteUfrag = offerer.localUfrag

theorem offers_gathered (seed : AgentSeed) (candidates : List IceCandidate) :
    Offers (gatheredAgent true seed candidates) :=
  ⟨gatheredAgent_role true seed candidates, gatheredAgent_remoteUfrag true seed candidates⟩

theorem answers_gathered (seed : AgentSeed) (candidates : List IceCandidate) (offerer : IceAgent) :
    Answers (described (gatheredAgent false seed candidates) (offerOf offerer)) offerer :=
  ⟨(described_role _ _).trans (gatheredAgent_role false seed candidates),
    described_remoteUfrag _ _⟩

/-- An answer tells the offerer about its answerer. -/
theorem Answers.described {answerer offerer : IceAgent} (answers : Answers answerer offerer) :
    Answers answerer (Connector.described offerer (answerOf answerer)) :=
  ⟨answers.role, answers.remoteUfrag.trans (described_localUfrag _ _).symm⟩

namespace Signalling

/-! ## The stages of an exchange -/

section Projections

variable (world : Signalling) (side : Side) (endpoint : Endpoint)
  (message : Option IceDataMessage) (rest : List IceDataMessage)

@[simp] theorem moved_endpoint_self : (world.moved side endpoint message).endpoint side = endpoint :=
  Function.update_self _ _ _

@[simp] theorem moved_endpoint_other :
    (world.moved side endpoint message).endpoint side.other = world.endpoint side.other :=
  Function.update_of_ne side.other_ne _ _

@[simp] theorem moved_inFlight_self :
    (world.moved side endpoint message).inFlight side = world.inFlight side :=
  Function.update_of_ne side.other_ne.symm _ _

@[simp] theorem moved_inFlight_other :
    (world.moved side endpoint message).inFlight side.other =
      world.inFlight side.other ++ message.toList :=
  Function.update_self _ _ _

@[simp] theorem moved_other_endpoint :
    (world.moved side.other endpoint message).endpoint side = world.endpoint side :=
  Function.update_of_ne side.other_ne.symm _ _

@[simp] theorem moved_other_inFlight :
    (world.moved side.other endpoint message).inFlight side =
      world.inFlight side ++ message.toList := by
  have sent := world.moved_inFlight_other side.other endpoint message
  rwa [Side.other_other] at sent

@[simp] theorem delivered_endpoint_self :
    (world.delivered side endpoint rest).endpoint side = endpoint :=
  Function.update_self _ _ _

@[simp] theorem delivered_endpoint_other :
    (world.delivered side endpoint rest).endpoint side.other = world.endpoint side.other :=
  Function.update_of_ne side.other_ne _ _

@[simp] theorem delivered_inFlight_self :
    (world.delivered side endpoint rest).inFlight side = rest :=
  Function.update_self _ _ _

@[simp] theorem delivered_inFlight_other :
    (world.delivered side endpoint rest).inFlight side.other = world.inFlight side.other :=
  Function.update_of_ne side.other_ne _ _

@[simp] theorem delivered_other_endpoint :
    (world.delivered side.other endpoint rest).endpoint side = world.endpoint side :=
  Function.update_of_ne side.other_ne.symm _ _

@[simp] theorem delivered_other_inFlight :
    (world.delivered side.other endpoint rest).inFlight side = world.inFlight side :=
  Function.update_of_ne side.other_ne.symm _ _

end Projections

/-- No thread of the side works on an agent. -/
structure Idle (endpoint : Endpoint) : Prop where
  initiating : endpoint.initiating = []
  handling : endpoint.handling = none

/-- Only answers are on their way. -/
def OnlyAnswers (messages : List IceDataMessage) : Prop :=
  forall message, message ∈ messages -> message.action = .iceAnswer

/-- The offerer has heard the answer, or is about to. -/
def Hears (messages : List IceDataMessage) (offerer answerer : IceAgent) : Prop :=
  (messages = [answerOf answerer] ∧ offerer.remoteUfrag = "") ∨
    (messages = [] ∧ offerer.remoteUfrag = answerer.localUfrag)

/-- A call to `initiate_ice` and the agent of its side. -/
inductive Initiates : Option IceAgent -> InitiatePc -> Prop
  | build : Initiates none .build
  | store {agent : IceAgent} : Offers agent -> Initiates none (.store agent)
  | send {agent : IceAgent} : Offers agent -> Initiates (some agent) (.send (offerOf agent))

/-- The handler of the offer of an agent, and the messages to the side of that agent. -/
inductive Handles (messages : List IceDataMessage) (offerer : IceAgent) : OfferPc -> Prop
  | build : messages = [] -> offerer.remoteUfrag = "" ->
      Handles messages offerer (.build (offerOf offerer))
  | send {answerer : IceAgent} : messages = [] -> offerer.remoteUfrag = "" ->
      Answers answerer offerer -> Handles messages offerer (.send answerer)
  | store {answerer : IceAgent} : Hears messages offerer answerer ->
      Answers answerer offerer -> Handles messages offerer (.store answerer)

/-- What an exchange that a side has begun goes through. -/
inductive Stage (world : Signalling) (side : Side) : Prop
  /-- The side has no agent, and nothing goes on. -/
  | apart (idle : forall any, Idle (world.endpoint any))
      (answers : forall any, OnlyAnswers (world.inFlight any))
      (noAgent : (world.endpoint side).iceAgent = none)
  | initiating (pc : InitiatePc) (initiating : (world.endpoint side).initiating = [pc])
      (initiates : Initiates (world.endpoint side).iceAgent pc)
      (handling : (world.endpoint side).handling = none)
      (idle : Idle (world.endpoint side.other))
      (toSide : world.inFlight side = []) (answers : OnlyAnswers (world.inFlight side.other))
  | offered (agent : IceAgent) (answers : List IceDataMessage)
      (idle : forall any, Idle (world.endpoint any))
      (isAgent : (world.endpoint side).iceAgent = some agent) (offers : Offers agent)
      (toSide : world.inFlight side = [])
      (fromSide : world.inFlight side.other = answers ++ [offerOf agent])
      (onlyAnswers : OnlyAnswers answers)
  | handling (agent : IceAgent) (pc : OfferPc) (idle : Idle (world.endpoint side))
      (initiating : (world.endpoint side.other).initiating = [])
      (handling : (world.endpoint side.other).handling = some pc)
      (isAgent : (world.endpoint side).iceAgent = some agent) (role : agent.role = .controlling)
      (noAgent : (world.endpoint side.other).iceAgent = none)
      (fromSide : world.inFlight side.other = [])
      (handles : Handles (world.inFlight side) agent pc)
  | answered (agent answerer : IceAgent) (idle : forall any, Idle (world.endpoint any))
      (isAgent : (world.endpoint side).iceAgent = some agent) (role : agent.role = .controlling)
      (isAnswerer : (world.endpoint side.other).iceAgent = some answerer)
      (answers : Answers answerer agent) (hears : Hears (world.inFlight side) agent answerer)
      (fromSide : world.inFlight side.other = [])

/-- A side that knows no peer has nothing to agree on. -/
theorem rolesOpposite_of_unknown {world : Signalling} {side : Side}
    (unknown : forall agent, (world.endpoint side).iceAgent = some agent ->
      agent.remoteUfrag = "") : world.RolesOpposite := by
  intro _ here one two isOne isTwo oneKnows twoKnows
  by_cases same : here = side
  · rw [same] at isOne
    exact absurd (unknown one isOne) oneKnows
  · rw [Side.eq_other same, Side.other_other] at isTwo
    exact absurd (unknown two isTwo) twoKnows

/-- In every stage, agents that know each other have opposite roles. -/
theorem Stage.rolesOpposite {world : Signalling} {side : Side} (stage : Stage world side) :
    world.RolesOpposite := by
  cases stage with
  | apart idle answers noAgent =>
      apply rolesOpposite_of_unknown
      intro agent isAgent
      cases noAgent.symm.trans isAgent
  | initiating pc initiating initiates handling idle toSide answers =>
      apply rolesOpposite_of_unknown
      intro agent isAgent
      rw [isAgent] at initiates
      cases initiates with
      | send offers => exact offers.remoteUfrag
  | offered agent answers idle isAgent offers toSide fromSide onlyAnswers =>
      intro silent
      cases (List.append_eq_nil_iff.mp (fromSide.symm.trans (silent side.other))).2
  | handling agent pc idle initiating handling isAgent role noAgent fromSide handles =>
      apply rolesOpposite_of_unknown
      intro other isOther
      cases noAgent.symm.trans isOther
  | answered agent answerer idle isAgent role isAnswerer answers hears fromSide =>
      intro silent here one two isOne isTwo _ _
      have knows : agent.remoteUfrag = answerer.localUfrag := by
        rcases hears with ⟨sent, _⟩ | ⟨_, heard⟩
        · cases sent.symm.trans (silent side)
        · exact heard
      have different : agent.role ≠ answerer.role := by
        rw [role, answers.role]
        exact nofun
      by_cases same : here = side
      · rw [same] at isOne isTwo
        cases isAgent.symm.trans isOne
        cases isAnswerer.symm.trans isTwo
        exact ⟨knows, different⟩
      · rw [Side.eq_other same] at isOne isTwo
        rw [Side.other_other] at isTwo
        cases isAnswerer.symm.trans isOne
        cases isAgent.symm.trans isTwo
        exact ⟨answers.remoteUfrag, different.symm⟩

section Steps

variable {before : Signalling} {side : Side}

theorem forall_side (holds : Side -> Prop) (side : Side) (here : holds side)
    (there : holds side.other) (any : Side) : holds any := by
  by_cases same : any = side
  · rw [same]
    exact here
  · rw [Side.eq_other same]
    exact there

/-- What holds of the endpoint that moved and of the other one. -/
theorem moved_endpoints (holds : Endpoint -> Prop) {endpoint : Endpoint}
    {message : Option IceDataMessage} (here : holds endpoint)
    (there : holds (before.endpoint side.other)) (any : Side) :
    holds ((before.moved side endpoint message).endpoint any) := by
  apply forall_side (fun any => holds ((before.moved side endpoint message).endpoint any)) side
  · rw [moved_endpoint_self]
    exact here
  · rw [moved_endpoint_other]
    exact there

/-- The same for the endpoint that a message is delivered to. -/
theorem delivered_endpoints (holds : Endpoint -> Prop) {endpoint : Endpoint}
    {rest : List IceDataMessage} (here : holds endpoint)
    (there : holds (before.endpoint side.other)) (any : Side) :
    holds ((before.delivered side endpoint rest).endpoint any) := by
  apply forall_side (fun any => holds ((before.delivered side endpoint rest).endpoint any)) side
  · rw [delivered_endpoint_self]
    exact here
  · rw [delivered_endpoint_other]
    exact there

/-- A block of `initiate_ice` that sends nothing. -/
theorem Stage.of_initiates {endpoint : Endpoint} {pc : InitiatePc}
    (initiating : endpoint.initiating = [pc]) (initiates : Initiates endpoint.iceAgent pc)
    (handling : endpoint.handling = none) (idle : Idle (before.endpoint side.other))
    (toSide : before.inFlight side = []) (answers : OnlyAnswers (before.inFlight side.other)) :
    Stage (before.moved side endpoint none) side := by
  refine .initiating pc ?_ ?_ ?_ ?_ ?_ ?_
  · rw [moved_endpoint_self]
    exact initiating
  · rw [moved_endpoint_self]
    exact initiates
  · rw [moved_endpoint_self]
    exact handling
  · rw [moved_endpoint_other]
    exact idle
  · rw [moved_inFlight_self]
    exact toSide
  · rw [moved_inFlight_other, Option.toList_none, List.append_nil]
    exact answers

/-- A side at rest begins an exchange. -/
theorem AtRest.stage (atRest : before.AtRest side) :
    Stage (before.moved side
      { (before.endpoint side).clear with
        initiating := (before.endpoint side).initiating ++ [.build] } none) side := by
  refine .of_initiates ?_ .build (atRest.handling side)
    ⟨atRest.initiating _, atRest.handling _⟩ atRest.toSide atRest.noOffer
  rw [atRest.initiating]
  rfl

/-- What a call to `initiate_ice` does when it is the only one of its side. -/
theorem Stage.runInitiate {id : Nat} {input : Gathering} {endpoint : Endpoint}
    {message : Option IceDataMessage} {mover : Side} (stage : Stage before side)
    (stepped : (before.endpoint mover).runInitiate id input = some (endpoint, message)) :
    Stage (before.moved mover endpoint message) side := by
  have ongoing : (before.endpoint mover).initiating ≠ [] := by
    intro none
    simp only [Endpoint.runInitiate, none] at stepped
    cases stepped
  cases stage with
  | apart idle answers noAgent => exact absurd (idle mover).initiating ongoing
  | offered agent answers idle isAgent offers toSide fromSide onlyAnswers =>
      exact absurd (idle mover).initiating ongoing
  | answered agent answerer idle isAgent role isAnswerer answers hears fromSide =>
      exact absurd (idle mover).initiating ongoing
  | handling agent pc idle initiating handling isAgent role noAgent fromSide handles =>
      exact absurd (forall_side (fun any => (before.endpoint any).initiating = []) side
        idle.initiating initiating mover) ongoing
  | initiating pc initiating initiates handling idle toSide answers =>
      by_cases here : mover = side
      · subst here
        cases id with
        | succ more =>
            simp only [Endpoint.runInitiate, initiating] at stepped
            cases stepped
        | zero =>
            simp only [Endpoint.runInitiate, initiating, List.getElem?_cons_zero] at stepped
            generalize isAgent : (before.endpoint mover).iceAgent = current at initiates
            cases initiates with
            | build =>
                cases input with
                | failed =>
                    cases stepped
                    refine .apart (moved_endpoints Idle ⟨rfl, handling⟩ idle) ?_ ?_
                    · refine forall_side (fun any => OnlyAnswers (Signalling.inFlight _ any)) mover
                        ?_ ?_
                      · rw [moved_inFlight_self, toSide]
                        intro message contrary
                        cases contrary
                      · rw [moved_inFlight_other, Option.toList_none, List.append_nil]
                        exact answers
                    · rw [moved_endpoint_self]
                      exact isAgent
                | gathered seed candidates =>
                    cases stepped
                    refine .of_initiates rfl ?_ handling idle toSide answers
                    change Initiates (before.endpoint mover).iceAgent _
                    rw [isAgent]
                    exact .store (offers_gathered seed candidates)
            | @store agent offers =>
                cases stepped
                exact .of_initiates rfl (.send offers) handling idle toSide answers
            | @send agent offers =>
                cases stepped
                refine .offered agent (before.inFlight mover.other)
                  (moved_endpoints Idle ⟨rfl, handling⟩ idle) ?_ offers ?_ ?_ answers
                · rw [moved_endpoint_self]
                  exact isAgent
                · rw [moved_inFlight_self]
                  exact toSide
                · rw [moved_inFlight_other]
                  rfl
      · rw [Side.eq_other here] at ongoing
        exact absurd idle.initiating ongoing

/-- What the connector thread does for an offer. -/
theorem Stage.runOffer {input : Gathering} {endpoint : Endpoint} {message : Option IceDataMessage}
    {mover : Side} (stage : Stage before side)
    (stepped : (before.endpoint mover).runOffer input = some (endpoint, message)) :
    exists begun, Stage (before.moved mover endpoint message) begun := by
  have ongoing : (before.endpoint mover).handling ≠ none := by
    intro none
    simp only [Endpoint.runOffer, none] at stepped
    cases stepped
  cases stage with
  | apart idle answers noAgent => exact absurd (idle mover).handling ongoing
  | offered agent answers idle isAgent offers toSide fromSide onlyAnswers =>
      exact absurd (idle mover).handling ongoing
  | answered agent answerer idle isAgent role isAnswerer answers hears fromSide =>
      exact absurd (idle mover).handling ongoing
  | initiating pc initiating initiates handling idle toSide answers =>
      exact absurd (forall_side (fun any => (before.endpoint any).handling = none) side
        handling idle.handling mover) ongoing
  | handling agent pc idle initiating handling isAgent role noAgent fromSide handles =>
      by_cases here : mover = side
      · rw [here] at ongoing
        exact absurd idle.handling ongoing
      · cases Side.eq_other here
        simp only [Endpoint.runOffer, handling] at stepped
        cases handles with
        | build silent unknown =>
            cases input with
            | failed =>
                cases stepped
                refine ⟨side.other, .apart ?_ ?_ ?_⟩
                · exact moved_endpoints Idle ⟨initiating, rfl⟩ (by rwa [Side.other_other])
                · apply forall_side (fun any => OnlyAnswers (Signalling.inFlight _ any)) side
                  · rw [moved_other_inFlight, silent]
                    intro message contrary
                    cases contrary
                  · rw [moved_inFlight_self, fromSide]
                    intro message contrary
                    cases contrary
                · rw [moved_endpoint_self]
                  exact noAgent
            | gathered seed candidates =>
                cases stepped
                refine ⟨side, .handling agent _ ?_ ?_ ?_ ?_ role ?_ ?_
                  (.send ?_ unknown (answers_gathered seed candidates agent))⟩
                · rw [moved_other_endpoint]
                  exact idle
                · rw [moved_endpoint_self]
                  exact initiating
                · rw [moved_endpoint_self]
                · rw [moved_other_endpoint]
                  exact isAgent
                · rw [moved_endpoint_self]
                  exact noAgent
                · rw [moved_inFlight_self]
                  exact fromSide
                · rw [moved_other_inFlight, silent]
                  rfl
        | @send answerer silent unknown answers =>
            cases stepped
            refine ⟨side, .handling agent _ ?_ ?_ ?_ ?_ role ?_ ?_ (.store (Or.inl ⟨?_, unknown⟩)
              answers)⟩
            · rw [moved_other_endpoint]
              exact idle
            · rw [moved_endpoint_self]
              exact initiating
            · rw [moved_endpoint_self]
            · rw [moved_other_endpoint]
              exact isAgent
            · rw [moved_endpoint_self]
              exact noAgent
            · rw [moved_inFlight_self]
              exact fromSide
            · rw [moved_other_inFlight, silent]
              rfl
        | @store answerer hears answers =>
            cases stepped
            refine ⟨side, .answered agent answerer ?_ ?_ role ?_ answers ?_ ?_⟩
            · exact moved_endpoints Idle ⟨initiating, rfl⟩ (by rwa [Side.other_other])
            · rw [moved_other_endpoint]
              exact isAgent
            · rw [moved_endpoint_self]
            · rw [moved_other_inFlight, Option.toList_none, List.append_nil]
              exact hears
            · rw [moved_inFlight_self]
              exact fromSide

theorem receive_answer (endpoint : Endpoint) {message : IceDataMessage}
    (isAnswer : message.action = .iceAnswer) :
    endpoint.receive message =
      { endpoint with iceAgent := endpoint.iceAgent.map fun agent => described agent message } := by
  unfold Endpoint.receive
  rw [isAnswer]

theorem OnlyAnswers.rest {message : IceDataMessage} {rest : List IceDataMessage}
    (answers : OnlyAnswers (message :: rest)) : message.action = .iceAnswer ∧ OnlyAnswers rest :=
  ⟨answers message List.mem_cons_self, fun other member => answers other (.tail _ member)⟩

theorem hears_described (answerer offerer : IceAgent) :
    Hears [] (Connector.described offerer (answerOf answerer)) answerer :=
  Or.inr ⟨rfl, described_remoteUfrag _ _⟩

section Delivery

variable {message : IceDataMessage} {rest : List IceDataMessage} {mover : Side} {agent answerer : IceAgent}

/-- An old answer to a side that is at rest. -/
theorem deliver_apart (idle : forall any, Idle (before.endpoint any))
    (answers : forall any, OnlyAnswers (before.inFlight any))
    (noAgent : (before.endpoint side).iceAgent = none) (oldest : before.inFlight mover = message :: rest) :
    Stage (before.delivered mover ((before.endpoint mover).receive message) rest) side := by
  have toMover := answers mover
  rw [oldest] at toMover
  rw [receive_answer _ toMover.rest.1]
  refine .apart ?_ ?_ ?_
  · exact delivered_endpoints Idle ⟨(idle mover).initiating, (idle mover).handling⟩ (idle mover.other)
  · apply forall_side (fun any => OnlyAnswers (Signalling.inFlight _ any)) mover
    · rw [delivered_inFlight_self]
      exact toMover.rest.2
    · rw [delivered_inFlight_other]
      exact answers mover.other
  · by_cases here : mover = side
    · subst here
      rw [delivered_endpoint_self, noAgent]
      rfl
    · cases Side.eq_other here
      rw [delivered_other_endpoint]
      exact noAgent

/-- An old answer to the other side of one that initiates. -/
theorem deliver_initiating {pc : InitiatePc} (initiating : (before.endpoint side).initiating = [pc])
    (initiates : Initiates (before.endpoint side).iceAgent pc)
    (handling : (before.endpoint side).handling = none) (idle : Idle (before.endpoint side.other))
    (toSide : before.inFlight side = []) (answers : OnlyAnswers (message :: rest)) :
    Stage (before.delivered side.other ((before.endpoint side.other).receive message) rest) side := by
  rw [receive_answer _ answers.rest.1]
  refine .initiating pc ?_ ?_ ?_ ?_ ?_ ?_
  · rw [delivered_other_endpoint]
    exact initiating
  · rw [delivered_other_endpoint]
    exact initiates
  · rw [delivered_other_endpoint]
    exact handling
  · rw [delivered_endpoint_self]
    exact ⟨idle.initiating, idle.handling⟩
  · rw [delivered_other_inFlight]
    exact toSide
  · rw [delivered_inFlight_self]
    exact answers.rest.2

/-- The offer itself: the other side drops its agent and handles it. -/
theorem deliver_offer (idle : forall any, Idle (before.endpoint any))
    (isAgent : (before.endpoint side).iceAgent = some agent) (offers : Offers agent)
    (toSide : before.inFlight side = []) :
    Stage (before.delivered side.other ((before.endpoint side.other).receive (offerOf agent)) []) side := by
  refine .handling agent (.build (offerOf agent)) ?_ ?_ ?_ ?_ offers.role ?_ ?_
    (.build ?_ offers.remoteUfrag)
  · rw [delivered_other_endpoint]
    exact idle side
  · rw [delivered_endpoint_self]
    exact (idle side.other).initiating
  · rw [delivered_endpoint_self]
    rfl
  · rw [delivered_other_endpoint]
    exact isAgent
  · rw [delivered_endpoint_self]
    rfl
  · rw [delivered_inFlight_self]
  · rw [delivered_other_inFlight]
    exact toSide

/-- An old answer in front of the offer. -/
theorem deliver_beforeOffer {later : List IceDataMessage} (idle : forall any, Idle (before.endpoint any))
    (isAgent : (before.endpoint side).iceAgent = some agent) (offers : Offers agent)
    (toSide : before.inFlight side = []) (answers : OnlyAnswers (message :: later)) :
    Stage (before.delivered side.other ((before.endpoint side.other).receive message)
      (later ++ [offerOf agent])) side := by
  rw [receive_answer _ answers.rest.1]
  refine .offered agent later ?_ ?_ offers ?_ ?_ answers.rest.2
  · exact delivered_endpoints Idle ⟨(idle side.other).initiating, (idle side.other).handling⟩
      (idle side.other.other)
  · rw [delivered_other_endpoint]
    exact isAgent
  · rw [delivered_other_inFlight]
    exact toSide
  · rw [delivered_inFlight_self]

/-- The answer, while its handler has not stored its agent yet. -/
theorem deliver_handling (idle : Idle (before.endpoint side))
    (initiating : (before.endpoint side.other).initiating = [])
    (handling : (before.endpoint side.other).handling = some (.store answerer))
    (isAgent : (before.endpoint side).iceAgent = some agent) (role : agent.role = .controlling)
    (noAgent : (before.endpoint side.other).iceAgent = none) (fromSide : before.inFlight side.other = [])
    (answers : Answers answerer agent) :
    Stage (before.delivered side ((before.endpoint side).receive (answerOf answerer)) []) side := by
  rw [receive_answer _ rfl]
  refine .handling (Connector.described agent (answerOf answerer)) (.store answerer)
    ?_ ?_ ?_ ?_ ?_ ?_ ?_ (.store ?_ answers.described)
  · rw [delivered_endpoint_self]
    exact ⟨idle.initiating, idle.handling⟩
  · rw [delivered_endpoint_other]
    exact initiating
  · rw [delivered_endpoint_other]
    exact handling
  · rw [delivered_endpoint_self, isAgent]
    rfl
  · exact (described_role _ _).trans role
  · rw [delivered_endpoint_other]
    exact noAgent
  · rw [delivered_inFlight_other]
    exact fromSide
  · rw [delivered_inFlight_self]
    exact hears_described _ _

/-- The answer, when both sides have their agents. -/
theorem deliver_answered (idle : forall any, Idle (before.endpoint any))
    (isAgent : (before.endpoint side).iceAgent = some agent) (role : agent.role = .controlling)
    (isAnswerer : (before.endpoint side.other).iceAgent = some answerer)
    (answers : Answers answerer agent) (fromSide : before.inFlight side.other = []) :
    Stage (before.delivered side ((before.endpoint side).receive (answerOf answerer)) []) side := by
  rw [receive_answer _ rfl]
  refine .answered (Connector.described agent (answerOf answerer)) answerer ?_ ?_ ?_ ?_
    answers.described ?_ ?_
  · exact delivered_endpoints Idle ⟨(idle side).initiating, (idle side).handling⟩ (idle side.other)
  · rw [delivered_endpoint_self, isAgent]
    rfl
  · exact (described_role _ _).trans role
  · rw [delivered_endpoint_other]
    exact isAnswerer
  · rw [delivered_inFlight_self]
    exact hears_described _ _
  · rw [delivered_inFlight_other]
    exact fromSide

/-- What the delivery of a message does. -/
theorem Stage.deliver (stage : Stage before side) (oldest : before.inFlight mover = message :: rest) :
    Stage (before.delivered mover ((before.endpoint mover).receive message) rest) side := by
  have waiting : before.inFlight mover ≠ [] := by
    rw [oldest]
    exact List.cons_ne_nil _ _
  cases stage with
  | apart idle answers noAgent => exact deliver_apart idle answers noAgent oldest
  | initiating pc initiating initiates handling idle toSide answers =>
      by_cases here : mover = side
      · rw [here] at waiting
        exact absurd toSide waiting
      · cases Side.eq_other here
        rw [oldest] at answers
        exact deliver_initiating initiating initiates handling idle toSide answers
  | offered agent answers idle isAgent offers toSide fromSide onlyAnswers =>
      by_cases here : mover = side
      · rw [here] at waiting
        exact absurd toSide waiting
      · cases Side.eq_other here
        rw [oldest] at fromSide
        cases answers with
        | nil =>
            cases fromSide
            exact deliver_offer idle isAgent offers toSide
        | cons answer later =>
            cases fromSide
            exact deliver_beforeOffer idle isAgent offers toSide onlyAnswers
  | handling agent pc idle initiating handling isAgent role noAgent fromSide handles =>
      by_cases here : mover = side
      · subst here
        cases handles with
        | build silent _ => exact absurd silent waiting
        | send silent _ _ => exact absurd silent waiting
        | store hears answers =>
            rcases hears with ⟨sent, _⟩ | ⟨silent, _⟩
            · cases oldest.symm.trans sent
              exact deliver_handling idle initiating handling isAgent role noAgent fromSide answers
            · exact absurd silent waiting
      · rw [Side.eq_other here] at waiting
        exact absurd fromSide waiting
  | answered agent answerer idle isAgent role isAnswerer answers hears fromSide =>
      by_cases here : mover = side
      · subst here
        rcases hears with ⟨sent, _⟩ | ⟨silent, _⟩
        · cases oldest.symm.trans sent
          exact deliver_answered idle isAgent role isAnswerer answers fromSide
        · exact absurd silent waiting
      · rw [Side.eq_other here] at waiting
        exact absurd fromSide waiting

end Delivery

end Steps

/-! ## Runs -/

theorem stage_of_reachable {world : Signalling}
    (reachable : (signalSystem.restrict InTurn).Reachable world) :
    exists side, Stage world side := by
  refine reachable.invariant (fun world => exists side, Stage world side) ?_ ?_
  · rintro world rfl
    refine ⟨.a, .apart (fun _ => ⟨rfl, rfl⟩) ?_ rfl⟩
    intro any message contrary
    cases contrary
  · rintro before event after ⟨side, stage⟩ ⟨inTurn, applied⟩
    change before.apply event = some after at applied
    cases event with
    | initiateIce mover =>
        cases applied
        exact ⟨mover, AtRest.stage inTurn⟩
    | runInitiate mover id input =>
        rcases Option.map_eq_some_iff.mp applied with ⟨⟨endpoint, message⟩, stepped, rfl⟩
        exact ⟨side, stage.runInitiate stepped⟩
    | runOffer mover input =>
        rcases Option.map_eq_some_iff.mp applied with ⟨⟨endpoint, message⟩, stepped, rfl⟩
        exact stage.runOffer stepped
    | deliver mover =>
        simp only [apply] at applied
        cases oldest : before.inFlight mover with
        | nil =>
            rw [oldest] at applied
            cases applied
        | cons message rest =>
            cases free : (before.endpoint mover).handling with
            | some pc =>
                rw [oldest, free] at applied
                cases applied
            | none =>
                rw [oldest, free] at applied
                cases applied
                exact ⟨side, stage.deliver oldest⟩

/-- In every run in which each call to `initiate_ice` starts its work at rest,
the two agents have opposite roles and know each other when nothing is in flight. -/
theorem signalled_roles_opposite {world : Signalling}
    (reachable : (signalSystem.restrict InTurn).Reachable world) : world.RolesOpposite := by
  rcases stage_of_reachable reachable with ⟨side, stage⟩
  exact stage.rolesOpposite

/-! ## Concrete runs -/

instance (world : Signalling) (side : Side) : Decidable (world.AtRest side) :=
  decidable_of_iff
    (((world.endpoint side).initiating = [] ∧ (world.endpoint side.other).initiating = []) ∧
      ((world.endpoint side).handling = none ∧ (world.endpoint side.other).handling = none) ∧
      world.inFlight side = [] ∧
      forall message, message ∈ world.inFlight side.other -> message.action = .iceAnswer)
    ⟨fun ⟨⟨here, there⟩, ⟨free, otherFree⟩, toSide, noOffer⟩ =>
      ⟨forall_side (fun any => (world.endpoint any).initiating = []) side here there,
        forall_side (fun any => (world.endpoint any).handling = none) side free otherFree,
        toSide, noOffer⟩,
      fun atRest => ⟨⟨atRest.initiating _, atRest.initiating _⟩,
        ⟨atRest.handling _, atRest.handling _⟩, atRest.toSide, atRest.noOffer⟩⟩

instance (before : Signalling) (event : SignalEvent) : Decidable (before.InTurn event) :=
  match event with
  | .initiateIce side => inferInstanceAs (Decidable (before.AtRest side))
  | .runInitiate _ _ _ => .isTrue trivial
  | .deliver _ => .isTrue trivial
  | .runOffer _ _ => .isTrue trivial

/-- A call to `initiate_ice` that no other thread of its side interrupts. -/
def initiateEvents (side : Side) (seed : UInt8) : List SignalEvent :=
  [.initiateIce side, .runInitiate side 0 (.gathered (uniformSeed seed 0) []),
    .runInitiate side 0 .failed, .runInitiate side 0 .failed]

/-- The delivery of an offer, with its handler. -/
def offerEvents (side : Side) (seed : UInt8) : List SignalEvent :=
  [.deliver side, .runOffer side (.gathered (uniformSeed seed 0) []), .runOffer side .failed,
    .runOffer side .failed]

/-- The roles of the two agents, and the fragments of their peers. -/
def outcome (world : Signalling) : List (Option (IceRole × String)) :=
  [Side.a, Side.b].map fun side =>
    (world.endpoint side).iceAgent.map fun agent => (agent.role, agent.remoteUfrag)

/-- A run of two new endpoints, and a test of the state it ends in. -/
theorem exists_signalling {allowed : Signalling -> SignalEvent -> Bool}
    (condition : Signalling -> SignalEvent -> Prop)
    (meets : forall world event, allowed world event = true -> condition world event)
    {events : List SignalEvent} {test : Signalling -> Bool}
    (ends : (TransitionSystem.perform apply allowed new events).any test = true) :
    exists world, (signalSystem.restrict condition).Reachable world ∧ test world = true := by
  refine TransitionSystem.exists_reachable condition ?_ meets rfl ends
  intro before event after applied
  exact applied

/-- First one side calls, then the other while its own answer has arrived. -/
theorem signalled_roles_opposite_in_turn :
    exists world, (signalSystem.restrict InTurn).Reachable world ∧
      world.outcome = [some (.controlled, "03030303"), some (.controlling, "04040404")] ∧
      world.RolesOpposite := by
  have ends : (TransitionSystem.perform apply (fun before event => decide (InTurn before event))
      new (initiateEvents .a 1 ++ offerEvents .b 2 ++ [.deliver .a] ++
        initiateEvents .b 3 ++ offerEvents .a 4 ++ [.deliver .b])).any
      (fun world => world.outcome =
        [some (.controlled, "03030303"), some (.controlling, "04040404")]) = true := by
    decide +kernel
  rcases exists_signalling InTurn (fun _ _ => of_decide_eq_true) ends with ⟨world, reachable, test⟩
  exact ⟨world, reachable, of_decide_eq_true test, signalled_roles_opposite reachable⟩

/-- Both sides call at once: each answers the offer of the other, and both end
up controlled. -/
theorem both_controlled :
    ¬ forall world, signalSystem.Reachable world -> world.RolesOpposite := by
  intro claim
  have ends : (TransitionSystem.perform apply (fun _ _ => true) new
      (initiateEvents .a 1 ++ initiateEvents .b 2 ++ offerEvents .b 3 ++ offerEvents .a 4 ++
        [.deliver .a, .deliver .b])).any
      (fun world => (world.inFlight .a = [] ∧ world.inFlight .b = []) ∧
        world.outcome = [some (.controlled, "03030303"), some (.controlled, "04040404")]) =
      true := by
    decide +kernel
  rcases exists_signalling (fun _ _ => True) (fun _ _ _ => trivial) ends with
    ⟨world, reachable, test⟩
  rcases of_decide_eq_true test with ⟨⟨toA, toB⟩, isOutcome⟩
  simp only [outcome, List.map_cons, List.map_nil, List.cons.injEq, and_true,
    Option.map_eq_some_iff, Prod.mk.injEq] at isOutcome
  rcases isOutcome with ⟨⟨one, isOne, oneRole, oneRemote⟩, ⟨two, isTwo, twoRole, twoRemote⟩⟩
  have silent : forall side, world.inFlight side = [] := forall_side _ .a toA toB
  have opposite := claim world reachable.of_restrict silent .a one two isOne isTwo
    (by rw [oneRemote]; decide) (by rw [twoRemote]; decide)
  exact opposite.2 (oneRole.trans twoRole.symm)

end Signalling

end Connector
end P2pSdk
