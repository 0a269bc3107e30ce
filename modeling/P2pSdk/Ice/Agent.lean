import P2pSdk.Ice.StunCodec
import P2pSdk.Ice.Candidate
import P2pSdk.Ice.CheckList
import Mathlib.Data.List.Sort

namespace P2pSdk

open Foundation

/-!
# The ICE agent state machine (`ice/agent.rs`)

The agent never touches a socket: its operations return the datagrams to send.
Each public operation is a function from the agent to the agent after it.  Two
sources of data are outside the agent: the clock, passed to `tick`, and
`generate_transaction_id`, modelled by a stream `ids` of which `next` values
have been drawn.  An operation that parses a datagram can panic, and is
`Checked`.
-/

/-! ## Data -/

/-- A datagram the caller must send. -/
structure IceAction where
  data : Bytes
  targetIp : String
  targetPort : UInt16
  deriving DecidableEq, Repr

def IceAction.target (action : IceAction) : Address := ⟨action.targetIp, action.targetPort⟩

structure HandleDataResult where
  /-- Non-STUN application data. -/
  appData : Option Bytes
  actions : List IceAction
  deriving DecidableEq, Repr

structure PairEntry where
  localCand : IceCandidate
  remoteCand : IceCandidate
  state : CheckState
  nominated : Bool
  priority : UInt64
  retransmitCount : Nat
  retransmitTimerMs : Nat
  lastSentTimeMs : Nat
  /-- Empty until the first request is sent. -/
  transactionId : Bytes
  deriving DecidableEq, Repr

structure IceAgent where
  state : IceState
  localUfrag : String
  localPwd : String
  tieBreaker : UInt64
  role : IceRole
  localCandidates : List IceCandidate
  remoteCandidates : List IceCandidate
  remoteUfrag : String
  remotePwd : String
  remoteIsLite : Bool
  checkList : List PairEntry
  nominatedPairIdx : Option Nat
  nominatedPairConfirmed : Bool
  deriving DecidableEq, Repr

/-- What `IceAgent::new` draws from the random generator. -/
structure AgentSeed where
  ufrag : Bytes
  pwd : Bytes
  tieBreaker : UInt64
  ufrag_length : ufrag.length = 4
  pwd_length : pwd.length = 16

/-- `format!("{:02x}", byte)`. -/
def hexByte (byte : UInt8) : List Char :=
  [Nat.digitChar (byte.toNat / 16), Nat.digitChar (byte.toNat % 16)]

/-- Random bytes as credential text. -/
def hexText (bytes : Bytes) : String := String.ofList (bytes.flatMap hexByte)

namespace IceAgent

/-! ## Construction and accessors -/

def new (isControlling : Bool) (seed : AgentSeed) : IceAgent where
  state := .new
  localUfrag := hexText seed.ufrag
  localPwd := hexText seed.pwd
  tieBreaker := seed.tieBreaker
  role := if isControlling then .controlling else .controlled
  localCandidates := []
  remoteCandidates := []
  remoteUfrag := ""
  remotePwd := ""
  remoteIsLite := false
  checkList := []
  nominatedPairIdx := none
  nominatedPairConfirmed := false

/-- The pair that `nominated_pair_idx` points at, when it points into the list. -/
def nominatedPair (agent : IceAgent) : Option PairEntry :=
  agent.nominatedPairIdx.bind fun i => agent.checkList[i]?

def nominatedRemote (agent : IceAgent) : Option Address :=
  agent.nominatedPair.map fun pair => pair.remoteCand.address

/-! ## Candidates and descriptions -/

def addLocalCandidate (agent : IceAgent) (cand : IceCandidate) : IceAgent :=
  { agent with localCandidates := agent.localCandidates ++ [cand] }

def addHostCandidate (agent : IceAgent) (addr : String) (port : UInt16) : IceAgent :=
  agent.addLocalCandidate
    { foundation := "host-" ++ addr
      componentId := 1
      transport := "UDP"
      priority := calcCandidatePriority .host
      connectionAddress := addr
      port := port
      candidateType := .host
      relatedAddress := ""
      relatedPort := 0 }

def localSessionDescription (agent : IceAgent) : IceSessionDescription where
  iceUfrag := agent.localUfrag
  icePwd := agent.localPwd
  isLite := false
  candidates := agent.localCandidates.map formatCandidateLine

/-- Keep the first candidate of each remote address. -/
def addRemoteCand (agent : IceAgent) (cand : IceCandidate) : IceAgent :=
  if agent.remoteCandidates.any (fun known => known.address == cand.address) then agent
  else { agent with remoteCandidates := agent.remoteCandidates ++ [cand] }

/-- A line that does not parse is ignored. -/
def addRemoteCandidate (agent : IceAgent) (line : String) : IceAgent :=
  match parseCandidateLine line with
  | some cand => agent.addRemoteCand cand
  | none => agent

def setRemoteSessionDescription (agent : IceAgent) (desc : IceSessionDescription) : IceAgent :=
  desc.candidates.foldl addRemoteCandidate
    { agent with
      remoteUfrag := desc.iceUfrag, remotePwd := desc.icePwd, remoteIsLite := desc.isLite }

def setRemotePwd (agent : IceAgent) (pwd : String) : IceAgent := { agent with remotePwd := pwd }

def setState (agent : IceAgent) (state : IceState) : IceAgent := { agent with state := state }

/-! ## Check list -/

/-- A pair that has not been checked. -/
def freshPair (role : IceRole) (localCand remoteCand : IceCandidate) : PairEntry where
  localCand := localCand
  remoteCand := remoteCand
  state := .waiting
  nominated := false
  priority := calcPairPriority localCand.priority remoteCand.priority role
  retransmitCount := 0
  retransmitTimerMs := INITIAL_RTO_MS
  lastSentTimeMs := 0
  transactionId := []

/-- All pairs in the order of the two candidate lists. -/
def allPairs (agent : IceAgent) : List PairEntry :=
  agent.localCandidates.flatMap fun localCand =>
    agent.remoteCandidates.map fun remoteCand => freshPair agent.role localCand remoteCand

/-- The comparison of the stable sort: higher priority first. -/
def beforeInList (left right : PairEntry) : Prop := right.priority ≤ left.priority

instance : DecidableRel beforeInList := fun left right =>
  inferInstanceAs (Decidable (right.priority ≤ left.priority))

/-- Build the check list and become CONNECTING.  The nomination fields are not
touched. -/
def startChecks (agent : IceAgent) : IceAgent × Except String Unit :=
  if agent.remoteUfrag = "" then
    (agent.setState .failed, .error "remote ufrag not set")
  else if agent.localCandidates = [] ∨ agent.remoteCandidates = [] then
    (agent.setState .failed, .error "no candidates to check")
  else
    ({ agent with
        checkList := agent.allPairs.insertionSort beforeInList, state := .connecting }, .ok ())

/-! ## Check cycle -/

/-- A request as `tick` sends it, with the pair it checks.  `tick` itself
returns the actions only. -/
structure SentCheck where
  pair : Nat
  time : Nat
  controlling : Bool
  useCandidate : Bool
  transactionId : TransactionId
  action : IceAction

/-- The pairs that a round of `tick` passes over. -/
def skipsPair (agent : IceAgent) (now i : Nat) (pair : PairEntry) : Bool :=
  pair.state = .succeeded ∨ pair.state = .failed ∨
    (agent.nominatedPairIdx.isSome ∧ agent.nominatedPairIdx ≠ some i) ∨
    now < pair.lastSentTimeMs + pair.retransmitTimerMs

/-- The request for a pair under a given transaction id. -/
def checkRequest (crypto : Crypto) (agent : IceAgent) (pair : PairEntry) (id : TransactionId) :
    IceBindingRequestResult :=
  buildIceBindingRequest crypto (agent.remoteUfrag ++ ":" ++ agent.localUfrag)
    pair.localCand.priority agent.role.isControlling agent.tieBreaker pair.nominated
    (if agent.remotePwd = "" then none else some agent.remotePwd) id

/-- The pair after its request went out.  The last transmission already
counts as failed; otherwise the timeout doubles up to its cap. -/
def pairAfterCheck (pair : PairEntry) (now : Nat) (id : TransactionId) : PairEntry :=
  let pair :=
    { pair with
      state := .inProgress, transactionId := id.bytes, lastSentTimeMs := now,
      retransmitCount := pair.retransmitCount + 1 }
  if MAX_RETRANSMITS ≤ pair.retransmitCount then { pair with state := .failed }
  else { pair with retransmitTimerMs := min (pair.retransmitTimerMs * 2) MAX_RTO_MS }

/-- Send the check of one pair. -/
def sendCheck (crypto : Crypto) (agent : IceAgent) (now i : Nat) (pair : PairEntry)
    (id : TransactionId) : SentCheck where
  pair := i
  time := now
  controlling := agent.role.isControlling
  useCandidate := pair.nominated
  transactionId := id
  action :=
    { data := (checkRequest crypto agent pair id).data
      targetIp := pair.remoteCand.connectionAddress
      targetPort := pair.remoteCand.port }

/-- The loop of `tick` over the check list from index `i` on: the pairs after
it, the requests sent, and the number of transaction ids drawn so far. -/
def tickPairs (crypto : Crypto) (ids : Nat -> TransactionId) (agent : IceAgent) (now : Nat) :
    Nat -> List PairEntry -> Nat -> List PairEntry × List SentCheck × Nat
  | _, [], next => ([], [], next)
  | i, pair :: rest, next =>
      if agent.skipsPair now i pair then
        let later := tickPairs crypto ids agent now (i + 1) rest next
        (pair :: later.1, later.2.1, later.2.2)
      else
        let later := tickPairs crypto ids agent now (i + 1) rest (next + 1)
        (pairAfterCheck pair now (ids next) :: later.1,
          sendCheck crypto agent now i pair (ids next) :: later.2.1, later.2.2)

/-- Give up when every pair is decided and none succeeded. -/
def checkCompletion (agent : IceAgent) : IceAgent :=
  if agent.checkList = [] then agent
  else if agent.checkList.all (fun pair => pair.state = .succeeded ∨ pair.state = .failed) ∧
      agent.checkList.all (fun pair => pair.state ≠ .succeeded) then
    agent.setState .failed
  else agent

/-- Drive one round of checks: the agent, the requests with their pairs, and
the number of transaction ids drawn. -/
def tickChecks (crypto : Crypto) (ids : Nat -> TransactionId) (next : Nat) (agent : IceAgent)
    (now : Nat) : IceAgent × List SentCheck × Nat :=
  if agent.state = .completed ∨ agent.state = .failed ∨ agent.state = .closed then
    (agent, [], next)
  else
    let round := tickPairs crypto ids agent now 0 agent.checkList next
    ({ agent with checkList := round.1 }.checkCompletion, round.2.1, round.2.2)

/-- `tick`: the datagrams of one round. -/
def tick (crypto : Crypto) (ids : Nat -> TransactionId) (next : Nat) (agent : IceAgent)
    (now : Nat) : IceAgent × List IceAction × Nat :=
  let round := agent.tickChecks crypto ids next now
  (round.1, round.2.1.map SentCheck.action, round.2.2)

/-! ## Incoming data -/

/-- `splitn(2, ':')` when there is a second part. -/
def splitOnce (separator : Char) (text : String) : Option (String × String) :=
  match text.toList.dropWhile (· ≠ separator) with
  | [] => none
  | _ :: after =>
      some (String.ofList (text.toList.takeWhile (· ≠ separator)), String.ofList after)

/-- The USERNAME check of an incoming request.  An empty username passes. -/
def acceptsUsername (agent : IceAgent) (username : String) : Bool :=
  if username = "" then true
  else
    match splitOnce ':' username with
    | some (our, their) => our = agent.localUfrag ∧ their = agent.remoteUfrag
    | none => false

/-- Two controlling agents: this one gives way. -/
def resolveRoleConflict (agent : IceAgent) (peerControlling : Option Bool) : IceAgent :=
  match peerControlling with
  | some peerCtrl =>
      if peerCtrl = agent.role.isControlling ∧ agent.role.isControlling then
        { agent with role := .controlled }
      else agent
  | none => agent

/-- The first pair whose remote candidate has this address. -/
def pairOfRemote (agent : IceAgent) (source : Address) : Option Nat :=
  agent.checkList.findIdx? fun pair => pair.remoteCand.address = source

/-- Replace the pair at an index. -/
def updatePair (agent : IceAgent) (i : Nat) (update : PairEntry -> PairEntry) : IceAgent :=
  { agent with checkList := agent.checkList.modify i update }

/-- A request from the address of a pair marks it, and nominates it when the
peer asks a controlled agent to. -/
def markPair (agent : IceAgent) (useCandidate : Bool) (source : Address) : IceAgent :=
  match agent.pairOfRemote source with
  | none => agent
  | some idx =>
      let agent := agent.updatePair idx fun pair => { pair with state := .succeeded }
      if useCandidate ∧ agent.role = .controlled then
        let agent := agent.updatePair idx fun pair => { pair with nominated := true }
        let agent := { agent with nominatedPairIdx := some idx }
        if agent.nominatedPairConfirmed = false then
          { agent with nominatedPairConfirmed := true, state := .completed }
        else agent
      else agent

/-- The first contact makes the agent CONNECTED. -/
def noteContact (agent : IceAgent) : IceAgent :=
  if agent.state = .new ∨ agent.state = .gathering ∨ agent.state = .connecting then
    agent.setState .connected
  else agent

def handleIncomingStun (agent : IceAgent) (raw : Bytes) (parsed : ParsedStunMessage)
    (source : Address) : IceAgent × HandleDataResult :=
  if agent.acceptsUsername parsed.username = false then
    (agent, { appData := none, actions := [] })
  else
    let agent := agent.resolveRoleConflict parsed.controlling
    match buildIceBindingResponse raw with
    | none => (agent, { appData := none, actions := [] })
    | some resp =>
        let agent := (agent.markPair parsed.useCandidate source).noteContact
        (agent, { appData := none, actions := [⟨resp, source.ip, source.port⟩] })

/-- A 487 switches the role and puts unanswered checks back to the start. -/
def handleRoleConflict (agent : IceAgent) : IceAgent :=
  { agent with
    role := agent.role.switched
    checkList := agent.checkList.map fun pair =>
      if pair.state = .inProgress then
        { pair with state := .waiting, retransmitCount := 0, retransmitTimerMs := INITIAL_RTO_MS }
      else pair }

/-- Put the best succeeded pair forward, to be checked again with
USE-CANDIDATE.  Its transaction id is still that of its earlier check. -/
def nominateBest (agent : IceAgent) : IceAgent :=
  match agent.checkList.findIdx? (fun pair => pair.state = .succeeded) with
  | none => agent
  | some idx =>
      let agent := agent.updatePair idx fun pair =>
        { pair with
          state := .inProgress, retransmitCount := 0, retransmitTimerMs := INITIAL_RTO_MS,
          nominated := true }
      { agent with nominatedPairIdx := some idx }

/-- The first pair whose latest request had this transaction id. -/
def pairOfTransaction (agent : IceAgent) (transactionId : Bytes) : Option Nat :=
  agent.checkList.findIdx? fun pair => pair.transactionId = transactionId

/-- The controlling agent's side of a success response for pair `idx`. -/
def advanceNomination (agent : IceAgent) (idx : Nat) : IceAgent :=
  if agent.role = .controlling then
    if agent.nominatedPairConfirmed then agent
    else if agent.nominatedPairIdx = some idx then
      { agent with nominatedPairConfirmed := true, state := .completed }
    else if agent.nominatedPairIdx = none then agent.nominateBest
    else agent
  else agent

def handleStunResponse (agent : IceAgent) (parsed : ParsedStunMessage) : IceAgent :=
  if parsed.isErrorResponse ∧ parsed.errorCode = ICE_ERROR_ROLE_CONFLICT then
    agent.handleRoleConflict
  else if parsed.isResponse = false then agent
  else
    match agent.pairOfTransaction parsed.transactionId with
    | none => agent
    | some idx =>
        let agent := agent.updatePair idx fun pair => { pair with state := .succeeded }
        let agent := agent.advanceNomination idx
        if agent.state = .connecting then agent.setState .connected else agent

/-- Process a datagram.  The source of a response is not looked at. -/
def handleIncomingData (agent : IceAgent) (data : Bytes) (source : Address) :
    Checked (IceAgent × HandleDataResult) := do
  let parsed ← parseIceStunMessage data
  if parsed.isStun = false then
    pure (agent, { appData := some data, actions := [] })
  else if parsed.isRequest then
    pure (agent.handleIncomingStun data parsed source)
  else
    pure (agent.handleStunResponse parsed, { appData := none, actions := [] })

/-! ## Application data and teardown -/

def sendData (agent : IceAgent) (data : Bytes) : Option IceAction :=
  agent.nominatedPair.map fun pair =>
    { data := data
      targetIp := pair.remoteCand.connectionAddress
      targetPort := pair.remoteCand.port }

/-- Close the agent.  `nominated_pair_confirmed` is not reset. -/
def stop (agent : IceAgent) : IceAgent :=
  { agent.setState .closed with checkList := [], nominatedPairIdx := none }

end IceAgent

end P2pSdk
