import P2pSdk.Dtls.Crypto
import P2pSdk.Dtls.Incoming
import P2pSdk.Dtls.Window

namespace P2pSdk
namespace Dtls

open Foundation Effect

/-!
# The engine of one end (`dtls12/engine.rs`)

The engine keeps the records that came in until they are handled, makes and
packs the records that go out, saves those of the current flight to send them
again, and arms the timers.  A method that returns an error leaves the engine
changed up to there.

The pool of buffers is not modelled: a buffer taken from it is empty.
Durations and instants are numbers of nanoseconds.
-/

/-! ## Configuration (`config.rs`) -/

inductive Psk where
  | client (identity : Bytes) (resolve : Bytes -> Option Bytes)
  | server (hint : Option Bytes) (resolve : Bytes -> Option Bytes)

/-- A configuration that the builder accepts. -/
structure Config where
  mtu : Nat
  maxQueueRx : Nat
  maxQueueTx : Nat
  requireClientCertificate : Bool
  useServerCookie : Bool
  flightStartRto : Nat
  flightRetries : Nat
  handshakeTimeout : Nat
  cryptoProvider : CryptoProvider
  cipherSuiteFilter : Option (List Dtls12CipherSuite)
  kxGroupFilter : Option (List NamedGroup)
  psk : Option Psk
  mtuLarge : 64 ≤ mtu

namespace Config

/-- The allowed suites.  Those with a shared key are left out when none is configured. -/
def dtls12CipherSuites (self : Config) : List SupportedDtls12CipherSuite :=
  let allowed := self.cryptoProvider.supportedCipherSuites.filter fun supported =>
    match self.cipherSuiteFilter with
    | some list => list.contains supported.suite
    | none => true
  allowed.filter fun supported => self.psk.isSome || !supported.suite.isPsk

def kxGroups (self : Config) : List SupportedKxGroup :=
  self.cryptoProvider.supportedKxGroups.filter fun supported =>
    match self.kxGroupFilter with
    | some list => list.contains supported.name
    | none => true

def pskIdentity (self : Config) : Option Bytes :=
  match self.psk with
  | some (.client identity _) => some identity
  | _ => none

def pskIdentityHint (self : Config) : Option Bytes :=
  match self.psk with
  | some (.server hint _) => hint
  | _ => none

def pskResolver (self : Config) : Option (Bytes -> Option Bytes) :=
  match self.psk with
  | some (.client _ resolve) => some resolve
  | some (.server _ resolve) => some resolve
  | none => none

end Config

/-! ## Randomness and timers (`rng.rs`, `timer.rs`) -/

/-- A generator: what it returns at each draw, read as bytes and as a jitter. -/
structure SeededRng where
  bytes : Nat -> UInt8
  jitter : Nat -> Int
  small : forall draw, (jitter draw).natAbs ≤ 250000000
  drawn : Nat

/-- The bytes that the next draws return. -/
def SeededRng.peek (self : SeededRng) (count : Nat) : Bytes :=
  (List.range count).map fun index => self.bytes (self.drawn + index)

theorem SeededRng.peek_length (self : SeededRng) (count : Nat) : (self.peek count).length = count := by
  unfold peek
  rw [List.length_map, List.length_range]

structure ExponentialBackoff where
  startRto : Nat
  retries : Nat
  jitter : Int
  currentRto : Nat
  left : Nat
  deriving DecidableEq, Repr

namespace ExponentialBackoff

def new (startRto retries : Nat) (jitter : Int) : ExponentialBackoff :=
  { startRto, retries, jitter, currentRto := startRto, left := retries }

def reset (self : ExponentialBackoff) (jitter : Int) : ExponentialBackoff :=
  { self with currentRto := self.startRto, jitter, left := self.retries }

/-- The time to wait: the current one with the jitter, and no less than 50 ms. -/
def rto (self : ExponentialBackoff) : Nat := max ((self.currentRto : Int) + self.jitter).toNat 50000000

def attempt (self : ExponentialBackoff) (jitter : Int) : ExponentialBackoff :=
  if self.left = 0 then self
  else { self with left := self.left - 1, jitter, currentRto := self.currentRto * 2 }

def canRetry (self : ExponentialBackoff) : Bool := decide (0 < self.left)

end ExponentialBackoff

inductive Timeout where
  | disabled
  | unarmed
  | armed (deadline : Nat)
  deriving DecidableEq, Repr

/-! ## The state -/

/-- A fragment of the current flight, as it was before encryption. -/
structure Entry where
  contentType : ContentType
  epoch : UInt16
  fragment : Bytes
  deriving DecidableEq, Repr

structure Engine where
  config : Config
  rng : SeededRng
  sequenceEpoch0 : Sequence
  sequenceEpochN : Sequence
  queueRx : List Incoming
  queueTx : List Bytes
  cipherSuite : Option Dtls12CipherSuite
  explicitNonceLen : Nat
  tagLen : Nat
  cryptoContext : CryptoContext
  peerEncryptionEnabled : Bool
  isClient : Bool
  peerHandshakeSeqNo : UInt16
  nextHandshakeSeqNo : UInt16
  transcript : Bytes
  replay : ReplayWindow
  flightSavedRecords : List Entry
  flightBackoff : ExponentialBackoff
  flightTimeout : Timeout
  connectTimeout : Timeout
  releaseAppData : Bool
  closeNotifyReceived : Bool
  closeNotifyReported : Bool

/-- What an end gives to its user. -/
inductive Output where
  | packet (bytes : Bytes)
  | timeout (deadline : Nat)
  | connected
  | peerCert (certificate : Bytes)
  | keyingMaterial (material : Bytes) (profile : SrtpProfile)
  | applicationData (bytes : Bytes)
  | closeNotify
  deriving DecidableEq, Repr

namespace Engine

/-- An effect on the engine. -/
abbrev Action := Effect Engine Fault

def failWith {Value : Type} (error : Error) : Action Value := fail (.error error)

def new (config : Config) (auth : AuthMode) (rng : SeededRng) : Engine where
  config := config
  rng := { rng with drawn := rng.drawn + 1 }
  sequenceEpoch0 := .new 0
  sequenceEpochN := .new 1
  queueRx := []
  queueTx := []
  cipherSuite := none
  explicitNonceLen := 0
  tagLen := 0
  cryptoContext := .new auth config.cryptoProvider
  peerEncryptionEnabled := false
  isClient := false
  peerHandshakeSeqNo := 0
  nextHandshakeSeqNo := 0
  transcript := []
  replay := .new
  flightSavedRecords := []
  flightBackoff := .new config.flightStartRto config.flightRetries (rng.jitter rng.drawn)
  flightTimeout := .unarmed
  connectTimeout := .unarmed
  releaseAppData := false
  closeNotifyReceived := false
  closeNotifyReported := false

/-- Draw some bytes. -/
def randomBytes (count : Nat) : Action Bytes := do
  let self ← get
  modify fun self => { self with rng := { self.rng with drawn := self.rng.drawn + count } }
  return self.rng.peek count

def drawJitter : Action Int := do
  let self ← get
  modify fun self => { self with rng := { self.rng with drawn := self.rng.drawn + 1 } }
  return self.rng.jitter self.rng.drawn

def cryptoFault (toError : String -> Error) : CryptoContext.Failure -> Fault
  | .text message => .error (toError message)
  | .panic => .panic

/-- Run an effect on the keys, and make an error of the text it fails with. -/
def onCryptoContext {Value : Type} (toError : String -> Error) (action : CryptoContext.Action Value) :
    Action Value := fun self =>
  ((action self.cryptoContext).1.mapError (cryptoFault toError),
    { self with cryptoContext := (action self.cryptoContext).2 })

theorem ends_onCryptoContext {Value : Type} {toError : String -> Error} {action : CryptoContext.Action Value}
    {returned : Value -> Engine -> Prop} {failed : Fault -> Engine -> Prop} {before : Engine} :
    (onCryptoContext toError action).Ends returned failed before <->
      action.Ends (fun value context => returned value { before with cryptoContext := context })
        (fun failure context => failed (cryptoFault toError failure) { before with cryptoContext := context })
        before.cryptoContext := by
  unfold Ends onCryptoContext
  dsimp only
  rcases action before.cryptoContext with ⟨outcome, context⟩
  cases outcome with
  | error failure => rfl
  | ok value => rfl

def aeadOverhead (self : Engine) : Nat := self.explicitNonceLen + self.tagLen

def isCipherSuiteAllowed (self : Engine) (suite : Dtls12CipherSuite) : Bool :=
  self.config.dtls12CipherSuites.any fun supported => supported.suite == suite

/-- A suite that the provider does not have is a panic. -/
def setCipherSuite (cipherSuite : Dtls12CipherSuite) : Action Unit := do
  let self ← get
  match self.cryptoContext.provider.cipherSuite cipherSuite with
  | none => fail .panic
  | some supported =>
      modify fun self =>
        { self with
          explicitNonceLen := supported.explicitNonceLen
          tagLen := supported.tagLen
          cipherSuite := some cipherSuite }

/-! ## Records that go out -/

def writeIv (self : Engine) : Option Iv :=
  if self.isClient then self.cryptoContext.clientWriteIv else self.cryptoContext.serverWriteIv

def roleName (self : Engine) : String := if self.isClient then "Client" else "Server"

/-- The nonce of a record, and the part of it that is sent along. -/
def writeNonce (iv : Iv) (sequence : Sequence) : Action (Nonce × Bytes) := do
  let self ← get
  if self.explicitNonceLen = 0 then
    return (← ofExcept (Nonce.xor iv sequence.seq64), [])
  else if self.explicitNonceLen = DTLSRecord.explicitNonceLen then
    let explicitNonce ← randomBytes DTLSRecord.explicitNonceLen
    return (← ofExcept (Nonce.new iv explicitNonce), explicitNonce)
  else
    failWith (.cryptoError ("Unsupported DTLS 1.2 record_iv_len=" ++ toString self.explicitNonceLen ++ " for " ++
      (self.cipherSuite.map Dtls12CipherSuite.debug).getD ""))

/-- Encrypt a fragment and put the explicit nonce in front. -/
def protect (contentType : ContentType) (sequence : Sequence) (fragment : Bytes) : Action Bytes := do
  let self ← get
  match self.writeIv with
  | none => failWith (.cryptoError (self.roleName ++ " write IV not available"))
  | some iv =>
      let (nonce, explicitNonce) ← writeNonce iv sequence
      let aad := Aad.newDtls12 contentType sequence (UInt16.ofNat fragment.length)
      match self.cryptoContext.encrypt self.isClient fragment aad nonce with
      | .error message => failWith (.cryptoError (self.roleName ++ " encryption failed: " ++ message))
      | .ok ciphertext => return explicitNonce ++ ciphertext

/-- Whether a record of this size goes into the last datagram of the queue. -/
def canAppend (self : Engine) (recordWireLen : Nat) : Bool :=
  match self.queueTx.getLast? with
  | some last => decide (last.length + recordWireLen ≤ self.config.mtu)
  | none => false

/-- Put a record into the last datagram, or into a new one. -/
def appendRecord (queueTx : List Bytes) (append : Bool) (record : Bytes) : List Bytes :=
  match append, queueTx.getLast? with
  | true, some last => queueTx.dropLast ++ [last ++ record]
  | _, _ => queueTx ++ [record]

def countRecord (epoch : UInt16) (self : Engine) : Engine :=
  if epoch = 0 then
    { self with
      sequenceEpoch0 :=
        { self.sequenceEpoch0 with sequenceNumber := self.sequenceEpoch0.sequenceNumber + 1 } }
  else
    { self with
      sequenceEpochN :=
        { self.sequenceEpochN with sequenceNumber := self.sequenceEpochN.sequenceNumber + 1 } }

def saveFragment (contentType : ContentType) (epoch : UInt16) (fragment : Bytes) (self : Engine) : Engine :=
  { self with flightSavedRecords := self.flightSavedRecords ++ [{ contentType, epoch, fragment }] }

def sequenceOf (self : Engine) (epoch : UInt16) : Sequence :=
  if epoch = 0 then self.sequenceEpoch0 else self.sequenceEpochN

/-- What a record carries of a fragment. -/
def payloadOf (contentType : ContentType) (epoch : UInt16) (sequence : Sequence) (fragment : Bytes) :
    Action Bytes :=
  if epoch = 0 then pure fragment else protect contentType sequence fragment

/-- Write a record with the next sequence number of its epoch into the queue. -/
def writeRecord (contentType : ContentType) (epoch : UInt16) (fragment : Bytes) (append : Bool) :
    Action Unit := do
  let self ← get
  let sequence := self.sequenceOf epoch
  let payload ← payloadOf contentType epoch sequence fragment
  let record : DTLSRecord :=
    { contentType, version := .dtls1_2, sequence, length := UInt16.ofNat payload.length, fragment := payload }
  modify (countRecord epoch)
  modify fun self => { self with queueTx := appendRecord self.queueTx append record.serialize }

def createRecord (contentType : ContentType) (epoch : UInt16) (save : Bool) (fragment : Bytes) :
    Action Unit := do
  let self ← get
  if epoch ≠ 0 ∧ self.cipherSuite = none then failWith (.unexpectedMessage "No cipher suite selected")
  else
    modify fun self => if save then self.saveFragment contentType epoch fragment else self
    let overhead := if epoch = 0 then 0 else self.aeadOverhead
    let append := self.canAppend (DTLSRecord.headerLen + fragment.length + overhead)
    if append = false ∧ self.config.maxQueueTx ≤ self.queueTx.length then failWith .transmitQueueFull
    else writeRecord contentType epoch fragment append

/-- How much of a message fits behind the headers: into the last datagram, or else into a new one. -/
def roomForBody (self : Engine) (aeadOverhead : Nat) : Nat :=
  let used := (self.queueTx.getLast?.map List.length).getD 0
  let available := self.config.mtu - used
  let fixed := DTLSRecord.headerLen + Header.headerLen + aeadOverhead
  if fixed < available then available - fixed else self.config.mtu - fixed

/-- Send the rest of a message in fragments.  A round sends a byte at least, or, where the
headers alone fill a datagram, takes a place of the queue. -/
def sendFragments (header : Header) (body : Bytes) (epoch : UInt16) (aeadOverhead : Nat) :
    Nat -> Nat -> Action Unit
  | 0, _ => pure ()
  | fuel + 1, offset =>
      if offset < body.length ∨ (body.length = 0 ∧ offset = 0) then do
        let self ← get
        let chunkLen := min (body.length - offset) (self.roomForBody aeadOverhead)
        let fragment : Handshake :=
          { header := { header with fragmentOffset := offset, fragmentLength := chunkLen }
            body := .fragment ((body.drop offset).take chunkLen)
            handled := false }
        createRecord .handshake epoch true fragment.serialize
        if body.length = 0 then pure ()
        else sendFragments header body epoch aeadOverhead fuel (offset + chunkLen)
      else pure ()

/-- Append a handshake message to the transcript and send it in fragments. -/
def sendHandshake (msgType : MessageType) (body : Bytes) : Action Unit := do
  let self ← get
  let header : Header :=
    { msgType
      length := body.length
      messageSeq := self.nextHandshakeSeqNo
      fragmentOffset := 0
      fragmentLength := body.length }
  modify fun self =>
    { self with
      transcript := self.transcript ++ (header.serialize ++ body)
      nextHandshakeSeqNo := self.nextHandshakeSeqNo + 1 }
  if msgType.epoch ≠ 0 ∧ self.cipherSuite = none then
    failWith (.unexpectedMessage "No cipher suite selected")
  else
    sendFragments header body msgType.epoch (if msgType.epoch = 0 then 0 else self.aeadOverhead)
      (body.length + self.config.maxQueueTx + 2) 0

/-- Make a handshake message and send it. -/
def createHandshake (msgType : MessageType) (fill : Action Bytes) : Action Unit := do
  let body ← fill
  sendHandshake msgType body

/-! ## Flights -/

def flightBegin : Action Unit := do
  let jitter ← drawJitter
  modify fun self =>
    { self with
      flightBackoff := self.flightBackoff.reset jitter
      flightSavedRecords := []
      flightTimeout := .unarmed }

def flightStopResendTimers : Action Unit :=
  modify fun self => { self with flightTimeout := .disabled, connectTimeout := .disabled }

/-- Send the saved fragments again, in new records.  They are taken out meanwhile, and an
error leaves them out. -/
def flightResend : Action Unit := do
  let self ← get
  modify fun self => { self with flightSavedRecords := [] }
  each self.flightSavedRecords fun entry => createRecord entry.contentType entry.epoch false entry.fragment
  modify fun after => { after with flightSavedRecords := self.flightSavedRecords }

/-- Forget what is to be sent and disable the timers. -/
def abort : Action Unit :=
  modify fun self =>
    { self with queueTx := [], flightSavedRecords := [], flightTimeout := .disabled, connectTimeout := .disabled }

def discardPendingWrites : Action Unit := modify fun self => { self with queueTx := [] }

/-! ## Records that come in -/

def peerIv (self : Engine) : Except Fault Iv :=
  match if self.isClient then self.cryptoContext.serverWriteIv else self.cryptoContext.clientWriteIv with
  | some iv => .ok iv
  | none => .error .panic

/-- The length of the plaintext is what is left of the length in the header. -/
def decryptionAadAndNonce (self : Engine) (record : DTLSRecord) : Except Fault (Aad × Nonce) := do
  let plaintextLen := UInt16.ofNat (record.length.toNat - self.aeadOverhead % 2 ^ 16)
  let aad := Aad.newDtls12 record.contentType record.sequence plaintextLen
  let iv ← self.peerIv
  if self.explicitNonceLen = 0 then return (aad, ← Nonce.xor iv record.sequence.seq64)
  -- The explicit nonce is read off the fragment without a look at its length.
  else if record.fragment.length < self.explicitNonceLen then .error .panic
  else return (aad, ← Nonce.new iv (record.fragment.take self.explicitNonceLen))

def decryptData (ciphertext : Bytes) (aad : Aad) (nonce : Nonce) : Action Bytes := do
  let self ← get
  match self.cryptoContext.decrypt self.isClient ciphertext aad nonce with
  | .ok plaintext => return plaintext
  | .error message => failWith (.cryptoError (self.roleName ++ " decryption failed: " ++ message))

def fatalAlert (level description : UInt8) : Error :=
  .securityError ("Received fatal alert: level=" ++ toString level ++ ", description=" ++ toString description)

/-- An alert in plaintext counts only before the peer has switched to encryption. -/
def classifyPlaintextAlert (fragment : Bytes) : Action Unit := do
  let self ← get
  if self.peerEncryptionEnabled then pure ()
  else
    match fragment with
    | 2 :: description :: _ => failWith (fatalAlert 2 description)
    | _ => pure ()

def classifyAlert (fragment : Bytes) : Action Unit :=
  match fragment with
  | level :: description :: _ =>
      if description = 0 then modify fun self => { self with closeNotifyReceived := true }
      else if level = 2 then failWith (fatalAlert level description)
      else pure ()
  | _ => pure ()

/-- Alerts are consumed, and so are data behind the end of the connection. -/
def classifyRecord (record : Record) : Action (Option Record) := do
  let self ← get
  let fragment := record.parsed.record.fragment
  if record.parsed.record.contentType = .alert then
    if record.parsed.record.sequence.epoch = 0 then
      classifyPlaintextAlert fragment
      return none
    else if self.peerEncryptionEnabled = false then return some record
    else
      classifyAlert fragment
      return none
  else if self.closeNotifyReceived ∧ record.parsed.record.contentType = .applicationData then return none
  else return some record

def recordHandler : RecordHandler Engine where
  classifyRecord := classifyRecord
  isPeerEncryptionEnabled := Engine.peerEncryptionEnabled
  replayCheck := fun self sequence => self.replay.check (UInt64.ofNat sequence.sequenceNumber)
  replayUpdate := fun sequence self =>
    { self with replay := self.replay.update (UInt64.ofNat sequence.sequenceNumber) }
  decryptionAadAndNonce := decryptionAadAndNonce
  explicitNonceLen := Engine.explicitNonceLen
  decryptData := decryptData

section Queue

variable (search : BinarySearch Incoming)

/-- The place of a datagram among those with handshake messages: the number of the first
message, and the offset of its fragment. -/
def handshakeKey (incoming : Incoming) : Nat × Nat :=
  match incoming.first.parsed.handshakes.items.head? with
  | some handshake => (handshake.header.messageSeq.toNat, handshake.header.fragmentOffset)
  | none => (2 ^ 16 - 1, 2 ^ 32 - 1)

def compareKeys (first second : Nat × Nat) : Ordering := (compare first.1 second.1).then (compare first.2 second.2)

/-- Insert a datagram where the search says, unless there is one like it. -/
def enqueue (incoming : Incoming) (order : Incoming -> Ordering) : Action Bool := do
  let self ← get
  match search.search self.queueRx order with
  | .error place =>
      modify fun self => { self with queueRx := insertAt self.queueRx place incoming }
      return true
  | .ok _ => return false

/-- The first fragment that may be a duplicate of an answered message decides. -/
def resendOnDuplicate (incoming : Incoming) : Action Unit := do
  let self ← get
  let firsts := incoming.records.items.filterMap fun record => record.parsed.handshakes.items.head?
  match (firsts.filterMap Handshake.dupeTriggersResend).head? with
  | some dupeSeq => if dupeSeq < self.peerHandshakeSeqNo then flightResend else pure ()
  | none => pure ()

def insertIncomingHandshake (incoming : Incoming) (handshake : Handshake) : Action Unit := do
  let self ← get
  resendOnDuplicate incoming
  if handshake.header.messageSeq < self.peerHandshakeSeqNo then pure ()
  else if self.releaseAppData then failWith .renegotiationAttempt
  else
    let _ ← enqueue search incoming fun item => compareKeys (handshakeKey item) (handshakeKey incoming)

/-- A duplicate of a later epoch is a panic.  The replay window keeps such records out only once the peer
has switched to encryption: before, the same record of epoch 1 may come twice. -/
def insertIncomingNonHandshake (incoming : Incoming) : Action Unit := do
  let sequence := incoming.first.parsed.record.sequence
  let inserted ← enqueue search incoming fun item => item.first.parsed.record.sequence.cmp sequence
  if inserted = false ∧ sequence.epoch ≠ 0 then fail .panic else pure ()

def insertIncoming (incoming : Incoming) : Action Unit := do
  let self ← get
  if self.config.maxQueueRx ≤ self.queueRx.length then failWith .receiveQueueFull
  else
    match incoming.first.parsed.handshakes.items.head? with
    | some handshake => insertIncomingHandshake search incoming handshake
    | none => insertIncomingNonHandshake search incoming

def parsePacket (packet : Bytes) : Action Unit := do
  let self ← get
  match ← Incoming.parsePacket recordHandler packet self.cipherSuite with
  | some incoming => insertIncoming search incoming
  | none => pure ()

/-- Decrypt from now on, and the records that came too early: all from the first datagram with
one of epoch 1. -/
def enablePeerEncryption : Action Unit := do
  modify fun self => { self with peerEncryptionEnabled := true }
  let self ← get
  match self.queueRx.findIdx? fun incoming =>
      incoming.records.items.any fun record => record.parsed.record.sequence.epoch == 1 with
  | none => pure ()
  | some index =>
      modify fun self => { self with queueRx := self.queueRx.take index }
      let early := (self.queueRx.drop index).flatMap fun incoming =>
        incoming.records.items.filter fun record => !record.isHandled
      each early fun record => parsePacket search record.buffer

end Queue

/-! ## Taking records from the queue -/

def records (queueRx : List Incoming) : List Record := queueRx.flatMap fun incoming => incoming.records.items

def handshakes (records : List Record) : List Handshake :=
  records.flatMap fun record => record.parsed.handshakes.items

def maxDefragmentPackets : Nat := 50

/-- Whether the fragments of a message follow on each other up to its end.  Those of other
messages are passed over. -/
def contiguous (wantedSeq : UInt16) (wantedLength : Nat) : Nat -> List Handshake -> Bool
  | _, [] => false
  | lastFragmentEnd, handshake :: rest =>
      if handshake.header.messageSeq ≠ wantedSeq then contiguous wantedSeq wantedLength lastFragmentEnd rest
      else if handshake.header.fragmentOffset ≠ lastFragmentEnd then false
      else
        let fragmentEnd := handshake.header.fragmentOffset + handshake.header.fragmentLength
        if fragmentEnd = wantedLength then true else contiguous wantedSeq wantedLength fragmentEnd rest

/-- The fragments that were not handled yet, from the first one on. -/
def pending (records : List Record) : List Handshake := (handshakes records).dropWhile Handshake.handled

def hasCompleteHandshake (self : Engine) (wanted : MessageType) : Bool :=
  let unhandled := (records self.queueRx).dropWhile Record.isHandled
  let fragments := pending (unhandled.take maxDefragmentPackets)
  match fragments with
  | [] => false
  | first :: _ =>
      if first.header.messageSeq ≠ self.peerHandshakeSeqNo then false
      else if first.header.msgType ≠ wanted then false
      else contiguous first.header.messageSeq first.header.length 0 fragments

/-- Where a pass through the fragments is: before the first that was not handled, at those of
one type, or behind them. -/
inductive Phase where
  | skipping
  | marking (msgType : MessageType)
  | done
  deriving DecidableEq, Repr

/-- Mark the fragments that `defragment` merges. -/
def markHandshake (phase : Phase) (handshake : Handshake) : Phase × Handshake :=
  match phase with
  | .skipping =>
      if handshake.handled then (.skipping, handshake)
      else (.marking handshake.header.msgType, { handshake with handled := true })
  | .marking msgType =>
      if handshake.header.msgType = msgType then (.marking msgType, { handshake with handled := true })
      else (.done, handshake)
  | .done => (.done, handshake)

def markRecord (phase : Phase) (record : Record) : Phase × Record :=
  let changed := record.parsed.passing markHandshake phase
  (changed.1, { record with parsed := changed.2 })

def markHandshakes (queueRx : List Incoming) : List Incoming :=
  (passing (Incoming.passing markRecord) .skipping queueRx).2

def nextHandshake (wanted : MessageType) : Action (Option Handshake) := do
  let self ← get
  if self.hasCompleteHandshake wanted = false then return none
  else
    let fragments := pending ((records self.queueRx).dropWhile Record.isHandled)
    modify fun self => { self with queueRx := markHandshakes self.queueRx }
    let handshake ← zoom Engine.transcript (fun transcript self => { self with transcript })
      (Handshake.defragment self.cipherSuite fragments)
    modify fun self => { self with peerHandshakeSeqNo := handshake.header.messageSeq + 1 }
    return some handshake

/-- Mark a record that has no fragments. -/
def setHandled (record : Record) : Record := { record with parsed := { record.parsed with handled := true } }

/-- Mark the first record that passes the test. -/
def markFirst (test : Record -> Bool) (found : Bool) (record : Record) : Bool × Record :=
  if found then (true, record)
  else if test record then (true, setHandled record)
  else (false, record)

def markFirstRecord (test : Record -> Bool) (queueRx : List Incoming) : List Incoming :=
  (passing (Incoming.passing (markFirst test)) false queueRx).2

/-- The first record that was not handled, when it is of this type. -/
def nextRecord (contentType : ContentType) : Action (Option Record) := do
  let self ← get
  match (records self.queueRx).find? fun record => !record.isHandled with
  | none => return none
  | some record =>
      if record.parsed.record.contentType ≠ contentType then return none
      else if record.parsed.handshakes.items.isEmpty then
        modify fun self =>
          { self with queueRx := markFirstRecord (fun record => !record.isHandled) self.queueRx }
        return some record
      else fail .panic

/-- Mark a switch to encryption wherever it stands. -/
def markCcs (record : Record) : Record :=
  if record.parsed.record.contentType = .changeCipherSpec then setHandled record else record

def dropPendingCcs : Action Unit :=
  modify fun self =>
    { self with
      queueRx := (passing (Incoming.passing fun (_ : Unit) record => ((), markCcs record)) () self.queueRx).2 }

/-! ## Timeouts and output -/

def armTimeouts (now : Nat) (self : Engine) : Engine :=
  { self with
    connectTimeout :=
      if self.connectTimeout = .unarmed then .armed (now + self.config.handshakeTimeout) else self.connectTimeout
    flightTimeout :=
      if self.flightTimeout = .unarmed then .armed (now + self.flightBackoff.rto) else self.flightTimeout }

def isDue (timeout : Timeout) (now : Nat) : Bool :=
  match timeout with
  | .armed deadline => decide (deadline ≤ now)
  | _ => false

def handleTimeout (now : Nat) : Action Unit := do
  modify (armTimeouts now)
  let self ← get
  if isDue self.connectTimeout now then failWith (.timeout "connect")
  else if isDue self.flightTimeout now then
    if self.flightBackoff.canRetry then
      let jitter ← drawJitter
      modify fun self => { self with flightBackoff := self.flightBackoff.attempt jitter }
      modify fun self => { self with flightTimeout := .armed (now + self.flightBackoff.rto) }
      flightResend
    else failWith (.timeout "handshake")
  else pure ()

/-- Drop the datagrams at the front that are handled. -/
def purgeHandledQueueRx (self : Engine) : Engine :=
  { self with
    queueRx := self.queueRx.dropWhile fun incoming => incoming.records.items.all Record.isHandled }

def isPendingData (record : Record) : Bool :=
  decide (record.parsed.record.contentType = .applicationData) && !record.isHandled

/-- A buffer of the caller that is too small is a panic. -/
def pollAppData (room : Nat) : Action (Option Bytes) := do
  let self ← get
  if self.releaseAppData = false then return none
  else
    match (records self.queueRx).find? isPendingData with
    | none => return none
    | some record =>
        if record.parsed.handshakes.items.isEmpty ∧ record.parsed.record.fragment.length ≤ room then
          modify fun self => { self with queueRx := markFirstRecord isPendingData self.queueRx }
          return some record.parsed.record.fragment
        else fail .panic

def pollPacketTx (room : Nat) : Action (Option Bytes) := do
  let self ← get
  match self.queueTx with
  | [] => return none
  | packet :: rest =>
      modify fun self => { self with queueTx := rest }
      if packet.length ≤ room then return some packet else fail .panic

def distantFuture : Nat := 10 * 365 * 24 * 60 * 60 * 1000000000

def pollTimeout (self : Engine) (now : Nat) : Nat :=
  match self.connectTimeout, self.flightTimeout with
  | .disabled, .disabled => now + distantFuture
  | .armed connect, .armed flight => if connect < flight then connect else flight
  | .armed connect, _ => connect
  | _, .armed flight => flight
  | _, _ => now

def pollOutput (room now : Nat) : Action Output := do
  modify purgeHandledQueueRx
  match ← pollAppData room with
  | some data => return .applicationData data
  | none =>
      match ← pollPacketTx room with
      | some packet => return .packet packet
      | none =>
          let self ← get
          if self.closeNotifyReceived && !self.closeNotifyReported then
            modify fun self => { self with closeNotifyReported := true }
            return .closeNotify
          else return .timeout (self.pollTimeout now)

/-! ## The transcript -/

def transcriptHash (self : Engine) (algorithm : HashAlgorithm) : Bytes :=
  self.cryptoContext.provider.hash algorithm self.transcript

def generateVerifyData (isClient : Bool) : Action Bytes := do
  let self ← get
  match self.cipherSuite with
  | none => failWith (.unexpectedMessage "No cipher suite selected")
  | some suite =>
      match self.cryptoContext.generateVerifyData (self.transcriptHash suite.hashAlgorithm) isClient
          suite.hashAlgorithm with
      | .error message => failWith (.cryptoError ("Failed to generate verify data: " ++ message))
      | .ok verifyData =>
          if verifyData.length ≠ 12 then failWith (.cryptoError "Invalid verify data length")
          else return verifyData

/-- The messages before a HelloVerifyRequest are no part of the transcript. -/
def resetServerForHelloVerifyRequest : Action Unit :=
  modify fun self => { self with transcript := [], queueRx := [] }

def resetClientForHelloVerifyRequest : Action Unit := modify fun self => { self with transcript := [] }

def releaseApplicationData : Action Unit := modify fun self => { self with releaseAppData := true }

end Engine

end Dtls
end P2pSdk
