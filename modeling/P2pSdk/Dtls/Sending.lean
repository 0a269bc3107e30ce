import P2pSdk.Dtls.Engine
import Mathlib.Data.List.Flatten

namespace P2pSdk
namespace Dtls

open Foundation Effect

/-!
# What the engine sends

The datagrams that were given out and those in the queue are made of whole
records.  The records carry the numbers of their epoch in ascending order, also
when a flight is sent again, and a datagram that is larger than the limit holds
one record only.
-/

namespace Engine

/-! ## The parts of the engine -/

/-- What is agreed in the handshake. -/
structure Keying where
  config : Config
  cipherSuite : Option Dtls12CipherSuite
  explicitNonceLen : Nat
  tagLen : Nat
  cryptoContext : CryptoContext
  isClient : Bool

/-- The part of the engine that is about receiving. -/
structure Inbox where
  queueRx : List Incoming
  peerEncryptionEnabled : Bool
  peerHandshakeSeqNo : UInt16
  replay : ReplayWindow
  releaseAppData : Bool
  closeNotifyReceived : Bool
  closeNotifyReported : Bool

/-- The part of the engine that is about sending. -/
structure Outbox where
  sequenceEpoch0 : Sequence
  sequenceEpochN : Sequence
  queueTx : List Bytes

def keying (self : Engine) : Keying where
  config := self.config
  cipherSuite := self.cipherSuite
  explicitNonceLen := self.explicitNonceLen
  tagLen := self.tagLen
  cryptoContext := self.cryptoContext
  isClient := self.isClient

def inbox (self : Engine) : Inbox where
  queueRx := self.queueRx
  peerEncryptionEnabled := self.peerEncryptionEnabled
  peerHandshakeSeqNo := self.peerHandshakeSeqNo
  replay := self.replay
  releaseAppData := self.releaseAppData
  closeNotifyReceived := self.closeNotifyReceived
  closeNotifyReported := self.closeNotifyReported

def outbox (self : Engine) : Outbox where
  sequenceEpoch0 := self.sequenceEpoch0
  sequenceEpochN := self.sequenceEpochN
  queueTx := self.queueTx

/-- What sending leaves as it is. -/
structure Beside (before after : Engine) : Prop where
  keying : after.keying = before.keying
  inbox : after.inbox = before.inbox
  transcript : after.transcript = before.transcript

/-- An effect on what is sent only. -/
def Sends {Value : Type} (action : Action Value) : Prop := forall before, Keeps (Beside before) action

section Rules

variable {Value Result : Type} {first : Action Value}

theorem sends_modify {change : Engine -> Engine}
    (same : forall engine, Beside engine (change engine)) : Sends (modify change) :=
  fun _ => keeps_modify fun engine held =>
    ⟨(same engine).keying.trans held.keying, (same engine).inbox.trans held.inbox,
      (same engine).transcript.trans held.transcript⟩

theorem Sends.bind {next : Value -> Action Result} (sendsFirst : Sends first)
    (sendsNext : forall value, Sends (next value)) : Sends (first >>= next) :=
  fun before => (sendsFirst before).bind fun value => sendsNext value before

theorem sends_pure (value : Value) : Sends (pure value) := fun _ => keeps_pure value

theorem sends_get : Sends get := fun _ => keeps_get

theorem sends_fail (fault : Fault) : Sends (fail fault : Action Value) := fun _ => keeps_fail fault

theorem sends_ofExcept (result : Except Fault Value) : Sends (ofExcept result) := fun _ => keeps_ofExcept result

theorem Sends.ite {condition : Prop} [Decidable condition] {second : Action Value} (sendsFirst : Sends first)
    (sendsSecond : Sends second) : Sends (if condition then first else second) :=
  fun before => (sendsFirst before).ite (sendsSecond before)

theorem sends_each {Item : Type} {items : List Item} {body : Item -> Action Unit}
    (sends : forall item, Sends (body item)) : Sends (each items body) :=
  fun before => Keeps.each fun item _ => sends item before

end Rules

/-! ## Sending leaves the rest alone -/

theorem sends_randomBytes (count : Nat) : Sends (randomBytes count) := by
  refine sends_get.bind fun self => ?_
  refine Sends.bind (sends_modify ?_) fun _ => sends_pure _
  exact fun _ => ⟨rfl, rfl, rfl⟩

theorem sends_drawJitter : Sends drawJitter := by
  refine sends_get.bind fun self => ?_
  refine Sends.bind (sends_modify ?_) fun _ => sends_pure _
  exact fun _ => ⟨rfl, rfl, rfl⟩

theorem sends_writeNonce (iv : Iv) (sequence : Sequence) : Sends (writeNonce iv sequence) := by
  refine sends_get.bind fun self => ?_
  refine ((sends_ofExcept _).bind fun _ => sends_pure _).ite ?_
  refine ((sends_randomBytes _).bind fun _ => (sends_ofExcept _).bind fun _ => sends_pure _).ite ?_
  exact sends_fail _

theorem sends_protect (contentType : ContentType) (sequence : Sequence) (fragment : Bytes) :
    Sends (protect contentType sequence fragment) := by
  refine sends_get.bind fun self => ?_
  cases self.writeIv with
  | none => exact sends_fail _
  | some iv =>
      refine (sends_writeNonce iv sequence).bind fun nonce => ?_
      dsimp only
      split
      · exact sends_fail _
      · exact sends_pure _

theorem sends_writeRecord (contentType : ContentType) (epoch : UInt16) (fragment : Bytes) (append : Bool) :
    Sends (writeRecord contentType epoch fragment append) := by
  refine sends_get.bind fun self => ?_
  refine Sends.bind ((sends_pure _).ite (sends_protect _ _ _)) fun payload => ?_
  refine Sends.bind (sends_modify fun engine => ?_) fun _ => sends_modify ?_
  · unfold countRecord
    split
    · exact ⟨rfl, rfl, rfl⟩
    · exact ⟨rfl, rfl, rfl⟩
  · exact fun _ => ⟨rfl, rfl, rfl⟩

theorem sends_createRecord (contentType : ContentType) (epoch : UInt16) (save : Bool) (fragment : Bytes) :
    Sends (createRecord contentType epoch save fragment) := by
  refine sends_get.bind fun self => (sends_fail _).ite ?_
  refine Sends.bind (sends_modify fun engine => ?_) fun _ => (sends_fail _).ite (sends_writeRecord _ _ _ _)
  split
  · exact ⟨rfl, rfl, rfl⟩
  · exact ⟨rfl, rfl, rfl⟩

theorem sends_sendFragments (header : Header) (body : Bytes) (epoch : UInt16) (overhead fuel offset : Nat) :
    Sends (sendFragments header body epoch overhead fuel offset) := by
  induction fuel generalizing offset with
  | zero => exact sends_pure ()
  | succ fuel ih =>
      refine Sends.ite (sends_get.bind fun self => ?_) (sends_pure ())
      exact (sends_createRecord _ _ _ _).bind fun _ => (sends_pure ()).ite (ih _)

theorem sends_flightBegin : Sends flightBegin := by
  refine sends_drawJitter.bind fun _ => sends_modify ?_
  exact fun _ => ⟨rfl, rfl, rfl⟩

theorem sends_flightResend : Sends flightResend := by
  refine sends_get.bind fun self => Sends.bind (sends_modify ?_) fun _ => ?_
  · exact fun _ => ⟨rfl, rfl, rfl⟩
  · refine (sends_each fun entry => sends_createRecord _ _ _ _).bind fun _ => sends_modify ?_
    exact fun _ => ⟨rfl, rfl, rfl⟩

/-! ## Records as they are made -/

def Keying.writeIv (self : Keying) : Option Iv :=
  if self.isClient then self.cryptoContext.clientWriteIv else self.cryptoContext.serverWriteIv

def Keying.aeadOverhead (self : Keying) : Nat := self.explicitNonceLen + self.tagLen

/-- What goes into the encryption of a record and what comes out. -/
structure Sealing where
  iv : Iv
  nonce : Nonce
  explicitNonce : Bytes
  plaintext : Bytes
  ciphertext : Bytes

/-- The nonce is made from the sequence number, or from bytes that are sent along. -/
def NonceFor (explicitNonceLen : Nat) (iv : Iv) (sequence : Sequence) (explicitNonce : Bytes) (nonce : Nonce) :
    Prop :=
  (explicitNonceLen = 0 ∧ explicitNonce = [] ∧ Nonce.xor iv sequence.seq64 = .ok nonce) ∨
    (explicitNonceLen = DTLSRecord.explicitNonceLen ∧ explicitNonce.length = DTLSRecord.explicitNonceLen ∧
      Nonce.new iv explicitNonce = .ok nonce)

theorem NonceFor.length {explicitNonceLen : Nat} {iv : Iv} {sequence : Sequence} {explicitNonce : Bytes}
    {nonce : Nonce} (made : NonceFor explicitNonceLen iv sequence explicitNonce nonce) :
    explicitNonce.length = explicitNonceLen := by
  rcases made with ⟨implicit, nothing, _⟩ | ⟨explicit, sized, _⟩
  · rw [implicit, nothing]
    rfl
  · rw [explicit, sized]

/-- The record carries the encryption of a text, with its own header as additional data. -/
structure SealedBy (keying : Keying) (record : DTLSRecord) (sealing : Sealing) : Prop where
  iv : keying.writeIv = some sealing.iv
  nonce : NonceFor keying.explicitNonceLen sealing.iv record.sequence sealing.explicitNonce sealing.nonce
  encrypted : keying.cryptoContext.encrypt keying.isClient sealing.plaintext
    (Aad.newDtls12 record.contentType record.sequence (UInt16.ofNat sealing.plaintext.length)) sealing.nonce =
      .ok sealing.ciphertext
  fragment : record.fragment = sealing.explicitNonce ++ sealing.ciphertext

/-- A record that was made of a fragment. -/
structure MadeOf (keying : Keying) (fragment : Bytes) (record : DTLSRecord) : Prop where
  version : record.version = .dtls1_2
  length : record.length = UInt16.ofNat record.fragment.length
  plain : record.sequence.epoch = 0 -> record.fragment = fragment
  sealed : record.sequence.epoch ≠ 0 -> exists sealing, SealedBy keying record sealing ∧ sealing.plaintext = fragment

/-- The ciphers lengthen a text by their tag. -/
def Keying.LengthensByTag (keying : Keying) : Prop :=
  forall plaintext aad nonce ciphertext,
    keying.cryptoContext.encrypt keying.isClient plaintext aad nonce = .ok ciphertext ->
      ciphertext.length = plaintext.length + keying.tagLen

theorem MadeOf.fragment_length {keying : Keying} {fragment : Bytes} {record : DTLSRecord}
    (made : MadeOf keying fragment record) (lengthens : keying.LengthensByTag) :
    record.fragment.length = fragment.length + if record.sequence.epoch = 0 then 0 else keying.aeadOverhead := by
  by_cases isPlain : record.sequence.epoch = 0
  · rw [if_pos isPlain, made.plain isPlain, Nat.add_zero]
  · rcases made.sealed isPlain with ⟨sealing, sealed, rfl⟩
    rw [if_neg isPlain, sealed.fragment, List.length_append, sealed.nonce.length,
      lengthens _ _ _ _ sealed.encrypted, Keying.aeadOverhead]
    omega

theorem writeNonce_ends (iv : Iv) (sequence : Sequence) (before : Engine) :
    (writeNonce iv sequence).Ends
      (fun made after => NonceFor before.explicitNonceLen iv sequence made.2 made.1 ∧ after.outbox = before.outbox)
      (fun _ after => after.outbox = before.outbox) before := by
  unfold writeNonce
  rw [ends_bind, ends_get, ends_ite]
  refine ⟨fun implicit => ?_, fun _ => ?_⟩
  · rw [ends_bind]
    cases made : Nonce.xor iv sequence.seq64 with
    | error fault => exact rfl
    | ok nonce => exact ⟨.inl ⟨implicit, rfl, made⟩, rfl⟩
  · rw [ends_ite]
    refine ⟨fun explicit => ?_, fun _ => rfl⟩
    unfold randomBytes
    simp only [ends_bind, ends_get, ends_modify, ends_pure]
    cases made : Nonce.new iv (before.rng.peek DTLSRecord.explicitNonceLen) with
    | error fault => exact rfl
    | ok nonce => exact ⟨.inr ⟨explicit, SeededRng.peek_length _ _, made⟩, rfl⟩

theorem protect_ends (contentType : ContentType) (sequence : Sequence) (fragment : Bytes) (before : Engine) :
    (protect contentType sequence fragment).Ends
      (fun payload after => after.outbox = before.outbox ∧
        forall record : DTLSRecord, record.contentType = contentType -> record.sequence = sequence ->
          record.fragment = payload ->
          exists sealing, SealedBy before.keying record sealing ∧ sealing.plaintext = fragment)
      (fun _ after => after.outbox = before.outbox) before := by
  unfold protect
  rw [ends_bind, ends_get]
  cases isIv : before.writeIv with
  | none => exact rfl
  | some iv =>
      dsimp only
      rw [ends_bind]
      refine (writeNonce_ends iv sequence before).mono ?_ fun _ _ kept => kept
      rintro ⟨nonce, explicitNonce⟩ after ⟨made, kept⟩
      dsimp only
      split
      · exact kept
      · rename_i ciphertext encrypted
        refine ⟨kept, fun record isType isSequence isPayload => ?_⟩
        refine ⟨{ iv, nonce, explicitNonce, plaintext := fragment, ciphertext }, ⟨isIv, ?_, ?_, isPayload⟩, rfl⟩
        · rw [isSequence]
          exact made
        · rw [isType, isSequence]
          exact encrypted

/-! ## The outbox -/

namespace Outbox

def sequenceOf (self : Outbox) (epoch : UInt16) : Sequence :=
  if epoch = 0 then self.sequenceEpoch0 else self.sequenceEpochN

/-- Count a record and put it into the queue. -/
def push (self : Outbox) (epoch : UInt16) (append : Bool) (record : DTLSRecord) : Outbox :=
  if epoch = 0 then
    { self with
      sequenceEpoch0 := { self.sequenceEpoch0 with sequenceNumber := self.sequenceEpoch0.sequenceNumber + 1 }
      queueTx := appendRecord self.queueTx append record.serialize }
  else
    { self with
      sequenceEpochN := { self.sequenceEpochN with sequenceNumber := self.sequenceEpochN.sequenceNumber + 1 }
      queueTx := appendRecord self.queueTx append record.serialize }

/-- The numbers start in their epochs. -/
structure Epochs (outbox : Outbox) : Prop where
  epoch0 : outbox.sequenceEpoch0.epoch = 0
  epochN : outbox.sequenceEpochN.epoch = 1

theorem Epochs.sequenceOf_eq_zero {self : Outbox} (epochs : self.Epochs) (epoch : UInt16) :
    (self.sequenceOf epoch).epoch = 0 <-> epoch = 0 := by
  unfold sequenceOf
  split
  · rename_i isZero
    simp [epochs.epoch0, isZero]
  · rename_i isLater
    simp [epochs.epochN, isLater]

theorem Epochs.push {self : Outbox} (epochs : self.Epochs) (epoch : UInt16) (append : Bool) (record : DTLSRecord) :
    (self.push epoch append record).Epochs := by
  unfold Outbox.push
  split
  · exact ⟨epochs.epoch0, epochs.epochN⟩
  · exact ⟨epochs.epoch0, epochs.epochN⟩

end Outbox

/-- The record that a fragment is sent in. -/
structure Next (keying : Keying) (outbox : Outbox) (contentType : ContentType) (epoch : UInt16) (fragment : Bytes)
    (record : DTLSRecord) : Prop where
  contentType : record.contentType = contentType
  sequence : record.sequence = outbox.sequenceOf epoch
  made : MadeOf keying fragment record

theorem writeRecord_ends (contentType : ContentType) (epoch : UInt16) (fragment : Bytes) (append : Bool)
    {before : Engine} (epochs : before.outbox.Epochs) :
    (writeRecord contentType epoch fragment append).Ends
      (fun _ after => exists record, Next before.keying before.outbox contentType epoch fragment record ∧
        after.outbox = before.outbox.push epoch append record)
      (fun _ after => after.outbox = before.outbox) before := by
  have isZero : (before.sequenceOf epoch).epoch = 0 <-> epoch = 0 := epochs.sequenceOf_eq_zero epoch
  have pushed : forall (payload : Bytes) (between : Engine), between.outbox = before.outbox ->
      (forall record : DTLSRecord, record.contentType = contentType ->
        record.sequence = before.sequenceOf epoch -> record.fragment = payload ->
          record.version = .dtls1_2 -> record.length = UInt16.ofNat payload.length ->
          MadeOf before.keying fragment record) ->
      let record : DTLSRecord :=
        { contentType, version := .dtls1_2, sequence := before.sequenceOf epoch,
          length := UInt16.ofNat payload.length, fragment := payload }
      (do modify (countRecord epoch)
          modify fun self => { self with queueTx := appendRecord self.queueTx append record.serialize } :
            Action Unit).Ends
        (fun _ after => exists record, Next before.keying before.outbox contentType epoch fragment record ∧
          after.outbox = before.outbox.push epoch append record)
        (fun _ after => after.outbox = before.outbox) between := by
    intro payload between same made record
    rw [ends_bind, ends_modify, ends_modify]
    refine ⟨record, ⟨rfl, rfl, made record rfl rfl rfl rfl rfl⟩, ?_⟩
    rw [← same]
    unfold countRecord Outbox.push
    split
    · rfl
    · rfl
  unfold writeRecord payloadOf
  rw [ends_bind, ends_get]
  dsimp only
  rw [ends_bind, ends_ite]
  refine ⟨fun isPlain => ?_, fun isLater => ?_⟩
  · refine pushed fragment before rfl fun record isType isSequence isPayload isVersion isLength => ?_
    refine ⟨isVersion, by rw [isLength, isPayload], fun _ => isPayload, fun contrary => ?_⟩
    rw [isSequence] at contrary
    exact absurd (isZero.mpr isPlain) contrary
  · refine (protect_ends contentType (before.sequenceOf epoch) fragment before).mono ?_ fun _ _ kept => kept
    rintro payload after ⟨kept, sealed⟩
    refine pushed payload after kept fun record isType isSequence isPayload isVersion isLength => ?_
    refine ⟨isVersion, by rw [isLength, isPayload], fun contrary => ?_, fun _ => sealed record isType isSequence isPayload⟩
    rw [isSequence] at contrary
    exact absurd (isZero.mp contrary) isLater

/-- A record is appended to the last datagram where there is room, and else opens one, if the
queue is not full. -/
def Room (keying : Keying) (outbox : Outbox) (append : Bool) (recordWireLen : Nat) : Prop :=
  match append, outbox.queueTx.getLast? with
  | true, some last => last.length + recordWireLen ≤ keying.config.mtu
  | true, none => False
  | false, _ => outbox.queueTx.length < keying.config.maxQueueTx

theorem room_of_canAppend {self : Engine} {recordWireLen : Nat}
    (notFull : ¬ (self.canAppend recordWireLen = false ∧ self.config.maxQueueTx ≤ self.queueTx.length)) :
    Room self.keying self.outbox (self.canAppend recordWireLen) recordWireLen := by
  unfold Room canAppend at *
  rw [show self.outbox.queueTx = self.queueTx from rfl]
  cases last : self.queueTx.getLast? with
  | none =>
      rw [last] at notFull
      exact Nat.lt_of_not_le fun contrary => notFull ⟨rfl, contrary⟩
  | some bytes =>
      rw [last] at notFull
      dsimp only at notFull ⊢
      by_cases fits : bytes.length + recordWireLen ≤ self.config.mtu
      · rw [decide_eq_true fits]
        exact fits
      · rw [decide_eq_false fits] at notFull ⊢
        exact Nat.lt_of_not_le fun contrary => notFull ⟨rfl, contrary⟩

theorem createRecord_ends (contentType : ContentType) (epoch : UInt16) (save : Bool) (fragment : Bytes)
    {before : Engine} (epochs : before.outbox.Epochs) :
    (createRecord contentType epoch save fragment).Ends
      (fun _ after => exists append record, Next before.keying before.outbox contentType epoch fragment record ∧
        Room before.keying before.outbox append
          (DTLSRecord.headerLen + fragment.length + if epoch = 0 then 0 else before.keying.aeadOverhead) ∧
        after.outbox = before.outbox.push epoch append record)
      (fun _ after => after.outbox = before.outbox) before := by
  unfold createRecord
  rw [ends_bind, ends_get, ends_ite]
  refine ⟨fun _ => rfl, fun _ => ?_⟩
  rw [ends_bind, ends_modify]
  dsimp only
  rw [ends_ite]
  have saved : (if save then before.saveFragment contentType epoch fragment else before).keying = before.keying ∧
      (if save then before.saveFragment contentType epoch fragment else before).outbox = before.outbox := by
    split
    · exact ⟨rfl, rfl⟩
    · exact ⟨rfl, rfl⟩
  refine ⟨fun _ => saved.2, fun notFull => ?_⟩
  refine (writeRecord_ends contentType epoch fragment _ (saved.2.symm ▸ epochs)).mono ?_ fun _ _ kept => kept.trans saved.2
  rintro _ after ⟨record, next, pushed⟩
  rw [saved.1, saved.2] at next
  rw [saved.2] at pushed
  exact ⟨_, record, next, room_of_canAppend notFull, pushed⟩

/-! ## Numbered records -/

/-- Records with the numbers of their epoch in ascending order, all below the next ones. -/
structure Numbered (records : List DTLSRecord) (next0 nextN : Nat) : Prop where
  below : forall record, record ∈ records ->
    (record.sequence.epoch = 0 ∧ record.sequence.sequenceNumber < next0) ∨
      (record.sequence.epoch = 1 ∧ record.sequence.sequenceNumber < nextN)
  ascending : records.Pairwise fun earlier later =>
    earlier.sequence.epoch = later.sequence.epoch ->
      earlier.sequence.sequenceNumber < later.sequence.sequenceNumber

theorem numbered_nil (next0 nextN : Nat) : Numbered [] next0 nextN :=
  ⟨fun _ contrary => absurd contrary List.not_mem_nil, .nil⟩

theorem Numbered.sublist {records fewer : List DTLSRecord} {next0 nextN : Nat}
    (numbered : Numbered records next0 nextN) (isSublist : fewer.Sublist records) : Numbered fewer next0 nextN :=
  ⟨fun record isRecord => numbered.below record (isSublist.subset isRecord), numbered.ascending.sublist isSublist⟩

/-- The next record of epoch 0. -/
theorem Numbered.push0 {records : List DTLSRecord} {next0 nextN : Nat} (numbered : Numbered records next0 nextN)
    {record : DTLSRecord} (sequence : record.sequence = ⟨0, next0⟩) :
    Numbered (records ++ [record]) (next0 + 1) nextN := by
  refine ⟨?_, List.pairwise_append.mpr ⟨numbered.ascending, List.pairwise_singleton _ _, ?_⟩⟩
  · intro other isOther
    rcases List.mem_append.mp isOther with older | newest
    · exact (numbered.below other older).imp (And.imp id Nat.lt_succ_of_lt) id
    · rw [List.mem_singleton.mp newest, sequence]
      exact .inl ⟨rfl, Nat.lt_succ_self next0⟩
  · intro other older last newest sameEpoch
    rw [List.mem_singleton.mp newest, sequence] at sameEpoch ⊢
    rcases numbered.below other older with ⟨_, smaller⟩ | ⟨isOne, _⟩
    · exact smaller
    · rw [isOne] at sameEpoch
      cases sameEpoch

/-- The next record of epoch 1. -/
theorem Numbered.pushN {records : List DTLSRecord} {next0 nextN : Nat} (numbered : Numbered records next0 nextN)
    {record : DTLSRecord} (sequence : record.sequence = ⟨1, nextN⟩) :
    Numbered (records ++ [record]) next0 (nextN + 1) := by
  refine ⟨?_, List.pairwise_append.mpr ⟨numbered.ascending, List.pairwise_singleton _ _, ?_⟩⟩
  · intro other isOther
    rcases List.mem_append.mp isOther with older | newest
    · exact (numbered.below other older).imp id (And.imp id Nat.lt_succ_of_lt)
    · rw [List.mem_singleton.mp newest, sequence]
      exact .inr ⟨rfl, Nat.lt_succ_self nextN⟩
  · intro other older last newest sameEpoch
    rw [List.mem_singleton.mp newest, sequence] at sameEpoch ⊢
    rcases numbered.below other older with ⟨isZero, _⟩ | ⟨_, smaller⟩
    · rw [isZero] at sameEpoch
      cases sameEpoch
    · exact smaller

/-- Two of the records at different places have different sequence numbers. -/
theorem Numbered.nodup {records : List DTLSRecord} {next0 nextN : Nat} (numbered : Numbered records next0 nextN) :
    (records.map DTLSRecord.sequence).Nodup := by
  rw [List.nodup_iff_pairwise_ne, List.pairwise_map]
  refine numbered.ascending.imp fun {earlier later} ascending same => ?_
  have smaller := ascending (congrArg Sequence.epoch same)
  rw [same] at smaller
  exact Nat.lt_irrefl _ smaller

/-! ## Datagrams -/

def datagram (records : List DTLSRecord) : Bytes := records.flatMap DTLSRecord.serialize

/-- A datagram holds a record at least, and no more than the limit allows unless it is one. -/
def Fits (mtu : Nat) (group : List DTLSRecord) : Prop :=
  group ≠ [] ∧ (group.length = 1 ∨ (datagram group).length ≤ mtu)

/-- A record that some fragment was made into. -/
def Made (keying : Keying) (record : DTLSRecord) : Prop := exists fragment, MadeOf keying fragment record

/-- The datagrams given out and those in the queue, as the records they are made of. -/
structure Packing (wire : List Bytes) (keying : Keying) (outbox : Outbox) (out queued : List (List DTLSRecord)) :
    Prop where
  wire : wire = out.map datagram
  queue : outbox.queueTx = queued.map datagram
  fits : forall group, group ∈ out ++ queued -> Fits keying.config.mtu group
  numbered : Numbered (out ++ queued).flatten outbox.sequenceEpoch0.sequenceNumber
    outbox.sequenceEpochN.sequenceNumber
  made : forall record, record ∈ (out ++ queued).flatten -> Made keying record

/-- What holds of what was sent. -/
structure Sent (wire : List Bytes) (keying : Keying) (outbox : Outbox) : Prop where
  packing : exists out queued, Packing wire keying outbox out queued
  epochs : outbox.Epochs
  bounded : outbox.queueTx.length ≤ keying.config.maxQueueTx
  lengthens : keying.LengthensByTag

theorem Packing.datagrams {wire : List Bytes} {keying : Keying} {outbox : Outbox} {out queued : List (List DTLSRecord)}
    (packing : Packing wire keying outbox out queued) :
    wire ++ outbox.queueTx = (out ++ queued).map datagram := by
  rw [packing.wire, packing.queue, List.map_append]

theorem appendRecord_append (queue : List Bytes) (last record : Bytes) :
    appendRecord (queue ++ [last]) true record = queue ++ [last ++ record] := by
  unfold appendRecord
  rw [List.getLast?_append_of_ne_nil _ (List.cons_ne_nil _ _)]
  dsimp only [List.getLast?_singleton]
  rw [List.dropLast_concat]

theorem appendRecord_open (queue : List Bytes) (record : Bytes) :
    appendRecord queue false record = queue ++ [record] := rfl

theorem datagram_append (first second : List DTLSRecord) : datagram (first ++ second) = datagram first ++ datagram second :=
  List.flatMap_append

theorem datagram_singleton (record : DTLSRecord) : datagram [record] = record.serialize := by
  unfold datagram
  rw [List.flatMap_cons, List.flatMap_nil, List.append_nil]

theorem datagram_eq_flatten (records : List DTLSRecord) :
    datagram records = (records.map DTLSRecord.serialize).flatten := List.flatMap_def

/-- A datagram of whole records is cut into them in one way only. -/
theorem datagram_unique {group other : List DTLSRecord} (whole : forall record, record ∈ group -> record.Whole)
    (otherWhole : forall record, record ∈ other -> record.Whole) (same : datagram other = datagram group) :
    other.map DTLSRecord.serialize = group.map DTLSRecord.serialize := by
  have words : forall records : List DTLSRecord, (forall record, record ∈ records -> record.Whole) ->
      forall word, word ∈ records.map DTLSRecord.serialize ->
        exists record : DTLSRecord, record.Whole ∧ record.serialize = word := by
    intro records areWhole word isWord
    rcases List.mem_map.mp isWord with ⟨record, isRecord, rfl⟩
    exact ⟨record, areWhole record isRecord, rfl⟩
  rw [datagram_eq_flatten, datagram_eq_flatten] at same
  exact DTLSRecord.whole_uniquelyDecodable _ _ (words other otherWhole) (words group whole) same

/-- Datagrams cut into whole records. -/
structure Cut (datagrams : List Bytes) (groups : List (List DTLSRecord)) : Prop where
  made : datagrams = groups.map datagram
  whole : forall group, group ∈ groups -> forall record, record ∈ group -> record.Whole

/-- Datagrams are cut into whole records in one way only. -/
theorem Cut.unique {datagrams : List Bytes} {groups others : List (List DTLSRecord)} (cut : Cut datagrams groups)
    (other : Cut datagrams others) :
    others.map (List.map DTLSRecord.serialize) = groups.map (List.map DTLSRecord.serialize) := by
  induction groups generalizing datagrams others with
  | nil =>
      have same := other.made.symm.trans cut.made
      rw [List.map_eq_nil_iff.mp same]
  | cons group groups ih =>
      have same := other.made.symm.trans cut.made
      cases others with
      | nil => cases same
      | cons first others =>
          rw [List.map_cons, List.map_cons, List.cons.injEq] at same
          have sameFirst := datagram_unique (cut.whole group List.mem_cons_self)
            (other.whole first List.mem_cons_self) same.1
          have sameRest := ih ⟨rfl, fun group isGroup => cut.whole group (List.mem_cons_of_mem _ isGroup)⟩
            ⟨same.2.symm, fun group isGroup => other.whole group (List.mem_cons_of_mem _ isGroup)⟩
          rw [List.map_cons, List.map_cons, sameFirst, sameRest]

/-- The numbers were not used up, and every datagram is short enough to be sent over UDP. -/
structure InRange (datagrams : List Bytes) (outbox : Outbox) : Prop where
  epoch0 : outbox.sequenceEpoch0.sequenceNumber ≤ 2 ^ 48
  epochN : outbox.sequenceEpochN.sequenceNumber ≤ 2 ^ 48
  short : forall packet, packet ∈ datagrams -> packet.length < 2 ^ 16

theorem MadeOf.whole {keying : Keying} {fragment : Bytes} {record : DTLSRecord}
    (made : MadeOf keying fragment record) (number : record.sequence.sequenceNumber < 2 ^ 48)
    (short : record.fragment.length < 2 ^ 16) : record.Whole := by
  refine ⟨made.version, number, ?_⟩
  rw [made.length, UInt16.toNat_ofNat']
  exact Nat.mod_eq_of_lt short

/-- In range, what was sent is cut into the records that it was made of. -/
theorem Packing.cut {wire : List Bytes} {keying : Keying} {outbox : Outbox} {out queued : List (List DTLSRecord)}
    (packing : Packing wire keying outbox out queued) (inRange : InRange (wire ++ outbox.queueTx) outbox) :
    Cut (wire ++ outbox.queueTx) (out ++ queued) := by
  refine ⟨packing.datagrams, fun group isGroup record inGroup => ?_⟩
  have isRecord := List.mem_flatten_of_mem isGroup inGroup
  rcases packing.made record isRecord with ⟨fragment, made⟩
  have short : (datagram group).length < 2 ^ 16 := by
    refine inRange.short _ ?_
    rw [packing.datagrams]
    exact List.mem_map_of_mem isGroup
  have inside : record.serialize.length ≤ (datagram group).length :=
    (List.sublist_flatten_of_mem (List.mem_map_of_mem inGroup)).length_le.trans_eq
      (congrArg List.length (datagram_eq_flatten group).symm)
  rw [DTLSRecord.serialize_length] at inside
  refine made.whole ?_ (by omega)
  rcases packing.numbered.below record isRecord with ⟨_, below⟩ | ⟨_, below⟩
  · exact Nat.lt_of_lt_of_le below inRange.epoch0
  · exact Nat.lt_of_lt_of_le below inRange.epochN

/-- Where the next record goes: the groups in the queue before and after. -/
theorem groups_push {keying : Keying} {outbox : Outbox} {append : Bool} {queued : List (List DTLSRecord)}
    {record : DTLSRecord} {recordWireLen : Nat} (room : Room keying outbox append recordWireLen)
    (queue : outbox.queueTx = queued.map datagram) (bounded : outbox.queueTx.length ≤ keying.config.maxQueueTx)
    (sized : record.serialize.length = recordWireLen) :
    exists below group, Fits keying.config.mtu (group ++ [record]) ∧ below.length < keying.config.maxQueueTx ∧
      (queued = below ∧ group = [] ∨ queued = below ++ [group]) ∧
      appendRecord outbox.queueTx append record.serialize = (below ++ [group ++ [record]]).map datagram := by
  cases append with
  | false =>
      unfold Room at room
      rw [queue, List.length_map] at room
      refine ⟨queued, [], ⟨List.cons_ne_nil _ _, .inl rfl⟩, room, .inl ⟨rfl, rfl⟩, ?_⟩
      rw [appendRecord_open, queue, List.map_append, List.map_singleton, List.nil_append, datagram_singleton]
  | true =>
      rcases List.eq_nil_or_concat queued with empty | ⟨below, group, isLast⟩
      · rw [empty] at queue
        unfold Room at room
        rw [queue] at room
        exact absurd room id
      · rw [isLast, List.concat_eq_append] at queue
        rw [List.map_append, List.map_singleton] at queue
        rw [queue, List.length_append, List.length_map] at bounded
        unfold Room at room
        rw [queue, List.getLast?_append_of_ne_nil _ (List.cons_ne_nil _ _)] at room
        dsimp only [List.getLast?_singleton] at room
        refine ⟨below, group, ⟨?_, .inr ?_⟩, bounded, .inr (isLast.trans List.concat_eq_append), ?_⟩
        · exact List.append_ne_nil_of_right_ne_nil _ (List.cons_ne_nil _ _)
        · rw [datagram_append, datagram_singleton, List.length_append, sized]
          exact room
        · rw [queue, appendRecord_append, List.map_append, List.map_singleton, datagram_append, datagram_singleton]

theorem Outbox.push_queueTx (outbox : Outbox) (epoch : UInt16) (append : Bool) (record : DTLSRecord) :
    (outbox.push epoch append record).queueTx = appendRecord outbox.queueTx append record.serialize := by
  unfold Outbox.push
  split
  · rfl
  · rfl

theorem Numbered.push {records : List DTLSRecord} {outbox : Outbox} {epoch : UInt16} {append : Bool}
    {record : DTLSRecord}
    (numbered : Numbered records outbox.sequenceEpoch0.sequenceNumber outbox.sequenceEpochN.sequenceNumber)
    (epochs : outbox.Epochs) (sequence : record.sequence = outbox.sequenceOf epoch) :
    Numbered (records ++ [record]) (outbox.push epoch append record).sequenceEpoch0.sequenceNumber
      (outbox.push epoch append record).sequenceEpochN.sequenceNumber := by
  unfold Outbox.push
  unfold Outbox.sequenceOf at sequence
  split at sequence
  · rename_i isZero
    rw [if_pos isZero]
    exact numbered.push0 (sequence.trans (Sequence.ext epochs.epoch0 rfl))
  · rename_i isLater
    rw [if_neg isLater]
    exact numbered.pushN (sequence.trans (Sequence.ext epochs.epochN rfl))

theorem Sent.push {wire : List Bytes} {keying : Keying} {outbox : Outbox} (sent : Sent wire keying outbox)
    {contentType : ContentType} {epoch : UInt16} {append : Bool} {fragment : Bytes} {record : DTLSRecord}
    (next : Next keying outbox contentType epoch fragment record)
    (room : Room keying outbox append
      (DTLSRecord.headerLen + fragment.length + if epoch = 0 then 0 else keying.aeadOverhead)) :
    Sent wire keying (outbox.push epoch append record) := by
  rcases sent.packing with ⟨out, queued, packing⟩
  have sized : record.serialize.length =
      DTLSRecord.headerLen + fragment.length + if epoch = 0 then 0 else keying.aeadOverhead := by
    rw [DTLSRecord.serialize_length, next.made.fragment_length sent.lengthens, ← Nat.add_assoc, next.sequence]
    simp only [sent.epochs.sequenceOf_eq_zero]
  rcases groups_push room packing.queue sent.bounded sized with ⟨below, group, fits, short, isQueued, pushed⟩
  have flat : (out ++ (below ++ [group ++ [record]])).flatten = (out ++ queued).flatten ++ [record] := by
    rcases isQueued with ⟨rfl, rfl⟩ | rfl
    · simp
    · simp
  refine ⟨⟨out, below ++ [group ++ [record]], ?_⟩, sent.epochs.push epoch append record, ?_, sent.lengthens⟩
  · refine ⟨packing.wire, ?_, ?_, ?_, ?_⟩
    · rw [Outbox.push_queueTx, pushed]
    · intro other isOther
      rw [← List.append_assoc, List.mem_append, List.mem_singleton] at isOther
      rcases isOther with isOlder | rfl
      · refine packing.fits other ?_
        rcases isQueued with ⟨rfl, -⟩ | rfl
        · exact isOlder
        · rw [← List.append_assoc]
          exact List.mem_append_left _ isOlder
      · exact fits
    · rw [flat]
      exact packing.numbered.push sent.epochs next.sequence
    · intro other isOther
      rw [flat] at isOther
      rcases List.mem_append.mp isOther with older | newest
      · exact packing.made other older
      · rw [List.mem_singleton.mp newest]
        exact ⟨fragment, next.made⟩
  · rw [Outbox.push_queueTx, pushed, List.length_map, List.length_append, List.length_singleton]
    exact short

/-! ## What every effect of the engine keeps -/

/-- The keys, the transcript, the outbox and whether data are released are as before. -/
structure Same (before after : Engine) : Prop where
  keying : after.keying = before.keying
  transcript : after.transcript = before.transcript
  released : after.releaseAppData = before.releaseAppData
  outbox : after.outbox = before.outbox

/-- A property of these parts that sending a record and clearing the queue keep. -/
structure Framed (holds : Engine -> Prop) : Prop where
  same : forall {before after}, holds before -> Same before after -> holds after
  cleared : forall {before after}, holds before ->
    Same { before with queueTx := [] } after -> holds after
  createRecord : forall contentType epoch save fragment, Keeps holds (createRecord contentType epoch save fragment)

/-! Effects that change nothing keep every property. -/

section Reading

variable {holds : Engine -> Prop}

theorem keeps_generateVerifyData (isClient : Bool) : Keeps holds (generateVerifyData isClient) := by
  refine keeps_get.bind fun self => ?_
  split
  · exact keeps_fail _
  · split
    · exact keeps_fail _
    · exact (keeps_fail _).ite (keeps_pure _)

theorem keeps_decryptData (ciphertext : Bytes) (aad : Aad) (nonce : Nonce) :
    Keeps holds (decryptData ciphertext aad nonce) := by
  refine keeps_get.bind fun self => ?_
  split
  · exact keeps_pure _
  · exact keeps_fail _

theorem keeps_classifyPlaintextAlert (fragment : Bytes) : Keeps holds (classifyPlaintextAlert fragment) := by
  refine keeps_get.bind fun self => (keeps_pure _).ite ?_
  split
  · exact keeps_fail _
  · exact keeps_pure _

end Reading

section Framed

variable {holds : Engine -> Prop} (framed : Framed holds)

include framed

theorem Framed.modify {change : Engine -> Engine} (same : forall engine, Same engine (change engine)) :
    Keeps holds (modify change : Action Unit) :=
  keeps_modify fun engine held => framed.same held (same engine)

theorem framed_randomBytes (count : Nat) : Keeps holds (randomBytes count) := by
  refine keeps_get.bind fun self => Keeps.bind (framed.modify ?_) fun _ => keeps_pure _
  exact fun _ => ⟨rfl, rfl, rfl, rfl⟩

theorem framed_drawJitter : Keeps holds drawJitter := by
  refine keeps_get.bind fun self => Keeps.bind (framed.modify ?_) fun _ => keeps_pure _
  exact fun _ => ⟨rfl, rfl, rfl, rfl⟩

theorem framed_sendFragments (header : Header) (body : Bytes) (epoch : UInt16) (overhead fuel offset : Nat) :
    Keeps holds (sendFragments header body epoch overhead fuel offset) := by
  induction fuel generalizing offset with
  | zero => exact keeps_pure ()
  | succ fuel ih =>
      refine Keeps.ite (keeps_get.bind fun self => ?_) (keeps_pure ())
      exact (framed.createRecord _ _ _ _).bind fun _ => (keeps_pure ()).ite (ih _)

theorem framed_flightBegin : Keeps holds flightBegin := by
  refine (framed_drawJitter framed).bind fun _ => framed.modify ?_
  exact fun _ => ⟨rfl, rfl, rfl, rfl⟩

theorem framed_flightStopResendTimers : Keeps holds flightStopResendTimers :=
  framed.modify fun _ => ⟨rfl, rfl, rfl, rfl⟩

theorem framed_flightResend : Keeps holds flightResend := by
  refine keeps_get.bind fun self => Keeps.bind (framed.modify ?_) fun _ => ?_
  · exact fun _ => ⟨rfl, rfl, rfl, rfl⟩
  · refine (Keeps.each fun entry _ => framed.createRecord _ _ _ _).bind fun _ => framed.modify ?_
    exact fun _ => ⟨rfl, rfl, rfl, rfl⟩

theorem framed_abort : Keeps holds abort :=
  keeps_modify fun _ held => framed.cleared held ⟨rfl, rfl, rfl, rfl⟩

theorem framed_discardPendingWrites : Keeps holds discardPendingWrites :=
  keeps_modify fun _ held => framed.cleared held ⟨rfl, rfl, rfl, rfl⟩

theorem framed_handleTimeout (now : Nat) : Keeps holds (handleTimeout now) := by
  refine Keeps.bind (framed.modify ?_) fun _ => keeps_get.bind fun self => (keeps_fail _).ite ?_
  · exact fun _ => ⟨rfl, rfl, rfl, rfl⟩
  · refine Keeps.ite (Keeps.ite ((framed_drawJitter framed).bind fun jitter => ?_) (keeps_fail _)) (keeps_pure _)
    refine Keeps.bind (framed.modify ?_) fun _ => Keeps.bind (framed.modify ?_) fun _ => framed_flightResend framed
    · exact fun _ => ⟨rfl, rfl, rfl, rfl⟩
    · exact fun _ => ⟨rfl, rfl, rfl, rfl⟩

/-! ## Receiving -/

theorem framed_classifyAlert (fragment : Bytes) : Keeps holds (classifyAlert fragment) := by
  unfold classifyAlert
  split
  · refine Keeps.ite (framed.modify ?_) ((keeps_fail _).ite (keeps_pure _))
    exact fun _ => ⟨rfl, rfl, rfl, rfl⟩
  · exact keeps_pure _

theorem framed_classifyRecord (record : Record) : Keeps holds (classifyRecord record) := by
  refine keeps_get.bind fun self => Keeps.ite (Keeps.ite ?_ ((keeps_pure _).ite ?_)) ((keeps_pure _).ite (keeps_pure _))
  · exact (keeps_classifyPlaintextAlert _).bind fun _ => keeps_pure _
  · exact (framed_classifyAlert framed _).bind fun _ => keeps_pure _

theorem framed_recordHandler : recordHandler.Keeps holds where
  classifyRecord := framed_classifyRecord framed
  replayUpdate := fun _ _ held => framed.same held ⟨rfl, rfl, rfl, rfl⟩
  decryptData := keeps_decryptData

theorem framed_resendOnDuplicate (incoming : Incoming) : Keeps holds (resendOnDuplicate incoming) := by
  refine keeps_get.bind fun self => ?_
  dsimp only
  split
  · exact (framed_flightResend framed).ite (keeps_pure _)
  · exact keeps_pure _

theorem framed_nextRecord (contentType : ContentType) : Keeps holds (nextRecord contentType) := by
  refine keeps_get.bind fun self => ?_
  split
  · exact keeps_pure _
  · refine (keeps_pure _).ite (Keeps.ite (Keeps.bind (framed.modify ?_) fun _ => keeps_pure _) (keeps_fail _))
    exact fun _ => ⟨rfl, rfl, rfl, rfl⟩

theorem framed_dropPendingCcs : Keeps holds dropPendingCcs := framed.modify fun _ => ⟨rfl, rfl, rfl, rfl⟩

theorem framed_pollAppData (room : Nat) : Keeps holds (pollAppData room) := by
  refine keeps_get.bind fun self => (keeps_pure _).ite ?_
  split
  · exact keeps_pure _
  · refine Keeps.ite (Keeps.bind (framed.modify ?_) fun _ => keeps_pure _) (keeps_fail _)
    exact fun _ => ⟨rfl, rfl, rfl, rfl⟩

section Queue

variable (search : BinarySearch Incoming)

theorem framed_enqueue (incoming : Incoming) (order : Incoming -> Ordering) :
    Keeps holds (enqueue search incoming order) := by
  refine keeps_get.bind fun self => ?_
  split
  · refine Keeps.bind (framed.modify ?_) fun _ => keeps_pure _
    exact fun _ => ⟨rfl, rfl, rfl, rfl⟩
  · exact keeps_pure _

theorem framed_insertIncoming (incoming : Incoming) : Keeps holds (insertIncoming search incoming) := by
  refine keeps_get.bind fun self => (keeps_fail _).ite ?_
  split
  · refine keeps_get.bind fun self => (framed_resendOnDuplicate framed _).bind fun _ => ?_
    refine (keeps_pure _).ite ((keeps_fail _).ite ?_)
    exact (framed_enqueue framed search _ _).bind fun _ => keeps_pure _
  · exact (framed_enqueue framed search _ _).bind fun _ => (keeps_fail _).ite (keeps_pure _)

theorem framed_parsePacket (packet : Bytes) : Keeps holds (parsePacket search packet) := by
  refine keeps_get.bind fun self => (keeps_parsePacket (framed_recordHandler framed) _ _).bind fun parsed => ?_
  split
  · exact framed_insertIncoming framed search _
  · exact keeps_pure _

theorem framed_enablePeerEncryption : Keeps holds (enablePeerEncryption search) := by
  refine Keeps.bind (framed.modify ?_) fun _ => keeps_get.bind fun self => ?_
  · exact fun _ => ⟨rfl, rfl, rfl, rfl⟩
  · split
    · exact keeps_pure _
    · refine Keeps.bind (framed.modify ?_) fun _ => Keeps.each fun record _ => framed_parsePacket framed search _
      exact fun _ => ⟨rfl, rfl, rfl, rfl⟩

end Queue

end Framed

/-! ## Messages -/

/-- The effects that append a message keep a property that does not look at the transcript. -/
def Unread (holds : Engine -> Prop) : Prop :=
  forall engine transcript, holds engine -> holds { engine with transcript }

section Unread

variable {holds : Engine -> Prop} (framed : Framed holds) (unread : Unread holds)

include framed unread

theorem unread_sendHandshake (msgType : MessageType) (body : Bytes) :
    Keeps holds (sendHandshake msgType body) := by
  refine keeps_get.bind fun self => Keeps.bind (keeps_modify fun engine held => ?_) fun _ => ?_
  · exact framed.same (unread engine _ held) ⟨rfl, rfl, rfl, rfl⟩
  · exact (keeps_fail _).ite (framed_sendFragments framed _ _ _ _ _ _)

theorem unread_nextHandshake (wanted : MessageType) : Keeps holds (nextHandshake wanted) := by
  refine keeps_get.bind fun self => (keeps_pure _).ite ?_
  refine Keeps.bind (framed.modify ?_) fun _ => Keeps.bind ?_ fun handshake => ?_
  · exact fun _ => ⟨rfl, rfl, rfl, rfl⟩
  · intro before held
    rw [ends_zoom]
    unfold Ends
    split
    · exact unread before _ held
    · exact unread before _ held
  · refine Keeps.bind (framed.modify ?_) fun _ => keeps_pure _
    exact fun _ => ⟨rfl, rfl, rfl, rfl⟩

end Unread

/-! ## Sending in order -/

/-- The keys are these, and what was sent is in order. -/
structure Orderly (wire : List Bytes) (keys : Keying) (engine : Engine) : Prop where
  keying : engine.keying = keys
  sent : Sent wire keys engine.outbox

section Orderly

variable {wire : List Bytes} {keys : Keying}

/-- Datagrams may be dropped from the queue. -/
theorem Sent.drop {outbox : Outbox} (sent : Sent wire keys outbox) {queueTx : List Bytes} {taken : List Bytes}
    (isQueue : exists dropped, dropped ++ queueTx = outbox.queueTx ∧ (taken = dropped ∨ taken = [])) :
    Sent (wire ++ taken) keys { outbox with queueTx } := by
  rcases sent.packing with ⟨out, queued, packing⟩
  rcases isQueue with ⟨dropped, isQueue, isTaken⟩
  rcases List.map_eq_append_iff.mp (packing.queue.symm.trans isQueue.symm) with ⟨gone, left, rfl, isGone, isLeft⟩
  refine ⟨?_, ⟨sent.epochs.epoch0, sent.epochs.epochN⟩, ?_, sent.lengthens⟩
  · have fewer : forall some', some' = gone ∨ some' = [] ->
        (out ++ some' ++ left).Sublist (out ++ (gone ++ left)) := by
      rintro some' (rfl | rfl)
      · rw [List.append_assoc]
      · rw [List.append_nil]
        exact (List.Sublist.refl out).append (List.sublist_append_right gone left)
    have packed : forall some', some' = gone ∨ some' = [] ->
        Packing (wire ++ some'.map datagram) keys { outbox with queueTx } (out ++ some') left := by
      intro some' isSome
      have isSublist := fewer some' isSome
      refine ⟨by rw [List.map_append, packing.wire], isLeft.symm, ?_, ?_, ?_⟩
      · exact fun group isGroup => packing.fits group (isSublist.subset isGroup)
      · exact packing.numbered.sublist isSublist.flatten
      · exact fun record isRecord => packing.made record (isSublist.flatten.subset isRecord)
    rcases isTaken with rfl | rfl
    · exact ⟨_, _, isGone ▸ packed gone (.inl rfl)⟩
    · exact ⟨_, _, packed [] (.inr rfl)⟩
  · have bounded := sent.bounded
    rw [← isQueue, List.length_append] at bounded
    exact Nat.le_trans (Nat.le_add_left _ _) bounded

theorem orderly_createRecord (contentType : ContentType) (epoch : UInt16) (save : Bool) (fragment : Bytes) :
    Keeps (Orderly wire keys) (createRecord contentType epoch save fragment) := by
  intro before held
  have frame := sends_createRecord contentType epoch save fragment before before ⟨rfl, rfl, rfl⟩
  have made : (createRecord contentType epoch save fragment).Ends _ _ before :=
    createRecord_ends contentType epoch save fragment held.sent.epochs
  refine (frame.and made).mono ?_ ?_
  · rintro _ after ⟨⟨sameKeying, _, _⟩, append, record, next, room, pushed⟩
    rw [held.keying] at next room sameKeying
    exact ⟨sameKeying, pushed ▸ held.sent.push next room⟩
  · rintro _ after ⟨⟨sameKeying, _, _⟩, sameOutbox⟩
    exact ⟨sameKeying.trans held.keying, sameOutbox ▸ held.sent⟩

theorem orderly_framed : Framed (Orderly wire keys) where
  same := fun held same => ⟨same.keying.trans held.keying, same.outbox ▸ held.sent⟩
  cleared := by
    intro before after held same
    refine ⟨same.keying.trans held.keying, ?_⟩
    rw [same.outbox, ← List.append_nil wire]
    exact held.sent.drop ⟨_, List.append_nil _, .inr rfl⟩
  createRecord := orderly_createRecord

/-! ## Giving datagrams out -/

/-- A datagram that leaves the queue is given out, or lost in a panic. -/
theorem pollPacketTx_ends (room : Nat) {before : Engine} (held : Orderly wire keys before) :
    (pollPacketTx room).Ends (fun packet after => Orderly (wire ++ packet.toList) keys after)
      (fun _ after => Orderly wire keys after) before := by
  unfold pollPacketTx
  rw [ends_bind, ends_get]
  cases queue : before.queueTx with
  | nil =>
      refine ⟨held.keying, ?_⟩
      rw [Option.toList_none, List.append_nil]
      exact held.sent
  | cons packet rest =>
      dsimp only
      rw [ends_bind, ends_modify, ends_ite]
      refine ⟨fun _ => ⟨held.keying, ?_⟩, fun _ => ⟨held.keying, ?_⟩⟩
      · exact held.sent.drop ⟨[packet], queue.symm, .inl rfl⟩
      · rw [← List.append_nil wire]
        exact held.sent.drop ⟨[packet], queue.symm, .inr rfl⟩

end Orderly

end Engine

/-- The datagram that an output gives out. -/
def Output.packets : Output -> List Bytes
  | .packet bytes => [bytes]
  | _ => []

namespace Engine

theorem pollOutput_ends (room now : Nat) {wire : List Bytes} {keys : Keying} {before : Engine}
    (held : Orderly wire keys before) :
    (pollOutput room now).Ends (fun output after => Orderly (wire ++ output.packets) keys after)
      (fun _ after => Orderly wire keys after) before := by
  have same : forall after : Engine, Orderly wire keys after -> Orderly (wire ++ []) keys after := by
    intro after kept
    rwa [List.append_nil]
  unfold pollOutput
  rw [ends_bind, ends_modify, ends_bind]
  refine (framed_pollAppData orderly_framed room before.purgeHandledQueueRx ⟨held.keying, held.sent⟩).mono ?_
    fun _ _ kept => kept
  intro data after kept
  cases data with
  | some data => exact same after kept
  | none =>
      dsimp only
      rw [ends_bind]
      refine (pollPacketTx_ends room kept).mono ?_ fun _ _ kept => kept
      intro packet after kept
      cases packet with
      | some packet => exact kept
      | none =>
          rw [Option.toList_none] at kept
          dsimp only
          rw [ends_bind, ends_get, ends_ite]
          refine ⟨fun _ => ?_, fun _ => kept⟩
          exact ⟨kept.keying, kept.sent⟩

end Engine

end Dtls
end P2pSdk
