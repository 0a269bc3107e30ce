import P2pSdk.Dtls.Types

namespace P2pSdk
namespace Dtls

open Foundation Parser

/-!
# Records (`dtls12/message/record.rs`, `crypto/dtls_aead.rs`)

A record carries a fragment under a header of 13 bytes.  The range of the
source into the buffer of a record is the bytes in that range here.

From epoch 1 on a fragment is encrypted.  The nonce and the additional data of
the encryption are made from the header, so records that differ in their
headers are encrypted under different nonces or with different additional data.
-/

/-! ## Errors (`error.rs`) -/

inductive Error where
  | parseIncomplete
  | parseError (kind : ErrorKind)
  | unexpectedMessage (message : String)
  | cryptoError (message : String)
  | certificateError (message : String)
  | securityError (message : String)
  | pskError (message : String)
  | receiveQueueFull
  | transmitQueueFull
  | incompleteServerHello
  | timeout (what : String)
  | tooManyRecords
  | renegotiationAttempt
  | connectionClosed
  deriving DecidableEq, Repr

/-- A call returns no value when it returns an error, and when it panics. -/
inductive Fault where
  | error (error : Error)
  | panic
  deriving DecidableEq, Repr

def Fault.ofStop : Stop -> Fault
  | .error kind => .error (.parseError kind)
  | .failure kind => .error (.parseError kind)
  | .panic => .panic

/-! ## Sequence numbers (`types.rs`) -/

@[ext] structure Sequence where
  epoch : UInt16
  sequenceNumber : Nat
  deriving DecidableEq, Repr

namespace Sequence

def new (epoch : UInt16) : Sequence := ⟨epoch, 0⟩

def cmp (self other : Sequence) : Ordering :=
  if self.epoch < other.epoch then .lt
  else if other.epoch < self.epoch then .gt
  else compare self.sequenceNumber other.sequenceNumber

/-- The epoch and the number in the 64 bits that a nonce is made from. -/
def seq64 (self : Sequence) : Nat := (self.epoch.toNat <<< 48) ||| self.sequenceNumber

/-- The epoch stands above the number when this has its 48 bits. -/
theorem seq64_eq {sequence : Sequence} (fits : sequence.sequenceNumber < 2 ^ 48) :
    sequence.seq64 = sequence.epoch.toNat * 2 ^ 48 + sequence.sequenceNumber := by
  unfold seq64
  rw [← Nat.shiftLeft_add_eq_or_of_lt fits, Nat.shiftLeft_eq]

theorem seq64_injective {first second : Sequence} (firstFits : first.sequenceNumber < 2 ^ 48)
    (secondFits : second.sequenceNumber < 2 ^ 48) (same : first.seq64 = second.seq64) : first = second := by
  rw [seq64_eq firstFits, seq64_eq secondFits] at same
  have sameEpoch : first.epoch.toNat = second.epoch.toNat := by omega
  have sameNumber : first.sequenceNumber = second.sequenceNumber := by omega
  exact Sequence.ext (UInt16.toNat_inj.mp sameEpoch) sameNumber

end Sequence

/-! ## The record -/

structure DTLSRecord where
  contentType : ContentType
  version : ProtocolVersion
  sequence : Sequence
  length : UInt16
  fragment : Bytes
  deriving DecidableEq, Repr

namespace DTLSRecord

/-- Content type, version, epoch, sequence number and length. -/
def headerLen : Nat := 13

def explicitNonceLen : Nat := 8

def isRecordVersion : ProtocolVersion -> Bool
  | .dtls1_0 | .dtls1_2 => true
  | _ => false

/-- The types of records that are accepted without encryption. -/
def isPlaintextType : ContentType -> Bool
  | .changeCipherSpec | .alert | .handshake => true
  | _ => false

/-- Behind the header of a decrypted record stands the explicit nonce, which is skipped. -/
def parse (skipOffset : Nat) : Parser DTLSRecord := do
  let contentType ← ContentType.coding.parse8
  let version ← ProtocolVersion.coding.parse16
  require (isRecordVersion version) (.failure .tag)
  let epoch ← beU16
  require (epoch != 0 || isPlaintextType contentType) (.failure .tag)
  let sequenceNumber ← beU48
  let length ← beU16
  drop skipOffset
  let fragment ← take length.toNat
  return { contentType, version, sequence := ⟨epoch, sequenceNumber⟩, length, fragment }

/-- The header, with what stands between it and the fragment. -/
def serializeWith (self : DTLSRecord) (skipped : Bytes) : Bytes :=
  ContentType.coding.bytes8 self.contentType ++ (ProtocolVersion.coding.bytes16 self.version ++
    (beBytes 2 self.sequence.epoch.toNat ++ ((beBytes 8 self.sequence.sequenceNumber).drop 2 ++
      (beBytes 2 self.length.toNat ++ (skipped ++ self.fragment)))))

def serialize (self : DTLSRecord) : Bytes := self.serializeWith []

/-- A record that the parser accepts. -/
structure WellFormed (record : DTLSRecord) : Prop where
  contentType : ContentType.coding.Canonical record.contentType
  version : isRecordVersion record.version = true
  plaintext : record.sequence.epoch = 0 -> isPlaintextType record.contentType = true
  sequence : record.sequence.sequenceNumber < 256 ^ 6
  length : record.length.toNat = record.fragment.length

theorem canonical_of_isRecordVersion {version : ProtocolVersion} (accepted : isRecordVersion version = true) :
    ProtocolVersion.coding.Canonical version := by
  cases version with
  | dtls1_0 => rfl
  | dtls1_2 => rfl
  | dtls1_3 => cases accepted
  | unknown value => cases accepted

/-- Six bytes are the lower ones of eight. -/
theorem drop_beBytes_8 (value : Nat) : (beBytes 8 value).drop 2 = beBytes 6 value := by
  simp [beBytes]

theorem plaintext_iff {epoch : UInt16} {contentType : ContentType} :
    (epoch != 0 || isPlaintextType contentType) = true <-> (epoch = 0 -> isPlaintextType contentType = true) := by
  by_cases isZero : epoch = 0
  · simp [isZero]
  · simp [isZero]

theorem WellFormed.readsWith {record : DTLSRecord} (wellFormed : record.WellFormed) (skipped : Bytes) :
    (parse skipped.length).Reads (record.serializeWith skipped) record := by
  have sequenceNumber := reads_beU48 wellFormed.sequence
  rw [← drop_beBytes_8] at sequenceNumber
  unfold parse serializeWith
  refine (Coding.reads8 wellFormed.contentType).bind ?_
  refine (Coding.reads16 (canonical_of_isRecordVersion wellFormed.version)).bind ?_
  refine (reads_require wellFormed.version _).skip ?_
  refine (reads_beU16 record.sequence.epoch).bind ?_
  refine (reads_require (plaintext_iff.mpr wellFormed.plaintext) _).skip ?_
  refine sequenceNumber.bind ?_
  refine (reads_beU16 record.length).bind ?_
  refine (reads_drop skipped).bind ?_
  exact (reads_take_of wellFormed.length.symm).then (reads_pure record)

theorem WellFormed.reads {record : DTLSRecord} (wellFormed : record.WellFormed) :
    (parse 0).Reads record.serialize record :=
  wellFormed.readsWith []

theorem wellFormed_of_parse {skipOffset : Nat} {input rest : Bytes} {record : DTLSRecord}
    (parsed : parse skipOffset input = .ok (record, rest)) :
    record.WellFormed ∧ exists skipped, skipped.length = skipOffset ∧
      input = record.serializeWith skipped ++ rest := by
  rcases bind_eq_ok.mp parsed with ⟨contentType, input₁, readType, parsed⟩
  rcases bind_eq_ok.mp parsed with ⟨version, input₂, readVersion, parsed⟩
  rcases bind_eq_ok.mp parsed with ⟨_, input₃, accepted, parsed⟩
  rcases bind_eq_ok.mp parsed with ⟨epoch, input₄, readEpoch, parsed⟩
  rcases bind_eq_ok.mp parsed with ⟨_, input₅, plaintext, parsed⟩
  rcases bind_eq_ok.mp parsed with ⟨number, input₆, readNumber, parsed⟩
  rcases bind_eq_ok.mp parsed with ⟨length, input₇, readLength, parsed⟩
  rcases bind_eq_ok.mp parsed with ⟨_, input₈, dropped, parsed⟩
  rcases bind_eq_ok.mp parsed with ⟨fragment, input₉, taken, parsed⟩
  rcases pure_eq_ok.mp parsed with ⟨rfl, rfl⟩
  rcases Coding.parse8_bytes readType with ⟨canonicalType, rfl⟩
  rcases Coding.parse16_bytes readVersion with ⟨_, rfl⟩
  rcases require_eq_ok.mp accepted with ⟨isVersion, rfl⟩
  cases beU16_eq_ok.mp readEpoch
  rcases require_eq_ok.mp plaintext with ⟨isPlaintext, rfl⟩
  rcases beUint_eq_ok.mp readNumber with ⟨rfl, fits⟩
  cases beU16_eq_ok.mp readLength
  rcases drop_eq_ok.mp dropped with ⟨enough, rfl⟩
  rcases take_eq_ok.mp taken with ⟨split, sized⟩
  refine ⟨⟨canonicalType, isVersion, plaintext_iff.mp isPlaintext, fits, sized.symm⟩,
    input₇.take skipOffset, by rw [List.length_take]; omega, ?_⟩
  have parts : input₇ = input₇.take skipOffset ++ (fragment ++ rest) := by
    rw [← split, List.take_append_drop]
  unfold serializeWith
  dsimp only
  rw [drop_beBytes_8]
  simp only [List.append_assoc]
  rw [← parts]

/-- The parser reads exactly the well-formed records off the front of their bytes. -/
theorem parse_eq_ok {input rest : Bytes} {record : DTLSRecord} :
    parse 0 input = .ok (record, rest) <-> record.WellFormed ∧ input = record.serialize ++ rest := by
  constructor
  · intro parsed
    rcases wellFormed_of_parse parsed with ⟨wellFormed, skipped, nothing, split⟩
    rw [List.length_eq_zero_iff.mp nothing] at split
    exact ⟨wellFormed, split⟩
  · rintro ⟨wellFormed, rfl⟩
    exact wellFormed.reads rest

theorem serializeWith_length (record : DTLSRecord) (skipped : Bytes) :
    (record.serializeWith skipped).length = headerLen + skipped.length + record.fragment.length := by
  unfold serializeWith headerLen
  simp only [List.length_append, drop_beBytes_8, beBytes_length, Coding.bytes8, Coding.bytes16,
    List.length_singleton]
  omega

theorem serialize_length (record : DTLSRecord) :
    record.serialize.length = headerLen + record.fragment.length := by
  rw [serialize, serializeWith_length]
  rfl

/-- The header up to the length. -/
def headerFront (self : DTLSRecord) : Bytes :=
  ContentType.coding.bytes8 self.contentType ++ (ProtocolVersion.coding.bytes16 self.version ++
    (beBytes 2 self.sequence.epoch.toNat ++ (beBytes 8 self.sequence.sequenceNumber).drop 2))

theorem headerFront_length (record : DTLSRecord) : record.headerFront.length = 11 := by
  unfold headerFront
  simp only [List.length_append, drop_beBytes_8, beBytes_length, Coding.bytes8, Coding.bytes16, List.length_singleton]

theorem serializeWith_eq (record : DTLSRecord) (skipped : Bytes) :
    record.serializeWith skipped =
      record.headerFront ++ (beBytes 2 record.length.toNat ++ (skipped ++ record.fragment)) := by
  unfold serializeWith headerFront
  simp only [List.append_assoc]

theorem serialize_eq (record : DTLSRecord) :
    record.serialize = record.headerFront ++ (beBytes 2 record.length.toNat ++ record.fragment) := by
  rw [serialize, serializeWith_eq, List.nil_append]

theorem serializeWith_take (record : DTLSRecord) (skipped rest : Bytes) :
    (record.serializeWith skipped ++ rest).take 11 = record.headerFront := by
  rw [serializeWith_eq, List.append_assoc]
  exact List.take_left' record.headerFront_length

theorem serialize_take (record : DTLSRecord) (rest : Bytes) :
    (record.serialize ++ rest).take 11 = record.headerFront :=
  record.serializeWith_take [] rest

/-- The header tells the sequence numbers apart. -/
theorem sequence_of_headerFront {first second : DTLSRecord} (firstFits : first.sequence.sequenceNumber < 256 ^ 6)
    (secondFits : second.sequence.sequenceNumber < 256 ^ 6) (same : first.headerFront = second.headerFront) :
    first.sequence = second.sequence := by
  unfold headerFront at same
  rw [drop_beBytes_8, drop_beBytes_8] at same
  have types := List.append_inj same rfl
  have versions := List.append_inj types.2 ((beBytes_length _ _).trans (beBytes_length _ _).symm)
  have epochs := List.append_inj versions.2 ((beBytes_length _ _).trans (beBytes_length _ _).symm)
  have sameEpoch := beBytes_injective first.sequence.epoch.toNat_lt second.sequence.epoch.toNat_lt epochs.1
  have sameNumber := beBytes_injective firstFits secondFits epochs.2
  exact Sequence.ext (UInt16.toNat_inj.mp sameEpoch) sameNumber

/-- With another text behind its header, a record is parsed to the same with this text. -/
theorem parse_decrypted {slice rest : Bytes} {record : DTLSRecord} (parsed : parse 0 slice = .ok (record, rest))
    (nonce plaintext : Bytes) :
    parse nonce.length (slice.take 11 ++ (beBytes 2 plaintext.length ++ (nonce ++ plaintext))) =
      .ok ({ record with
          length := UInt16.ofNat plaintext.length
          fragment := plaintext.take (plaintext.length % 2 ^ 16) },
        plaintext.drop (plaintext.length % 2 ^ 16)) := by
  rcases parse_eq_ok.mp parsed with ⟨wellFormed, rfl⟩
  have sized : (UInt16.ofNat plaintext.length).toNat = plaintext.length % 2 ^ 16 := UInt16.toNat_ofNat'
  have made : DTLSRecord.WellFormed { record with
      length := UInt16.ofNat plaintext.length
      fragment := plaintext.take (plaintext.length % 2 ^ 16) } := by
    refine ⟨wellFormed.contentType, wellFormed.version, wellFormed.plaintext, wellFormed.sequence, ?_⟩
    dsimp only
    rw [sized, List.length_take]
    exact (Nat.min_eq_left (Nat.mod_le _ _)).symm
  have reads := made.readsWith nonce (plaintext.drop (plaintext.length % 2 ^ 16))
  have lower : beBytes 2 plaintext.length = beBytes 2 (plaintext.length % 2 ^ 16) := (beBytes_mod 2 _).symm
  rw [serializeWith_eq] at reads
  dsimp only at reads
  rw [sized] at reads
  simp only [List.append_assoc, List.take_append_drop] at reads
  rw [serialize_take, lower]
  exact reads

/-! ## Records that are sent -/

/-- A record that is sent as its fields say: the number has its 48 bits, and the length is that of the
fragment. -/
structure Whole (record : DTLSRecord) : Prop where
  version : record.version = .dtls1_2
  number : record.sequence.sequenceNumber < 2 ^ 48
  length : record.length.toNat = record.fragment.length

/-- The length in the header says where a whole record ends. -/
theorem Whole.serialize_eq {first second : DTLSRecord} (firstWhole : first.Whole) (secondWhole : second.Whole)
    (begins : first.serialize <+: second.serialize) : first.serialize = second.serialize := by
  refine begins.eq_of_length ?_
  rcases begins with ⟨rest, same⟩
  rw [first.serialize_eq, second.serialize_eq, List.append_assoc, List.append_assoc] at same
  have headers := List.append_inj same (first.headerFront_length.trans second.headerFront_length.symm)
  have lengths := List.append_inj headers.2 ((beBytes_length _ _).trans (beBytes_length _ _).symm)
  have sameLength := beBytes_injective first.length.toNat_lt second.length.toNat_lt lengths.1
  rw [firstWhole.length, secondWhole.length] at sameLength
  rw [serialize_length, serialize_length, sameLength]

/-- What is made of whole records can be cut into them in one way only. -/
theorem whole_uniquelyDecodable :
    InformationTheory.UniquelyDecodable { bytes | exists record : DTLSRecord, record.Whole ∧ record.serialize = bytes } := by
  refine uniquelyDecodable_of_initial ?_ ?_
  · rintro ⟨record, _, empty⟩
    have sized := record.serialize_length
    rw [empty, headerLen, List.length_nil] at sized
    omega
  · rintro _ ⟨first, firstWhole, rfl⟩ _ ⟨second, secondWhole, rfl⟩ begins
    exact firstWhole.serialize_eq secondWhole begins

end DTLSRecord

/-! ## Nonces and additional data -/

/-- The fixed part of the nonces: four bytes for AES-GCM, twelve for ChaCha20-Poly1305. -/
structure Iv where
  bytes : Bytes
  fits : bytes.length ≤ 12
  deriving DecidableEq, Repr

/-- An initialization vector of more than twelve bytes is a panic. -/
def Iv.new (bytes : Bytes) : Except Fault Iv :=
  if fits : bytes.length ≤ 12 then .ok ⟨bytes, fits⟩ else .error .panic

structure Nonce where
  bytes : Bytes
  sized : bytes.length = 12

/-- The bytes of two strings, each with the other's combined by exclusive or. -/
def xorKey (first second : Bytes) : Bytes := List.zipWith (fun one other => one ^^^ other) first second

namespace Nonce

/-- The parts must make up twelve bytes. -/
def new (iv : Iv) (explicitNonce : Bytes) : Except Fault Nonce :=
  if sized : (iv.bytes ++ explicitNonce).length = 12 then .ok ⟨iv.bytes ++ explicitNonce, sized⟩
  else .error .panic

/-- The last eight bytes of a vector of twelve are combined with the number. -/
def xor (iv : Iv) (seq : Nat) : Except Fault Nonce :=
  if sized : iv.bytes.length = 12 then
    .ok ⟨iv.bytes.take 4 ++ xorKey (iv.bytes.drop 4) (beBytes 8 seq), by
      unfold xorKey
      rw [List.length_append, List.length_take, List.length_zipWith, List.length_drop, beBytes_length]
      omega⟩
  else .error .panic

end Nonce

/-- The additional authenticated data of a record. -/
abbrev Aad := Bytes

def Aad.newDtls12 (contentType : ContentType) (sequence : Sequence) (length : UInt16) : Aad :=
  beBytes 2 sequence.epoch.toNat ++ ((beBytes 8 sequence.sequenceNumber).drop 2 ++
    (ContentType.coding.bytes8 contentType ++ ([0xfe, 0xfd] ++ beBytes 2 length.toNat)))

theorem xorKey_injective {key first second : Bytes} (firstSized : first.length ≤ key.length)
    (sized : first.length = second.length) (same : xorKey key first = xorKey key second) : first = second := by
  induction key generalizing first second with
  | nil =>
      have firstNil := List.length_eq_zero_iff.mp (Nat.le_zero.mp firstSized)
      rw [firstNil] at sized ⊢
      exact (List.length_eq_zero_iff.mp sized.symm).symm
  | cons byte key ih =>
      cases first with
      | nil => exact (List.length_eq_zero_iff.mp sized.symm).symm
      | cons one first =>
          cases second with
          | nil => cases sized
          | cons other second =>
              unfold xorKey at same ih
              rw [List.zipWith_cons_cons, List.zipWith_cons_cons, List.cons.injEq] at same
              have sameHead : one = other := UInt8.xor_right_inj byte |>.mp same.1
              have sameTail := ih (Nat.le_of_succ_le_succ firstSized) (Nat.succ.inj sized) same.2
              rw [sameHead, sameTail]

/-- Under one vector, two numbers of 64 bits give the same nonce only if they are the same. -/
theorem Nonce.xor_injective {iv : Iv} {first second : Nat} {nonce : Nonce} (firstFits : first < 2 ^ 64)
    (secondFits : second < 2 ^ 64) (isFirst : Nonce.xor iv first = .ok nonce)
    (isSecond : Nonce.xor iv second = .ok nonce) : first = second := by
  unfold Nonce.xor at isFirst isSecond
  split at isFirst
  · rename_i sized
    rw [dif_pos sized] at isSecond
    have same := congrArg Nonce.bytes (Except.ok.inj (isFirst.trans isSecond.symm))
    have sameBytes := List.append_cancel_left same
    have sameCount : beBytes 8 first = beBytes 8 second := by
      refine xorKey_injective ?_ ?_ sameBytes
      · rw [List.length_drop, beBytes_length]
        omega
      · rw [beBytes_length, beBytes_length]
    exact beBytes_injective firstFits secondFits sameCount
  · cases isFirst

end Dtls
end P2pSdk
