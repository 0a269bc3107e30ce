import P2pSdk.Foundation.Crc
import P2pSdk.Ice.MessageIntegrity
import P2pSdk.Ice.StunReplies

namespace P2pSdk

open Foundation

/-!
# FINGERPRINT as a verifier computes it

A receiver takes the CRC of the bytes in front of FINGERPRINT.  The builders
take it over the whole buffer, in which the attribute stands already, its value
still zero.  Eight fixed bytes are appended to what the receiver covers, and
the two checks agree for one value of the CRC only.
-/

/-! ## The check -/

/-- CRC-32/ISO-HDLC. -/
def CRC_32_ISO_HDLC : ReflectedCrc 32 where
  polynomial := 0xEDB88320#32
  start := 0xFFFFFFFF#32
  xorOut := 0xFFFFFFFF#32

/-- Compute CRC32. -/
def crc32 (data : Bytes) : UInt32 := UInt32.ofBitVec (CRC_32_ISO_HDLC.checksum data)

example : crc32 [0x31, 0x32, 0x33, 0x34, 0x35, 0x36, 0x37, 0x38, 0x39] = 0xCBF43926 := by
  decide +kernel

/-- Any HMAC, and this CRC. -/
def Crypto.withCrc32 (crypto : Crypto) : Crypto := { crypto with crc32 := P2pSdk.crc32 }

/-- The attribute as it stands in the buffer when the builders take the CRC. -/
def blankFingerprint : Bytes := u16Bytes ATTR_FINGERPRINT ++ (u16Bytes 4 ++ zeros 4)

/-- The CRC of the bytes that a blank FINGERPRINT does not change. -/
def blankFixedCrc : UInt32 := 0x4E55D3E8

theorem crcBit_fixed_zero (register : BitVec 32)
    (fixed : crcBit CRC_32_ISO_HDLC.polynomial register = register) : register = 0#32 :=
  eq_zero_of_crcBit_fixed (show 32 ≤ 2 ^ 5 by decide) (by decide +kernel) fixed

/-- The CRC over a message with a blank FINGERPRINT agrees with that over the
message in front of it for one value only. -/
theorem crc32_blank_iff (front : Bytes) :
    crc32 (front ++ blankFingerprint) = crc32 front <-> crc32 front = blankFixedCrc := by
  have unchanged := CRC_32_ISO_HDLC.checksum_append_iff crcBit_fixed_zero
    (show 8 * blankFingerprint.length = 2 ^ 6 by decide)
    (show crcBytes CRC_32_ISO_HDLC.polynomial 0xB1AA2C17#32 blankFingerprint = 0xB1AA2C17#32 by
      decide +kernel) front
  rw [← UInt32.toBitVec_inj, ← UInt32.toBitVec_inj]
  exact unchanged

/-! ## The receiver -/

/-- What a receiver compares, and where the attribute ends. -/
structure FingerprintCheck where
  stored : Bytes
  computed : UInt32
  stop : Nat

/-- One attribute of the receiver's walk. -/
def fingerprintRound (crypto : Crypto) (data : Bytes) (offset : Nat) (header : AttributeHeader)
    (_ : Unit) : Checked (Round Unit FingerprintCheck) :=
  if header.attrType = ATTR_FINGERPRINT then do
    let stored ← sliceAt data (offset + 4) header.attrLen.toNat
    let covered ← sliceAt data 0 offset
    pure (.done
      { stored := stored
        computed := crypto.stunFingerprint covered
        stop := offset + 4 + padTo4 header.attrLen.toNat })
  else pure (.next ())

/-- The receiver's walk, to the first FINGERPRINT. -/
def checkFingerprint (crypto : Crypto) (data : Bytes) : Checked (Option FingerprintCheck) := do
  let msgLength ← readU16 data 2
  match ← walkAttributes data msgLength (fingerprintRound crypto data) () with
  | .done check => pure (some check)
  | .next _ => pure none

/-- FINGERPRINT is the last attribute, and its value is the one that a receiver
computes. -/
def FingerprintVerifies (crypto : Crypto) (data : Bytes) : Prop :=
  exists check, checkFingerprint crypto data = .ok (some check) ∧ check.stop = data.length ∧
    check.stored = u32Bytes check.computed

/-- The receiver on a message that ends with FINGERPRINT. -/
theorem checkFingerprint_message (crypto : Crypto) (msgType : UInt16)
    (transactionId : TransactionId) {attrs : List WireAttribute} {last : WireAttribute}
    (isLast : last.attrType = ATTR_FINGERPRINT)
    (others : forall attr, attr ∈ attrs -> attr.attrType ≠ ATTR_FINGERPRINT)
    (fits : (serialize (attrs ++ [last])).length < 65536) :
    checkFingerprint crypto (stunMessage msgType transactionId (attrs ++ [last])) = .ok (some
      { stored := last.value
        computed := crypto.stunFingerprint
          (stunHeader msgType (serialize (attrs ++ [last])).length transactionId.bytes ++
            serialize attrs)
        stop := (stunMessage msgType transactionId (attrs ++ [last])).length }) := by
  have split := stunMessage_split msgType transactionId attrs last []
  generalize atFront : stunHeader msgType (serialize (attrs ++ [last])).length
    transactionId.bytes ++ serialize attrs = front at split ⊢
  have frontLen : front.length = 20 + (serialize attrs).length := by
    rw [← atFront, List.length_append, stunHeader_length]
    rfl
  generalize isData : stunMessage msgType transactionId (attrs ++ [last]) = data at split ⊢
  have stored : sliceAt data (20 + (serialize attrs).length + 4) last.value.length =
      .ok last.value := by
    have start := value_start front last
    rw [split, bytes_split, ← frontLen, ← start]
    exact sliceAt_append _ last.value _
  have covered : sliceAt data 0 (20 + (serialize attrs).length) = .ok front := by
    rw [split, ← frontLen]
    exact sliceAt_append [] front _
  have stop : 20 + (serialize attrs).length + 4 + padTo4 last.value.length = data.length := by
    rw [split, List.length_append, List.length_append, frontLen, last.bytes_length, serialize_nil,
      List.length_nil]
    omega
  have round : fingerprintRound crypto data (20 + (serialize attrs).length)
      ⟨last.attrType, UInt16.ofNat last.value.length⟩ () = .ok (.done
        { stored := last.value, computed := crypto.stunFingerprint front, stop := data.length }) := by
    rw [fingerprintRound, if_pos isLast, last.attrLen_toNat, stored, Checked.ok_bind, covered,
      Checked.ok_bind, stop]
    rfl
  have walked := @walkAttributes_find msgType transactionId _ attrs [] last fits
    (fun other isOther => by rw [isLast]; exact others other isOther)
    (fun other isOther => absurd isOther List.not_mem_nil) (fingerprintRound crypto data) _
    (fun _ _ other => if_neg (by rw [← isLast]; exact other)) round
  have claimed := stunMessage_claimed msgType transactionId (attrs ++ [last])
  rw [isData] at walked claimed
  rw [checkFingerprint, claimed, Checked.ok_bind, walked]
  rfl

/-- What the builders store agrees with what a receiver computes. -/
theorem fingerprintVerifies_iff (crypto : Crypto) (msgType : UInt16)
    (transactionId : TransactionId) {attrs : List WireAttribute} {last : WireAttribute}
    (isLast : last.attrType = ATTR_FINGERPRINT)
    (others : forall attr, attr ∈ attrs -> attr.attrType ≠ ATTR_FINGERPRINT)
    (fits : (serialize (attrs ++ [last])).length < 65536) {front : Bytes}
    (isFront : front = stunHeader msgType (serialize (attrs ++ [last])).length
      transactionId.bytes ++ serialize attrs)
    (value : last.value = u32Bytes (crypto.withCrc32.stunFingerprint (front ++ blankFingerprint))) :
    FingerprintVerifies crypto.withCrc32 (stunMessage msgType transactionId (attrs ++ [last])) <->
      crc32 front = blankFixedCrc := by
  have check := checkFingerprint_message crypto.withCrc32 msgType transactionId isLast others fits
  rw [← isFront, value] at check
  have inverse : Function.LeftInverse (fun bytes => UInt32.ofNat (beNat bytes)) u32Bytes :=
    ofNat_beNat_u32Bytes
  rw [← crc32_blank_iff]
  constructor
  · rintro ⟨found, isFound, _, same⟩
    rw [check] at isFound
    cases isFound
    exact UInt32.xor_left_inj _ |>.mp (inverse.injective same)
  · intro same
    refine ⟨_, check, rfl, ?_⟩
    show u32Bytes (crc32 (front ++ blankFingerprint) ^^^ _) = u32Bytes (crc32 front ^^^ _)
    rw [same]

/-! ## The two builders -/

namespace RequestFields

variable (crypto : Crypto) (fields : RequestFields)

/-- The message in front of FINGERPRINT, its length field the final one. -/
def beforeFingerprint : Bytes :=
  fields.header (fields.attrsLen crypto) ++ serialize (fields.protectedAttributes crypto)

theorem protectedAttributes_unmarked {attr : WireAttribute}
    (isProtected : attr ∈ fields.protectedAttributes crypto) : attr.attrType ≠ ATTR_FINGERPRINT := by
  rcases List.mem_append.mp isProtected with isPlain | isIntegrity
  · intro isFingerprint
    have isType := fields.plainAttributes_type isPlain
    rw [isFingerprint] at isType
    exact absurd isType (by decide)
  · rw [integrity] at isIntegrity
    cases known : fields.remotePwd with
    | none =>
        rw [known] at isIntegrity
        cases isIntegrity
    | some pwd =>
        rw [known] at isIntegrity
        rw [List.mem_singleton.mp isIntegrity]
        exact (by decide : ATTR_MESSAGE_INTEGRITY ≠ ATTR_FINGERPRINT)

theorem fingerprintVerifies_build_iff (fits : fields.attrsLen crypto.withCrc32 < 65536) :
    FingerprintVerifies crypto.withCrc32 (fields.build crypto.withCrc32).data <->
      crc32 (fields.beforeFingerprint crypto.withCrc32) = blankFixedCrc := by
  have length := fields.attributes_length crypto.withCrc32
  rw [build_message]
  refine @fingerprintVerifies_iff crypto STUN_BINDING_REQUEST fields.transactionId
    (fields.protectedAttributes crypto.withCrc32) (fields.fingerprint crypto.withCrc32) rfl
    (fun _ isProtected => fields.protectedAttributes_unmarked _ isProtected) ?_ _ ?_ rfl
  · exact length.trans_lt fits
  · exact congrArg (fun attrsLen => fields.header attrsLen ++
      serialize (fields.protectedAttributes crypto.withCrc32)) length.symm

end RequestFields

/-- The error response in front of FINGERPRINT. -/
def errorBeforeFingerprint (requestData : Bytes) (errorCode : UInt16) (reason : String) : Bytes :=
  stunHeader STUN_BINDING_ERROR (errorAttrsLen reason) ((requestData.drop 8).take 12) ++
    (u16Bytes ATTR_ERROR_CODE ++ (u16Bytes (UInt16.ofNat (errorValue errorCode reason).length) ++
      (errorValue errorCode reason ++ zeros (padTo4 (errorValue errorCode reason).length -
        (errorValue errorCode reason).length))))

theorem fingerprintVerifies_error_iff (crypto : Crypto) {requestData : Bytes}
    (long : STUN_HEADER_LEN ≤ requestData.length) (errorCode : UInt16) (reason : String)
    (fits : errorAttrsLen reason < 65536) :
    exists response, buildIceErrorResponse crypto.withCrc32 requestData errorCode reason =
        some response ∧
      (FingerprintVerifies crypto.withCrc32 response <->
        crc32 (errorBeforeFingerprint requestData errorCode reason) = blankFixedCrc) := by
  have valueFits : (errorValue errorCode reason).length < 65536 := by
    have grows := padTo4_ge (4 + 4 + (asBytes reason).length)
    rw [errorValue_length]
    rw [errorAttrsLen] at fits
    omega
  refine ⟨_, buildIceErrorResponse_eq crypto.withCrc32 long errorCode reason valueFits, ?_⟩
  have length := errorAttributes_length crypto.withCrc32 (requestTransactionId requestData long)
    errorCode reason valueFits
  have whole : stunHeader STUN_BINDING_ERROR (errorAttrsLen reason)
        (requestTransactionId requestData long).bytes ++
      serialize (errorAttributes crypto.withCrc32 (requestTransactionId requestData long) errorCode
        reason valueFits) = stunMessage STUN_BINDING_ERROR (requestTransactionId requestData long)
      (errorAttributes crypto.withCrc32 (requestTransactionId requestData long) errorCode reason
        valueFits) := by
    rw [stunMessage, length]
  have others : forall attr,
      attr ∈ [WireAttribute.zeroPadded ATTR_ERROR_CODE (errorValue errorCode reason) valueFits] ->
      attr.attrType ≠ ATTR_FINGERPRINT := by
    intro attr isError
    rw [List.mem_singleton.mp isError]
    exact (by decide : ATTR_ERROR_CODE ≠ ATTR_FINGERPRINT)
  rw [whole]
  refine @fingerprintVerifies_iff crypto STUN_BINDING_ERROR (requestTransactionId requestData long)
    [.zeroPadded ATTR_ERROR_CODE (errorValue errorCode reason) valueFits] _ rfl others
    (length.trans_lt fits) _ ?_ rfl
  have serialized : serialize [.zeroPadded ATTR_ERROR_CODE (errorValue errorCode reason)
      valueFits] = WireAttribute.bytes (.zeroPadded ATTR_ERROR_CODE (errorValue errorCode reason)
        valueFits) := by
    rw [serialize_cons, serialize_nil, List.append_nil]
  rw [serialized]
  exact congrArg (fun attrsLen => stunHeader STUN_BINDING_ERROR attrsLen
    (requestTransactionId requestData long).bytes ++ WireAttribute.bytes (.zeroPadded
      ATTR_ERROR_CODE (errorValue errorCode reason) valueFits)) length.symm

/-- FINGERPRINT is what a receiver computes exactly when the CRC of the message
in front of it is the one that a blank FINGERPRINT leaves as it is. -/
theorem fingerprints_verify_iff (crypto : Crypto) :
    (forall fields : RequestFields, fields.attrsLen crypto.withCrc32 < 65536 ->
      (FingerprintVerifies crypto.withCrc32 (fields.build crypto.withCrc32).data <->
        crc32 (fields.beforeFingerprint crypto.withCrc32) = blankFixedCrc)) ∧
    forall (requestData : Bytes) (errorCode : UInt16) (reason : String),
      STUN_HEADER_LEN ≤ requestData.length -> errorAttrsLen reason < 65536 ->
        exists response, buildIceErrorResponse crypto.withCrc32 requestData errorCode reason =
            some response ∧
          (FingerprintVerifies crypto.withCrc32 response <->
            crc32 (errorBeforeFingerprint requestData errorCode reason) = blankFixedCrc) := by
  constructor
  · intro fields fits
    exact fields.fingerprintVerifies_build_iff crypto fits
  · intro requestData errorCode reason long fits
    exact fingerprintVerifies_error_iff crypto long errorCode reason fits

theorem peerMe_fits : (asBytes "peer:me").length < 65536 := by decide

/-- A request without MESSAGE-INTEGRITY, up to its priority. -/
def plainFields (priority : UInt32) : RequestFields where
  username := "peer:me"
  priority := priority
  controlling := true
  tieBreaker := 0
  useCandidate := false
  remotePwd := none
  transactionId := countingIds 0
  username_fits := peerMe_fits

/-- One priority in 2^32 gives the CRC for which a receiver agrees. -/
theorem fingerprints_verify_at_priority :
    FingerprintVerifies zeroCrypto.withCrc32
      ((plainFields 0xe79eda29).build zeroCrypto.withCrc32).data :=
  ((fingerprints_verify_iff zeroCrypto).1 (plainFields 0xe79eda29) (by decide +kernel)).mpr
    (by decide +kernel)

/-- A request whose FINGERPRINT a receiver does not accept. -/
theorem fingerprint_rejected :
    ¬ forall (crypto : Crypto) (fields : RequestFields),
      fields.attrsLen crypto.withCrc32 < 65536 ->
        FingerprintVerifies crypto.withCrc32 (fields.build crypto.withCrc32).data := by
  intro claim
  have verifies := claim zeroCrypto (plainFields 7) (by decide +kernel)
  rw [(plainFields 7).fingerprintVerifies_build_iff zeroCrypto (by decide +kernel)] at verifies
  revert verifies
  decide +kernel

end P2pSdk
