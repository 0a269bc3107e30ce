import P2pSdk.Ice.StunRoundTrip
import P2pSdk.Stun.ResponseDecoding

namespace P2pSdk

open Foundation

/-!
# MESSAGE-INTEGRITY as a verifier computes it

The SDK writes MESSAGE-INTEGRITY but never checks one.  The check is stated
here from the standard: a receiver walks to the attribute, takes the bytes in
front of it, lets the length field of that copy end with the attribute, and
compares the HMAC of the copy with the stored value.  The builder rewrites the
length field around its HMAC and appends FINGERPRINT later; the receiver sees
only the finished message.
-/

/-! ## The receiver -/

/-- What a receiver compares. -/
structure IntegrityCheck where
  stored : Bytes
  computed : Bytes
  deriving DecidableEq, Repr

/-- One attribute of the receiver's walk. -/
def integrityRound (crypto : Crypto) (key data : Bytes) (offset : Nat) (header : AttributeHeader)
    (_ : Unit) : Checked (Round Unit IntegrityCheck) :=
  if header.attrType = ATTR_MESSAGE_INTEGRITY then do
    let stored ← sliceAt data (offset + 4) header.attrLen.toNat
    let copy ← sliceAt data 0 offset
    let stop := offset + 4 + padTo4 header.attrLen.toNat
    let adjusted := writeU16 copy 2 (UInt16.ofNat (stop - STUN_HEADER_LEN))
    pure (.done { stored := stored, computed := crypto.hmacSha1 key adjusted })
  else pure (.next ())

/-- The receiver's walk, to the first MESSAGE-INTEGRITY. -/
def checkIntegrity (crypto : Crypto) (key data : Bytes) : Checked (Option IntegrityCheck) := do
  let msgLength ← readU16 data 2
  match ← walkAttributes data msgLength (integrityRound crypto key data) () with
  | .done check => pure (some check)
  | .next _ => pure none

/-! ## A built request -/

namespace RequestFields

variable (crypto : Crypto) (fields : RequestFields)

/-- The types of the attributes in front of MESSAGE-INTEGRITY. -/
def plainTypes : List UInt16 :=
  [ATTR_USERNAME, ATTR_PRIORITY, ATTR_ICE_CONTROLLING, ATTR_ICE_CONTROLLED, ATTR_USE_CANDIDATE]

theorem plainAttributes_type {attr : WireAttribute} (isPlain : attr ∈ fields.plainAttributes) :
    attr.attrType ∈ plainTypes := by
  rcases List.mem_append.mp isPlain with isFixed | isFlag
  · rcases List.mem_cons.mp isFixed with isUsername | isFixed
    · subst isUsername
      exact (by decide : ATTR_USERNAME ∈ plainTypes)
    · rcases List.mem_cons.mp isFixed with isPriority | isFixed
      · subst isPriority
        exact (by decide : ATTR_PRIORITY ∈ plainTypes)
      · have isRole := List.mem_singleton.mp isFixed
        subst isRole
        cases role : fields.controlling with
        | true => exact (by decide : ATTR_ICE_CONTROLLING ∈ plainTypes)
        | false => exact (by decide : ATTR_ICE_CONTROLLED ∈ plainTypes)
  · cases chosen : fields.useCandidate with
    | false =>
        rw [chosen] at isFlag
        cases isFlag
    | true =>
        rw [chosen] at isFlag
        have isUse := List.mem_singleton.mp isFlag
        subst isUse
        exact (by decide : ATTR_USE_CANDIDATE ∈ plainTypes)

theorem plainAttributes_unprotected {attr : WireAttribute}
    (isPlain : attr ∈ fields.plainAttributes) : attr.attrType ≠ ATTR_MESSAGE_INTEGRITY := by
  intro isIntegrity
  have isType := fields.plainAttributes_type isPlain
  rw [isIntegrity] at isType
  exact absurd isType (by decide)

theorem integrityValue_fits (pwd : String) :
    (fields.integrityValue crypto pwd).length < 65536 := by
  rw [integrityValue_length]
  decide

/-- The attribute that a known password adds. -/
def integrityAttribute (pwd : String) : WireAttribute :=
  .zeroPadded ATTR_MESSAGE_INTEGRITY (fields.integrityValue crypto pwd)
    (fields.integrityValue_fits crypto pwd)

theorem attributes_protected {pwd : String} (known : fields.remotePwd = some pwd) :
    fields.attributes crypto = fields.plainAttributes ++
      fields.integrityAttribute crypto pwd :: [fields.fingerprint crypto] := by
  rw [attributes, protectedAttributes, integrity, known, List.append_assoc]
  rfl

theorem build_message :
    (fields.build crypto).data =
      stunMessage STUN_BINDING_REQUEST fields.transactionId (fields.attributes crypto) := by
  rw [build_data, stunMessage, attributes_length, header]

/-- The receiver at the attribute: the copy it makes is what the builder's HMAC
was taken over. -/
theorem integrityRound_attribute {pwd : String} (known : fields.remotePwd = some pwd) :
    integrityRound crypto (asBytes pwd) (fields.build crypto).data
      (20 + (serialize fields.plainAttributes).length)
      ⟨ATTR_MESSAGE_INTEGRITY, UInt16.ofNat
        (fields.integrityAttribute crypto pwd).value.length⟩ () =
      .ok (.done ⟨fields.integrityValue crypto pwd, fields.integrityValue crypto pwd⟩) := by
  have valueLen : (fields.integrityAttribute crypto pwd).value.length = 20 :=
    fields.integrityValue_length crypto pwd
  have covered : (fields.header (fields.attrsLen crypto) ++
      serialize fields.plainAttributes).length = 20 + (serialize fields.plainAttributes).length := by
    rw [List.length_append, header_length]
    rfl
  have split : (fields.build crypto).data =
      (fields.header (fields.attrsLen crypto) ++ serialize fields.plainAttributes) ++
        ((fields.integrityAttribute crypto pwd).bytes ++ serialize [fields.fingerprint crypto]) := by
    rw [build_data, fields.attributes_protected crypto known, serialize_append, serialize_cons,
      List.append_assoc]
  generalize atIntegrity : fields.integrityAttribute crypto pwd = attr at valueLen split ⊢
  have isValue : attr.value = fields.integrityValue crypto pwd := by rw [← atIntegrity]; rfl
  have stored : sliceAt (fields.build crypto).data
      (20 + (serialize fields.plainAttributes).length + 4) attr.value.length = .ok attr.value := by
    have start := value_start
      (fields.header (fields.attrsLen crypto) ++ serialize fields.plainAttributes) attr
    rw [split, bytes_split, ← covered, ← start]
    exact sliceAt_append _ attr.value _
  have copy : sliceAt (fields.build crypto).data 0
      (20 + (serialize fields.plainAttributes).length) =
        .ok (fields.header (fields.attrsLen crypto) ++ serialize fields.plainAttributes) := by
    rw [split, ← covered]
    exact sliceAt_append [] _ _
  have adjusted : 20 + (serialize fields.plainAttributes).length + 4 + padTo4 attr.value.length -
      STUN_HEADER_LEN = (serialize fields.plainAttributes).length + 24 := by
    rw [valueLen, show padTo4 20 = 20 from rfl, STUN_HEADER_LEN]
    omega
  have rewritten := writeU16_lengthField STUN_BINDING_REQUEST (fields.attrsLen crypto)
    ((serialize fields.plainAttributes).length + 24) fields.transactionId.bytes
    (serialize fields.plainAttributes)
  rw [← adjusted] at rewritten
  rw [integrityRound, if_pos rfl, attr.attrLen_toNat, stored, Checked.ok_bind, copy,
    Checked.ok_bind, isValue]
  dsimp only
  rw [← isValue, header, rewritten, adjusted, isValue]
  rfl

/-- The receiver finds MESSAGE-INTEGRITY and computes what is stored in it. -/
theorem checkIntegrity_build {pwd : String} (known : fields.remotePwd = some pwd)
    (fits : fields.attrsLen crypto < 65536) :
    checkIntegrity crypto (asBytes pwd) (fields.build crypto).data =
      .ok (some ⟨fields.integrityValue crypto pwd, fields.integrityValue crypto pwd⟩) := by
  have whole := fields.attributes_protected crypto known
  have isLength : (serialize (fields.attributes crypto)).length < 65536 := by
    rw [attributes_length]
    exact fits
  have lastOther : forall other, other ∈ [fields.fingerprint crypto] ->
      other.attrType ≠ ATTR_MESSAGE_INTEGRITY := by
    intro other isLast
    rw [List.mem_singleton.mp isLast]
    exact (by decide : ATTR_FINGERPRINT ≠ ATTR_MESSAGE_INTEGRITY)
  have walked := @walkAttributes_find STUN_BINDING_REQUEST fields.transactionId _ _
    [fields.fingerprint crypto] (fields.integrityAttribute crypto pwd)
    (by rw [← whole]; exact isLength) (fun _ isPlain => fields.plainAttributes_unprotected isPlain)
    lastOther (integrityRound crypto (asBytes pwd) (fields.build crypto).data) _
    (fun _ _ other => if_neg other) (fields.integrityRound_attribute crypto known)
  rw [← whole, ← build_message] at walked
  have claimed := stunMessage_claimed STUN_BINDING_REQUEST fields.transactionId
    (fields.attributes crypto)
  rw [← build_message] at claimed
  rw [checkIntegrity, claimed, Checked.ok_bind, walked]
  rfl

end RequestFields

/-- The MESSAGE-INTEGRITY of every request is the value that a receiver with
the same password computes, and the finished header tells the true length. -/
theorem messageIntegrity_verifies (crypto : Crypto) (username : String) (priority : UInt32)
    (controlling : Bool) (tieBreaker : UInt64) (useCandidate : Bool) (pwd : String)
    (transactionId : TransactionId)
    (fits : padTo4 (4 + (asBytes username).length) + 8 + 12 + (if useCandidate then 4 else 0) +
      24 + 8 < 65536) :
    let data := (buildIceBindingRequest crypto username priority controlling tieBreaker
      useCandidate (some pwd) transactionId).data
    (exists check, checkIntegrity crypto (asBytes pwd) data = .ok (some check) ∧
      check.computed = check.stored ∧ check.stored.length = 20) ∧
    exists claimed, readU16 data 2 = .ok claimed ∧
      claimed.toNat + STUN_HEADER_LEN = data.length := by
  intro data
  let fields : RequestFields :=
    { username := username, priority := priority, controlling := controlling,
      tieBreaker := tieBreaker, useCandidate := useCandidate, remotePwd := some pwd,
      transactionId := transactionId,
      username_fits := by
        have grows := padTo4_ge (4 + (asBytes username).length)
        omega }
  have isData : data = (fields.build crypto).data := rfl
  have size : padTo4 (4 + (asBytes username).length) + 8 + 12 + 24 + 8 +
      (if useCandidate then 4 else 0) = fields.attrsLen crypto := fields.attrsLen_eq crypto
  have isShort : fields.attrsLen crypto < 65536 := by omega
  have length := fields.attributes_length crypto
  constructor
  · refine ⟨_, fields.checkIntegrity_build crypto rfl isShort, rfl, ?_⟩
    exact fields.integrityValue_length crypto pwd
  · refine ⟨UInt16.ofNat (fields.attrsLen crypto), ?_, ?_⟩
    · rw [isData, fields.build_message, stunMessage_claimed, length]
    · rw [isData, fields.build_data, List.length_append, fields.header_length, length,
        UInt16.toNat_ofNat', Nat.mod_eq_of_lt isShort, Nat.add_comm]

theorem padded_length (key data : Bytes) :
    (((key ++ data).take 20).rightpad 20 0).length = 20 := by
  rw [List.length_rightpad, List.length_take]
  omega

/-- A keyed function of the bytes that it is given. -/
def paddedCrypto : Crypto where
  hmacSha1 := fun key data => ((key ++ data).take 20).rightpad 20 0
  hmacSha1_length := padded_length
  crc32 := fun _ => 0

/-- A request with a padded username and USE-CANDIDATE. -/
theorem messageIntegrity_verifies_nominating :
    let data := (buildIceBindingRequest paddedCrypto "peer:me" 7 true 1 true (some "secret")
      ⟨zeros 12, zeros_length 12⟩).data
    (exists check, checkIntegrity paddedCrypto (asBytes "secret") data = .ok (some check) ∧
      check.computed = check.stored ∧ check.stored.length = 20) ∧
    exists claimed, readU16 data 2 = .ok claimed ∧
      claimed.toNat + STUN_HEADER_LEN = data.length :=
  messageIntegrity_verifies paddedCrypto "peer:me" 7 true 1 true "secret"
    ⟨zeros 12, zeros_length 12⟩ (by decide +kernel)

end P2pSdk
