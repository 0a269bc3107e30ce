import P2pSdk.Ice.AgentRun

namespace P2pSdk

open Foundation

/-!
# Replies are read back

The success and the error response take their transaction id from the request,
which may be any datagram of header length.  An error response is a header with
ERROR-CODE and FINGERPRINT.  The builder places the reason one byte earlier
than the length of the attribute accounts for, so the value ends in one zero
byte; the parser reads class and number from where the builder puts them.
-/

theorem requestTransactionId_length {requestData : Bytes}
    (long : STUN_HEADER_LEN ≤ requestData.length) : ((requestData.drop 8).take 12).length = 12 := by
  rw [STUN_HEADER_LEN] at long
  rw [List.length_take, List.length_drop]
  omega

/-- Bytes 8 to 20 of a message of at least header length. -/
def requestTransactionId (requestData : Bytes) (long : STUN_HEADER_LEN ≤ requestData.length) :
    TransactionId where
  bytes := (requestData.drop 8).take 12
  length_eq := requestTransactionId_length long

/-- Whatever the response builder accepts, it answers with the bare success
header under the id of the request. -/
theorem respond_accepted {requestData response : Bytes}
    (long : STUN_HEADER_LEN ≤ requestData.length)
    (accepted : buildIceBindingResponse requestData = some response) :
    response = stunHeader STUN_BINDING_SUCCESS 0 (requestTransactionId requestData long).bytes := by
  have written := writeHeader_zeros STUN_BINDING_SUCCESS 0
    (requestTransactionId requestData long) 0
  rw [buildIceBindingResponse, if_neg (Nat.not_lt.mpr long)] at accepted
  split_ifs at accepted
  have same := Option.some.inj accepted
  rw [← same]
  simpa [zeros, requestTransactionId] using written

/-! ## The error response -/

theorem WireAttribute.read_errorCode (attr : WireAttribute) (result : ParsedStunMessage)
    (isType : attr.attrType = ATTR_ERROR_CODE) {reserved classByte number : UInt8} {rest : Bytes}
    (isValue : attr.value = reserved :: classByte :: number :: rest) (long : 0 < rest.length) :
    attr.read result = .ok
      { result with errorCode := (classByte &&& 0x07).toUInt16 * 100 + number.toUInt16 } := by
  have length : 4 ≤ attr.value.length := by
    rw [isValue]
    simp only [List.length_cons]
    omega
  have readClass : byteAt attr.bytes 5 = .ok classByte := by
    have inside := byteAt_inside (u16Bytes attr.attrType ++
      u16Bytes (UInt16.ofNat attr.value.length)) attr.value attr.padding 1 (by omega)
    rw [List.length_append, u16Bytes_length, u16Bytes_length, List.append_assoc] at inside
    rw [WireAttribute.bytes, inside, isValue]
    rfl
  have readNumber : byteAt attr.bytes 6 = .ok number := by
    have inside := byteAt_inside (u16Bytes attr.attrType ++
      u16Bytes (UInt16.ofNat attr.value.length)) attr.value attr.padding 2 (by omega)
    rw [List.length_append, u16Bytes_length, u16Bytes_length, List.append_assoc] at inside
    rw [WireAttribute.bytes, inside, isValue]
    rfl
  rw [read, parseAttribute, isType]
  simp [ATTR_ERROR_CODE, ATTR_USERNAME, ATTR_PRIORITY, ATTR_USE_CANDIDATE, ATTR_ICE_CONTROLLING,
    ATTR_ICE_CONTROLLED, ATTR_XOR_MAPPED_ADDRESS, length, readClass, readNumber]

/-- Class and number give back every code whose class fits three bits. -/
theorem errorCode_digits (errorCode : UInt16) (small : errorCode < 800) :
    ((errorCode / 100).toUInt8 &&& 0x07).toUInt16 * 100 + (errorCode % 100).toUInt8.toUInt16 =
      errorCode := by
  have bound : errorCode.toNat < 800 := small
  have classBits : (errorCode.toNat / 100 % 256) &&& 7 = errorCode.toNat / 100 := by
    rw [Nat.mod_eq_of_lt (by omega), Nat.and_two_pow_sub_one_eq_mod _ 3]
    exact Nat.mod_eq_of_lt (by omega)
  apply UInt16.toNat_inj.mp
  simp only [UInt16.toNat_add, UInt16.toNat_mul, UInt8.toNat_toUInt16, UInt8.toNat_and,
    UInt16.toNat_toUInt8, UInt16.toNat_div, UInt16.toNat_mod, UInt16.reduceToNat,
    UInt8.reduceToNat, classBits]
  omega

/-- The size of the attributes of an error response. -/
def errorAttrsLen (reason : String) : Nat :=
  padTo4 (4 + 4 + (asBytes reason).length) + padTo4 (4 + 4)

/-- The value of ERROR-CODE: a zero, class and number, the reason, and the zero
byte that the announced length includes after it. -/
def errorValue (errorCode : UInt16) (reason : String) : Bytes :=
  0 :: (errorCode / 100).toUInt8 :: (errorCode % 100).toUInt8 :: (asBytes reason ++ zeros 1)

theorem errorValue_length (errorCode : UInt16) (reason : String) :
    (errorValue errorCode reason).length = 4 + (asBytes reason).length := by
  simp only [errorValue, List.length_cons, List.length_append, zeros_length]
  omega

/-- What the error builder writes between header and FINGERPRINT. -/
theorem writeErrorCode_zeros (done : Bytes) (errorCode : UInt16) (reason : String)
    (fits : (errorValue errorCode reason).length < 65536) (offset : Nat)
    (atEnd : offset = done.length) (room : Nat) :
    (let buf := writeAttributeHeader
        (done ++ zeros (padTo4 (4 + 4 + (asBytes reason).length) + room)) offset ATTR_ERROR_CODE
        (4 + (asBytes reason).length)
     let buf := writeAt buf (offset + 4) [0]
     let buf := writeAt buf (offset + 5) [(errorCode / 100).toUInt8]
     let buf := writeAt buf (offset + 6) [(errorCode % 100).toUInt8]
     writeAt buf (offset + 7) (asBytes reason)) =
      (done ++ WireAttribute.bytes (.zeroPadded ATTR_ERROR_CODE (errorValue errorCode reason) fits))
        ++ zeros room := by
  dsimp only
  have valueLen := errorValue_length errorCode reason
  have grows := padTo4_ge (4 + (asBytes reason).length)
  have padded : padTo4 (4 + 4 + (asBytes reason).length) =
      4 + padTo4 (4 + (asBytes reason).length) := by
    rw [Nat.add_assoc, padTo4_add_four]
  -- What is left after the reason: the last byte of the value, the padding and `room`.
  obtain ⟨rest, restEq⟩ : exists rest, padTo4 (4 + (asBytes reason).length) =
      3 + ((asBytes reason).length + (1 + rest)) :=
    ⟨padTo4 (4 + (asBytes reason).length) - (4 + (asBytes reason).length), by omega⟩
  have headerWritten := writeAttributeHeader_zeros done ATTR_ERROR_CODE
    (4 + (asBytes reason).length) (padTo4 (4 + 4 + (asBytes reason).length) + room)
    (3 + ((asBytes reason).length + (1 + rest)) + room) offset atEnd (by omega)
  have reservedWritten := writeAt_zeros (done ++ (u16Bytes ATTR_ERROR_CODE ++
    u16Bytes (UInt16.ofNat (4 + (asBytes reason).length)))) [0]
    (3 + ((asBytes reason).length + (1 + rest)) + room)
    (2 + ((asBytes reason).length + (1 + rest)) + room) (offset + 4)
    (by simp only [List.length_append, u16Bytes_length, atEnd])
    (by simp only [List.length_singleton]; omega)
  have classWritten := writeAt_zeros (done ++ (u16Bytes ATTR_ERROR_CODE ++
    (u16Bytes (UInt16.ofNat (4 + (asBytes reason).length)) ++ [0]))) [(errorCode / 100).toUInt8]
    (2 + ((asBytes reason).length + (1 + rest)) + room)
    (1 + ((asBytes reason).length + (1 + rest)) + room) (offset + 5)
    (by simp only [List.length_append, u16Bytes_length, atEnd, List.length_singleton])
    (by simp only [List.length_singleton]; omega)
  have numberWritten := writeAt_zeros (done ++ (u16Bytes ATTR_ERROR_CODE ++
    (u16Bytes (UInt16.ofNat (4 + (asBytes reason).length)) ++
      ([0] ++ [(errorCode / 100).toUInt8])))) [(errorCode % 100).toUInt8]
    (1 + ((asBytes reason).length + (1 + rest)) + room)
    ((asBytes reason).length + (1 + rest) + room) (offset + 6)
    (by simp only [List.length_append, u16Bytes_length, atEnd, List.length_singleton])
    (by simp only [List.length_singleton]; omega)
  have reasonWritten := writeAt_zeros (done ++ (u16Bytes ATTR_ERROR_CODE ++
    (u16Bytes (UInt16.ofNat (4 + (asBytes reason).length)) ++
      ([0] ++ ([(errorCode / 100).toUInt8] ++ [(errorCode % 100).toUInt8]))))) (asBytes reason)
    ((asBytes reason).length + (1 + rest) + room) (1 + rest + room) (offset + 7)
    (by simp only [List.length_append, u16Bytes_length, atEnd, List.length_singleton])
    (by omega)
  have padding : padTo4 (4 + (asBytes reason).length) - (4 + (asBytes reason).length) = rest := by
    omega
  simp only [List.append_assoc] at headerWritten reservedWritten classWritten
  simp only [List.append_assoc] at numberWritten reasonWritten
  rw [headerWritten, reservedWritten, classWritten, numberWritten, reasonWritten]
  simp only [WireAttribute.bytes, WireAttribute.zeroPadded, valueLen, padding]
  simp only [errorValue, zeros_add, List.append_assoc, List.cons_append, List.nil_append]

/-- The attributes of an error response, in the builder's order. -/
def errorAttributes (crypto : Crypto) (transactionId : TransactionId) (errorCode : UInt16)
    (reason : String) (fits : (errorValue errorCode reason).length < 65536) :
    List WireAttribute :=
  let protectedPart := stunHeader STUN_BINDING_ERROR (errorAttrsLen reason) transactionId.bytes ++
    WireAttribute.bytes (.zeroPadded ATTR_ERROR_CODE (errorValue errorCode reason) fits)
  [.zeroPadded ATTR_ERROR_CODE (errorValue errorCode reason) fits,
    .zeroPadded ATTR_FINGERPRINT
      (u32Bytes (crypto.stunFingerprint (protectedPart ++ (u16Bytes ATTR_FINGERPRINT ++
        (u16Bytes 4 ++ zeros 4))))) (by rw [u32Bytes_length]; decide)]

theorem errorAttributes_length (crypto : Crypto) (transactionId : TransactionId)
    (errorCode : UInt16) (reason : String) (fits : (errorValue errorCode reason).length < 65536) :
    (serialize (errorAttributes crypto transactionId errorCode reason fits)).length =
      errorAttrsLen reason := by
  simp only [errorAttributes, serialize_cons, serialize_nil, List.append_nil, List.length_append,
    WireAttribute.bytes_length, WireAttribute.zeroPadded, errorValue_length, u32Bytes_length,
    errorAttrsLen, Nat.add_assoc, padTo4_add_four]

/-- The finished buffer is the header followed by the two attributes. -/
theorem buildIceErrorResponse_eq (crypto : Crypto) {requestData : Bytes}
    (long : STUN_HEADER_LEN ≤ requestData.length) (errorCode : UInt16) (reason : String)
    (fits : (errorValue errorCode reason).length < 65536) :
    buildIceErrorResponse crypto requestData errorCode reason = some
      (stunHeader STUN_BINDING_ERROR (errorAttrsLen reason)
          (requestTransactionId requestData long).bytes ++
        serialize (errorAttributes crypto (requestTransactionId requestData long) errorCode reason
          fits)) := by
  have headerWritten := writeHeader_zeros STUN_BINDING_ERROR (errorAttrsLen reason)
    (requestTransactionId requestData long) (errorAttrsLen reason)
  have headerLen := stunHeader_length STUN_BINDING_ERROR (errorAttrsLen reason)
    (requestTransactionId requestData long)
  have codeWritten := writeErrorCode_zeros
    (stunHeader STUN_BINDING_ERROR (errorAttrsLen reason)
      (requestTransactionId requestData long).bytes) errorCode reason fits STUN_HEADER_LEN
    headerLen.symm 8
  have fingerprintAt : STUN_HEADER_LEN + padTo4 (4 + 4 + (asBytes reason).length) =
      (stunHeader STUN_BINDING_ERROR (errorAttrsLen reason)
          (requestTransactionId requestData long).bytes ++
        WireAttribute.bytes (.zeroPadded ATTR_ERROR_CODE (errorValue errorCode reason)
          fits)).length := by
    rw [List.length_append, headerLen, WireAttribute.bytes_length, WireAttribute.zeroPadded,
      errorValue_length, Nat.add_assoc 4 4, padTo4_add_four]
  have fingerprint := writeFingerprint_zeros crypto
    (stunHeader STUN_BINDING_ERROR (errorAttrsLen reason)
        (requestTransactionId requestData long).bytes ++
      WireAttribute.bytes (.zeroPadded ATTR_ERROR_CODE (errorValue errorCode reason) fits))
  have eight : padTo4 (4 + 4) = 8 := rfl
  dsimp only at codeWritten
  simp only [errorAttrsLen, eight] at headerWritten codeWritten fingerprintAt fingerprint ⊢
  rw [buildIceErrorResponse, if_neg (Nat.not_lt.mpr long)]
  simp only [eight, requestTransactionId] at headerWritten codeWritten fingerprintAt fingerprint ⊢
  rw [headerWritten, codeWritten, fingerprintAt, fingerprint]
  simp only [errorAttributes, serialize_cons, serialize_nil, List.append_nil, List.append_assoc,
    errorAttrsLen, eight]

/-- An error response parses as one, with the id of the request and its code. -/
theorem parse_errorResponse (crypto : Crypto) {requestData : Bytes}
    (long : STUN_HEADER_LEN ≤ requestData.length) (errorCode : UInt16) (small : errorCode < 800)
    (reason : String) (fits : errorAttrsLen reason < 65536) :
    exists response, buildIceErrorResponse crypto requestData errorCode reason = some response ∧
      parseIceStunMessage response = .ok
        { isStun := true, isErrorResponse := true, transactionId := (requestData.drop 8).take 12,
          errorCode := errorCode } := by
  have valueFits : (errorValue errorCode reason).length < 65536 := by
    have grows := padTo4_ge (4 + 4 + (asBytes reason).length)
    rw [errorValue_length]
    rw [errorAttrsLen] at fits
    omega
  refine ⟨_, buildIceErrorResponse_eq crypto long errorCode reason valueFits, ?_⟩
  have attrsLen := errorAttributes_length crypto (requestTransactionId requestData long) errorCode
    reason valueFits
  have parsed := parseIceStunMessage_serialize STUN_BINDING_ERROR (Or.inr (Or.inr rfl))
    (requestTransactionId requestData long)
    (errorAttributes crypto (requestTransactionId requestData long) errorCode reason valueFits) []
    (by rwa [attrsLen])
  rw [attrsLen, List.append_nil] at parsed
  have readCode := fun result => WireAttribute.read_errorCode
    (.zeroPadded ATTR_ERROR_CODE (errorValue errorCode reason) valueFits) result rfl rfl
    (by rw [List.length_append, zeros_length]; omega)
  have readFingerprint := fun result value fitting => WireAttribute.read_protection
    (.zeroPadded ATTR_FINGERPRINT value fitting) result (Or.inr rfl)
  rw [parsed, errorAttributes, List.foldlM_cons, readCode, Checked.ok_bind, List.foldlM_cons,
    readFingerprint, Checked.ok_bind, errorCode_digits errorCode small]
  simp [headerResult, requestTransactionId, STUN_BINDING_ERROR, STUN_BINDING_REQUEST,
    STUN_BINDING_SUCCESS]

/-! ## The three messages together -/

/-- The size of the attributes of a request, as its builder computes it. -/
def requestAttrsLen (username : String) (useCandidate : Bool) (remotePwd : Option String) : Nat :=
  padTo4 (4 + (asBytes username).length) + padTo4 (4 + 4) + padTo4 (4 + 8) +
    (if remotePwd.isSome then padTo4 (4 + 20) else 0) + padTo4 (4 + 4) +
    (if useCandidate then padTo4 (4 + 0) else 0)

/-- The round trip of the three builders.  A request gives back its arguments
and nothing else; a reply to any datagram of header length carries the id of
that datagram; an error code below 800 is read back exactly.  The HMAC and the
CRC may return any values of their widths. -/
theorem stun_messages_read_back (crypto : Crypto) :
    (forall (username : String) (priority : UInt32) (controlling : Bool) (tieBreaker : UInt64)
        (useCandidate : Bool) (remotePwd : Option String) (transactionId : TransactionId),
      requestAttrsLen username useCandidate remotePwd < 65536 ->
        parseIceStunMessage (buildIceBindingRequest crypto username priority controlling tieBreaker
            useCandidate remotePwd transactionId).data = .ok
          { isStun := true, isRequest := true, transactionId := transactionId.bytes,
            username := username, priority := priority, controlling := some controlling,
            useCandidate := useCandidate, errorCode := 0, mappedIp := "", mappedPort := 0 }) ∧
    (forall requestData response : Bytes, STUN_HEADER_LEN ≤ requestData.length ->
      buildIceBindingResponse requestData = some response ->
        parseIceStunMessage response = .ok
          { isStun := true, isResponse := true,
            transactionId := (requestData.drop 8).take 12 }) ∧
    (forall (requestData : Bytes) (errorCode : UInt16) (reason : String),
      STUN_HEADER_LEN ≤ requestData.length -> errorCode < 800 -> errorAttrsLen reason < 65536 ->
        exists response,
          buildIceErrorResponse crypto requestData errorCode reason = some response ∧
          parseIceStunMessage response = .ok
            { isStun := true, isErrorResponse := true,
              transactionId := (requestData.drop 8).take 12, errorCode := errorCode }) := by
  refine ⟨?_, ?_, ?_⟩
  · intro username priority controlling tieBreaker useCandidate remotePwd transactionId fits
    have grows := padTo4_ge (4 + (asBytes username).length)
    have usernameFits : (asBytes username).length < 65536 := by
      rw [requestAttrsLen] at fits
      omega
    let fields : RequestFields :=
      ⟨username, priority, controlling, tieBreaker, useCandidate, remotePwd, transactionId,
        usernameFits⟩
    have attrsFit : fields.attrsLen crypto < 65536 := by
      rw [← fields.attrsLen_eq crypto]
      exact fits
    exact fields.parse_build crypto attrsFit
  · intro requestData response long accepted
    rw [respond_accepted long accepted, parse_response]
    rfl
  · intro requestData errorCode reason long small fits
    exact parse_errorResponse crypto long errorCode small reason fits

/-- A nominating request with a password, and the two replies to it. -/
theorem stun_messages_read_back_nominating :
    parseIceStunMessage (buildIceBindingRequest zeroCrypto "b:a" 7 true 9 true (some "secret")
        (countingIds 5)).data = .ok
      { isStun := true, isRequest := true, transactionId := (countingIds 5).bytes,
        username := "b:a", priority := 7, controlling := some true, useCandidate := true } ∧
    (exists response, parseIceStunMessage response = .ok
      { isStun := true, isResponse := true, transactionId := (countingIds 5).bytes }) ∧
    exists response, parseIceStunMessage response = .ok
      { isStun := true, isErrorResponse := true, transactionId := (countingIds 5).bytes,
        errorCode := 487 } := by
  obtain ⟨requests, responses, errors⟩ := stun_messages_read_back zeroCrypto
  refine ⟨requests "b:a" 7 true 9 true (some "secret") (countingIds 5) (by decide), ?_, ?_⟩
  · exact ⟨_, responses (stunHeader STUN_BINDING_REQUEST 0 (countingIds 5).bytes) _ (by decide) rfl⟩
  · obtain ⟨response, _, parsed⟩ := errors (stunHeader STUN_BINDING_REQUEST 0 (countingIds 5).bytes)
      487 "Role Conflict" (by decide) (by decide) (by decide)
    exact ⟨response, parsed⟩

end P2pSdk
