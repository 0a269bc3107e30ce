import P2pSdk.Ice.StunWire

namespace P2pSdk

open Foundation

/-!
# Built messages are read back

The request builder produces a well-formed message whose attributes are
listed by `requestAttributes`, and the response builder a bare header.  With
the fold of `StunWire` this gives the parse of every message an agent sends.
The HMAC and the CRC enter only as opaque attribute values.
-/

/-! ## Single attributes -/

namespace WireAttribute

variable (attr : WireAttribute) (result : ParsedStunMessage)

theorem read_username (isType : attr.attrType = ATTR_USERNAME) (nonempty : 0 < attr.value.length) :
    attr.read result = .ok { result with username := fromUtf8Lossy attr.value } := by
  have inside := attr.value_inside
  have value := attr.slice_value
  rw [read, parseAttribute, if_pos ⟨isType, nonempty⟩, if_pos (by omega)]
  simp only [Nat.zero_add, value, Checked.ok_bind, Checked.pure_eq_ok]

/-- An empty USERNAME is skipped by the parser. -/
theorem read_username_empty (isType : attr.attrType = ATTR_USERNAME)
    (empty : attr.value.length = 0) : attr.read result = .ok result := by
  rw [read, parseAttribute, isType, empty]
  simp [ATTR_USERNAME, ATTR_PRIORITY, ATTR_USE_CANDIDATE, ATTR_ICE_CONTROLLING,
    ATTR_ICE_CONTROLLED, ATTR_XOR_MAPPED_ADDRESS, ATTR_ERROR_CODE]

theorem read_priority (isType : attr.attrType = ATTR_PRIORITY) {priority : UInt32}
    (isValue : attr.value = u32Bytes priority) :
    attr.read result = .ok { result with priority := priority } := by
  have length : attr.value.length = 4 := by rw [isValue, u32Bytes_length]
  have slice := attr.slice_value
  rw [length, isValue] at slice
  rw [read, parseAttribute, if_neg (fun both => absurd (isType.symm.trans both.1) (by decide)),
    if_pos ⟨isType, by omega⟩]
  simp only [Nat.zero_add, readU32, slice, Checked.ok_bind, Checked.pure_eq_ok,
    ofNat_beNat_u32Bytes]

theorem read_useCandidate (isType : attr.attrType = ATTR_USE_CANDIDATE) :
    attr.read result = .ok { result with useCandidate := true } := by
  rw [read, parseAttribute, isType]
  simp [ATTR_USE_CANDIDATE, ATTR_USERNAME, ATTR_PRIORITY]

theorem read_role {controlling : Bool}
    (isType : attr.attrType = if controlling then ATTR_ICE_CONTROLLING else ATTR_ICE_CONTROLLED)
    (long : 8 ≤ attr.value.length) :
    attr.read result = .ok { result with controlling := some controlling } := by
  cases controlling with
  | true =>
      rw [read, parseAttribute, isType]
      simp [ATTR_ICE_CONTROLLING, ATTR_USE_CANDIDATE, ATTR_USERNAME, ATTR_PRIORITY, long]
  | false =>
      rw [read, parseAttribute, isType]
      simp [ATTR_ICE_CONTROLLED, ATTR_ICE_CONTROLLING, ATTR_USE_CANDIDATE, ATTR_USERNAME,
        ATTR_PRIORITY, long]

/-- The two attributes that protect a request are skipped by the parser. -/
theorem read_protection
    (isType : attr.attrType = ATTR_MESSAGE_INTEGRITY ∨ attr.attrType = ATTR_FINGERPRINT) :
    attr.read result = .ok result := by
  rcases isType with isType | isType <;>
    rw [read, parseAttribute, isType] <;>
    simp [ATTR_MESSAGE_INTEGRITY, ATTR_FINGERPRINT, ATTR_USERNAME, ATTR_PRIORITY,
      ATTR_USE_CANDIDATE, ATTR_ICE_CONTROLLING, ATTR_ICE_CONTROLLED, ATTR_XOR_MAPPED_ADDRESS,
      ATTR_ERROR_CODE]

end WireAttribute

/-! ## The buffer of the builders -/

theorem writeHeader_zeros (msgType : UInt16) (attrsLen : Nat) (transactionId : TransactionId)
    (room : Nat) :
    writeHeader (zeros (STUN_HEADER_LEN + room)) msgType attrsLen transactionId.bytes =
      stunHeader msgType attrsLen transactionId.bytes ++ zeros room := by
  have typeWritten := writeAt_zeros [] (u16Bytes msgType) (STUN_HEADER_LEN + room)
    (18 + room) 0 rfl (by rw [u16Bytes_length, STUN_HEADER_LEN]; omega)
  have lengthWritten := writeAt_zeros (u16Bytes msgType) (u16Bytes (UInt16.ofNat attrsLen))
    (18 + room) (16 + room) 2 rfl (by rw [u16Bytes_length]; omega)
  have cookieWritten := writeAt_zeros (u16Bytes msgType ++ u16Bytes (UInt16.ofNat attrsLen))
    (u32Bytes STUN_MAGIC_COOKIE) (16 + room) (12 + room) 4 rfl
    (by rw [u32Bytes_length]; omega)
  have idWritten := writeAt_zeros (u16Bytes msgType ++ (u16Bytes (UInt16.ofNat attrsLen) ++
    u32Bytes STUN_MAGIC_COOKIE)) transactionId.bytes (12 + room) room
    8 rfl (by rw [transactionId.length_eq])
  simp only [List.nil_append, List.append_assoc] at typeWritten cookieWritten idWritten
  simp only [writeHeader, writeU16, writeU32, typeWritten, lengthWritten, cookieWritten, idWritten,
    stunHeader, List.append_assoc]

theorem writeAttributeHeader_zeros (done : Bytes) (attrType : UInt16) (len : Nat)
    (size room offset : Nat) (atEnd : offset = done.length) (sized : size = 4 + room) :
    writeAttributeHeader (done ++ zeros size) offset attrType len =
      done ++ (u16Bytes attrType ++ (u16Bytes (UInt16.ofNat len) ++ zeros room)) := by
  have typeWritten := writeAt_zeros done (u16Bytes attrType) size (2 + room)
    offset atEnd (by rw [u16Bytes_length]; omega)
  have lenWritten := writeAt_zeros (done ++ u16Bytes attrType) (u16Bytes (UInt16.ofNat len))
    (2 + room) room (offset + 2)
    (by rw [List.length_append, u16Bytes_length, atEnd]) (by rw [u16Bytes_length])
  simp only [List.append_assoc] at lenWritten
  simp only [writeAttributeHeader, writeU16, typeWritten, lenWritten]

/-- An attribute written at the end of the finished part of a zeroed buffer:
the zeros left after its value are its padding. -/
theorem writeAttribute_zeros (done : Bytes) (attrType : UInt16) (value : Bytes)
    (fits : value.length < 65536) (size room offset : Nat) (atEnd : offset = done.length)
    (sized : size = padTo4 (4 + value.length) + room) :
    writeAttribute (done ++ zeros size) offset attrType value =
      (done ++ (WireAttribute.zeroPadded attrType value fits).bytes) ++ zeros room := by
  have grows := padTo4_ge value.length
  rw [padTo4_add_four] at sized
  have headerWritten := writeAttributeHeader_zeros done attrType value.length size
    (padTo4 value.length + room) offset atEnd (by omega)
  have valueWritten := writeAt_zeros
    (done ++ (u16Bytes attrType ++ u16Bytes (UInt16.ofNat value.length))) value
    (padTo4 value.length + room)
    ((padTo4 value.length - value.length) + room) (offset + 4)
    (by simp only [List.length_append, u16Bytes_length, atEnd]) (by omega)
  simp only [List.append_assoc] at valueWritten
  rw [writeAttribute, headerWritten, valueWritten]
  simp only [WireAttribute.bytes, WireAttribute.zeroPadded, zeros_add, List.append_assoc]

/-- FINGERPRINT written over the last eight zeros of a finished message. -/
theorem writeFingerprint_zeros (crypto : Crypto) (done : Bytes) :
    writeFingerprint crypto (done ++ zeros 8) done.length =
      done ++ WireAttribute.bytes (.zeroPadded ATTR_FINGERPRINT
        (u32Bytes (crypto.stunFingerprint (done ++ (u16Bytes ATTR_FINGERPRINT ++
          (u16Bytes 4 ++ zeros 4))))) (by rw [u32Bytes_length]; decide)) := by
  have headerWritten := writeAttributeHeader_zeros done ATTR_FINGERPRINT 4 8 4
    done.length rfl rfl
  have valueWritten := fun fp => writeAt_zeros (done ++ (u16Bytes ATTR_FINGERPRINT ++ u16Bytes 4))
    (u32Bytes fp) 4 0 (done.length + 4)
    (by rw [List.length_append]; rfl) (by rw [u32Bytes_length])
  have padEq : zeros (padTo4 4 - 4) = [] := rfl
  have fourEq : UInt16.ofNat 4 = 4 := rfl
  have noneLeft : zeros 0 = [] := rfl
  simp only [List.append_assoc, noneLeft, List.append_nil] at valueWritten
  simp only [writeFingerprint, writeU32, headerWritten, fourEq, valueWritten, WireAttribute.bytes,
    WireAttribute.zeroPadded, u32Bytes_length, padEq, List.append_nil]

/-- Rewriting the length field of a message touches nothing else. -/
theorem writeU16_lengthField (msgType : UInt16) (oldLen newLen : Nat) (transactionId rest : Bytes) :
    writeU16 (stunHeader msgType oldLen transactionId ++ rest) 2 (UInt16.ofNat newLen) =
      stunHeader msgType newLen transactionId ++ rest := by
  have written := writeAt_middle (u16Bytes msgType) (u16Bytes (UInt16.ofNat oldLen))
    (u32Bytes STUN_MAGIC_COOKIE ++ transactionId ++ rest) (u16Bytes (UInt16.ofNat newLen))
    (by rw [u16Bytes_length, u16Bytes_length])
  rw [u16Bytes_length] at written
  simpa only [writeU16, stunHeader, List.append_assoc] using written

/-- Any message with a Binding Request header is answered with its id. -/
theorem respond_request (attrsLen : Nat) (transactionId : TransactionId) (rest : Bytes) :
    buildIceBindingResponse (stunHeader STUN_BINDING_REQUEST attrsLen transactionId.bytes ++ rest) =
      some (stunHeader STUN_BINDING_SUCCESS 0 transactionId.bytes) := by
  have headerLen := stunHeader_length STUN_BINDING_REQUEST attrsLen transactionId
  have long : ¬ (stunHeader STUN_BINDING_REQUEST attrsLen transactionId.bytes ++ rest).length <
      STUN_HEADER_LEN := by
    rw [List.length_append, headerLen]
    omega
  have readId : ((stunHeader STUN_BINDING_REQUEST attrsLen transactionId.bytes ++ rest).drop 8).take
      12 = transactionId.bytes := by
    have dropped : (stunHeader STUN_BINDING_REQUEST attrsLen transactionId.bytes ++ rest).drop 8 =
        transactionId.bytes ++ rest := rfl
    rw [dropped, ← transactionId.length_eq, List.take_left]
  have written := writeHeader_zeros STUN_BINDING_SUCCESS 0 transactionId 0
  rw [buildIceBindingResponse, if_neg long, if_neg (by simp [stunHeader]; decide),
    if_neg (by simp [stunHeader]; decide), readId]
  simpa [zeros] using written

/-! ## The request builder -/

/-- The arguments of a request whose username fits a length field. -/
structure RequestFields where
  username : String
  priority : UInt32
  controlling : Bool
  tieBreaker : UInt64
  useCandidate : Bool
  remotePwd : Option String
  transactionId : TransactionId
  username_fits : (asBytes username).length < 65536

namespace RequestFields

theorem tieBreakerBytes_length (tieBreaker : UInt64) : (tieBreakerBytes tieBreaker).length = 8 := by
  rw [tieBreakerBytes, List.length_append, u32Bytes_length, u32Bytes_length]

/-- USERNAME, PRIORITY, the role and USE-CANDIDATE, in the builder's order. -/
def plainAttributes (fields : RequestFields) : List WireAttribute :=
  [.zeroPadded ATTR_USERNAME (asBytes fields.username) fields.username_fits,
    .zeroPadded ATTR_PRIORITY (u32Bytes fields.priority) (by rw [u32Bytes_length]; decide),
    .zeroPadded (if fields.controlling then ATTR_ICE_CONTROLLING else ATTR_ICE_CONTROLLED)
      (tieBreakerBytes fields.tieBreaker) (by rw [tieBreakerBytes_length]; decide)] ++
  if fields.useCandidate then [.zeroPadded ATTR_USE_CANDIDATE [] (by decide)] else []

/-- The header in front of `attrsLen` bytes of attributes. -/
def header (fields : RequestFields) (attrsLen : Nat) : Bytes :=
  stunHeader STUN_BINDING_REQUEST attrsLen fields.transactionId.bytes

/-- The HMAC of the attributes before MESSAGE-INTEGRITY, under a header whose
length ends with MESSAGE-INTEGRITY itself. -/
def integrityValue (crypto : Crypto) (fields : RequestFields) (pwd : String) : Bytes :=
  crypto.hmacSha1 (asBytes pwd)
    (fields.header ((serialize fields.plainAttributes).length + 24) ++
      serialize fields.plainAttributes)

theorem integrityValue_length (crypto : Crypto) (fields : RequestFields) (pwd : String) :
    (fields.integrityValue crypto pwd).length = 20 :=
  crypto.hmacSha1_length _ _

/-- MESSAGE-INTEGRITY, when a password is known. -/
def integrity (crypto : Crypto) (fields : RequestFields) : List WireAttribute :=
  match fields.remotePwd with
  | none => []
  | some pwd =>
      [.zeroPadded ATTR_MESSAGE_INTEGRITY (fields.integrityValue crypto pwd)
        (by rw [integrityValue_length]; decide)]

/-- The attributes in front of FINGERPRINT. -/
def protectedAttributes (crypto : Crypto) (fields : RequestFields) : List WireAttribute :=
  fields.plainAttributes ++ fields.integrity crypto

/-- The size of all attributes, FINGERPRINT included. -/
def attrsLen (crypto : Crypto) (fields : RequestFields) : Nat :=
  (serialize (fields.protectedAttributes crypto)).length + 8

/-- FINGERPRINT: computed over the message with its own value zero. -/
def fingerprint (crypto : Crypto) (fields : RequestFields) : WireAttribute :=
  .zeroPadded ATTR_FINGERPRINT
    (u32Bytes (crypto.stunFingerprint ((fields.header (fields.attrsLen crypto) ++
      serialize (fields.protectedAttributes crypto)) ++
        (u16Bytes ATTR_FINGERPRINT ++ (u16Bytes 4 ++ zeros 4)))))
    (by rw [u32Bytes_length]; decide)

/-- All attributes of the built request. -/
def attributes (crypto : Crypto) (fields : RequestFields) : List WireAttribute :=
  fields.protectedAttributes crypto ++ [fields.fingerprint crypto]

/-- The request as the builder returns it. -/
def build (crypto : Crypto) (fields : RequestFields) : IceBindingRequestResult :=
  buildIceBindingRequest crypto fields.username fields.priority fields.controlling
    fields.tieBreaker fields.useCandidate fields.remotePwd fields.transactionId

variable (crypto : Crypto) (fields : RequestFields)

theorem attributes_length :
    (serialize (fields.attributes crypto)).length = fields.attrsLen crypto := by
  rw [attributes, serialize_append, List.length_append, attrsLen, serialize_cons, serialize_nil,
    List.append_nil, WireAttribute.bytes_length, fingerprint, WireAttribute.zeroPadded,
    u32Bytes_length]
  rfl

theorem plainAttributes_length :
    (serialize fields.plainAttributes).length =
      padTo4 (4 + (asBytes fields.username).length) + 8 + 12 +
        (if fields.useCandidate then 4 else 0) := by
  have role := tieBreakerBytes_length fields.tieBreaker
  cases chosen : fields.useCandidate <;>
    simp [plainAttributes, chosen, WireAttribute.bytes_length, WireAttribute.zeroPadded, role,
      padTo4] <;>
    omega

theorem integrity_length :
    (serialize (fields.integrity crypto)).length = if fields.remotePwd.isSome then 24 else 0 := by
  cases known : fields.remotePwd with
  | none => simp [integrity, known]
  | some pwd =>
      simp [integrity, known, WireAttribute.bytes_length, WireAttribute.zeroPadded,
        integrityValue_length, padTo4]

/-- The precomputed size agrees with what is written. -/
theorem attrsLen_eq :
    padTo4 (4 + (asBytes fields.username).length) + 8 + 12 +
        (if fields.remotePwd.isSome then 24 else 0) + 8 +
        (if fields.useCandidate then 4 else 0) = fields.attrsLen crypto := by
  rw [attrsLen, protectedAttributes, serialize_append, List.length_append,
    plainAttributes_length, integrity_length]
  omega

theorem header_length (attrsLen : Nat) : (fields.header attrsLen).length = STUN_HEADER_LEN :=
  stunHeader_length _ _ _

/-- The buffer after USERNAME, PRIORITY, the role and USE-CANDIDATE. -/
theorem write_plainAttributes (attrsLen room : Nat)
    (sized : attrsLen = (serialize fields.plainAttributes).length + room) :
    (let usernameAttrLen := padTo4 (4 + (asBytes fields.username).length)
     let buf := writeHeader (zeros (STUN_HEADER_LEN + attrsLen)) STUN_BINDING_REQUEST attrsLen
       fields.transactionId.bytes
     let buf := writeAttribute buf STUN_HEADER_LEN ATTR_USERNAME (asBytes fields.username)
     let buf := writeAttribute buf (STUN_HEADER_LEN + usernameAttrLen) ATTR_PRIORITY
       (u32Bytes fields.priority)
     let buf := writeAttribute buf (STUN_HEADER_LEN + usernameAttrLen + 8)
       (if fields.controlling then ATTR_ICE_CONTROLLING else ATTR_ICE_CONTROLLED)
       (tieBreakerBytes fields.tieBreaker)
     if fields.useCandidate then
       writeAttribute buf (STUN_HEADER_LEN + usernameAttrLen + 8 + 12) ATTR_USE_CANDIDATE []
     else buf) =
      (fields.header attrsLen ++ serialize fields.plainAttributes) ++ zeros room := by
  dsimp only
  rw [plainAttributes_length] at sized
  have headerLen := fields.header_length attrsLen
  have roleLen := tieBreakerBytes_length fields.tieBreaker
  have usernameLen := padTo4_add_four (asBytes fields.username).length
  have header := writeHeader_zeros STUN_BINDING_REQUEST attrsLen fields.transactionId attrsLen
  have username := writeAttribute_zeros (fields.header attrsLen) ATTR_USERNAME
    (asBytes fields.username) fields.username_fits attrsLen
    (20 + (if fields.useCandidate then 4 else 0) + room) STUN_HEADER_LEN headerLen.symm (by omega)
  have priority := writeAttribute_zeros
    (fields.header attrsLen ++ WireAttribute.bytes
      (.zeroPadded ATTR_USERNAME (asBytes fields.username) fields.username_fits))
    ATTR_PRIORITY (u32Bytes fields.priority) (by rw [u32Bytes_length]; decide)
    (20 + (if fields.useCandidate then 4 else 0) + room)
    (12 + (if fields.useCandidate then 4 else 0) + room)
    (STUN_HEADER_LEN + padTo4 (4 + (asBytes fields.username).length))
    (by rw [List.length_append, headerLen, WireAttribute.bytes_length, usernameLen]; rfl)
    (by rw [u32Bytes_length]; simp only [padTo4]; omega)
  have role := writeAttribute_zeros
    ((fields.header attrsLen ++ WireAttribute.bytes
      (.zeroPadded ATTR_USERNAME (asBytes fields.username) fields.username_fits)) ++
      WireAttribute.bytes (.zeroPadded ATTR_PRIORITY (u32Bytes fields.priority)
        (by rw [u32Bytes_length]; decide)))
    (if fields.controlling then ATTR_ICE_CONTROLLING else ATTR_ICE_CONTROLLED)
    (tieBreakerBytes fields.tieBreaker) (by rw [roleLen]; decide)
    (12 + (if fields.useCandidate then 4 else 0) + room)
    ((if fields.useCandidate then 4 else 0) + room)
    (STUN_HEADER_LEN + padTo4 (4 + (asBytes fields.username).length) + 8)
    (by
      rw [List.length_append, List.length_append, headerLen, WireAttribute.bytes_length,
        WireAttribute.bytes_length, usernameLen]
      simp only [WireAttribute.zeroPadded, u32Bytes_length]
      rfl)
    (by rw [roleLen]; simp only [padTo4]; omega)
  rw [header, ← RequestFields.header, username, priority, role]
  cases chosen : fields.useCandidate with
  | false =>
      simp only [plainAttributes, chosen, serialize_cons, serialize_nil, List.append_nil,
        List.append_assoc, Bool.false_eq_true, if_false, Nat.zero_add]
  | true =>
      have useCandidate := writeAttribute_zeros
        (fields.header attrsLen ++ serialize (fields.plainAttributes.take 3))
        ATTR_USE_CANDIDATE [] (by decide) (4 + room) room
        (STUN_HEADER_LEN + padTo4 (4 + (asBytes fields.username).length) + 8 + 12)
        (by
          simp [plainAttributes, headerLen, WireAttribute.bytes_length, WireAttribute.zeroPadded,
            roleLen, padTo4]
          omega)
        rfl
      simp only [plainAttributes, chosen, if_true, serialize_cons, serialize_nil, List.append_nil,
        List.append_assoc, List.take, List.cons_append, List.nil_append] at useCandidate ⊢
      exact useCandidate

/-- The buffer after MESSAGE-INTEGRITY, the header length back in place.  The
HMAC is taken over a prefix whose length field is the adjusted one. -/
theorem write_integrity (attrsLen room : Nat) :
    writeMessageIntegrity crypto
        ((fields.header attrsLen ++ serialize fields.plainAttributes) ++
          zeros ((if fields.remotePwd.isSome then 24 else 0) + room))
        (STUN_HEADER_LEN + (serialize fields.plainAttributes).length)
        (if fields.remotePwd.isSome then 24 else 0) attrsLen fields.remotePwd =
      (fields.header attrsLen ++ serialize (fields.protectedAttributes crypto)) ++ zeros room := by
  cases known : fields.remotePwd with
  | none => simp [writeMessageIntegrity, protectedAttributes, integrity, known]
  | some pwd =>
  simp only [Option.isSome_some, if_true]
  have hmacLen := fields.integrityValue_length crypto pwd
  have hmacEq : fields.integrityValue crypto pwd = crypto.hmacSha1 (asBytes pwd)
      (fields.header ((serialize fields.plainAttributes).length + 24) ++
        serialize fields.plainAttributes) := rfl
  have padEq : zeros (padTo4 20 - 20) = [] := rfl
  have result : fields.integrity crypto = [.zeroPadded ATTR_MESSAGE_INTEGRITY
      (fields.integrityValue crypto pwd) (by rw [integrityValue_length]; decide)] := by
    simp only [integrity, known]
  rw [protectedAttributes, serialize_append, result]
  simp only [serialize_cons, serialize_nil, WireAttribute.bytes, WireAttribute.zeroPadded, hmacLen,
    padEq, List.append_nil]
  generalize serialize fields.plainAttributes = plain at hmacEq ⊢
  have miStart : forall len, STUN_HEADER_LEN + plain.length = (fields.header len ++ plain).length := by
    intro len
    rw [List.length_append, header_length]
  have adjusted : STUN_HEADER_LEN + plain.length - STUN_HEADER_LEN + 24 = plain.length + 24 := by
    omega
  have headerWritten := writeAttributeHeader_zeros (fields.header attrsLen ++ plain)
    ATTR_MESSAGE_INTEGRITY 20 (24 + room) (20 + room)
    (STUN_HEADER_LEN + plain.length) (miStart attrsLen) (by omega)
  have lengthWritten := fun old new rest => writeU16_lengthField STUN_BINDING_REQUEST old new
    fields.transactionId.bytes rest
  have covered : forall rest, ((fields.header (plain.length + 24) ++ plain) ++ rest).take
      (STUN_HEADER_LEN + plain.length) = fields.header (plain.length + 24) ++ plain := by
    intro rest
    rw [miStart (plain.length + 24), List.take_left]
  have valueWritten := writeAt_zeros ((fields.header (plain.length + 24) ++ plain) ++
      (u16Bytes ATTR_MESSAGE_INTEGRITY ++ u16Bytes (UInt16.ofNat 20)))
    (fields.integrityValue crypto pwd) (20 + room) room
    (STUN_HEADER_LEN + plain.length + 4)
    (by rw [List.length_append, ← miStart]; rfl) (by rw [hmacLen])
  simp only [header, List.append_assoc] at headerWritten lengthWritten covered valueWritten hmacEq
  simp only [writeMessageIntegrity, header, List.append_assoc]
  rw [headerWritten, adjusted, lengthWritten, covered, ← hmacEq, valueWritten, lengthWritten]

/-- The finished buffer is the header followed by the attributes. -/
theorem build_data :
    (fields.build crypto).data =
      fields.header (fields.attrsLen crypto) ++ serialize (fields.attributes crypto) := by
  have p4 : padTo4 4 = 4 := rfl
  have p8 : padTo4 8 = 8 := rfl
  have p12 : padTo4 12 = 12 := rfl
  have p24 : padTo4 24 = 24 := rfl
  have protectedLen := fields.attrsLen_eq crypto
  have plainLen := fields.plainAttributes_length
  have plainWritten := fields.write_plainAttributes (fields.attrsLen crypto)
    ((if fields.remotePwd.isSome then 24 else 0) + 8) (by omega)
  have plainEnd : (if fields.useCandidate then
        STUN_HEADER_LEN + padTo4 (4 + (asBytes fields.username).length) + 8 + 12 + 4
      else STUN_HEADER_LEN + padTo4 (4 + (asBytes fields.username).length) + 8 + 12) =
      STUN_HEADER_LEN + (serialize fields.plainAttributes).length := by
    rw [plainLen]
    split_ifs <;> omega
  dsimp only at plainWritten
  simp only [build, buildIceBindingRequest, Nat.reduceAdd, p4, p8, p12, p24, attrsLen_eq crypto fields,
    plainWritten, plainEnd, write_integrity]
  have fingerprintAt : (STUN_HEADER_LEN + (serialize fields.plainAttributes).length) +
      (if fields.remotePwd.isSome then 24 else 0) =
      (fields.header (fields.attrsLen crypto) ++
        serialize (fields.protectedAttributes crypto)).length := by
    rw [List.length_append, header_length, protectedAttributes, serialize_append,
      List.length_append, integrity_length]
    omega
  rw [fingerprintAt, attributes, serialize_append, serialize_cons, serialize_nil, List.append_nil,
    ← List.append_assoc]
  exact writeFingerprint_zeros crypto _

/-- The protecting attributes are folded over without effect. -/
theorem fold_protection (result : ParsedStunMessage) :
    (fields.integrity crypto ++ [fields.fingerprint crypto]).foldlM
      (fun result attr => attr.read result) result = Except.ok result := by
  have last : (fields.fingerprint crypto).read result = .ok result :=
    WireAttribute.read_protection (fields.fingerprint crypto) result (Or.inr rfl)
  cases known : fields.remotePwd with
  | none => simp [integrity, known, last]
  | some pwd =>
      have first := WireAttribute.read_protection
        (.zeroPadded ATTR_MESSAGE_INTEGRITY (fields.integrityValue crypto pwd)
          (by rw [integrityValue_length]; decide)) result (Or.inl rfl)
      simp [integrity, known, first, last]

/-- The USERNAME attribute of a request sets the username, an empty one
included: it leaves the default, which is empty. -/
theorem read_username (result : ParsedStunMessage) (unset : result.username = "") :
    (WireAttribute.zeroPadded ATTR_USERNAME (asBytes fields.username) fields.username_fits).read
      result = .ok { result with username := fields.username } := by
  by_cases empty : (asBytes fields.username).length = 0
  · rw [WireAttribute.read_username_empty _ _ rfl empty]
    have isEmpty : fields.username = "" := by
      rw [← fromUtf8Lossy_asBytes fields.username, List.length_eq_zero_iff.mp empty]
      rfl
    rw [isEmpty, ← unset]
  · rw [WireAttribute.read_username _ _ rfl (Nat.pos_of_ne_zero empty)]
    simp [WireAttribute.zeroPadded]

/-- The parse of a built request: exactly the arguments it was built from. -/
theorem parse_build (fits : fields.attrsLen crypto < 65536) :
    parseIceStunMessage (fields.build crypto).data = .ok
      { isStun := true, isRequest := true, transactionId := fields.transactionId.bytes,
        username := fields.username, priority := fields.priority,
        controlling := some fields.controlling, useCandidate := fields.useCandidate } := by
  have parsed := parseIceStunMessage_serialize STUN_BINDING_REQUEST (Or.inl rfl)
    fields.transactionId (fields.attributes crypto) [] (by rwa [attributes_length])
  rw [attributes_length, List.append_nil] at parsed
  rw [build_data, header, parsed, attributes, protectedAttributes, List.append_assoc,
    List.foldlM_append, plainAttributes]
  have username := fields.read_username (headerResult STUN_BINDING_REQUEST fields.transactionId) rfl
  have priority := fun result => WireAttribute.read_priority
    (.zeroPadded ATTR_PRIORITY (u32Bytes fields.priority) (by rw [u32Bytes_length]; decide))
    result rfl rfl
  have role := fun result => WireAttribute.read_role
    (.zeroPadded (if fields.controlling then ATTR_ICE_CONTROLLING else ATTR_ICE_CONTROLLED)
      (tieBreakerBytes fields.tieBreaker) (by rw [tieBreakerBytes_length]; decide))
    result rfl (tieBreakerBytes_length fields.tieBreaker).ge
  have useCandidate := fun result => WireAttribute.read_useCandidate
    (.zeroPadded ATTR_USE_CANDIDATE [] (by decide)) result rfl
  cases chosen : fields.useCandidate with
  | false =>
      simp only [Bool.false_eq_true, if_false, List.append_nil, List.foldlM_cons, List.foldlM_nil,
        username, priority, role, Checked.ok_bind, Checked.pure_eq_ok, fold_protection]
      simp [headerResult, STUN_BINDING_REQUEST, STUN_BINDING_SUCCESS,
        STUN_BINDING_ERROR]
  | true =>
      simp only [if_true, List.cons_append, List.nil_append, List.foldlM_cons, List.foldlM_nil,
        username, priority, role, useCandidate, Checked.ok_bind, Checked.pure_eq_ok,
        fold_protection]
      simp [headerResult, STUN_BINDING_REQUEST, STUN_BINDING_SUCCESS,
        STUN_BINDING_ERROR]

/-- The response to a built request is the bare success header with its id. -/
theorem respond_build :
    buildIceBindingResponse (fields.build crypto).data =
      some (stunHeader STUN_BINDING_SUCCESS 0 fields.transactionId.bytes) := by
  rw [build_data, header, respond_request]

end RequestFields

/-! ## The response builder -/

/-- A bare success header parses as a success response with its id. -/
theorem parse_response (transactionId : TransactionId) :
    parseIceStunMessage (stunHeader STUN_BINDING_SUCCESS 0 transactionId.bytes) = .ok
      { isStun := true, isResponse := true, transactionId := transactionId.bytes } := by
  have parsed := parseIceStunMessage_serialize STUN_BINDING_SUCCESS
    (Or.inr (Or.inl rfl)) transactionId [] [] (by decide)
  simpa [headerResult, STUN_BINDING_REQUEST, STUN_BINDING_SUCCESS, STUN_BINDING_ERROR] using parsed

end P2pSdk
