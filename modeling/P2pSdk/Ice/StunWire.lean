import P2pSdk.Ice.StunCodec

namespace P2pSdk

open Foundation

/-!
# The wire format that the builders and the parser share

A STUN message is a header and a sequence of attributes, each padded to a
multiple of four.  A `WireAttribute` carries the two facts that make it
readable: its value fits the 16-bit length field, and its padding has the
right size.  The contents of the padding are free.

The parser is described here once, on this format: on every well-formed
message it is the left fold of `WireAttribute.read` over the attributes,
whatever follows the message.  The request builder is shown to produce such a
message, so that the round trip is a computation on a short list.
-/

/-- One attribute as it stands on the wire. -/
structure WireAttribute where
  attrType : UInt16
  value : Bytes
  padding : Bytes
  fits : value.length < 65536
  padded : value.length + padding.length = padTo4 value.length

namespace WireAttribute

def bytes (attr : WireAttribute) : Bytes :=
  u16Bytes attr.attrType ++ (u16Bytes (UInt16.ofNat attr.value.length) ++
    (attr.value ++ attr.padding))

/-- The attribute as the builders write it. -/
def zeroPadded (attrType : UInt16) (value : Bytes) (fits : value.length < 65536) :
    WireAttribute where
  attrType := attrType
  value := value
  padding := zeros (padTo4 value.length - value.length)
  fits := fits
  padded := by
    have grows := padTo4_ge value.length
    rw [zeros_length]
    omega

theorem bytes_length (attr : WireAttribute) :
    attr.bytes.length = 4 + padTo4 attr.value.length := by
  have padded := attr.padded
  simp only [bytes, List.length_append, u16Bytes_length]
  omega

/-- What an attribute on its own sets in the parse result. -/
def read (attr : WireAttribute) (result : ParsedStunMessage) : Checked ParsedStunMessage :=
  parseAttribute attr.bytes 0 attr.attrType attr.value.length result

theorem value_inside (attr : WireAttribute) :
    4 + attr.value.length ≤ attr.bytes.length := by
  have grows := padTo4_ge attr.value.length
  rw [attr.bytes_length]
  omega

/-- The value of an attribute is what a read at offset 4 returns. -/
theorem slice_value (attr : WireAttribute) :
    sliceAt attr.bytes 4 attr.value.length = .ok attr.value := by
  have split : attr.bytes =
      (u16Bytes attr.attrType ++ u16Bytes (UInt16.ofNat attr.value.length)) ++
        (attr.value ++ attr.padding) := by
    simp only [bytes, List.append_assoc]
  have read := sliceAt_append
    (u16Bytes attr.attrType ++ u16Bytes (UInt16.ofNat attr.value.length))
    attr.value attr.padding
  rw [List.length_append, u16Bytes_length, u16Bytes_length] at read
  rw [split]
  exact read

end WireAttribute

/-- The attributes of a message, one after another. -/
def serialize (attributes : List WireAttribute) : Bytes :=
  attributes.flatMap WireAttribute.bytes

@[simp] theorem serialize_nil : serialize [] = [] := rfl

@[simp] theorem serialize_cons (attr : WireAttribute) (rest : List WireAttribute) :
    serialize (attr :: rest) = attr.bytes ++ serialize rest := rfl

theorem serialize_append (first second : List WireAttribute) :
    serialize (first ++ second) = serialize first ++ serialize second :=
  List.flatMap_append

/-- The header of a message with `attrsLen` bytes of attributes. -/
def stunHeader (msgType : UInt16) (attrsLen : Nat) (transactionId : Bytes) : Bytes :=
  u16Bytes msgType ++ (u16Bytes (UInt16.ofNat attrsLen) ++
    (u32Bytes STUN_MAGIC_COOKIE ++ transactionId))

theorem stunHeader_length (msgType : UInt16) (attrsLen : Nat) (transactionId : TransactionId) :
    (stunHeader msgType attrsLen transactionId.bytes).length = STUN_HEADER_LEN := by
  simp only [stunHeader, List.length_append, u16Bytes_length, u32Bytes_length,
    transactionId.length_eq]
  rfl

/-! ## The parser on well-formed messages -/

theorem parseXorAddress_inside (before part after : Bytes) {start attrLen : Nat}
    (inside : start + attrLen ≤ part.length) (transactionId : Bytes) :
    parseXorAddress (before ++ (part ++ after)) (before.length + start) attrLen transactionId =
      parseXorAddress part start attrLen transactionId := by
  unfold parseXorAddress
  by_cases short : attrLen < 4
  · rw [if_pos short, if_pos short]
  · have whole : (before ++ (part ++ after)).length =
        before.length + (part.length + after.length) := by
      simp only [List.length_append]
    rw [if_neg short, if_neg short, if_neg (by omega), if_neg (by omega)]
    have family := byteAt_inside before part after (start + 1) (by omega)
    have port := sliceAt_inside before part after (start + 2) 2 (by omega)
    simp only [readU16, ← Nat.add_assoc] at family port ⊢
    rw [family, port]
    congr 1
    funext family
    congr 1
    funext port
    by_cases v4 : family = AF_INET
    · rw [if_pos v4, if_pos v4]
      by_cases shortV4 : attrLen < 8
      · rw [if_pos shortV4, if_pos shortV4]
      · have addr := sliceAt_inside before part after (start + 4) 4 (by omega)
        rw [← Nat.add_assoc] at addr
        rw [if_neg shortV4, if_neg shortV4, if_neg (by omega), if_neg (by omega), addr]
    · rw [if_neg v4, if_neg v4]
      by_cases v6 : family = AF_INET6
      · rw [if_pos v6, if_pos v6]
        by_cases shortV6 : attrLen < 20
        · rw [if_pos shortV6, if_pos shortV6]
        · have addr := sliceAt_inside before part after (start + 4) 16 (by omega)
          rw [← Nat.add_assoc] at addr
          rw [if_neg shortV6, if_neg shortV6, if_neg (by omega), if_neg (by omega), addr]
      · rw [if_neg v6, if_neg v6]

/-- The effect of an attribute does not depend on where it stands. -/
theorem parseAttribute_inside (before after : Bytes) (attr : WireAttribute)
    (result : ParsedStunMessage) :
    parseAttribute (before ++ (attr.bytes ++ after)) before.length attr.attrType
      attr.value.length result = attr.read result := by
  have inside := attr.value_inside
  have whole : (before ++ (attr.bytes ++ after)).length =
      before.length + (attr.bytes.length + after.length) := by
    simp only [List.length_append]
  unfold WireAttribute.read parseAttribute
  by_cases username : attr.attrType = ATTR_USERNAME ∧ 0 < attr.value.length
  · have value := sliceAt_inside before attr.bytes after 4 attr.value.length inside
    rw [if_pos username, if_pos username, if_pos (by omega), if_pos (by omega), value,
      Nat.zero_add]
  rw [if_neg username, if_neg username]
  by_cases priority : attr.attrType = ATTR_PRIORITY ∧ 4 ≤ attr.value.length
  · have value := sliceAt_inside before attr.bytes after 4 4 (by omega)
    rw [if_pos priority, if_pos priority]
    simp only [readU32, Nat.zero_add, value]
  rw [if_neg priority, if_neg priority]
  by_cases useCandidate : attr.attrType = ATTR_USE_CANDIDATE
  · rw [if_pos useCandidate, if_pos useCandidate]
  rw [if_neg useCandidate, if_neg useCandidate]
  by_cases controlling : attr.attrType = ATTR_ICE_CONTROLLING ∧ 8 ≤ attr.value.length
  · rw [if_pos controlling, if_pos controlling]
  rw [if_neg controlling, if_neg controlling]
  by_cases controlled : attr.attrType = ATTR_ICE_CONTROLLED ∧ 8 ≤ attr.value.length
  · rw [if_pos controlled, if_pos controlled]
  rw [if_neg controlled, if_neg controlled]
  by_cases mapped : attr.attrType = ATTR_XOR_MAPPED_ADDRESS
  · rw [if_pos mapped, if_pos mapped,
      parseXorAddress_inside before attr.bytes after inside, Nat.zero_add]
  rw [if_neg mapped, if_neg mapped]
  by_cases errorCode : attr.attrType = ATTR_ERROR_CODE ∧ 4 ≤ attr.value.length
  · have classByte := byteAt_inside before attr.bytes after 5 (by omega)
    have number := byteAt_inside before attr.bytes after 6 (by omega)
    rw [if_pos errorCode, if_pos errorCode, classByte, number, Nat.zero_add]
  rw [if_neg errorCode, if_neg errorCode]

theorem readU16_attrType (before after : Bytes) (attr : WireAttribute) :
    readU16 (before ++ (attr.bytes ++ after)) before.length = .ok attr.attrType := by
  have read := readU16_append before (u16Bytes (UInt16.ofNat attr.value.length) ++
    ((attr.value ++ attr.padding) ++ after)) attr.attrType before.length rfl
  simpa only [WireAttribute.bytes, List.append_assoc] using read

theorem readU16_attrLen (before after : Bytes) (attr : WireAttribute) :
    readU16 (before ++ (attr.bytes ++ after)) (before.length + 2) =
      .ok (UInt16.ofNat attr.value.length) := by
  have read := readU16_append (before ++ u16Bytes attr.attrType)
    ((attr.value ++ attr.padding) ++ after) (UInt16.ofNat attr.value.length)
    (before.length + 2) (by rw [List.length_append, u16Bytes_length])
  simpa only [WireAttribute.bytes, List.append_assoc] using read

theorem WireAttribute.attrLen_toNat (attr : WireAttribute) :
    (UInt16.ofNat attr.value.length).toNat = attr.value.length := by
  rw [UInt16.toNat_ofNat', Nat.mod_eq_of_lt attr.fits]

/-- The walk over a serialized list of attributes folds their effects and
stops at its end.  The induction is on the attributes; the bytes already
walked move into `before`. -/
theorem attributeLoop_serialize (attrs : List WireAttribute) (before after : Bytes) (fuel : Nat)
    (enough : attrs.length ≤ fuel) (result : ParsedStunMessage) :
    attributeLoop (before ++ (serialize attrs ++ after)) (before.length + (serialize attrs).length)
      fuel before.length result = attrs.foldlM (fun result attr => attr.read result) result := by
  induction attrs generalizing before fuel result with
  | nil =>
      cases fuel with
      | zero => rfl
      | succ fuel =>
          rw [attributeLoop, if_neg (by simp only [serialize_nil, List.length_nil]; omega)]
          rfl
  | cons attr rest ih =>
      cases fuel with
      | zero => simp at enough
      | succ fuel =>
          have size := attr.bytes_length
          have inside : before.length + 4 ≤ before.length + (serialize (attr :: rest)).length := by
            rw [serialize_cons, List.length_append, size]
            omega
          rw [attributeLoop, if_pos inside, serialize_cons, List.append_assoc,
            readU16_attrType, readU16_attrLen]
          simp only [Checked.ok_bind, attr.attrLen_toNat, parseAttribute_inside, List.foldlM_cons]
          congr 1
          funext next
          have later := ih (before ++ attr.bytes) fuel (by simpa using enough) next
          rw [List.length_append, size] at later
          rw [← later, List.length_append, size]
          simp only [List.append_assoc, Nat.add_assoc]

/-- What the header of a Binding message contributes to the parse result. -/
def headerResult (msgType : UInt16) (transactionId : TransactionId) : ParsedStunMessage where
  isStun := true
  isRequest := decide (msgType = STUN_BINDING_REQUEST)
  isResponse := decide (msgType = STUN_BINDING_SUCCESS)
  isErrorResponse := decide (msgType = STUN_BINDING_ERROR)
  transactionId := transactionId.bytes

/-- The message types whose attributes the parser reads. -/
def IsBinding (msgType : UInt16) : Prop :=
  msgType = STUN_BINDING_REQUEST ∨ msgType = STUN_BINDING_SUCCESS ∨ msgType = STUN_BINDING_ERROR

theorem serialize_length_ge (attrs : List WireAttribute) :
    attrs.length ≤ (serialize attrs).length := by
  induction attrs with
  | nil => exact Nat.le_refl 0
  | cons attr rest ih =>
      rw [serialize_cons, List.length_append, attr.bytes_length, List.length_cons]
      omega

theorem parseAttributes_serialize (msgType : UInt16) (transactionId : TransactionId)
    (attrs : List WireAttribute) (trailing : Bytes) (fits : (serialize attrs).length < 65536)
    (result : ParsedStunMessage) :
    parseAttributes (stunHeader msgType (serialize attrs).length transactionId.bytes ++
      (serialize attrs ++ trailing)) result =
      attrs.foldlM (fun result attr => attr.read result) result := by
  have headerLen := stunHeader_length msgType (serialize attrs).length transactionId
  have count := serialize_length_ge attrs
  have msgLength : readU16 (stunHeader msgType (serialize attrs).length transactionId.bytes ++
      (serialize attrs ++ trailing)) 2 = .ok (UInt16.ofNat (serialize attrs).length) := by
    have read := readU16_append (u16Bytes msgType)
      ((u32Bytes STUN_MAGIC_COOKIE ++ transactionId.bytes) ++ (serialize attrs ++ trailing))
      (UInt16.ofNat (serialize attrs).length) 2 rfl
    simpa only [stunHeader, List.append_assoc] using read
  have length : (UInt16.ofNat (serialize attrs).length).toNat = (serialize attrs).length := by
    rw [UInt16.toNat_ofNat', Nat.mod_eq_of_lt fits]
  have walk := attributeLoop_serialize attrs
    (stunHeader msgType (serialize attrs).length transactionId.bytes) trailing
    (stunHeader msgType (serialize attrs).length transactionId.bytes ++
      (serialize attrs ++ trailing)).length
    (by simp only [List.length_append]; omega) result
  have stop : min (STUN_HEADER_LEN + (serialize attrs).length)
      (stunHeader msgType (serialize attrs).length transactionId.bytes ++
        (serialize attrs ++ trailing)).length = STUN_HEADER_LEN + (serialize attrs).length := by
    simp only [List.length_append, headerLen]
    omega
  rw [parseAttributes, msgLength]
  simp only [Checked.ok_bind, length, stop]
  rw [headerLen] at walk
  exact walk

/-- On a well-formed Binding message the parser is the left fold over its
attributes; what follows the message is ignored. -/
theorem parseIceStunMessage_serialize (msgType : UInt16) (binding : IsBinding msgType)
    (transactionId : TransactionId) (attrs : List WireAttribute) (trailing : Bytes)
    (fits : (serialize attrs).length < 65536) :
    parseIceStunMessage (stunHeader msgType (serialize attrs).length transactionId.bytes ++
      (serialize attrs ++ trailing)) =
      attrs.foldlM (fun result attr => attr.read result) (headerResult msgType transactionId) := by
  have headerLen := stunHeader_length msgType (serialize attrs).length transactionId
  have walk := parseAttributes_serialize msgType transactionId attrs trailing fits
  generalize whole : stunHeader msgType (serialize attrs).length transactionId.bytes ++
    (serialize attrs ++ trailing) = data at walk ⊢
  have long : ¬ data.length < STUN_HEADER_LEN := by
    rw [← whole, List.length_append, headerLen]
    omega
  have readType : readU16 data 0 = .ok msgType := by
    have read := readU16_append [] ((u16Bytes (UInt16.ofNat (serialize attrs).length) ++
      (u32Bytes STUN_MAGIC_COOKIE ++ transactionId.bytes)) ++ (serialize attrs ++ trailing))
      msgType 0 rfl
    simpa only [← whole, stunHeader, List.append_assoc, List.nil_append] using read
  have readCookie : readU32 data 4 = .ok STUN_MAGIC_COOKIE := by
    have read := readU32_append (u16Bytes msgType ++
      u16Bytes (UInt16.ofNat (serialize attrs).length))
      (transactionId.bytes ++ (serialize attrs ++ trailing)) STUN_MAGIC_COOKIE 4 rfl
    simpa only [← whole, stunHeader, List.append_assoc] using read
  have readId : sliceAt data 8 12 = .ok transactionId.bytes := by
    have read := sliceAt_append (u16Bytes msgType ++ (u16Bytes (UInt16.ofNat
      (serialize attrs).length) ++ u32Bytes STUN_MAGIC_COOKIE)) transactionId.bytes
      (serialize attrs ++ trailing)
    have eight : (u16Bytes msgType ++ (u16Bytes (UInt16.ofNat (serialize attrs).length) ++
        u32Bytes STUN_MAGIC_COOKIE)).length = 8 := rfl
    rw [transactionId.length_eq, eight] at read
    simpa only [← whole, stunHeader, List.append_assoc] using read
  rw [parseIceStunMessage, if_neg long]
  -- The three types start with a byte whose two top bits are zero.
  rcases binding with isType | isType | isType <;> subst isType
  · have first : byteAt data 0 = .ok 0x00 := by rw [← whole]; rfl
    rw [first]
    simp only [Checked.ok_bind, readType, readCookie, readId]
    exact walk _
  · have first : byteAt data 0 = .ok 0x01 := by rw [← whole]; rfl
    rw [first]
    simp only [Checked.ok_bind, readType, readCookie, readId]
    exact walk _
  · have first : byteAt data 0 = .ok 0x01 := by rw [← whole]; rfl
    rw [first]
    simp only [Checked.ok_bind, readType, readCookie, readId]
    exact walk _

end P2pSdk
