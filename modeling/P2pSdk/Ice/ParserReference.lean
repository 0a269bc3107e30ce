import P2pSdk.Stun.XorAddress

namespace P2pSdk

open Foundation

/-!
# What the ICE parser computes

The parser reads attributes at offsets, under guards that mix the claimed
length with the size of the buffer.  On a well-formed message none of this is
visible: the result is a fold over the types and values of the attributes.
The effect of an attribute is stated here from its type and value alone, so
that the fold knows neither padding nor position nor what follows the message.
-/

/-- The type and value of an attribute. -/
def WireAttribute.content (attr : WireAttribute) : UInt16 × Bytes := (attr.attrType, attr.value)

namespace ParsedStunMessage

/-- The effect of a mapped address, when the value says one. -/
def setMapped (result : ParsedStunMessage) : Option (String × UInt16) -> ParsedStunMessage
  | some (ip, port) => { result with mappedIp := ip, mappedPort := port }
  | none => result

/-- What an attribute says about the message. -/
def apply (transactionId : TransactionId) (result : ParsedStunMessage)
    (content : UInt16 × Bytes) : ParsedStunMessage :=
  let (attrType, value) := content
  if attrType = ATTR_USERNAME ∧ value ≠ [] then
    { result with username := fromUtf8Lossy value }
  else if attrType = ATTR_PRIORITY ∧ 4 ≤ value.length then
    { result with priority := UInt32.ofNat (beNat (value.take 4)) }
  else if attrType = ATTR_USE_CANDIDATE then { result with useCandidate := true }
  else if attrType = ATTR_ICE_CONTROLLING ∧ 8 ≤ value.length then
    { result with controlling := some true }
  else if attrType = ATTR_ICE_CONTROLLED ∧ 8 ≤ value.length then
    { result with controlling := some false }
  else if attrType = ATTR_XOR_MAPPED_ADDRESS then
    result.setMapped (readXorAddress transactionId.bytes value)
  else if attrType = ATTR_ERROR_CODE ∧ 4 ≤ value.length then
    -- The layout of the function itself: the class at index 1, the number at index 2.
    { result with
      errorCode := (value.getD 1 0 &&& 0x07).toUInt16 * 100 + (value.getD 2 0).toUInt16 }
  else result

@[simp] theorem setMapped_transactionId (result : ParsedStunMessage)
    (address : Option (String × UInt16)) :
    (result.setMapped address).transactionId = result.transactionId := by
  cases address with
  | none => rfl
  | some address => rfl

/-- No attribute changes the transaction id. -/
theorem apply_transactionId (transactionId : TransactionId) (result : ParsedStunMessage)
    (content : UInt16 × Bytes) :
    (result.apply transactionId content).transactionId = result.transactionId := by
  rcases content with ⟨attrType, value⟩
  unfold apply
  dsimp only
  split_ifs
  · rfl
  · rfl
  · rfl
  · rfl
  · rfl
  · exact setMapped_transactionId result _
  · rfl
  · rfl

end ParsedStunMessage

/-! ## One attribute -/

namespace WireAttribute

variable (attr : WireAttribute)

theorem sliceAt_value {start len : Nat} (inside : start + len ≤ attr.value.length) :
    sliceAt attr.bytes (4 + start) len = sliceAt attr.value start len := by
  have read := sliceAt_inside (u16Bytes attr.attrType ++
    u16Bytes (UInt16.ofNat attr.value.length)) attr.value attr.padding start len inside
  rw [List.length_append, u16Bytes_length, u16Bytes_length, List.append_assoc] at read
  exact read

theorem byteAt_value {index : Nat} (inside : index < attr.value.length) :
    byteAt attr.bytes (4 + index) = .ok (attr.value.getD index 0) := by
  have read := byteAt_inside (u16Bytes attr.attrType ++
    u16Bytes (UInt16.ofNat attr.value.length)) attr.value attr.padding index inside
  rw [List.length_append, u16Bytes_length, u16Bytes_length, List.append_assoc] at read
  rw [bytes, read, byteAt, List.getD_eq_getElem?_getD, List.getElem?_eq_getElem inside]
  rfl

theorem parseXorAddress_bytes (transactionId : TransactionId) :
    exists outcome,
      parseXorAddress attr.bytes 4 attr.value.length transactionId.bytes = .ok outcome ∧
      outcome.toOption = readXorAddress transactionId.bytes attr.value := by
  have parsed := parseXorAddress_value (u16Bytes attr.attrType ++
    u16Bytes (UInt16.ofNat attr.value.length)) attr.value attr.padding transactionId.length_eq
  rw [List.length_append, u16Bytes_length, u16Bytes_length, List.append_assoc] at parsed
  exact parsed

/-- The parser at an attribute does what its type and value say. -/
theorem read_eq_apply (transactionId : TransactionId) {result : ParsedStunMessage}
    (isId : result.transactionId = transactionId.bytes) :
    attr.read result = .ok (result.apply transactionId attr.content) := by
  have whole := attr.value_inside
  rw [read, parseAttribute, ParsedStunMessage.apply, content]
  dsimp only
  by_cases username : attr.attrType = ATTR_USERNAME ∧ 0 < attr.value.length
  · have filled : attr.attrType = ATTR_USERNAME ∧ attr.value ≠ [] :=
      ⟨username.1, List.ne_nil_of_length_pos username.2⟩
    rw [if_pos username, if_pos filled, if_pos (by omega), Nat.zero_add, attr.slice_value]
    rfl
  have notUsername : ¬ (attr.attrType = ATTR_USERNAME ∧ attr.value ≠ []) :=
    fun both => username ⟨both.1, List.length_pos_of_ne_nil both.2⟩
  rw [if_neg username, if_neg notUsername]
  by_cases priority : attr.attrType = ATTR_PRIORITY ∧ 4 ≤ attr.value.length
  · have slice := attr.sliceAt_value (show 0 + 4 ≤ attr.value.length by omega)
    rw [if_pos priority, if_pos priority, readU32, Nat.zero_add, slice, sliceAt,
      if_pos (by omega), List.drop_zero]
    rfl
  rw [if_neg priority, if_neg priority]
  by_cases useCandidate : attr.attrType = ATTR_USE_CANDIDATE
  · rw [if_pos useCandidate, if_pos useCandidate]
    rfl
  rw [if_neg useCandidate, if_neg useCandidate]
  by_cases controlling : attr.attrType = ATTR_ICE_CONTROLLING ∧ 8 ≤ attr.value.length
  · rw [if_pos controlling, if_pos controlling]
    rfl
  rw [if_neg controlling, if_neg controlling]
  by_cases controlled : attr.attrType = ATTR_ICE_CONTROLLED ∧ 8 ≤ attr.value.length
  · rw [if_pos controlled, if_pos controlled]
    rfl
  rw [if_neg controlled, if_neg controlled]
  by_cases mapped : attr.attrType = ATTR_XOR_MAPPED_ADDRESS
  · rcases attr.parseXorAddress_bytes transactionId with ⟨outcome, isOutcome, same⟩
    rw [← isId] at isOutcome
    rw [if_pos mapped, if_pos mapped, Nat.zero_add, isOutcome, Checked.ok_bind, ← same]
    rcases outcome with error | ⟨ip, port⟩
    · rfl
    · rfl
  rw [if_neg mapped, if_neg mapped]
  by_cases errorCode : attr.attrType = ATTR_ERROR_CODE ∧ 4 ≤ attr.value.length
  · rw [if_pos errorCode, if_pos errorCode, Nat.zero_add,
      attr.byteAt_value (show 1 < attr.value.length by omega), Checked.ok_bind, Nat.zero_add,
      attr.byteAt_value (show 2 < attr.value.length by omega)]
    rfl
  · rw [if_neg errorCode, if_neg errorCode]
    rfl

end WireAttribute

/-! ## The message -/

/-- The fold of the parser over the attributes is the fold over their types
and values.  The induction carries the transaction id, which no attribute
changes. -/
theorem foldlM_read (transactionId : TransactionId) (attrs : List WireAttribute)
    {result : ParsedStunMessage} (isId : result.transactionId = transactionId.bytes) :
    attrs.foldlM (fun result attr => attr.read result) result =
      .ok ((attrs.map WireAttribute.content).foldl (ParsedStunMessage.apply transactionId)
        result) := by
  induction attrs generalizing result with
  | nil => rfl
  | cons attr rest ih =>
      have kept : (result.apply transactionId attr.content).transactionId =
          transactionId.bytes := by
        rw [ParsedStunMessage.apply_transactionId, isId]
      rw [List.foldlM_cons, attr.read_eq_apply transactionId isId, Checked.ok_bind, ih kept,
        List.map_cons, List.foldl_cons]

/-- On every well-formed Binding message the parser returns the fold of what
its attributes say, whatever their padding holds and whatever follows. -/
theorem parse_eq_fold (msgType : UInt16) (binding : IsBinding msgType)
    (transactionId : TransactionId) (attrs : List WireAttribute)
    (fits : (serialize attrs).length < 65536) (trailing : Bytes) :
    parseIceStunMessage (stunHeader msgType (serialize attrs).length transactionId.bytes ++
      serialize attrs ++ trailing) =
      .ok ((attrs.map WireAttribute.content).foldl (ParsedStunMessage.apply transactionId)
        (headerResult msgType transactionId)) := by
  rw [List.append_assoc,
    parseIceStunMessage_serialize msgType binding transactionId attrs trailing fits,
    foldlM_read transactionId attrs rfl]

/-- Two usernames, an unknown attribute with padding, and bytes behind the message. -/
theorem parse_eq_fold_usernames :
    parseIceStunMessage (stunHeader STUN_BINDING_REQUEST
      (serialize [.zeroPadded ATTR_USERNAME [0x61] (by decide),
        .zeroPadded 0x7777 [1, 2, 3, 4, 5] (by decide),
        .zeroPadded ATTR_USERNAME [0x62] (by decide)]).length (zeros 12) ++
      serialize [.zeroPadded ATTR_USERNAME [0x61] (by decide),
        .zeroPadded 0x7777 [1, 2, 3, 4, 5] (by decide),
        .zeroPadded ATTR_USERNAME [0x62] (by decide)] ++ [0xFF, 0xFF]) =
      .ok { headerResult STUN_BINDING_REQUEST ⟨zeros 12, zeros_length 12⟩ with username := "b" } := by
  have parsed := parse_eq_fold STUN_BINDING_REQUEST (Or.inl rfl) ⟨zeros 12, zeros_length 12⟩
    [.zeroPadded ATTR_USERNAME [0x61] (by decide),
      .zeroPadded 0x7777 [1, 2, 3, 4, 5] (by decide),
      .zeroPadded ATTR_USERNAME [0x62] (by decide)] (by decide +kernel) [0xFF, 0xFF]
  exact parsed.trans (by decide +kernel)

end P2pSdk
