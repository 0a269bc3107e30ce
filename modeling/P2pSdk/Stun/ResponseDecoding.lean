import P2pSdk.Stun.Bounds
import P2pSdk.Stun.XorAddress

namespace P2pSdk

open Foundation

/-!
# What the response parsers decode

On a well-formed message the walk of a response parser is a fold over the
attributes.  For Binding responses the fold ends at the first mapped address;
for Allocate responses it runs through and keeps what it decodes, so that the
order of the two addresses does not matter.  Attributes of other types are
skipped, with whatever values and padding they come.
-/

/-! ## Well-formed messages -/

/-- Attributes as the records of the attribute walk. -/
def attributeEncoding : RecordEncoding attributeFormat WireAttribute where
  bytes := WireAttribute.bytes
  head := fun attr => ⟨attr.attrType, UInt16.ofNat attr.value.length⟩
  length_bytes := by
    intro attr
    show attr.bytes.length = 4 + padTo4 (UInt16.ofNat attr.value.length).toNat
    rw [attr.bytes_length, attr.attrLen_toNat]
  readHead_bytes := by
    intro before attr after
    show readAttributeHeader _ _ = _
    rw [readAttributeHeader, readU16_attrType, readU16_attrLen]
    rfl

/-- A header that tells the length of the attributes, and the attributes. -/
def stunMessage (msgType : UInt16) (transactionId : TransactionId) (attrs : List WireAttribute) :
    Bytes :=
  stunHeader msgType (serialize attrs).length transactionId.bytes ++ serialize attrs

section Message

variable (msgType : UInt16) (transactionId : TransactionId)

theorem stunMessage_long (attrs : List WireAttribute) :
    20 ≤ (stunMessage msgType transactionId attrs).length := by
  have headerLen : (stunHeader msgType (serialize attrs).length transactionId.bytes).length = 20 :=
    stunHeader_length msgType (serialize attrs).length transactionId
  rw [stunMessage, List.length_append, headerLen]
  omega

theorem stunMessage_hasHeader (attrs : List WireAttribute) :
    HasHeader (stunMessage msgType transactionId attrs) msgType transactionId where
  long := stunMessage_long msgType transactionId attrs
  isType := by
    have read := readU16_append [] (u16Bytes (UInt16.ofNat (serialize attrs).length) ++
      (u32Bytes STUN_MAGIC_COOKIE ++ (transactionId.bytes ++ serialize attrs))) msgType 0 rfl
    simpa only [stunMessage, stunHeader, List.append_assoc, List.nil_append] using read
  cookie := by
    have read := readU32_append (u16Bytes msgType ++
      u16Bytes (UInt16.ofNat (serialize attrs).length)) (transactionId.bytes ++ serialize attrs)
      STUN_MAGIC_COOKIE 4 rfl
    simpa only [stunMessage, stunHeader, List.append_assoc] using read
  id := by
    have read := sliceAt_append (u16Bytes msgType ++ (u16Bytes (UInt16.ofNat
      (serialize attrs).length) ++ u32Bytes STUN_MAGIC_COOKIE)) transactionId.bytes
      (serialize attrs)
    have eight : (u16Bytes msgType ++ (u16Bytes (UInt16.ofNat (serialize attrs).length) ++
        u32Bytes STUN_MAGIC_COOKIE)).length = 8 := rfl
    rw [transactionId.length_eq, eight] at read
    rw [sliceRange, if_pos (by omega)]
    simpa only [stunMessage, stunHeader, List.append_assoc] using read

theorem stunMessage_claimed (attrs : List WireAttribute) :
    readU16 (stunMessage msgType transactionId attrs) 2 =
      .ok (UInt16.ofNat (serialize attrs).length) := by
  have read := readU16_append (u16Bytes msgType)
    (u32Bytes STUN_MAGIC_COOKIE ++ (transactionId.bytes ++ serialize attrs))
    (UInt16.ofNat (serialize attrs).length) 2 rfl
  simpa only [stunMessage, stunHeader, List.append_assoc] using read

theorem stunMessage_split (left : List WireAttribute) (attr : WireAttribute)
    (right : List WireAttribute) :
    stunMessage msgType transactionId (left ++ attr :: right) =
      (stunHeader msgType (serialize (left ++ attr :: right)).length transactionId.bytes ++
        serialize left) ++ (attr.bytes ++ serialize right) := by
  rw [stunMessage, serialize_append, serialize_cons, List.append_assoc]

/-- The attribute walk over a well-formed message folds what the body does at
each of its attributes. -/
theorem walkAttributes_at {State Result : Type} {attrs : List WireAttribute}
    (fits : (serialize attrs).length < 65536)
    (body : Nat -> AttributeHeader -> State -> Checked (Round State Result))
    (effect : WireAttribute -> State -> Checked (Round State Result))
    (atAttribute : forall left attr right state, attrs = left ++ attr :: right ->
      body (20 + (serialize left).length) ⟨attr.attrType, UInt16.ofNat attr.value.length⟩ state =
        effect attr state) (state : State) :
    walkAttributes (stunMessage msgType transactionId attrs)
      (UInt16.ofNat (serialize attrs).length) body state = foldRounds effect attrs state := by
  have headerLen : (stunHeader msgType (serialize attrs).length transactionId.bytes).length = 20 :=
    stunHeader_length msgType (serialize attrs).length transactionId
  have count := serialize_length_ge attrs
  have walked := @RecordEncoding.walk_serialize _ _ _ _ _ attributeEncoding body effect
    (stunMessage msgType transactionId attrs) attrs
    (stunHeader msgType (serialize attrs).length transactionId.bytes) []
    (by rw [List.append_nil]; rfl) (by rw [headerLen]; exact atAttribute)
    (20 + (serialize attrs).length) (by omega) state
  rw [headerLen] at walked
  rw [walkAttributes, UInt16.toNat_ofNat', Nat.mod_eq_of_lt fits]
  exact walked

/-- The one attribute of a type stands in one place. -/
theorem split_of_type {before after left right : List WireAttribute} {target attr : WireAttribute}
    (beforeOther : forall other, other ∈ before -> other.attrType ≠ target.attrType)
    (afterOther : forall other, other ∈ after -> other.attrType ≠ target.attrType)
    (isSplit : before ++ target :: after = left ++ attr :: right)
    (isType : attr.attrType = target.attrType) : left = before ∧ attr = target := by
  rcases List.append_eq_append_iff.mp isSplit with ⟨more, isLeft, isRest⟩ | ⟨more, isBefore, isRest⟩
  · cases more with
    | nil =>
        rw [List.nil_append] at isRest
        rw [isLeft, List.append_nil]
        exact ⟨rfl, (List.cons.inj isRest).1.symm⟩
    | cons first more =>
        rw [List.cons_append] at isRest
        have isAfter : attr ∈ after := by
          rw [(List.cons.inj isRest).2]
          exact List.mem_append_right more List.mem_cons_self
        exact absurd isType (afterOther attr isAfter)
  · cases more with
    | nil =>
        rw [List.nil_append] at isRest
        rw [isBefore, List.append_nil]
        exact ⟨rfl, (List.cons.inj isRest).1⟩
    | cons first more =>
        rw [List.cons_append] at isRest
        have isFirst : attr ∈ before := by
          rw [isBefore, (List.cons.inj isRest).1]
          exact List.mem_append_right left List.mem_cons_self
        exact absurd isType (beforeOther attr isFirst)

/-- A walk to the one attribute of a type returns what the body makes of it. -/
theorem walkAttributes_find {Result : Type} {before after : List WireAttribute}
    {target : WireAttribute} (fits : (serialize (before ++ target :: after)).length < 65536)
    (beforeOther : forall other, other ∈ before -> other.attrType ≠ target.attrType)
    (afterOther : forall other, other ∈ after -> other.attrType ≠ target.attrType)
    (body : Nat -> AttributeHeader -> Unit -> Checked (Round Unit Result)) (result : Result)
    (passes : forall offset header, header.attrType ≠ target.attrType ->
      body offset header () = .ok (.next ()))
    (returns : body (20 + (serialize before).length)
      ⟨target.attrType, UInt16.ofNat target.value.length⟩ () = .ok (.done result)) :
    walkAttributes (stunMessage msgType transactionId (before ++ target :: after))
      (UInt16.ofNat (serialize (before ++ target :: after)).length) body () =
        .ok (.done result) := by
  let effect : WireAttribute -> Unit -> Checked (Round Unit Result) := fun attr _ =>
    if attr.attrType = target.attrType then .ok (.done result) else .ok (.next ())
  have skips : forall attr, attr ∈ before -> effect attr () = .ok (.next ()) :=
    fun attr isBefore => if_neg (beforeOther attr isBefore)
  have ends : effect target () = .ok (.done result) := if_pos rfl
  rw [walkAttributes_at msgType transactionId fits body effect ?_ (), foldRounds_skip skips,
    foldRounds_done ends]
  intro left attr right state isSplit
  by_cases isType : attr.attrType = target.attrType
  · rcases split_of_type beforeOther afterOther isSplit isType with ⟨rfl, rfl⟩
    exact returns.trans (if_pos rfl).symm
  · exact (passes _ _ isType).trans (if_neg isType).symm

/-- The same for a body that looks at the bytes of its attribute only. -/
theorem walkAttributes_message {State Result : Type} {attrs : List WireAttribute}
    (fits : (serialize attrs).length < 65536)
    (body : Nat -> AttributeHeader -> State -> Checked (Round State Result))
    (effect : WireAttribute -> State -> Checked (Round State Result))
    (atAttribute : forall before attr after state, attr ∈ attrs ->
      stunMessage msgType transactionId attrs = before ++ (attr.bytes ++ after) ->
      body before.length ⟨attr.attrType, UInt16.ofNat attr.value.length⟩ state =
        effect attr state) (state : State) :
    walkAttributes (stunMessage msgType transactionId attrs)
      (UInt16.ofNat (serialize attrs).length) body state = foldRounds effect attrs state := by
  refine walkAttributes_at msgType transactionId fits body effect ?_ state
  intro left attr right state isSplit
  have here := atAttribute
    (stunHeader msgType (serialize attrs).length transactionId.bytes ++ serialize left) attr
    (serialize right) state
    (by rw [isSplit]; exact List.mem_append_right left List.mem_cons_self)
    (by rw [isSplit]; exact stunMessage_split msgType transactionId left attr right)
  rw [List.length_append, stunHeader_length] at here
  exact here

end Message

/-! ## Address attributes -/

/-- The value of an attribute at its place in a message. -/
theorem bytes_split (before after : Bytes) (attr : WireAttribute) :
    before ++ (attr.bytes ++ after) =
      (before ++ (u16Bytes attr.attrType ++ u16Bytes (UInt16.ofNat attr.value.length))) ++
        (attr.value ++ (attr.padding ++ after)) := by
  simp only [WireAttribute.bytes, List.append_assoc]

theorem value_start (before : Bytes) (attr : WireAttribute) :
    (before ++ (u16Bytes attr.attrType ++ u16Bytes (UInt16.ofNat attr.value.length))).length =
      before.length + 4 := by
  simp only [List.length_append, u16Bytes_length]

/-- The decoder at an attribute reads what its value says. -/
theorem parseXorAddress_attribute (before after : Bytes) (attr : WireAttribute)
    (transactionId : TransactionId) :
    exists outcome,
      parseXorAddress (before ++ (attr.bytes ++ after)) (before.length + 4) attr.value.length
        transactionId.bytes = .ok outcome ∧
      outcome.toOption = readXorAddress transactionId.bytes attr.value := by
  rw [bytes_split, ← value_start before attr]
  exact parseXorAddress_value _ attr.value _ transactionId.length_eq

/-- An address attribute. -/
def addressAttribute (attrType : UInt16) (transactionId : TransactionId) (reserved : UInt8)
    (ip : IpAddress) (port : UInt16) : WireAttribute :=
  .zeroPadded attrType (xorAddressValue transactionId reserved ip port) (by
    have length := xorAddressValue_length transactionId reserved ip port
    omega)

section AddressAttribute

variable (attrType : UInt16) (transactionId : TransactionId) (reserved : UInt8) (ip : IpAddress)
  (port : UInt16)

/-- The decoder at an address attribute. -/
theorem parseXorAddress_address (before after : Bytes) :
    parseXorAddress
      (before ++ ((addressAttribute attrType transactionId reserved ip port).bytes ++ after))
      (before.length + 4) (addressAttribute attrType transactionId reserved ip port).value.length
      transactionId.bytes = .ok (.ok (ip.text, port)) := by
  rcases parseXorAddress_attribute before after
    (addressAttribute attrType transactionId reserved ip port) transactionId with
    ⟨outcome, isOutcome, same⟩
  rw [show (addressAttribute attrType transactionId reserved ip port).value =
    xorAddressValue transactionId reserved ip port from rfl, readXorAddress_value] at same
  rw [isOutcome]
  cases outcome with
  | error error => cases same
  | ok address =>
      cases same
      rfl

/-- The family byte of an address attribute. -/
theorem family_address (before after : Bytes) :
    (before ++ ((addressAttribute attrType transactionId reserved ip port).bytes ++
      after))[before.length + 5]? = some ip.family := by
  have start := value_start before (addressAttribute attrType transactionId reserved ip port)
  rw [bytes_split, show before.length + 5 = (before.length + 4) + 1 from rfl, ← start,
    List.getElem?_append_right (Nat.le_add_right _ _), Nat.add_sub_cancel_left]
  rfl

end AddressAttribute

/-! ## Binding responses -/

theorem bindingRound_skip (data : Bytes) (offset : Nat) {header : AttributeHeader}
    (other : header.attrType ≠ ATTR_XOR_MAPPED_ADDRESS) :
    bindingRound data offset header () = .ok (.next ()) := by
  rw [bindingRound, if_neg other]
  rfl

/-- The round at a mapped address returns it. -/
theorem bindingRound_mapped {data : Bytes} {transactionId : TransactionId}
    (isId : sliceRange data 8 20 = .ok transactionId.bytes) (reserved : UInt8) (ip : IpAddress)
    (port : UInt16) (before after : Bytes)
    (whole : data = before ++ ((addressAttribute ATTR_XOR_MAPPED_ADDRESS transactionId reserved ip
      port).bytes ++ after)) :
    bindingRound data before.length ⟨ATTR_XOR_MAPPED_ADDRESS, UInt16.ofNat
      (addressAttribute ATTR_XOR_MAPPED_ADDRESS transactionId reserved ip port).value.length⟩ () =
      .ok (.done (.ok ⟨ip.text, port⟩)) := by
  have known : ip.family = AF_INET ∨ ip.family = AF_INET6 := by
    cases ip with
    | v4 octets sized => exact Or.inl rfl
    | v6 bytes sized => exact Or.inr rfl
  have family : (data[before.length + 5]?).getD 0 = ip.family := by
    rw [whole, family_address, Option.getD_some]
  have parsed := parseXorAddress_address ATTR_XOR_MAPPED_ADDRESS transactionId reserved ip port
    before after
  rw [← whole] at parsed
  rw [bindingRound, if_pos rfl, family, if_pos known, isId, Checked.ok_bind,
    WireAttribute.attrLen_toNat, parsed, Checked.ok_bind]
  rfl

/-- What an attribute of a response with this mapped address does. -/
def bindingEffect (ip : IpAddress) (port : UInt16) (attr : WireAttribute) (_ : Unit) :
    Checked (Round Unit (Except StunError StunResult)) :=
  if attr.attrType = ATTR_XOR_MAPPED_ADDRESS then .ok (.done (.ok ⟨ip.text, port⟩))
  else .ok (.next ())

/-- A Binding response decodes to the address that it carries. -/
theorem parseBindingResponse_decodes (transactionId : TransactionId) (reserved : UInt8)
    (ip : IpAddress) (port : UInt16) (before after : List WireAttribute)
    (others : forall attr, attr ∈ before ++ after -> attr.attrType ≠ ATTR_XOR_MAPPED_ADDRESS)
    (fits : (serialize (before ++ addressAttribute ATTR_XOR_MAPPED_ADDRESS transactionId reserved
      ip port :: after)).length < 65536) :
    parseBindingResponse (stunMessage STUN_BINDING_SUCCESS transactionId
      (before ++ addressAttribute ATTR_XOR_MAPPED_ADDRESS transactionId reserved ip port :: after))
      transactionId = .ok (.ok ⟨ip.text, port⟩) := by
  generalize isMapped : addressAttribute ATTR_XOR_MAPPED_ADDRESS transactionId reserved ip port =
    mapped at fits ⊢
  have mappedType : mapped.attrType = ATTR_XOR_MAPPED_ADDRESS := by
    rw [← isMapped]
    rfl
  have header := stunMessage_hasHeader STUN_BINDING_SUCCESS transactionId
    (before ++ mapped :: after)
  have skips : forall attr, attr ∈ before ++ after ->
      bindingEffect ip port attr () = .ok (.next ()) :=
    fun attr isMember => if_neg (others attr isMember)
  have returns : bindingEffect ip port mapped () = .ok (.done (.ok ⟨ip.text, port⟩)) :=
    if_pos mappedType
  have walked := walkAttributes_message STUN_BINDING_SUCCESS transactionId fits (bindingRound _)
    (bindingEffect ip port)
    (by
      intro earlier attr later _ isMember whole
      rcases List.mem_cons.mp (List.perm_middle.mem_iff.mp isMember) with here | isOther
      · have decoded := bindingRound_mapped header.id reserved ip port earlier later
          (by rw [isMapped, whole, here])
        rw [isMapped] at decoded
        rw [here, returns, mappedType]
        exact decoded
      · rw [skips attr isOther]
        exact bindingRound_skip _ _ (others attr isOther)) ()
  rw [parseBindingResponse_accepted header (stunMessage_claimed _ _ _), walked,
    foldRounds_skip (fun attr isBefore => skips attr (List.mem_append_left after isBefore)),
    foldRounds_done returns]
  rfl

/-! ## Allocate responses -/

theorem allocateRound_skip (data : Bytes) (offset : Nat) {header : AttributeHeader}
    (notRelayed : header.attrType ≠ ATTR_XOR_RELAYED_ADDRESS)
    (notMapped : header.attrType ≠ ATTR_XOR_MAPPED_ADDRESS) (result : TurnResult) :
    allocateRound data offset header result = .ok (.next result) := by
  rw [allocateRound, if_neg notRelayed, if_neg notMapped]
  rfl

/-- An address with its port and its reserved byte, as a server sends it. -/
structure SentAddress where
  ip : IpAddress
  port : UInt16
  reserved : UInt8

def SentAddress.attribute (sent : SentAddress) (attrType : UInt16)
    (transactionId : TransactionId) : WireAttribute :=
  addressAttribute attrType transactionId sent.reserved sent.ip sent.port

/-- What an attribute of a response with these two addresses does. -/
def allocateEffect (relayed mapped : SentAddress) (attr : WireAttribute) (result : TurnResult) :
    Checked (Round TurnResult Empty) :=
  if attr.attrType = ATTR_XOR_RELAYED_ADDRESS then
    .ok (.next { result with relayIp := relayed.ip.text, relayPort := relayed.port })
  else if attr.attrType = ATTR_XOR_MAPPED_ADDRESS then
    .ok (.next { result with mappedIp := mapped.ip.text, mappedPort := mapped.port })
  else .ok (.next result)

theorem allocateRound_address {data : Bytes} {transactionId : TransactionId}
    (isId : sliceRange data 8 20 = .ok transactionId.bytes) (relayed mapped : SentAddress)
    {attr : WireAttribute}
    (isAddress : attr = relayed.attribute ATTR_XOR_RELAYED_ADDRESS transactionId ∨
      attr = mapped.attribute ATTR_XOR_MAPPED_ADDRESS transactionId)
    {before after : Bytes} (whole : data = before ++ (attr.bytes ++ after)) (result : TurnResult) :
    allocateRound data before.length ⟨attr.attrType, UInt16.ofNat attr.value.length⟩ result =
      allocateEffect relayed mapped attr result := by
  rcases isAddress with isRelayed | isMapped
  · have parsed := parseXorAddress_address ATTR_XOR_RELAYED_ADDRESS transactionId relayed.reserved
      relayed.ip relayed.port before after
    have isType : attr.attrType = ATTR_XOR_RELAYED_ADDRESS := by
      rw [isRelayed]
      rfl
    rw [isRelayed, SentAddress.attribute] at whole
    rw [← whole] at parsed
    rw [allocateRound, allocateEffect, if_pos isType, if_pos isType, isId, Checked.ok_bind,
      WireAttribute.attrLen_toNat, isRelayed, SentAddress.attribute, parsed, Checked.ok_bind]
    rfl
  · have parsed := parseXorAddress_address ATTR_XOR_MAPPED_ADDRESS transactionId mapped.reserved
      mapped.ip mapped.port before after
    have isType : attr.attrType = ATTR_XOR_MAPPED_ADDRESS := by
      rw [isMapped]
      rfl
    have notRelayed : attr.attrType ≠ ATTR_XOR_RELAYED_ADDRESS := by
      rw [isType]
      decide
    rw [isMapped, SentAddress.attribute] at whole
    rw [← whole] at parsed
    rw [allocateRound, allocateEffect, if_neg notRelayed, if_neg notRelayed, if_pos isType,
      if_pos isType, isId, Checked.ok_bind, WireAttribute.attrLen_toNat, isMapped,
      SentAddress.attribute, parsed, Checked.ok_bind]
    rfl

/-- The attributes of an Allocate response: the two addresses, in either
order, among others. -/
def allocateAttributes (relayedFirst : Bool) (transactionId : TransactionId)
    (relayed mapped : SentAddress) (before between after : List WireAttribute) :
    List WireAttribute :=
  let relayedAttr := relayed.attribute ATTR_XOR_RELAYED_ADDRESS transactionId
  let mappedAttr := mapped.attribute ATTR_XOR_MAPPED_ADDRESS transactionId
  if relayedFirst then before ++ relayedAttr :: (between ++ mappedAttr :: after)
  else before ++ mappedAttr :: (between ++ relayedAttr :: after)

/-- The attributes are the two addresses and the others. -/
theorem mem_allocateAttributes {relayedFirst : Bool} {transactionId : TransactionId}
    {relayed mapped : SentAddress} {before between after : List WireAttribute}
    {attr : WireAttribute} (isMember : attr ∈ allocateAttributes relayedFirst transactionId relayed
      mapped before between after) :
    (attr = relayed.attribute ATTR_XOR_RELAYED_ADDRESS transactionId ∨
      attr = mapped.attribute ATTR_XOR_MAPPED_ADDRESS transactionId) ∨
      attr ∈ before ++ between ++ after := by
  unfold allocateAttributes at isMember
  cases relayedFirst with
  | true =>
      simp only [if_true, List.mem_append, List.mem_cons] at isMember ⊢
      tauto
  | false =>
      simp only [Bool.false_eq_true, if_false, List.mem_append, List.mem_cons] at isMember ⊢
      tauto

/-- The fold over the attributes keeps both addresses. -/
theorem foldRounds_allocate (relayedFirst : Bool) (transactionId : TransactionId)
    (relayed mapped : SentAddress) (before between after : List WireAttribute)
    (others : forall attr, attr ∈ before ++ between ++ after ->
      attr.attrType ≠ ATTR_XOR_RELAYED_ADDRESS ∧ attr.attrType ≠ ATTR_XOR_MAPPED_ADDRESS) :
    foldRounds (allocateEffect relayed mapped)
      (allocateAttributes relayedFirst transactionId relayed mapped before between after) {} =
      .ok (.next ⟨relayed.ip.text, relayed.port, mapped.ip.text, mapped.port⟩) := by
  have skips : forall attr, attr ∈ before ++ between ++ after -> forall result,
      allocateEffect relayed mapped attr result = .ok (.next result) := by
    intro attr isMember result
    rw [allocateEffect, if_neg (others attr isMember).1, if_neg (others attr isMember).2]
  have skipsBefore : forall attr, attr ∈ before -> forall result,
      allocateEffect relayed mapped attr result = .ok (.next result) :=
    fun attr isMember => skips attr (List.mem_append_left _ (List.mem_append_left _ isMember))
  have skipsBetween : forall attr, attr ∈ between -> forall result,
      allocateEffect relayed mapped attr result = .ok (.next result) :=
    fun attr isMember => skips attr (List.mem_append_left _ (List.mem_append_right _ isMember))
  have skipsAfter : forall attr, attr ∈ after -> forall result,
      allocateEffect relayed mapped attr result = .ok (.next result) :=
    fun attr isMember => skips attr (List.mem_append_right _ isMember)
  have keepsRelayed : forall result : TurnResult,
      allocateEffect relayed mapped (relayed.attribute ATTR_XOR_RELAYED_ADDRESS transactionId)
        result = .ok (.next
          { result with relayIp := relayed.ip.text, relayPort := relayed.port }) :=
    fun _ => if_pos rfl
  have keepsMapped : forall result : TurnResult,
      allocateEffect relayed mapped (mapped.attribute ATTR_XOR_MAPPED_ADDRESS transactionId)
        result = .ok (.next
          { result with mappedIp := mapped.ip.text, mappedPort := mapped.port }) := by
    intro result
    have notRelayed : (mapped.attribute ATTR_XOR_MAPPED_ADDRESS transactionId).attrType ≠
        ATTR_XOR_RELAYED_ADDRESS :=
      show ATTR_XOR_MAPPED_ADDRESS ≠ ATTR_XOR_RELAYED_ADDRESS by decide
    rw [allocateEffect, if_neg notRelayed]
    exact if_pos rfl
  have last : forall result, foldRounds (allocateEffect relayed mapped) after result =
      .ok (.next result) := by
    intro result
    have skipped := foldRounds_skip (fun attr isMember => skipsAfter attr isMember result) []
    rw [List.append_nil] at skipped
    exact skipped
  unfold allocateAttributes
  cases relayedFirst with
  | true =>
      rw [if_pos rfl, foldRounds_skip (fun attr isMember => skipsBefore attr isMember _),
        foldRounds_next (keepsRelayed _),
        foldRounds_skip (fun attr isMember => skipsBetween attr isMember _),
        foldRounds_next (keepsMapped _), last]
  | false =>
      rw [if_neg Bool.false_ne_true,
        foldRounds_skip (fun attr isMember => skipsBefore attr isMember _),
        foldRounds_next (keepsMapped _),
        foldRounds_skip (fun attr isMember => skipsBetween attr isMember _),
        foldRounds_next (keepsRelayed _), last]

/-- An Allocate response decodes to the two addresses that it carries. -/
theorem parseAllocateResponse_decodes (relayedFirst : Bool) (transactionId : TransactionId)
    (relayed mapped : SentAddress) (before between after : List WireAttribute)
    (others : forall attr, attr ∈ before ++ between ++ after ->
      attr.attrType ≠ ATTR_XOR_RELAYED_ADDRESS ∧ attr.attrType ≠ ATTR_XOR_MAPPED_ADDRESS)
    (fits : (serialize (allocateAttributes relayedFirst transactionId relayed mapped before between
      after)).length < 65536) :
    parseAllocateResponse (stunMessage STUN_ALLOCATE_SUCCESS transactionId
      (allocateAttributes relayedFirst transactionId relayed mapped before between after))
      transactionId =
        .ok (.ok ⟨relayed.ip.text, relayed.port, mapped.ip.text, mapped.port⟩) := by
  have header := stunMessage_hasHeader STUN_ALLOCATE_SUCCESS transactionId
    (allocateAttributes relayedFirst transactionId relayed mapped before between after)
  have walked := walkAttributes_message STUN_ALLOCATE_SUCCESS transactionId fits (allocateRound _)
    (allocateEffect relayed mapped)
    (by
      intro earlier attr later result isMember whole
      rcases mem_allocateAttributes isMember with isAddress | isOther
      · exact allocateRound_address header.id relayed mapped isAddress whole result
      · rcases others attr isOther with ⟨notRelayed, notMapped⟩
        rw [allocateRound_skip _ _ notRelayed notMapped, allocateEffect, if_neg notRelayed,
          if_neg notMapped]) {}
  rw [parseAllocateResponse_accepted header (stunMessage_claimed _ _ _), walked,
    foldRounds_allocate relayedFirst transactionId relayed mapped before between after others,
    Checked.ok_bind]
  dsimp only
  rw [if_neg relayed.ip.text_ne_empty, Checked.pure_eq_ok]

/-! ## Both responses -/

theorem TransactionId.bytes_ne {transactionId other : TransactionId}
    (differ : other ≠ transactionId) : transactionId.bytes ≠ other.bytes := by
  intro same
  exact differ (TransactionId.mk.injEq _ _ _ _ |>.mpr same.symm)

theorem parseBindingResponse_mismatch {data : Bytes} {transactionId other : TransactionId}
    (header : HasHeader data STUN_BINDING_SUCCESS transactionId) (differ : other ≠ transactionId) :
    parseBindingResponse data other = .ok (.error .transactionIdMismatch) := by
  have idsDiffer := TransactionId.bytes_ne differ
  have classBits : ¬ (UInt8.ofNat (STUN_BINDING_SUCCESS.toNat / 256) &&& 0xC0 ≠ 0) := by decide
  rw [parseBindingResponse, if_neg (Nat.not_lt.mpr header.long), byteAt_of_type header.isType,
    Checked.ok_bind, if_neg classBits, header.isType, Checked.ok_bind, if_neg (not_not.mpr rfl),
    header.cookie, Checked.ok_bind, if_neg (not_not.mpr rfl), header.id, Checked.ok_bind,
    if_pos idsDiffer, Checked.pure_eq_ok]

theorem parseAllocateResponse_mismatch {data : Bytes} {transactionId other : TransactionId}
    (header : HasHeader data STUN_ALLOCATE_SUCCESS transactionId) (differ : other ≠ transactionId) :
    parseAllocateResponse data other = .ok (.error .transactionIdMismatch) := by
  have idsDiffer := TransactionId.bytes_ne differ
  have classBits : ¬ (UInt8.ofNat (STUN_ALLOCATE_SUCCESS.toNat / 256) &&& 0xC0 ≠ 0) := by decide
  rw [parseAllocateResponse, if_neg (Nat.not_lt.mpr header.long), byteAt_of_type header.isType,
    Checked.ok_bind, if_neg classBits, header.isType, Checked.ok_bind, if_neg (by decide),
    if_neg (not_not.mpr rfl), header.cookie, Checked.ok_bind, if_neg (not_not.mpr rfl), header.id,
    Checked.ok_bind, if_pos idsDiffer, Checked.pure_eq_ok]

/-- Success responses decode to exactly the addresses that the server encoded,
whatever other attributes stand around them, and only under their own
transaction id. -/
theorem responses_decode (transactionId : TransactionId) :
    (forall (reserved : UInt8) (ip : IpAddress) (port : UInt16) (before after : List WireAttribute),
      let attrs := before ++
        addressAttribute ATTR_XOR_MAPPED_ADDRESS transactionId reserved ip port :: after
      (forall attr, attr ∈ before ++ after -> attr.attrType ≠ ATTR_XOR_MAPPED_ADDRESS) ->
      (serialize attrs).length < 65536 ->
        parseBindingResponse (stunMessage STUN_BINDING_SUCCESS transactionId attrs)
          transactionId = .ok (.ok ⟨ip.text, port⟩) ∧
        forall other, other ≠ transactionId ->
          parseBindingResponse (stunMessage STUN_BINDING_SUCCESS transactionId attrs) other =
            .ok (.error .transactionIdMismatch)) ∧
    (forall (relayedFirst : Bool) (relayed mapped : SentAddress)
        (before between after : List WireAttribute),
      let attrs := allocateAttributes relayedFirst transactionId relayed mapped before between after
      (forall attr, attr ∈ before ++ between ++ after ->
        attr.attrType ≠ ATTR_XOR_RELAYED_ADDRESS ∧ attr.attrType ≠ ATTR_XOR_MAPPED_ADDRESS) ->
      (serialize attrs).length < 65536 ->
        parseAllocateResponse (stunMessage STUN_ALLOCATE_SUCCESS transactionId attrs)
          transactionId =
            .ok (.ok ⟨relayed.ip.text, relayed.port, mapped.ip.text, mapped.port⟩) ∧
        forall other, other ≠ transactionId ->
          parseAllocateResponse (stunMessage STUN_ALLOCATE_SUCCESS transactionId attrs) other =
            .ok (.error .transactionIdMismatch)) := by
  constructor
  · intro reserved ip port before after attrs others fits
    refine ⟨parseBindingResponse_decodes transactionId reserved ip port before after others fits, ?_⟩
    intro other differ
    exact parseBindingResponse_mismatch (stunMessage_hasHeader _ _ _) differ
  · intro relayedFirst relayed mapped before between after attrs others fits
    refine ⟨parseAllocateResponse_decodes relayedFirst transactionId relayed mapped before between
      after others fits, ?_⟩
    intro other differ
    exact parseAllocateResponse_mismatch (stunMessage_hasHeader _ _ _) differ

/-- An Allocate response with the mapped IPv6 address before the relayed IPv4
address, and a padded attribute between them. -/
theorem responses_decode_mappedFirst :
    parseAllocateResponse (stunMessage STUN_ALLOCATE_SUCCESS ⟨zeros 12, zeros_length 12⟩
      (allocateAttributes false ⟨zeros 12, zeros_length 12⟩
        ⟨.v4 [192, 0, 2, 1] rfl, 49152, 0⟩ ⟨.v6 (zeros 16) (zeros_length 16), 5000, 0⟩ []
        [.zeroPadded ATTR_SOFTWARE [0x61] (by decide)] []))
      ⟨zeros 12, zeros_length 12⟩ =
        .ok (.ok ⟨ipv4ToString [192, 0, 2, 1], 49152, ipv6ToString (zeros 16), 5000⟩) :=
  ((responses_decode ⟨zeros 12, zeros_length 12⟩).2 false ⟨.v4 [192, 0, 2, 1] rfl, 49152, 0⟩
    ⟨.v6 (zeros 16) (zeros_length 16), 5000, 0⟩ [] [.zeroPadded ATTR_SOFTWARE [0x61] (by decide)] []
    (by decide) (by decide +kernel)).1

end P2pSdk
