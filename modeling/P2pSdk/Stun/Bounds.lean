import P2pSdk.Turn.Session

namespace P2pSdk

open Foundation

/-!
# Where the response parsers stay inside the buffer

The three walks over a response go up to the length that its header claims.
A claim beyond the end of the buffer is not noticed, and the walk then reads an
attribute header that is not there.  Inside the arms only two reads depend on
more than their own guards: the class and number of an Allocate error, which
follow a length field and not the buffer, and the 16-bit sum of a TURN error.

For each parser this gives the exact condition, on the bytes alone: each
attribute header at an offset that the walk comes to lies inside.
-/

/-! ## Reads -/

theorem readU16_returns {buf : Bytes} {offset : Nat} :
    (exists value, readU16 buf offset = .ok value) <-> offset + 2 ≤ buf.length := by
  rw [← sliceAt_returns]
  constructor
  · rintro ⟨value, read⟩
    rcases Checked.bind_eq_ok.mp read with ⟨slice, isSlice, _⟩
    exact ⟨slice, isSlice⟩
  · rintro ⟨slice, isSlice⟩
    exact ⟨_, by rw [readU16, isSlice, Checked.ok_bind]; rfl⟩

theorem readU32_returns {buf : Bytes} {offset : Nat} :
    (exists value, readU32 buf offset = .ok value) <-> offset + 4 ≤ buf.length := by
  rw [← sliceAt_returns]
  constructor
  · rintro ⟨value, read⟩
    rcases Checked.bind_eq_ok.mp read with ⟨slice, isSlice, _⟩
    exact ⟨slice, isSlice⟩
  · rintro ⟨slice, isSlice⟩
    exact ⟨_, by rw [readU32, isSlice, Checked.ok_bind]; rfl⟩

theorem sliceRange_returns {buf : Bytes} {start stop : Nat} :
    (exists slice, sliceRange buf start stop = .ok slice) <-> start ≤ stop ∧ stop ≤ buf.length := by
  unfold sliceRange
  by_cases ordered : start ≤ stop
  · rw [if_pos ordered, sliceAt_returns, Nat.add_sub_cancel' ordered]
    exact ⟨fun inside => ⟨ordered, inside⟩, fun both => both.2⟩
  · rw [if_neg ordered]
    constructor
    · rintro ⟨slice, impossible⟩
      cases impossible
    · intro both
      exact absurd both.1 ordered

/-- An attribute header is readable exactly where its four bytes are. -/
theorem readAttributeHeader_returns {data : Bytes} {offset : Nat} :
    (exists header, readAttributeHeader data offset = .ok header) <->
      offset + 4 ≤ data.length := by
  constructor
  · rintro ⟨header, read⟩
    rcases Checked.bind_eq_ok.mp read with ⟨attrType, _, rest⟩
    rcases Checked.bind_eq_ok.mp rest with ⟨attrLen, isLen, _⟩
    have inside := readU16_returns.mp ⟨attrLen, isLen⟩
    omega
  · intro inside
    rcases readU16_returns.mpr (show offset + 2 ≤ data.length by omega) with ⟨attrType, isType⟩
    rcases readU16_returns.mpr (show offset + 2 + 2 ≤ data.length by omega) with ⟨attrLen, isLen⟩
    exact ⟨⟨attrType, attrLen⟩, by rw [readAttributeHeader, isType, isLen]; rfl⟩

/-- Every read of an XOR address has its own guard. -/
theorem parseXorAddress_returns (buf : Bytes) (offset attrLen : Nat) {transactionId : Bytes}
    (long : 12 ≤ transactionId.length) :
    exists outcome, parseXorAddress buf offset attrLen transactionId = .ok outcome := by
  unfold parseXorAddress
  by_cases short : attrLen < 4
  · rw [if_pos short]
    exact ⟨_, rfl⟩
  rw [if_neg short]
  by_cases cut : buf.length < offset + 4
  · rw [if_pos cut]
    exact ⟨_, rfl⟩
  rcases byteAt_returns.mpr (show offset + 1 < buf.length by omega) with ⟨family, isFamily⟩
  rcases readU16_returns.mpr (show offset + 2 + 2 ≤ buf.length by omega) with ⟨port, isPort⟩
  rw [if_neg cut, isFamily, isPort]
  simp only [Checked.ok_bind]
  by_cases v4 : family = AF_INET
  · rw [if_pos v4]
    split_ifs with shortV4 cutV4
    · exact ⟨_, rfl⟩
    · exact ⟨_, rfl⟩
    · rcases sliceAt_returns.mpr (show offset + 4 + 4 ≤ buf.length by omega) with ⟨addr, isAddr⟩
      rw [isAddr]
      exact ⟨_, rfl⟩
  · rw [if_neg v4]
    split_ifs with v6 shortV6 cutV6
    · exact ⟨_, rfl⟩
    · exact ⟨_, rfl⟩
    · rcases sliceAt_returns.mpr (show offset + 4 + 16 ≤ buf.length by omega) with ⟨addr, isAddr⟩
      rcases sliceAt_returns.mpr (show 0 + 12 ≤ transactionId.length by omega) with ⟨key, isKey⟩
      rw [isAddr, isKey]
      exact ⟨_, rfl⟩
    · exact ⟨_, rfl⟩

/-- The first byte of a message is the high byte of its type. -/
theorem byteAt_of_type {data : Bytes} {msgType : UInt16} (isType : readU16 data 0 = .ok msgType) :
    byteAt data 0 = .ok (UInt8.ofNat (msgType.toNat / 256)) := by
  have long := readU16_returns.mp ⟨msgType, isType⟩
  match data, long with
  | first :: second :: rest, _ =>
      have value : UInt16.ofNat (beNat [first, second]) = msgType := by
        have slice : sliceAt (first :: second :: rest) 0 2 = .ok [first, second] := by
          rw [sliceAt, if_pos (by simp)]
          rfl
        rw [readU16, slice] at isType
        exact Except.ok.inj isType
      have small : first.toNat * 256 + second.toNat < 65536 := by
        have := first.toNat_lt
        have := second.toNat_lt
        omega
      have high : msgType.toNat / 256 = first.toNat := by
        rw [← value, UInt16.toNat_ofNat']
        simp only [beNat, List.foldl_cons, List.foldl_nil, Nat.zero_mul, Nat.zero_add]
        rw [Nat.mod_eq_of_lt small]
        have := second.toNat_lt
        omega
      rw [high, UInt8.ofNat_toNat]
      rfl

/-! ## Walks -/

/-- Every attribute header that the walk comes to, up to the claimed end, lies
inside the message, and what is read of the attribute can be read. -/
def AttributesReadable (data : Bytes) (ends : Nat -> AttributeHeader -> Bool)
    (readable : Nat -> AttributeHeader -> Prop) : Prop :=
  forall claimed, readU16 data 2 = .ok claimed ->
    forall offset,
      Visits attributeFormat data (20 + claimed.toNat) ends 20 offset ->
      offset + 4 ≤ 20 + claimed.toNat ->
        offset + 4 ≤ data.length ∧
        forall header, readAttributeHeader data offset = .ok header -> readable offset header

/-- The walk over the attributes of a response returns exactly on readable attributes. -/
theorem walkAttributes_returns_iff {State Result : Type} {data : Bytes}
    {body : Nat -> AttributeHeader -> State -> Checked (Round State Result)}
    (readable : Nat -> AttributeHeader -> Prop) (ends : Nat -> AttributeHeader -> Bool)
    (returns : forall offset header state, readAttributeHeader data offset = .ok header ->
      ((exists round, body offset header state = .ok round) <-> readable offset header))
    (goesOn : forall offset header state round, body offset header state = .ok round ->
      round.isDone = ends offset header)
    {claimed : UInt16} (isClaimed : readU16 data 2 = .ok claimed) (state : State) :
    (exists result, walkAttributes data claimed body state = .ok result) <->
      AttributesReadable data ends readable := by
  have enough : 20 + claimed.toNat ≤ 20 + (20 + claimed.toNat) := Nat.le_add_left _ _
  refine (walk_returns_iff (fun _ => True) readable ends
    (fun offset header state _ => returns offset header state)
    (fun offset header state round _ isRound =>
      ⟨goesOn offset header state round isRound, fun _ _ => trivial⟩) enough trivial).trans ?_
  constructor
  · intro all other isOther offset visits inside
    rw [isClaimed] at isOther
    cases isOther
    rcases all offset visits inside with ⟨header, isHeader, isReadable⟩
    refine ⟨readAttributeHeader_returns.mp ⟨header, isHeader⟩, ?_⟩
    intro other isOther
    have same := isHeader.symm.trans isOther
    cases same
    exact isReadable
  · intro all offset visits inside
    rcases all claimed isClaimed offset visits inside with ⟨within, isReadable⟩
    rcases readAttributeHeader_returns.mpr within with ⟨header, isHeader⟩
    exact ⟨header, isHeader, isReadable header isHeader⟩

/-! ## Binding responses -/

/-- A header of this type, with the magic cookie, under the transaction id. -/
structure HasHeader (data : Bytes) (msgType : UInt16) (transactionId : TransactionId) : Prop where
  long : 20 ≤ data.length
  isType : readU16 data 0 = .ok msgType
  cookie : readU32 data 4 = .ok STUN_MAGIC_COOKIE
  id : sliceRange data 8 20 = .ok transactionId.bytes

/-- The walk of `parse_binding_response` ends at the first XOR-MAPPED-ADDRESS. -/
def endsBinding (_ : Nat) (header : AttributeHeader) : Bool :=
  header.attrType = ATTR_XOR_MAPPED_ADDRESS

theorem bindingRound_returns {data : Bytes} (long : 20 ≤ data.length) (offset : Nat)
    (header : AttributeHeader) (state : Unit) :
    exists round, bindingRound data offset header state = .ok round ∧
      round.isDone = endsBinding offset header := by
  unfold bindingRound endsBinding
  by_cases mapped : header.attrType = ATTR_XOR_MAPPED_ADDRESS
  · rw [if_pos mapped, decide_eq_true mapped]
    dsimp only
    split_ifs with family
    · rcases sliceRange_returns.mpr ⟨show 8 ≤ 20 by omega, long⟩ with ⟨id, isId⟩
      have idLong : 12 ≤ id.length := by
        rw [sliceRange, if_pos (by omega)] at isId
        rw [sliceAt_length isId]
      rcases parseXorAddress_returns data (offset + 4)
        header.attrLen.toNat idLong with ⟨outcome, isOutcome⟩
      rw [isId, Checked.ok_bind, isOutcome, Checked.ok_bind]
      cases outcome with
      | error error => exact ⟨_, rfl, rfl⟩
      | ok address => exact ⟨_, rfl, rfl⟩
    · exact ⟨_, rfl, rfl⟩
  · rw [if_neg mapped, decide_eq_false mapped]
    exact ⟨_, rfl, rfl⟩

/-- `parse_binding_response` returns: where the header is accepted, every
attribute header up to the first XOR-MAPPED-ADDRESS lies inside. -/
def BindingReadable (data : Bytes) (transactionId : TransactionId) : Prop :=
  HasHeader data STUN_BINDING_SUCCESS transactionId ->
    AttributesReadable data endsBinding fun _ _ => True

/-- Behind an accepted header the walk decides. -/
theorem parseBindingResponse_accepted {data : Bytes} {transactionId : TransactionId}
    (accepted : HasHeader data STUN_BINDING_SUCCESS transactionId) {claimed : UInt16}
    (isClaimed : readU16 data 2 = .ok claimed) :
    parseBindingResponse data transactionId = (do
      match ← walkAttributes data claimed (bindingRound data) () with
      | .done result => pure result
      | .next _ => pure (.error .xorMappedAddressNotFound)) := by
  have classBits : ¬ (UInt8.ofNat (STUN_BINDING_SUCCESS.toNat / 256) &&& 0xC0 ≠ 0) := by decide
  rw [parseBindingResponse, if_neg (Nat.not_lt.mpr accepted.long), byteAt_of_type accepted.isType,
    Checked.ok_bind, if_neg classBits, accepted.isType, Checked.ok_bind,
    if_neg (not_not.mpr rfl), accepted.cookie, Checked.ok_bind, if_neg (not_not.mpr rfl),
    accepted.id, Checked.ok_bind, if_neg (not_not.mpr rfl), isClaimed]
  rfl

/-- A header of full length is read without a panic. -/
theorem header_reads {data : Bytes} (long : 20 ≤ data.length) :
    exists first msgType cookie id, byteAt data 0 = .ok first ∧ readU16 data 0 = .ok msgType ∧
      readU32 data 4 = .ok cookie ∧ sliceRange data 8 20 = .ok id := by
  rcases byteAt_returns.mpr (show 0 < data.length by omega) with ⟨first, isFirst⟩
  rcases readU16_returns.mpr (show 0 + 2 ≤ data.length by omega) with ⟨msgType, isType⟩
  rcases readU32_returns.mpr (show 4 + 4 ≤ data.length by omega) with ⟨cookie, isCookie⟩
  rcases sliceRange_returns.mpr ⟨show 8 ≤ 20 by omega, long⟩ with ⟨id, isId⟩
  exact ⟨first, msgType, cookie, id, isFirst, isType, isCookie, isId⟩

theorem parseBindingResponse_refused {data : Bytes} {transactionId : TransactionId}
    (refused : ¬ HasHeader data STUN_BINDING_SUCCESS transactionId) :
    exists error, parseBindingResponse data transactionId = .ok (.error error) ∧
      error.fromServer = false := by
  rw [parseBindingResponse]
  by_cases short : data.length < 20
  · rw [if_pos short]
    exact ⟨_, rfl, rfl⟩
  have long : 20 ≤ data.length := Nat.le_of_not_lt short
  rcases header_reads long with ⟨first, msgType, cookie, id, isFirst, isType, isCookie, isId⟩
  rw [if_neg short, isFirst, isType, isCookie, isId]
  simp only [Checked.ok_bind]
  split_ifs with classBits otherType otherCookie otherId
  · exact ⟨_, rfl, rfl⟩
  · exact ⟨_, rfl, rfl⟩
  · exact ⟨_, rfl, rfl⟩
  · exact ⟨_, rfl, rfl⟩
  · rw [not_not] at otherType otherCookie otherId
    subst otherType otherCookie otherId
    exact absurd ⟨long, isType, isCookie, isId⟩ refused

theorem parseBindingResponse_returns_iff (data : Bytes) (transactionId : TransactionId) :
    (exists result, parseBindingResponse data transactionId = .ok result) <->
      BindingReadable data transactionId := by
  by_cases accepted : HasHeader data STUN_BINDING_SUCCESS transactionId
  · have long := accepted.long
    rcases readU16_returns.mpr (show 2 + 2 ≤ data.length by omega) with ⟨claimed, isClaimed⟩
    have walked := walkAttributes_returns_iff (fun _ _ => True) endsBinding
      (fun offset header state _ =>
        iff_of_true ((bindingRound_returns long offset header state).imp fun _ both => both.1)
          trivial)
      (fun offset header state round isRound => by
        rcases bindingRound_returns long offset header state with ⟨other, isOther, ended⟩
        rw [isRound] at isOther
        cases isOther
        exact ended) isClaimed ()
    rw [parseBindingResponse_accepted accepted isClaimed, BindingReadable, forall_prop_of_true accepted,
      ← walked]
    refine Checked.bind_returns_iff ?_
    intro round
    cases round with
    | next state => exact ⟨_, rfl⟩
    | done result => exact ⟨_, rfl⟩
  · rcases parseBindingResponse_refused accepted with ⟨error, isError, _⟩
    exact iff_of_true ⟨_, isError⟩ fun contrary => absurd contrary accepted

/-! ## Allocate responses -/

/-- The error branch ends at the first ERROR-CODE with a full value. -/
def endsAllocateError (_ : Nat) (header : AttributeHeader) : Bool :=
  header.attrType = ATTR_ERROR_CODE ∧ 4 ≤ header.attrLen

/-- The four bytes of the error class and number lie inside. -/
def AllocateErrorInside (data : Bytes) (offset : Nat) (header : AttributeHeader) : Prop :=
  endsAllocateError offset header = true -> offset + 8 ≤ data.length

theorem allocateErrorRound_isDone {data : Bytes} {offset : Nat} {header : AttributeHeader}
    {state : Unit} {round : Round Unit StunError}
    (isRound : allocateErrorRound data offset header state = .ok round) :
    round.isDone = endsAllocateError offset header := by
  unfold allocateErrorRound at isRound
  unfold endsAllocateError
  by_cases isError : header.attrType = ATTR_ERROR_CODE ∧ 4 ≤ header.attrLen
  · rw [if_pos isError] at isRound
    rw [decide_eq_true isError]
    rcases Checked.bind_eq_ok.mp isRound with ⟨classByte, _, rest⟩
    rcases Checked.bind_eq_ok.mp rest with ⟨numberByte, _, rest⟩
    dsimp only at rest
    split_ifs at rest
    · rcases Checked.bind_eq_ok.mp rest with ⟨reason, _, rest⟩
      cases rest
      rfl
    · cases rest
      rfl
  · rw [if_neg isError] at isRound
    rw [decide_eq_false isError]
    cases isRound
    rfl

theorem allocateErrorRound_returns (data : Bytes) (offset : Nat) (header : AttributeHeader)
    (state : Unit) :
    (exists round, allocateErrorRound data offset header state = .ok round) <->
      AllocateErrorInside data offset header := by
  unfold allocateErrorRound AllocateErrorInside endsAllocateError
  by_cases isError : header.attrType = ATTR_ERROR_CODE ∧ 4 ≤ header.attrLen
  · rw [if_pos isError, decide_eq_true isError, forall_prop_of_true rfl]
    constructor
    · rintro ⟨round, isRound⟩
      rcases Checked.bind_eq_ok.mp isRound with ⟨classByte, _, rest⟩
      rcases Checked.bind_eq_ok.mp rest with ⟨numberByte, isNumber, _⟩
      have inside := byteAt_returns.mp ⟨numberByte, isNumber⟩
      omega
    · intro inside
      have filled : 4 ≤ header.attrLen.toNat := UInt16.le_iff_toNat_le.mp isError.2
      rcases byteAt_returns.mpr
        (show offset + 4 + 2 < data.length by omega) with ⟨classByte, isClass⟩
      rcases byteAt_returns.mpr
        (show offset + 4 + 3 < data.length by omega) with ⟨numberByte, isNumber⟩
      simp only [isClass, isNumber, Checked.ok_bind]
      split_ifs with whole
      · rcases sliceRange_returns.mpr
          ⟨show offset + 4 + 4 ≤ offset + 4 + header.attrLen.toNat by omega, whole⟩ with
          ⟨reason, isReason⟩
        rw [isReason]
        exact ⟨_, rfl⟩
      · exact ⟨_, rfl⟩
  · rw [if_neg isError, decide_eq_false isError]
    exact iff_of_true ⟨_, rfl⟩ nofun

/-- The success branch reads every attribute. -/
def endsAllocate (_ : Nat) (_ : AttributeHeader) : Bool := false

theorem allocateRound_returns {data : Bytes} (long : 20 ≤ data.length) (offset : Nat)
    (header : AttributeHeader) (result : TurnResult) :
    exists round, allocateRound data offset header result = .ok round := by
  rcases sliceRange_returns.mpr ⟨show 8 ≤ 20 by omega, long⟩ with ⟨id, isId⟩
  have idLong : 12 ≤ id.length := by
    rw [sliceRange, if_pos (by omega)] at isId
    rw [sliceAt_length isId]
  rcases parseXorAddress_returns data (offset + 4)
    header.attrLen.toNat idLong with ⟨outcome, isOutcome⟩
  unfold allocateRound
  rw [isId]
  simp only [Checked.ok_bind, isOutcome]
  split_ifs
  · cases outcome with
    | error error => exact ⟨_, rfl⟩
    | ok address => exact ⟨_, rfl⟩
  · cases outcome with
    | error error => exact ⟨_, rfl⟩
    | ok address => exact ⟨_, rfl⟩
  · exact ⟨_, rfl⟩

/-- `parse_allocate_response` returns: in an error response every attribute
header up to the first full ERROR-CODE lies inside, and so do its class and
number; in an accepted success response every attribute header does. -/
def AllocateReadable (data : Bytes) (transactionId : TransactionId) : Prop :=
  (20 ≤ data.length -> readU16 data 0 = .ok STUN_ALLOCATE_ERROR ->
    AttributesReadable data endsAllocateError (AllocateErrorInside data)) ∧
  (HasHeader data STUN_ALLOCATE_SUCCESS transactionId ->
    AttributesReadable data endsAllocate fun _ _ => True)

theorem parseAllocateResponse_error {data : Bytes} (transactionId : TransactionId)
    (long : 20 ≤ data.length) (isType : readU16 data 0 = .ok STUN_ALLOCATE_ERROR)
    {claimed : UInt16} (isClaimed : readU16 data 2 = .ok claimed) :
    parseAllocateResponse data transactionId = (do
      match ← walkAttributes data claimed (allocateErrorRound data) () with
      | .done error => pure (.error error)
      | .next _ => pure (.error .allocateErrorUnknown)) := by
  have classBits : ¬ (UInt8.ofNat (STUN_ALLOCATE_ERROR.toNat / 256) &&& 0xC0 ≠ 0) := by decide
  rw [parseAllocateResponse, if_neg (Nat.not_lt.mpr long), byteAt_of_type isType,
    Checked.ok_bind, if_neg classBits, isType, Checked.ok_bind, if_pos rfl, isClaimed]
  rfl

theorem parseAllocateResponse_accepted {data : Bytes} {transactionId : TransactionId}
    (accepted : HasHeader data STUN_ALLOCATE_SUCCESS transactionId) {claimed : UInt16}
    (isClaimed : readU16 data 2 = .ok claimed) :
    parseAllocateResponse data transactionId = (do
      match ← walkAttributes data claimed (allocateRound data) {} with
      | .next result =>
          if result.relayIp = "" then pure (.error .xorRelayedAddressNotFound)
          else pure (.ok result)
      | .done impossible => nomatch impossible) := by
  have classBits : ¬ (UInt8.ofNat (STUN_ALLOCATE_SUCCESS.toNat / 256) &&& 0xC0 ≠ 0) := by decide
  rw [parseAllocateResponse, if_neg (Nat.not_lt.mpr accepted.long), byteAt_of_type accepted.isType,
    Checked.ok_bind, if_neg classBits, accepted.isType, Checked.ok_bind, if_neg (by decide),
    if_neg (not_not.mpr rfl), accepted.cookie, Checked.ok_bind, if_neg (not_not.mpr rfl),
    accepted.id, Checked.ok_bind, if_neg (not_not.mpr rfl), isClaimed]
  rfl

theorem parseAllocateResponse_refused {data : Bytes} {transactionId : TransactionId}
    (noError : ¬ (20 ≤ data.length ∧ readU16 data 0 = .ok STUN_ALLOCATE_ERROR))
    (refused : ¬ HasHeader data STUN_ALLOCATE_SUCCESS transactionId) :
    exists error, parseAllocateResponse data transactionId = .ok (.error error) ∧
      error.fromServer = false := by
  rw [parseAllocateResponse]
  by_cases short : data.length < 20
  · rw [if_pos short]
    exact ⟨_, rfl, rfl⟩
  have long : 20 ≤ data.length := Nat.le_of_not_lt short
  rcases header_reads long with ⟨first, msgType, cookie, id, isFirst, isType, isCookie, isId⟩
  rw [if_neg short, isFirst, isType, isCookie, isId]
  simp only [Checked.ok_bind]
  split_ifs with classBits isError otherType otherCookie otherId
  · exact ⟨_, rfl, rfl⟩
  · subst isError
    exact absurd ⟨long, isType⟩ noError
  · exact ⟨_, rfl, rfl⟩
  · exact ⟨_, rfl, rfl⟩
  · exact ⟨_, rfl, rfl⟩
  · rw [not_not] at otherType otherCookie otherId
    subst otherType otherCookie otherId
    exact absurd ⟨long, isType, isCookie, isId⟩ refused

theorem parseAllocateResponse_returns_iff (data : Bytes) (transactionId : TransactionId) :
    (exists result, parseAllocateResponse data transactionId = .ok result) <->
      AllocateReadable data transactionId := by
  by_cases isError : 20 ≤ data.length ∧ readU16 data 0 = .ok STUN_ALLOCATE_ERROR
  · rcases isError with ⟨long, isType⟩
    have noSuccess : ¬ HasHeader data STUN_ALLOCATE_SUCCESS transactionId := by
      intro contrary
      have same := contrary.isType.symm.trans isType
      cases same
    rcases readU16_returns.mpr (show 2 + 2 ≤ data.length by omega) with ⟨claimed, isClaimed⟩
    have walked := walkAttributes_returns_iff (AllocateErrorInside data) endsAllocateError
      (fun offset header state _ => allocateErrorRound_returns data offset header state)
      (fun _ _ _ _ isRound => allocateErrorRound_isDone isRound) isClaimed ()
    rw [parseAllocateResponse_error transactionId long isType isClaimed, AllocateReadable,
      forall_prop_of_true long, forall_prop_of_true isType, ← walked,
      forall_prop_of_false noSuccess, and_true]
    refine Checked.bind_returns_iff ?_
    intro round
    cases round with
    | next state => exact ⟨_, rfl⟩
    | done error => exact ⟨_, rfl⟩
  · by_cases accepted : HasHeader data STUN_ALLOCATE_SUCCESS transactionId
    · have long := accepted.long
      rcases readU16_returns.mpr (show 2 + 2 ≤ data.length by omega) with ⟨claimed, isClaimed⟩
      have walked := walkAttributes_returns_iff (fun _ _ => True) endsAllocate
        (fun offset header result _ => iff_of_true (allocateRound_returns long offset header result)
          trivial)
        (fun offset header result (round : Round TurnResult Empty) _ => by
          cases round with
          | next state => rfl
          | done impossible => cases impossible) isClaimed {}
      have noError : 20 ≤ data.length -> readU16 data 0 = .ok STUN_ALLOCATE_ERROR ->
          AttributesReadable data endsAllocateError (AllocateErrorInside data) :=
        fun isLong isType => absurd ⟨isLong, isType⟩ isError
      rw [parseAllocateResponse_accepted accepted isClaimed, AllocateReadable,
        forall_prop_of_true accepted, ← walked]
      constructor
      · rintro ⟨result, returned⟩
        rcases Checked.bind_eq_ok.mp returned with ⟨round, isRound, _⟩
        exact ⟨noError, round, isRound⟩
      · rintro ⟨_, round, isRound⟩
        rw [isRound, Checked.ok_bind]
        cases round with
        | next result =>
            dsimp only
            split_ifs
            · exact ⟨_, rfl⟩
            · exact ⟨_, rfl⟩
        | done impossible => cases impossible
    · rcases parseAllocateResponse_refused isError accepted with ⟨error, returned, _⟩
      refine iff_of_true ⟨_, returned⟩ ⟨?_, ?_⟩
      · intro long isType
        exact absurd ⟨long, isType⟩ isError
      · intro contrary
        exact absurd contrary accepted

/-! ## TURN errors -/

/-- The walk of `parse_error_code` ends at the first ERROR-CODE whose first
four bytes lie inside. -/
def endsErrorCode (response : Bytes) (offset : Nat) (header : AttributeHeader) : Bool :=
  header.attrType = ATTR_ERROR_CODE ∧ offset + 8 ≤ response.length

/-- The code that is summed up fits 16 bits, where the build checks it. -/
def ErrorCodeFits (overflowChecks : Bool) (response : Bytes) (offset : Nat)
    (header : AttributeHeader) : Prop :=
  endsErrorCode response offset header = true -> overflowChecks = true ->
    forall classByte number, byteAt response (offset + 4) = .ok classByte ->
      readU16 response (offset + 6) = .ok number ->
      (classByte.toNat % 8) * 100 + number.toNat < 65536

theorem addU16_returns {overflowChecks : Bool} {left right : UInt16} :
    (exists sum, addU16 overflowChecks left right = .ok sum) <->
      (overflowChecks = true -> left.toNat + right.toNat < 65536) := by
  unfold addU16
  split_ifs with overflow
  · constructor
    · rintro ⟨sum, impossible⟩
      cases impossible
    · intro fits
      have := fits overflow.1
      omega
  · refine iff_of_true ⟨_, rfl⟩ ?_
    intro checked
    by_contra large
    exact overflow ⟨checked, Nat.le_of_not_lt large⟩

/-- The error class times 100, without a loss. -/
theorem errorClass_toNat (classByte : UInt8) :
    ((classByte &&& 0x07).toUInt16 * 100).toNat = classByte.toNat % 8 * 100 := by
  have low : (classByte &&& 0x07).toNat = classByte.toNat % 8 := by
    rw [UInt8.toNat_and]
    exact Nat.and_two_pow_sub_one_eq_mod classByte.toNat 3
  have := Nat.mod_lt classByte.toNat (show 0 < 8 by omega)
  rw [UInt16.toNat_mul, UInt8.toNat_toUInt16, low,
    Nat.mod_eq_of_lt (show classByte.toNat % 8 * (100 : UInt16).toNat < 2 ^ 16 by
      simp only [UInt16.toNat_ofNat]; omega)]
  rfl

theorem errorCodeRound_isDone {overflowChecks : Bool} {response : Bytes} {offset : Nat}
    {header : AttributeHeader} {state : Unit} {round : Round Unit String}
    (isRound : errorCodeRound overflowChecks response offset header state = .ok round) :
    round.isDone = endsErrorCode response offset header := by
  unfold errorCodeRound at isRound
  unfold endsErrorCode
  by_cases isError : header.attrType = ATTR_ERROR_CODE ∧ offset + 8 ≤ response.length
  · rw [if_pos isError] at isRound
    rw [decide_eq_true isError]
    rcases Checked.bind_eq_ok.mp isRound with ⟨classByte, _, rest⟩
    rcases Checked.bind_eq_ok.mp rest with ⟨number, _, rest⟩
    rcases Checked.bind_eq_ok.mp rest with ⟨code, _, rest⟩
    rcases Checked.bind_eq_ok.mp rest with ⟨reason, _, rest⟩
    cases rest
    rfl
  · rw [if_neg isError] at isRound
    rw [decide_eq_false isError]
    cases isRound
    rfl

theorem errorCodeRound_returns (overflowChecks : Bool) (response : Bytes) (offset : Nat)
    (header : AttributeHeader) (state : Unit) :
    (exists round, errorCodeRound overflowChecks response offset header state = .ok round) <->
      ErrorCodeFits overflowChecks response offset header := by
  unfold errorCodeRound ErrorCodeFits endsErrorCode
  by_cases isError : header.attrType = ATTR_ERROR_CODE ∧ offset + 8 ≤ response.length
  · rcases byteAt_returns.mpr
      (show offset + 4 < response.length by omega) with ⟨classByte, isClass⟩
    rcases readU16_returns.mpr
      (show offset + 6 + 2 ≤ response.length by omega) with ⟨number, isNumber⟩
    rw [if_pos isError, decide_eq_true isError, forall_prop_of_true rfl, isClass, isNumber]
    simp only [Checked.ok_bind]
    constructor
    · rintro ⟨round, isRound⟩ checked other otherNumber same sameNumber
      rcases Checked.bind_eq_ok.mp isRound with ⟨code, isCode, _⟩
      cases same
      cases sameNumber
      rw [← errorClass_toNat]
      exact addU16_returns.mp ⟨code, isCode⟩ checked
    · intro fits
      have sums : exists code,
          addU16 overflowChecks ((classByte &&& 0x07).toUInt16 * 100) number = .ok code := by
        refine addU16_returns.mpr ?_
        intro checked
        rw [errorClass_toNat]
        exact fits checked _ _ rfl rfl
      rcases sums with ⟨code, isCode⟩
      rcases sliceRange_returns.mpr
        ⟨show offset + 8 ≤ min (offset + 8 + (header.attrLen.toNat - 4)) response.length by omega,
          Nat.min_le_right _ _⟩ with ⟨reason, isReason⟩
      rw [isCode, Checked.ok_bind, isReason]
      exact ⟨_, rfl⟩
  · rw [if_neg isError, decide_eq_false isError]
    exact iff_of_true ⟨_, rfl⟩ nofun

/-- `parse_error_code` returns: every attribute header up to the first
ERROR-CODE whose value begins inside lies inside, and in a build with overflow
checks the code of that attribute fits 16 bits. -/
def ErrorCodeReadable (overflowChecks : Bool) (response : Bytes) : Prop :=
  20 ≤ response.length -> AttributesReadable response (endsErrorCode response)
    (ErrorCodeFits overflowChecks response)

theorem parseErrorCode_walked (overflowChecks : Bool) {response : Bytes}
    (long : 20 ≤ response.length) {claimed : UInt16}
    (isClaimed : readU16 response 2 = .ok claimed) :
    parseErrorCode overflowChecks response = (do
      match ← walkAttributes response claimed (errorCodeRound overflowChecks response) () with
      | .done text => pure (some text)
      | .next _ => pure none) := by
  rw [parseErrorCode, if_neg (Nat.not_lt.mpr long), isClaimed]
  rfl

theorem parseErrorCode_returns_iff (overflowChecks : Bool) (response : Bytes) :
    (exists result, parseErrorCode overflowChecks response = .ok result) <->
      ErrorCodeReadable overflowChecks response := by
  by_cases long : 20 ≤ response.length
  · rcases readU16_returns.mpr (show 2 + 2 ≤ response.length by omega) with ⟨claimed, isClaimed⟩
    have walked := walkAttributes_returns_iff (ErrorCodeFits overflowChecks response)
      (endsErrorCode response)
      (fun offset header state _ =>
        errorCodeRound_returns overflowChecks response offset header state)
      (fun _ _ _ _ isRound => errorCodeRound_isDone isRound) isClaimed ()
    rw [parseErrorCode_walked overflowChecks long isClaimed, ErrorCodeReadable,
      forall_prop_of_true long, ← walked]
    refine Checked.bind_returns_iff ?_
    intro round
    cases round with
    | next state => exact ⟨_, rfl⟩
    | done text => exact ⟨_, rfl⟩
  · rw [parseErrorCode, if_pos (Nat.lt_of_not_le long)]
    exact iff_of_true ⟨_, rfl⟩ fun contrary => absurd contrary long

/-! ## All three parsers -/

/-- The response parsers return exactly on responses whose walk stays inside. -/
theorem responses_return_iff (overflowChecks : Bool) (data : Bytes)
    (transactionId : TransactionId) :
    ((exists result, parseBindingResponse data transactionId = .ok result) <->
      BindingReadable data transactionId) ∧
    ((exists result, parseAllocateResponse data transactionId = .ok result) <->
      AllocateReadable data transactionId) ∧
    ((exists result, parseErrorCode overflowChecks data = .ok result) <->
      ErrorCodeReadable overflowChecks data) :=
  ⟨parseBindingResponse_returns_iff data transactionId,
    parseAllocateResponse_returns_iff data transactionId,
    parseErrorCode_returns_iff overflowChecks data⟩

/-- A Binding success response of 20 bytes whose header claims 8 bytes of attributes. -/
def lyingResponse : Bytes := [0x01, 0x01, 0x00, 0x08] ++ cookieBytes ++ zeros 12

/-- The walk believes the header and reads behind the buffer. -/
theorem lying_length_panics :
    ¬ forall (overflowChecks : Bool) (data : Bytes) (transactionId : TransactionId),
      (exists result, parseBindingResponse data transactionId = .ok result) ∧
      (exists result, parseAllocateResponse data transactionId = .ok result) ∧
      (exists result, parseErrorCode overflowChecks data = .ok result) := by
  intro claim
  rcases claim false lyingResponse ⟨zeros 12, zeros_length 12⟩ with ⟨⟨result, returned⟩, _⟩
  have panics : parseBindingResponse lyingResponse ⟨zeros 12, zeros_length 12⟩ =
      .error .indexOutOfBounds := by
    decide +kernel
  rw [panics] at returned
  cases returned

end P2pSdk
