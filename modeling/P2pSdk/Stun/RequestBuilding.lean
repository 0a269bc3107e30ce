import P2pSdk.Ice.StunRoundTrip
import P2pSdk.Stun.ResponseDecoding

namespace P2pSdk

open Foundation

/-!
# Building a request from its attributes

The three builders do the same with different attributes: sum up the padded
sizes, truncate the sum to the 16 bits of the length field, allocate that much
behind the header, and write one attribute after another.  Nothing is lost as
long as the sum fits.  When it does not, the buffer is too small for what is
written into it, and a write ends outside.

What a reader finds in a finished request is stated with the attribute walk of
the parsers.
-/

/-! ## Checked writes that stay inside -/

namespace StunMessage

/-- A checked attribute write returns exactly when the value ends inside. -/
theorem writeAttribute_eq_ok {buf value after : Bytes} {offset : Nat} {attrType : UInt16} :
    writeAttribute buf offset attrType value = .ok after <->
      offset + 4 + value.length ≤ buf.length ∧
        after = P2pSdk.writeAttribute buf offset attrType value := by
  have typeLen := u16Bytes_length attrType
  have lenLen := u16Bytes_length (UInt16.ofNat value.length)
  rw [writeAttribute]
  constructor
  · intro written
    rcases Checked.bind_eq_ok.mp written with ⟨typed, isTyped, written⟩
    rcases Checked.bind_eq_ok.mp written with ⟨sized, isSized, written⟩
    rcases storeAt_eq_ok.mp isTyped with ⟨typeInside, rfl⟩
    rcases storeAt_eq_ok.mp isSized with ⟨lenInside, rfl⟩
    rcases storeAt_eq_ok.mp written with ⟨valueInside, rfl⟩
    rw [writeAt_length lenInside, writeAt_length typeInside] at valueInside
    exact ⟨valueInside, rfl⟩
  · rintro ⟨inside, rfl⟩
    have typeInside : offset + (u16Bytes attrType).length ≤ buf.length := by omega
    have lenInside : offset + 2 + (u16Bytes (UInt16.ofNat value.length)).length ≤
        (writeAt buf offset (u16Bytes attrType)).length := by
      rw [writeAt_length typeInside]
      omega
    refine Checked.bind_eq_ok.mpr ⟨_, storeAt_eq_ok.mpr ⟨typeInside, rfl⟩, ?_⟩
    refine Checked.bind_eq_ok.mpr ⟨_, storeAt_eq_ok.mpr ⟨lenInside, rfl⟩, ?_⟩
    refine storeAt_eq_ok.mpr ⟨?_, rfl⟩
    rw [writeAt_length lenInside, writeAt_length typeInside]
    exact inside

/-- The header is always inside. -/
theorem writeStunHeader_zeros (msgType : UInt16) (attrsLen : Nat) (transactionId : TransactionId)
    (room : Nat) :
    writeStunHeader (zeros (20 + room)) msgType (UInt16.ofNat attrsLen) transactionId =
      .ok (stunHeader msgType attrsLen transactionId.bytes ++ zeros room) := by
  have written := writeHeader_zeros msgType attrsLen transactionId room
  have idLen := transactionId.length_eq
  have lenLen := u16Bytes_length (UInt16.ofNat attrsLen)
  have typeInside : 0 + (u16Bytes msgType).length ≤ (zeros (20 + room)).length := by
    rw [u16Bytes_length, zeros_length]
    omega
  have lenInside : 2 + (u16Bytes (UInt16.ofNat attrsLen)).length ≤
      (writeAt (zeros (20 + room)) 0 (u16Bytes msgType)).length := by
    rw [writeAt_length typeInside, u16Bytes_length, zeros_length]
    omega
  have cookieInside : 4 + (u32Bytes STUN_MAGIC_COOKIE).length ≤
      (writeAt (writeAt (zeros (20 + room)) 0 (u16Bytes msgType)) 2
        (u16Bytes (UInt16.ofNat attrsLen))).length := by
    rw [writeAt_length lenInside, writeAt_length typeInside, u32Bytes_length, zeros_length]
    omega
  rw [writeStunHeader]
  refine Checked.bind_eq_ok.mpr ⟨_, storeAt_eq_ok.mpr ⟨typeInside, rfl⟩, ?_⟩
  refine Checked.bind_eq_ok.mpr ⟨_, storeAt_eq_ok.mpr ⟨lenInside, rfl⟩, ?_⟩
  refine Checked.bind_eq_ok.mpr ⟨_, storeAt_eq_ok.mpr ⟨cookieInside, rfl⟩, ?_⟩
  refine storeAt_eq_ok.mpr ⟨?_, written.symm⟩
  rw [writeAt_length cookieInside, writeAt_length lenInside, writeAt_length typeInside, idLen,
    zeros_length]
  omega

end StunMessage

/-! ## One attribute after another -/

/-- Type and value of an attribute that a builder writes. -/
abbrev RequestField := UInt16 × Bytes

namespace RequestField

/-- The space that an attribute takes with its header and its padding. -/
def size (field : RequestField) : Nat := padTo4 (4 + field.2.length)

def write (written : Bytes × Nat) (field : RequestField) : Checked (Bytes × Nat) := do
  let buf ← StunMessage.writeAttribute written.1 written.2 field.1 field.2
  pure (buf, written.2 + size field)

/-- The space of all attributes. -/
def total (fields : List RequestField) : Nat := (fields.map size).sum

theorem total_cons (field : RequestField) (fields : List RequestField) :
    total (field :: fields) = field.size + total fields := by
  rw [total, List.map_cons, List.sum_cons, total]

theorem total_aligned (fields : List RequestField) : 4 ∣ total fields := by
  induction fields with
  | nil => exact Nat.dvd_zero 4
  | cons field fields ih =>
      rw [total_cons, size, padTo4]
      omega

theorem write_eq_ok {buf : Bytes} {offset : Nat} {field : RequestField} {after : Bytes × Nat} :
    field.write (buf, offset) = .ok after <->
      offset + 4 + field.2.length ≤ buf.length ∧
        after = (P2pSdk.writeAttribute buf offset field.1 field.2, offset + field.size) := by
  rw [write]
  constructor
  · intro written
    rcases Checked.bind_eq_ok.mp written with ⟨data, isData, rest⟩
    rcases StunMessage.writeAttribute_eq_ok.mp isData with ⟨inside, rfl⟩
    cases rest
    exact ⟨inside, rfl⟩
  · rintro ⟨inside, rfl⟩
    exact Checked.bind_eq_ok.mpr ⟨_, StunMessage.writeAttribute_eq_ok.mpr ⟨inside, rfl⟩, rfl⟩

theorem writeAttribute_length {buf value : Bytes} {offset : Nat} (attrType : UInt16)
    (inside : offset + 4 + value.length ≤ buf.length) :
    (P2pSdk.writeAttribute buf offset attrType value).length = buf.length := by
  have typeInside : offset + (u16Bytes attrType).length ≤ buf.length := by
    rw [u16Bytes_length]
    omega
  have lenInside : offset + 2 + (u16Bytes (UInt16.ofNat value.length)).length ≤
      (writeAt buf offset (u16Bytes attrType)).length := by
    rw [writeAt_length typeInside, u16Bytes_length]
    omega
  have valueInside : offset + 4 + value.length ≤
      (writeAttributeHeader buf offset attrType value.length).length := by
    rw [writeAttributeHeader, writeU16, writeU16, writeAt_length lenInside,
      writeAt_length typeInside]
    exact inside
  rw [P2pSdk.writeAttribute, writeAt_length valueInside, writeAttributeHeader, writeU16, writeU16,
    writeAt_length lenInside, writeAt_length typeInside]

/-- Attributes that have been written fit into the buffer, their padding
included, since the end of the buffer is aligned. -/
theorem total_of_written {fields : List RequestField} {buf : Bytes} {offset : Nat}
    (bufAligned : 4 ∣ buf.length) (aligned : 4 ∣ offset) (here : offset ≤ buf.length)
    {after : Bytes × Nat} (written : fields.foldlM write (buf, offset) = .ok after) :
    offset + total fields ≤ buf.length := by
  induction fields generalizing buf offset with
  | nil => exact here
  | cons field fields ih =>
      rw [List.foldlM_cons] at written
      rcases Checked.bind_eq_ok.mp written with ⟨next, isNext, rest⟩
      rcases write_eq_ok.mp isNext with ⟨inside, rfl⟩
      have same := writeAttribute_length field.1 inside
      have bound : offset + field.size ≤ buf.length := by
        rw [size, padTo4]
        omega
      have fits := ih (by rw [same]; exact bufAligned) (by rw [size, padTo4]; omega)
        (by rw [same]; exact bound) rest
      rw [total_cons]
      omega

/-- Attributes written into a zeroed buffer of their size are the serialized ones. -/
theorem write_zeros {fields : List RequestField} (fits : total fields < 65536)
    (done : Bytes) {offset : Nat} (atEnd : offset = done.length) :
    exists attrs : List WireAttribute,
      fields.foldlM write (done ++ zeros (total fields), offset) =
        .ok (done ++ serialize attrs, offset + total fields) ∧
      (serialize attrs).length = total fields ∧
      attrs.map (fun attr => (attr.attrType, attr.value)) = fields := by
  induction fields generalizing done offset with
  | nil =>
      refine ⟨[], ?_, rfl, rfl⟩
      rfl
  | cons field fields ih =>
      have split := total_cons field fields
      have isSize : field.size = padTo4 (4 + field.2.length) := rfl
      have grows := padTo4_ge (4 + field.2.length)
      have valueFits : field.2.length < 65536 := by omega
      have written := writeAttribute_zeros done field.1 field.2 valueFits (total (field :: fields))
        (total fields) offset atEnd split
      have first : field.write (done ++ zeros (total (field :: fields)), offset) =
          .ok ((done ++ (WireAttribute.zeroPadded field.1 field.2 valueFits).bytes) ++
            zeros (total fields), offset + field.size) := by
        refine write_eq_ok.mpr ⟨?_, by rw [written]⟩
        rw [List.length_append, zeros_length]
        omega
      have length : (WireAttribute.zeroPadded field.1 field.2 valueFits).bytes.length =
          field.size := by
        rw [WireAttribute.bytes_length, isSize, padTo4_add_four]
        rfl
      rcases @ih (by omega) (done ++ (WireAttribute.zeroPadded field.1 field.2 valueFits).bytes)
        (offset + field.size) (by rw [List.length_append, length, atEnd]) with
        ⟨attrs, rest, size, same⟩
      refine ⟨.zeroPadded field.1 field.2 valueFits :: attrs, ?_, ?_, ?_⟩
      · rw [List.foldlM_cons, first, Checked.ok_bind, rest, split, serialize_cons,
          List.append_assoc, Nat.add_assoc]
      · rw [serialize_cons, List.length_append, length, size, split]
      · rw [List.map_cons, same]
        rfl

end RequestField

/-- What the three builders have in common. -/
def buildRequest (msgType : UInt16) (fields : List RequestField) (transactionId : TransactionId) :
    Checked StunRequest := do
  let attrsLen := UInt16.ofNat (RequestField.total fields)
  let buf ← StunMessage.writeStunHeader (zeros (20 + attrsLen.toNat)) msgType attrsLen transactionId
  let written ← fields.foldlM RequestField.write (buf, 20)
  pure { data := written.1, transactionId := transactionId }

section BuildRequest

variable (msgType : UInt16) (fields : List RequestField) (transactionId : TransactionId)

/-- A request whose attributes fit the length field is built as it should be. -/
theorem buildRequest_fits (fits : RequestField.total fields < 65536) :
    exists attrs : List WireAttribute,
      buildRequest msgType fields transactionId =
        .ok ⟨stunMessage msgType transactionId attrs, transactionId⟩ ∧
      (serialize attrs).length < 65536 ∧
      attrs.map (fun attr => (attr.attrType, attr.value)) = fields := by
  have headerLen : (stunHeader msgType (RequestField.total fields) transactionId.bytes).length =
      20 := stunHeader_length msgType (RequestField.total fields) transactionId
  rcases RequestField.write_zeros fits
    (stunHeader msgType (RequestField.total fields) transactionId.bytes) headerLen.symm with
    ⟨attrs, written, size, same⟩
  refine ⟨attrs, ?_, by omega, same⟩
  rw [buildRequest, UInt16.toNat_ofNat', Nat.mod_eq_of_lt fits]
  rw [StunMessage.writeStunHeader_zeros, Checked.ok_bind, written, stunMessage, size]
  rfl

/-- A request whose attributes do not fit is never built: a write ends outside. -/
theorem buildRequest_returns_iff :
    (exists request, buildRequest msgType fields transactionId = .ok request) <->
      RequestField.total fields < 65536 := by
  constructor
  · rintro ⟨request, built⟩
    rw [buildRequest, UInt16.toNat_ofNat'] at built
    rw [StunMessage.writeStunHeader_zeros, Checked.ok_bind] at built
    rcases Checked.bind_eq_ok.mp built with ⟨after, written, _⟩
    have aligned := RequestField.total_aligned fields
    have bufLen : (stunHeader msgType (RequestField.total fields) transactionId.bytes ++
        zeros (RequestField.total fields % 2 ^ 16)).length =
        20 + RequestField.total fields % 2 ^ 16 := by
      rw [List.length_append, stunHeader_length, zeros_length]
      rfl
    have fits := RequestField.total_of_written (by rw [bufLen]; omega) (by omega)
      (by rw [bufLen]; omega) written
    rw [bufLen] at fits
    omega
  · intro fits
    rcases buildRequest_fits msgType fields transactionId fits with ⟨attrs, built, _⟩
    exact ⟨_, built⟩

end BuildRequest

/-! ## Reading a request -/

/-- What a reader finds at an attribute.  Of a peer address it keeps what the
decoder returns. -/
inductive RequestEntry where
  | plain (attrType : UInt16) (value : Bytes)
  | peer (address : Option (String × UInt16))
  deriving DecidableEq, Repr

/-- One attribute of the reader.  Its state is what it has found, and the
offset that it has come to. -/
def requestRound (data : Bytes) (transactionId : TransactionId) (offset : Nat)
    (header : AttributeHeader) (found : List RequestEntry × Nat) :
    Checked (Round (List RequestEntry × Nat) Empty) :=
  let reached := found.2 + attributeFormat.size header
  if header.attrType = ATTR_XOR_PEER_ADDRESS then do
    let outcome ← parseXorAddress data (offset + 4) header.attrLen.toNat transactionId.bytes
    pure (.next (found.1 ++ [.peer outcome.toOption], reached))
  else do
    let value ← sliceAt data (offset + 4) header.attrLen.toNat
    pure (.next (found.1 ++ [.plain header.attrType value], reached))

/-- The attributes of a request up to its length field, and where they end. -/
def readRequest (data : Bytes) (transactionId : TransactionId) :
    Checked (List RequestEntry × Nat) := do
  let msgLength ← readU16 data 2
  match ← walkAttributes data msgLength (requestRound data transactionId) ([], 20) with
  | .next found => pure found
  | .done impossible => nomatch impossible

/-- What a reader finds at an attribute that has been written. -/
def requestEntry (transactionId : TransactionId) (field : RequestField) : RequestEntry :=
  if field.1 = ATTR_XOR_PEER_ADDRESS then .peer (readXorAddress transactionId.bytes field.2)
  else .plain field.1 field.2

section ReadRequest

variable (transactionId : TransactionId)

/-- What an attribute adds to what has been found. -/
def requestEffect (attr : WireAttribute) (found : List RequestEntry × Nat) :
    Checked (Round (List RequestEntry × Nat) Empty) :=
  .ok (.next (found.1 ++ [requestEntry transactionId (attr.attrType, attr.value)],
    found.2 + attr.bytes.length))

theorem requestRound_attribute {data before after : Bytes} {attr : WireAttribute}
    (whole : data = before ++ (attr.bytes ++ after)) (found : List RequestEntry × Nat) :
    requestRound data transactionId before.length
      ⟨attr.attrType, UInt16.ofNat attr.value.length⟩ found =
        requestEffect transactionId attr found := by
  have size : attributeFormat.size ⟨attr.attrType, UInt16.ofNat attr.value.length⟩ =
      attr.bytes.length := (attributeEncoding.length_bytes attr).symm
  rw [requestRound, requestEffect, requestEntry, size]
  by_cases isPeer : attr.attrType = ATTR_XOR_PEER_ADDRESS
  · rcases parseXorAddress_attribute before after attr transactionId with ⟨outcome, parsed, same⟩
    rw [← whole] at parsed
    rw [if_pos isPeer, if_pos isPeer, attr.attrLen_toNat, parsed, Checked.ok_bind, same]
    rfl
  · have value := sliceAt_append
      (before ++ (u16Bytes attr.attrType ++ u16Bytes (UInt16.ofNat attr.value.length)))
      attr.value (attr.padding ++ after)
    rw [← bytes_split, ← whole, value_start] at value
    rw [if_neg isPeer, if_neg isPeer, attr.attrLen_toNat, value, Checked.ok_bind]
    rfl

theorem foldRounds_request (attrs : List WireAttribute) (found : List RequestEntry × Nat) :
    foldRounds (requestEffect transactionId) attrs found =
      .ok (.next (found.1 ++
          attrs.map (fun attr => requestEntry transactionId (attr.attrType, attr.value)),
        found.2 + (serialize attrs).length)) := by
  induction attrs generalizing found with
  | nil =>
      rw [List.map_nil, List.append_nil]
      rfl
  | cons attr attrs ih =>
      rw [foldRounds_next (show requestEffect transactionId attr found = _ from rfl), ih,
        serialize_cons, List.length_append, List.map_cons, List.append_assoc, Nat.add_assoc]
      rfl

/-- A reader of a well-formed message finds its attributes and ends at its end. -/
theorem readRequest_message (msgType : UInt16) {attrs : List WireAttribute}
    (fits : (serialize attrs).length < 65536) :
    readRequest (stunMessage msgType transactionId attrs) transactionId =
      .ok (attrs.map (fun attr => requestEntry transactionId (attr.attrType, attr.value)),
        (stunMessage msgType transactionId attrs).length) := by
  have headerLen : (stunHeader msgType (serialize attrs).length transactionId.bytes).length = 20 :=
    stunHeader_length msgType (serialize attrs).length transactionId
  have walked := walkAttributes_message msgType transactionId fits
    (requestRound (stunMessage msgType transactionId attrs) transactionId)
    (requestEffect transactionId)
    (fun _ _ _ found _ whole => requestRound_attribute transactionId whole found) ([], 20)
  rw [foldRounds_request, List.nil_append] at walked
  rw [readRequest, stunMessage_claimed, Checked.ok_bind, walked, Checked.ok_bind]
  conv => rhs; rw [stunMessage, List.length_append, headerLen]
  rfl

end ReadRequest

/-- The length field of a request is the true length of its attributes. -/
def StunRequest.Announced (request : StunRequest) : Prop :=
  exists claimed, readU16 request.data 2 = .ok claimed ∧ claimed.toNat + 20 = request.data.length

/-- A request is built as it should be: nothing is lost of its attributes. -/
def StunRequest.Carries (request : StunRequest) (entries : List RequestEntry) : Prop :=
  request.Announced ∧
    readRequest request.data request.transactionId = .ok (entries, request.data.length)

theorem buildRequest_carries (msgType : UInt16) (fields : List RequestField)
    (transactionId : TransactionId) (fits : RequestField.total fields < 65536) :
    exists request, buildRequest msgType fields transactionId = .ok request ∧
      request.transactionId = transactionId ∧
      request.Carries (fields.map (requestEntry transactionId)) := by
  rcases buildRequest_fits msgType fields transactionId fits with ⟨attrs, built, size, same⟩
  refine ⟨_, built, rfl, ⟨UInt16.ofNat (serialize attrs).length, ?_, ?_⟩, ?_⟩
  · exact stunMessage_claimed msgType transactionId attrs
  · rw [UInt16.toNat_ofNat', Nat.mod_eq_of_lt size, stunMessage, List.length_append,
      stunHeader_length, Nat.add_comm]
    rfl
  · have read := readRequest_message transactionId msgType size
    rw [← same, List.map_map]
    exact read

end P2pSdk
