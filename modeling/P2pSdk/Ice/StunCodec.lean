import P2pSdk.Stun.Codec
import P2pSdk.Foundation.Utf8

namespace P2pSdk

open Foundation

/-!
# ICE STUN Binding messages over plain UDP (`ice/stun_codec.rs`)

The builders allocate a zeroed buffer of the precomputed size and write each
field at a running offset.  The parser walks the attributes by their length
fields.  Its reads of PRIORITY and ERROR-CODE rely on the claimed attribute
length only, so the parser can panic; every other path returns.
-/

/-- Result of building an ICE Binding Request. -/
structure IceBindingRequestResult where
  data : Bytes
  transactionId : TransactionId
  deriving DecidableEq, Repr

/-- A parsed message with the attributes that ICE reads. -/
structure ParsedStunMessage where
  isStun : Bool := false
  isRequest : Bool := false
  isResponse : Bool := false
  isErrorResponse : Bool := false
  transactionId : Bytes := []
  username : String := ""
  priority : UInt32 := 0
  /-- `some true` controlling, `some false` controlled, `none` not present. -/
  controlling : Option Bool := none
  useCandidate : Bool := false
  errorCode : UInt16 := 0
  mappedIp : String := ""
  mappedPort : UInt16 := 0
  deriving DecidableEq, Repr

/-! ## Building -/

/-- Attribute type and length at a running offset. -/
def writeAttributeHeader (buf : Bytes) (offset : Nat) (attrType : UInt16) (len : Nat) : Bytes :=
  writeU16 (writeU16 buf offset attrType) (offset + 2) (UInt16.ofNat len)

/-- Type, length and value of one attribute. -/
def writeAttribute (buf : Bytes) (offset : Nat) (attrType : UInt16) (value : Bytes) : Bytes :=
  writeAt (writeAttributeHeader buf offset attrType value.length) (offset + 4) value

/-- Type, length, magic cookie and transaction id of a message. -/
def writeHeader (buf : Bytes) (msgType : UInt16) (attrsLen : Nat) (transactionId : Bytes) : Bytes :=
  writeAt (writeU32 (writeU16 (writeU16 buf 0 msgType) 2 (UInt16.ofNat attrsLen)) 4
    STUN_MAGIC_COOKIE) 8 transactionId

/-- MESSAGE-INTEGRITY at `miStart`, when a password is known: the HMAC covers
everything before it, with the header length set to the end of this attribute
while it is computed. -/
def writeMessageIntegrity (crypto : Crypto) (buf : Bytes) (miStart miAttrLen attrsLen : Nat)
    (remotePwd : Option String) : Bytes :=
  match remotePwd with
  | none => buf
  | some pwd =>
      let buf := writeAttributeHeader buf miStart ATTR_MESSAGE_INTEGRITY 20
      let adjustedLength := (miStart - STUN_HEADER_LEN) + miAttrLen
      let buf := writeU16 buf 2 (UInt16.ofNat adjustedLength)
      let hmac := crypto.hmacSha1 (asBytes pwd) (buf.take miStart)
      let buf := writeAt buf (miStart + 4) hmac
      writeU16 buf 2 (UInt16.ofNat attrsLen)

/-- FINGERPRINT at `offset`: computed over the whole buffer, its own value
still zero. -/
def writeFingerprint (crypto : Crypto) (buf : Bytes) (offset : Nat) : Bytes :=
  let buf := writeAttributeHeader buf offset ATTR_FINGERPRINT 4
  writeU32 buf (offset + 4) (crypto.stunFingerprint buf)

/-- The two words of the tie-breaker, high word first. -/
def tieBreakerBytes (tieBreaker : UInt64) : Bytes :=
  u32Bytes (tieBreaker >>> 32).toUInt32 ++ u32Bytes (tieBreaker &&& 0xFFFFFFFF).toUInt32

/-- Build an ICE STUN Binding Request.  `transactionId` is the value that
`generate_transaction_id` returns inside the builder. -/
def buildIceBindingRequest (crypto : Crypto) (username : String) (priority : UInt32)
    (controlling : Bool) (tieBreaker : UInt64) (useCandidate : Bool) (remotePwd : Option String)
    (transactionId : TransactionId) : IceBindingRequestResult :=
  let userBytes := asBytes username
  let usernameAttrLen := padTo4 (4 + userBytes.length)
  let priorityAttrLen := padTo4 (4 + 4)
  let roleAttrLen := padTo4 (4 + 8)
  let useCandidateAttrLen := padTo4 (4 + 0)
  let miAttrLen := if remotePwd.isSome then padTo4 (4 + 20) else 0
  let fingerprintAttrLen := padTo4 (4 + 4)
  let attrsLen := usernameAttrLen + priorityAttrLen + roleAttrLen + miAttrLen +
    fingerprintAttrLen + (if useCandidate then useCandidateAttrLen else 0)
  let totalLen := STUN_HEADER_LEN + attrsLen
  let buf := writeHeader (zeros totalLen) STUN_BINDING_REQUEST attrsLen transactionId.bytes
  let offset := STUN_HEADER_LEN
  let buf := writeAttribute buf offset ATTR_USERNAME userBytes
  let offset := offset + usernameAttrLen
  let buf := writeAttribute buf offset ATTR_PRIORITY (u32Bytes priority)
  let offset := offset + priorityAttrLen
  let roleAttr := if controlling then ATTR_ICE_CONTROLLING else ATTR_ICE_CONTROLLED
  let buf := writeAttribute buf offset roleAttr (tieBreakerBytes tieBreaker)
  let offset := offset + roleAttrLen
  let buf := if useCandidate then writeAttribute buf offset ATTR_USE_CANDIDATE [] else buf
  let offset := if useCandidate then offset + useCandidateAttrLen else offset
  let buf := writeMessageIntegrity crypto buf offset miAttrLen attrsLen remotePwd
  let offset := offset + miAttrLen
  { data := writeFingerprint crypto buf offset, transactionId := transactionId }

/-- Build an ICE STUN Binding Success Response: a bare header with the
transaction id of the request.  `none` when the request is too short or not a
Binding Request up to the class bits. -/
def buildIceBindingResponse (requestData : Bytes) : Option Bytes :=
  if requestData.length < STUN_HEADER_LEN then none
  else if requestData.getD 0 0 &&& 0xC0 ≠ 0 then none
  else if UInt16.ofNat (beNat (requestData.take 2)) &&& 0x3EFF ≠ STUN_BINDING_REQUEST then none
  else
    let transactionId := (requestData.drop 8).take 12
    some (writeHeader (zeros STUN_HEADER_LEN) STUN_BINDING_SUCCESS 0 transactionId)

/-- Build an ICE STUN Binding Error Response with ERROR-CODE and FINGERPRINT,
under the transaction id of the request.  `none` when the request is too short. -/
def buildIceErrorResponse (crypto : Crypto) (requestData : Bytes) (errorCode : UInt16)
    (reason : String) : Option Bytes :=
  if requestData.length < STUN_HEADER_LEN then none
  else
    let transactionId := (requestData.drop 8).take 12
    let reasonBytes := asBytes reason
    let errorAttrLen := padTo4 (4 + 4 + reasonBytes.length)
    let fingerprintAttrLen := padTo4 (4 + 4)
    let attrsLen := errorAttrLen + fingerprintAttrLen
    let totalLen := STUN_HEADER_LEN + attrsLen
    let buf := writeHeader (zeros totalLen) STUN_BINDING_ERROR attrsLen transactionId
    let offset := STUN_HEADER_LEN
    let buf := writeAttributeHeader buf offset ATTR_ERROR_CODE (4 + reasonBytes.length)
    let buf := writeAt buf (offset + 4) [0]
    let buf := writeAt buf (offset + 5) [(errorCode / 100).toUInt8]
    let buf := writeAt buf (offset + 6) [(errorCode % 100).toUInt8]
    -- The reason starts one byte before the end of the announced length.
    let buf := writeAt buf (offset + 7) reasonBytes
    some (writeFingerprint crypto buf (offset + errorAttrLen))

/-! ## Parsing -/

/-- The body of the attribute match: what one attribute at `offset` sets. -/
def parseAttribute (data : Bytes) (offset : Nat) (attrType : UInt16) (attrLen : Nat)
    (result : ParsedStunMessage) : Checked ParsedStunMessage :=
  if attrType = ATTR_USERNAME ∧ 0 < attrLen then
    if offset + 4 + attrLen ≤ data.length then do
      let value ← sliceAt data (offset + 4) attrLen
      pure { result with username := fromUtf8Lossy value }
    else pure result
  else if attrType = ATTR_PRIORITY ∧ 4 ≤ attrLen then do
    let priority ← readU32 data (offset + 4)
    pure { result with priority := priority }
  else if attrType = ATTR_USE_CANDIDATE then
    pure { result with useCandidate := true }
  else if attrType = ATTR_ICE_CONTROLLING ∧ 8 ≤ attrLen then
    pure { result with controlling := some true }
  else if attrType = ATTR_ICE_CONTROLLED ∧ 8 ≤ attrLen then
    pure { result with controlling := some false }
  else if attrType = ATTR_XOR_MAPPED_ADDRESS then do
    match ← parseXorAddress data (offset + 4) attrLen result.transactionId with
    | .ok (ip, port) => pure { result with mappedIp := ip, mappedPort := port }
    | .error _ => pure result
  else if attrType = ATTR_ERROR_CODE ∧ 4 ≤ attrLen then do
    let classByte ← byteAt data (offset + 5)
    let number ← byteAt data (offset + 6)
    pure { result with errorCode := (classByte &&& 0x07).toUInt16 * 100 + number.toUInt16 }
  else pure result

/-- The attribute walk.  Each round moves the offset by at least four, so
`fuel` bounds the rounds; `attributeLoop_fuel` below shows that the bound used
is never what ends the walk. -/
def attributeLoop (data : Bytes) (stop : Nat) :
    Nat -> Nat -> ParsedStunMessage -> Checked ParsedStunMessage
  | 0, _, result => pure result
  | fuel + 1, offset, result =>
      if offset + 4 ≤ stop then do
        let attrType ← readU16 data offset
        let attrLen ← readU16 data (offset + 2)
        let result ← parseAttribute data offset attrType attrLen.toNat result
        attributeLoop data stop fuel (offset + 4 + padTo4 attrLen.toNat) result
      else pure result

/-- Walk the attributes of a message whose header has been read. -/
def parseAttributes (data : Bytes) (result : ParsedStunMessage) : Checked ParsedStunMessage := do
  let msgLength ← readU16 data 2
  let stop := min (STUN_HEADER_LEN + msgLength.toNat) data.length
  attributeLoop data stop data.length STUN_HEADER_LEN result

/-- Parse an incoming ICE STUN message. -/
def parseIceStunMessage (data : Bytes) : Checked ParsedStunMessage :=
  if data.length < STUN_HEADER_LEN then pure {}
  else do
    let first ← byteAt data 0
    if first &&& 0xC0 ≠ 0 then pure {}
    else do
      let msgType ← readU16 data 0
      let magicCookie ← readU32 data 4
      if magicCookie ≠ STUN_MAGIC_COOKIE then pure {}
      else do
        let transactionId ← sliceAt data 8 12
        let result : ParsedStunMessage := { isStun := true, transactionId := transactionId }
        if msgType = STUN_BINDING_REQUEST then
          parseAttributes data { result with isRequest := true }
        else if msgType = STUN_BINDING_SUCCESS then
          parseAttributes data { result with isResponse := true }
        else if msgType = STUN_BINDING_ERROR then
          parseAttributes data { result with isErrorResponse := true }
        else pure result

/-! ## The fuel of the attribute walk -/

/-- Any two amounts of fuel that reach the end of the attributes agree. -/
theorem attributeLoop_fuel (data : Bytes) (stop : Nat) (fuel more offset : Nat)
    (result : ParsedStunMessage) (enough : stop ≤ offset + 4 * fuel) :
    attributeLoop data stop (fuel + more) offset result =
      attributeLoop data stop fuel offset result := by
  induction fuel generalizing offset result with
  | zero =>
      cases more with
      | zero => rfl
      | succ more =>
          rw [Nat.zero_add, attributeLoop, attributeLoop, if_neg (by omega)]
  | succ fuel ih =>
      rw [show fuel + 1 + more = (fuel + more) + 1 by omega, attributeLoop, attributeLoop]
      by_cases inside : offset + 4 ≤ stop
      · rw [if_pos inside, if_pos inside]
        congr 1
        funext attrType
        congr 1
        funext attrLen
        congr 1
        funext next
        exact ih _ _ (by omega)
      · rw [if_neg inside, if_neg inside]

end P2pSdk
