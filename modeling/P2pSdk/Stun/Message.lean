import P2pSdk.Stun.Codec
import P2pSdk.Ice.Candidate
import P2pSdk.Foundation.RecordWalk
import P2pSdk.Foundation.Utf8

namespace P2pSdk

open Foundation

/-!
# STUN and TURN messages (`stun/message.rs`)

The builders compute the size of the attributes, truncate it to the 16 bits of
the length field, allocate a buffer of that size and write into it.  Every
write is checked here, since nothing in the code keeps the truncated size large
enough.  The parsers check the header and walk the attributes up to the length
that the header claims.
-/

structure StunRequest where
  data : Bytes
  transactionId : TransactionId
  deriving DecidableEq, Repr

inductive StunError where
  | responseTooShort (len : Nat)
  | invalidFirstBits
  | unexpectedMessageType (msgType : UInt16)
  | invalidMagicCookie (cookie : UInt32)
  | transactionIdMismatch
  | xorMappedAddressNotFound
  | xorRelayedAddressNotFound
  | allocateError (code : UInt16) (reason : String)
  | allocateErrorUnknown
  | unsupportedAddressFamily (family : UInt8)
  | xorMappedAddressTooShort
  | invalidPeerAddress (peer : String)
  deriving DecidableEq, Repr

/-- The errors that a server reports. -/
def StunError.fromServer : StunError -> Bool
  | .allocateError _ _ => true
  | .allocateErrorUnknown => true
  | _ => false

/-- Result of a Binding response. -/
structure StunResult where
  ip : String
  port : UInt16
  deriving DecidableEq, Repr

/-- Result of an Allocate response. -/
structure TurnResult where
  relayIp : String := ""
  relayPort : UInt16 := 0
  mappedIp : String := ""
  mappedPort : UInt16 := 0
  deriving DecidableEq, Repr

/-! ## Build helpers -/

namespace StunMessage

def writeU16 (buf : Bytes) (offset : Nat) (value : UInt16) : Checked Bytes :=
  storeAt buf offset (u16Bytes value)

def writeU32 (buf : Bytes) (offset : Nat) (value : UInt32) : Checked Bytes :=
  storeAt buf offset (u32Bytes value)

/-- Type, length, magic cookie and transaction id, in the first 20 bytes. -/
def writeStunHeader (buf : Bytes) (msgType attrsLen : UInt16) (transactionId : TransactionId) :
    Checked Bytes := do
  let buf ← writeU16 buf 0 msgType
  let buf ← writeU16 buf 2 attrsLen
  let buf ← writeU32 buf 4 STUN_MAGIC_COOKIE
  storeAt buf 8 transactionId.bytes

/-- Type, length and value of one attribute, as each builder writes them in a row. -/
def writeAttribute (buf : Bytes) (offset : Nat) (attrType : UInt16) (value : Bytes) :
    Checked Bytes := do
  let buf ← writeU16 buf offset attrType
  let buf ← writeU16 buf (offset + 2) (UInt16.ofNat value.length)
  storeAt buf (offset + 4) value

/-- `text.rfind(separator)`: the parts before and after the last occurrence. -/
def rsplitOnce (separator : Char) (text : String) : Option (String × String) :=
  match text.toList.reverse.dropWhile (· ≠ separator) with
  | [] => none
  | _ :: before =>
      let after := text.toList.reverse.takeWhile (· ≠ separator)
      some (String.ofList before.reverse, String.ofList after.reverse)

/-- Parse an "ip:port" text.  The last colon splits off the port; a colon
before it makes the address IPv6. -/
def parsePeerAddr (peer : String) : Except StunError (String × UInt16 × Bool) :=
  match rsplitOnce ':' peer with
  | none => .error (.invalidPeerAddress peer)
  | some (ipPart, portPart) =>
      match parseUnsigned 65536 portPart with
      | none => .error (.invalidPeerAddress peer)
      | some port => .ok (ipPart, UInt16.ofNat port, ipPart.toList.contains ':')

/-- The key of the 16 address bytes: magic cookie and transaction id. -/
def xorKey (transactionId : TransactionId) : Bytes := cookieBytes ++ transactionId.bytes

/-- `ip_part.split('.')`, each part as a byte; a part that is none counts as 0. -/
def ipv4Octets (ipPart : String) : Bytes :=
  (ipPart.toList.splitOn '.').map fun part =>
    UInt8.ofNat ((parseUnsigned 256 (String.ofList part)).getD 0)

/-- `ipv6_to_bytes(ip_part).unwrap_or([0u8; 16])`. -/
def ipv6Bytes (ipPart : String) : Bytes :=
  match ipv6ToBytes ipPart with
  | .ok bytes => bytes
  | .error _ => zeros 16

/-- The XOR-PEER-ADDRESS of one peer: one round of the writing loop. -/
def writePeer (transactionId : TransactionId) (written : Bytes × Nat) (peer : String) :
    Checked (Bytes × Nat) :=
  match parsePeerAddr peer with
  | .error _ => .error .unwrapFailure
  | .ok (ipPart, port, isIpv6) => do
      let (buf, offset) := written
      let family := if isIpv6 then AF_INET6 else AF_INET
      let addrLen : UInt16 := if isIpv6 then 20 else 8
      let attrTotal := padTo4 (4 + addrLen.toNat)
      let buf ← writeU16 buf offset ATTR_XOR_PEER_ADDRESS
      let buf ← writeU16 buf (offset + 2) addrLen
      let buf ← storeAt buf (offset + 4) [0, family]
      let buf ← writeU16 buf (offset + 6) (port ^^^ 0x2112)
      if isIpv6 then do
        let buf ← storeAt buf (offset + 8) (xorBytes (ipv6Bytes ipPart) (xorKey transactionId))
        pure (buf, offset + attrTotal)
      else do
        -- `octets[0]` to `octets[3]`: a shorter list is a panic, a longer one is cut.
        let octets ← sliceAt (ipv4Octets ipPart) 0 4
        let buf ← storeAt buf (offset + 8) (xorBytes octets cookieBytes)
        pure (buf, offset + attrTotal)

/-- The space that the sizing loop counts for a peer.  A text that does not
parse counts as IPv4. -/
def peerAttrSize (peer : String) : Nat :=
  let isIpv6 :=
    match parsePeerAddr peer with
    | .ok (_, _, isIpv6) => isIpv6
    | .error _ => false
  padTo4 (4 + if isIpv6 then 20 else 8)

/-- The bytes of `b"MyApp"`. -/
def softwareBytes : Bytes := asBytes "MyApp"

end StunMessage

open StunMessage

/-! ## Building -/

/-- Build a Binding Request with P2P-TOKEN and SOFTWARE.  `transactionId` is
the value that `generate_transaction_id` returns inside the builder. -/
def buildBindingRequest (p2pToken : String) (transactionId : TransactionId) :
    Checked StunRequest := do
  let tokenBytes := asBytes p2pToken
  let p2pAttrSize := padTo4 (4 + tokenBytes.length)
  let swAttrSize := padTo4 (4 + softwareBytes.length)
  let attrsLen := UInt16.ofNat (p2pAttrSize + swAttrSize)
  let totalLen := 20 + attrsLen.toNat
  let buf ← writeStunHeader (zeros totalLen) STUN_BINDING_REQUEST attrsLen transactionId
  let offset := 20
  let buf ← StunMessage.writeAttribute buf offset ATTR_P2P_TOKEN tokenBytes
  let offset := offset + p2pAttrSize
  let buf ← StunMessage.writeAttribute buf offset ATTR_SOFTWARE softwareBytes
  pure { data := buf, transactionId := transactionId }

/-- Build an Allocate Request with REQUESTED-TRANSPORT,
REQUESTED-ADDRESS-FAMILY, P2P-TOKEN and SOFTWARE. -/
def buildAllocateRequest (p2pToken : String) (family : UInt8) (transactionId : TransactionId) :
    Checked StunRequest := do
  let tokenBytes := asBytes p2pToken
  let rtSize := padTo4 (4 + 4)
  let rafSize := padTo4 (4 + 4)
  let p2pSize := padTo4 (4 + tokenBytes.length)
  let swSize := padTo4 (4 + softwareBytes.length)
  let attrsLen := UInt16.ofNat (rtSize + rafSize + p2pSize + swSize)
  let totalLen := 20 + attrsLen.toNat
  let buf ← writeStunHeader (zeros totalLen) STUN_ALLOCATE_REQUEST attrsLen transactionId
  let offset := 20
  let buf ← StunMessage.writeAttribute buf offset ATTR_REQUESTED_TRANSPORT
    [TURN_TRANSPORT_UDP, 0, 0, 0]
  let offset := offset + rtSize
  let buf ← StunMessage.writeAttribute buf offset ATTR_REQUESTED_ADDRESS_FAMILY [family, 0, 0, 0]
  let offset := offset + rafSize
  let buf ← StunMessage.writeAttribute buf offset ATTR_P2P_TOKEN tokenBytes
  let offset := offset + p2pSize
  let buf ← StunMessage.writeAttribute buf offset ATTR_SOFTWARE softwareBytes
  pure { data := buf, transactionId := transactionId }

/-- Build a CreatePermission Request with P2P-TOKEN and one XOR-PEER-ADDRESS
for each peer. -/
def buildCreatePermissionRequest (peers : List String) (p2pToken : String)
    (transactionId : TransactionId) : Checked StunRequest := do
  let tokenBytes := asBytes p2pToken
  let p2pSize := padTo4 (4 + tokenBytes.length)
  let peerAttrsSize := (peers.map peerAttrSize).sum
  let attrsLen := UInt16.ofNat (p2pSize + peerAttrsSize)
  let totalLen := 20 + attrsLen.toNat
  let buf ← writeStunHeader (zeros totalLen) STUN_CREATE_PERMISSION_REQUEST attrsLen transactionId
  let offset := 20
  let buf ← StunMessage.writeAttribute buf offset ATTR_P2P_TOKEN tokenBytes
  let offset := offset + p2pSize
  let written ← peers.foldlM (writePeer transactionId) (buf, offset)
  pure { data := written.1, transactionId := transactionId }

/-! ## Parsing -/

/-- The type and the length field of an attribute. -/
structure AttributeHeader where
  attrType : UInt16
  attrLen : UInt16
  deriving DecidableEq, Repr

def readAttributeHeader (data : Bytes) (offset : Nat) : Checked AttributeHeader := do
  let attrType ← readU16 data offset
  let attrLen ← readU16 data (offset + 2)
  pure ⟨attrType, attrLen⟩

/-- Attributes in a message: a header of four bytes, and the value padded to a
multiple of four. -/
def attributeFormat : RecordFormat AttributeHeader where
  headSize := 4
  readHead := readAttributeHeader
  size := fun header => 4 + padTo4 header.attrLen.toNat
  headSize_pos := Nat.succ_pos 3
  headSize_le := fun _ => Nat.le_add_right 4 _

/-- The attribute walk of a response, up to the end that its header claims. -/
def walkAttributes {State Result : Type} (data : Bytes) (msgLength : UInt16)
    (body : Nat -> AttributeHeader -> State -> Checked (Round State Result)) (state : State) :
    Checked (Round State Result) :=
  let stop := 20 + msgLength.toNat
  walk attributeFormat data stop body stop 20 state

/-- The walk ends at the claimed end and never for want of fuel. -/
theorem walkAttributes_fuel {State Result : Type} (data : Bytes) (msgLength : UInt16)
    (body : Nat -> AttributeHeader -> State -> Checked (Round State Result)) (state : State)
    (more : Nat) :
    walk attributeFormat data (20 + msgLength.toNat) body (20 + msgLength.toNat + more) 20 state =
      walkAttributes data msgLength body state :=
  walk_fuel more (Nat.le_add_left _ 20) state

/-- A round of `parse_binding_response`. -/
def bindingRound (data : Bytes) (offset : Nat) (header : AttributeHeader) (_ : Unit) :
    Checked (Round Unit (Except StunError StunResult)) :=
  if header.attrType = ATTR_XOR_MAPPED_ADDRESS then
    let family := (data[offset + 5]?).getD 0
    if family = AF_INET ∨ family = AF_INET6 then do
      let id ← sliceRange data 8 20
      match ← parseXorAddress data (offset + 4) header.attrLen.toNat id with
      | .ok (ip, port) => pure (.done (.ok ⟨ip, port⟩))
      | .error _ => pure (.done (.error .xorMappedAddressTooShort))
    else pure (.done (.error (.unsupportedAddressFamily family)))
  else pure (.next ())

/-- Parse a Binding response: the first XOR-MAPPED-ADDRESS decides. -/
def parseBindingResponse (data : Bytes) (transactionId : TransactionId) :
    Checked (Except StunError StunResult) :=
  if data.length < 20 then pure (.error (.responseTooShort data.length))
  else do
    let first ← byteAt data 0
    if first &&& 0xC0 ≠ 0 then pure (.error .invalidFirstBits)
    else do
      let msgType ← readU16 data 0
      if msgType ≠ STUN_BINDING_SUCCESS then pure (.error (.unexpectedMessageType msgType))
      else do
        let cookie ← readU32 data 4
        if cookie ≠ STUN_MAGIC_COOKIE then pure (.error (.invalidMagicCookie cookie))
        else do
          let id ← sliceRange data 8 20
          if id ≠ transactionId.bytes then pure (.error .transactionIdMismatch)
          else do
            let msgLength ← readU16 data 2
            match ← walkAttributes data msgLength (bindingRound data) () with
            | .done result => pure result
            | .next _ => pure (.error .xorMappedAddressNotFound)

/-- A round of the error branch of `parse_allocate_response`. -/
def allocateErrorRound (data : Bytes) (offset : Nat) (header : AttributeHeader) (_ : Unit) :
    Checked (Round Unit StunError) :=
  if header.attrType = ATTR_ERROR_CODE ∧ 4 ≤ header.attrLen then do
    let valStart := offset + 4
    let classByte ← byteAt data (valStart + 2)
    let numberByte ← byteAt data (valStart + 3)
    let number := (classByte &&& 0x07).toUInt16 * 100 + numberByte.toUInt16
    let reasonStart := valStart + 4
    let reasonEnd := offset + 4 + header.attrLen.toNat
    if reasonEnd ≤ data.length then do
      let reason ← sliceRange data reasonStart reasonEnd
      pure (.done (.allocateError number (fromUtf8Lossy reason)))
    else pure (.done (.allocateError number ""))
  else pure (.next ())

/-- A round of the success branch of `parse_allocate_response`.  An address
that does not decode is passed over. -/
def allocateRound (data : Bytes) (offset : Nat) (header : AttributeHeader) (result : TurnResult) :
    Checked (Round TurnResult Empty) :=
  if header.attrType = ATTR_XOR_RELAYED_ADDRESS then do
    let id ← sliceRange data 8 20
    match ← parseXorAddress data (offset + 4) header.attrLen.toNat id with
    | .ok (ip, port) => pure (.next { result with relayIp := ip, relayPort := port })
    | .error _ => pure (.next result)
  else if header.attrType = ATTR_XOR_MAPPED_ADDRESS then do
    let id ← sliceRange data 8 20
    match ← parseXorAddress data (offset + 4) header.attrLen.toNat id with
    | .ok (ip, port) => pure (.next { result with mappedIp := ip, mappedPort := port })
    | .error _ => pure (.next result)
  else pure (.next result)

/-- Parse an Allocate response.  An error response is read without a look at
its magic cookie and transaction id. -/
def parseAllocateResponse (data : Bytes) (transactionId : TransactionId) :
    Checked (Except StunError TurnResult) :=
  if data.length < 20 then pure (.error (.responseTooShort data.length))
  else do
    let first ← byteAt data 0
    if first &&& 0xC0 ≠ 0 then pure (.error .invalidFirstBits)
    else do
      let msgType ← readU16 data 0
      if msgType = STUN_ALLOCATE_ERROR then do
        let msgLength ← readU16 data 2
        match ← walkAttributes data msgLength (allocateErrorRound data) () with
        | .done error => pure (.error error)
        | .next _ => pure (.error .allocateErrorUnknown)
      else if msgType ≠ STUN_ALLOCATE_SUCCESS then
        pure (.error (.unexpectedMessageType msgType))
      else do
        let cookie ← readU32 data 4
        if cookie ≠ STUN_MAGIC_COOKIE then pure (.error (.invalidMagicCookie cookie))
        else do
          let id ← sliceRange data 8 20
          if id ≠ transactionId.bytes then pure (.error .transactionIdMismatch)
          else do
            let msgLength ← readU16 data 2
            match ← walkAttributes data msgLength (allocateRound data) {} with
            | .next result =>
                if result.relayIp = "" then pure (.error .xorRelayedAddressNotFound)
                else pure (.ok result)
            | .done impossible => nomatch impossible

end P2pSdk
