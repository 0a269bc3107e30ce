import P2pSdk.Foundation.Bytes

namespace P2pSdk

open Foundation

/-!
# ICE shared types and constants (`types.rs`, `crypto.rs`)

Fixed-width fields keep their widths.  Clock values are natural numbers: a
`now_ms` counts milliseconds of one session, and no sum the code forms with it
comes near the width of its `u64`.
-/

/-! ## Enumerations -/

inductive IceState where
  | new
  | gathering
  | connecting
  | connected
  | completed
  | failed
  | disconnected
  | closed
  deriving DecidableEq, Repr

inductive CandidateType where
  | host
  | srflx
  | relay
  deriving DecidableEq, Repr

def CandidateType.asStr : CandidateType -> String
  | .host => "host"
  | .srflx => "srflx"
  | .relay => "relay"

def CandidateType.fromStr (text : String) : Option CandidateType :=
  if text = "host" then some .host
  else if text = "srflx" then some .srflx
  else if text = "relay" then some .relay
  else none

@[simp] theorem CandidateType.fromStr_asStr (kind : CandidateType) :
    CandidateType.fromStr kind.asStr = some kind := by
  cases kind <;> decide

inductive CheckState where
  | waiting
  | inProgress
  | succeeded
  | failed
  deriving DecidableEq, Repr

inductive IceRole where
  | controlling
  | controlled
  deriving DecidableEq, Repr

/-- The other role. -/
def IceRole.switched : IceRole -> IceRole
  | .controlling => .controlled
  | .controlled => .controlling

/-- `matches!(self.role, IceRole::Controlling)`. -/
def IceRole.isControlling : IceRole -> Bool
  | .controlling => true
  | .controlled => false

/-! ## Records -/

/-- A transport address as the agent compares it: the text of the IP and the port. -/
structure Address where
  ip : String
  port : UInt16
  deriving DecidableEq, Repr

structure IceCandidate where
  foundation : String
  componentId : UInt8
  transport : String
  priority : UInt32
  connectionAddress : String
  port : UInt16
  candidateType : CandidateType
  relatedAddress : String
  relatedPort : UInt16
  deriving DecidableEq, Repr

def IceCandidate.address (cand : IceCandidate) : Address :=
  ⟨cand.connectionAddress, cand.port⟩

structure IceSessionDescription where
  iceUfrag : String
  icePwd : String
  isLite : Bool
  candidates : List String
  deriving DecidableEq, Repr

/-- A 96-bit STUN transaction id. -/
structure TransactionId where
  bytes : Bytes
  length_eq : bytes.length = 12
  deriving DecidableEq, Repr

theorem TransactionId.bytes_ne_nil (id : TransactionId) : id.bytes ≠ [] := by
  intro empty
  have length := id.length_eq
  rw [empty] at length
  cases length

theorem TransactionId.eq_of_bytes {first second : TransactionId}
    (same : first.bytes = second.bytes) : first = second := by
  cases first
  cases second
  cases same
  rfl

/-- The hash functions of `crypto.rs`, which wrap the `hmac`, `sha1` and `crc`
crates.  Nothing is assumed of them beyond the width of their results. -/
structure Crypto where
  hmacSha1 : Bytes -> Bytes -> Bytes
  hmacSha1_length : forall key data, (hmacSha1 key data).length = 20
  crc32 : Bytes -> UInt32

/-- STUN FINGERPRINT: CRC32 XOR `0x5354554E`. -/
def Crypto.stunFingerprint (crypto : Crypto) (data : Bytes) : UInt32 :=
  crypto.crc32 data ^^^ 0x5354554E

/-! ## Constants -/

def ATTR_USERNAME : UInt16 := 0x0006
def ATTR_PRIORITY : UInt16 := 0x0024
def ATTR_USE_CANDIDATE : UInt16 := 0x0025
def ATTR_ICE_CONTROLLING : UInt16 := 0x802A
def ATTR_ICE_CONTROLLED : UInt16 := 0x8029
def ATTR_FINGERPRINT : UInt16 := 0x8028
def ATTR_MESSAGE_INTEGRITY : UInt16 := 0x0008
def ATTR_ERROR_CODE : UInt16 := 0x0009
def ATTR_XOR_MAPPED_ADDRESS : UInt16 := 0x0020
def ATTR_XOR_RELAYED_ADDRESS : UInt16 := 0x0016
def ATTR_REQUESTED_TRANSPORT : UInt16 := 0x0019
def ATTR_SOFTWARE : UInt16 := 0x8022
def ATTR_P2P_TOKEN : UInt16 := 0x0081
def ATTR_REQUESTED_ADDRESS_FAMILY : UInt16 := 0x0017
def ATTR_XOR_PEER_ADDRESS : UInt16 := 0x0012

def STUN_BINDING_REQUEST : UInt16 := 0x0001
def STUN_BINDING_SUCCESS : UInt16 := 0x0101
def STUN_BINDING_ERROR : UInt16 := 0x0111
def STUN_ALLOCATE_REQUEST : UInt16 := 0x0003
def STUN_ALLOCATE_SUCCESS : UInt16 := 0x0103
def STUN_ALLOCATE_ERROR : UInt16 := 0x0113
def STUN_CREATE_PERMISSION_REQUEST : UInt16 := 0x0008
def STUN_CREATE_PERMISSION_SUCCESS : UInt16 := 0x0108
def STUN_CREATE_PERMISSION_ERROR : UInt16 := 0x0118

def ICE_ERROR_ROLE_CONFLICT : UInt16 := 487

def STUN_MAGIC_COOKIE : UInt32 := 0x2112A442

def AF_INET : UInt8 := 0x01
def AF_INET6 : UInt8 := 0x02

def TURN_TRANSPORT_UDP : UInt8 := 17

end P2pSdk
