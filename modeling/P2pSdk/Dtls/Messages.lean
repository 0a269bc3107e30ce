import P2pSdk.Dtls.Types

namespace P2pSdk
namespace Dtls

open Foundation Parser

/-!
# Handshake messages (`dtls12/message/*.rs`)

The bodies of the handshake messages with their parsers and serializers.  A
range of the source into the buffer of a message is the bytes in that range
here: `base_offset` is 0, so that ranges count from the front of the body.
-/

/-! ## Parts -/

structure Random where
  bytes : Bytes
  sized : bytes.length = 32
  deriving DecidableEq, Repr

def Random.parse : Parser Random := fun input =>
  if short : input.length < 32 then .error (.error .eof)
  else .ok (⟨input.take 32, by rw [List.length_take]; omega⟩, input.drop 32)

/-- Some bytes, no more than `max`. -/
structure VarArray (max : Nat) where
  bytes : Bytes
  fits : bytes.length ≤ max
  deriving DecidableEq, Repr

namespace VarArray

variable {max : Nat}

def empty : VarArray max := ⟨[], Nat.zero_le _⟩

def parse : Parser (VarArray max) := do
  let len ← beU8
  if within : len.toNat ≤ max then
    fun input =>
      if short : input.length < len.toNat then .error (.error .eof)
      else .ok (⟨input.take len.toNat, by rw [List.length_take]; omega⟩, input.drop len.toNat)
  else stop (.failure .lengthValue)

def serialize (self : VarArray max) : Bytes := UInt8.ofNat self.bytes.length :: self.bytes

end VarArray

abbrev SessionId := VarArray 32

abbrev Cookie := VarArray 255

structure Extension where
  extensionType : ExtensionType
  extensionData : Bytes
  deriving DecidableEq, Repr

namespace Extension

def parse : Parser Extension := do
  let extensionType ← ExtensionType.coding.parse16
  let extensionLength ← beU16
  let extensionData ← take extensionLength.toNat
  return ⟨extensionType, extensionData⟩

def serialize (self : Extension) : Bytes :=
  ExtensionType.coding.bytes16 self.extensionType ++ (beBytes 2 self.extensionData.length ++ self.extensionData)

end Extension

abbrev ExtensionVec := ArrayVec Extension 8

/-- The extensions of a hello: their total length, and each of them. -/
def serializeExtensions (extensions : List Extension) : Bytes :=
  beBytes 2 (extensions.flatMap Extension.serialize).length ++ extensions.flatMap Extension.serialize

structure DigitallySigned where
  algorithm : SignatureAndHashAlgorithm
  signature : Bytes
  deriving DecidableEq, Repr

namespace DigitallySigned

def parse : Parser DigitallySigned := do
  let algorithm ← SignatureAndHashAlgorithm.coding.parse16
  let signatureLen ← beU16
  let signature ← take signatureLen.toNat
  return ⟨algorithm, signature⟩

def serialize (self : DigitallySigned) : Bytes :=
  SignatureAndHashAlgorithm.coding.bytes16 self.algorithm ++ (beBytes 2 self.signature.length ++ self.signature)

end DigitallySigned

/-! ## Data of extensions (`dtls12/message/extensions/*.rs`) -/

/-- Protection profiles for media keys. -/
inductive SrtpProfile where
  | aes128CmSha1_80
  | aeadAes128Gcm
  | aeadAes256Gcm
  deriving DecidableEq, Repr

namespace SrtpProfile

def fromU16 (value : UInt16) : Option SrtpProfile :=
  match value with
  | 0x0001 => some .aes128CmSha1_80
  | 0x0007 => some .aeadAes128Gcm
  | 0x0008 => some .aeadAes256Gcm
  | _ => none

def asU16 : SrtpProfile -> UInt16
  | .aes128CmSha1_80 => 0x0001
  | .aeadAes128Gcm => 0x0007
  | .aeadAes256Gcm => 0x0008

def keyingMaterialLen : SrtpProfile -> Nat
  | .aes128CmSha1_80 => 16 * 2 + 14 * 2
  | .aeadAes128Gcm => 16 * 2 + 12 * 2
  | .aeadAes256Gcm => 32 * 2 + 12 * 2

end SrtpProfile

structure UseSrtpExtension where
  profiles : ArrayVec SrtpProfile 3
  mki : Bytes
  deriving DecidableEq, Repr

namespace UseSrtpExtension

/-- Unknown profiles are skipped.  A fourth known one is a panic. -/
def parseProfiles : Bytes -> ArrayVec SrtpProfile 3 -> Except Stop (ArrayVec SrtpProfile 3)
  | high :: low :: rest, acc =>
      match SrtpProfile.fromU16 (UInt16.ofNat (beNat [high, low])) with
      | some profile =>
          match acc.tryPush profile with
          | some acc => parseProfiles rest acc
          | none => .error .panic
      | none => parseProfiles rest acc
  | _, acc => .ok acc

def parse : Parser UseSrtpExtension := do
  let profilesLength ← beU16
  let profilesData ← take profilesLength.toNat
  let profiles ← fun input => (parseProfiles profilesData .empty).map fun profiles => (profiles, input)
  let mkiLength ← beU8
  let mki ← take mkiLength.toNat
  return { profiles, mki }

def serialize (self : UseSrtpExtension) : Bytes :=
  beBytes 2 (self.profiles.items.length * 2) ++
    (self.profiles.items.flatMap (fun profile => beBytes 2 profile.asU16.toNat) ++
      (UInt8.ofNat self.mki.length :: self.mki))

def default : UseSrtpExtension where
  profiles := ⟨[.aeadAes256Gcm, .aeadAes128Gcm, .aes128CmSha1_80], Nat.le_refl 3⟩
  mki := []

end UseSrtpExtension

def serializeSupportedGroups (groups : List NamedGroup) : Bytes :=
  beBytes 2 (groups.length * 2) ++ groups.flatMap NamedGroup.coding.bytes16

/-- Uncompressed points only. -/
def serializeEcPointFormats : Bytes := [1, 0]

def serializeSignatureAlgorithms (algorithms : List SignatureAndHashAlgorithm) : Bytes :=
  beBytes 2 (algorithms.length * 2) ++ algorithms.flatMap SignatureAndHashAlgorithm.coding.bytes16

/-! ## Bodies -/

structure ClientHello where
  clientVersion : ProtocolVersion
  random : Random
  sessionId : SessionId
  cookie : Cookie
  cipherSuites : ArrayVec Dtls12CipherSuite 7
  compressionMethods : ArrayVec CompressionMethod 1
  extensions : ExtensionVec
  deriving DecidableEq, Repr

namespace ClientHello

def parseExtensions : Parser ExtensionVec := do
  if (← look).isEmpty then return .empty
  let extensionsLen ← beU16
  if extensionsLen = 0 then return .empty
  let extensionsData ← take extensionsLen.toNat
  untilEmpty Extension.parse (fun extension => extension.extensionType.isSupported) extensionsData

def parse : Parser ClientHello := do
  let clientVersion ← ProtocolVersion.coding.parse16
  let random ← Random.parse
  let sessionId ← VarArray.parse
  let cookie ← VarArray.parse
  let cipherSuitesLen ← beU16
  let inputCipher ← take cipherSuitesLen.toNat
  let cipherSuites ←
    (many1 Dtls12CipherSuite.coding.parse16 Dtls12CipherSuite.isSupported).whole .lengthValue inputCipher
  let compressionMethodsLen ← beU8
  let inputCompression ← take compressionMethodsLen.toNat
  let compressionMethods ←
    (many1 CompressionMethod.coding.parse8 CompressionMethod.isSupported).whole .lengthValue inputCompression
  let extensions ← parseExtensions
  return { clientVersion, random, sessionId, cookie, cipherSuites, compressionMethods, extensions }

def serialize (self : ClientHello) : Bytes :=
  ProtocolVersion.coding.bytes16 self.clientVersion ++ (self.random.bytes ++ (self.sessionId.serialize ++
    (self.cookie.serialize ++ (beBytes 2 (self.cipherSuites.items.length * 2) ++
      (self.cipherSuites.items.flatMap Dtls12CipherSuite.coding.bytes16 ++
        (UInt8.ofNat self.compressionMethods.items.length ::
          (self.compressionMethods.items.flatMap CompressionMethod.coding.bytes8 ++
            if self.extensions.items.isEmpty then [] else serializeExtensions self.extensions.items)))))))

end ClientHello

structure HelloVerifyRequest where
  serverVersion : ProtocolVersion
  cookie : Cookie
  deriving DecidableEq, Repr

namespace HelloVerifyRequest

def parse : Parser HelloVerifyRequest := do
  let serverVersion ← ProtocolVersion.coding.parse16
  let cookie ← VarArray.parse
  if cookie.bytes.isEmpty then stop (.failure .lengthValue)
  else return { serverVersion, cookie }

def serialize (self : HelloVerifyRequest) : Bytes :=
  ProtocolVersion.coding.bytes16 self.serverVersion ++ self.cookie.serialize

end HelloVerifyRequest

structure ServerHello where
  serverVersion : ProtocolVersion
  random : Random
  sessionId : SessionId
  cipherSuite : Dtls12CipherSuite
  compressionMethod : CompressionMethod
  extensions : Option ExtensionVec
  deriving DecidableEq, Repr

namespace ServerHello

def parseExtensions : Parser (Option ExtensionVec) := do
  if (← look).isEmpty then return none
  if (← look).length < 2 then stop (.failure .eof)
  let extensionsLen ← beU16
  if (← look).length < extensionsLen.toNat then stop (.failure .eof)
  if 0 < extensionsLen then
    let inputExt ← take extensionsLen.toNat
    if (← look).isEmpty then
      return some (← untilEmpty Extension.parse (fun extension => extension.extensionType.isSupported) inputExt)
    else stop (.failure .lengthValue)
  else return none

def parse : Parser ServerHello := do
  let serverVersion ← ProtocolVersion.coding.parse16
  let random ← Random.parse
  let sessionId ← VarArray.parse
  let cipherSuite ← Dtls12CipherSuite.coding.parse16
  let compressionMethod ← CompressionMethod.coding.parse8
  let extensions ← parseExtensions
  return { serverVersion, random, sessionId, cipherSuite, compressionMethod, extensions }

def serialize (self : ServerHello) : Bytes :=
  ProtocolVersion.coding.bytes16 self.serverVersion ++ (self.random.bytes ++ (self.sessionId.serialize ++
    (Dtls12CipherSuite.coding.bytes16 self.cipherSuite ++
      (CompressionMethod.coding.bytes8 self.compressionMethod ++
        self.extensions.elim [] fun extensions => serializeExtensions extensions.items))))

end ServerHello

/-- A certificate in DER. -/
abbrev Asn1Cert := Bytes

namespace Asn1Cert

def parse : Parser Asn1Cert := do
  let len ← beU24
  take len

def serialize (self : Asn1Cert) : Bytes := beBytes 3 self.length ++ self

end Asn1Cert

structure Certificate where
  certificateList : ArrayVec Asn1Cert 32
  deriving DecidableEq, Repr

namespace Certificate

def parse : Parser Certificate := do
  let totalLen ← beU24
  let certsData ← take totalLen
  let certificateList ← untilEmpty Asn1Cert.parse (fun _ => true) certsData
  return { certificateList }

def serialize (self : Certificate) : Bytes :=
  beBytes 3 (self.certificateList.items.flatMap Asn1Cert.serialize).length ++
    self.certificateList.items.flatMap Asn1Cert.serialize

end Certificate

structure EcdhParams where
  curveType : CurveType
  namedGroup : NamedGroup
  publicKey : Bytes
  signature : Option DigitallySigned
  deriving DecidableEq, Repr

namespace EcdhParams

/-- The signature behind the parameters, when anything is there. -/
def parseSignature : Parser (Option DigitallySigned) := do
  if (← look).isEmpty then return none else some <$> DigitallySigned.parse

def parse : Parser EcdhParams := do
  let curveType ← CurveType.coding.parse8
  let namedGroup ← NamedGroup.coding.parse16
  let publicKeyLen ← beU8
  let publicKey ← take publicKeyLen.toNat
  let signature ← parseSignature
  return { curveType, namedGroup, publicKey, signature }

/-- The parameters without the signature, which signs them. -/
def serializeParams (self : EcdhParams) : Bytes :=
  CurveType.coding.bytes8 self.curveType ++ (NamedGroup.coding.bytes16 self.namedGroup ++
    (UInt8.ofNat self.publicKey.length :: self.publicKey))

def serialize (self : EcdhParams) (withSignature : Bool) : Bytes :=
  self.serializeParams ++
    if withSignature then self.signature.elim [] DigitallySigned.serialize else []

end EcdhParams

/-- Some bytes behind a length of two bytes: a hint of the server, and the
identity of the client. -/
def parseOpaque16 : Parser Bytes := do
  let len ← beU16
  take len.toNat

def serializeOpaque16 (data : Bytes) : Bytes := beBytes 2 data.length ++ data

inductive ServerKeyExchange where
  | ecdh (params : EcdhParams)
  | psk (hint : Bytes)
  deriving DecidableEq, Repr

namespace ServerKeyExchange

def parse : KeyExchangeAlgorithm -> Parser ServerKeyExchange
  | .eecdh => .ecdh <$> EcdhParams.parse
  | .psk => .psk <$> parseOpaque16
  | .unknown => stop (.failure .tag)

def serialize (withSignature : Bool) : ServerKeyExchange -> Bytes
  | .ecdh params => params.serialize withSignature
  | .psk hint => serializeOpaque16 hint

end ServerKeyExchange

abbrev DistinguishedName := Bytes

namespace DistinguishedName

def parse : Parser DistinguishedName := do
  let len ← beU16
  if len < 1 then stop (.failure .lengthValue) else take len.toNat

def serialize (self : DistinguishedName) : Bytes := serializeOpaque16 self

end DistinguishedName

structure CertificateRequest where
  certificateTypes : ArrayVec ClientCertificateType 1
  supportedSignatureAlgorithms : ArrayVec SignatureAndHashAlgorithm 4
  certificateAuthorities : ArrayVec DistinguishedName 32
  deriving DecidableEq, Repr

namespace CertificateRequest

def parse : Parser CertificateRequest := do
  let certTypesLen ← beU8
  let inputType ← take certTypesLen.toNat
  let certificateTypes ←
    (many1 ClientCertificateType.coding.parse8 ClientCertificateType.isSupported).whole .lengthValue inputType
  let sigAlgsLen ← beU16
  let inputSigs ← take sigAlgsLen.toNat
  let supportedSignatureAlgorithms ←
    (many0 SignatureAndHashAlgorithm.coding.parse16 SignatureAndHashAlgorithm.isSupported).whole .lengthValue
      inputSigs
  let certAuthsLen ← beU16
  let inputAuths ← take certAuthsLen.toNat
  let certificateAuthorities ← untilEmpty DistinguishedName.parse (fun _ => true) inputAuths
  return { certificateTypes, supportedSignatureAlgorithms, certificateAuthorities }

def serialize (self : CertificateRequest) : Bytes :=
  UInt8.ofNat self.certificateTypes.items.length ::
    (self.certificateTypes.items.flatMap ClientCertificateType.coding.bytes8 ++
      (beBytes 2 (self.supportedSignatureAlgorithms.items.length * 2) ++
        (self.supportedSignatureAlgorithms.items.flatMap SignatureAndHashAlgorithm.coding.bytes16 ++
          (beBytes 2 (self.certificateAuthorities.items.flatMap DistinguishedName.serialize).length ++
            self.certificateAuthorities.items.flatMap DistinguishedName.serialize))))

def supportsHashAlgorithm (self : CertificateRequest) (hashAlgorithm : HashAlgorithm) : Bool :=
  self.supportedSignatureAlgorithms.items.any fun algo => algo.hash = hashAlgorithm

end CertificateRequest

/-- The public key of a client, or the identity it has a shared key under.  The
curve and the group of the key are left at their defaults by the parser. -/
inductive ClientKeyExchange where
  | ecdh (curveType : CurveType) (namedGroup : NamedGroup) (publicKey : Bytes)
  | psk (identity : Bytes)
  deriving DecidableEq, Repr

namespace ClientKeyExchange

def parse : KeyExchangeAlgorithm -> Parser ClientKeyExchange
  | .eecdh => do
      let publicKeyLength ← beU8
      let publicKey ← take publicKeyLength.toNat
      return .ecdh .namedCurve .secp256r1 publicKey
  | .psk => .psk <$> parseOpaque16
  | .unknown => stop (.failure .tag)

def serialize : ClientKeyExchange -> Bytes
  | .ecdh _ _ publicKey => UInt8.ofNat publicKey.length :: publicKey
  | .psk identity => serializeOpaque16 identity

end ClientKeyExchange

/-! ## Any body -/

inductive Body where
  | helloRequest
  | clientHello (hello : ClientHello)
  | helloVerifyRequest (request : HelloVerifyRequest)
  | serverHello (hello : ServerHello)
  | certificate (list : Certificate)
  | serverKeyExchange (exchange : ServerKeyExchange)
  | certificateRequest (request : CertificateRequest)
  | serverHelloDone
  | certificateVerify (signed : DigitallySigned)
  | clientKeyExchange (exchange : ClientKeyExchange)
  | newSessionTicket (ticket : Bytes)
  | finished (verifyData : Bytes)
  | unknown (value : UInt8)
  | fragment (bytes : Bytes)
  deriving DecidableEq, Repr

namespace Body

/-- Parse what needs the cipher suite that was negotiated. -/
def withSuite {α : Type} (cipherSuite : Option Dtls12CipherSuite) (next : Dtls12CipherSuite -> Parser α) :
    Parser α :=
  match cipherSuite with
  | some suite => next suite
  | none => stop (.failure .fail)

def parse (msgType : MessageType) (cipherSuite : Option Dtls12CipherSuite) : Parser Body :=
  match msgType with
  | .helloRequest => pure .helloRequest
  | .clientHello => .clientHello <$> ClientHello.parse
  | .helloVerifyRequest => .helloVerifyRequest <$> HelloVerifyRequest.parse
  | .serverHello => .serverHello <$> ServerHello.parse
  | .certificate => .certificate <$> Certificate.parse
  | .serverKeyExchange =>
      withSuite cipherSuite fun suite =>
        .serverKeyExchange <$> ServerKeyExchange.parse suite.asKeyExchangeAlgorithm
  | .certificateRequest => .certificateRequest <$> CertificateRequest.parse
  | .serverHelloDone => pure .serverHelloDone
  | .certificateVerify => .certificateVerify <$> DigitallySigned.parse
  | .clientKeyExchange =>
      withSuite cipherSuite fun suite =>
        .clientKeyExchange <$> ClientKeyExchange.parse suite.asKeyExchangeAlgorithm
  | .newSessionTicket => fun input => .ok (.newSessionTicket input, [])
  | .finished => withSuite cipherSuite fun suite => .finished <$> take suite.verifyDataLength
  | .unknown value => pure (.unknown value)

def serialize : Body -> Bytes
  | .helloRequest => []
  | .clientHello hello => hello.serialize
  | .helloVerifyRequest request => request.serialize
  | .serverHello hello => hello.serialize
  | .certificate list => list.serialize
  | .serverKeyExchange exchange => exchange.serialize true
  | .certificateRequest request => request.serialize
  | .serverHelloDone => []
  | .certificateVerify signed => signed.serialize
  | .clientKeyExchange exchange => exchange.serialize
  | .newSessionTicket ticket => ticket
  | .finished verifyData => verifyData
  | .unknown value => [value]
  | .fragment bytes => bytes

end Body

end Dtls
end P2pSdk
