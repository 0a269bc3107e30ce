import P2pSdk.Foundation.Nom
import Mathlib.Data.Nat.Bitwise

namespace P2pSdk
namespace Dtls

open Foundation

/-!
# Codes of the DTLS messages (`types.rs`, `dtls12/message/mod.rs`)

Each enumeration has a code of one or two bytes on the wire.  A code without a
name is kept in the last constructor, so every code is read and written back;
a value is canonical when that constructor does not hold a code with a name.
-/

/-- A type of values with codes, every code standing for a value. -/
structure Coding (Value Code : Type) where
  ofCode : Code -> Value
  code : Value -> Code
  code_ofCode : forall code', code (ofCode code') = code'

namespace Coding

variable {Value Code : Type} (coding : Coding Value Code)

/-- The value is the one that its code stands for. -/
def Canonical (value : Value) : Prop := coding.ofCode (coding.code value) = value

theorem canonical_ofCode (code : Code) : coding.Canonical (coding.ofCode code) :=
  congrArg coding.ofCode (coding.code_ofCode code)

end Coding

inductive ContentType where
  | changeCipherSpec
  | alert
  | handshake
  | applicationData
  | ack
  | unknown (value : UInt8)
  deriving DecidableEq, Repr

namespace ContentType

def fromU8 (value : UInt8) : ContentType :=
  match value with
  | 20 => .changeCipherSpec
  | 21 => .alert
  | 22 => .handshake
  | 23 => .applicationData
  | 26 => .ack
  | _ => .unknown value

def asU8 : ContentType -> UInt8
  | .changeCipherSpec => 20
  | .alert => 21
  | .handshake => 22
  | .applicationData => 23
  | .ack => 26
  | .unknown value => value

def coding : Coding ContentType UInt8 where
  ofCode := fromU8
  code := asU8
  code_ofCode := by
    intro value
    unfold fromU8
    split <;> rfl

end ContentType

inductive ProtocolVersion where
  | dtls1_0
  | dtls1_2
  | dtls1_3
  | unknown (value : UInt16)
  deriving DecidableEq, Repr

namespace ProtocolVersion

def fromU16 (value : UInt16) : ProtocolVersion :=
  match value with
  | 0xFEFF => .dtls1_0
  | 0xFEFD => .dtls1_2
  | 0xFEFC => .dtls1_3
  | _ => .unknown value

def asU16 : ProtocolVersion -> UInt16
  | .dtls1_0 => 0xFEFF
  | .dtls1_2 => 0xFEFD
  | .dtls1_3 => 0xFEFC
  | .unknown value => value

def coding : Coding ProtocolVersion UInt16 where
  ofCode := fromU16
  code := asU16
  code_ofCode := by
    intro value
    unfold fromU16
    split <;> rfl

end ProtocolVersion

inductive Dtls12CipherSuite where
  | ecdheEcdsaAes256GcmSha384
  | ecdheEcdsaAes128GcmSha256
  | ecdheEcdsaChacha20Poly1305Sha256
  | ecdheRsaAes128GcmSha256
  | ecdheRsaAes256GcmSha384
  | ecdheRsaChacha20Poly1305Sha256
  | pskAes128Ccm8
  | unknown (value : UInt16)
  deriving DecidableEq, Repr

namespace Dtls12CipherSuite

def fromU16 (value : UInt16) : Dtls12CipherSuite :=
  match value with
  | 0xC02C => .ecdheEcdsaAes256GcmSha384
  | 0xC02B => .ecdheEcdsaAes128GcmSha256
  | 0xCCA9 => .ecdheEcdsaChacha20Poly1305Sha256
  | 0xC02F => .ecdheRsaAes128GcmSha256
  | 0xC030 => .ecdheRsaAes256GcmSha384
  | 0xCCA8 => .ecdheRsaChacha20Poly1305Sha256
  | 0xC0A8 => .pskAes128Ccm8
  | _ => .unknown value

def asU16 : Dtls12CipherSuite -> UInt16
  | .ecdheEcdsaAes256GcmSha384 => 0xC02C
  | .ecdheEcdsaAes128GcmSha256 => 0xC02B
  | .ecdheEcdsaChacha20Poly1305Sha256 => 0xCCA9
  | .ecdheRsaAes128GcmSha256 => 0xC02F
  | .ecdheRsaAes256GcmSha384 => 0xC030
  | .ecdheRsaChacha20Poly1305Sha256 => 0xCCA8
  | .pskAes128Ccm8 => 0xC0A8
  | .unknown value => value

def coding : Coding Dtls12CipherSuite UInt16 where
  ofCode := fromU16
  code := asU16
  code_ofCode := by
    intro value
    unfold fromU16
    split <;> rfl

end Dtls12CipherSuite

inductive CompressionMethod where
  | null
  | deflate
  | unknown (value : UInt8)
  deriving DecidableEq, Repr

namespace CompressionMethod

def fromU8 (value : UInt8) : CompressionMethod :=
  match value with
  | 0x00 => .null
  | 0x01 => .deflate
  | _ => .unknown value

def asU8 : CompressionMethod -> UInt8
  | .null => 0x00
  | .deflate => 0x01
  | .unknown value => value

def coding : Coding CompressionMethod UInt8 where
  ofCode := fromU8
  code := asU8
  code_ofCode := by
    intro value
    unfold fromU8
    split <;> rfl

end CompressionMethod

inductive HashAlgorithm where
  | none
  | md5
  | sha1
  | sha224
  | sha256
  | sha384
  | sha512
  | unknown (value : UInt8)
  deriving DecidableEq, Repr

namespace HashAlgorithm

def fromU8 (value : UInt8) : HashAlgorithm :=
  match value with
  | 0 => .none
  | 1 => .md5
  | 2 => .sha1
  | 3 => .sha224
  | 4 => .sha256
  | 5 => .sha384
  | 6 => .sha512
  | _ => .unknown value

def asU8 : HashAlgorithm -> UInt8
  | .none => 0
  | .md5 => 1
  | .sha1 => 2
  | .sha224 => 3
  | .sha256 => 4
  | .sha384 => 5
  | .sha512 => 6
  | .unknown value => value

def coding : Coding HashAlgorithm UInt8 where
  ofCode := fromU8
  code := asU8
  code_ofCode := by
    intro value
    unfold fromU8
    split <;> rfl

end HashAlgorithm

inductive SignatureAlgorithm where
  | anonymous
  | rsa
  | dsa
  | ecdsa
  | unknown (value : UInt8)
  deriving DecidableEq, Repr

namespace SignatureAlgorithm

def fromU8 (value : UInt8) : SignatureAlgorithm :=
  match value with
  | 0 => .anonymous
  | 1 => .rsa
  | 2 => .dsa
  | 3 => .ecdsa
  | _ => .unknown value

def asU8 : SignatureAlgorithm -> UInt8
  | .anonymous => 0
  | .rsa => 1
  | .dsa => 2
  | .ecdsa => 3
  | .unknown value => value

def coding : Coding SignatureAlgorithm UInt8 where
  ofCode := fromU8
  code := asU8
  code_ofCode := by
    intro value
    unfold fromU8
    split <;> rfl

end SignatureAlgorithm

inductive NamedGroup where
  | sect163k1
  | sect163r1
  | sect163r2
  | sect193r1
  | sect193r2
  | sect233k1
  | sect233r1
  | sect239k1
  | sect283k1
  | sect283r1
  | sect409k1
  | sect409r1
  | sect571k1
  | sect571r1
  | secp160k1
  | secp160r1
  | secp160r2
  | secp192k1
  | secp192r1
  | secp224k1
  | secp224r1
  | secp256k1
  | secp256r1
  | secp384r1
  | secp521r1
  | x25519
  | x448
  | unknown (value : UInt16)
  deriving DecidableEq, Repr

namespace NamedGroup

def fromU16 (value : UInt16) : NamedGroup :=
  match value with
  | 1 => .sect163k1
  | 2 => .sect163r1
  | 3 => .sect163r2
  | 4 => .sect193r1
  | 5 => .sect193r2
  | 6 => .sect233k1
  | 7 => .sect233r1
  | 8 => .sect239k1
  | 9 => .sect283k1
  | 10 => .sect283r1
  | 11 => .sect409k1
  | 12 => .sect409r1
  | 13 => .sect571k1
  | 14 => .sect571r1
  | 15 => .secp160k1
  | 16 => .secp160r1
  | 17 => .secp160r2
  | 18 => .secp192k1
  | 19 => .secp192r1
  | 20 => .secp224k1
  | 21 => .secp224r1
  | 22 => .secp256k1
  | 23 => .secp256r1
  | 24 => .secp384r1
  | 25 => .secp521r1
  | 29 => .x25519
  | 30 => .x448
  | _ => .unknown value

def asU16 : NamedGroup -> UInt16
  | .sect163k1 => 1
  | .sect163r1 => 2
  | .sect163r2 => 3
  | .sect193r1 => 4
  | .sect193r2 => 5
  | .sect233k1 => 6
  | .sect233r1 => 7
  | .sect239k1 => 8
  | .sect283k1 => 9
  | .sect283r1 => 10
  | .sect409k1 => 11
  | .sect409r1 => 12
  | .sect571k1 => 13
  | .sect571r1 => 14
  | .secp160k1 => 15
  | .secp160r1 => 16
  | .secp160r2 => 17
  | .secp192k1 => 18
  | .secp192r1 => 19
  | .secp224k1 => 20
  | .secp224r1 => 21
  | .secp256k1 => 22
  | .secp256r1 => 23
  | .secp384r1 => 24
  | .secp521r1 => 25
  | .x25519 => 29
  | .x448 => 30
  | .unknown value => value

def coding : Coding NamedGroup UInt16 where
  ofCode := fromU16
  code := asU16
  code_ofCode := by
    intro value
    unfold fromU16
    split <;> rfl

end NamedGroup

inductive CurveType where
  | explicitPrime
  | explicitChar2
  | namedCurve
  | unknown (value : UInt8)
  deriving DecidableEq, Repr

namespace CurveType

def fromU8 (value : UInt8) : CurveType :=
  match value with
  | 1 => .explicitPrime
  | 2 => .explicitChar2
  | 3 => .namedCurve
  | _ => .unknown value

def asU8 : CurveType -> UInt8
  | .explicitPrime => 1
  | .explicitChar2 => 2
  | .namedCurve => 3
  | .unknown value => value

def coding : Coding CurveType UInt8 where
  ofCode := fromU8
  code := asU8
  code_ofCode := by
    intro value
    unfold fromU8
    split <;> rfl

end CurveType

inductive ClientCertificateType where
  | rsaSign
  | dssSign
  | rsaFixedDh
  | dssFixedDh
  | rsaEphemeralDh
  | dssEphemeralDh
  | fortezzaDms
  | ecdsaSign
  | unknown (value : UInt8)
  deriving DecidableEq, Repr

namespace ClientCertificateType

def fromU8 (value : UInt8) : ClientCertificateType :=
  match value with
  | 1 => .rsaSign
  | 2 => .dssSign
  | 3 => .rsaFixedDh
  | 4 => .dssFixedDh
  | 5 => .rsaEphemeralDh
  | 6 => .dssEphemeralDh
  | 20 => .fortezzaDms
  | 64 => .ecdsaSign
  | _ => .unknown value

def asU8 : ClientCertificateType -> UInt8
  | .rsaSign => 1
  | .dssSign => 2
  | .rsaFixedDh => 3
  | .dssFixedDh => 4
  | .rsaEphemeralDh => 5
  | .dssEphemeralDh => 6
  | .fortezzaDms => 20
  | .ecdsaSign => 64
  | .unknown value => value

def coding : Coding ClientCertificateType UInt8 where
  ofCode := fromU8
  code := asU8
  code_ofCode := by
    intro value
    unfold fromU8
    split <;> rfl

end ClientCertificateType

inductive ExtensionType where
  | serverName
  | maxFragmentLength
  | clientCertificateUrl
  | trustedCaKeys
  | truncatedHmac
  | statusRequest
  | userMapping
  | clientAuthz
  | serverAuthz
  | certType
  | supportedGroups
  | ecPointFormats
  | srp
  | signatureAlgorithms
  | useSrtp
  | heartbeat
  | applicationLayerProtocolNegotiation
  | statusRequestV2
  | signedCertificateTimestamp
  | clientCertificateType
  | serverCertificateType
  | padding
  | encryptThenMac
  | extendedMasterSecret
  | tokenBinding
  | cachedInfo
  | sessionTicket
  | preSharedKey
  | earlyData
  | supportedVersions
  | cookie
  | pskKeyExchangeModes
  | certificateAuthorities
  | oidFilters
  | postHandshakeAuth
  | signatureAlgorithmsCert
  | keyShare
  | renegotiationInfo
  | unknown (value : UInt16)
  deriving DecidableEq, Repr

namespace ExtensionType

def fromU16 (value : UInt16) : ExtensionType :=
  match value with
  | 0x0000 => .serverName
  | 0x0001 => .maxFragmentLength
  | 0x0002 => .clientCertificateUrl
  | 0x0003 => .trustedCaKeys
  | 0x0004 => .truncatedHmac
  | 0x0005 => .statusRequest
  | 0x0006 => .userMapping
  | 0x0007 => .clientAuthz
  | 0x0008 => .serverAuthz
  | 0x0009 => .certType
  | 0x000A => .supportedGroups
  | 0x000B => .ecPointFormats
  | 0x000C => .srp
  | 0x000D => .signatureAlgorithms
  | 0x000E => .useSrtp
  | 0x000F => .heartbeat
  | 0x0010 => .applicationLayerProtocolNegotiation
  | 0x0011 => .statusRequestV2
  | 0x0012 => .signedCertificateTimestamp
  | 0x0013 => .clientCertificateType
  | 0x0014 => .serverCertificateType
  | 0x0015 => .padding
  | 0x0016 => .encryptThenMac
  | 0x0017 => .extendedMasterSecret
  | 0x0018 => .tokenBinding
  | 0x0019 => .cachedInfo
  | 0x0023 => .sessionTicket
  | 0x0029 => .preSharedKey
  | 0x002A => .earlyData
  | 0x002B => .supportedVersions
  | 0x002C => .cookie
  | 0x002D => .pskKeyExchangeModes
  | 0x002F => .certificateAuthorities
  | 0x0030 => .oidFilters
  | 0x0031 => .postHandshakeAuth
  | 0x0032 => .signatureAlgorithmsCert
  | 0x0033 => .keyShare
  | 0xFF01 => .renegotiationInfo
  | _ => .unknown value

def asU16 : ExtensionType -> UInt16
  | .serverName => 0x0000
  | .maxFragmentLength => 0x0001
  | .clientCertificateUrl => 0x0002
  | .trustedCaKeys => 0x0003
  | .truncatedHmac => 0x0004
  | .statusRequest => 0x0005
  | .userMapping => 0x0006
  | .clientAuthz => 0x0007
  | .serverAuthz => 0x0008
  | .certType => 0x0009
  | .supportedGroups => 0x000A
  | .ecPointFormats => 0x000B
  | .srp => 0x000C
  | .signatureAlgorithms => 0x000D
  | .useSrtp => 0x000E
  | .heartbeat => 0x000F
  | .applicationLayerProtocolNegotiation => 0x0010
  | .statusRequestV2 => 0x0011
  | .signedCertificateTimestamp => 0x0012
  | .clientCertificateType => 0x0013
  | .serverCertificateType => 0x0014
  | .padding => 0x0015
  | .encryptThenMac => 0x0016
  | .extendedMasterSecret => 0x0017
  | .tokenBinding => 0x0018
  | .cachedInfo => 0x0019
  | .sessionTicket => 0x0023
  | .preSharedKey => 0x0029
  | .earlyData => 0x002A
  | .supportedVersions => 0x002B
  | .cookie => 0x002C
  | .pskKeyExchangeModes => 0x002D
  | .certificateAuthorities => 0x002F
  | .oidFilters => 0x0030
  | .postHandshakeAuth => 0x0031
  | .signatureAlgorithmsCert => 0x0032
  | .keyShare => 0x0033
  | .renegotiationInfo => 0xFF01
  | .unknown value => value

def coding : Coding ExtensionType UInt16 where
  ofCode := fromU16
  code := asU16
  code_ofCode := by
    intro value
    unfold fromU16
    split <;> rfl

end ExtensionType

inductive MessageType where
  | helloRequest
  | clientHello
  | helloVerifyRequest
  | serverHello
  | certificate
  | serverKeyExchange
  | certificateRequest
  | serverHelloDone
  | certificateVerify
  | clientKeyExchange
  | newSessionTicket
  | finished
  | unknown (value : UInt8)
  deriving DecidableEq, Repr

namespace MessageType

def fromU8 (value : UInt8) : MessageType :=
  match value with
  | 0 => .helloRequest
  | 1 => .clientHello
  | 3 => .helloVerifyRequest
  | 2 => .serverHello
  | 11 => .certificate
  | 12 => .serverKeyExchange
  | 13 => .certificateRequest
  | 14 => .serverHelloDone
  | 15 => .certificateVerify
  | 16 => .clientKeyExchange
  | 4 => .newSessionTicket
  | 20 => .finished
  | _ => .unknown value

def asU8 : MessageType -> UInt8
  | .helloRequest => 0
  | .clientHello => 1
  | .helloVerifyRequest => 3
  | .serverHello => 2
  | .certificate => 11
  | .serverKeyExchange => 12
  | .certificateRequest => 13
  | .serverHelloDone => 14
  | .certificateVerify => 15
  | .clientKeyExchange => 16
  | .newSessionTicket => 4
  | .finished => 20
  | .unknown value => value

def coding : Coding MessageType UInt8 where
  ofCode := fromU8
  code := asU8
  code_ofCode := by
    intro value
    unfold fromU8
    split <;> rfl

end MessageType

/-! ## Values and their codes in bytes -/

namespace Coding

variable {Value : Type}

def parse8 (coding : Coding Value UInt8) : Parser Value := coding.ofCode <$> Parser.beU8

def parse16 (coding : Coding Value UInt16) : Parser Value := coding.ofCode <$> Parser.beU16

def bytes8 (coding : Coding Value UInt8) (value : Value) : Bytes := [coding.code value]

def bytes16 (coding : Coding Value UInt16) (value : Value) : Bytes := beBytes 2 (coding.code value).toNat

theorem reads8 {coding : Coding Value UInt8} {value : Value} (canonical : coding.Canonical value) :
    coding.parse8.Reads (coding.bytes8 value) value := by
  have reads := (Parser.reads_beU8 (coding.code value)).map coding.ofCode
  rwa [show coding.ofCode (coding.code value) = value from canonical] at reads

theorem reads16 {coding : Coding Value UInt16} {value : Value} (canonical : coding.Canonical value) :
    coding.parse16.Reads (coding.bytes16 value) value := by
  have reads := (Parser.reads_beU16 (coding.code value)).map coding.ofCode
  rwa [show coding.ofCode (coding.code value) = value from canonical] at reads

theorem parse8_bytes {coding : Coding Value UInt8} {value : Value} {input rest : Bytes}
    (parsed : coding.parse8 input = .ok (value, rest)) :
    coding.Canonical value ∧ input = coding.bytes8 value ++ rest := by
  rcases Parser.map_eq_ok.mp parsed with ⟨code, read, rfl⟩
  refine ⟨coding.canonical_ofCode code, ?_⟩
  rw [bytes8, coding.code_ofCode]
  exact Parser.beU8_eq_ok.mp read

theorem parse16_bytes {coding : Coding Value UInt16} {value : Value} {input rest : Bytes}
    (parsed : coding.parse16 input = .ok (value, rest)) :
    coding.Canonical value ∧ input = coding.bytes16 value ++ rest := by
  rcases Parser.map_eq_ok.mp parsed with ⟨code, read, rfl⟩
  refine ⟨coding.canonical_ofCode code, ?_⟩
  rw [bytes16, coding.code_ofCode]
  exact Parser.beU16_eq_ok.mp read

theorem parse8_eq_ok {coding : Coding Value UInt8} {value : Value} {input rest : Bytes}
    (parsed : coding.parse8 input = .ok (value, rest)) :
    coding.Canonical value ∧ input.length = 1 + rest.length := by
  rcases Parser.map_eq_ok.mp parsed with ⟨code, read, rfl⟩
  exact ⟨coding.canonical_ofCode code, Parser.beU8_length read⟩

theorem parse16_eq_ok {coding : Coding Value UInt16} {value : Value} {input rest : Bytes}
    (parsed : coding.parse16 input = .ok (value, rest)) :
    coding.Canonical value ∧ input.length = 2 + rest.length := by
  rcases Parser.map_eq_ok.mp parsed with ⟨code, read, rfl⟩
  exact ⟨coding.canonical_ofCode code, Parser.beU16_length read⟩

end Coding

/-! ## What the implementation supports -/

inductive KeyExchangeAlgorithm where
  | eecdh
  | psk
  | unknown
  deriving DecidableEq, Repr

namespace Dtls12CipherSuite

/-- All supported cipher suites in server preference order. -/
def supported : List Dtls12CipherSuite :=
  [.ecdheEcdsaAes256GcmSha384, .ecdheEcdsaAes128GcmSha256, .ecdheEcdsaChacha20Poly1305Sha256,
    .ecdheRsaAes256GcmSha384, .ecdheRsaAes128GcmSha256, .ecdheRsaChacha20Poly1305Sha256, .pskAes128Ccm8]

def isSupported (self : Dtls12CipherSuite) : Bool := supported.contains self

/-- Length in bytes of `verify_data`. -/
def verifyDataLength (_ : Dtls12CipherSuite) : Nat := 12

def isPsk : Dtls12CipherSuite -> Bool
  | .pskAes128Ccm8 => true
  | _ => false

def asKeyExchangeAlgorithm : Dtls12CipherSuite -> KeyExchangeAlgorithm
  | .pskAes128Ccm8 => .psk
  | .unknown _ => .unknown
  | _ => .eecdh

def hashAlgorithm : Dtls12CipherSuite -> HashAlgorithm
  | .ecdheEcdsaAes256GcmSha384 | .ecdheRsaAes256GcmSha384 => .sha384
  | .unknown _ => .unknown 0
  | _ => .sha256

/-- None for the PSK suites, which no signature authenticates. -/
def signatureAlgorithm : Dtls12CipherSuite -> Option SignatureAlgorithm
  | .ecdheEcdsaAes256GcmSha384 | .ecdheEcdsaAes128GcmSha256 | .ecdheEcdsaChacha20Poly1305Sha256 => some .ecdsa
  | .ecdheRsaAes128GcmSha256 | .ecdheRsaAes256GcmSha384 | .ecdheRsaChacha20Poly1305Sha256 => some .rsa
  | .pskAes128Ccm8 => none
  | .unknown _ => some (.unknown 0)

/-- The text of a suite in messages. -/
def debug : Dtls12CipherSuite -> String
  | .ecdheEcdsaAes256GcmSha384 => "ECDHE_ECDSA_AES256_GCM_SHA384"
  | .ecdheEcdsaAes128GcmSha256 => "ECDHE_ECDSA_AES128_GCM_SHA256"
  | .ecdheEcdsaChacha20Poly1305Sha256 => "ECDHE_ECDSA_CHACHA20_POLY1305_SHA256"
  | .ecdheRsaAes128GcmSha256 => "ECDHE_RSA_AES128_GCM_SHA256"
  | .ecdheRsaAes256GcmSha384 => "ECDHE_RSA_AES256_GCM_SHA384"
  | .ecdheRsaChacha20Poly1305Sha256 => "ECDHE_RSA_CHACHA20_POLY1305_SHA256"
  | .pskAes128Ccm8 => "PSK_AES128_CCM_8"
  | .unknown value => "Unknown(" ++ toString value ++ ")"

def hasEcc : Dtls12CipherSuite -> Bool
  | .pskAes128Ccm8 | .unknown _ => false
  | _ => true

end Dtls12CipherSuite

def ProtocolVersion.debug : ProtocolVersion -> String
  | .dtls1_0 => "DTLS1_0"
  | .dtls1_2 => "DTLS1_2"
  | .dtls1_3 => "DTLS1_3"
  | .unknown value => "Unknown(" ++ toString value ++ ")"

def CompressionMethod.debug : CompressionMethod -> String
  | .null => "Null"
  | .deflate => "Deflate"
  | .unknown value => "Unknown(" ++ toString value ++ ")"

def HashAlgorithm.debug : HashAlgorithm -> String
  | .none => "None"
  | .md5 => "MD5"
  | .sha1 => "SHA1"
  | .sha224 => "SHA224"
  | .sha256 => "SHA256"
  | .sha384 => "SHA384"
  | .sha512 => "SHA512"
  | .unknown value => "Unknown(" ++ toString value ++ ")"

def SignatureAlgorithm.debug : SignatureAlgorithm -> String
  | .anonymous => "Anonymous"
  | .rsa => "RSA"
  | .dsa => "DSA"
  | .ecdsa => "ECDSA"
  | .unknown value => "Unknown(" ++ toString value ++ ")"

def NamedGroup.debug : NamedGroup -> String
  | .sect163k1 => "Sect163k1"
  | .sect163r1 => "Sect163r1"
  | .sect163r2 => "Sect163r2"
  | .sect193r1 => "Sect193r1"
  | .sect193r2 => "Sect193r2"
  | .sect233k1 => "Sect233k1"
  | .sect233r1 => "Sect233r1"
  | .sect239k1 => "Sect239k1"
  | .sect283k1 => "Sect283k1"
  | .sect283r1 => "Sect283r1"
  | .sect409k1 => "Sect409k1"
  | .sect409r1 => "Sect409r1"
  | .sect571k1 => "Sect571k1"
  | .sect571r1 => "Sect571r1"
  | .secp160k1 => "Secp160k1"
  | .secp160r1 => "Secp160r1"
  | .secp160r2 => "Secp160r2"
  | .secp192k1 => "Secp192k1"
  | .secp192r1 => "Secp192r1"
  | .secp224k1 => "Secp224k1"
  | .secp224r1 => "Secp224r1"
  | .secp256k1 => "Secp256k1"
  | .secp256r1 => "Secp256r1"
  | .secp384r1 => "Secp384r1"
  | .secp521r1 => "Secp521r1"
  | .x25519 => "X25519"
  | .x448 => "X448"
  | .unknown value => "Unknown(" ++ toString value ++ ")"

def CompressionMethod.isSupported (self : CompressionMethod) : Bool := [CompressionMethod.null].contains self

def ClientCertificateType.isSupported (self : ClientCertificateType) : Bool :=
  [ClientCertificateType.ecdsaSign].contains self

def ExtensionType.supported : List ExtensionType :=
  [.supportedGroups, .ecPointFormats, .signatureAlgorithms, .useSrtp, .encryptThenMac, .extendedMasterSecret,
    .renegotiationInfo, .sessionTicket]

def ExtensionType.isSupported (self : ExtensionType) : Bool := supported.contains self

/-- The epoch in which a handshake message is sent. -/
def MessageType.epoch : MessageType -> UInt16
  | .newSessionTicket | .finished => 1
  | _ => 0

structure SignatureAndHashAlgorithm where
  hash : HashAlgorithm
  signature : SignatureAlgorithm
  deriving DecidableEq, Repr

namespace SignatureAndHashAlgorithm

def fromU16 (value : UInt16) : SignatureAndHashAlgorithm :=
  ⟨.fromU8 (value >>> 8).toUInt8, .fromU8 value.toUInt8⟩

def asU16 (self : SignatureAndHashAlgorithm) : UInt16 :=
  (self.hash.asU8.toUInt16 <<< 8) ||| self.signature.asU8.toUInt16

/-- A number of two bytes is put together from its bytes. -/
theorem bytes_of_u16 (value : UInt16) :
    ((value >>> 8).toUInt8.toUInt16 <<< 8) ||| value.toUInt8.toUInt16 = value := by
  have small := value.toNat_lt
  rw [← UInt16.toNat_inj, UInt16.toNat_or, UInt16.toNat_shiftLeft]
  simp only [UInt8.toNat_toUInt16, UInt16.toNat_toUInt8, UInt16.toNat_shiftRight,
    show (8 : UInt16).toNat % 16 = 8 from rfl, Nat.shiftRight_eq_div_pow, Nat.shiftLeft_eq]
  rw [Nat.mod_eq_of_lt (a := value.toNat / 2 ^ 8) (by omega),
    Nat.mod_eq_of_lt (a := value.toNat / 2 ^ 8 * 2 ^ 8) (by omega), ← Nat.shiftLeft_eq,
    ← Nat.shiftLeft_add_eq_or_of_lt (by omega), Nat.shiftLeft_eq]
  omega

def coding : Coding SignatureAndHashAlgorithm UInt16 where
  ofCode := fromU16
  code := asU16
  code_ofCode := by
    intro value
    have hash : (HashAlgorithm.fromU8 (value >>> 8).toUInt8).asU8 = (value >>> 8).toUInt8 :=
      HashAlgorithm.coding.code_ofCode _
    have signature : (SignatureAlgorithm.fromU8 value.toUInt8).asU8 = value.toUInt8 :=
      SignatureAlgorithm.coding.code_ofCode _
    unfold asU16 fromU16
    rw [hash, signature]
    exact bytes_of_u16 value

def supported : List SignatureAndHashAlgorithm :=
  [⟨.sha256, .ecdsa⟩, ⟨.sha384, .ecdsa⟩, ⟨.sha256, .rsa⟩, ⟨.sha384, .rsa⟩]

def isSupported (self : SignatureAndHashAlgorithm) : Bool := supported.contains self

end SignatureAndHashAlgorithm

end Dtls
end P2pSdk
