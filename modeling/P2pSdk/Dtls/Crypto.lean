import P2pSdk.Dtls.Handshake

namespace P2pSdk
namespace Dtls

open Foundation Effect

/-!
# Keys (`dtls12/context.rs`, `crypto/prf_hkdf.rs`)

The primitives come from a provider, which is a parameter: ciphers, key
exchanges, signatures, hashes and HMAC are functions that may fail.  What is
made of them here is the key derivation of TLS 1.2: a pseudorandom function,
the master secret, the key block and its parts.
-/

/-! ## The provider -/

/-- A cipher with a key.  Both directions take the additional data and the nonce.  Decryption works in the
buffer of the ciphertext, so that the text is no longer. -/
structure Cipher where
  encrypt : Bytes -> Aad -> Nonce -> Except String Bytes
  decrypt : Bytes -> Aad -> Nonce -> Except String Bytes
  inPlace : forall ciphertext aad nonce plaintext, decrypt ciphertext aad nonce = .ok plaintext ->
    plaintext.length ≤ ciphertext.length

structure SupportedDtls12CipherSuite where
  suite : Dtls12CipherSuite
  explicitNonceLen : Nat
  tagLen : Nat
  macKeyLen : Nat
  encKeyLen : Nat
  fixedIvLen : Nat
  createCipher : Bytes -> Except String Cipher

structure ActiveKeyExchange where
  pubKey : Bytes
  group : NamedGroup
  complete : Bytes -> Except String Bytes

/-- A group.  An exchange is started with fresh randomness, which is numbered. -/
structure SupportedKxGroup where
  name : NamedGroup
  startExchange : Nat -> Except String ActiveKeyExchange

structure SigningKey where
  algorithm : SignatureAlgorithm
  hashAlgorithm : HashAlgorithm
  supportedHashAlgorithms : List HashAlgorithm
  sign : Bytes -> HashAlgorithm -> Except String Bytes

structure CryptoProvider where
  cipherSuites : List SupportedDtls12CipherSuite
  kxGroups : List SupportedKxGroup
  hmac : HashAlgorithm -> Bytes -> Bytes -> Except String Bytes
  hash : HashAlgorithm -> Bytes -> Bytes
  verifySignature : Bytes -> Bytes -> Bytes -> HashAlgorithm -> SignatureAlgorithm -> Except String Unit

namespace CryptoProvider

def supportedCipherSuites (self : CryptoProvider) : List SupportedDtls12CipherSuite :=
  self.cipherSuites.filter fun supported => supported.suite.isSupported

/-- The entry of a suite, whether it is supported or not. -/
def cipherSuite (self : CryptoProvider) (suite : Dtls12CipherSuite) : Option SupportedDtls12CipherSuite :=
  self.cipherSuites.find? fun supported => supported.suite == suite

def supportedKxGroups (self : CryptoProvider) : List SupportedKxGroup :=
  self.kxGroups.filter fun supported => [NamedGroup.x25519, .secp256r1, .secp384r1].contains supported.name

def hasEcdh (self : CryptoProvider) : Bool :=
  self.supportedCipherSuites.any fun supported => supported.suite.hasEcc

end CryptoProvider

/-- The ciphers of a provider append a tag of the length that their suite states. -/
def CryptoProvider.TagsExact (provider : CryptoProvider) : Prop :=
  forall supported, supported ∈ provider.cipherSuites -> forall key cipher,
    supported.createCipher key = .ok cipher -> forall plaintext aad nonce ciphertext,
      cipher.encrypt plaintext aad nonce = .ok ciphertext -> ciphertext.length = plaintext.length + supported.tagLen

/-! ## The pseudorandom function -/

/-- Append blocks until there are enough bytes.  `key` is the value that the next block is
made from.  Every round appends a byte at least, unless a block is empty. -/
def prfLoop (hmac : Bytes -> Except String Bytes) (labelSeed : Bytes) (outputLen : Nat) :
    Nat -> Bytes -> Bytes -> Except String Bytes
  | 0, _, out => .ok out
  | fuel + 1, key, out =>
      if outputLen ≤ out.length then .ok out
      else do
        let block ← hmac (key ++ labelSeed)
        let out := out ++ block.take (outputLen - out.length)
        if out.length < outputLen then prfLoop hmac labelSeed outputLen fuel (← hmac key) out
        else .ok out

def prfTls12 (provider : CryptoProvider) (secret label seed : Bytes) (outputLen : Nat)
    (hash : HashAlgorithm) : Except String Bytes := do
  let key ← provider.hmac hash secret (label ++ seed)
  prfLoop (provider.hmac hash secret) (label ++ seed) outputLen outputLen key []

/-- The bytes of a text. -/
def ascii (text : String) : Bytes := text.toList.map fun char => UInt8.ofNat char.toNat

/-! ## The context -/

inductive AuthMode where
  | certificate (certificate : Bytes) (privateKey : SigningKey)
  | psk

structure CryptoContext where
  provider : CryptoProvider
  /-- The number of exchanges that were started. -/
  exchanges : Nat
  keyExchange : Option ActiveKeyExchange
  keyExchangePublicKey : Option Bytes
  keyExchangeGroup : Option NamedGroup
  clientWriteIv : Option Iv
  serverWriteIv : Option Iv
  masterSecret : Option Bytes
  preMasterSecret : Option Bytes
  clientCipher : Option Cipher
  serverCipher : Option Cipher
  auth : AuthMode
  sharedKey : Option Bytes
  clientRandom : Option Bytes
  serverRandom : Option Bytes

namespace CryptoContext

def new (auth : AuthMode) (provider : CryptoProvider) : CryptoContext where
  provider := provider
  exchanges := 0
  keyExchange := none
  keyExchangePublicKey := none
  keyExchangeGroup := none
  clientWriteIv := none
  serverWriteIv := none
  masterSecret := none
  preMasterSecret := none
  clientCipher := none
  serverCipher := none
  auth := auth
  sharedKey := none
  clientRandom := none
  serverRandom := none

/-- What the methods of the context fail with: a text, for which the caller makes an error. -/
inductive Failure where
  | text (message : String)
  | panic

abbrev Action := Effect CryptoContext Failure

def ofText {Value : Type} (result : Except String Value) : Action Value :=
  match result with
  | .ok value => pure value
  | .error message => fail (.text message)

theorem ofText_ends {Value : Type} (result : Except String Value) (before : CryptoContext) :
    (ofText result).Ends (fun value after => result = .ok value ∧ after = before) (fun _ after => after = before)
      before := by
  cases result with
  | error message => exact rfl
  | ok value => exact ⟨rfl, rfl⟩

/-- Our public key, from the exchange when it was not stored yet. -/
def maybeInitKeyExchange : Action Bytes := do
  let self ← get
  match self.keyExchangePublicKey with
  | some publicKey => return publicKey
  | none =>
      match self.keyExchange with
      | some exchange =>
          modify fun self =>
            { self with keyExchangePublicKey := some exchange.pubKey, keyExchangeGroup := some exchange.group }
          return exchange.pubKey
      | none => fail (.text "Key exchange not initialized")

def computeSharedSecret (peerPublicKey : Bytes) : Action Unit := do
  let self ← get
  match self.keyExchange with
  | none => fail (.text "Key exchange not initialized")
  | some exchange =>
      modify fun self => { self with keyExchange := none }
      let secret ← ofText (exchange.complete peerPublicKey)
      modify fun self => { self with preMasterSecret := some secret }

def setPsk (key : Bytes) : Action Unit := modify fun self => { self with sharedKey := some key }

/-- Zeros in the place of the exchanged secret, and the shared key. -/
def pskPreMasterSecret (key : Bytes) : Bytes :=
  beBytes 2 key.length ++ (zeros key.length ++ (beBytes 2 key.length ++ key))

def computePskPreMasterSecret : Action Unit := do
  let self ← get
  match self.sharedKey with
  | none => fail (.text "PSK not set")
  | some key => modify fun self => { self with preMasterSecret := some (pskPreMasterSecret key) }

/-- Start an exchange in a group of the provider. -/
def startExchange (group : NamedGroup) (unsupported : String) : Action Unit := do
  let self ← get
  match self.provider.supportedKxGroups.find? fun supported => supported.name == group with
  | none => fail (.text unsupported)
  | some supported =>
      let exchange ← ofText (supported.startExchange self.exchanges)
      modify fun self => { self with exchanges := self.exchanges + 1, keyExchange := some exchange }

def initEcdhServer (group : NamedGroup) (unsupported : String) : Action Bytes := do
  startExchange group unsupported
  maybeInitKeyExchange

def processEcdhParams (group : NamedGroup) (unsupported : String) (serverPublic : Bytes) : Action Unit := do
  startExchange group unsupported
  let _ ← maybeInitKeyExchange
  computeSharedSecret serverPublic

def deriveExtendedMasterSecret (sessionHash : Bytes) (hash : HashAlgorithm) : Action Unit := do
  let self ← get
  match self.preMasterSecret with
  | none => fail (.text "Pre-master secret not available")
  | some secret =>
      let masterSecret ← ofText (prfTls12 self.provider secret (ascii "extended master secret") sessionHash 48 hash)
      modify fun self => { self with masterSecret := some masterSecret, preMasterSecret := none }

/-- The parts of the key block, in the order in which they are cut off: the MAC keys, the
encryption keys and the fixed vectors, the client's first. -/
def keyBlockPart (macKeyLen encKeyLen fixedIvLen : Nat) (keyBlock : Bytes) : Nat -> Bytes
  | 0 => keyBlock.take macKeyLen
  | 1 => (keyBlock.drop macKeyLen).take macKeyLen
  | 2 => (keyBlock.drop (2 * macKeyLen)).take encKeyLen
  | 3 => (keyBlock.drop (2 * macKeyLen + encKeyLen)).take encKeyLen
  | 4 => (keyBlock.drop (2 * macKeyLen + 2 * encKeyLen)).take fixedIvLen
  | _ => (keyBlock.drop (2 * macKeyLen + 2 * encKeyLen + fixedIvLen)).take fixedIvLen

def deriveKeys (cipherSuite : Dtls12CipherSuite) (unsupported : String) (clientRandom serverRandom : Bytes) :
    Action Unit := do
  let self ← get
  match self.masterSecret with
  | none => fail (.text "Master secret not available")
  | some masterSecret =>
      modify fun self => { self with clientRandom := some clientRandom, serverRandom := some serverRandom }
      match self.provider.cipherSuite cipherSuite with
      | none => fail (.text unsupported)
      | some supported =>
          let keyMaterialLen := 2 * (supported.macKeyLen + supported.encKeyLen + supported.fixedIvLen)
          let keyBlock ← ofText (prfTls12 self.provider masterSecret (ascii "key expansion")
            (serverRandom ++ clientRandom) keyMaterialLen cipherSuite.hashAlgorithm)
          let part := keyBlockPart supported.macKeyLen supported.encKeyLen supported.fixedIvLen keyBlock
          let clientIv ← ofIv (Iv.new (part 4))
          modify fun self => { self with clientWriteIv := some clientIv }
          let serverIv ← ofIv (Iv.new (part 5))
          modify fun self => { self with serverWriteIv := some serverIv }
          let clientCipher ← ofText (supported.createCipher (part 2))
          modify fun self => { self with clientCipher := some clientCipher }
          let serverCipher ← ofText (supported.createCipher (part 3))
          modify fun self => { self with serverCipher := some serverCipher }
where
  ofIv (result : Except Fault Iv) : Action Iv :=
    match result with
    | .ok iv => pure iv
    | .error _ => fail .panic

/-- One end encrypts under its own key and decrypts under the peer's. -/
def encrypt (self : CryptoContext) (isClient : Bool) (plaintext : Bytes) (aad : Aad) (nonce : Nonce) :
    Except String Bytes :=
  if isClient then
    match self.clientCipher with
    | some cipher => cipher.encrypt plaintext aad nonce
    | none => .error "Client cipher not initialized"
  else
    match self.serverCipher with
    | some cipher => cipher.encrypt plaintext aad nonce
    | none => .error "Server cipher not initialized"

def decrypt (self : CryptoContext) (isClient : Bool) (ciphertext : Bytes) (aad : Aad) (nonce : Nonce) :
    Except String Bytes :=
  if isClient then
    match self.serverCipher with
    | some cipher => cipher.decrypt ciphertext aad nonce
    | none => .error "Server cipher not initialized"
  else
    match self.clientCipher with
    | some cipher => cipher.decrypt ciphertext aad nonce
    | none => .error "Client cipher not initialized"

theorem decrypt_length {self : CryptoContext} {isClient : Bool} {ciphertext plaintext : Bytes} {aad : Aad}
    {nonce : Nonce} (decrypted : self.decrypt isClient ciphertext aad nonce = .ok plaintext) :
    plaintext.length ≤ ciphertext.length := by
  unfold decrypt at decrypted
  split at decrypted
  · cases isCipher : self.serverCipher with
    | none =>
        rw [isCipher] at decrypted
        cases decrypted
    | some cipher =>
        rw [isCipher] at decrypted
        exact cipher.inPlace _ _ _ _ decrypted
  · cases isCipher : self.clientCipher with
    | none =>
        rw [isCipher] at decrypted
        cases decrypted
    | some cipher =>
        rw [isCipher] at decrypted
        exact cipher.inPlace _ _ _ _ decrypted

/-- The certificate message with our certificate.  Without one it is a panic. -/
def serializeClientCertificate (self : CryptoContext) : Except Fault Bytes :=
  match self.auth with
  | .certificate certificate _ => .ok (Certificate.serialize ⟨⟨[certificate], Nat.le_of_ble_eq_true rfl⟩⟩)
  | .psk => .error .panic

def signData (self : CryptoContext) (data : Bytes) (hash : HashAlgorithm) : Except String Bytes :=
  match self.auth with
  | .certificate _ privateKey => privateKey.sign data hash
  | .psk => .error "No private key configured (PSK mode)"

def generateVerifyData (self : CryptoContext) (handshakeHash : Bytes) (isClient : Bool) (hash : HashAlgorithm) :
    Except String Bytes :=
  match self.masterSecret with
  | none => .error "No master secret available"
  | some masterSecret =>
      prfTls12 self.provider masterSecret (ascii (if isClient then "client finished" else "server finished"))
        handshakeHash 12 hash

/-- Keys for media, made of the randoms of both ends. -/
def extractSrtpKeyingMaterial (self : CryptoContext) (profile : SrtpProfile) (hash : HashAlgorithm) :
    Except String Bytes :=
  match self.masterSecret, self.clientRandom, self.serverRandom with
  | none, _, _ => .error "No master secret available"
  | some _, none, _ => .error "No client random available"
  | some _, some _, none => .error "No server random available"
  | some masterSecret, some clientRandom, some serverRandom =>
      prfTls12 self.provider masterSecret (ascii "EXTRACTOR-dtls_srtp") (clientRandom ++ serverRandom)
        profile.keyingMaterialLen hash

def signatureAlgorithm (self : CryptoContext) : Option SignatureAlgorithm :=
  match self.auth with
  | .certificate _ privateKey => some privateKey.algorithm
  | .psk => none

def privateKeyDefaultHashAlgorithm (self : CryptoContext) : Option HashAlgorithm :=
  match self.auth with
  | .certificate _ privateKey => some privateKey.hashAlgorithm
  | .psk => none

def getKeyExchangeGroupInfo (self : CryptoContext) : Option (CurveType × NamedGroup) :=
  match self.keyExchangeGroup with
  | some group => some (.namedCurve, group)
  | none => self.keyExchange.map fun exchange => (.namedCurve, exchange.group)

/-- A suite with certificates needs a key of its algorithm, one without needs a shared key. -/
def isCipherSuiteCompatible (self : CryptoContext) (cipherSuite : Dtls12CipherSuite) : Bool :=
  match self.auth, cipherSuite.signatureAlgorithm with
  | .certificate _ privateKey, some algorithm => algorithm == privateKey.algorithm
  | .psk, none => true
  | _, _ => false

def verifySignature (self : CryptoContext) (data : Bytes) (signed : DigitallySigned) (certificate : Bytes) :
    Except String Unit :=
  self.provider.verifySignature certificate data signed.signature signed.algorithm.hash signed.algorithm.signature

end CryptoContext

end Dtls
end P2pSdk
