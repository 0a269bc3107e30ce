import P2pSdk.Dtls.Engine

namespace P2pSdk
namespace Dtls

open Foundation Effect

/-!
# The client (`dtls12/client.rs`)

The client is a state machine over the engine.  `makeProgress` runs the
function of the current state until one leaves the state as it is; a function
that fails leaves it too, with what was done up to there.
-/

inductive LocalEvent where
  | peerCert
  | connected
  | keyingMaterial (material : Bytes) (profile : SrtpProfile)
  deriving DecidableEq, Repr

/-- Without a certificate of the peer, and with a buffer too small for it, it is a panic. -/
def LocalEvent.intoOutput (self : LocalEvent) (room : Nat) (peerCerts : List Bytes) : Except Fault Output :=
  match self with
  | .peerCert =>
      match peerCerts with
      | [] => .error .panic
      | certificate :: _ => if certificate.length ≤ room then .ok (.peerCert certificate) else .error .panic
  | .connected => .ok .connected
  | .keyingMaterial material profile => .ok (.keyingMaterial material profile)

namespace Client

inductive State where
  | sendClientHello
  | awaitHelloVerifyRequest
  | awaitServerHello
  | awaitCertificate
  | awaitServerKeyExchange
  | awaitCertificateRequest
  | awaitServerHelloDone
  | sendCertificate
  | sendClientKeyExchange
  | sendCertificateVerify
  | sendChangeCipherSpec
  | sendFinished
  | awaitChangeCipherSpec
  | awaitNewSessionTicket
  | awaitFinished
  | awaitApplicationData
  | closed
  deriving DecidableEq, Repr

end Client

structure Client where
  state : Client.State
  engine : Engine
  random : Option Random
  sessionId : Option SessionId
  cookie : Option Cookie
  negotiatedSrtpProfile : Option SrtpProfile
  serverRandom : Option Random
  serverCertificates : List Bytes
  certificateVerify : Bool
  capturedSessionHash : Option Bytes
  lastNow : Nat
  localEvents : List LocalEvent
  queuedData : List Bytes

namespace Client

abbrev Action := Effect Client Fault

def failWith {Value : Type} (error : Error) : Action Value := fail (.error error)

def onEngine {Value : Type} (action : Engine.Action Value) : Action Value :=
  zoom Client.engine (fun engine self => { self with engine }) action

def newWithEngine (engine : Engine) (now : Nat) : Client where
  state := .sendClientHello
  engine := { engine with isClient := true }
  random := none
  sessionId := none
  cookie := none
  negotiatedSrtpProfile := none
  serverRandom := none
  serverCertificates := []
  certificateVerify := false
  capturedSessionHash := none
  lastNow := now
  localEvents := []
  queuedData := []

/-- Push an event for the user. -/
def emit (event : LocalEvent) : Action Unit :=
  modify fun self => { self with localEvents := self.localEvents ++ [event] }

/-- An option that the order of the flights has set. -/
def unwrap {Value : Type} (value : Option Value) : Action Value :=
  match value with
  | some value => pure value
  | none => fail .panic

def selectedSuite : Action Dtls12CipherSuite := do
  let self ← get
  match self.engine.cipherSuite with
  | some suite => return suite
  | none => failWith (.unexpectedMessage "No cipher suite selected")

/-! ## The messages of the client -/

/-- The extensions of the client hello, no more than five. -/
def helloExtensions (config : Config) : ExtensionVec where
  items :=
    (if config.cryptoProvider.hasEcdh then
        [⟨.supportedGroups, serializeSupportedGroups (config.kxGroups.map SupportedKxGroup.name)⟩,
          ⟨.ecPointFormats, serializeEcPointFormats⟩]
      else []) ++
      [⟨.signatureAlgorithms, serializeSignatureAlgorithms SignatureAndHashAlgorithm.supported⟩,
        ⟨.useSrtp, UseSrtpExtension.default.serialize⟩, ⟨.extendedMasterSecret, []⟩]
  fits := by
    rw [List.length_append]
    split
    · exact Nat.le_of_ble_eq_true rfl
    · exact Nat.le_of_ble_eq_true rfl

/-- The suites that are offered: all that are allowed, those with a shared key when it is configured. -/
def offeredSuites (engine : Engine) : ArrayVec Dtls12CipherSuite 7 where
  items :=
    ((engine.config.dtls12CipherSuites.map SupportedDtls12CipherSuite.suite).filter fun suite =>
      !suite.isPsk || engine.cryptoContext.isCipherSuiteCompatible suite).take Dtls12CipherSuite.supported.length
  fits := by
    rw [List.length_take]
    exact Nat.min_le_left _ _

def handshakeCreateClientHello (cookie : Cookie) (random : Random) (sessionId : SessionId) :
    Engine.Action Bytes := do
  let engine ← get
  let hello : ClientHello :=
    { clientVersion := .dtls1_2
      random
      sessionId
      cookie
      cipherSuites := offeredSuites engine
      compressionMethods := ⟨[.null], Nat.le_refl 1⟩
      extensions := helloExtensions engine.config }
  return hello.serialize

def handshakeCreateCertificate : Engine.Action Bytes := do
  let engine ← get
  ofExcept engine.cryptoContext.serializeClientCertificate

def handshakeCreateClientKeyExchange : Engine.Action Bytes := do
  let engine ← get
  match engine.cipherSuite with
  | none => Engine.failWith (.unexpectedMessage "No cipher suite selected")
  | some suite =>
      match suite.asKeyExchangeAlgorithm with
      | .eecdh =>
          match engine.cryptoContext.getKeyExchangeGroupInfo with
          | none => fail .panic
          | some _ =>
              let publicKey ← Engine.onCryptoContext
                (fun message => .cryptoError ("Failed to generate key exchange: " ++ message))
                CryptoContext.maybeInitKeyExchange
              return UInt8.ofNat publicKey.length :: publicKey
      | .psk =>
          match engine.config.pskIdentity with
          | none => Engine.failWith (.pskError "No PSK identity configured")
          | some identity =>
              match engine.config.pskResolver with
              | none => Engine.failWith (.pskError "No PSK resolver configured")
              | some resolve =>
                  match resolve identity with
                  | none => Engine.failWith (.pskError "PSK resolver returned no key")
                  | some key =>
                      Engine.onCryptoContext (fun message => .cryptoError ("Failed to compute PSK PMS: " ++ message))
                        (do CryptoContext.setPsk key; CryptoContext.computePskPreMasterSecret)
                      return serializeOpaque16 identity
      | .unknown => Engine.failWith (.securityError "Unsupported key exchange algorithm")

/-- Sign the transcript with the algorithms of our key. -/
def handshakeCreateCertificateVerify : Engine.Action Bytes := do
  let engine ← get
  match engine.cryptoContext.privateKeyDefaultHashAlgorithm, engine.cryptoContext.signatureAlgorithm with
  | some hash, some signature =>
      match engine.cryptoContext.signData engine.transcript hash with
      | .error message => Engine.failWith (.cryptoError ("Failed to sign handshake messages: " ++ message))
      | .ok signed => return DigitallySigned.serialize ⟨⟨hash, signature⟩, signed⟩
  | _, _ => fail .panic

/-! ## The functions of the states -/

def sendClientHello : Action State := do
  let self ← get
  let random ← unwrap self.random
  onEngine Engine.flightBegin
  onEngine (Engine.createHandshake .clientHello
    (handshakeCreateClientHello (self.cookie.getD .empty) random (self.sessionId.getD .empty)))
  if self.cookie = none then return .awaitHelloVerifyRequest else return .awaitServerHello

/-- A server hello instead of the request skips it. -/
def awaitHelloVerifyRequest : Action State := do
  let self ← get
  if self.engine.hasCompleteHandshake .serverHello then return .awaitServerHello
  else
    match ← onEngine (Engine.nextHandshake .helloVerifyRequest) with
    | none => return .awaitHelloVerifyRequest
    | some handshake =>
        match handshake.body with
        | .helloVerifyRequest request =>
            if request.serverVersion ≠ .dtls1_2 ∧ request.serverVersion ≠ .dtls1_0 then
              failWith (.securityError
                ("Unsupported DTLS version in HelloVerifyRequest: " ++ request.serverVersion.debug))
            else
              modify fun self => { self with cookie := some request.cookie }
              onEngine Engine.resetClientForHelloVerifyRequest
              return .sendClientHello
        | _ => fail .panic

/-- The first profile that the server selected. -/
def readUseSrtp (data : Bytes) : Action Unit :=
  match UseSrtpExtension.parse data with
  | .ok (useSrtp, _) =>
      match useSrtp.profiles.items with
      | profile :: _ => modify fun self => { self with negotiatedSrtpProfile := some profile }
      | [] => pure ()
  | .error .panic => fail .panic
  | .error _ => pure ()

def isUnknownSuite : Dtls12CipherSuite -> Bool
  | .unknown _ => true
  | _ => false

/-- Suites with a shared key go with our authentication, the others are all that are implemented. -/
def isSuiteCompatible (engine : Engine) (suite : Dtls12CipherSuite) : Bool :=
  if suite.isPsk then engine.cryptoContext.isCipherSuiteCompatible suite else suite.isSupported

/-- What the client does not accept of a server hello. -/
def checkServerHello (engine : Engine) (hello : ServerHello) : Except Fault Unit :=
  let suite := hello.cipherSuite
  let refuse (message : String) : Except Fault Unit := .error (.error (.securityError message))
  if hello.serverVersion ≠ .dtls1_2 then
    refuse ("Unsupported DTLS version from server: " ++ hello.serverVersion.debug)
  else if hello.compressionMethod ≠ .null then
    refuse ("Unsupported compression from server: " ++ hello.compressionMethod.debug)
  else if isUnknownSuite suite then refuse "Server selected unknown cipher suite"
  else if isSuiteCompatible engine suite = false then
    refuse ("Server selected incompatible cipher suite: " ++ suite.debug)
  else if engine.isCipherSuiteAllowed suite = false then
    refuse ("Server selected disallowed cipher suite: " ++ suite.debug)
  else .ok ()

/-- Take over what an accepted hello says. -/
def noteServerHello (hello : ServerHello) : Action State := do
  modify fun self => { self with sessionId := some hello.sessionId, serverRandom := some hello.random }
  match hello.extensions with
  | none => failWith .incompleteServerHello
  | some extensions =>
      each extensions.items fun extension =>
        if extension.extensionType = .useSrtp then readUseSrtp extension.extensionData else pure ()
      -- Without it, one master secret could serve two sessions.
      if extensions.items.all fun extension => extension.extensionType != .extendedMasterSecret then
        failWith (.securityError "Extended Master Secret not negotiated")
      else if hello.cipherSuite.isPsk then return .awaitServerKeyExchange
      else return .awaitCertificate

def acceptServerHello (hello : ServerHello) : Action State := do
  let self ← get
  ofExcept (checkServerHello self.engine hello)
  onEngine (Engine.setCipherSuite hello.cipherSuite)
  noteServerHello hello

def awaitServerHello : Action State := do
  match ← onEngine (Engine.nextHandshake .serverHello) with
  | none => return .awaitServerHello
  | some handshake =>
      match handshake.body with
      | .serverHello hello => acceptServerHello hello
      | _ => fail .panic

def awaitCertificate : Action State := do
  match ← onEngine (Engine.nextHandshake .certificate) with
  | none => return .awaitCertificate
  | some handshake =>
      match handshake.body with
      | .certificate certificate =>
          if certificate.certificateList.items.isEmpty then
            failWith (.unexpectedMessage "No server certificate received")
          else
            modify fun self =>
              { self with serverCertificates := self.serverCertificates ++ certificate.certificateList.items }
            return .awaitServerKeyExchange
      | _ => fail .panic

/-- What the server signs: both randoms and its parameters. -/
def signedParams (clientRandom serverRandom : Random) (params : EcdhParams) : Bytes :=
  clientRandom.bytes ++ (serverRandom.bytes ++ params.serializeParams)

/-- The signature must be one that we offered, of the algorithm of the suite. -/
def checkSignatureAlgorithm (suite : Dtls12CipherSuite) (algorithm : SignatureAndHashAlgorithm) :
    Except Fault Unit :=
  let refuse (message : String) : Except Fault Unit := .error (.error (.cryptoError message))
  if SignatureAndHashAlgorithm.supported.contains algorithm = false then
    refuse "Signature algorithm not offered by client"
  else
    match suite.signatureAlgorithm with
    | none => .ok ()
    | some expected =>
        if algorithm.signature ≠ expected then
          refuse ("Signature algorithm mismatch: " ++ algorithm.signature.debug ++ " != " ++ expected.debug)
        else .ok ()

/-- Verify the parameters of the server and compute the shared secret from them. -/
def acceptEcdhParams (params : EcdhParams) (signed : DigitallySigned) : Action State := do
  let self ← get
  let clientRandom ← unwrap self.random
  let serverRandom ← unwrap self.serverRandom
  let suite ← selectedSuite
  ofExcept (checkSignatureAlgorithm suite signed.algorithm)
  let certificate ← unwrap self.serverCertificates.head?
  match self.engine.cryptoContext.verifySignature (signedParams clientRandom serverRandom params) signed
      certificate with
  | .error message =>
      failWith (.cryptoError ("Failed to verify server key exchange signature: " ++ message))
  | .ok () =>
      onEngine (Engine.onCryptoContext
        (fun message => .cryptoError ("Failed to process server key exchange: " ++ message))
        (CryptoContext.processEcdhParams params.namedGroup
          ("Unsupported ECDHE named group: " ++ params.namedGroup.debug) params.publicKey))
      return .awaitCertificateRequest

def awaitServerKeyExchangeEcdhe : Action State := do
  match ← onEngine (Engine.nextHandshake .serverKeyExchange) with
  | none => return .awaitServerKeyExchange
  | some handshake =>
      match handshake.body with
      | .serverKeyExchange (.ecdh params) =>
          match params.signature with
          | none => failWith (.unexpectedMessage "ServerKeyExchange without signature")
          | some signed => acceptEcdhParams params signed
      -- A hint carries no signature.
      | .serverKeyExchange (.psk _) => failWith (.unexpectedMessage "ServerKeyExchange without signature")
      | _ => fail .panic

/-- The server may leave the message out when it has no hint. -/
def awaitServerKeyExchangePsk : Action State := do
  let self ← get
  if self.engine.hasCompleteHandshake .serverHelloDone then return .awaitServerHelloDone
  else
    match ← onEngine (Engine.nextHandshake .serverKeyExchange) with
    | none => return .awaitServerKeyExchange
    | some handshake =>
        match handshake.body with
        | .serverKeyExchange (.psk _) => return .awaitServerHelloDone
        | .serverKeyExchange (.ecdh _) => failWith (.unexpectedMessage "ECDHE ServerKeyExchange in PSK path")
        | _ => fail .panic

def awaitServerKeyExchange : Action State := do
  let suite ← selectedSuite
  if suite.isPsk then awaitServerKeyExchangePsk else awaitServerKeyExchangeEcdhe

/-- A request for our certificate, unless the server is done. -/
def awaitCertificateRequest : Action State := do
  let self ← get
  if self.engine.hasCompleteHandshake .serverHelloDone then return .awaitServerHelloDone
  else
    match ← onEngine (Engine.nextHandshake .certificateRequest) with
    | none => return .awaitCertificateRequest
    | some handshake =>
        match handshake.body with
        | .certificateRequest request =>
            let hash ← unwrap self.engine.cryptoContext.privateKeyDefaultHashAlgorithm
            if request.supportsHashAlgorithm hash = false then
              failWith (.certificateError ("Unsupported hash algorithm: " ++ hash.debug))
            else
              modify fun self => { self with certificateVerify := true }
              return .awaitServerHelloDone
        | _ => fail .panic

def awaitServerHelloDone : Action State := do
  match ← onEngine (Engine.nextHandshake .serverHelloDone) with
  | none => return .awaitServerHelloDone
  | some handshake =>
      match handshake.body with
      | .serverHelloDone =>
          let suite ← selectedSuite
          let self ← get
          if suite.isPsk then return .sendClientKeyExchange
          else if self.serverCertificates.isEmpty then
            failWith (.certificateError "No server certificate received")
          else
            emit .peerCert
            if self.certificateVerify then return .sendCertificate else return .sendClientKeyExchange
      | _ => fail .panic

def sendCertificate : Action State := do
  onEngine Engine.flightBegin
  onEngine (Engine.createHandshake .certificate handshakeCreateCertificate)
  return .sendClientKeyExchange

/-- The flight has begun when our certificate was sent. -/
def beginFlight (certificateVerify : Bool) : Action Unit :=
  if certificateVerify then pure () else onEngine Engine.flightBegin

/-- The hash of the transcript up to this message goes into the master secret. -/
def sendClientKeyExchange : Action State := do
  let self ← get
  beginFlight self.certificateVerify
  onEngine (Engine.createHandshake .clientKeyExchange handshakeCreateClientKeyExchange)
  let suite ← selectedSuite
  modify fun self =>
    { self with capturedSessionHash := some (self.engine.transcriptHash suite.hashAlgorithm) }
  if self.certificateVerify then return .sendCertificateVerify else return .sendChangeCipherSpec

def sendCertificateVerify : Action State := do
  onEngine (Engine.createHandshake .certificateVerify handshakeCreateCertificateVerify)
  return .sendChangeCipherSpec

def deriveKeys : Action Unit := do
  let self ← get
  let suite ← selectedSuite
  match self.serverRandom with
  | none => failWith (.unexpectedMessage "No server random available")
  | some serverRandom =>
      let clientRandom ← unwrap self.random
      match self.capturedSessionHash with
      | none =>
          failWith (.cryptoError "Extended Master Secret negotiated but session hash not captured")
      | some sessionHash =>
          onEngine (do
            Engine.onCryptoContext
              (fun message => .cryptoError ("Failed to derive extended master secret: " ++ message))
              (CryptoContext.deriveExtendedMasterSecret sessionHash suite.hashAlgorithm)
            Engine.onCryptoContext (fun message => .cryptoError ("Failed to derive keys: " ++ message))
              (CryptoContext.deriveKeys suite ("Unsupported cipher suite: " ++ suite.debug) clientRandom.bytes
                serverRandom.bytes))

def sendChangeCipherSpec : Action State := do
  deriveKeys
  onEngine (Engine.createRecord .changeCipherSpec 0 true [1])
  return .sendFinished

def sendFinished : Action State := do
  onEngine (Engine.createHandshake .finished (Engine.generateVerifyData true))
  return .awaitChangeCipherSpec

def awaitNewSessionTicket : Action State := do
  let self ← get
  if self.engine.hasCompleteHandshake .finished then return .awaitFinished
  else
    match ← onEngine (Engine.nextHandshake .newSessionTicket) with
    | none => return .awaitNewSessionTicket
    | some handshake =>
        match handshake.body with
        | .newSessionTicket _ => return .awaitFinished
        | _ => fail .panic

def emitKeyingMaterial : Action Unit := do
  let self ← get
  match self.negotiatedSrtpProfile with
  | none => pure ()
  | some profile =>
      let suite ← unwrap self.engine.cipherSuite
      match self.engine.cryptoContext.extractSrtpKeyingMaterial profile suite.hashAlgorithm with
      | .ok material => emit (.keyingMaterial material profile)
      | .error _ => pure ()

/-- The hash that the server must have sent is taken before its message joins the transcript. -/
def awaitFinished : Action State := do
  let expected ← onEngine (Engine.generateVerifyData false)
  match ← onEngine (Engine.nextHandshake .finished) with
  | none => return .awaitFinished
  | some handshake =>
      match handshake.body with
      | .finished verifyData =>
          if verifyData ≠ expected then failWith (.securityError "Server Finished verification failed")
          else
            onEngine Engine.flightStopResendTimers
            emit .connected
            emitKeyingMaterial
            onEngine Engine.releaseApplicationData
            return .awaitApplicationData
      | _ => fail .panic

def closeNotifyAlert : Bytes := [1, 0]

/-- Answer the end of the connection, or send what was queued before it began. -/
def awaitApplicationData : Action State := do
  let self ← get
  if self.engine.closeNotifyReceived then
    onEngine Engine.discardPendingWrites
    onEngine (Engine.createRecord .alert 1 false closeNotifyAlert)
    return .closed
  else
    -- The data are drained even if one of them cannot be sent.
    modify fun self => { self with queuedData := [] }
    each self.queuedData fun data => onEngine (Engine.createRecord .applicationData 1 false data)
    return .awaitApplicationData

section Queue

variable (search : BinarySearch Incoming)

def awaitChangeCipherSpec : Action State := do
  match ← onEngine (Engine.nextRecord .changeCipherSpec) with
  | none => return .awaitChangeCipherSpec
  | some _ =>
      onEngine Engine.dropPendingCcs
      onEngine (Engine.enablePeerEncryption search)
      return .awaitNewSessionTicket

def makeProgressFrom (state : State) : Action State :=
  match state with
  | .sendClientHello => sendClientHello
  | .awaitHelloVerifyRequest => awaitHelloVerifyRequest
  | .awaitServerHello => awaitServerHello
  | .awaitCertificate => awaitCertificate
  | .awaitServerKeyExchange => awaitServerKeyExchange
  | .awaitCertificateRequest => awaitCertificateRequest
  | .awaitServerHelloDone => awaitServerHelloDone
  | .sendCertificate => sendCertificate
  | .sendClientKeyExchange => sendClientKeyExchange
  | .sendCertificateVerify => sendCertificateVerify
  | .sendChangeCipherSpec => sendChangeCipherSpec
  | .sendFinished => sendFinished
  | .awaitChangeCipherSpec => awaitChangeCipherSpec search
  | .awaitNewSessionTicket => awaitNewSessionTicket
  | .awaitFinished => awaitFinished
  | .awaitApplicationData => awaitApplicationData
  | .closed => pure .closed

/-- Run the functions of the states until one stays.  The source has no bound on the rounds; it
makes fewer than the 20 that `makeProgress` allows (`makeProgress_ends`). -/
def makeProgressLoop : Nat -> Action Unit
  | 0 => pure ()
  | fuel + 1 => do
      let self ← get
      let newState ← makeProgressFrom search self.state
      if self.state ≠ newState then
        modify fun self => { self with state := newState }
        makeProgressLoop fuel
      else pure ()

def makeProgress : Action Unit := makeProgressLoop search 20

/-! ## The interface -/

def handlePacket (packet : Bytes) : Action Unit := do
  onEngine (Engine.parsePacket search packet)
  makeProgress search

/-- The random of the client starts with the time in seconds. -/
def newRandom (now : Nat) : Action Unit := do
  let self ← get
  let random : Random :=
    ⟨beBytes 4 (now / 1000000000) ++ self.engine.rng.peek 28, by
      rw [List.length_append, beBytes_length, SeededRng.peek_length]⟩
  let _ ← onEngine (Engine.randomBytes 28)
  modify fun self => { self with random := some random }

def initRandom (now : Nat) : Action Unit := do
  let self ← get
  if self.random = none then newRandom now else pure ()

def handleTimeout (now : Nat) : Action Unit := do
  modify fun self => { self with lastNow := now }
  initRandom now
  onEngine (Engine.handleTimeout now)
  makeProgress search

end Queue

def pollOutput (room : Nat) : Action Output := do
  let self ← get
  match self.localEvents with
  | event :: rest =>
      modify fun self => { self with localEvents := rest }
      ofExcept (event.intoOutput room self.serverCertificates)
  | [] => onEngine (Engine.pollOutput room self.lastNow)

def sendApplicationData (data : Bytes) : Action Unit := do
  let self ← get
  if self.state = .closed then failWith .connectionClosed
  else if self.state ≠ .awaitApplicationData then
    modify fun self => { self with queuedData := self.queuedData ++ [data] }
  else onEngine (Engine.createRecord .applicationData 1 false data)

def close : Action Unit := do
  let self ← get
  if self.state = .closed then pure ()
  else if self.state ≠ .awaitApplicationData then
    onEngine Engine.abort
    modify fun self => { self with state := .closed }
  else
    onEngine (Engine.createRecord .alert 1 false closeNotifyAlert)
    modify fun self => { self with state := .closed }

end Client

end Dtls
end P2pSdk
