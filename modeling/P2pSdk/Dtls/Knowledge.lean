import P2pSdk.Dtls.ClientSteps
import P2pSdk.Dtls.Keys

namespace P2pSdk
namespace Dtls

open Foundation Parser Effect

/-!
# What the states of a client know

A client that is connected has checked the last message of the server against
the transcript, with a master secret made from a secret that was agreed on under
a signature of the server, or from a shared key.  Each state of the client knows
something of what leads there, and every function of a state hands on what the
next state knows.
-/

/-! ## Messages of the peer -/

namespace Body

/-- Only a Finished message gives such a body, and it is the front of the message. -/
theorem finished_of_parse {msgType : MessageType} {cipherSuite : Option Dtls12CipherSuite}
    {input behind verifyData : Bytes} (parsed : Body.parse msgType cipherSuite input = .ok (.finished verifyData, behind)) :
    msgType = .finished ∧ input = verifyData ++ behind := by
  cases msgType with
  | finished =>
      cases cipherSuite with
      | none => cases parsed
      | some suite =>
          rcases map_eq_ok.mp parsed with ⟨taken, isTaken, same⟩
          cases same
          exact ⟨rfl, (take_eq_ok.mp isTaken).1⟩
  | serverKeyExchange =>
      cases cipherSuite with
      | none => cases parsed
      | some suite =>
          rcases map_eq_ok.mp parsed with ⟨_, _, same⟩
          cases same
  | clientKeyExchange =>
      cases cipherSuite with
      | none => cases parsed
      | some suite =>
          rcases map_eq_ok.mp parsed with ⟨_, _, same⟩
          cases same
  | helloRequest => cases parsed
  | serverHelloDone => cases parsed
  | newSessionTicket => cases parsed
  | unknown value => cases parsed
  | _ =>
      rcases map_eq_ok.mp parsed with ⟨_, _, same⟩
      cases same

end Body

namespace Handshake

/-- A message is whole: its bytes, and what they are parsed to. -/
structure Whole (cipherSuite : Option Dtls12CipherSuite) (handshake : Handshake) (bytes : Bytes) : Prop where
  parsed : exists behind, Body.parse handshake.header.msgType cipherSuite bytes = .ok (handshake.body, behind) ∧
    (handshake.header.msgType = .finished -> behind = [])

theorem defragment_ends (cipherSuite : Option Dtls12CipherSuite) (fragments : List Handshake) (before : Bytes) :
    (defragment cipherSuite fragments).Ends
      (fun handshake after => exists bytes, after = before ++ (handshake.header.serialize ++ bytes) ∧
        Whole cipherSuite handshake bytes)
      (fun _ after => before <+: after) before := by
  cases fragments with
  | nil => exact List.prefix_refl before
  | cons first rest =>
      unfold defragment
      rw [ends_bind]
      cases joinFragments (mergedFragments (first :: rest)) with
      | error fault => exact List.prefix_refl before
      | ok buffer =>
          rw [ends_ofExcept_ok, ends_ite]
          refine ⟨fun _ => List.prefix_refl before, fun _ => ?_⟩
          rw [ends_bind, ends_modify]
          split
          · exact List.prefix_append _ _
          · rename_i body behind parsed
            rw [ends_ite]
            refine ⟨fun _ => List.prefix_append _ _, fun complete => ⟨buffer, rfl, behind, parsed, fun isFinished => ?_⟩⟩
            have isType : first.header.msgType = .finished := isFinished
            rw [isType] at complete
            simpa using complete

end Handshake

namespace Engine

/-- The parts that a handshake is about are as before. -/
structure SameCore (before after : Engine) : Prop where
  keying : after.keying = before.keying
  transcript : after.transcript = before.transcript
  released : after.releaseAppData = before.releaseAppData

/-- A property of these parts. -/
theorem framed_of_core {holds : Engine -> Prop}
    (core : forall {before after}, holds before -> SameCore before after -> holds after) : Framed holds where
  same := fun held same => core held ⟨same.keying, same.transcript, same.released⟩
  cleared := fun held same => core held ⟨same.keying, same.transcript, same.released⟩
  createRecord := by
    intro contentType epoch save fragment before held
    refine (sends_createRecord contentType epoch save fragment before before ⟨rfl, rfl, rfl⟩).mono ?_ ?_
    · exact fun _ _ beside => core held ⟨beside.keying, beside.transcript, congrArg Inbox.releaseAppData beside.inbox⟩
    · exact fun _ _ beside => core held ⟨beside.keying, beside.transcript, congrArg Inbox.releaseAppData beside.inbox⟩

/-- Beside the transcript, the parts that a handshake is about are as before. -/
structure SameKeys (before after : Engine) : Prop where
  keying : after.keying = before.keying
  released : after.releaseAppData = before.releaseAppData

theorem nextHandshake_ends (wanted : MessageType) (before : Engine) :
    (nextHandshake wanted).Ends
      (fun found after => SameKeys before after ∧
        match found with
        | none => after.transcript = before.transcript
        | some handshake => exists bytes, after.transcript = before.transcript ++ (handshake.header.serialize ++ bytes) ∧
            handshake.Whole before.cipherSuite bytes)
      (fun _ after => SameKeys before after ∧ before.transcript <+: after.transcript) before := by
  unfold nextHandshake
  rw [ends_bind, ends_get, ends_ite]
  refine ⟨fun _ => ⟨⟨rfl, rfl⟩, rfl⟩, fun _ => ?_⟩
  rw [ends_bind, ends_modify, ends_bind, ends_zoom]
  refine (Handshake.defragment_ends before.cipherSuite _ before.transcript).mono ?_ ?_
  · rintro handshake after ⟨bytes, grown, whole⟩
    rw [ends_bind, ends_modify]
    exact ⟨⟨rfl, rfl⟩, bytes, grown, whole⟩
  · exact fun _ after grown => ⟨⟨rfl, rfl⟩, grown⟩

theorem generateVerifyData_ends (isClient : Bool) (before : Engine) :
    (generateVerifyData isClient).Ends
      (fun verifyData after => after = before ∧ exists suite, before.cipherSuite = some suite ∧
        before.cryptoContext.generateVerifyData (before.transcriptHash suite.hashAlgorithm) isClient
          suite.hashAlgorithm = .ok verifyData)
      (fun _ after => after = before) before := by
  unfold generateVerifyData
  rw [ends_bind, ends_get]
  split
  · exact rfl
  · rename_i suite selected
    split
    · exact rfl
    · rename_i verifyData made
      rw [ends_ite]
      exact ⟨fun _ => rfl, fun _ => ⟨rfl, suite, selected, made⟩⟩

/-- A transcript that ends with a message of some type. -/
def EndsWith (msgType : MessageType) (transcript : Bytes) : Prop :=
  exists (earlier : Bytes) (messageSeq : UInt16) (body : Bytes),
    let header : Header :=
      { msgType, length := body.length, messageSeq, fragmentOffset := 0, fragmentLength := body.length }
    transcript = earlier ++ (header.serialize ++ body)

theorem sendHandshake_ends (msgType : MessageType) (body : Bytes) (before : Engine) :
    (sendHandshake msgType body).Ends (fun _ after => EndsWith msgType after.transcript) (fun _ _ => True) before := by
  unfold sendHandshake
  rw [ends_bind, ends_get, ends_bind, ends_modify, ends_ite]
  refine ⟨fun _ => trivial, fun _ => ?_⟩
  refine (sends_sendFragments _ _ _ _ _ _ _ _ ⟨rfl, rfl, rfl⟩).mono ?_ fun _ _ _ => trivial
  intro _ after beside
  rw [beside.transcript]
  exact ⟨before.transcript, before.nextHandshakeSeqNo, body, rfl⟩

/-- A message that is sent is the last one of the transcript. -/
theorem createHandshake_ends (msgType : MessageType) (fill : Action Bytes) (before : Engine) :
    (createHandshake msgType fill).Ends (fun _ after => EndsWith msgType after.transcript) (fun _ _ => True) before := by
  have filled : Keeps (fun _ => True) fill := fun _ _ => by
    unfold Ends
    split
    · trivial
    · trivial
  unfold createHandshake
  rw [ends_bind]
  refine (filled before trivial).mono ?_ fun _ _ kept => kept
  exact fun body between _ => sendHandshake_ends msgType body between

/-- A message that is sent only makes the transcript longer. -/
theorem keeps_sendHandshake {holds : Engine -> Prop}
    (core : forall {before after}, holds before -> SameCore before after -> holds after)
    (grow : forall engine others, holds engine -> holds { engine with transcript := engine.transcript ++ others })
    (msgType : MessageType) (body : Bytes) : Keeps holds (sendHandshake msgType body) := by
  refine keeps_get.bind fun self => Keeps.bind (keeps_modify fun engine held => ?_) fun _ => ?_
  · exact core (grow engine _ held) ⟨rfl, rfl, rfl⟩
  · exact (keeps_fail _).ite (framed_sendFragments (framed_of_core core) _ _ _ _ _ _)

end Engine

/-- The events that tell the user to trust the connection. -/
def LocalEvent.isReport : LocalEvent -> Bool
  | .peerCert => false
  | .connected => true
  | .keyingMaterial _ _ => true

namespace Client

/-! ## What is known in the states -/

/-- What the security of a connection rests on. -/
structure View where
  keying : Engine.Keying
  transcript : Bytes
  released : Bool
  random : Option Random
  serverRandom : Option Random
  serverCertificates : List Bytes
  capturedSessionHash : Option Bytes
  reports : List LocalEvent

def view (self : Client) : View where
  keying := self.engine.keying
  transcript := self.engine.transcript
  released := self.engine.releaseAppData
  random := self.random
  serverRandom := self.serverRandom
  serverCertificates := self.serverCertificates
  capturedSessionHash := self.capturedSessionHash
  reports := self.localEvents.filter LocalEvent.isReport

section Known

variable (config : Config)

/-- The configuration and the provider stay the same. -/
structure Fixed (view : View) : Prop where
  configured : view.keying.config = config
  provider : view.keying.cryptoContext.provider = config.cryptoProvider

/-- A certificate of the server signs both randoms and the parameters of the exchange, with an
algorithm that the client offers and that goes with the suite. -/
structure Signed (suite : Dtls12CipherSuite) (view : View) (params : EcdhParams) (signed : DigitallySigned) :
    Prop where
  algorithm : checkSignatureAlgorithm suite signed.algorithm = .ok ()
  verified : exists certificate clientRandom serverRandom, view.serverCertificates.head? = some certificate ∧
    view.random = some clientRandom ∧ view.serverRandom = some serverRandom ∧
      config.cryptoProvider.verifySignature certificate (signedParams clientRandom serverRandom params)
        signed.signature signed.algorithm.hash signed.algorithm.signature = .ok ()

/-- Where a secret comes from: an exchange with a key that the server signed, or a shared key. -/
inductive Secret (suite : Dtls12CipherSuite) (view : View) : Bytes -> Prop
  | exchanged {params : EcdhParams} {signed : DigitallySigned} {secret : Bytes} (certified : suite.isPsk = false)
      (isSigned : Signed config suite view params signed)
      (agreed : CryptoContext.Agreed config.cryptoProvider params.namedGroup params.publicKey secret) :
      Secret suite view secret
  | shared {identity key : Bytes} {resolve : Bytes -> Option Bytes} (isPsk : suite.isPsk = true)
      (isIdentity : config.pskIdentity = some identity) (isResolver : config.pskResolver = some resolve)
      (resolved : resolve identity = some key) : Secret suite view (CryptoContext.pskPreMasterSecret key)

/-- A suite was selected that the configuration allows. -/
structure Selected (suite : Dtls12CipherSuite) (view : View) : Prop where
  selected : view.keying.cipherSuite = some suite
  allowed : (config.dtls12CipherSuites.any fun supported => supported.suite == suite) = true

/-- The front of a transcript that ends with the message ClientKeyExchange. -/
structure UpToKeyExchange (start transcript : Bytes) : Prop where
  front : start <+: transcript
  ends : Engine.EndsWith .clientKeyExchange start

/-- The master secret is made of the secret and of the transcript up to ClientKeyExchange. -/
structure Master (suite : Dtls12CipherSuite) (view : View) (transcript masterSecret : Bytes) : Prop where
  current : view.keying.cryptoContext.masterSecret = some masterSecret
  derived : exists secret start, Secret config suite view secret ∧ UpToKeyExchange start transcript ∧
    prfTls12 config.cryptoProvider secret (ascii "extended master secret")
      (config.cryptoProvider.hash suite.hashAlgorithm start) 48 suite.hashAlgorithm = .ok masterSecret

/-- The transcript ends with a Finished message of the server, which is right. -/
structure Authenticated (suite : Dtls12CipherSuite) (view : View) (masterSecret : Bytes) : Prop where
  selected : Selected config suite view
  finished : exists (earlier : Bytes) (header : Header) (verifyData : Bytes),
    view.transcript = earlier ++ (header.serialize ++ verifyData) ∧ header.msgType = .finished ∧
      Master config suite view earlier masterSecret ∧
      prfTls12 config.cryptoProvider masterSecret (ascii "server finished")
        (config.cryptoProvider.hash suite.hashAlgorithm earlier) 12 suite.hashAlgorithm = .ok verifyData

/-- Nothing was reported or released. -/
structure Silent (view : View) : Prop where
  fixed : Fixed config view
  unreleased : view.released = false
  unreported : view.reports = []

/-- Before a suite is selected. -/
structure Started (view : View) : Prop where
  silent : Silent config view
  noSecret : view.keying.cryptoContext.preMasterSecret = none

/-- After a hello of the server. -/
structure Greeted (view : View) : Prop where
  started : Started config view
  selected : exists suite, Selected config suite view

/-- Any secret comes from an exchange or a shared key. -/
structure Exchanged (view : View) : Prop where
  silent : Silent config view
  secret : exists suite, Selected config suite view ∧
    forall secret, view.keying.cryptoContext.preMasterSecret = some secret -> Secret config suite view secret

/-- The hash of the transcript up to ClientKeyExchange was taken. -/
structure Hashed (view : View) : Prop where
  silent : Silent config view
  hashed : exists suite start, Selected config suite view ∧
    (forall secret, view.keying.cryptoContext.preMasterSecret = some secret -> Secret config suite view secret) ∧
    UpToKeyExchange start view.transcript ∧
    view.capturedSessionHash = some (config.cryptoProvider.hash suite.hashAlgorithm start)

/-- The keys were derived. -/
structure Keyed (view : View) : Prop where
  hashed : Hashed config view
  master : exists suite masterSecret, Selected config suite view ∧
    Master config suite view view.transcript masterSecret

/-- What is reported is the connection, and the keys for media that belong to it. -/
inductive Proper (view : View) : List LocalEvent -> Prop
  | connected : Proper view [.connected]
  | keyed {suite : Dtls12CipherSuite} {profile : SrtpProfile} {material : Bytes}
      (selected : view.keying.cipherSuite = some suite)
      (extracted : view.keying.cryptoContext.extractSrtpKeyingMaterial profile suite.hashAlgorithm = .ok material) :
      Proper view [.connected, .keyingMaterial material profile]

/-- The server is authenticated, and with what was given out before, the reports are as they should be. -/
structure Concluded (given : List LocalEvent) (view : View) : Prop where
  authenticated : exists suite masterSecret, Authenticated config suite view masterSecret
  proper : Proper view (given ++ view.reports)

/-- Nothing was reported or released, or the server is authenticated. -/
structure Finished (view : View) : Prop where
  fixed : Fixed config view
  outcome : (view.released = false ∧ view.reports = []) ∨ Concluded config [] view

def Known : State -> View -> Prop
  | .sendClientHello | .awaitHelloVerifyRequest | .awaitServerHello => Started config
  | .awaitCertificate | .awaitServerKeyExchange => Greeted config
  | .awaitCertificateRequest | .awaitServerHelloDone | .sendCertificate | .sendClientKeyExchange => Exchanged config
  | .sendCertificateVerify | .sendChangeCipherSpec => Hashed config
  | .sendFinished | .awaitChangeCipherSpec | .awaitNewSessionTicket | .awaitFinished => Keyed config
  | .awaitApplicationData | .closed => Finished config

end Known

/-! ## What is known stays known -/

/-- The transcript may be longer, and the random may have been drawn. -/
structure Extends (before after : View) : Prop where
  keying : after.keying = before.keying
  transcript : before.transcript <+: after.transcript
  released : after.released = before.released
  random : forall random, before.random = some random -> after.random = some random
  serverRandom : after.serverRandom = before.serverRandom
  serverCertificates : after.serverCertificates = before.serverCertificates
  capturedSessionHash : after.capturedSessionHash = before.capturedSessionHash
  reports : after.reports = before.reports

section Extends

variable {config : Config} {before after : View} {suite : Dtls12CipherSuite}

theorem UpToKeyExchange.extend {start transcript longer : Bytes} (upTo : UpToKeyExchange start transcript)
    (isFront : transcript <+: longer) : UpToKeyExchange start longer := ⟨upTo.front.trans isFront, upTo.ends⟩

theorem Fixed.extend (fixed : Fixed config before) (extend : Extends before after) : Fixed config after := by
  refine ⟨?_, ?_⟩
  · rw [extend.keying]
    exact fixed.configured
  · rw [extend.keying]
    exact fixed.provider

theorem Selected.extend (isSelected : Selected config suite before) (extend : Extends before after) :
    Selected config suite after := by
  refine ⟨?_, isSelected.allowed⟩
  rw [extend.keying]
  exact isSelected.selected

/-- It depends on the randoms and the certificates only. -/
theorem Secret.carry {secret : Bytes} (isSecret : Secret config suite before secret)
    (random : forall random, before.random = some random -> after.random = some random)
    (serverRandom : after.serverRandom = before.serverRandom)
    (serverCertificates : after.serverCertificates = before.serverCertificates) :
    Secret config suite after secret := by
  cases isSecret with
  | exchanged certified isSigned agreed =>
      rcases isSigned with ⟨algorithm, certificate, clientRandom, other, isHead, isClient, isServer, verified⟩
      refine .exchanged certified ⟨algorithm, certificate, clientRandom, other, ?_, ?_, ?_, verified⟩ agreed
      · exact (congrArg List.head? serverCertificates).trans isHead
      · exact random clientRandom isClient
      · exact serverRandom.trans isServer
  | shared isPsk isIdentity isResolver resolved => exact .shared isPsk isIdentity isResolver resolved

theorem Secret.extend {secret : Bytes} (isSecret : Secret config suite before secret)
    (extend : Extends before after) : Secret config suite after secret :=
  isSecret.carry extend.random extend.serverRandom extend.serverCertificates

theorem Master.extend {transcript longer masterSecret : Bytes} (master : Master config suite before transcript masterSecret)
    (extend : Extends before after) (isPrefix : transcript <+: longer) :
    Master config suite after longer masterSecret := by
  rcases master with ⟨current, secret, start, isSecret, isStart, derived⟩
  refine ⟨?_, secret, start, isSecret.extend extend, isStart.extend isPrefix, derived⟩
  rw [extend.keying]
  exact current

theorem Silent.extend (silent : Silent config before) (extend : Extends before after) : Silent config after :=
  ⟨silent.fixed.extend extend, extend.released.trans silent.unreleased, extend.reports.trans silent.unreported⟩

/-- It depends on no more than this. -/
theorem Started.sameKeys (started : Started config before) (keying : after.keying = before.keying)
    (released : after.released = before.released) (reports : after.reports = before.reports) :
    Started config after := by
  refine ⟨⟨⟨?_, ?_⟩, released.trans started.silent.unreleased, reports.trans started.silent.unreported⟩, ?_⟩
  · rw [keying]
    exact started.silent.fixed.configured
  · rw [keying]
    exact started.silent.fixed.provider
  · rw [keying]
    exact started.noSecret

theorem Greeted.sameKeys (greeted : Greeted config before) (keying : after.keying = before.keying)
    (released : after.released = before.released) (reports : after.reports = before.reports) :
    Greeted config after := by
  rcases greeted.selected with ⟨suite, isSelected, isAllowed⟩
  refine ⟨greeted.started.sameKeys keying released reports, suite, ?_, isAllowed⟩
  rw [keying]
  exact isSelected

theorem Started.extend (started : Started config before) (extend : Extends before after) : Started config after :=
  started.sameKeys extend.keying extend.released extend.reports

theorem Greeted.extend (greeted : Greeted config before) (extend : Extends before after) : Greeted config after :=
  greeted.sameKeys extend.keying extend.released extend.reports

theorem Exchanged.extend (exchanged : Exchanged config before) (extend : Extends before after) :
    Exchanged config after := by
  rcases exchanged.secret with ⟨suite, selected, secrets⟩
  refine ⟨exchanged.silent.extend extend, suite, selected.extend extend, fun secret isSecret => ?_⟩
  rw [extend.keying] at isSecret
  exact (secrets secret isSecret).extend extend

theorem Hashed.extend (hashed : Hashed config before) (extend : Extends before after) : Hashed config after := by
  rcases hashed.hashed with ⟨suite, start, selected, secrets, isStart, captured⟩
  refine ⟨hashed.silent.extend extend, suite, start, selected.extend extend, fun secret isSecret => ?_,
    isStart.extend extend.transcript, extend.capturedSessionHash.trans captured⟩
  rw [extend.keying] at isSecret
  exact (secrets secret isSecret).extend extend

theorem Keyed.extend (keyed : Keyed config before) (extend : Extends before after) : Keyed config after := by
  rcases keyed.master with ⟨suite, masterSecret, selected, master⟩
  exact ⟨keyed.hashed.extend extend, suite, masterSecret, selected.extend extend,
    master.extend extend extend.transcript⟩

theorem Authenticated.extend {masterSecret : Bytes} (authenticated : Authenticated config suite before masterSecret)
    (extend : Extends before after) (same : after.transcript = before.transcript) :
    Authenticated config suite after masterSecret := by
  rcases authenticated.finished with ⟨earlier, header, verifyData, isEnd, isFinished, master, verified⟩
  exact ⟨authenticated.selected.extend extend, earlier, header, verifyData, same.trans isEnd, isFinished,
    master.extend extend (List.prefix_refl _), verified⟩

/-- It does not depend on what is released or reported. -/
theorem Authenticated.reporting {masterSecret : Bytes} (authenticated : Authenticated config suite before masterSecret)
    (released : Bool) (reports : List LocalEvent) :
    Authenticated config suite { before with released, reports } masterSecret := by
  rcases authenticated.finished with
    ⟨earlier, header, verifyData, isEnd, isFinished, ⟨current, secret, start, isSecret, isStart, derived⟩, verified⟩
  refine ⟨⟨authenticated.selected.selected, authenticated.selected.allowed⟩, earlier, header, verifyData, isEnd,
    isFinished, ⟨current, secret, start, ?_, isStart, derived⟩, verified⟩
  exact isSecret.carry (fun _ => id) rfl rfl

/-- It depends on the keys only. -/
theorem Proper.carry {reports : List LocalEvent} (proper : Proper before reports)
    (keying : after.keying = before.keying) : Proper after reports := by
  cases proper with
  | connected => exact .connected
  | keyed selected extracted =>
      rw [← keying] at selected extracted
      exact .keyed selected extracted

theorem Concluded.extend {given : List LocalEvent} (concluded : Concluded config given before)
    (extend : Extends before after) (same : after.transcript = before.transcript) : Concluded config given after := by
  rcases concluded.authenticated with ⟨suite, masterSecret, authenticated⟩
  refine ⟨⟨suite, masterSecret, authenticated.extend extend same⟩, ?_⟩
  rw [extend.reports]
  exact concluded.proper.carry extend.keying

theorem Finished.extend (finished : Finished config before) (extend : Extends before after)
    (same : after.transcript = before.transcript) : Finished config after := by
  refine ⟨finished.fixed.extend extend, ?_⟩
  rcases finished.outcome with silent | concluded
  · exact .inl ⟨extend.released.trans silent.1, extend.reports.trans silent.2⟩
  · exact .inr (concluded.extend extend same)

end Extends

theorem Silent.finished {config : Config} {view : View} (silent : Silent config view) : Finished config view :=
  ⟨silent.fixed, .inl ⟨silent.unreleased, silent.unreported⟩⟩

/-- A property that is kept where the view is extended, with the same transcript. -/
def Stable (holds : View -> Prop) : Prop :=
  forall before after, holds before -> Extends before after -> after.transcript = before.transcript -> holds after

/-- A property that is kept where the view is extended. -/
def Grows (holds : View -> Prop) : Prop := forall before after, holds before -> Extends before after -> holds after

theorem Grows.stable {holds : View -> Prop} (grows : Grows holds) : Stable holds :=
  fun before after held extend _ => grows before after held extend

theorem known_stable (config : Config) (state : State) : Stable (Known config state) := by
  cases state with
  | sendClientHello => exact Grows.stable fun _ _ => Started.extend
  | awaitHelloVerifyRequest => exact Grows.stable fun _ _ => Started.extend
  | awaitServerHello => exact Grows.stable fun _ _ => Started.extend
  | awaitCertificate => exact Grows.stable fun _ _ => Greeted.extend
  | awaitServerKeyExchange => exact Grows.stable fun _ _ => Greeted.extend
  | awaitCertificateRequest => exact Grows.stable fun _ _ => Exchanged.extend
  | awaitServerHelloDone => exact Grows.stable fun _ _ => Exchanged.extend
  | sendCertificate => exact Grows.stable fun _ _ => Exchanged.extend
  | sendClientKeyExchange => exact Grows.stable fun _ _ => Exchanged.extend
  | sendCertificateVerify => exact Grows.stable fun _ _ => Hashed.extend
  | sendChangeCipherSpec => exact Grows.stable fun _ _ => Hashed.extend
  | sendFinished => exact Grows.stable fun _ _ => Keyed.extend
  | awaitChangeCipherSpec => exact Grows.stable fun _ _ => Keyed.extend
  | awaitNewSessionTicket => exact Grows.stable fun _ _ => Keyed.extend
  | awaitFinished => exact Grows.stable fun _ _ => Keyed.extend
  | awaitApplicationData => exact fun _ _ => Finished.extend
  | closed => exact fun _ _ => Finished.extend

/-- Before the handshake is over, nothing was reported or released. -/
theorem Known.silent {config : Config} {state : State} {view : View} (known : Known config state view) :
    Silent config view ∨ ((state = .awaitApplicationData ∨ state = .closed) ∧ Finished config view) := by
  cases state with
  | sendClientHello => exact .inl (Started.silent known)
  | awaitHelloVerifyRequest => exact .inl (Started.silent known)
  | awaitServerHello => exact .inl (Started.silent known)
  | awaitCertificate => exact .inl (Greeted.started known).silent
  | awaitServerKeyExchange => exact .inl (Greeted.started known).silent
  | awaitCertificateRequest => exact .inl (Exchanged.silent known)
  | awaitServerHelloDone => exact .inl (Exchanged.silent known)
  | sendCertificate => exact .inl (Exchanged.silent known)
  | sendClientKeyExchange => exact .inl (Exchanged.silent known)
  | sendCertificateVerify => exact .inl (Hashed.silent known)
  | sendChangeCipherSpec => exact .inl (Hashed.silent known)
  | sendFinished => exact .inl (Keyed.hashed known).silent
  | awaitChangeCipherSpec => exact .inl (Keyed.hashed known).silent
  | awaitNewSessionTicket => exact .inl (Keyed.hashed known).silent
  | awaitFinished => exact .inl (Keyed.hashed known).silent
  | awaitApplicationData => exact .inr ⟨.inl rfl, known⟩
  | closed => exact .inr ⟨.inr rfl, known⟩

theorem Known.finished {config : Config} {state : State} {view : View} (known : Known config state view) :
    Finished config view := by
  rcases known.silent with silent | ⟨_, finished⟩
  · exact silent.finished
  · exact finished

/-! ## Effects on the client -/

/-- What the states know, as a property of the client. -/
abbrev Viewed (known : State -> View -> Prop) (state : State) (client : Client) : Prop := known state client.view

/-- The client is in a state, and something holds of what it rests on. -/
abbrev Sees (state : State) (holds : View -> Prop) : Client -> Prop := At state fun client => holds client.view

section Effects

variable {state : State} {holds : View -> Prop} {Value : Type}

theorem sees_core (stable : Stable holds) {outer : Client} {before after : Engine}
    (held : Sees state holds { outer with engine := before }) (same : Engine.SameCore before after) :
    Sees state holds { outer with engine := after } := by
  refine ⟨held.isAt,
    stable _ _ held.fact ⟨same.keying, ?_, same.released, fun _ => id, rfl, rfl, rfl, rfl⟩ same.transcript⟩
  exact ⟨[], (List.append_nil _).trans same.transcript.symm⟩

/-- An effect of the engine beside its core. -/
theorem sees_framed (stable : Stable holds) {action : Engine.Action Value}
    (kept : forall {inner : Engine -> Prop}, Engine.Framed inner -> Keeps inner action) :
    Keeps (Sees state holds) (onEngine action) :=
  Keeps.within (fun _ => rfl) fun _ => kept (Engine.framed_of_core fun held same => sees_core stable held same)

theorem sees_longer (grows : Grows holds) {outer : Client} {before after : Engine}
    (held : Sees state holds { outer with engine := before }) (same : Engine.SameKeys before after)
    (longer : before.transcript <+: after.transcript) : Sees state holds { outer with engine := after } :=
  ⟨held.isAt, grows _ _ held.fact ⟨same.keying, longer, same.released, fun _ => id, rfl, rfl, rfl, rfl⟩⟩

theorem sees_nextHandshake (grows : Grows holds) (wanted : MessageType) :
    Keeps (Sees state holds) (onEngine (Engine.nextHandshake wanted)) := by
  intro before held
  unfold onEngine
  rw [ends_zoom]
  refine (Engine.nextHandshake_ends wanted before.engine).mono ?_ ?_
  · rintro found after ⟨same, read⟩
    refine sees_longer grows held same ?_
    cases found with
    | none =>
        exact ⟨[], (List.append_nil _).trans read.symm⟩
    | some handshake =>
        rcases read with ⟨bytes, grown, _⟩
        rw [grown]
        exact List.prefix_append _ _
  · exact fun _ after stopped => sees_longer grows held stopped.1 stopped.2

theorem sees_createHandshake (grows : Grows holds) (msgType : MessageType) {fill : Engine.Action Bytes}
    (filled : forall outer : Client, Keeps (fun engine => Sees state holds { outer with engine }) fill) :
    Keeps (Sees state holds) (onEngine (Engine.createHandshake msgType fill)) := by
  refine Keeps.within (fun _ => rfl) fun outer => (filled outer).bind fun body => ?_
  refine Engine.keeps_sendHandshake (fun held same => sees_core grows.stable held same) ?_ msgType body
  exact fun engine others held => sees_longer grows held ⟨rfl, rfl⟩ (List.prefix_append _ _)

/-- A change of the client that its security does not rest on. -/
theorem sees_modify {change : Client -> Client}
    (same : forall client, (change client).state = client.state ∧ (change client).view = client.view) :
    Keeps (Sees state holds) (modify change : Action Unit) :=
  keeps_modify fun client held => ⟨(same client).1.trans held.isAt, (same client).2.symm ▸ held.fact⟩

theorem unwrap_ends {value : Option Value} {returned : Value -> Client -> Prop} {failed : Fault -> Client -> Prop}
    {before : Client} (isSome : forall inner, value = some inner -> returned inner before)
    (isNone : failed .panic before) : (unwrap value).Ends returned failed before := by
  cases value with
  | none => exact isNone
  | some inner => exact isSome inner rfl

theorem selectedSuite_ends {returned : Dtls12CipherSuite -> Client -> Prop} {failed : Fault -> Client -> Prop}
    {before : Client} (isSome : forall suite, before.engine.cipherSuite = some suite -> returned suite before)
    (isNone : forall fault, failed fault before) : selectedSuite.Ends returned failed before := by
  unfold selectedSuite
  rw [ends_bind, ends_get]
  split
  · rename_i suite selected
    exact isSome suite selected
  · exact isNone _

/-- An event that reports nothing. -/
theorem sees_emit {event : LocalEvent} (other : event.isReport = false) : Keeps (Sees state holds) (emit event) := by
  refine keeps_modify fun client held => ⟨held.isAt, ?_⟩
  have same : ({ client with localEvents := client.localEvents ++ [event] } : Client).view = client.view := by
    unfold view
    dsimp only
    rw [List.filter_append, List.filter_singleton, other, cond_false, List.append_nil]
  rw [same]
  exact held.fact

end Effects

/-! ## The functions of the states -/

section States

variable {config : Config} {state : State}

/-- The states in which the client learns something. -/
def State.learns : State -> Bool
  | .awaitServerHello | .sendClientKeyExchange | .sendChangeCipherSpec | .awaitFinished => true
  | _ => false

/-- Without a secret, all that there are come from an exchange. -/
theorem Greeted.exchanged {view : View} (greeted : Greeted config view) : Exchanged config view := by
  rcases greeted.selected with ⟨suite, selected⟩
  refine ⟨greeted.started.silent, suite, selected, fun secret isSecret => ?_⟩
  cases greeted.started.noSecret.symm.trans isSecret

theorem Known.follows {next : State} {view : View} (known : Known config state view) (follows : Follows state next)
    (plain : state.learns = false) : Known config next view := by
  cases follows with
  | certified => cases plain
  | shared => cases plain
  | signing => cases plain
  | unsigned => cases plain
  | derived => cases plain
  | keyExchange => exact Greeted.exchanged known
  | hint => exact Greeted.exchanged known
  | _ => exact known

/-- A function of a state in which nothing is learned. -/
theorem known_handsOn {action : Action State} (kept : Keeps (Sees state (Known config state)) action)
    (returns : Returns (Follows state) action) (plain : state.learns = false) :
    HandsOn (Viewed (Known config)) state action :=
  handsOn_of_keeps kept (returns.mono fun _ follows _ known => known.follows follows plain)

theorem handsOn_sendClientHello : HandsOn (Viewed (Known config)) .sendClientHello sendClientHello := by
  refine known_handsOn ?_ returns_sendClientHello rfl
  refine keeps_get.bind fun self => (keeps_unwrap _).bind fun random => Keeps.bind ?_ fun _ => Keeps.bind ?_ fun _ => ?_
  · exact sees_framed (known_stable config _) Engine.framed_flightBegin
  · exact sees_createHandshake (fun _ _ => Started.extend) _ fun _ => keeps_get.bind fun _ => keeps_pure _
  · exact (keeps_pure _).ite (keeps_pure _)

theorem handsOn_awaitHelloVerifyRequest : HandsOn (Viewed (Known config)) .awaitHelloVerifyRequest awaitHelloVerifyRequest := by
  refine known_handsOn ?_ returns_awaitHelloVerifyRequest rfl
  refine keeps_get.bind fun self => (keeps_pure _).ite ?_
  refine (sees_nextHandshake (fun _ _ => Started.extend) _).bind fun found => ?_
  split
  · exact keeps_pure _
  · split
    · refine (keeps_fail _).ite (Keeps.bind (sees_modify ?_) fun _ => Keeps.bind ?_ fun _ => keeps_pure _)
      · exact fun _ => ⟨rfl, rfl⟩
      · refine Keeps.within (fun _ => rfl) fun outer => keeps_modify fun engine held => ⟨held.isAt, ?_⟩
        exact held.fact.sameKeys rfl rfl rfl
    · exact keeps_fail _

theorem sees_readUseSrtp {holds : View -> Prop} (data : Bytes) : Keeps (Sees state holds) (readUseSrtp data) := by
  unfold readUseSrtp
  split
  · split
    · exact sees_modify fun _ => ⟨rfl, rfl⟩
    · exact keeps_pure _
  · exact keeps_fail _
  · exact keeps_pure _

/-- What a server hello that is accepted says about the suite. -/
theorem allowed_of_checkServerHello {engine : Engine} {hello : ServerHello}
    (checked : checkServerHello engine hello = .ok ()) : engine.isCipherSuiteAllowed hello.cipherSuite = true := by
  unfold checkServerHello at checked
  dsimp only at checked
  split at checked
  · cases checked
  split at checked
  · cases checked
  split at checked
  · cases checked
  split at checked
  · cases checked
  split at checked
  · cases checked
  rename_i allowed
  exact Bool.of_not_eq_false allowed

theorem acceptServerHello_ends (hello : ServerHello) {before : Client}
    (held : Sees .awaitServerHello (Started config) before) :
    (acceptServerHello hello).Ends (fun next => Sees .awaitServerHello (Known config next))
      (fun _ => Sees .awaitServerHello (Started config)) before := by
  unfold acceptServerHello
  rw [ends_bind, ends_get, ends_bind]
  cases checked : checkServerHello before.engine hello with
  | error fault => exact held
  | ok _ =>
      rw [ends_ofExcept_ok, ends_bind]
      unfold onEngine Engine.setCipherSuite
      rw [ends_zoom, ends_bind, ends_get]
      split
      · exact held
      · rename_i supported found
        rw [ends_modify]
        have allowed := allowed_of_checkServerHello checked
        unfold Engine.isCipherSuiteAllowed at allowed
        rw [show before.engine.config = config from held.fact.silent.fixed.configured] at allowed
        have started := held.fact
        have greeted : Sees .awaitServerHello (Greeted config)
            { before with
              engine :=
                { before.engine with
                  explicitNonceLen := supported.explicitNonceLen
                  tagLen := supported.tagLen
                  cipherSuite := some hello.cipherSuite } } := by
          refine ⟨held.isAt, ⟨⟨⟨?_, started.silent.unreleased, started.silent.unreported⟩, started.noSecret⟩, ?_⟩⟩
          · exact ⟨started.silent.fixed.configured, started.silent.fixed.provider⟩
          · exact ⟨hello.cipherSuite, rfl, allowed⟩
        have noted : Keeps (Sees .awaitServerHello (Greeted config)) (noteServerHello hello) := by
          refine Keeps.bind (keeps_modify fun client kept => ?_) fun _ => ?_
          · exact ⟨kept.isAt, kept.fact.sameKeys rfl rfl rfl⟩
          · split
            · exact keeps_fail _
            · refine Keeps.bind (Keeps.each fun extension _ => (sees_readUseSrtp _).ite (keeps_pure _)) fun _ => ?_
              exact (keeps_fail _).ite ((keeps_pure _).ite (keeps_pure _))
        have returns : Returns (fun next => Known config next = Greeted config) (noteServerHello hello) := by
          refine Returns.bind fun _ => ?_
          split
          · exact returns_fail _
          · refine Returns.bind fun _ => (returns_fail _).ite (Returns.ite (returns_pure ?_) (returns_pure ?_))
            · rfl
            · rfl
        refine ((noted _ greeted).and (returns _)).mono ?_ ?_
        · exact fun next after both => ⟨both.1.isAt, both.2 ▸ both.1.fact⟩
        · exact fun _ after both => ⟨both.1.isAt, both.1.fact.started⟩

theorem handsOn_awaitServerHello : HandsOn (Viewed (Known config)) .awaitServerHello awaitServerHello := by
  intro before held
  unfold awaitServerHello
  rw [ends_bind]
  refine (sees_nextHandshake (fun _ _ => Started.extend) _ before held).mono ?_ fun _ _ kept => kept
  intro found after kept
  cases found with
  | none => exact kept
  | some handshake =>
      dsimp only
      split
      · exact acceptServerHello_ends _ kept
      · exact kept

theorem handsOn_awaitCertificate : HandsOn (Viewed (Known config)) .awaitCertificate awaitCertificate := by
  refine known_handsOn ?_ returns_awaitCertificate rfl
  refine (sees_nextHandshake (fun _ _ => Greeted.extend) _).bind fun found => ?_
  split
  · exact keeps_pure _
  · split
    · refine (keeps_fail _).ite (Keeps.bind (keeps_modify fun client kept => ?_) fun _ => keeps_pure _)
      exact ⟨kept.isAt, kept.fact.sameKeys rfl rfl rfl⟩
    · exact keeps_fail _

/-- A hello was taken over, with this suite. -/
structure GreetedWith (config : Config) (suite : Dtls12CipherSuite) (view : View) : Prop where
  greeted : Greeted config view
  selected : view.keying.cipherSuite = some suite

theorem GreetedWith.extend {suite : Dtls12CipherSuite} {before after : View} (greeted : GreetedWith config suite before)
    (extend : Extends before after) : GreetedWith config suite after := by
  refine ⟨greeted.greeted.extend extend, ?_⟩
  rw [extend.keying]
  exact greeted.selected

theorem acceptEcdhParams_ends (params : EcdhParams) (signed : DigitallySigned) {suite : Dtls12CipherSuite}
    (certified : suite.isPsk = false) {before : Client}
    (held : Sees .awaitServerKeyExchange (GreetedWith config suite) before) :
    (acceptEcdhParams params signed).Ends (fun next => Sees .awaitServerKeyExchange (Known config next))
      (fun _ => Sees .awaitServerKeyExchange (Greeted config)) before := by
  have greeted : Sees .awaitServerKeyExchange (Greeted config) before := ⟨held.isAt, held.fact.greeted⟩
  have silent := held.fact.greeted.started.silent
  unfold acceptEcdhParams
  rw [ends_bind, ends_get, ends_bind]
  refine unwrap_ends (fun clientRandom isClient => ?_) greeted
  rw [ends_bind]
  refine unwrap_ends (fun serverRandom isServer => ?_) greeted
  rw [ends_bind]
  refine selectedSuite_ends (fun other selected => ?_) fun _ => greeted
  cases held.fact.selected.symm.trans selected
  rw [ends_bind]
  cases checked : checkSignatureAlgorithm suite signed.algorithm with
  | error fault => exact greeted
  | ok _ =>
      rw [ends_ofExcept_ok, ends_bind]
      refine unwrap_ends (fun certificate isHead => ?_) greeted
      split
      · exact greeted
      · rename_i verified
        unfold CryptoContext.verifySignature at verified
        rw [show before.engine.cryptoContext.provider = config.cryptoProvider from silent.fixed.provider] at verified
        rw [ends_bind]
        unfold onEngine
        rw [ends_zoom, Engine.ends_onCryptoContext]
        rcases held.fact.greeted.selected with ⟨same, isSelected, allowed⟩
        cases held.fact.selected.symm.trans isSelected
        refine (CryptoContext.processEcdhParams_ends _ _ _
          ⟨silent.fixed.provider, held.fact.greeted.started.noSecret⟩).mono ?_ ?_
        · rintro _ context ⟨sameProvider, secret, isSecret, agreed⟩
          refine ⟨held.isAt, ⟨⟨⟨silent.fixed.configured, sameProvider⟩, silent.unreleased, silent.unreported⟩, suite,
            ⟨isSelected, allowed⟩, fun other isOther => ?_⟩⟩
          cases isSecret.symm.trans isOther
          exact .exchanged certified
            ⟨checked, certificate, clientRandom, serverRandom, isHead, isClient, isServer, verified⟩ agreed
        · rintro _ context ⟨sameProvider, noSecret⟩
          exact ⟨held.isAt, ⟨⟨⟨⟨silent.fixed.configured, sameProvider⟩, silent.unreleased, silent.unreported⟩, noSecret⟩,
            suite, isSelected, allowed⟩⟩

theorem awaitServerKeyExchangePsk_ends {before : Client} (held : Sees .awaitServerKeyExchange (Greeted config) before) :
    awaitServerKeyExchangePsk.Ends (fun next => Sees .awaitServerKeyExchange (Known config next))
      (fun _ => Sees .awaitServerKeyExchange (Greeted config)) before := by
  have kept : Keeps (Sees .awaitServerKeyExchange (Greeted config)) awaitServerKeyExchangePsk := by
    refine keeps_get.bind fun self => (keeps_pure _).ite ?_
    refine (sees_nextHandshake (fun _ _ => Greeted.extend) _).bind fun found => ?_
    split
    · exact keeps_pure _
    · split
      · exact keeps_pure _
      · exact keeps_fail _
      · exact keeps_fail _
  refine ((kept before held).and (returns_awaitServerKeyExchangePsk before)).mono ?_ fun _ _ kept => kept.1
  intro next after both
  have known : Known config .awaitServerKeyExchange after.view := both.1.fact
  exact ⟨both.1.isAt, known.follows both.2 rfl⟩

theorem awaitServerKeyExchangeEcdhe_ends {suite : Dtls12CipherSuite} (certified : suite.isPsk = false)
    {before : Client} (held : Sees .awaitServerKeyExchange (GreetedWith config suite) before) :
    awaitServerKeyExchangeEcdhe.Ends (fun next => Sees .awaitServerKeyExchange (Known config next))
      (fun _ => Sees .awaitServerKeyExchange (Greeted config)) before := by
  have greeted : forall {client}, Sees .awaitServerKeyExchange (GreetedWith config suite) client ->
      Sees .awaitServerKeyExchange (Greeted config) client := fun held => ⟨held.isAt, held.fact.greeted⟩
  unfold awaitServerKeyExchangeEcdhe
  rw [ends_bind]
  refine (sees_nextHandshake (fun _ _ => GreetedWith.extend) _ before held).mono ?_ fun _ _ kept => greeted kept
  intro found after kept
  cases found with
  | none => exact greeted kept
  | some handshake =>
      dsimp only
      split
      · split
        · exact greeted kept
        · exact acceptEcdhParams_ends _ _ certified kept
      · exact greeted kept
      · exact greeted kept

theorem handsOn_awaitServerKeyExchange : HandsOn (Viewed (Known config)) .awaitServerKeyExchange awaitServerKeyExchange := by
  intro before held
  unfold awaitServerKeyExchange
  rw [ends_bind]
  refine selectedSuite_ends (fun suite selected => ?_) fun _ => held
  rw [ends_ite]
  refine ⟨fun _ => awaitServerKeyExchangePsk_ends held, fun certified => ?_⟩
  exact awaitServerKeyExchangeEcdhe_ends (Bool.of_not_eq_true certified) ⟨held.isAt, held.fact, selected⟩

theorem handsOn_awaitCertificateRequest : HandsOn (Viewed (Known config)) .awaitCertificateRequest awaitCertificateRequest := by
  refine known_handsOn ?_ returns_awaitCertificateRequest rfl
  refine keeps_get.bind fun self => (keeps_pure _).ite ?_
  refine (sees_nextHandshake (fun _ _ => Exchanged.extend) _).bind fun found => ?_
  split
  · exact keeps_pure _
  · split
    · refine (keeps_unwrap _).bind fun hash => (keeps_fail _).ite (Keeps.bind (sees_modify ?_) fun _ => keeps_pure _)
      exact fun _ => ⟨rfl, rfl⟩
    · exact keeps_fail _

theorem handsOn_awaitServerHelloDone : HandsOn (Viewed (Known config)) .awaitServerHelloDone awaitServerHelloDone := by
  refine known_handsOn ?_ returns_awaitServerHelloDone rfl
  refine (sees_nextHandshake (fun _ _ => Exchanged.extend) _).bind fun found => ?_
  split
  · exact keeps_pure _
  · split
    · refine keeps_selectedSuite.bind fun suite => keeps_get.bind fun self => (keeps_pure _).ite ((keeps_fail _).ite ?_)
      refine (sees_emit ?_).bind fun _ => (keeps_pure _).ite (keeps_pure _)
      rfl
    · exact keeps_fail _

theorem handsOn_sendCertificate : HandsOn (Viewed (Known config)) .sendCertificate sendCertificate := by
  refine known_handsOn ?_ returns_sendCertificate rfl
  refine Keeps.bind ?_ fun _ => Keeps.bind ?_ fun _ => keeps_pure _
  · exact sees_framed (known_stable config _) Engine.framed_flightBegin
  · exact sees_createHandshake (fun _ _ => Exchanged.extend) _ fun _ => keeps_get.bind fun _ => keeps_ofExcept _

/-- With a shared key, making the message computes the secret. -/
theorem exchanged_createClientKeyExchange {outer : Client} :
    Keeps (fun engine => Sees .sendClientKeyExchange (Exchanged config) { outer with engine })
      handshakeCreateClientKeyExchange := by
  refine Keeps.get_bind fun engine held => ?_
  split
  · exact held
  · rename_i suite selected
    rcases held.fact.secret with ⟨same, isSelected, secrets⟩
    cases selected.symm.trans isSelected.selected
    have silent := held.fact.silent
    split
    · split
      · exact held
      · rw [ends_bind, Engine.ends_onCryptoContext]
        unfold CryptoContext.maybeInitKeyExchange
        rw [ends_bind, ends_get]
        split
        · exact held
        · split
          · exact ⟨held.isAt, ⟨⟨⟨silent.fixed.configured, silent.fixed.provider⟩, silent.unreleased, silent.unreported⟩,
              suite, ⟨isSelected.selected, isSelected.allowed⟩,
              fun secret isSecret => (secrets secret isSecret).carry (fun _ => id) rfl rfl⟩⟩
          · exact held
    · rename_i isPsk
      split
      · exact held
      · rename_i identity isIdentity
        split
        · exact held
        · rename_i resolve isResolver
          split
          · exact held
          · rename_i key resolved
            rw [ends_bind, Engine.ends_onCryptoContext]
            have configured : engine.config = config := silent.fixed.configured
            rw [configured] at isIdentity isResolver
            refine ⟨held.isAt, ⟨⟨⟨silent.fixed.configured, silent.fixed.provider⟩, silent.unreleased, silent.unreported⟩,
              suite, ⟨isSelected.selected, isSelected.allowed⟩, fun secret isSecret => ?_⟩⟩
            cases isSecret
            refine .shared ?_ isIdentity isResolver resolved
            cases suite with
            | pskAes128Ccm8 => rfl
            | _ => cases isPsk
    · exact held

theorem handsOn_sendClientKeyExchange : HandsOn (Viewed (Known config)) .sendClientKeyExchange sendClientKeyExchange := by
  intro before held
  unfold sendClientKeyExchange
  rw [ends_bind, ends_get, ends_bind]
  have begun : Keeps (Sees .sendClientKeyExchange (Exchanged config)) (beginFlight before.certificateVerify) :=
    (keeps_pure _).ite (sees_framed (known_stable config .sendClientKeyExchange) Engine.framed_flightBegin)
  refine (begun before held).mono ?_ fun _ _ kept => kept
  intro _ started kept
  rw [ends_bind]
  have ends : (onEngine (Engine.createHandshake .clientKeyExchange handshakeCreateClientKeyExchange)).Ends
      (fun _ after => Engine.EndsWith .clientKeyExchange after.engine.transcript) (fun _ _ => True) started := by
    unfold onEngine
    rw [ends_zoom]
    exact Engine.createHandshake_ends _ _ started.engine
  refine ((sees_createHandshake (fun _ _ => Exchanged.extend) _ (fun _ => exchanged_createClientKeyExchange) started
    kept).and ends).mono ?_ fun _ _ kept => kept.1
  rintro _ sent ⟨kept, isLast⟩
  rw [ends_bind]
  refine selectedSuite_ends (fun suite selected => ?_) fun _ => kept
  rw [ends_bind, ends_modify]
  rcases kept.fact.secret with ⟨same, isSelected, secrets⟩
  cases selected.symm.trans isSelected.selected
  have hashed : Sees .sendClientKeyExchange (Hashed config)
      { sent with capturedSessionHash := some (sent.engine.transcriptHash suite.hashAlgorithm) } := by
    have silent := kept.fact.silent
    refine ⟨kept.isAt, ⟨⟨⟨silent.fixed.configured, silent.fixed.provider⟩, silent.unreleased, silent.unreported⟩, suite,
      sent.engine.transcript, ⟨isSelected.selected, isSelected.allowed⟩, fun secret isSecret => ?_,
      ⟨List.prefix_refl _, isLast⟩, ?_⟩⟩
    · exact (secrets secret isSecret).carry (fun _ => id) rfl rfl
    · show some (sent.engine.cryptoContext.provider.hash _ _) = _
      rw [show sent.engine.cryptoContext.provider = config.cryptoProvider from silent.fixed.provider]
  rw [ends_ite]
  exact ⟨fun _ => hashed, fun _ => hashed⟩

theorem handsOn_sendCertificateVerify : HandsOn (Viewed (Known config)) .sendCertificateVerify sendCertificateVerify := by
  refine known_handsOn ?_ returns_sendCertificateVerify rfl
  refine Keeps.bind (sees_createHandshake (fun _ _ => Hashed.extend) _ fun outer => ?_) fun _ => keeps_pure _
  refine keeps_get.bind fun engine => ?_
  split
  · split
    · exact keeps_fail _
    · exact keeps_pure _
  · exact keeps_fail _

theorem sees_deriveKeys {before : Client} (held : Sees .sendChangeCipherSpec (Hashed config) before) :
    deriveKeys.Ends (fun _ => Sees .sendChangeCipherSpec (Keyed config))
      (fun _ => Sees .sendChangeCipherSpec (Hashed config)) before := by
  have silent := held.fact.silent
  rcases held.fact.hashed with ⟨suite, start, isSelected, secrets, isStart, captured⟩
  unfold deriveKeys
  rw [ends_bind, ends_get, ends_bind]
  refine selectedSuite_ends (fun other selected => ?_) fun _ => held
  cases isSelected.selected.symm.trans selected
  split
  · exact held
  · rw [ends_bind]
    refine unwrap_ends (fun clientRandom _ => ?_) held
    split
    · exact held
    · rename_i sessionHash isCaptured
      cases captured.symm.trans isCaptured
      unfold onEngine
      rw [ends_zoom, ends_bind, Engine.ends_onCryptoContext]
      refine (CryptoContext.deriveExtendedMasterSecret_ends _ _ before.engine.cryptoContext).mono ?_ ?_
      · rintro _ context ⟨secret, masterSecret, isSecret, derived, rfl⟩
        rw [show before.engine.cryptoContext.provider = config.cryptoProvider from silent.fixed.provider] at derived
        have hashed : forall context, CryptoContext.Rekeyed suite
              { before.engine.cryptoContext with masterSecret := some masterSecret, preMasterSecret := none } context ->
            Sees .sendChangeCipherSpec (Hashed config)
              { before with engine := { before.engine with cryptoContext := context } } := by
          intro context rekeyed
          have fixed : context.provider = config.cryptoProvider := rekeyed.provider.trans silent.fixed.provider
          refine ⟨held.isAt, ⟨⟨⟨silent.fixed.configured, fixed⟩, silent.unreleased, silent.unreported⟩, suite, start,
            ⟨isSelected.selected, isSelected.allowed⟩, fun other isOther => ?_, isStart, captured⟩⟩
          cases rekeyed.preMaster.symm.trans isOther
        rw [Engine.ends_onCryptoContext]
        refine (CryptoContext.deriveKeys_ends _ _ _).mono ?_ ?_
        · intro _ after rekeyed
          refine ⟨held.isAt, (hashed after rekeyed).fact, suite, masterSecret,
            ⟨isSelected.selected, isSelected.allowed⟩, rekeyed.master, secret, start, ?_, isStart, derived⟩
          exact (secrets secret isSecret).carry (fun _ => id) rfl rfl
        · exact fun _ after rekeyed => hashed after rekeyed
      · rintro _ _ rfl
        exact held

theorem handsOn_sendChangeCipherSpec : HandsOn (Viewed (Known config)) .sendChangeCipherSpec sendChangeCipherSpec := by
  intro before held
  unfold sendChangeCipherSpec
  rw [ends_bind]
  refine (sees_deriveKeys held).mono ?_ fun _ _ kept => kept
  intro _ keyed kept
  rw [ends_bind]
  refine (sees_framed (known_stable config .sendFinished) (fun framed => framed.createRecord _ _ _ _) keyed kept).mono
    ?_ ?_
  · exact fun _ after kept => kept
  · exact fun _ after kept => ⟨kept.isAt, kept.fact.hashed⟩

theorem handsOn_sendFinished : HandsOn (Viewed (Known config)) .sendFinished sendFinished := by
  refine known_handsOn ?_ returns_sendFinished rfl
  refine Keeps.bind (sees_createHandshake (fun _ _ => Keyed.extend) _ fun outer => ?_) fun _ => keeps_pure _
  exact Engine.keeps_generateVerifyData _

theorem handsOn_awaitChangeCipherSpec (search : BinarySearch Incoming) :
    HandsOn (Viewed (Known config)) .awaitChangeCipherSpec (awaitChangeCipherSpec search) := by
  have stable := known_stable config .awaitChangeCipherSpec
  refine handsOn_of_keeps ?_ ?_
  · refine (sees_framed stable fun framed => Engine.framed_nextRecord framed _).bind fun found => ?_
    split
    · exact keeps_pure _
    · refine (sees_framed stable Engine.framed_dropPendingCcs).bind fun _ => Keeps.bind ?_ fun _ => keeps_pure _
      exact sees_framed stable fun framed => Engine.framed_enablePeerEncryption framed search
  · refine Returns.bind fun found => ?_
    split
    · exact returns_pure fun _ known => known
    · exact Returns.bind fun _ => Returns.bind fun _ => returns_pure fun _ known => known

theorem handsOn_awaitNewSessionTicket : HandsOn (Viewed (Known config)) .awaitNewSessionTicket awaitNewSessionTicket := by
  refine known_handsOn ?_ returns_awaitNewSessionTicket rfl
  refine keeps_get.bind fun self => (keeps_pure _).ite ?_
  refine (sees_nextHandshake (fun _ _ => Keyed.extend) _).bind fun found => ?_
  split
  · exact keeps_pure _
  · split
    · exact keeps_pure _
    · exact keeps_fail _

/-- A report is added to those of the view. -/
theorem emit_ends {event : LocalEvent} (isReport : event.isReport = true) (before : Client) :
    (emit event).Ends
      (fun _ after => after.state = before.state ∧
        after.view = { before.view with reports := before.view.reports ++ [event] })
      (fun _ _ => False) before := by
  unfold emit
  rw [ends_modify]
  refine ⟨rfl, ?_⟩
  unfold view
  dsimp only
  rw [List.filter_append, List.filter_singleton, isReport, cond_true]

theorem emitKeyingMaterial_ends {suite : Dtls12CipherSuite} {before : Client}
    (selected : before.engine.cipherSuite = some suite) :
    emitKeyingMaterial.Ends
      (fun _ after => after.state = before.state ∧ (after.view = before.view ∨ exists profile material,
        before.engine.cryptoContext.extractSrtpKeyingMaterial profile suite.hashAlgorithm = .ok material ∧
          after.view = { before.view with reports := before.view.reports ++ [.keyingMaterial material profile] }))
      (fun _ _ => False) before := by
  unfold emitKeyingMaterial
  rw [ends_bind, ends_get]
  split
  · exact ⟨rfl, .inl rfl⟩
  · rename_i profile _
    rw [selected, ends_bind, unwrap, ends_pure]
    split
    · rename_i material extracted
      refine (emit_ends rfl before).mono ?_ fun _ _ contrary => contrary
      exact fun _ after emitted => ⟨emitted.1, .inr ⟨profile, material, extracted, emitted.2⟩⟩
    · exact ⟨rfl, .inl rfl⟩

/-- What follows on the last message of the server cannot fail. -/
theorem reportConnection_ends {suite : Dtls12CipherSuite} {masterSecret : Bytes} {before : Client}
    (isAt : before.state = .awaitFinished) (silent : Silent config before.view)
    (authenticated : Authenticated config suite before.view masterSecret) :
    Ends (do
        onEngine Engine.flightStopResendTimers
        emit .connected
        emitKeyingMaterial
        onEngine Engine.releaseApplicationData
        return .awaitApplicationData)
      (fun next => Sees .awaitFinished (Known config next)) (fun _ _ => False) before := by
  have finished : forall reports, Proper before.view reports ->
      Finished config { before.view with released := true, reports := reports } := by
    intro reports proper
    refine ⟨⟨silent.fixed.configured, silent.fixed.provider⟩, .inr ⟨⟨suite, masterSecret, ?_⟩, proper.carry rfl⟩⟩
    exact authenticated.reporting true reports
  rw [ends_bind]
  unfold onEngine
  rw [ends_zoom]
  unfold Engine.flightStopResendTimers
  rw [ends_modify, ends_bind]
  refine (emit_ends rfl _).mono ?_ fun _ _ contrary => contrary
  rintro _ connected ⟨sameState, sees⟩
  have isConnected : connected.view = { before.view with reports := [.connected] } :=
    sees.trans (congrArg (fun reports => { before.view with reports := reports ++ [LocalEvent.connected] }) silent.unreported)
  have isKeying : connected.engine.keying = before.engine.keying := congrArg View.keying isConnected
  have selected : connected.engine.cipherSuite = some suite :=
    (congrArg Engine.Keying.cipherSuite isKeying).trans authenticated.selected.selected
  rw [ends_bind]
  refine (emitKeyingMaterial_ends selected).mono ?_ fun _ _ contrary => contrary
  rintro _ reported ⟨stays, sees⟩
  have known : Finished config { reported.view with released := true } := by
    rcases sees with sees | ⟨profile, material, extracted, sees⟩
    · rw [sees, isConnected]
      exact finished _ .connected
    · rw [sees, isConnected]
      rw [show connected.engine.cryptoContext = before.engine.cryptoContext from
        congrArg Engine.Keying.cryptoContext isKeying] at extracted
      exact finished _ (.keyed authenticated.selected.selected extracted)
  rw [ends_bind, ends_zoom]
  exact ⟨stays.trans (sameState.trans isAt), known⟩

theorem handsOn_awaitFinished : HandsOn (Viewed (Known config)) .awaitFinished awaitFinished := by
  intro before held
  have silent := held.fact.hashed.silent
  rcases held.fact.master with ⟨suite, masterSecret, isSelected, master⟩
  unfold awaitFinished
  rw [ends_bind]
  unfold onEngine
  rw [ends_zoom]
  refine (Engine.generateVerifyData_ends false before.engine).mono ?_ ?_
  · rintro expected _ ⟨rfl, other, selected, made⟩
    cases isSelected.selected.symm.trans selected
    rw [ends_bind, ends_zoom]
    refine (Engine.nextHandshake_ends .finished before.engine).mono ?_ ?_
    · rintro found after ⟨same, read⟩
      cases found with
      | none =>
          refine sees_longer (fun _ _ => Keyed.extend) held same ?_
          exact ⟨[], (List.append_nil _).trans read.symm⟩
      | some handshake =>
          rcases read with ⟨bytes, grown, ⟨behind, parsed, complete⟩⟩
          have longer : before.engine.transcript <+: after.transcript := by
            rw [grown]
            exact List.prefix_append _ _
          have kept : Sees .awaitFinished (Keyed config) { before with engine := after } :=
            sees_longer (fun _ _ => Keyed.extend) held same longer
          dsimp only
          split
          · rename_i verifyData isFinished
            rw [ends_ite]
            refine ⟨fun _ => kept, fun isExpected => ?_⟩
            rw [isFinished] at parsed
            rcases Body.finished_of_parse parsed with ⟨isType, rfl⟩
            cases complete isType
            cases not_not.mp isExpected
            have extend : Extends before.view { before with engine := after : Client }.view :=
              ⟨same.keying, longer, same.released, fun _ => id, rfl, rfl, rfl, rfl⟩
            refine (reportConnection_ends kept.isAt kept.fact.hashed.silent ⟨isSelected.extend extend,
              before.engine.transcript, handshake.header, expected, ?_, isType,
              master.extend extend (List.prefix_refl _), ?_⟩).mono (fun _ _ known => known) fun _ _ contrary => contrary.elim
            · rw [List.append_nil] at grown
              exact grown
            · unfold CryptoContext.generateVerifyData at made
              rw [show before.engine.cryptoContext.masterSecret = some masterSecret from master.current] at made
              have fixed : before.engine.cryptoContext.provider = config.cryptoProvider := silent.fixed.provider
              unfold Engine.transcriptHash at made
              rw [fixed] at made
              exact made
          · exact kept
    · exact fun _ after stopped => sees_longer (fun _ _ => Keyed.extend) held stopped.1 stopped.2
  · rintro _ _ rfl
    exact held

theorem handsOn_awaitApplicationData {known : State -> View -> Prop} (stable : Stable (known .awaitApplicationData))
    (closes : forall view, known .awaitApplicationData view -> known .closed view) :
    HandsOn (Viewed known) .awaitApplicationData awaitApplicationData := by
  refine handsOn_of_keeps ?_ ?_
  · refine keeps_get.bind fun self => Keeps.ite ?_ ?_
    · refine (sees_framed stable Engine.framed_discardPendingWrites).bind fun _ => Keeps.bind ?_ fun _ => keeps_pure _
      exact sees_framed stable fun framed => framed.createRecord _ _ _ _
    · refine Keeps.bind (sees_modify fun _ => ⟨rfl, rfl⟩) fun _ => Keeps.bind ?_ fun _ => keeps_pure _
      exact Keeps.each fun data _ => sees_framed stable fun framed => framed.createRecord _ _ _ _
  · refine Returns.bind fun self => Returns.ite ?_ ?_
    · exact Returns.bind fun _ => Returns.bind fun _ => returns_pure fun client => closes client.view
    · exact Returns.bind fun _ => Returns.bind fun _ => returns_pure fun _ known => known

end States

end Client

end Dtls
end P2pSdk
