import P2pSdk.Dtls.ClientRun
import P2pSdk.Dtls.Sending

namespace P2pSdk
namespace Dtls

open Foundation Effect

/-!
# The steps of a client

A property that may differ from state to state holds of a client over whole
calls when the function of each state hands on what the next state has.  For a
property of the engine this comes down to what the methods of the engine keep:
the functions of the states only put them together.
-/

namespace Client

section At

variable {state : State} {holds : Client -> Prop} {Value : Type}

/-- The client is in a state, and something holds of it. -/
structure At (state : State) (holds : Client -> Prop) (client : Client) : Prop where
  isAt : client.state = state
  fact : holds client

/-- The client is in a state, and something holds of its engine. -/
abbrev AtEngine (state : State) (holds : Engine -> Prop) : Client -> Prop :=
  At state fun client => holds client.engine

theorem keeps_onEngine {holds : Engine -> Prop} {action : Engine.Action Value} (kept : Keeps holds action) :
    Keeps (AtEngine state holds) (onEngine action) :=
  kept.zoom (fun _ held => held.fact) fun _ _ held kept => ⟨held.isAt, kept⟩

/-- A change of the client beside its state and its engine. -/
theorem keeps_beside {holds : Engine -> Prop} {change : Client -> Client}
    (same : forall client, (change client).state = client.state ∧ (change client).engine = client.engine) :
    Keeps (AtEngine state holds) (modify change : Action Unit) :=
  keeps_modify fun client held => ⟨(same client).1.trans held.isAt, (same client).2.symm ▸ held.fact⟩

theorem keeps_unwrap (value : Option Value) : Keeps holds (unwrap value) := by
  cases value with
  | none => exact keeps_fail _
  | some value => exact keeps_pure _

theorem keeps_selectedSuite : Keeps holds selectedSuite := by
  refine keeps_get.bind fun self => ?_
  split
  · exact keeps_pure _
  · exact keeps_fail _

end At

/-! ## The order of the states -/

/-- The states that a function may lead to, without the two steps in which the peer is taken to
encrypt and to be authenticated. -/
inductive Follows : State -> State -> Prop
  | stays {state : State} : Follows state state
  | firstHello : Follows .sendClientHello .awaitHelloVerifyRequest
  | secondHello : Follows .sendClientHello .awaitServerHello
  | verify : Follows .awaitHelloVerifyRequest .sendClientHello
  | unverified : Follows .awaitHelloVerifyRequest .awaitServerHello
  | certified : Follows .awaitServerHello .awaitCertificate
  | shared : Follows .awaitServerHello .awaitServerKeyExchange
  | certificate : Follows .awaitCertificate .awaitServerKeyExchange
  | keyExchange : Follows .awaitServerKeyExchange .awaitCertificateRequest
  | hint : Follows .awaitServerKeyExchange .awaitServerHelloDone
  | request : Follows .awaitCertificateRequest .awaitServerHelloDone
  | answer : Follows .awaitServerHelloDone .sendCertificate
  | noRequest : Follows .awaitServerHelloDone .sendClientKeyExchange
  | sentCertificate : Follows .sendCertificate .sendClientKeyExchange
  | signing : Follows .sendClientKeyExchange .sendCertificateVerify
  | unsigned : Follows .sendClientKeyExchange .sendChangeCipherSpec
  | sentVerify : Follows .sendCertificateVerify .sendChangeCipherSpec
  | derived : Follows .sendChangeCipherSpec .sendFinished
  | sentFinished : Follows .sendFinished .awaitChangeCipherSpec
  | ticket : Follows .awaitNewSessionTicket .awaitFinished
  | closing : Follows .awaitApplicationData .closed

theorem returns_sendClientHello : Returns (Follows .sendClientHello) sendClientHello :=
  Returns.bind fun _ => Returns.bind fun _ => Returns.bind fun _ => Returns.bind fun _ =>
    (returns_pure .firstHello).ite (returns_pure .secondHello)

theorem returns_awaitHelloVerifyRequest : Returns (Follows .awaitHelloVerifyRequest) awaitHelloVerifyRequest := by
  refine Returns.bind fun self => (returns_pure .unverified).ite (Returns.bind fun found => ?_)
  split
  · exact returns_pure .stays
  · split
    · exact (returns_fail _).ite (Returns.bind fun _ => Returns.bind fun _ => returns_pure .verify)
    · exact returns_fail _

theorem returns_noteServerHello (hello : ServerHello) : Returns (Follows .awaitServerHello) (noteServerHello hello) := by
  refine Returns.bind fun _ => ?_
  split
  · exact returns_fail _
  · exact Returns.bind fun _ => (returns_fail _).ite ((returns_pure .shared).ite (returns_pure .certified))

theorem returns_awaitServerHello : Returns (Follows .awaitServerHello) awaitServerHello := by
  refine Returns.bind fun found => ?_
  split
  · exact returns_pure .stays
  · split
    · exact Returns.bind fun _ => Returns.bind fun _ => Returns.bind fun _ => returns_noteServerHello _
    · exact returns_fail _

theorem returns_awaitCertificate : Returns (Follows .awaitCertificate) awaitCertificate := by
  refine Returns.bind fun found => ?_
  split
  · exact returns_pure .stays
  · split
    · exact (returns_fail _).ite (Returns.bind fun _ => returns_pure .certificate)
    · exact returns_fail _

theorem returns_acceptEcdhParams (params : EcdhParams) (signed : DigitallySigned) :
    Returns (Follows .awaitServerKeyExchange) (acceptEcdhParams params signed) := by
  refine Returns.bind fun self => Returns.bind fun _ => Returns.bind fun _ => Returns.bind fun _ => ?_
  refine Returns.bind fun _ => Returns.bind fun certificate => ?_
  split
  · exact returns_fail _
  · exact Returns.bind fun _ => returns_pure .keyExchange

theorem returns_awaitServerKeyExchangePsk : Returns (Follows .awaitServerKeyExchange) awaitServerKeyExchangePsk := by
  refine Returns.bind fun self => (returns_pure .hint).ite (Returns.bind fun found => ?_)
  split
  · exact returns_pure .stays
  · split
    · exact returns_pure .hint
    · exact returns_fail _
    · exact returns_fail _

theorem returns_awaitServerKeyExchange : Returns (Follows .awaitServerKeyExchange) awaitServerKeyExchange := by
  refine Returns.bind fun suite => Returns.ite returns_awaitServerKeyExchangePsk (Returns.bind fun found => ?_)
  split
  · exact returns_pure .stays
  · split
    · split
      · exact returns_fail _
      · exact returns_acceptEcdhParams _ _
    · exact returns_fail _
    · exact returns_fail _

theorem returns_awaitCertificateRequest : Returns (Follows .awaitCertificateRequest) awaitCertificateRequest := by
  refine Returns.bind fun self => (returns_pure .request).ite (Returns.bind fun found => ?_)
  split
  · exact returns_pure .stays
  · split
    · exact Returns.bind fun _ => (returns_fail _).ite (Returns.bind fun _ => returns_pure .request)
    · exact returns_fail _

theorem returns_awaitServerHelloDone : Returns (Follows .awaitServerHelloDone) awaitServerHelloDone := by
  refine Returns.bind fun found => ?_
  split
  · exact returns_pure .stays
  · split
    · refine Returns.bind fun suite => Returns.bind fun self => (returns_pure .noRequest).ite ((returns_fail _).ite ?_)
      exact Returns.bind fun _ => (returns_pure .answer).ite (returns_pure .noRequest)
    · exact returns_fail _

theorem returns_sendCertificate : Returns (Follows .sendCertificate) sendCertificate :=
  Returns.bind fun _ => Returns.bind fun _ => returns_pure .sentCertificate

theorem returns_sendClientKeyExchange : Returns (Follows .sendClientKeyExchange) sendClientKeyExchange :=
  Returns.bind fun _ => Returns.bind fun _ => Returns.bind fun _ => Returns.bind fun _ => Returns.bind fun _ =>
    (returns_pure .signing).ite (returns_pure .unsigned)

theorem returns_sendCertificateVerify : Returns (Follows .sendCertificateVerify) sendCertificateVerify :=
  Returns.bind fun _ => returns_pure .sentVerify

theorem returns_sendChangeCipherSpec : Returns (Follows .sendChangeCipherSpec) sendChangeCipherSpec :=
  Returns.bind fun _ => Returns.bind fun _ => returns_pure .derived

theorem returns_sendFinished : Returns (Follows .sendFinished) sendFinished :=
  Returns.bind fun _ => returns_pure .sentFinished

theorem returns_awaitNewSessionTicket : Returns (Follows .awaitNewSessionTicket) awaitNewSessionTicket := by
  refine Returns.bind fun self => (returns_pure .ticket).ite (Returns.bind fun found => ?_)
  split
  · exact returns_pure .stays
  · split
    · exact returns_pure .ticket
    · exact returns_fail _

theorem returns_awaitApplicationData : Returns (Follows .awaitApplicationData) awaitApplicationData :=
  Returns.bind fun _ =>
    Returns.ite (Returns.bind fun _ => Returns.bind fun _ => returns_pure .closing)
      (Returns.bind fun _ => Returns.bind fun _ => returns_pure .stays)

/-! ## From functions to calls -/

/-- A function of a state hands on what the next state has. -/
def HandsOn (holds : State -> Client -> Prop) (state : State) (action : Action State) : Prop :=
  forall before, At state (holds state) before ->
    action.Ends (fun next => At state (holds next)) (fun _ => At state (holds state)) before

/-- A property that is kept may be handed on to the states that are returned. -/
theorem handsOn_of_keeps {holds : State -> Client -> Prop} {state : State} {action : Action State}
    (kept : Keeps (At state (holds state)) action)
    (returns : Returns (fun next => forall client, holds state client -> holds next client) action) :
    HandsOn holds state action := by
  intro before held
  refine ((kept before held).and (returns before)).mono ?_ fun _ _ kept => kept.1
  exact fun next after both => ⟨both.1.isAt, both.2 after both.1.fact⟩

/-- A property for each state that the functions of the states hand on, and that everything else
keeps but giving something out, with datagrams that may arrive. -/
structure Walk (search : BinarySearch Incoming) (arrives : Bytes -> Prop) (holds : State -> Client -> Prop) : Prop where
  handsOn : forall state, HandsOn holds state (makeProgressFrom search state)
  stateless : forall {state client} next, holds state client -> holds state { client with state := next }
  timeless : forall {state client} now, holds state client -> holds state { client with lastNow := now }
  queueless : forall {state client} queued, holds state client -> holds state { client with queuedData := queued }
  closes : forall {state client}, holds state client -> holds .closed client
  initRandom : forall state now, Keeps (At state (holds state)) (initRandom now)
  parsePacket : forall state packet, arrives packet ->
    Keeps (At state (holds state)) (onEngine (Engine.parsePacket search packet))
  handleTimeout : forall state now, Keeps (At state (holds state)) (onEngine (Engine.handleTimeout now))
  createRecord : forall state contentType data,
    Keeps (At state (holds state)) (onEngine (Engine.createRecord contentType 1 false data))
  abort : forall state, Keeps (At state (holds state)) (onEngine Engine.abort)

section Walk

variable {search : BinarySearch Incoming} {arrives : Bytes -> Prop} {holds : State -> Client -> Prop} {Value : Type}

/-- What holds of the client in its state. -/
def Has (holds : State -> Client -> Prop) (client : Client) : Prop := holds client.state client

theorem At.has {state : State} {client : Client} (held : At state (holds state) client) : Has holds client := by
  unfold Has
  rw [held.isAt]
  exact held.fact

theorem has_of_at {action : Action Value} (kept : forall state, Keeps (At state (holds state)) action) :
    Keeps (Has holds) action :=
  fun before held => (kept before.state before ⟨rfl, held⟩).mono (fun _ _ kept => kept.has) fun _ _ kept => kept.has

theorem Walk.makeProgressLoop (walk : Walk search arrives holds) (fuel : Nat) :
    Keeps (Has holds) (makeProgressLoop search fuel) := by
  induction fuel with
  | zero => exact keeps_pure ()
  | succ fuel ih =>
      refine Keeps.get_bind fun self held => ?_
      rw [ends_bind]
      refine (walk.handsOn self.state self ⟨rfl, held⟩).mono ?_ fun _ _ kept => kept.has
      intro next after kept
      rw [ends_ite]
      refine ⟨fun _ => ?_, fun stays => ?_⟩
      · rw [ends_bind, ends_modify]
        exact ih _ (walk.stateless next kept.fact)
      · rw [← not_not.mp stays] at kept
        exact kept.has

theorem Walk.closing (walk : Walk search arrives holds) :
    Keeps (Has holds) (modify fun self : Client => { self with state := .closed } : Action Unit) :=
  keeps_modify fun _ held => walk.stateless .closed (walk.closes held)

/-- The calls that give nothing out keep the property. -/
theorem Walk.call (walk : Walk search arrives holds) {request : Call} (silent : forall room, request ≠ .pollOutput room)
    (arrived : forall packet, request = .handlePacket packet -> arrives packet) :
    Keeps (Has holds) (call search request) := by
  cases request with
  | pollOutput room => exact absurd rfl (silent room)
  | handlePacket packet =>
      refine Keeps.bind (Keeps.bind ?_ fun _ => walk.makeProgressLoop 20) fun _ => keeps_pure _
      exact has_of_at fun state => walk.parsePacket state packet (arrived packet rfl)
  | handleTimeout now =>
      refine Keeps.bind (Keeps.bind ?_ fun _ => Keeps.bind ?_ fun _ => Keeps.bind ?_ fun _ =>
        walk.makeProgressLoop 20) fun _ => keeps_pure _
      · exact keeps_modify fun _ held => walk.timeless now held
      · exact has_of_at fun state => walk.initRandom state now
      · exact has_of_at fun state => walk.handleTimeout state now
  | sendApplicationData data =>
      refine Keeps.bind (keeps_get.bind fun self => (keeps_fail _).ite (Keeps.ite ?_ ?_)) fun _ => keeps_pure _
      · exact keeps_modify fun client held => walk.queueless _ held
      · exact has_of_at fun state => walk.createRecord state .applicationData data
  | close =>
      refine Keeps.bind (keeps_get.bind fun self => (keeps_pure _).ite (Keeps.ite ?_ ?_)) fun _ => keeps_pure _
      · exact (has_of_at walk.abort).bind fun _ => walk.closing
      · exact (has_of_at fun state => walk.createRecord state .alert closeNotifyAlert).bind fun _ => walk.closing

theorem call_returns_none {request : Call} (silent : forall room, request ≠ .pollOutput room) :
    Returns (fun output => output = none) (call search request) := by
  cases request with
  | pollOutput room => exact absurd rfl (silent room)
  | handlePacket packet => exact Returns.bind fun _ => returns_pure rfl
  | handleTimeout now => exact Returns.bind fun _ => returns_pure rfl
  | sendApplicationData data => exact Returns.bind fun _ => returns_pure rfl
  | close => exact Returns.bind fun _ => returns_pure rfl

/-- Over a run, the calls that give nothing out are looked at once what they bring has come in. -/
theorem run_invariant_of_polls {config : Config} {auth : AuthMode} {rng : SeededRng}
    (holds : Traffic -> Client -> Prop)
    (initially : forall now, holds ⟨[], []⟩ (new config auth rng now))
    (receives : forall earlier packet client, holds earlier client ->
      holds { earlier with received := earlier.received ++ [packet] } client)
    (silent : forall earlier request, (forall room, request ≠ .pollOutput room) ->
      (forall packet, request = .handlePacket packet -> packet ∈ earlier.received) ->
      Keeps (holds earlier) (call search request))
    (polls : forall earlier room before, holds earlier before ->
      (pollOutput room).Ends (fun output after => holds { earlier with given := earlier.given ++ [output] } after)
        (fun _ after => holds earlier after) before)
    {run : Client × Traffic}
    (reachable : ((system search config auth rng).remember (traffic search)).Reachable run) :
    holds run.2 run.1 := by
  refine run_invariant holds initially ?_ reachable
  intro earlier request before held
  have still : forall request outputs, Call.packet request = none ->
      earlier.with request outputs = { earlier with given := earlier.given ++ outputs } := by
    intro request outputs none
    unfold Traffic.with
    rw [none, Option.toList_none, List.append_nil]
  by_cases isPoll : exists room, request = .pollOutput room
  · rcases isPoll with ⟨room, rfl⟩
    show Ends (do return some (← pollOutput room)) _ _ before
    rw [ends_bind]
    refine (polls earlier room before held).mono ?_ ?_
    · intro output after kept
      rw [ends_pure, Option.toList_some, still _ _ rfl]
      exact kept
    · intro _ after kept
      rw [still _ _ rfl, List.append_nil]
      exact kept
  · have noPoll : forall room, request ≠ .pollOutput room := fun room same => isPoll ⟨room, same⟩
    have arrived : holds (earlier.with request []) before := by
      cases isPacket : request.packet with
      | none =>
          rw [still _ _ isPacket, List.append_nil]
          exact held
      | some packet =>
          unfold Traffic.with
          rw [isPacket, List.append_nil]
          exact receives earlier packet before held
    have among : forall packet, request = .handlePacket packet -> packet ∈ (earlier.with request []).received := by
      rintro packet rfl
      exact List.mem_append_right _ (List.mem_singleton.mpr rfl)
    refine ((silent _ request noPoll among before arrived).and (call_returns_none noPoll before)).mono ?_
      fun _ _ both => both.1
    rintro _ after ⟨kept, rfl⟩
    exact kept

end Walk

end Client

/-! ## Properties of the engine -/

/-- A property that the methods of the engine keep which every client calls, whatever its state. -/
structure Engine.Tame (search : BinarySearch Incoming) (arrives : Bytes -> Prop) (holds : Engine -> Prop) : Prop where
  createRecord : forall contentType epoch save fragment, Keeps holds (createRecord contentType epoch save fragment)
  sendHandshake : forall msgType body, Keeps holds (sendHandshake msgType body)
  nextHandshake : forall wanted, Keeps holds (nextHandshake wanted)
  nextCcs : Keeps holds (nextRecord .changeCipherSpec)
  dropPendingCcs : Keeps holds dropPendingCcs
  parsePacket : forall packet, arrives packet -> Keeps holds (parsePacket search packet)
  handleTimeout : forall now, Keeps holds (handleTimeout now)
  randomBytes : forall count, Keeps holds (randomBytes count)
  flightBegin : Keeps holds flightBegin
  flightStopResendTimers : Keeps holds flightStopResendTimers
  discardPendingWrites : Keeps holds discardPendingWrites
  abort : Keeps holds abort
  resetClient : Keeps holds resetClientForHelloVerifyRequest

theorem Engine.framed_tame {search : BinarySearch Incoming} {arrives : Bytes -> Prop} {holds : Engine -> Prop}
    (framed : Framed holds) (unread : Unread holds) : Tame search arrives holds where
  createRecord := framed.createRecord
  sendHandshake := unread_sendHandshake framed unread
  nextHandshake := unread_nextHandshake framed unread
  nextCcs := framed_nextRecord framed _
  dropPendingCcs := framed_dropPendingCcs framed
  parsePacket := fun packet _ => framed_parsePacket framed search packet
  handleTimeout := framed_handleTimeout framed
  randomBytes := framed_randomBytes framed
  flightBegin := framed_flightBegin framed
  flightStopResendTimers := framed_flightStopResendTimers framed
  discardPendingWrites := framed_discardPendingWrites framed
  abort := framed_abort framed
  resetClient := keeps_modify fun engine held => unread engine [] held

namespace Client

/-- What is to be shown of a property of the engine, which may differ from state to state. -/
structure EngineWalk (search : BinarySearch Incoming) (arrives : Bytes -> Prop) (holds : State -> Engine -> Prop) :
    Prop where
  tame : forall state, Engine.Tame search arrives (holds state)
  follows : forall {state next engine}, Follows state next -> holds state engine -> holds next engine
  closes : forall {state engine}, holds state engine -> holds .closed engine
  setCipherSuite : forall suite, Keeps (holds .awaitServerHello) (Engine.setCipherSuite suite)
  processEcdhParams : forall toError group unsupported key, Keeps (holds .awaitServerKeyExchange)
    (Engine.onCryptoContext toError (CryptoContext.processEcdhParams group unsupported key))
  clientKeyExchange : Keeps (holds .sendClientKeyExchange) handshakeCreateClientKeyExchange
  deriveKeys : forall (suite : Dtls12CipherSuite) (masterError keyError : String -> Error)
    (sessionHash : Bytes) (unsupported : String) (clientRandom serverRandom : Bytes) (before : Engine),
    holds .sendChangeCipherSpec before -> before.cipherSuite = some suite ->
      Ends (do
          Engine.onCryptoContext masterError (CryptoContext.deriveExtendedMasterSecret sessionHash suite.hashAlgorithm)
          Engine.onCryptoContext keyError (CryptoContext.deriveKeys suite unsupported clientRandom serverRandom))
        (fun _ => holds .sendChangeCipherSpec) (fun _ => holds .sendChangeCipherSpec) before
  enablePeerEncryption : forall before, holds .awaitChangeCipherSpec before ->
    (Engine.enablePeerEncryption search).Ends (fun _ => holds .awaitNewSessionTicket)
      (fun _ => holds .awaitChangeCipherSpec) before
  releaseApplicationData : forall engine, holds .awaitFinished engine ->
    holds .awaitApplicationData { engine with releaseAppData := true }

section EngineWalk

variable {search : BinarySearch Incoming} {arrives : Bytes -> Prop} {holds : State -> Engine -> Prop}
  (walk : EngineWalk search arrives holds) {state : State} {held : Engine -> Prop}
  (tame : Engine.Tame search arrives held)

include tame

theorem tame_nextHandshake (wanted : MessageType) :
    Keeps (AtEngine state held) (onEngine (Engine.nextHandshake wanted)) := keeps_onEngine (tame.nextHandshake wanted)

theorem tame_createHandshake (msgType : MessageType) {fill : Engine.Action Bytes} (filled : Keeps held fill) :
    Keeps (AtEngine state held) (onEngine (Engine.createHandshake msgType fill)) :=
  keeps_onEngine (filled.bind fun _ => tame.sendHandshake _ _)

theorem tame_sendClientHello : Keeps (AtEngine state held) sendClientHello := by
  refine keeps_get.bind fun self => (keeps_unwrap _).bind fun random => ?_
  refine (keeps_onEngine tame.flightBegin).bind fun _ => Keeps.bind ?_ fun _ => (keeps_pure _).ite (keeps_pure _)
  exact tame_createHandshake tame _ (keeps_get.bind fun _ => keeps_pure _)

theorem tame_awaitHelloVerifyRequest : Keeps (AtEngine state held) awaitHelloVerifyRequest := by
  refine keeps_get.bind fun self => (keeps_pure _).ite ((tame_nextHandshake tame _).bind fun found => ?_)
  split
  · exact keeps_pure _
  · split
    · refine (keeps_fail _).ite (Keeps.bind (keeps_beside ?_) fun _ => Keeps.bind ?_ fun _ => keeps_pure _)
      · exact fun _ => ⟨rfl, rfl⟩
      · exact keeps_onEngine tame.resetClient
    · exact keeps_fail _

omit tame in
theorem keeps_readUseSrtp (data : Bytes) : Keeps (AtEngine state held) (readUseSrtp data) := by
  unfold readUseSrtp
  split
  · split
    · exact keeps_beside fun _ => ⟨rfl, rfl⟩
    · exact keeps_pure _
  · exact keeps_fail _
  · exact keeps_pure _

theorem tame_awaitServerHello (set : forall suite, Keeps held (Engine.setCipherSuite suite)) :
    Keeps (AtEngine state held) awaitServerHello := by
  refine (tame_nextHandshake tame _).bind fun found => ?_
  split
  · exact keeps_pure _
  · split
    · refine keeps_get.bind fun self => (keeps_ofExcept _).bind fun _ => (keeps_onEngine (set _)).bind fun _ => ?_
      refine Keeps.bind (keeps_beside fun _ => ⟨rfl, rfl⟩) fun _ => ?_
      split
      · exact keeps_fail _
      · refine Keeps.bind (Keeps.each fun extension _ => (keeps_readUseSrtp _).ite (keeps_pure _)) fun _ => ?_
        exact (keeps_fail _).ite ((keeps_pure _).ite (keeps_pure _))
    · exact keeps_fail _

theorem tame_awaitCertificate : Keeps (AtEngine state held) awaitCertificate := by
  refine (tame_nextHandshake tame _).bind fun found => ?_
  split
  · exact keeps_pure _
  · split
    · refine (keeps_fail _).ite (Keeps.bind (keeps_beside ?_) fun _ => keeps_pure _)
      exact fun _ => ⟨rfl, rfl⟩
    · exact keeps_fail _

theorem tame_awaitServerKeyExchange (processed : forall toError group unsupported key,
      Keeps held (Engine.onCryptoContext toError (CryptoContext.processEcdhParams group unsupported key))) :
    Keeps (AtEngine state held) awaitServerKeyExchange := by
  refine keeps_selectedSuite.bind fun suite => Keeps.ite ?_ ?_
  · refine keeps_get.bind fun self => (keeps_pure _).ite ((tame_nextHandshake tame _).bind fun found => ?_)
    split
    · exact keeps_pure _
    · split
      · exact keeps_pure _
      · exact keeps_fail _
      · exact keeps_fail _
  · refine (tame_nextHandshake tame _).bind fun found => ?_
    split
    · exact keeps_pure _
    · split
      · split
        · exact keeps_fail _
        · refine keeps_get.bind fun self => (keeps_unwrap _).bind fun _ => (keeps_unwrap _).bind fun _ => ?_
          refine keeps_selectedSuite.bind fun suite => (keeps_ofExcept _).bind fun _ => (keeps_unwrap _).bind fun _ => ?_
          split
          · exact keeps_fail _
          · exact (keeps_onEngine (processed _ _ _ _)).bind fun _ => keeps_pure _
      · exact keeps_fail _
      · exact keeps_fail _

theorem tame_awaitCertificateRequest : Keeps (AtEngine state held) awaitCertificateRequest := by
  refine keeps_get.bind fun self => (keeps_pure _).ite ((tame_nextHandshake tame _).bind fun found => ?_)
  split
  · exact keeps_pure _
  · split
    · refine (keeps_unwrap _).bind fun hash => (keeps_fail _).ite (Keeps.bind (keeps_beside ?_) fun _ => keeps_pure _)
      exact fun _ => ⟨rfl, rfl⟩
    · exact keeps_fail _

omit tame in
theorem keeps_emit (event : LocalEvent) : Keeps (AtEngine state held) (emit event) :=
  keeps_beside fun _ => ⟨rfl, rfl⟩

theorem tame_awaitServerHelloDone : Keeps (AtEngine state held) awaitServerHelloDone := by
  refine (tame_nextHandshake tame _).bind fun found => ?_
  split
  · exact keeps_pure _
  · split
    · refine keeps_selectedSuite.bind fun suite => keeps_get.bind fun self => (keeps_pure _).ite ((keeps_fail _).ite ?_)
      exact (keeps_emit _).bind fun _ => (keeps_pure _).ite (keeps_pure _)
    · exact keeps_fail _

theorem tame_sendCertificate : Keeps (AtEngine state held) sendCertificate :=
  (keeps_onEngine tame.flightBegin).bind fun _ =>
    Keeps.bind (tame_createHandshake tame _ (keeps_get.bind fun _ => keeps_ofExcept _)) fun _ => keeps_pure _

theorem tame_sendClientKeyExchange (filled : Keeps held handshakeCreateClientKeyExchange) :
    Keeps (AtEngine state held) sendClientKeyExchange := by
  refine keeps_get.bind fun self => Keeps.bind ?_ fun _ => (tame_createHandshake tame _ filled).bind fun _ => ?_
  · exact (keeps_pure _).ite (keeps_onEngine tame.flightBegin)
  · refine keeps_selectedSuite.bind fun suite => Keeps.bind (keeps_beside ?_) fun _ => (keeps_pure _).ite (keeps_pure _)
    exact fun _ => ⟨rfl, rfl⟩

theorem tame_sendCertificateVerify : Keeps (AtEngine state held) sendCertificateVerify := by
  refine Keeps.bind (tame_createHandshake tame _ (keeps_get.bind fun engine => ?_)) fun _ => keeps_pure _
  split
  · split
    · exact keeps_fail _
    · exact keeps_pure _
  · exact keeps_fail _

theorem tame_sendFinished : Keeps (AtEngine state held) sendFinished :=
  Keeps.bind (tame_createHandshake tame _ (Engine.keeps_generateVerifyData _)) fun _ => keeps_pure _

theorem tame_awaitNewSessionTicket : Keeps (AtEngine state held) awaitNewSessionTicket := by
  refine keeps_get.bind fun self => (keeps_pure _).ite ((tame_nextHandshake tame _).bind fun found => ?_)
  split
  · exact keeps_pure _
  · split
    · exact keeps_pure _
    · exact keeps_fail _

theorem tame_awaitApplicationData : Keeps (AtEngine state held) awaitApplicationData := by
  refine keeps_get.bind fun self => Keeps.ite ?_ ?_
  · refine (keeps_onEngine tame.discardPendingWrites).bind fun _ => ?_
    exact (keeps_onEngine (tame.createRecord _ _ _ _)).bind fun _ => keeps_pure _
  · refine Keeps.bind (keeps_beside ?_) fun _ => Keeps.bind (Keeps.each fun data _ => ?_) fun _ => keeps_pure _
    · exact fun _ => ⟨rfl, rfl⟩
    · exact keeps_onEngine (tame.createRecord _ _ _ _)

omit tame in
theorem keeps_emitKeyingMaterial : Keeps (AtEngine state held) emitKeyingMaterial := by
  refine keeps_get.bind fun self => ?_
  split
  · exact keeps_pure _
  · refine (keeps_unwrap _).bind fun suite => ?_
    split
    · exact keeps_emit _
    · exact keeps_pure _

omit tame

/-! The three functions that do more. -/

include walk

theorem EngineWalk.sendChangeCipherSpec :
    Keeps (AtEngine .sendChangeCipherSpec (holds .sendChangeCipherSpec)) sendChangeCipherSpec := by
  have tame := walk.tame .sendChangeCipherSpec
  refine Keeps.bind ?_ fun _ => (keeps_onEngine (tame.createRecord _ _ _ _)).bind fun _ => keeps_pure _
  unfold Client.deriveKeys selectedSuite
  refine Keeps.get_bind fun self held => ?_
  rw [ends_bind, ends_bind, ends_get]
  cases selected : self.engine.cipherSuite with
  | none => exact held
  | some suite =>
      dsimp only
      rw [ends_pure]
      cases self.serverRandom with
      | none => exact held
      | some serverRandom =>
          dsimp only
          cases self.random with
          | none => exact held
          | some clientRandom =>
              cases self.capturedSessionHash with
              | none => exact held
              | some sessionHash =>
                  rw [ends_bind]
                  show (onEngine _).Ends _ _ self
                  unfold onEngine
                  rw [ends_zoom]
                  refine (walk.deriveKeys suite _ _ sessionHash _ _ _ self.engine held.fact selected).mono ?_ ?_
                  · exact fun _ _ kept => ⟨held.isAt, kept⟩
                  · exact fun _ _ kept => ⟨held.isAt, kept⟩

theorem EngineWalk.awaitChangeCipherSpec : HandsOn (fun state client => holds state client.engine)
    .awaitChangeCipherSpec (awaitChangeCipherSpec search) := by
  intro before held
  have tame := walk.tame .awaitChangeCipherSpec
  unfold Client.awaitChangeCipherSpec
  rw [ends_bind]
  refine (keeps_onEngine tame.nextCcs before held).mono ?_ fun _ _ kept => kept
  intro found after kept
  split
  · exact kept
  · rw [ends_bind]
    refine (keeps_onEngine tame.dropPendingCcs after kept).mono ?_ fun _ _ kept => kept
    intro _ dropped kept
    unfold onEngine
    rw [ends_bind, ends_zoom]
    refine (walk.enablePeerEncryption dropped.engine kept.fact).mono ?_ ?_
    · exact fun _ _ enabled => ⟨kept.isAt, enabled⟩
    · exact fun _ _ stopped => ⟨kept.isAt, stopped⟩

theorem EngineWalk.awaitFinished : HandsOn (fun state client => holds state client.engine) .awaitFinished
    awaitFinished := by
  intro before held
  have tame := walk.tame .awaitFinished
  unfold Client.awaitFinished
  rw [ends_bind]
  refine (keeps_onEngine (Engine.keeps_generateVerifyData false) before held).mono ?_ fun _ _ kept => kept
  intro expected after kept
  rw [ends_bind]
  refine (tame_nextHandshake tame .finished after kept).mono ?_ fun _ _ kept => kept
  intro found after kept
  split
  · exact kept
  · split
    · rw [ends_ite]
      refine ⟨fun _ => kept, fun _ => ?_⟩
      rw [ends_bind]
      refine (keeps_onEngine tame.flightStopResendTimers after kept).mono ?_ fun _ _ kept => kept
      intro _ after kept
      rw [ends_bind]
      refine (keeps_emit .connected after kept).mono ?_ fun _ _ kept => kept
      intro _ after kept
      rw [ends_bind]
      refine (keeps_emitKeyingMaterial after kept).mono ?_ fun _ _ kept => kept
      intro _ after kept
      exact ⟨kept.isAt, walk.releaseApplicationData after.engine kept.fact⟩
    · exact kept

/-- A function that keeps the property in its state. -/
theorem EngineWalk.handsOn_of_keeps {action : Action State} (kept : Keeps (AtEngine state (holds state)) action)
    (returns : Returns (Follows state) action) : HandsOn (fun state client => holds state client.engine) state action :=
  Client.handsOn_of_keeps kept (returns.mono fun _ follows _ => walk.follows follows)

theorem EngineWalk.handsOn (state : State) :
    HandsOn (fun state client => holds state client.engine) state (makeProgressFrom search state) := by
  have tame := walk.tame
  cases state with
  | sendClientHello => exact walk.handsOn_of_keeps (tame_sendClientHello (tame _)) returns_sendClientHello
  | awaitHelloVerifyRequest =>
      exact walk.handsOn_of_keeps (tame_awaitHelloVerifyRequest (tame _)) returns_awaitHelloVerifyRequest
  | awaitServerHello =>
      exact walk.handsOn_of_keeps (tame_awaitServerHello (tame _) walk.setCipherSuite) returns_awaitServerHello
  | awaitCertificate => exact walk.handsOn_of_keeps (tame_awaitCertificate (tame _)) returns_awaitCertificate
  | awaitServerKeyExchange =>
      exact walk.handsOn_of_keeps (tame_awaitServerKeyExchange (tame _) walk.processEcdhParams)
        returns_awaitServerKeyExchange
  | awaitCertificateRequest =>
      exact walk.handsOn_of_keeps (tame_awaitCertificateRequest (tame _)) returns_awaitCertificateRequest
  | awaitServerHelloDone =>
      exact walk.handsOn_of_keeps (tame_awaitServerHelloDone (tame _)) returns_awaitServerHelloDone
  | sendCertificate => exact walk.handsOn_of_keeps (tame_sendCertificate (tame _)) returns_sendCertificate
  | sendClientKeyExchange =>
      exact walk.handsOn_of_keeps (tame_sendClientKeyExchange (tame _) walk.clientKeyExchange)
        returns_sendClientKeyExchange
  | sendCertificateVerify =>
      exact walk.handsOn_of_keeps (tame_sendCertificateVerify (tame _)) returns_sendCertificateVerify
  | sendChangeCipherSpec => exact walk.handsOn_of_keeps walk.sendChangeCipherSpec returns_sendChangeCipherSpec
  | sendFinished => exact walk.handsOn_of_keeps (tame_sendFinished (tame _)) returns_sendFinished
  | awaitChangeCipherSpec => exact walk.awaitChangeCipherSpec
  | awaitNewSessionTicket =>
      exact walk.handsOn_of_keeps (tame_awaitNewSessionTicket (tame _)) returns_awaitNewSessionTicket
  | awaitFinished => exact walk.awaitFinished
  | awaitApplicationData =>
      exact walk.handsOn_of_keeps (tame_awaitApplicationData (tame _)) returns_awaitApplicationData
  | closed => exact fun _ held => held

theorem EngineWalk.toWalk : Walk search arrives fun state client => holds state client.engine where
  handsOn := walk.handsOn
  stateless := fun _ held => held
  timeless := fun _ held => held
  queueless := fun _ held => held
  closes := walk.closes
  initRandom := by
    intro state now
    refine keeps_get.bind fun self => Keeps.ite (keeps_get.bind fun self => ?_) (keeps_pure _)
    refine (keeps_onEngine ((walk.tame state).randomBytes _)).bind fun _ => keeps_beside ?_
    exact fun _ => ⟨rfl, rfl⟩
  parsePacket := fun state packet arrived => keeps_onEngine ((walk.tame state).parsePacket packet arrived)
  handleTimeout := fun state now => keeps_onEngine ((walk.tame state).handleTimeout now)
  createRecord := fun state contentType data => keeps_onEngine ((walk.tame state).createRecord contentType 1 false data)
  abort := fun state => keeps_onEngine (walk.tame state).abort

end EngineWalk

end Client

end Dtls
end P2pSdk
