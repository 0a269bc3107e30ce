import P2pSdk.Dtls.Client
import P2pSdk.Foundation.History

namespace P2pSdk
namespace Dtls

open Foundation Effect

/-!
# Runs of the client

The user of a client calls its methods in any order and with any arguments:
the datagrams come from the network, and what it does with an error is its own
affair.  A run is remembered by the datagrams that came in and by what the
calls gave out.
-/

namespace Client

inductive Call where
  | handlePacket (packet : Bytes)
  | handleTimeout (now : Nat)
  | pollOutput (room : Nat)
  | sendApplicationData (data : Bytes)
  | close
  deriving DecidableEq, Repr

section Runs

variable (search : BinarySearch Incoming)

/-- A call, and what it gives out. -/
def call (call : Call) : Action (Option Output) :=
  match call with
  | .handlePacket packet => do
      handlePacket search packet
      return none
  | .handleTimeout now => do
      handleTimeout search now
      return none
  | .pollOutput room => return some (← pollOutput room)
  | .sendApplicationData data => do
      sendApplicationData data
      return none
  | .close => do
      close
      return none

/-- A client before its first call. -/
def new (config : Config) (auth : AuthMode) (rng : SeededRng) (now : Nat) : Client :=
  newWithEngine (Engine.new config auth rng) now

/-- A client and its calls.  A call that fails leaves what it did. -/
def system (config : Config) (auth : AuthMode) (rng : SeededRng) : TransitionSystem Client Call where
  initial := fun client => exists now, client = new config auth rng now
  step := fun before request after => after = (call search request before).2

def given (outcome : Except Fault (Option Output)) : List Output :=
  match outcome with
  | .ok (some output) => [output]
  | _ => []

/-- What came in and was given out. -/
structure Traffic where
  received : List Bytes
  given : List Output

def Call.packet : Call -> Option Bytes
  | .handlePacket packet => some packet
  | _ => none

/-- The traffic with a call and what it gives out. -/
def Traffic.with (self : Traffic) (request : Call) (outputs : List Output) : Traffic where
  received := self.received ++ request.packet.toList
  given := self.given ++ outputs

def traffic : Recorder Client Call Traffic where
  start := ⟨[], []⟩
  record := fun before request _ earlier => earlier.with request (given (call search request before).1)

variable {search : BinarySearch Incoming} {config : Config} {auth : AuthMode} {rng : SeededRng}

/-- What a client with its traffic keeps, from one call to the next. -/
theorem run_invariant (holds : Traffic -> Client -> Prop)
    (initially : forall now, holds ⟨[], []⟩ (new config auth rng now))
    (preserved : forall earlier request before, holds earlier before ->
      (call search request).Ends (fun output after => holds (earlier.with request output.toList) after)
        (fun _ after => holds (earlier.with request []) after) before)
    {run : Client × Traffic}
    (reachable : ((system search config auth rng).remember (traffic search)).Reachable run) :
    holds run.2 run.1 := by
  refine reachable.remembered_invariant (fun client earlier => holds earlier client) ?_ ?_
  · rintro _ ⟨now, rfl⟩
    exact initially now
  · rintro before earlier request after _ held rfl
    have ends := preserved earlier request before held
    show holds (earlier.with request (given _)) _
    rcases ran : call search request before with ⟨outcome, after⟩
    cases outcome with
    | ok output =>
        have kept := ends.of_ok ran
        cases output with
        | none => exact kept
        | some output => exact kept
    | error fault => exact ends.of_error ran

/-! ## A session -/

/-- Make a list of calls, each of which may depend on the client. -/
def play (search : BinarySearch Incoming) (calls : List (Client -> Call)) (run : Client × Traffic) :
    Client × Traffic :=
  calls.foldl
    (fun run request =>
      let outcome := call search (request run.1) run.1
      (outcome.2, run.2.with (request run.1) (given outcome.1)))
    run

theorem play_reachable {run : Client × Traffic} (calls : List (Client -> Call))
    (reachable : ((system search config auth rng).remember (traffic search)).Reachable run) :
    ((system search config auth rng).remember (traffic search)).Reachable (play search calls run) := by
  induction calls generalizing run with
  | nil => exact reachable
  | cons request calls ih =>
      have stepped : ((system search config auth rng).remember (traffic search)).step run (request run.1)
          ((call search (request run.1) run.1).2,
            run.2.with (request run.1) (given (call search (request run.1) run.1).1)) := ⟨rfl, rfl⟩
      exact ih (.step reachable stepped)

end Runs

namespace Sample

def digest (data : Bytes) : Nat := data.foldl (fun acc byte => (acc * 31 + byte.toNat) % 2 ^ 32) 7

/-- As many bytes as are wanted, from a digest. -/
def spread (count : Nat) (data : Bytes) : Bytes :=
  (List.range count).map fun index => UInt8.ofNat (digest data * (2 * index + 1) / 2 ^ 8)

/-- A cipher that only appends a tag. -/
def cipher (key : Bytes) : Cipher where
  encrypt := fun plaintext aad nonce => .ok (plaintext ++ spread 16 (key ++ (aad ++ (nonce.bytes ++ plaintext))))
  decrypt := fun ciphertext aad nonce =>
    let plaintext := ciphertext.take (ciphertext.length - 16)
    if ciphertext.drop (ciphertext.length - 16) = spread 16 (key ++ (aad ++ (nonce.bytes ++ plaintext))) then
      .ok plaintext
    else .error "tag mismatch"
  inPlace := by
    intro ciphertext aad nonce plaintext decrypted
    dsimp only at decrypted
    split at decrypted
    · cases decrypted
      exact List.length_take_le' _ _
    · cases decrypted

def provider : CryptoProvider where
  cipherSuites :=
    [{ suite := .ecdheEcdsaChacha20Poly1305Sha256, explicitNonceLen := 0, tagLen := 16, macKeyLen := 0,
       encKeyLen := 32, fixedIvLen := 12, createCipher := fun key => .ok (cipher key) }]
  kxGroups :=
    [{ name := .x25519
       startExchange := fun count =>
        .ok { pubKey := [UInt8.ofNat count], group := .x25519, complete := fun peer => .ok (peer ++ [UInt8.ofNat count]) } }]
  hmac := fun _ key data => .ok (spread 32 (key ++ data))
  hash := fun _ data => spread 32 data
  verifySignature := fun certificate data signature _ _ =>
    if signature = spread 8 (certificate ++ data) then .ok () else .error "bad signature"

theorem provider_tagsExact : provider.TagsExact := by
  intro supported isSupported key made created plaintext aad nonce ciphertext encrypted
  cases List.mem_singleton.mp isSupported
  cases created
  cases encrypted
  rw [List.length_append]
  unfold spread
  rw [List.length_map, List.length_range]

def config : Config where
  mtu := 1150
  maxQueueRx := 30
  maxQueueTx := 10
  requireClientCertificate := false
  useServerCookie := true
  flightStartRto := 1000000000
  flightRetries := 4
  handshakeTimeout := 40000000000
  cryptoProvider := provider
  cipherSuiteFilter := none
  kxGroupFilter := none
  psk := none
  mtuLarge := Nat.le_of_ble_eq_true rfl

def auth : AuthMode :=
  .certificate [1]
    { algorithm := .ecdsa, hashAlgorithm := .sha256, supportedHashAlgorithms := [.sha256],
      sign := fun data _ => .ok (spread 8 data) }

def rng : SeededRng where
  bytes := fun draw => UInt8.ofNat draw
  jitter := fun _ => 0
  small := fun _ => Nat.zero_le _
  drawn := 0

def start : Client × Traffic := (Client.new config auth rng 0, ⟨[], []⟩)

theorem start_reachable : ((system .linear config auth rng).remember (traffic .linear)).Reachable start :=
  .start ⟨⟨0, rfl⟩, rfl⟩

/-! The server's messages, made from what the client knows. -/

def record (contentType : ContentType) (number : Nat) (fragment : Bytes) : Bytes :=
  DTLSRecord.serialize
    { contentType, version := .dtls1_2, sequence := ⟨0, number⟩, length := UInt16.ofNat fragment.length, fragment }

/-- A record under the keys of the server. -/
def sealed (client : Client) (contentType : ContentType) (number : Nat) (plaintext : Bytes) : Bytes :=
  let context := client.engine.cryptoContext
  match context.serverCipher, context.serverWriteIv with
  | some cipher, some iv =>
      match Nonce.xor iv (Sequence.seq64 ⟨1, number⟩) with
      | .ok nonce =>
          match cipher.encrypt plaintext
              (Aad.newDtls12 contentType ⟨1, number⟩ (UInt16.ofNat plaintext.length)) nonce with
          | .ok ciphertext =>
              DTLSRecord.serialize
                { contentType, version := .dtls1_2, sequence := ⟨1, number⟩,
                  length := UInt16.ofNat ciphertext.length, fragment := ciphertext }
          | .error _ => []
      | .error _ => []
  | _, _ => []

def message (msgType : MessageType) (messageSeq : UInt16) (body : Bytes) : Bytes :=
  Header.serialize { msgType, length := body.length, messageSeq, fragmentOffset := 0, fragmentLength := body.length } ++
    body

def serverRandom : Random := ⟨List.replicate 32 7, List.length_replicate⟩

def serverHello : ServerHello where
  serverVersion := .dtls1_2
  random := serverRandom
  sessionId := .empty
  cipherSuite := .ecdheEcdsaChacha20Poly1305Sha256
  compressionMethod := .null
  extensions := some ⟨[⟨.extendedMasterSecret, []⟩], Nat.le_of_ble_eq_true rfl⟩

def certificate : Bytes := [3, 1, 4]

def params : EcdhParams := { curveType := .namedCurve, namedGroup := .x25519, publicKey := [9, 9], signature := none }

def signed (client : Client) : DigitallySigned where
  algorithm := ⟨.sha256, .ecdsa⟩
  signature :=
    spread 8 (certificate ++ signedParams (client.random.getD serverRandom) serverRandom params)

def firstFlight (client : Client) : Bytes :=
  record .handshake 0 (message .serverHello 0 serverHello.serialize) ++
    (record .handshake 1 (message .certificate 1 (Certificate.serialize ⟨⟨[certificate], Nat.le_of_ble_eq_true rfl⟩⟩)) ++
      (record .handshake 2 (message .serverKeyExchange 2
          (EcdhParams.serialize { params with signature := some (signed client) } true)) ++
        record .handshake 3 (message .serverHelloDone 3 [])))

def verifyData (client : Client) : Bytes :=
  match client.engine.cryptoContext.generateVerifyData (client.engine.transcriptHash .sha256) false .sha256 with
  | .ok data => data
  | .error _ => []

def lastFlight (client : Client) : Bytes :=
  record .changeCipherSpec 4 [1] ++ sealed client .handshake 0 (message .finished 4 (verifyData client))

/-- A handshake, and data in both directions. -/
def calls : List (Client -> Call) :=
  [fun _ => .handleTimeout 0, fun _ => .pollOutput 2000, fun client => .handlePacket (firstFlight client),
    fun _ => .pollOutput 2000, fun _ => .pollOutput 2000, fun client => .handlePacket (lastFlight client),
    fun _ => .pollOutput 2000, fun _ => .sendApplicationData [5, 6], fun _ => .pollOutput 2000,
    fun client => .handlePacket (sealed client .applicationData 1 [7, 8]), fun _ => .pollOutput 2000]

/-- The session after its first calls. -/
def session (count : Nat) : Client × Traffic := play .linear (calls.take count) start

theorem session_reachable (count : Nat) :
    ((system .linear config auth rng).remember (traffic .linear)).Reachable (session count) :=
  play_reachable _ start_reachable

end Sample

end Client

end Dtls
end P2pSdk
