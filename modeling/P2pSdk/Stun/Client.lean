import P2pSdk.Stun.Message

namespace P2pSdk

open Foundation

/-!
# STUN exchanges over DTLS (`stun/client.rs`)

The functions do their I/O through two closures, one that sends a datagram and
one that waits for the next.  The closures are modelled by what they have sent
and by the answers that the receiving one still has in store.  A DTLS session
is whatever `dtls/session.rs` makes of the record layer: its operations are a
parameter, and the exchange is a program over them.

The handshake loops until a deadline.  It is fed with the readings of its
clock, one a round; where they run out it has not ended yet.
-/

/-- Errors from DTLS session operations. -/
inductive DtlsError where
  | handshakeFailed (msg : String)
  | encryptFailed (msg : String)
  | decryptFailed (msg : String)
  | notConnected
  | destroyed
  | internal (msg : String)
  deriving DecidableEq, Repr

/-- Result of a single handshake step. -/
inductive HandshakeStep where
  | dataToSend (data : Bytes)
  | waiting
  | complete
  deriving DecidableEq, Repr

/-- The operations of a `DtlsSession`, each with the session after it. -/
structure DtlsOps (Session : Type) where
  handshakeStep : Session -> Option Bytes -> Session × Except DtlsError HandshakeStep
  encrypt : Session -> Bytes -> Session × Except DtlsError Bytes
  decrypt : Session -> Bytes -> Session × Except DtlsError Bytes
  close : Session -> Session

inductive StunClientError where
  | dtls (error : DtlsError)
  | timeout
  | responseParse (msg : String)
  | stunError (msg : String)
  deriving DecidableEq, Repr

def DTLS_HANDSHAKE_TIMEOUT_MS : Nat := 15000
def HANDSHAKE_STEP_TIMEOUT_MS : Nat := 1000
def STUN_RESPONSE_TIMEOUT_MS : Nat := 5000

/-! ## The two closures -/

structure DatagramIo where
  /-- What `send` was given. -/
  sent : List Bytes
  /-- The timeouts that `recv` was given. -/
  waits : List Nat
  /-- What `recv` will return: a datagram, or `none` at a timeout. -/
  arrivals : List (Option Bytes)
  deriving DecidableEq, Repr

namespace DatagramIo

def send (io : DatagramIo) (data : Bytes) : DatagramIo := { io with sent := io.sent ++ [data] }

/-- The next answer.  Where none is left nothing arrives any more. -/
def recv (io : DatagramIo) (timeoutMs : Nat) : Option Bytes × DatagramIo :=
  (io.arrivals.head?.join,
    { io with waits := io.waits ++ [timeoutMs], arrivals := io.arrivals.tail })

/-- The datagrams that `recv` yields before it first returns `none`. -/
def datagrams (io : DatagramIo) : List Bytes :=
  (io.arrivals.takeWhile Option.isSome).flatMap Option.toList

@[simp] theorem datagrams_send (io : DatagramIo) (data : Bytes) :
    (io.send data).datagrams = io.datagrams := rfl

/-- The first of them is what the next call returns. -/
theorem recv_fst (io : DatagramIo) (timeoutMs : Nat) :
    (io.recv timeoutMs).1 = io.datagrams.head? := by
  unfold recv datagrams
  cases io.arrivals with
  | nil => rfl
  | cons arrival rest =>
      cases arrival with
      | none => rfl
      | some datagram => rfl

end DatagramIo

/-! ## Handshake and exchange -/

section Exchange

variable {Session : Type} (dtls : DtlsOps Session)

/-- Drive a DTLS handshake to completion. -/
def dtlsHandshake :
    List Nat -> Option Bytes -> Session -> DatagramIo ->
      Option (Session × DatagramIo × Except StunClientError Unit)
  | [], _, _, _ => none
  | elapsed :: readings, incoming, session, io =>
      if DTLS_HANDSHAKE_TIMEOUT_MS < elapsed then some (session, io, .error .timeout)
      else
        match dtls.handshakeStep session incoming with
        | (session, .error error) => some (session, io, .error (.dtls error))
        | (session, .ok .complete) => some (session, io, .ok ())
        | (session, .ok (.dataToSend data)) =>
            let (incoming, io) := (io.send data).recv HANDSHAKE_STEP_TIMEOUT_MS
            dtlsHandshake readings incoming session io
        | (session, .ok .waiting) =>
            let (incoming, io) := io.recv HANDSHAKE_STEP_TIMEOUT_MS
            dtlsHandshake readings incoming session io

/-- Handshake, then exchange one encrypted message: one datagram is received,
and what it decrypts to is the response. -/
def dtlsStunExchange (readings : List Nat) (session : Session) (io : DatagramIo) (request : Bytes) :
    Option (Session × DatagramIo × Except StunClientError Bytes) :=
  match dtlsHandshake dtls readings none session io with
  | none => none
  | some (session, io, .error error) => some (session, io, .error error)
  | some (session, io, .ok ()) =>
      match dtls.encrypt session request with
      | (session, .error error) => some (session, io, .error (.dtls error))
      | (session, .ok encrypted) =>
          match (io.send encrypted).recv STUN_RESPONSE_TIMEOUT_MS with
          | (none, io) => some (session, io, .error .timeout)
          | (some response, io) =>
              match dtls.decrypt session response with
              | (session, .error error) => some (session, io, .error (.dtls error))
              | (session, .ok decrypted) => some (session, io, .ok decrypted)

end Exchange

/-! ## Error texts -/

/-- `{value:0width$x}`. -/
def hexPadded (width value : Nat) : String :=
  String.ofList ((Nat.toDigits 16 value).leftpad width '0')

/-- `e.to_string()` of a parse error. -/
def StunError.text : StunError -> String
  | .responseTooShort len => s!"response too short: {len} bytes"
  | .invalidFirstBits => "invalid STUN response: first two bits not 00"
  | .unexpectedMessageType msgType => "unexpected message type: 0x" ++ hexPadded 4 msgType.toNat
  | .invalidMagicCookie cookie => "invalid Magic Cookie: 0x" ++ hexPadded 8 cookie.toNat
  | .transactionIdMismatch => "transaction ID mismatch"
  | .xorMappedAddressNotFound => "XOR-MAPPED-ADDRESS attribute not found"
  | .xorRelayedAddressNotFound => "XOR-RELAYED-ADDRESS not found in Allocate response"
  | .allocateError code reason => s!"allocate error {code.toNat}: {reason}"
  | .allocateErrorUnknown => "allocate error (unknown error code)"
  | .unsupportedAddressFamily family => s!"unsupported address family: {family.toNat}"
  | .xorMappedAddressTooShort => "XOR-MAPPED-ADDRESS too short"
  | .invalidPeerAddress peer => s!"invalid peer address format: {peer}"

end P2pSdk
