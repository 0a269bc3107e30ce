import P2pSdk.Stun.Client

namespace P2pSdk

open Foundation

/-!
# TURN sessions (`turn/session.rs`)

A session is allocated over a new DTLS connection, which stays open for the
permissions that are asked for later.

The code of an error response is a sum of 16-bit numbers.  A build with
overflow checks panics where the sum does not fit; one without wraps around.
Both builds are modelled.
-/

/-! ## Error codes -/

/-- `left + right` in a build with or without overflow checks. -/
def addU16 (overflowChecks : Bool) (left right : UInt16) : Checked UInt16 :=
  if overflowChecks ∧ 65536 ≤ left.toNat + right.toNat then .error .arithmeticOverflow
  else .ok (left + right)

/-- `format!("{code} {reason}")`. -/
def errorText (code : UInt16) (reason : String) : String := toString code.toNat ++ " " ++ reason

/-- A round of `parse_error_code`. -/
def errorCodeRound (overflowChecks : Bool) (response : Bytes) (offset : Nat)
    (header : AttributeHeader) (_ : Unit) : Checked (Round Unit String) :=
  if header.attrType = ATTR_ERROR_CODE ∧ offset + 8 ≤ response.length then do
    let classByte ← byteAt response (offset + 4)
    let errorClass := (classByte &&& 0x07).toUInt16
    let number ← readU16 response (offset + 6)
    let code ← addU16 overflowChecks (errorClass * 100) number
    let reasonStart := offset + 8
    let reasonEnd := min (reasonStart + (header.attrLen.toNat - 4)) response.length
    let reason ← sliceRange response reasonStart reasonEnd
    pure (.done (errorText code (fromUtf8Lossy reason)))
  else pure (.next ())

/-- The text of the first ERROR-CODE of a response. -/
def parseErrorCode (overflowChecks : Bool) (response : Bytes) : Checked (Option String) :=
  if response.length < 20 then pure none
  else do
    let msgLen ← readU16 response 2
    match ← walkAttributes response msgLen (errorCodeRound overflowChecks response) () with
    | .done text => pure (some text)
    | .next _ => pure none

/-! ## Sessions -/

inductive TurnError where
  | client (error : StunClientError)
  | notOpen
  deriving DecidableEq, Repr

/-- A persistent DTLS session to a TURN server. -/
structure TurnSession (Session : Type) where
  dtls : Session
  turnIp : String
  turnPort : UInt16
  p2pToken : String
  relayIp : String
  relayPort : UInt16
  mappedIp : String
  mappedPort : UInt16
  closed : Bool

namespace TurnSession

variable {Session : Type} (dtls : DtlsOps Session)

/-- What `allocate` makes of the decrypted response. -/
def allocateOutcome (decrypted : Bytes) (transactionId : TransactionId) :
    Checked (Except TurnError TurnResult) := do
  match ← parseAllocateResponse decrypted transactionId with
  | .ok result => pure (.ok result)
  | .error error => pure (.error (.client (.responseParse error.text)))

/-- Allocate a relay address.  `created` is what `DtlsSession::new` returns,
`transactionId` the value that `generate_transaction_id` returns inside the
request builder. -/
def allocate (created : Except DtlsError Session) (readings : List Nat) (io : DatagramIo)
    (turnIp : String) (turnPort : UInt16) (p2pToken : String) (family : UInt8)
    (transactionId : TransactionId) :
    Option (Checked (DatagramIo × Except TurnError (TurnSession Session))) :=
  match created with
  | .error error => some (.ok (io, .error (.client (.dtls error))))
  | .ok session =>
      match dtlsHandshake dtls readings none session io with
      | none => none
      | some (_, io, .error error) => some (.ok (io, .error (.client error)))
      | some (session, io, .ok ()) =>
          match buildAllocateRequest p2pToken family transactionId with
          | .error panic => some (.error panic)
          | .ok req =>
              match dtls.encrypt session req.data with
              | (_, .error error) => some (.ok (io, .error (.client (.dtls error))))
              | (session, .ok encrypted) =>
                  match (io.send encrypted).recv STUN_RESPONSE_TIMEOUT_MS with
                  | (none, io) => some (.ok (io, .error (.client .timeout)))
                  | (some response, io) =>
                      match dtls.decrypt session response with
                      | (_, .error error) => some (.ok (io, .error (.client (.dtls error))))
                      | (session, .ok decrypted) => some do
                          match ← allocateOutcome decrypted req.transactionId with
                          | .error error => pure (io, .error error)
                          | .ok result => pure (io, .ok
                              { dtls := session
                                turnIp := turnIp
                                turnPort := turnPort
                                p2pToken := p2pToken
                                relayIp := result.relayIp
                                relayPort := result.relayPort
                                mappedIp := result.mappedIp
                                mappedPort := result.mappedPort
                                closed := false })

/-- The addresses that the accessors of a session read. -/
def addresses (turn : TurnSession Session) : TurnResult where
  relayIp := turn.relayIp
  relayPort := turn.relayPort
  mappedIp := turn.mappedIp
  mappedPort := turn.mappedPort

/-- The text of an error response without a readable ERROR-CODE. -/
def permissionErrorText (msgType : UInt16) : String :=
  "TURN CreatePermission error (type 0x" ++ hexPadded 4 msgType.toNat ++ ")"

/-- The text for a response of any other type. -/
def unexpectedTypeText (msgType : UInt16) : String :=
  "unexpected response type 0x" ++ hexPadded 4 msgType.toNat

/-- What `create_permission` makes of the decrypted response: its type decides. -/
def permissionOutcome (overflowChecks : Bool) (response : Bytes) :
    Checked (Except TurnError Unit) :=
  if response.length < 2 then pure (.error (.client (.responseParse "response too short")))
  else do
    let msgType ← readU16 response 0
    if msgType = STUN_CREATE_PERMISSION_SUCCESS then pure (.ok ())
    else if msgType = STUN_CREATE_PERMISSION_ERROR then do
      match ← parseErrorCode overflowChecks response with
      | some text => pure (.error (.client (.stunError text)))
      | none => pure (.error (.client (.stunError (permissionErrorText msgType))))
    else pure (.error (.client (.stunError (unexpectedTypeText msgType))))

/-- Ask for permissions for the given peers. -/
def createPermission (overflowChecks : Bool) (turn : TurnSession Session) (readings : List Nat)
    (io : DatagramIo) (peers : List String) (transactionId : TransactionId) :
    Option (Checked (TurnSession Session × DatagramIo × Except TurnError Unit)) :=
  if turn.closed then some (.ok (turn, io, .error .notOpen))
  else if peers = [] then some (.ok (turn, io, .ok ()))
  else
    match buildCreatePermissionRequest peers turn.p2pToken transactionId with
    | .error panic => some (.error panic)
    | .ok req =>
        match dtlsStunExchange dtls readings turn.dtls io req.data with
        | none => none
        | some (session, io, .error error) =>
            some (.ok ({ turn with dtls := session }, io, .error (.client error)))
        | some (session, io, .ok response) => some do
            let outcome ← permissionOutcome overflowChecks response
            pure ({ turn with dtls := session }, io, outcome)

/-- Close the DTLS connection, once. -/
def close (turn : TurnSession Session) : TurnSession Session :=
  if turn.closed then turn else { turn with dtls := dtls.close turn.dtls, closed := true }

end TurnSession

end P2pSdk
