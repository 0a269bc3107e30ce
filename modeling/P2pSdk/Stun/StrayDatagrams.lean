import P2pSdk.Turn.Session

namespace P2pSdk

open Foundation

/-!
# Stray datagrams in an encrypted exchange

Anyone can send to the socket of an exchange, and the flights of the handshake
may arrive more than once.  The exchange receives one datagram and returns what
it decrypts to, so that a stray one in front of the answer is what it ends
with.  The same code stands in `allocate`.

Sessions are abstract here: a datagram carries application data of the session
or it does not, and decrypting either leaves the session usable.
-/

/-- How the datagrams of a connected session decrypt. -/
structure Deciphers {Session : Type} (dtls : DtlsOps Session) (usable : Session -> Prop)
    (plain : Bytes -> Option Bytes) : Prop where
  decrypts : forall session datagram text, usable session -> plain datagram = some text ->
    exists after, dtls.decrypt session datagram = (after, .ok text) ∧ usable after
  refuses : forall session datagram, usable session -> plain datagram = none ->
    exists after error, dtls.decrypt session datagram = (after, .error error) ∧ usable after

/-- The handshake is over and the request encrypted; `later` is the socket then. -/
structure RequestReady {Session : Type} (dtls : DtlsOps Session) (usable : Session -> Prop)
    (readings : List Nat) (session : Session) (io : DatagramIo) (request : Bytes)
    (later : DatagramIo) : Prop where
  ready : exists connected sending record,
    dtlsHandshake dtls readings none session io = some (connected, later, .ok ()) ∧
      dtls.encrypt connected request = (sending, .ok record) ∧ usable sending

/-- The first datagram decrypts, or none of them does. -/
def FirstDecrypts (plain : Bytes -> Option Bytes) (datagrams : List Bytes) : Prop :=
  (datagrams.head?.bind plain).isSome ∨ datagrams.findSome? plain = none

/-- A result that is decided by the first datagram is the one expected of the
first datagram that decrypts. -/
theorem firstDecrypts_iff {Result : Type} {plain : Bytes -> Option Bytes} {datagrams : List Bytes}
    {result : Result} {expected : Bytes -> Result}
    (answered : forall datagram text, datagrams.head? = some datagram ->
      plain datagram = some text -> result = expected text)
    (disturbed : forall datagram, datagrams.head? = some datagram -> plain datagram = none ->
      forall text, result ≠ expected text) :
    (forall text, datagrams.findSome? plain = some text -> result = expected text) <->
      FirstDecrypts plain datagrams := by
  unfold FirstDecrypts
  cases datagrams with
  | nil =>
      constructor
      · intro _
        exact Or.inr rfl
      · intro _ text found
        cases found
  | cons datagram rest =>
      rw [List.head?_cons, Option.bind_some, List.findSome?_cons]
      cases isPlain : plain datagram with
      | some text =>
          constructor
          · intro _
            exact Or.inl rfl
          · intro _ other found
            cases found
            exact answered datagram text rfl isPlain
      | none =>
          constructor
          · intro survives
            refine Or.inr ?_
            cases found : rest.findSome? plain with
            | none => rfl
            | some text =>
                exact absurd (survives text found) (disturbed datagram rfl isPlain text)
          · intro condition text found
            rcases condition with impossible | none
            · cases impossible
            · rw [none] at found
              cases found

section Exchange

variable {Session : Type} {dtls : DtlsOps Session} {usable : Session -> Prop}
  {plain : Bytes -> Option Bytes} {readings : List Nat} {session : Session} {io later : DatagramIo}

/-- The request is sent, and the first datagram is received. -/
theorem RequestReady.receives {request : Bytes}
    (ready : RequestReady dtls usable readings session io request later) {datagram : Bytes}
    (first : later.datagrams.head? = some datagram) :
    exists connected sending record after,
      dtlsHandshake dtls readings none session io = some (connected, later, .ok ()) ∧
      dtls.encrypt connected request = (sending, .ok record) ∧ usable sending ∧
      (later.send record).recv STUN_RESPONSE_TIMEOUT_MS = (some datagram, after) := by
  rcases ready.ready with ⟨connected, sending, record, handshake, encrypted, isUsable⟩
  have arrival := (later.send record).recv_fst STUN_RESPONSE_TIMEOUT_MS
  rw [DatagramIo.datagrams_send, first] at arrival
  exact ⟨connected, sending, record, _, handshake, encrypted, isUsable, Prod.ext arrival rfl⟩

/-- The exchange decrypts the first datagram. -/
theorem dtlsStunExchange_first {request : Bytes}
    (ready : RequestReady dtls usable readings session io request later) {datagram : Bytes}
    (first : later.datagrams.head? = some datagram) :
    exists sending, usable sending ∧
      (dtlsStunExchange dtls readings session io request).map (fun outcome => outcome.2.2) =
        some ((dtls.decrypt sending datagram).2.mapError StunClientError.dtls) := by
  rcases ready.receives first with
    ⟨connected, sending, record, after, handshake, encrypted, isUsable, received⟩
  refine ⟨sending, isUsable, ?_⟩
  unfold dtlsStunExchange
  rw [handshake]
  dsimp only
  rw [encrypted]
  dsimp only
  rw [received]
  dsimp only
  rcases dtls.decrypt sending datagram with ⟨last, result⟩
  cases result with
  | error error => rfl
  | ok decrypted => rfl

/-- `allocate` decrypts the first datagram, and makes of it what it can. -/
theorem allocate_first {p2pToken : String} {family : UInt8} {transactionId : TransactionId}
    {req : StunRequest} (built : buildAllocateRequest p2pToken family transactionId = .ok req)
    (ready : RequestReady dtls usable readings session io req.data later) {datagram : Bytes}
    (first : later.datagrams.head? = some datagram) (turnIp : String) (turnPort : UInt16) :
    exists sending, usable sending ∧
      (TurnSession.allocate dtls (.ok session) readings io turnIp turnPort p2pToken family
          transactionId).map
        (fun outcome => outcome.map fun result => result.2.map TurnSession.addresses) =
        some (match (dtls.decrypt sending datagram).2 with
          | .error error => .ok (.error (.client (.dtls error)))
          | .ok decrypted => TurnSession.allocateOutcome decrypted req.transactionId) := by
  rcases ready.receives first with
    ⟨connected, sending, record, after, handshake, encrypted, isUsable, received⟩
  refine ⟨sending, isUsable, ?_⟩
  unfold TurnSession.allocate
  dsimp only
  rw [handshake]
  dsimp only
  rw [built]
  dsimp only
  rw [encrypted]
  dsimp only
  rw [received]
  dsimp only
  rcases dtls.decrypt sending datagram with ⟨last, result⟩
  cases result with
  | error error => rfl
  | ok decrypted =>
      dsimp only
      cases TurnSession.allocateOutcome decrypted req.transactionId with
      | error panic => rfl
      | ok outcome =>
          cases outcome with
          | error error => rfl
          | ok result => rfl

/-- No response makes `allocate` report a DTLS error. -/
theorem allocateOutcome_ne_dtls (decrypted : Bytes) (transactionId : TransactionId)
    (error : DtlsError) :
    TurnSession.allocateOutcome decrypted transactionId ≠ .ok (.error (.client (.dtls error))) := by
  intro same
  rcases Checked.bind_eq_ok.mp same with ⟨parsed, _, isOutcome⟩
  cases parsed with
  | ok result => cases isOutcome
  | error error => cases isOutcome

end Exchange

/-- An exchange, and an allocation, end with the first datagram that decrypts
exactly when the first datagram decrypts or none does. -/
theorem survives_iff_first_decrypts {Session : Type} (dtls : DtlsOps Session)
    (usable : Session -> Prop) (plain : Bytes -> Option Bytes)
    (deciphers : Deciphers dtls usable plain) (readings : List Nat) (session : Session)
    (io later : DatagramIo) :
    (forall request, RequestReady dtls usable readings session io request later ->
      ((forall text, later.datagrams.findSome? plain = some text ->
          (dtlsStunExchange dtls readings session io request).map (fun outcome => outcome.2.2) =
            some (.ok text)) <->
        FirstDecrypts plain later.datagrams)) ∧
    forall (turnIp : String) (turnPort : UInt16) (p2pToken : String) (family : UInt8)
      (transactionId : TransactionId) (req : StunRequest),
      buildAllocateRequest p2pToken family transactionId = .ok req ->
      RequestReady dtls usable readings session io req.data later ->
        ((forall text, later.datagrams.findSome? plain = some text ->
            (TurnSession.allocate dtls (.ok session) readings io turnIp turnPort p2pToken family
                transactionId).map
              (fun outcome => outcome.map fun result => result.2.map TurnSession.addresses) =
              some (TurnSession.allocateOutcome text req.transactionId)) <->
          FirstDecrypts plain later.datagrams) := by
  constructor
  · intro request ready
    refine firstDecrypts_iff ?_ ?_
    · intro datagram text first isPlain
      rcases dtlsStunExchange_first ready first with ⟨sending, isUsable, outcome⟩
      rcases deciphers.decrypts sending datagram text isUsable isPlain with ⟨_, decrypted, _⟩
      rw [outcome, decrypted]
      rfl
    · intro datagram first isStray text
      rcases dtlsStunExchange_first ready first with ⟨sending, isUsable, outcome⟩
      rcases deciphers.refuses sending datagram isUsable isStray with ⟨_, _, refused, _⟩
      rw [outcome, refused]
      intro impossible
      cases impossible
  · intro turnIp turnPort p2pToken family transactionId req built ready
    refine firstDecrypts_iff ?_ ?_
    · intro datagram text first isPlain
      rcases allocate_first built ready first turnIp turnPort with ⟨sending, isUsable, outcome⟩
      rcases deciphers.decrypts sending datagram text isUsable isPlain with ⟨_, decrypted, _⟩
      rw [outcome, decrypted]
    · intro datagram first isStray text
      rcases allocate_first built ready first turnIp turnPort with ⟨sending, isUsable, outcome⟩
      rcases deciphers.refuses sending datagram isUsable isStray with ⟨_, _, refused, _⟩
      rw [outcome, refused]
      intro same
      exact allocateOutcome_ne_dtls _ _ _ (Option.some.inj same).symm

/-! ## A session whose records are marked -/

/-- Application data has content type 23 and is not hidden further. -/
def markedPlain : Bytes -> Option Bytes
  | 23 :: text => some text
  | _ => none

/-- A session that is connected at once. -/
def markedOps : DtlsOps Unit where
  handshakeStep := fun session _ => (session, .ok .complete)
  encrypt := fun session text => (session, .ok (23 :: text))
  decrypt := fun session datagram =>
    (session,
      match markedPlain datagram with
      | some text => .ok text
      | none => .error (.decryptFailed "no application data"))
  close := fun session => session

theorem markedOps_deciphers : Deciphers markedOps (fun _ => True) markedPlain where
  decrypts := by
    intro session datagram text _ isPlain
    refine ⟨session, ?_, trivial⟩
    simp only [markedOps, isPlain]
  refuses := by
    intro session datagram _ isStray
    refine ⟨session, .decryptFailed "no application data", ?_, trivial⟩
    simp only [markedOps, isStray]

/-- The socket of an exchange at which the given datagrams arrive. -/
def arriving (datagrams : List Bytes) : DatagramIo where
  sent := []
  waits := []
  arrivals := datagrams.map some

theorem markedOps_ready (request : Bytes) (datagrams : List Bytes) :
    RequestReady markedOps (fun _ => True) [0] () (arriving datagrams) request
      (arriving datagrams) where
  ready := ⟨(), (), 23 :: request, rfl, rfl, trivial⟩

/-- The answer comes first, a duplicate of a handshake flight behind it. -/
theorem answered_before_stray :
    (dtlsStunExchange markedOps [0] () (arriving [[23, 1, 2], [22, 9]]) [7]).map
      (fun outcome => outcome.2.2) = some (.ok [1, 2]) :=
  ((survives_iff_first_decrypts markedOps (fun _ => True) markedPlain markedOps_deciphers [0] ()
    (arriving [[23, 1, 2], [22, 9]]) (arriving [[23, 1, 2], [22, 9]])).1 [7]
      (markedOps_ready [7] [[23, 1, 2], [22, 9]])).mpr (Or.inl rfl) [1, 2] rfl

/-- A duplicate of a handshake flight in front of the answer ends the exchange. -/
theorem answer_lost_behind_stray :
    ¬ forall (dtls : DtlsOps Unit) (usable : Unit -> Prop) (plain : Bytes -> Option Bytes)
      (readings : List Nat) (session : Unit) (io later : DatagramIo) (request text : Bytes),
      Deciphers dtls usable plain ->
      RequestReady dtls usable readings session io request later ->
      later.datagrams.findSome? plain = some text ->
        (dtlsStunExchange dtls readings session io request).map (fun outcome => outcome.2.2) =
          some (.ok text) := by
  intro claim
  have survives := claim markedOps (fun _ => True) markedPlain [0] ()
    (arriving [[22, 9], [23, 1, 2]]) (arriving [[22, 9], [23, 1, 2]]) [7] [1, 2]
    markedOps_deciphers (markedOps_ready [7] [[22, 9], [23, 1, 2]]) rfl
  revert survives
  decide

end P2pSdk
