import P2pSdk.Dtls.Handshake
import P2pSdk.Foundation.Queues

namespace P2pSdk
namespace Dtls

open Foundation Parser Effect

/-!
# Datagrams that come in (`dtls12/incoming.rs`)

A datagram is cut into records by the lengths in their headers.  A record that
does not parse is dropped, and one of a later epoch is decrypted once the peer
has switched to encryption.  What the records need of the engine is a
`RecordHandler`.
-/

/-- A record and the fragments in it.  Records of other types than handshake have none. -/
structure ParsedRecord where
  record : DTLSRecord
  handshakes : ArrayVec Handshake 8
  handled : Bool
  plain : record.contentType ≠ .handshake -> handshakes.items = []

/-- A record with the bytes it was parsed from. -/
structure Record where
  buffer : Bytes
  parsed : ParsedRecord

def parseHandshakesLoop (cipherSuite : Option Dtls12CipherSuite) :
    Nat -> ArrayVec Handshake 8 -> Bytes -> ArrayVec Handshake 8
  | 0, acc, _ => acc
  | fuel + 1, acc, input =>
      if input.isEmpty then acc
      else
        match Handshake.parse cipherSuite true input with
        | .ok (handshake, remaining) =>
            match acc.tryPush handshake with
            | some acc => parseHandshakesLoop cipherSuite fuel acc remaining
            | none => acc
        | .error _ => acc

/-- The fragments at the front of the bytes.  Each takes a byte at least. -/
def parseHandshakes (input : Bytes) (cipherSuite : Option Dtls12CipherSuite) : ArrayVec Handshake 8 :=
  parseHandshakesLoop cipherSuite input.length .empty input

namespace ParsedRecord

def ofRecord (record : DTLSRecord) (cipherSuite : Option Dtls12CipherSuite) : ParsedRecord where
  record := record
  handshakes :=
    if record.contentType = .handshake then parseHandshakes record.fragment cipherSuite else .empty
  handled := false
  plain := by
    intro other
    rw [if_neg other]
    rfl

def parse (input : Bytes) (cipherSuite : Option Dtls12CipherSuite) (offset : Nat) : Except Fault ParsedRecord :=
  match DTLSRecord.parse offset input with
  | .ok (record, _) => .ok (ofRecord record cipherSuite)
  | .error reason => .error (.ofStop reason)

def isHandled (self : ParsedRecord) : Bool :=
  if self.handshakes.items.isEmpty then self.handled else self.handshakes.items.all Handshake.handled

end ParsedRecord

/-- What the records of a datagram need of the state of the engine. -/
structure RecordHandler (State : Type) where
  classifyRecord : Record -> Effect State Fault (Option Record)
  isPeerEncryptionEnabled : State -> Bool
  replayCheck : State -> Sequence -> Bool
  replayUpdate : Sequence -> State -> State
  decryptionAadAndNonce : State -> DTLSRecord -> Except Fault (Aad × Nonce)
  explicitNonceLen : State -> Nat
  decryptData : Bytes -> Aad -> Nonce -> Effect State Fault Bytes

variable {State : Type}

namespace Record

def isHandled (self : Record) : Bool := self.parsed.isHandled

/-- The header with the length of the plaintext, the explicit nonce, and the plaintext. -/
def decrypted (slice : Bytes) (ciph : Nat) (plaintext : Bytes) : Bytes :=
  slice.take 11 ++ (beBytes 2 plaintext.length ++ ((slice.take ciph).drop DTLSRecord.headerLen ++ plaintext))

/-- Decrypt a record that passed the check for replays, and parse it again. -/
def decrypt (handler : RecordHandler State) (slice : Bytes) (record : DTLSRecord)
    (cipherSuite : Option Dtls12CipherSuite) : Effect State Fault (Option Record) := do
  let state ← get
  let (aad, nonce) ← ofExcept (handler.decryptionAadAndNonce state record)
  let ciph := DTLSRecord.headerLen + handler.explicitNonceLen state
  if slice.length < ciph then fail .panic
  else
    let plaintext ← handler.decryptData (slice.drop ciph) aad nonce
    modify (handler.replayUpdate record.sequence)
    let buffer := decrypted slice ciph plaintext
    let parsed ← ofExcept (ParsedRecord.parse buffer cipherSuite (handler.explicitNonceLen state))
    return some { buffer, parsed }

def parse (handler : RecordHandler State) (slice : Bytes) (cipherSuite : Option Dtls12CipherSuite) :
    Effect State Fault (Option Record) :=
  match ParsedRecord.parse slice cipherSuite 0 with
  | .error _ => return none
  | .ok parsed => do
      let state ← get
      -- It is not enough to look at the epoch: records of the next one may come before the keys.
      if parsed.record.sequence.epoch = 0 ∨ handler.isPeerEncryptionEnabled state = false then
        return some { buffer := slice, parsed }
      else if handler.replayCheck state parsed.record.sequence = false then return none
      else decrypt handler slice parsed.record cipherSuite

end Record

namespace Records

/-- The end of the first record of a datagram, by the length in its header. -/
def recordEnd (packet : Bytes) : Nat := DTLSRecord.headerLen + beNat ((packet.drop 11).take 2)

def split (handler : RecordHandler State) (cipherSuite : Option Dtls12CipherSuite) :
    Nat -> ArrayVec Record 8 -> Bytes -> Effect State Fault (ArrayVec Record 8)
  | 0, acc, _ => pure acc
  | fuel + 1, acc, packet =>
      if packet.isEmpty then pure acc
      else if packet.length < DTLSRecord.headerLen then fail (.error .parseIncomplete)
      else if packet.length < recordEnd packet then fail (.error .parseIncomplete)
      else do
        match ← Record.parse handler (packet.take (recordEnd packet)) cipherSuite with
        | some record =>
            match acc.tryPush record with
            | some acc => split handler cipherSuite fuel acc (packet.drop (recordEnd packet))
            | none => fail (.error .tooManyRecords)
        | none => split handler cipherSuite fuel acc (packet.drop (recordEnd packet))

/-- Keep the records that are not consumed by the engine. -/
def classify (handler : RecordHandler State) :
    List Record -> ArrayVec Record 8 -> Effect State Fault (ArrayVec Record 8)
  | [], acc => pure acc
  | record :: rest, acc => do
      match ← handler.classifyRecord record with
      | some record =>
          match acc.tryPush record with
          | some acc => classify handler rest acc
          | none => fail .panic
      | none => classify handler rest acc

def parse (handler : RecordHandler State) (packet : Bytes) (cipherSuite : Option Dtls12CipherSuite) :
    Effect State Fault (ArrayVec Record 8) := do
  let parsed ← split handler cipherSuite packet.length .empty packet
  classify handler parsed.items .empty

end Records

/-- The records of a datagram that are left to the engine, one at least. -/
structure Incoming where
  records : ArrayVec Record 8
  nonempty : records.items ≠ []

namespace Incoming

def first (self : Incoming) : Record := self.records.items.head self.nonempty

def parsePacket (handler : RecordHandler State) (packet : Bytes) (cipherSuite : Option Dtls12CipherSuite) :
    Effect State Fault (Option Incoming) := do
  let records ← Records.parse handler packet cipherSuite
  if nonempty : records.items ≠ [] then return some { records, nonempty } else return none

/-- Change the records, handing a state on. -/
def passing {σ : Type} (step : σ -> Record -> σ × Record) (state : σ) (self : Incoming) : σ × Incoming :=
  ((Foundation.passing step state self.records.items).1,
    { records := ⟨(Foundation.passing step state self.records.items).2, by
        rw [passing_length]
        exact self.records.fits⟩
      nonempty := by
        intro contrary
        have same := passing_length step state self.records.items
        rw [show (Foundation.passing step state self.records.items).2 = [] from contrary] at same
        exact self.nonempty (List.length_eq_zero_iff.mp same.symm) })

@[simp] theorem passing_state {σ : Type} (step : σ -> Record -> σ × Record) (state : σ) (self : Incoming) :
    (self.passing step state).1 = (Foundation.passing step state self.records.items).1 := rfl

@[simp] theorem passing_records {σ : Type} (step : σ -> Record -> σ × Record) (state : σ) (self : Incoming) :
    (self.passing step state).2.records.items = (Foundation.passing step state self.records.items).2 := rfl

end Incoming

/-! ## Invariants -/

/-- The effects of the handler keep a property of the state. -/
structure RecordHandler.Keeps (handler : RecordHandler State) (holds : State -> Prop) : Prop where
  classifyRecord : forall record, Effect.Keeps holds (handler.classifyRecord record)
  replayUpdate : forall sequence state, holds state -> holds (handler.replayUpdate sequence state)
  decryptData : forall ciphertext aad nonce, Effect.Keeps holds (handler.decryptData ciphertext aad nonce)

section Invariants

variable {handler : RecordHandler State} {holds : State -> Prop}

theorem keeps_decrypt (kept : handler.Keeps holds) (slice : Bytes) (record : DTLSRecord)
    (cipherSuite : Option Dtls12CipherSuite) : Keeps holds (Record.decrypt handler slice record cipherSuite) := by
  refine keeps_get.bind fun state => (keeps_ofExcept _).bind fun input => ?_
  refine (keeps_fail _).ite ((kept.decryptData _ _ _).bind fun plaintext => ?_)
  refine Keeps.bind (keeps_modify (kept.replayUpdate _)) fun _ => (keeps_ofExcept _).bind fun parsed => ?_
  exact keeps_pure _

theorem keeps_recordParse (kept : handler.Keeps holds) (slice : Bytes) (cipherSuite : Option Dtls12CipherSuite) :
    Keeps holds (Record.parse handler slice cipherSuite) := by
  unfold Record.parse
  split
  · exact keeps_pure _
  · refine keeps_get.bind fun state => (keeps_pure _).ite ((keeps_pure _).ite ?_)
    exact keeps_decrypt kept _ _ _

theorem keeps_split (kept : handler.Keeps holds) (cipherSuite : Option Dtls12CipherSuite) (fuel : Nat)
    (acc : ArrayVec Record 8) (packet : Bytes) : Keeps holds (Records.split handler cipherSuite fuel acc packet) := by
  induction fuel generalizing acc packet with
  | zero => exact keeps_pure _
  | succ fuel ih =>
      refine (keeps_pure _).ite ((keeps_fail _).ite ((keeps_fail _).ite ?_))
      refine (keeps_recordParse kept _ _).bind fun parsed => ?_
      cases parsed with
      | none => exact ih _ _
      | some record =>
          dsimp only
          cases acc.tryPush record with
          | none => exact keeps_fail _
          | some acc => exact ih _ _

theorem keeps_classify (kept : handler.Keeps holds) (records : List Record) (acc : ArrayVec Record 8) :
    Keeps holds (Records.classify handler records acc) := by
  induction records generalizing acc with
  | nil => exact keeps_pure _
  | cons record rest ih =>
      refine (kept.classifyRecord record).bind fun classified => ?_
      cases classified with
      | none => exact ih _
      | some record =>
          dsimp only
          cases acc.tryPush record with
          | none => exact keeps_fail _
          | some acc => exact ih _

/-- A property that the handler keeps holds after a datagram. -/
theorem keeps_parsePacket (kept : handler.Keeps holds) (packet : Bytes) (cipherSuite : Option Dtls12CipherSuite) :
    Keeps holds (Incoming.parsePacket handler packet cipherSuite) := by
  refine Keeps.bind ?_ fun records => ?_
  · exact (keeps_split kept _ _ _ _).bind fun parsed => keeps_classify kept _ _
  · split
    · exact keeps_pure _
    · exact keeps_pure _

end Invariants

namespace ParsedRecord

/-- Change the fragments, handing a state on. -/
def passing {σ : Type} (step : σ -> Handshake -> σ × Handshake) (state : σ) (self : ParsedRecord) :
    σ × ParsedRecord :=
  ((Foundation.passing step state self.handshakes.items).1,
    { self with
      handshakes := ⟨(Foundation.passing step state self.handshakes.items).2, by
        rw [passing_length]
        exact self.handshakes.fits⟩
      plain := by
        intro other
        show (Foundation.passing step state self.handshakes.items).2 = []
        rw [self.plain other]
        rfl })

end ParsedRecord

end Dtls
end P2pSdk
