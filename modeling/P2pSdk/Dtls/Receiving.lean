import P2pSdk.Dtls.Sending

namespace P2pSdk
namespace Dtls

open Foundation Parser Effect

/-!
# Datagrams that come in, with an account of the data in them

Each record with data that the engine takes was decrypted from a record in some
datagram, under the keys of the peer and with a number that the window took
once, or came in some datagram as it is.

The bytes of a record are kept with it, since the queue is parsed again when
the peer switches to encryption.  Those of a record that was decrypted already
do no harm then: the window refuses its number, and the length in the header
leaves less than a record behind it.
-/

namespace DTLSRecord

theorem recordEnd_serialize (record : DTLSRecord) (rest : Bytes) :
    Records.recordEnd (record.serialize ++ rest) = headerLen + record.length.toNat := by
  unfold Records.recordEnd
  rw [serialize_eq, List.append_assoc, List.append_assoc, List.drop_left' record.headerFront_length,
    List.take_left' (beBytes_length _ _), beNat_beBytes_of_lt record.length.toNat_lt]

/-- Behind the header stands the fragment. -/
theorem serialize_drop (record : DTLSRecord) (count : Nat) :
    record.serialize.drop (headerLen + count) = record.fragment.drop count := by
  have sized : (record.headerFront ++ beBytes 2 record.length.toNat).length = headerLen := by
    rw [List.length_append, headerFront_length, beBytes_length]
    rfl
  rw [serialize_eq, ← List.append_assoc, ← List.drop_drop, List.drop_left' sized]

end DTLSRecord

namespace Engine

/-! ## Records in datagrams -/

/-- Bytes that end where the length in the header at their front says. -/
structure Delimited (bytes : Bytes) : Prop where
  header : DTLSRecord.headerLen ≤ bytes.length
  ends : Records.recordEnd bytes = bytes.length

/-- Bytes that stand in some datagram, with nothing but delimited records before them. -/
def Arrived (received : List Bytes) (bytes : Bytes) : Prop :=
  exists (packet : Bytes) (earlier : List Bytes) (rest : Bytes), packet ∈ received ∧
    (forall record, record ∈ earlier -> Delimited record) ∧ packet = earlier.flatten ++ (bytes ++ rest)

/-- A record that the parser reads where it stands in some datagram. -/
structure Came (received : List Bytes) (record : DTLSRecord) : Prop where
  wellFormed : record.WellFormed
  arrived : Arrived received record.serialize

section Arrived

variable {received : List Bytes} {bytes first second packet : Bytes}

theorem arrived_of_mem (isPacket : packet ∈ received) : Arrived received packet := by
  refine ⟨packet, [], [], isPacket, ?_, ?_⟩
  · intro record contrary
    cases contrary
  · rw [List.flatten_nil, List.nil_append, List.append_nil]

theorem Arrived.front (arrived : Arrived received (first ++ second)) : Arrived received first := by
  rcases arrived with ⟨packet, earlier, rest, isPacket, delimited, split⟩
  exact ⟨packet, earlier, second ++ rest, isPacket, delimited, by rw [split, List.append_assoc]⟩

theorem Arrived.behind (arrived : Arrived received (first ++ second)) (delimited : Delimited first) :
    Arrived received second := by
  rcases arrived with ⟨packet, earlier, rest, isPacket, areDelimited, split⟩
  refine ⟨packet, earlier ++ [first], rest, isPacket, ?_, ?_⟩
  · exact List.forall_mem_append.mpr ⟨areDelimited, List.forall_mem_singleton.mpr delimited⟩
  · rw [split, List.flatten_append, List.flatten_singleton, List.append_assoc, List.append_assoc]

theorem Arrived.receive (arrived : Arrived received bytes) (packet : Bytes) :
    Arrived (received ++ [packet]) bytes := by
  rcases arrived with ⟨other, earlier, rest, isPacket, delimited, split⟩
  exact ⟨other, earlier, rest, List.mem_append_left _ isPacket, delimited, split⟩

theorem Came.receive {record : DTLSRecord} (came : Came received record) (packet : Bytes) :
    Came (received ++ [packet]) record := ⟨came.wellFormed, came.arrived.receive packet⟩

/-- The first record of a datagram is delimited. -/
theorem delimited_take (inside : Records.recordEnd packet ≤ packet.length) :
    Delimited (packet.take (Records.recordEnd packet)) := by
  have sized : (packet.take (Records.recordEnd packet)).length = Records.recordEnd packet := by
    rw [List.length_take, Nat.min_eq_left inside]
  have long : 13 ≤ Records.recordEnd packet := Nat.le_add_right _ _
  refine ⟨sized.symm ▸ long, ?_⟩
  have sameLength : ((packet.take (Records.recordEnd packet)).drop 11).take 2 = (packet.drop 11).take 2 := by
    rw [List.drop_take, List.take_take, Nat.min_eq_left (by omega)]
  rw [sized]
  show DTLSRecord.headerLen + _ = DTLSRecord.headerLen + _
  rw [sameLength]

/-- What is parsed from delimited bytes is all of them. -/
theorem serialize_of_parse {slice rest : Bytes} {record : DTLSRecord} (delimited : Delimited slice)
    (parsed : DTLSRecord.parse 0 slice = .ok (record, rest)) : record.WellFormed ∧ slice = record.serialize := by
  rcases DTLSRecord.parse_eq_ok.mp parsed with ⟨wellFormed, rfl⟩
  have ends := delimited.ends
  rw [DTLSRecord.recordEnd_serialize, List.length_append, DTLSRecord.serialize_length, wellFormed.length] at ends
  have nothing : rest = [] := List.length_eq_zero_iff.mp (by omega)
  rw [nothing, List.append_nil]
  exact ⟨wellFormed, rfl⟩

end Arrived

/-! ## The bytes that are kept -/

/-- The bytes of a record that was decrypted: the window refuses its number, and the length in the header leaves
less than a record. -/
structure Spent (replay : ReplayWindow) (buffer : Bytes) : Prop where
  refused : forall {record rest}, DTLSRecord.parse 0 (buffer.take (Records.recordEnd buffer)) = .ok (record, rest) ->
    record.sequence.epoch ≠ 0 ∧ replay.check (UInt64.ofNat record.sequence.sequenceNumber) = false
  short : buffer.length < Records.recordEnd buffer + DTLSRecord.headerLen

/-- Bytes that may be parsed again. -/
def Kept (received : List Bytes) (replay : ReplayWindow) (buffers : List Bytes) : Prop :=
  forall buffer, buffer ∈ buffers -> Arrived received buffer ∨ Spent replay buffer

section Kept

variable {received buffers fewer : List Bytes} {replay : ReplayWindow}

theorem Kept.subset (kept : Kept received replay buffers) (isSubset : fewer ⊆ buffers) : Kept received replay fewer :=
  fun buffer isBuffer => kept buffer (isSubset isBuffer)

theorem Kept.receive (kept : Kept received replay buffers) (packet : Bytes) :
    Kept (received ++ [packet]) replay buffers :=
  fun buffer isBuffer => (kept buffer isBuffer).imp (fun arrived => arrived.receive packet) id

theorem Kept.update {taken : List UInt64} (kept : Kept received replay buffers) (took : replay.Took taken)
    (number : UInt64) : Kept received (replay.update number) buffers := by
  intro buffer isBuffer
  refine (kept buffer isBuffer).imp id fun spent => ⟨fun parsed => ?_, spent.short⟩
  rcases spent.refused parsed with ⟨isLater, refused⟩
  exact ⟨isLater, took.refuses_update refused number⟩

theorem Kept.append {buffer : Bytes} (kept : Kept received replay buffers)
    (keeps : Arrived received buffer ∨ Spent replay buffer) : Kept received replay (buffers ++ [buffer]) :=
  List.forall_mem_append.mpr ⟨kept, List.forall_mem_singleton.mpr keeps⟩

end Kept

/-- The bytes that are made of a record when it is decrypted, once its number was taken. -/
theorem spent_decrypted {replay : ReplayWindow} {record : DTLSRecord} {count : Nat} {plaintext : Bytes}
    (wellFormed : record.WellFormed) (isLater : record.sequence.epoch ≠ 0)
    (refused : replay.check (UInt64.ofNat record.sequence.sequenceNumber) = false)
    (short : plaintext.length < 2 ^ 16) (few : count < DTLSRecord.headerLen) :
    Spent replay (Record.decrypted record.serialize (DTLSRecord.headerLen + count) plaintext) := by
  have front : record.serialize.take 11 = record.headerFront := by
    rw [← List.append_nil record.serialize, record.serialize_take]
  have isEnd : Records.recordEnd (Record.decrypted record.serialize (DTLSRecord.headerLen + count) plaintext) =
      DTLSRecord.headerLen + plaintext.length := by
    unfold Records.recordEnd Record.decrypted
    rw [front, List.drop_left' record.headerFront_length, List.take_left' (beBytes_length _ _),
      beNat_beBytes_of_lt (by omega)]
  refine ⟨fun {other rest} parsed => ?_, ?_⟩
  · rcases DTLSRecord.parse_eq_ok.mp parsed with ⟨otherWellFormed, split⟩
    have sameFront : record.headerFront = other.headerFront := by
      have taken := congrArg (List.take 11) split
      rw [other.serialize_take, isEnd, List.take_take, Nat.min_eq_left (by unfold DTLSRecord.headerLen; omega)] at taken
      unfold Record.decrypted at taken
      rw [front, List.take_left' record.headerFront_length] at taken
      exact taken
    rw [← DTLSRecord.sequence_of_headerFront wellFormed.sequence otherWellFormed.sequence sameFront]
    exact ⟨isLater, refused⟩
  · rw [isEnd]
    unfold Record.decrypted
    rw [front, List.length_append, List.length_append, List.length_append, record.headerFront_length, beBytes_length,
      List.length_drop, List.length_take]
    unfold DTLSRecord.headerLen at few ⊢
    omega

/-! ## The account -/

/-- What decides about a record that comes in. -/
structure Gate where
  keying : Keying
  enabled : Bool
  released : Bool

def gate (self : Engine) : Gate := ⟨self.keying, self.peerEncryptionEnabled, self.releaseAppData⟩

/-- Data in the queue that were not given out. -/
def dataOf (record : Record) : Option DTLSRecord := if isPendingData record then some record.parsed.record else none

/-- Data, and whether they were decrypted. -/
structure Item where
  record : DTLSRecord
  opened : Bool

/-- The numbers of the records that were decrypted. -/
def numbers (items : List Item) : List UInt64 :=
  (items.filter Item.opened).map fun item => UInt64.ofNat item.record.sequence.sequenceNumber

def Keying.readIv (self : Keying) : Option Iv :=
  if self.isClient then self.cryptoContext.serverWriteIv else self.cryptoContext.clientWriteIv

/-- The nonce of a record of the peer, from its number or from the bytes that it sends along. -/
def NonceOf (keying : Keying) (record : DTLSRecord) (nonce : Nonce) : Prop :=
  exists iv, keying.readIv = some iv ∧
    ((keying.explicitNonceLen = 0 ∧ Nonce.xor iv record.sequence.seq64 = .ok nonce) ∨
      (keying.explicitNonceLen ≠ 0 ∧ keying.explicitNonceLen ≤ record.fragment.length ∧
        Nonce.new iv (record.fragment.take keying.explicitNonceLen) = .ok nonce))

/-- What is authenticated along with a record of the peer: its header with the length of the text. -/
def aadOf (keying : Keying) (record : DTLSRecord) : Aad :=
  Aad.newDtls12 record.contentType record.sequence
    (UInt16.ofNat (record.length.toNat - keying.aeadOverhead % 2 ^ 16))

/-- The data are the text that a record in some datagram was decrypted to, with the header of this record. -/
structure OpenedFrom (received : List Bytes) (keying : Keying) (record original : DTLSRecord) (nonce : Nonce) :
    Prop where
  came : Came received original
  contentType : record.contentType = original.contentType
  sequence : record.sequence = original.sequence
  nonceOf : NonceOf keying original nonce
  decrypted : keying.cryptoContext.decrypt keying.isClient (original.fragment.drop keying.explicitNonceLen)
    (aadOf keying original) nonce = .ok record.fragment

def Opened (received : List Bytes) (keying : Keying) (record : DTLSRecord) : Prop :=
  exists original nonce, OpenedFrom received keying record original nonce

/-- Some data can be accounted for: they were decrypted, with numbers that the window took once, or
they came in some datagram as they are. -/
structure Accounted (received : List Bytes) (replay : ReplayWindow) (gate : Gate) (items : List Item) : Prop where
  typed : forall item, item ∈ items -> item.record.contentType = .applicationData
  distinct : (numbers items).Nodup
  taken : exists taken, replay.Took taken ∧ forall number, number ∈ numbers items -> number ∈ taken
  opened : forall item, item ∈ items -> item.opened = true -> Opened received gate.keying item.record
  plain : forall item, item ∈ items -> item.opened = false -> item.record.sequence.epoch ≠ 0 ∧
    (gate.enabled = true -> item.record.sequence.epoch ≠ 1) ∧ Came received item.record
  early : gate.enabled = false -> forall item, item ∈ items -> item.opened = false

section Accounted

variable {received : List Bytes} {replay : ReplayWindow} {gate : Gate} {items fewer : List Item}

theorem Accounted.sublist (accounted : Accounted received replay gate items) (isSublist : fewer.Sublist items) :
    Accounted received replay gate fewer := by
  have subset := isSublist.subset
  have numbers : (numbers fewer).Sublist (numbers items) := (isSublist.filter _).map _
  rcases accounted.taken with ⟨taken, took, isTaken⟩
  exact ⟨fun item isItem => accounted.typed item (subset isItem), accounted.distinct.sublist numbers,
    ⟨taken, took, fun number isNumber => isTaken number (numbers.subset isNumber)⟩,
    fun item isItem => accounted.opened item (subset isItem), fun item isItem => accounted.plain item (subset isItem),
    fun unset item isItem => accounted.early unset item (subset isItem)⟩

theorem Accounted.perm (accounted : Accounted received replay gate items) (isPerm : items.Perm fewer) :
    Accounted received replay gate fewer := by
  have numbers : (numbers items).Perm (numbers fewer) := (isPerm.filter _).map _
  rcases accounted.taken with ⟨taken, took, isTaken⟩
  exact ⟨fun item isItem => accounted.typed item (isPerm.mem_iff.mpr isItem), numbers.nodup accounted.distinct,
    ⟨taken, took, fun number isNumber => isTaken number (numbers.mem_iff.mpr isNumber)⟩,
    fun item isItem => accounted.opened item (isPerm.mem_iff.mpr isItem),
    fun item isItem => accounted.plain item (isPerm.mem_iff.mpr isItem),
    fun unset item isItem => accounted.early unset item (isPerm.mem_iff.mpr isItem)⟩

theorem Accounted.receive (accounted : Accounted received replay gate items) (packet : Bytes) :
    Accounted (received ++ [packet]) replay gate items := by
  refine ⟨accounted.typed, accounted.distinct, accounted.taken, fun item isItem isOpened => ?_,
    fun item isItem unopened => ?_, accounted.early⟩
  · rcases accounted.opened item isItem isOpened with ⟨original, nonce, opened⟩
    exact ⟨original, nonce, { opened with came := opened.came.receive packet }⟩
  · rcases accounted.plain item isItem unopened with ⟨isLater, notFirst, came⟩
    exact ⟨isLater, notFirst, came.receive packet⟩

/-- Before the peer encrypts, the keys may change. -/
theorem Accounted.rekey {keying : Keying} (accounted : Accounted received replay gate items)
    (unset : gate.enabled = false) : Accounted received replay { gate with keying } items := by
  refine ⟨accounted.typed, accounted.distinct, accounted.taken, fun item isItem isOpened => ?_, accounted.plain,
    accounted.early⟩
  cases (accounted.early unset item isItem).symm.trans isOpened

/-- Another record is taken. -/
theorem Accounted.update (accounted : Accounted received replay gate items) (number : UInt64) :
    Accounted received (replay.update number) gate items := by
  rcases accounted.taken with ⟨taken, took, isTaken⟩
  exact ⟨accounted.typed, accounted.distinct,
    ⟨number :: taken, took.update number, fun other isOther => List.mem_cons_of_mem _ (isTaken other isOther)⟩,
    accounted.opened, accounted.plain, accounted.early⟩

/-- Data that came as they are. -/
theorem Accounted.append_plain (accounted : Accounted received replay gate items) {record : DTLSRecord}
    (isData : record.contentType = .applicationData) (isLater : record.sequence.epoch ≠ 0)
    (unset : gate.enabled = false) (came : Came received record) :
    Accounted received replay gate (items ++ [⟨record, false⟩]) := by
  have same : numbers (items ++ [⟨record, false⟩]) = numbers items := by
    unfold numbers
    rw [List.filter_append, List.filter_singleton, cond_false, List.append_nil]
  refine ⟨List.forall_mem_append.mpr ⟨accounted.typed, ?_⟩, by rw [same]; exact accounted.distinct,
    by rw [same]; exact accounted.taken, List.forall_mem_append.mpr ⟨accounted.opened, ?_⟩,
    List.forall_mem_append.mpr ⟨accounted.plain, ?_⟩,
    fun unset => List.forall_mem_append.mpr ⟨accounted.early unset, ?_⟩⟩
  all_goals
    rw [List.forall_mem_singleton]
  · exact isData
  · exact fun contrary => by cases contrary
  · intro _
    refine ⟨isLater, fun contrary => ?_, came⟩
    cases unset.symm.trans contrary

/-- Data that were decrypted, with a number that passed the check. -/
theorem Accounted.append_opened (accounted : Accounted received replay gate items) {record : DTLSRecord}
    (isData : record.contentType = .applicationData) (enabled : gate.enabled = true)
    (passes : replay.check (UInt64.ofNat record.sequence.sequenceNumber) = true)
    (isOpened : Opened received gate.keying record) :
    Accounted received (replay.update (UInt64.ofNat record.sequence.sequenceNumber)) gate
      (items ++ [⟨record, true⟩]) := by
  have added : numbers (items ++ [⟨record, true⟩]) =
      numbers items ++ [UInt64.ofNat record.sequence.sequenceNumber] := by
    unfold numbers
    rw [List.filter_append, List.filter_singleton, cond_true, List.map_append, List.map_singleton]
  rcases accounted.taken with ⟨taken, took, isTaken⟩
  refine ⟨List.forall_mem_append.mpr ⟨accounted.typed, ?_⟩, ?_, ⟨_ :: taken, took.update _, ?_⟩,
    List.forall_mem_append.mpr ⟨accounted.opened, ?_⟩, List.forall_mem_append.mpr ⟨accounted.plain, ?_⟩,
    fun unset => by cases unset.symm.trans enabled⟩
  · exact List.forall_mem_singleton.mpr isData
  · rw [added, List.nodup_append]
    refine ⟨accounted.distinct, List.nodup_singleton _, ?_⟩
    rintro first isFirst second isSecond rfl
    rw [List.mem_singleton.mp isSecond] at isFirst
    exact took.not_mem passes (isTaken _ isFirst)
  · rw [added]
    intro number isNumber
    rcases List.mem_append.mp isNumber with isEarlier | isLast
    · exact List.mem_cons_of_mem _ (isTaken number isEarlier)
    · rw [List.mem_singleton.mp isLast]
      exact List.mem_cons_self
  · exact List.forall_mem_singleton.mpr fun _ => isOpened
  · exact List.forall_mem_singleton.mpr fun contrary => by cases contrary

end Accounted

/-! ## Decryption -/

theorem decryptData_ends (ciphertext : Bytes) (aad : Aad) (nonce : Nonce) (before : Engine) :
    (decryptData ciphertext aad nonce).Ends
      (fun plaintext after => after = before ∧
        before.cryptoContext.decrypt before.isClient ciphertext aad nonce = .ok plaintext)
      (fun _ after => after = before) before := by
  unfold decryptData
  rw [ends_bind, ends_get]
  split
  · rename_i plaintext decrypted
    exact ⟨rfl, decrypted⟩
  · exact rfl

theorem peerIv_eq_ok {engine : Engine} {iv : Iv} : engine.peerIv = .ok iv <-> engine.keying.readIv = some iv := by
  unfold peerIv Keying.readIv keying
  dsimp only
  split
  · rename_i found isIv
    rw [isIv, Except.ok.injEq, Option.some.injEq]
  · rename_i isNone
    rw [isNone]
    exact ⟨nofun, nofun⟩

theorem decryptionAadAndNonce_eq_ok {engine : Engine} {record : DTLSRecord} {aad : Aad} {nonce : Nonce}
    (made : decryptionAadAndNonce engine record = .ok (aad, nonce)) :
    aad = aadOf engine.keying record ∧ NonceOf engine.keying record nonce := by
  unfold decryptionAadAndNonce at made
  dsimp only at made
  cases isIv : engine.peerIv with
  | error fault =>
      rw [isIv] at made
      cases made
  | ok iv =>
      rw [isIv] at made
      dsimp only [bind, Except.bind] at made
      have readIv := peerIv_eq_ok.mp isIv
      split at made
      · rename_i implicit
        cases isNonce : Nonce.xor iv record.sequence.seq64 with
        | error fault =>
            rw [isNonce] at made
            cases made
        | ok other =>
            rw [isNonce] at made
            cases made
            exact ⟨rfl, iv, readIv, .inl ⟨implicit, isNonce⟩⟩
      · rename_i explicit
        split at made
        · cases made
        · rename_i long
          cases isNonce : Nonce.new iv (record.fragment.take engine.explicitNonceLen) with
          | error fault =>
              rw [isNonce] at made
              cases made
          | ok other =>
              rw [isNonce] at made
              cases made
              exact ⟨rfl, iv, readIv, .inr ⟨explicit, Nat.le_of_not_lt long, isNonce⟩⟩

/-- The explicit part of a nonce is shorter than a header. -/
theorem NonceOf.few {keying : Keying} {record : DTLSRecord} {nonce : Nonce} (nonceOf : NonceOf keying record nonce) :
    keying.explicitNonceLen < DTLSRecord.headerLen := by
  rcases nonceOf with ⟨iv, _, ⟨implicit, _⟩ | ⟨_, long, made⟩⟩
  · rw [implicit]
    decide
  · unfold Nonce.new at made
    split at made
    · rename_i sized
      rw [List.length_append, List.length_take, Nat.min_eq_left long] at sized
      unfold DTLSRecord.headerLen
      omega
    · cases made

/-- What a record that is decrypted becomes. -/
theorem decrypted_parsed {slice rest plaintext : Bytes} {record : DTLSRecord} {parsed : ParsedRecord}
    {cipherSuite : Option Dtls12CipherSuite} {skipped : Nat}
    (wasParsed : DTLSRecord.parse 0 slice = .ok (record, rest)) (long : DTLSRecord.headerLen + skipped ≤ slice.length)
    (isParsed : ParsedRecord.parse (Record.decrypted slice (DTLSRecord.headerLen + skipped) plaintext) cipherSuite
      skipped = .ok parsed) :
    parsed = ParsedRecord.ofRecord { record with
      length := UInt16.ofNat plaintext.length
      fragment := plaintext.take (plaintext.length % 2 ^ 16) } cipherSuite := by
  have sized : ((slice.take (DTLSRecord.headerLen + skipped)).drop DTLSRecord.headerLen).length = skipped := by
    rw [List.length_drop, List.length_take, Nat.min_eq_left long, Nat.add_sub_cancel_left]
  have reparsed := DTLSRecord.parse_decrypted wasParsed
    ((slice.take (DTLSRecord.headerLen + skipped)).drop DTLSRecord.headerLen) plaintext
  rw [sized] at reparsed
  unfold ParsedRecord.parse Record.decrypted at isParsed
  rw [reparsed] at isParsed
  exact (Except.ok.inj isParsed).symm

/-! ## Datagrams that come in -/

/-- While a datagram is parsed, the gate and the queue stay, some data are accounted for, and some bytes may be
parsed again. -/
structure Receiving (received : List Bytes) (gate : Gate) (queueRx : List Incoming) (items : List Item)
    (buffers : List Bytes) (engine : Engine) : Prop where
  sameGate : engine.gate = gate
  sameQueue : engine.queueRx = queueRx
  accounted : Accounted received engine.replay gate items
  kept : Kept received engine.replay buffers

/-- Some records are added, with their data and their bytes. -/
def Adding (received : List Bytes) (gate : Gate) (queueRx : List Incoming) (items : List Item) (buffers : List Bytes)
    (records : List Record) (engine : Engine) : Prop :=
  exists fresh : List Item, fresh.map Item.record = records.filterMap dataOf ∧
    Receiving received gate queueRx (items ++ fresh) (buffers ++ records.map Record.buffer) engine

section Receiving

variable {received : List Bytes} {gate : Gate} {queueRx : List Incoming} {items : List Item} {buffers : List Bytes}
  {records : List Record}

theorem Receiving.fewer {fewerItems : List Item} {fewerBuffers : List Bytes} {engine : Engine}
    (receiving : Receiving received gate queueRx items buffers engine) (isSublist : fewerItems.Sublist items)
    (isSubset : fewerBuffers ⊆ buffers) : Receiving received gate queueRx fewerItems fewerBuffers engine :=
  ⟨receiving.sameGate, receiving.sameQueue, receiving.accounted.sublist isSublist, receiving.kept.subset isSubset⟩

theorem Receiving.adding {engine : Engine} (receiving : Receiving received gate queueRx items buffers engine) :
    Adding received gate queueRx items buffers [] engine := by
  refine ⟨[], rfl, ?_⟩
  rw [List.append_nil, List.map_nil, List.append_nil]
  exact receiving

theorem Adding.sublist {fewer : List Record} {engine : Engine}
    (adding : Adding received gate queueRx items buffers records engine) (isSublist : fewer.Sublist records) :
    Adding received gate queueRx items buffers fewer engine := by
  rcases adding with ⟨fresh, isFresh, receiving⟩
  have fewerData : (fewer.filterMap dataOf).Sublist (fresh.map Item.record) := by
    rw [isFresh]
    exact isSublist.filterMap _
  rcases List.sublist_map_iff.mp fewerData with ⟨rest, isRest, same⟩
  refine ⟨rest, same.symm, receiving.fewer (List.Sublist.append_left isRest _) ?_⟩
  exact ((isSublist.map _).append_left _).subset

theorem Adding.dropped {engine : Engine} (adding : Adding received gate queueRx items buffers records engine) :
    Receiving received gate queueRx items buffers engine := by
  rcases adding with ⟨_, _, receiving⟩
  exact receiving.fewer (List.sublist_append_left _ _) (List.subset_append_left _ _)

/-- Records are added to those that were added before. -/
theorem Adding.append {more : List Record} {fresh : List Item} {engine : Engine}
    (isFresh : fresh.map Item.record = records.filterMap dataOf)
    (adding : Adding received gate queueRx (items ++ fresh) (buffers ++ records.map Record.buffer) more engine) :
    Adding received gate queueRx items buffers (records ++ more) engine := by
  rcases adding with ⟨newest, isNewest, receiving⟩
  refine ⟨fresh ++ newest, ?_, ?_⟩
  · rw [List.map_append, List.filterMap_append, isFresh, isNewest]
  · rw [List.append_assoc, List.append_assoc, ← List.map_append] at receiving
    exact receiving

theorem dataOf_ofRecord (buffer : Bytes) (record : DTLSRecord) (cipherSuite : Option Dtls12CipherSuite) :
    dataOf { buffer, parsed := ParsedRecord.ofRecord record cipherSuite } =
      if record.contentType = .applicationData then some record else none := by
  have isRecord : (ParsedRecord.ofRecord record cipherSuite).record = record := rfl
  have unhandled : (ParsedRecord.ofRecord record cipherSuite).handled = false := rfl
  have plain := (ParsedRecord.ofRecord record cipherSuite).plain
  rw [isRecord] at plain
  unfold dataOf isPendingData Record.isHandled ParsedRecord.isHandled
  dsimp only
  rw [isRecord, unhandled]
  by_cases isData : record.contentType = .applicationData
  · have nothing := plain (by rw [isData]; decide)
    rw [nothing]
    simp [isData]
  · simp [isData]

/-- A record is added with its bytes, and with its data if it has any. -/
theorem adding_ofRecord {engine : Engine} {buffer : Bytes} {record : DTLSRecord}
    {cipherSuite : Option Dtls12CipherSuite} (opened : Bool) (sameGate : engine.gate = gate)
    (sameQueue : engine.queueRx = queueRx)
    (none : record.contentType ≠ .applicationData -> Accounted received engine.replay gate items)
    (one : record.contentType = .applicationData ->
      Accounted received engine.replay gate (items ++ [⟨record, opened⟩]))
    (kept : Kept received engine.replay (buffers ++ [buffer])) :
    Adding received gate queueRx items buffers [{ buffer, parsed := ParsedRecord.ofRecord record cipherSuite }]
      engine := by
  by_cases isData : record.contentType = .applicationData
  · refine ⟨[⟨record, opened⟩], ?_, sameGate, sameQueue, one isData, kept⟩
    rw [List.filterMap_cons_some ((dataOf_ofRecord _ _ _).trans (if_pos isData))]
    rfl
  · refine ⟨[], ?_, sameGate, sameQueue, ?_, kept⟩
    · rw [List.filterMap_cons_none ((dataOf_ofRecord _ _ _).trans (if_neg isData))]
      rfl
    · rw [List.append_nil]
      exact none isData

/-- What a decryption leaves, once the number was taken. -/
theorem Receiving.decrypted {record : DTLSRecord} {before : Engine} {nonce : Nonce} {plaintext : Bytes}
    {cipherSuite : Option Dtls12CipherSuite} (came : Came received record) (isLater : record.sequence.epoch ≠ 0)
    (enabled : gate.enabled = true)
    (passes : before.replay.check (UInt64.ofNat record.sequence.sequenceNumber) = true)
    (receiving : Receiving received gate queueRx items buffers before)
    (nonceOf : NonceOf before.keying record nonce)
    (decrypted : before.cryptoContext.decrypt before.isClient (record.fragment.drop before.explicitNonceLen)
      (aadOf before.keying record) nonce = .ok plaintext) :
    Adding received gate queueRx items buffers
      [{ buffer := Record.decrypted record.serialize (DTLSRecord.headerLen + before.explicitNonceLen) plaintext
         parsed := ParsedRecord.ofRecord { record with
            length := UInt16.ofNat plaintext.length
            fragment := plaintext.take (plaintext.length % 2 ^ 16) } cipherSuite }]
      (recordHandler.replayUpdate record.sequence before) := by
  have sameKeying : before.keying = gate.keying := congrArg Gate.keying receiving.sameGate
  have short : plaintext.length < 2 ^ 16 := by
    have noLonger := CryptoContext.decrypt_length decrypted
    have small := record.length.toNat_lt
    rw [List.length_drop, ← came.wellFormed.length] at noLonger
    omega
  have isOpened : Opened received gate.keying { record with
      length := UInt16.ofNat plaintext.length
      fragment := plaintext.take (plaintext.length % 2 ^ 16) } := by
    rw [← sameKeying]
    refine ⟨record, nonce, came, rfl, rfl, nonceOf, ?_⟩
    dsimp only
    rw [Nat.mod_eq_of_lt short, List.take_length]
    exact decrypted
  rcases receiving.accounted.taken with ⟨taken, took, _⟩
  have refused := (took.update (UInt64.ofNat record.sequence.sequenceNumber)).refuses List.mem_cons_self
  refine adding_ofRecord true receiving.sameGate receiving.sameQueue ?_ ?_ ?_
  · exact fun _ => receiving.accounted.update _
  · exact fun isData => receiving.accounted.append_opened isData enabled passes isOpened
  · exact (receiving.kept.update took _).append
      (.inr (spent_decrypted came.wellFormed isLater refused short nonceOf.few))

theorem decrypt_ends {record : DTLSRecord} (cipherSuite : Option Dtls12CipherSuite) (came : Came received record)
    (isLater : record.sequence.epoch ≠ 0) (enabled : gate.enabled = true) {before : Engine}
    (passes : before.replay.check (UInt64.ofNat record.sequence.sequenceNumber) = true)
    (receiving : Receiving received gate queueRx items buffers before) :
    (Record.decrypt recordHandler record.serialize record cipherSuite).Ends
      (fun found after => Adding received gate queueRx items buffers found.toList after)
      (fun _ => Receiving received gate queueRx items buffers) before := by
  have wasParsed : DTLSRecord.parse 0 record.serialize = .ok (record, []) :=
    DTLSRecord.parse_eq_ok.mpr ⟨came.wellFormed, (List.append_nil _).symm⟩
  unfold Record.decrypt
  rw [ends_bind, ends_get, ends_bind]
  cases made : recordHandler.decryptionAadAndNonce before record with
  | error fault => exact receiving
  | ok input =>
      rcases input with ⟨aad, nonce⟩
      rcases decryptionAadAndNonce_eq_ok made with ⟨rfl, nonceOf⟩
      rw [ends_ofExcept_ok]
      dsimp only
      rw [ends_ite]
      refine ⟨fun _ => receiving, fun long => ?_⟩
      rw [ends_bind, DTLSRecord.serialize_drop]
      refine (decryptData_ends _ _ nonce before).mono ?_ ?_
      · rintro plaintext after ⟨same, decrypted⟩
        rw [same, ends_bind, ends_modify, ends_bind]
        have added := @Receiving.decrypted received gate queueRx items buffers record before nonce plaintext cipherSuite
          came isLater enabled passes receiving nonceOf decrypted
        cases isParsed : ParsedRecord.parse (Record.decrypted record.serialize
            (DTLSRecord.headerLen + recordHandler.explicitNonceLen before) plaintext) cipherSuite
            (recordHandler.explicitNonceLen before) with
        | error fault => exact added.dropped
        | ok parsed =>
            rw [ends_ofExcept_ok, ends_pure, decrypted_parsed wasParsed (Nat.le_of_not_lt long) isParsed]
            exact added
      · rintro _ _ rfl
        exact receiving

theorem recordParse_ends {slice : Bytes} (cipherSuite : Option Dtls12CipherSuite) (delimited : Delimited slice)
    (arrived : Arrived received slice) {before : Engine}
    (receiving : Receiving received gate queueRx items buffers before) :
    (Record.parse recordHandler slice cipherSuite).Ends
      (fun found after => Adding received gate queueRx items buffers found.toList after)
      (fun _ => Receiving received gate queueRx items buffers) before := by
  unfold Record.parse ParsedRecord.parse
  cases wasParsed : DTLSRecord.parse 0 slice with
  | error reason => exact receiving.adding
  | ok result =>
      rcases result with ⟨record, rest⟩
      rcases serialize_of_parse delimited wasParsed with ⟨wellFormed, rfl⟩
      have came : Came received record := ⟨wellFormed, arrived⟩
      dsimp only
      rw [ends_bind, ends_get, ends_ite]
      have isEnabled : recordHandler.isPeerEncryptionEnabled before = gate.enabled :=
        congrArg Gate.enabled receiving.sameGate
      refine ⟨fun asItIs => ?_, fun later => ?_⟩
      · rw [ends_pure, Option.toList_some]
        refine adding_ofRecord false receiving.sameGate receiving.sameQueue (fun _ => receiving.accounted) ?_
          (receiving.kept.append (.inl arrived))
        intro isData
        have isLater : record.sequence.epoch ≠ 0 := by
          intro contrary
          have plaintext := wellFormed.plaintext contrary
          rw [isData] at plaintext
          cases plaintext
        have unset : gate.enabled = false := isEnabled.symm.trans (asItIs.resolve_left isLater)
        exact receiving.accounted.append_plain isData isLater unset came
      · rw [ends_ite]
        refine ⟨fun _ => receiving.adding, fun passes => ?_⟩
        rw [not_or] at later
        refine decrypt_ends cipherSuite came later.1 ?_ (Bool.of_not_eq_false passes) receiving
        exact isEnabled.symm.trans (Bool.of_not_eq_false later.2)

theorem split_ends (cipherSuite : Option Dtls12CipherSuite) (fuel : Nat) (acc : ArrayVec Record 8) (packet : Bytes)
    (arrived : Arrived received packet) {before : Engine}
    (adding : Adding received gate queueRx items buffers acc.items before) :
    (Records.split recordHandler cipherSuite fuel acc packet).Ends
      (fun parsed after => Adding received gate queueRx items buffers parsed.items after)
      (fun _ => Receiving received gate queueRx items buffers) before := by
  induction fuel generalizing acc packet before with
  | zero => exact adding
  | succ fuel ih =>
      unfold Records.split
      rw [ends_ite]
      refine ⟨fun _ => adding, fun _ => ?_⟩
      rw [ends_ite]
      refine ⟨fun _ => adding.dropped, fun _ => ?_⟩
      rw [ends_ite]
      refine ⟨fun _ => adding.dropped, fun inside => ?_⟩
      rw [ends_bind]
      have delimited := delimited_take (Nat.le_of_not_lt inside)
      rw [← List.take_append_drop (Records.recordEnd packet) packet] at arrived
      rcases adding with ⟨fresh, isFresh, receiving⟩
      refine (recordParse_ends cipherSuite delimited arrived.front receiving).mono ?_ ?_
      · intro found after more
        have added := more.append isFresh
        cases found with
        | none =>
            rw [Option.toList_none, List.append_nil] at added
            exact ih _ _ (arrived.behind delimited) added
        | some record =>
            dsimp only
            cases pushed : acc.tryPush record with
            | none => exact added.dropped
            | some acc' =>
                refine ih _ _ (arrived.behind delimited) ?_
                rw [ArrayVec.tryPush_eq_some.mp pushed]
                exact added
      · exact fun _ _ kept => kept.fewer (List.sublist_append_left _ _) (List.subset_append_left _ _)

/-- The number of a record that was decrypted before is refused. -/
theorem recordParse_spent (cipherSuite : Option Dtls12CipherSuite) {packet : Bytes} {before : Engine}
    (enabled : before.peerEncryptionEnabled = true) (spent : Spent before.replay packet) :
    (Record.parse recordHandler (packet.take (Records.recordEnd packet)) cipherSuite).Ends
      (fun found after => found = none ∧ after = before) (fun _ after => after = before) before := by
  unfold Record.parse ParsedRecord.parse
  cases wasParsed : DTLSRecord.parse 0 (packet.take (Records.recordEnd packet)) with
  | error reason => exact ⟨rfl, rfl⟩
  | ok result =>
      rcases result with ⟨record, rest⟩
      rcases spent.refused wasParsed with ⟨isLater, refused⟩
      dsimp only
      rw [ends_bind, ends_get, ends_ite]
      refine ⟨fun asItIs => ?_, fun _ => ?_⟩
      · cases enabled.symm.trans (asItIs.resolve_left isLater)
      · rw [ends_ite]
        exact ⟨fun _ => ⟨rfl, rfl⟩, fun contrary => absurd refused contrary⟩

theorem split_spent (cipherSuite : Option Dtls12CipherSuite) (fuel : Nat) (acc : ArrayVec Record 8) {packet : Bytes}
    {before : Engine} (enabled : before.peerEncryptionEnabled = true) (spent : Spent before.replay packet) :
    (Records.split recordHandler cipherSuite fuel acc packet).Ends
      (fun parsed after => parsed = acc ∧ after = before) (fun _ after => after = before) before := by
  cases fuel with
  | zero => exact ⟨rfl, rfl⟩
  | succ fuel =>
      unfold Records.split
      rw [ends_ite]
      refine ⟨fun _ => ⟨rfl, rfl⟩, fun _ => ?_⟩
      rw [ends_ite]
      refine ⟨fun _ => rfl, fun _ => ?_⟩
      rw [ends_ite]
      refine ⟨fun _ => rfl, fun _ => ?_⟩
      rw [ends_bind]
      refine (recordParse_spent cipherSuite enabled spent).mono ?_ fun _ _ same => same
      rintro _ after ⟨rfl, rfl⟩
      dsimp only
      have short : (packet.drop (Records.recordEnd packet)).length < DTLSRecord.headerLen := by
        have bounded := spent.short
        rw [List.length_drop]
        unfold DTLSRecord.headerLen at bounded ⊢
        omega
      cases fuel with
      | zero => exact ⟨rfl, rfl⟩
      | succ fuel =>
          unfold Records.split
          rw [ends_ite]
          refine ⟨fun _ => ⟨rfl, rfl⟩, fun _ => ?_⟩
          rw [if_pos short]
          exact rfl

theorem classifyRecord_ends (record : Record) {before : Engine}
    (receiving : Receiving received gate queueRx items buffers before) :
    (classifyRecord record).Ends
      (fun found after => (found = none ∨ found = some record) ∧ Receiving received gate queueRx items buffers after)
      (fun _ => Receiving received gate queueRx items buffers) before := by
  have kept : Keeps (Receiving received gate queueRx items buffers) (classifyRecord record) := by
    refine keeps_get.bind fun self => Keeps.ite (Keeps.ite ?_ ((keeps_pure _).ite ?_)) ((keeps_pure _).ite (keeps_pure _))
    · exact (keeps_classifyPlaintextAlert _).bind fun _ => keeps_pure _
    · refine Keeps.bind ?_ fun _ => keeps_pure _
      unfold classifyAlert
      split
      · refine Keeps.ite (keeps_modify fun _ held => ?_) ((keeps_fail _).ite (keeps_pure _))
        exact ⟨held.sameGate, held.sameQueue, held.accounted, held.kept⟩
      · exact keeps_pure _
  have returns : Returns (fun found => found = none ∨ found = some record) (classifyRecord record) := by
    refine Returns.bind fun self => Returns.ite (Returns.ite ?_ (Returns.ite ?_ ?_)) (Returns.ite ?_ ?_)
    · exact Returns.bind fun _ => returns_pure (.inl rfl)
    · exact returns_pure (.inr rfl)
    · exact Returns.bind fun _ => returns_pure (.inl rfl)
    · exact returns_pure (.inl rfl)
    · exact returns_pure (.inr rfl)
  refine ((returns before).and (kept before receiving)).mono (fun _ _ both => both) fun _ _ both => both.2

theorem classify_ends (records : List Record) (acc : ArrayVec Record 8) {before : Engine}
    (receiving : Receiving received gate queueRx items buffers before) :
    (Records.classify recordHandler records acc).Ends
      (fun result after => result.items.Sublist (acc.items ++ records) ∧
        Receiving received gate queueRx items buffers after)
      (fun _ => Receiving received gate queueRx items buffers) before := by
  induction records generalizing acc before with
  | nil =>
      refine ⟨?_, receiving⟩
      rw [List.append_nil]
  | cons record rest ih =>
      unfold Records.classify
      rw [ends_bind]
      refine (classifyRecord_ends record receiving).mono ?_ fun _ _ kept => kept
      rintro found after ⟨isFound, kept⟩
      rcases isFound with rfl | rfl
      · refine (ih acc kept).mono ?_ fun _ _ kept => kept
        rintro result after ⟨isSublist, kept⟩
        exact ⟨isSublist.trans (List.Sublist.append_left (List.sublist_cons_self _ _) _), kept⟩
      · dsimp only
        cases pushed : acc.tryPush record with
        | none => exact kept
        | some acc' =>
            refine (ih acc' kept).mono ?_ fun _ _ kept => kept
            rintro result after ⟨isSublist, kept⟩
            rw [ArrayVec.tryPush_eq_some.mp pushed, List.append_assoc] at isSublist
            exact ⟨isSublist, kept⟩

/-- Bytes that may be parsed: they came in a datagram, or they are those of a record that was decrypted. -/
def Parsable (received : List Bytes) (gate : Gate) (replay : ReplayWindow) (packet : Bytes) : Prop :=
  Arrived received packet ∨ (gate.enabled = true ∧ Spent replay packet)

/-- What a datagram adds. -/
theorem incoming_ends (cipherSuite : Option Dtls12CipherSuite) {packet : Bytes} {before : Engine}
    (parsable : Parsable received gate before.replay packet)
    (receiving : Receiving received gate queueRx items buffers before) :
    (Incoming.parsePacket recordHandler packet cipherSuite).Ends
      (fun found after => Adding received gate queueRx items buffers
        (found.elim [] fun incoming => incoming.records.items) after)
      (fun _ => Receiving received gate queueRx items buffers) before := by
  have parsed : (Records.split recordHandler cipherSuite packet.length .empty packet).Ends
      (fun parsed after => Adding received gate queueRx items buffers parsed.items after)
      (fun _ => Receiving received gate queueRx items buffers) before := by
    rcases parsable with arrived | ⟨enabled, spent⟩
    · exact split_ends cipherSuite _ _ _ arrived receiving.adding
    · have isEnabled : before.peerEncryptionEnabled = true :=
        (congrArg Gate.enabled receiving.sameGate).trans enabled
      refine (split_spent cipherSuite _ .empty isEnabled spent).mono ?_ ?_
      · rintro _ _ ⟨rfl, rfl⟩
        exact receiving.adding
      · rintro _ _ rfl
        exact receiving
  unfold Incoming.parsePacket Records.parse
  rw [ends_bind, ends_bind]
  refine parsed.mono ?_ fun _ _ kept => kept
  rintro parsed between ⟨fresh, isFresh, kept⟩
  refine (classify_ends parsed.items .empty kept).mono ?_ ?_
  · rintro result after ⟨isSublist, kept⟩
    have added : Adding received gate queueRx items buffers result.items after :=
      Adding.sublist ⟨fresh, isFresh, kept⟩ isSublist
    split
    · exact added
    · exact added.sublist (List.nil_sublist _)
  · exact fun _ _ kept => kept.fewer (List.sublist_append_left _ _) (List.subset_append_left _ _)

end Receiving

end Engine

end Dtls
end P2pSdk
