import P2pSdk.Dtls.Fragments
import P2pSdk.Dtls.Receiving

namespace P2pSdk
namespace Dtls

open Foundation Parser Effect

/-!
# A flight that arrives in any order

The network may deliver the datagrams of a flight in any order, and each of
them more than once.  The receive queue puts them back into their order: after
any arrivals it holds the datagrams that came, once each and in the order of
the flight, and nothing else of the engine has changed.
-/

/-! ## Reading the datagrams -/

/-- Fragments are read alike under every suite. -/
theorem parseHandshakes_suite (cipherSuite : Option Dtls12CipherSuite) (input : Bytes) :
    parseHandshakes input cipherSuite = parseHandshakes input none := by
  have same : forall (fuel : Nat) (acc : ArrayVec Handshake 8) (input : Bytes),
      parseHandshakesLoop cipherSuite fuel acc input = parseHandshakesLoop none fuel acc input := by
    intro fuel
    induction fuel with
    | zero => exact fun _ _ => rfl
    | succ fuel ih =>
        intro acc input
        have sameFragment : Handshake.parse cipherSuite true input = Handshake.parse none true input := rfl
        unfold parseHandshakesLoop
        rw [sameFragment]
        simp only [ih]
  exact same _ _ _

def fragmentsOf (record : DTLSRecord) : List Handshake := (parseHandshakes record.fragment none).items

/-- A record with fragments that travels without encryption. -/
structure DTLSRecord.Plain (record : DTLSRecord) : Prop where
  wellFormed : record.WellFormed
  contentType : record.contentType = .handshake
  epoch : record.sequence.epoch = 0

/-- A record as it stands in the receive queue. -/
def Record.ofPlain (cipherSuite : Option Dtls12CipherSuite) (record : DTLSRecord) : Record where
  buffer := record.serialize
  parsed := .ofRecord record cipherSuite

theorem Record.ofPlain_handshakes {record : DTLSRecord} (plain : record.Plain)
    (cipherSuite : Option Dtls12CipherSuite) :
    (Record.ofPlain cipherSuite record).parsed.handshakes.items = fragmentsOf record := by
  show (if record.contentType = .handshake then parseHandshakes record.fragment cipherSuite else .empty).items = _
  rw [if_pos plain.contentType, parseHandshakes_suite]
  rfl

/-- A datagram of a flight: plain records, the first of which starts with a fragment. -/
structure Parcel where
  records : List DTLSRecord
  first : Handshake
  few : records.length ≤ 8
  plain : forall record, record ∈ records -> record.Plain
  leads : (records.head?.bind fun record => (fragmentsOf record).head?) = some first

namespace Parcel

def bytes (self : Parcel) : Bytes := self.records.flatMap DTLSRecord.serialize

/-- The place of the datagram in its flight. -/
def key (self : Parcel) : Nat × Nat := (self.first.header.messageSeq.toNat, self.first.header.fragmentOffset)

theorem records_ne_nil (self : Parcel) : self.records ≠ [] := by
  intro contrary
  have leads := self.leads
  rw [contrary] at leads
  cases leads

/-- The datagram as it stands in the receive queue. -/
def incoming (cipherSuite : Option Dtls12CipherSuite) (self : Parcel) : Incoming where
  records := ⟨self.records.map (Record.ofPlain cipherSuite), by rw [List.length_map]; exact self.few⟩
  nonempty := fun contrary => self.records_ne_nil (List.map_eq_nil_iff.mp contrary)

theorem head_fragment (self : Parcel) (cipherSuite : Option Dtls12CipherSuite) :
    (self.incoming cipherSuite).first.parsed.handshakes.items.head? = some self.first := by
  have leads := self.leads
  rcases List.exists_cons_of_ne_nil self.records_ne_nil with ⟨record, rest, isRecords⟩
  have isFirst : (self.incoming cipherSuite).first = Record.ofPlain cipherSuite record := by
    unfold Incoming.first incoming
    simp only [isRecords, List.map_cons, List.head_cons]
  rw [isFirst, Record.ofPlain_handshakes (self.plain record (isRecords ▸ List.mem_cons_self))]
  rw [isRecords] at leads
  exact leads

theorem handshakeKey_incoming (self : Parcel) (cipherSuite : Option Dtls12CipherSuite) :
    Engine.handshakeKey (self.incoming cipherSuite) = self.key := by
  unfold Engine.handshakeKey
  rw [self.head_fragment]
  rfl

end Parcel

/-- The number of a duplicate is that of its message. -/
theorem Handshake.dupeTriggersResend_eq {fragment : Handshake} {dupeSeq : UInt16}
    (triggers : fragment.dupeTriggersResend = some dupeSeq) : dupeSeq = fragment.header.messageSeq := by
  unfold dupeTriggersResend at triggers
  split at triggers
  · cases triggers
  · split at triggers
    · exact (Option.some.inj triggers).symm
    · exact (Option.some.inj triggers).symm
    · exact (Option.some.inj triggers).symm
    · exact (Option.some.inj triggers).symm
    · cases triggers

namespace Engine

theorem recordParse_plain {record : DTLSRecord} (plain : record.Plain) (cipherSuite : Option Dtls12CipherSuite)
    (engine : Engine) :
    Record.parse recordHandler record.serialize cipherSuite engine =
      (.ok (some (Record.ofPlain cipherSuite record)), engine) := by
  have parsed : DTLSRecord.parse 0 record.serialize = .ok (record, []) :=
    DTLSRecord.parse_eq_ok.mpr ⟨plain.wellFormed, (List.append_nil _).symm⟩
  unfold Record.parse ParsedRecord.parse
  rw [parsed]
  show (if record.sequence.epoch = 0 ∨ recordHandler.isPeerEncryptionEnabled engine = false then _ else _ :
    Action (Option Record)) engine = _
  rw [if_pos (.inl plain.epoch)]
  rfl

theorem split_plain {records : List DTLSRecord} (plain : forall record, record ∈ records -> record.Plain)
    (cipherSuite : Option Dtls12CipherSuite) {fuel : Nat} {acc after : ArrayVec Record 8} (engine : Engine)
    (enough : (records.flatMap DTLSRecord.serialize).length ≤ fuel)
    (ends : after.items = acc.items ++ records.map (Record.ofPlain cipherSuite)) :
    Records.split recordHandler cipherSuite fuel acc (records.flatMap DTLSRecord.serialize) engine =
      (.ok after, engine) := by
  induction records generalizing fuel acc with
  | nil =>
      rw [List.map_nil, List.append_nil] at ends
      have same := ArrayVec.eq_of_items ends
      cases fuel with
      | zero => rw [same]; rfl
      | succ fuel => rw [same]; rfl
  | cons record rest ih =>
      have isPlain := plain record List.mem_cons_self
      have sized : record.serialize.length = DTLSRecord.headerLen + record.length.toNat := by
        rw [DTLSRecord.serialize_length, isPlain.wellFormed.length]
      have isEnd : Records.recordEnd (record.serialize ++ rest.flatMap DTLSRecord.serialize) =
          record.serialize.length := by
        rw [DTLSRecord.recordEnd_serialize, sized]
      rw [List.flatMap_cons, List.length_append] at enough
      rcases exists_tryPush ends with ⟨between, pushed, endsThere⟩
      have long : 0 < DTLSRecord.headerLen := by decide
      cases fuel with
      | zero => omega
      | succ fuel =>
          have notEmpty : (record.serialize ++ rest.flatMap DTLSRecord.serialize).isEmpty = false := by
            rw [List.isEmpty_eq_false_iff, ← List.length_pos_iff, List.length_append, sized]
            omega
          have here : Record.parse recordHandler record.serialize cipherSuite engine = _ :=
            recordParse_plain isPlain cipherSuite engine
          have left : (rest.flatMap DTLSRecord.serialize).length ≤ fuel := by omega
          rw [List.flatMap_cons]
          unfold Records.split
          rw [notEmpty, if_neg Bool.false_ne_true, isEnd, List.take_left, List.drop_left, List.length_append,
            if_neg (by omega), if_neg (by omega)]
          rw [bind_of_ok here]
          dsimp only
          rw [pushed]
          exact ih (fun other isOther => plain other (List.mem_cons_of_mem _ isOther)) left endsThere

theorem classify_handshakes {records : List Record}
    (handshakes : forall record, record ∈ records -> record.parsed.record.contentType = .handshake)
    {acc after : ArrayVec Record 8} (engine : Engine) (ends : after.items = acc.items ++ records) :
    Records.classify recordHandler records acc engine = (.ok after, engine) := by
  induction records generalizing acc with
  | nil =>
      rw [List.append_nil] at ends
      rw [ArrayVec.eq_of_items ends]
      rfl
  | cons record rest ih =>
      rcases exists_tryPush ends with ⟨between, pushed, endsThere⟩
      have isHandshake := handshakes record List.mem_cons_self
      have kept : classifyRecord record engine = (.ok (some record), engine) := by
        show (if record.parsed.record.contentType = .alert then _
          else if _ ∧ record.parsed.record.contentType = .applicationData then _
          else _ : Action (Option Record)) engine = _
        rw [if_neg (by rw [isHandshake]; decide), if_neg (by rw [isHandshake]; simp)]
        rfl
      unfold Records.classify
      rw [bind_of_ok (show recordHandler.classifyRecord record engine = _ from kept)]
      dsimp only
      rw [pushed]
      exact ih (fun other isOther => handshakes other (List.mem_cons_of_mem _ isOther)) endsThere

/-- A datagram of a flight is read as it is and goes to the receive queue. -/
theorem parsePacket_parcel (search : BinarySearch Incoming) (parcel : Parcel) (engine : Engine) :
    parsePacket search parcel.bytes engine =
      insertIncoming search (parcel.incoming engine.cipherSuite) engine := by
  let items := (parcel.incoming engine.cipherSuite).records
  have isSplit : Records.split recordHandler engine.cipherSuite parcel.bytes.length .empty parcel.bytes engine =
      (.ok items, engine) := split_plain parcel.plain engine.cipherSuite engine (Nat.le_refl _) rfl
  have areHandshakes : forall record, record ∈ items.items -> record.parsed.record.contentType = .handshake := by
    intro record isRecord
    rcases List.mem_map.mp isRecord with ⟨plain, isPlain, rfl⟩
    exact (parcel.plain plain isPlain).contentType
  have isClassified : Records.classify recordHandler items.items .empty engine = (.ok items, engine) :=
    classify_handshakes areHandshakes engine rfl
  have isParsed : Records.parse recordHandler parcel.bytes engine.cipherSuite engine = (.ok items, engine) := by
    unfold Records.parse
    rw [bind_of_ok isSplit]
    exact isClassified
  have isIncoming : Incoming.parsePacket recordHandler parcel.bytes engine.cipherSuite engine =
      (.ok (some (parcel.incoming engine.cipherSuite)), engine) := by
    unfold Incoming.parsePacket
    rw [bind_of_ok isParsed, dif_pos (parcel.incoming engine.cipherSuite).nonempty]
    rfl
  show (Incoming.parsePacket recordHandler parcel.bytes engine.cipherSuite >>= _) engine = _
  rw [bind_of_ok isIncoming]

/-! ## The queue -/

theorem compareKeys_swap (first second : Nat × Nat) :
    (compareKeys first second).swap = compareKeys second first := by
  unfold compareKeys
  rw [Ordering.swap_then, Nat.compare_swap, Nat.compare_swap]

theorem compareKeys_self (key : Nat × Nat) : compareKeys key key = .eq := by
  unfold compareKeys
  rw [Nat.compare_eq_eq.mpr rfl, Nat.compare_eq_eq.mpr rfl]
  rfl

/-- The datagrams of a flight in their order. -/
def InOrder (flight : List Parcel) : Prop :=
  flight.Pairwise fun earlier later => compareKeys earlier.key later.key = .lt

/-- The datagrams around one of a flight. -/
theorem InOrder.split {flight : List Parcel} (inOrder : InOrder flight) {parcel : Parcel}
    (isParcel : parcel ∈ flight) : exists below above, flight = below ++ parcel :: above ∧
      (forall other, other ∈ below -> compareKeys other.key parcel.key = .lt) ∧
      forall other, other ∈ above -> compareKeys other.key parcel.key = .gt := by
  rcases List.append_of_mem isParcel with ⟨below, above, rfl⟩
  rcases List.pairwise_append.mp inOrder with ⟨_, others, apart⟩
  refine ⟨below, above, rfl, ?_, fun other isOther => ?_⟩
  · exact fun other isOther => apart other isOther parcel List.mem_cons_self
  · have later := List.rel_of_pairwise_cons others isOther
    rw [← compareKeys_swap, later]
    rfl

/-- No other datagram has the place of this one. -/
theorem filter_apart {others : List Parcel} {parcel : Parcel} {result : Ordering} (arrived : Parcel -> Bool)
    (notEqual : result ≠ .eq)
    (compared : forall other, other ∈ others -> compareKeys other.key parcel.key = result) :
    others.filter (fun other => arrived other || decide (other.key = parcel.key)) = others.filter arrived := by
  refine List.filter_congr fun other isOther => ?_
  have different : other.key ≠ parcel.key := by
    intro same
    have contrary := compared other isOther
    rw [same, compareKeys_self] at contrary
    exact notEqual contrary.symm
  rw [decide_eq_false different, Bool.or_false]

section Queue

variable {search : BinarySearch Incoming} {flight : List Parcel} {parcel : Parcel}
  {cipherSuite : Option Dtls12CipherSuite}

/-- The queue with one more datagram, or as it was when the datagram came before. -/
theorem enqueue_parcel (inOrder : InOrder flight) (isParcel : parcel ∈ flight) (arrived : Parcel -> Bool)
    {engine : Engine} (queue : engine.queueRx = (flight.filter arrived).map (Parcel.incoming cipherSuite)) :
    (enqueue search (parcel.incoming cipherSuite)
        (fun item => compareKeys (handshakeKey item) (handshakeKey (parcel.incoming cipherSuite))) engine) =
      (.ok !arrived parcel,
        { engine with
          queueRx := (flight.filter fun other => arrived other || decide (other.key = parcel.key)).map
            (Parcel.incoming cipherSuite) }) := by
  rcases inOrder.split isParcel with ⟨below, above, rfl, isBelow, isAbove⟩
  let placed (others : List Parcel) : List Incoming := (others.filter arrived).map (Parcel.incoming cipherSuite)
  generalize defined : (fun item => compareKeys (handshakeKey item) (handshakeKey (parcel.incoming cipherSuite))) = order
  have isOrder : forall other : Parcel, order (other.incoming cipherSuite) = compareKeys other.key parcel.key :=
    fun other => by
      rw [← defined, ← other.handshakeKey_incoming cipherSuite, ← parcel.handshakeKey_incoming cipherSuite]
  have smaller : forall item, item ∈ placed below -> order item = .lt := by
    intro item isItem
    rcases List.mem_map.mp isItem with ⟨other, isOther, rfl⟩
    rw [isOrder, isBelow other (List.mem_filter.mp isOther).1]
  have larger : forall item, item ∈ placed above -> order item = .gt := by
    intro item isItem
    rcases List.mem_map.mp isItem with ⟨other, isOther, rfl⟩
    rw [isOrder, isAbove other (List.mem_filter.mp isOther).1]
  have withIt : ((below ++ parcel :: above).filter
      (fun other => arrived other || decide (other.key = parcel.key))).map (Parcel.incoming cipherSuite) =
        placed below ++ parcel.incoming cipherSuite :: placed above := by
    rw [List.filter_append, List.filter_cons_of_pos (by simp), filter_apart arrived (by decide) isBelow,
      filter_apart arrived (by decide) isAbove, List.map_append, List.map_cons]
  rw [withIt]
  rw [List.filter_append, List.filter_cons, List.map_append] at queue
  unfold enqueue
  rw [get_bind]
  cases came : arrived parcel with
  | true =>
      rw [came, if_pos rfl, List.map_cons] at queue
      have found : search.search engine.queueRx order = .ok (placed below).length := by
        rw [queue]
        refine search.present _ _ _ _ smaller ?_ larger
        rw [isOrder, compareKeys_self]
      rw [found, ← queue]
      rfl
  | false =>
      rw [came, if_neg Bool.false_ne_true] at queue
      have found : search.search engine.queueRx order = .error (placed below).length := by
        rw [queue]
        exact search.absent _ _ _ smaller larger
      have inserted : insertAt engine.queueRx (placed below).length (parcel.incoming cipherSuite) =
          placed below ++ parcel.incoming cipherSuite :: placed above := by
        unfold insertAt
        rw [queue, List.take_left, List.drop_left]
      rw [found]
      dsimp only
      rw [← inserted]
      rfl

/-- The engine that took some datagrams of a flight. -/
def holding (receiver : Engine) (flight : List Parcel) (arrived : Parcel -> Bool) : Engine :=
  { receiver with queueRx := (flight.filter arrived).map (Parcel.incoming receiver.cipherSuite) }

/-- The engine has nothing in its queue, which has room for the flight, and waits for the messages in it. -/
structure Waits (receiver : Engine) (flight : List Parcel) : Prop where
  empty : receiver.queueRx = []
  unreleased : receiver.releaseAppData = false
  room : flight.length ≤ receiver.config.maxQueueRx
  fresh : forall parcel, parcel ∈ flight -> forall record, record ∈ parcel.records ->
    forall fragment, (fragmentsOf record).head? = some fragment ->
      receiver.peerHandshakeSeqNo ≤ fragment.header.messageSeq

variable {receiver : Engine}

theorem Waits.first_fresh (waits : receiver.Waits flight) (isParcel : parcel ∈ flight) :
    receiver.peerHandshakeSeqNo ≤ parcel.first.header.messageSeq := by
  have leads := parcel.leads
  rcases List.exists_cons_of_ne_nil parcel.records_ne_nil with ⟨record, rest, isRecords⟩
  rw [isRecords] at leads
  exact waits.fresh parcel isParcel record (isRecords ▸ List.mem_cons_self) _ leads

/-- Messages that were not answered yet do not make the engine send its flight again. -/
theorem resendOnDuplicate_parcel (waits : receiver.Waits flight) (isParcel : parcel ∈ flight)
    {engine : Engine} (same : engine.peerHandshakeSeqNo = receiver.peerHandshakeSeqNo) :
    resendOnDuplicate (parcel.incoming cipherSuite) engine = (.ok (), engine) := by
  let firsts := (parcel.incoming cipherSuite).records.items.filterMap fun record =>
    record.parsed.handshakes.items.head?
  have notOlder : forall dupeSeq, (firsts.filterMap Handshake.dupeTriggersResend).head? = some dupeSeq ->
      ¬ dupeSeq < engine.peerHandshakeSeqNo := by
    intro dupeSeq isDupe
    rcases List.mem_filterMap.mp (List.mem_of_mem_head? isDupe) with ⟨fragment, isFirst, triggers⟩
    rcases List.mem_filterMap.mp isFirst with ⟨queued, isQueued, isHead⟩
    rcases List.mem_map.mp isQueued with ⟨record, isRecord, rfl⟩
    rw [Record.ofPlain_handshakes (parcel.plain record isRecord)] at isHead
    rw [Handshake.dupeTriggersResend_eq triggers, same]
    exact UInt16.not_lt.mpr (waits.fresh parcel isParcel record isRecord fragment isHead)
  unfold resendOnDuplicate
  rw [get_bind]
  cases isDupe : (firsts.filterMap Handshake.dupeTriggersResend).head? with
  | none => rfl
  | some dupeSeq =>
      dsimp only
      rw [if_neg (notOlder dupeSeq isDupe)]
      rfl

/-- One more datagram of the flight. -/
theorem insertIncoming_parcel (inOrder : InOrder flight) (waits : receiver.Waits flight)
    (isParcel : parcel ∈ flight) (arrived : Parcel -> Bool) :
    (insertIncoming search (parcel.incoming receiver.cipherSuite) (receiver.holding flight arrived)).2 =
      receiver.holding flight fun other => arrived other || decide (other.key = parcel.key) := by
  unfold insertIncoming
  show ((if receiver.config.maxQueueRx ≤
      ((flight.filter arrived).map (Parcel.incoming receiver.cipherSuite)).length then failWith .receiveQueueFull
    else _ : Action Unit) (receiver.holding flight arrived)).2 = _
  by_cases full : receiver.config.maxQueueRx ≤
      ((flight.filter arrived).map (Parcel.incoming receiver.cipherSuite)).length
  · -- The queue has room for the flight, so it holds all of it.
    rw [if_pos full]
    rw [List.length_map] at full
    have everything := List.length_filter_eq_length_iff.mp
      (Nat.le_antisymm (List.length_filter_le arrived flight) (Nat.le_trans waits.room full))
    have same : (flight.filter fun other => arrived other || decide (other.key = parcel.key)) =
        flight.filter arrived := by
      refine List.filter_congr fun other isOther => ?_
      rw [everything other isOther, Bool.true_or]
    show receiver.holding flight arrived = _
    unfold holding
    rw [same]
  · rw [if_neg full, parcel.head_fragment]
    show (insertIncomingHandshake search (parcel.incoming receiver.cipherSuite) parcel.first
      (receiver.holding flight arrived)).2 = _
    unfold insertIncomingHandshake
    have noResend : resendOnDuplicate (parcel.incoming receiver.cipherSuite) (receiver.holding flight arrived) =
        (.ok (), receiver.holding flight arrived) := resendOnDuplicate_parcel waits isParcel rfl
    show ((resendOnDuplicate (parcel.incoming receiver.cipherSuite) >>= _) (receiver.holding flight arrived)).2 = _
    rw [bind_of_ok noResend]
    show ((if parcel.first.header.messageSeq < receiver.peerHandshakeSeqNo then pure ()
      else if receiver.releaseAppData = true then failWith .renegotiationAttempt
      else _ : Action Unit) (receiver.holding flight arrived)).2 = _
    rw [if_neg (UInt16.not_lt.mpr (waits.first_fresh isParcel)), waits.unreleased, if_neg Bool.false_ne_true]
    have inserted : enqueue search (parcel.incoming receiver.cipherSuite)
        (fun item => compareKeys (handshakeKey item) (handshakeKey (parcel.incoming receiver.cipherSuite)))
        (receiver.holding flight arrived) = _ := enqueue_parcel inOrder isParcel arrived rfl
    rw [bind_of_ok inserted]
    rfl

theorem receiveAll_holding (inOrder : InOrder flight) (waits : receiver.Waits flight) {arrivals : List Parcel}
    (inFlight : forall parcel, parcel ∈ arrivals -> parcel ∈ flight) (arrived : Parcel -> Bool) :
    receiveAll search (arrivals.map Parcel.bytes) (receiver.holding flight arrived) =
      receiver.holding flight fun other => arrived other || decide (other.key ∈ arrivals.map Parcel.key) := by
  induction arrivals generalizing arrived with
  | nil =>
      show _ = receiver.holding flight fun other => arrived other || decide (other.key ∈ [])
      simp only [List.not_mem_nil, decide_false, Bool.or_false]
      rfl
  | cons parcel arrivals ih =>
      have isParcel := inFlight parcel List.mem_cons_self
      show receiveAll search (arrivals.map Parcel.bytes)
        (parsePacket search parcel.bytes (receiver.holding flight arrived)).2 = _
      rw [parsePacket_parcel]
      show receiveAll search (arrivals.map Parcel.bytes)
        (insertIncoming search (parcel.incoming receiver.cipherSuite) (receiver.holding flight arrived)).2 = _
      rw [insertIncoming_parcel inOrder waits isParcel,
        ih fun other isOther => inFlight other (List.mem_cons_of_mem _ isOther)]
      simp only [List.map_cons, List.mem_cons, Bool.decide_or, Bool.or_assoc]

theorem holding_nothing (waits : receiver.Waits flight) : receiver.holding flight (fun _ => false) = receiver := by
  unfold holding
  rw [List.filter_false, List.map_nil, ← waits.empty]

end Queue

/-- After any arrivals, in any order and with any repetitions, the queue holds the datagrams
that came, once each and in the order of the flight, and nothing else has changed. -/
theorem flight_in_any_order (search : BinarySearch Incoming) {receiver : Engine} {flight arrivals : List Parcel}
    (inOrder : InOrder flight) (waits : receiver.Waits flight)
    (inFlight : forall parcel, parcel ∈ arrivals -> parcel ∈ flight) :
    receiveAll search (arrivals.map Parcel.bytes) receiver =
      { receiver with
        queueRx := (flight.filter fun parcel => decide (parcel.key ∈ arrivals.map Parcel.key)).map
          (Parcel.incoming receiver.cipherSuite) } := by
  have received : receiveAll search _ _ = _ := receiveAll_holding inOrder waits inFlight fun _ => false
  rw [holding_nothing waits] at received
  simp only [Bool.false_or] at received
  exact received

/-! ## A message of the flight -/

/-- All datagrams of a flight came, in some order, to an engine that waits for them.  The flight
starts with these records, and no message of this type follows on them. -/
structure Delivered (receiver : Engine) (msgType : MessageType) (messageSeq : UInt16) (records : List DTLSRecord)
    (flight arrivals : List Parcel) : Prop where
  inOrder : InOrder flight
  waits : receiver.Waits flight
  expects : receiver.peerHandshakeSeqNo = messageSeq
  starts : exists others, flight.flatMap Parcel.records = records ++ others ∧
    forall other, other ∈ (others.flatMap fragmentsOf).head? -> other.header.msgType ≠ msgType
  few : records.length ≤ maxDefragmentPackets
  arrived : forall parcel, parcel ∈ arrivals <-> parcel ∈ flight

theorem records_incoming (cipherSuite : Option Dtls12CipherSuite) (flight : List Parcel) :
    records (flight.map (Parcel.incoming cipherSuite)) =
      (flight.flatMap Parcel.records).map (Record.ofPlain cipherSuite) := by
  unfold records
  rw [List.flatMap_map, List.map_flatMap]
  rfl

theorem handshakes_ofPlain {plainRecords : List DTLSRecord}
    (plain : forall record, record ∈ plainRecords -> record.Plain) (cipherSuite : Option Dtls12CipherSuite) :
    handshakes (plainRecords.map (Record.ofPlain cipherSuite)) = plainRecords.flatMap fragmentsOf := by
  unfold handshakes
  rw [List.flatMap_map]
  exact List.flatMap_congr fun record isRecord => Record.ofPlain_handshakes (plain record isRecord) cipherSuite

/-- What is read from the records that carry fragments. -/
theorem fragmentsOf_carried {keying : Keying} {epoch : UInt16} {header : Header} {body : Bytes} {offset : Nat}
    {fragments : List Handshake} {carriers : List DTLSRecord} (tiling : Tiling header body offset fragments)
    (canonical : MessageType.coding.Canonical header.msgType) (length : header.length = body.length)
    (short : body.length < 256 ^ 3) (carried : List.Forall₂ (Carries keying epoch) fragments carriers)
    (plain : forall record, record ∈ carriers -> record.Plain) :
    List.Forall₂ (fun fragment record => fragmentsOf record = [fragment]) fragments carriers := by
  rw [List.forall₂_iff_zip] at carried ⊢
  refine ⟨carried.1, fun {fragment record} isPair => ?_⟩
  have carries := carried.2 isPair
  have isPlain := plain record (List.of_mem_zip isPair).2
  unfold fragmentsOf
  rw [carries.made.plain isPlain.epoch]
  exact tiling.parseHandshakes_eq canonical length short none (List.of_mem_zip isPair).1

theorem flatMap_of_forall₂ {fragments : List Handshake} {carriers : List DTLSRecord}
    (each : List.Forall₂ (fun fragment record => fragmentsOf record = [fragment]) fragments carriers) :
    carriers.flatMap fragmentsOf = fragments := by
  induction each with
  | nil => rfl
  | cons here _ ih => rw [List.flatMap_cons, here, ih, List.singleton_append]

theorem receiveAll_of_delivered (search : BinarySearch Incoming) {receiver : Engine} {msgType : MessageType}
    {messageSeq : UInt16} {carriers : List DTLSRecord} {flight arrivals : List Parcel}
    (delivered : receiver.Delivered msgType messageSeq carriers flight arrivals) :
    receiveAll search (arrivals.map Parcel.bytes) receiver =
      { receiver with queueRx := flight.map (Parcel.incoming receiver.cipherSuite) } := by
  have received : receiveAll search _ _ = _ := receiveAll_holding delivered.inOrder delivered.waits
    (fun parcel => (delivered.arrived parcel).mp) fun _ => false
  have everything :
      (flight.filter fun parcel => false || decide (parcel.key ∈ arrivals.map Parcel.key)) = flight := by
    refine List.filter_eq_self.mpr fun parcel isParcel => ?_
    rw [Bool.false_or]
    exact decide_eq_true (List.mem_map_of_mem ((delivered.arrived parcel).mpr isParcel))
  rw [holding_nothing delivered.waits] at received
  unfold holding at received
  rw [everything] at received
  exact received

theorem awaits_of_delivered (search : BinarySearch Incoming) {keying : Keying} {epoch : UInt16} {receiver : Engine}
    {msgType : MessageType} {messageSeq : UInt16} {body : Bytes} {fragments : List Handshake}
    {carriers : List DTLSRecord} {flight arrivals : List Parcel}
    (tiling : Tiling (Header.whole msgType messageSeq body) body 0 fragments)
    (canonical : MessageType.coding.Canonical msgType) (short : body.length < 256 ^ 3)
    (carried : List.Forall₂ (Carries keying epoch) fragments carriers)
    (delivered : receiver.Delivered msgType messageSeq carriers flight arrivals) :
    (receiveAll search (arrivals.map Parcel.bytes) receiver).Awaits msgType messageSeq
      (fragments.map Handshake.serialize) := by
  rcases delivered.starts with ⟨others, isFlight, otherType⟩
  have isPlain : forall record, record ∈ carriers ++ others -> record.Plain := by
    intro record isRecord
    rw [← isFlight] at isRecord
    rcases List.mem_flatMap.mp isRecord with ⟨parcel, _, inParcel⟩
    exact parcel.plain record inParcel
  have each := fragmentsOf_carried tiling canonical rfl short carried
    fun record isRecord => isPlain record (List.mem_append_left _ isRecord)
  rw [receiveAll_of_delivered search delivered]
  have front : handshakes (carriers.map (Record.ofPlain receiver.cipherSuite)) = fragments := by
    rw [handshakes_ofPlain (fun record isRecord => isPlain record (List.mem_append_left _ isRecord)),
      flatMap_of_forall₂ each]
  have behind : handshakes (others.map (Record.ofPlain receiver.cipherSuite)) = others.flatMap fragmentsOf :=
    handshakes_ofPlain (fun record isRecord => isPlain record (List.mem_append_right _ isRecord)) _
  refine ⟨delivered.expects, receiver.cipherSuite, carriers.map (Record.ofPlain receiver.cipherSuite),
    others.map (Record.ofPlain receiver.cipherSuite), ?_, ?_, ?_, ?_⟩
  · show (records (flight.map (Parcel.incoming receiver.cipherSuite))).dropWhile Record.isHandled = _
    rw [records_incoming, isFlight, List.map_append]
    cases each with
    | nil =>
        rcases tiling.exists_cons with ⟨_, _, contrary⟩
        cases contrary
    | @cons fragment record _ _ here _ =>
        rw [List.map_cons, List.cons_append, List.dropWhile_cons_of_neg]
        unfold Record.isHandled ParsedRecord.isHandled
        rw [Record.ofPlain_handshakes (isPlain record List.mem_cons_self), here]
        simp [tiling.unhandled List.mem_cons_self]
  · rw [List.length_map]
    exact delivered.few
  · rw [tiling.flatMap_parseHandshakes canonical rfl short]
    unfold pending
    rw [front]
    rcases tiling.exists_cons with ⟨count, rest, rfl⟩
    rw [List.dropWhile_cons_of_neg]
    rw [tiling.unhandled List.mem_cons_self]
    exact Bool.false_ne_true
  · rw [behind]
    exact otherType

/-- A message that is sent arrives whatever the order in which its flight comes. -/
theorem message_sent_arrives {msgType : MessageType} {fill : Action Bytes} {body : Bytes}
    {before filled after : Engine} (canonical : MessageType.coding.Canonical msgType)
    (short : body.length < 256 ^ 3) (fills : fill before = (.ok body, filled)) (epochs : filled.outbox.Epochs)
    (sent : createHandshake msgType fill before = (.ok (), after)) :
    exists fragments records, Flown msgType.epoch filled after fragments records ∧
      forall (search : BinarySearch Incoming) (receiver : Engine) (flight arrivals : List Parcel),
        receiver.Delivered msgType filled.nextHandshakeSeqNo records flight arrivals ->
        (receiveAll search (arrivals.map Parcel.bytes) receiver).transcript = receiver.transcript ∧
          (receiveAll search (arrivals.map Parcel.bytes) receiver).Takes msgType filled.nextHandshakeSeqNo
            body := by
  rcases createHandshake_flies fills epochs sent with ⟨_, fragments, records, tiling, flown⟩
  refine ⟨fragments, records, flown, fun search receiver flight arrivals delivered => ⟨?_, ?_⟩⟩
  · rw [receiveAll_of_delivered search delivered]
  · have awaits := awaits_of_delivered search tiling canonical short flown.carried delivered
    exact takes_of_awaits tiling canonical short awaits

/-! ## A cookie that arrives in the wrong order -/

/-- A fragment in a record without encryption. -/
def plainRecord (sequence : Sequence) (fragment : Bytes) : DTLSRecord where
  contentType := .handshake
  version := .dtls1_2
  sequence := sequence
  length := UInt16.ofNat fragment.length
  fragment := fragment

/-- Without encryption the fragments and the numbers make the records. -/
theorem records_of_carried {keying : Keying} {fragments : List Handshake} {carriers : List DTLSRecord}
    (carried : List.Forall₂ (Carries keying 0) fragments carriers) :
    carriers = List.zipWith plainRecord (carriers.map DTLSRecord.sequence) (fragments.map Handshake.serialize) := by
  induction carried with
  | nil => rfl
  | @cons fragment record _ _ here _ ih =>
      have same : record = plainRecord record.sequence fragment.serialize := by
        have isFragment := here.made.plain (here.epoch.mpr rfl)
        have isLength := here.made.length
        rw [isFragment] at isLength
        cases record
        simp only [plainRecord, DTLSRecord.mk.injEq]
        exact ⟨here.contentType, here.made.version, trivial, isLength, isFragment⟩
      rw [List.map_cons, List.map_cons, List.zipWith_cons_cons, ← same, ← ih]

namespace Sample

def part (offset count : Nat) : Handshake :=
  (Header.whole .helloVerifyRequest 0 request).fragment request offset count

def firstParcel : Parcel where
  records := [plainRecord ⟨0, 0⟩ (part 0 39).serialize]
  first := part 0 39
  few := by decide
  plain := List.forall_mem_singleton.mpr ⟨⟨rfl, rfl, fun _ => rfl, by decide, by decide +kernel⟩, rfl, rfl⟩
  leads := by decide +kernel

def secondParcel : Parcel where
  records := [plainRecord ⟨0, 1⟩ (part 39 11).serialize]
  first := part 39 11
  few := by decide
  plain := List.forall_mem_singleton.mpr ⟨⟨rfl, rfl, fun _ => rfl, by decide, by decide +kernel⟩, rfl, rfl⟩
  leads := by decide +kernel

def flight : List Parcel := [firstParcel, secondParcel]

/-- The second datagram comes first, and twice. -/
def arrivals : List Parcel := [secondParcel, secondParcel, firstParcel]

theorem flight_inOrder : InOrder flight :=
  List.pairwise_pair.mpr (by decide +kernel)

theorem narrow_waits : narrow.Waits flight := by
  refine ⟨rfl, rfl, by decide, fun parcel _ record _ fragment _ => ?_⟩
  rw [show narrow.peerHandshakeSeqNo = 0 from rfl]
  exact UInt16.le_iff_toNat_le.mpr (Nat.zero_le _)

theorem mem_arrivals (parcel : Parcel) : parcel ∈ arrivals <-> parcel ∈ flight := by
  simp only [arrivals, flight, List.mem_cons, List.not_mem_nil, or_false]
  grind

end Sample

theorem cookie_in_any_order :
    ((receiveAll .linear (Sample.arrivals.map Parcel.bytes) Sample.narrow).queueRx.map
        fun incoming => incoming.records.items.flatMap Record.buffer) = Sample.flight.map Parcel.bytes := by
  rw [flight_in_any_order .linear Sample.flight_inOrder Sample.narrow_waits
    fun parcel => (Sample.mem_arrivals parcel).mp]
  decide +kernel

theorem cookie_arrives :
    Sample.flight.map Parcel.bytes = Sample.sender.queueTx ∧
      (nextHandshake .helloVerifyRequest
        (receiveAll .linear (Sample.arrivals.map Parcel.bytes) Sample.narrow)).1 =
          .ok (some
            { wholeMessage .helloVerifyRequest 0 Sample.request with
              body := .helloVerifyRequest ⟨.dtls1_2, ⟨Sample.cookie, Nat.le_of_ble_eq_true rfl⟩⟩ }) := by
  have sent : createHandshake .helloVerifyRequest (pure Sample.request) Sample.narrow = (.ok (), Sample.sender) :=
    Prod.ext (by decide +kernel) rfl
  rcases @message_sent_arrives .helloVerifyRequest (pure Sample.request) Sample.request Sample.narrow
      Sample.narrow Sample.sender rfl (by decide) rfl ⟨rfl, rfl⟩ sent with ⟨fragments, records, flown, arrives⟩
  have isFragments : fragments.map Handshake.serialize = Sample.sender.flightSavedRecords.map Entry.fragment := by
    rw [flown.saved, List.map_append, List.map_map]
    rfl
  have isRecords : records = Sample.flight.flatMap Parcel.records := by
    have sized : records.length = 2 := by
      rw [← flown.carried.length_eq, ← List.length_map Handshake.serialize, isFragments]
      decide +kernel
    rw [records_of_carried flown.carried, flown.sequences, isFragments, sized]
    decide +kernel
  have delivered : Sample.narrow.Delivered .helloVerifyRequest 0 records Sample.flight Sample.arrivals := by
    refine ⟨Sample.flight_inOrder, Sample.narrow_waits, rfl, ⟨[], ?_, ?_⟩, ?_, Sample.mem_arrivals⟩
    · rw [isRecords, List.append_nil]
    · exact fun _ contrary => by cases contrary
    · rw [isRecords]
      decide
  refine ⟨by decide +kernel, (arrives .linear _ _ _ delivered).2.returns _ ?_⟩
  decide +kernel

end Engine

end Dtls
end P2pSdk
