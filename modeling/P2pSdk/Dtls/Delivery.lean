import P2pSdk.Dtls.ClientSteps
import P2pSdk.Dtls.Receiving

namespace P2pSdk
namespace Dtls

open Foundation Parser Effect

/-!
# What a client gives to its user

The data that a client gives out were decrypted under the keys of the server,
and no sequence number serves twice.  There is one exception, which the source
leaves open: a record of an epoch above 1 that comes before the server has
switched to encryption is kept in the queue as it came, and its fragment is
given out as it is.
-/

/-- The data that an output gives out. -/
def Output.data : Output -> Option Bytes
  | .applicationData bytes => some bytes
  | _ => none

namespace Engine

/-! ## The queue -/

/-- The data that wait in the queue. -/
def pendingData (queueRx : List Incoming) : List DTLSRecord := (records queueRx).filterMap dataOf

/-- The bytes that are kept in the queue. -/
def buffersOf (queueRx : List Incoming) : List Bytes := (records queueRx).map Record.buffer

/-- The gate stays, and all data that were given out or wait in the queue are accounted for.  The bytes in the
queue may be parsed again, and so may some that were taken from it. -/
structure Booked (received : List Bytes) (given : List Item) (aside : List Bytes) (gate : Gate) (engine : Engine) :
    Prop where
  sameGate : engine.gate = gate
  accounts : exists waiting : List Item, waiting.map Item.record = pendingData engine.queueRx ∧
    Accounted received engine.replay gate (given ++ waiting)
  kept : Kept received engine.replay (aside ++ buffersOf engine.queueRx)

section Booked

variable {received : List Bytes} {given : List Item} {aside : List Bytes} {gate : Gate} {Value : Type}

/-- The queue may lose data. -/
theorem Booked.fewer {before after : Engine} (booked : Booked received given aside gate before)
    (sameGate : after.gate = before.gate) (sameReplay : after.replay = before.replay)
    (fewer : (pendingData after.queueRx).Sublist (pendingData before.queueRx))
    (fewerBuffers : buffersOf after.queueRx ⊆ buffersOf before.queueRx) : Booked received given aside gate after := by
  rcases booked.accounts with ⟨waiting, isWaiting, accounted⟩
  rw [← isWaiting] at fewer
  rcases List.sublist_map_iff.mp fewer with ⟨rest, isRest, same⟩
  refine ⟨sameGate.trans booked.sameGate, ⟨rest, same.symm, ?_⟩, ?_⟩
  · rw [sameReplay]
    exact accounted.sublist (List.Sublist.append_left isRest _)
  · rw [sameReplay]
    refine booked.kept.subset (List.append_subset.mpr ⟨List.subset_append_left _ _, ?_⟩)
    exact List.Subset.trans fewerBuffers (List.subset_append_right _ _)

theorem Booked.same {before after : Engine} (booked : Booked received given aside gate before)
    (sameGate : after.gate = before.gate) (sameReplay : after.replay = before.replay)
    (sameData : pendingData after.queueRx = pendingData before.queueRx)
    (sameBuffers : buffersOf after.queueRx = buffersOf before.queueRx) : Booked received given aside gate after :=
  booked.fewer sameGate sameReplay (sameData ▸ List.Sublist.refl _) (sameBuffers ▸ List.Subset.refl _)

theorem beside_gate {before after : Engine} (beside : Beside before after) :
    after.gate = before.gate ∧ after.queueRx = before.queueRx ∧ after.replay = before.replay := by
  have inbox := beside.inbox
  refine ⟨?_, congrArg Inbox.queueRx inbox, congrArg Inbox.replay inbox⟩
  unfold gate
  rw [beside.keying, show after.peerEncryptionEnabled = before.peerEncryptionEnabled from
    congrArg Inbox.peerEncryptionEnabled inbox, show after.releaseAppData = before.releaseAppData from
    congrArg Inbox.releaseAppData inbox]

theorem booked_sends {action : Action Value} (sends : Sends action) :
    Keeps (Booked received given aside gate) action := by
  have kept : forall {before after : Engine}, Booked received given aside gate before -> Beside before after ->
      Booked received given aside gate after := by
    intro before after booked beside
    rcases beside_gate beside with ⟨sameGate, sameQueue, sameReplay⟩
    exact booked.same sameGate sameReplay (by rw [sameQueue]) (by rw [sameQueue])
  intro before booked
  refine (sends before before ⟨rfl, rfl, rfl⟩).mono ?_ ?_
  · exact fun _ _ beside => kept booked beside
  · exact fun _ _ beside => kept booked beside

theorem sends_resendOnDuplicate (incoming : Incoming) : Sends (resendOnDuplicate incoming) := by
  refine sends_get.bind fun self => ?_
  dsimp only
  split
  · exact sends_flightResend.ite (sends_pure _)
  · exact sends_pure _

theorem pendingData_append (front behind : List Incoming) :
    pendingData (front ++ behind) = pendingData front ++ pendingData behind := by
  unfold pendingData records
  rw [List.flatMap_append, List.filterMap_append]

theorem pendingData_cons (incoming : Incoming) (rest : List Incoming) :
    pendingData (incoming :: rest) = incoming.records.items.filterMap dataOf ++ pendingData rest := by
  unfold pendingData records
  rw [List.flatMap_cons, List.filterMap_append]

theorem buffersOf_append (front behind : List Incoming) :
    buffersOf (front ++ behind) = buffersOf front ++ buffersOf behind := by
  unfold buffersOf records
  rw [List.flatMap_append, List.map_append]

theorem buffersOf_cons (incoming : Incoming) (rest : List Incoming) :
    buffersOf (incoming :: rest) = incoming.records.items.map Record.buffer ++ buffersOf rest := by
  unfold buffersOf records
  rw [List.flatMap_cons, List.map_append]

section Insert

variable {queueRx : List Incoming} {waiting : List Item} {incoming : Incoming}

/-- The queue with the data that wait in it, and a datagram. -/
def Arriving (received : List Bytes) (gate : Gate) (queueRx : List Incoming) (given waiting : List Item)
    (aside : List Bytes) (records : List Record) (engine : Engine) : Prop :=
  Adding received gate queueRx (given ++ waiting) (aside ++ buffersOf queueRx) records engine

theorem Arriving.booked {records : List Record} {engine : Engine}
    (isWaiting : waiting.map Item.record = pendingData queueRx)
    (arriving : Arriving received gate queueRx given waiting aside records engine) :
    Booked received given aside gate engine := by
  have receiving := Adding.dropped arriving
  refine ⟨receiving.sameGate, ⟨waiting, ?_, receiving.accounted⟩, ?_⟩
  · rw [receiving.sameQueue]
    exact isWaiting
  · rw [receiving.sameQueue]
    exact receiving.kept

theorem Arriving.insert {engine : Engine} (isWaiting : waiting.map Item.record = pendingData queueRx)
    (arriving : Arriving received gate queueRx given waiting aside incoming.records.items engine) (place : Nat) :
    Booked received given aside gate { engine with queueRx := insertAt engine.queueRx place incoming } := by
  rcases arriving with ⟨fresh, isFresh, receiving⟩
  rw [← List.take_append_drop place queueRx, pendingData_append] at isWaiting
  rcases List.map_eq_append_iff.mp isWaiting with ⟨front, behind, rfl, isFront, isBehind⟩
  refine ⟨receiving.sameGate, ⟨front ++ (fresh ++ behind), ?_, receiving.accounted.perm ?_⟩, ?_⟩
  · dsimp only
    unfold insertAt
    rw [receiving.sameQueue, pendingData_append, pendingData_cons, List.map_append, List.map_append, isFront, isFresh,
      isBehind]
  · rw [List.append_assoc, List.append_assoc]
    exact (List.perm_append_comm.append_left front).append_left given
  · dsimp only
    unfold insertAt
    rw [receiving.sameQueue, buffersOf_append, buffersOf_cons]
    refine receiving.kept.subset ?_
    nth_rewrite 3 [← List.take_append_drop place queueRx]
    rw [buffersOf_append]
    intro buffer isBuffer
    simp only [List.mem_append] at isBuffer ⊢
    tauto

variable (search : BinarySearch Incoming)

theorem arriving_sends {action : Action Value} {records : List Record} (sends : Sends action) :
    Keeps (Arriving received gate queueRx given waiting aside records) action := by
  have kept : forall {before after : Engine}, Arriving received gate queueRx given waiting aside records before ->
      Beside before after -> Arriving received gate queueRx given waiting aside records after := by
    rintro before after ⟨fresh, isFresh, receiving⟩ beside
    rcases beside_gate beside with ⟨sameGate, sameQueue, sameReplay⟩
    exact ⟨fresh, isFresh, sameGate.trans receiving.sameGate, sameQueue.trans receiving.sameQueue,
      sameReplay ▸ receiving.accounted, sameReplay ▸ receiving.kept⟩
  intro before arriving
  refine (sends before before ⟨rfl, rfl, rfl⟩).mono ?_ ?_
  · exact fun _ _ beside => kept arriving beside
  · exact fun _ _ beside => kept arriving beside

theorem insertIncoming_ends (isWaiting : waiting.map Item.record = pendingData queueRx) {before : Engine}
    (arriving : Arriving received gate queueRx given waiting aside incoming.records.items before) :
    (insertIncoming search incoming).Ends (fun _ => Booked received given aside gate)
      (fun _ => Booked received given aside gate) before := by
  have enqueued : forall order {engine : Engine},
      Arriving received gate queueRx given waiting aside incoming.records.items engine ->
        (enqueue search incoming order).Ends (fun _ => Booked received given aside gate)
          (fun _ => Booked received given aside gate) engine := by
    intro order engine arriving
    unfold enqueue
    rw [ends_bind, ends_get]
    split
    · exact arriving.insert isWaiting _
    · exact arriving.booked isWaiting
  unfold insertIncoming
  rw [ends_bind, ends_get, ends_ite]
  refine ⟨fun _ => arriving.booked isWaiting, fun _ => ?_⟩
  split
  · rw [insertIncomingHandshake, ends_bind, ends_get, ends_bind]
    refine (arriving_sends (sends_resendOnDuplicate incoming) before arriving).mono ?_
      fun _ _ kept => kept.booked isWaiting
    intro _ after kept
    rw [ends_ite]
    refine ⟨fun _ => kept.booked isWaiting, fun _ => ?_⟩
    rw [ends_ite]
    refine ⟨fun _ => kept.booked isWaiting, fun _ => ?_⟩
    rw [ends_bind]
    exact (enqueued _ kept).mono (fun _ _ kept => kept) fun _ _ kept => kept
  · unfold insertIncomingNonHandshake
    dsimp only
    rw [ends_bind]
    refine (enqueued _ arriving).mono ?_ fun _ _ kept => kept
    intro inserted after kept
    rw [ends_ite]
    exact ⟨fun _ => kept, fun _ => kept⟩

end Insert

theorem booked_parsePacket (search : BinarySearch Incoming) {packet : Bytes} {before : Engine}
    (parsable : Parsable received gate before.replay packet) (booked : Booked received given aside gate before) :
    (parsePacket search packet).Ends (fun _ => Booked received given aside gate)
      (fun _ => Booked received given aside gate) before := by
  rcases booked.accounts with ⟨waiting, isWaiting, accounted⟩
  unfold parsePacket
  rw [ends_bind, ends_get, ends_bind]
  have receiving : Receiving received gate before.queueRx (given ++ waiting) (aside ++ buffersOf before.queueRx)
      before := ⟨booked.sameGate, rfl, accounted, booked.kept⟩
  refine (incoming_ends before.cipherSuite parsable receiving).mono ?_ ?_
  · intro found after added
    have arriving : Arriving received gate before.queueRx given waiting aside
        (found.elim [] fun incoming => incoming.records.items) after := added
    cases found with
    | some incoming => exact insertIncoming_ends search isWaiting arriving
    | none => exact arriving.booked isWaiting
  · intro _ after kept
    have arriving : Arriving received gate before.queueRx given waiting aside [] after := kept.adding
    exact arriving.booked isWaiting

/-! ## Records that are handled -/

theorem records_passing {σ : Type} (step : σ -> Record -> σ × Record) (state : σ) (queueRx : List Incoming) :
    records (passing (Incoming.passing step) state queueRx).2 = (passing step state (records queueRx)).2 := by
  unfold records
  rw [passing_flatMap step (Incoming.passing step) (fun incoming => incoming.records.items) fun _ _ => rfl]

/-- Marking what is no data leaves the data. -/
theorem pendingData_passing {σ : Type} {step : σ -> Record -> σ × Record}
    (same : forall state record, dataOf (step state record).2 = dataOf record) (state : σ) (queueRx : List Incoming) :
    pendingData (passing (Incoming.passing step) state queueRx).2 = pendingData queueRx := by
  unfold pendingData
  rw [records_passing, passing_filterMap dataOf same]

/-- Marking leaves the bytes. -/
theorem buffersOf_passing {σ : Type} {step : σ -> Record -> σ × Record}
    (same : forall state record, (step state record).2.buffer = record.buffer) (state : σ) (queueRx : List Incoming) :
    buffersOf (passing (Incoming.passing step) state queueRx).2 = buffersOf queueRx := by
  unfold buffersOf
  rw [records_passing, ← List.filterMap_eq_map]
  exact passing_filterMap (some ∘ Record.buffer) (fun state record => congrArg some (same state record)) _ _

theorem dataOf_eq_none {record : Record} (other : record.parsed.record.contentType ≠ .applicationData) :
    dataOf record = none := by
  unfold dataOf isPendingData
  simp [other]

theorem dataOf_markRecord (phase : Phase) (record : Record) : dataOf (markRecord phase record).2 = dataOf record := by
  by_cases isData : record.parsed.record.contentType = .applicationData
  · have plain := record.parsed.plain (by rw [isData]; decide)
    unfold dataOf isPendingData markRecord ParsedRecord.passing Record.isHandled ParsedRecord.isHandled
    simp [plain]
  · rw [dataOf_eq_none isData]
    exact dataOf_eq_none isData

theorem dataOf_markCcs (record : Record) : dataOf (markCcs record) = dataOf record := by
  unfold markCcs
  split
  · rename_i isCcs
    have other : record.parsed.record.contentType ≠ .applicationData := by
      rw [isCcs]
      decide
    rw [dataOf_eq_none other]
    exact dataOf_eq_none other
  · rfl

/-- Once the first record was marked, the rest stays. -/
theorem passing_markFirst_true (test : Record -> Bool) (rest : List Record) :
    (passing (markFirst test) true rest).2 = rest := by
  induction rest with
  | nil => rfl
  | cons record rest ih =>
      rw [passing_cons]
      exact congrArg _ ih

/-- The first record that passes the test is marked. -/
theorem passing_markFirst {test : Record -> Bool} {front behind : List Record} {record : Record}
    (skipped : forall other, other ∈ front -> test other = false) (passes : test record = true) :
    (passing (markFirst test) false (front ++ record :: behind)).2 = front ++ setHandled record :: behind := by
  induction front with
  | nil =>
      rw [List.nil_append, passing_cons]
      have marked : markFirst test false record = (true, setHandled record) := by
        unfold markFirst
        simp [passes]
      rw [marked]
      dsimp only
      rw [passing_markFirst_true]
      rfl
  | cons other front ih =>
      rw [List.cons_append, passing_cons]
      have kept : markFirst test false other = (false, other) := by
        unfold markFirst
        simp [skipped other List.mem_cons_self]
      rw [kept]
      dsimp only
      rw [ih fun other isOther => skipped other (List.mem_cons_of_mem _ isOther)]
      rfl

/-- Where the first record that passes the test stands, and the queue when it is marked. -/
theorem markFirstRecord_split {test : Record -> Bool} {queueRx : List Incoming} {record : Record}
    (found : (records queueRx).find? test = some record) :
    exists front behind, records queueRx = front ++ record :: behind ∧
      (forall other, other ∈ front -> test other = false) ∧
      records (markFirstRecord test queueRx) = front ++ setHandled record :: behind := by
  rcases List.find?_eq_some_iff_append.mp found with ⟨passes, front, behind, split, skipped⟩
  have missed : forall other, other ∈ front -> test other = false := fun other isOther =>
    Bool.not_eq_true' _ ▸ skipped other isOther
  refine ⟨front, behind, split, missed, ?_⟩
  unfold markFirstRecord
  rw [records_passing, split, passing_markFirst missed passes]

/-- A record that is no data is marked. -/
theorem pendingData_markFirstRecord {test : Record -> Bool} {queueRx : List Incoming} {record : Record}
    (found : (records queueRx).find? test = some record)
    (other : record.parsed.record.contentType ≠ .applicationData) :
    pendingData (markFirstRecord test queueRx) = pendingData queueRx := by
  rcases markFirstRecord_split found with ⟨front, behind, split, _, marked⟩
  unfold pendingData
  rw [marked, split, List.filterMap_append, List.filterMap_append, List.filterMap_cons_none (dataOf_eq_none other),
    List.filterMap_cons_none (show dataOf (setHandled record) = none from dataOf_eq_none other)]

theorem buffersOf_markFirstRecord (test : Record -> Bool) (queueRx : List Incoming) :
    buffersOf (markFirstRecord test queueRx) = buffersOf queueRx := by
  refine buffersOf_passing (fun state record => ?_) _ _
  unfold markFirst
  split
  · rfl
  · split
    · rfl
    · rfl

theorem markCcs_buffer (record : Record) : (markCcs record).buffer = record.buffer := by
  unfold markCcs
  split
  · rfl
  · rfl

theorem isPendingData_setHandled {record : Record} (plain : record.parsed.handshakes.items = []) :
    isPendingData (setHandled record) = false := by
  unfold isPendingData setHandled Record.isHandled ParsedRecord.isHandled
  simp [plain]

/-- The first data are given out, and the rest waits. -/
theorem pendingData_take {queueRx : List Incoming} {record : Record}
    (found : (records queueRx).find? isPendingData = some record)
    (plain : record.parsed.handshakes.items = []) :
    pendingData queueRx = record.parsed.record :: pendingData (markFirstRecord isPendingData queueRx) := by
  rcases markFirstRecord_split found with ⟨front, behind, split, skipped, marked⟩
  have passes := List.find?_some found
  have nothing : front.filterMap dataOf = [] := by
    rw [List.filterMap_eq_nil_iff]
    intro other isOther
    unfold dataOf
    rw [if_neg (by rw [skipped other isOther]; exact Bool.false_ne_true)]
  have first : dataOf record = some record.parsed.record := if_pos passes
  have gone : dataOf (setHandled record) = none :=
    if_neg (by rw [isPendingData_setHandled plain]; exact Bool.false_ne_true)
  unfold pendingData
  rw [marked, split, List.filterMap_append, List.filterMap_append, nothing, List.nil_append, List.nil_append,
    List.filterMap_cons_some first, List.filterMap_cons_none gone]

theorem booked_nextHandshake (wanted : MessageType) : Keeps (Booked received given aside gate) (nextHandshake wanted) := by
  refine keeps_get.bind fun self => (keeps_pure _).ite (Keeps.bind (keeps_modify fun engine booked => ?_) fun _ => ?_)
  · exact booked.same rfl rfl (pendingData_passing dataOf_markRecord _ _) (buffersOf_passing (fun _ _ => rfl) _ _)
  · refine Keeps.bind (fun before booked => ?_) fun handshake => Keeps.bind (keeps_modify ?_) fun _ => keeps_pure _
    · rw [ends_zoom]
      unfold Ends
      split
      · exact booked.same rfl rfl rfl rfl
      · exact booked.same rfl rfl rfl rfl
    · exact fun _ booked => booked.same rfl rfl rfl rfl

theorem booked_nextCcs : Keeps (Booked received given aside gate) (nextRecord .changeCipherSpec) := by
  refine Keeps.get_bind fun self booked => ?_
  split
  · exact booked
  · rename_i record found
    rw [ends_ite]
    refine ⟨fun _ => booked, fun isCcs => ?_⟩
    rw [ends_ite]
    refine ⟨fun _ => ?_, fun _ => booked⟩
    rw [ends_bind, ends_modify]
    have other : record.parsed.record.contentType ≠ .applicationData := by
      rw [not_not.mp isCcs]
      decide
    exact booked.same rfl rfl (pendingData_markFirstRecord found other) (buffersOf_markFirstRecord _ _)

theorem booked_dropPendingCcs : Keeps (Booked received given aside gate) dropPendingCcs :=
  keeps_modify fun _ booked => booked.same rfl rfl (pendingData_passing (fun _ => dataOf_markCcs) _ _)
    (buffersOf_passing (fun _ => markCcs_buffer) _ _)

theorem booked_purge {engine : Engine} (booked : Booked received given aside gate engine) :
    Booked received given aside gate engine.purgeHandledQueueRx := by
  have fewer : engine.purgeHandledQueueRx.queueRx.Sublist engine.queueRx := List.dropWhile_sublist _
  refine booked.fewer rfl rfl ((fewer.flatMap _).filterMap _) ?_
  exact ((fewer.flatMap _).map _).subset

/-! ## The other methods -/

section Methods

variable {search : BinarySearch Incoming} {holds : Gate -> Prop}

/-- The data that were given out are accounted for, those that came as they are had an epoch above 1,
and the gate has a property. -/
structure Ledger (received : List Bytes) (given : List Item) (holds : Gate -> Prop) (engine : Engine) : Prop where
  gate : holds engine.gate
  booked : Booked received given [] engine.gate engine
  late : forall item, item ∈ given -> item.opened = false -> item.record.sequence.epoch ≠ 1

theorem Ledger.mono {weaker : Gate -> Prop} {engine : Engine} (ledger : Ledger received given holds engine)
    (implies : forall gate, holds gate -> weaker gate) : Ledger received given weaker engine :=
  ⟨implies _ ledger.gate, ledger.booked, ledger.late⟩

theorem Ledger.receive {engine : Engine} (ledger : Ledger received given holds engine) (packet : Bytes) :
    Ledger (received ++ [packet]) given holds engine := by
  rcases ledger.booked.accounts with ⟨waiting, isWaiting, accounted⟩
  exact ⟨ledger.gate, ⟨rfl, ⟨waiting, isWaiting, accounted.receive packet⟩, ledger.booked.kept.receive packet⟩,
    ledger.late⟩

theorem ledger_of_booked {action : Action Value}
    (kept : forall gate, Keeps (Booked received given [] gate) action) : Keeps (Ledger received given holds) action := by
  intro before ledger
  have returned : forall after, Booked received given [] before.gate after -> Ledger received given holds after :=
    fun after booked => ⟨booked.sameGate ▸ ledger.gate, booked.sameGate ▸ booked, ledger.late⟩
  exact (kept before.gate before ledger.booked).mono (fun _ => returned) fun _ => returned

theorem sends_handleTimeout (now : Nat) : Sends (handleTimeout now) := by
  refine Sends.bind (sends_modify fun _ => ⟨rfl, rfl, rfl⟩) fun _ => sends_get.bind fun self => (sends_fail _).ite ?_
  refine Sends.ite (Sends.ite (sends_drawJitter.bind fun jitter => ?_) (sends_fail _)) (sends_pure _)
  refine Sends.bind (sends_modify ?_) fun _ => Sends.bind (sends_modify ?_) fun _ => sends_flightResend
  · exact fun _ => ⟨rfl, rfl, rfl⟩
  · exact fun _ => ⟨rfl, rfl, rfl⟩

theorem booked_sendHandshake (msgType : MessageType) (body : Bytes) :
    Keeps (Booked received given aside gate) (sendHandshake msgType body) := by
  refine keeps_get.bind fun self => Keeps.bind (keeps_modify fun _ booked => ?_) fun _ => ?_
  · exact booked.same rfl rfl rfl rfl
  · exact (keeps_fail _).ite (booked_sends (sends_sendFragments _ _ _ _ _ _))

theorem booked_tame {arrives : Bytes -> Prop} (among : forall packet, arrives packet -> packet ∈ received) :
    Tame search arrives (Booked received given aside gate) where
  createRecord := fun _ _ _ _ => booked_sends (sends_createRecord _ _ _ _)
  sendHandshake := booked_sendHandshake
  nextHandshake := booked_nextHandshake
  nextCcs := booked_nextCcs
  dropPendingCcs := booked_dropPendingCcs
  parsePacket := fun packet arrived _ booked =>
    booked_parsePacket search (.inl (arrived_of_mem (among packet arrived))) booked
  handleTimeout := fun now => booked_sends (sends_handleTimeout now)
  randomBytes := fun count => booked_sends (sends_randomBytes count)
  flightBegin := booked_sends sends_flightBegin
  flightStopResendTimers := booked_sends (sends_modify fun _ => ⟨rfl, rfl, rfl⟩)
  discardPendingWrites := booked_sends (sends_modify fun _ => ⟨rfl, rfl, rfl⟩)
  abort := booked_sends (sends_modify fun _ => ⟨rfl, rfl, rfl⟩)
  resetClient := keeps_modify fun _ booked => booked.same rfl rfl rfl rfl

theorem ledger_tame : Tame search (fun packet => packet ∈ received) (Ledger received given holds) := by
  have tame : forall gate, Tame search (fun packet => packet ∈ received) (Booked received given [] gate) :=
    fun _ => booked_tame fun _ => id
  exact
    { createRecord := fun _ _ _ _ => ledger_of_booked fun gate => (tame gate).createRecord _ _ _ _
      sendHandshake := fun _ _ => ledger_of_booked fun gate => (tame gate).sendHandshake _ _
      nextHandshake := fun _ => ledger_of_booked fun gate => (tame gate).nextHandshake _
      nextCcs := ledger_of_booked fun gate => (tame gate).nextCcs
      dropPendingCcs := ledger_of_booked fun gate => (tame gate).dropPendingCcs
      parsePacket := fun _ arrived => ledger_of_booked fun gate => (tame gate).parsePacket _ arrived
      handleTimeout := fun _ => ledger_of_booked fun gate => (tame gate).handleTimeout _
      randomBytes := fun _ => ledger_of_booked fun gate => (tame gate).randomBytes _
      flightBegin := ledger_of_booked fun gate => (tame gate).flightBegin
      flightStopResendTimers := ledger_of_booked fun gate => (tame gate).flightStopResendTimers
      discardPendingWrites := ledger_of_booked fun gate => (tame gate).discardPendingWrites
      abort := ledger_of_booked fun gate => (tame gate).abort
      resetClient := ledger_of_booked fun gate => (tame gate).resetClient }

/-- Nothing is decrypted and nothing is given out. -/
structure Gate.Shut (gate : Gate) : Prop where
  plain : gate.enabled = false
  silent : gate.released = false

theorem Ledger.rekey {before after : Engine} (ledger : Ledger received given Gate.Shut before)
    (sameQueue : after.queueRx = before.queueRx) (sameReplay : after.replay = before.replay)
    (rekeyed : after.gate = { before.gate with keying := after.keying }) : Ledger received given Gate.Shut after := by
  rcases ledger.booked.accounts with ⟨waiting, isWaiting, accounted⟩
  refine ⟨rekeyed ▸ ⟨ledger.gate.plain, ledger.gate.silent⟩, ⟨rfl, ⟨waiting, ?_, ?_⟩, ?_⟩, ledger.late⟩
  · rw [sameQueue]
    exact isWaiting
  · rw [sameReplay, rekeyed]
    exact accounted.rekey ledger.gate.plain
  · rw [sameReplay, sameQueue]
    exact ledger.booked.kept

theorem ledger_onCryptoContext {toError : String -> Error} {action : CryptoContext.Action Value} :
    Keeps (Ledger received given Gate.Shut) (onCryptoContext toError action) := by
  intro before ledger
  rw [ends_onCryptoContext]
  unfold Ends
  split
  · exact ledger.rekey rfl rfl rfl
  · exact ledger.rekey rfl rfl rfl

theorem ledger_setCipherSuite (suite : Dtls12CipherSuite) :
    Keeps (Ledger received given Gate.Shut) (setCipherSuite suite) := by
  refine Keeps.get_bind fun before ledger => ?_
  split
  · exact ledger
  · exact ledger.rekey rfl rfl rfl

/-- Before the first datagram with a record of epoch 1, all data have another epoch. -/
theorem epoch_of_pendingData {kept : List Incoming} {record : DTLSRecord} (isPending : record ∈ pendingData kept)
    (missed : forall incoming, incoming ∈ kept ->
      (incoming.records.items.any fun record => record.parsed.record.sequence.epoch == 1) = false) :
    record.sequence.epoch ≠ 1 := by
  rcases List.mem_filterMap.mp isPending with ⟨stored, isStored, isData⟩
  rcases List.mem_flatMap.mp isStored with ⟨incoming, isIncoming, inside⟩
  unfold dataOf at isData
  split at isData
  · cases isData
    intro isFirst
    have none := List.any_eq_false.mp (missed incoming isIncoming) stored inside
    exact none (beq_iff_eq.mpr isFirst)
  · cases isData

/-- From here on, records of epoch 1 are decrypted, and what stays in the queue has none. -/
theorem Ledger.enable {before : Engine} (ledger : Ledger received given holds before) {front behind : List Incoming}
    (isQueue : before.queueRx = front ++ behind)
    (missed : forall incoming, incoming ∈ front ->
      (incoming.records.items.any fun record => record.parsed.record.sequence.epoch == 1) = false) :
    Booked received given (buffersOf behind) { before.gate with enabled := true }
      { before with peerEncryptionEnabled := true, queueRx := front } := by
  rcases ledger.booked.accounts with ⟨waiting, isWaiting, accounted⟩
  rw [isQueue, pendingData_append] at isWaiting
  rcases List.map_eq_append_iff.mp isWaiting with ⟨stays, goes, rfl, isFront, _⟩
  have fewer := accounted.sublist (List.Sublist.append_left (List.sublist_append_left stays goes) given)
  refine ⟨rfl, ⟨stays, isFront, fewer.typed, fewer.distinct, fewer.taken, fewer.opened, ?_, ?_⟩, ?_⟩
  · intro item isItem unopened
    rcases fewer.plain item isItem unopened with ⟨isLater, _, came⟩
    refine ⟨isLater, fun _ => ?_, came⟩
    rcases List.mem_append.mp isItem with isGiven | isWaiting'
    · exact ledger.late item isGiven unopened
    · have isPending : item.record ∈ pendingData front := isFront ▸ List.mem_map_of_mem isWaiting'
      exact epoch_of_pendingData isPending missed
  · exact fun contrary => by cases contrary
  · refine ledger.booked.kept.subset ?_
    dsimp only
    rw [isQueue, List.nil_append, buffersOf_append]
    exact List.append_subset.mpr ⟨List.subset_append_right _ _, List.subset_append_left _ _⟩

/-- The bytes that were taken from the queue are parsed again. -/
theorem booked_each {gate : Gate} (enabled : gate.enabled = true) {again : List Record}
    (among : forall record, record ∈ again -> record.buffer ∈ aside) :
    Keeps (Booked received given aside gate) (each again fun record => parsePacket search record.buffer) := by
  refine Keeps.each fun record isRecord before booked => booked_parsePacket search ?_ booked
  have kept := booked.kept record.buffer (List.mem_append_left _ (among record isRecord))
  exact kept.imp id fun spent => ⟨enabled, spent⟩

/-- What stays in the queue has no record of epoch 1, and the rest is parsed again, now with decryption. -/
theorem ledger_enablePeerEncryption {before : Engine} (ledger : Ledger received given holds before)
    {weaker : Gate -> Prop} (implies : weaker { before.gate with enabled := true }) :
    (enablePeerEncryption search).Ends (fun _ => Ledger received given weaker)
      (fun _ => Ledger received given weaker) before := by
  have returned : forall (aside : List Bytes) (after : Engine),
      Booked received given aside { before.gate with enabled := true } after -> Ledger received given weaker after :=
    fun aside after booked => ⟨booked.sameGate ▸ implies,
      ⟨rfl, booked.sameGate ▸ booked.accounts, booked.kept.subset (List.subset_append_right aside _)⟩, ledger.late⟩
  unfold enablePeerEncryption
  rw [ends_bind, ends_modify, ends_bind, ends_get]
  dsimp only
  split
  · rename_i nowhere
    exact returned _ _ (ledger.enable (List.append_nil _).symm (List.findIdx?_eq_none_iff.mp nowhere))
  · rename_i index found
    rw [ends_bind, ends_modify]
    have missed : forall incoming, incoming ∈ before.queueRx.take index ->
        (incoming.records.items.any fun record => record.parsed.record.sequence.epoch == 1) = false := by
      intro incoming isIncoming
      rcases List.findIdx?_eq_some_iff_getElem.mp found with ⟨_, _, earlier⟩
      rcases List.mem_take_iff_getElem.mp isIncoming with ⟨place, isPlace, rfl⟩
      exact Bool.eq_false_of_not_eq_true (earlier place (Nat.lt_of_lt_of_le isPlace (Nat.min_le_left _ _)))
    have enabled := ledger.enable (List.take_append_drop index before.queueRx).symm missed
    have among : forall record, record ∈ ((before.queueRx.drop index).flatMap fun incoming =>
        incoming.records.items.filter fun record => !record.isHandled) ->
          record.buffer ∈ buffersOf (before.queueRx.drop index) := by
      intro record isRecord
      rcases List.mem_flatMap.mp isRecord with ⟨incoming, isIncoming, inside⟩
      exact List.mem_map_of_mem (List.mem_flatMap.mpr ⟨incoming, isIncoming, List.mem_of_mem_filter inside⟩)
    refine (booked_each rfl among _ enabled).mono ?_ ?_
    · exact fun _ => returned _
    · exact fun _ => returned _

end Methods

/-! ## Giving data out -/

section Polls

variable {holds : Gate -> Prop}

/-- The first data that wait are given out. -/
theorem Ledger.take {before : Engine} (ledger : Ledger received given holds before)
    (lawful : forall gate, holds gate -> gate.released = true -> gate.enabled = true)
    (released : before.releaseAppData = true) {record : Record}
    (found : (records before.queueRx).find? isPendingData = some record)
    (plain : record.parsed.handshakes.items = []) :
    exists item : Item, item.record = record.parsed.record ∧
      Ledger received (given ++ [item]) holds
        { before with queueRx := markFirstRecord isPendingData before.queueRx } := by
  rcases ledger.booked.accounts with ⟨waiting, isWaiting, accounted⟩
  rw [pendingData_take found plain] at isWaiting
  rcases List.map_eq_cons_iff.mp isWaiting with ⟨item, rest, rfl, isRecord, isRest⟩
  have moved : given ++ item :: rest = given ++ [item] ++ rest := by rw [List.append_assoc, List.singleton_append]
  rw [moved] at accounted
  refine ⟨item, isRecord, ledger.gate, ⟨rfl, ⟨rest, isRest, accounted⟩, ?_⟩, ?_⟩
  · dsimp only
    rw [buffersOf_markFirstRecord]
    exact ledger.booked.kept
  intro other isOther unopened
  have isAmong : other ∈ given ++ [item] ++ rest := List.mem_append_left _ isOther
  exact (accounted.plain other isAmong unopened).2.1 (lawful _ ledger.gate released)

/-- The data that an output gives out are added to those that were given out. -/
theorem ledger_pollOutput (lawful : forall gate, holds gate -> gate.released = true -> gate.enabled = true)
    (room now : Nat) {before : Engine} (ledger : Ledger received given holds before) :
    (pollOutput room now).Ends
      (fun output after => exists brought, brought.map (fun item => item.record.fragment) = output.data.toList ∧
        Ledger received (given ++ brought) holds after)
      (fun _ => Ledger received given holds) before := by
  have still : forall {output : Output} {after : Engine}, Ledger received given holds after -> output.data = none ->
      exists brought : List Item, brought.map (fun item => item.record.fragment) = output.data.toList ∧
        Ledger received (given ++ brought) holds after := by
    intro output after kept noData
    refine ⟨[], by rw [noData]; rfl, ?_⟩
    rw [List.append_nil]
    exact kept
  unfold pollOutput
  rw [ends_bind, ends_modify, ends_bind]
  have purged : Ledger received given holds before.purgeHandledQueueRx :=
    ⟨ledger.gate, booked_purge ledger.booked, ledger.late⟩
  have data : (pollAppData room).Ends
      (fun found after => exists brought : List Item,
        brought.map (fun item => item.record.fragment) = found.toList ∧ Ledger received (given ++ brought) holds after)
      (fun _ => Ledger received given holds) before.purgeHandledQueueRx := by
    have nothing : exists brought : List Item, brought.map (fun item => item.record.fragment) = [] ∧
        Ledger received (given ++ brought) holds before.purgeHandledQueueRx := @still .closeNotify _ purged rfl
    unfold pollAppData
    rw [ends_bind, ends_get, ends_ite]
    refine ⟨fun _ => nothing, fun released => ?_⟩
    split
    · exact nothing
    · rename_i record found
      rw [ends_ite]
      refine ⟨fun ready => ?_, fun _ => purged⟩
      rcases purged.take lawful (Bool.of_not_eq_false released) found (List.isEmpty_iff.mp ready.1) with
        ⟨item, isRecord, kept⟩
      exact ⟨[item], by rw [List.map_singleton, isRecord]; rfl, kept⟩
  refine data.mono ?_ fun _ _ kept => kept
  rintro found between ⟨brought, isBrought, kept⟩
  cases found with
  | some bytes => exact ⟨brought, isBrought, kept⟩
  | none =>
      cases List.map_eq_nil_iff.mp isBrought
      rw [List.append_nil] at kept
      have packet : Keeps (Ledger received given holds) (pollPacketTx room) := by
        refine keeps_get.bind fun self => ?_
        split
        · exact keeps_pure _
        · refine Keeps.bind (keeps_modify fun engine ledger => ?_) fun _ => (keeps_pure _).ite (keeps_fail _)
          exact ⟨ledger.gate, ledger.booked.same rfl rfl rfl rfl, ledger.late⟩
      dsimp only
      rw [ends_bind]
      refine (packet between kept).mono ?_ fun _ _ kept => kept
      intro found after kept
      cases found with
      | some bytes => exact still kept rfl
      | none =>
          dsimp only
          rw [ends_bind, ends_get, ends_ite]
          refine ⟨fun _ => ?_, fun _ => still kept rfl⟩
          exact still ⟨kept.gate, kept.booked.same rfl rfl rfl rfl, kept.late⟩ rfl

end Polls

end Booked

end Engine

/-! ## Runs -/

namespace Client

open Engine

/-- What the gate is in each state. -/
def GateAt : State -> Gate -> Prop
  | .awaitChangeCipherSpec, gate => gate.released = false
  | .awaitNewSessionTicket, gate | .awaitFinished, gate => gate.enabled = true ∧ gate.released = false
  | .awaitApplicationData, gate => gate.enabled = true
  | .closed, gate => gate.released = true -> gate.enabled = true
  | _, gate => gate.Shut

theorem GateAt.lawful {state : State} {gate : Gate} (gateAt : GateAt state gate) (released : gate.released = true) :
    gate.enabled = true := by
  have contrary : gate.released ≠ false := by
    rw [released]
    exact Bool.true_eq_false.mp
  cases state with
  | awaitChangeCipherSpec => exact absurd gateAt contrary
  | awaitNewSessionTicket => exact gateAt.1
  | awaitFinished => exact gateAt.1
  | awaitApplicationData => exact gateAt
  | closed => exact gateAt released
  | _ => exact absurd (Gate.Shut.silent gateAt) contrary

theorem GateAt.follows {state next : State} {gate : Gate} (gateAt : GateAt state gate) (follows : Follows state next) :
    GateAt next gate := by
  cases follows with
  | sentFinished => exact Gate.Shut.silent gateAt
  | closing => exact fun _ => gateAt
  | _ => exact gateAt

section Runs

variable {config : Config} {auth : AuthMode} {rng : SeededRng} {search : BinarySearch Incoming}
  {received : List Bytes} {given : List Item}

theorem ledger_createClientKeyExchange : Keeps (Ledger received given Gate.Shut) handshakeCreateClientKeyExchange := by
  refine keeps_get.bind fun engine => ?_
  split
  · exact keeps_fail _
  · split
    · split
      · exact keeps_fail _
      · exact ledger_onCryptoContext.bind fun _ => keeps_pure _
    · split
      · exact keeps_fail _
      · split
        · exact keeps_fail _
        · split
          · exact keeps_fail _
          · exact ledger_onCryptoContext.bind fun _ => keeps_pure _
    · exact keeps_fail _

/-- All data are accounted for, and the gate is as the state has it. -/
theorem ledger_walk : EngineWalk search (fun packet => packet ∈ received)
    fun state => Ledger received given (GateAt state) where
  tame := fun _ => ledger_tame
  follows := fun follows ledger => ledger.mono fun _ gateAt => gateAt.follows follows
  closes := fun ledger => ledger.mono fun _ gateAt => gateAt.lawful
  setCipherSuite := ledger_setCipherSuite
  processEcdhParams := fun _ _ _ _ => ledger_onCryptoContext
  clientKeyExchange := ledger_createClientKeyExchange
  deriveKeys := fun _ _ _ _ _ _ _ before ledger _ =>
    (ledger_onCryptoContext.bind fun _ => ledger_onCryptoContext) before ledger
  enablePeerEncryption := by
    intro before ledger
    have enabled : (enablePeerEncryption search).Ends
        (fun _ => Ledger received given fun gate => gate.enabled = true ∧ gate.released = false)
        (fun _ => Ledger received given fun gate => gate.enabled = true ∧ gate.released = false) before :=
      ledger_enablePeerEncryption ledger ⟨rfl, ledger.gate⟩
    exact enabled.mono (fun _ _ kept => kept) fun _ _ kept => kept.mono fun _ => And.right
  releaseApplicationData := by
    intro engine ledger
    rcases ledger.booked.accounts with ⟨waiting, isWaiting, accounted⟩
    refine ⟨ledger.gate.1, ⟨rfl, ⟨waiting, isWaiting, ?_⟩, ledger.booked.kept⟩, ledger.late⟩
    exact ⟨accounted.typed, accounted.distinct, accounted.taken, accounted.opened, accounted.plain, accounted.early⟩

/-- The data among the outputs are those that were given out, which are accounted for. -/
def Recorded (earlier : Traffic) (client : Client) : Prop :=
  exists given : List Item,
    given.map (fun item => item.record.fragment) = earlier.given.filterMap Output.data ∧
      Ledger earlier.received given (GateAt client.state) client.engine

theorem event_data {event : LocalEvent} {room : Nat} {certificates : List Bytes} {output : Output}
    (isOutput : event.intoOutput room certificates = .ok output) : output.data = none := by
  unfold LocalEvent.intoOutput at isOutput
  split at isOutput
  · split at isOutput
    · cases isOutput
    · split at isOutput
      · cases isOutput
        rfl
      · cases isOutput
  · cases isOutput
    rfl
  · cases isOutput
    rfl

theorem filterMap_data_append {outputs : List Output} {output : Output} :
    (outputs ++ [output]).filterMap Output.data = outputs.filterMap Output.data ++ output.data.toList := by
  rw [List.filterMap_append]
  cases isData : output.data <;> simp [isData]

theorem pollOutput_recorded (room : Nat) {earlier : Traffic} {before : Client} (recorded : Recorded earlier before) :
    (pollOutput room).Ends
      (fun output after => Recorded { earlier with given := earlier.given ++ [output] } after)
      (fun _ after => Recorded earlier after) before := by
  rcases recorded with ⟨given, isGiven, ledger⟩
  unfold pollOutput
  rw [ends_bind, ends_get]
  split
  · rename_i event rest _
    rw [ends_bind, ends_modify]
    cases isOutput : event.intoOutput room before.serverCertificates with
    | error fault => exact ⟨given, isGiven, ledger⟩
    | ok output =>
        refine ⟨given, ?_, ledger⟩
        rw [filterMap_data_append, event_data isOutput, Option.toList_none, List.append_nil]
        exact isGiven
  · unfold onEngine
    rw [ends_zoom]
    have lawful : forall gate, GateAt before.state gate -> gate.released = true -> gate.enabled = true :=
      fun _ gateAt => gateAt.lawful
    refine (ledger_pollOutput lawful room before.lastNow ledger).mono ?_ ?_
    · rintro output after ⟨brought, isBrought, kept⟩
      refine ⟨given ++ brought, ?_, kept⟩
      rw [filterMap_data_append, List.map_append, isGiven, isBrought]
    · exact fun _ after kept => ⟨given, isGiven, kept⟩

theorem recorded_new (now : Nat) : Recorded ⟨[], []⟩ (new config auth rng now) := by
  refine ⟨[], rfl, ⟨rfl, rfl⟩, ⟨rfl, ⟨[], rfl, ?_⟩, fun buffer contrary => by cases contrary⟩,
    fun item contrary => by cases contrary⟩
  refine ⟨?_, List.nodup_nil, ⟨[], ReplayWindow.took_new, ?_⟩, ?_, ?_, ?_⟩
  all_goals
    intros
    contradiction

theorem recorded_run {run : Client × Traffic}
    (reachable : ((system search config auth rng).remember (traffic search)).Reachable run) :
    Recorded run.2 run.1 := by
  refine run_invariant_of_polls Recorded recorded_new ?_ ?_ ?_ reachable
  · rintro earlier packet client ⟨given, isGiven, ledger⟩
    exact ⟨given, isGiven, ledger.receive packet⟩
  · rintro earlier request silent among before ⟨given, isGiven, ledger⟩
    refine (ledger_walk.toWalk.call silent among before ledger).mono ?_ ?_
    · exact fun _ _ kept => ⟨given, isGiven, kept⟩
    · exact fun _ _ kept => ⟨given, isGiven, kept⟩
  · exact fun _ room _ recorded => pollOutput_recorded room recorded

/-- Data that can be accounted for: they were decrypted under the keys of the server from a record in some
datagram, or they came as they are in a record of an epoch above 1. -/
structure AccountedFor (received : List Bytes) (keying : Keying) (item : Item) : Prop where
  typed : item.record.contentType = .applicationData
  opened : item.opened = true -> Opened received keying item.record
  plain : item.opened = false -> 1 < item.record.sequence.epoch ∧ Came received item.record

theorem Recorded.accounts {earlier : Traffic} {client : Client} (recorded : Recorded earlier client) :
    exists items : List Item,
      earlier.given.filterMap Output.data = items.map (fun item => item.record.fragment) ∧
        ((items.filter Item.opened).map fun item => item.record.sequence.sequenceNumber).Nodup ∧
        forall item, item ∈ items -> AccountedFor earlier.received client.engine.keying item := by
  rcases recorded with ⟨given, isGiven, ledger⟩
  rcases ledger.booked.accounts with ⟨waiting, _, accounted⟩
  have account := accounted.sublist (List.sublist_append_left given waiting)
  refine ⟨given, isGiven.symm, ?_, fun item isItem => ⟨account.typed item isItem, account.opened item isItem, ?_⟩⟩
  · have distinct : (((given.filter Item.opened).map fun item => item.record.sequence.sequenceNumber).map
        UInt64.ofNat).Nodup := by
      rw [List.map_map]
      exact account.distinct
    exact distinct.of_map _
  · intro unopened
    rcases account.plain item isItem unopened with ⟨notZero, _, came⟩
    have notOne := ledger.late item isItem unopened
    refine ⟨?_, came⟩
    have small : item.record.sequence.epoch.toNat ≠ 0 := fun zero => notZero (UInt16.toNat_inj.mp zero)
    have other : item.record.sequence.epoch.toNat ≠ 1 := fun one => notOne (UInt16.toNat_inj.mp one)
    rw [UInt16.lt_iff_toNat_lt]
    show 1 < item.record.sequence.epoch.toNat
    omega

/-- Whatever the network and the user do, all data that a client gives out are accounted for.  Those
that were decrypted were so under the keys of the server, each from a record that came in some datagram
and has its header, and no number serves twice.  The others came in some datagram as they are, in a
record of an epoch above 1. -/
theorem client_gives_accounted_data {run : Client × Traffic}
    (reachable : ((system search config auth rng).remember (traffic search)).Reachable run) :
    exists items : List Item,
      run.2.given.filterMap Output.data = items.map (fun item => item.record.fragment) ∧
        ((items.filter Item.opened).map fun item => item.record.sequence.sequenceNumber).Nodup ∧
        forall item, item ∈ items -> AccountedFor run.2.received run.1.engine.keying item :=
  (recorded_run reachable).accounts

/-- The data of the sample session. -/
theorem session_gives_accounted_data :
    exists item : Item, item.record.fragment = [7, 8] ∧
      AccountedFor (Sample.session 11).2.received (Sample.session 11).1.engine.keying item := by
  rcases client_gives_accounted_data (Sample.session_reachable 11) with ⟨items, isGiven, _, accounted⟩
  have isData : (Sample.session 11).2.given.filterMap Output.data = [[7, 8]] := by decide +kernel
  rcases List.map_eq_singleton_iff.mp (isGiven.symm.trans isData) with ⟨item, rfl, isFragment⟩
  exact ⟨item, isFragment, accounted item List.mem_cons_self⟩

end Runs

end Client

end Dtls
end P2pSdk
