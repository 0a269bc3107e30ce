import P2pSdk.Dtls.Sending
import P2pSdk.Dtls.ClientRun

namespace P2pSdk
namespace Dtls

open Foundation Parser Effect

/-!
# A handshake message from one engine to the other

`create_handshake` cuts a message where its datagrams end, and `next_handshake`
merges what lies in the receive queue.  A `Tiling` is what the two agree on:
fragments that follow on each other up to the end of the message.  The sender
makes a tiling, whatever its queue and its limits are, and a receiver that has
the fragments of a tiling takes the message out as it was sent.  Both append
the same bytes to their transcripts.
-/

namespace Header

/-- The header of a whole message. -/
def whole (msgType : MessageType) (messageSeq : UInt16) (body : Bytes) : Header where
  msgType := msgType
  length := body.length
  messageSeq := messageSeq
  fragmentOffset := 0
  fragmentLength := body.length

/-- A part of the message under its own header. -/
def fragment (self : Header) (body : Bytes) (offset count : Nat) : Handshake where
  header := { self with fragmentOffset := offset, fragmentLength := count }
  body := .fragment ((body.drop offset).take count)
  handled := false

theorem serialize_length (self : Header) : self.serialize.length = headerLen := by
  unfold serialize Coding.bytes8
  simp only [List.length_append, List.length_singleton, beBytes_length]
  rfl

end Header

/-! ## Fragments that follow on each other -/

/-- The fragments of a message from an offset on, up to its end. -/
inductive Tiling (header : Header) (body : Bytes) : Nat -> List Handshake -> Prop
  | last {offset : Nat} (within : offset ≤ body.length) :
      Tiling header body offset [header.fragment body offset (body.length - offset)]
  | next {offset count : Nat} {fragments : List Handshake} (within : offset + count < body.length)
      (rest : Tiling header body (offset + count) fragments) :
      Tiling header body offset (header.fragment body offset count :: fragments)

namespace Tiling

variable {header : Header} {body : Bytes} {offset : Nat} {fragments : List Handshake}

theorem exists_fragment (tiling : Tiling header body offset fragments) {fragment : Handshake}
    (isFragment : fragment ∈ fragments) :
    exists start count, start + count ≤ body.length ∧ fragment = header.fragment body start count := by
  induction tiling with
  | @last offset within =>
      cases List.mem_singleton.mp isFragment
      exact ⟨offset, body.length - offset, by omega, rfl⟩
  | @next offset count fragments within _ ih =>
      rcases List.mem_cons.mp isFragment with rfl | later
      · exact ⟨offset, count, Nat.le_of_lt within, rfl⟩
      · exact ih later

/-- The first fragment starts at the offset. -/
theorem exists_cons (tiling : Tiling header body offset fragments) :
    exists count rest, fragments = header.fragment body offset count :: rest := by
  cases tiling with
  | last within => exact ⟨_, _, rfl⟩
  | next within rest => exact ⟨_, _, rfl⟩

theorem msgType (tiling : Tiling header body offset fragments) {fragment : Handshake}
    (isFragment : fragment ∈ fragments) : fragment.header.msgType = header.msgType := by
  rcases tiling.exists_fragment isFragment with ⟨start, count, _, rfl⟩
  rfl

theorem unhandled (tiling : Tiling header body offset fragments) {fragment : Handshake}
    (isFragment : fragment ∈ fragments) : fragment.handled = false := by
  rcases tiling.exists_fragment isFragment with ⟨start, count, _, rfl⟩
  rfl

/-- Each fragment is what the parser reads from it. -/
theorem parse_fragment (tiling : Tiling header body offset fragments)
    (canonical : MessageType.coding.Canonical header.msgType) (length : header.length = body.length)
    (short : body.length < 256 ^ 3) (cipherSuite : Option Dtls12CipherSuite) {fragment : Handshake}
    (isFragment : fragment ∈ fragments) (rest : Bytes) :
    Handshake.parse cipherSuite true (fragment.serialize ++ rest) = .ok (fragment, rest) := by
  rcases tiling.exists_fragment isFragment with ⟨start, count, within, rfl⟩
  refine Handshake.parse_fragment_eq_ok.mpr ⟨⟨(body.drop start).take count, ?_⟩, rfl⟩
  refine ⟨canonical, length ▸ short, ?_, ?_, ?_, rfl, rfl⟩
  · exact Nat.lt_of_le_of_lt (Nat.le_trans (Nat.le_add_right start count) within) short
  · exact Nat.lt_of_le_of_lt (Nat.le_trans (Nat.le_add_left count start) within) short
  · rw [List.length_take, List.length_drop]
    exact Nat.min_eq_left (Nat.le_sub_of_add_le' within)

/-- The bytes of one fragment are parsed to this fragment and nothing else. -/
theorem parseHandshakes_eq (tiling : Tiling header body offset fragments)
    (canonical : MessageType.coding.Canonical header.msgType) (length : header.length = body.length)
    (short : body.length < 256 ^ 3) (cipherSuite : Option Dtls12CipherSuite) {fragment : Handshake}
    (isFragment : fragment ∈ fragments) :
    (parseHandshakes fragment.serialize cipherSuite).items = [fragment] := by
  have reads := tiling.parse_fragment canonical length short cipherSuite isFragment []
  rw [List.append_nil] at reads
  have sized : fragment.serialize.length = fragment.body.serialize.length + 11 + 1 := by
    unfold Handshake.serialize
    rw [List.length_append, Header.serialize_length, Nat.add_comm]
    rfl
  have filled : fragment.serialize.isEmpty = false := by
    rw [List.isEmpty_eq_false_iff, ← List.length_pos_iff, sized]
    exact Nat.succ_pos _
  let alone : ArrayVec Handshake 8 := ⟨[fragment], Nat.le_of_ble_eq_true rfl⟩
  have ends : alone.items = (.empty : ArrayVec Handshake 8).items ++ [fragment] := rfl
  rcases exists_tryPush ends with ⟨acc, pushed, same⟩
  unfold parseHandshakes
  rw [sized, parseHandshakesLoop, filled, if_neg Bool.false_ne_true, reads]
  dsimp only
  rw [pushed]
  dsimp only
  rw [parseHandshakesLoop, if_pos List.isEmpty_nil]
  rw [List.append_nil] at same
  exact same.symm

theorem flatMap_parseHandshakes (tiling : Tiling header body offset fragments)
    (canonical : MessageType.coding.Canonical header.msgType) (length : header.length = body.length)
    (short : body.length < 256 ^ 3) (cipherSuite : Option Dtls12CipherSuite) :
    (fragments.map Handshake.serialize).flatMap (fun bytes => (parseHandshakes bytes cipherSuite).items) =
      fragments := by
  rw [List.flatMap_map]
  have each : forall fragment, fragment ∈ fragments ->
      (parseHandshakes fragment.serialize cipherSuite).items = [fragment] :=
    fun fragment => tiling.parseHandshakes_eq canonical length short cipherSuite
  calc fragments.flatMap (fun fragment => (parseHandshakes fragment.serialize cipherSuite).items)
      = fragments.flatMap (fun fragment => [fragment]) := List.flatMap_congr each
    _ = fragments := List.flatMap_singleton' fragments

/-- The fragments are the rest of the message. -/
theorem joinFragments_eq (tiling : Tiling header body offset fragments) :
    Handshake.joinFragments fragments = .ok (body.drop offset) := by
  induction tiling with
  | @last offset within =>
      show Except.ok ((body.drop offset).take (body.length - offset) ++ []) = _
      rw [List.append_nil, List.take_of_length_le (Nat.le_of_eq List.length_drop)]
  | @next offset count fragments within _ ih =>
      show (Handshake.joinFragments fragments).bind
        (fun rest => Except.ok ((body.drop offset).take count ++ rest)) = _
      rw [ih]
      show Except.ok ((body.drop offset).take count ++ body.drop (offset + count)) = _
      rw [← List.drop_drop, List.take_append_drop]

/-- Behind the fragments of one type the merge stops. -/
theorem mergedFragments_append (tiling : Tiling header body offset fragments) {others : List Handshake}
    (otherType : forall other, other ∈ others.head? -> other.header.msgType ≠ header.msgType) :
    Handshake.mergedFragments (fragments ++ others) = fragments := by
  rcases tiling.exists_cons with ⟨count, rest, rfl⟩
  have same : forall fragment, fragment ∈ rest ->
      decide (fragment.header.msgType = header.msgType) = true :=
    fun fragment isRest => decide_eq_true (tiling.msgType (List.mem_cons_of_mem _ isRest))
  have stops : others.takeWhile (fun other => decide (other.header.msgType = header.msgType)) = [] := by
    cases others with
    | nil => rfl
    | cons other others =>
        exact List.takeWhile_cons_of_neg (by simpa using otherType other rfl)
  show _ :: (rest ++ others).takeWhile (fun other => decide (other.header.msgType = header.msgType)) = _
  rw [List.takeWhile_append_of_pos same, stops, List.append_nil]

/-- The receiver sees that the fragments go to the end of the message. -/
theorem contiguous_append (tiling : Tiling header body offset fragments) (length : header.length = body.length)
    (others : List Handshake) :
    Engine.contiguous header.messageSeq header.length offset (fragments ++ others) = true := by
  have step : forall {offset count : Nat} {later : List Handshake},
      Engine.contiguous header.messageSeq header.length offset (header.fragment body offset count :: later) =
        if offset + count = header.length then true
        else Engine.contiguous header.messageSeq header.length (offset + count) later := by
    intro offset count later
    simp only [Engine.contiguous, Header.fragment, ne_eq, not_true_eq_false, if_false]
    rfl
  induction tiling with
  | last within =>
      rw [List.singleton_append, step, if_pos]
      rw [length, Nat.add_sub_cancel' within]
  | next within _ ih =>
      rw [List.cons_append, step, if_neg (by rw [length]; exact Nat.ne_of_lt within)]
      exact ih

/-- What the merge makes of a message that was cut. -/
theorem defragment_eq (tiling : Tiling header body 0 fragments) (length : header.length = body.length)
    {others : List Handshake}
    (otherType : forall other, other ∈ others.head? -> other.header.msgType ≠ header.msgType)
    (cipherSuite : Option Dtls12CipherSuite) (transcript : Bytes) :
    Handshake.defragment cipherSuite (fragments ++ others) transcript =
      (match Body.parse header.msgType cipherSuite body with
        | .error reason => .error (.ofStop reason)
        | .ok (parsed, behind) =>
            if !behind.isEmpty && header.msgType == .finished then .error (.error .parseIncomplete)
            else .ok { header := header.merged, body := parsed, handled := false },
        transcript ++ (header.merged.serialize ++ body)) := by
  have merged := tiling.mergedFragments_append otherType
  have joined := tiling.joinFragments_eq
  rw [List.drop_zero] at joined
  rcases tiling.exists_cons with ⟨count, rest, rfl⟩
  rw [List.cons_append] at merged ⊢
  unfold Handshake.defragment
  dsimp only
  rw [merged, joined]
  show (if body.length ≠ header.length then _ else _ : Effect Bytes Fault Handshake) transcript = _
  rw [if_neg (not_not.mpr length.symm)]
  show (match Body.parse header.msgType cipherSuite body with
    | .error reason => fail (.ofStop reason)
    | .ok (parsed, behind) =>
        if !behind.isEmpty && header.msgType == .finished then fail (.error .parseIncomplete)
        else pure { header := header.merged, body := parsed, handled := false } :
          Effect Bytes Fault Handshake) (transcript ++ (header.merged.serialize ++ body)) = _
  cases Body.parse header.msgType cipherSuite body with
  | error reason => rfl
  | ok found =>
      dsimp only
      split
      · rfl
      · rfl

end Tiling

namespace Engine

/-! ## Fragments that are sent -/

/-- The rounds that may still send no byte of a message.  Each takes a place of the queue, or
fills an empty datagram at its end. -/
def idleRounds (keying : Keying) (outbox : Outbox) : Nat :=
  keying.config.maxQueueTx - outbox.queueTx.length + if outbox.queueTx.getLast? = some [] then 1 else 0

theorem flatten_appendRecord (queueTx : List Bytes) (append : Bool) (record : Bytes) :
    (appendRecord queueTx append record).flatten = queueTx.flatten ++ record := by
  rcases queueTx.eq_nil_or_concat with rfl | ⟨below, last, rfl⟩
  · cases append with
    | false => simp [appendRecord]
    | true => simp [appendRecord]
  · cases append with
    | false => rw [appendRecord_open, List.flatten_append, List.flatten_singleton]
    | true =>
        rw [List.concat_eq_append, appendRecord_append, List.flatten_append, List.flatten_append,
          List.flatten_singleton, List.flatten_singleton, List.append_assoc]

theorem Outbox.sequenceOf_push (outbox : Outbox) (epoch : UInt16) (append : Bool) (record : DTLSRecord) :
    (outbox.push epoch append record).sequenceOf epoch =
      ⟨(outbox.sequenceOf epoch).epoch, (outbox.sequenceOf epoch).sequenceNumber + 1⟩ := by
  unfold Outbox.push Outbox.sequenceOf
  by_cases isZero : epoch = 0
  · simp only [if_pos isZero]
  · simp only [if_neg isZero]

/-- A record leaves fewer idle rounds, unless it is one that is smaller than a datagram. -/
theorem idleRounds_push {keying : Keying} {outbox : Outbox} {append : Bool} {recordWireLen : Nat}
    (room : Room keying outbox append recordWireLen) (epoch : UInt16) (record : DTLSRecord) :
    idleRounds keying (outbox.push epoch append record) ≤ idleRounds keying outbox ∧
      (keying.config.mtu ≤ recordWireLen ->
        idleRounds keying (outbox.push epoch append record) < idleRounds keying outbox) := by
  have written : record.serialize ≠ [] := by
    rw [← List.length_pos_iff, DTLSRecord.serialize_length]
    exact Nat.lt_of_lt_of_le (by decide) (Nat.le_add_right DTLSRecord.headerLen _)
  unfold idleRounds
  rw [Outbox.push_queueTx]
  rcases outbox.queueTx.eq_nil_or_concat with empty | ⟨below, last, queue⟩
  · cases append with
    | true => simp [Room, empty] at room
    | false =>
        simp only [Room, empty] at room
        rw [empty, appendRecord_open]
        simp [written]
        simp at room
        omega
  · rw [List.concat_eq_append] at queue
    cases append with
    | true =>
        simp only [Room, queue, List.getLast?_concat] at room
        rw [queue, appendRecord_append]
        simp only [List.length_append, List.length_singleton, List.getLast?_concat, Option.some.injEq,
          List.append_eq_nil_iff, written, and_false, if_false]
        refine ⟨Nat.le_add_right _ _, fun large => ?_⟩
        have nothing : last = [] := List.length_eq_zero_iff.mp (by omega)
        rw [if_pos nothing]
        exact Nat.lt_succ_self _
    | false =>
        simp only [Room] at room
        rw [appendRecord_open]
        simp only [List.length_append, List.length_singleton, List.getLast?_concat, Option.some.injEq, written,
          if_false]
        omega

/-- The computation leaves the saved flight as it is. -/
def Unsaved {Value : Type} (action : Action Value) : Prop :=
  forall saved, Keeps (fun engine => engine.flightSavedRecords = saved) action

theorem unsaved_writeNonce (iv : Iv) (sequence : Sequence) : Unsaved (writeNonce iv sequence) := by
  intro saved
  refine keeps_get.bind fun self => ((keeps_ofExcept _).bind fun _ => keeps_pure _).ite ?_
  refine Keeps.ite (Keeps.bind ?_ fun _ => (keeps_ofExcept _).bind fun _ => keeps_pure _) (keeps_fail _)
  exact keeps_get.bind fun self => Keeps.bind (keeps_modify fun _ held => held) fun _ => keeps_pure _

theorem unsaved_writeRecord (contentType : ContentType) (epoch : UInt16) (fragment : Bytes) (append : Bool) :
    Unsaved (writeRecord contentType epoch fragment append) := by
  intro saved
  refine keeps_get.bind fun self => Keeps.bind ((keeps_pure _).ite ?_) fun payload => ?_
  · refine keeps_get.bind fun self => ?_
    split
    · exact keeps_fail _
    · refine (unsaved_writeNonce _ _ saved).bind fun nonce => ?_
      dsimp only
      split
      · exact keeps_fail _
      · exact keeps_pure _
  · refine Keeps.bind (keeps_modify fun engine held => ?_) fun _ => keeps_modify fun _ held => held
    unfold countRecord
    split
    · exact held
    · exact held

/-- The entry of a fragment in the saved flight. -/
def entryOf (epoch : UInt16) (fragment : Handshake) : Entry where
  contentType := .handshake
  epoch := epoch
  fragment := fragment.serialize

/-- The record carries the fragment. -/
structure Carries (keying : Keying) (epoch : UInt16) (fragment : Handshake) (record : DTLSRecord) : Prop where
  contentType : record.contentType = .handshake
  epoch : record.sequence.epoch = 0 <-> epoch = 0
  made : MadeOf keying fragment.serialize record

/-- The numbers of so many records. -/
def numbersFrom (start : Sequence) (count : Nat) : List Sequence :=
  (List.range' start.sequenceNumber count).map fun number => ⟨start.epoch, number⟩

/-- Fragments were sent: each went into a record with the next number, behind what was queued, and
was saved for sending it again. -/
structure Flown (epoch : UInt16) (before after : Engine) (fragments : List Handshake)
    (records : List DTLSRecord) : Prop where
  carried : List.Forall₂ (Carries before.keying epoch) fragments records
  sequences : records.map DTLSRecord.sequence = numbersFrom (before.outbox.sequenceOf epoch) records.length
  queue : after.queueTx.flatten = before.queueTx.flatten ++ records.flatMap DTLSRecord.serialize
  saved : after.flightSavedRecords = before.flightSavedRecords ++ fragments.map (entryOf epoch)

theorem Flown.cons {epoch : UInt16} {before between after : Engine} {fragment : Handshake}
    {record : DTLSRecord} {fragments : List Handshake} {records : List DTLSRecord}
    (first : Flown epoch before between [fragment] [record])
    (keying : between.keying = before.keying)
    (counted : between.outbox.sequenceOf epoch =
      ⟨(before.outbox.sequenceOf epoch).epoch, (before.outbox.sequenceOf epoch).sequenceNumber + 1⟩)
    (rest : Flown epoch between after fragments records) :
    Flown epoch before after (fragment :: fragments) (record :: records) := by
  refine ⟨.cons (List.forall₂_cons.mp first.carried).1 (keying ▸ rest.carried), ?_, ?_, ?_⟩
  · have here := List.singleton_inj.mp first.sequences
    rw [List.map_cons, rest.sequences, counted, here]
    unfold numbersFrom
    rw [List.length_cons, List.range'_succ, List.map_cons]
  · rw [rest.queue, first.queue, List.append_assoc, ← List.flatMap_append, List.singleton_append]
  · rw [rest.saved, first.saved, List.append_assoc, ← List.map_append, List.singleton_append]

theorem createRecord_saves (epoch : UInt16) (fragment : Handshake) (before : Engine) :
    (createRecord .handshake epoch true fragment.serialize).Ends
      (fun _ after => after.flightSavedRecords = before.flightSavedRecords ++ [entryOf epoch fragment])
      (fun _ _ => True) before := by
  unfold createRecord
  rw [ends_bind, ends_get, ends_ite]
  refine ⟨fun _ => trivial, fun _ => ?_⟩
  rw [ends_bind, ends_modify]
  dsimp only
  rw [ends_ite]
  refine ⟨fun _ => trivial, fun _ => ?_⟩
  exact (unsaved_writeRecord _ _ _ _ _ _ rfl).mono (fun _ _ kept => kept) fun _ _ _ => trivial

/-- A fragment that is sent on its own. -/
theorem createRecord_flies (epoch : UInt16) (fragment : Handshake) {before : Engine}
    (epochs : before.outbox.Epochs) :
    (createRecord .handshake epoch true fragment.serialize).Ends
      (fun _ after => (exists record, Flown epoch before after [fragment] [record]) ∧
        after.keying = before.keying ∧ after.outbox.Epochs ∧
        after.outbox.sequenceOf epoch =
          ⟨(before.outbox.sequenceOf epoch).epoch, (before.outbox.sequenceOf epoch).sequenceNumber + 1⟩ ∧
        idleRounds after.keying after.outbox ≤ idleRounds before.keying before.outbox ∧
          (before.config.mtu ≤ DTLSRecord.headerLen + fragment.serialize.length +
              (if epoch = 0 then 0 else before.keying.aeadOverhead) ->
            idleRounds after.keying after.outbox < idleRounds before.keying before.outbox))
      (fun _ _ => True) before := by
  have saves := createRecord_saves epoch fragment before
  have beside := sends_createRecord .handshake epoch true fragment.serialize before before ⟨rfl, rfl, rfl⟩
  refine ((createRecord_ends .handshake epoch true fragment.serialize epochs).and (saves.and beside)).mono ?_
    fun _ _ _ => trivial
  rintro _ after ⟨⟨append, record, next, room, pushed⟩, saved, kept⟩
  have isEpoch : record.sequence.epoch = 0 <-> epoch = 0 := next.sequence ▸ epochs.sequenceOf_eq_zero epoch
  have queue : after.queueTx = appendRecord before.queueTx append record.serialize :=
    (congrArg Outbox.queueTx pushed).trans (before.outbox.push_queueTx epoch append record)
  refine ⟨⟨record, .cons ⟨next.contentType, isEpoch, next.made⟩ .nil, ?_, ?_, saved⟩, kept.keying,
    pushed ▸ epochs.push epoch append record, pushed ▸ before.outbox.sequenceOf_push epoch append record, ?_⟩
  · exact congrArg (fun sequence => [sequence]) next.sequence
  · rw [queue, flatten_appendRecord, List.flatMap_singleton]
  · rw [kept.keying, pushed]
    exact idleRounds_push room epoch record

/-- Behind the end of a message there is nothing to send. -/
theorem sendFragments_behind {header : Header} {body : Bytes} (epoch : UInt16) (overhead fuel : Nat)
    {offset : Nat} (some_byte : 0 < body.length) (behind : body.length ≤ offset) :
    sendFragments header body epoch overhead fuel offset = pure () := by
  cases fuel with
  | zero => rfl
  | succ fuel =>
      unfold sendFragments
      rw [if_neg]
      omega

theorem mtu_le_of_roomForBody {self : Engine} {overhead : Nat} (full : self.roomForBody overhead = 0) :
    self.config.mtu ≤ DTLSRecord.headerLen + Header.headerLen + overhead := by
  unfold roomForBody at full
  dsimp only at full
  split at full
  · omega
  · omega

/-- Whatever the queue and the limits are, the fragments that are sent are a tiling. -/
theorem sendFragments_ends {header : Header} {body : Bytes} {epoch : UInt16} {overhead : Nat} (fuel : Nat)
    {offset : Nat} {before : Engine} (epochs : before.outbox.Epochs)
    (isOverhead : overhead = if epoch = 0 then 0 else before.keying.aeadOverhead)
    (here : offset < body.length ∨ (body.length = 0 ∧ offset = 0))
    (enough : body.length - offset + idleRounds before.keying before.outbox < fuel) :
    (sendFragments header body epoch overhead fuel offset).Ends
      (fun _ after => exists fragments records, Tiling header body offset fragments ∧
        Flown epoch before after fragments records)
      (fun _ _ => True) before := by
  -- A round that sends no byte leaves fewer idle rounds, so the rounds suffice.
  induction fuel generalizing offset before with
  | zero => exact absurd enough (Nat.not_lt_zero _)
  | succ fuel ih =>
      unfold sendFragments
      rw [if_pos here, ends_bind, ends_get]
      dsimp only
      generalize isCount : min (body.length - offset) (before.roomForBody overhead) = count
      rw [ends_bind]
      refine (createRecord_flies epoch (header.fragment body offset count) epochs).mono ?_ fun _ _ _ => trivial
      rintro _ between ⟨⟨record, first⟩, keying, epochsAfter, counted, fewer, fewerStill⟩
      by_cases toEnd : count = body.length - offset
      · -- The message ends with this fragment.
        have isLast : Tiling header body offset [header.fragment body offset count] :=
          toEnd ▸ .last (by omega)
        have returns : (if body.length = 0 then pure ()
            else sendFragments header body epoch overhead fuel (offset + count)) = (pure () : Action Unit) := by
          split
          · rfl
          · exact sendFragments_behind epoch overhead fuel (by omega) (by omega)
        rw [returns]
        exact ⟨_, _, isLast, first⟩
      · have within : offset + count < body.length := by omega
        have left : body.length - (offset + count) + idleRounds between.keying between.outbox < fuel := by
          by_cases nothing : count = 0
          · have full : before.roomForBody overhead = 0 := by omega
            have large := mtu_le_of_roomForBody full
            have sized : Header.headerLen ≤ (header.fragment body offset count).serialize.length := by
              unfold Handshake.serialize
              rw [List.length_append, Header.serialize_length]
              exact Nat.le_add_right _ _
            have := fewerStill (by rw [← isOverhead]; omega)
            omega
          · omega
        rw [if_neg (by omega)]
        refine (ih epochsAfter (by rw [keying]; exact isOverhead) (.inl within) left).mono ?_ fun _ _ _ => trivial
        rintro _ after ⟨fragments, records, rest, later⟩
        exact ⟨_, _, .next within rest, first.cons keying counted later⟩

theorem sendHandshake_flies (msgType : MessageType) (body : Bytes) {before : Engine} (epochs : before.outbox.Epochs) :
    (sendHandshake msgType body).Ends
      (fun _ after => after.transcript = before.transcript ++
          ((Header.whole msgType before.nextHandshakeSeqNo body).serialize ++ body) ∧
        exists fragments records,
          Tiling (Header.whole msgType before.nextHandshakeSeqNo body) body 0 fragments ∧
            Flown msgType.epoch before after fragments records)
      (fun _ _ => True) before := by
  let header := Header.whole msgType before.nextHandshakeSeqNo body
  let started : Engine :=
    { before with
      transcript := before.transcript ++ (header.serialize ++ body)
      nextHandshakeSeqNo := before.nextHandshakeSeqNo + 1 }
  unfold sendHandshake
  rw [ends_bind, ends_get]
  dsimp only
  rw [ends_bind, ends_modify, ends_ite]
  refine ⟨fun _ => trivial, fun _ => ?_⟩
  have here : 0 < body.length ∨ (body.length = 0 ∧ 0 = 0) := by omega
  have enough : body.length - 0 + idleRounds started.keying started.outbox <
      body.length + before.config.maxQueueTx + 2 := by
    have few : before.config.maxQueueTx - before.queueTx.length ≤ before.config.maxQueueTx := Nat.sub_le _ _
    show body.length - 0 + (before.config.maxQueueTx - before.queueTx.length + _) < _
    split
    · omega
    · omega
  have flies : (sendFragments header body msgType.epoch _ _ 0).Ends _ _ started :=
    sendFragments_ends (body.length + before.config.maxQueueTx + 2) epochs rfl here enough
  have beside := sends_sendFragments header body msgType.epoch
    (if msgType.epoch = 0 then 0 else started.aeadOverhead) (body.length + before.config.maxQueueTx + 2) 0
    started started ⟨rfl, rfl, rfl⟩
  refine (flies.and beside).mono ?_ fun _ _ _ => trivial
  rintro _ after ⟨⟨fragments, records, tiling, flown⟩, kept⟩
  exact ⟨kept.transcript, fragments, records, tiling, flown.carried, flown.sequences, flown.queue, flown.saved⟩

theorem createHandshake_flies {msgType : MessageType} {fill : Action Bytes} {body : Bytes}
    {before filled after : Engine} (fills : fill before = (.ok body, filled)) (epochs : filled.outbox.Epochs)
    (sent : createHandshake msgType fill before = (.ok (), after)) :
    after.transcript = filled.transcript ++
        ((Header.whole msgType filled.nextHandshakeSeqNo body).serialize ++ body) ∧
      exists fragments records,
        Tiling (Header.whole msgType filled.nextHandshakeSeqNo body) body 0 fragments ∧
          Flown msgType.epoch filled after fragments records := by
  have ran : sendHandshake msgType body filled = (.ok (), after) := by
    rw [← sent]
    exact (bind_of_ok fills _).symm
  exact (sendHandshake_flies msgType body epochs).of_ok ran

/-! ## Fragments that were received -/

/-- The engine waits for a message and has its fragments, each of which came in a record of its
own, in their order.  Behind them may be fragments of another type. -/
structure Awaits (receiver : Engine) (msgType : MessageType) (messageSeq : UInt16)
    (fragments : List Bytes) : Prop where
  expects : receiver.peerHandshakeSeqNo = messageSeq
  came : exists (cipherSuite : Option Dtls12CipherSuite) (front behind : List Record),
    (records receiver.queueRx).dropWhile Record.isHandled = front ++ behind ∧ front.length ≤ maxDefragmentPackets ∧
      pending front = fragments.flatMap (fun bytes => (parseHandshakes bytes cipherSuite).items) ∧
      forall other, other ∈ (handshakes behind).head? -> other.header.msgType ≠ msgType

theorem pending_append {front : List Record} {first : Handshake} {rest : List Handshake}
    (starts : pending front = first :: rest) (behind : List Record) :
    pending (front ++ behind) = pending front ++ handshakes behind := by
  unfold pending handshakes at *
  rw [List.flatMap_append, List.dropWhile_append, starts]
  rfl

/-- The message is taken out whole.  That it is not returned is the fault of its body. -/
theorem nextHandshake_of_awaits {receiver : Engine} {header : Header} {body : Bytes} {fragments : List Handshake}
    (tiling : Tiling header body 0 fragments) (canonical : MessageType.coding.Canonical header.msgType)
    (length : header.length = body.length) (short : body.length < 256 ^ 3)
    (awaits : receiver.Awaits header.msgType header.messageSeq (fragments.map Handshake.serialize)) :
    (nextHandshake header.msgType).Ends
      (fun found after => after.transcript = receiver.transcript ++ (header.merged.serialize ++ body) ∧
        exists parsed behind, Body.parse header.msgType receiver.cipherSuite body = .ok (parsed, behind) ∧
          found = some { header := header.merged, body := parsed, handled := false })
      (fun _ after => after.transcript = receiver.transcript ++ (header.merged.serialize ++ body) ∧
        forall parsed, Body.parse header.msgType receiver.cipherSuite body ≠ .ok (parsed, [])) receiver := by
  rcases awaits.came with ⟨cipherSuite, front, behind, queue, few, came, otherType⟩
  rw [tiling.flatMap_parseHandshakes canonical length short] at came
  have starts := came
  rcases tiling.exists_cons with ⟨count, rest, isFragments⟩
  rw [isFragments] at starts
  have waiting : forall later, pending (front ++ later) = fragments ++ handshakes later := fun later => by
    rw [pending_append starts, came]
  have complete : receiver.hasCompleteHandshake header.msgType = true := by
    unfold hasCompleteHandshake
    dsimp only
    rw [queue, List.take_append, List.take_of_length_le few, waiting, isFragments, List.cons_append]
    dsimp only [Header.fragment]
    rw [if_neg (not_not.mpr awaits.expects.symm), if_neg (not_not.mpr rfl)]
    have contiguous := tiling.contiguous_append length
      (handshakes (behind.take (maxDefragmentPackets - front.length)))
    rw [isFragments, List.cons_append] at contiguous
    exact contiguous
  unfold nextHandshake
  rw [ends_bind, ends_get, ends_ite]
  refine ⟨fun contrary => absurd (complete.symm.trans contrary) (by decide), fun _ => ?_⟩
  rw [queue, waiting, ends_bind, ends_modify, ends_bind, ends_zoom]
  dsimp only
  unfold Ends
  rw [tiling.defragment_eq length otherType]
  cases found : Body.parse header.msgType receiver.cipherSuite body with
  | error reason => exact ⟨rfl, fun _ contrary => by cases contrary⟩
  | ok result =>
      rcases result with ⟨parsed, behind⟩
      dsimp only
      by_cases overlong : (!behind.isEmpty && header.msgType == .finished) = true
      · rw [if_pos overlong]
        refine ⟨rfl, ?_⟩
        rintro _ contrary
        cases contrary
        cases overlong
      · rw [if_neg overlong]
        exact ⟨rfl, parsed, behind, rfl, rfl⟩

/-- A message as one fragment. -/
def wholeMessage (msgType : MessageType) (messageSeq : UInt16) (body : Bytes) : Handshake where
  header := Header.whole msgType messageSeq body
  body := .fragment body
  handled := false

/-- The engine takes the message out and appends it to its transcript.  It returns what the bytes
are read as. -/
structure Takes (receiver : Engine) (msgType : MessageType) (messageSeq : UInt16) (body : Bytes) : Prop where
  transcript : (nextHandshake msgType receiver).2.transcript =
    receiver.transcript ++ (wholeMessage msgType messageSeq body).serialize
  returns : forall parsed, Body.parse msgType receiver.cipherSuite body = .ok (parsed, []) ->
    (nextHandshake msgType receiver).1 = .ok (some { wholeMessage msgType messageSeq body with body := parsed })

theorem takes_of_awaits {receiver : Engine} {msgType : MessageType} {messageSeq : UInt16} {body : Bytes}
    {fragments : List Handshake} (tiling : Tiling (Header.whole msgType messageSeq body) body 0 fragments)
    (canonical : MessageType.coding.Canonical msgType) (short : body.length < 256 ^ 3)
    (awaits : receiver.Awaits msgType messageSeq (fragments.map Handshake.serialize)) :
    receiver.Takes msgType messageSeq body := by
  have ends := nextHandshake_of_awaits tiling canonical rfl short awaits
  unfold Ends at ends
  dsimp only [Header.whole] at ends
  rcases ran : nextHandshake msgType receiver with ⟨outcome, last⟩
  rw [ran] at ends
  cases outcome with
  | error fault =>
      rcases ends with ⟨same, unread⟩
      exact ⟨(congrArg (fun run => run.2.transcript) ran).trans same,
        fun parsed found => absurd found (unread parsed)⟩
  | ok found =>
      rcases ends with ⟨same, parsed, behind, isParsed, rfl⟩
      refine ⟨(congrArg (fun run => run.2.transcript) ran).trans same, fun parsed' isParsed' => ?_⟩
      cases isParsed.symm.trans isParsed'
      exact congrArg Prod.fst ran

/-- A message that is sent and the same message where it is received.  The datagrams that are
queued end with records that carry its fragments, which are also saved for sending them again.
An engine that waits for it and has these fragments appends to its transcript what the sender
appended to its own, and returns the message that the bytes are read as. -/
theorem message_sent_is_received {msgType : MessageType} {fill : Action Bytes} {body : Bytes}
    {before filled after : Engine} (canonical : MessageType.coding.Canonical msgType)
    (short : body.length < 256 ^ 3) (fills : fill before = (.ok body, filled)) (epochs : filled.outbox.Epochs)
    (sent : createHandshake msgType fill before = (.ok (), after)) :
    after.transcript = filled.transcript ++ (wholeMessage msgType filled.nextHandshakeSeqNo body).serialize ∧
      exists fragments records, Flown msgType.epoch filled after fragments records ∧
        forall receiver : Engine,
          receiver.Awaits msgType filled.nextHandshakeSeqNo (fragments.map Handshake.serialize) ->
          receiver.Takes msgType filled.nextHandshakeSeqNo body := by
  rcases createHandshake_flies fills epochs sent with ⟨transcript, fragments, records, tiling, flown⟩
  exact ⟨transcript, fragments, records, flown, fun _ awaits => takes_of_awaits tiling canonical short awaits⟩

/-- Datagrams that arrive one after the other. -/
def receiveAll (search : BinarySearch Incoming) (packets : List Bytes) (self : Engine) : Engine :=
  packets.foldl (fun engine packet => (parsePacket search packet engine).2) self

namespace Sample

/-- An engine whose datagrams are small. -/
def narrow : Engine :=
  (Client.new { Client.Sample.config with mtu := 64, mtuLarge := Nat.le_refl 64 } Client.Sample.auth
    Client.Sample.rng 0).engine

def cookie : Bytes := List.replicate 47 9

/-- A request with a cookie that does not fit into one datagram. -/
def request : Bytes := [254, 253, 47] ++ cookie

def sender : Engine := (createHandshake .helloVerifyRequest (pure request) narrow).2

def receiver : Engine := receiveAll .linear sender.queueTx narrow

end Sample

theorem cookie_sent_is_received :
    Sample.sender.queueTx.length = 2 ∧
      (nextHandshake .helloVerifyRequest Sample.receiver).2.transcript = Sample.sender.transcript ∧
      (nextHandshake .helloVerifyRequest Sample.receiver).1 =
        .ok (some
          { wholeMessage .helloVerifyRequest 0 Sample.request with
            body := .helloVerifyRequest ⟨.dtls1_2, ⟨Sample.cookie, Nat.le_of_ble_eq_true rfl⟩⟩ }) := by
  have sent : createHandshake .helloVerifyRequest (pure Sample.request) Sample.narrow = (.ok (), Sample.sender) :=
    Prod.ext (by decide +kernel) rfl
  rcases @message_sent_is_received .helloVerifyRequest (pure Sample.request) Sample.request Sample.narrow
      Sample.narrow Sample.sender rfl (by decide) rfl ⟨rfl, rfl⟩ sent with
    ⟨transcript, fragments, records, flown, received⟩
  have same : fragments.map Handshake.serialize = Sample.sender.flightSavedRecords.map Entry.fragment := by
    rw [flown.saved, List.map_append, List.map_map]
    rfl
  have awaits : Sample.receiver.Awaits .helloVerifyRequest 0 (fragments.map Handshake.serialize) := by
    rw [same]
    refine ⟨rfl, none, _, [], (List.append_nil _).symm, ?_, ?_, ?_⟩
    · decide +kernel
    · decide +kernel
    · exact fun _ contrary => absurd contrary (by simp [handshakes])
  have takes := received Sample.receiver awaits
  refine ⟨by decide +kernel, takes.transcript.trans ?_, takes.returns _ ?_⟩
  · decide +kernel
  · decide +kernel

end Engine

end Dtls
end P2pSdk
