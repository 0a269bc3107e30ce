import P2pSdk.Core.Types
import P2pSdk.Foundation.Utf8

namespace P2pSdk

open Foundation

/-!
# Data frames (`frame.rs`)

A frame is a 16-byte header, its payload length, its type and a sequence id,
followed by the payload.
-/

def TYPE_HEARTBEAT : UInt32 := 0x00000001
def TYPE_DATA : UInt32 := 0x00000002

structure ParsedFrame where
  frameType : UInt32
  seqId : UInt64
  payload : Bytes
  deriving DecidableEq, Repr

/-- Encode a text message into a data frame with a sequence id.  The length
field holds the low 32 bits of the payload length. -/
def encodeDataFrameWithSeq (text : String) (seqId : UInt64) : Bytes :=
  let payload := asBytes text
  beBytes 4 payload.length ++ beBytes 4 TYPE_DATA.toNat ++ beBytes 8 seqId.toNat ++ payload

/-- Encode a text message into a data frame without correlation. -/
def encodeDataFrame (text : String) : Bytes := encodeDataFrameWithSeq text 0

/-- A heartbeat frame with one zero byte as payload. -/
def encodeHeartbeatReply : Bytes :=
  beBytes 4 1 ++ beBytes 4 TYPE_HEARTBEAT.toNat ++ beBytes 8 0 ++ [0x00]

/-- None when the data are too short for the header or the announced payload. -/
def parseFrame (data : Bytes) : Option ParsedFrame :=
  if data.length < 16 then none
  else
    let payloadLen := beNat (data.take 4)
    if data.length < 16 + payloadLen then none
    else
      some
        { frameType := UInt32.ofNat (beNat ((data.drop 4).take 4))
          seqId := UInt64.ofNat (beNat ((data.drop 8).take 8))
          payload := (data.drop 16).take payloadLen }

/-- A frame whose type is the heartbeat. -/
def isHeartbeatFrame (data : Bytes) : Bool :=
  (parseFrame data).any fun parsed => parsed.frameType = TYPE_HEARTBEAT

/-! ## Encoded frames -/

/-- What is read back from a frame.  Of a payload whose length does not fit the
length field, only a part is. -/
theorem parseFrame_encoded_any (payload : Bytes) (frameType : UInt32) (seqId : UInt64)
    (trailing : Bytes) :
    parseFrame (beBytes 4 payload.length ++ (beBytes 4 frameType.toNat ++
      (beBytes 8 seqId.toNat ++ (payload ++ trailing)))) =
      some
        { frameType := frameType
          seqId := seqId
          payload := (payload ++ trailing).take (payload.length % 256 ^ 4) } := by
  have lengthField := beNat_beBytes 4 payload.length
  have shorter := Nat.mod_le payload.length (256 ^ 4)
  have typeField := beNat_beBytes_of_lt (show frameType.toNat < 256 ^ 4 from frameType.toNat_lt)
  have seqField := beNat_beBytes_of_lt (show seqId.toNat < 256 ^ 8 from seqId.toNat_lt)
  have firstLength := beBytes_length 4 payload.length
  have secondLength := beBytes_length 4 frameType.toNat
  have thirdLength := beBytes_length 8 seqId.toNat
  generalize beBytes 4 payload.length = first at lengthField firstLength ⊢
  generalize beBytes 4 frameType.toNat = second at typeField secondLength ⊢
  generalize beBytes 8 seqId.toNat = third at seqField thirdLength ⊢
  have whole : (first ++ (second ++ (third ++ (payload ++ trailing)))).length =
      16 + payload.length + trailing.length := by
    simp only [List.length_append, firstLength, secondLength, thirdLength]
    omega
  have behindFirst : (first ++ (second ++ (third ++ (payload ++ trailing)))).drop 4 =
      second ++ (third ++ (payload ++ trailing)) := List.drop_left' firstLength
  have behindSecond : (first ++ (second ++ (third ++ (payload ++ trailing)))).drop 8 =
      third ++ (payload ++ trailing) := by
    rw [show 8 = 4 + 4 from rfl, ← List.drop_drop, behindFirst, List.drop_left' secondLength]
  have behindThird : (first ++ (second ++ (third ++ (payload ++ trailing)))).drop 16 =
      payload ++ trailing := by
    rw [show 16 = 8 + 8 from rfl, ← List.drop_drop, behindSecond, List.drop_left' thirdLength]
  rw [parseFrame, if_neg (by omega)]
  simp only [List.take_left' firstLength, lengthField]
  rw [if_neg (by omega), behindFirst, behindSecond, behindThird, List.take_left' secondLength,
    List.take_left' thirdLength, typeField, seqField, UInt32.ofNat_toNat, UInt64.ofNat_toNat]

/-- A frame is read back with whatever follows it ignored. -/
theorem parseFrame_encoded {payload : Bytes} (fits : payload.length < 256 ^ 4)
    (frameType : UInt32) (seqId : UInt64) (trailing : Bytes) :
    parseFrame (beBytes 4 payload.length ++ (beBytes 4 frameType.toNat ++
      (beBytes 8 seqId.toNat ++ (payload ++ trailing)))) =
      some { frameType := frameType, seqId := seqId, payload := payload } := by
  rw [parseFrame_encoded_any, Nat.mod_eq_of_lt fits, List.take_left]

/-- A text is read back from its data frame. -/
theorem parseFrame_encodeDataFrameWithSeq {text : String} (fits : (asBytes text).length < 2 ^ 32)
    (seqId : UInt64) :
    parseFrame (encodeDataFrameWithSeq text seqId) =
      some { frameType := TYPE_DATA, seqId := seqId, payload := asBytes text } := by
  have parsed := parseFrame_encoded fits TYPE_DATA seqId []
  simpa only [encodeDataFrameWithSeq, List.append_assoc, List.append_nil] using parsed

/-! ## Frames end where they say -/

namespace ParsedFrame

/-- The 16 bytes in front of the payload. -/
def header (frame : ParsedFrame) : Bytes :=
  beBytes 4 frame.payload.length ++ (beBytes 4 frame.frameType.toNat ++ beBytes 8 frame.seqId.toNat)

/-- The encoding of a frame. -/
def bytes (frame : ParsedFrame) : Bytes := frame.header ++ frame.payload

theorem header_length (frame : ParsedFrame) : frame.header.length = 16 := by
  simp only [header, List.length_append, beBytes_length]

theorem bytes_length (frame : ParsedFrame) : frame.bytes.length = 16 + frame.payload.length := by
  rw [bytes, List.length_append, frame.header_length]

theorem bytes_append (frame : ParsedFrame) (trailing : Bytes) :
    frame.bytes ++ trailing =
      beBytes 4 frame.payload.length ++ (beBytes 4 frame.frameType.toNat ++
        (beBytes 8 frame.seqId.toNat ++ (frame.payload ++ trailing))) := by
  simp only [bytes, header, List.append_assoc]

/-- Whatever follows a frame is left alone. -/
theorem parseFrame_bytes {frame : ParsedFrame} (fits : frame.payload.length < 256 ^ 4)
    (trailing : Bytes) : parseFrame (frame.bytes ++ trailing) = some frame := by
  rw [bytes_append, parseFrame_encoded fits]

/-- A frame that is cut off is not parsed: the bytes that are there announce
more than there is. -/
theorem parseFrame_cut {frame : ParsedFrame} (fits : frame.payload.length < 256 ^ 4) {part : Bytes}
    (isPrefix : part <+: frame.bytes) (isProper : part ≠ frame.bytes) : parseFrame part = none := by
  have shorter : part.length < 16 + frame.payload.length := by
    rw [← frame.bytes_length]
    refine Nat.lt_of_le_of_ne isPrefix.length_le ?_
    intro same
    exact isProper (isPrefix.eq_of_length same)
  by_cases short : part.length < 16
  · rw [parseFrame, if_pos short]
  · have announced : beNat (part.take 4) = frame.payload.length := by
      have firstFour : part.take 4 = beBytes 4 frame.payload.length := by
        rcases isPrefix with ⟨rest, whole⟩
        have enough : 4 ≤ part.length := by omega
        have front : (part ++ rest).take 4 = part.take 4 := List.take_append_of_le_length enough
        rw [← front, whole, ← List.append_nil frame.bytes, frame.bytes_append,
          List.take_left' (beBytes_length 4 _)]
      rw [firstFour, beNat_beBytes_of_lt fits]
    rw [parseFrame, if_neg short]
    dsimp only
    rw [announced, if_pos shorter]

/-- Two frames with the same encoding are the same. -/
theorem bytes_injective {first second : ParsedFrame} (same : first.bytes = second.bytes) :
    first = second := by
  have parts := List.append_inj same (by rw [first.header_length, second.header_length])
  have fields := List.append_inj parts.1 (by rw [beBytes_length, beBytes_length])
  have inner := List.append_inj fields.2 (by rw [beBytes_length, beBytes_length])
  have sameType : first.frameType = second.frameType :=
    UInt32.toNat_inj.mp (beBytes_injective first.frameType.toNat_lt second.frameType.toNat_lt inner.1)
  have sameSeq : first.seqId = second.seqId :=
    UInt64.toNat_inj.mp (beBytes_injective first.seqId.toNat_lt second.seqId.toNat_lt inner.2)
  cases first
  cases second
  cases sameType
  cases sameSeq
  cases parts.2
  rfl

end ParsedFrame

/-- What is parsed stands, in its encoding, at the start of the data. -/
theorem parseFrame_prefix {data : Bytes} {frame : ParsedFrame} (parsed : parseFrame data = some frame) :
    frame.bytes <+: data := by
  rw [parseFrame] at parsed
  rcases Option.ite_none_left_eq_some.mp parsed with ⟨long, parsed⟩
  rcases Option.ite_none_left_eq_some.mp parsed with ⟨complete, isFrame⟩
  cases isFrame
  have lengthField : (data.take 4).length = 4 := by
    rw [List.length_take]
    omega
  have typeField : ((data.drop 4).take 4).length = 4 := by
    rw [List.length_take, List.length_drop]
    omega
  have seqField : ((data.drop 8).take 8).length = 8 := by
    rw [List.length_take, List.length_drop]
    omega
  have payloadField : ((data.drop 16).take (beNat (data.take 4))).length = beNat (data.take 4) := by
    rw [List.length_take, List.length_drop]
    omega
  have typeSmall := beNat_lt ((data.drop 4).take 4)
  rw [typeField] at typeSmall
  have seqSmall := beNat_lt ((data.drop 8).take 8)
  rw [seqField] at seqSmall
  refine ⟨(data.drop 16).drop (beNat (data.take 4)), ?_⟩
  rw [ParsedFrame.bytes_append]
  dsimp only
  rw [payloadField, beBytes_beNat lengthField, UInt32.toNat_ofNat_of_lt' typeSmall,
    beBytes_beNat typeField, UInt64.toNat_ofNat_of_lt' seqSmall, beBytes_beNat seqField,
    List.take_append_drop, show 16 = 8 + 8 from rfl, ← List.drop_drop, List.take_append_drop,
    show 8 = 4 + 4 from rfl, ← List.drop_drop, List.take_append_drop, List.take_append_drop]

/-- A data frame is parsed whatever follows it and never before it is complete,
parsed data begin with the encoding of what is parsed, and different frames are
encoded differently. -/
theorem frames_self_delimiting :
    (forall (text : String) (seqId : UInt64), (asBytes text).length < 2 ^ 32 ->
      (forall trailing, parseFrame (encodeDataFrameWithSeq text seqId ++ trailing) =
        some { frameType := TYPE_DATA, seqId := seqId, payload := asBytes text }) ∧
      forall part, part <+: encodeDataFrameWithSeq text seqId ->
        part ≠ encodeDataFrameWithSeq text seqId -> parseFrame part = none) ∧
    (forall data frame, parseFrame data = some frame -> frame.header ++ frame.payload <+: data) ∧
    forall first second : ParsedFrame,
      first.header ++ first.payload = second.header ++ second.payload -> first = second := by
  refine ⟨?_, fun data frame parsed => parseFrame_prefix parsed,
    fun first second same => ParsedFrame.bytes_injective same⟩
  intro text seqId fits
  have isFrame : encodeDataFrameWithSeq text seqId =
      ParsedFrame.bytes { frameType := TYPE_DATA, seqId := seqId, payload := asBytes text } := by
    simp only [encodeDataFrameWithSeq, ParsedFrame.bytes, ParsedFrame.header, List.append_assoc]
  rw [isFrame]
  exact ⟨fun trailing => ParsedFrame.parseFrame_bytes fits trailing,
    fun part isPrefix isProper => ParsedFrame.parseFrame_cut fits isPrefix isProper⟩

end P2pSdk
