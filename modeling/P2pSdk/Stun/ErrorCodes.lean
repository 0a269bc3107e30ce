import P2pSdk.Ice.CandidateRoundTrip
import P2pSdk.Ice.ParserReference
import P2pSdk.Stun.ResponseDecoding

namespace P2pSdk

open Foundation

/-!
# Three readings of ERROR-CODE

The value of an ERROR-CODE is two reserved bytes, a class of three bits, a
number below 100, and a reason.  The Allocate parser reads it so.  The ICE
parser takes class and number one byte early; the TURN parser takes the class
from the first byte and a 16-bit number from the third.

The three readings agree on almost nothing: where they do, the class of the
format is zero.
-/

/-! ## The readings -/

/-- Class times 100 and number. -/
def classAndNumber (classByte number : UInt8) : UInt16 :=
  (classByte &&& 0x07).toUInt16 * 100 + number.toUInt16

/-- The code as the format lays it out. -/
def formatErrorCode (value : Bytes) : UInt16 := classAndNumber (value.getD 2 0) (value.getD 3 0)

/-- The code as the ICE parser reads it. -/
def iceErrorCode (value : Bytes) : UInt16 := classAndNumber (value.getD 1 0) (value.getD 2 0)

/-- The code as `parse_error_code` sums it up. -/
def turnErrorCode (overflowChecks : Bool) (value : Bytes) : Checked UInt16 :=
  addU16 overflowChecks ((value.getD 0 0 &&& 0x07).toUInt16 * 100)
    (UInt16.ofNat ((value.getD 2 0).toNat * 256 + (value.getD 3 0).toNat))

theorem classAndNumber_toNat (classByte number : UInt8) :
    (classAndNumber classByte number).toNat = classByte.toNat % 8 * 100 + number.toNat := by
  have := Nat.mod_lt classByte.toNat (show 0 < 8 by omega)
  have := number.toNat_lt
  rw [classAndNumber, UInt16.toNat_add, errorClass_toNat, UInt8.toNat_toUInt16,
    Nat.mod_eq_of_lt (by omega)]

theorem addU16_eq_ok {overflowChecks : Bool} {left right sum : UInt16}
    (added : addU16 overflowChecks left right = .ok sum) :
    sum.toNat = (left.toNat + right.toNat) % 65536 := by
  unfold addU16 at added
  split_ifs at added
  cases added
  rw [UInt16.toNat_add]

/-- The class of the first byte and the number of the last two, up to the wrap. -/
theorem turnErrorCode_toNat {overflowChecks : Bool} {value : Bytes} {code : UInt16}
    (isCode : turnErrorCode overflowChecks value = .ok code) :
    code.toNat = ((value.getD 0 0).toNat % 8 * 100 +
      ((value.getD 2 0).toNat * 256 + (value.getD 3 0).toNat)) % 65536 := by
  have := (value.getD 2 0).toNat_lt
  have := (value.getD 3 0).toNat_lt
  rw [addU16_eq_ok isCode, errorClass_toNat, UInt16.toNat_ofNat',
    Nat.mod_eq_of_lt (show (value.getD 2 0).toNat * 256 + (value.getD 3 0).toNat < 2 ^ 16 by omega)]

/-- A code of the format is a class below 8 with a number of one byte.  The
16-bit sum is that code only where nothing but the number is left of it. -/
theorem turn_sum {errorClass number digits : Nat} (classSmall : errorClass < 8)
    (numberSmall : number < 256) (digitsSmall : digits < 256)
    (same : number % 8 * 100 + digits = (errorClass * 100 + (number * 256 + digits)) % 65536) :
    errorClass = 0 ∧ number = 0 := by
  by_cases wraps : errorClass * 100 + (number * 256 + digits) < 65536
  · rw [Nat.mod_eq_of_lt wraps] at same
    have small : number ≤ 2 := by omega
    rw [Nat.mod_eq_of_lt (show number < 8 by omega)] at same
    omega
  · have large : number = 254 ∨ number = 255 := by omega
    rcases large with isNumber | isNumber
    · subst isNumber
      omega
    · subst isNumber
      omega

/-- When the three readings are one. -/
def ReadingsAgree (value : Bytes) : Prop :=
  (value.getD 0 0).toNat % 8 = 0 ∧ (value.getD 2 0).toNat = 0 ∧
    (value.getD 3 0).toNat = (value.getD 1 0).toNat % 8 * 100

theorem readings_agree_iff (overflowChecks : Bool) (value : Bytes) :
    iceErrorCode value = formatErrorCode value ∧
      turnErrorCode overflowChecks value = .ok (formatErrorCode value) <->
      ReadingsAgree value := by
  have bound0 := (value.getD 0 0).toNat_lt
  have bound1 := (value.getD 1 0).toNat_lt
  have bound2 := (value.getD 2 0).toNat_lt
  have bound3 := (value.getD 3 0).toNat_lt
  constructor
  · rintro ⟨iceAgrees, turnAgrees⟩
    have ice := congrArg UInt16.toNat iceAgrees
    rw [iceErrorCode, formatErrorCode, classAndNumber_toNat, classAndNumber_toNat] at ice
    have turn := turnErrorCode_toNat turnAgrees
    rw [formatErrorCode, classAndNumber_toNat] at turn
    rcases turn_sum (Nat.mod_lt _ (by omega)) bound2 bound3 turn with ⟨class0, number⟩
    rw [number] at ice
    exact ⟨class0, number, by simpa using ice.symm⟩
  · rintro ⟨class0, number, class1⟩
    constructor
    · apply UInt16.toNat_inj.mp
      rw [iceErrorCode, formatErrorCode, classAndNumber_toNat, classAndNumber_toNat]
      omega
    · have left : ((value.getD 0 0 &&& 0x07).toUInt16 * 100).toNat = 0 := by
        rw [errorClass_toNat, class0]
      have right : (UInt16.ofNat ((value.getD 2 0).toNat * 256 + (value.getD 3 0).toNat)).toNat =
          (value.getD 3 0).toNat := by
        rw [number, Nat.zero_mul, Nat.zero_add, UInt16.toNat_ofNat', Nat.mod_eq_of_lt (by omega)]
      have returns : exists code, turnErrorCode overflowChecks value = .ok code := by
        refine addU16_returns.mpr ?_
        intro _
        rw [left, right]
        omega
      rcases returns with ⟨code, isCode⟩
      have same : code = formatErrorCode value := by
        apply UInt16.toNat_inj.mp
        rw [turnErrorCode_toNat isCode, formatErrorCode, classAndNumber_toNat, class0, number]
        omega
      rw [isCode, same]

/-! ## ICE -/

theorem apply_errorCode (transactionId : TransactionId) (result : ParsedStunMessage)
    {content : UInt16 × Bytes} (other : content.1 ≠ ATTR_ERROR_CODE) :
    (result.apply transactionId content).errorCode = result.errorCode := by
  rcases content with ⟨attrType, value⟩
  unfold ParsedStunMessage.apply
  dsimp only
  split_ifs with _ _ _ _ _ _ isError
  · rfl
  · rfl
  · rfl
  · rfl
  · rfl
  · cases readXorAddress transactionId.bytes value with
    | none => rfl
    | some address => rfl
  · exact absurd isError.1 other
  · rfl

/-- An ERROR-CODE with a full value sets the code. -/
theorem apply_isErrorCode (transactionId : TransactionId) (result : ParsedStunMessage)
    {value : Bytes} (long : 4 ≤ value.length) :
    result.apply transactionId (ATTR_ERROR_CODE, value) =
      { result with errorCode := iceErrorCode value } := by
  have notUsername : ¬ (ATTR_ERROR_CODE = ATTR_USERNAME ∧ value ≠ []) :=
    fun both => absurd both.1 (by decide)
  have notPriority : ¬ (ATTR_ERROR_CODE = ATTR_PRIORITY ∧ 4 ≤ value.length) :=
    fun both => absurd both.1 (by decide)
  have notControlling : ¬ (ATTR_ERROR_CODE = ATTR_ICE_CONTROLLING ∧ 8 ≤ value.length) :=
    fun both => absurd both.1 (by decide)
  have notControlled : ¬ (ATTR_ERROR_CODE = ATTR_ICE_CONTROLLED ∧ 8 ≤ value.length) :=
    fun both => absurd both.1 (by decide)
  rw [ParsedStunMessage.apply, if_neg notUsername, if_neg notPriority, if_neg (by decide), if_neg notControlling,
    if_neg notControlled, if_neg (by decide), if_pos ⟨rfl, long⟩]
  rfl

/-- Attributes of other types leave the code. -/
theorem foldl_errorCode (transactionId : TransactionId) (attrs : List WireAttribute)
    (others : forall attr, attr ∈ attrs -> attr.attrType ≠ ATTR_ERROR_CODE)
    (result : ParsedStunMessage) :
    ((attrs.map WireAttribute.content).foldl (ParsedStunMessage.apply transactionId)
      result).errorCode = result.errorCode := by
  induction attrs generalizing result with
  | nil => rfl
  | cons attr rest ih =>
      rw [List.map_cons, List.foldl_cons,
        ih (fun other isMember => others other (List.mem_cons_of_mem attr isMember)),
        apply_errorCode transactionId result (others attr List.mem_cons_self)]

/-- An error response with one ERROR-CODE among other attributes. -/
structure ErrorAttributes where
  before : List WireAttribute
  errorAttr : WireAttribute
  after : List WireAttribute
  isErrorCode : errorAttr.attrType = ATTR_ERROR_CODE
  long : 4 ≤ errorAttr.value.length
  others : forall attr, attr ∈ before ++ after -> attr.attrType ≠ ATTR_ERROR_CODE
  fits : (serialize (before ++ errorAttr :: after)).length < 65536

namespace ErrorAttributes

variable (attrs : ErrorAttributes) (transactionId : TransactionId)

def all : List WireAttribute := attrs.before ++ attrs.errorAttr :: attrs.after

/-- The value of the ERROR-CODE. -/
def value : Bytes := attrs.errorAttr.value

/-- The error response of a type with these attributes. -/
def message (msgType : UInt16) : Bytes := stunMessage msgType transactionId attrs.all

theorem mem_all {attr : WireAttribute} (isMember : attr ∈ attrs.all) :
    attr = attrs.errorAttr ∨ attr ∈ attrs.before ++ attrs.after :=
  List.mem_cons.mp (List.perm_middle.mem_iff.mp isMember)

/-- What the ICE parser reads. -/
theorem parse_ice :
    exists parsed, parseIceStunMessage (attrs.message transactionId STUN_BINDING_ERROR) =
      .ok parsed ∧ parsed.errorCode = iceErrorCode attrs.value := by
  have parsed := parse_eq_fold STUN_BINDING_ERROR (Or.inr (Or.inr rfl)) transactionId attrs.all
    attrs.fits []
  rw [List.append_nil] at parsed
  refine ⟨_, parsed, ?_⟩
  have othersAfter : forall attr, attr ∈ attrs.after -> attr.attrType ≠ ATTR_ERROR_CODE :=
    fun attr isMember => attrs.others attr (List.mem_append_right attrs.before isMember)
  rw [all, List.map_append, List.map_cons, List.foldl_append, List.foldl_cons,
    foldl_errorCode transactionId attrs.after othersAfter, WireAttribute.content,
    attrs.isErrorCode, apply_isErrorCode transactionId _ attrs.long]
  rfl

end ErrorAttributes

/-! ## Allocate -/

theorem WireAttribute.byteAt_whole {data before after : Bytes} (attr : WireAttribute)
    (whole : data = before ++ (attr.bytes ++ after)) {index : Nat}
    (inside : index < attr.value.length) :
    byteAt data (before.length + 4 + index) = .ok (attr.value.getD index 0) := by
  have within := attr.value_inside
  rw [whole, Nat.add_assoc, byteAt_inside before attr.bytes after (4 + index) (by omega),
    attr.byteAt_value inside]

/-- The rest of a value behind its first four bytes. -/
theorem WireAttribute.sliceRange_reason {data before after : Bytes} (attr : WireAttribute)
    (whole : data = before ++ (attr.bytes ++ after)) (long : 4 ≤ attr.value.length) :
    sliceRange data (before.length + 8) (before.length + 4 + attr.value.length) =
      .ok (attr.value.drop 4) := by
  have within := attr.value_inside
  have slice := attr.sliceAt_value (show 4 + (attr.value.length - 4) ≤ attr.value.length by omega)
  have moved := sliceAt_inside before attr.bytes after (4 + 4) (attr.value.length - 4) (by omega)
  rw [sliceRange, if_pos (by omega), whole,
    show before.length + 4 + attr.value.length - (before.length + 8) = attr.value.length - 4
      by omega, show before.length + 8 = before.length + (4 + 4) from rfl, moved, slice, sliceAt,
    if_pos (by omega), List.take_of_length_le (by rw [List.length_drop])]

theorem WireAttribute.whole_length {data before after : Bytes} (attr : WireAttribute)
    (whole : data = before ++ (attr.bytes ++ after)) :
    before.length + 4 + attr.value.length ≤ data.length := by
  have within := attr.value_inside
  rw [whole, List.length_append, List.length_append]
  omega

namespace ErrorAttributes

variable (attrs : ErrorAttributes) (transactionId : TransactionId)

/-- What the Allocate parser does at an attribute. -/
def allocateEffect (attr : WireAttribute) (_ : Unit) : Checked (Round Unit StunError) :=
  if attr.attrType = ATTR_ERROR_CODE then
    .ok (.done (.allocateError (formatErrorCode attr.value) (fromUtf8Lossy (attr.value.drop 4))))
  else .ok (.next ())

theorem allocateErrorRound_errorCode {data before after : Bytes}
    (whole : data = before ++ (attrs.errorAttr.bytes ++ after)) :
    allocateErrorRound data before.length
      ⟨attrs.errorAttr.attrType, UInt16.ofNat attrs.errorAttr.value.length⟩ () =
      allocateEffect attrs.errorAttr () := by
  have long := attrs.long
  have filled : (4 : UInt16) ≤ UInt16.ofNat attrs.errorAttr.value.length := by
    rw [UInt16.le_iff_toNat_le, WireAttribute.attrLen_toNat]
    exact long
  have classByte := attrs.errorAttr.byteAt_whole whole (show 2 < _ by omega)
  have number := attrs.errorAttr.byteAt_whole whole (show 3 < _ by omega)
  have reason := attrs.errorAttr.sliceRange_reason whole long
  have inside := attrs.errorAttr.whole_length whole
  rw [allocateErrorRound, if_pos ⟨attrs.isErrorCode, filled⟩, allocateEffect,
    if_pos attrs.isErrorCode]
  dsimp only
  rw [classByte, Checked.ok_bind, number, Checked.ok_bind, WireAttribute.attrLen_toNat,
    if_pos inside, reason]
  rfl

/-- What the Allocate parser reads. -/
theorem parse_allocate :
    parseAllocateResponse (attrs.message transactionId STUN_ALLOCATE_ERROR) transactionId =
      .ok (.error (.allocateError (formatErrorCode attrs.value)
        (fromUtf8Lossy (attrs.value.drop 4)))) := by
  have header := stunMessage_hasHeader STUN_ALLOCATE_ERROR transactionId attrs.all
  have skips : forall attr, attr ∈ attrs.before ++ attrs.after ->
      allocateEffect attr () = .ok (.next ()) :=
    fun attr isMember => if_neg (attrs.others attr isMember)
  have walked := walkAttributes_message STUN_ALLOCATE_ERROR transactionId attrs.fits
    (allocateErrorRound _) allocateEffect
    (by
      intro earlier attr later _ isMember whole
      rcases attrs.mem_all isMember with here | isOther
      · subst here
        exact attrs.allocateErrorRound_errorCode whole
      · rw [skips attr isOther, allocateErrorRound,
          if_neg (fun both => attrs.others attr isOther both.1)]
        rfl) ()
  have folded : foldRounds allocateEffect (attrs.before ++ attrs.errorAttr :: attrs.after) () =
      .ok (.done (.allocateError (formatErrorCode attrs.value)
        (fromUtf8Lossy (attrs.value.drop 4)))) := by
    have returns : allocateEffect attrs.errorAttr () =
        .ok (.done (.allocateError (formatErrorCode attrs.value)
          (fromUtf8Lossy (attrs.value.drop 4)))) := if_pos attrs.isErrorCode
    rw [foldRounds_skip (fun attr isBefore => skips attr (List.mem_append_left _ isBefore))]
    exact foldRounds_done returns _
  rw [folded] at walked
  rw [message, parseAllocateResponse_error transactionId header.long header.isType
    (stunMessage_claimed _ _ _), all, walked]
  rfl

/-! ## TURN -/

/-- The third and fourth byte as a 16-bit number. -/
theorem beNat_number {value : Bytes} (long : 4 ≤ value.length) :
    beNat ((value.drop 2).take 2) =
      (value.getD 2 0).toNat * 256 + (value.getD 3 0).toNat := by
  match value, long with
  | _ :: _ :: third :: fourth :: _, _ => simp [beNat]

/-- What `parse_error_code` does at an attribute. -/
def turnEffect (overflowChecks : Bool) (attr : WireAttribute) (_ : Unit) :
    Checked (Round Unit String) :=
  if attr.attrType = ATTR_ERROR_CODE then do
    let code ← turnErrorCode overflowChecks attr.value
    pure (.done (errorText code (fromUtf8Lossy (attr.value.drop 4))))
  else .ok (.next ())

theorem errorCodeRound_errorCode (overflowChecks : Bool) {data before after : Bytes}
    (whole : data = before ++ (attrs.errorAttr.bytes ++ after)) :
    errorCodeRound overflowChecks data before.length
      ⟨attrs.errorAttr.attrType, UInt16.ofNat attrs.errorAttr.value.length⟩ () =
      turnEffect overflowChecks attrs.errorAttr () := by
  have long := attrs.long
  have inside := attrs.errorAttr.whole_length whole
  have classByte := attrs.errorAttr.byteAt_whole whole (show 0 < _ by omega)
  have number : readU16 data (before.length + 6) =
      .ok (UInt16.ofNat ((attrs.errorAttr.value.getD 2 0).toNat * 256 +
        (attrs.errorAttr.value.getD 3 0).toNat)) := by
    have within := attrs.errorAttr.value_inside
    have slice := attrs.errorAttr.sliceAt_value
      (show 2 + 2 ≤ attrs.errorAttr.value.length by omega)
    have moved := sliceAt_inside before attrs.errorAttr.bytes after (4 + 2) 2 (by omega)
    rw [readU16, whole, show before.length + 6 = before.length + (4 + 2) from rfl, moved, slice,
      sliceAt, if_pos (by omega), Checked.ok_bind, beNat_number long]
    rfl
  have reason := attrs.errorAttr.sliceRange_reason whole long
  rw [errorCodeRound, if_pos ⟨attrs.isErrorCode, by omega⟩, turnEffect, if_pos attrs.isErrorCode,
    turnErrorCode]
  rw [Nat.add_zero] at classByte
  have stop : min (before.length + 8 + (attrs.errorAttr.value.length - 4)) data.length =
      before.length + 4 + attrs.errorAttr.value.length := by omega
  simp only [classByte, number, Checked.ok_bind, WireAttribute.attrLen_toNat, stop, reason]

/-- What `parse_error_code` reads. -/
theorem parse_turn (overflowChecks : Bool) :
    parseErrorCode overflowChecks (attrs.message transactionId STUN_CREATE_PERMISSION_ERROR) = (do
      let code ← turnErrorCode overflowChecks attrs.value
      pure (some (errorText code (fromUtf8Lossy (attrs.value.drop 4))))) := by
  have header := stunMessage_hasHeader STUN_CREATE_PERMISSION_ERROR transactionId attrs.all
  have skips : forall attr, attr ∈ attrs.before ++ attrs.after ->
      turnEffect overflowChecks attr () = .ok (.next ()) :=
    fun attr isMember => if_neg (attrs.others attr isMember)
  have walked := walkAttributes_message STUN_CREATE_PERMISSION_ERROR transactionId attrs.fits
    (errorCodeRound overflowChecks _) (turnEffect overflowChecks)
    (by
      intro earlier attr later _ isMember whole
      rcases attrs.mem_all isMember with here | isOther
      · subst here
        exact attrs.errorCodeRound_errorCode overflowChecks whole
      · rw [skips attr isOther, errorCodeRound,
          if_neg (fun both => attrs.others attr isOther both.1)]
        rfl) ()
  rw [foldRounds_skip (fun attr isBefore => skips attr (List.mem_append_left _ isBefore)),
    foldRounds, turnEffect, if_pos attrs.isErrorCode] at walked
  rw [message, parseErrorCode_walked overflowChecks header.long (stunMessage_claimed _ _ _), all,
    walked]
  rw [show attrs.errorAttr.value = attrs.value from rfl]
  cases turnErrorCode overflowChecks attrs.value with
  | error panic => rfl
  | ok code => rfl

/-! ## The three decoders -/

/-- All three decoders obtain this code from the same attributes, each from an
error response of its own kind. -/
structure ReadBy (overflowChecks : Bool) (code : UInt16) : Prop where
  ice : exists parsed, parseIceStunMessage (attrs.message transactionId STUN_BINDING_ERROR) =
    .ok parsed ∧ parsed.errorCode = code
  allocate : exists reason,
    parseAllocateResponse (attrs.message transactionId STUN_ALLOCATE_ERROR) transactionId =
      .ok (.error (.allocateError code reason))
  turn : exists reason,
    parseErrorCode overflowChecks (attrs.message transactionId STUN_CREATE_PERMISSION_ERROR) =
      .ok (some (errorText code reason))

end ErrorAttributes

/-- The number in front of the reason is that of the code. -/
theorem errorText_code {code other : UInt16} {reason otherReason : String}
    (same : errorText code reason = errorText other otherReason) : code = other := by
  have digits : forall (number : UInt16) (text : String),
      (errorText number text).toList.takeWhile Char.isDigit = (toString number.toNat).toList := by
    intro number text
    rw [errorText, String.toList_append, String.toList_append, List.append_assoc,
      List.takeWhile_append_of_pos fun char isMember => mem_decimal isMember,
      show " ".toList ++ text.toList = ' ' :: text.toList from rfl,
      List.takeWhile_cons_of_neg (by decide), List.append_nil]
  have sameDigits := digits code reason
  rw [same, digits other otherReason] at sameDigits
  have read := parseUnsigned_toString code.toNat_lt
  rw [← String.toList_inj.mp sameDigits, parseUnsigned_toString other.toNat_lt] at read
  exact UInt16.toNat_inj.mp (Option.some.inj read).symm

/-- The three decoders obtain the code of the format exactly from values whose
class and number leave nothing to tell apart. -/
theorem errorCodes_read_iff (overflowChecks : Bool) (transactionId : TransactionId)
    (attrs : ErrorAttributes) :
    attrs.ReadBy transactionId overflowChecks (formatErrorCode attrs.value) <->
      ReadingsAgree attrs.value := by
  rw [← readings_agree_iff overflowChecks]
  have turnParsed := attrs.parse_turn transactionId overflowChecks
  constructor
  · rintro ⟨⟨parsed, isParsed, isCode⟩, _, ⟨reason, isText⟩⟩
    constructor
    · rcases attrs.parse_ice transactionId with ⟨other, isOther, otherCode⟩
      have same := isParsed.symm.trans isOther
      cases same
      rw [← otherCode, isCode]
    · rw [turnParsed] at isText
      rcases Checked.bind_eq_ok.mp isText with ⟨code, isSum, returned⟩
      have same := errorText_code (Option.some.inj (Except.ok.inj returned))
      rw [isSum, same]
  · rintro ⟨iceAgrees, turnAgrees⟩
    constructor
    · rw [← iceAgrees]
      exact attrs.parse_ice transactionId
    · exact ⟨_, attrs.parse_allocate transactionId⟩
    · rw [turnParsed, turnAgrees]
      exact ⟨_, rfl⟩

/-- ERROR-CODE 487 without a reason. -/
def roleConflictAttributes : ErrorAttributes where
  before := []
  errorAttr := .zeroPadded ATTR_ERROR_CODE [0x00, 0x00, 0x04, 0x57] (Nat.lt_of_sub_eq_succ rfl)
  after := []
  isErrorCode := rfl
  long := Nat.le_refl 4
  others := fun _ isMember => absurd isMember List.not_mem_nil
  fits := Nat.lt_of_sub_eq_succ rfl

/-- 487 in the layout of the format is read as 487 by the Allocate parser only. -/
theorem role_conflict_misread :
    ¬ forall (overflowChecks : Bool) (transactionId : TransactionId) (attrs : ErrorAttributes),
      attrs.ReadBy transactionId overflowChecks (formatErrorCode attrs.value) := by
  intro claim
  rcases (claim false ⟨zeros 12, zeros_length 12⟩ roleConflictAttributes).ice with
    ⟨parsed, isParsed, isCode⟩
  have misread : (parseIceStunMessage (roleConflictAttributes.message
      ⟨zeros 12, zeros_length 12⟩ STUN_BINDING_ERROR)).toOption.any
      (fun parsed => parsed.errorCode = 4) = true := by
    decide +kernel
  rw [isParsed] at misread
  have isFour : parsed.errorCode = 4 := of_decide_eq_true misread
  rw [isFour] at isCode
  exact absurd isCode (by decide +kernel)

end P2pSdk
