import P2pSdk.Stun.StrayDatagrams
import P2pSdk.Stun.Bounds

namespace P2pSdk

open Foundation

/-!
# Whose answer an outcome is

A late answer to an earlier request can arrive on a session that stays open.
What tells it apart is the transaction id; a response without the magic cookie
is no answer at all.  The success branches of the two parsers look at both.
The error branch of `parse_allocate_response` and the whole of
`create_permission` look at the message type only.
-/

/-- The response carries the magic cookie and the transaction id of the request. -/
structure Answers (response : Bytes) (transactionId : TransactionId) : Prop where
  cookie : readU32 response 4 = .ok STUN_MAGIC_COOKIE
  id : sliceRange response 8 20 = .ok transactionId.bytes

theorem HasHeader.answers {data : Bytes} {msgType : UInt16} {transactionId : TransactionId}
    (header : HasHeader data msgType transactionId) : Answers data transactionId :=
  ⟨header.cookie, header.id⟩

/-- The outcome belongs to the request: the response answers it, or it is
rejected with a parse error. -/
def Belongs {Error Result : Type} (isParseError : Error -> Prop) (response : Bytes)
    (transactionId : TransactionId) (outcome : Checked (Except Error Result)) : Prop :=
  Answers response transactionId ∨ exists error, outcome = .ok (.error error) ∧ isParseError error

/-- The parse errors of the two parsers are those that no server reports. -/
def StunError.IsParseError (error : StunError) : Prop := error.fromServer = false

/-! ## The parsers -/

theorem bindingResponse_belongs (response : Bytes) (transactionId : TransactionId) :
    Belongs StunError.IsParseError response transactionId
      (parseBindingResponse response transactionId) := by
  by_cases accepted : HasHeader response STUN_BINDING_SUCCESS transactionId
  · exact Or.inl accepted.answers
  · exact Or.inr (parseBindingResponse_refused accepted)

/-- What the error branch of `parse_allocate_response` returns is a server error. -/
theorem parseAllocateResponse_fromServer {response : Bytes} {transactionId : TransactionId}
    (long : 20 ≤ response.length) (isType : readU16 response 0 = .ok STUN_ALLOCATE_ERROR)
    {outcome : Except StunError TurnResult}
    (returned : parseAllocateResponse response transactionId = .ok outcome) :
    exists error, outcome = .error error ∧ error.fromServer = true := by
  rcases readU16_returns.mpr (show 2 + 2 ≤ response.length by omega) with ⟨claimed, isClaimed⟩
  rw [parseAllocateResponse_error transactionId long isType isClaimed] at returned
  rcases Checked.bind_eq_ok.mp returned with ⟨round, walked, isOutcome⟩
  cases round with
  | next state =>
      cases isOutcome
      exact ⟨_, rfl, rfl⟩
  | done error =>
      cases isOutcome
      refine ⟨error, rfl, ?_⟩
      rcases walk_done walked with ⟨offset, header, state, isRound⟩
      unfold allocateErrorRound at isRound
      split_ifs at isRound
      · rcases Checked.bind_eq_ok.mp isRound with ⟨classByte, _, rest⟩
        rcases Checked.bind_eq_ok.mp rest with ⟨numberByte, _, rest⟩
        dsimp only at rest
        split_ifs at rest
        · rcases Checked.bind_eq_ok.mp rest with ⟨reason, _, isDone⟩
          cases isDone
          rfl
        · cases rest
          rfl
      · cases isRound

theorem allocateResponse_belongs_iff (response : Bytes) (transactionId : TransactionId) :
    Belongs StunError.IsParseError response transactionId
        (parseAllocateResponse response transactionId) <->
      Answers response transactionId ∨
        ¬ (20 ≤ response.length ∧ readU16 response 0 = .ok STUN_ALLOCATE_ERROR) := by
  by_cases answers : Answers response transactionId
  · exact iff_of_true (Or.inl answers) (Or.inl answers)
  constructor
  · rintro (contrary | ⟨error, returned, isParse⟩)
    · exact absurd contrary answers
    · refine Or.inr ?_
      rintro ⟨long, isType⟩
      rcases parseAllocateResponse_fromServer long isType returned with ⟨other, same, fromServer⟩
      cases same
      rw [StunError.IsParseError, fromServer] at isParse
      cases isParse
  · rintro (contrary | noError)
    · exact absurd contrary answers
    · have refused : ¬ HasHeader response STUN_ALLOCATE_SUCCESS transactionId :=
        fun accepted => answers accepted.answers
      exact Or.inr (parseAllocateResponse_refused noError refused)

/-! ## Permissions -/

namespace TurnError

/-- The parse errors of `create_permission`: the response is too short, or its
type is none of the two that answer the request. -/
inductive IsParseError : TurnError -> Prop
  | responseParse (msg : String) : IsParseError (.client (.responseParse msg))
  | unexpectedType (msgType : UInt16) :
      IsParseError (.client (.stunError (TurnSession.unexpectedTypeText msgType)))

/-- The parse errors by their variant alone. -/
def IsResponseParse (error : TurnError) : Prop :=
  exists msg, error = .client (.responseParse msg)

end TurnError

namespace TurnSession

theorem head_append {text : String} {first : Char} (isFirst : text.toList.head? = some first)
    (rest : String) : (text ++ rest).toList.head? = some first := by
  rw [String.toList_append, List.head?_append, isFirst]
  rfl

theorem head_unexpectedTypeText (msgType : UInt16) :
    (unexpectedTypeText msgType).toList.head? = some 'u' :=
  head_append (by decide) (hexPadded 4 msgType.toNat)

theorem head_permissionErrorText (msgType : UInt16) :
    (permissionErrorText msgType).toList.head? = some 'T' :=
  head_append (head_append (by decide) (hexPadded 4 msgType.toNat)) ")"

/-- The text of an ERROR-CODE begins with a digit. -/
theorem head_errorText (code : UInt16) (reason : String) :
    (errorText code reason).toList.head? ≠ some 'u' := by
  have digits : (toString code.toNat).toList = Nat.toDigits 10 code.toNat := by
    rw [Nat.toString_eq_ofList_toDigits, String.toList_ofList]
  intro same
  rw [errorText, String.toList_append, String.toList_append, digits] at same
  cases isDigits : Nat.toDigits 10 code.toNat with
  | nil => exact Nat.toDigits_ne_nil isDigits
  | cons first rest =>
      rw [isDigits] at same
      have isMember : first ∈ Nat.toDigits 10 code.toNat := by
        rw [isDigits]
        exact List.mem_cons_self
      have isDigit := Nat.isDigit_of_mem_toDigits (by decide) (by decide) isMember
      rw [Option.some.inj same] at isDigit
      revert isDigit
      decide

/-- The text that `parse_error_code` returns is that of an ERROR-CODE. -/
theorem parseErrorCode_text {overflowChecks : Bool} {response : Bytes} {text : String}
    (returned : parseErrorCode overflowChecks response = .ok (some text)) :
    exists code reason, text = errorText code reason := by
  unfold parseErrorCode at returned
  split_ifs at returned
  · cases returned
  · rcases Checked.bind_eq_ok.mp returned with ⟨msgLen, _, rest⟩
    rcases Checked.bind_eq_ok.mp rest with ⟨round, walked, isText⟩
    cases round with
    | next state => cases isText
    | done other =>
        cases isText
        rcases walk_done walked with ⟨offset, header, state, isRound⟩
        unfold errorCodeRound at isRound
        split_ifs at isRound
        · rcases Checked.bind_eq_ok.mp isRound with ⟨classByte, _, rest⟩
          rcases Checked.bind_eq_ok.mp rest with ⟨number, _, rest⟩
          rcases Checked.bind_eq_ok.mp rest with ⟨code, _, rest⟩
          rcases Checked.bind_eq_ok.mp rest with ⟨reason, _, isDone⟩
          cases isDone
          exact ⟨code, _, rfl⟩
        · cases isRound

/-- What an error response makes `create_permission` return is no parse error. -/
theorem permissionOutcome_error {overflowChecks : Bool} {response : Bytes}
    (isType : readU16 response 0 = .ok STUN_CREATE_PERMISSION_ERROR) {error : TurnError}
    (returned : permissionOutcome overflowChecks response = .ok (.error error)) :
    ¬ error.IsParseError := by
  have long := readU16_returns.mp ⟨_, isType⟩
  rw [permissionOutcome, if_neg (by omega), isType, Checked.ok_bind, if_neg (by decide),
    if_pos rfl] at returned
  rcases Checked.bind_eq_ok.mp returned with ⟨text, isText, isOutcome⟩
  cases text with
  | none =>
      cases isOutcome
      intro isParse
      generalize isError : permissionErrorText STUN_CREATE_PERMISSION_ERROR = text at isParse
      cases isParse with
      | unexpectedType msgType =>
          have heads := congrArg (fun text => text.toList.head?) isError
          simp only [head_permissionErrorText, head_unexpectedTypeText] at heads
          exact absurd heads (by decide)
  | some text =>
      cases isOutcome
      intro isParse
      rcases parseErrorCode_text isText with ⟨code, reason, isError⟩
      cases isParse with
      | unexpectedType msgType =>
          have heads := congrArg (fun text => text.toList.head?) isError
          simp only [head_unexpectedTypeText] at heads
          exact absurd heads.symm (head_errorText code reason)

/-- The three ways in which `create_permission` ends by the type of the response. -/
theorem permissionOutcome_success {overflowChecks : Bool} {response : Bytes}
    (isType : readU16 response 0 = .ok STUN_CREATE_PERMISSION_SUCCESS) :
    permissionOutcome overflowChecks response = .ok (.ok ()) := by
  have long := readU16_returns.mp ⟨_, isType⟩
  rw [permissionOutcome, if_neg (by omega), isType, Checked.ok_bind, if_pos rfl]
  rfl

theorem permissionOutcome_unexpected {overflowChecks : Bool} {response : Bytes} {msgType : UInt16}
    (isType : readU16 response 0 = .ok msgType) (noSuccess : msgType ≠ STUN_CREATE_PERMISSION_SUCCESS)
    (noError : msgType ≠ STUN_CREATE_PERMISSION_ERROR) :
    permissionOutcome overflowChecks response =
      .ok (.error (.client (.stunError (unexpectedTypeText msgType)))) := by
  have long := readU16_returns.mp ⟨_, isType⟩
  rw [permissionOutcome, if_neg (by omega), isType, Checked.ok_bind, if_neg noSuccess,
    if_neg noError]
  rfl

theorem permissionOutcome_short {overflowChecks : Bool} {response : Bytes}
    (short : response.length < 2) :
    permissionOutcome overflowChecks response =
      .ok (.error (.client (.responseParse "response too short"))) := by
  rw [permissionOutcome, if_pos short]
  rfl

theorem permissionOutcome_belongs_iff (overflowChecks : Bool) (response : Bytes)
    (transactionId : TransactionId) :
    Belongs TurnError.IsParseError response transactionId
        (permissionOutcome overflowChecks response) <->
      Answers response transactionId ∨
        ¬ (readU16 response 0 = .ok STUN_CREATE_PERMISSION_SUCCESS ∨
          readU16 response 0 = .ok STUN_CREATE_PERMISSION_ERROR) := by
  by_cases answers : Answers response transactionId
  · exact iff_of_true (Or.inl answers) (Or.inl answers)
  constructor
  · rintro (contrary | ⟨error, returned, isParse⟩)
    · exact absurd contrary answers
    · refine Or.inr ?_
      rintro (isSuccess | isError)
      · rw [permissionOutcome_success isSuccess] at returned
        cases returned
      · exact permissionOutcome_error isError returned isParse
  · rintro (contrary | otherType)
    · exact absurd contrary answers
    · refine Or.inr ?_
      by_cases short : response.length < 2
      · exact ⟨_, permissionOutcome_short short, .responseParse _⟩
      · rcases readU16_returns.mpr (show 0 + 2 ≤ response.length by omega) with ⟨msgType, isType⟩
        rw [isType, not_or, Except.ok.injEq, Except.ok.injEq] at otherType
        exact ⟨_, permissionOutcome_unexpected isType otherType.1 otherType.2, .unexpectedType _⟩

theorem permissionOutcome_responseParse_iff (overflowChecks : Bool) (response : Bytes)
    (transactionId : TransactionId) :
    Belongs TurnError.IsResponseParse response transactionId
        (permissionOutcome overflowChecks response) <->
      Answers response transactionId ∨ response.length < 2 := by
  by_cases answers : Answers response transactionId
  · exact iff_of_true (Or.inl answers) (Or.inl answers)
  constructor
  · rintro (contrary | ⟨error, returned, msg, isParse⟩)
    · exact absurd contrary answers
    · refine Or.inr ?_
      by_contra notShort
      rcases readU16_returns.mpr (show 0 + 2 ≤ response.length by omega) with ⟨msgType, isType⟩
      subst isParse
      by_cases isSuccess : msgType = STUN_CREATE_PERMISSION_SUCCESS
      · subst isSuccess
        rw [permissionOutcome_success isType] at returned
        cases returned
      by_cases isError : msgType = STUN_CREATE_PERMISSION_ERROR
      · subst isError
        exact permissionOutcome_error isType returned (.responseParse msg)
      · rw [permissionOutcome_unexpected isType isSuccess isError] at returned
        cases returned
  · rintro (contrary | short)
    · exact absurd contrary answers
    · exact Or.inr ⟨_, permissionOutcome_short short, _, rfl⟩

/-- With an open session and somebody to permit, the response that the exchange
returns decides. -/
theorem createPermission_outcome {Session : Type} {dtls : DtlsOps Session} (overflowChecks : Bool)
    {turn : TurnSession Session} {readings : List Nat} {io later : DatagramIo}
    {peers : List String} {transactionId : TransactionId} {req : StunRequest} {session : Session}
    {response : Bytes} (isOpen : turn.closed = false) (somebody : peers ≠ [])
    (built : buildCreatePermissionRequest peers turn.p2pToken transactionId = .ok req)
    (exchanged : dtlsStunExchange dtls readings turn.dtls io req.data =
      some (session, later, .ok response)) :
    (createPermission dtls overflowChecks turn readings io peers transactionId).map
        (fun outcome => outcome.map fun result => result.2.2) =
      some (permissionOutcome overflowChecks response) := by
  unfold createPermission
  rw [isOpen, if_neg Bool.false_ne_true, if_neg somebody, built]
  dsimp only
  rw [exchanged]
  dsimp only
  cases permissionOutcome overflowChecks response with
  | error panic => rfl
  | ok outcome => rfl

end TurnSession

/-! ## All three -/

/-- A Binding outcome always belongs to its request.  An Allocate outcome does
unless the response is an error response that does not answer the request, and
a CreatePermission outcome unless the response is of one of the two types that
answer such a request and does not answer this one.  If an unexpected type does
not count as a parse error, only a response without a type is rejected. -/
theorem outcomes_belong_iff (response : Bytes) (transactionId : TransactionId) :
    Belongs StunError.IsParseError response transactionId
      (parseBindingResponse response transactionId) ∧
    (Belongs StunError.IsParseError response transactionId
        (parseAllocateResponse response transactionId) <->
      Answers response transactionId ∨
        ¬ (20 ≤ response.length ∧ readU16 response 0 = .ok STUN_ALLOCATE_ERROR)) ∧
    forall (Session : Type) (dtls : DtlsOps Session) (overflowChecks : Bool)
      (turn : TurnSession Session) (readings : List Nat) (io later : DatagramIo)
      (peers : List String) (req : StunRequest) (session : Session),
      turn.closed = false -> peers ≠ [] ->
      buildCreatePermissionRequest peers turn.p2pToken transactionId = .ok req ->
      dtlsStunExchange dtls readings turn.dtls io req.data =
        some (session, later, .ok response) ->
      exists outcome,
        (turn.createPermission dtls overflowChecks readings io peers transactionId).map
          (fun outcome => outcome.map fun result => result.2.2) = some outcome ∧
        (Belongs TurnError.IsParseError response transactionId outcome <->
          Answers response transactionId ∨
            ¬ (readU16 response 0 = .ok STUN_CREATE_PERMISSION_SUCCESS ∨
              readU16 response 0 = .ok STUN_CREATE_PERMISSION_ERROR)) ∧
        (Belongs TurnError.IsResponseParse response transactionId outcome <->
          Answers response transactionId ∨ response.length < 2) := by
  refine ⟨bindingResponse_belongs response transactionId,
    allocateResponse_belongs_iff response transactionId, ?_⟩
  intro Session dtls overflowChecks turn readings io later peers req session isOpen somebody built
    exchanged
  exact ⟨_, TurnSession.createPermission_outcome overflowChecks isOpen somebody built exchanged,
    TurnSession.permissionOutcome_belongs_iff overflowChecks response transactionId,
    TurnSession.permissionOutcome_responseParse_iff overflowChecks response transactionId⟩

/-- A session that is open. -/
def openTurn : TurnSession Unit where
  dtls := ()
  turnIp := "192.0.2.1"
  turnPort := 3478
  p2pToken := ""
  relayIp := "192.0.2.1"
  relayPort := 50000
  mappedIp := "198.51.100.7"
  mappedPort := 40000
  closed := false

/-- The transaction id of the request. -/
def zeroId : TransactionId := ⟨zeros 12, zeros_length 12⟩

/-- The request for the peer `1.2.3.4:80`. -/
def permitRequest : StunRequest where
  data := [0, 8, 0, 16, 33, 18, 164, 66, 0, 0, 0, 0, 0, 0, 0, 0, 0, 0, 0, 0, 0, 129, 0, 0,
    0, 18, 0, 8, 0, 1, 33, 66, 32, 16, 167, 70]
  transactionId := zeroId

/-- A success response that answers the request. -/
def permitted : Bytes := [1, 8, 0, 0, 33, 18, 164, 66] ++ zeros 12

theorem permitted_belongs :
    exists outcome,
      (openTurn.createPermission markedOps true [0] (arriving [23 :: permitted]) ["1.2.3.4:80"]
          zeroId).map (fun outcome => outcome.map fun result => result.2.2) = some outcome ∧
        Belongs TurnError.IsParseError permitted zeroId outcome := by
  rcases (outcomes_belong_iff permitted zeroId).2.2 Unit markedOps true openTurn [0]
    (arriving [23 :: permitted])
    { sent := [23 :: permitRequest.data], waits := [STUN_RESPONSE_TIMEOUT_MS], arrivals := [] }
    ["1.2.3.4:80"] permitRequest () rfl (by decide) (by decide +kernel) rfl with
    ⟨outcome, isOutcome, belongs, _⟩
  exact ⟨outcome, isOutcome, belongs.mpr (Or.inl ⟨by decide, by decide⟩)⟩

/-- A late error response to another Allocate request. -/
def lateError : Bytes := [1, 0x13, 0, 0, 33, 18, 164, 66] ++ List.replicate 12 0xff

/-- A late success response to another CreatePermission request. -/
def lateSuccess : Bytes := [1, 8, 0, 0, 33, 18, 164, 66] ++ List.replicate 12 0xff

/-- Both late responses count as answers. -/
theorem late_responses_count :
    parseAllocateResponse lateError zeroId = .ok (.error .allocateErrorUnknown) ∧
    (openTurn.createPermission markedOps true [0] (arriving [23 :: lateSuccess]) ["1.2.3.4:80"]
      zeroId).map (fun outcome => outcome.map fun result => result.2.2) = some (.ok (.ok ())) ∧
    ¬ (forall response transactionId,
      Belongs StunError.IsParseError response transactionId
        (parseAllocateResponse response transactionId)) ∧
    ¬ (forall response transactionId,
      Belongs TurnError.IsParseError response transactionId
        (TurnSession.permissionOutcome true response)) := by
  refine ⟨by decide, by decide +kernel, ?_, ?_⟩
  · intro claim
    rcases (allocateResponse_belongs_iff lateError zeroId).mp (claim lateError zeroId) with
      answers | noError
    · exact absurd answers.id (by decide)
    · exact noError (by decide)
  · intro claim
    rcases (TurnSession.permissionOutcome_belongs_iff true lateSuccess zeroId).mp
      (claim lateSuccess zeroId) with answers | otherType
    · exact absurd answers.id (by decide)
    · exact otherType (by decide)

end P2pSdk
