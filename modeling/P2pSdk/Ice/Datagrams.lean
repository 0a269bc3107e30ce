import P2pSdk.Ice.AgentRun

namespace P2pSdk

open Foundation

/-!
# Which datagrams have an effect

A request counts by its USERNAME.  The parser keeps the last complete
USERNAME attribute that is not empty, decoded lossily; the agent turns away
every other text than its own `local:remote`, but lets a request pass whose
username came out empty.

A response counts by its transaction id alone.  A success response is matched
against the pairs, a role conflict against nothing, and the address it came
from is never looked at.
-/

/-! ## The USERNAME attributes of a message -/

/-- An attribute as the walk meets it: where its header stands, and its claimed length. -/
structure RawAttribute where
  attrType : UInt16
  offset : Nat
  len : Nat
  deriving DecidableEq, Repr

/-- The two bytes at an offset, as far as there are any. -/
def u16At (data : Bytes) (offset : Nat) : UInt16 :=
  UInt16.ofNat (beNat ((data.drop offset).take 2))

/-- The attributes that the length fields lay out from an offset on. -/
def attributesFrom (data : Bytes) (stop : Nat) : Nat -> Nat -> List RawAttribute
  | 0, _ => []
  | fuel + 1, offset =>
      if offset + 4 ≤ stop then
        let len := (u16At data (offset + 2)).toNat
        { attrType := u16At data offset, offset := offset, len := len } ::
          attributesFrom data stop fuel (offset + 4 + padTo4 len)
      else []

/-- The attributes of a message. -/
def messageAttributes (data : Bytes) : List RawAttribute :=
  attributesFrom data (min (STUN_HEADER_LEN + (u16At data 2).toNat) data.length) data.length
    STUN_HEADER_LEN

/-- The value of a complete USERNAME attribute that is not empty. -/
def RawAttribute.username (data : Bytes) (attr : RawAttribute) : Option Bytes :=
  if attr.attrType = ATTR_USERNAME ∧ 0 < attr.len ∧ attr.offset + 4 + attr.len ≤ data.length then
    some ((data.drop (attr.offset + 4)).take attr.len)
  else none

/-- The values of the complete USERNAME attributes of a message that are not empty. -/
def usernameValues (data : Bytes) : List Bytes :=
  (messageAttributes data).filterMap (RawAttribute.username data)

theorem readU16_inside {data : Bytes} {offset : Nat} (inside : offset + 2 ≤ data.length) :
    readU16 data offset = .ok (u16At data offset) := by
  unfold readU16 sliceAt
  rw [if_pos inside]
  rfl

/-- What the header of a message decides about its parse result. -/
def ParsedStunMessage.header (parsed : ParsedStunMessage) : Bool × Bool × Bool × Bool × Bytes :=
  (parsed.isStun, parsed.isRequest, parsed.isResponse, parsed.isErrorResponse,
    parsed.transactionId)

/-- What an attribute does to the username: a complete one replaces it. -/
theorem parseAttribute_username {data : Bytes} (attr : RawAttribute)
    {result after : ParsedStunMessage}
    (parsed : parseAttribute data attr.offset attr.attrType attr.len result = .ok after) :
    after.username = ((attr.username data).map fromUtf8Lossy).getD result.username ∧
      after.header = result.header := by
  unfold parseAttribute at parsed
  unfold RawAttribute.username
  by_cases isUsername : attr.attrType = ATTR_USERNAME ∧ 0 < attr.len
  · rw [if_pos isUsername] at parsed
    by_cases inside : attr.offset + 4 + attr.len ≤ data.length
    · rw [if_pos inside] at parsed
      rw [if_pos ⟨isUsername.1, isUsername.2, inside⟩]
      unfold sliceAt at parsed
      rw [if_pos inside] at parsed
      cases parsed
      exact ⟨rfl, rfl⟩
    · rw [if_neg inside] at parsed
      rw [if_neg (fun all => inside all.2.2)]
      cases parsed
      exact ⟨rfl, rfl⟩
  rw [if_neg isUsername] at parsed
  rw [if_neg (fun all => isUsername ⟨all.1, all.2.1⟩)]
  by_cases priority : attr.attrType = ATTR_PRIORITY ∧ 4 ≤ attr.len
  · rw [if_pos priority] at parsed
    rcases Checked.bind_eq_ok.mp parsed with ⟨value, _, rest⟩
    cases rest
    exact ⟨rfl, rfl⟩
  rw [if_neg priority] at parsed
  by_cases useCandidate : attr.attrType = ATTR_USE_CANDIDATE
  · rw [if_pos useCandidate] at parsed
    cases parsed
    exact ⟨rfl, rfl⟩
  rw [if_neg useCandidate] at parsed
  by_cases controlling : attr.attrType = ATTR_ICE_CONTROLLING ∧ 8 ≤ attr.len
  · rw [if_pos controlling] at parsed
    cases parsed
    exact ⟨rfl, rfl⟩
  rw [if_neg controlling] at parsed
  by_cases controlled : attr.attrType = ATTR_ICE_CONTROLLED ∧ 8 ≤ attr.len
  · rw [if_pos controlled] at parsed
    cases parsed
    exact ⟨rfl, rfl⟩
  rw [if_neg controlled] at parsed
  by_cases mapped : attr.attrType = ATTR_XOR_MAPPED_ADDRESS
  · rw [if_pos mapped] at parsed
    rcases Checked.bind_eq_ok.mp parsed with ⟨outcome, _, rest⟩
    cases outcome with
    | ok address =>
        cases rest
        exact ⟨rfl, rfl⟩
    | error codecError =>
        cases rest
        exact ⟨rfl, rfl⟩
  rw [if_neg mapped] at parsed
  by_cases errorCode : attr.attrType = ATTR_ERROR_CODE ∧ 4 ≤ attr.len
  · rw [if_pos errorCode] at parsed
    rcases Checked.bind_eq_ok.mp parsed with ⟨classByte, _, rest⟩
    rcases Checked.bind_eq_ok.mp rest with ⟨number, _, rest⟩
    cases rest
    exact ⟨rfl, rfl⟩
  · rw [if_neg errorCode] at parsed
    cases parsed
    exact ⟨rfl, rfl⟩

/-- The last of the values found, or what was there before. -/
def lastUsername (values : List Bytes) (known : String) : String :=
  (values.getLast?.map fromUtf8Lossy).getD known

theorem lastUsername_cons (value : Bytes) (rest : List Bytes) (known : String) :
    lastUsername (value :: rest) known = lastUsername rest (fromUtf8Lossy value) := by
  unfold lastUsername
  cases rest with
  | nil => rfl
  | cons next later => rw [List.getLast?_cons_cons, List.getLast?_eq_some_getLast (by simp)]; rfl

/-- The walk of the parser and the walk that lists the attributes agree. -/
theorem attributeLoop_username {data : Bytes} {stop : Nat} (inside : stop ≤ data.length)
    (fuel offset : Nat) {result after : ParsedStunMessage}
    (parsed : attributeLoop data stop fuel offset result = .ok after) :
    after.username = lastUsername ((attributesFrom data stop fuel offset).filterMap
      (RawAttribute.username data)) result.username ∧ after.header = result.header := by
  induction fuel generalizing offset result with
  | zero =>
      cases parsed
      exact ⟨rfl, rfl⟩
  | succ fuel ih =>
      unfold attributeLoop at parsed
      unfold attributesFrom
      by_cases room : offset + 4 ≤ stop
      · rw [if_pos room, readU16_inside (by omega), readU16_inside (by omega)] at parsed
        simp only [Checked.ok_bind] at parsed
        rcases Checked.bind_eq_ok.mp parsed with ⟨middle, first, later⟩
        rcases parseAttribute_username
          ⟨u16At data offset, offset, (u16At data (offset + 2)).toNat⟩ first with
          ⟨username, header⟩
        rcases ih _ later with ⟨usernameLater, headerLater⟩
        rw [if_pos room, usernameLater, headerLater, username, header]
        refine ⟨?_, rfl⟩
        rw [List.filterMap_cons]
        cases value : RawAttribute.username data
            ⟨u16At data offset, offset, (u16At data (offset + 2)).toNat⟩ with
        | none => rfl
        | some bytes => exact (lastUsername_cons _ _ _).symm
      · rw [if_neg room] at parsed
        cases parsed
        rw [if_neg room]
        exact ⟨rfl, rfl⟩

/-- The parse of a Binding message: its header is that of a complete STUN
message, and its username is the last one that the message contains. -/
theorem parse_binding {data : Bytes} {parsed : ParsedStunMessage}
    (isParsed : parseIceStunMessage data = .ok parsed)
    (binding : parsed.isRequest = true ∨ parsed.isResponse = true ∨
      parsed.isErrorResponse = true) :
    STUN_HEADER_LEN ≤ data.length ∧ data.getD 0 0 &&& 0xC0 = 0 ∧
      (exists id : TransactionId, parsed.header = (headerResult (u16At data 0) id).header) ∧
      parsed.username = lastUsername (usernameValues data) "" := by
  have notBinding : forall other : ParsedStunMessage, other.isRequest = false ->
      other.isResponse = false -> other.isErrorResponse = false -> other ≠ parsed := by
    intro other request response error same
    subst same
    rw [request, response, error] at binding
    simp at binding
  unfold parseIceStunMessage at isParsed
  by_cases short : data.length < STUN_HEADER_LEN
  · rw [if_pos short] at isParsed
    exact absurd (Except.ok.inj isParsed) (notBinding _ rfl rfl rfl)
  have long : 20 ≤ data.length := Nat.le_of_not_lt short
  rw [if_neg short] at isParsed
  rcases Checked.bind_eq_ok.mp isParsed with ⟨first, isFirst, rest⟩
  have firstByte : data.getD 0 0 = first := by
    unfold byteAt at isFirst
    cases known : data[0]? with
    | none =>
        rw [known] at isFirst
        cases isFirst
    | some byte =>
        rw [known] at isFirst
        cases isFirst
        rw [List.getD_eq_getElem?_getD, known, Option.getD_some]
  by_cases class_ : first &&& 0xC0 ≠ 0
  · rw [if_pos class_] at rest
    exact absurd (Except.ok.inj rest) (notBinding _ rfl rfl rfl)
  rw [if_neg class_, readU16_inside (by omega)] at rest
  simp only [Checked.ok_bind] at rest
  rcases Checked.bind_eq_ok.mp rest with ⟨cookie, _, rest⟩
  by_cases wrong : cookie ≠ STUN_MAGIC_COOKIE
  · rw [if_pos wrong] at rest
    exact absurd (Except.ok.inj rest) (notBinding _ rfl rfl rfl)
  rw [if_neg wrong] at rest
  rcases Checked.bind_eq_ok.mp rest with ⟨idBytes, isId, rest⟩
  refine ⟨long, by rw [firstByte]; exact not_not.mp class_, ?_⟩
  -- The three kinds differ in the flag that they set before the same walk.
  have walk : forall result : ParsedStunMessage, result.username = "" ->
      result.header = (headerResult (u16At data 0) ⟨idBytes, sliceAt_length isId⟩).header ->
      parseAttributes data result = .ok parsed ->
      (exists id : TransactionId, parsed.header = (headerResult (u16At data 0) id).header) ∧
        parsed.username = lastUsername (usernameValues data) "" := by
    intro result empty header walked
    unfold parseAttributes at walked
    rw [readU16_inside (by omega)] at walked
    simp only [Checked.ok_bind] at walked
    rcases attributeLoop_username (Nat.min_le_right _ _) _ _ walked with ⟨username, same⟩
    rw [empty] at username
    exact ⟨⟨_, same.trans header⟩, username⟩
  by_cases request : u16At data 0 = STUN_BINDING_REQUEST
  · rw [if_pos request] at rest
    refine walk _ rfl ?_ rest
    rw [request]
    rfl
  rw [if_neg request] at rest
  by_cases success : u16At data 0 = STUN_BINDING_SUCCESS
  · rw [if_pos success] at rest
    refine walk _ rfl ?_ rest
    rw [success]
    rfl
  rw [if_neg success] at rest
  by_cases error : u16At data 0 = STUN_BINDING_ERROR
  · rw [if_pos error] at rest
    refine walk _ rfl ?_ rest
    rw [error]
    rfl
  rw [if_neg error] at rest
  exact absurd (Except.ok.inj rest) (notBinding _ rfl rfl rfl)

/-- The exact kind of a parsed Binding message. -/
theorem parse_kind {data : Bytes} {parsed : ParsedStunMessage}
    (isParsed : parseIceStunMessage data = .ok parsed)
    (binding : parsed.isRequest = true ∨ parsed.isResponse = true ∨
      parsed.isErrorResponse = true) :
    parsed.isStun = true ∧ (parsed.isRequest = true <-> u16At data 0 = STUN_BINDING_REQUEST) ∧
      (parsed.isResponse = true <-> u16At data 0 = STUN_BINDING_SUCCESS) ∧
      (parsed.isErrorResponse = true <-> u16At data 0 = STUN_BINDING_ERROR) := by
  rcases (parse_binding isParsed binding).2.2.1 with ⟨id, header⟩
  simp only [ParsedStunMessage.header, headerResult, Prod.mk.injEq] at header
  rw [header.1, header.2.1, header.2.2.1, header.2.2.2.1]
  simp

/-- Every parsed request can be answered. -/
theorem respond_parsed {data : Bytes} {parsed : ParsedStunMessage}
    (isParsed : parseIceStunMessage data = .ok parsed) (isRequest : parsed.isRequest = true) :
    exists resp, buildIceBindingResponse data = some resp := by
  rcases parse_binding isParsed (Or.inl isRequest) with ⟨long, classBits, _, _⟩
  have msgType := (parse_kind isParsed (Or.inl isRequest)).2.1.mp isRequest
  unfold u16At at msgType
  rw [List.drop_zero] at msgType
  unfold buildIceBindingResponse
  rw [if_neg (Nat.not_lt.mpr long), if_neg (not_not.mpr classBits), msgType, if_neg (by decide)]
  exact ⟨_, rfl⟩

/-! ## The USERNAME check -/

theorem usernameValues_ne_nil {data value : Bytes} (member : value ∈ usernameValues data) :
    value ≠ [] := by
  rcases List.mem_filterMap.mp member with ⟨attr, _, isValue⟩
  unfold RawAttribute.username at isValue
  split_ifs at isValue with complete
  cases isValue
  intro empty
  have length := congrArg List.length empty
  rw [List.length_take, List.length_drop, List.length_nil] at length
  omega

/-- Hex text contains no colon. -/
theorem colon_not_mem_hexText (bytes : Bytes) : ':' ∉ (hexText bytes).toList := by
  have digit : forall n, n < 16 -> Nat.digitChar n ≠ ':' := by decide
  rw [hexText, String.toList_ofList]
  intro member
  rcases List.mem_flatMap.mp member with ⟨byte, _, inByte⟩
  have small := byte.toNat_lt
  simp only [hexByte, List.mem_cons, List.not_mem_nil, or_false] at inByte
  rcases inByte with high | low
  · exact digit _ (by omega) high.symm
  · exact digit _ (by omega) low.symm

/-- Splitting at the first separator undoes joining with it. -/
theorem splitOnce_join {separator : Char} {first : String} (second : String)
    (absent : separator ∉ first.toList) :
    IceAgent.splitOnce separator (first ++ String.singleton separator ++ second) =
      some (first, second) := by
  have stops : forall char, char ∈ first.toList -> decide (char ≠ separator) = true := by
    intro char member
    rw [decide_eq_true_eq]
    intro same
    rw [same] at member
    exact absent member
  have chars : (first ++ String.singleton separator ++ second).toList =
      first.toList ++ separator :: second.toList := by
    simp
  unfold IceAgent.splitOnce
  rw [chars, List.dropWhile_append_of_pos stops, List.takeWhile_append_of_pos stops,
    List.dropWhile_cons_of_neg (by simp), List.takeWhile_cons_of_neg (by simp), List.append_nil]
  simp only [String.ofList_toList]

theorem splitOnce_some {separator : Char} {text first second : String}
    (split : IceAgent.splitOnce separator text = some (first, second)) :
    text = first ++ String.singleton separator ++ second := by
  unfold IceAgent.splitOnce at split
  have whole := List.takeWhile_append_dropWhile (p := fun char => decide (char ≠ separator))
    (l := text.toList)
  cases rest : text.toList.dropWhile (fun char => decide (char ≠ separator)) with
  | nil =>
      rw [rest] at split
      cases split
  | cons head after =>
      rw [rest] at split whole
      have isSeparator : head = separator := by
        have stopped := List.head_dropWhile_not (fun char => decide (char ≠ separator))
          (l := text.toList) (by rw [rest]; exact List.cons_ne_nil _ _)
        simp only [rest, List.head_cons] at stopped
        simpa using stopped
      rw [isSeparator] at whole
      cases split
      apply String.toList_inj.mp
      simp only [String.toList_append, String.toList_ofList, String.toList_singleton,
        List.append_assoc, List.singleton_append]
      exact whole.symm

namespace IceAgent

/-- A non-empty username is accepted only when it is `local:remote`. -/
theorem acceptsUsername_iff {agent : IceAgent} (noColon : ':' ∉ agent.localUfrag.toList)
    (username : String) :
    agent.acceptsUsername username = true <->
      username = "" ∨ username = agent.localUfrag ++ ":" ++ agent.remoteUfrag := by
  unfold acceptsUsername
  by_cases empty : username = ""
  · rw [if_pos empty]
    exact ⟨fun _ => Or.inl empty, fun _ => rfl⟩
  rw [if_neg empty]
  constructor
  · intro accepted
    cases split : splitOnce ':' username with
    | none =>
        rw [split] at accepted
        cases accepted
    | some parts =>
        rw [split] at accepted
        rcases of_decide_eq_true accepted with ⟨our, their⟩
        have joined := splitOnce_some split
        rw [our, their] at joined
        exact Or.inr joined
  · rintro (isEmpty | isJoined)
    · exact absurd isEmpty empty
    · have split := splitOnce_join agent.remoteUfrag noColon
      rw [show String.singleton ':' = ":" from rfl, ← isJoined] at split
      rw [split]
      simp

end IceAgent

/-! ## Requests with the wrong username -/

namespace AgentRun

variable {crypto : Crypto} {ids : Nat -> TransactionId} {isControlling : Bool} {seed : AgentSeed}

theorem noColon_of_reachable {run : AgentRun}
    (reachable : (agentSystem crypto ids isControlling seed).Reachable run) :
    ':' ∉ run.agent.localUfrag.toList := by
  rw [(identity_of_reachable reachable).1]
  exact colon_not_mem_hexText _

/-- The result of turning a datagram away: nothing changes and nothing is sent. -/
def TurnsAway (agent : IceAgent) (data : Bytes) (source : Address) : Prop :=
  agent.handleIncomingData data source = .ok (agent, { appData := none, actions := [] })

/-- A request is turned away exactly when it has a complete, non-empty
USERNAME and the last one is not read as `local:remote`. -/
theorem turnsAway_iff {run : AgentRun}
    (reachable : (agentSystem crypto ids isControlling seed).Reachable run) {data : Bytes}
    {parsed : ParsedStunMessage} (isParsed : parseIceStunMessage data = .ok parsed)
    (isRequest : parsed.isRequest = true) (source : Address) :
    TurnsAway run.agent data source <->
      exists value, (usernameValues data).getLast? = some value ∧
        fromUtf8Lossy value ≠ run.agent.localUfrag ++ ":" ++ run.agent.remoteUfrag := by
  have username := (parse_binding isParsed (Or.inl isRequest)).2.2.2
  have isStun := (parse_kind isParsed (Or.inl isRequest)).1
  have handled : run.agent.handleIncomingData data source =
      .ok (run.agent.handleIncomingStun data parsed source) := by
    simp [IceAgent.handleIncomingData, isParsed, isStun, isRequest]
  have accepts := IceAgent.acceptsUsername_iff (noColon_of_reachable reachable) parsed.username
  have turned : TurnsAway run.agent data source <->
      run.agent.acceptsUsername parsed.username = false := by
    unfold TurnsAway
    rw [handled, Except.ok.injEq]
    rcases IceAgent.handleIncomingStun_cases run.agent data parsed source with
      ⟨rejected, same⟩ | ⟨_, silent, _⟩ | ⟨resp, accepted, _, same⟩
    · rw [same, rejected]
      exact ⟨fun _ => rfl, fun _ => rfl⟩
    · rcases respond_parsed isParsed isRequest with ⟨resp, answered⟩
      rw [silent] at answered
      cases answered
    · rw [same, accepted]
      constructor
      · intro contrary
        have actions := congrArg (fun outcome => outcome.2.actions) contrary
        cases actions
      · intro contrary
        cases contrary
  rw [turned, ← Bool.not_eq_true, accepts, username]
  cases last : (usernameValues data).getLast? with
  | none =>
      unfold lastUsername
      rw [last]
      simp
  | some value =>
      have nonempty := fromUtf8Lossy_ne_empty
        (usernameValues_ne_nil (List.mem_of_getLast? last))
      unfold lastUsername
      rw [last]
      simp [nonempty]

/-- The message contains a complete USERNAME attribute with this value. -/
def CarriesUsername (data value : Bytes) : Prop :=
  exists attr, attr ∈ messageAttributes data ∧ attr.attrType = ATTR_USERNAME ∧
    attr.offset + 4 + attr.len ≤ data.length ∧ (data.drop (attr.offset + 4)).take attr.len = value

/-- A request with a given username and no other attribute. -/
def usernameRequest (username : String) (fits : (asBytes username).length < 65536) : Bytes :=
  let attr := WireAttribute.zeroPadded ATTR_USERNAME (asBytes username) fits
  stunHeader STUN_BINDING_REQUEST attr.bytes.length (countingIds 0).bytes ++ attr.bytes

/-- A request for somebody else is turned away by a new agent. -/
theorem turnsAway_foreign :
    TurnsAway (new true (uniformSeed 0 0)).agent (usernameRequest "a:b" (by decide))
      peerAddress := by
  have parses : (parseIceStunMessage (usernameRequest "a:b" (by decide))).toOption.any
      (fun parsed => parsed.isRequest) = true := by
    decide +kernel
  have last : (usernameValues (usernameRequest "a:b" (by decide))).getLast? =
      some (asBytes "a:b") := by
    decide +kernel
  rcases Checked.exists_of_any parses with ⟨parsed, isParsed, isRequest⟩
  have reachable : (agentSystem zeroCrypto countingIds true (uniformSeed 0 0)).Reachable
      (new true (uniformSeed 0 0)) := .start rfl
  refine (turnsAway_iff reachable isParsed isRequest peerAddress).mpr
    ⟨asBytes "a:b", last, ?_⟩
  rw [fromUtf8Lossy_asBytes]
  decide +kernel

/-- A request without any USERNAME is answered. -/
theorem answers_without_username :
    ¬ forall (crypto : Crypto) (ids : Nat -> TransactionId) (isControlling : Bool)
      (seed : AgentSeed) (run : AgentRun) (data : Bytes) (parsed : ParsedStunMessage)
      (source : Address), (agentSystem crypto ids isControlling seed).Reachable run ->
      parseIceStunMessage data = .ok parsed -> parsed.isRequest = true ->
      ¬ CarriesUsername data
        (asBytes (run.agent.localUfrag ++ ":" ++ run.agent.remoteUfrag)) ->
      TurnsAway run.agent data source := by
  intro claim
  have parses : (parseIceStunMessage (stunHeader STUN_BINDING_REQUEST 0
      (countingIds 0).bytes)).toOption.any (fun parsed => parsed.isRequest) = true := by
    decide +kernel
  have noAttributes : messageAttributes (stunHeader STUN_BINDING_REQUEST 0
      (countingIds 0).bytes) = [] := by
    decide +kernel
  have answers : ((new true (uniformSeed 0 0)).agent.handleIncomingData
      (stunHeader STUN_BINDING_REQUEST 0 (countingIds 0).bytes) peerAddress).toOption.any
      (fun outcome => outcome.2.actions ≠ []) = true := by
    decide +kernel
  rcases Checked.exists_of_any parses with ⟨parsed, isParsed, isRequest⟩
  have turned := claim zeroCrypto countingIds true (uniformSeed 0 0) _ _ parsed peerAddress
    (.start rfl) isParsed isRequest (by
      rintro ⟨attr, member, _⟩
      rw [noAttributes] at member
      cases member)
  unfold TurnsAway at turned
  rw [turned] at answers
  cases answers

end AgentRun

/-! ## Unsolicited responses -/

namespace IceAgent

/-- No pair has sent its latest request under this transaction id to this address. -/
def Unsolicited (agent : IceAgent) (parsed : ParsedStunMessage) (source : Address) : Prop :=
  ¬ exists pair, pair ∈ agent.checkList ∧ pair.transactionId = parsed.transactionId ∧
    pair.target = source

/-- Handling the datagram leaves the whole agent as it was. -/
def Untouched (agent : IceAgent) (data : Bytes) (source : Address) : Prop :=
  exists result, agent.handleIncomingData data source = .ok (agent, result)

/-- An error response is harmless unless it reports a role conflict.  A success
response is harmless when its transaction id is that of no pair, or of a pair
that has succeeded already, in an agent that is past CONNECTING and has no
nomination to make or to confirm with it. -/
def HarmlessResponse (agent : IceAgent) (parsed : ParsedStunMessage) : Prop :=
  (parsed.isErrorResponse = true -> parsed.errorCode ≠ ICE_ERROR_ROLE_CONFLICT) ∧
  (parsed.isResponse = true -> forall idx pair,
    agent.pairOfTransaction parsed.transactionId = some idx ->
    agent.checkList[idx]? = some pair ->
    pair.state = .succeeded ∧ agent.state ≠ .connecting ∧
      (agent.role = .controlled ∨ agent.nominatedPairConfirmed = true ∨
        exists other, other ≠ idx ∧ agent.nominatedPairIdx = some other))

theorem switched_ne (role : IceRole) : role.switched ≠ role := by
  cases role with
  | controlling => exact IceRole.noConfusion
  | controlled => exact IceRole.noConfusion

/-- Updating a pair to itself changes nothing. -/
theorem modify_eq_self_iff {pairs : List PairEntry} {idx : Nat} {update : PairEntry -> PairEntry}
    {pair : PairEntry} (found : pairs[idx]? = some pair) :
    pairs.modify idx update = pairs <-> update pair = pair := by
  constructor
  · intro same
    have updated := getElem?_modify_self update found
    rw [same, found] at updated
    exact (Option.some.inj updated).symm
  · intro same
    apply List.ext_getElem?
    intro k
    by_cases here : idx = k
    · subst here
      rw [getElem?_modify_self update found, found, same]
    · exact getElem?_modify_of_ne here

theorem acknowledgePair_eq_self_iff (agent : IceAgent) {idx : Nat} {pair : PairEntry}
    (found : agent.checkList[idx]? = some pair) :
    agent.acknowledgePair idx = agent <->
      pair.state = .succeeded ∧ agent.state ≠ .connecting ∧
        (agent.role = .controlled ∨ agent.nominatedPairConfirmed = true ∨
          exists other, other ≠ idx ∧ agent.nominatedPairIdx = some other) := by
  rcases acknowledgePair_cases agent found with
    ⟨settled, same⟩ | ⟨role, unconfirmed, nominated, same⟩ |
    ⟨role, unconfirmed, nominated, best, chosen, _, _, same⟩
  · rw [same]
    constructor
    · intro unchanged
      have list := congrArg IceAgent.checkList unchanged
      have state := congrArg IceAgent.state unchanged
      have succeeded := (modify_eq_self_iff found).mp list
      refine ⟨(congrArg PairEntry.state succeeded).symm, ?_, settled⟩
      intro isConnecting
      dsimp only at state
      rw [isConnecting] at state
      cases state
    · rintro ⟨succeeded, notConnecting, _⟩
      have list : agent.checkList.modify idx PairEntry.succeed = agent.checkList := by
        rw [modify_eq_self_iff found, PairEntry.succeed, ← succeeded]
      have state : acknowledged agent.state = agent.state := if_neg notConnecting
      rw [list, state]
  · rw [same]
    constructor
    · intro unchanged
      have confirmed := congrArg IceAgent.nominatedPairConfirmed unchanged
      exact absurd (unconfirmed.symm.trans confirmed.symm) Bool.false_ne_true
    · rintro ⟨_, _, isControlled | confirmed | ⟨other, different, isOther⟩⟩
      · exact absurd (role.symm.trans isControlled) (by decide)
      · exact absurd (unconfirmed.symm.trans confirmed) (by decide)
      · exact absurd (Option.some.inj (isOther.symm.trans nominated)) different
  · rw [same]
    constructor
    · intro unchanged
      have idx := congrArg IceAgent.nominatedPairIdx unchanged
      exact absurd (nominated.symm.trans idx.symm) (Option.some_ne_none best).symm
    · rintro ⟨_, _, isControlled | confirmed | ⟨other, _, isOther⟩⟩
      · exact absurd (role.symm.trans isControlled) (by decide)
      · exact absurd (unconfirmed.symm.trans confirmed) (by decide)
      · exact absurd (nominated.symm.trans isOther) (Option.some_ne_none other).symm

/-- A response leaves the agent as it was exactly when it is harmless. -/
theorem handleStunResponse_eq_self_iff (agent : IceAgent) (parsed : ParsedStunMessage) :
    agent.handleStunResponse parsed = agent <-> agent.HarmlessResponse parsed := by
  rcases handleStunResponse_cases agent parsed with
    ⟨isError, code, same⟩ | ⟨noConflict, ignored, same⟩ | ⟨idx, noConflict, success, found, same⟩
  · rw [same]
    constructor
    · intro unchanged
      have role := congrArg IceAgent.role unchanged
      exact absurd role (switched_ne agent.role)
    · intro harmless
      exact absurd code (harmless.1 isError)
  · rw [same]
    refine ⟨fun _ => ⟨fun isError code => noConflict ⟨isError, code⟩, ?_⟩, fun _ => rfl⟩
    intro success idx pair found
    rcases ignored with notResponse | noPair
    · rw [success] at notResponse
      cases notResponse
    · rw [noPair] at found
      cases found
  · rcases pairOfTransaction_some found with ⟨pair, inside, _⟩
    rw [same, acknowledgePair_eq_self_iff agent inside]
    constructor
    · intro settled
      refine ⟨fun isError code => noConflict ⟨isError, code⟩, ?_⟩
      intro _ other otherPair otherFound otherInside
      have sameIdx : idx = other := Option.some.inj (found.symm.trans otherFound)
      subst sameIdx
      have samePair : pair = otherPair := Option.some.inj (inside.symm.trans otherInside)
      subst samePair
      exact settled
    · intro harmless
      exact harmless.2 success idx pair found inside

/-- An unsolicited response is without effect exactly when it is harmless. -/
theorem unsolicited_untouched_iff (agent : IceAgent) {data : Bytes} {parsed : ParsedStunMessage}
    (isParsed : parseIceStunMessage data = .ok parsed)
    (response : parsed.isResponse = true ∨ parsed.isErrorResponse = true) (source : Address) :
    (agent.Unsolicited parsed source -> agent.Untouched data source) <->
      (agent.Unsolicited parsed source -> agent.HarmlessResponse parsed) := by
  have kind := parse_kind isParsed (Or.inr response)
  have notRequest : parsed.isRequest = false := by
    rw [← Bool.not_eq_true, kind.2.1]
    intro request
    rcases response with success | error
    · exact absurd (request.symm.trans (kind.2.2.1.mp success)) (by decide)
    · exact absurd (request.symm.trans (kind.2.2.2.mp error)) (by decide)
  have untouched : agent.Untouched data source <-> agent.HarmlessResponse parsed := by
    rw [← handleStunResponse_eq_self_iff]
    unfold Untouched handleIncomingData
    rw [isParsed]
    simp [kind.1, notRequest]
  rw [untouched]

end IceAgent

namespace AgentRun

/-- An error response with the code of a role conflict, where the parser reads
the code, and nothing else. -/
def roleConflictResponse : Bytes :=
  stunHeader STUN_BINDING_ERROR 8 (countingIds 0).bytes ++
    [0x00, 0x09, 0x00, 0x04, 0x00, 0x04, 0x57, 0x00]

/-- With a check under way, a success response to another request leaves the
agent as it is. -/
theorem stray_response_untouched :
    exists run, (agentSystem zeroCrypto countingIds true (uniformSeed 0 0)).Reachable run ∧
      run.agent.checkList.map (fun pair => (pair.state, pair.transactionId)) =
        [(.inProgress, (countingIds 0).bytes)] ∧
      run.agent.Unsolicited
        { isStun := true, isResponse := true, transactionId := (countingIds 9).bytes } peerAddress ∧
      run.agent.Untouched (responseTo 9) peerAddress := by
  have underway : ((new true (uniformSeed 0 0)).calls zeroCrypto countingIds (fun _ _ => true)
      (setupCalls ++ [.tick 500])).any (fun run =>
        run.agent.checkList.map (fun pair => (pair.state, pair.transactionId)) =
            [(.inProgress, (countingIds 0).bytes)] ∧
          run.agent.pairOfTransaction (countingIds 9).bytes = none) = true := by
    decide +kernel
  rcases exists_run (fun _ _ => True) (fun _ _ _ => trivial) underway with ⟨run, restricted, test⟩
  rcases of_decide_eq_true test with ⟨pairs, foreign⟩
  have unsolicited : run.agent.Unsolicited
      { isStun := true, isResponse := true, transactionId := (countingIds 9).bytes } peerAddress := by
    rintro ⟨pair, member, sameId, _⟩
    have known := List.mem_map_of_mem (f := fun pair : PairEntry => (pair.state, pair.transactionId)) member
    rw [pairs, List.mem_singleton] at known
    exact absurd (sameId.symm.trans (Prod.mk.inj known).2) (by decide)
  refine ⟨run, restricted.of_restrict, pairs, unsolicited, ?_⟩
  apply (IceAgent.unsolicited_untouched_iff run.agent (parse_response (countingIds 9)) (Or.inl rfl)
    peerAddress).mpr
  · intro _
    constructor
    · intro isError
      cases isError
    · intro _ idx pair found
      cases foreign.symm.trans found
  · exact unsolicited

/-- An unsolicited role conflict switches the role of a new agent. -/
theorem stray_conflict_switches :
    ¬ forall (crypto : Crypto) (ids : Nat -> TransactionId) (isControlling : Bool)
      (seed : AgentSeed) (run : AgentRun) (data : Bytes) (parsed : ParsedStunMessage)
      (source : Address), (agentSystem crypto ids isControlling seed).Reachable run ->
      parseIceStunMessage data = .ok parsed ->
      (parsed.isResponse = true ∨ parsed.isErrorResponse = true) ->
      run.agent.Unsolicited parsed source -> run.agent.Untouched data source := by
  intro claim
  have parses : (parseIceStunMessage roleConflictResponse).toOption.any
      (fun parsed => parsed.isErrorResponse) = true := by
    decide +kernel
  have switches : ((new true (uniformSeed 0 0)).agent.handleIncomingData roleConflictResponse
      peerAddress).toOption.any (fun outcome => outcome.1.role = .controlled) = true := by
    decide +kernel
  rcases Checked.exists_of_any parses with ⟨parsed, isParsed, isError⟩
  rcases claim zeroCrypto countingIds true (uniformSeed 0 0) _ _ parsed peerAddress (.start rfl)
    isParsed (Or.inr isError) (by rintro ⟨pair, member, _⟩; cases member) with ⟨result, untouched⟩
  rw [untouched] at switches
  cases switches

end AgentRun

end P2pSdk
