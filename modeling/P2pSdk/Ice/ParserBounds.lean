import P2pSdk.Ice.Datagrams
import P2pSdk.Ice.Restart
import P2pSdk.Stun.Bounds

namespace P2pSdk

open Foundation

/-!
# Where the receive path stays inside the datagram

`parse_ice_stun_message` stops at the end of the buffer when the header claims
more, so every attribute header it reads is there.  The values are not: of the
arms that read one, USERNAME and XOR-MAPPED-ADDRESS look at the buffer again,
while PRIORITY and ERROR-CODE trust the length field.  A datagram that is cut
off inside such a value makes the parser panic.

Nothing else on the receive path can: an agent in any state handles a datagram
without a panic exactly when the parser reads it without one, so that one
condition on the datagrams decides for whole runs.
-/

/-- What the parser reads of an attribute behind a test of its length field alone. -/
structure RawAttribute.ReadInside (data : Bytes) (attr : RawAttribute) : Prop where
  priority : attr.attrType = ATTR_PRIORITY -> 4 ≤ attr.len -> attr.offset + 8 ≤ data.length
  errorCode : attr.attrType = ATTR_ERROR_CODE -> 4 ≤ attr.len -> attr.offset + 7 ≤ data.length

/-- A Binding message, as far as the parser looks before it walks the attributes. -/
structure IsBindingMessage (data : Bytes) : Prop where
  long : STUN_HEADER_LEN ≤ data.length
  binding : IsBinding (u16At data 0)
  cookie : readU32 data 4 = .ok STUN_MAGIC_COOKIE

/-- The parser reads inside the datagram. -/
def IceReadable (data : Bytes) : Prop :=
  IsBindingMessage data ->
    forall attr, attr ∈ messageAttributes data -> attr.ReadInside data

/-! ## One attribute -/

/-- An attribute of a type that has no unguarded read. -/
theorem RawAttribute.ReadInside.of_type {data : Bytes} {attr : RawAttribute}
    (noPriority : attr.attrType ≠ ATTR_PRIORITY) (noErrorCode : attr.attrType ≠ ATTR_ERROR_CODE) :
    attr.ReadInside data :=
  ⟨fun contrary => absurd contrary noPriority, fun contrary => absurd contrary noErrorCode⟩

theorem parseAttribute_returns {data : Bytes} (attr : RawAttribute) {result : ParsedStunMessage}
    (idLong : result.transactionId.length = 12) :
    (exists after, parseAttribute data attr.offset attr.attrType attr.len result = .ok after) <->
      attr.ReadInside data := by
  unfold parseAttribute
  by_cases username : attr.attrType = ATTR_USERNAME ∧ 0 < attr.len
  · refine iff_of_true ?_ (.of_type (by rw [username.1]; decide) (by rw [username.1]; decide))
    rw [if_pos username]
    split_ifs with whole
    · rcases sliceAt_returns.mpr whole with ⟨value, isValue⟩
      rw [isValue]
      exact ⟨_, rfl⟩
    · exact ⟨_, rfl⟩
  rw [if_neg username]
  by_cases priority : attr.attrType = ATTR_PRIORITY ∧ 4 ≤ attr.len
  · rw [if_pos priority]
    constructor
    · rintro ⟨after, isAfter⟩
      rcases Checked.bind_eq_ok.mp isAfter with ⟨value, isValue, _⟩
      have within := readU32_returns.mp ⟨value, isValue⟩
      constructor
      · intro _ _
        omega
      · intro contrary
        rw [priority.1] at contrary
        exact absurd contrary (by decide)
    · intro inside
      have within := inside.priority priority.1 priority.2
      rcases readU32_returns.mpr
        (show attr.offset + 4 + 4 ≤ data.length by omega) with ⟨value, isValue⟩
      rw [isValue]
      exact ⟨_, rfl⟩
  rw [if_neg priority]
  have noPriority : attr.attrType = ATTR_PRIORITY -> 4 ≤ attr.len ->
      attr.offset + 8 ≤ data.length := fun isType filled => absurd ⟨isType, filled⟩ priority
  by_cases errorCode : attr.attrType = ATTR_ERROR_CODE ∧ 4 ≤ attr.len
  · have isType := errorCode.1
    rw [if_neg (by rw [isType]; decide), if_neg (fun both => absurd (isType.symm.trans both.1)
      (by decide)), if_neg (fun both => absurd (isType.symm.trans both.1) (by decide)),
      if_neg (by rw [isType]; decide), if_pos errorCode]
    constructor
    · rintro ⟨after, isAfter⟩
      rcases Checked.bind_eq_ok.mp isAfter with ⟨classByte, _, rest⟩
      rcases Checked.bind_eq_ok.mp rest with ⟨number, isNumber, _⟩
      have within := byteAt_returns.mp ⟨number, isNumber⟩
      refine ⟨noPriority, ?_⟩
      intro _ _
      omega
    · intro inside
      have within := inside.errorCode errorCode.1 errorCode.2
      rcases byteAt_returns.mpr
        (show attr.offset + 5 < data.length by omega) with ⟨classByte, isClass⟩
      rcases byteAt_returns.mpr
        (show attr.offset + 6 < data.length by omega) with ⟨number, isNumber⟩
      rw [isClass, isNumber]
      exact ⟨_, rfl⟩
  · refine iff_of_true ?_ ⟨noPriority, fun isType filled => absurd ⟨isType, filled⟩ errorCode⟩
    rcases parseXorAddress_returns data (attr.offset + 4) attr.len
      (Nat.le_of_eq idLong.symm) with ⟨outcome, isOutcome⟩
    split_ifs
    · exact ⟨_, rfl⟩
    · exact ⟨_, rfl⟩
    · exact ⟨_, rfl⟩
    · rw [isOutcome]
      cases outcome with
      | error error => exact ⟨_, rfl⟩
      | ok address => exact ⟨_, rfl⟩
    · exact ⟨_, rfl⟩

/-! ## The walk -/

/-- The walk returns exactly when it reads every attribute inside.  It stops
with the buffer, so the headers are always there. -/
theorem attributeLoop_returns_iff {data : Bytes} {stop : Nat} (inside : stop ≤ data.length)
    (fuel offset : Nat) {result : ParsedStunMessage} (idLong : result.transactionId.length = 12) :
    (exists after, attributeLoop data stop fuel offset result = .ok after) <->
      forall attr, attr ∈ attributesFrom data stop fuel offset -> attr.ReadInside data := by
  induction fuel generalizing offset result with
  | zero =>
      refine iff_of_true ⟨_, rfl⟩ ?_
      intro attr isMember
      cases isMember
  | succ fuel ih =>
      rw [attributeLoop, attributesFrom]
      by_cases room : offset + 4 ≤ stop
      · rw [if_pos room, if_pos room, readU16_inside (by omega), readU16_inside (by omega)]
        simp only [Checked.ok_bind, List.forall_mem_cons]
        rw [← parseAttribute_returns ⟨u16At data offset, offset, (u16At data (offset + 2)).toNat⟩
          idLong]
        constructor
        · rintro ⟨after, walked⟩
          rcases Checked.bind_eq_ok.mp walked with ⟨middle, isMiddle, later⟩
          have kept : middle.transactionId.length = 12 := by
            have header := (parseAttribute_username
              ⟨u16At data offset, offset, (u16At data (offset + 2)).toNat⟩ isMiddle).2
            have sameId : middle.transactionId = result.transactionId :=
              congrArg (fun fields => fields.2.2.2.2) header
            rw [sameId, idLong]
          exact ⟨⟨middle, isMiddle⟩, (ih _ kept).mp ⟨after, later⟩⟩
        · rintro ⟨⟨middle, isMiddle⟩, rest⟩
          have kept : middle.transactionId.length = 12 := by
            have header := (parseAttribute_username
              ⟨u16At data offset, offset, (u16At data (offset + 2)).toNat⟩ isMiddle).2
            have sameId : middle.transactionId = result.transactionId :=
              congrArg (fun fields => fields.2.2.2.2) header
            rw [sameId, idLong]
          rcases (ih _ kept).mpr rest with ⟨after, later⟩
          exact ⟨after, by rw [isMiddle, Checked.ok_bind, later]⟩
      · rw [if_neg room, if_neg room]
        refine iff_of_true ⟨_, rfl⟩ ?_
        intro attr isMember
        cases isMember

theorem parseAttributes_returns_iff {data : Bytes} (long : STUN_HEADER_LEN ≤ data.length)
    {result : ParsedStunMessage} (idLong : result.transactionId.length = 12) :
    (exists after, parseAttributes data result = .ok after) <->
      forall attr, attr ∈ messageAttributes data -> attr.ReadInside data := by
  have isLong : 20 ≤ data.length := long
  rw [parseAttributes, readU16_inside (by omega), Checked.ok_bind, messageAttributes]
  exact attributeLoop_returns_iff (Nat.min_le_right _ _) _ _ idLong

/-- The parser returns exactly on the datagrams that it reads inside. -/
theorem parseIceStunMessage_returns_iff (data : Bytes) :
    (exists parsed, parseIceStunMessage data = .ok parsed) <-> IceReadable data := by
  rw [parseIceStunMessage]
  by_cases short : data.length < STUN_HEADER_LEN
  · rw [if_pos short]
    exact iff_of_true ⟨_, rfl⟩ fun message => absurd message.long (Nat.not_le_of_lt short)
  have long : STUN_HEADER_LEN ≤ data.length := Nat.le_of_not_lt short
  have isLong : 20 ≤ data.length := long
  have readType : readU16 data 0 = .ok (u16At data 0) := readU16_inside (by omega)
  have readFirst := byteAt_of_type readType
  rcases readU32_returns.mpr (show 4 + 4 ≤ data.length by omega) with ⟨cookie, isCookie⟩
  rcases sliceAt_returns.mpr (show 8 + 12 ≤ data.length by omega) with ⟨id, isId⟩
  rw [if_neg short, readFirst, readType, isCookie, isId]
  simp only [Checked.ok_bind]
  have idLong : id.length = 12 := sliceAt_length isId
  by_cases classBits : UInt8.ofNat ((u16At data 0).toNat / 256) &&& 0xC0 ≠ 0
  · rw [if_pos classBits]
    refine iff_of_true ⟨_, rfl⟩ ?_
    intro message
    exfalso
    rcases message.binding with isType | isType | isType
    · exact classBits (by rw [isType]; decide)
    · exact classBits (by rw [isType]; decide)
    · exact classBits (by rw [isType]; decide)
  rw [if_neg classBits]
  by_cases otherCookie : cookie ≠ STUN_MAGIC_COOKIE
  · rw [if_pos otherCookie]
    refine iff_of_true ⟨_, rfl⟩ ?_
    intro message
    have same := isCookie.symm.trans message.cookie
    exact absurd (Except.ok.inj same) otherCookie
  rw [if_neg otherCookie]
  rw [not_not] at otherCookie
  subst otherCookie
  have walked : forall result : ParsedStunMessage, result.transactionId = id ->
      IsBinding (u16At data 0) ->
      ((exists parsed, parseAttributes data result = .ok parsed) <-> IceReadable data) := by
    intro result sameId binding
    rw [parseAttributes_returns_iff long (by rw [sameId, idLong]), IceReadable,
      forall_prop_of_true ⟨long, binding, isCookie⟩]
  split_ifs with request success error
  · exact walked _ rfl (Or.inl request)
  · exact walked _ rfl (Or.inr (Or.inl success))
  · exact walked _ rfl (Or.inr (Or.inr error))
  · refine iff_of_true ⟨_, rfl⟩ ?_
    intro message
    rcases message.binding with isType | isType | isType
    · exact absurd isType request
    · exact absurd isType success
    · exact absurd isType error

/-! ## The agent -/

/-- An agent in any state returns exactly when the parser does. -/
theorem IceAgent.handleIncomingData_returns_iff (agent : IceAgent) (data : Bytes)
    (source : Address) :
    (exists outcome, agent.handleIncomingData data source = .ok outcome) <-> IceReadable data := by
  rw [← parseIceStunMessage_returns_iff]
  constructor
  · rintro ⟨outcome, handled⟩
    rcases Checked.bind_eq_ok.mp handled with ⟨parsed, isParsed, _⟩
    exact ⟨parsed, isParsed⟩
  · rintro ⟨parsed, isParsed⟩
    rw [handleIncomingData, isParsed, Checked.ok_bind]
    split_ifs
    · exact ⟨_, rfl⟩
    · exact ⟨_, rfl⟩
    · exact ⟨_, rfl⟩

namespace AgentRun

variable {crypto : Crypto} {ids : Nat -> TransactionId}

/-- One operation panics exactly on an unreadable datagram. -/
theorem call_returns_iff (run : AgentRun) (op : AgentOp) :
    (exists outcome, run.call crypto ids op = .ok outcome) <->
      forall data source, op = .handleIncomingData data source -> IceReadable data := by
  cases op with
  | handleIncomingData data source =>
      have handled := run.agent.handleIncomingData_returns_iff data source
      constructor
      · rintro ⟨outcome, called⟩ other otherSource same
        cases same
        rcases Checked.bind_eq_ok.mp called with ⟨next, isNext, _⟩
        exact handled.mp ⟨next, isNext⟩
      · intro readable
        rcases handled.mpr (readable data source rfl) with ⟨⟨agent, result⟩, isNext⟩
        rw [call, isNext]
        exact ⟨_, rfl⟩
  | _ => exact iff_of_true ⟨_, rfl⟩ (fun _ _ impossible => by cases impossible)

/-- A whole run is free of panics exactly when every datagram in it is readable. -/
theorem observe_returns_iff (run : AgentRun) (ops : List AgentOp) :
    (exists outputs, run.observe crypto ids ops = .ok outputs) <->
      forall data source, .handleIncomingData data source ∈ ops -> IceReadable data := by
  induction ops generalizing run with
  | nil =>
      refine iff_of_true ⟨_, rfl⟩ ?_
      intro data source isMember
      cases isMember
  | cons op rest ih =>
      have first := @call_returns_iff crypto ids run op
      rw [observe]
      constructor
      · rintro ⟨outputs, observed⟩ data source isMember
        rcases Checked.bind_eq_ok.mp observed with ⟨⟨after, output⟩, called, later⟩
        rcases Checked.bind_eq_ok.mp later with ⟨others, isOthers, _⟩
        rcases List.mem_cons.mp isMember with here | there
        · exact first.mp ⟨_, called⟩ data source here.symm
        · exact (ih after).mp ⟨others, isOthers⟩ data source there
      · intro readable
        rcases first.mpr
          fun data source same => readable data source (same ▸ List.mem_cons_self) with
          ⟨⟨after, output⟩, called⟩
        rcases (ih after).mpr
          fun data source isMember => readable data source (List.mem_cons_of_mem _ isMember) with
          ⟨others, isOthers⟩
        refine ⟨(output, after.agent.state) :: others, ?_⟩
        rw [called, Checked.ok_bind]
        dsimp only
        rw [isOthers, Checked.ok_bind, Checked.pure_eq_ok]

end AgentRun

/-! ## The receive path -/

/-- The parser, an agent in any state, and any run of an agent return exactly
on readable datagrams. -/
theorem receive_path_returns_iff (data : Bytes) (agent : IceAgent) (source : Address)
    (crypto : Crypto) (ids : Nat -> TransactionId) (run : AgentRun) (ops : List AgentOp) :
    ((exists parsed, parseIceStunMessage data = .ok parsed) <-> IceReadable data) ∧
    ((exists outcome, agent.handleIncomingData data source = .ok outcome) <-> IceReadable data) ∧
    ((exists outputs, run.observe crypto ids ops = .ok outputs) <->
      forall received sender, .handleIncomingData received sender ∈ ops -> IceReadable received) :=
  ⟨parseIceStunMessage_returns_iff data, agent.handleIncomingData_returns_iff data source,
    run.observe_returns_iff ops⟩

/-- A Binding request that is cut off behind the header of a PRIORITY. -/
def cutPriority : Bytes :=
  [0x00, 0x01, 0x00, 0x08] ++ cookieBytes ++ zeros 12 ++ [0x00, 0x24, 0x00, 0x04]

theorem cut_priority_panics :
    ¬ ((forall data, exists parsed, parseIceStunMessage data = .ok parsed) ∧
      forall (crypto : Crypto) (ids : Nat -> TransactionId) (isControlling : Bool)
        (seed : AgentSeed) (run : AgentRun),
        (agentSystem crypto ids isControlling seed).Reachable run -> forall data source,
          exists outcome, run.agent.handleIncomingData data source = .ok outcome) := by
  rintro ⟨claim, _⟩
  rcases claim cutPriority with ⟨parsed, isParsed⟩
  have panics : parseIceStunMessage cutPriority = .error .indexOutOfBounds := by decide +kernel
  rw [panics] at isParsed
  cases isParsed

end P2pSdk
