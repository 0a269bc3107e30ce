import P2pSdk.Ice.CandidateRoundTrip
import P2pSdk.Foundation.Bytes

namespace P2pSdk

open Foundation

/-!
# The format of a candidate line

A line may be written with or without the keyword in front of the type, with
whitespace of any kind and amount between its tokens, and with further tokens
behind the type.  The parser indexes its tokens by position; it is given here
with these accesses checked, which never fail.
-/

/-! ## The parser with checked accesses -/

/-- `parts[index]`. -/
def partAt (parts : List String) (index : Nat) : Checked String :=
  match parts[index]? with
  | some part => .ok part
  | none => .error .indexOutOfBounds

/-- One round of the extension scan. -/
def scanRelatedChecked (parts : List String) (related : String × UInt16) (i : Nat) :
    Checked (String × UInt16) := do
  let address ← partAt parts i
  let related :=
    if address = "raddr" then ((parts[i + 1]?).getD "", related.2) else related
  let port ← partAt parts i
  if port = "rport" then
    pure (related.1, UInt16.ofNat (((parts[i + 1]?).bind (parseUnsigned 65536)).getD 0))
  else pure related

/-- The position of the type, before or behind the keyword. -/
def typeIdxChecked (parts : List String) : Checked Nat :=
  if 7 < parts.length then do
    let keyword ← partAt parts 6
    pure (if keyword = "typ" then 7 else 6)
  else pure 6

/-- The fields of the candidate, in the order in which they are evaluated. -/
def candidateOfParts (parts : List String) (typeIdx : Nat) (related : String × UInt16) :
    Checked (Option IceCandidate) := do
  let foundation ← partAt parts 0
  let componentText ← partAt parts 1
  match parseUnsigned 256 componentText with
  | none => pure none
  | some componentId => do
    let transport ← partAt parts 2
    let priorityText ← partAt parts 3
    match parseUnsigned 4294967296 priorityText with
    | none => pure none
    | some priority => do
      let connectionAddress ← partAt parts 4
      let portText ← partAt parts 5
      match parseUnsigned 65536 portText with
      | none => pure none
      | some port => do
        let typeText ← partAt parts typeIdx
        match CandidateType.fromStr typeText with
        | none => pure none
        | some candidateType =>
          pure
            (some
              { foundation := foundation
                componentId := UInt8.ofNat componentId
                transport := transport
                priority := UInt32.ofNat priority
                connectionAddress := connectionAddress
                port := UInt16.ofNat port
                candidateType := candidateType
                relatedAddress := related.1
                relatedPort := related.2 })

/-- `parse_candidate_line` with every access `parts[i]` checked. -/
def parseCandidateLineChecked (line : String) : Checked (Option IceCandidate) :=
  match stripPrefix "candidate:" line with
  | none => pure none
  | some stripped =>
      let parts := splitWhitespace stripped
      if parts.length < 7 then pure none
      else do
        let typeIdx ← typeIdxChecked parts
        let related ← (List.range' (typeIdx + 1) (parts.length - 1 - (typeIdx + 1))).foldlM
          (scanRelatedChecked parts) ("", 0)
        let typeIdx ← typeIdxChecked parts
        candidateOfParts parts typeIdx related

theorem partAt_eq {parts : List String} {index : Nat} (inside : index < parts.length) :
    partAt parts index = .ok (parts.getD index "") := by
  rw [partAt, List.getD_eq_getElem?_getD, List.getElem?_eq_getElem inside]
  rfl

theorem scanRelatedChecked_eq {parts : List String} {i : Nat} (inside : i < parts.length)
    (related : String × UInt16) :
    scanRelatedChecked parts related i = .ok (scanRelated parts related i) := by
  rw [scanRelatedChecked, partAt_eq inside, scanRelated]
  simp only [Checked.ok_bind, Checked.pure_eq_ok]
  split <;> split <;> rfl

theorem foldlM_scanRelatedChecked {parts : List String} (indices : List Nat)
    (inside : forall i, i ∈ indices -> i < parts.length) (related : String × UInt16) :
    indices.foldlM (scanRelatedChecked parts) related =
      .ok (indices.foldl (scanRelated parts) related) := by
  induction indices generalizing related with
  | nil => rfl
  | cons i indices ih =>
      rw [List.foldlM_cons, scanRelatedChecked_eq (inside i List.mem_cons_self), Checked.ok_bind,
        List.foldl_cons]
      exact ih (fun other isMember => inside other (List.mem_cons_of_mem i isMember)) _

theorem typeIdxChecked_eq (parts : List String) :
    typeIdxChecked parts = .ok (if 7 < parts.length ∧ parts.getD 6 "" = "typ" then 7 else 6) := by
  rw [typeIdxChecked]
  by_cases more : 7 < parts.length
  · rw [if_pos more, partAt_eq (by omega), Checked.ok_bind, Checked.pure_eq_ok]
    simp only [more, true_and]
  · rw [if_neg more, if_neg (fun both => more both.1)]
    rfl

/-- No access of the parser is out of range. -/
theorem parseCandidateLineChecked_eq (line : String) :
    parseCandidateLineChecked line = .ok (parseCandidateLine line) := by
  rw [parseCandidateLineChecked, parseCandidateLine]
  cases stripPrefix "candidate:" line with
  | none => rfl
  | some stripped =>
      simp only [Option.bind_eq_bind, Option.bind_some]
      by_cases few : (splitWhitespace stripped).length < 7
      · rw [if_pos few, if_pos few]
        rfl
      · rw [if_neg few, if_neg few, typeIdxChecked_eq, Checked.ok_bind]
        generalize isType : (if 7 < (splitWhitespace stripped).length ∧
          (splitWhitespace stripped).getD 6 "" = "typ" then 7 else 6) = typeIdx
        have typeInside : typeIdx < (splitWhitespace stripped).length := by
          split at isType
          · omega
          · omega
        generalize splitWhitespace stripped = parts at few typeInside ⊢
        rw [foldlM_scanRelatedChecked _ (fun i isMember => by
          rw [List.mem_range'_1] at isMember
          omega), Checked.ok_bind, Checked.ok_bind, candidateOfParts]
        simp only [partAt_eq (show 0 < parts.length by omega), partAt_eq (show 1 < parts.length by omega),
          partAt_eq (show 2 < parts.length by omega), partAt_eq (show 3 < parts.length by omega),
          partAt_eq (show 4 < parts.length by omega), partAt_eq (show 5 < parts.length by omega),
          partAt_eq typeInside, Checked.ok_bind, Checked.pure_eq_ok]
        cases parseUnsigned 256 (parts.getD 1 "") with
        | none => rfl
        | some componentId =>
            cases parseUnsigned 4294967296 (parts.getD 3 "") with
            | none => rfl
            | some priority =>
                cases parseUnsigned 65536 (parts.getD 5 "") with
                | none => rfl
                | some port => cases CandidateType.fromStr (parts.getD typeIdx "") <;> rfl

/-! ## The scan behind the type -/

/-- What the scan takes from a token and the one behind it. -/
def scanToken (token next : String) (related : String × UInt16) : String × UInt16 :=
  let related := if token = "raddr" then (next, related.2) else related
  if token = "rport" then (related.1, UInt16.ofNat ((parseUnsigned 65536 next).getD 0)) else related

@[simp] theorem scanToken_raddr (next : String) (related : String × UInt16) :
    scanToken "raddr" next related = (next, related.2) := by
  rw [scanToken, if_neg (by decide), if_pos rfl]

@[simp] theorem scanToken_rport (next : String) (related : String × UInt16) :
    scanToken "rport" next related = (related.1, UInt16.ofNat ((parseUnsigned 65536 next).getD 0)) := by
  rw [scanToken, if_pos rfl, if_neg (by decide)]

/-- The scan over the tokens behind the type; nothing is behind the last one. -/
def scanTokens : List String -> String × UInt16 -> String × UInt16
  | token :: next :: tokens, related => scanTokens (next :: tokens) (scanToken token next related)
  | _, related => related

theorem foldl_scanRelated (front tokens : List String) (related : String × UInt16) :
    (List.range' front.length (tokens.length - 1)).foldl (scanRelated (front ++ tokens)) related =
      scanTokens tokens related := by
  induction tokens generalizing front related with
  | nil => rfl
  | cons token tokens ih =>
      cases tokens with
      | nil => rfl
      | cons next tokens =>
          have here : (front ++ token :: next :: tokens).getD front.length "" = token := by
            rw [List.getD_eq_getElem?_getD, List.getElem?_append_right (Nat.le_refl _), Nat.sub_self]
            rfl
          have behind : (front ++ token :: next :: tokens)[front.length + 1]? = some next := by
            rw [List.getElem?_append_right (by omega), Nat.add_sub_cancel_left]
            rfl
          have step : scanRelated (front ++ token :: next :: tokens) related front.length =
              scanToken token next related := by
            rw [scanRelated, scanToken, here, behind]
            rfl
          have moved : front ++ token :: next :: tokens = (front ++ [token]) ++ next :: tokens := by
            rw [List.append_assoc]
            rfl
          have rest := ih (front ++ [token]) (scanToken token next related)
          rw [← moved, List.length_append, List.length_singleton] at rest
          rw [List.length_cons, List.length_cons, Nat.add_sub_cancel, List.range'_succ, List.foldl_cons,
            step, scanTokens]
          exact rest

/-- A token that is no keyword of the scan is passed over. -/
theorem scanTokens_skip {token : String} (notRaddr : token ≠ "raddr") (notRport : token ≠ "rport")
    (tokens : List String) (related : String × UInt16) :
    scanTokens (token :: tokens) related = scanTokens tokens related := by
  cases tokens with
  | nil => rfl
  | cons next tokens => rw [scanTokens, scanToken, if_neg notRaddr, if_neg notRport]

theorem scanTokens_skip_all {others : List String}
    (plain : forall token, token ∈ others -> token ≠ "raddr" ∧ token ≠ "rport")
    (tokens : List String) (related : String × UInt16) :
    scanTokens (others ++ tokens) related = scanTokens tokens related := by
  induction others with
  | nil => rfl
  | cons token others ih =>
      rcases plain token List.mem_cons_self with ⟨notRaddr, notRport⟩
      rw [List.cons_append, scanTokens_skip notRaddr notRport]
      exact ih (fun other isMember => plain other (List.mem_cons_of_mem token isMember))

/-! ## Lines of the format -/

/-- A further token behind the type, not a keyword of the related address. -/
structure ExtensionToken where
  text : String
  isToken : IsToken text
  notRaddr : text ≠ "raddr"
  notRport : text ≠ "rport"

/-- Whitespace in front of the tokens, between them and behind them. -/
structure Spacing where
  lead : List Char
  gaps : Nat -> List Char
  trail : List Char
  leadBlank : forall char, char ∈ lead -> isWhitespace char = true
  gapsBlank : forall i char, char ∈ gaps i -> isWhitespace char = true
  trailBlank : forall char, char ∈ trail -> isWhitespace char = true
  separate : forall i, gaps i ≠ []

/-- The related address and port of a candidate, where it has one. -/
def relatedTokens (cand : IceCandidate) : List String :=
  if cand.relatedAddress ≠ "" then
    ["raddr", cand.relatedAddress, "rport", toString cand.relatedPort.toNat]
  else []

/-- The tokens behind the type. -/
def tailTokens (cand : IceCandidate) (before after : List ExtensionToken) : List String :=
  before.map ExtensionToken.text ++ relatedTokens cand ++ after.map ExtensionToken.text

/-- The tokens up to the type. -/
def headTokens (cand : IceCandidate) (keyword : Bool) : List String :=
  [cand.foundation, toString cand.componentId.toNat, cand.transport,
    toString cand.priority.toNat, cand.connectionAddress, toString cand.port.toNat] ++
  (if keyword then ["typ"] else []) ++ [cand.candidateType.asStr]

/-- A line for the candidate: with or without the keyword, with further tokens
before and after the related address, and with the given whitespace. -/
def candidateLine (cand : IceCandidate) (keyword : Bool) (before after : List ExtensionToken)
    (spacing : Spacing) : String :=
  String.ofList ("candidate:".toList ++ (spacing.lead ++
    (joinGaps spacing.gaps ((headTokens cand keyword ++ tailTokens cand before after).map String.toList) ++
      spacing.trail)))

theorem scanTokens_tail {cand : IceCandidate} (wellFormed : cand.WellFormed)
    (before after : List ExtensionToken) :
    scanTokens (tailTokens cand before after) ("", 0) = (cand.relatedAddress, cand.relatedPort) := by
  have plain : forall extensions : List ExtensionToken, forall token,
      token ∈ extensions.map ExtensionToken.text -> token ≠ "raddr" ∧ token ≠ "rport" := by
    intro extensions token isMember
    rcases List.mem_map.mp isMember with ⟨extension, _, rfl⟩
    exact ⟨extension.notRaddr, extension.notRport⟩
  have ended : forall related, scanTokens (after.map ExtensionToken.text) related = related := by
    intro related
    have skipped := scanTokens_skip_all (plain after) [] related
    rwa [List.append_nil] at skipped
  rw [tailTokens, List.append_assoc, scanTokens_skip_all (plain before)]
  rcases wellFormed.related with ⟨absent, noPort⟩ | isIp
  · rw [relatedTokens, if_neg (not_not.mpr absent), List.nil_append, ended, absent, noPort]
  · have notRaddr := isIp.ne_of_mem (show 'r' ∈ "raddr".toList by decide)
    have notRport := isIp.ne_of_mem (show 'r' ∈ "rport".toList by decide)
    have isPort := parseUnsigned_toString cand.relatedPort.toNat_lt
    have portLetter : forall keyword : String, 'r' ∈ keyword.toList ->
        toString cand.relatedPort.toNat ≠ keyword := by
      intro keyword hasR same
      rw [← same] at hasR
      exact absurd (mem_decimal hasR) (by decide)
    rw [relatedTokens, if_pos isIp.nonempty, List.cons_append, List.cons_append, scanTokens,
      scanTokens_skip notRaddr notRport, List.cons_append, List.cons_append, List.nil_append, scanTokens,
      scanTokens_skip (portLetter "raddr" (by decide)) (portLetter "rport" (by decide)), ended]
    rw [scanToken_raddr, scanToken_rport, isPort, Option.getD_some, UInt16.ofNat_toNat]

/-- The tokens of a line are found. -/
theorem splitWhitespace_spaced {tokens : List String}
    (areTokens : forall token, token ∈ tokens -> IsToken token) (spacing : Spacing) :
    splitWhitespace (String.ofList (spacing.lead ++
      (joinGaps spacing.gaps (tokens.map String.toList) ++ spacing.trail))) = tokens := by
  have found := wordsOf_joinGaps (areWords_of_areTokens areTokens) spacing.separate spacing.gapsBlank
    spacing.trailBlank
  rw [← wordsOf_append_spaces spacing.leadBlank] at found
  exact splitWhitespace_words found

theorem headTokens_areTokens {cand : IceCandidate} (wellFormed : cand.WellFormed) (keyword : Bool) :
    forall token, token ∈ headTokens cand keyword -> IsToken token := by
  have isKeyword : IsToken "typ" := isToken_of_all (by decide) (by decide)
  intro token isMember
  cases keyword with
  | false =>
      simp only [headTokens, List.cons_append, List.nil_append, Bool.false_eq_true, if_false,
        List.mem_cons, List.not_mem_nil, or_false] at isMember
      rcases isMember with same | same | same | same | same | same | same <;> rw [same]
      · exact wellFormed.foundation
      · exact isToken_decimal _
      · exact wellFormed.transport
      · exact isToken_decimal _
      · exact wellFormed.connectionAddress
      · exact isToken_decimal _
      · exact isToken_candidateType _
  | true =>
      simp only [headTokens, List.cons_append, List.nil_append, if_true,
        List.mem_cons, List.not_mem_nil, or_false] at isMember
      rcases isMember with same | same | same | same | same | same | same | same <;> rw [same]
      · exact wellFormed.foundation
      · exact isToken_decimal _
      · exact wellFormed.transport
      · exact isToken_decimal _
      · exact wellFormed.connectionAddress
      · exact isToken_decimal _
      · exact isKeyword
      · exact isToken_candidateType _

theorem relatedTokens_areTokens {cand : IceCandidate} (wellFormed : cand.WellFormed) :
    forall token, token ∈ relatedTokens cand -> IsToken token := by
  intro token isMember
  exact candidateTokens_areTokens wellFormed token (List.mem_append.mpr (Or.inr isMember))

theorem tailTokens_areTokens {cand : IceCandidate} (wellFormed : cand.WellFormed)
    (before after : List ExtensionToken) :
    forall token, token ∈ tailTokens cand before after -> IsToken token := by
  have extensions : forall extensions : List ExtensionToken, forall token,
      token ∈ extensions.map ExtensionToken.text -> IsToken token := by
    intro extensions token isMember
    rcases List.mem_map.mp isMember with ⟨extension, _, rfl⟩
    exact extension.isToken
  intro token isMember
  rcases List.mem_append.mp isMember with inFront | inAfter
  · rcases List.mem_append.mp inFront with inBefore | inRelated
    · exact extensions before token inBefore
    · exact relatedTokens_areTokens wellFormed token inRelated
  · exact extensions after token inAfter

/-- A line of the format is read, whatever its spelling. -/
theorem parseCandidateLine_candidateLine {cand : IceCandidate} (wellFormed : cand.WellFormed)
    (keyword : Bool) (before after : List ExtensionToken) (spacing : Spacing) :
    parseCandidateLine (candidateLine cand keyword before after spacing) = some cand := by
  have areTokens : forall token, token ∈ headTokens cand keyword ++ tailTokens cand before after ->
      IsToken token := by
    intro token isMember
    rcases List.mem_append.mp isMember with inHead | inTail
    · exact headTokens_areTokens wellFormed keyword token inHead
    · exact tailTokens_areTokens wellFormed before after token inTail
  have tokens := splitWhitespace_spaced areTokens spacing
  have componentId : parseUnsigned 256 (toString cand.componentId.toNat) = some cand.componentId.toNat :=
    parseUnsigned_toString cand.componentId.toNat_lt
  have priority : parseUnsigned 4294967296 (toString cand.priority.toNat) = some cand.priority.toNat :=
    parseUnsigned_toString cand.priority.toNat_lt
  have port : parseUnsigned 65536 (toString cand.port.toNat) = some cand.port.toNat :=
    parseUnsigned_toString cand.port.toNat_lt
  have tailLength : (headTokens cand keyword ++ tailTokens cand before after).length =
      (headTokens cand keyword).length + (tailTokens cand before after).length := List.length_append
  have scan := foldl_scanRelated (headTokens cand keyword) (tailTokens cand before after) ("", 0)
  rw [scanTokens_tail wellFormed] at scan
  have notKeyword : cand.candidateType.asStr ≠ "typ" := by cases cand.candidateType <;> decide
  have line : stripPrefix "candidate:" (candidateLine cand keyword before after spacing) =
      some (String.ofList (spacing.lead ++
        (joinGaps spacing.gaps
          ((headTokens cand keyword ++ tailTokens cand before after).map String.toList) ++
          spacing.trail))) := stripPrefix_append "candidate:" _
  have fields : (headTokens cand keyword ++ tailTokens cand before after).getD 0 "" = cand.foundation ∧
      (headTokens cand keyword ++ tailTokens cand before after).getD 1 "" = toString cand.componentId.toNat ∧
      (headTokens cand keyword ++ tailTokens cand before after).getD 2 "" = cand.transport ∧
      (headTokens cand keyword ++ tailTokens cand before after).getD 3 "" = toString cand.priority.toNat ∧
      (headTokens cand keyword ++ tailTokens cand before after).getD 4 "" = cand.connectionAddress ∧
      (headTokens cand keyword ++ tailTokens cand before after).getD 5 "" = toString cand.port.toNat := by
    cases keyword <;> exact ⟨rfl, rfl, rfl, rfl, rfl, rfl⟩
  rcases fields with ⟨field0, field1, field2, field3, field4, field5⟩
  have typePosition : exists typeIdx, (headTokens cand keyword).length = typeIdx + 1 ∧
      (if 7 < (headTokens cand keyword ++ tailTokens cand before after).length ∧
        (headTokens cand keyword ++ tailTokens cand before after).getD 6 "" = "typ" then 7 else 6) =
          typeIdx ∧
      (headTokens cand keyword ++ tailTokens cand before after).getD typeIdx "" =
        cand.candidateType.asStr ∧ 6 ≤ typeIdx := by
    cases keyword with
    | false => exact ⟨6, rfl, if_neg fun both => notKeyword both.2, rfl, Nat.le_refl 6⟩
    | true =>
        have longer : 7 < (headTokens cand true ++ tailTokens cand before after).length := by
          have eight : (headTokens cand true).length = 8 := rfl
          omega
        exact ⟨7, rfl, if_pos ⟨longer, rfl⟩, rfl, by omega⟩
  rcases typePosition with ⟨typeIdx, headLength, isIdx, typeField, atLeast⟩
  rw [headLength] at scan tailLength
  have count : (headTokens cand keyword ++ tailTokens cand before after).length - 1 - (typeIdx + 1) =
      (tailTokens cand before after).length - 1 := by omega
  rw [parseCandidateLine, line, Option.bind_eq_bind, Option.bind_some, tokens]
  simp only [Option.bind_eq_bind]
  rw [isIdx, if_neg (by omega), count, scan, field0, field1, field2, field3, field4, field5, typeField,
    componentId, priority, port, cand.candidateType.fromStr_asStr]
  simp only [Option.bind_some, UInt8.ofNat_toNat, UInt16.ofNat_toNat, UInt32.ofNat_toNat]
  rfl

/-- Every spelling of a candidate is read as this candidate, and the parser
returns on every text. -/
theorem candidate_format_accepted :
    (forall cand : IceCandidate, cand.WellFormed ->
      forall (keyword : Bool) (before after : List ExtensionToken) (spacing : Spacing),
        parseCandidateLineChecked (candidateLine cand keyword before after spacing) = .ok (some cand)) ∧
    forall line, exists result, parseCandidateLineChecked line = .ok result := by
  constructor
  · intro cand wellFormed keyword before after spacing
    rw [parseCandidateLineChecked_eq, parseCandidateLine_candidateLine wellFormed]
  · intro line
    exact ⟨parseCandidateLine line, parseCandidateLineChecked_eq line⟩

end P2pSdk
