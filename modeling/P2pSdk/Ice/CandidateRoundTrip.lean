import P2pSdk.Ice.Candidate
import P2pSdk.Foundation.Text

namespace P2pSdk

open Foundation

/-!
# Candidate lines are read back

A formatted line is its tokens with one space between them.  The reader
counts tokens, so a token must not be empty and must not contain whitespace;
and the scan for the related address passes over every token behind the type,
so the related address must not read as one of its keywords.  A text of hex
digits, dots and colons, as every IP literal is, does not.
-/

/-- A token: a text that is a word with respect to whitespace. -/
abbrev IsToken (text : String) : Prop := IsWord isWhitespace text.toList

/-- The letters of IPv4 and IPv6 literals. -/
def isIpLetter (char : Char) : Bool :=
  char.isDigit || ('a' ≤ char && char ≤ 'f') || ('A' ≤ char && char ≤ 'F') || char == '.' ||
    char == ':'

/-- A text that can be an IP literal. -/
structure IsIpText (text : String) : Prop where
  nonempty : text ≠ ""
  letters : forall char, char ∈ text.toList -> isIpLetter char = true

/-- A candidate whose line can be read back. -/
structure IceCandidate.WellFormed (cand : IceCandidate) : Prop where
  foundation : IsToken cand.foundation
  transport : IsToken cand.transport
  connectionAddress : IsToken cand.connectionAddress
  related : (cand.relatedAddress = "" ∧ cand.relatedPort = 0) ∨ IsIpText cand.relatedAddress

/-! ## Tokens -/

theorem isWhitespace_of_isIpLetter {char : Char} (isLetter : isIpLetter char = true) :
    isWhitespace char = false := by
  have bounds : (46 ≤ char.toNat ∧ char.toNat ≤ 58) ∨ (65 ≤ char.toNat ∧ char.toNat ≤ 70) ∨
      (97 ≤ char.toNat ∧ char.toNat ≤ 102) := by
    simp only [isIpLetter, Bool.or_eq_true, Bool.and_eq_true, decide_eq_true_eq, beq_iff_eq,
      Char.isDigit] at isLetter
    rcases isLetter with (((digit | lower) | upper) | isDot) | isColon
    · exact Or.inl ⟨le_trans (by decide) (UInt32.le_iff_toNat_le.mp digit.1),
        le_trans (UInt32.le_iff_toNat_le.mp digit.2) (by decide)⟩
    · exact Or.inr (Or.inr ⟨UInt32.le_iff_toNat_le.mp lower.1, UInt32.le_iff_toNat_le.mp lower.2⟩)
    · exact Or.inr (Or.inl ⟨UInt32.le_iff_toNat_le.mp upper.1, UInt32.le_iff_toNat_le.mp upper.2⟩)
    · subst isDot
      exact Or.inl (by decide)
    · subst isColon
      exact Or.inl (by decide)
  simp only [isWhitespace, Bool.or_eq_false_iff, Bool.and_eq_false_iff, decide_eq_false_iff_not,
    beq_eq_false_iff_ne]
  omega

theorem IsIpText.token {text : String} (isIp : IsIpText text) : IsToken text where
  nonempty := fun empty => isIp.nonempty (String.toList_eq_nil_iff.mp empty)
  unspaced := fun char isMember => isWhitespace_of_isIpLetter (isIp.letters char isMember)

/-- A text whose letters all pass the test is a token. -/
theorem isToken_of_all {text : String} (nonempty : text.toList ≠ [])
    (passes : text.toList.all (fun char => !isWhitespace char) = true) : IsToken text where
  nonempty := nonempty
  unspaced := by
    intro char isMember
    simpa using List.all_eq_true.mp passes char isMember

theorem isIpText_of_all {text : String} (nonempty : text ≠ "")
    (passes : text.toList.all isIpLetter = true) : IsIpText text where
  nonempty := nonempty
  letters := List.all_eq_true.mp passes

/-- A keyword of the scan has the letter r, which no IP literal has. -/
theorem IsIpText.ne_of_mem {text keyword : String} (isIp : IsIpText text)
    (hasR : 'r' ∈ keyword.toList) : text ≠ keyword := by
  intro same
  rw [← same] at hasR
  exact absurd (isIp.letters 'r' hasR) (by decide)

/-- The decimal digits of a number. -/
theorem mem_decimal {n : Nat} {char : Char} (isMember : char ∈ (toString n).toList) :
    char.isDigit = true := by
  rw [Nat.toString_eq_ofList_toDigits, String.toList_ofList] at isMember
  exact Nat.isDigit_of_mem_toDigits (by decide) (by decide) isMember

theorem isToken_decimal (n : Nat) : IsToken (toString n) where
  nonempty := by
    rw [Nat.toString_eq_ofList_toDigits, String.toList_ofList]
    exact Nat.toDigits_ne_nil
  unspaced := by
    intro char isMember
    apply isWhitespace_of_isIpLetter
    simp [isIpLetter, mem_decimal isMember]

theorem isToken_candidateType (kind : CandidateType) : IsToken kind.asStr := by
  cases kind <;> exact isToken_of_all (by decide) (by decide)

/-! ## Numbers -/

/-- Every digit is accepted, and the fold computes the value of the digits. -/
theorem foldlM_digits (digits : List Char) (value : Nat)
    (areDigits : forall char, char ∈ digits -> char.isDigit = true) :
    digits.foldlM (fun value char =>
        if char.isDigit then some (value * 10 + (char.toNat - 48)) else none) value =
      some (Nat.ofDigitChars 10 digits value) := by
  induction digits generalizing value with
  | nil => rfl
  | cons char digits ih =>
      have isDigit := areDigits char List.mem_cons_self
      have rest := fun next => ih next (fun other isMember =>
        areDigits other (List.mem_cons_of_mem char isMember))
      rw [List.foldlM_cons, if_pos isDigit, Nat.ofDigitChars_cons, Nat.mul_comm 10 value]
      exact rest _

/-- A text of digits only has no sign to skip. -/
theorem parseUnsigned_digits {digits : List Char} (nonempty : digits ≠ [])
    (areDigits : forall char, char ∈ digits -> char.isDigit = true) {bound : Nat}
    (small : Nat.ofDigitChars 10 digits 0 < bound) :
    parseUnsigned bound (String.ofList digits) = some (Nat.ofDigitChars 10 digits 0) := by
  have value := foldlM_digits digits 0 areDigits
  rw [parseUnsigned, String.toList_ofList]
  split
  · exact absurd (areDigits '+' List.mem_cons_self) (by decide)
  · simp only [if_neg nonempty, value, if_pos small]

/-- A number within the range is read back from its decimal text. -/
theorem parseUnsigned_toString {bound n : Nat} (small : n < bound) :
    parseUnsigned bound (toString n) = some n := by
  have value := @Nat.ofDigitChars_ten_toDigits n
  have areDigits : forall char, char ∈ Nat.toDigits 10 n -> char.isDigit = true :=
    fun _ isMember => Nat.isDigit_of_mem_toDigits (by decide) (by decide) isMember
  have parsed := parseUnsigned_digits Nat.toDigits_ne_nil areDigits (by rwa [value])
  rwa [value, ← Nat.toString_eq_ofList_toDigits] at parsed

/-! ## The line -/

/-- The tokens of a formatted line, the keyword in front of them apart. -/
def candidateTokens (cand : IceCandidate) : List String :=
  [cand.foundation, toString cand.componentId.toNat, cand.transport,
    toString cand.priority.toNat, cand.connectionAddress, toString cand.port.toNat, "typ",
    cand.candidateType.asStr] ++
  if cand.relatedAddress ≠ "" then
    ["raddr", cand.relatedAddress, "rport", toString cand.relatedPort.toNat]
  else []

theorem formatCandidateLine_toList (cand : IceCandidate) :
    (formatCandidateLine cand).toList =
      "candidate:".toList ++ [' '].intercalate ((candidateTokens cand).map String.toList) := by
  have typ : " typ ".toList = [' '] ++ ("typ".toList ++ [' ']) := rfl
  have raddr : " raddr ".toList = [' '] ++ ("raddr".toList ++ [' ']) := rfl
  have rport : " rport ".toList = [' '] ++ ("rport".toList ++ [' ']) := rfl
  have gap : " ".toList = [' '] := rfl
  by_cases related : cand.relatedAddress ≠ "" <;>
    simp only [formatCandidateLine, candidateTokens, if_pos related, if_neg related,
      List.map_cons, List.map_nil, List.append_nil, List.cons_append, List.nil_append,
      List.intercalate_cons_cons, List.intercalate_singleton, String.toList_append, typ, raddr,
      rport, gap, List.append_assoc]

theorem candidateTokens_areTokens {cand : IceCandidate} (wellFormed : cand.WellFormed) :
    forall token, token ∈ candidateTokens cand -> IsToken token := by
  intro token isMember
  rw [candidateTokens, List.mem_append] at isMember
  rcases isMember with plain | related
  · simp only [List.mem_cons, List.not_mem_nil, or_false] at plain
    rcases plain with same | same | same | same | same | same | same | same <;> rw [same]
    · exact wellFormed.foundation
    · exact isToken_decimal _
    · exact wellFormed.transport
    · exact isToken_decimal _
    · exact wellFormed.connectionAddress
    · exact isToken_decimal _
    · exact isToken_of_all (by decide) (by decide)
    · exact isToken_candidateType _
  · by_cases present : cand.relatedAddress ≠ ""
    · rw [if_pos present] at related
      simp only [List.mem_cons, List.not_mem_nil, or_false] at related
      rcases related with same | same | same | same <;> rw [same]
      · exact isToken_of_all (by decide) (by decide)
      · exact (wellFormed.related.resolve_left (fun absent => present absent.1)).token
      · exact isToken_of_all (by decide) (by decide)
      · exact isToken_decimal _
    · rw [if_neg present] at related
      cases related

theorem areWords_of_areTokens {tokens : List String}
    (areTokens : forall token, token ∈ tokens -> IsToken token) :
    forall word, word ∈ tokens.map String.toList -> IsWord isWhitespace word := by
  intro word isMember
  rcases List.mem_map.mp isMember with ⟨token, isToken, rfl⟩
  exact areTokens token isToken

/-- The tokens of a text are its words. -/
theorem splitWhitespace_words {tokens : List String} {text : List Char}
    (words : wordsOf isWhitespace text = tokens.map String.toList) :
    splitWhitespace (String.ofList text) = tokens := by
  have sameTest : (fun piece : List Char => decide (piece ≠ [])) = fun piece => !piece.isEmpty := by
    funext piece
    cases piece <;> rfl
  rw [wordsOf] at words
  rw [splitWhitespace, String.toList_ofList, sameTest, words, List.map_map]
  exact (List.map_congr_left fun token _ => String.ofList_toList).trans (List.map_id _)

/-- The reader finds the tokens of the line. -/
theorem splitWhitespace_tokens {tokens : List String}
    (areTokens : forall token, token ∈ tokens -> IsToken token) :
    splitWhitespace (String.ofList ([' '].intercalate (tokens.map String.toList))) = tokens := by
  have spaces : forall letter, letter ∈ [' '] -> isWhitespace letter = true := by
    intro letter isMember
    rw [List.mem_singleton.mp isMember]
    rfl
  have none : forall letter, letter ∈ ([] : List Char) -> isWhitespace letter = true := nofun
  have found := wordsOf_joinGaps (areWords_of_areTokens areTokens) (fun _ => List.cons_ne_nil ' ' [])
    (fun _ => spaces) none
  rw [List.append_nil, joinGaps_const] at found
  exact splitWhitespace_words found

theorem stripPrefix_append (head : String) (rest : List Char) :
    stripPrefix head (String.ofList (head.toList ++ rest)) = some (String.ofList rest) := by
  rw [stripPrefix, String.toList_ofList,
    if_pos (List.isPrefixOf_iff_prefix.mpr (List.prefix_append _ _)), List.drop_left]

/-- A well-formed candidate is read back from its line with all its fields. -/
theorem parse_formatCandidateLine {cand : IceCandidate} (wellFormed : cand.WellFormed) :
    parseCandidateLine (formatCandidateLine cand) = some cand := by
  have tokens := splitWhitespace_tokens (candidateTokens_areTokens wellFormed)
  have line : formatCandidateLine cand = String.ofList ("candidate:".toList ++
      [' '].intercalate ((candidateTokens cand).map String.toList)) := by
    rw [← formatCandidateLine_toList, String.ofList_toList]
  have componentId : parseUnsigned 256 cand.componentId.toNat.repr = some cand.componentId.toNat :=
    parseUnsigned_toString cand.componentId.toNat_lt
  have priority : parseUnsigned 4294967296 cand.priority.toNat.repr = some cand.priority.toNat :=
    parseUnsigned_toString cand.priority.toNat_lt
  have port : parseUnsigned 65536 cand.port.toNat.repr = some cand.port.toNat :=
    parseUnsigned_toString cand.port.toNat_lt
  have relatedPort : parseUnsigned 65536 cand.relatedPort.toNat.repr =
      some cand.relatedPort.toNat := parseUnsigned_toString cand.relatedPort.toNat_lt
  rw [line, parseCandidateLine, stripPrefix_append]
  simp only [Option.bind_eq_bind, Option.bind_some, tokens]
  rcases wellFormed.related with ⟨absent, noPort⟩ | isIp
  · simp [candidateTokens, absent, componentId, priority, port]
    rw [← absent, ← noPort]
  · have present := isIp.nonempty
    have notRaddr := isIp.ne_of_mem (show 'r' ∈ "raddr".toList by decide)
    have notRport := isIp.ne_of_mem (show 'r' ∈ "rport".toList by decide)
    simp [candidateTokens, present, componentId, priority, port, relatedPort, List.range',
      scanRelated, notRaddr, notRport]

end P2pSdk
