import P2pSdk.Core.Sdp
import P2pSdk.Ice.AgentRun
import P2pSdk.Ice.CandidateRoundTrip

namespace P2pSdk

open Foundation

/-!
# A description survives signalling

One agent writes its candidates as lines into an SDP text; the reader of the
text hands the lines to the agent of the peer.  Every line of the offer is
shown to be read by its own rule only, so that the reader returns the
credentials and the candidate lines as they were, and the peer parses each
line back into the candidate it was formatted from.  What the peer drops is
exactly what repeats an address.
-/

/-! ## The lines of an offer -/

theorem splitCrLf_generateSdpOffer {odid localUfrag localPwd : String} {candidates : List String}
    {defaultIp : String} {defaultPort : UInt16} {timestamp : UInt64}
    (free : forall line,
      line ∈ offerLines odid localUfrag localPwd candidates defaultIp defaultPort timestamp ->
        PairFree '\r' '\n' line.toList) :
    splitCrLf (generateSdpOffer odid localUfrag localPwd candidates defaultIp defaultPort timestamp) =
      offerLines odid localUfrag localPwd candidates defaultIp defaultPort timestamp ++ [""] := by
  have nonempty : offerLines odid localUfrag localPwd candidates defaultIp defaultPort timestamp ≠
      [] := by
    simp [offerLines]
  rw [generateSdpOffer, splitCrLf]
  generalize offerLines odid localUfrag localPwd candidates defaultIp defaultPort timestamp = lines
    at free nonempty
  have linesFree : forall line, line ∈ lines.map String.toList -> PairFree '\r' '\n' line := by
    intro line isLine
    obtain ⟨text, isText, same⟩ := List.mem_map.mp isLine
    rw [← same]
    exact free text isText
  have crLf : "\r\n".toList = ['\r', '\n'] := rfl
  rw [String.toList_append, String.toList_intercalate, crLf,
    intercalate_pair_append (by simpa using nonempty), splitAtPair_flatMap (by decide) linesFree,
    List.map_append, List.map_map]
  have same : (lines.map fun line => String.ofList line.toList) = lines :=
    (List.map_congr_left fun line _ => String.ofList_toList).trans (List.map_id lines)
  exact congrArg (fun front => front ++ [""]) same

/-- A line that begins with another letter than `a` says nothing to the reader. -/
theorem parseSdpLine_other (info : SdpAnswerInfo) {line : String} {letter : Char}
    {rest : List Char} (begins : line.toList = letter :: rest)
    (unspaced : isWhitespace letter = false) (notA : letter ≠ 'a') :
    parseSdpLine info line = info := by
  have trimmed : trim line = String.ofList (letter :: rest.rdropWhile isWhitespace) := by
    rw [trim, begins, trimBy_cons unspaced]
  have noAttribute : forall (attr : String) (tail : List Char), attr.toList = 'a' :: tail ->
      stripPrefix attr (trim line) = none := by
    intro attr tail isAttr
    rw [stripPrefix, trimmed, String.toList_ofList, isAttr, if_neg]
    simp [notA.symm]
  have notLite : trim line ≠ "a=ice-lite" := by
    intro same
    rw [trimmed] at same
    have lists := congrArg String.toList same
    rw [String.toList_ofList] at lists
    exact notA (List.cons_eq_cons.mp lists).1
  have noUfrag := noAttribute "a=ice-ufrag:" _ rfl
  have noPwd := noAttribute "a=ice-pwd:" _ rfl
  have noCandidate := noAttribute "a=candidate:" _ rfl
  simp only [parseSdpLine, noUfrag, noPwd, noCandidate, if_neg notLite]

/-- A line that begins with `a` and ends with a token is trimmed already. -/
theorem trim_attribute {line token : String} (middle : List Char)
    (isLine : line.toList = 'a' :: (middle ++ token.toList)) (isToken : IsToken token) :
    trim line = line := by
  rw [trim, isLine, trimBy_eq_self (by decide) middle isToken, ← isLine, String.ofList_toList]

theorem stripPrefix_self (head rest : String) : stripPrefix head (head ++ rest) = some rest := by
  have append := stripPrefix_append head rest.toList
  rwa [String.ofList_append, String.ofList_toList, String.ofList_toList] at append

theorem parseSdpLine_ufrag (info : SdpAnswerInfo) {ufrag : String} (isToken : IsToken ufrag) :
    parseSdpLine info ("a=ice-ufrag:" ++ ufrag) = { info with ufrag := ufrag } := by
  have trimmed : trim ("a=ice-ufrag:" ++ ufrag) = "a=ice-ufrag:" ++ ufrag :=
    trim_attribute "=ice-ufrag:".toList String.toList_append isToken
  simp only [parseSdpLine, trimmed, stripPrefix_self]

theorem parseSdpLine_pwd (info : SdpAnswerInfo) {pwd : String} (isToken : IsToken pwd) :
    parseSdpLine info ("a=ice-pwd:" ++ pwd) = { info with pwd := pwd } := by
  have trimmed : trim ("a=ice-pwd:" ++ pwd) = "a=ice-pwd:" ++ pwd :=
    trim_attribute "=ice-pwd:".toList String.toList_append isToken
  have noUfrag : stripPrefix "a=ice-ufrag:" ("a=ice-pwd:" ++ pwd) = none := by
    simp [stripPrefix]
  simp only [parseSdpLine, trimmed, noUfrag, stripPrefix_self]

theorem parseSdpLine_candidate (info : SdpAnswerInfo) {cand : IceCandidate}
    (wellFormed : cand.WellFormed) :
    parseSdpLine info ("a=" ++ formatCandidateLine cand) =
      { info with candidates := info.candidates ++ [formatCandidateLine cand] } := by
  have nonempty : candidateTokens cand ≠ [] := by
    simp [candidateTokens]
  obtain ⟨front, ends⟩ := intercalate_ends [' ']
    (show (candidateTokens cand).map String.toList ≠ [] by simpa using nonempty)
  rw [List.getLast_map] at ends
  have lastToken := candidateTokens_areTokens wellFormed _ (List.getLast_mem nonempty)
  have isLine : ("a=" ++ formatCandidateLine cand).toList =
      'a' :: (("=candidate:".toList ++ front) ++ ((candidateTokens cand).getLast nonempty).toList) := by
    rw [String.toList_append, formatCandidateLine_toList, ends, List.append_assoc]
    rfl
  have trimmed := trim_attribute _ isLine lastToken
  obtain ⟨tokens, formatted⟩ : exists tokens, formatCandidateLine cand = "candidate:" ++ tokens := by
    refine ⟨String.ofList ([' '].intercalate ((candidateTokens cand).map String.toList)), ?_⟩
    apply String.toList_inj.mp
    rw [formatCandidateLine_toList, String.toList_append]
    exact congrArg (fun rest => "candidate:".toList ++ rest) String.toList_ofList.symm
  have line : "a=" ++ formatCandidateLine cand = "a=candidate:" ++ tokens := by
    rw [formatted, ← String.append_assoc]
    rfl
  have noUfrag : stripPrefix "a=ice-ufrag:" ("a=candidate:" ++ tokens) = none := by
    simp [stripPrefix]
  have noPwd : stripPrefix "a=ice-pwd:" ("a=candidate:" ++ tokens) = none := by
    simp [stripPrefix]
  have notLite : "a=candidate:" ++ tokens ≠ "a=ice-lite" := by
    intro same
    have lists := congrArg String.toList same
    simp at lists
  rw [line] at trimmed ⊢
  simp only [parseSdpLine, trimmed, noUfrag, noPwd, if_neg notLite, stripPrefix_self, formatted]

/-- The candidate lines are collected in order. -/
theorem foldl_parseSdpLine_candidates {cands : List IceCandidate}
    (wellFormed : forall cand, cand ∈ cands -> cand.WellFormed) (info : SdpAnswerInfo) :
    ((cands.map formatCandidateLine).map fun cand => "a=" ++ cand).foldl parseSdpLine info =
      { info with candidates := info.candidates ++ cands.map formatCandidateLine } := by
  induction cands generalizing info with
  | nil => simp
  | cons cand cands ih =>
      have rest := ih (fun other isMember => wellFormed other (List.mem_cons_of_mem cand isMember))
      rw [List.map_cons, List.map_cons, List.foldl_cons,
        parseSdpLine_candidate info (wellFormed cand List.mem_cons_self), rest]
      simp only [List.append_assoc, List.cons_append, List.nil_append]

/-! ## Lines without CR LF -/

/-- A token has no CR in it, and neither has a candidate line. -/
theorem noCr_token {token : String} (isToken : IsToken token) : '\r' ∉ token.toList :=
  fun isMember => absurd (isToken.unspaced '\r' isMember) (by decide)

theorem noCr_formatCandidateLine {cand : IceCandidate} (wellFormed : cand.WellFormed) :
    '\r' ∉ (formatCandidateLine cand).toList := by
  rw [formatCandidateLine_toList, List.mem_append]
  rintro (inKeyword | inTokens)
  · exact absurd inKeyword (by decide)
  · rcases mem_intercalate inTokens with inGap | ⟨word, isWord, inWord⟩
    · exact absurd inGap (by decide)
    · obtain ⟨token, isToken, same⟩ := List.mem_map.mp isWord
      rw [← same] at inWord
      exact noCr_token (candidateTokens_areTokens wellFormed token isToken) inWord

/-- Credential text is a token. -/
theorem isToken_hexText {bytes : Bytes} (nonempty : bytes ≠ []) : IsToken (hexText bytes) where
  nonempty := by
    rw [hexText, String.toList_ofList]
    cases bytes with
    | nil => exact absurd rfl nonempty
    | cons byte bytes => exact List.cons_ne_nil _ _
  unspaced := by
    have digit : forall n, n < 16 -> isWhitespace (Nat.digitChar n) = false := by decide
    intro char isMember
    rw [hexText, String.toList_ofList] at isMember
    obtain ⟨byte, _, inByte⟩ := List.mem_flatMap.mp isMember
    have small := byte.toNat_lt
    simp only [hexByte, List.mem_cons, List.not_mem_nil, or_false] at inByte
    rcases inByte with high | low
    · rw [high]
      exact digit _ (by omega)
    · rw [low]
      exact digit _ (by omega)

/-- No line of an offer contains CR LF, when the texts put into it do not. -/
theorem offerLines_pairFree {odid localUfrag localPwd defaultIp : String}
    (odidFree : PairFree '\r' '\n' odid.toList) (ipFree : PairFree '\r' '\n' defaultIp.toList)
    (ufragToken : IsToken localUfrag) (pwdToken : IsToken localPwd) {cands : List IceCandidate}
    (wellFormed : forall cand, cand ∈ cands -> cand.WellFormed) (defaultPort : UInt16)
    (timestamp : UInt64) :
    forall line, line ∈ offerLines odid localUfrag localPwd (cands.map formatCandidateLine)
        defaultIp defaultPort timestamp -> PairFree '\r' '\n' line.toList := by
  have noCr : forall {text : String}, '\r' ∉ text.toList -> PairFree '\r' '\n' text.toList :=
    fun absent => PairFree.of_not_mem absent
  intro line isLine
  rw [offerLines, List.mem_append, List.mem_map] at isLine
  rcases isLine with fixed | ⟨text, isText, same⟩
  · simp only [List.mem_cons, List.not_mem_nil, or_false] at fixed
    rcases fixed with same | same | same | same | same | same | same | same <;> rw [same]
    · exact noCr (by decide)
    · have seconds := noCr (noCr_token (isToken_decimal timestamp.toNat))
      simp only [String.toList_append, List.append_assoc]
      refine PairFree.append (noCr (by decide)) ?_ (Or.inl (by decide))
      refine PairFree.append odidFree ?_ (Or.inr (by simp))
      refine PairFree.append (noCr (by decide)) ?_ (Or.inl (by decide))
      refine PairFree.append seconds ?_ (Or.inr (by simp))
      exact PairFree.append (noCr (by decide)) ipFree (Or.inl (by decide))
    · exact noCr (by decide)
    · exact noCr (by decide)
    · apply noCr
      simp only [String.toList_append, List.mem_append]
      rintro ((inFront | inPort) | inBack)
      · exact absurd inFront (by decide)
      · exact noCr_token (isToken_decimal _) inPort
      · exact absurd inBack (by decide)
    · rw [String.toList_append]
      exact PairFree.append (noCr (by decide)) ipFree (Or.inl (by decide))
    · rw [String.toList_append]
      exact PairFree.append (noCr (by decide)) (noCr (noCr_token ufragToken)) (Or.inl (by decide))
    · rw [String.toList_append]
      exact PairFree.append (noCr (by decide)) (noCr (noCr_token pwdToken)) (Or.inl (by decide))
  · obtain ⟨cand, isCand, isText⟩ := List.mem_map.mp isText
    rw [← same, ← isText, String.toList_append]
    exact PairFree.append (noCr (by decide)) (noCr (noCr_formatCandidateLine (wellFormed cand isCand)))
      (Or.inl (by decide))

/-- The reader returns what the offer was generated from. -/
theorem parseSdpAnswer_generateSdpOffer {odid localUfrag localPwd defaultIp : String}
    (odidFree : PairFree '\r' '\n' odid.toList) (ipFree : PairFree '\r' '\n' defaultIp.toList)
    (ufragToken : IsToken localUfrag) (pwdToken : IsToken localPwd) {cands : List IceCandidate}
    (wellFormed : forall cand, cand ∈ cands -> cand.WellFormed) (defaultPort : UInt16)
    (timestamp : UInt64) :
    parseSdpAnswer (generateSdpOffer odid localUfrag localPwd (cands.map formatCandidateLine)
        defaultIp defaultPort timestamp) =
      { ufrag := localUfrag, pwd := localPwd, isLite := false,
        candidates := cands.map formatCandidateLine } := by
  have lines := splitCrLf_generateSdpOffer (offerLines_pairFree odidFree ipFree ufragToken pwdToken
    wellFormed defaultPort timestamp)
  have other := fun info (line : String) (letter : Char) rest
    (begins : line.toList = letter :: rest) => parseSdpLine_other info begins
  have origin : forall info, parseSdpLine info ("o=" ++ odid ++ " " ++ toString timestamp.toNat ++
      " 1 IN IP4 " ++ defaultIp) = info := by
    intro info
    apply other info _ 'o' _ (by simp only [String.toList_append, List.append_assoc]; rfl) <;> decide
  have media : forall info, parseSdpLine info ("m=data " ++ toString defaultPort.toNat ++
      " UDP/RTP/AVP 0") = info := by
    intro info
    apply other info _ 'm' _ (by simp only [String.toList_append, List.append_assoc]; rfl) <;> decide
  have connection : forall info, parseSdpLine info ("c=IN IP4 " ++ defaultIp) = info := by
    intro info
    apply other info _ 'c' _ (by simp only [String.toList_append]; rfl) <;> decide
  have version : forall info, parseSdpLine info "v=0" = info :=
    fun info => other info _ 'v' _ rfl (by decide) (by decide)
  have session : forall info, parseSdpLine info "s=-" = info :=
    fun info => other info _ 's' _ rfl (by decide) (by decide)
  have timing : forall info, parseSdpLine info "t=0 0" = info :=
    fun info => other info _ 't' _ rfl (by decide) (by decide)
  have nothing : forall info, parseSdpLine info "" = info := by
    intro info
    simp [parseSdpLine, trim, trimBy, stripPrefix]
  rw [parseSdpAnswer, lines, List.foldl_append, offerLines, List.foldl_append,
    foldl_parseSdpLine_candidates wellFormed]
  simp only [List.foldl_cons, List.foldl_nil, version, origin, session, timing, media, connection,
    parseSdpLine_ufrag _ ufragToken, parseSdpLine_pwd _ pwdToken, nothing, List.nil_append]

/-! ## The candidates of the peer -/

/-- The candidates without those that repeat the address of an earlier one. -/
def firstOfEachAddress : List IceCandidate -> List IceCandidate
  | [] => []
  | cand :: rest =>
      cand :: (firstOfEachAddress rest).filter fun later => later.address ≠ cand.address

namespace IceAgent

/-- Candidates added one by one: the first of each address, without those
whose address was known before. -/
theorem foldl_addRemoteCand (agent : IceAgent) (cands : List IceCandidate) :
    (cands.foldl addRemoteCand agent).remoteCandidates =
      agent.remoteCandidates ++ (firstOfEachAddress cands).filter fun cand =>
        !agent.remoteCandidates.any fun known => known.address == cand.address := by
  induction cands generalizing agent with
  | nil => simp [firstOfEachAddress]
  | cons cand cands ih =>
      rw [List.foldl_cons, ih, firstOfEachAddress]
      cases known : agent.remoteCandidates.any fun other => other.address == cand.address with
      | true =>
          have same : agent.addRemoteCand cand = agent := by
            rw [addRemoteCand, if_pos known]
          -- What shares the address of `cand` is known, so the filters agree.
          have agree : forall later, later ∈ firstOfEachAddress cands ->
              (!agent.remoteCandidates.any fun other => other.address == later.address) =
                ((decide (later.address ≠ cand.address)) &&
                  !agent.remoteCandidates.any fun other => other.address == later.address) := by
            intro later _
            by_cases repeats : later.address = cand.address
            · rw [repeats, known]
              simp
            · simp [repeats]
          rw [same, List.filter_cons_of_neg (by simp [known]), List.filter_filter,
            List.filter_congr agree]
          simp only [Bool.and_comm]
      | false =>
          have added : (agent.addRemoteCand cand).remoteCandidates =
              agent.remoteCandidates ++ [cand] := by
            rw [addRemoteCand, if_neg (by rw [known]; decide)]
          rw [added, List.filter_cons_of_pos (by simp [known]), List.append_assoc,
            List.filter_filter, List.singleton_append]
          congr 2
          apply List.filter_congr
          intro later _
          by_cases repeats : cand.address = later.address
          · simp [List.any_append, repeats]
          · have differs : ¬ later.address = cand.address := fun same => repeats same.symm
            simp [List.any_append, repeats, differs]

theorem setRemoteSessionDescription_candidates (agent : IceAgent) (desc : IceSessionDescription)
    {cands : List IceCandidate} (wellFormed : forall cand, cand ∈ cands -> cand.WellFormed)
    (lines : desc.candidates = cands.map formatCandidateLine) :
    (agent.setRemoteSessionDescription desc).remoteCandidates =
      agent.remoteCandidates ++ (firstOfEachAddress cands).filter fun cand =>
        !agent.remoteCandidates.any fun known => known.address == cand.address := by
  have parsed : forall other : IceAgent,
      (cands.map formatCandidateLine).foldl addRemoteCandidate other =
        cands.foldl addRemoteCand other := by
    intro other
    rw [List.foldl_map]
    apply List.foldl_ext
    intro current cand isCand
    rw [addRemoteCandidate, parse_formatCandidateLine (wellFormed cand isCand)]
  rw [setRemoteSessionDescription, lines, parsed, foldl_addRemoteCand]

end IceAgent

namespace AgentRun

variable {crypto : Crypto} {ids : Nat -> TransactionId} {isControlling : Bool} {seed : AgentSeed}

/-- Whatever has been done to an agent, an offer generated from its
description is read back exactly, and a new agent at the other end holds its
candidates with all their fields, the first of each address. -/
theorem description_survives_signalling {run : AgentRun}
    (reachable : (agentSystem crypto ids isControlling seed).Reachable run)
    (wellFormed : forall cand, cand ∈ run.agent.localCandidates -> cand.WellFormed)
    {odid defaultIp : String} (odidLine : ¬ ['\r', '\n'] <:+: odid.toList)
    (ipLine : ¬ ['\r', '\n'] <:+: defaultIp.toList) (defaultPort : UInt16) (timestamp : UInt64)
    (peerControlling : Bool) (peerSeed : AgentSeed) :
    let desc := run.agent.localSessionDescription
    let answer := parseSdpAnswer (generateSdpOffer odid desc.iceUfrag desc.icePwd desc.candidates
      defaultIp defaultPort timestamp)
    answer =
        { ufrag := run.agent.localUfrag, pwd := run.agent.localPwd, isLite := false,
          candidates := run.agent.localCandidates.map formatCandidateLine } ∧
      ((IceAgent.new peerControlling peerSeed).setRemoteSessionDescription
        answer.description).remoteCandidates = firstOfEachAddress run.agent.localCandidates := by
  obtain ⟨ufrag, pwd, _⟩ := identity_of_reachable reachable
  have ufragToken : IsToken run.agent.localUfrag := by
    rw [ufrag]
    exact isToken_hexText (List.ne_nil_of_length_pos (by rw [seed.ufrag_length]; decide))
  have pwdToken : IsToken run.agent.localPwd := by
    rw [pwd]
    exact isToken_hexText (List.ne_nil_of_length_pos (by rw [seed.pwd_length]; decide))
  have readBack := parseSdpAnswer_generateSdpOffer (pairFree_iff.mpr odidLine)
    (pairFree_iff.mpr ipLine) ufragToken pwdToken wellFormed defaultPort timestamp
  refine ⟨readBack, ?_⟩
  have held := (IceAgent.new peerControlling peerSeed).setRemoteSessionDescription_candidates
    (SdpAnswerInfo.description
      { ufrag := run.agent.localUfrag, pwd := run.agent.localPwd, isLite := false,
        candidates := run.agent.localCandidates.map formatCandidateLine }) wellFormed rfl
  dsimp only [IceAgent.localSessionDescription]
  rw [readBack, held]
  simp [IceAgent.new]

/-- A host candidate, a server-reflexive one behind it, and a repeat of the
host address under another foundation. -/
def repeatingCandidates : List IceCandidate :=
  [⟨"1", 1, "UDP", 2130706431, "10.0.0.1", 5000, .host, "", 0⟩,
    ⟨"2", 1, "UDP", 1694498815, "203.0.113.1", 54321, .srflx, "10.0.0.1", 5000⟩,
    ⟨"3", 1, "UDP", 1, "10.0.0.1", 5000, .host, "", 0⟩]

theorem repeatingCandidates_wellFormed :
    forall cand, cand ∈ repeatingCandidates -> cand.WellFormed := by
  intro cand isCand
  simp only [repeatingCandidates, List.mem_cons, List.not_mem_nil, or_false] at isCand
  rcases isCand with same | same | same <;> rw [same]
  · exact ⟨isToken_of_all (by decide) (by decide), isToken_of_all (by decide) (by decide),
      isToken_of_all (by decide) (by decide), Or.inl ⟨rfl, rfl⟩⟩
  · exact ⟨isToken_of_all (by decide) (by decide), isToken_of_all (by decide) (by decide),
      isToken_of_all (by decide) (by decide), Or.inr (isIpText_of_all (by decide) (by decide))⟩
  · exact ⟨isToken_of_all (by decide) (by decide), isToken_of_all (by decide) (by decide),
      isToken_of_all (by decide) (by decide), Or.inl ⟨rfl, rfl⟩⟩

/-- An origin name that ends with a lone CR, and a repeated address. -/
theorem description_survives_signalling_with_repeat :
    exists run : AgentRun,
      (agentSystem zeroCrypto countingIds true (uniformSeed 7 9)).Reachable run ∧
      run.agent.localCandidates = repeatingCandidates ∧
      ((IceAgent.new false (uniformSeed 8 3)).setRemoteSessionDescription
        (parseSdpAnswer (generateSdpOffer "device\r" run.agent.localSessionDescription.iceUfrag
          run.agent.localSessionDescription.icePwd run.agent.localSessionDescription.candidates
          "10.0.0.1" 5000 1700000000)).description).remoteCandidates =
        repeatingCandidates.take 2 := by
  have ends : ((new true (uniformSeed 7 9)).calls zeroCrypto countingIds (fun _ _ => true)
      (repeatingCandidates.map AgentOp.addLocalCandidate)).any (fun run =>
        run.agent.localCandidates = repeatingCandidates) = true := by
    decide +kernel
  rcases exists_run (fun _ _ => True) (fun _ _ _ => trivial) ends with ⟨run, restricted, test⟩
  have holds := of_decide_eq_true test
  have wellFormed : forall cand, cand ∈ run.agent.localCandidates -> cand.WellFormed := by
    rw [holds]
    exact repeatingCandidates_wellFormed
  have odidLine : ¬ ['\r', '\n'] <:+: "device\r".toList := by decide +kernel
  have ipLine : ¬ ['\r', '\n'] <:+: "10.0.0.1".toList := by decide +kernel
  have survives := @description_survives_signalling zeroCrypto countingIds true (uniformSeed 7 9) run
    restricted.of_restrict wellFormed "device\r" "10.0.0.1" odidLine ipLine 5000 1700000000 false
    (uniformSeed 8 3)
  refine ⟨run, restricted.of_restrict, holds, ?_⟩
  rw [survives.2, holds]
  decide

end AgentRun

end P2pSdk
