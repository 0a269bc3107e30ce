import P2pSdk.Stun.CreatePermission
import P2pSdk.Ice.CandidateRoundTrip

namespace P2pSdk

open Foundation

/-!
# CreatePermission requests for well-formed peers

A peer is given here by its parts: four octets or an IPv6 text, and a port.
Its text is put together from them and split again by the builder, which looks
for the last colon.  A port has none, so that the colons in front of it are
those of the address.
-/

open StunMessage

/-! ## Splitting at the last separator -/

theorem rsplitOnce_append (separator : Char) (before after : List Char)
    (absent : separator ∉ after) :
    rsplitOnce separator (String.ofList (before ++ separator :: after)) =
      some (String.ofList before, String.ofList after) := by
  have others : forall char, char ∈ after.reverse -> decide (char ≠ separator) = true := by
    intro char isMember
    refine decide_eq_true ?_
    intro same
    rw [same] at isMember
    exact absent (List.mem_reverse.mp isMember)
  have stops : decide (separator ≠ separator) = false := decide_eq_false (not_not.mpr rfl)
  have reversed : (before ++ separator :: after).reverse =
      after.reverse ++ separator :: before.reverse := by
    rw [List.reverse_append, List.reverse_cons, List.append_assoc]
    rfl
  have dropped : (after.reverse ++ separator :: before.reverse).dropWhile (· ≠ separator) =
      separator :: before.reverse := by
    rw [List.dropWhile_append_of_pos others, List.dropWhile_cons, stops]
    rfl
  have taken : (after.reverse ++ separator :: before.reverse).takeWhile (· ≠ separator) =
      after.reverse := by
    rw [List.takeWhile_append_of_pos others, List.takeWhile_cons, stops]
    exact List.append_nil _
  rw [rsplitOnce, String.toList_ofList, reversed, dropped]
  dsimp only
  rw [taken, List.reverse_reverse, List.reverse_reverse]

/-! ## Ports and octets -/

theorem digits_of_foldlM {digits : List Char} {start value : Nat}
    (folds : digits.foldlM (fun value char =>
      if char.isDigit then some (value * 10 + (char.toNat - 48)) else none) start = some value) :
    forall char, char ∈ digits -> char.isDigit = true := by
  induction digits generalizing start with
  | nil =>
      intro char isMember
      cases isMember
  | cons first digits ih =>
      rw [List.foldlM_cons] at folds
      rcases Option.bind_eq_some_iff.mp folds with ⟨next, isNext, rest⟩
      rcases Option.ite_none_right_eq_some.mp isNext with ⟨isDigit, _⟩
      intro char isMember
      rcases List.mem_cons.mp isMember with rfl | later
      · exact isDigit
      · exact ih rest char later

/-- A text that is a number has no colon. -/
theorem no_colon_of_parseUnsigned {bound value : Nat} {text : String}
    (isNumber : parseUnsigned bound text = some value) : ':' ∉ text.toList := by
  intro isMember
  have notDigit : ':'.isDigit ≠ true := by decide
  rw [parseUnsigned] at isNumber
  rcases Option.ite_none_left_eq_some.mp isNumber with ⟨_, isNumber⟩
  split at isNumber
  · rename_i parsed isParsed
    have areDigits := digits_of_foldlM isParsed
    split at areDigits
    · rename_i rest isSigned
      rw [isSigned] at isMember
      rcases List.mem_cons.mp isMember with impossible | isLater
      · exact absurd impossible (by decide)
      · exact absurd (areDigits ':' isLater) notDigit
    · exact absurd (areDigits ':' isMember) notDigit
  · cases isNumber

theorem ipv4ToString_toList (octets : Bytes) :
    (ipv4ToString octets).toList =
      ['.'].intercalate (octets.map fun octet => Nat.toDigits 10 octet.toNat) := by
  have dot : ".".toList = ['.'] := rfl
  rw [ipv4ToString, String.toList_intercalate, dot, List.map_map]
  congr 1
  refine List.map_congr_left ?_
  intro octet _
  rw [Function.comp_apply, Nat.toString_eq_ofList_toDigits, String.toList_ofList]

theorem digit_of_octet {octets : Bytes} {digits : List Char} {char : Char}
    (isPart : digits ∈ octets.map fun octet => Nat.toDigits 10 octet.toNat)
    (isMember : char ∈ digits) : char.isDigit = true := by
  rcases List.mem_map.mp isPart with ⟨octet, _, rfl⟩
  exact Nat.isDigit_of_mem_toDigits (by decide) (by decide) isMember

theorem no_colon_in_ipv4 (octets : Bytes) : ':' ∉ (ipv4ToString octets).toList := by
  intro isMember
  rw [ipv4ToString_toList] at isMember
  rcases mem_intercalate isMember with impossible | ⟨digits, isPart, isDigit⟩
  · exact absurd (List.mem_singleton.mp impossible) (by decide)
  · exact absurd (digit_of_octet isPart isDigit) (by decide)

theorem octets_read_back (octets : Bytes) :
    (octets.map fun octet => Nat.toDigits 10 octet.toNat).mapM
      (fun part => parseUnsigned 256 (String.ofList part)) =
        some (octets.map UInt8.toNat) := by
  induction octets with
  | nil => rfl
  | cons octet octets ih =>
      have number : parseUnsigned 256 (String.ofList (Nat.toDigits 10 octet.toNat)) =
          some octet.toNat := by
        rw [← Nat.toString_eq_ofList_toDigits]
        exact parseUnsigned_toString octet.toNat_lt
      rw [List.map_cons, List.mapM_cons, number, ih]
      rfl

/-- Four octets are named by their dotted text. -/
theorem namedIpv4_toString (octets : Bytes) (sized : octets.length = 4) :
    namedIpv4 (ipv4ToString octets) = some (.v4 octets sized) := by
  have nonempty : (octets.map fun octet => Nat.toDigits 10 octet.toNat) ≠ [] := by
    intro isEmpty
    rw [List.map_eq_nil_iff.mp isEmpty] at sized
    cases sized
  have parts : (ipv4ToString octets).toList.splitOn '.' =
      octets.map fun octet => Nat.toDigits 10 octet.toNat := by
    rw [ipv4ToString_toList]
    refine List.splitOn_intercalate '.' ?_ nonempty
    intro digits isPart contrary
    exact absurd (digit_of_octet isPart contrary) (by decide)
  have same : (octets.map UInt8.toNat).map UInt8.ofNat = octets := by
    rw [List.map_map]
    refine (List.map_congr_left ?_).trans (List.map_id octets)
    intro octet _
    exact UInt8.ofNat_toNat
  rw [namedIpv4, parts, octets_read_back]
  simp only [same]
  exact dif_pos sized

/-! ## Well-formed peers -/

/-- The address of a peer: four octets, or an IPv6 text that parses. -/
inductive PeerHost where
  | v4 (a b c d : UInt8)
  | v6 (text : String) (bytes : Bytes) (colon : ':' ∈ text.toList)
      (isAddress : ipv6ToBytes text = .ok bytes)

namespace PeerHost

def text : PeerHost -> String
  | v4 a b c d => ipv4ToString [a, b, c, d]
  | v6 text _ _ _ => text

def ip : PeerHost -> IpAddress
  | v4 a b c d => .v4 [a, b, c, d] rfl
  | v6 _ bytes _ isAddress => .v6 bytes (ipv6ToBytes_length isAddress)

/-- The size of its XOR-PEER-ADDRESS. -/
def size : PeerHost -> Nat
  | v4 _ _ _ _ => 12
  | v6 _ _ _ _ => 24

def isIpv6 : PeerHost -> Bool
  | v4 _ _ _ _ => false
  | v6 _ _ _ _ => true

theorem contains_colon (host : PeerHost) : host.text.toList.contains ':' = host.isIpv6 := by
  cases host with
  | v4 a b c d =>
      exact (List.contains_eq_mem ':' _).trans (decide_eq_false (no_colon_in_ipv4 [a, b, c, d]))
  | v6 text bytes colon isAddress => exact List.contains_iff_mem.mpr colon

end PeerHost

/-- A peer, with the text of its port. -/
structure Peer where
  host : PeerHost
  portText : String
  port : UInt16
  isPort : parseUnsigned 65536 portText = some port.toNat

namespace Peer

/-- `host:port`. -/
def text (peer : Peer) : String := peer.host.text ++ ":" ++ peer.portText

theorem parsePeerAddr_text (peer : Peer) :
    parsePeerAddr peer.text = .ok (peer.host.text, peer.port, peer.host.isIpv6) := by
  have isText : peer.text =
      String.ofList (peer.host.text.toList ++ ':' :: peer.portText.toList) := by
    rw [← String.toList_inj, String.toList_ofList, text, String.toList_append,
      String.toList_append, List.append_assoc]
    rfl
  have split := rsplitOnce_append ':' peer.host.text.toList peer.portText.toList
    (no_colon_of_parseUnsigned peer.isPort)
  rw [← isText, String.ofList_toList, String.ofList_toList] at split
  rw [parsePeerAddr, split]
  dsimp only
  rw [peer.isPort]
  dsimp only
  rw [UInt16.ofNat_toNat, peer.host.contains_colon]

/-- A well-formed peer names its address and its port. -/
theorem namedAddress_text (peer : Peer) : namedAddress peer.text = some (peer.host.ip, peer.port) := by
  rw [namedAddress, parsePeerAddr_text]
  cases isHost : peer.host with
  | v4 a b c d =>
      dsimp only [PeerHost.isIpv6, PeerHost.text]
      rw [namedIpv4_toString [a, b, c, d] rfl]
      rfl
  | v6 text bytes colon isAddress =>
      have named : namedIpv6 text = some (.v6 bytes (ipv6ToBytes_length isAddress)) := by
        rw [namedIpv6]
        split
        · rename_i other isOther
          rw [isAddress] at isOther
          cases isOther
          rfl
        · rename_i error isError
          rw [isAddress] at isError
          cases isError
      dsimp only [PeerHost.isIpv6, PeerHost.text]
      rw [named]
      rfl

theorem peerAttrSize_text (peer : Peer) : peerAttrSize peer.text = peer.host.size := by
  rw [peerAttrSize_of_parse peer.parsePeerAddr_text]
  cases peer.host with
  | v4 a b c d => exact congrArg (fun len => padTo4 (4 + len)) (if_neg Bool.false_ne_true)
  | v6 text bytes colon isAddress => exact congrArg (fun len => padTo4 (4 + len)) (if_pos rfl)

theorem mapM_writtenAddress (peers : List Peer) :
    (peers.map text).mapM writtenAddress =
      some (peers.map fun peer => (peer.host.ip, peer.port)) := by
  induction peers with
  | nil => rfl
  | cons peer peers ih =>
      rw [List.map_cons, List.mapM_cons, writtenAddress_named peer.namedAddress_text, ih]
      rfl

end Peer

/-- A CreatePermission request for well-formed peers is read back: the token,
then the address and port of every peer, and nothing behind them. -/
theorem createPermission_roundtrip (peers : List Peer) (p2pToken : String)
    (transactionId : TransactionId)
    (fits : padTo4 (4 + (asBytes p2pToken).length) +
      (peers.map fun peer => peer.host.size).sum ≤ 65535) :
    exists request,
      buildCreatePermissionRequest (peers.map Peer.text) p2pToken transactionId = .ok request ∧
      readRequest request.data transactionId =
        .ok (.plain ATTR_P2P_TOKEN (asBytes p2pToken) ::
          peers.map (fun peer => .peer (some (peer.host.ip.text, peer.port))),
          request.data.length) := by
  have sizes : ((peers.map Peer.text).map peerAttrSize) = peers.map fun peer => peer.host.size := by
    rw [List.map_map]
    refine List.map_congr_left ?_
    intro peer _
    exact peer.peerAttrSize_text
  rcases createPermission_carries p2pToken transactionId (Peer.mapM_writtenAddress peers)
    (by rw [sizes]; omega) with ⟨request, built, isId, carries⟩
  have read := carries.2
  rw [isId, List.map_map, List.map_map] at read
  exact ⟨request, built, read⟩

/-- One peer of each family behind a padded token. -/
theorem createPermission_roundtrip_mixed :
    exists request,
      buildCreatePermissionRequest ["192.0.2.1:3478", "2001:db8::1:443"] "token"
        ⟨zeros 12, zeros_length 12⟩ = .ok request ∧
      readRequest request.data ⟨zeros 12, zeros_length 12⟩ =
        .ok ([.plain ATTR_P2P_TOKEN (asBytes "token"), .peer (some ("192.0.2.1", 3478)),
          .peer (some ("2001:db8:0:0:0:0:0:1", 443))], request.data.length) :=
  createPermission_roundtrip
    [⟨.v4 192 0 2 1, "3478", 3478, by decide +kernel⟩,
      ⟨.v6 "2001:db8::1" [0x20, 0x01, 0x0d, 0xb8, 0, 0, 0, 0, 0, 0, 0, 0, 0, 0, 0, 1]
        (by decide +kernel) (by decide +kernel), "443", 443, by decide +kernel⟩]
    "token" ⟨zeros 12, zeros_length 12⟩ (by decide +kernel)

end P2pSdk
