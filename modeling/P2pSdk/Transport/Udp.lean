import P2pSdk.Transport.SocketAddr
import P2pSdk.Stun.XorAddress

namespace P2pSdk

open Foundation

/-!
# The UDP transport and the platform (`p2p-tokio`)

The transport passes addresses as texts: it reports the sender of a datagram
by the printed IP address and the port, and it sends to the address that it
reads from the two joined with a colon.  For IPv4 the joined text is a socket
address.  For IPv6 it would need brackets, which no source of these texts
writes, so that exactly the IPv4 addresses can be answered.
-/

/-- `IoError`, with the text of an operating system error. -/
inductive IoError where
  | io (error : String)
  | timeout
  | closed
  | http (status : UInt16) (body : String)
  | other (text : String)
  deriving DecidableEq

/-- `IoError::to_string`. -/
def IoError.display : IoError -> String
  | io error => "I/O error: " ++ error
  | timeout => "timeout"
  | closed => "connection closed"
  | http status body => "HTTP error " ++ toString status.toNat ++ ": " ++ body
  | other text => text

/-- `AddrParseError::to_string` of a socket address. -/
def socketAddrError : String := "invalid socket address syntax"

/-- The target of `send_to`: what the address and the port parse to. -/
def sendTarget (addr : String) (port : UInt16) : Except IoError SocketAddr :=
  match SocketAddr.fromStr (addr ++ ":" ++ toString port.toNat) with
  | some target => .ok target
  | none => .error (.other ("invalid target: " ++ socketAddrError))

/-- How `recv_from` reports the sender of a datagram. -/
def reportedSender (source : SocketAddr) : String × UInt16 := (source.ip.display, source.port)

/-- `StdPlatform::get_local_addresses`, from the local addresses of the two
probe sockets, where they have one. -/
def getLocalAddresses (probe4 probe6 : Option IpAddress) : List String :=
  let found4 := (probe4.map IpAddress.display).filter fun ip =>
    "0.".toList.isPrefixOf ip.toList = false ∧ ip ≠ "0.0.0.0"
  let found6 := (probe6.map IpAddress.display).filter fun ip =>
    ip ≠ "::1" ∧ ip ≠ "::" ∧ ip ≠ "0.0.0.0"
  let addrs := found4.toList ++ found6.toList
  if addrs = [] then ["127.0.0.1"] else addrs

/-! ## IPv6 texts have no brackets -/

theorem lowerHex_hex (value : Nat) : forall char, char ∈ (lowerHex value).toList ->
    exists digit, hexDigit char = some digit := by
  rw [lowerHex, String.toList_ofList]
  exact hex_of_readDigits (readDigits_toDigits value)

theorem fmtSubslice_toList (segments : List Nat) :
    (IpAddress.fmtSubslice segments).toList =
      [':'].intercalate (segments.map fun segment => (lowerHex segment).toList) := by
  have colon : ":".toList = [':'] := rfl
  rw [IpAddress.fmtSubslice, String.toList_intercalate, colon, List.map_map]
  rfl

/-- Groups with a colon behind them. -/
theorem opensWithGroup_fmtSubslice (segments : List Nat) (rest : List Char) :
    OpensWithGroup ((IpAddress.fmtSubslice segments).toList ++ ':' :: rest) := by
  rw [fmtSubslice_toList]
  cases segments with
  | nil => exact ⟨[], rest, rfl, fun char impossible => by cases impossible⟩
  | cons first segments =>
      cases segments with
      | nil =>
          rw [List.map_singleton, List.intercalate_singleton]
          exact ⟨_, rest, rfl, lowerHex_hex first⟩
      | cons second segments =>
          rw [List.map_cons, List.map_cons, List.intercalate_cons_cons, List.append_assoc, List.append_assoc]
          exact ⟨_, _, rfl, lowerHex_hex first⟩

/-- Two groups or more. -/
theorem opensWithGroup_groups (first second : Nat) (segments : List Nat) :
    OpensWithGroup (IpAddress.fmtSubslice (first :: second :: segments)).toList := by
  rw [fmtSubslice_toList, List.map_cons, List.map_cons, List.intercalate_cons_cons, List.append_assoc]
  exact ⟨_, _, rfl, lowerHex_hex first⟩

theorem segments_cons (bytes : Bytes) :
    exists first second rest, IpAddress.segments bytes = first :: second :: rest :=
  ⟨_, _, _, rfl⟩

theorem opensWithGroup_display (bytes : Bytes) : OpensWithGroup (IpAddress.ipv6Display bytes).toList := by
  rw [IpAddress.ipv6Display]
  by_cases mapped : (IpAddress.segments bytes).take 6 = [0, 0, 0, 0, 0, 0xffff]
  · rw [if_pos mapped, String.toList_append]
    refine OpensWithGroup.append ?_ _
    exact ⟨[], [':', 'f', 'f', 'f', 'f', ':'], rfl, fun char impossible => by cases impossible⟩
  · rw [if_neg mapped]
    dsimp only
    split
    · rw [String.toList_append, String.toList_append]
      refine OpensWithGroup.append ?_ _
      exact opensWithGroup_fmtSubslice _ [':']
    · rcases segments_cons bytes with ⟨first, second, rest, isList⟩
      rw [isList]
      exact opensWithGroup_groups first second rest

/-- The printer of the STUN codec leaves no groups out. -/
theorem ipv6ToString_eq_fmtSubslice (bytes : Bytes) :
    ipv6ToString bytes = IpAddress.fmtSubslice (IpAddress.segments bytes) := by
  rw [IpAddress.fmtSubslice, IpAddress.segments, List.map_map]
  rfl

theorem opensWithGroup_ipv6ToString (bytes : Bytes) : OpensWithGroup (ipv6ToString bytes).toList := by
  rcases segments_cons bytes with ⟨first, second, rest, isList⟩
  rw [ipv6ToString_eq_fmtSubslice, isList]
  exact opensWithGroup_groups first second rest

/-! ## Targets -/

theorem sendTarget_ipv4 (octets : Bytes) (sized : octets.length = 4) (port : UInt16) :
    sendTarget (ipv4ToString octets) port = .ok (.v4 octets sized port) := by
  rw [sendTarget, fromStr_ipv4 octets sized port]

theorem sendTarget_opensWithGroup {addr : String} (opens : OpensWithGroup addr.toList) (port : UInt16) :
    sendTarget addr port = .error (.other ("invalid target: " ++ socketAddrError)) := by
  have joined : OpensWithGroup (addr ++ ":" ++ toString port.toNat).toList := by
    rw [String.toList_append, String.toList_append]
    exact (opens.append _).append _
  rw [sendTarget, fromStr_opensWithGroup joined]

/-- Both ways to print an address give a text that reaches it exactly when it
is an IPv4 address. -/
theorem sendTarget_iff {ip : IpAddress} {addr : String} (isText : addr = ip.display ∨ addr = ip.text)
    (port : UInt16) : sendTarget addr port = .ok (SocketAddr.new ip port) <-> ip.isIpv4 = true := by
  cases ip with
  | v4 octets sized =>
      have same : addr = ipv4ToString octets := isText.elim id id
      rw [same, sendTarget_ipv4 octets sized port]
      exact iff_of_true rfl rfl
  | v6 bytes sized =>
      have opens : OpensWithGroup addr.toList := by
        rcases isText with same | same
        · rw [same]
          exact opensWithGroup_display bytes
        · rw [same]
          exact opensWithGroup_ipv6ToString bytes
      rw [sendTarget_opensWithGroup opens]
      exact iff_of_false (fun impossible => by cases impossible) Bool.false_ne_true

/-! ## Sources of addresses -/

/-- The text of an XOR address attribute is that of an address. -/
theorem parseXorAddress_text {buf : Bytes} {offset attrLen : Nat} {transactionId : Bytes} {text : String}
    {port : UInt16} (parsed : parseXorAddress buf offset attrLen transactionId = .ok (.ok (text, port))) :
    exists ip : IpAddress, text = ip.text := by
  unfold parseXorAddress at parsed
  split at parsed
  · cases parsed
  split at parsed
  · cases parsed
  rcases Checked.bind_eq_ok.mp parsed with ⟨family, _, parsed⟩
  rcases Checked.bind_eq_ok.mp parsed with ⟨xPort, _, parsed⟩
  dsimp only at parsed
  split at parsed
  · split at parsed
    · cases parsed
    split at parsed
    · cases parsed
    rcases Checked.bind_eq_ok.mp parsed with ⟨addr, isAddr, parsed⟩
    rw [Checked.pure_eq_ok] at parsed
    have same := Prod.mk.inj (Except.ok.inj (Except.ok.inj parsed))
    have sized : (xorBytes addr cookieBytes).length = 4 := by
      rw [xorBytes_length (by rw [sliceAt_length isAddr, cookieBytes_length]), sliceAt_length isAddr]
    exact ⟨.v4 _ sized, same.1.symm⟩
  · split at parsed
    · split at parsed
      · cases parsed
      split at parsed
      · cases parsed
      rcases Checked.bind_eq_ok.mp parsed with ⟨addr, isAddr, parsed⟩
      rcases Checked.bind_eq_ok.mp parsed with ⟨key, isKey, parsed⟩
      rw [Checked.pure_eq_ok] at parsed
      have same := Prod.mk.inj (Except.ok.inj (Except.ok.inj parsed))
      have sized : (xorBytes addr (cookieBytes ++ key)).length = 16 := by
        rw [xorBytes_length (by rw [sliceAt_length isAddr, List.length_append, cookieBytes_length,
          sliceAt_length isKey]), sliceAt_length isAddr]
      exact ⟨.v6 _ sized, same.1.symm⟩
    · cases parsed

/-- Every local address that is gathered is the text of an address. -/
theorem mem_getLocalAddresses {probe4 probe6 : Option IpAddress} {text : String}
    (isMember : text ∈ getLocalAddresses probe4 probe6) : exists ip : IpAddress, text = ip.display := by
  have found : forall (probe : Option IpAddress) (keep : String -> Bool),
      text ∈ ((probe.map IpAddress.display).filter keep).toList ->
        exists ip : IpAddress, text = ip.display := by
    intro probe keep inFound
    rcases Option.filter_eq_some_iff.mp (Option.mem_toList.mp inFound) with ⟨isText, _⟩
    rcases Option.map_eq_some_iff.mp isText with ⟨ip, _, isDisplay⟩
    exact ⟨ip, isDisplay.symm⟩
  unfold getLocalAddresses at isMember
  dsimp only at isMember
  split at isMember
  · rw [List.mem_singleton.mp isMember]
    exact ⟨.v4 [127, 0, 0, 1] rfl, by decide +kernel⟩
  · rcases List.mem_append.mp isMember with inFound | inFound
    · exact found probe4 _ inFound
    · exact found probe6 _ inFound

/-- The sender of a datagram can be answered, and a gathered or mapped address
be reached, exactly when the address is IPv4. -/
theorem received_address_answered_iff (source : SocketAddr) (probe4 probe6 : Option IpAddress)
    (buf : Bytes) (offset attrLen : Nat) (transactionId : Bytes) :
    (sendTarget (reportedSender source).1 (reportedSender source).2 = .ok source <->
      source.ip.isIpv4 = true) ∧
    (forall text, text ∈ getLocalAddresses probe4 probe6 ->
      exists ip : IpAddress, text = ip.display ∧
        forall port, sendTarget text port = .ok (.new ip port) <-> ip.isIpv4 = true) ∧
    forall text port, parseXorAddress buf offset attrLen transactionId = .ok (.ok (text, port)) ->
      exists ip : IpAddress, text = ip.text ∧
        (sendTarget text port = .ok (.new ip port) <-> ip.isIpv4 = true) := by
  refine ⟨?_, ?_, ?_⟩
  · cases source with
    | v4 octets sized port => exact sendTarget_iff (Or.inl rfl) port
    | v6 bytes sized port flowinfo scopeId =>
        have refused := sendTarget_opensWithGroup (opensWithGroup_display bytes) port
        refine iff_of_false ?_ Bool.false_ne_true
        intro answered
        rw [show (reportedSender (.v6 bytes sized port flowinfo scopeId)).1 = IpAddress.ipv6Display bytes
          from rfl, show (reportedSender (.v6 bytes sized port flowinfo scopeId)).2 = port from rfl,
          refused] at answered
        cases answered
  · intro text isMember
    rcases mem_getLocalAddresses isMember with ⟨ip, isText⟩
    exact ⟨ip, isText, fun port => sendTarget_iff (Or.inl isText) port⟩
  · intro text port parsed
    rcases parseXorAddress_text parsed with ⟨ip, isText⟩
    exact ⟨ip, isText, sendTarget_iff (Or.inr isText) port⟩

/-- The answer to a sender with an IPv6 address has no target. -/
theorem ipv6_sender_unanswered :
    reportedSender (.v6 [0x20, 0x01, 0x0d, 0xb8, 0, 0, 0, 0, 0, 0, 0, 0, 0, 0, 0, 1] rfl 443 0 0) =
        ("2001:db8::1", 443) ∧
      sendTarget "2001:db8::1" 443 = .error (.other "invalid target: invalid socket address syntax") := by
  decide +kernel

end P2pSdk
