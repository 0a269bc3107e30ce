import P2pSdk.Stun.RequestBuilding

namespace P2pSdk

open Foundation

/-!
# Which peers a CreatePermission request names

A peer is a text.  `namedAddress` says which address and port it names, if it
names any.  The builder is laxer: an octet that is no number counts as 0, an
IPv6 address that does not parse counts as `::`, further octets are ignored,
and it panics where it has no fallback.  It therefore permits an address that
nobody named exactly for a text that names none.
-/

open StunMessage

/-! ## The address that is written -/

theorem ipv6Bytes_length (ipPart : String) : (ipv6Bytes ipPart).length = 16 := by
  rw [ipv6Bytes]
  cases isBytes : ipv6ToBytes ipPart with
  | ok bytes => exact ipv6ToBytes_length isBytes
  | error error => exact zeros_length 16

/-- The address and port that the builder writes for a text. -/
def writtenAddress (peer : String) : Option (IpAddress × UInt16) :=
  match parsePeerAddr peer with
  | .error _ => none
  | .ok (ipPart, port, true) => some (.v6 (ipv6Bytes ipPart) (ipv6Bytes_length ipPart), port)
  | .ok (ipPart, port, false) =>
      if enough : 4 ≤ (ipv4Octets ipPart).length then
        some (.v4 ((ipv4Octets ipPart).take 4) (List.length_take_of_le enough), port)
      else none

/-- The attribute of a peer. -/
def peerField (transactionId : TransactionId) (address : IpAddress × UInt16) : RequestField :=
  (ATTR_XOR_PEER_ADDRESS, xorAddressValue transactionId 0 address.1 address.2)

/-- The value of an address attribute in its pieces, as a round writes them. -/
theorem writeAddress_eq {buf masked : Bytes} {offset : Nat} (family : UInt8) (port : UInt16)
    {addrLen : UInt16} (isLen : addrLen = UInt16.ofNat (4 + masked.length))
    (inside : offset + 4 + (4 + masked.length) ≤ buf.length) :
    writeAt (writeAt (writeAt (writeAt (writeAt buf offset (u16Bytes ATTR_XOR_PEER_ADDRESS))
      (offset + 2) (u16Bytes addrLen)) (offset + 4) [0, family]) (offset + 6) (u16Bytes port))
      (offset + 8) masked =
    P2pSdk.writeAttribute buf offset ATTR_XOR_PEER_ADDRESS
      (0 :: family :: (u16Bytes port ++ masked)) := by
  have typeLen := u16Bytes_length ATTR_XOR_PEER_ADDRESS
  have lenLen := u16Bytes_length addrLen
  have portLen := u16Bytes_length port
  have typed : (writeAt buf offset (u16Bytes ATTR_XOR_PEER_ADDRESS)).length = buf.length :=
    writeAt_length (by omega)
  have sized : (writeAt (writeAt buf offset (u16Bytes ATTR_XOR_PEER_ADDRESS)) (offset + 2)
      (u16Bytes addrLen)).length = buf.length := by
    rw [writeAt_length (by omega), typed]
  have isValue : (0 :: family :: (u16Bytes port ++ masked)).length = 4 + masked.length := by
    simp only [List.length_cons, List.length_append, portLen]
    omega
  have headPort := @writeAt_writeAt (writeAt (writeAt buf offset (u16Bytes ATTR_XOR_PEER_ADDRESS))
    (offset + 2) (u16Bytes addrLen)) [0, family] (u16Bytes port) (offset + 4)
    (by simp only [List.length_cons, List.length_nil]; omega)
  have whole := @writeAt_writeAt (writeAt (writeAt buf offset (u16Bytes ATTR_XOR_PEER_ADDRESS))
    (offset + 2) (u16Bytes addrLen)) ([0, family] ++ u16Bytes port) masked (offset + 4)
    (by simp only [List.length_append, List.length_cons, List.length_nil]; omega)
  have four : ([0, family] ++ u16Bytes port).length = 4 := by
    rw [List.length_append, portLen]
    rfl
  rw [four] at whole
  have headLen : offset + 4 + [0, family].length = offset + 6 := rfl
  rw [headLen] at headPort
  rw [headPort, whole, P2pSdk.writeAttribute, writeAttributeHeader, writeU16, writeU16, isValue,
    ← isLen]
  rfl

/-- The checked writes of a round, one after another. -/
def storeAddress (buf : Bytes) (offset : Nat) (addrLen : UInt16) (family : UInt8) (port : UInt16)
    (masked : Bytes) : Checked Bytes := do
  let buf ← StunMessage.writeU16 buf offset ATTR_XOR_PEER_ADDRESS
  let buf ← StunMessage.writeU16 buf (offset + 2) addrLen
  let buf ← storeAt buf (offset + 4) [0, family]
  let buf ← StunMessage.writeU16 buf (offset + 6) port
  storeAt buf (offset + 8) masked

theorem storeAddress_eq_ok {buf masked after : Bytes} {offset : Nat} {family : UInt8}
    {port addrLen : UInt16} (isLen : addrLen = UInt16.ofNat (4 + masked.length)) :
    storeAddress buf offset addrLen family port masked = .ok after <->
      offset + 4 + (4 + masked.length) ≤ buf.length ∧
        after = P2pSdk.writeAttribute buf offset ATTR_XOR_PEER_ADDRESS
          (0 :: family :: (u16Bytes port ++ masked)) := by
  have typeLen := u16Bytes_length ATTR_XOR_PEER_ADDRESS
  have lenLen := u16Bytes_length addrLen
  have portLen := u16Bytes_length port
  have headLen : [0, family].length = 2 := rfl
  constructor
  · intro stored
    rcases Checked.bind_eq_ok.mp stored with ⟨typed, isTyped, stored⟩
    rcases Checked.bind_eq_ok.mp stored with ⟨sized, isSized, stored⟩
    rcases Checked.bind_eq_ok.mp stored with ⟨headed, isHeaded, stored⟩
    rcases Checked.bind_eq_ok.mp stored with ⟨ported, isPorted, stored⟩
    rcases storeAt_eq_ok.mp isTyped with ⟨typeInside, rfl⟩
    rcases storeAt_eq_ok.mp isSized with ⟨lenInside, rfl⟩
    rcases storeAt_eq_ok.mp isHeaded with ⟨headInside, rfl⟩
    rcases storeAt_eq_ok.mp isPorted with ⟨portInside, rfl⟩
    rcases storeAt_eq_ok.mp stored with ⟨inside, rfl⟩
    rw [writeAt_length portInside, writeAt_length headInside, writeAt_length lenInside,
      writeAt_length typeInside] at inside
    have enough : offset + 4 + (4 + masked.length) ≤ buf.length := by omega
    exact ⟨enough, writeAddress_eq family port isLen enough⟩
  · rintro ⟨inside, rfl⟩
    have typed : (writeAt buf offset (u16Bytes ATTR_XOR_PEER_ADDRESS)).length = buf.length :=
      writeAt_length (by omega)
    have sized : (writeAt (writeAt buf offset (u16Bytes ATTR_XOR_PEER_ADDRESS)) (offset + 2)
        (u16Bytes addrLen)).length = buf.length := by
      rw [writeAt_length (by omega), typed]
    have headed : (writeAt (writeAt (writeAt buf offset (u16Bytes ATTR_XOR_PEER_ADDRESS))
        (offset + 2) (u16Bytes addrLen)) (offset + 4) [0, family]).length = buf.length := by
      rw [writeAt_length (by omega), sized]
    have ported : (writeAt (writeAt (writeAt (writeAt buf offset
        (u16Bytes ATTR_XOR_PEER_ADDRESS)) (offset + 2) (u16Bytes addrLen)) (offset + 4)
        [0, family]) (offset + 6) (u16Bytes port)).length = buf.length := by
      rw [writeAt_length (by omega), headed]
    refine Checked.bind_eq_ok.mpr ⟨_, storeAt_eq_ok.mpr ⟨by omega, rfl⟩, ?_⟩
    refine Checked.bind_eq_ok.mpr ⟨_, storeAt_eq_ok.mpr ⟨by omega, rfl⟩, ?_⟩
    refine Checked.bind_eq_ok.mpr ⟨_, storeAt_eq_ok.mpr ⟨by omega, rfl⟩, ?_⟩
    refine Checked.bind_eq_ok.mpr ⟨_, storeAt_eq_ok.mpr ⟨by omega, rfl⟩, ?_⟩
    exact storeAt_eq_ok.mpr ⟨by omega, (writeAddress_eq family port isLen inside).symm⟩

section Written

variable (transactionId : TransactionId)

theorem maskedIpv6_length (ipPart : String) :
    (xorBytes (ipv6Bytes ipPart) (xorKey transactionId)).length = 16 := by
  have keyLen : (xorKey transactionId).length = 16 := by
    rw [xorKey, List.length_append, cookieBytes_length, transactionId.length_eq]
  rw [xorBytes_length (by rw [ipv6Bytes_length, keyLen]), ipv6Bytes_length]

theorem maskedIpv4_length {ipPart : String} (enough : 4 ≤ (ipv4Octets ipPart).length) :
    (xorBytes ((ipv4Octets ipPart).take 4) cookieBytes).length = 4 := by
  rw [xorBytes_length (by rw [List.length_take_of_le enough, cookieBytes_length]),
    List.length_take_of_le enough]

theorem ipv4Octets_slice (ipPart : String) {octets : Bytes} :
    sliceAt (ipv4Octets ipPart) 0 4 = .ok octets <->
      4 ≤ (ipv4Octets ipPart).length ∧ octets = (ipv4Octets ipPart).take 4 := by
  rw [sliceAt, Nat.zero_add, List.drop_zero]
  by_cases enough : 4 ≤ (ipv4Octets ipPart).length
  · rw [if_pos enough, Except.ok.injEq]
    exact ⟨fun same => ⟨enough, same.symm⟩, fun both => both.2.symm⟩
  · rw [if_neg enough]
    constructor
    · intro impossible
      cases impossible
    · rintro ⟨contrary, _⟩
      exact absurd contrary enough

/-- A round is the write of one attribute. -/
theorem storeAddress_eq_write {buf masked : Bytes} {offset step : Nat} {family : UInt8}
    {port addrLen : UInt16} (isLen : addrLen = UInt16.ofNat (4 + masked.length))
    (isStep : step = padTo4 (8 + masked.length)) {after : Bytes × Nat} :
    (do
      let data ← storeAddress buf offset addrLen family port masked
      pure (data, offset + step)) = .ok after <->
      RequestField.write (buf, offset)
        (ATTR_XOR_PEER_ADDRESS, 0 :: family :: (u16Bytes port ++ masked)) = .ok after := by
  have isValue : (0 :: family :: (u16Bytes port ++ masked)).length = 4 + masked.length := by
    simp only [List.length_cons, List.length_append, u16Bytes_length]
    omega
  have isSize : RequestField.size
      (ATTR_XOR_PEER_ADDRESS, 0 :: family :: (u16Bytes port ++ masked)) = step := by
    rw [RequestField.size, isValue, isStep, ← Nat.add_assoc]
  rw [RequestField.write_eq_ok, isSize, isValue]
  constructor
  · intro stored
    rcases Checked.bind_eq_ok.mp stored with ⟨data, isData, rest⟩
    rcases (storeAddress_eq_ok isLen).mp isData with ⟨inside, rfl⟩
    cases rest
    exact ⟨inside, rfl⟩
  · rintro ⟨inside, rfl⟩
    exact Checked.bind_eq_ok.mpr ⟨_, (storeAddress_eq_ok isLen).mpr ⟨inside, rfl⟩, rfl⟩

theorem writePeer_v6 {peer ipPart : String} {port : UInt16}
    (isPeer : parsePeerAddr peer = .ok (ipPart, port, true)) (buf : Bytes) (offset : Nat) :
    writePeer transactionId (buf, offset) peer = (do
      let data ← storeAddress buf offset 20 AF_INET6 (port ^^^ 0x2112)
        (xorBytes (ipv6Bytes ipPart) (xorKey transactionId))
      pure (data, offset + 24)) := by
  rw [writePeer, isPeer]
  simp only [storeAddress, bind_assoc]
  rfl

theorem writePeer_v4 {peer ipPart : String} {port : UInt16} {octets : Bytes}
    (isPeer : parsePeerAddr peer = .ok (ipPart, port, false))
    (isOctets : sliceAt (ipv4Octets ipPart) 0 4 = .ok octets) (buf : Bytes) (offset : Nat) :
    writePeer transactionId (buf, offset) peer = (do
      let data ← storeAddress buf offset 8 AF_INET (port ^^^ 0x2112) (xorBytes octets cookieBytes)
      pure (data, offset + 12)) := by
  rw [writePeer, isPeer]
  simp only [storeAddress, bind_assoc, isOctets]
  rfl

/-- Fewer than four octets are a panic. -/
theorem writePeer_short {peer ipPart : String} {port : UInt16}
    (isPeer : parsePeerAddr peer = .ok (ipPart, port, false))
    (short : ¬ 4 ≤ (ipv4Octets ipPart).length) (written after : Bytes × Nat) :
    writePeer transactionId written peer ≠ .ok after := by
  intro wrote
  rw [writePeer, isPeer] at wrote
  rcases Checked.bind_eq_ok.mp wrote with ⟨_, _, wrote⟩
  rcases Checked.bind_eq_ok.mp wrote with ⟨_, _, wrote⟩
  rcases Checked.bind_eq_ok.mp wrote with ⟨_, _, wrote⟩
  rcases Checked.bind_eq_ok.mp wrote with ⟨_, _, wrote⟩
  rcases Checked.bind_eq_ok.mp wrote with ⟨octets, isOctets, _⟩
  exact short ((ipv4Octets_slice ipPart).mp isOctets).1

/-- A round of the writing loop writes the attribute of an address, or panics. -/
theorem writePeer_eq_ok {written after : Bytes × Nat} {peer : String} :
    writePeer transactionId written peer = .ok after <->
      exists address, writtenAddress peer = some address ∧
        (peerField transactionId address).write written = .ok after := by
  rcases written with ⟨buf, offset⟩
  cases isPeer : parsePeerAddr peer with
  | error error =>
      have isNone : writtenAddress peer = none := by rw [writtenAddress, isPeer]
      rw [writePeer, isPeer, isNone]
      constructor
      · intro impossible
        cases impossible
      · rintro ⟨address, impossible, _⟩
        cases impossible
  | ok parts =>
      rcases parts with ⟨ipPart, port, isIpv6⟩
      cases isIpv6 with
      | true =>
          have isAddress : writtenAddress peer =
              some (.v6 (ipv6Bytes ipPart) (ipv6Bytes_length ipPart), port) := by
            rw [writtenAddress, isPeer]
          have maskedLen := maskedIpv6_length transactionId ipPart
          rw [writePeer_v6 transactionId isPeer, storeAddress_eq_write (by rw [maskedLen]; rfl)
            (by rw [maskedLen]; rfl), isAddress]
          constructor
          · intro wrote
            exact ⟨_, rfl, wrote⟩
          · rintro ⟨address, same, wrote⟩
            cases same
            exact wrote
      | false =>
          by_cases enough : 4 ≤ (ipv4Octets ipPart).length
          · have isOctets := (ipv4Octets_slice ipPart).mpr ⟨enough, rfl⟩
            have isAddress : writtenAddress peer =
                some (.v4 ((ipv4Octets ipPart).take 4) (List.length_take_of_le enough), port) := by
              rw [writtenAddress, isPeer]
              exact dif_pos enough
            have maskedLen := maskedIpv4_length enough
            rw [writePeer_v4 transactionId isPeer isOctets, storeAddress_eq_write
              (by rw [maskedLen]; rfl) (by rw [maskedLen]; rfl), isAddress]
            constructor
            · intro wrote
              exact ⟨_, rfl, wrote⟩
            · rintro ⟨address, same, wrote⟩
              cases same
              exact wrote
          · have isNone : writtenAddress peer = none := by
              rw [writtenAddress, isPeer]
              exact dif_neg enough
            rw [isNone]
            constructor
            · intro wrote
              exact absurd wrote (writePeer_short transactionId isPeer enough (buf, offset) after)
            · rintro ⟨address, impossible, _⟩
              cases impossible

/-- The writing loop writes the attributes of the addresses, or panics. -/
theorem writePeers_eq_ok {peers : List String} {written after : Bytes × Nat} :
    peers.foldlM (writePeer transactionId) written = .ok after <->
      exists addresses, peers.mapM writtenAddress = some addresses ∧
        (addresses.map (peerField transactionId)).foldlM RequestField.write written = .ok after := by
  induction peers generalizing written with
  | nil =>
      constructor
      · intro isEnd
        exact ⟨[], rfl, isEnd⟩
      · rintro ⟨addresses, isNil, isEnd⟩
        cases isNil
        exact isEnd
  | cons peer peers ih =>
      rw [List.foldlM_cons, List.mapM_cons]
      constructor
      · intro wrote
        rcases Checked.bind_eq_ok.mp wrote with ⟨next, isNext, rest⟩
        rcases (writePeer_eq_ok transactionId).mp isNext with ⟨address, isAddress, first⟩
        rcases ih.mp rest with ⟨addresses, areAddresses, later⟩
        refine ⟨address :: addresses, ?_, ?_⟩
        · rw [isAddress, areAddresses]
          rfl
        · rw [List.map_cons, List.foldlM_cons, first]
          exact later
      · rintro ⟨addresses, areAddresses, wrote⟩
        rcases Option.bind_eq_some_iff.mp areAddresses with ⟨address, isAddress, areAddresses⟩
        rcases Option.bind_eq_some_iff.mp areAddresses with ⟨others, areOthers, isList⟩
        cases isList
        rw [List.map_cons, List.foldlM_cons] at wrote
        rcases Checked.bind_eq_ok.mp wrote with ⟨next, first, later⟩
        have isNext := (writePeer_eq_ok transactionId).mpr ⟨address, isAddress, first⟩
        exact Checked.bind_eq_ok.mpr ⟨next, isNext, ih.mpr ⟨others, areOthers, later⟩⟩

theorem peerAttrSize_of_parse {peer ipPart : String} {port : UInt16} {isIpv6 : Bool}
    (isPeer : parsePeerAddr peer = .ok (ipPart, port, isIpv6)) :
    peerAttrSize peer = padTo4 (4 + if isIpv6 then 20 else 8) := by
  rw [peerAttrSize, isPeer]

/-- The sizing loop counts what a written address takes. -/
theorem peerAttrSize_written {peer : String} {address : IpAddress × UInt16}
    (isAddress : writtenAddress peer = some address) :
    peerAttrSize peer = (peerField transactionId address).size := by
  rw [writtenAddress] at isAddress
  cases isPeer : parsePeerAddr peer with
  | error error =>
      rw [isPeer] at isAddress
      cases isAddress
  | ok parts =>
      rcases parts with ⟨ipPart, port, isIpv6⟩
      rw [isPeer] at isAddress
      have counted := peerAttrSize_of_parse isPeer
      have sized : forall ip : IpAddress, (peerField transactionId (ip, port)).size =
          padTo4 (4 + (4 + (ip.masked transactionId).length)) := by
        intro ip
        rw [RequestField.size, peerField, xorAddressValue]
        simp only [List.length_cons, List.length_append, u16Bytes_length]
        congr 1
        omega
      cases isIpv6 with
      | true =>
          cases isAddress
          have maskedLen : (xorBytes (ipv6Bytes ipPart)
              (cookieBytes ++ transactionId.bytes)).length = 16 :=
            maskedIpv6_length transactionId ipPart
          rw [counted, sized, IpAddress.masked, maskedLen]
          rfl
      | false =>
          rcases Option.dite_none_right_eq_some.mp isAddress with ⟨enough, same⟩
          cases same
          rw [counted, sized, IpAddress.masked, maskedIpv4_length enough]
          rfl

theorem peerAttrSizes_written {peers : List String} {addresses : List (IpAddress × UInt16)}
    (areAddresses : peers.mapM writtenAddress = some addresses) :
    (peers.map peerAttrSize).sum = RequestField.total (addresses.map (peerField transactionId)) := by
  induction peers generalizing addresses with
  | nil =>
      cases areAddresses
      rfl
  | cons peer peers ih =>
      rw [List.mapM_cons] at areAddresses
      rcases Option.bind_eq_some_iff.mp areAddresses with ⟨address, isAddress, areAddresses⟩
      rcases Option.bind_eq_some_iff.mp areAddresses with ⟨others, areOthers, isList⟩
      cases isList
      rw [List.map_cons, List.sum_cons, List.map_cons, RequestField.total_cons, ih areOthers,
        peerAttrSize_written transactionId isAddress]

/-- The attributes of a CreatePermission request. -/
def permissionFields (p2pToken : String) (addresses : List (IpAddress × UInt16)) :
    List RequestField :=
  (ATTR_P2P_TOKEN, asBytes p2pToken) :: addresses.map (peerField transactionId)

theorem permissionFields_total {peers : List String} {addresses : List (IpAddress × UInt16)}
    (p2pToken : String) (areAddresses : peers.mapM writtenAddress = some addresses) :
    padTo4 (4 + (asBytes p2pToken).length) + (peers.map peerAttrSize).sum =
      RequestField.total (permissionFields transactionId p2pToken addresses) := by
  rw [permissionFields, RequestField.total_cons, peerAttrSizes_written transactionId areAddresses,
    RequestField.size]

/-- The builder returns exactly for peers that it can write, with the request
of their addresses. -/
theorem buildCreatePermissionRequest_eq_ok {peers : List String} {p2pToken : String}
    {request : StunRequest} :
    buildCreatePermissionRequest peers p2pToken transactionId = .ok request <->
      exists addresses, peers.mapM writtenAddress = some addresses ∧
        buildRequest STUN_CREATE_PERMISSION_REQUEST
          (permissionFields transactionId p2pToken addresses) transactionId = .ok request := by
  constructor
  · intro built
    rw [buildCreatePermissionRequest] at built
    rcases Checked.bind_eq_ok.mp built with ⟨header, isHeader, built⟩
    rcases Checked.bind_eq_ok.mp built with ⟨tokened, isToken, built⟩
    rcases Checked.bind_eq_ok.mp built with ⟨written, isWritten, isRequest⟩
    rcases (writePeers_eq_ok transactionId).mp isWritten with ⟨addresses, areAddresses, wrote⟩
    refine ⟨addresses, areAddresses, ?_⟩
    rw [permissionFields_total transactionId p2pToken areAddresses] at isHeader
    refine Checked.bind_eq_ok.mpr ⟨header, isHeader, ?_⟩
    refine Checked.bind_eq_ok.mpr ⟨written, ?_, isRequest⟩
    rw [permissionFields, List.foldlM_cons]
    exact Checked.bind_eq_ok.mpr ⟨_, Checked.bind_eq_ok.mpr ⟨tokened, isToken, rfl⟩, wrote⟩
  · rintro ⟨addresses, areAddresses, built⟩
    rw [buildRequest, ← permissionFields_total transactionId p2pToken areAddresses] at built
    rcases Checked.bind_eq_ok.mp built with ⟨header, isHeader, built⟩
    rcases Checked.bind_eq_ok.mp built with ⟨written, wrote, isRequest⟩
    rw [permissionFields, List.foldlM_cons] at wrote
    rcases Checked.bind_eq_ok.mp wrote with ⟨next, isNext, later⟩
    rcases Checked.bind_eq_ok.mp isNext with ⟨tokened, isToken, same⟩
    cases same
    rw [buildCreatePermissionRequest]
    refine Checked.bind_eq_ok.mpr ⟨header, isHeader, ?_⟩
    refine Checked.bind_eq_ok.mpr ⟨tokened, isToken, ?_⟩
    refine Checked.bind_eq_ok.mpr ⟨written, ?_, isRequest⟩
    exact (writePeers_eq_ok transactionId).mpr ⟨addresses, areAddresses, later⟩

end Written

/-! ## The address that is named -/

/-- Four decimal octets, as `parse` reads them. -/
def namedIpv4 (ipText : String) : Option IpAddress :=
  match (ipText.toList.splitOn '.').mapM fun part => parseUnsigned 256 (String.ofList part) with
  | some octets =>
      if sized : (octets.map UInt8.ofNat).length = 4 then some (.v4 (octets.map UInt8.ofNat) sized)
      else none
  | none => none

def namedIpv6 (ipText : String) : Option IpAddress :=
  match isBytes : ipv6ToBytes ipText with
  | .ok bytes => some (.v6 bytes (ipv6ToBytes_length isBytes))
  | .error _ => none

/-- The address and port that a text names: the port behind the last colon, and
in front of it an IPv6 address if another colon is left, otherwise four octets. -/
def namedAddress (peer : String) : Option (IpAddress × UInt16) :=
  match parsePeerAddr peer with
  | .error _ => none
  | .ok (ipText, port, true) => (namedIpv6 ipText).map fun ip => (ip, port)
  | .ok (ipText, port, false) => (namedIpv4 ipText).map fun ip => (ip, port)

theorem octets_of_mapM {parts : List (List Char)} {octets : List Nat}
    (areOctets : parts.mapM (fun part => parseUnsigned 256 (String.ofList part)) = some octets) :
    parts.map (fun part => UInt8.ofNat ((parseUnsigned 256 (String.ofList part)).getD 0)) =
      octets.map UInt8.ofNat := by
  induction parts generalizing octets with
  | nil =>
      cases areOctets
      rfl
  | cons part parts ih =>
      rw [List.mapM_cons] at areOctets
      rcases Option.bind_eq_some_iff.mp areOctets with ⟨octet, isOctet, areOctets⟩
      rcases Option.bind_eq_some_iff.mp areOctets with ⟨others, areOthers, isList⟩
      cases isList
      rw [List.map_cons, List.map_cons, ih areOthers, isOctet, Option.getD_some]

/-- What a text names is what is written for it. -/
theorem writtenAddress_named {peer : String} {address : IpAddress × UInt16}
    (isNamed : namedAddress peer = some address) : writtenAddress peer = some address := by
  rw [namedAddress] at isNamed
  rw [writtenAddress]
  cases isPeer : parsePeerAddr peer with
  | error error =>
      rw [isPeer] at isNamed
      cases isNamed
  | ok parts =>
      rcases parts with ⟨ipText, port, isIpv6⟩
      rw [isPeer] at isNamed
      cases isIpv6 with
      | true =>
          rcases Option.map_eq_some_iff.mp isNamed with ⟨ip, isIp, rfl⟩
          rw [namedIpv6] at isIp
          split at isIp
          · rename_i bytes isBytes
            cases isIp
            have same : ipv6Bytes ipText = bytes := by rw [ipv6Bytes, isBytes]
            simp only [same]
          · cases isIp
      | false =>
          rcases Option.map_eq_some_iff.mp isNamed with ⟨ip, isIp, rfl⟩
          rw [namedIpv4] at isIp
          split at isIp
          · rename_i octets areOctets
            rcases Option.dite_none_right_eq_some.mp isIp with ⟨sized, isIp⟩
            cases isIp
            have same : ipv4Octets ipText = octets.map UInt8.ofNat := octets_of_mapM areOctets
            have enough : 4 ≤ (ipv4Octets ipText).length := by
              rw [same]
              exact Nat.le_of_eq sized.symm
            have whole : (ipv4Octets ipText).take 4 = octets.map UInt8.ofNat := by
              rw [same, List.take_of_length_le (Nat.le_of_eq sized)]
            dsimp only
            rw [dif_pos enough]
            simp only [whole]
          · cases isIp

theorem writtenAddresses_named {peers : List String}
    (areNamed : forall peer, peer ∈ peers -> (namedAddress peer).isSome) :
    exists addresses, peers.mapM writtenAddress = some addresses ∧
      List.Forall₂ (fun address peer => namedAddress peer = some address) addresses peers := by
  induction peers with
  | nil => exact ⟨[], rfl, .nil⟩
  | cons peer peers ih =>
      rcases Option.isSome_iff_exists.mp (areNamed peer List.mem_cons_self) with ⟨address, isNamed⟩
      rcases ih (fun other isMember => areNamed other (List.mem_cons_of_mem peer isMember)) with
        ⟨addresses, areAddresses, named⟩
      refine ⟨address :: addresses, ?_, .cons isNamed named⟩
      rw [List.mapM_cons, writtenAddress_named isNamed, areAddresses]
      rfl

/-! ## What a well-built request says -/

section Requests

variable (p2pToken : String) (transactionId : TransactionId)

def tokenEntry : RequestEntry := .plain ATTR_P2P_TOKEN (asBytes p2pToken)

def softwareEntry : RequestEntry := .plain ATTR_SOFTWARE softwareBytes

def BindingBuilt : Prop :=
  exists request, buildBindingRequest p2pToken transactionId = .ok request ∧
    request.Carries [tokenEntry p2pToken, softwareEntry]

def AllocateBuilt (family : UInt8) : Prop :=
  exists request, buildAllocateRequest p2pToken family transactionId = .ok request ∧
    request.Carries [.plain ATTR_REQUESTED_TRANSPORT [TURN_TRANSPORT_UDP, 0, 0, 0],
      .plain ATTR_REQUESTED_ADDRESS_FAMILY [family, 0, 0, 0], tokenEntry p2pToken, softwareEntry]

/-- Every peer address of the request is the one that a text of the list
names.  A text may be left out. -/
def PermissionsBuilt (peers : List String) : Prop :=
  exists request decoded named,
    buildCreatePermissionRequest peers p2pToken transactionId = .ok request ∧
    request.Carries (tokenEntry p2pToken :: decoded.map RequestEntry.peer) ∧
    List.Sublist named peers ∧
    List.Forall₂ (fun outcome peer => exists ip port,
      namedAddress peer = some (ip, port) ∧ outcome = some (ip.text, port)) decoded named

theorem requestEntry_token :
    requestEntry transactionId (ATTR_P2P_TOKEN, asBytes p2pToken) = tokenEntry p2pToken :=
  if_neg (show ATTR_P2P_TOKEN ≠ ATTR_XOR_PEER_ADDRESS by decide)

theorem requestEntry_software :
    requestEntry transactionId (ATTR_SOFTWARE, softwareBytes) = softwareEntry :=
  if_neg (show ATTR_SOFTWARE ≠ ATTR_XOR_PEER_ADDRESS by decide)

theorem requestEntry_peer (address : IpAddress × UInt16) :
    requestEntry transactionId (peerField transactionId address) =
      .peer (some (address.1.text, address.2)) := by
  rw [requestEntry, peerField, if_pos rfl, readXorAddress_value]

/-! ## Requests without peers -/

theorem buildBindingRequest_eq :
    buildBindingRequest p2pToken transactionId = buildRequest STUN_BINDING_REQUEST
      [(ATTR_P2P_TOKEN, asBytes p2pToken), (ATTR_SOFTWARE, softwareBytes)] transactionId := by
  simp only [buildBindingRequest, buildRequest, List.foldlM_cons, List.foldlM_nil,
    RequestField.write, bind_assoc, pure_bind]
  rfl

theorem buildAllocateRequest_eq (family : UInt8) :
    buildAllocateRequest p2pToken family transactionId = buildRequest STUN_ALLOCATE_REQUEST
      [(ATTR_REQUESTED_TRANSPORT, [TURN_TRANSPORT_UDP, 0, 0, 0]),
        (ATTR_REQUESTED_ADDRESS_FAMILY, [family, 0, 0, 0]), (ATTR_P2P_TOKEN, asBytes p2pToken),
        (ATTR_SOFTWARE, softwareBytes)] transactionId := by
  have total : RequestField.total [(ATTR_REQUESTED_TRANSPORT, [TURN_TRANSPORT_UDP, 0, 0, 0]),
      (ATTR_REQUESTED_ADDRESS_FAMILY, [family, 0, 0, 0]), (ATTR_P2P_TOKEN, asBytes p2pToken),
      (ATTR_SOFTWARE, softwareBytes)] = padTo4 (4 + 4) + padTo4 (4 + 4) +
        padTo4 (4 + (asBytes p2pToken).length) + padTo4 (4 + softwareBytes.length) := by
    simp only [RequestField.total_cons, RequestField.size, List.length_cons, List.length_nil,
      Nat.reduceAdd]
    simp only [RequestField.total, List.map_nil, List.sum_nil]
    omega
  rw [buildAllocateRequest, buildRequest, total]
  simp only [List.foldlM_cons, List.foldlM_nil, RequestField.write, bind_assoc, pure_bind]
  rfl

/-- A request of attributes that are no peer addresses is built as it should
be exactly when they fit the length field. -/
theorem plainRequest_iff (msgType : UInt16) (fields : List RequestField)
    (entries : List RequestEntry) (same : fields.map (requestEntry transactionId) = entries) :
    (exists request, buildRequest msgType fields transactionId = .ok request ∧
      request.Carries entries) <-> RequestField.total fields < 65536 := by
  constructor
  · rintro ⟨request, built, _⟩
    exact (buildRequest_returns_iff msgType fields transactionId).mp ⟨request, built⟩
  · intro fits
    rcases buildRequest_carries msgType fields transactionId fits with ⟨request, built, _, carries⟩
    rw [same] at carries
    exact ⟨request, built, carries⟩

theorem softwareBytes_length : softwareBytes.length = 5 := by decide +kernel

theorem bindingBuilt_iff :
    BindingBuilt p2pToken transactionId <->
      padTo4 (4 + (asBytes p2pToken).length) + 12 < 65536 := by
  have total : RequestField.total [(ATTR_P2P_TOKEN, asBytes p2pToken),
      (ATTR_SOFTWARE, softwareBytes)] = padTo4 (4 + (asBytes p2pToken).length) + 12 := by
    simp only [RequestField.total_cons, RequestField.size, softwareBytes_length]
    rfl
  rw [BindingBuilt, buildBindingRequest_eq, ← total]
  refine plainRequest_iff transactionId STUN_BINDING_REQUEST _ _ ?_
  rw [List.map_cons, List.map_cons, List.map_nil, requestEntry_token, requestEntry_software]

theorem allocateBuilt_iff (family : UInt8) :
    AllocateBuilt p2pToken transactionId family <->
      padTo4 (4 + (asBytes p2pToken).length) + 28 < 65536 := by
  have total : RequestField.total [(ATTR_REQUESTED_TRANSPORT, [TURN_TRANSPORT_UDP, 0, 0, 0]),
      (ATTR_REQUESTED_ADDRESS_FAMILY, [family, 0, 0, 0]), (ATTR_P2P_TOKEN, asBytes p2pToken),
      (ATTR_SOFTWARE, softwareBytes)] = padTo4 (4 + (asBytes p2pToken).length) + 28 := by
    simp only [RequestField.total_cons, RequestField.size, softwareBytes_length, List.length_cons,
      List.length_nil]
    simp only [RequestField.total, List.map_nil, List.sum_nil, padTo4]
    omega
  rw [AllocateBuilt, buildAllocateRequest_eq, ← total]
  refine plainRequest_iff transactionId STUN_ALLOCATE_REQUEST _ _ ?_
  rw [List.map_cons, List.map_cons, List.map_cons, List.map_cons, List.map_nil,
    requestEntry_token, requestEntry_software]
  rfl

/-! ## Requests with peers -/

theorem permissionFields_entries (addresses : List (IpAddress × UInt16)) :
    (permissionFields transactionId p2pToken addresses).map (requestEntry transactionId) =
      tokenEntry p2pToken ::
        (addresses.map fun address => some (address.1.text, address.2)).map RequestEntry.peer := by
  rw [permissionFields, List.map_cons, requestEntry_token, List.map_map, List.map_map]
  congr 1
  refine List.map_congr_left ?_
  intro address _
  exact requestEntry_peer transactionId address

/-- What the builder returns for peers that it can write. -/
theorem createPermission_carries {peers : List String} {addresses : List (IpAddress × UInt16)}
    (areAddresses : peers.mapM writtenAddress = some addresses)
    (fits : padTo4 (4 + (asBytes p2pToken).length) + (peers.map peerAttrSize).sum < 65536) :
    exists request,
      buildCreatePermissionRequest peers p2pToken transactionId = .ok request ∧
      request.transactionId = transactionId ∧
      request.Carries (tokenEntry p2pToken ::
        (addresses.map fun address => some (address.1.text, address.2)).map RequestEntry.peer) := by
  rw [permissionFields_total transactionId p2pToken areAddresses] at fits
  rcases buildRequest_carries STUN_CREATE_PERMISSION_REQUEST _ transactionId fits with
    ⟨request, built, isId, carries⟩
  rw [permissionFields_entries] at carries
  exact ⟨request, (buildCreatePermissionRequest_eq_ok transactionId).mpr
    ⟨addresses, areAddresses, built⟩, isId, carries⟩

theorem exists_of_forall₂ {α β : Type} {related : α -> β -> Prop} {first : List α} {second : List β}
    (pairs : List.Forall₂ related first second) {right : β} (isMember : right ∈ second) :
    exists left, related left right := by
  induction pairs with
  | nil => cases isMember
  | cons here _ ih =>
      rcases List.mem_cons.mp isMember with rfl | later
      · exact ⟨_, here⟩
      · exact ih later

theorem permissionsBuilt_iff (peers : List String) :
    PermissionsBuilt p2pToken transactionId peers <->
      padTo4 (4 + (asBytes p2pToken).length) + (peers.map peerAttrSize).sum < 65536 ∧
        forall peer, peer ∈ peers -> (namedAddress peer).isSome := by
  constructor
  · rintro ⟨request, decoded, named, built, carries, isSublist, areNamed⟩
    rcases (buildCreatePermissionRequest_eq_ok transactionId).mp built with
      ⟨addresses, areAddresses, isRequest⟩
    have fits := (buildRequest_returns_iff _ _ _).mp ⟨request, isRequest⟩
    rw [← permissionFields_total transactionId p2pToken areAddresses] at fits
    refine ⟨fits, ?_⟩
    -- Every peer of the list has an entry, so that none has been left out.
    rcases createPermission_carries p2pToken transactionId areAddresses fits with
      ⟨again, rebuilt, _, expected⟩
    rw [rebuilt] at built
    cases built
    have read := expected.2.symm.trans carries.2
    have lists := congrArg (fun result => result.1) (Except.ok.inj read)
    have entries := (List.cons.inj lists).2
    have count : decoded.length = peers.length := by
      have lengths := congrArg List.length entries
      rw [List.length_map, List.length_map, List.length_map, length_of_mapM areAddresses] at lengths
      exact lengths.symm
    have whole : named = peers :=
      isSublist.eq_of_length (areNamed.length_eq.symm.trans count)
    intro peer isMember
    rw [← whole] at isMember
    rcases exists_of_forall₂ areNamed isMember with ⟨_, ip, port, isNamed, _⟩
    rw [isNamed]
    rfl
  · rintro ⟨fits, areNamed⟩
    rcases writtenAddresses_named areNamed with ⟨addresses, areAddresses, named⟩
    rcases createPermission_carries p2pToken transactionId areAddresses fits with
      ⟨request, built, _, carries⟩
    refine ⟨request, _, peers, built, carries, List.Sublist.refl peers, ?_⟩
    refine List.forall₂_map_left_iff.mpr (named.imp ?_)
    intro address peer isNamed
    exact ⟨address.1, address.2, isNamed, rfl⟩

end Requests

/-- Requests are built, with every peer address one that is named, exactly for
tokens and lists that fit the length field and peers that name an address. -/
theorem requests_built_iff (p2pToken : String) (family : UInt8) (peers : List String)
    (transactionId : TransactionId) :
    (BindingBuilt p2pToken transactionId <->
      padTo4 (4 + (asBytes p2pToken).length) + 12 < 65536) ∧
    (AllocateBuilt p2pToken transactionId family <->
      padTo4 (4 + (asBytes p2pToken).length) + 28 < 65536) ∧
    (PermissionsBuilt p2pToken transactionId peers <->
      padTo4 (4 + (asBytes p2pToken).length) + (peers.map peerAttrSize).sum < 65536 ∧
        forall peer, peer ∈ peers -> (namedAddress peer).isSome) :=
  ⟨bindingBuilt_iff p2pToken transactionId, allocateBuilt_iff p2pToken transactionId family,
    permissionsBuilt_iff p2pToken transactionId peers⟩

/-- For `1.2.3.999:80` the request permits the peer `1.2.3.0`. -/
theorem malformed_octet_permitted :
    (buildCreatePermissionRequest ["1.2.3.999:80"] "" ⟨zeros 12, zeros_length 12⟩ >>= fun request =>
      readRequest request.data request.transactionId) =
        .ok ([.plain ATTR_P2P_TOKEN [], .peer (some ("1.2.3.0", 80))], 36) ∧
    ¬ forall (p2pToken : String) (family : UInt8) (peers : List String)
        (transactionId : TransactionId),
      BindingBuilt p2pToken transactionId ∧ AllocateBuilt p2pToken transactionId family ∧
        PermissionsBuilt p2pToken transactionId peers := by
  constructor
  · decide +kernel
  · intro all
    have built := (all "" 1 ["1.2.3.999:80"] ⟨zeros 12, zeros_length 12⟩).2.2
    have isNamed := ((permissionsBuilt_iff _ _ _).mp built).2 "1.2.3.999:80" List.mem_cons_self
    exact absurd isNamed (by decide +kernel)

end P2pSdk
