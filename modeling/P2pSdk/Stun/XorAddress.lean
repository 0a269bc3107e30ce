import P2pSdk.Ice.StunWire

namespace P2pSdk

open Foundation

/-!
# The XOR form of an address

An address attribute holds a reserved byte, the family, and the port and the
address combined with a key: the magic cookie, and for IPv6 the transaction id
behind it.  The encoder is written here from the format; `readXorAddress` is
what a value says when it is looked at on its own.  The decoder of the SDK,
which works at an offset in a message, reads just that.
-/

/-! ## Keys -/

theorem xorBytes_length {left right : Bytes} (same : left.length = right.length) :
    (xorBytes left right).length = left.length := by
  rw [xorBytes, List.length_zipWith, same, Nat.min_self]

/-- The key undoes itself. -/
theorem xorBytes_cancel {bytes key : Bytes} (same : bytes.length = key.length) :
    xorBytes (xorBytes bytes key) key = bytes := by
  induction bytes generalizing key with
  | nil => rfl
  | cons byte bytes ih =>
      cases key with
      | nil => cases same
      | cons first key =>
          have rest := ih (Nat.succ.inj same)
          unfold xorBytes at rest ⊢
          rw [List.zipWith_cons_cons, List.zipWith_cons_cons, rest, UInt8.xor_assoc,
            UInt8.xor_self, UInt8.xor_zero]

theorem cookieBytes_length : cookieBytes.length = 4 := u32Bytes_length _

/-! ## Addresses -/

/-- A joined text of two parts or more contains the separator. -/
theorem intercalate_ne_empty (separator : String) (nonempty : separator ≠ "") (first second : String)
    (rest : List String) : separator.intercalate (first :: second :: rest) ≠ "" := by
  intro isEmpty
  have letters := congrArg String.toList isEmpty
  rw [String.intercalate_cons_cons, String.toList_append, String.toList_append] at letters
  have parts := List.append_eq_nil_iff.mp letters
  have middle := List.append_eq_nil_iff.mp parts.1
  exact nonempty (String.toList_eq_nil_iff.mp middle.2)

/-- An IP address of either family. -/
inductive IpAddress where
  | v4 (octets : Bytes) (sized : octets.length = 4)
  | v6 (bytes : Bytes) (sized : bytes.length = 16)

namespace IpAddress

def text : IpAddress -> String
  | v4 octets _ => ipv4ToString octets
  | v6 bytes _ => ipv6ToString bytes

def family : IpAddress -> UInt8
  | v4 _ _ => AF_INET
  | v6 _ _ => AF_INET6

/-- The address under its key. -/
def masked (transactionId : TransactionId) : IpAddress -> Bytes
  | v4 octets _ => xorBytes octets cookieBytes
  | v6 bytes _ => xorBytes bytes (cookieBytes ++ transactionId.bytes)

theorem masked_length (transactionId : TransactionId) (ip : IpAddress) :
    (ip.masked transactionId).length = 4 ∨ (ip.masked transactionId).length = 16 := by
  cases ip with
  | v4 octets sized =>
      refine Or.inl ?_
      rw [masked, xorBytes_length (by rw [sized, cookieBytes_length]), sized]
  | v6 bytes sized =>
      refine Or.inr ?_
      rw [masked, xorBytes_length (by rw [List.length_append, sized, cookieBytes_length,
        transactionId.length_eq]), sized]

theorem text_ne_empty (ip : IpAddress) : ip.text ≠ "" := by
  cases ip with
  | v4 octets sized =>
      rcases octets with _ | ⟨first, _ | ⟨second, rest⟩⟩
      · cases sized
      · cases sized
      · rw [text, ipv4ToString, List.map_cons, List.map_cons]
        exact intercalate_ne_empty "." (by decide) _ _ _
  | v6 bytes sized =>
      rw [text, ipv6ToString, List.range_succ_eq_map, List.map_cons, List.range_succ_eq_map,
        List.map_cons, List.map_cons]
      exact intercalate_ne_empty ":" (by decide) _ _ _

end IpAddress

/-- The value of an address attribute. -/
def xorAddressValue (transactionId : TransactionId) (reserved : UInt8) (ip : IpAddress)
    (port : UInt16) : Bytes :=
  reserved :: ip.family :: (u16Bytes (port ^^^ 0x2112) ++ ip.masked transactionId)

theorem xorAddressValue_length (transactionId : TransactionId) (reserved : UInt8)
    (ip : IpAddress) (port : UInt16) :
    (xorAddressValue transactionId reserved ip port).length = 8 ∨
      (xorAddressValue transactionId reserved ip port).length = 20 := by
  have masked := ip.masked_length transactionId
  simp only [xorAddressValue, List.length_cons, List.length_append, u16Bytes_length]
  omega

/-! ## Reading a value -/

/-- The address and port that a value says, if it says any. -/
def readXorAddress (transactionId : Bytes) : Bytes -> Option (String × UInt16)
  | _ :: family :: high :: low :: address =>
      let port := UInt16.ofNat (beNat [high, low]) ^^^ 0x2112
      if family = AF_INET ∧ 4 ≤ address.length then
        some (ipv4ToString (xorBytes (address.take 4) cookieBytes), port)
      else if family = AF_INET6 ∧ 16 ≤ address.length then
        some (ipv6ToString (xorBytes (address.take 16) (cookieBytes ++ transactionId)), port)
      else none
  | _ => none

/-- What is encoded is read. -/
theorem readXorAddress_value (transactionId : TransactionId) (reserved : UInt8) (ip : IpAddress)
    (port : UInt16) :
    readXorAddress transactionId.bytes (xorAddressValue transactionId reserved ip port) =
      some (ip.text, port) := by
  rcases split : u16Bytes (port ^^^ 0x2112) with _ | ⟨high, _ | ⟨low, _ | ⟨more, rest⟩⟩⟩
  · have length := u16Bytes_length (port ^^^ 0x2112)
    rw [split] at length
    cases length
  · have length := u16Bytes_length (port ^^^ 0x2112)
    rw [split] at length
    cases length
  · have unmasked : UInt16.ofNat (beNat [high, low]) ^^^ 0x2112 = port := by
      rw [← split, ofNat_beNat_u16Bytes, UInt16.xor_assoc, UInt16.xor_self, UInt16.xor_zero]
    rw [xorAddressValue, split]
    simp only [List.cons_append, List.nil_append, readXorAddress, unmasked]
    cases ip with
    | v4 octets sized =>
        have same : octets.length = cookieBytes.length := by rw [sized, cookieBytes_length]
        have length : (xorBytes octets cookieBytes).length = 4 := by
          rw [xorBytes_length same, sized]
        simp only [IpAddress.family, IpAddress.masked, IpAddress.text]
        rw [if_pos ⟨trivial, Nat.le_of_eq length.symm⟩, List.take_of_length_le (Nat.le_of_eq length),
          xorBytes_cancel same]
    | v6 bytes sized =>
        have same : bytes.length = (cookieBytes ++ transactionId.bytes).length := by
          rw [List.length_append, sized, cookieBytes_length, transactionId.length_eq]
        have length : (xorBytes bytes (cookieBytes ++ transactionId.bytes)).length = 16 := by
          rw [xorBytes_length same, sized]
        have notV4 : ¬ (AF_INET6 = AF_INET ∧
            4 ≤ (xorBytes bytes (cookieBytes ++ transactionId.bytes)).length) := by
          rintro ⟨contrary, _⟩
          exact absurd contrary (by decide)
        simp only [IpAddress.family, IpAddress.masked, IpAddress.text]
        rw [if_neg notV4, if_pos ⟨trivial, Nat.le_of_eq length.symm⟩,
          List.take_of_length_le (Nat.le_of_eq length), xorBytes_cancel same]
  · have length := u16Bytes_length (port ^^^ 0x2112)
    rw [split] at length
    cases length

/-- The decoder on a value that is the whole buffer. -/
theorem parseXorAddress_whole (value : Bytes) {transactionId : Bytes}
    (idLong : transactionId.length = 12) :
    exists outcome, parseXorAddress value 0 value.length transactionId = .ok outcome ∧
      outcome.toOption = readXorAddress transactionId value := by
  rcases value with _ | ⟨reserved, _ | ⟨family, _ | ⟨high, _ | ⟨low, address⟩⟩⟩⟩
  · exact ⟨_, rfl, rfl⟩
  · exact ⟨_, rfl, rfl⟩
  · exact ⟨_, rfl, rfl⟩
  · exact ⟨_, rfl, rfl⟩
  generalize whole : reserved :: family :: high :: low :: address = value
  have length : value.length = address.length + 4 := by
    rw [← whole]
    rfl
  have isFamily : byteAt value (0 + 1) = .ok family := by rw [← whole]; rfl
  have isPort : readU16 value (0 + 2) = .ok (UInt16.ofNat (beNat [high, low])) := by
    rw [readU16, sliceAt, if_pos (by omega), ← whole]
    rfl
  have address_ : value.drop (0 + 4) = address := by
    rw [← whole]
    rfl
  have key : sliceAt transactionId 0 12 = .ok transactionId := by
    rw [sliceAt, if_pos (by omega), List.drop_zero, List.take_of_length_le (by omega)]
  rw [parseXorAddress, if_neg (by omega), if_neg (by omega), isFamily, isPort, ← whole]
  simp only [Checked.ok_bind, readXorAddress]
  rw [whole]
  by_cases v4 : family = AF_INET
  · rw [if_pos v4]
    by_cases short : address.length < 4
    · have notV6 : ¬ (family = AF_INET6 ∧ 16 ≤ address.length) := by omega
      rw [if_pos (by omega), if_neg (by omega), if_neg notV6]
      exact ⟨_, rfl, rfl⟩
    · rw [if_neg (by omega), if_neg (by omega), if_pos ⟨v4, by omega⟩, sliceAt,
        if_pos (by omega), address_]
      exact ⟨_, rfl, rfl⟩
  · have notV4 : ¬ (family = AF_INET ∧ 4 ≤ address.length) := fun both => v4 both.1
    rw [if_neg v4, if_neg notV4]
    by_cases v6 : family = AF_INET6
    · rw [if_pos v6]
      by_cases short : address.length < 16
      · rw [if_pos (by omega), if_neg (by omega)]
        exact ⟨_, rfl, rfl⟩
      · rw [if_neg (by omega), if_neg (by omega), if_pos ⟨v6, by omega⟩, sliceAt,
          if_pos (by omega), address_, key]
        exact ⟨_, rfl, rfl⟩
    · have notV6 : ¬ (family = AF_INET6 ∧ 16 ≤ address.length) := fun both => v6 both.1
      rw [if_neg v6, if_neg notV6]
      exact ⟨_, rfl, rfl⟩

/-- The decoder reads what the value of an attribute says, wherever it stands. -/
theorem parseXorAddress_value (before value after : Bytes) {transactionId : Bytes}
    (idLong : transactionId.length = 12) :
    exists outcome,
      parseXorAddress (before ++ (value ++ after)) before.length value.length transactionId =
        .ok outcome ∧ outcome.toOption = readXorAddress transactionId value := by
  have moved := @parseXorAddress_inside before value after 0 value.length
    (by omega) transactionId
  rw [Nat.add_zero] at moved
  rw [moved]
  exact parseXorAddress_whole value idLong

end P2pSdk
