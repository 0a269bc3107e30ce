import P2pSdk.Core.Types
import P2pSdk.Foundation.Text

namespace P2pSdk

open Foundation

/-!
# STUN codec utilities (`stun/codec.rs`)

Padding, big-endian fields of a message buffer, and the XOR address attribute.
A read outside the buffer is a panic; a malformed attribute is an error value.
-/

/-- STUN header size: type, length, magic cookie, transaction id. -/
def STUN_HEADER_LEN : Nat := 20

/-- Round up to the next multiple of 4. -/
def padTo4 (n : Nat) : Nat := (n + 3) / 4 * 4

theorem padTo4_ge (n : Nat) : n ≤ padTo4 n := by
  unfold padTo4
  omega

theorem padTo4_lt (n : Nat) : padTo4 n < n + 4 := by
  unfold padTo4
  omega

theorem padTo4_add_four (n : Nat) : padTo4 (4 + n) = 4 + padTo4 n := by
  unfold padTo4
  omega

/-! ## Fields of a buffer -/

def readU16 (buf : Bytes) (offset : Nat) : Checked UInt16 := do
  let bytes ← sliceAt buf offset 2
  pure (UInt16.ofNat (beNat bytes))

def readU32 (buf : Bytes) (offset : Nat) : Checked UInt32 := do
  let bytes ← sliceAt buf offset 4
  pure (UInt32.ofNat (beNat bytes))

def u16Bytes (value : UInt16) : Bytes := beBytes 2 value.toNat

def u32Bytes (value : UInt32) : Bytes := beBytes 4 value.toNat

@[simp] theorem u16Bytes_length (value : UInt16) : (u16Bytes value).length = 2 := beBytes_length _ _

@[simp] theorem u32Bytes_length (value : UInt32) : (u32Bytes value).length = 4 := beBytes_length _ _

def writeU16 (buf : Bytes) (offset : Nat) (value : UInt16) : Bytes :=
  writeAt buf offset (u16Bytes value)

def writeU32 (buf : Bytes) (offset : Nat) (value : UInt32) : Bytes :=
  writeAt buf offset (u32Bytes value)

@[simp] theorem ofNat_beNat_u16Bytes (value : UInt16) :
    UInt16.ofNat (beNat (u16Bytes value)) = value := by
  rw [u16Bytes, beNat_beBytes_of_lt (show value.toNat < 256 ^ 2 from value.toNat_lt),
    UInt16.ofNat_toNat]

@[simp] theorem ofNat_beNat_u32Bytes (value : UInt32) :
    UInt32.ofNat (beNat (u32Bytes value)) = value := by
  rw [u32Bytes, beNat_beBytes_of_lt (show value.toNat < 256 ^ 4 from value.toNat_lt),
    UInt32.ofNat_toNat]

/-- A 16-bit field that follows a known prefix is read back exactly. -/
theorem readU16_append (before after : Bytes) (value : UInt16) (offset : Nat)
    (here : offset = before.length) :
    readU16 (before ++ (u16Bytes value ++ after)) offset = .ok value := by
  subst here
  have read := sliceAt_append before (u16Bytes value) after
  rw [u16Bytes_length] at read
  simp only [readU16, read, Checked.ok_bind, Checked.pure_eq_ok, ofNat_beNat_u16Bytes]

theorem readU32_append (before after : Bytes) (value : UInt32) (offset : Nat)
    (here : offset = before.length) :
    readU32 (before ++ (u32Bytes value ++ after)) offset = .ok value := by
  subst here
  have read := sliceAt_append before (u32Bytes value) after
  rw [u32Bytes_length] at read
  simp only [readU32, read, Checked.ok_bind, Checked.pure_eq_ok, ofNat_beNat_u32Bytes]

/-! ## Addresses -/

inductive StunCodecError where
  | bufferTooShort (need have_ : Nat) (context : String)
  | unsupportedFamily (family : UInt8)
  | invalidIpv6 (text : String)
  deriving DecidableEq, Repr

/-- The value of a hexadecimal digit. -/
def hexDigit (char : Char) : Option Nat :=
  if '0' ≤ char ∧ char ≤ '9' then some (char.toNat - 48)
  else if 'a' ≤ char ∧ char ≤ 'f' then some (char.toNat - 87)
  else if 'A' ≤ char ∧ char ≤ 'F' then some (char.toNat - 55)
  else none

/-- `u16::from_str_radix(text, 16)`: an optional plus sign, then at least one
digit, within range. -/
def fromStrRadix16 (text : List Char) : Option Nat :=
  let digits :=
    match text with
    | '+' :: rest => rest
    | chars => chars
  if digits = [] then none
  else
    match digits.foldlM (fun value char => (hexDigit char).map fun digit => value * 16 + digit) 0 with
    | some value => if value < 65536 then some value else none
    | none => none

/-- The groups of an address text: a single `::` stands for the zero groups
that are missing. -/
def ipv6Groups (ip : String) : Option (List (List Char)) :=
  match splitAtPair ':' ':' ip.toList with
  | [whole] => some (whole.splitOn ':')
  | [first, second] =>
      let left := if first = [] then [] else first.splitOn ':'
      let right := if second = [] then [] else second.splitOn ':'
      if 8 < left.length + right.length then none
      else
        let missing := 8 - left.length - right.length
        some (left ++ List.replicate missing ['0'] ++ right)
  | _ => none

/-- An IPv6 address text as 16 big-endian bytes. -/
def ipv6ToBytes (ip : String) : Except StunCodecError Bytes :=
  match ipv6Groups ip with
  | none => .error (.invalidIpv6 ip)
  | some groups =>
      if groups.length ≠ 8 then .error (.invalidIpv6 ip)
      else
        match groups.mapM fromStrRadix16 with
        | none => .error (.invalidIpv6 ip)
        | some values => .ok (values.flatMap (beBytes 2))

theorem ipv6ToBytes_length {ip : String} {bytes : Bytes} (isOk : ipv6ToBytes ip = .ok bytes) :
    bytes.length = 16 := by
  unfold ipv6ToBytes at isOk
  split at isOk
  · cases isOk
  · rename_i groups _
    by_cases eight : groups.length = 8
    · rw [if_neg (not_not.mpr eight)] at isOk
      split at isOk
      · cases isOk
      · rename_i values isValues
        cases isOk
        have counted : values.length = groups.length := length_of_mapM isValues
        simp [List.length_flatMap, counted, eight]
    · rw [if_pos eight] at isOk
      cases isOk

/-- `{val:x}`. -/
def lowerHex (value : Nat) : String := String.ofList (Nat.toDigits 16 value)

/-- Sixteen bytes as eight colon-separated hex groups, without `::` compression. -/
def ipv6ToString (bytes : Bytes) : String :=
  String.intercalate ":" ((List.range 8).map fun i =>
    lowerHex ((bytes.getD (i * 2) 0).toNat * 256 + (bytes.getD (i * 2 + 1) 0).toNat))

/-- `format!("{b0}.{b1}.{b2}.{b3}")` over the four bytes of an IPv4 address. -/
def ipv4ToString (bytes : Bytes) : String :=
  String.intercalate "." (bytes.map fun byte => toString byte.toNat)

/-- XOR of two byte strings, position by position. -/
def xorBytes (left right : Bytes) : Bytes := List.zipWith (· ^^^ ·) left right

/-- The magic cookie as the four key bytes of an XOR address. -/
def cookieBytes : Bytes := u32Bytes STUN_MAGIC_COOKIE

/-- Parse the value of an XOR-MAPPED-ADDRESS, XOR-RELAYED-ADDRESS or
XOR-PEER-ADDRESS attribute.  `offset` is that of the value, `attrLen` the
length its header claims. -/
def parseXorAddress (buf : Bytes) (offset attrLen : Nat) (transactionId : Bytes) :
    Checked (Except StunCodecError (String × UInt16)) :=
  if attrLen < 4 then
    pure (.error (.bufferTooShort 4 attrLen "XOR address attribute value"))
  else if buf.length < offset + 4 then
    pure (.error (.bufferTooShort (offset + 4) buf.length "XOR address buffer"))
  else do
    let family ← byteAt buf (offset + 1)
    let port ← readU16 buf (offset + 2)
    let xPort := port ^^^ 0x2112
    if family = AF_INET then
      if attrLen < 8 then
        pure (.error (.bufferTooShort 8 attrLen "XOR IPv4 address"))
      else if buf.length < offset + 8 then
        pure (.error (.bufferTooShort (offset + 8) buf.length "XOR IPv4 buffer"))
      else do
        let addr ← sliceAt buf (offset + 4) 4
        pure (.ok (ipv4ToString (xorBytes addr cookieBytes), xPort))
    else if family = AF_INET6 then
      if attrLen < 20 then
        pure (.error (.bufferTooShort 20 attrLen "XOR IPv6 address"))
      else if buf.length < offset + 20 then
        pure (.error (.bufferTooShort (offset + 20) buf.length "XOR IPv6 buffer"))
      else do
        let addr ← sliceAt buf (offset + 4) 16
        let key ← sliceAt transactionId 0 12
        pure (.ok (ipv6ToString (xorBytes addr (cookieBytes ++ key)), xPort))
    else
      pure (.error (.unsupportedFamily family))

end P2pSdk
