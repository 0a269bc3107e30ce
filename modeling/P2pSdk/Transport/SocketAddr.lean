import P2pSdk.Stun.Ipv6Text
import P2pSdk.Stun.PermissionRoundTrip

namespace P2pSdk

open Foundation

/-!
# Socket addresses as texts (`std::net`)

The standard library prints an IPv6 address without brackets, with its longest
run of zero groups left out, and reads the address of an IPv6 socket with
brackets only.  Printer and reader are given here as the transport uses them.
A reader takes letters from the front of a text and returns what is left.
-/

/-! ## Printing -/

namespace IpAddress

/-- The runs of zeros of a list from position `i` on: the first longest one so
far and the one that is open, as start and length. -/
def longestZeros : Nat -> Nat × Nat -> Nat × Nat -> List Nat -> Nat × Nat
  | _, longest, _, [] => longest
  | i, longest, current, segment :: segments =>
      if segment = 0 then
        let current := (if current.2 = 0 then i else current.1, current.2 + 1)
        longestZeros (i + 1) (if longest.2 < current.2 then current else longest) current segments
      else longestZeros (i + 1) longest (0, 0) segments

/-- Groups with a colon between them. -/
def fmtSubslice (segments : List Nat) : String := String.intercalate ":" (segments.map lowerHex)

/-- The eight 16-bit segments of an address. -/
def segments (bytes : Bytes) : List Nat := (List.range 8).map (pairAt bytes)

/-- `Ipv6Addr::to_string`. -/
def ipv6Display (bytes : Bytes) : String :=
  if (segments bytes).take 6 = [0, 0, 0, 0, 0, 0xffff] then "::ffff:" ++ ipv4ToString (bytes.drop 12)
  else
    let zeroes := longestZeros 0 (0, 0) (0, 0) (segments bytes)
    if 1 < zeroes.2 then
      fmtSubslice ((segments bytes).take zeroes.1) ++ "::" ++
        fmtSubslice ((segments bytes).drop (zeroes.1 + zeroes.2))
    else fmtSubslice (segments bytes)

/-- `IpAddr::to_string`. -/
def display : IpAddress -> String
  | v4 octets _ => ipv4ToString octets
  | v6 bytes _ => ipv6Display bytes

/-- `IpAddr::is_ipv4`. -/
def isIpv4 : IpAddress -> Bool
  | v4 _ _ => true
  | v6 _ _ => false

end IpAddress

example : (IpAddress.v6 [0x20, 1, 0xd, 0xb8, 0, 0, 0, 0, 0, 0, 0, 0, 0, 0, 0, 1] rfl).display =
    "2001:db8::1" := by
  decide +kernel

/-! ## Reading -/

/-- A reader of a value at the front of a text. -/
abbrev Reader (α : Type) := List Char -> Option (α × List Char)

/-- `char::to_digit(10)`. -/
def decimalDigit (char : Char) : Option Nat := if char.isDigit then some (char.toNat - 48) else none

/-- The digits in front of a text, and the text behind them. -/
def spanDigits (digit : Char -> Option Nat) : List Char -> List Nat × List Char
  | [] => ([], [])
  | char :: rest =>
      match digit char with
      | some value => (value :: (spanDigits digit rest).1, (spanDigits digit rest).2)
      | none => ([], char :: rest)

/-- `read_number`: at least one digit, at most `maxDigits`, without a leading
zero unless it is allowed, and a value below `bound`. -/
def readNumber (digit : Char -> Option Nat) (radix bound : Nat) (maxDigits : Option Nat)
    (allowZeroPrefix : Bool) : Reader Nat := fun chars =>
  let digits := (spanDigits digit chars).1
  let value := digits.foldl (fun value digit => value * radix + digit) 0
  if digits = [] then none
  else if maxDigits.any (fun most => most < digits.length) then none
  else if allowZeroPrefix = false ∧ chars.head? = some '0' ∧ 1 < digits.length then none
  else if value < bound then some (value, (spanDigits digit chars).2)
  else none

/-- `read_given_char`. -/
def readGivenChar (target : Char) : Reader Unit
  | [] => none
  | char :: rest => if char = target then some ((), rest) else none

/-- `read_separator`: every value but the first has the separator in front. -/
def readSeparator {α : Type} (separator : Char) (index : Nat) (inner : Reader α) : Reader α := fun chars =>
  if index = 0 then inner chars
  else (readGivenChar separator chars).bind fun after => inner after.2

/-- One octet of an IPv4 address: at most three digits, none of them padding. -/
def readOctet : Reader Nat := readNumber decimalDigit 10 256 (some 3) false

/-- `read_ipv4_addr`. -/
def readIpv4Addr : Reader (Nat × Nat × Nat × Nat) := fun chars => do
  let (a, rest) ← readSeparator '.' 0 readOctet chars
  let (b, rest) ← readSeparator '.' 1 readOctet rest
  let (c, rest) ← readSeparator '.' 2 readOctet rest
  let (d, rest) ← readSeparator '.' 3 readOctet rest
  pure ((a, b, c, d), rest)

/-- `read_groups` with room for `limit` groups more behind the first `i`: the
groups, whether they end with an IPv4 address, and the text behind them. -/
def readGroups : Nat -> Nat -> List Char -> List Nat × Bool × List Char
  | 0, _, chars => ([], false, chars)
  | limit + 1, i, chars =>
      -- An IPv4 address takes the room of two groups.
      match if limit = 0 then none else readSeparator ':' i readIpv4Addr chars with
      | some ((a, b, c, d), rest) => ([a * 256 + b, c * 256 + d], true, rest)
      | none =>
          match readSeparator ':' i (readNumber hexDigit 16 65536 (some 4) true) chars with
          | some (group, rest) =>
              let later := readGroups limit (i + 1) rest
              (group :: later.1, later.2)
          | none => ([], false, chars)

/-- `read_ipv6_addr`, as its eight segments. -/
def readIpv6Addr : Reader (List Nat) := fun chars =>
  let (head, headIpv4, rest) := readGroups 8 0 chars
  if head.length = 8 then some (head, rest)
  else if headIpv4 then none
  else do
    let (_, rest) ← readGivenChar ':' rest
    let (_, rest) ← readGivenChar ':' rest
    let (tail, _, rest) := readGroups (8 - (head.length + 1)) 0 rest
    pure (head ++ List.replicate (8 - head.length - tail.length) 0 ++ tail, rest)

/-- `read_port`. -/
def readPort : Reader UInt16 := fun chars => do
  let (_, rest) ← readGivenChar ':' chars
  let (port, rest) ← readNumber decimalDigit 10 65536 none true rest
  pure (UInt16.ofNat port, rest)

/-- `SocketAddr`. -/
inductive SocketAddr where
  | v4 (octets : Bytes) (sized : octets.length = 4) (port : UInt16)
  | v6 (bytes : Bytes) (sized : bytes.length = 16) (port : UInt16) (flowinfo scopeId : UInt32)
  deriving DecidableEq

namespace SocketAddr

/-- `SocketAddr::ip`. -/
def ip : SocketAddr -> IpAddress
  | v4 octets sized _ => .v4 octets sized
  | v6 bytes sized _ _ _ => .v6 bytes sized

def port : SocketAddr -> UInt16
  | v4 _ _ port => port
  | v6 _ _ port _ _ => port

/-- `SocketAddr::new`. -/
def new (ip : IpAddress) (port : UInt16) : SocketAddr :=
  match ip with
  | .v4 octets sized => v4 octets sized port
  | .v6 bytes sized => v6 bytes sized port 0 0

end SocketAddr

/-- `read_socket_addr_v4`. -/
def readSocketAddrV4 : Reader SocketAddr := fun chars => do
  let ((a, b, c, d), rest) ← readIpv4Addr chars
  let (port, rest) ← readPort rest
  pure (.v4 [UInt8.ofNat a, UInt8.ofNat b, UInt8.ofNat c, UInt8.ofNat d] rfl port, rest)

/-- `read_scope_id`: absent, it is zero. -/
def readScopeId (chars : List Char) : UInt32 × List Char :=
  match (readGivenChar '%' chars).bind fun after =>
    readNumber decimalDigit 10 4294967296 none true after.2 with
  | some (scopeId, rest) => (UInt32.ofNat scopeId, rest)
  | none => (0, chars)

/-- `read_socket_addr_v6`. -/
def readSocketAddrV6 : Reader SocketAddr := fun chars => do
  let (_, rest) ← readGivenChar '[' chars
  let (groups, rest) ← readIpv6Addr rest
  let (scopeId, rest) := readScopeId rest
  let (_, rest) ← readGivenChar ']' rest
  let (port, rest) ← readPort rest
  if sized : (groups.flatMap (beBytes 2)).length = 16 then
    pure (.v6 (groups.flatMap (beBytes 2)) sized port 0 scopeId, rest)
  else none

/-- `SocketAddr::from_str`: the first form that fits, with nothing behind it. -/
def SocketAddr.fromStr (text : String) : Option SocketAddr :=
  match (readSocketAddrV4 text.toList).or (readSocketAddrV6 text.toList) with
  | some (addr, []) => some addr
  | _ => none

example : (SocketAddr.fromStr "[2001:db8::1]:443").map SocketAddr.port = some 443 := by
  decide +kernel

/-! ## Numbers in a text -/

/-- A run of digits ends where no digit follows. -/
theorem spanDigits_run {digit : Char -> Option Nat} {run rest : List Char} {values : List Nat}
    (areDigits : run.mapM digit = some values)
    (stops : forall char, rest.head? = some char -> digit char = none) :
    spanDigits digit (run ++ rest) = (values, rest) := by
  induction run generalizing values with
  | nil =>
      cases areDigits
      cases rest with
      | nil => rfl
      | cons char rest =>
          rw [List.nil_append, spanDigits, stops char rfl]
          rfl
  | cons char run ih =>
      rw [List.mapM_cons] at areDigits
      rcases Option.bind_eq_some_iff.mp areDigits with ⟨value, isValue, later⟩
      rcases Option.bind_eq_some_iff.mp later with ⟨others, isOthers, same⟩
      cases same
      rw [List.cons_append, spanDigits, isValue, ih isOthers]

theorem decimalDigits_toDigits (n : Nat) :
    exists values, (Nat.toDigits 10 n).mapM decimalDigit = some values ∧
      values.foldl (fun value digit => value * 10 + digit) 0 = n := by
  have areDigits : forall run : List Char, (forall char, char ∈ run -> char.isDigit = true) ->
      forall start, exists values, run.mapM decimalDigit = some values ∧
        values.foldl (fun value digit => value * 10 + digit) start = Nat.ofDigitChars 10 run start := by
    intro run
    induction run with
    | nil => exact fun _ start => ⟨[], rfl, rfl⟩
    | cons char run ih =>
        intro areDigits start
        rcases ih (fun other isMember => areDigits other (List.mem_cons_of_mem char isMember))
          (start * 10 + (char.toNat - 48)) with ⟨values, isValues, sum⟩
        refine ⟨(char.toNat - 48) :: values, ?_, ?_⟩
        · rw [List.mapM_cons, decimalDigit, if_pos (areDigits char List.mem_cons_self), isValues]
          rfl
        · rw [List.foldl_cons, sum, Nat.ofDigitChars_cons, Nat.mul_comm 10 start]
          rfl
  rcases areDigits (Nat.toDigits 10 n)
    (fun _ isMember => Nat.isDigit_of_mem_toDigits (by decide) (by decide) isMember) 0 with
    ⟨values, isValues, sum⟩
  exact ⟨values, isValues, sum.trans Nat.ofDigitChars_ten_toDigits⟩

/-- A number is not printed with a zero in front. -/
theorem head?_toDigits {n : Nat} (positive : 0 < n) : (Nat.toDigits 10 n).head? ≠ some '0' := by
  induction n using Nat.strongRecOn with
  | ind n ih =>
      by_cases single : n < 10
      · rw [Nat.toDigits_of_lt_base single]
        intro isZero
        have zero := Nat.digitChar_eq_zero.mp (Option.some.inj isZero)
        omega
      · rw [Nat.toDigits_of_base_le (by decide) (by omega),
          List.head?_append_of_ne_nil _ Nat.toDigits_ne_nil]
        exact ih (n / 10) (by omega) (by omega)

/-- A printed number is read, up to the first letter that is no digit. -/
theorem readNumber_toDigits {n bound : Nat} (small : n < bound) {maxDigits : Option Nat}
    (fits : forall most, maxDigits = some most -> (Nat.toDigits 10 n).length ≤ most)
    (allowZeroPrefix : Bool) {rest : List Char}
    (stops : forall char, rest.head? = some char -> char.isDigit = false) :
    readNumber decimalDigit 10 bound maxDigits allowZeroPrefix (Nat.toDigits 10 n ++ rest) =
      some (n, rest) := by
  rcases decimalDigits_toDigits n with ⟨values, isValues, sum⟩
  have sameLength := length_of_mapM isValues
  have ended : forall char, rest.head? = some char -> decimalDigit char = none := by
    intro char isHead
    rw [decimalDigit, stops char isHead]
    rfl
  have nonempty : values ≠ [] := by
    rintro rfl
    exact Nat.toDigits_ne_nil (List.length_eq_zero_iff.mp sameLength.symm)
  have notLonger : ¬ maxDigits.any (fun most => decide (most < values.length)) = true := by
    cases isMax : maxDigits with
    | none => exact Bool.false_ne_true
    | some most =>
        have atMost := fits most isMax
        rw [Option.any_some, decide_eq_true_eq]
        omega
  have unpadded : ¬ (allowZeroPrefix = false ∧ (Nat.toDigits 10 n ++ rest).head? = some '0' ∧
      1 < values.length) := by
    rintro ⟨_, isZero, longer⟩
    rw [List.head?_append_of_ne_nil _ Nat.toDigits_ne_nil] at isZero
    rcases Nat.eq_zero_or_pos n with rfl | positive
    · rw [Nat.toDigits_zero, List.length_singleton] at sameLength
      omega
    · exact head?_toDigits positive isZero
  rw [readNumber, spanDigits_run isValues ended]
  dsimp only
  rw [if_neg nonempty, if_neg notLonger, if_neg unpadded, sum, if_pos small]

theorem readOctet_octet (octet : UInt8) {rest : List Char}
    (stops : forall char, rest.head? = some char -> char.isDigit = false) :
    readOctet (Nat.toDigits 10 octet.toNat ++ rest) = some (octet.toNat, rest) := by
  refine readNumber_toDigits octet.toNat_lt ?_ false stops
  intro most isThree
  cases isThree
  refine (Nat.length_toDigits_le_iff (b := 10) (k := 3) (by decide) (by decide)).mpr ?_
  exact Nat.lt_trans octet.toNat_lt (by decide)

theorem readPort_port (port : UInt16) :
    readPort (':' :: (toString port.toNat).toList) = some (port, []) := by
  have isPort : readNumber decimalDigit 10 65536 none true (Nat.toDigits 10 port.toNat ++ []) =
      some (port.toNat, []) :=
    readNumber_toDigits port.toNat_lt (fun most impossible => by cases impossible) true
      (fun char impossible => by cases impossible)
  rw [List.append_nil] at isPort
  rw [Nat.toString_eq_ofList_toDigits, String.toList_ofList, readPort, readGivenChar, if_pos rfl]
  simp only [Option.bind_eq_bind, Option.bind_some, isPort, UInt16.ofNat_toNat]
  rfl

/-! ## IPv4 -/

theorem readIpv4Addr_octets (a b c d : UInt8) {rest : List Char}
    (stops : forall char, rest.head? = some char -> char.isDigit = false) :
    readIpv4Addr ((ipv4ToString [a, b, c, d]).toList ++ rest) =
      some ((a.toNat, b.toNat, c.toNat, d.toNat), rest) := by
  have dotStops : forall after : List Char, forall char, ('.' :: after).head? = some char ->
      char.isDigit = false := by
    intro after char isHead
    cases isHead
    rfl
  have isText : (ipv4ToString [a, b, c, d]).toList ++ rest =
      Nat.toDigits 10 a.toNat ++ '.' :: (Nat.toDigits 10 b.toNat ++ '.' :: (Nat.toDigits 10 c.toNat ++
        '.' :: (Nat.toDigits 10 d.toNat ++ rest))) := by
    rw [ipv4ToString_toList]
    simp only [List.map_cons, List.map_nil, List.intercalate_cons_cons, List.intercalate_singleton,
      List.append_assoc, List.cons_append, List.nil_append]
  have separated : forall (octet : UInt8) (index : Nat) (after : List Char), index ≠ 0 ->
      (forall char, after.head? = some char -> char.isDigit = false) ->
      readSeparator '.' index readOctet ('.' :: (Nat.toDigits 10 octet.toNat ++ after)) =
        some (octet.toNat, after) := by
    intro octet index after later ends
    rw [readSeparator, if_neg later, readGivenChar, if_pos rfl, Option.bind_some]
    exact readOctet_octet octet ends
  rw [isText, readIpv4Addr, readSeparator, if_pos rfl, readOctet_octet a (dotStops _)]
  simp only [Option.bind_eq_bind, Option.bind_some,
    separated b 1 _ (by decide) (dotStops _), separated c 2 _ (by decide) (dotStops _),
    separated d 3 _ (by decide) stops]
  rfl

/-- The text of an IPv4 address and a port is read as this address. -/
theorem fromStr_ipv4 (octets : Bytes) (sized : octets.length = 4) (port : UInt16) :
    SocketAddr.fromStr (ipv4ToString octets ++ ":" ++ toString port.toNat) =
      some (.v4 octets sized port) := by
  rcases octets with _ | ⟨a, _ | ⟨b, _ | ⟨c, _ | ⟨d, _ | ⟨e, more⟩⟩⟩⟩⟩
  · cases sized
  · cases sized
  · cases sized
  · cases sized
  · have isText : (ipv4ToString [a, b, c, d] ++ ":" ++ toString port.toNat).toList =
        (ipv4ToString [a, b, c, d]).toList ++ ':' :: (toString port.toNat).toList := by
      rw [String.toList_append, String.toList_append, List.append_assoc]
      rfl
    have colonStops : forall char, (':' :: (toString port.toNat).toList).head? = some char ->
        char.isDigit = false := by
      intro char isHead
      cases isHead
      rfl
    have isAddr : readSocketAddrV4 (ipv4ToString [a, b, c, d] ++ ":" ++ toString port.toNat).toList =
        some (.v4 [a, b, c, d] sized port, []) := by
      rw [isText, readSocketAddrV4, readIpv4Addr_octets a b c d colonStops]
      simp only [Option.bind_eq_bind, Option.bind_some, readPort_port, UInt8.ofNat_toNat]
      rfl
    rw [SocketAddr.fromStr, isAddr]
    rfl
  · simp only [List.length_cons] at sized
    omega

/-! ## Texts without brackets -/

/-- A text that begins like an IPv6 address without brackets: hexadecimal
digits, or none, and then a colon. -/
def OpensWithGroup (text : List Char) : Prop :=
  exists group rest, text = group ++ ':' :: rest ∧
    forall char, char ∈ group -> exists digit, hexDigit char = some digit

theorem OpensWithGroup.append {text : List Char} (opens : OpensWithGroup text) (more : List Char) :
    OpensWithGroup (text ++ more) := by
  rcases opens with ⟨group, rest, isText, hex⟩
  refine ⟨group, rest ++ more, ?_, hex⟩
  rw [isText, List.append_assoc]
  rfl

/-- Such a text begins with none of the letters that a socket address needs. -/
theorem OpensWithGroup.head_ne {text : List Char} (opens : OpensWithGroup text) {char : Char}
    (notHex : hexDigit char = none) (notColon : char ≠ ':') : text.head? ≠ some char := by
  rcases opens with ⟨group, rest, isText, hex⟩
  subst isText
  cases group with
  | nil =>
      intro isHead
      exact notColon (Option.some.inj isHead).symm
  | cons first group =>
      intro isHead
      rcases hex first List.mem_cons_self with ⟨digit, isDigit⟩
      rw [Option.some.inj isHead, notHex] at isDigit
      cases isDigit

/-- Behind its decimal digits it still begins so. -/
theorem OpensWithGroup.spanDigits {text : List Char} (opens : OpensWithGroup text) :
    OpensWithGroup (P2pSdk.spanDigits decimalDigit text).2 := by
  rcases opens with ⟨group, rest, isText, hex⟩
  subst isText
  induction group with
  | nil => exact ⟨[], rest, rfl, hex⟩
  | cons first group ih =>
      rw [List.cons_append, P2pSdk.spanDigits]
      cases decimalDigit first with
      | none => exact ⟨first :: group, rest, rfl, hex⟩
      | some value => exact ih (fun other isMember => hex other (List.mem_cons_of_mem first isMember))

theorem readGivenChar_none {target : Char} {text : List Char} (absent : text.head? ≠ some target) :
    readGivenChar target text = none := by
  cases text with
  | nil => rfl
  | cons char rest =>
      rw [readGivenChar, if_neg]
      intro same
      exact absent (congrArg some same)

/-- No socket address begins so. -/
theorem fromStr_opensWithGroup {text : String} (opens : OpensWithGroup text.toList) :
    SocketAddr.fromStr text = none := by
  have notV4 : readSocketAddrV4 text.toList = none := by
    have noDot := opens.spanDigits.head_ne (show hexDigit '.' = none from rfl) (by decide)
    have notIpv4 : readIpv4Addr text.toList = none := by
      rw [readIpv4Addr, readSeparator, if_pos rfl]
      cases isOctet : readOctet text.toList with
      | none => rfl
      | some result =>
          rcases result with ⟨octet, rest⟩
          have isRest : rest = (P2pSdk.spanDigits decimalDigit text.toList).2 := by
            rw [readOctet, readNumber] at isOctet
            simp only [Option.ite_none_left_eq_some, Option.ite_none_right_eq_some] at isOctet
            exact (congrArg Prod.snd (Option.some.inj isOctet.2.2.2.2)).symm
          have stopped : readSeparator '.' 1 readOctet rest = none := by
            rw [readSeparator, if_neg (by decide), isRest, readGivenChar_none noDot]
            rfl
          simp only [Option.bind_eq_bind, Option.bind_some, stopped]
          rfl
    rw [readSocketAddrV4, notIpv4]
    rfl
  have notV6 : readSocketAddrV6 text.toList = none := by
    rw [readSocketAddrV6, readGivenChar_none (opens.head_ne (show hexDigit '[' = none from rfl) (by decide))]
    rfl
  rw [SocketAddr.fromStr, notV4, notV6]
  rfl

end P2pSdk
