import P2pSdk.Stun.Codec

namespace P2pSdk

open Foundation

/-!
# IPv6 texts (`stun/codec.rs`)

An address is written as eight groups of hexadecimal digits.  The printer
writes all of them, without leading zeros; the reader also takes leading zeros,
letters of either case, and one `::` for the zero groups that are left out.
Both directions are read off one description: a list of groups, and the bytes
that their values make.
-/

/-! ## Groups of digits -/

theorem hexDigit_lt {char : Char} {digit : Nat} (isDigit : hexDigit char = some digit) :
    digit < 16 := by
  unfold hexDigit at isDigit
  split at isDigit
  · rename_i range
    have upper : char.toNat ≤ 57 := range.2
    cases isDigit
    omega
  · split at isDigit
    · rename_i range
      have upper : char.toNat ≤ 102 := range.2
      cases isDigit
      omega
    · split at isDigit
      · rename_i range
        have upper : char.toNat ≤ 70 := range.2
        cases isDigit
        omega
      · cases isDigit

theorem hexDigit_digitChar {digit : Nat} (small : digit < 16) :
    hexDigit (Nat.digitChar digit) = some digit := by
  have table : forall digit : Fin 16, hexDigit (Nat.digitChar digit.val) = some digit.val := by
    decide
  exact table ⟨digit, small⟩

/-- The number that a run of digits continues. -/
def readDigits (start : Nat) (digits : List Char) : Option Nat :=
  digits.foldlM (fun value char => (hexDigit char).map fun digit => value * 16 + digit) start

theorem readDigits_cons (start : Nat) (char : Char) (digits : List Char) :
    readDigits start (char :: digits) =
      (hexDigit char).bind fun digit => readDigits (start * 16 + digit) digits := by
  rw [readDigits, List.foldlM_cons]
  cases hexDigit char <;> rfl

theorem readDigits_append (start : Nat) (first second : List Char) :
    readDigits start (first ++ second) =
      (readDigits start first).bind fun value => readDigits value second :=
  List.foldlM_append

/-- A run of digits is a number, with four more bits for every digit. -/
theorem readDigits_bound {digits : List Char} (start : Nat)
    (hex : forall char, char ∈ digits -> exists digit, hexDigit char = some digit) :
    exists value, readDigits start digits = some value ∧ value < (start + 1) * 16 ^ digits.length := by
  induction digits generalizing start with
  | nil => exact ⟨start, rfl, by simp⟩
  | cons char digits ih =>
      rcases hex char List.mem_cons_self with ⟨digit, isDigit⟩
      rcases ih (start * 16 + digit) (fun other isMember => hex other (List.mem_cons_of_mem char isMember))
        with ⟨value, isValue, bound⟩
      refine ⟨value, ?_, ?_⟩
      · rw [readDigits_cons, isDigit, Option.bind_some, isValue]
      · have small := hexDigit_lt isDigit
        calc value < (start * 16 + digit + 1) * 16 ^ digits.length := bound
          _ ≤ ((start + 1) * 16) * 16 ^ digits.length := Nat.mul_le_mul_right _ (by omega)
          _ = (start + 1) * 16 ^ (char :: digits).length := by
              rw [List.length_cons, Nat.pow_succ, Nat.mul_assoc, Nat.mul_comm 16]

theorem hex_of_readDigits {digits : List Char} {start value : Nat}
    (reads : readDigits start digits = some value) :
    forall char, char ∈ digits -> exists digit, hexDigit char = some digit := by
  induction digits generalizing start with
  | nil =>
      intro char isMember
      cases isMember
  | cons first digits ih =>
      rw [readDigits_cons] at reads
      rcases Option.bind_eq_some_iff.mp reads with ⟨digit, isDigit, rest⟩
      intro char isMember
      rcases List.mem_cons.mp isMember with rfl | later
      · exact ⟨digit, isDigit⟩
      · exact ih rest char later

/-- What is printed is read back. -/
theorem readDigits_toDigits (value : Nat) : readDigits 0 (Nat.toDigits 16 value) = some value := by
  induction value using Nat.strongRecOn with
  | ind value ih =>
      have last : forall start, readDigits start [Nat.digitChar (value % 16)] =
          some (start * 16 + value % 16) := by
        intro start
        rw [readDigits_cons, hexDigit_digitChar (Nat.mod_lt value (by decide))]
        rfl
      by_cases single : value < 16
      · have alone := last 0
        rw [Nat.mod_eq_of_lt single, Nat.zero_mul, Nat.zero_add] at alone
        rw [Nat.toDigits_of_lt_base single, alone]
      · have front := ih (value / 16) (by omega)
        rw [Nat.toDigits_of_base_le (by decide) (by omega), readDigits_append, front,
          Option.bind_some, last]
        congr 1
        omega

/-- One to four hexadecimal digits. -/
structure HexGroup where
  digits : List Char
  nonempty : digits ≠ []
  short : digits.length ≤ 4
  hex : forall char, char ∈ digits -> exists digit, hexDigit char = some digit

namespace HexGroup

/-- The number that the group stands for. -/
def value (group : HexGroup) : Nat := (readDigits 0 group.digits).getD 0

def text (group : HexGroup) : String := String.ofList group.digits

theorem readDigits_eq (group : HexGroup) :
    readDigits 0 group.digits = some group.value ∧ group.value < 65536 := by
  rcases readDigits_bound 0 group.hex with ⟨value, isValue, bound⟩
  have isGroup : group.value = value := by
    rw [HexGroup.value, isValue]
    rfl
  have most : 16 ^ group.digits.length ≤ 16 ^ 4 := Nat.pow_le_pow_right (by decide) group.short
  exact ⟨by rw [isGroup, isValue], by omega⟩

theorem not_mem (group : HexGroup) {char : Char} (notHex : hexDigit char = none) :
    char ∉ group.digits := by
  intro isMember
  rcases group.hex char isMember with ⟨digit, isDigit⟩
  rw [notHex] at isDigit
  cases isDigit

theorem fromStrRadix16_eq (group : HexGroup) :
    fromStrRadix16 group.digits = some group.value := by
  rcases group.readDigits_eq with ⟨isValue, small⟩
  rw [readDigits] at isValue
  unfold fromStrRadix16
  split
  · rename_i rest signed
    have noSign := group.not_mem (show hexDigit '+' = none from rfl)
    exact absurd (by rw [signed]; exact List.mem_cons_self) noSign
  · dsimp only
    rw [if_neg group.nonempty, isValue]
    exact if_pos small

theorem isWord (group : HexGroup) : group.digits ≠ [] ∧ ':' ∉ group.digits :=
  ⟨group.nonempty, group.not_mem rfl⟩

def zero : HexGroup where
  digits := ['0']
  nonempty := List.cons_ne_nil _ _
  short := Nat.le_of_ble_eq_true rfl
  hex := fun _ isMember => ⟨0, List.mem_singleton.mp isMember ▸ rfl⟩

/-- A 16-bit number as it is printed. -/
def ofNat (value : Nat) (small : value < 65536) : HexGroup where
  digits := Nat.toDigits 16 value
  nonempty := Nat.toDigits_ne_nil
  short := (Nat.length_toDigits_le_iff (b := 16) (k := 4) (by decide) (by decide)).mpr small
  hex := hex_of_readDigits (readDigits_toDigits value)

end HexGroup

/-! ## Joined groups -/

def joinGroups (groups : List HexGroup) : String := String.intercalate ":" (groups.map HexGroup.text)

/-- The bytes of a list of groups. -/
def groupBytes (groups : List HexGroup) : Bytes := groups.flatMap fun group => beBytes 2 group.value

/-- The zero groups that `::` stands for between the two sides. -/
def fillGroups (left right : List HexGroup) : List HexGroup :=
  left ++ List.replicate (8 - left.length - right.length) HexGroup.zero ++ right

theorem joinGroups_toList (groups : List HexGroup) :
    (joinGroups groups).toList = [':'].intercalate (groups.map HexGroup.digits) := by
  have colon : ":".toList = [':'] := rfl
  rw [joinGroups, String.toList_intercalate, colon, List.map_map]
  congr 1
  refine List.map_congr_left ?_
  intro group _
  exact String.toList_ofList

theorem areWords (groups : List HexGroup) :
    forall word, word ∈ groups.map HexGroup.digits -> word ≠ [] ∧ ':' ∉ word := by
  intro word isMember
  rcases List.mem_map.mp isMember with ⟨group, _, rfl⟩
  exact group.isWord

theorem splitOn_joinGroups {groups : List HexGroup} (nonempty : groups ≠ []) :
    (joinGroups groups).toList.splitOn ':' = groups.map HexGroup.digits := by
  rw [joinGroups_toList]
  refine List.splitOn_intercalate ':' ?_ (fun isEmpty => nonempty (List.map_eq_nil_iff.mp isEmpty))
  intro word isMember
  exact (areWords groups word isMember).2

theorem joinGroups_eq_nil {groups : List HexGroup} :
    (joinGroups groups).toList = [] <-> groups = [] := by
  constructor
  · intro isEmpty
    cases groups with
    | nil => rfl
    | cons group groups =>
        have opens := head?_intercalate [':'] group.nonempty (groups.map HexGroup.digits)
        rw [← List.map_cons, ← joinGroups_toList, isEmpty] at opens
        exact absurd (List.head?_eq_none_iff.mp opens.symm) group.nonempty
  · rintro rfl
    rfl

/-- One side of the `::`, where an empty text has no groups. -/
theorem sideGroups (groups : List HexGroup) :
    (if (joinGroups groups).toList = [] then [] else (joinGroups groups).toList.splitOn ':') =
      groups.map HexGroup.digits := by
  by_cases isEmpty : groups = []
  · rw [if_pos (joinGroups_eq_nil.mpr isEmpty), isEmpty]
    rfl
  · rw [if_neg (fun contrary => isEmpty (joinGroups_eq_nil.mp contrary)), splitOn_joinGroups isEmpty]

/-! ## Reading -/

theorem ipv6Groups_full {groups : List HexGroup} (eight : groups.length = 8) :
    ipv6Groups (joinGroups groups) = some (groups.map HexGroup.digits) := by
  have nonempty : groups ≠ [] := by
    rintro rfl
    cases eight
  have whole : splitAtPair ':' ':' (joinGroups groups).toList = [(joinGroups groups).toList] := by
    rw [joinGroups_toList]
    exact splitAtPair_of_free (pairFree_intercalate (areWords groups))
  rw [ipv6Groups, whole]
  dsimp only
  rw [splitOn_joinGroups nonempty]

theorem ipv6Groups_compressed {left right : List HexGroup} (fits : left.length + right.length ≤ 8) :
    ipv6Groups (joinGroups left ++ "::" ++ joinGroups right) =
      some ((fillGroups left right).map HexGroup.digits) := by
  have halves : splitAtPair ':' ':' (joinGroups left ++ "::" ++ joinGroups right).toList =
      [(joinGroups left).toList, (joinGroups right).toList] := by
    have isText : (joinGroups left ++ "::" ++ joinGroups right).toList =
        (joinGroups left).toList ++ ':' :: ':' :: (joinGroups right).toList := by
      rw [String.toList_append, String.toList_append, List.append_assoc]
      rfl
    have leftFree : PairFree ':' ':' (joinGroups left).toList := by
      rw [joinGroups_toList]
      exact pairFree_intercalate (areWords left)
    have rightFree : PairFree ':' ':' (joinGroups right).toList := by
      rw [joinGroups_toList]
      exact pairFree_intercalate (areWords right)
    have ends : (joinGroups left).toList.getLast? ≠ some ':' := by
      rw [joinGroups_toList]
      exact getLast?_intercalate_ne (areWords left)
    rw [isText, splitAtPair_append_of_end leftFree (fun isLast => absurd isLast ends),
      splitAtPair_of_free rightFree]
  have zeros : (List.replicate (8 - left.length - right.length) HexGroup.zero).map HexGroup.digits =
      List.replicate (8 - left.length - right.length) ['0'] := List.map_replicate
  rw [ipv6Groups, halves]
  dsimp only
  rw [sideGroups left, sideGroups right, List.length_map, List.length_map,
    if_neg (Nat.not_lt.mpr fits), fillGroups, List.map_append, List.map_append, zeros]

theorem mapM_fromStrRadix16 (groups : List HexGroup) :
    (groups.map HexGroup.digits).mapM fromStrRadix16 = some (groups.map HexGroup.value) := by
  induction groups with
  | nil => rfl
  | cons group groups ih =>
      rw [List.map_cons, List.mapM_cons, group.fromStrRadix16_eq, ih]
      rfl

/-- A text with eight groups stands for their bytes. -/
theorem ipv6ToBytes_of_groups {text : String} {groups : List HexGroup}
    (isText : ipv6Groups text = some (groups.map HexGroup.digits)) (eight : groups.length = 8) :
    ipv6ToBytes text = .ok (groupBytes groups) := by
  rw [ipv6ToBytes, isText]
  dsimp only
  rw [if_neg (by rw [List.length_map, eight]; decide), mapM_fromStrRadix16]
  dsimp only
  rw [List.flatMap_map, groupBytes]

theorem fillGroups_length {left right : List HexGroup} (fits : left.length + right.length ≤ 8) :
    (fillGroups left right).length = 8 := by
  simp only [fillGroups, List.length_append, List.length_replicate]
  omega

theorem ipv6ToBytes_full {groups : List HexGroup} (eight : groups.length = 8) :
    ipv6ToBytes (joinGroups groups) = .ok (groupBytes groups) :=
  ipv6ToBytes_of_groups (ipv6Groups_full eight) eight

theorem ipv6ToBytes_compressed {left right : List HexGroup} (fits : left.length + right.length ≤ 8) :
    ipv6ToBytes (joinGroups left ++ "::" ++ joinGroups right) =
      .ok (groupBytes (fillGroups left right)) :=
  ipv6ToBytes_of_groups (ipv6Groups_compressed fits) (fillGroups_length fits)

/-! ## Letters -/

/-- The letters that can stand in a text that is read: digits, colons, and the
sign that the number parser of the standard library accepts. -/
def isIpv6Letter (char : Char) : Bool := (hexDigit char).isSome || char == ':' || char == '+'

theorem letters_of_fromStrRadix16 {digits : List Char} {value : Nat}
    (isNumber : fromStrRadix16 digits = some value) :
    forall char, char ∈ digits -> isIpv6Letter char = true := by
  have hexLetter : forall run start read, readDigits start run = some read ->
      forall char, char ∈ run -> isIpv6Letter char = true := by
    intro run start read reads char isMember
    rcases hex_of_readDigits reads char isMember with ⟨digit, isDigit⟩
    rw [isIpv6Letter, isDigit]
    rfl
  unfold fromStrRadix16 at isNumber
  rcases Option.ite_none_left_eq_some.mp isNumber with ⟨_, isNumber⟩
  split at isNumber
  · rename_i read reads
    intro char isMember
    split at reads
    · rcases List.mem_cons.mp isMember with rfl | later
      · rfl
      · exact hexLetter _ 0 read reads char later
    · exact hexLetter _ 0 read reads char isMember
  · cases isNumber

/-- The letters of a text stand in its groups, but for the colons. -/
theorem mem_ipv6Groups {ip : String} {groups : List (List Char)} (isGroups : ipv6Groups ip = some groups)
    {char : Char} (isMember : char ∈ ip.toList) :
    char = ':' ∨ exists group, group ∈ groups ∧ char ∈ group := by
  have inSide : forall side : List Char, char ∈ side ->
      char = ':' ∨ exists group, group ∈ side.splitOn ':' ∧ char ∈ group := by
    intro side inside
    have joined : [':'].intercalate (side.splitOn ':') = side := List.intercalate_splitOn ':'
    rw [← joined] at inside
    rcases mem_intercalate inside with inGap | found
    · exact Or.inl (List.mem_singleton.mp inGap)
    · exact Or.inr found
  have nonempty : forall side : List Char, char ∈ side -> side ≠ [] := fun side => List.ne_nil_of_mem
  have joined : [':', ':'].intercalate (splitAtPair ':' ':' ip.toList) = ip.toList :=
    intercalate_splitAtPair ip.toList
  rw [← joined] at isMember
  rcases mem_intercalate isMember with inPair | ⟨side, isSide, inside⟩
  · rcases List.mem_cons.mp inPair with isColon | isSecond
    · exact Or.inl isColon
    · exact Or.inl (List.mem_singleton.mp isSecond)
  · rcases inSide side inside with isColon | ⟨group, isGroup, inGroup⟩
    · exact Or.inl isColon
    · refine Or.inr ⟨group, ?_, inGroup⟩
      rw [ipv6Groups] at isGroups
      split at isGroups
      · rename_i whole isSplit
        rw [isSplit] at isSide
        cases isGroups
        rw [← List.mem_singleton.mp isSide]
        exact isGroup
      · rename_i left right isSplit
        rw [isSplit] at isSide
        rcases Option.ite_none_left_eq_some.mp isGroups with ⟨_, isFilled⟩
        cases isFilled
        rcases List.mem_cons.mp isSide with isLeft | isRight
        · subst isLeft
          rw [if_neg (nonempty side inside)]
          exact List.mem_append_left _ (List.mem_append_left _ isGroup)
        · rw [List.mem_singleton] at isRight
          subst isRight
          rw [if_neg (nonempty side inside)]
          exact List.mem_append_right _ isGroup
      · cases isGroups

theorem ipv6ToBytes_letters {ip : String} {bytes : Bytes} (isOk : ipv6ToBytes ip = .ok bytes) :
    ip ≠ "" ∧ forall char, char ∈ ip.toList -> isIpv6Letter char = true := by
  constructor
  · rintro rfl
    cases isOk
  · intro char isMember
    unfold ipv6ToBytes at isOk
    split at isOk
    · cases isOk
    · rename_i groups isGroups
      by_cases eight : groups.length = 8
      · rw [if_neg (not_not.mpr eight)] at isOk
        split at isOk
        · cases isOk
        · rename_i values isValues
          rcases mem_ipv6Groups isGroups isMember with isColon | ⟨group, isGroup, inGroup⟩
          · rw [isColon]
            rfl
          · rcases exists_of_mapM isValues isGroup with ⟨value, isValue⟩
            exact letters_of_fromStrRadix16 isValue char inGroup
      · rw [if_pos eight] at isOk
        cases isOk

/-! ## Printing -/

theorem beBytes_two (high low : UInt8) : beBytes 2 (high.toNat * 256 + low.toNat) = [high, low] := by
  have lowSmall := low.toNat_lt
  have front : (high.toNat * 256 + low.toNat) / 256 = high.toNat := by omega
  have lowByte : UInt8.ofNat (high.toNat * 256 + low.toNat) = low := by
    rw [← UInt8.toNat_inj, UInt8.toNat_ofNat']
    omega
  rw [beBytes, front, lowByte, beBytes, UInt8.ofNat_toNat]
  rfl

/-- The 16-bit number at a pair of bytes. -/
def pairAt (bytes : Bytes) (i : Nat) : Nat :=
  (bytes.getD (i * 2) 0).toNat * 256 + (bytes.getD (i * 2 + 1) 0).toNat

theorem pairAt_lt (bytes : Bytes) (i : Nat) : pairAt bytes i < 65536 := by
  have high := (bytes.getD (i * 2) 0).toNat_lt
  have low := (bytes.getD (i * 2 + 1) 0).toNat_lt
  rw [pairAt]
  omega

/-- The numbers at all pairs make the bytes again. -/
theorem flatMap_pairAt (count : Nat) {bytes : Bytes} (sized : bytes.length = count * 2) :
    ((List.range count).flatMap fun i => beBytes 2 (pairAt bytes i)) = bytes := by
  induction count generalizing bytes with
  | zero => exact (List.length_eq_zero_iff.mp (by omega)).symm
  | succ count ih =>
      rcases bytes with _ | ⟨high, _ | ⟨low, bytes⟩⟩
      · rw [List.length_nil] at sized
        omega
      · rw [List.length_singleton] at sized
        omega
      · have rest : bytes.length = count * 2 := by
          rw [List.length_cons, List.length_cons] at sized
          omega
        have later : forall i, pairAt (high :: low :: bytes) (i + 1) = pairAt bytes i := by
          intro i
          have even : (i + 1) * 2 = i * 2 + 1 + 1 := by omega
          rw [pairAt, even]
          rfl
        rw [List.range_succ_eq_map, List.flatMap_cons, List.flatMap_map]
        simp only [Nat.succ_eq_add_one, later]
        rw [ih rest]
        exact congrArg (· ++ bytes) (beBytes_two high low)

/-- The groups that are printed for the bytes of an address. -/
def printedGroups (bytes : Bytes) : List HexGroup :=
  (List.range 8).map fun i => HexGroup.ofNat (pairAt bytes i) (pairAt_lt bytes i)

theorem ipv6ToString_eq (bytes : Bytes) : ipv6ToString bytes = joinGroups (printedGroups bytes) := by
  rw [joinGroups, printedGroups, List.map_map]
  rfl

theorem printedGroups_length (bytes : Bytes) : (printedGroups bytes).length = 8 := by
  rw [printedGroups, List.length_map, List.length_range]

theorem printedGroups_values (bytes : Bytes) :
    (printedGroups bytes).map HexGroup.value = (List.range 8).map (pairAt bytes) := by
  rw [printedGroups, List.map_map]
  refine List.map_congr_left ?_
  intro i _
  rw [Function.comp_apply, HexGroup.value]
  exact congrArg (Option.getD · 0) (readDigits_toDigits (pairAt bytes i))

/-- The bytes of groups are those of their numbers. -/
theorem groupBytes_eq (groups : List HexGroup) :
    groupBytes groups = (groups.map HexGroup.value).flatMap (beBytes 2) := by
  rw [groupBytes, List.flatMap_map]

theorem groupBytes_printed {bytes : Bytes} (sized : bytes.length = 16) :
    groupBytes (printedGroups bytes) = bytes := by
  rw [groupBytes_eq, printedGroups_values, List.flatMap_map]
  exact flatMap_pairAt 8 sized

/-- What is printed for sixteen bytes is read back as these bytes. -/
theorem ipv6ToBytes_ipv6ToString {bytes : Bytes} (sized : bytes.length = 16) :
    ipv6ToBytes (ipv6ToString bytes) = .ok bytes := by
  rw [ipv6ToString_eq, ipv6ToBytes_full (printedGroups_length bytes), groupBytes_printed sized]

/-- Printing is undone by reading, and a `::` with at most seven groups around
it reads as the full text with zero groups in its place. -/
theorem ipv6_text_exact :
    (forall bytes : Bytes, bytes.length = 16 -> ipv6ToBytes (ipv6ToString bytes) = .ok bytes) ∧
    forall left right : List HexGroup, left.length + right.length ≤ 7 ->
      exists bytes,
        ipv6ToBytes (joinGroups left ++ "::" ++ joinGroups right) = .ok bytes ∧
        ipv6ToBytes (joinGroups (fillGroups left right)) = .ok bytes := by
  refine ⟨fun bytes sized => ipv6ToBytes_ipv6ToString sized, ?_⟩
  intro left right fits
  have room : left.length + right.length ≤ 8 := Nat.le_succ_of_le fits
  exact ⟨groupBytes (fillGroups left right), ipv6ToBytes_compressed room,
    ipv6ToBytes_full (fillGroups_length room)⟩

end P2pSdk
