import P2pSdk.Foundation.Json
import P2pSdk.Foundation.Text

namespace P2pSdk
namespace Foundation

/-!
# JSON texts

The reader takes letters from the front of a text and returns what is left, or
nothing where the text is no JSON.  Values are nested up to a limit.  Strings
are read up to the first quote outside an escape, so that a text put between
two quotes is read back exactly if it has no quote, no backslash and no control
character; what is printed with escapes is always read back.
-/

/-! ## Loops -/

section Loops

variable {α : Type} (stop : List Char -> Option (List Char)) (item : List Char -> Option (α × List Char))

/-- Items up to a stop, with a bound on their number. -/
def readUntil : Nat -> List Char -> Option (List α × List Char)
  | 0, _ => none
  | fuel + 1, text =>
      match stop text with
      | some rest => some ([], rest)
      | none => do
          let (first, rest) <- item text
          let (others, rest) <- readUntil fuel rest
          return (first :: others, rest)

/-- Items up to a stop.  Each takes a letter or more, so that there are no more
of them than letters. -/
def readAll (text : List Char) : Option (List α × List Char) := readUntil stop item text.length text

/-- The items read from a text, and what is left behind the stop. -/
inductive Reads : List Char -> List α -> List Char -> Prop
  | stop {text rest : List Char} (ends : stop text = some rest) : Reads text [] rest
  | item {text middle rest : List Char} {first : α} {others : List α} (goes : stop text = none)
      (read : item text = some (first, middle)) (later : Reads middle others rest) :
      Reads text (first :: others) rest

/-- What a reader leaves is shorter. -/
def Shortens (reader : List Char -> Option (α × List Char)) : Prop :=
  forall text first rest, reader text = some (first, rest) -> rest.length < text.length

variable {stop item}

theorem Reads.of_readUntil {fuel : Nat} : forall {text rest : List Char} {items : List α},
    readUntil stop item fuel text = some (items, rest) -> Reads stop item text items rest := by
  induction fuel with
  | zero => exact fun contrary => by cases contrary
  | succ fuel later =>
      intro text rest items read
      rw [readUntil] at read
      cases ends : stop text with
      | some after =>
          rw [ends] at read
          cases read
          exact .stop ends
      | none =>
          rw [ends] at read
          rcases Option.bind_eq_some_iff.mp read with ⟨⟨first, middle⟩, isFirst, read⟩
          rcases Option.bind_eq_some_iff.mp read with ⟨⟨others, after⟩, areOthers, isResult⟩
          cases isResult
          exact .item ends isFirst (later areOthers)

theorem Reads.readUntil {text rest : List Char} {items : List α} (shortens : Shortens item)
    (atEnd : stop [] = none) (reads : Reads stop item text items rest) :
    forall {fuel : Nat}, text.length ≤ fuel -> readUntil stop item fuel text = some (items, rest) := by
  induction reads with
  | stop ends =>
      intro fuel enough
      cases fuel with
      | zero =>
          rw [List.length_eq_zero_iff.mp (Nat.le_zero.mp enough), atEnd] at ends
          cases ends
      | succ fuel => rw [Foundation.readUntil, ends]
  | item goes read later rest =>
      intro fuel enough
      have shorter := shortens _ _ _ read
      cases fuel with
      | zero => omega
      | succ fuel =>
          rw [Foundation.readUntil, goes, read]
          dsimp only [Option.bind_eq_bind, Option.bind_some]
          rw [rest (by omega)]
          rfl

/-- The bound never cuts a loop short. -/
theorem readAll_iff (shortens : Shortens item) (atEnd : stop [] = none) {text rest : List Char}
    {items : List α} :
    readAll stop item text = some (items, rest) <-> Reads stop item text items rest :=
  ⟨.of_readUntil, fun reads => reads.readUntil shortens atEnd (Nat.le_refl _)⟩

end Loops

/-! ## Strings -/

/-- The character that an escape of one letter stands for. -/
def simpleEscape (letter : Char) : Option Char :=
  if letter = '"' ∨ letter = '\\' ∨ letter = '/' then some letter
  else if letter = 'b' then some '\x08'
  else if letter = 'f' then some '\x0c'
  else if letter = 'n' then some '\n'
  else if letter = 'r' then some '\r'
  else if letter = 't' then some '\t'
  else none

/-- The value of a hexadecimal digit of either case. -/
def hexValue (letter : Char) : Option Nat :=
  if '0' ≤ letter ∧ letter ≤ '9' then some (letter.toNat - '0'.toNat)
  else if 'a' ≤ letter ∧ letter ≤ 'f' then some (letter.toNat - 'a'.toNat + 10)
  else if 'A' ≤ letter ∧ letter ≤ 'F' then some (letter.toNat - 'A'.toNat + 10)
  else none

/-- The 16 bits of four hexadecimal digits, with the text behind them. -/
def readHexUnit (text : List Char) : Option (Nat × List Char) :=
  match text with
  | a :: b :: c :: d :: rest => do
      let a <- hexValue a
      let b <- hexValue b
      let c <- hexValue c
      let d <- hexValue d
      return (((a * 16 + b) * 16 + c) * 16 + d, rest)
  | _ => none

/-- The halves of a surrogate pair. -/
def IsLeading (unit : Nat) : Prop := 0xD800 ≤ unit ∧ unit ≤ 0xDBFF

def IsTrailing (unit : Nat) : Prop := 0xDC00 ≤ unit ∧ unit ≤ 0xDFFF

instance (unit : Nat) : Decidable (IsLeading unit) :=
  inferInstanceAs (Decidable (0xD800 ≤ unit ∧ unit ≤ 0xDBFF))

instance (unit : Nat) : Decidable (IsTrailing unit) :=
  inferInstanceAs (Decidable (0xDC00 ≤ unit ∧ unit ≤ 0xDFFF))

/-- The character of a surrogate pair. -/
def pairedChar (leading trailing : Nat) : Char :=
  Char.ofNat ((leading - 0xD800) * 0x400 + (trailing - 0xDC00) + 0x10000)

/-- The character that an escape with `u` stands for, with the text behind it.
A pair of surrogates takes a second such escape. -/
def readUnicodeEscape (text : List Char) : Option (Char × List Char) := do
  let (unit, rest) <- readHexUnit text
  if IsTrailing unit then none
  else if IsLeading unit then
    if rest.take 2 = ['\\', 'u'] then do
      let (low, rest) <- readHexUnit (rest.drop 2)
      if IsTrailing low then some (pairedChar unit low, rest) else none
    else none
  else some (Char.ofNat unit, rest)

/-- One character of a string, with the text behind it. -/
def readStringChar (text : List Char) : Option (Char × List Char) :=
  match text with
  | [] => none
  | char :: rest =>
      if char = '\\' then
        match rest with
        | [] => none
        | letter :: rest =>
            if letter = 'u' then readUnicodeEscape rest
            else (simpleEscape letter).map fun char => (char, rest)
      else if char.toNat < 0x20 then none
      else some (char, rest)

/-- The closing quote of a string. -/
def closingQuote (text : List Char) : Option (List Char) :=
  match text with
  | [] => none
  | char :: rest => if char = '"' then some rest else none

/-- The characters of a string behind its opening quote, with the text behind
its closing quote. -/
def readString (text : List Char) : Option (List Char × List Char) :=
  readAll closingQuote readStringChar text

/-! ## Numbers -/

/-- A point with digits, or nothing. -/
def readFraction (text : List Char) : Option (List Char × List Char) :=
  match text with
  | [] => some ([], [])
  | char :: rest =>
      if char = '.' then
        let digits := rest.takeWhile Char.isDigit
        if digits = [] then none else some (char :: digits, rest.dropWhile Char.isDigit)
      else some ([], text)

/-- An exponent with or without a sign, or nothing. -/
def readExponent (text : List Char) : Option (List Char × List Char) :=
  match text with
  | [] => some ([], [])
  | char :: rest =>
      if char = 'e' ∨ char = 'E' then
        let sign := if rest.head? = some '+' ∨ rest.head? = some '-' then rest.take 1 else []
        let rest := rest.drop sign.length
        let digits := rest.takeWhile Char.isDigit
        if digits = [] then none else some (char :: sign ++ digits, rest.dropWhile Char.isDigit)
      else some ([], text)

/-- The value of decimal digits. -/
def decimalValue (digits : List Char) : Nat :=
  digits.foldl (fun value digit => value * 10 + (digit.toNat - '0'.toNat)) 0

section Reader

variable (readFloat : List Char -> Option FiniteDouble)

/-- The number that is written without a fraction and an exponent.  Where it
does not fit into 64 bits it is read as a double, as the negative zero is. -/
def integerOf (negative : Bool) (digits : List Char) : Option JsonNumber :=
  let value := decimalValue digits
  let literal := if negative then '-' :: digits else digits
  if value < 2 ^ 64 then
    if negative then
      let signed := -(UInt64.ofNat value).toInt64
      if isNegative : signed < 0 then some (.negInt signed isNegative)
      else (readFloat literal).map .float
    else some (.posInt (UInt64.ofNat value))
  else (readFloat literal).map .float

/-- The number that is written in the given parts. -/
def numberOf (negative : Bool) (digits fraction exponent : List Char) : Option JsonNumber :=
  if fraction = [] ∧ exponent = [] then integerOf readFloat negative digits
  else
    let literal := digits ++ fraction ++ exponent
    (readFloat (if negative then '-' :: literal else literal)).map .float

/-- A number without its sign, with the text behind it.  A double out of range
is refused, as is a zero before other digits. -/
def readUnsigned (negative : Bool) (text : List Char) : Option (JsonNumber × List Char) :=
  let digits := text.takeWhile Char.isDigit
  if digits = [] ∨ (digits.head? = some '0' ∧ digits.length ≠ 1) then none
  else do
    let (fraction, rest) <- readFraction (text.dropWhile Char.isDigit)
    let (exponent, rest) <- readExponent rest
    let number <- numberOf readFloat negative digits fraction exponent
    return (number, rest)

def readNumber (text : List Char) : Option (JsonNumber × List Char) :=
  match text with
  | [] => none
  | char :: rest =>
      if char = '-' then readUnsigned readFloat true rest else readUnsigned readFloat false (char :: rest)

/-! ## Values -/

def IsWhitespace (char : Char) : Prop := char = ' ' ∨ char = '\n' ∨ char = '\t' ∨ char = '\r'

instance (char : Char) : Decidable (IsWhitespace char) :=
  inferInstanceAs (Decidable (char = ' ' ∨ char = '\n' ∨ char = '\t' ∨ char = '\r'))

def skipWhitespace (text : List Char) : List Char := text.dropWhile fun char => IsWhitespace char

/-- A character behind whitespace. -/
def readMark (mark : Char) (text : List Char) : Option (List Char) :=
  match skipWhitespace text with
  | [] => none
  | char :: rest => if char = mark then some rest else none

/-- The rest of a word, which stands for a value. -/
def readIdent (word : String) (value : Json) (text : List Char) : Option (Json × List Char) :=
  if word.toList.isPrefixOf text then some (value, text.drop word.length) else none

/-- Items with commas between them, up to a closing mark. -/
def readSequence {α : Type} (close : Char) (readItem : List Char -> Option (α × List Char))
    (text : List Char) : Option (List α × List Char) :=
  match readMark close text with
  | some rest => some ([], rest)
  | none => do
      let (first, rest) <- readItem text
      let (others, rest) <- readAll (readMark close)
        (fun text => do
          let rest <- readMark ',' text
          readItem rest) rest
      return (first :: others, rest)

/-- A member of an object. -/
def readMember (readValue : List Char -> Option (Json × List Char)) (text : List Char) :
    Option ((String × Json) × List Char) := do
  let rest <- readMark '"' text
  let (key, rest) <- readString rest
  let rest <- readMark ':' rest
  let (value, rest) <- readValue rest
  return ((String.ofList key, value), rest)

/-- A value, with the text behind it.  The limit counts the containers that
may be open. -/
def readValue : Nat -> List Char -> Option (Json × List Char)
  | 0, _ => none
  | depth + 1, text =>
      match skipWhitespace text with
      | [] => none
      | char :: rest =>
          if char = 'n' then readIdent "ull" .null rest
          else if char = 't' then readIdent "rue" (.bool true) rest
          else if char = 'f' then readIdent "alse" (.bool false) rest
          else if char = '"' then
            (readString rest).map fun (chars, rest) => (.string (String.ofList chars), rest)
          else if char = '[' then
            if depth = 0 then none
            else (readSequence ']' (readValue depth) rest).map fun (items, rest) => (.array items, rest)
          else if char = '{' then
            if depth = 0 then none
            else (readSequence '}' (readMember (readValue depth)) rest).map fun (members, rest) =>
              (.object (mapOf members), rest)
          else (readNumber readFloat (char :: rest)).map fun (number, rest) => (.number number, rest)

/-- `serde_json::from_str`: a text that is one value between whitespace, with
nothing behind it, and values nested at most 127 deep.  A key that an object has
twice keeps the later value, and the keys are in the order of their bytes.  An
integer without sign, fraction and exponent is unsigned and a negative one is
signed where 64 bits suffice; any other number is the double that `readFloat`
gives, or no number where it is too large. -/
def readJson (text : String) : Option Json := do
  let (value, rest) <- readValue readFloat 128 text.toList
  if skipWhitespace rest = [] then some value else none

end Reader

example : readJson (fun _ => none) " [1, \"\\u00e9\\ud83d\\ude00\", \x7b\"b\": null, \"a\": [true]\x7d] " =
    some (.array [.number (.posInt 1), .string "é😀",
      .object [("a", .array [.bool true]), ("b", .null)]]) :=
  rfl

/-! ## Strings that are read back -/

/-- The characters stand for themselves in a string. -/
def Verbatim (chars : List Char) : Prop :=
  forall char, char ∈ chars -> char ≠ '"' ∧ char ≠ '\\' ∧ 0x20 ≤ char.toNat

instance (chars : List Char) : Decidable (Verbatim chars) :=
  List.decidableBAll (fun char => char ≠ '"' ∧ char ≠ '\\' ∧ 0x20 ≤ char.toNat) chars

theorem closingQuote_eq {text rest : List Char} (ends : closingQuote text = some rest) :
    text = '"' :: rest := by
  unfold closingQuote at ends
  cases text with
  | nil => cases ends
  | cons char after =>
      dsimp only at ends
      split_ifs at ends with isQuote
      cases ends
      rw [isQuote]

theorem readHexUnit_shorter {text rest : List Char} {unit : Nat}
    (read : readHexUnit text = some (unit, rest)) : rest.length + 4 = text.length := by
  unfold readHexUnit at read
  split at read
  · rcases Option.bind_eq_some_iff.mp read with ⟨_, _, read⟩
    rcases Option.bind_eq_some_iff.mp read with ⟨_, _, read⟩
    rcases Option.bind_eq_some_iff.mp read with ⟨_, _, read⟩
    rcases Option.bind_eq_some_iff.mp read with ⟨_, _, isResult⟩
    cases isResult
    rfl
  · cases read

theorem readUnicodeEscape_shorter {text rest : List Char} {char : Char}
    (read : readUnicodeEscape text = some (char, rest)) : rest.length + 4 ≤ text.length := by
  rcases Option.bind_eq_some_iff.mp read with ⟨⟨unit, middle⟩, isUnit, read⟩
  have shorter := readHexUnit_shorter isUnit
  dsimp only at read
  split_ifs at read with trailing leading escaped
  · rcases Option.bind_eq_some_iff.mp read with ⟨⟨low, after⟩, isLow, read⟩
    have pairShorter := readHexUnit_shorter isLow
    rw [List.length_drop] at pairShorter
    dsimp only at read
    split_ifs at read
    have isRest : after = rest := (Prod.mk.inj (Option.some.inj read)).2
    rw [← isRest]
    omega
  · have isRest : middle = rest := (Prod.mk.inj (Option.some.inj read)).2
    rw [← isRest]
    omega

/-- A character of a string is itself, or an escape of two letters or more. -/
theorem readStringChar_cases {text rest : List Char} {char : Char}
    (read : readStringChar text = some (char, rest)) :
    (text = char :: rest ∧ char ≠ '\\' ∧ 0x20 ≤ char.toNat) ∨ rest.length + 2 ≤ text.length := by
  cases text with
  | nil => cases read
  | cons first after =>
      unfold readStringChar at read
      dsimp only at read
      split_ifs at read with isEscape isControl
      · right
        cases after with
        | nil => cases read
        | cons letter after =>
            dsimp only at read
            split_ifs at read with isUnicode
            · have shorter := readUnicodeEscape_shorter read
              simp only [List.length_cons]
              omega
            · rcases Option.map_eq_some_iff.mp read with ⟨_, _, isResult⟩
              cases isResult
              exact Nat.le_refl _
      · cases read
        exact Or.inl ⟨rfl, isEscape, Nat.le_of_not_lt isControl⟩

theorem readStringChar_shortens : Shortens readStringChar := by
  intro text char rest read
  rcases readStringChar_cases read with ⟨rfl, _⟩ | shorter
  · exact Nat.lt_succ_self _
  · omega

theorem readString_iff {text chars rest : List Char} :
    readString text = some (chars, rest) <-> Reads closingQuote readStringChar text chars rest :=
  readAll_iff readStringChar_shortens rfl

/-- A string that is read without escapes stands in the text as it is, and one
with escapes takes more letters than it has characters. -/
theorem readString_cases {text chars rest : List Char} (read : readString text = some (chars, rest)) :
    (text = chars ++ '"' :: rest ∧ Verbatim chars) ∨ chars.length + rest.length + 2 ≤ text.length := by
  have reads := readString_iff.mp read
  clear read
  induction reads with
  | stop ends => exact Or.inl ⟨closingQuote_eq ends, fun char impossible => by cases impossible⟩
  | item goes isChar later rest =>
      rename_i text middle after char others
      rcases readStringChar_cases isChar with ⟨rfl, notEscape, notControl⟩ | shorter
      · have notQuote : char ≠ '"' := by
          rintro rfl
          cases goes
        rcases rest with ⟨rfl, verbatim⟩ | long
        · exact Or.inl ⟨rfl, List.forall_mem_cons.mpr ⟨⟨notQuote, notEscape, notControl⟩, verbatim⟩⟩
        · simp only [List.length_cons]
          omega
      · have size : others.length + after.length + 1 ≤ middle.length := by
          rcases rest with ⟨rfl, _⟩ | long
          · rw [List.length_append, List.length_cons]
            omega
          · omega
        simp only [List.length_cons]
        omega

/-- The letters of a string, its closing quote included. -/
theorem readString_length {text chars rest : List Char} (read : readString text = some (chars, rest)) :
    chars.length + rest.length + 1 ≤ text.length := by
  rcases readString_cases read with ⟨rfl, _⟩ | long
  · rw [List.length_append, List.length_cons]
    omega
  · omega

/-- Characters that stand for themselves are read back. -/
theorem readString_verbatim {chars : List Char} (verbatim : Verbatim chars) (rest : List Char) :
    readString (chars ++ '"' :: rest) = some (chars, rest) := by
  refine readString_iff.mpr ?_
  induction chars with
  | nil => exact .stop rfl
  | cons char chars later =>
      rcases List.forall_mem_cons.mp verbatim with ⟨⟨notQuote, notEscape, notControl⟩, others⟩
      refine .item (if_neg notQuote) ?_ (later others)
      have isChar : readStringChar (char :: (chars ++ '"' :: rest)) =
          if char.toNat < 0x20 then none else some (char, chars ++ '"' :: rest) := if_neg notEscape
      rw [List.cons_append, isChar, if_neg (Nat.not_lt.mpr notControl)]

/-! ## Strings that are printed -/

/-- A digit of a number below 16. -/
def hexLetter (digit : Nat) : Char :=
  if digit < 10 then Char.ofNat (48 + digit) else Char.ofNat (87 + digit)

/-- What is printed for a character of a string. -/
def escapeChar (char : Char) : List Char :=
  if char = '"' ∨ char = '\\' then ['\\', char]
  else if 0x20 ≤ char.toNat then [char]
  else if char = '\x08' then ['\\', 'b']
  else if char = '\t' then ['\\', 't']
  else if char = '\n' then ['\\', 'n']
  else if char = '\x0c' then ['\\', 'f']
  else if char = '\r' then ['\\', 'r']
  else ['\\', 'u', '0', '0', hexLetter (char.toNat / 16), hexLetter (char.toNat % 16)]

/-- A string between quotes. -/
def printString (text : String) : List Char := '"' :: text.toList.flatMap escapeChar ++ ['"']

theorem hexValue_hexLetter : forall digit, digit < 16 -> hexValue (hexLetter digit) = some digit := by
  decide

theorem readHexUnit_control {code : Nat} (control : code < 0x20) (rest : List Char) :
    readHexUnit ('0' :: '0' :: hexLetter (code / 16) :: hexLetter (code % 16) :: rest) =
      some (code, rest) := by
  have high := hexValue_hexLetter (code / 16) (by omega)
  have low := hexValue_hexLetter (code % 16) (by omega)
  have zero : hexValue '0' = some 0 := rfl
  simp only [readHexUnit, zero, high, low, Option.bind_eq_bind, Option.bind_some, Option.pure_def]
  congr 2
  omega

theorem readUnicodeEscape_control {char : Char} (control : char.toNat < 0x20) (rest : List Char) :
    readUnicodeEscape ('0' :: '0' :: hexLetter (char.toNat / 16) :: hexLetter (char.toNat % 16) :: rest) =
      some (char, rest) := by
  have notTrailing : ¬ IsTrailing char.toNat := fun isTrailing => by
    have := isTrailing.1
    omega
  have notLeading : ¬ IsLeading char.toNat := fun isLeading => by
    have := isLeading.1
    omega
  rw [readUnicodeEscape, readHexUnit_control control]
  dsimp only [Option.bind_eq_bind, Option.bind_some]
  rw [if_neg notTrailing, if_neg notLeading, Char.ofNat_toNat]

/-- What is printed for a character is read as that character. -/
theorem readStringChar_escapeChar (char : Char) (rest : List Char) :
    readStringChar (escapeChar char ++ rest) = some (char, rest) := by
  unfold escapeChar
  split_ifs with mark visible back tab newline feed carriage
  · rcases mark with rfl | rfl
    · rfl
    · rfl
  · rw [not_or] at mark
    have plain : readStringChar (char :: rest) =
        if char.toNat < 0x20 then none else some (char, rest) := if_neg mark.2
    rw [List.singleton_append, plain, if_neg (Nat.not_lt.mpr visible)]
  · rw [back]
    rfl
  · rw [tab]
    rfl
  · rw [newline]
    rfl
  · rw [feed]
    rfl
  · rw [carriage]
    rfl
  · exact readUnicodeEscape_control (Nat.lt_of_not_le visible) rest

theorem escapeChar_unclosed (char : Char) (rest : List Char) :
    closingQuote (escapeChar char ++ rest) = none := by
  unfold escapeChar
  split_ifs with mark visible
  · rfl
  · exact if_neg fun isQuote => mark (Or.inl isQuote)
  all_goals rfl

/-- Every string that is printed is read back. -/
theorem readString_printString (text : String) (rest : List Char) :
    readString (text.toList.flatMap escapeChar ++ '"' :: rest) = some (text.toList, rest) := by
  refine readString_iff.mpr ?_
  induction text.toList with
  | nil => exact .stop rfl
  | cons char chars later =>
      rw [List.flatMap_cons, List.append_assoc]
      exact .item (escapeChar_unclosed _ _) (readStringChar_escapeChar _ _) later

/-! ## Values that are read -/

theorem readMark_shorter {mark : Char} {text rest : List Char} (read : readMark mark text = some rest) :
    rest.length < text.length := by
  unfold readMark at read
  have size : (skipWhitespace text).length ≤ text.length := (List.dropWhile_suffix _).length_le
  cases isText : skipWhitespace text with
  | nil =>
      rw [isText] at read
      cases read
  | cons char after =>
      simp only [isText] at read
      split_ifs at read
      cases read
      rw [isText, List.length_cons] at size
      omega

theorem readFraction_shorter {text fraction rest : List Char}
    (read : readFraction text = some (fraction, rest)) : rest.length ≤ text.length := by
  cases text with
  | nil =>
      cases read
      exact Nat.le_refl _
  | cons char after =>
      unfold readFraction at read
      dsimp only at read
      split_ifs at read
      · cases read
        exact Nat.le_succ_of_le (List.dropWhile_suffix _).length_le
      · cases read
        exact Nat.le_refl _

theorem readExponent_shorter {text exponent rest : List Char}
    (read : readExponent text = some (exponent, rest)) : rest.length ≤ text.length := by
  cases text with
  | nil =>
      cases read
      exact Nat.le_refl _
  | cons char after =>
      unfold readExponent at read
      dsimp only at read
      split_ifs at read
      · cases read
        exact Nat.le_succ_of_le (((List.dropWhile_suffix _).trans (List.drop_suffix _ _)).length_le)
      · cases read
        exact Nat.le_succ_of_le (((List.dropWhile_suffix _).trans (List.drop_suffix _ _)).length_le)
      · cases read
        exact Nat.le_refl _

/-- Letters at the front leave less. -/
theorem length_dropWhile_lt {holds : Char -> Bool} {text : List Char} (taken : text.takeWhile holds ≠ []) :
    (text.dropWhile holds).length < text.length := by
  have parts := congrArg List.length (List.takeWhile_append_dropWhile (p := holds) (l := text))
  rw [List.length_append] at parts
  have some_taken := List.length_pos_iff.mpr taken
  omega

theorem Reads.shorter {α : Type} {stop : List Char -> Option (List Char)}
    {item : List Char -> Option (α × List Char)} {text rest : List Char} {items : List α}
    (stops : forall text rest, stop text = some rest -> rest.length < text.length)
    (shortens : Shortens item) (reads : Reads stop item text items rest) : rest.length < text.length := by
  induction reads with
  | stop ends => exact stops _ _ ends
  | item goes read later shorter => exact shorter.trans (shortens _ _ _ read)

/-- What holds of every item that is read from a text no longer than the bound. -/
theorem Reads.forall_items {α : Type} {stop : List Char -> Option (List Char)}
    {item : List Char -> Option (α × List Char)} {text rest : List Char} {items : List α}
    {holds : α -> Prop} (shortens : Shortens item) (reads : Reads stop item text items rest)
    (all : forall middle first after, middle.length ≤ text.length -> item middle = some (first, after) ->
      holds first) : forall first, first ∈ items -> holds first := by
  induction reads with
  | stop ends => exact fun first impossible => by cases impossible
  | item goes read later rest =>
      intro first member
      rcases List.mem_cons.mp member with rfl | other
      · exact all _ _ _ (Nat.le_refl _) read
      · refine rest ?_ first other
        intro middle first after bound
        exact all middle first after (bound.trans (shortens _ _ _ read).le)

section Sequence

variable {α : Type} {close : Char} {readItem : List Char -> Option (α × List Char)}

/-- An item behind a comma. -/
theorem readNext_shorter (shortens : Shortens readItem) :
    Shortens fun text => (readMark ',' text).bind readItem := by
  intro text first rest read
  rcases Option.bind_eq_some_iff.mp read with ⟨middle, isMark, isItem⟩
  exact (shortens _ _ _ isItem).trans (readMark_shorter isMark)

/-- A sequence is empty, or an item and the others behind commas. -/
theorem readSequence_cases (shortens : Shortens readItem) {text rest : List Char} {items : List α}
    (read : readSequence close readItem text = some (items, rest)) :
    (items = [] ∧ readMark close text = some rest) ∨
      exists first middle others, items = first :: others ∧ readItem text = some (first, middle) ∧
        Reads (readMark close) (fun text => (readMark ',' text).bind readItem) middle others rest := by
  unfold readSequence at read
  cases ends : readMark close text with
  | some after =>
      rw [ends] at read
      cases read
      exact Or.inl ⟨rfl, rfl⟩
  | none =>
      rw [ends] at read
      rcases Option.bind_eq_some_iff.mp read with ⟨⟨first, middle⟩, isFirst, read⟩
      rcases Option.bind_eq_some_iff.mp read with ⟨⟨others, after⟩, areOthers, isResult⟩
      cases isResult
      exact Or.inr ⟨first, middle, others, rfl, isFirst,
        (readAll_iff (readNext_shorter shortens) rfl).mp areOthers⟩

theorem readSequence_shortens (shortens : Shortens readItem) : Shortens (readSequence close readItem) := by
  intro text items rest read
  rcases readSequence_cases shortens read with ⟨_, ends⟩ | ⟨first, middle, others, _, isFirst, reads⟩
  · exact readMark_shorter ends
  · have later := reads.shorter (fun _ _ ends => readMark_shorter ends) (readNext_shorter shortens)
    exact later.trans (shortens _ _ _ isFirst)

end Sequence

theorem readMember_cases {readItem : List Char -> Option (Json × List Char)} {text rest : List Char}
    {entry : String × Json} (read : readMember readItem text = some (entry, rest)) :
    exists middle, middle.length + 3 ≤ text.length ∧ readItem middle = some (entry.2, rest) := by
  rcases Option.bind_eq_some_iff.mp read with ⟨opened, isOpened, read⟩
  rcases Option.bind_eq_some_iff.mp read with ⟨⟨key, named⟩, isKey, read⟩
  rcases Option.bind_eq_some_iff.mp read with ⟨middle, isMiddle, read⟩
  rcases Option.bind_eq_some_iff.mp read with ⟨⟨value, after⟩, isValue, isResult⟩
  cases isResult
  have first := readMark_shorter isOpened
  have second := readString_length isKey
  have third := readMark_shorter isMiddle
  exact ⟨middle, by omega, isValue⟩

theorem readMember_shortens {readItem : List Char -> Option (Json × List Char)}
    (shortens : Shortens readItem) : Shortens (readMember readItem) := by
  intro text entry rest read
  rcases readMember_cases read with ⟨middle, bound, isValue⟩
  have shorter := shortens _ _ _ isValue
  omega

section Reader

variable {readFloat : List Char -> Option FiniteDouble}

theorem readUnsigned_shortens (negative : Bool) : Shortens (readUnsigned readFloat negative) := by
  intro text number rest read
  unfold readUnsigned at read
  dsimp only at read
  split_ifs at read with none_read
  rcases Option.bind_eq_some_iff.mp read with ⟨⟨fraction, afterFraction⟩, isFraction, read⟩
  rcases Option.bind_eq_some_iff.mp read with ⟨⟨exponent, afterExponent⟩, isExponent, read⟩
  rcases Option.bind_eq_some_iff.mp read with ⟨_, _, isResult⟩
  cases isResult
  have taken := length_dropWhile_lt (not_or.mp none_read).1
  have fractionTaken := readFraction_shorter isFraction
  have exponentTaken := readExponent_shorter isExponent
  exact Nat.lt_of_le_of_lt (exponentTaken.trans fractionTaken) taken

theorem readNumber_shortens : Shortens (readNumber readFloat) := by
  intro text number rest read
  cases text with
  | nil => cases read
  | cons char after =>
      unfold readNumber at read
      dsimp only at read
      split_ifs at read
      · exact (readUnsigned_shortens true _ _ _ read).trans (Nat.lt_succ_self _)
      · exact readUnsigned_shortens false _ _ _ read

/-- What a value is read from, by its first letter. -/
inductive ReadsValue (depth : Nat) (text : List Char) : Json -> List Char -> Prop
  | leaf {value : Json} {rest : List Char} (shorter : rest.length < text.length)
      (noString : forall string, value ≠ .string string) (ordered : value.Ordered) :
      ReadsValue depth text value rest
  | string {chars middle rest : List Char} (opened : readMark '"' text = some middle)
      (read : readString middle = some (chars, rest)) :
      ReadsValue depth text (.string (String.ofList chars)) rest
  | array {items : List Json} {middle rest : List Char} (opened : readMark '[' text = some middle)
      (read : readSequence ']' (readValue readFloat depth) middle = some (items, rest)) :
      ReadsValue depth text (.array items) rest
  | object {members : List (String × Json)} {middle rest : List Char}
      (opened : readMark '{' text = some middle)
      (read : readSequence '}' (readMember (readValue readFloat depth)) middle = some (members, rest)) :
      ReadsValue depth text (.object (mapOf members)) rest

theorem readIdent_cases {word : String} {value read : Json} {text rest : List Char}
    (isRead : readIdent word value text = some (read, rest)) :
    read = value ∧ rest.length ≤ text.length := by
  unfold readIdent at isRead
  split_ifs at isRead
  cases isRead
  exact ⟨rfl, (List.drop_suffix _ _).length_le⟩

theorem ReadsValue.of_readValue {depth : Nat} {text rest : List Char} {value : Json}
    (read : readValue readFloat (depth + 1) text = some (value, rest)) :
    @ReadsValue readFloat depth text value rest := by
  unfold readValue at read
  have size : (skipWhitespace text).length ≤ text.length := (List.dropWhile_suffix _).length_le
  cases isText : skipWhitespace text with
  | nil =>
      rw [isText] at read
      cases read
  | cons char after =>
      have mark : readMark char text = some after := by
        rw [readMark, isText]
        exact if_pos rfl
      rw [isText, List.length_cons] at size
      simp only [isText] at read
      split_ifs at read with isNull isTrue isFalse isQuote isArray atLimit isObject atLimit
      · rcases readIdent_cases read with ⟨rfl, shorter⟩
        exact .leaf (by omega) nofun (fun members within => by cases within)
      · rcases readIdent_cases read with ⟨rfl, shorter⟩
        exact .leaf (by omega) nofun (fun members within => by cases within)
      · rcases readIdent_cases read with ⟨rfl, shorter⟩
        exact .leaf (by omega) nofun (fun members within => by cases within)
      · rcases Option.map_eq_some_iff.mp read with ⟨⟨chars, behind⟩, isString, isResult⟩
        cases isResult
        exact .string (isQuote ▸ mark) isString
      · rcases Option.map_eq_some_iff.mp read with ⟨⟨items, behind⟩, areItems, isResult⟩
        cases isResult
        exact .array (isArray ▸ mark) areItems
      · rcases Option.map_eq_some_iff.mp read with ⟨⟨members, behind⟩, areMembers, isResult⟩
        cases isResult
        exact .object (isObject ▸ mark) areMembers
      · rcases Option.map_eq_some_iff.mp read with ⟨⟨number, behind⟩, isNumber, isResult⟩
        cases isResult
        have shorter : behind.length < after.length + 1 := readNumber_shortens _ _ _ isNumber
        exact .leaf (shorter.trans_le size) nofun (fun members within => by cases within)

theorem readValue_shortens (depth : Nat) : Shortens (readValue readFloat depth) := by
  induction depth with
  | zero => exact fun text value rest contrary => by cases contrary
  | succ depth shortens =>
      intro text value rest read
      cases ReadsValue.of_readValue read with
      | leaf shorter noString ordered => exact shorter
      | string opened isString =>
          have first := readMark_shorter opened
          have second := readString_length isString
          omega
      | array opened areItems =>
          exact (readSequence_shortens shortens _ _ _ areItems).trans (readMark_shorter opened)
      | object opened areMembers =>
          exact (readSequence_shortens (readMember_shortens shortens) _ _ _ areMembers).trans
            (readMark_shorter opened)

/-- A string that is read has fewer characters than letters are taken. -/
theorem readValue_string {depth : Nat} {text rest : List Char} {string : String}
    (read : readValue readFloat depth text = some (.string string, rest)) :
    string.toList.length + rest.length + 2 ≤ text.length := by
  cases depth with
  | zero => cases read
  | succ depth =>
      cases ReadsValue.of_readValue read with
      | leaf shorter noString ordered => exact absurd rfl (noString string)
      | string opened isString =>
          have first := readMark_shorter opened
          have second := readString_length isString
          rw [String.toList_ofList]
          omega

/-- What holds of every item of a sequence, wherever in the text it is read. -/
theorem readSequence_forall {α : Type} {close : Char} {readItem : List Char -> Option (α × List Char)}
    {holds : α -> Prop} (shortens : Shortens readItem) {text rest : List Char} {items : List α}
    (read : readSequence close readItem text = some (items, rest))
    (all : forall middle first after, middle.length ≤ text.length ->
      readItem middle = some (first, after) -> holds first) : forall first, first ∈ items -> holds first := by
  rcases readSequence_cases shortens read with ⟨rfl, _⟩ | ⟨head, middle, others, rfl, isFirst, reads⟩
  · exact fun first impossible => by cases impossible
  · refine List.forall_mem_cons.mpr ⟨all _ _ _ (Nat.le_refl _) isFirst, ?_⟩
    refine reads.forall_items (readNext_shorter shortens) ?_
    intro later first after bound isNext
    rcases Option.bind_eq_some_iff.mp isNext with ⟨behind, isMark, isItem⟩
    have marked := readMark_shorter isMark
    have taken := shortens _ _ _ isFirst
    exact all behind first after (by omega) isItem

/-- The objects that are read are maps. -/
theorem ordered_of_readValue (depth : Nat) : forall {text rest : List Char} {value : Json},
    readValue readFloat depth text = some (value, rest) -> value.Ordered := by
  induction depth with
  | zero => exact fun contrary => by cases contrary
  | succ depth ordered =>
      intro text rest value read
      cases ReadsValue.of_readValue read with
      | leaf shorter noString isOrdered => exact isOrdered
      | string opened isString => exact fun members within => by cases within
      | array opened areItems =>
          exact Json.ordered_array_iff.mpr <|
            readSequence_forall (readValue_shortens depth) areItems
              (fun middle item after _ isItem => ordered isItem)
      | @object entries _ _ opened areMembers =>
          have values : forall entry, entry ∈ entries -> entry.2.Ordered := by
            refine readSequence_forall (readMember_shortens (readValue_shortens depth)) areMembers ?_
            intro middle entry after _ isEntry
            rcases readMember_cases isEntry with ⟨behind, _, isValue⟩
            exact ordered isValue
          exact Json.ordered_object_iff.mpr
            ⟨ordered_mapOf entries, fun entry member => values entry (mem_mapOf member)⟩

theorem ordered_of_readJson {text : String} {value : Json} (read : readJson readFloat text = some value) :
    value.Ordered := by
  rcases Option.bind_eq_some_iff.mp read with ⟨⟨whole, rest⟩, isWhole, atEnd⟩
  dsimp only at atEnd
  split_ifs at atEnd
  cases atEnd
  exact ordered_of_readValue 128 isWhole

/-! ## Objects that are written -/

theorem readValue_opened_string (depth : Nat) (text : List Char) :
    readValue readFloat (depth + 1) ('"' :: text) =
      (readString text).map fun (chars, rest) => (.string (String.ofList chars), rest) :=
  rfl

theorem readValue_opened_object (depth : Nat) (text : List Char) :
    readValue readFloat (depth + 2) ('{' :: text) =
      (readSequence '}' (readMember (readValue readFloat (depth + 1))) text).map fun (members, rest) =>
        (.object (mapOf members), rest) :=
  rfl

theorem printString_append (text : String) (rest : List Char) :
    printString text ++ rest = '"' :: (text.toList.flatMap escapeChar ++ '"' :: rest) := by
  rw [printString, List.append_assoc, List.singleton_append]
  rfl

/-- A member whose key is printed and whose value is an open string. -/
theorem readMember_opened_string (depth : Nat) (key : String) (text : List Char) :
    readMember (readValue readFloat (depth + 1)) (printString key ++ ':' :: '"' :: text) =
      (readString text).map fun (chars, rest) => ((key, .string (String.ofList chars)), rest) := by
  have opened : readMark '"' ('"' :: (key.toList.flatMap escapeChar ++ '"' :: ':' :: '"' :: text)) =
      some (key.toList.flatMap escapeChar ++ '"' :: ':' :: '"' :: text) := rfl
  have colon : readMark ':' (':' :: '"' :: text) = some ('"' :: text) := rfl
  rw [printString_append, readMember, opened]
  dsimp only [Option.bind_eq_bind, Option.bind_some]
  rw [readString_printString]
  dsimp only [Option.bind_some]
  rw [colon, String.ofList_toList]
  dsimp only [Option.bind_some]
  rw [readValue_opened_string]
  cases readString text with
  | none => rfl
  | some read => rfl

/-- A member with a printed string. -/
def printMember (entry : String × String) : List Char := printString entry.1 ++ ':' :: printString entry.2

/-- An object of strings, as it is printed. -/
def printRecord (entries : List (String × String)) : String :=
  String.ofList ('{' :: [','].intercalate (entries.map printMember) ++ ['}'])

theorem readMember_printMember (depth : Nat) (entry : String × String) (rest : List Char) :
    readMember (readValue readFloat (depth + 1)) (printMember entry ++ rest) =
      some ((entry.1, .string entry.2), rest) := by
  rw [printMember, List.append_assoc, List.cons_append, printString_append entry.2,
    readMember_opened_string, readString_printString, Option.map_some]
  dsimp only
  rw [String.ofList_toList]

/-- The members of a record, as they are read. -/
def recordMembers (entries : List (String × String)) : List (String × Json) :=
  entries.map fun entry => (entry.1, .string entry.2)

/-- The members behind the first. -/
theorem reads_printed (depth : Nat) (entries : List (String × String)) (rest : List Char) :
    Reads (readMark '}')
      (fun text => (readMark ',' text).bind (readMember (readValue readFloat (depth + 1))))
      ((entries.map fun entry => ',' :: printMember entry).flatten ++ '}' :: rest)
      (recordMembers entries) rest := by
  induction entries with
  | nil => exact .stop rfl
  | cons entry entries later =>
      rw [List.map_cons, List.flatten_cons, List.append_assoc, List.cons_append]
      refine .item rfl ?_ later
      exact readMember_printMember depth entry _

/-- A record that is printed is read back, whatever its strings contain. -/
theorem readJson_printRecord (entries : List (String × String)) :
    readJson readFloat (printRecord entries) = some (.object (mapOf (recordMembers entries))) := by
  have sequence : readSequence '}' (readMember (readValue readFloat 127))
      ([','].intercalate (entries.map printMember) ++ ['}']) = some (recordMembers entries, []) := by
    cases entries with
    | nil => rfl
    | cons entry entries =>
        have letters : [','].intercalate ((entry :: entries).map printMember) ++ ['}'] =
            printMember entry ++ ((entries.map fun entry => ',' :: printMember entry).flatten ++ ['}']) := by
          rw [List.map_cons, intercalate_cons, List.append_assoc, List.map_map]
          rfl
        have notClosed : readMark '}' (printMember entry ++
            ((entries.map fun entry => ',' :: printMember entry).flatten ++ ['}'])) = none := rfl
        have others := (readAll_iff (readNext_shorter (readMember_shortens (readValue_shortens 127)))
          rfl).mpr (@reads_printed readFloat 126 entries [])
        rw [letters, readSequence, notClosed]
        dsimp only
        rw [readMember_printMember]
        dsimp only [Option.bind_eq_bind, Option.bind_some]
        rw [others]
        rfl
  rw [readJson, printRecord, String.toList_ofList, List.cons_append, readValue_opened_object, sequence]
  rfl

/-! ## Texts put between quotes -/

/-- An object with one string, which is not printed but put between quotes. -/
def spliceRecord (key text : String) : String :=
  String.ofList ('{' :: printString key ++ ':' :: '"' :: text.toList ++ ['"', '}'])

theorem readJson_spliceRecord (key text : String) :
    readJson readFloat (spliceRecord key text) =
      ((readSequence '}' (readMember (readValue readFloat 127))
          (printString key ++ ':' :: '"' :: (text.toList ++ ['"', '}']))).bind fun read =>
        if skipWhitespace read.2 = [] then some (.object (mapOf read.1)) else none) := by
  rw [readJson, spliceRecord, String.toList_ofList, List.cons_append, List.cons_append, List.append_assoc,
    List.cons_append, List.cons_append, readValue_opened_object]
  cases readSequence '}' (readMember (readValue readFloat 127))
      (printString key ++ ':' :: '"' :: (text.toList ++ ['"', '}'])) with
  | none => rfl
  | some read => rfl

/-- A text that stands for itself is read back. -/
theorem readJson_splice_verbatim (key : String) {text : String} (verbatim : Verbatim text.toList) :
    readJson readFloat (spliceRecord key text) = some (.object [(key, .string text)]) := by
  have notClosed : readMark '}' (printString key ++ ':' :: '"' :: (text.toList ++ ['"', '}'])) = none := rfl
  have none_follow : readAll (readMark '}')
      (fun text => (readMark ',' text).bind (readMember (readValue readFloat 127))) ['}'] = some ([], []) :=
    rfl
  rw [readJson_spliceRecord, readSequence, notClosed]
  dsimp only
  rw [readMember_opened_string, readString_verbatim verbatim, Option.map_some]
  dsimp only [Option.bind_eq_bind, Option.bind_some]
  rw [none_follow, String.ofList_toList]
  rfl

/-- Any other text leaves an object, if anything, and no member of it has that
text: what is read takes more letters than it has characters. -/
theorem readJson_splice_other {key text : String} {value : Json} (other : ¬ Verbatim text.toList)
    (read : readJson readFloat (spliceRecord key text) = some value) :
    exists members, value = .object members ∧
      forall entry, entry ∈ members -> entry.2 ≠ .string text := by
  rw [readJson_spliceRecord] at read
  rcases Option.bind_eq_some_iff.mp read with ⟨⟨members, rest⟩, areMembers, atEnd⟩
  dsimp only at atEnd
  split_ifs at atEnd
  cases atEnd
  refine ⟨mapOf members, rfl, ?_⟩
  have shortens := readMember_shortens (@readValue_shortens readFloat 127)
  rcases readSequence_cases shortens areMembers with
    ⟨_, ends⟩ | ⟨first, middle, others, rfl, isFirst, reads⟩
  · cases ends
  · rw [readMember_opened_string] at isFirst
    rcases Option.map_eq_some_iff.mp isFirst with ⟨⟨chars, after⟩, isString, isResult⟩
    cases isResult
    have all : forall entry, entry ∈ (key, Json.string (String.ofList chars)) :: others ->
        entry.2 ≠ .string text := by
      refine List.forall_mem_cons.mpr ⟨?_, ?_⟩
      · intro same
        have isText : chars = text.toList := by
          rw [← Json.string.inj same, String.toList_ofList]
        have behind := reads.shorter (fun _ _ ends => readMark_shorter ends) (readNext_shorter shortens)
        rcases readString_cases isString with ⟨_, verbatim⟩ | long
        · exact other (isText ▸ verbatim)
        · rw [isText, List.length_append] at long
          simp only [List.length_cons, List.length_nil] at long
          omega
      · refine reads.forall_items (readNext_shorter shortens) ?_
        intro middle entry after bound isNext same
        rcases Option.bind_eq_some_iff.mp isNext with ⟨behind, isMark, isEntry⟩
        rcases readMember_cases isEntry with ⟨later, shorter, isValue⟩
        rw [same] at isValue
        have long := readValue_string isValue
        have marked := readMark_shorter isMark
        have taken := readString_length isString
        rw [List.length_append] at taken
        simp only [List.length_cons, List.length_nil] at taken
        omega
    exact fun entry member => all entry (mem_mapOf member)

end Reader

end Foundation
end P2pSdk
