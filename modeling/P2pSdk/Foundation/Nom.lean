import P2pSdk.Foundation.Bytes

namespace P2pSdk
namespace Foundation

/-!
# Byte parsers that return what they did not read

A parser takes bytes and returns a value with the bytes behind it, or stops.
It stops with an error, after which a repetition ends where it is, with a
failure, which ends the whole parse, or with a panic, when a container of fixed
capacity is pushed over its end.

`Reads parser bytes value` says that the parser reads the value off the front
of whatever starts with these bytes.  It is a statement for all rests, so that
the readings of the parts of a message compose to a reading of the message:
the rules below follow the operators of the parsers, and a round trip is
proved by applying them in the order in which the message was written.
-/

inductive ErrorKind where
  | eof
  | fail
  | lengthValue
  | many0
  | many1
  | switch
  | tag
  deriving DecidableEq, Repr

/-- The ways in which a parser returns no value. -/
inductive Stop where
  | error (kind : ErrorKind)
  | failure (kind : ErrorKind)
  | panic
  deriving DecidableEq, Repr

abbrev Parser := StateT Bytes (Except Stop)

namespace Parser

variable {α β : Type}

def stop (reason : Stop) : Parser α := fun _ => .error reason

/-- The bytes that are left. -/
def look : Parser Bytes := fun input => .ok (input, input)

/-- Run a parser on bytes taken before, which it must read to their end. -/
def whole (parser : Parser α) (kind : ErrorKind) (part : Bytes) : Parser α := fun input =>
  match parser part with
  | .error reason => .error reason
  | .ok (value, []) => .ok (value, input)
  | .ok (_, _ :: _) => .error (.failure kind)

/-- Run a parser on bytes taken before, whatever it leaves of them. -/
def part (parser : Parser α) (bytes : Bytes) : Parser α := fun input =>
  match parser bytes with
  | .error reason => .error reason
  | .ok (value, _) => .ok (value, input)

/-- Stop unless the condition holds. -/
def require (condition : Bool) (reason : Stop) : Parser Unit := fun input =>
  if condition then .ok ((), input) else .error reason

/-- Drop some bytes that must be there. -/
def drop (count : Nat) : Parser Unit := fun input =>
  if input.length < count then .error .panic else .ok ((), input.drop count)

/-! ## Numbers and slices -/

/-- Take some bytes off the front. -/
def take (count : Nat) : Parser Bytes := fun input =>
  if input.length < count then .error (.error .eof) else .ok (input.take count, input.drop count)

def beUint (width : Nat) : Parser Nat := beNat <$> take width

def beU8 : Parser UInt8 := UInt8.ofNat <$> beUint 1

def beU16 : Parser UInt16 := UInt16.ofNat <$> beUint 2

def beU24 : Parser Nat := beUint 3

def beU48 : Parser Nat := beUint 6

end Parser

/-! ## Containers of fixed capacity -/

/-- A list that holds no more than its capacity. -/
structure ArrayVec (α : Type) (capacity : Nat) where
  items : List α
  fits : items.length ≤ capacity
  deriving DecidableEq, Repr

namespace ArrayVec

variable {α : Type} {capacity : Nat}

def empty : ArrayVec α capacity := ⟨[], Nat.zero_le _⟩

/-- Push an item when there is room. -/
def tryPush (self : ArrayVec α capacity) (item : α) : Option (ArrayVec α capacity) :=
  if room : self.items.length < capacity then
    some ⟨self.items ++ [item], by rw [List.length_append]; exact room⟩
  else none

theorem eq_of_items {first second : ArrayVec α capacity} (same : first.items = second.items) : first = second := by
  cases first
  cases second
  cases same
  rfl

theorem tryPush_eq_some {before after : ArrayVec α capacity} {item : α} :
    before.tryPush item = some after <-> after.items = before.items ++ [item] := by
  unfold tryPush
  constructor
  · intro pushed
    split at pushed
    · cases pushed
      rfl
    · cases pushed
  · intro same
    have room : before.items.length < capacity := by
      have := after.fits
      rw [same, List.length_append, List.length_singleton] at this
      exact this
    rw [dif_pos room]
    exact congrArg some (eq_of_items same.symm)

end ArrayVec

namespace Parser

variable {α β : Type}

/-! ## Repetitions -/

/-- Read items until the input is empty or an item ends with an error, and keep
those that pass the filter.  An item that reads nothing, and one that does not
fit, end the parse. -/
def manyLoop {capacity : Nat} (item : Parser α) (keep : α -> Bool) (kind : ErrorKind) :
    Nat -> ArrayVec α capacity -> Parser (ArrayVec α capacity)
  | 0, acc, input => .ok (acc, input)
  | fuel + 1, acc, input =>
      if input.isEmpty then .ok (acc, input)
      else
        match item input with
        | .error (.error _) => .ok (acc, input)
        | .error reason => .error reason
        | .ok (value, rest) =>
            if rest.length = input.length then .error (.error kind)
            else if keep value then
              match acc.tryPush value with
              | some acc => manyLoop item keep kind fuel acc rest
              | none => .error (.error kind)
            else manyLoop item keep kind fuel acc rest

/-- Every round reads a byte at least, so the number of bytes bounds the rounds. -/
def many0 {capacity : Nat} (item : Parser α) (keep : α -> Bool) : Parser (ArrayVec α capacity) := fun input =>
  manyLoop item keep .many0 input.length .empty input

def many1 {capacity : Nat} (item : Parser α) (keep : α -> Bool) : Parser (ArrayVec α capacity) := fun input =>
  match manyLoop item keep .many1 input.length .empty input with
  | .error reason => .error reason
  | .ok (acc, rest) => if acc.items.isEmpty then .error (.error .many1) else .ok (acc, rest)

/-- Read items to the end of some bytes and push those that pass the filter.
To push one over the capacity is a panic. -/
def untilEmptyLoop {capacity : Nat} (item : Parser α) (keep : α -> Bool) :
    Nat -> ArrayVec α capacity -> Bytes -> Except Stop (ArrayVec α capacity)
  | 0, acc, _ => .ok acc
  | fuel + 1, acc, input =>
      if input.isEmpty then .ok acc
      else
        match item input with
        | .error reason => .error reason
        | .ok (value, rest) =>
            if keep value then
              match acc.tryPush value with
              | some acc => untilEmptyLoop item keep fuel acc rest
              | none => .error .panic
            else untilEmptyLoop item keep fuel acc rest

def untilEmpty {capacity : Nat} (item : Parser α) (keep : α -> Bool) (part : Bytes) :
    Parser (ArrayVec α capacity) := fun input =>
  match untilEmptyLoop item keep part.length .empty part with
  | .error reason => .error reason
  | .ok acc => .ok (acc, input)

/-! ## Reading back -/

/-- The parser reads the value off the front of everything that starts with
the bytes. -/
def Reads (parser : Parser α) (bytes : Bytes) (value : α) : Prop :=
  forall rest, parser (bytes ++ rest) = .ok (value, rest)

theorem Reads.at_end {parser : Parser α} {bytes : Bytes} {value : α} (reads : parser.Reads bytes value) :
    parser bytes = .ok (value, []) := by
  simpa using reads []

theorem reads_pure (value : α) : (pure value : Parser α).Reads [] value := fun _ => rfl

theorem reads_require {condition : Bool} (holds : condition = true) (reason : Stop) :
    (require condition reason).Reads [] () := by
  intro rest
  unfold require
  rw [if_pos holds]
  rfl

theorem reads_drop (bytes : Bytes) : (drop bytes.length).Reads bytes () := by
  intro rest
  unfold drop
  rw [if_neg (by simp), List.drop_left]

theorem Reads.bind {first : Parser α} {next : α -> Parser β} {bytes others : Bytes} {value : α} {result : β}
    (reads : first.Reads bytes value) (readsNext : (next value).Reads others result) :
    (first >>= next).Reads (bytes ++ others) result := by
  intro rest
  show Except.bind (first (bytes ++ others ++ rest)) _ = _
  rw [List.append_assoc, reads]
  exact readsNext rest

/-- A step behind which nothing more is read. -/
theorem Reads.then {first : Parser α} {next : α -> Parser β} {bytes : Bytes} {value : α} {result : β}
    (reads : first.Reads bytes value) (readsNext : (next value).Reads [] result) :
    (first >>= next).Reads bytes result := by
  have both := reads.bind readsNext
  rwa [List.append_nil] at both

/-- A first step that reads nothing. -/
theorem Reads.skip {first : Parser α} {next : α -> Parser β} {bytes : Bytes} {value : α} {result : β}
    (reads : first.Reads [] value) (readsNext : (next value).Reads bytes result) :
    (first >>= next).Reads bytes result :=
  reads.bind readsNext

theorem Reads.map {parser : Parser α} {bytes : Bytes} {value : α} (f : α -> β)
    (reads : parser.Reads bytes value) : (f <$> parser).Reads bytes (f value) :=
  show (parser >>= fun value => pure (f value)).Reads bytes (f value) from reads.then (reads_pure (f value))

theorem reads_take (bytes : Bytes) : (take bytes.length).Reads bytes bytes := by
  intro rest
  unfold take
  rw [if_neg (by simp), List.take_left, List.drop_left]

theorem reads_take_of {bytes : Bytes} {count : Nat} (sized : bytes.length = count) :
    (take count).Reads bytes bytes :=
  sized ▸ reads_take bytes

theorem reads_beUint {width value : Nat} (fits : value < 256 ^ width) :
    (beUint width).Reads (beBytes width value) value := by
  have taken := reads_take_of (beBytes_length width value)
  have reads := taken.map beNat
  rwa [beNat_beBytes_of_lt fits] at reads

theorem reads_beU8 (value : UInt8) : beU8.Reads [value] value := by
  have fits : value.toNat < 256 ^ 1 := value.toNat_lt
  have reads := (reads_beUint fits).map UInt8.ofNat
  rw [UInt8.ofNat_toNat] at reads
  have bytes : beBytes 1 value.toNat = [value] := by simp [beBytes]
  rwa [bytes] at reads

theorem reads_beU16 (value : UInt16) : beU16.Reads (beBytes 2 value.toNat) value := by
  have fits : value.toNat < 256 ^ 2 := value.toNat_lt
  have reads := (reads_beUint fits).map UInt16.ofNat
  rwa [UInt16.ofNat_toNat] at reads

/-- A length of two bytes and what it is the length of. -/
theorem reads_length16 {bytes : Bytes} (short : bytes.length < 256 ^ 2) :
    beU16.Reads (beBytes 2 bytes.length) (UInt16.ofNat bytes.length) ∧
      (take (UInt16.ofNat bytes.length).toNat).Reads bytes bytes := by
  have same : (UInt16.ofNat bytes.length).toNat = bytes.length := UInt16.toNat_ofNat_of_lt' short
  have reads := reads_beU16 (UInt16.ofNat bytes.length)
  rw [same] at reads
  exact ⟨reads, reads_take_of same.symm⟩

theorem reads_length8 {bytes : Bytes} (short : bytes.length < 256) :
    beU8.Reads [UInt8.ofNat bytes.length] (UInt8.ofNat bytes.length) ∧
      (take (UInt8.ofNat bytes.length).toNat).Reads bytes bytes :=
  ⟨reads_beU8 _, reads_take_of (UInt8.toNat_ofNat_of_lt' short).symm⟩

theorem reads_beU24 {value : Nat} (fits : value < 256 ^ 3) : beU24.Reads (beBytes 3 value) value :=
  reads_beUint fits

theorem reads_beU48 {value : Nat} (fits : value < 256 ^ 6) : beU48.Reads (beBytes 6 value) value :=
  reads_beUint fits

/-- The parser reads all of the bytes.  What it makes of them may depend on
where they end. -/
def ReadsAll (parser : Parser α) (bytes : Bytes) (value : α) : Prop := parser bytes = .ok (value, [])

theorem Reads.all {parser : Parser α} {bytes : Bytes} {value : α} (reads : parser.Reads bytes value) :
    parser.ReadsAll bytes value :=
  reads.at_end

theorem Reads.bindAll {first : Parser α} {next : α -> Parser β} {bytes others : Bytes} {value : α} {result : β}
    (reads : first.Reads bytes value) (readsNext : (next value).ReadsAll others result) :
    (first >>= next).ReadsAll (bytes ++ others) result := by
  show Except.bind (first (bytes ++ others)) _ = _
  rw [reads]
  exact readsNext

theorem Reads.skipAll {first : Parser α} {next : α -> Parser β} {bytes : Bytes} {value : α} {result : β}
    (reads : first.Reads [] value) (readsNext : (next value).ReadsAll bytes result) :
    (first >>= next).ReadsAll bytes result :=
  reads.bindAll readsNext

/-- Looking at what is left. -/
theorem lookAll {next : Bytes -> Parser β} {bytes : Bytes} {result : β}
    (readsNext : (next bytes).ReadsAll bytes result) : (look >>= next).ReadsAll bytes result := readsNext

theorem ReadsAll.map {parser : Parser α} {bytes : Bytes} {value : α} (f : α -> β)
    (reads : parser.ReadsAll bytes value) : (f <$> parser).ReadsAll bytes (f value) := by
  show Except.bind (parser bytes) _ = _
  rw [show parser bytes = _ from reads]
  rfl

/-- Steps at the end of the input. -/
theorem ReadsAll.thenAll {first : Parser α} {next : α -> Parser β} {bytes : Bytes} {value : α} {result : β}
    (reads : first.ReadsAll bytes value) (readsNext : (next value).ReadsAll [] result) :
    (first >>= next).ReadsAll bytes result := by
  show Except.bind (first bytes) _ = _
  rw [show first bytes = _ from reads]
  exact readsNext

theorem ReadsAll.then {first : Parser α} {next : α -> Parser β} {bytes : Bytes} {value : α} {result : β}
    (reads : first.ReadsAll bytes value) (readsNext : (next value).Reads [] result) :
    (first >>= next).ReadsAll bytes result :=
  reads.thenAll readsNext.all

/-! ## Repetitions read back -/

section Repetition

variable {item : Parser α} {bytes : α -> Bytes} {keep : α -> Bool} {capacity : Nat} {values : List α}

/-- Each of the values passes the filter and is read back from its bytes. -/
structure Writes (item : Parser α) (keep : α -> Bool) (bytes : α -> Bytes) (values : List α) : Prop where
  reads : forall value, value ∈ values -> item.Reads (bytes value) value
  nonempty : forall value, value ∈ values -> bytes value ≠ []
  kept : forall value, value ∈ values -> keep value = true

theorem Writes.tail {value : α} (writes : Writes item keep bytes (value :: values)) :
    Writes item keep bytes values :=
  ⟨fun other isOther => writes.reads other (List.mem_cons_of_mem _ isOther),
    fun other isOther => writes.nonempty other (List.mem_cons_of_mem _ isOther),
    fun other isOther => writes.kept other (List.mem_cons_of_mem _ isOther)⟩

/-- The first item of such values: it is read, kept, and is not empty. -/
theorem Writes.head {value : α} (writes : Writes item keep bytes (value :: values)) :
    item ((value :: values).flatMap bytes) = .ok (value, values.flatMap bytes) ∧ keep value = true ∧
      ((value :: values).flatMap bytes).isEmpty = false ∧ 0 < (bytes value).length := by
  have some_byte := writes.nonempty value List.mem_cons_self
  refine ⟨writes.reads value List.mem_cons_self _, writes.kept value List.mem_cons_self, ?_,
    List.length_pos_iff.mpr some_byte⟩
  rw [List.flatMap_cons, List.isEmpty_eq_false_iff]
  intro contrary
  exact some_byte (List.append_eq_nil_iff.mp contrary).1

/-- The room for the next item. -/
theorem exists_tryPush {before after : ArrayVec α capacity} {value : α}
    (ends : after.items = before.items ++ value :: values) :
    exists between, before.tryPush value = some between ∧ after.items = between.items ++ values := by
  have room : (before.items ++ [value]).length ≤ capacity := by
    have := after.fits
    rw [ends, List.length_append, List.length_cons] at this
    rw [List.length_append, List.length_singleton]
    omega
  refine ⟨⟨before.items ++ [value], room⟩, ArrayVec.tryPush_eq_some.mpr rfl, ?_⟩
  rw [ends, List.append_assoc, List.singleton_append]

theorem manyLoop_eq {kind : ErrorKind} (writes : Writes item keep bytes values)
    {before after : ArrayVec α capacity} (ends : after.items = before.items ++ values) {fuel : Nat}
    (enough : (values.flatMap bytes).length ≤ fuel) :
    manyLoop item keep kind fuel before (values.flatMap bytes) = .ok (after, []) := by
  induction values generalizing before fuel with
  | nil =>
      rw [List.append_nil] at ends
      have same : after = before := by
        cases after
        cases before
        cases ends
        rfl
      rw [same]
      cases fuel with
      | zero => rfl
      | succ fuel => rfl
  | cons value values ih =>
      rcases writes.head with ⟨read, kept, notEmpty, positive⟩
      rcases exists_tryPush ends with ⟨between, pushed, endsThen⟩
      have shorter : (values.flatMap bytes).length < ((value :: values).flatMap bytes).length := by
        rw [List.flatMap_cons, List.length_append]
        omega
      cases fuel with
      | zero => omega
      | succ fuel =>
          rw [manyLoop, notEmpty, if_neg Bool.false_ne_true, read]
          simp only
          rw [if_neg (Nat.ne_of_lt shorter), if_pos kept, pushed]
          exact ih writes.tail endsThen (by omega)

theorem untilEmptyLoop_eq (writes : Writes item keep bytes values)
    {before after : ArrayVec α capacity} (ends : after.items = before.items ++ values) {fuel : Nat}
    (enough : (values.flatMap bytes).length ≤ fuel) :
    untilEmptyLoop item keep fuel before (values.flatMap bytes) = .ok after := by
  induction values generalizing before fuel with
  | nil =>
      rw [List.append_nil] at ends
      have same : after = before := by
        cases after
        cases before
        cases ends
        rfl
      rw [same]
      cases fuel with
      | zero => rfl
      | succ fuel => rfl
  | cons value values ih =>
      rcases writes.head with ⟨read, kept, notEmpty, positive⟩
      rcases exists_tryPush ends with ⟨between, pushed, endsThen⟩
      have shorter : (values.flatMap bytes).length < ((value :: values).flatMap bytes).length := by
        rw [List.flatMap_cons, List.length_append]
        omega
      cases fuel with
      | zero => omega
      | succ fuel =>
          rw [untilEmptyLoop, notEmpty, if_neg Bool.false_ne_true, read]
          simp only
          rw [if_pos kept, pushed]
          exact ih writes.tail endsThen (by omega)

/-- Items that all pass the filter are read back from their bytes. -/
theorem whole_many0_reads {acc : ArrayVec α capacity} (writes : Writes item keep bytes acc.items)
    (kind : ErrorKind) : ((many0 item keep).whole kind (acc.items.flatMap bytes)).Reads [] acc := by
  intro rest
  unfold whole many0
  rw [manyLoop_eq writes (List.nil_append _).symm (Nat.le_refl _)]
  rfl

theorem whole_many1_reads {acc : ArrayVec α capacity} (writes : Writes item keep bytes acc.items)
    (some_item : acc.items ≠ []) (kind : ErrorKind) :
    ((many1 item keep).whole kind (acc.items.flatMap bytes)).Reads [] acc := by
  intro rest
  unfold whole many1
  rw [manyLoop_eq writes (List.nil_append _).symm (Nat.le_refl _)]
  simp only
  rw [if_neg (by simpa using some_item)]
  rfl

theorem untilEmpty_reads {acc : ArrayVec α capacity} (writes : Writes item keep bytes acc.items) :
    (untilEmpty item keep (acc.items.flatMap bytes)).Reads [] acc := by
  intro rest
  unfold untilEmpty
  rw [untilEmptyLoop_eq writes (List.nil_append _).symm (Nat.le_refl _)]
  rfl

end Repetition

/-! ## What is accepted -/

theorem bind_eq_ok {first : Parser α} {next : α -> Parser β} {input rest : Bytes} {result : β} :
    (first >>= next) input = .ok (result, rest) <->
      exists value between, first input = .ok (value, between) ∧ next value between = .ok (result, rest) := by
  show Except.bind (first input) _ = _ <-> _
  cases first input with
  | error reason => simp [Except.bind]
  | ok outcome =>
      rcases outcome with ⟨value, between⟩
      simp [Except.bind]

theorem map_eq_ok {parser : Parser α} {f : α -> β} {input rest : Bytes} {result : β} :
    (f <$> parser) input = .ok (result, rest) <->
      exists value, parser input = .ok (value, rest) ∧ result = f value := by
  show (parser >>= fun value => pure (f value)) input = _ <-> _
  rw [bind_eq_ok]
  constructor
  · rintro ⟨value, between, parsed, returned⟩
    cases returned
    exact ⟨value, parsed, rfl⟩
  · rintro ⟨value, parsed, rfl⟩
    exact ⟨value, rest, parsed, rfl⟩

theorem require_eq_ok {condition : Bool} {reason : Stop} {input rest : Bytes} :
    require condition reason input = .ok ((), rest) <-> condition = true ∧ rest = input := by
  unfold require
  cases condition with
  | false => simp
  | true => simp [eq_comm]

theorem drop_eq_ok {count : Nat} {input rest : Bytes} :
    drop count input = .ok ((), rest) <-> count ≤ input.length ∧ rest = input.drop count := by
  unfold drop
  split
  · rename_i short
    simp [Nat.not_le.mpr short]
  · rename_i long
    simp [Nat.le_of_not_lt long, eq_comm]

theorem pure_eq_ok {input rest : Bytes} {value result : α} :
    (pure value : Parser α) input = .ok (result, rest) <-> result = value ∧ rest = input := by
  show Except.ok (value, input) = _ <-> _
  simp [eq_comm]

theorem take_eq_ok {count : Nat} {input bytes rest : Bytes} :
    take count input = .ok (bytes, rest) <-> input = bytes ++ rest ∧ bytes.length = count := by
  unfold take
  constructor
  · intro taken
    split at taken
    · cases taken
    · cases taken
      refine ⟨(List.take_append_drop count input).symm, ?_⟩
      rw [List.length_take]
      omega
  · rintro ⟨rfl, rfl⟩
    rw [if_neg (by simp), List.take_left, List.drop_left]

/-- The bytes that a number was read from are those it is written in. -/
theorem beUint_eq_ok {width value : Nat} {input rest : Bytes} :
    beUint width input = .ok (value, rest) <-> input = beBytes width value ++ rest ∧ value < 256 ^ width := by
  constructor
  · intro parsed
    rcases map_eq_ok.mp parsed with ⟨bytes, taken, rfl⟩
    rcases take_eq_ok.mp taken with ⟨rfl, sized⟩
    rw [beBytes_beNat sized]
    exact ⟨rfl, sized ▸ beNat_lt bytes⟩
  · rintro ⟨rfl, fits⟩
    exact reads_beUint fits rest

theorem beU8_eq_ok {value : UInt8} {input rest : Bytes} :
    beU8 input = .ok (value, rest) <-> input = value :: rest := by
  constructor
  · intro parsed
    rcases map_eq_ok.mp parsed with ⟨number, read, rfl⟩
    rcases beUint_eq_ok.mp read with ⟨rfl, fits⟩
    simp [beBytes]
  · rintro rfl
    exact reads_beU8 value rest

theorem beU16_eq_ok {value : UInt16} {input rest : Bytes} :
    beU16 input = .ok (value, rest) <-> input = beBytes 2 value.toNat ++ rest := by
  constructor
  · intro parsed
    rcases map_eq_ok.mp parsed with ⟨number, read, rfl⟩
    rcases beUint_eq_ok.mp read with ⟨rfl, fits⟩
    rw [UInt16.toNat_ofNat_of_lt' fits]
  · rintro rfl
    exact reads_beU16 value rest

theorem beUint_length {width value : Nat} {input rest : Bytes} (parsed : beUint width input = .ok (value, rest)) :
    input.length = width + rest.length := by
  rcases map_eq_ok.mp parsed with ⟨bytes, taken, _⟩
  rcases take_eq_ok.mp taken with ⟨rfl, sized⟩
  rw [List.length_append, sized]

theorem beU8_length {value : UInt8} {input rest : Bytes} (parsed : beU8 input = .ok (value, rest)) :
    input.length = 1 + rest.length := by
  rcases map_eq_ok.mp parsed with ⟨number, read, _⟩
  exact beUint_length read

theorem beU16_length {value : UInt16} {input rest : Bytes} (parsed : beU16 input = .ok (value, rest)) :
    input.length = 2 + rest.length := by
  rcases map_eq_ok.mp parsed with ⟨number, read, _⟩
  exact beUint_length read

theorem beU24_eq_ok {value : Nat} {input rest : Bytes} (parsed : beU24 input = .ok (value, rest)) :
    input.length = 3 + rest.length ∧ value < 256 ^ 3 := by
  refine ⟨beUint_length parsed, ?_⟩
  rcases map_eq_ok.mp parsed with ⟨bytes, taken, rfl⟩
  rw [← (take_eq_ok.mp taken).2]
  exact beNat_lt bytes

theorem take_length {count : Nat} {input bytes rest : Bytes} (taken : take count input = .ok (bytes, rest)) :
    input.length = bytes.length + rest.length ∧ bytes.length = count := by
  rcases take_eq_ok.mp taken with ⟨rfl, sized⟩
  exact ⟨List.length_append, sized⟩

/-- A parser that reads its values off their own bytes, so that a value takes
as many bytes as it is written with. -/
def Sized (item : Parser α) (bytes : α -> Bytes) : Prop :=
  forall input value rest, item input = .ok (value, rest) -> input.length = (bytes value).length + rest.length

section Accepted

variable {item : Parser α} {keep : α -> Bool} {capacity : Nat} (holds : α -> Prop)

/-- What passes the filter of a repetition. -/
theorem manyLoop_kept {kind : ErrorKind} {fuel : Nat} {before after : ArrayVec α capacity} {input rest : Bytes}
    (parsed : manyLoop item keep kind fuel before input = .ok (after, rest))
    (initially : forall value, value ∈ before.items -> keep value = true) :
    forall value, value ∈ after.items -> keep value = true := by
  induction fuel generalizing before input with
  | zero =>
      cases parsed
      exact initially
  | succ fuel ih =>
      rw [manyLoop] at parsed
      split at parsed
      · cases parsed
        exact initially
      · split at parsed
        · cases parsed
          exact initially
        · cases parsed
        · split at parsed
          · cases parsed
          · split at parsed
            · rename_i kept
              split at parsed
              · rename_i between pushed
                refine ih parsed ?_
                rw [ArrayVec.tryPush_eq_some.mp pushed]
                intro value isItem
                rcases List.mem_append.mp isItem with older | newest
                · exact initially value older
                · rw [List.mem_singleton.mp newest]
                  exact kept
              · cases parsed
            · exact ih parsed initially

theorem many0_kept {input rest : Bytes} {acc : ArrayVec α capacity}
    (parsed : many0 item keep input = .ok (acc, rest)) : forall value, value ∈ acc.items -> keep value = true :=
  manyLoop_kept parsed fun _ contrary => absurd contrary List.not_mem_nil

theorem many1_kept {input rest : Bytes} {acc : ArrayVec α capacity}
    (parsed : many1 item keep input = .ok (acc, rest)) :
    acc.items ≠ [] ∧ forall value, value ∈ acc.items -> keep value = true := by
  unfold many1 at parsed
  split at parsed
  · cases parsed
  · rename_i found
    split at parsed
    · cases parsed
    · rename_i notEmpty
      cases parsed
      refine ⟨by simpa using notEmpty, manyLoop_kept found fun _ contrary => absurd contrary List.not_mem_nil⟩

theorem whole_eq_ok {parser : Parser α} {kind : ErrorKind} {part input rest : Bytes} {value : α} :
    parser.whole kind part input = .ok (value, rest) <-> parser part = .ok (value, []) ∧ rest = input := by
  unfold whole
  constructor
  · intro parsed
    split at parsed
    · cases parsed
    · rename_i found
      cases parsed
      exact ⟨found, rfl⟩
    · cases parsed
  · rintro ⟨found, rfl⟩
    rw [found]

/-- What is kept of a part that is read to its end. -/
theorem untilEmptyLoop_kept {bytes : α -> Bytes} (sized : Sized item bytes)
    (each : forall input value rest, item input = .ok (value, rest) -> holds value) {fuel : Nat}
    {before after : ArrayVec α capacity} {input : Bytes}
    (parsed : untilEmptyLoop item keep fuel before input = .ok after)
    (initially : forall value, value ∈ before.items -> keep value = true ∧ holds value) :
    (forall value, value ∈ after.items -> keep value = true ∧ holds value) ∧
      (after.items.flatMap bytes).length ≤ (before.items.flatMap bytes).length + input.length := by
  induction fuel generalizing before input with
  | zero =>
      cases parsed
      exact ⟨initially, by omega⟩
  | succ fuel ih =>
      rw [untilEmptyLoop] at parsed
      split at parsed
      · cases parsed
        exact ⟨initially, by omega⟩
      · split at parsed
        · cases parsed
        · rename_i value rest found
          have size := sized _ _ _ found
          split at parsed
          · rename_i kept
            split at parsed
            · rename_i between pushed
              have items := ArrayVec.tryPush_eq_some.mp pushed
              have more : forall other, other ∈ between.items -> keep other = true ∧ holds other := by
                rw [items]
                intro other isItem
                rcases List.mem_append.mp isItem with older | newest
                · exact initially other older
                · rw [List.mem_singleton.mp newest]
                  exact ⟨kept, each _ _ _ found⟩
              rcases ih parsed more with ⟨holdsAfter, bounded⟩
              refine ⟨holdsAfter, ?_⟩
              rw [items, List.flatMap_append, List.length_append, List.flatMap_singleton] at bounded
              omega
            · cases parsed
          · rcases ih parsed initially with ⟨holdsAfter, bounded⟩
            exact ⟨holdsAfter, by omega⟩

theorem untilEmpty_kept {bytes : α -> Bytes} (sized : Sized item bytes)
    (each : forall input value rest, item input = .ok (value, rest) -> holds value) {part input rest : Bytes}
    {acc : ArrayVec α capacity} (parsed : untilEmpty item keep part input = .ok (acc, rest)) :
    (forall value, value ∈ acc.items -> keep value = true ∧ holds value) ∧
      (acc.items.flatMap bytes).length ≤ part.length := by
  unfold untilEmpty at parsed
  split at parsed
  · cases parsed
  · rename_i found
    cases parsed
    have kept := untilEmptyLoop_kept holds sized each found
      fun _ contrary => absurd contrary List.not_mem_nil
    simpa [ArrayVec.empty] using kept

end Accepted

end Parser

end Foundation
end P2pSdk
