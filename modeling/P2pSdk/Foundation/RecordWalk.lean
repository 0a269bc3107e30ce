import P2pSdk.Foundation.Bytes

namespace P2pSdk
namespace Foundation

/-!
# Walks over records that stand one after another

A record begins with a head of a fixed size, and the head says how far the next
record is.  A program that reads such records loops while a head fits in front
of `stop`.  Where `stop` comes from the message and not from the buffer, the
loop itself keeps no read inside the buffer.

Two things are said of such a loop.  It returns exactly when every offset it
visits is readable; the offsets it visits are a relation on the bytes alone.
And over records that have been written one after another it is a fold, which
ends at the first record that makes the program return.
-/

/-- What a round of a loop decides: go on, or return. -/
inductive Round (State Result : Type) where
  | next (state : State)
  | done (result : Result)

namespace Round

variable {State Result : Type}

def isDone : Round State Result -> Bool
  | .next _ => false
  | .done _ => true

end Round

/-- How records are read. -/
structure RecordFormat (Head : Type) where
  headSize : Nat
  readHead : Bytes -> Nat -> Checked Head
  size : Head -> Nat
  headSize_pos : 0 < headSize
  headSize_le : forall head, headSize ≤ size head

variable {Head State Result : Type}

/-- The loop.  Every round moves the offset on, so that `fuel` bounds the rounds. -/
def walk (format : RecordFormat Head) (data : Bytes) (stop : Nat)
    (body : Nat -> Head -> State -> Checked (Round State Result)) :
    Nat -> Nat -> State -> Checked (Round State Result)
  | 0, _, state => pure (.next state)
  | fuel + 1, offset, state =>
      if offset + format.headSize ≤ stop then do
        let head ← format.readHead data offset
        match ← body offset head state with
        | .next state => walk format data stop body fuel (offset + format.size head) state
        | .done result => pure (.done result)
      else pure (.next state)

/-- The offsets at which a walk from an offset looks for a head.  It goes on
behind a record that can be read and does not end it. -/
inductive Visits (format : RecordFormat Head) (data : Bytes) (stop : Nat)
    (ends : Nat -> Head -> Bool) : Nat -> Nat -> Prop
  | here (offset : Nat) : Visits format data stop ends offset offset
  | later {offset target : Nat} {head : Head} :
      offset + format.headSize ≤ stop -> format.readHead data offset = .ok head ->
      ends offset head = false ->
      Visits format data stop ends (offset + format.size head) target ->
      Visits format data stop ends offset target

section Walk

variable {format : RecordFormat Head} {data : Bytes} {stop : Nat}
  {body : Nat -> Head -> State -> Checked (Round State Result)}

/-- The fuel is never what ends a walk that has enough of it. -/
theorem walk_fuel {fuel offset : Nat} (more : Nat) (enough : stop ≤ offset + fuel)
    (state : State) :
    walk format data stop body (fuel + more) offset state =
      walk format data stop body fuel offset state := by
  have positive := format.headSize_pos
  induction fuel generalizing offset state with
  | zero =>
      cases more with
      | zero => rfl
      | succ more => rw [Nat.zero_add, walk, walk, if_neg (by omega)]
  | succ fuel ih =>
      rw [show fuel + 1 + more = (fuel + more) + 1 by omega, walk, walk]
      by_cases inside : offset + format.headSize ≤ stop
      · rw [if_pos inside, if_pos inside]
        congr 1
        funext head
        congr 1
        funext round
        cases round with
        | next state =>
            have moves := format.headSize_le head
            exact ih (by omega) state
        | done result => rfl
      · rw [if_neg inside, if_neg inside]

/-- A walk returns exactly when it can read every head it comes to, and the
body returns there.  `holds` is what the body keeps of the state. -/
theorem walk_returns_iff (holds : State -> Prop) (readable : Nat -> Head -> Prop)
    (ends : Nat -> Head -> Bool)
    (returns : forall offset head state, holds state -> format.readHead data offset = .ok head ->
      ((exists round, body offset head state = .ok round) <-> readable offset head))
    (goesOn : forall offset head state round, holds state ->
      body offset head state = .ok round -> round.isDone = ends offset head ∧
        forall after, round = .next after -> holds after)
    {fuel offset : Nat} (enough : stop ≤ offset + fuel) {state : State} (here : holds state) :
    (exists result, walk format data stop body fuel offset state = .ok result) <->
      forall target, Visits format data stop ends offset target ->
        target + format.headSize ≤ stop ->
          exists head, format.readHead data target = .ok head ∧ readable target head := by
  have positive := format.headSize_pos
  induction fuel generalizing offset state with
  | zero =>
      constructor
      · intro _ target visits inside
        cases visits with
        | here => omega
        | later before _ _ _ => omega
      · intro _
        exact ⟨_, rfl⟩
  | succ fuel ih =>
      rw [walk]
      by_cases inside : offset + format.headSize ≤ stop
      · rw [if_pos inside]
        cases isHead : format.readHead data offset with
        | error panic =>
            constructor
            · rintro ⟨result, impossible⟩
              cases impossible
            · intro all
              rcases all offset (.here offset) inside with ⟨head, contrary, _⟩
              rw [isHead] at contrary
              cases contrary
        | ok head =>
            have moves := format.headSize_le head
            rw [Checked.ok_bind]
            cases isRound : body offset head state with
            | error panic =>
                constructor
                · rintro ⟨result, impossible⟩
                  cases impossible
                · intro all
                  rcases all offset (.here offset) inside with ⟨other, same, isReadable⟩
                  rw [isHead] at same
                  cases same
                  rcases (returns offset head state here isHead).mpr isReadable with
                    ⟨round, contrary⟩
                  rw [isRound] at contrary
                  cases contrary
            | ok round =>
                have isReadable := (returns offset head state here isHead).mp ⟨round, isRound⟩
                rcases goesOn offset head state round here isRound with ⟨ended, kept⟩
                rw [Checked.ok_bind]
                cases round with
                | done result =>
                    constructor
                    · intro _ target visits _
                      cases visits with
                      | here => exact ⟨head, isHead, isReadable⟩
                      | later _ other open_ _ =>
                          rw [isHead] at other
                          cases other
                          rw [open_] at ended
                          cases ended
                    · intro _
                      exact ⟨_, rfl⟩
                | next after =>
                    have rest := @ih (offset + format.size head) (by omega) after
                      (kept after rfl)
                    refine rest.trans ?_
                    constructor
                    · intro all target visits before
                      cases visits with
                      | here => exact ⟨head, isHead, isReadable⟩
                      | later _ other _ onward =>
                          rw [isHead] at other
                          cases other
                          exact all target onward before
                    · intro all target onward before
                      exact all target (.later inside isHead ended.symm onward) before
      · rw [if_neg inside]
        constructor
        · intro _ target visits before
          cases visits with
          | here => exact absurd before inside
          | later contrary _ _ _ => exact absurd contrary inside
        · intro _
          exact ⟨_, rfl⟩

/-- A walk returns what some round of it returns. -/
theorem walk_done {fuel offset : Nat} {state : State} {result : Result}
    (walked : walk format data stop body fuel offset state = .ok (.done result)) :
    exists target head before, body target head before = .ok (.done result) := by
  induction fuel generalizing offset state with
  | zero => cases walked
  | succ fuel ih =>
      rw [walk] at walked
      by_cases inside : offset + format.headSize ≤ stop
      · rw [if_pos inside] at walked
        rcases Checked.bind_eq_ok.mp walked with ⟨head, _, rest⟩
        rcases Checked.bind_eq_ok.mp rest with ⟨round, isRound, later⟩
        cases round with
        | next after => exact ih later
        | done other =>
            cases later
            exact ⟨offset, head, state, isRound⟩
      · rw [if_neg inside] at walked
        cases walked

end Walk

/-! ## Records that have been written -/

/-- Records that are written one after another and whose heads are read back. -/
structure RecordEncoding (format : RecordFormat Head) (Record : Type) where
  bytes : Record -> Bytes
  head : Record -> Head
  length_bytes : forall record, (bytes record).length = format.size (head record)
  readHead_bytes : forall before record after,
    format.readHead (before ++ (bytes record ++ after)) before.length = .ok (head record)

variable {Record : Type}

/-- What the records of a list do one after another, up to the first that returns. -/
def foldRounds (effect : Record -> State -> Checked (Round State Result)) :
    List Record -> State -> Checked (Round State Result)
  | [], state => pure (.next state)
  | record :: rest, state => do
      match ← effect record state with
      | .next state => foldRounds effect rest state
      | .done result => pure (.done result)

section Fold

variable {effect : Record -> State -> Checked (Round State Result)}

/-- Records that leave the state as it is are skipped. -/
theorem foldRounds_skip {records : List Record} {state : State}
    (skips : forall record, record ∈ records -> effect record state = .ok (.next state))
    (rest : List Record) :
    foldRounds effect (records ++ rest) state = foldRounds effect rest state := by
  induction records with
  | nil => rfl
  | cons record records ih =>
      rw [List.cons_append, foldRounds, skips record List.mem_cons_self, Checked.ok_bind]
      exact ih fun other isRecord => skips other (List.mem_cons_of_mem record isRecord)

theorem foldRounds_next {record : Record} {state after : State}
    (goesOn : effect record state = .ok (.next after)) (rest : List Record) :
    foldRounds effect (record :: rest) state = foldRounds effect rest after := by
  rw [foldRounds, goesOn, Checked.ok_bind]

theorem foldRounds_done {record : Record} {state : State} {result : Result}
    (returns : effect record state = .ok (.done result)) (rest : List Record) :
    foldRounds effect (record :: rest) state = .ok (.done result) := by
  rw [foldRounds, returns, Checked.ok_bind]
  rfl

end Fold

namespace RecordEncoding

variable {format : RecordFormat Head} (encoding : RecordEncoding format Record)

def serialize (records : List Record) : Bytes := records.flatMap encoding.bytes

theorem serialize_cons_length (record : Record) (records : List Record) :
    (encoding.serialize (record :: records)).length =
      format.size (encoding.head record) + (encoding.serialize records).length := by
  rw [serialize, List.flatMap_cons, List.length_append, encoding.length_bytes]
  rfl

/-- Over written records the walk folds their effects.  The induction is on
the records; the bytes already walked move into `before`. -/
theorem walk_serialize {body : Nat -> Head -> State -> Checked (Round State Result)}
    {effect : Record -> State -> Checked (Round State Result)} (data : Bytes)
    (records : List Record) (before after : Bytes)
    (whole : data = before ++ (encoding.serialize records ++ after))
    (atRecord : forall left record right state, records = left ++ record :: right ->
      body (before.length + (encoding.serialize left).length) (encoding.head record) state =
        effect record state)
    {fuel : Nat} (enough : records.length ≤ fuel) (state : State) :
    walk format data (before.length + (encoding.serialize records).length) body fuel
      before.length state = foldRounds effect records state := by
  have positive := format.headSize_pos
  induction records generalizing before fuel state with
  | nil =>
      cases fuel with
      | zero => rfl
      | succ fuel =>
          rw [walk, if_neg (by simp only [serialize, List.flatMap_nil, List.length_nil]; omega)]
          rfl
  | cons record records ih =>
      cases fuel with
      | zero => simp at enough
      | succ fuel =>
          have size := encoding.length_bytes record
          have room := format.headSize_le (encoding.head record)
          have serialized : encoding.serialize (record :: records) =
              encoding.bytes record ++ encoding.serialize records := rfl
          rw [serialized, List.append_assoc] at whole
          have read : format.readHead data before.length = .ok (encoding.head record) := by
            rw [whole]
            exact encoding.readHead_bytes before record _
          have here : body before.length (encoding.head record) state = effect record state :=
            atRecord [] record records state rfl
          rw [walk, serialized, List.length_append, if_pos (by omega), read, Checked.ok_bind, here,
            foldRounds]
          congr 1
          funext round
          cases round with
          | done result => rfl
          | next next =>
              have later := ih (before ++ encoding.bytes record)
                (by rw [whole, List.append_assoc])
                (by
                  intro left other right state isSplit
                  have moved := atRecord (record :: left) other right state
                    (by rw [isSplit, List.cons_append])
                  rw [serialize_cons_length, ← Nat.add_assoc] at moved
                  rw [List.length_append, size]
                  exact moved)
                (by simpa using enough) next
              rw [List.length_append, size] at later
              dsimp only
              rw [← later, size, Nat.add_assoc]

end RecordEncoding

end Foundation
end P2pSdk
