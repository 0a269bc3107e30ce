import Mathlib.Algebra.Field.Rat
import Mathlib.Algebra.Order.Ring.Unbundled.Rat
import Mathlib.Data.String.Basic

namespace P2pSdk
namespace Foundation

/-!
# JSON values

A JSON value is a tree whose leaves are null, booleans, numbers and strings.
A number is kept as a 64-bit integer where it is one, and as a double
otherwise.  The members of an object are kept in the order of their keys, with
one value for each key; a value read later replaces the one before it.
-/

/-! ## Numbers -/

/-- A double that is no infinity and no NaN. -/
structure FiniteDouble where
  negative : Bool
  exponent : Fin 2047
  fraction : Fin (2 ^ 52)
  deriving DecidableEq

namespace FiniteDouble

/-- The fraction with its leading digit, which subnormal doubles lack. -/
def significand (double : FiniteDouble) : Nat :=
  if double.exponent.val = 0 then double.fraction.val else 2 ^ 52 + double.fraction.val

/-- The number that a double stands for. -/
def value (double : FiniteDouble) : Rat :=
  let magnitude : Rat := double.significand * (2 : Rat) ^ ((max double.exponent.val 1 : Int) - 1075)
  if double.negative then -magnitude else magnitude

end FiniteDouble

/-- A JSON number.  A natural number is unsigned, and only a number below zero
is signed. -/
inductive JsonNumber where
  | posInt (value : UInt64)
  | negInt (value : Int64) (negative : value < 0)
  | float (value : FiniteDouble)
  deriving DecidableEq

namespace JsonNumber

/-- The number that a JSON number stands for. -/
def value : JsonNumber -> Rat
  | posInt value => value.toNat
  | negInt value _ => value.toInt
  | float value => value.value

/-- The number as a signed integer, where it is an integer in that range. -/
def asI64 : JsonNumber -> Option Int64
  | posInt value => if value.toNat < 2 ^ 63 then some value.toInt64 else none
  | negInt value _ => some value
  | float _ => none

theorem asI64_posInt {value : UInt64} {signed : Int64} (isSigned : (posInt value).asI64 = some signed) :
    signed.toInt = value.toNat := by
  by_cases small : value.toNat < 2 ^ 63
  · cases (if_pos small).symm.trans isSigned
    have bits : value.toInt64.toInt = value.toBitVec.toInt := rfl
    have isNat : value.toBitVec.toNat = value.toNat := rfl
    rw [bits, BitVec.toInt_eq_toNat_of_lt (by omega), isNat]
  · cases (if_neg small).symm.trans isSigned

/-- An integer that fits keeps its value. -/
theorem value_of_asI64 {number : JsonNumber} {signed : Int64} (isSigned : number.asI64 = some signed) :
    number.value = signed.toInt := by
  cases number with
  | posInt value =>
      rw [asI64_posInt isSigned]
      rfl
  | negInt value negative =>
      cases isSigned
      rfl
  | float value => cases isSigned

end JsonNumber

/-! ## Values -/

inductive Json where
  | null
  | bool (value : Bool)
  | number (value : JsonNumber)
  | string (text : String)
  | array (items : List Json)
  | object (members : List (String × Json))

namespace Json

/-- Induction with the items of an array and the values of an object. -/
@[elab_as_elim, induction_eliminator]
theorem induct {motive : Json -> Prop} (null : motive null) (bool : forall value, motive (bool value))
    (number : forall value, motive (number value)) (string : forall text, motive (string text))
    (array : forall items, (forall item, item ∈ items -> motive item) -> motive (array items))
    (object : forall members, (forall member, member ∈ members -> motive member.2) ->
      motive (object members)) (json : Json) : motive json := by
  refine @Json.rec motive (fun items => forall item, item ∈ items -> motive item)
    (fun members => forall member, member ∈ members -> motive member.2)
    (fun member => motive member.2) null bool number string array object ?_ ?_ ?_ ?_ ?_ json
  · intro item impossible
    cases impossible
  · intro head tail holds rest item member
    rcases List.mem_cons.mp member with rfl | later
    · exact holds
    · exact rest item later
  · intro member impossible
    cases impossible
  · intro head tail holds rest item member
    rcases List.mem_cons.mp member with rfl | later
    · exact holds
    · exact rest item later
  · intro key value holds
    exact holds

/-- A value is another, or stands anywhere in it. -/
inductive Within : Json -> Json -> Prop
  | itself (json : Json) : Within json json
  | item {inner item : Json} {items : List Json} (member : item ∈ items) (within : Within inner item) :
      Within inner (array items)
  | value {inner : Json} {entry : String × Json} {members : List (String × Json)}
      (member : entry ∈ members) (within : Within inner entry.2) : Within inner (object members)

theorem forall_within_array {holds : Json -> Prop} {items : List Json} :
    (forall inner, Within inner (array items) -> holds inner) <->
      holds (array items) ∧
        forall item, item ∈ items -> forall inner, Within inner item -> holds inner := by
  constructor
  · intro all
    exact ⟨all _ (.itself _), fun item member inner within => all inner (.item member within)⟩
  · rintro ⟨here, inside⟩ inner within
    cases within with
    | itself => exact here
    | item member within => exact inside _ member inner within

theorem forall_within_object {holds : Json -> Prop} {members : List (String × Json)} :
    (forall inner, Within inner (object members) -> holds inner) <->
      holds (object members) ∧
        forall entry, entry ∈ members -> forall inner, Within inner entry.2 -> holds inner := by
  constructor
  · intro all
    exact ⟨all _ (.itself _), fun entry member inner within => all inner (.value member within)⟩
  · rintro ⟨here, inside⟩ inner within
    cases within with
    | itself => exact here
    | value member within => exact inside _ member inner within

/-- The keys of every object increase, as those of a map do. -/
def Ordered (json : Json) : Prop :=
  forall members, Within (object members) json -> (members.map Prod.fst).Pairwise (· < ·)

theorem ordered_array_iff {items : List Json} :
    (array items).Ordered <-> forall item, item ∈ items -> item.Ordered := by
  constructor
  · exact fun ordered item member members within => ordered members (.item member within)
  · intro all members within
    cases within with
    | item member within => exact all _ member members within

theorem ordered_object_iff {members : List (String × Json)} :
    (object members).Ordered <->
      (members.map Prod.fst).Pairwise (· < ·) ∧ forall entry, entry ∈ members -> entry.2.Ordered := by
  constructor
  · intro ordered
    exact ⟨ordered _ (.itself _), fun entry member inner within => ordered inner (.value member within)⟩
  · rintro ⟨here, inside⟩ inner within
    cases within with
    | itself => exact here
    | value member within => exact inside _ member inner within

end Json

/-- The values that are built: the keys of each object are a map's. -/
structure JsonValue where
  json : Json
  ordered : json.Ordered

/-! ## Trees -/

/-- What a value says, whatever represents it. -/
inductive DataTree where
  | null
  | bool (value : Bool)
  | number (value : Rat)
  | string (text : String)
  | array (items : List DataTree)
  | object (members : List (String × DataTree))

namespace Json

mutual

/-- The tree of a JSON value. -/
def tree : Json -> DataTree
  | null => .null
  | bool value => .bool value
  | number value => .number value.value
  | string text => .string text
  | array items => .array (itemTrees items)
  | object members => .object (memberTrees members)

def itemTrees : List Json -> List DataTree
  | [] => []
  | item :: items => item.tree :: itemTrees items

def memberTrees : List (String × Json) -> List (String × DataTree)
  | [] => []
  | (key, value) :: members => (key, value.tree) :: memberTrees members

end

theorem itemTrees_eq (items : List Json) : itemTrees items = items.map tree := by
  induction items with
  | nil => rfl
  | cons item items rest => exact congrArg (item.tree :: ·) rest

theorem memberTrees_eq (members : List (String × Json)) :
    memberTrees members = members.map fun entry => (entry.1, entry.2.tree) := by
  induction members with
  | nil => rfl
  | cons entry members rest => exact congrArg ((entry.1, entry.2.tree) :: ·) rest

end Json

/-! ## Maps -/

section Maps

variable {α : Type}

/-- A map with a value stored under a key, in place of the old one if any. -/
def insertMember (key : String) (value : α) : List (String × α) -> List (String × α)
  | [] => [(key, value)]
  | (other, old) :: members =>
      if key < other then (key, value) :: (other, old) :: members
      else if key = other then (key, value) :: members
      else (other, old) :: insertMember key value members

/-- The map of members in the order in which they are read. -/
def mapOf (members : List (String × α)) : List (String × α) :=
  members.foldl (fun map entry => insertMember entry.1 entry.2 map) []

theorem mem_insertMember {key : String} {value : α} {members : List (String × α)} {entry : String × α}
    (member : entry ∈ insertMember key value members) : entry = (key, value) ∨ entry ∈ members := by
  induction members with
  | nil => exact Or.inl (List.mem_singleton.mp member)
  | cons head members rest =>
      rw [insertMember] at member
      split_ifs at member with before same
      · exact List.mem_cons.mp member
      · rcases List.mem_cons.mp member with here | later
        · exact Or.inl here
        · exact Or.inr (List.mem_cons_of_mem _ later)
      · rcases List.mem_cons.mp member with rfl | later
        · exact Or.inr List.mem_cons_self
        · exact (rest later).imp_right (List.mem_cons_of_mem _)

theorem ordered_insertMember {key : String} {value : α} {members : List (String × α)}
    (ordered : (members.map Prod.fst).Pairwise (· < ·)) :
    ((insertMember key value members).map Prod.fst).Pairwise (· < ·) := by
  induction members with
  | nil => exact List.pairwise_singleton _ _
  | cons head members rest =>
      rcases List.pairwise_cons.mp ordered with ⟨least, others⟩
      rw [insertMember]
      split_ifs with before same
      · refine List.pairwise_cons.mpr ⟨?_, ordered⟩
        intro other member
        rcases List.mem_cons.mp member with rfl | later
        · exact before
        · exact before.trans (least other later)
      · subst same
        exact List.pairwise_cons.mpr ⟨least, others⟩
      · refine List.pairwise_cons.mpr ⟨?_, rest others⟩
        intro other member
        rcases List.mem_map.mp member with ⟨entry, found, rfl⟩
        rcases mem_insertMember found with rfl | old
        · exact lt_of_le_of_ne (not_lt.mp before) (Ne.symm same)
        · exact least _ (List.mem_map_of_mem old)

/-- The members of a map are members that were read. -/
theorem mem_mapOf {members : List (String × α)} {entry : String × α} (member : entry ∈ mapOf members) :
    entry ∈ members := by
  have carried : forall map : List (String × α),
      entry ∈ members.foldl (fun map entry => insertMember entry.1 entry.2 map) map ->
        entry ∈ map ∨ entry ∈ members := by
    clear member
    induction members with
    | nil => exact fun map found => Or.inl found
    | cons head members rest =>
        intro map found
        rcases rest _ found with old | later
        · rcases mem_insertMember old with rfl | older
          · exact Or.inr List.mem_cons_self
          · exact Or.inl older
        · exact Or.inr (List.mem_cons_of_mem _ later)
  rcases carried [] member with impossible | found
  · cases impossible
  · exact found

theorem ordered_mapOf (members : List (String × α)) : ((mapOf members).map Prod.fst).Pairwise (· < ·) := by
  have carried : forall map : List (String × α), (map.map Prod.fst).Pairwise (· < ·) ->
      ((members.foldl (fun map entry => insertMember entry.1 entry.2 map) map).map Prod.fst).Pairwise
        (· < ·) := by
    induction members with
    | nil => exact fun map ordered => ordered
    | cons head members rest => exact fun map ordered => rest _ (ordered_insertMember ordered)
  exact carried [] List.Pairwise.nil

/-- A key behind all others is stored last. -/
theorem insertMember_last {key : String} (value : α) {members : List (String × α)}
    (last : forall entry, entry ∈ members -> entry.1 < key) :
    insertMember key value members = members ++ [(key, value)] := by
  induction members with
  | nil => rfl
  | cons head members rest =>
      rcases List.forall_mem_cons.mp last with ⟨before, others⟩
      rw [insertMember, if_neg before.not_gt, if_neg before.ne', rest others]
      rfl

/-- Members in the order of their keys are a map. -/
theorem mapOf_of_ordered {members : List (String × α)}
    (ordered : (members.map Prod.fst).Pairwise (· < ·)) : mapOf members = members := by
  have carried : forall map : List (String × α), ((map ++ members).map Prod.fst).Pairwise (· < ·) ->
      members.foldl (fun map entry => insertMember entry.1 entry.2 map) map = map ++ members := by
    clear ordered
    induction members with
    | nil => exact fun map _ => (List.append_nil map).symm
    | cons head members rest =>
        intro map ordered
        have last : forall entry, entry ∈ map -> entry.1 < head.1 := by
          intro entry member
          rw [List.map_append] at ordered
          exact (List.pairwise_append.mp ordered).2.2 _ (List.mem_map_of_mem member) _ List.mem_cons_self
        have later : (map ++ [head]) ++ members = map ++ head :: members := List.append_assoc _ _ _
        rw [List.foldl_cons, insertMember_last head.2 last, rest _ (by rw [later]; exact ordered), later]
  exact carried [] ordered

end Maps

end Foundation
end P2pSdk
