import P2pSdk.Foundation.Json

namespace P2pSdk
namespace Foundation

/-!
# Properties of a script's objects

What an assignment `object[name] = value` or `array[index] = value` makes of the
properties of an ordinary object or array of a script.  The names that are array
indices are listed first, in the order of their numbers, and the others behind
them as they were made.  The name `__proto__` is no property: to assign to it
changes the prototype.
-/

/-! ## The order of the properties -/

/-- The array index that a name is: a number below 2^32 - 1, as it is printed. -/
def arrayIndex (name : String) : Option Nat :=
  let number := Nat.ofDigitChars 10 name.toList 0
  if name.toList = Nat.toDigits 10 number ∧ number + 1 < 2 ^ 32 then some number else none

/-- Where a name is listed.  All names that are no index share the last place. -/
def place (name : String) : Nat := (arrayIndex name).getD (2 ^ 32 - 1)

/-- Names in an order in which a script lists them. -/
def Listed (names : List String) : Prop := names.Pairwise fun first second => place first ≤ place second

instance (names : List String) : Decidable (Listed names) :=
  inferInstanceAs (Decidable (names.Pairwise fun first second => place first ≤ place second))

section Properties

variable {α : Type}

/-- A new property at its place, behind those that share it. -/
def insertProperty (name : String) (value : α) : List (String × α) -> List (String × α)
  | [] => [(name, value)]
  | property :: properties =>
      if place name < place property.1 then (name, value) :: property :: properties
      else property :: insertProperty name value properties

/-- `object[name] = value`, for the object's own properties. -/
def assignProperty (properties : List (String × α)) (name : String) (value : α) : List (String × α) :=
  if name = "__proto__" then properties
  else if name ∈ properties.map Prod.fst then
    properties.map fun property => if property.1 = name then (name, value) else property
  else insertProperty name value properties

/-! ## Lemmas -/

theorem mem_insertProperty {name : String} {value : α} {properties : List (String × α)}
    {property : String × α} :
    property ∈ insertProperty name value properties <->
      property = (name, value) ∨ property ∈ properties := by
  induction properties with
  | nil => exact List.mem_cons
  | cons head properties rest =>
      rw [insertProperty]
      split_ifs with before
      · exact List.mem_cons
      · rw [List.mem_cons, rest, List.mem_cons]
        exact or_left_comm

/-- A property after an assignment is the assigned one or an old one. -/
theorem mem_assignProperty {properties : List (String × α)} {name : String} {value : α}
    {property : String × α} (member : property ∈ assignProperty properties name value) :
    name ≠ "__proto__" ∧ property = (name, value) ∨ property ∈ properties := by
  unfold assignProperty at member
  split_ifs at member with proto known
  · exact Or.inr member
  · rcases List.mem_map.mp member with ⟨old, found, rfl⟩
    split_ifs with same
    · exact Or.inl ⟨proto, rfl⟩
    · exact Or.inr found
  · exact (mem_insertProperty.mp member).imp_left fun new => ⟨proto, new⟩

theorem listed_insertProperty {name : String} {value : α} {properties : List (String × α)}
    (listed : Listed (properties.map Prod.fst)) :
    Listed ((insertProperty name value properties).map Prod.fst) := by
  induction properties with
  | nil => exact List.pairwise_singleton _ _
  | cons head properties rest =>
      rcases List.pairwise_cons.mp listed with ⟨least, others⟩
      rw [insertProperty]
      split_ifs with before
      · refine List.pairwise_cons.mpr ⟨?_, listed⟩
        intro other member
        rcases List.mem_cons.mp member with rfl | later
        · exact before.le
        · exact before.le.trans (least other later)
      · refine List.pairwise_cons.mpr ⟨?_, rest others⟩
        intro other member
        rcases List.mem_map.mp member with ⟨property, found, rfl⟩
        rcases mem_insertProperty.mp found with rfl | old
        · exact not_lt.mp before
        · exact least _ (List.mem_map_of_mem old)

/-- Assignments keep the order of the list. -/
theorem listed_assignProperty {properties : List (String × α)} (name : String) (value : α)
    (listed : Listed (properties.map Prod.fst)) :
    Listed ((assignProperty properties name value).map Prod.fst) := by
  unfold assignProperty
  split_ifs with proto known
  · exact listed
  · have sameNames : (properties.map fun property =>
        if property.1 = name then (name, value) else property).map Prod.fst = properties.map Prod.fst := by
      rw [List.map_map]
      refine List.map_congr_left fun property _ => ?_
      rw [Function.comp_apply]
      split_ifs with same
      · exact same.symm
      · rfl
    rw [sameNames]
    exact listed
  · exact listed_insertProperty listed

/-- A new name whose place is behind the others is listed last. -/
theorem assignProperty_last {properties : List (String × α)} {name : String} (value : α)
    (noProto : name ≠ "__proto__") (new : name ∉ properties.map Prod.fst)
    (last : forall property, property ∈ properties -> place property.1 ≤ place name) :
    assignProperty properties name value = properties ++ [(name, value)] := by
  rw [assignProperty, if_neg noProto, if_neg new]
  clear new
  induction properties with
  | nil => rfl
  | cons head properties rest =>
      rcases List.forall_mem_cons.mp last with ⟨before, others⟩
      rw [insertProperty, if_neg (not_lt.mpr before), rest others]
      rfl

end Properties

/-! ## Elements -/

/-- `array[index] = value`, for the elements of the array.  Elements that are
left out are undefined, and the largest 32-bit number is no array index. -/
def assignElement (elements : List DataTree) (index : UInt32) (value : DataTree) : List DataTree :=
  if index.toNat + 1 < 2 ^ 32 then
    if index.toNat < elements.length then elements.set index.toNat value
    else elements ++ List.replicate (index.toNat - elements.length) .null ++ [value]
  else elements

/-- An element stored behind the others is the next one. -/
theorem assignElement_end {elements : List DataTree} (room : elements.length + 1 < 2 ^ 32)
    (value : DataTree) :
    assignElement elements (UInt32.ofNat elements.length) value = elements ++ [value] := by
  have index : (UInt32.ofNat elements.length).toNat = elements.length :=
    UInt32.toNat_ofNat_of_lt' (by rw [UInt32.size]; omega)
  rw [assignElement, index, if_pos room, if_neg (Nat.lt_irrefl _), Nat.sub_self, List.replicate_zero,
    List.append_nil]

/-- An array has no place for 2^32 elements. -/
theorem assignElement_length {elements : List DataTree} (index : UInt32) (value : DataTree)
    (room : elements.length < 2 ^ 32) : (assignElement elements index value).length < 2 ^ 32 := by
  unfold assignElement
  split_ifs with inRange old
  · rw [List.length_set]
    exact room
  · rw [List.length_append, List.length_append, List.length_replicate, List.length_singleton]
    omega
  · exact room

/-- Indices are listed in the order of their numbers, before the other names. -/
example : (assignProperty (assignProperty (assignProperty [] "10" 1) "a" 2) "9" 3) =
    [("9", 3), ("10", 1), ("a", 2)] := by decide

end Foundation
end P2pSdk
