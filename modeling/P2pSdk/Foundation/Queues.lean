import Mathlib.Data.List.Basic

namespace P2pSdk
namespace Foundation

universe u v w

/-!
# Queues that are kept in order

A binary search is documented for queues in the order of what it looks for:
it finds an item that is equal, or else the place where one belongs.  On other
queues it returns some place.  `BinarySearch` is any function that does this.

`passing` goes through a queue from front to back and hands a state on from
item to item.
-/

variable {α : Type u} {β : Type v} {σ : Type w}

/-! ## Search and insertion -/

/-- A binary search: the index of an item that was found, or the place for one. -/
structure BinarySearch (α : Type u) where
  search : List α -> (α -> Ordering) -> Except Nat Nat
  inside : forall items order place, search items order = .error place -> place ≤ items.length
  absent : forall (below above : List α) (order : α -> Ordering), (forall item, item ∈ below -> order item = .lt) ->
    (forall item, item ∈ above -> order item = .gt) -> search (below ++ above) order = .error below.length
  present : forall (below above : List α) (item : α) (order : α -> Ordering),
    (forall other, other ∈ below -> order other = .lt) -> order item = .eq ->
    (forall other, other ∈ above -> order other = .gt) -> search (below ++ item :: above) order = .ok below.length

/-- Look at one item after the other. -/
def linearSearch (items : List α) (order : α -> Ordering) : Except Nat Nat :=
  match items with
  | [] => .error 0
  | item :: rest =>
      match order item with
      | .lt =>
          match linearSearch rest order with
          | .ok index => .ok (index + 1)
          | .error place => .error (place + 1)
      | .eq => .ok 0
      | .gt => .error 0

theorem linearSearch_skip {below rest : List α} {order : α -> Ordering}
    (isBelow : forall item, item ∈ below -> order item = .lt) :
    linearSearch (below ++ rest) order =
      match linearSearch rest order with
      | .ok index => .ok (index + below.length)
      | .error place => .error (place + below.length) := by
  induction below with
  | nil =>
      rw [List.nil_append]
      cases linearSearch rest order with
      | ok index => rfl
      | error place => rfl
  | cons item below ih =>
      have smaller := isBelow item List.mem_cons_self
      rw [List.cons_append, linearSearch, smaller]
      dsimp only
      rw [ih fun other isOther => isBelow other (List.mem_cons_of_mem _ isOther)]
      cases linearSearch rest order with
      | ok index => rfl
      | error place => rfl

/-- Such a function exists. -/
def BinarySearch.linear : BinarySearch α where
  search := linearSearch
  inside := by
    intro items order
    induction items with
    | nil =>
        intro place found
        cases found
        exact Nat.le_refl 0
    | cons item rest ih =>
        intro place found
        rw [linearSearch] at found
        split at found
        · split at found
          · cases found
          · rename_i other isOther
            cases found
            exact Nat.succ_le_succ (ih other isOther)
        · cases found
        · cases found
          exact Nat.zero_le _
  absent := by
    intro below above order isBelow isAbove
    rw [linearSearch_skip isBelow]
    cases above with
    | nil => simp [linearSearch]
    | cons item above => simp [linearSearch, isAbove item List.mem_cons_self]
  present := by
    intro below above item order isBelow isEqual _
    rw [linearSearch_skip isBelow]
    simp [linearSearch, isEqual]

/-- Put an item in its place. -/
def insertAt (items : List α) (place : Nat) (item : α) : List α :=
  items.take place ++ item :: items.drop place

/-! ## Passing a state on -/

/-- Change the items from front to back, handing a state on. -/
def passing (step : σ -> α -> σ × β) : σ -> List α -> σ × List β
  | state, [] => (state, [])
  | state, item :: rest =>
      let changed := step state item
      let others := passing step changed.1 rest
      (others.1, changed.2 :: others.2)

@[simp] theorem passing_nil {step : σ -> α -> σ × β} {state : σ} : passing step state [] = (state, []) := rfl

@[simp] theorem passing_cons {step : σ -> α -> σ × β} {state : σ} {item : α} {rest : List α} :
    passing step state (item :: rest) =
      ((passing step (step state item).1 rest).1,
        (step state item).2 :: (passing step (step state item).1 rest).2) := rfl

theorem passing_append (step : σ -> α -> σ × β) (state : σ) (first second : List α) :
    passing step state (first ++ second) =
      ((passing step (passing step state first).1 second).1,
        (passing step state first).2 ++ (passing step (passing step state first).1 second).2) := by
  induction first generalizing state with
  | nil => rfl
  | cons item first ih =>
      rw [List.cons_append, passing_cons, ih]
      rfl

theorem passing_length (step : σ -> α -> σ × β) (state : σ) (items : List α) :
    (passing step state items).2.length = items.length := by
  induction items generalizing state with
  | nil => rfl
  | cons item rest ih => simp [ih]

/-- A pass through lists of items is a pass through the items. -/
theorem passing_flatMap {γ : Type u} (step : σ -> α -> σ × α) (outer : σ -> γ -> σ × γ) (items : γ -> List α)
    (agrees : forall state part,
      passing step state (items part) = ((outer state part).1, items (outer state part).2))
    (state : σ) (parts : List γ) :
    passing step state (parts.flatMap items) =
      ((passing outer state parts).1, (passing outer state parts).2.flatMap items) := by
  induction parts generalizing state with
  | nil => rfl
  | cons part parts ih =>
      rw [List.flatMap_cons, passing_append, agrees, ih]
      rfl

/-- A pass leaves what is read of the items, when each step does. -/
theorem passing_filterMap {γ : Type u} {step : σ -> α -> σ × α} (read : α -> Option γ)
    (same : forall state item, read (step state item).2 = read item) (state : σ) (items : List α) :
    (passing step state items).2.filterMap read = items.filterMap read := by
  induction items generalizing state with
  | nil => rfl
  | cons item rest ih => rw [passing_cons, List.filterMap_cons, List.filterMap_cons, same, ih]

end Foundation
end P2pSdk
