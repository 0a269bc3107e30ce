import Mathlib.Data.List.Sort
import Mathlib.Data.List.Perm.Basic

namespace P2pSdk
namespace Foundation

/-!
# Rankings of two-sided tables

Two parties pair the members of two lists, each going through its own list
first, and sort the pairs by a key.  They list the same entries in another
order, and where keys are equal the sort does not make up for it.  The keys
themselves come out alike, position by position.
-/

universe u v w

variable {Left : Type u} {Right : Type v} {Entry : Type w}

/-- The entries of all pairs, row by row. -/
def table (entry : Left -> Right -> Entry) (lefts : List Left) (rights : List Right) :
    List Entry :=
  lefts.flatMap fun left => rights.map (entry left)

@[simp] theorem table_nil_left (entry : Left -> Right -> Entry) (rights : List Right) :
    table entry [] rights = [] := rfl

@[simp] theorem table_nil_right (entry : Left -> Right -> Entry) (lefts : List Left) :
    table entry lefts [] = [] := by
  simp [table]

/-- The table and its transpose have the same entries. -/
theorem table_transpose (entry : Left -> Right -> Entry) (lefts : List Left)
    (rights : List Right) :
    (table entry lefts rights).Perm (table (fun right left => entry left right) rights lefts) := by
  induction lefts with
  | nil => rw [table_nil_left, table_nil_right]
  | cons left rest ih =>
      change (rights.map (entry left) ++ table entry rest rights).Perm
        (rights.flatMap fun right => entry left right :: rest.map fun other => entry other right)
      exact (ih.append_left _).trans (List.map_append_flatMap_perm rights (entry left) _)

theorem map_table {Image : Type*} (read : Entry -> Image) (entry : Left -> Right -> Entry)
    (lefts : List Left) (rights : List Right) :
    (table entry lefts rights).map read =
      table (fun left right => read (entry left right)) lefts rights := by
  unfold table
  rw [List.map_flatMap]
  simp only [List.map_map]
  rfl

variable {Other : Type*} {Key : Type*} (before : Key -> Key -> Prop)

/-- Lists sorted by their keys, with the same keys, have them in the same order. -/
theorem keys_eq_of_sorted [Std.Antisymm before] {key : Entry -> Key} {otherKey : Other -> Key}
    {entries : List Entry} {others : List Other}
    (sorted : entries.Pairwise fun first second => before (key first) (key second))
    (otherSorted : others.Pairwise fun first second => before (otherKey first) (otherKey second))
    (same : (entries.map key).Perm (others.map otherKey)) :
    entries.map key = others.map otherKey :=
  same.eq_of_pairwise' (List.pairwise_map.mpr sorted) (List.pairwise_map.mpr otherSorted)

end Foundation
end P2pSdk
