import P2pSdk.Foundation.Threads

namespace P2pSdk
namespace Foundation

universe u v

/-!
# Holders

Entries of a table may hold a few items each, say threads that are about to
pass them on.  What the whole table holds is well behaved when at most one
entry holds anything: it changes only where that entry changes.
-/

variable {Entry : Type u} {Item : Type v}

/-- At most one entry holds anything. -/
def SoleHolder (hold : Entry -> List Item) (table : List Entry) : Prop :=
  forall (i j : Nat) (first second : Entry), table[i]? = some first -> table[j]? = some second ->
    hold first ≠ [] -> hold second ≠ [] -> i = j

section Holders

variable {hold : Entry -> List Item} {table : List Entry} {id : Nat} {entry moved : Entry}

/-- Nobody but the entry at `id` holds anything. -/
theorem SoleHolder.others (sole : SoleHolder hold table) (found : table[id]? = some entry)
    (holds : hold entry ≠ []) (k : Nat) (other : Entry) (different : k ≠ id)
    (isOther : table[k]? = some other) : hold other = [] := by
  by_contra otherHolds
  exact different (sole k id other entry isOther found otherHolds holds)

/-- Nobody holds anything. -/
theorem none_held (empty : table.flatMap hold = []) (k : Nat) (other : Entry)
    (isOther : table[k]? = some other) : hold other = [] :=
  List.flatMap_eq_nil_iff.mp empty other (List.mem_of_getElem? isOther)

/-- A table in which only the entry at `id` may hold something. -/
theorem flatMap_set (others : forall k other, k ≠ id -> table[k]? = some other -> hold other = [])
    (inside : id < table.length) : (table.set id moved).flatMap hold = hold moved := by
  have before : (table.take id).flatMap hold = [] := by
    rw [List.flatMap_eq_nil_iff]
    intro other member
    rcases List.mem_iff_getElem?.mp member with ⟨k, found⟩
    rw [List.getElem?_take] at found
    split_ifs at found with early
    exact others k other (Nat.ne_of_lt early) found
  have after : (table.drop (id + 1)).flatMap hold = [] := by
    rw [List.flatMap_eq_nil_iff]
    intro other member
    rcases List.mem_iff_getElem?.mp member with ⟨k, found⟩
    rw [List.getElem?_drop] at found
    exact others _ other (by omega) found
  rw [List.set_eq_take_append_cons_drop, if_pos inside, List.flatMap_append, List.flatMap_cons,
    before, after, List.nil_append, List.append_nil]

/-- The table holds what its only holder holds. -/
theorem SoleHolder.flatMap_eq (sole : SoleHolder hold table) (found : table[id]? = some entry)
    (holds : hold entry ≠ []) : table.flatMap hold = hold entry := by
  have inside := (List.getElem?_eq_some_iff.mp found).1
  have same : table.set id entry = table := by
    apply List.ext_getElem?
    intro k
    by_cases here : id = k
    · subst here
      rw [List.getElem?_set_self inside, found]
    · rw [List.getElem?_set_ne here]
  have held : (table.set id entry).flatMap hold = hold entry :=
    flatMap_set (sole.others found holds) inside
  rwa [same] at held

/-- An entry that holds the same as before changes nothing. -/
theorem flatMap_set_same (found : table[id]? = some entry) (same : hold moved = hold entry) :
    (table.set id moved).flatMap hold = table.flatMap hold := by
  have inside := (List.getElem?_eq_some_iff.mp found).1
  have isEntry : table[id] = entry := (List.getElem?_eq_some_iff.mp found).2
  have whole : table = table.take id ++ entry :: table.drop (id + 1) := by
    rw [← isEntry, List.getElem_cons_drop, List.take_append_drop]
  rw [List.set_eq_take_append_cons_drop, if_pos inside]
  conv_rhs => rw [whole]
  simp only [List.flatMap_append, List.flatMap_cons, same]

/-- An entry may begin to hold something when nobody else does. -/
theorem SoleHolder.set (sole : SoleHolder hold table)
    (others : hold moved = [] ∨
      forall k other, k ≠ id -> table[k]? = some other -> hold other = []) :
    SoleHolder hold (table.set id moved) := by
  intro i j first second isFirst isSecond holdsFirst holdsSecond
  rw [List.getElem?_set] at isFirst isSecond
  by_cases firstHere : id = i
  · by_cases secondHere : id = j
    · exact firstHere.symm.trans secondHere
    · rw [if_pos firstHere] at isFirst
      rw [if_neg secondHere] at isSecond
      split_ifs at isFirst
      cases isFirst
      rcases others with empty | others
      · exact absurd empty holdsFirst
      · exact absurd (others j second (fun same => secondHere same.symm) isSecond) holdsSecond
  · rw [if_neg firstHere] at isFirst
    by_cases secondHere : id = j
    · rw [if_pos secondHere] at isSecond
      split_ifs at isSecond
      cases isSecond
      rcases others with empty | others
      · exact absurd empty holdsSecond
      · exact absurd (others i first (fun same => firstHere same.symm) isFirst) holdsFirst
    · rw [if_neg secondHere] at isSecond
      exact sole i j first second isFirst isSecond holdsFirst holdsSecond

/-- Entries may be added. -/
theorem SoleHolder.append (sole : SoleHolder hold table) {added : Entry}
    (empty : hold added = [] ∨ table.flatMap hold = []) :
    SoleHolder hold (table ++ [added]) := by
  have alone : forall (k : Nat) (other : Entry), table[k]? = some other -> hold added ≠ [] ->
      hold other = [] := by
    intro k other found holds
    rcases empty with none | none
    · exact absurd none holds
    · exact none_held none k other found
  intro i j first second isFirst isSecond holdsFirst holdsSecond
  rcases getElem?_concat_cases isFirst with oldFirst | ⟨newFirst, rfl⟩
  · rcases getElem?_concat_cases isSecond with oldSecond | ⟨_, rfl⟩
    · exact sole i j first second oldFirst oldSecond holdsFirst holdsSecond
    · exact absurd (alone i first oldFirst holdsSecond) holdsFirst
  · rcases getElem?_concat_cases isSecond with oldSecond | ⟨newSecond, _⟩
    · exact absurd (alone j second oldSecond holdsFirst) holdsSecond
    · exact newFirst.trans newSecond.symm

/-- So may any number of entries that hold nothing. -/
theorem SoleHolder.append_empty (sole : SoleHolder hold table) {added : List Entry}
    (empty : forall new, new ∈ added -> hold new = []) : SoleHolder hold (table ++ added) := by
  induction added generalizing table with
  | nil =>
      rw [List.append_nil]
      exact sole
  | cons new rest ih =>
      have next := sole.append (Or.inl (empty new List.mem_cons_self))
      rw [List.append_cons]
      exact ih next fun other member => empty other (List.mem_cons_of_mem new member)

theorem flatMap_append_empty {added : List Entry}
    (empty : forall new, new ∈ added -> hold new = []) :
    (table ++ added).flatMap hold = table.flatMap hold := by
  rw [List.flatMap_append, List.flatMap_eq_nil_iff.mpr empty, List.append_nil]

end Holders

end Foundation
end P2pSdk
