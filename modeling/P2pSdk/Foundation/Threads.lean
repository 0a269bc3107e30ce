import Mathlib.Data.List.Basic

namespace P2pSdk
namespace Foundation

universe u v w

/-!
# Threads over a shared state

Threads live in a table that only grows, and are known by their index.  An
atomic step moves one thread.  It reads and replaces the shared state, and it
may spawn one further thread, which gets the next index.
-/

/-- What an atomic step of one thread leaves behind. -/
structure Outcome (Shared : Type u) (Thread : Type v) (Note : Type w) where
  shared : Shared
  thread : Thread
  spawned : Option Thread
  note : Note

variable {Shared : Type u} {Thread Other : Type v} {Note : Type w}

/-- An outcome for one kind of thread as one for the table. -/
def Outcome.map (wrap : Thread -> Other) (outcome : Outcome Shared Thread Note) :
    Outcome Shared Other Note where
  shared := outcome.shared
  thread := wrap outcome.thread
  spawned := outcome.spawned.map wrap
  note := outcome.note

/-- The table after a step of the thread at `id`. -/
def threadsAfter (threads : List Thread) (id : Nat) (outcome : Outcome Shared Thread Note) :
    List Thread :=
  threads.set id outcome.thread ++ outcome.spawned.toList

/-- An entry of a table that got one more is an old one or the new one. -/
theorem getElem?_concat_cases {table : List Thread} {added entry : Thread} {k : Nat}
    (found : (table ++ [added])[k]? = some entry) :
    table[k]? = some entry ∨ (k = table.length ∧ entry = added) := by
  rcases Nat.lt_trichotomy k table.length with old | rfl | outside
  · rw [List.getElem?_append_left old] at found
    exact Or.inl found
  · rw [List.getElem?_concat_length] at found
    exact Or.inr ⟨rfl, (Option.some.inj found).symm⟩
  · have := (List.getElem?_eq_some_iff.mp found).1
    rw [List.length_append, List.length_singleton] at this
    omega

section Table

variable {threads : List Thread} {id : Nat} {outcome : Outcome Shared Thread Note}

/-- A thread of the table after a step is the one that moved, one that did not,
or the one that was spawned. -/
theorem threadsAfter_cases {k : Nat} {thread : Thread} (inside : id < threads.length)
    (found : (threadsAfter threads id outcome)[k]? = some thread) :
    (k = id ∧ thread = outcome.thread) ∨
    (k ≠ id ∧ threads[k]? = some thread) ∨
    (k = threads.length ∧ outcome.spawned = some thread) := by
  unfold threadsAfter at found
  rcases Nat.lt_or_ge k threads.length with old | new
  · rw [List.getElem?_append_left (by rw [List.length_set]; exact old), List.getElem?_set] at found
    by_cases here : id = k
    · subst here
      rw [if_pos rfl, if_pos inside] at found
      exact Or.inl ⟨rfl, (Option.some.inj found).symm⟩
    · rw [if_neg here] at found
      exact Or.inr (Or.inl ⟨fun same => here same.symm, found⟩)
  · rw [List.getElem?_append_right (by rw [List.length_set]; exact new), List.length_set] at found
    refine Or.inr (Or.inr ?_)
    cases spawned : outcome.spawned with
    | none =>
        rw [spawned] at found
        cases found
    | some other =>
        rw [spawned] at found
        cases position : k - threads.length with
        | zero =>
            rw [position] at found
            cases found
            exact ⟨by omega, rfl⟩
        | succ more =>
            rw [position] at found
            cases found

/-- The thread that moved. -/
theorem threadsAfter_self (inside : id < threads.length) :
    (threadsAfter threads id outcome)[id]? = some outcome.thread := by
  unfold threadsAfter
  rw [List.getElem?_append_left (by rw [List.length_set]; exact inside),
    List.getElem?_set_self inside]

/-- The threads that did not move. -/
theorem threadsAfter_of_ne {k : Nat} {thread : Thread} (other : k ≠ id)
    (found : threads[k]? = some thread) :
    (threadsAfter threads id outcome)[k]? = some thread := by
  have inside := (List.getElem?_eq_some_iff.mp found).1
  unfold threadsAfter
  rw [List.getElem?_append_left (by rw [List.length_set]; exact inside),
    List.getElem?_set_ne (fun same => other same.symm)]
  exact found

end Table

end Foundation
end P2pSdk
