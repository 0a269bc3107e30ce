import Mathlib.Logic.Relation

namespace P2pSdk
namespace Foundation

universe u

/-!
# Wait graphs

Parties that wait for one another are deadlocked when the relation has a cycle.
Two rules exclude cycles.  Along an acyclic relation, edges may be added that
all leave one party, as long as none of the parties they lead to leads back to
it.  And a waiting relation is acyclic when every wait goes down a level or
stays within a relation that is acyclic for another reason.
-/

open Relation (TransGen ReflTransGen)

variable {Party : Type u}

/-- Nobody leads back to himself. -/
def Acyclic (related : Party -> Party -> Prop) : Prop :=
  forall party, ¬ TransGen related party party

/-! ## Adding edges that leave one party -/

section Extension

variable {before after : Party -> Party -> Prop} {source : Party}

/-- A path with new edges goes to their source on old edges, and on old edges
from the end of a new edge to its own end. -/
theorem transGen_extended {i j : Party}
    (extends_before : forall i j, after i j ->
      before i j ∨ (i = source ∧ ¬ ReflTransGen before j source))
    (path : TransGen after i j) :
    TransGen before i j ∨ (ReflTransGen before i source ∧
      exists new, ¬ ReflTransGen before new source ∧ ReflTransGen before new j) := by
  induction path with
  | single edge =>
      rcases extends_before _ _ edge with old | ⟨rfl, apart⟩
      · exact Or.inl (.single old)
      · exact Or.inr ⟨.refl, _, apart, .refl⟩
  | tail _ edge ih =>
      rcases extends_before _ _ edge with old | ⟨rfl, apart⟩
      · rcases ih with path | ⟨toSource, new, newApart, fromNew⟩
        · exact Or.inl (path.tail old)
        · exact Or.inr ⟨toSource, new, newApart, fromNew.tail old⟩
      · rcases ih with path | ⟨toSource, _, _, _⟩
        · exact Or.inr ⟨path.to_reflTransGen, _, apart, .refl⟩
        · exact Or.inr ⟨toSource, _, apart, .refl⟩

/-- Edges from one party to parties that do not lead back to it close no cycle. -/
theorem Acyclic.extended (source : Party) (acyclic : Acyclic before)
    (extends_before : forall i j, after i j ->
      before i j ∨ (i = source ∧ ¬ ReflTransGen before j source)) : Acyclic after := by
  intro party cycle
  rcases transGen_extended extends_before cycle with old | ⟨toSource, new, apart, fromNew⟩
  · exact acyclic party old
  · exact apart (fromNew.trans toSource)

end Extension

/-! ## Levels -/

section Levels

variable {waits owes : Party -> Party -> Prop} {level : Party -> Nat}

/-- A chain of waits goes down a level, or all of it stays in `owes`. -/
theorem transGen_level {i j : Party}
    (descends : forall i j, waits i j -> level j < level i ∨ (level j ≤ level i ∧ owes i j))
    (chain : TransGen waits i j) :
    level j < level i ∨ (level j ≤ level i ∧ TransGen owes i j) := by
  induction chain with
  | single wait =>
      rcases descends _ _ wait with lower | ⟨notHigher, owed⟩
      · exact Or.inl lower
      · exact Or.inr ⟨notHigher, .single owed⟩
  | tail _ wait ih =>
      rcases descends _ _ wait with lower | ⟨notHigher, owed⟩
      · rcases ih with below | ⟨below, _⟩
        · exact Or.inl (Nat.lt_trans lower below)
        · exact Or.inl (Nat.lt_of_lt_of_le lower below)
      · rcases ih with below | ⟨below, path⟩
        · exact Or.inl (Nat.lt_of_le_of_lt notHigher below)
        · exact Or.inr ⟨Nat.le_trans notHigher below, path.tail owed⟩

/-- Waits that go down a level, or stay in an acyclic relation, form no cycle. -/
theorem acyclic_of_level
    (descends : forall i j, waits i j -> level j < level i ∨ (level j ≤ level i ∧ owes i j))
    (acyclic : Acyclic owes) : Acyclic waits := by
  intro party cycle
  rcases transGen_level descends cycle with lower | ⟨_, path⟩
  · exact Nat.lt_irrefl _ lower
  · exact acyclic party path

end Levels

end Foundation
end P2pSdk
