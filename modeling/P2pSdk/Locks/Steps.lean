import P2pSdk.Locks.World

namespace P2pSdk
namespace Locks

open Foundation

/-!
# What a step of a thread changes

A step moves one thread, and may spawn one.  Whatever it does, it changes the
owners of the mutexes only for its own thread, and moves handles along one way:
from a thread spawned to the local variables of its spawner, from there to the
stored handles, and from there to whoever takes them.
-/

namespace Thread

/-- What the thread returns to after the call it is in. -/
def below (thread : Thread) : List Function := if thread.calling = [] then [] else thread.code

/-- All that is left for the thread to do. -/
def stack (thread : Thread) : List Function := thread.front ++ thread.below

variable {thread : Thread}

theorem front_of_idle (idle : thread.calling = []) : thread.front = thread.code := if_pos idle

theorem resume_stack (stack : List Function) : (thread.resume stack).stack = stack ++ thread.below := by
  unfold Thread.stack Thread.front below resume
  by_cases idle : thread.calling = []
  · simp only [if_pos idle]
  · by_cases done : stack = []
    · subst done
      simp only [if_neg idle, if_true, List.append_nil, List.nil_append]
    · simp only [if_neg idle, if_neg done]

theorem front_eq_cons {act : Act} (found : thread.next = some act) :
    thread.front = .act act :: thread.front.tail :=
  Program.eq_cons_of_next found

section Resume

variable (stack : List Function)

@[simp]
theorem resume_kind : (thread.resume stack).kind = thread.kind := by
  unfold resume
  split <;> rfl

@[simp]
theorem resume_taken : (thread.resume stack).taken = thread.taken := by
  unfold resume
  split <;> rfl

@[simp]
theorem resume_spawned : (thread.resume stack).spawned = thread.spawned := by
  unfold resume
  split <;> rfl

theorem resume_calling (idle : thread.calling = []) : (thread.resume stack).calling = [] := by
  unfold resume
  rw [if_pos idle]
  exact idle

end Resume

end Thread

/-! ## What a step changes -/

namespace World

/-- The changes that an effect makes: to the handles a thread has taken, stored
or spawned, to the owners of the mutexes, and to the table. -/
structure Changes (world : World) (id : Nat) (thread : Thread) (effect : Effect) : Prop where
  kind : effect.thread.kind = thread.kind
  taken : forall (handles : Handles) (j : Nat), j ∈ effect.thread.taken handles ->
    j ∈ thread.taken handles ∨
      (thread.next = some (.take handles) ∧ j ∈ world.shared.handles handles)
  stored : forall (handles : Handles) (j : Nat), j ∈ effect.shared.handles handles ->
    j ∈ world.shared.handles handles ∨ j ∈ thread.spawned handles
  spawned : forall (handles : Handles) (j : Nat), j ∈ effect.thread.spawned handles ->
    j ∈ thread.spawned handles ∨
      (j = world.threads.length ∧
        exists new, effect.spawned = some new ∧ new.kind.handles = some handles)
  owner : forall (mutex : Mutex) (k : Nat), k ≠ id ->
    (effect.shared.owner mutex = some k ↔ world.shared.owner mutex = some k)
  new : forall (new : Thread), effect.spawned = some new ->
    exists kind stop, new = Thread.start kind stop

variable {world after : World} {id : Nat} {thread : Thread} {effect : Effect}

/-- A step that touches nothing but the program of its thread. -/
theorem Changes.of_stays {moved : Thread} (kind : moved.kind = thread.kind)
    (taken : moved.taken = thread.taken) (spawned : moved.spawned = thread.spawned) :
    Changes world id thread (world.shared.stays moved) where
  kind := kind
  taken := fun _ _ member => Or.inl (taken ▸ member)
  stored := fun _ _ member => Or.inl member
  spawned := fun _ _ member => Or.inl (spawned ▸ member)
  owner := fun _ _ _ => Iff.rfl
  new := fun _ none => nomatch none

/-- A mutex goes from nobody to the thread, or back. -/
theorem Changes.of_owner {mutex : Mutex} {owner : Option Nat}
    (before : forall k, k ≠ id -> world.shared.owner mutex ≠ some k)
    (now : forall k, k ≠ id -> owner ≠ some k) :
    Changes world id thread (Shared.stays
      { world.shared with owner := Function.update world.shared.owner mutex owner }
      thread.pop) where
  kind := Thread.resume_kind _
  taken := fun _ _ member => Or.inl ((Thread.resume_taken _) ▸ member)
  stored := fun _ _ member => Or.inl member
  spawned := fun _ _ member => Or.inl ((Thread.resume_spawned _) ▸ member)
  owner := by
    intro other k different
    by_cases same : other = mutex
    · subst same
      simp only [Shared.stays, Function.update_self]
      exact ⟨fun found => absurd found (now k different),
        fun found => absurd found (before k different)⟩
    · simp only [Shared.stays, Function.update_of_ne same]
  new := fun _ none => nomatch none

theorem mem_update {α : Type} {table : Handles -> List α} {handles other : Handles}
    {entries : List α} {j : α} (member : j ∈ Function.update table handles entries other) :
    (other = handles ∧ j ∈ entries) ∨ j ∈ table other := by
  by_cases same : other = handles
  · subst same
    rw [Function.update_self] at member
    exact Or.inl ⟨rfl, member⟩
  · rw [Function.update_of_ne same] at member
    exact Or.inr member

theorem perform_lock {mutex : Mutex}
    (performed : world.perform id thread (.lock mutex) = some effect) :
    world.shared.owner mutex = none ∧ effect = Shared.stays
      { world.shared with owner := Function.update world.shared.owner mutex (some id) }
      thread.pop := by
  simp only [perform] at performed
  split_ifs at performed with free
  exact ⟨free, (Option.some.inj performed).symm⟩

theorem perform_unlock {mutex : Mutex}
    (performed : world.perform id thread (.unlock mutex) = some effect) :
    world.shared.owner mutex = some id ∧ effect = Shared.stays
      { world.shared with owner := Function.update world.shared.owner mutex none } thread.pop := by
  simp only [perform] at performed
  split_ifs at performed with mine
  exact ⟨mine, (Option.some.inj performed).symm⟩

/-- A join is over, or goes on to the next handle. -/
theorem perform_join {handles : Handles}
    (performed : world.perform id thread (.join handles) = some effect) :
    (thread.taken handles = [] ∧ effect = world.shared.stays thread.pop) ∨
      exists first rest, thread.taken handles = first :: rest ∧ effect = world.shared.stays
        { thread with taken := Function.update thread.taken handles rest } := by
  simp only [perform] at performed
  split at performed
  · rename_i joined
    exact Or.inl ⟨joined, (Option.some.inj performed).symm⟩
  · rename_i first rest found
    split_ifs at performed
    exact Or.inr ⟨first, rest, found, (Option.some.inj performed).symm⟩

theorem changes_of_perform {act : Act} (next : thread.next = some act)
    (performed : world.perform id thread act = some effect) :
    Changes world id thread effect := by
  cases act with
  | lock mutex =>
      rcases perform_lock performed with ⟨free, rfl⟩
      refine .of_owner (fun k _ found => ?_) (fun k different found => ?_)
      · rw [free] at found
        cases found
      · exact different (Option.some.inj found).symm
  | unlock mutex =>
      rcases perform_unlock performed with ⟨mine, rfl⟩
      refine .of_owner (fun k different found => ?_) (fun k _ found => nomatch found)
      rw [mine] at found
      exact different (Option.some.inj found).symm
  | take handles =>
      cases performed
      refine { kind := Thread.resume_kind _, taken := fun other j member => ?_,
               stored := fun other j member => ?_, spawned := fun other j member => ?_,
               owner := fun _ _ _ => Iff.rfl, new := fun _ none => nomatch none }
      · rcases mem_update member with ⟨rfl, stored⟩ | old
        · exact Or.inr ⟨next, stored⟩
        · exact Or.inl old
      · rcases mem_update member with ⟨_, none⟩ | old
        · cases none
        · exact Or.inl old
      · exact Or.inl ((Thread.resume_spawned _) ▸ member)
  | join handles =>
      rcases perform_join performed with ⟨_, rfl⟩ | ⟨first, rest, found, rfl⟩
      · exact .of_stays (Thread.resume_kind _) (Thread.resume_taken _) (Thread.resume_spawned _)
      · refine { kind := rfl, taken := fun other j member => ?_,
                 stored := fun _ _ member => Or.inl member,
                 spawned := fun _ _ member => Or.inl member, owner := fun _ _ _ => Iff.rfl,
                 new := fun _ none => nomatch none }
        rcases mem_update member with ⟨rfl, remaining⟩ | old
        · rw [found]
          exact Or.inl (List.mem_cons_of_mem _ remaining)
        · exact Or.inl old
  | renew handles =>
      cases performed
      exact {
        kind := Thread.resume_kind _
        taken := fun _ _ member => Or.inl ((Thread.resume_taken _) ▸ member)
        stored := fun _ _ member => Or.inl member
        spawned := fun _ _ member => Or.inl ((Thread.resume_spawned _) ▸ member)
        owner := fun _ _ _ => Iff.rfl
        new := fun _ none => nomatch none }
  | spawn kind =>
      cases performed
      refine { kind := Thread.resume_kind _, taken := fun _ _ member => Or.inl ((Thread.resume_taken _) ▸ member),
               stored := fun _ _ member => Or.inl member, spawned := fun other j member => ?_,
               owner := fun _ _ _ => Iff.rfl, new := fun new found => ?_ }
      · cases kept : kind.handles with
        | none =>
            simp only [keep, kept] at member
            exact Or.inl member
        | some handles =>
            simp only [keep, kept] at member
            rcases mem_update member with ⟨rfl, inside⟩ | old
            · rcases List.mem_append.mp inside with old | new
              · exact Or.inl old
              · exact Or.inr ⟨List.mem_singleton.mp new, _, rfl, kept⟩
            · exact Or.inl old
      · exact ⟨kind, thread.renewed, (Option.some.inj found).symm⟩
  | store handles =>
      cases performed
      refine { kind := Thread.resume_kind _, taken := fun _ _ member => Or.inl ((Thread.resume_taken _) ▸ member),
               stored := fun other j member => ?_, spawned := fun other j member => ?_,
               owner := fun _ _ _ => Iff.rfl, new := fun _ none => nomatch none }
      · rcases mem_update member with ⟨rfl, inside⟩ | old
        · exact Or.inr inside
        · exact Or.inl old
      · rcases mem_update member with ⟨_, none⟩ | old
        · cases none
        · exact Or.inl old
  | callback =>
      cases performed
      exact .of_stays (Thread.resume_kind _) (Thread.resume_taken _) (Thread.resume_spawned _)

/-- A turn performs the act on top, or takes apart the program there. -/
theorem turn_cases {branch : Bool} (caused : world.effect thread (.turn id branch) = some effect) :
    (exists act, thread.next = some act ∧ world.perform id thread act = some effect) ∨
      exists stack, Program.move (world.shared.holds thread branch) thread.front = some stack ∧
        effect = world.shared.stays (thread.resume stack) := by
  simp only [World.effect, turn] at caused
  split at caused
  · rename_i act found
    exact Or.inl ⟨act, found, caused⟩
  · rcases Option.map_eq_some_iff.mp caused with ⟨stack, moves, rfl⟩
    exact Or.inr ⟨stack, moves, rfl⟩

theorem call_cases {call : Call} (caused : world.effect thread (.call id call) = some effect) :
    (thread.calling = [] ∧ thread.next = some .callback) ∧
      effect = world.shared.stays { thread with calling := [call.function] } := by
  simp only [World.effect, enter] at caused
  split_ifs at caused with entered
  exact ⟨entered, (Option.some.inj caused).symm⟩

theorem changes_of_effect {event : Event} (caused : world.effect thread event = some effect) :
    Changes world event.id thread effect := by
  cases event with
  | turn id branch =>
      rcases turn_cases caused with ⟨act, found, performed⟩ | ⟨stack, _, rfl⟩
      · exact changes_of_perform found performed
      · exact .of_stays (Thread.resume_kind _) (Thread.resume_taken _) (Thread.resume_spawned _)
  | call id call =>
      rcases call_cases caused with ⟨_, rfl⟩
      exact .of_stays rfl rfl rfl

/-- An act leaves its thread past the act, or where it was. -/
theorem position_of_perform {act : Act} (performed : world.perform id thread act = some effect) :
    (effect.thread.code = thread.pop.code ∧ effect.thread.calling = thread.pop.calling) ∨
      (effect.thread.code = thread.code ∧ effect.thread.calling = thread.calling) := by
  cases act with
  | lock mutex =>
      rcases perform_lock performed with ⟨_, rfl⟩
      exact Or.inl ⟨rfl, rfl⟩
  | unlock mutex =>
      rcases perform_unlock performed with ⟨_, rfl⟩
      exact Or.inl ⟨rfl, rfl⟩
  | join handles =>
      rcases perform_join performed with ⟨_, rfl⟩ | ⟨_, _, _, rfl⟩
      · exact Or.inl ⟨rfl, rfl⟩
      · exact Or.inr ⟨rfl, rfl⟩
  | take handles | renew handles | spawn kind | store handles | callback =>
      cases performed
      exact Or.inl ⟨rfl, rfl⟩

/-- Only a call takes a thread into a call. -/
theorem calling_of_turn {id : Nat} {branch : Bool} (idle : thread.calling = [])
    (caused : world.effect thread (.turn id branch) = some effect) : effect.thread.calling = [] := by
  rcases turn_cases caused with ⟨act, _, performed⟩ | ⟨stack, _, rfl⟩
  · rcases position_of_perform performed with ⟨_, popped⟩ | ⟨_, stayed⟩
    · exact popped.trans (Thread.resume_calling _ idle)
    · exact stayed.trans idle
  · exact Thread.resume_calling _ idle

/-- A step moves one thread, and may add one. -/
theorem step_cases {event : Event} (stepped : world.step event = some after) :
    exists thread effect, world.threads[event.id]? = some thread ∧
      world.effect thread event = some effect ∧
      after = { shared := effect.shared, threads := threadsAfter world.threads event.id effect } := by
  unfold step at stepped
  split at stepped
  · rename_i thread found
    rcases Option.map_eq_some_iff.mp stepped with ⟨effect, caused, rfl⟩
    exact ⟨thread, effect, found, caused, rfl⟩
  · cases stepped

/-! ## The kinds of the handles -/

/-- The thread `j` is of a kind whose handle is kept in `handles`. -/
def Has (world : World) (handles : Handles) (j : Nat) : Prop :=
  exists thread, world.threads[j]? = some thread ∧ thread.kind.handles = some handles

/-- Handles are kept where they belong, and mutexes belong to threads. -/
structure Kinds (world : World) : Prop where
  stored : forall (handles : Handles) (j : Nat), j ∈ world.shared.handles handles ->
    world.Has handles j
  taken : forall (i : Nat) (thread : Thread) (handles : Handles) (j : Nat),
    world.threads[i]? = some thread -> j ∈ thread.taken handles -> world.Has handles j
  spawned : forall (i : Nat) (thread : Thread) (handles : Handles) (j : Nat),
    world.threads[i]? = some thread -> j ∈ thread.spawned handles -> world.Has handles j
  owner : forall (mutex : Mutex) (k : Nat), world.shared.owner mutex = some k ->
    k < world.threads.length

section Step

variable {event : Event} (found : world.threads[event.id]? = some thread)
  (caused : world.effect thread event = some effect)

include found caused

/-- A thread keeps its kind. -/
theorem Has.step {handles : Handles} {j : Nat} (has : world.Has handles j) :
    Has ⟨effect.shared, threadsAfter world.threads event.id effect⟩ handles j := by
  rcases has with ⟨other, isOther, kind⟩
  by_cases same : j = event.id
  · subst same
    cases Option.some.inj (found.symm.trans isOther)
    refine ⟨_, threadsAfter_self (List.getElem?_eq_some_iff.mp found).1, ?_⟩
    rw [(changes_of_effect caused).kind]
    exact kind
  · exact ⟨other, threadsAfter_of_ne same isOther, kind⟩

theorem Kinds.step (kinds : Kinds world) :
    Kinds ⟨effect.shared, threadsAfter world.threads event.id effect⟩ := by
  have changes := changes_of_effect caused
  have inside := (List.getElem?_eq_some_iff.mp found).1
  have kept : forall {handles : Handles} {j : Nat}, world.Has handles j ->
      Has ⟨effect.shared, threadsAfter world.threads event.id effect⟩ handles j :=
    fun has => has.step found caused
  refine { stored := ?_, taken := ?_, spawned := ?_, owner := ?_ }
  · intro handles j member
    rcases changes.stored handles j member with old | new
    · exact kept (kinds.stored handles j old)
    · exact kept (kinds.spawned _ thread handles j found new)
  · intro i other handles j isOther member
    rcases threadsAfter_cases inside isOther with ⟨rfl, rfl⟩ | ⟨_, old⟩ | ⟨_, new⟩
    · rcases changes.taken handles j member with old | ⟨_, stored⟩
      · exact kept (kinds.taken _ thread handles j found old)
      · exact kept (kinds.stored handles j stored)
    · exact kept (kinds.taken i other handles j old member)
    · rcases changes.new other new with ⟨kind, stop, rfl⟩
      cases member
  · intro i other handles j isOther member
    rcases threadsAfter_cases inside isOther with ⟨rfl, rfl⟩ | ⟨_, old⟩ | ⟨_, new⟩
    · rcases changes.spawned handles j member with old | ⟨rfl, new, isNew, kind⟩
      · exact kept (kinds.spawned _ thread handles j found old)
      · refine ⟨new, ?_, kind⟩
        simp only [threadsAfter, isNew, Option.toList_some]
        rw [List.getElem?_append_right (Nat.le_of_eq List.length_set), List.length_set, Nat.sub_self]
        rfl
    · exact kept (kinds.spawned i other handles j old member)
    · rcases changes.new other new with ⟨kind, stop, rfl⟩
      cases member
  · intro mutex k owned
    have longer : world.threads.length ≤ (threadsAfter world.threads event.id effect).length := by
      unfold threadsAfter
      rw [List.length_append, List.length_set]
      exact Nat.le_add_right _ _
    by_cases same : k = event.id
    · subst same
      exact Nat.lt_of_lt_of_le inside longer
    · exact Nat.lt_of_lt_of_le (kinds.owner mutex k ((changes.owner mutex k same).mp owned)) longer

end Step

end World

end Locks
end P2pSdk
