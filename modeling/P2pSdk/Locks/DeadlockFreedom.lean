import P2pSdk.Locks.Discipline
import P2pSdk.Locks.Steps

namespace P2pSdk
namespace Locks

open Foundation
open Relation (ReflTransGen)

/-!
# Freedom from deadlock

A thread that waits for the client's mutex waits for one that does not wait.  A
thread that joins while it holds the global mutex joins client threads, and
where no callback of these is inside a call, they wait for the client's mutex at
most.  A thread that waits for the global mutex waits for one of these.  All
other waits are joins without a mutex, and follow the handles taken.  So the
waits form no cycle as long as the handles taken form none, and no thread is
joined under the global mutex while its callback is inside a call.
-/

/-! ## The discipline is followed -/

theorem Held.set_of (held : Held) (mutex other : Mutex) (value : Bool) :
    (held.set mutex value).of other = if other = mutex then value else held.of other := by
  cases mutex <;> cases other <;> rfl

/-- Callbacks are called by threads that hold at most the global mutex. -/
theorem Held.eq_nothing {held : Held} (global : held.globalInner = false)
    (allows : held.allows .callback = true) : held = .nothing := by
  rcases held with ⟨_, clientInner, unjoined⟩
  cases global
  cases clientInner with
  | true => cases allows
  | false =>
      cases unjoined with
      | true => cases allows
      | false => rfl

theorem Held.set_pending (held : Held) (mutex : Mutex) (value : Bool) :
    (held.set mutex value).pending = held.pending := by
  cases mutex <;> rfl

/-- What the thread holds lets it go on with its program. -/
def Thread.Follows (shared : Shared) (id : Nat) (thread : Thread) : Prop :=
  exists held final, Program.checkAll discipline thread.stack held = some final ∧
    (forall mutex, held.of mutex = true ↔ shared.owner mutex = some id) ∧
    (held.pending = false -> thread.taken .client = [])

namespace World

variable {world after : World} {id : Nat} {thread : Thread} {effect : Effect}

/-- What the next act says about what its thread holds. -/
theorem allows_of_next {act : Act} (follows : thread.Follows world.shared id)
    (next : thread.next = some act) :
    exists held final, held.allows act = true ∧
      Program.checkAll discipline thread.pop.stack (held.after act) = some final ∧
      Program.checkAll discipline thread.stack held = some final ∧
      (forall mutex, held.of mutex = true ↔ world.shared.owner mutex = some id) ∧
      (held.pending = false -> thread.taken .client = []) := by
  rcases follows with ⟨held, final, passes, holds, pending⟩
  have whole : thread.stack = .act act :: (thread.front.tail ++ thread.below) := by
    unfold Thread.stack
    rw [Thread.front_eq_cons next]
    rfl
  rcases Program.checkAll_act (whole ▸ passes) with ⟨reached, allowed, rest⟩
  unfold discipline at allowed
  split_ifs at allowed with allows
  cases allowed
  refine ⟨held, final, allows, ?_, passes, holds, pending⟩
  unfold Thread.pop
  rw [Thread.resume_stack]
  exact rest

/-- A mutex changes hands. -/
theorem holds_set {held : Held} {mutex : Mutex} {value : Bool} {owner : Option Nat}
    (holds : forall mutex, held.of mutex = true ↔ world.shared.owner mutex = some id)
    (now : value = true ↔ owner = some id) (other : Mutex) :
    (held.set mutex value).of other = true ↔
      Function.update world.shared.owner mutex owner other = some id := by
  rw [Held.set_of]
  by_cases same : other = mutex
  · subst same
    rw [if_pos rfl, Function.update_self]
    exact now
  · rw [if_neg same, Function.update_of_ne same]
    exact holds other

theorem follows_of_perform {act : Act} (follows : thread.Follows world.shared id)
    (next : thread.next = some act) (performed : world.perform id thread act = some effect) :
    effect.thread.Follows effect.shared id := by
  rcases allows_of_next follows next with ⟨held, final, allows, rest, passes, holds, pending⟩
  have taken : thread.pop.taken = thread.taken := Thread.resume_taken _
  cases act with
  | lock mutex =>
      rcases perform_lock performed with ⟨_, rfl⟩
      refine ⟨_, final, rest, holds_set holds ⟨fun _ => rfl, fun _ => rfl⟩, fun none => ?_⟩
      rw [Held.after, Held.set_pending] at none
      exact taken ▸ pending none
  | unlock mutex =>
      rcases perform_unlock performed with ⟨_, rfl⟩
      refine ⟨_, final, rest, holds_set holds ⟨nofun, nofun⟩, fun none => ?_⟩
      rw [Held.after, Held.set_pending] at none
      exact taken ▸ pending none
  | take handles =>
      cases performed
      refine ⟨_, final, rest, fun other => ?_, fun none => ?_⟩
      · cases handles <;> exact holds other
      · cases handles with
        | client => cases none
        | ice | connector => exact pending none
  | join handles =>
      rcases perform_join performed with ⟨joined, rfl⟩ | ⟨first, others, remaining, rfl⟩
      · refine ⟨_, final, rest, fun other => ?_, fun none => ?_⟩
        · cases handles <;> exact holds other
        · cases handles with
          | client => exact taken ▸ joined
          | ice | connector => exact taken ▸ pending none
      · refine ⟨held, final, passes, holds, fun none => ?_⟩
        cases handles with
        | client =>
            rw [pending none] at remaining
            cases remaining
        | ice | connector => exact pending none
  | renew handles =>
      cases performed
      refine ⟨_, final, rest, fun other => ?_, fun none => ?_⟩
      · cases handles <;> exact holds other
      · exact taken ▸ pending (by cases handles <;> exact none)
  | spawn kind =>
      cases performed
      exact ⟨_, final, rest, holds, fun none => taken ▸ pending none⟩
  | store handles =>
      cases performed
      refine ⟨_, final, rest, fun other => ?_, fun none => ?_⟩
      · cases handles <;> exact holds other
      · exact taken ▸ pending (by cases handles <;> exact none)
  | callback =>
      cases performed
      exact ⟨_, final, rest, holds, fun none => taken ▸ pending none⟩

/-- Where the condition on calls is met, every step keeps the discipline. -/
theorem follows_of_effect {event : Event} (follows : thread.Follows world.shared event.id)
    (untangled : world.Untangled event) (caused : world.effect thread event = some effect) :
    effect.thread.Follows effect.shared event.id := by
  cases event with
  | turn id branch =>
      rcases turn_cases caused with ⟨act, found, performed⟩ | ⟨stack, moves, rfl⟩
      · exact follows_of_perform follows found performed
      · rcases follows with ⟨held, final, passes, holds, pending⟩
        refine ⟨held, final, ?_, holds, fun none => ?_⟩
        · unfold Thread.stack at passes
          rw [Program.checkAll_append] at passes
          rcases Option.bind_eq_some_iff.mp passes with ⟨middle, front, below⟩
          simp only [Shared.stays]
          rw [Thread.resume_stack, Program.checkAll_append, Program.checkAll_move front moves]
          exact below
        · simp only [Shared.stays, Thread.resume_taken]
          exact pending none
  | call id call =>
      rcases call_cases caused with ⟨entered, rfl⟩
      rcases allows_of_next follows entered.2 with ⟨held, final, allows, _, passes, holds, pending⟩
      have global : held.globalInner = false :=
        Bool.eq_false_iff.mpr fun mine => untangled.1 ((holds .globalInner).mp mine)
      cases Held.eq_nothing global allows
      refine ⟨.nothing, final, ?_, holds, pending⟩
      have whole : thread.stack = thread.code := by
        unfold Thread.stack Thread.below
        rw [Thread.front_of_idle entered.1, if_pos entered.1, List.append_nil]
      rw [whole] at passes
      simp only [Shared.stays, Thread.stack, Thread.front, Thread.below, if_neg, List.cons_ne_nil,
        not_false_eq_true, List.cons_append, List.nil_append, Program.checkAll,
        Call.function_disciplined, Option.bind_some]
      exact passes

/-- The client's own threads need nothing but its mutex. -/
theorem spare_of_effect {event : Event} (spare : Program.checkAll sparing thread.code () = some ())
    (caused : world.effect thread event = some effect) :
    Program.checkAll sparing effect.thread.code () = some () := by
  cases event with
  | turn id branch =>
      rcases turn_cases caused with ⟨act, found, performed⟩ | ⟨stack, moves, rfl⟩
      · rcases position_of_perform performed with ⟨popped, _⟩ | ⟨stayed, _⟩
        · rw [popped]
          unfold Thread.pop Thread.resume
          split_ifs with idle
          · have whole := Thread.front_eq_cons found
            rw [Thread.front_of_idle idle] at whole ⊢
            rcases Program.checkAll_act (whole ▸ spare) with ⟨_, _, rest⟩
            exact rest
          · exact spare
        · rw [stayed]
          exact spare
      · simp only [Shared.stays, Thread.resume]
        split_ifs with idle
        · rw [Thread.front_of_idle idle] at moves
          exact Program.checkAll_move spare moves
        · exact spare
  | call id call =>
      rcases call_cases caused with ⟨_, rfl⟩
      exact spare

/-! ## The invariants of a run -/

/-- Every thread follows the discipline, the client's own threads need only its
mutex, and handles are kept where they belong. -/
structure Disciplined (world : World) : Prop where
  kinds : world.Kinds
  follows : forall (id : Nat) (thread : Thread), world.threads[id]? = some thread ->
    thread.Follows world.shared id
  spare : forall (id : Nat) (thread : Thread), world.threads[id]? = some thread ->
    thread.kind.handles = some .client -> Program.checkAll sparing thread.code () = some ()

/-- A thread that was just spawned holds nothing. -/
theorem follows_start {shared : Shared} {id : Nat} (kind : Kind) (stop : Nat)
    (unowned : forall mutex, shared.owner mutex ≠ some id) :
    (Thread.start kind stop).Follows shared id := by
  refine ⟨.nothing, .nothing, ?_, fun mutex => ?_, fun _ => rfl⟩
  · simp only [Thread.stack, Thread.front, Thread.below, Thread.start, if_true, List.append_nil,
      Program.checkAll, Kind.function_disciplined, Option.bind_some]
  · constructor
    · intro held
      cases mutex <;> cases held
    · intro owned
      exact absurd owned (unowned mutex)

/-- Threads that do not move hold what they held. -/
theorem follows_other {shared now : Shared} {k : Nat}
    (follows : thread.Follows shared k)
    (owner : forall mutex, now.owner mutex = some k ↔ shared.owner mutex = some k) :
    thread.Follows now k := by
  rcases follows with ⟨held, final, passes, holds, pending⟩
  exact ⟨held, final, passes, fun mutex => (holds mutex).trans (owner mutex).symm, pending⟩

theorem Disciplined.step {event : Event} (disciplined : Disciplined world)
    (untangled : world.Untangled event) (stepped : world.step event = some after) :
    Disciplined after := by
  rcases step_cases stepped with ⟨thread, effect, found, caused, rfl⟩
  have changes := changes_of_effect caused
  have inside := (List.getElem?_eq_some_iff.mp found).1
  have kinds := disciplined.kinds.step found caused
  refine { kinds := kinds, follows := ?_, spare := ?_ }
  · intro k other isOther
    rcases threadsAfter_cases inside isOther with ⟨rfl, rfl⟩ | ⟨different, old⟩ | ⟨rfl, new⟩
    · exact follows_of_effect (disciplined.follows _ _ found) untangled caused
    · exact follows_other (disciplined.follows k other old) fun mutex =>
        changes.owner mutex k different
    · rcases changes.new other new with ⟨kind, stop, rfl⟩
      refine follows_start kind stop fun mutex owned => ?_
      have different : world.threads.length ≠ event.id := Nat.ne_of_gt inside
      have owned := (changes.owner mutex _ different).mp owned
      exact Nat.lt_irrefl _ (disciplined.kinds.owner mutex _ owned)
  · intro k other isOther ofClient
    rcases threadsAfter_cases inside isOther with ⟨rfl, rfl⟩ | ⟨_, old⟩ | ⟨_, new⟩
    · rw [changes.kind] at ofClient
      exact spare_of_effect (disciplined.spare _ _ found ofClient) caused
    · exact disciplined.spare k other old ofClient
    · rcases changes.new other new with ⟨kind, stop, rfl⟩
      have spare : kind.function.check sparing () = some () := Kind.function_sparing ofClient
      simp only [Thread.start, Program.checkAll, spare, Option.bind_some]

/-- No thread that is joined under the global mutex is inside a call. -/
def NoneInside (world : World) : Prop :=
  forall (holder : Nat) (thread : Thread) (j : Nat) (other : Thread),
    world.shared.owner .globalInner = some holder -> world.threads[holder]? = some thread ->
    j ∈ thread.taken .client -> world.threads[j]? = some other -> other.calling = []

/-- A thread that just took the global mutex has no client threads to join. -/
theorem taken_of_lock {id : Nat} (follows : thread.Follows world.shared id)
    (next : thread.next = some (.lock .globalInner)) : thread.taken .client = [] := by
  rcases allows_of_next follows next with ⟨held, _, allows, _, _, _, pending⟩
  refine pending ?_
  simp only [Held.allows, Bool.and_eq_true, Bool.not_eq_true'] at allows
  exact allows.2

/-- The global mutex is taken by locking it. -/
theorem owner_of_effect {event : Event} (caused : world.effect thread event = some effect)
    (owned : effect.shared.owner .globalInner = some event.id) :
    world.shared.owner .globalInner = some event.id ∨
      thread.next = some (.lock .globalInner) := by
  cases event with
  | turn id branch =>
      rcases turn_cases caused with ⟨act, found, performed⟩ | ⟨stack, _, rfl⟩
      · cases act with
        | lock mutex =>
            cases mutex with
            | globalInner => exact Or.inr found
            | clientInner =>
                rcases perform_lock performed with ⟨_, rfl⟩
                exact Or.inl owned
        | unlock mutex =>
            rcases perform_unlock performed with ⟨mine, rfl⟩
            cases mutex with
            | globalInner => exact Or.inl mine
            | clientInner => exact Or.inl owned
        | join handles =>
            rcases perform_join performed with ⟨_, rfl⟩ | ⟨_, _, _, rfl⟩
            · exact Or.inl owned
            · exact Or.inl owned
        | take handles | renew handles | spawn kind | store handles | callback =>
            cases performed
            exact Or.inl owned
      · exact Or.inl owned
  | call id call =>
      rcases call_cases caused with ⟨_, rfl⟩
      exact Or.inl owned

theorem NoneInside.step {event : Event} (disciplined : Disciplined world)
    (noneInside : world.NoneInside) (untangled : world.Untangled event)
    (stepped : world.step event = some after) : after.NoneInside := by
  rcases step_cases stepped with ⟨thread, effect, found, caused, rfl⟩
  have changes := changes_of_effect caused
  have inside := (List.getElem?_eq_some_iff.mp found).1
  intro holder holding j other owned isHolder taken isOther
  -- the handle was there before, or is taken now; its thread was in no call
  have before : world.Has .client j ∧ (j = event.id -> exists branch, event = .turn event.id branch) ∧
      forall old, world.threads[j]? = some old -> old.calling = [] := by
    rcases threadsAfter_cases inside isHolder with ⟨rfl, rfl⟩ | ⟨different, old⟩ | ⟨rfl, new⟩
    · rcases owner_of_effect caused owned with held | locked
      · have turns : exists branch, event = .turn event.id branch := by
          cases event with
          | turn id branch => exact ⟨branch, rfl⟩
          | call id call => exact absurd held untangled.1
        rcases changes.taken .client j taken with old | ⟨next, stored⟩
        · exact ⟨disciplined.kinds.taken _ _ _ _ found old, fun _ => turns,
            fun other isOther => noneInside _ _ _ _ held found old isOther⟩
        · refine ⟨disciplined.kinds.stored _ _ stored, fun _ => turns, fun other isOther => ?_⟩
          rcases turns with ⟨branch, isTurn⟩
          rw [isTurn] at untangled
          exact (untangled _ _ found next j stored).2 rfl held other isOther
      · rcases changes.taken .client j taken with old | ⟨next, _⟩
        · rw [taken_of_lock (disciplined.follows _ _ found) locked] at old
          cases old
        · rw [locked] at next
          cases next
    · have held := (changes.owner _ _ different).mp owned
      refine ⟨disciplined.kinds.taken _ _ _ _ old taken, fun same => ?_,
        fun other isOther => noneInside _ _ _ _ held old taken isOther⟩
      cases event with
      | turn id branch => exact ⟨branch, rfl⟩
      | call id call =>
          rw [same] at taken
          exact absurd taken (untangled.2 _ _ held old)
    · rcases changes.new _ new with ⟨kind, stop, rfl⟩
      cases taken
  rcases before with ⟨⟨old, isOld, _⟩, turns, idle⟩
  rcases threadsAfter_cases inside isOther with ⟨rfl, rfl⟩ | ⟨_, same⟩ | ⟨rfl, _⟩
  · rcases turns rfl with ⟨branch, isTurn⟩
    rw [isTurn] at caused
    exact calling_of_turn (idle _ found) caused
  · exact idle _ same
  · exact absurd (List.getElem?_eq_some_iff.mp isOld).1 (Nat.lt_irrefl _)

/-- Handles that lead back to nobody who takes them form no cycle. -/
theorem acyclic_step {event : Event} (acyclic : Acyclic world.Owes)
    (untangled : world.Untangled event) (stepped : world.step event = some after) :
    Acyclic after.Owes := by
  rcases step_cases stepped with ⟨thread, effect, found, caused, rfl⟩
  have changes := changes_of_effect caused
  have inside := (List.getElem?_eq_some_iff.mp found).1
  refine acyclic.extended event.id fun i j owes => ?_
  rcases owes with ⟨other, handles, isOther, taken⟩
  rcases threadsAfter_cases inside isOther with ⟨rfl, rfl⟩ | ⟨_, old⟩ | ⟨_, new⟩
  · rcases changes.taken handles j taken with old | ⟨next, stored⟩
    · exact Or.inl ⟨thread, handles, found, old⟩
    · refine Or.inr ⟨rfl, ?_⟩
      cases event with
      | turn id branch => exact (untangled _ _ found next j stored).1
      | call id call =>
          rw [(call_cases caused).1.2] at next
          cases next
  · exact Or.inl ⟨other, handles, old, taken⟩
  · rcases changes.new other new with ⟨kind, stop, rfl⟩
    cases taken

/-! ## No cycle of waiting threads -/

/-- How far up a waiting thread is: with the client's mutex at the bottom, then
a join under the global mutex, the global mutex, and any other join. -/
def level (world : World) (id : Nat) : Nat :=
  match (world.threads[id]?).bind Thread.next with
  | some (.lock .clientInner) => 1
  | some (.lock .globalInner) => 3
  | some (.join _) => if world.shared.owner .globalInner = some id then 2 else 4
  | _ => 0

theorem level_le (world : World) (id : Nat) : world.level id ≤ 4 := by
  unfold level
  split
  · decide
  · decide
  · split_ifs <;> decide
  · decide

/-- Who holds the client's mutex does not wait. -/
theorem level_of_clientInner (disciplined : Disciplined world)
    (owned : world.shared.owner .clientInner = some id) : world.level id = 0 := by
  unfold level
  cases found : world.threads[id]? with
  | none => rfl
  | some thread =>
      rw [Option.bind_some]
      cases next : thread.next with
      | none => rfl
      | some act =>
          rcases allows_of_next (disciplined.follows id thread found) next with
            ⟨held, _, allows, _, _, holds, _⟩
          have client : held.clientInner = true := (holds .clientInner).mpr owned
          cases act with
          | lock mutex =>
              cases mutex <;> simp only [Held.allows, client, Bool.not_true, Bool.and_false,
                Bool.false_and, Bool.false_eq_true] at allows
          | join handles =>
              cases handles <;> simp only [Held.allows, client, Bool.not_true, Bool.false_and,
                Bool.false_eq_true] at allows
          | _ => rfl

/-- Who holds the global mutex does not wait for it. -/
theorem level_of_globalInner (disciplined : Disciplined world)
    (owned : world.shared.owner .globalInner = some id) : world.level id ≤ 2 := by
  unfold level
  cases found : world.threads[id]? with
  | none => exact Nat.zero_le 2
  | some thread =>
      rw [Option.bind_some]
      cases next : thread.next with
      | none => exact Nat.zero_le 2
      | some act =>
          rcases allows_of_next (disciplined.follows id thread found) next with
            ⟨held, _, allows, _, _, holds, _⟩
          have global : held.globalInner = true := (holds .globalInner).mpr owned
          cases act with
          | lock mutex =>
              cases mutex with
              | globalInner =>
                  simp only [Held.allows, global, Bool.not_true, Bool.false_and,
                    Bool.false_eq_true] at allows
              | clientInner => exact Nat.le_succ 1
          | join handles =>
              simp only [if_pos owned]
              exact Nat.le_refl 2
          | _ => exact Nat.zero_le 2

/-- A client thread outside calls waits for the client's mutex at most. -/
theorem level_of_client (disciplined : Disciplined world)
    (found : world.threads[id]? = some thread) (ofClient : thread.kind.handles = some .client)
    (idle : thread.calling = []) : world.level id ≤ 1 := by
  have spare := disciplined.spare id thread found ofClient
  unfold level
  rw [found, Option.bind_some]
  cases next : thread.next with
  | none => exact Nat.zero_le 1
  | some act =>
      have whole := Thread.front_eq_cons next
      rw [Thread.front_of_idle idle] at whole
      rcases Program.checkAll_act (whole ▸ spare) with ⟨_, allowed, _⟩
      cases act with
      | lock mutex =>
          cases mutex with
          | globalInner => cases allowed
          | clientInner => exact Nat.le_refl 1
      | join handles => cases allowed
      | _ => exact Nat.zero_le 1

/-- A wait goes down a level, or is a join without a mutex. -/
theorem waits_descends (disciplined : Disciplined world) (noneInside : world.NoneInside) (i j : Nat)
    (waits : world.Waits i j) :
    world.level j < world.level i ∨ (world.level j ≤ world.level i ∧ world.Owes i j) := by
  rcases waits with ⟨thread, found, ⟨mutex, next, owned⟩ | ⟨handles, next, first, _⟩⟩
  · left
    cases mutex with
    | clientInner =>
        have own : world.level i = 1 := by
          simp only [level, found, Option.bind_some, next]
        rw [own, level_of_clientInner disciplined owned]
        exact Nat.one_pos
    | globalInner =>
        have own : world.level i = 3 := by
          simp only [level, found, Option.bind_some, next]
        rw [own]
        exact Nat.lt_succ_of_le (level_of_globalInner disciplined owned)
  · have taken : j ∈ thread.taken handles := List.mem_of_mem_head? first
    by_cases held : world.shared.owner .globalInner = some i
    · left
      have own : world.level i = 2 := by
        simp only [level, found, Option.bind_some, next, if_pos held]
      rcases allows_of_next (disciplined.follows i thread found) next with
        ⟨holding, _, allows, _, _, holds, _⟩
      have global : holding.globalInner = true := (holds .globalInner).mpr held
      have client : handles = .client := by
        cases handles with
        | client => rfl
        | ice | connector =>
            simp only [Held.allows, global, Bool.not_true, Bool.and_false,
              Bool.false_eq_true] at allows
      subst client
      rcases disciplined.kinds.taken i thread _ j found taken with ⟨other, isOther, kind⟩
      have idle := noneInside i thread j other held found taken isOther
      rw [own]
      exact Nat.lt_succ_of_le (level_of_client disciplined isOther kind idle)
    · right
      have own : world.level i = 4 := by
        simp only [level, found, Option.bind_some, next, if_neg held]
      rw [own]
      exact ⟨level_le world j, thread, handles, found, taken⟩

end World

/-- What holds along every run whose steps all meet the condition. -/
structure Sound (world : World) : Prop where
  disciplined : world.Disciplined
  noneInside : world.NoneInside
  acyclic : Acyclic world.Owes

theorem sound_start (applications : Nat) : Sound (World.start applications) := by
  have isApp : forall (id : Nat) (thread : Thread),
      (World.start applications).threads[id]? = some thread -> thread = Thread.start .app 0 :=
    fun id thread found => List.eq_of_mem_replicate (List.mem_of_getElem? found)
  refine { disciplined := { kinds := ?_, follows := ?_, spare := ?_ },
           noneInside := ?_, acyclic := ?_ }
  · refine { stored := fun _ _ => nofun, taken := fun i thread _ _ found member => ?_,
             spawned := fun i thread _ _ found member => ?_, owner := fun _ _ => nofun }
    · cases isApp i thread found
      cases member
    · cases isApp i thread found
      cases member
  · intro id thread found
    cases isApp id thread found
    exact World.follows_start .app 0 fun _ => nofun
  · intro id thread found ofClient
    cases isApp id thread found
    cases ofClient
  · intro _ _ _ _ owned
    cases owned
  · intro id cycle
    rcases Relation.TransGen.head'_iff.mp cycle with ⟨_, ⟨thread, _, found, taken⟩, _⟩
    cases isApp id thread found
    cases taken

theorem Sound.step {before after : World} {event : Event} (sound : Sound before)
    (untangled : before.Untangled event) (stepped : before.step event = some after) :
    Sound after where
  disciplined := sound.disciplined.step untangled stepped
  noneInside := sound.noneInside.step sound.disciplined untangled stepped
  acyclic := World.acyclic_step sound.acyclic untangled stepped

/-- In a run whose calls and joins are untangled, no threads wait in a cycle. -/
theorem deadlock_free {world : World}
    (reachable : (system.restrict World.Untangled).Reachable world) : world.DeadlockFree := by
  have sound : Sound world := by
    refine reachable.invariant Sound ?_ ?_
    · rintro start ⟨applications, rfl⟩
      exact sound_start applications
    · intro before event after sound ⟨untangled, stepped⟩
      exact sound.step untangled stepped
  exact acyclic_of_level (World.waits_descends sound.disciplined sound.noneInside) sound.acyclic

/-! ## Concrete runs -/

/-- The first steps of a thread, in which all tests on data hold but those at
the steps listed. -/
def turns (id length : Nat) (fails : List Nat) : List Event :=
  (List.range length).map fun step => .turn id (!fails.contains step)

/-- A test that implies the condition: handles are taken of threads that are in
no call and have nothing to join. -/
def clear (world : World) : Event -> Bool
  | .call id _ => (world.shared.owner .globalInner).all fun holder =>
      holder != id &&
        (world.threads[holder]?).all fun thread => !(thread.taken .client).contains id
  | .turn id _ => (world.threads[id]?).all fun thread =>
      match thread.next with
      | some (.take handles) => (world.shared.handles handles).all fun other =>
          other != id && (world.threads[other]?).all fun thread =>
            thread.calling.isEmpty && (thread.taken .client).isEmpty &&
              (thread.taken .ice).isEmpty && (thread.taken .connector).isEmpty
      | _ => true

/-- Who has nothing to join leads to nobody else. -/
theorem not_leads {world : World} {id other : Nat} (different : other ≠ id)
    (none : forall thread, world.threads[other]? = some thread ->
      forall handles, thread.taken handles = []) : ¬ ReflTransGen world.Owes other id := by
  intro leads
  rcases leads.cases_head with same | ⟨_, ⟨thread, handles, found, taken⟩, _⟩
  · exact different same
  · rw [none thread found handles] at taken
    cases taken

theorem untangled_of_clear (world : World) (event : Event) (isClear : clear world event = true) :
    world.Untangled event := by
  cases event with
  | call id call =>
      have ofHolder := (Option.all_eq_true _ _).mp isClear
      constructor
      · intro mine
        have others := ofHolder id mine
        rw [bne_self_eq_false, Bool.false_and] at others
        cases others
      · intro holder thread owned found taken
        have others := (Bool.and_eq_true_iff.mp (ofHolder holder owned)).2
        have absent := (Option.all_eq_true _ _).mp others thread found
        rw [List.contains_iff_mem.mpr taken] at absent
        cases absent
  | turn id branch =>
      intro thread handles found next other stored
      have taking := (Option.all_eq_true _ _).mp isClear thread found
      rw [next] at taking
      have ofOther := List.all_eq_true.mp taking other stored
      rcases Bool.and_eq_true_iff.mp ofOther with ⟨different, empty⟩
      have all := (Option.all_eq_true _ _).mp empty
      simp only [Bool.and_eq_true, List.isEmpty_iff] at all
      refine ⟨not_leads (bne_iff_ne.mp different) fun thread found handles => ?_,
        fun _ _ thread found => (all thread found).1.1.1⟩
      rcases all thread found with ⟨⟨⟨_, client⟩, ice⟩, connector⟩
      cases handles with
      | client => exact client
      | ice => exact ice
      | connector => exact connector

/-- A run given by its events, each allowed where it happens, and a test of the
world it ends in. -/
theorem exists_world (condition : World -> Event -> Prop) {allowed : World -> Event -> Bool}
    (meets : forall world event, allowed world event = true -> condition world event)
    (applications : Nat) {events : List Event} {test : World -> Bool}
    (ends : (TransitionSystem.perform World.step allowed (World.start applications) events).any test
      = true) :
    exists world, (system.restrict condition).Reachable world ∧ test world = true := by
  refine TransitionSystem.exists_reachable condition ?_ meets ⟨applications, rfl⟩ ends
  intro before event after stepped
  exact stepped

/-- The data callback of a receive thread sends a text.  Then one application
thread closes, and joins that thread under the global mutex, while another one
waits for the mutex. -/
theorem deadlock_free_while_closing :
    exists world, (system.restrict World.Untangled).Reachable world ∧
      world.Waits 1 0 ∧ world.Waits 0 3 ∧ world.DeadlockFree := by
  have ends : (TransitionSystem.perform World.step clear (World.start 2)
      (turns 0 40 [1, 2, 3, 4, 5, 6, 7, 8, 9, 10, 12, 28, 33] ++ turns 2 56 [23, 28] ++
        turns 4 41 [19] ++ [.call 4 .sendText] ++ turns 4 25 [] ++
        turns 0 23 [1, 2, 3, 4, 5, 6, 7, 8, 9, 10, 11] ++ turns 1 9 [1, 2, 3, 4, 5, 6])).any
      (fun world => (world.threads[1]?).any (fun thread =>
          thread.next = some (.lock .globalInner)) &&
        world.shared.owner .globalInner = some 0 &&
        (world.threads[0]?).any (fun thread => thread.next = some (.join .client) &&
          (thread.taken .client).head? = some 3) && !world.ended 3) = true := by
    decide +kernel
  rcases exists_world World.Untangled untangled_of_clear 2 ends with ⟨world, reachable, test⟩
  simp only [Bool.and_eq_true, decide_eq_true_eq, Option.any_eq_true, Bool.not_eq_true'] at test
  rcases test with ⟨⟨⟨⟨first, isFirst, locks⟩, owned⟩, ⟨second, isSecond, joins, head⟩⟩, alive⟩
  exact ⟨world, reachable, ⟨first, isFirst, Or.inl ⟨_, locks, owned⟩⟩,
    ⟨second, isSecond, Or.inr ⟨_, joins, head, alive⟩⟩, deadlock_free reachable⟩

/-- The tick thread of the connector path reports a state, and the callback
sends a text: the thread waits for the global mutex, which it holds. -/
theorem callback_waits_for_itself :
    ¬ forall world, system.Reachable world -> world.DeadlockFree := by
  intro claim
  have ends : (TransitionSystem.perform World.step (fun _ _ => true) (World.start 1)
      (turns 0 12 [1, 2, 3, 4, 10] ++ turns 1 62 [12] ++ turns 2 6 [] ++
        [.call 2 .sendText] ++ turns 2 1 [])).any
      (fun world => (world.threads[2]?).any (fun thread =>
        thread.next = some (.lock .globalInner)) &&
        world.shared.owner .globalInner = some 2) = true := by
    decide +kernel
  rcases exists_world (fun _ _ => True) (fun _ _ _ => trivial) 1 ends with ⟨world, reachable, test⟩
  simp only [Bool.and_eq_true, decide_eq_true_eq, Option.any_eq_true] at test
  rcases test with ⟨⟨thread, found, locks⟩, owned⟩
  exact claim world reachable.of_restrict 2
    (.single ⟨thread, found, Or.inl ⟨_, locks, owned⟩⟩)

end Locks
end P2pSdk
