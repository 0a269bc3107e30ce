import Mathlib.Logic.Function.Basic
import P2pSdk.Foundation.Threads
import P2pSdk.Foundation.TransitionSystem
import P2pSdk.Foundation.WaitGraph
import P2pSdk.Locks.Functions

namespace P2pSdk
namespace Locks

open Foundation
open Relation (TransGen ReflTransGen)

/-!
# Threads, mutexes and joins

Any number of application threads run the functions of the layer above the
client, in any interleaving with the threads that these spawn.  A step of a
thread takes apart the program on top of its stack, or performs the act there.
An act that has to wait cannot be performed.  A callback may call back into the
layer, any number of times before it returns.

A thread has terminated when nothing is left on its stack.
-/

/-- A thread with its local variables: the stop flag it was given, the one it
made last, the handles it took and has yet to join, and those it has yet to
store. -/
structure Thread where
  kind : Kind
  code : List Function
  /-- What is left of a call made by the callback that the thread is in. -/
  calling : List Function
  taken : Handles -> List Nat
  spawned : Handles -> List Nat
  stop : Nat
  renewed : Nat

/-- The mutexes, the stored handles, and the stop flags, which are numbered. -/
structure Shared where
  owner : Mutex -> Option Nat
  handles : Handles -> List Nat
  flag : Handles -> Nat
  raised : List Nat
  made : Nat

structure World where
  shared : Shared
  threads : List Thread

/-- A step of the thread `id`, in which a test on data holds if `branch` says
so, or a call made by the callback that the thread `id` is in. -/
inductive Event
  | turn (id : Nat) (branch : Bool)
  | call (id : Nat) (call : Call)
  deriving DecidableEq, Repr

namespace Thread

/-- A thread of this kind when it is spawned. -/
def start (kind : Kind) (stop : Nat) : Thread where
  kind := kind
  code := [kind.function]
  calling := []
  taken := fun _ => []
  spawned := fun _ => []
  stop := stop
  renewed := stop

/-- The stack the thread works on: of the call it is in, else its own. -/
def front (thread : Thread) : List Function :=
  if thread.calling = [] then thread.code else thread.calling

/-- The act that comes next. -/
def next (thread : Thread) : Option Act := Program.next thread.front

/-- The thread with this in place of the stack it works on. -/
def resume (thread : Thread) (stack : List Function) : Thread :=
  if thread.calling = [] then { thread with code := stack } else { thread with calling := stack }

/-- The thread past the act on top. -/
def pop (thread : Thread) : Thread := thread.resume thread.front.tail

/-- Whether the thread has terminated. -/
def ended (thread : Thread) : Bool := thread.front.isEmpty

end Thread

/-- Keep a handle in `handles`, or drop it. -/
def keep (spawned : Handles -> List Nat) (handles : Option Handles) (id : Nat) :
    Handles -> List Nat :=
  match handles with
  | some handles => Function.update spawned handles (spawned handles ++ [id])
  | none => spawned

/-- The tests, where `branch` decides those on data. -/
def Shared.holds (shared : Shared) (thread : Thread) (branch : Bool) : Test -> Bool
  | .running => !shared.raised.contains thread.stop
  | .connected => !shared.raised.contains thread.stop && branch
  | .data => branch

/-- What a thread and the shared state become. -/
abbrev Effect := Outcome Shared Thread Unit

/-- The effect of a step that touches nothing but the thread. -/
def Shared.stays (shared : Shared) (thread : Thread) : Effect where
  shared := shared
  thread := thread
  spawned := none
  note := ()

namespace World

/-- Whether the thread `id` has terminated. -/
def ended (world : World) (id : Nat) : Bool := (world.threads[id]?).any Thread.ended

/-- Perform the act on top of the stack of the thread `id`, unless it waits. -/
def perform (world : World) (id : Nat) (thread : Thread) : Act -> Option Effect
  | .lock mutex =>
      if world.shared.owner mutex = none then
        some (Shared.stays
          { world.shared with owner := Function.update world.shared.owner mutex (some id) }
          thread.pop)
      else none
  | .unlock mutex =>
      if world.shared.owner mutex = some id then
        some (Shared.stays
          { world.shared with owner := Function.update world.shared.owner mutex none } thread.pop)
      else none
  | .take handles =>
      some (Shared.stays
        { world.shared with
          raised := world.shared.flag handles :: world.shared.raised,
          handles := Function.update world.shared.handles handles [] }
        { thread.pop with
          taken := Function.update thread.taken handles (world.shared.handles handles) })
  | .join handles =>
      match thread.taken handles with
      | [] => some (world.shared.stays thread.pop)
      | first :: rest =>
          if world.ended first then
            some (world.shared.stays
              { thread with taken := Function.update thread.taken handles rest })
          else none
  | .renew handles =>
      some (Shared.stays
        { world.shared with
          flag := Function.update world.shared.flag handles world.shared.made,
          made := world.shared.made + 1 }
        { thread.pop with renewed := world.shared.made })
  | .spawn kind =>
      some
        { world.shared.stays
            { thread.pop with spawned := keep thread.spawned kind.handles world.threads.length } with
          spawned := some (Thread.start kind thread.renewed) }
  | .store handles =>
      some (Shared.stays
        { world.shared with
          handles := Function.update world.shared.handles handles (thread.spawned handles) }
        { thread.pop with spawned := Function.update thread.spawned handles [] })
  | .callback => some (world.shared.stays thread.pop)

/-- A step of the thread `id`. -/
def turn (world : World) (id : Nat) (thread : Thread) (branch : Bool) : Option Effect :=
  match thread.next with
  | some act => world.perform id thread act
  | none =>
      (Program.move (world.shared.holds thread branch) thread.front).map fun stack =>
        world.shared.stays (thread.resume stack)

/-- The callback of the thread calls a function. -/
def enter (world : World) (thread : Thread) (call : Call) : Option Effect :=
  if thread.calling = [] ∧ thread.next = some .callback then
    some (world.shared.stays { thread with calling := [call.function] })
  else none

/-- The effect of an event on its thread. -/
def effect (world : World) (thread : Thread) : Event -> Option Effect
  | .turn id branch => world.turn id thread branch
  | .call _ call => world.enter thread call

end World

/-- The thread that takes part in an event. -/
def Event.id : Event -> Nat
  | .turn id _ => id
  | .call id _ => id

namespace World

def step (world : World) (event : Event) : Option World :=
  match world.threads[event.id]? with
  | some thread =>
      (world.effect thread event).map fun effect =>
        { shared := effect.shared, threads := threadsAfter world.threads event.id effect }
  | none => none

/-- Application threads only, no mutex held, no handle stored. -/
def start (applications : Nat) : World where
  shared := {
    owner := fun _ => none
    handles := fun _ => []
    flag := fun handles => match handles with
      | .client => 0
      | .ice => 1
      | .connector => 2
    raised := []
    made := 3 }
  threads := List.replicate applications (Thread.start .app 0)

end World

/-- Any number of application threads, and any interleaving. -/
def system : TransitionSystem World Event where
  initial := fun world => exists applications, world = World.start applications
  step := fun before event after => before.step event = some after

namespace World

/-! ## Waiting -/

/-- The thread `i` waits for a mutex that `j` holds, or for the termination of
`j`. -/
def Waits (world : World) (i j : Nat) : Prop :=
  exists thread, world.threads[i]? = some thread ∧
    ((exists mutex, thread.next = some (.lock mutex) ∧ world.shared.owner mutex = some j) ∨
      (exists handles, thread.next = some (.join handles) ∧
        (thread.taken handles).head? = some j ∧ world.ended j = false))

/-- The thread `i` took the handle of `j` and has yet to join it. -/
def Owes (world : World) (i j : Nat) : Prop :=
  exists thread handles, world.threads[i]? = some thread ∧ j ∈ thread.taken handles

/-- No cycle of threads waits, one for the next. -/
def DeadlockFree (world : World) : Prop := Acyclic world.Waits

/-! ## The condition -/

/-- The thread `id` does not hold the global mutex, and its handle was not taken
by a thread that holds it. -/
def MayCall (world : World) (id : Nat) : Prop :=
  world.shared.owner .globalInner ≠ some id ∧
    forall (holder : Nat) (thread : Thread), world.shared.owner .globalInner = some holder ->
      world.threads[holder]? = some thread -> id ∉ thread.taken .client

/-- None of the handles leads back, through handles taken and not yet joined, to
the thread `id`; and where that thread holds the global mutex and takes handles
of the client, none belongs to a thread inside a call made by a callback. -/
def MayTake (world : World) (id : Nat) (handles : Handles) : Prop :=
  forall other, other ∈ world.shared.handles handles ->
    ¬ ReflTransGen world.Owes other id ∧
    (handles = .client -> world.shared.owner .globalInner = some id ->
      forall thread, world.threads[other]? = some thread -> thread.calling = [])

/-- A callback calls only where its thread may, and handles are taken only where
they may. -/
def Untangled (before : World) : Event -> Prop
  | .call id _ => before.MayCall id
  | .turn id _ => forall (thread : Thread) (handles : Handles),
      before.threads[id]? = some thread -> thread.next = some (.take handles) ->
      before.MayTake id handles

end World

end Locks
end P2pSdk
