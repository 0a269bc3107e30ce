import P2pSdk.Client.Steps

namespace P2pSdk

open Foundation

/-!
# What holds after `close`

`close` joins the threads whose handles it finds and drops the agent it finds.
Nothing tells it about a background thread, which may store an agent and start
threads later, nor about threads whose handles were lost or are being joined
by another call.  When none of these is there, and no `connect` comes in before
`close` returns, its effect is final.
-/

/-- Nothing is late while the client is open. -/
theorem Note.late_open (note : Note) : note.late false = 0 := by
  cases note with
  | called notice => cases notice <;> rfl
  | _ => rfl

/-- The handles that a call to `close` has yet to join. -/
def ClosePc.holds : ClosePc -> List Nat
  | .joinTick tick recv => tick.toList ++ recv.toList
  | .joinRecv recv => recv.toList
  | .clear => []
  | .returned => []

namespace World

/-- Once `close` has returned, no state or data callback is called, the agent
and the socket stay dropped, and no tick or receive thread runs with an unset
stop flag. -/
def StaysClosed (world : World) : Prop :=
  world.lateCalls = 0 ∧
    (world.closed = true -> world.shared.client.iceAgent = none ∧
      world.shared.client.iceUdp = none ∧ forall id, world.unstopped id = false)

/-- No call to `connect` and no background thread can still do anything. -/
def NoneUnderway (world : World) : Prop :=
  forall thread, thread ∈ world.threads -> thread.underway = false

/-- `close` is called when no call to `connect` and no background thread is
underway and the handles of all running threads are in the client, and no
`connect` is called before it returns. -/
def Orderly (before : World) : Event -> Prop
  | .connect _ => forall thread, thread ∈ before.threads -> thread.closing = false
  | .close => before.NoneUnderway ∧
      forall id, id < before.threads.length -> before.running id = true ->
        before.shared.client.tickHandle = some id ∨ before.shared.client.recvHandle = some id
  | .run _ _ => True

instance (world : World) : Decidable world.NoneUnderway :=
  inferInstanceAs (Decidable (forall thread, thread ∈ world.threads -> thread.underway = false))

instance (before : World) (event : Event) : Decidable (before.Orderly event) :=
  match event with
  | .connect _ =>
      inferInstanceAs (Decidable (forall thread, thread ∈ before.threads -> thread.closing = false))
  | .close =>
      inferInstanceAs (Decidable (before.NoneUnderway ∧
        forall id, id < before.threads.length -> before.running id = true ->
          before.shared.client.tickHandle = some id ∨ before.shared.client.recvHandle = some id))
  | .run _ _ => .isTrue trivial

/-- The client holds no session, and nothing runs that could make one. -/
structure Settled (world : World) : Prop where
  noneUnderway : world.NoneUnderway
  noneRunning : forall id, world.running id = false
  iceAgent : world.shared.client.iceAgent = none
  iceUdp : world.shared.client.iceUdp = none

/-- While a `close` is unfinished nothing but tick and receive threads runs,
and it holds the handles of those; afterwards the client is settled. -/
structure Finality (world : World) : Prop where
  during : forall (id : Nat) (pc : ClosePc), world.threads[id]? = some (.close pc) ->
    pc ≠ .returned ->
      world.NoneUnderway ∧ forall k, world.running k = true -> k ∈ pc.holds
  after : world.closed = true -> world.Settled
  noneLate : world.lateCalls = 0

/-! ## Steps of other threads -/

section Steps

variable {env : Environment} {before : World} {id : Nat} {thread : Thread}
  {outcome : Outcome Shared Thread Note}

/-- The threads that run after a step that spawns none. -/
theorem running_record {k : Nat} (found : before.threads[id]? = some thread)
    (spawned : outcome.spawned = none)
    (running : outcome.thread.running = true -> thread.running = true)
    (isRunning : (before.record id outcome).running k = true) : before.running k = true := by
  rcases running_iff.mp isRunning with ⟨other, isOther, otherRuns⟩
  rcases threadsAfter_cases (List.getElem?_eq_some_iff.mp found).1 isOther with
    ⟨rfl, rfl⟩ | ⟨_, kept⟩ | ⟨_, contrary⟩
  · exact running_iff.mpr ⟨thread, found, running otherRuns⟩
  · exact running_iff.mpr ⟨other, kept, otherRuns⟩
  · cases spawned.symm.trans contrary

theorem noneUnderway_record (found : before.threads[id]? = some thread)
    (spawned : outcome.spawned = none) (underway : outcome.thread.underway = false)
    (none : before.NoneUnderway) : (before.record id outcome).NoneUnderway := by
  intro other member
  rcases List.mem_iff_getElem?.mp member with ⟨k, isOther⟩
  rcases threadsAfter_cases (List.getElem?_eq_some_iff.mp found).1 isOther with
    ⟨_, rfl⟩ | ⟨_, kept⟩ | ⟨_, contrary⟩
  · exact underway
  · exact none other (List.mem_of_getElem? kept)
  · cases spawned.symm.trans contrary

/-- A step that spawns no thread: what a `close` holds after it, and what is
left if the client is closed then. -/
theorem Finality.of_step (finality : Finality before) (found : before.threads[id]? = some thread)
    (spawned : outcome.spawned = none) (underway : outcome.thread.underway = false)
    (running : outcome.thread.running = true -> thread.running = true)
    (holds : forall pc, outcome.thread = .close pc -> pc ≠ .returned ->
      before.NoneUnderway ∧ forall k, before.running k = true -> k ∈ pc.holds)
    (settles : (before.record id outcome).closed = true ->
      before.NoneUnderway ∧ (forall k, before.running k = false) ∧
        outcome.shared.client.iceAgent = none ∧ outcome.shared.client.iceUdp = none)
    (late : outcome.note.late before.closed = 0) : Finality (before.record id outcome) := by
  refine ⟨?_, ?_, ?_⟩
  · intro k pc isClose unfinished
    have held : before.NoneUnderway ∧
        forall other, before.running other = true -> other ∈ pc.holds := by
      rcases threadsAfter_cases (List.getElem?_eq_some_iff.mp found).1 isClose with
        ⟨_, same⟩ | ⟨_, kept⟩ | ⟨_, contrary⟩
      · exact holds pc same.symm unfinished
      · exact finality.during k pc kept unfinished
      · cases spawned.symm.trans contrary
    refine ⟨noneUnderway_record found spawned underway held.1, ?_⟩
    intro other isRunning
    exact held.2 other (running_record found spawned running isRunning)
  · intro closed
    rcases settles closed with ⟨noneUnderway, noneRunning, iceAgent, iceUdp⟩
    refine ⟨noneUnderway_record found spawned underway noneUnderway, ?_, iceAgent, iceUdp⟩
    intro k
    rw [← Bool.not_eq_true]
    intro isRunning
    cases (noneRunning k).symm.trans (running_record found spawned running isRunning)
  · change before.lateCalls + outcome.note.late before.closed = 0
    rw [finality.noneLate, late]

/-- A client that is closed after a step that does not return from `close` was
closed before. -/
theorem closed_of_record (note : outcome.note ≠ .returned)
    (closed : (before.record id outcome).closed = true) : before.closed = true := by
  rcases Bool.or_eq_true_iff.mp closed with old | new
  · exact old
  · exact absurd (of_decide_eq_true new) note

/-- A step that keeps the session, spawns nothing and calls nothing late. -/
theorem Finality.of_keeps (finality : Finality before) (found : before.threads[id]? = some thread)
    (keeps : Shared.Keeps before.shared outcome.shared) (spawned : outcome.spawned = none)
    (underway : outcome.thread.underway = false) (closing : outcome.thread.closing = false)
    (running : outcome.thread.running = true -> thread.running = true)
    (note : outcome.note ≠ .returned)
    (quiet : before.closed = true -> outcome.note = .quiet) :
    Finality (before.record id outcome) := by
  apply finality.of_step found spawned underway running
  · intro pc isClose unfinished
    rw [isClose] at closing
    exact absurd unfinished (by simpa [Thread.closing] using closing)
  · intro closed
    have settled := finality.after (closed_of_record note closed)
    refine ⟨settled.noneUnderway, settled.noneRunning, ?_, keeps.iceUdp.trans settled.iceUdp⟩
    have owner := keeps.owner
    rw [settled.iceAgent] at owner
    exact Option.map_eq_none_iff.mp owner
  · cases closed : before.closed with
    | true =>
        rw [quiet closed]
        rfl
    | false => exact Note.late_open outcome.note

/-- A step of a call to `connect` or of a background thread that is underway:
no `close` is unfinished, and the client is not closed. -/
theorem Finality.of_underway (finality : Finality before)
    (found : before.threads[id]? = some thread) (underway : thread.underway = true)
    (stays : StaysOpen outcome) : Finality (before.record id outcome) := by
  have member := List.mem_of_getElem? found
  have notClosed : before.closed = false := by
    rw [← Bool.not_eq_true]
    intro closed
    have none := (finality.after closed).noneUnderway thread member
    cases underway.symm.trans none
  have noneClosing : forall (k : Nat) (pc : ClosePc), before.threads[k]? = some (.close pc) ->
      pc = .returned := by
    intro k pc isClose
    by_contra unfinished
    have none := (finality.during k pc isClose unfinished).1 thread member
    cases underway.symm.trans none
  have notUnfinished : forall pc : ClosePc, (Thread.close pc).closing = false -> pc = .returned := by
    intro pc notClosing
    simpa [Thread.closing] using notClosing
  refine ⟨?_, ?_, ?_⟩
  · intro k pc isClose unfinished
    rcases threadsAfter_cases (List.getElem?_eq_some_iff.mp found).1 isClose with
      ⟨_, same⟩ | ⟨_, kept⟩ | ⟨_, new⟩
    · exact absurd (notUnfinished pc (same ▸ stays.thread)) unfinished
    · exact absurd (noneClosing k pc kept) unfinished
    · exact absurd (notUnfinished pc (stays.spawned _ new)) unfinished
  · intro closed
    cases notClosed.symm.trans (closed_of_record stays.note closed)
  · change before.lateCalls + outcome.note.late before.closed = 0
    rw [finality.noneLate, notClosed, Note.late_open]

/-- A step of a call to `close` that narrows down what it holds. -/
theorem Finality.of_join {pc next : ClosePc} (finality : Finality before)
    (found : before.threads[id]? = some (.close pc)) (unfinished : pc ≠ .returned)
    (narrows : forall k, before.running k = true -> k ∈ pc.holds -> k ∈ next.holds) :
    Finality (before.record id (quietly (.close next) before.shared)) := by
  apply finality.of_step found rfl rfl
  · intro contrary
    cases contrary
  · intro other isNext _
    have held := finality.during id pc found unfinished
    cases isNext
    exact ⟨held.1, fun k isRunning => narrows k isRunning (held.2 k isRunning)⟩
  · intro closed
    have notReturned : (quietly (.close next) before.shared).note ≠ .returned := by
      intro contrary
      cases contrary
    have settled := finality.after (closed_of_record notReturned closed)
    exact ⟨settled.noneUnderway, settled.noneRunning, settled.iceAgent, settled.iceUdp⟩
  · rfl

/-- A step of a call to `close`: a join narrows down what it holds, and the
last block settles the client. -/
theorem Finality.close {pc : ClosePc} (finality : Finality before)
    (found : before.threads[id]? = some (.close pc))
    (stepped : pc.step before.shared before.threads = some outcome) :
    Finality (before.record id outcome) := by
  have joined : forall (handle : Option Nat) (k : Nat), joinable before.threads handle = true ->
      before.running k = true -> k ∉ handle.toList := by
    intro handle k ended running member
    rw [Option.mem_toList] at member
    rw [member] at ended
    cases running.symm.trans (running_of_joinable ended)
  cases pc with
  | joinTick tick recv =>
      rcases ClosePc.step_joinTick stepped with ⟨ended, rfl⟩
      apply finality.of_join found (by simp)
      intro k running member
      rcases List.mem_append.mp member with isTick | isRecv
      · exact absurd isTick (joined tick k ended running)
      · exact isRecv
  | joinRecv recv =>
      rcases ClosePc.step_joinRecv stepped with ⟨ended, rfl⟩
      apply finality.of_join found (by simp)
      intro k running member
      exact absurd member (joined recv k ended running)
  | clear =>
      cases stepped
      have held := finality.during id .clear found (by simp)
      apply finality.of_step found rfl rfl
      · intro contrary
        cases contrary
      · intro other isReturned unfinished
        cases isReturned
        exact absurd rfl unfinished
      · intro _
        refine ⟨held.1, ?_, rfl, rfl⟩
        intro k
        rw [← Bool.not_eq_true]
        intro isRunning
        cases held.2 k isRunning
      · rfl
  | returned => cases stepped

/-- A step of a running tick or receive thread: the client is not closed. -/
theorem Finality.of_running (finality : Finality before)
    (found : before.threads[id]? = some thread) (running : thread.running = true)
    (keeps : Shared.Keeps before.shared outcome.shared) (spawned : outcome.spawned = none)
    (underway : outcome.thread.underway = false) (closing : outcome.thread.closing = false)
    (note : outcome.note ≠ .returned) : Finality (before.record id outcome) := by
  apply finality.of_keeps found keeps spawned underway closing (fun _ => running) note
  intro closed
  have noneRunning := (finality.after closed).noneRunning id
  cases noneRunning.symm.trans (running_iff.mpr ⟨thread, found, running⟩)

theorem Finality.run {input : Input} (finality : Finality before)
    (found : before.threads[id]? = some thread)
    (stepped : thread.step env before.shared before.threads id input = some outcome) :
    Finality (before.record id outcome) := by
  cases thread with
  | connect pc =>
      cases underway : (Thread.connect pc).underway with
      | true => exact finality.of_underway found underway (ConnectPc.step_open stepped)
      | false =>
          have returned : pc = .returned := by
            simpa [Thread.underway] using underway
          subst returned
          cases stepped
  | background pc =>
      cases underway : (Thread.background pc).underway with
      | true => exact finality.of_underway found underway (BackgroundPc.step_open stepped)
      | false =>
          rcases BackgroundPc.step_restores underway stepped with ⟨keeps, spawned, isDone, quiet⟩
          apply finality.of_keeps found keeps spawned
          · rw [isDone]
            rfl
          · rw [isDone]
            rfl
          · rw [isDone]
            intro contrary
            cases contrary
          · rw [quiet]
            intro contrary
            cases contrary
          · exact fun _ => quiet
  | close pc => exact finality.close found stepped
  | tick self =>
      rcases Option.map_eq_some_iff.mp stepped with ⟨inner, isInner, rfl⟩
      have kept := TickThread.step_keeps isInner
      have running : (Thread.tick self).running = true :=
        decide_eq_true (TickThread.not_finished_of_step isInner)
      have spawned : (inner.map Thread.tick).spawned = none := congrArg (Option.map _) kept.spawned
      apply finality.of_running found running kept.keeps spawned rfl rfl
      change inner.note ≠ .returned
      rcases kept.note with quiet | ⟨_, called⟩ | ⟨_, _, ticked⟩
      · simp [quiet]
      · simp [called]
      · simp [ticked]
  | recv self =>
      rcases Option.map_eq_some_iff.mp stepped with ⟨inner, isInner, rfl⟩
      have kept := RecvThread.step_keeps isInner
      have running : (Thread.recv self).running = true :=
        decide_eq_true (RecvThread.not_finished_of_step isInner)
      have spawned : (inner.map Thread.recv).spawned = none := congrArg (Option.map _) kept.spawned
      apply finality.of_running found running kept.keeps spawned rfl rfl
      change inner.note ≠ .returned
      rcases kept.note with quiet | ⟨_, called⟩
      · simp [quiet]
      · simp [called]

end Steps

/-! ## Calls -/

theorem Finality.callConnect {before : World} (finality : Finality before)
    (noneClosing : forall thread, thread ∈ before.threads -> thread.closing = false)
    (heartbeatIntervalSecs : Nat) : Finality (before.callConnect heartbeatIntervalSecs) := by
  refine ⟨?_, ?_, finality.noneLate⟩
  · intro id pc isClose unfinished
    have member := List.mem_of_getElem? isClose
    have old : Thread.close pc ∈ before.threads := by
      unfold World.callConnect at member
      dsimp only at member
      split_ifs at member
      · rcases List.mem_append.mp member with old | new
        · exact old
        · cases List.mem_singleton.mp new
      · exact member
    have notClosing := noneClosing _ old
    exact absurd unfinished (by simpa [Thread.closing] using notClosing)
  · intro contrary
    cases contrary

theorem Finality.callClose {before : World} (finality : Finality before)
    (noneUnderway : before.NoneUnderway)
    (known : forall id, id < before.threads.length -> before.running id = true ->
      before.shared.client.tickHandle = some id ∨ before.shared.client.recvHandle = some id) :
    Finality before.callClose := by
  have cases : forall (id : Nat) (thread : Thread), before.callClose.threads[id]? = some thread ->
      before.threads[id]? = some thread ∨
        thread = .close (.joinTick before.shared.client.tickHandle
          before.shared.client.recvHandle) := by
    intro id thread found
    rcases getElem?_concat_cases found with old | ⟨_, new⟩
    · exact Or.inl old
    · exact Or.inr new
  have running : forall k, before.callClose.running k = true -> before.running k = true := by
    intro k isRunning
    rcases running_iff.mp isRunning with ⟨thread, found, runs⟩
    rcases cases k thread found with old | rfl
    · exact running_iff.mpr ⟨thread, old, runs⟩
    · cases runs
  have stillNone : before.callClose.NoneUnderway := by
    intro thread member
    rcases List.mem_iff_getElem?.mp member with ⟨id, found⟩
    rcases cases id thread found with old | rfl
    · exact noneUnderway thread (List.mem_of_getElem? old)
    · rfl
  refine ⟨?_, ?_, finality.noneLate⟩
  · intro id pc isClose unfinished
    rcases cases id _ isClose with old | new
    · have held := finality.during id pc old unfinished
      exact ⟨stillNone, fun k isRunning => held.2 k (running k isRunning)⟩
    · cases new
      refine ⟨stillNone, ?_⟩
      intro k isRunning
      have earlier := running k isRunning
      rcases running_iff.mp earlier with ⟨thread, found, _⟩
      rcases known k (List.getElem?_eq_some_iff.mp found).1 earlier with isTick | isRecv
      · exact List.mem_append_left _ (Option.mem_toList.mpr isTick)
      · exact List.mem_append_right _ (Option.mem_toList.mpr isRecv)
  · intro closed
    have settled := finality.after closed
    refine ⟨stillNone, ?_, settled.iceAgent, settled.iceUdp⟩
    intro k
    rw [← Bool.not_eq_true]
    intro isRunning
    cases (settled.noneRunning k).symm.trans (running k isRunning)

/-! ## Whole runs -/

theorem finality_of_reachable {env : Environment} {world : World}
    (reachable : ((clientSystem env).restrict Orderly).Reachable world) : Finality world := by
  refine TransitionSystem.Reachable.invariant Finality reachable ?_ ?_
  · rintro world ⟨io, onStateChange, onData, onLog, rfl⟩
    refine ⟨?_, ?_, rfl⟩
    · intro id pc contrary
      cases contrary
    · intro contrary
      cases contrary
  · rintro before event after finality ⟨orderly, stepped⟩
    cases event with
    | connect heartbeatIntervalSecs =>
        cases stepped
        exact finality.callConnect orderly heartbeatIntervalSecs
    | close =>
        cases stepped
        exact finality.callClose orderly.1 orderly.2
    | run id input =>
        rcases apply_run stepped with ⟨thread, outcome, found, isOutcome, rfl⟩
        exact finality.run found isOutcome

/-- In an orderly run `close` is final. -/
theorem close_is_final {env : Environment} {world : World}
    (reachable : ((clientSystem env).restrict Orderly).Reachable world) : world.StaysClosed := by
  have finality := finality_of_reachable reachable
  refine ⟨finality.noneLate, ?_⟩
  intro closed
  have settled := finality.after closed
  refine ⟨settled.iceAgent, settled.iceUdp, ?_⟩
  intro id
  rw [← Bool.not_eq_true]
  intro unstopped
  cases (settled.noneRunning id).symm.trans (running_of_unstopped unstopped)

/-- A session is started, ticks, and is closed: the close waits for both threads. -/
theorem close_is_final_after_session :
    exists world, ((clientSystem concreteEnvironment).restrict Orderly).Reachable world ∧
      world.closed = true ∧ world.StaysClosed := by
  have ends : ((World.new true true true true).events concreteEnvironment
      (fun world event => decide (world.Orderly event))
      (connectEvents 0 ++ runs 1 8 ++ runs 2 6 ++ runs 3 2 ++ .close :: runs 2 2 ++
        [.run 2 (.instant 0)] ++ runs 3 2 ++ runs 4 3)).any
      (fun world => world.closed) = true := by
    decide +kernel
  rcases exists_world Orderly (fun _ _ => of_decide_eq_true) ends with ⟨world, reachable, closed⟩
  exact ⟨world, reachable, closed, close_is_final reachable⟩

/-- `close` falls before the block of a background thread that stores the
agent.  The thread goes on, starts a tick thread, and that one calls the state
callback. -/
theorem background_outlives_close :
    ¬ forall (env : Environment) (world : World),
      (clientSystem env).Reachable world -> world.StaysClosed := by
  intro claim
  have ends : ((World.new true true true true).events concreteEnvironment (fun _ _ => true)
      (connectEvents 0 ++ .close :: runs 2 3 ++ runs 1 8 ++ runs 3 4)).any
      (fun world => world.closed ∧ world.shared.client.iceAgent.isSome ∧
        world.unstopped 3 ∧ world.lateCalls = 1) = true := by
    decide +kernel
  rcases exists_world (fun _ _ => True) (fun _ _ _ => trivial) ends with ⟨world, reachable, test⟩
  rcases of_decide_eq_true test with ⟨closed, isSome, unstopped, _⟩
  have stays := (claim _ world reachable.of_restrict).2 closed
  rw [stays.1] at isSome
  cases isSome

end World

end P2pSdk
