import P2pSdk.Client.Sessions

namespace P2pSdk

open Foundation

/-!
# One clock per agent

Every tick thread counts its own milliseconds from zero and ticks whatever
agent the client holds.  An agent is stored before the old threads are
stopped, so that the old tick thread may tick it first, at a later time than
the new one will.  This cannot happen when sessions are started one at a time.
-/

namespace World

/-- One tick thread and one receive thread at most have an unset stop flag.
Every running thread obeys the flag of the client.  An agent is ticked only by
the one tick thread that its background thread made, and its clock never goes
back. -/
structure OneClock (world : World) : Prop where
  unstopped : forall (i j : Nat) (first second : Thread), world.threads[i]? = some first ->
    world.threads[j]? = some second -> world.unstopped i = true -> world.unstopped j = true ->
      first.isTick = second.isTick -> i = j
  flag : forall (i : Nat) (thread : Thread), world.threads[i]? = some thread ->
    thread.running = true -> thread.flag = some world.shared.client.iceStop
  own : forall record, record ∈ world.ticks ->
    exists self, world.threads[record.thread]? = some (.tick self) ∧ self.starter = record.owner ∧
      forall (i : Nat) (other : TickThread), world.threads[i]? = some (.tick other) ->
        other.starter = record.owner -> i = record.thread
  rising : world.ticks.Pairwise fun later earlier =>
    later.owner = earlier.owner -> earlier.now ≤ later.now

/-! ## Calm steps and calls -/

section Calm

variable {before : World} {id : Nat} {thread : Thread} {outcome : Outcome Shared Thread Note}

theorem calm_record (found : before.threads[id]? = some thread)
    (passes : Passes id before.shared thread outcome) : Calm before (before.record id outcome) := by
  refine ⟨?_, passes.iceStop, passes.owner⟩
  intro i other isOther
  rcases threadsAfter_cases (List.getElem?_eq_some_iff.mp found).1 isOther with
    ⟨rfl, rfl⟩ | ⟨_, kept⟩ | ⟨_, new⟩
  · exact Or.inr ⟨thread, found, passes.tame, passes.grows⟩
  · exact Or.inr ⟨other, kept, .refl i other, .refl other⟩
  · exact Or.inl (passes.spawned other new).1

/-- Calls that append an idle thread at most. -/
theorem calm_call {after : World} (calls : List Thread)
    (threads : after.threads = before.threads ++ calls)
    (idle : forall call, call ∈ calls -> call.Idle)
    (iceStop : after.shared.client.iceStop = before.shared.client.iceStop)
    (iceAgent : after.shared.client.iceAgent = before.shared.client.iceAgent) :
    Calm before after := by
  refine ⟨?_, iceStop, fun owned found => ⟨owned, iceAgent ▸ found, rfl⟩⟩
  intro i other isOther
  rw [threads] at isOther
  rcases Nat.lt_or_ge i before.threads.length with old | new
  · rw [List.getElem?_append_left old] at isOther
    exact Or.inr ⟨other, isOther, .refl i other, .refl other⟩
  · rw [List.getElem?_append_right new] at isOther
    exact Or.inl (idle other (List.mem_of_getElem? isOther))

end Calm

/-- What a call to `connect` appends. -/
theorem callConnect_threads (before : World) (heartbeatIntervalSecs : Nat) :
    exists calls, (before.callConnect heartbeatIntervalSecs).threads = before.threads ++ calls ∧
      forall call, call ∈ calls -> call.Idle ∧ call.madeBy = none := by
  cases io : before.shared.client.io with
  | true =>
      refine ⟨[.connect (.storeHeartbeat heartbeatIntervalSecs)], ?_, ?_⟩
      · exact if_pos io
      · intro call member
        rw [List.mem_singleton] at member
        subst member
        exact ⟨⟨rfl, rfl⟩, rfl⟩
  | false =>
      refine ⟨[], ?_, fun call contrary => nomatch contrary⟩
      rw [List.append_nil]
      exact if_neg (by rw [io]; exact Bool.false_ne_true)

/-- What a call to `close` appends. -/
theorem callClose_threads (before : World) :
    exists calls, before.callClose.threads = before.threads ++ calls ∧
      forall call, call ∈ calls -> call.Idle ∧ call.madeBy = none := by
  refine ⟨[_], rfl, ?_⟩
  intro call member
  rw [List.mem_singleton] at member
  subst member
  exact ⟨⟨rfl, rfl⟩, rfl⟩

/-! ## Exclusive runs -/

theorem Exclusive.run {env : Environment} {before : World} {id : Nat} {thread : Thread}
    {input : Input} {outcome : Outcome Shared Thread Note} (exclusive : Exclusive before)
    (found : before.threads[id]? = some thread) (allowed : before.OneAtATime (.run id input))
    (stepped : thread.step env before.shared before.threads id input = some outcome) :
    Exclusive (before.record id outcome) := by
  by_cases begins : thread.Begins
  · cases begins with
    | storeAgent agent =>
        have alone : before.Alone id := by
          intro i other _ isOther
          have stores : before.threads[id]?.any Thread.storesAgent = true := by
            rw [found]
            rfl
          exact allowed stores other (List.mem_of_getElem? isOther)
        cases stepped
        apply Exclusive.of_alone alone found rfl
        · intro stop contrary
          cases contrary
        · intro session owned relies isAgent
          cases relies
          cases isAgent
          rfl
        · intro self contrary
          cases contrary
    | replaceStop =>
        have alone := exclusive.alone found rfl rfl
        cases stepped
        apply Exclusive.of_alone alone found rfl
        · intro stop isFlag
          cases isFlag
          rfl
        · intro session owned relies isAgent
          cases relies
          exact exclusive.owner id _ id owned found rfl isAgent
        · intro self contrary
          cases contrary
    | spawnTick stop =>
        have alone := exclusive.alone found rfl rfl
        have current := exclusive.flag id _ stop found rfl
        have own : forall owned, before.shared.client.iceAgent = some owned ->
            owned.owner = id := by
          intro owned isAgent
          exact exclusive.owner id _ id owned found rfl isAgent
        cases stepped
        apply Exclusive.of_alone alone found rfl
        · intro other isFlag
          cases isFlag
          exact current
        · intro session owned relies isAgent
          cases relies
          exact own owned isAgent
        · intro self isNew
          cases isNew
          exact ⟨stop, rfl, rfl, current, own⟩
    | spawnRecv stop tick =>
        cases stepped
        exact exclusive.of_recv found rfl rfl ⟨rfl, rfl⟩ rfl rfl
  · exact exclusive.of_calm (calm_record found (Thread.step_passes begins stepped))

theorem exclusive_of_reachable {env : Environment} {world : World}
    (reachable : ((clientSystem env).restrict OneAtATime).Reachable world) : Exclusive world := by
  refine TransitionSystem.Reachable.invariant Exclusive reachable ?_ ?_
  · rintro world ⟨io, onStateChange, onData, onLog, rfl⟩
    constructor
    · intro i j first second contrary
      cases contrary
    · intro i j first second contrary
      cases contrary
    · intro i j first second contrary
      cases contrary
    · intro i thread stop contrary
      cases contrary
    · intro i thread session owned contrary
      cases contrary
  · rintro before event after exclusive ⟨allowed, stepped⟩
    cases event with
    | connect heartbeatIntervalSecs =>
        cases stepped
        rcases before.callConnect_threads heartbeatIntervalSecs with ⟨calls, threads, idle⟩
        exact exclusive.of_calm
          (calm_call calls threads (fun call member => (idle call member).1) rfl rfl)
    | close =>
        cases stepped
        rcases before.callClose_threads with ⟨calls, threads, idle⟩
        exact exclusive.of_calm
          (calm_call calls threads (fun call member => (idle call member).1) rfl rfl)
    | run id input =>
        rcases apply_run stepped with ⟨thread, outcome, found, isOutcome, rfl⟩
        exact exclusive.run found allowed isOutcome

/-! ## Tick threads and their clocks -/

/-- What a step does to clocks: it makes at most one tick thread, at most one
for each background thread, and a tick is at the time of its thread. -/
structure Ages (id : Nat) (shared : Shared) (thread : Thread)
    (outcome : Outcome Shared Thread Note) : Prop where
  grows : Thread.Grows thread outcome.thread
  spawned : forall other owner, outcome.spawned = some other -> other.madeBy = some owner ->
    owner = id ∧ thread.spawnedTick = false ∧ outcome.thread.spawnedTick = true
  ticked : outcome.note.record id = [] ∨
    exists self owned, thread = .tick self ∧ self.pc ≠ .finished ∧
      shared.client.iceAgent = some owned ∧
      outcome.note.record id = [⟨owned.owner, id, self.nowMs⟩]

theorem step_ages {env : Environment} {thread : Thread} {shared : Shared}
    {threads : List Thread} {id : Nat} {input : Input} {outcome : Outcome Shared Thread Note}
    (stepped : thread.step env shared threads id input = some outcome) :
    Ages id shared thread outcome := by
  by_cases begins : thread.Begins
  · cases begins with
    | storeAgent agent =>
        cases stepped
        refine ⟨⟨rfl, le_rfl, fun contrary => nomatch contrary⟩, ?_, Or.inl rfl⟩
        intro other owner contrary
        cases contrary
    | replaceStop =>
        cases stepped
        refine ⟨⟨rfl, le_rfl, fun contrary => nomatch contrary⟩, ?_, Or.inl rfl⟩
        intro other owner contrary
        cases contrary
    | spawnTick stop =>
        cases stepped
        refine ⟨⟨rfl, le_rfl, fun contrary => nomatch contrary⟩, ?_, Or.inl rfl⟩
        intro other owner isNew madeBy
        cases isNew
        cases madeBy
        exact ⟨rfl, rfl, rfl⟩
    | spawnRecv stop tick =>
        cases stepped
        refine ⟨⟨rfl, le_rfl, fun _ => rfl⟩, ?_, Or.inl rfl⟩
        intro other owner isNew madeBy
        cases isNew
        cases madeBy
  · have passes := Thread.step_passes begins stepped
    refine ⟨passes.grows, ?_, ?_⟩
    · intro other owner isNew madeBy
      cases (passes.spawned other isNew).2.symm.trans madeBy
    · cases thread with
      | tick self =>
          rcases Option.map_eq_some_iff.mp stepped with ⟨inner, isInner, rfl⟩
          have kept := TickThread.step_keeps isInner
          rcases kept.note with quiet | ⟨notice, called⟩ | ⟨owned, agent, ticked⟩
          · exact Or.inl (congrArg (Note.record id) quiet)
          · exact Or.inl (congrArg (Note.record id) called)
          · refine Or.inr ⟨self, owned, rfl, TickThread.not_finished_of_step isInner, agent, ?_⟩
            exact congrArg (Note.record id) ticked
      | _ => exact Or.inl (passes.untimed rfl)

/-- A background thread makes at most one tick thread, and the ticks of an
agent come from it in the order of its clock. -/
structure Timed (world : World) : Prop where
  made : forall (i : Nat) (thread : Thread) (owner : Nat), world.threads[i]? = some thread ->
    thread.madeBy = some owner -> exists starter, world.threads[owner]? = some starter ∧
      starter.spawnedTick = true
  unique : forall (i j : Nat) (first second : Thread) (owner : Nat),
    world.threads[i]? = some first -> world.threads[j]? = some second ->
      first.madeBy = some owner -> second.madeBy = some owner -> i = j
  recorded : forall record, record ∈ world.ticks ->
    exists thread, world.threads[record.thread]? = some thread ∧
      thread.madeBy = some record.owner ∧ record.now ≤ thread.nowMs
  rising : world.ticks.Pairwise fun later earlier =>
    later.owner = earlier.owner -> earlier.now ≤ later.now

/-- Threads are kept, and a tick thread is new only where its background
thread has just spawned it. -/
structure Continues (before after : World) : Prop where
  thread : forall (i : Nat) (thread : Thread), before.threads[i]? = some thread ->
    exists later, after.threads[i]? = some later ∧ Thread.Grows thread later
  madeBy : forall (i : Nat) (thread : Thread) (owner : Nat), after.threads[i]? = some thread ->
    thread.madeBy = some owner ->
      (exists earlier, before.threads[i]? = some earlier ∧ earlier.madeBy = some owner) ∨
      (i = before.threads.length ∧
        (exists starter, before.threads[owner]? = some starter ∧ starter.spawnedTick = false) ∧
        exists starter, after.threads[owner]? = some starter ∧ starter.spawnedTick = true)

section Timed

variable {before after : World} {id : Nat} {thread : Thread} {outcome : Outcome Shared Thread Note}

theorem continues_record (found : before.threads[id]? = some thread)
    (ages : Ages id before.shared thread outcome) :
    Continues before (before.record id outcome) := by
  have inside := (List.getElem?_eq_some_iff.mp found).1
  constructor
  · intro i other isOther
    by_cases here : i = id
    · subst here
      cases found.symm.trans isOther
      exact ⟨outcome.thread, threadsAfter_self inside, ages.grows⟩
    · exact ⟨other, threadsAfter_of_ne here isOther, .refl other⟩
  · intro i other owner isOther madeBy
    rcases threadsAfter_cases inside isOther with ⟨rfl, rfl⟩ | ⟨_, kept⟩ | ⟨new, isNew⟩
    · exact Or.inl ⟨thread, found, ages.grows.madeBy.symm.trans madeBy⟩
    · exact Or.inl ⟨other, kept, madeBy⟩
    · rcases ages.spawned other owner isNew madeBy with ⟨rfl, unspawned, spawned⟩
      exact Or.inr ⟨new, ⟨thread, found, unspawned⟩, outcome.thread, threadsAfter_self inside,
        spawned⟩

theorem continues_call (calls : List Thread) (threads : after.threads = before.threads ++ calls)
    (untimed : forall call, call ∈ calls -> call.madeBy = none) : Continues before after := by
  constructor
  · intro i other isOther
    refine ⟨other, ?_, .refl other⟩
    rw [threads, List.getElem?_append_left (List.getElem?_eq_some_iff.mp isOther).1]
    exact isOther
  · intro i other owner isOther madeBy
    rw [threads] at isOther
    rcases Nat.lt_or_ge i before.threads.length with old | new
    · rw [List.getElem?_append_left old] at isOther
      exact Or.inl ⟨other, isOther, madeBy⟩
    · rw [List.getElem?_append_right new] at isOther
      cases (untimed other (List.mem_of_getElem? isOther)).symm.trans madeBy

/-- A step whose tick, if any, is by the thread made for the agent. -/
theorem Timed.of_continues (timed : Timed before) (continues : Continues before after)
    (ticks : after.ticks = before.ticks ∨
      exists record, after.ticks = record :: before.ticks ∧
        exists thread, before.threads[record.thread]? = some thread ∧
          thread.madeBy = some record.owner ∧ record.now = thread.nowMs) : Timed after := by
  have recorded : forall (record : TickRecord) (thread : Thread), before.threads[record.thread]? = some thread ->
      thread.madeBy = some record.owner -> record.now ≤ thread.nowMs ->
        exists thread, after.threads[record.thread]? = some thread ∧
          thread.madeBy = some record.owner ∧ record.now ≤ thread.nowMs := by
    intro record thread found madeBy now
    rcases continues.thread _ thread found with ⟨later, isLater, grows⟩
    exact ⟨later, isLater, grows.madeBy.trans madeBy, now.trans grows.nowMs⟩
  have old : forall record, record ∈ before.ticks ->
      exists thread, after.threads[record.thread]? = some thread ∧
        thread.madeBy = some record.owner ∧ record.now ≤ thread.nowMs := by
    intro record member
    rcases timed.recorded record member with ⟨thread, found, madeBy, now⟩
    exact recorded record thread found madeBy now
  refine ⟨?_, ?_, ?_, ?_⟩
  · intro i thread owner found madeBy
    rcases continues.madeBy i thread owner found madeBy with
      ⟨earlier, isEarlier, earlierMadeBy⟩ | ⟨_, _, starter⟩
    · rcases timed.made i earlier owner isEarlier earlierMadeBy with ⟨starter, isStarter, spawned⟩
      rcases continues.thread owner starter isStarter with ⟨later, isLater, grows⟩
      exact ⟨later, isLater, grows.spawnedTick spawned⟩
    · exact starter
  · have fresh : forall (i : Nat) (thread starter : Thread) (owner : Nat),
        before.threads[i]? = some thread -> thread.madeBy = some owner ->
          before.threads[owner]? = some starter -> starter.spawnedTick = false -> False := by
      intro i thread starter owner found madeBy isStarter unspawned
      rcases timed.made i thread owner found madeBy with ⟨same, isSame, spawned⟩
      cases isStarter.symm.trans isSame
      cases unspawned.symm.trans spawned
    intro i j first second owner isFirst isSecond madeFirst madeSecond
    rcases continues.madeBy i first owner isFirst madeFirst with
      ⟨former, wasFirst, formerMade⟩ | ⟨newFirst, ⟨starter, isStarter, unspawned⟩, _⟩
    · rcases continues.madeBy j second owner isSecond madeSecond with
        ⟨other, wasSecond, otherMade⟩ | ⟨_, ⟨starter, isStarter, unspawned⟩, _⟩
      · exact timed.unique i j former other owner wasFirst wasSecond formerMade otherMade
      · exact False.elim (fresh i former starter owner wasFirst formerMade isStarter unspawned)
    · rcases continues.madeBy j second owner isSecond madeSecond with
        ⟨other, wasSecond, otherMade⟩ | ⟨newSecond, _, _⟩
      · exact False.elim (fresh j other starter owner wasSecond otherMade isStarter unspawned)
      · exact newFirst.trans newSecond.symm
  · intro record member
    rcases ticks with same | ⟨new, isNew, thread, found, madeBy, now⟩
    · exact old record (same ▸ member)
    · rw [isNew] at member
      rcases List.mem_cons.mp member with rfl | earlier
      · exact recorded record thread found madeBy (le_of_eq now)
      · exact old record earlier
  · rcases ticks with same | ⟨new, isNew, thread, found, madeBy, now⟩
    · rw [same]
      exact timed.rising
    · rw [isNew]
      refine List.Pairwise.cons ?_ timed.rising
      intro record member owner
      rcases timed.recorded record member with ⟨other, isOther, otherMadeBy, otherNow⟩
      have together : record.thread = new.thread :=
        timed.unique _ _ other thread new.owner isOther found (by rw [owner]; exact otherMadeBy)
          madeBy
      rw [together, found] at isOther
      cases isOther
      rw [now]
      exact otherNow

end Timed

theorem timed_of_reachable {env : Environment} {world : World}
    (reachable : ((clientSystem env).restrict OneAtATime).Reachable world) : Timed world := by
  refine TransitionSystem.Reachable.invariant_of_reachable Timed reachable ?_ ?_
  · rintro world ⟨io, onStateChange, onData, onLog, rfl⟩
    refine ⟨?_, ?_, ?_, .nil⟩
    · intro i thread owner contrary
      cases contrary
    · intro i j first second owner contrary
      cases contrary
    · intro record contrary
      cases contrary
  · rintro before event after earlier timed ⟨_, stepped⟩
    cases event with
    | connect heartbeatIntervalSecs =>
        cases stepped
        rcases before.callConnect_threads heartbeatIntervalSecs with ⟨calls, threads, idle⟩
        exact timed.of_continues
          (continues_call calls threads fun call member => (idle call member).2) (Or.inl rfl)
    | close =>
        cases stepped
        rcases before.callClose_threads with ⟨calls, threads, idle⟩
        exact timed.of_continues
          (continues_call calls threads fun call member => (idle call member).2) (Or.inl rfl)
    | run id input =>
        rcases apply_run stepped with ⟨thread, outcome, found, isOutcome, rfl⟩
        have ages := step_ages isOutcome
        apply timed.of_continues (continues_record found ages)
        rcases ages.ticked with quiet | ⟨self, owned, rfl, notFinished, agent, ticked⟩
        · refine Or.inl ?_
          change outcome.note.record id ++ before.ticks = before.ticks
          rw [quiet]
          rfl
        · have relies : (Thread.tick self).session id = some self.starter := by
            have running : (Thread.tick self).running = true := decide_eq_true notFinished
            unfold Thread.session
            rw [running]
            rfl
          have own := (exclusive_of_reachable earlier).owner id _ _ owned found relies agent
          refine Or.inr ⟨⟨owned.owner, id, self.nowMs⟩, ?_, .tick self, found, ?_, rfl⟩
          · change outcome.note.record id ++ before.ticks = _
            rw [ticked]
            rfl
          · exact congrArg some own.symm

/-- When sessions are started one at a time, every agent has one clock. -/
theorem one_clock {env : Environment} {world : World}
    (reachable : ((clientSystem env).restrict OneAtATime).Reachable world) : world.OneClock := by
  have exclusive := exclusive_of_reachable reachable
  have timed := timed_of_reachable reachable
  refine ⟨?_, ?_, ?_, timed.rising⟩
  · intro i j first second isFirst isSecond unstoppedFirst unstoppedSecond same
    have running : forall (k : Nat) (thread : Thread), world.threads[k]? = some thread ->
        world.unstopped k = true -> thread.running = true := by
      intro k thread found unstopped
      rcases running_iff.mp (running_of_unstopped unstopped) with ⟨other, isOther, runs⟩
      cases found.symm.trans isOther
      exact runs
    exact exclusive.running i j first second isFirst isSecond
      (running i first isFirst unstoppedFirst) (running j second isSecond unstoppedSecond) same
  · intro i thread found running
    have flagged : exists stop, thread.flag = some stop := by
      cases thread with
      | tick self => exact ⟨self.stop, if_neg (of_decide_eq_true running)⟩
      | recv self => exact ⟨self.stop, if_neg (of_decide_eq_true running)⟩
      | _ => cases running
    rcases flagged with ⟨stop, flag⟩
    rw [flag, exclusive.flag i thread stop found flag]
  · intro record member
    rcases timed.recorded record member with ⟨thread, found, madeBy, _⟩
    cases thread with
    | tick self =>
        refine ⟨self, found, Option.some.inj madeBy, ?_⟩
        intro i other isOther starter
        exact timed.unique i record.thread _ _ record.owner isOther found (congrArg some starter)
          madeBy
    | _ => cases madeBy

/-- A session, a `close`, and a second session. -/
theorem one_clock_after_reconnect :
    exists world, ((clientSystem concreteEnvironment).restrict OneAtATime).Reachable world ∧
      world.ticks.length = 3 ∧ world.OneClock := by
  have ends : ((World.new true true true true).events concreteEnvironment
      (fun world event => decide (world.OneAtATime event))
      (connectEvents 0 ++ runs 1 8 ++ runs 2 10 ++ .close :: runs 2 3 ++ runs 3 1 ++ runs 4 3 ++
        connectEvents 5 ++ runs 6 8 ++ runs 7 6)).any
      (fun world => world.ticks.length = 3) = true := by
    decide +kernel
  rcases exists_world OneAtATime (fun _ _ => of_decide_eq_true) ends with
    ⟨world, reachable, ticks⟩
  exact ⟨world, reachable, of_decide_eq_true ticks, one_clock reachable⟩

/-- A second `connect` while a session runs.  The old tick thread ticks the new
agent at 100 milliseconds, and then the new one does so at 50. -/
theorem old_thread_ticks_new_agent :
    ¬ forall (env : Environment) (world : World),
      (clientSystem env).Reachable world -> world.OneClock := by
  intro claim
  have ends : ((World.new true true true true).events concreteEnvironment (fun _ _ => true)
      (connectEvents 0 ++ runs 1 8 ++ runs 2 6 ++ connectEvents 4 ++ runs 5 1 ++ runs 2 4 ++
        runs 5 1 ++ runs 2 3 ++ runs 3 1 ++ runs 5 6 ++ runs 6 6)).any
      (fun world => world.ticks = [⟨5, 6, 50⟩, ⟨5, 2, 100⟩, ⟨1, 2, 50⟩]) = true := by
    decide +kernel
  rcases exists_world (fun _ _ => True) (fun _ _ _ => trivial) ends with ⟨world, reachable, test⟩
  have rising := (claim _ world reachable.of_restrict).rising
  rw [of_decide_eq_true test] at rising
  have back := List.rel_of_pairwise_cons rising (List.mem_cons_self) rfl
  exact absurd back (by decide)

end World

end P2pSdk
