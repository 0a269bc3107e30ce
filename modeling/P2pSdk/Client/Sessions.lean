import P2pSdk.Client.Steps

namespace P2pSdk

open Foundation

/-!
# One session at a time

A background thread starts a session with the block that stores its agent and
has started it with the spawn of its receive thread.  Between the two it stops
the old threads and replaces the stop flag, all in blocks of their own.  If the
first block finds no thread of an earlier session and no session being
started, the steps of one session never mix with those of another.
-/

/-! ## Observers -/

/-- A background thread between the block that stores its agent and the spawn
of its receive thread. -/
def Thread.starting : Thread -> Bool
  | .background .stopThreads => true
  | .background (.joinTick _ _) => true
  | .background (.joinRecv _) => true
  | .background .replaceStop => true
  | .background (.spawnTick _) => true
  | .background (.spawnRecv _ _) => true
  | _ => false

/-- A background thread that will spawn no tick thread any more. -/
def Thread.spawnedTick : Thread -> Bool
  | .background (.spawnRecv _ _) => true
  | .background (.storeHandles _ _) => true
  | .background .done => true
  | _ => false

/-- A background thread about to store its agent. -/
def Thread.storesAgent : Thread -> Bool
  | .background (.storeAgent _) => true
  | _ => false

def Thread.isTick : Thread -> Bool
  | .tick _ => true
  | _ => false

/-- The stop flag of a running thread, or the one that a background thread
gives to the threads it spawns. -/
def Thread.flag : Thread -> Option Nat
  | .background (.spawnTick stop) => some stop
  | .background (.spawnRecv stop _) => some stop
  | .tick self => if self.pc = .finished then none else some self.stop
  | .recv self => if self.pc = .finished then none else some self.stop
  | _ => none

/-- The background thread that made a tick thread. -/
def Thread.madeBy : Thread -> Option Nat
  | .tick self => some self.starter
  | _ => none

/-- The clock of a tick thread. -/
def Thread.nowMs : Thread -> Nat
  | .tick self => self.nowMs
  | _ => 0

/-- The background thread whose agent the thread at `id` relies on. -/
def Thread.session (id : Nat) (thread : Thread) : Option Nat :=
  if thread.starting then some id else if thread.running then thread.madeBy else none

/-- A thread that belongs to no session. -/
structure Thread.Idle (thread : Thread) : Prop where
  starting : thread.starting = false
  running : thread.running = false

instance (thread : Thread) : Decidable thread.Idle :=
  decidable_of_iff (thread.starting = false ∧ thread.running = false)
    ⟨fun both => ⟨both.1, both.2⟩, fun idle => ⟨idle.starting, idle.running⟩⟩

theorem Thread.Idle.flag {thread : Thread} (idle : thread.Idle) : thread.flag = none := by
  cases thread with
  | connect pc => rfl
  | close pc => rfl
  | background pc =>
      have starting := idle.starting
      cases pc with
      | spawnTick stop => cases starting
      | spawnRecv stop tick => cases starting
      | _ => rfl
  | tick self =>
      have finished : self.pc = .finished := by
        simpa [Thread.running] using idle.running
      exact if_pos finished
  | recv self =>
      have finished : self.pc = .finished := by
        simpa [Thread.running] using idle.running
      exact if_pos finished

theorem Thread.Idle.session {thread : Thread} (idle : thread.Idle) (id : Nat) :
    thread.session id = none := by
  unfold Thread.session
  rw [idle.starting, idle.running]
  rfl

/-! ## Steps of a thread -/

/-- The step begins nothing new: what the thread relies on, it relied on before. -/
structure Thread.Tame (id : Nat) (before after : Thread) : Prop where
  starting : after.starting = true -> before.starting = true
  running : after.running = true -> before.running = true
  isTick : after.isTick = before.isTick
  flag : forall stop, after.flag = some stop -> before.flag = some stop
  session : forall owner, after.session id = some owner -> before.session id = some owner

/-- What no step takes back. -/
structure Thread.Grows (before after : Thread) : Prop where
  madeBy : after.madeBy = before.madeBy
  nowMs : before.nowMs ≤ after.nowMs
  spawnedTick : before.spawnedTick = true -> after.spawnedTick = true

theorem Thread.Tame.refl (id : Nat) (thread : Thread) : Thread.Tame id thread thread :=
  ⟨fun same => same, fun same => same, rfl, fun _ same => same, fun _ same => same⟩

theorem Thread.Grows.refl (thread : Thread) : Thread.Grows thread thread :=
  ⟨rfl, le_rfl, fun same => same⟩

/-- Nothing is begun by going idle. -/
theorem Thread.Idle.tame {before after : Thread} (idle : after.Idle) (id : Nat)
    (isTick : after.isTick = before.isTick) : Thread.Tame id before after := by
  refine ⟨?_, ?_, isTick, ?_, ?_⟩
  · intro starting
    cases idle.starting.symm.trans starting
  · intro running
    cases idle.running.symm.trans running
  · intro stop flag
    cases idle.flag.symm.trans flag
  · intro owner session
    cases (idle.session id).symm.trans session

theorem TickThread.StepKeeps.tame {self : TickThread} {shared : Shared}
    {outcome : Outcome Shared TickThread Note} (kept : self.StepKeeps shared outcome)
    (notFinished : self.pc ≠ .finished) (id : Nat) :
    Thread.Tame id (.tick self) (.tick outcome.thread) := by
  refine ⟨?_, ?_, rfl, ?_, ?_⟩
  · intro contrary
    cases contrary
  · intro _
    exact decide_eq_true notFinished
  · intro stop flag
    unfold Thread.flag at flag ⊢
    dsimp only at flag ⊢
    rw [if_neg notFinished, ← kept.stop]
    split_ifs at flag
    exact flag
  · intro owner session
    have running : (Thread.tick self).running = true := decide_eq_true notFinished
    unfold Thread.session at session ⊢
    rw [if_neg (by simp [Thread.starting])] at session ⊢
    rw [if_pos running]
    split_ifs at session
    rw [← session]
    exact congrArg some kept.starter.symm

theorem RecvThread.StepKeeps.tame {self : RecvThread} {shared : Shared}
    {outcome : Outcome Shared RecvThread Note} (kept : self.StepKeeps shared outcome)
    (notFinished : self.pc ≠ .finished) (id : Nat) :
    Thread.Tame id (.recv self) (.recv outcome.thread) := by
  refine ⟨?_, ?_, rfl, ?_, ?_⟩
  · intro contrary
    cases contrary
  · intro _
    exact decide_eq_true notFinished
  · intro stop flag
    unfold Thread.flag at flag ⊢
    dsimp only at flag ⊢
    rw [if_neg notFinished, ← kept.stop]
    split_ifs at flag
    exact flag
  · intro owner session
    unfold Thread.session at session
    rw [if_neg (by simp [Thread.starting])] at session
    split_ifs at session
    cases session

/-- A step that begins no part of a session: the agent and the stop flag stay
in place, or the agent is dropped. -/
structure Passes (id : Nat) (shared : Shared) (thread : Thread)
    (outcome : Outcome Shared Thread Note) : Prop where
  tame : Thread.Tame id thread outcome.thread
  grows : Thread.Grows thread outcome.thread
  spawned : forall other, outcome.spawned = some other ->
    other.Idle ∧ other.madeBy = none
  iceStop : outcome.shared.client.iceStop = shared.client.iceStop
  owner : forall owned, outcome.shared.client.iceAgent = some owned ->
    exists earlier, shared.client.iceAgent = some earlier ∧ earlier.owner = owned.owner
  untimed : thread.isTick = false -> outcome.note.record id = []

theorem Passes.of_quietly {id : Nat} {shared after : Shared} {thread next : Thread}
    (tame : Thread.Tame id thread next) (grows : Thread.Grows thread next)
    (iceStop : after.client.iceStop = shared.client.iceStop)
    (iceAgent : after.client.iceAgent = shared.client.iceAgent) :
    Passes id shared thread (quietly next after) := by
  refine ⟨tame, grows, ?_, iceStop, ?_, fun _ => rfl⟩
  · intro other contrary
    cases contrary
  · intro owned found
    exact ⟨owned, iceAgent ▸ found, rfl⟩

theorem Shared.Keeps.agent {before after : Shared} (keeps : Shared.Keeps before after)
    {owned : OwnedAgent} (found : after.client.iceAgent = some owned) :
    exists earlier, before.client.iceAgent = some earlier ∧ earlier.owner = owned.owner := by
  have owner := keeps.owner
  rw [found] at owner
  rcases Option.map_eq_some_iff.mp owner.symm with ⟨earlier, isEarlier, same⟩
  exact ⟨earlier, isEarlier, same⟩

theorem ConnectPc.step_passes {pc : ConnectPc} {shared : Shared} {input : Input} {id : Nat}
    {outcome : Outcome Shared Thread Note} (stepped : pc.step shared input = some outcome) :
    Passes id shared (.connect pc) outcome := by
  have tame : forall next, Thread.Tame id (.connect pc) (.connect next) :=
    fun next => Thread.Idle.tame ⟨rfl, rfl⟩ id rfl
  have grows : forall next, Thread.Grows (.connect pc) (.connect next) :=
    fun next => ⟨rfl, le_rfl, fun contrary => contrary⟩
  cases pc with
  | storeHeartbeat heartbeatIntervalSecs =>
      rcases ConnectPc.step_storeHeartbeat stepped with rfl | rfl
      · exact .of_quietly (tame _) (grows _) rfl rfl
      · exact .of_quietly (tame _) (grows _) rfl rfl
  | spawnBackground =>
      cases stepped
      refine ⟨tame _, grows _, ?_, rfl, fun owned found => ⟨owned, found, rfl⟩, fun _ => rfl⟩
      intro other same
      cases same
      exact ⟨⟨rfl, rfl⟩, rfl⟩
  | returned => cases stepped

theorem ClosePc.step_passes {pc : ClosePc} {shared : Shared} {threads : List Thread} {id : Nat}
    {outcome : Outcome Shared Thread Note} (stepped : pc.step shared threads = some outcome) :
    Passes id shared (.close pc) outcome := by
  have tame : forall next, Thread.Tame id (.close pc) (.close next) :=
    fun next => Thread.Idle.tame ⟨rfl, rfl⟩ id rfl
  have grows : forall next, Thread.Grows (.close pc) (.close next) :=
    fun next => ⟨rfl, le_rfl, fun contrary => contrary⟩
  cases pc with
  | joinTick tick recv =>
      rcases ClosePc.step_joinTick stepped with ⟨_, rfl⟩
      exact .of_quietly (tame _) (grows _) rfl rfl
  | joinRecv recv =>
      rcases ClosePc.step_joinRecv stepped with ⟨_, rfl⟩
      exact .of_quietly (tame _) (grows _) rfl rfl
  | clear =>
      cases stepped
      refine ⟨tame _, grows _, ?_, rfl, ?_, fun _ => rfl⟩
      · intro other contrary
        cases contrary
      · intro owned contrary
        cases contrary
  | returned => cases stepped

/-- The program points of a background thread that begin a part of a session. -/
inductive Thread.Begins : Thread -> Prop
  | storeAgent (agent : IceAgent) : Begins (.background (.storeAgent agent))
  | replaceStop : Begins (.background .replaceStop)
  | spawnTick (stop : Nat) : Begins (.background (.spawnTick stop))
  | spawnRecv (stop tick : Nat) : Begins (.background (.spawnRecv stop tick))

/-- All other steps of a background thread pass. -/
theorem BackgroundPc.step_passes {pc : BackgroundPc} {shared : Shared} {threads : List Thread}
    {id : Nat} {input : Input} {outcome : Outcome Shared Thread Note} (passing : ¬ (Thread.background pc).Begins)
    (stepped : pc.step shared threads id input = some outcome) :
    Passes id shared (.background pc) outcome := by
  have idle : forall next : BackgroundPc, (Thread.background next).starting = false ->
      Thread.Tame id (.background pc) (.background next) :=
    fun next starting => Thread.Idle.tame ⟨starting, rfl⟩ id rfl
  have goesOn : forall next : BackgroundPc, (Thread.background pc).starting = true ->
      (Thread.background next).flag = none ->
      Thread.Tame id (.background pc) (.background next) := by
    intro next starting flag
    refine ⟨fun _ => starting, fun running => running, rfl, ?_, ?_⟩
    · intro stop isFlag
      cases flag.symm.trans isFlag
    · intro owner session
      unfold Thread.session at session ⊢
      rw [if_pos starting]
      split_ifs at session
      · exact session
      · rename_i running
        cases running
  have grows : forall next : BackgroundPc,
      ((Thread.background pc).spawnedTick = true -> (Thread.background next).spawnedTick = true) ->
      Thread.Grows (.background pc) (.background next) :=
    fun next spawnedTick => ⟨rfl, le_rfl, spawnedTick⟩
  cases pc with
  | storeAgent agent => exact absurd (.storeAgent agent) passing
  | replaceStop => exact absurd .replaceStop passing
  | spawnTick stop => exact absurd (.spawnTick stop) passing
  | spawnRecv stop tick => exact absurd (.spawnRecv stop tick) passing
  | gather =>
      rcases BackgroundPc.step_gather stepped with rfl | rfl
      · exact .of_quietly (idle _ rfl) (grows _ fun contrary => nomatch contrary) rfl rfl
      · exact .of_quietly (idle _ rfl) (grows _ fun contrary => nomatch contrary) rfl rfl
  | negotiate =>
      rcases BackgroundPc.step_negotiate stepped with rfl | ⟨agent, rfl⟩
      · exact .of_quietly (idle _ rfl) (grows _ fun contrary => nomatch contrary) rfl rfl
      · exact .of_quietly (idle _ rfl) (grows _ fun contrary => nomatch contrary) rfl rfl
  | stopThreads =>
      cases stepped
      exact .of_quietly (goesOn _ rfl rfl) (grows _ fun contrary => nomatch contrary) rfl rfl
  | joinTick tick recv =>
      rcases BackgroundPc.step_joinTick stepped with rfl
      exact .of_quietly (goesOn _ rfl rfl) (grows _ fun contrary => nomatch contrary) rfl rfl
  | joinRecv recv =>
      rcases BackgroundPc.step_joinRecv stepped with rfl
      exact .of_quietly (goesOn _ rfl rfl) (grows _ fun contrary => nomatch contrary) rfl rfl
  | fireFailed firing =>
      cases stepped
      have keeps := firing.step_keeps (.state .failed) shared
      refine ⟨?_, ?_, ?_, keeps.iceStop, fun owned found => keeps.agent found, ?_⟩
      · cases (firing.step (.state .failed) shared.client).2.1 with
        | none => exact idle _ rfl
        | some later => exact idle _ rfl
      · exact ⟨rfl, le_rfl, fun contrary => nomatch contrary⟩
      · intro other contrary
        cases contrary
      · intro _
        rcases firing.step_note (.state .failed) shared.client with quiet | ⟨_, called⟩
        · exact congrArg (Note.record id) quiet
        · exact congrArg (Note.record id) called
  | storeHandles tick recv =>
      cases stepped
      exact .of_quietly (idle _ rfl) (grows _ fun _ => rfl) rfl rfl
  | done => cases stepped
  | _ =>
      cases stepped
      exact .of_quietly (idle _ rfl) (grows _ fun contrary => nomatch contrary) rfl rfl

theorem Thread.step_passes {env : Environment} {thread : Thread} {shared : Shared}
    {threads : List Thread} {id : Nat} {input : Input} {outcome : Outcome Shared Thread Note}
    (passing : ¬ thread.Begins)
    (stepped : thread.step env shared threads id input = some outcome) :
    Passes id shared thread outcome := by
  cases thread with
  | connect pc => exact ConnectPc.step_passes stepped
  | background pc => exact BackgroundPc.step_passes passing stepped
  | close pc => exact ClosePc.step_passes stepped
  | tick self =>
      rcases Option.map_eq_some_iff.mp stepped with ⟨inner, isInner, rfl⟩
      have kept := TickThread.step_keeps isInner
      have tame := kept.tame (TickThread.not_finished_of_step isInner) id
      refine ⟨tame, ⟨?_, kept.nowMs, fun contrary => nomatch contrary⟩, ?_, kept.keeps.iceStop,
        fun owned found => kept.keeps.agent found, fun contrary => nomatch contrary⟩
      · exact congrArg some kept.starter
      · intro other contrary
        cases (congrArg (Option.map Thread.tick) kept.spawned).symm.trans contrary
  | recv self =>
      rcases Option.map_eq_some_iff.mp stepped with ⟨inner, isInner, rfl⟩
      have kept := RecvThread.step_keeps isInner
      have tame := kept.tame (RecvThread.not_finished_of_step isInner) id
      refine ⟨tame, ⟨rfl, le_rfl, fun contrary => nomatch contrary⟩, ?_, kept.keeps.iceStop,
        fun owned found => kept.keeps.agent found, ?_⟩
      · intro other contrary
        cases (congrArg (Option.map Thread.recv) kept.spawned).symm.trans contrary
      · intro _
        change inner.note.record id = []
        rcases kept.note with quiet | ⟨notice, called⟩
        · rw [quiet]
          rfl
        · rw [called]
          rfl

/-! ## The invariant -/

namespace World

/-- A background thread stores its agent only when no tick or receive thread
runs and no other session is being started. -/
def OneAtATime (before : World) : Event -> Prop
  | .run id _ => before.threads[id]?.any Thread.storesAgent = true ->
      forall thread, thread ∈ before.threads -> thread.Idle
  | _ => True

instance (before : World) (event : Event) : Decidable (before.OneAtATime event) :=
  match event with
  | .run id _ =>
      inferInstanceAs (Decidable (before.threads[id]?.any Thread.storesAgent = true ->
        forall thread, thread ∈ before.threads -> thread.Idle))
  | .connect _ => .isTrue trivial
  | .close => .isTrue trivial

/-- One session at most is being started, or runs. -/
structure Exclusive (world : World) : Prop where
  starting : forall (i j : Nat) (first second : Thread), world.threads[i]? = some first ->
    world.threads[j]? = some second -> first.starting = true -> second.starting = true -> i = j
  quiet : forall (i j : Nat) (first second : Thread), world.threads[i]? = some first ->
    world.threads[j]? = some second -> first.starting = true -> second.running = true ->
      first.spawnedTick = true ∧ second.isTick = true
  running : forall (i j : Nat) (first second : Thread), world.threads[i]? = some first ->
    world.threads[j]? = some second -> first.running = true -> second.running = true ->
      first.isTick = second.isTick -> i = j
  flag : forall (i : Nat) (thread : Thread) (stop : Nat), world.threads[i]? = some thread ->
    thread.flag = some stop -> stop = world.shared.client.iceStop
  owner : forall (i : Nat) (thread : Thread) (session : Nat) (owned : OwnedAgent),
    world.threads[i]? = some thread -> thread.session i = some session ->
      world.shared.client.iceAgent = some owned -> owned.owner = session

/-- Nothing of a session is begun between two worlds. -/
structure Calm (before after : World) : Prop where
  thread : forall (i : Nat) (thread : Thread), after.threads[i]? = some thread ->
    thread.Idle ∨ exists earlier, before.threads[i]? = some earlier ∧
      Thread.Tame i earlier thread ∧ Thread.Grows earlier thread
  iceStop : after.shared.client.iceStop = before.shared.client.iceStop
  owner : forall owned, after.shared.client.iceAgent = some owned ->
    exists earlier, before.shared.client.iceAgent = some earlier ∧ earlier.owner = owned.owner

section Exclusive

variable {before after : World}

/-- A thread of a session was there before. -/
theorem Calm.earlier {i : Nat} {thread : Thread} (calm : Calm before after)
    (found : after.threads[i]? = some thread) (busy : ¬ thread.Idle) :
    exists earlier, before.threads[i]? = some earlier ∧
      Thread.Tame i earlier thread ∧ Thread.Grows earlier thread := by
  rcases calm.thread i thread found with idle | earlier
  · exact absurd idle busy
  · exact earlier

theorem Exclusive.of_calm (exclusive : Exclusive before) (calm : Calm before after) :
    Exclusive after := by
  have starts : forall (i : Nat) (thread : Thread), after.threads[i]? = some thread ->
      thread.starting = true -> exists earlier, before.threads[i]? = some earlier ∧
        earlier.starting = true ∧ (earlier.spawnedTick = true -> thread.spawnedTick = true) := by
    intro i thread found starting
    rcases calm.earlier found (fun idle => nomatch idle.starting.symm.trans starting) with
      ⟨earlier, isEarlier, tame, grows⟩
    exact ⟨earlier, isEarlier, tame.starting starting, grows.spawnedTick⟩
  have runs : forall (i : Nat) (thread : Thread), after.threads[i]? = some thread ->
      thread.running = true -> exists earlier, before.threads[i]? = some earlier ∧
        earlier.running = true ∧ thread.isTick = earlier.isTick := by
    intro i thread found running
    rcases calm.earlier found (fun idle => nomatch idle.running.symm.trans running) with
      ⟨earlier, isEarlier, tame, _⟩
    exact ⟨earlier, isEarlier, tame.running running, tame.isTick⟩
  refine ⟨?_, ?_, ?_, ?_, ?_⟩
  · intro i j first second isFirst isSecond startsFirst startsSecond
    rcases starts i first isFirst startsFirst with ⟨_, wasFirst, startedFirst, _⟩
    rcases starts j second isSecond startsSecond with ⟨_, wasSecond, startedSecond, _⟩
    exact exclusive.starting i j _ _ wasFirst wasSecond startedFirst startedSecond
  · intro i j first second isFirst isSecond startsFirst runsSecond
    rcases starts i first isFirst startsFirst with ⟨_, wasFirst, startedFirst, spawned⟩
    rcases runs j second isSecond runsSecond with ⟨_, wasSecond, ranSecond, isTick⟩
    have quiet := exclusive.quiet i j _ _ wasFirst wasSecond startedFirst ranSecond
    exact ⟨spawned quiet.1, isTick.trans quiet.2⟩
  · intro i j first second isFirst isSecond runsFirst runsSecond same
    rcases runs i first isFirst runsFirst with ⟨_, wasFirst, ranFirst, tickFirst⟩
    rcases runs j second isSecond runsSecond with ⟨_, wasSecond, ranSecond, tickSecond⟩
    rw [tickFirst, tickSecond] at same
    exact exclusive.running i j _ _ wasFirst wasSecond ranFirst ranSecond same
  · intro i thread stop found flag
    rcases calm.earlier found (fun idle => nomatch idle.flag.symm.trans flag) with
      ⟨earlier, isEarlier, tame, _⟩
    rw [calm.iceStop]
    exact exclusive.flag i earlier stop isEarlier (tame.flag stop flag)
  · intro i thread session owned found relies agent
    rcases calm.earlier found (fun idle => nomatch (idle.session i).symm.trans relies) with
      ⟨earlier, isEarlier, tame, _⟩
    rcases calm.owner owned agent with ⟨former, isFormer, same⟩
    rw [← same]
    exact exclusive.owner i earlier session former isEarlier (tame.session session relies) isFormer

end Exclusive

/-! ## Steps that begin a part of a session -/

section Begins

variable {before : World} {id : Nat} {thread : Thread} {outcome : Outcome Shared Thread Note}

/-- Nobody else takes part in a session. -/
def Alone (before : World) (id : Nat) : Prop :=
  forall (i : Nat) (other : Thread), i ≠ id -> before.threads[i]? = some other -> other.Idle

/-- A background thread that has yet to spawn its tick thread is alone. -/
theorem Exclusive.alone (exclusive : Exclusive before)
    (found : before.threads[id]? = some thread) (starting : thread.starting = true)
    (unspawned : thread.spawnedTick = false) : before.Alone id := by
  intro i other elsewhere isOther
  constructor
  · rw [← Bool.not_eq_true]
    intro otherStarting
    exact elsewhere (exclusive.starting i id other thread isOther found otherStarting starting)
  · rw [← Bool.not_eq_true]
    intro otherRunning
    have quiet := exclusive.quiet id i thread other found isOther starting otherRunning
    cases unspawned.symm.trans quiet.1

/-- Alone, a background thread goes on with its session, and may spawn a tick thread. -/
theorem Exclusive.of_alone (alone : before.Alone id) (found : before.threads[id]? = some thread)
    (running : outcome.thread.running = false)
    (flag : forall stop, outcome.thread.flag = some stop ->
      stop = outcome.shared.client.iceStop)
    (owner : forall session owned, outcome.thread.session id = some session ->
      outcome.shared.client.iceAgent = some owned -> owned.owner = session)
    (spawned : forall self, outcome.spawned = some self -> exists stop,
      self = .tick (.start id stop) ∧ outcome.thread.spawnedTick = true ∧
        stop = outcome.shared.client.iceStop ∧
        forall owned, outcome.shared.client.iceAgent = some owned -> owned.owner = id) :
    Exclusive (before.record id outcome) := by
  have cases : forall (i : Nat) (other : Thread),
      (before.record id outcome).threads[i]? = some other ->
        (i = id ∧ other = outcome.thread) ∨ other.Idle ∨
          (i = before.threads.length ∧ outcome.spawned = some other) := by
    intro i other isOther
    rcases threadsAfter_cases (List.getElem?_eq_some_iff.mp found).1 isOther with
      here | ⟨elsewhere, kept⟩ | new
    · exact Or.inl here
    · exact Or.inr (Or.inl (alone i other elsewhere kept))
    · exact Or.inr (Or.inr new)
  have starts : forall (i : Nat) (other : Thread),
      (before.record id outcome).threads[i]? = some other -> other.starting = true ->
        i = id ∧ other = outcome.thread := by
    intro i other isOther starting
    rcases cases i other isOther with here | idle | ⟨_, new⟩
    · exact here
    · cases idle.starting.symm.trans starting
    · rcases spawned other new with ⟨stop, rfl, _⟩
      cases starting
  have runs : forall (i : Nat) (other : Thread),
      (before.record id outcome).threads[i]? = some other -> other.running = true ->
        i = before.threads.length ∧ outcome.spawned = some other := by
    intro i other isOther isRunning
    rcases cases i other isOther with ⟨_, rfl⟩ | idle | new
    · cases running.symm.trans isRunning
    · cases idle.running.symm.trans isRunning
    · exact new
  refine ⟨?_, ?_, ?_, ?_, ?_⟩
  · intro i j first second isFirst isSecond startsFirst startsSecond
    rw [(starts i first isFirst startsFirst).1, (starts j second isSecond startsSecond).1]
  · intro i j first second isFirst isSecond startsFirst runsSecond
    rcases spawned second (runs j second isSecond runsSecond).2 with ⟨stop, rfl, spawnedTick, _⟩
    rw [(starts i first isFirst startsFirst).2]
    exact ⟨spawnedTick, rfl⟩
  · intro i j first second isFirst isSecond runsFirst runsSecond _
    rw [(runs i first isFirst runsFirst).1, (runs j second isSecond runsSecond).1]
  · intro i other stop isOther isFlag
    rcases cases i other isOther with ⟨_, rfl⟩ | idle | ⟨_, new⟩
    · exact flag stop isFlag
    · cases idle.flag.symm.trans isFlag
    · rcases spawned other new with ⟨current, rfl, _, isCurrent, _⟩
      cases isFlag
      exact isCurrent
  · intro i other session owned isOther relies agent
    rcases cases i other isOther with ⟨rfl, rfl⟩ | idle | ⟨_, new⟩
    · exact owner session owned relies agent
    · cases (idle.session i).symm.trans relies
    · rcases spawned other new with ⟨stop, rfl, _, _, own⟩
      cases relies
      exact own owned agent

/-- The spawn of the receive thread ends the start of a session. -/
theorem Exclusive.of_recv {stop : Nat} (exclusive : Exclusive before)
    (found : before.threads[id]? = some thread) (starting : thread.starting = true)
    (flag : thread.flag = some stop) (idle : outcome.thread.Idle)
    (spawned : outcome.spawned = some (.recv (.start id stop)))
    (same : outcome.shared = before.shared) : Exclusive (before.record id outcome) := by
  have cases : forall (i : Nat) (other : Thread),
      (before.record id outcome).threads[i]? = some other ->
        other.Idle ∨ (before.threads[i]? = some other ∧ other.starting = false ∧
          (other.running = true -> other.isTick = true)) ∨
          (i = before.threads.length ∧ other = .recv (.start id stop)) := by
    intro i other isOther
    rcases threadsAfter_cases (List.getElem?_eq_some_iff.mp found).1 isOther with
      ⟨_, rfl⟩ | ⟨elsewhere, kept⟩ | ⟨new, isNew⟩
    · exact Or.inl idle
    · refine Or.inr (Or.inl ⟨kept, ?_, ?_⟩)
      · rw [← Bool.not_eq_true]
        intro otherStarting
        exact elsewhere (exclusive.starting i id other thread kept found otherStarting starting)
      · intro running
        exact (exclusive.quiet id i thread other found kept starting running).2
    · cases spawned.symm.trans isNew
      exact Or.inr (Or.inr ⟨new, rfl⟩)
  have noneStarting : forall (i : Nat) (other : Thread),
      (before.record id outcome).threads[i]? = some other -> other.starting = false := by
    intro i other isOther
    rcases cases i other isOther with idle | ⟨_, starting, _⟩ | ⟨_, rfl⟩
    · exact idle.starting
    · exact starting
    · rfl
  have iceStop : (before.record id outcome).shared.client.iceStop =
      before.shared.client.iceStop := by
    change outcome.shared.client.iceStop = _
    rw [same]
  have iceAgent : (before.record id outcome).shared.client.iceAgent =
      before.shared.client.iceAgent := by
    change outcome.shared.client.iceAgent = _
    rw [same]
  have current := exclusive.flag id thread stop found flag
  refine ⟨?_, ?_, ?_, ?_, ?_⟩
  · intro i j first second isFirst _ starting
    cases (noneStarting i first isFirst).symm.trans starting
  · intro i j first second isFirst _ starting
    cases (noneStarting i first isFirst).symm.trans starting
  · intro i j first second isFirst isSecond runsFirst runsSecond same
    rcases cases i first isFirst with idle | ⟨oldFirst, _, tickFirst⟩ | ⟨newFirst, rfl⟩
    · cases idle.running.symm.trans runsFirst
    · rcases cases j second isSecond with idle | ⟨oldSecond, _, _⟩ | ⟨_, rfl⟩
      · cases idle.running.symm.trans runsSecond
      · exact exclusive.running i j first second oldFirst oldSecond runsFirst runsSecond same
      · cases (tickFirst runsFirst).symm.trans same
    · rcases cases j second isSecond with idle | ⟨_, _, tickSecond⟩ | ⟨newSecond, _⟩
      · cases idle.running.symm.trans runsSecond
      · cases same.trans (tickSecond runsSecond)
      · rw [newFirst, newSecond]
  · intro i other otherStop isOther isFlag
    rw [iceStop]
    rcases cases i other isOther with idle | ⟨old, _, _⟩ | ⟨_, rfl⟩
    · cases idle.flag.symm.trans isFlag
    · exact exclusive.flag i other otherStop old isFlag
    · cases isFlag
      exact current
  · intro i other session owned isOther relies agent
    rw [iceAgent] at agent
    rcases cases i other isOther with idle | ⟨old, _, _⟩ | ⟨_, rfl⟩
    · cases (idle.session i).symm.trans relies
    · exact exclusive.owner i other session owned old relies agent
    · cases relies

end Begins

end World

end P2pSdk
