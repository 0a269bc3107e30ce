import P2pSdk.Client.Leftovers

namespace P2pSdk

open Foundation

/-!
# Detection of a lost peer (`client.rs`)

The tick thread reports `Disconnected` when `last_recv_instant` is older than
two heartbeat intervals.  The receive thread writes that time, and nothing ever
clears it: it is missing until the first datagram of the first session, and a
later session starts with what an earlier one left.

Time is a clock that only the environment moves.  A timed world remembers, for
every session, when its tick thread first saw the agent completed and when its
latest application datagram was recorded, and the verdict of every iteration.
A session is known by the background thread that made its threads.
-/

/-- When a session was first seen completed, and its latest application datagram. -/
structure SessionTimes where
  completed : Option Nat
  received : Option Nat
  deriving DecidableEq, Repr

/-- The later of the two, once the session is completed. -/
def SessionTimes.since (times : SessionTimes) : Option Nat :=
  times.completed.map fun completed =>
    match times.received with
    | some received => max completed received
    | none => completed

/-- What an iteration of a tick thread that last observed `Completed` decided,
and when. -/
structure Verdict where
  hbSecs : Nat
  now : Nat
  since : Option Nat
  reported : Bool
  deriving DecidableEq, Repr

/-- The report is made if and only if two heartbeat intervals have passed. -/
def Verdict.Timely (verdict : Verdict) : Prop :=
  exists since, verdict.since = some since ∧
    (verdict.reported = true ↔ verdict.hbSecs * 2 * 1000 ≤ verdict.now - since)

structure TimedWorld where
  world : World
  clock : Nat
  sessions : Nat -> SessionTimes
  verdicts : List Verdict

inductive TimedEvent where
  | elapse (ms : Nat)
  | client (event : Event)

/-- The heartbeat interval that an iteration goes by, from where it is read to
where the iteration decides. -/
def TickThread.hbSecs (self : TickThread) (client : Client) : Option Nat :=
  match self.pc with
  | .readHeartbeat => some client.heartbeatIntervalSecs
  | .sendHeartbeat hbSecs => some hbSecs
  | .checkTimeout hbSecs => some hbSecs
  | _ => none

/-- The decision of an iteration that last observed `Completed`, in the step
that ends it or goes on to report. -/
def TickThread.decides (self moved : TickThread) (client : Client) : Option (Nat × Bool) :=
  match self.hbSecs client with
  | some hbSecs =>
      if 0 < hbSecs ∧ self.lastState = some .completed then
        match moved.pc with
        | .checkStop => some (hbSecs, false)
        | .fireTimeout .take => some (hbSecs, true)
        | _ => none
      else none
  | none => none

namespace TimedWorld

/-- A client before its first call. -/
def new (io onStateChange onData onLog : Bool) : TimedWorld where
  world := World.new io onStateChange onData onLog
  clock := 0
  sessions := fun _ => ⟨none, none⟩
  verdicts := []

/-- The timeout check reads the clock in the block that uses it.  The receive
thread reads it before it has the lock. -/
def Reads (timed : TimedWorld) (id : Nat) (input : Input) : Prop :=
  match input, timed.world.threads[id]? with
  | .instant now, some (.tick _) => now = timed.clock
  | .instant now, _ => now ≤ timed.clock
  | _, _ => True

instance (timed : TimedWorld) (id : Nat) (input : Input) : Decidable (timed.Reads id input) := by
  unfold Reads
  split <;> infer_instance

/-- The times of a session after its receive thread has recorded a datagram. -/
def receive (timed : TimedWorld) (self : RecvThread) (input : Input) : Nat -> SessionTimes :=
  match self.pc, input with
  | .storeInstant _ _, .instant now =>
      Function.update timed.sessions self.starter
        { timed.sessions self.starter with received := some now }
  | _, _ => timed.sessions

/-- The times of a session after its tick thread has observed a state. -/
def observe (timed : TimedWorld) (moved : TickThread) : Nat -> SessionTimes :=
  if moved.lastState = some .completed ∧ (timed.sessions moved.starter).completed = none then
    Function.update timed.sessions moved.starter
      { timed.sessions moved.starter with completed := some timed.clock }
  else timed.sessions

/-- The verdict of a step of a tick thread, if it makes one. -/
def judge (timed : TimedWorld) (self moved : TickThread) : List Verdict :=
  match self.decides moved timed.world.shared.client with
  | some (hbSecs, reported) =>
      [{ hbSecs := hbSecs
         now := timed.clock
         since := (timed.sessions self.starter).since
         reported := reported }]
  | none => []

/-- The world after a step of the thread at `id`, with what is remembered of it. -/
def record (timed : TimedWorld) (id : Nat) (input : Input) (after : World) : TimedWorld :=
  match timed.world.threads[id]?, after.threads[id]? with
  | some (.tick self), some (.tick moved) =>
      { timed with
        world := after
        sessions := timed.observe moved
        verdicts := timed.judge self moved ++ timed.verdicts }
  | some (.recv self), _ => { timed with world := after, sessions := timed.receive self input }
  | _, _ => { timed with world := after }

def apply (env : Environment) (timed : TimedWorld) : TimedEvent -> Option TimedWorld
  | .elapse ms => some { timed with clock := timed.clock + ms }
  | .client (.run id input) =>
      if timed.Reads id input then
        (timed.world.apply env (.run id input)).map (timed.record id input)
      else none
  | .client event => (timed.world.apply env event).map fun after => { timed with world := after }

/-- Every iteration that last observed `Completed` reports when it must, and
only then. -/
def DetectsLoss (timed : TimedWorld) : Prop :=
  forall verdict, verdict ∈ timed.verdicts -> verdict.Timely

/-- No tick thread of another session than `starter` runs. -/
def NoOther (timed : TimedWorld) (starter : Nat) : Prop :=
  forall thread, thread ∈ timed.world.threads -> thread.running = true ->
    forall other, other ∈ thread.madeBy -> other = starter

/-- The session has recorded a datagram since it was first seen completed, or
it makes no difference.  Without any datagram the interval must still be
running; after an earlier one it must still be running since that one, or have
passed since the completion as well. -/
def Heard (timed : TimedWorld) (starter hbSecs : Nat) : Prop :=
  match timed.sessions starter with
  | ⟨some completed, received⟩ =>
      received.any (fun instant => completed ≤ instant) = true ∨
      match timed.world.shared.client.lastRecvInstant with
      | some instant =>
          timed.clock < instant + hbSecs * 2 * 1000 ∨ completed + hbSecs * 2 * 1000 ≤ timed.clock
      | none => timed.clock < completed + hbSecs * 2 * 1000
  | ⟨none, _⟩ => True

/-- Datagrams are recorded while no tick thread of another session runs, and
timeouts are checked by sessions that have heard of their peer. -/
def InSession (before : TimedWorld) : TimedEvent -> Prop
  | .client (.run id _) =>
      match before.world.threads[id]? with
      | some (.recv ⟨starter, _, .storeInstant _ _⟩) => before.NoOther starter
      | some (.tick ⟨starter, _, _, _, _, .checkTimeout hbSecs⟩) => before.Heard starter hbSecs
      | _ => True
  | _ => True

end TimedWorld

/-- All runs of one client in time. -/
def timedSystem (env : Environment) : TransitionSystem TimedWorld TimedEvent where
  initial := fun timed => exists io onStateChange onData onLog,
    timed = TimedWorld.new io onStateChange onData onLog
  step := fun before event after => before.apply env event = some after

namespace TimedWorld

/-! ## Steps -/

section Steps

variable {env : Environment} {before after : TimedWorld} {id : Nat} {input : Input}

theorem apply_run (applied : before.apply env (.client (.run id input)) = some after) :
    before.Reads id input ∧ exists thread outcome, before.world.threads[id]? = some thread ∧
      thread.step env before.world.shared before.world.threads id input = some outcome ∧
      after = before.record id input (before.world.record id outcome) := by
  simp only [apply] at applied
  split_ifs at applied with reads
  rcases Option.map_eq_some_iff.mp applied with ⟨world, isWorld, rfl⟩
  rcases World.apply_run isWorld with ⟨thread, outcome, found, stepped, rfl⟩
  exact ⟨reads, thread, outcome, found, stepped, rfl⟩

theorem record_tick {self : TickThread} {inner : Outcome Shared TickThread Note}
    (found : before.world.threads[id]? = some (.tick self)) :
    before.record id input (before.world.record id (inner.map .tick)) =
      { before with
        world := before.world.record id (inner.map .tick)
        sessions := before.observe inner.thread
        verdicts := before.judge self inner.thread ++ before.verdicts } := by
  have moved : (before.world.record id (inner.map .tick)).threads[id]? =
      some (.tick inner.thread) :=
    threadsAfter_self (List.getElem?_eq_some_iff.mp found).1
  unfold record
  rw [found, moved]

theorem record_recv {self : RecvThread} {world : World}
    (found : before.world.threads[id]? = some (.recv self)) :
    before.record id input world =
      { before with world := world, sessions := before.receive self input } := by
  unfold record
  rw [found]

theorem record_other {thread : Thread} {world : World}
    (found : before.world.threads[id]? = some thread) (notTick : forall self, thread ≠ .tick self)
    (notRecv : forall self, thread ≠ .recv self) :
    before.record id input world = { before with world := world } := by
  unfold record
  rw [found]
  cases thread with
  | tick self => exact absurd rfl (notTick self)
  | recv self => exact absurd rfl (notRecv self)
  | _ => rfl

theorem record_world {world : World} : (before.record id input world).world = world := by
  unfold record
  split <;> rfl

/-- A receive thread records for its own session. -/
theorem receive_of_ne {self : RecvThread} {starter : Nat} (timed : TimedWorld)
    (other : starter ≠ self.starter) :
    timed.receive self input starter = timed.sessions starter := by
  unfold receive
  cases self.pc with
  | storeInstant udp appData =>
      cases input with
      | instant now => exact Function.update_of_ne other _ _
      | _ => rfl
  | _ => rfl

/-- So does a tick thread. -/
theorem observe_of_ne {moved : TickThread} {starter : Nat} (timed : TimedWorld)
    (other : starter ≠ moved.starter) : timed.observe moved starter = timed.sessions starter := by
  unfold observe
  split_ifs
  · exact Function.update_of_ne other _ _
  · rfl

end Steps

/-! ## Threads and sessions -/

/-- The background thread at an index has spawned its tick thread. -/
def Spawned (world : World) (starter : Nat) : Prop :=
  exists thread, world.threads[starter]? = some thread ∧ thread.spawnedTick = true

/-- What is remembered of sessions comes from threads that were spawned. -/
structure Origins (timed : TimedWorld) : Prop where
  tick : forall (i : Nat) (thread : Thread) (owner : Nat), timed.world.threads[i]? = some thread ->
    thread.madeBy = some owner -> Spawned timed.world owner
  recv : forall (i : Nat) (self : RecvThread), timed.world.threads[i]? = some (.recv self) ->
    self.pc ≠ .finished -> Spawned timed.world self.starter
  session : forall starter, timed.sessions starter ≠ ⟨none, none⟩ -> Spawned timed.world starter

section Origins

variable {env : Environment} {before after : TimedWorld} {id : Nat} {input : Input}

theorem Spawned.later {first second : World} {starter : Nat} (spawned : Spawned first starter)
    (continues : World.Continues first second) : Spawned second starter := by
  rcases spawned with ⟨thread, found, isSpawned⟩
  rcases continues.thread starter thread found with ⟨later, isLater, grows⟩
  exact ⟨later, isLater, grows.spawnedTick isSpawned⟩

/-- A step keeps origins when its receive threads and new times have one. -/
theorem Origins.of_continues (origins : Origins before)
    (continues : World.Continues before.world after.world)
    (recv : forall (i : Nat) (self : RecvThread), after.world.threads[i]? = some (.recv self) ->
      self.pc ≠ .finished -> (exists earlier : RecvThread,
        before.world.threads[i]? = some (.recv earlier) ∧ earlier.pc ≠ .finished ∧
          earlier.starter = self.starter) ∨ Spawned after.world self.starter)
    (session : forall starter, after.sessions starter ≠ ⟨none, none⟩ ->
      before.sessions starter ≠ ⟨none, none⟩ ∨ Spawned before.world starter) :
    Origins after := by
  refine ⟨?_, ?_, ?_⟩
  · intro i thread owner found madeBy
    rcases continues.madeBy i thread owner found madeBy with
      ⟨earlier, isEarlier, earlierMadeBy⟩ | ⟨_, _, spawned⟩
    · exact (origins.tick i earlier owner isEarlier earlierMadeBy).later continues
    · exact spawned
  · intro i self found unfinished
    rcases recv i self found unfinished with ⟨earlier, isEarlier, wasUnfinished, same⟩ | spawned
    · rw [← same]
      exact (origins.recv i earlier isEarlier wasUnfinished).later continues
    · exact spawned
  · intro starter known
    rcases session starter known with wasKnown | spawned
    · exact (origins.session starter wasKnown).later continues
    · exact spawned.later continues

theorem Origins.run (origins : Origins before)
    (applied : before.apply env (.client (.run id input)) = some after) : Origins after := by
  rcases apply_run applied with ⟨_, thread, outcome, found, stepped, rfl⟩
  have inside := (List.getElem?_eq_some_iff.mp found).1
  have continues := World.continues_record found (World.step_ages stepped)
  refine origins.of_continues (by rw [record_world]; exact continues) ?_ ?_
  · intro i self isRecv unfinished
    rw [record_world] at isRecv ⊢
    rcases threadsAfter_cases inside isRecv with ⟨rfl, same⟩ | ⟨_, kept⟩ | ⟨_, spawned⟩
    · rcases Thread.recv_of_step stepped same.symm with ⟨earlier, inner, rfl, isInner, rfl⟩
      cases same
      exact Or.inl ⟨earlier, found, RecvThread.not_finished_of_step isInner,
        (RecvThread.step_keeps isInner).starter.symm⟩
    · exact Or.inl ⟨self, kept, unfinished, rfl⟩
    · rcases Thread.step_spawnsRecv stepped spawned unfinished with ⟨rfl, isSpawned⟩
      exact Or.inr ⟨outcome.thread, threadsAfter_self inside, isSpawned⟩
  · intro starter known
    cases thread with
    | tick self =>
        rcases Option.map_eq_some_iff.mp stepped with ⟨inner, isInner, rfl⟩
        rw [record_tick found] at known
        by_cases own : starter = inner.thread.starter
        · refine Or.inr (origins.tick id (.tick self) starter found ?_)
          rw [own, (TickThread.step_keeps isInner).starter]
          rfl
        · exact Or.inl (before.observe_of_ne own ▸ known)
    | recv self =>
        rcases Option.map_eq_some_iff.mp stepped with ⟨inner, isInner, rfl⟩
        rw [record_recv found] at known
        by_cases own : starter = self.starter
        · rw [own]
          exact Or.inr (origins.recv id self found (RecvThread.not_finished_of_step isInner))
        · exact Or.inl (before.receive_of_ne own ▸ known)
    | _ =>
        rw [record_other found (fun _ => nofun) (fun _ => nofun)] at known
        exact Or.inl known

/-- A call appends threads of other kinds. -/
theorem Origins.call {world : World} (origins : Origins before) (calls : List Thread)
    (threads : world.threads = before.world.threads ++ calls)
    (idle : forall call, call ∈ calls -> call.Idle ∧ call.madeBy = none) :
    Origins { before with world := world } := by
  have continues : World.Continues before.world world :=
    World.continues_call calls threads fun call member => (idle call member).2
  refine origins.of_continues continues ?_ (fun _ known => Or.inl known)
  intro i self isRecv unfinished
  change world.threads[i]? = _ at isRecv
  rw [threads] at isRecv
  rcases Nat.lt_or_ge i before.world.threads.length with old | new
  · rw [List.getElem?_append_left old] at isRecv
    exact Or.inl ⟨self, isRecv, unfinished, rfl⟩
  · rw [List.getElem?_append_right new] at isRecv
    have isIdle := (idle _ (List.mem_of_getElem? isRecv)).1
    exact absurd (by simpa [Thread.running] using isIdle.running) unfinished

end Origins

/-! ## The verdicts of one session -/

/-- The time of the last datagram is that of the session, or earlier than its
completion. -/
def Current (times : SessionTimes) (lastRecvInstant : Option Nat) : Prop :=
  match times with
  | ⟨_, some received⟩ => lastRecvInstant = some received
  | ⟨completed, none⟩ => forall instant, instant ∈ completed ->
      forall earlier, earlier ∈ lastRecvInstant -> earlier ≤ instant

structure Tracks (timed : TimedWorld) : Prop where
  past : forall instant, timed.world.shared.client.lastRecvInstant = some instant ->
    instant ≤ timed.clock
  current : forall (i : Nat) (self : TickThread), timed.world.threads[i]? = some (.tick self) ->
    self.pc ≠ .finished ->
      Current (timed.sessions self.starter) timed.world.shared.client.lastRecvInstant
  observed : forall (i : Nat) (self : TickThread), timed.world.threads[i]? = some (.tick self) ->
    self.lastState = some .completed -> (timed.sessions self.starter).completed ≠ none
  timely : timed.DetectsLoss

/-- Where the session is current, the code's test gives the right verdict
exactly when the session has heard of its peer, or it makes no difference. -/
theorem timedOut_right_iff {timed : TimedWorld} {starter hbSecs : Nat}
    (positive : 0 < hbSecs)
    (current : Current (timed.sessions starter) timed.world.shared.client.lastRecvInstant)
    (completed : (timed.sessions starter).completed ≠ none) :
    Verdict.Timely
      { hbSecs := hbSecs
        now := timed.clock
        since := (timed.sessions starter).since
        reported := TickThread.timedOut timed.world.shared.client.lastRecvInstant hbSecs
          timed.clock } ↔ timed.Heard starter hbSecs := by
  unfold Current at current
  unfold Heard Verdict.Timely
  cases times : timed.sessions starter with
  | mk completion received =>
      rw [times] at current completed
      cases completion with
      | none => exact absurd rfl completed
      | some instant =>
          cases received with
          | some latest =>
              simp only at current
              simp only [current, SessionTimes.since, TickThread.timedOut, Option.map_some,
                Option.some.injEq, exists_eq_left', decide_eq_true_eq, Option.any_some]
              omega
          | none =>
              cases last : timed.world.shared.client.lastRecvInstant with
              | none =>
                  simp only [SessionTimes.since, TickThread.timedOut, Option.map_some,
                    Option.some.injEq, exists_eq_left', Bool.false_eq_true, false_iff,
                    Option.any_none, false_or]
                  omega
              | some earlier =>
                  have order := current instant rfl earlier last
                  simp only [SessionTimes.since, TickThread.timedOut, Option.map_some,
                    Option.some.injEq, exists_eq_left', decide_eq_true_eq, Option.any_none,
                    Bool.false_eq_true, false_or]
                  omega

/-- An iteration decides in its timeout check. -/
theorem checks_of_decides {env : Environment} {self : TickThread} {shared : Shared} {input : Input}
    {inner : Outcome Shared TickThread Note} {hbSecs : Nat} {reported : Bool}
    (stepped : self.step env shared input = some inner)
    (decides : self.decides inner.thread shared.client = some (hbSecs, reported)) :
    0 < hbSecs ∧ self.lastState = some .completed ∧ self.pc = .checkTimeout hbSecs ∧
      exists now, input = .instant now ∧
        reported = TickThread.timedOut shared.client.lastRecvInstant hbSecs now := by
  unfold TickThread.decides TickThread.hbSecs at decides
  unfold TickThread.step at stepped
  cases pc : self.pc with
  | readHeartbeat =>
      simp only [pc] at decides stepped
      split_ifs at decides with running
      -- With these values the iteration goes on to the check.
      cases stepped
      simp only [TickThread.goto, TickThread.afterHeartbeatInterval, if_pos running] at decides
      by_cases due : shared.client.heartbeatIntervalSecs * 1000 ≤ self.nowMs - self.lastHeartbeatMs
      · simp only [if_pos due] at decides
        cases decides
      · simp only [if_neg due] at decides
        cases decides
  | sendHeartbeat interval =>
      simp only [pc] at decides stepped
      split_ifs at decides with running
      cases stepped
      cases decides
  | checkTimeout interval =>
      simp only [pc] at decides stepped
      split_ifs at decides with running
      cases input with
      | instant now =>
          simp only at stepped
          by_cases late : TickThread.timedOut shared.client.lastRecvInstant interval now = true
          · rw [if_pos late] at stepped
            cases stepped
            cases decides
            exact ⟨running.1, running.2, rfl, now, rfl, late.symm⟩
          · rw [if_neg late] at stepped
            cases stepped
            cases decides
            exact ⟨running.1, running.2, rfl, now, rfl, (Bool.not_eq_true _).mp late |>.symm⟩
      | _ => cases stepped
  | _ =>
      simp only [pc] at decides
      cases decides

section Tracks

variable {env : Environment} {before after : TimedWorld} {id : Nat} {input : Input}

theorem Tracks.elapse (tracks : Tracks before) (ms : Nat) :
    Tracks { before with clock := before.clock + ms } where
  past := fun instant last => (tracks.past instant last).trans (Nat.le_add_right _ ms)
  current := tracks.current
  observed := tracks.observed
  timely := tracks.timely

/-- A call appends threads that are no tick threads, and leaves the times alone. -/
theorem Tracks.call {world : World} (tracks : Tracks before) (calls : List Thread)
    (threads : world.threads = before.world.threads ++ calls)
    (idle : forall call, call ∈ calls -> call.Idle ∧ call.madeBy = none)
    (same : world.shared.client.lastRecvInstant = before.world.shared.client.lastRecvInstant) :
    Tracks { before with world := world } := by
  have old : forall (i : Nat) (self : TickThread), world.threads[i]? = some (.tick self) ->
      before.world.threads[i]? = some (.tick self) := by
    intro i self found
    rw [threads] at found
    rcases Nat.lt_or_ge i before.world.threads.length with inside | new
    · rwa [List.getElem?_append_left inside] at found
    · rw [List.getElem?_append_right new] at found
      cases (idle _ (List.mem_of_getElem? found)).2
  refine ⟨?_, ?_, ?_, tracks.timely⟩
  · intro instant last
    exact tracks.past instant (same ▸ last)
  · intro i self found unfinished
    change Current (before.sessions self.starter) world.shared.client.lastRecvInstant
    rw [same]
    exact tracks.current i self (old i self found) unfinished
  · intro i self found completed
    exact tracks.observed i self (old i self found) completed

/-- Times that are known stay known when a tick thread observes a state. -/
theorem observe_completed {moved : TickThread} {starter : Nat} (timed : TimedWorld)
    (known : (timed.sessions starter).completed ≠ none) :
    timed.observe moved starter = timed.sessions starter := by
  unfold observe
  split_ifs with first
  · refine Function.update_of_ne ?_ _ _
    rintro rfl
    exact known first.2
  · rfl

/-- When a session is seen completed, everything recorded is earlier. -/
theorem Current.observe {moved : TickThread} {starter : Nat} (tracks : Tracks before)
    (current : Current (before.sessions starter) before.world.shared.client.lastRecvInstant) :
    Current (before.observe moved starter) before.world.shared.client.lastRecvInstant := by
  by_cases first : moved.lastState = some .completed ∧
      (before.sessions moved.starter).completed = none
  · by_cases own : starter = moved.starter
    · subst own
      simp only [TimedWorld.observe, if_pos first, Function.update_self]
      cases times : before.sessions moved.starter with
      | mk completed received =>
          rw [times] at current
          cases received with
          | some latest => exact current
          | none =>
              intro instant now earlier last
              cases now
              exact tracks.past earlier last
    · rw [before.observe_of_ne own]
      exact current
  · simp only [TimedWorld.observe, if_neg first]
    exact current

theorem Tracks.tick {self : TickThread} {inner : Outcome Shared TickThread Note}
    (tracks : Tracks before) (found : before.world.threads[id]? = some (.tick self))
    (reads : before.Reads id input) (inSession : before.InSession (.client (.run id input)))
    (stepped : self.step env before.world.shared input = some inner) :
    Tracks (before.record id input (before.world.record id (inner.map .tick))) := by
  rw [record_tick found]
  have inside := (List.getElem?_eq_some_iff.mp found).1
  have kept := TickThread.step_keeps stepped
  have same := (TickThread.step_touches stepped).remembers.lastRecvInstant
  have cases_of : forall (i : Nat) (other : TickThread),
      (before.world.record id (inner.map .tick)).threads[i]? = some (.tick other) ->
      (i = id ∧ other = inner.thread) ∨ (before.world.threads[i]? = some (.tick other)) := by
    intro i other isOther
    rcases threadsAfter_cases inside isOther with ⟨here, moved⟩ | ⟨_, old⟩ | ⟨_, spawned⟩
    · cases moved
      exact Or.inl ⟨here, rfl⟩
    · exact Or.inr old
    · cases (congrArg (Option.map Thread.tick) kept.spawned).symm.trans spawned
  refine ⟨?_, ?_, ?_, ?_⟩
  · intro instant last
    exact tracks.past instant (same ▸ last)
  · intro i other isOther unfinished
    change Current (before.observe inner.thread other.starter)
      inner.shared.client.lastRecvInstant
    rw [same]
    refine Current.observe tracks ?_
    rcases cases_of i other isOther with ⟨_, rfl⟩ | old
    · rw [kept.starter]
      exact tracks.current id self found (TickThread.not_finished_of_step stepped)
    · exact tracks.current i other old unfinished
  · intro i other isOther completed
    by_cases known : (before.sessions other.starter).completed = none
    · rcases cases_of i other isOther with ⟨_, rfl⟩ | old
      · simp only [TimedWorld.observe, if_pos (And.intro completed known), Function.update_self]
        exact Option.some_ne_none _
      · exact absurd known (tracks.observed i other old completed)
    · change (before.observe inner.thread other.starter).completed ≠ none
      rw [before.observe_completed known]
      exact known
  · intro verdict member
    rcases List.mem_append.mp member with new | old
    · unfold judge at new
      cases decides : self.decides inner.thread before.world.shared.client with
      | none =>
          rw [decides] at new
          cases new
      | some decision =>
          rcases decision with ⟨hbSecs, reported⟩
          rw [decides] at new
          rcases checks_of_decides stepped decides with
            ⟨positive, completed, pc, now, rfl, rfl⟩
          cases List.mem_singleton.mp new
          have current := tracks.current id self found (TickThread.not_finished_of_step stepped)
          have known := tracks.observed id self found completed
          have atClock : now = before.clock := by
            simpa only [Reads, found] using reads
          rw [atClock]
          refine (timedOut_right_iff positive current known).mpr ?_
          rcases self with ⟨starter, stop, nowMs, lastState, lastHeartbeatMs, _⟩
          cases pc
          simpa only [InSession, found] using inSession
    · exact tracks.timely verdict old

theorem Tracks.recv {self : RecvThread} {inner : Outcome Shared RecvThread Note}
    (tracks : Tracks before) (found : before.world.threads[id]? = some (.recv self))
    (reads : before.Reads id input) (inSession : before.InSession (.client (.run id input)))
    (stepped : self.step before.world.shared input = some inner) :
    Tracks (before.record id input (before.world.record id (inner.map .recv))) := by
  rw [record_recv found]
  have inside := (List.getElem?_eq_some_iff.mp found).1
  have kept := RecvThread.step_keeps stepped
  have old : forall (i : Nat) (other : TickThread),
      (before.world.record id (inner.map .recv)).threads[i]? = some (.tick other) ->
      before.world.threads[i]? = some (.tick other) := by
    intro i other isOther
    rcases threadsAfter_cases inside isOther with ⟨_, moved⟩ | ⟨_, old⟩ | ⟨_, spawned⟩
    · cases moved
    · exact old
    · cases (congrArg (Option.map Thread.recv) kept.spawned).symm.trans spawned
  by_cases storing : exists udp appData now, self.pc = .storeInstant udp appData ∧
      input = .instant now
  · rcases storing with ⟨udp, appData, now, pc, rfl⟩
    have past : now ≤ before.clock := by
      simpa only [Reads, found] using reads
    have noOther : before.NoOther self.starter := by
      rcases self with ⟨starter, stop, _⟩
      cases pc
      simpa only [InSession, found] using inSession
    have received : before.receive self (.instant now) = Function.update before.sessions
        self.starter { before.sessions self.starter with received := some now } := by
      unfold receive
      rw [pc]
    have last : inner.shared.client.lastRecvInstant = some now := by
      simp only [RecvThread.step, pc] at stepped
      cases stepped
      rfl
    rw [received]
    refine ⟨?_, ?_, ?_, tracks.timely⟩
    · intro instant isLast
      cases last.symm.trans isLast
      exact past
    · intro i other isOther unfinished
      have running : (Thread.tick other).running = true := decide_eq_true unfinished
      have own : other.starter = self.starter :=
        noOther _ (List.mem_of_getElem? (old i other isOther)) running _ rfl
      change Current (Function.update before.sessions self.starter _ other.starter) _
      rw [own, Function.update_self]
      exact last
    · intro i other isOther completed
      have known := tracks.observed i other (old i other isOther) completed
      change (Function.update before.sessions self.starter _ other.starter).completed ≠ none
      by_cases own : other.starter = self.starter
      · rw [own] at known ⊢
        rw [Function.update_self]
        exact known
      · rw [Function.update_of_ne own]
        exact known
  · have received : before.receive self input = before.sessions := by
      unfold receive
      split
      · exact absurd ⟨_, _, _, ‹_›, rfl⟩ storing
      · rfl
    have same : inner.shared.client.lastRecvInstant =
        before.world.shared.client.lastRecvInstant := by
      rcases (RecvThread.step_touches stepped).writes with
        remembers | ⟨udp, appData, now, pc, isInput, _⟩ | ⟨seqId, payload, _, written⟩
      · exact remembers.lastRecvInstant
      · exact absurd ⟨udp, appData, now, pc, isInput⟩ storing
      · rw [written]
    rw [received]
    refine ⟨?_, ?_, ?_, tracks.timely⟩
    · intro instant isLast
      exact tracks.past instant (same ▸ isLast)
    · intro i other isOther unfinished
      change Current (before.sessions other.starter) inner.shared.client.lastRecvInstant
      rw [same]
      exact tracks.current i other (old i other isOther) unfinished
    · intro i other isOther completed
      exact tracks.observed i other (old i other isOther) completed

theorem Tracks.other {thread : Thread} {outcome : Outcome Shared Thread Note}
    (tracks : Tracks before) (origins : Origins before)
    (found : before.world.threads[id]? = some thread) (notTick : forall self, thread ≠ .tick self)
    (notRecv : forall self, thread ≠ .recv self)
    (stepped : thread.step env before.world.shared before.world.threads id input = some outcome) :
    Tracks (before.record id input (before.world.record id outcome)) := by
  rw [record_other found notTick notRecv]
  have same := (Thread.step_remembers notRecv stepped).lastRecvInstant
  have continues := World.continues_record found (World.step_ages stepped)
  -- A tick thread after the step was there before, or its session is new.
  have cases_of : forall (i : Nat) (self : TickThread),
      (before.world.record id outcome).threads[i]? = some (.tick self) ->
      before.world.threads[i]? = some (.tick self) ∨
        (self.lastState = none ∧ before.sessions self.starter = ⟨none, none⟩) := by
    intro i self isTick
    rcases threadsAfter_cases (List.getElem?_eq_some_iff.mp found).1 isTick with
      ⟨_, moved⟩ | ⟨_, old⟩ | ⟨new, spawned⟩
    · have madeBy := (World.step_ages stepped).grows.madeBy
      rw [← moved] at madeBy
      cases thread with
      | tick earlier => exact absurd rfl (notTick earlier)
      | _ => cases madeBy
    · exact Or.inl old
    · have unseen : self.lastState = none := by
        rcases Thread.step_spawnsTick stepped spawned with ⟨stop, rfl⟩
        rfl
      refine Or.inr ⟨unseen, ?_⟩
      rcases continues.madeBy i _ self.starter isTick rfl with
        ⟨earlier, isEarlier, _⟩ | ⟨_, ⟨starter, isStarter, unspawned⟩, _⟩
      · have := (List.getElem?_eq_some_iff.mp isEarlier).1
        omega
      · by_contra known
        rcases origins.session self.starter known with ⟨other, isOther, isSpawned⟩
        cases isStarter.symm.trans isOther
        cases unspawned.symm.trans isSpawned
  refine ⟨?_, ?_, ?_, tracks.timely⟩
  · intro instant last
    exact tracks.past instant (same ▸ last)
  · intro i self isTick unfinished
    change Current (before.sessions self.starter) outcome.shared.client.lastRecvInstant
    rcases cases_of i self isTick with old | ⟨_, new⟩
    · rw [same]
      exact tracks.current i self old unfinished
    · rw [new]
      intro instant contrary
      cases contrary
  · intro i self isTick completed
    rcases cases_of i self isTick with old | ⟨unobserved, _⟩
    · exact tracks.observed i self old completed
    · cases unobserved.symm.trans completed

end Tracks

section Runs

variable {env : Environment} {timed : TimedWorld}

theorem origins_of_reachable (reachable : (timedSystem env).Reachable timed) : Origins timed := by
  refine reachable.invariant Origins ?_ ?_
  · rintro timed ⟨io, onStateChange, onData, onLog, rfl⟩
    refine ⟨?_, ?_, ?_⟩
    · intro i thread owner contrary
      cases contrary
    · intro i self contrary
      cases contrary
    · intro starter contrary
      exact absurd rfl contrary
  · intro before event after origins applied
    cases event with
    | elapse ms =>
        cases applied
        exact ⟨origins.tick, origins.recv, origins.session⟩
    | client event =>
        cases event with
        | connect heartbeatIntervalSecs =>
            cases applied
            rcases before.world.callConnect_threads heartbeatIntervalSecs with
              ⟨calls, threads, idle⟩
            exact origins.call calls threads idle
        | close =>
            cases applied
            rcases before.world.callClose_threads with ⟨calls, threads, idle⟩
            exact origins.call calls threads idle
        | run id input => exact origins.run applied

theorem tracks_of_reachable
    (reachable : ((timedSystem env).restrict InSession).Reachable timed) : Tracks timed := by
  refine reachable.invariant_of_reachable Tracks ?_ ?_
  · rintro timed ⟨io, onStateChange, onData, onLog, rfl⟩
    refine ⟨?_, ?_, ?_, ?_⟩
    · intro instant contrary
      cases contrary
    · intro i self contrary
      cases contrary
    · intro i self contrary
      cases contrary
    · intro verdict contrary
      cases contrary
  · rintro before event after earlier tracks ⟨inSession, applied⟩
    cases event with
    | elapse ms =>
        cases applied
        exact tracks.elapse ms
    | client event =>
        cases event with
        | connect heartbeatIntervalSecs =>
            cases applied
            rcases before.world.callConnect_threads heartbeatIntervalSecs with
              ⟨calls, threads, idle⟩
            exact tracks.call calls threads idle rfl
        | close =>
            cases applied
            rcases before.world.callClose_threads with ⟨calls, threads, idle⟩
            exact tracks.call calls threads idle rfl
        | run id input =>
            rcases apply_run applied with ⟨reads, thread, outcome, found, stepped, rfl⟩
            cases thread with
            | tick self =>
                rcases Option.map_eq_some_iff.mp stepped with ⟨inner, isInner, rfl⟩
                exact tracks.tick found reads inSession isInner
            | recv self =>
                rcases Option.map_eq_some_iff.mp stepped with ⟨inner, isInner, rfl⟩
                exact tracks.recv found reads inSession isInner
            | _ =>
                exact tracks.other (origins_of_reachable earlier.of_restrict) found
                  (fun _ => nofun) (fun _ => nofun) stepped

/-- In every run in which sessions do not overlap and every timeout check finds
that its session has heard of the peer, or that it makes no difference, the
loss of the peer is reported when two intervals have passed, and only then. -/
theorem detects_loss
    (reachable : ((timedSystem env).restrict InSession).Reachable timed) : timed.DetectsLoss :=
  (tracks_of_reachable reachable).timely

end Runs

/-! ## Concrete runs -/

instance (timed : TimedWorld) (starter : Nat) : Decidable (timed.NoOther starter) :=
  inferInstanceAs (Decidable (forall thread, thread ∈ timed.world.threads ->
    thread.running = true -> forall other, other ∈ thread.madeBy -> other = starter))

instance (timed : TimedWorld) (starter hbSecs : Nat) : Decidable (timed.Heard starter hbSecs) := by
  unfold Heard
  split
  · split <;> infer_instance
  · infer_instance

instance (before : TimedWorld) (event : TimedEvent) : Decidable (before.InSession event) := by
  unfold InSession
  split
  · split <;> infer_instance
  · infer_instance

/-- A run of a client with all callbacks, and a test of the state it ends in. -/
theorem exists_timed {env : Environment} {allowed : TimedWorld -> TimedEvent -> Bool}
    (condition : TimedWorld -> TimedEvent -> Prop)
    (meets : forall timed event, allowed timed event = true -> condition timed event)
    {events : List TimedEvent} {test : TimedWorld -> Bool}
    (ends : (TransitionSystem.perform (apply env) allowed (new true true true true) events).any
      test = true) :
    exists timed, ((timedSystem env).restrict condition).Reachable timed ∧ test timed = true := by
  refine TransitionSystem.exists_reachable condition ?_ meets ?_ ends
  · intro before event after applied
    exact applied
  · exact ⟨true, true, true, true, rfl⟩

/-- A first iteration of the tick thread at `id`, and a later one. -/
def firstIteration (id now : Nat) : List TimedEvent :=
  (runs id 8 ++ [Event.run id (.instant now)]).map .client

def nextIteration (id now : Nat) : List TimedEvent :=
  (runs id 4 ++ [Event.run id (.instant now)]).map .client

/-- A receive thread records a datagram that is no frame. -/
def recordEvents (id now : Nat) : List TimedEvent :=
  (receiveEvents id [0xFF] ++ Event.run id (.instant now) :: runs id 4).map .client

/-- The peer is heard of once, and its loss is reported two intervals later. -/
theorem detects_loss_after_datagram :
    exists timed, ((timedSystem concreteEnvironment).restrict InSession).Reachable timed ∧
      timed.verdicts =
        [⟨1, 2500, some 500, true⟩, ⟨1, 2499, some 500, false⟩, ⟨1, 0, some 0, false⟩] ∧
      timed.DetectsLoss := by
  have ends : (TransitionSystem.perform (apply concreteEnvironment)
      (fun before event => decide (before.InSession event)) (new true true true true)
      ((sessionEvents 0 1).map .client ++ firstIteration 2 0 ++ .elapse 500 ::
        recordEvents 3 500 ++ .elapse 1999 :: nextIteration 2 2499 ++ .elapse 1 ::
        nextIteration 2 2500)).any
      (fun timed => timed.verdicts =
        [⟨1, 2500, some 500, true⟩, ⟨1, 2499, some 500, false⟩, ⟨1, 0, some 0, false⟩]) =
      true := by
    decide +kernel
  rcases exists_timed InSession (fun _ _ => of_decide_eq_true) ends with ⟨timed, reachable, test⟩
  exact ⟨timed, reachable, of_decide_eq_true test, detects_loss reachable⟩

/-- The second session is reported lost in its first iteration, because of a
datagram of the first. -/
theorem lost_at_once :
    ¬ forall (env : Environment) (timed : TimedWorld),
      (timedSystem env).Reachable timed -> timed.DetectsLoss := by
  intro claim
  have ends : (TransitionSystem.perform (apply concreteEnvironment) (fun _ _ => true)
      (new true true true true)
      ((sessionEvents 0 1).map .client ++ recordEvents 3 0 ++
        (Event.close :: runs 2 1 ++ runs 3 1 ++ runs 4 3).map .client ++ .elapse 2000 ::
        (sessionEvents 5 1).map .client ++ firstIteration 7 2000)).any
      (fun timed => timed.verdicts = [⟨1, 2000, some 2000, true⟩]) = true := by
    decide +kernel
  rcases exists_timed (fun _ _ => True) (fun _ _ _ => trivial) ends with ⟨timed, reachable, test⟩
  have timely := claim _ timed reachable.of_restrict ⟨1, 2000, some 2000, true⟩
    (by rw [of_decide_eq_true test]; exact List.mem_singleton.mpr rfl)
  rcases timely with ⟨since, isSince, iff⟩
  cases isSince
  exact absurd (iff.mp rfl) (by decide)

end TimedWorld

end P2pSdk
