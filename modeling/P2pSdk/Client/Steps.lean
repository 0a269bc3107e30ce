import P2pSdk.Client.Calls

namespace P2pSdk

open Foundation

/-!
# What the steps of a client leave alone

The tick and receive threads change the agent but never replace it, and they
touch neither the handles nor the stop flags.  A step of any other thread is
spelled out where it matters.
-/

/-! ## Kinds of threads -/

/-- A tick or receive thread that has not ended. -/
def Thread.running : Thread -> Bool
  | .tick self => self.pc ≠ .finished
  | .recv self => self.pc ≠ .finished
  | _ => false

/-- A call to `connect` or a background thread that can still do something
about the client. -/
def Thread.underway : Thread -> Bool
  | .connect pc => pc ≠ .returned
  | .background pc => pc ≠ .done ∧ pc ≠ .fireFailed .restore
  | _ => false

/-- A call to `close` that has not returned. -/
def Thread.closing : Thread -> Bool
  | .close pc => pc ≠ .returned
  | _ => false

namespace World

/-- The thread at an index is a tick or receive thread that has not ended. -/
def running (world : World) (id : Nat) : Bool := world.threads[id]?.any Thread.running

theorem running_iff {world : World} {id : Nat} :
    world.running id = true ↔ exists thread, world.threads[id]? = some thread ∧
      thread.running = true := by
  exact Option.any_eq_true _ _

/-- A tick or receive thread runs although its stop flag is not set. -/
def unstopped (world : World) (id : Nat) : Bool :=
  match world.threads[id]? with
  | some (.tick self) => self.pc ≠ .finished ∧ world.shared.stopped self.stop = false
  | some (.recv self) => self.pc ≠ .finished ∧ world.shared.stopped self.stop = false
  | _ => false

theorem running_of_unstopped {world : World} {id : Nat} (unstopped : world.unstopped id = true) :
    world.running id = true := by
  unfold World.unstopped at unstopped
  unfold World.running
  cases found : world.threads[id]? with
  | none =>
      rw [found] at unstopped
      cases unstopped
  | some thread =>
      rw [found] at unstopped
      cases thread with
      | tick self => exact decide_eq_true (of_decide_eq_true unstopped).1
      | recv self => exact decide_eq_true (of_decide_eq_true unstopped).1
      | _ => cases unstopped

end World

/-- A thread that can be joined does not run. -/
theorem running_of_joinable {world : World} {id : Nat}
    (joined : joinable world.threads (some id) = true) : world.running id = false := by
  rcases (Option.any_eq_true _ _).mp joined with ⟨thread, found, finished⟩
  unfold World.running
  rw [found]
  cases thread with
  | connect pc => rfl
  | background pc => rfl
  | close pc => rfl
  | tick self => simpa [Thread.finished, Thread.running] using finished
  | recv self => simpa [Thread.finished, Thread.running] using finished

/-! ## Frames -/

/-- The agent is the same object, and the socket, the handles and the flags
are as they were. -/
structure Shared.Keeps (before after : Shared) : Prop where
  owner : after.client.iceAgent.map OwnedAgent.owner = before.client.iceAgent.map OwnedAgent.owner
  iceUdp : after.client.iceUdp = before.client.iceUdp
  tickHandle : after.client.tickHandle = before.client.tickHandle
  recvHandle : after.client.recvHandle = before.client.recvHandle
  iceStop : after.client.iceStop = before.client.iceStop
  flags : after.flags = before.flags

theorem Shared.Keeps.refl (shared : Shared) : Shared.Keeps shared shared :=
  ⟨rfl, rfl, rfl, rfl, rfl, rfl⟩

theorem Shared.keeps_sendAll (shared : Shared) (actions : List IceAction) :
    Shared.Keeps shared (shared.sendAll actions) := by
  unfold Shared.sendAll
  cases shared.client.iceUdp with
  | none => exact .refl shared
  | some udp => exact ⟨rfl, rfl, rfl, rfl, rfl, rfl⟩

theorem Shared.keeps_sendHeartbeat (shared : Shared) (udp : Option Nat) :
    Shared.Keeps shared (shared.sendHeartbeat udp) := by
  unfold Shared.sendHeartbeat
  split
  · exact ⟨rfl, rfl, rfl, rfl, rfl, rfl⟩
  · exact .refl shared

theorem Client.keeps_setCallback (shared : Shared) (present : Bool) (notice : Notice) :
    Shared.Keeps shared { shared with client := shared.client.setCallback present notice } := by
  cases notice <;> exact ⟨rfl, rfl, rfl, rfl, rfl, rfl⟩

/-- A step of a callback touches the callback only, and calls it in its second step. -/
theorem Firing.step_keeps (firing : Firing) (notice : Notice) (shared : Shared) :
    Shared.Keeps shared { shared with client := (firing.step notice shared.client).1 } := by
  cases firing with
  | take =>
      unfold Firing.step
      cases present : shared.client.callback notice with
      | true =>
          rw [if_pos rfl]
          exact Client.keeps_setCallback shared false notice
      | false => exact .refl shared
  | call => exact .refl shared
  | restore => exact Client.keeps_setCallback shared true notice

theorem Firing.step_note (firing : Firing) (notice : Notice) (client : Client) :
    (firing.step notice client).2.2 = .quiet ∨
      (firing = .call ∧ (firing.step notice client).2.2 = .called notice) := by
  cases firing with
  | take =>
      unfold Firing.step
      cases present : client.callback notice with
      | true => exact Or.inl rfl
      | false => exact Or.inl rfl
  | call => exact Or.inr ⟨rfl, rfl⟩
  | restore => exact Or.inl rfl

/-! ## The tick thread -/

namespace TickThread

/-- What every step of a tick thread keeps. -/
structure StepKeeps (before : TickThread) (shared : Shared)
    (outcome : Outcome Shared TickThread Note) : Prop where
  keeps : Shared.Keeps shared outcome.shared
  spawned : outcome.spawned = none
  starter : outcome.thread.starter = before.starter
  stop : outcome.thread.stop = before.stop
  nowMs : before.nowMs ≤ outcome.thread.nowMs
  note : outcome.note = .quiet ∨ (exists notice, outcome.note = .called notice) ∨
    exists owned, shared.client.iceAgent = some owned ∧
      outcome.note = .ticked owned.owner before.nowMs

variable {env : Environment} {self : TickThread} {shared : Shared}

theorem goto_keeps {later : TickThread} {after : Shared} (pc : TickPc)
    (keeps : Shared.Keeps shared after) (starter : later.starter = self.starter)
    (stop : later.stop = self.stop) (nowMs : self.nowMs ≤ later.nowMs) :
    StepKeeps self shared (later.goto pc after) :=
  ⟨keeps, rfl, starter, stop, nowMs, Or.inl rfl⟩

theorem tickAgent_keeps : StepKeeps self shared (self.tickAgent env shared) := by
  unfold tickAgent
  cases agent : shared.client.iceAgent with
  | none => exact goto_keeps _ (.refl shared) rfl rfl le_rfl
  | some owned =>
      refine ⟨⟨?_, rfl, rfl, rfl, rfl, rfl⟩, rfl, rfl, rfl, le_rfl, ?_⟩
      · rw [agent]
        rfl
      · exact Or.inr (Or.inr ⟨owned, agent, rfl⟩)

theorem fire_keeps (notice : Notice) (firing : Firing) (again : Firing -> TickPc) (next : TickPc) :
    StepKeeps self shared (self.fire shared notice firing again next) := by
  refine ⟨firing.step_keeps notice shared, rfl, rfl, rfl, le_rfl, ?_⟩
  rcases firing.step_note notice shared.client with quiet | ⟨_, called⟩
  · exact Or.inl quiet
  · exact Or.inr (Or.inl ⟨notice, called⟩)

theorem afterHeartbeatInterval_kept (self : TickThread) (hbSecs : Nat) :
    (self.afterHeartbeatInterval hbSecs).starter = self.starter ∧
      (self.afterHeartbeatInterval hbSecs).stop = self.stop ∧
      (self.afterHeartbeatInterval hbSecs).nowMs = self.nowMs := by
  unfold afterHeartbeatInterval
  split_ifs
  · exact ⟨rfl, rfl, rfl⟩
  · exact ⟨rfl, rfl, rfl⟩
  · exact ⟨rfl, rfl, rfl⟩

theorem step_keeps {input : Input} {outcome : Outcome Shared TickThread Note}
    (stepped : self.step env shared input = some outcome) : StepKeeps self shared outcome := by
  unfold step at stepped
  cases pc : self.pc with
  | checkStop =>
      simp only [pc] at stepped
      split at stepped
      · cases stepped
        exact goto_keeps _ (.refl shared) rfl rfl le_rfl
      · cases stepped
        exact goto_keeps _ (.refl shared) rfl rfl (Nat.le_add_right _ 50)
  | observe =>
      simp only [pc] at stepped
      cases agent : shared.client.iceAgent with
      | none =>
          simp only [agent] at stepped
          cases stepped
          exact goto_keeps _ (.refl shared) rfl rfl le_rfl
      | some owned =>
          simp only [agent] at stepped
          split at stepped
          · cases stepped
            exact goto_keeps _ (.refl shared) rfl rfl le_rfl
          · cases stepped
            exact tickAgent_keeps
  | fireState state firing =>
      simp only [pc] at stepped
      cases stepped
      exact fire_keeps _ _ _ _
  | tickAgent =>
      simp only [pc] at stepped
      cases stepped
      exact tickAgent_keeps
  | send actions =>
      simp only [pc] at stepped
      cases stepped
      exact goto_keeps _ (shared.keeps_sendAll actions) rfl rfl le_rfl
  | readHeartbeat =>
      simp only [pc] at stepped
      cases stepped
      have kept := self.afterHeartbeatInterval_kept shared.client.heartbeatIntervalSecs
      exact goto_keeps _ (.refl shared) kept.1 kept.2.1 (le_of_eq kept.2.2.symm)
  | sendHeartbeat hbSecs =>
      simp only [pc] at stepped
      cases stepped
      exact goto_keeps _ (shared.keeps_sendHeartbeat _) rfl rfl le_rfl
  | checkTimeout hbSecs =>
      simp only [pc] at stepped
      cases input with
      | instant now =>
          simp only at stepped
          split at stepped
          · cases stepped
            exact goto_keeps _ (.refl shared) rfl rfl le_rfl
          · cases stepped
            exact goto_keeps _ (.refl shared) rfl rfl le_rfl
      | _ => cases stepped
  | fireTimeout firing =>
      simp only [pc] at stepped
      cases stepped
      exact fire_keeps _ _ _ _
  | finished =>
      simp only [pc] at stepped
      cases stepped

/-- What a step of a tick thread does to the shared state. -/
inductive Touches (env : Environment) (self : TickThread) (before : Shared) : Shared -> Prop
  | nothing : Touches env self before before
  | agent : Touches env self before (self.tickAgent env before).shared
  | callback (firing : Firing) (state : IceState) :
      Touches env self before { before with client := (firing.step (.state state) before.client).1 }
  | actions (actions : List IceAction) : Touches env self before (before.sendAll actions)
  | heartbeat : Touches env self before (before.sendHeartbeat before.client.iceUdp)

theorem step_touches {input : Input} {outcome : Outcome Shared TickThread Note}
    (stepped : self.step env shared input = some outcome) : Touches env self shared outcome.shared := by
  unfold step at stepped
  cases pc : self.pc with
  | checkStop =>
      simp only [pc] at stepped
      split at stepped
      · cases stepped
        exact .nothing
      · cases stepped
        exact .nothing
  | observe =>
      simp only [pc] at stepped
      split at stepped
      · cases stepped
        exact .nothing
      · split at stepped
        · cases stepped
          exact .nothing
        · cases stepped
          exact .agent
  | fireState state firing =>
      simp only [pc] at stepped
      cases stepped
      exact .callback firing state
  | tickAgent =>
      simp only [pc] at stepped
      cases stepped
      exact .agent
  | send actions =>
      simp only [pc] at stepped
      cases stepped
      exact .actions actions
  | readHeartbeat =>
      simp only [pc] at stepped
      cases stepped
      exact .nothing
  | sendHeartbeat hbSecs =>
      simp only [pc] at stepped
      cases stepped
      exact .heartbeat
  | checkTimeout hbSecs =>
      simp only [pc] at stepped
      cases input with
      | instant now =>
          simp only at stepped
          split at stepped
          · cases stepped
            exact .nothing
          · cases stepped
            exact .nothing
      | _ => cases stepped
  | fireTimeout firing =>
      simp only [pc] at stepped
      cases stepped
      exact .callback firing .disconnected
  | finished =>
      simp only [pc] at stepped
      cases stepped

theorem not_finished_of_step {input : Input} {outcome : Outcome Shared TickThread Note}
    (stepped : self.step env shared input = some outcome) : self.pc ≠ .finished := by
  intro finished
  unfold step at stepped
  simp only [finished] at stepped
  cases stepped

end TickThread

/-! ## The receive thread -/

namespace RecvThread

/-- What every step of a receive thread keeps. -/
structure StepKeeps (before : RecvThread) (shared : Shared)
    (outcome : Outcome Shared RecvThread Note) : Prop where
  keeps : Shared.Keeps shared outcome.shared
  spawned : outcome.spawned = none
  starter : outcome.thread.starter = before.starter
  stop : outcome.thread.stop = before.stop
  note : outcome.note = .quiet ∨ exists notice, outcome.note = .called notice

variable {self : RecvThread} {shared : Shared}

theorem goto_keeps {after : Shared} (pc : RecvPc) (keeps : Shared.Keeps shared after) :
    StepKeeps self shared (self.goto pc after) :=
  ⟨keeps, rfl, rfl, rfl, Or.inl rfl⟩

theorem fire_keeps (notice : Notice) (firing : Firing) (again : Firing -> RecvPc) (next : RecvPc) :
    StepKeeps self shared (self.fire shared notice firing again next) := by
  refine ⟨firing.step_keeps notice shared, rfl, rfl, rfl, ?_⟩
  rcases firing.step_note notice shared.client with quiet | ⟨_, called⟩
  · exact Or.inl quiet
  · exact Or.inr ⟨notice, called⟩

theorem handle_keeps {udp : Nat} {data : Bytes} {source : Address}
    {outcome : Outcome Shared RecvThread Note}
    (handled : self.handle shared udp data source = some outcome) :
    StepKeeps self shared outcome := by
  unfold handle at handled
  cases agent : shared.client.iceAgent with
  | none =>
      simp only [agent] at handled
      cases handled
      exact goto_keeps _ (.refl shared)
  | some owned =>
      simp only [agent] at handled
      cases result : owned.agent.handleIncomingData data source with
      | error panic =>
          simp only [result] at handled
          cases handled
      | ok after =>
          simp only [result] at handled
          cases handled
          apply goto_keeps
          refine ⟨?_, rfl, rfl, rfl, rfl, rfl⟩
          rw [agent]
          rfl

theorem step_keeps {input : Input} {outcome : Outcome Shared RecvThread Note}
    (stepped : self.step shared input = some outcome) : StepKeeps self shared outcome := by
  unfold step at stepped
  cases pc : self.pc with
  | checkStop =>
      simp only [pc] at stepped
      split at stepped
      · cases stepped
        exact goto_keeps _ (.refl shared)
      · cases stepped
        exact goto_keeps _ (.refl shared)
  | cloneUdp =>
      simp only [pc] at stepped
      split at stepped
      · cases stepped
        exact goto_keeps _ (.refl shared)
      · cases stepped
        exact goto_keeps _ (.refl shared)
  | receive udp =>
      simp only [pc] at stepped
      split at stepped
      · cases stepped
        exact goto_keeps _ (.refl shared)
      · cases stepped
        exact goto_keeps _ (.refl shared)
  | handle udp data source =>
      simp only [pc] at stepped
      exact handle_keeps stepped
  | storeInstant udp appData =>
      simp only [pc] at stepped
      cases input with
      | instant now =>
          cases stepped
          exact goto_keeps _ ⟨rfl, rfl, rfl, rfl, rfl, rfl⟩
      | _ => cases stepped
  | readHeartbeat udp appData =>
      simp only [pc] at stepped
      cases stepped
      exact goto_keeps _ (.refl shared)
  | replyHeartbeat udp =>
      simp only [pc] at stepped
      cases stepped
      exact goto_keeps _ (shared.keeps_sendHeartbeat _)
  | log firing next =>
      simp only [pc] at stepped
      cases stepped
      exact fire_keeps _ _ _ _
  | pushSeqId seqId payload =>
      simp only [pc] at stepped
      cases stepped
      exact goto_keeps _ ⟨rfl, rfl, rfl, rfl, rfl, rfl⟩
  | fireData payload firing =>
      simp only [pc] at stepped
      cases stepped
      exact fire_keeps _ _ _ _
  | finished =>
      simp only [pc] at stepped
      cases stepped

/-- What a step of a receive thread does to the shared state. -/
inductive Touches (self : RecvThread) (input : Input) (before : Shared) : Shared -> Prop
  | nothing : Touches self input before before
  | agent {owned : OwnedAgent} {data : Bytes} {source : Address} {handled : IceAgent × HandleDataResult}
      {sent : List SentDatagram} (found : before.client.iceAgent = some owned)
      (isHandled : owned.agent.handleIncomingData data source = .ok handled) :
      Touches self input before
        { before with
          client := { before.client with iceAgent := some { owned with agent := handled.1 } }
          sent := sent }
  | instant (udp : Nat) (appData : Bytes) (now : Nat) (pc : self.pc = .storeInstant udp appData)
      (isInput : input = .instant now) :
      Touches self input before
        { before with client := { before.client with lastRecvInstant := some now } }
  | heartbeat (udp : Nat) : Touches self input before (before.sendHeartbeat (some udp))
  | callback (firing : Firing) (notice : Notice) :
      Touches self input before { before with client := (firing.step notice before.client).1 }
  | seqId (seqId : UInt64) (payload : Bytes) (pc : self.pc = .pushSeqId seqId payload) :
      Touches self input before
        { before with
          client := { before.client with
            pendingSeqIds := before.client.pendingSeqIds ++ [seqId] } }

theorem handle_touches {input : Input} {udp : Nat} {data : Bytes} {source : Address}
    {outcome : Outcome Shared RecvThread Note}
    (handled : self.handle shared udp data source = some outcome) :
    Touches self input shared outcome.shared := by
  unfold handle at handled
  cases found : shared.client.iceAgent with
  | none =>
      simp only [found] at handled
      cases handled
      exact .nothing
  | some owned =>
      simp only [found] at handled
      cases result : owned.agent.handleIncomingData data source with
      | error panic =>
          simp only [result] at handled
          cases handled
      | ok after =>
          simp only [result] at handled
          cases handled
          exact .agent found result

theorem step_touches {input : Input} {outcome : Outcome Shared RecvThread Note}
    (stepped : self.step shared input = some outcome) : Touches self input shared outcome.shared := by
  unfold step at stepped
  cases pc : self.pc with
  | checkStop =>
      simp only [pc] at stepped
      split at stepped
      · cases stepped
        exact .nothing
      · cases stepped
        exact .nothing
  | cloneUdp =>
      simp only [pc] at stepped
      split at stepped
      · cases stepped
        exact .nothing
      · cases stepped
        exact .nothing
  | receive udp =>
      simp only [pc] at stepped
      split at stepped
      · cases stepped
        exact .nothing
      · cases stepped
        exact .nothing
  | handle udp data source =>
      simp only [pc] at stepped
      exact handle_touches stepped
  | storeInstant udp appData =>
      simp only [pc] at stepped
      cases input with
      | instant now =>
          cases stepped
          exact .instant udp appData now pc rfl
      | _ => cases stepped
  | readHeartbeat udp appData =>
      simp only [pc] at stepped
      cases stepped
      exact .nothing
  | replyHeartbeat udp =>
      simp only [pc] at stepped
      cases stepped
      exact .heartbeat udp
  | log firing next =>
      simp only [pc] at stepped
      cases stepped
      exact .callback firing .log
  | pushSeqId seqId payload =>
      simp only [pc] at stepped
      cases stepped
      exact .seqId seqId payload pc
  | fireData payload firing =>
      simp only [pc] at stepped
      cases stepped
      exact .callback firing (.data payload)
  | finished =>
      simp only [pc] at stepped
      cases stepped

theorem not_finished_of_step {input : Input} {outcome : Outcome Shared RecvThread Note}
    (stepped : self.step shared input = some outcome) : self.pc ≠ .finished := by
  intro finished
  unfold step at stepped
  simp only [finished] at stepped
  cases stepped

end RecvThread

/-! ## Steps that branch or wait -/

section Branching

variable {shared : Shared} {threads : List Thread} {id : Nat} {input : Input}
  {outcome : Outcome Shared Thread Note}

theorem ConnectPc.step_storeHeartbeat {heartbeatIntervalSecs : Nat}
    (stepped : ConnectPc.step shared input (.storeHeartbeat heartbeatIntervalSecs) = some outcome) :
    outcome = quietly (.connect .returned) shared ∨
      outcome = quietly (.connect .spawnBackground)
        { shared with
          client := { shared.client with heartbeatIntervalSecs := heartbeatIntervalSecs } } := by
  simp only [ConnectPc.step] at stepped
  split at stepped
  · cases stepped
    exact Or.inl rfl
  · cases stepped
    exact Or.inr rfl

theorem BackgroundPc.step_gather
    (stepped : BackgroundPc.step shared threads id input .gather = some outcome) :
    outcome = quietly (.background (.fireFailed .take)) shared ∨
      outcome = quietly (.background .negotiate) shared := by
  simp only [BackgroundPc.step] at stepped
  split at stepped
  · cases stepped
    exact Or.inl rfl
  · cases stepped
    exact Or.inr rfl

theorem BackgroundPc.step_negotiate
    (stepped : BackgroundPc.step shared threads id input .negotiate = some outcome) :
    outcome = quietly (.background (.fireFailed .take)) shared ∨
      exists agent, outcome = quietly (.background (.storeAgent agent)) shared := by
  simp only [BackgroundPc.step] at stepped
  split at stepped
  · split at stepped
    · cases stepped
      exact Or.inr ⟨_, rfl⟩
    · cases stepped
      exact Or.inl rfl
  · cases stepped
    exact Or.inl rfl

theorem BackgroundPc.step_joinTick {tick recv : Option Nat}
    (stepped : BackgroundPc.step shared threads id input (.joinTick tick recv) = some outcome) :
    outcome = quietly (.background (.joinRecv recv)) shared := by
  simp only [BackgroundPc.step] at stepped
  split at stepped
  · exact (Option.some.inj stepped).symm
  · cases stepped

theorem BackgroundPc.step_joinRecv {recv : Option Nat}
    (stepped : BackgroundPc.step shared threads id input (.joinRecv recv) = some outcome) :
    outcome = quietly (.background .replaceStop) shared := by
  simp only [BackgroundPc.step] at stepped
  split at stepped
  · exact (Option.some.inj stepped).symm
  · cases stepped

theorem ClosePc.step_joinTick {tick recv : Option Nat}
    (stepped : ClosePc.step shared threads (.joinTick tick recv) = some outcome) :
    joinable threads tick = true ∧ outcome = quietly (.close (.joinRecv recv)) shared := by
  simp only [ClosePc.step] at stepped
  split at stepped
  · rename_i joins
    exact ⟨joins, (Option.some.inj stepped).symm⟩
  · cases stepped

theorem ClosePc.step_joinRecv {recv : Option Nat}
    (stepped : ClosePc.step shared threads (.joinRecv recv) = some outcome) :
    joinable threads recv = true ∧ outcome = quietly (.close .clear) shared := by
  simp only [ClosePc.step] at stepped
  split at stepped
  · rename_i joins
    exact ⟨joins, (Option.some.inj stepped).symm⟩
  · cases stepped

end Branching

/-! ## `connect` and its background thread -/

/-- The step does not return from `close` and makes no call to it. -/
structure StaysOpen (outcome : Outcome Shared Thread Note) : Prop where
  thread : outcome.thread.closing = false
  spawned : forall other, outcome.spawned = some other -> other.closing = false
  note : outcome.note ≠ .returned

theorem StaysOpen.quietly {thread : Thread} (shared : Shared) (closing : thread.closing = false) :
    StaysOpen (quietly thread shared) := by
  refine ⟨closing, ?_, ?_⟩
  · intro other contrary
    cases contrary
  · intro contrary
    cases contrary

theorem StaysOpen.spawning {thread other : Thread} {shared : Shared}
    (closing : thread.closing = false) (otherClosing : other.closing = false) :
    StaysOpen
      { shared := shared, thread := thread, spawned := some other, note := .quiet } := by
  refine ⟨closing, ?_, ?_⟩
  · intro new same
    cases same
    exact otherClosing
  · intro contrary
    cases contrary

theorem ConnectPc.step_open {pc : ConnectPc} {shared : Shared} {input : Input}
    {outcome : Outcome Shared Thread Note} (stepped : pc.step shared input = some outcome) :
    StaysOpen outcome := by
  cases pc with
  | storeHeartbeat heartbeatIntervalSecs =>
      rcases ConnectPc.step_storeHeartbeat stepped with rfl | rfl
      · exact .quietly _ rfl
      · exact .quietly _ rfl
  | spawnBackground =>
      cases stepped
      exact .spawning rfl rfl
  | returned => cases stepped

theorem BackgroundPc.step_open {pc : BackgroundPc} {shared : Shared} {threads : List Thread}
    {id : Nat} {input : Input} {outcome : Outcome Shared Thread Note}
    (stepped : pc.step shared threads id input = some outcome) : StaysOpen outcome := by
  cases pc with
  | gather =>
      rcases BackgroundPc.step_gather stepped with rfl | rfl
      · exact .quietly _ rfl
      · exact .quietly _ rfl
  | negotiate =>
      rcases BackgroundPc.step_negotiate stepped with rfl | ⟨agent, rfl⟩
      · exact .quietly _ rfl
      · exact .quietly _ rfl
  | joinTick tick recv =>
      rcases BackgroundPc.step_joinTick stepped with rfl
      exact .quietly _ rfl
  | joinRecv recv =>
      rcases BackgroundPc.step_joinRecv stepped with rfl
      exact .quietly _ rfl
  | spawnTick stop =>
      cases stepped
      exact .spawning rfl rfl
  | spawnRecv stop tick =>
      cases stepped
      exact .spawning rfl rfl
  | fireFailed firing =>
      cases stepped
      refine ⟨rfl, ?_, ?_⟩
      · intro other contrary
        cases contrary
      · intro contrary
        rcases firing.step_note (.state .failed) shared.client with quiet | ⟨_, called⟩
        · cases quiet.symm.trans contrary
        · cases called.symm.trans contrary
  | done => cases stepped
  | _ =>
      cases stepped
      exact .quietly _ rfl

/-- A background thread that is not underway puts a callback back. -/
theorem BackgroundPc.step_restores {pc : BackgroundPc} {shared : Shared} {threads : List Thread}
    {id : Nat} {input : Input} {outcome : Outcome Shared Thread Note}
    (notUnderway : (Thread.background pc).underway = false)
    (stepped : pc.step shared threads id input = some outcome) :
    Shared.Keeps shared outcome.shared ∧ outcome.spawned = none ∧
      outcome.thread = .background .done ∧ outcome.note = .quiet := by
  have restoring : pc = .fireFailed .restore := by
    simp only [Thread.underway, decide_eq_false_iff_not, not_and, not_not] at notUnderway
    by_contra other
    apply other
    apply notUnderway
    rintro rfl
    cases stepped
  subst restoring
  cases stepped
  exact ⟨Firing.step_keeps .restore (.state .failed) shared, rfl, rfl, rfl⟩

end P2pSdk
