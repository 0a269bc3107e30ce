import P2pSdk.Client.Clock
import P2pSdk.Client.Leftovers
import P2pSdk.Ice.Trickle
import P2pSdk.Foundation.History

namespace P2pSdk

open Foundation

/-!
# The states that a tick thread reports (`client.rs`)

The loop of the tick thread calls `fire_state_change` at two places.  Where it
looks at the agent, it reports a state that differs from the one it saw last,
and remembers it.  Where a heartbeat check finds silence, it reports
DISCONNECTED and remembers nothing, so that every further check that finds
silence reports it again.  The reports of one thread are recorded here, and
two neighbours among them are equal exactly when both come from such checks.
-/

/-! ## Agents are never DISCONNECTED -/

/-- The client holds no agent that is DISCONNECTED. -/
def Shared.Attached (shared : Shared) : Prop :=
  forall owned, shared.client.iceAgent = some owned -> owned.agent.state ≠ .disconnected

/-- A background thread is about to store no such agent. -/
def Thread.Attached : Thread -> Prop
  | .background (.storeAgent agent) => agent.state ≠ .disconnected
  | _ => True

/-- What a step leaves is attached: the shared state, and both threads. -/
structure StaysAttached (outcome : Outcome Shared Thread Note) : Prop where
  shared : outcome.shared.Attached
  thread : outcome.thread.Attached
  spawned : forall other, outcome.spawned = some other -> other.Attached

theorem Shared.Attached.of_iceAgent {before after : Shared} (attached : before.Attached)
    (same : after.client.iceAgent = before.client.iceAgent) : after.Attached := by
  intro owned found
  exact attached owned (same ▸ found)

theorem Shared.Attached.of_none {shared : Shared} (none : shared.client.iceAgent = none) :
    shared.Attached := by
  intro owned found
  rw [none] at found
  cases found

theorem Client.setCallback_iceAgent (client : Client) (present : Bool) (notice : Notice) :
    (client.setCallback present notice).iceAgent = client.iceAgent := by
  cases notice <;> rfl

theorem Firing.step_iceAgent (firing : Firing) (notice : Notice) (client : Client) :
    (firing.step notice client).1.iceAgent = client.iceAgent := by
  cases firing with
  | take =>
      unfold Firing.step
      cases client.callback notice with
      | true => exact client.setCallback_iceAgent false notice
      | false => rfl
  | call => rfl
  | restore => exact client.setCallback_iceAgent true notice

theorem Shared.sendAll_iceAgent (shared : Shared) (actions : List IceAction) :
    (shared.sendAll actions).client.iceAgent = shared.client.iceAgent := by
  unfold Shared.sendAll
  cases shared.client.iceUdp <;> rfl

theorem Shared.sendHeartbeat_iceAgent (shared : Shared) (udp : Option Nat) :
    (shared.sendHeartbeat udp).client.iceAgent = shared.client.iceAgent := by
  unfold Shared.sendHeartbeat
  split <;> rfl

/-- A step without a spawn that leaves the agent. -/
theorem StaysAttached.of_iceAgent {shared : Shared} {outcome : Outcome Shared Thread Note}
    (attached : shared.Attached) (same : outcome.shared.client.iceAgent = shared.client.iceAgent)
    (thread : outcome.thread.Attached) (spawned : outcome.spawned = none) : StaysAttached outcome where
  shared := attached.of_iceAgent same
  thread := thread
  spawned := by
    intro other contrary
    rw [spawned] at contrary
    cases contrary

theorem TickThread.tickAgent_attached {env : Environment} {self : TickThread} {shared : Shared}
    (attached : shared.Attached) : (self.tickAgent env shared).shared.Attached := by
  unfold tickAgent
  cases found : shared.client.iceAgent with
  | none => exact attached
  | some owned =>
      intro other isOther
      cases isOther
      have state := IceAgent.tickChecks_state env.crypto env.ids owned.agent shared.drawn self.nowMs
      rcases state with same | failed
      · exact same ▸ attached owned found
      · intro contrary
        cases failed.symm.trans contrary

theorem TickThread.Touches.attached {env : Environment} {self : TickThread} {before after : Shared}
    (touches : self.Touches env before after) (attached : before.Attached) : after.Attached := by
  cases touches with
  | nothing => exact attached
  | agent => exact tickAgent_attached attached
  | callback firing state => exact attached.of_iceAgent (firing.step_iceAgent (.state state) before.client)
  | actions actions => exact attached.of_iceAgent (before.sendAll_iceAgent actions)
  | heartbeat => exact attached.of_iceAgent (before.sendHeartbeat_iceAgent _)

/-- A datagram moves no agent to DISCONNECTED. -/
theorem IceAgent.handleIncomingData_attached {agent after : IceAgent} {data : Bytes} {source : Address}
    {result : HandleDataResult} (attached : agent.state ≠ .disconnected)
    (handled : agent.handleIncomingData data source = .ok (after, result)) :
    after.state ≠ .disconnected := by
  rcases handleIncomingData_state handled with same | completed | ⟨connected, _⟩
  · exact same ▸ attached
  · intro contrary
    cases completed.symm.trans contrary
  · intro contrary
    cases connected.symm.trans contrary

theorem RecvThread.Touches.attached {self : RecvThread} {input : Input} {before after : Shared}
    (touches : self.Touches input before after) (attached : before.Attached) : after.Attached := by
  cases touches with
  | nothing => exact attached
  | agent found isHandled =>
      intro other isOther
      cases isOther
      exact IceAgent.handleIncomingData_attached (attached _ found) isHandled
  | instant udp appData now pc isInput => exact attached
  | heartbeat udp => exact attached.of_iceAgent (before.sendHeartbeat_iceAgent _)
  | callback firing notice => exact attached.of_iceAgent (firing.step_iceAgent notice before.client)
  | seqId seqId payload pc => exact attached

/-- The agent that is negotiated is CONNECTING. -/
theorem BackgroundPc.negotiate_attached {shared : Shared} {threads : List Thread} {id : Nat} {input : Input}
    {outcome : Outcome Shared Thread Note} (attached : shared.Attached)
    (stepped : BackgroundPc.step shared threads id input .negotiate = some outcome) :
    StaysAttached outcome := by
  simp only [BackgroundPc.step] at stepped
  split at stepped
  · rename_i seed candidates answer
    split at stepped
    · rename_i agent started
      cases stepped
      refine .of_iceAgent attached rfl ?_ rfl
      have isOk : (negotiated seed candidates answer).2 = .ok () := congrArg Prod.snd started
      have checking := (IceAgent.startChecks_ok isOk).2.2.2
      have isAgent : (negotiated seed candidates answer).1 = agent := congrArg Prod.fst started
      intro contrary
      have state := congrArg IceAgent.state (isAgent.symm.trans checking)
      cases contrary.symm.trans state
    · cases stepped
      exact .of_iceAgent attached rfl trivial rfl
  · cases stepped
    exact .of_iceAgent attached rfl trivial rfl

theorem BackgroundPc.step_attached {pc : BackgroundPc} {shared : Shared} {threads : List Thread} {id : Nat}
    {input : Input} {outcome : Outcome Shared Thread Note} (attached : shared.Attached)
    (holds : (Thread.background pc).Attached)
    (stepped : pc.step shared threads id input = some outcome) : StaysAttached outcome := by
  cases pc with
  | gather =>
      rcases BackgroundPc.step_gather stepped with rfl | rfl
      · exact .of_iceAgent attached rfl trivial rfl
      · exact .of_iceAgent attached rfl trivial rfl
  | negotiate => exact BackgroundPc.negotiate_attached attached stepped
  | storeAgent agent =>
      cases stepped
      refine ⟨?_, trivial, fun other contrary => by cases contrary⟩
      intro owned found
      cases found
      exact holds
  | joinTick tick recv =>
      rcases BackgroundPc.step_joinTick stepped with rfl
      exact .of_iceAgent attached rfl trivial rfl
  | joinRecv recv =>
      rcases BackgroundPc.step_joinRecv stepped with rfl
      exact .of_iceAgent attached rfl trivial rfl
  | spawnTick stop =>
      cases stepped
      exact ⟨attached, trivial, fun other isOther => by cases isOther; trivial⟩
  | spawnRecv stop tick =>
      cases stepped
      exact ⟨attached, trivial, fun other isOther => by cases isOther; trivial⟩
  | fireFailed firing =>
      cases stepped
      refine .of_iceAgent attached (firing.step_iceAgent (.state .failed) shared.client) ?_ rfl
      dsimp only
      split <;> trivial
  | done => cases stepped
  | _ =>
      cases stepped
      exact .of_iceAgent attached rfl trivial rfl

theorem Thread.step_attached {env : Environment} {thread : Thread} {shared : Shared} {threads : List Thread}
    {id : Nat} {input : Input} {outcome : Outcome Shared Thread Note} (attached : shared.Attached)
    (holds : thread.Attached) (stepped : thread.step env shared threads id input = some outcome) :
    StaysAttached outcome := by
  cases thread with
  | connect pc =>
      have stepped : pc.step shared input = some outcome := stepped
      cases pc with
      | storeHeartbeat heartbeatIntervalSecs =>
          rcases ConnectPc.step_storeHeartbeat stepped with rfl | rfl
          · exact .of_iceAgent attached rfl trivial rfl
          · exact .of_iceAgent attached rfl trivial rfl
      | spawnBackground =>
          cases stepped
          exact ⟨attached, trivial, fun other isOther => by cases isOther; trivial⟩
      | returned => cases stepped
  | background pc => exact BackgroundPc.step_attached attached holds stepped
  | close pc =>
      have stepped : pc.step shared threads = some outcome := stepped
      cases pc with
      | joinTick tick recv =>
          rcases ClosePc.step_joinTick stepped with ⟨_, rfl⟩
          exact .of_iceAgent attached rfl trivial rfl
      | joinRecv recv =>
          rcases ClosePc.step_joinRecv stepped with ⟨_, rfl⟩
          exact .of_iceAgent attached rfl trivial rfl
      | clear =>
          cases stepped
          exact ⟨.of_none rfl, trivial, fun other contrary => by cases contrary⟩
      | returned => cases stepped
  | tick self =>
      rcases Option.map_eq_some_iff.mp stepped with ⟨inner, isInner, rfl⟩
      refine ⟨(TickThread.step_touches isInner).attached attached, trivial, ?_⟩
      intro other contrary
      cases (congrArg (Option.map Thread.tick) (TickThread.step_keeps isInner).spawned).symm.trans contrary
  | recv self =>
      rcases Option.map_eq_some_iff.mp stepped with ⟨inner, isInner, rfl⟩
      refine ⟨(RecvThread.step_touches isInner).attached attached, trivial, ?_⟩
      intro other contrary
      cases (congrArg (Option.map Thread.recv) (RecvThread.step_keeps isInner).spawned).symm.trans contrary

/-! ## Reports -/

/-- A state passed to `fire_state_change`: the one that the agent has, or
DISCONNECTED after a check that found silence. -/
inductive StateReport where
  | ofAgent (state : IceState)
  | timeout
  deriving DecidableEq, Repr

def StateReport.state : StateReport -> IceState
  | ofAgent state => state
  | timeout => .disconnected

/-- The last state of the agent among the reports, the latest first. -/
def lastSeen : List StateReport -> Option IceState
  | [] => none
  | .ofAgent state :: _ => some state
  | .timeout :: reports => lastSeen reports

/-- No two neighbours among the reports have the same state. -/
def AreChanges (reports : List StateReport) : Prop :=
  reports.IsChain fun newer older => newer.state ≠ older.state

/-- Neighbours with the same state are both from checks that found silence. -/
def RepeatTimeouts (reports : List StateReport) : Prop :=
  reports.IsChain fun newer older => newer.state = older.state -> newer = .timeout ∧ older = .timeout

namespace TickThread

/-- What a step of the thread passes to `fire_state_change`. -/
def reports (self moved : TickThread) : Option StateReport :=
  match self.pc, moved.pc with
  | .observe, .fireState state .take => some (.ofAgent state)
  | .checkTimeout _, .fireTimeout .take => some .timeout
  | _, _ => none

/-- The heartbeat checks are made for a completed agent. -/
def Waiting (self : TickThread) : Prop :=
  forall hbSecs, self.pc = .sendHeartbeat hbSecs ∨ self.pc = .checkTimeout hbSecs ->
    self.lastState = some .completed

/-- What the thread reports in a step, and what it remembers of it. -/
inductive ReportsIn (self : TickThread) (shared : Shared) (input : Input) (moved : TickThread) : Prop
  | quiet (silent : self.reports moved = none) (kept : moved.lastState = self.lastState)
  | ofAgent (owned : OwnedAgent) (found : shared.client.iceAgent = some owned)
      (report : self.reports moved = some (.ofAgent owned.agent.state))
      (changed : self.lastState ≠ some owned.agent.state)
      (remembered : moved.lastState = some owned.agent.state)
  | timeout (hbSecs now : Nat) (pc : self.pc = .checkTimeout hbSecs) (isInput : input = .instant now)
      (elapsed : timedOut shared.client.lastRecvInstant hbSecs now = true)
      (report : self.reports moved = some .timeout) (kept : moved.lastState = self.lastState)

theorem waiting_of_pc {self : TickThread}
    (other : forall hbSecs, self.pc ≠ .sendHeartbeat hbSecs ∧ self.pc ≠ .checkTimeout hbSecs) :
    self.Waiting := by
  rintro hbSecs (contrary | contrary)
  · exact absurd contrary (other hbSecs).1
  · exact absurd contrary (other hbSecs).2

theorem afterHeartbeatInterval_waiting (self : TickThread) (hbSecs : Nat) :
    (self.afterHeartbeatInterval hbSecs).Waiting ∧
      (self.afterHeartbeatInterval hbSecs).lastState = self.lastState := by
  unfold afterHeartbeatInterval
  split_ifs with due late
  · exact ⟨fun _ _ => due.2, rfl⟩
  · exact ⟨fun _ _ => due.2, rfl⟩
  · exact ⟨waiting_of_pc fun _ => ⟨nofun, nofun⟩, rfl⟩

theorem tickAgent_fields (env : Environment) (self : TickThread) (shared : Shared) :
    (self.tickAgent env shared).thread.lastState = self.lastState ∧
      exists actions, (self.tickAgent env shared).thread.pc = .send actions := by
  unfold tickAgent
  cases shared.client.iceAgent with
  | none => exact ⟨rfl, _, rfl⟩
  | some owned => exact ⟨rfl, _, rfl⟩

theorem step_reports {env : Environment} {self : TickThread} {shared : Shared} {input : Input}
    {outcome : Outcome Shared TickThread Note} (waiting : self.Waiting)
    (stepped : self.step env shared input = some outcome) :
    outcome.thread.Waiting ∧ ReportsIn self shared input outcome.thread := by
  unfold step at stepped
  cases pc : self.pc with
  | checkStop =>
      simp only [pc] at stepped
      split at stepped <;> cases stepped
      · exact ⟨waiting_of_pc fun _ => ⟨nofun, nofun⟩, .quiet (by simp only [reports, pc]) rfl⟩
      · exact ⟨waiting_of_pc fun _ => ⟨nofun, nofun⟩, .quiet (by simp only [reports, pc]) rfl⟩
  | observe =>
      simp only [pc] at stepped
      have ticked := tickAgent_fields env self shared
      cases found : shared.client.iceAgent with
      | none =>
          simp only [found] at stepped
          cases stepped
          exact ⟨waiting_of_pc fun _ => ⟨nofun, nofun⟩, .quiet (by simp only [reports, pc, goto]) rfl⟩
      | some owned =>
          simp only [found] at stepped
          by_cases changed : self.lastState ≠ some owned.agent.state
          · rw [if_pos changed] at stepped
            cases stepped
            exact ⟨waiting_of_pc fun _ => ⟨nofun, nofun⟩,
              .ofAgent owned found (by simp only [reports, pc, goto]) changed rfl⟩
          · rw [if_neg changed] at stepped
            cases stepped
            rcases ticked with ⟨kept, actions, isSend⟩
            refine ⟨waiting_of_pc fun _ => ?_, .quiet (by simp only [reports, pc, isSend]) kept⟩
            rw [isSend]
            exact ⟨nofun, nofun⟩
  | fireState state firing =>
      simp only [pc] at stepped
      cases stepped
      refine ⟨waiting_of_pc fun _ => ?_, .quiet (by simp only [reports, pc]) rfl⟩
      unfold fire
      dsimp only
      split <;> exact ⟨nofun, nofun⟩
  | tickAgent =>
      simp only [pc] at stepped
      cases stepped
      rcases tickAgent_fields env self shared with ⟨kept, actions, isSend⟩
      refine ⟨waiting_of_pc fun _ => ?_, .quiet (by simp only [reports, pc]) kept⟩
      rw [isSend]
      exact ⟨nofun, nofun⟩
  | send actions =>
      simp only [pc] at stepped
      cases stepped
      exact ⟨waiting_of_pc fun _ => ⟨nofun, nofun⟩, .quiet (by simp only [reports, pc]) rfl⟩
  | readHeartbeat =>
      simp only [pc] at stepped
      cases stepped
      rcases afterHeartbeatInterval_waiting self shared.client.heartbeatIntervalSecs with ⟨waits, kept⟩
      exact ⟨waits, .quiet (by simp only [reports, pc]) kept⟩
  | sendHeartbeat hbSecs =>
      simp only [pc] at stepped
      cases stepped
      exact ⟨fun _ _ => waiting hbSecs (Or.inl pc), .quiet (by simp only [reports, pc]) rfl⟩
  | checkTimeout hbSecs =>
      simp only [pc] at stepped
      cases input with
      | instant now =>
          simp only at stepped
          split at stepped
          · rename_i elapsed
            cases stepped
            exact ⟨waiting_of_pc fun _ => ⟨nofun, nofun⟩,
              .timeout hbSecs now pc rfl elapsed (by simp only [reports, pc, goto]) rfl⟩
          · cases stepped
            exact ⟨waiting_of_pc fun _ => ⟨nofun, nofun⟩, .quiet (by simp only [reports, pc, goto]) rfl⟩
      | _ => cases stepped
  | fireTimeout firing =>
      simp only [pc] at stepped
      cases stepped
      refine ⟨waiting_of_pc fun _ => ?_, .quiet (by simp only [reports, pc]) rfl⟩
      unfold fire
      dsimp only
      split <;> exact ⟨nofun, nofun⟩
  | finished =>
      simp only [pc] at stepped
      cases stepped

/-! ## One thread and its reports -/

/-- What the thread remembers of its reports, and what they are like. -/
structure Tracked (thread : TickThread) (reports : List StateReport) : Prop where
  lastState : thread.lastState = lastSeen reports
  waiting : thread.Waiting
  repeats : RepeatTimeouts reports

theorem Tracked.of_step {env : Environment} {self : TickThread} {shared : Shared} {input : Input}
    {outcome : Outcome Shared TickThread Note} {known : List StateReport} (tracked : self.Tracked known)
    (attached : shared.Attached) (stepped : self.step env shared input = some outcome) :
    outcome.thread.Tracked ((self.reports outcome.thread).toList ++ known) := by
  rcases step_reports tracked.waiting stepped with ⟨waiting, reported⟩
  cases reported with
  | quiet silent kept =>
      rw [silent]
      exact ⟨kept.trans tracked.lastState, waiting, tracked.repeats⟩
  | ofAgent owned found report changed remembered =>
      rw [report]
      refine ⟨remembered, waiting, ?_⟩
      cases known with
      | nil => exact List.isChain_singleton _
      | cons older known =>
          refine List.isChain_cons_cons.mpr ⟨?_, tracked.repeats⟩
          intro same
          cases older with
          | timeout => exact absurd same (attached owned found)
          | ofAgent state =>
              have seen : self.lastState = some state := tracked.lastState
              exact absurd (seen.trans (congrArg some same.symm)) changed
  | timeout hbSecs now pc isInput elapsed report kept =>
      rw [report]
      refine ⟨kept.trans tracked.lastState, waiting, ?_⟩
      cases known with
      | nil => exact List.isChain_singleton _
      | cons older known =>
          refine List.isChain_cons_cons.mpr ⟨?_, tracked.repeats⟩
          intro same
          cases older with
          | timeout => exact ⟨rfl, rfl⟩
          | ofAgent state =>
              have seen : self.lastState = some state := tracked.lastState
              have completed := tracked.waiting hbSecs (Or.inr pc)
              rw [seen] at completed
              cases completed
              cases same

end TickThread

/-! ## All threads and their reports -/

/-- What the thread at `id` reports in a step of the world. -/
def World.stateReport (before after : World) (id : Nat) : Option StateReport :=
  match before.threads[id]?, after.threads[id]? with
  | some (.tick self), some (.tick moved) => self.reports moved
  | _, _ => none

/-- The reports of every thread, the latest first. -/
def stateReports : Recorder World Event (Nat -> List StateReport) where
  start := fun _ => []
  record := fun before event after reports =>
    match event with
    | .run id _ => Function.update reports id ((before.stateReport after id).toList ++ reports id)
    | _ => reports

/-- Every tick thread knows its reports, and no other thread has any. -/
structure World.Tracked (world : World) (reports : Nat -> List StateReport) : Prop where
  attached : world.shared.Attached
  threads : forall (id : Nat) (thread : Thread), world.threads[id]? = some thread -> thread.Attached
  tick : forall (id : Nat) (self : TickThread), world.threads[id]? = some (.tick self) ->
    self.Tracked (reports id)
  other : forall id : Nat, (forall self, world.threads[id]? ≠ some (.tick self)) -> reports id = []

/-- A check of the thread that finds silence does not follow another one
without a change of state in between. -/
def Refreshed (before : World × (Nat -> List StateReport)) : Event -> Prop
  | .run id (.instant now) =>
      forall self hbSecs, before.1.threads[id]? = some (.tick self) ->
        self.pc = .checkTimeout hbSecs ->
        TickThread.timedOut before.1.shared.client.lastRecvInstant hbSecs now = true ->
        (before.2 id).head? ≠ some .timeout
  | _ => True

namespace World

variable {before : World} {reports : Nat -> List StateReport}

theorem tracked_new (io onStateChange onData onLog : Bool) :
    (World.new io onStateChange onData onLog).Tracked stateReports.start where
  attached := .of_none rfl
  threads := fun _ _ contrary => by cases contrary
  tick := fun _ _ contrary => by cases contrary
  other := fun _ _ => rfl

/-- A call appends threads that are no tick threads. -/
theorem Tracked.call {after : World} (tracked : before.Tracked reports) (calls : List Thread)
    (threads : after.threads = before.threads ++ calls)
    (plain : forall call, call ∈ calls -> call.madeBy = none ∧ call.Attached)
    (attached : after.shared.Attached) : after.Tracked reports where
  attached := attached
  threads := by
    intro id thread found
    rw [threads] at found
    rcases Nat.lt_or_ge id before.threads.length with old | new
    · rw [List.getElem?_append_left old] at found
      exact tracked.threads id thread found
    · rw [List.getElem?_append_right new] at found
      exact (plain thread (List.mem_of_getElem? found)).2
  tick := by
    intro id self found
    rw [threads] at found
    rcases Nat.lt_or_ge id before.threads.length with old | new
    · rw [List.getElem?_append_left old] at found
      exact tracked.tick id self found
    · rw [List.getElem?_append_right new] at found
      cases (plain _ (List.mem_of_getElem? found)).1
  other := by
    intro id noTick
    refine tracked.other id ?_
    intro self found
    have old := (List.getElem?_eq_some_iff.mp found).1
    exact noTick self (by rw [threads, List.getElem?_append_left old, found])

theorem Tracked.callConnect (tracked : before.Tracked reports) (heartbeatIntervalSecs : Nat) :
    (before.callConnect heartbeatIntervalSecs).Tracked reports := by
  cases io : before.shared.client.io with
  | true =>
      refine tracked.call [.connect (.storeHeartbeat heartbeatIntervalSecs)] (if_pos io) ?_ tracked.attached
      intro call member
      rw [List.mem_singleton.mp member]
      exact ⟨rfl, trivial⟩
  | false =>
      refine tracked.call [] ?_ (fun call contrary => by cases contrary) tracked.attached
      rw [List.append_nil]
      exact if_neg (by rw [io]; exact Bool.false_ne_true)

theorem Tracked.callClose (tracked : before.Tracked reports) : before.callClose.Tracked reports := by
  refine tracked.call [_] rfl ?_ (tracked.attached.of_iceAgent rfl)
  intro call member
  rw [List.mem_singleton.mp member]
  exact ⟨rfl, trivial⟩

variable {env : Environment} {id : Nat} {input : Input} {thread : Thread}
  {outcome : Outcome Shared Thread Note}

/-- Only a tick thread reports. -/
theorem stateReport_tick {self moved : TickThread} (found : before.threads[id]? = some (.tick self))
    (isTick : outcome.thread = .tick moved) :
    before.stateReport (before.record id outcome) id = self.reports moved := by
  have inside := (List.getElem?_eq_some_iff.mp found).1
  have after : (before.record id outcome).threads[id]? = some (.tick moved) := by
    rw [← isTick]
    exact threadsAfter_self inside
  simp only [stateReport, found, after]

theorem stateReport_other (found : before.threads[id]? = some thread)
    (notTick : forall self, thread ≠ .tick self) (after : World) : before.stateReport after id = none := by
  unfold stateReport
  rw [found]
  split
  · rename_i self moved isTick _
    exact absurd (Option.some.inj isTick) (notTick self)
  · rfl

/-- A step of one thread. -/
theorem Tracked.run (tracked : before.Tracked reports) (found : before.threads[id]? = some thread)
    (stepped : thread.step env before.shared before.threads id input = some outcome) :
    (before.record id outcome).Tracked (Function.update reports id
      ((before.stateReport (before.record id outcome) id).toList ++ reports id)) := by
  have inside := (List.getElem?_eq_some_iff.mp found).1
  have stays := Thread.step_attached tracked.attached (tracked.threads id thread found) stepped
  have madeBy := (step_ages stepped).grows.madeBy
  refine ⟨stays.shared, ?_, ?_, ?_⟩
  · intro k other isOther
    rcases threadsAfter_cases inside isOther with ⟨_, rfl⟩ | ⟨_, kept⟩ | ⟨_, new⟩
    · exact stays.thread
    · exact tracked.threads k other kept
    · exact stays.spawned other new
  · intro k moved isTick
    rcases threadsAfter_cases inside isTick with ⟨rfl, here⟩ | ⟨elsewhere, kept⟩ | ⟨atEnd, new⟩
    · rw [← here] at madeBy
      cases thread with
      | tick self =>
          rw [Function.update_self, stateReport_tick found here.symm]
          rcases Option.map_eq_some_iff.mp stepped with ⟨inner, isInner, rfl⟩
          cases here
          exact (tracked.tick k self found).of_step tracked.attached isInner
      | _ => cases madeBy
    · rw [Function.update_of_ne elsewhere]
      exact tracked.tick k moved kept
    · have elsewhere : k ≠ id := by omega
      have empty : reports k = [] := by
        refine tracked.other k ?_
        intro self contrary
        have := (List.getElem?_eq_some_iff.mp contrary).1
        omega
      rcases Thread.step_spawnsTick stepped new with ⟨stop, rfl⟩
      rw [Function.update_of_ne elsewhere, empty]
      exact ⟨rfl, TickThread.waiting_of_pc fun _ => ⟨nofun, nofun⟩, List.isChain_nil⟩
  · intro k noTick
    by_cases here : k = id
    · subst here
      have after : (before.record k outcome).threads[k]? = some outcome.thread := threadsAfter_self inside
      have notTick : forall self, thread ≠ .tick self := by
        rintro self rfl
        cases isThread : outcome.thread with
        | tick moved => exact noTick moved (after.trans (congrArg some isThread))
        | _ =>
            rw [isThread] at madeBy
            cases madeBy
      rw [Function.update_self, stateReport_other found notTick]
      refine tracked.other k ?_
      intro self contrary
      rw [found] at contrary
      exact notTick self (Option.some.inj contrary)
    · rw [Function.update_of_ne here]
      refine tracked.other k ?_
      intro self contrary
      exact noTick self (threadsAfter_of_ne here contrary)

end World

/-! ## Runs -/

theorem tracked_of_reachable {env : Environment} {run : World × (Nat -> List StateReport)}
    (reachable : ((clientSystem env).remember stateReports).Reachable run) : run.1.Tracked run.2 := by
  refine reachable.remembered_invariant World.Tracked ?_ ?_
  · rintro world ⟨io, onStateChange, onData, onLog, rfl⟩
    exact World.tracked_new io onStateChange onData onLog
  · intro before reports event after _ tracked stepped
    cases event with
    | connect heartbeatIntervalSecs =>
        cases stepped
        exact tracked.callConnect heartbeatIntervalSecs
    | close =>
        cases stepped
        exact tracked.callClose
    | run id input =>
        rcases World.apply_run stepped with ⟨thread, outcome, found, isOutcome, rfl⟩
        exact tracked.run found isOutcome

/-- A further report is a change unless it repeats a check that found silence. -/
theorem AreChanges.cons {newer : StateReport} {known : List StateReport} (changes : AreChanges known)
    (repeats : RepeatTimeouts (newer :: known))
    (refreshed : newer = .timeout -> known.head? ≠ some .timeout) : AreChanges (newer :: known) := by
  cases known with
  | nil => exact List.isChain_singleton _
  | cons older known =>
      refine List.isChain_cons_cons.mpr ⟨?_, changes⟩
      intro same
      rcases (List.isChain_cons_cons.mp repeats).1 same with ⟨isTimeout, wasTimeout⟩
      exact refreshed isTimeout (congrArg some wasTimeout)

/-- Where a step reports silence, a check of that thread found it. -/
theorem World.Tracked.timeout {before : World} {reports : Nat -> List StateReport} {env : Environment}
    {id : Nat} {input : Input} {thread : Thread} {outcome : Outcome Shared Thread Note}
    (tracked : before.Tracked reports) (found : before.threads[id]? = some thread)
    (stepped : thread.step env before.shared before.threads id input = some outcome)
    (silent : before.stateReport (before.record id outcome) id = some .timeout) :
    exists self hbSecs now, thread = .tick self ∧ self.pc = .checkTimeout hbSecs ∧ input = .instant now ∧
      TickThread.timedOut before.shared.client.lastRecvInstant hbSecs now = true := by
  cases thread with
  | tick self =>
      rcases Option.map_eq_some_iff.mp stepped with ⟨inner, isInner, rfl⟩
      rw [World.stateReport_tick found rfl] at silent
      cases (TickThread.step_reports (tracked.tick id self found).waiting isInner).2 with
      | quiet none kept => cases none.symm.trans silent
      | ofAgent owned held report changed remembered => cases report.symm.trans silent
      | timeout hbSecs now pc isInput elapsed report kept =>
          exact ⟨self, hbSecs, now, rfl, pc, isInput, elapsed⟩
  | _ =>
      rw [World.stateReport_other found (fun self => nofun)] at silent
      cases silent

/-- What a check that finds silence reports. -/
theorem World.timeout_report {before : World} {env : Environment} {id hbSecs now : Nat}
    {self : TickThread} {outcome : Outcome Shared Thread Note}
    (found : before.threads[id]? = some (.tick self))
    (pc : self.pc = .checkTimeout hbSecs)
    (elapsed : TickThread.timedOut before.shared.client.lastRecvInstant hbSecs now = true)
    (stepped : (Thread.tick self).step env before.shared before.threads id (.instant now) = some outcome) :
    before.stateReport (before.record id outcome) id = some .timeout := by
  rcases Option.map_eq_some_iff.mp stepped with ⟨inner, isInner, rfl⟩
  rw [World.stateReport_tick found rfl]
  unfold TickThread.step at isInner
  simp only [pc, elapsed, if_pos] at isInner
  cases isInner
  simp only [TickThread.reports, pc, TickThread.goto]

/-- The step lemma: a step that meets the condition adds a change, if anything. -/
theorem areChanges_step {env : Environment} {before : World} {reports : Nat -> List StateReport}
    {event : Event} {after : World} (tracked : before.Tracked reports)
    (changes : forall id, AreChanges (reports id)) (refreshed : Refreshed (before, reports) event)
    (stepped : (clientSystem env).step before event after) :
    forall id, AreChanges (stateReports.record before event after reports id) := by
  cases event with
  | connect heartbeatIntervalSecs => exact changes
  | close => exact changes
  | run id input =>
      rcases World.apply_run stepped with ⟨thread, outcome, found, isOutcome, rfl⟩
      have later := tracked.run found isOutcome
      intro k
      by_cases here : k = id
      · subst here
        show AreChanges (Function.update reports k _ k)
        rw [Function.update_self]
        cases report : before.stateReport (before.record k outcome) k with
        | none => exact changes k
        | some newer =>
            have notTick : exists self, thread = .tick self := by
              by_contra other
              rw [World.stateReport_other found (fun self same => other ⟨self, same⟩)] at report
              cases report
            have repeats : RepeatTimeouts (newer :: reports k) := by
              rcases notTick with ⟨self, rfl⟩
              rcases Option.map_eq_some_iff.mp isOutcome with ⟨inner, isInner, rfl⟩
              have moved := (tracked.tick k self found).of_step tracked.attached isInner
              rw [World.stateReport_tick found rfl] at report
              rw [report] at moved
              exact moved.repeats
            refine (changes k).cons repeats ?_
            rintro rfl
            rcases tracked.timeout found isOutcome report with ⟨self, hbSecs, now, rfl, pc, rfl, elapsed⟩
            exact refreshed self hbSecs found pc elapsed
      · show AreChanges (Function.update reports id _ k)
        rw [Function.update_of_ne here]
        exact changes k

/-- In every run in which no check that finds silence follows another one
without a change of state in between, all reports are changes; and a step that
does not meet this ends with a report that is none. -/
theorem reports_are_changes (env : Environment) :
    (forall run, (((clientSystem env).remember stateReports).restrict Refreshed).Reachable run ->
      forall id, AreChanges (run.2 id)) ∧
    forall before event after,
      ((clientSystem env).remember stateReports).ReachableStep before event after ->
        ¬ Refreshed before event -> exists id, ¬ AreChanges (after.2 id) := by
  constructor
  · intro run reachable
    refine reachable.invariant_of_reachable (fun run => forall id, AreChanges (run.2 id)) ?_ ?_
    · rintro start ⟨_, isStart⟩ id
      rw [isStart]
      exact List.isChain_nil
    · rintro before event after earlier changes ⟨refreshed, stepped, recorded⟩
      rw [recorded]
      exact areChanges_step (tracked_of_reachable earlier.of_restrict) changes refreshed stepped
  · rintro before event after ⟨_, stepped, recorded⟩ unrefreshed
    cases event with
    | connect heartbeatIntervalSecs => exact absurd trivial unrefreshed
    | close => exact absurd trivial unrefreshed
    | run id input =>
        cases input with
        | instant now =>
            simp only [Refreshed, not_forall, not_not] at unrefreshed
            rcases unrefreshed with ⟨self, hbSecs, found, pc, elapsed, last⟩
            rcases World.apply_run stepped with ⟨thread, outcome, isThread, isOutcome, isAfter⟩
            rw [found] at isThread
            cases isThread
            have report := World.timeout_report found pc elapsed isOutcome
            refine ⟨id, ?_⟩
            rw [recorded, isAfter]
            show ¬ AreChanges (Function.update before.2 id _ id)
            rw [Function.update_self, report]
            rcases List.head?_eq_some_iff.mp last with ⟨known, isKnown⟩
            rw [isKnown]
            intro changes
            exact (List.isChain_cons_cons.mp changes).1 rfl
        | _ => exact absurd trivial unrefreshed

/-- One datagram, and a check that finds silence two seconds later. -/
def silentSession : List Event :=
  sessionEvents 0 1 ++ receiveEvents 3 [0xFF] ++ .run 3 (.instant 0) :: runs 3 4 ++ runs 2 8 ++
    [.run 2 (.instant 2000)]

/-- The agent is completed, then silence is found: two reports, and both are changes. -/
theorem silence_reported_once :
    exists run, (((clientSystem concreteEnvironment).remember stateReports).restrict
      Refreshed).Reachable run ∧ run.2 2 = [.timeout, .ofAgent .completed] ∧
        forall id, AreChanges (run.2 id) := by
  have isStart : ((clientSystem concreteEnvironment).remember stateReports).initial
      (World.new true true true true, stateReports.start) := ⟨⟨true, true, true, true, rfl⟩, rfl⟩
  -- Stricter than the condition: no clock is read behind a report of silence.
  have meets : forall (run : World × (Nat -> List StateReport)) (event : Event),
      (match event with
        | .run id (.instant _) => decide ((run.2 id).head? ≠ some .timeout)
        | _ => true) = true -> Refreshed run event := by
    intro run event passes
    cases event with
    | run id input =>
        cases input with
        | instant now => exact fun _ _ _ _ _ => of_decide_eq_true passes
        | _ => exact trivial
    | _ => exact trivial
  have ends : (TransitionSystem.perform
      (TransitionSystem.recordNext stateReports (World.apply concreteEnvironment))
      (fun run event => match event with
        | .run id (.instant _) => decide ((run.2 id).head? ≠ some .timeout)
        | _ => true)
      (World.new true true true true, stateReports.start) silentSession).any
      (fun run => run.2 2 = [.timeout, .ofAgent .completed]) = true := by
    decide +kernel
  have reached : exists run, (((clientSystem concreteEnvironment).remember stateReports).restrict
      Refreshed).Reachable run ∧ _ = true :=
    TransitionSystem.exists_reachable Refreshed
      (fun _ _ _ stepped => TransitionSystem.recordNext_step (fun _ _ _ applied => applied) stepped)
      meets isStart ends
  rcases reached with ⟨run, reachable, test⟩
  exact ⟨run, reachable, of_decide_eq_true test,
    (reports_are_changes concreteEnvironment).1 run reachable⟩

/-- Two checks in a row find silence, and both report DISCONNECTED. -/
theorem silence_reported_twice :
    ¬ forall (env : Environment) (run : World × (Nat -> List StateReport)),
      ((clientSystem env).remember stateReports).Reachable run -> forall id, AreChanges (run.2 id) := by
  intro claim
  have isStart : ((clientSystem concreteEnvironment).remember stateReports).initial
      (World.new true true true true, stateReports.start) := ⟨⟨true, true, true, true, rfl⟩, rfl⟩
  have ends : (TransitionSystem.perform
      (TransitionSystem.recordNext stateReports (World.apply concreteEnvironment)) (fun _ _ => true)
      (World.new true true true true, stateReports.start)
      (silentSession ++ runs 2 3 ++ runs 2 4 ++ [.run 2 (.instant 2050)])).any
      (fun run => run.2 2 = [.timeout, .timeout, .ofAgent .completed]) = true := by
    decide +kernel
  have reached : exists run, (((clientSystem concreteEnvironment).remember stateReports).restrict
      fun _ _ => True).Reachable run ∧ _ = true :=
    TransitionSystem.exists_reachable (fun _ _ => True)
      (fun _ _ _ stepped => TransitionSystem.recordNext_step (fun _ _ _ applied => applied) stepped)
      (fun _ _ _ => trivial) isStart ends
  rcases reached with ⟨run, reachable, test⟩
  have changes := claim concreteEnvironment run reachable.of_restrict 2
  rw [of_decide_eq_true test] at changes
  exact (List.isChain_cons_cons.mp changes).1 rfl

end P2pSdk
