import P2pSdk.Client.Clock

namespace P2pSdk

open Foundation

/-!
# What a session leaves behind

Neither `close` nor `connect` touches the time of the last datagram or the
queue of sequence ids.  Only receive threads write to them, each at one
program point.
-/

/-- The time of the last datagram and the queue of sequence ids are as they were. -/
structure Shared.Remembers (before after : Shared) : Prop where
  lastRecvInstant : after.client.lastRecvInstant = before.client.lastRecvInstant
  pendingSeqIds : after.client.pendingSeqIds = before.client.pendingSeqIds

theorem Shared.Remembers.refl (shared : Shared) : Shared.Remembers shared shared :=
  ⟨rfl, rfl⟩

theorem Shared.remembers_sendAll (shared : Shared) (actions : List IceAction) :
    Shared.Remembers shared (shared.sendAll actions) := by
  unfold Shared.sendAll
  cases shared.client.iceUdp with
  | none => exact .refl shared
  | some udp => exact ⟨rfl, rfl⟩

theorem Shared.remembers_sendHeartbeat (shared : Shared) (udp : Option Nat) :
    Shared.Remembers shared (shared.sendHeartbeat udp) := by
  unfold Shared.sendHeartbeat
  split
  · exact ⟨rfl, rfl⟩
  · exact .refl shared

theorem Client.remembers_setCallback (shared : Shared) (present : Bool) (notice : Notice) :
    Shared.Remembers shared
      { shared with client := shared.client.setCallback present notice } := by
  cases notice <;> exact ⟨rfl, rfl⟩

theorem Firing.step_remembers (firing : Firing) (notice : Notice) (shared : Shared) :
    Shared.Remembers shared { shared with client := (firing.step notice shared.client).1 } := by
  cases firing with
  | take =>
      unfold Firing.step
      cases present : shared.client.callback notice with
      | true =>
          rw [if_pos rfl]
          exact Client.remembers_setCallback shared false notice
      | false => exact .refl shared
  | call => exact .refl shared
  | restore => exact Client.remembers_setCallback shared true notice

theorem TickThread.tickAgent_remembers (env : Environment) (self : TickThread) (shared : Shared) :
    Shared.Remembers shared (self.tickAgent env shared).shared := by
  unfold tickAgent
  cases shared.client.iceAgent with
  | none => exact .refl shared
  | some owned => exact ⟨rfl, rfl⟩

theorem TickThread.Touches.remembers {env : Environment} {self : TickThread} {before after : Shared}
    (touches : self.Touches env before after) : Shared.Remembers before after := by
  cases touches with
  | nothing => exact .refl before
  | agent => exact tickAgent_remembers env self before
  | callback firing state => exact firing.step_remembers _ before
  | actions actions => exact before.remembers_sendAll actions
  | heartbeat => exact before.remembers_sendHeartbeat _

/-- What a receive thread writes down in a step. -/
inductive RecvThread.Writes (self : RecvThread) (input : Input) (before after : Shared) : Prop
  | nothing : Shared.Remembers before after -> Writes self input before after
  | instant (udp : Nat) (appData : Bytes) (now : Nat) :
      self.pc = .storeInstant udp appData -> input = .instant now ->
      after = { before with client := { before.client with lastRecvInstant := some now } } ->
      Writes self input before after
  | seqId (seqId : UInt64) (payload : Bytes) :
      self.pc = .pushSeqId seqId payload ->
      after =
        { before with
          client := { before.client with
            pendingSeqIds := before.client.pendingSeqIds ++ [seqId] } } ->
      Writes self input before after

theorem RecvThread.Touches.writes {self : RecvThread} {input : Input} {before after : Shared}
    (touches : self.Touches input before after) : self.Writes input before after := by
  cases touches with
  | nothing => exact .nothing (.refl before)
  | agent found isHandled => exact .nothing ⟨rfl, rfl⟩
  | instant udp appData now pc isInput => exact .instant udp appData now pc isInput rfl
  | heartbeat udp => exact .nothing (before.remembers_sendHeartbeat _)
  | callback firing notice => exact .nothing (firing.step_remembers notice before)
  | seqId seqId payload pc => exact .seqId seqId payload pc rfl

theorem ConnectPc.step_remembers {pc : ConnectPc} {shared : Shared} {input : Input}
    {outcome : Outcome Shared Thread Note} (stepped : pc.step shared input = some outcome) :
    Shared.Remembers shared outcome.shared := by
  cases pc with
  | storeHeartbeat heartbeatIntervalSecs =>
      rcases ConnectPc.step_storeHeartbeat stepped with rfl | rfl
      · exact .refl shared
      · exact ⟨rfl, rfl⟩
  | spawnBackground =>
      cases stepped
      exact .refl shared
  | returned => cases stepped

theorem BackgroundPc.step_remembers {pc : BackgroundPc} {shared : Shared} {threads : List Thread}
    {id : Nat} {input : Input} {outcome : Outcome Shared Thread Note}
    (stepped : pc.step shared threads id input = some outcome) :
    Shared.Remembers shared outcome.shared := by
  cases pc with
  | gather =>
      rcases BackgroundPc.step_gather stepped with rfl | rfl
      · exact .refl shared
      · exact .refl shared
  | negotiate =>
      rcases BackgroundPc.step_negotiate stepped with rfl | ⟨agent, rfl⟩
      · exact .refl shared
      · exact .refl shared
  | joinTick tick recv =>
      rcases BackgroundPc.step_joinTick stepped with rfl
      exact .refl shared
  | joinRecv recv =>
      rcases BackgroundPc.step_joinRecv stepped with rfl
      exact .refl shared
  | fireFailed firing =>
      cases stepped
      exact firing.step_remembers _ shared
  | done => cases stepped
  | _ =>
      cases stepped
      exact ⟨rfl, rfl⟩

theorem ClosePc.step_remembers {pc : ClosePc} {shared : Shared} {threads : List Thread}
    {outcome : Outcome Shared Thread Note} (stepped : pc.step shared threads = some outcome) :
    Shared.Remembers shared outcome.shared := by
  cases pc with
  | joinTick tick recv =>
      rcases ClosePc.step_joinTick stepped with ⟨_, rfl⟩
      exact .refl shared
  | joinRecv recv =>
      rcases ClosePc.step_joinRecv stepped with ⟨_, rfl⟩
      exact .refl shared
  | clear =>
      cases stepped
      exact ⟨rfl, rfl⟩
  | returned => cases stepped

/-- Whatever is not a receive thread leaves both alone. -/
theorem Thread.step_remembers {env : Environment} {thread : Thread} {shared : Shared}
    {threads : List Thread} {id : Nat} {input : Input} {outcome : Outcome Shared Thread Note}
    (notRecv : forall self, thread ≠ .recv self)
    (stepped : thread.step env shared threads id input = some outcome) :
    Shared.Remembers shared outcome.shared := by
  cases thread with
  | connect pc => exact ConnectPc.step_remembers stepped
  | background pc => exact BackgroundPc.step_remembers stepped
  | close pc => exact ClosePc.step_remembers stepped
  | tick self =>
      rcases Option.map_eq_some_iff.mp stepped with ⟨inner, isInner, rfl⟩
      exact (TickThread.step_touches isInner).remembers
  | recv self => exact absurd rfl (notRecv self)

/-! ## Receive threads and their background threads -/

/-- A new receive thread is made by a background thread that spawns no more. -/
theorem Thread.step_spawnsRecv {env : Environment} {thread : Thread} {shared : Shared}
    {threads : List Thread} {id : Nat} {input : Input} {outcome : Outcome Shared Thread Note}
    {self : RecvThread} (stepped : thread.step env shared threads id input = some outcome)
    (spawned : outcome.spawned = some (.recv self)) (unfinished : self.pc ≠ .finished) :
    self.starter = id ∧ outcome.thread.spawnedTick = true := by
  by_cases begins : thread.Begins
  · cases begins with
    | storeAgent agent =>
        cases stepped
        cases spawned
    | replaceStop =>
        cases stepped
        cases spawned
    | spawnTick stop =>
        cases stepped
        cases spawned
    | spawnRecv stop tick =>
        cases stepped
        cases spawned
        exact ⟨rfl, rfl⟩
  · have idle := ((Thread.step_passes begins stepped).spawned _ spawned).1
    exact absurd (by simpa [Thread.running] using idle.running) unfinished

/-- A new tick thread is at its start. -/
theorem Thread.step_spawnsTick {env : Environment} {thread : Thread} {shared : Shared}
    {threads : List Thread} {id : Nat} {input : Input} {outcome : Outcome Shared Thread Note}
    {self : TickThread} (stepped : thread.step env shared threads id input = some outcome)
    (spawned : outcome.spawned = some (.tick self)) : exists stop, self = .start id stop := by
  by_cases begins : thread.Begins
  · cases begins with
    | storeAgent agent =>
        cases stepped
        cases spawned
    | replaceStop =>
        cases stepped
        cases spawned
    | spawnTick stop =>
        cases stepped
        cases spawned
        exact ⟨stop, rfl⟩
    | spawnRecv stop tick =>
        cases stepped
        cases spawned
  · cases ((Thread.step_passes begins stepped).spawned _ spawned).2

/-- A thread that is a receive thread after its step was one before. -/
theorem Thread.recv_of_step {env : Environment} {thread : Thread} {shared : Shared}
    {threads : List Thread} {id : Nat} {input : Input} {outcome : Outcome Shared Thread Note}
    {moved : RecvThread} (stepped : thread.step env shared threads id input = some outcome)
    (isRecv : outcome.thread = .recv moved) :
    exists self inner, thread = .recv self ∧ RecvThread.step shared self input = some inner ∧
      outcome = inner.map .recv := by
  cases thread with
  | recv self =>
      rcases Option.map_eq_some_iff.mp stepped with ⟨inner, isInner, rfl⟩
      exact ⟨self, inner, rfl, isInner, rfl⟩
  | tick self =>
      rcases Option.map_eq_some_iff.mp stepped with ⟨inner, _, rfl⟩
      cases isRecv
  | connect pc =>
      have stepped : pc.step shared input = some outcome := stepped
      cases pc with
      | storeHeartbeat heartbeatIntervalSecs =>
          rcases ConnectPc.step_storeHeartbeat stepped with rfl | rfl
          · cases isRecv
          · cases isRecv
      | spawnBackground =>
          cases stepped
          cases isRecv
      | returned => cases stepped
  | close pc =>
      have stepped : pc.step shared threads = some outcome := stepped
      cases pc with
      | joinTick tick recv =>
          rcases ClosePc.step_joinTick stepped with ⟨_, rfl⟩
          cases isRecv
      | joinRecv recv =>
          rcases ClosePc.step_joinRecv stepped with ⟨_, rfl⟩
          cases isRecv
      | clear =>
          cases stepped
          cases isRecv
      | returned => cases stepped
  | background pc =>
      have stepped : pc.step shared threads id input = some outcome := stepped
      cases pc with
      | gather =>
          rcases BackgroundPc.step_gather stepped with rfl | rfl
          · cases isRecv
          · cases isRecv
      | negotiate =>
          rcases BackgroundPc.step_negotiate stepped with rfl | ⟨agent, rfl⟩
          · cases isRecv
          · cases isRecv
      | joinTick tick recv =>
          rcases BackgroundPc.step_joinTick stepped with rfl
          cases isRecv
      | joinRecv recv =>
          rcases BackgroundPc.step_joinRecv stepped with rfl
          cases isRecv
      | done => cases stepped
      | _ =>
          cases stepped
          cases isRecv

end P2pSdk
