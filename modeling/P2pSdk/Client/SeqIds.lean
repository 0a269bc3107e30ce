import P2pSdk.Client.Delivery
import P2pSdk.Client.Leftovers
import P2pSdk.Foundation.Holders

namespace P2pSdk

open Foundation

/-!
# Sequence ids of a session (`client.rs`)

A sequence id travels from the receive thread that finds it in a data frame,
through the queue of the client, to the call of `send_text` that takes it and
puts it on its own frame.  Neither `close` nor `connect` empties the queue, and
each part of the way is in blocks of its own.

The world of the calls to `send_text` remembers the ids received and the ids
used since the session began, that is since the last call to `connect` or the
last return of `close`.
-/

/-! ## Ids on the way -/

/-- The id that a receive thread has found and not yet queued. -/
def RecvThread.seqIds (self : RecvThread) : List UInt64 :=
  match self.pc with
  | .storeInstant _ appData => seqIdOf appData
  | .readHeartbeat _ appData => seqIdOf appData
  | .log _ (.deliver seqId _) => if 0 < seqId then [seqId] else []
  | .pushSeqId seqId _ => [seqId]
  | _ => []

def Thread.seqIds : Thread -> List UInt64
  | .recv self => self.seqIds
  | _ => []

/-- The id that a call of `send_text` has taken and not yet sent. -/
def SendText.seqIds (self : SendText) : List UInt64 :=
  if self.pc ≠ .returned ∧ 0 < self.seqId then [self.seqId] else []

/-- The id of the data frame that a step of a receive thread has handed to the agent. -/
def RecvThread.receives (self moved : RecvThread) : List UInt64 :=
  match self.pc, moved.pc with
  | .handle _ _ _, .storeInstant _ appData => seqIdOf appData
  | _, _ => []

/-! ## Runs -/

structure TextWorld where
  world : World
  senders : List SendText
  received : List UInt64
  used : List UInt64

inductive TextEvent where
  | client (event : Event)
  | sendText (text : String)
  | runSender (id : Nat)

namespace TextWorld

/-- A client before its first call. -/
def new (io onStateChange onData onLog : Bool) : TextWorld where
  world := World.new io onStateChange onData onLog
  senders := []
  received := []
  used := []

/-- The world after an event of the client, with what is remembered of it. -/
def record (texts : TextWorld) (event : Event) (after : World) : TextWorld :=
  match event with
  | .connect _ => { texts with world := after, received := [], used := [] }
  | .close => { texts with world := after }
  | .run id _ =>
      match texts.world.threads[id]?, after.threads[id]? with
      | some (.recv self), some (.recv moved) =>
          { texts with world := after, received := texts.received ++ self.receives moved }
      | some (.close .clear), _ => { texts with world := after, received := [], used := [] }
      | _, _ => { texts with world := after }

def apply (env : Environment) (texts : TextWorld) : TextEvent -> Option TextWorld
  | .client event => (texts.world.apply env event).map (texts.record event)
  | .sendText text =>
      let called := SendText.call text texts.world.shared
      some
        { texts with
          world := { texts.world with shared := called.1 }
          senders := texts.senders ++ [called.2] }
  | .runSender id =>
      match texts.senders[id]? with
      | none => none
      | some sender =>
          (sender.step texts.world.shared).map fun stepped =>
            { texts with
              world := { texts.world with shared := stepped.1 }
              senders := texts.senders.set id stepped.2.1
              used := texts.used ++
                stepped.2.2.toList.flatMap fun datagram => seqIdOf datagram.action.data }

/-- The ids on the frames sent in this session are ids received in it, in their
order, each used at most once. -/
def Correlates (texts : TextWorld) : Prop := texts.used.Sublist texts.received

/-- No id is on its way. -/
structure Drained (texts : TextWorld) : Prop where
  senders : texts.senders.flatMap SendText.seqIds = []
  pending : texts.world.shared.client.pendingSeqIds = []
  threads : texts.world.threads.flatMap Thread.seqIds = []

/-- A session begins and ends with no id on its way, an id is taken while no
other call holds one, and found while no other receive thread does. -/
def Orderly (before : TextWorld) : TextEvent -> Prop
  | .client (.connect _) => before.Drained
  | .client .close => True
  | .client (.run id _) =>
      match before.world.threads[id]? with
      | some (.close .clear) => before.Drained
      | some (.recv ⟨_, _, .handle _ data _⟩) =>
          seqIdOf data = [] ∨ before.world.threads.flatMap Thread.seqIds = []
      | _ => True
  | .sendText _ =>
      before.world.shared.client.pendingSeqIds = [] ∨
        before.senders.flatMap SendText.seqIds = []
  | .runSender _ => True

end TextWorld

/-- All runs of one client and the calls to its `send_text`. -/
def textSystem (env : Environment) : TransitionSystem TextWorld TextEvent where
  initial := fun texts => exists io onStateChange onData onLog,
    texts = TextWorld.new io onStateChange onData onLog
  step := fun before event after => before.apply env event = some after

/-! ## Steps of a call -/

/-- The id on the frame that `send_text` builds. -/
theorem seqIdOf_textFrame (text : String) (seqId : UInt64) :
    seqIdOf (textFrame text seqId) = if 0 < seqId then [seqId] else [] := by
  have parsed := parseFrame_encoded_any (asBytes text) TYPE_DATA seqId []
  rw [List.append_nil] at parsed
  rw [textFrame_eq, seqIdOf, encodeDataFrameWithSeq, List.append_assoc, List.append_assoc, parsed]
  simp only [true_and]

namespace SendText

variable {self moved : SendText} {shared after : Shared} {sent : Option SentDatagram}

theorem seqIds_of_ne (unfinished : self.pc ≠ .returned) :
    self.seqIds = if 0 < self.seqId then [self.seqId] else [] := by
  unfold seqIds
  simp only [ne_eq, unfinished, not_false_eq_true, true_and]

/-- A step of a call leaves the queue, and either keeps the id or is done with
it, having sent it at most once. -/
theorem step_seqIds (stepped : self.step shared = some (after, moved, sent)) :
    after.client.pendingSeqIds = shared.client.pendingSeqIds ∧
      ((moved.seqIds = self.seqIds ∧ sent = none) ∨
      (moved.seqIds = [] ∧
        (sent.toList.flatMap fun datagram => seqIdOf datagram.action.data).Sublist
          self.seqIds)) := by
  unfold step at stepped
  cases pc : self.pc with
  | log firing =>
      simp only [pc, Option.some.injEq, Prod.mk.injEq] at stepped
      rcases stepped with ⟨rfl, rfl, rfl⟩
      refine ⟨(firing.step_remembers .log shared).pendingSeqIds, Or.inl ⟨?_, rfl⟩⟩
      have before : self.seqIds = _ := seqIds_of_ne (by rw [pc]; exact nofun)
      rw [before, seqIds_of_ne]
      cases (firing.step .log shared.client).2.1 with
      | none => exact nofun
      | some later => exact nofun
  | send =>
      simp only [pc, Option.some.injEq, Prod.mk.injEq] at stepped
      rcases stepped with ⟨rfl, rfl, rfl⟩
      refine ⟨rfl, Or.inr ⟨rfl, ?_⟩⟩
      cases sends : shared.sendData (textFrame self.text self.seqId) with
      | none => exact List.nil_sublist _
      | some datagram =>
          rw [Option.toList_some, List.flatMap_singleton, (Shared.sendData_some sends).1,
            seqIdOf_textFrame, seqIds_of_ne (by rw [pc]; exact nofun)]
  | returned =>
      simp only [pc] at stepped
      cases stepped

end SendText

/-! ## Steps of a receive thread -/

/-- An agent passes application data on unchanged. -/
theorem IceAgent.appData_of_handle {agent after : IceAgent} {data appData : Bytes}
    {source : Address} {result : HandleDataResult}
    (handled : agent.handleIncomingData data source = .ok (after, result))
    (passed : result.appData = some appData) : appData = data := by
  rcases handleIncomingData_cases handled with
    ⟨parsed, _, ⟨_, _, rfl⟩ | ⟨_, _, request⟩ | ⟨_, _, _, rfl⟩⟩
  · cases passed
    rfl
  · rcases agent.handleIncomingStun_cases data parsed source with
      ⟨_, same⟩ | ⟨_, _, same⟩ | ⟨_, _, _, same⟩
    · rw [same] at request
      cases request
      cases passed
    · rw [same] at request
      cases request
      cases passed
    · rw [same] at request
      cases request
      cases passed
  · cases passed

/-- The block that hands a datagram to the agent. -/
def RecvPc.handles : RecvPc -> Bool
  | .handle _ _ _ => true
  | _ => false

namespace RecvThread

variable {self : RecvThread} {shared : Shared} {input : Input}
  {outcome : Outcome Shared RecvThread Note}

/-- A data frame that carries an id goes on with it; other data go on without. -/
theorem dispatch_seqIds (self : RecvThread) (hbSecs udp : Nat) (appData : Bytes) :
    ({ self with pc := dispatch hbSecs udp appData } : RecvThread).seqIds = seqIdOf appData ∨
      ({ self with pc := dispatch hbSecs udp appData } : RecvThread).seqIds = [] := by
  unfold dispatch seqIdOf
  cases parseFrame appData with
  | none => exact Or.inr rfl
  | some parsed =>
      simp only
      split_ifs <;> simp_all [seqIds]

/-- A log line makes no difference to the id of a message. -/
theorem afterLog_seqIds (self : RecvThread) (firing : Firing) (next : AfterLog) :
    ({ self with pc := afterLog next } : RecvThread).seqIds =
      ({ self with pc := .log firing next } : RecvThread).seqIds := by
  cases next with
  | again => rfl
  | deliver seqId payload =>
      by_cases positive : 0 < seqId
      · simp only [afterLog, if_pos positive, seqIds]
      · simp only [afterLog, if_neg positive, seqIds]

/-- What a step of a receive thread does with ids. -/
inductive Passes (self : RecvThread) (shared : Shared)
    (outcome : Outcome Shared RecvThread Note) : Prop
  | keeps : outcome.shared.client.pendingSeqIds = shared.client.pendingSeqIds ->
      self.receives outcome.thread = [] ->
      outcome.thread.seqIds = self.seqIds ∨ outcome.thread.seqIds = [] ->
      Passes self shared outcome
  | finds (udp : Nat) (data : Bytes) (source : Address) : self.pc = .handle udp data source ->
      outcome.shared.client.pendingSeqIds = shared.client.pendingSeqIds ->
      self.receives outcome.thread = seqIdOf data -> outcome.thread.seqIds = seqIdOf data ->
      Passes self shared outcome
  | queues (seqId : UInt64) : self.seqIds = [seqId] -> outcome.thread.seqIds = [] ->
      self.receives outcome.thread = [] ->
      outcome.shared.client.pendingSeqIds = shared.client.pendingSeqIds ++ [seqId] ->
      Passes self shared outcome

/-- Only the block that hands a datagram to the agent receives. -/
theorem receives_nil {moved : RecvThread} (other : self.pc.handles = false) :
    self.receives moved = [] := by
  unfold receives
  cases pc : self.pc with
  | handle udp data source =>
      rw [pc] at other
      cases other
  | _ => rfl

theorem handle_passes {udp : Nat} {data : Bytes} {source : Address}
    (pc : self.pc = .handle udp data source)
    (handled : self.handle shared udp data source = some outcome) :
    Passes self shared outcome := by
  unfold handle at handled
  cases current : shared.client.iceAgent with
  | none =>
      simp only [current] at handled
      cases handled
      refine .keeps rfl ?_ (Or.inr rfl)
      unfold receives
      rw [pc]
      rfl
  | some owned =>
      simp only [current] at handled
      cases result : owned.agent.handleIncomingData data source with
      | error panic =>
          simp only [result] at handled
          cases handled
      | ok after =>
          simp only [result] at handled
          cases handled
          cases passed : after.2.appData with
          | none =>
              refine .keeps rfl ?_ (Or.inr ?_)
              · unfold receives
                rw [pc]
                rfl
              · rfl
          | some appData =>
              have same := IceAgent.appData_of_handle result passed
              subst same
              refine .finds udp appData source pc rfl ?_ ?_
              · unfold receives
                rw [pc]
                rfl
              · rfl

theorem step_passes (stepped : self.step shared input = some outcome) :
    Passes self shared outcome := by
  unfold step at stepped
  cases pc : self.pc with
  | handle udp data source =>
      simp only [pc] at stepped
      exact handle_passes pc stepped
  | storeInstant udp appData =>
      simp only [pc] at stepped
      cases input with
      | instant now =>
          cases stepped
          refine .keeps rfl (receives_nil (by rw [pc]; rfl)) (Or.inl ?_)
          simp only [goto, seqIds, pc]
      | _ => cases stepped
  | readHeartbeat udp appData =>
      simp only [pc] at stepped
      cases stepped
      refine .keeps rfl (receives_nil (by rw [pc]; rfl)) ?_
      rcases self.dispatch_seqIds shared.client.heartbeatIntervalSecs udp appData with same | none
      · refine Or.inl (same.trans ?_)
        simp only [seqIds, pc]
      · exact Or.inr none
  | log firing next =>
      simp only [pc] at stepped
      cases stepped
      refine .keeps (firing.step_remembers _ shared).pendingSeqIds
        (receives_nil (by rw [pc]; rfl)) (Or.inl ?_)
      have before : self.seqIds = _ := (congrArg (fun pc => seqIds { self with pc := pc }) pc)
      rw [before]
      cases ended : (firing.step .log shared.client).2.1 with
      | some later =>
          simp only [fire, ended]
          exact (self.afterLog_seqIds later next).symm.trans (self.afterLog_seqIds firing next)
      | none =>
          simp only [fire, ended]
          exact self.afterLog_seqIds firing next
  | pushSeqId seqId payload =>
      simp only [pc] at stepped
      cases stepped
      refine .queues seqId ?_ rfl (receives_nil (by rw [pc]; rfl)) rfl
      simp only [seqIds, pc]
  | fireData payload firing =>
      simp only [pc] at stepped
      cases stepped
      refine .keeps (firing.step_remembers _ shared).pendingSeqIds
        (receives_nil (by rw [pc]; rfl)) (Or.inr ?_)
      simp only [fire, seqIds]
      cases (firing.step (.data payload) shared.client).2.1 with
      | none => rfl
      | some later => rfl
  | checkStop =>
      simp only [pc] at stepped
      split at stepped
      · cases stepped
        exact .keeps rfl (receives_nil (by rw [pc]; rfl)) (Or.inr rfl)
      · cases stepped
        exact .keeps rfl (receives_nil (by rw [pc]; rfl)) (Or.inr rfl)
  | cloneUdp =>
      simp only [pc] at stepped
      split at stepped
      · cases stepped
        exact .keeps rfl (receives_nil (by rw [pc]; rfl)) (Or.inr rfl)
      · cases stepped
        exact .keeps rfl (receives_nil (by rw [pc]; rfl)) (Or.inr rfl)
  | receive udp =>
      simp only [pc] at stepped
      split at stepped
      · cases stepped
        exact .keeps rfl (receives_nil (by rw [pc]; rfl)) (Or.inr rfl)
      · cases stepped
        exact .keeps rfl (receives_nil (by rw [pc]; rfl)) (Or.inr rfl)
  | replyHeartbeat udp =>
      simp only [pc] at stepped
      cases stepped
      exact .keeps (shared.remembers_sendHeartbeat _).pendingSeqIds
        (receives_nil (by rw [pc]; rfl)) (Or.inr rfl)
  | finished =>
      simp only [pc] at stepped
      cases stepped

end RecvThread

/-- A thread that belongs to no session has found no id. -/
theorem Thread.Idle.seqIds {thread : Thread} (idle : thread.Idle) : thread.seqIds = [] := by
  cases thread with
  | recv self =>
      have finished : self.pc = .finished := by
        simpa [Thread.running] using idle.running
      simp only [Thread.seqIds, RecvThread.seqIds, finished]
  | _ => rfl

/-- A new thread has found no id. -/
theorem Thread.spawned_seqIds {env : Environment} {thread other : Thread} {shared : Shared}
    {threads : List Thread} {id : Nat} {input : Input} {outcome : Outcome Shared Thread Note}
    (stepped : thread.step env shared threads id input = some outcome)
    (spawned : outcome.spawned = some other) : other.seqIds = [] := by
  by_cases begins : thread.Begins
  · cases begins with
    | storeAgent agent =>
        cases stepped
        cases spawned
    | replaceStop =>
        cases stepped
        cases spawned
    | spawnTick stop =>
        cases stepped
        cases spawned
        rfl
    | spawnRecv stop tick =>
        cases stepped
        cases spawned
        rfl
  · exact ((Thread.step_passes begins stepped).spawned other spawned).1.seqIds

/-- Only receive threads find ids. -/
theorem Thread.seqIds_of_notRecv {thread : Thread} (notRecv : forall self, thread ≠ .recv self) :
    thread.seqIds = [] := by
  cases thread with
  | recv self => exact absurd rfl (notRecv self)
  | _ => rfl

namespace TextWorld

/-! ## The way of an id -/

/-- Ids are used, held by a call, queued and held by a receive thread in the
order in which they were received, and at most one call and one receive thread
hold any. -/
structure InCustody (texts : TextWorld) : Prop where
  senders : SoleHolder SendText.seqIds texts.senders
  threads : SoleHolder Thread.seqIds texts.world.threads
  order : (texts.used ++ (texts.senders.flatMap SendText.seqIds ++
    (texts.world.shared.client.pendingSeqIds ++
      texts.world.threads.flatMap Thread.seqIds))).Sublist texts.received

section Custody

variable {before : TextWorld} {id : Nat}

theorem InCustody.used_sublist (custody : InCustody before) : before.Correlates :=
  (List.sublist_append_left _ _).trans custody.order

/-- A new session begins with nothing. -/
theorem InCustody.drained {world : World} (custody : InCustody before) (drained : before.Drained)
    (pending : world.shared.client.pendingSeqIds = before.world.shared.client.pendingSeqIds)
    (threads : SoleHolder Thread.seqIds world.threads)
    (held : world.threads.flatMap Thread.seqIds = before.world.threads.flatMap Thread.seqIds) :
    InCustody { before with world := world, received := [], used := [] } where
  senders := custody.senders
  threads := threads
  order := by
    change List.Sublist ([] ++ (before.senders.flatMap SendText.seqIds ++
      (world.shared.client.pendingSeqIds ++ world.threads.flatMap Thread.seqIds))) []
    rw [drained.senders, pending, drained.pending, held, drained.threads]
    exact List.Sublist.refl []

/-- A step that holds no id and leaves the queue. -/
theorem InCustody.of_same {world : World} (custody : InCustody before)
    (pending : world.shared.client.pendingSeqIds = before.world.shared.client.pendingSeqIds)
    (threads : SoleHolder Thread.seqIds world.threads)
    (held : (world.threads.flatMap Thread.seqIds).Sublist
      (before.world.threads.flatMap Thread.seqIds)) :
    InCustody { before with world := world } where
  senders := custody.senders
  threads := threads
  order := by
    refine List.Sublist.trans ?_ custody.order
    change List.Sublist (before.used ++ (before.senders.flatMap SendText.seqIds ++
      (world.shared.client.pendingSeqIds ++ world.threads.flatMap Thread.seqIds))) _
    rw [pending]
    exact (((held.append_left _).append_left _).append_left _)

/-! ### Calls of `send_text` -/

theorem InCustody.sendText (custody : InCustody before) (text : String)
    (free : before.world.shared.client.pendingSeqIds = [] ∨
      before.senders.flatMap SendText.seqIds = []) :
    InCustody
      { before with
        world := { before.world with
          shared := (SendText.call text before.world.shared).1 }
        senders := before.senders ++ [(SendText.call text before.world.shared).2] } := by
  cases pending : before.world.shared.client.pendingSeqIds with
  | nil =>
      have nothing : (SendText.call text before.world.shared).2.seqIds = [] := by
        simp only [SendText.call, Client.popSeqId, pending]
        rfl
      refine ⟨custody.senders.append (Or.inl nothing), custody.threads, ?_⟩
      have order := custody.order
      simp only [List.flatMap_append, List.flatMap_singleton, nothing, List.append_nil]
      simp only [SendText.call, Client.popSeqId, pending] at order ⊢
      exact order
  | cons seqId rest =>
      have empty : before.senders.flatMap SendText.seqIds = [] := by
        rcases free with contrary | empty
        · cases pending.symm.trans contrary
        · exact empty
      refine ⟨custody.senders.append (Or.inr empty), custody.threads, ?_⟩
      have order := custody.order
      have taken : (SendText.call text before.world.shared).2.seqIds.Sublist [seqId] := by
        simp only [SendText.call, Client.popSeqId, pending, SendText.seqIds]
        split_ifs
        · exact List.Sublist.refl _
        · exact List.nil_sublist _
      refine List.Sublist.trans ?_ order
      simp only [List.flatMap_append, List.flatMap_singleton, empty, List.nil_append]
      rw [pending]
      simp only [SendText.call, Client.popSeqId, pending] at taken ⊢
      exact (taken.append_right _).append_left _

theorem InCustody.runSender {sender moved : SendText} {shared : Shared}
    {sent : Option SentDatagram} (custody : InCustody before)
    (found : before.senders[id]? = some sender)
    (stepped : sender.step before.world.shared = some (shared, moved, sent)) :
    InCustody
      { before with
        world := { before.world with shared := shared }
        senders := before.senders.set id moved
        used := before.used ++ sent.toList.flatMap fun datagram =>
          seqIdOf datagram.action.data } := by
  have inside := (List.getElem?_eq_some_iff.mp found).1
  rcases SendText.step_seqIds stepped with ⟨pending, ⟨same, rfl⟩ | ⟨done, used⟩⟩
  · refine ⟨?_, custody.threads, ?_⟩
    · by_cases holds : sender.seqIds = []
      · exact custody.senders.set (Or.inl (same.trans holds))
      · exact custody.senders.set (Or.inr (custody.senders.others found holds))
    · have order := custody.order
      simp only [Option.toList_none, List.flatMap_nil, List.append_nil,
        flatMap_set_same found same, pending]
      exact order
  · refine ⟨custody.senders.set (Or.inl done), custody.threads, ?_⟩
    refine List.Sublist.trans ?_ custody.order
    simp only [pending]
    by_cases holds : sender.seqIds = []
    · rw [holds, List.sublist_nil] at used
      rw [used, flatMap_set_same found (done.trans holds.symm), List.append_nil]
    · rw [flatMap_set (custody.senders.others found holds) inside, done,
        custody.senders.flatMap_eq found holds, List.nil_append, List.append_assoc]
      exact (used.append_right _).append_left _

/-! ### Steps of the client -/

/-- A step of a thread that is no receive thread. -/
theorem custody_other {env : Environment} {thread : Thread} {input : Input}
    {outcome : Outcome Shared Thread Note} (sole : SoleHolder Thread.seqIds before.world.threads)
    (found : before.world.threads[id]? = some thread) (notRecv : forall self, thread ≠ .recv self)
    (stepped : thread.step env before.world.shared before.world.threads id input = some outcome) :
    SoleHolder Thread.seqIds (before.world.record id outcome).threads ∧
      (before.world.record id outcome).threads.flatMap Thread.seqIds =
        before.world.threads.flatMap Thread.seqIds := by
  have still : forall self, outcome.thread ≠ .recv self := by
    intro self isRecv
    rcases Thread.recv_of_step stepped isRecv with ⟨earlier, _, same, _⟩
    exact notRecv earlier same
  have empty := Thread.seqIds_of_notRecv still
  have same : outcome.thread.seqIds = thread.seqIds :=
    empty.trans (Thread.seqIds_of_notRecv notRecv).symm
  change SoleHolder _ (threadsAfter _ _ _) ∧ (threadsAfter _ _ _).flatMap _ = _
  unfold threadsAfter
  cases spawned : outcome.spawned with
  | none =>
      rw [Option.toList_none, List.append_nil]
      exact ⟨sole.set (Or.inl empty), flatMap_set_same found same⟩
  | some other =>
      have nothing := Thread.spawned_seqIds stepped spawned
      rw [Option.toList_some]
      refine ⟨(sole.set (Or.inl empty)).append (Or.inl nothing), ?_⟩
      rw [List.flatMap_append, List.flatMap_singleton, nothing, List.append_nil,
        flatMap_set_same found same]

theorem InCustody.recv {self : RecvThread} {input : Input} {inner : Outcome Shared RecvThread Note}
    (custody : InCustody before) (found : before.world.threads[id]? = some (.recv self))
    (orderly : before.Orderly (.client (.run id input)))
    (stepped : self.step before.world.shared input = some inner) :
    InCustody
      { before with
        world := before.world.record id (inner.map .recv)
        received := before.received ++ self.receives inner.thread } := by
  have inside := (List.getElem?_eq_some_iff.mp found).1
  have spawned := (RecvThread.step_keeps stepped).spawned
  have threads : (before.world.record id (inner.map .recv)).threads =
      before.world.threads.set id (.recv inner.thread) := by
    change threadsAfter _ _ _ = _
    unfold threadsAfter Outcome.map
    rw [spawned]
    exact List.append_nil _
  rcases RecvThread.step_passes stepped with
    ⟨pending, receives, kept⟩ | ⟨udp, data, source, pc, pending, receives, finds⟩ |
    ⟨seqId, holds, gone, receives, pending⟩
  · rw [receives, List.append_nil]
    refine custody.of_same pending ?_ ?_
    · rw [threads]
      rcases kept with same | gone
      · by_cases holds : self.seqIds = []
        · exact custody.threads.set (Or.inl (same.trans holds))
        · exact custody.threads.set (Or.inr (custody.threads.others found holds))
      · exact custody.threads.set (Or.inl gone)
    · rw [threads]
      rcases kept with same | gone
      · rw [flatMap_set_same found same]
      · by_cases holds : self.seqIds = []
        · rw [flatMap_set_same found (gone.trans holds.symm)]
        · rw [flatMap_set (custody.threads.others found holds) inside]
          have empty : (Thread.recv inner.thread).seqIds = [] := gone
          rw [empty]
          exact List.nil_sublist _
  · have free : self.seqIds = [] := by
      simp only [RecvThread.seqIds, pc]
    have allowed : seqIdOf data = [] ∨ before.world.threads.flatMap Thread.seqIds = [] := by
      rcases self with ⟨starter, stop, _⟩
      cases pc
      simpa only [Orderly, found] using orderly
    rcases allowed with nothing | empty
    · rw [receives, nothing, List.append_nil]
      have same : (Thread.recv inner.thread).seqIds = (Thread.recv self).seqIds :=
        (finds.trans nothing).trans free.symm
      refine custody.of_same pending ?_ ?_
      · rw [threads]
        exact custody.threads.set (Or.inl (finds.trans nothing))
      · rw [threads, flatMap_set_same found same]
    · have others := none_held empty
      refine ⟨custody.senders, ?_, ?_⟩
      · rw [threads]
        exact custody.threads.set (Or.inr fun k other _ isOther => others k other isOther)
      · have order := custody.order
        rw [empty, List.append_nil] at order
        change List.Sublist (before.used ++ (before.senders.flatMap SendText.seqIds ++
          (inner.shared.client.pendingSeqIds ++
            (before.world.record id (inner.map .recv)).threads.flatMap Thread.seqIds)))
          (before.received ++ self.receives inner.thread)
        rw [threads, flatMap_set (fun k other _ isOther => others k other isOther) inside, pending,
          receives]
        simp only [Thread.seqIds, finds]
        have grown := order.append_right (seqIdOf data)
        simpa only [List.append_assoc] using grown
  · have held : (Thread.recv self).seqIds = [seqId] := holds
    have nonempty : (Thread.recv self).seqIds ≠ [] := by
      rw [held]
      exact List.cons_ne_nil _ _
    rw [receives, List.append_nil]
    refine ⟨custody.senders, ?_, ?_⟩
    · rw [threads]
      exact custody.threads.set (Or.inl gone)
    · have order := custody.order
      rw [custody.threads.flatMap_eq found nonempty, held] at order
      change List.Sublist (before.used ++ (before.senders.flatMap SendText.seqIds ++
        (inner.shared.client.pendingSeqIds ++
          (before.world.record id (inner.map .recv)).threads.flatMap Thread.seqIds)))
        before.received
      rw [threads, flatMap_set (custody.threads.others found nonempty) inside, pending]
      simp only [Thread.seqIds, gone, List.append_nil]
      exact order

end Custody

/-! ## Runs -/

/-- A call of the client appends threads that hold no id. -/
theorem InCustody.call {before : TextWorld} {world : World} (custody : InCustody before)
    (calls : List Thread) (threads : world.threads = before.world.threads ++ calls)
    (idle : forall call, call ∈ calls -> call.Idle ∧ call.madeBy = none) :
    SoleHolder Thread.seqIds world.threads ∧
      world.threads.flatMap Thread.seqIds = before.world.threads.flatMap Thread.seqIds := by
  have empty : forall call, call ∈ calls -> call.seqIds = [] :=
    fun call member => (idle call member).1.seqIds
  rw [threads]
  exact ⟨custody.threads.append_empty empty, flatMap_append_empty empty⟩

/-- A step of a thread that is no receive thread, within a session. -/
theorem InCustody.other {env : Environment} {before : TextWorld} {id : Nat} {thread : Thread}
    {input : Input} {outcome : Outcome Shared Thread Note} (custody : InCustody before)
    (found : before.world.threads[id]? = some thread) (notRecv : forall self, thread ≠ .recv self)
    (stepped : thread.step env before.world.shared before.world.threads id input = some outcome) :
    InCustody { before with world := before.world.record id outcome } := by
  have kept := custody_other custody.threads found notRecv stepped
  refine custody.of_same (Thread.step_remembers notRecv stepped).pendingSeqIds kept.1 ?_
  rw [kept.2]

theorem InCustody.client {env : Environment} {before after : TextWorld} {event : Event}
    (custody : InCustody before) (orderly : before.Orderly (.client event))
    (applied : before.apply env (.client event) = some after) : InCustody after := by
  rcases Option.map_eq_some_iff.mp applied with ⟨world, isWorld, rfl⟩
  cases event with
  | connect heartbeatIntervalSecs =>
      cases isWorld
      rcases before.world.callConnect_threads heartbeatIntervalSecs with ⟨calls, threads, idle⟩
      have kept := custody.call calls threads idle
      exact custody.drained orderly rfl kept.1 kept.2
  | close =>
      cases isWorld
      rcases before.world.callClose_threads with ⟨calls, threads, idle⟩
      have kept := custody.call calls threads idle
      refine custody.of_same rfl kept.1 ?_
      rw [kept.2]
  | run id input =>
      rcases World.apply_run isWorld with ⟨thread, outcome, found, stepped, rfl⟩
      cases thread with
      | recv self =>
          rcases Option.map_eq_some_iff.mp stepped with ⟨inner, isInner, rfl⟩
          have moved : (before.world.record id (inner.map .recv)).threads[id]? =
              some (.recv inner.thread) :=
            threadsAfter_self (List.getElem?_eq_some_iff.mp found).1
          simp only [record, found, moved]
          exact custody.recv found orderly isInner
      | close pc =>
          cases pc with
          | clear =>
              have notRecv : forall self, Thread.close .clear ≠ .recv self := fun _ => nofun
              have kept := custody_other custody.threads found notRecv stepped
              simp only [record, found]
              refine custody.drained ?_ (Thread.step_remembers notRecv stepped).pendingSeqIds
                kept.1 kept.2
              simpa only [Orderly, found] using orderly
          | _ =>
              simp only [record, found]
              exact custody.other found (fun _ => nofun) stepped
      | _ =>
          simp only [record, found]
          exact custody.other found (fun _ => nofun) stepped

theorem custody_of_reachable {env : Environment} {texts : TextWorld}
    (reachable : ((textSystem env).restrict Orderly).Reachable texts) : InCustody texts := by
  refine reachable.invariant InCustody ?_ ?_
  · rintro texts ⟨io, onStateChange, onData, onLog, rfl⟩
    refine ⟨?_, ?_, List.Sublist.refl []⟩
    · intro i j first second contrary
      cases contrary
    · intro i j first second contrary
      cases contrary
  · rintro before event after custody ⟨orderly, applied⟩
    cases event with
    | client event => exact custody.client orderly applied
    | sendText text =>
        cases applied
        exact custody.sendText text orderly
    | runSender id =>
        change before.apply env (.runSender id) = some after at applied
        simp only [apply] at applied
        cases found : before.senders[id]? with
        | none =>
            rw [found] at applied
            cases applied
        | some sender =>
            rw [found] at applied
            rcases Option.map_eq_some_iff.mp applied with ⟨⟨shared, moved, sent⟩, stepped, rfl⟩
            exact custody.runSender found stepped

/-- In every run in which sessions begin and end with no id on its way and ids
are taken and found by one thread at a time, the ids used in a session are a
subsequence of those received in it. -/
theorem correlates {env : Environment} {texts : TextWorld}
    (reachable : ((textSystem env).restrict Orderly).Reachable texts) : texts.Correlates :=
  (custody_of_reachable reachable).used_sublist

/-! ## Concrete runs -/

instance (texts : TextWorld) : Decidable texts.Drained :=
  decidable_of_iff (texts.senders.flatMap SendText.seqIds = [] ∧
      texts.world.shared.client.pendingSeqIds = [] ∧
      texts.world.threads.flatMap Thread.seqIds = [])
    ⟨fun all => ⟨all.1, all.2.1, all.2.2⟩,
      fun drained => ⟨drained.senders, drained.pending, drained.threads⟩⟩

instance (before : TextWorld) (event : TextEvent) : Decidable (before.Orderly event) := by
  unfold Orderly
  split <;> try infer_instance
  split <;> infer_instance

/-- A run of a client with all callbacks, and a test of the state it ends in. -/
theorem exists_texts {env : Environment} {allowed : TextWorld -> TextEvent -> Bool}
    (condition : TextWorld -> TextEvent -> Prop)
    (meets : forall texts event, allowed texts event = true -> condition texts event)
    {events : List TextEvent} {test : TextWorld -> Bool}
    (ends : (TransitionSystem.perform (apply env) allowed (new true true true true) events).any
      test = true) :
    exists texts, ((textSystem env).restrict condition).Reachable texts ∧ test texts = true := by
  refine TransitionSystem.exists_reachable condition ?_ meets ?_ ends
  · intro before event after applied
    exact applied
  · exact ⟨true, true, true, true, rfl⟩

/-- A receive thread serves a data frame with an id. -/
def frameEvents (id : Nat) (seqId : UInt64) : List TextEvent :=
  (receiveEvents id (encodeDataFrameWithSeq "q" seqId) ++
    Event.run id (.instant 0) :: runs id 8).map .client

/-- A call of `send_text` as call `id`, from its first block to its return. -/
def sendTextEvents (id : Nat) : List TextEvent :=
  .sendText "a" :: List.replicate 4 (.runSender id)

/-- Two ids are received, and the first is used. -/
theorem correlates_first_answer :
    exists texts, ((textSystem concreteEnvironment).restrict Orderly).Reachable texts ∧
      texts.received = [5, 6] ∧ texts.used = [5] ∧ texts.Correlates := by
  have ends : (TransitionSystem.perform (apply concreteEnvironment)
      (fun before event => decide (before.Orderly event)) (new true true true true)
      ((sessionEvents 0 0).map .client ++ frameEvents 3 5 ++ frameEvents 3 6 ++
        sendTextEvents 0)).any
      (fun texts => texts.received = [5, 6] ∧ texts.used = [5]) = true := by
    decide +kernel
  rcases exists_texts Orderly (fun _ _ => of_decide_eq_true) ends with ⟨texts, reachable, test⟩
  have lists := of_decide_eq_true test
  exact ⟨texts, reachable, lists.1, lists.2, correlates reachable⟩

/-- An id received in the first session is left in the queue, and the first
text of the second session carries it. -/
theorem stale_id_sent :
    ¬ forall (env : Environment) (texts : TextWorld),
      (textSystem env).Reachable texts -> texts.Correlates := by
  intro claim
  have ends : (TransitionSystem.perform (apply concreteEnvironment) (fun _ _ => true)
      (new true true true true)
      ((sessionEvents 0 0).map .client ++ frameEvents 3 5 ++
        (Event.close :: runs 2 1 ++ runs 3 1 ++ runs 4 3).map .client ++
        (sessionEvents 5 0).map .client ++ sendTextEvents 0)).any
      (fun texts => texts.received = [] ∧ texts.used = [5]) = true := by
    decide +kernel
  rcases exists_texts (fun _ _ => True) (fun _ _ _ => trivial) ends with ⟨texts, reachable, test⟩
  have lists := of_decide_eq_true test
  have correlated := claim _ texts reachable.of_restrict
  unfold Correlates at correlated
  rw [lists.1, lists.2] at correlated
  cases correlated

end TextWorld

end P2pSdk
