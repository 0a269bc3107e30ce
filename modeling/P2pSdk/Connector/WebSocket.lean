import P2pSdk.Connector.Disconnect
import P2pSdk.Foundation.Utf8

namespace P2pSdk
namespace Connector

open Foundation

/-!
# The WebSocket transport and its poll loops (`ws.rs`)

`try_recv` reads the socket once and gives no text when there is none.  It gives
none for an error as well, whether that is a socket with nothing to read or a
connection that has ended.  The socket stays where it is, and `is_connected`
asks only whether there is one.

So a connection that has ended stays connected until `close`.  The poll loops
close only behind their inner loop, which they leave when the transport is not
connected: they poll the ended connection until they are told to stop.
-/

/-! ## The transport -/

/-- The errors of a read, as `try_recv` tells them apart. -/
inductive WsError where
  | wouldBlock
  | connectionClosed
  | alreadyClosed
  | io
  | protocol
  deriving DecidableEq, Repr

/-- What one read of the socket returns.  Pings, pongs and closing frames are `other`. -/
inductive ReadResult where
  | text (text : String)
  | binary (data : Bytes)
  | other
  | error (error : WsError)
  deriving DecidableEq, Repr

/-- A read, behind the call that makes the socket non-blocking. -/
structure Read where
  nonblocking : Bool
  result : ReadResult
  deriving DecidableEq, Repr

/-- A socket is the number of its connection. -/
structure SyncSignalingTransport where
  socket : Option Nat
  deriving DecidableEq, Repr

namespace SyncSignalingTransport

def new : SyncSignalingTransport where
  socket := none

def connect (transport : SyncSignalingTransport) : Option Nat -> SyncSignalingTransport × Bool
  | none => (transport, false)
  | some socket => ({ socket := some socket }, true)

/-- `ok` is whether the socket takes the message. -/
def send (transport : SyncSignalingTransport) (ok : Bool) : Bool :=
  match transport.socket with
  | none => false
  | some _ => ok

def tryRecv (transport : SyncSignalingTransport) (read : Read) :
    SyncSignalingTransport × Option String :=
  match transport.socket with
  | none => (transport, none)
  | some _ =>
      if read.nonblocking = false then (transport, none)
      else
        match read.result with
        | .text text => (transport, some text)
        | .binary data => (transport, some (fromUtf8Lossy data))
        | .other => (transport, none)
        | .error .wouldBlock => (transport, none)
        | .error _ => (transport, none)

def close (_ : SyncSignalingTransport) : SyncSignalingTransport where
  socket := none

def isConnected (transport : SyncSignalingTransport) : Bool := transport.socket.isSome

/-- A read of an open socket fails with another error than that it would block. -/
def fails (transport : SyncSignalingTransport) (read : Read) : Bool :=
  transport.isConnected && read.nonblocking &&
    match read.result with
    | .error .wouldBlock => false
    | .error _ => true
    | _ => false

/-- Reading never touches the socket. -/
theorem tryRecv_transport (transport : SyncSignalingTransport) (read : Read) :
    (transport.tryRecv read).1 = transport := by
  unfold tryRecv
  cases transport.socket with
  | none => rfl
  | some socket =>
      dsimp only
      split_ifs with blocking
      · rfl
      · cases read.result with
        | error error => cases error <;> rfl
        | _ => rfl

theorem isConnected_of_fails {transport : SyncSignalingTransport} {read : Read}
    (failed : transport.fails read = true) : transport.isConnected = true := by
  unfold fails at failed
  rw [Bool.and_assoc] at failed
  exact (Bool.and_eq_true_iff.mp failed).1

end SyncSignalingTransport

/-! ## Calls of the transport -/

inductive TransportEvent where
  | connect (socket : Option Nat)
  | send (ok : Bool)
  | tryRecv (read : Read)
  | close
  deriving DecidableEq, Repr

def SyncSignalingTransport.apply (transport : SyncSignalingTransport) :
    TransportEvent -> SyncSignalingTransport
  | .connect socket => (transport.connect socket).1
  | .send _ => transport
  | .tryRecv read => (transport.tryRecv read).1
  | .close => transport.close

def transportSystem : TransitionSystem SyncSignalingTransport TransportEvent where
  initial := fun transport => transport = .new
  step := fun before event after => after = before.apply event

/-- What is remembered of the reads since the last successful connect. -/
structure ReadHistory where
  /-- A read has failed. -/
  dead : Bool
  /-- The owner has closed the transport. -/
  closed : Bool
  deriving DecidableEq, Repr

def ReadHistory.start : ReadHistory where
  dead := false
  closed := false

def readHistory : Recorder SyncSignalingTransport TransportEvent ReadHistory where
  start := .start
  record := fun before event _ memory =>
    match event with
    | .connect none => memory
    | .connect (some _) => .start
    | .send _ => memory
    | .tryRecv read => { memory with dead := memory.dead || before.fails read }
    | .close => { memory with closed := true }

/-- A transport whose socket has failed is connected exactly as long as nobody
has closed it. -/
theorem isConnected_of_dead {run : SyncSignalingTransport × ReadHistory}
    (reachable : (transportSystem.remember readHistory).Reachable run) (dead : run.2.dead = true) :
    run.1.isConnected = !run.2.closed := by
  have holds : (run.2.closed = true -> run.1.isConnected = false) ∧
      (run.2.dead = true -> run.2.closed = false -> run.1.isConnected = true) := by
    refine reachable.remembered_invariant
      (fun transport memory => (memory.closed = true -> transport.isConnected = false) ∧
        (memory.dead = true -> memory.closed = false -> transport.isConnected = true)) ?_ ?_
    · intro transport isNew
      rw [isNew]
      exact ⟨fun _ => rfl, fun contrary => (by cases contrary)⟩
    · rintro before memory event after _ ⟨wasClosed, wasDead⟩ rfl
      cases event with
      | connect socket =>
          cases socket with
          | none => exact ⟨wasClosed, wasDead⟩
          | some socket => exact ⟨fun contrary => (by cases contrary), fun _ _ => rfl⟩
      | send ok => exact ⟨wasClosed, wasDead⟩
      | tryRecv read =>
          have same : before.apply (.tryRecv read) = before := before.tryRecv_transport read
          rw [same]
          refine ⟨wasClosed, ?_⟩
          intro nowDead notClosed
          rcases Bool.or_eq_true_iff.mp nowDead with already | failed
          · exact wasDead already notClosed
          · exact SyncSignalingTransport.isConnected_of_fails failed
      | close => exact ⟨fun _ => rfl, fun _ contrary => (by cases contrary)⟩
  cases isClosed : run.2.closed with
  | true => exact holds.1 isClosed
  | false => exact holds.2 dead isClosed

/-! ## The loop of `run_with_reconnect` over the transport -/

/-- What a loop remembers of its connection since the last successful connect. -/
structure LoopHistory where
  /-- A read has failed. -/
  dead : Bool
  /-- The loop has read its stop flag as true. -/
  stopped : Bool
  deriving DecidableEq, Repr

def LoopHistory.start : LoopHistory where
  dead := false
  stopped := false

variable {Json : Type}

structure WiredReconnect (Json : Type) where
  loop : Reconnect Json
  transport : SyncSignalingTransport
  deriving DecidableEq, Repr

/-- What the loop is answered when the transport answers for itself. -/
inductive WiredAnswer where
  | stop (value : Bool)
  | connect (socket : Option Nat)
  | send (ok : Bool)
  | tryRecv (read : Read)
  | isConnected
  | returned
  deriving DecidableEq, Repr

namespace WiredReconnect

section Calls

variable (serde : Serde Json) (identifier authToken : String)

def apply (wired : WiredReconnect Json) : WiredAnswer -> Option (WiredReconnect Json)
  | .stop value =>
      (wired.loop.step serde identifier authToken (.stop value)).map fun loop =>
        { loop := loop
          transport :=
            match loop.pc with
            | .finished => wired.transport.close
            | _ => wired.transport }
  | .connect socket =>
      let (transport, ok) := wired.transport.connect socket
      (wired.loop.step serde identifier authToken (.connected ok)).map fun loop =>
        { loop := loop, transport := transport }
  | .send ok =>
      (wired.loop.step serde identifier authToken (.sent (wired.transport.send ok))).map fun loop =>
        { wired with loop := loop }
  | .tryRecv read =>
      let (transport, text) := wired.transport.tryRecv read
      (wired.loop.step serde identifier authToken (.received text)).map fun loop =>
        { loop := loop, transport := transport }
  | .isConnected =>
      (wired.loop.step serde identifier authToken (.isConnected wired.transport.isConnected)).map
        fun loop => { wired with loop := loop }
  | .returned =>
      (wired.loop.step serde identifier authToken .returned).map fun loop =>
        { wired with loop := loop }

def system : TransitionSystem (WiredReconnect Json) WiredAnswer where
  initial := fun wired => exists client, wired.loop = Reconnect.start client
  step := fun before answer after => before.apply serde identifier authToken answer = some after

end Calls

def history : Recorder (WiredReconnect Json) WiredAnswer LoopHistory where
  start := .start
  record := fun before answer _ memory =>
    match answer with
    | .connect (some _) => .start
    | .stop true => { memory with stopped := true }
    | .tryRecv read => { memory with dead := memory.dead || before.transport.fails read }
    | _ => memory

end WiredReconnect

/-- The loop is in its inner loop. -/
def Reconnect.Polling (loop : Reconnect Json) : Prop :=
  match loop.pc with
  | .checkStopPolling | .poll _ _ | .checkConnected _ _ | .handOver _ => True
  | _ => False

namespace Reconnect

variable {serde : Serde Json} {identifier authToken : String} {loop next : Reconnect Json}

/-- Only the stop flag and a lost connection lead out of the inner loop. -/
theorem Polling.step (polling : loop.Polling) {answer : Answer}
    (stepped : loop.step serde identifier authToken answer = some next)
    (goesOn : answer ≠ .stop true) (connected : answer ≠ .isConnected false) : next.Polling := by
  rcases loop with ⟨client, pc, delay, sends, messages, stateChanges⟩
  cases Reconnect.step_moves serde identifier authToken stepped with
  | round | received | drained | alive | handed | slept => trivial
  | lost => exact absurd rfl connected
  | proceed here | refused here | unwritten here _ | connected here _ | unsent here | sent here
  | retry here =>
      cases here
      exact polling.elim
  | finish | stopped | leave => exact absurd rfl goesOn

/-- Reading is a step of the inner loop. -/
theorem polling_of_received {text : Option String}
    (stepped : loop.step serde identifier authToken (.received text) = some next) : loop.Polling := by
  rcases loop with ⟨client, pc, delay, sends, messages, stateChanges⟩
  cases Reconnect.step_moves serde identifier authToken stepped with
  | received _ here | drained here =>
      cases here
      trivial

end Reconnect

/-- A loop with an ended connection that nobody has stopped goes on polling it. -/
theorem WiredReconnect.polls_on {serde : Serde Json} {identifier authToken : String}
    {run : WiredReconnect Json × LoopHistory}
    (reachable : ((WiredReconnect.system serde identifier authToken).remember
      WiredReconnect.history).Reachable run)
    (dead : run.2.dead = true) (notStopped : run.2.stopped = false) :
    run.1.loop.Polling ∧ run.1.transport.isConnected = true := by
  refine reachable.remembered_invariant
    (fun wired memory => memory.dead = true -> memory.stopped = false ->
      wired.loop.Polling ∧ wired.transport.isConnected = true) ?_ ?_ dead notStopped
  · intro _ _ contrary
    cases contrary
  · intro before memory answer after _ held stepped isDead goesOn
    change before.apply serde identifier authToken answer = some after at stepped
    -- A step that remembers nothing new, and does not lead out of the inner loop.
    have on : memory.dead = true -> memory.stopped = false -> forall {given : Answer}
        {loop : Reconnect Json}, before.loop.step serde identifier authToken given = some loop ->
        given ≠ .stop true -> (given = .isConnected false -> before.transport.isConnected = false) ->
        loop.Polling ∧ before.transport.isConnected = true := by
      intro wasDead notStopped given loop moved proceeds asked
      rcases held wasDead notStopped with ⟨polling, connected⟩
      refine ⟨polling.step moved proceeds ?_, connected⟩
      intro lost
      cases connected.symm.trans (asked lost)
    cases answer with
    | stop value =>
        rcases Option.map_eq_some_iff.mp stepped with ⟨loop, moved, rfl⟩
        cases value with
        | true => cases goesOn
        | false =>
            rcases on isDead goesOn moved (by decide) (fun contrary => (by cases contrary)) with
              ⟨polling, connected⟩
            refine ⟨polling, ?_⟩
            rcases loop with ⟨client, pc, delay, sends, messages, stateChanges⟩
            cases pc with
            | finished => exact polling.elim
            | _ => exact connected
    | connect socket =>
        rcases Option.map_eq_some_iff.mp stepped with ⟨loop, moved, rfl⟩
        cases socket with
        | some socket => cases isDead
        | none =>
            exact on isDead goesOn moved (fun contrary => (by cases contrary))
              (fun contrary => (by cases contrary))
    | send ok =>
        rcases Option.map_eq_some_iff.mp stepped with ⟨loop, moved, rfl⟩
        exact on isDead goesOn moved (fun contrary => (by cases contrary))
          (fun contrary => (by cases contrary))
    | tryRecv read =>
        rcases Option.map_eq_some_iff.mp stepped with ⟨loop, moved, rfl⟩
        refine ⟨(Reconnect.polling_of_received moved).step moved
          (fun contrary => (by cases contrary)) (fun contrary => (by cases contrary)), ?_⟩
        change (before.transport.tryRecv read).1.isConnected = true
        rw [SyncSignalingTransport.tryRecv_transport]
        rcases Bool.or_eq_true_iff.mp isDead with already | failed
        · exact (held already goesOn).2
        · exact SyncSignalingTransport.isConnected_of_fails failed
    | isConnected =>
        rcases Option.map_eq_some_iff.mp stepped with ⟨loop, moved, rfl⟩
        exact on isDead goesOn moved (fun contrary => (by cases contrary)) Answer.isConnected.inj
    | returned =>
        rcases Option.map_eq_some_iff.mp stepped with ⟨loop, moved, rfl⟩
        exact on isDead goesOn moved (by decide) (fun contrary => (by cases contrary))

/-! ## The loop of `connector_loop_inner` over the transport -/

/-- `poll` reads until a read gives no text. -/
def SyncSignalingTransport.drain (transport : SyncSignalingTransport) :
    List Read -> Option (SyncSignalingTransport × List String)
  | [] => none
  | read :: rest =>
      match transport.tryRecv read with
      | (transport, none) => if rest.isEmpty then some (transport, []) else none
      | (transport, some text) =>
          (transport.drain rest).map fun (transport, texts) => (transport, text :: texts)

theorem SyncSignalingTransport.drain_transport {transport drained : SyncSignalingTransport}
    {reads : List Read} {texts : List String}
    (ended : transport.drain reads = some (drained, texts)) : drained = transport := by
  induction reads generalizing transport texts with
  | nil => cases ended
  | cons read rest ih =>
      have same := transport.tryRecv_transport read
      rcases received : transport.tryRecv read with ⟨after, text⟩
      rw [received] at same
      unfold drain at ended
      rw [received] at ended
      cases text with
      | none =>
          dsimp only at ended
          split_ifs at ended
          cases ended
          exact same
      | some text =>
          rcases Option.map_eq_some_iff.mp ended with ⟨⟨last, more⟩, later, isPair⟩
          cases isPair
          exact (ih later).trans same

structure WiredThread (Json : Type) where
  thread : ConnectorThread Json
  transport : SyncSignalingTransport
  deriving DecidableEq, Repr

/-- What the thread is answered when the transport answers for itself. -/
inductive WiredInput where
  | proceed
  | connect (socket : Option Nat) (registers : Bool)
  | outgoing (sent : Option Bool)
  | poll (reads : List Read)
  deriving DecidableEq, Repr

namespace WiredThread

/-- A step of the thread, with what it finds in `Inner`. -/
def apply (serde : Serde Json) (wired : WiredThread Json) (inner : ConnectorInner) :
    WiredInput -> Option (WiredThread Json)
  | .proceed =>
      (wired.thread.step serde inner .proceed).map fun outcome =>
        { thread := outcome.thread
          transport :=
            match wired.thread.pc with
            | .checkStop => .new
            | .disconnect => wired.transport.close
            | _ => wired.transport }
  | .connect socket registers =>
      let (transport, ok) := wired.transport.connect socket
      (wired.thread.step serde inner (.connected (ok && registers))).map fun outcome =>
        { thread := outcome.thread, transport := transport }
  | .outgoing sent =>
      (wired.thread.step serde inner (.outgoing (sent.map wired.transport.send))).map fun outcome =>
        { wired with thread := outcome.thread }
  | .poll reads =>
      match wired.transport.drain reads with
      | none => none
      | some (transport, texts) =>
          (wired.thread.step serde inner (.polled texts transport.isConnected)).map fun outcome =>
            { thread := outcome.thread, transport := transport }

def system (serde : Serde Json) :
    TransitionSystem (WiredThread Json) (ConnectorInner × WiredInput) where
  initial := fun wired => exists identifier stop, wired = ⟨.spawn identifier stop, .new⟩
  step := fun before event after => before.apply serde event.1 event.2 = some after

/-- The step reads the stop flag. -/
def readsStop (wired : WiredThread Json) : Bool :=
  match wired.thread.pc with
  | .checkStop | .checkStopPolling | .checkStopRetry => true
  | _ => false

def history : Recorder (WiredThread Json) (ConnectorInner × WiredInput) LoopHistory where
  start := .start
  record := fun before event _ memory =>
    match event.2 with
    | .connect (some _) _ => .start
    | .proceed =>
        { memory with
          stopped := memory.stopped || (before.readsStop && event.1.load before.thread.stop) }
    | .poll reads => { memory with dead := memory.dead || reads.any before.transport.fails }
    | _ => memory

end WiredThread

/-- The thread is in its inner loop. -/
def ConnectorThread.Polling (thread : ConnectorThread Json) : Prop :=
  match thread.pc with
  | .checkStopPolling | .sendOutgoing | .poll | .setRegistered _ | .handle _ => True
  | _ => False

namespace ConnectorThread

variable {serde : Serde Json} {inner : ConnectorInner} {thread : ConnectorThread Json}
  {outcome : Outcome ConnectorInner (ConnectorThread Json) (Option Bool)}

/-- Only the stop flag and a lost connection lead out of the inner loop. -/
theorem Polling.step (polling : thread.Polling) {input : LoopInput}
    (stepped : thread.step serde inner input = some outcome)
    (goesOn : input = .proceed -> thread.pc = .checkStopPolling ->
      inner.load thread.stop = false)
    (connected : forall texts, input ≠ .polled texts false) : outcome.thread.Polling := by
  rcases thread with ⟨identifier, stop, pc, delay, connector, wasRegistered⟩
  cases pc with
  | checkStopPolling =>
      cases input with
      | proceed =>
          cases stepped
          have notStopped := goesOn rfl rfl
          dsimp only [goto] at notStopped ⊢
          rw [notStopped]
          trivial
      | _ => cases stepped
  | sendOutgoing =>
      cases input with
      | outgoing sent => cases sent <;> cases stepped <;> trivial
      | _ => cases stepped
  | poll =>
      cases input with
      | polled texts isConnected =>
          cases isConnected with
          | false => exact absurd rfl (connected texts)
          | true =>
              cases stepped
              dsimp only [goto, Polling, afterPoll]
              rw [if_neg (fun contrary => (by cases contrary))]
              split_ifs <;> trivial
      | _ => cases stepped
  | setRegistered msgs =>
      cases input with
      | proceed =>
          cases stepped
          trivial
      | _ => cases stepped
  | handle msgs =>
      cases input with
      | proceed => cases msgs <;> cases stepped <;> trivial
      | _ => cases msgs <;> cases stepped
  | _ => exact polling.elim

/-- Polling is a step of the inner loop. -/
theorem polling_of_polled {texts : List String} {isConnected : Bool}
    (stepped : thread.step serde inner (.polled texts isConnected) = some outcome) :
    thread.Polling := by
  rcases thread with ⟨identifier, stop, pc, delay, connector, wasRegistered⟩
  cases pc with
  | poll => trivial
  | handle msgs => trivial
  | _ => cases stepped

end ConnectorThread

/-- A thread with an ended connection that nobody has stopped goes on polling it. -/
theorem WiredThread.polls_on {serde : Serde Json} {run : WiredThread Json × LoopHistory}
    (reachable : ((WiredThread.system serde).remember WiredThread.history).Reachable run)
    (dead : run.2.dead = true) (notStopped : run.2.stopped = false) :
    run.1.thread.Polling ∧ run.1.transport.isConnected = true := by
  refine reachable.remembered_invariant
    (fun wired memory => memory.dead = true -> memory.stopped = false ->
      wired.thread.Polling ∧ wired.transport.isConnected = true) ?_ ?_ dead notStopped
  · intro _ _ contrary
    cases contrary
  · rintro before memory ⟨inner, input⟩ after _ held stepped isDead goesOn
    change before.apply serde inner input = some after at stepped
    cases input with
    | proceed =>
        rcases Option.map_eq_some_iff.mp stepped with ⟨outcome, moved, rfl⟩
        rcases Bool.or_eq_false_iff.mp goesOn with ⟨notBefore, notNow⟩
        rcases held isDead notBefore with ⟨polling, connected⟩
        have unread : before.thread.pc = .checkStopPolling ->
            inner.load before.thread.stop = false := by
          intro here
          rw [WiredThread.readsStop, here] at notNow
          exact notNow
        refine ⟨polling.step moved (fun _ => unread) (fun _ contrary => (by cases contrary)), ?_⟩
        rcases before with ⟨⟨identifier, stop, pc, delay, connector, wasRegistered⟩, transport⟩
        cases pc with
        | checkStop => exact polling.elim
        | disconnect => exact polling.elim
        | _ => exact connected
    | connect socket registers =>
        rcases Option.map_eq_some_iff.mp stepped with ⟨outcome, moved, rfl⟩
        cases socket with
        | some socket => cases isDead
        | none =>
            rcases held isDead goesOn with ⟨polling, connected⟩
            exact ⟨polling.step moved (fun contrary => (by cases contrary))
              (fun _ contrary => (by cases contrary)), connected⟩
    | outgoing sent =>
        rcases Option.map_eq_some_iff.mp stepped with ⟨outcome, moved, rfl⟩
        rcases held isDead goesOn with ⟨polling, connected⟩
        exact ⟨polling.step moved (fun contrary => (by cases contrary))
          (fun _ contrary => (by cases contrary)), connected⟩
    | poll reads =>
        simp only [apply] at stepped
        cases drained : before.transport.drain reads with
        | none =>
            rw [drained] at stepped
            cases stepped
        | some polled =>
            rcases polled with ⟨transport, texts⟩
            rw [drained] at stepped
            rcases Option.map_eq_some_iff.mp stepped with ⟨outcome, moved, rfl⟩
            have same := SyncSignalingTransport.drain_transport drained
            subst same
            have connected : before.transport.isConnected = true := by
              rcases Bool.or_eq_true_iff.mp isDead with already | failed
              · exact (held already goesOn).2
              · rcases List.any_eq_true.mp failed with ⟨read, _, failed⟩
                exact SyncSignalingTransport.isConnected_of_fails failed
            refine ⟨(ConnectorThread.polling_of_polled moved).step moved
              (fun contrary => (by cases contrary)) ?_, connected⟩
            intro _ contrary
            cases contrary.symm.trans (congrArg (LoopInput.polled texts) connected)

/-! ## What becomes of an ended connection -/

/-- **An ended connection is not noticed.**  Once a read has failed, the transport is
connected until it is closed, whatever is read and sent meanwhile.  Neither loop
closes it: from a failed read to the next connect, both stay in their inner loop
unless they are told to stop. -/
theorem ended_connection_unnoticed (serde : Serde Json) (identifier authToken : String) :
    (forall run, (transportSystem.remember readHistory).Reachable run -> run.2.dead = true ->
      (run.1.isConnected = false <-> run.2.closed = true)) ∧
    (forall run, ((WiredReconnect.system serde identifier authToken).remember
      WiredReconnect.history).Reachable run -> run.2.dead = true -> run.2.stopped = false ->
      run.1.loop.Polling ∧ run.1.transport.isConnected = true) ∧
    (forall run, ((WiredThread.system serde).remember WiredThread.history).Reachable run ->
      run.2.dead = true -> run.2.stopped = false ->
      run.1.thread.Polling ∧ run.1.transport.isConnected = true) := by
  refine ⟨?_, fun _ => WiredReconnect.polls_on, fun _ => WiredThread.polls_on⟩
  intro run reachable dead
  rw [isConnected_of_dead reachable dead]
  cases run.2.closed <;> decide

/-- A read of a connection that the server has closed. -/
def closedRead : Read := ⟨true, .error .connectionClosed⟩

/-- Two rounds of `run_with_reconnect` on an ended connection. -/
def loopRounds : List WiredAnswer :=
  [.stop false, .connect (some 0), .send true, .stop false, .tryRecv closedRead, .isConnected, .returned,
    .stop false, .tryRecv closedRead, .isConnected, .returned]

/-- Two rounds of `connector_loop_inner` on an ended connection. -/
def threadRounds : List (ConnectorInner × WiredInput) :=
  let inner : ConnectorInner :=
    { connectorRegistered := false, connectorStop := 0, connector := some 0, stops := [false] }
  [WiredInput.proceed, .connect (some 0) true, .proceed, .proceed, .outgoing none, .poll [closedRead],
    .proceed, .proceed, .outgoing none, .poll [closedRead], .proceed].map fun input => (inner, input)

/-- A run of given labels over the transport, and a test of its memory. -/
theorem exists_wiredRun {State Label : Type} {system : TransitionSystem State Label}
    {recorder : Recorder State Label LoopHistory} {next : State -> Label -> Option State} {start : State}
    {labels : List Label}
    (steps : forall before label after, next before label = some after -> system.step before label after)
    (initially : system.initial start)
    (ends : (TransitionSystem.perform (TransitionSystem.recordNext recorder next) (fun _ _ => true)
      (start, recorder.start) labels).any (fun run => run.2.dead && !run.2.stopped) = true) :
    exists run, (system.remember recorder).Reachable run ∧ run.2.dead = true ∧ run.2.stopped = false := by
  have reached : exists run, ((system.remember recorder).restrict fun _ _ => True).Reachable run ∧
      (run.2.dead && !run.2.stopped) = true :=
    TransitionSystem.exists_reachable (fun _ _ => True)
      (fun _ _ _ stepped => TransitionSystem.recordNext_step steps stepped) (fun _ _ _ => trivial)
      ⟨initially, rfl⟩ ends
  rcases reached with ⟨run, reachable, test⟩
  rcases Bool.and_eq_true_iff.mp test with ⟨dead, goesOn⟩
  exact ⟨run, reachable.of_restrict, dead, (Bool.not_eq_true' _).mp goesOn⟩

/-- Both loops poll an ended connection round after round. -/
theorem ended_connection_polled :
    (exists run, ((WiredReconnect.system plainSerde "me" "").remember WiredReconnect.history).Reachable run ∧
      run.2.dead = true ∧ run.1.loop.Polling ∧ run.1.transport.isConnected = true) ∧
    (exists run, ((WiredThread.system plainSerde).remember WiredThread.history).Reachable run ∧
      run.2.dead = true ∧ run.1.thread.Polling ∧ run.1.transport.isConnected = true) := by
  rcases ended_connection_unnoticed plainSerde "me" "" with ⟨_, loops, threads⟩
  constructor
  · have ends : (TransitionSystem.perform
        (TransitionSystem.recordNext WiredReconnect.history (WiredReconnect.apply plainSerde "me" ""))
        (fun _ _ => true) (⟨Reconnect.start ⟨"", false⟩, .new⟩, .start)
        loopRounds).any (fun run => run.2.dead && !run.2.stopped) = true := by
      decide +kernel
    rcases @exists_wiredRun _ _ (WiredReconnect.system plainSerde "me" "") _ _ _ _
      (fun _ _ _ applied => applied) ⟨_, rfl⟩ ends with ⟨run, reachable, dead, goesOn⟩
    exact ⟨run, reachable, dead, loops run reachable dead goesOn⟩
  · have ends : (TransitionSystem.perform
        (TransitionSystem.recordNext WiredThread.history fun before event =>
          before.apply plainSerde event.1 event.2)
        (fun _ _ => true) (⟨.spawn "me" 0, .new⟩, .start)
        threadRounds).any (fun run => run.2.dead && !run.2.stopped) = true := by
      decide +kernel
    rcases @exists_wiredRun _ _ (WiredThread.system plainSerde) _ _ _ _
      (fun _ _ _ applied => applied) ⟨_, _, rfl⟩ ends with ⟨run, reachable, dead, goesOn⟩
    exact ⟨run, reachable, dead, threads run reachable dead goesOn⟩

/-- The server ends the connection, and the transport is still connected. -/
theorem ended_connection_connected :
    ¬ forall run, (transportSystem.remember readHistory).Reachable run -> run.2.dead = true ->
      run.1.isConnected = false := by
  intro claim
  have starts : (transportSystem.remember readHistory).Reachable (.new, .start) := .start ⟨rfl, rfl⟩
  have connects : (transportSystem.remember readHistory).step (.new, .start) (.connect (some 0))
      (⟨some 0⟩, .start) := ⟨rfl, rfl⟩
  have fails : (transportSystem.remember readHistory).step (⟨some 0⟩, .start)
      (.tryRecv ⟨true, .error .connectionClosed⟩) (⟨some 0⟩, ⟨true, false⟩) := ⟨rfl, rfl⟩
  cases claim _ (.step (.step starts connects) fails) rfl

end Connector
end P2pSdk
