import P2pSdk.Connector.Reconnect
import P2pSdk.Foundation.History

namespace P2pSdk
namespace Connector

open Foundation

/-!
# Registration events (`connector.rs`)

`run_with_reconnect` tells its caller when the registration changes: true when a
poll has made the client registered, false when the connection turns out to be
lost.  Between two rounds the last event is the flag.

The flag also changes at the end: when the loop is told to stop, the final
`disconnect` clears it, and that change is not told.  So the last event of a
call is true exactly if the inner loop read its stop flag as true while the
client was registered.
-/

/-! ## Alternating events -/

/-- The first events of true, false, true, and so on. -/
def alternating (count : Nat) : List Bool :=
  (List.range count).map fun i => decide (i % 2 = 0)

def Alternates (events : List Bool) : Prop := events = alternating events.length

instance (events : List Bool) : Decidable (Alternates events) :=
  inferInstanceAs (Decidable (_ = _))

theorem alternating_succ (count : Nat) :
    alternating (count + 1) = alternating count ++ [decide (count % 2 = 0)] := by
  rw [alternating, List.range_succ, List.map_append]
  rfl

theorem Alternates.append {events : List Bool} (alternates : Alternates events) :
    Alternates (events ++ [decide (events.length % 2 = 0)]) := by
  rw [Alternates, List.length_append, List.length_singleton, alternating_succ, ← alternates]

/-- The last of the events is true exactly if there is an odd number of them. -/
theorem Alternates.last_iff {events : List Bool} (alternates : Alternates events) :
    events.getLast? = some true <-> events.length % 2 = 1 := by
  rw [alternates]
  generalize events.length = count
  cases count with
  | zero => decide
  | succ count =>
      rw [alternating_succ, List.getLast?_concat, Option.some.injEq, decide_eq_true_eq,
        List.length_append, List.length_singleton, alternating, List.length_map, List.length_range]
      omega

/-- Behind false, or at first, comes true. -/
theorem Alternates.append_true {events : List Bool} (alternates : Alternates events)
    (last : events.getLast? ≠ some true) : Alternates (events ++ [true]) := by
  rw [Ne, alternates.last_iff] at last
  have even : decide (events.length % 2 = 0) = true := decide_eq_true (by omega)
  rw [← even]
  exact alternates.append

/-- Behind true comes false. -/
theorem Alternates.append_false {events : List Bool} (alternates : Alternates events)
    (last : events.getLast? = some true) : Alternates (events ++ [false]) := by
  rw [alternates.last_iff] at last
  have odd : decide (events.length % 2 = 0) = false := decide_eq_false (by omega)
  rw [← odd]
  exact alternates.append

/-! ## Runs of the loop -/

variable {Json : Type} (serde : Serde Json) (identifier authToken : String)

/-- A call on any client, with any answers. -/
def reconnectSystem : TransitionSystem (Reconnect Json) Answer where
  initial := fun loop => exists client, loop = Reconnect.start client
  step := fun before answer after => before.step serde identifier authToken answer = some after

/-- What is remembered of the stop flag. -/
structure StopHistory where
  /-- The flag was read as true. -/
  stopped : Bool
  /-- The inner loop read it as true while the client was registered. -/
  whileRegistered : Bool
  deriving DecidableEq, Repr

def StopHistory.start : StopHistory where
  stopped := false
  whileRegistered := false

/-- The inner loop asks for the stop flag of a registered client. -/
def Reconnect.asksRegistered (loop : Reconnect Json) : Bool :=
  match loop.pc with
  | .checkStopPolling => loop.client.registered
  | _ => false

def stopHistory : Recorder (Reconnect Json) Answer StopHistory where
  start := .start
  record := fun before answer _ memory =>
    match answer with
    | .stop true =>
        { stopped := true, whileRegistered := memory.whileRegistered || before.asksRegistered }
    | _ => memory

/-- The stop flag stays up. -/
def StopSticks (run : Reconnect Json × StopHistory) (answer : Answer) : Prop :=
  run.2.stopped = true -> answer ≠ .stop false

instance (run : Reconnect Json × StopHistory) (answer : Answer) : Decidable (StopSticks run answer) :=
  inferInstanceAs (Decidable (_ -> _))

/-- The last event, if any, is false, and so is the flag. -/
def Reconnect.Mirrored (loop : Reconnect Json) : Prop :=
  loop.stateChanges.getLast? ≠ some true ∧ loop.client.registered = false

/-! ## What the events tell -/

namespace Reconnect

/-- The registration as the caller should know it. -/
def told (loop : Reconnect Json) : Bool :=
  match loop.pc with
  | .checkStopPolling | .handOver _ => loop.client.registered
  | .poll wasRegistered _ | .checkConnected wasRegistered _ => wasRegistered
  | _ => false

/-- The client is new when it registers, and a poll never takes the registration away. -/
def Agrees (loop : Reconnect Json) : Prop :=
  match loop.pc with
  | .register => loop.client.registered = false
  | .poll wasRegistered _ | .checkConnected wasRegistered _ =>
      wasRegistered = true -> loop.client.registered = true
  | _ => True

structure Tells (loop : Reconnect Json) : Prop where
  alternates : Alternates loop.stateChanges
  last : loop.stateChanges.getLast? = some true <-> loop.told = true
  agrees : loop.Agrees

theorem Tells.start (client : ConnectorClient) : Tells (Reconnect.start client : Reconnect Json) where
  alternates := rfl
  last := ⟨fun contrary => (by cases contrary), fun contrary => (by cases contrary)⟩
  agrees := trivial

theorem pollText_registered (serde : Serde Json) {client : ConnectorClient}
    (registered : client.registered = true) (incoming : List (ConnectorMessage Json))
    (text : String) : (client.pollText serde incoming text).1.registered = true := by
  unfold ConnectorClient.pollText
  cases serde.fromText text with
  | none => exact registered
  | some msg =>
      dsimp only
      split_ifs
      · rfl
      · exact registered
      · exact registered

variable {serde identifier authToken} {loop next : Reconnect Json} {answer : Answer}

/-- A step keeps what the events tell, unless it stops a registered client. -/
theorem Tells.step (tells : loop.Tells)
    (stepped : loop.step serde identifier authToken answer = some next)
    (unheard : answer = .stop true -> loop.asksRegistered = false) : next.Tells := by
  -- The steps without an event that leave what the caller should know.
  have quiet : forall after : Reconnect Json, after.stateChanges = loop.stateChanges ->
      after.told = loop.told -> after.Agrees -> after.Tells := by
    intro after sameEvents sameTold agrees
    refine ⟨?_, ?_, agrees⟩
    · rw [sameEvents]
      exact tells.alternates
    · rw [sameEvents, sameTold]
      exact tells.last
  rcases loop with ⟨client, pc, delay, sends, messages, stateChanges⟩
  cases step_moves serde identifier authToken stepped with
  | proceed here | finish here | refused here | unwritten here _ | unsent here | handed here
  | slept here | retry here | leave here =>
      cases here
      exact quiet _ rfl rfl trivial
  | connected here _ =>
      cases here
      exact quiet _ rfl rfl rfl
  | sent here =>
      cases here
      exact quiet _ rfl tells.agrees trivial
  | round here =>
      cases here
      exact quiet _ rfl rfl (fun registered => registered)
  | stopped here =>
      cases here
      exact quiet _ rfl (unheard rfl).symm trivial
  | @received wasRegistered incoming text here =>
      cases here
      exact quiet _ rfl rfl fun registered =>
        pollText_registered serde (tells.agrees registered) incoming text
  | drained here =>
      cases here
      exact quiet _ rfl rfl tells.agrees
  | @lost wasRegistered msgs here =>
      cases here
      cases wasRegistered with
      | false => exact quiet _ rfl rfl trivial
      | true =>
          refine ⟨tells.alternates.append_false (tells.last.mpr rfl), ?_, trivial⟩
          constructor
          · intro contrary
            cases (List.getLast?_concat ..).symm.trans contrary
          · intro contrary
            cases contrary
  | @alive wasRegistered msgs here =>
      cases here
      by_cases announces : client.registered = true ∧ wasRegistered = false
      · rcases announces with ⟨registered, rfl⟩
        have untold : stateChanges.getLast? ≠ some true := by
          intro contrary
          cases tells.last.mp contrary
        refine ⟨?_, ?_, trivial⟩
        · change Alternates (if client.registered = true ∧ false = false then _ else _)
          rw [if_pos ⟨registered, rfl⟩]
          exact tells.alternates.append_true untold
        · change List.getLast? (if client.registered = true ∧ false = false then _ else _) = _ <-> _
          rw [if_pos ⟨registered, rfl⟩, List.getLast?_concat]
          exact ⟨fun _ => registered, fun _ => rfl⟩
      · have same : client.registered = wasRegistered := by
          cases wasRegistered with
          | true => exact tells.agrees rfl
          | false => exact Bool.eq_false_of_not_eq_true fun registered =>
              announces ⟨registered, rfl⟩
        exact quiet _ (if_neg announces) same trivial

/-- A loop that stopped a registered client, up to its return. -/
structure Cut (loop : Reconnect Json) : Prop where
  alternates : Alternates loop.stateChanges
  last : loop.stateChanges.getLast? = some true
  leaving : loop.pc = .checkStopRetry ∨ loop.pc = .checkStop ∨ loop.pc = .finished

/-- Stopping a registered client leaves true as the last event. -/
theorem Tells.cut (tells : loop.Tells)
    (stepped : loop.step serde identifier authToken (.stop true) = some next)
    (heard : loop.asksRegistered = true) : next.Cut := by
  rcases loop with ⟨client, pc, delay, sends, messages, stateChanges⟩
  cases step_moves serde identifier authToken stepped with
  | stopped here =>
      cases here
      exact ⟨tells.alternates, tells.last.mpr heard, Or.inl rfl⟩
  | finish here | leave here =>
      cases here
      cases heard

/-- Nothing is told any more. -/
theorem Cut.step (cut : loop.Cut)
    (stepped : loop.step serde identifier authToken answer = some next)
    (sticks : answer ≠ .stop false) : next.Cut := by
  rcases loop with ⟨client, pc, delay, sends, messages, stateChanges⟩
  rcases cut with ⟨alternates, last, rfl | rfl | rfl⟩
  · cases answer with
    | stop value =>
        cases value with
        | false => exact absurd rfl sticks
        | true =>
            cases stepped
            exact ⟨alternates, last, Or.inr (Or.inl rfl)⟩
    | _ => cases stepped
  · cases answer with
    | stop value =>
        cases value with
        | false => exact absurd rfl sticks
        | true =>
            cases stepped
            exact ⟨alternates, last, Or.inr (Or.inr rfl)⟩
    | _ => cases stepped
  · cases answer <;> cases stepped

/-- The return of a call clears the flag. -/
theorem step_finished (stepped : loop.step serde identifier authToken answer = some next)
    (finished : next.pc = .finished) : next.client.registered = false := by
  cases step_moves serde identifier authToken stepped with
  | finish => rfl
  | _ => cases finished

end Reconnect

section Runs

variable {serde identifier authToken} {run : Reconnect Json × StopHistory}

/-- As long as the loop stops no registered client, the events tell its registration. -/
theorem tells_of_reachable
    (reachable : ((reconnectSystem serde identifier authToken).remember stopHistory).Reachable run)
    (unheard : run.2.whileRegistered = false) : run.1.Tells := by
  refine reachable.remembered_invariant
    (fun loop memory => memory.whileRegistered = false -> loop.Tells) ?_ ?_ unheard
  · rintro loop ⟨client, rfl⟩ _
    exact Reconnect.Tells.start client
  · intro before memory answer after _ held stepped nowUnheard
    have heardBefore : memory.whileRegistered = false ∧
        (answer = .stop true -> before.asksRegistered = false) := by
      cases answer with
      | stop value =>
          cases value with
          | false => exact ⟨nowUnheard, fun contrary => (by cases contrary)⟩
          | true =>
              rcases Bool.or_eq_false_iff.mp nowUnheard with ⟨earlier, now⟩
              exact ⟨earlier, fun _ => now⟩
      | _ => exact ⟨nowUnheard, fun contrary => (by cases contrary)⟩
    exact (held heardBefore.1).step stepped heardBefore.2

/-- A call that has returned has cleared the flag. -/
theorem unregistered_of_finished
    (reachable : (reconnectSystem serde identifier authToken).Reachable run.1)
    (finished : run.1.pc = .finished) : run.1.client.registered = false := by
  refine reachable.invariant
    (fun loop => loop.pc = .finished -> loop.client.registered = false) ?_ ?_ finished
  · rintro loop ⟨client, rfl⟩ contrary
    cases contrary
  · intro before answer after _ stepped
    exact Reconnect.step_finished stepped

/-- When the flag stays up, a loop that has stopped a registered client only returns. -/
theorem cut_of_reachable
    (reachable : (((reconnectSystem serde identifier authToken).remember stopHistory).restrict
      StopSticks).Reachable run)
    (heard : run.2.whileRegistered = true) : run.1.Cut := by
  have holds : run.2.whileRegistered = true -> run.2.stopped = true ∧ run.1.Cut := by
    refine reachable.invariant_of_reachable
      (fun run => run.2.whileRegistered = true -> run.2.stopped = true ∧ run.1.Cut) ?_ ?_
    · rintro run ⟨_, isStart⟩ contrary
      rw [isStart] at contrary
      cases contrary
    · rintro before answer after earlier held ⟨sticks, stepped, remembered⟩ nowHeard
      rw [remembered] at nowHeard ⊢
      cases wasHeard : before.2.whileRegistered with
      | true =>
          rcases held wasHeard with ⟨stopped, cut⟩
          refine ⟨?_, cut.step stepped (sticks stopped)⟩
          cases answer with
          | stop value =>
              cases value with
              | false => exact stopped
              | true => rfl
          | _ => exact stopped
      | false =>
          cases answer with
          | stop value =>
              cases value with
              | false => cases wasHeard.symm.trans nowHeard
              | true =>
                  have now : before.1.asksRegistered = true := by
                    rcases Bool.or_eq_true_iff.mp nowHeard with contrary | now
                    · cases wasHeard.symm.trans contrary
                    · exact now
                  exact ⟨rfl, (tells_of_reachable earlier.of_restrict wasHeard).cut stepped now⟩
          | _ => cases wasHeard.symm.trans nowHeard
  exact (holds heard).2

end Runs

/-- **Registration events.**  The events of a call alternate, starting with true.
When the call has returned, the last of them is false, as the flag is, exactly
if the inner loop did not read its stop flag as true while the client was
registered.  That the stop flag stays up is needed only for calls that did. -/
theorem stateChanges_mirror :
    (forall run, ((reconnectSystem serde identifier authToken).remember stopHistory).Reachable run ->
      run.2.whileRegistered = false -> Alternates run.1.stateChanges ∧
        (run.1.pc = .finished -> run.1.Mirrored)) ∧
    (forall run, (((reconnectSystem serde identifier authToken).remember stopHistory).restrict
      StopSticks).Reachable run -> Alternates run.1.stateChanges ∧
        (run.1.pc = .finished -> (run.1.Mirrored <-> run.2.whileRegistered = false))) := by
  have mirrored : forall run : Reconnect Json × StopHistory,
      ((reconnectSystem serde identifier authToken).remember stopHistory).Reachable run ->
      run.2.whileRegistered = false -> run.1.pc = .finished -> run.1.Mirrored := by
    intro run reachable unheard finished
    refine ⟨?_, unregistered_of_finished reachable.forget finished⟩
    rw [Ne, (tells_of_reachable reachable unheard).last, Reconnect.told, finished]
    exact Bool.false_ne_true
  constructor
  · intro run reachable unheard
    exact ⟨(tells_of_reachable reachable unheard).alternates, mirrored run reachable unheard⟩
  · intro run reachable
    cases heard : run.2.whileRegistered with
    | false =>
        refine ⟨(tells_of_reachable reachable.of_restrict heard).alternates, fun finished => ?_⟩
        exact ⟨fun _ => rfl, fun _ => mirrored run reachable.of_restrict heard finished⟩
    | true =>
        have cut := cut_of_reachable reachable heard
        refine ⟨cut.alternates, fun _ => ⟨fun contrary => absurd cut.last contrary.1, ?_⟩⟩
        intro contrary
        cases contrary

/-! ## Two runs -/

/-- A run of given answers, and a test of the loop and the memory it ends in. -/
theorem exists_reconnectRun {answers : List Answer} {test : Reconnect Foundation.Json × StopHistory -> Bool}
    (ends : (TransitionSystem.perform
      (TransitionSystem.recordNext stopHistory (Reconnect.step plainSerde "me" ""))
      (fun run answer => decide (StopSticks run answer))
      (Reconnect.start ⟨"", false⟩, .start) answers).any test = true) :
    exists run, (((reconnectSystem plainSerde "me" "").remember stopHistory).restrict
      StopSticks).Reachable run ∧ test run = true :=
  TransitionSystem.exists_reachable StopSticks
    (fun _ _ _ stepped => TransitionSystem.recordNext_step (fun _ _ _ applied => applied) stepped)
    (fun _ _ => of_decide_eq_true) ⟨⟨_, rfl⟩, rfl⟩ ends

/-- The client is registered, up to the end of a round. -/
def registeredRound : List Answer :=
  [.stop false, .connected true, .sent true, .stop false, .received (some registerOkText),
    .received none, .isConnected true, .returned]

/-- The connection is lost in the next round, and the loop is told to stop. -/
def lostThenStopped : List Answer :=
  registeredRound ++ [.stop false, .received none, .isConnected false, .stop true, .stop true]

/-- The loss of the connection is told, and the last event is the flag. -/
theorem lost_connection_mirrored :
    exists run : Reconnect Foundation.Json × StopHistory, run.1.pc = .finished ∧
      run.1.stateChanges = [true, false] ∧ Alternates run.1.stateChanges ∧ run.1.Mirrored := by
  have ends : (TransitionSystem.perform
      (TransitionSystem.recordNext stopHistory (Reconnect.step plainSerde "me" ""))
      (fun run answer => decide (StopSticks run answer))
      (Reconnect.start ⟨"", false⟩, .start) lostThenStopped).any
      (fun run => run.1.pc.isFinished && decide (run.1.stateChanges = [true, false] ∧
        run.2.whileRegistered = false)) = true := by
    decide +kernel
  rcases exists_reconnectRun ends with ⟨run, reachable, test⟩
  rcases Bool.and_eq_true_iff.mp test with ⟨isFinished, isRun⟩
  rcases of_decide_eq_true isRun with ⟨isEvents, unheard⟩
  have finished := ReconnectPc.eq_of_isFinished isFinished
  rcases (stateChanges_mirror plainSerde "me" "").1 run reachable.of_restrict unheard with
    ⟨alternates, mirrored⟩
  exact ⟨run, finished, isEvents, alternates, mirrored finished⟩

/-- The client is registered when the inner loop is told to stop. -/
def stoppedRegistered : List Answer := registeredRound ++ [.stop true, .stop true, .stop true]

/-- The last event stays true although the flag is cleared. -/
theorem last_event_true :
    ¬ forall (Json : Type) (serde : Serde Json) (identifier authToken : String)
      (run : Reconnect Json × StopHistory),
      (((reconnectSystem serde identifier authToken).remember stopHistory).restrict
        StopSticks).Reachable run ->
      Alternates run.1.stateChanges ∧ (run.1.pc = .finished -> run.1.Mirrored) := by
  intro claim
  have ends : (TransitionSystem.perform
      (TransitionSystem.recordNext stopHistory (Reconnect.step plainSerde "me" ""))
      (fun run answer => decide (StopSticks run answer))
      (Reconnect.start ⟨"", false⟩, .start) stoppedRegistered).any
      (fun run => run.1.pc.isFinished && decide (run.1.stateChanges = [true])) = true := by
    decide +kernel
  rcases exists_reconnectRun ends with ⟨run, reachable, test⟩
  rcases Bool.and_eq_true_iff.mp test with ⟨isFinished, isEvents⟩
  have mirrored := ((claim _ _ _ _ run reachable).2 (ReconnectPc.eq_of_isFinished isFinished)).1
  rw [of_decide_eq_true isEvents] at mirrored
  exact mirrored rfl

end Connector
end P2pSdk
