import P2pSdk.Connector.Messages

namespace P2pSdk
namespace Connector

open Foundation

/-!
# The signalling connection (`connector.rs`)

`run_with_reconnect` connects, registers, and then polls the transport: it
drains everything that has arrived, looks whether the connection is still
there, and only then hands the messages over.  A batch that was drained just
before the connection turned out to be lost is given up with the connection.

The loop is a machine that is fed with the answers of the transport, the stop
flag and the callback.  What the callback gets is compared with the texts that
the transport returned, over whole runs and any number of reconnects.
-/

/-! ## The client -/

structure ConnectorClient where
  identifier : String
  registered : Bool
  deriving DecidableEq, Repr

variable {Json : Type}

/-- The register message that `connect` sends. -/
def registerMessage (serde : Serde Json) (identifier authToken : String) : ConnectorMessage Json where
  msgType := CONNECTOR_TYPE_REGISTER
  sender := identifier
  target := ""
  data := serde.emptyString
  auth := authToken
  reason := ""
  timestamp := 0

/-- One text in `poll`: REGISTER_OK is handled here, MESSAGE is collected. -/
def ConnectorClient.pollText (serde : Serde Json) (client : ConnectorClient)
    (incoming : List (ConnectorMessage Json)) (text : String) :
    ConnectorClient × List (ConnectorMessage Json) :=
  match serde.fromText text with
  | none => (client, incoming)
  | some msg =>
      if msg.msgType = CONNECTOR_TYPE_REGISTER_OK then ({ client with registered := true }, incoming)
      else if msg.msgType = CONNECTOR_TYPE_MESSAGE then (client, incoming ++ [msg])
      else (client, incoming)

/-! ## The loop -/

/-- Where `run_with_reconnect` waits for an answer. -/
inductive ReconnectPc (Json : Type) where
  | checkStop
  | connect
  | register
  | checkStopPolling
  | poll (wasRegistered : Bool) (incoming : List (ConnectorMessage Json))
  | checkConnected (wasRegistered : Bool) (msgs : List (ConnectorMessage Json))
  | handOver (msgs : List (ConnectorMessage Json))
  | checkStopRetry
  | finished
  deriving DecidableEq, Repr

def ReconnectPc.isFinished : ReconnectPc Json -> Bool
  | .finished => true
  | _ => false

theorem ReconnectPc.eq_of_isFinished {pc : ReconnectPc Json} (isFinished : pc.isFinished = true) :
    pc = .finished := by
  cases pc with
  | finished => rfl
  | _ => cases isFinished

/-- What the loop is answered: the stop flag, the results of `connect`, `send`,
`try_recv` and `is_connected`, and the return of a callback or a sleep. -/
inductive Answer where
  | stop (value : Bool)
  | connected (ok : Bool)
  | sent (ok : Bool)
  | received (text : Option String)
  | isConnected (value : Bool)
  | returned
  deriving DecidableEq, Repr

/-- The state of a call, with the calls that it has made itself. -/
structure Reconnect (Json : Type) where
  client : ConnectorClient
  pc : ReconnectPc Json
  /-- The reconnect delay in seconds. -/
  delay : Nat
  /-- The texts given to `send`. -/
  sends : List String
  /-- The messages given to `on_message`. -/
  messages : List (ConnectorMessage Json)
  /-- The values given to `on_state_change`. -/
  stateChanges : List Bool
  deriving DecidableEq, Repr

namespace Reconnect

def initialDelay : Nat := 1
def maxDelay : Nat := 30

/-- The call on a client. -/
def start (client : ConnectorClient) : Reconnect Json where
  client := client
  pc := .checkStop
  delay := initialDelay
  sends := []
  messages := []
  stateChanges := []

variable (serde : Serde Json) (identifier authToken : String)

/-- Sleep and double the delay. -/
def backOff (loop : Reconnect Json) : Reconnect Json :=
  { loop with pc := .checkStop, delay := min (loop.delay * 2) maxDelay }

/-- Go on from one answer to the next question. -/
def step (loop : Reconnect Json) (answer : Answer) : Option (Reconnect Json) :=
  match loop.pc, answer with
  | .checkStop, .stop false => some { loop with pc := .connect }
  | .checkStop, .stop true =>
      some { loop with pc := .finished, client := { loop.client with registered := false } }
  | .connect, .connected false => some loop.backOff
  | .connect, .connected true =>
      let loop := { loop with client := { identifier := identifier, registered := false } }
      match serde.toText (registerMessage serde identifier authToken) with
      | none => some loop.backOff
      | some json => some { loop with pc := .register, sends := loop.sends ++ [json] }
  | .register, .sent false => some loop.backOff
  | .register, .sent true => some { loop with pc := .checkStopPolling, delay := initialDelay }
  | .checkStopPolling, .stop false => some { loop with pc := .poll loop.client.registered [] }
  | .checkStopPolling, .stop true => some { loop with pc := .checkStopRetry }
  | .poll wasRegistered incoming, .received (some text) =>
      let (client, incoming) := loop.client.pollText serde incoming text
      some { loop with client := client, pc := .poll wasRegistered incoming }
  | .poll wasRegistered incoming, .received none =>
      some { loop with pc := .checkConnected wasRegistered incoming }
  | .checkConnected wasRegistered _, .isConnected false =>
      -- The messages are a local variable of the round that ends here.
      some { loop with
        pc := .checkStopRetry
        client := { loop.client with registered := false }
        stateChanges := if wasRegistered then loop.stateChanges ++ [false] else loop.stateChanges }
  | .checkConnected wasRegistered msgs, .isConnected true =>
      some { loop with
        pc := .handOver msgs
        stateChanges := if loop.client.registered ∧ wasRegistered = false then
          loop.stateChanges ++ [true] else loop.stateChanges }
  | .handOver (msg :: msgs), .returned =>
      some { loop with pc := .handOver msgs, messages := loop.messages ++ [msg] }
  | .handOver [], .returned => some { loop with pc := .checkStopPolling }
  | .checkStopRetry, .stop false => some loop.backOff
  | .checkStopRetry, .stop true => some { loop with pc := .checkStop }
  | _, _ => none

/-- A run is a sequence of answers. -/
def run (loop : Reconnect Json) (answers : List Answer) : Option (Reconnect Json) :=
  answers.foldlM (step serde identifier authToken) loop

/-- The messages that a poll has collected and that are not handed over yet. -/
def batch (loop : Reconnect Json) : List (ConnectorMessage Json) :=
  match loop.pc with
  | .poll _ incoming => incoming
  | .checkConnected _ msgs => msgs
  | .handOver msgs => msgs
  | _ => []

/-- The loop is at one of its heads. -/
def atHead (loop : Reconnect Json) : Prop :=
  loop.pc = .checkStop ∨ loop.pc = .checkStopPolling ∨ loop.pc = .finished

end Reconnect

/-- The message that a received text carries, if it is a MESSAGE. -/
def incomingMessage (serde : Serde Json) : Answer -> Option (ConnectorMessage Json)
  | .received (some text) =>
      match serde.fromText text with
      | none => none
      | some msg => if msg.msgType = CONNECTOR_TYPE_MESSAGE then some msg else none
  | _ => none

/-- The messages among the received texts of a run, in order. -/
def incomingMessages (serde : Serde Json) (answers : List Answer) :
    List (ConnectorMessage Json) :=
  answers.filterMap (incomingMessage serde)

/-! ## What a step does to the messages -/

theorem pollText_incoming (serde : Serde Json) (client : ConnectorClient)
    (incoming : List (ConnectorMessage Json)) (text : String) :
    (client.pollText serde incoming text).2 =
      incoming ++ (incomingMessage serde (.received (some text))).toList := by
  rw [ConnectorClient.pollText, incomingMessage]
  cases serde.fromText text with
  | none => exact (List.append_nil incoming).symm
  | some msg =>
      dsimp only
      by_cases isRegistered : msg.msgType = CONNECTOR_TYPE_REGISTER_OK
      · have notMessage : ¬ msg.msgType = CONNECTOR_TYPE_MESSAGE := by
          rw [isRegistered]
          decide
        rw [if_pos isRegistered, if_neg notMessage]
        exact (List.append_nil incoming).symm
      · rw [if_neg isRegistered]
        by_cases isMessage : msg.msgType = CONNECTOR_TYPE_MESSAGE
        · rw [if_pos isMessage, if_pos isMessage]
          rfl
        · rw [if_neg isMessage, if_neg isMessage]
          exact (List.append_nil incoming).symm

namespace Reconnect

variable (serde : Serde Json) (identifier authToken : String)

/-- The messages that have been handed over or still will be. -/
def kept (loop : Reconnect Json) : List (ConnectorMessage Json) := loop.messages ++ loop.batch

/-- The round that gives up a batch: the connection turns out to be lost when
messages have just been collected. -/
def Drops (loop : Reconnect Json) (answer : Answer) : Prop :=
  answer = .isConnected false ∧ loop.batch ≠ []

/-- No step of a run gives up a batch. -/
def NeverDrops : Reconnect Json -> List Answer -> Prop
  | _, [] => True
  | loop, answer :: rest =>
      ¬ loop.Drops answer ∧
        match step serde identifier authToken loop answer with
        | some next => NeverDrops next rest
        | none => True

theorem neverDrops_cons {loop next : Reconnect Json} {answer : Answer}
    (stepped : step serde identifier authToken loop answer = some next) (rest : List Answer) :
    NeverDrops serde identifier authToken loop (answer :: rest) <->
      ¬ loop.Drops answer ∧ NeverDrops serde identifier authToken next rest := by
  rw [NeverDrops, stepped]

instance (loop : Reconnect Json) (answer : Answer) : Decidable (loop.Drops answer) :=
  inferInstanceAs (Decidable (answer = .isConnected false ∧ loop.batch ≠ []))

instance decidableNeverDrops (loop : Reconnect Json) (answers : List Answer) :
    Decidable (NeverDrops serde identifier authToken loop answers) :=
  match answers with
  | [] => isTrue trivial
  | answer :: rest =>
      match stepped : step serde identifier authToken loop answer with
      | some next =>
          have := decidableNeverDrops next rest
          decidable_of_iff _ (neverDrops_cons serde identifier authToken stepped rest).symm
      | none =>
          decidable_of_iff (¬ loop.Drops answer ∧ True) (by rw [NeverDrops, stepped])

variable {loop next : Reconnect Json} {answer : Answer}

/-- What a step can be, with the place where it is taken. -/
inductive Moves : Reconnect Json -> Answer -> Reconnect Json -> Prop
  | proceed {loop : Reconnect Json} : loop.pc = .checkStop ->
      Moves loop (.stop false) { loop with pc := .connect }
  | finish {loop : Reconnect Json} : loop.pc = .checkStop ->
      Moves loop (.stop true)
        { loop with pc := .finished, client := { loop.client with registered := false } }
  | refused {loop : Reconnect Json} : loop.pc = .connect -> Moves loop (.connected false) loop.backOff
  | unwritten {loop : Reconnect Json} : loop.pc = .connect ->
      serde.toText (registerMessage serde identifier authToken) = none ->
      Moves loop (.connected true)
        { loop with client := { identifier := identifier, registered := false } }.backOff
  | connected {loop : Reconnect Json} {json : String} : loop.pc = .connect ->
      serde.toText (registerMessage serde identifier authToken) = some json ->
      Moves loop (.connected true)
        { loop with
          client := { identifier := identifier, registered := false }
          pc := .register
          sends := loop.sends ++ [json] }
  | unsent {loop : Reconnect Json} : loop.pc = .register -> Moves loop (.sent false) loop.backOff
  | sent {loop : Reconnect Json} : loop.pc = .register ->
      Moves loop (.sent true) { loop with pc := .checkStopPolling, delay := initialDelay }
  | round {loop : Reconnect Json} : loop.pc = .checkStopPolling ->
      Moves loop (.stop false) { loop with pc := .poll loop.client.registered [] }
  | stopped {loop : Reconnect Json} : loop.pc = .checkStopPolling ->
      Moves loop (.stop true) { loop with pc := .checkStopRetry }
  | received {loop : Reconnect Json} {wasRegistered : Bool}
      {incoming : List (ConnectorMessage Json)} (text : String) :
      loop.pc = .poll wasRegistered incoming ->
      Moves loop (.received (some text))
        { loop with
          client := (loop.client.pollText serde incoming text).1
          pc := .poll wasRegistered (loop.client.pollText serde incoming text).2 }
  | drained {loop : Reconnect Json} {wasRegistered : Bool}
      {incoming : List (ConnectorMessage Json)} : loop.pc = .poll wasRegistered incoming ->
      Moves loop (.received none) { loop with pc := .checkConnected wasRegistered incoming }
  | lost {loop : Reconnect Json} {wasRegistered : Bool} {msgs : List (ConnectorMessage Json)} :
      loop.pc = .checkConnected wasRegistered msgs ->
      Moves loop (.isConnected false)
        { loop with
          pc := .checkStopRetry
          client := { loop.client with registered := false }
          stateChanges :=
            if wasRegistered then loop.stateChanges ++ [false] else loop.stateChanges }
  | alive {loop : Reconnect Json} {wasRegistered : Bool} {msgs : List (ConnectorMessage Json)} :
      loop.pc = .checkConnected wasRegistered msgs ->
      Moves loop (.isConnected true)
        { loop with
          pc := .handOver msgs
          stateChanges := if loop.client.registered ∧ wasRegistered = false then
            loop.stateChanges ++ [true] else loop.stateChanges }
  | handed {loop : Reconnect Json} {msg : ConnectorMessage Json}
      {msgs : List (ConnectorMessage Json)} : loop.pc = .handOver (msg :: msgs) ->
      Moves loop .returned { loop with pc := .handOver msgs, messages := loop.messages ++ [msg] }
  | slept {loop : Reconnect Json} : loop.pc = .handOver [] ->
      Moves loop .returned { loop with pc := .checkStopPolling }
  | retry {loop : Reconnect Json} : loop.pc = .checkStopRetry ->
      Moves loop (.stop false) loop.backOff
  | leave {loop : Reconnect Json} : loop.pc = .checkStopRetry ->
      Moves loop (.stop true) { loop with pc := .checkStop }

theorem step_moves (stepped : step serde identifier authToken loop answer = some next) :
    Moves serde identifier authToken loop answer next := by
  rcases loop with ⟨client, pc, delay, sends, messages, stateChanges⟩
  cases pc with
  | checkStop =>
      cases answer with
      | stop value =>
          cases value <;> cases stepped
          · exact .proceed rfl
          · exact .finish rfl
      | _ => cases stepped
  | connect =>
      cases answer with
      | connected ok =>
          cases ok with
          | false =>
              cases stepped
              exact .refused rfl
          | true =>
              cases isJson : serde.toText (registerMessage serde identifier authToken) with
              | none =>
                  simp only [step, isJson, Option.some.injEq] at stepped
                  subst stepped
                  exact .unwritten rfl isJson
              | some json =>
                  simp only [step, isJson, Option.some.injEq] at stepped
                  subst stepped
                  exact .connected rfl isJson
      | _ => cases stepped
  | register =>
      cases answer with
      | sent ok =>
          cases ok <;> cases stepped
          · exact .unsent rfl
          · exact .sent rfl
      | _ => cases stepped
  | checkStopPolling =>
      cases answer with
      | stop value =>
          cases value <;> cases stepped
          · exact .round rfl
          · exact .stopped rfl
      | _ => cases stepped
  | poll wasRegistered incoming =>
      cases answer with
      | received text =>
          cases text <;> cases stepped
          · exact .drained rfl
          · exact .received _ rfl
      | _ => cases stepped
  | checkConnected wasRegistered msgs =>
      cases answer with
      | isConnected value =>
          cases value <;> cases stepped
          · exact .lost rfl
          · exact .alive rfl
      | _ => cases stepped
  | handOver msgs =>
      cases answer with
      | returned =>
          cases msgs <;> cases stepped
          · exact .slept rfl
          · exact .handed rfl
      | _ => cases msgs <;> cases stepped
  | checkStopRetry =>
      cases answer with
      | stop value =>
          cases value <;> cases stepped
          · exact .retry rfl
          · exact .leave rfl
      | _ => cases stepped
  | finished => cases answer <;> cases stepped

/-- Every step keeps the messages and adds the one that it receives, unless the
connection turns out to be lost. -/
theorem step_kept (notLost : answer ≠ .isConnected false)
    (stepped : step serde identifier authToken loop answer = some next) :
    next.kept = loop.kept ++ (incomingMessage serde answer).toList := by
  -- The steps that only move on.
  have quiet : forall after : Reconnect Json, after.messages = loop.messages ->
      after.batch = loop.batch -> incomingMessage serde answer = none ->
      after.kept = loop.kept ++ (incomingMessage serde answer).toList := by
    intro after sameMessages sameBatch nothing
    rw [nothing, kept, kept, sameMessages, sameBatch]
    exact (List.append_nil _).symm
  rcases loop with ⟨client, pc, delay, sends, messages, stateChanges⟩
  cases step_moves serde identifier authToken stepped with
  | @received wasRegistered incoming text here =>
      cases here
      have collected := pollText_incoming serde client incoming text
      show messages ++ (client.pollText serde incoming text).2 = (messages ++ incoming) ++ _
      rw [collected, List.append_assoc]
  | lost => exact absurd rfl notLost
  | @handed msg msgs here =>
      cases here
      show (messages ++ [msg]) ++ msgs = (messages ++ msg :: msgs) ++ []
      rw [List.append_nil, List.append_assoc]
      rfl
  | proceed here | finish here | refused here | unwritten here _ | connected here _ | unsent here
  | sent here | round here | stopped here | drained here | alive here | slept here | retry here
  | leave here =>
      cases here
      exact quiet _ rfl rfl rfl

/-- A lost connection gives up the batch. -/
theorem step_lost (stepped : step serde identifier authToken loop (.isConnected false) = some next) :
    next.kept = loop.messages := by
  cases step_moves serde identifier authToken stepped with
  | lost => exact List.append_nil loop.messages

/-! ## Whole runs -/

theorem incomingMessages_cons (answer : Answer) (rest : List Answer) :
    incomingMessages serde (answer :: rest) =
      (incomingMessage serde answer).toList ++ incomingMessages serde rest := by
  rw [incomingMessages, List.filterMap_cons]
  cases incomingMessage serde answer with
  | none => rfl
  | some msg => rfl

/-- A run never has more messages than it has received. -/
theorem run_length {answers : List Answer} {final : Reconnect Json}
    (ran : run serde identifier authToken loop answers = some final) :
    final.kept.length ≤ loop.kept.length + (incomingMessages serde answers).length := by
  induction answers generalizing loop with
  | nil =>
      cases ran
      exact Nat.le_refl _
  | cons answer rest ih =>
      rw [run, List.foldlM_cons] at ran
      rcases Option.bind_eq_some_iff.mp ran with ⟨next, stepped, later⟩
      have bound := ih later
      rw [incomingMessages_cons, List.length_append]
      by_cases isLost : answer = .isConnected false
      · subst isLost
        have smaller : loop.messages.length ≤ loop.kept.length := by
          rw [kept, List.length_append]
          omega
        rw [step_lost serde identifier authToken stepped] at bound
        omega
      · rw [step_kept serde identifier authToken isLost stepped, List.length_append] at bound
        omega

/-- A run has all messages that it has received exactly if it drops none.  The
induction is on the answers; once a batch is dropped, the rest of the run
cannot make up for it. -/
theorem run_kept_iff {answers : List Answer} {final : Reconnect Json}
    (ran : run serde identifier authToken loop answers = some final) :
    final.kept = loop.kept ++ incomingMessages serde answers <->
      NeverDrops serde identifier authToken loop answers := by
  induction answers generalizing loop with
  | nil =>
      cases ran
      constructor
      · intro _
        trivial
      · intro _
        exact (List.append_nil _).symm
  | cons answer rest ih =>
      rw [run, List.foldlM_cons] at ran
      rcases Option.bind_eq_some_iff.mp ran with ⟨next, stepped, later⟩
      rw [neverDrops_cons serde identifier authToken stepped, incomingMessages_cons]
      by_cases drops : loop.Drops answer
      · -- The batch is missing from the end of the run.
        constructor
        · intro all
          exfalso
          rcases drops with ⟨isLost, isBatch⟩
          subst isLost
          have bound := run_length serde identifier authToken later
          have lengths := congrArg List.length all
          have isNone : incomingMessage serde (.isConnected false) = none := rfl
          have someBatch := List.length_pos_iff.mpr isBatch
          rw [step_lost serde identifier authToken stepped] at bound
          have isLength : loop.kept.length = loop.messages.length + loop.batch.length := by
            rw [kept, List.length_append]
          rw [isNone, List.length_append, Option.toList_none, List.nil_append] at lengths
          omega
        · rintro ⟨contrary, _⟩
          exact absurd drops contrary
      · have same : next.kept = loop.kept ++ (incomingMessage serde answer).toList := by
          by_cases isLost : answer = .isConnected false
          · subst isLost
            have isEmpty : loop.batch = [] := by
              by_contra isBatch
              exact drops ⟨rfl, isBatch⟩
            rw [step_lost serde identifier authToken stepped, kept, isEmpty]
            exact ((List.append_nil _).trans (List.append_nil _)).symm
          · exact step_kept serde identifier authToken isLost stepped
        rw [← ih later, same, List.append_assoc]
        constructor
        · intro all
          exact ⟨drops, all⟩
        · rintro ⟨_, all⟩
          exact all

theorem batch_atHead (head : loop.atHead) : loop.batch = [] := by
  rcases head with isPc | isPc | isPc <;> rw [batch, isPc]

/-- The callback gets the messages of a run, in order and each once, exactly if
no step of the run gives up a batch: at the heads of the loops all of them, and
anywhere else up to those that are being handed over. -/
theorem handed_over_iff (client : ConnectorClient) {answers : List Answer}
    {final : Reconnect Json}
    (ran : run serde identifier authToken (start client) answers = some final) :
    (final.messages ++ final.batch = incomingMessages serde answers <->
      NeverDrops serde identifier authToken (start client) answers) ∧
    (final.atHead -> (final.messages = incomingMessages serde answers <->
      NeverDrops serde identifier authToken (start client) answers)) := by
  have whole : final.messages ++ final.batch = incomingMessages serde answers <->
      NeverDrops serde identifier authToken (start client) answers :=
    run_kept_iff serde identifier authToken ran
  refine ⟨whole, ?_⟩
  intro head
  rw [batch_atHead head, List.append_nil] at whole
  exact whole

/-! ## Two runs -/

/-- The answers up to the first poll. -/
def registering : List Answer := [.stop false, .connected true, .sent true, .stop false]

/-- A connection that is lost between two messages, and the next one. -/
def betweenMessages : List Answer :=
  registering ++ [.received (some (messageText "hi")), .received none, .isConnected true, .returned,
    .returned, .stop false, .received none, .isConnected false, .stop false] ++
  registering ++ [.received (some (messageText "hi")), .received none, .isConnected true, .returned,
    .returned]

theorem handed_over_between_messages :
    exists final, run plainSerde "me" "" (start ⟨"", false⟩) betweenMessages = some final ∧
      final.messages = incomingMessages plainSerde betweenMessages ∧
      final.messages.length = 2 := by
  have neverDrops : NeverDrops plainSerde "me" "" (start ⟨"", false⟩) betweenMessages := by
    decide +kernel
  have all := ((@handed_over_iff Foundation.Json plainSerde "me" "" ⟨"", false⟩ betweenMessages _ rfl).2
    (Or.inr (Or.inl rfl))).mpr neverDrops
  exact ⟨_, rfl, all, rfl⟩

/-- A message that arrives together with the end of the connection is lost. -/
theorem last_batch_lost :
    exists answers final, run plainSerde "me" "" (start ⟨"", false⟩) answers = some final ∧
      (forall answer, answer ∈ answers -> answer ≠ .stop true) ∧ final.atHead ∧
      final.messages = [] ∧ (incomingMessages plainSerde answers).length = 1 :=
  ⟨registering ++ [.received (some (messageText "hi")), .received none, .isConnected false, .stop false], _,
    rfl, by decide, Or.inl rfl, rfl, rfl⟩

end Reconnect

end Connector
end P2pSdk
