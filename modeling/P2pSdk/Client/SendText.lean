import P2pSdk.Client.Threads

namespace P2pSdk

open Foundation

/-!
# Sending text (`send_text`, `send_data` of `client.rs`)

A call to `send_text` takes a sequence id from the queue in its first block,
writes a log line, and hands the frame to the socket in its last block.  The
three blocks are apart: other threads can run between them.
-/

namespace Client

/-- `pending_seq_ids.pop_front().unwrap_or(0)`. -/
def popSeqId (client : Client) : UInt64 × Client :=
  match client.pendingSeqIds with
  | [] => (0, client)
  | seqId :: rest => (seqId, { client with pendingSeqIds := rest })

end Client

/-- The frame that `send_text` builds. -/
def textFrame (text : String) (seqId : UInt64) : Bytes :=
  if 0 < seqId then encodeDataFrameWithSeq text seqId else encodeDataFrame text

theorem textFrame_eq (text : String) (seqId : UInt64) :
    textFrame text seqId = encodeDataFrameWithSeq text seqId := by
  by_cases positive : 0 < seqId
  · rw [textFrame, if_pos positive]
  · have isZero : seqId = 0 := by
      apply UInt64.toNat_inj.mp
      have notPositive := mt UInt64.lt_iff_toNat_lt.mpr positive
      exact Nat.eq_zero_of_not_pos notPositive
    rw [textFrame, if_neg positive, encodeDataFrame, isZero]

namespace Shared

/-- The datagram that `send_data` hands to the socket; none when it returns an error. -/
def sendData (shared : Shared) (data : Bytes) : Option SentDatagram :=
  match shared.client.iceAgent.bind fun owned => owned.agent.sendData data, shared.client.iceUdp with
  | some action, some udp => some ⟨udp, action⟩
  | _, _ => none

/-- What is sent is the data, to the nominated pair of the current agent. -/
theorem sendData_some {shared : Shared} {data : Bytes} {datagram : SentDatagram}
    (sends : shared.sendData data = some datagram) :
    datagram.action.data = data ∧
      exists owned, shared.client.iceAgent = some owned ∧
        owned.agent.nominatedRemote = some datagram.action.target := by
  unfold Shared.sendData at sends
  split at sends
  · rename_i action udp isAction _
    cases sends
    obtain ⟨owned, isOwned, isSent⟩ := Option.bind_eq_some_iff.mp isAction
    obtain ⟨pair, isPair, same⟩ := Option.map_eq_some_iff.mp isSent
    subst same
    refine ⟨rfl, owned, isOwned, ?_⟩
    rw [IceAgent.nominatedRemote, isPair]
    rfl
  · cases sends

/-- The current agent has a nominated pair to this address, and there is a socket. -/
structure Routes (shared : Shared) (udp : Nat) (target : Address) : Prop where
  socket : shared.client.iceUdp = some udp
  nominated : exists owned, shared.client.iceAgent = some owned ∧
    owned.agent.nominatedRemote = some target

/-- With a nominated pair and a socket the data is sent, once and unchanged. -/
theorem Routes.sendData {shared : Shared} {udp : Nat} {target : Address} (routes : shared.Routes udp target)
    (data : Bytes) : shared.sendData data = some ⟨udp, ⟨data, target.ip, target.port⟩⟩ := by
  rcases routes.nominated with ⟨owned, isOwned, isTarget⟩
  rcases Option.map_eq_some_iff.mp isTarget with ⟨pair, isPair, rfl⟩
  rw [Shared.sendData, isOwned, routes.socket, Option.bind_some, IceAgent.sendData, isPair]
  rfl

/-- A step of a callback leaves the socket and the agent. -/
theorem Routes.firing {shared : Shared} {udp : Nat} {target : Address} (routes : shared.Routes udp target)
    (firing : Firing) (notice : Notice) :
    Shared.Routes { shared with client := (firing.step notice shared.client).1 } udp target := by
  have swapped : forall present,
      Shared.Routes { shared with client := shared.client.setCallback present notice } udp target := by
    intro present
    cases notice <;> exact ⟨routes.socket, routes.nominated⟩
  cases firing with
  | take =>
      unfold Firing.step
      cases shared.client.callback notice with
      | true => exact swapped false
      | false => exact routes
  | call => exact routes
  | restore => exact swapped true

end Shared

/-! ## The call -/

inductive SendTextPc where
  | log (firing : Firing)
  | send
  | returned
  deriving DecidableEq, Repr

structure SendText where
  text : String
  seqId : UInt64
  pc : SendTextPc
  deriving DecidableEq, Repr

namespace SendText

/-- The first block. -/
def call (text : String) (shared : Shared) : Shared × SendText :=
  let popped := shared.client.popSeqId
  ({ shared with client := popped.2 }, { text := text, seqId := popped.1, pc := .log .take })

/-- A later block: the state after it, and the datagram it handed to the socket. -/
def step (shared : Shared) (self : SendText) : Option (Shared × SendText × Option SentDatagram) :=
  match self.pc with
  | .log firing =>
      let fired := firing.step .log shared.client
      some ({ shared with client := fired.1 },
        { self with pc := match fired.2.1 with
          | some later => .log later
          | none => .send }, none)
  | .send =>
      let datagram := shared.sendData (textFrame self.text self.seqId)
      some ({ shared with sent := shared.sent ++ datagram.toList }, { self with pc := .returned },
        datagram)
  | .returned => none

/-! ## Whole calls -/

/-- The blocks of a call from step `k` on until it returns, with the datagrams
that they hand to the socket.  `others k` stands for all that the other threads
do behind step `k`. -/
inductive Finishes (others : Nat -> Shared -> Shared) : Nat -> Shared -> SendText -> List SentDatagram -> Prop
  | returned {k : Nat} {shared : Shared} {self : SendText} :
      self.pc = .returned -> Finishes others k shared self []
  | step {k : Nat} {shared after : Shared} {self later : SendText} {datagram : Option SentDatagram}
      {rest : List SentDatagram} : step shared self = some (after, later, datagram) ->
      Finishes others (k + 1) (others k after) later rest ->
      Finishes others k shared self (datagram.toList ++ rest)

/-- A call from its first block on. -/
def Sends (others : Nat -> Shared -> Shared) (k : Nat) (shared : Shared) (text : String)
    (datagrams : List SentDatagram) : Prop :=
  Finishes others (k + 1) (others k (call text shared).1) (call text shared).2 datagrams

/-- The other threads leave the nominated pair and the socket in place. -/
def LeaveRoute (udp : Nat) (target : Address) (others : Nat -> Shared -> Shared) : Prop :=
  forall k shared, Shared.Routes shared udp target -> Shared.Routes (others k shared) udp target

section Whole

variable {others : Nat -> Shared -> Shared} {udp : Nat} {target : Address}

/-- A block that sends nothing. -/
theorem Finishes.quiet {k : Nat} {shared after : Shared} {self later : SendText}
    {datagrams : List SentDatagram} (stepped : SendText.step shared self = some (after, later, none))
    (finishes : Finishes others (k + 1) (others k after) later datagrams) :
    Finishes others k shared self datagrams :=
  .step stepped finishes

theorem finishes_send {k : Nat} {shared : Shared} (routes : shared.Routes udp target) (text : String)
    (seqId : UInt64) :
    Finishes others k shared ⟨text, seqId, .send⟩
      [⟨udp, ⟨encodeDataFrameWithSeq text seqId, target.ip, target.port⟩⟩] := by
  have sent := routes.sendData (textFrame text seqId)
  rw [textFrame_eq] at sent
  have stepped : step shared ⟨text, seqId, .send⟩ = some
      ({ shared with sent := shared.sent ++
          [⟨udp, ⟨encodeDataFrameWithSeq text seqId, target.ip, target.port⟩⟩] },
        ⟨text, seqId, .returned⟩,
        some ⟨udp, ⟨encodeDataFrameWithSeq text seqId, target.ip, target.port⟩⟩) := by
    rw [step, textFrame_eq, sent]
    rfl
  exact .step stepped (.returned rfl)

/-- The log line, at any of its program points, and the datagram behind it. -/
theorem finishes_log (leave : LeaveRoute udp target others) (firing : Firing) (text : String)
    (seqId : UInt64) : forall (k : Nat) (shared : Shared), shared.Routes udp target ->
      Finishes others k shared ⟨text, seqId, .log firing⟩
        [⟨udp, ⟨encodeDataFrameWithSeq text seqId, target.ip, target.port⟩⟩] := by
  have restored : forall (k : Nat) (shared : Shared), shared.Routes udp target ->
      Finishes others k shared ⟨text, seqId, .log .restore⟩
        [⟨udp, ⟨encodeDataFrameWithSeq text seqId, target.ip, target.port⟩⟩] :=
    fun k shared routes => .quiet rfl (finishes_send (leave k _ (routes.firing .restore .log)) text seqId)
  have called : forall (k : Nat) (shared : Shared), shared.Routes udp target ->
      Finishes others k shared ⟨text, seqId, .log .call⟩
        [⟨udp, ⟨encodeDataFrameWithSeq text seqId, target.ip, target.port⟩⟩] :=
    fun k shared routes => .quiet rfl (restored (k + 1) _ (leave k _ (routes.firing .call .log)))
  cases firing with
  | take =>
      intro k shared routes
      have kept := leave k _ (routes.firing .take .log)
      refine .quiet rfl ?_
      cases present : shared.client.callback .log with
      | true =>
          simp only [Firing.step, present, if_pos] at kept ⊢
          exact called (k + 1) _ kept
      | false =>
          simp only [Firing.step, present, Bool.false_eq_true, if_false] at kept ⊢
          exact finishes_send kept text seqId
  | call => exact called
  | restore => exact restored

/-- A call with a nominated pair and a socket returns, and hands one datagram to
the socket: the frame, with the sequence id that was first in the queue. -/
theorem sends_frame (leave : LeaveRoute udp target others) (k : Nat) {shared : Shared}
    (routes : shared.Routes udp target) (text : String) :
    Sends others k shared text
      [⟨udp, ⟨encodeDataFrameWithSeq text shared.client.popSeqId.1, target.ip, target.port⟩⟩] := by
  have popped : Shared.Routes (call text shared).1 udp target := by
    refine ⟨?_, ?_⟩
    · have sameSocket : (call text shared).1.client.iceUdp = shared.client.iceUdp := by
        simp only [call, Client.popSeqId]
        cases shared.client.pendingSeqIds <;> rfl
      exact sameSocket.trans routes.socket
    · have sameAgent : (call text shared).1.client.iceAgent = shared.client.iceAgent := by
        simp only [call, Client.popSeqId]
        cases shared.client.pendingSeqIds <;> rfl
      rw [sameAgent]
      exact routes.nominated
  exact finishes_log leave .take text _ (k + 1) _ (leave k _ popped)

end Whole

end SendText

end P2pSdk
