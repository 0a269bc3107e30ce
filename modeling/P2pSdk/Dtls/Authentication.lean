import P2pSdk.Dtls.Knowledge

namespace P2pSdk
namespace Dtls

open Foundation Effect

/-!
# Whom a client is connected to

The knowledge of the states is carried through whole calls, and through a run of
them up to what is given out: a client that reports a connection, keys for media
or data has authenticated the server.
-/

namespace Client

/-! ## The calls -/

section Calls

variable {search : BinarySearch Incoming} {known : State -> View -> Prop}

/-- What the states know is kept beside their functions too, where it grows with the view. -/
theorem walk_of_stable (stable : forall state, Stable (known state))
    (handsOn : forall state, HandsOn (Viewed known) state (makeProgressFrom search state))
    (closes : forall state view, known state view -> known .closed view) : Walk search (fun _ => True) (Viewed known) where
  handsOn := handsOn
  stateless := fun _ held => held
  timeless := fun _ held => held
  queueless := fun _ held => held
  closes := fun held => closes _ _ held
  initRandom := by
    intro state now before held
    unfold Client.initRandom
    rw [ends_bind, ends_get, ends_ite]
    refine ⟨fun unset => ⟨held.isAt, ?_⟩, fun _ => held⟩
    refine stable state _ _ held.fact ⟨rfl, List.prefix_refl _, rfl, fun random isRandom => ?_, rfl, rfl, rfl, rfl⟩ rfl
    cases unset.symm.trans isRandom
  parsePacket := fun state packet _ =>
    sees_framed (stable state) fun framed => Engine.framed_parsePacket framed search packet
  handleTimeout := fun state now => sees_framed (stable state) fun framed => Engine.framed_handleTimeout framed now
  createRecord := fun state _ _ => sees_framed (stable state) fun framed => framed.createRecord _ _ _ _
  abort := fun state => sees_framed (stable state) Engine.framed_abort

end Calls

/-! ## What is given out -/

section Given

variable {config : Config} {search : BinarySearch Incoming}

theorem known_walk : Walk search (fun _ => True) (Viewed (Known config)) := by
  refine walk_of_stable (known_stable config) (fun state => ?_) fun _ _ known => known.finished
  cases state with
  | sendClientHello => exact handsOn_sendClientHello
  | awaitHelloVerifyRequest => exact handsOn_awaitHelloVerifyRequest
  | awaitServerHello => exact handsOn_awaitServerHello
  | awaitCertificate => exact handsOn_awaitCertificate
  | awaitServerKeyExchange => exact handsOn_awaitServerKeyExchange
  | awaitCertificateRequest => exact handsOn_awaitCertificateRequest
  | awaitServerHelloDone => exact handsOn_awaitServerHelloDone
  | sendCertificate => exact handsOn_sendCertificate
  | sendClientKeyExchange => exact handsOn_sendClientKeyExchange
  | sendCertificateVerify => exact handsOn_sendCertificateVerify
  | sendChangeCipherSpec => exact handsOn_sendChangeCipherSpec
  | sendFinished => exact handsOn_sendFinished
  | awaitChangeCipherSpec => exact handsOn_awaitChangeCipherSpec search
  | awaitNewSessionTicket => exact handsOn_awaitNewSessionTicket
  | awaitFinished => exact handsOn_awaitFinished
  | awaitApplicationData => exact handsOn_awaitApplicationData (known_stable config _) fun _ known => known
  | closed => exact fun _ held => held

/-- The handshake is over, and the server was authenticated. -/
structure Settled (config : Config) (given : List LocalEvent) (state : State) (view : View) : Prop where
  isOver : state = .awaitApplicationData ∨ state = .closed
  concluded : Concluded config given view

theorem settled_walk {given : List LocalEvent} : Walk search (fun _ => True) (Viewed (Settled config given)) := by
  have stable : forall state, Stable (Settled config given state) :=
    fun _ _ _ held extend same => ⟨held.isOver, held.concluded.extend extend same⟩
  refine walk_of_stable stable (fun state => ?_) fun _ _ settled => ⟨.inr rfl, settled.concluded⟩
  cases state with
  | awaitApplicationData =>
      exact handsOn_awaitApplicationData (stable _) fun _ settled => ⟨.inr rfl, settled.concluded⟩
  | closed => exact fun _ held => held
  | _ => exact fun _ held => by rcases held.fact.isOver with same | same <;> cases same

theorem Known.settled {state : State} {view : View} (known : Known config state view)
    (told : view.released = true ∨ view.reports ≠ []) : Settled config [] state view := by
  have contrary : ¬ (view.released = false ∧ view.reports = []) := by
    rintro ⟨unreleased, unreported⟩
    rcases told with released | reported
    · cases unreleased.symm.trans released
    · exact reported unreported
  rcases known.silent with silent | ⟨isOver, finished⟩
  · exact absurd ⟨silent.unreleased, silent.unreported⟩ contrary
  · exact ⟨isOver, finished.outcome.resolve_left contrary⟩

end Given

end Client

/-- The event that an output reports. -/
def Output.report : Output -> Option LocalEvent
  | .connected => some .connected
  | .keyingMaterial material profile => some (.keyingMaterial material profile)
  | _ => none

/-- Outputs that only an authenticated server should lead to. -/
def Output.vouches : Output -> Bool
  | .connected | .keyingMaterial _ _ | .applicationData _ => true
  | _ => false

namespace Engine

/-- Data are given out when they were released. -/
theorem pollOutput_core (room now : Nat) (before : Engine) :
    (pollOutput room now).Ends
      (fun output after => SameCore before after ∧ (output.vouches = true ->
        before.releaseAppData = true ∧ output.report = none))
      (fun _ after => SameCore before after) before := by
  unfold pollOutput
  rw [ends_bind, ends_modify, ends_bind]
  have data : (pollAppData room).Ends
      (fun found after => SameCore before after ∧ (found.isSome = true -> before.releaseAppData = true))
      (fun _ after => SameCore before after) before.purgeHandledQueueRx := by
    unfold pollAppData
    rw [ends_bind, ends_get, ends_ite]
    refine ⟨fun _ => ⟨⟨rfl, rfl, rfl⟩, fun contrary => by cases contrary⟩, fun released => ?_⟩
    split
    · exact ⟨⟨rfl, rfl, rfl⟩, fun contrary => by cases contrary⟩
    · rw [ends_ite]
      exact ⟨fun _ => ⟨⟨rfl, rfl, rfl⟩, fun _ => Bool.of_not_eq_false released⟩, fun _ => ⟨rfl, rfl, rfl⟩⟩
  refine data.mono ?_ fun _ _ same => same
  rintro found between ⟨same, released⟩
  cases found with
  | some bytes => exact ⟨same, fun _ => ⟨released rfl, rfl⟩⟩
  | none =>
      dsimp only
      have packet : (pollPacketTx room).Ends (fun _ after => SameCore before after)
          (fun _ after => SameCore before after) between := by
        unfold pollPacketTx
        rw [ends_bind, ends_get]
        split
        · exact same
        · rw [ends_bind, ends_modify, ends_ite]
          exact ⟨fun _ => ⟨same.keying, same.transcript, same.released⟩,
            fun _ => ⟨same.keying, same.transcript, same.released⟩⟩
      rw [ends_bind]
      refine packet.mono ?_ fun _ _ same => same
      intro found after same
      cases found with
      | some bytes => exact ⟨same, fun contrary => by cases contrary⟩
      | none =>
          dsimp only
          rw [ends_bind, ends_get, ends_ite]
          refine ⟨fun _ => ⟨⟨same.keying, same.transcript, same.released⟩, fun contrary => by cases contrary⟩, fun _ => ?_⟩
          exact ⟨same, fun contrary => by cases contrary⟩

end Engine

namespace Client

theorem view_of_core {outer : Client} {after : Engine} (same : Engine.SameCore outer.engine after) :
    { outer with engine := after : Client }.view = outer.view := by
  unfold view
  dsimp only
  rw [same.keying, same.transcript, same.released]

/-- What the view was when something was given out, and what it is. -/
inductive Gives (before : View) : Output -> View -> Prop
  | report {output : Output} {event : LocalEvent} {rest : List LocalEvent} (isReport : output.report = some event)
      (isFirst : before.reports = event :: rest) : Gives before output { before with reports := rest }
  | data {output : Output} (released : before.released = true) (isData : output.report = none) :
      Gives before output before
  | other {output : Output} (isOther : output.vouches = false) : Gives before output before

theorem peerCert_vouches {room : Nat} {certificates : List Bytes} {output : Output}
    (isOutput : LocalEvent.peerCert.intoOutput room certificates = .ok output) : output.vouches = false := by
  unfold LocalEvent.intoOutput at isOutput
  dsimp only at isOutput
  split at isOutput
  · cases isOutput
  · split at isOutput
    · cases isOutput
      rfl
    · cases isOutput

theorem pollOutput_gives (room : Nat) (before : Client) :
    (pollOutput room).Ends (fun output after => after.state = before.state ∧ Gives before.view output after.view)
      (fun _ after => after.state = before.state ∧ after.view = before.view) before := by
  unfold pollOutput
  rw [ends_bind, ends_get]
  split
  · rename_i event rest events
    rw [ends_bind, ends_modify]
    have popped : before.view.reports = (event :: rest).filter LocalEvent.isReport :=
      congrArg (List.filter LocalEvent.isReport) events
    cases event with
    | peerCert =>
        have same : { before with localEvents := rest : Client }.view = before.view := by
          show { before.view with reports := rest.filter LocalEvent.isReport } = before.view
          rw [show rest.filter LocalEvent.isReport = before.view.reports from popped.symm]
        cases isOutput : LocalEvent.peerCert.intoOutput room before.serverCertificates with
        | error fault => exact ⟨rfl, same⟩
        | ok output =>
            rw [ends_ofExcept_ok, same]
            exact ⟨rfl, .other (peerCert_vouches isOutput)⟩
    | connected => exact ⟨rfl, .report rfl popped⟩
    | keyingMaterial material profile => exact ⟨rfl, .report rfl popped⟩
  · unfold onEngine
    rw [ends_zoom]
    refine (Engine.pollOutput_core room before.lastNow before.engine).mono ?_ ?_
    · rintro output after ⟨same, released⟩
      refine ⟨rfl, ?_⟩
      rw [view_of_core same]
      cases vouches : output.vouches with
      | false => exact .other vouches
      | true => exact .data (released vouches).1 (released vouches).2
    · exact fun _ after same => ⟨rfl, view_of_core same⟩

/-- What was given out is vouched for by what the client knows. -/
inductive Vouched (config : Config) (earlier : List Output) (client : Client) : Prop
  | untold (silent : forall output, output ∈ earlier -> output.vouches = false)
      (knows : Has (Viewed (Known config)) client) : Vouched config earlier client
  | told (settled : Has (Viewed (Settled config (earlier.filterMap Output.report))) client) : Vouched config earlier client

section Run

variable {config : Config} {auth : AuthMode} {rng : SeededRng} {search : BinarySearch Incoming}

theorem report_eq_none {output : Output} (isOther : output.vouches = false) : output.report = none := by
  cases output with
  | connected => cases isOther
  | keyingMaterial material profile => cases isOther
  | applicationData bytes => cases isOther
  | packet bytes => rfl
  | timeout deadline => rfl
  | peerCert certificate => rfl
  | closeNotify => rfl

theorem filterMap_report_eq_nil {outputs : List Output} (silent : forall output, output ∈ outputs -> output.vouches = false) :
    outputs.filterMap Output.report = [] :=
  List.filterMap_eq_nil_iff.mpr fun output isOutput => report_eq_none (silent output isOutput)

/-- An output of a client that has settled was reported as it should be. -/
theorem Settled.gives {given : List LocalEvent} {state : State} {before after : View} {output : Output}
    (settled : Settled config given state before) (gives : Gives before output after) :
    Settled config (given ++ output.report.toList) state after := by
  cases gives with
  | report isReport isFirst =>
      rename_i event rest
      rcases settled.concluded.authenticated with ⟨suite, masterSecret, authenticated⟩
      refine ⟨settled.isOver, ⟨suite, masterSecret, authenticated.reporting before.released rest⟩, ?_⟩
      have proper := settled.concluded.proper
      rw [isFirst] at proper
      rw [isReport, Option.toList_some, List.append_assoc]
      exact proper.carry rfl
  | data released isData =>
      rw [isData, Option.toList_none, List.append_nil]
      exact settled
  | other isOther =>
      rw [report_eq_none isOther, Option.toList_none, List.append_nil]
      exact settled

theorem settled_of_told {client : Client} (knows : Has (Viewed (Known config)) client)
    (told : client.view.released = true ∨ client.view.reports ≠ []) :
    Has (Viewed (Settled config [])) client := Known.settled knows told

theorem pollOutput_vouched (room : Nat) {earlier : List Output} {before : Client}
    (vouched : Vouched config earlier before) :
    (pollOutput room).Ends (fun output after => Vouched config (earlier ++ [output]) after)
      (fun _ after => Vouched config earlier after) before := by
  refine (pollOutput_gives room before).mono ?_ ?_
  · rintro output after ⟨sameState, gives⟩
    have told : Has (Viewed (Settled config (earlier.filterMap Output.report))) before ->
        Vouched config (earlier ++ [output]) after := by
      intro settled
      refine .told ?_
      show Settled config _ after.state after.view
      have reported : (earlier ++ [output]).filterMap Output.report =
          earlier.filterMap Output.report ++ output.report.toList := by
        rw [List.filterMap_append]
        cases isReport : output.report <;> simp [isReport]
      rw [sameState, reported]
      exact Settled.gives settled gives
    cases vouched with
    | told settled => exact told settled
    | untold silent knows =>
        rw [filterMap_report_eq_nil silent] at told
        generalize isView : after.view = view at gives
        cases gives with
        | report isReport isFirst =>
            refine told (settled_of_told knows (.inr fun none => ?_))
            cases none.symm.trans isFirst
        | data released isData => exact told (settled_of_told knows (.inl released))
        | other isOther =>
            refine .untold (fun other isOutput => ?_) ?_
            · rcases List.mem_append.mp isOutput with isEarlier | isLast
              · exact silent other isEarlier
              · cases List.mem_singleton.mp isLast
                exact isOther
            · show Known config after.state after.view
              rw [sameState, isView]
              exact knows
  · rintro _ after ⟨sameState, same⟩
    have knows : forall known, Has (Viewed known) before -> Has (Viewed known) after := by
      intro known held
      show known after.state after.view
      rw [sameState, same]
      exact held
    cases vouched with
    | told settled => exact .told (knows _ settled)
    | untold silent known => exact .untold silent (knows _ known)

theorem new_known (now : Nat) : Has (Viewed (Known config)) (new config auth rng now) :=
  ⟨⟨⟨rfl, rfl⟩, rfl, rfl⟩, rfl⟩

theorem vouched_call {request : Call} (silent : forall room, request ≠ .pollOutput room) {earlier : List Output} :
    Keeps (Vouched config earlier) (call search request) := by
  intro before vouched
  cases vouched with
  | untold untold knows =>
      exact (known_walk.call silent (fun _ _ => trivial) before knows).mono (fun _ _ => .untold untold) fun _ _ => .untold untold
  | told settled => exact (settled_walk.call silent (fun _ _ => trivial) before settled).mono (fun _ _ => .told) fun _ _ => .told

theorem vouched_run {run : Client × Traffic}
    (reachable : ((system search config auth rng).remember (traffic search)).Reachable run) :
    Vouched config run.2.given run.1 := by
  refine run_invariant_of_polls (fun earlier => Vouched config earlier.given) ?_ (fun _ _ _ vouched => vouched) ?_ ?_
    reachable
  · exact fun now => .untold (fun output isOutput => by cases isOutput) (new_known now)
  · exact fun _ _ silent _ => vouched_call silent
  · exact fun _ room _ vouched => pollOutput_vouched room vouched

/-- When something was given out that vouches for it, the client has settled. -/
theorem Vouched.settled {outputs : List Output} {client : Client} (vouched : Vouched config outputs client)
    (told : exists output, output ∈ outputs ∧ output.vouches = true) :
    Has (Viewed (Settled config (outputs.filterMap Output.report))) client := by
  cases vouched with
  | told settled => exact settled
  | untold silent _ =>
      rcases told with ⟨output, isOutput, vouches⟩
      cases (silent output isOutput).symm.trans vouches

/-- Whenever a client has reported the connection, keys for media or data, the handshake is over and the
server is authenticated, and the reports are one of the connection with at most one of keys behind it. -/
theorem connected_client_authenticated {run : Client × Traffic}
    (reachable : ((system search config auth rng).remember (traffic search)).Reachable run)
    (told : exists output, output ∈ run.2.given ∧ output.vouches = true) :
    (run.1.state = .awaitApplicationData ∨ run.1.state = .closed) ∧
      (exists suite masterSecret, Authenticated config suite run.1.view masterSecret) ∧
      Proper run.1.view (run.2.given.filterMap Output.report ++ run.1.view.reports) := by
  have settled := (vouched_run reachable).settled told
  exact ⟨settled.isOver, settled.concluded.authenticated, settled.concluded.proper⟩

open Sample in
/-- The sample session reports the connection and gives out data. -/
theorem session_connected_authenticated :
    ((session 11).1.state = .awaitApplicationData ∨ (session 11).1.state = .closed) ∧
      (exists suite masterSecret, Authenticated Sample.config suite (session 11).1.view masterSecret) ∧
      Proper (session 11).1.view ((session 11).2.given.filterMap Output.report ++ (session 11).1.view.reports) :=
  connected_client_authenticated (session_reachable 11) ⟨.connected, by decide +kernel, rfl⟩

end Run

end Client

end Dtls
end P2pSdk
