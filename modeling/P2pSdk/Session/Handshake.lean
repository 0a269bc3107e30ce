import P2pSdk.Session.Phases

namespace P2pSdk

open Foundation

/-!
# A handshake without loss does not get stuck

Every run without loss in which no datagram disturbs the nomination of the
controlling agent goes on until both agents have completed.  When the
controlled agent ticks first, its request can mark the only pair of the
controlling agent, which then has nothing left to check: both are connected
and neither ever completes.
-/

namespace Session

/-! ## Whole runs -/

/-- A session between its start and the completion of both agents. -/
structure Underway (setting : Setting) (session : Session) : Prop where
  steady : Steady session
  drawn : IdsDrawn setting session
  notClosed : (session.agent .a).state ≠ .closed
  confirmed : (session.agent .b).nominatedPairConfirmed = true ->
    (session.agent .b).state = .completed
  phase : Phase session

section Runs

variable {setting : Setting} {before after : Session} {event : NetworkEvent}

/-- The controlled agent confirms and completes in one step. -/
theorem confirmed_of_move (bControlled : (before.agent .b).role = .controlled)
    (confirmed : (before.agent .b).nominatedPairConfirmed = true ->
      (before.agent .b).state = .completed) (move : Move setting before event after)
    (isConfirmed : (after.agent .b).nominatedPairConfirmed = true) :
    (after.agent .b).state = .completed := by
  have advances := advances_of_move move .b
  rcases agent_of_move move .b with ⟨_, same⟩ | ⟨now, _, same⟩ |
    ⟨_, source, _, controlling, useCandidate, _, _, _, _, _, same⟩ |
    ⟨_, _, _, id, _, _, _, _, same⟩
  · rw [same] at isConfirmed ⊢
    exact confirmed isConfirmed
  · rw [same, (IceAgent.tickChecks_kept ..).2] at isConfirmed
    exact advances.completed (confirmed isConfirmed)
  · rcases IceAgent.receiveRequest_controlled bControlled controlling useCandidate source with
      ⟨_, result⟩ | ⟨idx, found, ⟨rfl, result⟩ | ⟨_, result⟩⟩
    · rw [same, result] at isConfirmed
      exact advances.completed (confirmed isConfirmed)
    · rw [same]
      exact IceAgent.receiveRequest_completes bControlled confirmed controlling ⟨idx, found⟩
    · rw [same, result] at isConfirmed
      exact advances.completed (confirmed isConfirmed)
  · rcases IceAgent.receiveResponse_cases (before.agent .b) id with
      ⟨_, unchanged⟩ | ⟨idx, pair, _, inside, _, acknowledged⟩
    · rw [same, unchanged] at isConfirmed ⊢
      exact confirmed isConfirmed
    · rw [same, acknowledged, IceAgent.acknowledgePair_controlled bControlled inside] at isConfirmed
      exact advances.completed (confirmed isConfirmed)

theorem Underway.move (underway : Underway setting before)
    (proceeds : Proceeds setting before event after) : Underway setting after where
  steady := underway.steady.move proceeds.move
  drawn := underway.drawn.move proceeds.move
  notClosed := (advances_of_move proceeds.move .a).running underway.notClosed
  confirmed := confirmed_of_move underway.steady.bControlled underway.confirmed proceeds.move
  phase := underway.phase.move proceeds

theorem Underway.started (aControls : (setting.party .a).isControlling = true)
    (bControlled : (setting.party .b).isControlling = false)
    (started : forall side, (setting.described side).startChecks.2 = .ok ()) :
    Underway setting setting.started where
  steady := Steady.started aControls bControlled
  drawn := by
    refine ⟨?_, ?_⟩
    · intro datagram member
      cases member
    · intro id member
      rcases List.mem_map.mp member with ⟨pair, isPair, rfl⟩
      rcases setting.started_pairs .a isPair with ⟨role, localCand, remoteCand, rfl⟩
      exact Or.inl rfl
  notClosed := by
    change (setting.described .a).startChecks.1.state ≠ .closed
    rcases IceAgent.startChecks_ok (started .a) with ⟨_, _, _, same⟩
    rw [same]
    intro contrary
    cases contrary
  confirmed := by
    intro contrary
    rw [setting.started_nominatedPairConfirmed] at contrary
    cases contrary
  phase := by
    apply Phase.checking
    refine ⟨setting.started_nominatedPairIdx .a, setting.started_nominatedPairConfirmed .a, ?_, ?_,
      ?_⟩
    · intro id member nonempty
      rcases List.mem_map.mp member with ⟨pair, isPair, rfl⟩
      rcases setting.started_pairs .a isPair with ⟨role, localCand, remoteCand, rfl⟩
      exact absurd rfl nonempty
    · intro _
      rcases IceAgent.startChecks_ok (started .a) with ⟨_, hasLocal, hasRemote, _⟩
      rcases List.exists_mem_of_ne_nil _ hasRemote with ⟨remoteCand, isRemote⟩
      have isTarget := IceAgent.startChecks_targets (started .a) (List.mem_map_of_mem isRemote)
      rcases List.mem_map.mp isTarget with ⟨pair, isPair, _⟩
      refine ⟨pair, isPair, ?_⟩
      rcases setting.started_pairs .a isPair with ⟨role, localCand, remoteCand, rfl⟩
      intro contrary
      cases contrary
    · intro pair isPair _
      rcases setting.started_pairs .a isPair with ⟨role, localCand, remoteCand, rfl⟩
      exact Or.inl rfl

/-- A session is underway as long as no transaction id has been drawn twice. -/
theorem underway_of_reachable (aControls : (setting.party .a).isControlling = true)
    (bControlled : (setting.party .b).isControlling = false) {session : Session}
    (reachable : ((sessionSystem setting).restrict fun before event =>
      LossFree setting before event ∧ Undisturbed before event).Reachable session)
    (fresh : Set.InjOn setting.ids (Set.Iio session.drawn)) : Underway setting session := by
  have started := started_of_reachable reachable.of_restrict
  revert fresh
  apply invariant_of_moves
    (fun session => Set.InjOn setting.ids (Set.Iio session.drawn) -> Underway setting session)
    reachable
  · intro _
    exact Underway.started aControls bControlled started
  · intro before event after allowed grounded held move fresh
    have earlier : Set.InjOn setting.ids (Set.Iio before.drawn) := by
      apply fresh.mono
      intro m below
      exact lt_of_lt_of_le below (drawn_of_move move)
    have underway := held earlier
    exact underway.move ⟨move, allowed.1, allowed.2, grounded, underway.steady, underway.drawn,
      underway.confirmed, started, fresh⟩

/-- A handshake without loss that nothing disturbs is never stuck. -/
theorem undisturbed_not_stuck (aControls : (setting.party .a).isControlling = true)
    (bControlled : (setting.party .b).isControlling = false) {session : Session}
    (reachable : ((sessionSystem setting).restrict fun before event =>
      LossFree setting before event ∧ Undisturbed before event).Reachable session)
    (fresh : Set.InjOn setting.ids (Set.Iio session.drawn)) : ¬ Stuck setting session := by
  have underway := underway_of_reachable aControls bControlled reachable fresh
  have grounded := grounded_of_reachable reachable.of_restrict
  exact underway.phase.not_stuck (grounded.sound .a) underway.notClosed

end Runs

/-- One candidate on each side, `a` controlling. -/
def singleSetting : Setting :=
  concreteSetting true false [hostCandidate "10.0.0.1" 5000] [hostCandidate "10.0.0.2" 6000]

/-- After the first check of `a` was answered nothing is in flight, and `a`
goes on to announce the pair. -/
theorem undisturbed_not_stuck_after_check :
    exists session, ((sessionSystem singleSetting).restrict fun before event =>
        LossFree singleSetting before event ∧ Undisturbed before event).Reachable session ∧
      session.flight = [] ∧ (session.agent .a).state = .connected ∧
      ¬ Stuck singleSetting session := by
  have ends : (singleSetting.started.events singleSetting
      (fun session event => decide (LossFree singleSetting session event ∧
        Undisturbed session event))
      [.tick .a 500, .deliver 0 addressA, .deliver 0 addressB]).any
      (fun session => session.flight.isEmpty ∧ (session.agent .a).state = .connected ∧
        session.drawn ≤ 1) = true := by
    decide +kernel
  rcases exists_session (fun before event => LossFree singleSetting before event ∧
      Undisturbed before event) (fun _ _ => of_decide_eq_true)
    ⟨by decide +kernel, by decide +kernel⟩ ends with ⟨session, reachable, test⟩
  rcases of_decide_eq_true test with ⟨quiet, connected, drawn⟩
  refine ⟨session, reachable, List.isEmpty_iff.mp quiet, connected, ?_⟩
  apply undisturbed_not_stuck rfl rfl reachable
  apply countingIds_injOn
  exact drawn.trans (by decide)

/-- An agent whose pairs have all succeeded sends nothing more. -/
theorem silent_of_succeeded {agent : IceAgent}
    (succeeded : (agent.checkList.all fun pair => pair.state = .succeeded) = true)
    (crypto : Crypto) (ids : Nat -> TransactionId) (next now : Nat) :
    (agent.tick crypto ids next now).2.1 = [] := by
  apply List.map_eq_nil_iff.mpr
  apply List.eq_nil_iff_forall_not_mem.mpr
  intro check sent
  rcases IceAgent.tickChecks_sent crypto ids agent next now sent with
    ⟨k, pair, m, found, checked, _⟩
  have done := List.all_eq_true.mp succeeded pair (List.mem_of_getElem? found)
  unfold IceAgent.skipsPair at checked
  rw [decide_eq_false_iff_not] at checked
  exact checked (Or.inl (of_decide_eq_true done))

/-- The controlled agent ticks first: its request is answered, and both agents
are connected with nothing left to do. -/
theorem controlled_first_stuck :
    ¬ forall (setting : Setting) (session : Session),
      (setting.party .a).isControlling = true -> (setting.party .b).isControlling = false ->
      ((sessionSystem setting).restrict (LossFree setting)).Reachable session ->
      Set.InjOn setting.ids (Set.Iio session.drawn) -> ¬ Stuck setting session := by
  intro claim
  have ends : (singleSetting.started.events singleSetting
      (fun session event => decide (LossFree singleSetting session event))
      [.tick .b 500, .deliver 0 addressB, .deliver 0 addressA]).any
      (fun session => session.flight.isEmpty ∧ (session.agent .a).state = .connected ∧
        (session.agent .b).state = .connected ∧
        ((session.agent .a).checkList.all fun pair => pair.state = .succeeded) ∧
        ((session.agent .b).checkList.all fun pair => pair.state = .succeeded) ∧
        session.drawn ≤ 1) = true := by
    decide +kernel
  rcases exists_session (LossFree singleSetting) (fun _ _ => of_decide_eq_true)
    ⟨by decide +kernel, by decide +kernel⟩ ends with ⟨session, reachable, test⟩
  rcases of_decide_eq_true test with ⟨quiet, connectedA, connectedB, allA, allB, drawn⟩
  apply claim singleSetting session rfl rfl reachable
  · apply countingIds_injOn
    exact drawn.trans (by decide)
  · refine ⟨List.isEmpty_iff.mp quiet, ⟨.a, ?_⟩, ?_, ?_⟩
    · rw [connectedA]
      decide
    · intro side
      cases side with
      | a =>
          rw [connectedA]
          decide
      | b =>
          rw [connectedB]
          decide
    · intro side now _
      cases side with
      | a => exact silent_of_succeeded allA _ _ _ _
      | b => exact silent_of_succeeded allB _ _ _ _

end Session

end P2pSdk
