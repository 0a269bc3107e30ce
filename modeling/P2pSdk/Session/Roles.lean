import P2pSdk.Session.Messages

namespace P2pSdk

open Foundation

/-!
# Role conflicts between two agents

The only reaction to a role conflict is that a controlling agent gives way to
a request of a controlling peer.  The tie-breakers are sent and never
compared, and no 487 is ever sent.  Two controlled agents therefore stay
controlled, and two controlling agents whose requests cross both give way.
They settle on opposite roles exactly as long as no controlling agent gives
way to a peer that has given way before.
-/

namespace Session

/-- Ticks and deliveries only. -/
def Reliable : NetworkEvent -> Prop
  | .tick _ _ => True
  | .deliver _ _ => True
  | .duplicate _ => False
  | .lose _ => False

instance (event : NetworkEvent) : Decidable (Reliable event) :=
  match event with
  | .tick _ _ => .isTrue trivial
  | .deliver _ _ => .isTrue trivial
  | .duplicate _ => .isFalse id
  | .lose _ => .isFalse id

/-- Each agent has processed a request that the other one sent in its current role. -/
def HeardCurrentRoles (session : Session) : Prop :=
  forall side, (session.agent side.other).role ∈ session.heard side

/-- A controlling agent is about to process a request that its peer sent as
controlling before it gave way itself. -/
def crosses (before : Session) : NetworkEvent -> Bool
  | .deliver index _ =>
      match before.flight[index]? with
      | some datagram =>
          match datagram.message with
          | .request true _ _ =>
              (before.agent datagram.sender.other).role = .controlling ∧
                (before.agent datagram.sender).role = .controlled
          | _ => false
      | none => false
  | _ => false

/-- No requests cross. -/
def NoCrossing (before : Session) (event : NetworkEvent) : Prop := before.crosses event = false

instance (before : Session) (event : NetworkEvent) : Decidable (NoCrossing before event) :=
  inferInstanceAs (Decidable (before.crosses event = false))

/-- At most one agent has given way, and a controlling agent has not heard a
controlling peer. -/
structure RolesSound (session : Session) : Prop where
  oneControlling : exists side, (session.agent side).role = .controlling
  unheard : forall side, (session.agent side).role = .controlling ->
    IceRole.controlling ∉ session.heard side

/-- The agents of a session after a move have their old roles, except for the
receiver of a request. -/
theorem role_of_move {setting : Setting} {before after : Session} {event : NetworkEvent}
    (move : Move setting before event after) :
    ((forall side, (after.agent side).role = (before.agent side).role) ∧
      after.heard = before.heard) ∨
    exists index source datagram controlling useCandidate id,
      event = .deliver index source ∧ before.flight[index]? = some datagram ∧
      datagram.message = .request controlling useCandidate id ∧
      (after.agent datagram.sender).role = (before.agent datagram.sender).role ∧
      (after.agent datagram.sender.other).role =
        (if controlling = true ∧ (before.agent datagram.sender.other).role = .controlling
          then .controlled else (before.agent datagram.sender.other).role) ∧
      after.heard = Function.update before.heard datagram.sender.other
        ((if controlling then .controlling else .controlled) ::
          before.heard datagram.sender.other) := by
  cases move with
  | tick side now =>
      refine Or.inl ⟨?_, rfl⟩
      intro other
      by_cases same : other = side
      · subst same
        rw [tickAt_self, IceAgent.tickChecks_role]
      · rw [Side.eq_other same, tickAt_other]
  | @request index source datagram controlling useCandidate id inFlight meant =>
      refine Or.inr ⟨index, source, datagram, controlling, useCandidate, id, rfl, inFlight, meant,
        ?_, ?_, ?_⟩
      · rw [received_sender]
      · rw [received_receiver, IceAgent.receiveRequest_role]
      · simp only [received, noteHeard, meant, withAgent]
  | @response index source datagram id inFlight meant =>
      refine Or.inl ⟨?_, ?_⟩
      · intro side
        by_cases same : side = datagram.sender
        · subst same
          rw [received_sender]
        · rw [Side.eq_other same, received_receiver, IceAgent.receiveResponse_role]
      · simp only [received, noteHeard, meant, withAgent]
  | duplicate inFlight => exact Or.inl ⟨fun _ => rfl, rfl⟩
  | lose inFlight => exact Or.inl ⟨fun _ => rfl, rfl⟩

theorem role_cases (role : IceRole) : role = .controlling ∨ role = .controlled := by
  cases role with
  | controlling => exact Or.inl rfl
  | controlled => exact Or.inr rfl

/-- Without crossing requests at most one agent gives way. -/
theorem rolesSound_of_move {setting : Setting} {before after : Session} {event : NetworkEvent}
    (allowed : NoCrossing before event) (sound : RolesSound before)
    (move : Move setting before event after) : RolesSound after := by
  rcases role_of_move move with ⟨roles, heard⟩ |
    ⟨index, source, datagram, controlling, useCandidate, id, rfl, inFlight, meant, senderRole,
      receiverRole, heard⟩
  · refine ⟨?_, ?_⟩
    · rcases sound.oneControlling with ⟨side, isControlling⟩
      exact ⟨side, (roles side).trans isControlling⟩
    · intro side isControlling
      rw [heard]
      exact sound.unheard side ((roles side).symm.trans isControlling)
  · refine ⟨?_, ?_⟩
    · by_cases givesWay : controlling = true ∧
          (before.agent datagram.sender.other).role = .controlling
      · -- The receiver gives way: its peer has not done so, or the requests would cross.
        refine ⟨datagram.sender, ?_⟩
        rw [senderRole]
        rcases role_cases (before.agent datagram.sender).role with isControlling | isControlled
        · exact isControlling
        · have contrary : before.crosses (.deliver index source) = true := by
            simp [crosses, inFlight, meant, givesWay.1, givesWay.2, isControlled]
          rw [allowed] at contrary
          cases contrary
      · rw [if_neg givesWay] at receiverRole
        rcases sound.oneControlling with ⟨side, isControlling⟩
        by_cases same : side = datagram.sender
        · subst same
          exact ⟨_, senderRole.trans isControlling⟩
        · rw [Side.eq_other same] at isControlling
          exact ⟨_, receiverRole.trans isControlling⟩
    · intro side isControlling
      rw [heard]
      by_cases same : side = datagram.sender
      · subst same
        rw [Function.update_of_ne (Side.other_ne datagram.sender).symm]
        exact sound.unheard _ (senderRole.symm.trans isControlling)
      · rw [Side.eq_other same] at isControlling ⊢
        rw [Function.update_self]
        rw [receiverRole] at isControlling
        by_cases givesWay : controlling = true ∧
            (before.agent datagram.sender.other).role = .controlling
        · rw [if_pos givesWay] at isControlling
          cases isControlling
        · rw [if_neg givesWay] at isControlling
          have asControlled : controlling = false := by
            rw [← Bool.not_eq_true]
            intro isTrue
            exact givesWay ⟨isTrue, isControlling⟩
          rw [asControlled]
          intro member
          rcases List.mem_cons.mp member with contrary | earlier
          · cases contrary
          · exact sound.unheard _ isControlling earlier

theorem rolesSound_of_reachable {setting : Setting}
    (bothControl : forall side, (setting.party side).isControlling = true) {session : Session}
    (reachable : ((sessionSystem setting).restrict NoCrossing).Reachable session) :
    RolesSound session := by
  refine invariant_of_moves RolesSound reachable ⟨⟨.a, ?_⟩, ?_⟩ ?_
  · rw [Setting.started_role, bothControl]
    rfl
  · intro side _ contrary
    cases contrary
  · intro before event after allowed _ held move
    exact rolesSound_of_move allowed held move

/-- If each agent has heard the other's current role, they do not both control. -/
theorem RolesSound.opposite {session : Session} (sound : RolesSound session)
    (heard : session.HeardCurrentRoles) : (session.agent .a).role ≠ (session.agent .b).role := by
  intro same
  rcases sound.oneControlling with ⟨side, isControlling⟩
  have both : forall other, (session.agent other).role = .controlling := by
    intro other
    cases side with
    | a =>
        cases other with
        | a => exact isControlling
        | b => exact same.symm.trans isControlling
    | b =>
        cases other with
        | a => exact same.trans isControlling
        | b => exact isControlling
  have fromPeer := heard .a
  rw [both] at fromPeer
  exact sound.unheard .a (both .a) fromPeer

/-- Two agents that both start as controlled stay controlled whatever happens. -/
theorem roles_stay_controlled {setting : Setting} {allowed : Session -> NetworkEvent -> Prop}
    (bothControlled : forall side, (setting.party side).isControlling = false) {session : Session}
    (reachable : ((sessionSystem setting).restrict allowed).Reachable session) :
    forall side, (session.agent side).role = .controlled := by
  refine invariant_of_moves (fun session => forall side, (session.agent side).role = .controlled)
    reachable ?_ ?_
  · intro side
    rw [Setting.started_role, bothControlled]
    rfl
  · intro before event after _ _ held move other
    rcases role_of_move move with ⟨roles, _⟩ |
      ⟨_, _, datagram, controlling, _, _, _, _, _, senderRole, receiverRole, _⟩
    · rw [roles]
      exact held other
    · by_cases same : other = datagram.sender
      · subst same
        rw [senderRole]
        exact held _
      · rw [Side.eq_other same, receiverRole, held, if_neg]
        rintro ⟨_, contrary⟩
        cases contrary

/-- Two agents that start in one role and whose requests do not cross have
opposite roles, once each has processed a request of the other's current role,
if and only if they started as controlling. -/
theorem roles_opposite {setting : Setting}
    (sameRole : (setting.party .a).isControlling = (setting.party .b).isControlling)
    {session : Session} (reachable : ((sessionSystem setting).restrict NoCrossing).Reachable session)
    (heard : session.HeardCurrentRoles) :
    (session.agent .a).role ≠ (session.agent .b).role ↔
      (setting.party .a).isControlling = true := by
  constructor
  · intro opposite
    rw [← Bool.not_eq_false]
    intro isControlled
    have bothControlled : forall side, (setting.party side).isControlling = false := by
      intro side
      cases side with
      | a => exact isControlled
      | b => exact sameRole.symm.trans isControlled
    have controlled := roles_stay_controlled bothControlled reachable
    exact opposite ((controlled .a).trans (controlled .b).symm)
  · intro isControlling
    have bothControl : forall side, (setting.party side).isControlling = true := by
      intro side
      cases side with
      | a => exact isControlling
      | b => exact sameRole.symm.trans isControlling
    exact (rolesSound_of_reachable bothControl reachable).opposite heard

/-- Candidates of two parties of which one has two addresses. -/
def conflictSetting (control : Bool) : Setting :=
  concreteSetting control control [hostCandidate "10.0.0.1" 5000]
    [hostCandidate "10.0.0.2" 6000, hostCandidate "10.0.0.3" 6000]

/-- One side ticks first, its request is heard first, and the other gives way. -/
theorem roles_opposite_in_turn :
    exists session, ((sessionSystem (conflictSetting true)).restrict NoCrossing).Reachable session ∧
      (session.agent .a).role ≠ (session.agent .b).role := by
  have ends : ((conflictSetting true).started.events (conflictSetting true)
      (fun session event => decide (NoCrossing session event))
      [.tick .a 500, .deliver 0 addressA, .tick .b 500, .deliver 2 addressB]).any
      (fun session => (session.agent .b).role ∈ session.heard .a ∧
        (session.agent .a).role ∈ session.heard .b) = true := by
    decide +kernel
  rcases exists_session NoCrossing (fun _ _ => of_decide_eq_true)
    ⟨by decide +kernel, by decide +kernel⟩ ends with ⟨session, reachable, test⟩
  rcases of_decide_eq_true test with ⟨heardA, heardB⟩
  refine ⟨session, reachable, (roles_opposite rfl reachable ?_).mpr rfl⟩
  intro side
  cases side with
  | a => exact heardA
  | b => exact heardB

/-- Two controlling agents whose first requests cross are both controlled from
then on, and hear each other say so. -/
theorem crossing_requests_agree :
    ¬ forall (setting : Setting) (session : Session),
      (setting.party .a).isControlling = (setting.party .b).isControlling ->
      (setting.party .a).seed.tieBreaker ≠ (setting.party .b).seed.tieBreaker ->
      ((sessionSystem setting).restrict fun _ event => Reliable event).Reachable session ->
      session.HeardCurrentRoles -> (session.agent .a).role ≠ (session.agent .b).role := by
  intro claim
  have ends : ((conflictSetting true).started.events (conflictSetting true)
      (fun _ event => decide (Reliable event))
      [.tick .a 500, .tick .b 500, .deliver 0 addressA, .deliver 1 addressB, .tick .a 1500,
        .tick .b 1500, .deliver 4 addressA, .deliver 4 addressB]).any
      (fun session => (session.agent .a).role = .controlled ∧
        (session.agent .b).role = .controlled ∧ .controlled ∈ session.heard .a ∧
        .controlled ∈ session.heard .b) = true := by
    decide +kernel
  rcases exists_session (fun _ event => Reliable event) (fun _ _ => of_decide_eq_true)
    ⟨by decide +kernel, by decide +kernel⟩ ends with ⟨session, reachable, test⟩
  rcases of_decide_eq_true test with ⟨roleA, roleB, heardA, heardB⟩
  refine claim (conflictSetting true) session rfl (by decide) reachable ?_ (roleA.trans roleB.symm)
  intro side
  cases side with
  | a =>
      change (session.agent .b).role ∈ session.heard .a
      rw [roleB]
      exact heardA
  | b =>
      change (session.agent .a).role ∈ session.heard .b
      rw [roleA]
      exact heardB

end Session

end P2pSdk
