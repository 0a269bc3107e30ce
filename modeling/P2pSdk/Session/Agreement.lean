import P2pSdk.Session.Selection

namespace P2pSdk

open Foundation

/-!
# Agreement on the selected path

The network decides for each sender and target whether datagrams arrive, and
from which address.  Datagrams may be lost, duplicated and reordered.  The
controlled agent can only have selected the address under which datagrams to
the candidate selected by the controlling agent arrive.
-/

namespace Session

/-- The source address under which a datagram arrives, by its sender and its
target; none when it cannot be delivered. -/
abbrev PathTable : Type := Side -> Address -> Option Address

/-- Every delivery follows the paths. -/
def FollowsPath (path : PathTable) (before : Session) : NetworkEvent -> Prop
  | .deliver index source => forall datagram, before.flight[index]? = some datagram ->
      path datagram.sender datagram.target = some source
  | _ => True

/-- The controlled agent `b` selects only what the controlling agent `a` announced. -/
structure Agreed (path : PathTable) (session : Session) : Prop where
  steady : Steady session
  selected : forall source, (session.agent .b).nominatedRemote = some source ->
    exists target, (session.agent .a).nominatedRemote = some target ∧ path .a target = some source

/-- A move gives `b` no selection but the source of a request with USE-CANDIDATE. -/
theorem selected_of_move {setting : Setting} {before after : Session} {event : NetworkEvent}
    (bControlled : (before.agent .b).role = .controlled)
    (move : Move setting before event after) :
    (after.agent .b).nominatedRemote = (before.agent .b).nominatedRemote ∨
    exists index source datagram controlling id, event = .deliver index source ∧
      before.flight[index]? = some datagram ∧ datagram.sender = .a ∧
      datagram.message = .request controlling true id ∧
      (after.agent .b).nominatedRemote = some source := by
  rcases agent_of_move move .b with ⟨_, same⟩ | ⟨now, _, same⟩ |
    ⟨index, source, datagram, controlling, useCandidate, id, isEvent, inFlight, sender, meant,
      same⟩ | ⟨_, _, _, id, _, _, _, _, same⟩
  · rw [same]
    exact Or.inl rfl
  · rw [same]
    exact Or.inl (IceAgent.tickChecks_nominatedRemote ..)
  · rw [same]
    rcases IceAgent.receiveRequest_nominatedRemote bControlled controlling useCandidate source with
      unchanged | ⟨rfl, selected⟩
    · exact Or.inl unchanged
    · exact Or.inr ⟨index, source, datagram, controlling, id, isEvent, inFlight, sender, meant,
        selected⟩
  · rw [same]
    exact Or.inl (IceAgent.receiveResponse_nominatedRemote bControlled id)

/-- Deliveries along the paths keep the agreement. -/
theorem Agreed.move {setting : Setting} {path : PathTable} {before after : Session}
    {event : NetworkEvent} (agreed : Agreed path before) (follows : FollowsPath path before event)
    (move : Move setting before event after) : Agreed path after := by
  have kept := agreed.steady.keepsNomination move
  refine ⟨agreed.steady.move move, ?_⟩
  intro source known
  rcases selected_of_move agreed.steady.bControlled move with same |
    ⟨index, arrived, datagram, controlling, id, rfl, inFlight, sender, meant, selected⟩
  · rcases agreed.selected source (same.symm.trans known) with ⟨target, isTarget, arrives⟩
    exact ⟨target, kept.remote target isTarget, arrives⟩
  · have arrives := follows datagram inFlight
    have target := agreed.steady.claims_a inFlight sender meant
    cases selected.symm.trans known
    rw [sender] at arrives
    exact ⟨datagram.target, kept.remote _ target, arrives⟩

/-- Once both agents have completed, the controlled one has selected the
address under which datagrams to the candidate selected by the controlling one
arrive, and the controlling one has marked exactly one pair. -/
theorem selections_agree {setting : Setting} {path : PathTable}
    (aControls : (setting.party .a).isControlling = true)
    (bControlled : (setting.party .b).isControlling = false) {session : Session}
    (reachable : ((sessionSystem setting).restrict (FollowsPath path)).Reachable session)
    (completed : forall side, (session.agent side).state = .completed) :
    (exists target source, (session.agent .a).nominatedRemote = some target ∧
      path .a target = some source ∧ (session.agent .b).nominatedRemote = some source) ∧
    ∃! k : Nat, exists pair : PairEntry, (session.agent .a).checkList[k]? = some pair ∧
      pair.nominated = true := by
  have agreed : Agreed path session := by
    apply invariant_of_moves (Agreed path) reachable
    · refine ⟨Steady.started aControls bControlled, ?_⟩
      intro source known
      rw [IceAgent.nominatedRemote_eq, setting.started_nominatedPairIdx] at known
      cases known
    · intro before event after follows _ agreed move
      exact agreed.move follows move
  have grounded := grounded_of_reachable reachable.of_restrict
  rcases (grounded.sound .a).completed (completed .a) with ⟨_, i, pair, idx, found, _⟩
  rcases (grounded.sound .b).completed (completed .b) with ⟨_, j, other, idxB, foundB, _⟩
  refine ⟨?_, i, ?_, ?_⟩
  · have selected : (session.agent .b).nominatedRemote = some other.target := by
      rw [IceAgent.nominatedRemote_eq, idxB, Option.bind_some, List.getElem?_map, foundB,
        Option.map_some]
    rcases agreed.selected _ selected with ⟨target, isTarget, follows⟩
    exact ⟨target, other.target, isTarget, follows, selected⟩
  · exact ⟨pair, found, (agreed.steady.marked i pair found).mpr idx⟩
  · rintro k ⟨marked, foundMarked, isNominated⟩
    exact Option.some.inj (((agreed.steady.marked k marked foundMarked).mp isNominated).symm.trans idx)

/-- One address on each side. -/
def singlePath : PathTable := fun side _ =>
  match side with
  | .a => some addressA
  | .b => some addressB

instance (path : PathTable) (before : Session) (event : NetworkEvent) :
    Decidable (FollowsPath path before event) :=
  match event with
  | .tick _ _ => .isTrue trivial
  | .deliver index source =>
      inferInstanceAs (Decidable (forall datagram, before.flight[index]? = some datagram ->
        path datagram.sender datagram.target = some source))
  | .duplicate _ => .isTrue trivial
  | .lose _ => .isTrue trivial

/-- A plain check, the nomination and its answer complete both agents. -/
theorem selections_agree_after_handshake :
    exists session, ((sessionSystem (concreteSetting true false [hostCandidate "10.0.0.1" 5000]
        [hostCandidate "10.0.0.2" 6000])).restrict (FollowsPath singlePath)).Reachable session ∧
      ∃! k : Nat, exists pair : PairEntry, (session.agent .a).checkList[k]? = some pair ∧
        pair.nominated = true := by
  have ends : ((concreteSetting true false [hostCandidate "10.0.0.1" 5000]
        [hostCandidate "10.0.0.2" 6000]).started.events
      (concreteSetting true false [hostCandidate "10.0.0.1" 5000] [hostCandidate "10.0.0.2" 6000])
      (fun session event => decide (FollowsPath singlePath session event))
      [.tick .a 500, .deliver 0 addressA, .deliver 0 addressB, .tick .a 1000, .deliver 0 addressA,
        .deliver 0 addressB]).any
      (fun session => (session.agent .a).state = .completed ∧
        (session.agent .b).state = .completed) = true := by
    decide +kernel
  rcases exists_session (FollowsPath singlePath) (fun _ _ => of_decide_eq_true)
    ⟨by decide +kernel, by decide +kernel⟩ ends with ⟨session, reachable, test⟩
  rcases of_decide_eq_true test with ⟨completedA, completedB⟩
  refine ⟨session, reachable, (selections_agree rfl rfl reachable ?_).2⟩
  intro side
  cases side with
  | a => exact completedA
  | b => exact completedB

end Session

end P2pSdk
