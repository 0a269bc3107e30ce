import P2pSdk.Dtls.ClientSteps

namespace P2pSdk
namespace Dtls

open Foundation Effect

/-!
# The rounds of a call

The loop of `make_progress` runs until the function of a state returns that
state.  A client never goes back but for the hello, which it sends once more
when it has the cookie of the server, so the loop ends.
-/

namespace Client

/-- How far a client is in a state.  The hello is sent again with the cookie. -/
def rankIn (hasCookie : Bool) : State -> Nat
  | .sendClientHello => if hasCookie then 2 else 0
  | .awaitHelloVerifyRequest => 1
  | .awaitServerHello => 3
  | .awaitCertificate => 4
  | .awaitServerKeyExchange => 5
  | .awaitCertificateRequest => 6
  | .awaitServerHelloDone => 7
  | .sendCertificate => 8
  | .sendClientKeyExchange => 9
  | .sendCertificateVerify => 10
  | .sendChangeCipherSpec => 11
  | .sendFinished => 12
  | .awaitChangeCipherSpec => 13
  | .awaitNewSessionTicket => 14
  | .awaitFinished => 15
  | .awaitApplicationData => 16
  | .closed => 17

theorem rankIn_le (hasCookie : Bool) (state : State) : rankIn hasCookie state ≤ 17 := by
  cases hasCookie with
  | false => cases state <;> decide
  | true => cases state <;> decide

/-- How far a client is when it is put in a state. -/
def rank (self : Client) (state : State) : Nat := rankIn self.cookie.isSome state

/-- A function returns its state or one that is further. -/
def Advances (state : State) (action : Action State) : Prop :=
  forall before, action.Ends (fun next after => next = state ∨ before.rank state < after.rank next)
    (fun _ _ => True) before

/-- Only to send the hello again the cookie is needed. -/
theorem advances_of_returns {state : State} {action : Action State} (greeted : state ≠ .sendClientHello)
    (returns : Returns (fun next => next = state ∨ next ≠ .sendClientHello ∧
      rankIn false state < rankIn false next) action) : Advances state action := by
  intro before
  refine (returns before).mono (fun next after returned => returned.imp_right ?_) fun _ _ _ => trivial
  rintro ⟨isLater, further⟩
  have free : forall {other : State} (hasCookie : Bool), other ≠ .sendClientHello ->
      rankIn hasCookie other = rankIn false other := by
    intro other hasCookie notHello
    cases other with
    | sendClientHello => exact absurd rfl notHello
    | _ => rfl
  unfold rank
  rw [free _ greeted, free _ isLater]
  exact further

theorem advances_of_follows {state : State} {action : Action State}
    (later : 3 ≤ rankIn false state) (returns : Returns (Follows state) action) : Advances state action := by
  refine advances_of_returns ?_ (returns.mono fun next follows => ?_)
  · rintro rfl
    exact absurd later (by decide)
  · cases follows with
    | stays => exact .inl rfl
    | firstHello | secondHello | verify | unverified => exact absurd later (by decide)
    | _ => exact .inr ⟨by decide, by decide⟩

theorem advances_sendClientHello : Advances .sendClientHello sendClientHello := by
  intro before
  have returns : forall before : Client, (sendClientHello).Ends
      (fun next _ => next = if before.cookie = none then .awaitHelloVerifyRequest else .awaitServerHello)
      (fun _ _ => True) before := by
    intro before
    unfold sendClientHello
    rw [ends_bind, ends_get]
    refine Returns.bind (fun random => Returns.bind fun _ => Returns.bind fun _ => ?_) before
    intro _
    split
    · exact rfl
    · exact rfl
  refine (returns before).mono (fun next after same => .inr ?_) fun _ _ _ => trivial
  unfold rank
  rw [same]
  cases before.cookie with
  | none => exact Nat.zero_lt_one
  | some cookie => exact Nat.lt_succ_self 2

theorem advances_awaitHelloVerifyRequest : Advances .awaitHelloVerifyRequest awaitHelloVerifyRequest := by
  intro before
  unfold awaitHelloVerifyRequest
  rw [ends_bind, ends_get, ends_ite]
  refine ⟨fun _ => .inr (show 1 < 3 by decide), fun _ => ?_⟩
  · rw [ends_bind]
    refine Ends.mono (show Ends _ (fun _ _ => True) (fun _ _ => True) before from ?_) ?_ fun _ _ _ => trivial
    · unfold Ends
      split
      · trivial
      · trivial
    · intro found between _
      split
      · exact .inl rfl
      · split
        · rename_i request _
          rw [ends_ite]
          refine ⟨fun _ => trivial, fun _ => ?_⟩
          rw [ends_bind, ends_modify, ends_bind]
          unfold onEngine
          rw [ends_zoom]
          exact .inr (Nat.lt_succ_self 1)
        · exact trivial

theorem advances_awaitChangeCipherSpec (search : BinarySearch Incoming) :
    Advances .awaitChangeCipherSpec (awaitChangeCipherSpec search) := by
  refine advances_of_returns (by decide) (Returns.bind fun found => ?_)
  split
  · exact returns_pure (.inl rfl)
  · exact Returns.bind fun _ => Returns.bind fun _ => returns_pure (.inr ⟨by decide, by decide⟩)

theorem advances_awaitFinished : Advances .awaitFinished awaitFinished := by
  refine advances_of_returns (by decide) (Returns.bind fun expected => Returns.bind fun found => ?_)
  split
  · exact returns_pure (.inl rfl)
  · split
    · refine (returns_fail _).ite (Returns.bind fun _ => Returns.bind fun _ => Returns.bind fun _ => ?_)
      exact Returns.bind fun _ => returns_pure (.inr ⟨by decide, by decide⟩)
    · exact returns_fail _

theorem advances_makeProgressFrom (search : BinarySearch Incoming) (state : State) :
    Advances state (makeProgressFrom search state) := by
  have follows : forall {state : State} {action : Action State}, Returns (Follows state) action ->
      3 ≤ rankIn false state -> Advances state action := fun returns later => advances_of_follows later returns
  cases state with
  | sendClientHello => exact advances_sendClientHello
  | awaitHelloVerifyRequest => exact advances_awaitHelloVerifyRequest
  | awaitServerHello => exact follows returns_awaitServerHello (by decide)
  | awaitCertificate => exact follows returns_awaitCertificate (by decide)
  | awaitServerKeyExchange => exact follows returns_awaitServerKeyExchange (by decide)
  | awaitCertificateRequest => exact follows returns_awaitCertificateRequest (by decide)
  | awaitServerHelloDone => exact follows returns_awaitServerHelloDone (by decide)
  | sendCertificate => exact follows returns_sendCertificate (by decide)
  | sendClientKeyExchange => exact follows returns_sendClientKeyExchange (by decide)
  | sendCertificateVerify => exact follows returns_sendCertificateVerify (by decide)
  | sendChangeCipherSpec => exact follows returns_sendChangeCipherSpec (by decide)
  | sendFinished => exact follows returns_sendFinished (by decide)
  | awaitChangeCipherSpec => exact advances_awaitChangeCipherSpec search
  | awaitNewSessionTicket => exact follows returns_awaitNewSessionTicket (by decide)
  | awaitFinished => exact advances_awaitFinished
  | awaitApplicationData => exact follows returns_awaitApplicationData (by decide)
  | closed => exact fun _ => .inl rfl

/-! ## The loop -/

/-- How the loop of the source ends, however many rounds it takes. -/
inductive Loop (search : BinarySearch Incoming) : Client -> Except Fault Unit -> Client -> Prop
  | fails {self after : Client} {fault : Fault}
      (round : makeProgressFrom search self.state self = (.error fault, after)) : Loop search self (.error fault) after
  | stays {self after : Client} (round : makeProgressFrom search self.state self = (.ok self.state, after)) :
      Loop search self (.ok ()) after
  | goesOn {self after last : Client} {next : State} {outcome : Except Fault Unit}
      (round : makeProgressFrom search self.state self = (.ok next, after)) (isOther : self.state ≠ next)
      (rest : Loop search { after with state := next } outcome last) : Loop search self outcome last

/-- The loop of the source ends as this one does, when this one has enough rounds. -/
theorem makeProgressLoop_ends (search : BinarySearch Incoming) (fuel : Nat) (self : Client)
    (enough : 18 ≤ fuel + self.rank self.state) :
    (makeProgressLoop search fuel).Ends (fun _ => Loop search self (.ok ()))
      (fun fault => Loop search self (.error fault)) self := by
  -- Each round that is followed by another one brings the client further.
  induction fuel generalizing self with
  | zero =>
      have below := rankIn_le self.cookie.isSome self.state
      unfold rank at enough
      omega
  | succ fuel ih =>
      have advances := advances_makeProgressFrom search self.state self
      unfold makeProgressLoop
      rw [ends_bind, ends_get, ends_bind]
      unfold Ends at advances ⊢
      rcases round : makeProgressFrom search self.state self with ⟨outcome, after⟩
      rw [round] at advances
      cases outcome with
      | error fault => exact .fails round
      | ok next =>
          show Ends _ _ _ after
          rw [ends_ite]
          refine ⟨fun isOther => ?_, fun same => ?_⟩
          · have further := advances.resolve_left (Ne.symm isOther)
            have left : 18 ≤ fuel + { after with state := next }.rank next := by
              have same : { after with state := next }.rank next = after.rank next := rfl
              omega
            rw [ends_bind, ends_modify]
            exact (ih { after with state := next } left).mono (fun _ _ rest => .goesOn round isOther rest)
              fun _ _ rest => .goesOn round isOther rest
          · rw [← not_not.mp same] at round
            exact .stays round

/-- The loop of `make_progress` ends from every client, and it does so before the rounds of the model are
used up. -/
theorem makeProgress_ends (search : BinarySearch Incoming) (self : Client) :
    (makeProgress search).Ends (fun _ => Loop search self (.ok ())) (fun fault => Loop search self (.error fault)) self :=
  makeProgressLoop_ends search 20 self (Nat.le_trans (by decide) (Nat.le_add_right 20 _))

end Client

end Dtls
end P2pSdk
