import P2pSdk.Ice.Transmissions
import P2pSdk.Foundation.Retransmission

namespace P2pSdk

open Foundation TrafficEvent

/-!
# Pacing of the checks

The traffic of a started agent is a log of its requests and of the resets of
its pairs: a role conflict resets the pairs in progress, a nomination the pair
nominated.  A pair that can still be checked counts its requests since its last
reset and remembers the time of its last one, so the log is paced.

For the total, every pair that can still be checked has a budget of the
requests left until it fails.  A request uses up one, a role conflict restores
at most seven for each pair, and a first nomination seven for one pair.
-/

/-- The traffic since a successful start, the newest event first, and the
number of role conflicts in it. -/
structure Traffic where
  events : List (TrafficEvent Nat)
  conflicts : Nat

namespace IceAgent

/-- The requests of a round as events. -/
def sentEvents (checks : List SentCheck) : List (TrafficEvent Nat) :=
  (checks.map fun check => TrafficEvent.sent check.pair check.time).reverse

/-- The pairs whose check has not been answered. -/
def unansweredPairs (agent : IceAgent) : List Nat :=
  (List.range agent.checkList.length).filter fun k =>
    agent.checkList[k]?.any fun pair => pair.state = .inProgress

/-- The traffic after a datagram: a role conflict and a nomination are resets. -/
def trafficAfter (before : IceAgent) (data : Bytes) (after : IceAgent) (traffic : Traffic) :
    Traffic :=
  match before.reaction data with
  | .conflict => ⟨.reset before.unansweredPairs :: traffic.events, traffic.conflicts + 1⟩
  | _ =>
      match after.nominatedPairIdx with
      | some idx =>
          if before.nominatedPairIdx = some idx then traffic
          else { traffic with events := .reset [idx] :: traffic.events }
      | none => traffic

end IceAgent

/-- The traffic since the last call of `start_checks` if that call succeeded;
nothing after `stop`. -/
def trafficRecorder : AgentRecorder (Option Traffic) where
  start := none
  onStart := fun agent _ => if agent.startChecks.2.isOk then some ⟨[], 0⟩ else none
  onTick := fun _ sent traffic => traffic.map fun traffic =>
    { traffic with events := IceAgent.sentEvents sent ++ traffic.events }
  onData := fun before data _ after traffic => traffic.map (before.trafficAfter data after)
  onStop := fun _ => none

namespace IceAgent

/-! ## Pairs and the log -/

/-- A pair that rounds still check. -/
def isOpen (pair : PairEntry) : Bool := pair.state = .waiting ∨ pair.state = .inProgress

/-- The pair at `k` remembers the time of its last request and, while it is
open, the number of requests since its last reset. -/
structure PairTraffic (k : Nat) (pair : PairEntry) (events : List (TrafficEvent Nat)) : Prop where
  last : forall time, lastSent k events = some time -> pair.lastSentTimeMs = time
  counted : isOpen pair = true -> pair.retransmitCount = sinceReset k events ∧
    pair.retransmitCount < MAX_RETRANSMITS

namespace PairTraffic

variable {k : Nat} {pair : PairEntry} {events : List (TrafficEvent Nat)}

theorem append (traffic : PairTraffic k pair events) {newer : List (TrafficEvent Nat)}
    (apart : forall event, event ∈ newer -> event.concerns k = false) :
    PairTraffic k pair (newer ++ events) where
  last := by
    intro time isTime
    rw [lastSent_append apart] at isTime
    exact traffic.last time isTime
  counted := by
    intro isOpen
    rw [sinceReset_append apart]
    exact traffic.counted isOpen

theorem cons (traffic : PairTraffic k pair events) {event : TrafficEvent Nat}
    (apart : event.concerns k = false) : PairTraffic k pair (event :: events) where
  last := by
    intro time isTime
    rw [lastSent_cons apart] at isTime
    exact traffic.last time isTime
  counted := by
    intro isOpen
    rw [sinceReset_cons apart]
    exact traffic.counted isOpen

/-- A pair that is not open has nothing to count. -/
theorem close (traffic : PairTraffic k pair events) {later : PairEntry}
    (closed : isOpen later = false) (same : later.lastSentTimeMs = pair.lastSentTimeMs) :
    PairTraffic k later events where
  last := fun time isTime => same.trans (traffic.last time isTime)
  counted := by
    intro contrary
    rw [closed] at contrary
    cases contrary

/-- A reset of a pair whose count starts again. -/
theorem reset (traffic : PairTraffic k pair events) {later : PairEntry} {keys : List Nat}
    (isReset : k ∈ keys) (fresh : isOpen later = true -> later.retransmitCount = 0)
    (same : later.lastSentTimeMs = pair.lastSentTimeMs) :
    PairTraffic k later (.reset keys :: events) where
  last := fun time isTime => same.trans (traffic.last time isTime)
  counted := by
    intro isOpen
    rw [sinceReset_reset isReset, fresh isOpen]
    exact ⟨rfl, by decide⟩

/-- A request is counted, and the last one closes the pair. -/
theorem check (traffic : PairTraffic k pair events) (wasOpen : isOpen pair = true) (now : Nat)
    (id : TransactionId) : PairTraffic k (pairAfterCheck pair now id) (.sent k now :: events) where
  last := by
    intro time isTime
    rw [lastSent_sent] at isTime
    rw [pairAfterCheck_lastSentTimeMs]
    exact Option.some.inj isTime
  counted := by
    intro stillOpen
    rw [pairAfterCheck_retransmitCount, sinceReset_sent, (traffic.counted wasOpen).1]
    refine ⟨rfl, ?_⟩
    by_contra many
    unfold isOpen at stillOpen
    rw [pairAfterCheck_state, (traffic.counted wasOpen).1, if_pos (by omega)] at stillOpen
    simp at stillOpen

end PairTraffic

/-- A pair that a round does not pass over is open, and its timeout has run out. -/
theorem skipsPair_eq_false {agent : IceAgent} {now k : Nat} {pair : PairEntry}
    (checked : agent.skipsPair now k pair = false) :
    isOpen pair = true ∧ pair.lastSentTimeMs + pair.retransmitTimerMs ≤ now := by
  have reasons := of_decide_eq_false checked
  rw [not_or, not_or, not_or] at reasons
  refine ⟨?_, by omega⟩
  unfold isOpen
  cases state : pair.state with
  | waiting => rfl
  | inProgress => rfl
  | succeeded => exact absurd state reasons.1
  | failed => exact absurd state reasons.2.1

/-! ## Budgets -/

/-- The requests left on a pair until it fails. -/
def budget (pair : PairEntry) : Nat :=
  if isOpen pair then MAX_RETRANSMITS - pair.retransmitCount else 0

theorem budget_le (pair : PairEntry) : budget pair ≤ MAX_RETRANSMITS := by
  unfold budget
  split_ifs
  · exact Nat.sub_le _ _
  · exact Nat.zero_le _

/-- A request uses up one of the requests left. -/
theorem budget_check {pair : PairEntry} (wasOpen : isOpen pair = true)
    (few : pair.retransmitCount < MAX_RETRANSMITS) (now : Nat) (id : TransactionId) :
    1 + budget (pairAfterCheck pair now id) ≤ budget pair := by
  unfold budget
  rw [if_pos wasOpen, pairAfterCheck_retransmitCount]
  split_ifs with stillOpen
  · omega
  · omega

theorem budget_modify {update : PairEntry -> PairEntry} {credit : Nat}
    (grows : forall pair, budget (update pair) ≤ budget pair + credit) (pairs : List PairEntry)
    (i : Nat) :
    ((pairs.modify i update).map budget).sum ≤ (pairs.map budget).sum + credit := by
  induction pairs generalizing i with
  | nil => simp
  | cons pair rest ih =>
      cases i with
      | zero =>
          have here := grows pair
          simp only [List.modify_zero_cons, List.map_cons, List.sum_cons]
          omega
      | succ i =>
          have later := ih i
          simp only [List.modify_succ_cons, List.map_cons, List.sum_cons]
          omega

theorem budget_sum_le (pairs : List PairEntry) :
    (pairs.map budget).sum ≤ MAX_RETRANSMITS * pairs.length := by
  induction pairs with
  | nil => exact Nat.zero_le _
  | cons pair rest ih =>
      have here := budget_le pair
      rw [List.map_cons, List.sum_cons, List.length_cons, Nat.mul_succ]
      omega

/-! ## Rounds -/

/-- The number of requests in a log. -/
def requestCount (events : List (TrafficEvent Nat)) : Nat := events.countP TrafficEvent.isSent

/-- The pace of the checks. -/
def PacedChecks (events : List (TrafficEvent Nat)) : Prop :=
  Paced retransmissionTimeout MAX_RETRANSMITS events

theorem sentEvents_cons (check : SentCheck) (rest : List SentCheck) :
    sentEvents (check :: rest) = sentEvents rest ++ [.sent check.pair check.time] := by
  unfold sentEvents
  rw [List.map_cons, List.reverse_cons]

/-- What a round from index `i` on makes of the pairs `before`: its requests
`sent` extend the log, and concern no pair below `i`. -/
structure RoundTraffic (i : Nat) (events : List (TrafficEvent Nat)) (before after : List PairEntry)
    (sent : List (TrafficEvent Nat)) : Prop where
  paced : PacedChecks (sent ++ events)
  pairs : forall (j : Nat) pair, after[j]? = some pair -> PairTraffic (i + j) pair (sent ++ events)
  apart : forall k event, k < i -> event ∈ sent -> event.concerns k = false
  spent : requestCount sent + (after.map budget).sum ≤ (before.map budget).sum

namespace RoundTraffic

variable {i : Nat} {events sent : List (TrafficEvent Nat)} {rest after : List PairEntry}
  {pair : PairEntry}

/-- The pair at `i` is passed over. -/
theorem skip (round : RoundTraffic (i + 1) events rest after sent)
    (here : PairTraffic i pair events) :
    RoundTraffic i events (pair :: rest) (pair :: after) sent where
  paced := round.paced
  pairs := by
    intro j later found
    cases j with
    | zero =>
        cases found
        exact here.append fun event isEvent => round.apart i event (Nat.lt_succ_self i) isEvent
    | succ j =>
        have there := round.pairs j later found
        rwa [show i + 1 + j = i + (j + 1) by omega] at there
  apart := fun k event below isEvent => round.apart k event (by omega) isEvent
  spent := by
    have spent := round.spent
    rw [List.map_cons, List.map_cons, List.sum_cons, List.sum_cons]
    omega

/-- The pair at `i` is checked: its request is older than those of the rest. -/
theorem check {now : Nat} (round : RoundTraffic (i + 1) (.sent i now :: events) rest after sent)
    (here : PairTraffic i pair events) (wasOpen : isOpen pair = true) (id : TransactionId) :
    RoundTraffic i events (pair :: rest) (pairAfterCheck pair now id :: after)
      (sent ++ [.sent i now]) := by
  have joined : (sent ++ [.sent i now]) ++ events = sent ++ (.sent i now :: events) := by
    rw [List.append_assoc]
    rfl
  refine ⟨?_, ?_, ?_, ?_⟩
  · rw [joined]
    exact round.paced
  · rw [joined]
    intro j later found
    cases j with
    | zero =>
        cases found
        exact (here.check wasOpen now id).append fun event isEvent =>
          round.apart i event (Nat.lt_succ_self i) isEvent
    | succ j =>
        have there := round.pairs j later found
        rwa [show i + 1 + j = i + (j + 1) by omega] at there
  · intro k event below isEvent
    rcases List.mem_append.mp isEvent with inRest | isHere
    · exact round.apart k event (by omega) inRest
    · rw [List.mem_singleton.mp isHere]
      exact decide_eq_false (show ¬ i = k by omega)
  · have spent := round.spent
    have used := budget_check wasOpen (here.counted wasOpen).2 now id
    have one : List.countP TrafficEvent.isSent [TrafficEvent.sent i now] = 1 := rfl
    rw [requestCount, List.countP_append, one, List.map_cons, List.map_cons, List.sum_cons,
      List.sum_cons]
    unfold requestCount at spent
    omega

end RoundTraffic

/-- A request on an open pair whose timeout has run out keeps the pace. -/
theorem PacedChecks.check {events : List (TrafficEvent Nat)} (paced : PacedChecks events)
    {i now : Nat} {pair : PairEntry} (here : PairTraffic i pair events)
    (wasOpen : isOpen pair = true)
    (waited : pair.lastSentTimeMs + retransmissionTimeout pair.retransmitCount ≤ now) :
    PacedChecks (.sent i now :: events) := by
  rcases here.counted wasOpen with ⟨count, few⟩
  refine ⟨by rw [← count]; exact few, ?_, paced⟩
  intro last isLast
  rw [← here.last last isLast, ← count]
  exact waited

/-- A round, pair by pair. -/
theorem round_traffic (crypto : Crypto) (ids : Nat -> TransactionId) (agent : IceAgent)
    (now i : Nat) (pairs : List PairEntry) (next : Nat) (events : List (TrafficEvent Nat))
    (timed : forall pair, pair ∈ pairs ->
      pair.retransmitTimerMs = retransmissionTimeout pair.retransmitCount)
    (traffic : forall (j : Nat) pair, pairs[j]? = some pair -> PairTraffic (i + j) pair events)
    (paced : PacedChecks events) :
    RoundTraffic i events pairs (tickPairs crypto ids agent now i pairs next).1
      (sentEvents (tickPairs crypto ids agent now i pairs next).2.1) := by
  induction pairs generalizing i next events with
  | nil =>
      refine ⟨paced, ?_, ?_, Nat.le_refl _⟩
      · intro j pair found
        cases found
      · intro k event _ never
        cases never
  | cons pair rest ih =>
      have here := traffic 0 pair rfl
      rw [Nat.add_zero] at here
      have timedRest := fun later isLater => timed later (List.mem_cons_of_mem pair isLater)
      have restOf : forall (j : Nat) later, rest[j]? = some later ->
          PairTraffic (i + 1 + j) later events := by
        intro j later found
        have there := traffic (j + 1) later found
        rwa [show i + (j + 1) = i + 1 + j by omega] at there
      cases skipped : agent.skipsPair now i pair with
      | true =>
          simp only [tickPairs, skipped, if_true]
          exact (ih (i + 1) next events timedRest restOf paced).skip here
      | false =>
          rcases skipsPair_eq_false skipped with ⟨wasOpen, waited⟩
          rw [timed pair List.mem_cons_self] at waited
          have restHere : forall (j : Nat) later, rest[j]? = some later ->
              PairTraffic (i + 1 + j) later (.sent i now :: events) := by
            intro j later found
            refine (restOf j later found).cons ?_
            exact decide_eq_false (by omega)
          simp only [tickPairs, skipped, Bool.false_eq_true, if_false]
          rw [sentEvents_cons]
          exact (ih (i + 1) (next + 1) (.sent i now :: events) timedRest restHere
            (paced.check here wasOpen waited)).check here wasOpen (ids next)

/-! ## Datagrams -/

/-- Every pair of the list fits the log. -/
def PairsTraffic (pairs : List PairEntry) (events : List (TrafficEvent Nat)) : Prop :=
  forall (k : Nat) pair, pairs[k]? = some pair -> PairTraffic k pair events

namespace PairsTraffic

variable {pairs : List PairEntry} {events : List (TrafficEvent Nat)}

/-- Closing the pair at `idx`; the log may reset it. -/
theorem close (traffic : PairsTraffic pairs events) (idx : Nat) {update : PairEntry -> PairEntry}
    (closed : forall pair, isOpen (update pair) = false)
    (same : forall pair, (update pair).lastSentTimeMs = pair.lastSentTimeMs) :
    PairsTraffic (pairs.modify idx update) events ∧
      PairsTraffic (pairs.modify idx update) (.reset [idx] :: events) := by
  have both : forall (k : Nat) later, (pairs.modify idx update)[k]? = some later ->
      PairTraffic k later events ∧ PairTraffic k later (.reset [idx] :: events) := by
    intro k later found
    by_cases here : idx = k
    · subst here
      rw [List.getElem?_modify_eq] at found
      rcases Option.map_eq_some_iff.mp found with ⟨pair, isPair, rfl⟩
      have before := traffic idx pair isPair
      refine ⟨before.close (closed pair) (same pair),
        before.reset List.mem_cons_self ?_ (same pair)⟩
      intro contrary
      rw [closed pair] at contrary
      cases contrary
    · rw [getElem?_modify_of_ne here] at found
      have before := traffic k later found
      exact ⟨before, before.cons (decide_eq_false (by simp [Ne.symm here]))⟩
  exact ⟨fun k later found => (both k later found).1, fun k later found => (both k later found).2⟩

/-- The pair put forward starts again. -/
theorem putForward (traffic : PairsTraffic pairs events) (best : Nat) :
    PairsTraffic (pairs.modify best PairEntry.putForward) (.reset [best] :: events) := by
  intro k later found
  by_cases here : best = k
  · subst here
    rw [List.getElem?_modify_eq] at found
    rcases Option.map_eq_some_iff.mp found with ⟨pair, isPair, rfl⟩
    exact (traffic best pair isPair).reset List.mem_cons_self (fun _ => rfl) rfl
  · rw [getElem?_modify_of_ne here] at found
    exact (traffic k later found).cons (decide_eq_false (by simp [Ne.symm here]))

end PairsTraffic

theorem mem_unansweredPairs {agent : IceAgent} {k : Nat} :
    k ∈ agent.unansweredPairs <->
      exists pair, agent.checkList[k]? = some pair ∧ pair.state = .inProgress := by
  unfold unansweredPairs
  rw [List.mem_filter, List.mem_range, Option.any_eq_true]
  simp only [decide_eq_true_eq]
  constructor
  · intro inside
    exact inside.2
  · rintro ⟨pair, found, state⟩
    exact ⟨(List.getElem?_eq_some_iff.mp found).1, pair, found, state⟩

/-- A role conflict starts the pairs in progress again. -/
theorem PairsTraffic.restart {agent : IceAgent} {events : List (TrafficEvent Nat)}
    (traffic : PairsTraffic agent.checkList events) :
    PairsTraffic (agent.checkList.map PairEntry.restartUnanswered)
      (.reset agent.unansweredPairs :: events) := by
  intro k later found
  rw [List.getElem?_map] at found
  rcases Option.map_eq_some_iff.mp found with ⟨pair, isPair, rfl⟩
  have before := traffic k pair isPair
  unfold PairEntry.restartUnanswered
  by_cases unanswered : pair.state = .inProgress
  · rw [if_pos unanswered]
    exact before.reset (mem_unansweredPairs.mpr ⟨pair, isPair, unanswered⟩) (fun _ => rfl) rfl
  · rw [if_neg unanswered]
    refine before.cons (decide_eq_false ?_)
    intro isMember
    rcases mem_unansweredPairs.mp isMember with ⟨other, isOther, state⟩
    rw [Option.some.inj (isPair.symm.trans isOther)] at unanswered
    exact unanswered state

/-- The requests that a nomination can add. -/
def nominationCredit (nominated : Option Nat) : Nat :=
  if nominated.isSome then MAX_RETRANSMITS else 0

/-- The traffic of a started agent. -/
structure TrafficSound (agent : IceAgent) (traffic : Traffic) : Prop where
  paced : PacedChecks traffic.events
  pairs : PairsTraffic agent.checkList traffic.events
  spent : requestCount traffic.events + (agent.checkList.map budget).sum ≤
    MAX_RETRANSMITS * agent.checkList.length * (1 + traffic.conflicts) +
      nominationCredit agent.nominatedPairIdx

/-- Closing a pair uses up its budget. -/
theorem budget_close {update : PairEntry -> PairEntry}
    (closed : forall pair, isOpen (update pair) = false) (pairs : List PairEntry) (i : Nat) :
    ((pairs.modify i update).map budget).sum ≤ (pairs.map budget).sum := by
  refine @budget_modify update 0 ?_ pairs i
  intro pair
  unfold budget
  rw [closed pair]
  exact Nat.zero_le _

theorem isOpen_succeed (pair : PairEntry) : isOpen pair.succeed = false := rfl

theorem isOpen_succeedNominated (pair : PairEntry) : isOpen pair.succeedNominated = false := rfl

theorem nominationCredit_le (nominated : Option Nat) : nominationCredit nominated ≤ MAX_RETRANSMITS := by
  unfold nominationCredit
  split_ifs
  · exact Nat.le_refl _
  · exact Nat.zero_le _

theorem trafficAfter_same {before after : IceAgent} {data : Bytes} {traffic : Traffic}
    (noConflict : before.reaction data ≠ .conflict)
    (same : after.nominatedPairIdx = before.nominatedPairIdx) :
    before.trafficAfter data after traffic = traffic := by
  unfold trafficAfter
  rw [same]
  cases reacts : before.reaction data with
  | conflict => exact absurd reacts noConflict
  | _ =>
      cases nominated : before.nominatedPairIdx with
      | none => rfl
      | some idx => exact if_pos rfl

theorem trafficAfter_new {before after : IceAgent} {data : Bytes} {traffic : Traffic} {idx : Nat}
    (noConflict : before.reaction data ≠ .conflict) (nominated : after.nominatedPairIdx = some idx)
    (new : before.nominatedPairIdx ≠ some idx) :
    before.trafficAfter data after traffic =
      { traffic with events := .reset [idx] :: traffic.events } := by
  unfold trafficAfter
  rw [nominated]
  cases reacts : before.reaction data with
  | conflict => exact absurd reacts noConflict
  | _ => exact if_neg new

namespace TrafficSound

variable {agent : IceAgent} {traffic : Traffic}

/-- A pair is marked; a nomination, if there is a new one, is of this pair. -/
theorem mark (sound : agent.TrafficSound traffic) (idx : Nat) {update : PairEntry -> PairEntry}
    (closed : forall pair, isOpen (update pair) = false)
    (same : forall pair, (update pair).lastSentTimeMs = pair.lastSentTimeMs) {data : Bytes}
    (noConflict : agent.reaction data ≠ .conflict) {after : IceAgent}
    (pairs : after.checkList = agent.checkList.modify idx update)
    (nominated : after.nominatedPairIdx = agent.nominatedPairIdx ∨
      after.nominatedPairIdx = some idx) :
    after.TrafficSound (agent.trafficAfter data after traffic) := by
  rcases sound.pairs.close idx closed same with ⟨kept, reset⟩
  have fewer := budget_close closed agent.checkList idx
  rw [← pairs] at kept reset fewer
  have length : after.checkList.length = agent.checkList.length := by
    rw [pairs, List.length_modify]
  have spent := sound.spent
  by_cases new : after.nominatedPairIdx = agent.nominatedPairIdx
  · rw [trafficAfter_same noConflict new]
    refine ⟨sound.paced, kept, ?_⟩
    rw [length, new]
    omega
  · have isIdx := nominated.resolve_left new
    rw [trafficAfter_new noConflict isIdx fun contrary => new (isIdx.trans contrary.symm)]
    refine ⟨sound.paced, reset, ?_⟩
    have few := nominationCredit_le agent.nominatedPairIdx
    have credit : nominationCredit (some idx) = MAX_RETRANSMITS := rfl
    have count : requestCount (.reset [idx] :: traffic.events) = requestCount traffic.events := rfl
    rw [length, isIdx, credit]
    dsimp only
    omega

/-- An answered pair is marked, and a first pair is put forward. -/
theorem nominate (sound : agent.TrafficSound traffic) (idx best : Nat) {data : Bytes}
    (noConflict : agent.reaction data ≠ .conflict) (noIndex : agent.nominatedPairIdx = none)
    {after : IceAgent}
    (pairs : after.checkList =
      (agent.checkList.modify idx PairEntry.succeed).modify best PairEntry.putForward)
    (nominated : after.nominatedPairIdx = some best) :
    after.TrafficSound (agent.trafficAfter data after traffic) := by
  have kept := ((sound.pairs.close idx isOpen_succeed fun _ => rfl).1).putForward best
  have marked := budget_close isOpen_succeed agent.checkList idx
  have restored := budget_modify (fun pair => (budget_le pair.putForward).trans
    (Nat.le_add_left _ (budget pair))) (agent.checkList.modify idx PairEntry.succeed) best
  rw [← pairs] at kept restored
  have length : after.checkList.length = agent.checkList.length := by
    rw [pairs, List.length_modify, List.length_modify]
  have spent := sound.spent
  have credit : nominationCredit (some best) = MAX_RETRANSMITS := rfl
  have count : requestCount (.reset [best] :: traffic.events) = requestCount traffic.events := rfl
  have none : nominationCredit Option.none = 0 := rfl
  rw [noIndex, none] at spent
  rw [trafficAfter_new noConflict nominated (by rw [noIndex]; exact (Option.some_ne_none best).symm)]
  refine ⟨sound.paced, kept, ?_⟩
  rw [length, nominated, credit]
  dsimp only
  omega

/-- A role conflict. -/
theorem conflict (sound : agent.TrafficSound traffic) {data : Bytes}
    (isConflict : agent.reaction data = .conflict) :
    agent.handleRoleConflict.TrafficSound
      (agent.trafficAfter data agent.handleRoleConflict traffic) := by
  have after : agent.trafficAfter data agent.handleRoleConflict traffic =
      ⟨.reset agent.unansweredPairs :: traffic.events, traffic.conflicts + 1⟩ := by
    unfold trafficAfter
    rw [isConflict]
  rw [after]
  refine ⟨sound.paced, sound.pairs.restart, ?_⟩
  have spent := sound.spent
  have restored := budget_sum_le (agent.checkList.map PairEntry.restartUnanswered)
  rw [List.length_map] at restored
  rw [handleRoleConflict_eq]
  dsimp only
  rw [List.length_map]
  have count : requestCount (.reset agent.unansweredPairs :: traffic.events) =
      requestCount traffic.events := rfl
  rw [count]
  have more : MAX_RETRANSMITS * agent.checkList.length * (1 + (traffic.conflicts + 1)) =
      MAX_RETRANSMITS * agent.checkList.length * (1 + traffic.conflicts) +
        MAX_RETRANSMITS * agent.checkList.length := by
    rw [← Nat.add_assoc, Nat.mul_succ]
  omega

/-- Nothing that the log looks at has changed. -/
theorem unchanged (sound : agent.TrafficSound traffic) {data : Bytes}
    (noConflict : agent.reaction data ≠ .conflict) {after : IceAgent}
    (pairs : after.checkList = agent.checkList)
    (nominated : after.nominatedPairIdx = agent.nominatedPairIdx) :
    after.TrafficSound (agent.trafficAfter data after traffic) := by
  rw [trafficAfter_same noConflict nominated]
  refine ⟨sound.paced, ?_, ?_⟩
  · rw [pairs]
    exact sound.pairs
  · rw [pairs, nominated]
    exact sound.spent

theorem accept (sound : agent.TrafficSound traffic) {data : Bytes}
    (noConflict : agent.reaction data ≠ .conflict) (parsed : ParsedStunMessage) (source : Address) :
    (agent.acceptRequest parsed source).TrafficSound
      (agent.trafficAfter data (agent.acceptRequest parsed source) traffic) := by
  have resolved : (agent.resolveRoleConflict parsed.controlling).checkList = agent.checkList ∧
      (agent.resolveRoleConflict parsed.controlling).nominatedPairIdx =
        agent.nominatedPairIdx := by
    rw [resolveRoleConflict_eq]
    exact ⟨rfl, rfl⟩
  unfold acceptRequest
  rw [noteContact_eq]
  rcases markPair_cases (agent.resolveRoleConflict parsed.controlling) parsed.useCandidate source
    with ⟨_, same⟩ | ⟨idx, _, ⟨_, _, same⟩ | ⟨_, same⟩⟩
  · rw [same]
    exact sound.unchanged noConflict resolved.1 resolved.2
  · rw [same]
    refine sound.mark idx isOpen_succeedNominated (fun _ => rfl) noConflict ?_ (Or.inr rfl)
    dsimp only
    rw [resolved.1]
  · rw [same]
    refine sound.mark idx isOpen_succeed (fun _ => rfl) noConflict ?_ (Or.inl resolved.2)
    dsimp only
    rw [resolved.1]

theorem acknowledge (sound : agent.TrafficSound traffic) {data : Bytes}
    (noConflict : agent.reaction data ≠ .conflict) {idx : Nat} {pair : PairEntry}
    (found : agent.checkList[idx]? = some pair) :
    (agent.acknowledgePair idx).TrafficSound
      (agent.trafficAfter data (agent.acknowledgePair idx) traffic) := by
  rcases acknowledgePair_cases agent found with
    ⟨_, same⟩ | ⟨_, _, _, same⟩ | ⟨_, _, noIndex, best, chosen, _, _, same⟩
  · rw [same]
    exact sound.mark idx isOpen_succeed (fun _ => rfl) noConflict rfl (Or.inl rfl)
  · rw [same]
    exact sound.mark idx isOpen_succeed (fun _ => rfl) noConflict rfl (Or.inl rfl)
  · rw [same]
    exact sound.nominate idx best noConflict noIndex rfl rfl

/-- Every datagram. -/
theorem react (sound : agent.TrafficSound traffic) (data : Bytes) (source : Address) :
    (agent.react source (agent.reaction data)).TrafficSound
      (agent.trafficAfter data (agent.react source (agent.reaction data)) traffic) := by
  cases reacts : agent.reaction data with
  | ignored => exact sound.unchanged (by rw [reacts]; exact Reaction.noConfusion) rfl rfl
  | unanswered parsed =>
      rw [IceAgent.react, resolveRoleConflict_eq]
      exact sound.unchanged (by rw [reacts]; exact Reaction.noConfusion) rfl rfl
  | accepted parsed =>
      exact sound.accept (by rw [reacts]; exact Reaction.noConfusion) parsed source
  | conflict => exact sound.conflict reacts
  | acknowledged idx =>
      rcases reaction_acknowledged reacts with ⟨parsed, _, _, isIdx⟩
      rcases pairOfTransaction_some isIdx with ⟨pair, found, _⟩
      exact sound.acknowledge (by rw [reacts]; exact Reaction.noConfusion) found

/-- A round. -/
theorem tick (sound : agent.TrafficSound traffic) (crypto : Crypto) (ids : Nat -> TransactionId)
    (next now : Nat)
    (timed : forall pair, pair ∈ agent.checkList ->
      pair.retransmitTimerMs = retransmissionTimeout pair.retransmitCount) :
    (agent.tickChecks crypto ids next now).1.TrafficSound
      { traffic with
        events := sentEvents (agent.tickChecks crypto ids next now).2.1 ++ traffic.events } := by
  rcases tickChecks_cases crypto ids next agent now with ⟨_, same⟩ | ⟨_, state, _, same⟩
  · rw [same]
    exact ⟨sound.paced, sound.pairs, sound.spent⟩
  · have fits : forall (j : Nat) pair, agent.checkList[j]? = some pair ->
        PairTraffic (0 + j) pair traffic.events := by
      intro j pair found
      rw [Nat.zero_add]
      exact sound.pairs j pair found
    rcases round_traffic crypto ids agent now 0 agent.checkList next traffic.events timed fits
      sound.paced with ⟨paced, pairs, _, spent⟩
    have length := (tickPairs_pairs crypto ids agent now 0 agent.checkList next).2.1
    have before := sound.spent
    rw [same]
    refine ⟨paced, ?_, ?_⟩
    · intro k pair found
      have there := pairs k pair found
      rwa [Nat.zero_add] at there
    · dsimp only
      rw [length]
      unfold requestCount at spent before ⊢
      rw [List.countP_append]
      omega

/-- A successful start. -/
theorem start {agent : IceAgent} (started : agent.startChecks.2 = .ok ()) :
    agent.startChecks.1.TrafficSound ⟨[], 0⟩ := by
  rw [(startChecks_ok started).2.2.2]
  refine ⟨trivial, ?_, ?_⟩
  · intro k pair found
    rcases mem_allPairs ((List.mem_insertionSort beforeInList).mp (List.mem_of_getElem? found)) with
      ⟨localCand, remoteCand, _, _, rfl⟩
    refine ⟨?_, fun _ => ⟨rfl, show 0 < MAX_RETRANSMITS by decide⟩⟩
    intro time never
    cases never
  · have most := budget_sum_le (agent.allPairs.insertionSort beforeInList)
    dsimp only
    rw [Nat.add_zero, Nat.mul_one]
    unfold requestCount
    rw [List.countP_nil]
    omega

end TrafficSound

end IceAgent

namespace AgentRun

variable {crypto : Crypto} {ids : Nat -> TransactionId} {isControlling : Bool} {seed : AgentSeed}

theorem trafficSound_of_reachable {run : AgentRun × Option Traffic}
    (reachable : ((agentSystem crypto ids isControlling seed).remember
      trafficRecorder.recorder).Reachable run) {traffic : Traffic} (started : run.2 = some traffic) :
    run.1.agent.TrafficSound traffic := by
  refine remembered_invariant (fun run memory => forall traffic, memory = some traffic ->
      run.agent.TrafficSound traffic)
    (reachable.restrict_all fun (_ : AgentRun) (_ : AgentOp) => trivial) ?_ ?_ ?_ ?_ ?_ ?_
    traffic started
  · intro traffic never
    cases never
  · intro before memory agent held configures traffic isTraffic
    have sound := held traffic isTraffic
    refine ⟨sound.paced, ?_, ?_⟩
    · dsimp only
      rw [configures.checkList]
      exact sound.pairs
    · dsimp only
      rw [configures.checkList, configures.nominatedPairIdx]
      exact sound.spent
  · intro before memory announced _ traffic isTraffic
    unfold trafficRecorder at isTraffic
    dsimp only at isTraffic
    split_ifs at isTraffic with isOk
    cases isTraffic
    exact IceAgent.TrafficSound.start (IceAgent.startChecks_isOk_iff.mp isOk)
  · intro before memory now announced earlier held traffic isTraffic
    rcases Option.map_eq_some_iff.mp isTraffic with ⟨known, isKnown, rfl⟩
    refine (held known isKnown).tick crypto ids before.next now ?_
    intro pair isMember
    exact ((IceAgent.timed_invariant crypto).of_reachable earlier pair isMember).timeout
  · intro before memory data source agent result announced _ held _ handled traffic isTraffic
    rcases Option.map_eq_some_iff.mp isTraffic with ⟨known, isKnown, rfl⟩
    dsimp only
    rw [IceAgent.handleIncomingData_reacts handled]
    exact (held known isKnown).react data source
  · intro before memory announced _ traffic never
    cases never

/-- The traffic of a started agent: consecutive requests on a pair are at least
the initial timeout apart; those after the same reset the timeout of their
number; no more than seven are sent between resets; and in total no more than
seven for each pair and each role conflict, with seven more for a nomination. -/
theorem traffic_paced {run : AgentRun × Option Traffic}
    (reachable : ((agentSystem crypto ids isControlling seed).remember
      trafficRecorder.recorder).Reachable run) {traffic : Traffic} (started : run.2 = some traffic) :
    (forall pair, (sentTimes pair traffic.events).IsChain
      fun later earlier => earlier + INITIAL_RTO_MS ≤ later) ∧
    (forall (pair first second : Nat) (newer between older : List (TrafficEvent Nat)),
      traffic.events = newer ++ .sent pair second :: (between ++ .sent pair first :: older) ->
      (forall event, event ∈ between -> event.concerns pair = false) ->
        first + min (INITIAL_RTO_MS * 2 ^ sinceReset pair (.sent pair first :: older)) MAX_RTO_MS ≤
          second) ∧
    (forall (pair : Nat) (newer older : List (TrafficEvent Nat)), traffic.events = newer ++ older ->
      sinceReset pair older ≤ MAX_RETRANSMITS) ∧
    traffic.events.countP TrafficEvent.isSent ≤
      7 * run.1.agent.checkList.length * (1 + traffic.conflicts) + 7 := by
  have sound := trafficSound_of_reachable reachable started
  refine ⟨?_, ?_, ?_, ?_⟩
  · intro pair
    exact sound.paced.spaced IceAgent.le_retransmissionTimeout pair
  · intro pair first second newer between older isLog apart
    have paced := sound.paced
    rw [IceAgent.PacedChecks, isLog] at paced
    exact paced.between apart
  · intro pair newer older isLog
    have paced := sound.paced
    rw [IceAgent.PacedChecks, isLog] at paced
    exact paced.older.sinceReset_le
  · have spent := sound.spent
    have few := IceAgent.nominationCredit_le run.1.agent.nominatedPairIdx
    unfold IceAgent.requestCount MAX_RETRANSMITS at spent
    unfold MAX_RETRANSMITS at few
    omega

/-- Two requests, a nomination, and the first request after it. -/
theorem traffic_paced_nomination :
    exists (run : AgentRun × Option Traffic) (traffic : Traffic), run.2 = some traffic ∧
      sentTimes 0 traffic.events = [2000, 1500, 500] ∧
      ((sentTimes 0 traffic.events).IsChain
        fun later earlier => earlier + INITIAL_RTO_MS ≤ later) ∧
      traffic.events.countP TrafficEvent.isSent ≤
        7 * run.1.agent.checkList.length * (1 + traffic.conflicts) + 7 := by
  have ends : (remembers trafficRecorder zeroCrypto countingIds (fun _ _ => true)
      (new true (uniformSeed 0 0), trafficRecorder.start)
      (setupCalls ++ [.tick 500, .tick 1500, .handleIncomingData (responseTo 1) peerAddress,
        .tick 2000])).any
      (fun run => run.2.any fun traffic => sentTimes 0 traffic.events = [2000, 1500, 500]) =
        true := by
    decide +kernel
  rcases exists_remembered (fun _ _ => True) (fun _ _ _ => trivial) ends with
    ⟨run, reachable, test⟩
  rcases (Option.any_eq_true _ _).mp test with ⟨traffic, isTraffic, times⟩
  have paced := traffic_paced reachable.of_restrict_remember isTraffic
  exact ⟨run, traffic, isTraffic, of_decide_eq_true times, paced.1 0, paced.2.2.2⟩

end AgentRun

end P2pSdk
