import Mathlib.Data.List.Chain

namespace P2pSdk
namespace Foundation

universe u

/-!
# Retransmission with backoff

A log of what was sent under which key and when, and of the resets that start
the count of a key again.  Logs are read from the newest entry to the oldest.
A log is paced when every entry that sends keeps the timeout that belongs to
the number of entries for its key since the last reset, and stays within the
limit.  A sender that keeps a counter and the time of its last transmission has
to show only this, entry by entry; the distances and the numbers of a whole log
follow here.
-/

/-- An entry of a log. -/
inductive TrafficEvent (Key : Type u) where
  | sent (key : Key) (time : Nat)
  | reset (keys : List Key)

namespace TrafficEvent

variable {Key : Type u} [DecidableEq Key]

/-- The entry sends under the key or resets it. -/
def concerns (key : Key) : TrafficEvent Key -> Bool
  | .sent other _ => other = key
  | .reset keys => key ∈ keys

/-- The entry sends. -/
def isSent : TrafficEvent Key -> Bool
  | .sent _ _ => true
  | .reset _ => false

/-- The number of transmissions since the last reset. -/
def sinceReset (key : Key) : List (TrafficEvent Key) -> Nat
  | [] => 0
  | .sent other _ :: earlier =>
      if other = key then sinceReset key earlier + 1 else sinceReset key earlier
  | .reset keys :: earlier => if key ∈ keys then 0 else sinceReset key earlier

/-- The times of all transmissions, the last one first. -/
def sentTimes (key : Key) : List (TrafficEvent Key) -> List Nat
  | [] => []
  | .sent other time :: earlier =>
      if other = key then time :: sentTimes key earlier else sentTimes key earlier
  | .reset _ :: earlier => sentTimes key earlier

/-- The time of the last transmission. -/
def lastSent (key : Key) (events : List (TrafficEvent Key)) : Option Nat :=
  (sentTimes key events).head?

variable {key other : Key} {time : Nat} {keys : List Key} {events : List (TrafficEvent Key)}

@[simp] theorem sinceReset_sent :
    sinceReset key (.sent key time :: events) = sinceReset key events + 1 :=
  if_pos rfl

@[simp] theorem lastSent_sent : lastSent key (.sent key time :: events) = some time := by
  unfold lastSent
  rw [sentTimes, if_pos rfl]
  rfl

theorem sinceReset_reset (isReset : key ∈ keys) : sinceReset key (.reset keys :: events) = 0 :=
  if_pos isReset

/-- An entry that does not concern the key leaves its count as it is. -/
theorem sinceReset_cons {event : TrafficEvent Key} (apart : event.concerns key = false) :
    sinceReset key (event :: events) = sinceReset key events := by
  cases event with
  | sent other time => exact if_neg (of_decide_eq_false apart)
  | reset keys => exact if_neg (of_decide_eq_false apart)

theorem sentTimes_cons {event : TrafficEvent Key} (apart : event.concerns key = false) :
    sentTimes key (event :: events) = sentTimes key events := by
  cases event with
  | sent other time => exact if_neg (of_decide_eq_false apart)
  | reset keys => rfl

theorem lastSent_cons {event : TrafficEvent Key} (apart : event.concerns key = false) :
    lastSent key (event :: events) = lastSent key events := by
  unfold lastSent
  rw [sentTimes_cons apart]

theorem sinceReset_append {newer : List (TrafficEvent Key)}
    (apart : forall event, event ∈ newer -> event.concerns key = false) :
    sinceReset key (newer ++ events) = sinceReset key events := by
  induction newer with
  | nil => rfl
  | cons event rest ih =>
      rw [List.cons_append, sinceReset_cons (apart event List.mem_cons_self)]
      exact ih fun later isLater => apart later (List.mem_cons_of_mem event isLater)

theorem lastSent_append {newer : List (TrafficEvent Key)}
    (apart : forall event, event ∈ newer -> event.concerns key = false) :
    lastSent key (newer ++ events) = lastSent key events := by
  induction newer with
  | nil => rfl
  | cons event rest ih =>
      rw [List.cons_append, lastSent_cons (apart event List.mem_cons_self)]
      exact ih fun later isLater => apart later (List.mem_cons_of_mem event isLater)

/-! ## Paced logs -/

/-- Every transmission stays within the limit, and keeps the timeout of the
count of its key after the one before it. -/
def Paced (timeout : Nat -> Nat) (limit : Nat) : List (TrafficEvent Key) -> Prop
  | [] => True
  | .sent key time :: earlier =>
      sinceReset key earlier < limit ∧
        (forall last, lastSent key earlier = some last ->
          last + timeout (sinceReset key earlier) ≤ time) ∧
        Paced timeout limit earlier
  | .reset _ :: earlier => Paced timeout limit earlier

variable {timeout : Nat -> Nat} {limit : Nat}

theorem Paced.tail {event : TrafficEvent Key} (paced : Paced timeout limit (event :: events)) :
    Paced timeout limit events := by
  cases event with
  | sent key time => exact paced.2.2
  | reset keys => exact paced

/-- The log up to any earlier moment is paced. -/
theorem Paced.older {newer : List (TrafficEvent Key)}
    (paced : Paced timeout limit (newer ++ events)) : Paced timeout limit events := by
  induction newer with
  | nil => exact paced
  | cons event rest ih => exact ih paced.tail

/-- No more transmissions between resets than the limit. -/
theorem Paced.sinceReset_le (paced : Paced timeout limit events) :
    sinceReset key events ≤ limit := by
  induction events with
  | nil => exact Nat.zero_le limit
  | cons event earlier ih =>
      have before := ih paced.tail
      cases event with
      | sent other time =>
          unfold sinceReset
          split_ifs with same
          · subst same
            exact paced.1
          · exact before
      | reset keys =>
          unfold sinceReset
          split_ifs
          · exact Nat.zero_le limit
          · exact before

/-- Consecutive transmissions are at least the smallest timeout apart. -/
theorem Paced.spaced {smallest : Nat} (least : forall count, smallest ≤ timeout count)
    (paced : Paced timeout limit events) (key : Key) :
    (sentTimes key events).IsChain fun later earlier => earlier + smallest ≤ later := by
  induction events with
  | nil => exact List.isChain_nil
  | cons event earlier ih =>
      have before := ih paced.tail
      cases event with
      | sent other time =>
          unfold sentTimes
          split_ifs with same
          · subst same
            refine List.isChain_cons.mpr ⟨?_, before⟩
            intro last isLast
            have kept := paced.2.1 last isLast
            have small := least (sinceReset other earlier)
            omega
          · exact before
      | reset keys => exact before

/-- Two transmissions with nothing that concerns the key between them are the
timeout apart that belongs to the count after the first. -/
theorem Paced.between {newer between older : List (TrafficEvent Key)} {first second : Nat}
    (paced : Paced timeout limit (newer ++ .sent key second :: (between ++ .sent key first :: older)))
    (apart : forall event, event ∈ between -> event.concerns key = false) :
    first + timeout (sinceReset key (.sent key first :: older)) ≤ second := by
  have kept := paced.older.2.1 first
  rw [lastSent_append apart, sinceReset_append apart] at kept
  exact kept lastSent_sent

end TrafficEvent
end Foundation
end P2pSdk
