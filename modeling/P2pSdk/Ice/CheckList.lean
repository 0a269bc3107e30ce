import P2pSdk.Core.Types

namespace P2pSdk

/-!
# Candidate and pair priorities (`ice/check_list.rs`)

Priorities are computed in machine words, and wrap where the code's do.
-/

/-- Transmissions per pair before failure. -/
def MAX_RETRANSMITS : Nat := 7

/-- Initial retransmission timeout (ms). -/
def INITIAL_RTO_MS : Nat := 500

/-- Maximum retransmission timeout (ms). -/
def MAX_RTO_MS : Nat := 16000

/-- Candidate priority per RFC 8445 section 5.1.2, at local preference 0 and
component 1. -/
def calcCandidatePriority (kind : CandidateType) : UInt32 :=
  let typePref : UInt32 :=
    match kind with
    | .host => 126
    | .srflx => 110
    | .relay => 0
  (typePref <<< 24) ||| (((0 : UInt32) &&& 0xFFFF) <<< 8) ||| (256 - 1)

/-- Pair priority per RFC 8445 section 6.1.2.4, from the priorities of the
local and the remote candidate. -/
def calcPairPriority (localPriority remotePriority : UInt32) (role : IceRole) : UInt64 :=
  let g := if role = .controlling then localPriority.toUInt64 else remotePriority.toUInt64
  let d := if role = .controlling then remotePriority.toUInt64 else localPriority.toUInt64
  let minGd := if g < d then g else d
  let maxGd := if g < d then d else g
  ((1 : UInt64) <<< 32) * minGd + 2 * maxGd + (if d < g then 1 else 0)

end P2pSdk
