import P2pSdk.Core.Types

namespace P2pSdk

open Foundation

/-!
# ICE candidate lines (`ice/candidate.rs`)

The SDP form of a candidate, its formatter and its parser.  The parser is
total: every index it forms is below the number of tokens it counted.
-/

/-! ## Text utilities of the standard library -/

/-- The Unicode `White_Space` property, which `split_whitespace` splits at. -/
def isWhitespace (char : Char) : Bool :=
  let code := char.toNat
  (9 ≤ code && code ≤ 13) || code == 0x20 || code == 0x85 || code == 0xA0 || code == 0x1680 ||
    (0x2000 ≤ code && code ≤ 0x200A) || code == 0x2028 || code == 0x2029 || code == 0x202F ||
    code == 0x205F || code == 0x3000

/-- `text.split_whitespace().collect()`: the non-empty pieces between whitespace. -/
def splitWhitespace (text : String) : List String :=
  ((text.toList.splitOnP isWhitespace).filter (fun piece => piece ≠ [])).map String.ofList

/-- `text.strip_prefix(head)`. -/
def stripPrefix (head text : String) : Option String :=
  if head.toList.isPrefixOf text.toList then
    some (String.ofList (text.toList.drop head.toList.length))
  else none

/-- `text.parse()` into an unsigned integer type with `bound` values: an
optional plus sign, then at least one decimal digit, within range. -/
def parseUnsigned (bound : Nat) (text : String) : Option Nat :=
  let digits :=
    match text.toList with
    | '+' :: rest => rest
    | chars => chars
  if digits = [] then none
  else
    match digits.foldlM (fun value char =>
        if char.isDigit then some (value * 10 + (char.toNat - 48)) else none) 0 with
    | some value => if value < bound then some value else none
    | none => none

/-! ## Candidate lines -/

/-- One token of the extension scan: `raddr` and `rport` take the next token. -/
def scanRelated (parts : List String) (related : String × UInt16) (i : Nat) : String × UInt16 :=
  let related :=
    if parts.getD i "" = "raddr" then ((parts[i + 1]?).getD "", related.2) else related
  if parts.getD i "" = "rport" then
    (related.1, UInt16.ofNat (((parts[i + 1]?).bind (parseUnsigned 65536)).getD 0))
  else related

/-- Parse a line such as `candidate:1 1 UDP 2130706431 192.168.1.1 12345 host`. -/
def parseCandidateLine (line : String) : Option IceCandidate := do
  let stripped ← stripPrefix "candidate:" line
  let parts := splitWhitespace stripped
  if parts.length < 7 then none
  else
    -- The seventh token may be the keyword of RFC 5245 or the type itself.
    let typeIdx := if 7 < parts.length ∧ parts.getD 6 "" = "typ" then 7 else 6
    let related := (List.range' (typeIdx + 1) (parts.length - 1 - (typeIdx + 1))).foldl
      (scanRelated parts) ("", 0)
    let componentId ← parseUnsigned 256 (parts.getD 1 "")
    let priority ← parseUnsigned 4294967296 (parts.getD 3 "")
    let port ← parseUnsigned 65536 (parts.getD 5 "")
    let candidateType ← CandidateType.fromStr (parts.getD typeIdx "")
    pure
      { foundation := parts.getD 0 ""
        componentId := UInt8.ofNat componentId
        transport := parts.getD 2 ""
        priority := UInt32.ofNat priority
        connectionAddress := parts.getD 4 ""
        port := UInt16.ofNat port
        candidateType := candidateType
        relatedAddress := related.1
        relatedPort := related.2 }

/-- Format a candidate as an SDP candidate line. -/
def formatCandidateLine (cand : IceCandidate) : String :=
  let line := "candidate:" ++ cand.foundation ++ " " ++ toString cand.componentId.toNat ++ " " ++
    cand.transport ++ " " ++ toString cand.priority.toNat ++ " " ++ cand.connectionAddress ++ " " ++
    toString cand.port.toNat ++ " typ " ++ cand.candidateType.asStr
  if cand.relatedAddress ≠ "" then
    line ++ " raddr " ++ cand.relatedAddress ++ " rport " ++ toString cand.relatedPort.toNat
  else line

example :
    (parseCandidateLine "candidate:2 1 UDP 1694498815 203.0.113.1 54321 srflx raddr 10.0.0.1 rport 9").map
      (fun cand => (cand.connectionAddress, cand.candidateType, cand.relatedAddress,
        cand.relatedPort)) = some ("203.0.113.1", .srflx, "10.0.0.1", 9) := by
  decide +kernel

end P2pSdk
