import P2pSdk.Ice.Candidate
import P2pSdk.Foundation.Text

namespace P2pSdk

open Foundation

/-!
# SDP offers and answers (`sdp.rs`)

An offer is a list of lines that each end with CR LF.  The reader of an answer
looks at every line on its own, and keeps what the four known attributes carry.
-/

/-- `text.trim()`. -/
def trim (text : String) : String := String.ofList (trimBy isWhitespace text.toList)

/-- `text.split("\r\n")`. -/
def splitCrLf (text : String) : List String :=
  (splitAtPair '\r' '\n' text.toList).map String.ofList

structure SdpAnswerInfo where
  ufrag : String
  pwd : String
  isLite : Bool
  candidates : List String
  deriving DecidableEq, Repr

/-- The lines of an offer.  `timestamp` is the time in seconds that the
generator reads from the system clock. -/
def offerLines (odid localUfrag localPwd : String) (candidates : List String) (defaultIp : String)
    (defaultPort : UInt16) (timestamp : UInt64) : List String :=
  ["v=0",
    "o=" ++ odid ++ " " ++ toString timestamp.toNat ++ " 1 IN IP4 " ++ defaultIp,
    "s=-",
    "t=0 0",
    "m=data " ++ toString defaultPort.toNat ++ " UDP/RTP/AVP 0",
    "c=IN IP4 " ++ defaultIp,
    "a=ice-ufrag:" ++ localUfrag,
    "a=ice-pwd:" ++ localPwd] ++
  candidates.map fun cand => "a=" ++ cand

/-- Generate a standard SDP offer text. -/
def generateSdpOffer (odid localUfrag localPwd : String) (candidates : List String)
    (defaultIp : String) (defaultPort : UInt16) (timestamp : UInt64) : String :=
  String.intercalate "\r\n"
    (offerLines odid localUfrag localPwd candidates defaultIp defaultPort timestamp) ++ "\r\n"

/-- One line of an answer. -/
def parseSdpLine (info : SdpAnswerInfo) (line : String) : SdpAnswerInfo :=
  let trimmed := trim line
  match stripPrefix "a=ice-ufrag:" trimmed with
  | some val => { info with ufrag := val }
  | none =>
      match stripPrefix "a=ice-pwd:" trimmed with
      | some val => { info with pwd := val }
      | none =>
          if trimmed = "a=ice-lite" then { info with isLite := true }
          else
            match stripPrefix "a=candidate:" trimmed with
            | some candidateLine =>
                { info with candidates := info.candidates ++ ["candidate:" ++ candidateLine] }
            | none => info

/-- Parse a standard SDP answer text. -/
def parseSdpAnswer (sdpText : String) : SdpAnswerInfo :=
  (splitCrLf sdpText).foldl parseSdpLine
    { ufrag := "", pwd := "", isLite := false, candidates := [] }

/-- The description that `connect_via_sdp` hands to the agent. -/
def SdpAnswerInfo.description (answer : SdpAnswerInfo) : IceSessionDescription where
  iceUfrag := answer.ufrag
  icePwd := answer.pwd
  isLite := answer.isLite
  candidates := answer.candidates

example :
    parseSdpAnswer "a=ice-ufrag:abc\r\na=ice-pwd:def\r\na=candidate:1 1 UDP 1234 10.0.0.1 54321 host\r\n" =
      ⟨"abc", "def", false, ["candidate:1 1 UDP 1234 10.0.0.1 54321 host"]⟩ := by
  decide +kernel

end P2pSdk
