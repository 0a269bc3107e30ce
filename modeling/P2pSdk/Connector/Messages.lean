import P2pSdk.Core.Types
import P2pSdk.Foundation.JsonText

namespace P2pSdk
namespace Connector

open Foundation

/-!
# Messages of the connector (`types.rs`)

The connector protocol exchanges JSON texts, whose data field holds what the
clients tell each other.  The JSON library is a parameter of the connector, as
far as it is called.  Here is also how it reads and prints these messages.
-/

def CONNECTOR_TYPE_REGISTER : String := "register"
def CONNECTOR_TYPE_REGISTER_OK : String := "register_ok"
def CONNECTOR_TYPE_MESSAGE : String := "message"

/-- A message of the connector protocol.  `Json` is what its data field holds. -/
structure ConnectorMessage (Json : Type) where
  msgType : String
  sender : String
  target : String
  data : Json
  auth : String
  reason : String
  timestamp : UInt64
  deriving DecidableEq, Repr

/-- The JSON library, as far as the connector calls it. -/
structure Serde (Json : Type) where
  toText : ConnectorMessage Json -> Option String
  fromText : String -> Option (ConnectorMessage Json)
  emptyString : Json

/-- What `serde_json` makes of the payload of a message. -/
structure IceSerde (Json : Type) where
  /-- The text under `action`; empty when there is none. -/
  action : Json -> String
  /-- The fields of an `IceDataMessage`, or the error.  Nothing reads its action. -/
  iceData : Json -> Except String IceSessionDescription
  /-- The candidate of an `IceCandidateMessage`, or the error. -/
  iceCandidate : Json -> Except String String

/-! ## Fields -/

/-- The value of a field, or the error of a field that is missing. -/
def field (members : List (String × Json)) (key : String) : Except String Json :=
  match members.lookup key with
  | some value => .ok value
  | none => .error ("missing field `" ++ key ++ "`")

def asText : Json -> Except String String
  | .string text => .ok text
  | _ => .error "invalid type, expected a string"

def asBool : Json -> Except String Bool
  | .bool value => .ok value
  | _ => .error "invalid type, expected a boolean"

def asTexts : Json -> Except String (List String)
  | .array items => items.mapM asText
  | _ => .error "invalid type, expected a sequence"

def asU64 : Json -> Except String UInt64
  | .number (.posInt value) => .ok value
  | _ => .error "invalid type, expected u64"

/-- A field with `#[serde(default)]`. -/
def fieldOr {α : Type} (read : Json -> Except String α) (default : α) (members : List (String × Json))
    (key : String) : Except String α :=
  match members.lookup key with
  | some value => read value
  | none => .ok default

def asObject : Json -> Except String (List (String × Json))
  | .object members => .ok members
  | _ => .error "invalid type, expected an object"

/-! ## Reading -/

/-- The message of an object. -/
def messageOf (json : Json) : Except String (ConnectorMessage Json) := do
  let members <- asObject json
  let msgType <- field members "type" >>= asText
  let sender <- fieldOr asText "" members "from"
  let target <- fieldOr asText "" members "to"
  let data <- fieldOr .ok .null members "data"
  let auth <- fieldOr asText "" members "auth"
  let reason <- fieldOr asText "" members "reason"
  let timestamp <- fieldOr asU64 0 members "timestamp"
  return ⟨msgType, sender, target, data, auth, reason, timestamp⟩

/-- `IceDataMessage`, without its action. -/
def iceDataOf (json : Json) : Except String IceSessionDescription := do
  let members <- asObject json
  let _ <- field members "action" >>= asText
  let iceUfrag <- field members "iceUfrag" >>= asText
  let icePwd <- field members "icePwd" >>= asText
  let isLite <- field members "isLite" >>= asBool
  let candidates <- field members "candidates" >>= asTexts
  return { iceUfrag := iceUfrag, icePwd := icePwd, isLite := isLite, candidates := candidates }

/-- `IceCandidateMessage`, without its action. -/
def iceCandidateOf (json : Json) : Except String String := do
  let members <- asObject json
  let _ <- field members "action" >>= asText
  field members "candidate" >>= asText

/-- Payloads that are objects, with the first error in the order of the fields. -/
def jsonPayloads : IceSerde Json where
  action
    | .object members => ((members.lookup "action").bind fun value => (asText value).toOption).getD ""
    | _ => ""
  iceData := iceDataOf
  iceCandidate := iceCandidateOf

/-! ## Printing -/

section Printing

variable (printFloat : FiniteDouble -> List Char)

def printNumber : JsonNumber -> List Char
  | .posInt value => Nat.toDigits 10 value.toNat
  | .negInt value _ => '-' :: Nat.toDigits 10 value.toInt.natAbs
  | .float value => printFloat value

mutual

/-- A value without whitespace. -/
def printJson : Json -> List Char
  | .null => "null".toList
  | .bool value => (if value then "true" else "false").toList
  | .number value => printNumber printFloat value
  | .string text => printString text
  | .array items => '[' :: [','].intercalate (printItems items) ++ [']']
  | .object members => '{' :: [','].intercalate (printMembers members) ++ ['}']

def printItems : List Json -> List (List Char)
  | [] => []
  | item :: items => printJson item :: printItems items

def printMembers : List (String × Json) -> List (List Char)
  | [] => []
  | (key, value) :: members => (printString key ++ ':' :: printJson value) :: printMembers members

end

/-- A message with its fields in their order. -/
def printMessage (msg : ConnectorMessage Json) : String :=
  String.ofList (printJson printFloat (.object
    [("type", .string msg.msgType), ("from", .string msg.sender), ("to", .string msg.target),
      ("data", msg.data), ("auth", .string msg.auth), ("reason", .string msg.reason),
      ("timestamp", .number (.posInt msg.timestamp))]))

end Printing

/-- Messages that are objects with each key once, as the connector exchanges them. -/
def jsonSerde (readFloat : List Char -> Option FiniteDouble) (printFloat : FiniteDouble -> List Char) :
    Serde Json where
  toText msg := some (printMessage printFloat msg)
  fromText text := (readJson readFloat text).bind fun json => (messageOf json).toOption
  emptyString := .string ""

/-- The library for texts without fractions. -/
def plainSerde : Serde Json := jsonSerde (fun _ => none) fun _ => []

def registerOkText : String := "\x7b\"type\":\"register_ok\",\"timestamp\":1700000000\x7d"

/-- A message with a data field that holds a text. -/
def messageText (text : String) : String :=
  "\x7b\"type\":\"message\",\"from\":\"peer\",\"to\":\"me\",\"data\":\"" ++ text ++ "\"\x7d"

example : plainSerde.fromText "\x7b\"type\":\"message\",\"from\":\"peer\",\"data\":\x7b\"action\":\"x\"\x7d\x7d" =
    some ⟨"message", "peer", "", .object [("action", .string "x")], "", "", 0⟩ := rfl

example : plainSerde.toText ⟨"register", "me", "", .string "", "", "", 0⟩ =
    some ("\x7b\"type\":\"register\",\"from\":\"me\",\"to\":\"\",\"data\":\"\",\"auth\":\"\"," ++
      "\"reason\":\"\",\"timestamp\":0\x7d") := by decide

end Connector
end P2pSdk
