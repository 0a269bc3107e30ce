import P2pSdk.Dtls.Record
import P2pSdk.Dtls.Messages
import P2pSdk.Foundation.Effects

namespace P2pSdk
namespace Dtls

open Foundation Parser Effect

/-!
# Handshake messages and their fragments (`dtls12/message/handshake.rs`)

A message is sent in fragments, each under a header that says which part of
which message it is.  `defragment` merges the fragments that were received,
in the order of the receive queue, and appends the whole message to the
transcript as if it had come in one piece.
-/

structure Header where
  msgType : MessageType
  length : Nat
  messageSeq : UInt16
  fragmentOffset : Nat
  fragmentLength : Nat
  deriving DecidableEq, Repr

structure Handshake where
  header : Header
  body : Body
  handled : Bool
  deriving DecidableEq, Repr

namespace Header

/-- Type, length, message number, offset and length of the fragment. -/
def headerLen : Nat := 12

def parse : Parser Header := do
  let msgType ← MessageType.coding.parse8
  let length ← beU24
  let messageSeq ← beU16
  let fragmentOffset ← beU24
  let fragmentLength ← beU24
  return { msgType, length, messageSeq, fragmentOffset, fragmentLength }

def serialize (self : Header) : Bytes :=
  MessageType.coding.bytes8 self.msgType ++ (beBytes 3 self.length ++ (beBytes 2 self.messageSeq.toNat ++
    (beBytes 3 self.fragmentOffset ++ beBytes 3 self.fragmentLength)))

/-- The header of the whole message. -/
def merged (self : Header) : Header := { self with fragmentOffset := 0, fragmentLength := self.length }

end Header

namespace Handshake

def parse (cipherSuite : Option Dtls12CipherSuite) (asFragment : Bool) : Parser Handshake := do
  let header ← Header.parse
  let isFragment := decide (0 < header.fragmentOffset) || decide (header.fragmentLength < header.length)
  require (asFragment || !isFragment) (.failure .lengthValue)
  if asFragment then
    let fragment ← take header.fragmentLength
    return { header, body := .fragment fragment, handled := false }
  else
    let bodyBytes ← take header.length
    let body ← part (Body.parse header.msgType cipherSuite) bodyBytes
    return { header, body, handled := false }

def serialize (self : Handshake) : Bytes := self.header.serialize ++ self.body.serialize

/-- The bytes of a fragment.  A whole body is not expected here. -/
def fragmentBytes (self : Handshake) : Except Fault Bytes :=
  match self.body with
  | .fragment bytes => .ok bytes
  | _ => .error .panic

/-- The fragments that are merged: the first one, and those behind it up to one of another type. -/
def mergedFragments : List Handshake -> List Handshake
  | [] => []
  | first :: rest => first :: rest.takeWhile fun other => other.header.msgType = first.header.msgType

def joinFragments : List Handshake -> Except Fault Bytes
  | [] => .ok []
  | handshake :: rest => do return (← handshake.fragmentBytes) ++ (← joinFragments rest)

/-- Merge fragments to a message.  The state is the transcript, to which the message is
appended before its body is parsed. -/
def defragment (cipherSuite : Option Dtls12CipherSuite) :
    List Handshake -> Effect Bytes Fault Handshake
  | [] => fail .panic
  | first :: rest => do
      let buffer ← ofExcept (joinFragments (mergedFragments (first :: rest)))
      if buffer.length ≠ first.header.length then fail (.error .parseIncomplete)
      else
        modify fun transcript => transcript ++ (first.header.merged.serialize ++ buffer)
        match Body.parse first.header.msgType cipherSuite buffer with
        | .error reason => fail (.ofStop reason)
        | .ok (body, behind) =>
            if !behind.isEmpty && first.header.msgType == .finished then fail (.error .parseIncomplete)
            else return { header := first.header.merged, body, handled := false }

/-- The messages whose duplicates, seen in the first fragment, make the whole
flight be sent again. -/
def dupeTriggersResend (self : Handshake) : Option UInt16 :=
  if self.header.fragmentOffset ≠ 0 then none
  else
    match self.header.msgType with
    | .clientHello | .helloVerifyRequest | .serverHelloDone | .clientKeyExchange => some self.header.messageSeq
    | _ => none

/-! ## Reading fragments back -/

/-- A fragment that is written as one. -/
structure IsFragment (handshake : Handshake) (bytes : Bytes) : Prop where
  msgType : MessageType.coding.Canonical handshake.header.msgType
  length : handshake.header.length < 256 ^ 3
  fragmentOffset : handshake.header.fragmentOffset < 256 ^ 3
  fragmentLength : handshake.header.fragmentLength < 256 ^ 3
  sized : bytes.length = handshake.header.fragmentLength
  body : handshake.body = .fragment bytes
  handled : handshake.handled = false

theorem header_reads {header : Header} (msgType : MessageType.coding.Canonical header.msgType)
    (length : header.length < 256 ^ 3) (fragmentOffset : header.fragmentOffset < 256 ^ 3)
    (fragmentLength : header.fragmentLength < 256 ^ 3) : Header.parse.Reads header.serialize header := by
  unfold Header.parse Header.serialize
  refine (Coding.reads8 msgType).bind ?_
  refine (reads_beU24 length).bind ?_
  refine (reads_beU16 header.messageSeq).bind ?_
  refine (reads_beU24 fragmentOffset).bind ?_
  exact (reads_beU24 fragmentLength).then (reads_pure header)

theorem header_of_parse {input rest : Bytes} {header : Header}
    (parsed : Header.parse input = .ok (header, rest)) :
    (MessageType.coding.Canonical header.msgType ∧ header.length < 256 ^ 3 ∧
      header.fragmentOffset < 256 ^ 3 ∧ header.fragmentLength < 256 ^ 3) ∧ input = header.serialize ++ rest := by
  rcases bind_eq_ok.mp parsed with ⟨msgType, input₁, readType, parsed⟩
  rcases bind_eq_ok.mp parsed with ⟨length, input₂, readLength, parsed⟩
  rcases bind_eq_ok.mp parsed with ⟨messageSeq, input₃, readSeq, parsed⟩
  rcases bind_eq_ok.mp parsed with ⟨offset, input₄, readOffset, parsed⟩
  rcases bind_eq_ok.mp parsed with ⟨fragmentLength, input₅, readFragment, parsed⟩
  rcases pure_eq_ok.mp parsed with ⟨rfl, rfl⟩
  rcases Coding.parse8_bytes readType with ⟨canonical, rfl⟩
  rcases beUint_eq_ok.mp readLength with ⟨rfl, lengthFits⟩
  cases beU16_eq_ok.mp readSeq
  rcases beUint_eq_ok.mp readOffset with ⟨rfl, offsetFits⟩
  rcases beUint_eq_ok.mp readFragment with ⟨rfl, fragmentFits⟩
  refine ⟨⟨canonical, lengthFits, offsetFits, fragmentFits⟩, ?_⟩
  unfold Header.serialize
  simp only [List.append_assoc]

theorem IsFragment.reads {handshake : Handshake} {bytes : Bytes} (fragment : handshake.IsFragment bytes)
    (cipherSuite : Option Dtls12CipherSuite) :
    (parse cipherSuite true).Reads handshake.serialize handshake := by
  have written : handshake.body.serialize = bytes := by rw [fragment.body]; rfl
  unfold parse serialize
  rw [written]
  refine (header_reads fragment.msgType fragment.length fragment.fragmentOffset fragment.fragmentLength).bind ?_
  refine (reads_require (Bool.true_or _) _).skip ?_
  rw [if_pos rfl]
  refine (reads_take_of fragment.sized).then ?_
  have same : ({ header := handshake.header, body := .fragment bytes, handled := false } : Handshake) =
      handshake := by
    rw [← fragment.body, ← fragment.handled]
  rw [same]
  exact reads_pure handshake

theorem isFragment_of_parse {cipherSuite : Option Dtls12CipherSuite} {input rest : Bytes} {handshake : Handshake}
    (parsed : parse cipherSuite true input = .ok (handshake, rest)) :
    (exists bytes, handshake.IsFragment bytes) ∧ input = handshake.serialize ++ rest := by
  rcases bind_eq_ok.mp parsed with ⟨header, input₁, readHeader, parsed⟩
  rcases bind_eq_ok.mp parsed with ⟨_, input₂, required, parsed⟩
  rw [if_pos rfl] at parsed
  rcases bind_eq_ok.mp parsed with ⟨fragment, input₃, taken, parsed⟩
  rcases pure_eq_ok.mp parsed with ⟨rfl, rfl⟩
  rcases require_eq_ok.mp required with ⟨_, rfl⟩
  rcases header_of_parse readHeader with ⟨⟨msgType, length, offset, fragmentLength⟩, rfl⟩
  rcases take_eq_ok.mp taken with ⟨rfl, sized⟩
  refine ⟨⟨fragment, msgType, length, offset, fragmentLength, sized, rfl, rfl⟩, ?_⟩
  unfold serialize Body.serialize
  rw [List.append_assoc]

/-- The parser of fragments reads exactly the fragments off the front of their bytes. -/
theorem parse_fragment_eq_ok {cipherSuite : Option Dtls12CipherSuite} {input rest : Bytes} {handshake : Handshake} :
    parse cipherSuite true input = .ok (handshake, rest) <->
      (exists bytes, handshake.IsFragment bytes) ∧ input = handshake.serialize ++ rest := by
  constructor
  · exact isFragment_of_parse
  · rintro ⟨⟨bytes, fragment⟩, rfl⟩
    exact fragment.reads cipherSuite rest

end Handshake

end Dtls
end P2pSdk
