import P2pSdk.Dtls.ClientSteps
import P2pSdk.Dtls.Keys

namespace P2pSdk
namespace Dtls

open Foundation Effect

/-!
# The records of a client

Over any run, what a client gives to the network is made of whole records in
datagrams within the limit.  No sequence number is used for two records, also
when flights are sent again, and all records of epoch 1 are encrypted with one
cipher.  So a suite that makes its nonces from the sequence numbers never uses
a nonce twice.
-/

namespace Engine

/-- The keys belong to the suite that was selected. -/
structure Suited (config : Config) (keying : Keying) : Prop where
  configured : keying.config = config
  provider : keying.cryptoContext.provider = config.cryptoProvider
  isClient : keying.isClient = true
  suite : forall suite, keying.cipherSuite = some suite -> exists supported,
    config.cryptoProvider.cipherSuite suite = some supported ∧ keying.tagLen = supported.tagLen
  cipher : forall cipher, keying.cryptoContext.clientCipher = some cipher -> exists suite supported key,
    keying.cipherSuite = some suite ∧ config.cryptoProvider.cipherSuite suite = some supported ∧
      supported.createCipher key = .ok cipher

theorem Suited.lengthens {config : Config} {keying : Keying} (suited : Suited config keying)
    (exact : config.cryptoProvider.TagsExact) : keying.LengthensByTag := by
  intro plaintext aad nonce ciphertext encrypted
  unfold CryptoContext.encrypt at encrypted
  rw [if_pos suited.isClient] at encrypted
  cases isCipher : keying.cryptoContext.clientCipher with
  | none =>
      rw [isCipher] at encrypted
      cases encrypted
  | some cipher =>
      rw [isCipher] at encrypted
      rcases suited.cipher cipher isCipher with ⟨suite, supported, key, selected, isSupported, created⟩
      rcases suited.suite suite selected with ⟨other, isOther, isTag⟩
      rw [isSupported] at isOther
      cases isOther
      rw [isTag]
      exact exact supported (List.mem_of_find?_eq_some isSupported) key cipher created plaintext aad nonce
        ciphertext encrypted

/-- No records were encrypted yet. -/
structure Unkeyed (config : Config) (keying : Keying) : Prop where
  suited : Suited config keying
  noCipher : keying.cryptoContext.clientCipher = none

/-- A new cipher may be set: there is none, or the secret for one was used up. -/
structure Keyable (config : Config) (keying : Keying) : Prop where
  suited : Suited config keying
  once : keying.cryptoContext.clientCipher = none ∨ keying.cryptoContext.preMasterSecret = none

theorem Unkeyed.keyable {config : Config} {keying : Keying} (unkeyed : Unkeyed config keying) :
    Keyable config keying := ⟨unkeyed.suited, .inl unkeyed.noCipher⟩

/-- What was sent is in order, and the keys have a property. -/
structure Channel (holds : Keying -> Prop) (wire : List Bytes) (engine : Engine) : Prop where
  sent : Sent wire engine.keying engine.outbox
  keying : holds engine.keying

section Channel

variable {config : Config} {holds : Keying -> Prop} {wire : List Bytes} {Value : Type}

theorem Channel.mono {weaker : Keying -> Prop} {engine : Engine} (channel : Channel holds wire engine)
    (implies : forall keying, holds keying -> weaker keying) : Channel weaker wire engine :=
  ⟨channel.sent, implies _ channel.keying⟩

theorem channel_createRecord (contentType : ContentType) (epoch : UInt16) (save : Bool) (fragment : Bytes) :
    Keeps (Channel holds wire) (createRecord contentType epoch save fragment) := by
  intro before held
  refine (orderly_createRecord contentType epoch save fragment before ⟨rfl, held.sent⟩).mono ?_ ?_
  all_goals
    rintro _ after ⟨same, sent⟩
    rw [← same] at sent
    exact ⟨sent, same ▸ held.keying⟩

theorem channel_framed : Framed (Channel holds wire) where
  same := by
    intro before after held same
    refine ⟨?_, same.keying ▸ held.keying⟩
    rw [same.keying, same.outbox]
    exact held.sent
  cleared := by
    intro before after held same
    have keying : after.keying = before.keying := same.keying
    refine ⟨?_, keying ▸ held.keying⟩
    rw [keying, same.outbox, ← List.append_nil wire]
    exact held.sent.drop ⟨_, List.append_nil _, .inr rfl⟩
  createRecord := channel_createRecord

theorem channel_unread : Unread (Channel holds wire) := fun _ _ held => ⟨held.sent, held.keying⟩

/-- Records that were made without a cipher are in plaintext, so that they do not depend on the keys. -/
theorem Made.rekey {keying rekeyed : Keying} {record : DTLSRecord} (made : Made keying record)
    (isClient : keying.isClient = true) (noCipher : keying.cryptoContext.clientCipher = none) :
    Made rekeyed record := by
  rcases made with ⟨fragment, made⟩
  refine ⟨fragment, made.version, made.length, made.plain, fun isLater => ?_⟩
  rcases made.sealed isLater with ⟨sealing, sealed, _⟩
  have encrypted := sealed.encrypted
  unfold CryptoContext.encrypt at encrypted
  rw [if_pos isClient, noCipher] at encrypted
  cases encrypted

theorem Channel.rekey {before after : Engine} (channel : Channel (Unkeyed config) wire before)
    (exact : config.cryptoProvider.TagsExact) (suited : Suited config after.keying)
    (sameOutbox : after.outbox = before.outbox) : Channel (Suited config) wire after := by
  rcases channel.sent.packing with ⟨out, queued, packing⟩
  have sameConfig : after.keying.config = before.keying.config :=
    suited.configured.trans channel.keying.suited.configured.symm
  refine ⟨?_, suited⟩
  rw [sameOutbox]
  refine ⟨⟨out, queued, packing.wire, packing.queue, ?_, packing.numbered, ?_⟩, channel.sent.epochs, ?_,
    suited.lengthens exact⟩
  · rw [sameConfig]
    exact packing.fits
  · intro record isRecord
    exact (packing.made record isRecord).rekey channel.keying.suited.isClient channel.keying.noCipher
  · rw [sameConfig]
    exact channel.sent.bounded

theorem Channel.rekey_unkeyed {before after : Engine} (channel : Channel (Unkeyed config) wire before)
    (exact : config.cryptoProvider.TagsExact) (unkeyed : Unkeyed config after.keying)
    (sameOutbox : after.outbox = before.outbox) : Channel (Unkeyed config) wire after :=
  ⟨(channel.rekey exact unkeyed.suited sameOutbox).sent, unkeyed⟩

end Channel

end Engine

/-! ## Changes of the keys -/

namespace Engine

section Keying

variable {config : Config} {wire : List Bytes} {Value : Type}

theorem channel_onCryptoContext (exact : config.cryptoProvider.TagsExact) (toError : String -> Error)
    {action : CryptoContext.Action Value} (blank : Keeps (CryptoContext.Blank config.cryptoProvider) action) :
    Keeps (Channel (Unkeyed config) wire) (onCryptoContext toError action) := by
  intro before held
  rw [ends_onCryptoContext]
  have suited := held.keying.suited
  have rekeyed : forall context, CryptoContext.Blank config.cryptoProvider context ->
      Channel (Unkeyed config) wire { before with cryptoContext := context } := by
    intro context ⟨sameProvider, noCipher⟩
    refine held.rekey_unkeyed exact ⟨⟨suited.configured, sameProvider, suited.isClient, suited.suite, ?_⟩, noCipher⟩ rfl
    intro cipher isCipher
    cases noCipher.symm.trans isCipher
  refine (blank before.cryptoContext ⟨suited.provider, held.keying.noCipher⟩).mono ?_ ?_
  · exact fun _ context kept => rekeyed context kept
  · exact fun _ context kept => rekeyed context kept

theorem channel_setCipherSuite (exact : config.cryptoProvider.TagsExact) (cipherSuite : Dtls12CipherSuite) :
    Keeps (Channel (Unkeyed config) wire) (setCipherSuite cipherSuite) := by
  refine Keeps.get_bind fun before held => ?_
  split
  · exact held
  · rename_i supported found
    rw [ends_modify]
    have suited := held.keying.suited
    have isSupported : config.cryptoProvider.cipherSuite cipherSuite = some supported := by
      rw [← suited.provider]
      exact found
    refine held.rekey_unkeyed exact
      ⟨⟨suited.configured, suited.provider, suited.isClient, ?_, ?_⟩, held.keying.noCipher⟩ rfl
    · intro suite isSuite
      cases isSuite
      exact ⟨supported, isSupported, rfl⟩
    · intro cipher isCipher
      cases held.keying.noCipher.symm.trans isCipher

/-- The keys are derived with the suite that was selected. -/
theorem channel_deriveKeys (exact : config.cryptoProvider.TagsExact) (suite : Dtls12CipherSuite)
    (masterError keyError : String -> Error) (sessionHash : Bytes) (unsupported : String)
    (clientRandom serverRandom : Bytes) {before : Engine}
    (held : Channel (Keyable config) wire before) (selected : before.cipherSuite = some suite) :
    Ends (do
        onCryptoContext masterError (CryptoContext.deriveExtendedMasterSecret sessionHash suite.hashAlgorithm)
        onCryptoContext keyError (CryptoContext.deriveKeys suite unsupported clientRandom serverRandom))
      (fun _ => Channel (Keyable config) wire) (fun _ => Channel (Keyable config) wire) before := by
  have suited := held.keying.suited
  rw [ends_bind, ends_onCryptoContext]
  refine (CryptoContext.deriveExtendedMasterSecret_ends _ _ before.cryptoContext).mono ?_ ?_
  · rintro _ derived ⟨secret, masterSecret, isSecret, _, rfl⟩
    have noCipher : before.cryptoContext.clientCipher = none :=
      held.keying.once.resolve_right fun contrary => by cases contrary.symm.trans isSecret
    have unkeyed : Channel (Unkeyed config) wire before := ⟨held.sent, suited, noCipher⟩
    have channel : forall context, CryptoContext.Rekeyed suite
          { before.cryptoContext with masterSecret := some masterSecret, preMasterSecret := none } context ->
        Channel (Keyable config) wire { before with cryptoContext := context } := by
      intro context rekeyed
      have sameProvider : context.provider = config.cryptoProvider := rekeyed.provider.trans suited.provider
      have suitedAfter : Suited config { before with cryptoContext := context : Engine }.keying := by
        refine ⟨suited.configured, sameProvider, suited.isClient, suited.suite, fun cipher isCipher => ?_⟩
        rcases rekeyed.cipher cipher isCipher with same | ⟨supported, key, isSupported, created⟩
        · cases noCipher.symm.trans same
        · exact ⟨suite, supported, key, selected, suited.provider ▸ isSupported, created⟩
      exact ⟨(unkeyed.rekey exact suitedAfter rfl).sent, suitedAfter, .inr rekeyed.preMaster⟩
    rw [ends_onCryptoContext]
    refine (CryptoContext.deriveKeys_ends unsupported clientRandom serverRandom).mono ?_ ?_
    · exact fun _ context kept => channel context kept
    · exact fun _ context kept => channel context kept
  · rintro _ _ rfl
    exact held

end Keying

end Engine

/-! ## The states -/

namespace Client

open Engine

section States

variable {config : Config} {wire : List Bytes} {state : State} {search : BinarySearch Incoming}

theorem channel_createClientKeyExchange (exact : config.cryptoProvider.TagsExact) :
    Keeps (Channel (Unkeyed config) wire) handshakeCreateClientKeyExchange := by
  refine keeps_get.bind fun engine => ?_
  split
  · exact keeps_fail _
  · split
    · split
      · exact keeps_fail _
      · exact (channel_onCryptoContext exact _ CryptoContext.blank_maybeInitKeyExchange).bind fun _ => keeps_pure _
    · split
      · exact keeps_fail _
      · split
        · exact keeps_fail _
        · split
          · exact keeps_fail _
          · refine (channel_onCryptoContext exact _ ?_).bind fun _ => keeps_pure _
            exact (CryptoContext.blank_setPsk _).bind fun _ => CryptoContext.blank_computePskPreMasterSecret
    · exact keeps_fail _

/-- What is known of the keys in a state. -/
def KeysAt (config : Config) : State -> Keying -> Prop
  | .sendChangeCipherSpec => Keyable config
  | .sendFinished | .awaitChangeCipherSpec | .awaitNewSessionTicket | .awaitFinished | .awaitApplicationData
  | .closed => Suited config
  | _ => Unkeyed config

theorem KeysAt.suited {keying : Keying} (keys : KeysAt config state keying) : Suited config keying := by
  cases state with
  | sendChangeCipherSpec => exact Keyable.suited keys
  | sendFinished => exact keys
  | awaitChangeCipherSpec => exact keys
  | awaitNewSessionTicket => exact keys
  | awaitFinished => exact keys
  | awaitApplicationData => exact keys
  | closed => exact keys
  | _ => exact Unkeyed.suited keys

theorem KeysAt.follows {next : State} {keying : Keying} (keys : KeysAt config state keying)
    (follows : Follows state next) : KeysAt config next keying := by
  cases follows with
  | unsigned => exact Unkeyed.keyable keys
  | sentVerify => exact Unkeyed.keyable keys
  | derived => exact Keyable.suited keys
  | _ => exact keys

/-- The client sends in order, and its keys are as its state has them. -/
theorem channel_walk (exact : config.cryptoProvider.TagsExact) :
    EngineWalk search (fun _ => True) fun state => Channel (KeysAt config state) wire where
  tame := fun _ => framed_tame channel_framed channel_unread
  follows := fun follows held => held.mono fun _ keys => keys.follows follows
  closes := fun held => held.mono fun _ keys => keys.suited
  setCipherSuite := channel_setCipherSuite exact
  processEcdhParams := fun toError _ _ _ =>
    channel_onCryptoContext exact toError (CryptoContext.blank_processEcdhParams _ _ _)
  clientKeyExchange := channel_createClientKeyExchange exact
  deriveKeys := fun suite _ _ _ _ _ _ _ held selected => channel_deriveKeys exact suite _ _ _ _ _ _ held selected
  enablePeerEncryption := framed_enablePeerEncryption channel_framed search
  releaseApplicationData := fun _ held => ⟨held.sent, held.keying⟩

/-! ## Runs -/

/-- The keys are as the state of the client has them. -/
def InStep (config : Config) (wire : List Bytes) (client : Client) : Prop :=
  Channel (KeysAt config client.state) wire client.engine

theorem intoOutput_packets {event : LocalEvent} {room : Nat} {peerCerts : List Bytes} {output : Output}
    (isOutput : event.intoOutput room peerCerts = .ok output) : output.packets = [] := by
  unfold LocalEvent.intoOutput at isOutput
  split at isOutput
  · split at isOutput
    · cases isOutput
    · split at isOutput
      · cases isOutput
        rfl
      · cases isOutput
  · cases isOutput
    rfl
  · cases isOutput
    rfl

theorem pollOutput_inStep (room : Nat) {before : Client} (held : InStep config wire before) :
    (pollOutput room).Ends (fun output after => InStep config (wire ++ output.packets) after)
      (fun _ after => InStep config wire after) before := by
  unfold pollOutput
  rw [ends_bind, ends_get]
  split
  · rename_i event rest _
    rw [ends_bind, ends_modify]
    cases isOutput : event.intoOutput room before.serverCertificates with
    | error fault => exact held
    | ok output =>
        rw [ends_ofExcept_ok, intoOutput_packets isOutput, List.append_nil]
        exact held
  · unfold onEngine
    rw [ends_zoom]
    refine (pollOutput_ends room before.lastNow ⟨rfl, held.sent⟩).mono ?_ ?_
    all_goals
      rintro _ after ⟨sameKeying, sent⟩
      rw [← sameKeying] at sent
      refine ⟨sent, ?_⟩
      show KeysAt config before.state after.keying
      rw [sameKeying]
      exact held.keying

/-- The datagrams among the outputs. -/
def packets (outputs : List Output) : List Bytes := outputs.flatMap Output.packets

variable {auth : AuthMode} {rng : SeededRng}

theorem inStep_new (exact : config.cryptoProvider.TagsExact) (now : Nat) :
    InStep config [] (new config auth rng now) := by
  have suited : Suited config (new config auth rng now).engine.keying := by
    refine ⟨rfl, rfl, rfl, ?_, ?_⟩
    · intro suite contrary
      cases contrary
    · intro cipher contrary
      cases contrary
  refine ⟨⟨⟨[], [], ?_⟩, ⟨rfl, rfl⟩, Nat.zero_le _, suited.lengthens exact⟩, suited, rfl⟩
  refine ⟨rfl, rfl, ?_, numbered_nil _ _, ?_⟩
  · intro group contrary
    cases contrary
  · intro record contrary
    cases contrary

theorem inStep_run (exact : config.cryptoProvider.TagsExact) {run : Client × Traffic}
    (reachable : ((system search config auth rng).remember (traffic search)).Reachable run) :
    InStep config (packets run.2.given) run.1 := by
  refine run_invariant_of_polls (fun earlier client => InStep config (packets earlier.given) client) ?_
    (fun _ _ _ held => held) ?_ ?_ reachable
  · exact fun now => inStep_new exact now
  · exact fun earlier request silent _ => (channel_walk exact).toWalk.call silent fun _ _ => trivial
  · intro earlier room before held
    refine (pollOutput_inStep room held).mono ?_ fun _ _ kept => kept
    intro output after kept
    unfold packets at kept ⊢
    rw [List.flatMap_append, List.flatMap_singleton]
    exact kept

theorem sealed_of_made {keying : Keying} {record : DTLSRecord} (made : Made keying record)
    (isLater : record.sequence.epoch = 1) : exists sealing, SealedBy keying record sealing := by
  rcases made with ⟨fragment, made⟩
  have notPlain : record.sequence.epoch ≠ 0 := by
    rw [isLater]
    decide
  rcases made.sealed notPlain with ⟨sealing, sealed, _⟩
  exact ⟨sealing, sealed⟩

/-- The datagrams that a client gave out and those in its queue. -/
def sentBy (run : Client × Traffic) : List Bytes := packets run.2.given ++ run.1.engine.queueTx

/-- Whatever the network and the user do, the datagrams of a client are made of whole records, as
long as the numbers and the lengths are in range, and can be cut into them in one way only.  A
datagram is within the limit or is a single record, the numbers of each epoch ascend, so that no
sequence number is used twice, and the queue stays within its bound. -/
theorem client_sends_numbered_records (exact : config.cryptoProvider.TagsExact) {run : Client × Traffic}
    (reachable : ((system search config auth rng).remember (traffic search)).Reachable run) :
    run.1.engine.queueTx.length ≤ config.maxQueueTx ∧
      (InRange (sentBy run) run.1.engine.outbox -> exists groups : List (List DTLSRecord),
        Cut (sentBy run) groups ∧
        (forall others, Cut (sentBy run) others ->
          others.map (List.map DTLSRecord.serialize) = groups.map (List.map DTLSRecord.serialize)) ∧
        (forall group, group ∈ groups -> Fits config.mtu group) ∧
        (groups.flatten.Pairwise fun earlier later => earlier.sequence.epoch = later.sequence.epoch ->
          earlier.sequence.sequenceNumber < later.sequence.sequenceNumber) ∧
        (groups.flatten.map DTLSRecord.sequence).Nodup ∧
        forall record, record ∈ groups.flatten -> record.sequence.epoch = 0 ∨
          record.sequence.epoch = 1 ∧ exists sealing, SealedBy run.1.engine.keying record sealing) := by
  have held := inStep_run exact reachable
  have configured := held.keying.suited.configured
  rcases held.sent.packing with ⟨out, queued, packing⟩
  have bounded := held.sent.bounded
  rw [configured] at bounded
  have fits := packing.fits
  rw [configured] at fits
  refine ⟨bounded, fun inRange => ?_⟩
  have cut : Cut (sentBy run) (out ++ queued) := packing.cut inRange
  refine ⟨out ++ queued, cut, fun others other => cut.unique other, fits, packing.numbered.ascending,
    packing.numbered.nodup, ?_⟩
  intro record isRecord
  rcases packing.numbered.below record isRecord with ⟨isZero, _⟩ | ⟨isOne, _⟩
  · exact .inl isZero
  · exact .inr ⟨isOne, sealed_of_made (packing.made record isRecord) isOne⟩

theorem session_inRange : InRange (sentBy (Sample.session 11)) (Sample.session 11).1.engine.outbox := by
  have short : ((sentBy (Sample.session 11)).all fun packet => packet.length < 2 ^ 16) = true := by decide +kernel
  refine ⟨by decide +kernel, by decide +kernel, fun packet isPacket => ?_⟩
  exact of_decide_eq_true (List.all_eq_true.mp short packet isPacket)

theorem session_sends_numbered_records :
    (packets (Sample.session 11).2.given).length = 3 ∧
      exists groups : List (List DTLSRecord), Cut (sentBy (Sample.session 11)) groups ∧
        (groups.flatten.map DTLSRecord.sequence).Nodup := by
  rcases client_sends_numbered_records Sample.provider_tagsExact (Sample.session_reachable 11) with ⟨_, sends⟩
  rcases sends session_inRange with ⟨groups, cut, _, _, _, distinct, _⟩
  exact ⟨by decide +kernel, groups, cut, distinct⟩

/-- Two records of epoch 1 with nonces from their numbers have different nonces. -/
theorem nonce_apart {keying : Keying} {first second : DTLSRecord} {firstSealing secondSealing : Sealing}
    (firstSealed : SealedBy keying first firstSealing) (secondSealed : SealedBy keying second secondSealing)
    (implicit : keying.explicitNonceLen = 0) (firstLater : first.sequence.epoch = 1)
    (secondLater : second.sequence.epoch = 1) (firstFits : first.sequence.sequenceNumber < 2 ^ 48)
    (secondFits : second.sequence.sequenceNumber < 2 ^ 48)
    (apart : first.sequence.sequenceNumber < second.sequence.sequenceNumber) :
    firstSealing.nonce ≠ secondSealing.nonce := by
  have isXor : forall {record : DTLSRecord} {sealing : Sealing}, SealedBy keying record sealing ->
      Nonce.xor sealing.iv record.sequence.seq64 = .ok sealing.nonce := by
    intro record sealing sealed
    rcases sealed.nonce with ⟨_, _, made⟩ | ⟨explicit, _⟩
    · exact made
    · rw [implicit] at explicit
      cases explicit
  have small : forall {sequence : Sequence}, sequence.epoch = 1 -> sequence.sequenceNumber < 2 ^ 48 ->
      sequence.seq64 < 2 ^ 64 := by
    intro sequence isLater fits
    rw [Sequence.seq64_eq fits, isLater, show (1 : UInt16).toNat = 1 from rfl]
    omega
  intro same
  have sameIv : firstSealing.iv = secondSealing.iv :=
    Option.some.inj (firstSealed.iv.symm.trans secondSealed.iv)
  have firstXor := isXor firstSealed
  rw [sameIv, same] at firstXor
  have sameNumber := Nonce.xor_injective (small firstLater firstFits) (small secondLater secondFits) firstXor
    (isXor secondSealed)
  rw [Sequence.seq64_injective firstFits secondFits sameNumber] at apart
  exact Nat.lt_irrefl _ apart

def isLater (record : DTLSRecord) : Bool := record.sequence.epoch == 1

/-- With a suite that makes its nonces from the sequence numbers, no two of the records that the
datagrams of a client are cut into are encrypted under one nonce, over any run in which the
numbers and the lengths stay in range. -/
theorem client_nonces_distinct (exact : config.cryptoProvider.TagsExact) {run : Client × Traffic}
    (reachable : ((system search config auth rng).remember (traffic search)).Reachable run)
    (implicit : run.1.engine.explicitNonceLen = 0) (inRange : InRange (sentBy run) run.1.engine.outbox) :
    exists (groups : List (List DTLSRecord)) (sealing : DTLSRecord -> Sealing),
      Cut (sentBy run) groups ∧
      (forall others, Cut (sentBy run) others ->
        others.map (List.map DTLSRecord.serialize) = groups.map (List.map DTLSRecord.serialize)) ∧
      (forall record, record ∈ groups.flatten -> record.sequence.epoch = 0 ∨ isLater record = true) ∧
      (forall record, record ∈ groups.flatten.filter isLater ->
        SealedBy run.1.engine.keying record (sealing record)) ∧
      ((groups.flatten.filter isLater).map fun record => (sealing record).nonce).Nodup := by
  have held := inStep_run exact reachable
  rcases held.sent.packing with ⟨out, queued, packing⟩
  have cut : Cut (sentBy run) (out ++ queued) := packing.cut inRange
  have sealed : forall record, exists sealing, record ∈ (out ++ queued).flatten.filter isLater ->
      SealedBy run.1.engine.keying record sealing := by
    intro record
    by_cases isRecord : record ∈ (out ++ queued).flatten.filter isLater
    · rcases List.mem_filter.mp isRecord with ⟨isSent, later⟩
      rcases sealed_of_made (packing.made record isSent) (beq_iff_eq.mp later) with ⟨sealing, sealed⟩
      exact ⟨sealing, fun _ => sealed⟩
    · exact ⟨⟨⟨[], Nat.zero_le _⟩, ⟨zeros 12, List.length_replicate⟩, [], [], []⟩, fun contrary => absurd contrary isRecord⟩
  choose sealing isSealed using sealed
  refine ⟨out ++ queued, sealing, cut, fun others other => cut.unique other, ?_, isSealed, ?_⟩
  · intro record isRecord
    exact (packing.numbered.below record isRecord).imp And.left fun isOne => beq_iff_eq.mpr isOne.1
  · rw [List.nodup_iff_pairwise_ne, List.pairwise_map, List.pairwise_iff_forall_sublist]
    intro first second isSublist
    have isFirst := isSublist.subset List.mem_cons_self
    have isSecond := isSublist.subset (List.mem_cons_of_mem _ List.mem_cons_self)
    have below : forall record, record ∈ (out ++ queued).flatten.filter isLater ->
        record.sequence.epoch = 1 ∧ record.sequence.sequenceNumber < 2 ^ 48 := by
      intro record isRecord
      rcases List.mem_filter.mp isRecord with ⟨isSent, later⟩
      rcases List.mem_flatten.mp isSent with ⟨group, isGroup, inGroup⟩
      exact ⟨beq_iff_eq.mp later, (cut.whole group isGroup record inGroup).number⟩
    have ascending := List.pairwise_iff_forall_sublist.mp packing.numbered.ascending
      (isSublist.trans List.filter_sublist)
    have firstBelow := below first isFirst
    have secondBelow := below second isSecond
    exact nonce_apart (isSealed first isFirst) (isSealed second isSecond) implicit firstBelow.1 secondBelow.1
      firstBelow.2 secondBelow.2 (ascending (firstBelow.1.trans secondBelow.1.symm))

theorem session_nonces_distinct :
    (Sample.session 11).1.engine.sequenceEpochN.sequenceNumber = 2 ∧
      exists (groups : List (List DTLSRecord)) (sealing : DTLSRecord -> Sealing),
        Cut (sentBy (Sample.session 11)) groups ∧
          ((groups.flatten.filter isLater).map fun record => (sealing record).nonce).Nodup := by
  rcases client_nonces_distinct Sample.provider_tagsExact (Sample.session_reachable 11) (by decide +kernel)
      session_inRange with ⟨groups, sealing, cut, _, _, _, distinct⟩
  exact ⟨by decide +kernel, groups, sealing, cut, distinct⟩

end States

end Client

end Dtls
end P2pSdk
