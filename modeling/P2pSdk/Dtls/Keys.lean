import P2pSdk.Dtls.Crypto

namespace P2pSdk
namespace Dtls

open Foundation Effect

/-!
# What the methods of the keys change

The exchange makes a secret, the master secret uses it up, and the ciphers are
made of the master secret.
-/

namespace CryptoContext

variable {provider : CryptoProvider}

/-! ## Before the ciphers are made -/

/-- There is no cipher, and the provider is this one. -/
def Blank (provider : CryptoProvider) (context : CryptoContext) : Prop :=
  context.provider = provider ∧ context.clientCipher = none

theorem blank_ofText {Value : Type} (result : Except String Value) : Keeps (Blank provider) (ofText result) := by
  unfold ofText
  split
  · exact keeps_pure _
  · exact keeps_fail _

theorem blank_maybeInitKeyExchange : Keeps (Blank provider) maybeInitKeyExchange := by
  refine keeps_get.bind fun self => ?_
  split
  · exact keeps_pure _
  · split
    · exact Keeps.bind (keeps_modify fun _ held => held) fun _ => keeps_pure _
    · exact keeps_fail _

theorem blank_computeSharedSecret (peerPublicKey : Bytes) :
    Keeps (Blank provider) (computeSharedSecret peerPublicKey) := by
  refine keeps_get.bind fun self => ?_
  split
  · exact keeps_fail _
  · refine Keeps.bind (keeps_modify fun _ held => held) fun _ => (blank_ofText _).bind fun secret => ?_
    exact keeps_modify fun _ held => held

theorem blank_setPsk (key : Bytes) : Keeps (Blank provider) (setPsk key) := keeps_modify fun _ held => held

theorem blank_computePskPreMasterSecret : Keeps (Blank provider) computePskPreMasterSecret := by
  refine keeps_get.bind fun self => ?_
  split
  · exact keeps_fail _
  · exact keeps_modify fun _ held => held

theorem blank_startExchange (group : NamedGroup) (unsupported : String) :
    Keeps (Blank provider) (startExchange group unsupported) := by
  refine keeps_get.bind fun self => ?_
  split
  · exact keeps_fail _
  · exact (blank_ofText _).bind fun exchange => keeps_modify fun _ held => held

theorem blank_processEcdhParams (group : NamedGroup) (unsupported : String) (serverPublic : Bytes) :
    Keeps (Blank provider) (processEcdhParams group unsupported serverPublic) :=
  (blank_startExchange group unsupported).bind fun _ => blank_maybeInitKeyExchange.bind fun _ =>
    blank_computeSharedSecret serverPublic

/-! ## The exchange -/

/-- An exchange was started in a group and completed with a key of the peer. -/
def Agreed (provider : CryptoProvider) (group : NamedGroup) (peerPublicKey secret : Bytes) : Prop :=
  exists supported count exchange, supported ∈ provider.supportedKxGroups ∧ supported.name = group ∧
    supported.startExchange count = .ok exchange ∧ exchange.complete peerPublicKey = .ok secret

/-- There is no secret yet. -/
structure Secretless (provider : CryptoProvider) (context : CryptoContext) : Prop where
  sameProvider : context.provider = provider
  noSecret : context.preMasterSecret = none

theorem startExchange_ends (group : NamedGroup) (unsupported : String)
    {before : CryptoContext} (held : Secretless provider before) :
    (startExchange group unsupported).Ends
      (fun _ after => Secretless provider after ∧ exists supported count exchange,
        supported ∈ provider.supportedKxGroups ∧ supported.name = group ∧
          supported.startExchange count = .ok exchange ∧ after.keyExchange = some exchange)
      (fun _ => Secretless provider) before := by
  unfold startExchange
  rw [ends_bind, ends_get]
  split
  · exact held
  · rename_i supported found
    rw [held.sameProvider] at found
    rw [ends_bind]
    refine (ofText_ends _ before).mono ?_ fun _ after same => same.symm ▸ held
    rintro exchange after ⟨started, rfl⟩
    rw [ends_modify]
    have isGroup := List.find?_some found
    exact ⟨⟨held.sameProvider, held.noSecret⟩, supported, _, exchange, List.mem_of_find?_eq_some found,
      beq_iff_eq.mp isGroup, started, rfl⟩

theorem processEcdhParams_ends (group : NamedGroup) (unsupported : String)
    (serverPublic : Bytes) {before : CryptoContext} (held : Secretless provider before) :
    (processEcdhParams group unsupported serverPublic).Ends
      (fun _ after => after.provider = provider ∧
        exists secret, after.preMasterSecret = some secret ∧ Agreed provider group serverPublic secret)
      (fun _ => Secretless provider) before := by
  unfold processEcdhParams
  rw [ends_bind]
  refine (startExchange_ends group unsupported held).mono ?_ fun _ _ kept => kept
  rintro _ started ⟨kept, supported, count, exchange, isSupported, isGroup, isStarted, isExchange⟩
  rw [ends_bind]
  have stored : maybeInitKeyExchange.Ends
      (fun _ after => Secretless provider after ∧ after.keyExchange = some exchange)
      (fun _ => Secretless provider) started := by
    unfold maybeInitKeyExchange
    rw [ends_bind, ends_get]
    split
    · exact ⟨kept, isExchange⟩
    · rw [isExchange]
      exact ⟨⟨kept.sameProvider, kept.noSecret⟩, isExchange⟩
  refine stored.mono ?_ fun _ _ kept => kept
  rintro _ between ⟨kept, isExchange⟩
  unfold computeSharedSecret
  rw [ends_bind, ends_get, isExchange]
  dsimp only
  rw [ends_bind, ends_modify, ends_bind]
  refine (ofText_ends _ _).mono ?_ fun _ after same => same.symm ▸ ⟨kept.sameProvider, kept.noSecret⟩
  rintro secret after ⟨completed, rfl⟩
  exact ⟨kept.sameProvider, secret, rfl, supported, count, exchange, isSupported, isGroup, isStarted, completed⟩

/-! ## The keys -/

/-- The master secret takes the place of the secret. -/
theorem deriveExtendedMasterSecret_ends (sessionHash : Bytes) (hash : HashAlgorithm) (before : CryptoContext) :
    (deriveExtendedMasterSecret sessionHash hash).Ends
      (fun _ after => exists secret masterSecret, before.preMasterSecret = some secret ∧
        prfTls12 before.provider secret (ascii "extended master secret") sessionHash 48 hash = .ok masterSecret ∧
        after = { before with masterSecret := some masterSecret, preMasterSecret := none })
      (fun _ after => after = before) before := by
  unfold deriveExtendedMasterSecret
  rw [ends_bind, ends_get]
  cases isSecret : before.preMasterSecret with
  | none => exact rfl
  | some secret =>
      dsimp only
      rw [ends_bind]
      refine (ofText_ends _ before).mono ?_ fun _ _ same => same
      rintro masterSecret after ⟨derived, rfl⟩
      rw [ends_modify]
      exact ⟨secret, masterSecret, rfl, derived, rfl⟩

/-- The secrets stay, and a new cipher is one of the suite. -/
structure Rekeyed (suite : Dtls12CipherSuite) (before after : CryptoContext) : Prop where
  provider : after.provider = before.provider
  preMaster : after.preMasterSecret = before.preMasterSecret
  master : after.masterSecret = before.masterSecret
  cipher : forall cipher, after.clientCipher = some cipher ->
    before.clientCipher = some cipher ∨ exists supported key,
      before.provider.cipherSuite suite = some supported ∧ supported.createCipher key = .ok cipher

section Rekeyed

variable {suite : Dtls12CipherSuite} {start : CryptoContext}

theorem Rekeyed.refl : Rekeyed suite start start := ⟨rfl, rfl, rfl, fun _ => .inl⟩

theorem rekeyed_ofText {Value : Type} (result : Except String Value) : Keeps (Rekeyed suite start) (ofText result) := by
  unfold ofText
  split
  · exact keeps_pure _
  · exact keeps_fail _

theorem rekeyed_ofIv (result : Except Fault Iv) : Keeps (Rekeyed suite start) (deriveKeys.ofIv result) := by
  unfold deriveKeys.ofIv
  split
  · exact keeps_pure _
  · exact keeps_fail _

theorem deriveKeys_ends (unsupported : String) (clientRandom serverRandom : Bytes) :
    (deriveKeys suite unsupported clientRandom serverRandom).Ends (fun _ => Rekeyed suite start)
      (fun _ => Rekeyed suite start) start := by
  unfold deriveKeys
  rw [ends_bind, ends_get]
  split
  · exact .refl
  · rw [ends_bind, ends_modify]
    have changed : Rekeyed suite start
        { start with clientRandom := some clientRandom, serverRandom := some serverRandom } :=
      ⟨rfl, rfl, rfl, fun _ => .inl⟩
    split
    · exact changed
    · rename_i supported found
      dsimp only
      refine ((rekeyed_ofText _).bind fun keyBlock => (rekeyed_ofIv _).bind fun clientIv => ?_) _ changed
      refine Keeps.bind (keeps_modify ?_) fun _ => (rekeyed_ofIv _).bind fun serverIv => ?_
      · exact fun _ held => ⟨held.provider, held.preMaster, held.master, held.cipher⟩
      refine Keeps.bind (keeps_modify ?_) fun _ => ?_
      · exact fun _ held => ⟨held.provider, held.preMaster, held.master, held.cipher⟩
      intro between held
      rw [ends_bind]
      refine (ofText_ends _ between).mono ?_ fun _ after same => same.symm ▸ held
      rintro clientCipher after ⟨created, rfl⟩
      refine (Keeps.bind (keeps_modify ?_) fun _ => (rekeyed_ofText _).bind fun serverCipher => keeps_modify ?_)
        after held
      · refine fun _ held => ⟨held.provider, held.preMaster, held.master, fun cipher isCipher => ?_⟩
        cases isCipher
        exact .inr ⟨supported, _, found, created⟩
      · exact fun _ held => ⟨held.provider, held.preMaster, held.master, held.cipher⟩

end Rekeyed

end CryptoContext

end Dtls
end P2pSdk
