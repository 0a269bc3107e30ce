import P2pSdk.Dtls.Messages

namespace P2pSdk
namespace Dtls

open Foundation Parser

/-!
# Handshake messages round-trip

A body is well formed when its codes are canonical, its lists pass the filters
of the parsers and its lengths fit their fields.  A well-formed body is read
back from its serialization, and whatever a parser accepts is well formed.
-/

/-! ## Codes -/

theorem Coding.canonical_of_mem {Value Code : Type} {coding : Coding Value Code} [DecidableEq Value]
    (values : List Value) (all : values.all fun value => coding.ofCode (coding.code value) = value) {value : Value}
    (isMember : value ∈ values) : coding.Canonical value := by
  have here := List.all_eq_true.mp all value isMember
  exact of_decide_eq_true (p := coding.ofCode (coding.code value) = value) here

theorem Dtls12CipherSuite.canonical_of_supported {suite : Dtls12CipherSuite} (supported : suite.isSupported = true) :
    coding.Canonical suite :=
  Coding.canonical_of_mem Dtls12CipherSuite.supported (by decide) (List.contains_iff_mem.mp supported)

theorem CompressionMethod.canonical_of_supported {method : CompressionMethod} (supported : method.isSupported = true) :
    coding.Canonical method :=
  Coding.canonical_of_mem [CompressionMethod.null] (by decide) (List.contains_iff_mem.mp supported)

theorem ClientCertificateType.canonical_of_supported {kind : ClientCertificateType}
    (supported : kind.isSupported = true) : coding.Canonical kind :=
  Coding.canonical_of_mem [ClientCertificateType.ecdsaSign] (by decide)
    (List.contains_iff_mem.mp supported)

theorem ExtensionType.canonical_of_supported {kind : ExtensionType} (isSupported : kind.isSupported = true) :
    coding.Canonical kind :=
  Coding.canonical_of_mem supported (by decide) (List.contains_iff_mem.mp isSupported)

theorem SignatureAndHashAlgorithm.canonical_of_supported {algorithm : SignatureAndHashAlgorithm}
    (isSupported : algorithm.isSupported = true) : coding.Canonical algorithm :=
  Coding.canonical_of_mem supported (by decide) (List.contains_iff_mem.mp isSupported)

theorem Coding.bytes16_ne_nil {Value : Type} (coding : Coding Value UInt16) (value : Value) :
    coding.bytes16 value ≠ [] := by
  intro contrary
  have sized := beBytes_length 2 (coding.code value).toNat
  rw [show beBytes 2 (coding.code value).toNat = [] from contrary] at sized
  cases sized

theorem Coding.bytes8_ne_nil {Value : Type} (coding : Coding Value UInt8) (value : Value) :
    coding.bytes8 value ≠ [] := List.cons_ne_nil _ _

/-- Values of two bytes that are supported. -/
theorem Coding.writes16 {Value : Type} {coding : Coding Value UInt16} {keep : Value -> Bool} {values : List Value}
    (canonical : forall value, keep value = true -> coding.Canonical value)
    (kept : forall value, value ∈ values -> keep value = true) :
    Parser.Writes coding.parse16 keep coding.bytes16 values :=
  ⟨fun value isValue => coding.reads16 (canonical value (kept value isValue)),
    fun value _ => coding.bytes16_ne_nil value, kept⟩

theorem Coding.writes8 {Value : Type} {coding : Coding Value UInt8} {keep : Value -> Bool} {values : List Value}
    (canonical : forall value, keep value = true -> coding.Canonical value)
    (kept : forall value, value ∈ values -> keep value = true) :
    Parser.Writes coding.parse8 keep coding.bytes8 values :=
  ⟨fun value isValue => coding.reads8 (canonical value (kept value isValue)),
    fun value _ => coding.bytes8_ne_nil value, kept⟩

theorem Coding.bytes16_length {Value : Type} (coding : Coding Value UInt16) (values : List Value) :
    (values.flatMap coding.bytes16).length = values.length * 2 := by
  induction values with
  | nil => rfl
  | cons value values ih =>
      rw [List.flatMap_cons, List.length_append, ih, List.length_cons]
      have sized : (coding.bytes16 value).length = 2 := beBytes_length 2 _
      omega

theorem Coding.bytes8_length {Value : Type} (coding : Coding Value UInt8) (values : List Value) :
    (values.flatMap coding.bytes8).length = values.length := by
  induction values with
  | nil => rfl
  | cons value values ih =>
      rw [List.flatMap_cons, List.length_append, ih, List.length_cons]
      have sized : (coding.bytes8 value).length = 1 := rfl
      omega

/-! ## Parts -/

theorem Random.reads (random : Random) : Random.parse.Reads random.bytes random := by
  intro rest
  unfold Random.parse
  have sized := random.sized
  rw [dif_neg (by rw [List.length_append]; omega)]
  simp only [List.take_left' sized, List.drop_left' sized]

theorem VarArray.reads {max : Nat} (small : max < 256) (array : VarArray max) :
    VarArray.parse.Reads array.serialize array := by
  have fits := array.fits
  have same : (UInt8.ofNat array.bytes.length).toNat = array.bytes.length :=
    UInt8.toNat_ofNat_of_lt' (Nat.lt_of_le_of_lt fits small)
  refine Reads.bind (reads_beU8 (UInt8.ofNat array.bytes.length)) ?_
  rw [dif_pos (by rw [same]; exact fits)]
  intro rest
  simp only [same]
  rw [dif_neg (by rw [List.length_append]; omega)]
  simp only [List.take_left, List.drop_left]

namespace Extension

structure WellFormed (extension : Extension) : Prop where
  supported : extension.extensionType.isSupported = true
  short : extension.extensionData.length < 256 ^ 2

theorem WellFormed.reads {extension : Extension} (wellFormed : extension.WellFormed) :
    Extension.parse.Reads extension.serialize extension := by
  rcases reads_length16 wellFormed.short with ⟨readsLength, readsData⟩
  refine (ExtensionType.coding.reads16 (ExtensionType.canonical_of_supported wellFormed.supported)).bind ?_
  exact readsLength.bind (readsData.then (reads_pure _))

theorem serialize_length (extension : Extension) :
    extension.serialize.length = 4 + extension.extensionData.length := by
  have kind : (ExtensionType.coding.bytes16 extension.extensionType).length = 2 := beBytes_length 2 _
  simp only [serialize, List.length_append, kind, beBytes_length]
  omega

theorem parse_eq_ok {input rest : Bytes} {extension : Extension}
    (parsed : Extension.parse input = .ok (extension, rest)) :
    input.length = extension.serialize.length + rest.length ∧ extension.extensionData.length < 256 ^ 2 := by
  rcases bind_eq_ok.mp parsed with ⟨kind, behindKind, isKind, parsed⟩
  rcases bind_eq_ok.mp parsed with ⟨len, behindLen, isLen, parsed⟩
  rcases bind_eq_ok.mp parsed with ⟨data, behindData, isData, parsed⟩
  rcases pure_eq_ok.mp parsed with ⟨rfl, rfl⟩
  have kindSize := (Coding.parse16_eq_ok isKind).2
  have lenSize := beU16_length isLen
  rcases take_length isData with ⟨dataSize, same⟩
  have small := len.toNat_lt
  rw [serialize_length]
  exact ⟨by dsimp only; omega, by dsimp only; omega⟩

end Extension

/-- Extensions that were kept. -/
def AllWellFormed (extensions : List Extension) : Prop :=
  forall extension, extension ∈ extensions -> extension.WellFormed

theorem AllWellFormed.writes {extensions : List Extension} (wellFormed : AllWellFormed extensions) :
    Parser.Writes Extension.parse (fun extension => extension.extensionType.isSupported) Extension.serialize
      extensions := by
  refine ⟨fun extension isMember => (wellFormed extension isMember).reads, fun extension _ contrary => ?_,
    fun extension isMember => (wellFormed extension isMember).supported⟩
  have sized := extension.serialize_length
  rw [contrary, List.length_nil] at sized
  omega

theorem AllWellFormed.positive {extensions : List Extension} (_ : AllWellFormed extensions)
    (some_extension : extensions ≠ []) : 0 < (extensions.flatMap Extension.serialize).length := by
  cases extensions with
  | nil => exact absurd rfl some_extension
  | cons first others =>
      rw [List.flatMap_cons, List.length_append, Extension.serialize_length]
      omega

theorem isEmpty_beBytes_append (value : Nat) (bytes : Bytes) : (beBytes 2 value ++ bytes).isEmpty = false := rfl

/-- The length of some bytes is not zero as a number of two bytes. -/
theorem length16_ne_zero {len : Nat} (positive : 0 < len) (short : len < 256 ^ 2) : UInt16.ofNat len ≠ 0 := by
  intro contrary
  have same : (UInt16.ofNat len).toNat = len := UInt16.toNat_ofNat_of_lt' short
  rw [contrary] at same
  exact Nat.ne_of_lt positive same

theorem untilEmpty_extensions {part input rest : Bytes} {extensions : ExtensionVec}
    (parsed : untilEmpty Extension.parse (fun extension => extension.extensionType.isSupported) part input =
      .ok (extensions, rest)) :
    AllWellFormed extensions.items ∧ (extensions.items.flatMap Extension.serialize).length ≤ part.length := by
  rcases untilEmpty_kept (fun extension => extension.extensionData.length < 256 ^ 2)
    (fun _ _ _ read => (Extension.parse_eq_ok read).1) (fun _ _ _ read => (Extension.parse_eq_ok read).2)
    parsed with ⟨kept, bounded⟩
  exact ⟨fun extension isMember => ⟨(kept extension isMember).1, (kept extension isMember).2⟩, bounded⟩

namespace DigitallySigned

structure WellFormed (signed : DigitallySigned) : Prop where
  canonical : SignatureAndHashAlgorithm.coding.Canonical signed.algorithm
  short : signed.signature.length < 256 ^ 2

theorem WellFormed.reads {signed : DigitallySigned} (wellFormed : signed.WellFormed) :
    DigitallySigned.parse.Reads signed.serialize signed := by
  rcases reads_length16 wellFormed.short with ⟨readsLength, readsData⟩
  refine (SignatureAndHashAlgorithm.coding.reads16 wellFormed.canonical).bind ?_
  exact readsLength.bind (readsData.then (reads_pure _))

theorem wellFormed_of_parse {input rest : Bytes} {signed : DigitallySigned}
    (parsed : DigitallySigned.parse input = .ok (signed, rest)) : signed.WellFormed := by
  rcases bind_eq_ok.mp parsed with ⟨algorithm, behindAlgorithm, isAlgorithm, parsed⟩
  rcases bind_eq_ok.mp parsed with ⟨len, behindLen, isLen, parsed⟩
  rcases bind_eq_ok.mp parsed with ⟨signature, behindSignature, isSignature, parsed⟩
  rcases pure_eq_ok.mp parsed with ⟨rfl, rfl⟩
  refine ⟨(Coding.parse16_eq_ok isAlgorithm).1, ?_⟩
  rw [(take_length isSignature).2]
  exact len.toNat_lt

end DigitallySigned

/-! ## Bodies -/

namespace ClientHello

structure WellFormed (hello : ClientHello) : Prop where
  version : ProtocolVersion.coding.Canonical hello.clientVersion
  someSuite : hello.cipherSuites.items ≠ []
  suites : forall suite, suite ∈ hello.cipherSuites.items -> suite.isSupported = true
  someMethod : hello.compressionMethods.items ≠ []
  methods : forall method, method ∈ hello.compressionMethods.items -> method.isSupported = true
  extensions : AllWellFormed hello.extensions.items
  short : (hello.extensions.items.flatMap Extension.serialize).length < 256 ^ 2

theorem parseExtensions_reads {extensions : ExtensionVec} (wellFormed : AllWellFormed extensions.items)
    (short : (extensions.items.flatMap Extension.serialize).length < 256 ^ 2) :
    parseExtensions.ReadsAll
      (if extensions.items.isEmpty then [] else serializeExtensions extensions.items) extensions := by
  cases isEmpty : extensions.items.isEmpty with
  | true =>
      have same : extensions = .empty := by
        cases extensions
        cases List.isEmpty_iff.mp isEmpty
        rfl
      rw [same]
      rfl
  | false =>
      rcases reads_length16 short with ⟨readsLength, readsData⟩
      have notZero := length16_ne_zero (wellFormed.positive (List.isEmpty_eq_false_iff.mp isEmpty)) short
      rw [if_neg Bool.false_ne_true]
      unfold parseExtensions serializeExtensions
      refine lookAll ?_
      rw [if_neg (by rw [isEmpty_beBytes_append]; exact Bool.false_ne_true)]
      refine readsLength.bindAll ?_
      rw [if_neg notZero]
      exact readsData.all.then (untilEmpty_reads wellFormed.writes)

theorem WellFormed.reads {hello : ClientHello} (wellFormed : hello.WellFormed) :
    ClientHello.parse.ReadsAll hello.serialize hello := by
  have suites := Coding.writes16 (fun _ => Dtls12CipherSuite.canonical_of_supported) wellFormed.suites
  have methods := Coding.writes8 (fun _ => CompressionMethod.canonical_of_supported) wellFormed.methods
  have suitesShort : (hello.cipherSuites.items.flatMap Dtls12CipherSuite.coding.bytes16).length < 256 ^ 2 := by
    rw [Coding.bytes16_length]
    have := hello.cipherSuites.fits
    omega
  have methodsShort : (hello.compressionMethods.items.flatMap CompressionMethod.coding.bytes8).length < 256 := by
    rw [Coding.bytes8_length]
    have := hello.compressionMethods.fits
    omega
  rcases reads_length16 suitesShort with ⟨readsSuitesLength, readsSuites⟩
  rcases reads_length8 methodsShort with ⟨readsMethodsLength, readsMethods⟩
  rw [Coding.bytes16_length] at readsSuitesLength readsSuites
  rw [Coding.bytes8_length] at readsMethodsLength readsMethods
  unfold ClientHello.parse ClientHello.serialize
  refine (ProtocolVersion.coding.reads16 wellFormed.version).bindAll ?_
  refine hello.random.reads.bindAll ?_
  refine (hello.sessionId.reads (by decide)).bindAll ?_
  refine (hello.cookie.reads (by decide)).bindAll ?_
  refine readsSuitesLength.bindAll ?_
  refine readsSuites.bindAll ?_
  refine (whole_many1_reads suites wellFormed.someSuite _).skipAll ?_
  refine readsMethodsLength.bindAll ?_
  refine readsMethods.bindAll ?_
  refine (whole_many1_reads methods wellFormed.someMethod _).skipAll ?_
  exact (parseExtensions_reads wellFormed.extensions wellFormed.short).then (reads_pure _)

theorem parseExtensions_eq_ok {input rest : Bytes} {extensions : ExtensionVec}
    (parsed : parseExtensions input = .ok (extensions, rest)) :
    AllWellFormed extensions.items ∧ (extensions.items.flatMap Extension.serialize).length < 256 ^ 2 := by
  have none : AllWellFormed (ArrayVec.empty : ExtensionVec).items ∧
      ((ArrayVec.empty : ExtensionVec).items.flatMap Extension.serialize).length < 256 ^ 2 :=
    ⟨fun _ contrary => absurd contrary List.not_mem_nil, by decide⟩
  unfold parseExtensions at parsed
  rcases bind_eq_ok.mp parsed with ⟨left, behindLook, _, parsed⟩
  split at parsed
  · rw [(pure_eq_ok.mp parsed).1]
    exact none
  · rcases bind_eq_ok.mp parsed with ⟨len, behindLen, _, parsed⟩
    split at parsed
    · rw [(pure_eq_ok.mp parsed).1]
      exact none
    · rcases bind_eq_ok.mp parsed with ⟨data, behindData, isData, parsed⟩
      rcases untilEmpty_extensions parsed with ⟨wellFormed, bounded⟩
      have same := (take_length isData).2
      have small := len.toNat_lt
      exact ⟨wellFormed, by omega⟩

theorem wellFormed_of_parse {input rest : Bytes} {hello : ClientHello}
    (parsed : ClientHello.parse input = .ok (hello, rest)) : hello.WellFormed := by
  rcases bind_eq_ok.mp parsed with ⟨version, _, isVersion, parsed⟩
  rcases bind_eq_ok.mp parsed with ⟨random, _, _, parsed⟩
  rcases bind_eq_ok.mp parsed with ⟨sessionId, _, _, parsed⟩
  rcases bind_eq_ok.mp parsed with ⟨cookie, _, _, parsed⟩
  rcases bind_eq_ok.mp parsed with ⟨_, _, _, parsed⟩
  rcases bind_eq_ok.mp parsed with ⟨_, _, _, parsed⟩
  rcases bind_eq_ok.mp parsed with ⟨suites, _, isSuites, parsed⟩
  rcases bind_eq_ok.mp parsed with ⟨_, _, _, parsed⟩
  rcases bind_eq_ok.mp parsed with ⟨_, _, _, parsed⟩
  rcases bind_eq_ok.mp parsed with ⟨methods, _, isMethods, parsed⟩
  rcases bind_eq_ok.mp parsed with ⟨extensions, _, isExtensions, parsed⟩
  rcases pure_eq_ok.mp parsed with ⟨rfl, rfl⟩
  rcases many1_kept (whole_eq_ok.mp isSuites).1 with ⟨someSuite, supportedSuites⟩
  rcases many1_kept (whole_eq_ok.mp isMethods).1 with ⟨someMethod, supportedMethods⟩
  rcases parseExtensions_eq_ok isExtensions with ⟨wellFormed, short⟩
  exact ⟨(Coding.parse16_eq_ok isVersion).1, someSuite, supportedSuites, someMethod, supportedMethods, wellFormed,
    short⟩

end ClientHello

namespace HelloVerifyRequest

structure WellFormed (request : HelloVerifyRequest) : Prop where
  version : ProtocolVersion.coding.Canonical request.serverVersion
  cookie : request.cookie.bytes ≠ []

theorem WellFormed.reads {request : HelloVerifyRequest} (wellFormed : request.WellFormed) :
    HelloVerifyRequest.parse.Reads request.serialize request := by
  refine (ProtocolVersion.coding.reads16 wellFormed.version).bind ?_
  refine (request.cookie.reads (by decide)).then ?_
  rw [if_neg (by simpa using wellFormed.cookie)]
  exact reads_pure _

theorem wellFormed_of_parse {input rest : Bytes} {request : HelloVerifyRequest}
    (parsed : HelloVerifyRequest.parse input = .ok (request, rest)) : request.WellFormed := by
  rcases bind_eq_ok.mp parsed with ⟨version, _, isVersion, parsed⟩
  rcases bind_eq_ok.mp parsed with ⟨cookie, _, _, parsed⟩
  split at parsed
  · cases parsed
  · rename_i some_byte
    rcases pure_eq_ok.mp parsed with ⟨rfl, rfl⟩
    exact ⟨(Coding.parse16_eq_ok isVersion).1, by simpa using some_byte⟩

end HelloVerifyRequest

namespace ServerHello

structure Coded (hello : ServerHello) : Prop where
  version : ProtocolVersion.coding.Canonical hello.serverVersion
  suite : Dtls12CipherSuite.coding.Canonical hello.cipherSuite
  method : CompressionMethod.coding.Canonical hello.compressionMethod

/-- An empty list of extensions is not well formed: it is written as an empty
block, which is read as no extensions at all. -/
structure WellFormed (hello : ServerHello) : Prop extends Coded hello where
  extensions : forall extensions, hello.extensions = some extensions ->
    AllWellFormed extensions.items ∧ extensions.items ≠ [] ∧
      (extensions.items.flatMap Extension.serialize).length < 256 ^ 2

theorem parseExtensions_reads {extensions : Option ExtensionVec}
    (wellFormed : forall present, extensions = some present ->
      AllWellFormed present.items ∧ present.items ≠ [] ∧
        (present.items.flatMap Extension.serialize).length < 256 ^ 2) :
    parseExtensions.ReadsAll
      (extensions.elim [] fun present => serializeExtensions present.items) extensions := by
  cases extensions with
  | none => rfl
  | some present =>
      rcases wellFormed present rfl with ⟨all, some_extension, short⟩
      rcases reads_length16 short with ⟨readsLength, readsData⟩
      have same : (UInt16.ofNat (present.items.flatMap Extension.serialize).length).toNat =
          (present.items.flatMap Extension.serialize).length := UInt16.toNat_ofNat_of_lt' short
      have positive := all.positive some_extension
      rw [Option.elim_some]
      unfold parseExtensions serializeExtensions
      refine lookAll ?_
      rw [if_neg (by rw [isEmpty_beBytes_append]; exact Bool.false_ne_true)]
      refine lookAll ?_
      rw [if_neg (by rw [List.length_append, beBytes_length]; omega)]
      refine readsLength.bindAll ?_
      refine lookAll ?_
      rw [if_neg (by rw [same]; omega), if_pos (UInt16.lt_iff_toNat_lt.mpr (by rw [same]; exact positive))]
      refine readsData.all.thenAll ?_
      refine lookAll ?_
      rw [if_pos (by rfl)]
      exact (untilEmpty_reads all.writes).all.map some

theorem Coded.reads {hello : ServerHello} (coded : hello.Coded) {extensions : Option ExtensionVec}
    (reads : parseExtensions.ReadsAll
      (hello.extensions.elim [] fun present => serializeExtensions present.items) extensions) :
    ServerHello.parse.ReadsAll hello.serialize { hello with extensions := extensions } := by
  unfold ServerHello.parse ServerHello.serialize
  refine (ProtocolVersion.coding.reads16 coded.version).bindAll ?_
  refine hello.random.reads.bindAll ?_
  refine (hello.sessionId.reads (by decide)).bindAll ?_
  refine (Dtls12CipherSuite.coding.reads16 coded.suite).bindAll ?_
  refine (CompressionMethod.coding.reads8 coded.method).bindAll ?_
  exact reads.then (reads_pure _)

theorem WellFormed.reads {hello : ServerHello} (wellFormed : hello.WellFormed) :
    ServerHello.parse.ReadsAll hello.serialize hello :=
  wellFormed.toCoded.reads (parseExtensions_reads wellFormed.extensions)

theorem parseExtensions_eq_ok {input rest : Bytes} {extensions : ExtensionVec}
    (parsed : parseExtensions input = .ok (some extensions, rest)) :
    AllWellFormed extensions.items ∧ (extensions.items.flatMap Extension.serialize).length < 256 ^ 2 := by
  unfold parseExtensions at parsed
  rcases bind_eq_ok.mp parsed with ⟨_, _, _, parsed⟩
  split at parsed
  · cases (pure_eq_ok.mp parsed).1
  · rcases bind_eq_ok.mp parsed with ⟨_, _, _, parsed⟩
    split at parsed
    · cases parsed
    · rcases bind_eq_ok.mp parsed with ⟨len, _, _, parsed⟩
      rcases bind_eq_ok.mp parsed with ⟨_, _, _, parsed⟩
      split at parsed
      · cases parsed
      · split at parsed
        · rcases bind_eq_ok.mp parsed with ⟨data, _, isData, parsed⟩
          rcases bind_eq_ok.mp parsed with ⟨_, _, _, parsed⟩
          split at parsed
          · rcases bind_eq_ok.mp parsed with ⟨found, _, isFound, parsed⟩
            cases (pure_eq_ok.mp parsed).1
            rcases untilEmpty_extensions isFound with ⟨wellFormed, bounded⟩
            have same := (take_length isData).2
            have small := len.toNat_lt
            exact ⟨wellFormed, by omega⟩
          · cases parsed
        · cases (pure_eq_ok.mp parsed).1

/-- A hello is accepted with an empty list of extensions when all that it
lists are unsupported. -/
def Bare (hello : ServerHello) : Prop := hello.extensions = some .empty

theorem of_parse {input rest : Bytes} {hello : ServerHello}
    (parsed : ServerHello.parse input = .ok (hello, rest)) :
    hello.Coded ∧ (¬ hello.Bare -> hello.WellFormed) := by
  rcases bind_eq_ok.mp parsed with ⟨version, _, isVersion, parsed⟩
  rcases bind_eq_ok.mp parsed with ⟨random, _, _, parsed⟩
  rcases bind_eq_ok.mp parsed with ⟨sessionId, _, _, parsed⟩
  rcases bind_eq_ok.mp parsed with ⟨suite, _, isSuite, parsed⟩
  rcases bind_eq_ok.mp parsed with ⟨method, _, isMethod, parsed⟩
  rcases bind_eq_ok.mp parsed with ⟨extensions, _, isExtensions, parsed⟩
  rcases pure_eq_ok.mp parsed with ⟨rfl, rfl⟩
  refine ⟨⟨(Coding.parse16_eq_ok isVersion).1, (Coding.parse16_eq_ok isSuite).1, (Coding.parse8_eq_ok isMethod).1⟩,
    fun notBare => ⟨⟨(Coding.parse16_eq_ok isVersion).1, (Coding.parse16_eq_ok isSuite).1,
      (Coding.parse8_eq_ok isMethod).1⟩, ?_⟩⟩
  rintro ⟨items, fits⟩ rfl
  rcases parseExtensions_eq_ok isExtensions with ⟨wellFormed, short⟩
  refine ⟨wellFormed, ?_, short⟩
  rintro rfl
  exact notBare rfl

/-- The empty list of extensions is read back as no extensions. -/
theorem Bare.not_reads {hello : ServerHello} (bare : hello.Bare) :
    ¬ ServerHello.parse.ReadsAll hello.serialize hello := by
  intro reads
  have none : parseExtensions.ReadsAll
      (hello.extensions.elim [] fun present => serializeExtensions present.items) none := by
    rw [bare]
    rfl
  have other := (of_parse reads).1.reads none
  have same := reads.symm.trans other
  rw [Except.ok.injEq, Prod.mk.injEq] at same
  have extensions := congrArg ServerHello.extensions same.1
  rw [bare] at extensions
  cases extensions

end ServerHello

/-- Opaque data behind a length of two bytes. -/
theorem reads_opaque16 {data : Bytes} (short : data.length < 256 ^ 2) :
    parseOpaque16.Reads (serializeOpaque16 data) data := by
  rcases reads_length16 short with ⟨readsLength, readsData⟩
  exact readsLength.bind readsData

theorem parseOpaque16_short {input rest data : Bytes} (parsed : parseOpaque16 input = .ok (data, rest)) :
    data.length < 256 ^ 2 := by
  rcases bind_eq_ok.mp parsed with ⟨len, _, _, parsed⟩
  rw [(take_length parsed).2]
  exact len.toNat_lt

namespace Certificate

/-- The total length fits its field, and with it the length of each certificate. -/
structure WellFormed (certificate : Certificate) : Prop where
  short : (certificate.certificateList.items.flatMap Asn1Cert.serialize).length < 256 ^ 3

theorem length_of_mem {items : List Asn1Cert} {item : Asn1Cert} (isMember : item ∈ items) :
    item.length + 3 ≤ (items.flatMap Asn1Cert.serialize).length := by
  have part := List.sublist_flatten_of_mem (List.mem_map_of_mem (f := Asn1Cert.serialize) isMember)
  have size := part.length_le
  rw [← List.flatMap_def] at size
  have sized : item.serialize.length = 3 + item.length := by
    rw [Asn1Cert.serialize, List.length_append, beBytes_length]
  omega

theorem WellFormed.reads {certificate : Certificate} (wellFormed : certificate.WellFormed) :
    Certificate.parse.Reads certificate.serialize certificate := by
  have writes : Parser.Writes Asn1Cert.parse (fun _ => true) Asn1Cert.serialize
      certificate.certificateList.items := by
    refine ⟨fun item isMember => ?_, fun item _ contrary => ?_, fun _ _ => rfl⟩
    · have size := length_of_mem isMember
      have short := wellFormed.short
      exact (reads_beU24 (by omega)).bind (reads_take item)
    · have sized := congrArg List.length contrary
      rw [Asn1Cert.serialize, List.length_append, beBytes_length] at sized
      cases Nat.eq_zero_of_add_eq_zero_right sized
  refine (reads_beU24 wellFormed.short).bind ((reads_take _).then ?_)
  exact (untilEmpty_reads writes).then (reads_pure _)

theorem wellFormed_of_parse {input rest : Bytes} {certificate : Certificate}
    (parsed : Certificate.parse input = .ok (certificate, rest)) : certificate.WellFormed := by
  rcases bind_eq_ok.mp parsed with ⟨len, _, isLen, parsed⟩
  rcases bind_eq_ok.mp parsed with ⟨data, _, isData, parsed⟩
  rcases bind_eq_ok.mp parsed with ⟨items, _, isItems, parsed⟩
  rcases pure_eq_ok.mp parsed with ⟨rfl, rfl⟩
  have sized : Parser.Sized Asn1Cert.parse Asn1Cert.serialize := by
    intro input value rest parsed
    rcases bind_eq_ok.mp parsed with ⟨len, _, isLen, parsed⟩
    have lenSize := (beU24_eq_ok isLen).1
    have dataSize := (take_length parsed).1
    rw [Asn1Cert.serialize, List.length_append, beBytes_length]
    omega
  have bounded := (untilEmpty_kept (fun _ => True) sized (fun _ _ _ _ => trivial) isItems).2
  have small := (beU24_eq_ok isLen).2
  have same := (take_length isData).2
  exact ⟨by dsimp only; omega⟩

end Certificate

namespace ServerKeyExchange

/-- What a key exchange algorithm accepts. -/
inductive WellFormed : KeyExchangeAlgorithm -> ServerKeyExchange -> Prop
  | ecdh {params : EcdhParams} (curve : CurveType.coding.Canonical params.curveType)
      (group : NamedGroup.coding.Canonical params.namedGroup) (key : params.publicKey.length < 256)
      (signed : forall signed, params.signature = some signed -> signed.WellFormed) :
      WellFormed .eecdh (.ecdh params)
  | psk {hint : Bytes} (short : hint.length < 256 ^ 2) : WellFormed .psk (.psk hint)

theorem parseSignature_reads {signature : Option DigitallySigned}
    (wellFormed : forall signed, signature = some signed -> signed.WellFormed) :
    EcdhParams.parseSignature.ReadsAll (signature.elim [] DigitallySigned.serialize) signature := by
  cases signature with
  | none => rfl
  | some signed =>
      have notEmpty : signed.serialize.isEmpty = false := rfl
      rw [Option.elim_some]
      refine lookAll ?_
      rw [if_neg (by rw [notEmpty]; exact Bool.false_ne_true)]
      exact (wellFormed signed rfl).reads.all.map some

theorem wellFormed_of_parseSignature {input rest : Bytes} {signed : DigitallySigned}
    (parsed : EcdhParams.parseSignature input = .ok (some signed, rest)) : signed.WellFormed := by
  rcases bind_eq_ok.mp parsed with ⟨_, _, _, parsed⟩
  split at parsed
  · cases (pure_eq_ok.mp parsed).1
  · rcases map_eq_ok.mp parsed with ⟨found, isFound, same⟩
    cases same
    exact DigitallySigned.wellFormed_of_parse isFound

theorem WellFormed.reads {algorithm : KeyExchangeAlgorithm} {exchange : ServerKeyExchange}
    (wellFormed : WellFormed algorithm exchange) :
    (ServerKeyExchange.parse algorithm).ReadsAll (exchange.serialize true) exchange := by
  cases wellFormed with
  | ecdh curve group key signed =>
      rename_i params
      refine ReadsAll.map _ ?_
      rcases reads_length8 key with ⟨readsLength, readsKey⟩
      show EcdhParams.parse.ReadsAll (params.serialize true) params
      unfold EcdhParams.parse EcdhParams.serialize EcdhParams.serializeParams
      rw [List.append_assoc, List.append_assoc, List.cons_append, if_pos rfl]
      refine (CurveType.coding.reads8 curve).bindAll ?_
      refine (NamedGroup.coding.reads16 group).bindAll ?_
      refine readsLength.bindAll ?_
      refine readsKey.bindAll ?_
      exact (parseSignature_reads signed).then (reads_pure _)
  | psk short => exact (reads_opaque16 short).all.map _

theorem wellFormed_of_parse {algorithm : KeyExchangeAlgorithm} {input rest : Bytes} {exchange : ServerKeyExchange}
    (parsed : ServerKeyExchange.parse algorithm input = .ok (exchange, rest)) : WellFormed algorithm exchange := by
  cases algorithm with
  | eecdh =>
      rcases map_eq_ok.mp parsed with ⟨params, isParams, rfl⟩
      rcases bind_eq_ok.mp isParams with ⟨curve, _, isCurve, parsed⟩
      rcases bind_eq_ok.mp parsed with ⟨group, _, isGroup, parsed⟩
      rcases bind_eq_ok.mp parsed with ⟨len, _, _, parsed⟩
      rcases bind_eq_ok.mp parsed with ⟨key, _, isKey, parsed⟩
      rcases bind_eq_ok.mp parsed with ⟨signature, _, isSignature, parsed⟩
      rcases pure_eq_ok.mp parsed with ⟨rfl, rfl⟩
      refine .ecdh (Coding.parse8_eq_ok isCurve).1 (Coding.parse16_eq_ok isGroup).1 ?_ ?_
      · dsimp only
        rw [(take_length isKey).2]
        exact len.toNat_lt
      · rintro signed rfl
        exact wellFormed_of_parseSignature isSignature
  | psk =>
      rcases map_eq_ok.mp parsed with ⟨hint, isHint, rfl⟩
      exact .psk (parseOpaque16_short isHint)
  | unknown => cases parsed

end ServerKeyExchange

namespace CertificateRequest

structure WellFormed (request : CertificateRequest) : Prop where
  someType : request.certificateTypes.items ≠ []
  types : forall kind, kind ∈ request.certificateTypes.items -> kind.isSupported = true
  algorithms : forall algorithm, algorithm ∈ request.supportedSignatureAlgorithms.items ->
    algorithm.isSupported = true
  authorities : forall name, name ∈ request.certificateAuthorities.items -> name ≠ []
  short : (request.certificateAuthorities.items.flatMap DistinguishedName.serialize).length < 256 ^ 2

theorem name_length (name : DistinguishedName) : name.serialize.length = 2 + name.length := by
  rw [DistinguishedName.serialize, serializeOpaque16, List.length_append, beBytes_length]

theorem name_reads {name : DistinguishedName} (some_byte : name ≠ []) (short : name.length < 256 ^ 2) :
    DistinguishedName.parse.Reads name.serialize name := by
  rcases reads_length16 short with ⟨readsLength, readsName⟩
  have positive : 0 < name.length := List.length_pos_iff.mpr some_byte
  have same : (UInt16.ofNat name.length).toNat = name.length := UInt16.toNat_ofNat_of_lt' short
  refine readsLength.bind ?_
  rw [if_neg (by rw [UInt16.lt_iff_toNat_lt, same]; exact Nat.not_lt.mpr positive)]
  exact readsName

theorem name_of_parse {input rest : Bytes} {name : DistinguishedName}
    (parsed : DistinguishedName.parse input = .ok (name, rest)) :
    input.length = name.serialize.length + rest.length ∧ name ≠ [] := by
  rcases bind_eq_ok.mp parsed with ⟨len, _, isLen, parsed⟩
  split at parsed
  · cases parsed
  · rename_i positive
    rcases take_length parsed with ⟨size, same⟩
    have lenSize := beU16_length isLen
    rw [name_length]
    refine ⟨by omega, ?_⟩
    rintro rfl
    rw [UInt16.lt_iff_toNat_lt] at positive
    rw [List.length_nil] at same
    exact positive (by rw [← same]; decide)

theorem WellFormed.reads {request : CertificateRequest} (wellFormed : request.WellFormed) :
    CertificateRequest.parse.Reads request.serialize request := by
  have types := Coding.writes8 (fun _ => ClientCertificateType.canonical_of_supported) wellFormed.types
  have algorithms := Coding.writes16 (fun _ => SignatureAndHashAlgorithm.canonical_of_supported) wellFormed.algorithms
  have names : Parser.Writes DistinguishedName.parse (fun _ => true) DistinguishedName.serialize
      request.certificateAuthorities.items := by
    refine ⟨fun name isMember => name_reads (wellFormed.authorities name isMember) ?_, fun name _ contrary => ?_,
      fun _ _ => rfl⟩
    · have part := List.sublist_flatten_of_mem (List.mem_map_of_mem (f := DistinguishedName.serialize) isMember)
      have size := part.length_le
      rw [← List.flatMap_def, name_length] at size
      have short := wellFormed.short
      omega
    · have sized := congrArg List.length contrary
      rw [name_length] at sized
      cases Nat.eq_zero_of_add_eq_zero_right sized
  have typesShort :
      (request.certificateTypes.items.flatMap ClientCertificateType.coding.bytes8).length < 256 := by
    rw [Coding.bytes8_length]
    have := request.certificateTypes.fits
    omega
  have algorithmsShort :
      (request.supportedSignatureAlgorithms.items.flatMap SignatureAndHashAlgorithm.coding.bytes16).length <
        256 ^ 2 := by
    rw [Coding.bytes16_length]
    have := request.supportedSignatureAlgorithms.fits
    omega
  rcases reads_length8 typesShort with ⟨readsTypesLength, readsTypes⟩
  rcases reads_length16 algorithmsShort with ⟨readsAlgorithmsLength, readsAlgorithms⟩
  rcases reads_length16 wellFormed.short with ⟨readsNamesLength, readsNames⟩
  rw [Coding.bytes8_length] at readsTypesLength readsTypes
  rw [Coding.bytes16_length] at readsAlgorithmsLength readsAlgorithms
  unfold CertificateRequest.parse CertificateRequest.serialize
  refine readsTypesLength.bind ?_
  refine readsTypes.bind ?_
  refine (whole_many1_reads types wellFormed.someType _).skip ?_
  refine readsAlgorithmsLength.bind ?_
  refine readsAlgorithms.bind ?_
  refine (whole_many0_reads algorithms _).skip ?_
  refine readsNamesLength.bind ?_
  refine readsNames.then ?_
  exact (untilEmpty_reads names).then (reads_pure _)

theorem wellFormed_of_parse {input rest : Bytes} {request : CertificateRequest}
    (parsed : CertificateRequest.parse input = .ok (request, rest)) : request.WellFormed := by
  rcases bind_eq_ok.mp parsed with ⟨_, _, _, parsed⟩
  rcases bind_eq_ok.mp parsed with ⟨_, _, _, parsed⟩
  rcases bind_eq_ok.mp parsed with ⟨types, _, isTypes, parsed⟩
  rcases bind_eq_ok.mp parsed with ⟨_, _, _, parsed⟩
  rcases bind_eq_ok.mp parsed with ⟨_, _, _, parsed⟩
  rcases bind_eq_ok.mp parsed with ⟨algorithms, _, isAlgorithms, parsed⟩
  rcases bind_eq_ok.mp parsed with ⟨len, _, _, parsed⟩
  rcases bind_eq_ok.mp parsed with ⟨data, _, isData, parsed⟩
  rcases bind_eq_ok.mp parsed with ⟨names, _, isNames, parsed⟩
  rcases pure_eq_ok.mp parsed with ⟨rfl, rfl⟩
  rcases many1_kept (whole_eq_ok.mp isTypes).1 with ⟨someType, supportedTypes⟩
  have supportedAlgorithms := many0_kept (whole_eq_ok.mp isAlgorithms).1
  rcases untilEmpty_kept (fun name => name ≠ []) (fun _ _ _ read => (name_of_parse read).1)
    (fun _ _ _ read => (name_of_parse read).2) isNames with ⟨kept, bounded⟩
  have same := (take_length isData).2
  have small := len.toNat_lt
  refine ⟨someType, supportedTypes, supportedAlgorithms, fun name isMember => (kept name isMember).2, ?_⟩
  dsimp only
  omega

end CertificateRequest

namespace ClientKeyExchange

inductive WellFormed : KeyExchangeAlgorithm -> ClientKeyExchange -> Prop
  | ecdh {publicKey : Bytes} (short : publicKey.length < 256) :
      WellFormed .eecdh (.ecdh .namedCurve .secp256r1 publicKey)
  | psk {identity : Bytes} (short : identity.length < 256 ^ 2) : WellFormed .psk (.psk identity)

theorem WellFormed.reads {algorithm : KeyExchangeAlgorithm} {exchange : ClientKeyExchange}
    (wellFormed : WellFormed algorithm exchange) :
    (ClientKeyExchange.parse algorithm).Reads exchange.serialize exchange := by
  cases wellFormed with
  | ecdh short =>
      rcases reads_length8 short with ⟨readsLength, readsKey⟩
      exact readsLength.bind (readsKey.then (reads_pure _))
  | psk short => exact (reads_opaque16 short).map _

theorem wellFormed_of_parse {algorithm : KeyExchangeAlgorithm} {input rest : Bytes} {exchange : ClientKeyExchange}
    (parsed : ClientKeyExchange.parse algorithm input = .ok (exchange, rest)) : WellFormed algorithm exchange := by
  cases algorithm with
  | eecdh =>
      rcases bind_eq_ok.mp parsed with ⟨len, _, _, parsed⟩
      rcases bind_eq_ok.mp parsed with ⟨key, _, isKey, parsed⟩
      rcases pure_eq_ok.mp parsed with ⟨rfl, rfl⟩
      refine .ecdh ?_
      rw [(take_length isKey).2]
      exact len.toNat_lt
  | psk =>
      rcases map_eq_ok.mp parsed with ⟨identity, isIdentity, rfl⟩
      exact .psk (parseOpaque16_short isIdentity)
  | unknown => cases parsed

end ClientKeyExchange

/-! ## Any body -/

namespace Body

/-- The bodies that are read back under a message type and a cipher suite. -/
inductive WellFormed (cipherSuite : Option Dtls12CipherSuite) : MessageType -> Body -> Prop
  | helloRequest : WellFormed cipherSuite .helloRequest .helloRequest
  | clientHello {hello : ClientHello} : hello.WellFormed -> WellFormed cipherSuite .clientHello (.clientHello hello)
  | helloVerifyRequest {request : HelloVerifyRequest} : request.WellFormed ->
      WellFormed cipherSuite .helloVerifyRequest (.helloVerifyRequest request)
  | serverHello {hello : ServerHello} : hello.WellFormed -> WellFormed cipherSuite .serverHello (.serverHello hello)
  | certificate {list : Certificate} : list.WellFormed -> WellFormed cipherSuite .certificate (.certificate list)
  | serverKeyExchange {suite : Dtls12CipherSuite} {exchange : ServerKeyExchange} : cipherSuite = some suite ->
      exchange.WellFormed suite.asKeyExchangeAlgorithm ->
      WellFormed cipherSuite .serverKeyExchange (.serverKeyExchange exchange)
  | certificateRequest {request : CertificateRequest} : request.WellFormed ->
      WellFormed cipherSuite .certificateRequest (.certificateRequest request)
  | serverHelloDone : WellFormed cipherSuite .serverHelloDone .serverHelloDone
  | certificateVerify {signed : DigitallySigned} : signed.WellFormed ->
      WellFormed cipherSuite .certificateVerify (.certificateVerify signed)
  | clientKeyExchange {suite : Dtls12CipherSuite} {exchange : ClientKeyExchange} : cipherSuite = some suite ->
      exchange.WellFormed suite.asKeyExchangeAlgorithm ->
      WellFormed cipherSuite .clientKeyExchange (.clientKeyExchange exchange)
  | newSessionTicket (ticket : Bytes) : WellFormed cipherSuite .newSessionTicket (.newSessionTicket ticket)
  | finished {suite : Dtls12CipherSuite} {verifyData : Bytes} : cipherSuite = some suite ->
      verifyData.length = suite.verifyDataLength -> WellFormed cipherSuite .finished (.finished verifyData)

theorem WellFormed.reads {cipherSuite : Option Dtls12CipherSuite} {msgType : MessageType} {body : Body}
    (wellFormed : WellFormed cipherSuite msgType body) :
    (Body.parse msgType cipherSuite).ReadsAll body.serialize body := by
  cases wellFormed with
  | helloRequest => exact (reads_pure _).all
  | clientHello hello => exact hello.reads.map _
  | helloVerifyRequest request => exact request.reads.all.map _
  | serverHello hello => exact hello.reads.map _
  | certificate list => exact list.reads.all.map _
  | serverKeyExchange isSuite exchange =>
      subst isSuite
      exact exchange.reads.map _
  | certificateRequest request => exact request.reads.all.map _
  | serverHelloDone => exact (reads_pure _).all
  | certificateVerify signed => exact signed.reads.all.map _
  | clientKeyExchange isSuite exchange =>
      subst isSuite
      exact exchange.reads.all.map _
  | newSessionTicket ticket => rfl
  | finished isSuite sized =>
      subst isSuite
      exact (reads_take_of sized).all.map _

/-- A hello of the server that lists unsupported extensions only. -/
def Bare : Body -> Prop
  | .serverHello hello => hello.Bare
  | _ => False

theorem withSuite_eq_ok {α : Type} {cipherSuite : Option Dtls12CipherSuite} {next : Dtls12CipherSuite -> Parser α}
    {input : Bytes} {outcome : α × Bytes} (parsed : withSuite cipherSuite next input = .ok outcome) :
    exists suite, cipherSuite = some suite ∧ next suite input = .ok outcome := by
  cases cipherSuite with
  | none => cases parsed
  | some suite => exact ⟨suite, rfl, parsed⟩

theorem wellFormed_of_parse {cipherSuite : Option Dtls12CipherSuite} {msgType : MessageType} {body : Body}
    {input rest : Bytes} (named : forall value, msgType ≠ .unknown value)
    (parsed : Body.parse msgType cipherSuite input = .ok (body, rest)) (notBare : ¬ body.Bare) :
    WellFormed cipherSuite msgType body := by
  cases msgType with
  | helloRequest =>
      rw [(pure_eq_ok.mp parsed).1]
      exact .helloRequest
  | clientHello =>
      rcases map_eq_ok.mp parsed with ⟨hello, isHello, rfl⟩
      exact .clientHello (ClientHello.wellFormed_of_parse isHello)
  | helloVerifyRequest =>
      rcases map_eq_ok.mp parsed with ⟨request, isRequest, rfl⟩
      exact .helloVerifyRequest (HelloVerifyRequest.wellFormed_of_parse isRequest)
  | serverHello =>
      rcases map_eq_ok.mp parsed with ⟨hello, isHello, rfl⟩
      exact .serverHello ((ServerHello.of_parse isHello).2 notBare)
  | certificate =>
      rcases map_eq_ok.mp parsed with ⟨list, isList, rfl⟩
      exact .certificate (Certificate.wellFormed_of_parse isList)
  | serverKeyExchange =>
      rcases withSuite_eq_ok parsed with ⟨suite, isSuite, parsed⟩
      rcases map_eq_ok.mp parsed with ⟨exchange, isExchange, rfl⟩
      exact .serverKeyExchange isSuite (ServerKeyExchange.wellFormed_of_parse isExchange)
  | certificateRequest =>
      rcases map_eq_ok.mp parsed with ⟨request, isRequest, rfl⟩
      exact .certificateRequest (CertificateRequest.wellFormed_of_parse isRequest)
  | serverHelloDone =>
      rw [(pure_eq_ok.mp parsed).1]
      exact .serverHelloDone
  | certificateVerify =>
      rcases map_eq_ok.mp parsed with ⟨signed, isSigned, rfl⟩
      exact .certificateVerify (DigitallySigned.wellFormed_of_parse isSigned)
  | clientKeyExchange =>
      rcases withSuite_eq_ok parsed with ⟨suite, isSuite, parsed⟩
      rcases map_eq_ok.mp parsed with ⟨exchange, isExchange, rfl⟩
      exact .clientKeyExchange isSuite (ClientKeyExchange.wellFormed_of_parse isExchange)
  | newSessionTicket =>
      cases parsed
      exact .newSessionTicket _
  | finished =>
      rcases withSuite_eq_ok parsed with ⟨suite, isSuite, parsed⟩
      rcases map_eq_ok.mp parsed with ⟨verifyData, isData, rfl⟩
      exact .finished isSuite (take_length isData).2
  | unknown value => exact absurd rfl (named value)

theorem Bare.not_reads {cipherSuite : Option Dtls12CipherSuite} {msgType : MessageType} {body : Body}
    (bare : body.Bare) : ¬ (Body.parse msgType cipherSuite).ReadsAll body.serialize body := by
  intro reads
  cases body with
  | serverHello hello =>
      cases msgType with
      | serverHello =>
          rcases map_eq_ok.mp reads with ⟨found, isFound, same⟩
          cases same
          exact ServerHello.Bare.not_reads bare isFound
      | helloRequest => cases (pure_eq_ok.mp reads).1
      | serverHelloDone => cases (pure_eq_ok.mp reads).1
      | unknown value => cases (pure_eq_ok.mp reads).1
      | newSessionTicket => cases reads
      | serverKeyExchange =>
          rcases withSuite_eq_ok reads with ⟨_, _, reads⟩
          rcases map_eq_ok.mp reads with ⟨_, _, same⟩
          cases same
      | clientKeyExchange =>
          rcases withSuite_eq_ok reads with ⟨_, _, reads⟩
          rcases map_eq_ok.mp reads with ⟨_, _, same⟩
          cases same
      | finished =>
          rcases withSuite_eq_ok reads with ⟨_, _, reads⟩
          rcases map_eq_ok.mp reads with ⟨_, _, same⟩
          cases same
      | _ =>
          rcases map_eq_ok.mp reads with ⟨_, _, same⟩
          cases same
  | _ => exact bare

/-- Every well-formed body is read back from what it is serialized to, nothing
being left over.  Whatever bytes a named message type accepts, the body it
makes of them is read back from its own serialization exactly when it is not a
hello of the server that lists unsupported extensions only. -/
theorem body_round_trip (cipherSuite : Option Dtls12CipherSuite) (msgType : MessageType) (body : Body) :
    (WellFormed cipherSuite msgType body -> Body.parse msgType cipherSuite body.serialize = .ok (body, [])) ∧
      forall input rest, (forall value, msgType ≠ .unknown value) ->
        Body.parse msgType cipherSuite input = .ok (body, rest) ->
        (Body.parse msgType cipherSuite body.serialize = .ok (body, []) <-> ¬ body.Bare) := by
  refine ⟨fun wellFormed => wellFormed.reads, fun input rest named parsed => ⟨?_, ?_⟩⟩
  · intro reads bare
    exact bare.not_reads reads
  · intro notBare
    exact (wellFormed_of_parse named parsed notBare).reads

/-- A chain of two certificates. -/
def chain : Body := .certificate ⟨⟨[[3, 1, 4], [1, 5]], Nat.le_of_ble_eq_true rfl⟩⟩

theorem chain_round_trip :
    Body.parse .certificate none chain.serialize = .ok (chain, []) ∧ ¬ chain.Bare := by
  have reads : Body.parse .certificate none chain.serialize = .ok (chain, []) :=
    (body_round_trip none .certificate chain).1 (.certificate ⟨by decide⟩)
  exact ⟨reads, ((body_round_trip none .certificate chain).2 _ _ (fun _ contrary => by cases contrary) reads).mp reads⟩

end Body

end Dtls
end P2pSdk
