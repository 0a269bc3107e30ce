import P2pSdk.Ice.Ipv6Candidates
import P2pSdk.Transport.Udp

namespace P2pSdk

open Foundation

/-!
# Two spellings of an IPv6 address

The STUN codec prints the eight groups of an address.  The standard library,
which prints the sender of a datagram, leaves out the longest run of zero
groups.  Both texts are read as the same address, unless it is an IPv4 address
mapped into IPv6.  They are the same text exactly when no two neighbouring
groups are zero; for every other address the agent does not find the candidate
that a datagram comes from.
-/

/-! ## Runs of zeros -/

/-- A run of a list, given by its start and its length, is all zeros. -/
def IsZeroRun (segments : List Nat) (run : Nat × Nat) : Prop :=
  List.replicate run.2 0 <+: segments.drop run.1

/-- The run at the end of what has been scanned. -/
def IsOpenRun (scanned : List Nat) (run : Nat × Nat) : Prop :=
  run.2 ≠ 0 -> exists front, scanned = front ++ List.replicate run.2 0 ∧ front.length = run.1

/-- The open run with one more zero. -/
def extendRun (i : Nat) (current : Nat × Nat) : Nat × Nat :=
  (if current.2 = 0 then i else current.1, current.2 + 1)

theorem IsOpenRun.extend {scanned : List Nat} {current : Nat × Nat} (isOpen : IsOpenRun scanned current) :
    IsOpenRun (scanned ++ [0]) (extendRun scanned.length current) := by
  intro _
  by_cases closed : current.2 = 0
  · refine ⟨scanned, ?_, (if_pos closed).symm⟩
    rw [extendRun, closed]
    rfl
  · rcases isOpen closed with ⟨front, isScanned, isStart⟩
    refine ⟨front, ?_, isStart.trans (if_neg closed).symm⟩
    rw [isScanned, extendRun, List.replicate_succ', List.append_assoc]

theorem IsOpenRun.isZeroRun {scanned : List Nat} {run : Nat × Nat} (isOpen : IsOpenRun scanned run)
    (segments : List Nat) : IsZeroRun (scanned ++ segments) run := by
  by_cases closed : run.2 = 0
  · rw [IsZeroRun, closed]
    exact List.nil_prefix
  · rcases isOpen closed with ⟨front, isScanned, isStart⟩
    rw [IsZeroRun, isScanned, List.append_assoc, ← isStart, List.drop_left]
    exact List.prefix_append _ _

theorem longestZeros_zero (i : Nat) (longest current : Nat × Nat) (segments : List Nat) :
    IpAddress.longestZeros i longest current (0 :: segments) =
      IpAddress.longestZeros (i + 1)
        (if longest.2 < (extendRun i current).2 then extendRun i current else longest)
        (extendRun i current) segments :=
  rfl

theorem longestZeros_other {segment : Nat} (other : segment ≠ 0) (i : Nat) (longest current : Nat × Nat)
    (segments : List Nat) :
    IpAddress.longestZeros i longest current (segment :: segments) =
      IpAddress.longestZeros (i + 1) longest (0, 0) segments :=
  if_neg other

/-- The scan keeps a run of zeros. -/
theorem isZeroRun_longestZeros {segments : List Nat} :
    forall {scanned : List Nat} {longest current : Nat × Nat},
      IsZeroRun (scanned ++ segments) longest -> IsOpenRun scanned current ->
      IsZeroRun (scanned ++ segments) (IpAddress.longestZeros scanned.length longest current segments) := by
  induction segments with
  | nil => exact fun isRun _ => isRun
  | cons segment segments later =>
      intro scanned longest current isRun isOpen
      have whole : (scanned ++ [segment]) ++ segments = scanned ++ segment :: segments :=
        List.append_assoc _ _ _
      have size : (scanned ++ [segment]).length = scanned.length + 1 := List.length_append
      by_cases zero : segment = 0
      · subst zero
        have extended := isOpen.extend
        rw [longestZeros_zero, ← size, ← whole]
        refine later ?_ extended
        split_ifs
        · exact extended.isZeroRun segments
        · exact whole ▸ isRun
      · rw [longestZeros_other zero, ← size, ← whole]
        exact later (whole ▸ isRun) (fun contrary => absurd rfl contrary)

/-- The longer of two runs is kept. -/
theorem le_keptRun (longest current : Nat × Nat) :
    longest.2 ≤ (if longest.2 < current.2 then current else longest).2 ∧
      current.2 ≤ (if longest.2 < current.2 then current else longest).2 := by
  split_ifs with longer
  · exact ⟨longer.le, Nat.le_refl _⟩
  · exact ⟨Nat.le_refl _, Nat.le_of_not_lt longer⟩

theorem le_longestZeros {segments : List Nat} : forall (i : Nat) (longest current : Nat × Nat),
    longest.2 ≤ (IpAddress.longestZeros i longest current segments).2 := by
  induction segments with
  | nil => exact fun _ _ _ => Nat.le_refl _
  | cons segment segments later =>
      intro i longest current
      by_cases zero : segment = 0
      · subst zero
        rw [longestZeros_zero]
        exact (le_keptRun _ _).1.trans (later _ _ _)
      · rw [longestZeros_other zero]
        exact later _ _ _

/-- Two neighbouring zeros are no less than the longest run. -/
theorem two_le_longestZeros {segments : List Nat} (pair : [0, 0] <:+: segments) :
    forall (i : Nat) (longest current : Nat × Nat),
      2 ≤ (IpAddress.longestZeros i longest current segments).2 := by
  induction segments with
  | nil => exact absurd (List.infix_nil.mp pair) (List.cons_ne_nil _ _)
  | cons segment segments later =>
      intro i longest current
      rcases List.infix_cons_iff.mp pair with ⟨rest, here⟩ | there
      · cases here
        show 2 ≤ (IpAddress.longestZeros i longest current (0 :: 0 :: rest)).2
        rw [longestZeros_zero, longestZeros_zero]
        have size : 2 ≤ (extendRun (i + 1) (extendRun i current)).2 := Nat.le_add_left 2 current.2
        exact size.trans ((le_keptRun _ _).2.trans (le_longestZeros _ _ _))
      · by_cases zero : segment = 0
        · subst zero
          rw [longestZeros_zero]
          exact later there _ _ _
        · rw [longestZeros_other zero]
          exact later there _ _ _

/-- What the printer looks for in an address. -/
theorem longestZeros_spec (segments : List Nat) :
    IsZeroRun segments (IpAddress.longestZeros 0 (0, 0) (0, 0) segments) ∧
      (1 < (IpAddress.longestZeros 0 (0, 0) (0, 0) segments).2 <-> [0, 0] <:+: segments) := by
  have isRun : IsZeroRun segments (IpAddress.longestZeros 0 (0, 0) (0, 0) segments) :=
    @isZeroRun_longestZeros segments [] (0, 0) (0, 0) List.nil_prefix (fun contrary => absurd rfl contrary)
  refine ⟨isRun, ?_, fun pair => two_le_longestZeros pair 0 (0, 0) (0, 0)⟩
  intro long
  rcases Nat.exists_eq_add_of_le long with ⟨more, size⟩
  have pair : [0, 0] <+: List.replicate (IpAddress.longestZeros 0 (0, 0) (0, 0) segments).2 0 := by
    rw [size, List.replicate_add]
    exact List.prefix_append (List.replicate 2 0) _
  exact (pair.trans isRun).isInfix.trans (List.drop_suffix _ _).isInfix

/-! ## What is printed is read back -/

theorem fmtSubslice_take (bytes : Bytes) (count : Nat) :
    IpAddress.fmtSubslice ((IpAddress.segments bytes).take count) =
      joinGroups ((printedGroups bytes).take count) := by
  rw [IpAddress.fmtSubslice, IpAddress.segments, joinGroups, printedGroups, ← List.map_take,
    ← List.map_take, List.map_map, List.map_map]
  rfl

theorem fmtSubslice_drop (bytes : Bytes) (count : Nat) :
    IpAddress.fmtSubslice ((IpAddress.segments bytes).drop count) =
      joinGroups ((printedGroups bytes).drop count) := by
  rw [IpAddress.fmtSubslice, IpAddress.segments, joinGroups, printedGroups, ← List.map_drop,
    ← List.map_drop, List.map_map, List.map_map]
  rfl

/-- An address whose run of zeros is left out is read with the run. -/
theorem groupBytes_fillRun {bytes : Bytes} (sized : bytes.length = 16) {run : Nat × Nat}
    (isRun : IsZeroRun (IpAddress.segments bytes) run) (inside : run.1 + run.2 ≤ 8) :
    groupBytes (fillGroups ((printedGroups bytes).take run.1)
      ((printedGroups bytes).drop (run.1 + run.2))) = bytes := by
  have missing : 8 - ((printedGroups bytes).take run.1).length -
      ((printedGroups bytes).drop (run.1 + run.2)).length = run.2 := by
    rw [List.length_take, List.length_drop, printedGroups_length]
    omega
  have zero : HexGroup.zero.value = 0 := rfl
  rcases isRun with ⟨rest, isRest⟩
  have behind : (IpAddress.segments bytes).drop (run.1 + run.2) = rest := by
    rw [← List.drop_drop, ← isRest, List.drop_left' List.length_replicate]
  have values : (fillGroups ((printedGroups bytes).take run.1)
      ((printedGroups bytes).drop (run.1 + run.2))).map HexGroup.value = IpAddress.segments bytes := by
    have printed : (printedGroups bytes).map HexGroup.value = IpAddress.segments bytes :=
      printedGroups_values bytes
    rw [fillGroups, missing, List.map_append, List.map_append, List.map_take, List.map_drop,
      List.map_replicate, printed, zero, behind, List.append_assoc, isRest, List.take_append_drop]
  rw [groupBytes_eq, values, IpAddress.segments, List.flatMap_map]
  exact flatMap_pairAt 8 sized

/-- A run of zeros lies inside the list. -/
theorem IsZeroRun.inside {segments : List Nat} {run : Nat × Nat} (isRun : IsZeroRun segments run)
    (present : run.2 ≠ 0) : run.1 + run.2 ≤ segments.length := by
  have size := isRun.length_le
  rw [List.length_replicate, List.length_drop] at size
  omega

/-- The address is an IPv4 address in IPv6, which is printed as one. -/
def IsMapped (bytes : Bytes) : Prop := (IpAddress.segments bytes).take 6 = [0, 0, 0, 0, 0, 0xffff]

/-- How an address that is not mapped is printed. -/
theorem ipv6Display_cases {bytes : Bytes} (notMapped : ¬ IsMapped bytes) :
    (PairFree 0 0 (IpAddress.segments bytes) ∧ IpAddress.ipv6Display bytes = ipv6ToString bytes) ∨
      exists run, IsZeroRun (IpAddress.segments bytes) run ∧ run.1 + run.2 ≤ 8 ∧
        ¬ PairFree 0 0 (IpAddress.segments bytes) ∧
        IpAddress.ipv6Display bytes = joinGroups ((printedGroups bytes).take run.1) ++ "::" ++
          joinGroups ((printedGroups bytes).drop (run.1 + run.2)) := by
  rcases longestZeros_spec (IpAddress.segments bytes) with ⟨isRun, long_iff⟩
  have eight : (IpAddress.segments bytes).length = 8 := by
    rw [IpAddress.segments, List.length_map, List.length_range]
  have isText : IpAddress.ipv6Display bytes = _ := if_neg notMapped
  rw [isText, pairFree_iff, ← long_iff]
  dsimp only
  by_cases long : 1 < (IpAddress.longestZeros 0 (0, 0) (0, 0) (IpAddress.segments bytes)).2
  · have inside := isRun.inside (by omega)
    refine Or.inr ⟨_, isRun, by omega, not_not.mpr long, ?_⟩
    rw [if_pos long, fmtSubslice_take, fmtSubslice_drop]
  · refine Or.inl ⟨long, ?_⟩
    rw [if_neg long, ipv6ToString_eq_fmtSubslice]

/-- What the standard library prints is read by the STUN codec. -/
theorem ipv6ToBytes_ipv6Display {bytes : Bytes} (sized : bytes.length = 16) (notMapped : ¬ IsMapped bytes) :
    ipv6ToBytes (IpAddress.ipv6Display bytes) = .ok bytes := by
  rcases ipv6Display_cases notMapped with ⟨_, isText⟩ | ⟨run, isRun, inside, _, isText⟩
  · rw [isText, ipv6ToBytes_ipv6ToString sized]
  · have fits : ((printedGroups bytes).take run.1).length +
        ((printedGroups bytes).drop (run.1 + run.2)).length ≤ 8 := by
      rw [List.length_take, List.length_drop, printedGroups_length]
      omega
    rw [isText, ipv6ToBytes_compressed fits, groupBytes_fillRun sized isRun inside]

/-- The two printers agree where no two neighbouring groups are zero. -/
theorem ipv6Display_eq_iff {bytes : Bytes} (notMapped : ¬ IsMapped bytes) :
    IpAddress.ipv6Display bytes = ipv6ToString bytes <-> PairFree 0 0 (IpAddress.segments bytes) := by
  rcases ipv6Display_cases notMapped with ⟨free, isText⟩ | ⟨run, _, _, notFree, isText⟩
  · exact iff_of_true isText free
  · refine iff_of_false ?_ notFree
    intro same
    have colons : PairFree ':' ':' (ipv6ToString bytes).toList := by
      rw [ipv6ToString_eq, joinGroups_toList]
      exact pairFree_intercalate (areWords _)
    apply pairFree_iff.mp colons
    rw [← same, isText, String.toList_append, String.toList_append]
    exact ⟨_, _, rfl⟩

/-! ## Candidates and senders -/

/-- A candidate with the address that the STUN codec prints, and the sender that
the socket reports for the same address: they are matched, as duplicates and as
the two ends of a pair, exactly when no two neighbouring groups are zero. -/
theorem reflexive_sender_matched_iff (crypto : Crypto) (ids : Nat -> TransactionId) (isControlling : Bool)
    (seed : AgentSeed) {bytes : Bytes} (sized : bytes.length = 16) (notMapped : ¬ IsMapped bytes)
    (port : UInt16) :
    (MakesDuplicate crypto ids isControlling seed (ipv6ToString bytes) (IpAddress.ipv6Display bytes)
        port <-> PairFree 0 0 (IpAddress.segments bytes)) ∧
    (MarksPair crypto ids isControlling seed (ipv6ToString bytes) (IpAddress.ipv6Display bytes) port <->
      PairFree 0 0 (IpAddress.segments bytes)) := by
  have same : ipv6ToBytes (ipv6ToString bytes) = ipv6ToBytes (IpAddress.ipv6Display bytes) := by
    rw [ipv6ToBytes_ipv6ToString sized, ipv6ToBytes_ipv6Display sized notMapped]
  rw [makesDuplicate_iff crypto ids isControlling seed same port,
    marksPair_iff crypto ids isControlling seed same port, eq_comm, ipv6Display_eq_iff notMapped]
  exact ⟨Iff.rfl, Iff.rfl⟩

end P2pSdk
