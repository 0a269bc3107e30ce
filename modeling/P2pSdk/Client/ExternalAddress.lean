import P2pSdk.Core.Sdp
import P2pSdk.Foundation.History
import P2pSdk.Foundation.Threads
import P2pSdk.Ice.AgentRun
import P2pSdk.Ice.AgentSpec
import P2pSdk.Stun.Message

namespace P2pSdk

open Foundation

/-!
# The external address in an offer (`client.rs`)

The background thread of a call to `connect` asks the STUN server for the
external address of one socket and then opens another one for ICE.  What the
server has told goes into two fields of `ClientInner`, under two blocks, and
stays there: the offer of a later call reads it even when its own query failed.

Each socket has an external address of its own.  A memory beside the state keeps
which sockets the cached address and port were asked for.  The offer advertises
the address of the ICE socket only if those sockets happen to share it.
-/

/-! ## The background thread, up to its offer -/

structure NatRoute where
  stunIp : String
  stunPort : UInt16
  turnIp : String
  turnPort : UInt16
  deriving DecidableEq, Repr

/-- The fields of `ClientInner` that outlive a call. -/
structure ExternalCache where
  natRoute : Option NatRoute
  stunExternalIp : String
  stunExternalPort : UInt16
  turnRelayIp : String
  turnRelayPort : UInt16
  deriving DecidableEq, Repr

/-- An offer as it is sent, with the socket on which its call then runs ICE. -/
structure SentOffer where
  iceUdp : Nat
  candidates : List IceCandidate
  sdp : String
  deriving DecidableEq, Repr

structure GatherShared where
  cache : ExternalCache
  /-- The sockets opened so far; a socket is known by its number. -/
  sockets : Nat
  offers : List SentOffer
  deriving DecidableEq, Repr

/-- Where `connect_background` stands. -/
inductive GatherPc where
  | storeRoute
  | openUdp
  | queryStun (addrs : List String) (udp : Option Nat) (route : Option NatRoute)
  | storeStunIp (addrs : List String) (udp : Nat) (route : NatRoute) (result : StunResult)
  | storeStunPort (addrs : List String) (udp : Nat) (route : NatRoute) (result : StunResult)
  | queryTurn (addrs : List String) (udp : Option Nat) (route : Option NatRoute)
  | storeTurn (addrs : List String) (relayIp : String) (relayPort : UInt16)
  | openIceUdp (addrs : List String)
  | gather (addrs : List String) (iceUdp : Nat) (icePort : UInt16)
  | done
  deriving DecidableEq, Repr

structure GatherThread where
  natUrl : String
  odid : String
  pc : GatherPc
  deriving DecidableEq, Repr

/-- What a step gets from outside. -/
inductive GatherInput where
  | proceed
  | failed
  /-- The answers of the route service; a field is empty without one. -/
  | route (route : NatRoute)
  | opened (localAddrs : List String) (ok : Bool)
  | stun (ok : Bool)
  | turn (relay : Option (String × UInt16))
  | iceOpened (icePort : UInt16)
  | gathered (seed : AgentSeed) (timestamp : UInt64)

/-- The addresses of `local_addrs_v4`. -/
def isV4 (addr : String) : Bool := ¬ ':' ∈ addr.toList ∧ addr ≠ "127.0.0.1"

/-- `text.contains(pattern)`. -/
def textContains (text pattern : String) : Bool :=
  text.toList.tails.any fun tail => pattern.toList.isPrefixOf tail

/-- The address of the first host line that has one. -/
def defaultIp (candidates : List String) : String :=
  (candidates.findSome? fun line =>
    if textContains line "host" ∧ ¬ textContains line "::" then
      ((line.toList.splitOnP fun c => c = ' ').map String.ofList)[4]?
    else none).getD ""

/-- The agent with everything that is gathered for an offer. -/
def gatheredAgent (cache : ExternalCache) (addrs : List String) (icePort : UInt16)
    (seed : AgentSeed) : IceAgent :=
  (addrs.foldl (fun agent addr => agent.addHostCandidate addr icePort)
    (IceAgent.new true seed)).addExternal cache.stunExternalIp cache.stunExternalPort
    cache.turnRelayIp cache.turnRelayPort (addrs.head?.getD "") icePort

/-- The offer that is posted to the peer. -/
def offerOfAgent (odid : String) (iceUdp : Nat) (icePort : UInt16) (timestamp : UInt64)
    (agent : IceAgent) : SentOffer :=
  let desc := agent.localSessionDescription
  { iceUdp := iceUdp
    candidates := agent.localCandidates
    sdp := generateSdpOffer odid desc.iceUfrag desc.icePwd desc.candidates
      (defaultIp desc.candidates) icePort timestamp }

namespace GatherThread

def goto (self : GatherThread) (shared : GatherShared) (pc : GatherPc) :
    Outcome GatherShared GatherThread Unit where
  shared := shared
  thread := { self with pc := pc }
  spawned := none
  note := ()

/-- One step of `connect_background`.  `mapping` is the external address of a
socket, which a query that succeeds returns. -/
def step (mapping : Nat -> StunResult) (shared : GatherShared) (self : GatherThread)
    (input : GatherInput) : Option (Outcome GatherShared GatherThread Unit) :=
  match self.pc, input with
  | .storeRoute, .route route =>
      if self.natUrl = "" then some (self.goto shared .openUdp)
      else
        some (self.goto { shared with cache := { shared.cache with natRoute := some route } }
          .openUdp)
  | .openUdp, .opened localAddrs true =>
      some (self.goto { shared with sockets := shared.sockets + 1 }
        (.queryStun (localAddrs.filter isV4) (some shared.sockets) shared.cache.natRoute))
  | .openUdp, .opened localAddrs false =>
      some (self.goto shared (.queryStun (localAddrs.filter isV4) none shared.cache.natRoute))
  | .queryStun addrs (some udp) (some route), .stun ok =>
      if route.stunIp ≠ "" ∧ 0 < route.stunPort ∧ ok then
        some (self.goto shared (.storeStunIp addrs udp route (mapping udp)))
      else some (self.goto shared (.queryTurn addrs (some udp) (some route)))
  | .queryStun addrs udp route, .stun _ => some (self.goto shared (.queryTurn addrs udp route))
  | .storeStunIp addrs udp route result, .proceed =>
      some (self.goto { shared with cache := { shared.cache with stunExternalIp := result.ip } }
        (.storeStunPort addrs udp route result))
  | .storeStunPort addrs udp route result, .proceed =>
      some (self.goto { shared with cache := { shared.cache with stunExternalPort := result.port } }
        (.queryTurn addrs (some udp) (some route)))
  | .queryTurn addrs (some _) (some route), .turn (some (relayIp, relayPort)) =>
      if route.turnIp ≠ "" ∧ 0 < route.turnPort then
        some (self.goto shared (.storeTurn addrs relayIp relayPort))
      else some (self.goto shared (.openIceUdp addrs))
  | .queryTurn addrs _ _, .turn _ => some (self.goto shared (.openIceUdp addrs))
  | .storeTurn addrs relayIp relayPort, .proceed =>
      some (self.goto
        { shared with
          cache := { shared.cache with turnRelayIp := relayIp, turnRelayPort := relayPort } }
        (.openIceUdp addrs))
  | .openIceUdp _, .failed => some (self.goto shared .done)
  | .openIceUdp addrs, .iceOpened icePort =>
      some (self.goto { shared with sockets := shared.sockets + 1 }
        (.gather addrs shared.sockets icePort))
  -- Nothing behind this block can touch the offer any more.
  | .gather addrs iceUdp icePort, .gathered seed timestamp =>
      some (self.goto
        { shared with
          offers := shared.offers ++ [offerOfAgent self.odid iceUdp icePort timestamp
            (gatheredAgent shared.cache addrs icePort seed)] }
        .done)
  | _, _ => none

end GatherThread

/-! ## Calls on one client -/

structure GatherWorld where
  shared : GatherShared
  threads : List GatherThread
  deriving DecidableEq, Repr

inductive GatherEvent where
  | connect (natUrl odid : String)
  | thread (id : Nat) (input : GatherInput)

namespace GatherWorld

def new : GatherWorld where
  shared :=
    { cache :=
        { natRoute := none, stunExternalIp := "", stunExternalPort := 0, turnRelayIp := "",
          turnRelayPort := 0 }
      sockets := 0
      offers := [] }
  threads := []

def apply (mapping : Nat -> StunResult) (world : GatherWorld) : GatherEvent -> Option GatherWorld
  | .connect natUrl odid =>
      some { world with threads := world.threads ++ [⟨natUrl, odid, .storeRoute⟩] }
  | .thread id input =>
      match world.threads[id]? with
      | none => none
      | some thread =>
          (thread.step mapping world.shared input).map fun outcome =>
            { shared := outcome.shared, threads := threadsAfter world.threads id outcome }

end GatherWorld

/-- Calls to `connect`, one after the other or at once. -/
def gatherSystem (mapping : Nat -> StunResult) : TransitionSystem GatherWorld GatherEvent where
  initial := fun world => world = .new
  step := fun before event after => before.apply mapping event = some after

/-- What an offer should say: its server reflexive candidates have the external
address of the socket that runs ICE. -/
def SentOffer.Own (mapping : Nat -> StunResult) (offer : SentOffer) : Prop :=
  forall cand, cand ∈ offer.candidates -> cand.candidateType = .srflx ->
    (⟨cand.connectionAddress, cand.port⟩ : StunResult) = mapping offer.iceUdp

/-! ## What is remembered -/

structure CacheSources where
  /-- The socket that the cached address was asked for. -/
  ipFrom : Option Nat
  portFrom : Option Nat
  /-- An offer was gathered from the address of other sockets. -/
  strayed : Bool
  deriving DecidableEq, Repr

namespace CacheSources

def start : CacheSources where
  ipFrom := none
  portFrom := none
  strayed := false

/-- The external address that the sockets have which were asked. -/
def external (mapping : Nat -> StunResult) (sources : CacheSources) : StunResult where
  ip := (sources.ipFrom.map fun udp => (mapping udp).ip).getD ""
  port := (sources.portFrom.map fun udp => (mapping udp).port).getD 0

/-- Nothing was asked yet, or the sockets that were asked share the address of
the one that runs ICE. -/
def Fits (mapping : Nat -> StunResult) (sources : CacheSources) (iceUdp : Nat) : Prop :=
  (sources.external mapping).ip = "" ∨ sources.external mapping = mapping iceUdp

instance (mapping : Nat -> StunResult) (sources : CacheSources) (iceUdp : Nat) :
    Decidable (sources.Fits mapping iceUdp) :=
  inferInstanceAs (Decidable (_ ∨ _))

/-- What a step of a thread adds to the memory. -/
def afterStep (mapping : Nat -> StunResult) (sources : CacheSources) : GatherPc -> CacheSources
  | .storeStunIp _ udp _ _ => { sources with ipFrom := some udp }
  | .storeStunPort _ udp _ _ => { sources with portFrom := some udp }
  | .gather _ iceUdp _ =>
      { sources with strayed := sources.strayed || !decide (sources.Fits mapping iceUdp) }
  | _ => sources

end CacheSources

def cacheSources (mapping : Nat -> StunResult) :
    Recorder GatherWorld GatherEvent CacheSources where
  start := .start
  record := fun before event _ sources =>
    match event with
    | .connect _ _ => sources
    | .thread id _ =>
        match before.threads[id]? with
        | none => sources
        | some thread => sources.afterStep mapping thread.pc

/-! ## What an offer says -/

theorem addHostCandidates_host (icePort : UInt16) (addrs : List String) (agent : IceAgent)
    (onlyHosts : forall cand, cand ∈ agent.localCandidates -> cand.candidateType = .host) :
    forall cand, cand ∈ (addrs.foldl (fun agent addr => agent.addHostCandidate addr icePort)
      agent).localCandidates -> cand.candidateType = .host := by
  induction addrs generalizing agent with
  | nil => exact onlyHosts
  | cons addr rest ih =>
      refine ih (agent.addHostCandidate addr icePort) ?_
      intro cand member
      rcases List.mem_append.mp member with old | new
      · exact onlyHosts cand old
      · rw [List.mem_singleton.mp new]

/-- The candidates behind the others. -/
theorem IceAgent.addExternal_localCandidates (agent : IceAgent) (stunIp : String)
    (stunPort : UInt16) (relayIp : String) (relayPort : UInt16) (localAddr : String)
    (localPort : UInt16) :
    (agent.addExternal stunIp stunPort relayIp relayPort localAddr localPort).localCandidates =
      agent.localCandidates ++
        (if stunIp = "" then [] else [srflxCandidate stunIp stunPort localAddr localPort]) ++
        (if relayIp = "" then [] else [relayCandidate relayIp relayPort stunIp stunPort]) := by
  unfold addExternal
  by_cases noStun : stunIp = ""
  · by_cases noRelay : relayIp = ""
    · rw [if_pos noStun, if_pos noStun, if_pos noRelay, if_pos noRelay, List.append_nil,
        List.append_nil]
    · rw [if_pos noStun, if_pos noStun, if_neg noRelay, if_neg noRelay, List.append_nil]
      rfl
  · by_cases noRelay : relayIp = ""
    · rw [if_neg noStun, if_neg noStun, if_pos noRelay, if_pos noRelay, List.append_nil]
      rfl
    · rw [if_neg noStun, if_neg noStun, if_neg noRelay, if_neg noRelay]
      rfl

/-- An offer says what is cached, if anything is. -/
theorem own_offerOfAgent (mapping : Nat -> StunResult) (odid : String) (cache : ExternalCache)
    (addrs : List String) (iceUdp : Nat) (icePort : UInt16) (seed : AgentSeed)
    (timestamp : UInt64) :
    (offerOfAgent odid iceUdp icePort timestamp
      (gatheredAgent cache addrs icePort seed)).Own mapping <->
      cache.stunExternalIp = "" ∨
        (⟨cache.stunExternalIp, cache.stunExternalPort⟩ : StunResult) = mapping iceUdp := by
  have hosts := addHostCandidates_host icePort addrs (IceAgent.new true seed)
    (fun cand contrary => (by cases contrary))
  have isCandidates := IceAgent.addExternal_localCandidates
    (addrs.foldl (fun agent addr => agent.addHostCandidate addr icePort) (IceAgent.new true seed))
    cache.stunExternalIp cache.stunExternalPort cache.turnRelayIp cache.turnRelayPort
    (addrs.head?.getD "") icePort
  constructor
  · intro own
    by_cases empty : cache.stunExternalIp = ""
    · exact Or.inl empty
    · refine Or.inr (own (srflxCandidate cache.stunExternalIp cache.stunExternalPort
        (addrs.head?.getD "") icePort) ?_ rfl)
      change _ ∈ (gatheredAgent cache addrs icePort seed).localCandidates
      rw [gatheredAgent, isCandidates, if_neg empty]
      exact List.mem_append_left _ (List.mem_append_right _ List.mem_cons_self)
  · intro cached cand member isSrflx
    change cand ∈ (gatheredAgent cache addrs icePort seed).localCandidates at member
    rw [gatheredAgent, isCandidates] at member
    rcases List.mem_append.mp member with others | relay
    · rcases List.mem_append.mp others with host | srflx
      · cases (hosts cand host).symm.trans isSrflx
      · rcases cached with empty | fits
        · rw [if_pos empty] at srflx
          cases srflx
        · split_ifs at srflx
          · cases srflx
          · rw [List.mem_singleton.mp srflx]
            exact fits
    · split_ifs at relay
      · cases relay
      · rw [List.mem_singleton.mp relay] at isSrflx
        cases isSrflx

/-! ## The invariant -/

variable {mapping : Nat -> StunResult}

/-- A query result on its way into the cache is the address of the socket asked. -/
def GatherThread.Honest (mapping : Nat -> StunResult) (thread : GatherThread) : Prop :=
  match thread.pc with
  | .storeStunIp _ udp _ result | .storeStunPort _ udp _ result => result = mapping udp
  | _ => True

/-- The cache holds what the sockets that were asked have, and as long as no
offer strayed, every offer is its call's own. -/
structure Sourced (mapping : Nat -> StunResult) (shared : GatherShared) (sources : CacheSources) :
    Prop where
  ip : shared.cache.stunExternalIp = (sources.external mapping).ip
  port : shared.cache.stunExternalPort = (sources.external mapping).port
  offers : (forall offer, offer ∈ shared.offers -> offer.Own mapping) <-> sources.strayed = false

section Steps

variable {shared : GatherShared} {sources : CacheSources} {natUrl odid : String} {input : GatherInput}
  {outcome : Outcome GatherShared GatherThread Unit}

/-- A step that leaves the cached address and the offers, and takes no result
that it was not told. -/
structure Quiet (mapping : Nat -> StunResult) (shared : GatherShared)
    (outcome : Outcome GatherShared GatherThread Unit) : Prop where
  ip : outcome.shared.cache.stunExternalIp = shared.cache.stunExternalIp
  port : outcome.shared.cache.stunExternalPort = shared.cache.stunExternalPort
  offers : outcome.shared.offers = shared.offers
  honest : outcome.thread.Honest mapping
  spawned : outcome.spawned = none

theorem quiet_storeRoute
    (stepped : GatherThread.step mapping shared ⟨natUrl, odid, .storeRoute⟩ input = some outcome) :
    Quiet mapping shared outcome := by
  cases input with
  | route route =>
      simp only [GatherThread.step] at stepped
      split_ifs at stepped <;> cases stepped <;> exact ⟨rfl, rfl, rfl, trivial, rfl⟩
  | _ => cases stepped

theorem quiet_openUdp
    (stepped : GatherThread.step mapping shared ⟨natUrl, odid, .openUdp⟩ input = some outcome) :
    Quiet mapping shared outcome := by
  cases input with
  | opened localAddrs ok => cases ok <;> cases stepped <;> exact ⟨rfl, rfl, rfl, trivial, rfl⟩
  | _ => cases stepped

/-- A result that a query returns is the address of the socket that was asked. -/
theorem quiet_queryStun {addrs : List String} {udp : Option Nat} {route : Option NatRoute}
    (stepped : GatherThread.step mapping shared ⟨natUrl, odid, .queryStun addrs udp route⟩ input =
      some outcome) : Quiet mapping shared outcome := by
  cases input with
  | stun ok =>
      cases udp with
      | none => cases route <;> cases stepped <;> exact ⟨rfl, rfl, rfl, trivial, rfl⟩
      | some udp =>
          cases route with
          | none =>
              cases stepped
              exact ⟨rfl, rfl, rfl, trivial, rfl⟩
          | some route =>
              simp only [GatherThread.step] at stepped
              split_ifs at stepped <;> cases stepped
              · exact ⟨rfl, rfl, rfl, rfl, rfl⟩
              · exact ⟨rfl, rfl, rfl, trivial, rfl⟩
  | _ => cases udp <;> cases route <;> cases stepped

theorem quiet_queryTurn {addrs : List String} {udp : Option Nat} {route : Option NatRoute}
    (stepped : GatherThread.step mapping shared ⟨natUrl, odid, .queryTurn addrs udp route⟩ input =
      some outcome) : Quiet mapping shared outcome := by
  cases input with
  | turn relay =>
      cases udp with
      | none => cases route <;> cases relay <;> cases stepped <;> exact ⟨rfl, rfl, rfl, trivial, rfl⟩
      | some udp =>
          cases route with
          | none => cases relay <;> cases stepped <;> exact ⟨rfl, rfl, rfl, trivial, rfl⟩
          | some route =>
              cases relay with
              | none =>
                  cases stepped
                  exact ⟨rfl, rfl, rfl, trivial, rfl⟩
              | some relay =>
                  simp only [GatherThread.step] at stepped
                  split_ifs at stepped <;> cases stepped <;> exact ⟨rfl, rfl, rfl, trivial, rfl⟩
  | _ => cases udp <;> cases route <;> cases stepped

theorem quiet_storeTurn {addrs : List String} {relayIp : String} {relayPort : UInt16}
    (stepped : GatherThread.step mapping shared ⟨natUrl, odid, .storeTurn addrs relayIp relayPort⟩ input =
      some outcome) : Quiet mapping shared outcome := by
  cases input with
  | proceed =>
      cases stepped
      exact ⟨rfl, rfl, rfl, trivial, rfl⟩
  | _ => cases stepped

theorem quiet_openIceUdp {addrs : List String}
    (stepped : GatherThread.step mapping shared ⟨natUrl, odid, .openIceUdp addrs⟩ input = some outcome) :
    Quiet mapping shared outcome := by
  cases input with
  | failed =>
      cases stepped
      exact ⟨rfl, rfl, rfl, trivial, rfl⟩
  | iceOpened icePort =>
      cases stepped
      exact ⟨rfl, rfl, rfl, trivial, rfl⟩
  | _ => cases stepped

theorem Sourced.quiet (sourced : Sourced mapping shared sources) (quiet : Quiet mapping shared outcome) :
    Sourced mapping outcome.shared sources ∧ outcome.thread.Honest mapping ∧ outcome.spawned = none := by
  refine ⟨⟨quiet.ip.trans sourced.ip, quiet.port.trans sourced.port, ?_⟩, quiet.honest, quiet.spawned⟩
  rw [quiet.offers]
  exact sourced.offers

/-- The offer strays where the sockets that were asked do not fit. -/
theorem Sourced.gather {addrs : List String} {iceUdp : Nat} {icePort : UInt16}
    (sourced : Sourced mapping shared sources)
    (stepped : GatherThread.step mapping shared ⟨natUrl, odid, .gather addrs iceUdp icePort⟩ input =
      some outcome) :
    Sourced mapping outcome.shared (sources.afterStep mapping (.gather addrs iceUdp icePort)) ∧
      outcome.thread.Honest mapping ∧ outcome.spawned = none := by
  cases input with
  | gathered seed timestamp =>
      cases stepped
      refine ⟨⟨sourced.ip, sourced.port, ?_⟩, trivial, rfl⟩
      have own := own_offerOfAgent mapping odid shared.cache addrs iceUdp icePort seed timestamp
      rw [sourced.ip, sourced.port] at own
      change _ <-> sources.Fits mapping iceUdp at own
      change (forall offer, offer ∈ shared.offers ++ [_] -> offer.Own mapping) <->
        (sources.strayed || !decide (sources.Fits mapping iceUdp)) = false
      rw [List.forall_mem_append, List.forall_mem_singleton, sourced.offers, own,
        Bool.or_eq_false_iff, Bool.not_eq_false', decide_eq_true_eq]
  | _ => cases stepped

/-- A step of a thread. -/
theorem Sourced.step {self : GatherThread} (sourced : Sourced mapping shared sources)
    (honest : self.Honest mapping) (stepped : self.step mapping shared input = some outcome) :
    Sourced mapping outcome.shared (sources.afterStep mapping self.pc) ∧
      outcome.thread.Honest mapping ∧ outcome.spawned = none := by
  rcases self with ⟨natUrl, odid, pc⟩
  cases pc with
  | storeRoute => exact sourced.quiet (quiet_storeRoute stepped)
  | openUdp => exact sourced.quiet (quiet_openUdp stepped)
  | queryStun addrs udp route => exact sourced.quiet (quiet_queryStun stepped)
  | storeStunIp addrs udp route result =>
      cases input with
      | proceed =>
          cases stepped
          cases honest
          exact ⟨⟨rfl, sourced.port, sourced.offers⟩, rfl, rfl⟩
      | _ => cases stepped
  | storeStunPort addrs udp route result =>
      cases input with
      | proceed =>
          cases stepped
          cases honest
          exact ⟨⟨sourced.ip, rfl, sourced.offers⟩, trivial, rfl⟩
      | _ => cases stepped
  | queryTurn addrs udp route => exact sourced.quiet (quiet_queryTurn stepped)
  | storeTurn addrs relayIp relayPort => exact sourced.quiet (quiet_storeTurn stepped)
  | openIceUdp addrs => exact sourced.quiet (quiet_openIceUdp stepped)
  | gather addrs iceUdp icePort => exact sourced.gather stepped
  | done => cases input <;> cases stepped

end Steps

theorem sourced_of_reachable {run : GatherWorld × CacheSources}
    (reachable : ((gatherSystem mapping).remember (cacheSources mapping)).Reachable run) :
    Sourced mapping run.1.shared run.2 := by
  have holds : Sourced mapping run.1.shared run.2 ∧
      forall thread, thread ∈ run.1.threads -> thread.Honest mapping := by
    refine reachable.remembered_invariant
      (fun world sources => Sourced mapping world.shared sources ∧
        forall thread, thread ∈ world.threads -> thread.Honest mapping) ?_ ?_
    · rintro world rfl
      refine ⟨⟨rfl, rfl, ?_⟩, fun thread contrary => (by cases contrary)⟩
      exact ⟨fun _ => rfl, fun _ offer contrary => (by cases contrary)⟩
    · rintro before sources event after _ ⟨sourced, honest⟩ stepped
      change before.apply mapping event = some after at stepped
      cases event with
      | connect natUrl odid =>
          cases stepped
          refine ⟨sourced, ?_⟩
          intro thread member
          rcases List.mem_append.mp member with old | new
          · exact honest thread old
          · rw [List.mem_singleton.mp new]
            trivial
      | thread id input =>
          cases found : before.threads[id]? with
          | none =>
              simp only [GatherWorld.apply, found] at stepped
              cases stepped
          | some self =>
              simp only [GatherWorld.apply, found] at stepped
              rcases Option.map_eq_some_iff.mp stepped with ⟨outcome, moved, rfl⟩
              rcases sourced.step (honest self (List.mem_of_getElem? found)) moved with
                ⟨stillSourced, nowHonest, spawned⟩
              have isMemory : (cacheSources mapping).record before (.thread id input)
                  { shared := outcome.shared, threads := threadsAfter before.threads id outcome }
                  sources = sources.afterStep mapping self.pc := by
                simp only [cacheSources, found]
              rw [isMemory]
              refine ⟨stillSourced, ?_⟩
              intro thread member
              rcases List.mem_iff_getElem?.mp member with ⟨k, isThread⟩
              rcases threadsAfter_cases (List.getElem?_eq_some_iff.mp found).1 isThread with
                ⟨_, rfl⟩ | ⟨_, old⟩ | ⟨_, new⟩
              · exact nowHonest
              · exact honest thread (List.mem_of_getElem? old)
              · cases spawned.symm.trans new
  exact holds.1

/-- **The external address in offers.**  In any run of any calls, every offer
advertises the external address of its own ICE socket exactly if each was
gathered when no query had told an address yet, or when the sockets asked last
share theirs with the ICE socket. -/
theorem offers_own_iff {run : GatherWorld × CacheSources}
    (reachable : ((gatherSystem mapping).remember (cacheSources mapping)).Reachable run) :
    (forall offer, offer ∈ run.1.shared.offers -> offer.Own mapping) <-> run.2.strayed = false :=
  (sourced_of_reachable reachable).offers

/-! ## Two runs -/

/-- A NAT with one address and a port for each socket. -/
def portForEach (udp : Nat) : StunResult := ⟨"203.0.113.1", UInt16.ofNat (40000 + udp)⟩

/-- One call, whose STUN query succeeds or fails, up to its offer. -/
def oneCall (ok : Bool) : List GatherEvent :=
  [.connect "https://nat" "peer", .thread 0 (.route ⟨"198.51.100.1", 3478, "", 0⟩),
    .thread 0 (.opened ["192.168.0.2"] true), .thread 0 (.stun ok)] ++
  (if ok then [.thread 0 .proceed, .thread 0 .proceed] else []) ++
  [.thread 0 (.turn none), .thread 0 (.iceOpened 5000), .thread 0 (.gathered (uniformSeed 0 0) 0)]

/-- A run of given events, and a test of the world and the memory it ends in. -/
theorem exists_gatherRun {events : List GatherEvent} {test : GatherWorld × CacheSources -> Bool}
    (ends : (TransitionSystem.perform
      (TransitionSystem.recordNext (cacheSources mapping) (GatherWorld.apply mapping))
      (fun _ _ => true) (.new, .start) events).any test = true) :
    exists run, ((gatherSystem mapping).remember (cacheSources mapping)).Reachable run ∧
      test run = true := by
  have isStart : ((gatherSystem mapping).remember (cacheSources mapping)).initial
      (.new, .start) := ⟨rfl, rfl⟩
  have reached : exists run, (((gatherSystem mapping).remember
      (cacheSources mapping)).restrict fun _ _ => True).Reachable run ∧ test run = true :=
    TransitionSystem.exists_reachable (fun _ _ => True)
      (fun _ _ _ stepped => TransitionSystem.recordNext_step (fun _ _ _ applied => applied) stepped)
      (fun _ _ _ => trivial) isStart ends
  rcases reached with ⟨run, reachable, passes⟩
  exact ⟨run, reachable.of_restrict, passes⟩

/-- A NAT that maps all sockets to one address and port. -/
def sharedPort (_ : Nat) : StunResult := ⟨"203.0.113.1", 40000⟩

/-- Where the sockets share their external address, the offer has a server
reflexive candidate with the address of its own socket. -/
theorem offers_own_shared :
    exists run : GatherWorld × CacheSources,
      (exists offer, offer ∈ run.1.shared.offers ∧ exists cand, cand ∈ offer.candidates ∧
        cand.candidateType = .srflx ∧ cand.port = 40000) ∧
      forall offer, offer ∈ run.1.shared.offers -> offer.Own sharedPort := by
  have ends : (TransitionSystem.perform
      (TransitionSystem.recordNext (cacheSources sharedPort) (GatherWorld.apply sharedPort))
      (fun _ _ => true) (.new, .start) (oneCall true)).any
      (fun run => run.2.strayed = false ∧ exists offer, offer ∈ run.1.shared.offers ∧
        exists cand, cand ∈ offer.candidates ∧ cand.candidateType = .srflx ∧ cand.port = 40000) = true := by
    decide +kernel
  rcases exists_gatherRun ends with ⟨run, reachable, test⟩
  rcases of_decide_eq_true test with ⟨notStrayed, offered⟩
  exact ⟨run, offered, (offers_own_iff reachable).mpr notStrayed⟩

/-- A single call with a query that succeeds offers the address of the socket it
asked, which is not the one that runs ICE. -/
theorem offer_of_queried_socket :
    ¬ forall (mapping : Nat -> StunResult) (run : GatherWorld × CacheSources),
      ((gatherSystem mapping).remember (cacheSources mapping)).Reachable run ->
      forall offer, offer ∈ run.1.shared.offers -> offer.Own mapping := by
  intro claim
  have ends : (TransitionSystem.perform
      (TransitionSystem.recordNext (cacheSources portForEach) (GatherWorld.apply portForEach))
      (fun _ _ => true) (.new, .start) (oneCall true)).any
      (fun run => run.1.shared.offers.any fun offer => offer.candidates.any fun cand =>
        cand.candidateType = .srflx ∧ offer.iceUdp = 1 ∧ cand.port = 40000) = true := by
    decide +kernel
  rcases exists_gatherRun ends with ⟨run, reachable, test⟩
  rcases List.any_eq_true.mp test with ⟨offer, isOffer, test⟩
  rcases List.any_eq_true.mp test with ⟨cand, member, test⟩
  rcases of_decide_eq_true test with ⟨isSrflx, isSocket, isPort⟩
  have own := claim portForEach run reachable offer isOffer cand member isSrflx
  rw [isSocket, isPort] at own
  have samePort : (40000 : UInt16) = (portForEach 1).port := congrArg StunResult.port own
  exact absurd samePort (by decide)

end P2pSdk
