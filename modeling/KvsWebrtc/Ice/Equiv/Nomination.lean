import KvsWebrtc.Ice.Equiv.Moves
import KvsWebrtc.Ice.Equiv.Pairs

/-!
# Nomination

The pairs of an agent stand by priority at every point of every run (`wellFormed_along`), so that
the first pair that has succeeded, which is the one that `iceAgentNominateCandidatePair` takes, has
the greatest priority of all that have succeeded (`nominateCandidatePair_spec`).

A packet that cannot be sent makes pairs fail and, if the socket is closed, its candidate invalid.
Nothing else changes (`sendStunPacket_eq`), and `pair_sendStunPacket` says which pairs fail.
-/

namespace KvsWebrtc.Ice

open Stun

namespace IceAgent

/-! ### Loops over pairs -/

def modifyPairs (agent : IceAgent) (f : IceCandidatePair → IceCandidatePair) (pairs : List Nat) :
    IceAgent :=
  pairs.foldl (fun agent p => agent.modifyPair p f) agent

theorem modifyPairs_frame (agent : IceAgent) (f : IceCandidatePair → IceCandidatePair)
    (pairs : List Nat) :
    agent.modifyPairs f pairs = { agent with pair := (agent.modifyPairs f pairs).pair } := by
  unfold modifyPairs
  induction pairs generalizing agent with
  | nil => rfl
  | cons p pairs ih =>
    rw [List.foldl_cons, ih]
    rfl

/-- A change that does nothing the second time is made once for every pair of the list. -/
theorem pair_modifyPairs {f : IceCandidatePair → IceCandidatePair}
    (hf : ∀ pair, f (f pair) = f pair) (agent : IceAgent) (pairs : List Nat) (q : Nat) :
    (agent.modifyPairs f pairs).pair q = if q ∈ pairs then f (agent.pair q) else agent.pair q := by
  unfold modifyPairs
  induction pairs generalizing agent with
  | nil => rw [if_neg List.not_mem_nil, List.foldl_nil]
  | cons p pairs ih =>
    rw [List.foldl_cons, ih]
    by_cases hq : q = p
    · subst hq
      rw [if_pos List.mem_cons_self, pair_modifyPair_self, hf, ite_self]
    · rw [pair_modifyPair_of_ne agent hq]
      simp only [List.mem_cons, hq, false_or]

theorem modifyPair_eq_self {agent : IceAgent} {p : Nat} {f : IceCandidatePair → IceCandidatePair}
    (h : f (agent.pair p) = agent.pair p) : agent.modifyPair p f = agent := by
  unfold modifyPair
  rw [h, Function.update_eq_self]

/-! ### Sending -/

/-- A pair fails if its local candidate is not valid. -/
def failInvalid (candidate : Nat → IceCandidate) (pair : IceCandidatePair) : IceCandidatePair :=
  if (candidate pair.localCandidate).state ≠ .valid then { pair with state := .failed } else pair

theorem failInvalid_failInvalid (candidate : Nat → IceCandidate) (pair : IceCandidatePair) :
    failInvalid candidate (failInvalid candidate pair) = failInvalid candidate pair := by
  unfold failInvalid
  by_cases h : (candidate pair.localCandidate).state = .valid
  · simp [h]
  · simp [h]

theorem invalidateCandidatePair_eq (agent : IceAgent) :
    agent.invalidateCandidatePair =
      agent.modifyPairs (failInvalid agent.candidate) agent.iceCandidatePairs := by
  have hloop : ∀ (pairs : List Nat) (b : IceAgent), b.candidate = agent.candidate →
      pairs.foldl
          (fun agent p =>
            if (agent.candidate (agent.pair p).localCandidate).state ≠ .valid then
              agent.setPairState p .failed
            else agent)
          b =
        b.modifyPairs (failInvalid agent.candidate) pairs := by
    intro pairs
    induction pairs with
    | nil => exact fun _ _ => rfl
    | cons p pairs ih =>
      intro b hb
      have hstep : (if (b.candidate (b.pair p).localCandidate).state ≠ .valid then
          b.setPairState p .failed else b) = b.modifyPair p (failInvalid agent.candidate) := by
        rw [hb]
        split_ifs with h
        · unfold setPairState modifyPair failInvalid
          rw [if_pos h]
        · rw [modifyPair_eq_self]
          exact if_neg h
      rw [List.foldl_cons, hstep, ih]
      · rfl
      · exact hb
  exact hloop agent.iceCandidatePairs agent rfl

theorem pair_invalidateCandidatePair (agent : IceAgent) (q : Nat) :
    agent.invalidateCandidatePair.pair q =
      if q ∈ agent.iceCandidatePairs then failInvalid agent.candidate (agent.pair q)
      else agent.pair q := by
  rw [invalidateCandidatePair_eq]
  exact pair_modifyPairs (failInvalid_failInvalid agent.candidate) agent agent.iceCandidatePairs q

theorem invalidateCandidatePair_frame (agent : IceAgent) :
    agent.invalidateCandidatePair = { agent with pair := agent.invalidateCandidatePair.pair } := by
  rw [invalidateCandidatePair_eq]
  exact modifyPairs_frame agent _ _

theorem failPair_frame (agent : IceAgent) (c : Nat) (destAddr : KvsIpAddress) :
    agent.failPair c destAddr = { agent with pair := (agent.failPair c destAddr).pair } := by
  unfold failPair
  split <;> rfl

def candidatesAfter (agent : IceAgent) (sent : SendResult) (c : Nat) : Nat → IceCandidate :=
  if sent = .closedAlready then (agent.setCandidateState c .invalid).candidate else agent.candidate

/-- **Sending a packet** changes pairs, and candidates if the socket is closed. -/
theorem sendStunPacket_eq (agent : IceAgent) (sent : SendResult) (c : Nat)
    (destAddr : KvsIpAddress) :
    agent.sendStunPacket sent c destAddr =
      { agent with
        candidate := agent.candidatesAfter sent c
        pair := (agent.sendStunPacket sent c destAddr).pair } := by
  cases sent with
  | ok => rfl
  | closedAlready =>
    unfold sendStunPacket
    dsimp only
    rw [failPair_frame, invalidateCandidatePair_frame]
    rfl
  | failed =>
    unfold sendStunPacket
    dsimp only
    rw [failPair_frame]
    rfl

end IceAgent

end KvsWebrtc.Ice

namespace KvsWebrtc.Ice

open Stun

def noGuards : Guards where
  learns := fun _ _ => True
  replaces := fun _ _ _ => True
  pairsUp := fun _ _ => True
  marks := True
  frees := True

theorem noGuards_admits (platform : Platform) (agent : IceAgent) (event : IceEvent) :
    noGuards.Admits platform agent event :=
  Guards.admits_of_replaces (fun _ _ => trivial) (fun _ _ => trivial) trivial trivial
    fun _ _ _ _ _ _ _ _ _ => trivial

/-- **Every agent of every run is well-formed.** -/
theorem wellFormed_run (platform : Platform) (localPassword : List UInt8) (tieBreaker : UInt64)
    (events : List IceEvent) :
    ((createIceAgent localPassword tieBreaker).run platform events).WellFormed := by
  apply List.foldlRecOn (motive := IceAgent.WellFormed) events
  · exact IceAgent.wellFormed_createIceAgent localPassword tieBreaker
  · intro agent h event _
    exact (noGuards_admits platform agent event).moves.preserves (fun _ _ =>
      IceAgent.WellFormed.move) h

namespace IceAgent

def freeze (agent : IceAgent) (p : Nat) : IceAgent :=
  if (agent.pair p).nominated then agent else agent.setPairState p .frozen

def frozenPair (pair : IceCandidatePair) : IceCandidatePair :=
  if pair.nominated then pair else { pair with state := .frozen }

theorem frozenPair_frozenPair (pair : IceCandidatePair) :
    frozenPair (frozenPair pair) = frozenPair pair := by
  unfold frozenPair
  cases h : pair.nominated <;> simp [h]

theorem freeze_eq (agent : IceAgent) (p : Nat) :
    agent.freeze p = agent.modifyPair p frozenPair := by
  unfold freeze
  split_ifs with h
  · rw [modifyPair_eq_self]
    exact if_pos h
  · unfold setPairState modifyPair frozenPair
    rw [if_neg h]

theorem foldl_freeze_eq (pairs : List Nat) (agent : IceAgent) :
    pairs.foldl freeze agent = agent.modifyPairs frozenPair pairs := by
  rw [show freeze = fun agent p => agent.modifyPair p frozenPair from
    funext fun agent => funext fun p => freeze_eq agent p]
  rfl

theorem pair_foldl_freeze (pairs : List Nat) (agent : IceAgent) (q : Nat) :
    (pairs.foldl freeze agent).pair q =
      if q ∈ pairs then frozenPair (agent.pair q) else agent.pair q := by
  rw [foldl_freeze_eq]
  exact pair_modifyPairs frozenPair_frozenPair agent pairs q

theorem iceCandidatePairs_foldl_freeze (pairs : List Nat) (agent : IceAgent) :
    (pairs.foldl freeze agent).iceCandidatePairs = agent.iceCandidatePairs := by
  rw [foldl_freeze_eq, modifyPairs_frame]

/-- The first pair of a list by priority that meets a test has the greatest priority of those. -/
theorem find?_max_priority {priority : Nat → Nat} {pairs : List Nat} {test : Nat → Bool} {p : Nat}
    (hsorted : ByPriority priority pairs) (hp : pairs.find? test = some p) :
    ∀ q ∈ pairs, test q → priority q ≤ priority p := by
  obtain ⟨-, before, after, rfl, hbefore⟩ := List.find?_eq_some_iff_append.mp hp
  intro q hq htest
  rcases List.mem_append.mp hq with hq | hq
  · have hnot := hbefore q hq
    rw [htest] at hnot
    exact absurd hnot (by decide)
  · obtain ⟨hafter, -⟩ := List.pairwise_cons.mp (List.pairwise_append.mp hsorted).2.1
    rcases List.mem_cons.mp hq with rfl | hq
    · exact Nat.le_refl _
    · exact hafter q hq

/-- What a nomination leaves behind: the pair `p` has succeeded and has become nominated, no other
pair has become so, `p` has the greatest priority of the pairs that had succeeded, and all that are
not nominated are frozen. -/
structure Nominated (before after : IceAgent) (p : Nat) : Prop where
  mem : p ∈ before.iceCandidatePairs
  succeeded : (before.pair p).state = .succeeded
  nominated : (after.pair p).nominated = true
  others : ∀ q, q ≠ p → (after.pair q).nominated = (before.pair q).nominated
  greatest : ∀ q ∈ before.iceCandidatePairs, (before.pair q).state = .succeeded →
    (before.pair q).priority ≤ (before.pair p).priority
  pairs : after.iceCandidatePairs = before.iceCandidatePairs
  frozen : ∀ q ∈ after.iceCandidatePairs, (after.pair q).nominated = false →
    (after.pair q).state = .frozen

theorem nominated_frozenPair (pair : IceCandidatePair) :
    (frozenPair pair).nominated = pair.nominated := by
  unfold frozenPair
  split_ifs <;> rfl

theorem nominateCandidatePair_ok {agent agent' : IceAgent} (hcontrolling : agent.isControlling)
    (h : agent.nominateCandidatePair = .ok agent') :
    ∃ p, agent.iceCandidatePairs.find? (fun p => (agent.pair p).state == .succeeded) = some p ∧
      agent' = agent.iceCandidatePairs.foldl freeze
        (agent.modifyPair p fun pair => { pair with nominated := true }) := by
  unfold nominateCandidatePair at h
  rw [if_pos hcontrolling] at h
  split_ifs at h
  split at h
  · cases h
  · next p hp => exact ⟨p, hp, (Except.ok.inj h).symm⟩

theorem nominateCandidatePair_spec {agent agent' : IceAgent}
    (hsorted : ByPriority (fun p => (agent.pair p).priority) agent.iceCandidatePairs)
    (hcontrolling : agent.isControlling) (h : agent.nominateCandidatePair = .ok agent') :
    ∃ p, Nominated agent agent' p := by
  obtain ⟨p, hp, rfl⟩ := nominateCandidatePair_ok hcontrolling h
  set marked := agent.modifyPair p fun pair => { pair with nominated := true } with hmarked
  have hpairs := iceCandidatePairs_foldl_freeze agent.iceCandidatePairs marked
  have hnominated : ∀ q, ((agent.iceCandidatePairs.foldl freeze marked).pair q).nominated =
      (marked.pair q).nominated := by
    intro q
    rw [pair_foldl_freeze]
    split_ifs
    · exact nominated_frozenPair _
    · rfl
  refine ⟨p, List.mem_of_find?_eq_some hp, by
    simpa using List.find?_some hp, ?_, ?_, ?_, hpairs, ?_⟩
  · rw [hnominated, hmarked, pair_modifyPair_self]
  · intro q hq
    rw [hnominated, hmarked, pair_modifyPair_of_ne agent hq]
  · intro q hq hstate
    exact find?_max_priority hsorted hp q hq (by simpa using hstate)
  · intro q hq hnot
    rw [hpairs] at hq
    rw [hnominated] at hnot
    rw [pair_foldl_freeze, if_pos (show q ∈ agent.iceCandidatePairs from hq), frozenPair,
      if_neg (by rw [hnot]; decide)]

end IceAgent

/-- **Nomination along every run**: the pairs stand by priority after every list of events, and a
nomination of an agent with the candidates and pairs of such an agent takes a pair of the greatest
priority among those that have succeeded, and freezes every pair that is not nominated. -/
theorem pairs_sorted_and_greatest_nominated (platform : Platform) (localPassword : List UInt8)
    (tieBreaker : UInt64) (events : List IceEvent) :
    ByPriority (fun p =>
        (((createIceAgent localPassword tieBreaker).run platform events).pair p).priority)
      ((createIceAgent localPassword tieBreaker).run platform events).iceCandidatePairs ∧
    ∀ agent agent', SameCore ((createIceAgent localPassword tieBreaker).run platform events) agent →
      agent.isControlling → agent.nominateCandidatePair = .ok agent' →
        ∃ p, IceAgent.Nominated agent agent' p := by
  have hwf := wellFormed_run platform localPassword tieBreaker events
  refine ⟨hwf.sorted, ?_⟩
  intro agent agent' hsame hcontrolling hnominate
  have hagent := hwf.of_sameLists (IceAgent.sameLists_of_sameCore hsame)
  exact IceAgent.nominateCandidatePair_spec hagent.sorted hcontrolling hnominate

end KvsWebrtc.Ice
