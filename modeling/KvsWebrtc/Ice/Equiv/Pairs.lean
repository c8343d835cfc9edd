import KvsWebrtc.Ice.Equiv.Moves
import KvsWebrtc.Ice.Equiv.Priority

/-!
# Candidates and pairs of every reachable agent

`WellFormed` is what holds of the lists of an agent and of the objects in them after every event:
the addresses are in use and not in two lists, a pair joins a candidate that has been local and is
not new to a remote one, and the pairs stand by priority.  No guard is needed for it
(`WellFormed.move`).

`ends` are the candidates that the pairs join, and `ends_createIceCandidatePairs` says which the
loop of `createIceCandidatePairs` adds.
-/

namespace KvsWebrtc.Ice

open Stun

namespace IceAgent

def endsOf (agent : IceAgent) (p : Nat) : Nat × Nat :=
  ((agent.pair p).localCandidate, (agent.pair p).remoteCandidate)

def ends (agent : IceAgent) : List (Nat × Nat) := agent.iceCandidatePairs.map agent.endsOf

/-- What holds of the candidates and pairs of an agent after every event. -/
structure WellFormed (agent : IceAgent) : Prop where
  pairs_lt : ∀ p ∈ agent.iceCandidatePairs, p < agent.nextAddress
  locals_lt : ∀ c ∈ agent.localCandidates, c < agent.nextAddress
  remotes_lt : ∀ c ∈ agent.remoteCandidates, c < agent.nextAddress
  locals_nodup : agent.localCandidates.Nodup
  remotes_nodup : agent.remoteCandidates.Nodup
  disjoint : ∀ c ∈ agent.localCandidates, c ∉ agent.remoteCandidates
  ends_lt : ∀ e ∈ agent.ends, e.1 < agent.nextAddress
  ends_local : ∀ e ∈ agent.ends, e.1 ∉ agent.remoteCandidates
  ends_remote : ∀ e ∈ agent.ends, e.2 ∈ agent.remoteCandidates
  ends_state : ∀ e ∈ agent.ends, (agent.candidate e.1).state ≠ .new
  sorted : ByPriority (fun p => (agent.pair p).priority) agent.iceCandidatePairs

theorem wellFormed_createIceAgent (localPassword : List UInt8) (tieBreaker : UInt64) :
    (createIceAgent localPassword tieBreaker).WellFormed := by
  constructor <;> simp [createIceAgent, ends, ByPriority]

/-! ### New pairs -/

theorem pair_addPair_of_lt {agent : IceAgent} {p : Nat} (hp : p < agent.nextAddress) (l r : Nat) :
    (agent.addPair l r).pair p = agent.pair p := Function.update_of_ne hp.ne _ _

theorem endsOf_addPair_of_lt {agent : IceAgent} {p : Nat} (hp : p < agent.nextAddress) (l r : Nat) :
    (agent.addPair l r).endsOf p = agent.endsOf p := by
  unfold endsOf
  rw [pair_addPair_of_lt hp]

theorem ends_addPair {agent : IceAgent} (hlt : ∀ p ∈ agent.iceCandidatePairs, p < agent.nextAddress)
    (l r : Nat) : (agent.addPair l r).ends.Perm ((l, r) :: agent.ends) := by
  have hperm := (insertIceCandidatePair_perm (fun p => ((agent.addPair l r).pair p).priority)
    agent.nextAddress agent.iceCandidatePairs).map (agent.addPair l r).endsOf
  apply hperm.trans
  rw [List.map_cons]
  have hnew : (agent.addPair l r).endsOf agent.nextAddress = (l, r) := by
    simp [endsOf, addPair]
  have hold : agent.iceCandidatePairs.map (agent.addPair l r).endsOf = agent.ends :=
    List.map_congr_left fun p hp => endsOf_addPair_of_lt (hlt p hp) l r
  rw [hnew, hold]

theorem pairs_lt_addPair {agent : IceAgent}
    (hlt : ∀ p ∈ agent.iceCandidatePairs, p < agent.nextAddress) (l r : Nat) :
    ∀ p ∈ (agent.addPair l r).iceCandidatePairs, p < (agent.addPair l r).nextAddress := by
  intro p hp
  show p < agent.nextAddress + 1
  rcases (mem_insertIceCandidatePair _).mp hp with rfl | hp
  · exact Nat.lt_succ_self _
  · exact Nat.lt_succ_of_lt (hlt p hp)

theorem WellFormed.addPair {agent : IceAgent} (h : agent.WellFormed) {l r : Nat}
    (hl : l ∈ agent.localCandidates) (hr : r ∈ agent.remoteCandidates)
    (hstate : (agent.candidate l).state = .valid) : (agent.addPair l r).WellFormed := by
  have hends : ∀ e ∈ (agent.addPair l r).ends, e = (l, r) ∨ e ∈ agent.ends := by
    intro e he
    exact List.mem_cons.mp ((ends_addPair h.pairs_lt l r).mem_iff.mp he)
  constructor
  · exact pairs_lt_addPair h.pairs_lt l r
  · exact fun c hc => Nat.lt_succ_of_lt (h.locals_lt c hc)
  · exact fun c hc => Nat.lt_succ_of_lt (h.remotes_lt c hc)
  · exact h.locals_nodup
  · exact h.remotes_nodup
  · exact h.disjoint
  · intro e he
    rcases hends e he with rfl | he
    · exact Nat.lt_succ_of_lt (h.locals_lt l hl)
    · exact Nat.lt_succ_of_lt (h.ends_lt e he)
  · intro e he
    rcases hends e he with rfl | he
    · exact h.disjoint l hl
    · exact h.ends_local e he
  · intro e he
    rcases hends e he with rfl | he
    · exact hr
    · exact h.ends_remote e he
  · intro e he
    show (agent.candidate e.1).state ≠ .new
    rcases hends e he with rfl | he
    · rw [hstate]
      decide
    · exact h.ends_state e he
  · apply ByPriority.insert
    apply h.sorted.congr
    intro p hp
    show ((agent.addPair l r).pair p).priority = (agent.pair p).priority
    rw [pair_addPair_of_lt (h.pairs_lt p hp)]

theorem WellFormed.createIceCandidatePairs {agent : IceAgent} (h : agent.WellFormed) {c : Nat}
    {isRemoteCandidate : Bool}
    (hc : c ∈ if isRemoteCandidate then agent.remoteCandidates else agent.localCandidates) :
    (agent.createIceCandidatePairs c isRemoteCandidate).WellFormed := by
  apply createIceCandidatePairs_induction h
  intro b l r hsame hjoins hb
  apply hb.addPair
  · rw [hsame.localCandidates]
    cases isRemoteCandidate with
    | true => exact hjoins.isLocal
    | false =>
      obtain rfl : l = c := hjoins.isLocal
      exact hc
  · rw [hsame.remoteCandidates]
    cases isRemoteCandidate with
    | true =>
      obtain rfl : r = c := hjoins.isRemote
      exact hc
    | false => exact hjoins.isRemote
  · rw [hsame.candidate]
    exact hjoins.localState

/-- The candidates that the loop of `createIceCandidatePairs` joins to `c`. -/
def partners (agent : IceAgent) (c : Nat) (isRemoteCandidate : Bool) : List Nat :=
  (if isRemoteCandidate then agent.localCandidates else agent.remoteCandidates).filter fun d =>
    (agent.candidate d).state = .valid ∧
      (agent.candidate d).ipAddress.family = (agent.candidate c).ipAddress.family

/-- The ends of the pair of `c` and another candidate. -/
def joined (c : Nat) (isRemoteCandidate : Bool) (d : Nat) : Nat × Nat :=
  if isRemoteCandidate then (d, c) else (c, d)

/-- **The pairs that the loop adds**: one for each partner. -/
theorem ends_createIceCandidatePairs {agent : IceAgent}
    (hlt : ∀ p ∈ agent.iceCandidatePairs, p < agent.nextAddress) {c : Nat}
    (hvalid : (agent.candidate c).state = .valid) (isRemoteCandidate : Bool) :
    (agent.createIceCandidatePairs c isRemoteCandidate).ends.Perm
      ((agent.partners c isRemoteCandidate).map (joined c isRemoteCandidate) ++ agent.ends) := by
  -- the loop adds a pair for each candidate that is valid and of the same family
  have hloop : ∀ (candidates : List Nat) (b : IceAgent), b.candidate = agent.candidate →
      (∀ p ∈ b.iceCandidatePairs, p < b.nextAddress) →
        (candidates.foldl (pairWith c isRemoteCandidate) b).ends.Perm
          ((candidates.filter fun d => (agent.candidate d).state = .valid ∧
              (agent.candidate d).ipAddress.family = (agent.candidate c).ipAddress.family).map
            (joined c isRemoteCandidate) ++ b.ends) := by
    intro candidates
    induction candidates with
    | nil => exact fun b _ _ => List.Perm.refl _
    | cons d candidates ih =>
      intro b hb hblt
      rw [List.foldl_cons]
      by_cases hd : (agent.candidate d).state = .valid ∧
          (agent.candidate d).ipAddress.family = (agent.candidate c).ipAddress.family
      · rw [List.filter_cons_of_pos (by simpa using hd), List.map_cons]
        have hstep : pairWith c isRemoteCandidate b d =
            b.addPair (joined c isRemoteCandidate d).1 (joined c isRemoteCandidate d).2 := by
          unfold pairWith joined
          rw [hb, if_pos hd]
          cases isRemoteCandidate <;> rfl
        rw [hstep]
        generalize joined c isRemoteCandidate d = e
        apply (ih (b.addPair e.1 e.2) hb (pairs_lt_addPair hblt e.1 e.2)).trans
        exact ((ends_addPair hblt e.1 e.2).append_left _).trans List.perm_middle
      · rw [List.filter_cons_of_neg (by simpa using hd)]
        have hstep : pairWith c isRemoteCandidate b d = b := by
          unfold pairWith
          rw [hb, if_neg hd]
        rw [hstep]
        exact ih b hb hblt
  unfold createIceCandidatePairs
  rw [if_pos hvalid]
  exact hloop _ agent rfl hlt

/-! ### The other moves -/

/-- The lists stay as they are, pairs keep their ends and priorities, and no candidate becomes
new. -/
structure SameLists (a b : IceAgent) : Prop where
  nextAddress : b.nextAddress = a.nextAddress
  localCandidates : b.localCandidates = a.localCandidates
  remoteCandidates : b.remoteCandidates = a.remoteCandidates
  iceCandidatePairs : b.iceCandidatePairs = a.iceCandidatePairs
  endsOf : ∀ p, b.endsOf p = a.endsOf p
  priority : ∀ p, (b.pair p).priority = (a.pair p).priority
  state : ∀ c, (b.candidate c).state = .new → (a.candidate c).state = .new

theorem SameLists.ends {a b : IceAgent} (h : SameLists a b) : b.ends = a.ends := by
  unfold IceAgent.ends
  rw [h.iceCandidatePairs]
  exact List.map_congr_left fun p _ => h.endsOf p

theorem WellFormed.of_sameLists {a b : IceAgent} (ha : a.WellFormed) (h : SameLists a b) :
    b.WellFormed := by
  have hends := h.ends
  obtain ⟨hnext, hlocals, hremotes, hpairs, -, hpriority, hstate⟩ := h
  constructor
  · rw [hpairs, hnext]
    exact ha.pairs_lt
  · rw [hlocals, hnext]
    exact ha.locals_lt
  · rw [hremotes, hnext]
    exact ha.remotes_lt
  · rw [hlocals]
    exact ha.locals_nodup
  · rw [hremotes]
    exact ha.remotes_nodup
  · rw [hlocals, hremotes]
    exact ha.disjoint
  · rw [hends, hnext]
    exact ha.ends_lt
  · rw [hends, hremotes]
    exact ha.ends_local
  · rw [hends, hremotes]
    exact ha.ends_remote
  · rw [hends]
    exact fun e he hnew => ha.ends_state e he (hstate e.1 hnew)
  · rw [hpairs]
    exact ha.sorted.congr _ fun p _ => hpriority p

theorem sameLists_of_sameCore {a b : IceAgent} (h : SameCore a b) : SameLists a b where
  nextAddress := h.nextAddress
  localCandidates := h.localCandidates
  remoteCandidates := h.remoteCandidates
  iceCandidatePairs := h.iceCandidatePairs
  endsOf := fun p => by rw [endsOf, h.pair, endsOf]
  priority := fun p => by rw [h.pair]
  state := fun c hc => by rwa [h.candidate] at hc

theorem sameLists_markPair (agent : IceAgent) (p : Nat) (nominated : Bool)
    (state : IceCandidatePairState) : SameLists agent (agent.markPair p nominated state) := by
  have hpair : ∀ q, ((agent.markPair p nominated state).pair q).localCandidate =
        (agent.pair q).localCandidate ∧
      ((agent.markPair p nominated state).pair q).remoteCandidate = (agent.pair q).remoteCandidate ∧
      ((agent.markPair p nominated state).pair q).priority = (agent.pair q).priority := by
    intro q
    by_cases hq : q = p
    · subst hq
      simp [markPair]
    · simp [markPair, pair_modifyPair_of_ne agent hq]
  refine ⟨rfl, rfl, rfl, rfl, fun q => ?_, fun q => (hpair q).2.2, fun _ hc => hc⟩
  rw [endsOf, endsOf, (hpair q).1, (hpair q).2.1]

/-- A candidate changes in its place, and does not become new. -/
theorem sameLists_modifyCandidate (agent : IceAgent) (c : Nat) (f : IceCandidate → IceCandidate)
    (hf : (f (agent.candidate c)).state = .new → (agent.candidate c).state = .new) :
    SameLists agent (agent.modifyCandidate c f) := by
  refine ⟨rfl, rfl, rfl, rfl, fun _ => rfl, fun _ => rfl, ?_⟩
  intro d hd
  by_cases hdc : d = c
  · subst hdc
    apply hf
    rwa [candidate_modifyCandidate_self] at hd
  · rwa [candidate_modifyCandidate_of_ne agent hdc] at hd

theorem sameLists_report (agent : IceAgent) (c : Nat) : SameLists agent (agent.report c) :=
  sameLists_modifyCandidate agent c _ fun hc => hc

theorem sameLists_updateCandidateAddress (agent : IceAgent) (c : Nat) (ipAddress : KvsIpAddress) :
    SameLists agent (agent.updateCandidateAddress c ipAddress) := by
  unfold updateCandidateAddress
  split_ifs
  · exact sameLists_modifyCandidate agent c _ fun h => nomatch h
  · exact ⟨rfl, rfl, rfl, rfl, fun _ => rfl, fun _ => rfl, fun _ h => h⟩

/-! ### New candidates -/

/-- A new candidate comes into memory and stands in one of the lists. -/
structure PutsCandidate (a b : IceAgent) : Prop where
  candidate : ∀ c, c ≠ a.nextAddress → b.candidate c = a.candidate c
  pair : b.pair = a.pair
  nextAddress : b.nextAddress = a.nextAddress + 1
  iceCandidatePairs : b.iceCandidatePairs = a.iceCandidatePairs
  lists : b.localCandidates = a.nextAddress :: a.localCandidates ∧
      b.remoteCandidates = a.remoteCandidates ∨
    b.localCandidates = a.localCandidates ∧ b.remoteCandidates = a.nextAddress :: a.remoteCandidates

theorem PutsCandidate.ends {a b : IceAgent} (h : PutsCandidate a b) : b.ends = a.ends := by
  unfold IceAgent.ends IceAgent.endsOf
  rw [h.iceCandidatePairs, h.pair]

theorem WellFormed.of_putsCandidate {a b : IceAgent} (ha : a.WellFormed) (h : PutsCandidate a b) :
    b.WellFormed := by
  have hends := h.ends
  have hlocal : a.nextAddress ∉ a.localCandidates := fun hc => (ha.locals_lt _ hc).ne rfl
  have hremote : a.nextAddress ∉ a.remoteCandidates := fun hc => (ha.remotes_lt _ hc).ne rfl
  obtain ⟨hcandidate, hpair, hnext, hpairs, hlists⟩ := h
  -- addresses grow, so the new candidate is in none of the lists
  have hlt : ∀ l : List Nat, (∀ c ∈ l, c < a.nextAddress) →
      ∀ c ∈ a.nextAddress :: l, c < a.nextAddress + 1 := by
    intro l hl c hc
    rcases List.mem_cons.mp hc with rfl | hc
    · exact Nat.lt_succ_self _
    · exact Nat.lt_succ_of_lt (hl c hc)
  constructor
  · rw [hpairs, hnext]
    exact fun p hp => Nat.lt_succ_of_lt (ha.pairs_lt p hp)
  · rw [hnext]
    rcases hlists with ⟨hl, -⟩ | ⟨hl, -⟩
    · rw [hl]
      exact hlt _ ha.locals_lt
    · rw [hl]
      exact fun c hc => Nat.lt_succ_of_lt (ha.locals_lt c hc)
  · rw [hnext]
    rcases hlists with ⟨-, hr⟩ | ⟨-, hr⟩
    · rw [hr]
      exact fun c hc => Nat.lt_succ_of_lt (ha.remotes_lt c hc)
    · rw [hr]
      exact hlt _ ha.remotes_lt
  · rcases hlists with ⟨hl, -⟩ | ⟨hl, -⟩
    · rw [hl]
      exact List.nodup_cons.mpr ⟨hlocal, ha.locals_nodup⟩
    · rw [hl]
      exact ha.locals_nodup
  · rcases hlists with ⟨-, hr⟩ | ⟨-, hr⟩
    · rw [hr]
      exact ha.remotes_nodup
    · rw [hr]
      exact List.nodup_cons.mpr ⟨hremote, ha.remotes_nodup⟩
  · rcases hlists with ⟨hl, hr⟩ | ⟨hl, hr⟩
    · rw [hl, hr]
      intro c hc
      rcases List.mem_cons.mp hc with rfl | hc
      · exact hremote
      · exact ha.disjoint c hc
    · rw [hl, hr]
      intro c hc hmem
      rcases List.mem_cons.mp hmem with rfl | hmem
      · exact hlocal hc
      · exact ha.disjoint c hc hmem
  · rw [hends, hnext]
    exact fun e he => Nat.lt_succ_of_lt (ha.ends_lt e he)
  · rw [hends]
    intro e he hmem
    rcases hlists with ⟨-, hr⟩ | ⟨-, hr⟩
    · rw [hr] at hmem
      exact ha.ends_local e he hmem
    · rw [hr] at hmem
      rcases List.mem_cons.mp hmem with heq | hmem
      · exact (ha.ends_lt e he).ne heq
      · exact ha.ends_local e he hmem
  · rw [hends]
    intro e he
    rcases hlists with ⟨-, hr⟩ | ⟨-, hr⟩
    · rw [hr]
      exact ha.ends_remote e he
    · rw [hr]
      exact List.mem_cons_of_mem _ (ha.ends_remote e he)
  · rw [hends]
    intro e he
    rw [hcandidate e.1 (ha.ends_lt e he).ne]
    exact ha.ends_state e he
  · rw [hpairs, hpair]
    exact ha.sorted

theorem putsCandidate_addLocal (agent : IceAgent) (iceCandidateType : IceCandidateType)
    (ipAddress : KvsIpAddress) (state : IceCandidateState) (isPointToPoint : Bool) :
    PutsCandidate agent (agent.addLocal iceCandidateType ipAddress state isPointToPoint) :=
  ⟨fun _ hc => Function.update_of_ne hc _ _, rfl, rfl, rfl, .inl ⟨rfl, rfl⟩⟩

theorem putsCandidate_putRemote (agent : IceAgent) (iceCandidateType : IceCandidateType)
    (ipAddress : KvsIpAddress) (priority : Nat) :
    PutsCandidate agent (agent.putRemote iceCandidateType ipAddress priority) :=
  ⟨fun _ hc => Function.update_of_ne hc _ _, rfl, rfl, rfl, .inr ⟨rfl, rfl⟩⟩

/-! ### Removal -/

theorem ends_freePairs (agent : IceAgent) (keep : Nat → Bool) :
    (agent.freePairs keep).ends.Sublist agent.ends :=
  (List.filter_sublist (p := keep)).map agent.endsOf

theorem WellFormed.freePairs {agent : IceAgent} (h : agent.WellFormed) (keep : Nat → Bool) :
    (agent.freePairs keep).WellFormed := by
  have hends : ∀ e ∈ (agent.freePairs keep).ends, e ∈ agent.ends :=
    fun e he => (ends_freePairs agent keep).subset he
  constructor
  · exact fun p hp => h.pairs_lt p (List.mem_of_mem_filter hp)
  · exact h.locals_lt
  · exact h.remotes_lt
  · exact h.locals_nodup
  · exact h.remotes_nodup
  · exact h.disjoint
  · exact fun e he => h.ends_lt e (hends e he)
  · exact fun e he => h.ends_local e (hends e he)
  · exact fun e he => h.ends_remote e (hends e he)
  · exact fun e he => h.ends_state e (hends e he)
  · exact h.sorted.filter keep

theorem WellFormed.keepLocals {agent : IceAgent} (h : agent.WellFormed) (keep : Nat → Bool) :
    (agent.keepLocals keep).WellFormed := by
  constructor
  · exact h.pairs_lt
  · exact fun c hc => h.locals_lt c (List.mem_of_mem_filter hc)
  · exact h.remotes_lt
  · exact h.locals_nodup.filter keep
  · exact h.remotes_nodup
  · exact fun c hc => h.disjoint c (List.mem_of_mem_filter hc)
  · exact h.ends_lt
  · exact h.ends_local
  · exact h.ends_remote
  · exact h.ends_state
  · exact h.sorted

/-- **Every move keeps the agent well-formed**, whatever the guards are. -/
theorem WellFormed.move {g : Guards} {a b : IceAgent} (hmove : Move g a b) (h : a.WellFormed) :
    b.WellFormed := by
  cases hmove with
  | other hsame hsession => exact h.of_sameLists (sameLists_of_sameCore hsame)
  | markPair p nominated state hmarks =>
    exact h.of_sameLists (sameLists_markPair a p nominated state)
  | invalidate c hinvalid => exact h.of_sameLists (sameLists_modifyCandidate a c _ fun hc =>
    nomatch hc)
  | putTurnPeer c peerAddress => exact h.of_sameLists (sameLists_modifyCandidate a c _ fun hc => hc)
  | report c hstate htype => exact h.of_sameLists (sameLists_report a c)
  | learnAddress c ipAddress hmem htype hlearns =>
    exact h.of_sameLists (sameLists_updateCandidateAddress a c ipAddress)
  | replaceAddress c ipAddress hmem hreplaces =>
    exact h.of_sameLists (sameLists_modifyCandidate a c _ fun hc => hc)
  | addLocal iceCandidateType ipAddress isPointToPoint =>
    exact h.of_putsCandidate (putsCandidate_addLocal a _ _ _ _)
  | addHost ipAddress isPointToPoint =>
    apply (h.of_putsCandidate (putsCandidate_addLocal a _ _ _ _)).createIceCandidatePairs
    exact List.mem_cons_self
  | addRemote iceCandidateType ipAddress priority hlen hnew =>
    apply (h.of_putsCandidate (putsCandidate_putRemote a _ _ _)).createIceCandidatePairs
    exact List.mem_cons_self
  | allocateRelay c ipAddress hmem htype hnew =>
    have hsame := sameLists_updateCandidateAddress a c ipAddress
    apply (h.of_sameLists hsame).createIceCandidatePairs
    rw [if_neg (by decide), hsame.localCandidates]
    exact hmem
  | pairUp c hmem hunreported hpair =>
    have hsame := sameLists_report a c
    exact (h.of_sameLists hsame).createIceCandidatePairs hmem
  | freePairs keep hfrees => exact h.freePairs keep
  | keepLocals keep hfrees => exact h.keepLocals keep

end IceAgent

end KvsWebrtc.Ice
