import KvsWebrtc.Ice.Equiv.RemoteCandidates

/-!
# Pairs while candidates are gathered

A combination of a local and a remote candidate is paired when the remote candidate comes in, and
when the local one becomes valid.  For a host or a relayed candidate the second happens at once.  A
server reflexive candidate becomes valid with the response of its server, but is paired when the
timer reports it: a remote candidate that comes in between is paired with it twice.

If that does not happen, every combination has at most one pair (`PairedOnce.move`), and exactly one
after the timer has run (`Covered.move`, `gatherTimer_reports`).
-/

namespace KvsWebrtc.Ice

open Stun

namespace IceAgent

/-! ### At most one pair -/

/-- Every combination of candidates has at most one pair. -/
structure PairedOnce (agent : IceAgent) : Prop where
  wellFormed : agent.WellFormed
  nodup : agent.ends.Nodup

def onceGuards : Guards where
  learns := fun _ _ => True
  replaces := fun _ _ _ => True
  pairsUp := fun agent c => ∀ e ∈ agent.ends, e.1 ≠ c
  marks := True
  frees := True

theorem joined_injective (c : Nat) (isRemoteCandidate : Bool) :
    Function.Injective (joined c isRemoteCandidate) := by
  intro d e h
  unfold joined at h
  cases isRemoteCandidate with
  | true => exact congrArg Prod.fst h
  | false => exact congrArg Prod.snd h

theorem nodup_createIceCandidatePairs {agent : IceAgent} (hwf : agent.WellFormed)
    (h : agent.ends.Nodup) {c : Nat} (isRemoteCandidate : Bool)
    (hnone : ∀ e ∈ agent.ends, (if isRemoteCandidate then e.2 else e.1) ≠ c) :
    (agent.createIceCandidatePairs c isRemoteCandidate).ends.Nodup := by
  by_cases hvalid : (agent.candidate c).state = .valid
  · have hpartners : (agent.partners c isRemoteCandidate).Nodup := by
      unfold partners
      apply List.Nodup.filter
      split_ifs
      · exact hwf.locals_nodup
      · exact hwf.remotes_nodup
    rw [(ends_createIceCandidatePairs hwf.pairs_lt hvalid isRemoteCandidate).nodup_iff]
    refine (hpartners.map (joined_injective c isRemoteCandidate)).append h ?_
    intro e hnew hold
    obtain ⟨d, -, rfl⟩ := List.mem_map.mp hnew
    apply hnone _ hold
    cases isRemoteCandidate <;> rfl
  · unfold createIceCandidatePairs
    rw [if_neg hvalid]
    exact h

theorem PairedOnce.of_sameLists {a b : IceAgent} (h : a.PairedOnce) (hsame : SameLists a b) :
    b.PairedOnce :=
  ⟨h.wellFormed.of_sameLists hsame, hsame.ends ▸ h.nodup⟩

theorem PairedOnce.of_putsCandidate {a b : IceAgent} (h : a.PairedOnce)
    (hputs : PutsCandidate a b) :
    b.PairedOnce :=
  ⟨h.wellFormed.of_putsCandidate hputs, hputs.ends ▸ h.nodup⟩

theorem updateCandidateAddress_eq_of_new {agent : IceAgent} {c : Nat}
    (hnew : (agent.candidate c).state = .new) (ipAddress : KvsIpAddress) :
    agent.updateCandidateAddress c ipAddress =
      agent.modifyCandidate c fun candidate =>
        { candidate with ipAddress := ipAddress, state := .valid } := if_pos hnew

/-- **A move that keeps to the guards adds no second pair.** -/
theorem PairedOnce.move {a b : IceAgent} (hmove : Move onceGuards a b) (h : a.PairedOnce) :
    b.PairedOnce := by
  have hwf := h.wellFormed
  refine ⟨hwf.move hmove, ?_⟩
  cases hmove with
  | other hsame hsession => exact (h.of_sameLists (sameLists_of_sameCore hsame)).nodup
  | markPair p nominated state hmarks =>
    exact (h.of_sameLists (sameLists_markPair a p nominated state)).nodup
  | invalidate c hinvalid => exact h.nodup
  | putTurnPeer c peerAddress => exact h.nodup
  | report c hstate htype => exact h.nodup
  | learnAddress c ipAddress hmem htype hlearns =>
    exact (h.of_sameLists (sameLists_updateCandidateAddress a c ipAddress)).nodup
  | replaceAddress c ipAddress hmem hreplaces => exact h.nodup
  | addLocal iceCandidateType ipAddress isPointToPoint => exact h.nodup
  | addHost ipAddress isPointToPoint =>
    have hputs := putsCandidate_addLocal a .host ipAddress .valid isPointToPoint
    have hb := h.of_putsCandidate hputs
    apply nodup_createIceCandidatePairs hb.wellFormed hb.nodup
    intro e he
    rw [hputs.ends] at he
    exact (hwf.ends_lt e he).ne
  | addRemote iceCandidateType ipAddress priority hlen hnew =>
    have hputs := putsCandidate_putRemote a iceCandidateType ipAddress priority
    have hb := h.of_putsCandidate hputs
    apply nodup_createIceCandidatePairs hb.wellFormed hb.nodup
    intro e he
    rw [hputs.ends] at he
    exact (hwf.remotes_lt e.2 (hwf.ends_remote e he)).ne
  | allocateRelay c ipAddress hmem htype hnew =>
    have hsame := sameLists_updateCandidateAddress a c ipAddress
    have hb := h.of_sameLists hsame
    apply nodup_createIceCandidatePairs hb.wellFormed hb.nodup
    -- a candidate that is new has no pairs
    intro e he hc
    rw [hsame.ends] at he
    exact hwf.ends_state e he (by rwa [show e.1 = c from hc])
  | pairUp c hmem hunreported hpair =>
    have hsame := sameLists_report a c
    have hb := h.of_sameLists hsame
    apply nodup_createIceCandidatePairs hb.wellFormed hb.nodup
    intro e he
    rw [hsame.ends] at he
    exact hpair e he
  | freePairs keep hfrees => exact h.nodup.sublist (ends_freePairs a keep)
  | keepLocals keep hfrees => exact h.nodup

/-! ### At least one pair -/

/-- The candidate is valid, and of a kind that has pairs with every remote candidate: a host, a
relayed or a reported server reflexive one. -/
def HasPairs (agent : IceAgent) (c : Nat) : Prop :=
  (agent.candidate c).state = .valid ∧
    ((agent.candidate c).iceCandidateType = .host ∨
    (agent.candidate c).iceCandidateType = .relayed ∨
      (agent.candidate c).iceCandidateType = .serverReflexive ∧ (agent.candidate c).reported = true)

/-- The combinations have a pair, except for those to skip. -/
def CoveredBut (agent : IceAgent) (skip : Nat → Nat → Prop) : Prop :=
  ∀ l ∈ agent.localCandidates, ∀ r ∈ agent.remoteCandidates, ¬ skip l r → agent.HasPairs l →
    (agent.candidate r).state = .valid → agent.familyOf l = agent.familyOf r → (l, r) ∈ agent.ends

def NewUnreported (agent : IceAgent) : Prop :=
  ∀ c ∈ agent.localCandidates, (agent.candidate c).state = .new → (agent.candidate c).reported =
  false

/-- Every combination has a pair. -/
structure Covered (agent : IceAgent) : Prop where
  wellFormed : agent.WellFormed
  unreported : agent.NewUnreported
  covered : agent.CoveredBut fun _ _ => False

/-- Only server reflexive candidates learn their address from a STUN server, and pairs are not
removed. -/
def coverGuards : Guards where
  learns := fun agent c => (agent.candidate c).iceCandidateType = .serverReflexive
  replaces := fun _ _ _ => True
  pairsUp := fun _ _ => True
  marks := True
  frees := False

theorem CoveredBut.congr {a b : IceAgent} {skip skip' : Nat → Nat → Prop} (h : a.CoveredBut skip)
    (hlocal : ∀ l ∈ b.localCandidates, ∀ r ∈ b.remoteCandidates, ¬ skip' l r → b.HasPairs l →
      l ∈ a.localCandidates ∧ a.HasPairs l ∧ b.familyOf l = a.familyOf l)
    (hremote : ∀ l ∈ b.localCandidates, ∀ r ∈ b.remoteCandidates, ¬ skip' l r →
      (b.candidate r).state = .valid →
        r ∈ a.remoteCandidates ∧ (a.candidate r).state = .valid ∧ b.familyOf r = a.familyOf r)
    (hskip : ∀ l r, ¬ skip' l r → ¬ skip l r) (hends : ∀ e ∈ a.ends, e ∈ b.ends) :
    b.CoveredBut skip' := by
  intro l hl r hr hnot hpairs hvalid hfamily
  obtain ⟨hl', hpairs', hlf⟩ := hlocal l hl r hr hnot hpairs
  obtain ⟨hr', hvalid', hrf⟩ := hremote l hl r hr hnot hvalid
  rw [hlf, hrf] at hfamily
  exact hends _ (h l hl' r hr' (hskip l r hnot) hpairs' hvalid' hfamily)

theorem CoveredBut.createIceCandidatePairs {agent : IceAgent} (hwf : agent.WellFormed) {c : Nat}
    {isRemoteCandidate : Bool}
    (h : agent.CoveredBut fun l r => (if isRemoteCandidate then r else l) = c) :
    (agent.createIceCandidatePairs c isRemoteCandidate).CoveredBut fun _ _ => False := by
  have hsame := sameCandidates_createIceCandidatePairs agent c isRemoteCandidate
  intro l hl r hr _ hpairs hvalid hfamily
  rw [hsame.localCandidates] at hl
  rw [hsame.remoteCandidates] at hr
  unfold HasPairs at hpairs
  unfold familyOf at hfamily
  rw [hsame.candidate] at hpairs hvalid hfamily
  -- the pairs of `c` are made now, the others have been there
  by_cases hc : (if isRemoteCandidate then r else l) = c
  · have hcvalid : (agent.candidate c).state = .valid := by
      rw [← hc]
      split_ifs
      · exact hvalid
      · exact hpairs.1
    rw [(ends_createIceCandidatePairs hwf.pairs_lt hcvalid isRemoteCandidate).mem_iff]
    apply List.mem_append_left
    apply List.mem_map.mpr
    cases isRemoteCandidate with
    | true =>
      obtain rfl : r = c := hc
      exact ⟨l, List.mem_filter.mpr ⟨hl, by simpa using ⟨hpairs.1, hfamily⟩⟩, rfl⟩
    | false =>
      obtain rfl : l = c := hc
      exact ⟨r, List.mem_filter.mpr ⟨hr, by simpa using ⟨hvalid, hfamily.symm⟩⟩, rfl⟩
  · have hold := h l hl r hr hc hpairs hvalid hfamily
    by_cases hcvalid : (agent.candidate c).state = .valid
    · rw [(ends_createIceCandidatePairs hwf.pairs_lt hcvalid isRemoteCandidate).mem_iff]
      exact List.mem_append_right _ hold
    · unfold IceAgent.createIceCandidatePairs
      rw [if_neg hcvalid]
      exact hold

/-- A local candidate changes in its place; unless it has pairs before and afterwards, it is
skipped. -/
theorem CoveredBut.modifyCandidate {agent : IceAgent} (h : agent.CoveredBut fun _ _ => False)
    {c : Nat}
    {f : IceCandidate → IceCandidate} {skip : Nat → Nat → Prop}
    (hlocal : ∀ r, ¬ skip c r → (agent.modifyCandidate c f).HasPairs c →
      agent.HasPairs c ∧ (f (agent.candidate c)).ipAddress.family = agent.familyOf c)
    (hremote : c ∈ agent.remoteCandidates → (f (agent.candidate c)).state = .valid →
      (agent.candidate c).state = .valid ∧
        (f (agent.candidate c)).ipAddress.family = agent.familyOf c) :
    (agent.modifyCandidate c f).CoveredBut skip := by
  refine h.congr ?_ ?_ (fun _ _ _ hfalse => hfalse) (fun _ he => he)
  · intro l hl r _ hnot hpairs
    by_cases hc : l = c
    · subst hc
      obtain ⟨hold, hfamily⟩ := hlocal r hnot hpairs
      refine ⟨hl, hold, ?_⟩
      rw [familyOf, candidate_modifyCandidate_self, hfamily]
    · unfold HasPairs at hpairs ⊢
      unfold familyOf
      rw [candidate_modifyCandidate_of_ne agent hc] at hpairs ⊢
      exact ⟨hl, hpairs, rfl⟩
  · intro l _ r hr _ hvalid
    by_cases hc : r = c
    · subst hc
      rw [candidate_modifyCandidate_self] at hvalid
      obtain ⟨hold, hfamily⟩ := hremote hr hvalid
      refine ⟨hr, hold, ?_⟩
      rw [familyOf, candidate_modifyCandidate_self, hfamily]
    · unfold familyOf
      rw [candidate_modifyCandidate_of_ne agent hc] at hvalid ⊢
      exact ⟨hr, hvalid, rfl⟩

theorem CoveredBut.of_putsCandidate {a b : IceAgent}
    (h : a.CoveredBut fun _ _ => False) (hputs : PutsCandidate a b) {skip : Nat → Nat → Prop}
    (hskip : ∀ l ∈ b.localCandidates, ∀ r ∈ b.remoteCandidates, ¬ skip l r → b.HasPairs l →
      l ≠ a.nextAddress ∧ r ≠ a.nextAddress) : b.CoveredBut skip := by
  have hlocals : ∀ l ∈ b.localCandidates, l ≠ a.nextAddress → l ∈ a.localCandidates := by
    intro l hl hne
    rcases hputs.lists with ⟨heq, -⟩ | ⟨heq, -⟩
    · rw [heq] at hl
      exact (List.mem_cons.mp hl).resolve_left hne
    · rwa [heq] at hl
  have hremotes : ∀ r ∈ b.remoteCandidates, r ≠ a.nextAddress → r ∈ a.remoteCandidates := by
    intro r hr hne
    rcases hputs.lists with ⟨-, heq⟩ | ⟨-, heq⟩
    · rwa [heq] at hr
    · rw [heq] at hr
      exact (List.mem_cons.mp hr).resolve_left hne
  intro l hl r hr hnot hpairs hvalid hfamily
  obtain ⟨hlne, hrne⟩ := hskip l hl r hr hnot hpairs
  unfold HasPairs at hpairs
  unfold familyOf at hfamily
  rw [hputs.candidate l hlne] at hpairs hfamily
  rw [hputs.candidate r hrne] at hvalid hfamily
  rw [hputs.ends]
  exact h l (hlocals l hl hlne) r (hremotes r hr hrne) id hpairs hvalid hfamily

theorem NewUnreported.modifyCandidate {agent : IceAgent} (h : agent.NewUnreported) {c : Nat}
    {f : IceCandidate → IceCandidate}
    (hf : (f (agent.candidate c)).state = .new →
      (agent.candidate c).state = .new ∧
        (f (agent.candidate c)).reported = (agent.candidate c).reported) :
    (agent.modifyCandidate c f).NewUnreported := by
  intro d hd hnew
  by_cases hc : d = c
  · subst hc
    rw [candidate_modifyCandidate_self] at hnew ⊢
    obtain ⟨hold, hreported⟩ := hf hnew
    rw [hreported]
    exact h d hd hold
  · rw [candidate_modifyCandidate_of_ne agent hc] at hnew ⊢
    exact h d hd hnew

theorem NewUnreported.of_putsCandidate {a b : IceAgent} (h : a.NewUnreported)
    (hputs : PutsCandidate a b) (hreported : (b.candidate a.nextAddress).reported = false) :
    b.NewUnreported := by
  intro c hc hnew
  by_cases hne : c = a.nextAddress
  · rw [hne]
    exact hreported
  · rw [hputs.candidate c hne] at hnew ⊢
    rcases hputs.lists with ⟨heq, -⟩ | ⟨heq, -⟩
    · rw [heq] at hc
      exact h c ((List.mem_cons.mp hc).resolve_left hne) hnew
    · rw [heq] at hc
      exact h c hc hnew

theorem NewUnreported.of_sameCandidates {a b : IceAgent} (h : a.NewUnreported)
    (hsame : SameCandidates a b) : b.NewUnreported := by
  unfold NewUnreported
  rw [hsame.localCandidates, hsame.candidate]
  exact h

/-- **New candidates stay unreported.** -/
theorem NewUnreported.move {g : Guards} {a b : IceAgent} (hmove : Move g a b)
    (h : a.NewUnreported) : b.NewUnreported := by
  -- a candidate that learns its address is no longer new
  have hupdate : ∀ c ipAddress, (a.updateCandidateAddress c ipAddress).NewUnreported := by
    intro c ipAddress
    unfold IceAgent.updateCandidateAddress
    split_ifs
    · exact h.modifyCandidate fun hnew => nomatch hnew
    · exact h
  cases hmove with
  | other hsame hsession =>
    exact h.of_sameCandidates ⟨hsame.candidate, hsame.localCandidates, hsame.remoteCandidates⟩
  | markPair p nominated state hmarks => exact h
  | invalidate c hinvalid => exact h.modifyCandidate fun hnew => nomatch hnew
  | putTurnPeer c peerAddress => exact h.modifyCandidate fun hnew => ⟨hnew, rfl⟩
  | report c hstate htype =>
    exact h.modifyCandidate fun hnew => absurd (hstate.symm.trans hnew) (by decide)
  | learnAddress c ipAddress hmem htype hlearns => exact hupdate c ipAddress
  | replaceAddress c ipAddress hmem hreplaces => exact h.modifyCandidate fun hnew => ⟨hnew, rfl⟩
  | addLocal iceCandidateType ipAddress isPointToPoint =>
    apply h.of_putsCandidate (putsCandidate_addLocal a _ _ _ _)
    simp [IceAgent.addLocal, allocCandidate]
  | addHost ipAddress isPointToPoint =>
    refine NewUnreported.of_sameCandidates ?_ (sameCandidates_createIceCandidatePairs _ _ _)
    apply h.of_putsCandidate (putsCandidate_addLocal a _ _ _ _)
    simp [IceAgent.addLocal, allocCandidate]
  | addRemote iceCandidateType ipAddress priority hlen hnew =>
    refine NewUnreported.of_sameCandidates ?_ (sameCandidates_createIceCandidatePairs _ _ _)
    apply h.of_putsCandidate (putsCandidate_putRemote a _ _ _)
    simp [IceAgent.putRemote, allocCandidate]
  | allocateRelay c ipAddress hmem htype hnew =>
    exact (hupdate c ipAddress).of_sameCandidates (sameCandidates_createIceCandidatePairs _ _ _)
  | pairUp c hmem hunreported hpair =>
    refine NewUnreported.of_sameCandidates ?_ (sameCandidates_createIceCandidatePairs _ _ _)
    exact h.modifyCandidate fun hnew => absurd (hunreported.1.symm.trans hnew) (by decide)
  | freePairs keep hfrees => exact h
  | keepLocals keep hfrees => exact fun c hc => h c (List.mem_of_mem_filter hc)

/-- **A move that keeps to the guards leaves every combination with a pair.** -/
theorem Covered.move {a b : IceAgent} (hmove : Move coverGuards a b) (h : a.Covered) :
    b.Covered := by
  have hwf := h.wellFormed
  have hcovered := h.covered
  refine ⟨hwf.move hmove, h.unreported.move hmove, ?_⟩
  -- no local candidate is a remote one
  have hdisjoint : ∀ {P : Prop} {c : Nat}, c ∈ a.localCandidates → c ∈ a.remoteCandidates → P :=
    fun hl hr => absurd hr (hwf.disjoint _ hl)
  cases hmove with
  | other hsame hsession =>
    have hends := (sameLists_of_sameCore hsame).ends
    unfold CoveredBut HasPairs familyOf
    rw [hsame.candidate, hsame.localCandidates, hsame.remoteCandidates, hends]
    exact hcovered
  | markPair p nominated state hmarks =>
    have hends := (sameLists_markPair a p nominated state).ends
    unfold CoveredBut
    rw [hends]
    exact hcovered
  | invalidate c hinvalid =>
    apply hcovered.modifyCandidate
    · rintro r - ⟨hvalid, -⟩
      rw [candidate_modifyCandidate_self] at hvalid
      exact nomatch hvalid
    · exact fun _ hvalid => nomatch hvalid
  | putTurnPeer c peerAddress =>
    apply hcovered.modifyCandidate
    · intro r _ hpairs
      rw [HasPairs, candidate_modifyCandidate_self] at hpairs
      exact ⟨hpairs, rfl⟩
    · exact fun _ hvalid => ⟨hvalid, rfl⟩
  | report c hstate htype =>
    apply hcovered.modifyCandidate
    · intro r _ hpairs
      rw [HasPairs, candidate_modifyCandidate_self] at hpairs
      refine ⟨⟨hpairs.1, ?_⟩, rfl⟩
      rcases hpairs.2 with hhost | hrelayed | ⟨hsrflx, -⟩
      · exact .inl hhost
      · exact .inr (.inl hrelayed)
      · exact absurd hsrflx htype
    · exact fun _ hvalid => ⟨hvalid, rfl⟩
  | learnAddress c ipAddress hmem htype hlearns =>
    unfold IceAgent.updateCandidateAddress
    split_ifs with hnew
    · apply hcovered.modifyCandidate
      -- the timer has yet to report the candidate
      · intro r _ hpairs
        rw [HasPairs, candidate_modifyCandidate_self] at hpairs
        have hunreported := h.unreported c hmem hnew
        have hsrflx : (a.candidate c).iceCandidateType = .serverReflexive := hlearns
        simp only [hsrflx, hunreported] at hpairs
        simp at hpairs
      · exact fun hr _ => hdisjoint hmem hr
    · exact hcovered
  | replaceAddress c ipAddress hmem hreplaces =>
    apply hcovered.modifyCandidate
    · intro r _ hpairs
      rw [HasPairs, candidate_modifyCandidate_self] at hpairs
      simp at hpairs
    · exact fun hr _ => hdisjoint hmem hr
  | addLocal iceCandidateType ipAddress isPointToPoint =>
    apply hcovered.of_putsCandidate (putsCandidate_addLocal a _ _ _ _)
    intro l _ r hr _ hpairs
    refine ⟨?_, (hwf.remotes_lt r hr).ne⟩
    rintro rfl
    have hvalid := hpairs.1
    simp [IceAgent.addLocal, allocCandidate] at hvalid
  | addHost ipAddress isPointToPoint =>
    have hputs := putsCandidate_addLocal a .host ipAddress .valid isPointToPoint
    apply CoveredBut.createIceCandidatePairs (hwf.of_putsCandidate hputs)
    apply hcovered.of_putsCandidate hputs
    exact fun l _ r hr hnot _ => ⟨hnot, (hwf.remotes_lt r hr).ne⟩
  | addRemote iceCandidateType ipAddress priority hlen hnew =>
    have hputs := putsCandidate_putRemote a iceCandidateType ipAddress priority
    apply CoveredBut.createIceCandidatePairs (hwf.of_putsCandidate hputs)
    apply hcovered.of_putsCandidate hputs
    exact fun l hl r _ hnot _ => ⟨(hwf.locals_lt l hl).ne, hnot⟩
  | allocateRelay c ipAddress hmem htype hnew =>
    have hsame := sameLists_updateCandidateAddress a c ipAddress
    apply CoveredBut.createIceCandidatePairs (hwf.of_sameLists hsame)
    rw [updateCandidateAddress_eq_of_new hnew]
    apply hcovered.modifyCandidate
    · exact fun r hnot _ => absurd rfl hnot
    · exact fun hr _ => hdisjoint hmem hr
  | pairUp c hmem hunreported hpair =>
    have hsame := sameLists_report a c
    apply CoveredBut.createIceCandidatePairs (hwf.of_sameLists hsame)
    apply hcovered.modifyCandidate
    · exact fun r hnot _ => absurd rfl hnot
    · exact fun hr _ => hdisjoint hmem hr
  | freePairs keep hfrees => exact absurd hfrees id
  | keepLocals keep hfrees => exact absurd hfrees id

/-! ### The timer -/

/-- No server reflexive candidate has pairs before the timer has reported it. -/
def NoEarlyPairs (agent : IceAgent) : Prop :=
  ∀ c ∈ agent.localCandidates, agent.isUnreported c → ∀ e ∈ agent.ends, e.1 ≠ c

theorem NoEarlyPairs.congr {a b : IceAgent} {c : Nat} (h : a.NoEarlyPairs)
    (hlocals : b.localCandidates = a.localCandidates)
    (hother : ∀ d, d ≠ c → b.candidate d = a.candidate d) (hc : ¬ b.isUnreported c)
    (hends : ∀ e ∈ b.ends, e ∈ a.ends ∨ e.1 = c) : b.NoEarlyPairs := by
  intro d hd hunreported e he
  have hne : d ≠ c := by
    rintro rfl
    exact hc hunreported
  rw [hlocals] at hd
  unfold isUnreported at hunreported
  rw [hother d hne] at hunreported
  rcases hends e he with hold | hnew
  · exact h d hd hunreported e hold
  · rw [hnew]
    exact hne.symm

theorem mem_ends_of_createIceCandidatePairs {agent : IceAgent} (hwf : agent.WellFormed) {c : Nat}
    {e : Nat × Nat} (he : e ∈ (agent.createIceCandidatePairs c false).ends) :
    e ∈ agent.ends ∨ e.1 = c := by
  by_cases hvalid : (agent.candidate c).state = .valid
  · rw [(ends_createIceCandidatePairs hwf.pairs_lt hvalid false).mem_iff] at he
    rcases List.mem_append.mp he with hnew | hold
    · obtain ⟨d, -, rfl⟩ := List.mem_map.mp hnew
      exact .inr rfl
    · exact .inl hold
  · unfold createIceCandidatePairs at he
    rw [if_neg hvalid] at he
    exact .inl he

/-- What a round of the timer's loop does: it is done with its candidate, and leaves the others
alone. -/
structure Gathers (a b : IceAgent) (c : Nat) : Prop where
  localCandidates : b.localCandidates = a.localCandidates
  others : ∀ d, d ≠ c → b.candidate d = a.candidate d
  done : ¬ b.isUnreported c
  ends : ∀ e ∈ b.ends, e ∈ a.ends ∨ e.1 = c

theorem Gathers.createIceCandidatePairs {a b : IceAgent} {c : Nat} (hwf : b.WellFormed)
    (h : Gathers a b c) : Gathers a (b.createIceCandidatePairs c false) c := by
  have hsame := sameCandidates_createIceCandidatePairs b c false
  constructor
  · rw [hsame.localCandidates, h.localCandidates]
  · rw [hsame.candidate]
    exact h.others
  · unfold isUnreported
    rw [hsame.candidate]
    exact h.done
  · intro e he
    rcases mem_ends_of_createIceCandidatePairs hwf he with hold | hnew
    · exact h.ends e hold
    · exact .inr hnew

/-- A candidate that changes in its place so that the timer is done with it. -/
theorem gathers_modifyCandidate (agent : IceAgent) (c : Nat) (f : IceCandidate → IceCandidate)
    (hdone : ¬ (agent.modifyCandidate c f).isUnreported c) :
    Gathers agent (agent.modifyCandidate c f) c where
  localCandidates := rfl
  others := fun _ hd => candidate_modifyCandidate_of_ne agent hd f
  done := hdone
  ends := fun _ he => .inl he

theorem gathers_gatherCandidate (relayAddress : Nat → Option KvsIpAddress) {agent : IceAgent}
    (hwf : agent.WellFormed) (c : Nat) :
    Gathers agent (agent.gatherCandidate relayAddress c) c := by
  -- a candidate that has been reported or waits is left alone
  have hself : ¬ agent.isUnreported c → Gathers agent agent c :=
    fun hdone => ⟨rfl, fun _ _ => rfl, hdone, fun _ he => .inl he⟩
  have hreport : Gathers agent (agent.report c) c := by
    apply gathers_modifyCandidate
    rintro ⟨-, hreported, -⟩
    rw [candidate_modifyCandidate_self] at hreported
    exact nomatch hreported
  unfold gatherCandidate
  split_ifs with hnew hrelayed hvalid
  · split
    · next ipAddress _ =>
      have hsame := sameLists_updateCandidateAddress agent c ipAddress
      apply Gathers.createIceCandidatePairs (hwf.of_sameLists hsame)
      rw [updateCandidateAddress_eq_of_new hnew]
      apply gathers_modifyCandidate
      rintro ⟨-, -, htype⟩
      rw [candidate_modifyCandidate_self] at htype
      exact absurd (hrelayed.symm.trans htype) (by decide)
    · apply hself
      rintro ⟨-, -, htype⟩
      exact absurd (hrelayed.symm.trans htype) (by decide)
  · apply hself
    rintro ⟨hstate, -⟩
    exact absurd (hnew.symm.trans hstate) (by decide)
  · dsimp only
    split_ifs
    · have hsame : SameLists agent (agent.report c) :=
        sameLists_modifyCandidate agent c _ fun hc => hc
      exact hreport.createIceCandidatePairs (hwf.of_sameLists hsame)
    · exact hreport
  · apply hself
    rintro ⟨hstate, hreported, -⟩
    exact hvalid ⟨hstate, hreported⟩

theorem WellFormed.gatherCandidate (relayAddress : Nat → Option KvsIpAddress) {agent : IceAgent}
    (hwf : agent.WellFormed) {c : Nat} (hmem : c ∈ agent.localCandidates) :
    (agent.gatherCandidate relayAddress c).WellFormed :=
  (Moves.gatherCandidate (g := noGuards) relayAddress hmem fun _ => trivial).preserves
    (fun _ _ => WellFormed.move) hwf

/-- The rounds of the timer pair only candidates that have no pairs. -/
theorem NoEarlyPairs.allSteps (relayAddress : Nat → Option KvsIpAddress) {agent : IceAgent}
    (hwf : agent.WellFormed) (h : agent.NoEarlyPairs) {candidates : List Nat}
    (hmem : ∀ c ∈ candidates, c ∈ agent.localCandidates) :
    AllSteps (IceAgent.gatherCandidate relayAddress)
      (fun a c => a.isUnreported c → onceGuards.pairsUp a c) agent candidates := by
  induction candidates generalizing agent with
  | nil => trivial
  | cons c candidates ih =>
    have hc := hmem c List.mem_cons_self
    have hgathers := gathers_gatherCandidate relayAddress hwf c
    refine ⟨h c hc, ih (hwf.gatherCandidate relayAddress hc) ?_ ?_⟩
    · exact h.congr hgathers.localCandidates hgathers.others hgathers.done hgathers.ends
    · intro d hd
      rw [hgathers.localCandidates]
      exact hmem d (List.mem_cons_of_mem c hd)

theorem foldl_gatherCandidate_reports (relayAddress : Nat → Option KvsIpAddress) {agent : IceAgent}
    (hwf : agent.WellFormed) {candidates : List Nat}
    (hmem : ∀ c ∈ candidates, c ∈ agent.localCandidates) (c : Nat)
    (hc : ¬ agent.isUnreported c ∨ c ∈ candidates) :
    ¬ (candidates.foldl (IceAgent.gatherCandidate relayAddress) agent).isUnreported c := by
  induction candidates generalizing agent with
  | nil => exact hc.resolve_right List.not_mem_nil
  | cons d candidates ih =>
    have hd := hmem d List.mem_cons_self
    have hgathers := gathers_gatherCandidate relayAddress hwf d
    apply ih (hwf.gatherCandidate relayAddress hd)
    · intro e he
      rw [hgathers.localCandidates]
      exact hmem e (List.mem_cons_of_mem d he)
    · by_cases hcd : c = d
      · subst hcd
        exact .inl hgathers.done
      · unfold isUnreported at hc ⊢
        rw [hgathers.others c hcd]
        exact hc.imp_right fun hmem => (List.mem_cons.mp hmem).resolve_left hcd

theorem isUnreported_of_sendStunPacket {agent : IceAgent} {sent : SendResult} {c d : Nat}
    {destAddr : KvsIpAddress} (h : (agent.sendStunPacket sent c destAddr).isUnreported d) :
    agent.isUnreported d := by
  rw [sendStunPacket_eq] at h
  unfold isUnreported candidatesAfter at h
  dsimp only at h
  split_ifs at h
  · by_cases hd : d = c
    · subst hd
      rw [setCandidateState, candidate_modifyCandidate_self] at h
      exact nomatch h.1
    · rwa [setCandidateState, candidate_modifyCandidate_of_ne agent hd] at h
  · exact h

theorem sendSrflxCandidateRequest_spec (agent : IceAgent) (sent : Nat → SendResult)
    (stunServerAddr : Nat → KvsIpAddress) :
    (agent.sendSrflxCandidateRequest sent stunServerAddr).localCandidates = agent.localCandidates ∧
      ∀ d, (agent.sendSrflxCandidateRequest sent stunServerAddr).isUnreported d →
        agent.isUnreported d := by
  apply List.foldlRecOn (motive := fun b : IceAgent => b.localCandidates = agent.localCandidates ∧
    ∀ d, b.isUnreported d → agent.isUnreported d) agent.localCandidates
  · exact ⟨rfl, fun _ h => h⟩
  · rintro b ⟨hlocals, hb⟩ c -
    split_ifs
    · refine ⟨?_, fun d hd => hb d (isUnreported_of_sendStunPacket hd)⟩
      rw [sendStunPacket_eq]
      exact hlocals
    · exact ⟨hlocals, hb⟩

/-- **After the timer** every valid server reflexive candidate is reported. -/
theorem gatherTimer_reports (relayAddress : Nat → Option KvsIpAddress) (sent : Nat → SendResult)
    (stunServerAddr : Nat → KvsIpAddress) {agent : IceAgent} (hwf : agent.WellFormed) {c : Nat}
    (hc : c ∈ (agent.gatherCandidateTimerCallback relayAddress sent
      stunServerAddr).localCandidates) :
    ¬ (agent.gatherCandidateTimerCallback relayAddress sent stunServerAddr).isUnreported c := by
  obtain ⟨hlocals, hsend⟩ := sendSrflxCandidateRequest_spec
    (agent.localCandidates.foldl (IceAgent.gatherCandidate relayAddress) agent) sent stunServerAddr
  have hloop : (agent.localCandidates.foldl (IceAgent.gatherCandidate relayAddress)
      agent).localCandidates =
      agent.localCandidates :=
    List.foldlRecOn (motive := fun b => b.localCandidates = agent.localCandidates) _ _ rfl
      fun b hb d _ => (gatherCandidate_localCandidates relayAddress b d).trans hb
  unfold gatherCandidateTimerCallback at hc ⊢
  rw [hlocals, hloop] at hc
  intro hunreported
  exact foldl_gatherCandidate_reports relayAddress hwf (fun _ hd => hd) c (.inr hc)
    (hsend c hunreported)

/-! ### Runs -/

/-- When the timer runs, no server reflexive candidate that it has yet to report has pairs. -/
def GathersOnce (agent : IceAgent) : IceEvent → Prop
  | .gatherTimer _ _ _ => agent.NoEarlyPairs
  | _ => True

/-- The events of gathering: candidates come in and become valid, and only a server reflexive
candidate learns its address from a STUN server. -/
def IsGathering (platform : Platform) (agent : IceAgent) : IceEvent → Prop
  | .stunPacket buffer socketConnection _ _ agentHasId _ =>
    beNat (bytesAt buffer 0 2) = typeBindingResponseSuccess → agentHasId = true →
      ∀ c, agent.Learns platform buffer socketConnection c →
        (agent.candidate c).iceCandidateType = .serverReflexive
  | .stateTimer _ | .prune | .restartAgent _ => False
  | _ => True

theorem GathersOnce.admits {platform : Platform} {agent : IceAgent} (hwf : agent.WellFormed)
    {event : IceEvent} (h : agent.GathersOnce event) : onceGuards.Admits platform agent event := by
  cases event with
  | gatherTimer relayAddress sent stunServerAddr =>
    exact ⟨trivial, NoEarlyPairs.allSteps relayAddress hwf h fun _ hc => hc⟩
  | stunPacket buffer socketConnection srcAddr sent agentHasId pairHasId =>
    refine ⟨trivial, fun _ => ?_⟩
    split_ifs
    · exact fun _ _ => trivial
    · exact fun _ _ _ _ => trivial
  | stateTimer input => exact ⟨trivial, trivial⟩
  | restartAgent localIcePwd => exact ⟨trivial, trivial⟩
  | _ => trivial

theorem IsGathering.admits {platform : Platform} {agent : IceAgent} {event : IceEvent}
    (h : agent.IsGathering platform event) : coverGuards.Admits platform agent event := by
  cases event with
  | gatherTimer relayAddress sent stunServerAddr =>
    exact ⟨trivial, allSteps_of_forall (fun _ _ _ => trivial) agent agent.localCandidates⟩
  | stunPacket buffer socketConnection srcAddr sent agentHasId pairHasId =>
    refine ⟨trivial, fun hresponse => ?_⟩
    split_ifs with hid
    · exact h hresponse hid
    · exact fun _ _ _ _ => trivial
  | stateTimer input => exact absurd h id
  | prune => exact h
  | restartAgent localIcePwd => exact absurd h id
  | _ => trivial

theorem pairedOnce_createIceAgent (localPassword : List UInt8) (tieBreaker : UInt64) :
    (createIceAgent localPassword tieBreaker).PairedOnce :=
  ⟨wellFormed_createIceAgent localPassword tieBreaker, List.nodup_nil⟩

theorem covered_createIceAgent (localPassword : List UInt8) (tieBreaker : UInt64) :
    (createIceAgent localPassword tieBreaker).Covered where
  wellFormed := wellFormed_createIceAgent localPassword tieBreaker
  unreported := fun _ hc => absurd hc List.not_mem_nil
  covered := fun _ hl => absurd hl List.not_mem_nil

def IsPairedKind (iceCandidateType : IceCandidateType) : Prop :=
  iceCandidateType = .host ∨ iceCandidateType = .serverReflexive ∨ iceCandidateType = .relayed

/-- **After the timer** every combination of valid candidates of the same family has a pair. -/
theorem Covered.mem_ends_gatherTimer {relayAddress : Nat → Option KvsIpAddress}
    {sent : Nat → SendResult} {stunServerAddr : Nat → KvsIpAddress} {agent agent' : IceAgent}
    (hwf : agent.WellFormed)
    (hagent' : agent' = agent.gatherCandidateTimerCallback relayAddress sent stunServerAddr)
    (h : agent'.Covered) {l r : Nat} (hl : l ∈ agent'.localCandidates)
    (hr : r ∈ agent'.remoteCandidates) (hkind : IsPairedKind (agent'.candidate l).iceCandidateType)
    (hlvalid : (agent'.candidate l).state = .valid) (hrvalid : (agent'.candidate r).state = .valid)
    (hfamily : agent'.familyOf l = agent'.familyOf r) : (l, r) ∈ agent'.ends := by
  have hreported : ¬ agent'.isUnreported l := by
    rw [hagent'] at hl ⊢
    exact gatherTimer_reports relayAddress sent stunServerAddr hwf hl
  refine h.covered l hl r hr id ⟨hlvalid, ?_⟩ hrvalid hfamily
  rcases hkind with hhost | hsrflx | hrelayed
  · exact .inl hhost
  · refine .inr (.inr ⟨hsrflx, ?_⟩)
    by_contra hnot
    exact hreported ⟨hlvalid, by simpa using hnot, hsrflx⟩
  · exact .inr (.inl hrelayed)

end IceAgent

/-- **Pairs along runs**: in a run in which no server reflexive candidate has pairs before the timer
reports it, every combination of candidates has at most one pair at every point; and when candidates
have been gathered and the timer has run last, every combination of valid candidates of the same
family has exactly one. -/
theorem pairs_once_along {platform : Platform} {localPassword : List UInt8} {tieBreaker : UInt64}
    {events : List IceEvent}
    (h : AllSteps (IceAgent.step platform) IceAgent.GathersOnce
      (createIceAgent localPassword tieBreaker)
      events) :
    Along (IceAgent.step platform) (fun agent => agent.ends.Nodup)
        (createIceAgent localPassword tieBreaker) events ∧
      ∀ before relayAddress sent stunServerAddr,
        events = before ++ [.gatherTimer relayAddress sent stunServerAddr] →
        AllSteps (IceAgent.step platform) (IceAgent.IsGathering platform)
          (createIceAgent localPassword tieBreaker) events →
        ∀ agent, agent = (createIceAgent localPassword tieBreaker).run platform events →
          ∀ l ∈ agent.localCandidates, ∀ r ∈ agent.remoteCandidates,
            IceAgent.IsPairedKind (agent.candidate l).iceCandidateType →
            (agent.candidate l).state = .valid → (agent.candidate r).state = .valid →
            agent.familyOf l = agent.familyOf r → agent.ends.count (l, r) = 1 := by
  have hstep : ∀ agent event, IceAgent.PairedOnce agent → agent.GathersOnce event →
      (agent.step platform event).PairedOnce := by
    intro agent event hagent hgathers
    exact (hgathers.admits hagent.wellFormed).moves.preserves (fun _ _ =>
      IceAgent.PairedOnce.move) hagent
  have honce := h.along hstep (IceAgent.pairedOnce_createIceAgent localPassword tieBreaker)
  refine ⟨honce.mono fun _ hagent => hagent.nodup, ?_⟩
  rintro before relayAddress sent stunServerAddr rfl hgathering agent hagent l hl r hr hkind hlvalid
    hrvalid
    hfamily
  -- gathering has paired whatever was there before the last tick
  have hcovered : agent.Covered := by
    rw [hagent]
    exact (hgathering.along
      (fun agent event hagent hevent =>
        hevent.admits.moves.preserves (fun _ _ => IceAgent.Covered.move) hagent)
      (IceAgent.covered_createIceAgent localPassword tieBreaker)).last
  have hnodup : agent.ends.Nodup := by
    rw [hagent]
    exact honce.last.nodup
  have hlast : agent = ((createIceAgent localPassword tieBreaker).run platform
      before).gatherCandidateTimerCallback relayAddress sent stunServerAddr := by
    rw [hagent, IceAgent.run, List.foldl_append]
    rfl
  have hwf := wellFormed_run platform localPassword tieBreaker before
  exact List.count_eq_one_of_mem hnodup
    (hcovered.mem_ends_gatherTimer hwf hlast hl hr hkind hlvalid hrvalid hfamily)

def sampleServerResponse : List UInt8 :=
  [1, 1, 0, 12, 0x21, 0x12, 0xA4, 0x42] ++ List.replicate 12 0 ++ [0, 0x20, 0, 8, 0, 1, 0, 9, 1, 2,
  3, 4]

/-- A host candidate and a server reflexive one, which learns its address. -/
def sampleGathering : List IceEvent :=
  [.initHostCandidate ⟨familyIpv4, [0, 0], [192, 0, 2, 7]⟩ [0, 9] false,
    .initSrflxCandidate [⟨false, familyIpv4, 0⟩],
    .stunPacket sampleServerResponse 1 ⟨familyIpv4, [0, 0], [192, 0, 2, 9]⟩ .ok true false]

def sampleTimer : IceEvent := .gatherTimer (fun _ => none) (fun _ => .ok) (fun _ => ⟨0, [], []⟩)

/-- A remote candidate comes in after the timer has run. -/
theorem pairs_once_along_sample :
    Along (IceAgent.step samplePlatform) (fun agent => agent.ends.Nodup) (createIceAgent [] 0)
      (sampleGathering ++ [sampleTimer, .addRemoteCandidate (sampleCandidate 5000),
      sampleTimer]) := by
  refine (pairs_once_along ?_).1
  refine ⟨trivial, trivial, trivial, ?_, trivial, ?_, trivial⟩
  all_goals
    show ∀ c ∈ _, _ → ∀ e ∈ _, _
    decide +kernel

/-- A remote candidate comes in before the timer runs, and has two pairs with the server reflexive
one. -/
theorem early_remote_candidate_paired_twice :
    ¬ ∀ (platform : Platform) (localPassword : List UInt8) (tieBreaker : UInt64)
        (events : List IceEvent),
      AllSteps (IceAgent.step platform) (IceAgent.IsGathering platform)
          (createIceAgent localPassword tieBreaker) events →
        Along (IceAgent.step platform) (fun agent => agent.ends.Nodup)
          (createIceAgent localPassword tieBreaker) events := by
  intro h
  have halong := h samplePlatform [] 0
    (sampleGathering ++ [.addRemoteCandidate (sampleCandidate 5000), sampleTimer])
    ⟨trivial, trivial, ?_, trivial, trivial, trivial⟩
  · exact absurd halong.last (by decide +kernel)
  · rintro - - c ⟨hc, -⟩
    have hfind : some c = some 1 := hc.symm.trans (by decide +kernel)
    obtain rfl := Option.some.inj hfind
    decide +kernel

end KvsWebrtc.Ice
