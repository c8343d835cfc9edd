import KvsWebrtc.Ice.Equiv.Nomination

/-!
# Remote candidates

The remote candidates are at most `KVS_ICE_MAX_REMOTE_CANDIDATE_COUNT` and have different addresses
after every run (`RemotesOk.move`), and the candidates of a pair have the same family as long as no
local candidate takes an address of another family from the peer (`SameFamily.move`).

A candidate string that is rejected leaves the candidates and pairs as they were, except that the
check for room in the TURN connections comes after the candidate and its pairs have been added
(`rejection_keeps_iff`).
-/

namespace KvsWebrtc.Ice

open Stun

def addressKey (a : KvsIpAddress) : Nat × List UInt8 × List UInt8 :=
  (a.family, a.address.take (ipAddressLength a.family), a.port)

theorem sameIpAddress_iff (a b : KvsIpAddress) :
    sameIpAddress a b true ↔ addressKey a = addressKey b := by
  unfold sameIpAddress addressKey
  simp only [Bool.and_eq_true, beq_iff_eq, Bool.not_true, Bool.false_or, Prod.mk.injEq]
  constructor
  · rintro ⟨⟨hfamily, haddress⟩, hport⟩
    exact ⟨hfamily, hfamily ▸ haddress, hport⟩
  · rintro ⟨hfamily, haddress, hport⟩
    rw [← hfamily] at haddress
    exact ⟨⟨hfamily, haddress⟩, hport⟩

namespace IceAgent

theorem findCandidateWithIp_eq_none {agent : IceAgent} {ipAddress : KvsIpAddress}
    {candidates : List Nat} :
    agent.findCandidateWithIp ipAddress candidates = none ↔
      addressKey ipAddress ∉ candidates.map fun c => addressKey (agent.candidate c).ipAddress := by
  unfold findCandidateWithIp
  simp only [List.find?_eq_none, sameIpAddress_iff, List.mem_map, not_exists, not_and]
  exact forall₂_congr fun _ _ => not_congr eq_comm

/-! ### The list of remote candidates -/

def remoteKeys (agent : IceAgent) : List (Nat × List UInt8 × List UInt8) :=
  agent.remoteCandidates.map fun c => addressKey (agent.candidate c).ipAddress

/-- There are not too many remote candidates, and their addresses differ. -/
structure RemotesOk (agent : IceAgent) : Prop where
  length_le : agent.remoteCandidates.length ≤ kvsIceMaxRemoteCandidateCount
  nodup : agent.remoteKeys.Nodup

theorem RemotesOk.congr {a b : IceAgent} (h : a.RemotesOk)
    (hlist : b.remoteCandidates = a.remoteCandidates)
    (haddress : ∀ c ∈ a.remoteCandidates, (b.candidate c).ipAddress = (a.candidate c).ipAddress) :
    b.RemotesOk := by
  refine ⟨hlist ▸ h.length_le, ?_⟩
  have hkeys : b.remoteKeys = a.remoteKeys := by
    unfold remoteKeys
    rw [hlist]
    exact List.map_congr_left fun c hc => by rw [haddress c hc]
  rw [hkeys]
  exact h.nodup

/-- A change of a candidate in its place that leaves its address alone. -/
theorem ipAddress_modifyCandidate (agent : IceAgent) (c : Nat) (f : IceCandidate → IceCandidate)
    (hf : (f (agent.candidate c)).ipAddress = (agent.candidate c).ipAddress) (d : Nat) :
    ((agent.modifyCandidate c f).candidate d).ipAddress = (agent.candidate d).ipAddress := by
  by_cases hd : d = c
  · subst hd
    rw [candidate_modifyCandidate_self, hf]
  · rw [candidate_modifyCandidate_of_ne agent hd]

theorem candidate_updateCandidateAddress_of_ne (agent : IceAgent) (c : Nat)
    (ipAddress : KvsIpAddress) {d : Nat} (hd : d ≠ c) :
    (agent.updateCandidateAddress c ipAddress).candidate d = agent.candidate d := by
  unfold updateCandidateAddress
  split_ifs
  · exact candidate_modifyCandidate_of_ne agent hd _
  · rfl

theorem RemotesOk.putRemote {agent : IceAgent} (hwf : agent.WellFormed) (h : agent.RemotesOk)
    (iceCandidateType : IceCandidateType) {ipAddress : KvsIpAddress} (priority : Nat)
    (hlen : agent.remoteCandidates.length < kvsIceMaxRemoteCandidateCount)
    (hnew : agent.findCandidateWithIp ipAddress agent.remoteCandidates = none) :
    (agent.putRemote iceCandidateType ipAddress priority).RemotesOk := by
  have hputs := putsCandidate_putRemote agent iceCandidateType ipAddress priority
  refine ⟨hlen, ?_⟩
  have hkeys : (agent.putRemote iceCandidateType ipAddress priority).remoteKeys =
      addressKey ipAddress :: agent.remoteKeys := by
    show List.map _ (agent.nextAddress :: agent.remoteCandidates) = _
    rw [List.map_cons]
    congr 1
    · simp [IceAgent.putRemote, allocCandidate]
    · apply List.map_congr_left
      intro c hc
      rw [hputs.candidate c (hwf.remotes_lt c hc).ne]
  rw [hkeys]
  exact List.nodup_cons.mpr ⟨findCandidateWithIp_eq_none.mp hnew, h.nodup⟩

theorem RemotesOk.of_sameCandidates {a b : IceAgent} (h : a.RemotesOk)
    (hsame : SameCandidates a b) :
    b.RemotesOk :=
  h.congr hsame.remoteCandidates fun c _ => by rw [hsame.candidate]

/-- **No move breaks the list of remote candidates.** -/
theorem RemotesOk.move {g : Guards} {a b : IceAgent} (hmove : Move g a b) (hwf : a.WellFormed)
    (h : a.RemotesOk) : b.RemotesOk := by
  -- a local candidate is not remote
  have hne : ∀ c ∈ a.localCandidates, ∀ d ∈ a.remoteCandidates, d ≠ c := by
    rintro c hc d hd rfl
    exact hwf.disjoint d hc hd
  -- neither is one that is new in memory
  have hfresh : ∀ d ∈ a.remoteCandidates, d ≠ a.nextAddress := fun d hd => (hwf.remotes_lt d hd).ne
  cases hmove with
  | other hsame hsession => exact h.congr hsame.remoteCandidates fun c _ => by rw [hsame.candidate]
  | markPair p nominated state hmarks => exact h.congr rfl fun _ _ => rfl
  | invalidate c hinvalid => exact h.congr rfl fun d _ => ipAddress_modifyCandidate a c _ rfl d
  | putTurnPeer c peerAddress => exact h.congr rfl fun d _ => ipAddress_modifyCandidate a c _ rfl d
  | report c hstate htype => exact h.congr rfl fun d _ => ipAddress_modifyCandidate a c _ rfl d
  | learnAddress c ipAddress hmem htype hlearns =>
    apply h.congr (sameLists_updateCandidateAddress a c ipAddress).remoteCandidates
    intro d hd
    rw [candidate_updateCandidateAddress_of_ne a c ipAddress (hne c hmem d hd)]
  | replaceAddress c ipAddress hmem hreplaces =>
    refine h.congr rfl ?_
    intro d hd
    rw [IceAgent.replaceAddress, candidate_modifyCandidate_of_ne a (hne c hmem d hd)]
  | addLocal iceCandidateType ipAddress isPointToPoint =>
    refine h.congr rfl ?_
    intro d hd
    rw [(putsCandidate_addLocal a _ _ _ _).candidate d (hfresh d hd)]
  | addHost ipAddress isPointToPoint =>
    refine RemotesOk.of_sameCandidates ?_ (sameCandidates_createIceCandidatePairs _ _ _)
    refine h.congr rfl ?_
    intro d hd
    rw [(putsCandidate_addLocal a _ _ _ _).candidate d (hfresh d hd)]
  | addRemote iceCandidateType ipAddress priority hlen hnew =>
    refine RemotesOk.of_sameCandidates ?_ (sameCandidates_createIceCandidatePairs _ _ _)
    exact h.putRemote hwf iceCandidateType priority hlen hnew
  | allocateRelay c ipAddress hmem htype hnew =>
    refine RemotesOk.of_sameCandidates ?_ (sameCandidates_createIceCandidatePairs _ _ _)
    apply h.congr (sameLists_updateCandidateAddress a c ipAddress).remoteCandidates
    intro d hd
    rw [candidate_updateCandidateAddress_of_ne a c ipAddress (hne c hmem d hd)]
  | pairUp c hmem hunreported hpair =>
    refine RemotesOk.of_sameCandidates ?_ (sameCandidates_createIceCandidatePairs _ _ _)
    exact h.congr rfl fun d _ => ipAddress_modifyCandidate a c _ rfl d
  | freePairs keep hfrees => exact h.congr rfl fun _ _ => rfl
  | keepLocals keep hfrees => exact h.congr rfl fun _ _ => rfl

/-! ### Families -/

def familyOf (agent : IceAgent) (c : Nat) : Nat := (agent.candidate c).ipAddress.family

def SameFamily (agent : IceAgent) : Prop :=
  ∀ e ∈ agent.ends, agent.familyOf e.1 = agent.familyOf e.2

theorem SameFamily.congr {a b : IceAgent} (h : a.SameFamily) (hends : ∀ e ∈ b.ends, e ∈ a.ends)
    (hfamily : ∀ e ∈ a.ends, b.familyOf e.1 = a.familyOf e.1 ∧ b.familyOf e.2 = a.familyOf e.2) :
    b.SameFamily := by
  intro e he
  obtain ⟨hl, hr⟩ := hfamily e (hends e he)
  rw [hl, hr]
  exact h e (hends e he)

theorem SameFamily.createIceCandidatePairs {agent : IceAgent} (hwf : agent.WellFormed)
    (h : agent.SameFamily) (c : Nat) (isRemoteCandidate : Bool) :
    (agent.createIceCandidatePairs c isRemoteCandidate).SameFamily := by
  have hloop : (∀ p ∈ (agent.createIceCandidatePairs c isRemoteCandidate).iceCandidatePairs,
        p < (agent.createIceCandidatePairs c isRemoteCandidate).nextAddress) ∧
      ∀ e ∈ (agent.createIceCandidatePairs c isRemoteCandidate).ends,
        agent.familyOf e.1 = agent.familyOf e.2 := by
    apply createIceCandidatePairs_induction (P := fun b =>
      (∀ p ∈ b.iceCandidatePairs, p < b.nextAddress) ∧
        ∀ e ∈ b.ends, agent.familyOf e.1 = agent.familyOf e.2) ⟨hwf.pairs_lt, h⟩
    rintro b l r hsame hjoins ⟨hlt, hb⟩
    refine ⟨pairs_lt_addPair hlt l r, ?_⟩
    intro e he
    rcases List.mem_cons.mp ((ends_addPair hlt l r).mem_iff.mp he) with rfl | he
    · exact hjoins.family
    · exact hb e he
  intro e he
  unfold familyOf
  rw [(sameCandidates_createIceCandidatePairs agent c isRemoteCandidate).candidate]
  exact hloop.2 e he

/-- A local candidate takes only an address of its own family from the peer. -/
def familyGuards : Guards where
  learns := fun _ _ => True
  replaces := fun agent c ipAddress => ipAddress.family = agent.familyOf c
  pairsUp := fun _ _ => True
  marks := True
  frees := True

theorem familyOf_modifyCandidate (agent : IceAgent) (c : Nat) (f : IceCandidate → IceCandidate)
    (hf : (f (agent.candidate c)).ipAddress.family = agent.familyOf c) (d : Nat) :
    (agent.modifyCandidate c f).familyOf d = agent.familyOf d := by
  unfold familyOf
  by_cases hd : d = c
  · subst hd
    rw [candidate_modifyCandidate_self, hf, familyOf]
  · rw [candidate_modifyCandidate_of_ne agent hd]

theorem SameFamily.updateCandidateAddress {agent : IceAgent} (hwf : agent.WellFormed)
    (h : agent.SameFamily) {c : Nat} (hmem : c ∈ agent.localCandidates) (ipAddress : KvsIpAddress) :
    (agent.updateCandidateAddress c ipAddress).SameFamily := by
  by_cases hnew : (agent.candidate c).state = .new
  · have hends := (sameLists_updateCandidateAddress agent c ipAddress).ends
    apply h.congr fun e he => hends ▸ he
    -- a candidate that is new has no pairs
    intro e he
    have hl : e.1 ≠ c := by
      rintro rfl
      exact hwf.ends_state e he hnew
    have hr : e.2 ≠ c := by
      rintro rfl
      exact hwf.disjoint e.2 hmem (hwf.ends_remote e he)
    unfold familyOf
    rw [candidate_updateCandidateAddress_of_ne agent c ipAddress hl,
      candidate_updateCandidateAddress_of_ne agent c ipAddress hr]
    exact ⟨rfl, rfl⟩
  · unfold IceAgent.updateCandidateAddress
    rw [if_neg hnew]
    exact h

theorem SameFamily.of_putsCandidate {a b : IceAgent} (hwf : a.WellFormed) (h : a.SameFamily)
    (hputs : PutsCandidate a b) : b.SameFamily := by
  apply h.congr fun e he => hputs.ends ▸ he
  intro e he
  unfold familyOf
  rw [hputs.candidate e.1 (hwf.ends_lt e he).ne,
    hputs.candidate e.2 (hwf.remotes_lt e.2 (hwf.ends_remote e he)).ne]
  exact ⟨rfl, rfl⟩

theorem SameFamily.modifyCandidate {agent : IceAgent} (h : agent.SameFamily) {c : Nat}
    {f : IceCandidate → IceCandidate}
    (hf : (f (agent.candidate c)).ipAddress.family = agent.familyOf c) :
    (agent.modifyCandidate c f).SameFamily :=
  h.congr (fun _ he => he) fun e _ =>
    ⟨familyOf_modifyCandidate agent c f hf e.1, familyOf_modifyCandidate agent c f hf e.2⟩

/-- **A move that keeps to the guards keeps the families of pairs.** -/
theorem SameFamily.move {a b : IceAgent} (hmove : Move familyGuards a b) (hwf : a.WellFormed)
    (h : a.SameFamily) : b.SameFamily := by
  cases hmove with
  | other hsame hsession =>
    have hends := (sameLists_of_sameCore hsame).ends
    apply h.congr fun e he => hends ▸ he
    intro e _
    unfold familyOf
    rw [hsame.candidate]
    exact ⟨rfl, rfl⟩
  | markPair p nominated state hmarks =>
    have hends := (sameLists_markPair a p nominated state).ends
    exact h.congr (fun e he => hends ▸ he) fun _ _ => ⟨rfl, rfl⟩
  | invalidate c hinvalid => exact h.modifyCandidate rfl
  | putTurnPeer c peerAddress => exact h.modifyCandidate rfl
  | report c hstate htype => exact h.modifyCandidate rfl
  | learnAddress c ipAddress hmem htype hlearns => exact h.updateCandidateAddress hwf hmem ipAddress
  | replaceAddress c ipAddress hmem hreplaces => exact h.modifyCandidate hreplaces
  | addLocal iceCandidateType ipAddress isPointToPoint =>
    exact h.of_putsCandidate hwf (putsCandidate_addLocal a _ _ _ _)
  | addHost ipAddress isPointToPoint =>
    have hputs := putsCandidate_addLocal a .host ipAddress .valid isPointToPoint
    exact (h.of_putsCandidate hwf hputs).createIceCandidatePairs (hwf.of_putsCandidate hputs) _ _
  | addRemote iceCandidateType ipAddress priority hlen hnew =>
    have hputs := putsCandidate_putRemote a iceCandidateType ipAddress priority
    exact (h.of_putsCandidate hwf hputs).createIceCandidatePairs (hwf.of_putsCandidate hputs) _ _
  | allocateRelay c ipAddress hmem htype hnew =>
    have hsame := sameLists_updateCandidateAddress a c ipAddress
    exact (h.updateCandidateAddress hwf hmem ipAddress).createIceCandidatePairs
      (hwf.of_sameLists hsame) _ _
  | pairUp c hmem hunreported hpair =>
    have hsame := sameLists_report a c
    have hreport : (a.report c).SameFamily := h.modifyCandidate rfl
    exact hreport.createIceCandidatePairs (hwf.of_sameLists hsame) _ _
  | freePairs keep hfrees =>
    exact h.congr (fun e he => (ends_freePairs a keep).subset he) fun _ _ => ⟨rfl, rfl⟩
  | keepLocals keep hfrees => exact h.congr (fun _ he => he) fun _ _ => ⟨rfl, rfl⟩

/-! ### Rejected candidates -/

def takesPeer (agent : IceAgent) (peerAddress : KvsIpAddress) (c : Nat) : Prop :=
  (agent.candidate c).iceCandidateType = .relayed → peerAddress.family = familyIpv4 →
    (agent.candidate c).turnPeers.any (fun peer => sameIpAddress peer peerAddress true) ∨
      (agent.candidate c).turnPeers.length < defaultTurnMaxPeerCount

/-- The string is well-formed, and its candidate is not known yet. -/
structure IsNew (platform : Platform) (agent : IceAgent) (iceCandidateString : List Char)
    (parsed : ParsedCandidate) : Prop where
  ne_nil : iceCandidateString ≠ []
  length_lt : agent.remoteCandidates.length < kvsIceMaxRemoteCandidateCount
  parse : parseCandidate platform.inetPton platform.strtoui32 iceCandidateString = .ok parsed
  foundIp : parsed.foundIp = true
  unknown : agent.findCandidateWithIp parsed.ipAddress agent.remoteCandidates = none

def IsDuplicate (platform : Platform) (agent : IceAgent) (iceCandidateString : List Char) : Prop :=
  ∃ parsed, parseCandidate platform.inetPton platform.strtoui32 iceCandidateString = .ok parsed ∧
    parsed.foundIp = true ∧
    (agent.findCandidateWithIp parsed.ipAddress agent.remoteCandidates).isSome

/-- The candidate is not taken: the call fails, as it does for a malformed string, or the candidate
is known already. -/
def Rejects (platform : Platform) (agent : IceAgent) (iceCandidateString : List Char) : Prop :=
  (agent.addRemoteCandidate platform.inetPton platform.strtoui32 iceCandidateString).1 ≠ .success ∨
    agent.IsDuplicate platform iceCandidateString

/-- The remote candidates and the pairs are as they were. -/
structure Unchanged (a b : IceAgent) : Prop where
  remoteCandidates : b.remoteCandidates = a.remoteCandidates
  iceCandidatePairs : b.iceCandidatePairs = a.iceCandidatePairs
  candidate : ∀ c ∈ a.remoteCandidates, b.candidate c = a.candidate c
  pair : ∀ p ∈ a.iceCandidatePairs, b.pair p = a.pair p

theorem Unchanged.refl (agent : IceAgent) : Unchanged agent agent :=
  ⟨rfl, rfl, fun _ _ => rfl, fun _ _ => rfl⟩

/-- Every TURN connection has room for a candidate that is new. -/
def HasRoom (platform : Platform) (agent : IceAgent) (iceCandidateString : List Char) : Prop :=
  ∀ parsed, agent.IsNew platform iceCandidateString parsed →
    ∀ c ∈ agent.localCandidates, agent.takesPeer parsed.ipAddress c

/-- A string that is not that of a new candidate changes nothing. -/
theorem addRemoteCandidate_of_not_isNew {platform : Platform} {agent : IceAgent}
    {iceCandidateString : List Char}
    (h : ∀ parsed, ¬ agent.IsNew platform iceCandidateString parsed) :
    (agent.addRemoteCandidate platform.inetPton platform.strtoui32 iceCandidateString).2 =
      agent := by
  unfold addRemoteCandidate
  split_ifs with hempty hlen
  · rfl
  · rfl
  · split
    · rfl
    · next parsed hparse =>
      split_ifs with hip
      · rfl
      · split
        · rfl
        · next hnew =>
          exact absurd ⟨hempty, Nat.lt_of_not_le hlen, hparse, by simpa using hip, hnew⟩ (h parsed)

theorem IsNew.addRemoteCandidate_eq {platform : Platform} {agent : IceAgent}
    {iceCandidateString : List Char} {parsed : ParsedCandidate}
    (h : agent.IsNew platform iceCandidateString parsed) :
    agent.addRemoteCandidate platform.inetPton platform.strtoui32 iceCandidateString =
      addTurnPeer parsed.ipAddress agent.localCandidates
        (agent.addRemote parsed.iceCandidateType parsed.ipAddress parsed.priority) := by
  unfold addRemoteCandidate
  rw [if_neg h.ne_nil, if_neg (Nat.not_le_of_lt h.length_lt), h.parse]
  simp only [h.foundIp, h.unknown, Bool.true_eq_false, if_false]

theorem IsNew.not_isDuplicate {platform : Platform} {agent : IceAgent}
    {iceCandidateString : List Char} {parsed : ParsedCandidate}
    (h : agent.IsNew platform iceCandidateString parsed) :
    ¬ agent.IsDuplicate platform iceCandidateString := by
  rintro ⟨parsed', hparse, -, hsome⟩
  rw [h.parse] at hparse
  obtain rfl := Except.ok.inj hparse
  rw [h.unknown] at hsome
  exact absurd hsome (by decide)

theorem turnConnectionAddPeer_fst (agent : IceAgent) (c : Nat) (peerAddress : KvsIpAddress) :
    (agent.turnConnectionAddPeer c peerAddress).1 = .success ↔
      (agent.candidate c).turnPeers.any (fun peer => sameIpAddress peer peerAddress true) ∨
        (agent.candidate c).turnPeers.length < defaultTurnMaxPeerCount := by
  unfold turnConnectionAddPeer
  split_ifs with hany hlen
  · exact ⟨fun _ => .inl hany, fun _ => rfl⟩
  · exact ⟨fun _ => .inr hlen, fun _ => rfl⟩
  · exact ⟨fun h => (nomatch h), fun h => absurd h (not_or.mpr ⟨hany, hlen⟩)⟩

theorem sameIpAddress_self (a : KvsIpAddress) : sameIpAddress a a true :=
  (sameIpAddress_iff a a).mpr rfl

/-- A TURN connection that has taken the peer takes it again, and the others are as they were. -/
theorem takesPeer_turnConnectionAddPeer {agent : IceAgent} {c : Nat} {peerAddress : KvsIpAddress}
    (hc : agent.takesPeer peerAddress c)
    (hok : (agent.turnConnectionAddPeer c peerAddress).1 = .success) (d : Nat) :
    (agent.turnConnectionAddPeer c peerAddress).2.takesPeer peerAddress d ↔
      agent.takesPeer peerAddress d := by
  unfold turnConnectionAddPeer at hok ⊢
  split_ifs at hok ⊢ with hany hlen
  · exact Iff.rfl
  · unfold takesPeer at hc ⊢
    by_cases hd : d = c
    · subst hd
      refine iff_of_true (fun _ _ => ?_) hc
      rw [candidate_modifyCandidate_self]
      left
      rw [List.any_append, Bool.or_eq_true]
      right
      simp [sameIpAddress_self]
    · rw [candidate_modifyCandidate_of_ne agent hd]

theorem addTurnPeer_fst (peerAddress : KvsIpAddress) (candidates : List Nat) (agent : IceAgent) :
    (addTurnPeer peerAddress candidates agent).1 = .success ↔
      ∀ c ∈ candidates, agent.takesPeer peerAddress c := by
  induction candidates generalizing agent with
  | nil => exact ⟨fun _ c hc => absurd hc List.not_mem_nil, fun _ => rfl⟩
  | cons c candidates ih =>
    rw [List.forall_mem_cons]
    unfold addTurnPeer
    split_ifs with hrelayed
    · have hfst := turnConnectionAddPeer_fst agent c peerAddress
      have htakes : agent.takesPeer peerAddress c ↔
          (agent.turnConnectionAddPeer c peerAddress).1 = .success := by
        rw [hfst]
        exact ⟨fun h => h hrelayed.1 hrelayed.2, fun h _ _ => h⟩
      split
      · next agent' heq =>
        have hok : (agent.turnConnectionAddPeer c peerAddress).1 = .success := by rw [heq]
        have hc := htakes.mpr hok
        rw [ih]
        have hstep := takesPeer_turnConnectionAddPeer hc hok
        rw [heq] at hstep
        exact ⟨fun h => ⟨hc, fun d hd => (hstep d).mp (h d hd)⟩,
          fun h d hd => (hstep d).mpr (h.2 d hd)⟩
      · next hfailed =>
        constructor
        · intro h
          have heq : agent.turnConnectionAddPeer c peerAddress =
            (.success, (agent.turnConnectionAddPeer c peerAddress).2) := Prod.ext h rfl
          exact absurd heq (hfailed _)
        · rintro ⟨hc, -⟩
          exact htakes.mp hc
    · rw [ih]
      refine ⟨fun h => ⟨fun htype hfamily => absurd ⟨htype, hfamily⟩ hrelayed, h⟩, fun h => h.2⟩

theorem remoteCandidates_addTurnPeer (peerAddress : KvsIpAddress) (candidates : List Nat)
    (agent : IceAgent) :
    (addTurnPeer peerAddress candidates agent).2.remoteCandidates = agent.remoteCandidates := by
  have hpeer : ∀ (a : IceAgent) c,
      (a.turnConnectionAddPeer c peerAddress).2.remoteCandidates = a.remoteCandidates := by
    intro a c
    unfold turnConnectionAddPeer
    split_ifs <;> rfl
  induction candidates generalizing agent with
  | nil => rfl
  | cons c candidates ih =>
    have hc := hpeer agent c
    unfold addTurnPeer
    split_ifs
    · split
      · next heq =>
        rw [heq] at hc
        rw [ih, hc]
      · exact hc
    · exact ih agent

theorem IsNew.addRemoteCandidate_fst {platform : Platform} {agent : IceAgent}
    {iceCandidateString : List Char} {parsed : ParsedCandidate} (hwf : agent.WellFormed)
    (h : agent.IsNew platform iceCandidateString parsed) :
    (agent.addRemoteCandidate platform.inetPton platform.strtoui32 iceCandidateString).1 =
      .success ↔
      ∀ c ∈ agent.localCandidates, agent.takesPeer parsed.ipAddress c := by
  rw [h.addRemoteCandidate_eq, addTurnPeer_fst]
  refine forall₂_congr fun c hc => ?_
  have hputs := putsCandidate_putRemote agent parsed.iceCandidateType parsed.ipAddress
    parsed.priority
  unfold takesPeer
  rw [addRemote_eq, (sameCandidates_createIceCandidatePairs _ _ _).candidate,
    hputs.candidate c (hwf.locals_lt c hc).ne]

/-- **Rejected candidates**: they leave the candidates and pairs as they were exactly if every TURN
connection has room for the candidate, if it is new. -/
theorem rejection_keeps_iff {platform : Platform} {agent : IceAgent} (hwf : agent.WellFormed)
    (iceCandidateString : List Char) :
    (agent.Rejects platform iceCandidateString →
      Unchanged agent
        (agent.addRemoteCandidate platform.inetPton platform.strtoui32 iceCandidateString).2) ↔
      agent.HasRoom platform iceCandidateString := by
  constructor
  · intro h parsed hnew
    rw [← hnew.addRemoteCandidate_fst hwf]
    by_contra hfailed
    have hsame := (h (.inl hfailed)).remoteCandidates
    rw [hnew.addRemoteCandidate_eq, remoteCandidates_addTurnPeer, addRemote_eq,
      (sameCandidates_createIceCandidatePairs _ _ _).remoteCandidates] at hsame
    exact List.cons_ne_self _ _ hsame
  · intro h hrejects
    by_cases hnew : ∃ parsed, agent.IsNew platform iceCandidateString parsed
    · obtain ⟨parsed, hnew⟩ := hnew
      rcases hrejects with hfailed | hduplicate
      · exact absurd ((hnew.addRemoteCandidate_fst hwf).mpr (h parsed hnew)) hfailed
      · exact absurd hduplicate hnew.not_isDuplicate
    · rw [addRemoteCandidate_of_not_isNew (not_exists.mp hnew)]
      exact Unchanged.refl agent

/-- A discovery of a known candidate, or of one too many, changes nothing. -/
theorem checkRemotePeerReflexiveCandidate_eq {agent : IceAgent} {ipAddress : KvsIpAddress}
    (h : kvsIceMaxRemoteCandidateCount ≤ agent.remoteCandidates.length ∨
      (agent.findCandidateWithIp ipAddress agent.remoteCandidates).isSome) (priority : Nat) :
    agent.checkRemotePeerReflexiveCandidate ipAddress priority = agent := by
  unfold checkRemotePeerReflexiveCandidate
  split_ifs with hlen
  · rfl
  · split
    · rfl
    · next hnone =>
      rw [hnone] at h
      exact absurd h (not_or.mpr ⟨hlen, by decide⟩)

/-! ### Runs -/

/-- The remote candidates of an agent and its pairs are as they should be. -/
structure RemoteInvariant (agent : IceAgent) : Prop where
  remotesOk : agent.RemotesOk
  sameFamily : agent.SameFamily

/-- What a rejected candidate, or a rejected discovery, leaves behind. -/
def RejectionKeeps (platform : Platform) (agent : IceAgent) : IceEvent → Prop
  | .addRemoteCandidate iceCandidateString =>
    agent.Rejects platform iceCandidateString →
      Unchanged agent
        (agent.addRemoteCandidate platform.inetPton platform.strtoui32 iceCandidateString).2
  | .stunPacket _ _ srcAddr _ _ _ =>
    kvsIceMaxRemoteCandidateCount ≤ agent.remoteCandidates.length ∨
        (agent.findCandidateWithIp srcAddr agent.remoteCandidates).isSome →
      ∀ priority, Unchanged agent (agent.checkRemotePeerReflexiveCandidate srcAddr priority)
  | _ => True

/-- A candidate string finds room in the TURN connections, and no response of the peer gives a local
candidate an address of another family. -/
def KeepsRemotes (platform : Platform) (agent : IceAgent) : IceEvent → Prop
  | .addRemoteCandidate iceCandidateString => agent.HasRoom platform iceCandidateString
  | .stunPacket buffer socketConnection srcAddr _ agentHasId pairHasId =>
    beNat (bytesAt buffer 0 2) = typeBindingResponseSuccess → agentHasId = false →
    pairHasId = true →
      ∀ c ipAddress, agent.Replaces platform buffer socketConnection srcAddr c ipAddress →
        ipAddress.family = agent.familyOf c
  | _ => True

theorem KeepsRemotes.admits {platform : Platform} {agent : IceAgent} {event : IceEvent}
    (h : agent.KeepsRemotes platform event) : familyGuards.Admits platform agent event := by
  apply Guards.admits_of_replaces (fun _ _ => trivial) (fun _ _ => trivial) trivial trivial
  rintro buffer socketConnection srcAddr sent rfl hresponse
  exact h hresponse rfl rfl

/-- What holds at every point of such a run. -/
structure RemotesWellFormed (agent : IceAgent) : Prop where
  wellFormed : agent.WellFormed
  remoteInvariant : agent.RemoteInvariant

theorem RemotesWellFormed.move {a b : IceAgent} (hmove : Move familyGuards a b)
    (h : a.RemotesWellFormed) : b.RemotesWellFormed where
  wellFormed := h.wellFormed.move hmove
  remoteInvariant :=
    ⟨h.remoteInvariant.remotesOk.move hmove h.wellFormed,
      h.remoteInvariant.sameFamily.move hmove h.wellFormed⟩

theorem remotesWellFormed_createIceAgent (localPassword : List UInt8) (tieBreaker : UInt64) :
    (createIceAgent localPassword tieBreaker).RemotesWellFormed where
  wellFormed := wellFormed_createIceAgent localPassword tieBreaker
  remoteInvariant := by
    refine ⟨⟨Nat.zero_le _, List.nodup_nil⟩, ?_⟩
    intro e he
    exact absurd he List.not_mem_nil

theorem KeepsRemotes.rejectionKeeps {platform : Platform} {agent : IceAgent}
    (hwf : agent.WellFormed) {event : IceEvent} (h : agent.KeepsRemotes platform event) :
    agent.RejectionKeeps platform event := by
  cases event with
  | addRemoteCandidate iceCandidateString =>
    exact (rejection_keeps_iff hwf iceCandidateString).mpr h
  | stunPacket buffer socketConnection srcAddr sent agentHasId pairHasId =>
    intro hknown priority
    rw [checkRemotePeerReflexiveCandidate_eq hknown]
    exact Unchanged.refl agent
  | _ => trivial

end IceAgent

/-- **Remote candidates along runs**: in a run in which candidate strings find room in the TURN
connections and no local candidate takes an address of another family, there are at most
`KVS_ICE_MAX_REMOTE_CANDIDATE_COUNT` remote candidates at every point, with different addresses, the
candidates of every pair have the same family, and what is rejected changes nothing. -/
theorem remote_candidates_along {platform : Platform} {localPassword : List UInt8}
    {tieBreaker : UInt64} {events : List IceEvent}
    (h : AllSteps (IceAgent.step platform) (IceAgent.KeepsRemotes platform)
      (createIceAgent localPassword tieBreaker) events) :
    Along (IceAgent.step platform) IceAgent.RemoteInvariant
    (createIceAgent localPassword tieBreaker)
        events ∧
      AllSteps (IceAgent.step platform) (IceAgent.RejectionKeeps platform)
        (createIceAgent localPassword tieBreaker) events := by
  have hinit := IceAgent.remotesWellFormed_createIceAgent localPassword tieBreaker
  have hstep : ∀ agent event, IceAgent.RemotesWellFormed agent → agent.KeepsRemotes platform event →
      (agent.step platform event).RemotesWellFormed :=
    fun agent event hagent hkeeps =>
      hkeeps.admits.moves.preserves (fun _ _ => IceAgent.RemotesWellFormed.move) hagent
  constructor
  · exact (h.along hstep hinit).mono fun _ hagent => hagent.remoteInvariant
  · exact h.imp hstep (fun _ _ hagent hkeeps => hkeeps.rejectionKeeps hagent.wellFormed) hinit

def samplePlatform : Platform where
  hmac := fun _ _ => ⟨List.replicate stunHmacValueLen 0, List.length_replicate⟩
  crc32 := fun _ => 0
  inetPton := fun family text =>
    if family = familyIpv4 ∧ text = "192.0.2.1".toList then some [192, 0, 2, 1] else none
  strtoui32 := fun text =>
    if text ≠ [] ∧ text.all Char.isDigit then
      .ok (text.foldl (fun n c => 10 * n + (c.toNat - '0'.toNat)) 0)
    else .error .invalidArg

def sampleCandidate (port : Nat) : List Char :=
  "1 1 udp 2130706431 192.0.2.1 ".toList ++ Nat.toDigits 10 port ++ " typ host ".toList

/-- A host candidate and two remote ones, the first of which comes twice. -/
theorem remote_candidates_along_sample :
    ((createIceAgent [] 0).run samplePlatform
      [.initHostCandidate ⟨familyIpv4, [0, 0], [192, 0, 2, 7]⟩ [0, 9] false,
        .addRemoteCandidate (sampleCandidate 5000), .addRemoteCandidate (sampleCandidate 5001),
        .addRemoteCandidate (sampleCandidate 5000)]).remoteCandidates.length = 2 ∧
    Along (IceAgent.step samplePlatform) IceAgent.RemoteInvariant (createIceAgent [] 0)
      [.initHostCandidate ⟨familyIpv4, [0, 0], [192, 0, 2, 7]⟩ [0, 9] false,
        .addRemoteCandidate (sampleCandidate 5000), .addRemoteCandidate (sampleCandidate 5001),
        .addRemoteCandidate (sampleCandidate 5000)] := by
  refine ⟨by decide +kernel, (remote_candidates_along ?_).1⟩
  -- there is no relayed candidate, so that there is always room
  have hroom : ∀ (agent : IceAgent) (text : List Char),
      (∀ c ∈ agent.localCandidates, (agent.candidate c).iceCandidateType ≠ .relayed) →
        agent.HasRoom samplePlatform text :=
    fun agent text h parsed _ c hc htype => absurd htype (h c hc)
  refine ⟨trivial, hroom _ _ ?_, hroom _ _ ?_, hroom _ _ ?_, trivial⟩
  all_goals decide +kernel

/-- With a relayed candidate, the thirty-third remote candidate is refused and stays. -/
theorem refused_candidate_stays :
    ¬ ∀ (platform : Platform) (localPassword : List UInt8) (tieBreaker : UInt64)
        (events : List IceEvent),
      Along (IceAgent.step platform) IceAgent.RemoteInvariant
          (createIceAgent localPassword tieBreaker) events ∧
        AllSteps (IceAgent.step platform) (IceAgent.RejectionKeeps platform)
          (createIceAgent localPassword tieBreaker) events := by
  intro h
  have hall := (h samplePlatform [] 0
    ((.initRelayCandidate ::
      (List.range 32).map fun port => .addRemoteCandidate (sampleCandidate port)) ++
        [.addRemoteCandidate (sampleCandidate 32)])).2
  have hlast := ((allSteps_append _ _ _).mp hall).2.1
  have hsame := (hlast (.inl (by decide +kernel))).remoteCandidates
  exact absurd (congrArg List.length hsame) (by decide +kernel)

end KvsWebrtc.Ice
