import KvsWebrtc.Ice.Equiv.Nomination

/-!
# What lasts through a session

`Keeps ok a b` says what lasts from `a` to `b` as long as the state machine enters no other state:
pairs stay in the list and stay nominated, and a pair whose local candidate meets `ok` stays as it
is if it has succeeded.  `ok` are candidates from which every packet can be sent; without any, the
rest holds for every event.

The moves that put no marks keep all this (`Keeps.of_moves`), and sending keeps it if packets from
`ok` candidates go out (`Keeps.sendStunPacket`).
-/

namespace KvsWebrtc.Ice

open Stun

namespace IceAgent

/-! ### Sockets -/

/-- Every local candidate has a socket of its own. -/
structure Sockets (agent : IceAgent) : Prop where
  own : ∀ c s, (agent.candidate c).socketConnection = some s → s = c
  locals : ∀ c ∈ agent.localCandidates, (agent.candidate c).socketConnection = some c
  ends : ∀ e ∈ agent.ends, (agent.candidate e.1).socketConnection = some e.1

theorem sockets_createIceAgent (localPassword : List UInt8) (tieBreaker : UInt64) :
    (createIceAgent localPassword tieBreaker).Sockets := by
  constructor
  · exact fun _ _ h => nomatch h
  · exact fun _ hc => absurd hc List.not_mem_nil
  · exact fun _ he => absurd he List.not_mem_nil

theorem Sockets.congr {a b : IceAgent} (h : a.Sockets)
    (hsocket : ∀ c, (b.candidate c).socketConnection = (a.candidate c).socketConnection)
    (hlocals : ∀ c ∈ b.localCandidates, c ∈ a.localCandidates) (hends : ∀ e ∈ b.ends, e ∈ a.ends) :
    b.Sockets := by
  constructor
  · intro c s hs
    rw [hsocket] at hs
    exact h.own c s hs
  · intro c hc
    rw [hsocket]
    exact h.locals c (hlocals c hc)
  · intro e he
    rw [hsocket]
    exact h.ends e (hends e he)

theorem socketConnection_modifyCandidate (agent : IceAgent) (c : Nat)
    (f : IceCandidate → IceCandidate)
    (hf : (f (agent.candidate c)).socketConnection = (agent.candidate c).socketConnection)
    (d : Nat) :
    ((agent.modifyCandidate c f).candidate d).socketConnection =
      (agent.candidate d).socketConnection := by
  by_cases hd : d = c
  · subst hd
    rw [candidate_modifyCandidate_self, hf]
  · rw [candidate_modifyCandidate_of_ne agent hd]

theorem Sockets.modifyCandidate {agent : IceAgent} (h : agent.Sockets) {c : Nat}
    {f : IceCandidate → IceCandidate}
    (hf : (f (agent.candidate c)).socketConnection = (agent.candidate c).socketConnection) :
    (agent.modifyCandidate c f).Sockets :=
  h.congr (socketConnection_modifyCandidate agent c f hf) (fun _ hc => hc) fun _ he => he

theorem Sockets.updateCandidateAddress {agent : IceAgent} (h : agent.Sockets) (c : Nat)
    (ipAddress : KvsIpAddress) : (agent.updateCandidateAddress c ipAddress).Sockets := by
  unfold IceAgent.updateCandidateAddress
  split_ifs
  · exact h.modifyCandidate rfl
  · exact h

theorem Sockets.of_putsCandidate {a b : IceAgent} (hwf : a.WellFormed) (h : a.Sockets)
    (hputs : PutsCandidate a b)
    (hown : ∀ s, (b.candidate a.nextAddress).socketConnection = some s → s = a.nextAddress)
    (hlocal : a.nextAddress ∈ b.localCandidates →
      (b.candidate a.nextAddress).socketConnection = some a.nextAddress) : b.Sockets := by
  constructor
  · intro c s hs
    by_cases hc : c = a.nextAddress
    · subst hc
      exact hown s hs
    · rw [hputs.candidate c hc] at hs
      exact h.own c s hs
  · intro c hmem
    by_cases hc : c = a.nextAddress
    · subst hc
      exact hlocal hmem
    · rw [hputs.candidate c hc]
      rcases hputs.lists with ⟨heq, -⟩ | ⟨heq, -⟩
      · rw [heq] at hmem
        exact h.locals c ((List.mem_cons.mp hmem).resolve_left hc)
      · rw [heq] at hmem
        exact h.locals c hmem
  · intro e he
    rw [hputs.ends] at he
    rw [hputs.candidate e.1 (hwf.ends_lt e he).ne]
    exact h.ends e he

theorem Sockets.createIceCandidatePairs {agent : IceAgent} (hwf : agent.WellFormed)
    (h : agent.Sockets) {c : Nat} {isRemoteCandidate : Bool}
    (hc : isRemoteCandidate = false → c ∈ agent.localCandidates) :
    (agent.createIceCandidatePairs c isRemoteCandidate).Sockets := by
  have hsame := sameCandidates_createIceCandidatePairs agent c isRemoteCandidate
  constructor
  · rw [hsame.candidate]
    exact h.own
  · rw [hsame.candidate, hsame.localCandidates]
    exact h.locals
  · rw [hsame.candidate]
    intro e he
    by_cases hvalid : (agent.candidate c).state = .valid
    · rw [(ends_createIceCandidatePairs hwf.pairs_lt hvalid isRemoteCandidate).mem_iff] at he
      rcases List.mem_append.mp he with hnew | hold
      · obtain ⟨d, hd, rfl⟩ := List.mem_map.mp hnew
        have hlist := List.mem_of_mem_filter hd
        apply h.locals
        cases isRemoteCandidate with
        | true => exact hlist
        | false => exact hc rfl
      · exact h.ends e hold
    · unfold IceAgent.createIceCandidatePairs at he
      rw [if_neg hvalid] at he
      exact h.ends e he

/-- **Every move leaves each local candidate with its own socket.** -/
theorem Sockets.move {g : Guards} {a b : IceAgent} (hmove : Move g a b) (hwf : a.WellFormed)
    (h : a.Sockets) : b.Sockets := by
  -- a new local candidate gets the address of its allocation as its socket
  have hlocal : ∀ iceCandidateType ipAddress state isPointToPoint,
      (a.addLocal iceCandidateType ipAddress state isPointToPoint).Sockets := by
    intro iceCandidateType ipAddress state isPointToPoint
    apply h.of_putsCandidate hwf (putsCandidate_addLocal a _ _ _ _)
    · intro s hs
      simpa [IceAgent.addLocal, allocCandidate] using hs.symm
    · intro _
      simp [IceAgent.addLocal, allocCandidate]
  cases hmove with
  | other hsame hsession =>
    have hends := (sameLists_of_sameCore hsame).ends
    apply h.congr (fun c => by rw [hsame.candidate])
    · rw [hsame.localCandidates]
      exact fun _ hc => hc
    · rw [hends]
      exact fun _ he => he
  | markPair p nominated state hmarks =>
    have hends := (sameLists_markPair a p nominated state).ends
    exact h.congr (fun _ => rfl) (fun _ hc => hc) fun e he => hends ▸ he
  | invalidate c hinvalid => exact h.modifyCandidate rfl
  | putTurnPeer c peerAddress => exact h.modifyCandidate rfl
  | report c hstate htype => exact h.modifyCandidate rfl
  | learnAddress c ipAddress hmem htype hlearns => exact h.updateCandidateAddress c ipAddress
  | replaceAddress c ipAddress hmem hreplaces => exact h.modifyCandidate rfl
  | addLocal iceCandidateType ipAddress isPointToPoint => exact hlocal _ _ _ _
  | addHost ipAddress isPointToPoint =>
    have hputs := putsCandidate_addLocal a .host ipAddress .valid isPointToPoint
    apply (hlocal _ _ _ _).createIceCandidatePairs (hwf.of_putsCandidate hputs)
    exact fun _ => List.mem_cons_self
  | addRemote iceCandidateType ipAddress priority hlen hnew =>
    have hputs := putsCandidate_putRemote a iceCandidateType ipAddress priority
    refine Sockets.createIceCandidatePairs (hwf.of_putsCandidate hputs) ?_ fun hfalse =>
      nomatch hfalse
    apply h.of_putsCandidate hwf hputs
    · intro s hs
      simp [IceAgent.putRemote, allocCandidate] at hs
    · intro hmem
      exact absurd (hwf.locals_lt _ hmem) (Nat.lt_irrefl _)
  | allocateRelay c ipAddress hmem htype hnew =>
    have hsame := sameLists_updateCandidateAddress a c ipAddress
    apply (h.updateCandidateAddress c ipAddress).createIceCandidatePairs (hwf.of_sameLists hsame)
    intro _
    rw [hsame.localCandidates]
    exact hmem
  | pairUp c hmem hunreported hpair =>
    have hsame := sameLists_report a c
    have hreport : (a.report c).Sockets := h.modifyCandidate rfl
    exact hreport.createIceCandidatePairs (hwf.of_sameLists hsame) fun _ => hmem
  | freePairs keep hfrees =>
    exact h.congr (fun _ => rfl) (fun _ hc => hc) fun e he => (ends_freePairs a keep).subset he
  | keepLocals keep hfrees =>
    exact h.congr (fun _ => rfl) (fun _ hc => List.mem_of_mem_filter hc) fun _ he => he

/-! ### Lasting pairs -/

/-- The pair has not failed, and its local candidate is valid. -/
structure Serves (agent : IceAgent) (p : Nat) : Prop where
  state : (agent.pair p).state ≠ .failed
  valid : (agent.candidate (agent.pair p).localCandidate).state = .valid
  mem : (agent.pair p).localCandidate ∈ agent.localCandidates

/-- What lasts from `a` to `b`. -/
structure Keeps (ok : Nat → Prop) (a b : IceAgent) : Prop where
  session : SameSession a b
  nextAddress : a.nextAddress ≤ b.nextAddress
  mem : ∀ p ∈ a.iceCandidatePairs, p ∈ b.iceCandidatePairs
  pairs : ∀ p ∈ b.iceCandidatePairs, p ∈ a.iceCandidatePairs ∨
    a.nextAddress ≤ p ∧ (ok (b.pair p).localCandidate → b.Serves p)
  localOf : ∀ p < a.nextAddress, (b.pair p).localCandidate = (a.pair p).localCandidate
  nominated : ∀ p < a.nextAddress, (a.pair p).nominated = true → (b.pair p).nominated = true
  succeeded : ∀ p < a.nextAddress, ok (a.pair p).localCandidate → (a.pair p).state = .succeeded →
    (b.pair p).state = .succeeded
  notFailed : ∀ p < a.nextAddress, ok (a.pair p).localCandidate → (a.pair p).state ≠ .failed →
    (b.pair p).state ≠ .failed
  valid : ∀ c < a.nextAddress, ok c → (a.candidate c).state = .valid →
  (b.candidate c).state = .valid
  locals : ∀ c ∈ a.localCandidates, ok c → c ∈ b.localCandidates

variable {ok : Nat → Prop}

theorem Keeps.refl (agent : IceAgent) : Keeps ok agent agent where
  session := ⟨rfl, rfl, rfl, rfl⟩
  nextAddress := Nat.le_refl _
  mem := fun _ hp => hp
  pairs := fun _ hp => .inl hp
  localOf := fun _ _ => rfl
  nominated := fun _ _ h => h
  succeeded := fun _ _ _ h => h
  notFailed := fun _ _ _ h => h
  valid := fun _ _ _ h => h
  locals := fun _ hc _ => hc

theorem WellFormed.local_lt {agent : IceAgent} (h : agent.WellFormed) {p : Nat}
    (hp : p ∈ agent.iceCandidatePairs) : (agent.pair p).localCandidate < agent.nextAddress :=
  h.ends_lt (agent.endsOf p) (List.mem_map_of_mem hp)

theorem Keeps.serves {a b : IceAgent} (h : Keeps ok a b) (hwf : a.WellFormed) {p : Nat}
    (hp : p ∈ a.iceCandidatePairs) (hok : ok (a.pair p).localCandidate) (hserves : a.Serves p) :
    b.Serves p := by
  have hlt := hwf.pairs_lt p hp
  have hlocal := h.localOf p hlt
  constructor
  · exact h.notFailed p hlt hok hserves.state
  · rw [hlocal]
    exact h.valid _ (hwf.local_lt hp) hok hserves.valid
  · rw [hlocal]
    exact h.locals _ hserves.mem hok

theorem Keeps.trans {a b c : IceAgent} (hwf : b.WellFormed) (hab : Keeps ok a b)
    (hbc : Keeps ok b c) : Keeps ok a c := by
  have hlt : ∀ {p}, p < a.nextAddress → p < b.nextAddress :=
    fun hp => Nat.lt_of_lt_of_le hp hab.nextAddress
  constructor
  · obtain ⟨h₁, h₂, h₃, h₄⟩ := hab.session
    obtain ⟨h₁', h₂', h₃', h₄'⟩ := hbc.session
    exact ⟨h₁'.trans h₁, h₂'.trans h₂, h₃'.trans h₃, h₄'.trans h₄⟩
  · exact hab.nextAddress.trans hbc.nextAddress
  · exact fun p hp => hbc.mem p (hab.mem p hp)
  · intro p hp
    rcases hbc.pairs p hp with hb | ⟨hnew, hserves⟩
    · rcases hab.pairs p hb with ha | ⟨hnew, hserves⟩
      · exact .inl ha
      · refine .inr ⟨hnew, fun hok => ?_⟩
        rw [hbc.localOf p (hwf.pairs_lt p hb)] at hok
        exact hbc.serves hwf hb hok (hserves hok)
    · exact .inr ⟨hab.nextAddress.trans hnew, hserves⟩
  · intro p hp
    rw [hbc.localOf p (hlt hp), hab.localOf p hp]
  · exact fun p hp hnominated => hbc.nominated p (hlt hp) (hab.nominated p hp hnominated)
  · intro p hp hok hstate
    apply hbc.succeeded p (hlt hp) _ (hab.succeeded p hp hok hstate)
    rw [hab.localOf p hp]
    exact hok
  · intro p hp hok hstate
    apply hbc.notFailed p (hlt hp) _ (hab.notFailed p hp hok hstate)
    rw [hab.localOf p hp]
    exact hok
  · exact fun d hd hok hvalid => hbc.valid d (hlt hd) hok (hab.valid d hd hok hvalid)
  · exact fun d hd hok => hbc.locals d (hab.locals d hd hok) hok

/-! ### Moves without marks -/

def quietGuards : Guards where
  learns := fun _ _ => True
  replaces := fun _ _ _ => True
  pairsUp := fun _ _ => True
  marks := False
  frees := False

/-- A candidate changes in its place, and stays valid if it is. -/
theorem Keeps.modifyCandidate (agent : IceAgent) (c : Nat) (f : IceCandidate → IceCandidate)
    (hf : ok c → (agent.candidate c).state = .valid → (f (agent.candidate c)).state = .valid) :
    Keeps ok agent (agent.modifyCandidate c f) := by
  refine ⟨⟨rfl, rfl, rfl, rfl⟩, Nat.le_refl _, fun _ hp => hp, fun _ hp => .inl hp, fun _ _ => rfl,
    fun _ _ h => h, fun _ _ _ h => h, fun _ _ _ h => h, ?_, fun _ hd _ => hd⟩
  intro d _ hok hvalid
  by_cases hd : d = c
  · subst hd
    rw [candidate_modifyCandidate_self]
    exact hf hok hvalid
  · rw [candidate_modifyCandidate_of_ne agent hd]
    exact hvalid

theorem Keeps.updateCandidateAddress (agent : IceAgent) (c : Nat) (ipAddress : KvsIpAddress) :
    Keeps ok agent (agent.updateCandidateAddress c ipAddress) := by
  unfold IceAgent.updateCandidateAddress
  split_ifs
  · exact Keeps.modifyCandidate agent c _ fun _ _ => rfl
  · exact Keeps.refl agent

theorem Keeps.of_putsCandidate {a b : IceAgent} (hputs : PutsCandidate a b)
    (hsession : SameSession a b) : Keeps ok a b where
  session := hsession
  nextAddress := by
    rw [hputs.nextAddress]
    exact Nat.le_succ _
  mem := fun p hp => by rwa [hputs.iceCandidatePairs]
  pairs := fun p hp => .inl (by rwa [hputs.iceCandidatePairs] at hp)
  localOf := fun p _ => by rw [hputs.pair]
  nominated := fun p _ h => by rwa [hputs.pair]
  succeeded := fun p _ _ h => by rwa [hputs.pair]
  notFailed := fun p _ _ h => by rwa [hputs.pair]
  valid := fun c hc _ h => by rwa [hputs.candidate c hc.ne]
  locals := by
    intro c hc _
    rcases hputs.lists with ⟨heq, -⟩ | ⟨heq, -⟩
    · rw [heq]
      exact List.mem_cons_of_mem _ hc
    · rw [heq]
      exact hc

theorem Keeps.addPair {a b : IceAgent} (h : Keeps ok a b)
    (hlt : ∀ p ∈ b.iceCandidatePairs, p < b.nextAddress) {l : Nat} (r : Nat)
    (hvalid : (b.candidate l).state = .valid) (hmem : l ∈ b.localCandidates) :
    Keeps ok a (b.addPair l r) := by
  have hpair : ∀ p, p < b.nextAddress → (b.addPair l r).pair p = b.pair p :=
    fun p hp => pair_addPair_of_lt hp l r
  -- the new pair lies behind all the old ones
  have hold : ∀ p < a.nextAddress, (b.addPair l r).pair p = b.pair p :=
    fun p hp => hpair p (Nat.lt_of_lt_of_le hp h.nextAddress)
  constructor
  · exact ⟨h.session.1, h.session.2, h.session.3, h.session.4⟩
  · exact h.nextAddress.trans (Nat.le_succ _)
  · exact fun p hp => (mem_insertIceCandidatePair _).mpr (.inr (h.mem p hp))
  · intro p hp
    rcases (mem_insertIceCandidatePair _).mp hp with rfl | hp
    · -- ?_⟩ => the new pair is of a valid candidate, and has not failed
      refine .inr ⟨h.nextAddress, fun _ => ?_⟩
      have hnew : (b.addPair l r).pair b.nextAddress = _ := Function.update_self _ _ _
      constructor
      · rw [hnew]
        exact fun hfailed => nomatch hfailed
      · rw [hnew]
        exact hvalid
      · rw [hnew]
        exact hmem
    · rcases h.pairs p hp with ha | ⟨hnew, hserves⟩
      · exact .inl ha
      · refine .inr ⟨hnew, fun hok => ?_⟩
        rw [hpair p (hlt p hp)] at hok
        obtain ⟨hstate, hvalid, hmem⟩ := hserves hok
        constructor <;> rw [hpair p (hlt p hp)] <;> assumption
  · intro p hp
    rw [hold p hp]
    exact h.localOf p hp
  · intro p hp
    rw [hold p hp]
    exact h.nominated p hp
  · intro p hp
    rw [hold p hp]
    exact h.succeeded p hp
  · intro p hp
    rw [hold p hp]
    exact h.notFailed p hp
  · exact h.valid
  · exact h.locals

theorem Keeps.createIceCandidatePairs {agent : IceAgent} (hwf : agent.WellFormed) {c : Nat}
    {isRemoteCandidate : Bool} (hc : isRemoteCandidate = false → c ∈ agent.localCandidates) :
    Keeps ok agent (agent.createIceCandidatePairs c isRemoteCandidate) := by
  suffices h : (∀ p ∈ (agent.createIceCandidatePairs c isRemoteCandidate).iceCandidatePairs,
      p < (agent.createIceCandidatePairs c isRemoteCandidate).nextAddress) ∧
        Keeps ok agent (agent.createIceCandidatePairs c isRemoteCandidate) from h.2
  apply createIceCandidatePairs_induction (P := fun b =>
    (∀ p ∈ b.iceCandidatePairs, p < b.nextAddress) ∧ Keeps ok agent b)
    ⟨hwf.pairs_lt, Keeps.refl agent⟩
  rintro b l r hsame hjoins ⟨hlt, hb⟩
  refine ⟨pairs_lt_addPair hlt l r, hb.addPair hlt r ?_ ?_⟩
  · rw [hsame.candidate]
    exact hjoins.localState
  · rw [hsame.localCandidates]
    cases isRemoteCandidate with
    | true => exact hjoins.isLocal
    | false =>
      obtain rfl : l = c := hjoins.isLocal
      exact hc rfl

theorem Keeps.of_move {a b : IceAgent} (hwf : a.WellFormed) (hmove : Move quietGuards a b) :
    Keeps ok a b := by
  cases hmove with
  | other hsame hsession =>
    -- the guards rule out the moves that mark, free or drop
    obtain hmarks | hsession := hsession
    · exact absurd hmarks id
    · obtain ⟨hcandidate, hpair, hnext, hlocals, -, hpairs⟩ := hsame
      constructor
      · exact hsession
      all_goals simp only [hcandidate, hpair, hnext, hlocals, hpairs]
      · exact Nat.le_refl _
      · exact fun _ hp => hp
      · exact fun _ hp => .inl hp
      · exact fun _ _ => trivial
      · exact fun _ _ h => h
      · exact fun _ _ _ h => h
      · exact fun _ _ _ h => h
      · exact fun _ _ _ h => h
      · exact fun _ hc _ => hc
  | markPair p nominated state hmarks => exact absurd hmarks id
  | invalidate c hinvalid =>
    apply Keeps.modifyCandidate
    intro _ hvalid
    rcases hinvalid with hmarks | hnew
    · exact absurd hmarks id
    · exact absurd (hnew.symm.trans hvalid) (by decide)
  | putTurnPeer c peerAddress => exact Keeps.modifyCandidate a c _ fun _ h => h
  | report c hstate htype => exact Keeps.modifyCandidate a c _ fun _ h => h
  | learnAddress c ipAddress hmem htype hlearns => exact Keeps.updateCandidateAddress a c ipAddress
  | replaceAddress c ipAddress hmem hreplaces => exact Keeps.modifyCandidate a c _ fun _ h => h
  | addLocal iceCandidateType ipAddress isPointToPoint =>
    exact Keeps.of_putsCandidate (putsCandidate_addLocal a _ _ _ _) ⟨rfl, rfl, rfl, rfl⟩
  | addHost ipAddress isPointToPoint =>
    have hputs := putsCandidate_addLocal a .host ipAddress .valid isPointToPoint
    have hwf' := hwf.of_putsCandidate hputs
    apply (Keeps.of_putsCandidate hputs ⟨rfl, rfl, rfl, rfl⟩).trans hwf'
    exact Keeps.createIceCandidatePairs hwf' fun _ => List.mem_cons_self
  | addRemote iceCandidateType ipAddress priority hlen hnew =>
    have hputs := putsCandidate_putRemote a iceCandidateType ipAddress priority
    have hwf' := hwf.of_putsCandidate hputs
    apply (Keeps.of_putsCandidate hputs ⟨rfl, rfl, rfl, rfl⟩).trans hwf'
    exact Keeps.createIceCandidatePairs hwf' fun hfalse => nomatch hfalse
  | allocateRelay c ipAddress hmem htype hnew =>
    have hsame := sameLists_updateCandidateAddress a c ipAddress
    have hwf' := hwf.of_sameLists hsame
    apply (Keeps.updateCandidateAddress a c ipAddress).trans hwf'
    apply Keeps.createIceCandidatePairs hwf'
    intro _
    rw [hsame.localCandidates]
    exact hmem
  | pairUp c hmem hunreported hpair =>
    have hsame := sameLists_report a c
    have hwf' := hwf.of_sameLists hsame
    have hreport : Keeps ok a (a.report c) := Keeps.modifyCandidate a c _ fun _ h => h
    exact hreport.trans hwf' (Keeps.createIceCandidatePairs hwf' fun _ => hmem)
  | freePairs keep hfrees => exact absurd hfrees id
  | keepLocals keep hfrees => exact absurd hfrees id

/-- **Moves without marks** keep what lasts. -/
theorem Keeps.of_moves {a b : IceAgent} (hwf : a.WellFormed) (h : Moves quietGuards a b) :
    Keeps ok a b := by
  induction h with
  | refl => exact Keeps.refl a
  | tail hmoves hlast ih =>
    have hwf' := Moves.preserves (fun _ _ => WellFormed.move) hmoves hwf
    exact ih.trans hwf' (Keeps.of_move hwf' hlast)

/-! ### Sending -/

/-- The pairs of `ok` candidates serve. -/
structure Served (ok : Nat → Prop) (agent : IceAgent) : Prop where
  wellFormed : agent.WellFormed
  sockets : agent.Sockets
  serves : ∀ p ∈ agent.iceCandidatePairs, ok (agent.pair p).localCandidate → agent.Serves p

theorem Served.wellFormed_and_sockets {a b : IceAgent} (h : Served ok a)
    (hmoves : Moves noGuards a b) : b.WellFormed ∧ b.Sockets :=
  hmoves.preserves (P := fun a => a.WellFormed ∧ a.Sockets)
    (fun _ _ hmove h => ⟨h.1.move hmove, h.2.move hmove h.1⟩) ⟨h.wellFormed, h.sockets⟩

theorem Served.of_keeps {a b : IceAgent} (h : Served ok a) (hmoves : Moves noGuards a b)
    (hkeeps : Keeps ok a b) : Served ok b := by
  obtain ⟨hwf, hsockets⟩ := h.wellFormed_and_sockets hmoves
  refine ⟨hwf, hsockets, ?_⟩
  intro p hp hok
  rcases hkeeps.pairs p hp with hold | ⟨-, hserves⟩
  · rw [hkeeps.localOf p (h.wellFormed.pairs_lt p hold)] at hok
    exact hkeeps.serves h.wellFormed hold hok (h.serves p hold hok)
  · exact hserves hok

/-- A pair changes in its place; if its candidate is `ok`, it does not lose its success and does not
fail. -/
theorem Keeps.modifyPair (agent : IceAgent) (p : Nat) (f : IceCandidatePair → IceCandidatePair)
    (hlocal : (f (agent.pair p)).localCandidate = (agent.pair p).localCandidate)
    (hnominated : (agent.pair p).nominated = true → (f (agent.pair p)).nominated = true)
    (hsucceeded : ok (agent.pair p).localCandidate → (agent.pair p).state = .succeeded →
      (f (agent.pair p)).state = .succeeded)
    (hfailed : ok (agent.pair p).localCandidate → (agent.pair p).state ≠ .failed →
      (f (agent.pair p)).state ≠ .failed) : Keeps ok agent (agent.modifyPair p f) := by
  -- what holds of `p`, and of every pair that stays as it is, holds of all pairs
  have hall : ∀ {R : IceCandidatePair → IceCandidatePair → Prop}, (∀ pair, R pair pair) →
      R (agent.pair p) (f (agent.pair p)) →
        ∀ q, R (agent.pair q) ((agent.modifyPair p f).pair q) := by
    intro R hrefl hp q
    by_cases hq : q = p
    · subst hq
      rw [pair_modifyPair_self]
      exact hp
    · rw [pair_modifyPair_of_ne agent hq]
      exact hrefl _
  refine ⟨⟨rfl, rfl, rfl, rfl⟩, Nat.le_refl _, fun _ hp => hp, fun _ hp => .inl hp, ?_, ?_, ?_, ?_,
    fun _ _ _ h => h, fun _ hd _ => hd⟩
  · exact fun q _ => hall (R := fun x y => y.localCandidate = x.localCandidate)
      (fun _ => rfl) hlocal q
  · exact fun q _ => hall (R := fun x y => x.nominated = true → y.nominated = true) (fun _ => id)
      hnominated q
  · exact fun q _ => hall (R := fun x y => ok x.localCandidate → x.state = .succeeded →
      y.state = .succeeded) (fun _ _ => id) hsucceeded q
  · exact fun q _ => hall (R := fun x y => ok x.localCandidate → x.state ≠ .failed →
      y.state ≠ .failed) (fun _ _ => id) hfailed q

theorem Keeps.setPairState (agent : IceAgent) (p : Nat) (state : IceCandidatePairState)
    (hstate : ok (agent.pair p).localCandidate →
      ((agent.pair p).state = .succeeded → state = .succeeded) ∧
        ((agent.pair p).state ≠ .failed → state ≠ .failed)) :
    Keeps ok agent (agent.setPairState p state) :=
  Keeps.modifyPair agent p _ rfl id (fun hok => (hstate hok).1) fun hok => (hstate hok).2

theorem Keeps.foldl {α : Type} {f : IceAgent → α → IceAgent} {l : List α} {agent : IceAgent}
    (h : Served ok agent) (hmoves : ∀ a x, Moves noGuards a (f a x))
    (hf : ∀ a, ∀ x ∈ l, Keeps ok agent a → Served ok a → Keeps ok a (f a x)) :
    Keeps ok agent (l.foldl f agent) ∧ Served ok (l.foldl f agent) := by
  apply List.foldlRecOn (motive := fun a => Keeps ok agent a ∧ Served ok a) l f
    ⟨Keeps.refl agent, h⟩
  rintro a ⟨hkeeps, hserved⟩ x hx
  have hstep := hf a x hx hkeeps hserved
  exact ⟨hkeeps.trans hserved.wellFormed hstep, hserved.of_keeps (hmoves a x) hstep⟩

theorem Keeps.invalidateCandidatePair {agent : IceAgent} (h : Served ok agent) :
    Keeps ok agent agent.invalidateCandidatePair := by
  refine (Keeps.foldl h ?_ ?_).1
  · intro a p
    show Moves noGuards a (ite _ _ _)
    split_ifs
    · exact Moves.setPairState trivial a p .failed
    · exact .refl
  · intro a p hp hkeeps hserved
    split_ifs with hinvalid
    · apply Keeps.setPairState
      intro hok
      exact absurd (hserved.serves p (hkeeps.mem p hp) hok).valid hinvalid
    · exact Keeps.refl a

/-- The pair that a packet could not be sent on is one of its candidate. -/
theorem Keeps.failPair {agent : IceAgent} (h : Served ok agent) {c : Nat} (hc : ¬ ok c)
    (destAddr : KvsIpAddress) : Keeps ok agent (agent.failPair c destAddr) := by
  unfold IceAgent.failPair
  split
  · exact Keeps.refl agent
  · next p hp =>
    apply Keeps.setPairState
    intro hok
    have hmem := List.mem_of_find?_eq_some hp
    have hbetween := List.find?_some hp
    simp only [isBetween, Bool.and_eq_true, beq_iff_eq] at hbetween
    have hsocket := h.sockets.ends (agent.endsOf p) (List.mem_map_of_mem hmem)
    have hown := h.sockets.own c _ (hbetween.1.2.symm.trans hsocket)
    exact absurd (hown ▸ hok) hc

/-- **Sending a packet**, from a candidate that is not `ok` or with success. -/
theorem Keeps.sendStunPacket {agent : IceAgent} (h : Served ok agent) {sent : SendResult} {c : Nat}
    (hsent : ok c → sent = .ok) (destAddr : KvsIpAddress) :
    Keeps ok agent (agent.sendStunPacket sent c destAddr) := by
  cases sent with
  | ok => exact Keeps.refl agent
  | closedAlready =>
    have hc : ¬ ok c := fun hok => nomatch hsent hok
    have hset : Keeps ok agent (agent.setCandidateState c .invalid) :=
      Keeps.modifyCandidate agent c _ fun hok => absurd hok hc
    have h₁ := h.of_keeps (Moves.one (.invalidate agent c (.inl trivial))) hset
    have hinvalidate := Keeps.invalidateCandidatePair h₁
    have h₂ := h₁.of_keeps (Moves.invalidateCandidatePair trivial _) hinvalidate
    apply hset.trans h₁.wellFormed
    exact hinvalidate.trans h₂.wellFormed (Keeps.failPair h₂ hc destAddr)
  | failed =>
    have hc : ¬ ok c := fun hok => nomatch hsent hok
    exact Keeps.failPair h hc destAddr

end IceAgent

end KvsWebrtc.Ice
