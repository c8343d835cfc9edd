import KvsWebrtc.Ice.Equiv.RemoteCandidates
import KvsWebrtc.Ice.Equiv.Session

/-!
# The selected pair

`pDataSendingIceCandidatePair` is chosen when the agent is connected or gets ready, and stays until
a restart.  `Session` is what holds of it and of the pairs in every state of the state machine, and
`selected_pair_along` is what follows for an agent that is ready.

The pair is freed under the agent's feet if it fails between these two states, since the set-up of
the ready state frees every pair that has failed; and it fails in the ready state if a packet cannot
be sent from its local candidate.  So the claims are about candidates from which every packet could
be sent (`ok`).
-/

namespace KvsWebrtc.Ice

open Stun

namespace IceAgent

variable {ok : Nat → Prop} {agent : IceAgent}

/-! ### Events outside of the state machine -/

theorem Keeps.sendOnPair (h : Served ok agent) {sent : Nat → SendResult} {p : Nat}
    (hsent : ok (agent.pair p).localCandidate → sent p = .ok) :
    Keeps ok agent (agent.sendOnPair sent p) :=
  Keeps.sendStunPacket h hsent _

theorem Keeps.foldl_sendOnPair (h : Served ok agent) {sent : Nat → SendResult}
    (hsent : ∀ p, ok (agent.pair p).localCandidate → sent p = .ok) (test : IceAgent → Nat → Prop)
    [∀ a p, Decidable (test a p)] :
    Keeps ok agent (agent.iceCandidatePairs.foldl
      (fun a p => if test a p then a.sendOnPair sent p else a) agent) := by
  refine (Keeps.foldl h ?_ ?_).1
  · intro a p
    split_ifs
    · exact Moves.sendOnPair trivial sent a p
    · exact .refl
  · intro a p hp hkeeps hserved
    split_ifs
    · apply Keeps.sendOnPair hserved
      rw [hkeeps.localOf p (h.wellFormed.pairs_lt p hp)]
      exact hsent p
    · exact Keeps.refl a

theorem Keeps.checkPair (h : Served ok agent) {sent : Nat → SendResult} {p : Nat}
    (hsent : ok (agent.pair p).localCandidate → sent p = .ok) :
    Keeps ok agent (IceAgent.checkPair sent agent p) := by
  unfold IceAgent.checkPair
  split
  · next hwaiting =>
    have hset : Keeps ok agent (agent.setPairState p .inProgress) := by
      apply Keeps.setPairState
      rw [hwaiting]
      exact fun _ => ⟨fun hsucceeded => (nomatch hsucceeded), fun _ hfailed => (nomatch hfailed)⟩
    have h' := h.of_keeps (Moves.setPairState trivial agent p .inProgress) hset
    apply hset.trans h'.wellFormed
    apply Keeps.sendOnPair h'
    rw [IceAgent.setPairState, pair_modifyPair_self]
    exact hsent
  · exact Keeps.sendOnPair h hsent
  · exact Keeps.refl agent

/-- Something else than the candidates, the pairs and the session changes. -/
theorem Keeps.of_same {a b : IceAgent} (hwf : a.WellFormed) (hcore : SameCore a b)
    (hsession : SameSession a b) : Keeps ok a b :=
  Keeps.of_move hwf (.other hcore (.inr hsession))

theorem Keeps.checkCandidatePairConnection (h : Served ok agent) {sent : Nat → SendResult}
    (hsent : ∀ p, ok (agent.pair p).localCandidate → sent p = .ok) :
    Keeps ok agent (agent.checkCandidatePairConnection sent) := by
  unfold IceAgent.checkCandidatePairConnection
  split
  · next p queue _ =>
    have hcore : SameCore agent { agent with triggeredCheckQueue := queue } :=
      ⟨rfl, rfl, rfl, rfl, rfl, rfl⟩
    have hqueue : Keeps ok agent { agent with triggeredCheckQueue := queue } :=
      Keeps.of_same h.wellFormed hcore ⟨rfl, rfl, rfl, rfl⟩
    have h' := h.of_keeps (Moves.other trivial hcore) hqueue
    exact hqueue.trans h'.wellFormed (Keeps.sendOnPair h' (hsent p))
  · refine (Keeps.foldl h ?_ ?_).1
    · intro a p
      unfold IceAgent.checkPair
      split
      · exact (Moves.setPairState trivial a p .inProgress).trans (Moves.sendOnPair trivial sent _ p)
      · exact Moves.sendOnPair trivial sent a p
      · exact .refl
    · intro a p hp hkeeps hserved
      apply Keeps.checkPair hserved
      rw [hkeeps.localOf p (h.wellFormed.pairs_lt p hp)]
      exact hsent p

theorem Keeps.sendCandidateNomination (h : Served ok agent) {sent : Nat → SendResult}
    (hsent : ∀ p, ok (agent.pair p).localCandidate → sent p = .ok) :
    Keeps ok agent (agent.sendCandidateNomination sent) := by
  unfold IceAgent.sendCandidateNomination
  split_ifs
  · exact Keeps.foldl_sendOnPair h hsent fun a p => (a.pair p).nominated
  · exact Keeps.refl agent

theorem Keeps.sendSrflxCandidateRequest (h : Served ok agent) {sent : Nat → SendResult}
    (hsent : ∀ c, ok c → sent c = .ok) (stunServerAddr : Nat → KvsIpAddress) :
    Keeps ok agent (agent.sendSrflxCandidateRequest sent stunServerAddr) := by
  refine (Keeps.foldl h ?_ ?_).1
  · intro a c
    split_ifs
    · exact Moves.sendStunPacket trivial a _ c _
    · exact .refl
  · intro a c _ _ hserved
    split_ifs
    · exact Keeps.sendStunPacket hserved (hsent c) _
    · exact Keeps.refl a

/-- Packets from `ok` candidates go out, and their TURN connections are not shut down. -/
def Undisturbed (ok : Nat → Prop) (agent : IceAgent) : IceEvent → Prop
  | .gatherTimer _ sent _ => ∀ c, ok c → sent c = .ok
  | .stateTimer input =>
    (∀ p, ok (agent.pair p).localCandidate → input.sent p = .ok) ∧
      ∀ c, ok c → input.turnConnectionIsShutdownComplete c = false
  | .keepAliveTimer sent => ∀ p, ok (agent.pair p).localCandidate → sent p = .ok
  | .stunPacket _ socketConnection _ sent _ _ => ok socketConnection → sent = .ok
  | .sendPacket sent =>
    ∀ p, agent.dataSendingIceCandidatePair = some p → ok (agent.pair p).localCandidate →
      sent ≠ .closedAlready
  | _ => True

theorem Keeps.sendPacket (h : Served ok agent) {sent : SendResult}
    (hsent : agent.Undisturbed ok (.sendPacket sent)) : Keeps ok agent (agent.sendPacket sent) := by
  unfold IceAgent.sendPacket
  split
  · exact Keeps.refl agent
  · next p hp =>
    split_ifs with hclosed
    · have hset : Keeps ok agent (agent.setPairState p .failed) := by
        apply Keeps.setPairState
        intro hok
        exact absurd hclosed.2 (hsent p hp hok)
      have h' := h.of_keeps (Moves.setPairState trivial agent p .failed) hset
      apply hset.trans h'.wellFormed
      exact Keeps.of_same h'.wellFormed ⟨rfl, rfl, rfl, rfl, rfl, rfl⟩ ⟨rfl, rfl, rfl, rfl⟩
    · exact Keeps.refl agent

theorem Keeps.nominateOnRequest (request : StunPacket) (p : Nat) :
    Keeps ok agent (agent.nominateOnRequest request p) := by
  unfold IceAgent.nominateOnRequest
  split_ifs
  · exact Keeps.modifyPair agent p _ rfl (fun _ => rfl) (fun _ h => h) fun _ h => h
  · exact Keeps.refl agent

theorem Keeps.triggerCheck (hwf : agent.WellFormed) (p : Nat) :
    Keeps ok agent (agent.triggerCheck p) := by
  unfold IceAgent.triggerCheck
  split_ifs
  · exact Keeps.of_same hwf ⟨rfl, rfl, rfl, rfl, rfl, rfl⟩ ⟨rfl, rfl, rfl, rfl⟩
  · exact Keeps.refl agent

theorem Keeps.answer {b : IceAgent} (hkeeps : Keeps ok agent b) (h : Served ok b)
    (request : StunPacket) (p : Nat) :
    Keeps ok agent ((b.nominateOnRequest request p).triggerCheck p) := by
  have hnominate : Keeps ok b (b.nominateOnRequest request p) := Keeps.nominateOnRequest request p
  have h' := h.of_keeps (Moves.nominateOnRequest trivial b request p) hnominate
  apply (hkeeps.trans h.wellFormed hnominate).trans h'.wellFormed
  exact Keeps.triggerCheck h'.wellFormed p

theorem Keeps.handleBindingRequest (h : Served ok agent) (hmac : List UInt8 → List UInt8 → Digest)
    (crc32 : List UInt8 → UInt32) (buffer : List UInt8) {socketConnection : Nat}
    (srcAddr : KvsIpAddress) {sent : SendResult} (hsent : ok socketConnection → sent = .ok) :
    Keeps ok agent
      (agent.handleBindingRequest hmac crc32 buffer socketConnection srcAddr sent).2 := by
  unfold IceAgent.handleBindingRequest
  split
  · exact Keeps.refl agent
  · next request _ =>
    split
    · exact Keeps.refl agent
    · have hpeer : Keeps ok agent
          (agent.checkRemotePeerReflexiveCandidate srcAddr (priorityOf request)) :=
        Keeps.of_moves h.wellFormed (Moves.checkRemotePeerReflexiveCandidate agent srcAddr _)
      have h₁ := h.of_keeps (Moves.checkRemotePeerReflexiveCandidate agent srcAddr _) hpeer
      dsimp only
      split
      · exact hpeer
      · next c hc =>
        -- the socket is that of the candidate
        have hsocket : socketConnection = c :=
          h₁.sockets.own c socketConnection (by simpa using List.find?_some hc)
        rw [hsocket] at hsent
        have hsend := Keeps.sendStunPacket h₁ hsent srcAddr
        have h₂ := h₁.of_keeps (Moves.sendStunPacket trivial _ sent c srcAddr) hsend
        have hkeeps := hpeer.trans h₁.wellFormed hsend
        split
        · exact hkeeps
        · next p _ => exact hkeeps.answer h₂ request p

theorem Keeps.handlePeerResponse (h : Served ok agent) (hmac : List UInt8 → List UInt8 → Digest)
    (crc32 : List UInt8 → UInt32) (buffer : List UInt8) (socketConnection : Nat)
    (srcAddr : KvsIpAddress) (hasId : Bool) :
    Keeps ok agent
      (agent.handlePeerResponse hmac crc32 buffer socketConnection srcAddr hasId).2 := by
  have hsucceed : ∀ (a : IceAgent) p, Keeps ok a (a.setPairState p .succeeded) := by
    intro a p
    apply Keeps.setPairState
    exact fun _ => ⟨fun _ => rfl, fun _ hfailed => (nomatch hfailed)⟩
  unfold IceAgent.handlePeerResponse
  split
  · exact Keeps.refl agent
  · split_ifs
    · split
      · exact Keeps.refl agent
      · split
        · exact Keeps.refl agent
        · next ipAddress _ =>
          dsimp only
          split_ifs
          · have hmoves : Moves quietGuards agent
                (agent.checkLocalPeerReflexiveCandidate ipAddress socketConnection) :=
              Moves.checkLocalPeerReflexiveCandidate fun _ _ _ => trivial
            have hreplace : Keeps ok agent _ := Keeps.of_moves h.wellFormed hmoves
            have hwf := hmoves.preserves (fun _ _ => WellFormed.move) h.wellFormed
            exact hreplace.trans hwf (hsucceed _ _)
          · exact hsucceed agent _
    · exact Keeps.refl agent

end IceAgent

def IceEvent.IsPlain : IceEvent → Prop
  | .stateTimer _ | .restartAgent _ | .prune => False
  | _ => True

namespace IceAgent

variable {ok : Nat → Prop} {agent : IceAgent}

/-- **An event outside of the state machine** keeps what lasts. -/
theorem Keeps.step (h : Served ok agent) (platform : Platform) {event : IceEvent}
    (hplain : event.IsPlain) (hevent : agent.Undisturbed ok event) :
    Keeps ok agent (agent.step platform event) := by
  cases event with
  | initHostCandidate ipAddress port isPointToPoint =>
    exact Keeps.of_moves h.wellFormed (Moves.initHostCandidate _ _ _ _)
  | initSrflxCandidate iceServers =>
    exact Keeps.of_moves h.wellFormed (Moves.initSrflxCandidate _ _)
  | initRelayCandidate => exact Keeps.of_moves h.wellFormed (Moves.initRelayCandidate _)
  | turnStateFailed c => exact Keeps.of_moves h.wellFormed (Moves.turnStateFailed _ _)
  | startAgent remotePassword isControlling =>
    exact Keeps.of_moves h.wellFormed (Moves.startAgent _ _ _)
  | addRemoteCandidate iceCandidateString =>
    exact Keeps.of_moves h.wellFormed (Moves.addRemoteCandidate _ _ _ _)
  | gatherTimer relayAddress sent stunServerAddr =>
    have hmoves : ∀ g : Guards, (∀ a c, g.pairsUp a c) →
        Moves g agent (agent.localCandidates.foldl (IceAgent.gatherCandidate relayAddress) agent) :=
      fun g hpairsUp => Moves.gatherCandidates relayAddress (fun _ hc => hc)
        (allSteps_of_forall (fun a c _ => hpairsUp a c) agent agent.localCandidates)
    have hgather : Keeps ok agent _ :=
      Keeps.of_moves h.wellFormed (hmoves quietGuards fun _ _ => trivial)
    have h' := h.of_keeps (hmoves noGuards fun _ _ => trivial) hgather
    exact hgather.trans h'.wellFormed (Keeps.sendSrflxCandidateRequest h' hevent stunServerAddr)
  | stateTimer input => exact absurd hplain id
  | keepAliveTimer sent =>
    exact Keeps.foldl_sendOnPair h hevent fun a p => (a.pair p).state = .succeeded
  | stunPacket buffer socketConnection srcAddr sent agentHasId pairHasId =>
    show Keeps ok agent (handleStunPacket _ _ agent buffer _ _ _ _ _).2
    unfold handleStunPacket
    split_ifs
    · exact Keeps.handleBindingRequest h _ _ _ _ hevent
    · exact Keeps.of_moves h.wellFormed (Moves.handleServerResponse _ _ fun _ _ => trivial)
    · exact Keeps.handlePeerResponse h _ _ _ _ _ _
    · exact Keeps.refl agent
  | sendPacket sent => exact Keeps.sendPacket h hevent
  | prune => exact absurd hplain id
  | restartAgent localIcePwd => exact absurd hplain id

/-! ### The session -/

/-- What each state of the state machine knows about the data sending pair.  Before the agent is
connected, it is one from before a restart; then it is nominated and in the list, and so it is when
the agent is ready, if its candidate is `ok`. -/
def Phase (ok : Nat → Prop) (agent : IceAgent) : Prop :=
  match agent.currentState with
  | .new | .checkConnection =>
    ∀ p, agent.dataSendingIceCandidatePair = some p → p ∉ agent.iceCandidatePairs
  | .connected | .nominating =>
    ∀ p, agent.dataSendingIceCandidatePair = some p →
      p ∈ agent.iceCandidatePairs ∧ (agent.pair p).nominated = true
  | .ready =>
    ∃ p, agent.dataSendingIceCandidatePair = some p ∧
      (ok (agent.pair p).localCandidate →
        p ∈ agent.iceCandidatePairs ∧ (agent.pair p).nominated = true)
  | .disconnected | .failed => True

/-- What holds of the data sending pair and of the pairs that have been freed, in every state. -/
structure Selection (ok : Nat → Prop) (agent : IceAgent) : Prop where
  served : Served ok agent
  succeeded : ∀ p ∈ agent.iceCandidatePairs, agent.dataSendingIceCandidatePair = some p →
    ok (agent.pair p).localCandidate → (agent.pair p).state = .succeeded
  sending_lt : ∀ p, agent.dataSendingIceCandidatePair = some p → p < agent.nextAddress
  freed_lt : ∀ p ∈ agent.freedPairs, p < agent.nextAddress
  not_freed : ∀ p ∈ agent.iceCandidatePairs, p ∉ agent.freedPairs

/-- The selection, and what the state knows about it. -/
structure Session (ok : Nat → Prop) (agent : IceAgent) : Prop where
  selection : Selection ok agent
  phase : agent.Phase ok

theorem session_createIceAgent (localPassword : List UInt8) (tieBreaker : UInt64) :
    Session ok (createIceAgent localPassword tieBreaker) := by
  refine ⟨⟨⟨wellFormed_createIceAgent localPassword tieBreaker,
    sockets_createIceAgent localPassword tieBreaker, ?_⟩, ?_, ?_, ?_, ?_⟩, ?_⟩
  · exact fun _ hp => absurd hp List.not_mem_nil
  · exact fun _ hp => absurd hp List.not_mem_nil
  · exact fun _ hp => nomatch hp
  · exact fun _ hp => absurd hp List.not_mem_nil
  · exact fun _ hp => absurd hp List.not_mem_nil
  · exact fun _ hp => nomatch hp

theorem Selection.of_keeps {a b : IceAgent} (h : Selection ok a) (hmoves : Moves noGuards a b)
    (hkeeps : Keeps ok a b) : Selection ok b := by
  obtain ⟨hsending, hfreed, -, -⟩ := hkeeps.session
  have hlt := hkeeps.nextAddress
  refine ⟨h.served.of_keeps hmoves hkeeps, ?_, ?_, ?_, ?_⟩
  · intro p hp hselected hok
    rw [hsending] at hselected
    have hplt := h.sending_lt p hselected
    rw [hkeeps.localOf p hplt] at hok
    -- the data sending pair is not a new one
    rcases hkeeps.pairs p hp with hold | ⟨hnew, -⟩
    · exact hkeeps.succeeded p hplt hok (h.succeeded p hold hselected hok)
    · exact absurd hplt (Nat.not_lt_of_le hnew)
  · rw [hsending]
    exact fun p hp => Nat.lt_of_lt_of_le (h.sending_lt p hp) hlt
  · rw [hfreed]
    exact fun p hp => Nat.lt_of_lt_of_le (h.freed_lt p hp) hlt
  · rw [hfreed]
    intro p hp hfreed
    rcases hkeeps.pairs p hp with hold | ⟨hnew, -⟩
    · exact h.not_freed p hold hfreed
    · exact absurd (h.freed_lt p hfreed) (Nat.not_lt_of_le hnew)

theorem Session.of_keeps {a b : IceAgent} (h : Session ok a) (hmoves : Moves noGuards a b)
    (hkeeps : Keeps ok a b) : Session ok b := by
  obtain ⟨hselection, hphase⟩ := h
  refine ⟨hselection.of_keeps hmoves hkeeps, ?_⟩
  obtain ⟨hsending, -, -, hcurrent⟩ := hkeeps.session
  have hold : ∀ p, a.dataSendingIceCandidatePair = some p → p ∉ a.iceCandidatePairs →
      p ∉ b.iceCandidatePairs := by
    intro p hselected hnot hp
    rcases hkeeps.pairs p hp with hold | ⟨hnew, -⟩
    · exact hnot hold
    · exact absurd (hselection.sending_lt p hselected) (Nat.not_lt_of_le hnew)
  have hmem : ∀ p, a.dataSendingIceCandidatePair = some p →
      p ∈ a.iceCandidatePairs ∧ (a.pair p).nominated = true →
        p ∈ b.iceCandidatePairs ∧ (b.pair p).nominated = true := by
    rintro p hselected ⟨hp, hnominated⟩
    exact ⟨hkeeps.mem p hp, hkeeps.nominated p (hselection.sending_lt p hselected) hnominated⟩
  unfold Phase at hphase ⊢
  rw [hcurrent, hsending]
  split at hphase
  · exact fun p hp => hold p hp (hphase p hp)
  · exact fun p hp => hold p hp (hphase p hp)
  · exact fun p hp => hmem p hp (hphase p hp)
  · exact fun p hp => hmem p hp (hphase p hp)
  · obtain ⟨p, hp, hready⟩ := hphase
    refine ⟨p, hp, fun hok => hmem p hp (hready ?_)⟩
    rwa [hkeeps.localOf p (hselection.sending_lt p hp)] at hok
  · trivial
  · trivial

/-! ### Setting up the states -/

/-- The candidates and pairs stay, and so does the data sending pair if there is one. -/
theorem Selection.of_sameCore {a b : IceAgent} (h : Selection ok a) (hcore : SameCore a b)
    (hsending : ∀ p, b.dataSendingIceCandidatePair = some p →
      p < a.nextAddress ∧ (p ∈ a.iceCandidatePairs → ok (a.pair p).localCandidate →
        (a.pair p).state = .succeeded))
    (hfreed : ∀ p ∈ b.freedPairs, p < a.nextAddress ∧ p ∉ a.iceCandidatePairs) :
    Selection ok b := by
  obtain ⟨hwf, hsockets⟩ := h.served.wellFormed_and_sockets (Moves.other trivial hcore)
  obtain ⟨hcandidate, hpair, hnext, hlocals, -, hpairs⟩ := hcore
  refine ⟨⟨hwf, hsockets, ?_⟩, ?_, ?_, ?_, ?_⟩
  · rw [hpairs, hpair]
    intro p hp hok
    obtain ⟨hstate, hvalid, hmem⟩ := h.served.serves p hp hok
    constructor
    · rwa [hpair]
    · rwa [hpair, hcandidate]
    · rwa [hpair, hlocals]
  · rw [hpairs, hpair]
    exact fun p hp hselected => (hsending p hselected).2 hp
  · rw [hnext]
    exact fun p hselected => (hsending p hselected).1
  · rw [hnext]
    exact fun p hp => (hfreed p hp).1
  · rw [hpairs]
    exact fun p hp hmem => (hfreed p hmem).2 hp

/-- Only the state of the state machine changes. -/
theorem Selection.recast {a b : IceAgent} (h : Selection ok a) (hcore : SameCore a b)
    (hsending : b.dataSendingIceCandidatePair = a.dataSendingIceCandidatePair)
    (hfreed : b.freedPairs = a.freedPairs) : Selection ok b := by
  apply h.of_sameCore hcore
  · rw [hsending]
    exact fun p hp => ⟨h.sending_lt p hp, fun hmem => h.succeeded p hmem hp⟩
  · rw [hfreed]
    exact fun p hp => ⟨h.freed_lt p hp, fun hmem => h.not_freed p hmem hp⟩

/-- All pairs change, but those of `ok` candidates do not fail, and the data sending one has
succeeded. -/
theorem Selection.modifyPairs (h : Selection ok agent) {f : IceCandidatePair → IceCandidatePair}
    (hidem : ∀ pair, f (f pair) = f pair)
    (hlocal : ∀ pair, (f pair).localCandidate = pair.localCandidate)
    (hfailed : ∀ p ∈ agent.iceCandidatePairs, ok (agent.pair p).localCandidate →
      (f (agent.pair p)).state ≠ .failed)
    (hsucceeded : ∀ p ∈ agent.iceCandidatePairs, agent.dataSendingIceCandidatePair = some p →
      ok (agent.pair p).localCandidate → (f (agent.pair p)).state = .succeeded)
    (hmoves : Moves noGuards agent (agent.modifyPairs f agent.iceCandidatePairs)) :
    Selection ok (agent.modifyPairs f agent.iceCandidatePairs) := by
  obtain ⟨hwf, hsockets⟩ := h.served.wellFormed_and_sockets hmoves
  have hstate : ∀ q ∈ agent.iceCandidatePairs,
      (agent.modifyPairs f agent.iceCandidatePairs).pair q = f (agent.pair q) := by
    intro q hq
    rw [pair_modifyPairs hidem, if_pos hq]
  have hframe := modifyPairs_frame agent f agent.iceCandidatePairs
  rw [hframe] at hwf hsockets ⊢
  refine ⟨⟨hwf, hsockets, ?_⟩, ?_, h.sending_lt, h.freed_lt, h.not_freed⟩
  · intro p hp hok
    dsimp only at hok
    rw [hstate p hp, hlocal] at hok
    obtain ⟨-, hvalid, hmem⟩ := h.served.serves p hp hok
    constructor <;> dsimp only <;> rw [hstate p hp]
    · exact hfailed p hp hok
    · rw [hlocal]
      exact hvalid
    · rw [hlocal]
      exact hmem
  · intro p hp hselected hok
    dsimp only at hok ⊢
    rw [hstate p hp] at hok ⊢
    rw [hlocal] at hok
    exact hsucceeded p hp hselected hok

theorem Selection.checkConnectionStateSetup (h : Selection ok agent)
    (hnot : ∀ p, agent.dataSendingIceCandidatePair = some p → p ∉ agent.iceCandidatePairs) :
    Selection ok agent.checkConnectionStateSetup := by
  apply h.modifyPairs
  · exact fun _ => rfl
  · exact fun _ => rfl
  · exact fun _ _ _ hfailed => nomatch hfailed
  · exact fun p hp hselected _ => absurd hp (hnot p hselected)
  · exact Moves.checkConnectionStateSetup trivial agent

/-- The data sending pair from before a restart is not in the list any more. -/
theorem Selection.freeLastDataSendingPair (h : Selection ok agent)
    (hnot : ∀ p, agent.dataSendingIceCandidatePair = some p → p ∉ agent.iceCandidatePairs) :
    Selection ok agent.freeLastDataSendingPair ∧
      agent.freeLastDataSendingPair.dataSendingIceCandidatePair = none := by
  unfold IceAgent.freeLastDataSendingPair
  split
  · next hnone => exact ⟨h, hnone⟩
  · next p hp =>
    refine ⟨h.of_sameCore ⟨rfl, rfl, rfl, rfl, rfl, rfl⟩ (fun _ hselected => nomatch hselected) ?_,
      rfl⟩
    intro q hq
    rcases List.mem_append.mp hq with hq | hq
    · exact ⟨h.freed_lt q hq, fun hmem => h.not_freed q hmem hq⟩
    · rw [List.mem_singleton.mp hq]
      exact ⟨h.sending_lt p hp, hnot p hp⟩

theorem isNominatedAndValid_iff {p : Nat} :
    agent.isNominatedAndValid p ↔
      (agent.pair p).nominated = true ∧ (agent.pair p).state = .succeeded := by
  simp [isNominatedAndValid]

/-- A pair of the list that is nominated and has succeeded becomes the data sending one. -/
theorem Selection.select (h : Selection ok agent) {p : Nat} (hp : p ∈ agent.iceCandidatePairs)
    (hvalid : agent.isNominatedAndValid p) :
    Selection ok { agent with dataSendingIceCandidatePair := some p } := by
  refine h.of_sameCore ⟨rfl, rfl, rfl, rfl, rfl, rfl⟩ ?_ ?_
  · intro q hselected
    obtain rfl := Option.some.inj hselected
    exact ⟨h.served.wellFormed.pairs_lt p hp, fun _ _ => (isNominatedAndValid_iff.mp hvalid).2⟩
  · exact fun q hq => ⟨h.freed_lt q hq, fun hmem => h.not_freed q hmem hq⟩

theorem Selection.connectedStateSetup (h : Selection ok agent)
    (hnot : ∀ p, agent.dataSendingIceCandidatePair = some p → p ∉ agent.iceCandidatePairs) :
    Selection ok agent.connectedStateSetup ∧
      ∀ p, agent.connectedStateSetup.dataSendingIceCandidatePair = some p →
        p ∈ agent.connectedStateSetup.iceCandidatePairs ∧
          (agent.connectedStateSetup.pair p).nominated = true := by
  obtain ⟨hfree, hnone⟩ := h.freeLastDataSendingPair hnot
  unfold IceAgent.connectedStateSetup
  dsimp only
  split
  · refine ⟨hfree, fun p hselected => ?_⟩
    rw [hnone] at hselected
    exact nomatch hselected
  · next p hp =>
    have hmem := List.mem_of_find?_eq_some hp
    have hvalid := List.find?_some hp
    refine ⟨hfree.select hmem hvalid, fun q hselected => ?_⟩
    obtain rfl := Option.some.inj hselected
    exact ⟨hmem, (isNominatedAndValid_iff.mp hvalid).1⟩

theorem localCandidate_frozenPair (pair : IceCandidatePair) :
    (frozenPair pair).localCandidate = pair.localCandidate := by
  unfold frozenPair
  split_ifs <;> rfl

def SelectsNominated (agent : IceAgent) : Prop :=
  ∀ p, agent.dataSendingIceCandidatePair = some p →
    p ∈ agent.iceCandidatePairs ∧ (agent.pair p).nominated = true

/-- Freezing the pairs that are not nominated leaves the data sending one alone. -/
theorem Selection.freeze (h : Selection ok agent) (hselects : agent.SelectsNominated)
    (hmoves : Moves noGuards agent (agent.modifyPairs frozenPair agent.iceCandidatePairs)) :
    Selection ok (agent.modifyPairs frozenPair agent.iceCandidatePairs) ∧
      (agent.modifyPairs frozenPair agent.iceCandidatePairs).SelectsNominated := by
  constructor
  · apply h.modifyPairs frozenPair_frozenPair localCandidate_frozenPair _ _ hmoves
    · intro p hp hok
      unfold frozenPair
      split_ifs
      · exact (h.served.serves p hp hok).state
      · exact fun hfailed => nomatch hfailed
    · intro p hp hselected hok
      unfold frozenPair
      rw [if_pos (hselects p hselected).2]
      exact h.succeeded p hp hselected hok
  · rw [modifyPairs_frame]
    intro p hselected
    obtain ⟨hp, hnominated⟩ := hselects p hselected
    refine ⟨hp, ?_⟩
    dsimp only
    rw [pair_modifyPairs frozenPair_frozenPair, if_pos hp, nominated_frozenPair]
    exact hnominated

theorem Selection.nominateCandidatePair (h : Selection ok agent) (hselects : agent.SelectsNominated)
    (hcontrolling : agent.isControlling) {b : IceAgent} (hb : agent.nominateCandidatePair = .ok b) :
    Selection ok b ∧ b.SelectsNominated ∧
      (∀ q, (b.pair q).localCandidate = (agent.pair q).localCandidate) ∧ SameSession agent b := by
  obtain ⟨p, -, rfl⟩ := nominateCandidatePair_ok hcontrolling hb
  set marked := agent.modifyPair p fun pair => { pair with nominated := true } with hmarked
  have hmoves : Moves noGuards agent marked :=
    Moves.one (.markPair agent p true (agent.pair p).state trivial)
  have hkeeps : Keeps ok agent marked :=
    Keeps.modifyPair agent p _ rfl (fun _ => rfl) (fun _ h => h) fun _ h => h
  have hselects' : marked.SelectsNominated := by
    intro q hselected
    obtain ⟨hq, hnominated⟩ := hselects q hselected
    exact ⟨hq, hkeeps.nominated q (h.sending_lt q hselected) hnominated⟩
  have hlocal : ∀ q, (marked.pair q).localCandidate = (agent.pair q).localCandidate := by
    intro q
    by_cases hq : q = p
    · subst hq
      rw [hmarked, pair_modifyPair_self]
    · rw [hmarked, pair_modifyPair_of_ne agent hq]
  have hfreezes : Moves noGuards marked (marked.modifyPairs frozenPair
      marked.iceCandidatePairs) := by
    apply Moves.foldl
    intro a q _
    rw [← freeze_eq]
    unfold IceAgent.freeze
    split_ifs
    · exact .refl
    · exact Moves.setPairState trivial a q .frozen
  obtain ⟨hselection, hnominated⟩ := (h.of_keeps hmoves hkeeps).freeze hselects' hfreezes
  rw [foldl_freeze_eq]
  refine ⟨hselection, hnominated, ?_, ?_⟩
  · intro q
    rw [pair_modifyPairs frozenPair_frozenPair]
    split_ifs
    · rw [localCandidate_frozenPair, hlocal]
    · exact hlocal q
  · rw [modifyPairs_frame]
    exact ⟨rfl, rfl, rfl, rfl⟩

theorem invalidateNotSelected_frame (agent : IceAgent) (p : Nat) :
    ∃ candidate, agent.invalidateNotSelected p = { agent with candidate := candidate } ∧
      candidate (agent.pair p).localCandidate = agent.candidate (agent.pair p).localCandidate := by
  unfold invalidateNotSelected
  apply List.foldlRecOn (motive := fun b : IceAgent => ∃ candidate,
    b = { agent with candidate := candidate } ∧
      candidate (agent.pair p).localCandidate = agent.candidate (agent.pair p).localCandidate)
  · exact ⟨agent.candidate, rfl, rfl⟩
  · rintro b ⟨candidate, rfl, hsame⟩ c -
    split_ifs with hc
    · refine ⟨_, rfl, ?_⟩
      rw [Function.update_of_ne (Ne.symm hc)]
      exact hsame
    · exact ⟨candidate, rfl, hsame⟩

/-- What the set-up of the ready state leaves of the pairs. -/
theorem freeNotSelected_frame (agent : IceAgent) (p : Nat) :
    ∃ candidate pair, (agent.freeNotSelected p =
        { agent with candidate := candidate, pair := pair }.freePairs fun q =>
          (pair q).state != IceCandidatePairState.failed) ∧
      candidate (agent.pair p).localCandidate = agent.candidate (agent.pair p).localCandidate ∧
      ∀ q, pair q =
        if q ∈ agent.iceCandidatePairs then failInvalid candidate (agent.pair q)
          else agent.pair q := by
  obtain ⟨candidate, heq, hsame⟩ := invalidateNotSelected_frame agent p
  refine ⟨candidate, (agent.invalidateNotSelected p).invalidateCandidatePair.pair, ?_, hsame, ?_⟩
  · unfold freeNotSelected
    dsimp only
    rw [invalidateCandidatePair_frame, heq]
  · intro q
    rw [pair_invalidateCandidatePair, heq]

theorem failInvalid_eq {candidate : Nat → IceCandidate} {pair : IceCandidatePair}
    (h : (failInvalid candidate pair).state ≠ .failed) :
    (candidate pair.localCandidate).state = .valid ∧ failInvalid candidate pair = pair := by
  unfold failInvalid at h ⊢
  split_ifs at h ⊢ with hstate
  · exact absurd rfl h
  · exact ⟨not_not.mp hstate, rfl⟩

/-- The selected pair is still there after the set-up of the ready state, if its candidate is
`ok`. -/
theorem Selection.freeNotSelected (h : Selection ok agent) {p : Nat}
    (hselected : agent.dataSendingIceCandidatePair = some p) (hp : p ∈ agent.iceCandidatePairs)
    (hnominated : (agent.pair p).nominated = true) :
    Selection ok (agent.freeNotSelected p) ∧
      (agent.freeNotSelected p).dataSendingIceCandidatePair = some p ∧
      (ok ((agent.freeNotSelected p).pair p).localCandidate →
        p ∈ (agent.freeNotSelected p).iceCandidatePairs ∧
          ((agent.freeNotSelected p).pair p).nominated = true) := by
  obtain ⟨hwf, hsockets⟩ :=
    h.served.wellFormed_and_sockets (Moves.freeNotSelected trivial trivial agent p)
  obtain ⟨candidate, pair, heq, hsame, hpair⟩ := freeNotSelected_frame agent p
  rw [heq] at hwf hsockets ⊢
  -- a pair of the list that has not failed is as it was, and its candidate is valid
  have hkept : ∀ q ∈ agent.iceCandidatePairs, (pair q).state ≠ .failed →
      (candidate (agent.pair q).localCandidate).state = .valid ∧ pair q = agent.pair q := by
    intro q hq hstate
    rw [hpair q, if_pos hq] at hstate ⊢
    exact failInvalid_eq hstate
  have hmem : ∀ q, q ∈ agent.iceCandidatePairs.filter (fun q => (pair q).state != .failed) →
      q ∈ agent.iceCandidatePairs ∧ (pair q).state ≠ .failed := by
    intro q hq
    simpa using List.mem_filter.mp hq
  refine ⟨⟨⟨hwf, hsockets, ?_⟩, ?_, h.sending_lt, ?_, ?_⟩, hselected, ?_⟩
  · intro q hq hok
    obtain ⟨hold, hstate⟩ := hmem q hq
    obtain ⟨hvalid, hunchanged⟩ := hkept q hold hstate
    have hok' : ok (agent.pair q).localCandidate := hunchanged ▸ hok
    refine ⟨hstate, ?_, ?_⟩
    · show (candidate (pair q).localCandidate).state = .valid
      rw [hunchanged]
      exact hvalid
    · show (pair q).localCandidate ∈ agent.localCandidates
      rw [hunchanged]
      exact (h.served.serves q hold hok').mem
  · intro q hq hsending hok
    obtain ⟨hold, hstate⟩ := hmem q hq
    obtain ⟨-, hunchanged⟩ := hkept q hold hstate
    show (pair q).state = .succeeded
    rw [hunchanged]
    exact h.succeeded q hold hsending (hunchanged ▸ hok)
  · intro q hq
    rcases List.mem_append.mp hq with hq | hq
    · exact h.freed_lt q hq
    · exact h.served.wellFormed.pairs_lt q (List.mem_of_mem_filter hq)
  · intro q hq hfreed
    rcases List.mem_append.mp hfreed with hfreed | hfreed
    · exact h.not_freed q (hmem q hq).1 hfreed
    · have hdrop := (List.mem_filter.mp hfreed).2
      simp only [(List.mem_filter.mp hq).2, Bool.not_true, Bool.false_eq_true] at hdrop
  · intro hok
    have hlocal : (pair p).localCandidate = (agent.pair p).localCandidate := by
      rw [hpair p, if_pos hp]
      unfold failInvalid
      split_ifs <;> rfl
    have hok' : ok (agent.pair p).localCandidate := hlocal ▸ hok
    have hunchanged : pair p = agent.pair p := by
      rw [hpair p, if_pos hp]
      apply if_neg
      rw [hsame, not_not]
      exact (h.served.serves p hp hok').valid
    constructor
    · apply List.mem_filter.mpr
      refine ⟨hp, ?_⟩
      rw [hunchanged, h.succeeded p hp hselected hok']
      rfl
    · show (pair p).nominated = true
      rw [hunchanged]
      exact hnominated

theorem Selection.freeTurnConnections (h : Selection ok agent) {shutdownComplete : Nat → Bool}
    (hshutdown : ∀ c, ok c → shutdownComplete c = false) :
    Selection ok (agent.freeTurnConnections shutdownComplete) := by
  obtain ⟨hwf, hsockets⟩ :=
    h.served.wellFormed_and_sockets (Moves.one (.keepLocals agent _ trivial))
  refine ⟨⟨hwf, hsockets, ?_⟩, h.succeeded, h.sending_lt, h.freed_lt, h.not_freed⟩
  intro p hp hok
  obtain ⟨hstate, hvalid, hmem⟩ := h.served.serves p hp hok
  refine ⟨hstate, hvalid, List.mem_filter.mpr ⟨hmem, ?_⟩⟩
  rw [hshutdown _ hok, Bool.and_false]
  rfl

end IceAgent

end KvsWebrtc.Ice
