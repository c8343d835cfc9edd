import KvsWebrtc.Ice.Equiv.RemoteCandidates
import KvsWebrtc.Stun.Equiv.Integrity

/-!
# Binding requests without a valid message integrity

The decoder verifies a message integrity that a request has, but nothing asks for one.
`unauthenticated_request_iff` says for which requests that leaves the candidates, the pairs and the
check queue of the agent as they were: those that it cannot decode, and those from a known address
that find nothing to nominate, to check or to fail.
-/

namespace KvsWebrtc.Ice

open Stun

section

variable (hmac : List UInt8 → List UInt8 → Digest) (crc32 : List UInt8 → UInt32)

instance (buf password : List UInt8) (h : AttributeHeader) :
    Decidable (IntegrityValid hmac buf (some password) h) :=
  decidable_of_iff
    ((hmac password (coveredBytes buf h.pos stunHmacValueLen)).1 =
    bytesAt buf (h.pos + 4) stunHmacValueLen)
    ⟨fun h => ⟨password, rfl, h⟩, fun ⟨_, hkey, h⟩ => by
    obtain rfl := Option.some.inj hkey; exact h⟩

/-- The buffer has a message integrity that is valid under a password. -/
def Authenticated (password buf : List UInt8) : Prop :=
  ∃ h ∈ wireHeaders buf, h.type = typeMessageIntegrity ∧ IntegrityValid hmac buf (some password) h

instance (password buf : List UInt8) : Decidable (Authenticated hmac password buf) :=
  inferInstanceAs (Decidable (∃ h ∈ wireHeaders buf, _ ∧ _))

def IsBindingRequest (buf : List UInt8) : Prop := beNat (bytesAt buf 0 2) = typeBindingRequest

instance (buf : List UInt8) : Decidable (IsBindingRequest buf) :=
  inferInstanceAs (Decidable (_ = _))

namespace IceAgent

/-- The candidates, the pairs and the check queue are as they were. -/
structure Untouched (a b : IceAgent) : Prop extends Unchanged a b where
  triggeredCheckQueue : b.triggeredCheckQueue = a.triggeredCheckQueue

/-- No peer reflexive candidate is added for an address. -/
def KnowsRemote (agent : IceAgent) (srcAddr : KvsIpAddress) : Prop :=
  kvsIceMaxRemoteCandidateCount ≤ agent.remoteCandidates.length ∨
    (agent.findCandidateWithIp srcAddr agent.remoteCandidates).isSome

/-- The answer to a request, which the candidate `c` sends, leaves the pairs as they are. -/
def AnswerKeeps (agent : IceAgent) (request : StunPacket) (c : Nat) (pair : Option Nat) :
    SendResult → Prop
  | .ok => ∀ p, pair = some p → (agent.pair p).state.isChecked = false ∧
      ((agent.pair p).nominated = true ∨ (getStunAttribute request typeUseCandidate).isSome = false)
  | .closedAlready => pair = none ∧
      (∀ p ∈ agent.iceCandidatePairs,
        (agent.pair p).localCandidate = c ∨
            (agent.candidate (agent.pair p).localCandidate).state ≠ .valid →
          (agent.pair p).state = .failed) ∧
      (c ∈ agent.remoteCandidates → (agent.candidate c).state = .invalid)
  | .failed => pair = none

/-- A request that does nothing: it cannot be decoded, or it comes from a known address and its
answer leaves the pairs as they are.  A request on which the decoder reads behind the end of the
buffer counts as one that cannot be decoded. -/
def Harmless (agent : IceAgent) (buffer : List UInt8) (socketConnection : Nat)
    (srcAddr : KvsIpAddress) (sent : SendResult) : Prop :=
  ∀ request, deserializeStunPacket hmac crc32 buffer (some agent.localPassword) = .ok request →
    agent.KnowsRemote srcAddr ∧
      ∀ c, agent.findCandidateWithSocketConnection socketConnection agent.localCandidates = some c →
        agent.AnswerKeeps request c (agent.findIceCandidatePair (some socketConnection) srcAddr)
        sent

def answered (agent : IceAgent) (request : StunPacket) (socketConnection : Nat)
    (srcAddr : KvsIpAddress) (sent : SendResult) (c : Nat) : IceAgent :=
  let agent := agent.sendStunPacket sent c srcAddr
  match agent.findIceCandidatePair (some socketConnection) srcAddr with
  | none => agent
  | some p => (agent.nominateOnRequest request p).triggerCheck p

/-! ### The steps of handling a request -/

theorem bindingResponse_ok (agent : IceAgent) (transactionId : List UInt8)
    (srcAddr : KvsIpAddress) :
    ∃ response, agent.bindingResponse transactionId srcAddr = .ok response := by
  have haddress : appendStunAddressAttribute
      (createStunPacket typeBindingResponseSuccess transactionId) typeXorMappedAddress srcAddr =
        .ok ⟨⟨typeBindingResponseSuccess,
            (4 + ipAddressLength srcAddr.family + stunAttributeHeaderLen) % 2 ^ 16,
            stunHeaderMagicCookie, transactionId⟩,
          [⟨typeXorMappedAddress, 4 + ipAddressLength srcAddr.family, .address srcAddr⟩]⟩ := by
    have hfirst : getFirstAvailableStunAttribute
        (createStunPacket typeBindingResponseSuccess transactionId) = .ok attributesOffset := rfl
    simp only [appendStunAddressAttribute, appendAttribute, hfirst]
    rw [if_pos (by decide), if_pos ⟨by show 0 < stunAttributeMaxCount; decide, by decide⟩]
    simp [createStunPacket, addressAttribute]
  -- the address takes 32 bytes of the allocation, behind which there is room
  have hfirst : ∀ header : StunHeader, getFirstAvailableStunAttribute
      ⟨header, [⟨typeXorMappedAddress, 4 + ipAddressLength srcAddr.family, .address srcAddr⟩]⟩ =
        .ok (attributesOffset + 32) := by
    intro header
    simp [getFirstAvailableStunAttribute, getPackagedStunAttributeSize, stunAttributeMaxCount,
      attributesOffset, typeXorMappedAddress, typeMessageIntegrity, typeFingerprint,
      typeXorRelayedAddress, sizeofAddress, roundUp8, stunPacketAllocationSize]
  have htype : (if agent.isControlling then typeIceControlling else typeIceControlled) =
      typeIceControlling ∨
      (if agent.isControlling then typeIceControlling else typeIceControlled) =
      typeIceControlled := by
    split_ifs
    · exact .inl rfl
    · exact .inr rfl
  unfold bindingResponse
  rw [haddress]
  simp only [appendStunIceControllAttribute, if_pos htype, appendAttribute, hfirst]
  rw [if_pos (by decide), if_pos ⟨by show 1 < stunAttributeMaxCount; decide, by decide⟩]
  exact ⟨_, rfl⟩

theorem handleBindingRequest_ok {agent : IceAgent} {buffer : List UInt8} {request : StunPacket}
    (hok : deserializeStunPacket hmac crc32 buffer (some agent.localPassword) = .ok request)
    (socketConnection : Nat) (srcAddr : KvsIpAddress) (sent : SendResult) :
    (agent.handleBindingRequest hmac crc32 buffer socketConnection srcAddr sent).2 =
      let agent := agent.checkRemotePeerReflexiveCandidate srcAddr (priorityOf request)
      match agent.findCandidateWithSocketConnection socketConnection agent.localCandidates with
      | none => agent
      | some c => agent.answered request socketConnection srcAddr sent c := by
  obtain ⟨response, hresponse⟩ := agent.bindingResponse_ok request.header.transactionId srcAddr
  unfold handleBindingRequest
  rw [hok]
  dsimp only
  rw [hresponse]
  dsimp only
  cases (agent.checkRemotePeerReflexiveCandidate srcAddr
    (priorityOf request)).findCandidateWithSocketConnection socketConnection
      (agent.checkRemotePeerReflexiveCandidate srcAddr (priorityOf request)).localCandidates with
  | none => rfl
  | some c =>
    unfold answered
    dsimp only
    cases ((agent.checkRemotePeerReflexiveCandidate srcAddr (priorityOf request)).sendStunPacket
      sent c
      srcAddr).findIceCandidatePair (some socketConnection) srcAddr with
    | none => rfl
    | some p => rfl

@[simp] theorem nominateOnRequest_remoteCandidates (agent : IceAgent) (request : StunPacket)
    (p : Nat) :
    (agent.nominateOnRequest request p).remoteCandidates = agent.remoteCandidates := by
  unfold nominateOnRequest
  split_ifs <;> rfl

@[simp] theorem triggerCheck_remoteCandidates (agent : IceAgent) (p : Nat) :
    (agent.triggerCheck p).remoteCandidates = agent.remoteCandidates := by
  unfold triggerCheck
  split_ifs <;> rfl

@[simp] theorem nominateOnRequest_candidate (agent : IceAgent) (request : StunPacket) (p : Nat) :
    (agent.nominateOnRequest request p).candidate = agent.candidate := by
  unfold nominateOnRequest
  split_ifs <;> rfl

@[simp] theorem triggerCheck_candidate (agent : IceAgent) (p : Nat) :
    (agent.triggerCheck p).candidate = agent.candidate := by
  unfold triggerCheck
  split_ifs <;> rfl

theorem answered_candidate (agent : IceAgent) (request : StunPacket) (socketConnection : Nat)
    (srcAddr : KvsIpAddress) (sent : SendResult) (c : Nat) :
    (agent.answered request socketConnection srcAddr sent c).candidate =
      agent.candidatesAfter sent c := by
  have hsent : (agent.sendStunPacket sent c srcAddr).candidate = agent.candidatesAfter sent c := by
    rw [sendStunPacket_eq]
  unfold answered
  dsimp only
  split
  · exact hsent
  · simp [hsent]

theorem answered_remoteCandidates (agent : IceAgent) (request : StunPacket) (socketConnection : Nat)
    (srcAddr : KvsIpAddress) (sent : SendResult) (c : Nat) :
    (agent.answered request socketConnection srcAddr sent c).remoteCandidates =
      agent.remoteCandidates := by
  have hsent : (agent.sendStunPacket sent c srcAddr).remoteCandidates = agent.remoteCandidates := by
    rw [sendStunPacket_eq]
  unfold answered
  dsimp only
  split
  · exact hsent
  · simp [hsent]

/-- **A request from an unknown address** adds a candidate. -/
theorem remoteCandidates_of_not_knowsRemote {agent : IceAgent} {srcAddr : KvsIpAddress}
    (h : ¬ agent.KnowsRemote srcAddr) (priority : Nat) :
    (agent.checkRemotePeerReflexiveCandidate srcAddr priority).remoteCandidates ≠
      agent.remoteCandidates := by
  obtain ⟨hlen, hfind⟩ := not_or.mp h
  have hnone := Option.not_isSome_iff_eq_none.mp hfind
  unfold checkRemotePeerReflexiveCandidate
  rw [if_neg hlen, hnone]
  dsimp only
  rw [addRemote_eq, (sameCandidates_createIceCandidatePairs _ _ _).remoteCandidates]
  exact fun heq => absurd (congrArg List.length heq) (Nat.succ_ne_self _)

/-! ### When the answer leaves the pairs alone -/

theorem findIceCandidatePair_congr {a b : IceAgent}
    (hpairs : b.iceCandidatePairs = a.iceCandidatePairs) (hpair : b.pair = a.pair)
    (hcandidate : ∀ c, (b.candidate c).socketConnection = (a.candidate c).socketConnection ∧
      (b.candidate c).ipAddress = (a.candidate c).ipAddress)
    (socketConnection : Option Nat) (remoteAddr : KvsIpAddress) :
    b.findIceCandidatePair socketConnection remoteAddr =
      a.findIceCandidatePair socketConnection remoteAddr := by
  have hbetween : b.isBetween socketConnection remoteAddr =
      a.isBetween socketConnection remoteAddr := by
    funext p
    simp only [isBetween, hpair, hcandidate]
  unfold findIceCandidatePair
  rw [hpairs, hbetween]

theorem socketConnection_of_find {agent : IceAgent} {socketConnection c : Nat}
    {candidates : List Nat}
    (h : agent.findCandidateWithSocketConnection socketConnection candidates = some c) :
    (agent.candidate c).socketConnection = some socketConnection := by
  have hfound := List.find?_some h
  exact beq_iff_eq.mp hfound

theorem state_ne_failed_of_find {agent : IceAgent} {socketConnection : Option Nat}
    {remoteAddr : KvsIpAddress} {p : Nat}
    (h : agent.findIceCandidatePair socketConnection remoteAddr = some p) :
    (agent.pair p).state ≠ .failed := by
  have hbetween := List.find?_some h
  simp only [isBetween, Bool.and_eq_true, bne_iff_ne] at hbetween
  exact hbetween.1.1

theorem mem_of_find {agent : IceAgent} {socketConnection : Option Nat} {remoteAddr : KvsIpAddress}
    {p : Nat} (h : agent.findIceCandidatePair socketConnection remoteAddr = some p) :
    p ∈ agent.iceCandidatePairs :=
  List.mem_of_find?_eq_some h

/-! The pair that a request finds: its state stays, `USE-CANDIDATE` nominates it, and a check is
triggered. -/

theorem pair_state_triggered (agent : IceAgent) (request : StunPacket) (p q : Nat) :
    (((agent.nominateOnRequest request p).triggerCheck p).pair q).state = (agent.pair q).state := by
  unfold triggerCheck nominateOnRequest modifyPair
  split_ifs <;> by_cases hq : q = p <;> simp [hq]

theorem pair_nominated_triggered (agent : IceAgent) (request : StunPacket) (p : Nat) :
    (((agent.nominateOnRequest request p).triggerCheck p).pair p).nominated =
      ((agent.pair p).nominated || (getStunAttribute request typeUseCandidate).isSome) := by
  have hnominate : ((agent.nominateOnRequest request p).pair p).nominated =
      ((agent.pair p).nominated || (getStunAttribute request typeUseCandidate).isSome) := by
    unfold nominateOnRequest
    split_ifs with h
    · simp [h.2]
    · cases hn : (agent.pair p).nominated with
      | true => simp
      | false => simp [hn] at h; simp [h]
  unfold triggerCheck
  split_ifs <;> exact hnominate

theorem queue_triggered (agent : IceAgent) (request : StunPacket) (p : Nat) :
    ((agent.nominateOnRequest request p).triggerCheck p).triggeredCheckQueue =
      agent.triggeredCheckQueue ++ if (agent.pair p).state.isChecked then [p] else [] := by
  have hstate : ((agent.nominateOnRequest request p).pair p).state = (agent.pair p).state := by
    unfold nominateOnRequest
    split_ifs <;> simp
  have hqueue : (agent.nominateOnRequest request p).triggeredCheckQueue =
      agent.triggeredCheckQueue := by
    unfold nominateOnRequest
    split_ifs <;> rfl
  unfold triggerCheck
  rw [hstate]
  split_ifs with hchecked
  · rw [← hqueue]
  · rw [hqueue, List.append_nil]

theorem triggered_eq {agent : IceAgent} {request : StunPacket} {p : Nat}
    (hchecked : (agent.pair p).state.isChecked = false)
    (hnominated : (agent.pair p).nominated = true ∨
      (getStunAttribute request typeUseCandidate).isSome = false) :
    (agent.nominateOnRequest request p).triggerCheck p = agent := by
  have hnominate : agent.nominateOnRequest request p = agent := by
    unfold nominateOnRequest
    rw [if_neg]
    rintro ⟨hnot, huse⟩
    rcases hnominated with hn | hn
    · rw [hn] at hnot
      cases hnot
    · rw [hn] at huse
      cases huse
  rw [hnominate, triggerCheck, hchecked]
  rfl

theorem Untouched.refl (agent : IceAgent) : Untouched agent agent :=
  ⟨Unchanged.refl agent, rfl⟩

/-! ### When the answer leaves the pairs alone -/

section

variable {agent : IceAgent} {request : StunPacket} {socketConnection c : Nat}
    {srcAddr : KvsIpAddress}

/-- An answer that is sent and finds nothing to nominate or to check. -/
theorem answered_ok_eq_self
    (h : agent.AnswerKeeps request c (agent.findIceCandidatePair (some socketConnection) srcAddr)
      .ok) :
    agent.answered request socketConnection srcAddr .ok c = agent := by
  unfold answered sendStunPacket
  dsimp only
  split
  · rfl
  · next p hp =>
    obtain ⟨hchecked, hnominated⟩ := h p hp
    exact triggered_eq hchecked hnominated

/-- An answer that is sent: the pair is nominated or checked, or nothing happens. -/
theorem untouched_answered_ok :
    Untouched agent (agent.answered request socketConnection srcAddr .ok c) ↔
      agent.AnswerKeeps request c (agent.findIceCandidatePair (some socketConnection) srcAddr)
        .ok := by
  constructor
  · intro h p hp
    unfold answered sendStunPacket at h
    dsimp only at h
    rw [hp] at h
    dsimp only at h
    constructor
    · have hqueue := h.triggeredCheckQueue
      rw [queue_triggered] at hqueue
      by_contra hchecked
      simp [hchecked] at hqueue
    · have hnominated := congrArg IceCandidatePair.nominated (h.pair p (mem_of_find hp))
      rw [pair_nominated_triggered] at hnominated
      rcases hn : (agent.pair p).nominated with _ | _
      · simpa [hn] using hnominated
      · exact .inl rfl
  · intro h
    rw [answered_ok_eq_self h]
    exact Untouched.refl agent

/-- What is found once a packet could not be sent has not the state that the pair had. -/
theorem pair_answered_state (request : StunPacket) (socketConnection : Nat) (sent : SendResult)
    {p : Nat} (h : ((agent.sendStunPacket sent c srcAddr).pair p).state = .failed) :
    ((agent.answered request socketConnection srcAddr sent c).pair p).state = .failed := by
  unfold answered
  dsimp only
  split
  · exact h
  · rw [pair_state_triggered]
    exact h

theorem pair_failPair {p : Nat} {destAddr : KvsIpAddress}
    (h : agent.findIceCandidatePair (agent.candidate c).socketConnection destAddr = some p) :
    ((agent.failPair c destAddr).pair p).state = .failed := by
  unfold failPair
  rw [h]
  simp [setPairState]

theorem answered_failed_eq_self
    (hc : agent.findCandidateWithSocketConnection socketConnection agent.localCandidates = some c)
    (h : agent.findIceCandidatePair (some socketConnection) srcAddr = none) :
    agent.answered request socketConnection srcAddr .failed c = agent := by
  have hsent : agent.sendStunPacket .failed c srcAddr = agent := by
    show agent.failPair c srcAddr = agent
    unfold failPair
    rw [socketConnection_of_find hc, h]
  unfold answered
  rw [hsent]
  dsimp only
  rw [h]

theorem untouched_answered_failed
    (hc : agent.findCandidateWithSocketConnection socketConnection agent.localCandidates = some c) :
    Untouched agent (agent.answered request socketConnection srcAddr .failed c) ↔
      agent.AnswerKeeps request c (agent.findIceCandidatePair (some socketConnection) srcAddr)
        .failed := by
  have hsocket := socketConnection_of_find hc
  unfold AnswerKeeps
  dsimp only
  constructor
  · intro h
    by_contra hfound
    obtain ⟨p, hp⟩ := Option.ne_none_iff_exists'.mp hfound
    have hsent : ((agent.sendStunPacket .failed c srcAddr).pair p).state = .failed :=
      pair_failPair (by rw [hsocket]; exact hp)
    have hfailed := pair_answered_state request socketConnection .failed hsent
    rw [h.pair p (mem_of_find hp)] at hfailed
    exact state_ne_failed_of_find hp hfailed
  · intro hnone
    rw [answered_failed_eq_self hc hnone]
    exact Untouched.refl agent

def closed (agent : IceAgent) (c : Nat) : IceAgent :=
  (agent.setCandidateState c .invalid).invalidateCandidatePair

theorem closed_frame (agent : IceAgent) (c : Nat) :
    agent.closed c =
      { agent.setCandidateState c .invalid with pair := (agent.closed c).pair } :=
  invalidateCandidatePair_frame _

theorem pair_closed (agent : IceAgent) (c q : Nat) :
    (agent.closed c).pair q =
      if q ∈ agent.iceCandidatePairs ∧ ((agent.pair q).localCandidate = c ∨
          (agent.candidate (agent.pair q).localCandidate).state ≠ .valid) then
        { agent.pair q with state := .failed }
      else agent.pair q := by
  unfold closed
  rw [pair_invalidateCandidatePair]
  show (if q ∈ agent.iceCandidatePairs then
    failInvalid (agent.setCandidateState c .invalid).candidate (agent.pair q) else agent.pair q) = _
  unfold failInvalid
  by_cases hq : (agent.pair q).localCandidate = c
  · simp [hq, setCandidateState]
  · rw [setCandidateState, candidate_modifyCandidate_of_ne agent hq]
    by_cases hmem : q ∈ agent.iceCandidatePairs <;> simp [hmem, hq]

theorem candidate_closed (agent : IceAgent) (c d : Nat) :
    ((agent.closed c).candidate d).socketConnection = (agent.candidate d).socketConnection ∧
      ((agent.closed c).candidate d).ipAddress = (agent.candidate d).ipAddress := by
  rw [closed_frame]
  show ((agent.setCandidateState c .invalid).candidate d).socketConnection = _ ∧ _
  by_cases hd : d = c
  · simp [hd, setCandidateState]
  · rw [setCandidateState, candidate_modifyCandidate_of_ne agent hd]
    exact ⟨rfl, rfl⟩

theorem pair_closed_eq_self {agent : IceAgent} {c : Nat}
    (h : ∀ p ∈ agent.iceCandidatePairs,
      (agent.pair p).localCandidate = c ∨
          (agent.candidate (agent.pair p).localCandidate).state ≠ .valid →
        (agent.pair p).state = .failed) : (agent.closed c).pair = agent.pair := by
  funext q
  rw [pair_closed]
  split_ifs with hq
  · rw [← h q hq.1 hq.2]
  · rfl

/-- If no pair changes, the same pair is found as before. -/
theorem findIceCandidatePair_closed {agent : IceAgent} {c : Nat}
    (h : (agent.closed c).pair = agent.pair) (socketConnection : Option Nat)
    (remoteAddr : KvsIpAddress) :
    (agent.closed c).findIceCandidatePair socketConnection remoteAddr =
      agent.findIceCandidatePair socketConnection remoteAddr := by
  have hpairs : (agent.closed c).iceCandidatePairs = agent.iceCandidatePairs := by
    rw [closed_frame]
    rfl
  exact findIceCandidatePair_congr hpairs h (agent.candidate_closed c) socketConnection remoteAddr

/-- An answer for which the socket is closed, where all pairs concerned have failed before. -/
theorem answered_closedAlready_eq
    (hc : agent.findCandidateWithSocketConnection socketConnection agent.localCandidates = some c)
    (h : agent.AnswerKeeps request c (agent.findIceCandidatePair (some socketConnection) srcAddr)
      .closedAlready) :
    agent.answered request socketConnection srcAddr .closedAlready c =
      agent.setCandidateState c .invalid := by
  obtain ⟨hnone, hfailed, -⟩ := h
  have hpair := pair_closed_eq_self hfailed
  have hsent : agent.sendStunPacket .closedAlready c srcAddr = agent.closed c := by
    show (agent.closed c).failPair c srcAddr = agent.closed c
    rw [failPair, (agent.candidate_closed c c).1, socketConnection_of_find hc,
      findIceCandidatePair_closed hpair, hnone]
  unfold answered
  rw [hsent]
  dsimp only
  rw [findIceCandidatePair_closed hpair, hnone]
  dsimp only
  rw [closed_frame, hpair]
  rfl

/-- An answer for which the socket is closed lets the pairs of the candidate fail. -/
theorem untouched_answered_closedAlready
    (hc : agent.findCandidateWithSocketConnection socketConnection agent.localCandidates = some c) :
    Untouched agent (agent.answered request socketConnection srcAddr .closedAlready c) ↔
      agent.AnswerKeeps request c (agent.findIceCandidatePair (some socketConnection) srcAddr)
        .closedAlready := by
  have hsocket := socketConnection_of_find hc
  constructor
  · intro h
    -- the pairs of a closed socket fail, so they had failed before
    have hfailed : ∀ p ∈ agent.iceCandidatePairs,
        (agent.pair p).localCandidate = c ∨
            (agent.candidate (agent.pair p).localCandidate).state ≠ .valid →
          (agent.pair p).state = .failed := by
      intro p hp hlocal
      rw [← h.pair p hp]
      apply pair_answered_state
      show (((agent.closed c).failPair c srcAddr).pair p).state = .failed
      have hclosed : ((agent.closed c).pair p).state = .failed := by
        rw [pair_closed, if_pos ⟨hp, hlocal⟩]
      unfold failPair
      split
      · exact hclosed
      · next q _ =>
        by_cases hq : p = q
        · simp [hq, setPairState]
        · rw [setPairState, pair_modifyPair_of_ne _ hq]
          exact hclosed
    refine ⟨?_, hfailed, ?_⟩
    · -- a pair that the request finds would be made to fail
      by_contra hfound
      obtain ⟨p, hp⟩ := Option.ne_none_iff_exists'.mp hfound
      have hsame : (agent.closed c).findIceCandidatePair
          ((agent.closed c).candidate c).socketConnection srcAddr = some p := by
        rw [(agent.candidate_closed c c).1, hsocket,
          findIceCandidatePair_closed (pair_closed_eq_self hfailed)]
        exact hp
      have hstate := pair_answered_state request socketConnection .closedAlready
        (pair_failPair hsame)
      rw [h.pair p (mem_of_find hp)] at hstate
      exact state_ne_failed_of_find hp hstate
    · intro hmem
      rw [← h.candidate c hmem, answered_candidate, candidatesAfter, if_pos rfl, setCandidateState,
        candidate_modifyCandidate_self]
  · intro h
    rw [answered_closedAlready_eq hc h]
    refine ⟨⟨rfl, rfl, ?_, fun _ _ => rfl⟩, rfl⟩
    intro d hd
    by_cases hcd : d = c
    · subst hcd
      rw [setCandidateState, candidate_modifyCandidate_self, ← h.2.2 hd]
    · rw [setCandidateState, candidate_modifyCandidate_of_ne agent hcd]

theorem untouched_answered {sent : SendResult}
    (hc : agent.findCandidateWithSocketConnection socketConnection agent.localCandidates = some c) :
    Untouched agent (agent.answered request socketConnection srcAddr sent c) ↔
      agent.AnswerKeeps request c (agent.findIceCandidatePair (some socketConnection) srcAddr)
        sent := by
  cases sent with
  | ok => exact untouched_answered_ok
  | closedAlready => exact untouched_answered_closedAlready hc
  | failed => exact untouched_answered_failed hc

end

/-- **A binding request** leaves the candidates, the pairs and the check queue as they were exactly
if it is harmless. -/
theorem untouched_iff_harmless {agent : IceAgent} {buffer : List UInt8} {socketConnection : Nat}
    {srcAddr : KvsIpAddress} {sent : SendResult} :
    Untouched agent (agent.handleBindingRequest hmac crc32 buffer socketConnection srcAddr sent).2 ↔
      agent.Harmless hmac crc32 buffer socketConnection srcAddr sent := by
  unfold Harmless
  cases hdecode : deserializeStunPacket hmac crc32 buffer (some agent.localPassword) with
  | error e =>
    have hsame : (agent.handleBindingRequest hmac crc32 buffer socketConnection srcAddr sent).2 =
        agent := by
      rw [handleBindingRequest, hdecode]
    rw [hsame]
    exact ⟨fun _ request hrequest => absurd hrequest (by simp), fun _ => Untouched.refl agent⟩
  | ok request =>
    rw [handleBindingRequest_ok hmac crc32 hdecode]
    have hone : ∀ P : StunPacket → Prop,
        (∀ request', Except.ok (ε := Failure) request = .ok request' → P request') ↔ P request :=
      fun P => ⟨fun h => h request rfl, fun h request' heq => Except.ok.inj heq ▸ h⟩
    rw [hone]
    -- a request from an unknown address adds a candidate, whatever it says
    by_cases hknown : agent.KnowsRemote srcAddr
    · rw [checkRemotePeerReflexiveCandidate_eq hknown]
      dsimp only
      split
      · next hnone =>
        rw [hnone]
        exact ⟨fun _ => ⟨hknown, fun c hc => absurd hc (Option.some_ne_none c).symm⟩,
          fun _ => Untouched.refl agent⟩
      · next c hc =>
        rw [untouched_answered hc, hc]
        exact ⟨fun h => ⟨hknown, fun c' hc' => Option.some.inj hc' ▸ h⟩, fun h => h.2 c rfl⟩
    · refine ⟨fun h => absurd h.remoteCandidates ?_, fun h => absurd h.1 hknown⟩
      have hadded := remoteCandidates_of_not_knowsRemote hknown (priorityOf request)
      dsimp only
      split
      · exact hadded
      · rw [answered_remoteCandidates]
        exact hadded

/-! ### Runs -/

/-- The request finds its socket open, or the candidate has been found to be invalid before. -/
def SocketKept (agent : IceAgent) (socketConnection : Nat) (sent : SendResult) : Prop :=
  sent = .closedAlready →
    ∀ c, agent.findCandidateWithSocketConnection socketConnection agent.localCandidates = some c →
      (agent.candidate c).state = .invalid

/-- **A harmless request** that keeps its socket does nothing at all. -/
theorem handleBindingRequest_eq_self {agent : IceAgent} {buffer : List UInt8}
    {socketConnection : Nat} {srcAddr : KvsIpAddress} {sent : SendResult}
    (h : agent.Harmless hmac crc32 buffer socketConnection srcAddr sent)
    (hsocket : agent.SocketKept socketConnection sent) :
    (agent.handleBindingRequest hmac crc32 buffer socketConnection srcAddr sent).2 = agent := by
  cases hdecode : deserializeStunPacket hmac crc32 buffer (some agent.localPassword) with
  | error e => rw [handleBindingRequest, hdecode]
  | ok request =>
    obtain ⟨hknown, hkeeps⟩ := h request hdecode
    rw [handleBindingRequest_ok hmac crc32 hdecode, checkRemotePeerReflexiveCandidate_eq hknown]
    dsimp only
    split
    · rfl
    · next c hc =>
      have hc' := hkeeps c hc
      cases sent with
      | ok => exact answered_ok_eq_self hc'
      | failed => exact answered_failed_eq_self hc hc'
      | closedAlready =>
        rw [answered_closedAlready_eq hc hc', setCandidateState, modifyCandidate,
          ← hsocket rfl c hc, Function.update_eq_self]

end IceAgent

end

namespace IceAgent

/-- The event is a binding request without a valid message integrity. -/
def IsUnauthenticated (platform : Platform) (agent : IceAgent) : IceEvent → Prop
  | .stunPacket buffer _ _ _ _ _ =>
    IsBindingRequest buffer ∧ ¬ Authenticated platform.hmac agent.localPassword buffer
  | _ => False

instance (platform : Platform) (agent : IceAgent) :
    ∀ event, Decidable (agent.IsUnauthenticated platform event)
  | .stunPacket .. => inferInstanceAs (Decidable (_ ∧ ¬ _))
  | .initHostCandidate .. | .initSrflxCandidate _ | .initRelayCandidate | .turnStateFailed _
  | .startAgent .. | .addRemoteCandidate _ | .gatherTimer .. | .stateTimer _ | .keepAliveTimer _
  | .sendPacket _ | .prune | .restartAgent _ => .isFalse id

/-- The agent after an event, if it does not receive unauthenticated requests. -/
def stepAuthenticated (platform : Platform) (agent : IceAgent) (event : IceEvent) : IceAgent :=
  if agent.IsUnauthenticated platform event then agent else agent.step platform event

/-- A request without a valid message integrity does nothing. -/
def IgnoresUnauthenticated (platform : Platform) (agent : IceAgent) (event : IceEvent) : Prop :=
  agent.IsUnauthenticated platform event →
    match event with
    | .stunPacket buffer socketConnection srcAddr sent _ _ =>
      agent.Harmless platform.hmac platform.crc32 buffer socketConnection srcAddr sent ∧
        agent.SocketKept socketConnection sent
    | _ => True

theorem step_eq_stepAuthenticated {platform : Platform} {agent : IceAgent} {event : IceEvent}
    (h : agent.IgnoresUnauthenticated platform event) :
    agent.step platform event = agent.stepAuthenticated platform event := by
  unfold stepAuthenticated
  split_ifs with hunauthenticated
  · cases event with
    | stunPacket buffer socketConnection srcAddr sent agentHasId pairHasId =>
      obtain ⟨hharmless, hsocket⟩ := h hunauthenticated
      have hrequest : beNat (bytesAt buffer 0 2) = typeBindingRequest := hunauthenticated.1
      unfold step handleStunPacket
      dsimp only
      rw [if_pos hrequest]
      exact handleBindingRequest_eq_self platform.hmac platform.crc32 hharmless hsocket
    | _ => exact absurd hunauthenticated id
  · rfl

theorem run_eq_foldl_stepAuthenticated {platform : Platform} {agent : IceAgent}
    {events : List IceEvent}
    (h : AllSteps (step platform) (IgnoresUnauthenticated platform) agent events) :
    agent.run platform events = events.foldl (stepAuthenticated platform) agent := by
  unfold run
  induction events generalizing agent with
  | nil => rfl
  | cons event events ih =>
    rw [List.foldl_cons, List.foldl_cons, ← step_eq_stepAuthenticated h.1]
    exact ih h.2

end IceAgent

def agentWithRemote : IceAgent :=
  (createIceAgent [0x70] 0).run samplePlatform
    [.initHostCandidate ⟨familyIpv4, [0, 0], [192, 0, 2, 7]⟩ [0, 9] false,
      .addRemoteCandidate (sampleCandidate 5000)]

end KvsWebrtc.Ice
