import KvsWebrtc.Turn.Equiv.Peers
import KvsWebrtc.Turn.Nonce

/-!
# The nonce of a connection and those of its packets

The model with nonces goes through the same connections as the one without (`connection_traceOf`),
and has the same packets (`Coherent.step`).

A response records its nonce first.  The packets get it too, all of them or none, exactly if there
are none with a nonce, or the nonce is the old one, or it has the length of the old one and the
response has a realm where one is needed (`allOrNothing_iff`).  As long as this is so, every packet
has the recorded nonce.
-/

namespace KvsWebrtc.Turn

open Stun

variable {hmac : List UInt8 → List UInt8 → Digest} {crc32 : List UInt8 → UInt32}

/-! ### The connection of the model without nonces -/

namespace PreparedConnection

theorem connection_handleErrorCode (c : PreparedConnection) (packet : StunPacket) (code : Nat)
    (transactionId : List UInt8) :
    (c.handleErrorCode packet code transactionId).2.connection =
      c.connection.handleErrorCode packet code transactionId := by
  rw [handleErrorCode]
  split_ifs
  · split
    · rfl
    · split <;> rfl
  · split <;> rfl
  · rfl

theorem connection_turnConnectionHandleStunError (c : PreparedConnection) (buffer : List UInt8) :
    (c.turnConnectionHandleStunError hmac crc32 buffer).2.connection =
      (c.connection.turnConnectionHandleStunError hmac crc32 buffer).2 := by
  rw [turnConnectionHandleStunError, TurnConnection.turnConnectionHandleStunError]
  split_ifs
  · rfl
  · rfl
  · rfl
  · cases c.connection.deserializeStunError hmac crc32 buffer with
    | error e => rfl
    | ok packet =>
      cases hcode : errorCodeOf packet with
      | none => simp only [hcode]
      | some code =>
        simp only [hcode]
        exact connection_handleErrorCode c packet code _

theorem connection_message (c : PreparedConnection) (message : TurnMessage) :
    (c.step hmac crc32 (.message message)).connection =
      c.connection.receive hmac crc32 message := by
  cases message with
  | stunError buffer => exact connection_turnConnectionHandleStunError c buffer
  | _ => rfl

theorem connection_window (c : PreparedConnection) (messages : List TurnMessage) :
    ((messages.map TurnStep.message).foldl (step hmac crc32) c).connection =
      messages.foldl (TurnConnection.receive hmac crc32) c.connection := by
  induction messages generalizing c with
  | nil => rfl
  | cons message messages ih =>
    rw [List.map_cons, List.foldl_cons, List.foldl_cons, ih, connection_message]

theorem connection_stepsOf (c : PreparedConnection) (event : TurnEvent) :
    ((stepsOf c.connection event).foldl (step hmac crc32) c).connection =
      c.connection.step hmac crc32 event := by
  cases event with
  | message message => exact connection_message c message
  | timer input =>
    have hfirst : ([TurnStep.stepStateMachine input.first, .stopIf input.stopped].foldl
        (step hmac crc32)
        c).connection = (c.connection.firstStep input).2 := rfl
    simp only [stepsOf, List.foldl_append]
    generalize [TurnStep.stepStateMachine input.first, .stopIf input.stopped].foldl
      (step hmac crc32) c = c'
      at hfirst ⊢
    simp only [TurnConnection.step, TurnConnection.stepTurnConnectionStateMachine,
      TurnConnection.forced]
    rcases hstep : c.connection.firstStep input with ⟨status, stepped⟩
    rw [hstep] at hfirst
    obtain rfl : c'.connection = stepped := hfirst
    dsimp only
    split_ifs
    · rfl
    · -- the window lies between the failure and the second step
      rw [List.cons_append, List.foldl_cons, List.foldl_append]
      show ((((input.window.map TurnStep.message).foldl (step hmac crc32)
        (c'.step hmac crc32 (.message (.fatalError status)))).connection).stepStateMachine
        input.second).2 = _
      rw [connection_window, connection_message]
      rfl
    · rfl

/-- **The connections of a run** are those of the model without nonces. -/
theorem connection_traceOf (c : PreparedConnection) (events : List TurnEvent) :
    ((traceOf hmac crc32 c.connection events).foldl (step hmac crc32) c).connection =
      c.connection.run hmac crc32 events := by
  induction events generalizing c with
  | nil => rfl
  | cons event events ih =>
    rw [traceOf, List.foldl_append, ← connection_stepsOf, ih, connection_stepsOf]
    rfl

end PreparedConnection

/-! ### What a response does -/

namespace TurnConnection

def errorResponse (hmac : List UInt8 → List UInt8 → Digest) (crc32 : List UInt8 → UInt32)
    (connection : TurnConnection) (buffer : List UInt8) : Option (StunPacket × Nat) :=
  if buffer = [] ∨ stunPacketIsTypeError buffer = false ∨ connection.deallocatePacketSent then none
  else
    match connection.deserializeStunError hmac crc32 buffer with
    | .error _ => none
    | .ok packet => (errorCodeOf packet).map (packet, ·)

/-- The nonce that an UNAUTHORIZED or STALE_NONCE response brings, if it is not too long. -/
def newNonce (hmac : List UInt8 → List UInt8 → Digest) (crc32 : List UInt8 → UInt32)
    (connection : TurnConnection) (buffer : List UInt8) : Option (List UInt8) :=
  (connection.errorResponse hmac crc32 buffer).bind fun response =>
    if response.2 = stunErrorUnauthorized ∨ response.2 = stunErrorStaleNonce then
      boundedBytesOf response.1 typeNonce stunMaxNonceLen
    else none

/-- There is a realm, not too long, if the response is an UNAUTHORIZED one. -/
def hasRealm (hmac : List UInt8 → List UInt8 → Digest) (crc32 : List UInt8 → UInt32)
    (connection : TurnConnection) (buffer : List UInt8) : Bool :=
  (connection.errorResponse hmac crc32 buffer).all fun response =>
    response.2 ≠ stunErrorUnauthorized ||
    (boundedBytesOf response.1 typeRealm stunMaxRealmLen).isSome

end TurnConnection

namespace PreparedPackets

theorem mem_nonces_iff {packets : PreparedPackets} {n : List UInt8} :
    n ∈ packets.nonces ↔ packets.turnPacket = some (some n) ∨
      packets.turnAllocationRefreshPacket = some (some n) ∨ packets.turnChannelBindPacket = some
      (some n) ∨
        packets.turnCreatePermissionPacket = some (some n) := by
  simp [nonces, Option.join_eq_some_iff, eq_comm]

end PreparedPackets

theorem updateStunNonceAttribute_of_length {packet : Option PreparedPacket} {nonce : List UInt8}
    (h : ∀ n, packet = some (some n) → n.length = nonce.length) :
    updateStunNonceAttribute packet nonce = .ok (packet.map (Option.map fun _ => nonce)) := by
  match packet with
  | none => rfl
  | some none => rfl
  | some (some n) =>
    rw [updateStunNonceAttribute, if_pos (h n rfl)]
    rfl

/-- It refuses a nonce of another length, and one that it has not got is not changed. -/
theorem updateStunNonceAttribute_of_ne {packet : Option PreparedPacket} {nonce : List UInt8}
    (h : ∀ n, packet = some (some n) → n.length ≠ nonce.length) :
    updateStunNonceAttribute packet nonce = .ok packet ∨
      updateStunNonceAttribute packet nonce = .error .invalidArg := by
  match packet with
  | none => exact .inl rfl
  | some none => exact .inl rfl
  | some (some n) => exact .inr (if_neg (h n rfl))

namespace PreparedPackets

variable {packets : PreparedPackets} {nonce : List UInt8}

/-- **All packets take a nonce** of the length of theirs. -/
theorem turnConnectionUpdateNonce_of_length (h : ∀ n ∈ packets.nonces, n.length = nonce.length) :
    ∀ n ∈ (packets.turnConnectionUpdateNonce nonce).2.nonces, n = nonce := by
  simp only [mem_nonces_iff] at h ⊢
  rw [turnConnectionUpdateNonce,
    updateStunNonceAttribute_of_length fun n hn => h n (.inl hn)]
  dsimp only
  rw [updateStunNonceAttribute_of_length fun n hn => h n (.inr (.inl hn))]
  dsimp only
  rw [updateStunNonceAttribute_of_length fun n hn => h n (.inr (.inr (.inl hn)))]
  dsimp only
  rw [updateStunNonceAttribute_of_length fun n hn => h n (.inr (.inr (.inr hn)))]
  have hmap : ∀ (packet : Option PreparedPacket) (n : List UInt8),
      packet.map (Option.map fun _ => nonce) = some (some n) → n = nonce := by
    intro packet n hn
    match packet with
    | none => exact absurd hn (by simp)
    | some none => exact absurd hn (by simp)
    | some (some _) => exact (Option.some.inj (Option.some.inj hn)).symm
  rintro n (hn | hn | hn | hn) <;> exact hmap _ n hn

/-- **No packet takes a nonce** of another length. -/
theorem turnConnectionUpdateNonce_of_ne (h : ∀ n ∈ packets.nonces, n.length ≠ nonce.length) :
    (packets.turnConnectionUpdateNonce nonce).2 = packets := by
  simp only [mem_nonces_iff] at h
  rw [turnConnectionUpdateNonce]
  -- up to the first packet with a nonce nothing changes, and that one refuses
  rcases updateStunNonceAttribute_of_ne fun n hn => h n (.inl hn) with hp | hp
  · rw [hp]
    dsimp only
    rcases updateStunNonceAttribute_of_ne fun n hn => h n (.inr (.inl hn)) with hp | hp
    · rw [hp]
      dsimp only
      rcases updateStunNonceAttribute_of_ne fun n hn => h n (.inr (.inr (.inl hn))) with hp | hp
      · rw [hp]
        dsimp only
        rcases updateStunNonceAttribute_of_ne fun n hn => h n (.inr (.inr (.inr hn))) with hp | hp
        · rw [hp]
        · rw [hp]
      · rw [hp]
    · rw [hp]
  · rw [hp]

end PreparedPackets

namespace PreparedConnection

variable {c : PreparedConnection} {buffer : List UInt8}

theorem turnConnectionHandleStunError_response {packet : StunPacket} {code : Nat}
    (h : c.connection.errorResponse hmac crc32 buffer = some (packet, code)) :
    (c.turnConnectionHandleStunError hmac crc32 buffer).2 =
      (c.handleErrorCode packet code (transactionIdOf buffer)).2 := by
  rw [TurnConnection.errorResponse] at h
  split_ifs at h with hignored
  rw [not_or, not_or] at hignored
  rw [turnConnectionHandleStunError, if_neg hignored.1, if_neg hignored.2.1, if_neg hignored.2.2]
  cases hpacket : c.connection.deserializeStunError hmac crc32 buffer with
  | error e => simp [hpacket] at h
  | ok taken =>
    simp only [hpacket, Option.map_eq_some_iff, Prod.mk.injEq] at h
    obtain ⟨_, hcode, rfl, rfl⟩ := h
    simp only [hcode]

theorem turnConnectionHandleStunError_ignored
    (h : c.connection.errorResponse hmac crc32 buffer = none) :
    (c.turnConnectionHandleStunError hmac crc32 buffer).2.connection.turnNonce =
      c.connection.turnNonce ∧
      (c.turnConnectionHandleStunError hmac crc32 buffer).2.packets = c.packets := by
  rw [turnConnectionHandleStunError]
  split_ifs with hempty htype hsent
  · exact ⟨rfl, rfl⟩
  · exact ⟨rfl, rfl⟩
  · exact ⟨rfl, rfl⟩
  · rw [TurnConnection.errorResponse, if_neg (by simp [hempty, htype, hsent])] at h
    cases hpacket : c.connection.deserializeStunError hmac crc32 buffer with
    | error e => exact ⟨rfl, rfl⟩
    | ok taken =>
      simp only [hpacket, Option.map_eq_none_iff] at h
      simp only [h, and_self]

/-- **The new nonce** is recorded, and brought to the packets unless a realm is missing. -/
theorem turnConnectionHandleStunError_some {nonce : List UInt8}
    (h : c.connection.newNonce hmac crc32 buffer = some nonce) :
    (c.turnConnectionHandleStunError hmac crc32 buffer).2.connection.turnNonce = nonce ∧
      (c.turnConnectionHandleStunError hmac crc32 buffer).2.packets =
        if c.connection.hasRealm hmac crc32 buffer then
        (c.packets.turnConnectionUpdateNonce nonce).2
        else c.packets := by
  rw [TurnConnection.newNonce, Option.bind_eq_some_iff] at h
  obtain ⟨⟨packet, code⟩, hresponse, h⟩ := h
  split_ifs at h with hcode
  dsimp only at h hcode
  rw [turnConnectionHandleStunError_response hresponse, TurnConnection.hasRealm, hresponse,
    Option.all_some, connection_handleErrorCode, TurnConnection.handleErrorCode, handleErrorCode]
  by_cases hunauthorized : code = stunErrorUnauthorized
  · simp only [if_pos hunauthorized, h]
    cases hrealm : boundedBytesOf packet typeRealm stunMaxRealmLen with
    | none =>
      -- recorded all the same
      simp [hunauthorized]
    | some realm => simp
  · have hstale := hcode.resolve_left hunauthorized
    simp only [if_neg hunauthorized, if_pos hstale, h]
    simp [hunauthorized]

/-- Without a new nonce all nonces are as before. -/
theorem turnConnectionHandleStunError_none (h : c.connection.newNonce hmac crc32 buffer = none) :
    (c.turnConnectionHandleStunError hmac crc32 buffer).2.connection.turnNonce =
      c.connection.turnNonce ∧
      (c.turnConnectionHandleStunError hmac crc32 buffer).2.packets = c.packets := by
  cases hresponse : c.connection.errorResponse hmac crc32 buffer with
  | none => exact turnConnectionHandleStunError_ignored hresponse
  | some response =>
    rw [TurnConnection.newNonce, hresponse, Option.bind_some] at h
    rw [turnConnectionHandleStunError_response hresponse, connection_handleErrorCode,
      TurnConnection.handleErrorCode, handleErrorCode]
    by_cases hunauthorized : response.2 = stunErrorUnauthorized
    · rw [if_pos (.inl hunauthorized)] at h
      simp only [if_pos hunauthorized, h, and_self]
    · by_cases hstale : response.2 = stunErrorStaleNonce
      · rw [if_pos (.inr hstale)] at h
        simp only [if_neg hunauthorized, if_pos hstale, h, and_self]
      · rw [if_neg hunauthorized, if_neg hunauthorized, if_neg hstale, if_neg hstale]
        exact ⟨rfl, rfl⟩

/-! ### All or nothing -/

def NoncesRecorded (c : PreparedConnection) : Prop := ∀ n ∈ c.packets.nonces,
    n = c.connection.turnNonce

/-- **Nonce update is all or nothing**: after an error response the recorded nonce and those of the
packets are the new one, or all are as before. -/
def AllOrNothing (hmac : List UInt8 → List UInt8 → Digest) (crc32 : List UInt8 → UInt32)
    (c : PreparedConnection) : TurnStep → Prop
  | .message (.stunError buffer) =>
    let c' := (c.turnConnectionHandleStunError hmac crc32 buffer).2
    (∃ nonce ∈ c.connection.newNonce hmac crc32 buffer, c'.connection.turnNonce = nonce ∧
      ∀ n ∈ c'.packets.nonces, n = nonce) ∨
    (c'.connection.turnNonce = c.connection.turnNonce ∧ c'.packets = c.packets)
  | _ => True

/-- A response has a nonce that all packets take, and gets as far as to bring it to them. -/
def Updates (hmac : List UInt8 → List UInt8 → Digest) (crc32 : List UInt8 → UInt32)
    (c : PreparedConnection) : TurnStep → Prop
  | .message (.stunError buffer) =>
    ∀ nonce ∈ c.connection.newNonce hmac crc32 buffer,
      c.packets.nonces = [] ∨ nonce = c.connection.turnNonce ∨
        nonce.length = c.connection.turnNonce.length ∧ c.connection.hasRealm hmac crc32 buffer
  | _ => True

theorem allOrNothing_iff (h : c.NoncesRecorded) (step : TurnStep) :
    c.AllOrNothing hmac crc32 step ↔ c.Updates hmac crc32 step := by
  match step with
  | .message (.addPeer _ _) | .message (.stun _ _) | .message .shutdown | .message (.fatalError _)
  | .stepStateMachine _ | .stopIf _ | .stop _ => exact Iff.rfl
  | .message (.stunError buffer) =>
    rw [AllOrNothing, Updates]
    cases hnew : c.connection.newNonce hmac crc32 buffer with
    | none => simp [turnConnectionHandleStunError_none hnew]
    | some nonce =>
      obtain ⟨hrecorded, hpackets⟩ := turnConnectionHandleStunError_some hnew
      simp only [Option.mem_def, Option.some.injEq, forall_eq', exists_eq_left', hrecorded,
        hpackets, true_and]
      constructor
      · rintro (hall | ⟨hsame, -⟩)
        · by_cases hnone : c.packets.nonces = []
          · exact .inl hnone
          obtain ⟨n, hn⟩ := List.exists_mem_of_ne_nil _ hnone
          by_cases hrealm : c.connection.hasRealm hmac crc32 buffer
          · by_cases hlength : nonce.length = c.connection.turnNonce.length
            · exact .inr (.inr ⟨hlength, hrealm⟩)
            · -- the packets refuse the nonce, and so have their own
              rw [if_pos hrealm, PreparedPackets.turnConnectionUpdateNonce_of_ne
                fun n hn => h n hn ▸ Ne.symm hlength] at hall
              exact .inr (.inl ((hall n hn).symm.trans (h n hn)))
          · rw [if_neg hrealm] at hall
            exact .inr (.inl ((hall n hn).symm.trans (h n hn)))
        · exact .inr (.inl hsame)
      · intro hupdates
        left
        have htaken : (∀ n ∈ c.packets.nonces, n.length = nonce.length) →
            ∀ n ∈ (c.packets.turnConnectionUpdateNonce nonce).2.nonces, n = nonce :=
          PreparedPackets.turnConnectionUpdateNonce_of_length
        rcases hupdates with hnone | rfl | ⟨hlength, hrealm⟩
        · split_ifs
          · exact htaken (by simp [hnone])
          · simp [hnone]
        · -- the nonce is the one that all packets have
          split_ifs
          · exact htaken fun n hn => congrArg _ (h n hn)
          · exact h
        · rw [if_pos hrealm]
          exact htaken fun n hn => (congrArg _ (h n hn)).trans hlength.symm

end PreparedConnection

/-! ### Steps -/

namespace TurnConnection

def nonceAndPackets (connection : TurnConnection) : List UInt8 × Bool × Bool × Bool × Bool :=
  (connection.turnNonce, connection.turnPacket, connection.turnAllocationRefreshPacket,
    connection.turnChannelBindPacket, connection.turnCreatePermissionPacket)

theorem nonceAndPackets_checkTurnPeerConnections (connection : TurnConnection) (input : StepInput) :
    (connection.checkTurnPeerConnections input).2.nonceAndPackets = connection.nonceAndPackets :=
  checkTurnPeerConnections_induction (P := fun c => c.nonceAndPackets = connection.nonceAndPackets)
    connection input (fun _ _ _ _ h _ => h) (fun _ _ h => h) rfl

theorem nonceAndPackets_receive (connection : TurnConnection) {message : TurnMessage}
    (h : ∀ buffer, message ≠ .stunError buffer) :
    (connection.receive hmac crc32 message).nonceAndPackets = connection.nonceAndPackets := by
  cases message with
  | addPeer peerAddress allocated =>
    show (connection.turnConnectionAddPeer peerAddress allocated).2.nonceAndPackets = _
    unfold turnConnectionAddPeer
    split_ifs <;> rfl
  | stun currentTime buffer =>
    show (connection.turnConnectionHandleStun hmac crc32 currentTime buffer).2.nonceAndPackets = _
    unfold turnConnectionHandleStun
    split_ifs
    · rfl
    · rfl
    · unfold handleAllocateSuccess
      split_ifs
      · rfl
      · split
        · rfl
        · split <;> rfl
    · unfold handleRefreshSuccess
      split
      · rfl
      · split <;> rfl
    · rfl
    · rfl
    · rfl
  | stunError buffer => exact absurd rfl (h buffer)
  | shutdown => rfl
  | fatalError errorStatus => rfl

end TurnConnection

/-- A connection knows whether a packet is there, and its nonce, if it has one, is as `P` says. -/
def HasPacket (P : List UInt8 → Prop) (isThere : Bool) (packet : Option PreparedPacket) : Prop :=
  isThere = packet.isSome ∧ ∀ n, packet = some (some n) → P n

theorem hasPacket_none (P : List UInt8 → Prop) : HasPacket P false none :=
  ⟨rfl, fun _ h => nomatch h⟩

theorem hasPacket_without_nonce (P : List UInt8 → Prop) : HasPacket P true (some none) :=
  ⟨rfl, fun _ h => nomatch h⟩

theorem hasPacket_of_nonce {P : List UInt8 → Prop} {nonce : List UInt8} (h : P nonce) :
    HasPacket P true (some (some nonce)) := by
  refine ⟨rfl, fun n hn => ?_⟩
  obtain rfl := Option.some.inj (Option.some.inj hn)
  exact h

theorem hasPacket_prepare {P : List UInt8 → Prop} {nonce : List UInt8} (h : P nonce)
    (packaged : Packaged) :
    HasPacket P packaged.created (PreparedPackets.prepare packaged nonce) := by
  match packaged with
  | .ok => exact hasPacket_of_nonce h
  | .failed _ false => exact hasPacket_none P
  | .failed _ true => exact hasPacket_without_nonce P

/-- The packets of a connection are there, and all the nonces are as `P` says. -/
structure HasPackets (P : List UInt8 → Prop) (connection : TurnConnection)
    (packets : PreparedPackets) :
    Prop where
  turnNonce : P connection.turnNonce
  turnPacket : HasPacket P connection.turnPacket packets.turnPacket
  turnAllocationRefreshPacket :
    HasPacket P connection.turnAllocationRefreshPacket packets.turnAllocationRefreshPacket
  turnChannelBindPacket : HasPacket P connection.turnChannelBindPacket packets.turnChannelBindPacket
  turnCreatePermissionPacket :
    HasPacket P connection.turnCreatePermissionPacket packets.turnCreatePermissionPacket

namespace HasPackets

variable {P : List UInt8 → Prop} {packets : PreparedPackets} {connection c : TurnConnection}

theorem congr (h : HasPackets P connection packets)
    (hc : c.nonceAndPackets = connection.nonceAndPackets) :
    HasPackets P c packets := by
  simp only [TurnConnection.nonceAndPackets, Prod.mk.injEq] at hc
  obtain ⟨hnonce, hpacket, hrefresh, hbind, hpermission⟩ := hc
  exact ⟨hnonce ▸ h.turnNonce, hpacket ▸ h.turnPacket, hrefresh ▸ h.turnAllocationRefreshPacket,
    hbind ▸ h.turnChannelBindPacket, hpermission ▸ h.turnCreatePermissionPacket⟩

theorem fromState (h : HasPackets P connection packets) (input : StepInput) :
    HasPackets P (connection.fromState input).2 (packets.fromState connection input) := by
  rw [PreparedPackets.fromState]
  split_ifs with hclean
  · obtain ⟨hcurrent, hfailed, hcomplete⟩ := hclean
    have hresult : (connection.fromState input).2 = connection.completeShutdown := by
      rw [TurnConnection.fromState, hcurrent]
      show (connection.fromCleanUp input).2 = _
      rw [TurnConnection.fromCleanUp, if_neg hfailed, if_pos hcomplete]
    rw [hresult]
    exact ⟨h.turnNonce, hasPacket_none P, hasPacket_none P, hasPacket_none P, hasPacket_none P⟩
  · exact TurnConnection.fromState_induction (P := (HasPackets P · packets)) connection input
      (fun _ _ hc => hc.congr rfl) (fun _ _ hc => hc.congr rfl) (fun _ hc => hc.congr rfl)
      (fun hcurrent hfailed hcomplete => absurd ⟨hcurrent, hfailed, hcomplete⟩ hclean) h

theorem preparePackets (h : HasPackets P connection packets) (input : StepInput) :
    HasPackets P (connection.preparePackets input).2
      (packets.preparePackets input connection.turnNonce) := by
  have hpermission : HasPackets P
      { connection with turnCreatePermissionPacket := input.createPermissionPacket.created }
      { packets with
        turnCreatePermissionPacket :=
          PreparedPackets.prepare input.createPermissionPacket connection.turnNonce } :=
    { h with turnCreatePermissionPacket := hasPacket_prepare h.turnNonce _ }
  rw [TurnConnection.preparePackets, PreparedPackets.preparePackets]
  simp only [chkStatus]
  split_ifs
  · exact hpermission
  · exact { hpermission with turnChannelBindPacket := hasPacket_prepare h.turnNonce _ }
  all_goals
    exact { hpermission with
      turnChannelBindPacket := hasPacket_prepare h.turnNonce _
      turnAllocationRefreshPacket := hasPacket_prepare h.turnNonce _ }

theorem execute (h : HasPackets P connection packets) (input : StepInput) (next : TurnState) :
    HasPackets P (connection.execute input next).2 (packets.execute connection input next) := by
  have hchecked : ∀ {c : TurnConnection} {packets : PreparedPackets}, HasPackets P c packets →
      HasPackets P (c.checkTurnPeerConnections input).2 packets :=
    fun {c} _ hc => hc.congr (TurnConnection.nonceAndPackets_checkTurnPeerConnections c input)
  cases next with
  | new => exact h.congr rfl
  | checkSocketConnection =>
    show HasPackets P (connection.executeCheckSocketConnection input).2 _
    rw [TurnConnection.executeCheckSocketConnection, PreparedPackets.execute]
    by_cases hstate : connection.state = .checkSocketConnection
    · simp only [hstate, ne_eq, not_true_eq_false, false_and, if_false]
      exact h
    · simp only [hstate, ne_eq, not_false_eq_true, true_and, if_true, chkStatus]
      cases input.allocationRequest.failed with
      | true => exact h.congr rfl
      | false =>
        -- the first request has no nonce
        exact { h with turnPacket := hasPacket_without_nonce P }
  | getCredentials =>
    show HasPackets P (connection.executeGetCredentials input).2 packets
    rw [TurnConnection.executeGetCredentials]
    split_ifs
    · apply TurnConnection.chkStatus_cases (P := fun result => HasPackets P result.2 packets)
      · exact fun _ => h
      · exact h.congr rfl
    · exact h
    · exact h
  | allocation =>
    show HasPackets P (connection.executeAllocation input).2 _
    rw [TurnConnection.executeAllocation, PreparedPackets.execute]
    -- the first request has been freed when the second one is prepared
    have hfreed : HasPackets P { connection with turnPacket := false } { packets with
      turnPacket := none } :=
      { h with turnPacket := hasPacket_none P }
    by_cases hstate : connection.state = .allocation
    · rw [if_neg (not_not.mpr hstate), if_neg (not_not.mpr hstate)]
      split_ifs <;> exact h
    · rw [if_pos hstate, if_pos hstate]
      cases input.longTermKey with
      | none => exact hfreed
      | some longTermKey =>
        simp only [chkStatus, Option.isNone_some, Bool.false_eq_true, false_or]
        split_ifs
        · exact hfreed.congr rfl
        · exact { h with turnPacket := hasPacket_of_nonce h.turnNonce }
  | createPermission =>
    show HasPackets P (connection.executeCreatePermission input).2 _
    rw [TurnConnection.executeCreatePermission, PreparedPackets.execute]
    have hrequested : ∀ (result : Status × TurnConnection) (packets : PreparedPackets),
        HasPackets P result.2 packets → HasPackets P
          (chkStatus result fun connection =>
            chkStatus (connection.checkTurnPeerConnections input) fun connection =>
              (.success,
                if connection.turnPeerList.length = 0 then
                  { connection with
                    stateTimeoutTime := input.executeTime + defaultTurnCreatePermissionTimeout }
                else connection)).2 packets := by
      intro result packets hresult
      apply TurnConnection.chkStatus_cases (P := fun result => HasPackets P result.2 packets)
      · exact fun _ => hresult
      · apply TurnConnection.chkStatus_cases (P := fun result => HasPackets P result.2 packets)
        · exact fun _ => hchecked hresult
        · split_ifs
          · exact (hchecked hresult).congr rfl
          · exact hchecked hresult
    apply hrequested
    split_ifs
    · exact h.preparePackets input
    · exact h
  | bindChannel =>
    have hentered : HasPackets P { connection with state := .bindChannel } packets := h.congr rfl
    exact hchecked hentered
  | ready =>
    have hentered : HasPackets P { connection with state := .ready } packets := h.congr rfl
    exact hchecked hentered
  | cleanUp =>
    show HasPackets P (connection.executeCleanUp input).2 packets
    rw [TurnConnection.executeCleanUp]
    split_ifs
    · apply TurnConnection.chkStatus_cases (P := fun result => HasPackets P result.2 packets)
      · exact fun _ => h.congr rfl
      · exact h.congr rfl
    · exact h.congr rfl
  | failed => exact h.congr rfl

theorem stepStateMachine (h : HasPackets P connection packets) (input : StepInput) :
    HasPackets P (connection.stepStateMachine input).2
    (packets.stepStateMachine connection input) := by
  have hfrom := h.fromState input
  rw [TurnConnection.stepStateMachine, PreparedPackets.stepStateMachine]
  cases hresult : connection.fromState input with
  | mk next stepped =>
    rw [hresult] at hfrom
    cases next with
    | error e => exact hfrom
    | ok next =>
      dsimp only
      split_ifs
      · have hentered : HasPackets P { stepped with currentState := next } _ := hfrom.congr rfl
        exact hentered.execute input next
      · exact hfrom

/-- **A step** prepares packets with the recorded nonce, if it is not an error response. -/
theorem step {c : PreparedConnection} (h : HasPackets P c.connection c.packets) {step : TurnStep}
    (hstep : ∀ buffer, step ≠ .message (.stunError buffer)) :
    HasPackets P (c.step hmac crc32 step).connection (c.step hmac crc32 step).packets := by
  match step with
  | .stepStateMachine input => exact h.stepStateMachine input
  | .stopIf stopped => exact h.congr rfl
  | .stop currentTime => exact h.congr rfl
  | .message message =>
    have hmessage : ∀ buffer, message ≠ .stunError buffer := by
      rintro buffer rfl
      exact hstep buffer rfl
    have hpackets : (c.step hmac crc32 (.message message)).packets = c.packets := by
      cases message with
      | stunError buffer => exact absurd rfl (hmessage buffer)
      | _ => rfl
    rw [PreparedConnection.connection_message, hpackets]
    exact h.congr (TurnConnection.nonceAndPackets_receive c.connection hmessage)

end HasPackets

/-! ### Packets after an error response -/

theorem hasPacket_updateStunNonceAttribute {isThere : Bool} {packet packet' : Option PreparedPacket}
    {nonce : List UInt8} (h : HasPacket (fun _ => True) isThere packet)
    (hpacket : updateStunNonceAttribute packet nonce = .ok packet') :
    HasPacket (fun _ => True) isThere packet' := by
  refine ⟨h.1.trans ?_, fun _ _ => trivial⟩
  match packet with
  | none | some none => exact congrArg Option.isSome (Except.ok.inj hpacket)
  | some (some old) =>
    rw [updateStunNonceAttribute] at hpacket
    split_ifs at hpacket
    obtain rfl := Except.ok.inj hpacket
    rfl

theorem HasPackets.turnConnectionUpdateNonce {connection : TurnConnection}
    {packets : PreparedPackets} (h : HasPackets (fun _ => True) connection packets)
    (nonce : List UInt8) :
    HasPackets (fun _ => True) connection (packets.turnConnectionUpdateNonce nonce).2 := by
  rw [PreparedPackets.turnConnectionUpdateNonce]
  cases hpacket : updateStunNonceAttribute packets.turnPacket nonce with
  | error e => exact h
  | ok turnPacket =>
  have hturn := hasPacket_updateStunNonceAttribute h.turnPacket hpacket
  dsimp only
  cases hpacket : updateStunNonceAttribute packets.turnAllocationRefreshPacket nonce with
  | error e => exact { h with turnPacket := hturn }
  | ok refreshPacket =>
  have hrefresh := hasPacket_updateStunNonceAttribute h.turnAllocationRefreshPacket hpacket
  dsimp only
  cases hpacket : updateStunNonceAttribute packets.turnChannelBindPacket nonce with
  | error e => exact { h with turnPacket := hturn, turnAllocationRefreshPacket := hrefresh }
  | ok bindPacket =>
  have hbind := hasPacket_updateStunNonceAttribute h.turnChannelBindPacket hpacket
  dsimp only
  cases hpacket : updateStunNonceAttribute packets.turnCreatePermissionPacket nonce with
  | error e => exact ⟨trivial, hturn, hrefresh, hbind, h.turnCreatePermissionPacket⟩
  | ok permissionPacket =>
    exact ⟨trivial, hturn, hrefresh, hbind,
      hasPacket_updateStunNonceAttribute h.turnCreatePermissionPacket hpacket⟩

namespace PreparedConnection

variable {c : PreparedConnection}

def Coherent (c : PreparedConnection) : Prop := HasPackets (fun _ => True) c.connection c.packets

theorem packets_turnConnectionHandleStunError (c : PreparedConnection) (buffer : List UInt8) :
    (c.turnConnectionHandleStunError hmac crc32 buffer).2.packets = c.packets ∨
      ∃ nonce, (c.turnConnectionHandleStunError hmac crc32 buffer).2.packets =
        (c.packets.turnConnectionUpdateNonce nonce).2 := by
  cases hnew : c.connection.newNonce hmac crc32 buffer with
  | none => exact .inl (turnConnectionHandleStunError_none hnew).2
  | some nonce =>
    have hpackets := (turnConnectionHandleStunError_some hnew).2
    split_ifs at hpackets
    · exact .inr ⟨nonce, hpackets⟩
    · exact .inl hpackets

/-- **The packets of the model with nonces** are those that the connection knows of. -/
theorem Coherent.step (h : c.Coherent) (step : TurnStep) : (c.step hmac crc32 step).Coherent := by
  by_cases hstep : ∀ buffer, step ≠ .message (.stunError buffer)
  · exact HasPackets.step h hstep
  · push Not at hstep
    obtain ⟨buffer, rfl⟩ := hstep
    have hreceives := TurnConnection.receives_turnConnectionHandleStunError hmac crc32 c.connection
      buffer
    have hpackets : HasPackets (fun _ => True) c.connection
        (c.turnConnectionHandleStunError hmac crc32 buffer).2.packets := by
      rcases packets_turnConnectionHandleStunError c buffer with heq | ⟨nonce, heq⟩
      · exact heq ▸ h
      · exact heq ▸ HasPackets.turnConnectionUpdateNonce h nonce
    show HasPackets _ (c.turnConnectionHandleStunError hmac crc32 buffer).2.connection _
    rw [connection_turnConnectionHandleStunError]
    exact ⟨trivial, hreceives.turnPacket ▸ hpackets.turnPacket,
      hreceives.turnAllocationRefreshPacket ▸ hpackets.turnAllocationRefreshPacket,
      hreceives.turnChannelBindPacket ▸ hpackets.turnChannelBindPacket,
      hreceives.turnCreatePermissionPacket ▸ hpackets.turnCreatePermissionPacket⟩

theorem coherent_create : create.Coherent :=
  ⟨trivial, hasPacket_none _, hasPacket_none _, hasPacket_none _, hasPacket_none _⟩

theorem hasPackets_iff {nonce : List UInt8} : HasPackets (· = nonce) c.connection c.packets ↔
    c.Coherent ∧ c.connection.turnNonce = nonce ∧ ∀ n ∈ c.packets.nonces, n = nonce := by
  simp only [PreparedPackets.mem_nonces_iff]
  constructor
  · intro h
    refine ⟨⟨trivial, ⟨h.turnPacket.1, fun _ _ => trivial⟩,
      ⟨h.turnAllocationRefreshPacket.1, fun _ _ => trivial⟩,
      ⟨h.turnChannelBindPacket.1, fun _ _ => trivial⟩,
      ⟨h.turnCreatePermissionPacket.1, fun _ _ => trivial⟩⟩, h.turnNonce, ?_⟩
    rintro n (hn | hn | hn | hn)
    · exact h.turnPacket.2 n hn
    · exact h.turnAllocationRefreshPacket.2 n hn
    · exact h.turnChannelBindPacket.2 n hn
    · exact h.turnCreatePermissionPacket.2 n hn
  · rintro ⟨hcoherent, hrecorded, hnonces⟩
    exact ⟨hrecorded, ⟨hcoherent.turnPacket.1, fun n hn => hnonces n (.inl hn)⟩,
      ⟨hcoherent.turnAllocationRefreshPacket.1, fun n hn => hnonces n (.inr (.inl hn))⟩,
      ⟨hcoherent.turnChannelBindPacket.1, fun n hn => hnonces n (.inr (.inr (.inl hn)))⟩,
      ⟨hcoherent.turnCreatePermissionPacket.1, fun n hn => hnonces n (.inr (.inr (.inr hn)))⟩⟩

/-- Every packet has the recorded nonce after a step that is all or nothing. -/
theorem NoncesRecorded.step (h : c.NoncesRecorded) (hcoherent : c.Coherent) {step : TurnStep}
    (hstep : c.AllOrNothing hmac crc32 step) : (c.step hmac crc32 step).NoncesRecorded := by
  by_cases hother : ∀ buffer, step ≠ .message (.stunError buffer)
  · obtain ⟨-, hnonce, hnonces⟩ :=
      hasPackets_iff.mp (HasPackets.step (hasPackets_iff.mpr ⟨hcoherent, rfl, h⟩) hother)
    exact fun n hn => (hnonces n hn).trans hnonce.symm
  · push Not at hother
    obtain ⟨buffer, rfl⟩ := hother
    rcases hstep with ⟨nonce, -, hnonce, hnonces⟩ | ⟨hnonce, hpackets⟩
    · exact fun n hn => (hnonces n hn).trans hnonce.symm
    · intro n hn
      change n ∈ (c.turnConnectionHandleStunError hmac crc32 buffer).2.packets.nonces at hn
      rw [hpackets] at hn
      exact (h n hn).trans hnonce.symm

/-- What a run has where every nonce update is all or nothing. -/
structure Recorded (c : PreparedConnection) : Prop where
  coherent : c.Coherent
  noncesRecorded : c.NoncesRecorded

theorem Recorded.step (h : c.Recorded) {step : TurnStep} (hstep : c.AllOrNothing hmac crc32 step) :
    (c.step hmac crc32 step).Recorded :=
  ⟨h.coherent.step step, h.noncesRecorded.step h.coherent hstep⟩

theorem recorded_create : create.Recorded := ⟨coherent_create, fun _ hn => nomatch hn⟩

end PreparedConnection

/-! ### A nonce of another length -/

instance (c : PreparedConnection) : ∀ step, Decidable (c.AllOrNothing hmac crc32 step)
  | .message (.stunError buffer) =>
    inferInstanceAs (Decidable ((∃ nonce ∈ c.connection.newNonce hmac crc32 buffer, _ ∧
      ∀ n ∈ (c.turnConnectionHandleStunError hmac crc32 buffer).2.packets.nonces, n = nonce) ∨
      (_ ∧ _)))
  | .message (.addPeer ..) => .isTrue trivial
  | .message (.stun ..) => .isTrue trivial
  | .message .shutdown => .isTrue trivial
  | .message (.fatalError _) => .isTrue trivial
  | .stepStateMachine _ => .isTrue trivial
  | .stopIf _ => .isTrue trivial
  | .stop _ => .isTrue trivial

def staleNoncePacket : List UInt8 :=
  serverPacket [0x01, 0x13] zeroTransactionId
    [0, 0x09, 0, 4, 0, 0, 4, 38, 0, 0x15, 0, 8, 1, 2, 3, 4, 5, 6, 7, 8]

open PreparedConnection

end KvsWebrtc.Turn
