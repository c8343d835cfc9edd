import KvsWebrtc.Turn.Equiv.Peers

/-!
# Shutting down a TURN connection

A step of a connection that has not been asked to shut down leaves the packets prepared that its
state sends (`Prepared.execute`), and where nothing fails and no time is over, the step succeeds
(`succeeds_execute`).

So a shutdown ends in the clean-up state and stays there (`Sound.step`), if there is a refresh
packet wherever there is an allocation, and no allocation is left when the time is over or the
socket closed: then the code frees the refresh packet and still tries to send it.
-/

namespace KvsWebrtc.Turn

open Stun

def StepInput.Sends (input : StepInput) : Prop := input.sent = .success ∧
    input.refreshSent = .success

def StepInput.Succeeds (input : StepInput) : Prop :=
  input.initSecureConnection = .success ∧ input.longTermKey.isSome ∧
  input.allocationRequest = .success ∧
    input.createPermissionPacket = .ok ∧ input.channelBindPacket = .ok ∧
    input.allocationRefreshPacket = .ok ∧ input.timerUpdated = .success

namespace TurnConnection

variable {connection c d : TurnConnection} {input : StepInput} {next : TurnState}

/-! ### Packets -/

/-- What the functions for the next state leave alone before the clean-up, and the requests for the
peers. -/
structure SamePackets (a b : TurnConnection) : Prop where
  state : b.state = a.state
  errorStatus : b.errorStatus = a.errorStatus
  shutdownComplete : b.shutdownComplete = a.shutdownComplete
  turnPacket : b.turnPacket = a.turnPacket
  turnCreatePermissionPacket : b.turnCreatePermissionPacket = a.turnCreatePermissionPacket
  turnChannelBindPacket : b.turnChannelBindPacket = a.turnChannelBindPacket
  turnAllocationRefreshPacket : b.turnAllocationRefreshPacket = a.turnAllocationRefreshPacket

theorem SamePackets.refl (connection : TurnConnection) : SamePackets connection connection :=
  ⟨rfl, rfl, rfl, rfl, rfl, rfl, rfl⟩

theorem SamePackets.trans {a b c : TurnConnection} (hab : SamePackets a b) (hbc : SamePackets b c) :
    SamePackets a c :=
  ⟨hbc.state.trans hab.state, hbc.errorStatus.trans hab.errorStatus,
    hbc.shutdownComplete.trans hab.shutdownComplete, hbc.turnPacket.trans hab.turnPacket,
    hbc.turnCreatePermissionPacket.trans hab.turnCreatePermissionPacket,
    hbc.turnChannelBindPacket.trans hab.turnChannelBindPacket,
    hbc.turnAllocationRefreshPacket.trans hab.turnAllocationRefreshPacket⟩

theorem samePackets_fromState (hopen : connection.currentState.IsOpen) (input : StepInput) :
    SamePackets connection (connection.fromState input).2 :=
  fromState_induction (P := SamePackets connection) connection input
    (fun _ _ h => h.trans ⟨rfl, rfl, rfl, rfl, rfl, rfl, rfl⟩)
    (fun _ _ h => h.trans ⟨rfl, rfl, rfl, rfl, rfl, rfl, rfl⟩)
    (fun _ h => h.trans ⟨rfl, rfl, rfl, rfl, rfl, rfl, rfl⟩)
    (fun hcurrent => absurd hcurrent hopen.1) (SamePackets.refl connection)

theorem samePackets_checkTurnPeerConnections (connection : TurnConnection) (input : StepInput) :
    SamePackets connection (connection.checkTurnPeerConnections input).2 :=
  checkTurnPeerConnections_induction (P := SamePackets connection) connection input
    (fun _ _ _ _ hc _ => hc.trans ⟨rfl, rfl, rfl, rfl, rfl, rfl, rfl⟩)
    (fun _ _ hc => hc.trans ⟨rfl, rfl, rfl, rfl, rfl, rfl, rfl⟩) (SamePackets.refl connection)

/-- The packets are there that the connection sends in its state, and no error has been recorded. -/
structure Prepared (connection : TurnConnection) : Prop where
  turnPacket : connection.state = .checkSocketConnection ∨ connection.state = .getCredentials ∨
    connection.state = .allocation → connection.turnPacket
  packets : connection.state = .createPermission ∨ connection.state = .bindChannel ∨
    connection.state = .ready → connection.turnCreatePermissionPacket ∧
      connection.turnChannelBindPacket ∧ connection.turnAllocationRefreshPacket
  errorStatus : connection.errorStatus = .success

theorem Prepared.congr (h : connection.Prepared) (hsame : SamePackets connection c) :
    c.Prepared := by
  constructor
  · rw [hsame.state, hsame.turnPacket]
    exact h.turnPacket
  · rw [hsame.state, hsame.turnCreatePermissionPacket, hsame.turnChannelBindPacket,
      hsame.turnAllocationRefreshPacket]
    exact h.packets
  · rw [hsame.errorStatus]
    exact h.errorStatus

/-- A state in which the peers are asked for is entered from one in which they are, or prepares the
packets. -/
theorem Prepared.of_packets (h : connection.errorStatus = .success)
    (hstate : connection.state = .createPermission ∨ connection.state = .bindChannel ∨
      connection.state = .ready)
    (hpackets : connection.turnCreatePermissionPacket ∧ connection.turnChannelBindPacket ∧
      connection.turnAllocationRefreshPacket) : connection.Prepared := by
  refine ⟨fun hother => ?_, fun _ => hpackets, h⟩
  rcases hstate with hs | hs | hs
  all_goals
    rw [hs] at hother
    simp at hother

theorem chkStatus_eq_success {result : Status × TurnConnection}
    {f : TurnConnection → Status × TurnConnection} (h : (chkStatus result f).1 = .success) :
    result.1 = .success ∧ chkStatus result f = f result.2 := by
  unfold chkStatus at h ⊢
  split_ifs at h ⊢ with hfailed
  · exact absurd h ((Status.failed_eq_true_iff _).mp hfailed)
  · exact ⟨(Status.failed_eq_false_iff _).mp (Bool.eq_false_iff.mpr hfailed), rfl⟩

theorem chkStatus_of_success {result : Status × TurnConnection}
    {f : TurnConnection → Status × TurnConnection} (h : result.1 = .success) :
    chkStatus result f = f result.2 := by
  unfold chkStatus
  rw [h]
  rfl

theorem created_of_success {packaged : Packaged} (h : packaged.status = .success) :
    packaged.created := by
  cases packaged with
  | ok => rfl
  | failed code created => cases h

theorem preparePackets_success (h : (connection.preparePackets input).1 = .success) :
    connection.preparePackets input =
      (.success,
        { connection with
          turnCreatePermissionPacket := true
          turnChannelBindPacket := true
          turnAllocationRefreshPacket := true
          state := .createPermission }) := by
  unfold preparePackets at h ⊢
  obtain ⟨hpermission, heq⟩ := chkStatus_eq_success h
  rw [heq] at h ⊢
  obtain ⟨hbind, heq⟩ := chkStatus_eq_success h
  rw [heq] at h ⊢
  obtain ⟨hrefresh, heq⟩ := chkStatus_eq_success h
  rw [heq]
  dsimp only
  rw [created_of_success hpermission, created_of_success hbind, created_of_success hrefresh]

def Keeps (a b : TurnConnection) : Prop :=
  b.Prepared ∧ (a.turnAllocationRefreshPacket → b.turnAllocationRefreshPacket)

theorem keeps_checkTurnPeerConnections (h : c.Prepared)
    (hkeep : connection.turnAllocationRefreshPacket → c.turnAllocationRefreshPacket)
    (input : StepInput) :
    Keeps connection (c.checkTurnPeerConnections input).2 := by
  have hsame := samePackets_checkTurnPeerConnections c input
  exact ⟨h.congr hsame, fun hrefresh => hsame.turnAllocationRefreshPacket ▸ hkeep hrefresh⟩

theorem Prepared.executeCreatePermission (h : connection.Prepared)
    (hok : (connection.executeCreatePermission input).1 = .success) :
    Keeps connection (connection.executeCreatePermission input).2 := by
  unfold TurnConnection.executeCreatePermission at hok ⊢
  obtain ⟨r, hr⟩ : ∃ r, (if connection.state ≠ .createPermission then
      connection.preparePackets input
    else (.success, connection)) = r := ⟨_, rfl⟩
  rw [hr] at hok ⊢
  obtain ⟨hprepared, heq⟩ := chkStatus_eq_success hok
  rw [heq] at hok ⊢
  -- the packets are there, or are prepared
  have hpackets : Keeps connection r.2 := by
    subst hr
    split_ifs at hprepared ⊢ with hstate
    · rw [preparePackets_success hprepared]
      exact ⟨Prepared.of_packets h.errorStatus (.inl rfl) ⟨rfl, rfl, rfl⟩, fun _ => rfl⟩
    · exact ⟨h, id⟩
  obtain ⟨-, heq⟩ := chkStatus_eq_success hok
  rw [heq]
  have hchecked := keeps_checkTurnPeerConnections hpackets.1 hpackets.2 input
  dsimp only
  split_ifs
  · exact ⟨hchecked.1.congr ⟨rfl, rfl, rfl, rfl, rfl, rfl, rfl⟩, hchecked.2⟩
  · exact hchecked

/-- **Executing a state** before the clean-up: after it, the packets of the state are there. -/
theorem Prepared.execute (h : connection.Prepared) (hnext : next.IsOpen)
    (haccepts : next.accepts connection.state)
    (hok : (connection.execute input next).1 = .success) :
    Keeps connection (connection.execute input next).2 := by
  have hsend : ∀ c : TurnConnection, c.turnPacket → c.errorStatus = .success →
      c.turnAllocationRefreshPacket = connection.turnAllocationRefreshPacket →
        (c.state = .checkSocketConnection ∨ c.state = .getCredentials ∨ c.state = .allocation) →
          Keeps connection c := by
    intro c hpacket herror hrefresh hstate
    refine ⟨⟨fun _ => hpacket, fun hother => ?_, herror⟩, fun h => hrefresh.trans h⟩
    rcases hstate with hs | hs | hs
    all_goals
      rw [hs] at hother
      simp at hother
  cases next with
  | cleanUp => exact absurd rfl hnext.1
  | failed => exact absurd rfl hnext.2
  | new =>
    refine ⟨⟨fun hother => ?_, fun hother => ?_, h.errorStatus⟩, id⟩
    · rcases hother with h | h | h <;> cases h
    · rcases hother with h | h | h <;> cases h
  | checkSocketConnection =>
    change (connection.executeCheckSocketConnection input).1 = _ at hok
    show Keeps connection (connection.executeCheckSocketConnection input).2
    unfold executeCheckSocketConnection at hok ⊢
    split_ifs at hok ⊢
    · rw [(chkStatus_eq_success hok).2]
      exact hsend _ rfl h.errorStatus rfl (.inl rfl)
    · exact ⟨h, id⟩
  | getCredentials =>
    change (connection.executeGetCredentials input).1 = _ at hok
    show Keeps connection (connection.executeGetCredentials input).2
    unfold executeGetCredentials at hok ⊢
    split_ifs at hok ⊢ with hstate
    · rw [(chkStatus_eq_success hok).2]
      -- the packet comes from the state before
      have hbefore : connection.state = .checkSocketConnection := by
        simp only [TurnState.accepts, Bool.or_eq_true, beq_iff_eq] at haccepts
        exact haccepts.resolve_right hstate
      exact hsend _ (h.turnPacket (.inl hbefore)) h.errorStatus rfl (.inr (.inl rfl))
    · exact ⟨h, id⟩
  | allocation =>
    change (connection.executeAllocation input).1 = _ at hok
    show Keeps connection (connection.executeAllocation input).2
    unfold executeAllocation at hok ⊢
    split_ifs at hok ⊢
    · cases hkey : input.longTermKey with
      | none =>
        rw [hkey] at hok
        cases hok
      | some key =>
        rw [hkey] at hok
        dsimp only at hok ⊢
        rw [(chkStatus_eq_success hok).2]
        exact hsend _ rfl h.errorStatus rfl (.inr (.inr rfl))
    · exact ⟨h, id⟩
  | createPermission => exact h.executeCreatePermission hok
  | bindChannel =>
    simp only [TurnState.accepts, Bool.or_eq_true, beq_iff_eq] at haccepts
    have hpackets := h.packets (haccepts.elim (fun h => .inr (.inl h)) .inl)
    exact keeps_checkTurnPeerConnections (c := { connection with state := .bindChannel })
      (Prepared.of_packets h.errorStatus (.inr (.inl rfl)) hpackets) id input
  | ready =>
    simp only [TurnState.accepts, Bool.or_eq_true, beq_iff_eq] at haccepts
    have hpackets := h.packets (.inr haccepts.symm)
    exact keeps_checkTurnPeerConnections (c := { connection with state := .ready })
      (Prepared.of_packets h.errorStatus (.inr (.inr rfl)) hpackets) id input

/-! ### Steps that succeed -/

theorem checkPeers_success (input : StepInput) (is : List Nat)
    (hpermission : connection.turnCreatePermissionPacket)
    (hbind : connection.turnChannelBindPacket) :
    (checkPeers input is connection).1 = .success := by
  induction is generalizing connection with
  | nil => rfl
  | cons i is ih =>
    unfold checkPeers
    split
    · exact ih hpermission hbind
    · split
      · rw [if_pos hpermission]
        exact ih hpermission hbind
      · rw [if_pos hbind]
        exact ih hpermission hbind
      · exact ih hpermission hbind

theorem checkTurnPeerConnections_success (hsent : input.Sends)
    (hpackets : connection.turnCreatePermissionPacket ∧ connection.turnChannelBindPacket ∧
      connection.turnAllocationRefreshPacket) :
    (connection.checkTurnPeerConnections input).1 = .success := by
  unfold checkTurnPeerConnections
  rw [chkStatus_of_success (checkPeers_success input _ hpackets.1 hpackets.2.1)]
  have hrefresh := checkPeers_induction (P := fun c => c.turnAllocationRefreshPacket = true)
    (fun _ _ _ _ hc _ => hc) input (List.range connection.turnPeerList.length) hpackets.2.2
  unfold turnConnectionRefreshAllocation
  split_ifs
  · apply congrArg Prod.fst (chkStatus_of_success ?_)
    show iceUtilsSendStunPacket _ _ = _
    rw [hrefresh]
    exact hsent.2
  · rfl

/-- **A step that succeeds**: nothing fails that the step calls, and the time of the state is not
over. -/
theorem succeeds_execute (h : connection.Prepared) (hnext : next.IsOpen)
    (haccepts : next.accepts connection.state) (hsent : input.Sends) (hsucceeds : input.Succeeds)
    (htime : next = connection.state → next = .getCredentials ∨ next = .allocation →
      input.executeTime ≤ connection.stateTimeoutTime) :
    (connection.execute input next).1 = .success := by
  obtain ⟨hinit, hkey, hrequest, hpermission, hbind, hrefresh, -⟩ := hsucceeds
  have hsend : ∀ packet : Bool, packet = true → iceUtilsSendStunPacket packet input.sent =
      .success := by
    rintro _ rfl
    exact hsent.1
  cases next with
  | cleanUp => exact absurd rfl hnext.1
  | failed => exact absurd rfl hnext.2
  | new => rfl
  | checkSocketConnection =>
    show (connection.executeCheckSocketConnection input).1 = _
    unfold executeCheckSocketConnection
    split_ifs
    · rw [chkStatus_of_success hrequest]
    · rfl
  | getCredentials =>
    show (connection.executeGetCredentials input).1 = _
    unfold executeGetCredentials
    simp only [TurnState.accepts, Bool.or_eq_true, beq_iff_eq] at haccepts
    split_ifs with hstate hover
    · rw [chkStatus_of_success hinit]
      exact hsend _ (h.turnPacket (.inl (haccepts.resolve_right hstate)))
    · exact hsend _ (h.turnPacket (.inr (.inl (not_not.mp hstate))))
    · exact absurd (htime (not_not.mp hstate).symm (.inl rfl)) hover
  | allocation =>
    show (connection.executeAllocation input).1 = _
    unfold executeAllocation
    split_ifs with hstate hover
    · obtain ⟨key, hkey⟩ := Option.isSome_iff_exists.mp hkey
      rw [hkey]
      dsimp only
      rw [chkStatus_of_success hrequest]
      exact hsend true rfl
    · exact hsend _ (h.turnPacket (.inr (.inr (not_not.mp hstate))))
    · exact absurd (htime (not_not.mp hstate).symm (.inr rfl)) hover
  | createPermission =>
    show (connection.executeCreatePermission input).1 = _
    unfold executeCreatePermission
    obtain ⟨r, hr⟩ : ∃ r, (if connection.state ≠ .createPermission then
        connection.preparePackets input
      else (.success, connection)) = r := ⟨_, rfl⟩
    rw [hr]
    -- the packets, and then the requests
    have hprepare : r.1 = .success := by
      subst hr
      split_ifs
      · unfold preparePackets
        rw [hpermission, hbind, hrefresh]
        rfl
      · rfl
    have hpackets : r.2.turnCreatePermissionPacket ∧ r.2.turnChannelBindPacket ∧
        r.2.turnAllocationRefreshPacket := by
      subst hr
      split_ifs at hprepare ⊢ with hstate
      · rw [preparePackets_success hprepare]
        exact ⟨rfl, rfl, rfl⟩
      · exact h.packets (.inl (not_not.mp hstate))
    rw [chkStatus_of_success hprepare,
      chkStatus_of_success (checkTurnPeerConnections_success hsent hpackets)]
  | bindChannel =>
    simp only [TurnState.accepts, Bool.or_eq_true, beq_iff_eq] at haccepts
    show ({ connection with state := .bindChannel }.checkTurnPeerConnections input).1 = _
    exact checkTurnPeerConnections_success hsent
      (h.packets (haccepts.elim (fun h => .inr (.inl h)) .inl))
  | ready =>
    simp only [TurnState.accepts, Bool.or_eq_true, beq_iff_eq] at haccepts
    show ({ connection with state := .ready }.checkTurnPeerConnections input).1 = _
    exact checkTurnPeerConnections_success hsent
      (h.packets (.inr haccepts.symm))

/-! ### The step before the clean-up -/

/-- The time of the state is not over.  In the clean-up state there is no allocation any more, or
the socket is open besides. -/
def inTime (connection : TurnConnection) (input : StepInput) : Bool :=
  match connection.currentState with
  | .getCredentials => connection.credentialObtained || input.executeTime ≤
    connection.stateTimeoutTime
  | .allocation => connection.hasAllocation || input.executeTime ≤ connection.stateTimeoutTime
  | .createPermission =>
    connection.turnPeerList.isEmpty || input.currentTime ≤ connection.stateTimeoutTime ||
      connection.channelWithPermissionCount > 0
  | .bindChannel =>
    input.currentTime ≤ connection.stateTimeoutTime || connection.readyPeerCount > 0
  | .cleanUp =>
    !connection.hasAllocation ||
      !input.socketConnectionIsClosed && input.currentTime ≤ connection.stateTimeoutTime
  | _ => true

/-- The next state of a connection before the clean-up. -/
structure Proposes (connection : TurnConnection) (input : StepInput) (next : TurnState)
    (d : TurnConnection) : Prop where
  peers : next = .bindChannel → connection.currentState = .bindChannel ∨
  connection.turnPeerList ≠ []
  allocated : connection.currentState = .allocation → connection.hasAllocation →
    next = .createPermission
  time : connection.inTime input → next = connection.currentState →
    next = .getCredentials ∨ next = .allocation → input.executeTime ≤ d.stateTimeoutTime

/-- **The next state** before the clean-up: there is one, or a time is over. -/
theorem fromState_isOpen (hexecuted : connection.state = connection.currentState)
    (hopen : connection.state.IsOpen)
    (hpeers : connection.state = .bindChannel → connection.turnPeerList ≠ []) (input : StepInput) :
    (∃ next d, connection.fromState input = (.ok next, d) ∧ connection.Proposes input next d) ∨
    ∃ e d, connection.fromState input = (.error e, d) ∧ e.failed ∧
      (input.timerUpdated = .success → connection.inTime input = false) := by
  have hproposes : ∀ next d, (next = .bindChannel → connection.currentState = .bindChannel ∨
      connection.turnPeerList ≠ []) → connection.currentState ≠ .allocation →
        (next = connection.currentState → next ≠ .getCredentials ∧ next ≠ .allocation) →
          connection.Proposes input next d :=
    fun next d hbind hcurrent hnext => ⟨hbind, fun h => absurd h hcurrent,
      fun _ h h' => absurd h' (not_or.mpr (hnext h))⟩
  have htimer : ∀ (c : TurnConnection) (next : TurnState), connection.currentState = .ready →
      next ≠ .bindChannel → next ≠ .getCredentials ∧ next ≠ .allocation →
      (∃ next' d, c.updateTimerPeriod input next = (.ok next', d) ∧
      connection.Proposes input next' d) ∨
      ∃ e d, c.updateTimerPeriod input next = (.error e, d) ∧ e.failed ∧
        (input.timerUpdated = .success → connection.inTime input = false) := by
    intro c next hcurrent hbind hnext
    unfold updateTimerPeriod
    split_ifs with hfailed
    · exact .inr ⟨_, _, rfl, hfailed, fun h => absurd h ((Status.failed_eq_true_iff _).mp hfailed)⟩
    · exact .inl ⟨_, _, rfl, hproposes _ _ (fun h => absurd h hbind) (by simp [hcurrent]) fun _ =>
        hnext⟩
  unfold fromState
  cases hcurrent : connection.currentState with
  | cleanUp => exact absurd (hexecuted.trans hcurrent) hopen.1
  | failed => exact absurd (hexecuted.trans hcurrent) hopen.2
  | new => exact .inl ⟨_, _, rfl, hproposes _ _ (by simp) (by simp [hcurrent]) (by simp [hcurrent])⟩
  | checkSocketConnection =>
    dsimp only
    unfold fromCheckSocketConnection
    rw [unlessForced_of_isOpen hopen]
    split_ifs
    all_goals exact .inl ⟨_, _, rfl, hproposes _ _ (by simp) (by simp [hcurrent])
      (by simp [hcurrent])⟩
  | getCredentials =>
    dsimp only
    unfold fromGetCredentials
    rw [unlessForced_of_isOpen hopen]
    split_ifs with hobtained
    · exact .inl ⟨_, _, rfl, hproposes _ _ (by simp) (by simp [hcurrent]) (by simp [hcurrent])⟩
    · refine .inl ⟨_, _, rfl, nofun, by simp [hcurrent], fun htime _ _ => ?_⟩
      simpa [inTime, hcurrent, hobtained] using htime
  | allocation =>
    dsimp only
    unfold fromAllocation
    rw [unlessForced_of_isOpen hopen]
    split_ifs with hallocated
    · exact .inl ⟨_, _, rfl, nofun, fun _ _ => rfl, by simp [hcurrent]⟩
    · refine .inl ⟨_, _, rfl, nofun, fun _ h => absurd h hallocated, fun htime _ _ => ?_⟩
      simpa [inTime, hcurrent, hallocated] using htime
  | createPermission =>
    dsimp only
    unfold fromCreatePermission
    rw [unlessForced_of_isOpen hopen]
    split_ifs with hempty hdone hcount
    · exact .inl ⟨_, _, rfl, hproposes _ _ (by simp) (by simp [hcurrent]) (by simp)⟩
    · have hsome : connection.turnPeerList ≠ [] := fun h => hempty (congrArg List.length h)
      exact .inl ⟨_, _, rfl, hproposes _ _ (fun _ => .inr hsome) (by simp [hcurrent]) (by simp)⟩
    · refine .inr ⟨_, _, rfl, by decide, fun _ => ?_⟩
      have hzero := Nat.eq_zero_of_not_pos hcount
      rw [hzero] at hdone
      -- no peer has a permission, and the time is over
      have hover := hdone.resolve_right fun h => hempty h.symm
      have hsome : connection.turnPeerList ≠ [] := fun h => hempty (congrArg List.length h)
      simp [inTime, hcurrent, hzero, hover, hsome]
    · exact .inl ⟨_, _, rfl, hproposes _ _ (by simp) (by simp [hcurrent]) (by simp)⟩
  | bindChannel =>
    dsimp only
    unfold fromBindChannel
    rw [unlessForced_of_isOpen hopen]
    split_ifs with hdone hcount
    · exact .inl ⟨_, _, rfl, hproposes _ _ (by simp) (by simp [hcurrent]) (by simp)⟩
    · refine .inr ⟨_, _, rfl, by decide, fun _ => ?_⟩
      have hzero := Nat.eq_zero_of_not_pos hcount
      rw [hzero] at hdone
      have hover := hdone.resolve_right fun h =>
        hpeers (hexecuted.trans hcurrent) (List.length_eq_zero_iff.mp h.symm)
      simp [inTime, hcurrent, hzero, hover]
    · exact .inl ⟨_, _, rfl, hproposes _ _ (fun _ => .inl hcurrent) (by simp [hcurrent]) (by simp)⟩
  | ready =>
    dsimp only
    unfold fromReady
    rw [unlessForced_of_isOpen hopen]
    split_ifs
    · exact htimer _ _ hcurrent (by decide) (by decide)
    · exact htimer _ _ hcurrent (by decide) (by decide)
    · exact .inl ⟨_, _, rfl, hproposes _ _ (by simp) (by simp [hcurrent]) (by simp)⟩

/-- A connection that has not failed. -/
structure Sound (connection : TurnConnection) : Prop where
  executed : connection.state = connection.currentState
  not_failed : connection.state ≠ .failed
  prepared : connection.Prepared
  peers : connection.state = .bindChannel → connection.turnPeerList ≠ []
  stopped : connection.state = .cleanUp → connection.stopTurnConnection
  refresh : connection.state = .cleanUp → connection.hasAllocation →
    connection.turnAllocationRefreshPacket

theorem Sound.isOpen (h : connection.Sound) (hcleanUp : connection.state ≠ .cleanUp) :
    connection.state.IsOpen :=
  ⟨hcleanUp, h.not_failed⟩

theorem eq_of_mem_stepExecutions (hfrom : connection.fromState input = (.ok next, d))
    {e : TurnState × TurnConnection} (he : e ∈ connection.stepExecutions input) :
    e = (next, { d with currentState := next }) := by
  unfold stepExecutions at he
  rw [hfrom] at he
  dsimp only at he
  split_ifs at he
  · exact List.mem_singleton.mp he
  · exact absurd he List.not_mem_nil

/-- What a step before the clean-up does, if it succeeds. -/
structure StepsTo (connection : TurnConnection) (input : StepInput) (next : TurnState) : Prop where
  notCleanUp : connection.state ≠ .cleanUp
  isOpen : next.IsOpen
  ne_new : next ≠ .new
  executions : ∀ e ∈ connection.stepExecutions input, e.1 = next
  state : (connection.stepStateMachine input).2.state = next
  currentState : (connection.stepStateMachine input).2.currentState = next
  keeps : Keeps connection (connection.stepStateMachine input).2
  peers : next = .bindChannel → (connection.stepStateMachine input).2.turnPeerList ≠ []
  hasAllocation : (connection.stepStateMachine input).2.hasAllocation = connection.hasAllocation
  stopTurnConnection :
    (connection.stepStateMachine input).2.stopTurnConnection = connection.stopTurnConnection
  shutdownComplete :
    (connection.stepStateMachine input).2.shutdownComplete = connection.shutdownComplete
  allocated : connection.currentState = .allocation → connection.hasAllocation →
    (connection.stepStateMachine input).2.turnAllocationRefreshPacket

theorem turnPeerList_ne_nil (hmoves : Moves ok connection c) (h : connection.turnPeerList ≠ []) :
    c.turnPeerList ≠ [] := by
  refine hmoves.induction (P := fun s => s.1 ≠ []) (fun s t hs hmove => ?_) h
  rcases hmove.keys with ⟨address, -, -, ht⟩ | hkeys
  · rw [ht]
    exact List.append_ne_nil_of_left_ne_nil hs _
  · intro ht
    rw [ht] at hkeys
    exact hs (List.map_eq_nil_iff.mp hkeys.symm)

theorem currentState_execute (connection : TurnConnection) (input : StepInput) (next : TurnState) :
    (connection.execute input next).2.currentState = connection.currentState := by
  by_cases hfailed : next = .failed
  · subst hfailed
    rfl
  · exact (executes_execute connection input hfailed).same.currentState

theorem Sound.next_isOpen (h : connection.Sound) (hcleanUp : connection.state ≠ .cleanUp)
    (hfrom : connection.fromState input = (.ok next, d)) : next.IsOpen ∧ next ≠ .new := by
  have hsteps := stepsOpen_stepStateMachine h.executed (h.executed ▸ h.isOpen hcleanUp) input
  have hcurrent := hsteps.current
  rw [stepStateMachine_eq hfrom, currentState_execute] at hcurrent
  exact hcurrent

/-- **A step before the clean-up** that succeeds. -/
theorem Sound.stepsTo (h : connection.Sound) (hcleanUp : connection.state ≠ .cleanUp)
    (hok : (connection.stepStateMachine input).1 = .success) :
    ∃ next, connection.StepsTo input next := by
  have hopen := h.isOpen hcleanUp
  rcases fromState_isOpen h.executed hopen h.peers input with ⟨next, d, hfrom, hnext⟩ | ⟨e, d,
    hfrom, he, -⟩
  · have haccepts := accepts_of_fromState (congrArg Prod.fst hfrom)
    have hmachine := sameMachine_fromState connection input
    have hpackets := samePackets_fromState (h.executed ▸ hopen) input
    have hmoves : Moves (fun _ _ _ => True) connection (connection.stepStateMachine input).2 :=
      moves_stepStateMachine connection input
    rw [hfrom] at hmachine hpackets
    have hstep := stepStateMachine_eq hfrom
    have hcurrent := h.next_isOpen hcleanUp hfrom
    have hsame := (executes_execute { d with currentState := next } input hcurrent.1.2).same
    have hprepared : { d with currentState := next }.Prepared :=
      (h.prepared.congr hpackets).congr ⟨rfl, rfl, rfl, rfl, rfl, rfl, rfl⟩
    have hkeeps := hprepared.execute hcurrent.1
      (show next.accepts d.state by rwa [hmachine.state, h.executed]) (hstep ▸ hok)
    have hstate : ({ d with currentState := next }.execute input next).2.state = next :=
      (executes_execute { d with currentState := next } input hcurrent.1.2).state
        ((Status.failed_eq_false_iff _).mpr (hstep ▸ hok))
    refine ⟨next, hcleanUp, hcurrent.1, hcurrent.2, ?_, ?_, ?_, ?_, ?_, ?_, ?_, ?_, ?_⟩
    · exact fun e he => congrArg Prod.fst (eq_of_mem_stepExecutions hfrom he)
    · rw [hstep, hstate]
    · rw [hstep, currentState_execute]
    · rw [hstep]
      exact ⟨hkeeps.1, fun hrefresh =>
        hkeeps.2 (hpackets.turnAllocationRefreshPacket.trans hrefresh)⟩
    · intro hbind
      exact turnPeerList_ne_nil hmoves
        ((hnext.peers hbind).elim (fun hs => h.peers (h.executed.trans hs)) id)
    · rw [hstep, hsame.hasAllocation]
      exact hmachine.hasAllocation
    · rw [hstep, hsame.stopTurnConnection]
      exact hmachine.stopTurnConnection
    · rw [hstep, hsame.shutdownComplete]
      exact hpackets.shutdownComplete
    · intro hallocation hallocated
      rw [hstep]
      -- the packets have been prepared
      exact (hkeeps.1.packets (.inl (hstate.trans (hnext.allocated hallocation hallocated)))).2.2
  · rw [stepStateMachine_error hfrom] at hok
    exact absurd hok ((Status.failed_eq_true_iff _).mp he)

/-- A step before the clean-up in which nothing fails. -/
theorem Sound.succeeds (h : connection.Sound) (hcleanUp : connection.state ≠ .cleanUp)
    (hsent : input.Sends) (hsucceeds : input.Succeeds) (htime : connection.inTime input) :
    (connection.stepStateMachine input).1 = .success := by
  have hopen := h.isOpen hcleanUp
  rcases fromState_isOpen h.executed hopen h.peers input with ⟨next, d, hfrom, hnext⟩ | ⟨e, d, -, -,
    hno⟩
  · have hmachine := sameMachine_fromState connection input
    have hpackets := samePackets_fromState (h.executed ▸ hopen) input
    have haccepts := accepts_of_fromState (congrArg Prod.fst hfrom)
    rw [hfrom] at hmachine hpackets
    rw [stepStateMachine_eq hfrom]
    apply succeeds_execute _ (h.next_isOpen hcleanUp hfrom).1 _ hsent hsucceeds
    · intro hstate hwaits
      refine hnext.time htime ?_ hwaits
      exact hstate.trans (hmachine.state.trans h.executed)
    · exact (h.prepared.congr hpackets).congr ⟨rfl, rfl, rfl, rfl, rfl, rfl, rfl⟩
    · show next.accepts d.state
      rwa [hmachine.state, h.executed]
  · exact absurd (htime.symm.trans (hno hsucceeds.2.2.2.2.2.2)) (by decide)

/-! ### Cleaning up -/

/-- The connection after the clean-up state has been executed. -/
def cleaned (connection : TurnConnection) : TurnConnection :=
  { connection with
    state := .cleanUp
    currentState := .cleanUp
    deallocatePacketSent := connection.deallocatePacketSent || connection.hasAllocation }

/-- Cleaning up succeeds where a refresh packet is there for an allocation. -/
theorem execute_cleanUp (hsent : input.Sends)
    (hrefresh : connection.hasAllocation → connection.turnAllocationRefreshPacket) :
    { connection with currentState := .cleanUp }.execute input .cleanUp =
      (.success, connection.cleaned) := by
  show executeCleanUp { connection with currentState := .cleanUp } input = _
  unfold executeCleanUp cleaned
  split_ifs with hallocation
  · change connection.hasAllocation = true at hallocation
    rw [chkStatus_of_success]
    · simp [hallocation]
    · show iceUtilsSendStunPacket connection.turnAllocationRefreshPacket input.sent = _
      rw [hrefresh hallocation]
      exact hsent.1
  · change ¬ connection.hasAllocation = true at hallocation
    simp [hallocation]

theorem sound_cleaned (herror : connection.errorStatus = .success)
    (hstop : connection.stopTurnConnection)
    (hrefresh : connection.hasAllocation → connection.turnAllocationRefreshPacket) :
    connection.cleaned.Sound := by
  refine ⟨rfl, nofun, ⟨fun h => ?_, fun h => ?_, herror⟩, nofun,
    fun _ => hstop, fun _ => hrefresh⟩
  · rcases h with h | h | h <;> cases h
  · rcases h with h | h | h <;> cases h

/-- **In the clean-up state** the shutdown is completed once there is no allocation. -/
theorem Sound.fromCleanUp (h : connection.Sound) (hcleanUp : connection.state = .cleanUp)
    (htime : connection.inTime input) :
    connection.fromState input =
      (.ok .cleanUp, if connection.hasAllocation then connection else
        connection.completeShutdown) := by
  have hcurrent : connection.currentState = .cleanUp := h.executed.symm.trans hcleanUp
  unfold fromState
  rw [hcurrent]
  show connection.fromCleanUp input = _
  unfold TurnConnection.fromCleanUp
  rw [hcleanUp, if_neg (by decide), h.prepared.errorStatus]
  unfold inTime at htime
  rw [hcurrent] at htime
  cases hallocation : connection.hasAllocation with
  | true =>
    rw [hallocation] at htime
    simp only [Bool.not_true, Bool.false_or, Bool.and_eq_true, Bool.not_eq_true',
      decide_eq_true_eq] at htime
    rw [if_neg (by simp [htime.1, htime.2])]
    rfl
  | false =>
    rw [if_pos (.inr (.inl rfl))]
    rfl

/-! ### Events -/

variable (hmac : List UInt8 → List UInt8 → Digest) (crc32 : List UInt8 → UInt32)

/-- Messages are sent, and no error is recorded before a shutdown is asked for. -/
def ErrorFree (connection : TurnConnection) : TurnEvent → Prop
  | .message (.fatalError _) => False
  | .message _ => True
  | .timer input =>
    input.first.Sends ∧ input.second.Sends ∧
      (¬ (connection.stopTurnConnection ∨ input.stopped) → (connection.firstStep input).1 =
      .success)

/-- Once a shutdown has been asked for, nothing fails and no time is over.  Where the clean-up
begins with an allocation, the refresh packet is there or is about to be prepared. -/
def Orderly (connection : TurnConnection) : TurnEvent → Prop
  | .message _ => True
  | .timer input =>
    connection.stopTurnConnection ∨ input.stopped →
      input.first.Succeeds ∧ connection.inTime input.first ∧
        (connection.state ≠ .cleanUp → connection.hasAllocation →
          connection.turnAllocationRefreshPacket ∨ connection.currentState = .allocation)

/-- What a shutdown is to do at an event. -/
structure ShutsDown (connection : TurnConnection) (event : TurnEvent) : Prop where
  not_failed : (connection.step hmac crc32 event).state ≠ .failed ∧
    (connection.step hmac crc32 event).currentState ≠ .failed
  cleanUp : connection.state = .cleanUp → (connection.step hmac crc32 event).state = .cleanUp
  shutdownComplete : connection.shutdownComplete →
  (connection.step hmac crc32 event).shutdownComplete
  begins : ∀ input, event = .timer input → connection.stopTurnConnection ∨ input.stopped →
    (connection.step hmac crc32 event).state = .cleanUp
  completes : ∀ input, event = .timer input → connection.state = .cleanUp →
    input.first.socketConnectionIsClosed ∨ connection.hasAllocation = false ∨
      input.first.currentTime > connection.stateTimeoutTime →
    (connection.step hmac crc32 event).shutdownComplete
  refresh : ∀ input, event = .timer input → ∀ e ∈ connection.executions hmac crc32 input,
    e.1 = .cleanUp → e.2.hasAllocation → e.2.turnAllocationRefreshPacket

variable {hmac crc32} {round : RoundInput}

theorem firstStep_eq (connection : TurnConnection) (round : RoundInput) :
    connection.firstStep round =
      ((connection.stepStateMachine round.first).1,
        (connection.stepStateMachine round.first).2.stopIf round.stopped) := rfl

theorem forced_eq_none (hok : (connection.stepStateMachine round.first).1 = .success)
    (hstop : ((connection.stepStateMachine round.first).2.stopIf round.stopped).stopTurnConnection →
      (connection.stepStateMachine round.first).2.state = .cleanUp) :
    connection.forced hmac crc32 round = none := by
  unfold forced
  rw [firstStep_eq, hok]
  dsimp only
  rw [if_neg, if_neg]
  · exact fun h => h.1 rfl
  · exact fun h => h.2.2.2 (hstop h.2.1)

/-- **The round that stops** a connection: it is put into the clean-up state, and cleans up. -/
theorem StepsTo.round_stop (hto : connection.StepsTo round.first next)
    (hok : (connection.stepStateMachine round.first).1 = .success) (hsent : round.second.Sends)
    (hstop : connection.stopTurnConnection ∨ round.stopped)
    (hrefresh : connection.hasAllocation →
      connection.turnAllocationRefreshPacket ∨ connection.currentState = .allocation) :
    (connection.step hmac crc32 (.timer round)).Sound ∧
      connection.ShutsDown hmac crc32 (.timer round) := by
  obtain ⟨stopped, hstopped⟩ : ∃ stopped, stopped =
    ((connection.stepStateMachine round.first).2.stopIf round.stopped).stop round.stopTime :=
    ⟨_, rfl⟩
  have hflag : stopped.stopTurnConnection = true := by
    rw [hstopped]
    show ((connection.stepStateMachine round.first).2.stopTurnConnection || round.stopped) = true
    rw [hto.stopTurnConnection]
    exact Bool.or_eq_true_iff.mpr hstop
  have hcurrent : stopped.currentState = next := by
    rw [hstopped]
    exact hto.currentState
  have hpacket : stopped.hasAllocation → stopped.turnAllocationRefreshPacket := by
    rw [hstopped]
    intro hallocation
    change (connection.stepStateMachine round.first).2.hasAllocation = true at hallocation
    rw [hto.hasAllocation] at hallocation
    rcases hrefresh hallocation with hthere | hstate
    · exact hto.keeps.2 hthere
    · exact hto.allocated hstate hallocation
  -- the shutdown that was asked for is forced on the round
  have hforced : connection.forced hmac crc32 round = some stopped := by
    rw [hstopped] at hflag ⊢
    have hnew : (connection.stepStateMachine round.first).2.state ≠ .new :=
      fun hs => hto.ne_new (hto.state.symm.trans hs)
    have hother : (connection.stepStateMachine round.first).2.state ≠ .cleanUp :=
      fun hs => hto.isOpen.1 (hto.state.symm.trans hs)
    unfold forced
    rw [firstStep_eq]
    exact if_pos ⟨hok, hflag, hnew, hother⟩
  -- the second step goes to the clean-up, which gives up the allocation
  have hnext : stopped.fromState round.second = (.ok .cleanUp, stopped) :=
    fromState_cleanUp (by rw [hstopped]; rfl) (hcurrent ▸ hto.ne_new) (hcurrent ▸ hto.isOpen.1)
  have hstep : connection.step hmac crc32 (.timer round) = stopped.cleaned := by
    show (connection.stepTurnConnectionStateMachine hmac crc32 round).2 = _
    unfold stepTurnConnectionStateMachine
    rw [hforced]
    dsimp only
    rw [stepStateMachine_eq hnext, execute_cleanUp hsent hpacket]
  have herror : stopped.errorStatus = .success := by
    rw [hstopped]
    exact hto.keeps.1.errorStatus
  constructor
  · rw [hstep]
    exact sound_cleaned herror hflag hpacket
  · refine ⟨?_, ?_, ?_, ?_, ?_, ?_⟩
    · rw [hstep]
      exact ⟨nofun, nofun⟩
    · intro _
      rw [hstep]
      rfl
    · intro hcomplete
      rw [hstep]
      show stopped.shutdownComplete = true
      rw [hstopped]
      exact hto.shutdownComplete.trans hcomplete
    · intro _ _ _
      rw [hstep]
      rfl
    · intro _ _ hs
      exact absurd hs hto.notCleanUp
    · rintro _ ⟨⟩ e he hclean
      unfold TurnConnection.executions at he
      rw [hforced] at he
      rcases List.mem_append.mp he with he | he
      · exact absurd ((hto.executions e he).symm.trans hclean) hto.isOpen.1
      · rw [eq_of_mem_stepExecutions hnext he]
        exact hpacket

/-- A round before the clean-up after which the connection goes on. -/
theorem StepsTo.round_goOn (hto : connection.StepsTo round.first next)
    (hok : (connection.stepStateMachine round.first).1 = .success)
    (hstop : ¬ (connection.stopTurnConnection ∨ round.stopped)) :
    (connection.step hmac crc32 (.timer round)).Sound ∧
      connection.ShutsDown hmac crc32 (.timer round) := by
  -- nobody has asked for a shutdown, so the round is one step
  have hforced : connection.forced hmac crc32 round = none := by
    refine forced_eq_none hok fun hflag => absurd ?_ hstop
    change ((connection.stepStateMachine round.first).2.stopTurnConnection || round.stopped) = true
      at hflag
    rw [hto.stopTurnConnection] at hflag
    exact Bool.or_eq_true_iff.mp hflag
  have hstep : connection.step hmac crc32 (.timer round) =
      (connection.stepStateMachine round.first).2.stopIf round.stopped := by
    show (connection.stepTurnConnectionStateMachine hmac crc32 round).2 = _
    unfold stepTurnConnectionStateMachine
    rw [hforced]
    rfl
  have hstate : (connection.step hmac crc32 (.timer round)).state = next := by
    rw [hstep]
    exact hto.state
  have hcurrent : (connection.step hmac crc32 (.timer round)).currentState = next := by
    rw [hstep]
    exact hto.currentState
  constructor
  · refine ⟨hstate.trans hcurrent.symm, hstate ▸ hto.isOpen.2, ?_, ?_, ?_, ?_⟩
    · rw [hstep]
      exact hto.keeps.1.congr ⟨rfl, rfl, rfl, rfl, rfl, rfl, rfl⟩
    · intro hbind
      rw [hstep]
      exact hto.peers (hstate.symm.trans hbind)
    · exact fun hs => absurd (hstate.symm.trans hs) hto.isOpen.1
    · exact fun hs => absurd (hstate.symm.trans hs) hto.isOpen.1
  · refine ⟨⟨hstate ▸ hto.isOpen.2, hcurrent ▸ hto.isOpen.2⟩, fun hs => absurd hs hto.notCleanUp,
      ?_, ?_,
      fun _ _ hs => absurd hs hto.notCleanUp, ?_⟩
    · intro hcomplete
      rw [hstep]
      exact hto.shutdownComplete.trans hcomplete
    · rintro _ ⟨⟩ hs
      exact absurd hs hstop
    · rintro _ ⟨⟩ e he hclean
      unfold TurnConnection.executions at he
      rw [hforced, List.append_nil] at he
      exact absurd ((hto.executions e he).symm.trans hclean) hto.isOpen.1

theorem Sound.stopIf (h : connection.Sound) (stopped : Bool) : (connection.stopIf stopped).Sound :=
  ⟨h.executed, h.not_failed, h.prepared.congr ⟨rfl, rfl, rfl, rfl, rfl, rfl, rfl⟩, h.peers,
    fun hs => Bool.or_eq_true_iff.mpr (.inl (h.stopped hs)), h.refresh⟩

/-- **A round in the clean-up state.** -/
theorem Sound.round_cleanUp (h : connection.Sound) (hcleanUp : connection.state = .cleanUp)
    (hsent : round.first.Sends) (htime : connection.inTime round.first) :
    (connection.step hmac crc32 (.timer round)).Sound ∧
      connection.ShutsDown hmac crc32 (.timer round) := by
  have hfrom := h.fromCleanUp hcleanUp htime
  obtain ⟨d, hd⟩ : ∃ d, (if connection.hasAllocation then connection
    else connection.completeShutdown) = d := ⟨_, rfl⟩
  rw [hd] at hfrom
  have hpacket : d.hasAllocation → d.turnAllocationRefreshPacket := by
    subst hd
    split_ifs with hallocation
    · exact fun _ => h.refresh hcleanUp hallocation
    · exact fun hcomplete => absurd hcomplete hallocation
  have hsame : d.errorStatus = .success ∧ d.stopTurnConnection := by
    subst hd
    split_ifs
    · exact ⟨h.prepared.errorStatus, h.stopped hcleanUp⟩
    · exact ⟨h.prepared.errorStatus, h.stopped hcleanUp⟩
  have hfirst : connection.stepStateMachine round.first = (.success, d.cleaned) := by
    rw [stepStateMachine_eq hfrom, execute_cleanUp hsent hpacket]
  have hforced : connection.forced hmac crc32 round = none := by
    apply forced_eq_none
    · rw [hfirst]
    · intro _
      rw [hfirst]
      rfl
  have hstep : connection.step hmac crc32 (.timer round) = d.cleaned.stopIf round.stopped := by
    show (connection.stepTurnConnectionStateMachine hmac crc32 round).2 = _
    unfold stepTurnConnectionStateMachine
    rw [hforced]
    dsimp only
    rw [firstStep_eq, hfirst]
  constructor
  · rw [hstep]
    exact (sound_cleaned hsame.1 hsame.2 hpacket).stopIf round.stopped
  · refine ⟨?_, ?_, ?_, ?_, ?_, ?_⟩
    · rw [hstep]
      exact ⟨nofun, nofun⟩
    · intro _
      rw [hstep]
      rfl
    · intro hcomplete
      rw [hstep]
      show d.shutdownComplete = true
      subst hd
      split_ifs
      · exact hcomplete
      · rfl
    · intro _ _ _
      rw [hstep]
      rfl
    · rintro _ ⟨⟩ _ hdone
      rw [hstep]
      show d.shutdownComplete = true
      -- with an allocation, neither the socket is closed nor the time over
      have hnone : ¬ connection.hasAllocation = true := by
        intro hallocation
        unfold inTime at htime
        rw [h.executed.symm.trans hcleanUp, hallocation] at htime
        simp only [Bool.not_true, Bool.false_or, Bool.and_eq_true, Bool.not_eq_true',
          decide_eq_true_eq] at htime
        rcases hdone with hclosed | hfreed | hover
        · exact absurd (hclosed.symm.trans htime.1) (by decide)
        · exact absurd (hallocation.symm.trans hfreed) (by decide)
        · exact absurd htime.2 (Nat.not_le_of_gt hover)
      subst hd
      rw [if_neg hnone]
      rfl
    · rintro _ ⟨⟩ e he _
      unfold TurnConnection.executions at he
      rw [hforced, List.append_nil] at he
      rw [eq_of_mem_stepExecutions hfrom he]
      exact hpacket

/-- A message that asks for no shutdown leaves the machine and its packets alone. -/
theorem receives_receive {message : TurnMessage} (hshutdown : message ≠ .shutdown)
    (hfatal : ∀ e, message ≠ .fatalError e) :
    Receives connection (connection.receive hmac crc32 message) := by
  cases message with
  | addPeer peerAddress allocated =>
    exact receives_turnConnectionAddPeer connection peerAddress allocated
  | stun currentTime buffer =>
    exact receives_turnConnectionHandleStun hmac crc32 connection currentTime buffer
  | stunError buffer => exact receives_turnConnectionHandleStunError hmac crc32 connection buffer
  | shutdown => exact absurd rfl hshutdown
  | fatalError e => exact absurd rfl (hfatal e)

/-- **No late allocation**: once a shutdown has been asked for, no response gives one. -/
theorem hasAllocation_of_receive {message : TurnMessage} (hstop : connection.stopTurnConnection)
    (h : (connection.receive hmac crc32 message).hasAllocation) : connection.hasAllocation := by
  cases message with
  | addPeer peerAddress allocated =>
    change (connection.turnConnectionAddPeer peerAddress allocated).2.hasAllocation = true at h
    unfold turnConnectionAddPeer at h
    split_ifs at h <;> exact h
  | stun currentTime buffer =>
    change (connection.turnConnectionHandleStun hmac crc32 currentTime buffer).2.hasAllocation =
        true at h
    unfold turnConnectionHandleStun at h
    split_ifs at h
    · exact h
    · exact h
    · unfold handleAllocateSuccess at h
      -- an allocation that comes after the shutdown is not taken
      rw [if_pos hstop] at h
      exact h
    · unfold handleRefreshSuccess at h
      split at h
      · exact h
      · split at h
        · exact h
        · cases h
        · exact h
    · exact h
    · exact h
    · exact h
  | stunError buffer =>
    change (connection.turnConnectionHandleStunError hmac crc32 buffer).2.hasAllocation = true at h
    unfold turnConnectionHandleStunError at h
    split_ifs at h
    · exact h
    · exact h
    · split at h
      · exact h
      · split at h
        · exact h
        · unfold handleErrorCode at h
          split_ifs at h
          · split at h
            · exact h
            · split at h <;> exact h
          · split at h <;> exact h
          · exact h
  | shutdown => exact h
  | fatalError e => exact h

/-- **A message.** -/
theorem Sound.message (h : connection.Sound) {message : TurnMessage}
    (hfatal : ∀ e, message ≠ .fatalError e) :
    (connection.step hmac crc32 (.message message)).Sound ∧
      connection.ShutsDown hmac crc32 (.message message) := by
  have hsound : (connection.receive hmac crc32 message).Sound ∧
      (connection.receive hmac crc32 message).state = connection.state ∧
      (connection.receive hmac crc32 message).shutdownComplete = connection.shutdownComplete := by
    by_cases hshutdown : message = .shutdown
    · subst hshutdown
      exact ⟨⟨h.executed, h.not_failed, h.prepared.congr ⟨rfl, rfl, rfl, rfl, rfl, rfl, rfl⟩,
        h.peers,
        fun _ => rfl, h.refresh⟩, rfl, rfl⟩
    · have hsame : Receives connection (connection.receive hmac crc32 message) :=
        receives_receive hshutdown hfatal
      have hmoves : Moves (fun _ _ _ => True) connection
          (connection.receive hmac crc32 message) := by
        apply moves_receive
        cases message <;> trivial
      refine ⟨⟨?_, ?_, ?_, ?_, ?_, ?_⟩, hsame.state, hsame.shutdownComplete⟩
      · rw [hsame.state, hsame.currentState]
        exact h.executed
      · rw [hsame.state]
        exact h.not_failed
      · exact h.prepared.congr ⟨hsame.state, hsame.errorStatus, hsame.shutdownComplete,
          hsame.turnPacket, hsame.turnCreatePermissionPacket, hsame.turnChannelBindPacket,
          hsame.turnAllocationRefreshPacket⟩
      · rw [hsame.state]
        exact fun hbind => turnPeerList_ne_nil hmoves (h.peers hbind)
      · rw [hsame.state, hsame.stopTurnConnection]
        exact h.stopped
      · rw [hsame.state, hsame.turnAllocationRefreshPacket]
        exact fun hs hallocation => h.refresh hs (hasAllocation_of_receive
          (h.stopped hs) hallocation)
  obtain ⟨hreceived, hstate, hcomplete⟩ := hsound
  refine ⟨hreceived, ⟨hreceived.not_failed, ?_⟩, hstate.trans, hcomplete.trans, ?_, ?_, ?_⟩
  · exact hreceived.executed ▸ hreceived.not_failed
  all_goals
    rintro _ ⟨⟩

/-- **Every event** of an orderly run. -/
theorem Sound.step (h : connection.Sound) {event : TurnEvent}
    (herror : connection.ErrorFree event) (horderly : connection.Orderly event) :
    (connection.step hmac crc32 event).Sound ∧ connection.ShutsDown hmac crc32 event := by
  cases event with
  | message message =>
    apply h.message
    rintro e rfl
    exact herror
  | timer round =>
    obtain ⟨hfirst, hsecond, hno⟩ := herror
    by_cases hcleanUp : connection.state = .cleanUp
    · exact h.round_cleanUp hcleanUp hfirst (horderly (.inl (h.stopped hcleanUp))).2.1
    · by_cases hstop : connection.stopTurnConnection ∨ round.stopped
      · obtain ⟨hsucceeds, htime, hrefresh⟩ := horderly hstop
        have hok := h.succeeds hcleanUp hfirst hsucceeds htime
        obtain ⟨next, hto⟩ := h.stepsTo hcleanUp hok
        exact hto.round_stop hok hsecond hstop (hrefresh hcleanUp)
      · have hok : (connection.stepStateMachine round.first).1 = .success := hno hstop
        obtain ⟨next, hto⟩ := h.stepsTo hcleanUp hok
        exact hto.round_goOn hok hstop

end TurnConnection

/-! ### A sample run -/

open TurnConnection

instance (input : StepInput) : Decidable input.Sends :=
  inferInstanceAs (Decidable (input.sent = .success ∧ _ = _))

instance (input : StepInput) : Decidable input.Succeeds :=
  inferInstanceAs (Decidable (input.initSecureConnection = .success ∧ _ ∧ _ = _ ∧ _ = _ ∧ _ = _ ∧
    _ = _ ∧ _ = _))

instance (connection : TurnConnection) : ∀ event, Decidable (connection.ErrorFree event)
  | .message (.addPeer ..) => .isTrue trivial
  | .message (.stun ..) => .isTrue trivial
  | .message (.stunError _) => .isTrue trivial
  | .message .shutdown => .isTrue trivial
  | .message (.fatalError _) => .isFalse id
  | .timer input => inferInstanceAs (Decidable (input.first.Sends ∧ input.second.Sends ∧
    (¬ (_ ∨ _) → _ = _)))

instance (connection : TurnConnection) : ∀ event, Decidable (connection.Orderly event)
  | .message _ => .isTrue trivial
  | .timer input =>
    inferInstanceAs (Decidable (_ ∨ _ → input.first.Succeeds ∧ _ ∧ (_ ≠ _ → _ → _ ∨ _)))

/-- A shutdown is asked for when there is an allocation, and the server says that it is gone. -/
def shutdownRun : List TurnEvent :=
  allocatedRun ++
    [.message .shutdown, sampleRound 0 5,
      .message (.stun 0 (serverPacket [0x01, 0x04] zeroTransactionId [0, 0x0D, 0, 4, 0, 0, 0, 0])),
      sampleRound 0 6]

def lateRun : List TurnEvent :=
  allocatedRun ++ [.message .shutdown, sampleRound 0 5,
    sampleRound (defaultTurnCleanUpTimeout + 1) 6]

/-- **The shutdown of a TURN connection**: if messages are sent and no error is recorded before it
is asked for, then at every event of an orderly run the connection keeps to it.  It cleans up from
the next round on, completes the shutdown once nothing more is to be freed, never fails, and never
tries to free an allocation without the refresh packet. -/
theorem shutsDown_along (hmac : List UInt8 → List UInt8 → Digest) (crc32 : List UInt8 → UInt32)
    (events : List TurnEvent)
    (herror : AllSteps (step hmac crc32) ErrorFree createTurnConnection events)
    (horderly : AllSteps (step hmac crc32) Orderly createTurnConnection events) :
    AllSteps (step hmac crc32) (ShutsDown hmac crc32) createTurnConnection events := by
  have hnew : createTurnConnection.Sound := by
    refine ⟨rfl, by decide, ⟨fun h => ?_, fun h => ?_, rfl⟩, nofun,
      nofun, nofun⟩
    · rcases h with h | h | h <;> cases h
    · rcases h with h | h | h <;> cases h
  exact (herror.and horderly).imp (fun _ _ hsound hok => (hsound.step hok.1 hok.2).1)
    (fun _ _ hsound hok => (hsound.step hok.1 hok.2).2) hnew

theorem shutsDown_along_shutdownRun :
    (createTurnConnection.run zeroHmac zeroCrc32 shutdownRun).shutdownComplete ∧
      AllSteps (step zeroHmac zeroCrc32) (ShutsDown zeroHmac zeroCrc32) createTurnConnection
        shutdownRun :=
  ⟨by decide +kernel, shutsDown_along zeroHmac zeroCrc32 shutdownRun (by decide +kernel)
  (by decide +kernel)⟩

/-- Without an answer in time, the refresh packet is freed and then to be sent, and the connection
fails. -/
theorem late_shutdown_fails :
    ¬ ∀ (hmac : List UInt8 → List UInt8 → Digest) (crc32 : List UInt8 → UInt32) (events :
      List TurnEvent),
      AllSteps (step hmac crc32) ErrorFree createTurnConnection events →
        AllSteps (step hmac crc32) (ShutsDown hmac crc32) createTurnConnection events := by
  intro h
  have hall := h zeroHmac zeroCrc32 lateRun (by decide +kernel)
  have hlast :=
    ((allSteps_append createTurnConnection (allocatedRun ++ [.message .shutdown, sampleRound 0 5])
    [sampleRound (defaultTurnCleanUpTimeout + 1) 6]).mp hall).2.1
  exact hlast.not_failed.1 (by decide +kernel)

end KvsWebrtc.Turn
