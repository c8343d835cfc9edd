import KvsWebrtc.Turn.StateMachine

/-!
# The state machine of a TURN connection ends its loop

Every state that a function proposes accepts the current one (`accepts_of_mem_proposals`), whatever
the connection is like.  A round that changes the state goes up in an order of the states that takes
into account whether a peer has a permission, whether there is an allocation, and whether the
shutdown has been asked for and is complete (`rank`): the cycles between the ready state and the
creation of permissions and between the clean-up and the failed state are each gone through once.
-/

namespace KvsWebrtc.Turn

open Stun

def TurnState.IsOpen (s : TurnState) : Prop := s ≠ .cleanUp ∧ s ≠ .failed

namespace TurnConnection

variable {a b c : TurnConnection} {input : StepInput}

/-! ### What a step keeps -/

def connectionStates (connection : TurnConnection) : List TurnPeerConnectionState :=
  connection.turnPeerList.map TurnPeer.connectionState

/-- The connections agree in what the order depends on. -/
structure SameFlags (a b : TurnConnection) : Prop where
  currentState : b.currentState = a.currentState
  shutdownComplete : b.shutdownComplete = a.shutdownComplete
  stopTurnConnection : b.stopTurnConnection = a.stopTurnConnection
  hasAllocation : b.hasAllocation = a.hasAllocation
  connectionStates : b.connectionStates = a.connectionStates

theorem SameFlags.refl (connection : TurnConnection) : SameFlags connection connection :=
  ⟨rfl, rfl, rfl, rfl, rfl⟩

theorem SameFlags.trans (hab : SameFlags a b) (hbc : SameFlags b c) : SameFlags a c :=
  ⟨hbc.currentState.trans hab.currentState, hbc.shutdownComplete.trans hab.shutdownComplete,
    hbc.stopTurnConnection.trans hab.stopTurnConnection, hbc.hasAllocation.trans hab.hasAllocation,
    hbc.connectionStates.trans hab.connectionStates⟩

/-- **The loop over the peers**: what survives each new id survives the loop. -/
theorem checkPeers_induction {P : TurnConnection → Prop}
    (hgenerate : ∀ c i peer transactionId, P c → c.turnPeerList[i]? = some peer →
      P (c.generateTransactionId i peer transactionId)) (input : StepInput) (is : List Nat)
    {connection : TurnConnection} (h : P connection) : P (checkPeers input is connection).2 := by
  induction is generalizing connection with
  | nil => exact h
  | cons i is ih =>
    unfold checkPeers
    split
    · exact ih h
    · next peer hpeer =>
      split
      · split_ifs
        · exact ih (hgenerate _ _ _ _ h hpeer)
        · exact h
      · split_ifs
        · exact ih (hgenerate _ _ _ _ h hpeer)
        · exact h
      · exact ih h

/-- An entry is replaced by one that agrees in `g`. -/
theorem map_set_of_eq {α β : Type*} {l : List α} {i : Nat} {old new : α} (h : l[i]? = some old)
    (g : α → β) (hg : g new = g old) : (l.set i new).map g = l.map g := by
  obtain ⟨hi, rfl⟩ := List.getElem?_eq_some_iff.mp h
  rw [List.map_set, hg, ← List.getElem_map g (h := by simpa using hi), List.set_getElem_self]

theorem connectionStates_generateTransactionId {i : Nat} {peer : TurnPeer}
    (h : a.turnPeerList[i]? = some peer) (transactionId : List UInt8) :
    (a.generateTransactionId i peer transactionId).connectionStates = a.connectionStates :=
  map_set_of_eq h TurnPeer.connectionState rfl

/-- A property of what a function returns, where it goes on after a call. -/
theorem chkStatus_cases {P : Status × TurnConnection → Prop} {result : Status × TurnConnection}
    {next : TurnConnection → Status × TurnConnection} (hfailed : result.1.failed → P result)
    (hnext : P (next result.2)) : P (chkStatus result next) := by
  unfold chkStatus
  split_ifs with h
  · exact hfailed h
  · exact hnext

theorem chkStatus_assoc (result : Status × TurnConnection)
    (f g : TurnConnection → Status × TurnConnection) :
    chkStatus (chkStatus result f) g =
      chkStatus result fun connection => chkStatus (f connection) g := by
  simp only [chkStatus]
  split_ifs <;> rfl

/-- **Asking for permissions and channels**: what survives each new id survives it, if it is not
about the refresh of the allocation. -/
theorem checkTurnPeerConnections_induction {P : TurnConnection → Prop} (connection : TurnConnection)
    (input : StepInput)
    (hgenerate : ∀ c i peer transactionId, P c → c.turnPeerList[i]? = some peer →
      P (c.generateTransactionId i peer transactionId))
    (hrefresh : ∀ c nextAllocationRefreshTime, P c → P { c with nextAllocationRefreshTime })
    (h : P connection) : P (connection.checkTurnPeerConnections input).2 := by
  have hpeers := checkPeers_induction hgenerate input (List.range connection.turnPeerList.length) h
  apply chkStatus_cases (P := fun result => P result.2)
  · exact fun _ => hpeers
  · unfold turnConnectionRefreshAllocation
    split_ifs
    · apply chkStatus_cases (P := fun result => P result.2)
      · exact fun _ => hpeers
      · exact hrefresh _ _ hpeers
    · exact hpeers

/-- Asking for permissions and channels changes neither the states of the peers nor of the
connection. -/
theorem checkTurnPeerConnections_frame (connection : TurnConnection) (input : StepInput) :
    SameFlags connection (connection.checkTurnPeerConnections input).2 ∧
      (connection.checkTurnPeerConnections input).2.state = connection.state :=
  checkTurnPeerConnections_induction (P := fun c => SameFlags connection c ∧
    c.state = connection.state) connection input
    (fun _ _ _ transactionId hc hpeer =>
      ⟨hc.1.trans ⟨rfl, rfl, rfl, rfl, connectionStates_generateTransactionId hpeer transactionId⟩,
      hc.2⟩)
    (fun _ _ hc => ⟨hc.1.trans ⟨rfl, rfl, rfl, rfl, rfl⟩, hc.2⟩) ⟨SameFlags.refl connection, rfl⟩

/-- What executing a state keeps, and the states it leaves the connection in. -/
structure Executes (next : TurnState) (connection : TurnConnection)
    (result : Status × TurnConnection) : Prop where
  same : SameFlags connection result.2
  state : result.1.failed = false → result.2.state = next
  state_or : result.2.state = next ∨ result.2.state = connection.state

theorem Executes.of_failed {next : TurnState} {result : Status × TurnConnection}
    (hsame : SameFlags a result.2) (hstate : result.2.state = a.state) (h : result.1.failed) :
    Executes next a result :=
  ⟨hsame, fun hok => absurd (h.symm.trans hok) (by decide), .inr hstate⟩

theorem Executes.of_state {next : TurnState} {result : Status × TurnConnection}
    (hsame : SameFlags a result.2) (hstate : result.2.state = next) : Executes next a result :=
  ⟨hsame, fun _ => hstate, .inl hstate⟩

theorem executes_checkTurnPeerConnections {next : TurnState} (hsame : SameFlags a b)
    (hnext : b.state = next) (input : StepInput) :
    Executes next a (b.checkTurnPeerConnections input) := by
  obtain ⟨hcheck, hstate⟩ := checkTurnPeerConnections_frame b input
  exact Executes.of_state (hsame.trans hcheck) (hstate.trans hnext)

theorem executes_createPermission (connection : TurnConnection) (input : StepInput) :
    Executes .createPermission connection (connection.executeCreatePermission input) := by
  have hcheck : ∀ c : TurnConnection, SameFlags connection c → c.state = .createPermission →
      Executes .createPermission connection
        (chkStatus (c.checkTurnPeerConnections input) fun connection =>
          (.success,
            if connection.turnPeerList.length = 0 then
              { connection with
                stateTimeoutTime := input.executeTime + defaultTurnCreatePermissionTimeout }
            else connection)) := by
    intro c hc hstate
    have hexecutes := executes_checkTurnPeerConnections hc hstate input
    apply chkStatus_cases (P := Executes .createPermission connection)
    · exact fun _ => hexecutes
    · have hnext := (checkTurnPeerConnections_frame c input).2.trans hstate
      split_ifs
      · exact Executes.of_state (hexecutes.same.trans ⟨rfl, rfl, rfl, rfl, rfl⟩) hnext
      · exact Executes.of_state hexecutes.same hnext
  unfold executeCreatePermission
  split_ifs with hstate
  · -- each packet can fail to be prepared
    unfold preparePackets
    simp only [chkStatus_assoc]
    apply chkStatus_cases (P := Executes .createPermission connection)
    · exact Executes.of_failed ⟨rfl, rfl, rfl, rfl, rfl⟩ rfl
    · apply chkStatus_cases (P := Executes .createPermission connection)
      · exact Executes.of_failed ⟨rfl, rfl, rfl, rfl, rfl⟩ rfl
      · apply chkStatus_cases (P := Executes .createPermission connection)
        · exact Executes.of_failed ⟨rfl, rfl, rfl, rfl, rfl⟩ rfl
        · exact hcheck _ ⟨rfl, rfl, rfl, rfl, rfl⟩ rfl
  · exact hcheck connection (SameFlags.refl connection) (not_not.mp hstate)

/-- **Executing a state** other than the failed one. -/
theorem executes_execute (connection : TurnConnection) (input : StepInput) {next : TurnState}
    (hnext : next ≠ .failed) : Executes next connection (connection.execute input next) := by
  have hself : SameFlags connection connection := SameFlags.refl connection
  cases next with
  | new => exact Executes.of_state ⟨rfl, rfl, rfl, rfl, rfl⟩ rfl
  | checkSocketConnection =>
    show Executes _ _ (connection.executeCheckSocketConnection input)
    unfold executeCheckSocketConnection
    -- a state that is entered again does nothing but send
    split_ifs with hstate
    · apply chkStatus_cases (P := Executes .checkSocketConnection connection)
      · exact fun _ => Executes.of_state ⟨rfl, rfl, rfl, rfl, rfl⟩ rfl
      · exact Executes.of_state ⟨rfl, rfl, rfl, rfl, rfl⟩ rfl
    · exact Executes.of_state hself (not_not.mp hstate)
  | getCredentials =>
    show Executes _ _ (connection.executeGetCredentials input)
    unfold executeGetCredentials
    split_ifs with hstate
    · apply chkStatus_cases (P := Executes .getCredentials connection)
      · exact Executes.of_failed hself rfl
      · exact Executes.of_state ⟨rfl, rfl, rfl, rfl, rfl⟩ rfl
    · exact Executes.of_state hself (not_not.mp hstate)
    · exact Executes.of_state hself (not_not.mp hstate)
  | allocation =>
    show Executes _ _ (connection.executeAllocation input)
    unfold executeAllocation
    split_ifs with hstate
    · split
      · exact Executes.of_failed ⟨rfl, rfl, rfl, rfl, rfl⟩ rfl rfl
      · apply chkStatus_cases (P := Executes .allocation connection)
        · exact Executes.of_failed ⟨rfl, rfl, rfl, rfl, rfl⟩ rfl
        · exact Executes.of_state ⟨rfl, rfl, rfl, rfl, rfl⟩ rfl
    · exact Executes.of_state hself (not_not.mp hstate)
    · exact Executes.of_state hself (not_not.mp hstate)
  | createPermission => exact executes_createPermission connection input
  | bindChannel =>
    apply executes_checkTurnPeerConnections
    · exact ⟨rfl, rfl, rfl, rfl, rfl⟩
    · rfl
  | ready =>
    apply executes_checkTurnPeerConnections
    · exact ⟨rfl, rfl, rfl, rfl, rfl⟩
    · rfl
  | cleanUp =>
    show Executes _ _ (connection.executeCleanUp input)
    unfold executeCleanUp
    split_ifs
    · apply chkStatus_cases (P := Executes .cleanUp connection)
      · exact fun _ => Executes.of_state ⟨rfl, rfl, rfl, rfl, rfl⟩ rfl
      · exact Executes.of_state ⟨rfl, rfl, rfl, rfl, rfl⟩ rfl
    · exact Executes.of_state ⟨rfl, rfl, rfl, rfl, rfl⟩ rfl
  | failed => exact absurd rfl hnext

theorem executeCleanUp_failed {connection : TurnConnection}
    (h : (connection.executeCleanUp input).1.failed) : connection.hasAllocation := by
  unfold executeCleanUp at h
  split_ifs at h with halloc
  · exact halloc
  · cases h

/-! ### The next state -/

/-- What every change keeps that the functions for the next state make is kept by them. -/
theorem fromState_induction {P : TurnConnection → Prop} (connection : TurnConnection)
    (input : StepInput) (htime : ∀ c stateTimeoutTime, P c → P { c with stateTimeoutTime })
    (hperiod : ∀ c currentTimerCallingPeriod, P c → P { c with currentTimerCallingPeriod })
    (hreset : ∀ c, P c → P { c with turnPeerList := c.turnPeerList.map TurnPeer.reset })
    (hshutdown : connection.currentState = .cleanUp → connection.state ≠ .failed →
      (input.socketConnectionIsClosed ∨ connection.hasAllocation = false ∨
        input.currentTime > connection.stateTimeoutTime) → P connection →
        P connection.completeShutdown)
    (h : P connection) : P (connection.fromState input).2 := by
  -- a forced change of state is all that happens then
  have hforced : ∀ next : Except Status TurnState × TurnConnection, P next.2 →
      P (connection.unlessForced next).2 := by
    intro next hnext
    unfold unlessForced
    split_ifs
    · exact h
    · exact hnext
  have htimer : ∀ (c : TurnConnection) (next : TurnState), P c →
      P (c.updateTimerPeriod input next).2 := by
    intro c next hc
    unfold updateTimerPeriod
    split_ifs <;> exact hc
  unfold fromState
  cases hcurrent : connection.currentState with
  | new => exact h
  | ready =>
    apply hforced
    split_ifs
    · exact htimer _ _ (htime _ _ (hperiod _ _ (hreset _ h)))
    · exact htimer _ _ (hperiod _ _ h)
    · exact h
  | cleanUp =>
    show P (connection.fromCleanUp input).2
    unfold fromCleanUp
    split_ifs with hfailed hcomplete
    · exact h
    · exact hshutdown hcurrent hfailed hcomplete h
    · exact hshutdown hcurrent hfailed hcomplete h
    · exact h
  | failed =>
    show P (connection.fromFailed input).2
    unfold fromFailed
    split_ifs
    · exact h
    · exact htime _ _ h
    · exact h
  | _ =>
    apply hforced
    split_ifs <;> first | exact h | exact htime _ _ h

/-- The functions for the next state keep the current one, and whether the shutdown has been asked
for. -/
structure SameMachine (a b : TurnConnection) : Prop where
  currentState : b.currentState = a.currentState
  stopTurnConnection : b.stopTurnConnection = a.stopTurnConnection
  hasAllocation : b.hasAllocation = a.hasAllocation
  state : b.state = a.state

theorem SameMachine.refl (connection : TurnConnection) : SameMachine connection connection :=
  ⟨rfl, rfl, rfl, rfl⟩

theorem sameMachine_fromState (connection : TurnConnection) (input : StepInput) :
    SameMachine connection (connection.fromState input).2 :=
  fromState_induction (P := SameMachine connection) connection input
    (fun _ _ h => ⟨h.1, h.2, h.3, h.4⟩) (fun _ _ h => ⟨h.1, h.2, h.3, h.4⟩)
    (fun _ h => ⟨h.1, h.2, h.3, h.4⟩)
    (fun _ _ _ h => ⟨h.1, h.2, h.3, h.4⟩) (SameMachine.refl connection)

/-- The clean-up and the failed state accept every state but the new one. -/
theorem accepts_forced {s next : TurnState} (hs : s ≠ .new)
    (hnext : next = .cleanUp ∨ next = .failed) :
    next.accepts s := by
  rcases hnext with rfl | rfl
  all_goals simpa [TurnState.accepts] using hs

/-- **The masks**: every state that is proposed accepts the current one. -/
theorem accepts_of_fromState {connection : TurnConnection} {next : TurnState}
    (h : (connection.fromState input).1 = .ok next) : next.accepts connection.currentState := by
  -- a forced state is accepted from everywhere
  have hforced : ∀ result : Except Status TurnState × TurnConnection,
      connection.currentState ≠ .new → (connection.unlessForced result).1 = .ok next →
        (result.1 = .ok next → next.accepts connection.currentState) →
          next.accepts connection.currentState := by
    intro result hs hresult hnext
    unfold unlessForced at hresult
    split_ifs at hresult with hstate
    · obtain rfl := Except.ok.inj hresult
      exact accepts_forced hs hstate
    · exact hnext hresult
  unfold fromState at h
  cases hcurrent : connection.currentState with
  | new =>
    rw [hcurrent] at h
    obtain rfl := Except.ok.inj h
    rfl
  | cleanUp =>
    rw [hcurrent] at h
    change (connection.fromCleanUp input).1 = _ at h
    unfold fromCleanUp at h
    apply accepts_forced (by decide)
    split_ifs at h with hstate
    all_goals obtain rfl := Except.ok.inj h
    · exact .inr hstate
    · exact .inr rfl
    · exact .inl rfl
    · exact .inl rfl
  | failed =>
    rw [hcurrent] at h
    change (connection.fromFailed input).1 = _ at h
    unfold fromFailed at h
    apply accepts_forced (by decide)
    split_ifs at h with hstate
    all_goals obtain rfl := Except.ok.inj h
    · exact .inl hstate
    · exact .inl rfl
    · exact .inr rfl
  | ready =>
    rw [hcurrent] at h hforced
    refine hforced _ (by decide) h fun hnext => ?_
    have htimer : ∀ (c : TurnConnection) (s : TurnState),
        (c.updateTimerPeriod input s).1 = .ok next → next = s := by
      intro c s hs
      unfold updateTimerPeriod at hs
      split_ifs at hs
      exact (Except.ok.inj hs).symm
    split_ifs at hnext
    · obtain rfl := htimer _ _ hnext
      rfl
    · obtain rfl := htimer _ _ hnext
      rfl
    · obtain rfl := Except.ok.inj hnext
      rfl
  | _ =>
    rw [hcurrent] at h hforced
    refine hforced _ (by decide) h fun hnext => ?_
    split_ifs at hnext
    all_goals
      obtain rfl := Except.ok.inj hnext
      rfl

/-- **The masks** in a round. -/
theorem accepts_of_mem_proposals (hmac : List UInt8 → List UInt8 → Digest)
    (crc32 : List UInt8 → UInt32) (connection : TurnConnection) (input : RoundInput)
    {proposal : TurnState × TurnState} (h : proposal ∈ connection.proposals hmac crc32 input) :
    proposal.2.accepts proposal.1 := by
  have hstep : ∀ (c : TurnConnection) (input : StepInput), proposal ∈ c.stepProposals input →
      proposal.2.accepts proposal.1 := by
    intro c input hmem
    unfold stepProposals at hmem
    cases hnext : c.fromState input with
    | mk next c' =>
      rw [hnext] at hmem
      cases next with
      | error e => exact absurd hmem List.not_mem_nil
      | ok next =>
        obtain rfl := List.mem_singleton.mp hmem
        exact accepts_of_fromState (congrArg Prod.fst hnext)
  unfold proposals at h
  rcases List.mem_append.mp h with h | h
  · exact hstep _ _ h
  · cases hforced : connection.forced hmac crc32 input with
    | none =>
      rw [hforced] at h
      exact absurd h List.not_mem_nil
    | some c =>
      rw [hforced] at h
      exact hstep _ _ h

/-! ### A step -/

theorem stepStateMachine_eq {connection : TurnConnection} {next : TurnState}
    (h : connection.fromState input = (.ok next, c)) :
    connection.stepStateMachine input = { c with currentState := next }.execute input next := by
  have hsame := (sameMachine_fromState connection input).currentState
  have haccepts := accepts_of_fromState (congrArg Prod.fst h)
  rw [h] at hsame
  unfold stepStateMachine
  rw [h]
  dsimp only
  rw [hsame, if_pos haccepts]

theorem stepStateMachine_error {connection : TurnConnection} {e : Status}
    (h : connection.fromState input = (.error e, c)) :
    connection.stepStateMachine input = (e, c) := by
  unfold stepStateMachine
  rw [h]

theorem stepStateMachine_failed {connection : TurnConnection} (hstate : connection.state = .failed)
    (hnew : connection.currentState ≠ .new) (hfailed : connection.currentState ≠ .failed) :
    connection.stepStateMachine input =
      (.success, { connection with currentState := .failed }.executeFailed) := by
  have hnext : connection.fromState input = (.ok .failed, connection) := by
    have hforced : ∀ next, connection.unlessForced next = (.ok .failed, connection) := by
      intro next
      unfold unlessForced
      rw [hstate]
      exact if_pos (.inr rfl)
    unfold fromState
    cases hcurrent : connection.currentState with
    | new => exact absurd hcurrent hnew
    | failed => exact absurd hcurrent hfailed
    | cleanUp =>
      show connection.fromCleanUp input = _
      unfold fromCleanUp
      rw [hstate, if_pos rfl]
    | _ => exact hforced _
  exact stepStateMachine_eq hnext

/-- A connection that has been put into the clean-up state is to clean up. -/
theorem fromState_cleanUp {connection : TurnConnection} (hstate : connection.state = .cleanUp)
    (hnew : connection.currentState ≠ .new) (hcleanUp : connection.currentState ≠ .cleanUp) :
    connection.fromState input = (.ok .cleanUp, connection) := by
  have hforced : ∀ next, connection.unlessForced next = (.ok .cleanUp, connection) := by
    intro next
    unfold unlessForced
    rw [hstate]
    exact if_pos (.inl rfl)
  unfold fromState
  cases hcurrent : connection.currentState with
  | new => exact absurd hcurrent hnew
  | cleanUp => exact absurd hcurrent hcleanUp
  | failed =>
    show connection.fromFailed input = _
    unfold fromFailed
    rw [hstate, if_pos rfl]
  | _ => exact hforced _

theorem stepStateMachine_cleanUp {connection : TurnConnection}
    (hstate : connection.state = .cleanUp) (hnew : connection.currentState ≠ .new)
    (hcleanUp : connection.currentState ≠ .cleanUp) :
    connection.stepStateMachine input =
      { connection with currentState := .cleanUp }.executeCleanUp input :=
  stepStateMachine_eq (fromState_cleanUp hstate hnew hcleanUp)

/-! ### The order -/

/-- The place of a connection in the order in which rounds go through the states. -/
def rank (connection : TurnConnection) : Nat :=
  match connection.currentState with
  | .new => 0
  | .checkSocketConnection => 1
  | .getCredentials => 2
  | .allocation => 3
  -- without a permission, the next state can only be the failed one
  | .createPermission => if connection.channelWithPermissionCount > 0 then 4 else 7
  | .bindChannel => 5
  | .ready => 6
  | .failed =>
    if connection.shutdownComplete then 13 else if connection.hasAllocation then 8 else 10
  | .cleanUp =>
    if connection.hasAllocation then 9
    else if connection.shutdownComplete = false then 11
    else if connection.stopTurnConnection then 14
    else 12

theorem channelWithPermissionCount_eq (connection : TurnConnection) :
    connection.channelWithPermissionCount =
      connection.connectionStates.countP fun s => s == .bindChannel || s == .ready := by
  unfold channelWithPermissionCount connectionStates
  rw [List.countP_map]
  rfl

theorem rank_congr (h : SameFlags a b) : b.rank = a.rank := by
  unfold rank
  rw [h.currentState, h.shutdownComplete, h.hasAllocation, h.stopTurnConnection,
    channelWithPermissionCount_eq, h.connectionStates, ← channelWithPermissionCount_eq]

/-- A connection that has been put into a state comes before one that has executed it. -/
def place (connection : TurnConnection) : Nat :=
  2 * connection.rank + if connection.state = connection.currentState then 1 else 0

/-- The connection has executed its state, or has been put into the failed one. -/
def Settled (connection : TurnConnection) : Prop :=
  connection.state = connection.currentState ∨ connection.state = .failed

theorem rank_le (connection : TurnConnection) : connection.rank ≤ 14 := by
  unfold rank
  split
  all_goals
    repeat' split
    all_goals omega

/-- What the first step of a round makes of a connection in a state before the clean-up. -/
structure StepsOpen (connection : TurnConnection) (result : Status × TurnConnection) : Prop where
  current : result.2.currentState.IsOpen ∧ result.2.currentState ≠ .new
  state : result.2.state.IsOpen
  executed : result.1.failed = false → result.2.state = result.2.currentState
  rank_lt : result.1.failed = false →
    result.2.currentState = connection.currentState ∨ connection.rank < result.2.rank

/-- A state before the clean-up is entered. -/
theorem stepsOpen_execute {next : TurnState} (hopen : connection.state.IsOpen) {c : TurnConnection}
    (hstate : c.state = connection.state) (hnext : next.IsOpen) (hnew : next ≠ .new)
    (hrank : next = connection.currentState ∨ connection.rank < { c with
  currentState := next }.rank) :
    StepsOpen connection ({ c with currentState := next }.execute input next) := by
  have hexecutes := executes_execute { c with currentState := next } input hnext.2
  have hcurrent := hexecutes.same.currentState
  have hsame := rank_congr hexecutes.same
  refine ⟨?_, ?_, ?_, ?_⟩
  · rw [hcurrent]
    exact ⟨hnext, hnew⟩
  · rcases hexecutes.state_or with h | h
    · rw [h]
      exact hnext
    · rw [h]
      show c.state.IsOpen
      rw [hstate]
      exact hopen
  · intro hok
    rw [hexecutes.state hok, hcurrent]
  · intro _
    rw [hcurrent, hsame]
    exact hrank

theorem unlessForced_of_isOpen {connection : TurnConnection} (h : connection.state.IsOpen)
    (next : Except Status TurnState × TurnConnection) : connection.unlessForced next = next :=
  if_neg (not_or.mpr h)

theorem channelWithPermissionCount_reset (peers : List TurnPeer) :
    (peers.map TurnPeer.reset).countP
      (fun peer => peer.connectionState == .bindChannel || peer.connectionState == .ready) = 0 := by
  rw [List.countP_eq_zero]
  intro peer hpeer
  obtain ⟨peer, -, rfl⟩ := List.mem_map.mp hpeer
  exact Bool.false_ne_true

theorem rank_createPermission {connection : TurnConnection}
    (hcurrent : connection.currentState = .createPermission)
    (hcount : connection.channelWithPermissionCount = 0) : connection.rank = 7 := by
  simp [rank, hcurrent, hcount]

/-- **The first step** from a state before the clean-up goes on in the order, or fails. -/
theorem stepsOpen_stepStateMachine {connection : TurnConnection}
    (hexecuted : connection.state = connection.currentState)
    (hopen : connection.currentState.IsOpen) (input : StepInput) :
    StepsOpen connection (connection.stepStateMachine input) := by
  have hstateOpen : connection.state.IsOpen := hexecuted ▸ hopen
  have hforced : ∀ {next result}, connection.unlessForced next = result → next = result :=
    fun h => (unlessForced_of_isOpen hstateOpen _).symm.trans h
  have hexecute : ∀ next c, connection.fromState input = (.ok next, c) → next.IsOpen ∧ next ≠ .new →
      next = connection.currentState ∨ connection.rank < { c with currentState := next }.rank →
        StepsOpen connection (connection.stepStateMachine input) := by
    intro next c h hnext hrank
    have hstate := (sameMachine_fromState connection input).state
    rw [h] at hstate
    rw [stepStateMachine_eq h]
    exact stepsOpen_execute hstateOpen hstate hnext.1 hnext.2 hrank
  have herror : ∀ e c, connection.fromState input = (.error e, c) → e.failed →
      connection.currentState ≠ .new → StepsOpen connection
      (connection.stepStateMachine input) := by
    intro e c h he hnew
    have hsame := sameMachine_fromState connection input
    rw [h] at hsame
    rw [stepStateMachine_error h]
    refine ⟨?_, ?_, ?_, ?_⟩
    · rw [hsame.currentState]
      exact ⟨hopen, hnew⟩
    · rw [hsame.state]
      exact hstateOpen
    · exact fun hok => absurd (he.symm.trans hok) (by decide)
    · exact fun hok => absurd (he.symm.trans hok) (by decide)
  have hstays : ∀ next c, connection.fromState input = (.ok next, c) →
      connection.currentState = next →
      next ≠ .new → StepsOpen connection (connection.stepStateMachine input) :=
    fun next c h hnext hnew => hexecute next c h ⟨hnext ▸ hopen, hnew⟩ (.inl hnext.symm)
  have hgoes : ∀ next c, connection.fromState input = (.ok next, c) →
      (next ≠ .cleanUp ∧ next ≠ .failed) ∧ next ≠ .new →
        connection.rank < { c with currentState := next }.rank →
          StepsOpen connection (connection.stepStateMachine input) :=
    fun next c h hnext hrank => hexecute next c h hnext (.inr hrank)
  -- the function of the current state
  obtain ⟨result, hresult⟩ : ∃ result, connection.fromState input = result := ⟨_, rfl⟩
  have hfrom := hresult
  unfold fromState at hfrom
  cases hcurrent : connection.currentState with
  | cleanUp => exact absurd hcurrent hopen.1
  | failed => exact absurd hcurrent hopen.2
  | new =>
    rw [hcurrent] at hfrom
    subst hfrom
    refine hgoes _ _ hresult (by decide) ?_
    simp [rank, hcurrent]
  | checkSocketConnection =>
    rw [hcurrent] at hfrom
    replace hfrom := hforced hfrom
    split_ifs at hfrom
    all_goals subst hfrom
    · refine hgoes _ _ hresult (by decide) ?_
      simp [rank, hcurrent]
    · exact hstays _ _ hresult hcurrent (by decide)
  | getCredentials =>
    rw [hcurrent] at hfrom
    replace hfrom := hforced hfrom
    split_ifs at hfrom
    all_goals subst hfrom
    · refine hgoes _ _ hresult (by decide) ?_
      simp [rank, hcurrent]
    · exact hstays _ _ hresult hcurrent (by decide)
  | allocation =>
    rw [hcurrent] at hfrom
    replace hfrom := hforced hfrom
    split_ifs at hfrom
    all_goals subst hfrom
    · refine hgoes _ _ hresult (by decide) ?_
      simp only [rank, hcurrent]
      split_ifs <;> omega
    · exact hstays _ _ hresult hcurrent (by decide)
  | createPermission =>
    rw [hcurrent] at hfrom
    replace hfrom := hforced hfrom
    split_ifs at hfrom with _ _ hcount
    all_goals subst hfrom
    · exact hstays _ _ hresult hcurrent (by decide)
    · refine hgoes _ _ hresult (by decide) ?_
      simp [rank, hcurrent, hcount]
    · exact herror _ _ hresult (by decide) (by rw [hcurrent]; decide)
    · exact hstays _ _ hresult hcurrent (by decide)
  | bindChannel =>
    rw [hcurrent] at hfrom
    replace hfrom := hforced hfrom
    split_ifs at hfrom
    all_goals subst hfrom
    · refine hgoes _ _ hresult (by decide) ?_
      simp [rank, hcurrent]
    · exact herror _ _ hresult (by decide) (by rw [hcurrent]; decide)
    · exact hstays _ _ hresult hcurrent (by decide)
  | ready =>
    rw [hcurrent] at hfrom
    replace hfrom := hforced hfrom
    have hready : connection.currentState ≠ .new := by
      rw [hcurrent]
      decide
    unfold updateTimerPeriod at hfrom
    split_ifs at hfrom with _ htimer _ htimer
    all_goals subst hfrom
    · exact herror _ _ hresult htimer hready
    · refine hgoes _ _ hresult (by decide) ?_
      have hbefore : connection.rank = 6 := by simp [rank, hcurrent]
      rw [hbefore, rank_createPermission]
      · decide
      · rfl
      · -- no peer has a permission
        exact channelWithPermissionCount_reset connection.turnPeerList
    · exact herror _ _ hresult htimer hready
    · exact hstays _ _ hresult hcurrent (by decide)
    · exact hstays _ _ hresult hcurrent (by decide)

/-! ### A round -/

/-- Where a round ends: it keeps the state, or goes on in the order. -/
structure Advances (connection : TurnConnection) (result : Status × TurnConnection) : Prop where
  executed : result.2.state = result.2.currentState
  place_lt : result.2.state = connection.state ∨ connection.place < result.2.place

variable (hmac : List UInt8 → List UInt8 → Digest) (crc32 : List UInt8 → UInt32)

/-- What a packet from the server leaves alone. -/
structure Receives (a b : TurnConnection) : Prop where
  state : b.state = a.state
  currentState : b.currentState = a.currentState
  errorStatus : b.errorStatus = a.errorStatus
  stopTurnConnection : b.stopTurnConnection = a.stopTurnConnection
  shutdownComplete : b.shutdownComplete = a.shutdownComplete
  stateTimeoutTime : b.stateTimeoutTime = a.stateTimeoutTime
  turnPacket : b.turnPacket = a.turnPacket
  turnCreatePermissionPacket : b.turnCreatePermissionPacket = a.turnCreatePermissionPacket
  turnChannelBindPacket : b.turnChannelBindPacket = a.turnChannelBindPacket
  turnAllocationRefreshPacket : b.turnAllocationRefreshPacket = a.turnAllocationRefreshPacket

theorem Receives.refl (connection : TurnConnection) : Receives connection connection :=
  ⟨rfl, rfl, rfl, rfl, rfl, rfl, rfl, rfl, rfl, rfl⟩

theorem receives_turnConnectionAddPeer (connection : TurnConnection) (peerAddress : KvsIpAddress)
    (allocated : Bool) :
    Receives connection (connection.turnConnectionAddPeer peerAddress allocated).2 := by
  unfold turnConnectionAddPeer
  split_ifs <;> exact ⟨rfl, rfl, rfl, rfl, rfl, rfl, rfl, rfl, rfl, rfl⟩

theorem receives_turnConnectionHandleStun (connection : TurnConnection) (currentTime : Nat)
    (buffer : List UInt8) :
    Receives connection (connection.turnConnectionHandleStun hmac crc32 currentTime buffer).2 := by
  unfold turnConnectionHandleStun
  split_ifs
  · exact Receives.refl connection
  · exact Receives.refl connection
  · unfold handleAllocateSuccess
    split_ifs
    · exact Receives.refl connection
    · split
      · exact Receives.refl connection
      · split <;> exact ⟨rfl, rfl, rfl, rfl, rfl, rfl, rfl, rfl, rfl, rfl⟩
  · unfold handleRefreshSuccess
    split
    · exact Receives.refl connection
    · split <;> exact ⟨rfl, rfl, rfl, rfl, rfl, rfl, rfl, rfl, rfl, rfl⟩
  · exact ⟨rfl, rfl, rfl, rfl, rfl, rfl, rfl, rfl, rfl, rfl⟩
  · exact ⟨rfl, rfl, rfl, rfl, rfl, rfl, rfl, rfl, rfl, rfl⟩
  · exact Receives.refl connection

theorem receives_turnConnectionHandleStunError (connection : TurnConnection) (buffer : List UInt8) :
    Receives connection (connection.turnConnectionHandleStunError hmac crc32 buffer).2 := by
  unfold turnConnectionHandleStunError
  split_ifs
  · exact Receives.refl connection
  · exact Receives.refl connection
  · exact ⟨rfl, rfl, rfl, rfl, rfl, rfl, rfl, rfl, rfl, rfl⟩
  · split
    · exact Receives.refl connection
    · split
      · exact Receives.refl connection
      · unfold handleErrorCode
        split_ifs
        · split
          · exact Receives.refl connection
          · split <;> exact ⟨rfl, rfl, rfl, rfl, rfl, rfl, rfl, rfl, rfl, rfl⟩
        · split <;> exact ⟨rfl, rfl, rfl, rfl, rfl, rfl, rfl, rfl, rfl, rfl⟩
        · exact ⟨rfl, rfl, rfl, rfl, rfl, rfl, rfl, rfl, rfl, rfl⟩

/-- What other threads do leaves the machine alone, unless it is to fail. -/
theorem receive_frame (connection : TurnConnection) (message : TurnMessage) :
    (connection.receive hmac crc32 message).currentState = connection.currentState ∧
      (connection.receive hmac crc32 message).shutdownComplete = connection.shutdownComplete ∧
      ((connection.receive hmac crc32 message).state = connection.state ∨
        (connection.receive hmac crc32 message).state = .failed) := by
  cases message with
  | addPeer peerAddress allocated =>
    have h := receives_turnConnectionAddPeer connection peerAddress allocated
    exact ⟨h.currentState, h.shutdownComplete, .inl h.state⟩
  | stun currentTime buffer =>
    have h := receives_turnConnectionHandleStun hmac crc32 connection currentTime buffer
    exact ⟨h.currentState, h.shutdownComplete, .inl h.state⟩
  | stunError buffer =>
    have h := receives_turnConnectionHandleStunError hmac crc32 connection buffer
    exact ⟨h.currentState, h.shutdownComplete, .inl h.state⟩
  | shutdown => exact ⟨rfl, rfl, .inl rfl⟩
  | fatalError errorStatus => exact ⟨rfl, rfl, .inr rfl⟩

/-- A connection that has been put into the failed state stays in it while it is not locked. -/
theorem window_frame (messages : List TurnMessage) {connection : TurnConnection}
    (hstate : connection.state = .failed) :
    (messages.foldl (receive hmac crc32) connection).currentState = connection.currentState ∧
      (messages.foldl (receive hmac crc32) connection).shutdownComplete =
        connection.shutdownComplete ∧
      (messages.foldl (receive hmac crc32) connection).state = .failed := by
  induction messages generalizing connection with
  | nil => exact ⟨rfl, rfl, hstate⟩
  | cons message messages ih =>
    obtain ⟨hcurrent, hcomplete, hor⟩ := receive_frame hmac crc32 connection message
    obtain ⟨hcurrent', hcomplete', hstate'⟩ := ih (hor.elim (·.trans hstate) id)
    exact ⟨hcurrent'.trans hcurrent, hcomplete'.trans hcomplete, hstate'⟩

theorem place_eq {connection : TurnConnection} (h : connection.state = connection.currentState) :
    connection.place = 2 * connection.rank + 1 := by
  unfold place
  rw [if_pos h]

theorem place_le_of_lt {connection : TurnConnection} {n : Nat} (h : connection.rank < n) :
    connection.place < 2 * n := by
  unfold place
  split_ifs <;> omega

/-- The first step succeeds, and the connection is to be stopped. -/
theorem advances_stop {connection stepped : TurnConnection} {input : StepInput} {stopTime : Nat}
    (hnew : stepped.currentState ≠ .new) (hcleanUp : stepped.currentState ≠ .cleanUp)
    (hplace : connection.state = .cleanUp ∨
      connection.place ≤ 2 * { stepped with currentState := .cleanUp }.rank) :
    Advances connection ((stepped.stop stopTime).stepStateMachine input) := by
  have heq : (stepped.stop stopTime).stepStateMachine input =
      { stepped.stop stopTime with currentState := .cleanUp }.execute input .cleanUp :=
    stepStateMachine_cleanUp rfl hnew hcleanUp
  have hexecutes := executes_execute { stepped.stop stopTime with currentState := .cleanUp } input
    (by decide : TurnState.cleanUp ≠ .failed)
  rw [heq]
  have hcleaned := hexecutes.state_or.elim id id
  have hstate := hcleaned.trans hexecutes.same.currentState.symm
  refine ⟨hstate, hplace.imp (fun h => hcleaned.trans h.symm) fun hplace => ?_⟩
  have hrank := rank_congr hexecutes.same
  have hstop : { stepped.stop stopTime with currentState := .cleanUp }.rank =
      { stepped with currentState := .cleanUp }.rank := rank_congr ⟨rfl, rfl, rfl, rfl, rfl⟩
  rw [place_eq hstate, hrank, hstop]
  omega

theorem advances_fail {connection stepped : TurnConnection} {input : StepInput}
    {messages : List TurnMessage} {status : Status} (hnew : stepped.currentState ≠ .new)
    (hfailed : stepped.currentState ≠ .failed)
    (hplace : connection.state = .failed ∨
      connection.place ≤
        2 * { stepped with currentState := .failed, hasAllocation := false }.rank) :
    Advances connection
      ((messages.foldl (receive hmac crc32)
        (stepped.turnConnectionFatalError status)).stepStateMachine input) := by
  obtain ⟨hcurrent, hcomplete, hstate⟩ := window_frame hmac crc32 messages
    (rfl : (stepped.turnConnectionFatalError status).state = .failed)
  have hcurrent' := hcurrent.trans (rfl : _ = stepped.currentState)
  rw [stepStateMachine_failed hstate (hcurrent' ▸ hnew) (hcurrent' ▸ hfailed)]
  refine ⟨rfl, hplace.imp Eq.symm fun hplace => ?_⟩
  refine lt_of_lt_of_eq ?_ (place_eq rfl).symm
  have hrank : ({ messages.foldl (receive hmac crc32) (stepped.turnConnectionFatalError status) with
      currentState := .failed }.executeFailed).rank =
      { stepped with currentState := .failed, hasAllocation := false }.rank := by
    unfold rank executeFailed
    dsimp only
    rw [hcomplete]
    rfl
  rw [hrank]
  omega

/-- What the first step has to show for the round to go on in the order. -/
structure Continues (connection : TurnConnection) (input : RoundInput)
    (result : Status × TurnConnection) : Prop where
  ok : result.1.failed = false →
    result.2.state = result.2.currentState ∧ result.2.currentState ≠ .new
  fails : result.1.failed →
    result.2.state ≠ .failed ∧ result.2.currentState ≠ .new ∧ result.2.currentState ≠ .failed
  place_stop : result.1.failed = false → result.2.currentState ≠ .cleanUp →
    connection.state = .cleanUp ∨
      connection.place ≤
        2 * { result.2 with stopTurnConnection := true, currentState := .cleanUp }.rank
  place_fail : result.1.failed → connection.state = .failed ∨
    connection.place ≤ 2 * { result.2 with currentState := .failed, hasAllocation := false }.rank
  place_none : result.1.failed = false →
    result.2.currentState = .cleanUp ∨ (result.2.stopTurnConnection || input.stopped) = false →
      result.2.state = connection.state ∨ connection.place < (result.2.stopIf input.stopped).place

theorem advances_of_continues {connection : TurnConnection} {input : RoundInput}
    (h : Continues connection input (connection.stepStateMachine input.first)) :
    Advances connection (connection.stepTurnConnectionStateMachine hmac crc32 input) := by
  unfold stepTurnConnectionStateMachine forced firstStep
  obtain ⟨⟨status, stepped⟩, hstep⟩ : ∃ result, connection.stepStateMachine input.first = result :=
    ⟨_, rfl⟩
  rw [hstep] at h ⊢
  dsimp only
  split_ifs with hstop hfail
  · obtain ⟨rfl, hstopped, -, hcleanUp⟩ := hstop
    -- the step has succeeded, and a shutdown follows it
    obtain ⟨hstate, hnew⟩ := h.ok rfl
    have hne : stepped.currentState ≠ .cleanUp := fun heq => hcleanUp (hstate.trans heq)
    refine advances_stop ?_ ?_ ?_
    · exact hnew
    · exact hne
    · have hplace := h.place_stop rfl hne
      unfold stopIf at hstopped ⊢
      dsimp only at hstopped ⊢
      rw [hstopped]
      exact hplace
  · have hfailed := (Status.failed_eq_true_iff status).mpr hfail.1
    -- the step has failed, and the failed state is left in the same round
    obtain ⟨-, hnew, hne⟩ := h.fails hfailed
    refine advances_fail hmac crc32 ?_ ?_ ?_
    · exact hnew
    · exact hne
    · exact h.place_fail hfailed
  · -- the round ends after one step, which has succeeded
    have hok : status.failed = false := by
      cases hstatus : status.failed with
      | false => rfl
      | true => exact absurd ⟨(Status.failed_eq_true_iff status).mp hstatus,
        (h.fails hstatus).1⟩ hfail
    obtain ⟨hstate, hnew⟩ := h.ok hok
    refine ⟨hstate, h.place_none hok ?_⟩
    by_contra hnot
    rw [not_or] at hnot
    refine hstop ⟨(Status.failed_eq_false_iff status).mp hok, Bool.eq_true_of_not_eq_false hnot.2,
      ?_, ?_⟩
    · exact fun heq => hnew (hstate.symm.trans heq)
    · exact fun heq => hnot.1 (hstate.symm.trans heq)

theorem rank_le_of_isOpen {connection : TurnConnection} (h : connection.currentState.IsOpen) :
    connection.rank ≤ 7 := by
  unfold rank
  cases hcurrent : connection.currentState with
  | cleanUp => exact absurd hcurrent h.1
  | failed => exact absurd hcurrent h.2
  | createPermission =>
    dsimp only
    split_ifs <;> omega
  | _ => dsimp only; omega

theorem rank_cleanUp (connection : TurnConnection) :
    { connection with stopTurnConnection := true, currentState := .cleanUp }.rank =
      if connection.hasAllocation then 9 else if connection.shutdownComplete then 14 else 11 := by
  unfold rank
  cases connection.hasAllocation <;> cases connection.shutdownComplete <;> rfl

theorem rank_failed (connection : TurnConnection) :
    { connection with currentState := .failed, hasAllocation := false }.rank =
      if connection.shutdownComplete then 13 else 10 := by
  unfold rank
  cases connection.shutdownComplete <;> rfl

/-- A round from a state before the clean-up. -/
theorem continues_of_isOpen {connection : TurnConnection}
    (hexecuted : connection.state = connection.currentState)
    (hopen : connection.currentState.IsOpen) (input : RoundInput) :
    Continues connection input (connection.stepStateMachine input.first) := by
  obtain ⟨hcurrent, hstate, hok, hrank⟩ := stepsOpen_stepStateMachine hexecuted hopen input.first
  have hplace : connection.place < 16 :=
    place_le_of_lt (Nat.lt_succ_of_le (rank_le_of_isOpen hopen))
  refine ⟨?_, ?_, ?_, ?_, ?_⟩
  · exact fun h => ⟨hok h, hcurrent.2⟩
  · exact fun _ => ⟨hstate.2, hcurrent.2, hcurrent.1.2⟩
  · intro _ _
    right
    rw [rank_cleanUp]
    split_ifs <;> omega
  · intro _
    right
    rw [rank_failed]
    split_ifs <;> omega
  · intro h _
    refine (hrank h).imp (fun heq => (hok h).trans (heq.trans hexecuted.symm)) fun hlt => ?_
    rw [place_eq hexecuted]
    generalize hstepped : (connection.stepStateMachine input.first).2 = stepped at *
    have hsame : (stepped.stopIf input.stopped).rank = stepped.rank := by
      unfold rank stopIf
      cases hs : stepped.currentState with
      | cleanUp => exact absurd hs hcurrent.1.1
      | _ => rfl
    have hplaced := place_eq (show (stepped.stopIf input.stopped).state = _ from hok h)
    omega

/-- A round of a connection that has been put into the failed state. -/
theorem continues_of_failed {connection : TurnConnection} (hstate : connection.state = .failed)
    (hnew : connection.currentState ≠ .new) (hfailed : connection.currentState ≠ .failed)
    (input : RoundInput) :
    Continues connection input (connection.stepStateMachine input.first) := by
  rw [stepStateMachine_failed hstate hnew hfailed]
  refine ⟨fun _ => ⟨rfl, nofun⟩, nofun, ?_, fun _ => .inl hstate,
    fun _ _ => .inl hstate.symm⟩
  intro _ _
  right
  have hplace : connection.place = 2 * connection.rank := by
    unfold place
    rw [if_neg]
    · rfl
    · intro heq
      exact hfailed (heq.symm.trans hstate)
  rw [hplace, rank_cleanUp]
  show 2 * connection.rank ≤ 2 * if connection.shutdownComplete then 14 else 11
  by_cases hcleanUp : connection.currentState = .cleanUp
  · unfold rank
    rw [hcleanUp]
    dsimp only
    split_ifs <;> simp_all
  · have := rank_le_of_isOpen ⟨hcleanUp, hfailed⟩
    split_ifs <;> omega

/-- A round of a new connection that has been put into the failed state. -/
theorem continues_of_new {connection : TurnConnection} (hstate : connection.state = .failed)
    (hnew : connection.currentState = .new) (input : RoundInput) :
    Continues connection input (connection.stepStateMachine input.first) := by
  have hnext : connection.fromState input.first = (.ok .checkSocketConnection, connection) := by
    unfold fromState
    rw [hnew]
  have hsame := (executes_execute { connection with currentState := .checkSocketConnection }
    input.first (by decide : TurnState.checkSocketConnection ≠ .failed)).same.currentState
  have hchecked : ({ connection with currentState := .checkSocketConnection }.execute input.first
      .checkSocketConnection).2.state = .checkSocketConnection := by
    show (executeCheckSocketConnection _ input.first).2.state = _
    unfold executeCheckSocketConnection
    rw [if_pos (by rw [hstate]; decide)]
    apply chkStatus_cases (P := fun result => result.2.state = .checkSocketConnection)
    · exact fun _ => rfl
    · rfl
  rw [stepStateMachine_eq hnext]
  have hplace : connection.place = 0 := by
    unfold place rank
    rw [hstate, hnew]
    rfl
  refine ⟨?_, ?_, ?_, fun _ => .inl hstate, ?_⟩
  · intro _
    rw [hchecked, hsame]
    exact ⟨rfl, nofun⟩
  · intro _
    rw [hchecked, hsame]
    exact ⟨by decide, nofun, nofun⟩
  · intro _ _
    right
    rw [hplace]
    exact Nat.zero_le _
  · intro _ _
    right
    rw [hplace, place_eq (show (stopIf _ input.stopped).state = _ from hchecked.trans hsame.symm)]
    exact Nat.succ_pos _

theorem executeCleanUp_state (connection : TurnConnection) (input : StepInput) :
    (connection.executeCleanUp input).2.state = .cleanUp := by
  unfold executeCleanUp
  split_ifs
  · apply chkStatus_cases (P := fun result => result.2.state = .cleanUp)
    · exact fun _ => rfl
    · rfl
  · rfl

theorem continues_of_cleanUp {connection : TurnConnection} (hstate : connection.state = .cleanUp)
    (hcurrent : connection.currentState = .cleanUp) (input : RoundInput) :
    Continues connection input (connection.stepStateMachine input.first) := by
  have hplace : connection.place = 2 * connection.rank + 1 := place_eq (hstate.trans hcurrent.symm)
  -- cleaning up, whether or not the shutdown is complete
  have hclean : ∀ c : TurnConnection, c.hasAllocation = connection.hasAllocation →
      Continues connection input ({ c with
        currentState := .cleanUp }.execute input.first .cleanUp) := by
    intro c halloc
    obtain ⟨hsame, hok, hor⟩ := executes_execute { c with currentState := .cleanUp } input.first
      (by decide : TurnState.cleanUp ≠ .failed)
    have hafter := hsame.currentState
    have hcleaned := executeCleanUp_state { c with currentState := .cleanUp } input.first
    change ({ c with currentState := .cleanUp }.execute input.first .cleanUp).2.state =
      _ at hcleaned
    refine ⟨?_, ?_, ?_, ?_, ?_⟩
    · intro _
      rw [hcleaned, hafter]
      exact ⟨rfl, nofun⟩
    · intro _
      rw [hcleaned, hafter]
      exact ⟨by decide, nofun, nofun⟩
    · exact fun _ hne => absurd hafter hne
    · intro hfailed
      right
      have hallocated := executeCleanUp_failed
        (show (executeCleanUp { c with
        currentState := .cleanUp } input.first).1.failed from hfailed)
      change c.hasAllocation = true at hallocated
      rw [halloc] at hallocated
      have hrank : connection.rank = 9 := by
        unfold rank
        rw [hcurrent]
        exact if_pos hallocated
      rw [rank_failed]
      split_ifs <;> omega
    · exact fun _ _ => .inl (hcleaned.trans hstate.symm)
  obtain ⟨result, hresult⟩ : ∃ result, connection.fromState input.first = result := ⟨_, rfl⟩
  have hfrom := hresult
  unfold fromState at hfrom
  rw [hcurrent] at hfrom
  change connection.fromCleanUp input.first = result at hfrom
  unfold fromCleanUp at hfrom
  rw [hstate, if_neg (by decide)] at hfrom
  split_ifs at hfrom
  all_goals
    subst hfrom
    rw [stepStateMachine_eq hresult]
  · -- the shutdown is complete, and the connection fails
    refine ⟨fun _ => ⟨rfl, nofun⟩, nofun, fun _ _ => .inl hstate,
      nofun, ?_⟩
    intro _ hstopped
    right
    have hstop : connection.stopTurnConnection = false := by
      rcases hstopped with h | h
      · cases h
      · exact (Bool.or_eq_false_iff.mp h).1
    have hrank : connection.rank ≤ 12 := by
      unfold rank
      rw [hcurrent, hstop]
      show (if connection.hasAllocation then 9 else if connection.shutdownComplete = false then 11
        else if false then 14 else 12) ≤ 12
      cases connection.hasAllocation <;> cases connection.shutdownComplete <;> decide
    have hafter : (stopIf (executeFailed { connection.completeShutdown with
      currentState := .failed })
        input.stopped).place = 27 := rfl
    exact lt_of_lt_of_eq (by omega : connection.place < 27) hafter.symm
  · exact hclean connection.completeShutdown rfl
  · exact hclean connection rfl

theorem continues_of_current_failed {connection : TurnConnection}
    (hstate : connection.state = .failed) (hcurrent : connection.currentState = .failed)
    (input : RoundInput) :
    Continues connection input (connection.stepStateMachine input.first) := by
  have hplace : connection.place = 2 * connection.rank + 1 := place_eq (hstate.trans hcurrent.symm)
  -- a clean-up that is not complete
  have hclean : ∀ c : TurnConnection, c.hasAllocation = connection.hasAllocation →
      connection.shutdownComplete = false → c.shutdownComplete = connection.shutdownComplete →
        Continues connection input ({ c with
          currentState := .cleanUp }.execute input.first .cleanUp) := by
    intro c halloc hcomplete hsc
    obtain ⟨hsame, -, -⟩ := executes_execute { c with currentState := .cleanUp } input.first
      (by decide : TurnState.cleanUp ≠ .failed)
    have hafter := hsame.currentState
    have hcleaned := executeCleanUp_state { c with currentState := .cleanUp } input.first
    change ({ c with currentState := .cleanUp }.execute input.first .cleanUp).2.state =
      _ at hcleaned
    refine ⟨?_, ?_, ?_, fun _ => .inl hstate, ?_⟩
    · intro _
      rw [hcleaned, hafter]
      exact ⟨rfl, nofun⟩
    · intro _
      rw [hcleaned, hafter]
      exact ⟨by decide, nofun, nofun⟩
    · exact fun _ hne => absurd hafter hne
    · intro _ _
      right
      rw [hplace, place_eq (show (stopIf _ input.stopped).state =
        _ from hcleaned.trans hafter.symm)]
      have hrank : connection.rank = if connection.hasAllocation then 8 else 10 := by
        unfold rank
        rw [hcurrent, hcomplete]
        rfl
      have hlater : (stopIf ({ c with currentState := .cleanUp }.execute input.first .cleanUp).2
          input.stopped).rank = if connection.hasAllocation then 9 else 11 := by
        unfold rank stopIf
        rw [hafter, hsame.hasAllocation, hsame.shutdownComplete]
        dsimp only
        rw [halloc, hsc, hcomplete]
        rfl
      rw [hrank, hlater]
      split_ifs <;> omega
  obtain ⟨result, hresult⟩ : ∃ result, connection.fromState input.first = result := ⟨_, rfl⟩
  have hfrom := hresult
  unfold fromState at hfrom
  rw [hcurrent] at hfrom
  change connection.fromFailed input.first = result at hfrom
  unfold fromFailed at hfrom
  rw [hstate, if_neg (by decide)] at hfrom
  split_ifs at hfrom with hcomplete
  all_goals
    subst hfrom
    rw [stepStateMachine_eq hresult]
  · -- the clean-up is still to be done
    exact hclean { connection with
      stateTimeoutTime := input.first.currentTime + defaultTurnCleanUpTimeout } rfl hcomplete rfl
  · refine ⟨fun _ => ⟨rfl, nofun⟩, nofun, ?_, nofun,
      fun _ _ => .inl hstate.symm⟩
    intro _ _
    right
    rw [hplace, rank_cleanUp]
    have hrank : connection.rank = 13 := by
      unfold rank
      rw [hcurrent]
      exact if_pos (Bool.eq_true_of_not_eq_false hcomplete)
    rw [hrank]
    show 27 ≤ 2 * if connection.shutdownComplete then 14 else 11
    rw [if_pos (Bool.eq_true_of_not_eq_false hcomplete)]
    decide

/-- **Every round** goes on in the order, or keeps the state. -/
theorem advances_stepTurnConnectionStateMachine {connection : TurnConnection}
    (h : connection.Settled) (input : RoundInput) :
    Advances connection (connection.stepTurnConnectionStateMachine hmac crc32 input) := by
  apply advances_of_continues
  by_cases hfailed : connection.currentState = .failed
  · exact continues_of_current_failed (h.elim (·.trans hfailed) id) hfailed input
  · rcases h with hexecuted | hstate
    · by_cases hcleanUp : connection.currentState = .cleanUp
      · exact continues_of_cleanUp (hexecuted.trans hcleanUp) hcleanUp input
      · exact continues_of_isOpen hexecuted ⟨hcleanUp, hfailed⟩ input
    · by_cases hnew : connection.currentState = .new
      · exact continues_of_new hstate hnew input
      · exact continues_of_failed hstate hnew hfailed input

/-! ### Runs -/

/-- What may change about a connection besides the events: anything but its states. -/
def disturb (connection other : TurnConnection) : TurnConnection :=
  { other with state := connection.state, currentState := connection.currentState }

theorem Settled.step {connection : TurnConnection} (h : connection.Settled) (event : TurnEvent) :
    (connection.step hmac crc32 event).Settled := by
  cases event with
  | timer input => exact .inl (advances_stepTurnConnectionStateMachine hmac crc32 h input).executed
  | message message =>
    obtain ⟨hcurrent, -, hstate⟩ := receive_frame hmac crc32 connection message
    rcases hstate with hstate | hstate
    · refine h.imp (fun h => ?_) hstate.trans
      show (connection.receive hmac crc32 message).state =
          (connection.receive hmac crc32 message).currentState
      rw [hstate, hcurrent, h]
    · exact .inr hstate

theorem Settled.run {connection : TurnConnection} (h : connection.Settled)
    (events : List TurnEvent) :
    (connection.run hmac crc32 events).Settled := by
  induction events generalizing connection with
  | nil => exact h
  | cons event events ih => exact ih (h.step hmac crc32 event)

end TurnConnection

open TurnConnection in
/-- **The state machine of a TURN connection**, after any run, whatever else has become of the
connection since.  In a round every state that is proposed accepts the current one, and a call of
`stepTurnConnectionStateMachine` ends, whatever its rounds read. -/
theorem stepTurnConnectionStateMachine_ends (hmac : List UInt8 → List UInt8 → Digest)
    (crc32 : List UInt8 → UInt32) (events : List TurnEvent) (other : TurnConnection) :
    let connection := (createTurnConnection.run hmac crc32 events).disturb other
    (∀ input, ∀ proposal ∈ connection.proposals hmac crc32 input, proposal.2.accepts proposal.1) ∧
    (∀ inputs, (connection.stepLoop hmac crc32 inputs 30).isSome) := by
  intro connection
  have hsettled : connection.Settled :=
    (Settled.run hmac crc32 (.inl rfl : createTurnConnection.Settled) events)
  constructor
  · exact fun input proposal hmem => accepts_of_mem_proposals hmac crc32 connection input hmem
  · intro inputs
    have hround : ∀ (s : Status × TurnConnection) (input : RoundInput), s.2.Settled →
        (s.2.stepTurnConnectionStateMachine hmac crc32 input).2.Settled :=
      fun s input hs => .inl (advances_stepTurnConnectionStateMachine hmac crc32 hs input).executed
    have hplace : ∀ (s : Status × TurnConnection) (input : RoundInput), s.2.Settled →
        stateChanged s (s.2.stepTurnConnectionStateMachine hmac crc32 input) →
          s.2.place < (s.2.stepTurnConnectionStateMachine hmac crc32 input).2.place := by
      intro s input hs hchanged
      refine (advances_stepTurnConnectionStateMachine hmac crc32 hs input).place_lt.resolve_left ?_
      intro hsame
      simp [stateChanged, hsame] at hchanged
    have hbound : ∀ s : Status × TurnConnection, s.2.Settled → s.2.place ≤ 29 := by
      intro s _
      have hrank := rank_le s.2
      unfold place
      split_ifs <;> omega
    exact doWhile_isSome (r := fun s => s.2.place) hround hplace hbound hsettled (by omega)

end KvsWebrtc.Turn
