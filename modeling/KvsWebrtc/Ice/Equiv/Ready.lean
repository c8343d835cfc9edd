import KvsWebrtc.Ice.Equiv.Selected

/-!
# The selected pair of an agent that is ready

Between two rounds of the state timer the agent is at rest: it has executed the state it is in
(`AtRest`).  `stepStateMachine_follows` says what a step makes of an agent at rest; from it, every
round keeps the session, and an agent that has been ready keeps its pair (`selected_pair_along`).
-/

namespace KvsWebrtc.Ice

open Stun

namespace IceAgent

variable {ok : Nat → Prop} {agent : IceAgent}

/-! ### A step of the state machine -/

/-- The current state has been executed. -/
structure AtRest (agent : IceAgent) : Prop where
  executed : agent.iceAgentState = agent.currentState
  connected : agent.currentState ≠ .disconnected

def entering (agent : IceAgent) (next : IceAgentState) (status : Status) : IceAgent :=
  { agent with iceAgentStatus := status, currentState := next }

def Follows (agent : IceAgent) (next : IceAgentState) : Prop :=
  match agent.currentState with
  | .new => next = .checkConnection
  | .checkConnection => next = .checkConnection ∨ next = .connected ∨ next = .failed
  | .connected => next = .nominating ∨ next = .failed
  | .nominating =>
    next = .nominating ∨
      (next = .ready ∧ agent.iceCandidatePairs.any agent.isNominatedAndValid) ∨ next = .failed
  | .ready => next = .ready ∨ next = .failed
  | .disconnected => False
  | .failed => next = .failed

theorem enter_eq {input : StepInput} {next : IceAgentState} {status : Status}
    (h : agent.fromState input = (next, status)) (haccepts : next.accepts agent.currentState)
    (run : IceAgent → IceAgentState → IceAgent) :
    agent.enter input run = run (agent.entering next status) next := by
  unfold enter
  rw [h]
  exact if_pos haccepts

/-- The next state accepts the current one, and follows it unless the connectivity is lost. -/
theorem fromState_follows (h : agent.AtRest) {input : StepInput} {next : IceAgentState}
    {status : Status} (hnext : agent.fromState input = (next, status)) :
    next.accepts agent.currentState ∧
      ((agent.Follows next ∧ next ≠ .disconnected) ∨
        agent.currentState = .ready ∧ next = .disconnected ∧ status.failed = false) := by
  have hconnected := h.connected
  unfold fromState at hnext
  unfold Follows
  cases hcurrent : agent.currentState with
  | disconnected => exact absurd hcurrent hconnected
  | _ =>
    simp only [hcurrent] at hnext ⊢
    repeat' split at hnext
    all_goals
      obtain ⟨rfl, rfl⟩ := Prod.mk.inj hnext
      simp_all [IceAgentState.accepts]

/-- **One step** of an agent at rest enters and executes one of the states that follow. -/
theorem stepStateMachine_follows (h : agent.AtRest) (input : StepInput) :
    ∃ next status, agent.Follows next ∧
      agent.stepStateMachine input = (agent.entering next status).execute input next := by
  obtain ⟨⟨next, status⟩, hnext⟩ : ∃ result, agent.fromState input = result := ⟨_, rfl⟩
  obtain ⟨haccepts, ⟨hfollows, hconnected⟩ | ⟨hready, rfl, hstatus⟩⟩ := fromState_follows h hnext
  · refine ⟨next, status, hfollows, ?_⟩
    unfold stepStateMachine
    rw [enter_eq hnext haccepts, if_neg hconnected]
  · -- the disconnected state is left for the ready one
    have hback : (agent.entering .disconnected status).fromState input = (.ready, status) := by
      show (if status.failed then _ else (agent.iceAgentState, status)) = _
      rw [hstatus, h.executed, hready]
      rfl
    refine ⟨.ready, status, ?_, ?_⟩
    · unfold Follows
      rw [hready]
      exact .inl rfl
    · unfold stepStateMachine
      rw [enter_eq hnext haccepts, if_pos rfl, enter_eq hback rfl]
      rfl

theorem stepStateMachine_failed (hstatus : agent.iceAgentStatus.failed)
    (hcurrent : agent.currentState ≠ .new) (input : StepInput) :
    agent.stepStateMachine input =
      { agent with iceAgentState := .failed, currentState := .failed } := by
  have hnext : agent.fromState input = (.failed, agent.iceAgentStatus) := by
    unfold fromState
    split <;> simp_all
  have haccepts : IceAgentState.failed.accepts agent.currentState := by
    simpa [IceAgentState.accepts] using hcurrent
  unfold stepStateMachine
  rw [enter_eq hnext haccepts, if_neg (by decide)]
  rfl

/-! ### Executing the states -/

/-- The session after a state has been executed, and that this is the current one. -/
def Executed (ok : Nat → Prop) (state : IceAgentState) (agent : IceAgent) : Prop :=
  Session ok agent ∧ agent.currentState = state ∧ agent.iceAgentState = state

theorem Executed.of_keeps {a b : IceAgent} {state : IceAgentState} (h : Executed ok state a)
    (hmoves : Moves noGuards a b) (hkeeps : Keeps ok a b) : Executed ok state b := by
  obtain ⟨hsession, hcurrent, hexecuted⟩ := h
  exact ⟨hsession.of_keeps hmoves hkeeps, hkeeps.session.currentState.trans hcurrent,
    hkeeps.session.iceAgentState.trans hexecuted⟩

theorem Session.entering (h : Session ok agent) (next : IceAgentState) (status : Status) :
    Selection ok (agent.entering next status) :=
  h.selection.recast ⟨rfl, rfl, rfl, rfl, rfl, rfl⟩ rfl rfl

theorem checkConnectionStateSetup_frame (agent : IceAgent) :
    ∃ pair, agent.checkConnectionStateSetup = { agent with pair := pair } ∧
      ∀ q, (pair q).localCandidate = (agent.pair q).localCandidate := by
  let wait : IceCandidatePair → IceCandidatePair := fun pair => { pair with state := .waiting }
  have hwait : ∀ pair, wait (wait pair) = wait pair := fun _ => rfl
  refine ⟨(agent.modifyPairs wait agent.iceCandidatePairs).pair, modifyPairs_frame agent wait _, ?_⟩
  intro q
  rw [pair_modifyPairs hwait]
  split_ifs <;> rfl

/-- The data sending pair, if there is one, is not in the list: it is one from before a restart. -/
def SelectsOld (agent : IceAgent) : Prop :=
  ∀ p, agent.dataSendingIceCandidatePair = some p → p ∉ agent.iceCandidatePairs

theorem Selection.executeCheckConnection (h : Selection ok agent) (hold : agent.SelectsOld)
    (hcurrent : agent.currentState = .checkConnection) {input : StepInput}
    (hsent : ∀ p, ok (agent.pair p).localCandidate → input.sent p = .ok) :
    Executed ok .checkConnection (agent.executeCheckConnection input) := by
  -- the checks of an agent that is set up
  have hcheck : ∀ {a : IceAgent}, Selection ok a → a.SelectsOld →
      a.currentState = .checkConnection →
      a.iceAgentState = .checkConnection → (∀ p, ok (a.pair p).localCandidate →
        input.sent p = .ok) →
        Executed ok .checkConnection (a.checkCandidatePairConnection input.sent) := by
    intro a h hold hcurrent hexecuted hsent
    have hphase : a.Phase ok := by
      unfold Phase
      rw [hcurrent]
      exact hold
    exact Executed.of_keeps ⟨⟨h, hphase⟩, hcurrent, hexecuted⟩
      (Moves.checkCandidatePairConnection trivial _ _)
      (Keeps.checkCandidatePairConnection h.served hsent)
  unfold IceAgent.executeCheckConnection
  dsimp only
  split_ifs with hstate
  · obtain ⟨pair, hframe, hlocal⟩ := checkConnectionStateSetup_frame agent
    have hsetUp := h.checkConnectionStateSetup hold
    rw [hframe] at hsetUp ⊢
    refine hcheck ?_ hold hcurrent rfl ?_
    · exact hsetUp.recast ⟨rfl, rfl, rfl, rfl, rfl, rfl⟩ rfl rfl
    · exact fun p hok => hsent p (hlocal p ▸ hok)
  · exact hcheck h hold hcurrent (not_not.mp hstate) hsent

theorem connectedStateSetup_currentState (agent : IceAgent) :
    agent.connectedStateSetup.currentState = agent.currentState := by
  unfold IceAgent.connectedStateSetup freeLastDataSendingPair
  dsimp only
  split <;> split <;> rfl

theorem Selection.executeConnected (h : Selection ok agent) (hold : agent.SelectsOld)
    (hcurrent : agent.currentState = .connected) :
    Executed ok .connected agent.executeConnected := by
  obtain ⟨hselection, hselects⟩ := h.connectedStateSetup hold
  have hcurrent' := (connectedStateSetup_currentState agent).trans hcurrent
  refine ⟨⟨hselection.recast ⟨rfl, rfl, rfl, rfl, rfl, rfl⟩ rfl rfl, ?_⟩, hcurrent', rfl⟩
  unfold Phase IceAgent.executeConnected
  rw [hcurrent']
  exact hselects

/-- The requests that nominate a pair, or that check the pairs while the peer nominates. -/
theorem Selection.sendNomination (h : Selection ok agent) (hselects : agent.SelectsNominated)
    (hcurrent : agent.currentState = .nominating) (hexecuted : agent.iceAgentState = .nominating)
    {input : StepInput} (hsent : ∀ p, ok (agent.pair p).localCandidate → input.sent p = .ok) :
    Executed ok .nominating
      (if agent.isControlling then agent.sendCandidateNomination input.sent
        else agent.checkCandidatePairConnection input.sent) := by
  have hphase : agent.Phase ok := by
    unfold Phase
    rw [hcurrent]
    exact hselects
  have hsession : Executed ok .nominating agent := ⟨⟨h, hphase⟩, hcurrent, hexecuted⟩
  split_ifs
  · exact hsession.of_keeps (Moves.sendCandidateNomination trivial _ _)
      (Keeps.sendCandidateNomination h.served hsent)
  · exact hsession.of_keeps (Moves.checkCandidatePairConnection trivial _ _)
      (Keeps.checkCandidatePairConnection h.served hsent)

/-- A set-up has failed, and the next step fails the agent. -/
def Stuck (ok : Nat → Prop) (agent : IceAgent) : Prop :=
  Selection ok agent ∧ agent.currentState ≠ .new ∧ agent.iceAgentState ≠ .failed ∧
    agent.iceAgentStatus.failed

theorem nominateCandidatePair_error {e : Status} (h : agent.nominateCandidatePair = .error e) :
    e.failed := by
  unfold nominateCandidatePair at h
  split_ifs at h
  · cases h
    rfl
  · split at h
    · cases h
      rfl
    · cases h

theorem Selection.executeNominating (h : Selection ok agent) (hselects : agent.SelectsNominated)
    (hcurrent : agent.currentState = .nominating) (hfailed : agent.iceAgentState ≠ .failed)
    {input : StepInput} (hsent : ∀ p, ok (agent.pair p).localCandidate → input.sent p = .ok) :
    Executed ok .nominating (agent.executeNominating input) ∨
      Stuck ok (agent.executeNominating input) := by
  unfold IceAgent.executeNominating
  split_ifs with hstate
  · cases hnominate : agent.nominatingStateSetup with
    | error e =>
      right
      refine ⟨h.recast ⟨rfl, rfl, rfl, rfl, rfl, rfl⟩ rfl rfl, ?_, hfailed, ?_⟩
      · show agent.currentState ≠ .new
        rw [hcurrent]
        exact fun hnew => nomatch hnew
      · unfold nominatingStateSetup at hnominate
        split_ifs at hnominate
        exact nominateCandidatePair_error hnominate
    | ok b =>
      left
      unfold nominatingStateSetup at hnominate
      split_ifs at hnominate with hcontrolling
      · obtain ⟨hselection, hselects', hlocal, hsession⟩ :=
          h.nominateCandidatePair hselects hcontrolling hnominate
        apply Selection.sendNomination
        · exact hselection.recast ⟨rfl, rfl, rfl, rfl, rfl, rfl⟩ rfl rfl
        · exact hselects'
        · exact hsession.currentState.trans hcurrent
        · rfl
        · exact fun p hok => hsent p (hlocal p ▸ hok)
      · obtain rfl := Except.ok.inj hnominate
        apply Selection.sendNomination
        · exact h.recast ⟨rfl, rfl, rfl, rfl, rfl, rfl⟩ rfl rfl
        · exact hselects
        · exact hcurrent
        · rfl
        · exact hsent
  · exact .inl (h.sendNomination hselects hcurrent (not_not.mp hstate) hsent)

/-- The pair that the data is sent on, where it is in the list if its candidate is `ok`. -/
def Selects (ok : Nat → Prop) (agent : IceAgent) : Prop :=
  ∃ p, agent.dataSendingIceCandidatePair = some p ∧
    (ok (agent.pair p).localCandidate →
      p ∈ agent.iceCandidatePairs ∧ (agent.pair p).nominated = true)

/-- Setting up the ready state, where a pair has been nominated and has succeeded. -/
theorem Selection.readyStateSetup (h : Selection ok agent) (hselects : agent.SelectsNominated)
    (hvalid : agent.iceCandidatePairs.any agent.isNominatedAndValid) :
    ∃ b, agent.readyStateSetup = .ok b ∧ Selection ok b ∧ Selects ok b ∧
      b.currentState = agent.currentState := by
  have hfree : ∀ {a : IceAgent} {p : Nat}, Selection ok a → a.dataSendingIceCandidatePair = some p →
      p ∈ a.iceCandidatePairs → (a.pair p).nominated = true →
        Selection ok (a.freeNotSelected p) ∧ Selects ok (a.freeNotSelected p) ∧
          (a.freeNotSelected p).currentState = a.currentState := by
    intro a p h hselected hp hnominated
    obtain ⟨hselection, hsending, hmem⟩ := h.freeNotSelected hselected hp hnominated
    refine ⟨hselection, ⟨p, hsending, hmem⟩, ?_⟩
    obtain ⟨candidate, pair, heq, -⟩ := freeNotSelected_frame a p
    rw [heq]
    rfl
  unfold IceAgent.readyStateSetup
  split
  · next p hp =>
    obtain ⟨hmem, hnominated⟩ := hselects p hp
    exact ⟨_, rfl, hfree h hp hmem hnominated⟩
  · split
    · next hnone =>
      obtain ⟨p, hp, hnominated⟩ := List.any_eq_true.mp hvalid
      exact absurd hnominated (List.find?_eq_none.mp hnone p hp)
    · next p hp =>
      have hmem := List.mem_of_find?_eq_some hp
      have hnominated := List.find?_some hp
      refine ⟨_, rfl, ?_⟩
      exact hfree (h.select hmem hnominated) rfl hmem (isNominatedAndValid_iff.mp hnominated).1

theorem executeReady_of_ready (hexecuted : agent.iceAgentState = .ready) (input : StepInput) :
    agent.executeReady input =
      agent.freeTurnConnections input.turnConnectionIsShutdownComplete := by
  unfold IceAgent.executeReady
  rw [if_neg (not_not.mpr hexecuted)]

theorem Selection.executeReady_freeTurnConnections (h : Selection ok agent)
    (hselects : Selects ok agent) (hcurrent : agent.currentState = .ready)
    (hexecuted : agent.iceAgentState = .ready) {shutdownComplete : Nat → Bool}
    (hshutdown : ∀ c, ok c → shutdownComplete c = false) :
    Executed ok .ready (agent.freeTurnConnections shutdownComplete) := by
  refine ⟨⟨h.freeTurnConnections hshutdown, ?_⟩, hcurrent, hexecuted⟩
  unfold Phase IceAgent.freeTurnConnections
  rw [hcurrent]
  exact hselects

theorem Selection.executeReady (h : Selection ok agent) (hselects : agent.SelectsNominated)
    (hvalid : agent.iceCandidatePairs.any agent.isNominatedAndValid)
    (hcurrent : agent.currentState = .ready) (hstate : agent.iceAgentState ≠ .ready)
    {input : StepInput} (hshutdown : ∀ c, ok c → input.turnConnectionIsShutdownComplete c = false) :
    Executed ok .ready (agent.executeReady input) := by
  obtain ⟨b, hsetUp, hselection, hselected, hcurrent'⟩ := h.readyStateSetup hselects hvalid
  unfold IceAgent.executeReady
  rw [if_pos hstate, hsetUp]
  apply Selection.executeReady_freeTurnConnections
  · exact hselection.recast ⟨rfl, rfl, rfl, rfl, rfl, rfl⟩ rfl rfl
  · exact hselected
  · exact hcurrent'.trans hcurrent
  · rfl
  · exact hshutdown

/-- **A step of an agent at rest** keeps the session, unless it is stuck. -/
theorem Session.stepStateMachine (h : Session ok agent) (hrest : agent.AtRest) {input : StepInput}
    (hevent : agent.Undisturbed ok (.stateTimer input)) :
    (∃ state, Executed ok state (agent.stepStateMachine input) ∧ state ≠ .new ∧
      state ≠ .disconnected) ∨
      Stuck ok (agent.stepStateMachine input) := by
  obtain ⟨hsent, hshutdown⟩ := hevent
  obtain ⟨next, status, hfollows, heq⟩ := stepStateMachine_follows hrest input
  have hphase := h.phase
  have hexecuted := hrest.executed
  have henter := h.entering next status
  rw [heq]
  -- the failed state has no action, so it can be entered from any state
  have hfail : next = .failed → Executed ok .failed
      ((agent.entering next status).execute input next) := by
    rintro rfl
    exact ⟨⟨henter.recast ⟨rfl, rfl, rfl, rfl, rfl, rfl⟩ rfl rfl, trivial⟩, rfl, rfl⟩
  unfold Follows at hfollows
  unfold Phase at hphase
  cases hcurrent : agent.currentState with
  | new =>
    simp only [hcurrent] at hfollows hphase
    subst hfollows
    exact .inl ⟨_, henter.executeCheckConnection hphase rfl hsent, by decide, by decide⟩
  | checkConnection =>
    simp only [hcurrent] at hfollows hphase
    rcases hfollows with rfl | rfl | hfailed
    · exact .inl ⟨_, henter.executeCheckConnection hphase rfl hsent, by decide, by decide⟩
    · exact .inl ⟨_, henter.executeConnected hphase rfl, by decide, by decide⟩
    · exact .inl ⟨_, hfail hfailed, by decide, by decide⟩
  | connected =>
    simp only [hcurrent] at hfollows hphase hexecuted
    rcases hfollows with rfl | hfailed
    · have hnot : agent.iceAgentState ≠ .failed := by
        rw [hexecuted]
        decide
      rcases henter.executeNominating hphase rfl hnot hsent with h | h
      · exact .inl ⟨_, h, by decide, by decide⟩
      · exact .inr h
    · exact .inl ⟨_, hfail hfailed, by decide, by decide⟩
  | nominating =>
    simp only [hcurrent] at hfollows hphase hexecuted
    rcases hfollows with rfl | ⟨rfl, hvalid⟩ | hfailed
    · have hnot : agent.iceAgentState ≠ .failed := by
        rw [hexecuted]
        decide
      rcases henter.executeNominating hphase rfl hnot hsent with h | h
      · exact .inl ⟨_, h, by decide, by decide⟩
      · exact .inr h
    · have hnot : agent.iceAgentState ≠ .ready := by
        rw [hexecuted]
        decide
      exact .inl ⟨_, henter.executeReady hphase hvalid rfl hnot hshutdown, by decide, by decide⟩
    · exact .inl ⟨_, hfail hfailed, by decide, by decide⟩
  | ready =>
    simp only [hcurrent] at hfollows hphase hexecuted
    rcases hfollows with rfl | hfailed
    · left
      refine ⟨.ready, ?_, by decide, by decide⟩
      show Executed ok .ready ((agent.entering .ready status).executeReady input)
      have hready : (agent.entering .ready status).iceAgentState = .ready := hexecuted
      rw [executeReady_of_ready hready]
      exact henter.executeReady_freeTurnConnections hphase rfl hexecuted hshutdown
    · exact .inl ⟨_, hfail hfailed, by decide, by decide⟩
  | disconnected => exact absurd hcurrent hrest.connected
  | failed =>
    simp only [hcurrent] at hfollows
    exact .inl ⟨_, hfail hfollows, by decide, by decide⟩

theorem Selection.failed (h : Selection ok agent) :
    Session ok { agent with iceAgentState := .failed, currentState := .failed } :=
  ⟨h.recast ⟨rfl, rfl, rfl, rfl, rfl, rfl⟩ rfl rfl, trivial⟩

/-- **A round of the state timer** keeps the session of an agent at rest, and ends at rest. -/
theorem Session.stepIceAgentStateMachine (h : Session ok agent) (hrest : agent.AtRest)
    {input : StepInput} (hevent : agent.Undisturbed ok (.stateTimer input)) :
    Session ok (agent.stepIceAgentStateMachine input) ∧
      (agent.stepIceAgentStateMachine input).AtRest := by
  unfold IceAgent.stepIceAgentStateMachine
  rcases h.stepStateMachine hrest hevent with
    ⟨state, ⟨hsession, hcurrent, hexecuted⟩, hnew, hconnected⟩ | ⟨hselection, hnew, hnot, hstatus⟩
  · dsimp only
    split_ifs with hfail
    · rw [stepStateMachine_failed hfail.2 (hcurrent ▸ hnew)]
      exact ⟨hsession.selection.failed, rfl, fun hconnected => nomatch hconnected⟩
    · exact ⟨hsession, hexecuted.trans hcurrent.symm, hcurrent ▸ hconnected⟩
  · dsimp only
    rw [if_pos ⟨hnot, hstatus⟩, stepStateMachine_failed hstatus hnew]
    exact ⟨hselection.failed, rfl, fun hconnected => nomatch hconnected⟩

/-- A restart empties the lists and keeps the data sending pair. -/
theorem Session.restartAgent (h : Session ok agent) (hrest : agent.AtRest)
    (localIcePwd : List UInt8) :
    Session ok (agent.restartAgent localIcePwd) ∧ (agent.restartAgent localIcePwd).AtRest := by
  obtain ⟨hwf, hsockets⟩ := h.selection.served.wellFormed_and_sockets
    (Moves.restartAgent trivial trivial agent localIcePwd)
  unfold IceAgent.restartAgent at hwf hsockets ⊢
  split_ifs at hwf hsockets ⊢
  · exact ⟨h, hrest⟩
  · refine ⟨⟨⟨⟨hwf, hsockets, ?_⟩, ?_, h.selection.sending_lt, ?_, ?_⟩, ?_⟩, rfl, ?_⟩
    · exact fun p hp => absurd hp List.not_mem_nil
    · exact fun p hp => absurd hp List.not_mem_nil
    · intro p hp
      rcases List.mem_append.mp hp with hp | hp
      · exact h.selection.freed_lt p hp
      · exact h.selection.served.wellFormed.pairs_lt p (List.mem_of_mem_filter hp)
    · exact fun p hp => absurd hp List.not_mem_nil
    · exact fun p _ => List.not_mem_nil
    · exact fun hconnected => nomatch hconnected

/-- **One event** keeps the session of an agent at rest. -/
theorem Session.step (h : Session ok agent) (hrest : agent.AtRest) (platform : Platform)
    {event : IceEvent} (hprune : event ≠ .prune) (hevent : agent.Undisturbed ok event) :
    Session ok (agent.step platform event) ∧ (agent.step platform event).AtRest := by
  by_cases hplain : event.IsPlain
  · have hkeeps := Keeps.step h.selection.served platform hplain hevent
    obtain ⟨-, -, hexecuted, hcurrent⟩ := hkeeps.session
    refine ⟨h.of_keeps (noGuards_admits platform agent event).moves hkeeps, ?_, ?_⟩
    · rw [hexecuted, hcurrent]
      exact hrest.executed
    · rw [hcurrent]
      exact hrest.connected
  · cases event with
    | stateTimer input => exact h.stepIceAgentStateMachine hrest hevent
    | restartAgent localIcePwd => exact h.restartAgent hrest localIcePwd
    | prune => exact absurd rfl hprune
    | _ => exact absurd trivial hplain

/-! ### Once the agent has been ready -/

/-- The agent has been ready, and sends its data on the pair `p` of the candidate `c`, which is in
the list if it was (`listed`). -/
structure Selected (ok : Nat → Prop) (listed : Prop) (p c : Nat) (agent : IceAgent) : Prop where
  selection : Selection ok agent
  executed : agent.iceAgentState = agent.currentState
  ready : agent.currentState = .ready ∨ agent.currentState = .failed
  sending : agent.dataSendingIceCandidatePair = some p
  localOf : (agent.pair p).localCandidate = c
  member : listed → p ∈ agent.iceCandidatePairs ∧ (agent.pair p).nominated = true

variable {listed : Prop} {p c : Nat}

theorem Selected.of_keeps {a b : IceAgent} (h : Selected ok listed p c a)
    (hmoves : Moves noGuards a b) (hkeeps : Keeps ok a b) : Selected ok listed p c b := by
  obtain ⟨hsending, -, hexecuted, hcurrent⟩ := hkeeps.session
  have hlt := h.selection.sending_lt p h.sending
  refine ⟨h.selection.of_keeps hmoves hkeeps, ?_, ?_, ?_, ?_, ?_⟩
  · rw [hexecuted, hcurrent]
    exact h.executed
  · rw [hcurrent]
    exact h.ready
  · rw [hsending]
    exact h.sending
  · rw [hkeeps.localOf p hlt]
    exact h.localOf
  · intro hlisted
    obtain ⟨hp, hnominated⟩ := h.member hlisted
    exact ⟨hkeeps.mem p hp, hkeeps.nominated p hlt hnominated⟩

theorem Selected.failed (h : Selected ok listed p c agent) (status : Status) :
    Selected ok listed p c
      { agent with iceAgentStatus := status, iceAgentState := .failed, currentState := .failed } :=
  ⟨h.selection.recast ⟨rfl, rfl, rfl, rfl, rfl, rfl⟩ rfl rfl, rfl, .inr rfl, h.sending, h.localOf,
  h.member⟩

/-- An agent that has been ready stays so or fails. -/
theorem Selected.stepStateMachine (h : Selected ok listed p c agent) {input : StepInput}
    (hshutdown : ∀ c, ok c → input.turnConnectionIsShutdownComplete c = false) :
    Selected ok listed p c (agent.stepStateMachine input) := by
  have hrest : agent.AtRest := by
    refine ⟨h.executed, fun hconnected => ?_⟩
    rcases h.ready with hready | hfailed
    · exact nomatch hready.symm.trans hconnected
    · exact nomatch hfailed.symm.trans hconnected
  obtain ⟨next, status, hfollows, heq⟩ := stepStateMachine_follows hrest input
  have hnext : next = .failed ∨ (next = .ready ∧ agent.currentState = .ready) := by
    unfold Follows at hfollows
    rcases h.ready with hready | hfailed
    · simp only [hready] at hfollows
      rcases hfollows with rfl | rfl
      · exact .inr ⟨rfl, hready⟩
      · exact .inl rfl
    · simp only [hfailed] at hfollows
      exact .inl hfollows
  rw [heq]
  rcases hnext with rfl | ⟨rfl, hready⟩
  · exact h.failed status
  · have hexecuted : (agent.entering .ready status).iceAgentState = .ready :=
      h.executed.trans hready
    show Selected ok listed p c ((agent.entering .ready status).executeReady input)
    rw [executeReady_of_ready hexecuted]
    have hselection : Selection ok (agent.entering .ready status) :=
      h.selection.recast ⟨rfl, rfl, rfl, rfl, rfl, rfl⟩ rfl rfl
    exact ⟨hselection.freeTurnConnections hshutdown, hexecuted, .inl rfl, h.sending, h.localOf,
      h.member⟩

theorem Selected.step (h : Selected ok listed p c agent) (platform : Platform) {event : IceEvent}
    (hprune : event ≠ .prune) (hrestart : ∀ localIcePwd, event ≠ .restartAgent localIcePwd)
    (hevent : agent.Undisturbed ok event) : Selected ok listed p c (agent.step platform event) := by
  by_cases hplain : event.IsPlain
  · exact h.of_keeps (noGuards_admits platform agent event).moves
      (Keeps.step h.selection.served platform hplain hevent)
  · cases event with
    | stateTimer input =>
      show Selected ok listed p c (agent.stepIceAgentStateMachine input)
      have hstep := h.stepStateMachine hevent.2
      unfold IceAgent.stepIceAgentStateMachine
      dsimp only
      split_ifs
      · exact hstep.stepStateMachine hevent.2
      · exact hstep
    | restartAgent localIcePwd => exact absurd rfl (hrestart localIcePwd)
    | prune => exact absurd rfl hprune
    | _ => exact absurd trivial hplain

/-! ### Runs -/

/-- The session holds along every run in which the candidates stay undisturbed. -/
theorem Session.run (platform : Platform) {events : List IceEvent}
    (hprune : IceEvent.prune ∉ events)
    (hevents : AllSteps (IceAgent.step platform) (Undisturbed ok) agent events)
    (h : Session ok agent) (hrest : agent.AtRest) :
    Session ok (agent.run platform events) ∧ (agent.run platform events).AtRest := by
  induction events generalizing agent with
  | nil => exact ⟨h, hrest⟩
  | cons event events ih =>
    have hne : event ≠ .prune := (List.ne_of_not_mem_cons hprune).symm
    obtain ⟨hsession, hat⟩ := h.step hrest platform hne hevents.1
    exact ih (List.not_mem_of_not_mem_cons hprune) hevents.2 hsession hat

theorem Selected.run (platform : Platform) {events : List IceEvent}
    (hprune : IceEvent.prune ∉ events)
    (hrestart : ∀ localIcePwd, IceEvent.restartAgent localIcePwd ∉ events)
    (hevents : AllSteps (IceAgent.step platform) (Undisturbed ok) agent events)
    (h : Selected ok listed p c agent) : Selected ok listed p c (agent.run platform events) := by
  induction events generalizing agent with
  | nil => exact h
  | cons event events ih =>
    have hne : event ≠ .prune := (List.ne_of_not_mem_cons hprune).symm
    have hstep : ∀ localIcePwd, event ≠ .restartAgent localIcePwd :=
      fun localIcePwd => (List.ne_of_not_mem_cons (hrestart localIcePwd)).symm
    exact ih (List.not_mem_of_not_mem_cons hprune)
      (fun localIcePwd => List.not_mem_of_not_mem_cons (hrestart localIcePwd)) hevents.2
      (h.step platform hne hstep hevents.1)

/-- What an agent that has become ready knows about its pair. -/
theorem Session.selected (h : Session ok agent) (hrest : agent.AtRest)
    (hready : agent.iceAgentState = .ready) :
    ∃ p, Selected ok (ok (agent.pair p).localCandidate) p (agent.pair p).localCandidate agent := by
  have hcurrent := hrest.executed.symm.trans hready
  have hphase := h.phase
  unfold Phase at hphase
  simp only [hcurrent] at hphase
  obtain ⟨p, hp, hmember⟩ := hphase
  exact ⟨p, h.selection, hrest.executed, .inl hcurrent, hp, rfl, hmember⟩

theorem undisturbed_none (platform : Platform) (agent : IceAgent) (events : List IceEvent) :
    AllSteps (IceAgent.step platform) (Undisturbed fun _ => False) agent events := by
  apply allSteps_of_forall
  intro agent event
  cases event <;> simp [Undisturbed]

end IceAgent

open IceAgent in
/-- **The selected pair** of an agent that has been ready and has not been restarted since.  There
is one, of a local candidate `c`.  If before the agent became ready every packet from `c` could be
sent, the pair is in the list, is not freed and is nominated; if this is so up to now, it has
succeeded and `c` is valid.

`pruneUnconnectedIceCandidatePair` is only called by tests. -/
theorem selected_pair_along (platform : Platform) (localPassword : List UInt8) (tieBreaker : UInt64)
    (before after : List IceEvent) (hprune : IceEvent.prune ∉ before ++ after)
    (hrestart : ∀ localIcePwd, IceEvent.restartAgent localIcePwd ∉ after)
    (hready : ((createIceAgent localPassword tieBreaker).run platform before).iceAgentState =
      .ready) :
    let start := createIceAgent localPassword tieBreaker
    let agent := start.run platform (before ++ after)
    ∃ p c, agent.dataSendingIceCandidatePair = some p ∧ (agent.pair p).localCandidate = c ∧
      (AllSteps (step platform) (Undisturbed (· = c)) start before →
        p ∈ agent.iceCandidatePairs ∧ p ∉ agent.freedPairs ∧ (agent.pair p).nominated = true) ∧
      (AllSteps (step platform) (Undisturbed (· = c)) start (before ++ after) →
        (agent.candidate c).state = .valid ∧ (agent.pair p).state = .succeeded) := by
  intro start agent
  have hstart : start.AtRest := ⟨rfl, fun hconnected => nomatch hconnected⟩
  have hpruneBefore : IceEvent.prune ∉ before := fun hmem =>
    hprune (List.mem_append_left after hmem)
  have hpruneAfter : IceEvent.prune ∉ after := fun hmem =>
    hprune (List.mem_append_right before hmem)
  have hrun : agent = (start.run platform before).run platform after := List.foldl_append
  -- what the undisturbed candidates say when the agent becomes ready
  have hselected : ∀ {ok : Nat → Prop}, AllSteps (step platform) (Undisturbed ok) start before →
      ∃ p, Selected ok (ok ((start.run platform before).pair p).localCandidate) p
        ((start.run platform before).pair p).localCandidate (start.run platform before) := by
    intro ok hbefore
    obtain ⟨hsession, hrest⟩ :=
      (session_createIceAgent localPassword tieBreaker).run platform hpruneBefore hbefore hstart
    exact hsession.selected hrest hready
  obtain ⟨p, hp⟩ := hselected (undisturbed_none platform start before)
  have hnow := hp.run platform hpruneAfter hrestart (undisturbed_none platform _ after)
  rw [← hrun] at hnow
  refine ⟨p, _, hnow.sending, hnow.localOf, ?_, ?_⟩
  · intro hbefore
    obtain ⟨q, hq⟩ := hselected hbefore
    obtain rfl : q = p := Option.some.inj (hq.sending.symm.trans hp.sending)
    have hlisted := hq.member rfl
    have hsel : Selected (fun _ => False) True q _ _ := { hp with member := fun _ => hlisted }
    have hnow := hsel.run platform hpruneAfter hrestart (undisturbed_none platform _ after)
    rw [← hrun] at hnow
    obtain ⟨hmem, hnominated⟩ := hnow.member trivial
    exact ⟨hmem, hnow.selection.not_freed q hmem, hnominated⟩
  · intro hall
    obtain ⟨hbefore, hafter⟩ := (allSteps_append _ _ _).mp hall
    obtain ⟨q, hq⟩ := hselected hbefore
    obtain rfl : q = p := Option.some.inj (hq.sending.symm.trans hp.sending)
    have hnow := hq.run platform hpruneAfter hrestart hafter
    change Selected _ _ _ _ ((start.run platform before).run platform after) at hnow
    rw [← hrun] at hnow
    have hmem := (hnow.member rfl).1
    have hok := hnow.localOf
    have hserves := hnow.selection.served.serves q hmem hok
    refine ⟨?_, hnow.selection.succeeded q hmem hnow.sending hok⟩
    rw [← hok]
    exact hserves.valid

def sampleInput : StepInput where
  timeout := false
  connectivity := .unchanged
  sent := fun _ => .ok
  turnConnectionIsShutdownComplete := fun _ => false

/-- A host candidate and a remote one are connected by a response from the peer, and nominated. -/
def sampleSession : List IceEvent :=
  [.initHostCandidate ⟨familyIpv4, [0, 0], [192, 0, 2, 7]⟩ [0, 9] false, .startAgent [] true,
    .addRemoteCandidate (sampleCandidate 5000), .stateTimer sampleInput,
    .stunPacket ([1, 1, 0, 12, 0x21, 0x12, 0xA4, 0x42] ++ List.replicate 12 0 ++
        [0, 0x20, 0, 8, 0, 1, 0, 0, 0, 0, 0, 0]) 0 ⟨familyIpv4, [19, 136],
        [192, 0, 2, 1]⟩ .ok false true,
    .stateTimer sampleInput, .stateTimer sampleInput, .stateTimer sampleInput]

theorem selected_pair_along_sample :
    let agent := (createIceAgent [] 0).run samplePlatform (sampleSession ++
      [.keepAliveTimer fun _ => .ok])
    ∃ p, agent.dataSendingIceCandidatePair = some p ∧ p ∈ agent.iceCandidatePairs ∧
      p ∉ agent.freedPairs ∧ (agent.pair p).nominated = true ∧
      (agent.candidate (agent.pair p).localCandidate).state = .valid ∧
      (agent.pair p).state = .succeeded := by
  have hprune : IceEvent.prune ∉ sampleSession ++ [.keepAliveTimer fun _ => .ok] := by
    simp [sampleSession]
  obtain ⟨p, c, hsending, rfl, hbefore, hall⟩ := selected_pair_along samplePlatform
    [] 0 sampleSession
    [.keepAliveTimer fun _ => .ok] hprune (by simp) (by decide +kernel)
  have hevents : ∀ c, AllSteps (IceAgent.step samplePlatform) (IceAgent.Undisturbed (· = c))
      (createIceAgent [] 0) (sampleSession ++ [.keepAliveTimer fun _ => .ok]) := by
    intro c
    simp [sampleSession, IceAgent.Undisturbed, sampleInput]
  obtain ⟨hmem, hfreed, hnominated⟩ := hbefore ((allSteps_append _ _ _).mp (hevents _)).1
  obtain ⟨hvalid, hstate⟩ := hall (hevents _)
  exact ⟨p, hsending, hmem, hfreed, hnominated, hvalid, hstate⟩

/-- The pair of an agent that is ready fails when its socket is found closed. -/
theorem selected_pair_fails :
    ¬ ∀ (platform : Platform) (localPassword : List UInt8) (tieBreaker : UInt64)
        (before after : List IceEvent), IceEvent.prune ∉ before ++ after →
      (∀ localIcePwd, IceEvent.restartAgent localIcePwd ∉ after) →
      ((createIceAgent localPassword tieBreaker).run platform before).iceAgentState = .ready →
      let agent := (createIceAgent localPassword tieBreaker).run platform (before ++ after)
      ∃ p, agent.dataSendingIceCandidatePair = some p ∧ p ∈ agent.iceCandidatePairs ∧
        p ∉ agent.freedPairs ∧ (agent.pair p).nominated = true ∧
        (agent.candidate (agent.pair p).localCandidate).state = .valid ∧
        (agent.pair p).state = .succeeded := by
  intro h
  obtain ⟨p, hsending, -, -, -, -, hstate⟩ := h samplePlatform [] 0 sampleSession
    [.keepAliveTimer fun _ => .closedAlready] (by simp [sampleSession]) (by simp)
    (by decide +kernel)
  have hp : p = 2 := by
    have hselected : (((createIceAgent [] 0).run samplePlatform (sampleSession ++
        [.keepAliveTimer fun _ => .closedAlready])).dataSendingIceCandidatePair) = some 2 := by
      decide +kernel
    exact Option.some.inj (hsending.symm.trans hselected)
  subst hp
  revert hstate
  decide +kernel

end KvsWebrtc.Ice
