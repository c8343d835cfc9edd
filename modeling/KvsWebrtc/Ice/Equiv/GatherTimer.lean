import KvsWebrtc.Ice.GatherTimer
import KvsWebrtc.Ice.Equiv.Gathering
import Mathlib.Data.List.Count

/-!
# What the gathering timer reports

A walk over the local candidates stores those that are valid and not reported yet, up to the first
candidate whose pairs cannot be created (`examineAll_spec`).  Nothing bounds how many there are, and
the candidates that a failing tick has marked are never passed on.  Where memory does not run out,
the agent changes as in `IceAgent.gatherCandidateTimerCallback`; between two ticks others change it
(`elsewhere_step`).

The main result is `gathering_reports_iff`: in a run, each tick keeps to the array and reports every
valid candidate that it comes to exactly once, and before the notification that gathering has ended,
if and only if no tick comes to more candidates than the array has room for and no tick fails after
it has stored one.
-/

namespace KvsWebrtc.Ice

open Stun

/-! ### What is due -/

def IceAgent.isDue (agent : IceAgent) (c : Nat) : Bool :=
  (agent.candidate c).state == .valid && (agent.candidate c).reported == false

/-- The candidate waits for the response of a STUN server. -/
def IceAgent.isPendingSrflx (agent : IceAgent) (c : Nat) : Bool :=
  (agent.candidate c).state == .new && (agent.candidate c).iceCandidateType == .serverReflexive

namespace GatherTick

variable (tick : GatherTick)

def pairs (agent : IceAgent) (c : Nat) : Bool :=
  match (agent.candidate c).iceCandidateType with
  | .relayed => (agent.candidate c).state == .new && (tick.relayAddress c).isSome
  | .serverReflexive => agent.isDue c
  | _ => false

def failsAt (agent : IceAgent) (c : Nat) : Bool := tick.pairs agent c && (tick.pairsFail c).isSome

def reached (agent : IceAgent) : List Nat → List Nat
  | [] => []
  | c :: candidates => c :: if tick.failsAt agent c then [] else reached agent candidates

def Succeeds (agent : IceAgent) : Prop :=
  (∀ c ∈ agent.localCandidates, tick.failsAt agent c = false) ∧
    ∀ c ∈ agent.localCandidates, agent.isPendingSrflx c → tick.requestsFail = none

instance (agent : IceAgent) : Decidable (tick.Succeeds agent) :=
  inferInstanceAs (Decidable (_ ∧ _))

theorem reached_congr {a b : IceAgent} {candidates : List Nat}
    (h : ∀ c ∈ candidates, tick.failsAt b c = tick.failsAt a c) :
    tick.reached b candidates = tick.reached a candidates := by
  induction candidates with
  | nil => rfl
  | cons c candidates ih =>
    unfold reached
    rw [h c List.mem_cons_self, ih fun d hd => h d (List.mem_cons_of_mem c hd)]

theorem reached_eq_self {agent : IceAgent} {candidates : List Nat}
    (h : ∀ c ∈ candidates, tick.failsAt agent c = false) :
    tick.reached agent candidates = candidates := by
  induction candidates with
  | nil => rfl
  | cons c candidates ih =>
    unfold reached
    rw [h c List.mem_cons_self, ih fun d hd => h d (List.mem_cons_of_mem c hd)]
    rfl

theorem reached_subset (agent : IceAgent) (candidates : List Nat) :
    tick.reached agent candidates ⊆ candidates := by
  induction candidates with
  | nil => exact List.Subset.refl _
  | cons c candidates ih =>
    unfold reached
    split_ifs
    · exact List.cons_subset_cons c (List.nil_subset _)
    · exact List.cons_subset_cons c ih

end GatherTick

/-! ### What a round of the walk does -/

namespace IceAgent

/-- Those of the candidates that were due are marked as reported. -/
structure Marks (a b : IceAgent) (candidates : List Nat) : Prop where
  localCandidates : b.localCandidates = a.localCandidates
  nextAddress : a.nextAddress ≤ b.nextAddress
  reported : ∀ d, (b.candidate d).reported =
    ((a.candidate d).reported || (decide (d ∈ candidates) && a.isDue d))

/-- The walk has come to the candidates: it has marked them, and no other candidate has changed. -/
structure Examined (a b : IceAgent) (candidates : List Nat) :
    Prop extends Marks a b candidates where
  others : ∀ d, d ∉ candidates → b.candidate d = a.candidate d
  pending : ∀ d, b.isPendingSrflx d = true → a.isPendingSrflx d = true

theorem Examined.refl (agent : IceAgent) : agent.Examined agent [] where
  localCandidates := rfl
  nextAddress := le_rfl
  others := fun _ _ => rfl
  reported := fun d => by simp
  pending := fun _ h => h

theorem isDue_congr {a b : IceAgent} {c : Nat} (h : b.candidate c = a.candidate c) :
    b.isDue c = a.isDue c := by
  unfold isDue
  rw [h]

theorem Examined.cons {a b b' : IceAgent} {c : Nat} {candidates : List Nat} (h : a.Examined b [c])
    (h' : b.Examined b' candidates) (hc : c ∉ candidates) : a.Examined b' (c :: candidates) where
  localCandidates := h'.localCandidates.trans h.localCandidates
  nextAddress := h.nextAddress.trans h'.nextAddress
  others := fun d hd => by
    rw [List.mem_cons, not_or] at hd
    rw [h'.others d hd.2, h.others d (by simpa using hd.1)]
  pending := fun d hd => h.pending d (h'.pending d hd)
  reported := fun d => by
    rw [h'.reported d, h.reported d]
    by_cases hd : d = c
    · subst hd
      simp [hc]
    · rw [isDue_congr (h.others d (by simpa using hd))]
      simp [hd]

theorem Examined.pairWith {a b : IceAgent} {candidates : List Nat} (h : a.Examined b candidates)
    (c : Nat) (remotes : List Nat) :
    a.Examined (remotes.foldl (IceAgent.pairWith c false) b) candidates := by
  apply List.foldlRecOn (motive := fun b : IceAgent => a.Examined b candidates) remotes _ h
  intro b hb d _
  unfold IceAgent.pairWith
  simp only [Bool.false_eq_true, if_false]
  split_ifs
  · have hmarks := hb.toMarks
    refine ⟨⟨hmarks.localCandidates, ?_, hmarks.reported⟩, hb.others, hb.pending⟩
    exact hmarks.nextAddress.trans (Nat.le_succ _)
  · exact hb

theorem Examined.createIceCandidatePairs {a b : IceAgent} {candidates : List Nat}
    (h : a.Examined b candidates) (c : Nat) :
    a.Examined (b.createIceCandidatePairs c false) candidates := by
  unfold IceAgent.createIceCandidatePairs
  simp only [Bool.false_eq_true, if_false]
  split_ifs
  · exact h.pairWith c _
  · exact h

/-- A candidate changes in its place, and is reported if it was due. -/
theorem examined_modifyCandidate (agent : IceAgent) (c : Nat) (f : IceCandidate → IceCandidate)
    (hreported : (f (agent.candidate c)).reported = ((agent.candidate c).reported || agent.isDue c))
    (hstate : (f (agent.candidate c)).state ≠ .new) : agent.Examined (agent.modifyCandidate c f)
    [c] where
  localCandidates := rfl
  nextAddress := le_rfl
  others := fun d hd => candidate_modifyCandidate_of_ne agent (by simpa using hd) f
  reported := fun d => by
    by_cases hd : d = c
    · subst hd
      rw [candidate_modifyCandidate_self, hreported]
      simp
    · rw [candidate_modifyCandidate_of_ne agent hd]
      simp [hd]
  pending := fun d hpending => by
    by_cases hd : d = c
    · subst hd
      unfold isPendingSrflx at hpending
      rw [candidate_modifyCandidate_self] at hpending
      simp [hstate] at hpending
    · unfold isPendingSrflx at hpending ⊢
      rwa [candidate_modifyCandidate_of_ne agent hd] at hpending

theorem examined_self {agent : IceAgent} {c : Nat} (h : agent.isDue c = false) :
    agent.Examined agent [c] where
  localCandidates := rfl
  nextAddress := le_rfl
  others := fun _ _ => rfl
  reported := fun d => by
    by_cases hd : d = c
    · subst hd
      simp [h]
    · simp [hd]
  pending := fun _ h => h

end IceAgent

namespace GatherTick

variable (tick : GatherTick)

def statusAt (agent : IceAgent) (c : Nat) : Status :=
  if tick.failsAt agent c then .notEnoughMemory else .success

/-- What a round of the walk does to what has been stored and counted. -/
structure Rounds (walk walk' : GatherWalk) (candidates : List Nat) : Prop where
  examined : walk.agent.Examined walk'.agent candidates
  newLocalCandidates :
    walk'.newLocalCandidates = walk.newLocalCandidates ++ candidates.filter walk.agent.isDue
  pendingSrflxCandidateCount : walk'.pendingSrflxCandidateCount =
    walk.pendingSrflxCandidateCount + candidates.countP walk.agent.isPendingSrflx

theorem createPairs_spec {walk walk' : GatherWalk} {c : Nat} (h : Rounds walk walk' [c]) :
    (tick.createPairs walk' c).1 = (if (tick.pairsFail c).isSome then .notEnoughMemory
      else .success) ∧
      Rounds walk (tick.createPairs walk' c).2 [c] := by
  unfold createPairs
  cases tick.pairsFail c with
  | none =>
    exact ⟨rfl, h.examined.createIceCandidatePairs c, h.newLocalCandidates,
      h.pendingSrflxCandidateCount⟩
  | some n =>
    exact ⟨rfl, h.examined.pairWith c _, h.newLocalCandidates, h.pendingSrflxCandidateCount⟩

/-- **The round of the walk for a candidate.** -/
theorem examine_spec (walk : GatherWalk) (c : Nat) :
    (tick.examine walk c).1 = tick.statusAt walk.agent c ∧ Rounds walk (tick.examine walk c).2
    [c] := by
  unfold examine
  dsimp only
  cases hstate : (walk.agent.candidate c).state with
  | new =>
    have hdue : walk.agent.isDue c = false := by simp [IceAgent.isDue, hstate]
    rw [if_pos rfl]
    cases htype : (walk.agent.candidate c).iceCandidateType with
    | serverReflexive =>
      rw [if_pos rfl]
      refine ⟨by simp [statusAt, failsAt, pairs, htype, hdue], IceAgent.examined_self hdue, ?_, ?_⟩
      · simp [hdue]
      · simp [IceAgent.isPendingSrflx, hstate, htype]
    | relayed =>
      rw [if_neg (by decide), if_pos rfl]
      have hpending : walk.agent.isPendingSrflx c = false := by
        simp [IceAgent.isPendingSrflx, htype]
      cases haddress : tick.relayAddress c with
      | none =>
        refine ⟨by simp [statusAt, failsAt, pairs, htype, haddress], IceAgent.examined_self hdue,
          ?_, ?_⟩
        · simp [hdue]
        · simp [hpending]
      | some ipAddress =>
        have hstatus : tick.statusAt walk.agent c =
            if (tick.pairsFail c).isSome then .notEnoughMemory else .success := by
          simp [statusAt, failsAt, pairs, htype, haddress, hstate]
        rw [hstatus]
        apply createPairs_spec
        refine ⟨?_, by simp [hdue], by simp [hpending]⟩
        show walk.agent.Examined (walk.agent.updateCandidateAddress c ipAddress) [c]
        rw [IceAgent.updateCandidateAddress, if_pos hstate]
        exact IceAgent.examined_modifyCandidate _ c _ (by simp [hdue]) (by simp)
    | _ =>
      rw [if_neg (by decide), if_neg (by decide)]
      refine ⟨by simp [statusAt, failsAt, pairs, htype], IceAgent.examined_self hdue, ?_, ?_⟩
      · simp [hdue]
      · simp [IceAgent.isPendingSrflx, htype]
  | valid =>
    have hpending : walk.agent.isPendingSrflx c = false := by
      simp [IceAgent.isPendingSrflx, hstate]
    rw [if_neg (by decide)]
    cases hreported : (walk.agent.candidate c).reported with
    | true =>
      have hdue : walk.agent.isDue c = false := by simp [IceAgent.isDue, hreported]
      rw [if_neg (by decide)]
      refine ⟨?_, IceAgent.examined_self hdue, by simp [hdue], by simp [hpending]⟩
      unfold statusAt failsAt pairs
      cases (walk.agent.candidate c).iceCandidateType <;> simp [hstate, hdue]
    | false =>
      have hdue : walk.agent.isDue c = true := by simp [IceAgent.isDue, hstate, hreported]
      rw [if_pos ⟨rfl, rfl⟩]
      -- The candidate is stored and marked before its pairs are created.
      have hstored : Rounds walk
          { walk with
            totalCandidateCount := walk.totalCandidateCount + 1
            newLocalCandidates := walk.newLocalCandidates ++ [c]
            agent := walk.agent.modifyCandidate c fun candidate =>
            { candidate with reported := true } }
          [c] := by
        refine ⟨?_, by simp [hdue], by simp [hpending]⟩
        apply IceAgent.examined_modifyCandidate walk.agent c fun candidate =>
          { candidate with reported := true }
        · rw [hdue, Bool.or_true]
        · rw [hstate]
          exact IceCandidateState.noConfusion
      split_ifs with htype
      · have hstatus : tick.statusAt walk.agent c =
            if (tick.pairsFail c).isSome then .notEnoughMemory else .success := by
          simp [statusAt, failsAt, pairs, htype, hdue]
        rw [hstatus]
        exact tick.createPairs_spec hstored
      · refine ⟨?_, hstored⟩
        unfold statusAt failsAt pairs
        cases h : (walk.agent.candidate c).iceCandidateType <;> simp_all
  | invalid =>
    have hdue : walk.agent.isDue c = false := by simp [IceAgent.isDue, hstate]
    rw [if_neg (by decide), if_neg (by simp)]
    refine ⟨?_, IceAgent.examined_self hdue, by simp [hdue], by
      simp [IceAgent.isPendingSrflx, hstate]⟩
    unfold statusAt failsAt pairs
    cases (walk.agent.candidate c).iceCandidateType <;> simp [hstate, hdue]

theorem Rounds.candidate {walk walk' : GatherWalk} {c d : Nat} {candidates : List Nat}
    (h : Rounds walk walk' [c]) (hc : c ∉ candidates) (hd : d ∈ candidates) :
    walk'.agent.candidate d = walk.agent.candidate d := by
  apply h.examined.others
  rw [List.mem_singleton]
  exact fun heq => hc (heq ▸ hd)

theorem Rounds.cons {walk walk₁ walk₂ : GatherWalk} {c : Nat} {candidates : List Nat}
    (h : Rounds walk walk₁ [c]) (h' : Rounds walk₁ walk₂ candidates) (hc : c ∉ candidates) :
    Rounds walk walk₂ (c :: candidates) where
  examined := h.examined.cons h'.examined hc
  newLocalCandidates := by
    have hdue : candidates.filter walk₁.agent.isDue = candidates.filter walk.agent.isDue :=
      List.filter_congr fun d hd => IceAgent.isDue_congr (h.candidate hc hd)
    rw [h'.newLocalCandidates, h.newLocalCandidates, hdue, List.append_assoc, ← List.filter_append]
    rfl
  pendingSrflxCandidateCount := by
    have hpending : candidates.countP walk₁.agent.isPendingSrflx =
        candidates.countP walk.agent.isPendingSrflx := by
      apply List.countP_congr
      intro d hd
      unfold IceAgent.isPendingSrflx
      rw [h.candidate hc hd]
    rw [h'.pendingSrflxCandidateCount, h.pendingSrflxCandidateCount, hpending, Nat.add_assoc,
      ← List.countP_append]
    rfl

theorem failsAt_congr {a b : IceAgent} {c : Nat} (h : b.candidate c = a.candidate c) :
    tick.failsAt b c = tick.failsAt a c := by
  unfold failsAt pairs
  rw [h, IceAgent.isDue_congr h]

/-- **The walk** comes to the candidates up to the first one whose pairs cannot be created. -/
theorem examineAll_spec {candidates : List Nat} (hnodup : candidates.Nodup) (walk : GatherWalk) :
    ((tick.examineAll candidates walk).1 = .success ↔
        ∀ c ∈ candidates, tick.failsAt walk.agent c = false) ∧
      Rounds walk (tick.examineAll candidates walk).2 (tick.reached walk.agent candidates) := by
  induction candidates generalizing walk with
  | nil =>
    refine ⟨by simp [examineAll], .refl _, ?_, ?_⟩
    all_goals simp [examineAll, reached]
  | cons c candidates ih =>
    obtain ⟨hc, hnodup⟩ := List.nodup_cons.mp hnodup
    obtain ⟨hstatus, hround⟩ := tick.examine_spec walk c
    unfold examineAll reached
    cases hfails : tick.failsAt walk.agent c with
    | true =>
      -- The walk ends here.
      rw [statusAt, hfails] at hstatus
      split
      · next walk₁ hexamine => rw [hexamine] at hstatus; cases hstatus
      · refine ⟨iff_of_false ?_ ?_, hround⟩
        · rw [hstatus]
          exact Status.noConfusion
        · intro h
          exact absurd (h c List.mem_cons_self) (by simp [hfails])
    | false =>
      rw [statusAt, hfails] at hstatus
      split
      · next walk₁ hexamine =>
        rw [hexamine] at hround
        have hcongr : ∀ d ∈ candidates, tick.failsAt walk₁.agent d = tick.failsAt walk.agent d :=
          fun d hd => tick.failsAt_congr (hround.candidate hc hd)
        obtain ⟨hsuccess, hrounds⟩ := ih hnodup walk₁
        rw [tick.reached_congr hcongr] at hrounds
        refine ⟨?_, hround.cons hrounds fun hmem => hc (tick.reached_subset _ _ hmem)⟩
        rw [hsuccess, List.forall_mem_cons]
        constructor
        · intro h
          exact ⟨hfails, fun d hd => (hcongr d hd).symm.trans (h d hd)⟩
        · rintro ⟨-, h⟩ d hd
          exact (hcongr d hd).trans (h d hd)
      · next hne => exact (hne (tick.examine walk c).2 (Prod.ext hstatus rfl)).elim

theorem request_marks {a b : IceAgent} {candidates : List Nat} (h : a.Marks b candidates)
    (c : Nat) :
    a.Marks (tick.request b c) candidates := by
  unfold request
  split_ifs
  · rw [IceAgent.sendStunPacket_eq]
    refine ⟨h.localCandidates, h.nextAddress, fun d => ?_⟩
    rw [← h.reported d]
    unfold IceAgent.candidatesAfter
    dsimp only
    split_ifs
    · by_cases hd : d = c
      · subst hd
        rw [IceAgent.setCandidateState, IceAgent.candidate_modifyCandidate_self]
      · rw [IceAgent.setCandidateState, IceAgent.candidate_modifyCandidate_of_ne b hd]
    · rfl
  · exact h

theorem requests_marks {a b : IceAgent} {candidates : List Nat} (h : a.Marks b candidates)
    (requested : List Nat) : a.Marks (requested.foldl tick.request b) candidates :=
  List.foldlRecOn (motive := fun b : IceAgent => a.Marks b candidates) requested _ h
    fun _ hb c _ => tick.request_marks hb c

/-- The requests mark no candidate, and fail only if a server reflexive candidate is pending. -/
theorem sendRequests_spec {a : IceAgent} {walk : GatherWalk} {candidates : List Nat}
    (h : a.Marks walk.agent candidates) :
    ((tick.sendRequests walk).1 = .success ↔
        (0 < walk.pendingSrflxCandidateCount → tick.requestsFail = none)) ∧
      a.Marks (tick.sendRequests walk).2 candidates := by
  unfold sendRequests
  split_ifs with hpending
  · cases hfail : tick.requestsFail with
    | none => exact ⟨by simp, tick.requests_marks h walk.agent.localCandidates⟩
    | some n => exact ⟨by simp [hpending], tick.requests_marks h _⟩
  · exact ⟨by simp [hpending], h⟩

end GatherTick

namespace Gathering

theorem foldl_reportNewLocalCandidate {g : Gathering} (h : g.candidateGatheringFinished = false)
    (candidates : List Nat) :
    candidates.foldl reportNewLocalCandidate g =
      { g with reports := g.reports ++ candidates.map some } := by
  induction candidates generalizing g with
  | nil => simp
  | cons c candidates ih =>
    have hone : g.reportNewLocalCandidate c = { g with reports := g.reports ++ [some c] } := by
      rw [reportNewLocalCandidate, h]
      rfl
    have hrest := ih (g := { g with reports := g.reports ++ [some c] }) h
    rw [List.foldl_cons, hone, hrest, List.map_cons, List.append_assoc, List.singleton_append]

def reached (g : Gathering) (tick : GatherTick) : List Nat :=
  tick.reached g.agent g.agent.localCandidates

/-- A walk over all local candidates from the start of a tick. -/
theorem rounds_start {g : Gathering} (hnodup : g.agent.localCandidates.Nodup) (tick : GatherTick) :
    ((tick.examineAll g.agent.localCandidates (.start g.agent)).1 = .success ↔
        ∀ c ∈ g.agent.localCandidates, tick.failsAt g.agent c = false) ∧
      GatherTick.Rounds (.start g.agent)
        (tick.examineAll g.agent.localCandidates (.start g.agent)).2 (g.reached tick) :=
  tick.examineAll_spec hnodup (.start g.agent)

theorem newLocalCandidates_eq {g : Gathering} (hnodup : g.agent.localCandidates.Nodup)
    (tick : GatherTick) : g.newLocalCandidates tick = (g.reached tick).filter g.agent.isDue := by
  rw [newLocalCandidates, (rounds_start hnodup tick).2.newLocalCandidates]
  exact List.nil_append _

/-- **A tick in which everything succeeds** reports what is due. -/
theorem gatherCandidateTimerCallback_of_succeeds {g : Gathering} {tick : GatherTick}
    (hnodup : g.agent.localCandidates.Nodup) (hfinished : g.candidateGatheringFinished = false)
    (h : tick.Succeeds g.agent) :
    g.agent.Marks (g.gatherCandidateTimerCallback tick).2.agent g.agent.localCandidates ∧
      ∃ stop, (g.gatherCandidateTimerCallback tick).2.candidateGatheringFinished = stop ∧
        (g.gatherCandidateTimerCallback tick).2.isScheduled = (g.isScheduled && !stop) ∧
          (g.gatherCandidateTimerCallback tick).2.reports =
            g.reports ++ (g.agent.localCandidates.filter g.agent.isDue).map some ++
              if stop then [none] else [] := by
  obtain ⟨hwalk, hrounds⟩ := rounds_start hnodup tick
  have hreached : g.reached tick = g.agent.localCandidates := tick.reached_eq_self h.1
  rw [hreached] at hrounds
  replace hwalk := hwalk.mpr h.1
  obtain ⟨hsend, hmarks⟩ := tick.sendRequests_spec hrounds.examined.toMarks
  replace hsend := hsend.mpr <| by
    intro hpending
    rw [hrounds.pendingSrflxCandidateCount] at hpending
    obtain ⟨c, hc, hpendingSrflx⟩ := List.countP_pos_iff.mp ((Nat.zero_add _).symm ▸ hpending)
    exact h.2 c hc hpendingSrflx
  have hstored := hrounds.newLocalCandidates
  unfold gatherCandidateTimerCallback
  rcases hexamine : tick.examineAll g.agent.localCandidates (.start g.agent) with ⟨status, walk⟩
  rw [hexamine] at hwalk hsend hmarks hstored
  rcases hrequests : tick.sendRequests walk with ⟨status', agent⟩
  dsimp only at hwalk hsend hmarks hstored
  rw [hrequests] at hsend hmarks
  dsimp only at hsend hmarks
  subst hwalk hsend
  have hreports : walk.newLocalCandidates = g.agent.localCandidates.filter g.agent.isDue :=
    hstored.trans (List.nil_append _)
  dsimp only
  rw [hrequests]
  dsimp only
  rw [foldl_reportNewLocalCandidate (g := { g with agent := agent }) hfinished, hreports]
  split_ifs with hstop
  · exact ⟨hmarks, true, rfl, by simp, by simp⟩
  · exact ⟨hmarks, false, hfinished, by simp, by simp⟩

/-- **A tick in which something fails** marks candidates and reports nothing. -/
theorem gatherCandidateTimerCallback_of_not_succeeds {g : Gathering} {tick : GatherTick}
    (hnodup : g.agent.localCandidates.Nodup) (h : ¬ tick.Succeeds g.agent) :
    ∃ agent, (g.gatherCandidateTimerCallback tick).2 = { g with agent := agent } ∧
      g.agent.Marks agent (g.reached tick) := by
  obtain ⟨hwalk, hrounds⟩ := rounds_start hnodup tick
  obtain ⟨hsend, hmarks⟩ := tick.sendRequests_spec hrounds.examined.toMarks
  unfold gatherCandidateTimerCallback
  split
  · next walk hexamine =>
    rw [hexamine] at hwalk hrounds hsend hmarks
    have hnone := hwalk.mp rfl
    split
    · next agent hrequests =>
      -- Both succeed, so nothing fails.
      rw [hrequests] at hsend
      refine absurd ⟨hnone, fun c hc hpending => hsend.mp rfl ?_⟩ h
      have hreached : g.reached tick = g.agent.localCandidates := tick.reached_eq_self hnone
      rw [hrounds.pendingSrflxCandidateCount, hreached]
      exact Nat.lt_of_lt_of_le (List.countP_pos_iff.mpr ⟨c, hc, hpending⟩) (Nat.le_add_left _ _)
    · next e agent _ hrequests =>
      rw [hrequests] at hmarks
      exact ⟨_, rfl, hmarks.localCandidates, hmarks.nextAddress, hmarks.reported⟩
  · next e walk _ hexamine =>
    rw [hexamine] at hrounds
    have hwalkMarks := hrounds.examined.toMarks
    exact ⟨_, rfl, hwalkMarks.localCandidates, hwalkMarks.nextAddress, hwalkMarks.reported⟩

end Gathering

/-! ### The agent after a tick -/

namespace GatherTick

variable {tick : GatherTick}

/-- Where memory does not run out, a round changes the agent as the round of the timer does. -/
theorem examine_agent (h : ∀ c, tick.pairsFail c = none) (walk : GatherWalk) (c : Nat) :
    (tick.examine walk c).1 = .success ∧
      (tick.examine walk c).2.agent = walk.agent.gatherCandidate tick.relayAddress c := by
  have hpairs : ∀ walk : GatherWalk, tick.createPairs walk c =
      (.success, { walk with agent := walk.agent.createIceCandidatePairs c false }) := by
    intro walk
    rw [createPairs, h c]
  unfold examine IceAgent.gatherCandidate
  dsimp only
  by_cases hnew : (walk.agent.candidate c).state = .new
  · rw [if_pos hnew, if_pos hnew]
    by_cases hrelayed : (walk.agent.candidate c).iceCandidateType = .relayed
    · rw [if_neg (by rw [hrelayed]; decide), if_pos hrelayed, if_pos hrelayed]
      cases tick.relayAddress c with
      | none => exact ⟨rfl, rfl⟩
      | some ipAddress => exact ⟨congrArg Prod.fst (hpairs _),
        congrArg (fun r => r.2.agent) (hpairs _)⟩
    · rw [if_neg hrelayed, if_neg hrelayed]
      split_ifs
      all_goals exact ⟨rfl, rfl⟩
  · rw [if_neg hnew, if_neg hnew]
    split_ifs with hvalid hsrflx
    · exact ⟨congrArg Prod.fst (hpairs _), congrArg (fun r => r.2.agent) (hpairs _)⟩
    · simp_all
    · simp_all
    · exact ⟨rfl, rfl⟩
    · exact ⟨rfl, rfl⟩

theorem examineAll_agent (h : ∀ c, tick.pairsFail c = none) (candidates : List Nat)
    (walk : GatherWalk) :
    (tick.examineAll candidates walk).1 = .success ∧
      (tick.examineAll candidates walk).2.agent =
        candidates.foldl (IceAgent.gatherCandidate tick.relayAddress) walk.agent := by
  induction candidates generalizing walk with
  | nil => exact ⟨rfl, rfl⟩
  | cons c candidates ih =>
    obtain ⟨hstatus, hagent⟩ := tick.examine_agent h walk c
    have hexamine : tick.examine walk c = (.success, (tick.examine walk c).2) :=
      Prod.ext hstatus rfl
    rw [List.foldl_cons, ← hagent, examineAll, hexamine]
    exact ih _

theorem sendSrflxCandidateRequest_of_not_pending {agent : IceAgent}
    (h : ∀ c ∈ agent.localCandidates, agent.isPendingSrflx c = false) :
    agent.sendSrflxCandidateRequest tick.sent tick.stunServerAddr = agent := by
  apply List.foldlRecOn (motive := fun b => b = agent) agent.localCandidates _ rfl
  rintro b rfl c hc
  apply if_neg
  rintro ⟨hnew, hsrflx⟩
  have hnot := h c hc
  rw [IceAgent.isPendingSrflx, hnew, hsrflx] at hnot
  exact absurd hnot (by decide)

end GatherTick

/-- **Where memory does not run out**, a tick changes the agent as
`IceAgent.gatherCandidateTimerCallback` does. -/
theorem Gathering.gatherCandidateTimerCallback_agent {g : Gathering} {tick : GatherTick}
    (hnodup : g.agent.localCandidates.Nodup) (hfinished : g.candidateGatheringFinished = false)
    (hpairs : ∀ c, tick.pairsFail c = none) (hrequests : tick.requestsFail = none) :
    (g.gatherCandidateTimerCallback tick).2.agent =
      g.agent.gatherCandidateTimerCallback tick.relayAddress tick.sent tick.stunServerAddr := by
  obtain ⟨hstatus, hagent⟩ := tick.examineAll_agent hpairs g.agent.localCandidates (.start g.agent)
  obtain ⟨-, hrounds⟩ := rounds_start hnodup tick
  have hreached : g.reached tick = g.agent.localCandidates :=
    tick.reached_eq_self fun c _ => by
    rw [GatherTick.failsAt, hpairs c, Option.isSome_none, Bool.and_false]
  rw [hreached] at hrounds
  unfold gatherCandidateTimerCallback IceAgent.gatherCandidateTimerCallback
  rcases hexamine : tick.examineAll g.agent.localCandidates (.start g.agent) with ⟨status, walk⟩
  rw [hexamine] at hstatus hagent hrounds
  dsimp only at hstatus hagent
  subst hstatus
  have hsend : tick.sendRequests walk =
      (.success, walk.agent.sendSrflxCandidateRequest tick.sent tick.stunServerAddr) := by
    unfold GatherTick.sendRequests
    rw [hrequests]
    split_ifs with hpending
    · rfl
    · rw [tick.sendSrflxCandidateRequest_of_not_pending]
      rw [hrounds.examined.localCandidates]
      intro c hc
      rw [hrounds.pendingSrflxCandidateCount] at hpending
      obtain ⟨-, hnone⟩ := Nat.add_eq_zero_iff.mp (Nat.eq_zero_of_not_pos hpending)
      refine Bool.eq_false_iff.mpr fun hc' => ?_
      exact List.countP_eq_zero.mp hnone c hc (hrounds.examined.pending c hc')
  dsimp only
  rw [hsend]
  dsimp only
  rw [foldl_reportNewLocalCandidate
    (g := { g with agent := walk.agent.sendSrflxCandidateRequest tick.sent tick.stunServerAddr })
    hfinished]
  rw [hagent]
  split_ifs
  all_goals rfl

/-! ### Runs -/

namespace IceAgent

/-- No candidate is marked, and a new one has not been reported. -/
structure Adds (a b : IceAgent) : Prop where
  nextAddress : a.nextAddress ≤ b.nextAddress
  reported : ∀ c ∈ b.localCandidates,
    (c ∈ a.localCandidates ∧ (b.candidate c).reported = (a.candidate c).reported) ∨
      (a.nextAddress ≤ c ∧ (b.candidate c).reported = false)

/-- What others do to an agent between two ticks: candidates change, come and go. -/
structure Elsewhere (a b : IceAgent) : Prop extends Adds a b where
  locals_lt : ∀ c ∈ b.localCandidates, c < b.nextAddress
  locals_nodup : b.localCandidates.Nodup

theorem Adds.refl (agent : IceAgent) : agent.Adds agent where
  nextAddress := le_rfl
  reported := fun _ hc => .inl ⟨hc, rfl⟩

theorem Adds.trans {a b b' : IceAgent} (h : a.Adds b) (h' : b.Adds b') : a.Adds b' where
  nextAddress := h.nextAddress.trans h'.nextAddress
  reported := fun c hc => by
    rcases h'.reported c hc with ⟨hmem, hsame⟩ | ⟨hnew, hfalse⟩
    · rw [hsame]
      exact h.reported c hmem
    · exact .inr ⟨h.nextAddress.trans hnew, hfalse⟩

/-- A candidate that changes in its place without being marked. -/
theorem adds_modifyCandidate (agent : IceAgent) (c : Nat) (f : IceCandidate → IceCandidate)
    (hf : ∀ candidate, (f candidate).reported = candidate.reported) :
    agent.Adds (agent.modifyCandidate c f) where
  nextAddress := le_rfl
  reported := fun d hd => by
    refine .inl ⟨hd, ?_⟩
    by_cases hcd : d = c
    · subst hcd
      rw [candidate_modifyCandidate_self, hf]
    · rw [candidate_modifyCandidate_of_ne agent hcd]

theorem adds_addLocal (agent : IceAgent) (iceCandidateType : IceCandidateType)
    (ipAddress : KvsIpAddress) (state : IceCandidateState) (isPointToPoint : Bool) :
    agent.Adds (agent.addLocal iceCandidateType ipAddress state isPointToPoint) where
  nextAddress := Nat.le_succ _
  reported := fun c hc => by
    unfold addLocal allocCandidate at hc ⊢
    dsimp only at hc ⊢
    by_cases hcnew : c = agent.nextAddress
    · subst hcnew
      rw [Function.update_self]
      exact .inr ⟨le_rfl, rfl⟩
    · rw [Function.update_of_ne hcnew]
      exact .inl ⟨(List.mem_cons.mp hc).resolve_left hcnew, rfl⟩

theorem adds_createIceCandidatePairs (agent : IceAgent) (c : Nat) :
    agent.Adds (agent.createIceCandidatePairs c false) := by
  have h := (Examined.refl agent).createIceCandidatePairs c
  refine ⟨h.nextAddress, fun d hd => .inl ⟨h.localCandidates ▸ hd, ?_⟩⟩
  rw [h.others d List.not_mem_nil]

theorem adds_turnConnectionAddPeer (agent : IceAgent) (c : Nat) (peerAddress : KvsIpAddress) :
    agent.Adds (agent.turnConnectionAddPeer c peerAddress).2 := by
  unfold turnConnectionAddPeer
  split_ifs
  · exact .refl agent
  · exact (adds_modifyCandidate agent c _ fun _ => rfl :
      agent.Adds (agent.putTurnPeer c peerAddress))
  · exact .refl agent

theorem adds_addTurnPeers (c : Nat) (candidates : List Nat) (agent : IceAgent) :
    agent.Adds (addTurnPeers c candidates agent).2 := by
  induction candidates generalizing agent with
  | nil => exact .refl agent
  | cons r candidates ih =>
    have hpeer := agent.adds_turnConnectionAddPeer c (agent.candidate r).ipAddress
    unfold addTurnPeers
    split_ifs
    · split
      · next hsuccess =>
        rw [hsuccess] at hpeer
        exact hpeer.trans (ih _)
      · exact hpeer
    · exact ih agent

theorem adds_initSrflxCandidate (agent : IceAgent) (iceServers : List IceServer) :
    agent.Adds (agent.initSrflxCandidate iceServers) := by
  apply List.foldlRecOn (motive := agent.Adds) agent.localCandidates _ (.refl agent)
  intro b hb c _
  show agent.Adds (ite _ _ _)
  split_ifs
  · apply List.foldlRecOn (motive := agent.Adds) _ _ hb
    exact fun b' hb' _ _ => hb'.trans (b'.adds_addLocal _ _ _ _)
  · exact hb

theorem adds_initRelayCandidate (agent : IceAgent) : agent.Adds agent.initRelayCandidate.2 := by
  unfold initRelayCandidate
  split_ifs
  · exact .refl agent
  · have hadds := (agent.adds_addLocal .relayed ⟨0, [0, 0], []⟩ .new false).trans
      (adds_addTurnPeers agent.nextAddress
        (agent.addLocal .relayed ⟨0, [0, 0], []⟩ .new false).remoteCandidates _)
    dsimp only
    split
    · next hsuccess =>
      rw [hsuccess] at hadds
      exact ⟨hadds.nextAddress, hadds.reported⟩
    · exact hadds

theorem adds_updateCandidateAddress (agent : IceAgent) (c : Nat) (ipAddress : KvsIpAddress) :
    agent.Adds (agent.updateCandidateAddress c ipAddress) := by
  unfold updateCandidateAddress
  split_ifs
  · exact adds_modifyCandidate agent c _ fun _ => rfl
  · exact .refl agent

/-- The events that add local candidates, and those that make them valid or invalid. -/
def IsCandidateEvent : IceEvent → Prop
  | .initHostCandidate _ _ _ | .initSrflxCandidate _ | .initRelayCandidate | .turnStateFailed _ =>
    True
  | .stunPacket buffer _ _ _ agentHasId _ =>
    beNat (bytesAt buffer 0 2) = typeBindingResponseSuccess ∧ agentHasId = true
  | _ => False

/-- **The events by which candidates come and become valid** are among what can happen between two
ticks. -/
theorem elsewhere_step (platform : Platform) {agent : IceAgent} (hwf : agent.WellFormed)
    {event : IceEvent} (h : IsCandidateEvent event) :
    agent.Elsewhere (agent.step platform event) := by
  have hwf' : (agent.step platform event).WellFormed :=
    (noGuards_admits platform agent event).moves.preserves (fun _ _ => WellFormed.move) hwf
  refine ⟨?_, hwf'.locals_lt, hwf'.locals_nodup⟩
  cases event with
  | initHostCandidate ipAddress port isPointToPoint =>
    show agent.Adds (agent.initHostCandidate ipAddress port isPointToPoint)
    unfold initHostCandidate
    split
    · exact .refl agent
    · exact (agent.adds_addLocal _ _ _ _).trans (adds_createIceCandidatePairs _ _)
  | initSrflxCandidate iceServers => exact agent.adds_initSrflxCandidate iceServers
  | initRelayCandidate => exact agent.adds_initRelayCandidate
  | turnStateFailed c =>
    show agent.Adds (ite _ _ _)
    split_ifs
    · exact adds_modifyCandidate agent c _ fun _ => rfl
    · exact .refl agent
  | stunPacket buffer socketConnection srcAddr sent agentHasId pairHasId =>
    show agent.Adds (handleStunPacket _ _ agent buffer _ _ _ _ _).2
    unfold handleStunPacket
    rw [if_neg (by rw [h.1]; decide), if_pos h.1, if_pos h.2]
    unfold handleServerResponse
    split
    · exact .refl agent
    · split
      · exact .refl agent
      · split
        · exact .refl agent
        · split_ifs
          · exact .refl agent
          · exact agent.adds_updateCandidateAddress _ _
  | _ => exact absurd h id

end IceAgent

namespace GatherTick

variable (tick : GatherTick)

def validSeen : List Nat → GatherWalk → List Nat
  | [], _ => []
  | c :: candidates, walk =>
    let seen :=
      match tick.examine walk c with
      | (.success, walk) => validSeen candidates walk
      | _ => []
    if (walk.agent.candidate c).state = .valid then c :: seen else seen

/-- The walk comes to the valid ones of the candidates that it comes to. -/
theorem validSeen_eq {candidates : List Nat} (hnodup : candidates.Nodup) (walk : GatherWalk) :
    tick.validSeen candidates walk = (tick.reached walk.agent candidates).filter
      fun c => (walk.agent.candidate c).state = .valid := by
  induction candidates generalizing walk with
  | nil => rfl
  | cons c candidates ih =>
    obtain ⟨hc, hnodup⟩ := List.nodup_cons.mp hnodup
    obtain ⟨hstatus, hround⟩ := tick.examine_spec walk c
    have hrest : (match tick.examine walk c with
        | (.success, walk) => tick.validSeen candidates walk
        | _ => []) = (if tick.failsAt walk.agent c then [] else
          tick.reached walk.agent candidates).filter
          fun c => (walk.agent.candidate c).state = .valid := by
      rw [statusAt] at hstatus
      split
      · next walk₁ hexamine =>
        rw [hexamine] at hstatus hround
        split_ifs at hstatus ⊢ with hfails
        have hcandidate : ∀ d ∈ candidates, walk₁.agent.candidate d = walk.agent.candidate d :=
          fun d hd => hround.candidate hc hd
        rw [ih hnodup, tick.reached_congr fun d hd => tick.failsAt_congr (hcandidate d hd)]
        apply List.filter_congr
        intro d hd
        rw [hcandidate d (tick.reached_subset _ _ hd)]
      · next hne =>
        split_ifs at hstatus ⊢ with hfails
        · rfl
        · exact (hne (tick.examine walk c).2 (Prod.ext hstatus rfl)).elim
    unfold validSeen reached
    dsimp only
    rw [hrest, List.filter_cons]
    simp only [decide_eq_true_eq]

end GatherTick

namespace Gathering

/-- Gathering begins: nothing has been reported. -/
structure Starts (g : Gathering) : Prop where
  locals_lt : ∀ c ∈ g.agent.localCandidates, c < g.agent.nextAddress
  locals_nodup : g.agent.localCandidates.Nodup
  unreported : ∀ c ∈ g.agent.localCandidates, (g.agent.candidate c).reported = false
  isScheduled : g.isScheduled = true
  notFinished : g.candidateGatheringFinished = false
  reports : g.reports = []

def Happens (g : Gathering) : GatherEvent → Prop
  | .tick _ => True
  | .other agent => g.agent.Elsewhere agent

/-- A tick stores no more candidates than there is room for, and when it is over, every candidate
that was valid when it came to it has been passed to `newLocalCandidateFn` exactly once. -/
def Delivers (g : Gathering) : GatherEvent → Prop
  | .tick tick =>
    g.isScheduled = true →
      (g.newLocalCandidates tick).length ≤ kvsIceMaxNewLocalCandidatesToReportAtOnce ∧
        ∀ c ∈ tick.validSeen g.agent.localCandidates (.start g.agent),
          (g.step (.tick tick)).reports.count (some c) = 1
  | .other _ => True

/-- No candidate is reported twice, and nothing is reported after the end of gathering. -/
structure Sound (g : Gathering) : Prop where
  once : ∀ c, g.reports.count (some c) ≤ 1
  ends : ∀ before after, g.reports = before ++ none :: after → after = []

/-- If all succeeds, no more candidates are due than there is room for; if something fails, the tick
has come to none that is due. -/
def Meets (g : Gathering) : GatherEvent → Prop
  | .tick tick =>
    g.isScheduled = true →
      if tick.Succeeds g.agent then
        (g.agent.localCandidates.filter g.agent.isDue).length ≤
        kvsIceMaxNewLocalCandidatesToReportAtOnce
      else ∀ c ∈ g.reached tick, g.agent.isDue c = false
  | .other _ => True

/-- What holds between two events of a run whose ticks meet the condition. -/
structure Faithful (g : Gathering) : Prop where
  locals_lt : ∀ c ∈ g.agent.localCandidates, c < g.agent.nextAddress
  locals_nodup : g.agent.localCandidates.Nodup
  reported : ∀ c ∈ g.agent.localCandidates,
    g.reports.count (some c) = if (g.agent.candidate c).reported then 1 else 0
  fresh : ∀ c, g.agent.nextAddress ≤ c → g.reports.count (some c) = 0
  once : ∀ c, g.reports.count (some c) ≤ 1
  running : g.isScheduled = true → g.candidateGatheringFinished = false ∧ none ∉ g.reports
  ended : g.isScheduled = false → ∃ before, g.reports = before ++ [none] ∧ none ∉ before

theorem Starts.faithful {g : Gathering} (h : g.Starts) : g.Faithful where
  locals_lt := h.locals_lt
  locals_nodup := h.locals_nodup
  reported := fun c hc => by simp [h.reports, h.unreported c hc]
  fresh := fun c _ => by simp [h.reports]
  once := fun c => by simp [h.reports]
  running := fun _ => ⟨h.notFinished, by simp [h.reports]⟩
  ended := fun hnot => absurd (h.isScheduled.symm.trans hnot) (by decide)

theorem Faithful.sound {g : Gathering} (h : g.Faithful) : g.Sound where
  once := h.once
  ends := by
    intro before after heq
    cases hscheduled : g.isScheduled with
    | true =>
      refine absurd ?_ (h.running hscheduled).2
      rw [heq]
      exact List.mem_append_right _ List.mem_cons_self
    | false =>
      obtain ⟨reports, hreports, hnone⟩ := h.ended hscheduled
      rcases List.eq_nil_or_concat after with rfl | ⟨middle, last, rfl⟩
      · rfl
      · rw [hreports, List.concat_eq_append, ← List.cons_append, ← List.append_assoc] at heq
        obtain ⟨hbefore, -⟩ := List.append_inj' heq rfl
        refine absurd ?_ hnone
        rw [hbefore]
        exact List.mem_append_right _ List.mem_cons_self

theorem Faithful.other {g : Gathering} {agent : IceAgent} (h : g.Faithful)
    (hother : g.agent.Elsewhere agent) : (g.step (.other agent)).Faithful where
  locals_lt := hother.locals_lt
  locals_nodup := hother.locals_nodup
  reported := fun c hc => by
    rcases hother.reported c hc with ⟨hmem, hsame⟩ | ⟨hnew, hfalse⟩
    · exact (h.reported c hmem).trans (by rw [← hsame]; rfl)
    · refine (h.fresh c hnew).trans ?_
      show 0 = if (agent.candidate c).reported then 1 else 0
      rw [hfalse]
      rfl
  fresh := fun c hc => h.fresh c (hother.nextAddress.trans hc)
  once := h.once
  running := h.running
  ended := h.ended

theorem count_reports {g : Gathering} (hnodup : g.agent.localCandidates.Nodup) (c : Nat)
    (stop : Bool) :
    (g.reports ++ (g.agent.localCandidates.filter g.agent.isDue).map some ++
        if stop then [none] else []).count (some c) =
      g.reports.count (some c) +
        if c ∈ g.agent.localCandidates ∧ g.agent.isDue c then 1 else 0 := by
  have hend : (if stop then [none] else [] : List (Option Nat)).count (some c) = 0 := by
    cases stop <;> simp
  rw [List.count_append, List.count_append, hend, Nat.add_zero,
    List.count_map_of_injective _ some (Option.some_injective Nat), (hnodup.filter _).count]
  simp only [List.mem_filter]

theorem Faithful.isDue_iff {g : Gathering} (h : g.Faithful) {c : Nat}
    (hc : c ∈ g.agent.localCandidates) :
    g.agent.isDue c = true ↔ (g.agent.candidate c).state = .valid ∧ g.reports.count
    (some c) = 0 := by
  rw [h.reported c hc, IceAgent.isDue]
  cases (g.agent.candidate c).reported <;> simp

/-- **A tick in which everything succeeds** keeps the reports faithful, and reports what is
valid. -/
theorem Faithful.tick_of_succeeds {g : Gathering} {tick : GatherTick} (h : g.Faithful)
    (hscheduled : g.isScheduled = true) (hsucceeds : tick.Succeeds g.agent) :
    (g.gatherCandidateTimerCallback tick).2.Faithful ∧
      ∀ c ∈ g.agent.localCandidates, (g.agent.candidate c).state = .valid →
        (g.gatherCandidateTimerCallback tick).2.reports.count (some c) = 1 := by
  obtain ⟨hfinished, hnone⟩ := h.running hscheduled
  obtain ⟨hmarks, stop, hstop, hisScheduled, hreports⟩ :=
    gatherCandidateTimerCallback_of_succeeds h.locals_nodup hfinished hsucceeds
  generalize (g.gatherCandidateTimerCallback tick).2 = g' at hmarks hstop hisScheduled hreports ⊢
  -- the tick adds one report for each candidate that is due
  have hcount : ∀ c, g'.reports.count (some c) = g.reports.count (some c) +
      if c ∈ g.agent.localCandidates ∧ g.agent.isDue c then 1 else 0 := by
    intro c
    rw [hreports, count_reports h.locals_nodup]
  have hlocal : ∀ c ∈ g.agent.localCandidates,
      g'.reports.count (some c) = if (g'.agent.candidate c).reported then 1 else 0 := by
    intro c hc
    rw [hcount, h.reported c hc, hmarks.reported c, IceAgent.isDue]
    cases (g.agent.candidate c).reported <;> simp [hc]
  have hother : ∀ c, c ∉ g.agent.localCandidates →
      g'.reports.count (some c) = g.reports.count (some c) := by
    intro c hc
    rw [hcount, if_neg fun hdue => hc hdue.1, Nat.add_zero]
  refine ⟨⟨?_, ?_, ?_, ?_, ?_, ?_, ?_⟩, ?_⟩
  · rw [hmarks.localCandidates]
    exact fun c hc => (h.locals_lt c hc).trans_le hmarks.nextAddress
  · rw [hmarks.localCandidates]
    exact h.locals_nodup
  · rw [hmarks.localCandidates]
    exact hlocal
  · intro c hc
    have hlt := hmarks.nextAddress.trans hc
    rw [hother c fun hmem => absurd (h.locals_lt c hmem) (Nat.not_lt.mpr hlt)]
    exact h.fresh c hlt
  · intro c
    by_cases hc : c ∈ g.agent.localCandidates
    · rw [hlocal c hc]
      split_ifs <;> decide
    · rw [hother c hc]
      exact h.once c
  · -- as long as the timer runs, the end has not been reported
    intro hrunning
    rw [hisScheduled, hscheduled] at hrunning
    cases stop with
    | true => cases hrunning
    | false =>
      refine ⟨hstop, ?_⟩
      rw [hreports]
      simpa using hnone
  · intro hended
    rw [hisScheduled, hscheduled] at hended
    cases stop with
    | true => exact ⟨_, hreports, by simpa using hnone⟩
    | false => cases hended
  · intro c hc hvalid
    rw [hcount, h.reported c hc, IceAgent.isDue, hvalid]
    cases (g.agent.candidate c).reported <;> simp [hc]

/-- **A tick in which something fails** keeps the reports faithful if it has come to nothing that is
due. -/
theorem Faithful.tick_of_not_succeeds {g : Gathering} {tick : GatherTick} (h : g.Faithful)
    (hsucceeds : ¬ tick.Succeeds g.agent) (hdue : ∀ c ∈ g.reached tick, g.agent.isDue c = false) :
    (g.gatherCandidateTimerCallback tick).2.Faithful := by
  obtain ⟨agent, hg, hmarks⟩ := gatherCandidateTimerCallback_of_not_succeeds h.locals_nodup
    hsucceeds
  rw [hg]
  change (g.step (.other agent)).Faithful
  apply h.other
  refine ⟨⟨hmarks.nextAddress, ?_⟩, ?_, ?_⟩
  · rw [hmarks.localCandidates]
    refine fun c hc => .inl ⟨hc, ?_⟩
    rw [hmarks.reported c]
    by_cases hmem : c ∈ g.reached tick
    · rw [hdue c hmem, Bool.and_false, Bool.or_false]
    · simp [hmem]
  · rw [hmarks.localCandidates]
    exact fun c hc => (h.locals_lt c hc).trans_le hmarks.nextAddress
  · rw [hmarks.localCandidates]
    exact h.locals_nodup

theorem Faithful.step {g : Gathering} {event : GatherEvent} (h : g.Faithful)
    (hhappens : g.Happens event) (hmeets : g.Meets event) : (g.step event).Faithful := by
  cases event with
  | other agent => exact h.other hhappens
  | tick tick =>
    unfold Gathering.step
    dsimp only
    split_ifs with hscheduled
    · have hcondition := hmeets hscheduled
      split_ifs at hcondition with hsucceeds
      · exact (h.tick_of_succeeds hscheduled hsucceeds).1
      · exact h.tick_of_not_succeeds hsucceeds hcondition
    · exact h

/-- **A tick delivers exactly when it meets the condition.** -/
theorem Faithful.delivers_iff {g : Gathering} (h : g.Faithful) (event : GatherEvent) :
    g.Delivers event ↔ g.Meets event := by
  cases event with
  | other agent => exact Iff.rfl
  | tick tick =>
    apply imp_congr_right
    intro hscheduled
    have hstep : g.step (.tick tick) = (g.gatherCandidateTimerCallback tick).2 := if_pos hscheduled
    rw [hstep, newLocalCandidates_eq h.locals_nodup, tick.validSeen_eq h.locals_nodup]
    split_ifs with hsucceeds
    · have hreached : g.reached tick = g.agent.localCandidates := tick.reached_eq_self hsucceeds.1
      rw [hreached, and_iff_left_iff_imp]
      intro _ c hc
      obtain ⟨hmem, hvalid⟩ := List.mem_filter.mp hc
      exact (h.tick_of_succeeds hscheduled hsucceeds).2 c (tick.reached_subset _ _ hmem)
        (of_decide_eq_true hvalid)
    · obtain ⟨agent, hg, -⟩ := gatherCandidateTimerCallback_of_not_succeeds h.locals_nodup hsucceeds
      rw [hg]
      constructor
      · rintro ⟨-, hdelivers⟩ c hc
        -- A candidate that is due has not been reported, and this tick reports nothing.
        by_contra hnot
        obtain ⟨hvalid, hcount⟩ :=
          (h.isDue_iff (tick.reached_subset _ _ hc)).mp (Bool.not_eq_false _ ▸ hnot)
        have hone := hdelivers c (List.mem_filter.mpr ⟨hc, decide_eq_true hvalid⟩)
        exact absurd (hcount.symm.trans hone) (by decide)
      · intro hdue
        have hnothing : (g.reached tick).filter g.agent.isDue = [] :=
          List.filter_eq_nil_iff.mpr fun c hc => by rw [hdue c hc]; exact Bool.false_ne_true
        refine ⟨by rw [hnothing]; exact Nat.zero_le _, fun c hc => ?_⟩
        obtain ⟨hmem, hvalid⟩ := List.mem_filter.mp hc
        replace hvalid : (g.agent.candidate c).state = .valid := of_decide_eq_true hvalid
        have hnot := hdue c hmem
        rw [IceAgent.isDue, hvalid] at hnot
        have hcount := h.reported c (tick.reached_subset _ _ hmem)
        show g.reports.count (some c) = 1
        rw [hcount]
        simpa using hnot

end Gathering

/-- **Reporting local candidates**: in every run, no tick stores more candidates than there is room
for and every candidate that is valid when a tick comes to it is reported exactly once, before the
notification that gathering has ended, if and only if every tick meets the condition. -/
theorem gathering_reports_iff {g : Gathering} {events : List GatherEvent} (hstarts : g.Starts)
    (hhappens : AllSteps Gathering.step Gathering.Happens g events) :
    (AllSteps Gathering.step Gathering.Delivers g events ∧
      Along Gathering.step Gathering.Sound g events) ↔
      AllSteps Gathering.step Gathering.Meets g events := by
  have hfaithful := hstarts.faithful
  clear hstarts
  induction events generalizing g with
  | nil => exact ⟨fun _ => trivial, fun _ => ⟨trivial, hfaithful.sound⟩⟩
  | cons event events ih =>
    simp only [allSteps_cons, along_cons, hfaithful.delivers_iff event]
    constructor
    · rintro ⟨⟨hmeets, hdelivers⟩, -, hsound⟩
      exact ⟨hmeets, (ih hhappens.2 (hfaithful.step hhappens.1 hmeets)).mp ⟨hdelivers, hsound⟩⟩
    · rintro ⟨hmeets, hrest⟩
      obtain ⟨hdelivers, hsound⟩ := (ih hhappens.2 (hfaithful.step hhappens.1 hmeets)).mpr hrest
      exact ⟨⟨hmeets, hdelivers⟩, hfaithful.sound, hsound⟩

def sampleHosts (count : Nat) : IceAgent :=
  (List.range count).foldl
    (fun agent i => agent.initHostCandidate ⟨familyIpv4, [0, 0], [192, 0, 2, i.toUInt8]⟩
    [0, 9] false)
    (createIceAgent [] 0)

/-- An agent with these candidates begins to gather. -/
def sampleStart (count : Nat) : Gathering := ⟨sampleHosts count, 100, false, true, []⟩

def sampleTick (currentTime : Nat) : GatherTick where
  currentTime := currentTime
  stopGathering := false
  addedRelayCandidate := false
  relayAddress := fun _ => none
  pairsFail := fun _ => none
  sent := fun _ => .ok
  stunServerAddr := fun _ => ⟨0, [], []⟩
  requestsFail := none

/-- A candidate becomes valid between the ticks. -/
def sampleReports : List GatherEvent :=
  [.tick (sampleTick 0),
    .other (((sampleStart 2).step (.tick (sampleTick 0))).agent.initHostCandidate
      ⟨familyIpv4, [0, 0], [192, 0, 2, 9]⟩ [0, 9] false),
    .tick (sampleTick 100)]

theorem gathering_reports_sample :
    AllSteps Gathering.step Gathering.Delivers (sampleStart 2) sampleReports ∧
      Along Gathering.step Gathering.Sound (sampleStart 2) sampleReports := by
  refine (gathering_reports_iff (by constructor <;> decide +kernel) ?_).mpr ?_
  · refine ⟨trivial, ?_, trivial, trivial⟩
    refine ⟨⟨?_, ?_⟩, ?_, ?_⟩
    all_goals decide +kernel
  · refine ⟨?_, trivial, ?_, trivial⟩
    all_goals
      intro _
      decide +kernel

/-- Eleven candidates are valid when the timer ticks for the first time. -/
theorem eleven_candidates_overflow :
    ¬ ∀ (g : Gathering) (events : List GatherEvent), g.Starts →
        AllSteps Gathering.step Gathering.Happens g events →
          AllSteps Gathering.step Gathering.Delivers g events ∧
            Along Gathering.step Gathering.Sound g events := by
  intro h
  have hdelivers := (h (sampleStart 11) [.tick (sampleTick 0)] (by constructor <;> decide +kernel)
    ⟨trivial, trivial⟩).1.1 rfl
  exact absurd hdelivers.1 (by decide +kernel)

end KvsWebrtc.Ice
