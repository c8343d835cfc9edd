import KvsWebrtc.JitterBuffer.Arrivals
import KvsWebrtc.JitterBuffer.Equiv.Refine

/-!
# Runs of pushes

The first packet opens the window, and from then on every admissible arrival keeps the refinement
(`pushAll_first`).  A stream in order is admissible as long as its frames are short enough
(`allSteps_inOrder`).
-/

namespace KvsWebrtc

open JitterBuffer

variable {S : RtpStream} {L : ℕ} {cb : JbCallbacks}

/-! ### The first packet -/

theorem opened_window (c : ℕ) : Window S {0} (opened L c (S.packet 0) (S.packet 0).ts) 0 0 :=
  { started := rfl
    headSeq := S.seq_eq 0
    tailSeq := S.seq_eq 0
    headTs := S.ts_eq 0
    tailTs := S.ts_eq 0
    le := le_rfl
    width := by omega
    turn := by omega
    seqFlag := by simp [opened, JitterBuffer.empty]
    turn_of_tsFlag := fun h => by cases h
    tsFlag_of_turn := fun h => absurd h (lt_irrefl _) }

theorem settle_first : S.settle Held.first = Held.first := by
  simp [RtpStream.settle, Held.first, firstMissing, RtpStream.frameStart]

theorem pushAccept_first_refines (S : RtpStream) (L c : ℕ) :
    ∃ jb, (JitterBuffer.empty L c).pushAccept (S.packet 0) = (false, jb) ∧
      Refines S L jb Held.first := by
  have hw : Window S {0} (opened L c (S.packet 0) (S.packet 0).ts) 0 0 := opened_window c
  have hstore : Refines S L
      ((opened L c (S.packet 0) (S.packet 0).ts).pushStore (S.packet 0)) Held.first :=
    { window := { hw with }
      latency := rfl
      table := by
        intro i hi hi'
        simp only [Held.first] at hi hi' ⊢
        simp only [pushStore, removeEntry, opened, JitterBuffer.empty, S.seq_eq,
          Function.update_apply, Finset.mem_singleton]
        by_cases h : i = 0
        · simp [h]
        · rw [if_neg, if_neg h]
          unfold RtpStream.posAt
          omega
      arrived_le := fun i hi => by simpa [Held.first] using hi
      arrived_of_le := fun i hi => by simpa [Held.first] using hi
      tail_mem := by simp [Held.first]
      starts_head := S.starts_zero
      span := Or.inl fun i hi => by simpa [Held.first] using hi
      reported := rfl }
  exact ⟨_, pushAccept_first L c (S.packet 0), hstore⟩

theorem push_first (hdepay : S.DepaysFrom cb) (hready : cb.AlwaysReady) (c : ℕ) :
    ∃ jb, jitterBufferPush cb (.empty L c) (S.packet 0) = ⟨.success, false, jb⟩ ∧
      Refines S L jb Held.first := by
  obtain ⟨jb, haccept, hstore⟩ := pushAccept_first_refines S L c
  obtain ⟨jb', hparse, hr⟩ := hstore.parse hdepay hready
  rw [settle_first] at hr
  refine ⟨jb', ?_, hr⟩
  unfold jitterBufferPush
  rw [haccept]
  dsimp only
  rw [hparse]

/-! ### Runs -/

theorem pushes_append (jb : JitterBuffer) (l₁ l₂ : List RtpPacket) :
    pushes cb jb (l₁ ++ l₂) = pushes cb jb l₁ ++ pushes cb (pushAll cb jb l₁) l₂ := by
  induction l₁ generalizing jb with
  | nil => rfl
  | cons p l ih => rw [List.cons_append, pushes, ih, pushes]; rfl

theorem pushAll_append (jb : JitterBuffer) (l₁ l₂ : List RtpPacket) :
    pushAll cb jb (l₁ ++ l₂) = pushAll cb (pushAll cb jb l₁) l₂ := List.foldl_append

/-- **A run of admissible arrivals** keeps the refinement; no packet is discarded. -/
theorem pushAll_refines (hL : L < 4294967295) (hdepay : S.DepaysFrom cb) (hready : cb.AlwaysReady)
    {jb : JitterBuffer} {a : Held} (r : Refines S L jb a) {l : List ℕ}
    (h : AllSteps S.arrive (S.Admits L) a l) :
    (∀ x ∈ pushes cb jb (l.map S.packet), x.status = .success ∧ x.discarded = false) ∧
      Refines S L (pushAll cb jb (l.map S.packet)) (l.foldl S.arrive a) := by
  induction l generalizing jb a with
  | nil => exact ⟨fun x hx => absurd hx List.not_mem_nil, r⟩
  | cons i l ih =>
    obtain ⟨hi, hl⟩ := h
    obtain ⟨jb', hpush, hr⟩ := r.push hL hdepay hready hi
    obtain ⟨hres, hfin⟩ := ih hr hl
    rw [List.map_cons, pushes, pushAll, List.foldl_cons, hpush]
    refine ⟨fun x hx => ?_, hfin⟩
    rcases List.mem_cons.mp hx with rfl | hx
    · exact ⟨rfl, rfl⟩
    · exact hres x hx

/-- **A run from a new buffer.** -/
theorem pushAll_first (hL : L < 4294967295) (c : ℕ) (hdepay : S.DepaysFrom cb)
    (hready : cb.AlwaysReady) {l : List ℕ}
    (h : AllSteps S.arrive (S.Admits L) Held.first l) :
    (∀ x ∈ pushes cb (.empty L c) ((0 :: l).map S.packet),
        x.status = .success ∧ x.discarded = false) ∧
      Refines S L (pushAll cb (.empty L c) ((0 :: l).map S.packet))
        (l.foldl S.arrive Held.first) := by
  obtain ⟨jb', hpush, hr⟩ := push_first hdepay hready c
  obtain ⟨hres, hfin⟩ := pushAll_refines hL hdepay hready hr h
  rw [List.map_cons, pushes, pushAll, List.foldl_cons, hpush]
  refine ⟨fun x hx => ?_, hfin⟩
  rcases List.mem_cons.mp hx with rfl | hx
  · exact ⟨rfl, rfl⟩
  · exact hres x hx

theorem Refines.frameDropped_not_mem {jb : JitterBuffer} {a : Held} (r : Refines S L jb a)
    (i j t : ℕ) : JbEvent.frameDropped i j t ∉ jb.trace := fun hmem =>
  S.frameDropped_not_mem_reportsBefore a.head i j t (r.reported ▸ List.mem_filter.mpr ⟨hmem, rfl⟩)

/-! ### In order -/

theorem allSteps_inOrder {t : ℕ} (hwidth : ∀ k < t, k + 1 ≤ S.oldestHeld k + 65022) :
    AllSteps S.arrive (S.Admits L) Held.first (List.range' 1 t) ∧
      (List.range' 1 t).foldl S.arrive Held.first = S.inOrder t := by
  induction t with
  | zero => exact ⟨trivial, S.inOrder_zero.symm⟩
  | succ t ih =>
    obtain ⟨hsteps, hheld⟩ := ih fun k hk => hwidth k (by omega)
    have hlast : 1 + t = t + 1 := by omega
    rw [List.range'_1_concat, allSteps_append, List.foldl_append, hheld, List.foldl_cons,
      List.foldl_nil, hlast, S.arrive_inOrder]
    exact ⟨⟨hsteps, S.inOrder_admits t (hwidth t (by omega)), trivial⟩, rfl⟩

theorem range_eq_cons (n : ℕ) : List.range (n + 1) = 0 :: List.range' 1 n := by
  rw [List.range_eq_range', List.range'_succ]

end KvsWebrtc
