import KvsWebrtc.Common.Run
import KvsWebrtc.JitterBuffer.Stream
import Mathlib.Data.Finset.Card

/-!
# Orders of arrival at the abstract jitter buffer

Facts about runs of `RtpStream.arrive`, without the code: what is held after an in-order run, that
no order keeps a later head than the in-order one, and that a permutation with bounded displacement
never leaves a gap of more than 513.
-/

namespace KvsWebrtc

namespace RtpStream

variable (S : RtpStream) {L : ℕ}

/-- The first packet of the oldest frame not yet reported once packet `t` has arrived in order: the
first of its own frame or, while the timestamp is zero, of the frame before. -/
def oldestHeld : ℕ → ℕ
  | 0 => 0
  | t + 1 => if (S.packet (t + 1)).ts = 0 then oldestHeld t else S.frameStart (t + 1)

theorem oldestHeld_le_frameStart : ∀ t, S.oldestHeld t ≤ S.frameStart t
  | 0 => le_rfl
  | t + 1 => by
    rw [oldestHeld]
    split_ifs
    · exact (oldestHeld_le_frameStart t).trans (S.frameStart_mono (Nat.le_succ t))
    · exact le_rfl

theorem oldestHeld_le (t : ℕ) : S.oldestHeld t ≤ t :=
  (S.oldestHeld_le_frameStart t).trans (S.frameStart_le t)

theorem oldestHeld_mono : Monotone S.oldestHeld :=
  monotone_nat_of_le_succ fun t => by
    rw [oldestHeld]
    split_ifs
    · exact le_rfl
    · exact (S.oldestHeld_le_frameStart t).trans (S.frameStart_mono (Nat.le_succ t))

theorem oldestHeld_of_ts_ne {t : ℕ} (h : (S.packet t).ts ≠ 0) :
    S.oldestHeld t = S.frameStart t := by
  cases t with
  | zero => rfl
  | succ t => rw [oldestHeld, if_neg h]

/-- The oldest held frame is that of packet `t` or the one before. -/
theorem frameOf_le_oldestHeld (t : ℕ) : S.frameOf t ≤ S.frameOf (S.oldestHeld t) + 1 := by
  induction t with
  | zero => exact Nat.le_succ _
  | succ t ih =>
    by_cases h : (S.packet (t + 1)).ts = 0
    · rw [oldestHeld, if_pos h]
      rcases S.frameOf_succ t with hsame | hnext
      · rwa [hsame]
      · -- two neighbouring frames cannot both have timestamp zero
        have hts : (S.packet t).ts ≠ 0 := by
          have hlt := S.timeAt_lt_iff.mpr (show S.frameOf t < S.frameOf (t + 1) by omega)
          have hstep := S.timeAt_succ_lt t
          rw [S.ts_eq] at h ⊢
          omega
        rw [S.oldestHeld_of_ts_ne hts, S.frameOf_frameStart, hnext]
    · rw [S.oldestHeld_of_ts_ne h, S.frameOf_frameStart]
      exact Nat.le_succ _

/-- From the oldest held frame to packet `t` it is less than half a turn. -/
theorem timeAt_lt_oldestHeld (t : ℕ) :
    S.timeAt t < S.timeAt (S.oldestHeld t) + 2147483648 := by
  have h1 := S.frameOf_le_oldestHeld t
  have h2 := S.time_step (S.frameOf (S.oldestHeld t))
  have h3 := S.time_strictMono.monotone h1
  unfold timeAt
  omega

theorem starts_oldestHeld : ∀ t, S.starts (S.oldestHeld t) = true
  | 0 => S.starts_zero
  | t + 1 => by
    rw [oldestHeld]
    split_ifs
    · exact starts_oldestHeld t
    · exact S.starts_frameStart _

/-! ### In order -/

/-- What is held after the packets up to `t` have arrived in order. -/
def inOrder (t : ℕ) : Held :=
  { arrived := Finset.range (t + 1), head := S.oldestHeld t, tail := t }

theorem inOrder_zero : S.inOrder 0 = Held.first := by
  simp [inOrder, Held.first, oldestHeld]

theorem arrive_inOrder (t : ℕ) : S.arrive (S.inOrder t) (t + 1) = S.inOrder (t + 1) := by
  have hle := S.oldestHeld_le t
  have hall : firstMissing (Finset.range (t + 2)) (t + 2 - S.oldestHeld t) (S.oldestHeld t) =
      t + 2 := by
    rw [firstMissing_eq_of_forall _ _ _ fun i _ hi => Finset.mem_range.mpr (by omega)]
    omega
  have hmax : max t (t + 1) = t + 1 := by omega
  simp only [arrive, settle, inOrder, hmax, ← Finset.range_add_one, hall, oldestHeld]
  rfl

theorem inOrder_admits (t : ℕ) (hwidth : t + 1 ≤ S.oldestHeld t + 65022) :
    S.Admits L (S.inOrder t) (t + 1) := by
  have hmax : max t (t + 1) = t + 1 := by omega
  have h1 := S.timeAt_lt_oldestHeld t
  have h2 := S.timeAt_succ_lt t
  refine
    { width := ?_, turn := ?_, span := Or.inl ?_, wrap := ?_, fresh := ?_, gap := ?_ }
  · simpa only [inOrder, hmax] using hwidth
  · simp only [inOrder, hmax]
    omega
  · intro j hj
    simp only [inOrder, hmax] at hj ⊢
    rw [← Finset.range_add_one]
    exact Finset.mem_range.mpr (by omega)
  · intro _ _ _ j hj _
    exact Finset.mem_range.mpr hj
  · simp [inOrder]
  · simp only [inOrder]
    omega

/-! ### Reordered -/

theorem foldl_arrive_arrived (l : List ℕ) (a : Held) :
    (l.foldl S.arrive a).arrived = a.arrived ∪ l.toFinset := by
  induction l generalizing a with
  | nil => simp
  | cons i l ih =>
    rw [List.foldl_cons, ih, arrive_arrived, List.toFinset_cons, Finset.insert_union,
      Finset.union_insert]

/-- Whatever the order, the head is no later than it would be in order. -/
theorem arrive_head_le {a : Held} (h : a.head ≤ S.oldestHeld a.tail) (i : ℕ) :
    (S.arrive a i).head ≤ S.oldestHeld (max a.tail i) := by
  have hle := S.oldestHeld_le a.tail
  have hfm := firstMissing_le (insert i a.arrived) (max a.tail i + 1 - a.head) a.head
  simp only [arrive, settle]
  split_ifs with hts
  · exact h.trans (S.oldestHeld_mono (Nat.le_max_left _ _))
  · rw [S.oldestHeld_of_ts_ne hts]
    exact S.frameStart_mono (by omega)

theorem foldl_arrive_head_le (l : List ℕ) {a : Held} (h : a.head ≤ S.oldestHeld a.tail) :
    (l.foldl S.arrive a).head ≤ S.oldestHeld (l.foldl S.arrive a).tail := by
  induction l generalizing a with
  | nil => exact h
  | cons i l ih => exact ih (S.arrive_head_le h i)

/-- A run that always fits leaves room for the same packets in order. -/
theorem width_of_allSteps {a : Held} {l : List ℕ} (hrun : AllSteps S.arrive (S.Fits L) a l)
    (h : a.head ≤ S.oldestHeld a.tail) :
    ∀ t, a.tail ≤ t → t + 1 ≤ (l.foldl S.arrive a).tail → t + 1 ≤ S.oldestHeld t + 65022 := by
  induction l generalizing a with
  | nil =>
    intro t h1 h2
    rw [List.foldl_nil] at h2
    omega
  | cons i l ih =>
    intro t h1 h2
    rw [allSteps_cons] at hrun
    rw [List.foldl_cons] at h2
    rcases Nat.lt_or_ge t (max a.tail i) with hlt | hge
    · have hwidth := hrun.1.width
      have hmono := S.oldestHeld_mono h1
      omega
    · exact ih hrun.2 (S.arrive_head_le h i) t hge h2

/-- After `done` packets the newest is at least the `done`-th, so a displacement of at most 512
bounds the gap by 513. -/
theorem allSteps_admits {a : Held} {done l : List ℕ} (hrun : AllSteps S.arrive (S.Fits L) a l)
    (hdone : a.arrived = done.toFinset) (htail : ∀ i ∈ done, i ≤ a.tail)
    (hnodup : (done ++ l).Nodup) (hdisp : ∀ k i, (done ++ l)[k]? = some i → i ≤ k + 512) :
    AllSteps S.arrive (S.Admits L) a l := by
  induction l generalizing a done with
  | nil => trivial
  | cons i l ih =>
    have hcard : done.length ≤ a.tail + 1 := by
      have hsub : done.toFinset ⊆ Finset.range (a.tail + 1) := fun j hj =>
        Finset.mem_range.mpr (Nat.lt_succ_of_le (htail j (List.mem_toFinset.mp hj)))
      have := Finset.card_le_card hsub
      rwa [List.toFinset_card_of_nodup (List.Nodup.of_append_left hnodup),
        Finset.card_range] at this
    have hi : i ≤ done.length + 512 := hdisp done.length i (by simp)
    have hfresh : i ∉ done := fun hmem =>
      (List.nodup_append.mp hnodup).2.2 i hmem i (List.mem_cons_self ..) rfl
    rw [allSteps_cons] at hrun ⊢
    refine ⟨{ hrun.1 with fresh := ?_, gap := by omega }, ?_⟩
    · rw [hdone, List.mem_toFinset]
      exact hfresh
    · refine @ih _ (done ++ [i]) hrun.2 ?_ ?_ (by simpa using hnodup) (by simpa using hdisp)
      · rw [arrive_arrived, hdone, List.toFinset_append]
        ext j
        simp
      · intro j hj
        rw [arrive_tail]
        rcases List.mem_append.mp hj with hj | hj
        · exact (htail j hj).trans (Nat.le_max_left _ _)
        · rw [List.mem_singleton.mp hj]
          exact Nat.le_max_right _ _

/-- Once everything up to a tail with a nonzero timestamp has arrived, the head is the first packet
of its frame. -/
theorem foldl_arrive_head_of_complete {l : List ℕ} {n : ℕ}
    (htail : (l.foldl S.arrive Held.first).tail = n)
    (hall : ∀ j ≤ n, j ∈ (l.foldl S.arrive Held.first).arrived) (hts : (S.packet n).ts ≠ 0) :
    (l.foldl S.arrive Held.first).head = S.frameStart n := by
  rcases List.eq_nil_or_concat l with rfl | ⟨l, i, rfl⟩
  · rw [List.foldl_nil] at htail ⊢
    rw [← htail]
    rfl
  · rw [List.concat_eq_append, List.foldl_append, List.foldl_cons, List.foldl_nil] at htail hall ⊢
    have hhead := S.foldl_arrive_head_le l (show Held.first.head ≤ _ from Nat.zero_le _)
    have hle := S.oldestHeld_le (l.foldl S.arrive Held.first).tail
    have hmax := Nat.le_max_left (l.foldl S.arrive Held.first).tail i
    rw [arrive_arrived] at hall
    rw [arrive_tail] at htail
    simp only [arrive, settle, htail]
    rw [if_neg hts, firstMissing_eq_of_forall _ _ _ fun j _ hj => hall j (by omega)]
    congr 1
    omega

end RtpStream

end KvsWebrtc
