import Mathlib.Algebra.BigOperators.Intervals
import Mathlib.Order.Monotone.Basic

/-!
# Blocks one behind the other

The elements of infinitely many blocks, none of which is empty, are numbered through.  `start k` is
the number of the first element of block `k`; element `i` is in block `blockAt i`, behind `offsetAt
i` other ones of the block.
-/

namespace KvsWebrtc

/-- The sizes of the blocks. -/
structure Blocks where
  size : ℕ → ℕ
  size_pos : ∀ k, 0 < size k

namespace Blocks

variable (b : Blocks)

/-- The number of elements before block `k`. -/
def start (k : ℕ) : ℕ := ∑ i ∈ Finset.range k, b.size i

/-- The block of element `i`, and its place there. -/
def locate : ℕ → ℕ × ℕ
  | 0 => (0, 0)
  | i + 1 =>
    if (locate i).2 + 1 < b.size (locate i).1 then ((locate i).1, (locate i).2 + 1)
    else ((locate i).1 + 1, 0)

/-- The block of element `i`. -/
def blockAt (i : ℕ) : ℕ := (b.locate i).1

/-- The elements of its block before element `i`. -/
def offsetAt (i : ℕ) : ℕ := (b.locate i).2

@[simp] theorem start_zero : b.start 0 = 0 := rfl

theorem start_succ (k : ℕ) : b.start (k + 1) = b.start k + b.size k := Finset.sum_range_succ _ k

theorem start_strictMono : StrictMono b.start :=
  strictMono_nat_of_lt_succ fun k => by
    rw [b.start_succ]
    exact Nat.lt_add_of_pos_right (b.size_pos k)

theorem blockAt_succ_of_lt {i : ℕ} (h : b.offsetAt i + 1 < b.size (b.blockAt i)) :
    b.blockAt (i + 1) = b.blockAt i ∧ b.offsetAt (i + 1) = b.offsetAt i + 1 := by
  unfold blockAt offsetAt at *
  rw [locate, if_pos h]
  exact ⟨rfl, rfl⟩

theorem blockAt_succ_of_le {i : ℕ} (h : b.size (b.blockAt i) ≤ b.offsetAt i + 1) :
    b.blockAt (i + 1) = b.blockAt i + 1 ∧ b.offsetAt (i + 1) = 0 := by
  unfold blockAt offsetAt at *
  rw [locate, if_neg (Nat.not_lt.mpr h)]
  exact ⟨rfl, rfl⟩

theorem blockAt_succ (i : ℕ) :
    b.blockAt (i + 1) = b.blockAt i ∨ b.blockAt (i + 1) = b.blockAt i + 1 := by
  rcases Nat.lt_or_ge (b.offsetAt i + 1) (b.size (b.blockAt i)) with h | h
  · exact .inl (b.blockAt_succ_of_lt h).1
  · exact .inr (b.blockAt_succ_of_le h).1

/-- An element lies inside its block, as far behind the start as its place tells. -/
theorem locate_spec (i : ℕ) :
    b.offsetAt i < b.size (b.blockAt i) ∧ b.start (b.blockAt i) + b.offsetAt i = i := by
  induction i with
  | zero => exact ⟨b.size_pos 0, rfl⟩
  | succ i ih =>
    obtain ⟨hlt, hpos⟩ := ih
    rcases Nat.lt_or_ge (b.offsetAt i + 1) (b.size (b.blockAt i)) with h | h
    · obtain ⟨hblock, hoffset⟩ := b.blockAt_succ_of_lt h
      rw [hblock, hoffset]
      exact ⟨h, by omega⟩
    · obtain ⟨hblock, hoffset⟩ := b.blockAt_succ_of_le h
      rw [hblock, hoffset, b.start_succ]
      exact ⟨b.size_pos _, by omega⟩

theorem blockAt_eq {i k : ℕ} (hle : b.start k ≤ i) (hlt : i < b.start (k + 1)) :
    b.blockAt i = k := by
  obtain ⟨hoffset, hpos⟩ := b.locate_spec i
  have hnext := b.start_succ (b.blockAt i)
  rcases Nat.lt_trichotomy (b.blockAt i) k with h | h | h
  · have := b.start_strictMono.monotone (Nat.succ_le_of_lt h)
    simp only [Nat.succ_eq_add_one] at this
    omega
  · exact h
  · have := b.start_strictMono.monotone (Nat.succ_le_of_lt h)
    simp only [Nat.succ_eq_add_one] at this
    omega

theorem blockAt_start (k : ℕ) : b.blockAt (b.start k) = k :=
  b.blockAt_eq le_rfl (b.start_strictMono (Nat.lt_succ_self k))

theorem blockAt_start_add {j k : ℕ} (hj : j < b.size k) : b.blockAt (b.start k + j) = k :=
  b.blockAt_eq (Nat.le_add_right _ _) (by rw [b.start_succ]; omega)

theorem offsetAt_start_add {j k : ℕ} (hj : j < b.size k) : b.offsetAt (b.start k + j) = j := by
  have hpos := (b.locate_spec (b.start k + j)).2
  rw [b.blockAt_start_add hj] at hpos
  omega

/-- **The elements of the first blocks** are these blocks, one behind the other. -/
theorem map_range_start {α : Type*} (item : ℕ → ℕ → α) (n : ℕ) :
    (List.range (b.start n)).map (fun i => item (b.blockAt i) (b.offsetAt i)) =
      (List.range n).flatMap fun k => (List.range (b.size k)).map (item k) := by
  induction n with
  | zero => rfl
  | succ n ih =>
    rw [b.start_succ, List.range_add, List.map_append, ih, List.range_succ, List.flatMap_append,
      List.flatMap_singleton, List.map_map]
    congr 1
    refine List.map_congr_left fun j hj => ?_
    have hlt := List.mem_range.mp hj
    rw [Function.comp_apply, b.blockAt_start_add hlt, b.offsetAt_start_add hlt]

end Blocks

end KvsWebrtc
