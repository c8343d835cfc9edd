import Mathlib.Data.Nat.ModEq

/-!
# Positions in a ring

A ring of `n` slots is written one slot after the other, and then from the first one again.
`slotBack n next i` is the slot that was written `i` writes before the last one, if `next` is the
slot of the next write.
-/

namespace KvsWebrtc

/-- The slot written `i` writes before the last one. -/
def slotBack (n next i : Nat) : Nat := (next + (n - 1 - i)) % n

variable {n next i j s : Nat}

/-- The last write went to the slot that was next before it. -/
theorem slotBack_zero (hnext : next < n) : slotBack n ((next + 1) % n) 0 = next := by
  unfold slotBack
  rw [Nat.mod_add_mod]
  have hsum : next + 1 + (n - 1 - 0) = next + n := by omega
  rw [hsum, Nat.add_mod_right, Nat.mod_eq_of_lt hnext]

/-- A write makes the earlier ones one write older. -/
theorem slotBack_succ (hi : i + 1 < n) :
    slotBack n ((next + 1) % n) (i + 1) = slotBack n next i := by
  unfold slotBack
  rw [Nat.mod_add_mod]
  have hsum : next + 1 + (n - 1 - (i + 1)) = next + (n - 1 - i) := by omega
  rw [hsum]

/-- The last `n` writes went to different slots. -/
theorem slotBack_inj (hi : i < n) (hj : j < n) (h : slotBack n next i = slotBack n next j) :
    i = j := by
  have hmod : (n - 1 - i) % n = (n - 1 - j) % n := Nat.ModEq.add_left_cancel' next h
  rw [Nat.mod_eq_of_lt (by omega), Nat.mod_eq_of_lt (by omega)] at hmod
  omega

/-- Every slot is one of the last `n` writes. -/
theorem exists_slotBack (hnext : next < n) (hs : s < n) : ∃ i < n, slotBack n next i = s := by
  unfold slotBack
  by_cases h : s < next
  · refine ⟨next - 1 - s, by omega, ?_⟩
    have hsum : next + (n - 1 - (next - 1 - s)) = s + n := by omega
    rw [hsum, Nat.add_mod_right, Nat.mod_eq_of_lt hs]
  · refine ⟨n + next - 1 - s, by omega, ?_⟩
    have hsum : next + (n - 1 - (n + next - 1 - s)) = s := by omega
    rw [hsum, Nat.mod_eq_of_lt hs]

end KvsWebrtc
