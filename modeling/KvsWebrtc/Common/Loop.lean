import Mathlib.Data.List.Basic
import KvsWebrtc.Common.Status

/-!
# A loop that runs its body at least once

`doWhile` is the loop `do s' = body(s) while (again(s, s'))`, with a bound on the number of rounds:
each round takes an input of its own, and the loop goes on as long as `again` holds of the states
before and after the round.  `starts` are the states in which its rounds start.

The rule: if a rank grows in every round after which the loop goes on, and never exceeds a bound,
then the loop ends (`doWhile_isSome`), and no two of its rounds start with one r (`nodup_starts`).
-/

namespace KvsWebrtc

variable {σ α κ : Type*} {round : σ → α → σ} {again : σ → σ → Bool} {inputs : Nat → α}
    {I : σ → Prop}

/-- The loop, from round `k` on. -/
def doWhile (round : σ → α → σ) (again : σ → σ → Bool) (inputs : Nat → α) : Nat → Nat → σ → Option σ
  | 0, _, _ => none
  | fuel + 1, k, s =>
    let s' := round s (inputs k)
    if again s s' then doWhile round again inputs fuel (k + 1) s' else some s'

def starts (round : σ → α → σ) (again : σ → σ → Bool) (inputs : Nat → α) : Nat → Nat → σ → List σ
  | 0, _, _ => []
  | fuel + 1, k, s =>
    let s' := round s (inputs k)
    s :: if again s s' then starts round again inputs fuel (k + 1) s' else []

/-- **The termination rule.** -/
theorem doWhile_isSome {r : σ → Nat} {bound : Nat} (hI : ∀ s a, I s → I (round s a))
    (hrank : ∀ s a, I s → again s (round s a) → r s < r (round s a))
    (hbound : ∀ s, I s → r s ≤ bound) {fuel k : Nat} {s : σ} (hs : I s)
    (hfuel : bound < r s + fuel) :
    (doWhile round again inputs fuel k s).isSome := by
  induction fuel generalizing k s with
  | zero =>
    have := hbound s hs
    omega
  | succ fuel ih =>
    show (if again s (round s (inputs k)) then _ else _ : Option σ).isSome
    split_ifs with hagain
    · have hlt := hrank s (inputs k) hs hagain
      exact ih (hI s _ hs) (by omega)
    · rfl

/-- Every later round starts with a greater rank. -/
theorem pairwise_starts {r : σ → Nat} (hI : ∀ s a, I s → I (round s a))
    (hrank : ∀ s a, I s → again s (round s a) → r s < r (round s a)) {fuel k : Nat} {s : σ}
    (hs : I s) :
    (starts round again inputs fuel k s).Pairwise (fun s t => r s < r t) ∧
      ∀ t ∈ starts round again inputs fuel k s, r s ≤ r t := by
  induction fuel generalizing k s with
  | zero => exact ⟨.nil, fun t ht => absurd ht List.not_mem_nil⟩
  | succ fuel ih =>
    unfold starts
    dsimp only
    split_ifs with hagain
    · have hlt := hrank s (inputs k) hs hagain
      obtain ⟨hpairwise, hle⟩ := ih (k := k + 1) (hI s (inputs k) hs)
      refine ⟨List.pairwise_cons.mpr ⟨fun t ht => Nat.lt_of_lt_of_le hlt (hle t ht), hpairwise⟩, ?_⟩
      intro t ht
      rcases List.mem_cons.mp ht with rfl | ht
      · exact le_rfl
      · exact Nat.le_trans (Nat.le_of_lt hlt) (hle t ht)
    · refine ⟨List.pairwise_singleton _ _, ?_⟩
      intro t ht
      obtain rfl := List.mem_singleton.mp ht
      exact le_rfl

/-- **No key repeats** where the rank is one of the key. -/
theorem nodup_starts {r : κ → Nat} {key : σ → κ} (hI : ∀ s a, I s → I (round s a))
    (hrank : ∀ s a, I s → again s (round s a) → r (key s) < r (key (round s a))) {fuel k : Nat}
    {s : σ} (hs : I s) : ((starts round again inputs fuel k s).map key).Nodup := by
  apply List.Pairwise.map (R := fun s t => r (key s) < r (key t))
  · intro s t hlt heq
    rw [heq] at hlt
    exact lt_irrefl _ hlt
  · exact (pairwise_starts (r := fun s => r (key s)) hI hrank hs).1

end KvsWebrtc
