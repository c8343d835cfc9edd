import Mathlib.Data.Nat.Init
import Mathlib.Tactic.TypeStar

/-!
# Counting and writing

A serializer that is called twice runs the same steps without a buffer, to count, and with one, to
write. `Sized V full f n` says that the step `f` takes `n` in both: it counts `n` if there is no
buffer, and with one it uses up `n` of what remains, or fails with `full` where less remains.  Sized
steps compose (`Sized.bind`), so what a composition counts is what it writes (`Sized.writes`).
-/

namespace KvsWebrtc

/-- What the two calls have in common: how much a state has counted or written, how much remains of
the buffer if there is one, and what the steps may rely on. -/
structure PassView (σ : Type*) where
  used : σ → Nat
  remaining : σ → Option Nat
  valid : σ → Prop

variable {σ ε α : Type*}

/-- The state `s'` comes after `n` more than `s`. -/
structure PassView.Took (V : PassView σ) (n : Nat) (s s' : σ) : Prop where
  valid : V.valid s'
  used : V.used s' = V.used s + n
  remaining : V.remaining s' = (V.remaining s).map (· - n)

/-- A step that takes `n`. -/
structure Sized (V : PassView σ) (full : ε) (f : σ → Except ε σ) (n : Nat) : Prop where
  takes : ∀ s, V.valid s → (∀ r, V.remaining s = some r → n ≤ r) → ∃ s', f s = .ok s' ∧
  V.Took n s s'
  fails : ∀ s, V.valid s → ∀ r, V.remaining s = some r → r < n → f s = .error full

variable {V : PassView σ} {full : ε} {f g : σ → Except ε σ} {n m : Nat} {s s' t : σ}

theorem PassView.Took.trans (h : V.Took n s s') (h' : V.Took m s' t) : V.Took (n + m) s t where
  valid := h'.valid
  used := by rw [h'.used, h.used, Nat.add_assoc]
  remaining := by
    rw [h'.remaining, h.remaining, Option.map_map]
    congr 1
    ext r
    simp [Nat.sub_sub]

/-- A step counts as another one that does the same in the valid states. -/
theorem Sized.congr (hf : Sized V full f n) (h : ∀ s, V.valid s → g s = f s) :
    Sized V full g n where
  takes s hs hroom := by
    rw [h s hs]
    exact hf.takes s hs hroom
  fails s hs r hr hlt := by
    rw [h s hs]
    exact hf.fails s hs r hr hlt

theorem sized_ok : Sized V full .ok 0 where
  takes s hs _ := ⟨s, rfl, hs, rfl, by simp⟩
  fails _ _ _ _ h := absurd h (Nat.not_lt_zero _)

/-- **Composition.** -/
theorem Sized.bind (hf : Sized V full f n) (hg : Sized V full g m) :
    Sized V full (fun s => (f s).bind g) (n + m) where
  takes s hs hroom := by
    obtain ⟨s', hfs, hs'⟩ := hf.takes s hs fun r hr => Nat.le_of_add_right_le (hroom r hr)
    have hroom' : ∀ r, V.remaining s' = some r → m ≤ r := by
      intro r hr
      rw [hs'.remaining, Option.map_eq_some_iff] at hr
      obtain ⟨r', hr', rfl⟩ := hr
      exact Nat.le_sub_of_add_le' (hroom r' hr')
    obtain ⟨t, hgs, ht⟩ := hg.takes s' hs'.valid hroom'
    refine ⟨t, ?_, hs'.trans ht⟩
    simp only [hfs, Except.bind, hgs]
  fails s hs r hr hlt := by
    by_cases hle : n ≤ r
    · obtain ⟨s', hfs, hs'⟩ := hf.takes s hs fun _ hr' => Option.some.inj (hr.symm.trans hr') ▸ hle
      have hr' : V.remaining s' = some (r - n) := by rw [hs'.remaining, hr, Option.map_some]
      have hlt' : r - n < m := by omega
      simp only [hfs, Except.bind, hg.fails s' hs'.valid _ hr' hlt']
    · simp only [hf.fails s hs r hr (Nat.lt_of_not_le hle), Except.bind]

theorem Sized.ite (hf : Sized V full f n) (c : Bool) :
    Sized V full (fun s => if c then f s else .ok s) (if c then n else 0) := by
  cases c with
  | false => exact sized_ok
  | true => exact hf

/-- **With a buffer** that has room the steps use up that much of it. -/
theorem Sized.writes (hf : Sized V full f n) (hs : V.valid s) {r : Nat}
    (hr : V.remaining s = some r) (hle : n ≤ r) : ∃ s', f s = .ok s' ∧ V.Took n s s' :=
  hf.takes s hs fun _ hr' => Option.some.inj (hr.symm.trans hr') ▸ hle

end KvsWebrtc
