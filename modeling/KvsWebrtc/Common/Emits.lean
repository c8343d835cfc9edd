import Mathlib.Data.List.Basic
import Mathlib.Tactic.TypeStar

/-!
# Steps that append to an output

`Emits output capacity f text` says of a step `f` that it appends `text` to the output of a state,
if the capacity of the state is not exceeded.  Such steps compose (`Emits.bind`, `Emits.foldlM`).
-/

namespace KvsWebrtc

variable {σ ε α ι : Type*} {output : σ → List α → Prop} {capacity : σ → Nat} {f g : σ → Except ε σ}
  {text more : List α}

def Emits (output : σ → List α → Prop) (capacity : σ → Nat) (f : σ → Except ε σ) (text : List α) :
    Prop :=
  ∀ s out, output s out → out.length + text.length ≤ capacity s →
    ∃ s', f s = .ok s' ∧ output s' (out ++ text) ∧ capacity s' = capacity s

theorem emits_ok : Emits output capacity (.ok : σ → Except ε σ) [] := by
  intro s out hs _
  exact ⟨s, rfl, by rwa [List.append_nil], rfl⟩

/-- **Composition.** -/
theorem Emits.bind (hf : Emits output capacity f text) (hg : Emits output capacity g more) :
    Emits output capacity (fun s => f s >>= g) (text ++ more) := by
  intro s out hs hroom
  rw [List.length_append] at hroom
  obtain ⟨s', hfs, hs', hcapacity⟩ := hf s out hs (by omega)
  obtain ⟨t, hgs, ht, hcapacity'⟩ := hg s' (out ++ text) hs' (by rw [List.length_append]; omega)
  refine ⟨t, ?_, by rwa [← List.append_assoc], hcapacity'.trans hcapacity⟩
  show (f s).bind g = .ok t
  rw [hfs]
  exact hgs

theorem Emits.ite (hf : Emits output capacity f text) (p : Prop) [Decidable p] :
    Emits output capacity (fun s => if p then f s else .ok s) (if p then text else []) := by
  by_cases hp : p
  · simpa only [if_pos hp] using hf
  · simpa only [if_neg hp] using emits_ok

theorem Emits.foldlM {step : σ → ι → Except ε σ} {texts : ι → List α}
    (h : ∀ i, Emits output capacity (fun s => step s i) (texts i)) (is : List ι) :
    Emits output capacity (fun s => is.foldlM step s) (is.flatMap texts) := by
  induction is with
  | nil => exact emits_ok
  | cons i is ih =>
    simp only [List.foldlM_cons, List.flatMap_cons]
    exact (h i).bind ih

end KvsWebrtc
