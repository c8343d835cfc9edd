import Mathlib.Data.List.Forall2

/-!
# Lists that match

`List.Forall₂ R as bs` says that two lists match entry by entry.  Here are the rules that the loops
of this library need: every entry on the right has one on the left, entries at the same place match,
and two matchings follow each other, the second of which may depend on the places of the entries.
-/

namespace KvsWebrtc

variable {α β γ : Type} {R : α → β → Prop}

theorem exists_of_mem_right {as : List α} {bs : List β} (h : List.Forall₂ R as bs) {b : β}
    (hb : b ∈ bs) : ∃ a ∈ as, R a b := by
  induction h with
  | nil => exact absurd hb List.not_mem_nil
  | cons hab _ ih =>
    rcases List.mem_cons.mp hb with rfl | hb
    · exact ⟨_, List.mem_cons_self, hab⟩
    · obtain ⟨a, ha, hab⟩ := ih hb
      exact ⟨a, List.mem_cons_of_mem _ ha, hab⟩

theorem exists_getElem?_right {as : List α} {bs : List β} (h : List.Forall₂ R as bs) {i : Nat}
    {a : α} (ha : as[i]? = some a) : ∃ b, bs[i]? = some b ∧ R a b := by
  induction h generalizing i with
  | nil => exact absurd ha (by simp)
  | cons hab _ ih =>
    cases i with
    | zero =>
      obtain rfl := Option.some.inj ha
      exact ⟨_, rfl, hab⟩
    | succ i => exact ih ha

/-- Two lists that match, followed by a matching with the places. -/
theorem forall₂_zipIdx_comp {S : β × Nat → γ → Prop} {as : List α} {bs : List β} {cs : List γ}
    {n : Nat} (h : List.Forall₂ R as bs) (h' : List.Forall₂ S (bs.zipIdx n) cs) :
    List.Forall₂ (fun p c => ∃ b, R p.1 b ∧ S (b, p.2) c) (as.zipIdx n) cs := by
  induction h generalizing n cs with
  | nil =>
    obtain rfl := List.forall₂_nil_left_iff.mp h'
    exact .nil
  | cons hab _ ih =>
    rw [List.zipIdx_cons] at h' ⊢
    obtain ⟨c, cs', hc, hrest, rfl⟩ := List.forall₂_cons_left_iff.mp h'
    exact .cons ⟨_, hab, hc⟩ (ih hrest)

end KvsWebrtc
