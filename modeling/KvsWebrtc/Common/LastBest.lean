import Mathlib.Data.List.Basic
import Mathlib.Data.List.Induction

/-!
# The last of the best

A loop that keeps an entry and its score, and replaces it by every entry with a score that is at
least as good, ends with the last one of those with the best score (`foldl_keepBest`).  With one
score for all entries this is the last entry.  A loop over such lists, in which a list without
entries changes nothing, ends with the last entry of all of them (`foldl_getLast?`).
-/

namespace KvsWebrtc

variable {α β : Type} (score : α → Nat)

def keepBest (kept : α × Nat) (k : α) : α × Nat :=
  if kept.2 ≤ score k then (k, score k) else kept

/-- The entries of a list that no other entry is better than. -/
def best (l : List α) : List α := l.filter fun k => l.all fun j => decide (score j ≤ score k)

theorem best_append_of_le {l : List α} {k : α} (h : ∀ j ∈ l, score j ≤ score k) :
    (best score (l ++ [k])).getLast? = some k := by
  have hk : ((l ++ [k]).all fun j => decide (score j ≤ score k)) = true := by
    apply List.all_eq_true.mpr
    intro j hj
    obtain hj | hj := List.mem_append.mp hj
    · exact decide_eq_true (h j hj)
    · exact decide_eq_true (Nat.le_of_eq (by rw [List.mem_singleton.mp hj]))
  rw [best, List.filter_append, List.filter_cons, if_pos hk, List.filter_nil, List.getLast?_append]
  rfl

theorem best_append_of_lt {l : List α} {k : α} {top : α} (htop : top ∈ l)
    (h : score k < score top) :
    best score (l ++ [k]) = best score l := by
  have hk : ¬ ((l ++ [k]).all fun j => decide (score j ≤ score k)) = true := by
    intro hall
    have := of_decide_eq_true (List.all_eq_true.mp hall top (List.mem_append_left _ htop))
    omega
  rw [best, List.filter_append, List.filter_cons, if_neg hk, List.filter_nil, List.append_nil, best]
  apply List.filter_congr
  intro i _
  rw [List.all_append, List.all_cons, List.all_nil, Bool.and_true]
  -- an entry that is as good as `top` is better than `k`
  cases hall : l.all fun j => decide (score j ≤ score i) with
  | false => rfl
  | true =>
    have := of_decide_eq_true (List.all_eq_true.mp hall top htop)
    rw [Bool.true_and, decide_eq_true_iff]
    omega

/-- **The loop keeps the last of the best**, and their score. -/
theorem foldl_keepBest (v : α) (l : List α) :
    (l.foldl (keepBest score) (v, 0)).1 = ((best score l).getLast?).getD v ∧
      (∀ j ∈ l, score j ≤ (l.foldl (keepBest score) (v, 0)).2) ∧
      ((l.foldl (keepBest score) (v, 0)).2 = 0 ∨
        ∃ top ∈ l, score top = (l.foldl (keepBest score) (v, 0)).2) := by
  induction l using List.reverseRecOn with
  | nil => exact ⟨rfl, fun j hj => absurd hj List.not_mem_nil, .inl rfl⟩
  | append_singleton l k ih =>
    obtain ⟨hvalue, hle, htop⟩ := ih
    rw [List.foldl_append, List.foldl_cons, List.foldl_nil]
    generalize l.foldl (keepBest score) (v, 0) = kept at *
    unfold keepBest
    split
    · rename_i hk
      have hall : ∀ j ∈ l, score j ≤ score k := fun j hj => Nat.le_trans (hle j hj) hk
      refine ⟨?_, ?_, .inr ⟨k, List.mem_append_right _ List.mem_cons_self, rfl⟩⟩
      · rw [best_append_of_le score hall]
        rfl
      · intro j hj
        obtain hj | hj := List.mem_append.mp hj
        · exact hall j hj
        · exact Nat.le_of_eq (by rw [List.mem_singleton.mp hj])
    · rename_i hk
      obtain ⟨top, hmem, hscore⟩ := htop.resolve_left (by omega)
      refine ⟨?_, ?_, .inr ⟨top, List.mem_append_left _ hmem, hscore⟩⟩
      · rw [best_append_of_lt score hmem (by omega)]
        exact hvalue
      · intro j hj
        obtain hj | hj := List.mem_append.mp hj
        · exact hle j hj
        · rw [List.mem_singleton.mp hj]
          omega

theorem foldl_getLast? (f : β → List α) (v : α) (l : List β) :
    l.foldl (fun v b => ((f b).getLast?).getD v) v = ((l.flatMap f).getLast?).getD v := by
  induction l generalizing v with
  | nil => rfl
  | cons b l ih =>
    rw [List.foldl_cons, ih, List.flatMap_cons, List.getLast?_append]
    cases (l.flatMap f).getLast? with
    | none => rfl
    | some a => rfl

end KvsWebrtc
