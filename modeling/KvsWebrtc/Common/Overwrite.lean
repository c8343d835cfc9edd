import Mathlib.Data.List.TakeWhile
import Mathlib.Tactic.Common

/-!
# Lists of overwritten entries

A program writes the elements of a list one after the other and keeps a reference to each, but moves
on in memory only after those that meet `p`.  An element that does not is overwritten by the next
one, so that the reference to it then shows that one.  `overwritten p l` are the elements that the
references show.

`overwritten_take_eq_filter_iff`: if as many elements are written as there are that meet `p`, then
the references show these elements in order exactly if they stand first, or if those behind the
first other element are all equal and the last element written is one of them.
-/

namespace KvsWebrtc

variable {α : Type*} (p : α → Bool)

/-- The elements that the references to the elements of a list show in the end. -/
def overwritten : List α → List α
  | [] => []
  | a :: l => (if p a then a else (overwritten l).headD a) :: overwritten l

@[simp] theorem length_overwritten (l : List α) : (overwritten p l).length = l.length := by
  induction l with
  | nil => rfl
  | cons a l ih => rw [overwritten, List.length_cons, ih, List.length_cons]

theorem overwritten_append {pre : List α} (hpre : ∀ a ∈ pre, p a) (l : List α) :
    overwritten p (pre ++ l) = pre ++ overwritten p l := by
  induction pre with
  | nil => rfl
  | cons a pre ih =>
    rw [List.cons_append, overwritten, if_pos (hpre a List.mem_cons_self),
      ih fun b hb => hpre b (List.mem_cons_of_mem a hb), List.cons_append]

theorem overwritten_map {β : Type*} (q : β → Bool) (g : α → β) (l : List α) :
    overwritten q (l.map g) = (overwritten (fun a => q (g a)) l).map g := by
  induction l with
  | nil => rfl
  | cons a l ih =>
    rw [List.map_cons, overwritten, overwritten, ih, List.map_cons]
    congr 1
    split_ifs
    · rfl
    · cases overwritten (fun a => q (g a)) l with
      | nil => rfl
      | cons b l => rfl

theorem mem_of_mem_overwritten {l : List α} {a : α} (ha : a ∈ overwritten p l) : a ∈ l := by
  induction l generalizing a with
  | nil => exact ha
  | cons b l ih =>
    rw [overwritten] at ha
    rcases List.mem_cons.mp ha with rfl | ha
    · split_ifs with hb
      · exact List.mem_cons_self
      · cases hl : overwritten p l with
        | nil => exact List.mem_cons_self
        | cons c l' => exact List.mem_cons_of_mem b (ih (by rw [hl]; exact List.mem_cons_self))
    · exact List.mem_cons_of_mem b (ih ha)

theorem getLast?_overwritten (l : List α) : (overwritten p l).getLast? = l.getLast? := by
  induction l with
  | nil => rfl
  | cons a l ih =>
    cases l with
    | nil => simp [overwritten]
    | cons b l =>
      rw [overwritten, List.getLast?_cons_cons, ← ih]
      conv_lhs => rw [overwritten]
      conv_rhs => rw [overwritten]
      rw [List.getLast?_cons_cons]

/-- If the last element meets `p`, then a reference shows the next element that does. -/
theorem getElem?_overwritten {l : List α} (hlast : ∃ a, l.getLast? = some a ∧ p a) {i : Nat}
    (hi : i < l.length) :
    (overwritten p l)[i]? = (l.filter p)[((l.take i).filter p).length]? := by
  induction l generalizing i with
  | nil => exact absurd hi (Nat.not_lt_zero i)
  | cons a l ih =>
    -- the last item stays the same without the first one
    have htail : l ≠ [] → ∃ b, l.getLast? = some b ∧ p b := by
      intro hne
      obtain ⟨b, hb, hpb⟩ := hlast
      obtain ⟨c, l', rfl⟩ := List.exists_cons_of_ne_nil hne
      rw [List.getLast?_cons_cons] at hb
      exact ⟨b, hb, hpb⟩
    rw [overwritten]
    by_cases ha : p a
    · -- the item is kept
      rw [if_pos ha, List.filter_cons_of_pos ha]
      cases i with
      | zero => rfl
      | succ i =>
        have hne : l ≠ [] := by
          rintro rfl
          exact absurd hi (by simp)
        rw [List.take_succ_cons, List.filter_cons_of_pos ha, List.length_cons,
          List.getElem?_cons_succ, List.getElem?_cons_succ]
        exact ih (htail hne) (Nat.lt_of_succ_lt_succ hi)
    · -- the item is written over by the next one that is kept
      have hne : l ≠ [] := by
        rintro rfl
        obtain ⟨b, hb, hpb⟩ := hlast
        obtain rfl : a = b := Option.some.inj hb
        exact ha hpb
      have hpos := List.length_pos_iff.mpr hne
      rw [if_neg ha, List.filter_cons_of_neg ha]
      cases i with
      | zero =>
        have hhead := ih (htail hne) hpos
        rw [List.take_zero, List.filter_nil, List.length_nil] at hhead ⊢
        rw [← hhead, List.getElem?_cons_zero]
        cases hl : overwritten p l with
        | nil =>
          rw [← length_overwritten p, hl] at hpos
          exact absurd hpos (Nat.lt_irrefl 0)
        | cons b l' => rfl
      | succ i =>
        rw [List.take_succ_cons, List.filter_cons_of_neg ha, List.getElem?_cons_succ]
        exact ih (htail hne) (Nat.lt_of_succ_lt_succ hi)

/-- If the last element meets `p`, then only elements that do are shown. -/
theorem mem_filter_of_mem_overwritten {l : List α} (hlast : ∃ a, l.getLast? = some a ∧ p a) {a : α}
    (ha : a ∈ overwritten p l) : a ∈ l.filter p := by
  obtain ⟨i, hi⟩ := List.mem_iff_getElem?.mp ha
  have hlt : i < l.length := by
    rw [← length_overwritten p]
    exact (List.getElem?_eq_some_iff.mp hi).1
  rw [getElem?_overwritten p hlast hlt] at hi
  exact List.mem_of_getElem? hi

/-- If the first element does not meet `p`, the references to the others cannot all be right. -/
theorem overwritten_take_cons_iff {u : α} {r : List α} (hu : ¬ p u) (hk : 0 < (r.filter p).length) :
    overwritten p ((u :: r).take (r.filter p).length) = r.filter p ↔
      (∃ a, ((u :: r).take (r.filter p).length).getLast? = some a ∧ p a) ∧
        ∀ a ∈ r.filter p, ∀ b ∈ r.filter p, a = b := by
  set K := r.filter p with hK
  set m := (u :: r).take K.length with hm
  have hle : K.length ≤ r.length := List.length_filter_le p r
  have hmlen : m.length = K.length := by
    rw [hm, List.length_take, List.length_cons]
    omega
  -- the elements of the written part that meet `p` are the first ones of all
  obtain ⟨t, ht⟩ : m.filter p <+: K := by
    have hpre := (List.take_prefix K.length (u :: r)).filter p
    rwa [List.filter_cons_of_neg hu] at hpre
  constructor
  · intro heq
    have hlast : ∃ a, m.getLast? = some a ∧ p a := by
      have hKne : K ≠ [] := List.length_pos_iff.mp hk
      refine ⟨K.getLast hKne, ?_, (List.mem_filter.mp (List.getLast_mem hKne)).2⟩
      rw [← getLast?_overwritten p, heq, List.getLast?_eq_some_getLast hKne]
    refine ⟨hlast, ?_⟩
    -- a reference after the first one shows an earlier element
    have hfirst : ∀ i, i < K.length → K[i]? = K[0]? := by
      intro i
      induction i using Nat.strong_induction_on with
      | _ i ih =>
        intro hi
        cases i with
        | zero => rfl
        | succ i =>
          have hat := getElem?_overwritten p hlast (hmlen ▸ hi)
          rw [heq] at hat
          have hcount : ((m.take (i + 1)).filter p).length ≤ i := by
            rw [hm, List.take_take, Nat.min_eq_left (Nat.le_of_lt hi), List.take_succ_cons,
              List.filter_cons_of_neg hu]
            exact (List.length_filter_le p _).trans (List.length_take_le i r)
          have hsome : ((m.take (i + 1)).filter p).length < (m.filter p).length := by
            rw [List.getElem?_eq_getElem hi] at hat
            exact (List.getElem?_eq_some_iff.mp hat.symm).1
          rw [hat, ← ih _ (Nat.lt_succ_of_le hcount) (by omega), ← ht,
            List.getElem?_append_left hsome]
    intro a ha b hb
    obtain ⟨i, hi⟩ := List.mem_iff_getElem?.mp ha
    obtain ⟨j, hj⟩ := List.mem_iff_getElem?.mp hb
    rw [hfirst i (List.getElem?_eq_some_iff.mp hi).1] at hi
    rw [hfirst j (List.getElem?_eq_some_iff.mp hj).1] at hj
    exact Option.some.inj (hi.symm.trans hj)
  · rintro ⟨hlast, hall⟩
    obtain ⟨c, hc⟩ := List.exists_mem_of_length_pos hk
    have hleft : overwritten p m = List.replicate K.length c := by
      rw [List.eq_replicate_iff]
      refine ⟨by rw [length_overwritten, hmlen], fun b hb => ?_⟩
      have hmem := mem_filter_of_mem_overwritten p hlast hb
      exact hall b (ht ▸ List.mem_append_left t hmem) c hc
    have hright : K = List.replicate K.length c :=
      List.eq_replicate_iff.mpr ⟨rfl, fun b hb => hall b hb c hc⟩
    rw [hleft, ← hright]

/-- **As many elements written as meet `p`**: the references show the elements that meet `p` exactly
if these stand first, or if those behind the first other element are all equal and the last element
written is one of them. -/
theorem overwritten_take_eq_filter_iff (l : List α) :
    overwritten p (l.take (l.filter p).length) = l.filter p ↔
      (∀ a ∈ l.take (l.filter p).length, p a) ∨
        ((∃ a, (l.take (l.filter p).length).getLast? = some a ∧ p a) ∧
          ∀ a ∈ (l.dropWhile p).filter p, ∀ b ∈ (l.dropWhile p).filter p, a = b) := by
  set pre := l.takeWhile p with hpre
  set rest := l.dropWhile p with hrest
  have hall : ∀ a ∈ pre, p a := fun a ha => List.mem_takeWhile_imp ha
  have hl : l = pre ++ rest := (List.takeWhile_append_dropWhile).symm
  have hfilter : l.filter p = pre ++ rest.filter p := by
    conv_lhs => rw [hl]
    rw [List.filter_append, List.filter_eq_self.mpr hall]
  have htake : l.take (l.filter p).length = pre ++ rest.take (rest.filter p).length := by
    rw [hfilter, List.length_append]
    conv_lhs => rw [hl]
    rw [List.take_append, List.take_of_length_le (by omega), Nat.add_sub_cancel_left]
  rw [htake, hfilter, overwritten_append p hall, List.append_cancel_left_eq]
  cases hr : rest with
  | nil =>
    refine iff_of_true rfl (.inl ?_)
    intro a ha
    rw [List.take_nil, List.append_nil] at ha
    exact hall a ha
  | cons u r =>
    have hu : ¬ p u := by
      have hhead := List.head?_dropWhile_not p l
      rw [← hrest, hr] at hhead
      simpa using hhead
    -- `u` is the first item that is not kept
    rw [List.filter_cons_of_neg hu]
    rcases Nat.eq_zero_or_pos (r.filter p).length with hk | hk
    · rw [hk, List.take_zero, List.append_nil]
      refine iff_of_true ?_ (.inl hall)
      rw [List.length_eq_zero_iff.mp hk]
      rfl
    · have hmem : u ∈ (u :: r).take (r.filter p).length := by
        obtain ⟨k, hk'⟩ := Nat.exists_eq_add_one.mpr hk
        rw [hk', List.take_succ_cons]
        exact List.mem_cons_self
      have hne : (u :: r).take (r.filter p).length ≠ [] := List.ne_nil_of_mem hmem
      have hlast : (pre ++ (u :: r).take (r.filter p).length).getLast? =
          ((u :: r).take (r.filter p).length).getLast? := by
        rw [List.getLast?_append, List.getLast?_eq_some_getLast hne, Option.some_or]
      rw [overwritten_take_cons_iff p hu hk, hlast]
      constructor
      · exact Or.inr
      · rintro (hfirst | h)
        · exact absurd (hfirst u (List.mem_append_right _ hmem)) hu
        · exact h

end KvsWebrtc
