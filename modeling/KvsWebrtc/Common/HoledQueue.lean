import Mathlib.Data.List.Basic
import Mathlib.Data.List.Nodup
import Mathlib.Data.List.Range
import Mathlib.Logic.Function.Basic
import Mathlib.Tactic.SplitIfs

/-!
# Bounded queues with holes

A queue keeps the last `n` items that were appended to it, each under the number of items that were
appended before it.  An item can be taken out, which leaves a hole, and put into such a place.  The
queue is given by the calls that were made, the last one first: `lastStored` is what is in a place,
and `held` is what is in all of them.

Every item that is stored is dropped, taken out, or still held (`stored_perm`).
-/

namespace KvsWebrtc.HoledQueue

variable {α : Type*} {n i j : Nat} {x : α}

/-- A call to a queue. -/
inductive Call (α : Type*)
  | append (x : α)
  | insert (i : Nat) (x : α)
  | extract (i : Nat)

def appended : List (Call α) → Nat
  | [] => 0
  | .append _ :: h => appended h + 1
  | .insert _ _ :: h | .extract _ :: h => appended h

/-- The place is that of one of the last `n` appended items. -/
def InWindow (n : Nat) (h : List (Call α)) (i : Nat) : Prop := i < appended h ∧ appended h ≤ i + n

instance (n : Nat) (h : List (Call α)) (i : Nat) : Decidable (InWindow n h i) :=
  inferInstanceAs (Decidable (_ ∧ _))

/-- The item that was last stored in a place, unless it has been taken out since. -/
def lastStored (n : Nat) : List (Call α) → Nat → Option α
  | [], _ => none
  | .append x :: h, i => if i = appended h then some x else lastStored n h i
  | .insert j x :: h, i => if i = j ∧ InWindow n h j then some x else lastStored n h i
  | .extract j :: h, i => if i = j ∧ InWindow n h j then none else lastStored n h i

def item (n : Nat) (h : List (Call α)) (i : Nat) : Option α :=
  if InWindow n h i then lastStored n h i else none

def stored (n : Nat) : List (Call α) → List α
  | [] => []
  | .append x :: h => x :: stored n h
  | .insert i x :: h => if InWindow n h i then x :: stored n h else stored n h
  | .extract _ :: h => stored n h

/-- The items that were taken out, the last one first. -/
def taken (n : Nat) : List (Call α) → List α
  | [] => []
  | .append _ :: h | .insert _ _ :: h => taken n h
  | .extract i :: h => (item n h i).toList ++ taken n h

/-- The items that were dropped: those that left the window and those that others were put in place
of. -/
def dropped (n : Nat) : List (Call α) → List α
  | [] => []
  | .append _ :: h =>
    if appended h < n then dropped n h else dropped n h ++ (lastStored n h (appended h - n)).toList
  | .insert i _ :: h => dropped n h ++ (item n h i).toList
  | .extract _ :: h => dropped n h

def window (n : Nat) (h : List (Call α)) : List Nat := List.range' (appended h - n)
    (min n (appended h))

def held (n : Nat) (h : List (Call α)) : List α := (window n h).filterMap (lastStored n h)

section

variable {h : List (Call α)}

@[simp] theorem appended_append : appended (.append x :: h) = appended h + 1 := rfl

@[simp] theorem appended_insert : appended (.insert i x :: h) = appended h := rfl

@[simp] theorem appended_extract : appended (.extract i :: h) = appended h := rfl

@[simp] theorem mem_window : i ∈ window n h ↔ InWindow n h i := by
  simp only [window, InWindow, List.mem_range'_1]
  omega

theorem nodup_window : (window n h).Nodup := List.nodup_range'

/-! ### What is in the window -/

theorem lastStored_append_ne (hi : i ≠ appended h) :
    lastStored n (.append x :: h) i = lastStored n h i := if_neg hi

theorem lastStored_append_self : lastStored n (.append x :: h) (appended h) = some x := if_pos rfl

theorem lastStored_insert (hj : InWindow n h j) :
    lastStored n (.insert j x :: h) = Function.update (lastStored n h) j (some x) := by
  ext1 i
  show (if i = j ∧ InWindow n h j then some x else lastStored n h i) = _
  simp only [hj, and_true, Function.update_apply]

theorem lastStored_extract (hj : InWindow n h j) :
    lastStored n (.extract j :: h) = Function.update (lastStored n h) j none := by
  ext1 i
  show (if i = j ∧ InWindow n h j then none else lastStored n h i) = _
  simp only [hj, and_true, Function.update_apply]

theorem lastStored_insert_of_not (hj : ¬ InWindow n h j) :
    lastStored n (.insert j x :: h) = lastStored n h := by
  ext1 i
  exact if_neg fun hi => hj hi.2

theorem lastStored_extract_of_not (hj : ¬ InWindow n h j) :
    lastStored n (.extract j :: h) = lastStored n h := by
  ext1 i
  exact if_neg fun hi => hj hi.2

/-- Below its capacity a queue only grows. -/
theorem held_append_of_lt (hlt : appended h < n) : held n (.append x :: h) = held n h ++ [x] := by
  have hwindow : window n (.append x :: h) = window n h ++ [appended h] := by
    simp only [window, appended_append]
    rw [Nat.min_eq_right (Nat.le_of_lt hlt), Nat.min_eq_right hlt, Nat.sub_eq_zero_of_le hlt,
      Nat.sub_eq_zero_of_le (Nat.le_of_lt hlt), List.range'_1_concat, Nat.zero_add]
  rw [held, hwindow, List.filterMap_append]
  congr 1
  · apply List.filterMap_congr
    intro i hi
    exact lastStored_append_ne (Nat.ne_of_lt (mem_window.mp hi).1)
  · simp [lastStored_append_self]

/-- At its capacity a queue drops the oldest place. -/
theorem held_append_of_le (hn : 0 < n) (hle : n ≤ appended h) :
    (lastStored n h (appended h - n)).toList ++ held n (.append x :: h) = held n h ++ [x] := by
  obtain ⟨m, rfl⟩ : ∃ m, n = m + 1 := ⟨n - 1, by omega⟩
  have hold : window (m + 1) h
      = (appended h - (m + 1)) :: List.range' (appended h - (m + 1) + 1) m := by
    rw [window, Nat.min_eq_left hle, List.range'_succ]
  have hnew : window (m + 1) (.append x :: h)
      = List.range' (appended h - (m + 1) + 1) m ++ [appended h] := by
    rw [window, appended_append, Nat.min_eq_left (by omega), List.range'_1_concat]
    congr 2 <;> omega
  have hmid : (List.range' (appended h - (m + 1) + 1) m).filterMap
      (lastStored (m + 1) (.append x :: h))
      = (List.range' (appended h - (m + 1) + 1) m).filterMap (lastStored (m + 1) h) := by
    apply List.filterMap_congr
    intro i hi
    rw [List.mem_range'_1] at hi
    exact lastStored_append_ne (by omega)
  rw [held, hnew, List.filterMap_append, hmid, held, hold]
  cases hfirst : lastStored (m + 1) h (appended h - (m + 1)) with
  | none => simp [lastStored_append_self, List.filterMap_cons_none hfirst]
  | some y => simp [lastStored_append_self, List.filterMap_cons_some hfirst]

/-! ### The ledger -/

theorem filterMap_perm_update {f : Nat → Option α} {l : List Nat} (hl : l.Nodup) (hi : i ∈ l) :
    (l.filterMap f).Perm ((f i).toList ++ l.filterMap (Function.update f i none)) := by
  induction l with
  | nil => cases hi
  | cons j l ih =>
    obtain ⟨hj, hl⟩ := List.nodup_cons.mp hl
    by_cases hij : j = i
    · subst hij
      have hrest : l.filterMap (Function.update f j none) = l.filterMap f := by
        apply List.filterMap_congr
        intro k hk
        have hne : k ≠ j := fun heq => hj (heq ▸ hk)
        exact Function.update_of_ne hne _ _
      rw [List.filterMap_cons, List.filterMap_cons, Function.update_self, hrest]
      cases f j with
      | none => simp
      | some y => simp
    · have hi : i ∈ l := (List.mem_cons.mp hi).resolve_left (Ne.symm hij)
      have hperm := ih hl hi
      rw [List.filterMap_cons, List.filterMap_cons, Function.update_of_ne hij]
      cases f j with
      | none => exact hperm
      | some y => exact (hperm.cons y).trans List.perm_middle.symm

theorem filterMap_update_perm {f : Nat → Option α} {l : List Nat} (hl : l.Nodup) (hi : i ∈ l) :
    (l.filterMap (Function.update f i (some x))).Perm
      (x :: l.filterMap (Function.update f i none)) := by
  have hperm := filterMap_perm_update (f := Function.update f i (some x)) hl hi
  simpa using hperm

/-- **Every item that is stored is dropped, taken out, or still held.** -/
theorem stored_perm (hn : 0 < n) (h : List (Call α)) :
    (stored n h).Perm (dropped n h ++ taken n h ++ held n h) := by
  induction h with
  | nil => simp [stored, dropped, taken, held, window, appended]
  | cons c h ih =>
    cases c with
    | append x =>
      by_cases hlt : appended h < n
      · have hperm : (x :: stored n h).Perm (dropped n h ++ taken n h ++ held n h ++ [x]) :=
          (ih.cons x).trans (List.perm_append_singleton x _).symm
        simpa [stored, dropped, taken, hlt, held_append_of_lt hlt] using hperm
      · have hle : n ≤ appended h := Nat.le_of_not_lt hlt
        have hperm : (x :: stored n h).Perm (dropped n h ++ taken n h ++ (held n h ++ [x])) := by
          rw [← List.append_assoc]
          exact (ih.cons x).trans (List.perm_append_singleton x _).symm
        rw [← held_append_of_le hn hle] at hperm
        refine hperm.trans ?_
        simp only [dropped, taken, hlt, if_false, List.append_assoc]
        exact List.Perm.append_left _ (List.perm_append_comm_assoc _ _ _)
    | insert i x =>
      by_cases hi : InWindow n h i
      · have hmem := mem_window.mpr hi
        have hold := filterMap_perm_update (f := lastStored n h) nodup_window hmem
        have hheld : (held n (.insert i x :: h)).Perm
            (x :: (window n h).filterMap (Function.update (lastStored n h) i none)) := by
          rw [held, lastStored_insert hi]
          exact filterMap_update_perm nodup_window hmem
        simp only [stored, dropped, taken, item, hi, if_true]
        -- the old item of the place is dropped and the new one is held
        refine List.Perm.trans ?_ (List.Perm.append_left _ hheld.symm)
        refine List.Perm.trans ?_ List.perm_middle.symm
        refine List.Perm.cons x ((ih.trans (List.Perm.append_left _ hold)).trans ?_)
        simp only [List.append_assoc]
        exact List.Perm.append_left _ (List.perm_append_comm_assoc _ _ _)
      · simpa [stored, dropped, taken, item, hi, held, window, lastStored_insert_of_not hi] using ih
    | extract i =>
      by_cases hi : InWindow n h i
      · have hmem := mem_window.mpr hi
        have hold := filterMap_perm_update (f := lastStored n h) nodup_window hmem
        have hheld : held n (.extract i :: h)
            = (window n h).filterMap (Function.update (lastStored n h) i none) := by
          rw [held, lastStored_extract hi]
          rfl
        simp only [stored, dropped, taken, item, hi, if_true]
        rw [hheld]
        refine (ih.trans (List.Perm.append_left _ hold)).trans ?_
        simp only [List.append_assoc]
        exact List.Perm.append_left _ (List.perm_append_comm_assoc _ _ _)
      · simpa [stored, dropped, taken, item, hi, held, window,
          lastStored_extract_of_not hi] using ih

end

end KvsWebrtc.HoledQueue
