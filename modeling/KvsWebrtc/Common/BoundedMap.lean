import Mathlib.Data.List.Induction
import Mathlib.Data.List.Nodup
import KvsWebrtc.Common.Status

/-!
# A bounded map, kept as a list of entries

An entry that is put takes the place of the one with the same key, or else the place behind the last
one; if the map is full it takes the place of the last one, which is evicted.

As long as no two entries have one key, `lookup` finds exactly the entries of the list
(`lookup_eq_some_iff`), a put entry is found (`lookup_put_self`), and no other one is lost but the
one that is evicted (`lookup_put_of_ne`).  Along a history of puts, each key has the latest entry
put for it or has been evicted (`lookup_puts`).
-/

namespace KvsWebrtc

namespace BoundedMap

variable {α κ : Type*} [DecidableEq κ] (key : α → κ) (capacity : Nat)

def lookup (l : List α) (k : κ) : Option α := l.find? fun a => key a = k

def put (l : List α) (a : α) : List α :=
  let i := l.findIdx fun b => key b = key a
  if i < l.length then l.set i a
  else if l.length < capacity then l ++ [a]
  else l.set (capacity - 1) a

/-- The entries of a history are put into the empty map. -/
def puts (history : List α) : List α := history.foldl (put key capacity) []

def latest (history : List α) (k : κ) : Option α := lookup key history.reverse k

/-- No two entries have one key, and there is room for all of them. -/
structure Valid (l : List α) : Prop where
  nodup : (l.map key).Nodup
  length_le : l.length ≤ capacity

def FullFor (l : List α) (k : κ) : Prop := l.length = capacity ∧ k ∉ l.map key

instance (l : List α) (k : κ) : Decidable (FullFor key capacity l k) :=
  inferInstanceAs (Decidable (_ ∧ _))

/-- The key that is evicted when an entry is put into the map, if one is. -/
def evicts (l : List α) (a : α) : Option κ :=
  if FullFor key capacity l (key a) then l.getLast?.map key else none

variable {key capacity} {l : List α} {a b : α} {k : κ}

theorem lookup_eq_some_iff (h : (l.map key).Nodup) :
    lookup key l k = some a ↔ a ∈ l ∧ key a = k := by
  induction l with
  | nil => simp [lookup]
  | cons b l ih =>
    rw [List.map_cons, List.nodup_cons] at h
    unfold lookup at ih ⊢
    rw [List.find?_cons]
    by_cases hb : key b = k
    · simp only [hb, decide_true, Option.some.injEq, List.mem_cons]
      constructor
      · rintro rfl
        exact ⟨.inl rfl, hb⟩
      · rintro ⟨rfl | ha, hk⟩
        · rfl
        · exact absurd (List.mem_map.mpr ⟨a, ha, hk.trans hb.symm⟩) h.1
    · simp only [hb, decide_false, ih h.2, List.mem_cons]
      constructor
      · exact fun ⟨ha, hk⟩ => ⟨.inr ha, hk⟩
      · rintro ⟨rfl | ha, hk⟩
        · exact absurd hk hb
        · exact ⟨ha, hk⟩

/-! ### One put -/

theorem key_getElem_findIdx (h : l.findIdx (fun b => key b = key a) < l.length) :
    key l[l.findIdx fun b => key b = key a] = key a := by
  have := List.findIdx_getElem (w := h)
  exact of_decide_eq_true this

theorem notMem_of_findIdx (h : ¬l.findIdx (fun b => key b = key a) < l.length) :
    key a ∉ l.map key := by
  intro hmem
  obtain ⟨b, hb, hkey⟩ := List.mem_map.mp hmem
  exact h (List.findIdx_lt_length_of_exists ⟨b, hb, decide_eq_true hkey⟩)

theorem map_put_of_mem (h : l.findIdx (fun b => key b = key a) < l.length) :
    (l.set (l.findIdx fun b => key b = key a) a).map key = l.map key := by
  rw [List.map_set]
  apply List.ext_getElem
  · simp
  · intro i hi hi'
    rw [List.getElem_set]
    split_ifs with heq
    · subst heq
      rw [List.getElem_map, key_getElem_findIdx h]
    · rfl

theorem eq_append_last (h : l.length = capacity) (hpos : 0 < capacity) :
    ∃ init b, l = init ++ [b] ∧ ∀ a, l.set (capacity - 1) a = init ++ [a] := by
  have hne : l ≠ [] := by
    rintro rfl
    exact absurd h (by simp; omega)
  refine ⟨l.dropLast, l.getLast hne, (List.dropLast_append_getLast hne).symm, fun a => ?_⟩
  have hlen : l.dropLast.length = capacity - 1 := by
    rw [List.length_dropLast, h]
  conv_lhs => rw [← List.dropLast_append_getLast hne]
  rw [List.set_append_right _ _ (by omega), hlen, Nat.sub_self]
  rfl

theorem Valid.put (h : Valid key capacity l) (hpos : 0 < capacity) (a : α) :
    Valid key capacity (put key capacity l a) := by
  unfold BoundedMap.put
  dsimp only
  split_ifs with hi hlen
  · exact ⟨map_put_of_mem hi ▸ h.nodup, by rw [List.length_set]; exact h.length_le⟩
  · refine ⟨?_, by rw [List.length_append]; exact hlen⟩
    rw [List.map_append]
    exact List.Nodup.append h.nodup (List.nodup_singleton _)
      (List.disjoint_singleton.mpr (notMem_of_findIdx hi))
  · have hfull : l.length = capacity := Nat.le_antisymm h.length_le (Nat.not_lt.mp hlen)
    obtain ⟨init, b, rfl, hset⟩ := eq_append_last hfull hpos
    have hnotMem := notMem_of_findIdx hi
    rw [hset]
    refine ⟨?_, by simpa using h.length_le⟩
    have hnodup := h.nodup
    rw [List.map_append, List.mem_append, not_or] at *
    exact List.Nodup.append hnodup.of_append_left (List.nodup_singleton _)
      (List.disjoint_singleton.mpr hnotMem.1)

theorem lookup_put_self (h : Valid key capacity l) (hpos : 0 < capacity) (a : α) :
    lookup key (put key capacity l a) (key a) = some a := by
  rw [lookup_eq_some_iff (h.put hpos a).nodup]
  refine ⟨?_, rfl⟩
  unfold put
  dsimp only
  split_ifs with hi hlen
  · exact List.mem_set hi a
  · exact List.mem_append_right _ (List.mem_singleton.mpr rfl)
  · have hfull : l.length = capacity := Nat.le_antisymm h.length_le (Nat.not_lt.mp hlen)
    exact List.mem_set (by omega) a

theorem mem_put_of_ne (h : Valid key capacity l) (hfull : ¬FullFor key capacity l (key a))
    (hb : key b ≠ key a) : b ∈ put key capacity l a ↔ b ∈ l := by
  have hne : b ≠ a := by
    rintro rfl
    exact hb rfl
  unfold put
  dsimp only
  split_ifs with hi hlen
  · constructor
    · intro hmem
      exact (List.mem_or_eq_of_mem_set hmem).resolve_right hne
    · intro hmem
      obtain ⟨j, hj, rfl⟩ := List.mem_iff_getElem.mp hmem
      refine List.mem_iff_getElem.mpr ⟨j, by rw [List.length_set]; exact hj, ?_⟩
      rw [List.getElem_set_ne]
      intro heq
      subst heq
      exact hb (key_getElem_findIdx hi)
  · simp [hne]
  · exact absurd ⟨Nat.le_antisymm h.length_le (Nat.not_lt.mp hlen), notMem_of_findIdx hi⟩ hfull

/-- **A put keeps the entries of the other keys**, but for the one that it evicts. -/
theorem lookup_put_of_ne (h : Valid key capacity l) (hpos : 0 < capacity) (hk : k ≠ key a) :
    lookup key (put key capacity l a) k =
      if evicts key capacity l a = some k then none else lookup key l k := by
  by_cases hfull : FullFor key capacity l (key a)
  · have hi : ¬l.findIdx (fun b => key b = key a) < l.length := by
      intro hi
      exact hfull.2 (List.mem_map.mpr ⟨_, List.getElem_mem hi, key_getElem_findIdx hi⟩)
    have hput : put key capacity l a = l.set (capacity - 1) a := by
      unfold put
      dsimp only
      rw [if_neg hi, if_neg (by rw [hfull.1]; exact lt_irrefl _)]
    rw [evicts, if_pos hfull]
    obtain ⟨init, b, rfl, hset⟩ := eq_append_last hfull.1 hpos
    have hne : ¬ key a = k := fun heq => hk heq.symm
    rw [hput, hset, List.getLast?_concat, Option.map_some]
    unfold lookup
    simp only [List.find?_append, List.find?_singleton, hne, decide_false, Bool.false_eq_true,
      if_false, Option.or_none, Option.some.injEq, decide_eq_true_eq]
    split_ifs with hb
    · -- the evicted key is not among the others
      have hnodup := h.nodup
      rw [List.map_append, List.map_singleton, hb] at hnodup
      refine List.find?_eq_none.mpr fun c hc hkey => ?_
      exact (List.nodup_append.mp hnodup).2.2 (key c) (List.mem_map.mpr ⟨c, hc, rfl⟩) k
        (List.mem_singleton.mpr rfl) (of_decide_eq_true hkey)
    · rw [Option.or_none]
  · rw [evicts, if_neg hfull, if_neg (by simp)]
    apply Option.ext
    intro b
    rw [lookup_eq_some_iff (h.put hpos a).nodup, lookup_eq_some_iff h.nodup]
    constructor
    · rintro ⟨hmem, rfl⟩
      exact ⟨(mem_put_of_ne h hfull hk).mp hmem, rfl⟩
    · rintro ⟨hmem, rfl⟩
      exact ⟨(mem_put_of_ne h hfull hk).mpr hmem, rfl⟩

/-! ### Histories -/

theorem puts_append_singleton (history : List α) (a : α) :
    puts key capacity (history ++ [a]) = put key capacity (puts key capacity history) a := by
  unfold puts
  rw [List.foldl_append]
  rfl

theorem valid_puts (hpos : 0 < capacity) (history : List α) :
    Valid key capacity (puts key capacity history) := by
  induction history using List.reverseRecOn with
  | nil => exact ⟨List.nodup_nil, Nat.zero_le _⟩
  | append_singleton history a ih =>
    rw [puts_append_singleton]
    exact ih.put hpos a

theorem mem_put (h : b ∈ put key capacity l a) : b = a ∨ b ∈ l := by
  unfold put at h
  dsimp only at h
  split_ifs at h with hi hlen
  · exact (List.mem_or_eq_of_mem_set h).symm
  · rw [List.mem_append, List.mem_singleton] at h
    exact h.symm
  · exact (List.mem_or_eq_of_mem_set h).symm

theorem mem_puts {history : List α} (h : b ∈ puts key capacity history) : b ∈ history := by
  induction history using List.reverseRecOn with
  | nil => exact h
  | append_singleton history a ih =>
    rw [puts_append_singleton] at h
    rcases mem_put h with rfl | h
    · exact List.mem_append_right _ (List.mem_singleton.mpr rfl)
    · exact List.mem_append_left _ (ih h)

theorem latest_append_singleton (history : List α) (a : α) (k : κ) :
    latest key (history ++ [a]) k = if key a = k then some a else latest key history k := by
  unfold latest lookup
  rw [List.reverse_append]
  show List.find? _ (a :: history.reverse) = _
  rw [List.find?_cons]
  split_ifs with h <;> simp [h]

/-- The latest entry of the key has been evicted, and none has been put for it since then. -/
def Evicted (key : α → κ) (capacity : Nat) (history : List α) (k : κ) : Prop :=
  ∃ before a after, history = before ++ a :: after ∧ (∀ b ∈ a :: after, key b ≠ k) ∧
    evicts key capacity (puts key capacity before) a = some k

theorem not_evicted_self (history : List α) (a : α) :
    ¬Evicted key capacity (history ++ [a]) (key a) := by
  rintro ⟨before, b, after, heq, hne, -⟩
  refine hne a ?_ rfl
  have hlast : (history ++ [a]).getLast? = some a := by simp
  rw [heq, List.getLast?_append_of_ne_nil _ (by simp)] at hlast
  exact List.mem_of_getLast? hlast

/-- **The latest entry of each key** is the one that is found, unless it has been evicted. -/
theorem lookup_puts (hpos : 0 < capacity) (history : List α) (k : κ) :
    lookup key (puts key capacity history) k = latest key history k ∨
      lookup key (puts key capacity history) k = none ∧ Evicted key capacity history k := by
  induction history using List.reverseRecOn with
  | nil => exact .inl rfl
  | append_singleton history a ih =>
    rw [puts_append_singleton, latest_append_singleton]
    have hvalid : Valid key capacity (puts key capacity history) := valid_puts hpos history
    split_ifs with hk
    · subst hk
      exact .inl (lookup_put_self hvalid hpos a)
    · rw [lookup_put_of_ne hvalid hpos (Ne.symm hk)]
      split_ifs with hevicts
      · refine .inr ⟨rfl, history, a, [], rfl, ?_, hevicts⟩
        intro b hb
        obtain rfl := List.mem_singleton.mp hb
        exact hk
      · rcases ih with hlatest | ⟨hnone, before, b, after, rfl, hne, hevicted⟩
        · exact .inl hlatest
        · refine .inr ⟨hnone, before, b, after ++ [a], by simp, ?_, hevicted⟩
          intro c hc
          rw [← List.cons_append, List.mem_append] at hc
          rcases hc with hc | hc
          · exact hne c hc
          · obtain rfl := List.mem_singleton.mp hc
            exact hk

end BoundedMap

end KvsWebrtc
