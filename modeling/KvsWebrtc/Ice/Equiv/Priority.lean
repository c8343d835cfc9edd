import KvsWebrtc.Ice.Agent
import Mathlib.Data.List.Sort

/-!
# Priorities of candidate pairs

The two agents of a session see a pair from its two sides, and have opposite roles.  They compute
the same priority for it, without overflow (`controllingPriority_eq`), and so their lists of pairs
have the same priorities in the same order, however the pairs come in (`map_checkList`).

The priority does not tell the pair: the maximum is weighted by two only, so that a maximum of `2 ^
31` or more reaches into the place of the minimum (`controllingPriority_eq_iff`).
-/

namespace KvsWebrtc.Ice

/-! ### The ordered list -/

section

variable (priority : Nat → Nat)

theorem insertIceCandidatePair_eq (p : Nat) (pairs : List Nat) :
    insertIceCandidatePair priority p pairs =
      pairs.orderedInsert (fun a b => priority b ≤ priority a) p := by
  induction pairs with
  | nil => rfl
  | cons q pairs ih =>
    rw [insertIceCandidatePair, List.orderedInsert_cons, ih]

theorem insertIceCandidatePair_perm (p : Nat) (pairs : List Nat) :
    (insertIceCandidatePair priority p pairs).Perm (p :: pairs) := by
  rw [insertIceCandidatePair_eq]
  exact List.perm_orderedInsert _ p pairs

theorem mem_insertIceCandidatePair {p q : Nat} {pairs : List Nat} :
    q ∈ insertIceCandidatePair priority p pairs ↔ q = p ∨ q ∈ pairs := by
  rw [(insertIceCandidatePair_perm priority p pairs).mem_iff, List.mem_cons]

def ByPriority (pairs : List Nat) : Prop := pairs.Pairwise fun p q => priority q ≤ priority p

theorem ByPriority.insert {pairs : List Nat} (h : ByPriority priority pairs) (p : Nat) :
    ByPriority priority (insertIceCandidatePair priority p pairs) := by
  rw [insertIceCandidatePair_eq]
  have : Std.Total fun a b => priority b ≤ priority a := ⟨fun a b => Nat.le_total _ _⟩
  have : IsTrans Nat fun a b => priority b ≤ priority a := ⟨fun a b c hab hbc => hbc.trans hab⟩
  exact List.Pairwise.orderedInsert p pairs h

theorem ByPriority.congr {priority' : Nat → Nat} {pairs : List Nat}
    (h : ByPriority priority pairs) (heq : ∀ p ∈ pairs, priority' p = priority p) :
    ByPriority priority' pairs := by
  refine List.Pairwise.imp_of_mem ?_ h
  intro p q hp hq hle
  rw [heq p hp, heq q hq]
  exact hle

/-- The list after pairs have come in one after the other. -/
def checkList (pairs : List Nat) : List Nat :=
  pairs.foldl (fun list p => insertIceCandidatePair priority p list) []

theorem checkList_spec (pairs list : List Nat) (h : ByPriority priority list) :
    ByPriority priority (pairs.foldl (fun list p => insertIceCandidatePair priority p list) list) ∧
      (pairs.foldl (fun list p => insertIceCandidatePair priority p list) list).Perm
      (pairs ++ list) := by
  induction pairs generalizing list with
  | nil => exact ⟨h, List.Perm.refl _⟩
  | cons p pairs ih =>
    obtain ⟨hsorted, hperm⟩ := ih (insertIceCandidatePair priority p list) (h.insert priority p)
    have hinsert := (insertIceCandidatePair_perm priority p list).append_left pairs
    exact ⟨hsorted, (hperm.trans hinsert).trans List.perm_middle⟩

/-- **However the pairs come in**, the priorities of the list are the same. -/
theorem map_checkList {priority' : Nat → Nat} {pairs pairs' : List Nat} (hperm : pairs.Perm pairs')
    (heq : ∀ p ∈ pairs, priority' p = priority p) :
    (checkList priority pairs).map priority = (checkList priority' pairs').map priority' := by
  obtain ⟨hsorted, hlist⟩ := checkList_spec priority pairs [] List.Pairwise.nil
  obtain ⟨hsorted', hlist'⟩ := checkList_spec priority' pairs' [] List.Pairwise.nil
  rw [List.append_nil] at hlist hlist'
  have hmap : pairs.map priority = pairs.map priority' :=
    List.map_congr_left fun p hp => (heq p hp).symm
  have hall : ((checkList priority pairs).map priority).Perm
      ((checkList priority' pairs').map priority') := by
    apply (hlist.map priority).trans
    rw [hmap]
    exact (hperm.map priority').trans (hlist'.map priority').symm
  refine @List.Perm.eq_of_pairwise _ (fun a b => b ≤ a) _ _ ?_ ?_ ?_ hall
  · intro a b _ _ hab hba
    exact Nat.le_antisymm hba hab
  · exact List.pairwise_map.mpr hsorted
  · exact List.pairwise_map.mpr hsorted'

end

/-! ### The two sides of a pair -/

/-- The candidates of a pair: the priority of the one of the controlling agent and of the other
one. -/
abbrev Sides := Nat × Nat

def controllingPriority (sides : Sides) : Nat := computeCandidatePairPriority sides.1 sides.2 true

def controlledPriority (sides : Sides) : Nat := computeCandidatePairPriority sides.2 sides.1 false

/-- The bit that tells the pairs apart whose sides are swapped. -/
def tieBit (sides : Sides) : Nat := if sides.2 < sides.1 then 1 else 0

/-- The priorities are below `2 ^ 32 - 1`. -/
def Bounded (sides : Sides) : Prop := sides.1 < 2 ^ 32 - 1 ∧ sides.2 < 2 ^ 32 - 1

instance : DecidablePred Bounded := fun sides =>
  inferInstanceAs (Decidable (sides.1 < 2 ^ 32 - 1 ∧ sides.2 < 2 ^ 32 - 1))

theorem tieBit_le (sides : Sides) : tieBit sides ≤ 1 := by
  rw [tieBit]
  split_ifs <;> omega

theorem controlledPriority_eq (sides : Sides) :
    controlledPriority sides = controllingPriority sides :=
  rfl

theorem controllingPriority_eq {sides : Sides} (h : Bounded sides) :
    controllingPriority sides =
      2 ^ 32 * min sides.1 sides.2 + 2 * max sides.1 sides.2 + tieBit sides := by
  obtain ⟨hg, hd⟩ := h
  have htie := tieBit_le sides
  have hmin : min sides.1 sides.2 ≤ 2 ^ 32 - 2 := by omega
  have hmax : max sides.1 sides.2 ≤ 2 ^ 32 - 2 := by omega
  change (2 ^ 32 * min sides.2 sides.1 + 2 * max sides.2 sides.1 + tieBit sides) % 2 ^ 64 = _
  rw [Nat.min_comm sides.2, Nat.max_comm sides.2]
  apply Nat.mod_eq_of_lt
  omega

/-- **Equal priorities**: the minimum and the maximum can only be told from each other as far as the
maximum does not reach `2 ^ 31`. -/
theorem controllingPriority_eq_iff {s t : Sides} (hs : Bounded s) (ht : Bounded t) :
    controllingPriority s = controllingPriority t ↔
      2 ^ 31 * min s.1 s.2 + max s.1 s.2 = 2 ^ 31 * min t.1 t.2 + max t.1 t.2 ∧
        tieBit s = tieBit t := by
  have hs' := tieBit_le s
  have ht' := tieBit_le t
  rw [controllingPriority_eq hs, controllingPriority_eq ht]
  omega

theorem eq_of_controllingPriority_eq {s t : Sides} (hs : s.1 < 2 ^ 31 ∧ s.2 < 2 ^ 31)
    (ht : t.1 < 2 ^ 31 ∧ t.2 < 2 ^ 31) (heq : controllingPriority s = controllingPriority t) :
    min s.1 s.2 = min t.1 t.2 ∧ max s.1 s.2 = max t.1 t.2 ∧ tieBit s = tieBit t := by
  have hbound : ∀ u : Sides, u.1 < 2 ^ 31 ∧ u.2 < 2 ^ 31 → Bounded u := by
    intro u hu
    exact ⟨by omega, by omega⟩
  obtain ⟨hsum, htie⟩ := (controllingPriority_eq_iff (hbound s hs) (hbound t ht)).mp heq
  have hmaxs : max s.1 s.2 < 2 ^ 31 := by omega
  have hmaxt : max t.1 t.2 < 2 ^ 31 := by omega
  exact ⟨by omega, by omega, htie⟩

/-- **Two agents with opposite roles**: for priorities below `2 ^ 32 - 1` both compute the same,
without overflow, and their lists are the same if the pairs come in in the same order and have the
same priorities however they come in.  Two pairs have equal priority exactly if they have the same
bit and the same `2 ^ 31 * min + max`, and so, for priorities below `2 ^ 31`, only if they have the
same minimum and maximum. -/
theorem pair_priorities_agree :
    (∀ s : Sides, Bounded s →
      controllingPriority s = controlledPriority s ∧
        controllingPriority s = 2 ^ 32 * min s.1 s.2 + 2 * max s.1 s.2 + tieBit s) ∧
    (∀ (sides : Nat → Sides) (pairs : List Nat), (∀ p ∈ pairs, Bounded (sides p)) →
      checkList (fun p => controllingPriority (sides p)) pairs =
          checkList (fun p => controlledPriority (sides p)) pairs ∧
        ∀ pairs', pairs.Perm pairs' →
          (checkList (fun p => controllingPriority (sides p)) pairs).map
              (fun p => controllingPriority (sides p)) =
            (checkList (fun p => controlledPriority (sides p)) pairs').map
              (fun p => controlledPriority (sides p))) ∧
    (∀ s t : Sides, Bounded s → Bounded t →
      (controllingPriority s = controllingPriority t ↔
        2 ^ 31 * min s.1 s.2 + max s.1 s.2 = 2 ^ 31 * min t.1 t.2 + max t.1 t.2 ∧
          tieBit s = tieBit t)) ∧
    (∀ s t : Sides, s.1 < 2 ^ 31 ∧ s.2 < 2 ^ 31 → t.1 < 2 ^ 31 ∧ t.2 < 2 ^ 31 →
      controllingPriority s = controllingPriority t →
        min s.1 s.2 = min t.1 t.2 ∧ max s.1 s.2 = max t.1 t.2 ∧ tieBit s = tieBit t) := by
  refine ⟨?_, ?_, ?_, ?_⟩
  · intro s hs
    exact ⟨(controlledPriority_eq s).symm, controllingPriority_eq hs⟩
  · intro sides pairs _
    refine ⟨rfl, fun pairs' hperm => ?_⟩
    exact map_checkList _ hperm fun p _ => controlledPriority_eq (sides p)
  · intro s t hs ht
    exact controllingPriority_eq_iff hs ht
  · intro s t hs ht heq
    exact eq_of_controllingPriority_eq hs ht heq

/-- Two host candidates and two server reflexive ones. -/
theorem pair_priorities_agree_sample :
    controllingPriority (2130706431, 1694498815) = controlledPriority (2130706431, 1694498815) ∧
      (controllingPriority (2130706431, 1694498815) = controllingPriority (5, 6) →
        min 2130706431 1694498815 = min 5 6) := by
  obtain ⟨hsame, -, -, hinj⟩ := pair_priorities_agree
  refine ⟨(hsame (2130706431, 1694498815) (by decide)).1, ?_⟩
  intro heq
  exact (hinj (2130706431, 1694498815) (5, 6) (by decide) (by decide) heq).1

/-- The pair with the priorities `0` and `2 ^ 31 + 1` has the priority of the one with `1` and
`1`. -/
theorem pair_priorities_collide :
    ¬ ∀ s t : Sides, Bounded s → Bounded t → controllingPriority s = controllingPriority t →
      min s.1 s.2 = min t.1 t.2 ∧ max s.1 s.2 = max t.1 t.2 ∧ tieBit s = tieBit t := by
  intro h
  have hmin := (h (0, 2 ^ 31 + 1) (1, 1) (by decide) (by decide) (by decide)).1
  exact absurd hmin (by decide)

end KvsWebrtc.Ice
