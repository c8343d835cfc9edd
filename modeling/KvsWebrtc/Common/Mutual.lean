import Mathlib.Logic.Function.Basic

/-!
# Mutual references

A partial function on a type of nodes, read as a reference that a node may hold to a node.  `Mutual`
says that references are always returned.  The lemmas say what linking two nodes, taking the
references of a linked pair away, and taking one node's reference away do to it.
-/

namespace KvsWebrtc

variable {ι : Type*} {f : ι → Option ι} {s p i j : ι}

def Mutual (f : ι → Option ι) : Prop := ∀ i j, f i = some j → f j = some i

/-- The reference of `s`, if there is one, is to `s` or to `p`. -/
def RefersWithin (f : ι → Option ι) (s p : ι) : Prop := ∀ j, f s = some j → j = s ∨ j = p

theorem mutual_none : Mutual fun _ : ι => none := by
  intro i j h
  cases h

variable [DecidableEq ι]

/-- `s` and `p` refer to each other. -/
def link (f : ι → Option ι) (s p : ι) : ι → Option ι :=
  Function.update (Function.update f s (some p)) p (some s)

/-- Neither `s` nor `p` refers to anything. -/
def unlink (f : ι → Option ι) (s p : ι) : ι → Option ι :=
  Function.update (Function.update f p none) s none

theorem link_right : link f s p p = some s := Function.update_self ..

theorem link_left : link f s p s = some p := by
  unfold link
  by_cases h : s = p
  · rw [h, Function.update_self]
  · rw [Function.update_of_ne h, Function.update_self]

theorem link_of_ne (hs : i ≠ s) (hp : i ≠ p) : link f s p i = f i := by
  rw [link, Function.update_of_ne hp, Function.update_of_ne hs]

theorem Mutual.refersWithin_of_link_left (h : Mutual f) (hl : Mutual (link f s p)) :
    RefersWithin f s p := by
  intro j hj
  by_contra hne
  obtain ⟨hjs, hjp⟩ := not_or.mp hne
  -- `j` still refers to `s`, which now refers to `p`
  have hback : link f s p j = some s := by
    rw [link_of_ne hjs hjp]
    exact h s j hj
  have heq := hl j s hback
  rw [link_left] at heq
  exact hjp (Option.some.inj heq).symm

theorem link_comm : link f s p = link f p s := by
  unfold link
  by_cases h : s = p
  · rw [h]
  · exact Function.update_comm h _ _ f

/-- Linking two nodes keeps references mutual exactly if neither refers to a third node. -/
theorem Mutual.link_iff (h : Mutual f) :
    Mutual (link f s p) ↔ RefersWithin f s p ∧ RefersWithin f p s := by
  constructor
  · intro hl
    refine ⟨h.refersWithin_of_link_left hl, h.refersWithin_of_link_left ?_⟩
    rwa [link_comm]
  · rintro ⟨hs, hp⟩ i j hij
    by_cases his : i = s
    · subst i
      rw [link_left] at hij
      obtain rfl := Option.some.inj hij
      exact link_right
    by_cases hip : i = p
    · subst i
      rw [link_right] at hij
      obtain rfl := Option.some.inj hij
      exact link_left
    -- a third node refers to neither of the two, because they do not refer to it
    rw [link_of_ne his hip] at hij
    have hji := h i j hij
    have hjs : j ≠ s := by
      rintro rfl
      exact (hs i hji).elim his hip
    have hjp : j ≠ p := by
      rintro rfl
      exact (hp i hji).elim hip his
    rw [link_of_ne hjs hjp]
    exact hji

/-- Taking the reference of `s` away keeps references mutual exactly if it was to no other node. -/
theorem Mutual.update_none_iff (h : Mutual f) :
    Mutual (Function.update f s none) ↔ RefersWithin f s s := by
  constructor
  · intro hu j hj
    by_contra hne
    have hjs : j ≠ s := fun heq => hne (Or.inl heq)
    have hback : Function.update f s none j = some s := by
      rw [Function.update_of_ne hjs]
      exact h s j hj
    have heq := hu j s hback
    rw [Function.update_self] at heq
    cases heq
  · intro hs i j hij
    by_cases his : i = s
    · subst i
      rw [Function.update_self] at hij
      cases hij
    rw [Function.update_of_ne his] at hij
    have hji := h i j hij
    have hjs : j ≠ s := by
      rintro rfl
      exact his ((hs i hji).elim id id)
    rw [Function.update_of_ne hjs]
    exact hji

/-- Taking the references of a pair away keeps references mutual. -/
theorem Mutual.unlink (h : Mutual f) (hp : f s = some p) : Mutual (unlink f s p) := by
  intro i j hij
  unfold KvsWebrtc.unlink at hij ⊢
  by_cases his : i = s
  · subst i
    rw [Function.update_self] at hij
    cases hij
  rw [Function.update_of_ne his] at hij
  by_cases hip : i = p
  · subst i
    rw [Function.update_self] at hij
    cases hij
  rw [Function.update_of_ne hip] at hij
  have hji := h i j hij
  have hjs : j ≠ s := by
    rintro rfl
    rw [hp] at hji
    exact hip (Option.some.inj hji).symm
  have hjp : j ≠ p := by
    rintro rfl
    rw [h s j hp] at hji
    exact his (Option.some.inj hji).symm
  rw [Function.update_of_ne hjs, Function.update_of_ne hjp]
  exact hji

end KvsWebrtc
