import Mathlib.Data.List.Basic

/-!
# Runs of a transition function

A run folds a transition function over a list of inputs.  `AllSteps` says that every step of a run
meets a condition on the state before it and its input; `Along` says that a property holds in every
state of a run, the first and the last included.

Two rules connect them: a property that every step meeting the condition preserves holds along
every such run (`AllSteps.along`), and when the condition is exactly what the property needs to
survive one step, the property holds along a run if and only if its steps meet the condition
(`along_iff_allSteps`).  A loop that can fail follows a run of its abstraction (`foldlM_simulates`);
`reachedBy` is how far it gets.
-/

namespace KvsWebrtc

variable {σ α : Type*} {step : σ → α → σ} {ok : σ → α → Prop} {I P : σ → Prop}

/-- Every step of the run meets `ok` in the state it starts from. -/
def AllSteps (step : σ → α → σ) (ok : σ → α → Prop) : σ → List α → Prop
  | _, [] => True
  | s, a :: l => ok s a ∧ AllSteps step ok (step s a) l

/-- `P` holds in every state of the run. -/
def Along (step : σ → α → σ) (P : σ → Prop) : σ → List α → Prop
  | s, [] => P s
  | s, a :: l => P s ∧ Along step P (step s a) l

@[simp] theorem allSteps_nil (s : σ) : AllSteps step ok s [] := trivial

@[simp] theorem allSteps_cons (s : σ) (a : α) (l : List α) :
    AllSteps step ok s (a :: l) ↔ ok s a ∧ AllSteps step ok (step s a) l := Iff.rfl

@[simp] theorem along_cons (s : σ) (a : α) (l : List α) :
    Along step P s (a :: l) ↔ P s ∧ Along step P (step s a) l := Iff.rfl

instance AllSteps.decidable [∀ s a, Decidable (ok s a)] :
    ∀ (s : σ) (l : List α), Decidable (AllSteps step ok s l)
  | _, [] => .isTrue trivial
  | s, a :: l =>
    have := AllSteps.decidable (step s a) l
    inferInstanceAs (Decidable (ok s a ∧ AllSteps step ok (step s a) l))

theorem allSteps_append (s : σ) (l₁ l₂ : List α) :
    AllSteps step ok s (l₁ ++ l₂)
      ↔ AllSteps step ok s l₁ ∧ AllSteps step ok (l₁.foldl step s) l₂ := by
  induction l₁ generalizing s with
  | nil => simp
  | cons a l ih => simp [ih, and_assoc]

theorem allSteps_of_forall (h : ∀ s a, ok s a) (s : σ) (l : List α) : AllSteps step ok s l := by
  induction l generalizing s with
  | nil => trivial
  | cons a l ih => exact ⟨h s a, ih (step s a)⟩

theorem AllSteps.mono {ok' : σ → α → Prop} (himp : ∀ s a, ok s a → ok' s a) {s : σ} {l : List α}
    (h : AllSteps step ok s l) : AllSteps step ok' s l := by
  induction l generalizing s with
  | nil => trivial
  | cons a l ih => exact ⟨himp s a h.1, ih h.2⟩

theorem AllSteps.and {ok' : σ → α → Prop} {s : σ} {l : List α} (h : AllSteps step ok s l)
    (h' : AllSteps step ok' s l) : AllSteps step (fun s a => ok s a ∧ ok' s a) s l := by
  induction l generalizing s with
  | nil => trivial
  | cons a l ih => exact ⟨⟨h.1, h'.1⟩, ih h.2 h'.2⟩

theorem Along.head {s : σ} {l : List α} (h : Along step P s l) : P s := by
  cases l with
  | nil => exact h
  | cons a l => exact h.1

/-- `Along`, spelled out over the prefixes of the run. -/
theorem along_iff (s : σ) (l : List α) :
    Along step P s l ↔ ∀ l₁ l₂, l = l₁ ++ l₂ → P (l₁.foldl step s) := by
  induction l generalizing s with
  | nil =>
    constructor
    · intro h l₁ l₂ hl
      obtain ⟨rfl, -⟩ := List.append_eq_nil_iff.mp hl.symm
      exact h
    · intro h
      exact h [] [] rfl
  | cons a l ih =>
    rw [along_cons, ih]
    constructor
    · rintro ⟨hs, hl⟩ l₁ l₂ heq
      cases l₁ with
      | nil => exact hs
      | cons b l₁ =>
        obtain ⟨rfl, rfl⟩ := List.cons.inj heq
        exact hl l₁ l₂ rfl
    · intro h
      exact ⟨h [] (a :: l) rfl, fun l₁ l₂ heq => h (a :: l₁) l₂ (by rw [heq, List.cons_append])⟩

theorem Along.last {s : σ} {l : List α} (h : Along step P s l) : P (l.foldl step s) :=
  (along_iff s l).mp h l [] (List.append_nil l).symm

theorem Along.mono {Q : σ → Prop} (hPQ : ∀ s, P s → Q s) {s : σ} {l : List α}
    (h : Along step P s l) : Along step Q s l :=
  (along_iff s l).mpr fun l₁ l₂ heq => hPQ _ ((along_iff s l).mp h l₁ l₂ heq)

/-- **The invariant rule**: what every admissible step preserves holds along an admissible run. -/
theorem AllSteps.along (hstep : ∀ s a, I s → ok s a → I (step s a)) {s : σ} {l : List α}
    (h : AllSteps step ok s l) (hs : I s) : Along step I s l := by
  induction l generalizing s with
  | nil => exact hs
  | cons a l ih => exact ⟨hs, ih h.2 (hstep s a hs h.1)⟩

/-- What every step preserves holds along every run. -/
theorem along_of_step (hstep : ∀ s a, I s → I (step s a)) {s : σ} (hs : I s) (l : List α) :
    Along step I s l := by
  induction l generalizing s with
  | nil => exact hs
  | cons a l ih => exact ⟨hs, ih (hstep s a hs)⟩

/-- **The exact rule**: if in a state with the invariant `I` and with `P` the next state has `P`
exactly when the step meets `ok`, then `P` holds along a run exactly when all its steps meet
`ok`. -/
theorem along_iff_allSteps (hI : ∀ s a, I s → I (step s a))
    (hstep : ∀ s a, I s → P s → (P (step s a) ↔ ok s a)) {s : σ} (hi : I s) (hs : P s)
    (l : List α) : Along step P s l ↔ AllSteps step ok s l := by
  induction l generalizing s with
  | nil => exact ⟨fun _ => trivial, fun _ => hs⟩
  | cons a l ih =>
    rw [along_cons, allSteps_cons]
    constructor
    · rintro ⟨-, hl⟩
      have ha := (hstep s a hi hs).mp hl.head
      exact ⟨ha, (ih (hI s a hi) hl.head).mp hl⟩
    · rintro ⟨ha, hl⟩
      have hs' := (hstep s a hi hs).mpr ha
      exact ⟨hs, (ih (hI s a hi) hs').mpr hl⟩

/-- A condition that follows from another one in every state with `I`, which steps that meet it
preserve. -/
theorem AllSteps.imp {ok' : σ → α → Prop} (hstep : ∀ s a, I s → ok s a → I (step s a))
    (himp : ∀ s a, I s → ok s a → ok' s a) {s : σ} {l : List α} (h : AllSteps step ok s l)
    (hs : I s) :
    AllSteps step ok' s l := by
  induction l generalizing s with
  | nil => trivial
  | cons a l ih => exact ⟨himp s a hs h.1, ih h.2 (hstep s a hs h.1)⟩

/-- **The exact rule under a condition**: along a run whose steps all meet `ok'`, `P` holds exactly
when all its steps meet `ok`, if `I` implies `P` and survives exactly those steps. -/
theorem along_iff_allSteps_of {ok' : σ → α → Prop} (hIP : ∀ s, I s → P s)
    (hstep : ∀ s a, I s → ok' s a → ok s a → I (step s a))
    (hok : ∀ s a, I s → ok' s a → P (step s a) → ok s a) {s : σ} {l : List α}
    (h : AllSteps step ok' s l) (hs : I s) : Along step P s l ↔ AllSteps step ok s l := by
  induction l generalizing s with
  | nil => exact ⟨fun _ => trivial, fun _ => hIP s hs⟩
  | cons a l ih =>
    rw [along_cons, allSteps_cons]
    constructor
    · rintro ⟨-, hl⟩
      have ha := hok s a hs h.1 hl.head
      exact ⟨ha, (ih h.2 (hstep s a hs h.1 ha)).mp hl⟩
    · rintro ⟨ha, hl⟩
      exact ⟨hIP s hs, (ih h.2 (hstep s a hs h.1 ha)).mpr hl⟩

/-- Two conditions that agree in every state with `I`, which steps that meet them preserve, agree
along runs from such a state. -/
theorem allSteps_congr {ok' : σ → α → Prop} (hiff : ∀ s a, I s → (ok s a ↔ ok' s a))
    (hstep : ∀ s a, I s → ok s a → I (step s a)) {s : σ} (hs : I s) (l : List α) :
    AllSteps step ok s l ↔ AllSteps step ok' s l := by
  induction l generalizing s with
  | nil => exact Iff.rfl
  | cons a l ih =>
    rw [allSteps_cons, allSteps_cons, ← hiff s a hs]
    exact and_congr_right fun ha => ih (hstep s a hs ha)

theorem foldlM_cons_ok {ε : Type*} {f : σ → α → Except ε σ} {s s' : σ} {a : α} {l : List α}
    (h : (a :: l).foldlM f s = .ok s') : ∃ s₁, f s a = .ok s₁ ∧ l.foldlM f s₁ = .ok s' := by
  rw [List.foldlM_cons] at h
  cases hs : f s a with
  | error e =>
    rw [hs] at h
    exact absurd h (by simp [bind, Except.bind])
  | ok s₁ =>
    rw [hs] at h
    exact ⟨s₁, rfl, h⟩

/-- **The simulation rule**: where every step of a loop that succeeds follows a step of the
abstraction, a loop that succeeds follows a run of it. -/
theorem foldlM_simulates {ε τ : Type*} {f : σ → α → Except ε σ} {g : τ → α → τ} {R : σ → τ → Prop}
    (hstep : ∀ s t a s', f s a = .ok s' → R s t → R s' (g t a)) {s s' : σ} {t : τ} {l : List α}
    (h : l.foldlM f s = .ok s') (hR : R s t) : R s' (l.foldl g t) := by
  induction l generalizing s t with
  | nil =>
    obtain rfl := Except.ok.inj h
    exact hR
  | cons a l ih =>
    obtain ⟨s₁, hs, hl⟩ := foldlM_cons_ok h
    exact ih hl (hstep s t a s₁ hs hR)

/-! ### How far a loop gets -/

/-- The elements that a loop which can fail gets to: it fails at the last of them, or at none. -/
def reachedBy {ε : Type*} (f : σ → α → Except ε σ) : σ → List α → List α
  | _, [] => []
  | s, a :: l =>
    match f s a with
    | .error _ => [a]
    | .ok s' => a :: reachedBy f s' l

section ReachedBy

variable {ε : Type*} {f : σ → α → Except ε σ}

theorem reachedBy_of_error {s : σ} {a : α} {e : ε} (h : f s a = .error e) (l : List α) :
    reachedBy f s (a :: l) = [a] := by
  rw [reachedBy, h]

theorem reachedBy_of_ok {s s' : σ} {a : α} (h : f s a = .ok s') (l : List α) :
    reachedBy f s (a :: l) = a :: reachedBy f s' l := by
  rw [reachedBy, h]

theorem exists_reachedBy_cons (f : σ → α → Except ε σ) (s : σ) (a : α) (l : List α) :
    ∃ l', reachedBy f s (a :: l) = a :: l' := by
  cases h : f s a with
  | error e => exact ⟨[], reachedBy_of_error h l⟩
  | ok s' => exact ⟨_, reachedBy_of_ok h l⟩

/-- Loops with the same first element get equally far if they do behind it. -/
theorem reachedBy_cons_iff {s : σ} {a : α} {l l' : List α} :
    reachedBy f s (a :: l) = reachedBy f s (a :: l') ↔
      ∀ s', f s a = .ok s' → reachedBy f s' l = reachedBy f s' l' := by
  cases h : f s a with
  | error e =>
    rw [reachedBy_of_error h, reachedBy_of_error h]
    exact iff_of_true rfl nofun
  | ok s' =>
    rw [reachedBy_of_ok h, reachedBy_of_ok h, List.cons_inj_right]
    constructor
    · intro heq s'' hs''
      rwa [← Except.ok.inj hs'']
    · exact fun hall => hall s' rfl

theorem reachedBy_subset (s : σ) (l : List α) : reachedBy f s l ⊆ l := by
  induction l generalizing s with
  | nil => exact List.Subset.refl _
  | cons a l ih =>
    cases h : f s a with
    | error e =>
      rw [reachedBy_of_error h]
      exact List.cons_subset_cons a (List.nil_subset l)
    | ok s' =>
      rw [reachedBy_of_ok h]
      exact List.cons_subset_cons a (ih s')

/-- What a loop comes to is decided by the elements that it gets to. -/
theorem foldlM_reachedBy (s : σ) (l : List α) : (reachedBy f s l).foldlM f s = l.foldlM f s := by
  induction l generalizing s with
  | nil => rfl
  | cons a l ih =>
    cases h : f s a with
    | error e =>
      rw [reachedBy_of_error h, List.foldlM_cons, List.foldlM_cons, h]
      rfl
    | ok s' =>
      rw [reachedBy_of_ok h, List.foldlM_cons, List.foldlM_cons, h]
      exact ih s'

/-- A loop that succeeds gets to all elements. -/
theorem reachedBy_eq_self {s s' : σ} {l : List α} (h : l.foldlM f s = .ok s') :
    reachedBy f s l = l := by
  induction l generalizing s with
  | nil => rfl
  | cons a l ih =>
    obtain ⟨s₁, hs, hl⟩ := foldlM_cons_ok h
    rw [reachedBy_of_ok hs, ih hl]

end ReachedBy

end KvsWebrtc
