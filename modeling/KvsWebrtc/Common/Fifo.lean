import KvsWebrtc.Common.Run

/-!
# First in, first out

A queue of elements and what an implementation of it owes: what it stands for follows `after`, and
what a call returns is `output` (`Refines`).  `Ledger` keeps what was put into an implementation and
taken out of it since it was last cleared.  Along every run of an implementation the ledger is
balanced: what was put in is what was taken out, followed by what the queue holds (`Refines.along`),
and every call returns what the ledger says (`Refines.allSteps`).
-/

namespace KvsWebrtc.Fifo

variable {α σ ι ε : Type*}

/-- A call to a queue. -/
inductive Call (α : Type*)
  | push (l : List α)
  | pop (n : Nat)
  | clear

def output (q : List α) : Call α → List α
  | .pop n => q.take n
  | .push _ | .clear => []

def after (q : List α) : Call α → List α
  | .push l => q ++ l
  | .pop n => q.drop n
  | .clear => []

/-- A state, with what was put in and taken out since the last `clear`. -/
structure Ledger (σ α : Type*) where
  state : σ
  pushed : List α
  popped : List α

namespace Ledger

def unread (t : Ledger σ α) : List α := t.pushed.drop t.popped.length

def step (next : σ → ι → Except ε (List α) × σ) (call : ι → Call α) (t : Ledger σ α) (i : ι) :
    Ledger σ α :=
  match next t.state i, call i with
  | (.ok _, s), .push l => { state := s, pushed := t.pushed ++ l, popped := t.popped }
  | (.ok out, s), .pop _ => { state := s, pushed := t.pushed, popped := t.popped ++ out }
  | (.ok _, s), .clear => { state := s, pushed := [], popped := [] }
  | (.error _, s), _ => { t with state := s }

/-- The state stands for the queue that the ledger says. -/
def Balanced (R : σ → List α → Prop) (t : Ledger σ α) : Prop :=
  ∃ q, R t.state q ∧ t.pushed = t.popped ++ q

theorem unread_eq {t : Ledger σ α} {q : List α} (h : t.pushed = t.popped ++ q) : t.unread = q := by
  rw [unread, h, List.drop_left]

theorem Balanced.isPrefix {R : σ → List α → Prop} {t : Ledger σ α} (h : t.Balanced R) :
    t.popped <+: t.pushed := by
  obtain ⟨q, -, hq⟩ := h
  exact ⟨q, hq.symm⟩

end Ledger

/-- In every state that stands for a queue, a call that is `ok` does what it does to the queue. -/
def Refines (next : σ → ι → Except ε (List α) × σ) (call : ι → Call α) (R : σ → List α → Prop)
    (ok : σ → ι → Prop) : Prop :=
  ∀ s q i, R s q → ok s i → ∃ s', next s i = (.ok (output q (call i)), s') ∧ R s' (after q (call i))

variable {next : σ → ι → Except ε (List α) × σ} {call : ι → Call α} {R : σ → List α → Prop}
  {ok : σ → ι → Prop}

theorem Refines.balanced_step (h : Refines next call R ok) {t : Ledger σ α} {i : ι}
    (ht : t.Balanced R) (hok : ok t.state i) : (t.step next call i).Balanced R := by
  obtain ⟨q, hq, hpushed⟩ := ht
  obtain ⟨s', hnext, hs'⟩ := h t.state q i hq hok
  refine ⟨after q (call i), ?_⟩
  rw [Ledger.step, hnext]
  cases hcall : call i with
  | push l =>
    rw [hcall] at hs'
    refine ⟨hs', ?_⟩
    show t.pushed ++ l = t.popped ++ (q ++ l)
    rw [hpushed, List.append_assoc]
  | pop n =>
    rw [hcall] at hs'
    refine ⟨hs', ?_⟩
    show t.pushed = t.popped ++ q.take n ++ q.drop n
    rw [hpushed, List.append_assoc, List.take_append_drop]
  | clear =>
    rw [hcall] at hs'
    exact ⟨hs', rfl⟩

/-- **The ledger is balanced along every run.** -/
theorem Refines.along (h : Refines next call R ok) {t : Ledger σ α} {l : List ι} (ht : t.Balanced R)
    (hl : AllSteps (Ledger.step next call) (fun t i => ok t.state i) t l) :
    Along (Ledger.step next call) (Ledger.Balanced R) t l :=
  hl.along (fun _ _ ht hok => h.balanced_step ht hok) ht

/-- **Every call of a run returns what the ledger says.** -/
theorem Refines.allSteps (h : Refines next call R ok) {t : Ledger σ α} {l : List ι}
    (ht : t.Balanced R) (hl : AllSteps (Ledger.step next call) (fun t i => ok t.state i) t l) :
    AllSteps (Ledger.step next call)
      (fun t i => (next t.state i).1 = .ok (output t.unread (call i))) t l := by
  refine hl.imp (fun _ _ ht hok => h.balanced_step ht hok) ?_ ht
  rintro t i ⟨q, hq, hpushed⟩ hok
  obtain ⟨s', hnext, -⟩ := h t.state q i hq hok
  rw [hnext, Ledger.unread_eq hpushed]

end KvsWebrtc.Fifo
