import KvsWebrtc.Common.Status
import Mathlib.Data.List.Basic

/-!
# Reading memory

Functions of `string.h` on a memory that ends somewhere.  A pointer is the list of the characters
from it on, and a function that looks behind the last of them fails with `outOfBounds`.
-/

namespace KvsWebrtc.Memory

/-- `strncmp(s, p, strlen(s)) == 0`. -/
def startsWith : List Char → List Char → Except Failure Bool
  | [], _ => .ok true
  | _ :: _, [] => .error .outOfBounds
  | c :: s, d :: p => if c = d then startsWith s p else .ok false

/-- `strnchr`: the place of the first `c` among `n` characters. -/
def strnchr (c : Char) : Nat → List Char → Except Failure (Option Nat)
  | 0, _ => .ok none
  | _ + 1, [] => .error .outOfBounds
  | n + 1, d :: p => if d = c then .ok (some 0) else (strnchr c n p).map (Option.map (· + 1))

def strlen : List Char → Except Failure Nat
  | [] => .error .outOfBounds
  | c :: p => if c = '\x00' then .ok 0 else (strlen p).map (· + 1)

/-- What `strncpy` reads of `n` characters: nothing behind a zero. -/
def readChars : Nat → List Char → Except Failure (List Char)
  | 0, _ => .ok []
  | _ + 1, [] => .error .outOfBounds
  | n + 1, c :: p => if c = '\x00' then .ok [] else (readChars n p).map (c :: ·)

/-- `strncpy` of `n` characters into an array of `size` characters.  Behind a zero it writes
zeros. -/
def strncpy (size : Nat) (field source : List Char) (n : Nat) : Except Failure (List Char) :=
  if n ≤ size then do
    let text ← readChars n source
    .ok (if text.length < n then text else text ++ field.drop n)
  else .error .outOfBounds

theorem ok_bind {ε α β : Type} (x : α) (f : α → Except ε β) : (Except.ok x >>= f) = f x := rfl

variable {c : Char} {s p : List Char} {n : Nat}

/-- The comparison ends at a character that the text does not have. -/
theorem startsWith_append (hc : c ∉ s) (l rest : List Char) :
    startsWith s (l ++ c :: rest) = .ok (s.isPrefixOf l) := by
  induction s generalizing l with
  | nil => cases l <;> rfl
  | cons x s ih =>
    obtain ⟨hx, hs⟩ := List.ne_and_not_mem_of_not_mem_cons hc
    cases l with
    | nil => exact if_neg (Ne.symm hx)
    | cons y l =>
      rw [List.cons_append, startsWith, List.isPrefixOf]
      by_cases hxy : x = y
      · rw [if_pos hxy, ih hs, beq_iff_eq.mpr hxy, Bool.true_and]
      · rw [if_neg hxy, beq_eq_false_iff_ne.mpr hxy, Bool.false_and]

/-- The comparison ends at the latest where the memory has a character that the text does not
have. -/
theorem startsWith_of_mem (hmem : c ∈ p) (hc : c ∉ s) : startsWith s p = .ok (s.isPrefixOf p) := by
  induction s generalizing p with
  | nil => rfl
  | cons x s ih =>
    obtain ⟨hx, hs⟩ := List.ne_and_not_mem_of_not_mem_cons hc
    cases p with
    | nil => cases hmem
    | cons y p =>
      rw [startsWith, List.isPrefixOf]
      by_cases hxy : x = y
      · have hp : c ∈ p := (List.mem_cons.mp hmem).resolve_left fun h => hx (h.trans hxy.symm)
        rw [if_pos hxy, ih hp hs, beq_iff_eq.mpr hxy, Bool.true_and]
      · rw [if_neg hxy, beq_eq_false_iff_ne.mpr hxy, Bool.false_and]

theorem strnchr_eq (h : n ≤ p.length) : strnchr c n p = .ok ((p.take n).findIdx? (· == c)) := by
  induction n generalizing p with
  | zero => rfl
  | succ n ih =>
    cases p with
    | nil => exact absurd h (Nat.not_succ_le_zero n)
    | cons d p =>
      rw [strnchr, List.take_succ_cons, List.findIdx?_cons, ih (Nat.le_of_succ_le_succ h)]
      by_cases hd : d = c
      · rw [if_pos hd, if_pos (beq_iff_eq.mpr hd)]
      · rw [if_neg hd, if_neg (by simpa using hd)]
        rfl

theorem strlen_append (h : '\x00' ∉ s) (rest : List Char) :
    strlen (s ++ '\x00' :: rest) = .ok s.length := by
  induction s with
  | nil => rfl
  | cons c s ih =>
    obtain ⟨hc, hs⟩ := List.ne_and_not_mem_of_not_mem_cons h
    rw [List.cons_append, strlen, if_neg (Ne.symm hc), ih hs]
    rfl

theorem readChars_eq (h : n ≤ p.length) (hzero : '\x00' ∉ p.take n) :
    readChars n p = .ok (p.take n) := by
  induction n generalizing p with
  | zero => rfl
  | succ n ih =>
    cases p with
    | nil => exact absurd h (Nat.not_succ_le_zero n)
    | cons d p =>
      rw [List.take_succ_cons] at hzero
      obtain ⟨hd, hp⟩ := List.ne_and_not_mem_of_not_mem_cons hzero
      rw [readChars, if_neg (Ne.symm hd), ih (Nat.le_of_succ_le_succ h) hp, List.take_succ_cons]
      rfl

theorem strncpy_eq (h : n ≤ p.length) (hzero : '\x00' ∉ p.take n) (size : Nat) (field : List Char) :
    strncpy size field p n = if n ≤ size then .ok (p.take n ++ field.drop n)
      else .error .outOfBounds := by
  have hlen : ¬ (p.take n).length < n := by
    rw [List.length_take]
    omega
  rw [strncpy, readChars_eq h hzero, ok_bind, if_neg hlen]

end KvsWebrtc.Memory
