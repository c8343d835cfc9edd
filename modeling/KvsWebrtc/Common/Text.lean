import Mathlib.Algebra.Ring.Nat
import Mathlib.Data.List.Basic
import Mathlib.Data.List.TakeWhile

/-!
# Texts of C

A string of C is the list of its characters, without the zero that ends it.  The functions are those
of `string.h` and `stdio.h`, as far as the session descriptions use them.
-/

namespace KvsWebrtc.Text

/-- `strncmp(s, t, n) == 0`. -/
def sameUpTo (n : Nat) (s t : List Char) : Bool := s.take n == t.take n

def firstToken (s : List Char) : List Char := s.takeWhile (· != ' ')

/-- What stands behind the first blank, if there is one. -/
def afterBlank (s : List Char) : Option (List Char) :=
  match s.dropWhile (· != ' ') with
  | [] => none
  | _ :: rest => some rest

/-- The texts between the blanks, empty ones included. -/
def tokens : List Char → List (List Char)
  | [] => [[]]
  | c :: s =>
    if c = ' ' then [] :: tokens s
    else
      match tokens s with
      | [] => [[c]]
      | t :: ts => (c :: t) :: ts

/-- The lines that end in a newline, without it, and what is behind the last of them. -/
def splitLines : List Char → List (List Char) × List Char
  | [] => ([], [])
  | c :: s =>
    let (lines, last) := splitLines s
    if c = '\n' then ([] :: lines, last)
    else
      match lines with
      | [] => ([], c :: last)
      | line :: lines => ((c :: line) :: lines, last)

/-- `strstr`: what stands before the first place where `needle` starts, and the text from there
on. -/
def strstr (needle : List Char) : List Char → Option (List Char × List Char)
  | [] => if needle = [] then some ([], []) else none
  | c :: s =>
    if needle.isPrefixOf (c :: s) then some ([], c :: s)
    else (strstr needle s).map fun p => (c :: p.1, p.2)

/-- `strcasestr`, as a test. -/
def hasIgnoringCase (needle s : List Char) : Bool :=
  (strstr (needle.map Char.toLower) (s.map Char.toLower)).isSome

/-- What `snprintf` leaves in a buffer for `size` characters and the zero. -/
def clip (size : Nat) (s : List Char) : List Char := s.take size

/-- `%d` of a number that is not negative. -/
def decimal (n : Nat) : List Char := Nat.toDigits 10 n

/-- `PRId64` of an unsigned number of 64 bits: from `2 ^ 63` on it is taken for a negative one. -/
def decimal64 (n : Nat) : List Char :=
  if n < 2 ^ 63 then decimal n else '-' :: decimal (2 ^ 64 - n)

def hexDigit? (c : Char) : Option Nat :=
  if '0' ≤ c ∧ c ≤ '9' then some (c.toNat - '0'.toNat)
  else if 'a' ≤ c ∧ c ≤ 'f' then some (c.toNat - 'a'.toNat + 10)
  else if 'A' ≤ c ∧ c ≤ 'F' then some (c.toNat - 'A'.toNat + 10)
  else none

/-- The number that the hexadecimal digits at the start of a text encode after `acc`. -/
def hexNumber (acc : Nat) : List Char → Nat
  | [] => acc
  | c :: s =>
    match hexDigit? c with
    | none => acc
    | some d => hexNumber (acc * 16 + d) s

/-- `sscanf(s, "%x", ..)` into 32 bits: blanks, a sign and `0x` are skipped. -/
def scanHex (s : List Char) : Option Nat :=
  let s := s.dropWhile Char.isWhitespace
  let negative := s.head? = some '-'
  let s := if s.head? = some '-' ∨ s.head? = some '+' then s.tail else s
  let s := if s.take 2 = ['0', 'x'] ∨ s.take 2 = ['0', 'X'] then s.drop 2 else s
  match s with
  | [] => none
  | c :: _ =>
    if (hexDigit? c).isSome then
      let n := min (hexNumber 0 s) (2 ^ 64 - 1)
      some ((if negative then 2 ^ 64 - n else n) % 2 ^ 32)
    else none

/-! ### Tokens -/

theorem bne_blank {s : List Char} (h : ' ' ∉ s) : ∀ c ∈ s, (c != ' ') = true := by
  intro c hc
  have hne : c ≠ ' ' := fun he => h (he ▸ hc)
  simpa using hne

theorem firstToken_append_blank {s : List Char} (h : ' ' ∉ s) (rest : List Char) :
    firstToken (s ++ ' ' :: rest) = s := by
  unfold firstToken
  rw [List.takeWhile_append_of_pos (bne_blank h)]
  simp

theorem tokens_eq_self {s : List Char} (h : ' ' ∉ s) : tokens s = [s] := by
  induction s with
  | nil => rfl
  | cons c s ih =>
    have hc : c ≠ ' ' := fun he => h (he ▸ List.mem_cons_self)
    rw [tokens, if_neg hc, ih fun hs => h (List.mem_cons_of_mem c hs)]

theorem tokens_append_blank {s : List Char} (h : ' ' ∉ s) (rest : List Char) :
    tokens (s ++ ' ' :: rest) = s :: tokens rest := by
  induction s with
  | nil => rfl
  | cons c s ih =>
    have hc : c ≠ ' ' := fun he => h (he ▸ List.mem_cons_self)
    rw [List.cons_append, tokens, if_neg hc, ih fun hs => h (List.mem_cons_of_mem c hs)]

theorem firstToken_clip {size : Nat} {s : List Char} (h : ' ' ∉ s) (hs : s.length < size)
    (rest : List Char) : firstToken (clip size (s ++ ' ' :: rest)) = s := by
  obtain ⟨k, hk⟩ : ∃ k, size - s.length = k + 1 := ⟨size - s.length - 1, by omega⟩
  rw [clip, List.take_append, List.take_of_length_le (Nat.le_of_lt hs), hk, List.take_succ_cons]
  exact firstToken_append_blank h _

theorem clip_eq_self {size : Nat} {s : List Char} (hs : s.length ≤ size) : clip size s = s :=
  List.take_of_length_le hs

/-! ### Printed numbers -/

theorem splitLines_of_not_mem {s : List Char} (h : '\n' ∉ s) : splitLines s = ([], s) := by
  induction s with
  | nil => rfl
  | cons c s ih =>
    rw [List.mem_cons, not_or] at h
    simp [splitLines, ih h.2, Ne.symm h.1]

theorem splitLines_line {line : List Char} (h : '\n' ∉ line) (next : List Char) :
    splitLines (line ++ '\n' :: next) = (line :: (splitLines next).1, (splitLines next).2) := by
  induction line with
  | nil => simp [splitLines]
  | cons c line ih =>
    rw [List.mem_cons, not_or] at h
    simp [splitLines, ih h.2, Ne.symm h.1]

theorem decimal_injective : Function.Injective decimal := by
  intro m n h
  have hm : Nat.ofDigitChars 10 (decimal m) 0 = m := Nat.ofDigitChars_ten_toDigits
  have hn : Nat.ofDigitChars 10 (decimal n) 0 = n := Nat.ofDigitChars_ten_toDigits
  rw [← hm, h, hn]

theorem isDigit_of_mem_decimal {n : Nat} {c : Char} (h : c ∈ decimal n) : c.isDigit :=
  Nat.isDigit_of_mem_toDigits (by decide) (by decide) h

theorem decimal64_of_lt {n : Nat} (h : n < 2 ^ 63) : decimal64 n = decimal n := if_pos h

/-- A number that is printed as one that is not negative was not changed. -/
theorem eq_of_decimal64_eq {m n : Nat} (h : decimal64 n = decimal m) : n = m := by
  rw [decimal64] at h
  split at h
  · exact decimal_injective h
  · have hminus : '-' ∈ decimal m := h ▸ List.mem_cons_self
    exact absurd (isDigit_of_mem_decimal hminus) (by decide)

theorem blank_notMem_decimal64 (n : Nat) : ' ' ∉ decimal64 n := by
  have hblank : ∀ k, ' ' ∉ decimal k := fun k h => absurd (isDigit_of_mem_decimal h) (by decide)
  unfold decimal64
  split
  · exact hblank n
  · rw [List.mem_cons, not_or]
    exact ⟨by decide, hblank _⟩

theorem length_decimal64_le (n : Nat) : (decimal64 n).length ≤ 20 := by
  have hlen : ∀ k < 10 ^ 19, (decimal k).length ≤ 19 := fun k hk =>
    (Nat.length_toDigits_le_iff (by decide) (by decide)).mpr hk
  unfold decimal64
  split
  · have := hlen n (by omega)
    omega
  · have := hlen (2 ^ 64 - n) (by omega)
    rw [List.length_cons]
    omega

end KvsWebrtc.Text
