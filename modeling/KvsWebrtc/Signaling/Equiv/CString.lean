import KvsWebrtc.Signaling.CString

/-!
# Finding a byte

What `strchr` finds in a buffer that starts with a string without the byte: what it finds behind the
string, or nothing if the buffer ends there.
-/

namespace KvsWebrtc.Signaling

theorem strchr_append {c : UInt8} {s : List UInt8} (hc : c ∉ s) (h0 : 0 ∉ s) (rest : List UInt8) :
    strchr c (s ++ rest) = (strchr c rest).map (· + s.length) := by
  induction s with
  | nil => simp
  | cons b s ih =>
    simp only [List.mem_cons, not_or] at hc h0
    rw [List.cons_append, strchr, if_neg (Ne.symm hc.1), if_neg (Ne.symm h0.1), ih hc.2 h0.2,
      Option.map_map]
    rfl

theorem strchr_self (c : UInt8) (rest : List UInt8) : strchr c (c :: rest) = some 0 := by
  rw [strchr, if_pos rfl]

/-- The first `c` is the one behind a string without it. -/
theorem strchr_append_self {c : UInt8} {s : List UInt8} (hc : c ∉ s) (h0 : 0 ∉ s)
    (rest : List UInt8) :
    strchr c (s ++ c :: rest) = some s.length := by
  rw [strchr_append hc h0, strchr_self, Option.map_some, Nat.zero_add]

theorem strchr_eq_none {c : UInt8} {s : List UInt8} (hc : c ∉ s) (h0 : c ≠ 0) (rest : List UInt8) :
    strchr c (s ++ 0 :: rest) = none := by
  induction s with
  | nil => rw [List.nil_append, strchr, if_neg (Ne.symm h0), if_pos rfl]
  | cons b s ih =>
    rw [List.mem_cons, not_or] at hc
    rw [List.cons_append, strchr, if_neg (Ne.symm hc.1), ih hc.2]
    split_ifs <;> rfl

end KvsWebrtc.Signaling
