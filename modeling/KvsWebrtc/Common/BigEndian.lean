import KvsWebrtc.Common.Status
import Mathlib.Data.Nat.Init
import Mathlib.Tactic.Ring
import Mathlib.Tactic.SplitIfs

/-!
# Big-endian numbers

`beBytes n v` are the lowest `n` bytes of a number, the highest one first, and `beNat` reads a list
of bytes as a number.  `fieldAt` reads some bytes of a buffer, and fails behind its end.
-/

namespace KvsWebrtc

/-- The lowest `n` bytes of `v`, the highest one first. -/
def beBytes : Nat → Nat → List UInt8
  | 0, _ => []
  | n + 1, v => UInt8.ofNat (v / 256 ^ n) :: beBytes n v

def beNat : List UInt8 → Nat
  | [] => 0
  | b :: bs => b.toNat * 256 ^ bs.length + beNat bs

def bytesAt (buf : List UInt8) (i n : Nat) : List UInt8 := (buf.drop i).take n

/-- A read of `n` bytes at an offset. -/
def fieldAt (buf : List UInt8) (i n : Nat) : Except Failure (List UInt8) :=
  if i + n ≤ buf.length then .ok (bytesAt buf i n) else .error .outOfBounds

@[simp] theorem length_beBytes (n v : Nat) : (beBytes n v).length = n := by
  induction n with
  | zero => rfl
  | succ n ih => rw [beBytes, List.length_cons, ih]

/-- **Reading back** what was written, modulo the size. -/
theorem beNat_beBytes (n v : Nat) : beNat (beBytes n v) = v % 256 ^ n := by
  induction n with
  | zero => rw [beBytes, beNat, pow_zero, Nat.mod_one]
  | succ n ih =>
    rw [beBytes, beNat, length_beBytes, ih, UInt8.toNat_ofNat']
    show v / 256 ^ n % 256 * 256 ^ n + v % 256 ^ n = v % 256 ^ (n + 1)
    rw [pow_succ, Nat.mod_mul]
    ring

theorem beNat_beBytes_of_lt {n v : Nat} (h : v < 256 ^ n) : beNat (beBytes n v) = v := by
  rw [beNat_beBytes, Nat.mod_eq_of_lt h]

theorem beNat_lt (bs : List UInt8) : beNat bs < 256 ^ bs.length := by
  induction bs with
  | nil => exact Nat.one_pos
  | cons b bs ih =>
    have hb : b.toNat < 256 := b.toNat_lt
    rw [beNat, List.length_cons, pow_succ]
    calc b.toNat * 256 ^ bs.length + beNat bs
        < b.toNat * 256 ^ bs.length + 256 ^ bs.length := Nat.add_lt_add_left ih _
      _ = (b.toNat + 1) * 256 ^ bs.length := by ring
      _ ≤ 256 * 256 ^ bs.length := Nat.mul_le_mul_right _ hb
      _ = 256 ^ bs.length * 256 := Nat.mul_comm _ _

theorem beBytes_add (n v w : Nat) : beBytes n (w * 256 ^ n + v) = beBytes n v := by
  induction n generalizing w with
  | zero => rfl
  | succ n ih =>
    have hpow : w * 256 ^ (n + 1) = (w * 256) * 256 ^ n := by ring
    have hpos : 0 < 256 ^ n := Nat.pow_pos (by decide)
    rw [beBytes, beBytes, hpow, ih, Nat.add_comm, Nat.add_mul_div_right _ _ hpos]
    congr 1
    apply UInt8.toNat_inj.mp
    rw [UInt8.toNat_ofNat', UInt8.toNat_ofNat']
    exact Nat.add_mul_mod_self_right _ _ _

/-- **Writing back** what was read. -/
theorem beBytes_beNat (bs : List UInt8) : beBytes bs.length (beNat bs) = bs := by
  induction bs with
  | nil => rfl
  | cons b bs ih =>
    have hpos : 0 < 256 ^ bs.length := Nat.pow_pos (by decide)
    rw [List.length_cons, beBytes, beNat, beBytes_add, ih, Nat.add_comm,
      Nat.add_mul_div_right _ _ hpos, Nat.div_eq_of_lt (beNat_lt bs), Nat.zero_add,
      UInt8.ofNat_toNat]

/-! ### Bytes of a buffer -/

theorem fieldAt_eq_ok {buf : List UInt8} {i n : Nat} {b : List UInt8}
    (h : fieldAt buf i n = .ok b) :
    i + n ≤ buf.length ∧ b = bytesAt buf i n := by
  rw [fieldAt] at h
  split_ifs at h with hle
  exact ⟨hle, (Except.ok.inj h).symm⟩

theorem fieldAt_ok_iff {buf : List UInt8} {i n : Nat} {b : List UInt8} :
    fieldAt buf i n = .ok b ↔ i + n ≤ buf.length ∧ b = bytesAt buf i n := by
  refine ⟨fieldAt_eq_ok, ?_⟩
  rintro ⟨hle, rfl⟩
  rw [fieldAt, if_pos hle]

theorem length_bytesAt {buf : List UInt8} {i n : Nat} (h : i + n ≤ buf.length) :
    (bytesAt buf i n).length = n := by
  rw [bytesAt, List.length_take, List.length_drop]
  omega

theorem bytesAt_append (pre post : List UInt8) (i n : Nat) :
    bytesAt (pre ++ post) (pre.length + i) n = bytesAt post i n := by
  rw [bytesAt, List.drop_length_add_append]
  rfl

theorem bytesAt_of_le {b : List UInt8} {i n : Nat} (post : List UInt8) (h : i + n ≤ b.length) :
    bytesAt (b ++ post) i n = bytesAt b i n := by
  rw [bytesAt, bytesAt, List.drop_append_of_le_length (by omega), List.take_append_of_le_length]
  rw [List.length_drop]
  omega

theorem fieldAt_append {b : List UInt8} {i n : Nat} (pre post : List UInt8) (h : i + n ≤ b.length) :
    fieldAt (pre ++ (b ++ post)) (pre.length + i) n = .ok (bytesAt b i n) := by
  rw [fieldAt, if_pos, bytesAt_append, bytesAt_of_le post h]
  rw [List.length_append, List.length_append]
  omega

theorem bytesAt_middle {pre b : List UInt8} {i n : Nat} (hi : pre.length = i) (hn : b.length = n)
    (post : List UInt8) : bytesAt (pre ++ (b ++ post)) i n = b := by
  rw [← hi, ← hn, bytesAt, List.drop_left, List.take_left]

theorem fieldAt_middle {pre b : List UInt8} {i n : Nat} (hi : pre.length = i) (hn : b.length = n)
    (post : List UInt8) : fieldAt (pre ++ (b ++ post)) i n = .ok b := by
  rw [fieldAt, if_pos, bytesAt_middle hi hn]
  rw [List.length_append, List.length_append, hi, hn]
  omega

theorem take_append_bytesAt (buf : List UInt8) (i n : Nat) :
    buf.take i ++ bytesAt buf i n = buf.take (i + n) := by
  rw [bytesAt, List.take_add]

end KvsWebrtc
