import Mathlib.Data.UInt

/-!
# 16-bit sequence numbers

Sequence numbers wrap: numbers at different distances from a first one are different up to 65536 of
them.  As the key of a table, a number is a 64-bit one.
-/

namespace KvsWebrtc.SeqNum

theorem toUInt64_inj {a b : UInt16} : a.toUInt64 = b.toUInt64 ↔ a = b := by
  constructor
  · intro h
    have hnat := congrArg UInt64.toNat h
    rw [UInt16.toNat_toUInt64, UInt16.toNat_toUInt64] at hnat
    exact UInt16.toNat_inj.mp hnat
  · rintro rfl
    rfl

/-- Numbers at different distances from a base are different. -/
theorem add_ofNat_inj {base : UInt16} {i j : Nat} (hi : i < 65536) (hj : j < 65536) :
    base + UInt16.ofNat i = base + UInt16.ofNat j ↔ i = j := by
  rw [← UInt16.toNat_inj, UInt16.toNat_add, UInt16.toNat_add, UInt16.toNat_ofNat',
    UInt16.toNat_ofNat']
  have hbase := base.toNat_lt
  omega

theorem add_ofNat_ne_self {base : UInt16} {i : Nat} (hpos : 0 < i) (hi : i < 65536) :
    base + UInt16.ofNat i ≠ base := by
  intro h
  have hzero : base + UInt16.ofNat 0 = base := UInt16.add_zero base
  exact absurd ((add_ofNat_inj hi (by decide)).mp (h.trans hzero.symm)) (by omega)

theorem add_ofNat_succ (base : UInt16) (i : Nat) :
    base + UInt16.ofNat (i + 1) = base + 1 + UInt16.ofNat i := by
  rw [UInt16.ofNat_add, UInt16.add_comm (UInt16.ofNat i), ← UInt16.add_assoc]
  rfl

theorem toNat_sub_succ {seqNum first : UInt16} (h : seqNum ≠ first) :
    (seqNum - first).toNat = (seqNum - (first + 1)).toNat + 1 := by
  have hne : seqNum.toNat ≠ first.toNat := fun heq => h (UInt16.toNat_inj.mp heq)
  have hseqNum := seqNum.toNat_lt
  have hfirst := first.toNat_lt
  rw [UInt16.toNat_sub, UInt16.toNat_sub, UInt16.toNat_add, show (1 : UInt16).toNat = 1 from rfl]
  omega

/-- The key in front of that of a number is the key of the number before, unless there is none. -/
theorem toUInt64_sub_one {base : UInt16} (h : base ≠ 0) :
    base.toUInt64 - 1 = (base - 1).toUInt64 := by
  rw [← UInt64.toNat_inj, UInt64.toNat_sub, UInt16.toNat_toUInt64, UInt16.toNat_toUInt64,
    UInt16.toNat_sub]
  have hpos : base.toNat ≠ 0 := fun hzero => h (UInt16.toNat_inj.mp hzero)
  have hlt := base.toNat_lt
  rw [show (1 : UInt64).toNat = 1 from rfl, show (1 : UInt16).toNat = 1 from rfl]
  omega

end KvsWebrtc.SeqNum
