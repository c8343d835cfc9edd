import KvsWebrtc.Common.Status
import Mathlib.Algebra.Ring.Int.Defs

/-!
# C strings

A buffer is the list of its bytes, behind which there is a terminating zero.
-/

namespace KvsWebrtc.Signaling

/-- `strchr`: the place of the first `c` before the terminating zero. -/
def strchr (c : UInt8) : List UInt8 → Option Nat
  | [] => none
  | b :: rest => if b = c then some 0 else if b = 0 then none else (strchr c rest).map (· + 1)

def isSpace (c : UInt8) : Bool := c = ' '.toUInt8 ∨ 9 ≤ c.toNat ∧ c.toNat ≤ 13

def isDigit (c : UInt8) : Bool := 48 ≤ c.toNat ∧ c.toNat ≤ 57

def digitsOf (s : List UInt8) : Nat :=
  (s.takeWhile isDigit).foldl (fun n c => 10 * n + (c.toNat - 48)) 0

/-- `atoi`, which is `(int) strtol(s, NULL, 10)` for a `long` of 64 bits. -/
def atoi (s : List UInt8) : Int :=
  let s := s.dropWhile isSpace
  let n : Int :=
    if s.head? = some '-'.toUInt8 then max (-(digitsOf s.tail : Int)) (-2 ^ 63)
    else if s.head? = some '+'.toUInt8 then min (digitsOf s.tail) (2 ^ 63 - 1)
    else min (digitsOf s) (2 ^ 63 - 1)
  (Int32.ofInt n).toInt

end KvsWebrtc.Signaling
