import KvsWebrtc.Rtp.Equiv.Payloader
import KvsWebrtc.Rtp.Codecs
import Mathlib.Data.List.TakeWhile
import Mathlib.Tactic.SplitIfs

/-!
# The search for start codes

`plainScan` looks for a start code at every byte.  The scan that skips bytes finds the same NAL
unit, because the zeros of a start code that ends behind a byte other than zero stand behind that
byte too (`getNextNaluLength_of_staysBelow`).  Only its offset can leave 32 bits, in a buffer of `2
^ 32 - 2` bytes or more; when this happens it reads behind the buffer
(`getNextNaluLength_of_not_staysBelow`).
-/

namespace KvsWebrtc.Rtp

/-! ### The loop over the NAL units -/

/-- `createPayloads` with a bound on the rounds of its loop. -/
def createPayloadsWithin (fu : FragmentationUnit) (mtu : Nat) :
    Nat → List UInt8 → Option Room → Filled → Option (Except Failure Filled)
  | 0, _, _, _ => none
  | rounds + 1, nalus, room, f =>
    match getNextNaluLength nalus with
    | .error e => some (.error e)
    | .ok (startIndex, nextNaluLength) =>
      let cur := nalus.drop startIndex
      if cur = [] then some (.ok f)
      else
        match createPayloadFromNaluWith fu mtu (cur.take nextNaluLength) room with
        | .error e => some (.error e)
        | .ok g =>
          let rest := cur.drop nextNaluLength
          if rest = [] then some (.ok (f.append g))
          else createPayloadsWithin fu mtu rounds rest (room.map (·.sub g)) (f.append g)

theorem three_le_of_getNextNaluLength {nalus : List UInt8} {start len : Nat}
    (h : getNextNaluLength nalus = .ok (start, len)) : 3 ≤ start ∧ 3 ≤ nalus.length := by
  simp only [getNextNaluLength] at h
  split_ifs at h with hcode
  cases hscan : findStartCode nalus (leadingZeros nalus + 1) with
  | error e =>
    rw [hscan] at h
    cases h
  | ok r =>
    rw [hscan] at h
    obtain ⟨rfl, -⟩ := Prod.mk.inj (Except.ok.inj h)
    omega

/-- Every round takes three bytes at least, so that the loop ends. -/
theorem createPayloadsWithin_eq (fu : FragmentationUnit) (mtu : Nat) {rounds : Nat}
    {nalus : List UInt8} (hrounds : nalus.length < 3 * rounds) (room : Option Room) (f : Filled) :
    createPayloadsWithin fu mtu rounds nalus room f = some
    (createPayloads fu mtu nalus room f) := by
  induction rounds generalizing nalus room f with
  | zero => omega
  | succ rounds ih =>
    rw [createPayloadsWithin, createPayloads]
    cases hnext : getNextNaluLength nalus with
    | error e => rfl
    | ok r =>
      obtain ⟨start, len⟩ := r
      have hthree := three_le_of_getNextNaluLength hnext
      simp only
      by_cases hcur : nalus.drop start = []
      · rw [if_pos hcur, if_pos hcur]
      · rw [if_neg hcur, if_neg hcur]
        cases createPayloadFromNaluWith fu mtu ((nalus.drop start).take len) room with
        | error e => rfl
        | ok g =>
          simp only
          by_cases hrest : (nalus.drop start).drop len = []
          · rw [if_pos hrest, if_pos hrest]
          · rw [if_neg hrest, if_neg hrest]
            apply ih
            rw [List.length_drop, List.length_drop]
            omega

/-! ### The plain scan -/

def BeginsStartCode (l : List UInt8) : Prop := [0, 0, 1] <+: l ∨ [0, 0, 0, 1] <+: l

instance (l : List UInt8) : Decidable (BeginsStartCode l) := inferInstanceAs (Decidable (_ ∨ _))

/-- The number of bytes before the first start code, or before the end. -/
def plainLength : List UInt8 → Nat
  | [] => 0
  | b :: l => if BeginsStartCode (b :: l) then 0 else plainLength l + 1

/-- Where the first NAL unit starts, and its length. -/
def plainScan (nalus : List UInt8) : Except Failure (Nat × Nat) :=
  if [0, 0, 1] <+: nalus then .ok (3, plainLength (nalus.drop 3))
  else if [0, 0, 0, 1] <+: nalus then .ok (4, plainLength (nalus.drop 4))
  else .error (.status .rtpInvalidNalu)

variable {nalus l : List UInt8} {p q k : Nat}

/-- The length is the first place where there is a start code or the end. -/
theorem plainLength_eq (hk : k ≤ l.length) (hno : ∀ j < k, ¬ BeginsStartCode (l.drop j))
    (hend : k = l.length ∨ BeginsStartCode (l.drop k)) : plainLength l = k := by
  induction l generalizing k with
  | nil => exact (Nat.le_zero.mp hk).symm
  | cons b l ih =>
    rw [plainLength]
    cases k with
    | zero => exact if_pos (hend.resolve_left (Nat.succ_ne_zero _).symm)
    | succ k =>
      have hfirst : ¬ BeginsStartCode (b :: l) := hno 0 (Nat.succ_pos k)
      rw [if_neg hfirst, ih (Nat.le_of_succ_le_succ hk)]
      · exact fun j hj => hno (j + 1) (Nat.succ_lt_succ hj)
      · exact hend.imp_left Nat.succ.inj

theorem three_prefix_drop {i : Nat} : [0, 0, 1] <+: nalus.drop i ↔ EndsStartCode nalus (i + 2) := by
  rw [List.prefix_iff_getElem?]
  simp only [List.getElem?_drop]
  constructor
  · intro h
    exact ⟨h 2 (by decide), h 1 (by decide), h 0 (by decide)⟩
  · rintro ⟨h2, h1, h0⟩ j hj
    match j with
    | 0 => exact h0
    | 1 => exact h1
    | 2 => exact h2

theorem four_prefix_drop {i : Nat} :
    [0, 0, 0, 1] <+: nalus.drop i ↔ nalus[i]? = some 0 ∧ EndsStartCode nalus (i + 3) := by
  rw [List.prefix_iff_getElem?]
  simp only [List.getElem?_drop]
  constructor
  · intro h
    exact ⟨h 0 (by decide), h 3 (by decide), h 2 (by decide), h 1 (by decide)⟩
  · rintro ⟨h0, h3, h2, h1⟩ j hj
    match j with
    | 0 => exact h0
    | 1 => exact h1
    | 2 => exact h2
    | 3 => exact h3

def zerosBefore (nalus : List UInt8) (e : Nat) : Nat := if nalus[e - 3]? = some 0 then 3 else 2

/-- Behind the `1` of a start code, the zeros of the next one are behind it too. -/
theorem EndsStartCode.le (hone : nalus[p]? = some 1) (hq : p + 1 ≤ q) (h : EndsStartCode nalus q) :
    p + 1 + zerosBefore nalus q ≤ q := by
  obtain ⟨-, h1, h2⟩ := h
  have hne : ∀ i, nalus[i]? = some 0 → p ≠ i := by
    rintro i hi rfl
    exact absurd (Option.some.inj (hone.symm.trans hi)) (by decide)
  have hn1 := hne _ h1
  have hn2 := hne _ h2
  rw [zerosBefore]
  split_ifs with h3
  · have hn3 := hne _ h3
    omega
  · omega

/-- The plain scan ends at the zeros of the first start code. -/
theorem plainLength_found (hone : nalus[p]? = some 1) (hpq : p + 1 ≤ q) (h : EndsStartCode nalus q)
    (hno : ∀ i, p + 1 ≤ i → i < q → ¬ EndsStartCode nalus i) :
    plainLength (nalus.drop (p + 1)) = q - zerosBefore nalus q - (p + 1) := by
  have hle := h.le hone hpq
  have hq := (List.getElem?_eq_some_iff.mp h.1).1
  apply plainLength_eq
  · rw [List.length_drop]
    omega
  · intro j hj
    rw [List.drop_drop]
    rintro (h3 | h4)
    · have htwo : 2 ≤ zerosBefore nalus q := by
        rw [zerosBefore]
        split_ifs <;> decide
      exact hno _ (by omega) (by omega) (three_prefix_drop.mp h3)
    · obtain ⟨hzero, hends⟩ := four_prefix_drop.mp h4
      by_cases hq3 : p + 1 + j + 3 = q
      · -- the byte before the two zeros is the third one
        have hthree : zerosBefore nalus q = 3 := by
          rw [zerosBefore, if_pos]
          rw [← hq3]
          exact hzero
        omega
      · refine hno _ (by omega) ?_ hends
        rw [zerosBefore] at hj
        split_ifs at hj <;> omega
  · right
    rw [List.drop_drop, show p + 1 + (q - zerosBefore nalus q - (p + 1)) =
      q - zerosBefore nalus q by omega]
    rw [zerosBefore] at hle ⊢
    split_ifs at hle ⊢ with hzero
    · refine .inr (four_prefix_drop.mpr ⟨hzero, ?_⟩)
      rwa [Nat.sub_add_cancel (by omega)]
    · refine .inl (three_prefix_drop.mpr ?_)
      rwa [Nat.sub_add_cancel (by omega)]

/-- Without a start code the plain scan runs to the end. -/
theorem plainLength_end (hno : ∀ i, p ≤ i → ¬ EndsStartCode nalus i) :
    plainLength (nalus.drop p) = (nalus.drop p).length := by
  apply plainLength_eq le_rfl
  · intro j _
    rw [List.drop_drop]
    rintro (h3 | h4)
    · exact hno _ (by omega) (three_prefix_drop.mp h3)
    · exact hno _ (by omega) (four_prefix_drop.mp h4).2
  · exact .inl rfl

/-! ### The start code at the beginning -/

theorem beginsStartCode_iff : BeginsStartCode nalus ↔ ∃ b rest, nalus = startCode b ++ rest := by
  constructor
  · rintro (⟨rest, h⟩ | ⟨rest, h⟩)
    · exact ⟨false, rest, h.symm⟩
    · exact ⟨true, rest, h.symm⟩
  · rintro ⟨b, rest, rfl⟩
    cases b with
    | false => exact .inl ⟨rest, rfl⟩
    | true => exact .inr ⟨rest, rfl⟩

theorem plainScan_startCode (b : Bool) (rest : List UInt8) :
    plainScan (startCode b ++ rest) = .ok (zerosOf b + 1, plainLength rest) := by
  cases b with
  | false => exact if_pos ⟨rest, rfl⟩
  | true =>
    have hthree : ¬ [0, 0, 1] <+: startCode true ++ rest := by
      rintro ⟨t, ht⟩
      exact absurd (List.cons.inj (List.cons.inj (List.cons.inj ht).2).2).1 (by decide)
    exact (if_neg hthree).trans (if_pos ⟨rest, rfl⟩)

theorem beginsStartCode_of_leadingZeros (hlt : leadingZeros nalus < 4)
    (hge : 2 ≤ leadingZeros nalus) (hone : nalus[leadingZeros nalus]? = some 1) :
    BeginsStartCode nalus := by
  have htakeWhile := (List.takeWhile_prefix (p := (· == 0)) (l := nalus.take 4)).trans
    (List.take_prefix 4 nalus)
  have hzeros : ∀ i < leadingZeros nalus, nalus[i]? = some 0 := by
    intro i hi
    rw [List.prefix_iff_getElem?.mp htakeWhile i hi]
    exact congrArg some (beq_iff_eq.mp (List.mem_takeWhile_imp (p := (· == 0))
      (List.getElem_mem hi)))
  obtain h | h : leadingZeros nalus = 2 ∨ leadingZeros nalus = 3 := by omega
  · rw [h] at hzeros hone
    exact .inl (three_prefix_drop (i := 0).mpr ⟨hone, hzeros 1 (by decide), hzeros 0 (by decide)⟩)
  · rw [h] at hzeros hone
    exact .inr (four_prefix_drop (i := 0).mpr
      ⟨hzeros 0 (by decide), hone, hzeros 2 (by decide), hzeros 1 (by decide)⟩)

/-- A buffer without a start code is rejected. -/
theorem getNextNaluLength_invalid (h : ¬ BeginsStartCode nalus) :
    getNextNaluLength nalus = .error (.status .rtpInvalidNalu) := by
  simp only [getNextNaluLength]
  rw [if_neg]
  rintro ⟨-, hlt, hge, hone⟩
  exact h (beginsStartCode_of_leadingZeros hlt hge hone)

theorem getNextNaluLength_scan (b : Bool) (rest : List UInt8) :
    getNextNaluLength (startCode b ++ rest) =
      match findStartCode (startCode b ++ rest) (zerosOf b + 1) with
      | .error e => .error e
      | .ok (last, zeroCount) =>
        .ok (zerosOf b + 1, min last (startCode b ++ rest).length - (zerosOf b +
          1) - zeroCount) := by
  have hz : zerosOf b = 2 ∨ zerosOf b = 3 := by cases b <;> decide
  have hlen : zerosOf b < (startCode b ++ rest).length := by
    rw [List.length_append, length_startCode]
    omega
  simp only [getNextNaluLength, leadingZeros_startCode]
  exact if_pos ⟨hlen, by omega, by omega, startCode_zerosOf b rest⟩

/-! ### The scan that skips bytes -/

/-- The places that the scan comes to: the next one behind a zero, the third one behind another
byte. -/
inductive ScanReaches (nalus : List UInt8) : Nat → Nat → Prop
  | here (p : Nat) : ScanReaches nalus p p
  | zero {p q : Nat} : nalus[p]? = some 0 → ScanReaches nalus (p + 1) q → ScanReaches nalus p q
  | skip {p q : Nat} {b : UInt8} : nalus[p]? = some b → b ≠ 0 → ScanReaches nalus (p + 3) q →
    ScanReaches nalus p q

/-- A round of the scan at a byte that is not the end of a start code. -/
theorem findStartCode_step (hp : p < 2 ^ 32) {b : UInt8} (hb : nalus[p]? = some b)
    (hno : ¬ EndsStartCode nalus p) :
    findStartCode nalus p = findStartCode nalus (if b = 0 then p + 1 else p + 3) := by
  have hlt := (List.getElem?_eq_some_iff.mp hb).1
  rw [findStartCode, Nat.mod_eq_of_lt hp, if_pos hlt]
  split
  · next hnone =>
    rw [hb] at hnone
    cases hnone
  · next b' hb' =>
    obtain rfl := Option.some.inj (hb.symm.trans hb')
    by_cases hzero : b = 0
    · rw [if_pos hzero, if_pos hzero]
    · rw [if_neg hzero, if_neg hzero, if_neg]
      rintro ⟨rfl, hprev⟩
      exact hno ⟨hb, hprev⟩

/-- Without a start code the scan runs to the end, if its offset does not leave 32 bits. -/
theorem findStartCode_runs (hno : ∀ i, p ≤ i → ¬ EndsStartCode nalus i)
    (hsmall : ∀ q, ScanReaches nalus p q → q < 2 ^ 32) :
    ∃ last, nalus.length ≤ last ∧ findStartCode nalus p = .ok (last, 0) := by
  induction hn : nalus.length - p using Nat.strong_induction_on generalizing p with
  | _ n ih =>
    have hp := hsmall p (.here p)
    by_cases hlt : p < nalus.length
    · obtain ⟨b, hb⟩ : ∃ b, nalus[p]? = some b := ⟨_, List.getElem?_eq_getElem hlt⟩
      rw [findStartCode_step hp hb (hno p le_rfl)]
      by_cases hzero : b = 0
      · rw [if_pos hzero]
        exact ih (nalus.length - (p + 1)) (by omega) (fun i hi => hno i (by omega))
          (fun q hq => hsmall q (.zero (hzero ▸ hb) hq)) rfl
      · rw [if_neg hzero]
        exact ih (nalus.length - (p + 3)) (by omega) (fun i hi => hno i (by omega))
          (fun q hq => hsmall q (.skip hb hzero hq)) rfl
    · rw [findStartCode, Nat.mod_eq_of_lt hp, if_neg hlt]
      exact ⟨p, Nat.le_of_not_lt hlt, rfl⟩

/-- When the offset leaves 32 bits the scan reads behind the buffer. -/
theorem findStartCode_wraps (hlen : nalus.length < 2 ^ 32) (htwo : 2 ≤ nalus.length)
    (hp : p ≤ nalus.length + 2) (hno : ∀ i, p ≤ i → ¬ EndsStartCode nalus i)
    (hreach : ScanReaches nalus p q) (hq : 2 ^ 32 ≤ q) :
    findStartCode nalus p = .error .outOfBounds := by
  induction hreach with
  | here p =>
    have hmod : p % 2 ^ 32 < nalus.length := by omega
    rw [findStartCode, if_pos hmod]
    split
    · rfl
    · next b hb =>
      have := (List.getElem?_eq_some_iff.mp hb).1
      omega
  | @zero p q hb hreach ih =>
    have hlt := (List.getElem?_eq_some_iff.mp hb).1
    rw [findStartCode_step (hlt.trans hlen) hb (hno p le_rfl), if_pos rfl]
    exact ih (by omega) (fun i hi => hno i (by omega)) hq
  | @skip p q b hb hzero hreach ih =>
    have hlt := (List.getElem?_eq_some_iff.mp hb).1
    rw [findStartCode_step (hlt.trans hlen) hb (hno p le_rfl), if_neg hzero]
    exact ih (by omega) (fun i hi => hno i (by omega)) hq

/-! ### Both scans -/

/-- What the scans return for a buffer, in the terms of the plain scan, and that the loop over the
NAL units ends.  The length is computed as the place where the scan ends, less the start and the
zeros found there. -/
structure ScansPlainly (nalus : List UInt8) : Prop where
  h264 : getNextNaluLength nalus = plainScan nalus
  h265 : getNextNaluLengthH265 nalus = plainScan nalus
  noWrap : BeginsStartCode nalus → ∀ last zeroCount,
    findStartCode nalus (leadingZeros nalus + 1) = .ok (last, zeroCount) →
      leadingZeros nalus + 1 + zeroCount ≤ min last nalus.length
  ends : ∀ fu mtu room f, ∃ r,
    createPayloadsWithin fu mtu (nalus.length / 3 + 1) nalus room f = some r

/-- If the first NAL unit is the last one too, its scan comes to places below `2 ^ 32` only. -/
def StaysBelow (nalus : List UInt8) : Prop :=
  ∀ start len, plainScan nalus = .ok (start, len) → start + len = nalus.length →
    ∀ q, ScanReaches nalus start q → q < 2 ^ 32

section

variable {b : Bool} {rest : List UInt8}

theorem drop_startCode : (startCode b ++ rest).drop (zerosOf b + 1) = rest :=
  List.drop_left' (length_startCode b)

theorem plainLength_of_ends {e : Nat} (he : EndsStartCode (startCode b ++ rest) e)
    (hle : zerosOf b + 1 ≤ e) (hno : ∀ i, zerosOf b + 1 ≤ i → i < e →
      ¬ EndsStartCode (startCode b ++ rest) i) :
    plainLength rest = e - zerosBefore (startCode b ++ rest) e - (zerosOf b + 1) := by
  have h := plainLength_found (startCode_zerosOf b rest) hle he hno
  rwa [drop_startCode] at h

theorem exists_first_end (h : ∃ i, zerosOf b + 1 ≤ i ∧ EndsStartCode nalus i) :
    ∃ e, zerosOf b + 1 ≤ e ∧ EndsStartCode nalus e ∧
      ∀ i, zerosOf b + 1 ≤ i → i < e → ¬ EndsStartCode nalus i := by
  classical
  refine ⟨Nat.find h, (Nat.find_spec h).1, (Nat.find_spec h).2, fun i hi hlt hends => ?_⟩
  exact Nat.find_min h hlt ⟨hi, hends⟩

theorem findStartCode_of_ends (hlen : (startCode b ++ rest).length < 2 ^ 32)
    (h : ∃ i, zerosOf b + 1 ≤ i ∧ EndsStartCode (startCode b ++ rest) i) :
    ∃ last zeroCount, findStartCode (startCode b ++ rest) (zerosOf b + 1) = .ok (last, zeroCount) ∧
      last ≤ (startCode b ++ rest).length ∧ zerosOf b + 1 + zeroCount ≤ last ∧
      last - (zerosOf b + 1) - zeroCount = plainLength rest ∧ plainLength rest < rest.length := by
  obtain ⟨e, hle, he, hno⟩ := exists_first_end h
  have hlt := (List.getElem?_eq_some_iff.mp he.1).1
  have hzeros := he.le (startCode_zerosOf b rest) hle
  have hplain := plainLength_of_ends he hle hno
  have htwo : 2 ≤ zerosBefore (startCode b ++ rest) e := by
    rw [zerosBefore]
    split_ifs <;> decide
  refine ⟨e, zerosBefore (startCode b ++ rest) e, findStartCode_found hlen he hle hno, hlt.le,
    hzeros,
    by omega, ?_⟩
  rw [List.length_append, length_startCode] at hlt
  omega

theorem plainLength_of_no_end
    (h : ∀ i, zerosOf b + 1 ≤ i → ¬ EndsStartCode (startCode b ++ rest) i) :
    plainLength rest = rest.length := by
  have hend := plainLength_end h
  rwa [drop_startCode] at hend

/-- What the scan of a buffer that begins with a start code comes to. -/
theorem findStartCode_of_staysBelow (hlen : (startCode b ++ rest).length < 2 ^ 32)
    (h : StaysBelow (startCode b ++ rest)) :
    ∃ last zeroCount, findStartCode (startCode b ++ rest) (zerosOf b + 1) = .ok (last, zeroCount) ∧
      zerosOf b + 1 + zeroCount ≤ min last (startCode b ++ rest).length ∧
      min last (startCode b ++ rest).length - (zerosOf b + 1) - zeroCount = plainLength rest := by
  by_cases hends : ∃ i, zerosOf b + 1 ≤ i ∧ EndsStartCode (startCode b ++ rest) i
  · obtain ⟨last, zeroCount, hfind, hlast, hzeros, hplain, -⟩ := findStartCode_of_ends hlen hends
    refine ⟨last, zeroCount, hfind, ?_⟩
    rw [Nat.min_eq_left hlast]
    exact ⟨hzeros, hplain⟩
  · have hno : ∀ i, zerosOf b + 1 ≤ i → ¬ EndsStartCode (startCode b ++ rest) i :=
      fun i hi he => hends ⟨i, hi, he⟩
    have hplain := plainLength_of_no_end hno
    have hall : (startCode b ++ rest).length = zerosOf b + 1 + plainLength rest := by
      rw [List.length_append, length_startCode, hplain]
    obtain ⟨last, hlast, hfind⟩ := findStartCode_runs hno
      (h _ _ (plainScan_startCode b rest) hall.symm)
    refine ⟨last, 0, hfind, ?_⟩
    rw [Nat.min_eq_right hlast, hall]
    omega

end

theorem getNextNaluLength_of_staysBelow (hlen : nalus.length < 2 ^ 32) (h : StaysBelow nalus) :
    getNextNaluLength nalus = plainScan nalus := by
  by_cases hbegins : BeginsStartCode nalus
  · obtain ⟨b, rest, rfl⟩ := beginsStartCode_iff.mp hbegins
    obtain ⟨last, zeroCount, hfind, -, hplain⟩ := findStartCode_of_staysBelow hlen h
    rw [getNextNaluLength_scan, hfind, plainScan_startCode, ← hplain]
  · rw [getNextNaluLength_invalid hbegins, plainScan, if_neg fun h => hbegins (.inl h),
      if_neg fun h => hbegins (.inr h)]

/-- Where the offset leaves 32 bits, both functions read behind the buffer. -/
theorem getNextNaluLength_of_not_staysBelow (hlen : nalus.length < 2 ^ 32)
    (h : ¬ StaysBelow nalus) :
    getNextNaluLength nalus = .error .outOfBounds := by
  simp only [StaysBelow, not_forall] at h
  obtain ⟨start, len, hscan, hall, q, hreach, hq⟩ := h
  have hbegins : BeginsStartCode nalus := by
    by_contra hno
    rw [plainScan, if_neg fun h => hno (.inl h), if_neg fun h => hno (.inr h)] at hscan
    cases hscan
  obtain ⟨b, rest, rfl⟩ := beginsStartCode_iff.mp hbegins
  rw [plainScan_startCode] at hscan
  obtain ⟨rfl, rfl⟩ := Prod.mk.inj (Except.ok.inj hscan)
  have hlength : (startCode b ++ rest).length = zerosOf b + 1 + rest.length := by
    rw [List.length_append, length_startCode]
  have hno : ∀ i, zerosOf b + 1 ≤ i → ¬ EndsStartCode (startCode b ++ rest) i := by
    intro i hi he
    obtain ⟨-, -, -, -, -, -, hlt⟩ := findStartCode_of_ends hlen ⟨i, hi, he⟩
    omega
  have hz : zerosOf b = 2 ∨ zerosOf b = 3 := by cases b <;> decide
  rw [getNextNaluLength_scan,
    findStartCode_wraps hlen (by omega) (by omega) hno hreach (Nat.le_of_not_lt hq)]

/-- The scan goes at most two bytes behind the buffer. -/
theorem ScanReaches.le (h : ScanReaches nalus p q) : q ≤ max p (nalus.length + 2) := by
  induction h with
  | here p => exact le_max_left p _
  | zero hb _ ih =>
    have := (List.getElem?_eq_some_iff.mp hb).1
    omega
  | skip hb _ _ ih =>
    have := (List.getElem?_eq_some_iff.mp hb).1
    omega

/-- Buffers whose length and two bytes more fit into 32 bits. -/
theorem staysBelow_of_length (hlen : nalus.length + 2 < 2 ^ 32) : StaysBelow nalus := by
  intro start len _ hall q hreach
  have hle := hreach.le
  omega

/-- **The scans of both codecs agree with the plain scan** and end the loops exactly if their offset
does not leave 32 bits. -/
theorem scansPlainly_iff (hlen : nalus.length < 2 ^ 32) :
    ScansPlainly nalus ↔ StaysBelow nalus := by
  constructor
  · intro h
    by_contra hnot
    have hscan := h.h264
    rw [getNextNaluLength_of_not_staysBelow hlen hnot] at hscan
    simp only [StaysBelow, not_forall] at hnot
    obtain ⟨start, len, hplain, -⟩ := hnot
    rw [hplain] at hscan
    cases hscan
  · intro h
    refine ⟨getNextNaluLength_of_staysBelow hlen h, getNextNaluLength_of_staysBelow hlen h, ?_, ?_⟩
    · intro hbegins last zeroCount hfind
      obtain ⟨b, rest, rfl⟩ := beginsStartCode_iff.mp hbegins
      obtain ⟨last', zeroCount', hfind', hle, -⟩ := findStartCode_of_staysBelow hlen h
      rw [leadingZeros_startCode] at hfind ⊢
      obtain ⟨rfl, rfl⟩ := Prod.mk.inj (Except.ok.inj (hfind'.symm.trans hfind))
      exact hle
    · intro fu mtu room f
      exact ⟨_, createPayloadsWithin_eq fu mtu (by omega) room f⟩

theorem scansPlainly_twoNalus : ([0, 0, 1, 7, 0, 0, 0, 1, 8] : List UInt8).length < 2 ^ 32 ∧
    ScansPlainly [0, 0, 1, 7, 0, 0, 0, 1, 8] :=
  ⟨by decide, (scansPlainly_iff (by decide)).mpr (staysBelow_of_length (by decide))⟩

/-! ### A buffer of `2 ^ 32 - 1` bytes -/

theorem ScanReaches.skips {n : Nat} (h : ∀ i < n, nalus[p + 3 * i]? = some 2) :
    ScanReaches nalus p (p + 3 * n) := by
  induction n generalizing p with
  | zero => exact .here p
  | succ n ih =>
    refine .skip (h 0 (Nat.succ_pos n)) (by decide) ?_
    rw [show p + 3 * (n + 1) = p + 3 + 3 * n by omega]
    apply ih
    intro i hi
    rw [show p + 3 + 3 * i = p + 3 * (i + 1) by omega]
    exact h (i + 1) (Nat.succ_lt_succ hi)

theorem plainLength_replicate (n : Nat) : plainLength (List.replicate n 2) = n := by
  apply plainLength_eq (by rw [List.length_replicate])
  · intro j _
    rw [List.drop_replicate]
    have hmem : ∀ l : List UInt8, ¬ 0 :: l <+: List.replicate (n - j) 2 := by
      intro l hl
      exact absurd (List.eq_of_mem_replicate (hl.subset List.mem_cons_self)) (by decide)
    rintro (h | h)
    · exact hmem _ h
    · exact hmem _ h
  · exact .inl List.length_replicate.symm

theorem not_staysBelow_replicate :
    ¬ StaysBelow (startCode true ++ List.replicate (2 ^ 32 - 5) 2) := by
  intro h
  have hscan := plainScan_startCode true (List.replicate (2 ^ 32 - 5) 2)
  rw [plainLength_replicate] at hscan
  have hlength : zerosOf true + 1 + (2 ^ 32 - 5)
      = (startCode true ++ List.replicate (2 ^ 32 - 5) (2 : UInt8)).length := by
    rw [List.length_append, length_startCode, List.length_replicate]
  have hreach : ScanReaches (startCode true ++ List.replicate (2 ^ 32 - 5) 2) (zerosOf true + 1)
      (zerosOf true + 1 + 3 * 1431655764) := by
    apply ScanReaches.skips
    intro i hi
    rw [List.getElem?_append_right (by rw [length_startCode]; omega), length_startCode,
      List.getElem?_replicate, if_pos (by omega)]
  exact absurd (h _ _ hscan hlength _ hreach) (by decide)

/-- The scans of a frame of `2 ^ 32 - 1` bytes without a zero behind its start code leave the
buffer. -/
theorem not_scansPlainly_replicate :
    (startCode true ++ List.replicate (2 ^ 32 - 5) (2 : UInt8)).length < 2 ^ 32 ∧
      ¬ ScansPlainly (startCode true ++ List.replicate (2 ^ 32 - 5) 2) := by
  have hlen : (startCode true ++ List.replicate (2 ^ 32 - 5) (2 : UInt8)).length < 2 ^ 32 := by
    rw [List.length_append, length_startCode, List.length_replicate]
    decide
  refine ⟨hlen, fun h => ?_⟩
  have hscan := h.h264
  rw [getNextNaluLength_of_not_staysBelow hlen not_staysBelow_replicate,
    plainScan_startCode] at hscan
  cases hscan

end KvsWebrtc.Rtp
