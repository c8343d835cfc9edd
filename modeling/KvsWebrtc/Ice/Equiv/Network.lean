import KvsWebrtc.Ice.Network
import Mathlib.Data.List.TakeWhile
import Mathlib.Tactic.SplitIfs

/-!
# Addresses in host names are read right

Each loop reads the digits and dashes at the start of a text and writes them one after the other
(`addressLoop_ok`, `legacyLoop_ok`), or fails (`addressLoop_failed`).  What the functions return
follows from the text: `legacyRight_iff`, `dualStackRight_iff`.

The limits are not tested for the zero behind an address, and the number of characters that are left
is decremented behind a first address that is not followed by an underscore.
-/

namespace KvsWebrtc.Ice

open Signaling (maxIceConfigUriLen)

namespace AddressFormat

def allowed (f : AddressFormat) (c : Char) : Bool := f.isDigit c || c == '-'

def output (f : AddressFormat) (c : Char) : Char := if f.isDigit c then c else f.separator

/-- Neither what ends an address nor a zero belongs to it. -/
structure Lawful (f : AddressFormat) : Prop where
  stop : f.allowed f.stop = false
  zero : f.allowed '\x00' = false

theorem lawful_legacy : legacyFormat.Lawful := ⟨rfl, rfl⟩
theorem lawful_ipv4 : ipv4Format.Lawful := ⟨rfl, rfl⟩
theorem lawful_ipv6 : ipv6Format.Lawful := ⟨rfl, rfl⟩

end AddressFormat

/-- `n` characters can be read: they are there, or a zero is among those that are. -/
def HasChars (t : List Char) (n : Nat) : Prop := t.length = n ∨ t.length < n ∧ '\x00' ∈ t

variable {f : AddressFormat} {pre t rest written tail hostname : List Char} {c : Char} {k n : Nat}

theorem allowed_iff : f.allowed c ↔ f.isDigit c ∨ c = '-' := by
  rw [AddressFormat.allowed, Bool.or_eq_true, beq_iff_eq]

theorem HasChars.zero_of_nil (h : HasChars [] n) : n = 0 := by
  obtain h | ⟨-, h⟩ := h
  · exact h.symm
  · cases h

theorem HasChars.of_cons (h : HasChars (c :: t) (n + 1)) (hc : c ≠ '\x00') : HasChars t n := by
  obtain h | ⟨hlt, h⟩ := h
  · exact .inl (Nat.succ.inj h)
  · exact .inr ⟨Nat.lt_of_succ_lt_succ hlt, (List.mem_cons.mp h).resolve_left hc.symm⟩

theorem HasChars.exists_succ (h : HasChars (c :: t) n) : ∃ m, n = m + 1 := by
  obtain h | ⟨hlt, -⟩ := h
  · exact ⟨t.length, h.symm⟩
  · exact ⟨n - 1, by omega⟩

theorem AddressFormat.Lawful.ne_zero (hf : f.Lawful) (hc : f.allowed c) : c ≠ '\x00' := by
  rintro rfl
  rw [hf.zero] at hc
  cases hc

theorem AddressFormat.Lawful.ne_stop (hf : f.Lawful) (hc : f.allowed c) : c ≠ f.stop := by
  rintro rfl
  rw [hf.stop] at hc
  cases hc

theorem getElem?_hostname : (pre ++ (c :: t ++ rest))[pre.length]? = some c := by
  rw [List.getElem?_append_right le_rfl, Nat.sub_self]
  rfl

theorem store_append {d : Char} :
    store (written ++ d :: tail) written.length c = .ok (written ++ [c] ++ tail) := by
  rw [store, if_pos, List.set_append_right _ _ le_rfl, Nat.sub_self]
  · rw [List.set_cons_zero, List.append_assoc]
    rfl
  · rw [List.length_append, List.length_cons]
    omega

theorem store_end : store written written.length c = .error .outOfBounds :=
  if_neg (Nat.lt_irrefl _)

theorem hostname_cons : pre ++ (c :: t ++ rest) = pre ++ [c] ++ (t ++ rest) := by
  rw [List.append_assoc]
  rfl

theorem length_write (written tail : List Char) (c d : Char) :
    (written ++ d :: tail).length = (written ++ [c] ++ tail).length := by
  rw [List.append_assoc, List.length_append, List.length_append]
  rfl

def cursorsAt (pre written tail : List Char) (n : Nat) : Cursors :=
  ⟨n, pre.length, written.length, written ++ tail⟩

theorem advance_cursorsAt (tail : List Char) (hpre : pre.length + 1 < 256)
    (hwritten : written.length + 1 < 256) {d e : Char} :
    (cursorsAt pre written (d :: tail) (n + 1)).advance c
      = .ok (cursorsAt (pre ++ [e]) (written ++ [c]) tail n) := by
  rw [Cursors.advance, cursorsAt, store_append, cursorsAt, List.length_append, List.length_append]
  show Except.ok (Cursors.mk n ((pre.length + 1) % 256) ((written.length + 1) % 256) _) = _
  rw [Nat.mod_eq_of_lt hpre, Nat.mod_eq_of_lt hwritten]
  rfl

theorem addressLoop_round (maxLenDst : Nat) :
    addressLoop f (pre ++ (c :: t ++ rest)) maxLenDst (n + 1) (cursorsAt pre written tail k) =
      if c = f.stop then .ok (.success, cursorsAt pre written tail k)
      else if written.length < maxLenDst then
        if f.isDigit c then
          (cursorsAt pre written tail k).advance c >>= addressLoop f
          (pre ++ (c :: t ++ rest)) maxLenDst n
        else if c = '-' then
          (cursorsAt pre written tail k).advance f.separator >>=
            addressLoop f (pre ++ (c :: t ++ rest)) maxLenDst n
        else .ok (.invalidArg, cursorsAt pre written tail k)
      else .ok (.invalidAddressLength, cursorsAt pre written tail k) := by
  have hi : (cursorsAt pre written tail k).i = pre.length := rfl
  rw [addressLoop, hi, getElem?_hostname]
  rfl

theorem addressLoop_allowed (hf : f.Lawful) (hc : f.allowed c) {d : Char}
    (hpre : pre.length + 1 < 256) (hwritten : written.length + 1 < 256) :
    addressLoop f (pre ++ (c :: t ++ rest)) (written ++ d :: tail).length (n + 1)
        (cursorsAt pre written (d :: tail) (n + 1))
      = addressLoop f (pre ++ [c] ++ (t ++ rest)) (written ++ [f.output c] ++ tail).length n
          (cursorsAt (pre ++ [c]) (written ++ [f.output c]) tail n) := by
  have hlen := length_write written tail (f.output c) d
  have hroom : written.length < (written ++ d :: tail).length := by
    rw [List.length_append, List.length_cons]
    omega
  have hadvance := advance_cursorsAt tail (n := n) (c := f.output c) (d := d) (e := c) hpre hwritten
  rw [addressLoop_round, if_neg (hf.ne_stop hc), if_pos hroom]
  by_cases hdigit : f.isDigit c
  · rw [if_pos hdigit]
    rw [AddressFormat.output, if_pos hdigit] at hadvance hlen ⊢
    rw [hadvance, ← hlen, ← hostname_cons]
    rfl
  · have hdash : c = '-' := by
      rw [AddressFormat.allowed, Bool.or_eq_true] at hc
      exact beq_iff_eq.mp (hc.resolve_left hdigit)
    rw [if_neg hdigit, if_pos hdash]
    rw [AddressFormat.output, if_neg hdigit] at hadvance hlen ⊢
    rw [hadvance, ← hlen, ← hostname_cons]
    rfl

def Ends (f : AddressFormat) (t : List Char) : Prop := ∀ c, (t.dropWhile f.allowed).head? = some c →
    c = f.stop

theorem addressLoop_ok (hf : f.Lawful) (ht : HasChars t n) (hpre : pre.length + n < 256)
    (hwritten : written.length + n < 256) (hends : Ends f t)
    (hroom : (t.takeWhile f.allowed).length ≤ tail.length) :
    addressLoop f (pre ++ (t ++ rest)) (written ++ tail).length n (cursorsAt pre written tail n)
      = .ok (.success, cursorsAt (pre ++ t.takeWhile f.allowed)
          (written ++ (t.takeWhile f.allowed).map f.output)
          (tail.drop (t.takeWhile f.allowed).length) (n - (t.takeWhile f.allowed).length)) := by
  induction t generalizing n pre written tail with
  | nil =>
    obtain rfl := ht.zero_of_nil
    rw [addressLoop, List.takeWhile_nil, List.append_nil, List.map_nil, List.append_nil]
    rfl
  | cons c t ih =>
    obtain ⟨n, rfl⟩ := ht.exists_succ
    by_cases hc : f.allowed c
    · rw [List.takeWhile_cons_of_pos hc, List.length_cons] at hroom ⊢
      cases tail with
      | nil => exact absurd hroom (Nat.not_succ_le_zero _)
      | cons d tail =>
        rw [addressLoop_allowed hf hc (by omega) (by omega), ih (ht.of_cons (hf.ne_zero hc))]
        · rw [List.map_cons, List.drop_succ_cons, Nat.add_sub_add_right, List.append_assoc,
            List.append_assoc]
          rfl
        · rw [List.length_append, List.length_singleton]
          omega
        · rw [List.length_append, List.length_singleton]
          omega
        · intro e he
          exact hends e (by rwa [List.dropWhile_cons_of_pos hc])
        · exact Nat.le_of_succ_le_succ hroom
    · -- the first character that is not allowed is the stop
      have hstop : c = f.stop := hends c (by rw [List.dropWhile_cons_of_neg hc]; rfl)
      rw [List.takeWhile_cons_of_neg hc, addressLoop_round, if_pos hstop, List.append_nil,
        List.map_nil, List.append_nil]
      rfl

theorem addressLoop_failed (hf : f.Lawful) (ht : HasChars t n) (hpre : pre.length + n < 256)
    (hwritten : written.length + n < 256)
    (h : ¬ (Ends f t ∧ (t.takeWhile f.allowed).length ≤ tail.length)) :
    ∃ status s, (∀ rest, addressLoop f (pre ++ (t ++ rest)) (written ++ tail).length n
        (cursorsAt pre written tail n) = .ok (status, s)) ∧
      status.failed = true ∧ s.address.length = (written ++ tail).length := by
  induction t generalizing n pre written tail with
  | nil =>
    refine absurd ⟨fun c hc => ?_, Nat.zero_le _⟩ h
    cases hc
  | cons c t ih =>
    obtain ⟨n, rfl⟩ := ht.exists_succ
    by_cases hc : f.allowed c
    · -- the character is part of the address and needs room
      cases tail with
      | nil =>
        refine ⟨.invalidAddressLength, cursorsAt pre written [] (n + 1), fun rest => ?_, rfl, rfl⟩
        rw [addressLoop_round, if_neg (hf.ne_stop hc), List.append_nil, if_neg (Nat.lt_irrefl _)]
      | cons d tail =>
        have hih := @ih (pre ++ [c]) (written ++ [f.output c]) tail n
          (ht.of_cons (hf.ne_zero hc)) (by rw [List.length_append, List.length_singleton]; omega)
          (by rw [List.length_append, List.length_singleton]; omega) ?_
        · obtain ⟨status, s, hloop, hstatus, hs⟩ := hih
          refine ⟨status, s, fun rest => ?_, hstatus,
            hs.trans (length_write written tail (f.output c) d).symm⟩
          rw [addressLoop_allowed hf hc (by omega) (by omega), hloop]
        · rintro ⟨hends, hroom⟩
          refine h ⟨fun e he => hends e ?_, ?_⟩
          · rwa [List.dropWhile_cons_of_pos hc] at he
          · rw [List.takeWhile_cons_of_pos hc]
            exact Nat.succ_le_succ hroom
    · -- the address ends here, but not with its stop
      have hstop : c ≠ f.stop := by
        rintro rfl
        refine h ⟨fun e he => ?_, ?_⟩
        · rw [List.dropWhile_cons_of_neg hc] at he
          exact (Option.some.inj he).symm
        · rw [List.takeWhile_cons_of_neg hc]
          exact Nat.zero_le _
      rw [allowed_iff, not_or] at hc
      by_cases hroom : written.length < (written ++ tail).length
      · refine ⟨.invalidArg, cursorsAt pre written tail (n + 1), fun rest => ?_, rfl, rfl⟩
        rw [addressLoop_round, if_neg hstop, if_pos hroom, if_neg hc.1, if_neg hc.2]
      · refine ⟨.invalidAddressLength, cursorsAt pre written tail (n + 1), fun rest => ?_, rfl, rfl⟩
        rw [addressLoop_round, if_neg hstop, if_neg hroom]

/-! ### The legacy form -/

theorem legacyLoop_round (maxLenDst : Nat) :
    legacyLoop (pre ++ (c :: t ++ rest)) maxLenDst (n + 1) (cursorsAt pre written tail k) =
      if c = legacyFormat.stop then .ok (.success, cursorsAt pre written tail k)
      else if legacyFormat.isDigit c ∨ c = '-' then
        if written.length > maxLenDst then .ok (.invalidAddressLength, cursorsAt pre written tail k)
        else (cursorsAt pre written tail k).advance (legacyFormat.output c) >>=
          legacyLoop (pre ++ (c :: t ++ rest)) maxLenDst n
      else .ok (.success, cursorsAt pre written tail k) := by
  have hi : (cursorsAt pre written tail k).i = pre.length := rfl
  rw [legacyLoop, hi, getElem?_hostname]
  rfl

/-- The loop stops behind the address, whatever is there. -/
theorem legacyLoop_ok (ht : HasChars t n) (hpre : pre.length + n < 256)
    (hwritten : written.length + n < 256)
    (hroom : (t.takeWhile legacyFormat.allowed).length ≤ tail.length) :
    legacyLoop (pre ++ (t ++ rest)) (written ++ tail).length n (cursorsAt pre written tail n)
      = .ok (.success, cursorsAt (pre ++ t.takeWhile legacyFormat.allowed)
          (written ++ (t.takeWhile legacyFormat.allowed).map legacyFormat.output)
          (tail.drop (t.takeWhile legacyFormat.allowed).length)
          (n - (t.takeWhile legacyFormat.allowed).length)) := by
  induction t generalizing n pre written tail with
  | nil =>
    obtain rfl := ht.zero_of_nil
    rw [legacyLoop, List.takeWhile_nil, List.append_nil, List.map_nil, List.append_nil]
    rfl
  | cons c t ih =>
    obtain ⟨n, rfl⟩ := ht.exists_succ
    rw [legacyLoop_round]
    by_cases hc : legacyFormat.allowed c
    · rw [List.takeWhile_cons_of_pos hc, List.length_cons] at hroom ⊢
      cases tail with
      | nil => exact absurd hroom (Nat.not_succ_le_zero _)
      | cons d tail =>
        have hlen := length_write written tail (legacyFormat.output c) d
        rw [if_neg (AddressFormat.lawful_legacy.ne_stop hc), if_pos (allowed_iff.mp hc),
          if_neg (by rw [List.length_append]; omega),
          advance_cursorsAt tail (e := c) (by omega) (by omega), Memory.ok_bind, hlen,
          hostname_cons, ih (ht.of_cons (AddressFormat.lawful_legacy.ne_zero hc))]
        · rw [List.map_cons, List.drop_succ_cons, Nat.add_sub_add_right, List.append_assoc,
            List.append_assoc]
          rfl
        · rw [List.length_append, List.length_singleton]
          omega
        · rw [List.length_append, List.length_singleton]
          omega
        · exact Nat.le_of_succ_le_succ hroom
    · rw [List.takeWhile_cons_of_neg hc, if_neg (fun h => hc (allowed_iff.mpr h)), ite_self,
        List.append_nil, List.map_nil, List.append_nil]
      rfl

/-- An address that is longer than the array is written behind it. -/
theorem legacyLoop_outOfBounds (ht : HasChars t n) (hpre : pre.length + n < 256)
    (hwritten : written.length + n < 256)
    (hroom : tail.length < (t.takeWhile legacyFormat.allowed).length) :
    legacyLoop (pre ++ (t ++ rest)) (written ++ tail).length n (cursorsAt pre written tail n)
      = .error .outOfBounds := by
  induction t generalizing n pre written tail with
  | nil => exact absurd hroom (Nat.not_lt_zero _)
  | cons c t ih =>
    obtain ⟨n, rfl⟩ := ht.exists_succ
    by_cases hc : legacyFormat.allowed c
    · rw [legacyLoop_round, if_neg (AddressFormat.lawful_legacy.ne_stop hc),
        if_pos (allowed_iff.mp hc), if_neg (by rw [List.length_append]; omega)]
      rw [List.takeWhile_cons_of_pos hc, List.length_cons] at hroom
      cases tail with
      | nil =>
        rw [Cursors.advance, cursorsAt, List.append_nil, store_end]
        rfl
      | cons d tail =>
        have hlen := length_write written tail (legacyFormat.output c) d
        rw [advance_cursorsAt tail (e := c) (by omega) (by omega), Memory.ok_bind, hlen,
          hostname_cons]
        apply ih (ht.of_cons (AddressFormat.lawful_legacy.ne_zero hc))
        · rw [List.length_append, List.length_singleton]
          omega
        · rw [List.length_append, List.length_singleton]
          omega
        · exact Nat.lt_of_succ_lt_succ hroom
    · rw [List.takeWhile_cons_of_neg hc] at hroom
      exact absurd hroom (Nat.not_lt_zero _)

/-- The address in the first label of a name of the legacy form. -/
structure IsLegacy (name address : List Char) : Prop where
  ne_nil : address ≠ []
  label : name.takeWhile (· != '.') = address
  digits : ∀ c ∈ address, c.isDigit ∨ c = '-'

/-- What `getIpAddrFromDnsHostname` owes for `lengthSrc` characters of a name and an array: it reads
nothing else of the memory, it writes inside the array, and an address that fits is what it
writes. -/
def LegacyRight (name address : List Char) (lengthSrc : Nat) : Prop :=
  ∃ status address',
    (∀ rest, getIpAddrFromDnsHostname (name ++ rest) address lengthSrc address.length
      = .ok (status, address')) ∧
    address'.length = address.length ∧
    ∀ a, IsLegacy name a → a.length < address.length →
      status = .success ∧
        address' = a.map (fun c => if c = '-' then '.' else c) ++ '\x00' :: address.drop
        (a.length + 1)

/-- The digits and dashes at the start of the name, and the zero behind them, fit into the array. -/
def LegacyFits (name address : List Char) : Prop :=
  name = [] ∨ (name.takeWhile fun c => c.isDigit || c == '-').length < address.length

theorem takeWhile_of_stop {a : List Char} {p : Char → Bool} (ha : ∀ c ∈ a, p c)
    (ht : ∀ c, t.head? = some c → p c = false) :
    (a ++ t).takeWhile p = a ∧ (a ++ t).dropWhile p = t := by
  rw [List.takeWhile_append_of_pos ha, List.dropWhile_append_of_pos ha]
  cases t with
  | nil => exact ⟨List.append_nil a, rfl⟩
  | cons c t =>
    have hc : ¬ p c := by
      rw [ht c rfl]
      exact Bool.false_ne_true
    rw [List.takeWhile_cons_of_neg hc, List.dropWhile_cons_of_neg hc, List.append_nil]
    exact ⟨rfl, rfl⟩

theorem IsLegacy.takeWhile {name a : List Char} (h : IsLegacy name a) :
    name.takeWhile legacyFormat.allowed = a := by
  have hsplit := List.takeWhile_append_dropWhile (p := (· != '.')) (l := name)
  rw [h.label] at hsplit
  rw [← hsplit]
  refine (takeWhile_of_stop (fun c hc => allowed_iff.mpr (h.digits c hc)) fun c hc => ?_).1
  have hdot := List.head?_dropWhile_not (· != '.') name
  rw [hc] at hdot
  obtain rfl : c = '.' := by simpa using hdot
  rfl

theorem output_legacy {a : List Char} (h : ∀ c ∈ a, c.isDigit ∨ c = '-') :
    a.map legacyFormat.output = a.map fun c => if c = '-' then '.' else c := by
  apply List.map_congr_left
  intro c hc
  obtain hdigit | rfl := h c hc
  · have hne : c ≠ '-' := by
      rintro rfl
      cases hdigit
    rw [if_neg hne]
    exact if_pos hdigit
  · rfl

/-- What the function returns for a name, in the terms of its text. -/
theorem getIpAddrFromDnsHostname_eq {name address : List Char} {lengthSrc : Nat}
    (hname : HasChars name lengthSrc) (hpos : 0 < lengthSrc) (hmax : lengthSrc < maxIceConfigUriLen)
    (rest : List Char) :
    getIpAddrFromDnsHostname (name ++ rest) address lengthSrc address.length =
      if (name.takeWhile legacyFormat.allowed).length < address.length then
        .ok (.success, (name.takeWhile legacyFormat.allowed).map legacyFormat.output ++
          '\x00' :: address.drop ((name.takeWhile legacyFormat.allowed).length + 1))
      else .error .outOfBounds := by
  have hlen : lengthSrc < 127 := hmax
  have hok := @legacyLoop_ok [] name rest [] address lengthSrc hname
    (by rw [List.length_nil]; omega) (by rw [List.length_nil]; omega)
  have hout := @legacyLoop_outOfBounds [] name rest [] address lengthSrc hname
    (by rw [List.length_nil]; omega) (by rw [List.length_nil]; omega)
  simp only [List.nil_append] at hok hout
  rw [getIpAddrFromDnsHostname, if_pos ⟨hpos, hmax⟩]
  show (legacyLoop (name ++ rest) address.length lengthSrc (cursorsAt [] [] address lengthSrc) >>=
      _) = _
  generalize hw : name.takeWhile legacyFormat.allowed = w at hok hout ⊢
  rcases Nat.lt_trichotomy w.length address.length with hlt | heq | hgt
  · rw [hok hlt.le, if_pos hlt]
    obtain ⟨d, tail, htail⟩ := List.exists_cons_of_length_pos
      (show 0 < (address.drop w.length).length by rw [List.length_drop]; omega)
    have hdrop : address.drop (w.length + 1) = tail := by
      rw [← List.drop_drop, htail]
      rfl
    show (store (w.map legacyFormat.output ++ address.drop w.length)
        (w.map legacyFormat.output).length '\x00'
      >>= _) = _
    rw [htail, store_append, hdrop, List.append_assoc]
    rfl
  · rw [hok heq.le, if_neg (Nat.not_lt.mpr heq.ge)]
    show (store (w.map legacyFormat.output ++ address.drop w.length)
        (w.map legacyFormat.output).length '\x00'
      >>= _) = _
    rw [heq, List.drop_length, List.append_nil, store_end]
    rfl
  · rw [hout hgt, if_neg (Nat.not_lt.mpr hgt.le)]
    rfl

theorem legacyRight_iff {name address : List Char} {lengthSrc : Nat}
    (hname : HasChars name lengthSrc) (hmax : lengthSrc < maxIceConfigUriLen) :
    LegacyRight name address lengthSrc ↔ LegacyFits name address := by
  rcases Nat.eq_zero_or_pos lengthSrc with rfl | hpos
  · have hnil : name = [] := by
      obtain h | ⟨h, -⟩ := hname
      · exact List.length_eq_zero_iff.mp h
      · exact absurd h (Nat.not_lt_zero _)
    refine ⟨fun _ => .inl hnil, fun _ => ⟨.invalidArg, address, fun rest => rfl, rfl, fun a ha =>
      ?_⟩⟩
    exact absurd (by rw [← ha.label, hnil]; rfl) ha.ne_nil
  · have hne : name ≠ [] := by
      rintro rfl
      exact absurd hname.zero_of_nil hpos.ne'
    have heq := @getIpAddrFromDnsHostname_eq name address lengthSrc hname hpos hmax
    constructor
    · rintro ⟨status, address', hcall, -⟩
      refine .inr (Nat.lt_of_not_le fun hle => ?_)
      have hnone := (hcall []).symm.trans ((heq []).trans (if_neg (Nat.not_lt.mpr hle)))
      cases hnone
    · intro hfits
      have hlt := hfits.resolve_left hne
      refine ⟨.success, _, fun rest => (heq rest).trans (if_pos hlt), ?_, fun a ha hroom =>
        ⟨rfl, ?_⟩⟩
      · rw [List.length_append, List.length_map, List.length_cons, List.length_drop]
        have : (name.takeWhile legacyFormat.allowed).length < address.length := hlt
        omega
      · rw [ha.takeWhile, output_legacy ha.digits]

/-! ### The dual-stack form -/

/-- The two addresses in the first label of a name of the dual-stack form. -/
structure IsDualStack (name ipv4 ipv6 : List Char) : Prop where
  label : name.takeWhile (· != '.') = ipv4 ++ '_' :: ipv6
  digits : ∀ c ∈ ipv4, c.isDigit ∨ c = '-'
  hexDigits : ∀ c ∈ ipv6, ipv6Format.isDigit c ∨ c = '-'

/-- What `getDualStackIpAddrFromDnsHostname` owes for `lengthSrc` characters of a name and two
arrays. -/
def DualStackRight (name ipv4Address ipv6Address : List Char) (lengthSrc : Nat) : Prop :=
  ∃ status ipv4Address' ipv6Address',
    (∀ rest, getDualStackIpAddrFromDnsHostname (name ++ rest) ipv4Address ipv6Address lengthSrc
      ipv4Address.length ipv6Address.length = .ok (status, ipv4Address', ipv6Address')) ∧
    ipv4Address'.length = ipv4Address.length ∧ ipv6Address'.length = ipv6Address.length ∧
    (∀ a b, IsDualStack name a b → a.length < ipv4Address.length → b.length < ipv6Address.length →
      status = .success ∧
        ipv4Address' = a.map (fun c => if c = '-' then '.' else c) ++ '\x00' :: ipv4Address.drop
        (a.length + 1) ∧
        ipv6Address' = b.map (fun c => if c = '-' then ':' else c) ++
        '\x00' :: ipv6Address.drop (b.length + 1)) ∧
    ('_' ∉ name → status ≠ .success) ∧
    (status ≠ .success → ipv4Address'.head? = some '\x00' ∧ ipv6Address'.head? = some '\x00')

/-- No address that is ended has exactly the size of its array, and a name of digits and dashes only
is longer than the first array.  Both arrays have room for the zero of an empty text. -/
def DualStackFits (name ipv4Address ipv6Address : List Char) : Prop :=
  0 < ipv4Address.length ∧ 0 < ipv6Address.length ∧
    (name = [] ∨
      match name.dropWhile ipv4Format.allowed with
      | [] => ipv4Address.length < name.length
      | c :: t => c = '_' →
        (name.takeWhile ipv4Format.allowed).length ≠ ipv4Address.length ∧
          ((name.takeWhile ipv4Format.allowed).length < ipv4Address.length → Ends ipv6Format t →
            (t.takeWhile ipv6Format.allowed).length ≠ ipv6Address.length))

variable {status : Status} {v4 v6 : List Char}

theorem cleanUp_failed (hstatus : status.failed = true) (h4 : 0 < v4.length) (h6 : 0 < v6.length) :
    ∃ v4' v6', cleanUp status v4 v6 = .ok (status, v4', v6') ∧ v4'.length = v4.length ∧
      v6'.length = v6.length ∧ v4'.head? = some '\x00' ∧ v6'.head? = some '\x00' := by
  cases v4 with
  | nil => cases h4
  | cons c v4 =>
    cases v6 with
    | nil => cases h6
    | cons d v6 =>
      refine ⟨'\x00' :: v4, '\x00' :: v6, ?_, rfl, rfl, rfl, rfl⟩
      rw [cleanUp, if_pos hstatus]
      rfl

theorem cleanUp_outOfBounds (hstatus : status.failed = true)
    (h : ¬ (0 < v4.length ∧ 0 < v6.length)) :
    cleanUp status v4 v6 = .error .outOfBounds := by
  rw [cleanUp, if_pos hstatus]
  cases v4 with
  | nil => rfl
  | cons c v4 =>
    cases v6 with
    | nil => rfl
    | cons d v6 => exact absurd ⟨Nat.succ_pos _, Nat.succ_pos _⟩ h

/-- What follows the loop over the first address. -/
def afterIpv4 (hostname ipv6Address : List Char) (maxLenV6Dst : Nat) (r : Status × Cursors) :
    Except Failure (Status × List Char × List Char) :=
  if r.1.failed then cleanUp r.1 r.2.address ipv6Address
  else do
    let ipv4Address ← store r.2.address r.2.j '\x00'
    let hostNameLen := (r.2.hostNameLen + 2 ^ 16 - 1) % 2 ^ 16
    let (status, s) ← addressLoop ipv6Format hostname maxLenV6Dst hostNameLen
      ⟨hostNameLen, (r.2.i + 1) % 2 ^ 8, 0, ipv6Address⟩
    if status.failed then cleanUp status ipv4Address s.address
    else
      let ipv6Address ← store s.address s.j '\x00'
      cleanUp status ipv4Address ipv6Address

theorem getDualStack_eq {name : List Char} {lengthSrc : Nat} (hpos : 0 < lengthSrc)
    (hmax : lengthSrc < maxIceConfigUriLen) (rest : List Char) :
    getDualStackIpAddrFromDnsHostname (name ++ rest) v4 v6 lengthSrc v4.length v6.length =
      addressLoop ipv4Format (name ++ rest) v4.length lengthSrc (cursorsAt [] [] v4 lengthSrc) >>=
        afterIpv4 (name ++ rest) v6 v6.length := by
  rw [getDualStackIpAddrFromDnsHostname, if_pos ⟨hpos, hmax⟩]
  rfl

/-- The terminator is written behind the text, if there is room. -/
theorem store_terminator (text array : List Char) (h : text.length < array.length) :
    store (text ++ array.drop text.length) text.length '\x00'
      = .ok (text ++ '\x00' :: array.drop (text.length + 1)) := by
  obtain ⟨d, tail, htail⟩ := List.exists_cons_of_length_pos
    (show 0 < (array.drop text.length).length by rw [List.length_drop]; omega)
  rw [htail, store_append, ← List.drop_drop, htail, List.append_assoc]
  rfl

theorem store_terminator_full (text array : List Char) (h : text.length = array.length) :
    store (text ++ array.drop text.length) text.length '\x00' = .error .outOfBounds := by
  rw [h, List.drop_length, List.append_nil, ← h, store_end]

theorem addressLoop_outOfBounds {s : Cursors} {m : Nat} (hm : 0 < m) (hs : hostname[s.i]? = none)
    (max : Nat) :
    addressLoop f hostname max m s = .error .outOfBounds := by
  obtain ⟨m, rfl⟩ := Nat.exists_eq_succ_of_ne_zero hm.ne'
  rw [addressLoop, hs]

section

variable {name a b : List Char} {lengthSrc m : Nat}

/-- Without an underscore behind an address that fits, the call fails. -/
theorem getDualStack_failed (hname : HasChars name lengthSrc) (hpos : 0 < lengthSrc)
    (hmax : lengthSrc < maxIceConfigUriLen)
    (h : ¬ (Ends ipv4Format name ∧ (name.takeWhile ipv4Format.allowed).length ≤ v4.length)) :
    ∃ status v4', status.failed = true ∧ v4'.length = v4.length ∧ ∀ rest,
      getDualStackIpAddrFromDnsHostname (name ++ rest) v4 v6 lengthSrc v4.length v6.length
        = cleanUp status v4' v6 := by
  have hlen : lengthSrc < 127 := hmax
  obtain ⟨status, s, hloop, hstatus, hs⟩ := @addressLoop_failed ipv4Format [] name [] v4 lengthSrc
    AddressFormat.lawful_ipv4 hname (by rw [List.length_nil]; omega)
    (by rw [List.length_nil]; omega) h
  refine ⟨status, s.address, hstatus, hs, fun rest => ?_⟩
  rw [getDualStack_eq hpos hmax]
  refine (congrArg (· >>= _) (hloop rest)).trans ?_
  exact if_pos hstatus

theorem getDualStack_first (hname : HasChars name lengthSrc) (hpos : 0 < lengthSrc)
    (hmax : lengthSrc < maxIceConfigUriLen) (ha : name.takeWhile ipv4Format.allowed = a)
    (hends : Ends ipv4Format name) (hroom : a.length ≤ v4.length) (rest : List Char) :
    getDualStackIpAddrFromDnsHostname (name ++ rest) v4 v6 lengthSrc v4.length v6.length =
      afterIpv4 (name ++ rest) v6 v6.length
        (.success, cursorsAt a (a.map ipv4Format.output) (v4.drop a.length)
          (lengthSrc - a.length)) := by
  have hlen : lengthSrc < 127 := hmax
  have hloop := @addressLoop_ok ipv4Format [] name rest [] v4 lengthSrc
    AddressFormat.lawful_ipv4 hname (by rw [List.length_nil]; omega)
    (by rw [List.length_nil]; omega) hends
    (by rw [ha]; exact hroom)
  rw [ha] at hloop
  rw [getDualStack_eq hpos hmax]
  exact congrArg (· >>= _) hloop

theorem store_first (hlt : a.length < v4.length) :
    store (a.map ipv4Format.output ++ v4.drop a.length) (a.map ipv4Format.output).length '\x00'
      = .ok (a.map ipv4Format.output ++ '\x00' :: v4.drop (a.length + 1)) := by
  have h := store_terminator (a.map ipv4Format.output) v4 (by rwa [List.length_map])
  rwa [List.length_map] at h ⊢

/-- An address of the size of its array leaves no room for the zero. -/
theorem getDualStack_full (hname : HasChars name lengthSrc) (hpos : 0 < lengthSrc)
    (hmax : lengthSrc < maxIceConfigUriLen) (ha : name.takeWhile ipv4Format.allowed = a)
    (hends : Ends ipv4Format name) (hfull : a.length = v4.length) (rest : List Char) :
    getDualStackIpAddrFromDnsHostname (name ++ rest) v4 v6 lengthSrc v4.length v6.length
      = .error .outOfBounds := by
  rw [getDualStack_first hname hpos hmax ha hends hfull.le]
  have hstore := store_terminator_full (a.map ipv4Format.output) v4
    (by rw [List.length_map, hfull])
  rw [List.length_map] at hstore
  show (store (a.map ipv4Format.output ++ v4.drop a.length) (a.map ipv4Format.output).length
      '\x00' >>= _) = _
  rw [List.length_map, hstore]
  rfl

/-- A name that is an address that fits: the number of characters that are left wraps. -/
theorem getDualStack_short (hname : HasChars name lengthSrc) (hpos : 0 < lengthSrc)
    (hmax : lengthSrc < maxIceConfigUriLen) (hall : name.dropWhile ipv4Format.allowed = [])
    (hroom : name.length ≤ v4.length) :
    getDualStackIpAddrFromDnsHostname (name ++ []) v4 v6 lengthSrc v4.length v6.length
      = .error .outOfBounds := by
  have ha : name.takeWhile ipv4Format.allowed = name := by
    have hsplit := List.takeWhile_append_dropWhile (p := ipv4Format.allowed) (l := name)
    rwa [hall, List.append_nil] at hsplit
  have hends : Ends ipv4Format name := by
    intro c hc
    rw [hall] at hc
    cases hc
  have hlength : name.length = lengthSrc := by
    obtain h | ⟨-, h⟩ := hname
    · exact h
    · rw [← ha] at h
      exact absurd rfl (AddressFormat.lawful_ipv4.ne_zero (List.mem_takeWhile_imp h))
  rcases Nat.lt_or_eq_of_le hroom with hlt | heq
  · have hlen : lengthSrc < 127 := hmax
    rw [getDualStack_first hname hpos hmax ha hends hroom]
    show (store (name.map ipv4Format.output ++ v4.drop name.length)
        (name.map ipv4Format.output).length '\x00'
      >>= _) = _
    rw [store_first hlt, Memory.ok_bind]
    have hout := @addressLoop_outOfBounds ipv6Format (name ++ [])
      ⟨(lengthSrc - name.length + 2 ^ 16 - 1) % 2 ^ 16, (name.length + 1) % 2 ^ 8, 0, v6⟩
      ((lengthSrc - name.length + 2 ^ 16 - 1) % 2 ^ 16) (by rw [hlength, Nat.sub_self]; decide)
      (by rw [List.append_nil, List.getElem?_eq_none]; show name.length ≤
      (name.length + 1) % 2 ^ 8; omega)
      v6.length
    exact congrArg (· >>= _) hout
  · exact getDualStack_full hname hpos hmax ha hends heq []

theorem getDualStack_second (hname : HasChars (a ++ '_' :: t) lengthSrc)
    (hmax : lengthSrc < maxIceConfigUriLen) (ha : ∀ c ∈ a, ipv4Format.allowed c)
    (hlt : a.length < v4.length) (hm : lengthSrc = a.length + (m + 1)) (rest : List Char) :
    getDualStackIpAddrFromDnsHostname (a ++ '_' :: t ++ rest) v4 v6 lengthSrc v4.length v6.length =
      addressLoop ipv6Format (a ++ ['_'] ++ (t ++ rest)) v6.length m
      (cursorsAt (a ++ ['_']) [] v6 m) >>= fun r =>
        if r.1.failed then
          cleanUp r.1 (a.map ipv4Format.output ++ '\x00' :: v4.drop (a.length + 1)) r.2.address
        else
          store r.2.address r.2.j '\x00' >>= fun v6' =>
            cleanUp r.1 (a.map ipv4Format.output ++ '\x00' :: v4.drop (a.length + 1)) v6' := by
  have hlen : lengthSrc < 127 := hmax
  obtain ⟨htake, hdrop⟩ := takeWhile_of_stop (t := '_' :: t) ha (by
    rintro c hc
    obtain rfl := Option.some.inj hc
    rfl)
  have hends : Ends ipv4Format (a ++ '_' :: t) := by
    intro c hc
    rw [hdrop] at hc
    exact (Option.some.inj hc).symm
  rw [getDualStack_first hname (by omega) hmax htake hends hlt.le]
  show (store (a.map ipv4Format.output ++ v4.drop a.length) (a.map ipv4Format.output).length
      '\x00' >>= _) = _
  rw [store_first hlt, Memory.ok_bind]
  have hcount : (lengthSrc - a.length + 2 ^ 16 - 1) % 2 ^ 16 = m := by omega
  have hi : (a.length + 1) % 2 ^ 8 = a.length + 1 := by omega
  show (addressLoop ipv6Format (a ++ '_' :: t ++ rest) v6.length
      ((lengthSrc - a.length + 2 ^ 16 - 1) % 2 ^ 16)
    ⟨(lengthSrc - a.length + 2 ^ 16 - 1) % 2 ^ 16, (a.length + 1) % 2 ^ 8, 0, v6⟩ >>= _) = _
  rw [hcount, hi, cursorsAt, List.length_append, List.append_assoc, List.append_assoc]
  rfl

theorem output_ipv6 {b : List Char} (h : ∀ c ∈ b, ipv6Format.isDigit c ∨ c = '-') :
    b.map ipv6Format.output = b.map fun c => if c = '-' then ':' else c := by
  apply List.map_congr_left
  intro c hc
  obtain hdigit | rfl := h c hc
  · have hne : c ≠ '-' := by
      rintro rfl
      cases hdigit
    rw [if_neg hne]
    exact if_pos hdigit
  · rfl

/-- A name of the dual-stack form, taken apart as the loops do it. -/
theorem IsDualStack.split (h : IsDualStack name a b) :
    ∃ t, name = a ++ '_' :: t ∧ (∀ c ∈ a, ipv4Format.allowed c) ∧
      t.takeWhile ipv6Format.allowed = b ∧
      Ends ipv6Format t := by
  have hsplit := List.takeWhile_append_dropWhile (p := (· != '.')) (l := name)
  have hhead : ∀ c, (name.dropWhile (· != '.')).head? = some c → c = '.' := by
    intro c hc
    have hdot := List.head?_dropWhile_not (· != '.') name
    rw [hc] at hdot
    simpa using hdot
  obtain ⟨htake, hdrop⟩ := takeWhile_of_stop (p := ipv6Format.allowed) (a := b)
    (fun c hc => allowed_iff.mpr (h.hexDigits c hc)) fun c hc => by
      obtain rfl := hhead c hc
      rfl
  refine ⟨b ++ name.dropWhile (· != '.'), ?_, fun c hc => allowed_iff.mpr (h.digits c hc), htake,
    ?_⟩
  · conv_lhs => rw [← hsplit, h.label]
    rw [List.append_assoc]
    rfl
  · intro c hc
    rw [hdrop] at hc
    exact hhead c hc

/-- A call that fails is right if both arrays have room for a zero, unless the name is of the
documented form. -/
theorem dualStackRight_of_cleanUp (hstatus : status.failed = true) {v4' v6' : List Char}
    (h4 : v4'.length = v4.length) (h6 : v6'.length = v6.length)
    (hcall : ∀ rest, getDualStackIpAddrFromDnsHostname (name ++ rest) v4 v6 lengthSrc v4.length
      v6.length
      = cleanUp status v4' v6')
    (hform : ∀ a b, IsDualStack name a b → a.length < v4.length → ¬ b.length < v6.length) :
    DualStackRight name v4 v6 lengthSrc ↔ 0 < v4.length ∧ 0 < v6.length := by
  constructor
  · rintro ⟨status', w4, w6, hright, -⟩
    by_contra hroom
    rw [← h4, ← h6] at hroom
    have hnone := (hright []).symm.trans ((hcall []).trans (cleanUp_outOfBounds hstatus hroom))
    cases hnone
  · rintro ⟨hroom4, hroom6⟩
    obtain ⟨w4, w6, hclean, hw4, hw6, hzero4, hzero6⟩ :=
      cleanUp_failed hstatus (h4 ▸ hroom4) (h6 ▸ hroom6)
    refine ⟨status, w4, w6, fun rest => (hcall rest).trans hclean, hw4.trans h4, hw6.trans h6, ?_,
      ?_, ?_⟩
    · intro a b hab ha hb
      exact absurd hb (hform a b hab ha)
    · intro _
      exact (Status.failed_eq_true_iff status).mp hstatus
    · exact fun _ => ⟨hzero4, hzero6⟩

theorem HasChars.drop_append {n : Nat} (h : HasChars (a ++ t) n) (ha : '\x00' ∉ a) :
    ∃ k, n = a.length + k ∧ HasChars t k := by
  obtain h | ⟨hlt, hmem⟩ := h
  · exact ⟨t.length, by rw [← h, List.length_append], .inl rfl⟩
  · rw [List.length_append] at hlt
    exact ⟨n - a.length, by omega, .inr ⟨by omega, (List.mem_append.mp hmem).resolve_left ha⟩⟩

theorem split_unique {a' t' : List Char} (ha : ∀ c ∈ a, ipv4Format.allowed c)
    (ha' : ∀ c ∈ a', ipv4Format.allowed c) (h : a ++ '_' :: t = a' ++ '_' :: t') :
    a = a' ∧ t = t' := by
  have hstop : ∀ t : List Char, ∀ c, ('_' :: t).head? = some c → ipv4Format.allowed c = false := by
    rintro t c hc
    obtain rfl := Option.some.inj hc
    rfl
  obtain ⟨htake, hdrop⟩ := takeWhile_of_stop ha (hstop t)
  obtain ⟨htake', hdrop'⟩ := takeWhile_of_stop ha' (hstop t')
  rw [h] at htake hdrop
  exact ⟨htake.symm.trans htake', (List.cons.inj (hdrop.symm.trans hdrop')).2⟩

/-- The result of a name whose first address fits. -/
theorem dualStackRight_of_second (hname : HasChars (a ++ '_' :: t) lengthSrc)
    (hmax : lengthSrc < maxIceConfigUriLen) (ha : ∀ c ∈ a, ipv4Format.allowed c)
    (hlt : a.length < v4.length) :
    DualStackRight (a ++ '_' :: t) v4 v6 lengthSrc ↔
      0 < v6.length ∧ (Ends ipv6Format t → (t.takeWhile ipv6Format.allowed).length ≠
        v6.length) := by
  have hlen : lengthSrc < 127 := hmax
  have hzero : '\x00' ∉ a := fun h => AddressFormat.lawful_ipv4.ne_zero (ha _ h) rfl
  obtain ⟨k, hk, hchars⟩ := hname.drop_append hzero
  obtain ⟨m, rfl⟩ := hchars.exists_succ
  have ht := hchars.of_cons (by decide)
  have hcall := fun rest => @getDualStack_second t v4 v6 a lengthSrc m hname hmax ha hlt hk rest
  have hpre : (a ++ ['_']).length + m < 256 := by
    rw [List.length_append, List.length_singleton]
    omega
  -- there is one way only to split the name
  have hform : ∀ a' b', IsDualStack (a ++ '_' :: t) a' b' →
      a = a' ∧ Ends ipv6Format t ∧ t.takeWhile ipv6Format.allowed = b' := by
    intro a' b' h
    obtain ⟨t', heq, ha', htake, hends⟩ := h.split
    obtain ⟨rfl, rfl⟩ := split_unique ha ha' heq
    exact ⟨rfl, hends, htake⟩
  have hv4 : (a.map ipv4Format.output ++ '\x00' :: v4.drop (a.length + 1)).length = v4.length := by
    rw [List.length_append, List.length_map, List.length_cons, List.length_drop]
    omega
  by_cases hsecond : Ends ipv6Format t ∧ (t.takeWhile ipv6Format.allowed).length ≤ v6.length
  · obtain ⟨hends, hroom⟩ := hsecond
    have hloop := fun rest => @addressLoop_ok ipv6Format (a ++ ['_']) t rest [] v6 m
      AddressFormat.lawful_ipv6 ht hpre (by rw [List.length_nil]; omega) hends hroom
    generalize hw : t.takeWhile ipv6Format.allowed = w at hloop hroom ⊢
    rcases Nat.lt_or_eq_of_le hroom with hfits | hfull
    · -- both addresses fit
      have hstore := store_terminator (w.map ipv6Format.output) v6 (by rwa [List.length_map])
      rw [List.length_map] at hstore
      refine iff_of_true ⟨.success, a.map ipv4Format.output ++ '\x00' :: v4.drop (a.length + 1),
        w.map ipv6Format.output ++ '\x00' :: v6.drop (w.length + 1), fun rest => ?_, hv4, ?_, ?_,
        ?_, ?_⟩
        ⟨by omega, fun _ => hfits.ne⟩
      · rw [hcall rest]
        refine (congrArg (· >>= _) (hloop rest)).trans ?_
        show (store (w.map ipv6Format.output ++ v6.drop w.length)
            (w.map ipv6Format.output).length '\x00'
          >>= _) = _
        rw [List.length_map, hstore]
        rfl
      · rw [List.length_append, List.length_map, List.length_cons, List.length_drop]
        omega
      · intro a' b' h _ _
        obtain ⟨rfl, -, hb⟩ := hform a' b' h
        obtain rfl := hw.symm.trans hb
        rw [output_ipv6 h.hexDigits]
        exact ⟨rfl, congrArg (· ++ _) (output_legacy h.digits), rfl⟩
      · intro hno
        exact absurd (List.mem_append_right a List.mem_cons_self) hno
      · exact fun h => absurd rfl h
    · -- the zero behind the second address does not fit
      have hstore := store_terminator_full (w.map ipv6Format.output) v6
        (by rw [List.length_map, hfull])
      rw [List.length_map] at hstore
      refine iff_of_false ?_ fun h => h.2 hends hfull
      rintro ⟨status, v4', v6', hright, -⟩
      have hout := (hcall []).symm.trans (hright [])
      have hnone := (congrArg (· >>= _) (hloop [])).symm.trans hout
      have hfail : (store (w.map ipv6Format.output ++ v6.drop w.length)
          (w.map ipv6Format.output).length '\x00'
          >>= fun v6' => cleanUp .success (a.map ipv4Format.output ++
            '\x00' :: v4.drop (a.length + 1)) v6')
          = .error .outOfBounds := by
        rw [List.length_map, hstore]
        rfl
      cases hfail.symm.trans hnone
  · -- the second address is refused
    obtain ⟨status, s, hloop, hstatus, hs⟩ := @addressLoop_failed ipv6Format (a ++ ['_']) t [] v6 m
      AddressFormat.lawful_ipv6 ht hpre (by rw [List.length_nil]; omega) hsecond
    rw [@dualStackRight_of_cleanUp status v4 v6 _ _ hstatus _ _ hv4 hs (fun rest => ?_)
      fun a' b' h _ hb => ?_]
    · constructor
      · rintro ⟨-, hroom6⟩
        exact ⟨hroom6, fun hends heq => hsecond ⟨hends, heq.le⟩⟩
      · exact fun h => ⟨by omega, h.1⟩
    · rw [hcall rest]
      refine (congrArg (· >>= _) (hloop rest)).trans ?_
      exact if_pos hstatus
    · obtain ⟨-, hends, htake⟩ := hform a' b' h
      exact hsecond ⟨hends, by rw [htake]; exact hb.le⟩

theorem dualStackRight_iff (hname : HasChars name lengthSrc)
    (hmax : lengthSrc < maxIceConfigUriLen) :
    DualStackRight name v4 v6 lengthSrc ↔ DualStackFits name v4 v6 := by
  rcases Nat.eq_zero_or_pos lengthSrc with rfl | hpos
  · have hnil : name = [] := by
      obtain h | ⟨h, -⟩ := hname
      · exact List.length_eq_zero_iff.mp h
      · exact absurd h (Nat.not_lt_zero _)
    subst hnil
    rw [@dualStackRight_of_cleanUp .invalidArg v4 v6 _ _ rfl _ _ rfl rfl (fun rest => rfl)
      fun a b h _ _ => ?_]
    · exact ⟨fun h => ⟨h.1, h.2, .inl rfl⟩, fun h => ⟨h.1, h.2.1⟩⟩
    · have hlabel := h.label
      rw [List.takeWhile_nil] at hlabel
      exact absurd hlabel.symm (List.append_ne_nil_of_right_ne_nil a (List.cons_ne_nil _ _))
  · have hne : name ≠ [] := by
      rintro rfl
      exact absurd hname.zero_of_nil hpos.ne'
    -- the name is cut where its first address ends
    have hsplit := List.takeWhile_append_dropWhile (p := ipv4Format.allowed) (l := name)
    by_cases hfirst : Ends ipv4Format name ∧ (name.takeWhile ipv4Format.allowed).length ≤ v4.length
    · obtain ⟨hends, hroom⟩ := hfirst
      rw [DualStackFits]
      cases hdrop : name.dropWhile ipv4Format.allowed with
      | nil =>
        rw [hdrop, List.append_nil] at hsplit
        rw [hsplit] at hroom
        refine iff_of_false ?_ fun h => absurd (h.2.2.resolve_left hne) (Nat.not_lt.mpr hroom)
        rintro ⟨status, v4', v6', hright, -⟩
        cases (getDualStack_short hname hpos hmax hdrop hroom).symm.trans (hright [])
      | cons c t =>
        obtain rfl : c = '_' := hends c (by rw [hdrop]; rfl)
        simp only [hne, false_or, forall_const]
        rcases Nat.lt_or_eq_of_le hroom with hlt | hfull
        · have ha : ∀ c ∈ name.takeWhile ipv4Format.allowed, ipv4Format.allowed c :=
            fun c hc => List.mem_takeWhile_imp hc
          rw [hdrop] at hsplit
          generalize name.takeWhile ipv4Format.allowed = a at hsplit ha hlt
          subst hsplit
          rw [dualStackRight_of_second hname hmax ha hlt]
          constructor
          · rintro ⟨h6, hsize⟩
            exact ⟨by omega, h6, hlt.ne, fun _ => hsize⟩
          · rintro ⟨-, h6, -, hsize⟩
            exact ⟨h6, hsize hlt⟩
        · -- h.2.2.1 hfull => no room for the zero behind the first address
          refine iff_of_false ?_ fun h => h.2.2.1 hfull
          rintro ⟨status, v4', v6', hright, -⟩
          cases (getDualStack_full hname hpos hmax rfl hends hfull []).symm.trans (hright [])
    · -- the first address is refused
      obtain ⟨status, v4', hstatus, hv4, hcall⟩ :=
        @getDualStack_failed v4 v6 name lengthSrc hname hpos hmax hfirst
      rw [dualStackRight_of_cleanUp hstatus hv4 rfl hcall fun a b h ha _ => ?_]
      · rw [DualStackFits]
        refine ⟨fun h => ⟨h.1, h.2, .inr ?_⟩, fun h => ⟨h.1, h.2.1⟩⟩
        cases hdrop : name.dropWhile ipv4Format.allowed with
        | nil =>
          rw [hdrop, List.append_nil] at hsplit
          refine Nat.lt_of_not_le fun hle => hfirst ⟨fun c hc => ?_, ?_⟩
          · rw [hdrop] at hc
            cases hc
          · rw [hsplit]
            exact hle
        | cons c t =>
          rintro rfl
          have hends : Ends ipv4Format name := fun d hd => by
            rw [hdrop] at hd
            exact (Option.some.inj hd).symm
          exact ⟨fun h => hfirst ⟨hends, h.le⟩, fun h => absurd ⟨hends, h.le⟩ hfirst⟩
      · obtain ⟨t, rfl, ha4, -, -⟩ := h.split
        obtain ⟨htake, hdrop⟩ := takeWhile_of_stop (t := '_' :: t) ha4 (by
          rintro c hc
          obtain rfl := Option.some.inj hc
          rfl)
        refine hfirst ⟨fun c hc => ?_, by rw [htake]; exact ha.le⟩
        rw [hdrop] at hc
        exact (Option.some.inj hc).symm

/-- **Both functions read and write inside of their memory, end, and return the addresses of a name
of the documented form** exactly if the texts that they write fit, and a name without an underscore
is not taken for the first address of one. -/
theorem addresses_right_iff (hname : HasChars name lengthSrc)
    (hmax : lengthSrc < maxIceConfigUriLen) (address v4 v6 : List Char) :
    (LegacyRight name address lengthSrc ↔ LegacyFits name address) ∧
      (DualStackRight name v4 v6 lengthSrc ↔ DualStackFits name v4 v6) :=
  ⟨legacyRight_iff hname hmax, dualStackRight_iff hname hmax⟩

end

def sampleHost : List Char := "35-90-63-38_2001-db8.t-ae7d".toList

theorem addresses_right_sampleHost :
    LegacyRight sampleHost (List.replicate 12 ' ') 27 ∧
      DualStackRight sampleHost (List.replicate 12 ' ') (List.replicate 10 ' ') 27 := by
  have h := @addresses_right_iff sampleHost 27 (.inl rfl) (by decide)
    (List.replicate 12 ' ') (List.replicate 12 ' ') (List.replicate 10 ' ')
  exact ⟨h.1.mpr (.inr (by decide)),
    h.2.mpr ⟨by decide, by decide, .inr fun _ => ⟨by decide, fun _ _ => by decide⟩⟩⟩

/-- An address of the size of its array, and a name of digits and dashes only. -/
theorem addresses_not_right :
    ¬ LegacyRight "35-90".toList (List.replicate 5 ' ') 5 ∧
      ¬ DualStackRight "35-90".toList (List.replicate 46 ' ') (List.replicate 46 ' ') 5 := by
  have hname : HasChars "35-90".toList 5 := .inl rfl
  rw [legacyRight_iff hname (by decide), dualStackRight_iff hname (by decide)]
  constructor
  · rintro (h | h)
    · cases h
    · exact absurd h (by decide)
  · rintro ⟨-, -, h | h⟩
    · cases h
    · exact absurd (show 46 < 5 from h) (by decide)

end KvsWebrtc.Ice
