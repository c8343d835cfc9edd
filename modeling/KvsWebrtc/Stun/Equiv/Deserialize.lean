import KvsWebrtc.Common.Matching
import KvsWebrtc.Common.Overwrite
import KvsWebrtc.Stun.Deserialize
import Mathlib.Data.List.Forall2
import Mathlib.Tactic.SplitIfs

/-!
# What the decoder returns

`attributeHeaders_eq`: the headers that the loops step over are those on the wire, followed by what
is found in an attribute that is too long.  `deserializeStunPacket_ok`: what holds of a packet that
is accepted.  `asOnWire_iff`: exactly when its list consists of the attributes of known type on the
wire.
-/

namespace KvsWebrtc.Stun

/-! ### Headers -/

section

variable (pad : Nat → Nat) (buf : List UInt8) (stop : Nat)

theorem headersFrom_congr {f g pos : Nat} (hf : stop - pos ≤ f) (hg : stop - pos ≤ g) :
    headersFrom pad buf stop f pos = headersFrom pad buf stop g pos := by
  have hlen : stunAttributeHeaderLen = 4 := rfl
  induction f generalizing g pos with
  | zero =>
    cases g with
    | zero => rfl
    | succ g => rw [headersFrom, headersFrom, if_neg (by omega)]
  | succ f ih =>
    cases g with
    | zero => rw [headersFrom, headersFrom, if_neg (by omega)]
    | succ g =>
      rw [headersFrom, headersFrom]
      split_ifs with hlt
      · exact congrArg _ (ih (by omega) (by omega))
      · rfl

theorem headers_of_lt {pos : Nat} (h : pos < stop) :
    headers pad buf stop pos =
      headerAt buf pos :: headers pad buf stop (pos + 4 + pad (headerAt buf pos).length) := by
  obtain ⟨n, hn⟩ : ∃ n, stop - pos = n + 1 := ⟨stop - pos - 1, by omega⟩
  rw [headers, hn, headersFrom, if_pos h]
  exact congrArg _ (headersFrom_congr pad buf stop
    (by show stop - (pos + 4 + _) ≤ n; omega) le_rfl)

theorem headers_of_le {pos : Nat} (h : stop ≤ pos) : headers pad buf stop pos = [] := by
  rw [headers, Nat.sub_eq_zero_of_le h]
  rfl

/-- The headers stand at increasing offsets from `pos` on. -/
theorem pos_of_mem_headers {pos : Nat} :
    ∀ h ∈ headers pad buf stop pos, pos ≤ h.pos ∧ h.pos < stop ∧ h = headerAt buf h.pos := by
  induction hn : stop - pos using Nat.strong_induction_on generalizing pos with
  | _ n ih =>
    intro h hmem
    rcases Nat.lt_or_ge pos stop with hlt | hge
    · rw [headers_of_lt pad buf stop hlt] at hmem
      rcases List.mem_cons.mp hmem with rfl | hmem
      · exact ⟨le_rfl, hlt, rfl⟩
      · obtain ⟨hle, hstop, heq⟩ := ih _ (by omega) rfl h hmem
        exact ⟨by omega, hstop, heq⟩
    · rw [headers_of_le pad buf stop hge] at hmem
      exact absurd hmem List.not_mem_nil

end

theorem pairwise_headers (pad : Nat → Nat) (buf : List UInt8) (stop pos : Nat) :
    (headers pad buf stop pos).Pairwise fun h h' => h.pos < h'.pos := by
  induction hn : stop - pos using Nat.strong_induction_on generalizing pos with
  | _ n ih =>
    rcases Nat.lt_or_ge pos stop with hlt | hge
    · rw [headers_of_lt pad buf stop hlt, List.pairwise_cons]
      refine ⟨fun h hmem => ?_, ih _ (by omega) _ rfl⟩
      have hle := (pos_of_mem_headers pad buf stop h hmem).1
      exact Nat.lt_of_lt_of_le (by show pos < _; omega) hle
    · rw [headers_of_le pad buf stop hge]
      exact List.Pairwise.nil

theorem length_headerAt_lt (buf : List UInt8) (pos : Nat) : (headerAt buf pos).length < 2 ^ 16 := by
  have hlt := beNat_lt (bytesAt buf (pos + 2) 2)
  have hle : (bytesAt buf (pos + 2) 2).length ≤ 2 := List.length_take_le 2 _
  calc (headerAt buf pos).length < 256 ^ (bytesAt buf (pos + 2) 2).length := hlt
    _ ≤ 256 ^ 2 := Nat.pow_le_pow_right (by decide) hle

theorem roundUp16_of_le {n : Nat} (h : n ≤ maxPaddableLen) : roundUp16 n = roundUp n := by
  rw [roundUp16]
  apply Nat.mod_eq_of_lt
  rw [roundUp]
  simp only [maxPaddableLen] at h
  omega

theorem roundUp_of_gt {n : Nat} (h : maxPaddableLen < n) (hlt : n < 2 ^ 16) :
    roundUp n = 2 ^ 16 := by
  rw [roundUp]
  simp only [maxPaddableLen] at h
  omega

theorem roundUp16_of_gt {n : Nat} (h : maxPaddableLen < n) (hlt : n < 2 ^ 16) :
    roundUp16 n = 0 := by
  rw [roundUp16, roundUp_of_gt h hlt, Nat.mod_self]

/-- A step over an attribute that is too long leaves the message. -/
theorem attributesEnd_le (buf : List UInt8) : attributesEnd buf ≤ stunHeaderLen + 65535 := by
  have hlt := beNat_lt (bytesAt buf 2 2)
  have hle : (bytesAt buf 2 2).length ≤ 2 := List.length_take_le 2 _
  have hpow : 256 ^ (bytesAt buf 2 2).length ≤ 256 ^ 2 := Nat.pow_le_pow_right (by decide) hle
  rw [attributesEnd, messageLength]
  omega

/-- The headers that the decoder steps over from an offset on: those on the wire, and what it finds
behind the header of an attribute that is too long. -/
theorem headers_roundUp16 (buf : List UInt8) {stop pos : Nat} (hstop : stop ≤ stunHeaderLen + 65535)
    (hpos : stunHeaderLen ≤ pos) :
    headers roundUp16 buf stop pos =
      headers roundUp buf stop pos ++
        match (headers roundUp buf stop pos).getLast? with
        | none => []
        | some h => if maxPaddableLen < h.length then headers roundUp16 buf stop (h.pos + 4)
          else [] := by
  induction hn : stop - pos using Nat.strong_induction_on generalizing pos with
  | _ n ih =>
    rcases Nat.lt_or_ge pos stop with hlt | hge
    · rw [headers_of_lt roundUp16 buf stop hlt, headers_of_lt roundUp buf stop hlt]
      have hlen := length_headerAt_lt buf pos
      by_cases hlong : maxPaddableLen < (headerAt buf pos).length
      · -- the attribute is the last one
        rw [headers_of_le roundUp buf stop (by rw [roundUp_of_gt hlong hlen]; omega),
          roundUp16_of_gt hlong hlen, List.getLast?_singleton]
        simp only [if_pos hlong, List.singleton_append]
        rfl
      · rw [roundUp16_of_le (Nat.le_of_not_lt hlong), ih _ (by omega) (by omega) rfl,
          List.cons_append]
        congr 2
        generalize headers roundUp buf stop (pos + 4 + roundUp (headerAt buf pos).length) = hs
        cases hs with
        | nil =>
          rw [List.getLast?_singleton]
          simp only [if_neg hlong]
          rfl
        | cons h hs => rw [List.getLast?_cons_cons]
    · rw [headers_of_le roundUp16 buf stop hge, headers_of_le roundUp buf stop hge]
      rfl

theorem attributeHeaders_eq (buf : List UInt8) :
    attributeHeaders buf = wireHeaders buf ++ misreadHeaders buf :=
  headers_roundUp16 buf (attributesEnd_le buf) le_rfl

/-! ### The first loop -/

theorem Found.step_ok {found found' : Found} {buf : List UInt8} {h : AttributeHeader}
    (hstep : found.step buf h = .ok found') :
    h.pos + 4 ≤ buf.length ∧
      ((kindOf h.type = none ∧ found' = found) ∨
        ∃ k, kindOf h.type = some k ∧ found.check buf h k = .ok () ∧ found' = found.count k) := by
  rw [Found.step] at hstep
  by_cases hpos : h.pos + stunAttributeHeaderLen ≤ buf.length
  case neg => rw [if_neg hpos] at hstep; cases hstep
  rw [if_pos hpos] at hstep
  refine ⟨hpos, ?_⟩
  cases hk : kindOf h.type with
  | none =>
    rw [hk] at hstep
    exact .inl ⟨rfl, (Except.ok.inj hstep).symm⟩
  | some k =>
    rw [hk] at hstep
    cases hcheck : found.check buf h k with
    | error e => simp only [hcheck] at hstep; cases hstep
    | ok u =>
      simp only [hcheck] at hstep
      split_ifs at hstep
      exact .inr ⟨k, rfl, hcheck, (Except.ok.inj hstep).symm⟩

theorem countAttributes_cons {buf : List UInt8} {h : AttributeHeader} {hs : List AttributeHeader}
    {found found' : Found} (hcount : countAttributes buf (h :: hs) found = .ok found') :
    ∃ next, found.step buf h = .ok next ∧ countAttributes buf hs next = .ok found' := by
  rw [countAttributes] at hcount
  cases hstep : found.step buf h with
  | error e => rw [hstep] at hcount; cases hcount
  | ok next => rw [hstep] at hcount; exact ⟨next, rfl, hcount⟩

theorem knownCount_cons (h : AttributeHeader) (hs : List AttributeHeader) :
    knownCount (h :: hs) = knownCount hs + if h.known then 1 else 0 := by
  rw [knownCount, List.filter_cons]
  split_ifs
  · rfl
  · rfl

theorem countAttributes_count {buf : List UInt8} {hs : List AttributeHeader} {found found' : Found}
    (hcount : countAttributes buf hs found = .ok found') :
    found'.attributeCount = found.attributeCount + knownCount hs := by
  induction hs generalizing found with
  | nil => rw [← Except.ok.inj hcount]; rfl
  | cons h hs ih =>
    obtain ⟨next, hstep, hrest⟩ := countAttributes_cons hcount
    rw [ih hrest, knownCount_cons]
    obtain ⟨-, ⟨hk, rfl⟩ | ⟨k, hk, -, rfl⟩⟩ := Found.step_ok hstep
    · simp only [AttributeHeader.known, hk, Option.isSome_none, Bool.false_eq_true, if_false]
      omega
    · simp only [AttributeHeader.known, hk, Option.isSome_some, if_true, Found.count]
      omega

theorem countAttributes_check {buf : List UInt8} {hs : List AttributeHeader} {found found' : Found}
    (hcount : countAttributes buf hs found = .ok found') {h : AttributeHeader} (hmem : h ∈ hs)
    {k : AttributeKind} (hk : kindOf h.type = some k) : ∃ f : Found, f.check buf h k = .ok () := by
  induction hs generalizing found with
  | nil => exact absurd hmem List.not_mem_nil
  | cons h' hs ih =>
    obtain ⟨next, hstep, hrest⟩ := countAttributes_cons hcount
    rcases List.mem_cons.mp hmem with rfl | hmem
    · obtain ⟨-, ⟨hnone, -⟩ | ⟨k', hk', hcheck, -⟩⟩ := Found.step_ok hstep
      · rw [hk] at hnone; cases hnone
      · rw [hk] at hk'
        obtain rfl := Option.some.inj hk'
        exact ⟨found, hcheck⟩
    · exact ih hrest hmem

/-- The flag that the first loop sets for a kind of attribute of which there may be only one. -/
def Found.flag (found : Found) : AttributeKind → Bool
  | .messageIntegrity => found.messageIntegrityFound
  | .fingerprint => found.fingerprintFound
  | _ => false

def AttributeKind.Verifying (k : AttributeKind) : Prop := k = .messageIntegrity ∨ k = .fingerprint

/-- After an attribute that sets its flag there is none of its kind. -/
theorem not_kind_of_flag {buf : List UInt8} {hs : List AttributeHeader} {found found' : Found}
    (hcount : countAttributes buf hs found = .ok found') {k : AttributeKind} (hk : k.Verifying)
    (hflag : found.flag k) : ∀ h ∈ hs, kindOf h.type ≠ some k := by
  induction hs generalizing found with
  | nil => exact fun h hmem => absurd hmem List.not_mem_nil
  | cons h hs ih =>
    obtain ⟨next, hstep, hrest⟩ := countAttributes_cons hcount
    obtain ⟨-, ⟨hnone, rfl⟩ | ⟨k', hk', hcheck, rfl⟩⟩ := Found.step_ok hstep
    · intro h' hmem
      rcases List.mem_cons.mp hmem with rfl | hmem
      · rw [hnone]; exact nofun
      · exact ih hrest hflag h' hmem
    · intro h' hmem
      rcases List.mem_cons.mp hmem with rfl | hmem
      · intro heq
        rw [hk'] at heq
        obtain rfl := Option.some.inj heq
        rcases hk with rfl | rfl
        · simp only [Found.flag] at hflag
          simp only [Found.check, hflag, if_true] at hcheck
          split_ifs at hcheck
        · simp only [Found.flag] at hflag
          simp only [Found.check, hflag, if_true] at hcheck
          split_ifs at hcheck
      · refine ih hrest ?_ h' hmem
        rcases hk with rfl | rfl
        · simp only [Found.flag, Found.count] at hflag ⊢
          rw [hflag, Bool.true_or]
        · simp only [Found.flag, Found.count] at hflag ⊢
          rw [hflag, Bool.true_or]

/-- There is at most one message integrity and at most one fingerprint. -/
theorem countAttributes_unique {buf : List UInt8} {hs : List AttributeHeader} {found found' : Found}
    (hcount : countAttributes buf hs found = .ok found') {k : AttributeKind} (hk : k.Verifying)
    {h h' : AttributeHeader} (hmem : h ∈ hs) (hmem' : h' ∈ hs) (hkind : kindOf h.type = some k)
    (hkind' : kindOf h'.type = some k) : h = h' := by
  induction hs generalizing found with
  | nil => exact absurd hmem List.not_mem_nil
  | cons a hs ih =>
    obtain ⟨next, hstep, hrest⟩ := countAttributes_cons hcount
    have hflag : kindOf a.type = some k → next.flag k := by
      intro ha
      obtain ⟨-, ⟨hnone, -⟩ | ⟨k', hk', -, rfl⟩⟩ := Found.step_ok hstep
      · rw [ha] at hnone; cases hnone
      · rw [ha] at hk'
        obtain rfl := Option.some.inj hk'
        rcases hk with rfl | rfl
        · simp [Found.flag, Found.count]
        · simp [Found.flag, Found.count]
    rcases List.mem_cons.mp hmem with rfl | htail
    · rcases List.mem_cons.mp hmem' with rfl | htail'
      · rfl
      · exact absurd hkind' (not_kind_of_flag hrest hk (hflag hkind) h' htail')
    · rcases List.mem_cons.mp hmem' with rfl | htail'
      · exact absurd hkind (not_kind_of_flag hrest hk (hflag hkind') h htail)
      · exact ih hrest htail htail'

/-- Only data may be longer than the longest user name. -/
theorem Found.check_length {found : Found} {buf : List UInt8} {h : AttributeHeader}
    {k : AttributeKind} (hcheck : found.check buf h k = .ok ()) (hk : k ≠ .data) :
    h.length ≤ stunMaxUsernameLen := by
  have hle : ∀ {ok : Bool} {status : Status}, found.checkLength ok status = .ok () → ok := by
    intro ok status hok
    rw [Found.checkLength] at hok
    split_ifs at hok with h
    exact h
  -- all other lengths are fixed, and small
  have hfour : ∀ {n : Nat}, (h.length == n) = true → n ≤ 512 → h.length ≤ stunMaxUsernameLen := by
    intro n hn hle
    rw [beq_iff_eq.mp hn]
    exact hle
  cases k with
  | address =>
    simp only [Found.check] at hcheck
    cases hfield : fieldAt buf (h.pos + 4) 2 with
    | error e => simp only [hfield] at hcheck; cases hcheck
    | ok family =>
      simp only [hfield] at hcheck
      refine hfour (hle hcheck) ?_
      rw [ipAddressLength]
      split_ifs
      · decide
      · decide
  | username => exact of_decide_eq_true (hle hcheck)
  | priority => exact hfour (hle hcheck) (by decide)
  | flag => exact hfour (hle hcheck) (by decide)
  | lifetime => exact hfour (hle hcheck) (by decide)
  | changeRequest => exact hfour (hle hcheck) (by decide)
  | requestedTransport => exact hfour (hle hcheck) (by decide)
  | realm => exact (of_decide_eq_true (hle hcheck)).trans (by decide)
  | nonce => exact (of_decide_eq_true (hle hcheck)).trans (by decide)
  | errorCode => exact (of_decide_eq_true (hle hcheck)).trans (by decide)
  | iceControl => exact hfour (hle hcheck) (by decide)
  | data => exact absurd rfl hk
  | channelNumber => exact hfour (hle hcheck) (by decide)
  | messageIntegrity =>
    simp only [Found.check] at hcheck
    split_ifs at hcheck with hlen
    rw [not_not.mp hlen]
    decide
  | fingerprint =>
    simp only [Found.check] at hcheck
    split_ifs at hcheck with hlen
    rw [not_not.mp hlen]
    decide

/-! ### The second loop -/

def StunAttribute.known (a : StunAttribute) : Bool := (kindOf a.type).isSome

/-- The areas before `dest` stay as they are, and the references that are added show the attributes
as `overwritten` says. -/
theorem foldl_put {c : Copied} (hdest : (c.areas.take c.dest).length = c.dest)
    (as : List StunAttribute) :
    ∃ new, (as.foldl Copied.put c).entries = c.entries ++ new ∧
      (as.foldl Copied.put c).areas.take c.dest = c.areas.take c.dest ∧
      (as ≠ [] → (as.foldl Copied.put c).areas[c.dest]? =
        (overwritten StunAttribute.known as).head?) ∧
      new.filterMap (fun i => (as.foldl Copied.put c).areas[i]?) =
        overwritten StunAttribute.known as := by
  induction as generalizing c with
  | nil =>
    refine ⟨[], ?_, rfl, fun h => absurd rfl h, rfl⟩
    rw [List.append_nil]
    rfl
  | cons a as ih =>
    rw [List.foldl_cons]
    have hareas : (c.put a).areas = c.areas.take c.dest ++ [a] := rfl
    by_cases hknown : a.known
    · -- a known attribute keeps its place, the next one gets another
      have hnext : (c.put a).dest = c.dest + 1 := if_pos hknown
      have htake : (c.put a).areas.take (c.put a).dest = c.areas.take c.dest ++ [a] := by
        rw [hnext, hareas, List.take_of_length_le]
        rw [List.length_append, hdest, List.length_singleton]
      obtain ⟨new, hentries, hkeep, -, hshow⟩ := ih (c := c.put a)
        (by rw [htake, List.length_append, hdest, hnext, List.length_singleton])
      have hat : (as.foldl Copied.put (c.put a)).areas[c.dest]? = some a := by
        have hlt : c.dest < (c.put a).dest := by omega
        rw [← List.getElem?_take_of_lt hlt, hkeep, htake, List.getElem?_append_right hdest.le,
          hdest, Nat.sub_self, List.getElem?_cons_zero]
      refine ⟨c.dest :: new, ?_, ?_, fun _ => ?_, ?_⟩
      · rw [hentries]
        exact List.append_assoc c.entries [c.dest] new
      · have hle : c.dest ≤ (c.put a).dest := by omega
        have htt := congrArg (List.take c.dest) hkeep
        rw [List.take_take, Nat.min_eq_left hle, htake, List.take_append_of_le_length hdest.ge,
          List.take_take, Nat.min_self] at htt
        exact htt
      · rw [hat, overwritten, if_pos hknown]
        rfl
      · rw [List.filterMap_cons, hat, overwritten, if_pos hknown]
        exact congrArg (a :: ·) hshow
    · -- an unknown one leaves its place to the next, which its entry then shows
      have hnext : (c.put a).dest = c.dest := if_neg hknown
      have htake : (c.put a).areas.take (c.put a).dest = c.areas.take c.dest := by
        rw [hnext, hareas, List.take_append_of_le_length hdest.ge, List.take_take, Nat.min_self]
      obtain ⟨new, hentries, hkeep, hhead, hshow⟩ := ih (c := c.put a)
        (by rw [htake, hdest, hnext])
      have hat : (as.foldl Copied.put (c.put a)).areas[c.dest]? =
          some ((overwritten StunAttribute.known as).headD a) := by
        cases as with
        | nil =>
          show (c.put a).areas[c.dest]? = some a
          rw [hareas, List.getElem?_append_right hdest.le, hdest, Nat.sub_self,
            List.getElem?_cons_zero]
        | cons b as =>
          have hhead := hhead (List.cons_ne_nil b as)
          rw [hnext] at hhead
          rw [hhead, overwritten]
          rfl
      refine ⟨c.dest :: new, ?_, ?_, fun _ => ?_, ?_⟩
      · rw [hentries]
        exact List.append_assoc c.entries [c.dest] new
      · rw [htake, hnext] at hkeep
        exact hkeep
      · rw [hat, overwritten, if_neg hknown]
        rfl
      · rw [List.filterMap_cons, hat, overwritten, if_neg hknown]
        exact congrArg (_ :: ·) hshow

theorem attributeList_foldl_put (as : List StunAttribute) :
    (as.foldl Copied.put ⟨[], 0, []⟩).attributeList = overwritten StunAttribute.known as := by
  obtain ⟨new, hentries, -, -, hshow⟩ := foldl_put (c := ⟨[], 0, []⟩) rfl as
  rw [Copied.attributeList, hentries]
  exact hshow

section

variable {hmac : List UInt8 → List UInt8 → Digest} {crc32 : List UInt8 → UInt32} {buf : List UInt8}
  {password : Option (List UInt8)}

/-- The second loop copies every attribute or fails. -/
theorem copyAttributes_ok {tx : List UInt8} {hs : List AttributeHeader} {c c' : Copied} :
    copyAttributes hmac crc32 buf password tx hs c = .ok c' ↔
      ∃ as, List.Forall₂ (fun h a => copyAttribute hmac crc32 buf password tx h = .ok a) hs as ∧
        c' = as.foldl Copied.put c := by
  induction hs generalizing c with
  | nil =>
    simp only [copyAttributes, Except.ok.injEq, List.forall₂_nil_left_iff, exists_eq_left,
      List.foldl_nil, eq_comm]
  | cons h hs ih =>
    rw [copyAttributes]
    cases hcopy : copyAttribute hmac crc32 buf password tx h with
    | error e =>
      constructor
      · intro hc; cases hc
      · rintro ⟨as, hall, -⟩
        cases hall with
        | cons ha _ => rw [hcopy] at ha; cases ha
    | ok a =>
      simp only [ih]
      constructor
      · rintro ⟨as, hall, rfl⟩
        exact ⟨a :: as, .cons hcopy hall, rfl⟩
      · rintro ⟨as, hall, rfl⟩
        cases hall with
        | @cons _ b _ bs ha hall =>
          rw [hcopy] at ha
          obtain rfl := Except.ok.inj ha
          exact ⟨bs, hall, rfl⟩

/-- **What an accepted buffer is**: the first loop has counted its attributes of known type, the
second one has copied as many attributes, and the list shows them as far as they are not
overwritten. -/
theorem deserializeStunPacket_ok {packet : StunPacket} :
    deserializeStunPacket hmac crc32 buf password = .ok packet ↔
      stunHeaderLen ≤ buf.length ∧ attributesEnd buf ≤ buf.length ∧
      beNat (bytesAt buf 4 4) = stunHeaderMagicCookie ∧
      ∃ found as, countAttributes buf (attributeHeaders buf) ⟨false, false, 0⟩ = .ok found ∧
        List.Forall₂ (fun h a => copyAttribute hmac crc32 buf password (transactionIdOf buf) h =
          .ok a)
          ((attributeHeaders buf).take (knownCount (attributeHeaders buf))) as ∧
        packet =
          ⟨⟨beNat (bytesAt buf 0 2), messageLength buf, stunHeaderMagicCookie, transactionIdOf buf⟩,
            overwritten StunAttribute.known as⟩ := by
  rw [deserializeStunPacket]
  by_cases hlen : buf.length < stunHeaderLen
  · rw [if_pos hlen]
    exact iff_of_false nofun fun h => absurd h.1 (Nat.not_le.mpr hlen)
  by_cases hend : buf.length < attributesEnd buf
  · rw [if_neg hlen, if_pos hend]
    exact iff_of_false nofun fun h => absurd h.2.1 (Nat.not_le.mpr hend)
  by_cases hcookie : beNat (bytesAt buf 4 4) = stunHeaderMagicCookie
  case neg =>
    rw [if_neg hlen, if_neg hend, if_pos hcookie]
    exact iff_of_false nofun fun h => absurd h.2.2.1 hcookie
  rw [if_neg hlen, if_neg hend, if_neg (not_not.mpr hcookie)]
  simp only [Nat.not_lt.mp hlen, Nat.not_lt.mp hend, hcookie, true_and]
  cases hcount : countAttributes buf (attributeHeaders buf) ⟨false, false, 0⟩ with
  | error e => exact iff_of_false nofun (by rintro ⟨found, as, hfound, -⟩; cases hfound)
  | ok found =>
    -- as many attributes are copied as have been counted
    have hknown := countAttributes_count hcount
    rw [Nat.zero_add] at hknown
    simp only [hknown]
    cases hcopy : copyAttributes hmac crc32 buf password (transactionIdOf buf)
        ((attributeHeaders buf).take (knownCount (attributeHeaders buf))) ⟨[], 0, []⟩ with
    | error e =>
      refine iff_of_false nofun ?_
      rintro ⟨found, as, -, hall, -⟩
      rw [copyAttributes_ok.mpr ⟨as, hall, rfl⟩] at hcopy
      cases hcopy
    | ok copied =>
      obtain ⟨as, hall, rfl⟩ := copyAttributes_ok.mp hcopy
      simp only [attributeList_foldl_put, Except.ok.injEq]
      constructor
      · rintro rfl
        exact ⟨found, as, rfl, hall, rfl⟩
      · rintro ⟨_, as', -, hall', rfl⟩
        have heq : as = as' :=
          List.right_unique_forall₂' (fun h a b ha hb => Except.ok.inj (ha.symm.trans hb)) hall
          hall'
        rw [heq]

/-! ### The attributes as they stand on the wire -/

/-- What the second loop copies for a kind, a message integrity and a fingerprint included. -/
theorem copyAttribute_value {tx : List UInt8} {h : AttributeHeader} {a : StunAttribute}
    (hcopy : copyAttribute hmac crc32 buf password tx h = .ok a) {k : AttributeKind}
    (hk : kindOf h.type = some k) :
    ∃ v, valueAt roundUp16 buf tx h k = .ok v ∧ a = ⟨h.type, h.length, v⟩ := by
  simp only [copyAttribute, hk] at hcopy
  have hmap : ∀ {r : Except Failure AttributeValue},
      r.map (fun v => (⟨h.type, h.length, v⟩ : StunAttribute)) = .ok a →
        ∃ v, r = .ok v ∧ a = ⟨h.type, h.length, v⟩ := by
    intro r hr
    cases r with
    | error e => cases hr
    | ok v => exact ⟨v, rfl, (Except.ok.inj hr).symm⟩
  cases k with
  | messageIntegrity =>
    match password, hcopy with
    | none, hcopy => cases hcopy
    | some [], hcopy => cases hcopy
    | some (c :: key), hcopy =>
      cases hfield : fieldAt buf (h.pos + 4) stunHmacValueLen with
      | error e => simp only [hfield] at hcopy; cases hcopy
      | ok b =>
        simp only [hfield] at hcopy
        split_ifs at hcopy with hdigest
        refine ⟨.messageIntegrity b, ?_, ?_⟩
        · rw [valueAt, hfield]
          rfl
        · rw [← hdigest]
          exact (Except.ok.inj hcopy).symm
  | fingerprint =>
    cases hfield : fieldAt buf (h.pos + 4) stunAttributeFingerprintLen with
    | error e => simp only [hfield] at hcopy; cases hcopy
    | ok b =>
      simp only [hfield] at hcopy
      split_ifs at hcopy
      refine ⟨.fingerprint (beNat b), ?_, (Except.ok.inj hcopy).symm⟩
      rw [valueAt, hfield]
      rfl
  | _ => exact hmap hcopy

theorem copyAttribute_type {tx : List UInt8} {h : AttributeHeader} {a : StunAttribute}
    (hcopy : copyAttribute hmac crc32 buf password tx h = .ok a) :
    a.type = h.type ∧ a.length = h.length := by
  cases hk : kindOf h.type with
  | none =>
    simp only [copyAttribute, hk] at hcopy
    rw [← Except.ok.inj hcopy]
    exact ⟨rfl, rfl⟩
  | some k =>
    obtain ⟨v, -, rfl⟩ := copyAttribute_value hcopy hk
    exact ⟨rfl, rfl⟩

/-- The padding matters only for attributes that are too long. -/
theorem valueAt_roundUp16 {tx : List UInt8} {h : AttributeHeader} (hlen : h.length ≤ maxPaddableLen)
    (k : AttributeKind) : valueAt roundUp16 buf tx h k = valueAt roundUp buf tx h k := by
  have hpad := roundUp16_of_le hlen
  cases k <;> simp only [valueAt, hpad]

/-- What is copied is what stands on the wire, unless it is too long. -/
theorem copyAttribute_wire {h : AttributeHeader} {a : StunAttribute}
    (hcopy : copyAttribute hmac crc32 buf password (transactionIdOf buf) h = .ok a)
    (hlen : h.known → h.length ≤ maxPaddableLen) : wireAttribute buf h = some a := by
  rw [wireAttribute]
  cases hk : kindOf h.type with
  | none =>
    simp only [copyAttribute, hk] at hcopy
    rw [← Except.ok.inj hcopy]
  | some k =>
    obtain ⟨v, hv, rfl⟩ := copyAttribute_value hcopy hk
    rw [valueAt_roundUp16 (hlen (by rw [AttributeHeader.known, hk]; rfl))] at hv
    simp only [hv]

theorem wireAttribute_type {h : AttributeHeader} {a : StunAttribute}
    (hwire : wireAttribute buf h = some a) : a.type = h.type ∧ a.length = h.length := by
  rw [wireAttribute] at hwire
  cases hk : kindOf h.type with
  | none =>
    simp only [hk] at hwire
    rw [← Option.some.inj hwire]
    exact ⟨rfl, rfl⟩
  | some k =>
    simp only [hk] at hwire
    cases hv : valueAt roundUp buf (transactionIdOf buf) h k with
    | error e => simp only [hv] at hwire; cases hwire
    | ok v =>
      simp only [hv] at hwire
      rw [← Option.some.inj hwire]
      exact ⟨rfl, rfl⟩

/-- Data that is too long is copied without its bytes. -/
theorem copyAttribute_ne_wire {h h' : AttributeHeader} {a : StunAttribute}
    (hcopy : copyAttribute hmac crc32 buf password (transactionIdOf buf) h' = .ok a)
    (hdata : kindOf h.type = some .data) (hlong : maxPaddableLen < h.length)
    (hlt : h.length < 2 ^ 16) : wireAttribute buf h ≠ some a := by
  intro hwire
  obtain ⟨htype, hlength⟩ := wireAttribute_type hwire
  obtain ⟨htype', hlength'⟩ := copyAttribute_type hcopy
  have hkind : kindOf h'.type = some .data := by rw [← htype', htype, hdata]
  obtain ⟨v, hv, rfl⟩ := copyAttribute_value hcopy hkind
  have hpad : roundUp16 h'.length = 0 :=
    roundUp16_of_gt (by rw [← hlength', hlength]; exact hlong)
    (by rw [← hlength', hlength]; exact hlt)
  rw [wireAttribute, hdata] at hwire
  simp only [valueAt, hpad, roundUp_of_gt hlong hlt] at hv hwire
  cases hfield : fieldAt buf (h'.pos + 4) 0 with
  | error e => rw [hfield] at hv; cases hv
  | ok b =>
    cases hfield' : fieldAt buf (h.pos + 4) (2 ^ 16) with
    | error e => rw [hfield'] at hwire; cases hwire
    | ok b' =>
      rw [hfield] at hv
      rw [hfield'] at hwire
      obtain rfl := Except.ok.inj hv
      simp only [Except.map, Option.some.injEq, StunAttribute.mk.injEq, AttributeValue.bytes.injEq]
        at hwire
      omega

theorem knownCount_append (hs hs' : List AttributeHeader) :
    knownCount (hs ++ hs') = knownCount hs + knownCount hs' := by
  rw [knownCount, List.filter_append, List.length_append]
  rfl

theorem knownCount_eq_zero {hs : List AttributeHeader} :
    knownCount hs = 0 ↔ ∀ h ∈ hs, ¬ h.known := by
  rw [knownCount, List.length_eq_zero_iff, List.filter_eq_nil_iff]

/-- The attributes on the wire, with whether their type is known. -/
def wireEntry (buf : List UInt8) (h : AttributeHeader) : Bool × Option StunAttribute :=
  (h.known, wireAttribute buf h)

/-- The same for a copied attribute, in which an attribute that is not all there counts as known. -/
def copiedEntry (a : Option StunAttribute) : Bool × Option StunAttribute :=
  (a.elim true StunAttribute.known, a)

theorem wireEntry_of_known {h : AttributeHeader} (hk : h.known) :
    wireEntry buf h = copiedEntry (wireAttribute buf h) := by
  rw [wireEntry, copiedEntry]
  congr 1
  cases hwire : wireAttribute buf h with
  | none => exact hk
  | some a =>
    show h.known = (kindOf a.type).isSome
    rw [(wireAttribute_type hwire).1]
    rfl

theorem wireEntry_of_copied {h : AttributeHeader} {a : StunAttribute}
    (hwire : wireAttribute buf h = some a) : wireEntry buf h = copiedEntry (some a) := by
  rw [wireEntry, copiedEntry, hwire]
  congr 1
  show h.known = (kindOf a.type).isSome
  rw [(wireAttribute_type hwire).1]
  rfl

/-- The list as the entries that the attributes on the wire leave. -/
theorem asOnWire_iff_overwritten {as : List StunAttribute} {ws : List AttributeHeader} {n : Nat}
    (hcopied : List.Forall₂ (fun h a => wireAttribute buf h = some a) (ws.take n) as) :
    (ws.filter (·.known)).map (wireAttribute buf) =
        (overwritten StunAttribute.known as).map some ↔
      overwritten Prod.fst ((ws.map (wireEntry buf)).take n) =
        (ws.map (wireEntry buf)).filter Prod.fst := by
  have hmap : (ws.map (wireEntry buf)).take n = as.map fun a => copiedEntry (some a) := by
    rw [← List.map_take]
    generalize ws.take n = taken at hcopied
    induction hcopied with
    | nil => rfl
    | cons hwire _ ih => rw [List.map_cons, List.map_cons, wireEntry_of_copied hwire, ih]
  have hfilter : (ws.map (wireEntry buf)).filter Prod.fst =
      ((ws.filter (·.known)).map (wireAttribute buf)).map copiedEntry := by
    rw [List.filter_map, List.map_map]
    apply List.map_congr_left
    intro h hh
    exact wireEntry_of_known (List.mem_filter.mp hh).2
  have hknown : (fun a : StunAttribute => (copiedEntry (some a)).1) = StunAttribute.known := rfl
  have hentries : (overwritten StunAttribute.known as).map (fun a => copiedEntry (some a)) =
      ((overwritten StunAttribute.known as).map some).map copiedEntry := by
    rw [List.map_map]
    rfl
  have hinj : Function.Injective copiedEntry := fun a b h => congrArg Prod.snd h
  rw [hmap, hfilter, overwritten_map, hknown, hentries, (List.map_injective_iff.mpr hinj).eq_iff]
  exact eq_comm

/-- What `overwritten_take_eq_filter_iff` says of the entries. -/
theorem wireEntries_iff (ws : List AttributeHeader) :
    overwritten Prod.fst ((ws.map (wireEntry buf)).take (knownCount ws)) =
        (ws.map (wireEntry buf)).filter Prod.fst ↔
      KnownFirst ws ∨ KnownRepeated buf ws := by
  have hfilter : ∀ hs : List AttributeHeader, (hs.map (wireEntry buf)).filter Prod.fst =
      (hs.filter (·.known)).map (wireEntry buf) := by
    intro hs
    rw [List.filter_map]
    rfl
  have hlength : ((ws.map (wireEntry buf)).filter Prod.fst).length = knownCount ws := by
    rw [hfilter, List.length_map, knownCount]
  have hiff := overwritten_take_eq_filter_iff Prod.fst (ws.map (wireEntry buf))
  rw [hlength] at hiff
  rw [hiff, ← List.map_take, List.getLast?_map, List.dropWhile_map, hfilter]
  refine or_congr ?_ (and_congr ?_ ?_)
  · rw [List.forall_mem_map]
    rfl
  · constructor
    · rintro ⟨a, hlast, ha⟩
      obtain ⟨h, hh, rfl⟩ := Option.map_eq_some_iff.mp hlast
      exact ⟨h, hh, ha⟩
    · rintro ⟨h, hlast, hk⟩
      exact ⟨wireEntry buf h, by rw [hlast]; rfl, hk⟩
  · rw [List.forall_mem_map]
    refine forall₂_congr fun h hh => ?_
    rw [List.forall_mem_map]
    refine forall₂_congr fun h' hh' => ?_
    have hk : h.known = true := (List.mem_filter.mp hh).2
    have hk' : h'.known = true := (List.mem_filter.mp hh').2
    rw [wireEntry, wireEntry, hk, hk', Prod.mk.injEq]
    exact and_iff_right rfl

/-- **The list of an accepted buffer** consists of the attributes of known type on the wire, in
order, exactly if nothing is misread and the attributes of known type stand before those of unknown
type, or those behind the first one of unknown type are all the same and the last one copied is one
of them. -/
theorem asOnWire_iff {packet : StunPacket}
    (hok : deserializeStunPacket hmac crc32 buf password = .ok packet) :
    AsOnWire buf packet.attributeList ↔
      NothingMisread buf ∧
        (KnownFirst (wireHeaders buf) ∨ KnownRepeated buf (wireHeaders buf)) := by
  obtain ⟨-, -, -, found, as, hcount, hall, rfl⟩ := deserializeStunPacket_ok.mp hok
  clear hok
  rw [attributeHeaders_eq] at hall hcount
  set ws := wireHeaders buf with hws
  have hle : knownCount ws ≤ ws.length := List.length_filter_le _ _
  -- an attribute that is too long and of known type is data
  have hdata : ∀ h ∈ ws, h.known → ¬ h.length ≤ maxPaddableLen → kindOf h.type = some .data := by
    intro h hmem hknown hlong
    obtain ⟨k, hk⟩ := Option.isSome_iff_exists.mp hknown
    obtain ⟨f, hcheck⟩ := countAttributes_check hcount (List.mem_append_left _ hmem) hk
    by_contra hne
    have hlen := Found.check_length hcheck (fun heq => hne (heq ▸ hk))
    exact hlong (hlen.trans (by decide))
  have hlt : ∀ h ∈ ws, h.length < 2 ^ 16 := by
    intro h hmem
    rw [(pos_of_mem_headers roundUp buf _ h hmem).2.2]
    exact length_headerAt_lt buf h.pos
  -- without misread attributes the second loop copies attributes on the wire
  have hcopied : NothingMisread buf →
      List.Forall₂ (fun h a => wireAttribute buf h = some a) (ws.take (knownCount ws)) as := by
    intro hmis
    rw [knownCount_append, knownCount_eq_zero.mpr hmis.2, Nat.add_zero,
      List.take_append_of_le_length hle] at hall
    have hmem : ∀ h ∈ ws.take (knownCount ws), h ∈ ws := fun h hh => List.mem_of_mem_take hh
    generalize ws.take (knownCount ws) = taken at hall hmem
    induction hall with
    | nil => exact .nil
    | cons hcopy _ ih =>
      exact .cons (copyAttribute_wire hcopy (hmis.1 _ (hmem _ List.mem_cons_self)))
        (ih fun h hh => hmem h (List.mem_cons_of_mem _ hh))
  constructor
  · intro hwire
    have hmis : NothingMisread buf := by
      have hzero : knownCount (misreadHeaders buf) = 0 := by
        have hlength : ((ws.filter (·.known)).map (wireAttribute buf)).length = _ :=
          congrArg List.length hwire
        rw [List.length_map, List.length_map, length_overwritten, ← hall.length_eq,
          List.length_take, knownCount_append] at hlength
        have hle' : knownCount (misreadHeaders buf) ≤ (misreadHeaders buf).length :=
          List.length_filter_le _ _
        rw [List.length_append] at hlength
        have heq : ((ws.filter (·.known)).length) = knownCount ws := rfl
        omega
      refine ⟨fun h hmem hknown => ?_, knownCount_eq_zero.mp hzero⟩
      by_contra hlong
      have hin : wireAttribute buf h ∈ (overwritten StunAttribute.known as).map some := by
        rw [← hwire]
        exact List.mem_map_of_mem (List.mem_filter.mpr ⟨hmem, hknown⟩)
      obtain ⟨a, ha, heq⟩ := List.mem_map.mp hin
      obtain ⟨h', -, hcopy⟩ := exists_of_mem_right hall (mem_of_mem_overwritten _ ha)
      exact copyAttribute_ne_wire hcopy (hdata h hmem hknown hlong) (Nat.lt_of_not_le hlong)
        (hlt h hmem) heq.symm
    refine ⟨hmis, (wireEntries_iff ws).mp ?_⟩
    exact (asOnWire_iff_overwritten (hcopied hmis)).mp hwire
  · rintro ⟨hmis, hcond⟩
    exact (asOnWire_iff_overwritten (hcopied hmis)).mpr ((wireEntries_iff ws).mpr hcond)

end

/-- A binding request with the given attributes and a transaction id of zeros. -/
def bindingRequest (attributes : List UInt8) : List UInt8 :=
  [0, 1] ++ beBytes 2 attributes.length ++ beBytes 4 stunHeaderMagicCookie ++ List.replicate 12 0 ++
    attributes

/-- The decoder with a digest and a checksum of zeros, and without a password. -/
def deserializeWithZeros (buf : List UInt8) : Except Failure StunPacket :=
  deserializeStunPacket (fun _ _ => ⟨List.replicate 20 0, rfl⟩) (fun _ => 0) buf none

/-- `USE-CANDIDATE` followed by an attribute of unknown type. -/
theorem asOnWire_iff_unknown_last :
    AsOnWire (bindingRequest [0, 0x25, 0, 0, 0x77, 0x77, 0, 0])
        [⟨typeUseCandidate, 0, .headerOnly⟩] ↔
      NothingMisread (bindingRequest [0, 0x25, 0, 0, 0x77, 0x77, 0, 0]) ∧
        (KnownFirst (wireHeaders (bindingRequest [0, 0x25, 0, 0, 0x77, 0x77, 0, 0])) ∨
          KnownRepeated (bindingRequest [0, 0x25, 0, 0, 0x77, 0x77, 0, 0])
            (wireHeaders (bindingRequest [0, 0x25, 0, 0, 0x77, 0x77, 0, 0]))) := by
  have hok : deserializeWithZeros (bindingRequest [0, 0x25, 0, 0, 0x77, 0x77, 0, 0]) =
      .ok ⟨⟨1, 8, stunHeaderMagicCookie, List.replicate 12 0⟩,
        [⟨typeUseCandidate, 0, .headerOnly⟩]⟩ := by decide +kernel
  exact asOnWire_iff hok

/-- **An attribute of unknown type** before `USE-CANDIDATE` takes its place in the list. -/
theorem unknown_attribute_listed :
    deserializeWithZeros (bindingRequest [0x77, 0x77, 0, 0, 0, 0x25, 0, 0]) =
      .ok ⟨⟨1, 8, stunHeaderMagicCookie, List.replicate 12 0⟩, [⟨0x7777, 0, .headerOnly⟩]⟩ ∧
    ¬ AsOnWire (bindingRequest [0x77, 0x77, 0, 0, 0, 0x25, 0, 0]) [⟨0x7777, 0, .headerOnly⟩] := by
  constructor
  · decide +kernel
  · unfold AsOnWire
    decide +kernel

end KvsWebrtc.Stun
