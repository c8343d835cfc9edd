import KvsWebrtc.Stun.Accesses
import KvsWebrtc.Stun.Equiv.Deserialize

/-!
# The decoder stays inside

Only the last attribute can leave the message, since every other one is followed by a header that
lies in it (`countAccesses_inside`).  If all of them lie in the message, the second loop can still
leave the storage of an attribute: that of an unknown type has none, and an error code of length
zero has no phrase to copy (`copyAccesses_inside`).  `decoder_safe_iff` puts the two loops together.
-/

namespace KvsWebrtc.Stun

variable {buf : List UInt8} {password : Option (List UInt8)} {h : AttributeHeader}
  {hs : List AttributeHeader} {found found' : Found}

/-! ### The loops end -/

theorem le_iterate_nextAttribute (buf : List UInt8) (stop pos : Nat) :
    stop ≤ (nextAttribute buf)^[(headers roundUp16 buf stop pos).length] pos := by
  induction hn : stop - pos using Nat.strong_induction_on generalizing pos with
  | _ n ih =>
    rcases Nat.lt_or_ge pos stop with hlt | hge
    · rw [headers_of_lt roundUp16 buf stop hlt, List.length_cons, Function.iterate_succ_apply]
      exact ih _ (by omega) _ rfl
    · simpa [headers_of_le roundUp16 buf stop hge] using hge

/-! ### Lengths that are checked -/

def AttributeKind.fixedLength : AttributeKind → Option Nat
  | .priority | .lifetime | .changeRequest | .requestedTransport | .channelNumber | .fingerprint =>
    some 4
  | .flag => some 0
  | .iceControl => some 8
  | .messageIntegrity => some stunHmacValueLen
  | _ => none

theorem Found.checkLength_ok {ok : Bool} {status : Status}
    (h : found.checkLength ok status = .ok ()) :
    ok = true := by
  rw [Found.checkLength] at h
  split_ifs at h with hok
  exact hok

theorem Found.check_fixedLength {k : AttributeKind} (hcheck : found.check buf h k = .ok ())
    {n : Nat} (hn : k.fixedLength = some n) : h.length = n := by
  cases k with
  | messageIntegrity =>
    simp only [Found.check] at hcheck
    split_ifs at hcheck with hlen
    exact (not_not.mp hlen).trans (Option.some.inj hn)
  | fingerprint =>
    simp only [Found.check] at hcheck
    split_ifs at hcheck with hlen
    exact (not_not.mp hlen).trans (Option.some.inj hn)
  | address => cases hn
  | username => cases hn
  | realm => cases hn
  | nonce => cases hn
  | errorCode => cases hn
  | data => cases hn
  | _ => exact (beq_iff_eq.mp (Found.checkLength_ok hcheck)).trans (Option.some.inj hn)

theorem Found.check_address (hcheck : found.check buf h .address = .ok ()) :
    h.length = 8 ∨ h.length = 20 := by
  simp only [Found.check] at hcheck
  cases hfield : fieldAt buf (h.pos + 4) 2 with
  | error e => simp [hfield] at hcheck
  | ok family =>
    simp only [hfield] at hcheck
    have hlen := beq_iff_eq.mp (Found.checkLength_ok hcheck)
    rw [ipAddressLength] at hlen
    split_ifs at hlen <;> omega

/-! ### The first loop -/

theorem checkAccesses_inside :
    (∀ a ∈ checkAccesses h, a.Inside buf) ↔
      h.pos + (if kindOf h.type = some .address then 6 else 4) ≤ buf.length := by
  have hlen : stunAttributeHeaderLen = 4 := rfl
  by_cases haddress : kindOf h.type = some .address
  · simp only [checkAccesses, haddress, if_true, List.forall_mem_cons, Access.Inside, hlen]
    constructor
    · rintro ⟨-, hfamily, -⟩
      omega
    · intro hle
      exact ⟨by omega, by omega, by simp⟩
  · simp [checkAccesses, haddress, Access.Inside, hlen]

/-- An attribute that ends in the message has a 16-bit padded length. -/
theorem length_le_of_ends (hpos : stunHeaderLen ≤ h.pos)
    (hends : h.pos + stunAttributeHeaderLen + roundUp h.length ≤ attributesEnd buf) :
    h.length ≤ maxPaddableLen := by
  have hmax := attributesEnd_le buf
  have h20 : stunHeaderLen = 20 := rfl
  have h4 : stunAttributeHeaderLen = 4 := rfl
  simp only [roundUp] at hends
  show h.length ≤ 65532
  omega

/-- An attribute that passes and is followed by another one, which starts in the message. -/
theorem inside_of_followed (hstep : found.step buf h = .ok found')
    (hbuf : attributesEnd buf ≤ buf.length) (hpos : stunHeaderLen ≤ h.pos)
    (hnext : h.pos + stunAttributeHeaderLen + roundUp16 h.length < attributesEnd buf) :
    (∀ a ∈ checkAccesses h, a.Inside buf) ∧
      ((Access.passed h).Inside buf ↔ h.length ≤ maxPaddableLen) := by
  have h4 : stunAttributeHeaderLen = 4 := rfl
  refine ⟨checkAccesses_inside.mpr ?_, length_le_of_ends hpos, fun hle => ?_⟩
  · by_cases haddress : kindOf h.type = some .address
    · rw [if_pos haddress]
      obtain ⟨-, ⟨hnone, -⟩ | ⟨k, hk, hcheck, -⟩⟩ := Found.step_ok hstep
      · simp [haddress] at hnone
      · obtain rfl := Option.some.inj (haddress.symm.trans hk)
        -- the value of an address has room for its family
        have hvalue : 8 ≤ roundUp16 h.length := by
          rcases Found.check_address hcheck with hlen | hlen <;> rw [hlen] <;> decide
        omega
    · rw [if_neg haddress]
      omega
  · show h.pos + stunAttributeHeaderLen + roundUp h.length ≤ attributesEnd buf
    rw [← roundUp16_of_le hle]
    exact hnext.le

/-- The condition on the headers that the first loop goes over. -/
structure Counted (buf : List UInt8) (hs : List AttributeHeader) (found : Found) : Prop where
  last : ∀ h ∈ (countedHeaders buf hs found).getLast?,
    h.pos + (if kindOf h.type = some .address then 6 else 4) ≤ buf.length
  paddable : ∀ h ∈ passedHeaders buf hs found, h.length ≤ maxPaddableLen
  ends : ∀ found', countAttributes buf hs found = .ok found' →
    ∀ h ∈ hs.getLast?, h.pos + stunAttributeHeaderLen + roundUp h.length ≤ attributesEnd buf

theorem countedHeaders_ne_nil (buf : List UInt8) (h : AttributeHeader) (hs : List AttributeHeader)
    (found : Found) : countedHeaders buf (h :: hs) found ≠ [] := by
  simp [countedHeaders]

/-- An attribute that is followed by others only adds that its length is paddable. -/
theorem counted_cons_cons {h' : AttributeHeader} (hstep : found.step buf h = .ok found') :
    Counted buf (h :: h' :: hs) found ↔ h.length ≤ maxPaddableLen ∧ Counted buf
    (h' :: hs) found' := by
  have hlast : (countedHeaders buf (h :: h' :: hs) found).getLast? =
      (countedHeaders buf (h' :: hs) found').getLast? := by
    rw [countedHeaders]
    simp only [hstep]
    obtain ⟨c, cs, hc⟩ := List.exists_cons_of_ne_nil (countedHeaders_ne_nil buf h' hs found')
    rw [hc, List.getLast?_cons_cons]
  have hpassed : passedHeaders buf (h :: h' :: hs) found = h :: passedHeaders buf
      (h' :: hs) found' := by
    rw [passedHeaders]
    simp only [hstep]
  have hcount : countAttributes buf (h :: h' :: hs) found = countAttributes buf
      (h' :: hs) found' := by
    rw [countAttributes]
    simp only [hstep]
  constructor
  · rintro ⟨h₁, h₂, h₃⟩
    rw [hlast] at h₁
    rw [hpassed, List.forall_mem_cons] at h₂
    rw [hcount, List.getLast?_cons_cons] at h₃
    exact ⟨h₂.1, h₁, h₂.2, h₃⟩
  · rintro ⟨hle, h₁, h₂, h₃⟩
    refine ⟨hlast ▸ h₁, ?_, ?_⟩
    · rw [hpassed, List.forall_mem_cons]
      exact ⟨hle, h₂⟩
    · rw [hcount, List.getLast?_cons_cons]
      exact h₃

/-- **The first loop** stays inside. -/
theorem countAccesses_inside (hbuf : attributesEnd buf ≤ buf.length) {pos : Nat}
    (hpos : stunHeaderLen ≤ pos) (found : Found) :
    (∀ a ∈ countAccesses buf (headers roundUp16 buf (attributesEnd buf) pos) found, a.Inside buf) ↔
      Counted buf (headers roundUp16 buf (attributesEnd buf) pos) found := by
  induction hn : attributesEnd buf - pos using Nat.strong_induction_on generalizing pos found with
  | _ n ih =>
    rcases Nat.lt_or_ge pos (attributesEnd buf) with hlt | hge
    · rw [headers_of_lt roundUp16 buf _ hlt]
      set h := headerAt buf pos with hh
      set next := pos + 4 + roundUp16 h.length with hnext
      have hpos' : stunHeaderLen ≤ h.pos := hpos
      rw [countAccesses, List.forall_mem_append]
      cases hstep : found.step buf h with
      | error e =>
        -- the last header that is read
        rw [checkAccesses_inside]
        constructor
        · rintro ⟨hle, -⟩
          exact ⟨by simpa [countedHeaders, hstep] using hle, by simp [passedHeaders, hstep],
            by simp [countAttributes, hstep]⟩
        · intro hcounted
          exact ⟨by simpa [countedHeaders, hstep] using hcounted.last, by simp⟩
      | ok found' =>
        simp only [List.forall_mem_cons]
        rcases Nat.lt_or_ge next (attributesEnd buf) with hlt' | hge'
        · -- another attribute follows
          have hrest := ih _ (by omega) (show stunHeaderLen ≤ next by omega) found' rfl
          obtain ⟨hcheck, hpassed⟩ := inside_of_followed hstep hbuf hpos' hlt'
          rw [headers_of_lt roundUp16 buf _ hlt'] at hrest ⊢
          rw [counted_cons_cons hstep, ← hrest, ← hpassed]
          exact ⟨fun h => h.2, fun h => ⟨hcheck, h⟩⟩
        · rw [headers_of_le roundUp16 buf _ hge', checkAccesses_inside]
          constructor
          · rintro ⟨hle, hends, -⟩
            have hends : h.pos + stunAttributeHeaderLen + roundUp h.length ≤ attributesEnd buf :=
              hends
            refine ⟨by simpa [countedHeaders, hstep] using hle, ?_, ?_⟩
            · simpa [passedHeaders, hstep] using length_le_of_ends hpos' hends
            · simpa [countAttributes, hstep] using hends
          · rintro ⟨hle, -, hends⟩
            refine ⟨by simpa [countedHeaders, hstep] using hle, ?_, by simp [countAccesses]⟩
            exact hends found' (by simp [countAttributes, hstep]) h (by simp)
    · rw [headers_of_le roundUp16 buf _ hge]
      constructor
      · intro _
        exact ⟨by simp [countedHeaders], by simp [passedHeaders], by simp⟩
      · intro _
        simp [countAccesses]

/-! ### The second loop -/

/-- An attribute that has been checked and lies in the message. -/
structure Placed (buf : List UInt8) (h : AttributeHeader) : Prop where
  pos : stunHeaderLen ≤ h.pos
  ends : h.pos + stunAttributeHeaderLen + roundUp h.length ≤ buf.length
  paddable : h.length ≤ maxPaddableLen
  checked : ∀ k, kindOf h.type = some k → ∃ found : Found, found.check buf h k = .ok ()

theorem Placed.fixedLength (hplaced : Placed buf h) {k : AttributeKind}
    (hk : kindOf h.type = some k) {n : Nat} (hn : k.fixedLength = some n) : h.length = n := by
  obtain ⟨found, hcheck⟩ := hplaced.checked k hk
  exact Found.check_fixedLength hcheck hn

theorem Placed.room (hplaced : Placed buf h) :
    h.pos + 4 + roundUp16 h.length ≤ buf.length ∧ h.length ≤ roundUp16 h.length := by
  rw [roundUp16_of_le hplaced.paddable]
  refine ⟨hplaced.ends, ?_⟩
  rw [roundUp]
  omega

theorem phraseLength_of_pos (hplaced : Placed buf h) (hlen : h.length ≠ 0) :
    phraseLength h = roundUp16 h.length - 4 ∧ 4 ≤ roundUp16 h.length := by
  have hpad : h.length ≤ 65532 := hplaced.paddable
  rw [phraseLength, roundUp16_of_le hplaced.paddable, roundUp]
  omega

variable (password) in
/-- **A round of the second loop** leaves the storage of an attribute of unknown type and of an
error code of length zero. -/
theorem valueAccesses_inside (hplaced : Placed buf h) :
    (∀ a ∈ Access.buffer h.pos stunAttributeHeaderLen :: .copy h 0 stunAttributeHeaderLen ::
      valueAccesses buf password h (kindOf h.type), a.Inside buf) ↔
      h.known ∧ (kindOf h.type = some .errorCode → h.length ≠ 0) := by
  obtain ⟨hroom, hle⟩ := hplaced.room
  have h20 : 20 ≤ h.pos := hplaced.pos
  have h4 : stunAttributeHeaderLen = 4 := rfl
  have hmod : h.pos % 2 ^ 16 ≤ h.pos := Nat.mod_le _ _
  cases hk : kindOf h.type with
  | none =>
    -- the header has no storage
    simp [AttributeHeader.known, hk, valueAccesses, Access.Inside, attributeSize, h4]
  | some k =>
    have hknown : h.known = true := by simp [AttributeHeader.known, hk]
    simp only [hknown, true_and, List.forall_mem_cons, Access.Inside, attributeSize, hk, h4]
    cases k with
    | address =>
      obtain ⟨found, hcheck⟩ := hplaced.checked _ hk
      have hlen := Found.check_address hcheck
      simp only [valueAccesses]
      split_ifs <;> simp [hk, sizeofAddress] <;> omega
    | errorCode =>
      by_cases hlen : h.length = 0
      · -- the phrase is minus four bytes long
        have hphrase : phraseLength h = 2 ^ 64 - 4 := by rw [phraseLength, hlen]; rfl
        have hzero : roundUp16 0 = 0 := rfl
        simp [valueAccesses, hk, hlen, hphrase, hzero, sizeofBytes]
      · obtain ⟨hphrase, hfour⟩ := phraseLength_of_pos hplaced hlen
        simp [valueAccesses, hk, hlen, hphrase, sizeofBytes]
        omega
    | messageIntegrity =>
      have hlen := hplaced.fixedLength hk rfl
      have hround : roundUp16 h.length = 20 := by rw [hlen]; rfl
      simp only [valueAccesses]
      split <;> simp [hk, stunHmacValueLen] <;> omega
    | username | realm | nonce | data =>
      simp [valueAccesses, hk, sizeofBytes]
      omega
    | flag =>
      simp [valueAccesses, sizeofFlag]
      omega
    | iceControl =>
      have hlen := hplaced.fixedLength hk rfl
      simp [valueAccesses, hk, sizeofIceControl]
      omega
    | _ =>
      have hlen := hplaced.fixedLength hk rfl
      simp [valueAccesses, hk, sizeofNumber]
      omega

section

variable (hmac : List UInt8 → List UInt8 → Digest) (crc32 : List UInt8 → UInt32)

theorem fieldAt_of_le {i n : Nat} (hle : i + n ≤ buf.length) :
    fieldAt buf i n = .ok (bytesAt buf i n) :=
  if_pos hle

variable (password) in
/-- A value that lies in the message is copied, and a checksum is verified. -/
theorem copyAttribute_ok_iff (hplaced : Placed buf h)
    (hgood : kindOf h.type = some .errorCode → h.length ≠ 0) (tx : List UInt8) :
    (∃ a, copyAttribute hmac crc32 buf password tx h = .ok a) ↔
      verifies hmac crc32 buf password h := by
  obtain ⟨hroom, hle⟩ := hplaced.room
  unfold copyAttribute verifies
  cases hk : kindOf h.type with
  | none => simp
  | some k =>
    cases k with
    | messageIntegrity =>
      have hlen := hplaced.fixedLength hk rfl
      have h20 : h.length = 20 := hlen
      have hfield : fieldAt buf (h.pos + 4) stunHmacValueLen = .ok (bytesAt buf (h.pos + 4) 20) :=
        fieldAt_of_le (by show h.pos + 4 + 20 ≤ _; omega)
      cases password with
      | none => simp
      | some key =>
        cases key with
        | nil => simp
        | cons b bs =>
          simp only [hfield]
          by_cases hdigest : (hmac (b :: bs) (coveredBytes16 buf h.pos stunHmacValueLen)).1 =
              bytesAt buf (h.pos + 4) 20
          · simp [hdigest]
          · simp [hdigest]
    | fingerprint =>
      have hlen := hplaced.fixedLength hk rfl
      have hfield : fieldAt buf (h.pos + 4) stunAttributeFingerprintLen =
          .ok (bytesAt buf (h.pos + 4) 4) :=
        fieldAt_of_le (by show h.pos + 4 + 4 ≤ _; omega)
      simp only [hfield]
      by_cases hcrc : (crc32 (coveredBytes16 buf h.pos stunAttributeFingerprintLen) ^^^
          stunFingerprintAttributeXorValue).toNat = beNat (bytesAt buf (h.pos + 4) 4)
      · simp only [hcrc, if_true, beq_self_eq_true, iff_true]
        exact ⟨_, rfl⟩
      · simp only [hcrc, if_false, beq_iff_eq, iff_false]
        rintro ⟨a, ha⟩
        cases ha
    | flag => simp [valueAt, Except.map]
    | address => simp [valueAt, Except.map, fieldAt_of_le (show h.pos + 4 + h.length ≤ buf.length by
      omega)]
    | username | realm | nonce | data => simp [valueAt, Except.map, fieldAt_of_le hroom]
    | errorCode =>
      -- an error code is not empty, so it has its four bytes
      have hfour := (phraseLength_of_pos hplaced (hgood hk)).2
      simp [valueAt, Except.map, fieldAt_of_le hroom, Nat.not_lt.mpr hfour]
    | channelNumber =>
      have hlen := hplaced.fixedLength hk rfl
      simp [valueAt, Except.map, fieldAt_of_le (show h.pos + 4 + 2 ≤ buf.length by omega)]
    | iceControl =>
      have hlen := hplaced.fixedLength hk rfl
      simp [valueAt, Except.map, fieldAt_of_le (show h.pos + 4 + 8 ≤ buf.length by omega)]
    | _ =>
      have hlen := hplaced.fixedLength hk rfl
      simp [valueAt, Except.map, fieldAt_of_le (show h.pos + 4 + 4 ≤ buf.length by omega)]

variable (password) in
/-- **The second loop** stays inside if it goes over attributes of known type only, and no error
code among them is empty. -/
theorem copyAccesses_inside (hplaced : ∀ h ∈ hs, Placed buf h) :
    (∀ a ∈ copyAccesses hmac crc32 buf password hs, a.Inside buf) ↔
      ∀ h ∈ copiedHeaders hmac crc32 buf password hs,
        h.known ∧ (kindOf h.type = some .errorCode → h.length ≠ 0) := by
  induction hs with
  | nil => simp [copyAccesses, copiedHeaders]
  | cons h hs ih =>
    have hround := valueAccesses_inside password (hplaced h List.mem_cons_self)
    have hrest := ih fun h' hmem => hplaced h' (List.mem_cons_of_mem h hmem)
    rw [copyAccesses, copiedHeaders, ← List.cons_append, ← List.cons_append, List.forall_mem_append,
      hround, List.forall_mem_cons]
    refine and_congr_right fun hgood => ?_
    have hok := copyAttribute_ok_iff password hmac crc32 (hplaced h List.mem_cons_self)
      hgood.2 (transactionIdOf buf)
    cases hcopy : copyAttribute hmac crc32 buf password (transactionIdOf buf) h with
    | error e =>
      have hnot : ¬ verifies hmac crc32 buf password h = true := by
        rw [← hok, hcopy]
        simp
      simp [hnot]
    | ok a =>
      have hverifies : verifies hmac crc32 buf password h = true := hok.mp ⟨a, hcopy⟩
      simpa [hverifies] using hrest

/-! ### The whole decoder -/

theorem passed_mem_countAccesses (hcount : countAttributes buf hs found = .ok found') :
    ∀ h ∈ hs, .passed h ∈ countAccesses buf hs found := by
  induction hs generalizing found with
  | nil => simp
  | cons h hs ih =>
    obtain ⟨next, hstep, hrest⟩ := countAttributes_cons hcount
    intro h' hmem
    simp only [countAccesses, hstep, List.mem_append, List.mem_cons]
    rcases List.mem_cons.mp hmem with rfl | hmem
    · exact .inr (.inl rfl)
    · exact .inr (.inr (ih hrest h' hmem))

/-- What the first loop has let pass lies in the message, and is checked. -/
theorem placed_of_counted (hbuf : attributesEnd buf ≤ buf.length)
    (hcounted : Counted buf (attributeHeaders buf) ⟨false, false, 0⟩)
    (hcount : countAttributes buf (attributeHeaders buf) ⟨false, false, 0⟩ = .ok found) :
    ∀ h ∈ attributeHeaders buf, Placed buf h := by
  intro h hmem
  have hpos : stunHeaderLen ≤ h.pos := (pos_of_mem_headers roundUp16 buf _ h hmem).1
  have hends : h.pos + stunAttributeHeaderLen + roundUp h.length ≤ attributesEnd buf :=
    (countAccesses_inside hbuf le_rfl _).mpr hcounted _ (passed_mem_countAccesses hcount h hmem)
  exact ⟨hpos, hends.trans hbuf, length_le_of_ends hpos hends, fun k hk =>
    countAttributes_check hcount hmem hk⟩

theorem safe_iff_inside (buf : List UInt8) (password : Option (List UInt8)) :
    Safe hmac crc32 buf password ↔ ∀ a ∈ accesses hmac crc32 buf password, a.Inside buf :=
  ⟨fun h => h.inside, fun h => ⟨h, le_iterate_nextAttribute buf _ _⟩⟩

/-- A message whose header is accepted is read inside exactly if its attributes lie in it. -/
theorem safe_iff_inMessage (hlong : ¬ buf.length < stunHeaderLen) (haccepted : ¬ HeaderRejected buf)
    (password : Option (List UInt8)) :
    Safe hmac crc32 buf password ↔ InMessage hmac crc32 buf password := by
  have hbuf : attributesEnd buf ≤ buf.length := Nat.le_of_not_lt fun h => haccepted (.inl h)
  have hlen : 20 ≤ buf.length := Nat.le_of_not_lt hlong
  have hfirst := countAccesses_inside hbuf le_rfl ⟨false, false, 0⟩
  rw [← attributeHeaders] at hfirst
  have hheader : (Access.buffer 2 2).Inside buf ∧ (Access.buffer 4 4).Inside buf :=
    ⟨show 2 + 2 ≤ _ by omega, show 4 + 4 ≤ _ by omega⟩
  rw [safe_iff_inside, accesses]
  simp only [hlong, haccepted, if_false, List.cons_append, List.nil_append,
    List.forall_mem_cons, List.forall_mem_append, hheader, true_and, hfirst]
  cases hcount : countAttributes buf (attributeHeaders buf) ⟨false, false, 0⟩ with
  | error e =>
    -- the second loop is not reached
    constructor
    · rintro ⟨⟨hlast, hpaddable, -⟩, -⟩
      exact ⟨hlast, hpaddable, by simp [hcount]⟩
    · rintro ⟨hlast, hpaddable, -⟩
      exact ⟨⟨hlast, hpaddable, by simp [hcount]⟩, by simp⟩
  | ok found =>
    have hcopied : (Access.buffer 0 2).Inside buf ∧ (Access.buffer 8 12).Inside buf :=
      ⟨show 0 + 2 ≤ _ by omega, show 8 + 12 ≤ _ by omega⟩
    have hsecond : Counted buf (attributeHeaders buf) ⟨false, false, 0⟩ → _ := fun hcounted =>
      copyAccesses_inside password hmac crc32 fun h hmem =>
        placed_of_counted hbuf hcounted hcount h
          (List.mem_of_mem_take (i := found.attributeCount) hmem)
    simp only [List.forall_mem_cons, hcopied, true_and]
    constructor
    · rintro ⟨hcounted, hcopy⟩
      refine ⟨hcounted.last, hcounted.paddable, fun found' hcount' =>
        ⟨hcounted.ends found' hcount', ?_⟩⟩
      obtain rfl := Except.ok.inj (hcount.symm.trans hcount')
      exact (hsecond hcounted).mp hcopy
    · rintro ⟨hlast, hpaddable, hfilled⟩
      have hcounted : Counted buf (attributeHeaders buf) ⟨false, false, 0⟩ :=
        ⟨hlast, hpaddable, fun found' hcount' => (hfilled found' hcount').1⟩
      exact ⟨hcounted, (hsecond hcounted).mpr (hfilled found hcount).2⟩

/-- **The decoder stays inside** if and only if it rejects the header of the message or the
attributes lie in the message. -/
theorem decoder_safe_iff (buf : List UInt8) (password : Option (List UInt8)) :
    Safe hmac crc32 buf password ↔
      buf.length < stunHeaderLen ∨ HeaderRejected buf ∨ InMessage hmac crc32 buf password := by
  by_cases hshort : buf.length < stunHeaderLen
  · rw [safe_iff_inside, accesses]
    simp [hshort]
  have hlong : 20 ≤ buf.length := Nat.le_of_not_lt hshort
  by_cases hrejected : HeaderRejected buf
  · rw [safe_iff_inside, accesses]
    simp only [hshort, hrejected, if_true, if_false, List.append_nil, List.forall_mem_cons,
      Access.Inside, true_or, or_true, iff_true]
    exact ⟨by omega, by omega, by simp⟩
  · simp [hshort, hrejected, safe_iff_inMessage hmac crc32 hshort hrejected]

/-! ### What the model of the decoder reads -/

theorem Found.checkLength_ne_outOfBounds (found : Found) (ok : Bool) (status : Status) :
    found.checkLength ok status ≠ .error .outOfBounds := by
  rw [Found.checkLength, Found.checkNotAfter]
  split_ifs <;> simp

theorem Found.check_outOfBounds {k : AttributeKind}
    (hcheck : found.check buf h k = .error .outOfBounds) :
    k = .address ∧ ¬ h.pos + 4 + 2 ≤ buf.length := by
  cases k with
  | address =>
    refine ⟨rfl, fun hle => ?_⟩
    simp only [Found.check, fieldAt_of_le hle] at hcheck
    exact Found.checkLength_ne_outOfBounds _ _ _ hcheck
  | data =>
    simp only [Found.check, Found.checkNotAfter] at hcheck
    split_ifs at hcheck
    cases hcheck
  | messageIntegrity =>
    simp only [Found.check] at hcheck
    split_ifs at hcheck <;> cases hcheck
  | fingerprint =>
    simp only [Found.check] at hcheck
    split_ifs at hcheck <;> cases hcheck
  | _ => exact absurd hcheck (Found.checkLength_ne_outOfBounds _ _ _)

theorem countAttributes_ne_outOfBounds (hinside : ∀ a ∈ countAccesses buf hs found, a.Inside buf) :
    countAttributes buf hs found ≠ .error .outOfBounds := by
  induction hs generalizing found with
  | nil => simp [countAttributes]
  | cons h hs ih =>
    rw [countAccesses, List.forall_mem_append] at hinside
    have hread := checkAccesses_inside.mp hinside.1
    have hheader : h.pos + stunAttributeHeaderLen ≤ buf.length := by
      have h4 : stunAttributeHeaderLen = 4 := rfl
      split_ifs at hread <;> omega
    rw [countAttributes]
    cases hstep : found.step buf h with
    | ok next =>
      simp only [hstep, List.forall_mem_cons] at hinside
      exact ih hinside.2.2
    | error e =>
      rintro ⟨⟩
      rw [Found.step, if_pos hheader] at hstep
      cases hk : kindOf h.type with
      | none => simp [hk] at hstep
      | some k =>
        simp only [hk] at hstep
        cases hcheck : found.check buf h k with
        | ok u =>
          simp only [hcheck] at hstep
          split_ifs at hstep
          cases hstep
        | error e =>
          simp only [hcheck, Except.error.injEq] at hstep
          obtain ⟨rfl, hfamily⟩ := Found.check_outOfBounds (hstep ▸ hcheck)
          rw [if_pos hk] at hread
          omega

theorem copyAttribute_ne_outOfBounds (hplaced : Placed buf h)
    (hgood : kindOf h.type = some .errorCode → h.length ≠ 0) (tx : List UInt8) :
    copyAttribute hmac crc32 buf password tx h ≠ .error .outOfBounds := by
  intro hcopy
  have hnot : ¬ verifies hmac crc32 buf password h = true := by
    rw [← copyAttribute_ok_iff password hmac crc32 hplaced hgood tx, hcopy]
    simp
  obtain ⟨hroom, -⟩ := hplaced.room
  -- only a message integrity and a fingerprint fail, and not by what they read
  unfold verifies at hnot
  unfold copyAttribute at hcopy
  split at hnot
  · next hk =>
    have hround : roundUp16 h.length = 20 := by rw [hplaced.fixedLength hk rfl]; rfl
    simp only [hk, fieldAt_of_le (show h.pos + 4 + stunHmacValueLen ≤ buf.length from
      (by rw [hround] at hroom; exact hroom))] at hcopy
    split at hcopy
    · cases hcopy
    · cases hcopy
    · split_ifs at hcopy
      cases hcopy
  · next hk =>
    have hround : roundUp16 h.length = 4 := by rw [hplaced.fixedLength hk rfl]; rfl
    simp only [hk, fieldAt_of_le (show h.pos + 4 + stunAttributeFingerprintLen ≤ buf.length from
      (by rw [hround] at hroom; exact hroom))] at hcopy
    split_ifs at hcopy
    cases hcopy
  · exact hnot rfl

theorem copyAttributes_ne_outOfBounds (hplaced : ∀ h ∈ hs, Placed buf h)
    (hgood : ∀ h ∈ copiedHeaders hmac crc32 buf password hs,
      h.known ∧ (kindOf h.type = some .errorCode → h.length ≠ 0)) (tx : List UInt8) (c : Copied) :
    copyAttributes hmac crc32 buf password tx hs c ≠ .error .outOfBounds := by
  induction hs generalizing c with
  | nil => simp [copyAttributes]
  | cons h hs ih =>
    rw [copiedHeaders, List.forall_mem_cons] at hgood
    have hplaced' := hplaced h List.mem_cons_self
    rw [copyAttributes]
    cases hcopy : copyAttribute hmac crc32 buf password tx h with
    | error e =>
      rintro ⟨⟩
      exact copyAttribute_ne_outOfBounds hmac crc32 hplaced' hgood.1.2 tx hcopy
    | ok a =>
      have hverifies := (copyAttribute_ok_iff password hmac crc32 hplaced' hgood.1.2 tx).mp
        ⟨a, hcopy⟩
      rw [if_pos hverifies] at hgood
      exact ih (fun h' hmem => hplaced h' (List.mem_cons_of_mem h hmem)) hgood.2 _

/-- A decoder that stays inside reads all that it needs. -/
theorem Safe.ne_outOfBounds (hsafe : Safe hmac crc32 buf password) :
    deserializeStunPacket hmac crc32 buf password ≠ .error .outOfBounds := by
  rw [deserializeStunPacket]
  split_ifs with hshort hlong hcookie
  · simp
  · simp
  · simp
  have hnot : ¬ HeaderRejected buf := fun h => h.elim hlong hcookie
  have hbuf : attributesEnd buf ≤ buf.length := Nat.le_of_not_lt hlong
  obtain ⟨hlast, hpaddable, hfilled⟩ :=
    (safe_iff_inMessage hmac crc32 hshort hnot password).mp hsafe
  have hcounted : Counted buf (attributeHeaders buf) ⟨false, false, 0⟩ :=
    ⟨hlast, hpaddable, fun found hcount => (hfilled found hcount).1⟩
  cases hcount : countAttributes buf (attributeHeaders buf) ⟨false, false, 0⟩ with
  | error e =>
    rintro ⟨⟩
    exact countAttributes_ne_outOfBounds ((countAccesses_inside hbuf le_rfl _).mpr hcounted) hcount
  | ok found =>
    simp only
    cases hcopy : copyAttributes hmac crc32 buf password (transactionIdOf buf)
        ((attributeHeaders buf).take found.attributeCount) ⟨[], 0, []⟩ with
    | error e =>
      rintro ⟨⟩
      refine copyAttributes_ne_outOfBounds hmac crc32 (fun h hmem => ?_)
        (hfilled found hcount).2 _ _ hcopy
      exact placed_of_counted hbuf hcounted hcount h (List.mem_of_mem_take hmem)
    | ok copied => simp

end

/-- A stray byte behind the header, a user name that leaves the message, and an error code of length
zero. -/
theorem unsafe_messages :
    ¬ Safe (fun _ _ => ⟨List.replicate 20 0, rfl⟩) (fun _ => 0) (bindingRequest [0]) none ∧
      ¬ Safe (fun _ _ => ⟨List.replicate 20 0, rfl⟩) (fun _ => 0)
      (bindingRequest [0, 6, 0, 8]) none ∧
      ¬ Safe (fun _ _ => ⟨List.replicate 20 0, rfl⟩) (fun _ => 0)
      (bindingRequest [0, 9, 0, 0]) none := by
  refine ⟨fun hsafe => ?_, fun hsafe => ?_, fun hsafe => ?_⟩
  · exact absurd (hsafe.inside (.buffer 20 4) (by decide +kernel)) (by decide +kernel)
  · exact absurd (hsafe.inside (.buffer 24 8) (by decide +kernel)) (by decide +kernel)
  · exact absurd (hsafe.inside (.copy ⟨20, typeErrorCode, 0⟩ 16 (2 ^ 64 - 4)) (by decide +kernel))
      (by decide +kernel)

end KvsWebrtc.Stun
