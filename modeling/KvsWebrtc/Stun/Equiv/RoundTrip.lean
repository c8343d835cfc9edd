import KvsWebrtc.Stun.Equiv.Serialize

/-!
# Encoding a STUN packet and decoding it again

The decoder steps over the attributes as they were written (`headers_placed`), counts them and gives
them back, the generated ones included.  What it does not take is a nonce that is too long
(`roundTrips_iff`).
-/

namespace KvsWebrtc.Stun

/-! ### The loops of the decoder -/

/-- The headers of attributes that stand one behind the other. -/
def placed : Nat → List StunAttribute → List AttributeHeader
  | _, [] => []
  | pos, a :: as => ⟨pos, a.type, a.length⟩ :: placed (pos + 4 + roundUp16 a.length) as

section

variable {tx : List UInt8}

theorem Framed.length_encode {a : StunAttribute} (h : Framed tx a) :
    (encodeAttribute tx a).length = 4 + roundUp16 a.length := by
  rw [length_encodeAttribute, h.length_value]

theorem placed_append {as : List StunAttribute} (has : ∀ a ∈ as, Framed tx a) (pos : Nat)
    (bs : List StunAttribute) :
    placed pos (as ++ bs) =
      placed pos as ++ placed (pos + (as.flatMap (encodeAttribute tx)).length) bs := by
  induction as generalizing pos with
  | nil => rfl
  | cons a as ih =>
    have hlen := (has a List.mem_cons_self).length_encode
    rw [List.cons_append, placed, ih (fun b hb => has b (List.mem_cons_of_mem a hb)), placed,
      List.flatMap_cons, List.length_append, hlen, List.cons_append, Nat.add_assoc pos 4,
      Nat.add_assoc pos (4 + _)]

/-- **The headers** that the decoder steps over. -/
theorem headers_placed {as : List StunAttribute} (has : ∀ a ∈ as, Framed tx a)
    (pre post : List UInt8) :
    headers roundUp16 (pre ++ (as.flatMap (encodeAttribute tx) ++ post))
        (pre.length + (as.flatMap (encodeAttribute tx)).length) pre.length =
      placed pre.length as := by
  induction as generalizing pre with
  | nil => exact headers_of_le roundUp16 _ _ le_rfl
  | cons a as ih =>
    have ha := has a List.mem_cons_self
    have hlen := ha.length_encode
    have hrest := ih (fun b hb => has b (List.mem_cons_of_mem a hb)) (pre ++ encodeAttribute tx a)
    rw [List.append_assoc, List.length_append, Nat.add_assoc] at hrest
    rw [List.flatMap_cons, List.append_assoc, List.length_append, headers_of_lt,
      headerAt_encodeAttribute ha, placed, Nat.add_assoc pre.length 4, ← hlen]
    · exact congrArg _ hrest
    · omega

/-- **The first loop** over decodable attributes counts them. -/
theorem countAttributes_placed {as : List StunAttribute}
    (has : ∀ a ∈ as, ∃ k, Decodable tx a k ∧ (k = .nonce → a.length ≤ stunMaxNonceLen))
    (pre post : List UInt8) {found : Found} (hclear : found.Clear)
    (hcount : found.attributeCount + as.length ≤ stunAttributeMaxCount)
    (hs : List AttributeHeader) :
    countAttributes (pre ++ (as.flatMap (encodeAttribute tx) ++ post))
    (placed pre.length as ++ hs) found =
      countAttributes (pre ++ (as.flatMap (encodeAttribute tx) ++ post)) hs
        ⟨false, false, found.attributeCount + as.length⟩ := by
  induction as generalizing pre found with
  | nil =>
    obtain ⟨fingerprintFound, messageIntegrityFound, attributeCount⟩ := found
    obtain ⟨rfl, rfl⟩ := hclear
    rfl
  | cons a as ih =>
    obtain ⟨k, ha, hnonce⟩ := has a List.mem_cons_self
    have hlen := ha.length_encode
    rw [List.length_cons] at hcount
    have hbuf : pre ++ ((a :: as).flatMap (encodeAttribute tx) ++ post) =
        pre ++ (encodeAttribute tx a ++ (as.flatMap (encodeAttribute tx) ++ post)) := by
      rw [List.flatMap_cons, List.append_assoc]
    have hstep :
        found.step (pre ++ (encodeAttribute tx a ++ (as.flatMap (encodeAttribute tx) ++ post)))
        ⟨pre.length, a.type, a.length⟩ = .ok (found.count k) := by
      have hin : pre.length + stunAttributeHeaderLen ≤
          (pre ++ (encodeAttribute tx a ++ (as.flatMap (encodeAttribute tx) ++ post))).length := by
        rw [List.length_append, List.length_append, hlen]
        show pre.length + 4 ≤ _
        omega
      simp only [Found.step, if_pos hin, ha.kind, ha.check pre _ found hclear hnonce]
      exact if_pos (by omega)
    -- a call appends no integrity and no fingerprint
    have hclear' : (found.count k).Clear := by
      have hk : (k == .fingerprint) = false ∧ (k == .messageIntegrity) = false := by
        constructor
        · exact beq_eq_false_iff_ne.mpr fun h => ha.not_verifying (.inr h)
        · exact beq_eq_false_iff_ne.mpr fun h => ha.not_verifying (.inl h)
      simp only [Found.Clear, Found.count, hclear.1, hclear.2, hk, Bool.or_self, and_self]
    have hrest := ih (fun b hb => has b (List.mem_cons_of_mem a hb))
      (pre ++ encodeAttribute tx a) hclear'
      (show found.attributeCount + 1 + as.length ≤ _ by omega)
    rw [List.append_assoc, List.length_append, hlen] at hrest
    rw [hbuf, placed, List.cons_append, countAttributes, hstep, Nat.add_assoc pre.length 4]
    refine hrest.trans ?_
    show countAttributes _ _ ⟨_, _, found.attributeCount + 1 + as.length⟩ = _
    rw [List.length_cons, Nat.add_right_comm, Nat.add_assoc]

section

variable (hmac : List UInt8 → List UInt8 → Digest) (crc32 : List UInt8 → UInt32)

/-- **The second loop** gives decodable attributes back. -/
theorem copyAttribute_placed {as : List StunAttribute} (has : ∀ a ∈ as, ∃ k, Decodable tx a k)
    (password : Option (List UInt8)) (pre post : List UInt8) :
    List.Forall₂ (fun h a => copyAttribute hmac crc32
        (pre ++ (as.flatMap (encodeAttribute tx) ++ post)) password tx h = .ok a)
      (placed pre.length as) as := by
  induction as generalizing pre with
  | nil => exact .nil
  | cons a as ih =>
    obtain ⟨k, ha⟩ := has a List.mem_cons_self
    have hbuf : pre ++ ((a :: as).flatMap (encodeAttribute tx) ++ post) =
        pre ++ (encodeAttribute tx a ++ (as.flatMap (encodeAttribute tx) ++ post)) := by
      rw [List.flatMap_cons, List.append_assoc]
    have hrest := ih (fun b hb => has b (List.mem_cons_of_mem a hb)) (pre ++ encodeAttribute tx a)
    rw [List.append_assoc, List.length_append, ha.length_encode, ← Nat.add_assoc] at hrest
    rw [hbuf]
    refine .cons ?_ hrest
    have hvalue := ha.value pre (as.flatMap (encodeAttribute tx) ++ post)
    rw [copyAttribute.eq_def, ha.kind]
    split
    · next h => cases h
    · next h => exact absurd (.inl (Option.some.inj h)) ha.not_verifying
    · next h => exact absurd (.inr (Option.some.inj h)) ha.not_verifying
    · next k' _ _ h =>
      rw [← Option.some.inj h, hvalue]
      rfl

/-! ### The generated attributes -/

theorem framed_integrityOf (tx key covered : List UInt8) : Framed tx
    (integrityOf hmac key covered) where
  type_lt := by show typeMessageIntegrity < 2 ^ 16; decide
  length_lt := by show stunHmacValueLen < 2 ^ 16; decide
  encodedLength := rfl
  length_value := by
    show (hmac key covered).1.length = roundUp16 stunHmacValueLen
    rw [(hmac key covered).2]
    rfl

theorem framed_fingerprintOf (tx covered : List UInt8) : Framed tx
    (fingerprintOf crc32 covered) where
  type_lt := by show typeFingerprint < 2 ^ 16; decide
  length_lt := by show stunAttributeFingerprintLen < 2 ^ 16; decide
  encodedLength := rfl
  length_value := by
    show (beBytes 4 _).length = roundUp16 stunAttributeFingerprintLen
    rw [length_beBytes]
    rfl

theorem fieldAt_integrityOf (tx key covered pre post : List UInt8) :
    fieldAt (pre ++ (encodeAttribute tx (integrityOf hmac key covered) ++ post)) (pre.length + 4)
      stunHmacValueLen = .ok (hmac key covered).1 := by
  have hlen : (hmac key covered).1.length = stunHmacValueLen := (hmac key covered).2
  refine (fieldAt_encodeAttribute tx _ pre post hlen.ge).trans (congrArg Except.ok ?_)
  exact List.take_of_length_le hlen.le

theorem fieldAt_fingerprintOf (tx covered pre post : List UInt8) :
    fieldAt (pre ++ (encodeAttribute tx (fingerprintOf crc32 covered) ++ post)) (pre.length + 4)
      stunAttributeFingerprintLen =
      .ok (beBytes 4 (crc32 covered ^^^ stunFingerprintAttributeXorValue).toNat) := by
  have hlen := length_beBytes 4 (crc32 covered ^^^ stunFingerprintAttributeXorValue).toNat
  refine (fieldAt_encodeAttribute tx _ pre post hlen.ge).trans (congrArg Except.ok ?_)
  exact List.take_of_length_le hlen.le

theorem copyAttribute_of_integrity {buf key : List UInt8} {h : AttributeHeader}
    (hk : kindOf h.type = some .messageIntegrity) (hkey : key ≠ [])
    (hfield : fieldAt buf (h.pos + 4) stunHmacValueLen =
      .ok (hmac key (coveredBytes16 buf h.pos stunHmacValueLen)).1) :
    copyAttribute hmac crc32 buf (some key) tx h =
      .ok ⟨h.type, h.length,
        .messageIntegrity (hmac key (coveredBytes16 buf h.pos stunHmacValueLen)).1⟩ := by
  cases key with
  | nil => exact absurd rfl hkey
  | cons c key =>
    simp only [copyAttribute, hk, hfield, if_true]

theorem copyAttribute_of_fingerprint {buf b : List UInt8} {password : Option (List UInt8)}
    {h : AttributeHeader} (hk : kindOf h.type = some .fingerprint)
    (hfield : fieldAt buf (h.pos + 4) stunAttributeFingerprintLen = .ok b)
    (hb : (crc32 (coveredBytes16 buf h.pos stunAttributeFingerprintLen) ^^^
      stunFingerprintAttributeXorValue).toNat = beNat b) :
    copyAttribute hmac crc32 buf password tx h =
      .ok ⟨h.type, h.length, .fingerprint (beNat b)⟩ := by
  simp only [copyAttribute, hk, hfield]
  exact if_pos hb

variable {type : Nat} {l body : List UInt8} (htx : tx.length = 12) (hl : l.length = 2)
  (hlt : stunHeaderLen + body.length < 2 ^ 16)

include htx hl hlt

/-- The message integrity that was generated is the one that is expected. -/
theorem copyAttribute_integrityList {password : Option (List UInt8)} {mi : Bool}
    (hmi : mi = true → password ≠ none) (hne : password ≠ some []) (post : List UInt8) :
    List.Forall₂ (fun h a => copyAttribute hmac crc32
        (frame type tx l (body ++ ((integrityList hmac (password.getD []) type tx body mi).flatMap
          (encodeAttribute tx) ++ post))) password tx h = .ok a)
      (placed (stunHeaderLen + body.length) (integrityList hmac (password.getD []) type tx body mi))
      (integrityList hmac (password.getD []) type tx body mi) := by
  cases mi with
  | false => exact .nil
  | true =>
    cases password with
    | none => exact absurd rfl (hmi rfl)
    | some key =>
      refine .cons ?_ .nil
      generalize hcovered : frame type tx (beBytes 2 (body.length + 24)) body = covered
      have hbytes : (integrityList hmac ((some key).getD []) type tx body true).flatMap
          (encodeAttribute tx) = encodeAttribute tx (integrityOf hmac key covered) := by
        rw [← hcovered]
        exact List.append_nil _
      have hcover := (coveredBytes16_frame htx hl hlt
        (encodeAttribute tx (integrityOf hmac key covered) ++ post) stunHmacValueLen).trans hcovered
      have hfield := fieldAt_integrityOf hmac tx key covered (frame type tx l body) post
      rw [frame_append, length_frame htx hl] at hfield
      rw [hbytes]
      refine (copyAttribute_of_integrity hmac crc32 rfl (fun h => hne (congrArg some h)) ?_).trans
        ?_
      · rw [hcover]
        exact hfield
      · rw [hcover]
        rfl

/-- The fingerprint that was generated is the one that is expected. -/
theorem copyAttribute_fingerprintList (password : Option (List UInt8)) (fp : Bool)
    (post : List UInt8) :
    List.Forall₂ (fun h a => copyAttribute hmac crc32
        (frame type tx l (body ++ ((fingerprintList crc32 type tx body fp).flatMap
          (encodeAttribute tx) ++ post))) password tx h = .ok a)
      (placed (stunHeaderLen + body.length) (fingerprintList crc32 type tx body fp))
      (fingerprintList crc32 type tx body fp) := by
  cases fp with
  | false => exact .nil
  | true =>
    refine .cons ?_ .nil
    generalize hcovered : frame type tx (beBytes 2 (body.length + 8)) body = covered
    have hbytes : (fingerprintList crc32 type tx body true).flatMap (encodeAttribute tx) =
        encodeAttribute tx (fingerprintOf crc32 covered) := by
      rw [← hcovered]
      exact List.append_nil _
    have hcover := (coveredBytes16_frame htx hl hlt
      (encodeAttribute tx (fingerprintOf crc32 covered) ++ post) stunAttributeFingerprintLen).trans
      hcovered
    have hfield := fieldAt_fingerprintOf crc32 tx covered (frame type tx l body) post
    rw [frame_append, length_frame htx hl] at hfield
    have hread : beNat (beBytes 4 (crc32 covered ^^^ stunFingerprintAttributeXorValue).toNat) =
        (crc32 covered ^^^ stunFingerprintAttributeXorValue).toNat :=
      beNat_beBytes_of_lt (UInt32.toNat_lt _)
    rw [hbytes]
    refine (copyAttribute_of_fingerprint hmac crc32 rfl hfield ?_).trans ?_
    · rw [hread, hcover]
    · rw [hread]
      rfl

omit htx hl hlt

/-- The first loop over a message integrity, if there is one. -/
theorem countAttributes_integrityList {buf key : List UInt8} {pos n : Nat} {mi : Bool}
    (hpos : pos + ((integrityList hmac key type tx body mi).flatMap (encodeAttribute tx)).length ≤
      buf.length)
    (hn : n + (if mi then 1 else 0) ≤ stunAttributeMaxCount) (hs : List AttributeHeader) :
    countAttributes buf (placed pos (integrityList hmac key type tx body mi) ++ hs)
      ⟨false, false, n⟩ =
      countAttributes buf hs ⟨false, mi, n + if mi then 1 else 0⟩ := by
  cases mi with
  | false => rfl
  | true =>
    have hin : pos + stunAttributeHeaderLen ≤ buf.length := by
      rw [length_integrityList] at hpos
      exact le_trans (Nat.add_le_add_left (by decide) pos) hpos
    have hstep : Found.step ⟨false, false, n⟩ buf ⟨pos, typeMessageIntegrity, stunHmacValueLen⟩ =
        .ok ⟨false, true, n + 1⟩ := by
      rw [Found.step, if_pos hin]
      exact if_pos hn
    show countAttributes buf (⟨pos, typeMessageIntegrity, stunHmacValueLen⟩ :: hs) _ = _
    rw [countAttributes, hstep]
    rfl

/-- The first loop over a fingerprint, if there is one. -/
theorem countAttributes_fingerprintList {buf : List UInt8} {pos n : Nat} {mi fp : Bool}
    (hpos : pos + ((fingerprintList crc32 type tx body fp).flatMap (encodeAttribute tx)).length ≤
      buf.length)
    (hn : n + (if fp then 1 else 0) ≤ stunAttributeMaxCount) :
    countAttributes buf (placed pos (fingerprintList crc32 type tx body fp)) ⟨false, mi, n⟩ =
      .ok ⟨fp, mi, n + if fp then 1 else 0⟩ := by
  cases fp with
  | false => rfl
  | true =>
    have hin : pos + stunAttributeHeaderLen ≤ buf.length := by
      rw [length_fingerprintList] at hpos
      exact le_trans (Nat.add_le_add_left (by decide) pos) hpos
    have hstep : Found.step ⟨false, mi, n⟩ buf ⟨pos, typeFingerprint, stunAttributeFingerprintLen⟩ =
        .ok ⟨true, mi, n + 1⟩ := by
      have hcount : Found.count ⟨false, mi, n⟩ .fingerprint = ⟨true, mi, n + 1⟩ := by
        rw [Found.count]
        exact congrArg (Found.mk true · _) (Bool.or_false mi)
      rw [Found.step, if_pos hin, ← hcount]
      exact if_pos hn
    show countAttributes buf [⟨pos, typeFingerprint, stunAttributeFingerprintLen⟩] _ = _
    rw [countAttributes, hstep]
    rfl

end

end

/-! ### The whole message -/

section

variable {type : Nat} {tx body : List UInt8}

def message (type : Nat) (tx body : List UInt8) : List UInt8 :=
  frame type tx (beBytes 2 body.length) body

theorem length_message (htx : tx.length = 12) :
    (message type tx body).length = stunHeaderLen + body.length := length_frame htx
    (length_beBytes 2 _)

theorem bytesAt_message_type : bytesAt (message type tx body) 0 2 = beBytes 2 type := by
  rw [message, frame, List.append_assoc]
  exact List.take_left' (length_beBytes 2 _)

theorem messageLength_message (hlt : body.length < 2 ^ 16) :
    messageLength (message type tx body) = body.length := by
  have hbytes : bytesAt (message type tx body) 2 2 = beBytes 2 body.length := by
    rw [message, frame, List.append_assoc, bytesAt, List.drop_left' (length_beBytes 2 _)]
    exact List.take_left' (length_beBytes 2 _)
  rw [messageLength, hbytes, beNat_beBytes_of_lt hlt]

theorem drop_message_four :
    (message type tx body).drop 4 = beBytes 4 stunHeaderMagicCookie ++ (tx ++ body) := by
  have hlen : (beBytes 2 type ++ beBytes 2 body.length).length = 4 := by
    rw [List.length_append, length_beBytes, length_beBytes]
  rw [message, frame, List.append_assoc (beBytes 4 _)]
  exact List.drop_left' hlen

theorem beNat_message_cookie :
    beNat (bytesAt (message type tx body) 4 4) = stunHeaderMagicCookie := by
  rw [bytesAt, drop_message_four, List.take_left' (length_beBytes 4 _)]
  exact beNat_beBytes_of_lt (by decide)

theorem transactionIdOf_message (htx : tx.length = 12) :
    transactionIdOf (message type tx body) = tx := by
  rw [transactionIdOf, bytesAt, ← List.drop_drop (i := 4) (j := 4), drop_message_four,
    List.drop_left' (length_beBytes 4 _), List.take_left' htx]

theorem attributeHeaders_message (type : Nat) {as : List StunAttribute} (htx : tx.length = 12)
    (has : ∀ a ∈ as, Framed tx a) (hlt : (as.flatMap (encodeAttribute tx)).length < 2 ^ 16) :
    attributeHeaders (message type tx (as.flatMap (encodeAttribute tx))) =
      placed stunHeaderLen as := by
  have hplaced := headers_placed has
    (frame type tx (beBytes 2 (as.flatMap (encodeAttribute tx)).length) []) []
  rw [frame_append, length_frame htx (length_beBytes 2 _), List.append_nil] at hplaced
  rw [attributeHeaders, attributesEnd, messageLength_message hlt]
  exact hplaced

theorem mem_placed {as : List StunAttribute} {a : StunAttribute} (ha : a ∈ as) (pos : Nat) :
    ∃ pos', (⟨pos', a.type, a.length⟩ : AttributeHeader) ∈ placed pos as := by
  induction as generalizing pos with
  | nil => exact absurd ha List.not_mem_nil
  | cons b as ih =>
    rcases List.mem_cons.mp ha with rfl | ha
    · exact ⟨pos, List.mem_cons_self⟩
    · obtain ⟨pos', hmem⟩ := ih ha (pos + 4 + roundUp16 b.length)
      exact ⟨pos', List.mem_cons_of_mem _ hmem⟩

theorem knownCount_placed {as : List StunAttribute} (has : ∀ a ∈ as, a.known) (pos : Nat) :
    knownCount (placed pos as) = as.length ∧ (placed pos as).length = as.length := by
  induction as generalizing pos with
  | nil => exact ⟨rfl, rfl⟩
  | cons a as ih =>
    obtain ⟨hknown, hlen⟩ := ih (fun b hb => has b (List.mem_cons_of_mem a hb))
      (pos + 4 + roundUp16 a.length)
    constructor
    · rw [placed, knownCount_cons, hknown, List.length_cons]
      exact congrArg _ (if_pos (has a List.mem_cons_self))
    · rw [placed, List.length_cons, hlen, List.length_cons]

variable (hmac : List UInt8 → List UInt8 → Digest) (crc32 : List UInt8 → UInt32)

theorem framed_generatedList {key : List UInt8} {mi : Bool} (fp : Bool) :
    ∀ a ∈ generatedList hmac crc32 key type tx body mi fp, Framed tx a ∧ a.known := by
  intro a ha
  rcases List.mem_append.mp ha with ha | ha
  · obtain ⟨-, ha⟩ := List.mem_ite_nil_right.mp ha
    rw [List.mem_singleton.mp ha]
    exact ⟨framed_integrityOf hmac tx key _, rfl⟩
  · obtain ⟨-, ha⟩ := List.mem_ite_nil_right.mp ha
    rw [List.mem_singleton.mp ha]
    exact ⟨framed_fingerprintOf crc32 tx _, rfl⟩

section

variable (type) {as : List StunAttribute} (has : ∀ a ∈ as, ∃ k, Decodable tx a k) (key : List UInt8)
  (mi fp : Bool)

include has

theorem framed_append_generatedList :
    ∀ a ∈ as ++ generatedList hmac crc32 key type tx body mi fp, Framed tx a ∧ a.known := by
  intro a ha
  rcases List.mem_append.mp ha with ha | ha
  · obtain ⟨k, hk⟩ := has a ha
    exact ⟨hk.toFramed, by rw [StunAttribute.known, hk.kind]; rfl⟩
  · exact framed_generatedList hmac crc32 fp a ha

/-- The headers of the attributes, of the message integrity and of the fingerprint. -/
theorem placed_generatedList (hbody : as.flatMap (encodeAttribute tx) = body) {body₁ : List UInt8}
    (hbody₁ : body ++ (integrityList hmac key type tx body mi).flatMap (encodeAttribute tx) =
      body₁) :
    placed stunHeaderLen (as ++ generatedList hmac crc32 key type tx body mi fp) =
      placed stunHeaderLen as ++
        (placed (stunHeaderLen + body.length) (integrityList hmac key type tx body mi) ++
          placed (stunHeaderLen + body₁.length) (fingerprintList crc32 type tx body₁ fp)) := by
  have hframed : ∀ a ∈ as, Framed tx a := fun a ha => (has a ha).choose_spec.toFramed
  have hintegrity : ∀ a ∈ integrityList hmac key type tx body mi, Framed tx a := fun a ha =>
    (framed_generatedList hmac crc32 false a (List.mem_append_left _ ha)).1
  rw [placed_append hframed, hbody, generatedList, placed_append hintegrity, hbody₁, ← hbody₁,
    List.length_append, Nat.add_assoc]

omit has in
/-- The message, with its body cut before the attributes, the message integrity and the
fingerprint. -/
theorem message_generatedList (hbody : as.flatMap (encodeAttribute tx) = body) {body₁ : List UInt8}
    (hbody₁ : body ++ (integrityList hmac key type tx body mi).flatMap (encodeAttribute tx) = body₁)
    {post₁ post : List UInt8}
    (hpost₁ : (fingerprintList crc32 type tx body₁ fp).flatMap (encodeAttribute tx) ++ [] = post₁)
    (hpost : (integrityList hmac key type tx body mi).flatMap (encodeAttribute tx) ++ post₁ =
      post) :
    ∃ l, l.length = 2 ∧
      message type tx ((as ++ generatedList hmac crc32 key type tx body mi fp).flatMap
        (encodeAttribute tx)) = frame type tx l [] ++ (as.flatMap (encodeAttribute tx) ++ post) ∧
      frame type tx l [] ++ (as.flatMap (encodeAttribute tx) ++ post) =
        frame type tx l (body ++ post) ∧
      frame type tx l (body ++ post) = frame type tx l (body₁ ++ post₁) := by
  have hflat : (as ++ generatedList hmac crc32 key type tx body mi fp).flatMap
      (encodeAttribute tx) =
      as.flatMap (encodeAttribute tx) ++ post := by
    rw [List.flatMap_append, generatedList, List.flatMap_append, hbody₁, ← hpost, ← hpost₁,
      List.append_nil]
  refine ⟨beBytes 2 (as.flatMap (encodeAttribute tx) ++ post).length, length_beBytes 2 _, ?_, ?_,
    ?_⟩
  · rw [frame_append, hflat]
    rfl
  · rw [frame_append, hbody]
    rfl
  · have hcut : body ++ post = body₁ ++ post₁ := by rw [← hpost, ← List.append_assoc, hbody₁]
    rw [hcut]

theorem countAttributes_message (htx : tx.length = 12)
    (hnonce : ∀ a ∈ as, kindOf a.type = some .nonce → a.length ≤ stunMaxNonceLen)
    (hcount : as.length + (if mi then 1 else 0) + (if fp then 1 else 0) ≤ stunAttributeMaxCount)
    (hbody : as.flatMap (encodeAttribute tx) = body) :
    ∃ found, countAttributes (message type tx
        ((as ++ generatedList hmac crc32 key type tx body mi fp).flatMap (encodeAttribute tx)))
      (placed stunHeaderLen (as ++ generatedList hmac crc32 key type tx body mi fp))
        ⟨false, false, 0⟩ =
        .ok found := by
  have hdecodable : ∀ a ∈ as, ∃ k, Decodable tx a k ∧
      (k = .nonce → a.length ≤ stunMaxNonceLen) := by
    intro a ha
    obtain ⟨k, hk⟩ := has a ha
    exact ⟨k, hk, fun h => hnonce a ha (h ▸ hk.kind)⟩
  generalize hbody₁ : body ++ (integrityList hmac key type tx body mi).flatMap
    (encodeAttribute tx) = body₁
  generalize hpost₁ : (fingerprintList crc32 type tx body₁ fp).flatMap (encodeAttribute tx) ++ [] =
    post₁
  generalize hpost : (integrityList hmac key type tx body mi).flatMap
    (encodeAttribute tx) ++ post₁ = post
  obtain ⟨l, hl, hmessage, hframe, hframe₁⟩ :=
    message_generatedList type hmac crc32 key mi fp hbody hbody₁ hpost₁ hpost
  -- first the attributes of the calls, then the two that are generated
  have hplain := countAttributes_placed hdecodable (frame type tx l []) post
    (⟨rfl, rfl⟩ : Found.Clear ⟨false, false, 0⟩) (show 0 + as.length ≤ stunAttributeMaxCount by
    omega)
    (placed (stunHeaderLen + body.length) (integrityList hmac key type tx body mi) ++
      placed (stunHeaderLen + body₁.length) (fingerprintList crc32 type tx body₁ fp))
  rw [length_frame htx hl, List.length_nil, Nat.add_zero] at hplain
  have hlen : (frame type tx l [] ++ (as.flatMap (encodeAttribute tx) ++ post)).length =
      stunHeaderLen + body₁.length +
        ((fingerprintList crc32 type tx body₁ fp).flatMap (encodeAttribute tx)).length := by
    rw [hframe, hframe₁, length_frame htx hl, ← hpost₁, List.append_nil, List.length_append,
      Nat.add_assoc]
  rw [placed_generatedList type hmac crc32 has key mi fp hbody hbody₁, hmessage, hplain,
    countAttributes_integrityList hmac]
  · rw [countAttributes_fingerprintList crc32 hlen.ge]
    · exact ⟨_, rfl⟩
    · show 0 + as.length + _ + _ ≤ stunAttributeMaxCount
      omega
  · rw [hlen, ← hbody₁, List.length_append, ← Nat.add_assoc]
    exact Nat.le_add_right _ _
  · show 0 + as.length + _ ≤ stunAttributeMaxCount
    omega

/-- The second loop gives all of them back. -/
theorem copyAttribute_message (htx : tx.length = 12) {password : Option (List UInt8)}
    (hmi : mi = true → password ≠ none) (hne : password ≠ some []) (hkey : password.getD [] = key)
    (hbody : as.flatMap (encodeAttribute tx) = body)
    (hlt : stunHeaderLen + body.length + generatedSize mi fp < 2 ^ 16) :
    List.Forall₂ (fun h a => copyAttribute hmac crc32 (message type tx
        ((as ++ generatedList hmac crc32 key type tx body mi fp).flatMap (encodeAttribute tx)))
        password tx h = .ok a)
      (placed stunHeaderLen (as ++ generatedList hmac crc32 key type tx body mi fp))
      (as ++ generatedList hmac crc32 key type tx body mi fp) := by
  generalize hbody₁ : body ++ (integrityList hmac key type tx body mi).flatMap
    (encodeAttribute tx) = body₁
  have hlt₁ : stunHeaderLen + body₁.length < 2 ^ 16 := by
    have hgen : generatedSize mi fp = (if mi then 24 else 0) + if fp then 8 else 0 := rfl
    rw [← hbody₁, List.length_append, length_integrityList]
    omega
  generalize hpost₁ : (fingerprintList crc32 type tx body₁ fp).flatMap (encodeAttribute tx) ++ [] =
    post₁
  generalize hpost : (integrityList hmac key type tx body mi).flatMap
    (encodeAttribute tx) ++ post₁ = post
  obtain ⟨l, hl, hmessage, hframe, hframe₁⟩ :=
    message_generatedList type hmac crc32 key mi fp hbody hbody₁ hpost₁ hpost
  rw [placed_generatedList type hmac crc32 has key mi fp hbody hbody₁, hmessage, generatedList,
    hbody₁]
  apply List.rel_append
  · have hplain := copyAttribute_placed hmac crc32 has password (frame type tx l []) post
    rw [length_frame htx hl, List.length_nil, Nat.add_zero] at hplain
    exact hplain
  apply List.rel_append
  · rw [hframe, ← hpost, ← hkey]
    exact copyAttribute_integrityList hmac crc32 htx hl (by omega) hmi hne _
  · rw [hframe, hframe₁, ← hpost₁]
    exact copyAttribute_fingerprintList hmac crc32 htx hl hlt₁ password fp []

theorem nonce_of_deserialize (htx : tx.length = 12) {password : Option (List UInt8)}
    (hlt : ((as ++ generatedList hmac crc32 key type tx body mi fp).flatMap
      (encodeAttribute tx)).length < 2 ^ 16) {packet : StunPacket}
    (hok : deserializeStunPacket hmac crc32 (message type tx
      ((as ++ generatedList hmac crc32 key type tx body mi fp).flatMap (encodeAttribute tx)))
        password = .ok packet) :
    ∀ a ∈ as, kindOf a.type = some .nonce → a.length ≤ stunMaxNonceLen := by
  intro a ha hkind
  obtain ⟨-, -, -, found, -, hcount, -⟩ := deserializeStunPacket_ok.mp hok
  rw [attributeHeaders_message type htx
    (fun b hb => (framed_append_generatedList type hmac crc32 has key mi fp b hb).1) hlt] at hcount
  obtain ⟨pos, hmem⟩ := mem_placed (List.mem_append_left _ ha) stunHeaderLen
  obtain ⟨found', hcheck⟩ := countAttributes_check hcount hmem hkind
  rw [Found.check, Found.checkLength] at hcheck
  split_ifs at hcheck with h
  exact of_decide_eq_true h

/-- **All other messages are**, and give the attributes back. -/
theorem deserialize_message (htx : tx.length = 12) (htype : type < 2 ^ 16)
    {password : Option (List UInt8)} (hmi : mi = true → password ≠ none) (hne : password ≠ some [])
    (hkey : password.getD [] = key) (hbody : as.flatMap (encodeAttribute tx) = body)
    (hlt : stunHeaderLen + body.length + generatedSize mi fp < 2 ^ 16)
    (hcount : as.length + (if mi then 1 else 0) + (if fp then 1 else 0) ≤ stunAttributeMaxCount)
    (hnonce : ∀ a ∈ as, kindOf a.type = some .nonce → a.length ≤ stunMaxNonceLen) :
    deserializeStunPacket hmac crc32 (message type tx
        ((as ++ generatedList hmac crc32 key type tx body mi fp).flatMap (encodeAttribute tx)))
        password =
      .ok ⟨⟨type, body.length + generatedSize mi fp, stunHeaderMagicCookie, tx⟩,
        as ++ generatedList hmac crc32 key type tx body mi fp⟩ := by
  obtain ⟨found, hfound⟩ :=
    countAttributes_message type hmac crc32 has key mi fp htx hnonce hcount hbody
  have hcopy := copyAttribute_message type hmac crc32 has key mi fp htx hmi hne hkey hbody hlt
  have hall : ∀ a ∈ as ++ generatedList hmac crc32 key type tx body mi fp, Framed tx a ∧ a.known :=
    framed_append_generatedList type hmac crc32 has key mi fp
  have hlen : ((as ++ generatedList hmac crc32 key type tx body mi fp).flatMap
      (encodeAttribute tx)).length = body.length + generatedSize mi fp := by
    rw [List.flatMap_append, List.length_append, hbody, length_generatedList]
  generalize as ++ generatedList hmac crc32 key type tx body mi fp = all at *
  have hlt' : (all.flatMap (encodeAttribute tx)).length < 2 ^ 16 := by omega
  have hheaders := attributeHeaders_message type htx (fun a ha => (hall a ha).1) hlt'
  obtain ⟨hknown, hlength⟩ := knownCount_placed (fun a ha => (hall a ha).2) stunHeaderLen
  have hshown : overwritten StunAttribute.known all = all := by
    have h := overwritten_append _ (fun a ha => (hall a ha).2) []
    rw [overwritten, List.append_nil] at h
    exact h
  refine deserializeStunPacket_ok.mpr ⟨?_, ?_, beNat_message_cookie, found, all, ?_, ?_, ?_⟩
  · rw [length_message htx]
    exact Nat.le_add_right _ _
  · rw [length_message htx, attributesEnd, messageLength_message hlt']
  · rw [hheaders]
    exact hfound
  · rw [hheaders, hknown, ← hlength, List.take_length, transactionIdOf_message htx]
    exact hcopy
  · rw [bytesAt_message_type, beNat_beBytes_of_lt htype, messageLength_message hlt', hlen,
      transactionIdOf_message htx, hshown]

end

end

/-! ### The round trip -/

section

variable (hmac : List UInt8 → List UInt8 → Digest) (crc32 : List UInt8 → UInt32)

/-- The attributes that are expected behind those of the packet are the ones that were generated. -/
theorem generatedAttributes_frame {type : Nat} {tx l body : List UInt8} (htx : tx.length = 12)
    (hl : l.length = 2) (key : List UInt8) (mi fp : Bool) :
    generatedAttributes hmac crc32 (frame type tx l (body ++
        (generatedList hmac crc32 key type tx body mi fp).flatMap (encodeAttribute tx)))
        key (stunHeaderLen + body.length) mi fp =
      generatedList hmac crc32 key type tx body mi fp := by
  have hcover : coveredBytes (frame type tx l (body ++
      (generatedList hmac crc32 key type tx body mi fp).flatMap (encodeAttribute tx)))
      (stunHeaderLen + body.length) stunHmacValueLen =
        frame type tx (beBytes 2 (body.length + (4 + stunHmacValueLen))) body :=
    coveredBytes_frame htx hl _ _
  generalize hbody₁ : body ++ (integrityList hmac key type tx body mi).flatMap
    (encodeAttribute tx) = body₁
  have hpos : (if mi then stunHeaderLen + body.length + 4 + stunHmacValueLen
      else stunHeaderLen + body.length) = stunHeaderLen + body₁.length := by
    rw [← hbody₁, List.length_append, length_integrityList]
    cases mi with
    | false => rfl
    | true => rfl
  have hcut : body ++ (generatedList hmac crc32 key type tx body mi fp).flatMap
      (encodeAttribute tx) =
      body₁ ++ (fingerprintList crc32 type tx body₁ fp).flatMap (encodeAttribute tx) := by
    rw [generatedList, List.flatMap_append, hbody₁, ← List.append_assoc, hbody₁]
  have hcover₁ : coveredBytes (frame type tx l (body₁ ++
      (fingerprintList crc32 type tx body₁ fp).flatMap (encodeAttribute tx)))
      (stunHeaderLen + body₁.length) stunAttributeFingerprintLen =
        frame type tx (beBytes 2 (body₁.length + (4 + stunAttributeFingerprintLen))) body₁ :=
    coveredBytes_frame htx hl _ _
  rw [← hcut] at hcover₁
  simp only [generatedAttributes, hpos, hcover, hcover₁]
  rw [generatedList, hbody₁]
  rfl

theorem nonces_iff (calls : List AppendCall)
    (hle : ∀ c ∈ calls, c.copied.length ≤ stunPacketAllocationSize) :
    (∀ a ∈ calls.map AppendCall.attribute, kindOf a.type = some .nonce →
      a.length ≤ stunMaxNonceLen) ↔
      ∀ b, AppendCall.nonce b ∈ calls → b.length ≤ stunMaxNonceLen := by
  constructor
  · intro h b hb
    exact h _ (List.mem_map_of_mem hb) rfl
  · intro h a ha hkind
    obtain ⟨c, hc, rfl⟩ := List.mem_map.mp ha
    rw [(c.decodable [] (hle c hc)).kind, Option.some.injEq] at hkind
    cases c with
    | nonce b => exact h b hc
    | _ => cases hkind

theorem serializeStunPacket_message {p : StunPacket} {password : Option (List UInt8)} {mi fp : Bool}
    {type : Nat} {tx key body : List UInt8} (hptype : p.header.stunMessageType = type)
    (hptx : p.header.transactionId = tx) (hkey : password.getD [] = key)
    (hbody : p.attributeList.flatMap (encodeAttribute tx) = body) (htx : tx.length = 12)
    (hcookie : p.header.magicCookie = stunHeaderMagicCookie) (hmi : mi = true → password ≠ none)
    (hne : password ≠ some []) (has : ∀ a ∈ p.attributeList, ∃ k, Decodable tx a k)
    (hlt : encodedSize p + generatedSize mi fp < 2 ^ 16) {buf : List UInt8}
    (hbuf : buf.length = encodedSize p + generatedSize mi fp) :
    serializeStunPacket hmac crc32 p password mi fp (some buf) =
      .ok (encodedSize p + generatedSize mi fp, message type tx
        ((p.attributeList ++ generatedList hmac crc32 key type tx body mi fp).flatMap
          (encodeAttribute tx))) := by
  subst hptype hptx hkey hbody
  rw [serializeStunPacket_frame hmac crc32 htx hcookie hmi hne has hlt hbuf, message,
    List.flatMap_append, List.length_append, length_generatedList, encodedSize, Nat.add_assoc,
    Nat.add_sub_cancel_left]

/-- **A packet that is built goes through the encoder and the decoder** if and only if its nonces
are not longer than the decoder allows. -/
theorem roundTrips_iff {type : Nat} {tx : List UInt8} {calls : List AppendCall} {p : StunPacket}
    {password : Option (List UInt8)} {mi fp : Bool} (htype : type < 2 ^ 16) (htx : tx.length = 12)
    (hp : appendAll calls (createStunPacket type tx) = .ok p) (hmi : mi = true → password ≠ none)
    (hne : password ≠ some [])
    (hcount : calls.length + (if mi then 1 else 0) + (if fp then 1 else 0) ≤ stunAttributeMaxCount)
    (hlt : encodedSize p + generatedSize mi fp < 2 ^ 16) :
    RoundTrips hmac crc32 p password mi fp ↔
      ∀ b, AppendCall.nonce b ∈ calls → b.length ≤ stunMaxNonceLen := by
  obtain ⟨hptype, hcookie, hptx, hlist, hle⟩ := appendAll_ok hp
  have hattributes : p.attributeList = calls.map AppendCall.attribute := hlist
  have has : ∀ a ∈ p.attributeList, ∃ k, Decodable tx a k := by
    intro a ha
    rw [hattributes] at ha
    obtain ⟨c, hc, rfl⟩ := List.mem_map.mp ha
    exact ⟨c.kind, c.decodable tx (hle c hc)⟩
  generalize hbody : p.attributeList.flatMap (encodeAttribute tx) = body
  generalize hkey : password.getD [] = key
  have hsize : encodedSize p = stunHeaderLen + body.length := by
    rw [encodedSize, hptx]
    exact congrArg (fun b : List UInt8 => stunHeaderLen + b.length) hbody
  have hlen : ((p.attributeList ++ generatedList hmac crc32 key type tx body mi fp).flatMap
      (encodeAttribute tx)).length = body.length + generatedSize mi fp := by
    rw [List.flatMap_append, List.length_append, hbody, length_generatedList]
  -- both calls succeed, whatever the nonces are
  have hout : ∀ {buf : List UInt8}, buf.length = encodedSize p + generatedSize mi fp →
      serializeStunPacket hmac crc32 p password mi fp (some buf) =
        .ok (encodedSize p + generatedSize mi fp, message type tx
          ((p.attributeList ++ generatedList hmac crc32 key type tx body mi fp).flatMap
            (encodeAttribute tx))) :=
    serializeStunPacket_message hmac crc32 hptype hptx hkey hbody htx hcookie hmi hne has hlt
  have hfirst : serializeStunPacket hmac crc32 p password mi fp none =
      .ok (encodedSize p + generatedSize mi fp, []) :=
    serializeStunPacket_size hmac crc32 hcookie hmi hne (by rw [hptx]; exact has)
  rw [← nonces_iff calls hle, ← hattributes]
  constructor
  · rintro ⟨size, hnone, hsome⟩
    have heq : size = encodedSize p + generatedSize mi fp := by
      rw [hnone] at hfirst
      exact congrArg Prod.fst (Except.ok.inj hfirst)
    obtain ⟨out, packet, hser, hde, -⟩ := hsome (List.replicate size 0) List.length_replicate
    rw [hout (List.length_replicate.trans heq)] at hser
    obtain ⟨-, rfl⟩ := Prod.mk.inj (Except.ok.inj hser)
    exact nonce_of_deserialize type hmac crc32 has key mi fp htx (by omega) hde
  · intro hnonce
    refine ⟨_, hfirst, fun buf hbuf => ⟨_, _, hout hbuf,
      deserialize_message type hmac crc32 has key mi fp
      htx htype hmi hne hkey hbody (by omega) ?_ hnonce, hptype.symm, hptx.symm, ?_⟩⟩
    · rw [hattributes, List.length_map]
      exact hcount
    · rw [hkey, hsize, message, List.flatMap_append, hbody,
        generatedAttributes_frame hmac crc32 htx (length_beBytes 2 _)]

end

def responseCalls : List AppendCall :=
  [.xorMappedAddress ⟨⟨familyIpv4, [0x12, 0x34], [192, 168, 0, 1]⟩, ⟨.inl rfl, rfl, rfl⟩⟩,
    .username [97, 58, 98], .useCandidate]

def responsePacket : StunPacket :=
  ⟨⟨0x0101, 24, stunHeaderMagicCookie, List.replicate 12 7⟩,
    [⟨typeXorMappedAddress, 8, .address ⟨familyIpv4, [0x12, 0x34], [192, 168, 0, 1]⟩⟩,
      ⟨typeUsername, 3, .bytes 4 [97, 58, 98, 0]⟩, ⟨typeUseCandidate, 0, .headerOnly⟩]⟩

/-- It goes through with message integrity and fingerprint. -/
theorem roundTrips_response :
    appendAll responseCalls (createStunPacket 0x0101 (List.replicate 12 7)) = .ok responsePacket ∧
      RoundTrips (fun _ _ => ⟨List.replicate 20 0, rfl⟩) (fun _ => 0) responsePacket
      (some [112, 119])
        true true := by
  have hp : appendAll responseCalls (createStunPacket 0x0101 (List.replicate 12 7)) =
      .ok responsePacket := by decide +kernel
  refine ⟨hp, (roundTrips_iff _ _ (by decide) List.length_replicate hp (by decide) (by decide)
    (by decide) (by decide +kernel)).mpr ?_⟩
  intro b hb
  simp only [responseCalls, List.mem_cons, reduceCtorEq, List.not_mem_nil, or_self] at hb

/-- A nonce of 129 bytes is appended and encoded, and the decoder rejects the message. -/
theorem long_nonce_rejected :
    ∃ p, appendAll [.nonce (List.replicate 129 0)] (createStunPacket 0x0001 (List.replicate 12 0)) =
        .ok p ∧
      [AppendCall.nonce (List.replicate 129 0)].length ≤ stunAttributeMaxCount ∧
      encodedSize p + generatedSize false false < 2 ^ 16 ∧
      ¬ RoundTrips (fun _ _ => ⟨List.replicate 20 0, rfl⟩) (fun _ => 0) p none false false := by
  refine ⟨⟨⟨1, 136, stunHeaderMagicCookie, List.replicate 12 0⟩,
    [⟨typeNonce, 129, .bytes 132 (List.replicate 132 0)⟩]⟩, by decide +kernel, by decide,
    by decide +kernel, ?_⟩
  rintro ⟨size, hnone, hsome⟩
  have hsize : serializeStunPacket (fun _ _ => ⟨List.replicate 20 0, rfl⟩) (fun _ => 0)
      ⟨⟨1, 136, stunHeaderMagicCookie, List.replicate 12 0⟩,
        [⟨typeNonce, 129, .bytes 132 (List.replicate 132 0)⟩]⟩ none false false none =
      .ok (156, []) := by decide +kernel
  obtain ⟨rfl, -⟩ := Prod.mk.inj (Except.ok.inj (hsize.symm.trans hnone))
  obtain ⟨out, packet, hser, hde, -⟩ := hsome (List.replicate 156 0) List.length_replicate
  have hout : serializeStunPacket (fun _ _ => ⟨List.replicate 20 0, rfl⟩) (fun _ => 0)
      ⟨⟨1, 136, stunHeaderMagicCookie, List.replicate 12 0⟩,
        [⟨typeNonce, 129, .bytes 132 (List.replicate 132 0)⟩]⟩ none false false
      (some (List.replicate 156 0)) =
      .ok (156, bindingRequest ([0, 0x15, 0, 129] ++ List.replicate 132 0)) := by decide +kernel
  obtain ⟨-, rfl⟩ := Prod.mk.inj (Except.ok.inj (hout.symm.trans hser))
  have herror : deserializeWithZeros (bindingRequest ([0, 0x15, 0, 129] ++ List.replicate 132 0)) =
      .error (.status .stunInvalidNonceAttributeLength) := by decide +kernel
  exact absurd (herror.symm.trans hde) nofun

end KvsWebrtc.Stun
