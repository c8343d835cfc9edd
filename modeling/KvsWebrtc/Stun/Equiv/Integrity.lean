import KvsWebrtc.Stun.Equiv.Deserialize

/-!
# Message integrity and fingerprint

`verified_iff`: a buffer that can be accepted at all has its message integrity and its fingerprint
verified, whatever the HMAC and the CRC-32 are, exactly if the second loop of the decoder reaches
them. That is so if there are fewer attributes of unknown type before one of them than there are
attributes of known type from it on: each of the former takes the place of one of the latter.
-/

namespace KvsWebrtc.Stun

section

variable {hmac hmac' : List UInt8 → List UInt8 → Digest} {crc32 crc32' : List UInt8 → UInt32}
  {buf : List UInt8} {password : Option (List UInt8)}

/-! ### What is checked -/

theorem coveredBytes16_of_lt {pos : Nat} (h : pos < 2 ^ 16) (n : Nat) :
    coveredBytes16 buf pos n = coveredBytes buf pos n := by
  rw [coveredBytes16, coveredBytes, Nat.mod_eq_of_lt h]

/-- From 2^16 on, fewer bytes are taken than stand before the attribute. -/
theorem coveredBytes16_ne {pos n : Nat} (h : 2 ^ 16 ≤ pos) (hlen : pos ≤ buf.length) :
    coveredBytes16 buf pos n ≠ coveredBytes buf pos n := by
  intro heq
  have hlength := congrArg List.length heq
  have hput : (putLength buf (pos + stunAttributeHeaderLen + n - stunHeaderLen)).length =
      buf.length := by
    rw [putLength, List.length_append, List.length_append, List.length_take, List.length_drop,
      length_beBytes]
    omega
  rw [coveredBytes16, coveredBytes, List.length_take, List.length_take, hput] at hlength
  have hmod : pos % 2 ^ 16 < 2 ^ 16 := Nat.mod_lt _ (by decide)
  omega

/-- A message integrity that is copied is the HMAC of the bytes taken. -/
theorem copyAttribute_integrity {tx : List UInt8} {h : AttributeHeader} {a : StunAttribute}
    (hcopy : copyAttribute hmac crc32 buf password tx h = .ok a)
    (hk : kindOf h.type = some .messageIntegrity) :
    ∃ key, password = some key ∧
      (hmac key (coveredBytes16 buf h.pos stunHmacValueLen)).1 =
        bytesAt buf (h.pos + 4) stunHmacValueLen := by
  simp only [copyAttribute, hk] at hcopy
  cases password with
  | none => cases hcopy
  | some key =>
    cases key with
    | nil => cases hcopy
    | cons c key =>
      cases hfield : fieldAt buf (h.pos + 4) stunHmacValueLen with
      | error e => simp only [hfield] at hcopy; cases hcopy
      | ok b =>
        simp only [hfield] at hcopy
        split_ifs at hcopy with hdigest
        refine ⟨c :: key, rfl, ?_⟩
        rw [hdigest, (fieldAt_eq_ok hfield).2]

theorem copyAttribute_fingerprint {tx : List UInt8} {h : AttributeHeader} {a : StunAttribute}
    (hcopy : copyAttribute hmac crc32 buf password tx h = .ok a)
    (hk : kindOf h.type = some .fingerprint) :
    (crc32 (coveredBytes16 buf h.pos stunAttributeFingerprintLen) ^^^
      stunFingerprintAttributeXorValue).toNat =
      beNat (bytesAt buf (h.pos + 4) stunAttributeFingerprintLen) := by
  simp only [copyAttribute, hk] at hcopy
  cases hfield : fieldAt buf (h.pos + 4) stunAttributeFingerprintLen with
  | error e => simp only [hfield] at hcopy; cases hcopy
  | ok b =>
    simp only [hfield] at hcopy
    split_ifs at hcopy with hcrc
    rw [hcrc, (fieldAt_eq_ok hfield).2]

/-- The HMAC and the CRC-32 matter only for a message integrity and a fingerprint. -/
theorem copyAttribute_congr {tx : List UInt8} {h : AttributeHeader}
    (hmi : kindOf h.type = some .messageIntegrity →
      ∀ key, hmac' key (coveredBytes16 buf h.pos stunHmacValueLen) =
        hmac key (coveredBytes16 buf h.pos stunHmacValueLen))
    (hfp : kindOf h.type = some .fingerprint →
      crc32' (coveredBytes16 buf h.pos stunAttributeFingerprintLen) =
        crc32 (coveredBytes16 buf h.pos stunAttributeFingerprintLen)) :
    copyAttribute hmac' crc32' buf password tx h = copyAttribute hmac crc32 buf password tx h := by
  simp only [copyAttribute]
  cases hk : kindOf h.type with
  | none => rfl
  | some k =>
    cases k with
    | messageIntegrity => simp only [hmi hk]
    | fingerprint => simp only [hfp hk]
    | _ => rfl

/-! ### What the second loop reaches -/

theorem length_eq_knownCount_add (hs : List AttributeHeader) :
    hs.length = knownCount hs + (hs.filter (!·.known)).length := by
  rw [knownCount, ← List.length_eq_length_filter_add]

/-- The second loop reaches an attribute if fewer attributes of unknown type stand before it than
there are attributes of known type from it on. -/
theorem length_lt_knownCount_iff {before after : List AttributeHeader} {h : AttributeHeader} :
    before.length < knownCount (before ++ h :: after) ↔
      (before.filter (!·.known)).length < knownCount (h :: after) := by
  rw [knownCount_append, length_eq_knownCount_add before]
  omega

theorem mem_take_of_length_lt {before after : List AttributeHeader} {h : AttributeHeader} {n : Nat}
    (hlt : before.length < n) : h ∈ (before ++ h :: after).take n := by
  obtain ⟨m, rfl⟩ : ∃ m, n = before.length + (m + 1) := ⟨n - before.length - 1, by omega⟩
  rw [List.take_append, List.take_of_length_le (by omega), Nat.add_sub_cancel_left,
    List.take_succ_cons]
  exact List.mem_append_right _ List.mem_cons_self

/-- An attribute that the second loop does not reach is not among those that it copies. -/
theorem not_mem_take_of_le {before after : List AttributeHeader} {h : AttributeHeader} {n : Nat}
    (hsorted : (before ++ h :: after).Pairwise fun h h' => h.pos < h'.pos)
    (hle : n ≤ before.length) :
    h ∉ (before ++ h :: after).take n := by
  intro hmem
  rw [List.take_append_of_le_length hle] at hmem
  have hlt := (List.pairwise_append.mp hsorted).2.2 h (List.mem_of_mem_take hmem) h
    List.mem_cons_self
  exact Nat.lt_irrefl _ hlt

/-- What is accepted with some functions is accepted with others that agree where they are used. -/
theorem deserialize_congr {packet : StunPacket}
    (hok : deserializeStunPacket hmac crc32 buf password = .ok packet)
    (hmi : ∀ h ∈ (attributeHeaders buf).take (knownCount (attributeHeaders buf)),
      kindOf h.type = some .messageIntegrity →
        ∀ key, hmac' key (coveredBytes16 buf h.pos stunHmacValueLen) =
          hmac key (coveredBytes16 buf h.pos stunHmacValueLen))
    (hfp : ∀ h ∈ (attributeHeaders buf).take (knownCount (attributeHeaders buf)),
      kindOf h.type = some .fingerprint →
        crc32' (coveredBytes16 buf h.pos stunAttributeFingerprintLen) =
          crc32 (coveredBytes16 buf h.pos stunAttributeFingerprintLen)) :
    deserializeStunPacket hmac' crc32' buf password = .ok packet := by
  obtain ⟨hlen, hend, hcookie, found, as, hcount, hall, rfl⟩ := deserializeStunPacket_ok.mp hok
  refine deserializeStunPacket_ok.mpr ⟨hlen, hend, hcookie, found, as, hcount, ?_, rfl⟩
  clear hok
  generalize (attributeHeaders buf).take (knownCount (attributeHeaders buf)) = taken at hall hmi hfp
  induction hall with
  | nil => exact .nil
  | @cons h _ hs _ hcopy _ ih =>
    have hself : h ∈ h :: hs := List.mem_cons_self
    refine .cons ?_ (ih (fun h' hh => hmi h' (List.mem_cons_of_mem h hh))
      fun h' hh => hfp h' (List.mem_cons_of_mem h hh))
    rw [copyAttribute_congr (hmi h hself) (hfp h hself)]
    exact hcopy

/-- The bytes that the second loop takes for an attribute are not those that stand before it, unless
it reaches it and their number is a 16-bit one. -/
theorem coveredBytes16_ne_of_not_reached {packet : StunPacket}
    (hok : deserializeStunPacket hmac crc32 buf password = .ok packet)
    {before after : List AttributeHeader} {h : AttributeHeader}
    (hsplit : wireHeaders buf = before ++ h :: after)
    (hnot : ¬ Reached before h (after ++ misreadHeaders buf)) {k : AttributeKind} (hk : k.Verifying)
    (hkind : kindOf h.type = some k) (n : Nat) :
    ∀ h' ∈ (attributeHeaders buf).take (knownCount (attributeHeaders buf)),
      kindOf h'.type = some k →
      coveredBytes16 buf h'.pos n ≠ coveredBytes buf h.pos n := by
  obtain ⟨-, hend, -, found, as, hcount, -, -⟩ := deserializeStunPacket_ok.mp hok
  have hall : attributeHeaders buf = before ++ h :: (after ++ misreadHeaders buf) := by
    rw [attributeHeaders_eq, hsplit, List.append_assoc, List.cons_append]
  have hsorted : (attributeHeaders buf).Pairwise fun h h' => h.pos < h'.pos :=
    pairwise_headers roundUp16 buf _ _
  have hmem : h ∈ attributeHeaders buf := by
    rw [hall]
    exact List.mem_append_right _ List.mem_cons_self
  intro h' hmem' hkind'
  obtain rfl := countAttributes_unique hcount hk (List.mem_of_mem_take hmem') hmem hkind' hkind
  -- it is reached, since it is one of those copied
  have hreached : (before.filter (!·.known)).length <
      knownCount (h' :: (after ++ misreadHeaders buf)) := by
    by_contra hle
    rw [← length_lt_knownCount_iff, ← hall] at hle
    rw [hall] at hsorted hmem'
    exact not_mem_take_of_le hsorted (hall ▸ Nat.le_of_not_lt hle) hmem'
  have hpos : 2 ^ 16 ≤ h'.pos := by
    by_contra hlt
    exact hnot ⟨hreached, Nat.lt_of_not_le hlt⟩
  have hstop := (pos_of_mem_headers roundUp16 buf _ h' hmem).2.1
  exact coveredBytes16_ne hpos (by omega)

/-- There is a digest other than the given bytes. -/
theorem exists_digest_ne (b : List UInt8) : ∃ d : Digest, d.1 ≠ b := by
  by_cases h : List.replicate 20 (0 : UInt8) = b
  · refine ⟨⟨List.replicate 20 1, rfl⟩, ?_⟩
    rw [← h]
    decide
  · exact ⟨⟨List.replicate 20 0, rfl⟩, h⟩

/-- There is a checksum that gives another fingerprint than the given one. -/
theorem exists_crc32_ne (n : Nat) :
    ∃ c : UInt32, (c ^^^ stunFingerprintAttributeXorValue).toNat ≠ n := by
  by_cases h : ((0 : UInt32) ^^^ stunFingerprintAttributeXorValue).toNat = n
  · refine ⟨1, ?_⟩
    rw [← h]
    decide
  · exact ⟨0, h⟩

theorem integrityReached_of_verified
    (hverified : ∀ hmac crc32 packet, deserializeStunPacket hmac crc32 buf password = .ok packet →
      Verified hmac crc32 buf password) {packet : StunPacket}
    (hok : deserializeStunPacket hmac crc32 buf password = .ok packet) : IntegrityReached buf := by
  intro before h after hsplit htype
  have hmem : h ∈ wireHeaders buf := by
    rw [hsplit]
    exact List.mem_append_right _ List.mem_cons_self
  by_contra hnot
  rcases htype with htype | htype
  · -- an HMAC that differs only for the bytes that stand before the message integrity
    have hkind : kindOf h.type = some .messageIntegrity := by rw [htype]; rfl
    obtain ⟨d, hd⟩ := exists_digest_ne (bytesAt buf (h.pos + 4) stunHmacValueLen)
    have hne := coveredBytes16_ne_of_not_reached hok hsplit hnot (.inl rfl) hkind stunHmacValueLen
    have hok' : deserializeStunPacket
        (fun key m => if m = coveredBytes buf h.pos stunHmacValueLen then d
        else hmac key m) crc32 buf
        password = .ok packet := by
      refine deserialize_congr hok (fun h' hmem' hkind' key => ?_) fun _ _ _ => rfl
      rw [if_neg (hne h' hmem' hkind')]
    obtain ⟨key, -, hvalid⟩ := (hverified _ _ _ hok' h hmem).1 htype
    simp only [if_true] at hvalid
    exact hd hvalid
  · have hkind : kindOf h.type = some .fingerprint := by rw [htype]; rfl
    obtain ⟨c, hc⟩ := exists_crc32_ne (beNat (bytesAt buf (h.pos + 4) stunAttributeFingerprintLen))
    have hne := coveredBytes16_ne_of_not_reached hok hsplit hnot (.inr rfl) hkind
      stunAttributeFingerprintLen
    have hok' : deserializeStunPacket hmac
        (fun m => if m = coveredBytes buf h.pos stunAttributeFingerprintLen then c else crc32 m) buf
        password = .ok packet := by
      refine deserialize_congr hok (fun _ _ _ _ => rfl) fun h' hmem' hkind' => ?_
      rw [if_neg (hne h' hmem' hkind')]
    have hvalid := (hverified _ _ _ hok' h hmem).2 htype
    simp only [FingerprintValid, if_true] at hvalid
    exact hc hvalid

theorem verified_of_integrityReached (hreached : IntegrityReached buf) {packet : StunPacket}
    (hok : deserializeStunPacket hmac crc32 buf password = .ok packet) :
    Verified hmac crc32 buf password := by
  obtain ⟨-, -, -, found, as, -, hall, -⟩ := deserializeStunPacket_ok.mp hok
  intro h hmem
  -- an attribute that is reached has been copied
  have hcopy : h.type = typeMessageIntegrity ∨ h.type = typeFingerprint → h.pos < 2 ^ 16 ∧
      ∃ a, copyAttribute hmac crc32 buf password (transactionIdOf buf) h = .ok a := by
    intro htype
    obtain ⟨before, after, hsplit⟩ := List.mem_iff_append.mp hmem
    obtain ⟨hlt, hpos⟩ := hreached before h after hsplit htype
    rw [← length_lt_knownCount_iff] at hlt
    have heq : attributeHeaders buf = before ++ h :: (after ++ misreadHeaders buf) := by
      rw [attributeHeaders_eq, hsplit, List.append_assoc, List.cons_append]
    have htake : h ∈ (attributeHeaders buf).take (knownCount (attributeHeaders buf)) := by
      rw [heq]
      exact mem_take_of_length_lt hlt
    obtain ⟨a, -, ha⟩ := exists_of_mem_right hall.flip htake
    exact ⟨hpos, a, ha⟩
  constructor
  · intro htype
    obtain ⟨hpos, a, ha⟩ := hcopy (.inl htype)
    obtain ⟨key, hkey, hdigest⟩ := copyAttribute_integrity ha (by rw [htype]; rfl)
    rw [coveredBytes16_of_lt hpos] at hdigest
    exact ⟨key, hkey, hdigest⟩
  · intro htype
    obtain ⟨hpos, a, ha⟩ := hcopy (.inr htype)
    have hcrc := copyAttribute_fingerprint ha (by rw [htype]; rfl)
    rw [coveredBytes16_of_lt hpos] at hcrc
    exact hcrc

end

/-- **Verification**: whenever a buffer is accepted, its message integrity and its fingerprint are
valid, for every HMAC and CRC-32, exactly if it is never accepted or they are reached: fewer
attributes of unknown type stand before each of them than there are attributes of known type from it
on, and the number of bytes before it is a 16-bit one. -/
theorem verified_iff (buf : List UInt8) (password : Option (List UInt8)) :
    (∀ hmac crc32 packet, deserializeStunPacket hmac crc32 buf password = .ok packet →
      Verified hmac crc32 buf password) ↔
    ((∃ hmac crc32 packet, deserializeStunPacket hmac crc32 buf password = .ok packet) →
      IntegrityReached buf) := by
  constructor
  · rintro hverified ⟨hmac, crc32, packet, hok⟩
    exact integrityReached_of_verified hverified hok
  · intro hreached hmac crc32 packet hok
    exact verified_of_integrityReached (hreached ⟨hmac, crc32, packet, hok⟩) hok

/-- **A message integrity behind an attribute of unknown type** is not verified: twenty bytes of
ones are accepted where the HMAC is zero. -/
theorem unverified_integrity_accepted :
    deserializeStunPacket (fun _ _ => ⟨List.replicate 20 0, rfl⟩) (fun _ => 0)
        (bindingRequest ([0x77, 0x77, 0, 0, 0, 8, 0, 20] ++ List.replicate 20 1)) (some [0x70]) =
      .ok ⟨⟨1, 28, stunHeaderMagicCookie, List.replicate 12 0⟩, [⟨0x7777, 0, .headerOnly⟩]⟩ ∧
    ¬ Verified (fun _ _ => ⟨List.replicate 20 0, rfl⟩) (fun _ => 0)
        (bindingRequest ([0x77, 0x77, 0, 0, 0, 8, 0, 20] ++ List.replicate 20 1))
        (some [0x70]) := by
  constructor
  · decide +kernel
  · intro h
    obtain ⟨key, -, hvalid⟩ := (h ⟨24, 8, 20⟩ (by decide +kernel)).1 rfl
    have hzeros : List.replicate 20 (0 : UInt8) =
        bytesAt (bindingRequest ([0x77, 0x77, 0, 0, 0, 8, 0, 20] ++ List.replicate 20 1)) 28 20 :=
        hvalid
    exact absurd hzeros (by decide +kernel)

end KvsWebrtc.Stun
