import KvsWebrtc.Stun.Equiv.RoundTrip

/-!
# Masked addresses

`xorValue` is the masking of RFC 5389 on numbers: the port with the high half of the cookie, and the
address with the cookie, which the transaction id follows for IPv6.  `xorIpAddress` computes it byte
by byte (`addressBytes_xorIpAddress`).

The encoder masks an `XOR-MAPPED-ADDRESS` and an `XOR-PEER-ADDRESS` and passes over an
`XOR-RELAYED-ADDRESS`; the decoder unmasks an `XOR-MAPPED-ADDRESS` and an `XOR-RELAYED-ADDRESS`.  So
an address comes back from its masked form for one of the three types (`masksAddress_iff`).
-/

namespace KvsWebrtc.Stun

variable {tx : List UInt8} {a : KvsIpAddress}

/-! ### The mask -/

/-- Exclusive or acts on the two parts of a number apart. -/
theorem two_pow_mul_add_xor {k a b : Nat} (x y : Nat) (ha : a < 2 ^ k) (hb : b < 2 ^ k) :
    (2 ^ k * x + a) ^^^ (2 ^ k * y + b) = 2 ^ k * (x ^^^ y) + (a ^^^ b) := by
  apply Nat.eq_of_testBit_eq
  intro j
  rw [Nat.testBit_xor, Nat.testBit_two_pow_mul_add x ha, Nat.testBit_two_pow_mul_add y hb,
    Nat.testBit_two_pow_mul_add _ (Nat.xor_lt_two_pow ha hb)]
  split_ifs with hj
  · rw [Nat.testBit_xor]
  · rw [Nat.testBit_xor]

theorem pow_eq_two_pow (n : Nat) : 256 ^ n = 2 ^ (8 * n) := by
  rw [Nat.pow_mul]

theorem beNat_xorBytes {b mask : List UInt8} (h : b.length = mask.length) :
    beNat (xorBytes b mask) = beNat b ^^^ beNat mask := by
  induction b generalizing mask with
  | nil =>
    rw [List.length_nil] at h
    rw [List.eq_nil_of_length_eq_zero h.symm]
    rfl
  | cons x b ih =>
    cases mask with
    | nil => simp at h
    | cons m mask =>
      have hlen : b.length = mask.length := Nat.succ.inj h
      have hb := beNat_lt b
      have hmask := beNat_lt mask
      rw [pow_eq_two_pow] at hb hmask
      rw [← hlen] at hmask
      rw [xorBytes, beNat, beNat, beNat, ih hlen, length_xorBytes, UInt8.toNat_xor, ← hlen,
        pow_eq_two_pow, Nat.mul_comm, Nat.mul_comm x.toNat, Nat.mul_comm m.toNat,
        two_pow_mul_add_xor _ _ hb hmask]

theorem xorBytes_eq {b mask : List UInt8} (h : b.length = mask.length) :
    xorBytes b mask = beBytes b.length (beNat b ^^^ beNat mask) := by
  have hback := beBytes_beNat (xorBytes b mask)
  rw [length_xorBytes, beNat_xorBytes h] at hback
  exact hback.symm

theorem beNat_append (bs cs : List UInt8) :
    beNat (bs ++ cs) = beNat bs * 256 ^ cs.length + beNat cs := by
  induction bs with
  | nil => simp [beNat]
  | cons b bs ih =>
    rw [List.cons_append, beNat, beNat, ih, List.length_append, pow_add]
    ring

/-- The value of an attribute with a masked address: the family, the port with the high half of the
cookie, and the address with the cookie and, for IPv6, the transaction id. -/
def xorValue (transactionId : List UInt8) (a : KvsIpAddress) : List UInt8 :=
  beBytes 2 a.family ++ beBytes 2 (beNat a.port ^^^ stunHeaderMagicCookie / 2 ^ 16) ++
    if a.family = familyIpv6 then
      beBytes 16 (beNat a.address ^^^ (stunHeaderMagicCookie * 2 ^ 96 + beNat transactionId))
    else beBytes 4 (beNat a.address ^^^ stunHeaderMagicCookie)

/-- **`xorIpAddress` masks** as the RFC says. -/
theorem addressBytes_xorIpAddress (ha : a.WellFormed) (htx : tx.length = 12) :
    addressBytes (xorIpAddress a tx) = xorValue tx a := by
  have hport : xorBytes a.port (beBytes 2 (stunHeaderMagicCookie / 2 ^ 16)) =
      beBytes 2 (beNat a.port ^^^ stunHeaderMagicCookie / 2 ^ 16) := by
    rw [xorBytes_eq (by rw [ha.length_port, length_beBytes]), ha.length_port,
      beNat_beBytes_of_lt (by decide)]
  have haddress := ha.length_address
  rw [addressBytes, xorValue]
  change beBytes 2 a.family ++ xorBytes a.port _ ++ xorBytes a.address _ = _
  rw [hport]
  congr 1
  rcases ha.family with hf | hf
  · have hlen : a.address.length = 4 := by simpa [hf, ipAddressLength] using haddress
    have hne : a.family ≠ familyIpv6 := by simp [hf, familyIpv4, familyIpv6]
    rw [if_neg hne, if_neg hne, List.append_nil, xorBytes_eq (by rw [hlen, length_beBytes]), hlen,
      beNat_beBytes_of_lt (by decide)]
  · have hlen : a.address.length = 16 := by
      simpa [hf, ipAddressLength, familyIpv4, familyIpv6] using haddress
    rw [if_pos hf, if_pos hf, xorBytes_eq (by rw [hlen, List.length_append, length_beBytes, htx]),
      hlen, beNat_append, beNat_beBytes_of_lt (by decide), htx, pow_eq_two_pow]

/-! ### The codec -/

def xorAddressTypes : List Nat := [typeXorMappedAddress, typeXorPeerAddress, typeXorRelayedAddress]

section

variable (hmac : List UInt8 → List UInt8 → Digest) (crc32 : List UInt8 → UInt32)

/-- The codec masks the address: behind the header of the message, the encoder writes the attribute
with the masked address, and the decoder gives the attribute back. -/
def MasksAddress (type messageType : Nat) (tx : List UInt8) (a : KvsIpAddress)
    (password : Option (List UInt8)) (mi fp : Bool) : Prop :=
  ∃ p size, appendStunAddressAttribute (createStunPacket messageType tx) type a = .ok p ∧
    serializeStunPacket hmac crc32 p password mi fp none = .ok (size, []) ∧
    ∀ buf : List UInt8, buf.length = size →
      ∃ out packet, serializeStunPacket hmac crc32 p password mi fp (some buf) = .ok (size, out) ∧
        bytesAt out stunHeaderLen (4 + (4 + ipAddressLength a.family)) =
          beBytes 2 type ++ beBytes 2 (4 + ipAddressLength a.family) ++ xorValue tx a ∧
        deserializeStunPacket hmac crc32 out password = .ok packet ∧
        packet.attributeList.head? = some (addressAttribute type a)

def addressPacket (type messageType : Nat) (tx : List UInt8) (a : KvsIpAddress) : StunPacket :=
  ⟨⟨messageType, 8 + ipAddressLength a.family, stunHeaderMagicCookie, tx⟩,
  [addressAttribute type a]⟩

theorem appendStunAddressAttribute_new (ha : a.WellFormed) (type messageType : Nat)
    (tx : List UInt8) :
    appendStunAddressAttribute (createStunPacket messageType tx) type a =
      .ok (addressPacket type messageType tx a) := by
  have hlength : (0 + (4 + ipAddressLength a.family) + stunAttributeHeaderLen) % 2 ^ 16 =
      8 + ipAddressLength a.family := by
    rcases ha.family with hf | hf
    · rw [hf]; rfl
    · rw [hf]; rfl
  rw [addressPacket, ← hlength]
  rfl

theorem length_xorValue (ha : a.WellFormed) (htx : tx.length = 12) :
    (xorValue tx a).length = 4 + ipAddressLength a.family := by
  rw [← addressBytes_xorIpAddress ha htx, (ha.xorIpAddress tx).length_addressBytes]
  rfl

theorem ipAddressLength_le (family : Nat) : ipAddressLength family ≤ 16 := by
  rw [ipAddressLength]
  split_ifs <;> decide

theorem bytesAt_frame {type : Nat} {l : List UInt8} (htx : tx.length = 12) (hl : l.length = 2)
    (b : List UInt8) (n : Nat) : bytesAt (frame type tx l b) stunHeaderLen n = b.take n := by
  have hhead : (frame type tx l []).length = stunHeaderLen := length_frame htx hl
  have hframe : frame type tx l b = frame type tx l [] ++ b := by rw [frame_append, List.nil_append]
  rw [hframe, bytesAt, List.drop_left' hhead]

/-! ### The type that is masked on both sides -/

theorem encodeAttribute_xorMapped (ha : a.WellFormed) (htx : tx.length = 12) :
    encodeAttribute tx (addressAttribute typeXorMappedAddress a) =
      beBytes 2 typeXorMappedAddress ++ beBytes 2 (4 + ipAddressLength a.family) ++
        xorValue tx a := by
  rw [← addressBytes_xorIpAddress ha htx]
  rfl

theorem decodable_xorMapped (ha : a.WellFormed) :
    ∀ b ∈ [addressAttribute typeXorMappedAddress a], ∃ k, Decodable tx b k := by
  intro b hb
  rw [List.mem_singleton.mp hb]
  exact ⟨.address, decodable_address tx ha (.inr rfl)⟩

theorem masksAddress_xorMapped {messageType : Nat} {password : Option (List UInt8)} {mi fp : Bool}
    (htype : messageType < 2 ^ 16) (htx : tx.length = 12) (ha : a.WellFormed)
    (hmi : mi = true → password ≠ none) (hne : password ≠ some []) :
    MasksAddress hmac crc32 typeXorMappedAddress messageType tx a password mi fp := by
  have has : ∀ b ∈ [addressAttribute typeXorMappedAddress a], ∃ k, Decodable tx b k :=
    decodable_xorMapped ha
  have hattribute : [addressAttribute typeXorMappedAddress a].flatMap (encodeAttribute tx) =
      beBytes 2 typeXorMappedAddress ++ beBytes 2 (4 + ipAddressLength a.family) ++
      xorValue tx a := by
    rw [List.flatMap_cons, List.flatMap_nil, List.append_nil, encodeAttribute_xorMapped ha htx]
  have hlen : ([addressAttribute typeXorMappedAddress a].flatMap (encodeAttribute tx)).length =
      4 + (4 + ipAddressLength a.family) := by
    rw [hattribute, List.length_append, List.length_append, length_beBytes, length_beBytes,
      length_xorValue ha htx]
  have hsmall := ipAddressLength_le a.family
  have hgen : generatedSize mi fp ≤ 32 := by
    cases mi <;> cases fp <;> decide
  have hsize : encodedSize (addressPacket typeXorMappedAddress messageType tx a) =
      stunHeaderLen + ([addressAttribute typeXorMappedAddress a].flatMap
        (encodeAttribute tx)).length := by
    rw [encodedSize, addressPacket]
  -- a packet with one address is short
  have hlt : stunHeaderLen +
      ([addressAttribute typeXorMappedAddress a].flatMap (encodeAttribute tx)).length +
        generatedSize mi fp < 2 ^ 16 := by
    rw [hlen, stunHeaderLen]
    omega
  have hcount : [addressAttribute typeXorMappedAddress a].length + (if mi then 1 else 0) +
      (if fp then 1 else 0) ≤ stunAttributeMaxCount := by
    rw [List.length_singleton]
    cases mi <;> cases fp <;> decide
  have hnonce : ∀ b ∈ [addressAttribute typeXorMappedAddress a], kindOf b.type = some .nonce →
      b.length ≤ stunMaxNonceLen := by
    intro b hb hkind
    rw [List.mem_singleton.mp hb] at hkind
    cases hkind
  refine ⟨_, _, appendStunAddressAttribute_new ha _ _ _,
    serializeStunPacket_size hmac crc32 rfl hmi hne has, ?_⟩
  intro buf hbuf
  have hout := serializeStunPacket_message hmac crc32
    (p := addressPacket typeXorMappedAddress messageType tx a) rfl rfl rfl rfl htx rfl hmi hne has
    (hsize ▸ hlt) hbuf
  have hdecode := deserialize_message messageType hmac crc32 has
    (password.getD []) mi fp htx htype hmi hne
    rfl rfl hlt hcount hnonce
  refine ⟨_, _, hout, ?_, hdecode, rfl⟩
  rw [addressPacket, List.flatMap_append, ← hattribute, message,
    bytesAt_frame htx (length_beBytes 2 _)]
  exact List.take_left' hlen

/-! ### The type that is not unmasked -/

variable {hmac crc32}

theorem bytesAt_bytesAt {buf : List UInt8} {i j m n : Nat} (h : j + m ≤ n) :
    bytesAt (bytesAt buf i n) j m = bytesAt buf (i + j) m := by
  rw [bytesAt, bytesAt, bytesAt, List.drop_take, List.take_take, List.drop_drop,
    Nat.min_eq_left (by omega)]

/-- The first attribute of an accepted message, if its type is known. -/
theorem head_of_deserialize {buf : List UInt8} {password : Option (List UInt8)}
    {packet : StunPacket} (hdecode : deserializeStunPacket hmac crc32 buf password = .ok packet)
    (hne : packet.attributeList ≠ []) (hknown : (headerAt buf stunHeaderLen).known = true) :
    ∃ b, copyAttribute hmac crc32 buf password (transactionIdOf buf) (headerAt buf stunHeaderLen) =
        .ok b ∧ packet.attributeList.head? = some b := by
  obtain ⟨-, -, -, found, as, -, hall, rfl⟩ := deserializeStunPacket_ok.mp hdecode
  by_cases hstop : stunHeaderLen < attributesEnd buf
  · rw [attributeHeaders, headers_of_lt _ _ _ hstop] at hall
    rw [knownCount_cons, if_pos hknown, List.take_succ_cons] at hall
    cases hall with
    | @cons _ b _ bs hb hall =>
      refine ⟨b, hb, ?_⟩
      have hb' : b.known = true := by
        rw [StunAttribute.known, (copyAttribute_type hb).1]
        exact hknown
      change (overwritten StunAttribute.known (b :: bs)).head? = some b
      rw [overwritten, if_pos hb']
      rfl
  · rw [attributeHeaders, headers_of_le _ _ _ (Nat.le_of_not_lt hstop)] at hall
    cases hall
    exact absurd rfl hne

theorem xorIpAddress_ne (ha : a.WellFormed) (tx : List UInt8) : xorIpAddress a tx ≠ a := by
  intro h
  have hport : xorBytes a.port (beBytes 2 (stunHeaderMagicCookie / 2 ^ 16)) = a.port :=
    congrArg KvsIpAddress.port h
  have hnum := congrArg beNat hport
  rw [beNat_xorBytes (by rw [ha.length_port, length_beBytes]),
    beNat_beBytes_of_lt (by decide)] at hnum
  have hzero := congrArg (beNat a.port ^^^ ·) hnum
  simp only [Nat.xor_self, ← Nat.xor_assoc, Nat.zero_xor] at hzero
  exact absurd hzero (by decide)

/-- An `XOR-PEER-ADDRESS` comes back with the mask. -/
theorem not_masksAddress_xorPeer {messageType : Nat} {password : Option (List UInt8)} {mi fp : Bool}
    (htx : tx.length = 12) (ha : a.WellFormed) :
    ¬ MasksAddress hmac crc32 typeXorPeerAddress messageType tx a password mi fp := by
  rintro ⟨p, size, -, -, hall⟩
  obtain ⟨out, packet, -, hbytes, hdecode, hhead⟩ :=
    hall (List.replicate size 0) List.length_replicate
  have hvalue := length_xorValue ha htx
  have hsmall := ipAddressLength_le a.family
  have htype : bytesAt out stunHeaderLen 2 = beBytes 2 typeXorPeerAddress := by
    have h := congrArg (bytesAt · 0 2) hbytes
    simp only [bytesAt_bytesAt (show 0 + 2 ≤ 4 + (4 + ipAddressLength a.family) by omega)] at h
    exact h
  have hlength : bytesAt out (stunHeaderLen + 2) 2 = beBytes 2 (4 + ipAddressLength a.family) := by
    have h := congrArg (bytesAt · 2 2) hbytes
    simp only [bytesAt_bytesAt (show 2 + 2 ≤ 4 + (4 + ipAddressLength a.family) by omega)] at h
    exact h
  have hmasked : bytesAt out (stunHeaderLen + 4) (4 + ipAddressLength a.family) =
      xorValue tx a := by
    have h := congrArg (bytesAt · 4 (4 + ipAddressLength a.family)) hbytes
    simp only [bytesAt_bytesAt (Nat.le_refl (4 + (4 + ipAddressLength a.family)))] at h
    rw [h]
    exact List.take_of_length_le (Nat.le_of_eq hvalue)
  have hheader : headerAt out stunHeaderLen =
      ⟨stunHeaderLen, typeXorPeerAddress, 4 + ipAddressLength a.family⟩ := by
    rw [headerAt, htype, hlength, beNat_beBytes_of_lt (by decide), beNat_beBytes_of_lt (by omega)]
  obtain ⟨b, hcopy, hb⟩ := head_of_deserialize hdecode (by
    intro hnil
    simp [hnil] at hhead) (by
    rw [hheader]
    rfl)
  obtain rfl : addressAttribute typeXorPeerAddress a = b := Option.some.inj (hhead.symm.trans hb)
  rw [hheader] at hcopy
  obtain ⟨v, hv, hattribute⟩ := copyAttribute_value hcopy rfl
  obtain rfl : AttributeValue.address a = v := congrArg StunAttribute.value hattribute
  rw [valueAt] at hv
  cases hfield : fieldAt out (stunHeaderLen + 4) (4 + ipAddressLength a.family) with
  | error e => simp [hfield, Except.map] at hv
  | ok bytes =>
    -- the decoder reads the masked address
    rw [(fieldAt_ok_iff.mp hfield).2, hmasked, ← addressBytes_xorIpAddress ha htx] at hfield
    rw [hfield] at hv
    have hread : (ipAddressOf typeXorPeerAddress (transactionIdOf out)
        (addressBytes (xorIpAddress a tx))) = xorIpAddress a tx := (ha.xorIpAddress tx).read
    have haddress : AttributeValue.address (ipAddressOf typeXorPeerAddress (transactionIdOf out)
        (addressBytes (xorIpAddress a tx))) = .address a := Except.ok.inj hv
    rw [hread] at haddress
    exact xorIpAddress_ne ha tx (AttributeValue.address.inj haddress)

/-! ### The type that is not written -/

/-- The encoder passes over an `XOR-RELAYED-ADDRESS`. -/
theorem serializeStunPacket_xorRelayed (messageType : Nat) (tx : List UInt8) (a : KvsIpAddress)
    (password : Option (List UInt8)) (mi fp : Bool) (buffer : Option (List UInt8)) :
    serializeStunPacket hmac crc32 (addressPacket typeXorRelayedAddress messageType tx a) password
      mi fp
        buffer =
      serializeStunPacket hmac crc32 (createStunPacket messageType tx) password mi fp buffer := by
  have hrun : ∀ (key : List UInt8) (w : Writer),
      w.run hmac crc32 (addressPacket typeXorRelayedAddress messageType tx a) key mi fp =
        w.run hmac crc32 (createStunPacket messageType tx) key mi fp := by
    intro key w
    rfl
  cases buffer with
  | none => simp only [serializeStunPacket, Writer.start, hrun]; rfl
  | some buf =>
    simp only [serializeStunPacket, Writer.start, hrun]
    rfl

theorem take_generatedList_ne (key : List UInt8) (type : Nat) (tx body : List UInt8)
    (mi fp : Bool) :
    ((generatedList hmac crc32 key type tx body mi fp).flatMap (encodeAttribute tx)).take 2 ≠
      beBytes 2 typeXorRelayedAddress := by
  cases mi with
  | true =>
    have htake : ((generatedList hmac crc32 key type tx body true fp).flatMap
        (encodeAttribute tx)).take 2 =
      beBytes 2 typeMessageIntegrity := rfl
    rw [htake]
    decide
  | false =>
    cases fp with
    | true =>
      have htake : ((generatedList hmac crc32 key type tx body false true).flatMap
        (encodeAttribute tx)).take 2 = beBytes 2 typeFingerprint := rfl
      rw [htake]
      decide
    | false =>
      intro h
      cases h

theorem not_masksAddress_xorRelayed {messageType : Nat} {password : Option (List UInt8)}
    {mi fp : Bool} (htx : tx.length = 12) (ha : a.WellFormed) (hmi : mi = true → password ≠ none)
    (hne : password ≠ some []) :
    ¬ MasksAddress hmac crc32 typeXorRelayedAddress messageType tx a password mi fp := by
  rintro ⟨p, size, hp, hsize, hall⟩
  obtain rfl := Except.ok.inj (hp.symm.trans (appendStunAddressAttribute_new ha _ _ _))
  have has : ∀ b ∈ (createStunPacket messageType tx).attributeList, ∃ k, Decodable
      (createStunPacket messageType tx).header.transactionId b k := by
    intro b hb
    cases hb
  rw [serializeStunPacket_xorRelayed, serializeStunPacket_size hmac crc32 rfl hmi hne has] at hsize
  obtain rfl : encodedSize (createStunPacket messageType tx) + generatedSize mi fp = size :=
    congrArg Prod.fst (Except.ok.inj hsize)
  obtain ⟨out, packet, hout, hbytes, -⟩ := hall (List.replicate _ 0) List.length_replicate
  have hlt : encodedSize (createStunPacket messageType tx) + generatedSize mi fp < 2 ^ 16 := by
    change 20 + generatedSize mi fp < 2 ^ 16
    cases mi <;> cases fp <;> decide
  rw [serializeStunPacket_xorRelayed, serializeStunPacket_frame hmac crc32 htx rfl hmi hne has hlt
    List.length_replicate] at hout
  obtain rfl := congrArg Prod.snd (Except.ok.inj hout)
  have htype := congrArg (bytesAt · 0 2) hbytes
  simp only [bytesAt_bytesAt (show 0 + 2 ≤ 4 + (4 + ipAddressLength a.family) by omega)] at htype
  change bytesAt _ stunHeaderLen 2 = beBytes 2 typeXorRelayedAddress at htype
  exact take_generatedList_ne _ _ _ _ _ _
    ((bytesAt_frame htx (length_beBytes 2 _) _ 2).symm.trans htype)

/-- **The codec masks an address** for one of the three types. -/
theorem masksAddress_iff {type messageType : Nat} {password : Option (List UInt8)} {mi fp : Bool}
    (hxor : type ∈ xorAddressTypes) (htype : messageType < 2 ^ 16) (htx : tx.length = 12)
    (ha : a.WellFormed) (hmi : mi = true → password ≠ none) (hne : password ≠ some []) :
    MasksAddress hmac crc32 type messageType tx a password mi fp ↔ type = typeXorMappedAddress := by
  constructor
  · intro h
    have hcases : type = typeXorMappedAddress ∨ type = typeXorPeerAddress ∨
      type = typeXorRelayedAddress := by simpa [xorAddressTypes] using hxor
    rcases hcases with rfl | rfl | rfl
    · rfl
    · exact absurd h (not_masksAddress_xorPeer htx ha)
    · exact absurd h (not_masksAddress_xorRelayed htx ha hmi hne)
  · rintro rfl
    exact masksAddress_xorMapped hmac crc32 htype htx ha hmi hne

end

theorem length_zeros : (List.replicate stunHmacValueLen (0 : UInt8)).length = stunHmacValueLen :=
  List.length_replicate

def zeroDigest : Digest := ⟨List.replicate stunHmacValueLen 0, length_zeros⟩

def loopbackAddress : KvsIpAddress :=
  ⟨familyIpv6, [0x12, 0x34], List.replicate 15 0 ++ [1]⟩

theorem wellFormed_loopbackAddress : loopbackAddress.WellFormed := ⟨.inr rfl, rfl, rfl⟩

theorem masksAddress_loopback :
    MasksAddress (fun _ _ => zeroDigest) (fun _ => 0) typeXorMappedAddress 0x0101
    (List.replicate 12 7)
      loopbackAddress (some [112, 119]) true true :=
  (masksAddress_iff (by decide) (by decide) List.length_replicate wellFormed_loopbackAddress
  (by decide)
    (by decide)).mpr rfl

theorem not_masksAddress_peer :
    ¬ MasksAddress (fun _ _ => zeroDigest) (fun _ => 0) typeXorPeerAddress 0x0008
    (List.replicate 12 7)
      ⟨familyIpv4, [0x12, 0x34], [192, 168, 0, 1]⟩ none false false :=
  not_masksAddress_xorPeer List.length_replicate ⟨.inl rfl, rfl, rfl⟩

end KvsWebrtc.Stun
