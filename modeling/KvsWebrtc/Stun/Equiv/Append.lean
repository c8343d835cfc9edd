import KvsWebrtc.Stun.Equiv.Deserialize
import KvsWebrtc.Stun.Serialize

/-!
# Packets that are built

A packet that is built has the attributes of the calls, in order (`appendAll_ok`), and each of them
is `Decodable`: what the encoder writes for it stands between whatever comes before and after, and
the decoder reads the same attribute there (`AppendCall.decodable`).
-/

namespace KvsWebrtc.Stun

/-! ### Building a packet -/

def AppendCall.attribute (c : AppendCall) : StunAttribute :=
  match c with
  | .mappedAddress a => ⟨typeMappedAddress, 4 + ipAddressLength a.1.family, .address a.1⟩
  | .xorMappedAddress a => ⟨typeXorMappedAddress, 4 + ipAddressLength a.1.family, .address a.1⟩
  | .username s => bytesAttribute typeUsername (boundedString s stunMaxUsernameLen)
  | .priority n => ⟨typePriority, 4, .number n.toNat⟩
  | .useCandidate => ⟨typeUseCandidate, 0, .headerOnly⟩
  | .lifetime n => ⟨typeLifetime, 4, .number n.toNat⟩
  | .changeRequest n => ⟨typeChangeRequest, 4, .number n.toNat⟩
  | .requestedTransport n => ⟨typeRequestedTransport, 4, .fourBytes [n, 0, 0, 0]⟩
  | .realm s => bytesAttribute typeRealm (boundedString s stunMaxRealmLen)
  | .nonce b => bytesAttribute typeNonce b
  | .iceControlled n => ⟨typeIceControlled, 8, .tieBreaker n.toNat⟩
  | .iceControlling n => ⟨typeIceControlling, 8, .tieBreaker n.toNat⟩
  | .data b => bytesAttribute typeData b
  | .channelNumber n => ⟨typeChannelNumber, 4, .channelNumber n.toNat⟩

/-- `q` is `p` with one more attribute and another length. -/
structure Appended (p q : StunPacket) (a : StunAttribute) : Prop where
  stunMessageType : q.header.stunMessageType = p.header.stunMessageType
  magicCookie : q.header.magicCookie = p.header.magicCookie
  transactionId : q.header.transactionId = p.header.transactionId
  attributeList : q.attributeList = p.attributeList ++ [a]

theorem appendAttribute_ok {p q : StunPacket} {a : StunAttribute} {size written encoded : Nat}
    (h : appendAttribute p a size written encoded = .ok q) :
    Appended p q a ∧ written ≤ stunPacketAllocationSize := by
  rw [appendAttribute] at h
  cases hfirst : getFirstAvailableStunAttribute p with
  | error e => rw [hfirst] at h; cases h
  | ok offset =>
    simp only [hfirst] at h
    split_ifs at h with hsize hroom
    rw [← Except.ok.inj h]
    exact ⟨⟨rfl, rfl, rfl, rfl⟩, le_trans (Nat.le_add_left _ _) hroom.2⟩

/-- The bytes that a call copies, as far as their number is that of the call. -/
def AppendCall.copied (c : AppendCall) : List UInt8 :=
  match c with
  | .username s => boundedString s stunMaxUsernameLen
  | .realm s => boundedString s stunMaxRealmLen
  | .nonce b => b
  | .data b => b
  | _ => []

/-- **A call** appends its attribute, and its bytes have had their place in the allocation. -/
theorem AppendCall.run_ok {c : AppendCall} {p q : StunPacket} (h : c.run p = .ok q) :
    Appended p q c.attribute ∧ c.copied.length ≤ stunPacketAllocationSize := by
  have hbytes : ∀ {type : Nat} {b : List UInt8}, appendBytes p type b = .ok q →
      Appended p q (bytesAttribute type b) ∧
        b.length ≤ stunPacketAllocationSize := by
    intro type b hb
    obtain ⟨happ, hle⟩ := appendAttribute_ok hb
    exact ⟨happ, le_trans (Nat.le_add_left _ _) hle⟩
  have hice : ∀ {type : Nat} {n : UInt64}, appendStunIceControllAttribute p type n = .ok q →
      Appended p q ⟨type, 8, .tieBreaker n.toNat⟩ := by
    intro type n hn
    rw [appendStunIceControllAttribute] at hn
    split_ifs at hn
    exact (appendAttribute_ok hn).1
  cases c with
  | username s => exact hbytes h
  | realm s => exact hbytes h
  | nonce b => exact hbytes h
  | data b => exact hbytes h
  | iceControlled n => exact ⟨hice h, Nat.zero_le _⟩
  | iceControlling n => exact ⟨hice h, Nat.zero_le _⟩
  | _ => exact ⟨(appendAttribute_ok h).1, Nat.zero_le _⟩

/-- **All the calls.** -/
theorem appendAll_ok {calls : List AppendCall} {p q : StunPacket} (h : appendAll calls p = .ok q) :
    q.header.stunMessageType = p.header.stunMessageType ∧
      q.header.magicCookie = p.header.magicCookie ∧
      q.header.transactionId = p.header.transactionId ∧
      q.attributeList = p.attributeList ++ calls.map AppendCall.attribute ∧
      ∀ c ∈ calls, c.copied.length ≤ stunPacketAllocationSize := by
  induction calls generalizing p with
  | nil =>
    rw [← Except.ok.inj h]
    exact ⟨rfl, rfl, rfl, (List.append_nil _).symm, fun c hc => absurd hc List.not_mem_nil⟩
  | cons c cs ih =>
    rw [appendAll] at h
    cases hrun : c.run p with
    | error e => rw [hrun] at h; cases h
    | ok p' =>
      rw [hrun] at h
      obtain ⟨happ, hle⟩ := AppendCall.run_ok hrun
      obtain ⟨htype, hcookie, htx, hlist, hles⟩ := ih h
      refine ⟨htype.trans happ.stunMessageType, hcookie.trans happ.magicCookie,
        htx.trans happ.transactionId, ?_, ?_⟩
      · rw [hlist, happ.attributeList, List.append_assoc]
        rfl
      · intro c' hc'
        rcases List.mem_cons.mp hc' with rfl | hc'
        · exact hle
        · exact hles c' hc'

/-! ### One attribute -/

/-- The header of an encoded attribute tells where the attribute ends. -/
structure Framed (tx : List UInt8) (a : StunAttribute) : Prop where
  type_lt : a.type < 2 ^ 16
  length_lt : a.length < 2 ^ 16
  encodedLength : encodedLength a = a.length
  length_value : (encodeValue tx a.type a.value).length = roundUp16 a.length

section

variable {tx : List UInt8} {a : StunAttribute}

theorem length_encodeAttribute (tx : List UInt8) (a : StunAttribute) :
    (encodeAttribute tx a).length = 4 + (encodeValue tx a.type a.value).length := by
  rw [encodeAttribute, List.length_append, List.length_append, length_beBytes, length_beBytes]

theorem headerAt_encodeAttribute (h : Framed tx a) (pre post : List UInt8) :
    headerAt (pre ++ (encodeAttribute tx a ++ post)) pre.length =
      ⟨pre.length, a.type, a.length⟩ := by
  have htype : bytesAt (pre ++ (encodeAttribute tx a ++ post)) (pre.length + 0) 2 =
      beBytes 2 a.type := by
    rw [bytesAt_append, bytesAt_of_le]
    · exact List.take_left' (length_beBytes 2 _)
    · rw [length_encodeAttribute]
      omega
  have hlength : bytesAt (pre ++ (encodeAttribute tx a ++ post)) (pre.length + 2) 2 =
      beBytes 2 a.length := by
    rw [bytesAt_append, bytesAt_of_le, ← h.encodedLength]
    · rfl
    · rw [length_encodeAttribute]
      omega
  rw [headerAt]
  congr 1
  · rw [Nat.add_zero] at htype
    rw [htype, beNat_beBytes_of_lt h.type_lt]
  · rw [hlength, beNat_beBytes_of_lt h.length_lt]

theorem fieldAt_encodeAttribute (tx : List UInt8) (a : StunAttribute) (pre post : List UInt8)
    {n : Nat} (hn : n ≤ (encodeValue tx a.type a.value).length) :
    fieldAt (pre ++ (encodeAttribute tx a ++ post)) (pre.length + 4) n =
      .ok ((encodeValue tx a.type a.value).take n) := by
  rw [fieldAt_append]
  · rfl
  · rw [length_encodeAttribute]
    omega

end

/-- No message integrity and no fingerprint has been seen. -/
def Found.Clear (found : Found) : Prop :=
  found.fingerprintFound = false ∧ found.messageIntegrityFound = false

/-- **An attribute that the decoder gives back**, with its case in the switch statements: wherever
it stands, the decoder reads its value, and the checks of the first loop let it pass unless it is a
nonce that is too long. -/
structure Decodable (tx : List UInt8) (a : StunAttribute) (k : AttributeKind) : Prop
    extends Framed tx a where
  kind : kindOf a.type = some k
  not_relayed : a.type ≠ typeXorRelayedAddress
  not_verifying : ¬ k.Verifying
  not_errorCode : ∀ code paddedLength phrase, a.value ≠ .errorCode code paddedLength phrase
  value : ∀ pre post, valueAt roundUp16 (pre ++ (encodeAttribute tx a ++ post)) tx
    ⟨pre.length, a.type, a.length⟩ k = .ok a.value
  check : ∀ pre post (found : Found), found.Clear → (k = .nonce → a.length ≤ stunMaxNonceLen) →
    found.check (pre ++ (encodeAttribute tx a ++ post)) ⟨pre.length, a.type, a.length⟩ k = .ok ()

theorem Found.Clear.checkNotAfter {found : Found} (h : found.Clear) :
    found.checkNotAfter = .ok () := by
  rw [Found.checkNotAfter, h.1, h.2]
  exact if_neg (by decide)

theorem Found.Clear.checkLength {found : Found} (h : found.Clear) {ok : Bool} (hok : ok)
    (status : Status) : found.checkLength ok status = .ok () := by
  rw [Found.checkLength, if_pos hok, h.checkNotAfter]

theorem roundUp16_of_copied {n : Nat} (h : n ≤ stunPacketAllocationSize) :
    roundUp16 n = roundUp n ∧ n ≤ roundUp n ∧ roundUp n < 2 ^ 16 := by
  have hle : n ≤ 2048 := h
  have hround : roundUp n = (n + 3) / 4 * 4 := rfl
  refine ⟨roundUp16_of_le ?_, ?_, ?_⟩
  · show n ≤ maxPaddableLen
    rw [maxPaddableLen]
    omega
  · omega
  · omega

theorem length_padded {b : List UInt8} (h : b.length ≤ stunPacketAllocationSize) :
    (padded b).length = roundUp16 b.length := by
  obtain ⟨h16, hle, -⟩ := roundUp16_of_copied h
  rw [padded, List.length_append, List.length_replicate, h16]
  omega

/-- A user name, realm, nonce or data. -/
theorem decodable_bytes (tx : List UInt8) {type : Nat} {k : AttributeKind} {b : List UInt8}
    (hb : b.length ≤ stunPacketAllocationSize) (htype : type < 2 ^ 16)
    (hkind : kindOf type = some k) (hk : k = .username ∨ k = .realm ∨ k = .nonce ∨ k = .data)
    (husername : k = .username → b.length ≤ stunMaxUsernameLen)
    (hrealm : k = .realm → b.length ≤ stunMaxRealmLen) :
    Decodable tx (bytesAttribute type b) k where
  type_lt := htype
  length_lt := by
    have hle : b.length ≤ 2048 := hb
    show b.length < 2 ^ 16
    omega
  encodedLength := rfl
  length_value := length_padded hb
  kind := hkind
  not_relayed := by
    rintro rfl
    rcases hk with rfl | rfl | rfl | rfl <;> cases hkind
  not_verifying := by
    rcases hk with rfl | rfl | rfl | rfl <;> simp [AttributeKind.Verifying]
  not_errorCode := by intro _ _ _ h; cases h
  value := by
    intro pre post
    have hfield := fieldAt_encodeAttribute tx (bytesAttribute type b) pre post
      (length_padded hb).ge
    -- the bytes are read with their padding
    have htake : (padded b).take (roundUp16 b.length) = padded b :=
      List.take_of_length_le (length_padded hb).le
    have hval : ∀ buf : List UInt8, fieldAt buf (pre.length + 4) (roundUp16 b.length) = .ok
        (padded b) →
        valueAt roundUp16 buf tx ⟨pre.length, type, b.length⟩ k =
          .ok (.bytes (roundUp16 b.length) (padded b)) := by
      intro buf hbuf
      rcases hk with rfl | rfl | rfl | rfl <;> rw [valueAt, hbuf] <;> rfl
    exact hval _ (hfield.trans (congrArg Except.ok htake))
  check := by
    intro pre post found hclear hnonce
    rcases hk with rfl | rfl | rfl | rfl
    · exact hclear.checkLength (decide_eq_true (husername rfl)) _
    · exact hclear.checkLength (decide_eq_true (hrealm rfl)) _
    · exact hclear.checkLength (decide_eq_true (hnonce rfl)) _
    · exact hclear.checkNotAfter

theorem decodable_number (tx : List UInt8) {type : Nat} {k : AttributeKind} (n : UInt32)
    (htype : type < 2 ^ 16) (hkind : kindOf type = some k)
    (hk : k = .priority ∨ k = .lifetime ∨ k = .changeRequest) :
    Decodable tx ⟨type, 4, .number n.toNat⟩ k where
  type_lt := htype
  length_lt := by show 4 < 2 ^ 16; decide
  encodedLength := rfl
  length_value := by
    show (beBytes 4 n.toNat).length = roundUp16 4
    rw [length_beBytes]
    rfl
  kind := hkind
  not_relayed := by
    rintro rfl
    rcases hk with rfl | rfl | rfl <;> cases hkind
  not_verifying := by rcases hk with rfl | rfl | rfl <;> simp [AttributeKind.Verifying]
  not_errorCode := by intro _ _ _ h; cases h
  value := by
    intro pre post
    have hfield := fieldAt_encodeAttribute tx ⟨type, 4, .number n.toNat⟩ pre post (n := 4)
      (length_beBytes 4 _).ge
    have hread : beNat ((beBytes 4 n.toNat).take 4) = n.toNat := by
      rw [List.take_of_length_le (length_beBytes 4 _).le]
      exact beNat_beBytes_of_lt n.toNat_lt
    rcases hk with rfl | rfl | rfl <;> rw [valueAt, hfield] <;>
      exact congrArg (fun m => Except.ok (AttributeValue.number m)) hread
  check := by
    intro pre post found hclear _
    rcases hk with rfl | rfl | rfl <;> exact hclear.checkLength rfl _

theorem decodable_tieBreaker (tx : List UInt8) {type : Nat} (n : UInt64) (htype : type < 2 ^ 16)
    (hkind : kindOf type = some .iceControl) :
    Decodable tx ⟨type, 8, .tieBreaker n.toNat⟩ .iceControl where
  type_lt := htype
  length_lt := by show 8 < 2 ^ 16; decide
  encodedLength := rfl
  length_value := by
    show (beBytes 8 n.toNat).length = roundUp16 8
    rw [length_beBytes]
    rfl
  kind := hkind
  not_relayed := by rintro rfl; cases hkind
  not_verifying := by simp [AttributeKind.Verifying]
  not_errorCode := by intro _ _ _ h; cases h
  value := by
    intro pre post
    have hfield := fieldAt_encodeAttribute tx ⟨type, 8, .tieBreaker n.toNat⟩ pre post (n := 8)
      (length_beBytes 8 _).ge
    have hread : beNat ((beBytes 8 n.toNat).take 8) = n.toNat := by
      rw [List.take_of_length_le (length_beBytes 8 _).le]
      exact beNat_beBytes_of_lt n.toNat_lt
    rw [valueAt, hfield]
    exact congrArg (fun m => Except.ok (AttributeValue.tieBreaker m)) hread
  check := by
    intro pre post found hclear _
    exact hclear.checkLength rfl _

theorem decodable_channelNumber (tx : List UInt8) (n : UInt16) :
    Decodable tx ⟨typeChannelNumber, 4, .channelNumber n.toNat⟩ .channelNumber where
  type_lt := by show typeChannelNumber < 2 ^ 16; decide
  length_lt := by show 4 < 2 ^ 16; decide
  encodedLength := rfl
  length_value := by
    show (beBytes 2 n.toNat ++ beBytes 2 0).length = roundUp16 4
    rw [List.length_append, length_beBytes, length_beBytes]
    rfl
  kind := rfl
  not_relayed := by show typeChannelNumber ≠ typeXorRelayedAddress; decide
  not_verifying := by simp [AttributeKind.Verifying]
  not_errorCode := by intro _ _ _ h; cases h
  value := by
    intro pre post
    have hle : 2 ≤ (beBytes 2 n.toNat ++ beBytes 2 0).length := by
      rw [List.length_append, length_beBytes, length_beBytes]
      omega
    have hfield := fieldAt_encodeAttribute tx ⟨typeChannelNumber, 4,
      .channelNumber n.toNat⟩ pre post
      hle
    have hread : beNat ((beBytes 2 n.toNat ++ beBytes 2 0).take 2) = n.toNat := by
      rw [List.take_left' (length_beBytes 2 _)]
      exact beNat_beBytes_of_lt n.toNat_lt
    rw [valueAt, hfield]
    exact congrArg (fun m => Except.ok (AttributeValue.channelNumber m)) hread
  check := by
    intro pre post found hclear _
    exact hclear.checkLength rfl _

theorem decodable_requestedTransport (tx : List UInt8) (n : UInt8) :
    Decodable tx ⟨typeRequestedTransport, 4, .fourBytes [n, 0, 0, 0]⟩ .requestedTransport where
  type_lt := by show typeRequestedTransport < 2 ^ 16; decide
  length_lt := by show 4 < 2 ^ 16; decide
  encodedLength := rfl
  length_value := by show 4 = roundUp16 4; rfl
  kind := rfl
  not_relayed := by show typeRequestedTransport ≠ typeXorRelayedAddress; decide
  not_verifying := by simp [AttributeKind.Verifying]
  not_errorCode := by intro _ _ _ h; cases h
  value := by
    intro pre post
    rw [valueAt, fieldAt_encodeAttribute tx ⟨typeRequestedTransport, 4,
      .fourBytes [n, 0, 0, 0]⟩ pre post]
    · rfl
    · exact le_refl 4
  check := by
    intro pre post found hclear _
    exact hclear.checkLength rfl _

theorem decodable_useCandidate (tx : List UInt8) :
    Decodable tx ⟨typeUseCandidate, 0, .headerOnly⟩ .flag where
  type_lt := by decide
  length_lt := by show 0 < 2 ^ 16; decide
  encodedLength := rfl
  length_value := rfl
  kind := rfl
  not_relayed := by decide
  not_verifying := by simp [AttributeKind.Verifying]
  not_errorCode := by intro _ _ _ h; cases h
  value := by
    intro pre post
    rfl
  check := by
    intro pre post found hclear _
    exact hclear.checkLength rfl _

/-! ### Addresses -/

theorem length_xorBytes (b mask : List UInt8) : (xorBytes b mask).length = b.length := by
  induction b generalizing mask with
  | nil => rfl
  | cons x b ih =>
    cases mask with
    | nil => rfl
    | cons m mask => rw [xorBytes, List.length_cons, ih, List.length_cons]

theorem xorBytes_xorBytes (b mask : List UInt8) : xorBytes (xorBytes b mask) mask = b := by
  induction b generalizing mask with
  | nil => rfl
  | cons x b ih =>
    cases mask with
    | nil => rfl
    | cons m mask => rw [xorBytes, xorBytes, ih, UInt8.xor_assoc, UInt8.xor_self, UInt8.xor_zero]

theorem xorIpAddress_xorIpAddress (a : KvsIpAddress) (tx : List UInt8) :
    xorIpAddress (xorIpAddress a tx) tx = a := by
  obtain ⟨family, port, address⟩ := a
  -- the family, and with it the mask, stays the same
  exact congrArg₂ (KvsIpAddress.mk family) (xorBytes_xorBytes port _) (xorBytes_xorBytes address _)

theorem KvsIpAddress.WellFormed.xorIpAddress {a : KvsIpAddress} (h : a.WellFormed)
    (tx : List UInt8) :
    (xorIpAddress a tx).WellFormed where
  family := h.family
  length_port := (length_xorBytes _ _).trans h.length_port
  length_address := (length_xorBytes _ _).trans h.length_address

def addressBytes (a : KvsIpAddress) : List UInt8 := beBytes 2 a.family ++ a.port ++ a.address

theorem KvsIpAddress.WellFormed.length_addressBytes {a : KvsIpAddress} (h : a.WellFormed) :
    (addressBytes a).length = 4 + ipAddressLength a.family := by
  rw [addressBytes, List.length_append, List.length_append, length_beBytes, h.length_port,
    h.length_address]

theorem KvsIpAddress.WellFormed.beNat_family {a : KvsIpAddress} (h : a.WellFormed) :
    beNat ((addressBytes a).take 2) % 2 ^ 8 = a.family := by
  rw [addressBytes, List.append_assoc, List.take_left' (length_beBytes 2 _), beNat_beBytes]
  rcases h.family with hf | hf
  · rw [hf]; rfl
  · rw [hf]; rfl

/-- The address that the decoder reads before it looks at the type. -/
theorem KvsIpAddress.WellFormed.read {a : KvsIpAddress} (h : a.WellFormed) :
    (⟨beNat ((addressBytes a).take 2) % 2 ^ 8, bytesAt (addressBytes a) 2 2,
      (addressBytes a).drop 4⟩ : KvsIpAddress) = a := by
  have hport : bytesAt (addressBytes a) 2 2 = a.port := by
    rw [addressBytes, List.append_assoc, bytesAt, List.drop_left' (length_beBytes 2 _),
      List.take_left' h.length_port]
  have haddress : (addressBytes a).drop 4 = a.address := by
    apply List.drop_left'
    rw [List.length_append, length_beBytes, h.length_port]
  rw [h.beNat_family, hport, haddress]

def encodedAddress (tx : List UInt8) (type : Nat) (a : KvsIpAddress) : KvsIpAddress :=
  if type = typeXorMappedAddress then xorIpAddress a tx else a

theorem encodedAddress_family (tx : List UInt8) (type : Nat) (a : KvsIpAddress) :
    (encodedAddress tx type a).family = a.family := by
  rw [encodedAddress]
  split_ifs
  · rfl
  · rfl

theorem KvsIpAddress.WellFormed.encodedAddress {a : KvsIpAddress} (h : a.WellFormed)
    (tx : List UInt8) (type : Nat) : (encodedAddress tx type a).WellFormed := by
  rw [Stun.encodedAddress]
  split_ifs
  · exact h.xorIpAddress tx
  · exact h

theorem decodable_address (tx : List UInt8) {type : Nat} {a : KvsIpAddress} (ha : a.WellFormed)
    (htype : type = typeMappedAddress ∨ type = typeXorMappedAddress) :
    Decodable tx ⟨type, 4 + ipAddressLength a.family, .address a⟩ .address := by
  have hw : (encodedAddress tx type a).WellFormed := ha.encodedAddress tx type
  have hencode : encodeValue tx type (.address a) = addressBytes (encodedAddress tx type a) := by
    rcases htype with rfl | rfl
    · rfl
    · rfl
  have hlength : (encodeValue tx type (.address a)).length = 4 + ipAddressLength a.family := by
    rw [hencode, hw.length_addressBytes, encodedAddress_family]
  have hround : roundUp16 (4 + ipAddressLength a.family) = 4 + ipAddressLength a.family ∧
      4 + ipAddressLength a.family < 2 ^ 16 := by
    rcases ha.family with hf | hf
    · rw [hf]; decide
    · rw [hf]; decide
  -- the mask is taken off by the same operation
  have hdecode : ipAddressOf type tx (addressBytes (encodedAddress tx type a)) = a := by
    have hread := hw.read
    rcases htype with rfl | rfl
    · exact hread
    · exact (congrArg (xorIpAddress · tx) hread).trans (xorIpAddress_xorIpAddress a tx)
  constructor
  · constructor
    · rcases htype with rfl | rfl
      · exact (by decide : typeMappedAddress < 2 ^ 16)
      · exact (by decide : typeXorMappedAddress < 2 ^ 16)
    · exact hround.2
    · rfl
    · exact hlength.trans hround.1.symm
  · rcases htype with rfl | rfl
    · rfl
    · rfl
  · rcases htype with rfl | rfl
    · exact (by decide : typeMappedAddress ≠ typeXorRelayedAddress)
    · exact (by decide : typeXorMappedAddress ≠ typeXorRelayedAddress)
  · rintro (h | h) <;> cases h
  · intro _ _ _ h
    cases h
  · intro pre post
    rw [valueAt, fieldAt_encodeAttribute tx ⟨type, 4 + ipAddressLength a.family,
      .address a⟩ pre post
      hlength.ge]
    show Except.ok (AttributeValue.address (ipAddressOf type tx
        (List.take _ (encodeValue tx type _)))) = _
    rw [List.take_of_length_le hlength.le, hencode, hdecode]
  · intro pre post found hclear _
    have hle : 2 ≤ (encodeValue tx type (.address a)).length := by omega
    rw [Found.check, fieldAt_encodeAttribute tx ⟨type, 4 + ipAddressLength a.family,
      .address a⟩ pre post
      hle]
    apply hclear.checkLength
    show (4 + ipAddressLength a.family == 4 + ipAddressLength
      (beNat ((encodeValue tx type (.address a)).take 2) % 2 ^ 8)) = true
    rw [hencode, hw.beNat_family, encodedAddress_family]
    exact beq_self_eq_true _

/-! ### The attributes of a packet that is built -/

def AppendCall.kind (c : AppendCall) : AttributeKind :=
  match c with
  | .mappedAddress _ | .xorMappedAddress _ => .address
  | .username _ => .username
  | .priority _ => .priority
  | .useCandidate => .flag
  | .lifetime _ => .lifetime
  | .changeRequest _ => .changeRequest
  | .requestedTransport _ => .requestedTransport
  | .realm _ => .realm
  | .nonce _ => .nonce
  | .iceControlled _ | .iceControlling _ => .iceControl
  | .data _ => .data
  | .channelNumber _ => .channelNumber

theorem length_boundedString (s : List UInt8) (max : Nat) : (boundedString s max).length ≤ max :=
  List.length_take_le _ _

/-- **What a call appends is decodable.** -/
theorem AppendCall.decodable (tx : List UInt8) (c : AppendCall)
    (hc : c.copied.length ≤ stunPacketAllocationSize) : Decodable tx c.attribute c.kind := by
  cases c with
  | mappedAddress a => exact decodable_address tx a.2 (.inl rfl)
  | xorMappedAddress a => exact decodable_address tx a.2 (.inr rfl)
  | username s =>
    exact decodable_bytes tx hc (by decide) rfl (.inl rfl) (fun _ => length_boundedString _ _)
      (fun h => by cases h)
  | realm s =>
    exact decodable_bytes tx hc (by decide) rfl (.inr (.inl rfl)) (fun h => by cases h)
      (fun _ => length_boundedString _ _)
  | nonce b =>
    exact decodable_bytes tx hc (by decide) rfl (.inr (.inr (.inl rfl))) (fun h => by cases h)
      (fun h => by cases h)
  | data b =>
    exact decodable_bytes tx hc (by decide) rfl (.inr (.inr (.inr rfl))) (fun h => by cases h)
      (fun h => by cases h)
  | priority n => exact decodable_number tx n (by decide) rfl (.inl rfl)
  | lifetime n => exact decodable_number tx n (by decide) rfl (.inr (.inl rfl))
  | changeRequest n => exact decodable_number tx n (by decide) rfl (.inr (.inr rfl))
  | iceControlled n => exact decodable_tieBreaker tx n (by decide) rfl
  | iceControlling n => exact decodable_tieBreaker tx n (by decide) rfl
  | useCandidate => exact decodable_useCandidate tx
  | requestedTransport n => exact decodable_requestedTransport tx n
  | channelNumber n => exact decodable_channelNumber tx n

end KvsWebrtc.Stun
