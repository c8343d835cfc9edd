import KvsWebrtc.Stun.Equiv.Append

/-!
# Encoded STUN packets

A message is a `frame`: the type, a length, the cookie, the transaction id and the attributes.  The
encoder fills a frame from the left, and changes its length before each checksum
(`serializeStunPacket_frame`).
-/

namespace KvsWebrtc.Stun

/-! ### Writing the attributes -/

/-- No message integrity and no fingerprint was among the attributes. -/
def Writer.Clear (w : Writer) : Prop := w.fingerprintFound = false ∧ w.messageIntegrityFound = false

def Writer.Fits (w : Writer) : Prop := ∀ buf pos, w.buffer = some (buf, pos) → pos ≤ buf.length

theorem length_overlay {buf b : List UInt8} {pos : Nat} (h : pos + b.length ≤ buf.length) :
    (overlay buf pos b).length = buf.length := by
  rw [overlay, List.length_append, List.length_append, List.length_take, List.length_drop]
  omega

theorem overlay_append (pre rest b : List UInt8) :
    overlay (pre ++ rest) pre.length b = pre ++ b ++ rest.drop b.length := by
  rw [overlay, List.take_left, List.drop_length_add_append]

theorem overlay_overlay {buf b c : List UInt8} {pos : Nat} (hpos : pos ≤ buf.length) :
    overlay (overlay buf pos b) (pos + b.length) c = overlay buf pos (b ++ c) := by
  have hlen : (buf.take pos ++ b).length = pos + b.length := by
    rw [List.length_append, List.length_take, Nat.min_eq_left hpos]
  rw [overlay.eq_1 buf pos b, ← hlen, overlay_append, hlen, List.drop_drop, overlay,
    List.length_append, List.append_assoc (buf.take pos), ← Nat.add_assoc]

theorem Writer.put_nil {w : Writer} (h : w.Fits) : w.put [] = .ok w := by
  obtain ⟨packetSize, buffer, fingerprintFound, messageIntegrityFound⟩ := w
  cases buffer with
  | none => rfl
  | some bp =>
    have hpos : bp.2 ≤ bp.1.length := h bp.1 bp.2 rfl
    have hoverlay : overlay bp.1 bp.2 [] = bp.1 := by
      rw [overlay, List.append_nil]
      exact List.take_append_drop _ _
    simp only [Writer.put, List.length_nil, Nat.add_zero, hoverlay, if_pos hpos]

/-- Bytes one after the other are written like all of them at once. -/
theorem Writer.put_append {w w' : Writer} {b : List UInt8} (h : w.put b = .ok w') (c : List UInt8) :
    w'.put c = w.put (b ++ c) ∧ w'.Fits ∧ (w.Clear → w'.Clear) := by
  obtain ⟨packetSize, buffer, fingerprintFound, messageIntegrityFound⟩ := w
  cases buffer with
  | none =>
    rw [← Except.ok.inj h]
    refine ⟨?_, ?_, id⟩
    · simp only [Writer.put, List.length_append, Nat.add_assoc]
    · intro buf pos hbuf
      cases hbuf
  | some bp =>
    obtain ⟨buf, pos⟩ := bp
    simp only [Writer.put] at h
    split_ifs at h with hle
    rw [← Except.ok.inj h]
    have hlen := length_overlay hle
    refine ⟨?_, ?_, id⟩
    · simp only [Writer.put, hlen, List.length_append, ← Nat.add_assoc,
        overlay_overlay (show pos ≤ buf.length by omega)]
    · intro buf' pos' hbuf'
      cases hbuf'
      rw [hlen]
      exact hle

section

variable {tx : List UInt8}

/-- **An attribute that the encoder writes**, and neither generates nor passes over. -/
structure Written (a : StunAttribute) : Prop where
  not_verifying : ∀ k, kindOf a.type = some k → ¬ k.Verifying
  not_relayed : a.type ≠ typeXorRelayedAddress
  handled : kindOf a.type = none → a.type = typeRequestedAddressFamily

theorem Decodable.written {a : StunAttribute} {k : AttributeKind} (ha : Decodable tx a k) :
    Written a where
  not_verifying k' hk' := by
    rw [ha.kind] at hk'
    exact Option.some.inj hk' ▸ ha.not_verifying
  not_relayed := ha.not_relayed
  handled h := by simp [ha.kind] at h

theorem Writer.putAttribute_written {a : StunAttribute} (ha : Written a) {w : Writer} (hw : w.Clear)
    (i count : Nat) :
    w.putAttribute tx i count a =
      match a.value with
      | .errorCode code paddedLength phrase => w.putErrorCode a code paddedLength phrase
      | _ => w.put (encodeAttribute tx a) := by
  have hnot : ¬ (w.fingerprintFound = true ∨ w.messageIntegrityFound = true) := by simp [hw.1, hw.2]
  rw [Writer.putAttribute]
  split
  · next h => exact absurd (.inl rfl) (ha.not_verifying _ h)
  · next h => exact absurd (.inr rfl) (ha.not_verifying _ h)
  · have hwritten : ¬ (a.type = typeXorRelayedAddress ∨
        kindOf a.type = none ∧ a.type ≠ typeRequestedAddressFamily) := by
      rintro (h | ⟨h, h'⟩)
      · exact ha.not_relayed h
      · exact h' (ha.handled h)
    exact (if_neg hwritten).trans (if_neg hnot)

theorem Writer.putAttribute_eq {a : StunAttribute} {k : AttributeKind} (ha : Decodable tx a k)
    {w : Writer} (hw : w.Clear) (i count : Nat) :
    w.putAttribute tx i count a = w.put (encodeAttribute tx a) := by
  rw [Writer.putAttribute_written ha.written hw]
  split
  · next code paddedLength phrase h => exact absurd h (ha.not_errorCode code paddedLength phrase)
  · rfl

/-- **The loop** writes the attributes one behind the other. -/
theorem Writer.putAttributes_eq {as : List StunAttribute} (has : ∀ a ∈ as, ∃ k, Decodable tx a k)
    {w : Writer} (hw : w.Clear) (hfits : w.Fits) (count i : Nat) :
    Writer.putAttributes tx count as i w = w.put (as.flatMap (encodeAttribute tx)) := by
  induction as generalizing w i with
  | nil => exact (Writer.put_nil hfits).symm
  | cons a as ih =>
    obtain ⟨k, ha⟩ := has a List.mem_cons_self
    rw [Writer.putAttributes, Writer.putAttribute_eq ha hw, List.flatMap_cons]
    cases hput : w.put (encodeAttribute tx a) with
    | ok w' =>
      obtain ⟨happend, hfits', hclear⟩ := Writer.put_append hput (as.flatMap (encodeAttribute tx))
      rw [← happend]
      exact ih (fun b hb => has b (List.mem_cons_of_mem a hb)) (hclear hw) hfits' (i + 1)
    | error e =>
      -- the rest does not make room
      obtain ⟨packetSize, buffer, fingerprintFound, messageIntegrityFound⟩ := w
      cases buffer with
      | none => cases hput
      | some bp =>
        obtain ⟨buf, pos⟩ := bp
        simp only [Writer.put] at hput ⊢
        split_ifs at hput with hle
        rw [if_neg, ← hput]
        rw [List.length_append]
        omega

end

/-! ### Frames -/

/-- A message with the two bytes `l` for its length. -/
def frame (type : Nat) (tx l body : List UInt8) : List UInt8 :=
  beBytes 2 type ++ l ++ (beBytes 4 stunHeaderMagicCookie ++ tx ++ body)

section

variable {type : Nat} {tx l body : List UInt8}

theorem length_frame (htx : tx.length = 12) (hl : l.length = 2) :
    (frame type tx l body).length = stunHeaderLen + body.length := by
  simp only [frame, List.length_append, length_beBytes, htx, hl]
  show 2 + 2 + (4 + 12 + body.length) = 20 + body.length
  omega

theorem frame_append (rest : List UInt8) :
    frame type tx l body ++ rest = frame type tx l (body ++ rest) := by
  simp only [frame, List.append_assoc]

theorem putLength_frame (hl : l.length = 2) (v : Nat) :
    putLength (frame type tx l body) v = frame type tx (beBytes 2 v) body := by
  have hdrop : (frame type tx l body).drop 4 = beBytes 4 stunHeaderMagicCookie ++ tx ++ body := by
    apply List.drop_left'
    rw [List.length_append, length_beBytes, hl]
  have htake : (frame type tx l body).take 2 = beBytes 2 type := by
    rw [frame, List.append_assoc]
    exact List.take_left' (length_beBytes 2 _)
  rw [putLength, hdrop, htake, frame]

theorem coveredBytes_frame (htx : tx.length = 12) (hl : l.length = 2) (rest : List UInt8)
    (n : Nat) :
    coveredBytes (frame type tx l (body ++ rest)) (stunHeaderLen + body.length) n =
      frame type tx (beBytes 2 (body.length + (4 + n))) body := by
  have hlen : stunHeaderLen + body.length + stunAttributeHeaderLen + n - stunHeaderLen =
      body.length + (4 + n) := by
    show 20 + body.length + 4 + n - 20 = _
    omega
  rw [coveredBytes, putLength_frame hl, hlen, ← frame_append]
  exact List.take_left' (length_frame htx (length_beBytes 2 _))

theorem coveredBytes16_frame (htx : tx.length = 12) (hl : l.length = 2)
    (hlt : stunHeaderLen + body.length < 2 ^ 16) (rest : List UInt8) (n : Nat) :
    coveredBytes16 (frame type tx l (body ++ rest)) (stunHeaderLen + body.length) n =
      frame type tx (beBytes 2 (body.length + (4 + n))) body := by
  rw [coveredBytes16, Nat.mod_eq_of_lt hlt]
  exact coveredBytes_frame htx hl rest n

/-- A generated attribute goes behind the body, and the length is that of the message with it. -/
theorem Writer.putGenerated_frame (htx : tx.length = 12) (hl : l.length = 2)
    (hlt : stunHeaderLen + body.length < 2 ^ 16) {rest : List UInt8} {n : Nat}
    (hn : 4 + n ≤ rest.length) {value : List UInt8 → List UInt8}
    (hvalue : ∀ c, (value c).length = n) (t packetSize : Nat)
    (fingerprintFound messageIntegrityFound : Bool) :
    Writer.putGenerated ⟨packetSize, some (frame type tx l (body ++ rest),
      stunHeaderLen + body.length), fingerprintFound, messageIntegrityFound⟩ t n value =
      let b := beBytes 2 t ++ beBytes 2 n ++
        value (frame type tx (beBytes 2 (body.length + (4 + n))) body)
      .ok ⟨packetSize,
        some (frame type tx (beBytes 2 (body.length + (4 + n))) ((body ++ b) ++ rest.drop (4 + n)),
          stunHeaderLen + (body ++ b).length),
        fingerprintFound, messageIntegrityFound⟩ := by
  have hsum : stunHeaderLen + body.length + stunAttributeHeaderLen + n - stunHeaderLen =
      body.length + (4 + n) := by
    show 20 + body.length + 4 + n - 20 = _
    omega
  have hroom : stunHeaderLen + body.length + (stunAttributeHeaderLen + n) ≤
      (frame type tx l (body ++ rest)).length := by
    rw [length_frame htx hl, List.length_append]
    show _ + (4 + n) ≤ _
    omega
  simp only [Writer.putGenerated, if_pos hroom, coveredBytes16_frame htx hl hlt, putLength_frame hl,
    hsum]
  generalize hb : beBytes 2 t ++ beBytes 2 n ++
    value (frame type tx (beBytes 2 (body.length + (4 + n))) body) = b
  have hlen : b.length = 4 + n := by
    rw [← hb, List.length_append, List.length_append, length_beBytes, length_beBytes, hvalue]
  have hoverlay : overlay (frame type tx (beBytes 2 (body.length + (4 + n))) (body ++ rest))
      (stunHeaderLen + body.length) b =
        frame type tx (beBytes 2 (body.length + (4 + n))) ((body ++ b) ++ rest.drop (4 + n)) := by
    rw [← frame_append, ← length_frame htx (length_beBytes 2 (body.length + (4 + n))),
      overlay_append, hlen, frame_append, frame_append]
  rw [hoverlay, List.length_append, hlen, Nat.add_assoc]
  rfl

end

/-! ### The generated attributes -/

section

variable (hmac : List UInt8 → List UInt8 → Digest) (crc32 : List UInt8 → UInt32)

def integrityOf (key covered : List UInt8) : StunAttribute :=
  ⟨typeMessageIntegrity, stunHmacValueLen, .messageIntegrity (hmac key covered).1⟩

def fingerprintOf (covered : List UInt8) : StunAttribute :=
  ⟨typeFingerprint, stunAttributeFingerprintLen,
    .fingerprint (crc32 covered ^^^ stunFingerprintAttributeXorValue).toNat⟩

/-- The message integrity that follows a body, if there is one. -/
def integrityList (key : List UInt8) (type : Nat) (tx body : List UInt8) (mi : Bool) :
    List StunAttribute :=
  if mi then [integrityOf hmac key (frame type tx (beBytes 2 (body.length + 24)) body)] else []

def fingerprintList (type : Nat) (tx body : List UInt8) (fp : Bool) : List StunAttribute :=
  if fp then [fingerprintOf crc32 (frame type tx (beBytes 2 (body.length + 8)) body)] else []

def generatedList (key : List UInt8) (type : Nat) (tx body : List UInt8) (mi fp : Bool) :
    List StunAttribute :=
  integrityList hmac key type tx body mi ++
    fingerprintList crc32 type tx
      (body ++ (integrityList hmac key type tx body mi).flatMap (encodeAttribute tx)) fp

theorem flatMap_integrityList (key : List UInt8) (type : Nat) (tx body : List UInt8) (mi : Bool) :
    (integrityList hmac key type tx body mi).flatMap (encodeAttribute tx) =
      if mi then beBytes 2 typeMessageIntegrity ++ beBytes 2 stunHmacValueLen ++
        (hmac key (frame type tx (beBytes 2 (body.length + (4 + stunHmacValueLen))) body)).1
          else [] := by
  cases mi with
  | false => rfl
  | true => exact List.append_nil _

theorem length_integrityList (key : List UInt8) (type : Nat) (tx body : List UInt8) (mi : Bool) :
    ((integrityList hmac key type tx body mi).flatMap (encodeAttribute tx)).length =
      if mi then 24 else 0 := by
  rw [flatMap_integrityList]
  split_ifs
  · rw [List.length_append, List.length_append, length_beBytes, length_beBytes, (hmac key _).2]
    rfl
  · rfl

theorem flatMap_fingerprintList (type : Nat) (tx body : List UInt8) (fp : Bool) :
    (fingerprintList crc32 type tx body fp).flatMap (encodeAttribute tx) =
      if fp then beBytes 2 typeFingerprint ++ beBytes 2 stunAttributeFingerprintLen ++
        beBytes 4 (crc32
          (frame type tx (beBytes 2 (body.length + (4 + stunAttributeFingerprintLen)))
          body) ^^^ stunFingerprintAttributeXorValue).toNat else [] := by
  cases fp with
  | false => rfl
  | true => exact List.append_nil _

theorem length_fingerprintList (type : Nat) (tx body : List UInt8) (fp : Bool) :
    ((fingerprintList crc32 type tx body fp).flatMap (encodeAttribute tx)).length =
      if fp then 8 else 0 := by
  rw [flatMap_fingerprintList]
  split_ifs
  · rw [List.length_append, List.length_append, length_beBytes, length_beBytes, length_beBytes]
  · rfl

theorem length_generatedList (key : List UInt8) (type : Nat) (tx body : List UInt8) (mi fp : Bool) :
    ((generatedList hmac crc32 key type tx body mi fp).flatMap (encodeAttribute tx)).length =
      generatedSize mi fp := by
  rw [generatedList, List.flatMap_append, List.length_append, length_integrityList,
    length_fingerprintList]
  rfl

section

variable {type : Nat} {tx l body rest : List UInt8} (htx : tx.length = 12) (hl : l.length = 2)
  (hlt : stunHeaderLen + body.length < 2 ^ 16) (packetSize : Nat)
  (fingerprintFound messageIntegrityFound : Bool)

include htx hl hlt

theorem Writer.putIf_frame (flag : Bool) (t : Nat) {n : Nat} {value : List UInt8 → List UInt8}
    (hvalue : ∀ c, (value c).length = n) (b : List UInt8)
    (hb : b = if flag then beBytes 2 t ++ beBytes 2 n ++
      value (frame type tx (beBytes 2 (body.length + (4 + n))) body) else [])
    (hrest : (if flag then 4 + n else 0) ≤ rest.length) :
    ∃ l' rest', l'.length = 2 ∧ rest'.length = rest.length - (if flag then 4 + n else 0) ∧
      (if flag then Writer.putGenerated ⟨packetSize, some (frame type tx l (body ++ rest),
          stunHeaderLen + body.length), fingerprintFound, messageIntegrityFound⟩ t n value
        else .ok ⟨packetSize, some (frame type tx l (body ++ rest), stunHeaderLen + body.length),
          fingerprintFound, messageIntegrityFound⟩) =
      .ok ⟨packetSize, some (frame type tx l' ((body ++ b) ++ rest'),
        stunHeaderLen + (body ++ b).length), fingerprintFound, messageIntegrityFound⟩ := by
  cases flag with
  | false =>
    refine ⟨l, rest, hl, rfl, ?_⟩
    have hnil : b = [] := hb
    rw [hnil, List.append_nil]
    rfl
  | true =>
    refine ⟨beBytes 2 (body.length + (4 + n)), rest.drop (4 + n), length_beBytes 2 _,
      List.length_drop, ?_⟩
    rw [if_pos rfl, Writer.putGenerated_frame htx hl hlt hrest hvalue, hb]
    rfl

end

theorem Writer.putHeader_eq {p : StunPacket} {buf : List UInt8}
    (htx : p.header.transactionId.length = 12) (hbuf : stunHeaderLen ≤ buf.length) :
    Writer.putHeader p buf =
      frame p.header.stunMessageType p.header.transactionId (bytesAt buf 2 2)
      (buf.drop stunHeaderLen) := by
  have hlen : 20 ≤ buf.length := hbuf
  have hl : (bytesAt buf 2 2).length = 2 := by
    rw [bytesAt, List.length_take, List.length_drop]
    omega
  have hpre : (beBytes 2 p.header.stunMessageType ++ bytesAt buf 2 2).length = 4 := by
    rw [List.length_append, length_beBytes, hl]
  have hfirst : overlay buf 0 (beBytes 2 p.header.stunMessageType) =
      (beBytes 2 p.header.stunMessageType ++ bytesAt buf 2 2) ++ buf.drop 4 := by
    have hrest : buf.drop 2 = bytesAt buf 2 2 ++ buf.drop 4 := by
      rw [bytesAt, ← List.drop_drop (i := 2) (j := 2), List.take_append_drop]
    rw [overlay, length_beBytes, List.append_assoc (beBytes 2 _), ← hrest]
    rfl
  have hsecond : (beBytes 4 stunHeaderMagicCookie ++ p.header.transactionId).length = 16 := by
    rw [List.length_append, length_beBytes, htx]
  have hoverlay := overlay_append (beBytes 2 p.header.stunMessageType ++ bytesAt buf 2 2)
    (buf.drop 4)
    (beBytes 4 stunHeaderMagicCookie ++ p.header.transactionId)
  rw [hpre, hsecond, List.drop_drop] at hoverlay
  rw [Writer.putHeader, hfirst, hoverlay, frame, List.append_assoc (_ ++ bytesAt buf 2 2)]
  rfl

/-- The header and the attributes of the packet in a buffer that is long enough. -/
theorem Writer.start_frame {p : StunPacket} (htx : p.header.transactionId.length = 12)
    (has : ∀ a ∈ p.attributeList, ∃ k, Decodable p.header.transactionId a k) {buf : List UInt8}
    (hbuf : encodedSize p ≤ buf.length) :
    ∃ w l rest, Writer.start p (some buf) = .ok w ∧ l.length = 2 ∧
      rest.length = buf.length - encodedSize p ∧
      Writer.putAttributes p.header.transactionId p.attributeList.length p.attributeList 0 w =
        .ok ⟨buf.length,
          some (frame p.header.stunMessageType p.header.transactionId l
            (p.attributeList.flatMap (encodeAttribute p.header.transactionId) ++ rest),
              encodedSize p),
          false, false⟩ := by
  generalize hbody : p.attributeList.flatMap (encodeAttribute p.header.transactionId) = body
  have hsize : encodedSize p = stunHeaderLen + body.length := by rw [encodedSize, hbody]
  have hlong : stunHeaderLen ≤ buf.length := by omega
  have hl : (bytesAt buf 2 2).length = 2 := by
    have h20 : 20 ≤ buf.length := hlong
    rw [bytesAt, List.length_take, List.length_drop]
    omega
  have hlen : ∀ rest : List UInt8, (frame p.header.stunMessageType p.header.transactionId
      (bytesAt buf 2 2) rest).length = stunHeaderLen + rest.length :=
      fun rest => length_frame htx hl
  have hfits : stunHeaderLen ≤ (frame p.header.stunMessageType p.header.transactionId
      (bytesAt buf 2 2) (buf.drop stunHeaderLen)).length := by
    rw [hlen]
    exact Nat.le_add_right _ _
  refine ⟨⟨buf.length, some (frame p.header.stunMessageType p.header.transactionId (bytesAt buf 2 2)
      (buf.drop stunHeaderLen), stunHeaderLen), false, false⟩, bytesAt buf 2 2,
    (buf.drop stunHeaderLen).drop body.length, ?_, hl, ?_, ?_⟩
  · rw [Writer.start, if_pos hlong, Writer.putHeader_eq htx hlong]
  · rw [List.drop_drop, List.length_drop, hsize]
  · rw [Writer.putAttributes_eq has ⟨rfl, rfl⟩ (fun _ _ h => by cases h; exact hfits), hbody]
    have hoverlay := overlay_append (frame p.header.stunMessageType p.header.transactionId
      (bytesAt buf 2 2) []) (buf.drop stunHeaderLen) body
    rw [hlen, frame_append, frame_append, frame_append] at hoverlay
    simp only [Writer.put, hlen]
    rw [if_pos, hsize]
    · exact congrArg (fun b => Except.ok (Writer.mk _ (some (b, _)) _ _)) hoverlay
    · rw [List.length_drop]
      omega

/-- The checks of `serializeStunPacket` pass. -/
theorem serializeStunPacket_eq {p : StunPacket} {password : Option (List UInt8)} {mi fp : Bool}
    (hcookie : p.header.magicCookie = stunHeaderMagicCookie) (hmi : mi = true → password ≠ none)
    (hne : password ≠ some []) (buffer : Option (List UInt8)) :
    serializeStunPacket hmac crc32 p password mi fp buffer =
      match Writer.start p buffer with
      | .error e => .error e
      | .ok w => w.run hmac crc32 p (password.getD []) mi fp := by
  rewrite [serializeStunPacket, if_neg (fun h => hmi h.1 h.2), if_neg hne,
    if_neg (fun h => h hcookie)]
  rfl

section

variable {p : StunPacket} {password : Option (List UInt8)} {mi fp : Bool}
  (htx : p.header.transactionId.length = 12)
  (hcookie : p.header.magicCookie = stunHeaderMagicCookie) (hmi : mi = true → password ≠ none)
  (hne : password ≠ some [])
  (has : ∀ a ∈ p.attributeList, ∃ k, Decodable p.header.transactionId a k)

include hcookie hmi hne has

/-- **The size**, counted without a buffer. -/
theorem serializeStunPacket_size :
    serializeStunPacket hmac crc32 p password mi fp none =
      .ok (encodedSize p + generatedSize mi fp, []) := by
  have hput := Writer.putAttributes_eq has (w := ⟨stunHeaderLen, none, false, false⟩) ⟨rfl, rfl⟩
    (fun buf pos h => by cases h) p.attributeList.length 0
  rw [serializeStunPacket_eq hmac crc32 hcookie hmi hne, Writer.start]
  simp only [Writer.run, hput]
  rw [Writer.put]
  cases mi <;> cases fp <;> rfl

include htx

/-- **The message**, in a buffer of its size. -/
theorem serializeStunPacket_frame (hlt : encodedSize p + generatedSize mi fp < 2 ^ 16)
    {buf : List UInt8} (hbuf : buf.length = encodedSize p + generatedSize mi fp) :
    serializeStunPacket hmac crc32 p password mi fp (some buf) =
      .ok (encodedSize p + generatedSize mi fp,
        frame p.header.stunMessageType p.header.transactionId
          (beBytes 2 (encodedSize p + generatedSize mi fp - stunHeaderLen))
          ((p.attributeList ++ generatedList hmac crc32 (password.getD []) p.header.stunMessageType
            p.header.transactionId
            (p.attributeList.flatMap (encodeAttribute p.header.transactionId)) mi fp).flatMap
              (encodeAttribute p.header.transactionId))) := by
  obtain ⟨w, l, rest, hstart, hl, hrest, hput⟩ := Writer.start_frame htx has
    (show encodedSize p ≤ buf.length by omega)
  have hgen : generatedSize mi fp = (if mi then 24 else 0) + if fp then 8 else 0 := rfl
  rw [List.flatMap_append]
  generalize hbody : p.attributeList.flatMap (encodeAttribute p.header.transactionId) = body at *
  have hsize : encodedSize p = stunHeaderLen + body.length := by rw [encodedSize, hbody]
  rw [hsize] at hput
  -- the message integrity
  generalize hkey : password.getD [] = key
  obtain ⟨l₁, rest₁, hl₁, hrest₁, hintegrity⟩ := Writer.putIf_frame htx hl
    (show stunHeaderLen + body.length < 2 ^ 16 by omega) buf.length false false mi
    typeMessageIntegrity
    (fun c => (hmac key c).2)
    ((integrityList hmac key p.header.stunMessageType p.header.transactionId body mi).flatMap
      (encodeAttribute p.header.transactionId))
    (flatMap_integrityList hmac key _ _ body mi)
    (show (if mi then 24 else 0) ≤ rest.length by omega)
  have hlen₁ := length_integrityList hmac key p.header.stunMessageType p.header.transactionId body
    mi
  rw [show 4 + stunHmacValueLen = 24 from rfl] at hrest₁
  -- the fingerprint
  rw [generatedList, List.flatMap_append, ← List.append_assoc]
  generalize hbody₁ : body ++ (integrityList hmac key p.header.stunMessageType
    p.header.transactionId body mi).flatMap (encodeAttribute p.header.transactionId) = body₁ at *
  have hsum₁ : body₁.length = body.length + if mi then 24 else 0 := by
    rw [← hbody₁, List.length_append, hlen₁]
  obtain ⟨l₂, rest₂, hl₂, hrest₂, hfingerprint⟩ := Writer.putIf_frame htx hl₁
    (show stunHeaderLen + body₁.length < 2 ^ 16 by omega) buf.length false false fp typeFingerprint
    (n := stunAttributeFingerprintLen)
    (fun c => length_beBytes 4 (crc32 c ^^^ stunFingerprintAttributeXorValue).toNat)
    ((fingerprintList crc32 p.header.stunMessageType p.header.transactionId body₁ fp).flatMap
      (encodeAttribute p.header.transactionId))
    (flatMap_fingerprintList crc32 _ _ body₁ fp)
    (show (if fp then 8 else 0) ≤ rest₁.length by omega)
  have hlen₂ := length_fingerprintList crc32 p.header.stunMessageType p.header.transactionId body₁
    fp
  rw [show 4 + stunAttributeFingerprintLen = 8 from rfl] at hrest₂
  generalize hbody₂ : body₁ ++ (fingerprintList crc32 p.header.stunMessageType
    p.header.transactionId body₁ fp).flatMap (encodeAttribute p.header.transactionId) = body₂ at *
  have hsum₂ : body₂.length = body₁.length + if fp then 8 else 0 := by
    rw [← hbody₂, List.length_append, hlen₂]
  -- the buffer is full
  have hnil : rest₂ = [] := List.eq_nil_of_length_eq_zero (by omega)
  have hpos : buf.length = stunHeaderLen + body₂.length := by omega
  rw [serializeStunPacket_eq hmac crc32 hcookie hmi hne, hstart]
  simp only [Writer.run, Writer.putIntegrity, Writer.putFingerprint, hput, hkey, hintegrity,
    hfingerprint, Writer.finish]
  rw [if_pos hpos, putLength_frame hl₂, hnil, List.append_nil, hbuf]

end

end

end KvsWebrtc.Stun
