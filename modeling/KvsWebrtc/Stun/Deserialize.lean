import KvsWebrtc.Stun.Packet

/-!
# Decoding STUN packets

`deserializeStunPacket` of `Stun/Stun.c` goes over the attributes of a buffer twice: it checks and
counts those of known type, and then copies as many attributes as it has counted.  Both loops step
over the same headers, `attributeHeaders`, with the padded length as a 16-bit number.

The buffer is the list of its bytes, and reading behind it fails with `outOfBounds`.  The HMAC and
the CRC-32 are parameters, and a password that is `NULL` is `none`.  The size of the allocation,
which nothing depends on, is left out; `MEMCALLOC` is taken to succeed.

What a buffer holds, without the decoder's 16-bit lengths and its two loops: the attribute area
walked by type, length and padding, the attributes found there, and what a message integrity and a
fingerprint promise.  An attribute of more than 65532 bytes is the last one, since no message is
longer than that; the decoder takes its padded length for zero and goes on behind its header.
-/

namespace KvsWebrtc.Stun

/-! ### The headers of the attributes -/

/-- The header of an attribute and where it stands in the buffer. -/
structure AttributeHeader where
  pos : Nat
  type : Nat
  length : Nat
deriving DecidableEq

def headerAt (buf : List UInt8) (pos : Nat) : AttributeHeader :=
  ⟨pos, beNat (bytesAt buf pos 2), beNat (bytesAt buf (pos + 2) 2)⟩

/-- The headers from an offset to the end of the attributes, each padded by `pad`. -/
def headersFrom (pad : Nat → Nat) (buf : List UInt8) (stop : Nat) : (fuel pos : Nat) →
    List AttributeHeader
  | 0, _ => []
  | fuel + 1, pos =>
    if pos < stop then
      headerAt buf pos ::
        headersFrom pad buf stop fuel
          (pos + stunAttributeHeaderLen + pad (headerAt buf pos).length)
    else []

/-- The headers from an offset on; every step is longer than a byte. -/
def headers (pad : Nat → Nat) (buf : List UInt8) (stop pos : Nat) : List AttributeHeader :=
  headersFrom pad buf stop (stop - pos) pos

/-- `messageLength` of the header. -/
def messageLength (buf : List UInt8) : Nat := beNat (bytesAt buf 2 2)

def attributesEnd (buf : List UInt8) : Nat := stunHeaderLen + messageLength buf

def attributeHeaders (buf : List UInt8) : List AttributeHeader :=
  headers roundUp16 buf (attributesEnd buf) stunHeaderLen

def AttributeHeader.known (h : AttributeHeader) : Bool := (kindOf h.type).isSome

/-! ### The first loop -/

/-- The variables of the first loop. -/
structure Found where
  fingerprintFound : Bool
  messageIntegrityFound : Bool
  attributeCount : Nat
deriving DecidableEq

/-- `STATUS_STUN_..` for an attribute after the message integrity or the fingerprint. -/
def Found.checkNotAfter (found : Found) : Except Failure Unit :=
  if found.fingerprintFound ∨ found.messageIntegrityFound then
    .error (.status .stunAttributesAfterFingerprintMessageIntegrity)
  else .ok ()

/-- The check of a length, and that no message integrity or fingerprint came before. -/
def Found.checkLength (found : Found) (ok : Bool) (status : Status) : Except Failure Unit :=
  if ok then found.checkNotAfter else .error (.status status)

def Found.check (found : Found) (buf : List UInt8) (h : AttributeHeader) :
    AttributeKind → Except Failure Unit
  | .address =>
    match fieldAt buf (h.pos + 4) 2 with
    | .error e => .error e
    | .ok family =>
      found.checkLength (h.length == 4 + ipAddressLength (beNat family % 2 ^ 8))
        .stunInvalidAddressAttributeLength
  | .username => found.checkLength (h.length ≤ stunMaxUsernameLen)
    .stunInvalidUsernameAttributeLength
  | .priority => found.checkLength (h.length == 4) .stunInvalidPriorityAttributeLength
  | .flag => found.checkLength (h.length == 0) .stunInvalidUseCandidateAttributeLength
  | .lifetime => found.checkLength (h.length == 4) .stunInvalidLifetimeAttributeLength
  | .changeRequest => found.checkLength (h.length == 4) .stunInvalidChangeRequestAttributeLength
  | .requestedTransport =>
    found.checkLength (h.length == 4) .stunInvalidRequestedTransportAttributeLength
  | .realm => found.checkLength (h.length ≤ stunMaxRealmLen) .stunInvalidRealmAttributeLength
  | .nonce => found.checkLength (h.length ≤ stunMaxNonceLen) .stunInvalidNonceAttributeLength
  | .errorCode =>
    found.checkLength (h.length ≤ stunMaxErrorPhraseLen) .stunInvalidErrorCodeAttributeLength
  | .iceControl => found.checkLength (h.length == 8) .stunInvalidIceControlAttributeLength
  | .data => found.checkNotAfter
  | .channelNumber => found.checkLength (h.length == 4) .stunInvalidChannelNumberAttributeLength
  | .messageIntegrity =>
    if h.length ≠ stunHmacValueLen then
      .error (.status .stunInvalidMessageIntegrityAttributeLength)
    else if found.messageIntegrityFound then
      .error (.status .stunMultipleMessageIntegrityAttributes)
    else if found.fingerprintFound then .error (.status .stunMessageIntegrityAfterFingerprint)
    else .ok ()
  | .fingerprint =>
    if h.length ≠ stunAttributeFingerprintLen then
      .error (.status .stunInvalidFingerprintAttributeLength)
    else if found.fingerprintFound then .error (.status .stunMultipleFingerprintAttributes)
    else .ok ()

/-- The variables after an attribute of known type. -/
def Found.count (found : Found) (k : AttributeKind) : Found :=
  { fingerprintFound := found.fingerprintFound || k == .fingerprint
    messageIntegrityFound := found.messageIntegrityFound || k == .messageIntegrity
    attributeCount := found.attributeCount + 1 }

/-- One round of the first loop.  For an unknown type the count is decremented and incremented
again. -/
def Found.step (found : Found) (buf : List UInt8) (h : AttributeHeader) : Except Failure Found :=
  if h.pos + stunAttributeHeaderLen ≤ buf.length then
    match kindOf h.type with
    | none => .ok found
    | some k =>
      match found.check buf h k with
      | .error e => .error e
      | .ok () =>
        if found.attributeCount + 1 ≤ stunAttributeMaxCount then .ok (found.count k)
        else .error (.status .stunMaxAttributeCount)
  else .error .outOfBounds

def countAttributes (buf : List UInt8) : List AttributeHeader → Found → Except Failure Found
  | [], found => .ok found
  | h :: hs, found =>
    match found.step buf h with
    | .error e => .error e
    | .ok found' => countAttributes buf hs found'

/-! ### The second loop -/

/-- An address as it stands in a buffer.  The XOR types are decoded, `XOR-PEER-ADDRESS` apart. -/
def ipAddressOf (type : Nat) (transactionId : List UInt8) (b : List UInt8) : KvsIpAddress :=
  let a : KvsIpAddress := ⟨beNat (b.take 2) % 2 ^ 8, bytesAt b 2 2, b.drop 4⟩
  if type = typeXorMappedAddress ∨ type = typeXorRelayedAddress then xorIpAddress a transactionId
    else a

/-- What the attribute at a header holds, its bytes padded by `pad`. -/
def valueAt (pad : Nat → Nat) (buf transactionId : List UInt8) (h : AttributeHeader) :
    AttributeKind → Except Failure AttributeValue
  | .address =>
    (fieldAt buf (h.pos + 4) h.length).map fun b => .address (ipAddressOf h.type transactionId b)
  | .username | .realm | .nonce | .data =>
    (fieldAt buf (h.pos + 4) (pad h.length)).map fun b => .bytes (pad h.length) b
  | .priority | .lifetime | .changeRequest =>
    (fieldAt buf (h.pos + 4) 4).map fun b => .number (beNat b)
  | .requestedTransport => (fieldAt buf (h.pos + 4) 4).map fun b => .fourBytes b
  | .flag => .ok .headerOnly
  | .errorCode =>
    -- the phrase has `paddedLength - 4` bytes, which is a huge number if there are none
    if pad h.length < 4 then .error .outOfBounds
    else
      (fieldAt buf (h.pos + 4) (pad h.length)).map fun b =>
        .errorCode ((b.getD 2 0).toNat * 100 + (b.getD 3 0).toNat) (pad h.length) (b.drop 4)
  | .iceControl => (fieldAt buf (h.pos + 4) 8).map fun b => .tieBreaker (beNat b)
  | .channelNumber => (fieldAt buf (h.pos + 4) 2).map fun b => .channelNumber (beNat b)
  | .messageIntegrity => (fieldAt buf (h.pos + 4) stunHmacValueLen).map fun b => .messageIntegrity b
  | .fingerprint =>
    (fieldAt buf (h.pos + 4) stunAttributeFingerprintLen).map fun b => .fingerprint (beNat b)

/-- The bytes before an attribute at `pos` with a value of `n` bytes, after `putLength` of a length
that ends with it. -/
def coveredBytes (buf : List UInt8) (pos n : Nat) : List UInt8 :=
  (putLength buf (pos + stunAttributeHeaderLen + n - stunHeaderLen)).take pos

/-- The bytes that the decoder takes for these: their number is a 16-bit one. -/
def coveredBytes16 (buf : List UInt8) (pos n : Nat) : List UInt8 :=
  (putLength buf (pos + stunAttributeHeaderLen + n - stunHeaderLen)).take (pos % 2 ^ 16)

section

variable (hmac : List UInt8 → List UInt8 → Digest) (crc32 : List UInt8 → UInt32)

/-- One round of the second loop: the attribute, with the checks of a message integrity and a
fingerprint. -/
def copyAttribute (buf : List UInt8) (password : Option (List UInt8)) (transactionId : List UInt8)
    (h : AttributeHeader) : Except Failure StunAttribute :=
  match kindOf h.type with
  | none => .ok ⟨h.type, h.length, .headerOnly⟩
  | some .messageIntegrity =>
    match password with
    | none => .error (.status .nullArg)
    | some [] => .error (.status .invalidArg)
    | some key =>
      let digest := hmac key (coveredBytes16 buf h.pos stunHmacValueLen)
      match fieldAt buf (h.pos + 4) stunHmacValueLen with
      | .error e => .error e
      | .ok b =>
        if digest.1 = b then .ok ⟨h.type, h.length, .messageIntegrity digest.1⟩
        else .error (.status .stunMessageIntegrityMismatch)
  | some .fingerprint =>
    match fieldAt buf (h.pos + 4) stunAttributeFingerprintLen with
    | .error e => .error e
    | .ok b =>
      if (crc32 (coveredBytes16 buf h.pos stunAttributeFingerprintLen) ^^^
          stunFingerprintAttributeXorValue).toNat = beNat b then
        .ok ⟨h.type, h.length, .fingerprint (beNat b)⟩
      else .error (.status .stunFingerprintMismatch)
  | some k => (valueAt roundUp16 buf transactionId h k).map fun v => ⟨h.type, h.length, v⟩

/-- The memory of the second loop: the areas that have been written, in order, the one that
`pDestAttribute` points to, and the areas that the entries of `attributeList` point to. -/
structure Copied where
  areas : List StunAttribute
  dest : Nat
  entries : List Nat
deriving DecidableEq

/-- One more entry.  An attribute of unknown type has size zero: the next one goes to the same
area. -/
def Copied.put (c : Copied) (a : StunAttribute) : Copied :=
  { areas := c.areas.take c.dest ++ [a]
    dest := if (kindOf a.type).isSome then c.dest + 1 else c.dest
    entries := c.entries ++ [c.dest] }

def Copied.attributeList (c : Copied) : List StunAttribute := c.entries.filterMap fun i =>
    c.areas[i]?

def copyAttributes (buf : List UInt8) (password : Option (List UInt8))
    (transactionId : List UInt8) :
    List AttributeHeader → Copied → Except Failure Copied
  | [], c => .ok c
  | h :: hs, c =>
    match copyAttribute hmac crc32 buf password transactionId h with
    | .error e => .error e
    | .ok a => copyAttributes buf password transactionId hs (c.put a)

def transactionIdOf (buf : List UInt8) : List UInt8 := bytesAt buf 8 12

def deserializeStunPacket (buf : List UInt8) (password : Option (List UInt8)) :
    Except Failure StunPacket :=
  if buf.length < stunHeaderLen then .error (.status .invalidArg)
  else if buf.length < attributesEnd buf then .error (.status .invalidArg)
  else if beNat (bytesAt buf 4 4) ≠ stunHeaderMagicCookie then
    .error (.status .stunMagicCookieMismatch)
  else
    match countAttributes buf (attributeHeaders buf) ⟨false, false, 0⟩ with
    | .error e => .error e
    | .ok found =>
      match copyAttributes hmac crc32 buf password (transactionIdOf buf)
          ((attributeHeaders buf).take found.attributeCount) ⟨[], 0, []⟩ with
      | .error e => .error e
      | .ok copied =>
        .ok
          { header :=
              { stunMessageType := beNat (bytesAt buf 0 2)
                messageLength := messageLength buf
                magicCookie := stunHeaderMagicCookie
                transactionId := transactionIdOf buf }
            attributeList := copied.attributeList }

end

/-! ### Attributes on the wire -/

def wireHeaders (buf : List UInt8) : List AttributeHeader :=
  headers roundUp buf (attributesEnd buf) stunHeaderLen

/-- The longest length whose padded length is a 16-bit number. -/
def maxPaddableLen : Nat := 65532

/-- The headers that the decoder finds behind the header of an attribute that is too long. -/
def misreadHeaders (buf : List UInt8) : List AttributeHeader :=
  match (wireHeaders buf).getLast? with
  | none => []
  | some h =>
    if maxPaddableLen < h.length then headers roundUp16 buf (attributesEnd buf) (h.pos + 4) else []

/-- The attribute at a header, if the buffer holds all of it. -/
def wireAttribute (buf : List UInt8) (h : AttributeHeader) : Option StunAttribute :=
  match kindOf h.type with
  | none => some ⟨h.type, h.length, .headerOnly⟩
  | some k =>
    match valueAt roundUp buf (transactionIdOf buf) h k with
    | .error _ => none
    | .ok v => some ⟨h.type, h.length, v⟩

/-- The list consists of the attributes of known type on the wire, in order. -/
def AsOnWire (buf : List UInt8) (attributeList : List StunAttribute) : Prop :=
  ((wireHeaders buf).filter (·.known)).map (wireAttribute buf) = attributeList.map some

def knownCount (hs : List AttributeHeader) : Nat := (hs.filter (·.known)).length

/-- No attribute of known type is too long, and none is found in one of unknown type that is. -/
def NothingMisread (buf : List UInt8) : Prop :=
  (∀ h ∈ wireHeaders buf, h.known → h.length ≤ maxPaddableLen) ∧
    ∀ h ∈ misreadHeaders buf, ¬ h.known

/-- The attributes of known type stand before those of unknown type. -/
def KnownFirst (hs : List AttributeHeader) : Prop := ∀ h ∈ hs.take (knownCount hs), h.known

/-- The attributes of known type behind the first one of unknown type are all the same, and the last
one that the decoder copies is one of them. -/
def KnownRepeated (buf : List UInt8) (hs : List AttributeHeader) : Prop :=
  (∃ h, (hs.take (knownCount hs)).getLast? = some h ∧ h.known) ∧
    ∀ h ∈ (hs.dropWhile (·.known)).filter (·.known),
      ∀ h' ∈ (hs.dropWhile (·.known)).filter (·.known), wireAttribute buf h = wireAttribute buf h'

/-! ### Integrity -/

section

variable (hmac : List UInt8 → List UInt8 → Digest) (crc32 : List UInt8 → UInt32)

def IntegrityValid (buf : List UInt8) (password : Option (List UInt8)) (h : AttributeHeader) :
    Prop :=
  ∃ key, password = some key ∧
    (hmac key (coveredBytes buf h.pos stunHmacValueLen)).1 =
    bytesAt buf (h.pos + 4) stunHmacValueLen

def FingerprintValid (buf : List UInt8) (h : AttributeHeader) : Prop :=
  (crc32 (coveredBytes buf h.pos stunAttributeFingerprintLen) ^^^
    stunFingerprintAttributeXorValue).toNat =
    beNat (bytesAt buf (h.pos + 4) stunAttributeFingerprintLen)

/-- Every message integrity and every fingerprint on the wire is valid. -/
def Verified (buf : List UInt8) (password : Option (List UInt8)) : Prop :=
  ∀ h ∈ wireHeaders buf,
    (h.type = typeMessageIntegrity → IntegrityValid hmac buf password h) ∧
      (h.type = typeFingerprint → FingerprintValid crc32 buf h)

end

/-- A message integrity or fingerprint at `h`, with the attributes `before` and `after` it, is
reached by the second loop of the decoder, and the number of bytes before it is a 16-bit one. -/
def Reached (before : List AttributeHeader) (h : AttributeHeader) (after : List AttributeHeader) :
    Prop :=
  (before.filter (!·.known)).length < knownCount (h :: after) ∧ h.pos < 2 ^ 16

/-- Every message integrity and every fingerprint on the wire is reached. -/
def IntegrityReached (buf : List UInt8) : Prop :=
  ∀ before h after, wireHeaders buf = before ++ h :: after →
    h.type = typeMessageIntegrity ∨ h.type = typeFingerprint →
    Reached before h (after ++ misreadHeaders buf)

end KvsWebrtc.Stun
