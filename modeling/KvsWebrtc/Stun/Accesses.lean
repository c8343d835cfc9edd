import KvsWebrtc.Stun.Serialize
import KvsWebrtc.Stun.Deserialize

/-!
# What the decoder touches

The bytes of the buffer that `deserializeStunPacket` reads or changes, the attributes that its first
loop lets pass, and the bytes that its second loop writes to the storage of an attribute, in the
order of the source.  Lengths of copies are those of a platform with 64-bit sizes.
-/

namespace KvsWebrtc.Stun

/-- One thing that is touched. -/
inductive Access
  /-- `n` bytes of the buffer. -/
  | buffer (pos n : Nat)
  /-- An attribute that the first loop lets pass. -/
  | passed (h : AttributeHeader)
  /-- `n` bytes at an offset in the storage of an attribute. -/
  | copy (h : AttributeHeader) (offset n : Nat)
deriving DecidableEq

/-- `attributeSize` of the first loop: the storage of an attribute. -/
def attributeSize (h : AttributeHeader) : Nat :=
  match kindOf h.type with
  | none => 0
  | some .address => sizeofAddress
  | some .username | some .realm | some .nonce | some .errorCode | some .data =>
    sizeofBytes + roundUp16 h.length
  | some .priority | some .lifetime | some .changeRequest | some .requestedTransport
  | some .channelNumber | some .fingerprint => sizeofNumber
  | some .flag => sizeofFlag
  | some .iceControl => sizeofIceControl
  | some .messageIntegrity => stunAttributeHeaderLen + stunHmacValueLen

def Access.Inside (buf : List UInt8) : Access → Prop
  | .buffer pos n => pos + n ≤ buf.length
  | .passed h => h.pos + stunAttributeHeaderLen + roundUp h.length ≤ attributesEnd buf
  | .copy h offset n => offset + n ≤ attributeSize h

instance (buf : List UInt8) : DecidablePred (Access.Inside buf)
  | .buffer pos n => inferInstanceAs (Decidable (pos + n ≤ buf.length))
  | .passed h =>
    inferInstanceAs (Decidable (h.pos + stunAttributeHeaderLen + roundUp h.length ≤
      attributesEnd buf))
  | .copy h offset n => inferInstanceAs (Decidable (offset + n ≤ attributeSize h))

/-- What a round of the first loop reads: the header, and the family of an address. -/
def checkAccesses (h : AttributeHeader) : List Access :=
  .buffer h.pos stunAttributeHeaderLen ::
    if kindOf h.type = some .address then [.buffer (h.pos + stunAttributeHeaderLen) 2] else []

def countAccesses (buf : List UInt8) : List AttributeHeader → Found → List Access
  | [], _ => []
  | h :: hs, found =>
    checkAccesses h ++
      match found.step buf h with
      | .error _ => []
      | .ok found' => .passed h :: countAccesses buf hs found'

/-- `paddedLength - STUN_ERROR_CODE_PACKET_ERROR_PHRASE_OFFSET` as the size of a copy. -/
def phraseLength (h : AttributeHeader) : Nat := (roundUp16 h.length + 2 ^ 64 - 4) % 2 ^ 64

def valueAccesses (buf : List UInt8) (password : Option (List UInt8)) (h : AttributeHeader) :
    Option AttributeKind → List Access
  | none | some .flag => []
  | some .address =>
    let family := beNat (bytesAt buf (h.pos + 4) 2) % 2 ^ 8
    [.buffer (h.pos + 4) h.length, .copy h 4 h.length, .copy h 4 2] ++
      -- the port and the address of an XOR type are changed in place
      if h.type = typeXorMappedAddress ∨ h.type = typeXorRelayedAddress then
        [.copy h 6 2, .copy h 8 (if family = familyIpv6 then 16 else 4)]
      else []
  | some .username | some .realm | some .nonce | some .data =>
    [.copy h 4 2, .copy h 8 8, .buffer (h.pos + 4) (roundUp16 h.length),
      .copy h sizeofBytes (roundUp16 h.length)]
  | some .errorCode =>
    [.copy h 6 2, .buffer (h.pos + 4 + 2) 1, .buffer (h.pos + 4 + 3) 1, .copy h 4 2, .copy h 8 8,
      .buffer (h.pos + 4 + 4) (phraseLength h), .copy h sizeofBytes (phraseLength h)]
  | some .priority | some .lifetime | some .changeRequest | some .requestedTransport =>
    [.buffer (h.pos + 4) 4, .copy h 4 4]
  | some .iceControl => [.buffer (h.pos + 4) 8, .copy h (sizeofIceControl - 8) 8]
  | some .channelNumber => [.buffer (h.pos + 4) 2, .copy h 4 2, .copy h 6 2]
  | some .messageIntegrity =>
    match password with
    | none | some [] => []
    | some (_ :: _) =>
      [.buffer 2 2, .buffer 0 (h.pos % 2 ^ 16), .copy h 4 stunHmacValueLen,
        .buffer (h.pos + 4) stunHmacValueLen]
  | some .fingerprint =>
    [.buffer (h.pos + 4) 4, .copy h 4 4, .buffer 2 2, .buffer 0 (h.pos % 2 ^ 16)]

section

variable (hmac : List UInt8 → List UInt8 → Digest) (crc32 : List UInt8 → UInt32)

def copyAccesses (buf : List UInt8) (password : Option (List UInt8)) : List AttributeHeader →
    List Access
  | [] => []
  | h :: hs =>
    .buffer h.pos stunAttributeHeaderLen :: .copy h 0 stunAttributeHeaderLen ::
      (valueAccesses buf password h (kindOf h.type) ++
        match copyAttribute hmac crc32 buf password (transactionIdOf buf) h with
        | .error _ => []
        | .ok _ => copyAccesses buf password hs)

def HeaderRejected (buf : List UInt8) : Prop :=
  buf.length < attributesEnd buf ∨ beNat (bytesAt buf 4 4) ≠ stunHeaderMagicCookie

instance (buf : List UInt8) : Decidable (HeaderRejected buf) :=
  inferInstanceAs (Decidable (_ ∨ _))

/-- `deserializeStunPacket`. -/
def accesses (buf : List UInt8) (password : Option (List UInt8)) : List Access :=
  if buf.length < stunHeaderLen then []
  else
    [.buffer 2 2, .buffer 4 4] ++
      if HeaderRejected buf then []
      else
        countAccesses buf (attributeHeaders buf) ⟨false, false, 0⟩ ++
          match countAttributes buf (attributeHeaders buf) ⟨false, false, 0⟩ with
          | .error _ => []
          | .ok found =>
            [.buffer 0 2, .buffer 8 12] ++
              copyAccesses hmac crc32 buf password
              ((attributeHeaders buf).take found.attributeCount)

def nextAttribute (buf : List UInt8) (pos : Nat) : Nat :=
  pos + stunAttributeHeaderLen + roundUp16 (headerAt buf pos).length

/-- Everything that is touched is inside, and the loops end after as many rounds as there are
headers. -/
structure Safe (buf : List UInt8) (password : Option (List UInt8)) : Prop where
  inside : ∀ a ∈ accesses hmac crc32 buf password, a.Inside buf
  ends : attributesEnd buf ≤ (nextAttribute buf)^[(attributeHeaders buf).length] stunHeaderLen

/-! ### When it stays inside -/

/-- The headers that the first loop goes over, up to the first one that it rejects. -/
def countedHeaders (buf : List UInt8) : List AttributeHeader → Found → List AttributeHeader
  | [], _ => []
  | h :: hs, found =>
    h ::
      match found.step buf h with
      | .error _ => []
      | .ok found' => countedHeaders buf hs found'

def passedHeaders (buf : List UInt8) : List AttributeHeader → Found → List AttributeHeader
  | [], _ => []
  | h :: hs, found =>
    match found.step buf h with
    | .error _ => []
    | .ok found' => h :: passedHeaders buf hs found'

/-- The message integrity or the fingerprint at a header is accepted, if it is one. -/
def verifies (buf : List UInt8) (password : Option (List UInt8)) (h : AttributeHeader) : Bool :=
  match kindOf h.type with
  | some .messageIntegrity =>
    match password with
    | none | some [] => false
    | some key => (hmac key (coveredBytes16 buf h.pos stunHmacValueLen)).1 == bytesAt buf
      (h.pos + 4) 20
  | some .fingerprint =>
    (crc32 (coveredBytes16 buf h.pos stunAttributeFingerprintLen) ^^^
      stunFingerprintAttributeXorValue).toNat == beNat (bytesAt buf (h.pos + 4) 4)
  | _ => true

/-- The headers that the second loop goes over, up to the first one that is not accepted. -/
def copiedHeaders (buf : List UInt8) (password : Option (List UInt8)) :
    List AttributeHeader → List AttributeHeader
  | [] => []
  | h :: hs => h :: if verifies hmac crc32 buf password h then copiedHeaders buf password hs else []

/-- The attributes lie in the message:
* the last header that the first loop reads, with the family of an address, ends in the buffer;
* no attribute that passes is longer than a 16-bit padded length can tell;
* if all of them pass, the last one ends in the message, and the second loop finds no attribute of
  unknown type and no error code of length zero. -/
structure InMessage (buf : List UInt8) (password : Option (List UInt8)) : Prop where
  last : ∀ h ∈ (countedHeaders buf (attributeHeaders buf) ⟨false, false, 0⟩).getLast?,
    h.pos + (if kindOf h.type = some .address then 6 else 4) ≤ buf.length
  paddable : ∀ h ∈ passedHeaders buf (attributeHeaders buf) ⟨false, false, 0⟩,
  h.length ≤ maxPaddableLen
  filled : ∀ found, countAttributes buf (attributeHeaders buf) ⟨false, false, 0⟩ = .ok found →
    (∀ h ∈ (attributeHeaders buf).getLast?,
      h.pos + stunAttributeHeaderLen + roundUp h.length ≤ attributesEnd buf) ∧
    ∀ h ∈ copiedHeaders hmac crc32 buf password ((attributeHeaders buf).take found.attributeCount),
      h.known ∧ (kindOf h.type = some .errorCode → h.length ≠ 0)

end

end KvsWebrtc.Stun
