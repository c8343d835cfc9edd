import KvsWebrtc.Stun.Deserialize

/-!
# Building and encoding STUN packets

`createStunPacket`, the `appendStun..Attribute` functions and `serializeStunPacket` of
`Stun/Stun.c`.

A packet that is built lies in one allocation of `STUN_PACKET_ALLOCATION_SIZE` bytes: the packet, an
array of 20 pointers to attributes, and the attributes.  The sizes of the records are those of a
platform with 64-bit pointers.  Writing behind the allocation or behind the array fails with
`outOfBounds`.
-/

namespace KvsWebrtc.Stun

/-! ### The allocation -/

def stunPacketAllocationSize : Nat := 2048

/-- Where the attributes start: behind the packet and the array of pointers. -/
def attributesOffset : Nat := 40 + stunAttributeMaxCount * 8

/-- `SIZEOF(StunAttributeAddress)`. -/
def sizeofAddress : Nat := 28

/-- `SIZEOF(StunAttributeFlag)`. -/
def sizeofFlag : Nat := 4

/-- `SIZEOF` of an attribute with a number or four bytes. -/
def sizeofNumber : Nat := 8

/-- `SIZEOF(StunAttributeIceControl)`. -/
def sizeofIceControl : Nat := 16

/-- `SIZEOF` of an attribute with a pointer to its bytes, which follow it. -/
def sizeofBytes : Nat := 16

/-- `ROUND_UP(n, 8)`. -/
def roundUp8 (n : Nat) : Nat := (n + 7) / 8 * 8

/-- `getPackagedStunAttributeSize`, by what the attribute holds. -/
def getPackagedStunAttributeSize (a : StunAttribute) : Nat :=
  let length :=
    match a.value with
    | .address _ => if a.type = typeXorRelayedAddress then 4 + a.length else sizeofAddress
    | .bytes paddedLength _ => sizeofBytes + paddedLength
    | .errorCode _ paddedLength _ => sizeofBytes + paddedLength
    | .number _ => sizeofNumber
    | .fourBytes _ => if a.type = typeRequestedAddressFamily then 4 + a.length else sizeofNumber
    | .tieBreaker _ => sizeofIceControl
    | .channelNumber _ => sizeofNumber
    | .messageIntegrity _ => 4 + a.length
    | .fingerprint _ => 4 + a.length
    | .headerOnly => sizeofFlag
  roundUp8 (length % 2 ^ 16) % 2 ^ 16

/-- `getFirstAvailableStunAttribute`, as an offset in the allocation. -/
def getFirstAvailableStunAttribute (p : StunPacket) : Except Failure Nat :=
  if stunAttributeMaxCount < p.attributeList.length then .error (.status .stunMaxAttributeCount)
  else
    match p.attributeList.getLast? with
    | none => .ok attributesOffset
    | some a =>
      if a.type = typeMessageIntegrity ∨ a.type = typeFingerprint then
        .error (.status .stunAttributesAfterFingerprintMessageIntegrity)
      else
        let offset := attributesOffset + (p.attributeList.map getPackagedStunAttributeSize).sum
        if offset < stunPacketAllocationSize then .ok offset
        else .error (.status .notEnoughMemory)

/-- `createStunPacket` with a given transaction id. -/
def createStunPacket (stunPacketType : Nat) (transactionId : List UInt8) : StunPacket :=
  ⟨⟨stunPacketType, 0, stunHeaderMagicCookie, transactionId⟩, []⟩

/-- The common part of the append functions: the attribute needs `size` bytes, of which `written`
are written, and `encoded` bytes are added to the length of the message. -/
def appendAttribute (p : StunPacket) (a : StunAttribute) (size written encoded : Nat) :
    Except Failure StunPacket :=
  match getFirstAvailableStunAttribute p with
  | .error e => .error e
  | .ok offset =>
    if offset + roundUp8 size ≤ stunPacketAllocationSize then
      -- the array of pointers has no room for one more than `STUN_ATTRIBUTE_MAX_COUNT`
      if p.attributeList.length < stunAttributeMaxCount ∧ offset + written ≤
        stunPacketAllocationSize then
        .ok
          { header :=
              { p.header with
                messageLength :=
                  (p.header.messageLength + encoded + stunAttributeHeaderLen) % 2 ^ 16 }
            attributeList := p.attributeList ++ [a] }
      else .error .outOfBounds
    else .error (.status .notEnoughMemory)

def padded (b : List UInt8) : List UInt8 := b ++ List.replicate (roundUp16 b.length - b.length) 0

def bytesAttribute (type : Nat) (b : List UInt8) : StunAttribute :=
  ⟨type, b.length, .bytes (roundUp16 b.length) (padded b)⟩

def addressAttribute (type : Nat) (a : KvsIpAddress) : StunAttribute :=
  ⟨type, 4 + ipAddressLength a.family, .address a⟩

def appendBytes (p : StunPacket) (type : Nat) (b : List UInt8) : Except Failure StunPacket :=
  appendAttribute p (bytesAttribute type b) (roundUp16 b.length + sizeofBytes)
    (sizeofBytes + b.length) (roundUp16 b.length)

/-- The bytes of a string up to its end, at most `max`, as `STRNLEN` counts them. -/
def boundedString (s : List UInt8) (max : Nat) : List UInt8 := (s.takeWhile (· != 0)).take max

def appendStunAddressAttribute (p : StunPacket) (type : Nat) (a : KvsIpAddress) :
    Except Failure StunPacket :=
  appendAttribute p (addressAttribute type a) sizeofAddress sizeofAddress
    (4 + ipAddressLength a.family)

def appendStunUsernameAttribute (p : StunPacket) (userName : List UInt8) :
    Except Failure StunPacket :=
  appendBytes p typeUsername (boundedString userName stunMaxUsernameLen)

def appendStunRealmAttribute (p : StunPacket) (realm : List UInt8) : Except Failure StunPacket :=
  appendBytes p typeRealm (boundedString realm stunMaxRealmLen)

/-- `appendStunNonceAttribute`: the length is not bounded here. -/
def appendStunNonceAttribute (p : StunPacket) (nonce : List UInt8) : Except Failure StunPacket :=
  appendBytes p typeNonce nonce

def appendStunDataAttribute (p : StunPacket) (data : List UInt8) : Except Failure StunPacket :=
  appendBytes p typeData data

def appendNumber (p : StunPacket) (type : Nat) (n : UInt32) : Except Failure StunPacket :=
  appendAttribute p ⟨type, 4, .number n.toNat⟩ sizeofNumber sizeofNumber 4

def appendStunPriorityAttribute (p : StunPacket) (priority : UInt32) : Except Failure StunPacket :=
  appendNumber p typePriority priority

def appendStunLifetimeAttribute (p : StunPacket) (lifetime : UInt32) : Except Failure StunPacket :=
  appendNumber p typeLifetime lifetime

def appendStunChangeRequestAttribute (p : StunPacket) (changeFlag : UInt32) :
    Except Failure StunPacket :=
  appendNumber p typeChangeRequest changeFlag

def appendStunFlagAttribute (p : StunPacket) (type : Nat) : Except Failure StunPacket :=
  appendAttribute p ⟨type, 0, .headerOnly⟩ sizeofFlag sizeofFlag 0

def appendStunRequestedTransportAttribute (p : StunPacket) (protocol : UInt8) :
    Except Failure StunPacket :=
  appendAttribute p ⟨typeRequestedTransport, 4, .fourBytes [protocol, 0, 0, 0]⟩ sizeofNumber
    sizeofNumber 4

def appendStunIceControllAttribute (p : StunPacket) (type : Nat) (tieBreaker : UInt64) :
    Except Failure StunPacket :=
  if type = typeIceControlling ∨ type = typeIceControlled then
    appendAttribute p ⟨type, 8, .tieBreaker tieBreaker.toNat⟩ sizeofIceControl sizeofIceControl 8
  else .error (.status .invalidArg)

def appendStunChannelNumberAttribute (p : StunPacket) (channelNumber : UInt16) :
    Except Failure StunPacket :=
  appendAttribute p ⟨typeChannelNumber, 4, .channelNumber channelNumber.toNat⟩ sizeofNumber
    sizeofNumber 4

def appendStunAllocationAddressFamily (p : StunPacket) (ipFamily : UInt8) :
    Except Failure StunPacket :=
  appendAttribute p ⟨typeRequestedAddressFamily, 4, .fourBytes [ipFamily, 0, 0, 0]⟩ sizeofNumber
    sizeofNumber 4

def appendStunErrorCodeAttribute (p : StunPacket) (errorPhrase : List UInt8) (errorCode : UInt16) :
    Except Failure StunPacket :=
  let b := boundedString errorPhrase stunMaxErrorPhraseLen
  appendAttribute p
    ⟨typeErrorCode, b.length, .errorCode errorCode.toNat (roundUp16 b.length) (padded b)⟩
    (roundUp16 b.length + sizeofBytes) (sizeofBytes + b.length) (roundUp16 b.length)

/-! ### Packets that are built -/

/-- An IPv4 or IPv6 address. -/
structure KvsIpAddress.WellFormed (a : KvsIpAddress) : Prop where
  family : a.family = familyIpv4 ∨ a.family = familyIpv6
  length_port : a.port.length = 2
  length_address : a.address.length = ipAddressLength a.family

/-- A call of an append function. -/
inductive AppendCall
  | mappedAddress (a : { a : KvsIpAddress // a.WellFormed })
  | xorMappedAddress (a : { a : KvsIpAddress // a.WellFormed })
  | username (s : List UInt8)
  | priority (n : UInt32)
  | useCandidate
  | lifetime (n : UInt32)
  | changeRequest (n : UInt32)
  | requestedTransport (n : UInt8)
  | realm (s : List UInt8)
  | nonce (b : List UInt8)
  | iceControlled (n : UInt64)
  | iceControlling (n : UInt64)
  | data (b : List UInt8)
  | channelNumber (n : UInt16)

def AppendCall.run (p : StunPacket) (c : AppendCall) : Except Failure StunPacket :=
  match c with
  | .mappedAddress a => appendStunAddressAttribute p typeMappedAddress a.1
  | .xorMappedAddress a => appendStunAddressAttribute p typeXorMappedAddress a.1
  | .username s => appendStunUsernameAttribute p s
  | .priority n => appendStunPriorityAttribute p n
  | .useCandidate => appendStunFlagAttribute p typeUseCandidate
  | .lifetime n => appendStunLifetimeAttribute p n
  | .changeRequest n => appendStunChangeRequestAttribute p n
  | .requestedTransport n => appendStunRequestedTransportAttribute p n
  | .realm s => appendStunRealmAttribute p s
  | .nonce b => appendStunNonceAttribute p b
  | .iceControlled n => appendStunIceControllAttribute p typeIceControlled n
  | .iceControlling n => appendStunIceControllAttribute p typeIceControlling n
  | .data b => appendStunDataAttribute p b
  | .channelNumber n => appendStunChannelNumberAttribute p n

def appendAll : List AppendCall → StunPacket → Except Failure StunPacket
  | [], p => .ok p
  | c :: cs, p =>
    match c.run p with
    | .error e => .error e
    | .ok p' => appendAll cs p'

/-- The types of `serializeStunPacket` that hold an address. -/
def addressTypes : List Nat := [0x0001, 0x0020, 0x0002, 0x0004, 0x000B, 0x0012, 0x0005]

/-- The types of `serializeStunPacket` that are a header only. -/
def flagTypes : List Nat := [0x0025, 0x001A]

/-- A call of any of the append functions. -/
inductive PacketCall
  | call (c : AppendCall)
  | address (type : { type // type ∈ addressTypes }) (a : { a : KvsIpAddress // a.WellFormed })
  | flag (type : { type // type ∈ flagTypes })
  | allocationAddressFamily (ipFamily : UInt8)
  | errorCode (errorPhrase : List UInt8) (errorCode : UInt16)

def PacketCall.run (p : StunPacket) (c : PacketCall) : Except Failure StunPacket :=
  match c with
  | .call c => c.run p
  | .address type a => appendStunAddressAttribute p type.1 a.1
  | .flag type => appendStunFlagAttribute p type.1
  | .allocationAddressFamily ipFamily => appendStunAllocationAddressFamily p ipFamily
  | .errorCode errorPhrase code => appendStunErrorCodeAttribute p errorPhrase code

def buildAll : List PacketCall → StunPacket → Except Failure StunPacket
  | [], p => .ok p
  | c :: cs, p =>
    match c.run p with
    | .error e => .error e
    | .ok p' => buildAll cs p'

/-! ### Encoding -/

/-- What follows the header of an attribute, by what it holds.  An error code is written apart, and
a message integrity and a fingerprint are not encoded but generated. -/
def encodeValue (transactionId : List UInt8) (type : Nat) : AttributeValue → List UInt8
  | .address a =>
    let b := if type = typeXorMappedAddress ∨ type = typeXorPeerAddress then
      xorIpAddress a transactionId else a
    beBytes 2 b.family ++ b.port ++ b.address
  | .bytes _ b => b
  | .number n => beBytes 4 n
  | .fourBytes b => b
  | .tieBreaker n => beBytes 8 n
  | .channelNumber n => beBytes 2 n ++ beBytes 2 0
  | .messageIntegrity b => b
  | .fingerprint n => beBytes 4 n
  | .errorCode _ _ _ | .headerOnly => []

/-- The length in the header; `stunPackageIpAddr` computes that of an address. -/
def encodedLength (a : StunAttribute) : Nat :=
  match a.value with
  | .address b => 4 + ipAddressLength b.family
  | _ => a.length

/-- `PACKAGE_STUN_ATTR_HEADER` and the value. -/
def encodeAttribute (transactionId : List UInt8) (a : StunAttribute) : List UInt8 :=
  beBytes 2 a.type ++ beBytes 2 (encodedLength a) ++ encodeValue transactionId a.type a.value

/-- The variables of `serializeStunPacket`: the buffer and the position in it, if there is one, and
otherwise the size counted so far. -/
structure Writer where
  packetSize : Nat
  buffer : Option (List UInt8 × Nat)
  fingerprintFound : Bool
  messageIntegrityFound : Bool

def overlay (buf : List UInt8) (pos : Nat) (b : List UInt8) : List UInt8 :=
  buf.take pos ++ b ++ buf.drop (pos + b.length)

/-- Bytes at the current position, after the check of the remaining space. -/
def Writer.put (w : Writer) (b : List UInt8) : Except Failure Writer :=
  match w.buffer with
  | none => .ok { w with packetSize := w.packetSize + b.length }
  | some (buf, pos) =>
    if pos + b.length ≤ buf.length then
      .ok { w with buffer := some (overlay buf pos b, pos + b.length) }
    else .error (.status .notEnoughMemory)

/-- An error code: the code is written at twice the length of the header, and the phrase, with all
of its padded length, two bytes behind the header. -/
def Writer.putErrorCode (w : Writer) (a : StunAttribute) (code paddedLength : Nat)
    (phrase : List UInt8) : Except Failure Writer :=
  match w.buffer with
  | none => .ok { w with packetSize := w.packetSize + 4 + paddedLength }
  | some (buf, pos) =>
    if pos + 4 + paddedLength ≤ buf.length then
      if pos + 10 ≤ buf.length ∧ pos + 6 + paddedLength ≤ buf.length ∧
        phrase.length = paddedLength then
        let header := beBytes 2 a.type ++ beBytes 2 a.length
        .ok { w with
          buffer :=
            some (overlay (overlay (overlay buf pos header) (pos + 8) (beBytes 2 code)) (pos + 6)
              phrase, pos + 4 + paddedLength) }
      else .error .outOfBounds
    else .error (.status .notEnoughMemory)

/-- One round of the loop, for the attribute `i` of `count`. -/
def Writer.putAttribute (w : Writer) (transactionId : List UInt8) (i count : Nat)
    (a : StunAttribute) :
    Except Failure Writer :=
  match kindOf a.type with
  | some .messageIntegrity =>
    if ¬ (i + 1 = count ∨ i + 2 = count) then .error (.status .stunMessageIntegrityNotLast)
    else if w.messageIntegrityFound then .error (.status .stunMultipleMessageIntegrityAttributes)
    else if w.fingerprintFound then .error (.status .stunMessageIntegrityAfterFingerprint)
    else .ok { w with messageIntegrityFound := true }
  | some .fingerprint =>
    if i + 1 ≠ count then .error (.status .stunFingerprintNotLast)
    else if w.fingerprintFound then .error (.status .stunMultipleFingerprintAttributes)
    else .ok { w with fingerprintFound := true }
  | k =>
    if a.type = typeXorRelayedAddress ∨ (k = none ∧ a.type ≠ typeRequestedAddressFamily) then .ok w
    else if w.fingerprintFound ∨ w.messageIntegrityFound then
      .error (.status .stunAttributesAfterFingerprintMessageIntegrity)
    else
      match a.value with
      | .errorCode code paddedLength phrase => w.putErrorCode a code paddedLength phrase
      | _ => w.put (encodeAttribute transactionId a)

/-- The loop over the attributes from the `i`-th on. -/
def Writer.putAttributes (transactionId : List UInt8) (count : Nat) :
    List StunAttribute → Nat → Writer → Except Failure Writer
  | [], _, w => .ok w
  | a :: as, i, w =>
    match w.putAttribute transactionId i count a with
    | .error e => .error e
    | .ok w' => putAttributes transactionId count as (i + 1) w'

/-- A generated attribute: the length of the message ends with it, and its value is computed from
the bytes before it. -/
def Writer.putGenerated (w : Writer) (type n : Nat) (value : List UInt8 → List UInt8) :
    Except Failure Writer :=
  let header := beBytes 2 type ++ beBytes 2 n
  match w.buffer with
  | none => .ok { w with packetSize := w.packetSize + (stunAttributeHeaderLen + n) }
  | some (buf, pos) =>
    if pos + (stunAttributeHeaderLen + n) ≤ buf.length then
      let b := header ++ value (coveredBytes16 buf pos n)
      .ok { w with
        buffer :=
          some (overlay (putLength buf (pos + stunAttributeHeaderLen + n - stunHeaderLen)) pos b,
            pos + (stunAttributeHeaderLen + n)) }
    else .error (.status .notEnoughMemory)

section

variable (hmac : List UInt8 → List UInt8 → Digest) (crc32 : List UInt8 → UInt32)

/-- `generateMessageIntegrity`. -/
def Writer.putIntegrity (w : Writer) (key : List UInt8) : Except Failure Writer :=
  w.putGenerated typeMessageIntegrity stunHmacValueLen fun covered => (hmac key covered).1

/-- `generateFingerprint`. -/
def Writer.putFingerprint (w : Writer) : Except Failure Writer :=
  w.putGenerated typeFingerprint stunAttributeFingerprintLen fun covered =>
    beBytes 4 (crc32 covered ^^^ stunFingerprintAttributeXorValue).toNat

def Writer.putHeader (p : StunPacket) (buf : List UInt8) : List UInt8 :=
  overlay (overlay buf 0 (beBytes 2 p.header.stunMessageType)) 4
    (beBytes 4 stunHeaderMagicCookie ++ p.header.transactionId)

def Writer.start (p : StunPacket) : Option (List UInt8) → Except Failure Writer
  | none => .ok ⟨stunHeaderLen, none, false, false⟩
  | some buf =>
    if stunHeaderLen ≤ buf.length then
      .ok ⟨buf.length, some (Writer.putHeader p buf, stunHeaderLen), false, false⟩
    else .error (.status .notEnoughMemory)

/-- The end of `serializeStunPacket`: the length of the message, and the size with the bytes. -/
def Writer.finish (w : Writer) : Except Failure (Nat × List UInt8) :=
  match w.buffer with
  | none => .ok (w.packetSize, [])
  | some (buf, pos) =>
    if w.packetSize = pos then .ok (w.packetSize, putLength buf (w.packetSize - stunHeaderLen))
    else .error (.status .internalError)

/-- What `serializeStunPacket` does after its checks. -/
def Writer.run (p : StunPacket) (password : List UInt8) (generateMessageIntegrity
    generateFingerprint : Bool) (w : Writer) : Except Failure (Nat × List UInt8) :=
  match Writer.putAttributes p.header.transactionId p.attributeList.length p.attributeList 0 w with
  | .error e => .error e
  | .ok w =>
    match if generateMessageIntegrity then w.putIntegrity hmac password else .ok w with
    | .error e => .error e
    | .ok w =>
      match if generateFingerprint then w.putFingerprint crc32 else .ok w with
      | .error e => .error e
      | .ok w => w.finish

/-- `serializeStunPacket`, into a buffer with the size that is passed in, or for the size only. -/
def serializeStunPacket (p : StunPacket) (password : Option (List UInt8))
    (generateMessageIntegrity generateFingerprint : Bool) (buffer : Option (List UInt8)) :
    Except Failure (Nat × List UInt8) :=
  if generateMessageIntegrity ∧ password = none then .error (.status .nullArg)
  else if password = some [] then .error (.status .invalidArg)
  else if p.header.magicCookie ≠ stunHeaderMagicCookie then
    .error (.status .stunMagicCookieMismatch)
  else
    match Writer.start p buffer with
    | .error e => .error e
    | .ok w => w.run hmac crc32 p (password.getD []) generateMessageIntegrity generateFingerprint

/-- Into the front of a buffer. -/
def iceUtilsPackageStunPacket (p : StunPacket) (password : Option (List UInt8))
    (buffer : List UInt8) : Except Failure (Nat × List UInt8) :=
  if password = some [] then .error (.status .invalidArg)
  else
    match serializeStunPacket hmac crc32 p password password.isSome true none with
    | .error e => .error e
    | .ok (size, _) =>
      if size ≤ buffer.length then
        match serializeStunPacket hmac crc32 p password password.isSome true
          (some (buffer.take size)) with
        | .error e => .error e
        | .ok (size, out) => .ok (size, out ++ buffer.drop size)
      else .error (.status .bufferTooSmall)

/-- The size-only call and the writing call agree: a buffer of the size that the first one returns
is filled, with the length in its header, and in a smaller one the writing call fails and stays
inside. -/
def TwoPass (p : StunPacket) (password : Option (List UInt8)) (generateMessageIntegrity
    generateFingerprint : Bool) : Prop :=
  ∃ size, serializeStunPacket hmac crc32 p password generateMessageIntegrity generateFingerprint
      none = .ok (size, []) ∧ size < 2 ^ 16 ∧
    (∀ buf : List UInt8, buf.length = size →
      ∃ out,
        serializeStunPacket hmac crc32 p password generateMessageIntegrity generateFingerprint
          (some buf) = .ok (size, out) ∧
        out.length = size ∧ fieldAt out 2 2 = .ok (beBytes 2 (size - stunHeaderLen))) ∧
    ∀ buf : List UInt8, buf.length < size →
      ∃ status,
        serializeStunPacket hmac crc32 p password generateMessageIntegrity generateFingerprint
          (some buf) = .error (.status status)

/-! ### Round trips -/

/-- The attributes that are generated behind the attributes of a packet, which end at `pos` of the
encoded message. -/
def generatedAttributes (out key : List UInt8) (pos : Nat) (generateMessageIntegrity
    generateFingerprint : Bool) : List StunAttribute :=
  let integrity : StunAttribute :=
    ⟨typeMessageIntegrity, stunHmacValueLen,
      .messageIntegrity (hmac key (coveredBytes out pos stunHmacValueLen)).1⟩
  let pos' := if generateMessageIntegrity then pos + 4 + stunHmacValueLen else pos
  let fingerprint : StunAttribute :=
    ⟨typeFingerprint, stunAttributeFingerprintLen,
      .fingerprint (crc32 (coveredBytes out pos' stunAttributeFingerprintLen) ^^^
        stunFingerprintAttributeXorValue).toNat⟩
  (if generateMessageIntegrity then [integrity] else []) ++
    if generateFingerprint then [fingerprint] else []

def encodedSize (p : StunPacket) : Nat :=
  stunHeaderLen + (p.attributeList.flatMap (encodeAttribute p.header.transactionId)).length

def generatedSize (generateMessageIntegrity generateFingerprint : Bool) : Nat :=
  (if generateMessageIntegrity then 4 + stunHmacValueLen else 0) +
    if generateFingerprint then 4 + stunAttributeFingerprintLen else 0

/-- Encoding into a buffer of the size that the first call returns, and decoding the result, gives
the packet back with the generated attributes behind its own. -/
def RoundTrips (p : StunPacket) (password : Option (List UInt8)) (generateMessageIntegrity
    generateFingerprint : Bool) : Prop :=
  ∃ size, serializeStunPacket hmac crc32 p password generateMessageIntegrity generateFingerprint
      none = .ok (size, []) ∧
    ∀ buf : List UInt8, buf.length = size →
      ∃ out packet,
        serializeStunPacket hmac crc32 p password generateMessageIntegrity generateFingerprint
          (some buf) = .ok (size, out) ∧
        deserializeStunPacket hmac crc32 out password = .ok packet ∧
        packet.header.stunMessageType = p.header.stunMessageType ∧
        packet.header.transactionId = p.header.transactionId ∧
        packet.attributeList = p.attributeList ++
          generatedAttributes hmac crc32 out (password.getD []) (encodedSize p)
            generateMessageIntegrity generateFingerprint

end

end KvsWebrtc.Stun
