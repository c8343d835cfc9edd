import KvsWebrtc.Stun.Serialize

/-!
# The allocation of a packet that is built

`createStunPacket`, the `appendStun..Attribute` functions, `updateStunNonceAttribute`,
`getFirstAvailableStunAttribute` and `getPackagedStunAttributeSize` of `Stun/Stun.c` on the records
in the allocation.  A record is known by its offset and its attribute; the place of the next one is
computed from the type that the last one has in memory, whatever it holds.

The model in `Stun.Serialize` lists the attributes only, and its calls have the types that
`serializeStunPacket` knows; `Stun.Equiv.Builder` shows that it is this one without the places.
Here an address and a flag may have any type, a pointer may be `NULL`, and a call gives a status.
What a record that is written over another one destroys is not modelled.
-/

namespace KvsWebrtc.Stun.Builder

/-- An attribute in the allocation. -/
structure Record where
  offset : Nat
  attr : StunAttribute
deriving DecidableEq

/-- `StunPacket`; `attributesCount` is the length of the list. -/
structure Packet where
  header : StunHeader
  attributeList : List Record
deriving DecidableEq

/-- The 16 bits behind the header of an attribute, where most attributes with bytes keep
`paddedLength`. The memory behind a flag is zero.  The other attributes have types for which nobody
reads the field. -/
def paddedLengthField : AttributeValue → Nat
  | .bytes paddedLength _ => paddedLength
  | .errorCode code _ _ => code
  | .address a => a.family
  | _ => 0

/-- The 16 bits after those, where an error code keeps its `paddedLength`, on a little-endian
host. -/
def errorPaddedLengthField : AttributeValue → Nat
  | .errorCode _ paddedLength _ => paddedLength
  | .address a => beNat a.port.reverse
  | _ => 0

def getPackagedStunAttributeSize (a : StunAttribute) : Nat :=
  let length :=
    match a.type with
    | 0x0001 | 0x0020 | 0x0002 | 0x0004 | 0x000B | 0x0012 | 0x0005 => sizeofAddress
    | 0x0025 | 0x001A => sizeofFlag
    | 0x0024 | 0x000D | 0x0003 | 0x0019 => sizeofNumber
    | 0x8029 | 0x802A => sizeofIceControl
    | 0x0014 | 0x0015 | 0x0013 | 0x0006 => sizeofBytes + paddedLengthField a.value
    | 0x0009 => sizeofBytes + errorPaddedLengthField a.value
    | 0x000C => sizeofNumber
    | _ => stunAttributeHeaderLen + a.length
  roundUp8 (length % 2 ^ 16) % 2 ^ 16

/-- `getFirstAvailableStunAttribute`, as an offset in the allocation. -/
def getFirstAvailableStunAttribute (p : Packet) : Except Status Nat :=
  if p.attributeList.length ≤ stunAttributeMaxCount then
    match p.attributeList.getLast? with
    | none => .ok attributesOffset
    | some r =>
      if r.attr.type = typeMessageIntegrity ∨ r.attr.type = typeFingerprint then
        .error .stunAttributesAfterFingerprintMessageIntegrity
      else
        let offset := r.offset + getPackagedStunAttributeSize r.attr
        if offset < stunPacketAllocationSize then .ok offset else .error .notEnoughMemory
  else .error .stunMaxAttributeCount

/-- `createStunPacket`; `random` is the transaction id that is generated if none is given. -/
def createStunPacket (stunPacketType : Nat) (transactionId : Option (List UInt8))
    (random : List UInt8) : Packet :=
  ⟨⟨stunPacketType, 0, stunHeaderMagicCookie, transactionId.getD random⟩, []⟩

/-- The common part of the append functions: `size` bytes must fit, and `encoded` bytes are added to
the length of the message. -/
def appendAttribute (p : Packet) (a : StunAttribute) (size encoded : Nat) : Status × Packet :=
  match getFirstAvailableStunAttribute p with
  | .error e => (e, p)
  | .ok offset =>
    if offset + size ≤ stunPacketAllocationSize then
      (.success,
        { header :=
            { p.header with
              messageLength := (p.header.messageLength + encoded + stunAttributeHeaderLen) %
              2 ^ 16 }
          attributeList := p.attributeList ++ [⟨offset, a⟩] })
    else (.notEnoughMemory, p)

def appendStunAddressAttribute (p : Packet) (addressAttributeType : Nat)
    (pAddress : Option KvsIpAddress) : Status × Packet :=
  match pAddress with
  | none => (.nullArg, p)
  | some a =>
    appendAttribute p (addressAttribute addressAttributeType a) (roundUp8 sizeofAddress)
      (addressAttribute addressAttributeType a).length

def appendBytes (p : Packet) (type : Nat) (b : Option (List UInt8)) : Status × Packet :=
  match b with
  | none => (.nullArg, p)
  | some b =>
    appendAttribute p (bytesAttribute type b) (roundUp8 (roundUp16 b.length + sizeofBytes))
      (roundUp16 b.length)

def appendStunUsernameAttribute (p : Packet) (userName : Option (List UInt8)) : Status × Packet :=
  appendBytes p typeUsername (userName.map fun s => boundedString s stunMaxUsernameLen)

def appendStunRealmAttribute (p : Packet) (realm : Option (List UInt8)) : Status × Packet :=
  appendBytes p typeRealm (realm.map fun s => boundedString s stunMaxRealmLen)

def appendStunNonceAttribute (p : Packet) (nonce : Option (List UInt8)) : Status × Packet :=
  appendBytes p typeNonce nonce

def appendStunDataAttribute (p : Packet) (data : Option (List UInt8)) : Status × Packet :=
  appendBytes p typeData data

def appendFour (p : Packet) (type : Nat) (value : AttributeValue) : Status × Packet :=
  appendAttribute p ⟨type, 4, value⟩ (roundUp8 sizeofNumber) 4

def appendStunPriorityAttribute (p : Packet) (priority : UInt32) : Status × Packet :=
  appendFour p typePriority (.number priority.toNat)

def appendStunLifetimeAttribute (p : Packet) (lifetime : UInt32) : Status × Packet :=
  appendFour p typeLifetime (.number lifetime.toNat)

def appendStunChangeRequestAttribute (p : Packet) (changeFlag : UInt32) : Status × Packet :=
  appendFour p typeChangeRequest (.number changeFlag.toNat)

def appendStunRequestedTransportAttribute (p : Packet) (protocol : UInt8) : Status × Packet :=
  appendFour p typeRequestedTransport (.fourBytes [protocol, 0, 0, 0])

/-- `appendStunAllocationAddressFamily`, which rounds its size up to 4 only; it is 8 anyway. -/
def appendStunAllocationAddressFamily (p : Packet) (ipFamily : UInt8) : Status × Packet :=
  appendAttribute p ⟨typeRequestedAddressFamily, 4, .fourBytes [ipFamily, 0, 0, 0]⟩
    (roundUp sizeofNumber) 4

def appendStunChannelNumberAttribute (p : Packet) (channelNumber : UInt16) : Status × Packet :=
  appendFour p typeChannelNumber (.channelNumber channelNumber.toNat)

def appendStunFlagAttribute (p : Packet) (attrType : Nat) : Status × Packet :=
  appendAttribute p ⟨attrType, 0, .headerOnly⟩ (roundUp8 sizeofFlag) 0

def appendStunErrorCodeAttribute (p : Packet) (errorPhrase : Option (List UInt8))
    (errorCode : UInt16) :
    Status × Packet :=
  match errorPhrase with
  | none => (.nullArg, p)
  | some s =>
    let b := boundedString s stunMaxErrorPhraseLen
    appendAttribute p
      ⟨typeErrorCode, b.length, .errorCode errorCode.toNat (roundUp16 b.length) (padded b)⟩
      (roundUp8 (roundUp16 b.length + sizeofBytes)) (roundUp16 b.length)

def appendStunIceControllAttribute (p : Packet) (attributeType : Nat) (tieBreaker : UInt64) :
    Status × Packet :=
  if attributeType = typeIceControlling ∨ attributeType = typeIceControlled then
    appendAttribute p ⟨attributeType, 8, .tieBreaker tieBreaker.toNat⟩ (roundUp8 sizeofIceControl) 8
  else (.invalidArg, p)

def Record.isNonce (r : Record) : Bool := r.attr.type == typeNonce

def Record.setNonce (nonce : List UInt8) (r : Record) : Record :=
  { r with attr := { r.attr with
      value :=
        match r.attr.value with
        | .bytes paddedLength b => .bytes paddedLength (nonce ++ b.drop nonce.length)
        | value => value } }

def hasPointer : AttributeValue → Bool
  | .bytes _ _ => true
  | _ => false

/-- `updateStunNonceAttribute`; `none` if it copies the nonce to where a field that is no pointer
points. -/
def updateStunNonceAttribute (p : Packet) (nonce : Option (List UInt8)) :
    Option (Status × Packet) :=
  match nonce with
  | none => some (.nullArg, p)
  | some nonce =>
    match p.attributeList.find? Record.isNonce with
    | none => some (.success, p)
    | some r =>
      if r.attr.length ≠ nonce.length then some (.invalidArg, p)
      else if hasPointer r.attr.value ∨ nonce = [] then
        some (.success, { p with
          attributeList := p.attributeList.modify (p.attributeList.findIdx Record.isNonce)
            (Record.setNonce nonce) })
      else none

/-- The bytes of an argument whose length is a `UINT16`. -/
abbrev Bytes16 := { b : List UInt8 // b.length < 2 ^ 16 }

/-- A call of one of the functions. -/
inductive Call
  | address (type : UInt16) (pAddress : Option KvsIpAddress)
  | username (userName : Option (List UInt8))
  | priority (priority : UInt32)
  | flag (type : UInt16)
  | lifetime (lifetime : UInt32)
  | changeRequest (changeFlag : UInt32)
  | requestedTransport (protocol : UInt8)
  | realm (realm : Option (List UInt8))
  | allocationAddressFamily (ipFamily : UInt8)
  | nonce (nonce : Option Bytes16)
  | updateNonce (nonce : Option Bytes16)
  | errorCode (errorPhrase : Option (List UInt8)) (errorCode : UInt16)
  | iceControl (type : UInt16) (tieBreaker : UInt64)
  | data (data : Option Bytes16)
  | channelNumber (channelNumber : UInt16)

def Call.run (p : Packet) : Call → Option (Status × Packet)
  | .address type pAddress => some (appendStunAddressAttribute p type.toNat pAddress)
  | .username userName => some (appendStunUsernameAttribute p userName)
  | .priority n => some (appendStunPriorityAttribute p n)
  | .flag type => some (appendStunFlagAttribute p type.toNat)
  | .lifetime n => some (appendStunLifetimeAttribute p n)
  | .changeRequest n => some (appendStunChangeRequestAttribute p n)
  | .requestedTransport protocol => some (appendStunRequestedTransportAttribute p protocol)
  | .realm s => some (appendStunRealmAttribute p s)
  | .allocationAddressFamily ipFamily => some (appendStunAllocationAddressFamily p ipFamily)
  | .nonce b => some (appendStunNonceAttribute p (b.map Subtype.val))
  | .updateNonce b => updateStunNonceAttribute p (b.map Subtype.val)
  | .errorCode errorPhrase code => some (appendStunErrorCodeAttribute p errorPhrase code)
  | .iceControl type tieBreaker => some (appendStunIceControllAttribute p type.toNat tieBreaker)
  | .data b => some (appendStunDataAttribute p (b.map Subtype.val))
  | .channelNumber n => some (appendStunChannelNumberAttribute p n)

/-- The packet after a call, if there still is one. -/
def step (p : Option Packet) (c : Call) : Option Packet := p.bind fun p => (c.run p).map Prod.snd

end KvsWebrtc.Stun.Builder
