import KvsWebrtc.Common.BigEndian
import KvsWebrtc.Common.Status

/-!
# STUN packets

The records of `Stun/Stun.h`.  Numbers of more than one byte are numbers here, whatever their order
in memory; a port and an address, which the source keeps in network byte order, are their bytes.
The address of a `KvsIpAddress` holds the bytes that its family uses.
-/

namespace KvsWebrtc.Stun

def stunHeaderLen : Nat := 20

def stunHeaderMagicCookie : Nat := 0x2112A442

def stunAttributeHeaderLen : Nat := 4

def stunAttributeMaxCount : Nat := 20

def stunHmacValueLen : Nat := 20

def stunAttributeFingerprintLen : Nat := 4

def stunFingerprintAttributeXorValue : UInt32 := 0x5354554e

def stunMaxUsernameLen : Nat := 512

/-- `STUN_MAX_REALM_LEN`, `STUN_MAX_NONCE_LEN` and `STUN_MAX_ERROR_PHRASE_LEN`. -/
def stunMaxRealmLen : Nat := 128

@[inherit_doc stunMaxRealmLen] def stunMaxNonceLen : Nat := 128

@[inherit_doc stunMaxRealmLen] def stunMaxErrorPhraseLen : Nat := 128

/-! ### Types of attributes -/

/-- `STUN_ATTRIBUTE_TYPE`, as far as the modelled functions name the types. -/
def typeMappedAddress : Nat := 0x0001

@[inherit_doc typeMappedAddress] def typeChangeRequest : Nat := 0x0003
@[inherit_doc typeMappedAddress] def typeUsername : Nat := 0x0006
@[inherit_doc typeMappedAddress] def typeMessageIntegrity : Nat := 0x0008
@[inherit_doc typeMappedAddress] def typeErrorCode : Nat := 0x0009
@[inherit_doc typeMappedAddress] def typeChannelNumber : Nat := 0x000C
@[inherit_doc typeMappedAddress] def typeLifetime : Nat := 0x000D
@[inherit_doc typeMappedAddress] def typeXorPeerAddress : Nat := 0x0012
@[inherit_doc typeMappedAddress] def typeData : Nat := 0x0013
@[inherit_doc typeMappedAddress] def typeRealm : Nat := 0x0014
@[inherit_doc typeMappedAddress] def typeNonce : Nat := 0x0015
@[inherit_doc typeMappedAddress] def typeXorRelayedAddress : Nat := 0x0016
@[inherit_doc typeMappedAddress] def typeRequestedAddressFamily : Nat := 0x0017
@[inherit_doc typeMappedAddress] def typeRequestedTransport : Nat := 0x0019
@[inherit_doc typeMappedAddress] def typeXorMappedAddress : Nat := 0x0020
@[inherit_doc typeMappedAddress] def typePriority : Nat := 0x0024
@[inherit_doc typeMappedAddress] def typeUseCandidate : Nat := 0x0025
@[inherit_doc typeMappedAddress] def typeFingerprint : Nat := 0x8028
@[inherit_doc typeMappedAddress] def typeIceControlled : Nat := 0x8029
@[inherit_doc typeMappedAddress] def typeIceControlling : Nat := 0x802A

/-- The groups of types that the switch statements of the decoder tell apart. -/
inductive AttributeKind
  | address
  | username
  | priority
  | flag
  | lifetime
  | changeRequest
  | requestedTransport
  | realm
  | nonce
  | errorCode
  | iceControl
  | data
  | channelNumber
  | messageIntegrity
  | fingerprint
deriving DecidableEq

/-- The case that a type falls into in the decoder; `none` is the default case. -/
def kindOf : Nat → Option AttributeKind
  | 0x0001 | 0x0002 | 0x0004 | 0x0005 | 0x000B | 0x0012 | 0x0016 | 0x0020 => some .address
  | 0x0003 => some .changeRequest
  | 0x0006 => some .username
  | 0x0008 => some .messageIntegrity
  | 0x0009 => some .errorCode
  | 0x000C => some .channelNumber
  | 0x000D => some .lifetime
  | 0x0013 => some .data
  | 0x0014 => some .realm
  | 0x0015 => some .nonce
  | 0x0019 => some .requestedTransport
  | 0x001A | 0x0025 => some .flag
  | 0x0024 => some .priority
  | 0x8028 => some .fingerprint
  | 0x8029 | 0x802A => some .iceControl
  | _ => none

/-! ### Records -/

structure KvsIpAddress where
  family : Nat
  port : List UInt8
  address : List UInt8
deriving DecidableEq

/-- `KVS_IP_FAMILY_TYPE_IPV4`. -/
def familyIpv4 : Nat := 1

/-- `KVS_IP_FAMILY_TYPE_IPV6`. -/
def familyIpv6 : Nat := 2

/-- `IPV4_ADDRESS_LENGTH` or `IPV6_ADDRESS_LENGTH`, as `IS_IPV4_ADDR` tells. -/
def ipAddressLength (family : Nat) : Nat := if family = familyIpv4 then 4 else 16

/-- What an attribute holds besides its header. -/
inductive AttributeValue
  | address (a : KvsIpAddress)
  /-- `paddedLength` and the padded bytes of a user name, realm, nonce or data. -/
  | bytes (paddedLength : Nat) (b : List UInt8)
  | errorCode (code paddedLength : Nat) (phrase : List UInt8)
  /-- A priority, a lifetime or the flag of a change request. -/
  | number (n : Nat)
  /-- The four bytes of a requested transport or address family. -/
  | fourBytes (b : List UInt8)
  | tieBreaker (n : Nat)
  | channelNumber (n : Nat)
  | messageIntegrity (b : List UInt8)
  | fingerprint (n : Nat)
  /-- A flag, or an attribute of which only the header was written. -/
  | headerOnly
deriving DecidableEq

/-- An attribute with its `StunAttributeHeader`. -/
structure StunAttribute where
  type : Nat
  length : Nat
  value : AttributeValue
deriving DecidableEq

structure StunHeader where
  stunMessageType : Nat
  messageLength : Nat
  magicCookie : Nat
  transactionId : List UInt8
deriving DecidableEq

/-- `StunPacket`; `attributesCount` is the length of the list. -/
structure StunPacket where
  header : StunHeader
  attributeList : List StunAttribute
deriving DecidableEq

/-- `getStunAttribute`: the first attribute of a type. -/
def getStunAttribute (p : StunPacket) (attributeType : Nat) : Option StunAttribute :=
  p.attributeList.find? fun a => a.type == attributeType

/-! ### Bytes of a buffer -/

/-- `putInt16` of the length in the header of a packet. -/
def putLength (buf : List UInt8) (v : Nat) : List UInt8 := buf.take 2 ++ beBytes 2 v ++ buf.drop 4

/-- `ROUND_UP(length, 4)`. -/
def roundUp (length : Nat) : Nat := (length + 3) / 4 * 4

/-- `(UINT16) ROUND_UP(length, 4)`. -/
def roundUp16 (length : Nat) : Nat := roundUp length % 2 ^ 16

/-- A digest of `KVS_SHA1_HMAC`. -/
abbrev Digest := { b : List UInt8 // b.length = stunHmacValueLen }

/-! ### XOR addresses -/

/-- Exclusive or with the bytes of a mask; bytes behind the mask stay as they are. -/
def xorBytes : List UInt8 → List UInt8 → List UInt8
  | a :: as, m :: ms => (a ^^^ m) :: xorBytes as ms
  | as, _ => as

/-- `xorIpAddress`, which is also what the decoder of a little-endian host does to an
`XOR-MAPPED-ADDRESS`: the port and the first four bytes with the magic cookie, the rest of an IPv6
address with the transaction id. -/
def xorIpAddress (a : KvsIpAddress) (transactionId : List UInt8) : KvsIpAddress :=
  { a with
    port := xorBytes a.port (beBytes 2 (stunHeaderMagicCookie / 2 ^ 16))
    address := xorBytes a.address
      (beBytes 4 stunHeaderMagicCookie ++ if a.family = familyIpv6 then transactionId else []) }

end KvsWebrtc.Stun
