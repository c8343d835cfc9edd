import KvsWebrtc.Common.Memory
import KvsWebrtc.Signaling.JoinResponse

/-!
# Addresses in host names

`getIpAddrFromDnsHostname` and `getDualStackIpAddrFromDnsHostname` of `Ice/Network.c`, for pointers
that are present.  A pointer to characters is the list of those from it on, and a destination is the
array that is written to; whatever lies outside of them fails with `outOfBounds`.  What is logged is
left out.
-/

namespace KvsWebrtc.Ice

open Signaling (maxIceConfigUriLen)

def store (array : List Char) (i : Nat) (c : Char) : Except Failure (List Char) :=
  if i < array.length then .ok (array.set i c) else .error .outOfBounds

/-- How an address is written in a host name: what ends it, its digits, and what stands in the
address for a dash. -/
structure AddressFormat where
  stop : Char
  isDigit : Char → Bool
  separator : Char

/-- The address of a host name of the legacy form, which the first label is. -/
def legacyFormat : AddressFormat := ⟨'.', Char.isDigit, '.'⟩

/-- The first address of a host name of the dual-stack form. -/
def ipv4Format : AddressFormat := ⟨'_', Char.isDigit, '.'⟩

def ipv6Format : AddressFormat where
  stop := '.'
  isDigit c := c.isDigit || ('a' ≤ c && c ≤ 'f') || ('A' ≤ c && c ≤ 'F')
  separator := ':'

/-- The cursors of a loop and the array it writes to.  `i` and `j` are numbers of 8 bits. -/
structure Cursors where
  hostNameLen : Nat
  i : Nat
  j : Nat
  address : List Char

def Cursors.advance (s : Cursors) (c : Char) : Except Failure Cursors :=
  (store s.address s.j c).map fun address =>
    { hostNameLen := s.hostNameLen - 1, i := (s.i + 1) % 2 ^ 8, j := (s.j + 1) % 2 ^ 8,
      address := address }

/-- The loop of `getIpAddrFromDnsHostname` over `hostNameLen` characters, with its status. -/
def legacyLoop (hostname : List Char) (maxLenDst : Nat) : Nat → Cursors → Except Failure
    (Status × Cursors)
  | 0, s => .ok (.success, s)
  | hostNameLen + 1, s =>
    match hostname[s.i]? with
    | none => .error .outOfBounds
    | some c =>
      if c = legacyFormat.stop then .ok (.success, s)
      else if legacyFormat.isDigit c ∨ c = '-' then
        if s.j > maxLenDst then .ok (.invalidAddressLength, s)
        else do
          let s ← s.advance (if legacyFormat.isDigit c then c else legacyFormat.separator)
          legacyLoop hostname maxLenDst hostNameLen s
      else .ok (.success, s)

/-- `getIpAddrFromDnsHostname`: the status, and the array `address` afterwards. -/
def getIpAddrFromDnsHostname (hostname address : List Char) (lengthSrc maxLenDst : Nat) :
    Except Failure (Status × List Char) :=
  if 0 < lengthSrc ∧ lengthSrc < maxIceConfigUriLen then do
    let (status, s) ← legacyLoop hostname maxLenDst lengthSrc ⟨lengthSrc, 0, 0, address⟩
    let address ← store s.address s.j '\x00'
    return (status, address)
  else .ok (.invalidArg, address)

/-- The loops of `getDualStackIpAddrFromDnsHostname`. -/
def addressLoop (format : AddressFormat) (hostname : List Char) (maxLenDst : Nat) :
    Nat → Cursors → Except Failure (Status × Cursors)
  | 0, s => .ok (.success, s)
  | hostNameLen + 1, s =>
    match hostname[s.i]? with
    | none => .error .outOfBounds
    | some c =>
      if c = format.stop then .ok (.success, s)
      else if s.j < maxLenDst then
        if format.isDigit c then do
          let s ← s.advance c
          addressLoop format hostname maxLenDst hostNameLen s
        else if c = '-' then do
          let s ← s.advance format.separator
          addressLoop format hostname maxLenDst hostNameLen s
        else .ok (.invalidArg, s)
      else .ok (.invalidAddressLength, s)

/-- The end of `getDualStackIpAddrFromDnsHostname`. -/
def cleanUp (status : Status) (ipv4Address ipv6Address : List Char) :
    Except Failure (Status × List Char × List Char) :=
  if status.failed then do
    let ipv4Address ← store ipv4Address 0 '\x00'
    let ipv6Address ← store ipv6Address 0 '\x00'
    return (status, ipv4Address, ipv6Address)
  else .ok (status, ipv4Address, ipv6Address)

/-- `getDualStackIpAddrFromDnsHostname`: the status, and the two arrays afterwards. -/
def getDualStackIpAddrFromDnsHostname (hostname ipv4Address ipv6Address : List Char)
    (lengthSrc maxLenV4Dst maxLenV6Dst : Nat) : Except Failure (Status × List Char × List Char) :=
  if 0 < lengthSrc ∧ lengthSrc < maxIceConfigUriLen then do
    let (status, s) ← addressLoop ipv4Format hostname maxLenV4Dst lengthSrc
        ⟨lengthSrc, 0, 0, ipv4Address⟩
    if status.failed then cleanUp status s.address ipv6Address
    else
      let ipv4Address ← store s.address s.j '\x00'
      let hostNameLen := (s.hostNameLen + 2 ^ 16 - 1) % 2 ^ 16
      let (status, s) ← addressLoop ipv6Format hostname maxLenV6Dst hostNameLen
        ⟨hostNameLen, (s.i + 1) % 2 ^ 8, 0, ipv6Address⟩
      if status.failed then cleanUp status ipv4Address s.address
      else
        let ipv6Address ← store s.address s.j '\x00'
        cleanUp status ipv4Address ipv6Address
  else cleanUp .invalidArg ipv4Address ipv6Address

end KvsWebrtc.Ice
