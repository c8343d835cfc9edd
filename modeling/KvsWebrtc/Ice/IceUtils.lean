import KvsWebrtc.Common.Text
import KvsWebrtc.Ice.Network
import KvsWebrtc.Ice.TurnChannelData
import KvsWebrtc.Stun.Packet

/-!
# The URLs of ICE servers

`parseIceServer` of `Ice/IceUtils.c`, for pointers to a server and a URL that are present.  A text
is the list of its characters without the zero behind them.  What is logged is left out.
-/

namespace KvsWebrtc.Ice.IceUtils

open Text (strstr)
open Stun (KvsIpAddress)
open Signaling (maxIceConfigUriLen maxIceConfigUserNameLen maxIceConfigCredentialLen)

def iceStunDefaultPort : Nat := 3478

/-- The addresses of a name.  An address of family zero is not set. -/
structure DualKvsIpAddresses where
  ipv4Address : KvsIpAddress
  ipv6Address : KvsIpAddress
deriving DecidableEq

/-- An ICE server.  Its texts are arrays, and the protocol is `none` for
`KVS_SOCKET_PROTOCOL_NONE`. -/
structure IceServer where
  isTurn : Bool
  isSecure : Bool
  url : List Char
  ipAddresses : DualKvsIpAddresses
  username : List Char
  credential : List Char
  transport : Option KvsSocketProtocol
  setIpFn : Option (List Char → DualKvsIpAddresses → Status × DualKvsIpAddresses)

/-- What is called: the reading of a number in base ten, up to a place or to the end of the text,
and `getIpWithHostName`. -/
structure Platform where
  strtoui32 : List Char → Option Int → Except Status Nat
  getIpWithHostName : List Char → DualKvsIpAddresses → Status × DualKvsIpAddresses

/-- `STRNCPY` of `n` characters into an array.  Behind the text it writes zeros. -/
def strncpy (array text : List Char) (n : Nat) : Except Failure (List Char) :=
  if n ≤ array.length then .ok ((text ++ List.replicate n '\x00').take n ++ array.drop n)
  else .error .outOfBounds

def cString (array : List Char) : Except Failure (List Char) :=
  if '\x00' ∈ array then .ok (array.takeWhile (· != '\x00')) else .error .outOfBounds

/-- `STRCHR`: the text from the first `c` on. -/
def strchr (c : Char) (text : List Char) : Option (List Char) :=
  if c ∈ text then some (text.dropWhile (· != c)) else none

def urlTransport (url : List Char) : Option KvsSocketProtocol :=
  if (strstr "transport=udp".toList url).isSome then some .udp
  else if (strstr "transport=tcp".toList url).isSome then some .tcp
  else none

def parsePrefix (server : IceServer) (url username credential : List Char) :
    Except Failure (Status × IceServer) :=
  if "stun:".toList.isPrefixOf url then .ok (.success, { server with isTurn := false })
  else if "turn:".toList.isPrefixOf url ∨ "turns:".toList.isPrefixOf url then
    if username = [] then .ok (.iceUrlTurnMissingUsername, server)
    else if credential = [] then .ok (.iceUrlTurnMissingCredential, server)
    else do
      let usernameField ← strncpy server.username username maxIceConfigUserNameLen
      let credentialField ← strncpy server.credential credential maxIceConfigCredentialLen
      return (.success, { server with
        username := usernameField
        credential := credentialField
        isTurn := true
        isSecure := "turns:".toList.isPrefixOf url
        transport := urlTransport url })
  else .ok (.iceUrlInvalidPrefix, server)

/-- The second part: the host and the port.  A question mark may stand before the colon. -/
def parseHost (platform : Platform) (server : IceServer) (urlNoPrefix : List Char) :
    Except Failure (Status × IceServer × Nat) :=
  match strchr ':' urlNoPrefix with
  | some (_ :: separator) =>
    let paramStart := (strchr '?' urlNoPrefix).map fun param =>
      (separator.length : Int) - param.length
    match platform.strtoui32 separator paramStart with
    | .error status => .ok (status, server, iceStunDefaultPort)
    | .ok port => do
      let n := urlNoPrefix.length - separator.length - 1
      let url ← strncpy server.url urlNoPrefix n
      let url ← store url n '\x00'
      return (.success, { server with url := url }, port)
  | _ => do
    let url ← strncpy server.url urlNoPrefix maxIceConfigUriLen
    return (.success, { server with url := url }, iceStunDefaultPort)

/-- Sets the port of an address that is set.  Numbers of 16 bits are stored in network order. -/
def withPort (port : Nat) (ipAddress : KvsIpAddress) : KvsIpAddress :=
  if ipAddress.family ≠ 0 then { ipAddress with
    port := [UInt8.ofNat (port / 256), UInt8.ofNat port] }
  else ipAddress

/-- The end of the function, behind the resolution of the name.  The texts of the addresses are for
the log, and they fit. -/
def setPorts (server : IceServer) (port : Nat) (ipAddresses : DualKvsIpAddresses) : IceServer :=
  { server with
    ipAddresses := ⟨withPort port ipAddresses.ipv4Address, withPort port ipAddresses.ipv6Address⟩ }

/-- The resolution by `getIpWithHostName`. -/
def resolveHost (platform : Platform) (server : IceServer) (port : Nat) (url : List Char)
    (ipAddresses : DualKvsIpAddresses) : Status × IceServer :=
  match platform.getIpWithHostName url ipAddresses with
  | (.success, ipAddresses) => (.success, setPorts server port ipAddresses)
  | (status, ipAddresses) => (status, { server with ipAddresses := ipAddresses })

/-- The third part: the addresses of the host.  Some errors of `setIpFn` make `getIpWithHostName`
resolve the name, and the others are kept. -/
def resolve (platform : Platform) (server : IceServer) (port : Nat) : Except Failure
    (Status × IceServer) := do
  let url ← cString server.url
  match server.setIpFn with
  | none => return resolveHost platform server port url server.ipAddresses
  | some setIpFn =>
    match setIpFn url server.ipAddresses with
    | (.nullArg, ipAddresses) => return resolveHost platform server port url ipAddresses
    | (.peerConnectionEarlyDnsResolutionFailed, ipAddresses) =>
      return resolveHost platform server port url ipAddresses
    | (status, ipAddresses) => return (status, setPorts server port ipAddresses)

/-- `parseIceServer`: the status, and the server afterwards.  A missing user name or credential is
an empty one. -/
def parseIceServer (platform : Platform) (server : IceServer)
    (url username credential : List Char) :
    Except Failure (Status × IceServer) := do
  let (status, server) ← parsePrefix server url username credential
  if status.failed then return (status, server)
  let (status, server, port) ← parseHost platform server ((url.dropWhile (· != ':')).drop 1)
  if status.failed then return (status, server)
  resolve platform server port

end KvsWebrtc.Ice.IceUtils
