import KvsWebrtc.Relay.Protocol

/-!
# The sessions and channels of the relay

`session.c` of the relay server.  A pointer to a session is its number in the order of creation, and
a session that has been destroyed leaves its number empty, so that a pointer to it can be told from
one to a session created later.  Channels are never removed; a pointer to a channel is its index in
the table.
-/

namespace KvsWebrtc.Relay

/-- `session_t`, with the variable `ch` of the thread that serves the session. -/
structure Session where
  joined : Bool
  channelName : List UInt8
  clientId : List UInt8
  role : List UInt8
  peer : Option Nat
  ch : Option Nat
  clientId_le : clientId.length ≤ maxClientId

/-- `channel_t`. -/
structure Channel where
  name : List UInt8
  master : Option Nat
  viewer : Option Nat

def maxChannels : Nat := 64

/-- `KVS_ROLE_MASTER`. -/
def roleMaster : List UInt8 := bytesOf "master"

/-- The channel table and the sessions. -/
structure Server where
  channels : List Channel
  sessions : List (Option Session)

namespace Server

/-- The server before any client connects. -/
def initial : Server where
  channels := []
  sessions := []

/-- The session a pointer refers to, unless it has been destroyed. -/
def session (r : Server) (s : Nat) : Option Session := r.sessions[s]?.join

def modifySession (r : Server) (s : Nat) (f : Session → Session) : Server :=
  { r with sessions := r.sessions.modify s (Option.map f) }

def sessionCreate (r : Server) : Server :=
  { r with sessions := r.sessions ++ [some
    { joined := false, channelName := [], clientId := [], role := [], peer := none, ch := none,
      clientId_le := Nat.zero_le _ }] }

def sessionDestroy (r : Server) (s : Nat) : Server :=
  { r with sessions := r.sessions.set s none }

def sessionSetJoined (r : Server) (s : Nat) (j : JoinRequest) : Server :=
  r.modifySession s fun a =>
    { a with
      joined := true
      channelName := strncpy maxChannelName j.channelName
      clientId := strncpy maxClientId j.clientId
      role := strncpy (roleSize - 1) j.role
      clientId_le := length_strncpy_le maxClientId j.clientId }

def sessionSetPeer (r : Server) (s : Nat) (peer : Option Nat) : Server :=
  r.modifySession s fun a => { a with peer := peer }

def channelCreate (name : List UInt8) : Channel where
  name := strncpy maxChannelName name
  master := none
  viewer := none

def channelFindOrCreate (r : Server) (channelName : List UInt8) : Option Nat × Server :=
  match r.channels.findIdx? (·.name = cString channelName) with
  | some k => (some k, r)
  | none =>
    if r.channels.length ≥ maxChannels then (none, r)
    else
      (some r.channels.length, { r with channels := r.channels ++ [channelCreate channelName] })

end Server

namespace Channel

def enter (c : Channel) (role : List UInt8) (s : Nat) : Channel :=
  if role = roleMaster then { c with master := some s } else { c with viewer := some s }

/-- The peer that `channel_register` finds for `s`. -/
def registeredPeer (c : Channel) (s : Nat) : Option Nat :=
  match c.master, c.viewer with
  | some m, some v => if s = m then some v else some m
  | _, _ => none

/-- The slots of `s` are emptied. -/
def leave (c : Channel) (s : Nat) : Channel :=
  { c with
    master := if c.master = some s then none else c.master
    viewer := if c.viewer = some s then none else c.viewer }

def channelGetPeer (c : Channel) (s : Nat) : Option Nat :=
  if c.master = some s then c.viewer else c.master

end Channel

namespace Server

def channelRegister (r : Server) (k s : Nat) : Server :=
  match r.channels[k]?, r.session s with
  | some c, some a =>
    let c := c.enter a.role s
    let r := { r with channels := r.channels.set k c }
    match c.registeredPeer s with
    | some peer => (r.sessionSetPeer s (some peer)).sessionSetPeer peer (some s)
    | none => r
  | _, _ => r

def channelUnregister (r : Server) (k s : Nat) : Server :=
  match r.channels[k]?, r.session s with
  | some c, some a =>
    let r := { r with channels := r.channels.set k (c.leave s) }
    match a.peer with
    | some peer => (r.sessionSetPeer peer none).sessionSetPeer s none
    | none => r
  | _, _ => r

end Server

end KvsWebrtc.Relay
