import KvsWebrtc.Common.Text
import KvsWebrtc.Ice.Agent

/-!
# Local and remote candidates

The functions of `Ice/IceAgent.c` that add candidates to the lists of the agent, and the timer
callback that turns a gathered candidate into one that has pairs.

`inet_pton` and `STRTOUI32` are parameters, as are the address that a TURN connection has been given
and what the network does with a request.  Each local candidate has a socket of its own, which is
named by the address of the candidate.  `STATUS_SUCCESS` comes with the agent as it is afterwards,
and so does an error.

`iceCandidateSerialize` of `Ice/IceAgent.c`.  The foundation of a candidate is used for nothing
else, and is a parameter here.
-/

namespace KvsWebrtc.Ice

open Stun

/-! ### The candidate string -/

/-- `SDP_ICE_CANDIDATE_PARSER_STATE`, up to the type of the candidate. -/
inductive SdpIceCandidateParserState
  | foundation
  | component
  | protocol
  | priority
  | ip
  | port
  | typeId
  | typeVal
deriving DecidableEq

def sdpIceCandidateParserStates : List SdpIceCandidateParserState :=
  [.foundation, .component, .protocol, .priority, .ip, .port, .typeId, .typeVal]

/-- What the parser has read. -/
structure ParsedCandidate where
  foundIp : Bool
  ipAddress : KvsIpAddress
  priority : Nat
  iceCandidateType : IceCandidateType
deriving DecidableEq

/-- `STRNCMPI(text, token, tokenLen) == 0`, which holds for every start of the text. -/
def matchesText (text : String) (token : List Char) : Bool :=
  (token.map Char.toLower).isPrefixOf text.toList

/-- `KVS_IP_ADDRESS_STRING_BUFFER_LEN - 1`. -/
def maxIpAddressStringLen : Nat := 45

section

variable (inetPton : Nat → List Char → Option (List UInt8))
    (strtoui32 : List Char → Except Status Nat)

/-- The case of the parser's loop for a token. -/
def ParsedCandidate.read (parsed : ParsedCandidate) (token : List Char) :
    SdpIceCandidateParserState → Except Status ParsedCandidate
  | .foundation | .component => .ok parsed
  | .priority =>
    match strtoui32 token with
    | .error _ => .ok parsed
    | .ok priority => .ok { parsed with priority := priority }
  | .protocol => if matchesText "tcp" token then .error .iceCandidateStringIsTcp else .ok parsed
  | .ip =>
    match inetPton familyIpv4 (token.take maxIpAddressStringLen) with
    | some address =>
      .ok { parsed with
        foundIp := true
        ipAddress := { parsed.ipAddress with family := familyIpv4, address := address } }
    | none =>
      match inetPton familyIpv6 (token.take maxIpAddressStringLen) with
      | some address =>
        .ok { parsed with
          foundIp := true
          ipAddress := { parsed.ipAddress with family := familyIpv6, address := address } }
      | none => .error .iceCandidateStringMissingIp
  | .port =>
    match strtoui32 token with
    | .error e => .error e
    | .ok port =>
      .ok { parsed with ipAddress := { parsed.ipAddress with port := beBytes 2 port } }
  | .typeId => if matchesText "typ" token then .ok parsed else .error .iceCandidateStringMissingType
  | .typeVal =>
    if matchesText "host" token then .ok { parsed with iceCandidateType := .host }
    else if matchesText "srflx" token then .ok { parsed with iceCandidateType := .serverReflexive }
    else if matchesText "prflx" token then .ok { parsed with iceCandidateType := .peerReflexive }
    else if matchesText "relay" token then .ok { parsed with iceCandidateType := .relayed }
    else .ok parsed

/-- The loop over the tokens that a blank follows, up to the type of the candidate. -/
def parseCandidate (iceCandidateString : List Char) : Except Status ParsedCandidate :=
  (((iceCandidateString.splitOn ' ').dropLast).zip sdpIceCandidateParserStates).foldlM
    (fun parsed t => ParsedCandidate.read inetPton strtoui32 parsed t.1 t.2)
    ⟨false, ⟨0, [0, 0], []⟩, 0, .host⟩

end

namespace IceAgent

/-! ### Peers of TURN connections -/

/-- `turnConnectionAddPeer`, on the TURN connection of a candidate. -/
def turnConnectionAddPeer (agent : IceAgent) (c : Nat) (peerAddress : KvsIpAddress) :
    Status × IceAgent :=
  if (agent.candidate c).turnPeers.any fun peer => sameIpAddress peer peerAddress true then
    (.success, agent)
  else if (agent.candidate c).turnPeers.length < defaultTurnMaxPeerCount then
    (.success, agent.modifyCandidate c fun candidate =>
      { candidate with turnPeers := candidate.turnPeers ++ [peerAddress] })
  else (.invalidOperation, agent)

/-- A remote candidate is passed to the TURN connections of the relayed candidates. -/
def addTurnPeer (peerAddress : KvsIpAddress) : List Nat → IceAgent → Status × IceAgent
  | [], agent => (.success, agent)
  | c :: candidates, agent =>
    if (agent.candidate c).iceCandidateType = .relayed ∧ peerAddress.family = familyIpv4 then
      match agent.turnConnectionAddPeer c peerAddress with
      | (.success, agent) => addTurnPeer peerAddress candidates agent
      | failed => failed
    else addTurnPeer peerAddress candidates agent

/-- The remote candidates are passed to the TURN connection of a relayed candidate. -/
def addTurnPeers (c : Nat) : List Nat → IceAgent → Status × IceAgent
  | [], agent => (.success, agent)
  | r :: candidates, agent =>
    if (agent.candidate r).ipAddress.family = familyIpv4 then
      match agent.turnConnectionAddPeer c (agent.candidate r).ipAddress with
      | (.success, agent) => addTurnPeers c candidates agent
      | failed => failed
    else addTurnPeers c candidates agent

/-! ### Remote candidates -/

def addRemote (agent : IceAgent) (iceCandidateType : IceCandidateType) (ipAddress : KvsIpAddress)
    (priority : Nat) : IceAgent :=
  let candidate : IceCandidate :=
    { iceCandidateType := iceCandidateType
      isRemote := true
      ipAddress := ipAddress
      socketConnection := none
      state := .valid
      priority := priority
      isPointToPoint := false
      reported := false
      turnPeers := [] }
  let agent' := agent.allocCandidate candidate
  { agent' with remoteCandidates := agent.nextAddress :: agent.remoteCandidates }
    |>.createIceCandidatePairs agent.nextAddress true

/-- `iceAgentAddRemoteCandidate`. -/
def addRemoteCandidate (inetPton : Nat → List Char → Option (List UInt8))
    (strtoui32 : List Char → Except Status Nat) (agent : IceAgent)
    (iceCandidateString : List Char) :
    Status × IceAgent :=
  if iceCandidateString = [] then (.invalidArg, agent)
  else if kvsIceMaxRemoteCandidateCount ≤ agent.remoteCandidates.length then
    (.iceMaxRemoteCandidateCountExceeded, agent)
  else
    match parseCandidate inetPton strtoui32 iceCandidateString with
    | .error e => (e, agent)
    | .ok parsed =>
      if parsed.foundIp = false then (.iceCandidateStringMissingIp, agent)
      else
        match agent.findCandidateWithIp parsed.ipAddress agent.remoteCandidates with
        | some _ => (.success, agent)
        | none =>
          addTurnPeer parsed.ipAddress agent.localCandidates
            (agent.addRemote parsed.iceCandidateType parsed.ipAddress parsed.priority)

/-- `iceAgentCheckPeerReflexiveCandidate` for a remote candidate. -/
def checkRemotePeerReflexiveCandidate (agent : IceAgent) (ipAddress : KvsIpAddress)
    (priority : Nat) :
    IceAgent :=
  if kvsIceMaxRemoteCandidateCount ≤ agent.remoteCandidates.length then agent
  else
    match agent.findCandidateWithIp ipAddress agent.remoteCandidates with
    | some _ => agent
    | none => agent.addRemote .peerReflexive ipAddress priority

/-- `iceAgentCheckPeerReflexiveCandidate` for a local candidate, whose type and address it
replaces. -/
def checkLocalPeerReflexiveCandidate (agent : IceAgent) (ipAddress : KvsIpAddress)
    (socketConnection : Nat) : IceAgent :=
  match agent.findCandidateWithIp ipAddress agent.localCandidates with
  | some _ => agent
  | none =>
    match agent.findCandidateWithSocketConnection socketConnection agent.localCandidates with
    | none => agent
    | some c =>
      agent.modifyCandidate c fun candidate =>
        { candidate with iceCandidateType := .peerReflexive, ipAddress := ipAddress }

/-! ### Local candidates -/

def addLocal (agent : IceAgent) (iceCandidateType : IceCandidateType) (ipAddress : KvsIpAddress)
    (state : IceCandidateState) (isPointToPoint : Bool) : IceAgent :=
  let candidate : IceCandidate :=
    { iceCandidateType := iceCandidateType
      isRemote := false
      ipAddress := ipAddress
      socketConnection := some agent.nextAddress
      state := state
      priority := computeCandidatePriority iceCandidateType isPointToPoint
      isPointToPoint := isPointToPoint
      reported := false
      turnPeers := [] }
  let agent' := agent.allocCandidate candidate
  { agent' with localCandidates := agent.nextAddress :: agent.localCandidates }

/-- The round of `iceAgentInitHostCandidate` for an interface; `port` is that of the new socket. -/
def initHostCandidate (agent : IceAgent) (ipAddress : KvsIpAddress) (port : List UInt8)
    (isPointToPoint : Bool) : IceAgent :=
  match agent.findCandidateWithIp ipAddress agent.localCandidates with
  | some _ => agent
  | none =>
    (agent.addLocal .host { ipAddress with
    port := port } .valid isPointToPoint).createIceCandidatePairs
      agent.nextAddress false

end IceAgent

/-- An ICE server: the families of the addresses that it has. -/
structure IceServer where
  isTurn : Bool
  ipv4Family : Nat
  ipv6Family : Nat
deriving DecidableEq

/-- The server can tell a host candidate its server reflexive address. -/
def IceServer.serves (server : IceServer) (ipAddress : KvsIpAddress) : Bool :=
  ipAddress.family != 0 && !server.isTurn &&
    (server.ipv4Family == ipAddress.family || server.ipv6Family == ipAddress.family)

namespace IceAgent

/-- `iceAgentInitSrflxCandidate`: a new candidate for every host candidate and every server. -/
def initSrflxCandidate (agent : IceAgent) (iceServers : List IceServer) : IceAgent :=
  agent.localCandidates.foldl
    (fun agent c =>
      if (agent.candidate c).iceCandidateType = .host then
        (iceServers.filter (·.serves (agent.candidate c).ipAddress)).foldl
          (fun agent _ =>
            agent.addLocal .serverReflexive (agent.candidate c).ipAddress .new
              (agent.candidate c).isPointToPoint)
          agent
      else agent)
    agent

/-- `iceAgentInitRelayCandidate`. -/
def initRelayCandidate (agent : IceAgent) : Status × IceAgent :=
  if kvsIceMaxRelayCandidateCount ≤ agent.relayCandidateCount then (.success, agent)
  else
    let agent' := agent.addLocal .relayed ⟨0, [0, 0], []⟩ .new false
    match addTurnPeers agent.nextAddress agent'.remoteCandidates agent' with
    | (.success, agent') =>
      (.success, { agent' with relayCandidateCount := agent'.relayCandidateCount + 1 })
    | failed => failed

/-- `turnStateFailedFn`. -/
def turnStateFailed (agent : IceAgent) (c : Nat) : IceAgent :=
  if (agent.candidate c).state = .new then agent.setCandidateState c .invalid else agent

/-- `updateCandidateAddress`, for a candidate that is not a host candidate. -/
def updateCandidateAddress (agent : IceAgent) (c : Nat) (ipAddress : KvsIpAddress) : IceAgent :=
  if (agent.candidate c).state = .new then
    agent.modifyCandidate c fun candidate => { candidate with
      ipAddress := ipAddress, state := .valid }
  else agent

/-- The round of `iceAgentGatherCandidateTimerCallback` for a candidate. -/
def gatherCandidate (relayAddress : Nat → Option KvsIpAddress) (agent : IceAgent) (c : Nat) :
    IceAgent :=
  if (agent.candidate c).state = .new then
    if (agent.candidate c).iceCandidateType = .relayed then
      match relayAddress c with
      | some ipAddress => (agent.updateCandidateAddress c ipAddress).createIceCandidatePairs c false
      | none => agent
    else agent
  else if (agent.candidate c).state = .valid ∧ (agent.candidate c).reported = false then
    let agent := agent.modifyCandidate c fun candidate => { candidate with reported := true }
    if (agent.candidate c).iceCandidateType = .serverReflexive then
      agent.createIceCandidatePairs c false
    else agent
  else agent

end IceAgent

/-! ### The text of a candidate -/

open Text

def iceAgentGetCandidateTypeStr : IceCandidateType → String
  | .host => "host"
  | .serverReflexive => "srflx"
  | .peerReflexive => "prflx"
  | .relayed => "relay"

/-- A digit of `%02X`. -/
def hexDigit (n : Nat) : Char := "0123456789ABCDEF".toList.getD n '0'

/-- `%02X` of a byte. -/
def hexByte (b : UInt8) : List Char := [hexDigit (b.toNat / 16), hexDigit (b.toNat % 16)]

/-- `%d.%d.%d.%d` of the first bytes of an address. -/
def ipv4Text (address : List UInt8) : List Char :=
  ['.'].intercalate ((List.range 4).map fun i => decimal (address.getD i 0).toNat)

/-- Eight times `%02X%02X`, with colons between. -/
def ipv6Text (address : List UInt8) : List Char :=
  [':'].intercalate ((List.range 8).map fun i =>
    hexByte (address.getD (2 * i) 0) ++ hexByte (address.getD (2 * i + 1) 0))

def addressText (ipAddress : KvsIpAddress) : List Char :=
  if ipAddress.family = familyIpv4 then ipv4Text ipAddress.address else ipv6Text ipAddress.address

/-- What `SNPRINTF` makes of a candidate. -/
def candidateText (foundation : Nat) (iceCandidate : IceCandidate) : List Char :=
  let raddr := if iceCandidate.ipAddress.family = familyIpv4 then "0.0.0.0" else "::/0"
  [' '].intercalate [decimal foundation, "1".toList, "udp".toList, decimal iceCandidate.priority,
    addressText iceCandidate.ipAddress, decimal (beNat iceCandidate.ipAddress.port), "typ".toList,
    (iceAgentGetCandidateTypeStr iceCandidate.iceCandidateType).toList, "raddr".toList,
    raddr.toList, "rport".toList, "0".toList, "generation".toList, "0".toList,
    "network-cost".toList, "999".toList]

/-- What a call returns, what it leaves in the buffer, if there is one, and the length. -/
structure Serialized where
  status : Status
  outputData : Option (List Char)
  outputLength : Nat

/-- `iceCandidateSerialize`.  Without a buffer the length that one needs is returned.  The length is
compared as a signed number. -/
def iceCandidateSerialize (foundation : Nat) (iceCandidate : IceCandidate) (hasOutputData : Bool)
    (outputLength : Nat) : Serialized :=
  let text := candidateText foundation iceCandidate
  if hasOutputData = false then ⟨.success, none, text.length + 1⟩
  else
    let outputData := clip (outputLength - 1) text
    if text.length < outputLength ∧ outputLength < 2 ^ 31 then
      ⟨.success, some outputData, outputLength⟩
    else ⟨.bufferTooSmall, some outputData, outputLength⟩

end KvsWebrtc.Ice
