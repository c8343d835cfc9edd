import KvsWebrtc.Ice.Candidates
import KvsWebrtc.Stun.Deserialize
import KvsWebrtc.Stun.Serialize

/-!
# Connectivity checks

The functions of `Ice/IceAgent.c` that send STUN packets and those that handle the packets of the
peer and of STUN servers.

What the network does with a packet is a parameter: `sent` gives the result for each pair or
candidate that a packet is sent for.  Whether a response has the transaction id of a request is a
parameter, too.
-/

namespace KvsWebrtc.Ice

open Stun

/-- What `iceUtilsSendStunPacket` returns: success, `STATUS_SOCKET_CONNECTION_CLOSED_ALREADY` or
another error. -/
inductive SendResult
  | ok
  | closedAlready
  | failed
deriving DecidableEq

namespace IceAgent

/-! ### Sending -/

def failPair (agent : IceAgent) (c : Nat) (destAddr : KvsIpAddress) : IceAgent :=
  match agent.findIceCandidatePair (agent.candidate c).socketConnection destAddr with
  | none => agent
  | some p => agent.setPairState p .failed

/-- `iceAgentSendStunPacket`. -/
def sendStunPacket (agent : IceAgent) (sent : SendResult) (c : Nat) (destAddr : KvsIpAddress) :
    IceAgent :=
  match sent with
  | .ok => agent
  | .closedAlready =>
    ((agent.setCandidateState c .invalid).invalidateCandidatePair).failPair c destAddr
  | .failed => agent.failPair c destAddr

/-- A packet is sent from the local to the remote candidate of a pair. -/
def sendOnPair (sent : Nat → SendResult) (agent : IceAgent) (p : Nat) : IceAgent :=
  agent.sendStunPacket (sent p) (agent.pair p).localCandidate
    (agent.candidate (agent.pair p).remoteCandidate).ipAddress

/-- The round of `iceAgentCheckCandidatePairConnection` for a pair. -/
def checkPair (sent : Nat → SendResult) (agent : IceAgent) (p : Nat) : IceAgent :=
  match (agent.pair p).state with
  | .waiting => (agent.setPairState p .inProgress).sendOnPair sent p
  | .inProgress => agent.sendOnPair sent p
  | _ => agent

/-- `iceAgentCheckCandidatePairConnection`. -/
def checkCandidatePairConnection (agent : IceAgent) (sent : Nat → SendResult) : IceAgent :=
  match agent.triggeredCheckQueue with
  | p :: queue => { agent with triggeredCheckQueue := queue }.sendOnPair sent p
  | [] => agent.iceCandidatePairs.foldl (checkPair sent) agent

/-- `iceAgentSendKeepAliveTimerCallback`. -/
def sendKeepAlive (agent : IceAgent) (sent : Nat → SendResult) : IceAgent :=
  agent.iceCandidatePairs.foldl
    (fun agent p => if (agent.pair p).state = .succeeded then agent.sendOnPair sent p else agent)
    agent

/-- `iceAgentSendCandidateNomination`. -/
def sendCandidateNomination (agent : IceAgent) (sent : Nat → SendResult) : IceAgent :=
  if agent.isControlling then
    agent.iceCandidatePairs.foldl
      (fun agent p => if (agent.pair p).nominated then agent.sendOnPair sent p else agent) agent
  else agent

/-- `iceAgentSendSrflxCandidateRequest`. -/
def sendSrflxCandidateRequest (agent : IceAgent) (sent : Nat → SendResult)
    (stunServerAddr : Nat → KvsIpAddress) : IceAgent :=
  agent.localCandidates.foldl
    (fun agent c =>
      if (agent.candidate c).state = .new ∧
          (agent.candidate c).iceCandidateType = .serverReflexive then
        agent.sendStunPacket (sent c) c (stunServerAddr c)
      else agent)
    agent

/-- `iceAgentGatherCandidateTimerCallback`.  No request is sent if no server reflexive candidate is
new. -/
def gatherCandidateTimerCallback (agent : IceAgent) (relayAddress : Nat → Option KvsIpAddress)
    (sent : Nat → SendResult) (stunServerAddr : Nat → KvsIpAddress) : IceAgent :=
  (agent.localCandidates.foldl (gatherCandidate relayAddress) agent).sendSrflxCandidateRequest sent
    stunServerAddr

/-- `iceAgentSendPacket`: data goes to the data sending pair if it has succeeded. -/
def sendPacket (agent : IceAgent) (sent : SendResult) : IceAgent :=
  match agent.dataSendingIceCandidatePair with
  | none => agent
  | some p =>
    if (agent.pair p).state = .succeeded ∧ sent = .closedAlready then
      { agent.setPairState p .failed with iceAgentStatus := .socketConnectionClosedAlready }
    else agent

/-! ### Binding requests -/

end IceAgent

/-- `STUN_PACKET_TYPE_BINDING_REQUEST`. -/
def typeBindingRequest : Nat := 0x0001

/-- `STUN_PACKET_TYPE_BINDING_RESPONSE_SUCCESS`. -/
def typeBindingResponseSuccess : Nat := 0x0101

def priorityOf (p : StunPacket) : Nat :=
  match getStunAttribute p typePriority with
  | some ⟨_, _, .number n⟩ => n
  | _ => 0

def mappedAddressOf (p : StunPacket) : Option KvsIpAddress :=
  match getStunAttribute p typeXorMappedAddress with
  | some ⟨_, _, .address a⟩ => some a
  | _ => none

def IceCandidatePairState.isChecked : IceCandidatePairState → Bool
  | .frozen | .waiting | .inProgress => true
  | .succeeded | .failed => false

namespace IceAgent

def bindingResponse (agent : IceAgent) (transactionId : List UInt8) (srcAddr : KvsIpAddress) :
    Except Failure StunPacket :=
  match appendStunAddressAttribute (createStunPacket typeBindingResponseSuccess transactionId)
      typeXorMappedAddress srcAddr with
  | .error e => .error e
  | .ok p =>
    appendStunIceControllAttribute p
      (if agent.isControlling then typeIceControlling else typeIceControlled) agent.tieBreaker

/-- A request with `USE-CANDIDATE` nominates its pair. -/
def nominateOnRequest (agent : IceAgent) (request : StunPacket) (p : Nat) : IceAgent :=
  if (agent.pair p).nominated = false ∧ (getStunAttribute request typeUseCandidate).isSome then
    agent.modifyPair p fun pair => { pair with nominated := true }
  else agent

def triggerCheck (agent : IceAgent) (p : Nat) : IceAgent :=
  if (agent.pair p).state.isChecked then
    { agent with triggeredCheckQueue := agent.triggeredCheckQueue ++ [p] }
  else agent

section

variable (hmac : List UInt8 → List UInt8 → Digest) (crc32 : List UInt8 → UInt32)

/-- The case of `handleStunPacket` for a binding request. -/
def handleBindingRequest (agent : IceAgent) (buffer : List UInt8) (socketConnection : Nat)
    (srcAddr : KvsIpAddress) (sent : SendResult) : Except Failure Unit × IceAgent :=
  match deserializeStunPacket hmac crc32 buffer (some agent.localPassword) with
  | .error e => (.error e, agent)
  | .ok request =>
    match agent.bindingResponse request.header.transactionId srcAddr with
    | .error e => (.error e, agent)
    | .ok _ =>
      let agent := agent.checkRemotePeerReflexiveCandidate srcAddr (priorityOf request)
      match agent.findCandidateWithSocketConnection socketConnection agent.localCandidates with
      | none => (.ok (), agent)
      | some c =>
        let agent := agent.sendStunPacket sent c srcAddr
        match agent.findIceCandidatePair (some socketConnection) srcAddr with
        | none => (.ok (), agent)
        | some p => (.ok (), (agent.nominateOnRequest request p).triggerCheck p)

/-! ### Binding responses -/

def handleServerResponse (agent : IceAgent) (buffer : List UInt8) (socketConnection : Nat) :
    Except Failure Unit × IceAgent :=
  match agent.findCandidateWithSocketConnection socketConnection agent.localCandidates with
  | none => (.ok (), agent)
  | some c =>
    match deserializeStunPacket hmac crc32 buffer none with
    | .error e => (.error e, agent)
    | .ok response =>
      match mappedAddressOf response with
      | none => (.ok (), agent)
      | some ipAddress =>
        if (agent.candidate c).iceCandidateType = .host then (.error (.status .invalidArg), agent)
        else (.ok (), agent.updateCandidateAddress c ipAddress)

/-- Both candidates of the pair are server reflexive, and the peer sees the local one at another
address. -/
def seesOtherAddress (agent : IceAgent) (p : Nat) (ipAddress : KvsIpAddress) : Bool :=
  (agent.candidate (agent.pair p).localCandidate).iceCandidateType == .serverReflexive &&
    (agent.candidate (agent.pair p).remoteCandidate).iceCandidateType == .serverReflexive &&
    !sameIpAddress ipAddress (agent.candidate (agent.pair p).localCandidate).ipAddress false

def handlePeerResponse (agent : IceAgent) (buffer : List UInt8) (socketConnection : Nat)
    (srcAddr : KvsIpAddress) (hasId : Bool) : Except Failure Unit × IceAgent :=
  match agent.findIceCandidatePair (some socketConnection) srcAddr with
  | none => (.ok (), agent)
  | some p =>
    if hasId then
      match deserializeStunPacket hmac crc32 buffer (some agent.remotePassword) with
      | .error e => (.error e, agent)
      | .ok response =>
        match mappedAddressOf response with
        | none => (.ok (), agent)
        | some ipAddress =>
          let agent :=
            if agent.seesOtherAddress p ipAddress then
              agent.checkLocalPeerReflexiveCandidate ipAddress socketConnection
            else agent
          (.ok (), agent.setPairState p .succeeded)
    else (.ok (), agent)

/-- `handleStunPacket`.  A response with an id from the store of the agent is that of a STUN
server. -/
def handleStunPacket (agent : IceAgent) (buffer : List UInt8) (socketConnection : Nat)
    (srcAddr : KvsIpAddress) (sent : SendResult) (agentHasId pairHasId : Bool) :
    Except Failure Unit × IceAgent :=
  if beNat (bytesAt buffer 0 2) = typeBindingRequest then
    agent.handleBindingRequest hmac crc32 buffer socketConnection srcAddr sent
  else if beNat (bytesAt buffer 0 2) = typeBindingResponseSuccess then
    if agentHasId then agent.handleServerResponse hmac crc32 buffer socketConnection
    else agent.handlePeerResponse hmac crc32 buffer socketConnection srcAddr pairHasId
  else (.ok (), agent)

end

end IceAgent

end KvsWebrtc.Ice
