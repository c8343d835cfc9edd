import KvsWebrtc.Stun.Packet
import Mathlib.Logic.Function.Basic

/-!
# The ICE agent

Candidates, pairs and the agent of `Ice/IceAgent.h`, and the functions of `Ice/IceAgent.c` that look
for, create and remove pairs.

Candidates and pairs are objects in memory: `candidate` and `pair` say what stands at an address,
and the lists of the agent hold addresses.  `nextAddress` is where the next object goes.  Memory is
taken to be allocated.  The identifiers, the foundations, the statistics and the transaction stores
of candidates and pairs are left out.
-/

namespace KvsWebrtc.Ice

open Stun

inductive IceCandidateType
  | host
  | peerReflexive
  | serverReflexive
  | relayed
deriving DecidableEq, Inhabited

inductive IceCandidateState
  | new
  | valid
  | invalid
deriving DecidableEq, Inhabited

inductive IceCandidatePairState
  | frozen
  | waiting
  | inProgress
  | succeeded
  | failed
deriving DecidableEq, Inhabited

/-- `ICE_AGENT_STATE_NEW` and so on. -/
inductive IceAgentState
  | new
  | checkConnection
  | connected
  | nominating
  | ready
  | disconnected
  | failed
deriving DecidableEq, Inhabited

/-- `IceCandidate`.  `isPointToPoint` belongs to the address that the candidate was created with,
and `turnPeers` are the peers of the TURN connection of a relayed candidate. -/
structure IceCandidate where
  iceCandidateType : IceCandidateType
  isRemote : Bool
  ipAddress : KvsIpAddress
  socketConnection : Option Nat
  state : IceCandidateState
  priority : Nat
  isPointToPoint : Bool
  reported : Bool
  turnPeers : List KvsIpAddress
deriving DecidableEq

/-- `IceCandidatePair`: the addresses of the two candidates, and what is known about them. -/
structure IceCandidatePair where
  localCandidate : Nat
  remoteCandidate : Nat
  nominated : Bool
  priority : Nat
  state : IceCandidatePairState
deriving DecidableEq, Inhabited

def emptyCandidate : IceCandidate where
  iceCandidateType := .host
  isRemote := false
  ipAddress := ⟨0, [], []⟩
  socketConnection := none
  state := .new
  priority := 0
  isPointToPoint := false
  reported := false
  turnPeers := []

/-- `IceAgent`.  `currentState` is the state of its state machine, and `freedPairs` are the pairs
that have been freed. -/
structure IceAgent where
  localPassword : List UInt8
  remotePassword : List UInt8
  isControlling : Bool
  tieBreaker : UInt64
  candidate : Nat → IceCandidate
  pair : Nat → IceCandidatePair
  nextAddress : Nat
  localCandidates : List Nat
  remoteCandidates : List Nat
  iceCandidatePairs : List Nat
  triggeredCheckQueue : List Nat
  dataSendingIceCandidatePair : Option Nat
  freedPairs : List Nat
  relayCandidateCount : Nat
  remoteCredentialReceived : Bool
  restart : Bool
  iceAgentState : IceAgentState
  currentState : IceAgentState
  iceAgentStatus : Status

def createIceAgent (localPassword : List UInt8) (tieBreaker : UInt64) : IceAgent where
  localPassword := localPassword
  remotePassword := []
  isControlling := false
  tieBreaker := tieBreaker
  candidate := fun _ => emptyCandidate
  pair := fun _ => default
  nextAddress := 0
  localCandidates := []
  remoteCandidates := []
  iceCandidatePairs := []
  triggeredCheckQueue := []
  dataSendingIceCandidatePair := none
  freedPairs := []
  relayCandidateCount := 0
  remoteCredentialReceived := false
  restart := false
  iceAgentState := .new
  currentState := .new
  iceAgentStatus := .success

def kvsIceMaxRemoteCandidateCount : Nat := 100

def kvsIceMaxRelayCandidateCount : Nat := 4

def defaultTurnMaxPeerCount : Nat := 32

/-! ### Priorities -/

/-- `ICE_PRIORITY_HOST_CANDIDATE_TYPE_PREFERENCE` and so on. -/
def IceCandidateType.preference : IceCandidateType → Nat
  | .host => 126
  | .serverReflexive => 100
  | .peerReflexive => 110
  | .relayed => 0

/-- `computeCandidatePriority`, a 32-bit number. -/
def computeCandidatePriority (iceCandidateType : IceCandidateType) (isPointToPoint : Bool) : Nat :=
  (2 ^ 24 * iceCandidateType.preference + 2 ^ 8 * (if isPointToPoint then 0 else 65535) + 255) %
  2 ^ 32

/-- `computeCandidatePairPriority`, a 64-bit number. -/
def computeCandidatePairPriority (localPriority remotePriority : Nat) (isLocalControlling : Bool) :
    Nat :=
  let controlling := if isLocalControlling then localPriority else remotePriority
  let controlled := if isLocalControlling then remotePriority else localPriority
  (2 ^ 32 * min controlled controlling + 2 * max controlled controlling +
    if controlled < controlling then 1 else 0) % 2 ^ 64

/-! ### Changing an object in memory -/

namespace IceAgent

def modifyCandidate (agent : IceAgent) (c : Nat) (f : IceCandidate → IceCandidate) : IceAgent :=
  { agent with candidate := Function.update agent.candidate c (f (agent.candidate c)) }

def modifyPair (agent : IceAgent) (p : Nat) (f : IceCandidatePair → IceCandidatePair) : IceAgent :=
  { agent with pair := Function.update agent.pair p (f (agent.pair p)) }

def setPairState (agent : IceAgent) (p : Nat) (state : IceCandidatePairState) : IceAgent :=
  agent.modifyPair p fun pair => { pair with state := state }

def setCandidateState (agent : IceAgent) (c : Nat) (state : IceCandidateState) : IceAgent :=
  agent.modifyCandidate c fun candidate => { candidate with state := state }

/-- A new candidate in memory, at `nextAddress`. -/
def allocCandidate (agent : IceAgent) (candidate : IceCandidate) : IceAgent :=
  { agent with
    candidate := Function.update agent.candidate agent.nextAddress candidate
    nextAddress := agent.nextAddress + 1 }

/-! ### Looking for candidates and pairs -/

end IceAgent

/-- The comparison of two addresses, as `isSameIpAddress` makes it. -/
def sameIpAddress (a b : KvsIpAddress) (checkPort : Bool) : Bool :=
  let addrLen := ipAddressLength a.family
  a.family == b.family && a.address.take addrLen == b.address.take addrLen &&
    (!checkPort || a.port == b.port)

namespace IceAgent

def findCandidateWithIp (agent : IceAgent) (ipAddress : KvsIpAddress) (candidates : List Nat) :
    Option Nat :=
  candidates.find? fun c => sameIpAddress ipAddress (agent.candidate c).ipAddress true

def findCandidateWithSocketConnection (agent : IceAgent) (socketConnection : Nat)
    (candidates : List Nat) : Option Nat :=
  candidates.find? fun c => (agent.candidate c).socketConnection == some socketConnection

/-- The test of `findIceCandidatePairWithLocalSocketConnectionAndRemoteAddr`. -/
def isBetween (agent : IceAgent) (socketConnection : Option Nat) (remoteAddr : KvsIpAddress)
    (p : Nat) : Bool :=
  (agent.pair p).state != .failed &&
    (agent.candidate (agent.pair p).localCandidate).socketConnection == socketConnection &&
    sameIpAddress remoteAddr (agent.candidate (agent.pair p).remoteCandidate).ipAddress true

/-- `findIceCandidatePairWithLocalSocketConnectionAndRemoteAddr`, with `checkPort`. -/
def findIceCandidatePair (agent : IceAgent) (socketConnection : Option Nat)
    (remoteAddr : KvsIpAddress) : Option Nat :=
  agent.iceCandidatePairs.find? (agent.isBetween socketConnection remoteAddr)

/-! ### Creating and removing pairs -/

end IceAgent

/-- `insertIceCandidatePair`: the pairs are ordered by priority from max to min. -/
def insertIceCandidatePair (priority : Nat → Nat) (p : Nat) : List Nat → List Nat
  | [] => [p]
  | q :: pairs =>
    if priority q ≤ priority p then p :: q :: pairs
    else q :: insertIceCandidatePair priority p pairs

namespace IceAgent

/-- The pair of a local and a remote candidate, in the loop of `createIceCandidatePairs`. -/
def addPair (agent : IceAgent) (localCandidate remoteCandidate : Nat) : IceAgent :=
  let pair : IceCandidatePair :=
    { localCandidate := localCandidate
      remoteCandidate := remoteCandidate
      nominated := false
      priority := computeCandidatePairPriority (agent.candidate localCandidate).priority
        (agent.candidate remoteCandidate).priority agent.isControlling
      state := .waiting }
  let pairs := Function.update agent.pair agent.nextAddress pair
  { agent with
    pair := pairs
    iceCandidatePairs :=
      insertIceCandidatePair (fun p => (pairs p).priority) agent.nextAddress agent.iceCandidatePairs
    nextAddress := agent.nextAddress + 1 }

/-- One round of the loop of `createIceCandidatePairs`. -/
def pairWith (c : Nat) (isRemoteCandidate : Bool) (agent : IceAgent) (current : Nat) : IceAgent :=
  if (agent.candidate current).state = .valid ∧
      (agent.candidate current).ipAddress.family = (agent.candidate c).ipAddress.family then
    if isRemoteCandidate then agent.addPair current c else agent.addPair c current
  else agent

/-- `createIceCandidatePairs`: a remote candidate goes with every valid local candidate, a local one
with every valid remote candidate. -/
def createIceCandidatePairs (agent : IceAgent) (c : Nat) (isRemoteCandidate : Bool) : IceAgent :=
  if (agent.candidate c).state = .valid then
    (if isRemoteCandidate then agent.localCandidates else agent.remoteCandidates).foldl
      (pairWith c isRemoteCandidate) agent
  else agent

/-- The pairs that do not meet `keep` are freed and taken out of the list. -/
def freePairs (agent : IceAgent) (keep : Nat → Bool) : IceAgent :=
  { agent with
    iceCandidatePairs := agent.iceCandidatePairs.filter keep
    freedPairs := agent.freedPairs ++ agent.iceCandidatePairs.filter fun p => !keep p }

def pruneUnconnectedIceCandidatePair (agent : IceAgent) : IceAgent :=
  agent.freePairs fun p => (agent.pair p).state == .succeeded

/-- `iceAgentInvalidateCandidatePair`. -/
def invalidateCandidatePair (agent : IceAgent) : IceAgent :=
  agent.iceCandidatePairs.foldl
    (fun agent p =>
      if (agent.candidate (agent.pair p).localCandidate).state ≠ .valid then
        agent.setPairState p .failed
      else agent)
    agent

/-- `iceAgentNominateCandidatePair`: the first pair that has succeeded is nominated. -/
def nominateCandidatePair (agent : IceAgent) : Except Status IceAgent :=
  if agent.isControlling then
    if agent.iceCandidatePairs = [] then .error .iceCandidatePairListEmpty
    else
      match agent.iceCandidatePairs.find? fun p => (agent.pair p).state == .succeeded with
      | none => .error .iceFailedToNominateCandidatePair
      | some nominated =>
        let agent := agent.modifyPair nominated fun pair => { pair with nominated := true }
        .ok (agent.iceCandidatePairs.foldl
          (fun agent p =>
            if (agent.pair p).nominated then agent else agent.setPairState p .frozen)
          agent)
  else .ok agent

end IceAgent

end KvsWebrtc.Ice
