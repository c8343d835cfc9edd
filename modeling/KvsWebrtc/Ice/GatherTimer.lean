import KvsWebrtc.Ice.StateMachine

/-!
# The gathering timer

`iceAgentGatherCandidateTimerCallback` of `Ice/IceAgent.c`, with the candidates that it reports: a
walk over the local candidates copies those that are valid and not reported yet, and the callback
`newLocalCandidateFn` is called for the copies after the lock has been released.

`GatherTick` says what a tick meets, and where memory runs out.  A candidate is named
by its address, also where the source copies it.  Serialising a candidate is taken to succeed.
-/

namespace KvsWebrtc.Ice

open Stun

def kvsIceMaxNewLocalCandidatesToReportAtOnce : Nat := 10

/-- What a tick of the timer meets.  `pairsFail c` is the number of remote candidates after which
there is no memory for a pair of `c`, and `requestsFail` the number of local candidates after which
there is none for a request; both are `none` if nothing fails. -/
structure GatherTick where
  currentTime : Nat
  stopGathering : Bool
  addedRelayCandidate : Bool
  relayAddress : Nat → Option KvsIpAddress
  pairsFail : Nat → Option Nat
  sent : Nat → SendResult
  stunServerAddr : Nat → KvsIpAddress
  requestsFail : Option Nat

/-- The variables of `iceAgentGatherCandidateTimerCallback` while it walks over the local
candidates. Nothing bounds `newLocalCandidates`, an array of
`kvsIceMaxNewLocalCandidatesToReportAtOnce` entries. -/
structure GatherWalk where
  agent : IceAgent
  newLocalCandidates : List Nat
  pendingSrflxCandidateCount : Nat
  pendingCandidateCount : Nat
  totalCandidateCount : Nat

def GatherWalk.start (agent : IceAgent) : GatherWalk where
  agent := agent
  newLocalCandidates := []
  pendingSrflxCandidateCount := 0
  pendingCandidateCount := 0
  totalCandidateCount := 0

namespace GatherTick

variable (tick : GatherTick)

/-- `createIceCandidatePairs` for a local candidate, which fails where memory runs out. -/
def createPairs (walk : GatherWalk) (c : Nat) : Status × GatherWalk :=
  match tick.pairsFail c with
  | none => (.success, { walk with agent := walk.agent.createIceCandidatePairs c false })
  | some n =>
    (.notEnoughMemory,
      { walk with
        agent := (walk.agent.remoteCandidates.take n).foldl (IceAgent.pairWith c false) walk.agent
        })

def examine (walk : GatherWalk) (c : Nat) : Status × GatherWalk :=
  let candidate := walk.agent.candidate c
  let walk := { walk with totalCandidateCount := walk.totalCandidateCount + 1 }
  if candidate.state = .new then
    let walk := { walk with pendingCandidateCount := walk.pendingCandidateCount + 1 }
    if candidate.iceCandidateType = .serverReflexive then
      (.success, { walk with pendingSrflxCandidateCount := walk.pendingSrflxCandidateCount + 1 })
    else if candidate.iceCandidateType = .relayed then
      match tick.relayAddress c with
      | some ipAddress =>
        tick.createPairs { walk with agent := walk.agent.updateCandidateAddress c ipAddress } c
      | none => (.success, walk)
    else (.success, walk)
  else if candidate.state = .valid ∧ candidate.reported = false then
    let walk :=
      { walk with
        newLocalCandidates := walk.newLocalCandidates ++ [c]
        agent := walk.agent.modifyCandidate c fun candidate => { candidate with reported := true } }
    if candidate.iceCandidateType = .serverReflexive then tick.createPairs walk c
      else (.success, walk)
  else (.success, walk)

def examineAll : List Nat → GatherWalk → Status × GatherWalk
  | [], walk => (.success, walk)
  | c :: candidates, walk =>
    match tick.examine walk c with
    | (.success, walk) => examineAll candidates walk
    | failed => failed

/-- The round of `iceAgentSendSrflxCandidateRequest` for a candidate. -/
def request (agent : IceAgent) (c : Nat) : IceAgent :=
  if (agent.candidate c).state = .new ∧ (agent.candidate c).iceCandidateType = .serverReflexive then
    agent.sendStunPacket (tick.sent c) c (tick.stunServerAddr c)
  else agent

/-- `iceAgentSendSrflxCandidateRequest`, if a server reflexive candidate is pending. -/
def sendRequests (walk : GatherWalk) : Status × IceAgent :=
  if 0 < walk.pendingSrflxCandidateCount then
    match tick.requestsFail with
    | none => (.success, walk.agent.sendSrflxCandidateRequest tick.sent tick.stunServerAddr)
    | some n => (.notEnoughMemory, (walk.agent.localCandidates.take n).foldl tick.request
      walk.agent)
  else (.success, walk.agent)

/-- The timer is not scheduled again: a pair without a relay is nominated, nothing is pending, or
time is up. -/
def stopScheduling (walk : GatherWalk) (candidateGatheringEndTime : Nat) : Bool :=
  tick.stopGathering ||
    (0 < walk.totalCandidateCount && walk.pendingCandidateCount == 0 && tick.addedRelayCandidate) ||
    candidateGatheringEndTime ≤ tick.currentTime

end GatherTick

/-- An agent that gathers candidates.  `isScheduled` says that the timer queue still calls the
timer, and `reports` are the calls of `newLocalCandidateFn`, the last of them without a
candidate. -/
structure Gathering where
  agent : IceAgent
  candidateGatheringEndTime : Nat
  candidateGatheringFinished : Bool
  isScheduled : Bool
  reports : List (Option Nat)

namespace Gathering

/-- `iceAgentReportNewLocalCandidate`. -/
def reportNewLocalCandidate (g : Gathering) (c : Nat) : Gathering :=
  if g.candidateGatheringFinished then g else { g with reports := g.reports ++ [some c] }

/-- `iceAgentFatalError`. -/
def fatalError (g : Gathering) (agent : IceAgent) (errorStatus : Status) : Gathering :=
  { g with agent := { agent with iceAgentStatus := errorStatus } }

/-- The candidates in `newLocalCandidates` when the walk of a tick ends. -/
def newLocalCandidates (g : Gathering) (tick : GatherTick) : List Nat :=
  (tick.examineAll g.agent.localCandidates (.start g.agent)).2.newLocalCandidates

/-- `iceAgentGatherCandidateTimerCallback`. -/
def gatherCandidateTimerCallback (g : Gathering) (tick : GatherTick) : Status × Gathering :=
  match tick.examineAll g.agent.localCandidates (.start g.agent) with
  | (.success, walk) =>
    match tick.sendRequests walk with
    | (.success, agent) =>
      let reported := walk.newLocalCandidates.foldl reportNewLocalCandidate { g with
        agent := agent }
      if tick.stopScheduling walk g.candidateGatheringEndTime then
        (.timerQueueStopScheduling,
          { reported with
            candidateGatheringFinished := true
            isScheduled := false
            reports := reported.reports ++ [none] })
      else (.success, reported)
    | (e, agent) => (e, g.fatalError agent e)
  | (e, walk) => (e, g.fatalError walk.agent e)

end Gathering

/-- What happens while candidates are gathered: the timer ticks, or something else changes the
agent. -/
inductive GatherEvent
  | tick (tick : GatherTick)
  | other (agent : IceAgent)

/-- The agent after an event.  A timer that is not scheduled does not tick. -/
def Gathering.step (g : Gathering) : GatherEvent → Gathering
  | .tick tick => if g.isScheduled then (g.gatherCandidateTimerCallback tick).2 else g
  | .other agent => { g with agent := agent }

end KvsWebrtc.Ice
