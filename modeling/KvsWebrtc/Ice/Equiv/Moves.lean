import KvsWebrtc.Common.Run
import KvsWebrtc.Ice.StateMachine
import Mathlib.Logic.Relation
import Mathlib.Tactic.SplitIfs

/-!
# What an event can do to an agent

Every event is made of few moves: a candidate, a pair or a list of the agent changes.  `Move g` are
these moves, where the guards `g` say what is asked of those that not every invariant survives, and
`Guards.Admits` is what an event has to meet for its moves to keep to the guards.

The main result is `Guards.Admits.moves`: an event that is admitted is a chain of moves.  So an
invariant of the agent has to be checked for the moves only (`Moves.preserves`), and then holds
along every run of admitted events.
-/

namespace KvsWebrtc.Ice

open Stun Relation

/-- The agents have the same candidates and pairs, in memory and in their lists. -/
structure SameCore (a b : IceAgent) : Prop where
  candidate : b.candidate = a.candidate
  pair : b.pair = a.pair
  nextAddress : b.nextAddress = a.nextAddress
  localCandidates : b.localCandidates = a.localCandidates
  remoteCandidates : b.remoteCandidates = a.remoteCandidates
  iceCandidatePairs : b.iceCandidatePairs = a.iceCandidatePairs

/-- The agents are in the same state, with the same data sending pair, and have freed the same
pairs. -/
structure SameSession (a b : IceAgent) : Prop where
  dataSendingIceCandidatePair : b.dataSendingIceCandidatePair = a.dataSendingIceCandidatePair
  freedPairs : b.freedPairs = a.freedPairs
  iceAgentState : b.iceAgentState = a.iceAgentState
  currentState : b.currentState = a.currentState

namespace IceAgent

/-! ### Changes in place -/

@[simp] theorem candidate_modifyCandidate_self (agent : IceAgent) (c : Nat)
    (f : IceCandidate → IceCandidate) :
    (agent.modifyCandidate c f).candidate c = f (agent.candidate c) := Function.update_self _ _ _

theorem candidate_modifyCandidate_of_ne (agent : IceAgent) {c d : Nat} (h : d ≠ c)
    (f : IceCandidate → IceCandidate) :
    (agent.modifyCandidate c f).candidate d = agent.candidate d := Function.update_of_ne h _ _

@[simp] theorem pair_modifyPair_self (agent : IceAgent) (p : Nat)
    (f : IceCandidatePair → IceCandidatePair) :
    (agent.modifyPair p f).pair p = f (agent.pair p) := Function.update_self _ _ _

theorem pair_modifyPair_of_ne (agent : IceAgent) {p q : Nat} (h : q ≠ p)
    (f : IceCandidatePair → IceCandidatePair) :
    (agent.modifyPair p f).pair q = agent.pair q := Function.update_of_ne h _ _

/-! ### The moves -/

def markPair (agent : IceAgent) (p : Nat) (nominated : Bool) (state : IceCandidatePairState) :
    IceAgent :=
  agent.modifyPair p fun pair => { pair with nominated := nominated, state := state }

def putTurnPeer (agent : IceAgent) (c : Nat) (peerAddress : KvsIpAddress) : IceAgent :=
  agent.modifyCandidate c fun candidate =>
    { candidate with turnPeers := candidate.turnPeers ++ [peerAddress] }

def report (agent : IceAgent) (c : Nat) : IceAgent :=
  agent.modifyCandidate c fun candidate => { candidate with reported := true }

def replaceAddress (agent : IceAgent) (c : Nat) (ipAddress : KvsIpAddress) : IceAgent :=
  agent.modifyCandidate c fun candidate =>
    { candidate with iceCandidateType := .peerReflexive, ipAddress := ipAddress }

/-- Some local candidates are taken out of their list. -/
def keepLocals (agent : IceAgent) (keep : Nat → Bool) : IceAgent :=
  { agent with localCandidates := agent.localCandidates.filter keep }

def putRemote (agent : IceAgent) (iceCandidateType : IceCandidateType) (ipAddress : KvsIpAddress)
    (priority : Nat) : IceAgent :=
  let candidate : IceCandidate :=
    { iceCandidateType := iceCandidateType
      isRemote := true
      ipAddress := ipAddress
      socketConnection := none
      state := .valid
      priority := priority
      isPointToPoint := false
      reported := false
      turnPeers := [] }
  { agent.allocCandidate candidate with
    remoteCandidates := agent.nextAddress :: agent.remoteCandidates }

theorem addRemote_eq (agent : IceAgent) (iceCandidateType : IceCandidateType)
    (ipAddress : KvsIpAddress) (priority : Nat) :
    agent.addRemote iceCandidateType ipAddress priority =
      (agent.putRemote iceCandidateType ipAddress priority).createIceCandidatePairs
        agent.nextAddress
        true := rfl

/-- The candidates that the loop of `createIceCandidatePairs` joins. -/
structure Joins (agent : IceAgent) (c : Nat) (isRemoteCandidate : Bool) (l r : Nat) : Prop where
  isLocal : if isRemoteCandidate then l ∈ agent.localCandidates else l = c
  isRemote : if isRemoteCandidate then r = c else r ∈ agent.remoteCandidates
  localState : (agent.candidate l).state = .valid
  remoteState : (agent.candidate r).state = .valid
  family : (agent.candidate l).ipAddress.family = (agent.candidate r).ipAddress.family

/-- The agents have the same candidates, and only their pairs differ. -/
structure SameCandidates (a b : IceAgent) : Prop where
  candidate : b.candidate = a.candidate
  localCandidates : b.localCandidates = a.localCandidates
  remoteCandidates : b.remoteCandidates = a.remoteCandidates

/-- **The loop that creates pairs**: what survives each new pair survives the loop. -/
theorem createIceCandidatePairs_induction {P : IceAgent → Prop} {agent : IceAgent} {c : Nat}
    {isRemoteCandidate : Bool} (hagent : P agent)
    (hadd : ∀ b l r, SameCandidates agent b → agent.Joins c isRemoteCandidate l r → P b →
      P (b.addPair l r)) : P (agent.createIceCandidatePairs c isRemoteCandidate) := by
  have hloop : ∀ candidates : List Nat,
      (∀ d ∈ candidates,
        d ∈ if isRemoteCandidate then agent.localCandidates else agent.remoteCandidates) →
      (agent.candidate c).state = .valid → ∀ b, SameCandidates agent b → P b →
        P (candidates.foldl (pairWith c isRemoteCandidate) b) := by
    intro candidates hmem hvalid
    induction candidates with
    | nil => exact fun b _ hb => hb
    | cons d candidates ih =>
      intro b hsame hb
      have hd := hmem d List.mem_cons_self
      apply ih fun e he => hmem e (List.mem_cons_of_mem d he)
      · unfold pairWith
        split_ifs
        all_goals exact ⟨hsame.candidate, hsame.localCandidates, hsame.remoteCandidates⟩
      · unfold pairWith
        rw [hsame.candidate]
        split
        · next h =>
          cases isRemoteCandidate with
          | true => exact hadd b d c hsame ⟨hd, rfl, h.1, hvalid, h.2⟩ hb
          | false => exact hadd b c d hsame ⟨rfl, hd, hvalid, h.1, h.2.symm⟩ hb
        · exact hb
  unfold createIceCandidatePairs
  split
  · next hvalid => exact hloop _ (fun d hd => hd) hvalid agent ⟨rfl, rfl, rfl⟩ hagent
  · exact hagent

theorem sameCandidates_createIceCandidatePairs (agent : IceAgent) (c : Nat)
    (isRemoteCandidate : Bool) :
    SameCandidates agent (agent.createIceCandidatePairs c isRemoteCandidate) := by
  apply createIceCandidatePairs_induction (P := SameCandidates agent) ⟨rfl, rfl, rfl⟩
  intro b l r _ _ hb
  exact ⟨hb.candidate, hb.localCandidates, hb.remoteCandidates⟩

@[simp] theorem updateCandidateAddress_localCandidates (agent : IceAgent) (c : Nat)
    (ipAddress : KvsIpAddress) :
    (agent.updateCandidateAddress c ipAddress).localCandidates = agent.localCandidates := by
  unfold updateCandidateAddress
  split_ifs <;> rfl

theorem gatherCandidate_localCandidates (relayAddress : Nat → Option KvsIpAddress)
    (agent : IceAgent) (c : Nat) :
    (agent.gatherCandidate relayAddress c).localCandidates = agent.localCandidates := by
  have hcreate : ∀ a : IceAgent, a.localCandidates = agent.localCandidates →
      (a.createIceCandidatePairs c false).localCandidates = agent.localCandidates := by
    intro a ha
    rw [(a.sameCandidates_createIceCandidatePairs c false).localCandidates, ha]
  unfold gatherCandidate
  split_ifs
  · split
    · exact hcreate _ (agent.updateCandidateAddress_localCandidates c _)
    · rfl
  · rfl
  · dsimp only
    split_ifs
    · exact hcreate _ rfl
    · rfl
  · rfl

/-- A server reflexive candidate that the timer reports next. -/
def isUnreported (agent : IceAgent) (c : Nat) : Prop :=
  (agent.candidate c).state = .valid ∧ (agent.candidate c).reported = false ∧
    (agent.candidate c).iceCandidateType = .serverReflexive

instance (agent : IceAgent) (c : Nat) : Decidable (agent.isUnreported c) :=
  inferInstanceAs (Decidable (_ ∧ _ ∧ _))

end IceAgent

/-- What is asked of a candidate that a STUN server tells its address, of one that takes the address
that the peer sees, of one that the timer pairs, of marks on pairs, candidates and the session, and
of the removal of pairs and local candidates. -/
structure Guards where
  learns : IceAgent → Nat → Prop
  replaces : IceAgent → Nat → KvsIpAddress → Prop
  pairsUp : IceAgent → Nat → Prop
  marks : Prop
  frees : Prop

/-- The changes that events are made of. -/
inductive Move (g : Guards) : IceAgent → IceAgent → Prop
  | other {a b : IceAgent} (h : SameCore a b) (hsession : g.marks ∨ SameSession a b) : Move g a b
  | markPair (a : IceAgent) (p : Nat) (nominated : Bool) (state : IceCandidatePairState)
      (h : g.marks) : Move g a (a.markPair p nominated state)
  | invalidate (a : IceAgent) (c : Nat) (h : g.marks ∨ (a.candidate c).state = .new) :
      Move g a (a.setCandidateState c .invalid)
  | putTurnPeer (a : IceAgent) (c : Nat) (peerAddress : KvsIpAddress) :
      Move g a (a.putTurnPeer c peerAddress)
  | report (a : IceAgent) (c : Nat) (hstate : (a.candidate c).state = .valid)
      (htype : (a.candidate c).iceCandidateType ≠ .serverReflexive) : Move g a (a.report c)
  | learnAddress (a : IceAgent) (c : Nat) (ipAddress : KvsIpAddress) (hmem : c ∈ a.localCandidates)
      (htype : (a.candidate c).iceCandidateType ≠ .host) (h : g.learns a c) :
      Move g a (a.updateCandidateAddress c ipAddress)
  | replaceAddress (a : IceAgent) (c : Nat) (ipAddress : KvsIpAddress)
      (hmem : c ∈ a.localCandidates) (h : g.replaces a c ipAddress) :
      Move g a (a.replaceAddress c ipAddress)
  | addLocal (a : IceAgent) (iceCandidateType : IceCandidateType) (ipAddress : KvsIpAddress)
      (isPointToPoint : Bool) : Move g a (a.addLocal iceCandidateType ipAddress .new isPointToPoint)
  | addHost (a : IceAgent) (ipAddress : KvsIpAddress) (isPointToPoint : Bool) :
      Move g a ((a.addLocal .host ipAddress .valid isPointToPoint).createIceCandidatePairs
        a.nextAddress false)
  | addRemote (a : IceAgent) (iceCandidateType : IceCandidateType) (ipAddress : KvsIpAddress)
      (priority : Nat) (hlen : a.remoteCandidates.length < kvsIceMaxRemoteCandidateCount)
      (hnew : a.findCandidateWithIp ipAddress a.remoteCandidates = none) :
      Move g a (a.addRemote iceCandidateType ipAddress priority)
  | allocateRelay (a : IceAgent) (c : Nat) (ipAddress : KvsIpAddress) (hmem : c ∈ a.localCandidates)
      (htype : (a.candidate c).iceCandidateType = .relayed) (hnew : (a.candidate c).state = .new) :
      Move g a ((a.updateCandidateAddress c ipAddress).createIceCandidatePairs c false)
  | pairUp (a : IceAgent) (c : Nat) (hmem : c ∈ a.localCandidates) (h : a.isUnreported c)
      (hpair : g.pairsUp a c) : Move g a ((a.report c).createIceCandidatePairs c false)
  | freePairs (a : IceAgent) (keep : Nat → Bool) (h : g.frees) : Move g a (a.freePairs keep)
  | keepLocals (a : IceAgent) (keep : Nat → Bool) (h : g.frees) : Move g a (a.keepLocals keep)

abbrev Moves (g : Guards) : IceAgent → IceAgent → Prop := ReflTransGen (Move g)

namespace Moves

variable {g : Guards} {a b c : IceAgent}

theorem one (h : Move g a b) : Moves g a b := ReflTransGen.single h

theorem other (hmarks : g.marks) (h : SameCore a b) : Moves g a b := one (.other h (.inl hmarks))

theorem preserves {P : IceAgent → Prop} (hP : ∀ a b, Move g a b → P a → P b) (h : Moves g a b)
    (ha : P a) : P b := by
  induction h with
  | refl => exact ha
  | tail _ hlast ih => exact hP _ _ hlast ih

theorem foldl {α : Type} {f : IceAgent → α → IceAgent} (l : List α)
    (h : ∀ a, ∀ x ∈ l, Moves g a (f a x)) (a : IceAgent) : Moves g a (l.foldl f a) :=
  List.foldlRecOn l f ReflTransGen.refl fun b hb x hx => hb.trans (h b x hx)

/-! ### Sending -/

theorem setPairState (hmarks : g.marks) (a : IceAgent) (p : Nat) (state : IceCandidatePairState) :
    Moves g a (a.setPairState p state) :=
  one (.markPair a p (a.pair p).nominated state hmarks)

theorem invalidateCandidatePair (hmarks : g.marks) (a : IceAgent) :
    Moves g a a.invalidateCandidatePair := by
  apply foldl
  intro a p _
  show Moves g a (ite _ _ _)
  split_ifs
  · exact setPairState hmarks a p .failed
  · exact .refl

theorem failPair (hmarks : g.marks) (a : IceAgent) (c : Nat) (destAddr : KvsIpAddress) :
    Moves g a (a.failPair c destAddr) := by
  unfold IceAgent.failPair
  split
  · exact .refl
  · exact setPairState hmarks a _ .failed

theorem sendStunPacket (hmarks : g.marks) (a : IceAgent) (sent : SendResult) (c : Nat)
    (destAddr : KvsIpAddress) :
    Moves g a (a.sendStunPacket sent c destAddr) := by
  cases sent with
  | ok => exact .refl
  | closedAlready =>
    apply (one (.invalidate a c (.inl hmarks))).trans
    exact (invalidateCandidatePair hmarks _).trans (failPair hmarks _ c destAddr)
  | failed => exact failPair hmarks a c destAddr

theorem sendOnPair (hmarks : g.marks) (sent : Nat → SendResult) (a : IceAgent) (p : Nat) :
    Moves g a (a.sendOnPair sent p) := sendStunPacket hmarks a _ _ _

theorem checkCandidatePairConnection (hmarks : g.marks) (a : IceAgent) (sent : Nat → SendResult) :
    Moves g a (a.checkCandidatePairConnection sent) := by
  unfold IceAgent.checkCandidatePairConnection
  split
  · next p queue _ =>
    have hqueue : Moves g a { a with triggeredCheckQueue := queue } :=
      other hmarks ⟨rfl, rfl, rfl, rfl, rfl, rfl⟩
    exact hqueue.trans (sendOnPair hmarks sent _ p)
  · apply foldl
    intro a p _
    unfold IceAgent.checkPair
    split
    · exact (setPairState hmarks a p .inProgress).trans (sendOnPair hmarks sent _ p)
    · exact sendOnPair hmarks sent a p
    · exact .refl

theorem sendKeepAlive (hmarks : g.marks) (a : IceAgent) (sent : Nat → SendResult) :
    Moves g a (a.sendKeepAlive sent) := by
  apply foldl
  intro a p _
  show Moves g a (ite _ _ _)
  split_ifs
  · exact sendOnPair hmarks sent a p
  · exact .refl

theorem sendCandidateNomination (hmarks : g.marks) (a : IceAgent) (sent : Nat → SendResult) :
    Moves g a (a.sendCandidateNomination sent) := by
  unfold IceAgent.sendCandidateNomination
  split_ifs
  · apply foldl
    intro a p _
    show Moves g a (ite _ _ _)
    split_ifs
    · exact sendOnPair hmarks sent a p
    · exact .refl
  · exact .refl

theorem sendSrflxCandidateRequest (hmarks : g.marks) (a : IceAgent) (sent : Nat → SendResult)
    (stunServerAddr : Nat → KvsIpAddress) :
    Moves g a (a.sendSrflxCandidateRequest sent stunServerAddr) := by
  apply foldl
  intro a c _
  show Moves g a (ite _ _ _)
  split_ifs
  · exact sendStunPacket hmarks a _ c _
  · exact .refl

theorem sendPacket (hmarks : g.marks) (a : IceAgent) (sent : SendResult) :
    Moves g a (a.sendPacket sent) := by
  unfold IceAgent.sendPacket
  split
  · exact .refl
  · split_ifs
    · exact (setPairState hmarks a _ .failed).trans (other hmarks ⟨rfl, rfl, rfl, rfl, rfl, rfl⟩)
    · exact .refl

/-! ### Candidates -/

theorem turnConnectionAddPeer (a : IceAgent) (c : Nat) (peerAddress : KvsIpAddress) :
    Moves g a (a.turnConnectionAddPeer c peerAddress).2 := by
  unfold IceAgent.turnConnectionAddPeer
  split_ifs
  · exact .refl
  · exact one (.putTurnPeer a c peerAddress)
  · exact .refl

theorem addTurnPeer (peerAddress : KvsIpAddress) (candidates : List Nat) (a : IceAgent) :
    Moves g a (IceAgent.addTurnPeer peerAddress candidates a).2 := by
  induction candidates generalizing a with
  | nil => exact .refl
  | cons c candidates ih =>
    have hpeer := turnConnectionAddPeer (g := g) a c peerAddress
    unfold IceAgent.addTurnPeer
    split_ifs
    · split
      · next heq =>
        rw [heq] at hpeer
        exact hpeer.trans (ih _)
      · exact hpeer
    · exact ih a

theorem addTurnPeers (c : Nat) (candidates : List Nat) (a : IceAgent) :
    Moves g a (IceAgent.addTurnPeers c candidates a).2 := by
  induction candidates generalizing a with
  | nil => exact .refl
  | cons r candidates ih =>
    have hpeer := turnConnectionAddPeer (g := g) a c (a.candidate r).ipAddress
    unfold IceAgent.addTurnPeers
    split_ifs
    · split
      · next heq =>
        rw [heq] at hpeer
        exact hpeer.trans (ih _)
      · exact hpeer
    · exact ih a

theorem addRemoteCandidate (inetPton : Nat → List Char → Option (List UInt8))
    (strtoui32 : List Char → Except Status Nat) (a : IceAgent) (iceCandidateString : List Char) :
    Moves g a (a.addRemoteCandidate inetPton strtoui32 iceCandidateString).2 := by
  unfold IceAgent.addRemoteCandidate
  split_ifs with hempty hlen
  · exact .refl
  · exact .refl
  · split
    · exact .refl
    · split_ifs
      · exact .refl
      · split
        · exact .refl
        · next hnew => exact (one (.addRemote a _ _ _ (by omega) hnew)).trans (addTurnPeer _ _ _)

theorem checkRemotePeerReflexiveCandidate (a : IceAgent) (ipAddress : KvsIpAddress)
    (priority : Nat) : Moves g a (a.checkRemotePeerReflexiveCandidate ipAddress priority) := by
  unfold IceAgent.checkRemotePeerReflexiveCandidate
  split_ifs with hlen
  · exact .refl
  · split
    · exact .refl
    · next hnew => exact one (.addRemote a _ _ _ (by omega) hnew)

theorem initHostCandidate (a : IceAgent) (ipAddress : KvsIpAddress) (port : List UInt8)
    (isPointToPoint : Bool) : Moves g a (a.initHostCandidate ipAddress port isPointToPoint) := by
  unfold IceAgent.initHostCandidate
  split
  · exact .refl
  · exact one (.addHost a _ isPointToPoint)

theorem initSrflxCandidate (a : IceAgent) (iceServers : List IceServer) :
    Moves g a (a.initSrflxCandidate iceServers) := by
  apply foldl
  intro a c _
  show Moves g a (ite _ _ _)
  split_ifs
  · apply foldl
    intro a _ _
    exact one (.addLocal a .serverReflexive _ _)
  · exact .refl

theorem initRelayCandidate (a : IceAgent) : Moves g a a.initRelayCandidate.2 := by
  unfold IceAgent.initRelayCandidate
  split_ifs
  · exact .refl
  · have hadd := one (.addLocal (g := g) a .relayed ⟨0, [0, 0], []⟩ false)
    have hpeers := addTurnPeers (g := g) a.nextAddress
      (a.addLocal .relayed ⟨0, [0, 0], []⟩ .new false).remoteCandidates
      (a.addLocal .relayed ⟨0, [0, 0], []⟩ .new false)
    dsimp only
    split
    · next heq =>
      rw [heq] at hpeers
      refine (hadd.trans hpeers).tail (.other ⟨rfl, rfl, rfl, rfl, rfl, rfl⟩ ?_)
      exact .inr ⟨rfl, rfl, rfl, rfl⟩
    · exact hadd.trans hpeers

theorem turnStateFailed (a : IceAgent) (c : Nat) : Moves g a (a.turnStateFailed c) := by
  unfold IceAgent.turnStateFailed
  split_ifs with hnew
  · exact one (.invalidate a c (.inr hnew))
  · exact .refl

/-! ### STUN packets -/

theorem nominateOnRequest (hmarks : g.marks) (a : IceAgent) (request : StunPacket) (p : Nat) :
    Moves g a (a.nominateOnRequest request p) := by
  unfold IceAgent.nominateOnRequest
  split_ifs
  · exact one (.markPair a p true (a.pair p).state hmarks)
  · exact .refl

theorem triggerCheck (hmarks : g.marks) (a : IceAgent) (p : Nat) :
    Moves g a (a.triggerCheck p) := by
  unfold IceAgent.triggerCheck
  split_ifs
  · exact other hmarks ⟨rfl, rfl, rfl, rfl, rfl, rfl⟩
  · exact .refl

theorem handleBindingRequest (hmarks : g.marks) (hmac : List UInt8 → List UInt8 → Digest)
    (crc32 : List UInt8 → UInt32) (a : IceAgent) (buffer : List UInt8) (socketConnection : Nat)
    (srcAddr : KvsIpAddress) (sent : SendResult) :
    Moves g a (a.handleBindingRequest hmac crc32 buffer socketConnection srcAddr sent).2 := by
  unfold IceAgent.handleBindingRequest
  split
  · exact .refl
  · next request _ =>
    split
    · exact .refl
    · have hpeer := checkRemotePeerReflexiveCandidate (g := g) a srcAddr (priorityOf request)
      dsimp only
      split
      · exact hpeer
      · next c _ =>
        have hsent := hpeer.trans (sendStunPacket hmarks _ sent c srcAddr)
        split
        · exact hsent
        · next p _ => exact (hsent.trans (nominateOnRequest hmarks _ request p)).trans (triggerCheck
            hmarks _ p)

/-! ### Setting up the states -/

theorem checkConnectionStateSetup (hmarks : g.marks) (a : IceAgent) :
    Moves g a a.checkConnectionStateSetup := by
  apply foldl
  intro a p _
  exact setPairState hmarks a p .waiting

theorem connectedStateSetup (hmarks : g.marks) (a : IceAgent) :
    Moves g a a.connectedStateSetup := by
  have hfree : Moves g a a.freeLastDataSendingPair := by
    unfold IceAgent.freeLastDataSendingPair
    split
    · exact .refl
    · exact other hmarks ⟨rfl, rfl, rfl, rfl, rfl, rfl⟩
  unfold IceAgent.connectedStateSetup
  dsimp only
  split
  · exact hfree
  · exact hfree.trans (other hmarks ⟨rfl, rfl, rfl, rfl, rfl, rfl⟩)

theorem nominateCandidatePair (hmarks : g.marks) {a b : IceAgent}
    (h : a.nominateCandidatePair = .ok b) :
    Moves g a b := by
  unfold IceAgent.nominateCandidatePair at h
  split_ifs at h
  · split at h
    · cases h
    · next p _ =>
      obtain rfl := Except.ok.inj h
      have hmark : Moves g a (a.modifyPair p fun pair => { pair with nominated := true }) :=
        one (.markPair a p true (a.pair p).state hmarks)
      apply hmark.trans
      apply foldl
      intro a q _
      show Moves g a (ite _ _ _)
      split_ifs
      · exact .refl
      · exact setPairState hmarks a q .frozen
  · obtain rfl := Except.ok.inj h
    exact .refl

theorem invalidateNotSelected (hmarks : g.marks) (a : IceAgent) (p : Nat) :
    Moves g a (a.invalidateNotSelected p) := by
  apply foldl
  intro a c _
  show Moves g a (ite _ _ _)
  split_ifs
  · exact one (.invalidate a c (.inl hmarks))
  · exact .refl

theorem freeNotSelected (hmarks : g.marks) (hfrees : g.frees) (a : IceAgent) (p : Nat) :
    Moves g a (a.freeNotSelected p) := by
  apply (invalidateNotSelected hmarks a p).trans
  exact (invalidateCandidatePair hmarks _).tail (.freePairs _ _ hfrees)

theorem readyStateSetup (hmarks : g.marks) (hfrees : g.frees) {a b : IceAgent}
    (h : a.readyStateSetup = .ok b) :
    Moves g a b := by
  unfold IceAgent.readyStateSetup at h
  split at h
  · next p _ =>
    obtain rfl := Except.ok.inj h
    exact freeNotSelected hmarks hfrees a p
  · split at h
    · cases h
    · next p _ =>
      obtain rfl := Except.ok.inj h
      have hselect : Moves g a { a with dataSendingIceCandidatePair := some p } :=
        other hmarks ⟨rfl, rfl, rfl, rfl, rfl, rfl⟩
      exact hselect.trans (freeNotSelected hmarks hfrees _ p)

theorem executeCheckConnection (hmarks : g.marks) (a : IceAgent) (input : StepInput) :
    Moves g a (a.executeCheckConnection input) := by
  unfold IceAgent.executeCheckConnection
  refine ReflTransGen.trans ?_ (checkCandidatePairConnection hmarks _ input.sent)
  split_ifs
  · exact (checkConnectionStateSetup hmarks a).trans (other hmarks ⟨rfl, rfl, rfl, rfl, rfl, rfl⟩)
  · exact .refl

theorem executeNominating (hmarks : g.marks) (a : IceAgent) (input : StepInput) :
    Moves g a (a.executeNominating input) := by
  unfold IceAgent.executeNominating
  dsimp only
  split
  · exact other hmarks ⟨rfl, rfl, rfl, rfl, rfl, rfl⟩
  · next b hb =>
    have hsetup : Moves g a b := by
      split_ifs at hb
      · cases hn : a.nominatingStateSetup with
        | error e =>
          rw [hn] at hb
          cases hb
        | ok b' =>
          rw [hn] at hb
          obtain rfl := Except.ok.inj hb
          refine ReflTransGen.trans ?_ (other (a := b') hmarks ⟨rfl, rfl, rfl, rfl, rfl, rfl⟩)
          unfold IceAgent.nominatingStateSetup at hn
          split_ifs at hn
          · exact nominateCandidatePair hmarks hn
          · obtain rfl := Except.ok.inj hn
            exact .refl
      · obtain rfl := Except.ok.inj hb
        exact .refl
    apply hsetup.trans
    split_ifs
    · exact sendCandidateNomination hmarks b input.sent
    · exact checkCandidatePairConnection hmarks b input.sent

theorem executeReady (hmarks : g.marks) (hfrees : g.frees) (a : IceAgent) (input : StepInput) :
    Moves g a (a.executeReady input) := by
  unfold IceAgent.executeReady
  dsimp only
  split
  · exact other hmarks ⟨rfl, rfl, rfl, rfl, rfl, rfl⟩
  · next b hb =>
    have hsetup : Moves g a b := by
      split_ifs at hb
      · cases hr : a.readyStateSetup with
        | error e =>
          rw [hr] at hb
          cases hb
        | ok b' =>
          rw [hr] at hb
          obtain rfl := Except.ok.inj hb
          exact (readyStateSetup hmarks hfrees hr).trans
            (other hmarks ⟨rfl, rfl, rfl, rfl, rfl, rfl⟩)
      · obtain rfl := Except.ok.inj hb
        exact .refl
    exact hsetup.tail (.keepLocals b _ hfrees)

theorem execute (hmarks : g.marks) (hfrees : g.frees) (a : IceAgent)
    (input : StepInput) (state : IceAgentState) :
    Moves g a (a.execute input state) := by
  cases state with
  | new => exact other hmarks ⟨rfl, rfl, rfl, rfl, rfl, rfl⟩
  | checkConnection => exact executeCheckConnection hmarks a input
  | connected => exact (connectedStateSetup hmarks a).trans (other hmarks ⟨rfl, rfl, rfl, rfl, rfl,
    rfl⟩)
  | nominating => exact executeNominating hmarks a input
  | ready => exact executeReady hmarks hfrees a input
  | disconnected => exact .refl
  | failed => exact other hmarks ⟨rfl, rfl, rfl, rfl, rfl, rfl⟩

theorem enter (hmarks : g.marks) (a : IceAgent) (input : StepInput)
    {run : IceAgent → IceAgentState → IceAgent} (hrun : ∀ a state, Moves g a (run a state)) :
    Moves g a (a.enter input run) := by
  unfold IceAgent.enter
  dsimp only
  split_ifs
  · refine ReflTransGen.trans ?_ (hrun _ _)
    exact other hmarks ⟨rfl, rfl, rfl, rfl, rfl, rfl⟩
  · exact other hmarks ⟨rfl, rfl, rfl, rfl, rfl, rfl⟩

theorem stepStateMachine (hmarks : g.marks) (hfrees : g.frees) (a : IceAgent) (input : StepInput) :
    Moves g a (a.stepStateMachine input) := by
  apply enter hmarks
  intro a state
  split_ifs
  · exact enter hmarks a input fun a state => execute hmarks hfrees a input state
  · exact execute hmarks hfrees a input state

theorem stepIceAgentStateMachine (hmarks : g.marks) (hfrees : g.frees) (a : IceAgent)
    (input : StepInput) : Moves g a (a.stepIceAgentStateMachine input) := by
  unfold IceAgent.stepIceAgentStateMachine
  dsimp only
  split_ifs
  · exact (stepStateMachine hmarks hfrees a input).trans (stepStateMachine hmarks hfrees _ input)
  · exact stepStateMachine hmarks hfrees a input

theorem startAgent (a : IceAgent) (remotePassword : List UInt8) (isControlling : Bool) :
    Moves g a (a.startAgent remotePassword isControlling) := by
  apply one
  apply Move.other
  · unfold IceAgent.startAgent
    split_ifs
    all_goals exact ⟨rfl, rfl, rfl, rfl, rfl, rfl⟩
  · right
    unfold IceAgent.startAgent
    split_ifs
    all_goals exact ⟨rfl, rfl, rfl, rfl⟩

theorem restartAgent (hmarks : g.marks) (hfrees : g.frees) (a : IceAgent)
    (localIcePwd : List UInt8) : Moves g a (a.restartAgent localIcePwd) := by
  unfold IceAgent.restartAgent
  split_ifs
  · exact .refl
  · apply (one (.freePairs a (fun _ => false) hfrees)).trans
    apply (one (.keepLocals _ (fun _ => false) hfrees)).trans
    apply other hmarks
    constructor <;> simp [IceAgent.freePairs, IceAgent.keepLocals]

end Moves

/-! ### Admitted events -/

/-- The response of a STUN server tells the candidate of the socket its address. -/
def IceAgent.Learns (platform : Platform) (agent : IceAgent) (buffer : List UInt8)
    (socketConnection c : Nat) : Prop :=
  agent.findCandidateWithSocketConnection socketConnection agent.localCandidates = some c ∧
    (agent.candidate c).iceCandidateType ≠ .host ∧
    ∃ response ipAddress,
      deserializeStunPacket platform.hmac platform.crc32 buffer none = .ok response ∧
        mappedAddressOf response = some ipAddress

/-- The response of the peer on a pair gives the candidate of the socket another address. -/
def IceAgent.Replaces (platform : Platform) (agent : IceAgent) (buffer : List UInt8)
    (socketConnection : Nat) (srcAddr : KvsIpAddress) (c : Nat) (ipAddress : KvsIpAddress) : Prop :=
  agent.findCandidateWithSocketConnection socketConnection agent.localCandidates = some c ∧
    agent.findCandidateWithIp ipAddress agent.localCandidates = none ∧
    ∃ p response,
      agent.findIceCandidatePair (some socketConnection) srcAddr = some p ∧
        deserializeStunPacket platform.hmac platform.crc32 buffer (some agent.remotePassword) =
          .ok response ∧
        mappedAddressOf response = some ipAddress ∧ agent.seesOtherAddress p ipAddress

def Guards.Admits (g : Guards) (platform : Platform) (agent : IceAgent) : IceEvent → Prop
  | .gatherTimer relayAddress _ _ =>
    g.marks ∧ AllSteps (IceAgent.gatherCandidate relayAddress)
      (fun a c => a.isUnreported c → g.pairsUp a c) agent agent.localCandidates
  | .stunPacket buffer socketConnection srcAddr _ agentHasId pairHasId =>
    g.marks ∧ (beNat (bytesAt buffer 0 2) = typeBindingResponseSuccess →
      if agentHasId then ∀ c, agent.Learns platform buffer socketConnection c → g.learns agent c
      else pairHasId →
        ∀ c ipAddress, agent.Replaces platform buffer socketConnection srcAddr c ipAddress →
          g.replaces agent c ipAddress)
  | .keepAliveTimer _ | .sendPacket _ => g.marks
  | .stateTimer _ | .restartAgent _ => g.marks ∧ g.frees
  | .prune => g.frees
  | _ => True

namespace Moves

variable {g : Guards} {platform : Platform} {agent : IceAgent}

theorem gatherCandidate (relayAddress : Nat → Option KvsIpAddress) {agent : IceAgent} {c : Nat}
    (hmem : c ∈ agent.localCandidates) (hpair : agent.isUnreported c → g.pairsUp agent c) :
    Moves g agent (agent.gatherCandidate relayAddress c) := by
  unfold IceAgent.gatherCandidate
  split_ifs with hnew hrelayed hvalid
  · split
    · next ipAddress _ => exact one (.allocateRelay agent c ipAddress hmem hrelayed hnew)
    · exact .refl
  · exact .refl
  · dsimp only
    have htype : ((agent.report c).candidate c).iceCandidateType =
        (agent.candidate c).iceCandidateType := by
      rw [IceAgent.report, IceAgent.candidate_modifyCandidate_self]
    change Moves g agent (ite (((agent.report c).candidate c).iceCandidateType = _) _ _)
    rw [htype]
    split_ifs with hsrflx
    · have hun : agent.isUnreported c := ⟨hvalid.1, hvalid.2, hsrflx⟩
      exact one (.pairUp agent c hmem hun (hpair hun))
    · exact one (.report agent c hvalid.1 hsrflx)
  · exact .refl

theorem gatherCandidates (relayAddress : Nat → Option KvsIpAddress) {agent : IceAgent}
    {candidates : List Nat} (hmem : ∀ c ∈ candidates, c ∈ agent.localCandidates)
    (h : AllSteps (IceAgent.gatherCandidate relayAddress) (fun a c => a.isUnreported c →
      g.pairsUp a c)
      agent candidates) :
    Moves g agent (candidates.foldl (IceAgent.gatherCandidate relayAddress) agent) := by
  induction candidates generalizing agent with
  | nil => exact .refl
  | cons c candidates ih =>
    refine (gatherCandidate relayAddress (hmem c List.mem_cons_self) h.1).trans (ih ?_ h.2)
    intro d hd
    rw [IceAgent.gatherCandidate_localCandidates]
    exact hmem d (List.mem_cons_of_mem c hd)

theorem handleServerResponse (buffer : List UInt8) (socketConnection : Nat)
    (h : ∀ c, agent.Learns platform buffer socketConnection c → g.learns agent c) :
    Moves g agent
      (agent.handleServerResponse platform.hmac platform.crc32 buffer socketConnection).2 := by
  unfold IceAgent.handleServerResponse
  split
  · exact .refl
  · next c hc =>
    split
    · exact .refl
    · next response hresponse =>
      split
      · exact .refl
      · next ipAddress haddress =>
        split_ifs with htype
        · exact .refl
        · apply one
          apply Move.learnAddress agent c ipAddress (List.mem_of_find?_eq_some hc) htype
          exact h c ⟨hc, htype, response, ipAddress, hresponse, haddress⟩

theorem checkLocalPeerReflexiveCandidate {ipAddress : KvsIpAddress} {socketConnection : Nat}
    (h : ∀ c, agent.findCandidateWithIp ipAddress agent.localCandidates = none →
      agent.findCandidateWithSocketConnection socketConnection agent.localCandidates = some c →
        g.replaces agent c ipAddress) :
    Moves g agent (agent.checkLocalPeerReflexiveCandidate ipAddress socketConnection) := by
  unfold IceAgent.checkLocalPeerReflexiveCandidate
  split
  · exact .refl
  · next hnone =>
    split
    · exact .refl
    · next c hc =>
      exact one (.replaceAddress agent c ipAddress (List.mem_of_find?_eq_some hc) (h c hnone hc))

theorem handlePeerResponse (hmarks : g.marks) (buffer : List UInt8) (socketConnection : Nat)
    (srcAddr : KvsIpAddress) (hasId : Bool)
    (h : hasId → ∀ c ipAddress,
      agent.Replaces platform buffer socketConnection srcAddr c ipAddress →
        g.replaces agent c ipAddress) :
    Moves g agent
      (agent.handlePeerResponse platform.hmac platform.crc32 buffer socketConnection srcAddr
        hasId).2 := by
  unfold IceAgent.handlePeerResponse
  split
  · exact .refl
  · next p hp =>
    split_ifs with hid
    · split
      · exact .refl
      · next response hresponse =>
        split
        · exact .refl
        · next ipAddress haddress =>
          refine ReflTransGen.trans ?_ (setPairState hmarks _ p .succeeded)
          split_ifs with hsees
          · apply checkLocalPeerReflexiveCandidate
            intro c hnone hc
            exact h hid c ipAddress ⟨hc, hnone, p, response, hp, hresponse, haddress, hsees⟩
          · exact .refl
    · exact .refl

end Moves

/-- **An event that is admitted is a chain of moves.** -/
theorem Guards.Admits.moves {g : Guards} {platform : Platform} {agent : IceAgent} {event : IceEvent}
    (h : g.Admits platform agent event) : Moves g agent (agent.step platform event) := by
  cases event with
  | initHostCandidate ipAddress port isPointToPoint => exact Moves.initHostCandidate _ _ _ _
  | initSrflxCandidate iceServers => exact Moves.initSrflxCandidate _ _
  | initRelayCandidate => exact Moves.initRelayCandidate _
  | turnStateFailed c => exact Moves.turnStateFailed _ _
  | startAgent remotePassword isControlling => exact Moves.startAgent _ _ _
  | addRemoteCandidate iceCandidateString => exact Moves.addRemoteCandidate _ _ _ _
  | gatherTimer relayAddress sent stunServerAddr =>
    have hgather := Moves.gatherCandidates relayAddress (fun c hc => hc) h.2
    exact hgather.trans (Moves.sendSrflxCandidateRequest h.1 _ sent stunServerAddr)
  | stateTimer input => exact Moves.stepIceAgentStateMachine h.1 h.2 _ _
  | keepAliveTimer sent => exact Moves.sendKeepAlive h _ _
  | stunPacket buffer socketConnection srcAddr sent agentHasId pairHasId =>
    show Moves g agent (IceAgent.handleStunPacket _ _ agent buffer _ _ _ _ _).2
    unfold IceAgent.handleStunPacket
    split_ifs with hrequest hresponse hagent
    · exact Moves.handleBindingRequest h.1 _ _ _ _ _ _ _
    · have hlearns := h.2 hresponse
      rw [if_pos hagent] at hlearns
      exact Moves.handleServerResponse buffer socketConnection hlearns
    · have hreplaces := h.2 hresponse
      rw [if_neg hagent] at hreplaces
      exact Moves.handlePeerResponse h.1 buffer socketConnection srcAddr pairHasId hreplaces
    · exact .refl
  | sendPacket sent => exact Moves.sendPacket h _ _
  | prune => exact Moves.one (.freePairs agent _ h)
  | restartAgent localIcePwd => exact Moves.restartAgent h.1 h.2 _ _

/-- Guards that ask for something of a response of the peer only. -/
theorem Guards.admits_of_replaces {g : Guards} (hlearns : ∀ a c, g.learns a c)
    (hpairsUp : ∀ a c, g.pairsUp a c) (hmarks : g.marks) (hfrees : g.frees) {platform : Platform}
    {agent : IceAgent} {event : IceEvent}
    (h : ∀ buffer socketConnection srcAddr sent,
      event = .stunPacket buffer socketConnection srcAddr sent false true →
      beNat (bytesAt buffer 0 2) = typeBindingResponseSuccess →
        ∀ c ipAddress, agent.Replaces platform buffer socketConnection srcAddr c ipAddress →
          g.replaces agent c ipAddress) : g.Admits platform agent event := by
  cases event with
  | gatherTimer relayAddress sent stunServerAddr =>
    exact ⟨hmarks, allSteps_of_forall (fun a c _ => hpairsUp a c) agent agent.localCandidates⟩
  | stunPacket buffer socketConnection srcAddr sent agentHasId pairHasId =>
    refine ⟨hmarks, fun hresponse => ?_⟩
    cases agentHasId with
    | true => exact fun c _ => hlearns agent c
    | false =>
      rintro rfl
      exact h buffer socketConnection srcAddr sent rfl hresponse
  | keepAliveTimer sent => exact hmarks
  | sendPacket sent => exact hmarks
  | stateTimer input => exact ⟨hmarks, hfrees⟩
  | prune => exact hfrees
  | restartAgent localIcePwd => exact ⟨hmarks, hfrees⟩
  | _ => trivial

end KvsWebrtc.Ice
