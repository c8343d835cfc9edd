import KvsWebrtc.Common.Run
import KvsWebrtc.Turn.Equiv.StateMachine
import Mathlib.Data.List.Nodup
import Mathlib.Logic.Relation

/-!
# The peers of a TURN connection

Whatever happens to a connection changes its peers in few ways, the moves.  The peers always have
different addresses and different channel numbers (`PeersDistinct.move`), and the ids in the store
of a peer are zeroes or its own (`IdsOk.move`).

A peer becomes ready by a permission and a bound channel (`Answered.move`), if no response is taken
for one to a slot of the store that is not used: such a slot holds twelve zeroes, and a response
with this id finds it.
-/

namespace KvsWebrtc.Turn

open Stun Relation
open Ice (defaultTurnMaxPeerCount)

/-! ### The moves -/

def awaiting (peers : List TurnPeer) (state : TurnPeerConnectionState)
    (transactionId : List UInt8) :
    List TurnPeer :=
  peers.filter fun peer => peer.connectionState == state && peer.hasId transactionId

/-- What happens to the peers and to the transactions.  `ok` is asked of the peers that a success
response advances, and of its id. -/
inductive PeerMove (ok : List Transaction → List TurnPeer → List UInt8 → Prop) :
    List TurnPeer × List Transaction → List TurnPeer × List Transaction → Prop
  | add {peers : List TurnPeer} {log : List Transaction} (address : KvsIpAddress)
      (hnew : ∀ peer ∈ peers, Ice.sameIpAddress peer.address address true = false)
      (hroom : peers.length < defaultTurnMaxPeerCount) :
      PeerMove ok (peers, log) (peers ++ [createTurnPeer address (peers.length + 1)], log)
  | request {peers : List TurnPeer} {log : List Transaction} (i : Nat) (peer : TurnPeer)
      (transactionId : List UInt8) (hpeer : peers[i]? = some peer) :
      PeerMove ok (peers, log)
        (peers.set i { peer with
        transactionIdStore := peer.transactionIdStore.insert transactionId },
          log ++ [.request peer.channelNumber transactionId])
  | permission {peers : List TurnPeer} {log : List Transaction} (currentTime : Nat)
      (transactionId : List UInt8)
      (hok : ok log (awaiting peers .createPermission transactionId) transactionId) :
      PeerMove ok (peers, log)
        (peers.map fun peer => if peer.hasId transactionId then peer.permitted currentTime
        else peer,
          log ++ [.success typeCreatePermissionSuccessResponse transactionId])
  | bind {peers : List TurnPeer} {log : List Transaction} (transactionId : List UInt8)
      (hok : ok log ((awaiting peers .bindChannel transactionId).take 1) transactionId) :
      PeerMove ok (peers, log)
        (modifyFirst (fun peer => peer.connectionState == .bindChannel && peer.hasId transactionId)
          TurnPeer.bound peers,
          log ++ [.success typeChannelBindSuccessResponse transactionId])
  | refuse {peers : List TurnPeer} {log : List Transaction} (transactionId : List UInt8) :
      PeerMove ok (peers, log)
        (modifyFirst (·.hasId transactionId) ({ · with connectionState := .failed }) peers, log)
  | reset {peers : List TurnPeer} {log : List Transaction} :
      PeerMove ok (peers, log) (peers.map TurnPeer.reset, log)
  | clear {peers : List TurnPeer} {log : List Transaction} :
      PeerMove ok (peers, log) (peers.map TurnPeer.clearIds, log)

section

variable {peers : List TurnPeer} {peer : TurnPeer} {p : TurnPeer → Bool} {f : TurnPeer → TurnPeer}

/-- The peers after a change of the first one that meets `p`. -/
theorem mem_modifyFirst (h : peer ∈ modifyFirst p f peers) :
    peer ∈ peers ∨ ∃ old, (peers.filter p).head? = some old ∧ peer = f old := by
  induction peers with
  | nil => exact .inl h
  | cons first peers ih =>
    unfold modifyFirst at h
    split_ifs at h with hp
    · rcases List.mem_cons.mp h with rfl | hmem
      · right
        exact ⟨first, by rw [List.filter_cons_of_pos hp]; rfl, rfl⟩
      · exact .inl (List.mem_cons_of_mem first hmem)
    · rcases List.mem_cons.mp h with rfl | hmem
      · exact .inl List.mem_cons_self
      · rw [List.filter_cons_of_neg hp]
        exact (ih hmem).imp_left (List.mem_cons_of_mem first)

theorem map_modifyFirst {α : Type*} (g : TurnPeer → α) (hg : ∀ peer, g (f peer) = g peer) :
    (modifyFirst p f peers).map g = peers.map g := by
  induction peers with
  | nil => rfl
  | cons first peers ih =>
    unfold modifyFirst
    split_ifs
    · rw [List.map_cons, List.map_cons, hg]
    · rw [List.map_cons, List.map_cons, ih]

end

/-! ### Addresses and channel numbers -/

/-- The address and the channel number of a peer, which never change. -/
def TurnPeer.key (peer : TurnPeer) : KvsIpAddress × Nat := (peer.address, peer.channelNumber)

variable {ok : List Transaction → List TurnPeer → List UInt8 → Prop}
  {s t : List TurnPeer × List Transaction}

/-- A peer is added, or the peers keep their addresses and channel numbers. -/
theorem PeerMove.keys (h : PeerMove ok s t) :
    (∃ address, (∀ peer ∈ s.1, Ice.sameIpAddress peer.address address true = false) ∧
      s.1.length < defaultTurnMaxPeerCount ∧ t.1 = s.1 ++
        [createTurnPeer address (s.1.length + 1)]) ∨
    t.1.map TurnPeer.key = s.1.map TurnPeer.key := by
  cases h with
  | add address hnew hroom => exact .inl ⟨address, hnew, hroom, rfl⟩
  | request i peer transactionId hpeer =>
    exact .inr (TurnConnection.map_set_of_eq hpeer TurnPeer.key rfl)
  | permission currentTime transactionId =>
    right
    rw [List.map_map]
    apply List.map_congr_left
    intro peer _
    show TurnPeer.key (if _ then _ else _) = _
    split_ifs <;> rfl
  | bind transactionId => exact .inr (map_modifyFirst _ fun _ => rfl)
  | refuse transactionId => exact .inr (map_modifyFirst _ fun _ => rfl)
  | reset =>
    right
    rw [List.map_map]
    rfl
  | clear =>
    right
    rw [List.map_map]
    rfl

/-- There are not too many peers, and they have different addresses and channel numbers. -/
structure PeersDistinct (peers : List TurnPeer) : Prop where
  length_le : peers.length ≤ defaultTurnMaxPeerCount
  addresses : peers.Pairwise fun a b => Ice.sameIpAddress a.address b.address true = false
  channelNumbers : peers.map TurnPeer.channelNumber =
    (List.range peers.length).map fun i => turnChannelBindChannelNumberBase + 1 + i

theorem PeersDistinct.congr {peers peers' : List TurnPeer} (h : PeersDistinct peers)
    (hkeys : peers'.map TurnPeer.key = peers.map TurnPeer.key) : PeersDistinct peers' := by
  have hlength : peers'.length = peers.length := by
    simpa using congrArg List.length hkeys
  have hmap : ∀ {α : Type} (g : KvsIpAddress × Nat → α),
      peers'.map (g ∘ TurnPeer.key) = peers.map (g ∘ TurnPeer.key) := by
    intro α g
    rw [← List.map_map, hkeys, List.map_map]
  refine ⟨hlength ▸ h.length_le, ?_, ?_⟩
  · have haddresses : (peers.map (Prod.fst ∘ TurnPeer.key)).Pairwise
        fun a b => Ice.sameIpAddress a b true = false := List.pairwise_map.mpr h.addresses
    rw [← hmap] at haddresses
    exact List.pairwise_map.mp haddresses
  · rw [hlength, ← h.channelNumbers]
    exact hmap Prod.snd

/-- **Distinct peers**: every move keeps them. -/
theorem PeersDistinct.move (h : PeersDistinct s.1) (hmove : PeerMove ok s t) :
    PeersDistinct t.1 := by
  rcases hmove.keys with ⟨address, hnew, hroom, ht⟩ | hkeys
  · rw [ht]
    refine ⟨?_, ?_, ?_⟩
    · rw [List.length_append]
      exact hroom
    · refine List.pairwise_append.mpr ⟨h.addresses, List.pairwise_singleton _ _, ?_⟩
      intro peer hpeer new hmem
      rw [List.mem_singleton.mp hmem]
      exact hnew peer hpeer
    · rw [List.map_append, h.channelNumbers, List.length_append, List.length_singleton,
        List.range_succ, List.map_append, List.map_singleton, List.map_singleton]
      -- the number does not wrap around, since there are not too many peers
      have hchannel : (createTurnPeer address (s.1.length + 1)).channelNumber =
          turnChannelBindChannelNumberBase + 1 + s.1.length := by
        show ((s.1.length + 1) % 2 ^ 16 + turnChannelBindChannelNumberBase) % 2 ^ 16 = _
        unfold defaultTurnMaxPeerCount at hroom
        unfold turnChannelBindChannelNumberBase
        omega
      rw [hchannel]
  · exact h.congr hkeys

theorem PeersDistinct.nodup_channelNumbers {peers : List TurnPeer} (h : PeersDistinct peers) :
    (peers.map TurnPeer.channelNumber).Nodup := by
  rw [h.channelNumbers]
  exact List.Nodup.map (add_right_injective _) List.nodup_range

theorem PeersDistinct.channelNumber_mem {peers : List TurnPeer} (h : PeersDistinct peers)
    {peer : TurnPeer} (hpeer : peer ∈ peers) :
    turnChannelBindChannelNumberBase + 1 ≤ peer.channelNumber ∧
      peer.channelNumber ≤ turnChannelBindChannelNumberBase + defaultTurnMaxPeerCount := by
  have hmem := List.mem_map_of_mem (f := TurnPeer.channelNumber) hpeer
  rw [h.channelNumbers, List.mem_map] at hmem
  obtain ⟨i, hi, heq⟩ := hmem
  have hlt := List.mem_range.mp hi
  have hle := h.length_le
  omega

/-! ### Transactions -/

variable {log : List Transaction} {channelNumber : Nat} {old peer : TurnPeer}

/-- A permission has been created in answer to a request for the peer with a channel number. -/
def Permitted (log : List Transaction) (channelNumber : Nat) : Prop :=
  ∃ before after transactionId,
    log = before ++ .success typeCreatePermissionSuccessResponse transactionId :: after ∧
      .request channelNumber transactionId ∈ before

/-- After this, the channel has been bound in answer to a request. -/
def Bound (log : List Transaction) (channelNumber : Nat) : Prop :=
  ∃ before after transactionId,
    log = before ++ .success typeChannelBindSuccessResponse transactionId :: after ∧
      .request channelNumber transactionId ∈ before ∧ Permitted before channelNumber

theorem Permitted.append (h : Permitted log channelNumber) (entries : List Transaction) :
    Permitted (log ++ entries) channelNumber := by
  obtain ⟨before, after, transactionId, rfl, hmem⟩ := h
  exact ⟨before, after ++ entries, transactionId, by simp, hmem⟩

theorem Bound.append (h : Bound log channelNumber) (entries : List Transaction) :
    Bound (log ++ entries) channelNumber := by
  obtain ⟨before, after, transactionId, rfl, hmem, hpermitted⟩ := h
  exact ⟨before, after ++ entries, transactionId, by simp, hmem, hpermitted⟩

/-- The ids in the store of a peer are zeroes or have been generated for it. -/
def IdsOk (s : List TurnPeer × List Transaction) : Prop :=
  ∀ peer ∈ s.1, ∀ transactionId, peer.hasId transactionId →
    transactionId = zeroTransactionId ∨ .request peer.channelNumber transactionId ∈ s.2

/-- **The stores**: every move keeps to ids that have been generated for the peer. -/
theorem IdsOk.move (h : IdsOk s) (hmove : PeerMove ok s t) : IdsOk t := by
  intro peer hpeer transactionId hid
  cases hmove with
  | add address =>
    rcases List.mem_append.mp hpeer with hpeer | hnew
    · exact h peer hpeer transactionId hid
    · rw [List.mem_singleton.mp hnew] at hid
      exact .inl ((TransactionIdStore.hasId_create transactionId).mp hid)
  | @request peers log i old other hold =>
    -- the ids of the other peers have been logged before
    have hgo : ∀ peer ∈ peers, peer.hasId transactionId → transactionId = zeroTransactionId ∨
        .request peer.channelNumber transactionId ∈
          log ++ [Transaction.request old.channelNumber other] :=
      fun peer hpeer hid => (h peer hpeer transactionId hid).imp_right (List.mem_append_left _)
    rcases List.mem_or_eq_of_mem_set hpeer with hpeer | rfl
    · exact hgo peer hpeer hid
    · rcases old.transactionIdStore.hasId_insert hid with rfl | hid
      · exact .inr (List.mem_append_right _ (List.mem_singleton_self _))
      · exact hgo old (List.mem_of_getElem? hold) hid
  | permission currentTime other =>
    obtain ⟨old, hold, rfl⟩ := List.mem_map.mp hpeer
    have hkept : (if old.hasId other then old.permitted currentTime else old).transactionIdStore =
          old.transactionIdStore ∧
        (if old.hasId other then old.permitted currentTime else old).channelNumber =
          old.channelNumber := by
      split_ifs <;> exact ⟨rfl, rfl⟩
    change TransactionIdStore.hasId _ transactionId at hid
    rw [hkept.1] at hid
    rw [hkept.2]
    exact (h old hold transactionId hid).imp_right (List.mem_append_left _)
  | bind other =>
    rcases mem_modifyFirst hpeer with hold | ⟨old, hold, rfl⟩
    · exact (h peer hold transactionId hid).imp_right (List.mem_append_left _)
    · have hmem := (List.mem_filter.mp (List.mem_of_mem_head? hold)).1
      exact (h old hmem transactionId hid).imp_right (List.mem_append_left _)
  | refuse other =>
    rcases mem_modifyFirst hpeer with hold | ⟨old, hold, rfl⟩
    · exact h peer hold transactionId hid
    · exact h old (List.mem_filter.mp (List.mem_of_mem_head? hold)).1 transactionId hid
  | reset =>
    obtain ⟨old, hold, rfl⟩ := List.mem_map.mp hpeer
    exact h old hold transactionId hid
  | clear =>
    obtain ⟨old, hold, rfl⟩ := List.mem_map.mp hpeer
    exact h old hold transactionId ((TransactionIdStore.hasId_clear _ transactionId).mp hid)

/-- The peers that a response advances have generated its id, if it is the one of an unused slot. -/
def Solicited (log : List Transaction) (advanced : List TurnPeer) (transactionId : List UInt8) :
    Prop :=
  transactionId = zeroTransactionId →
    ∀ peer ∈ advanced, .request peer.channelNumber transactionId ∈ log

/-- What has been answered for a peer. -/
structure Answered (log : List Transaction) (peer : TurnPeer) : Prop where
  permitted : peer.connectionState = .bindChannel ∨ peer.connectionState = .ready →
    Permitted log peer.channelNumber
  bound : peer.connectionState = .ready ∨ peer.ready → Bound log peer.channelNumber

theorem Answered.keep (h : Answered log old) (entries : List Transaction)
    (hchannel : peer.channelNumber = old.channelNumber) (hready : peer.ready = old.ready)
    (hstate : peer.connectionState = old.connectionState ∨
      peer.connectionState = .createPermission ∨
      peer.connectionState = .failed) : Answered (log ++ entries) peer := by
  constructor
  · intro hor
    rw [hchannel]
    rcases hstate with hstate | hstate | hstate
    · rw [hstate] at hor
      exact (h.permitted hor).append entries
    · rw [hstate] at hor
      exact hor.elim (nofun) (nofun)
    · rw [hstate] at hor
      exact hor.elim (nofun) (nofun)
  · intro hor
    rw [hchannel]
    apply (h.bound _).append entries
    rw [hready] at hor
    rcases hstate with hstate | hstate | hstate
    · rw [hstate] at hor
      exact hor
    · rw [hstate] at hor
      exact .inr (hor.resolve_left nofun)
    · rw [hstate] at hor
      exact .inr (hor.resolve_left nofun)

/-- **Readiness**: a move that takes no response to an unused slot keeps what has been answered. -/
theorem Answered.move (hids : IdsOk s) (h : ∀ peer ∈ s.1, Answered s.2 peer)
    (hmove : PeerMove Solicited s t) : ∀ peer ∈ t.1, Answered t.2 peer := by
  intro peer hpeer
  cases hmove with
  | add address =>
    rcases List.mem_append.mp hpeer with hpeer | hnew
    · exact h peer hpeer
    · rw [List.mem_singleton.mp hnew]
      exact ⟨fun hor => hor.elim (nofun) (nofun),
        fun hor => hor.elim (nofun) (nofun)⟩
  | request i old transactionId hold =>
    rcases List.mem_or_eq_of_mem_set hpeer with hpeer | rfl
    · exact (h peer hpeer).keep _ rfl rfl (.inl rfl)
    · exact (h old (List.mem_of_getElem? hold)).keep _ rfl rfl (.inl rfl)
  | @permission peers log currentTime transactionId hok =>
    obtain ⟨old, hold, rfl⟩ := List.mem_map.mp hpeer
    split_ifs with hid
    · by_cases hstate : old.connectionState = .createPermission
      · -- the response is for an id of this peer
        have hrequest : Transaction.request old.channelNumber transactionId ∈ log := by
          rcases hids old hold transactionId hid with hzero | hmem
          · exact hok hzero old (List.mem_filter.mpr ⟨hold, by simp [hstate, hid]⟩)
          · exact hmem
        have hnext : (old.permitted currentTime).connectionState = .bindChannel := if_pos hstate
        constructor
        · exact fun _ => ⟨log, [], transactionId, rfl, hrequest⟩
        · intro hor
          rw [hnext] at hor
          exact ((h old hold).bound (.inr (hor.resolve_left nofun))).append _
      · -- in any other state the response changes the expiration only
        exact (h old hold).keep _ rfl rfl (.inl (if_neg hstate))
    · exact (h old hold).keep _ rfl rfl (.inl rfl)
  | @bind peers log transactionId hok =>
    rcases mem_modifyFirst hpeer with hold | ⟨old, hold, rfl⟩
    · exact (h peer hold).keep _ rfl rfl (.inl rfl)
    · obtain ⟨hmem, hawaits⟩ := List.mem_filter.mp (List.mem_of_mem_head? hold)
      obtain ⟨hstate, hid⟩ := Bool.and_eq_true_iff.mp hawaits
      have hrequest : Transaction.request old.channelNumber transactionId ∈ log := by
        rcases hids old hmem transactionId hid with hzero | hmem
        · apply hok hzero old
          apply List.mem_of_mem_head?
          rw [List.head?_take, if_neg (by decide)]
          exact hold
        · exact hmem
      -- a channel is bound after the permission
      have hpermitted := (h old hmem).permitted (.inl (beq_iff_eq.mp hstate))
      exact ⟨fun _ => hpermitted.append _, fun _ => ⟨log, [], transactionId, rfl, hrequest,
        hpermitted⟩⟩
  | @refuse peers log transactionId =>
    show Answered log peer
    rw [← List.append_nil log]
    rcases mem_modifyFirst hpeer with hold | ⟨old, hold, rfl⟩
    · exact (h peer hold).keep _ rfl rfl (.inl rfl)
    · have hmem := (List.mem_filter.mp (List.mem_of_mem_head? hold)).1
      exact (h old hmem).keep _ rfl rfl (.inr (.inr rfl))
  | @reset peers log =>
    show Answered log peer
    rw [← List.append_nil log]
    obtain ⟨old, hold, rfl⟩ := List.mem_map.mp hpeer
    exact (h old hold).keep _ rfl rfl (.inr (.inl rfl))
  | @clear peers log =>
    show Answered log peer
    rw [← List.append_nil log]
    obtain ⟨old, hold, rfl⟩ := List.mem_map.mp hpeer
    exact (h old hold).keep _ rfl rfl (.inl rfl)

/-! ### Events -/

namespace TurnConnection

def ledger (connection : TurnConnection) : List TurnPeer × List Transaction :=
  (connection.turnPeerList, connection.transactions)

def Moves (ok : List Transaction → List TurnPeer → List UInt8 → Prop) (a b : TurnConnection) :
    Prop :=
  ReflTransGen (PeerMove ok) a.ledger b.ledger

def advanced (connection : TurnConnection) (buffer : List UInt8) : List TurnPeer :=
  if isStunPacket buffer = false then []
  else if stunPacketTypeOf buffer = typeCreatePermissionSuccessResponse then
    awaiting connection.turnPeerList .createPermission (transactionIdOf buffer)
  else if stunPacketTypeOf buffer = typeChannelBindSuccessResponse then
    (awaiting connection.turnPeerList .bindChannel (transactionIdOf buffer)).take 1
  else []

def Meets (ok : List Transaction → List TurnPeer → List UInt8 → Prop)
    (connection : TurnConnection) :
    TurnMessage → Prop
  | .stun _ buffer => ok connection.transactions (connection.advanced buffer)
      (transactionIdOf buffer)
  | _ => True

variable (hmac : List UInt8 → List UInt8 → Digest) (crc32 : List UInt8 → UInt32)

/-- The condition on an event: in a round, on the messages that come while the connection is not
locked. -/
def EventMeets (ok : List Transaction → List TurnPeer → List UInt8 → Prop)
    (connection : TurnConnection) : TurnEvent → Prop
  | .message message => connection.Meets ok message
  | .timer input =>
    (connection.firstStep input).1 ≠ .success → (connection.firstStep input).2.state ≠ .failed →
      AllSteps (receive hmac crc32) (Meets ok)
        ((connection.firstStep input).2.turnConnectionFatalError (connection.firstStep input).1)
        input.window

variable {hmac crc32} {a b c : TurnConnection} {connection : TurnConnection}

theorem Moves.refl (connection : TurnConnection) : Moves ok connection connection :=
  ReflTransGen.refl

theorem Moves.trans (hab : Moves ok a b) (hbc : Moves ok b c) : Moves ok a c :=
  ReflTransGen.trans hab hbc

/-- What survives every move survives all of them. -/
theorem Moves.induction {P : List TurnPeer × List Transaction → Prop}
    (hmove : ∀ s t, P s → PeerMove ok s t → P t) (h : Moves ok a b) (ha : P a.ledger) :
    P b.ledger := by
  unfold Moves at h
  generalize b.ledger = t at h
  induction h with
  | refl => exact ha
  | tail _ hlast ih => exact hmove _ _ ih hlast

theorem moves_of_ledger_eq (h : b.ledger = a.ledger) : Moves ok a b := by
  unfold Moves
  rw [h]

theorem ledger_handleAllocateSuccess (connection : TurnConnection) (currentTime : Nat)
    (buffer : List UInt8) :
    (connection.handleAllocateSuccess hmac crc32 currentTime buffer).2.ledger =
      connection.ledger := by
  unfold handleAllocateSuccess
  split_ifs
  · rfl
  · split
    · rfl
    · split <;> rfl

theorem ledger_handleRefreshSuccess (connection : TurnConnection) (currentTime : Nat)
    (buffer : List UInt8) :
    (connection.handleRefreshSuccess hmac crc32 currentTime buffer).2.ledger =
      connection.ledger := by
  unfold handleRefreshSuccess
  split
  · rfl
  · split <;> rfl

/-- An error response refuses a peer, or leaves the peers alone. -/
theorem moves_handleErrorCode (connection : TurnConnection) (packet : Stun.StunPacket) (code : Nat)
    (transactionId : List UInt8) :
    Moves ok connection (connection.handleErrorCode packet code transactionId) := by
  unfold handleErrorCode
  split_ifs
  · split
    · exact Moves.refl connection
    · split <;> exact moves_of_ledger_eq rfl
  · split <;> exact moves_of_ledger_eq rfl
  · exact ReflTransGen.single (PeerMove.refuse transactionId)

/-- **A message** moves the peers. -/
theorem moves_receive {message : TurnMessage} (h : connection.Meets ok message) :
    Moves ok connection (connection.receive hmac crc32 message) := by
  cases message with
  | addPeer peerAddress allocated =>
    show Moves ok connection (connection.turnConnectionAddPeer peerAddress allocated).2
    unfold turnConnectionAddPeer
    split_ifs with hfamily hfound hroom hallocated
    · exact Moves.refl connection
    · exact Moves.refl connection
    · refine ReflTransGen.single (PeerMove.add peerAddress ?_ hroom)
      intro peer hpeer
      have hnone : connection.turnPeerList.filter
          (fun peer => Ice.sameIpAddress peer.address peerAddress true) = [] := by
        rw [← List.getLast?_eq_none_iff, ← Option.not_isSome_iff_eq_none]
        exact hfound
      exact Bool.eq_false_iff.mpr (List.filter_eq_nil_iff.mp hnone peer hpeer)
    · -- without memory for the ids, the peer is taken from the list again
      apply moves_of_ledger_eq
      show (List.dropLast (_ ++ [_]), _) = _
      rw [List.dropLast_concat]
      rfl
    · exact Moves.refl connection
  | stun currentTime buffer =>
    change ok connection.transactions (connection.advanced buffer) _ at h
    show Moves ok connection (connection.turnConnectionHandleStun hmac crc32 currentTime buffer).2
    unfold advanced at h
    unfold turnConnectionHandleStun
    split_ifs with hempty hstun _ _ hpermission hbind
    · exact Moves.refl connection
    · exact Moves.refl connection
    · exact moves_of_ledger_eq (ledger_handleAllocateSuccess connection currentTime buffer)
    · exact moves_of_ledger_eq (ledger_handleRefreshSuccess connection currentTime buffer)
    · rw [if_neg (fun hno => hstun (.inl hno)), if_pos hpermission] at h
      exact ReflTransGen.single (PeerMove.permission currentTime _ h)
    · rw [if_neg (fun hno => hstun (.inl hno)), if_neg hpermission, if_pos hbind] at h
      exact ReflTransGen.single (PeerMove.bind _ h)
    · exact Moves.refl connection
  | stunError buffer =>
    show Moves ok connection (connection.turnConnectionHandleStunError hmac crc32 buffer).2
    unfold turnConnectionHandleStunError
    split_ifs
    · exact Moves.refl connection
    · exact Moves.refl connection
    · exact moves_of_ledger_eq rfl
    · split
      · exact Moves.refl connection
      · split
        · exact Moves.refl connection
        · exact moves_handleErrorCode connection _ _ _
  | shutdown => exact moves_of_ledger_eq rfl
  | fatalError errorStatus => exact moves_of_ledger_eq rfl

theorem moves_window {messages : List TurnMessage}
    (h : AllSteps (receive hmac crc32) (Meets ok) connection messages) :
    Moves ok connection (messages.foldl (receive hmac crc32) connection) := by
  induction messages generalizing connection with
  | nil => exact Moves.refl connection
  | cons message messages ih => exact (moves_receive h.1).trans (ih h.2)

theorem moves_checkTurnPeerConnections (connection : TurnConnection) (input : StepInput) :
    Moves ok connection (connection.checkTurnPeerConnections input).2 :=
  checkTurnPeerConnections_induction (P := Moves ok connection) connection input
    (fun _ i peer transactionId hc hpeer => hc.tail (PeerMove.request i peer transactionId hpeer))
    (fun _ _ hc => hc.trans (moves_of_ledger_eq rfl)) (Moves.refl connection)

theorem moves_executeCreatePermission (connection : TurnConnection) (input : StepInput) :
    Moves ok connection (connection.executeCreatePermission input).2 := by
  have hcheck : ∀ c : TurnConnection, c.ledger = connection.ledger →
      Moves ok connection
        (chkStatus (c.checkTurnPeerConnections input) fun connection =>
          (.success,
            if connection.turnPeerList.length = 0 then
              { connection with
                stateTimeoutTime := input.executeTime + defaultTurnCreatePermissionTimeout }
            else connection)).2 := by
    intro c hc
    have hmoves : Moves ok connection (c.checkTurnPeerConnections input).2 :=
      (moves_of_ledger_eq hc).trans (moves_checkTurnPeerConnections c input)
    apply chkStatus_cases (P := fun result => Moves ok connection result.2)
    · exact fun _ => hmoves
    · split_ifs
      · exact hmoves.trans (moves_of_ledger_eq rfl)
      · exact hmoves
  unfold executeCreatePermission
  split_ifs
  · unfold preparePackets
    simp only [chkStatus_assoc]
    apply chkStatus_cases (P := fun result => Moves ok connection result.2)
    · exact fun _ => moves_of_ledger_eq rfl
    · apply chkStatus_cases (P := fun result => Moves ok connection result.2)
      · exact fun _ => moves_of_ledger_eq rfl
      · apply chkStatus_cases (P := fun result => Moves ok connection result.2)
        · exact fun _ => moves_of_ledger_eq rfl
        · exact hcheck _ rfl
  · exact hcheck connection rfl

/-- **Executing a state** moves the peers. -/
theorem moves_execute (connection : TurnConnection) (input : StepInput) (next : TurnState) :
    Moves ok connection (connection.execute input next).2 := by
  -- what is sent does not concern the peers
  have hsent : ∀ (status : Status) (c : TurnConnection) (f : TurnConnection →
      Status × TurnConnection), c.ledger = connection.ledger → (f c).2.ledger = connection.ledger →
        Moves ok connection (chkStatus (status, c) f).2 := by
    intro status c f hc hf
    apply chkStatus_cases (P := fun result => Moves ok connection result.2)
    · exact fun _ => moves_of_ledger_eq hc
    · exact moves_of_ledger_eq hf
  cases next with
  | new => exact moves_of_ledger_eq rfl
  | checkSocketConnection =>
    show Moves ok connection (connection.executeCheckSocketConnection input).2
    unfold executeCheckSocketConnection
    split_ifs
    · exact hsent _ _ _ rfl rfl
    · exact Moves.refl connection
  | getCredentials =>
    show Moves ok connection (connection.executeGetCredentials input).2
    unfold executeGetCredentials
    split_ifs
    · exact hsent _ _ _ rfl rfl
    · exact Moves.refl connection
    · exact Moves.refl connection
  | allocation =>
    show Moves ok connection (connection.executeAllocation input).2
    unfold executeAllocation
    split_ifs
    · split
      · exact moves_of_ledger_eq rfl
      · exact hsent _ _ _ rfl rfl
    · exact Moves.refl connection
    · exact Moves.refl connection
  | createPermission => exact moves_executeCreatePermission connection input
  | bindChannel => exact moves_checkTurnPeerConnections { connection with
      state := .bindChannel } input
  | ready => exact moves_checkTurnPeerConnections { connection with state := .ready } input
  | cleanUp =>
    show Moves ok connection (connection.executeCleanUp input).2
    unfold executeCleanUp
    split_ifs
    · exact hsent _ _ _ rfl rfl
    · exact moves_of_ledger_eq rfl
  | failed => exact moves_of_ledger_eq rfl

/-- **The next state**: to be ready again, the peers are reset, and in the end their stores are
cleared. -/
theorem moves_fromState (connection : TurnConnection) (input : StepInput) :
    Moves ok connection (connection.fromState input).2 :=
  fromState_induction (P := Moves ok connection) connection input
    (fun _ _ h => h.trans (moves_of_ledger_eq rfl)) (fun _ _ h => h.trans (moves_of_ledger_eq rfl))
    (fun _ h => h.tail PeerMove.reset) (fun _ _ _ h => h.tail PeerMove.clear)
    (Moves.refl connection)

theorem moves_stepStateMachine (connection : TurnConnection) (input : StepInput) :
    Moves ok connection (connection.stepStateMachine input).2 := by
  have hfrom : Moves ok connection (connection.fromState input).2 :=
    moves_fromState connection input
  unfold stepStateMachine
  cases hresult : connection.fromState input with
  | mk next stepped =>
    rw [hresult] at hfrom
    cases next with
    | error e => exact hfrom
    | ok next =>
      dsimp only
      split_ifs
      · exact Moves.trans hfrom (moves_execute { stepped with currentState := next } input next)
      · exact hfrom

/-- **An event** moves the peers. -/
theorem moves_step {event : TurnEvent} (h : connection.EventMeets hmac crc32 ok event) :
    Moves ok connection (connection.step hmac crc32 event) := by
  cases event with
  | message message => exact moves_receive h
  | timer input =>
    have hfirst : Moves ok connection (connection.firstStep input).2 :=
      (moves_stepStateMachine connection input.first).trans (moves_of_ledger_eq rfl)
    show Moves ok connection (connection.stepTurnConnectionStateMachine hmac crc32 input).2
    unfold stepTurnConnectionStateMachine
    cases hforced : connection.forced hmac crc32 input with
    | none => exact hfirst
    | some stopped =>
      refine Moves.trans ?_ (moves_stepStateMachine stopped input.second)
      unfold forced at hforced
      dsimp only at hforced
      split_ifs at hforced with hstop hfailed
      · obtain rfl := Option.some.inj hforced
        exact hfirst.trans (moves_of_ledger_eq rfl)
      · obtain rfl := Option.some.inj hforced
        refine (hfirst.trans (moves_of_ledger_eq rfl)).trans (moves_window (h hfailed.1 hfailed.2))

/-! ### Runs -/

/-- What holds of the peers in any run. -/
structure PeersOk (connection : TurnConnection) : Prop where
  length_le : connection.turnPeerList.length ≤ defaultTurnMaxPeerCount
  addresses : connection.turnPeerList.Pairwise fun a b =>
    Ice.sameIpAddress a.address b.address true = false
  channelNumbers : (connection.turnPeerList.map TurnPeer.channelNumber).Nodup
  channelNumber_mem : ∀ peer ∈ connection.turnPeerList,
    turnChannelBindChannelNumberBase + 1 ≤ peer.channelNumber ∧
      peer.channelNumber ≤ turnChannelBindChannelNumberBase + defaultTurnMaxPeerCount
  failed_add : ∀ peerAddress allocated,
    (connection.turnConnectionAddPeer peerAddress allocated).1.failed →
      (connection.turnConnectionAddPeer peerAddress allocated).2 = connection

def PeersReady (connection : TurnConnection) : Prop :=
  ∀ peer ∈ connection.turnPeerList, peer.connectionState = .ready ∨ peer.ready →
    Bound connection.transactions peer.channelNumber

theorem turnConnectionAddPeer_of_failed {peerAddress : KvsIpAddress} {allocated : Bool}
    (h : (connection.turnConnectionAddPeer peerAddress allocated).1.failed) :
    (connection.turnConnectionAddPeer peerAddress allocated).2 = connection := by
  unfold turnConnectionAddPeer at h ⊢
  split_ifs at h ⊢
  · rfl
  · rfl
  · cases h
  · show { connection with turnPeerList := List.dropLast (_ ++ [_]) } = connection
    rw [List.dropLast_concat]
  · rfl

def Reached (ok : List Transaction → List TurnPeer → List UInt8 → Prop)
    (connection : TurnConnection) : Prop :=
  Moves ok createTurnConnection connection

theorem Reached.along {events : List TurnEvent}
    (h : AllSteps (step hmac crc32) (EventMeets hmac crc32 ok) createTurnConnection events) :
    Along (step hmac crc32) (Reached ok) createTurnConnection events :=
  h.along (fun _ _ hreached hevent => Moves.trans hreached (moves_step hevent)) (Moves.refl _)

theorem Reached.peersOk (h : connection.Reached ok) : connection.PeersOk := by
  have hdistinct : PeersDistinct connection.ledger.1 :=
    Moves.induction (P := fun s => PeersDistinct s.1) (fun _ _ hs hmove => hs.move hmove) h
      ⟨Nat.zero_le _, List.Pairwise.nil, rfl⟩
  exact ⟨hdistinct.length_le, hdistinct.addresses, hdistinct.nodup_channelNumbers,
    fun _ hpeer => hdistinct.channelNumber_mem hpeer, fun _ _ => turnConnectionAddPeer_of_failed⟩

theorem Reached.peersReady (h : connection.Reached Solicited) : connection.PeersReady := by
  have hanswered := Moves.induction
    (P := fun s => IdsOk s ∧ ∀ peer ∈ s.1, Answered s.2 peer)
    (fun _ _ hs hmove => ⟨hs.1.move hmove, Answered.move hs.1 hs.2 hmove⟩) h
    ⟨fun _ hpeer => absurd hpeer List.not_mem_nil, fun _ hpeer => absurd hpeer List.not_mem_nil⟩
  exact fun peer hpeer hready => (hanswered.2 peer hpeer).bound hready

/-! ### A sample run -/

instance (log : List Transaction) (advanced : List TurnPeer) (transactionId : List UInt8) :
    Decidable (Solicited log advanced transactionId) :=
  inferInstanceAs (Decidable (_ → ∀ peer ∈ advanced, _ ∈ log))

instance (connection : TurnConnection) : ∀ message, Decidable (connection.Meets Solicited message)
  | .stun _ buffer =>
    inferInstanceAs (Decidable (Solicited connection.transactions (connection.advanced buffer) _))
  | .addPeer .. => .isTrue trivial
  | .stunError _ => .isTrue trivial
  | .shutdown => .isTrue trivial
  | .fatalError _ => .isTrue trivial

instance (connection : TurnConnection) :
    ∀ event, Decidable (connection.EventMeets hmac crc32 Solicited event)
  | .message message => inferInstanceAs (Decidable (connection.Meets Solicited message))
  | .timer input =>
    inferInstanceAs (Decidable (_ → _ → AllSteps (receive hmac crc32) (Meets Solicited)
      ((connection.firstStep input).2.turnConnectionFatalError _) input.window))

end TurnConnection

def serverPacket (type transactionId attributes : List UInt8) : List UInt8 :=
  type ++ [0, attributes.length.toUInt8] ++ [0x21, 0x12, 0xA4, 0x42] ++ transactionId ++ attributes

def unauthorizedPacket : List UInt8 :=
  serverPacket [0x01, 0x13] zeroTransactionId
    [0, 0x09, 0, 4, 0, 0, 4, 1, 0, 0x15, 0, 4, 1, 2, 3, 4, 0, 0x14, 0, 4, 114, 101, 97, 108]

def allocatePacket : List UInt8 :=
  serverPacket [0x01, 0x03] zeroTransactionId
    [0, 0x16, 0, 8, 0, 1, 0x31, 0x12, 0xE1, 0x12, 0xA6, 0x43, 0, 0x0D, 0, 4, 0, 0, 2, 88]

/-- A step at a time in which everything succeeds, with transaction ids that start with `n`. -/
def sampleInput (time : Nat) (n : UInt8) : StepInput where
  currentTime := time
  executeTime := time
  refreshTime := time
  socketConnectionIsConnected := true
  socketConnectionIsClosed := false
  initSecureConnection := .success
  longTermKey := some [1]
  allocationRequest := .success
  createPermissionPacket := .ok
  channelBindPacket := .ok
  allocationRefreshPacket := .ok
  sent := .success
  refreshSent := .success
  timerUpdated := .success
  transactionId := fun i => List.replicate 11 n ++ [i.toUInt8]

def sampleRound (time : Nat) (n : UInt8) : TurnEvent :=
  .timer ⟨sampleInput time n, false, time, [], sampleInput time n⟩

def samplePeerAddress : KvsIpAddress := ⟨familyIpv4, [0x13, 0x88], [192, 0, 2, 1]⟩

def allocatedRun : List TurnEvent :=
  [.message (.addPeer samplePeerAddress true), sampleRound 0 1, sampleRound 0 2,
    .message (.stunError unauthorizedPacket), sampleRound 0 3, .message (.stun 0 allocatePacket),
    sampleRound 0 4]

def readyRun : List TurnEvent :=
  allocatedRun ++
    [.message (.stun 0 (serverPacket [0x01, 0x08] (List.replicate 11 4 ++ [0]) [])),
    sampleRound 0 5, .message (.stun 0 (serverPacket [0x01, 0x09] (List.replicate 11 5 ++ [0]) []))]

theorem length_zeroDigest :
    (List.replicate stunHmacValueLen (0 : UInt8)).length = stunHmacValueLen :=
  List.length_replicate

def zeroHmac (_ _ : List UInt8) : Digest := ⟨List.replicate stunHmacValueLen 0, length_zeroDigest⟩

def zeroCrc32 (_ : List UInt8) : UInt32 := 0

open TurnConnection

/-- **The peers of a TURN connection** along any run: they are not too many, have different
addresses and different channel numbers of their range, and a failed call leaves them as they were.
If no success response is taken to a slot that is not used, every peer that is ready has got a
permission and then a bound channel, each in answer to its own request. -/
theorem turnPeers_along (hmac : List UInt8 → List UInt8 → Digest) (crc32 : List UInt8 → UInt32)
    (events : List TurnEvent) :
    Along (step hmac crc32) PeersOk createTurnConnection events ∧
    (AllSteps (step hmac crc32) (EventMeets hmac crc32 Solicited) createTurnConnection events →
      Along (step hmac crc32) PeersReady createTurnConnection events) := by
  constructor
  · have hall : AllSteps (step hmac crc32) (EventMeets hmac crc32 fun _ _ _ =>
        True) createTurnConnection
        events := by
      apply allSteps_of_forall
      intro connection event
      have hmeets : ∀ (c : TurnConnection) (message : TurnMessage),
            c.Meets (fun _ _ _ => True) message := by
        intro c message
        cases message <;> trivial
      cases event with
      | message message => exact hmeets connection message
      | timer input => exact fun _ _ => allSteps_of_forall hmeets _ _
    exact (Reached.along hall).mono fun _ h => h.peersOk
  · exact fun h => (Reached.along h).mono fun _ h => h.peersReady

theorem turnPeers_along_readyRun :
    (createTurnConnection.run zeroHmac zeroCrc32 readyRun).turnPeerList.map
        TurnPeer.ready = [true] ∧
      Along (step zeroHmac zeroCrc32) PeersReady createTurnConnection readyRun :=
  ⟨by decide +kernel, (turnPeers_along zeroHmac zeroCrc32 readyRun).2 (by decide +kernel)⟩

/-- Two responses with an id of zeroes, though nothing has been asked for. -/
def unaskedRun : List TurnEvent :=
  [.message (.addPeer samplePeerAddress true),
    .message (.stun 0 (serverPacket [0x01, 0x08] zeroTransactionId [])),
    .message (.stun 0 (serverPacket [0x01, 0x09] zeroTransactionId []))]

theorem ready_without_request :
    ¬ ∀ (hmac : List UInt8 → List UInt8 → Digest) (crc32 : List UInt8 → UInt32) (events :
      List TurnEvent),
      Along (step hmac crc32) PeersReady createTurnConnection events := by
  intro h
  have hlast := (h zeroHmac zeroCrc32 unaskedRun).last
  have hready : ∃ peer ∈ (createTurnConnection.run zeroHmac zeroCrc32 unaskedRun).turnPeerList,
      peer.connectionState = .ready := by decide +kernel
  obtain ⟨peer, hpeer, hstate⟩ := hready
  obtain ⟨before, after, transactionId, hlog, hrequest, -⟩ := hlast peer hpeer (.inl hstate)
  change (createTurnConnection.run zeroHmac zeroCrc32 unaskedRun).transactions = _ at hlog
  -- there are only the two responses
  have hlist : (createTurnConnection.run zeroHmac zeroCrc32 unaskedRun).transactions =
      [.success 0x0108 zeroTransactionId, .success 0x0109 zeroTransactionId] := by decide +kernel
  have hmem := List.mem_append_left (.success typeChannelBindSuccessResponse transactionId :: after)
    hrequest
  rw [← hlog, hlist] at hmem
  simp at hmem

end KvsWebrtc.Turn
