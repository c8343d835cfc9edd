import KvsWebrtc.Common.Mutual
import KvsWebrtc.Relay.Session
import Mathlib.Tactic.SplitIfs

/-!
# When the relay's references are safe

The server refers to sessions in the slots of the channels and in the `peer` fields of sessions.
`Safe` says that none of these references dangles and that the peer relation is symmetric.
Registering a session in a channel keeps `Safe` exactly if neither the session nor the occupant of
the other slot has a third session for a peer (`channelRegister_safe_iff`), and destroying a session
keeps it exactly if no slot but those that `channel_unregister` empties refers to it
(`unregistered_safe_iff`, `sessionDestroy_safe_iff`).
-/

namespace KvsWebrtc.Relay

namespace Channel

/-- A slot of the channel refers to session `i`. -/
def Holds (c : Channel) (i : Nat) : Prop := c.master = some i ∨ c.viewer = some i

/-- The slot that a session of the given role looks for its peer in. -/
def opposite (c : Channel) (role : List UInt8) : Option Nat :=
  if role = roleMaster then c.viewer else c.master

theorem Holds.enter {c : Channel} {role : List UInt8} {s i : Nat} (h : (c.enter role s).Holds i) :
    i = s ∨ c.Holds i := by
  unfold Channel.enter at h
  split_ifs at h
  · obtain h | h := h
    · exact Or.inl (Option.some.inj h).symm
    · exact Or.inr (Or.inr h)
  · obtain h | h := h
    · exact Or.inr (Or.inl h)
    · exact Or.inl (Option.some.inj h).symm

/-- A slot that is emptied of `s` refers to what it referred to, unless that was `s`. -/
theorem emptied_eq_some_iff {o : Option Nat} {s i : Nat} :
    (if o = some s then none else o) = some i ↔ o = some i ∧ i ≠ s := by
  split_ifs with h
  · constructor
    · intro hi
      cases hi
    · rintro ⟨hi, hne⟩
      rw [h] at hi
      exact absurd (Option.some.inj hi).symm hne
  · constructor
    · intro hi
      refine ⟨hi, ?_⟩
      rintro rfl
      exact h hi
    · exact And.left

theorem holds_leave {c : Channel} {s i : Nat} : (c.leave s).Holds i ↔ c.Holds i ∧ i ≠ s := by
  show (if c.master = some s then none else c.master) = some i ∨
    (if c.viewer = some s then none else c.viewer) = some i ↔ _
  rw [emptied_eq_some_iff, emptied_eq_some_iff]
  exact or_and_right.symm

/-- The session is paired with the occupant of the other slot, even if that is the session
itself. -/
theorem registeredPeer_enter (c : Channel) (role : List UInt8) (s : Nat) :
    (c.enter role s).registeredPeer s = c.opposite role := by
  unfold registeredPeer Channel.enter opposite
  split_ifs
  · dsimp only
    cases c.viewer with
    | none => rfl
    | some v => exact if_pos rfl
  · dsimp only
    cases c.master with
    | none => rfl
    | some m =>
      dsimp only
      split_ifs with h
      · rw [h]
      · rfl

theorem holds_of_opposite {c : Channel} {role : List UInt8} {p : Nat}
    (h : c.opposite role = some p) : c.Holds p := by
  unfold opposite at h
  split_ifs at h
  · exact Or.inr h
  · exact Or.inl h

end Channel

namespace Server

variable {r : Server} {i j k p s : Nat} {a : Session} {c : Channel}

/-- Session `i` has not been destroyed. -/
def Live (r : Server) (i : Nat) : Prop := ∃ a, r.session i = some a

def peer (r : Server) (i : Nat) : Option Nat := (r.session i).bind Session.peer

/-- No reference dangles, and peers refer to each other. -/
structure Safe (r : Server) : Prop where
  slots : ∀ c ∈ r.channels, ∀ i, c.Holds i → r.Live i
  peers : ∀ i j, r.peer i = some j → r.Live j
  symmetric : ∀ i j, r.peer i = some j → r.peer j = some i

theorem live_of_peer (h : r.peer i = some j) : r.Live i := by
  obtain ⟨a, ha, -⟩ := Option.bind_eq_some_iff.mp h
  exact ⟨a, ha⟩

/-- That peers are not destroyed follows from their referring back. -/
theorem safe_iff :
    r.Safe ↔ (∀ c ∈ r.channels, ∀ i, c.Holds i → r.Live i) ∧ Mutual r.peer := by
  constructor
  · intro h
    exact ⟨h.slots, h.symmetric⟩
  · rintro ⟨hslots, hmutual⟩
    exact ⟨hslots, fun i j hij => live_of_peer (hmutual i j hij), hmutual⟩

theorem initial_safe : initial.Safe := by
  refine safe_iff.mpr ⟨fun c hc => ?_, mutual_none⟩
  cases hc

/-! ### Sessions after an update -/

theorem session_modifySession (f : Session → Session) (s i : Nat) :
    (r.modifySession s f).session i = if s = i then (r.session i).map f else r.session i := by
  unfold session modifySession
  rw [List.getElem?_modify]
  split_ifs with h
  · cases r.sessions[i]? with
    | none => rfl
    | some o => rfl
  · cases r.sessions[i]? with
    | none => rfl
    | some o => rfl

@[simp] theorem live_modifySession (f : Session → Session) (s i : Nat) :
    (r.modifySession s f).Live i ↔ r.Live i := by
  unfold Live
  rw [session_modifySession]
  split_ifs
  · cases r.session i with
    | none => exact Iff.rfl
    | some b => exact ⟨fun _ => ⟨b, rfl⟩, fun _ => ⟨f b, rfl⟩⟩
  · exact Iff.rfl

/-- A write leaves alone what it leaves alone in every session. -/
theorem bind_modifySession {g : Session → Option Nat} {f : Session → Session}
    (hf : ∀ a, g (f a) = g a) (s i : Nat) :
    ((r.modifySession s f).session i).bind g = (r.session i).bind g := by
  rw [session_modifySession]
  split_ifs
  · cases r.session i with
    | none => rfl
    | some b => exact hf b
  · rfl

theorem peer_modifySession {f : Session → Session} (hf : ∀ a, (f a).peer = a.peer) (s : Nat) :
    (r.modifySession s f).peer = r.peer := by
  funext i
  exact bind_modifySession hf s i

theorem peer_sessionSetPeer (hs : r.Live s) (q : Option Nat) :
    (r.sessionSetPeer s q).peer = Function.update r.peer s q := by
  obtain ⟨a, ha⟩ := hs
  funext i
  unfold peer sessionSetPeer
  rw [session_modifySession]
  split_ifs with h
  · subst i
    rw [Function.update_self, ha]
    rfl
  · rw [Function.update_of_ne (Ne.symm h)]

theorem session_sessionDestroy (s i : Nat) :
    (r.sessionDestroy s).session i = if s = i then none else r.session i := by
  unfold session sessionDestroy
  rw [List.getElem?_set]
  split_ifs with h
  · rfl
  · rfl
  · rfl

theorem live_sessionDestroy : (r.sessionDestroy s).Live i ↔ r.Live i ∧ i ≠ s := by
  unfold Live
  rw [session_sessionDestroy]
  split_ifs with h
  · refine ⟨fun ⟨a, ha⟩ => ?_, fun hne => absurd h.symm hne.2⟩
    cases ha
  · exact ⟨fun hi => ⟨hi, fun heq => h heq.symm⟩, And.left⟩

theorem peer_sessionDestroy (s : Nat) :
    (r.sessionDestroy s).peer = Function.update r.peer s none := by
  funext i
  unfold peer
  rw [session_sessionDestroy]
  split_ifs with h
  · subst i
    rw [Function.update_self]
    rfl
  · rw [Function.update_of_ne (Ne.symm h)]

/-- A new session is the only one whose number was not used. -/
theorem session_sessionCreate (i : Nat) :
    r.sessionCreate.session i = r.session i ∨
      r.session i = none ∧
        ∃ a, r.sessionCreate.session i = some a ∧ a.peer = none ∧ a.ch = none := by
  unfold session sessionCreate
  rw [List.getElem?_append]
  split_ifs with h
  · exact Or.inl rfl
  · have hnone : r.sessions[i]? = none := List.getElem?_eq_none (Nat.le_of_not_lt h)
    cases hd : i - r.sessions.length with
    | zero => exact Or.inr ⟨by rw [hnone]; rfl, _, rfl, rfl, rfl⟩
    | succ n =>
      left
      rw [hnone]
      rfl

theorem Safe.sessionCreate (h : r.Safe) : r.sessionCreate.Safe := by
  have hpeer : r.sessionCreate.peer = r.peer := by
    funext i
    unfold peer
    obtain heq | ⟨hnone, a, ha, hp, -⟩ := session_sessionCreate (r := r) i
    · rw [heq]
    · rw [hnone, ha]
      exact hp
  rw [safe_iff, hpeer]
  refine ⟨fun c hc i hi => ?_, h.symmetric⟩
  obtain ⟨a, ha⟩ := h.slots c hc i hi
  obtain heq | ⟨hnone, -⟩ := session_sessionCreate (r := r) i
  · exact ⟨a, heq.trans ha⟩
  · rw [hnone] at ha
    cases ha

/-! ### Channels -/

/-- Neither `s` nor `p` has a third session for a peer. -/
def PairOk (r : Server) (s p : Nat) : Prop := RefersWithin r.peer s p ∧ RefersWithin r.peer p s

/-- **Registering** a session keeps the references safe exactly if the session and its new peer, if
there is one, may be paired. -/
theorem channelRegister_safe_iff (h : r.Safe) (hc : r.channels[k]? = some c)
    (ha : r.session s = some a) :
    (r.channelRegister k s).Safe ↔ ∀ p, c.opposite a.role = some p → r.PairOk s p := by
  have hslots : ∀ c' ∈ r.channels.set k (c.enter a.role s), ∀ i, c'.Holds i → r.Live i := by
    intro c' hc' i hi
    obtain hmem | rfl := List.mem_or_eq_of_mem_set hc'
    · exact h.slots c' hmem i hi
    · obtain rfl | hi := hi.enter
      · exact ⟨a, ha⟩
      · exact h.slots c (List.mem_of_getElem? hc) i hi
  unfold channelRegister
  rw [hc, ha]
  dsimp only
  rw [Channel.registeredPeer_enter]
  cases hopp : c.opposite a.role with
  | none =>
    refine ⟨fun _ p hp => ?_, fun _ => safe_iff.mpr ⟨hslots, h.symmetric⟩⟩
    cases hp
  | some p =>
    have hp : r.Live p := h.slots c (List.mem_of_getElem? hc) p (Channel.holds_of_opposite hopp)
    dsimp only
    rw [safe_iff, peer_sessionSetPeer, peer_sessionSetPeer]
    · simp only [sessionSetPeer, live_modifySession]
      constructor
      · rintro ⟨-, hlink⟩ q hq
        obtain rfl := Option.some.inj hq
        exact (Mutual.link_iff h.symmetric).mp hlink
      · intro hok
        exact ⟨hslots, (Mutual.link_iff h.symmetric).mpr (hok p rfl)⟩
    · exact ⟨a, ha⟩
    · rw [sessionSetPeer, live_modifySession]
      exact hp

/-! ### Destroying a session -/

/-- A session without a channel of its own is destroyed: the references stay safe exactly if no slot
and no other session refers to it. -/
theorem sessionDestroy_safe_iff (h : r.Safe) :
    (r.sessionDestroy s).Safe ↔ (∀ c ∈ r.channels, ¬ c.Holds s) ∧ RefersWithin r.peer s s := by
  rw [safe_iff, peer_sessionDestroy, Mutual.update_none_iff h.symmetric]
  refine and_congr_left fun _ => ?_
  constructor
  · intro hslots c hc hs
    exact (live_sessionDestroy.mp (hslots c hc s hs)).2 rfl
  · intro hslots c hc i hi
    refine live_sessionDestroy.mpr ⟨h.slots c hc i hi, ?_⟩
    rintro rfl
    exact hslots c hc hi

theorem channelUnregister_channels (hc : r.channels[k]? = some c) (ha : r.session s = some a) :
    (r.channelUnregister k s).channels = r.channels.set k (c.leave s) := by
  unfold channelUnregister
  rw [hc, ha]
  dsimp only
  cases a.peer with
  | none => rfl
  | some p => rfl

theorem channelUnregister_live (hc : r.channels[k]? = some c) (ha : r.session s = some a) :
    (r.channelUnregister k s).Live i ↔ r.Live i := by
  unfold channelUnregister
  rw [hc, ha]
  dsimp only
  cases a.peer with
  | none => exact Iff.rfl
  | some p =>
    simp only [sessionSetPeer, live_modifySession]
    exact Iff.rfl

/-- After `channel_unregister` no session refers to `s`, and peers still refer to each other. -/
theorem channelUnregister_peer (h : r.Safe) (hc : r.channels[k]? = some c)
    (ha : r.session s = some a) :
    Mutual (r.channelUnregister k s).peer ∧ (r.channelUnregister k s).peer s = none := by
  have hs : r.peer s = a.peer := by
    unfold peer
    rw [ha]
    rfl
  unfold channelUnregister
  rw [hc, ha]
  dsimp only
  cases hp : a.peer with
  | none =>
    rw [hp] at hs
    exact ⟨h.symmetric, hs⟩
  | some p =>
    rw [hp] at hs
    dsimp only
    rw [peer_sessionSetPeer, peer_sessionSetPeer]
    · exact ⟨Mutual.unlink h.symmetric hs, Function.update_self ..⟩
    · exact h.peers s p hs
    · rw [sessionSetPeer, live_modifySession]
      exact ⟨a, ha⟩

/-- A session is unregistered from channel `k` and destroyed: the references stay safe exactly if no
other channel refers to it. -/
theorem unregistered_safe_iff (h : r.Safe) (hc : r.channels[k]? = some c)
    (ha : r.session s = some a) :
    ((r.channelUnregister k s).sessionDestroy s).Safe ↔
      ∀ i c', r.channels[i]? = some c' → c'.Holds s → i = k := by
  obtain ⟨hmutual, hnone⟩ := channelUnregister_peer h hc ha
  have hpeer : Mutual ((r.channelUnregister k s).sessionDestroy s).peer := by
    rw [peer_sessionDestroy, ← hnone, Function.update_eq_self]
    exact hmutual
  have hkl : k < r.channels.length := (List.getElem?_eq_some_iff.mp hc).choose
  rw [safe_iff, and_iff_left hpeer]
  show (∀ c' ∈ (r.channelUnregister k s).channels, _) ↔ _
  rw [channelUnregister_channels hc ha]
  simp only [live_sessionDestroy, channelUnregister_live hc ha]
  constructor
  · intro hslots i c' hi hs
    by_contra hik
    -- the other channel still refers to the session
    have hmem : c' ∈ r.channels.set k (c.leave s) := by
      refine List.mem_of_getElem? (i := i) ?_
      rw [List.getElem?_set_ne (Ne.symm hik)]
      exact hi
    exact (hslots c' hmem s hs).2 rfl
  · intro honly c' hc' i hi
    obtain ⟨n, hn⟩ := List.mem_iff_getElem?.mp hc'
    by_cases hkn : k = n
    · subst n
      rw [List.getElem?_set_self hkl] at hn
      obtain rfl := Option.some.inj hn
      obtain ⟨hi, hne⟩ := Channel.holds_leave.mp hi
      exact ⟨h.slots c (List.mem_of_getElem? hc) i hi, hne⟩
    · rw [List.getElem?_set_ne hkn] at hn
      refine ⟨h.slots c' (List.mem_of_getElem? hn) i hi, ?_⟩
      rintro rfl
      exact hkn (honly n c' hn hi).symm

end Server

end KvsWebrtc.Relay
