import KvsWebrtc.Relay.Equiv.Protocol
import KvsWebrtc.Relay.Equiv.Routing

/-!
# Whether who has joined is registered

A join is answered before the session is entered in a channel.  From then on the session is to be in
the place that it named, which is a slot of a channel, until it disconnects, joins again, or another
session joins for the same place (`track`).  A channel that is not in the table yet needs room in
it, and channels are never removed; so along a run every session is in its place if and only if
every join that is answered names a channel of the table or finds room there
(`registered_along_iff`).
-/

namespace KvsWebrtc.Relay

/-- A slot of a channel: that of the master, or that of everybody else. -/
structure Place where
  name : List UInt8
  master : Bool
deriving DecidableEq

def JoinRequest.place (j : JoinRequest) : Place where
  name := cString j.channelName
  master := strncpy (roleSize - 1) j.role = roleMaster

@[simp] theorem JoinRequest.place_name (j : JoinRequest) : j.place.name = cString j.channelName :=
  rfl

namespace Channel

variable {c : Channel} {role : List UInt8} {i s : Nat} {master : Bool}

def entry (c : Channel) (master : Bool) : Option Nat := if master then c.master else c.viewer

theorem entry_enter :
    (c.enter role s).entry master
      = if master = decide (role = roleMaster) then some s else c.entry master := by
  by_cases hrole : role = roleMaster <;> cases master <;> simp [entry, enter, hrole]

@[simp] theorem name_enter : (c.enter role s).name = c.name := by
  unfold enter
  split_ifs <;> rfl

/-- Whoever else is in a slot stays there. -/
theorem entry_leave (h : c.entry master = some i) (hne : i ≠ s) :
    (c.leave s).entry master = some i := by
  cases master with
  | true => exact emptied_eq_some_iff.mpr ⟨h, hne⟩
  | false => exact emptied_eq_some_iff.mpr ⟨h, hne⟩

end Channel

namespace Server

variable {config : ServerConfig} {r : Server} {i k s : Nat} {a : Session} {c : Channel}
    {j : JoinRequest}
  {payload : List UInt8} {p : Place}

def Registered (r : Server) (i : Nat) (p : Place) : Prop :=
  ∃ c ∈ r.channels, c.name = p.name ∧ c.entry p.master = some i

/-- The session that an event makes join, and its request, if the server answers it. -/
def answeredJoin (config : ServerConfig) (r : Server) : Event → Option (Nat × JoinRequest)
  | .frame s stream payload =>
    if stream = streamSignaling ∧ isJoinChannel payload ∧
        ¬ (r.handle config (.frame s stream payload)).2.isEmpty then
      (protocolParseJoin payload).map (s, ·)
    else none
  | _ => none

def disconnected : Event → Option Nat
  | .connect => none
  | .frame s _ payload => if EndsLoop payload then some s else none
  | .disconnect s => some s

/-- The server, and the place that each session is to be in. -/
structure Tracked where
  server : Server
  place : Nat → Option Place

def Tracked.initial : Tracked where
  server := Server.initial
  place := fun _ => none

/-- An event, and whom it gives a place or takes one from. -/
def track (config : ServerConfig) (t : Tracked) (e : Event) : Tracked where
  server := t.server.step config e
  place i :=
    match answeredJoin config t.server e with
    | some (s, j) => if i = s then some j.place else if t.place i = some j.place then none
      else t.place i
    | none => if disconnected e = some i then none else t.place i

def AllRegistered (t : Tracked) : Prop := ∀ i p, t.place i = some p → t.server.Registered i p

/-- The channel of the request is in the table, or finds room there. -/
def RoomFor (r : Server) (j : JoinRequest) : Prop :=
  (∃ c ∈ r.channels, c.name = cString j.channelName) ∨ r.channels.length < maxChannels

/-- A join of a session that has not been destroyed finds room. -/
def RoomOk (t : Tracked) : Event → Prop
  | .frame s stream payload => ∀ j, t.server.Live s → ¬ EndsLoop payload →
    stream = streamSignaling →
    isJoinChannel payload → protocolParseJoin payload = some j → t.server.RoomFor j
  | _ => True

/-! ### The channels after an event -/

theorem channels_channelRegister (hc : r.channels[k]? = some c) (ha : r.session s = some a) :
    (r.channelRegister k s).channels = r.channels.set k (c.enter a.role s) := by
  unfold channelRegister
  rw [hc, ha]
  dsimp only
  cases (c.enter a.role s).registeredPeer s with
  | none => rfl
  | some peer => rfl

/-- The end of a thread empties slots of one channel at most. -/
theorem channels_done (s : Nat) (a : Session) :
    (r.done s a).channels = r.channels ∨
      ∃ k c, r.channels[k]? = some c ∧ (r.done s a).channels = r.channels.set k (c.leave s) := by
  unfold done
  cases a.ch with
  | none => exact .inl rfl
  | some k =>
    show (r.channelUnregister k s).channels = _ ∨ ∃ k' c, _ ∧ (r.channelUnregister k s).channels = _
    cases hc : r.channels[k]? with
    | none =>
      left
      unfold channelUnregister
      rw [hc]
    | some c =>
      cases ha : r.session s with
      | none =>
        left
        unfold channelUnregister
        rw [hc, ha]
      | some b => exact .inr ⟨k, c, hc, channelUnregister_channels hc ha⟩

theorem Registered.done (h : r.Registered i p) (hne : i ≠ s) (a : Session) :
    (r.done s a).Registered i p := by
  obtain ⟨c, hmem, hname, hentry⟩ := h
  obtain heq | ⟨k, d, hd, heq⟩ := channels_done (r := r) s a
  · exact ⟨c, heq ▸ hmem, hname, hentry⟩
  · obtain ⟨n, hn⟩ := List.mem_iff_getElem?.mp hmem
    by_cases hnk : n = k
    · -- the session's own channel, where another one leaves
      subst hnk
      obtain rfl := Option.some.inj (hn.symm.trans hd)
      refine ⟨c.leave s, ?_, hname, Channel.entry_leave hentry hne⟩
      rw [heq]
      exact List.mem_set (List.getElem?_eq_some_iff.mp hd).1 _
    · refine ⟨c, ?_, hname, hentry⟩
      rw [heq]
      exact List.mem_of_getElem? ((List.getElem?_set_ne (Ne.symm hnk)).trans hn)

theorem length_channelName_le (h : protocolParseJoin payload = some j) :
    j.channelName.length ≤ maxChannelName := by
  unfold protocolParseJoin at h
  split_ifs at h
  obtain ⟨name, hname, h⟩ := Option.bind_eq_some_iff.mp h
  obtain ⟨client, -, h⟩ := Option.bind_eq_some_iff.mp h
  obtain ⟨role, -, h⟩ := Option.bind_eq_some_iff.mp h
  obtain rfl := Option.some.inj h
  exact Nat.le_of_lt_succ (length_lt_of_findJsonString hname)

/-- What a join does to the channels: the session is entered in a channel of the table, in a new
one, or nowhere if the table is full. -/
theorem channels_join (config : ServerConfig) (ha : r.session s = some a)
    (hj : protocolParseJoin payload = some j) :
    (∃ k c, r.channels[k]? = some c ∧ c.name = j.place.name ∧ (r.join config s payload).1.channels
        = r.channels.set k (c.enter (strncpy (roleSize - 1) j.role) s)) ∨
      ((∀ c ∈ r.channels, c.name ≠ j.place.name) ∧
        if r.channels.length < maxChannels then
          ∃ c : Channel, c.name = j.place.name ∧ (r.join config s payload).1.channels
            = r.channels ++ [c.enter (strncpy (roleSize - 1) j.role) s]
        else (r.join config s payload).1.channels = r.channels) := by
  obtain ⟨response, hresponse⟩ := joinResponse_fits config
  unfold join
  rw [hj, hresponse]
  dsimp only
  have hch : (r.sessionSetJoined s j).channels = r.channels := rfl
  unfold channelFindOrCreate
  rw [hch]
  cases hfind : r.channels.findIdx? (·.name = cString j.channelName) with
  | some k =>
    obtain ⟨hlt, hname, -⟩ := List.findIdx?_eq_some_iff_getElem.mp hfind
    have hc : r.channels[k]? = some r.channels[k] := List.getElem?_eq_getElem hlt
    refine .inl ⟨k, r.channels[k], hc, by simpa using hname, ?_⟩
    exact channels_channelRegister (r := r.withJoined s j r.channels (some k)) hc
      (withJoined_session ha j _ _)
  | none =>
    -- a new channel is made, if there is room for one
    have hnone : ∀ c ∈ r.channels, c.name ≠ j.place.name := by
      simpa using List.findIdx?_eq_none_iff.mp hfind
    refine .inr ⟨hnone, ?_⟩
    dsimp only
    by_cases hroom : r.channels.length < maxChannels
    · rw [if_neg (Nat.not_le.mpr hroom), if_pos hroom]
      have hlen := length_channelName_le hj
      refine ⟨channelCreate j.channelName, ?_, ?_⟩
      · exact List.take_of_length_le (Nat.le_trans (length_cString_le _) hlen)
      · have hc : (r.channels ++ [channelCreate j.channelName])[r.channels.length]?
            = some (channelCreate j.channelName) := List.getElem?_concat_length
        have hreg := channels_channelRegister
          (r := r.withJoined s j (r.channels ++ [channelCreate j.channelName])
          (some r.channels.length))
          hc (withJoined_session ha j _ _)
        refine hreg.trans ?_
        show (r.channels ++ [channelCreate j.channelName]).set r.channels.length _ = _
        rw [List.set_append_right _ _ (Nat.le_refl _)]
        simp [joinedSession]
    · rw [if_pos (Nat.le_of_not_lt hroom), if_neg hroom]
      rfl

/-! ### One event -/

/-- Whoever is in another place stays there. -/
theorem Registered.join (h : r.Registered i p) (ha : r.session s = some a)
    (hj : protocolParseJoin payload = some j) (hne : p ≠ j.place) :
    (r.join config s payload).1.Registered i p := by
  obtain ⟨c, hmem, hname, hentry⟩ := h
  obtain ⟨k, d, hd, hdname, heq⟩ | ⟨hnone, heq⟩ := channels_join config ha hj
  · obtain ⟨n, hn⟩ := List.mem_iff_getElem?.mp hmem
    by_cases hnk : n = k
    · subst hnk
      obtain rfl := Option.some.inj (hn.symm.trans hd)
      refine ⟨c.enter (strncpy (roleSize - 1) j.role) s, ?_, by rw [Channel.name_enter, hname], ?_⟩
      · rw [heq]
        exact List.mem_set (List.getElem?_eq_some_iff.mp hd).1 _
      · -- the other slot of the channel
        have hslot : p.master ≠ j.place.master := by
          intro hmaster
          apply hne
          obtain ⟨name, master⟩ := p
          obtain rfl : name = j.place.name := hname.symm.trans hdname
          obtain rfl : master = j.place.master := hmaster
          rfl
        rw [Channel.entry_enter]
        exact (if_neg hslot).trans hentry
    · refine ⟨c, ?_, hname, hentry⟩
      rw [heq]
      exact List.mem_of_getElem? ((List.getElem?_set_ne (Ne.symm hnk)).trans hn)
  · split_ifs at heq with hroom
    · obtain ⟨d, -, heq⟩ := heq
      exact ⟨c, heq ▸ List.mem_append_left _ hmem, hname, hentry⟩
    · exact ⟨c, heq ▸ hmem, hname, hentry⟩

/-- The session that joins is in its place exactly if there is room for it. -/
theorem registered_join_iff (ha : r.session s = some a) (hj : protocolParseJoin payload = some j) :
    (r.join config s payload).1.Registered s j.place ↔ r.RoomFor j := by
  have hentry : ∀ c : Channel,
      (c.enter (strncpy (roleSize - 1) j.role) s).entry j.place.master = some s := by
    intro c
    rw [Channel.entry_enter]
    exact if_pos rfl
  obtain ⟨k, c, hc, hname, heq⟩ | ⟨hnone, heq⟩ := channels_join config ha hj
  · refine iff_of_true ⟨c.enter _ s, ?_, by rw [Channel.name_enter, hname], hentry c⟩
      (.inl ⟨c, List.mem_of_getElem? hc, hname⟩)
    rw [heq]
    exact List.mem_set (List.getElem?_eq_some_iff.mp hc).1 _
  · split_ifs at heq with hroom
    · obtain ⟨c, hname, heq⟩ := heq
      refine iff_of_true ⟨c.enter _ s, ?_, by rw [Channel.name_enter, hname], hentry c⟩ (.inr hroom)
      rw [heq]
      exact List.mem_append_right _ (List.mem_singleton.mpr rfl)
    · refine iff_of_false ?_ ?_
      · rintro ⟨c, hmem, hname, -⟩
        rw [heq] at hmem
        exact hnone c hmem hname
      · rintro (⟨c, hmem, hname⟩ | hlt)
        · exact hnone c hmem hname
        · exact hroom hlt

/-- A join that can be read is answered if its session is there. -/
theorem answeredJoin_frame {stream : UInt8} (ha : r.session s = some a) (hend : ¬ EndsLoop payload)
    (hstream : stream = streamSignaling) (hjoin : isJoinChannel payload = true)
    (hj : protocolParseJoin payload = some j) :
    answeredJoin config r (.frame s stream payload) = some (s, j) := by
  obtain ⟨response, hresponse⟩ := joinResponse_fits config
  have hsent : (r.handle config (.frame s stream payload)).2.isEmpty = false := by
    rw [handle_frame ha hend, frame_eq_of_join hstream hjoin]
    unfold join
    rw [hj, hresponse]
    dsimp only
    cases ((r.sessionSetJoined s j).channelFindOrCreate j.channelName).1 <;> rfl
  unfold answeredJoin
  dsimp only
  rw [if_pos ⟨hstream, hjoin, by simp [hsent]⟩, hj]
  rfl

theorem of_answeredJoin {stream : UInt8}
    (h : answeredJoin config r (.frame s stream payload) = some (i, j)) :
    i = s ∧ (∃ a, r.session s = some a) ∧ ¬ EndsLoop payload ∧ stream = streamSignaling ∧
      isJoinChannel payload = true ∧ protocolParseJoin payload = some j := by
  unfold answeredJoin at h
  dsimp only at h
  split_ifs at h with hcond
  obtain ⟨hstream, hjoin, hsent⟩ := hcond
  obtain ⟨j', hj, heq⟩ := Option.map_eq_some_iff.mp h
  obtain ⟨rfl, rfl⟩ := Prod.mk.inj heq
  unfold handle at hsent
  dsimp only at hsent
  cases ha : r.session s with
  | none => simp [ha] at hsent
  | some a =>
    refine ⟨rfl, ⟨a, rfl⟩, ?_, hstream, hjoin, hj⟩
    intro hend
    simp [ha, hend] at hsent

/-- Events that are no answered join leave whoever they do not disconnect in its place. -/
theorem Registered.step (h : r.Registered i p) {e : Event} (hjoin : answeredJoin config r e = none)
    (hdisc : disconnected e ≠ some i) : (r.step config e).Registered i p := by
  cases e with
  | connect => exact h
  | frame s stream payload =>
    unfold Server.step handle
    dsimp only
    cases ha : r.session s with
    | none => exact h
    | some a =>
      dsimp only
      by_cases hend : EndsLoop payload
      · rw [if_pos hend]
        -- the session that ends is another one
        have hne : i ≠ s := by
          rintro rfl
          exact hdisc (by simp [disconnected, hend])
        exact h.done hne a
      · rw [if_neg hend]
        by_cases hmsg : stream = streamSignaling ∧ isJoinChannel payload = true
        · rw [frame_eq_of_join hmsg.1 hmsg.2]
          cases hj : protocolParseJoin payload with
          | none =>
            unfold Server.join
            rw [hj]
            exact h
          | some j =>
            rw [answeredJoin_frame ha hend hmsg.1 hmsg.2 hj] at hjoin
            cases hjoin
        · rw [frame_eq_of_not_join hmsg]
          exact h
  | disconnect s =>
    unfold Server.step handle
    dsimp only
    cases ha : r.session s with
    | none => exact h
    | some a =>
      have hne : i ≠ s := by
        rintro rfl
        exact hdisc rfl
      exact h.done hne a

/-- The condition of an event, as one on the join that is answered. -/
theorem roomOk_iff (config : ServerConfig) (t : Tracked) (e : Event) :
    RoomOk t e ↔ ∀ s j, answeredJoin config t.server e = some (s, j) → t.server.RoomFor j := by
  cases e with
  | connect => exact ⟨fun _ _ _ h => absurd h (by simp [answeredJoin]), fun _ => trivial⟩
  | frame s stream payload =>
    constructor
    · intro h i j hanswered
      obtain ⟨-, hlive, hend, hstream, hjoin, hj⟩ := of_answeredJoin hanswered
      exact h j hlive hend hstream hjoin hj
    · rintro h j ⟨a, ha⟩ hend hstream hjoin hj
      exact h s j (answeredJoin_frame ha hend hstream hjoin hj)
  | disconnect s => exact ⟨fun _ _ _ h => absurd h (by simp [answeredJoin]), fun _ => trivial⟩

/-- **One event** keeps everybody in its place exactly if a join that it is finds room. -/
theorem allRegistered_track_iff (config : ServerConfig) {t : Tracked} (h : AllRegistered t)
    (e : Event) :
    AllRegistered (track config t e) ↔ RoomOk t e := by
  rw [roomOk_iff config]
  cases hanswered : answeredJoin config t.server e with
  | none =>
    refine iff_of_true ?_ fun s j heq => by cases heq
    intro i p hp
    simp only [track, hanswered] at hp ⊢
    split_ifs at hp with hdisc
    exact (h i p hp).step hanswered hdisc
  | some sj =>
    obtain ⟨s, j⟩ := sj
    -- only a frame is a join
    cases e with
    | connect => simp [answeredJoin] at hanswered
    | disconnect s' => simp [answeredJoin] at hanswered
    | frame s' stream payload =>
      obtain ⟨rfl, ⟨a, ha⟩, hend, hstream, hjoin, hj⟩ := of_answeredJoin hanswered
      have hserver : t.server.step config (.frame s stream payload)
          = (t.server.join config s payload).1 := by
        unfold Server.step
        rw [handle_frame ha hend, frame_eq_of_join hstream hjoin]
      constructor
      · intro hall s'' j'' heq
        obtain ⟨rfl, rfl⟩ := Prod.mk.inj (Option.some.inj heq)
        have hplace : (track config t (.frame s stream payload)).place s = some j.place := by
          simp [track, hanswered]
        have hreg := hall s j.place hplace
        simp only [track, hserver] at hreg
        exact (registered_join_iff ha hj).mp hreg
      · intro hroom i p hp
        have hroom := hroom s j rfl
        simp only [track, hanswered, hserver] at hp ⊢
        split_ifs at hp with his hplace
        · obtain rfl := Option.some.inj hp
          rw [his]
          exact (registered_join_iff ha hj).mpr hroom
        · have hne : p ≠ j.place := by
            rintro rfl
            exact hplace hp
          exact (h i p hp).join ha hj hne

/-- **Registration**: along a run of the server, every session whose join was answered is in the
place that it named, until it disconnects, joins again or is displaced, if and only if every join
finds its channel in the table or room for it. -/
theorem registered_along_iff (config : ServerConfig) (events : List Event) :
    Along (track config) AllRegistered Tracked.initial events
      ↔ AllSteps (track config) RoomOk Tracked.initial events :=
  along_iff_allSteps (I := fun _ => True) (fun _ _ _ => trivial)
    (fun _ e _ h => allRegistered_track_iff config h e) trivial (fun i p hp => by cases hp) events

/-! ### A full table -/

def names (r : Server) : List (List UInt8) := r.channels.map Channel.name

theorem names_done (s : Nat) (a : Session) : (r.done s a).names = r.names := by
  obtain heq | ⟨k, c, hc, heq⟩ := channels_done (r := r) s a
  · rw [names, heq, names]
  · have hname : (c.leave s).name = c.name := rfl
    obtain ⟨hk, rfl⟩ := List.getElem?_eq_some_iff.mp hc
    have hk' : k < (r.channels.map Channel.name).length := by rwa [List.length_map]
    have hget : (r.channels.map Channel.name)[k] = r.channels[k].name := List.getElem_map _
    rw [names, heq, List.map_set, hname, names, ← hget]
    exact List.set_getElem_self _

theorem names_join {config : ServerConfig} (ha : r.session s = some a)
    (hj : protocolParseJoin payload = some j) (hnew : cString j.channelName ∉ r.names)
    (hroom : r.channels.length < maxChannels) :
    (r.join config s payload).1.names = r.names ++ [cString j.channelName] := by
  obtain ⟨k, c, hc, hname, -⟩ | ⟨-, heq⟩ := channels_join config ha hj
  · exact absurd (List.mem_map.mpr ⟨c, List.mem_of_getElem? hc, hname⟩) hnew
  · rw [if_pos hroom] at heq
    obtain ⟨c, hname, heq⟩ := heq
    rw [names, heq, List.map_append, List.map_singleton, Channel.name_enter, hname]
    rfl

theorem length_sessions_done (s : Nat) (a : Session) :
    (r.done s a).sessions.length = r.sessions.length := by
  unfold done channelUnregister sessionSetPeer modifySession sessionDestroy
  split
  · split
    · split <;> simp
    · simp
  · simp

theorem length_sessions_channelRegister (r : Server) (k s : Nat) :
    (r.channelRegister k s).sessions.length = r.sessions.length := by
  unfold channelRegister sessionSetPeer modifySession
  dsimp only
  split
  · split <;> simp
  · rfl

theorem length_sessions_withJoined (r : Server) (s : Nat) (j : JoinRequest) (cs : List Channel)
    (ch : Option Nat) :
    (r.withJoined s j cs ch).sessions.length = r.sessions.length := by
  simp [withJoined, sessionSetJoined, modifySession]

theorem length_sessions_join (config : ServerConfig) (r : Server) (s : Nat) (payload : List UInt8) :
    (r.join config s payload).1.sessions.length = r.sessions.length := by
  obtain ⟨-, heq⟩ | ⟨j, -, ⟨k, -, heq⟩ | ⟨-, heq⟩ | ⟨-, heq⟩⟩ := join_cases config r s payload
  · rw [heq]
  · rw [heq, length_sessions_channelRegister, length_sessions_withJoined]
  · rw [heq, length_sessions_withJoined]
  · rw [heq, length_sessions_channelRegister, length_sessions_withJoined]

/-- A join of a session that has just connected, for a channel that is not in the table yet. -/
theorem step_join (ha : r.session s = some a) (hend : ¬ EndsLoop payload)
    (hjoin : isJoinChannel payload = true) (hj : protocolParseJoin payload = some j)
    (hnew : cString j.channelName ∉ r.names) (hroom : r.channels.length < maxChannels) :
    (r.step config (.frame s streamSignaling payload)).names = r.names ++ [cString j.channelName] ∧
      (r.step config (.frame s streamSignaling payload)).sessions.length = r.sessions.length := by
  have hstep : r.step config (.frame s streamSignaling payload) = (r.join config s payload).1 := by
    rw [step, handle_frame ha hend, frame_eq_of_join rfl hjoin]
  rw [hstep]
  exact ⟨names_join ha hj hnew hroom, length_sessions_join config r s payload⟩

theorem step_disconnect (s : Nat) :
    (r.step config (.disconnect s)).names = r.names ∧
      (r.step config (.disconnect s)).sessions.length = r.sessions.length := by
  unfold step handle
  dsimp only
  split
  · exact ⟨rfl, rfl⟩
  · exact ⟨names_done s _, length_sessions_done s _⟩

def channelNamed (n : Nat) : String := String.singleton (Char.ofNat (100 + n))

/-- A master joins a channel of its own and leaves. -/
def comeAndGo (n : Nat) : List Event :=
  [.connect, .frame n streamSignaling (joinMessage (channelNamed n) "x" "master"), .disconnect n]

/-- As many masters come and go as the table has room for, and then comes another one. -/
def fullTable : List Event :=
  (List.range maxChannels).flatMap comeAndGo ++
    [.connect, .frame maxChannels streamSignaling
    (joinMessage (channelNamed maxChannels) "x" "master")]

/-- The parts of a `JOIN_CHANNEL` message. -/
theorem joinMessage_eq (channel client role : String) :
    joinMessage channel client role = bytesOf "\x7b" ++ (quoted [bytesOf "messageType", bytesOf ":",
      bytesOf "JOIN_CHANNEL", bytesOf ",", bytesOf "channelName", bytesOf ":", bytesOf channel,
        bytesOf ",",
      bytesOf "clientId", bytesOf ":", bytesOf client, bytesOf ",", bytesOf "role", bytesOf ":",
        bytesOf role] ++
      quoteByte :: bytesOf "\x7d") := by
  have hchannel : bytesOf "\x7b\"messageType\":\"JOIN_CHANNEL\",\"channelName\":\"" =
      bytesOf "\x7b" ++ quoted [bytesOf "messageType", bytesOf ":", bytesOf "JOIN_CHANNEL",
        bytesOf ",", bytesOf "channelName", bytesOf ":"] ++ [quoteByte] := by
    decide +kernel
  have hclient : bytesOf "\",\"clientId\":\"" =
      quoted [bytesOf ",", bytesOf "clientId", bytesOf ":"] ++ [quoteByte] := by
    decide +kernel
  have hrole : bytesOf "\",\"role\":\"" =
      quoted [bytesOf ",", bytesOf "role", bytesOf ":"] ++ [quoteByte] := by
    decide +kernel
  have hend : bytesOf "\"\x7d" = quoteByte :: bytesOf "\x7d" := by
    decide +kernel
  rw [joinMessage, hchannel, hclient, hrole, hend]
  simp only [quoted, List.flatMap_cons, List.flatMap_nil, List.append_assoc, List.cons_append,
    List.nil_append]

theorem findJsonString_of_value {json v : List UInt8} {key : String} {outLen : Nat}
    (h : findValueAfterKey json key = some v) (hlen : v.length < outLen) :
    findJsonString json key outLen = some v := by
  rw [findJsonString, h]
  exact if_neg (Nat.not_le.mpr hlen)

/-- **A join message** is read back. -/
theorem protocolParseJoin_joinMessage {channel client role : String}
    (hchannel : Unquoted (bytesOf channel)) (hclient : Unquoted (bytesOf client))
    (hrole : Unquoted (bytesOf role)) (hne : bytesOf channel ≠ bytesOf "clientId" ∧
      bytesOf channel ≠ bytesOf "role" ∧ bytesOf client ≠ bytesOf "role")
    (hlen : (bytesOf channel).length ≤ maxChannelName ∧ (bytesOf client).length ≤ maxClientId ∧
      (bytesOf role).length < roleSize) :
    protocolParseJoin (joinMessage channel client role) =
      some ⟨bytesOf channel, bytesOf client, bytesOf role⟩ := by
  have hfront : Unquoted (bytesOf "\x7b") := by decide
  have hchannelName : ∀ part ∈ [bytesOf "messageType", bytesOf ":", bytesOf "JOIN_CHANNEL",
      bytesOf ","], Unquoted part ∧ part ≠ bytesOf "channelName" := by
    decide
  have hclientId : ∀ part ∈ [bytesOf "messageType", bytesOf ":", bytesOf "JOIN_CHANNEL",
      bytesOf ",", bytesOf "channelName", bytesOf ":", bytesOf channel, bytesOf ","],
      Unquoted part ∧ part ≠ bytesOf "clientId" := by
    simp only [List.forall_mem_cons, List.not_mem_nil, false_imp_iff, implies_true, and_true]
    exact ⟨by decide, by decide, by decide, by decide, by decide, by decide, ⟨hchannel, hne.1⟩, by
      decide⟩
  have hroleKey : ∀ part ∈ [bytesOf "messageType", bytesOf ":", bytesOf "JOIN_CHANNEL", bytesOf ",",
      bytesOf "channelName", bytesOf ":", bytesOf channel, bytesOf ",", bytesOf "clientId",
      bytesOf ":", bytesOf client, bytesOf ","], Unquoted part ∧ part ≠ bytesOf "role" := by
    simp only [List.forall_mem_cons, List.not_mem_nil, false_imp_iff, implies_true, and_true]
    exact ⟨by decide, by decide, by decide, by decide, by decide, by decide, ⟨hchannel, hne.2.1⟩, by
      decide,
      by decide, by decide, ⟨hclient, hne.2.2⟩, by decide⟩
  have hname := findJsonString_of_value (joinMessage_eq channel client role ▸
    findValueAfterKey_value (by decide) hfront hchannelName hchannel _ _) (Nat.lt_succ_of_le hlen.1)
  have hid := findJsonString_of_value (joinMessage_eq channel client role ▸
    findValueAfterKey_value (by decide) hfront hclientId hclient _ _) (Nat.lt_succ_of_le hlen.2.1)
  have hr := findJsonString_of_value (joinMessage_eq channel client role ▸
    findValueAfterKey_value (by decide) hfront hroleKey hrole _ _) hlen.2.2
  have hne : (joinMessage channel client role).length ≠ 0 := by
    rw [joinMessage_eq, List.length_append]
    exact Nat.ne_of_gt (Nat.add_pos_left (by decide) _)
  rw [protocolParseJoin, if_neg hne, hname, hid, hr]
  rfl

theorem isJoinChannel_joinMessage (channel client role : String) :
    isJoinChannel (joinMessage channel client role) = true := by
  have htype : bytesOf "\x7b\"messageType\":\"JOIN_CHANNEL\",\"channelName\":\"" =
      '\x7b'.toUInt8 :: (bytesOf "\"messageType\":\"JOIN_CHANNEL\"" ++
        bytesOf ",\"channelName\":\"") := by
    decide +kernel
  obtain ⟨t, ht⟩ : ∃ t, bytesOf "\"messageType\":\"JOIN_CHANNEL\"" = quoteByte :: t := ⟨_, rfl⟩
  have hfound : ∀ rest,
      (strstr (quoteByte :: t) ('\x7b'.toUInt8 :: (quoteByte :: t ++ rest))).isSome = true := by
    intro rest
    rw [strstr_skip (by decide) (by decide), List.cons_append, strstr, if_pos]
    · rfl
    · rw [List.isPrefixOf_iff_prefix]
      exact ⟨rest, rfl⟩
  unfold isJoinChannel joinMessage
  rw [htype, ht]
  simp only [List.cons_append, List.append_assoc]
  rw [← List.cons_append, hfound]
  rfl

theorem not_endsLoop_joinMessage {channel client role : String}
    (hlen : (bytesOf channel).length ≤ maxChannelName ∧ (bytesOf client).length ≤ maxClientId ∧
      (bytesOf role).length < roleSize) : ¬ EndsLoop (joinMessage channel client role) := by
  have hone : (bytesOf "\x7b\"messageType\":\"JOIN_CHANNEL\",\"channelName\":\"").length = 45 ∧
      (bytesOf "\",\"clientId\":\"").length = 14 ∧ (bytesOf "\",\"role\":\"").length = 10 ∧
      (bytesOf "\"\x7d").length = 2 := by
    decide +kernel
  obtain ⟨hfirst, hclientId, hroleKey, hend⟩ := hone
  have htotal : (joinMessage channel client role).length =
      71 + ((bytesOf channel).length + (bytesOf client).length + (bytesOf role).length) := by
    rw [joinMessage]
    simp only [List.length_append]
    omega
  have hmax : maxChannelName + maxClientId + roleSize ≤ 1000 := by decide
  have hpayload : maxPayload = 19262 := rfl
  intro h
  rcases h with h | h
  · omega
  · omega

theorem bytesOf_channelNamed : ∀ n ≤ maxChannels,
    bytesOf (channelNamed n) = [UInt8.ofNat (100 + n)] ∧ Unquoted (bytesOf (channelNamed n)) := by
  decide +kernel

theorem bytesOf_channelNamed_inj {m n : Nat} (hm : m ≤ maxChannels) (hn : n ≤ maxChannels)
    (h : bytesOf (channelNamed m) = bytesOf (channelNamed n)) : m = n := by
  rw [(bytesOf_channelNamed m hm).1, (bytesOf_channelNamed n hn).1] at h
  have hnat := congrArg UInt8.toNat (List.cons.inj h).1
  simp only [maxChannels] at hm hn
  have hvalue : ∀ k ≤ 64, (UInt8.ofNat (100 + k)).toNat = 100 + k := fun k hk =>
    UInt8.toNat_ofNat_of_lt' (by rw [UInt8.size]; omega)
  rw [hvalue m hm, hvalue n hn] at hnat
  omega

theorem join_channelNamed {n : Nat} (hn : n ≤ maxChannels) :
    ¬ EndsLoop (joinMessage (channelNamed n) "x" "master") ∧
      protocolParseJoin (joinMessage (channelNamed n) "x" "master") =
        some ⟨bytesOf (channelNamed n), bytesOf "x", roleMaster⟩ ∧
      cString (bytesOf (channelNamed n)) = bytesOf (channelNamed n) := by
  obtain ⟨hletter, hunquoted⟩ := bytesOf_channelNamed n hn
  have hone : (bytesOf (channelNamed n)).length = 1 := congrArg List.length hletter
  have hlen : (bytesOf (channelNamed n)).length ≤ maxChannelName ∧
      (bytesOf "x").length ≤ maxClientId ∧
      (bytesOf "master").length < roleSize := by
    rw [hone]
    decide
  have hne : bytesOf (channelNamed n) ≠ bytesOf "clientId" ∧
      bytesOf (channelNamed n) ≠ bytesOf "role" ∧
      bytesOf "x" ≠ bytesOf "role" := by
    refine ⟨fun h => ?_, fun h => ?_, by decide⟩
    · rw [h] at hone
      exact absurd hone (by decide)
    · rw [h] at hone
      exact absurd hone (by decide)
  exact ⟨not_endsLoop_joinMessage hlen,
    protocolParseJoin_joinMessage hunquoted (by decide) (by decide) hne hlen, hunquoted.cString_eq⟩

/-- The table when so many masters have come and gone. -/
theorem comeAndGo_state {n : Nat} (hn : n ≤ maxChannels) :
    let r := ((List.range n).flatMap comeAndGo).foldl (step noServers) initial
    r.names = (List.range n).map (fun m => bytesOf (channelNamed m)) ∧ r.sessions.length = n := by
  induction n with
  | zero => exact ⟨rfl, rfl⟩
  | succ n ih =>
    obtain ⟨hnames, hsessions⟩ := ih (Nat.le_of_succ_le hn)
    rw [List.range_succ, List.flatMap_append, List.foldl_append, List.map_append,
      List.flatMap_singleton, List.map_singleton]
    generalize ((List.range n).flatMap comeAndGo).foldl (step noServers) initial =
      r at hnames hsessions ⊢
    obtain ⟨hend, hj, hname⟩ := join_channelNamed (Nat.le_of_succ_le hn)
    have hsession : ∃ a, r.sessionCreate.session n = some a := by
      rw [session, sessionCreate, ← hsessions]
      exact ⟨_, by rw [List.getElem?_concat_length]; rfl⟩
    obtain ⟨a, ha⟩ := hsession
    have hlen : r.channels.length = n := by
      have := congrArg List.length hnames
      simpa [names] using this
    have hnew : cString (bytesOf (channelNamed n)) ∉ r.sessionCreate.names := by
      rw [hname]
      show bytesOf (channelNamed n) ∉ r.names
      rw [hnames, List.mem_map]
      rintro ⟨m, hm, heq⟩
      have hm := List.mem_range.mp hm
      exact Nat.ne_of_lt hm (bytesOf_channelNamed_inj (by omega) (by omega) heq)
    have hroom : r.sessionCreate.channels.length < maxChannels := hlen.trans_lt hn
    -- the session joins, and leaves its channel in the table
    have hisJoin := isJoinChannel_joinMessage (channelNamed n) "x" "master"
    refine ⟨(step_disconnect n).1.trans ((step_join ha hend hisJoin hj hnew hroom).1.trans ?_),
      (step_disconnect n).2.trans ((step_join ha hend hisJoin hj hnew hroom).2.trans ?_)⟩
    · rw [hname]
      exact congrArg (· ++ _) hnames
    · simp [sessionCreate, hsessions]

theorem foldl_track_server (config : ServerConfig) (t : Tracked) (events : List Event) :
    (events.foldl (track config) t).server = events.foldl (step config) t.server := by
  induction events generalizing t with
  | nil => rfl
  | cons e events ih => exact ih (track config t e)

/-- The next master finds neither its channel nor room for it. -/
theorem not_roomOk_full {t : Tracked}
    (hnames : t.server.names = (List.range maxChannels).map fun m => bytesOf (channelNamed m))
    (hsessions : t.server.sessions.length = maxChannels) :
    ¬ RoomOk (track noServers t .connect)
      (.frame maxChannels streamSignaling (joinMessage (channelNamed maxChannels) "x"
      "master")) := by
  intro h
  obtain ⟨hend, hj, hname⟩ := join_channelNamed (Nat.le_refl maxChannels)
  have hlive : t.server.sessionCreate.Live maxChannels := by
    rw [Live, session, sessionCreate, ← hsessions, List.getElem?_concat_length]
    exact ⟨_, rfl⟩
  obtain ⟨c, hmem, hc⟩ | hroom := h _ hlive hend rfl (isJoinChannel_joinMessage _ _ _) hj
  · have hmem : c.name ∈ t.server.names := List.mem_map_of_mem hmem
    rw [hc, hname, hnames, List.mem_map] at hmem
    obtain ⟨m, hm, heq⟩ := hmem
    have hm := List.mem_range.mp hm
    exact Nat.ne_of_lt hm (bytesOf_channelNamed_inj (Nat.le_of_lt hm) (Nat.le_refl maxChannels) heq)
  · have hlen := congrArg List.length hnames
    rw [names, List.length_map, List.length_map, List.length_range] at hlen
    exact Nat.ne_of_lt hroom hlen

theorem answered_but_not_registered :
    ¬ ∀ (config : ServerConfig) (events : List Event),
      Along (track config) AllRegistered Tracked.initial events := by
  intro h
  have hsteps : AllSteps (track noServers) RoomOk Tracked.initial fullTable :=
    (along_iff_allSteps (I := fun _ => True) (fun _ _ _ => trivial)
      (fun _ e _ h => allRegistered_track_iff noServers h e) trivial (fun i p hp => by cases hp)
      fullTable).mp (h noServers fullTable)
  obtain ⟨-, -, hlast, -⟩ := (allSteps_append _ _ _).mp hsteps
  obtain ⟨hnames, hsessions⟩ := comeAndGo_state (Nat.le_refl maxChannels)
  have hserver : ∀ events : List Event, (events.foldl (track noServers) Tracked.initial).server =
      events.foldl (step noServers) initial := foldl_track_server noServers Tracked.initial
  rw [← hserver] at hnames hsessions
  exact not_roomOk_full hnames hsessions hlast

end Server

end KvsWebrtc.Relay
