import KvsWebrtc.Common.Run
import KvsWebrtc.Relay.Equiv.Session
import KvsWebrtc.Relay.Server

/-!
# Runs of the relay server

`relay_safe_iff`: along a run, all references to sessions stay safe exactly if no step takes a
reference that it does not take back.  These are the steps that `EventOk` excludes: a join that
pairs a session which has another peer, or whose new peer has one, and the end of a session that
some channel other than the last one it joined still refers to.
-/

namespace KvsWebrtc.Relay

/-! ### The response to a join -/

/-- A text of at most `m` bytes is written if there is room for them. -/
theorem emit_fits {bufLen m : Nat} {buf text : List UInt8} (hpos : 0 < text.length)
    (htext : text.length ≤ m) (hlen : buf.length + m < bufLen) :
    ∃ out, emit bufLen buf text = some out ∧ out.length ≤ buf.length + m := by
  refine ⟨buf ++ text, ?_, ?_⟩
  · unfold emit
    rw [if_pos]
    exact ⟨hpos, by omega⟩
  · rw [List.length_append]
    omega

theorem emitUris_fits {bufLen : Nat} (uris : List (List UInt8))
    (huris : ∀ uri ∈ uris, uri.length ≤ 127) (j : Nat) (buf : List UInt8)
    (hlen : buf.length + 130 * uris.length < bufLen) :
    ∃ out, emitUris bufLen j buf uris = some out ∧
      out.length ≤ buf.length + 130 * uris.length := by
  induction uris generalizing j buf with
  | nil => exact ⟨buf, rfl, Nat.le_refl _⟩
  | cons uri rest ih =>
    have huri := huris uri List.mem_cons_self
    rw [List.length_cons] at hlen ⊢
    have hcomma : (if j = 0 then [] else bytesOf ",").length ≤ 1 := by
      split_ifs
      · exact Nat.zero_le _
      · decide
    have hquote : (bytesOf "\"").length = 1 := rfl
    obtain ⟨buf', hemit, hlen'⟩ := @emit_fits bufLen 130 buf
      ((if j = 0 then [] else bytesOf ",") ++ bytesOf "\"" ++ uri ++ bytesOf "\"")
      (by simp only [List.length_append]; omega) (by simp only [List.length_append]; omega)
      (by omega)
    obtain ⟨out, hout, houtlen⟩ := ih (fun u hu => huris u (List.mem_cons_of_mem uri hu)) (j + 1)
      buf' (by omega)
    refine ⟨out, ?_, by omega⟩
    rw [emitUris, hemit]
    exact hout

theorem fittingUri_spec (uri : Option (List UInt8)) :
    (fittingUri uri).length ≤ 1 ∧ ∀ u ∈ fittingUri uri, u.length ≤ 127 := by
  unfold fittingUri
  cases uri with
  | none => exact ⟨Nat.zero_le _, fun u hu => by cases hu⟩
  | some u =>
    dsimp only
    split_ifs
    · refine ⟨Nat.le_refl _, fun v hv => ?_⟩
      obtain rfl := List.mem_singleton.mp hv
      exact length_strncpy_le 127 u
    · exact ⟨Nat.zero_le _, fun u hu => by cases hu⟩

theorem fillIceFromConfig_uris (config : ServerConfig) :
    (fillIceFromConfig config).uris.length ≤ 2 ∧
      ∀ u ∈ (fillIceFromConfig config).uris, u.length ≤ 127 := by
  obtain ⟨hstun, hstun'⟩ := fittingUri_spec config.stunUri
  obtain ⟨hturn, hturn'⟩ := fittingUri_spec config.turnUri
  unfold fillIceFromConfig
  refine ⟨?_, fun u hu => (List.mem_append.mp hu).elim (hstun' u) (hturn' u)⟩
  rw [List.length_append]
  omega

/-- The response fits into its buffer, whatever the configuration is. -/
theorem joinResponse_fits (config : ServerConfig) : ∃ out, joinResponse config = some out := by
  obtain ⟨hcount, huris⟩ := fillIceFromConfig_uris config
  have hname : (fillIceFromConfig config).username.length ≤ 256 := length_strncpy_le 256 _
  have hpass : (fillIceFromConfig config).password.length ≤ 256 := length_strncpy_le 256 _
  have httl : (fillIceFromConfig config).ttlSec = 86400 := rfl
  obtain ⟨b₁, h₁, hl₁⟩ := @emit_fits 4096 100 []
    (bytesOf "\x7b\"messageType\":\"JOIN_CHANNEL_RESPONSE\",\"statusCode\":200,\"iceServers\":[")
    (by decide +kernel) (by decide +kernel) (by decide)
  obtain ⟨b₂, h₂, hl₂⟩ := @emit_fits 4096 30 b₁
    (bytesOf "\x7b\"ttl\":" ++ bytesOf (toString 86400) ++ bytesOf ",\"uris\":[")
    (by decide +kernel) (by decide +kernel) (by simp only [List.length_nil] at hl₁; omega)
  obtain ⟨b₃, h₃, hl₃⟩ := @emitUris_fits 4096 (fillIceFromConfig config).uris huris 0 b₂
    (by simp only [List.length_nil] at hl₁; omega)
  have htext : (bytesOf "],\"username\":\"").length = 14 ∧
      (bytesOf "\",\"password\":\"").length = 14 ∧ (bytesOf "\"\x7d").length = 2 := by
    decide +kernel
  obtain ⟨b₄, h₄, hl₄⟩ := @emit_fits 4096 542 b₃ (bytesOf "],\"username\":\"" ++
    (fillIceFromConfig config).username ++ bytesOf "\",\"password\":\"" ++
    (fillIceFromConfig config).password ++ bytesOf "\"\x7d" ++ [])
    (by simp only [List.length_append]; omega)
    (by simp only [List.length_append, List.length_nil]; omega)
    (by simp only [List.length_nil] at hl₁; omega)
  obtain ⟨b₅, h₅, -⟩ := @emit_fits 4096 2 b₄ (bytesOf "]\x7d") (by decide +kernel)
    (by decide +kernel) (by simp only [List.length_nil] at hl₁; omega)
  refine ⟨b₅, ?_⟩
  unfold joinResponse protocolBuildJoinResponse
  rw [if_neg (fun h => h rfl)]
  simp only [h₁, Option.bind_eq_bind, Option.bind_some, emitIceServers, httl, h₂, h₃,
    List.isEmpty_nil, if_true, h₄, h₅]

namespace Server

variable {config : ServerConfig} {r : Server} {s : Nat} {a : Session} {payload : List UInt8}

/-! ### Joining -/

/-- The channel that the message names has nobody in the other slot, or the session and whoever is
there may be paired. -/
def JoinOk (r : Server) (s : Nat) (payload : List UInt8) : Prop :=
  ∀ j k c p, protocolParseJoin payload = some j →
    r.channels.findIdx? (·.name = cString j.channelName) = some k → r.channels[k]? = some c →
    c.opposite (strncpy (roleSize - 1) j.role) = some p → r.PairOk s p

theorem JoinRequest.length_clientId_le (j : JoinRequest) :
    (strncpy maxClientId j.clientId).length ≤ maxClientId :=
  length_strncpy_le maxClientId j.clientId

def joinedSession (a : Session) (j : JoinRequest) (ch : Option Nat) : Session :=
  { joined := true
    channelName := strncpy maxChannelName j.channelName
    clientId := strncpy maxClientId j.clientId
    role := strncpy (roleSize - 1) j.role
    peer := a.peer
    ch := ch
    clientId_le := JoinRequest.length_clientId_le j }

/-- The server once session `s` has joined and its thread has its channel, of a table `cs`. -/
def withJoined (r : Server) (s : Nat) (j : JoinRequest) (cs : List Channel) (ch : Option Nat) :
    Server :=
  ({ r.sessionSetJoined s j with channels := cs } : Server).modifySession s
    fun a => { a with ch := ch }

theorem withJoined_session (ha : r.session s = some a) (j : JoinRequest) (cs : List Channel)
    (ch : Option Nat) : (r.withJoined s j cs ch).session s = some (joinedSession a j ch) := by
  unfold withJoined
  rw [session_modifySession, if_pos rfl]
  show ((r.sessionSetJoined s j).session s).map _ = _
  unfold sessionSetJoined
  rw [session_modifySession, if_pos rfl, ha]
  rfl

theorem withJoined_peer (j : JoinRequest) (cs : List Channel) (ch : Option Nat) :
    (r.withJoined s j cs ch).peer = r.peer := by
  have hch : (r.withJoined s j cs ch).peer = (r.sessionSetJoined s j).peer :=
    @peer_modifySession { r.sessionSetJoined s j with channels := cs }
      (fun a => { a with ch := ch }) (fun _ => rfl) s
  rw [hch]
  unfold sessionSetJoined
  apply peer_modifySession
  intro a
  rfl

theorem withJoined_live (j : JoinRequest) (cs : List Channel) (ch : Option Nat) (i : Nat) :
    (r.withJoined s j cs ch).Live i ↔ r.Live i := by
  unfold withJoined
  rw [live_modifySession]
  show (r.sessionSetJoined s j).Live i ↔ r.Live i
  exact live_modifySession _ s i

/-- What a join does: nothing, or the session joins and is registered unless the table is full. -/
theorem join_cases (config : ServerConfig) (r : Server) (s : Nat) (payload : List UInt8) :
    (protocolParseJoin payload = none ∧ (r.join config s payload).1 = r) ∨
    ∃ j, protocolParseJoin payload = some j ∧
      ((∃ k, r.channels.findIdx? (·.name = cString j.channelName) = some k ∧
          (r.join config s payload).1 =
            (r.withJoined s j r.channels (some k)).channelRegister k s) ∨
       (r.channels.findIdx? (·.name = cString j.channelName) = none ∧
          (r.join config s payload).1 = r.withJoined s j r.channels none) ∨
       (r.channels.findIdx? (·.name = cString j.channelName) = none ∧
          (r.join config s payload).1 =
            (r.withJoined s j (r.channels ++ [channelCreate j.channelName])
              (some r.channels.length)).channelRegister r.channels.length s)) := by
  obtain ⟨response, hresponse⟩ := joinResponse_fits config
  unfold join
  cases hj : protocolParseJoin payload with
  | none => exact Or.inl ⟨rfl, rfl⟩
  | some j =>
    refine Or.inr ⟨j, rfl, ?_⟩
    rw [hresponse]
    dsimp only
    have hch : (r.sessionSetJoined s j).channels = r.channels := rfl
    unfold channelFindOrCreate
    rw [hch]
    cases r.channels.findIdx? (·.name = cString j.channelName) with
    | some k => exact Or.inl ⟨k, rfl, rfl⟩
    | none =>
      dsimp only
      split_ifs
      · exact Or.inr (Or.inl ⟨rfl, rfl⟩)
      · exact Or.inr (Or.inr ⟨rfl, rfl⟩)

theorem withJoined_safe_iff (h : r.Safe) (j : JoinRequest) (cs : List Channel) (ch : Option Nat) :
    (r.withJoined s j cs ch).Safe ↔ ∀ c ∈ cs, ∀ i, c.Holds i → r.Live i := by
  have hmutual : Mutual r.peer := h.symmetric
  rw [safe_iff, withJoined_peer, and_iff_left hmutual]
  simp only [withJoined_live]
  exact Iff.rfl

theorem withJoined_safe (h : r.Safe) (j : JoinRequest) (ch : Option Nat) :
    (r.withJoined s j r.channels ch).Safe :=
  (withJoined_safe_iff h j r.channels ch).mpr h.slots

/-- **A join** keeps the references safe exactly if the session and its new peer may be paired. -/
theorem join_safe_iff (h : r.Safe) (ha : r.session s = some a) :
    (r.join config s payload).1.Safe ↔ r.JoinOk s payload := by
  unfold JoinOk
  obtain ⟨hparse, heq⟩ | ⟨j, hparse, hcases⟩ := join_cases config r s payload
  · rw [heq, hparse]
    refine ⟨fun _ j k c p hj => ?_, fun _ => h⟩
    cases hj
  obtain ⟨k, hk, heq⟩ | ⟨hk, heq⟩ | ⟨hk, heq⟩ := hcases
  · obtain ⟨hlt, -⟩ := List.findIdx?_eq_some_iff_getElem.mp hk
    have hc : r.channels[k]? = some r.channels[k] := List.getElem?_eq_getElem hlt
    rw [heq, channelRegister_safe_iff (withJoined_safe h j (some k)) hc
      (withJoined_session ha j _ _)]
    unfold PairOk
    rw [withJoined_peer]
    constructor
    · intro hok j' k' c p hj' hk' hc' hp
      rw [hparse] at hj'
      obtain rfl := Option.some.inj hj'
      rw [hk] at hk'
      obtain rfl := Option.some.inj hk'
      rw [hc] at hc'
      obtain rfl := Option.some.inj hc'
      exact hok p hp
    · intro hok p hp
      exact hok j k _ p hparse hk hc hp
  -- the channel table is full
  · rw [heq]
    refine ⟨fun _ j' k' c p hj' hk' => ?_, fun _ => withJoined_safe h j none⟩
    rw [hparse] at hj'
    obtain rfl := Option.some.inj hj'
    rw [hk] at hk'
    cases hk'
  -- nobody is in a new channel
  · have hsafe : (r.withJoined s j (r.channels ++ [channelCreate j.channelName])
        (some r.channels.length)).Safe := by
      refine (withJoined_safe_iff h j _ _).mpr fun c hc i hi => ?_
      obtain hc | hc := List.mem_append.mp hc
      · exact h.slots c hc i hi
      · obtain rfl := List.mem_singleton.mp hc
        obtain hi | hi := hi <;> cases hi
    have hc : (r.channels ++ [channelCreate j.channelName])[r.channels.length]? =
        some (channelCreate j.channelName) := List.getElem?_concat_length
    rw [heq, channelRegister_safe_iff hsafe hc (withJoined_session ha j _ _)]
    constructor
    · intro _ j' k' c p hj' hk'
      rw [hparse] at hj'
      obtain rfl := Option.some.inj hj'
      rw [hk] at hk'
      cases hk'
    · intro _ p hp
      obtain hp | hp := Channel.holds_of_opposite hp <;> cases hp

/-! ### Leaving -/

/-- No channel but that of the thread refers to the session, and a thread without a channel serves a
session without a peer, or one that is its own peer. -/
def LeaveOk (r : Server) (s : Nat) (a : Session) : Prop :=
  (∀ k c, r.channels[k]? = some c → c.Holds s → a.ch = some k) ∧
    (a.ch = none → a.peer = none ∨ a.peer = some s)

/-- The channel of the thread that serves session `i`. -/
def channelOf (r : Server) (i : Nat) : Option Nat := (r.session i).bind Session.ch

def ChannelsKnown (r : Server) : Prop := ∀ i k, r.channelOf i = some k → k < r.channels.length

/-- **The end of a thread** keeps the references safe exactly if nothing but what it takes back
refers to the session. -/
theorem done_safe_iff (h : r.Safe) (hknown : r.ChannelsKnown) (ha : r.session s = some a) :
    (r.done s a).Safe ↔ r.LeaveOk s a := by
  unfold done LeaveOk
  cases hch : a.ch with
  | some k =>
    have hk : k < r.channels.length := by
      apply hknown s
      unfold channelOf
      rw [ha]
      exact hch
    dsimp only
    rw [unregistered_safe_iff h (List.getElem?_eq_getElem hk) ha]
    constructor
    · intro honly
      refine ⟨fun i c hi hc => ?_, fun hnone => ?_⟩
      · rw [honly i c hi hc]
      · cases hnone
    · rintro ⟨honly, -⟩ i c hi hc
      exact (Option.some.inj (honly i c hi hc)).symm
  | none =>
    -- a session without a channel leaves its peer as it is
    have hpeer : r.peer s = a.peer := by
      unfold peer
      rw [ha]
      rfl
    dsimp only
    rw [sessionDestroy_safe_iff h]
    unfold RefersWithin
    rw [hpeer]
    constructor
    · rintro ⟨hslots, hself⟩
      refine ⟨fun k c hk hc => absurd hc (hslots c (List.mem_of_getElem? hk)), fun _ => ?_⟩
      cases hp : a.peer with
      | none => exact Or.inl rfl
      | some p =>
        right
        rw [(hself p hp).elim id id]
    · rintro ⟨hslots, hself⟩
      constructor
      · intro c hc hs
        obtain ⟨k, hk⟩ := List.mem_iff_getElem?.mp hc
        cases hslots k c hk hs
      · intro j hj
        obtain hnone | hs := hself rfl
        · rw [hnone] at hj
          cases hj
        · rw [hs] at hj
          exact Or.inl (Option.some.inj hj).symm

/-! ### The channels of the threads -/

theorem channelOf_sessionSetPeer (s : Nat) (q : Option Nat) (i : Nat) :
    (r.sessionSetPeer s q).channelOf i = r.channelOf i := by
  unfold channelOf sessionSetPeer
  apply bind_modifySession
  intro a
  rfl

theorem channelOf_sessionSetJoined (s : Nat) (j : JoinRequest) (i : Nat) :
    (r.sessionSetJoined s j).channelOf i = r.channelOf i := by
  unfold channelOf sessionSetJoined
  apply bind_modifySession
  intro a
  rfl

theorem channelOf_channelRegister (k s i : Nat) :
    (r.channelRegister k s).channelOf i = r.channelOf i := by
  unfold channelRegister
  split
  · dsimp only
    split
    · rw [channelOf_sessionSetPeer, channelOf_sessionSetPeer]
      rfl
    · rfl
  · rfl

theorem length_channelRegister (k s : Nat) :
    (r.channelRegister k s).channels.length = r.channels.length := by
  unfold channelRegister
  split
  · dsimp only
    split
    · exact List.length_set
    · exact List.length_set
  · rfl

theorem channelOf_channelUnregister (k s i : Nat) :
    (r.channelUnregister k s).channelOf i = r.channelOf i := by
  unfold channelUnregister
  split
  · dsimp only
    split
    · rw [channelOf_sessionSetPeer, channelOf_sessionSetPeer]
      rfl
    · rfl
  · rfl

theorem length_channelUnregister (k s : Nat) :
    (r.channelUnregister k s).channels.length = r.channels.length := by
  unfold channelUnregister
  split
  · dsimp only
    split
    · exact List.length_set
    · exact List.length_set
  · rfl

theorem ChannelsKnown.congr {r' : Server} (h : r.ChannelsKnown)
    (hch : ∀ i, r'.channelOf i = r.channelOf i) (hlen : r'.channels.length = r.channels.length) :
    r'.ChannelsKnown := by
  intro i k hi
  rw [hch] at hi
  rw [hlen]
  exact h i k hi

theorem ChannelsKnown.sessionDestroy (h : r.ChannelsKnown) (s : Nat) :
    (r.sessionDestroy s).ChannelsKnown := by
  intro i k hi
  apply h i k
  unfold channelOf at hi ⊢
  rw [session_sessionDestroy] at hi
  split_ifs at hi
  · cases hi
  · exact hi

theorem ChannelsKnown.sessionCreate (h : r.ChannelsKnown) : r.sessionCreate.ChannelsKnown := by
  intro i k hi
  apply h i k
  unfold channelOf at hi ⊢
  obtain heq | ⟨-, a, ha, -, hch⟩ := session_sessionCreate (r := r) i
  · rw [← heq]
    exact hi
  · rw [ha, Option.bind_some, hch] at hi
    cases hi

theorem ChannelsKnown.withJoined (h : r.ChannelsKnown) (j : JoinRequest) {cs : List Channel}
    {ch : Option Nat} (hlen : r.channels.length ≤ cs.length)
    (hch : ∀ k, ch = some k → k < cs.length) :
    (r.withJoined s j cs ch).ChannelsKnown := by
  intro i k hi
  show k < cs.length
  unfold channelOf Server.withJoined at hi
  rw [session_modifySession] at hi
  split_ifs at hi with hsi
  · obtain ⟨b, hb, hbk⟩ := Option.bind_eq_some_iff.mp hi
    obtain ⟨b', -, rfl⟩ := Option.map_eq_some_iff.mp hb
    exact hch k hbk
  · have hold : r.channelOf i = some k := by
      rw [← hi]
      exact (channelOf_sessionSetJoined s j i).symm
    exact Nat.lt_of_lt_of_le (h i k hold) hlen

theorem ChannelsKnown.join (h : r.ChannelsKnown) (config : ServerConfig) (s : Nat)
    (payload : List UInt8) : (r.join config s payload).1.ChannelsKnown := by
  obtain ⟨-, heq⟩ | ⟨j, -, ⟨k, hk, heq⟩ | ⟨-, heq⟩ | ⟨-, heq⟩⟩ := join_cases config r s payload
  · rw [heq]
    exact h
  · obtain ⟨hlt, -⟩ := List.findIdx?_eq_some_iff_getElem.mp hk
    rw [heq]
    refine ChannelsKnown.congr ?_ (channelOf_channelRegister k s) (length_channelRegister k s)
    refine h.withJoined j (Nat.le_refl _) fun k' hk' => ?_
    obtain rfl := Option.some.inj hk'
    exact hlt
  · rw [heq]
    refine h.withJoined j (Nat.le_refl _) fun k' hk' => ?_
    cases hk'
  · rw [heq]
    refine ChannelsKnown.congr ?_ (channelOf_channelRegister _ s) (length_channelRegister _ s)
    refine h.withJoined j ?_ fun k' hk' => ?_
    · rw [List.length_append]
      exact Nat.le_add_right _ _
    · obtain rfl := Option.some.inj hk'
      rw [List.length_append]
      exact Nat.lt_add_one _

theorem ChannelsKnown.done (h : r.ChannelsKnown) (s : Nat) (a : Session) :
    (r.done s a).ChannelsKnown := by
  unfold Server.done
  split
  · apply ChannelsKnown.sessionDestroy
    exact h.congr (channelOf_channelUnregister _ s) (length_channelUnregister _ s)
  · exact h.sessionDestroy s

/-! ### Events -/

/-- The condition on an event of a session that has not been destroyed: a join pairs no session that
has another peer, and a session that ends is referred to only from where it is taken back. -/
def EventOk (r : Server) : Event → Prop
  | .connect => True
  | .frame s stream payload => ∀ a, r.session s = some a →
    (EndsLoop payload → r.LeaveOk s a) ∧
    (¬ EndsLoop payload → stream = streamSignaling → isJoinChannel payload → r.JoinOk s payload)
  | .disconnect s => ∀ a, r.session s = some a → r.LeaveOk s a

theorem frame_eq_of_not_join {stream : UInt8}
    (h : ¬ (stream = streamSignaling ∧ isJoinChannel payload = true)) :
    (r.frame config s a stream payload).1 = r := by
  unfold frame
  split_ifs with hstream hjoin
  · exact absurd ⟨hstream, hjoin⟩ h
  · rfl
  · rfl
  · rfl
  · rfl

theorem frame_eq_of_join {stream : UInt8} (hstream : stream = streamSignaling)
    (hjoin : isJoinChannel payload = true) :
    r.frame config s a stream payload = r.join config s payload := by
  unfold frame
  rw [if_pos hstream, if_pos hjoin]

/-- **One event** keeps the references safe exactly if it meets its condition. -/
theorem step_safe_iff (h : r.Safe) (hknown : r.ChannelsKnown) (e : Event) :
    (r.step config e).Safe ↔ r.EventOk e := by
  unfold step handle EventOk
  cases e with
  | connect => exact ⟨fun _ => trivial, fun _ => h.sessionCreate⟩
  | frame s stream payload =>
    dsimp only
    cases ha : r.session s with
    | none =>
      refine ⟨fun _ a hsome => ?_, fun _ => h⟩
      cases hsome
    | some a =>
      dsimp only
      by_cases hend : EndsLoop payload
      · rw [if_pos hend, done_safe_iff h hknown ha]
        constructor
        · intro hleave b hb
          obtain rfl := Option.some.inj hb
          exact ⟨fun _ => hleave, fun hnot => absurd hend hnot⟩
        · intro hok
          exact (hok a rfl).1 hend
      · rw [if_neg hend]
        -- of the frames, only a join that is answered changes a reference
        by_cases hjoin : stream = streamSignaling ∧ isJoinChannel payload = true
        · rw [frame_eq_of_join hjoin.1 hjoin.2, join_safe_iff h ha]
          constructor
          · intro hok b _
            exact ⟨fun hnot => absurd hnot hend, fun _ _ _ => hok⟩
          · intro hok
            exact (hok a rfl).2 hend hjoin.1 hjoin.2
        · rw [frame_eq_of_not_join hjoin]
          refine ⟨fun _ b _ => ⟨fun hnot => absurd hnot hend, fun _ hs hj => ?_⟩, fun _ => h⟩
          exact absurd ⟨hs, hj⟩ hjoin
  | disconnect s =>
    dsimp only
    cases ha : r.session s with
    | none =>
      refine ⟨fun _ a hsome => ?_, fun _ => h⟩
      cases hsome
    | some a =>
      dsimp only
      rw [done_safe_iff h hknown ha]
      constructor
      · intro hleave b hb
        obtain rfl := Option.some.inj hb
        exact hleave
      · intro hok
        exact hok a rfl

theorem ChannelsKnown.step (h : r.ChannelsKnown) (config : ServerConfig) (e : Event) :
    (r.step config e).ChannelsKnown := by
  unfold Server.step handle
  cases e with
  | connect => exact h.sessionCreate
  | frame s stream payload =>
    dsimp only
    split
    · exact h
    · split_ifs
      · exact h.done s _
      · by_cases hjoin : stream = streamSignaling ∧ isJoinChannel payload = true
        · rw [frame_eq_of_join hjoin.1 hjoin.2]
          exact h.join config s payload
        · rw [frame_eq_of_not_join hjoin]
          exact h
  | disconnect s =>
    dsimp only
    split
    · exact h
    · exact h.done s _

theorem initial_channelsKnown : initial.ChannelsKnown := by
  intro i k hi
  cases hi

/-- **Relay session safety**: along a run of the server, no slot and no peer ever refers to a
session that has been destroyed, and peers refer to each other, if and only if every event meets its
condition. -/
theorem relay_safe_iff (config : ServerConfig) (events : List Event) :
    Along (step config) Safe initial events ↔ AllSteps (step config) EventOk initial events :=
  along_iff_allSteps (I := ChannelsKnown) (fun _ e h => h.step config e)
    (fun _ e hknown h => step_safe_iff h hknown e) initial_channelsKnown initial_safe events

/-- A `JOIN_CHANNEL` message. -/
def joinMessage (channel client role : String) : List UInt8 :=
  bytesOf "\x7b\"messageType\":\"JOIN_CHANNEL\",\"channelName\":\"" ++ bytesOf channel ++
    bytesOf "\",\"clientId\":\"" ++ bytesOf client ++ bytesOf "\",\"role\":\"" ++ bytesOf role ++
    bytesOf "\"\x7d"

def noServers : ServerConfig where
  stunUri := none
  turnUri := none
  turnUsername := none
  turnPassword := none

/-- A master joins two channels and leaves: the first one still refers to it. -/
def twoChannels : List Event :=
  [.connect, .frame 0 streamSignaling (joinMessage "a" "x" "master"),
    .frame 0 streamSignaling (joinMessage "b" "x" "master"), .disconnect 0]

theorem rejoined_channel_dangles :
    ¬ ∀ (config : ServerConfig) (events : List Event), Along (step config) Safe initial events := by
  intro h
  have hsafe := (h noServers twoChannels).last
  have hmaster : (twoChannels.foldl (step noServers) initial).channels.map Channel.master =
      [some 0, none] := by
    decide +kernel
  have hdead : ((twoChannels.foldl (step noServers) initial).session 0).isSome = false := by
    decide +kernel
  obtain ⟨c, hc, hc0⟩ := List.mem_map.mp (hmaster ▸ List.mem_cons_self)
  obtain ⟨a, ha⟩ := hsafe.slots c hc 0 (Or.inl hc0)
  rw [ha] at hdead
  cases hdead

end Server

end KvsWebrtc.Relay
