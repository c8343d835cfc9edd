import KvsWebrtc.Common.Run
import KvsWebrtc.Relay.Equiv.Server

/-!
# Whom the relay delivers to

The recipient of a frame is the occupant of a slot of the channel that the sender's thread joined
last: the viewer if the sender is in the master slot, the master otherwise.  Neither the recipient
that a signaling message names nor whether the sender is still in its slot is looked at.  `Isolated`
says that a frame only reaches the occupant of the slot opposite to the sender's own, and a
signaling message only the client it names; `relay_isolated_iff` says for which runs that is so.
-/

namespace KvsWebrtc.Relay

/-! ### Lengths -/

theorem length_le_of_strstr {needle b p : List UInt8} (h : strstr needle b = some p) :
    p.length ≤ b.length := by
  induction b with
  | nil => cases h
  | cons c rest ih =>
    rw [strstr] at h
    split_ifs at h
    · obtain rfl := Option.some.inj h
      exact Nat.le_refl _
    · exact Nat.le_succ_of_le (ih h)

theorem length_lt_of_quotedValue {b v : List UInt8} (h : quotedValue b = some v) :
    v.length < b.length := by
  fun_induction quotedValue b generalizing v with
  | case1 => cases h
  | case2 rest =>
    obtain rfl := Option.some.inj h
    exact Nat.succ_pos _
  | case3 => cases h
  | case4 hquote d rest ih =>
    obtain ⟨w, hw, rfl⟩ := Option.map_eq_some_iff.mp h
    have hlen := ih hw
    simp only [List.length_cons]
    omega
  | case5 c rest hquote hback ih =>
    obtain ⟨w, hw, rfl⟩ := Option.map_eq_some_iff.mp h
    have hlen := ih hw
    simp only [List.length_cons]
    omega

theorem length_le_of_findValueAfterKey {json v : List UInt8} {key : String}
    (h : findValueAfterKey json key = some v) : v.length ≤ json.length := by
  unfold findValueAfterKey at h
  dsimp only at h
  split at h
  · cases h
  · rename_i p hp
    have hplen := length_le_of_strstr hp
    split at h
    · cases h
    · rename_i c rest hrest
      split_ifs at h
      have hv := length_lt_of_quotedValue h
      have hsuffix := hrest ▸ (List.dropWhile_sublist isSeparator).length_le
      rw [List.length_cons, List.length_drop] at hsuffix
      omega

theorem length_lt_of_findJsonString {json v : List UInt8} {key : String} {n : Nat}
    (h : findJsonString json key n = some v) : v.length < n := by
  unfold findJsonString at h
  split at h
  · cases h
  · split_ifs at h with hlen
    obtain rfl := Option.some.inj h
    exact Nat.lt_of_not_le hlen

theorem length_cString_le (b : List UInt8) : (cString b).length ≤ b.length :=
  (List.takeWhile_sublist _).length_le

def forwardedText (senderId : List UInt8) (m : ForwardRequest) : List UInt8 :=
  bytesOf "\x7b\"senderClientId\":\"" ++ cString senderId ++
    bytesOf "\",\"messageType\":\"" ++ cString m.messageType ++
    bytesOf "\",\"messagePayload\":\"" ++ cString m.payload ++ bytesOf "\"\x7d"

theorem length_forwardedText (senderId : List UInt8) (m : ForwardRequest) :
    (forwardedText senderId m).length =
      58 + (cString senderId).length + (cString m.messageType).length +
        (cString m.payload).length := by
  have htexts : (bytesOf "\x7b\"senderClientId\":\"").length = 19 ∧
      (bytesOf "\",\"messageType\":\"").length = 17 ∧
      (bytesOf "\",\"messagePayload\":\"").length = 20 ∧ (bytesOf "\"\x7d").length = 2 := by
    decide +kernel
  unfold forwardedText
  simp only [List.length_append, htexts]
  omega

theorem protocolParseForward_lengths {payload : List UInt8} {m : ForwardRequest}
    (h : protocolParseForward payload = some m) :
    m.messageType.length < 64 ∧ m.payload.length ≤ payload.length := by
  unfold protocolParseForward at h
  obtain ⟨t, ht, h⟩ := Option.bind_eq_some_iff.mp h
  obtain ⟨i, -, h⟩ := Option.bind_eq_some_iff.mp h
  obtain ⟨p, hp, h⟩ := Option.bind_eq_some_iff.mp h
  obtain rfl := Option.some.inj h
  exact ⟨length_lt_of_findJsonString ht, length_le_of_findValueAfterKey hp⟩

/-- What a frame that the server accepts asks it to forward fits into the server's buffer. -/
theorem protocolBuildForwarded_fits (a : Session) {payload : List UInt8} {m : ForwardRequest}
    (hend : ¬ EndsLoop payload) (h : protocolParseForward payload = some m) :
    protocolBuildForwarded a.clientId m (maxSignalingMsg + 1024) =
      some (forwardedText a.clientId m) := by
  obtain ⟨htype, hpayload⟩ := protocolParseForward_lengths h
  have hlen := length_forwardedText a.clientId m
  have hid := length_cString_le a.clientId
  have hid' := a.clientId_le
  have htype' := length_cString_le m.messageType
  have hpayload' := length_cString_le m.payload
  unfold EndsLoop maxPayload at hend
  unfold maxClientId at hid'
  unfold maxSignalingMsg at hend ⊢
  unfold protocolBuildForwarded emit
  rw [← forwardedText, if_pos]
  · rfl
  · rw [List.length_nil]
    omega

/-! ### The recipient -/

/-- The server is asked to forward the frame: it is a media frame, or a signaling message other than
`JOIN_CHANNEL` with all fields. -/
def ToForward (stream : UInt8) (payload : List UInt8) : Prop :=
  stream = streamAudio ∨ stream = streamVideo ∨
    stream = streamSignaling ∧ isJoinChannel payload = false ∧
      ∃ m, protocolParseForward payload = some m

namespace Channel

variable {c : Channel} {role : List UInt8} {s : Nat}

def slot (c : Channel) (role : List UInt8) : Option Nat :=
  if role = roleMaster then c.master else c.viewer

/-- A session that is in its slot gets the occupant of the other one for a peer. -/
theorem channelGetPeer_of_slot (h : c.slot role = some s) :
    c.channelGetPeer s = c.opposite role := by
  unfold slot at h
  unfold channelGetPeer opposite
  by_cases hrole : role = roleMaster
  · rw [if_pos hrole] at h ⊢
    exact if_pos h
  · rw [if_neg hrole] at h ⊢
    split_ifs with hmaster
    · rw [h, hmaster]
    · rfl

end Channel

namespace Server

variable {config : ServerConfig} {r : Server} {s : Nat} {a : Session} {stream : UInt8}
  {payload : List UInt8}

/-- What is sent for a frame of session `a` that is one to forward. -/
def forwardedFrame (a : Session) (stream : UInt8) (payload : List UInt8) : List UInt8 :=
  if stream = streamSignaling then
    match protocolParseForward payload with
    | some m => forwardedText a.clientId m
    | none => []
  else payload

/-- A joined session's frame is sent to the session's peer, if it is one to forward. -/
theorem frame_sent (hend : ¬ EndsLoop payload) (hjoined : a.joined = true)
    (hfwd : ToForward stream payload) :
    (r.frame config s a stream payload).2 =
      match r.peerOf s a with
      | none => []
      | some p =>
        [{ target := p, stream := stream, payload := forwardedFrame a stream payload }] := by
  unfold frame forwardedFrame
  obtain hmedia | hmedia | ⟨hsig, hjoin, m, hm⟩ := hfwd
  · have hne : stream ≠ streamSignaling := by
      rw [hmedia]
      decide
    rw [if_neg hne, if_pos ⟨Or.inl hmedia, hjoined⟩, if_neg hne]
    rfl
  · have hne : stream ≠ streamSignaling := by
      rw [hmedia]
      decide
    rw [if_neg hne, if_pos ⟨Or.inr hmedia, hjoined⟩, if_neg hne]
    rfl
  · rw [if_pos hsig, if_neg (by rw [hjoin]; decide), if_pos hjoined, if_pos hsig, hm]
    dsimp only
    unfold forwardSignaling
    rw [hm]
    dsimp only
    rewrite [protocolBuildForwarded_fits a hend hm, hsig]
    rfl

/-- Nothing else is sent, but the response to a join. -/
theorem frame_not_sent (hfwd : ¬ (a.joined = true ∧ ToForward stream payload))
    (hjoin : ¬ (stream = streamSignaling ∧ isJoinChannel payload = true)) :
    (r.frame config s a stream payload).2 = [] := by
  unfold frame
  split_ifs with hsig hj hjoined hmedia
  · exact absurd ⟨hsig, hj⟩ hjoin
  · unfold forwardSignaling
    cases hm : protocolParseForward payload with
    | none => rfl
    | some m => exact absurd ⟨hjoined, Or.inr (Or.inr ⟨hsig, by simpa using hj, m, hm⟩)⟩ hfwd
  · rfl
  · exact absurd ⟨hmedia.2, hmedia.1.elim Or.inl fun h => Or.inr (Or.inl h)⟩ hfwd
  · rfl

theorem join_sent {x : Sent} (h : x ∈ (r.join config s payload).2) :
    x.target = s ∧ x.stream = streamSignaling ∧ joinResponse config = some x.payload := by
  obtain ⟨response, hresponse⟩ := joinResponse_fits config
  unfold join at h
  rw [hresponse] at h ⊢
  split at h
  · cases h
  · have hx : x ∈ [({ target := s, stream := streamSignaling, payload := response } : Sent)] := by
      dsimp only at h
      split at h
      · exact h
      · exact h
    obtain rfl := List.mem_singleton.mp hx
    exact ⟨rfl, rfl, rfl⟩

/-- The client `b` is the one that the message names, if the frame is a signaling message. -/
def Names (stream : UInt8) (payload : List UInt8) (b : Session) : Prop :=
  stream = streamSignaling → ∀ m, protocolParseForward payload = some m →
    cString m.recipientId = b.clientId

/-- A frame of session `s` other than a join goes to one session at most.  That session exists and
is in the slot opposite to that of the sender, who is in its own, and it is the one that a signaling
message names. -/
def Isolated (config : ServerConfig) (r : Server) : Event → Prop
  | .frame s stream payload => ∀ a, r.session s = some a → a.joined = true → ¬ EndsLoop payload →
    ¬ (stream = streamSignaling ∧ isJoinChannel payload = true) →
    (r.handle config (.frame s stream payload)).2.length ≤ 1 ∧
    ∀ x ∈ (r.handle config (.frame s stream payload)).2, ∃ k c b, a.ch = some k ∧
      r.channels[k]? = some c ∧ c.slot a.role = some s ∧ c.opposite a.role = some x.target ∧
      r.session x.target = some b ∧ Names stream payload b
  | _ => True

/-- The condition on a frame to be forwarded: if its sender is in its slot, whoever is in the other
one exists and is named; if the sender is not, the slot that the frame goes to is empty. -/
def RouteOk (r : Server) : Event → Prop
  | .frame s stream payload => ∀ a k c, r.session s = some a → a.joined = true →
    ¬ EndsLoop payload → ToForward stream payload → a.ch = some k → r.channels[k]? = some c →
    (c.slot a.role = some s → ∀ p, c.opposite a.role = some p →
      ∃ b, r.session p = some b ∧ Names stream payload b) ∧
    (c.slot a.role ≠ some s → if c.master = some s then c.viewer = none else c.master = none)
  | _ => True

theorem not_join_of_toForward (h : ToForward stream payload) :
    ¬ (stream = streamSignaling ∧ isJoinChannel payload = true) := by
  rintro ⟨hsig, hjoin⟩
  obtain h | h | ⟨-, hnot, -⟩ := h
  · rw [hsig] at h
    exact absurd h (by decide)
  · rw [hsig] at h
    exact absurd h (by decide)
  · rw [hjoin] at hnot
    cases hnot

theorem handle_frame (ha : r.session s = some a) (hend : ¬ EndsLoop payload) :
    r.handle config (.frame s stream payload) = r.frame config s a stream payload := by
  unfold handle
  dsimp only
  rw [ha]
  dsimp only
  rw [if_neg hend]

/-- **One event**: a frame is isolated exactly if it meets its condition. -/
theorem isolated_iff (config : ServerConfig) (r : Server) (e : Event) :
    r.Isolated config e ↔ r.RouteOk e := by
  cases e with
  | connect => exact Iff.rfl
  | disconnect s => exact Iff.rfl
  | frame s stream payload =>
    unfold Isolated RouteOk
    constructor
    · intro h a k c ha hjoined hend hfwd hk hc
      have hsent := @frame_sent config r s a stream payload hend hjoined hfwd
      have hout := (h a ha hjoined hend (not_join_of_toForward hfwd)).2
      rw [handle_frame ha hend, hsent] at hout
      have hpeer : r.peerOf s a = c.channelGetPeer s := by
        unfold peerOf
        rw [hk]
        dsimp only
        rw [hc]
      rw [hpeer] at hout
      constructor
      · intro hslot p hp
        rw [Channel.channelGetPeer_of_slot hslot, hp] at hout
        obtain ⟨k', c', b, -, -, -, -, hb, hnames⟩ := hout _ List.mem_cons_self
        exact ⟨b, hb, hnames⟩
      · intro hslot
        have hnone : c.channelGetPeer s = none := by
          -- otherwise the frame goes out although its sender is not in its slot
          by_contra hne
          obtain ⟨p, hp⟩ := Option.ne_none_iff_exists'.mp hne
          rw [hp] at hout
          obtain ⟨k', c', b, hk', hc', hslot', -⟩ := hout _ List.mem_cons_self
          rw [hk] at hk'
          obtain rfl := Option.some.inj hk'
          rw [hc] at hc'
          obtain rfl := Option.some.inj hc'
          exact hslot hslot'
        unfold Channel.channelGetPeer at hnone
        split_ifs at hnone ⊢
        · exact hnone
        · exact hnone
    · intro h a ha hjoined hend hjoin
      rw [handle_frame ha hend]
      by_cases hfwd : ToForward stream payload
      · rw [frame_sent hend hjoined hfwd]
        cases hpeer : r.peerOf s a with
        | none => exact ⟨Nat.zero_le _, fun x hx => by cases hx⟩
        | some p =>
          refine ⟨Nat.le_refl _, fun x hx => ?_⟩
          obtain rfl := List.mem_singleton.mp hx
          unfold peerOf at hpeer
          cases hk : a.ch with
          | none =>
            rw [hk] at hpeer
            cases hpeer
          | some k =>
            rw [hk] at hpeer
            dsimp only at hpeer
            cases hc : r.channels[k]? with
            | none =>
              rw [hc] at hpeer
              cases hpeer
            | some c =>
              rw [hc] at hpeer
              dsimp only at hpeer
              obtain ⟨hin, hout⟩ := h a k c ha hjoined hend hfwd hk hc
              by_cases hslot : c.slot a.role = some s
              · have hopp : c.opposite a.role = some p := by
                  rw [← Channel.channelGetPeer_of_slot hslot]
                  exact hpeer
                obtain ⟨b, hb, hnames⟩ := hin hslot p hopp
                exact ⟨k, c, b, rfl, hc, hslot, hopp, hb, hnames⟩
              · have hnone := hout hslot
                unfold Channel.channelGetPeer at hpeer
                split_ifs at hnone hpeer
                · rw [hnone] at hpeer
                  cases hpeer
                · rw [hnone] at hpeer
                  cases hpeer
      · rw [frame_not_sent (fun h => hfwd h.2) hjoin]
        exact ⟨Nat.zero_le _, fun x hx => by cases hx⟩

/-- **Relay isolation**: along a run of the server every frame is isolated if and only if every
frame to be forwarded meets its condition. -/
theorem relay_isolated_iff (config : ServerConfig) (events : List Event) :
    AllSteps (step config) (Isolated config) initial events ↔
      AllSteps (step config) RouteOk initial events :=
  allSteps_congr (I := fun _ => True) (fun r e _ => isolated_iff config r e)
  (fun _ _ _ _ => trivial)
    trivial events

def signalingMessage (action recipient payload : String) : List UInt8 :=
  bytesOf "\x7b\"action\":\"" ++ bytesOf action ++ bytesOf "\",\"RecipientClientId\":\"" ++
    bytesOf recipient ++ bytesOf "\",\"MessagePayload\":\"" ++ bytesOf payload ++ bytesOf "\"\x7d"

def masterAndViewer : List Event :=
  [.connect, .connect, .frame 0 streamSignaling (joinMessage "a" "x" "master"),
    .frame 1 streamSignaling (joinMessage "a" "y" "viewer")]

/-- The viewer's message to client `z` goes to the master, client `x`. -/
theorem misrouted_message :
    ¬ ∀ (config : ServerConfig) (events : List Event),
      AllSteps (step config) (Isolated config) initial events := by
  intro h
  have hrun := h noServers (masterAndViewer ++
    [.frame 1 streamSignaling (signalingMessage "SDP_OFFER" "z" "AAAA")])
  rw [allSteps_append] at hrun
  have hlast := hrun.2.1
  have hsender : ((masterAndViewer.foldl (step noServers) initial).session 1).map Session.joined =
      some true := by
    decide +kernel
  have hsent : ((masterAndViewer.foldl (step noServers) initial).handle noServers
      (.frame 1 streamSignaling (signalingMessage "SDP_OFFER" "z" "AAAA"))).2.map Sent.target =
      [0] := by
    decide +kernel
  have hclient : ((masterAndViewer.foldl (step noServers) initial).session 0).map Session.clientId =
      some (bytesOf "x") := by
    decide +kernel
  have hnamed : (protocolParseForward (signalingMessage "SDP_OFFER" "z" "AAAA")).map
      ForwardRequest.recipientId = some (bytesOf "z") := by
    decide +kernel
  obtain ⟨a, ha, hjoined⟩ := Option.map_eq_some_iff.mp hsender
  obtain ⟨m, hm, hrecipient⟩ := Option.map_eq_some_iff.mp hnamed
  obtain ⟨x, hx, htarget⟩ := List.mem_map.mp (hsent ▸ List.mem_cons_self)
  obtain ⟨k, c, b, -, -, -, -, hb, hnames⟩ :=
    (hlast a ha hjoined (by decide +kernel) (by decide +kernel)).2 x hx
  rw [htarget] at hb
  rw [hb] at hclient
  have heq := hnames rfl m hm
  rw [hrecipient, Option.some.inj hclient] at heq
  exact absurd heq (by decide +kernel)

end Server

end KvsWebrtc.Relay
