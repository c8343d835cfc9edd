import KvsWebrtc.Relay.Equiv.Routing
import KvsWebrtc.Relay.Transport

/-!
# Frames stay in step

A receiver that reads every payload it finds a header for reads the frames that were sent, however
they arrive (`frameLoop_eq_iff`).  The server does so unless a frame is empty or longer than its
buffer, and the client unless a signaling message is longer than its buffer; then it takes the
payload for headers.  `frames_in_step_iff` puts the two together.
-/

namespace KvsWebrtc.Relay

/-! ### Headers -/

theorem length_frameHeader (stream : UInt8) (len : Nat) :
    (frameHeader stream len).length = frameHeaderSize := rfl

theorem headerLen_frameHeader (stream : UInt8) {len : Nat} (h : len < 2 ^ 32) :
    headerLen (frameHeader stream len) = len := by
  unfold headerLen frameHeader
  simp only [List.getD_cons_succ, List.getD_cons_zero, UInt8.toNat_ofNat']
  omega

/-! ### The loop of a receiver -/

variable {after : UInt8 → Nat → AfterHeader} {frames : List (UInt8 × List UInt8)}

def wire (frames : List (UInt8 × List UInt8)) : List UInt8 :=
  frames.flatMap fun f => sendFrame f.1 f.2

def ReadsAll (after : UInt8 → Nat → AfterHeader) (f : UInt8 × List UInt8) : Prop :=
  after f.1 f.2.length = .readPayload ∨ after f.1 f.2.length = .nextHeader ∧ f.2 = []

theorem length_le_length_wire (frames : List (UInt8 × List UInt8)) :
    frames.length ≤ (wire frames).length := by
  induction frames with
  | nil => exact Nat.le_refl _
  | cons f frames ih =>
    have hwire : wire (f :: frames) = sendFrame f.1 f.2 ++ wire frames := rfl
    rw [hwire, List.length_append, List.length_cons]
    have hhead : frameHeaderSize ≤ (sendFrame f.1 f.2).length := by
      unfold sendFrame
      rw [List.length_append, length_frameHeader]
      exact Nat.le_add_right _ _
    unfold frameHeaderSize at hhead
    omega

theorem cons_reads_eq_iff {β γ : Type} {x y : β} {l : List β} {c : γ} {reads : List β × γ} :
    (x :: reads.1, reads.2) = (y :: l, c) ↔ x = y ∧ reads = (l, c) := by
  rw [Prod.ext_iff, Prod.ext_iff, List.cons.injEq]
  exact and_assoc

/-- **A receiver is in step** exactly if it reads all of every frame. -/
theorem frameLoop_eq_iff (hlen : ∀ f ∈ frames, f.2.length < 2 ^ 32) {fuel : Nat}
    (hfuel : frames.length < fuel) {chunks : List (List UInt8)}
    (hchunks : IsChunking chunks (wire frames)) :
    frameLoop after fuel chunks = (frames, []) ↔ ∀ f ∈ frames, ReadsAll after f := by
  induction frames generalizing fuel chunks with
  | nil =>
    obtain rfl := hchunks.eq_nil
    cases fuel with
    | zero => exact ⟨fun _ f hf => (by cases hf), fun _ => rfl⟩
    | succ fuel => exact ⟨fun _ f hf => (by cases hf), fun _ => rfl⟩
  | cons f frames ih =>
    obtain ⟨stream, payload⟩ := f
    obtain ⟨fuel, rfl⟩ : ∃ n, fuel = n + 1 := ⟨fuel - 1, by omega⟩
    have hfuel' : frames.length < fuel := Nat.lt_of_succ_lt_succ hfuel
    have hpayload : payload.length < 2 ^ 32 := hlen _ List.mem_cons_self
    have hframes := fun f hf => hlen f (List.mem_cons_of_mem (stream, payload) hf)
    have hwire : wire ((stream, payload) :: frames) =
        frameHeader stream payload.length ++ (payload ++ wire frames) := by
      show sendFrame stream payload ++ wire frames = _
      rw [sendFrame, List.append_assoc]
    rw [hwire] at hchunks
    -- the header
    obtain ⟨rest, hread, hrest⟩ := hchunks.readExact (n := frameHeaderSize)
      (by rw [List.length_append, length_frameHeader]; exact Nat.le_add_right _ _)
    rw [List.take_left' (length_frameHeader stream payload.length)] at hread
    rw [List.drop_left' (length_frameHeader stream payload.length)] at hrest
    rw [frameLoop, hread]
    dsimp only
    rw [headerLen_frameHeader stream hpayload,
      show (frameHeader stream payload.length).getD 0 0 = stream from rfl]
    rw [List.forall_mem_cons]
    unfold ReadsAll
    dsimp only
    cases after stream payload.length with
    | stop =>
      constructor
      · intro h
        cases congrArg Prod.fst h
      · rintro ⟨h | h, -⟩
        · cases h
        · cases h.1
    | nextHeader =>
      dsimp only
      rw [cons_reads_eq_iff]
      constructor
      · rintro ⟨hhead, htail⟩
        have hnil : payload = [] := (congrArg Prod.snd hhead).symm
        rw [hnil, List.nil_append] at hrest
        exact ⟨Or.inr ⟨rfl, hnil⟩, (ih hframes hfuel' hrest).mp htail⟩
      · rintro ⟨h | ⟨-, hnil⟩, hall⟩
        · cases h
        · rw [hnil, List.nil_append] at hrest
          rw [hnil]
          exact ⟨rfl, (ih hframes hfuel' hrest).mpr hall⟩
    | readPayload =>
      obtain ⟨rest', hread', hrest'⟩ := hrest.readExact (n := payload.length)
        (by rw [List.length_append]; exact Nat.le_add_right _ _)
      rw [List.take_left] at hread'
      rw [List.drop_left] at hrest'
      dsimp only
      rw [hread']
      dsimp only
      rw [cons_reads_eq_iff, ih hframes hfuel' hrest']
      exact ⟨fun h => ⟨Or.inl rfl, h.2⟩, fun h => ⟨rfl, h.2⟩⟩

/-- A receiver is in step however the frames arrive. -/
theorem reads_eq_iff (hlen : ∀ f ∈ frames, f.2.length < 2 ^ 32) :
    (∀ chunks, IsChunking chunks (wire frames) →
      frameLoop after (chunks.flatten.length + 1) chunks = (frames, [])) ↔
    ∀ f ∈ frames, ReadsAll after f := by
  have hfuel : ∀ chunks, IsChunking chunks (wire frames) →
      frames.length < chunks.flatten.length + 1 := by
    intro chunks hchunks
    rw [hchunks.flatten]
    exact Nat.lt_succ_of_le (length_le_length_wire frames)
  constructor
  · intro h
    obtain ⟨chunks, hchunks⟩ := exists_isChunking (wire frames)
    exact (frameLoop_eq_iff hlen (hfuel chunks hchunks) hchunks).mp (h chunks hchunks)
  · intro h chunks hchunks
    exact (frameLoop_eq_iff hlen (hfuel chunks hchunks) hchunks).mpr h

namespace Server

variable {config : ServerConfig} {r : Server} {s p : Nat}

/-! ### What the server sends -/

/-- A signaling message that is forwarded to somebody fits into the buffer of a client once the
sender's name is added. -/
def FitsClient (r : Server) (s : Nat) (stream : UInt8) (payload : List UInt8) : Prop :=
  ∀ a m, r.session s = some a → a.joined = true → stream = streamSignaling →
    isJoinChannel payload = false → protocolParseForward payload = some m → r.peerOf s a ≠ none →
    58 + (cString a.clientId).length + (cString m.messageType).length + (cString m.payload).length ≤
      maxSignalingMsg

/-- The condition on a frame: it is neither empty nor longer than the server's buffer, and it fits
into the buffer of the client it is forwarded to. -/
def FrameOk (r : Server) : Event → Prop
  | .frame s stream payload => ¬ EndsLoop payload ∧ r.FitsClient s stream payload
  | _ => True

theorem length_lt_of_emit {n : Nat} {buf text out : List UInt8} (h : emit n buf text = some out) :
    0 < out.length ∧ out.length < n := by
  unfold emit at h
  split_ifs at h with hlen
  obtain rfl := Option.some.inj h
  rw [List.length_append]
  omega

theorem joinResponse_length {text : List UInt8} (h : joinResponse config = some text) :
    0 < text.length ∧ text.length < 4096 := by
  unfold joinResponse protocolBuildJoinResponse at h
  rw [if_neg (fun h => h rfl)] at h
  obtain ⟨b₁, -, h⟩ := Option.bind_eq_some_iff.mp h
  obtain ⟨b₂, -, h⟩ := Option.bind_eq_some_iff.mp h
  exact length_lt_of_emit h

/-- A client reads all of a frame it is sent, unless it is a signaling message that is too long. -/
theorem readsAll_client_iff {stream : UInt8} {payload : List UInt8} (hpos : 0 < payload.length)
    (hlen : payload.length ≤ relayMediaFrameMax) :
    ReadsAll clientAfterHeader (stream, payload) ↔
      (stream = streamSignaling → payload.length ≤ maxSignalingMsg) := by
  have hne : payload ≠ [] := List.ne_nil_of_length_pos hpos
  unfold ReadsAll clientAfterHeader
  dsimp only
  by_cases hsig : stream = streamSignaling
  · rw [if_pos hsig]
    split_ifs with hbad
    · constructor
      · rintro (h | h)
        · cases h
        · exact absurd h.2 hne
      · intro h
        have := h hsig
        omega
    · exact ⟨fun _ _ => by omega, fun _ => Or.inl rfl⟩
  · rw [if_neg hsig, if_pos ⟨hpos, hlen⟩]
    exact ⟨fun _ h => absurd h hsig, fun _ => Or.inl rfl⟩

theorem length_forwardedFrame {a : Session} {stream : UInt8} {payload : List UInt8}
    (hend : ¬ EndsLoop payload) (hfwd : ToForward stream payload) :
    0 < (forwardedFrame a stream payload).length ∧
      (forwardedFrame a stream payload).length ≤ relayMediaFrameMax := by
  unfold EndsLoop maxPayload maxSignalingMsg at hend
  unfold forwardedFrame relayMediaFrameMax
  split_ifs with hsig
  · obtain h | h | ⟨-, -, m, hm⟩ := hfwd
    · exact absurd (hsig.symm.trans h) (by decide)
    · exact absurd (hsig.symm.trans h) (by decide)
    · rw [hm]
      dsimp only
      rw [length_forwardedText]
      obtain ⟨htype, hpayload⟩ := protocolParseForward_lengths hm
      have hid := length_cString_le a.clientId
      have hid' := a.clientId_le
      have htype' := length_cString_le m.messageType
      have hpayload' := length_cString_le m.payload
      unfold maxClientId at hid'
      omega
  · omega

/-- **One frame**: the clients read all of what the server sends for it exactly if it fits. -/
theorem sent_readsAll_iff {stream : UInt8} {payload : List UInt8} (hend : ¬ EndsLoop payload) :
    (∀ x ∈ (r.handle config (.frame s stream payload)).2,
      ReadsAll clientAfterHeader (x.stream, x.payload)) ↔ r.FitsClient s stream payload := by
  unfold FitsClient
  cases ha : r.session s with
  | none =>
    unfold handle
    dsimp only
    rw [ha]
    refine ⟨fun _ a m hsome => ?_, fun _ x hx => ?_⟩
    · cases hsome
    · cases hx
  | some a =>
    rw [handle_frame ha hend]
    by_cases hjoin : stream = streamSignaling ∧ isJoinChannel payload = true
    · -- the response to a join is short
      refine ⟨fun _ b m _ _ _ hnot => ?_, fun _ x hx => ?_⟩
      · rw [hjoin.2] at hnot
        cases hnot
      · rw [frame_eq_of_join hjoin.1 hjoin.2] at hx
        obtain ⟨-, -, hresponse⟩ := join_sent hx
        have hlen := joinResponse_length hresponse
        refine (readsAll_client_iff hlen.1 ?_).mpr fun _ => ?_
        · unfold relayMediaFrameMax
          omega
        · unfold maxSignalingMsg
          omega
    · by_cases hfwd : a.joined = true ∧ ToForward stream payload
      · have hlen := @length_forwardedFrame a stream payload hend hfwd.2
        rw [frame_sent hend hfwd.1 hfwd.2]
        cases hpeer : r.peerOf s a with
        | none =>
          refine ⟨fun _ b m hb _ _ _ _ hne => ?_, fun _ x hx => ?_⟩
          · obtain rfl := Option.some.inj hb
            exact absurd hpeer hne
          · cases hx
        | some p =>
          dsimp only
          rw [List.forall_mem_singleton, readsAll_client_iff hlen.1 hlen.2]
          unfold forwardedFrame
          constructor
          · intro h b m hb _ hsig _ hm _
            obtain rfl := Option.some.inj hb
            have hfits := h hsig
            rw [if_pos hsig, hm] at hfits
            dsimp only at hfits
            rwa [length_forwardedText] at hfits
          · intro h hsig
            obtain hmedia | hmedia | ⟨-, hnot, m, hm⟩ := hfwd.2
            · exact absurd (hsig.symm.trans hmedia) (by decide)
            · exact absurd (hsig.symm.trans hmedia) (by decide)
            · rw [if_pos hsig, hm]
              dsimp only
              rw [length_forwardedText]
              exact h a m rfl hfwd.1 hsig hnot hm (by rw [hpeer]; exact Option.some_ne_none p)
      · -- nothing is sent
        rw [frame_not_sent hfwd hjoin]
        refine ⟨fun _ b m hb hjoined hsig hnot hm _ => ?_, fun _ x hx => ?_⟩
        · obtain rfl := Option.some.inj hb
          exact absurd ⟨hjoined, Or.inr (Or.inr ⟨hsig, hnot, m, hm⟩)⟩ hfwd
        · cases hx

theorem sent_length {stream : UInt8} {payload : List UInt8} (hend : ¬ EndsLoop payload) {x : Sent}
    (hx : x ∈ (r.handle config (.frame s stream payload)).2) : x.payload.length < 2 ^ 32 := by
  cases ha : r.session s with
  | none =>
    unfold handle at hx
    dsimp only at hx
    rw [ha] at hx
    cases hx
  | some a =>
    rw [handle_frame ha hend] at hx
    by_cases hjoin : stream = streamSignaling ∧ isJoinChannel payload = true
    · rw [frame_eq_of_join hjoin.1 hjoin.2] at hx
      have hlen := joinResponse_length (join_sent hx).2.2
      omega
    · by_cases hfwd : a.joined = true ∧ ToForward stream payload
      · have hlen := @length_forwardedFrame a stream payload hend hfwd.2
        unfold relayMediaFrameMax at hlen
        rw [frame_sent hend hfwd.1 hfwd.2] at hx
        split at hx
        · cases hx
        · obtain rfl := List.mem_singleton.mp hx
          dsimp only
          omega
      · rw [frame_not_sent hfwd hjoin] at hx
        cases hx

/-! ### Runs -/

/-- The frames of a session meet their condition exactly if the server accepts them and the clients
read all of what it sends for them. -/
theorem allSteps_frameOk_iff (frames : List Frame) (r : Server) :
    AllSteps (step config) FrameOk r (framesFrom s frames) ↔
      (∀ f ∈ frames, ¬ EndsLoop f.payload) ∧
      ∀ x ∈ r.sentAlong config (framesFrom s frames),
        ReadsAll clientAfterHeader (x.stream, x.payload) := by
  induction frames generalizing r with
  | nil =>
    refine ⟨fun _ => ⟨fun f hf => ?_, fun x hx => ?_⟩, fun _ => trivial⟩
    · cases hf
    · cases hx
  | cons f frames ih =>
    have hcons : framesFrom s (f :: frames) =
        .frame s f.stream f.payload :: framesFrom s frames := rfl
    rw [hcons, allSteps_cons, ih, sentAlong, List.forall_mem_append, List.forall_mem_cons]
    constructor
    · rintro ⟨⟨hend, hfits⟩, hrest, hsent⟩
      exact ⟨⟨hend, hrest⟩, (sent_readsAll_iff hend).mpr hfits, hsent⟩
    · rintro ⟨⟨hend, hrest⟩, hfits, hsent⟩
      exact ⟨⟨hend, (sent_readsAll_iff hend).mp hfits⟩, hrest, hsent⟩

theorem sentAlong_length {frames : List Frame} (hend : ∀ f ∈ frames, ¬ EndsLoop f.payload)
    (r : Server) : ∀ x ∈ r.sentAlong config (framesFrom s frames), x.payload.length < 2 ^ 32 := by
  induction frames generalizing r with
  | nil =>
    intro x hx
    cases hx
  | cons f frames ih =>
    obtain ⟨hf, hframes⟩ := List.forall_mem_cons.mp hend
    intro x hx
    obtain hx | hx := List.mem_append.mp hx
    · exact sent_length hf hx
    · exact ih hframes _ x hx

def framesOnWire (frames : List Frame) : List (UInt8 × List UInt8) :=
  frames.map fun f => (f.stream, f.payload)

def sentOnWire (sent : List Sent) : List (UInt8 × List UInt8) :=
  sent.map fun x => (x.stream, x.payload)

/-- However the frames of session `s` arrive, the server reads each of them and nothing else; and
however the frames that it sends for them arrive, every client reads each of those for it and
nothing else. -/
def InStep (config : ServerConfig) (r : Server) (s : Nat) (frames : List Frame) : Prop :=
  (∀ chunks, IsChunking chunks (wire (framesOnWire frames)) →
    clientThreadReads chunks = (framesOnWire frames, [])) ∧
  ∀ p chunks,
    IsChunking chunks (wire (sentOnWire (sentTo p (r.sentAlong config (framesFrom s frames))))) →
    recvThreadReads chunks = (sentOnWire (sentTo p (r.sentAlong config (framesFrom s frames))), [])

theorem readsAll_server_iff (stream : UInt8) (payload : List UInt8) :
    ReadsAll serverAfterHeader (stream, payload) ↔ ¬ EndsLoop payload := by
  unfold ReadsAll serverAfterHeader EndsLoop
  dsimp only
  split_ifs with h
  · refine ⟨fun hr => ?_, fun hr => absurd h hr⟩
    obtain hr | ⟨hr, -⟩ := hr <;> cases hr
  · exact ⟨fun _ => h, fun _ => Or.inl rfl⟩

theorem clientThreadReads_iff (frames : List Frame) :
    (∀ chunks, IsChunking chunks (wire (framesOnWire frames)) →
      clientThreadReads chunks = (framesOnWire frames, [])) ↔
    ∀ f ∈ frames, ¬ EndsLoop f.payload := by
  refine (reads_eq_iff ?_).trans ?_
  · intro f hf
    obtain ⟨g, -, rfl⟩ := List.mem_map.mp hf
    have := g.accepted
    dsimp only
    omega
  · unfold framesOnWire
    rw [List.forall_mem_map]
    exact forall₂_congr fun f _ => readsAll_server_iff f.stream f.payload

theorem inStep_iff (config : ServerConfig) (r : Server) (s : Nat) (frames : List Frame) :
    InStep config r s frames ↔ (∀ f ∈ frames, ¬ EndsLoop f.payload) ∧
      ∀ x ∈ r.sentAlong config (framesFrom s frames), ReadsAll clientAfterHeader
      (x.stream, x.payload) := by
  unfold InStep
  rw [clientThreadReads_iff]
  refine and_congr_right fun hend => ?_
  have hlen : ∀ p, ∀ f ∈ sentOnWire (sentTo p (r.sentAlong config (framesFrom s frames))),
      f.2.length < 2 ^ 32 := by
    intro p f hf
    obtain ⟨x, hx, rfl⟩ := List.mem_map.mp hf
    exact sentAlong_length hend r x (List.mem_filter.mp hx).1
  constructor
  · intro h x hx
    refine (reads_eq_iff (hlen x.target)).mp (h x.target) _ (List.mem_map.mpr ⟨x, ?_, rfl⟩)
    exact List.mem_filter.mpr ⟨hx, decide_eq_true rfl⟩
  · intro h p
    refine (reads_eq_iff (hlen p)).mpr fun f hf => ?_
    obtain ⟨x, hx, rfl⟩ := List.mem_map.mp hf
    exact h x (List.mem_filter.mp hx).1

/-- **Frames in step**: for every server, the server and the clients are in step on the frames of a
session if and only if each of them, when it is sent, is neither empty nor longer than the server's
buffer nor, as a signaling message, longer than a client's. -/
theorem frames_in_step_iff (config : ServerConfig) (r : Server) (s : Nat) (frames : List Frame) :
    InStep config r s frames ↔ AllSteps (step config) FrameOk r (framesFrom s frames) :=
  (inStep_iff config r s frames).trans (allSteps_frameOk_iff frames r).symm

def largeFrame : Frame where
  stream := streamVideo
  payload := List.replicate 20000 0
  accepted := by rw [List.length_replicate]; decide

theorem large_frame_closes :
    ¬ ∀ (config : ServerConfig) (r : Server) (s : Nat) (frames : List Frame),
      InStep config r s frames := by
  intro h
  have hreads := (h noServers initial 0 [largeFrame]).1
  have hend := (clientThreadReads_iff [largeFrame]).mp hreads largeFrame List.mem_cons_self
  apply hend
  right
  show maxPayload < (List.replicate 20000 (0 : UInt8)).length
  rw [List.length_replicate]
  decide

end Server

end KvsWebrtc.Relay
