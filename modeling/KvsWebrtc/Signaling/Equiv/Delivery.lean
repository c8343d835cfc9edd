import KvsWebrtc.Relay.Equiv.Transport
import KvsWebrtc.Signaling.Equiv.SendMessage

/-!
# Signaling messages from client to client

One client sends messages, the relay reads the frames from its connection, and the other client
reads what the relay sends it.  Both connections may cut the bytes anywhere.  The messages arrive as
they were sent, each once and in their order (`messages_delivered`).
-/

namespace KvsWebrtc.Signaling

open Relay (bytesOf clientAfterHeader EndsLoop ForwardRequest forwardedText isJoinChannel
  length_forwardedText maxClientId maxSignalingMsg protocolBuildForwarded protocolParseForward
  ReadsAll Server ServerConfig Session streamSignaling Unquoted)

/-- A call of `kvsNgtcp2TransportSendMessage`. -/
structure SendCall where
  messageType : SignalingMessageType
  peerClientId : List UInt8
  payload : List UInt8
  payloadLen : Nat
  correlationId : Option (List UInt8)
  correlationIdLen : Nat

/-- The frame of a call that succeeds, with a message that arrives at the peer. -/
structure SendCall.Sends (lib : Library) (senderId : List UInt8) (c : SendCall) (f : Relay.Frame) :
    Prop where
  stream : f.stream = streamSignaling
  sent : ∃ sendFrame, kvsNgtcp2TransportSendMessage lib c.messageType c.peerClientId c.payload
    c.payloadLen
    c.correlationId c.correlationIdLen sendFrame = .ok f.payload
  peer : Unquoted c.peerClientId
  base64 : Base64RoundTrips lib (sentPayload c.payload c.payloadLen)
  arrives : Arrives c.messageType senderId c.peerClientId (sentPayload c.payload c.payloadLen)
    ((sentCorrelationId c.correlationId c.correlationIdLen).getD [])
  noJoin : isJoinChannel f.payload = false

def SendCall.message (c : SendCall) (senderId : List UInt8) : ReceivedSignalingMessage :=
  { emptyMessage with
    signalingMessage :=
    ⟨0, c.messageType, (sentCorrelationId c.correlationId c.correlationIdLen).getD [], senderId,
      sentPayload c.payload c.payloadLen⟩ }

variable {lib : Library} {numTokens : Nat} {senderId : List UInt8} {c : SendCall} {f : Relay.Frame}

theorem length_messageText_le (action recipientClientId messagePayload : List UInt8)
    {correlationId : Option (List UInt8)} (hempty : correlationId.getD [] = []) :
    0 < (messageText action recipientClientId messagePayload correlationId).length ∧
      (messageText action recipientClientId messagePayload correlationId).length ≤
        75 + action.length + recipientClientId.length + messagePayload.length := by
  have htail : (messageTail correlationId).length ≤ 20 := by
    rcases correlationId with _ | correlationId
    · decide +kernel
    · obtain rfl : correlationId = [] := hempty
      decide +kernel
  have htexts : (bytesOf "\x7b\"action\":\"").length = 11 ∧
      (bytesOf "\",\"RecipientClientId\":\"").length = 23 ∧
      (bytesOf "\",\"MessagePayload\":\"").length = 20 ∧ (bytesOf "\"").length = 1 := by
    decide +kernel
  simp only [messageText, List.length_append, htexts]
  omega

/-- **One message**: the relay makes a text of it that the peer reads. -/
theorem SendCall.Sends.forwarded (hcompare : Compares lib) (hroom : 7 ≤ numTokens)
    (hsender : Unquoted senderId) (h : c.Sends lib senderId f) :
    ¬ EndsLoop f.payload ∧ ∃ m forwarded, protocolParseForward f.payload = some m ∧
      protocolBuildForwarded senderId m (maxSignalingMsg + 1024) = some forwarded ∧
      (0 < forwarded.length ∧ forwarded.length ≤ maxSignalingMsg) ∧
      parseSignalingMessage lib numTokens forwarded = .ok (c.message senderId) := by
  obtain ⟨-, ⟨sendFrame, hsent⟩, hpeer, hbase64, harrives, -⟩ := h
  obtain ⟨encoded, hencode, htext⟩ := sent_eq hpeer hsent hbase64
  have hrecipient : Unquoted (c.peerClientId.take maxSignalingClientIdLen) :=
    fun b hb => hpeer b (List.mem_of_mem_take hb)
  have hencoded := hbase64.unquoted _ _ hencode
  have hfits := harrives.fits
  rw [← hbase64.length _ _ hencode] at hfits
  constructor
  · obtain ⟨hpos, hlen⟩ := length_messageText_le (bytesOf (getMessageTypeInString c.messageType))
      (c.peerClientId.take maxSignalingClientIdLen) encoded harrives.uncorrelated
    have htake := List.length_take_le maxSignalingClientIdLen c.peerClientId
    rw [← htext] at hpos hlen
    unfold maxSignalingClientIdLen at htake hlen
    unfold maxSignalingMessageLen at hfits
    unfold EndsLoop Relay.maxPayload maxSignalingMsg
    omega
  · let m : ForwardRequest :=
      ⟨bytesOf (getMessageTypeInString c.messageType), c.peerClientId.take maxSignalingClientIdLen,
      encoded⟩
    -- the server reads the three members back
    have hforward : protocolParseForward f.payload = some m := by
      rw [htext, protocolParseForward_messageText c.messageType hrecipient
        (List.length_take_le _ _) hencoded,
        if_neg (by rw [take_eq_iff (by decide)]; exact harrives.named)]
    have hlen : (forwardedText senderId m).length =
        58 + senderId.length + (bytesOf (getMessageTypeInString c.messageType)).length +
        encoded.length := by
      rw [length_forwardedText, hsender.cString_eq, Unquoted.cString_eq
        (unquoted_messageType c.messageType), hencoded.cString_eq]
    rw [← hlen] at hfits
    have hparse : parseSignalingMessage lib numTokens (forwardedText senderId m) = _ :=
      parseSignalingMessage_forwardedText hcompare hroom hsender hencoded
      (hbase64.payload_le hencode)
        fun hle rest => hbase64.decodes _ _ hencode rest _ (Nat.le_succ_of_le hle)
    rw [if_pos ⟨hfits, harrives.sender⟩] at hparse
    rw [SendCall.message, harrives.uncorrelated]
    exact ⟨m, _, hforward, protocolBuildForwarded_eq senderId _
      (Nat.lt_of_le_of_lt hfits (by decide)),
      ⟨by rw [hlen]; omega, hfits⟩, hparse⟩

variable {r : Server} {s p : Nat} {a : Session}

/-- The relay sends it to the peer of the sender, and stays as it is. -/
theorem SendCall.Sends.handle (config : ServerConfig) (h : c.Sends lib a.clientId f)
      (ha : r.session s = some a)
    (hjoined : a.joined = true) (hpeer : r.peerOf s a = some p) (hend : ¬ EndsLoop f.payload)
    {m : ForwardRequest} (hm : protocolParseForward f.payload = some m) {forwarded : List UInt8}
    (hforwarded : protocolBuildForwarded a.clientId m (maxSignalingMsg + 1024) = some forwarded) :
    r.handle config (.frame s f.stream f.payload) = (r, [⟨p, streamSignaling, forwarded⟩]) := by
  rw [Server.handle_frame ha hend, Server.frame, if_pos h.stream, h.noJoin,
      if_neg Bool.false_ne_true, if_pos hjoined]
  unfold Server.forwardSignaling
  simp only [hm, hpeer, hforwarded]

/-- **All messages**, by induction on the calls: the relay stays as it is. -/
theorem forwarded_all (config : ServerConfig) (hcompare : Compares lib) (hroom : 7 ≤ numTokens)
    (ha : r.session s = some a) (hjoined : a.joined = true) (hpeer : r.peerOf s a = some p)
    (hsender : Unquoted a.clientId) {calls : List SendCall} {frames : List Relay.Frame}
    (h : List.Forall₂ (SendCall.Sends lib a.clientId) calls frames) :
    (∀ f ∈ frames, ¬ EndsLoop f.payload) ∧
      (∀ x ∈ r.sentAlong config (Server.framesFrom s frames),
        x.target = p ∧ ReadsAll clientAfterHeader (x.stream, x.payload)) ∧
      (r.sentAlong config (Server.framesFrom s frames)).map
      (parseSignalingMessage lib numTokens ·.payload) =
        calls.map fun c => .ok (c.message a.clientId) := by
  induction h with
  | nil => exact ⟨fun f hf => absurd hf List.not_mem_nil, fun x hx => absurd hx List.not_mem_nil,
      rfl⟩
  | @cons c f calls frames hf _ ih =>
    obtain ⟨hends, hsent, hparse⟩ := ih
    obtain ⟨hend, m, text, hm, htext, ⟨hpos, hlen⟩, hx⟩ := hf.forwarded hcompare hroom hsender
    have hcons : r.sentAlong config (Server.framesFrom s (f :: frames)) =
        ⟨p, streamSignaling, text⟩ :: r.sentAlong config (Server.framesFrom s frames) := by
      change (r.handle config (.frame s f.stream f.payload)).2 ++
        (r.step config (.frame s f.stream f.payload)).sentAlong config
        (Server.framesFrom s frames) = _
      rw [Server.step, hf.handle config ha hjoined hpeer hend hm htext]
      rfl
    have hreads : ReadsAll clientAfterHeader (streamSignaling, text) :=
      (Server.readsAll_client_iff hpos (hlen.trans (by decide))).mpr fun _ => hlen
    rw [hcons]
    refine ⟨List.forall_mem_cons.mpr ⟨hend, hends⟩, List.forall_mem_cons.mpr ⟨⟨rfl, hreads⟩, hsent⟩,
        ?_⟩
    rw [List.map_cons, List.map_cons, hx, hparse]

/-- **Messages between two clients**: however the bytes are cut on the two connections, the relay
and the clients are in step, what the relay sends is for the sender's peer, and this reads the
messages as they were sent, each once and in order. -/
theorem messages_delivered (config : ServerConfig) (hcompare : Compares lib) (hroom : 7 ≤ numTokens)
    (ha : r.session s = some a) (hjoined : a.joined = true) (hpeer : r.peerOf s a = some p)
    (hsender : Unquoted a.clientId) {calls : List SendCall} {frames : List Relay.Frame}
    (h : List.Forall₂ (SendCall.Sends lib a.clientId) calls frames) :
    Server.InStep config r s frames ∧
      (∀ x ∈ r.sentAlong config (Server.framesFrom s frames), x.target = p) ∧
      (r.sentAlong config (Server.framesFrom s frames)).map
      (parseSignalingMessage lib numTokens ·.payload) =
        calls.map fun c => .ok (c.message a.clientId) := by
  obtain ⟨hends, hsent, hparse⟩ := forwarded_all config hcompare hroom ha hjoined hpeer hsender h
  exact ⟨(Server.inStep_iff config r s frames).mpr ⟨hends, fun x hx => (hsent x hx).2⟩, fun x hx =>
    (hsent x hx).1, hparse⟩

def joinedClient (clientId : List UInt8) (h : clientId.length ≤ maxClientId) : Session :=
  { joined := true, channelName := [], clientId := clientId, role := [], peer := none,
    ch := some 0, clientId_le := h }

def twoClients : Server where
  channels := [⟨[], some 0, some 1⟩]
  sessions := [some (joinedClient (bytesOf "master") (by decide)),
    some (joinedClient (bytesOf "viewer") (by decide))]

def sampleCall : SendCall := ⟨.offer, bytesOf "viewer", [1, 2, 3], 3, none, 0⟩

def sampleFrame : Relay.Frame where
  stream := streamSignaling
  payload := messageText (bytesOf "SDP_OFFER") (bytesOf "viewer") (bytesOf "AQID") none
  accepted := by decide +kernel

theorem messages_delivered_offer :
    (twoClients.sentAlong Server.noServers (Server.framesFrom 0 [sampleFrame])).map
        (parseSignalingMessage sampleLibrary 100 ·.payload) =
        [.ok (sampleCall.message (bytesOf "master"))] := by
  have hsends : SendCall.Sends sampleLibrary (bytesOf "master") sampleCall sampleFrame :=
    ⟨rfl, ⟨fun _ => true, rfl⟩, by decide, sampleLibrary_base64, ⟨rfl, by decide, by decide, by
    decide⟩,
      by decide +kernel⟩
  have hclient : twoClients.session 0 = some (joinedClient (bytesOf "master") (by decide)) := rfl
  exact (messages_delivered Server.noServers sampleLibrary_compares
    (by decide : 7 ≤ 100) hclient rfl rfl (by decide)
    (.cons hsends .nil)).2.2

end KvsWebrtc.Signaling
