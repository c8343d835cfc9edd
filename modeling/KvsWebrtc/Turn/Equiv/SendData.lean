import KvsWebrtc.Ice.Equiv.TurnChannelData
import KvsWebrtc.Turn.Connection

/-!
# Channel data, sent and received

What `turnConnectionSendData` hands to the socket lies inside of its buffer.  A receiver that knows
the channel gets the data from it if and only if they are shorter than 2^15 bytes
(`channelData_roundTrips_iff`): the length is written as an unsigned 16-bit number and read as a
signed one.
-/

namespace KvsWebrtc.Turn

open Stun Ice

variable {α : Type}

/-- The connection accepts the data for a peer that is ready. -/
structure Accepts (connection : TurnConnection) (destIp : KvsIpAddress) (buf : List UInt8)
    (sendPeer : TurnPeer) : Prop where
  state : connection.state = .createPermission ∨ connection.state = .bindChannel ∨
    connection.state = .ready
  found : connection.turnConnectionGetPeerWithIp destIp = some sendPeer
  usable : sendPeer.connectionState ≠ .failed
  ready : sendPeer.ready = true
  nonempty : buf ≠ []
  fits : buf.length ≤ dataBufferSize - channelDataHeaderLen

/-- A receiver without an incomplete message that knows a channel by the address of its peer. -/
structure Knows (receiver : Ice.TurnConnection α) (channelNumber : Nat) (senderAddr : α) :
    Prop where
  empty : receiver.recvDataBuffer = []
  known : receiver.turnConnectionGetPeerWithChannelNumber channelNumber = some senderAddr

/-- What is sent lies in the buffer, and the receiver gets the data from it and nothing is left. -/
def RoundTrips (receiver : Ice.TurnConnection α) (senderAddr : α) (buf : List UInt8)
    (r : SendResult) :
    Prop :=
  ∃ sent, r.sent = some sent ∧ r.sendDataBuffer.length = dataBufferSize ∧
    sent <+: r.sendDataBuffer ∧
    ∃ fuel last, turnConnectionHandleChannelDataTcpMode fuel receiver sent =
        some (.ok (some ⟨buf, buf.length, senderAddr⟩, sent.length, last)) ∧
      last.recvDataBuffer = []

theorem length_loadMessage (sendDataBuffer : SendDataBuffer) (channelNumber : Nat)
    {buf : List UInt8} (hfits : buf.length ≤ dataBufferSize - channelDataHeaderLen) :
    (loadMessage sendDataBuffer.val channelNumber buf).length = dataBufferSize := by
  have hbuffer := sendDataBuffer.property
  simp only [loadMessage, putInt16, List.length_append, List.length_cons, List.length_nil,
    List.length_drop, hbuffer]
  simp only [dataBufferSize, channelDataHeaderLen] at hfits ⊢
  omega

theorem roundUp4_le {len : Nat} (hfits : len ≤ dataBufferSize - channelDataHeaderLen) :
    roundUp4 (channelDataHeaderLen + len) = channelDataHeaderLen + len + (4 - len % 4) % 4 ∧
      roundUp4 (channelDataHeaderLen + len) ≤ dataBufferSize := by
  simp only [dataBufferSize, channelDataHeaderLen, roundUp4] at hfits ⊢
  omega

variable {connection : TurnConnection} {destIp : KvsIpAddress} {buf : List UInt8}
    {sendPeer : TurnPeer}

theorem Accepts.turnConnectionSendData (h : Accepts connection destIp buf sendPeer)
    (sendDataBuffer : SendDataBuffer) (socketStatus : Status) :
    turnConnectionSendData connection sendDataBuffer socketStatus buf destIp =
      .ok ⟨sendStatus socketStatus, loadMessage sendDataBuffer.val sendPeer.channelNumber buf,
        some ((loadMessage sendDataBuffer.val sendPeer.channelNumber buf).take
          (roundUp4 (channelDataHeaderLen + buf.length)))⟩ := by
  have hlen := length_loadMessage sendDataBuffer sendPeer.channelNumber h.fits
  have hstate : ¬ ¬ (connection.state = .createPermission ∨ connection.state = .bindChannel ∨
      connection.state = .ready) := not_not_intro h.state
  have hready : ¬ sendPeer.ready = false := by
    rw [h.ready]
    decide
  simp only [Turn.turnConnectionSendData, if_neg h.nonempty, if_neg hstate, h.found,
    if_neg h.usable, if_neg hready, if_neg (Nat.not_lt.mpr h.fits)]
  rw [if_pos ⟨hlen.le, (roundUp4_le h.fits).2⟩]

/-- A receiver knows the channels from `0x4001` on. -/
theorem Knows.channelNumber {receiver : Ice.TurnConnection α} {channelNumber : Nat} {senderAddr : α}
    (h : Knows receiver channelNumber senderAddr) :
    ∃ n : Fin receiver.peers.length, channelNumber = 0x4001 + n ∧ receiver.peers[n] =
    senderAddr := by
  have hknown := h.known
  rw [Ice.TurnConnection.turnConnectionGetPeerWithChannelNumber] at hknown
  split_ifs at hknown with hnumber
  obtain ⟨hlt, heq⟩ := List.getElem?_eq_some_iff.mp hknown
  exact ⟨⟨channelNumber - 0x4001, hlt⟩, by dsimp only; omega, heq⟩

/-- The message that is sent, with what the buffer has held before as its padding. -/
def sentMessage {receiver : Ice.TurnConnection α} (n : Fin receiver.peers.length) (buf : List UInt8)
    (sendDataBuffer : SendDataBuffer) (hlen : buf.length < 2 ^ 15) :
    ChannelMessage receiver.peers.length where
  peer := n
  payload := buf
  padding := (sendDataBuffer.val.drop (channelDataHeaderLen + buf.length)).take
    ((4 - buf.length % 4) % 4)
  payload_lt := by omega
  padding_length := by
    rw [List.length_take, List.length_drop, sendDataBuffer.property]
    simp only [dataBufferSize, channelDataHeaderLen]
    omega

theorem encode_sentMessage {receiver : Ice.TurnConnection α} (n : Fin receiver.peers.length)
    {buf : List UInt8} (sendDataBuffer : SendDataBuffer) (hlen : buf.length < 2 ^ 15) :
    (sentMessage n buf sendDataBuffer hlen).encode =
      (loadMessage sendDataBuffer.val (0x4001 + n) buf).take
        (roundUp4 (channelDataHeaderLen + buf.length)) := by
  have hn : (n : Nat) < 32 := n.isLt.trans_le receiver.peers_le
  have hround : roundUp4 (channelDataHeaderLen + buf.length) =
      channelDataHeaderLen + buf.length + (4 - buf.length % 4) % 4 := by
    simp only [channelDataHeaderLen, roundUp4]
    omega
  have hfirst : UInt8.ofNat ((0x4001 + n) / 256) = channelDataFirstByte := by
    rw [show (0x4001 + (n : Nat)) / 256 = 64 by omega]
    rfl
  have hsecond : UInt8.ofNat (0x4001 + n) = UInt8.ofNat (n + 1) := by
    rw [← UInt8.toNat_inj, UInt8.toNat_ofNat', UInt8.toNat_ofNat']
    omega
  have hmod : buf.length % 2 ^ 16 = buf.length := Nat.mod_eq_of_lt (by omega)
  rw [hround]
  simp only [loadMessage, putInt16, ChannelMessage.encode, sentMessage, hfirst, hsecond, hmod,
    channelDataHeaderLen, List.cons_append, List.nil_append]
  rw [show 4 + buf.length + (4 - buf.length % 4) % 4 = (buf.length + (4 - buf.length % 4) % 4) +
    4 by omega]
  simp only [List.take_succ_cons]
  rw [List.take_length_add_append]

/-- Data from 2^15 bytes on are not received, since no header gives their size. -/
theorem RoundTrips.length_lt {receiver : Ice.TurnConnection α} {senderAddr : α} {r : SendResult}
    (h : RoundTrips receiver senderAddr buf r)
    (hfits : buf.length ≤ dataBufferSize - channelDataHeaderLen) :
    buf.length < 2 ^ 15 := by
  obtain ⟨sent, -, -, -, fuel, last, hreceived, -⟩ := h
  obtain ⟨b, hb⟩ := handle_size hreceived
  simp only [dataBufferSize, channelDataHeaderLen] at hfits
  dsimp only at hb
  rw [lengthField] at hb
  -- a length from 2^15 on is read as a negative number, so as one close to 2^32
  split_ifs at hb with hsmall <;> omega

/-- **Channel data, sent and received**: for a peer that is ready, a call hands bytes of its buffer
to the socket, and a receiver that knows the channel gets the data from them if and only if they are
shorter than 2^15 bytes. -/
theorem channelData_roundTrips_iff (h : Accepts connection destIp buf sendPeer)
    {receiver : Ice.TurnConnection α} {senderAddr : α}
    (hknows : Knows receiver sendPeer.channelNumber senderAddr) (sendDataBuffer : SendDataBuffer)
    (socketStatus : Status) :
    (∃ r, turnConnectionSendData connection sendDataBuffer socketStatus buf destIp = .ok r ∧
      RoundTrips receiver senderAddr buf r) ↔ buf.length < 2 ^ 15 := by
  rw [h.turnConnectionSendData]
  constructor
  · rintro ⟨r, -, hr⟩
    exact hr.length_lt h.fits
  · intro hlen
    obtain ⟨n, hn, rfl⟩ := hknows.channelNumber
    have hsent := encode_sentMessage n sendDataBuffer hlen
    refine ⟨_, rfl, _, rfl, length_loadMessage _ _ h.fits, List.take_prefix _ _, 1,
      receiver.holding [], ?_, rfl⟩
    rw [hn, ← hsent]
    -- the receiver finds the message complete in its first iteration
    let m := sentMessage n buf sendDataBuffer hlen
    have henc : m.encode = [] ++ m.encode := rfl
    have hreceived : turnConnectionHandleChannelDataTcpMode 1 (receiver.holding [])
        (m.encode ++ []) =
        some (.ok (some (receiver.channelData m), m.encode.length, receiver.holding [])) :=
      handle_complete receiver [] hlen henc (List.cons_ne_nil _ _) (.inl rfl) 0
    have hreceiver : receiver.holding [] = receiver := by
      rw [← hknows.empty]
      rfl
    rw [hreceiver, List.append_nil] at hreceived
    rw [hreceiver]
    exact hreceived

def boundPeer : TurnPeer := (createTurnPeer ⟨familyIpv4, [0x1f, 0x90], [192, 0, 2, 1]⟩ 1).bound

def boundConnection : TurnConnection :=
  { createTurnConnection with state := .ready, turnPeerList := [boundPeer] }

def emptySendDataBuffer : SendDataBuffer := ⟨List.replicate dataBufferSize 0, List.length_replicate⟩

theorem boundConnection_accepts {buf : List UInt8} (hne : buf ≠ [])
    (hfits : buf.length ≤ dataBufferSize - channelDataHeaderLen) :
    Accepts boundConnection boundPeer.address buf boundPeer where
  state := .inr (.inr rfl)
  found := rfl
  usable := by decide
  ready := rfl
  nonempty := hne
  fits := hfits

theorem onePeer_knows : Knows onePeer boundPeer.channelNumber () := ⟨rfl, rfl⟩

theorem channelData_roundTrips_three :
    (∃ r, turnConnectionSendData boundConnection emptySendDataBuffer .success
      [1, 2, 3] boundPeer.address = .ok r ∧
      RoundTrips onePeer () [1, 2, 3] r) ↔ [(1 : UInt8), 2, 3].length < 2 ^ 15 :=
  channelData_roundTrips_iff (boundConnection_accepts (by decide) (by decide)) onePeer_knows
    emptySendDataBuffer .success

theorem channelData_half_not_received :
    ¬ ∀ (connection : TurnConnection) (destIp : KvsIpAddress) (buf : List UInt8)
      (sendPeer : TurnPeer) (receiver : Ice.TurnConnection Unit) (sendDataBuffer : SendDataBuffer),
      Accepts connection destIp buf sendPeer → Knows receiver sendPeer.channelNumber () →
        ∃ r, turnConnectionSendData connection sendDataBuffer .success buf destIp = .ok r ∧
          RoundTrips receiver () buf r := by
  intro h
  have hlen : (List.replicate (2 ^ 15) (0 : UInt8)).length = 2 ^ 15 := List.length_replicate
  obtain ⟨r, -, hr⟩ := h boundConnection boundPeer.address (List.replicate (2 ^ 15) 0) boundPeer
    onePeer
    emptySendDataBuffer
    (boundConnection_accepts (List.ne_nil_of_length_pos (by rw [hlen]; decide))
    (by rw [hlen]; decide))
    onePeer_knows
  have hsmall := hr.length_lt (by rw [hlen]; decide)
  rw [hlen] at hsmall
  exact absurd hsmall (by decide)

end KvsWebrtc.Turn
