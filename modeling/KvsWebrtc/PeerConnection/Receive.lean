import KvsWebrtc.JitterBuffer.Parse
import KvsWebrtc.Rtp.Codec

/-!
# Receiving RTP packets

`sendPacketToRtpReceiver` of `PeerConnection/PeerConnection.c`: an incoming packet is decrypted,
copied into an allocation of its own and pushed into the jitter buffer of the transceiver with its
SSRC. Statistics are left out, and allocations succeed.

Decryption belongs to the SRTP library and depends on its session, so it may answer differently from
call to call.  How `createRtpPacketFromBytes` reads the header does not matter to the ownership of
the packet, so it is any function that returns the allocation it was given.
-/

namespace KvsWebrtc

open JitterBuffer
open Rtp (minHeaderLength)

/-- The fields of a transceiver that receiving uses. -/
structure Transceiver where
  jitterBufferSsrc : UInt32
  callbacks : JbCallbacks
  jitterBuffer : JitterBuffer

/-- What `sendPacketToRtpReceiver` calls before it pushes, at the `call`-th call.  The number of the
call also names the allocation it makes for its packet. -/
structure ReceiverEnv where
  decryptSrtpPacket (call : Nat) : List UInt8 → Except Status (List UInt8)
  createRtpPacketFromBytes (call : Nat) : List UInt8 → Except Status RtpPacket
  addr_eq : ∀ {call bytes p}, createRtpPacketFromBytes call bytes = .ok p → p.addr = call

/-- `getInt32(*(PUINT32) (pBuffer + SSRC_OFFSET))`, for a buffer of at least `minHeaderLength`. -/
def ssrcOf (buffer : List UInt8) : UInt32 :=
  (buffer.getD 8 0).toUInt32 <<< 24 ||| (buffer.getD 9 0).toUInt32 <<< 16 |||
    (buffer.getD 10 0).toUInt32 <<< 8 ||| (buffer.getD 11 0).toUInt32

/-- The push and the cleanup after it: `ownedByJitterBuffer` is set only after a push that succeeds,
so the packet is freed after one that fails. -/
def Transceiver.receive (t : Transceiver) (p : RtpPacket) : Status × Transceiver :=
  let r := jitterBufferPush t.callbacks t.jitterBuffer p
  if r.status.failed then
    (r.status, { t with jitterBuffer := r.jb.emit (.packetFreed p.addr) })
  else (.success, { t with jitterBuffer := r.jb })

def receiveLoop (env : ReceiverEnv) (call : Nat) (buffer : List UInt8) :
    List Transceiver → Status × List Transceiver
  | [] => (.success, [])
  | t :: ts =>
    if t.jitterBufferSsrc = ssrcOf buffer then
      match env.decryptSrtpPacket call buffer with
      | .error _ => (.success, t :: ts)
      | .ok bytes =>
        match env.createRtpPacketFromBytes call bytes with
        | .error e => (e, t :: ts)
        | .ok p => ((t.receive p).1, (t.receive p).2 :: ts)
    else ((receiveLoop env call buffer ts).1, t :: (receiveLoop env call buffer ts).2)

def sendPacketToRtpReceiver (env : ReceiverEnv) (call : Nat) (buffer : List UInt8)
    (ts : List Transceiver) : Status × List Transceiver :=
  if buffer.length < minHeaderLength then (.invalidArg, ts)
  else receiveLoop env call buffer ts

/-- The transceivers after a run of calls, the first of which has number `call`. -/
def receiveAll (env : ReceiverEnv) : Nat → List Transceiver → List (List UInt8) → List Transceiver
  | _, ts, [] => ts
  | call, ts, buffer :: buffers =>
    receiveAll env (call + 1) (sendPacketToRtpReceiver env call buffer ts).2 buffers

end KvsWebrtc
