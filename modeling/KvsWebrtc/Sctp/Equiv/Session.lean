import KvsWebrtc.Common.Run
import KvsWebrtc.Sctp.Session
import Mathlib.Tactic.SplitIfs

/-!
# The settings that messages are sent with

A message takes the settings of the channel that was opened last, on whatever stream
(`writeMessage_spa`), and of these only the ordering counts, because the flag for the information on
partial reliability is never set.  So along a run every message is sent as its own channel was
configured exactly if that channel is reliable and the channel opened last has the same ordering
(`messages_as_configured_iff`).
-/

namespace KvsWebrtc.Sctp

def DataChannelInit.reliability (init : DataChannelInit) : Option (PrPolicy × UInt32) :=
  match init.maxRetransmits, init.maxPacketLifeTime with
  | some n, _ => some (.rtx, n.toUInt32)
  | none, some t => some (.ttl, t.toUInt32)
  | none, none => none

/-- A channel without limits, as before any is opened. -/
def defaultInit : DataChannelInit where
  ordered := true
  maxPacketLifeTime := none
  maxRetransmits := none

/-! ### The parameters of a message -/

/-- The packet holds the settings of a channel. -/
structure HoldsSettings (session : SctpSession) (init : DataChannelInit) : Prop where
  channelType : session.packet.getD 1 0 = init.channelType
  parameter : int32At session.packet 4 = init.reliabilityParameter

theorem int32At_int32Bytes (v : UInt32) (l r : List UInt8) :
    int32At (l ++ int32Bytes v ++ r) l.length = v := by
  unfold int32At int32Bytes
  rw [List.append_assoc, List.drop_left, List.take_left' (length_beBytes 4 v.toNat),
    beNat_beBytes_of_lt v.toNat_lt]
  exact UInt32.ofNat_toNat

theorem writeDcep_holdsSettings (session : SctpSession) (streamId : UInt32) (name : ChannelName)
    (init : DataChannelInit) :
    HoldsSettings (sctpSessionWriteDcep session streamId name init) init := by
  refine ⟨rfl, ?_⟩
  unfold sctpSessionWriteDcep dataChannelOpen
  dsimp only
  rw [List.append_assoc, List.append_assoc]
  exact int32At_int32Bytes init.reliabilityParameter [0x03, init.channelType, 0, 0] _

theorem createSctpSession_holdsSettings : HoldsSettings createSctpSession defaultInit :=
  ⟨rfl, by decide⟩

theorem channelType_bits (init : DataChannelInit) :
    (init.channelType &&& reliableUnordered ≠ 0 ↔ init.ordered = false) ∧
    (init.channelType &&& rexmit ≠ 0 ↔ init.maxRetransmits ≠ none) ∧
    (init.channelType &&& timed ≠ 0 ↔
      init.maxRetransmits = none ∧ init.maxPacketLifeTime ≠ none) := by
  obtain ⟨ordered, life, retransmits⟩ := init
  unfold DataChannelInit.channelType
  cases ordered <;> cases life <;> cases retransmits <;> simp +decide

/-- **The parameters of a message** are those of the channel whose settings the packet holds. -/
theorem writeMessage_spa {session : SctpSession} {init : DataChannelInit}
    (h : HoldsSettings session init) (streamId : UInt32) (isBinary : Bool) :
    (sctpSessionWriteMessage session streamId isBinary).spa =
      { sndinfoValid := true
        prinfoValid := false
        sid := streamId.toUInt16
        unordered := !init.ordered
        ppid := if isBinary then ppidBinary else ppidString
        prPolicy := (init.reliability.map Prod.fst).getD .none
        prValue := (init.reliability.map Prod.snd).getD 0 } := by
  obtain ⟨hunordered, hrexmit, htimed⟩ := channelType_bits init
  unfold sctpSessionWriteMessage
  rw [h.channelType, h.parameter]
  simp only [hunordered, hrexmit, htimed]
  -- one case for each combination of settings
  obtain ⟨ordered, life, retransmits⟩ := init
  cases ordered <;> cases life <;> cases retransmits <;> rfl

theorem writeMessage_holdsSettings {session : SctpSession} {init : DataChannelInit}
    (h : HoldsSettings session init) (streamId : UInt32) (isBinary : Bool) :
    HoldsSettings (sctpSessionWriteMessage session streamId isBinary) init :=
  ⟨h.channelType, h.parameter⟩

/-! ### Runs -/

/-- A call on a session, and whether `usrsctp_sendv` succeeded. -/
inductive SctpOp
  | writeDcep (streamId : UInt32) (name : ChannelName) (init : DataChannelInit) (sent : Bool)
  | writeMessage (streamId : UInt32) (isBinary : Bool) (sent : Bool)

/-- A session and the calls that opened channels on it, the last one first. -/
structure SctpRun where
  session : SctpSession
  opens : List (UInt32 × DataChannelInit × Bool)

namespace SctpRun

def initial : SctpRun where
  session := createSctpSession
  opens := []

def step (r : SctpRun) : SctpOp → SctpRun
  | .writeDcep streamId name init sent =>
    { session := sctpSessionWriteDcep r.session streamId name init
      opens := (streamId, init, sent) :: r.opens }
  | .writeMessage streamId isBinary _ =>
    { r with session := sctpSessionWriteMessage r.session streamId isBinary }

def configured (r : SctpRun) (streamId : UInt32) : Option DataChannelInit :=
  (r.opens.find? fun o => o.1 = streamId ∧ o.2.2 = true).map fun o => o.2.1

def lastOpened (r : SctpRun) : DataChannelInit :=
  match r.opens with
  | [] => defaultInit
  | o :: _ => o.2.1

/-- A message on a stream that was opened is sent with the ordering, the policy and the value that
the stream was opened with. -/
def AsConfigured (r : SctpRun) : SctpOp → Prop
  | .writeDcep _ _ _ _ => True
  | .writeMessage streamId isBinary _ => ∀ init, r.configured streamId = some init →
    (sctpSessionWriteMessage r.session streamId isBinary).spa.sentUnordered = !init.ordered ∧
    (sctpSessionWriteMessage r.session streamId isBinary).spa.reliability = init.reliability

/-- The condition on a message: its stream is reliable, and the channel opened last has the same
ordering. -/
def MessageOk (r : SctpRun) : SctpOp → Prop
  | .writeDcep _ _ _ _ => True
  | .writeMessage streamId _ _ => ∀ init, r.configured streamId = some init →
    init.maxRetransmits = none ∧ init.maxPacketLifeTime = none ∧
    r.lastOpened.ordered = init.ordered

theorem holdsSettings_step {r : SctpRun} (h : HoldsSettings r.session r.lastOpened) (op : SctpOp) :
    HoldsSettings (r.step op).session (r.step op).lastOpened := by
  cases op with
  | writeDcep streamId name init sent => exact writeDcep_holdsSettings r.session streamId name init
  | writeMessage streamId isBinary sent => exact writeMessage_holdsSettings h streamId isBinary

theorem reliability_eq_none_iff (init : DataChannelInit) :
    init.reliability = none ↔ init.maxRetransmits = none ∧ init.maxPacketLifeTime = none := by
  obtain ⟨ordered, life, retransmits⟩ := init
  cases life <;> cases retransmits <;> simp [DataChannelInit.reliability]

/-- **One message** is sent as configured exactly if it meets its condition. -/
theorem asConfigured_iff {r : SctpRun} (h : HoldsSettings r.session r.lastOpened) (op : SctpOp) :
    r.AsConfigured op ↔ r.MessageOk op := by
  cases op with
  | writeDcep streamId name init sent => exact Iff.rfl
  | writeMessage streamId isBinary sent =>
    unfold AsConfigured MessageOk
    dsimp only
    rw [writeMessage_spa h]
    refine forall₂_congr fun init _ => ?_
    have hunordered : (!r.lastOpened.ordered) = (!init.ordered) ↔
        r.lastOpened.ordered = init.ordered := by
      cases r.lastOpened.ordered <;> cases init.ordered <;> decide
    unfold Spa.sentUnordered Spa.reliability
    dsimp only
    rw [Bool.true_and, hunordered, if_neg (fun hv => Bool.noConfusion hv.1), eq_comm (a := none),
      reliability_eq_none_iff]
    constructor
    · rintro ⟨hordered, hretransmits, hlife⟩
      exact ⟨hretransmits, hlife, hordered⟩
    · rintro ⟨hretransmits, hlife, hordered⟩
      exact ⟨hordered, hretransmits, hlife⟩

/-- **Messages as configured**: along a run of opens and messages on a session, every message is
sent as its stream was configured if and only if every message meets its condition. -/
theorem messages_as_configured_iff (ops : List SctpOp) :
    AllSteps step AsConfigured initial ops ↔ AllSteps step MessageOk initial ops :=
  allSteps_congr (I := fun r => HoldsSettings r.session r.lastOpened)
    (fun _ op h => asConfigured_iff h op) (fun _ op h _ => holdsSettings_step h op)
    createSctpSession_holdsSettings ops

def twoOrders : List SctpOp :=
  [.writeDcep 0 ⟨[], Nat.zero_le _⟩
      { ordered := false, maxPacketLifeTime := none, maxRetransmits := none } true,
    .writeDcep 2 ⟨[], Nat.zero_le _⟩ defaultInit true, .writeMessage 0 true true]

theorem settings_of_last_channel :
    ¬ ∀ ops : List SctpOp, AllSteps step AsConfigured initial ops := by
  intro h
  have hmessage := (h twoOrders).2.2.1
  have hordered := (hmessage { ordered := false, maxPacketLifeTime := none, maxRetransmits := none }
    rfl).1
  revert hordered
  decide +kernel

end SctpRun

end KvsWebrtc.Sctp
