import KvsWebrtc.Sctp.Session
import Mathlib.Data.List.TakeWhile
import Mathlib.Tactic.SplitIfs

/-!
# Opening a data channel at the peer

A message with a label is reported with that label (`handleDcepPacket_dcepMessage`), but one without
a label is not longer than its header and is passed over.  The lengths that a message declares are
checked the wrong way round: they may be larger than the message, never smaller.  So a label that is
reported lies in the received bytes and in the buffer of the name only if its declared length says
so (`opens_right_iff`).
-/

namespace KvsWebrtc.Sctp

variable {data : List UInt8}

def Reports (name : ChannelName) (message : List UInt8) : Prop :=
  ∃ label, handleDcepPacket message = (.success, some label) ∧
    (message.drop label.offset).take label.length = name.bytes ∧ label.length = name.bytes.length

/-- The label is in the received bytes, and in the buffer for the name with a terminating zero. -/
structure LabelFits (data : List UInt8) (label : ReportedLabel) : Prop where
  inside : label.offset + label.length ≤ data.length
  fits : label.length ≤ maxDataChannelNameLen

/-- The declared length of the label is one of a message that is not taken, or of a label that is
there. -/
def DeclaredRight (data : List UInt8) : Prop :=
  data.length ≤ dcepHeaderLength ∨ data.head? ≠ some dcepDataChannelOpen ∨
    int16At data 8 + int16At data 10 + dcepHeaderLength < data.length ∨
    maxAllowablePacketLength < data.length ∨
    int16At data 8 ≤ min (data.length - dcepHeaderLength) maxDataChannelNameLen

/-! ### The message of a sender -/

theorem dcepMessage_eq (session : SctpSession) (streamId : UInt32) (name : ChannelName)
    (init : DataChannelInit) :
    dcepMessage session streamId name init
      = [0x03, init.channelType, 0, 0] ++ int32Bytes init.reliabilityParameter ++
        (beBytes 2 name.bytes.length ++ [0, 0]) ++ name.bytes := by
  have hlen : ([0x03, init.channelType, 0, 0] ++ int32Bytes init.reliabilityParameter ++
      (beBytes 2 name.bytes.length ++ [0, 0]) ++ name.bytes).length
        = dcepHeaderLength + name.bytes.length := by
    simp [int32Bytes, dcepHeaderLength]
    omega
  have hopen : dataChannelOpen name init
      = ([0x03, init.channelType, 0, 0] ++ int32Bytes init.reliabilityParameter ++
        (beBytes 2 name.bytes.length ++ [0, 0]) ++ name.bytes)
        ++ List.replicate (maxAllowablePacketLength - 12 - name.bytes.length) 0 := by
    simp [dataChannelOpen, beBytes]
  unfold dcepMessage sctpSessionWriteDcep
  rw [hopen, ← hlen, List.take_left]

theorem length_dcepMessage (session : SctpSession) (streamId : UInt32) (name : ChannelName)
    (init : DataChannelInit) :
    (dcepMessage session streamId name init).length = dcepHeaderLength + name.bytes.length := by
  rw [dcepMessage_eq]
  simp [int32Bytes, dcepHeaderLength]
  omega

/-- **A message with a label is reported with it**, and one without is passed over. -/
theorem handleDcepPacket_dcepMessage (session : SctpSession) (streamId : UInt32)
    (name : ChannelName) (init : DataChannelInit) :
    handleDcepPacket (dcepMessage session streamId name init)
      = (.success, if name.bytes = [] then none
          else some { offset := dcepHeaderLength, length := name.bytes.length }) := by
  have hmax := name.length_le
  have hlen := length_dcepMessage session streamId name init
  have hhead : (dcepMessage session streamId name init).head? = some dcepDataChannelOpen := by
    rw [dcepMessage_eq]
    rfl
  -- the label is the name, and there is no protocol
  have hlabel : int16At (dcepMessage session streamId name init) 8 = name.bytes.length := by
    have hprefix : ([0x03, init.channelType, 0, 0] ++ int32Bytes init.reliabilityParameter).length =
        8 := by
      simp [int32Bytes]
    rw [dcepMessage_eq, int16At, List.append_assoc, ← hprefix, List.drop_left, List.append_assoc,
      List.take_left' (length_beBytes 2 _), beNat_beBytes_of_lt]
    unfold maxDataChannelNameLen at hmax
    omega
  have hprotocol : int16At (dcepMessage session streamId name init) 10 = 0 := by
    have hprefix : ([0x03, init.channelType, 0, 0] ++ int32Bytes init.reliabilityParameter
        ++ beBytes 2 name.bytes.length).length = 10 := by
      simp [int32Bytes]
    have hassoc : dcepMessage session streamId name init
        = ([0x03, init.channelType, 0, 0] ++ int32Bytes init.reliabilityParameter
          ++ beBytes 2 name.bytes.length) ++ ([0, 0] ++ name.bytes) := by
      rw [dcepMessage_eq]
      simp
    rw [hassoc, int16At, ← hprefix, List.drop_left]
    simp [beNat]
  unfold handleDcepPacket
  simp only [hlen, hhead, hlabel, hprotocol]
  cases hbytes : name.bytes with
  | nil => simp
  | cons b bytes =>
    rw [hbytes] at hmax
    have hle : (b :: bytes).length ≤ 255 := hmax
    have hpos : 0 < (b :: bytes).length := Nat.succ_pos _
    generalize (b :: bytes).length = n at hle hpos ⊢
    have hshort : n ≤ 512 := by omega
    simp [dcepHeaderLength, maxAllowablePacketLength, hpos, hshort, Nat.add_comm]

/-- The label comes back exactly if there is one. -/
theorem reports_iff (session : SctpSession) (streamId : UInt32) (name : ChannelName)
    (init : DataChannelInit) :
    Reports name (dcepMessage session streamId name init) ↔ name.bytes ≠ [] := by
  unfold Reports
  rw [handleDcepPacket_dcepMessage]
  constructor
  · rintro ⟨label, heq, -⟩ hempty
    rw [if_pos hempty] at heq
    cases heq
  · intro hne
    refine ⟨{ offset := dcepHeaderLength, length := name.bytes.length }, by
      rw [if_neg hne], ?_, rfl⟩
    have hprefix : ([0x03, init.channelType, 0, 0] ++ int32Bytes init.reliabilityParameter
        ++ (beBytes 2 name.bytes.length ++ [0, 0])).length = dcepHeaderLength := by
      simp [int32Bytes, dcepHeaderLength]
    rw [dcepMessage_eq, ← hprefix, List.drop_left, List.take_length]

/-! ### Any message -/

/-- What is reported is the declared length of the label, behind the header. -/
theorem handleDcepPacket_some {label : ReportedLabel}
    (h : handleDcepPacket data = (.success, some label)) :
    label = { offset := dcepHeaderLength, length := int16At data 8 } ∧
      dcepHeaderLength < data.length ∧
      data.head? = some dcepDataChannelOpen ∧
      data.length ≤ int16At data 8 + int16At data 10 + dcepHeaderLength ∧
      data.length ≤ maxAllowablePacketLength := by
  unfold handleDcepPacket at h
  split_ifs at h with hopen hlengths hmax
  · cases h
  · cases h
  · obtain rfl := Option.some.inj (Prod.mk.inj h).2
    exact ⟨rfl, hopen.1, hopen.2, Nat.le_of_not_lt hlengths, Nat.le_of_not_lt hmax⟩
  · cases h

theorem labelFits_iff (data : List UInt8) :
    (∀ label, handleDcepPacket data = (.success, some label) → LabelFits data label)
      ↔ DeclaredRight data := by
  constructor
  · intro h
    by_contra hwrong
    simp only [DeclaredRight, not_or, Nat.not_le, not_not, Nat.not_lt] at hwrong
    obtain ⟨hlong, hhead, hlengths, hmax, hdeclared⟩ := hwrong
    have htaken : handleDcepPacket data
        = (.success, some { offset := dcepHeaderLength, length := int16At data 8 }) := by
      unfold handleDcepPacket
      simp [hlong, hhead, Nat.not_lt.mpr hlengths, Nat.not_lt.mpr hmax]
    obtain ⟨hinside, hfits⟩ := h _ htaken
    dsimp only at hinside hfits
    omega
  · intro h label htaken
    obtain ⟨rfl, hlong, hhead, hlengths, hmax⟩ := handleDcepPacket_some htaken
    rcases h with h | h | h | h | h
    · omega
    · exact absurd hhead h
    · omega
    · omega
    · rw [Nat.le_min] at h
      exact ⟨by show dcepHeaderLength + int16At data 8 ≤ data.length; omega, h.2⟩

/-- A label that fits is copied to the channel, up to a zero in it. -/
theorem onSctpSessionDataChannelOpen_ok {label : ReportedLabel} (h : LabelFits data label)
    (channelId : UInt32) :
    ∃ channel, onSctpSessionDataChannelOpen data channelId label = .ok channel ∧
      channel.name.length = maxDataChannelNameLen + 1 ∧
      channel.name.takeWhile (· ≠ 0)
        = ((data.drop label.offset).take label.length).takeWhile (· ≠ 0) := by
  obtain ⟨hinside, hfits⟩ := h
  set src := data.drop label.offset with hsrc
  set copied := (src.takeWhile (· ≠ 0)).take label.length with hcopied
  have hlen : label.length ≤ src.length := by
    rw [hsrc, List.length_drop]
    omega
  have hcopy : strncpy (List.replicate (maxDataChannelNameLen + 1) 0) src label.length
      = .ok (copied ++ List.replicate (label.length - copied.length) 0
          ++ List.replicate (maxDataChannelNameLen + 1 - label.length) 0) := by
    unfold strncpy
    rw [if_neg (by simp; omega), if_neg (by omega)]
    simp [hcopied]
  have hle : copied.length ≤ label.length := by
    rw [hcopied, List.length_take]
    exact Nat.min_le_left _ _
  refine ⟨_, by simp only [onSctpSessionDataChannelOpen, ← hsrc, hcopy]; rfl, ?_, ?_⟩
  · simp only [List.length_append, List.length_replicate]
    omega
  · -- there is a zero behind what is copied
    have hzeros : List.replicate (label.length - copied.length) (0 : UInt8)
        ++ List.replicate (maxDataChannelNameLen + 1 - label.length) 0
          = 0 :: List.replicate (maxDataChannelNameLen - copied.length) 0 := by
      have hcount : label.length - copied.length + (maxDataChannelNameLen + 1 - label.length)
          = maxDataChannelNameLen - copied.length + 1 := by omega
      rw [List.replicate_append_replicate, hcount, List.replicate_succ]
    have hnonzero : ∀ b ∈ copied, decide (b ≠ 0) = true := by
      intro b hb
      rw [hcopied] at hb
      have hmem := List.mem_takeWhile_imp (List.mem_of_mem_take hb)
      simpa using hmem
    rw [List.append_assoc, hzeros, List.takeWhile_append_of_pos hnonzero]
    simp [hcopied, List.take_takeWhile]

/-! ### Both sides -/

/-- **Opening a data channel**: the label comes back exactly if it is not empty, and a label that is
reported is in the received bytes and fits its buffer exactly if its declared length says so. -/
theorem opens_right_iff (session : SctpSession) (streamId : UInt32) (name : ChannelName)
    (init : DataChannelInit) (data : List UInt8) :
    (Reports name (dcepMessage session streamId name init) ↔ name.bytes ≠ []) ∧
      ((∀ label, handleDcepPacket data = (.success, some label) → LabelFits data label)
        ↔ DeclaredRight data) :=
  ⟨reports_iff session streamId name init, labelFits_iff data⟩

/-- An open message that declares a label of 300 bytes and has one of a byte. -/
def longLabel : List UInt8 := [0x03, 0, 0, 0, 0, 0, 0, 0, 1, 44, 0, 0, 97]

/-- A channel without a name is not reported, and a label of one byte is taken for one of 300. -/
theorem empty_label_lost :
    ¬ Reports { bytes := [], length_le := Nat.zero_le _ }
        (dcepMessage createSctpSession 0 { bytes := [], length_le := Nat.zero_le _ }
          { ordered := true, maxPacketLifeTime := none, maxRetransmits := none }) ∧
      ¬ ∀ label, handleDcepPacket longLabel = (.success, some label) →
      LabelFits longLabel label := by
  constructor
  · rintro ⟨label, heq, -⟩
    have hnone : (handleDcepPacket (dcepMessage createSctpSession 0
        { bytes := [], length_le := Nat.zero_le _ }
        { ordered := true, maxPacketLifeTime := none, maxRetransmits := none })).2 = none := by
      decide +kernel
    rw [heq] at hnone
    cases hnone
  · intro h
    have htaken : handleDcepPacket longLabel =
        (.success, some { offset := 12, length := 300 }) := by
      decide +kernel
    exact absurd (h _ htaken).fits (by decide)

end KvsWebrtc.Sctp
