import KvsWebrtc.Common.Run
import KvsWebrtc.Stun.Builder
import Mathlib.Tactic.SplitIfs

/-!
# The records of a packet that is built

`Sound` is what a caller of the append functions relies on: at most 20 attributes, whose records lie
apart from each other inside the allocation, and a message length that fits them.  It holds along a
run exactly if every step meets `CallOk` (`sound_along_iff`).  An append function breaks it in three
ways:

* the 21st attribute is accepted,
* the place behind an attribute is computed from its type, and an address that has the type of
  something smaller is overwritten in part,
* the padded length of 65533 or more bytes is 0 in 16 bits.

A packet that `Stun.Serialize` builds as the list of its attributes is built in the allocation too
(`appendAll_createStunPacket`).

`updateStunNonceAttribute` relies on the pointer in an attribute that has the type of a nonce.
-/

namespace KvsWebrtc.Stun.Builder

variable {p p' : Packet} {c : Call} {a : StunAttribute} {size encoded : Nat} {status : Status}

/-! ### Records -/

/-- The bytes of a record: the structure, and the padded bytes that follow it. -/
def recordSize (a : StunAttribute) : Nat :=
  match a.value with
  | .address _ => sizeofAddress
  | .bytes _ _ | .errorCode _ _ _ => sizeofBytes + roundUp a.length
  | .number _ | .fourBytes _ | .channelNumber _ | .fingerprint _ => sizeofNumber
  | .tieBreaker _ => sizeofIceControl
  | .messageIntegrity _ => stunAttributeHeaderLen + stunHmacValueLen
  | .headerOnly => sizeofFlag

def Record.span (r : Record) : Nat × Nat := (r.offset, r.offset + recordSize r.attr)

/-- The length of the attribute in the message: its header and its padded value. -/
def Record.messageSize (r : Record) : Nat := stunAttributeHeaderLen + roundUp r.attr.length

def Packet.spans (p : Packet) : List (Nat × Nat) := p.attributeList.map Record.span

def Packet.messageSize (p : Packet) : Nat := (p.attributeList.map Record.messageSize).sum

def Apart (s t : Nat × Nat) : Prop := s.2 ≤ t.1 ∨ t.2 ≤ s.1

/-- What a packet that is built looks like. -/
structure Sound (p : Packet) : Prop where
  count : p.attributeList.length ≤ stunAttributeMaxCount
  inside : ∀ s ∈ p.spans, attributesOffset ≤ s.1 ∧ s.2 ≤ stunPacketAllocationSize
  apart : p.spans.Pairwise Apart
  messageLength : p.header.messageLength = p.messageSize

/-! ### The condition -/

def Packet.nextPlace (p : Packet) : Nat :=
  match p.attributeList.getLast? with
  | none => attributesOffset
  | some r => r.offset + getPackagedStunAttributeSize r.attr

/-- The last attribute must stay the last. -/
def Packet.Closed (p : Packet) : Prop :=
  ∃ r ∈ p.attributeList.getLast?,
    r.attr.type = typeMessageIntegrity ∨ r.attr.type = typeFingerprint

/-- The functions see room for `size` bytes behind the last attribute. -/
def Packet.Fits (p : Packet) (size : Nat) : Prop :=
  ¬ p.Closed ∧ p.nextPlace < stunPacketAllocationSize ∧ p.nextPlace + size ≤
  stunPacketAllocationSize

/-- The size by which the next place is computed covers the last record. -/
def Packet.LastCovered (p : Packet) : Prop :=
  ∀ r ∈ p.attributeList.getLast?, recordSize r.attr ≤ getPackagedStunAttributeSize r.attr

/-- What `appendBytes` appends. -/
def ofBytes (type : Nat) (b : List UInt8) : StunAttribute × Nat × Nat :=
  (bytesAttribute type b, roundUp8 (roundUp16 b.length + sizeofBytes), roundUp16 b.length)

/-- What `appendFour` appends. -/
def ofFour (type : Nat) (value : AttributeValue) : StunAttribute × Nat × Nat :=
  (⟨type, 4, value⟩, roundUp8 sizeofNumber, 4)

/-- The attribute that a call with valid arguments appends, with the size that it asks for and what
it adds to the length of the message. -/
def Call.appended : Call → Option (StunAttribute × Nat × Nat)
  | .address type pAddress => pAddress.map fun a =>
      (addressAttribute type.toNat a, roundUp8 sizeofAddress,
      (addressAttribute type.toNat a).length)
  | .username userName => userName.map fun s => ofBytes typeUsername
    (boundedString s stunMaxUsernameLen)
  | .priority n => some (ofFour typePriority (.number n.toNat))
  | .flag type => some (⟨type.toNat, 0, .headerOnly⟩, roundUp8 sizeofFlag, 0)
  | .lifetime n => some (ofFour typeLifetime (.number n.toNat))
  | .changeRequest n => some (ofFour typeChangeRequest (.number n.toNat))
  | .requestedTransport protocol => some (ofFour typeRequestedTransport
    (.fourBytes [protocol, 0, 0, 0]))
  | .realm s => s.map fun s => ofBytes typeRealm (boundedString s stunMaxRealmLen)
  | .allocationAddressFamily ipFamily =>
      some (⟨typeRequestedAddressFamily, 4, .fourBytes [ipFamily, 0, 0, 0]⟩, roundUp sizeofNumber,
        4)
  | .nonce b => b.map fun b => ofBytes typeNonce b.1
  | .updateNonce _ => none
  | .errorCode errorPhrase code => errorPhrase.map fun s =>
      let b := boundedString s stunMaxErrorPhraseLen
      (⟨typeErrorCode, b.length, .errorCode code.toNat (roundUp16 b.length) (padded b)⟩,
        roundUp8 (roundUp16 b.length + sizeofBytes), roundUp16 b.length)
  | .iceControl type tieBreaker =>
      if type.toNat = typeIceControlling ∨ type.toNat = typeIceControlled then
        some (⟨type.toNat, 8, .tieBreaker tieBreaker.toNat⟩, roundUp8 sizeofIceControl, 8)
      else none
  | .data b => b.map fun b => ofBytes typeData b.1
  | .channelNumber n => some (ofFour typeChannelNumber (.channelNumber n.toNat))

/-- The padded length of the bytes fits in 16 bits. -/
def Short (a : StunAttribute) : Prop := roundUp a.length < 2 ^ 16

/-- An append that finds room is made with less than 20 attributes, behind a record that is covered,
and with bytes whose padded length fits.  A nonce is only copied to where a pointer points. -/
def CallOk (p : Packet) (c : Call) : Prop :=
  (∀ a size encoded, c.appended = some (a, size, encoded) → p.Fits size →
    p.attributeList.length < stunAttributeMaxCount ∧ p.LastCovered ∧ Short a) ∧
  ∀ nonce r, c = .updateNonce (some nonce) → p.attributeList.find? Record.isNonce = some r →
    r.attr.length = nonce.1.length → hasPointer r.attr.value = true ∨ nonce.1 = []

/-! ### What the functions do -/

theorem nextPlace_nil (h : p.attributeList.getLast? = none) : p.nextPlace = attributesOffset := by
  rw [Packet.nextPlace, h]

theorem nextPlace_last {r : Record} (h : p.attributeList.getLast? = some r) :
    p.nextPlace = r.offset + getPackagedStunAttributeSize r.attr := by
  rw [Packet.nextPlace, h]

theorem getFirstAvailableStunAttribute_cases (p : Packet) :
    (p.attributeList.length ≤ stunAttributeMaxCount ∧ ¬ p.Closed ∧
      p.nextPlace < stunPacketAllocationSize ∧ getFirstAvailableStunAttribute p = .ok p.nextPlace) ∨
    (¬ (p.attributeList.length ≤ stunAttributeMaxCount ∧ ¬ p.Closed ∧
      p.nextPlace < stunPacketAllocationSize) ∧
      ∃ status ≠ Status.success, getFirstAvailableStunAttribute p = .error status) := by
  unfold getFirstAvailableStunAttribute
  by_cases hcount : p.attributeList.length ≤ stunAttributeMaxCount
  · rw [if_pos hcount]
    cases hlast : p.attributeList.getLast? with
    | none =>
      refine .inl ⟨hcount, ?_, ?_, ?_⟩
      · rintro ⟨r, hr, -⟩
        rw [hlast] at hr
        cases hr
      · rw [nextPlace_nil hlast]
        decide
      · rw [nextPlace_nil hlast]
    | some r =>
      dsimp only
      have hclosed : p.Closed ↔
          r.attr.type = typeMessageIntegrity ∨ r.attr.type = typeFingerprint := by
        simp [Packet.Closed, hlast]
      rw [hclosed, nextPlace_last hlast]
      split_ifs with htype hlt
      · exact .inr ⟨fun h => h.2.1 htype, .stunAttributesAfterFingerprintMessageIntegrity, by
          decide, rfl⟩
      · exact .inl ⟨hcount, htype, hlt, rfl⟩
      · exact .inr ⟨fun h => hlt h.2.2, .notEnoughMemory, by decide, rfl⟩
  · rw [if_neg hcount]
    exact .inr ⟨fun h => hcount h.1, .stunMaxAttributeCount, by decide, rfl⟩

def Packet.push (p : Packet) (a : StunAttribute) (encoded : Nat) : Packet where
  header :=
    { p.header with
      messageLength := (p.header.messageLength + encoded + stunAttributeHeaderLen) % 2 ^ 16 }
  attributeList := p.attributeList ++ [⟨p.nextPlace, a⟩]

theorem appendAttribute_cases (p : Packet) (a : StunAttribute) (size encoded : Nat) :
    (p.attributeList.length ≤ stunAttributeMaxCount ∧ p.Fits size ∧
      appendAttribute p a size encoded = (.success, p.push a encoded)) ∨
    (¬ (p.attributeList.length ≤ stunAttributeMaxCount ∧ p.Fits size) ∧
      ∃ status ≠ Status.success, appendAttribute p a size encoded = (status, p)) := by
  unfold appendAttribute
  rcases getFirstAvailableStunAttribute_cases p with ⟨hcount, hclosed, hplace, heq⟩ |
    ⟨hnot, status, hstatus, heq⟩
  · rw [heq]
    dsimp only
    split_ifs with hsize
    · exact .inl ⟨hcount, ⟨hclosed, hplace, hsize⟩, rfl⟩
    · exact .inr ⟨fun h => hsize h.2.2.2, .notEnoughMemory, by decide, rfl⟩
  · rw [heq]
    exact .inr ⟨fun h => hnot ⟨h.1, h.2.1, h.2.2.1⟩, status, hstatus, rfl⟩

theorem run_appended (p : Packet) (h : c.appended = some (a, size, encoded)) :
    c.run p = some (appendAttribute p a size encoded) := by
  cases c with
  | updateNonce nonce => cases h
  | address type pAddress | username s | realm s | nonce b | data b | errorCode s code =>
    obtain ⟨x, rfl, hx⟩ := Option.map_eq_some_iff.mp h
    cases hx
    rfl
  | iceControl type tieBreaker =>
    obtain ⟨htype, hx⟩ := Option.ite_none_right_eq_some.mp h
    cases hx
    exact congrArg some (if_pos htype)
  | priority n | flag n | lifetime n | changeRequest n | requestedTransport n
  | allocationAddressFamily n | channelNumber n =>
    cases h
    rfl

theorem run_invalid (p : Packet) (h : c.appended = none) (hc : ∀ nonce, c ≠ .updateNonce nonce) :
    ∃ status ≠ Status.success, c.run p = some (status, p) := by
  cases c with
  | updateNonce nonce => exact absurd rfl (hc nonce)
  | address type x | username x | realm x | nonce x | data x | errorCode x code =>
    cases x with
    | none => exact ⟨.nullArg, by decide, rfl⟩
    | some x => cases h
  | iceControl type tieBreaker =>
    have htype := fun hx => Option.some_ne_none _ ((if_pos hx).symm.trans h)
    exact ⟨.invalidArg, by decide, congrArg some (if_neg htype)⟩
  | priority n | flag n | lifetime n | changeRequest n | requestedTransport n
  | allocationAddressFamily n | channelNumber n => cases h

theorem appended_spec (h : c.appended = some (a, size, encoded)) :
    stunAttributeHeaderLen + roundUp a.length ≤ recordSize a ∧
      (Short a → recordSize a ≤ size ∧ encoded = roundUp a.length) ∧
      (¬ Short a → stunPacketAllocationSize < recordSize a) := by
  have hbytes : ∀ b : List UInt8, stunAttributeHeaderLen + roundUp b.length ≤ sizeofBytes + roundUp
      b.length ∧
      (roundUp b.length < 2 ^ 16 → sizeofBytes + roundUp b.length ≤ roundUp8
      (roundUp16 b.length + sizeofBytes) ∧ roundUp16 b.length = roundUp b.length) ∧
      (¬ roundUp b.length < 2 ^ 16 → stunPacketAllocationSize < sizeofBytes +
      roundUp b.length) := by
    intro b
    refine ⟨by unfold stunAttributeHeaderLen sizeofBytes; omega, fun hshort => ?_, fun hlong => ?_⟩
    · rw [roundUp16, Nat.mod_eq_of_lt hshort]
      unfold roundUp8 sizeofBytes
      omega
    · unfold stunPacketAllocationSize
      omega
  cases c with
  | updateNonce nonce => cases h
  | address type pAddress =>
    obtain ⟨x, rfl, hx⟩ := Option.map_eq_some_iff.mp h
    cases hx
    by_cases hx : x.family = familyIpv4
    all_goals simp [addressAttribute, ipAddressLength, hx, recordSize, Short, roundUp, roundUp8,
      sizeofAddress, stunAttributeHeaderLen]
  | username s | realm s | nonce b | data b | errorCode s code =>
    obtain ⟨x, rfl, hx⟩ := Option.map_eq_some_iff.mp h
    cases hx
    exact hbytes _
  | iceControl type tieBreaker =>
    obtain ⟨-, hx⟩ := Option.ite_none_right_eq_some.mp h
    cases hx
    simp [recordSize, Short, roundUp, roundUp8, sizeofIceControl, stunAttributeHeaderLen]
  | priority n | flag n | lifetime n | changeRequest n | requestedTransport n
  | allocationAddressFamily n | channelNumber n =>
    cases h
    simp [recordSize, Short, roundUp, roundUp8, sizeofNumber, sizeofFlag, stunAttributeHeaderLen]

/-! ### The packet as the list of its attributes -/

def Packet.contents (p : Packet) : StunPacket := ⟨p.header, p.attributeList.map Record.attr⟩

/-- The next place is the sum of the sizes that the attributes have by what they hold. -/
def Packet.Placed (p : Packet) : Prop :=
  p.nextPlace = attributesOffset +
    (p.contents.attributeList.map Stun.getPackagedStunAttributeSize).sum

def append (p : Packet) : PacketCall → Status × Packet
  | .call (.mappedAddress a) => appendStunAddressAttribute p typeMappedAddress (some a.1)
  | .call (.xorMappedAddress a) => appendStunAddressAttribute p typeXorMappedAddress (some a.1)
  | .call (.username s) => appendStunUsernameAttribute p (some s)
  | .call (.priority n) => appendStunPriorityAttribute p n
  | .call .useCandidate => appendStunFlagAttribute p typeUseCandidate
  | .call (.lifetime n) => appendStunLifetimeAttribute p n
  | .call (.changeRequest n) => appendStunChangeRequestAttribute p n
  | .call (.requestedTransport n) => appendStunRequestedTransportAttribute p n
  | .call (.realm s) => appendStunRealmAttribute p (some s)
  | .call (.nonce b) => appendStunNonceAttribute p (some b)
  | .call (.iceControlled n) => appendStunIceControllAttribute p typeIceControlled n
  | .call (.iceControlling n) => appendStunIceControllAttribute p typeIceControlling n
  | .call (.data b) => appendStunDataAttribute p (some b)
  | .call (.channelNumber n) => appendStunChannelNumberAttribute p n
  | .address type a => appendStunAddressAttribute p type.1 (some a.1)
  | .flag type => appendStunFlagAttribute p type.1
  | .allocationAddressFamily n => appendStunAllocationAddressFamily p n
  | .errorCode s code => appendStunErrorCodeAttribute p (some s) code

/-- The two models of a call agree, unless the list says that it writes outside. -/
def Agree (p : Packet) : Except Failure StunPacket → Status × Packet → Prop
  | .ok q, r => r.1 = .success ∧ r.2.contents = q ∧ r.2.Placed
  | .error (.status status), r => r = (status, p)
  | .error .outOfBounds, _ => True

theorem getFirstAvailableStunAttribute_contents (hp : p.Placed) :
    Stun.getFirstAvailableStunAttribute p.contents =
      (getFirstAvailableStunAttribute p).mapError Failure.status := by
  have hlength : p.contents.attributeList.length = p.attributeList.length := List.length_map _
  have hlast : p.contents.attributeList.getLast? = p.attributeList.getLast?.map Record.attr :=
    List.getLast?_map
  rw [Stun.getFirstAvailableStunAttribute, getFirstAvailableStunAttribute, hlength, hlast]
  by_cases hcount : p.attributeList.length ≤ stunAttributeMaxCount
  · rw [if_neg (Nat.not_lt.mpr hcount), if_pos hcount]
    cases hr : p.attributeList.getLast? with
    | none => rfl
    | some r =>
      have hplace : r.offset + getPackagedStunAttributeSize r.attr = attributesOffset +
          (p.contents.attributeList.map Stun.getPackagedStunAttributeSize).sum :=
        (nextPlace_last hr).symm.trans hp
      simp only [Option.map_some, hplace]
      split_ifs <;> rfl
  · rw [if_pos (Nat.lt_of_not_le hcount), if_neg hcount]
    rfl

/-- **An append** of an attribute whose type has the size of what it holds. -/
theorem appendAttribute_contents (hp : p.Placed) {written : Nat}
    (hsize : getPackagedStunAttributeSize a = Stun.getPackagedStunAttributeSize a) :
    Agree p (Stun.appendAttribute p.contents a size written encoded)
      (appendAttribute p a (roundUp8 size) encoded) := by
  rw [Stun.appendAttribute, getFirstAvailableStunAttribute_contents hp, appendAttribute]
  cases hfirst : getFirstAvailableStunAttribute p with
  | error status => rfl
  | ok offset =>
    have hoffset : offset = p.nextPlace := by
      rcases getFirstAvailableStunAttribute_cases p with ⟨-, -, -, hok⟩ | ⟨-, _, -, herror⟩
      · exact Except.ok.inj (hfirst.symm.trans hok)
      · rw [hfirst] at herror
        cases herror
    simp only [Except.mapError]
    split_ifs with hfits hroom
    · refine ⟨rfl, by simp [Packet.contents], ?_⟩
      rw [Packet.Placed, nextPlace_last (r := ⟨offset, a⟩) (by simp), hsize, hoffset, hp]
      simp [Packet.contents, Nat.add_assoc]
    · trivial
    · rfl

theorem append_contents (hp : p.Placed) (c : PacketCall) :
    Agree p (c.run p.contents) (append p c) := by
  have hice (type : Nat) (n : UInt64)
      (htype : type = typeIceControlling ∨ type = typeIceControlled) :
      Agree p (Stun.appendStunIceControllAttribute p.contents type n)
        (appendStunIceControllAttribute p type n) := by
    rw [Stun.appendStunIceControllAttribute, appendStunIceControllAttribute, if_pos htype,
      if_pos htype]
    exact appendAttribute_contents hp (by rcases htype with rfl | rfl <;> rfl)
  cases c with
  | call c =>
    cases c with
    | iceControlled n => exact hice _ n (.inr rfl)
    | iceControlling n => exact hice _ n (.inl rfl)
    | _ => exact appendAttribute_contents hp rfl
  | address type a =>
    obtain ⟨type, htype⟩ := type
    refine appendAttribute_contents hp ?_
    simp only [addressTypes, List.mem_cons, List.not_mem_nil, or_false] at htype
    rcases htype with rfl | rfl | rfl | rfl | rfl | rfl | rfl <;> rfl
  | flag type =>
    obtain ⟨type, htype⟩ := type
    refine appendAttribute_contents hp ?_
    simp only [flagTypes, List.mem_cons, List.not_mem_nil, or_false] at htype
    rcases htype with rfl | rfl <;> rfl
  | allocationAddressFamily n => exact appendAttribute_contents hp rfl
  | errorCode s code => exact appendAttribute_contents hp rfl

/-- The calls one after the other; `none` if one of them fails. -/
def appendAll : List PacketCall → Packet → Option Packet
  | [], p => some p
  | c :: cs, p =>
    match append p c with
    | (.success, p') => appendAll cs p'
    | _ => none

theorem appendAll_contents (calls : List PacketCall) {q : StunPacket} (hp : p.Placed)
    (h : buildAll calls p.contents = .ok q) :
    ∃ p', appendAll calls p = some p' ∧ p'.contents = q ∧ p'.Placed := by
  induction calls generalizing p with
  | nil => exact ⟨p, rfl, Except.ok.inj h, hp⟩
  | cons c cs ih =>
    have hagree := append_contents hp c
    rw [buildAll] at h
    cases hrun : c.run p.contents with
    | error e => rw [hrun] at h; cases h
    | ok p₁ =>
      rw [hrun] at h hagree
      obtain ⟨hstatus, hcontents, hplaced⟩ := hagree
      obtain ⟨p', hall, hq, hp'⟩ := ih hplaced (hcontents.symm ▸ h)
      have hstep : append p c = (.success, (append p c).2) := Prod.ext hstatus rfl
      refine ⟨p', ?_, hq, hp'⟩
      rw [appendAll, hstep]
      exact hall

/-- **The two models agree**: what the calls build as a list they build in the allocation. -/
theorem appendAll_createStunPacket {stunPacketType : Nat} {transactionId : List UInt8}
    (random : List UInt8) (calls : List PacketCall) {q : StunPacket}
    (h : buildAll calls (Stun.createStunPacket stunPacketType transactionId) = .ok q) :
    ∃ p', appendAll calls (createStunPacket stunPacketType (some transactionId) random) = some p' ∧
      p'.contents = q := by
  have hplaced : (createStunPacket stunPacketType (some transactionId) random).Placed := rfl
  obtain ⟨p', hall, hq, -⟩ := appendAll_contents calls hplaced h
  exact ⟨p', hall, hq⟩

/-! ### The invariant -/

def Packet.lastEnd (p : Packet) : Nat := (p.spans.getLast?.map Prod.snd).getD attributesOffset

/-- The records stand one behind the other. -/
structure Inv (p : Packet) : Prop where
  count : p.attributeList.length ≤ stunAttributeMaxCount
  inside : ∀ s ∈ p.spans, attributesOffset ≤ s.1 ∧ s.2 ≤ stunPacketAllocationSize
  ordered : p.spans.Pairwise fun s t => s.2 ≤ t.1
  ends : ∀ s ∈ p.spans, s.2 ≤ p.lastEnd
  messageLength : p.header.messageLength = p.messageSize
  messageSize_le : attributesOffset + p.messageSize ≤ p.lastEnd

theorem Inv.sound (h : Inv p) : Sound p :=
  { count := h.count
    inside := h.inside
    apart := h.ordered.imp .inl
    messageLength := h.messageLength }

theorem inv_create (stunPacketType : Nat) (transactionId : Option (List UInt8))
    (random : List UInt8) :
    Inv (createStunPacket stunPacketType transactionId random) :=
  { count := Nat.zero_le _
    inside := fun _ hs => absurd hs List.not_mem_nil
    ordered := .nil
    ends := fun _ hs => absurd hs List.not_mem_nil
    messageLength := rfl
    messageSize_le := Nat.le_refl _ }

/-- The invariant is about the header and the extent of the records. -/
theorem Inv.congr (h : Inv p) (hheader : p'.header = p.header) (hspans : p'.spans = p.spans)
    (hsize : p'.messageSize = p.messageSize) : Inv p' := by
  have hlength : p'.attributeList.length = p.attributeList.length := by
    simpa [Packet.spans] using congrArg List.length hspans
  have hend : p'.lastEnd = p.lastEnd := by rw [Packet.lastEnd, hspans, Packet.lastEnd]
  exact
    { count := hlength ▸ h.count
      inside := hspans ▸ h.inside
      ordered := hspans ▸ h.ordered
      ends := by
        rw [hspans, hend]
        exact h.ends
      messageLength := by
        rw [hheader, hsize]
        exact h.messageLength
      messageSize_le := by
        rw [hsize, hend]
        exact h.messageSize_le }

/-- The next place lies behind the last record if its size is covered. -/
theorem lastCovered_iff (p : Packet) : p.LastCovered ↔ p.lastEnd ≤ p.nextPlace := by
  unfold Packet.LastCovered Packet.lastEnd Packet.spans
  rw [List.getLast?_map]
  cases hlast : p.attributeList.getLast? with
  | none => simp [nextPlace_nil hlast]
  | some r =>
    rw [nextPlace_last hlast]
    simp [Record.span]

theorem spans_push (p : Packet) (a : StunAttribute) (encoded : Nat) :
    (p.push a encoded).spans = p.spans ++ [(p.nextPlace, p.nextPlace + recordSize a)] := by
  simp [Packet.spans, Packet.push, Record.span]

theorem messageSize_push (p : Packet) (a : StunAttribute) (encoded : Nat) :
    (p.push a encoded).messageSize = p.messageSize +
      (stunAttributeHeaderLen + roundUp a.length) := by
  simp [Packet.messageSize, Packet.push, Record.messageSize]

theorem lastEnd_push (p : Packet) (a : StunAttribute) (encoded : Nat) :
    (p.push a encoded).lastEnd = p.nextPlace + recordSize a := by
  rw [Packet.lastEnd, spans_push]
  simp

/-- **An append that is in order keeps the invariant.** -/
theorem Inv.push (h : Inv p) (hcount : p.attributeList.length < stunAttributeMaxCount)
    (hcovered : p.LastCovered) (hsize : stunAttributeHeaderLen + roundUp a.length ≤ recordSize a)
    (hroom : p.nextPlace + recordSize a ≤ stunPacketAllocationSize)
    (hencoded : encoded = roundUp a.length) : Inv (p.push a encoded) := by
  -- the new record lies behind all the others
  have hend := (lastCovered_iff p).mp hcovered
  have htotal := h.messageSize_le
  refine
    { count := ?_
      inside := fun s hs => ?_
      ordered := ?_
      ends := fun s hs => ?_
      messageLength := ?_
      messageSize_le := ?_ }
  · rw [Packet.push, List.length_append, List.length_singleton]
    exact hcount
  · rw [spans_push] at hs
    rcases List.mem_append.mp hs with hs | hs
    · exact h.inside s hs
    · obtain rfl := List.mem_singleton.mp hs
      exact ⟨by dsimp only; omega, hroom⟩
  · rw [spans_push, List.pairwise_append]
    refine ⟨h.ordered, List.pairwise_singleton _ _, fun s hs t ht => ?_⟩
    obtain rfl := List.mem_singleton.mp ht
    exact (h.ends s hs).trans hend
  · rw [spans_push] at hs
    rw [lastEnd_push]
    rcases List.mem_append.mp hs with hs | hs
    · have := h.ends s hs
      omega
    · obtain rfl := List.mem_singleton.mp hs
      exact Nat.le_refl _
  · -- the length of the message does not overflow, because the records are longer
    have hlt : p.messageSize + encoded + stunAttributeHeaderLen < 2 ^ 16 := by
      unfold stunPacketAllocationSize at hroom
      omega
    rw [messageSize_push, Packet.push, h.messageLength, Nat.mod_eq_of_lt hlt]
    dsimp only
    omega
  · rw [messageSize_push, lastEnd_push]
    omega

/-- An append that leaves a sound packet was in order. -/
theorem Sound.of_push (hsize : 0 < recordSize a) (hs : Sound (p.push a encoded)) :
    p.attributeList.length < stunAttributeMaxCount ∧ p.LastCovered ∧
      p.nextPlace + recordSize a ≤ stunPacketAllocationSize := by
  have hcount := hs.count
  have hinside := hs.inside
  have hapart := hs.apart
  rw [spans_push] at hinside hapart
  refine ⟨?_, fun r hr => ?_, (hinside _ (List.mem_append_right _ (List.mem_singleton_self _))).2⟩
  · rw [Packet.push, List.length_append, List.length_singleton] at hcount
    exact hcount
  · -- the new record lies behind the last one, so it must lie behind its end
    have hmem : r.span ∈ p.spans := List.mem_map_of_mem (List.mem_of_getLast? hr)
    have hlast := (List.pairwise_append.mp hapart).2.2 r.span hmem _ (List.mem_singleton_self _)
    rw [Apart, nextPlace_last hr, Record.span] at hlast
    dsimp only at hlast
    omega

/-! ### Updating the nonce -/

@[simp] theorem span_setNonce (nonce : List UInt8) (r : Record) :
    (r.setNonce nonce).span = r.span := by
  unfold Record.setNonce Record.span recordSize
  cases hvalue : r.attr.value <;> simp

@[simp] theorem messageSize_setNonce (nonce : List UInt8) (r : Record) :
    (r.setNonce nonce).messageSize = r.messageSize := rfl

/-- A function of the records that does not see the change. -/
theorem map_modify {β : Type*} {f : Record → Record} {g : Record → β} (hg : ∀ r, g (f r) = g r)
    (l : List Record) (i : Nat) : (l.modify i f).map g = l.map g := by
  induction l generalizing i with
  | nil => simp
  | cons r l ih => cases i <;> simp [hg, ih]

/-- The second part of `CallOk`. -/
theorem callOk_update_iff {nonce : Bytes16} {r : Record}
    (hfind : p.attributeList.find? Record.isNonce = some r) :
    CallOk p (.updateNonce (some nonce)) ↔
      (r.attr.length = nonce.1.length → hasPointer r.attr.value = true ∨ nonce.1 = []) := by
  constructor
  · exact fun hok => hok.2 nonce r rfl hfind
  · intro hok
    refine ⟨fun a size encoded h => (by cases h), fun nonce' r' heq hr => ?_⟩
    cases heq
    rw [hfind] at hr
    cases hr
    exact hok

theorem callOk_update_of_none {nonce : Option Bytes16}
    (h : nonce = none ∨ p.attributeList.find? Record.isNonce = none) :
    CallOk p (.updateNonce nonce) := by
  refine ⟨fun a size encoded h => (by cases h), fun nonce' r heq hr => ?_⟩
  cases heq
  rcases h with h | h
  · cases h
  · rw [h] at hr
    cases hr

/-- **An update leaves the records where they are**, if it has a pointer to follow. -/
theorem update_cases (p : Packet) (nonce : Option Bytes16) :
    (∃ p', (Call.updateNonce nonce).run p = some (.success, p') ∧ CallOk p (.updateNonce nonce) ∧
      p'.header = p.header ∧ p'.spans = p.spans ∧ p'.messageSize = p.messageSize) ∨
    (∃ status ≠ Status.success, (Call.updateNonce nonce).run p = some (status, p) ∧
      CallOk p (.updateNonce nonce)) ∨
    ((Call.updateNonce nonce).run p = none ∧ ¬ CallOk p (.updateNonce nonce)) := by
  cases nonce with
  | none => exact .inr (.inl ⟨.nullArg, by decide, rfl, callOk_update_of_none (.inl rfl)⟩)
  | some nonce =>
    have hrun : (Call.updateNonce (some nonce)).run p = updateStunNonceAttribute p (some nonce.1) :=
      rfl
    rw [hrun, updateStunNonceAttribute]
    cases hfind : p.attributeList.find? Record.isNonce with
    | none => exact .inl ⟨p, rfl, callOk_update_of_none (.inr hfind), rfl, rfl, rfl⟩
    | some r =>
      rw [callOk_update_iff hfind]
      dsimp only
      split_ifs with hlength hpointer
      · exact .inr (.inl ⟨.invalidArg, by decide, rfl, fun heq => absurd heq hlength⟩)
      · refine .inl ⟨_, rfl, fun _ => hpointer, rfl, ?_, ?_⟩
        · exact map_modify (span_setNonce nonce.1) _ _
        · exact congrArg List.sum (map_modify (messageSize_setNonce nonce.1) _ _)
      · exact .inr (.inr ⟨rfl, fun hok => hpointer (hok (not_not.mp hlength))⟩)

/-! ### Runs -/

/-- **A call that fails leaves the packet as it was.** -/
theorem run_failed (hrun : c.run p = some (status, p')) (hstatus : status ≠ .success) : p' = p := by
  cases happend : c.appended with
  | some x =>
    obtain ⟨a, size, encoded⟩ := x
    rw [run_appended p happend] at hrun
    rcases appendAttribute_cases p a size encoded with ⟨-, -, hcase⟩ | ⟨-, status', -, hcase⟩
    · rw [hcase] at hrun
      cases hrun
      exact absurd rfl hstatus
    · rw [hcase] at hrun
      cases hrun
      rfl
  | none =>
    by_cases hc : ∀ nonce, c ≠ .updateNonce nonce
    · obtain ⟨status', -, hcase⟩ := run_invalid p happend hc
      rw [hcase] at hrun
      cases hrun
      rfl
    · push Not at hc
      obtain ⟨nonce, rfl⟩ := hc
      rcases update_cases p nonce with ⟨q, hcase, -⟩ | ⟨status', -, hcase, -⟩ | ⟨hcase, -⟩
      · rw [hcase] at hrun
        cases hrun
        exact absurd rfl hstatus
      · rw [hcase] at hrun
        cases hrun
        rfl
      · rw [hcase] at hrun
        cases hrun

/-- The packet after a run so far is there and sound. -/
def Holds (p : Option Packet) : Prop := ∃ q, p = some q ∧ Sound q

def StepOk (p : Option Packet) (c : Call) : Prop := ∀ q, p = some q → CallOk q c

theorem step_of_run {q : Packet} (h : c.run p = some (status, q)) : step (some p) c = some q := by
  rw [step, Option.bind_some, h]
  rfl

theorem callOk_iff (h : c.appended = some (a, size, encoded)) : CallOk p c ↔
    (p.Fits size → p.attributeList.length < stunAttributeMaxCount ∧ p.LastCovered ∧ Short a) := by
  constructor
  · exact fun hok => hok.1 a size encoded h
  · intro hok
    refine ⟨fun a' size' encoded' h' => ?_, fun nonce r heq => ?_⟩
    · rw [h] at h'
      cases h'
      exact hok
    · rw [heq] at h
      cases h

/-- **One call**: it keeps the invariant if it meets the condition, and else the packet is not
sound. -/
theorem inv_step (h : Inv p) (c : Call) :
    (CallOk p c → ∃ q, step (some p) c = some q ∧ Inv q) ∧
      (Holds (step (some p) c) → CallOk p c) := by
  cases happend : c.appended with
  | some x =>
    obtain ⟨a, size, encoded⟩ := x
    obtain ⟨hheader, hshort, hlong⟩ := appended_spec happend
    have hrun := run_appended p happend
    rw [callOk_iff happend]
    -- the call appends a record, or changes nothing
    rcases appendAttribute_cases p a size encoded with ⟨-, hfits, hcase⟩ | ⟨hnot, status, -, hcase⟩
    · rw [hcase] at hrun
      rw [step_of_run hrun]
      constructor
      · intro hok
        obtain ⟨hcount, hcovered, ha⟩ := hok hfits
        obtain ⟨hle, hencoded⟩ := hshort ha
        have hroom := hfits.2.2
        exact ⟨_, rfl, h.push hcount hcovered hheader (by omega) hencoded⟩
      · rintro ⟨q, hq, hsound⟩ -
        cases hq
        have hpos : 0 < recordSize a := by
          unfold stunAttributeHeaderLen at hheader
          omega
        obtain ⟨hcount, hcovered, hroom⟩ := hsound.of_push hpos
        refine ⟨hcount, hcovered, ?_⟩
        by_contra ha
        have := hlong ha
        omega
    · rw [hcase] at hrun
      rw [step_of_run hrun]
      exact ⟨fun _ => ⟨p, rfl, h⟩, fun _ hfits => absurd ⟨h.count, hfits⟩ hnot⟩
  | none =>
    -- without an attribute to append, only an update of the nonce can succeed
    by_cases hc : ∀ nonce, c ≠ .updateNonce nonce
    · obtain ⟨status, -, hrun⟩ := run_invalid p happend hc
      rw [step_of_run hrun]
      refine ⟨fun _ => ⟨p, rfl, h⟩, fun _ => ⟨fun a size encoded heq => ?_, fun nonce r heq => ?_⟩⟩
      · rw [happend] at heq
        cases heq
      · exact absurd heq (hc _)
    · push Not at hc
      obtain ⟨nonce, rfl⟩ := hc
      rcases update_cases p nonce with ⟨q, hrun, hok, hheader, hspans, hsize⟩ | ⟨status, -, hrun,
        hok⟩ |
        ⟨hrun, hnot⟩
      · rw [step_of_run hrun]
        exact ⟨fun _ => ⟨q, rfl, h.congr hheader hspans hsize⟩, fun _ => hok⟩
      · rw [step_of_run hrun]
        exact ⟨fun _ => ⟨p, rfl, h⟩, fun _ => hok⟩
      · refine ⟨fun hok => absurd hok hnot, ?_⟩
        rintro ⟨q, hq, -⟩
        rw [step, Option.bind_some, hrun] at hq
        cases hq

/-- **The builder**: along a run of calls the packet stays sound exactly if every call meets the
condition, and a call that fails leaves the packet as it was. -/
theorem sound_along_iff (stunPacketType : Nat) (transactionId : Option (List UInt8))
    (random : List UInt8) (calls : List Call) :
    (Along step Holds (some (createStunPacket stunPacketType transactionId random)) calls ↔
      AllSteps step StepOk (some (createStunPacket stunPacketType transactionId random)) calls) ∧
    ∀ (p : Packet) (c : Call) (status : Status) (p' : Packet),
      c.run p = some (status, p') → status ≠ .success → p' = p := by
  refine ⟨?_, fun p c status p' => run_failed⟩
  refine along_iff_allSteps_of (I := fun s => ∃ q, s = some q ∧ Inv q) ?_ ?_ ?_
    (allSteps_of_forall (fun _ _ => trivial) _ calls) ⟨_, rfl, inv_create _ _ _⟩
  · rintro s ⟨q, rfl, hq⟩
    exact ⟨q, rfl, hq.sound⟩
  · rintro s c ⟨q, rfl, hq⟩ - hok
    exact (inv_step hq c).1 (hok q rfl)
  · rintro s c ⟨q, rfl, hq⟩ - hholds q' heq
    cases heq
    exact (inv_step hq c).2 hholds

theorem not_sound_along_flags :
    ¬ Along step Holds (some (createStunPacket 0x0001 none (List.replicate 12 7)))
      (List.replicate 21 (.flag 0x0025)) := by
  intro h
  obtain ⟨q, hq, hsound⟩ := h.last
  have hcount : ((List.replicate 21 (Call.flag 0x0025)).foldl step
      (some (createStunPacket 0x0001 none (List.replicate 12 7)))).map (·.attributeList.length) =
      some 21 := by decide +kernel
  rw [hq] at hcount
  have hlength : q.attributeList.length = 21 := Option.some.inj hcount
  have hle := hsound.count
  rw [hlength] at hle
  exact absurd hle (by decide)

end KvsWebrtc.Stun.Builder
