import KvsWebrtc.Common.TwoPass
import KvsWebrtc.Stun.Equiv.Serialize
import Mathlib.Algebra.Order.BigOperators.Group.List

/-!
# The size of an encoded packet

Every attribute is `Sized` but an error code: without a buffer an error code counts its header and
its padded phrase, and with one it also writes two bytes behind that, or six if the phrase is empty
(`Writer.putErrorCode_outside`).  So the two calls of `serializeStunPacket` agree on a packet that
is built if and only if it has no error code (`twoPass_iff`).
-/

namespace KvsWebrtc.Stun

/-! ### Building a packet -/

def PacketCall.attribute (c : PacketCall) : StunAttribute :=
  match c with
  | .call c => c.attribute
  | .address type a => ⟨type.1, 4 + ipAddressLength a.1.family, .address a.1⟩
  | .flag type => ⟨type.1, 0, .headerOnly⟩
  | .allocationAddressFamily ipFamily => ⟨typeRequestedAddressFamily, 4,
    .fourBytes [ipFamily, 0, 0, 0]⟩
  | .errorCode errorPhrase code =>
    let b := boundedString errorPhrase stunMaxErrorPhraseLen
    ⟨typeErrorCode, b.length, .errorCode code.toNat (roundUp16 b.length) (padded b)⟩

/-- A call has room in the allocation and in the array of pointers. -/
structure PacketCall.Fits (c : PacketCall) (p q : StunPacket) :
    Prop extends Appended p q c.attribute where
  copied : ∀ c', c = .call c' → c'.copied.length ≤ stunPacketAllocationSize
  count : q.attributeList.length ≤ stunAttributeMaxCount

theorem appendAttribute_count {p q : StunPacket} {a : StunAttribute} {size written encoded : Nat}
    (h : appendAttribute p a size written encoded = .ok q) :
    q.attributeList.length ≤ stunAttributeMaxCount := by
  rw [appendAttribute] at h
  cases hfirst : getFirstAvailableStunAttribute p with
  | error e => simp [hfirst] at h
  | ok offset =>
    simp only [hfirst] at h
    split_ifs at h with hsize hroom
    rw [← Except.ok.inj h, List.length_append]
    exact hroom.1

theorem AppendCall.run_count {c : AppendCall} {p q : StunPacket} (h : c.run p = .ok q) :
    q.attributeList.length ≤ stunAttributeMaxCount := by
  have hice : ∀ {type : Nat} {n : UInt64}, appendStunIceControllAttribute p type n = .ok q →
      q.attributeList.length ≤ stunAttributeMaxCount := by
    intro type n hn
    rw [appendStunIceControllAttribute] at hn
    split_ifs at hn
    exact appendAttribute_count hn
  cases c with
  | iceControlled n => exact hice h
  | iceControlling n => exact hice h
  | _ => exact appendAttribute_count h

theorem PacketCall.run_ok {c : PacketCall} {p q : StunPacket} (h : c.run p = .ok q) :
    c.Fits p q := by
  cases c with
  | call c =>
    obtain ⟨happ, hle⟩ := AppendCall.run_ok h
    exact ⟨happ, fun c' hc' => by cases hc'; exact hle, AppendCall.run_count h⟩
  | _ => exact ⟨(appendAttribute_ok h).1, fun c' hc' => by simp at hc', appendAttribute_count h⟩

/-- **All the calls.** -/
theorem buildAll_ok {calls : List PacketCall} {p q : StunPacket} (h : buildAll calls p = .ok q)
    (hp : p.attributeList.length ≤ stunAttributeMaxCount) :
    q.header.magicCookie = p.header.magicCookie ∧ q.header.transactionId = p.header.transactionId ∧
      q.attributeList = p.attributeList ++ calls.map PacketCall.attribute ∧
      q.attributeList.length ≤ stunAttributeMaxCount ∧
      ∀ c, .call c ∈ calls → c.copied.length ≤ stunPacketAllocationSize := by
  induction calls generalizing p with
  | nil =>
    obtain rfl := Except.ok.inj h
    simp [hp]
  | cons c cs ih =>
    rw [buildAll] at h
    cases hrun : c.run p with
    | error e => simp [hrun] at h
    | ok p' =>
      simp only [hrun] at h
      have hfits := PacketCall.run_ok hrun
      obtain ⟨hcookie, htx, hlist, hcount, hle⟩ := ih h hfits.count
      refine ⟨hcookie.trans hfits.magicCookie, htx.trans hfits.transactionId, ?_, hcount, ?_⟩
      · simp [hlist, hfits.attributeList]
      · intro c' hc'
        rcases List.mem_cons.mp hc' with hc' | hc'
        · exact hfits.copied c' hc'.symm
        · exact hle c' hc'

theorem PacketCall.written (c : PacketCall)
    (hc : ∀ c', c = .call c' → c'.copied.length ≤ stunPacketAllocationSize) :
    Written c.attribute := by
  cases c with
  | call c => exact (AppendCall.decodable [] c (hc c rfl)).written
  | address type a =>
    obtain ⟨type, htype⟩ := type
    simp only [addressTypes, List.mem_cons, List.not_mem_nil, or_false] at htype
    rcases htype with rfl | rfl | rfl | rfl | rfl | rfl | rfl <;>
      exact ⟨fun k hk => by cases hk; simp [AttributeKind.Verifying], by simp [PacketCall.attribute,
        typeXorRelayedAddress], fun h => by cases h⟩
  | flag type =>
    obtain ⟨type, htype⟩ := type
    simp only [flagTypes, List.mem_cons, List.not_mem_nil, or_false] at htype
    rcases htype with rfl | rfl <;>
      exact ⟨fun k hk => by cases hk; simp [AttributeKind.Verifying], by simp [PacketCall.attribute,
        typeXorRelayedAddress], fun h => by cases h⟩
  | allocationAddressFamily ipFamily =>
    refine ⟨?_, by simp [PacketCall.attribute, typeXorRelayedAddress, typeRequestedAddressFamily],
      fun _ => rfl⟩
    intro k hk
    cases hk
  | errorCode errorPhrase code =>
    exact ⟨fun k hk => by cases hk; simp [AttributeKind.Verifying], by simp [PacketCall.attribute,
      typeXorRelayedAddress, typeErrorCode], fun h => by cases h⟩

def countedSize (tx : List UInt8) (a : StunAttribute) : Nat :=
  match a.value with
  | .errorCode _ paddedLength _ => 4 + paddedLength
  | _ => (encodeAttribute tx a).length

theorem length_padded_le {n : Nat} (h : n ≤ stunPacketAllocationSize) :
    roundUp16 n ≤ stunPacketAllocationSize := by
  have hle : n ≤ 2048 := h
  rw [(roundUp16_of_copied h).1, roundUp]
  show (n + 3) / 4 * 4 ≤ 2048
  omega

/-- No attribute is larger than the allocation and its header. -/
theorem PacketCall.countedSize_le (tx : List UInt8) (c : PacketCall)
    (hc : ∀ c', c = .call c' → c'.copied.length ≤ stunPacketAllocationSize) :
    countedSize tx c.attribute ≤ 4 + stunPacketAllocationSize := by
  cases c with
  | call c =>
    show countedSize tx c.attribute ≤ _
    have hdec := AppendCall.decodable tx c (hc c rfl)
    -- bytes of any length have had their place in the allocation
    have hlength : c.attribute.length ≤ stunPacketAllocationSize := by
      cases c with
      | mappedAddress a =>
        rcases a.2.family with h | h <;> simp [AppendCall.attribute, h] <;> decide
      | xorMappedAddress a =>
        rcases a.2.family with h | h <;> simp [AppendCall.attribute, h] <;> decide
      | username s => exact hc _ rfl
      | realm s => exact hc _ rfl
      | nonce b => exact hc _ rfl
      | data b => exact hc _ rfl
      | _ => simp [AppendCall.attribute, stunPacketAllocationSize]
    have hvalue := hdec.length_value.trans_le (length_padded_le hlength)
    rw [countedSize]
    split
    · next code paddedLength phrase h =>
        exact absurd h (hdec.not_errorCode code paddedLength phrase)
    · rw [length_encodeAttribute]
      omega
  | address type a =>
    obtain ⟨a, ha⟩ := a
    have hlen : (encodeValue tx type.1 (.address a)).length = 4 + ipAddressLength a.family := by
      rw [encodeValue]
      split_ifs
      · exact (ha.xorIpAddress tx).length_addressBytes
      · exact ha.length_addressBytes
    show (encodeAttribute tx ⟨type.1, _, .address a⟩).length ≤ _
    rw [length_encodeAttribute, hlen]
    rcases ha.family with h | h <;> rw [h] <;> decide
  | flag type => exact Nat.le_add_right 4 _
  | allocationAddressFamily ipFamily => exact Nat.add_le_add_left (show 4 ≤ 2048 by decide) 4
  | errorCode errorPhrase code =>
    have hle : (boundedString errorPhrase stunMaxErrorPhraseLen).length ≤
        stunPacketAllocationSize :=
      (length_boundedString _ _).trans (by decide)
    exact Nat.add_le_add_left (length_padded_le hle) 4

/-! ### The two calls -/

def noRoom : Failure := .status .notEnoughMemory

def Writer.view : PassView Writer where
  used w :=
    match w.buffer with
    | none => w.packetSize
    | some (_, pos) => pos
  remaining w := w.buffer.map fun b => b.1.length - b.2
  valid w := w.Clear ∧ ∀ buf pos, w.buffer = some (buf, pos) →
    stunHeaderLen ≤ pos ∧ pos ≤ buf.length ∧ w.packetSize = buf.length

/-- A step, by what it does without a buffer, with room and without room. -/
theorem Writer.sized {f : Writer → Except Failure Writer} {n : Nat}
    (hcount : ∀ size, f ⟨size, none, false, false⟩ = .ok ⟨size + n, none, false, false⟩)
    (hwrite : ∀ buf pos, stunHeaderLen ≤ pos → pos + n ≤ buf.length →
      ∃ buf', buf'.length = buf.length ∧
        f ⟨buf.length, some (buf, pos), false, false⟩ =
          .ok ⟨buf.length, some (buf', pos + n), false, false⟩)
    (hfull : ∀ buf pos, buf.length < pos + n →
      f ⟨buf.length, some (buf, pos), false, false⟩ = .error noRoom) :
    Sized Writer.view noRoom f n where
  takes w hw hroom := by
    obtain ⟨size, buffer, fingerprintFound, messageIntegrityFound⟩ := w
    obtain ⟨⟨rfl, rfl⟩, hbuffer⟩ := hw
    cases buffer with
    | none => exact ⟨_, hcount size, ⟨⟨rfl, rfl⟩, by simp⟩, rfl, rfl⟩
    | some b =>
      obtain ⟨buf, pos⟩ := b
      obtain ⟨hpos, hle, hsize⟩ := hbuffer buf pos rfl
      obtain rfl : size = buf.length := hsize
      have hn : n ≤ buf.length - pos := hroom _ rfl
      obtain ⟨buf', hlen, hf⟩ := hwrite buf pos hpos (by omega)
      refine ⟨_, hf, ⟨⟨rfl, rfl⟩, ?_⟩, rfl, ?_⟩
      · intro buf'' pos' h
        cases h
        exact ⟨by omega, by omega, hlen.symm⟩
      · show some (buf'.length - (pos + n)) = some (buf.length - pos - n)
        rw [hlen, Nat.sub_sub]
  fails w hw r hr hlt := by
    obtain ⟨size, buffer, fingerprintFound, messageIntegrityFound⟩ := w
    obtain ⟨⟨rfl, rfl⟩, hbuffer⟩ := hw
    cases buffer with
    | none => cases hr
    | some b =>
      obtain ⟨buf, pos⟩ := b
      obtain ⟨-, hle, hsize⟩ := hbuffer buf pos rfl
      obtain rfl : size = buf.length := hsize
      obtain rfl : buf.length - pos = r := Option.some.inj hr
      exact hfull buf pos (by omega)

theorem length_putLength {buf : List UInt8} (h : 4 ≤ buf.length) (v : Nat) :
    (putLength buf v).length = buf.length := by
  simp [putLength]
  omega

theorem fieldAt_putLength {buf : List UInt8} (h : 4 ≤ buf.length) (v : Nat) :
    fieldAt (putLength buf v) 2 2 = .ok (beBytes 2 v) := by
  rw [putLength, List.append_assoc]
  exact fieldAt_middle (by simp; omega) (length_beBytes 2 v) _

theorem Writer.sized_put (b : List UInt8) : Sized Writer.view noRoom (·.put b) b.length :=
  Writer.sized (fun _ => rfl)
    (fun buf pos _ hle => ⟨overlay buf pos b, length_overlay hle, if_pos hle⟩)
    (fun _ _ hlt => if_neg (Nat.not_le_of_lt hlt))

theorem Writer.sized_putGenerated (t : Nat) {n : Nat} {value : List UInt8 → List UInt8}
    (hvalue : ∀ covered, (value covered).length = n) :
    Sized Writer.view noRoom (·.putGenerated t n value) (4 + n) := by
  refine Writer.sized (fun _ => rfl) ?_ (fun _ _ hlt => if_neg (Nat.not_le_of_lt hlt))
  intro buf pos hpos hle
  have h20 : 20 ≤ pos := hpos
  set b := beBytes 2 t ++ beBytes 2 n ++ value (coveredBytes16 buf pos n) with hb
  have hlen : b.length = 4 + n := by
    simp [hb, hvalue]
    omega
  set buf₁ := putLength buf (pos + stunAttributeHeaderLen + n - stunHeaderLen) with hbuf₁
  have hlen₁ : buf₁.length = buf.length := length_putLength (by omega) _
  refine ⟨overlay buf₁ pos b, ?_, if_pos hle⟩
  rw [length_overlay (by omega), hlen₁]

def StunAttribute.IsErrorCode (a : StunAttribute) : Prop :=
  ∃ code paddedLength phrase, a.value = .errorCode code paddedLength phrase

section

variable {tx : List UInt8} {as : List StunAttribute}

theorem countedSize_eq {a : StunAttribute} (ha : ¬ a.IsErrorCode) :
    countedSize tx a = (encodeAttribute tx a).length := by
  rw [countedSize]
  split
  · next code paddedLength phrase h => exact absurd ⟨_, _, _, h⟩ ha
  · rfl

theorem Writer.putAttribute_not_errorCode {a : StunAttribute} (hwritten : Written a)
    (ha : ¬ a.IsErrorCode) {w : Writer} (hw : w.Clear) (i count : Nat) :
    w.putAttribute tx i count a = w.put (encodeAttribute tx a) := by
  rw [Writer.putAttribute_written hwritten hw]
  split
  · next code paddedLength phrase h => exact absurd ⟨_, _, _, h⟩ ha
  · rfl

/-- **The loop** over attributes without an error code takes their sizes. -/
theorem Writer.sized_putAttributes (hwritten : ∀ a ∈ as, Written a)
    (has : ∀ a ∈ as, ¬ a.IsErrorCode) (count i : Nat) :
    Sized Writer.view noRoom (Writer.putAttributes tx count as i)
    (as.map (countedSize tx)).sum := by
  induction as generalizing i with
  | nil => exact sized_ok
  | cons a as ih =>
    have hput : Sized Writer.view noRoom (·.putAttribute tx i count a) (countedSize tx a) := by
      rw [countedSize_eq (has a List.mem_cons_self)]
      exact (Writer.sized_put _).congr fun w hw =>
        Writer.putAttribute_not_errorCode (hwritten a List.mem_cons_self) (has a List.mem_cons_self)
          hw.1 i count
    have hrest := ih (fun b hb => hwritten b (List.mem_cons_of_mem a hb))
      (fun b hb => has b (List.mem_cons_of_mem a hb)) (i + 1)
    rw [List.map_cons, List.sum_cons]
    refine (hput.bind hrest).congr fun w _ => ?_
    rw [Writer.putAttributes]
    cases w.putAttribute tx i count a <;> rfl

/-- Without a buffer an error code is counted like the other attributes. -/
theorem Writer.putAttributes_counted (hwritten : ∀ a ∈ as, Written a) (count i size : Nat) :
    Writer.putAttributes tx count as i ⟨size, none, false, false⟩ =
      .ok ⟨size + (as.map (countedSize tx)).sum, none, false, false⟩ := by
  induction as generalizing i size with
  | nil => rfl
  | cons a as ih =>
    have hput : Writer.putAttribute ⟨size, none, false, false⟩ tx i count a =
        .ok ⟨size + countedSize tx a, none, false, false⟩ := by
      rw [Writer.putAttribute_written (hwritten a List.mem_cons_self) ⟨rfl, rfl⟩, countedSize]
      cases a.value with
      | errorCode code paddedLength phrase => simp [Writer.putErrorCode, Nat.add_assoc]
      | _ => rfl
    simp only [Writer.putAttributes, hput, ih (fun b hb => hwritten b (List.mem_cons_of_mem a hb)),
      List.map_cons, List.sum_cons, Nat.add_assoc]

theorem Writer.putAttributes_append (as' : List StunAttribute) (count i : Nat) (w : Writer) :
    Writer.putAttributes tx count (as ++ as') i w =
      (Writer.putAttributes tx count as i w).bind
        (Writer.putAttributes tx count as' (i + as.length)) := by
  induction as generalizing i w with
  | nil => rfl
  | cons a as ih =>
    simp only [List.cons_append, Writer.putAttributes]
    cases w.putAttribute tx i count a with
    | error e => rfl
    | ok w' => simp [ih, Nat.add_comm, Nat.add_left_comm]

end

/-- **An error code** in a buffer that ends with it is written behind the buffer. -/
theorem Writer.putErrorCode_outside {w : Writer} {buf : List UInt8} {pos : Nat}
    (hbuf : w.buffer = some (buf, pos)) (a : StunAttribute) (code : Nat) {paddedLength : Nat}
    (phrase : List UInt8) (hend : buf.length = pos + (4 + paddedLength)) :
    w.putErrorCode a code paddedLength phrase = .error .outOfBounds := by
  -- the phrase starts two bytes behind the header
  have hphrase : ¬ pos + 6 + paddedLength ≤ buf.length := by omega
  simp only [Writer.putErrorCode, hbuf, hphrase, false_and, and_false, if_false]
  exact if_pos (by omega)

theorem exists_first_errorCode {as : List StunAttribute} {a : StunAttribute} (ha : a ∈ as)
    (herr : a.IsErrorCode) :
    ∃ pre b post, as = pre ++ b :: post ∧ b.IsErrorCode ∧ ∀ c ∈ pre, ¬ c.IsErrorCode := by
  classical
  have hfound : (as.find? fun a => decide a.IsErrorCode).isSome :=
    List.find?_isSome.mpr ⟨a, ha, by simpa using herr⟩
  obtain ⟨b, hb⟩ := Option.isSome_iff_exists.mp hfound
  obtain ⟨hb, pre, post, hsplit, hpre⟩ := List.find?_eq_some_iff_append.mp hb
  exact ⟨pre, b, post, hsplit, by simpa using hb, fun c hc => by simpa using hpre c hc⟩

/-! ### The whole packet -/

section

variable (hmac : List UInt8 → List UInt8 → Digest) (crc32 : List UInt8 → UInt32) (p : StunPacket)

def bodySize (mi fp : Bool) : Nat :=
  (p.attributeList.map (countedSize p.header.transactionId)).sum + generatedSize mi fp

/-- What `Writer.run` does behind the attributes of the packet. -/
def Writer.generate (key : List UInt8) (mi fp : Bool) (w : Writer) : Except Failure Writer :=
  (if mi then w.putIntegrity hmac key else .ok w).bind fun w =>
    if fp then w.putFingerprint crc32 else .ok w

theorem Writer.run_eq (key : List UInt8) (mi fp : Bool) (w : Writer) :
    w.run hmac crc32 p key mi fp =
      ((Writer.putAttributes p.header.transactionId p.attributeList.length p.attributeList 0 w).bind
        (Writer.generate hmac crc32 key mi fp)).bind Writer.finish := by
  rw [Writer.run]
  cases Writer.putAttributes p.header.transactionId p.attributeList.length p.attributeList 0 w with
  | error e => rfl
  | ok w₁ =>
    simp only [Except.bind, Writer.generate]
    cases (if mi then w₁.putIntegrity hmac key else .ok w₁) with
    | error e => rfl
    | ok w₂ =>
      simp only
      cases (if fp then w₂.putFingerprint crc32 else .ok w₂) <;> rfl

theorem Writer.sized_generate (key : List UInt8) (mi fp : Bool) :
    Sized Writer.view noRoom (Writer.generate hmac crc32 key mi fp) (generatedSize mi fp) :=
  ((Writer.sized_putGenerated typeMessageIntegrity fun c => (hmac key c).2).ite mi).bind
    ((Writer.sized_putGenerated typeFingerprint fun _ => length_beBytes 4 _).ite fp)

variable {p} {password : Option (List UInt8)} {mi fp : Bool}

theorem Writer.generate_none (key : List UInt8) (size : Nat) :
    Writer.generate hmac crc32 key mi fp ⟨size, none, false, false⟩ =
      .ok ⟨size + generatedSize mi fp, none, false, false⟩ := by
  cases mi <;> cases fp <;> rfl

variable (hcookie : p.header.magicCookie = stunHeaderMagicCookie)
  (hmi : mi = true → password ≠ none) (hne : password ≠ some [])
  (hwritten : ∀ a ∈ p.attributeList, Written a)

include hcookie hmi hne hwritten

/-- **The first call** counts. -/
theorem serializeStunPacket_counted :
    serializeStunPacket hmac crc32 p password mi fp none = .ok
    (stunHeaderLen + bodySize p mi fp, []) := by
  rw [serializeStunPacket_eq hmac crc32 hcookie hmi hne, Writer.start]
  simp only [Writer.run_eq, Writer.putAttributes_counted hwritten, Except.bind,
    Writer.generate_none, Writer.finish, bodySize, Nat.add_assoc]

variable (htx : p.header.transactionId.length = 12)

include htx

omit hwritten in
variable (fp) in
/-- The second call, in a buffer with room for the header. -/
theorem serializeStunPacket_start {buf : List UInt8} (hbuf : stunHeaderLen ≤ buf.length) :
    ∃ buf', buf'.length = buf.length ∧
      serializeStunPacket hmac crc32 p password mi fp (some buf) =
        Writer.run hmac crc32 p (password.getD []) mi fp
          ⟨buf.length, some (buf', stunHeaderLen), false, false⟩ := by
  have hlen : (Writer.putHeader p buf).length = buf.length := by
    have h20 : 20 ≤ buf.length := hbuf
    have hfirst : (overlay buf 0 (beBytes 2 p.header.stunMessageType)).length = buf.length :=
      length_overlay (by simp; omega)
    rw [Writer.putHeader, length_overlay, hfirst]
    simp only [List.length_append, length_beBytes, htx, hfirst]
    omega
  refine ⟨_, hlen, ?_⟩
  rw [serializeStunPacket_eq hmac crc32 hcookie hmi hne, Writer.start, if_pos hbuf]

/-- **Without an error code** the two calls agree. -/
theorem twoPass_of_not_errorCode (has : ∀ a ∈ p.attributeList, ¬ a.IsErrorCode)
    (hlt : stunHeaderLen + bodySize p mi fp < 2 ^ 16) : TwoPass hmac crc32 p password mi fp := by
  -- the same loop counts and writes
  have hsized : Sized Writer.view noRoom (fun w =>
      (Writer.putAttributes p.header.transactionId p.attributeList.length p.attributeList 0 w).bind
        (Writer.generate hmac crc32 (password.getD []) mi fp)) (bodySize p mi fp) :=
    (Writer.sized_putAttributes hwritten has _ 0).bind
      (Writer.sized_generate hmac crc32 (password.getD []) mi fp)
  have hvalid : ∀ buf' : List UInt8, stunHeaderLen ≤ buf'.length → Writer.view.valid
      ⟨buf'.length, some (buf', stunHeaderLen), false, false⟩ := by
    intro buf' hle
    refine ⟨⟨rfl, rfl⟩, fun buf pos h => ?_⟩
    cases h
    exact ⟨le_refl _, hle, rfl⟩
  refine ⟨_, serializeStunPacket_counted hmac crc32 hcookie hmi hne hwritten, hlt, ?_, ?_⟩
  · intro buf hbuf
    have hle : stunHeaderLen ≤ buf.length := by omega
    obtain ⟨buf', hlen, hrun⟩ := serializeStunPacket_start hmac crc32 fp hcookie hmi hne htx hle
    rw [← hlen] at hrun
    obtain ⟨w, hw, htook⟩ := hsized.writes (hvalid buf' (by omega))
      (show _ = some (buf'.length - stunHeaderLen) from rfl) (by omega)
    obtain ⟨size, buffer, fingerprintFound, messageIntegrityFound⟩ := w
    obtain ⟨⟨-, hbuffer⟩, hused, hremaining⟩ := htook
    cases buffer with
    | none => cases hremaining
    | some b =>
      obtain ⟨out, pos⟩ := b
      obtain ⟨-, hpos, hsize⟩ := hbuffer out pos rfl
      obtain rfl : size = out.length := hsize
      obtain rfl : pos = stunHeaderLen + bodySize p mi fp := hused
      have hfull : out.length - (stunHeaderLen + bodySize p mi fp)
          = buf'.length - stunHeaderLen - bodySize p mi fp := Option.some.inj hremaining
      have hout : out.length = stunHeaderLen + bodySize p mi fp := by omega
      have h20 : 20 ≤ out.length := by rw [hout]; exact Nat.le_add_right 20 _
      refine ⟨putLength out (out.length - stunHeaderLen), ?_, ?_, ?_⟩
      · rw [hrun, Writer.run_eq, hw, ← hout]
        exact if_pos rfl
      · rw [length_putLength (by omega), hout]
      · rw [fieldAt_putLength (by omega), hout]
  · intro buf hbuf
    by_cases hle : stunHeaderLen ≤ buf.length
    · obtain ⟨buf', hlen, hrun⟩ := serializeStunPacket_start hmac crc32 fp hcookie hmi hne htx hle
      rw [← hlen] at hrun
      have hfail := hsized.fails _ (hvalid buf' (by omega)) (buf'.length - stunHeaderLen) rfl
        (by omega)
      exact ⟨_, by rw [hrun, Writer.run_eq, hfail]; rfl⟩
    · refine ⟨.notEnoughMemory, ?_⟩
      rw [serializeStunPacket_eq hmac crc32 hcookie hmi hne, Writer.start, if_neg hle]

/-- **With an error code** the second call writes behind the buffer that ends with the first one. -/
theorem not_twoPass_of_errorCode {a : StunAttribute} (ha : a ∈ p.attributeList)
    (herr : a.IsErrorCode) :
    ¬ TwoPass hmac crc32 p password mi fp := by
  rintro ⟨size, hcount, -, hexact, hsmall⟩
  obtain ⟨pre, a, post, hsplit, ⟨code, paddedLength, phrase, hvalue⟩, hpre⟩ :=
    exists_first_errorCode ha herr
  set tx := p.header.transactionId with htx'
  set n := (pre.map (countedSize tx)).sum with hn
  -- the size is at least that of the attributes up to the error code
  have hsize : size = stunHeaderLen + bodySize p mi fp := by
    rw [serializeStunPacket_counted hmac crc32 hcookie hmi hne hwritten] at hcount
    exact (congrArg Prod.fst (Except.ok.inj hcount)).symm
  have hbody : n + (4 + paddedLength) ≤ bodySize p mi fp := by
    simp only [bodySize, hsplit, List.map_append, List.map_cons, List.sum_append, List.sum_cons,
      ← htx', ← hn]
    simp only [countedSize, hvalue]
    omega
  -- the buffer ends with the error code
  have hlen : (List.replicate (stunHeaderLen + (n + (4 + paddedLength))) (0 : UInt8)).length
      = stunHeaderLen + (n + (4 + paddedLength)) := List.length_replicate
  obtain ⟨buf', hlen', hrun⟩ := serializeStunPacket_start hmac crc32 fp hcookie hmi hne htx
    (hlen ▸ Nat.le_add_right _ _)
  have hpart : ∀ b ∈ pre, Written b := fun b hb => hwritten b (by simp [hsplit, hb])
  have hsized : Sized Writer.view noRoom (Writer.putAttributes tx p.attributeList.length pre 0) n :=
    Writer.sized_putAttributes hpart hpre _ 0
  obtain ⟨w, hw, ⟨hclear, hbuffer⟩, hused, hremaining⟩ := hsized.writes
    (s := ⟨buf'.length, some (buf', stunHeaderLen), false, false⟩)
    ⟨⟨rfl, rfl⟩, fun buf pos h => by cases h; exact ⟨le_refl _, by omega, rfl⟩⟩
    (show _ = some (buf'.length - stunHeaderLen) from rfl) (by omega)
  have houtside : w.putAttribute tx pre.length p.attributeList.length a = .error .outOfBounds := by
    rw [Writer.putAttribute_written (hwritten a (by simp [hsplit])) hclear, hvalue]
    obtain ⟨packetSize, buffer, fingerprintFound, messageIntegrityFound⟩ := w
    cases buffer with
    | none => cases hremaining
    | some b =>
      obtain ⟨out, pos⟩ := b
      obtain ⟨-, hpos, -⟩ := hbuffer out pos rfl
      have hleft : out.length - pos = buf'.length - stunHeaderLen - n := Option.some.inj hremaining
      exact Writer.putErrorCode_outside rfl a code phrase (by omega)
  have hfails : serializeStunPacket hmac crc32 p password mi fp
      (some (List.replicate (stunHeaderLen + (n + (4 + paddedLength))) 0)) =
      .error .outOfBounds := by
    have hloop : Writer.putAttributes tx p.attributeList.length p.attributeList 0
        ⟨buf'.length, some (buf', stunHeaderLen), false, false⟩ = .error .outOfBounds := by
      conv_lhs => rw [hsplit]
      rw [Writer.putAttributes_append, ← hsplit, hw]
      simp only [Except.bind, Writer.putAttributes, Nat.zero_add, houtside]
    rw [hrun, Writer.run_eq, ← hlen', ← htx', hloop]
    rfl
  rcases Nat.lt_or_ge (stunHeaderLen + (n + (4 + paddedLength))) size with hlt | hge
  · obtain ⟨status, hstatus⟩ := hsmall _ (hlen.trans_lt hlt)
    rw [hfails] at hstatus
    cases hstatus
  · obtain ⟨out, hout, -⟩ := hexact _ (hlen.trans (by omega))
    rw [hfails] at hout
    cases hout

end

theorem PacketCall.isErrorCode_iff (c : PacketCall) :
    c.attribute.IsErrorCode ↔ ∃ errorPhrase code, c = .errorCode errorPhrase code := by
  constructor
  · rintro ⟨code, paddedLength, phrase, hvalue⟩
    cases c with
    | call c => cases c <;> cases hvalue
    | errorCode errorPhrase code => exact ⟨_, _, rfl⟩
    | _ => cases hvalue
  · rintro ⟨errorPhrase, code, rfl⟩
    exact ⟨_, _, _, rfl⟩

/-- **The two calls agree** on a packet that is built if and only if it has no error code. -/
theorem twoPass_iff (hmac : List UInt8 → List UInt8 → Digest) (crc32 : List UInt8 → UInt32)
    {type : Nat} {tx : List UInt8} {calls : List PacketCall} {p : StunPacket}
    {password : Option (List UInt8)} {mi fp : Bool} (htx : tx.length = 12)
    (hp : buildAll calls (createStunPacket type tx) = .ok p) (hmi : mi = true → password ≠ none)
    (hne : password ≠ some []) :
    TwoPass hmac crc32 p password mi fp ↔
      ∀ errorPhrase code, .errorCode errorPhrase code ∉ calls := by
  obtain ⟨hcookie, htx', hlist, hcount, hle⟩ := buildAll_ok hp (Nat.zero_le _)
  have hattributes : p.attributeList = calls.map PacketCall.attribute := hlist
  have hfits : ∀ c ∈ calls, ∀ c', c = .call c' → c'.copied.length ≤ stunPacketAllocationSize :=
    fun c hc c' h => hle c' (h ▸ hc)
  -- every call appends an attribute that is written
  have hwritten : ∀ a ∈ p.attributeList, Written a := by
    intro a ha
    rw [hattributes] at ha
    obtain ⟨c, hc, rfl⟩ := List.mem_map.mp ha
    exact c.written (hfits c hc)
  have htx : p.header.transactionId.length = 12 := by rw [htx']; exact htx
  constructor
  · intro htwo errorPhrase code hmem
    refine not_twoPass_of_errorCode hmac crc32 hcookie hmi hne hwritten htx
      (a := (PacketCall.errorCode errorPhrase code).attribute) ?_ ⟨_, _, _, rfl⟩ htwo
    rw [hattributes]
    exact List.mem_map_of_mem hmem
  · intro hnone
    refine twoPass_of_not_errorCode hmac crc32 hcookie hmi hne hwritten htx ?_ ?_
    · intro a ha herr
      rw [hattributes] at ha
      obtain ⟨c, hc, rfl⟩ := List.mem_map.mp ha
      obtain ⟨errorPhrase, code, rfl⟩ := c.isErrorCode_iff.mp herr
      exact hnone errorPhrase code hc
    · -- 20 attributes of at most 2052 bytes
      have hsum : (p.attributeList.map (countedSize p.header.transactionId)).sum ≤
          p.attributeList.length * (4 + stunPacketAllocationSize) := by
        rw [hattributes]
        have hbound := List.sum_le_card_nsmul
          ((calls.map PacketCall.attribute).map (countedSize p.header.transactionId))
          (4 + stunPacketAllocationSize) (by
            intro size hsize
            simp only [List.mem_map, exists_exists_and_eq_and] at hsize
            obtain ⟨c, hc, rfl⟩ := hsize
            exact c.countedSize_le _ (hfits c hc))
        simpa using hbound
      have hcount : p.attributeList.length * 2052 ≤ 20 * 2052 := Nat.mul_le_mul_right _ hcount
      have hgenerated : generatedSize mi fp ≤ 32 := by cases mi <;> cases fp <;> decide
      have hsum : (p.attributeList.map (countedSize p.header.transactionId)).sum ≤
        p.attributeList.length * 2052 := hsum
      show 20 + (_ + generatedSize mi fp) < 2 ^ 16
      omega

/-- A package for the ICE agent is made in exactly the buffers that have room for it. -/
theorem TwoPass.package {hmac : List UInt8 → List UInt8 → Digest} {crc32 : List UInt8 → UInt32}
    {p : StunPacket} {password : Option (List UInt8)}
    (h : TwoPass hmac crc32 p password password.isSome true) (hne : password ≠ some []) :
    ∃ size, ∀ buffer : List UInt8,
      (size ≤ buffer.length → ∃ out, iceUtilsPackageStunPacket hmac crc32 p password buffer =
        .ok (size, out) ∧ out.length = buffer.length ∧ out.drop size = buffer.drop size) ∧
      (buffer.length < size → iceUtilsPackageStunPacket hmac crc32 p password buffer =
        .error (.status .bufferTooSmall)) := by
  obtain ⟨size, hcount, -, hexact, -⟩ := h
  refine ⟨size, fun buffer => ⟨fun hle => ?_, fun hlt => ?_⟩⟩
  · have htake : (buffer.take size).length = size := by simp [hle]
    obtain ⟨out, hout, hlen, -⟩ := hexact _ htake
    refine ⟨out ++ buffer.drop size, ?_, ?_, ?_⟩
    · simp only [iceUtilsPackageStunPacket, if_neg hne, hcount, if_pos hle, hout]
    · simp [hlen, hle]
    · exact List.drop_left' hlen
  · simp only [iceUtilsPackageStunPacket, if_neg hne, hcount, if_neg (Nat.not_le_of_lt hlt)]

theorem peerAddress_wellFormed :
    KvsIpAddress.WellFormed ⟨familyIpv4, [0x12, 0x34], [192, 168, 0, 1]⟩ := ⟨.inl rfl, rfl, rfl⟩

theorem mem_addressTypes : 0x0012 ∈ addressTypes := by simp [addressTypes]

theorem mem_flagTypes : 0x001A ∈ flagTypes := by simp [flagTypes]

/-- The calls for a request with a peer address, an address family, a flag and a realm. -/
def requestCalls : List PacketCall :=
  [.address ⟨0x0012, mem_addressTypes⟩ ⟨_, peerAddress_wellFormed⟩, .allocationAddressFamily 1,
    .flag ⟨0x001A, mem_flagTypes⟩, .call (.realm [114, 0, 114])]

def requestPacket : StunPacket :=
  ⟨⟨0x0003, 32, stunHeaderMagicCookie, List.replicate 12 7⟩,
    [⟨typeXorPeerAddress, 8, .address ⟨familyIpv4, [0x12, 0x34], [192, 168, 0, 1]⟩⟩,
      ⟨typeRequestedAddressFamily, 4, .fourBytes [1, 0, 0, 0]⟩, ⟨0x001A, 0, .headerOnly⟩,
      ⟨typeRealm, 1, .bytes 4 [114, 0, 0, 0]⟩]⟩

/-- The calls agree on it, with message integrity and fingerprint. -/
theorem twoPass_request :
    buildAll requestCalls (createStunPacket 0x0003 (List.replicate 12 7)) = .ok requestPacket ∧
      TwoPass (fun _ _ => ⟨List.replicate 20 0, rfl⟩) (fun _ => 0) requestPacket (some [112, 119])
        true true := by
  have hp : buildAll requestCalls (createStunPacket 0x0003 (List.replicate 12 7)) =
      .ok requestPacket := by decide +kernel
  refine ⟨hp, (twoPass_iff _ _ List.length_replicate hp (by decide) (by decide)).mpr ?_⟩
  intro errorPhrase code hmem
  simp [requestCalls] at hmem

/-- The error code 401 without a phrase, in a buffer of the size that is counted. -/
theorem error_code_outside :
    ∃ p, buildAll [.errorCode [] 401] (createStunPacket 0x0111 (List.replicate 12 0)) = .ok p ∧
      serializeStunPacket (fun _ _ => ⟨List.replicate 20 0, rfl⟩)
      (fun _ => 0) p none false false none =
        .ok (24, []) ∧
      ¬ TwoPass (fun _ _ => ⟨List.replicate 20 0, rfl⟩) (fun _ => 0) p none false false := by
  refine ⟨⟨⟨0x0111, 4, stunHeaderMagicCookie, List.replicate 12 0⟩,
    [⟨typeErrorCode, 0, .errorCode 401 0 []⟩]⟩, by decide +kernel, by decide +kernel, ?_⟩
  rintro ⟨size, hcount, -, hexact, -⟩
  have hsize : serializeStunPacket (fun _ _ => ⟨List.replicate 20 0, rfl⟩) (fun _ => 0)
      ⟨⟨0x0111, 4, stunHeaderMagicCookie, List.replicate 12 0⟩,
        [⟨typeErrorCode, 0, .errorCode 401 0 []⟩]⟩ none false false none = .ok (24, []) := by
    decide +kernel
  obtain ⟨rfl, -⟩ := Prod.mk.inj (Except.ok.inj (hsize.symm.trans hcount))
  obtain ⟨out, hout, -⟩ := hexact (List.replicate 24 0) List.length_replicate
  have houtside : serializeStunPacket (fun _ _ => ⟨List.replicate 20 0, rfl⟩) (fun _ => 0)
      ⟨⟨0x0111, 4, stunHeaderMagicCookie, List.replicate 12 0⟩,
        [⟨typeErrorCode, 0, .errorCode 401 0 []⟩]⟩ none false false (some (List.replicate 24 0)) =
      .error .outOfBounds := by decide +kernel
  exact absurd (houtside.symm.trans hout) nofun

end KvsWebrtc.Stun
