import KvsWebrtc.Sdp.Equiv.Serialize

/-!
# Descriptions in memory

The texts of a description fit the arrays of its structures, so the text of the whole has a length
that is a 32-bit number (`length_joined_lt`).
-/

namespace KvsWebrtc.Sdp.Wire

open PeerConnection Text

/-- A connection whose texts fit their arrays. -/
structure ConnectionStored (c : SdpConnectionInformation) : Prop where
  networkType : c.networkType.length ≤ maxSdpNetworkTypeLength
  addressType : c.addressType.length ≤ maxSdpAddressTypeLength
  connectionAddress : c.connectionAddress.length ≤ maxSdpConnectionAddressLength

structure AttributeStored (a : SdpAttribute) : Prop where
  name : a.attributeName.length ≤ maxSdpAttributeNameLength
  value : a.attributeValue.length ≤ maxSdpAttributeValueLength

structure MediaStored (m : SdpMediaDescription) : Prop where
  name : m.mediaName.length ≤ maxSdpMediaNameLength
  connection : ConnectionStored m.sdpConnectionInformation
  count : m.sdpAttributes.count < 2 ^ 8
  attributes : ∀ a ∈ m.sdpAttributes.toList, AttributeStored a

/-- **What the arrays of a description can hold.** -/
structure Stored (d : SessionDescription) : Prop where
  userName : d.sdpOrigin.userName.length ≤ maxSdpSessionUsernameLength
  connection : ConnectionStored d.sdpOrigin.sdpConnectionInformation
  sessionName : d.sessionName.length ≤ maxSdpSessionNameLength
  times : d.sdpTimeDescription.length ≤ maxSdpSessionTimeDescriptionCount
  count : d.sdpAttributes.count ≤ maxSdpAttributesCount
  attributes : ∀ a ∈ d.sdpAttributes.toList, AttributeStored a
  mediaCount : d.mediaDescriptions.length ≤ maxSdpSessionMediaCount
  media : ∀ m ∈ d.mediaDescriptions, MediaStored m

theorem length_spaced_le {n : Nat} {parts : List (List Char)}
    (h : ∀ part ∈ parts, part.length ≤ n) :
    (spaced parts).length ≤ parts.length * (n + 1) := by
  induction parts with
  | nil => exact Nat.zero_le _
  | cons part parts ih =>
    have hpart := h part List.mem_cons_self
    have hrest := ih fun part' hpart' => h part' (List.mem_cons_of_mem part hpart')
    have hmul : (parts.length + 1) * (n + 1) = parts.length * (n + 1) + (n + 1) := Nat.succ_mul _ _
    cases parts with
    | nil =>
      have hone : spaced [part] = part := by simp [spaced]
      rw [hone, List.length_singleton]
      omega
    | cons next parts =>
      have hsplit : spaced (part :: next :: parts) = part ++ ([' '] ++ spaced (next :: parts)) := by
        simp [spaced]
      have hlen : (spaced (part :: next :: parts)).length = part.length +
          (1 + (spaced (next :: parts)).length) := by
        rw [hsplit, List.length_append, List.length_append, List.length_singleton]
      rw [hlen, List.length_cons, hmul]
      omega

/-! ### The length of the text -/

theorem length_printUInt64_le (n : UInt64) : (printUInt64 n).length ≤ 20 :=
  (Nat.length_toDigits_le_iff (by decide) (by decide)).mpr
  (Nat.lt_of_lt_of_le n.toNat_lt (by decide))

def maxLineLength : Nat := 2 + maxSdpAttributeNameLength + 1 + maxSdpAttributeValueLength

theorem ConnectionStored.parts {c : SdpConnectionInformation} (hc : ConnectionStored c) :
    ∀ part ∈ [c.networkType, c.addressType, c.connectionAddress], part.length ≤ 63 := by
  simp only [List.mem_cons, List.not_mem_nil, or_false, forall_eq_or_imp, forall_eq]
  exact ⟨hc.networkType.trans (by decide), hc.addressType.trans (by decide), hc.connectionAddress⟩

theorem length_spaced_line_le {parts : List (List Char)} (h : ∀ part ∈ parts, part.length ≤ 63)
    (hcount : parts.length ≤ 6) (marker : List Char) (hmarker : marker.length = 2) :
    (marker ++ spaced parts).length ≤ maxLineLength := by
  have hspaced := length_spaced_le h
  have hmax : maxLineLength = 547 := rfl
  rw [List.length_append, hmarker]
  omega

theorem length_text_line_le {text : List Char} (h : text.length ≤ 255) (marker : List Char)
    (hmarker : marker.length = 2) : (marker ++ text).length ≤ maxLineLength := by
  rw [List.length_append, hmarker]
  exact (Nat.add_le_add_left h 2).trans (by decide)

theorem length_attributeLine_le {a : SdpAttribute} (ha : AttributeStored a) :
    (attributeLine a).length ≤ maxLineLength := by
  have hname := ha.name
  have hvalue := ha.value
  have hmax : maxLineLength = 2 + maxSdpAttributeNameLength + 1 + maxSdpAttributeValueLength := rfl
  have hmarker : "a=".toList.length = 2 := rfl
  rw [attributeLine, List.length_append, hmarker]
  split_ifs
  · omega
  · rw [List.length_append, List.length_cons]
    omega

theorem eq_of_mem_ite {α : Type*} {p : Prop} [Decidable p] {x y : α}
    (h : x ∈ if p then [y] else []) : x = y :=
  List.mem_singleton.mp (List.mem_ite_nil_right.mp h).2

theorem length_le_of_mem_mediaLines {m : SdpMediaDescription} (hm : MediaStored m) :
    ∀ l ∈ mediaLines m, l.length ≤ maxLineLength := by
  intro l hl
  simp only [mediaLines, List.mem_append, List.mem_map] at hl
  rcases hl with hl | hl | ⟨x, hx, rfl⟩
  · rw [mediaNameLines] at hl
    obtain rfl := eq_of_mem_ite hl
    exact length_text_line_le hm.name _ rfl
  · rw [connectionLines] at hl
    obtain rfl := eq_of_mem_ite hl
    exact length_spaced_line_le hm.connection.parts (by simp) _ rfl
  · exact length_attributeLine_le (hm.attributes x hx)

theorem length_le_of_mem_linesOf {d : SessionDescription} (hd : Stored d) :
    ∀ l ∈ linesOf d, l.length ≤ maxLineLength := by
  have hprinted : ∀ v : UInt64, (printUInt64 v).length ≤ 63 := fun v =>
    (length_printUInt64_le v).trans (by decide)
  intro l hl
  simp only [linesOf, List.mem_append, List.mem_singleton, List.mem_map, List.mem_flatMap] at hl
  rcases hl with rfl | hl | hl | ⟨t, -, rfl⟩ | ⟨x, hx, rfl⟩ | ⟨m, hm, hl⟩
  · exact length_text_line_le ((hprinted _).trans (by decide)) _ rfl
  · rw [originLines] at hl
    obtain rfl := eq_of_mem_ite hl
    have hparts : ∀ part ∈ [d.sdpOrigin.userName, printUInt64 d.sdpOrigin.sessionId,
        printUInt64 d.sdpOrigin.sessionVersion, d.sdpOrigin.sdpConnectionInformation.networkType,
        d.sdpOrigin.sdpConnectionInformation.addressType,
        d.sdpOrigin.sdpConnectionInformation.connectionAddress], part.length ≤ 63 := by
      intro part hpart
      rcases List.mem_cons.mp hpart with rfl | hpart
      · exact hd.userName.trans (by decide)
      rcases List.mem_cons.mp hpart with rfl | hpart
      · exact hprinted _
      rcases List.mem_cons.mp hpart with rfl | hpart
      · exact hprinted _
      exact hd.connection.parts part hpart
    exact length_spaced_line_le hparts (by simp) _ rfl
  · rw [sessionNameLines] at hl
    obtain rfl := eq_of_mem_ite hl
    exact length_text_line_le hd.sessionName _ rfl
  · have hparts : ∀ part ∈ [printUInt64 t.startTime, printUInt64 t.stopTime], part.length ≤ 63 := by
      simp [hprinted]
    exact length_spaced_line_le hparts (by simp) _ rfl
  · exact length_attributeLine_le (hd.attributes x hx)
  · exact length_le_of_mem_mediaLines (hd.media m hm) l hl

theorem AttributeArray.length_toList (a : AttributeArray) : a.toList.length = a.count := by
  simp [toList]

theorem length_optional_le (p : Prop) [Decidable p] (line : List Char) :
    (if p then [line] else []).length ≤ 1 := by
  split_ifs <;> simp

theorem length_flatMap_le {α β : Type} {f : α → List β} {k : Nat} {l : List α}
    (h : ∀ x ∈ l, (f x).length ≤ k) :
    (l.flatMap f).length ≤ l.length * k := by
  induction l with
  | nil => exact Nat.zero_le _
  | cons x l ih =>
    have hx := h x List.mem_cons_self
    have hl := ih fun y hy => h y (List.mem_cons_of_mem x hy)
    rw [List.flatMap_cons, List.length_append, List.length_cons, Nat.add_mul]
    omega

theorem length_linesOf_le {d : SessionDescription} (hd : Stored d) : (linesOf d).length ≤ 1546 := by
  have hmedia : (d.mediaDescriptions.flatMap mediaLines).length ≤ d.mediaDescriptions.length *
      257 := by
    apply length_flatMap_le
    intro m hm
    have hcount := (hd.media m hm).count
    have hname : (mediaNameLines m.mediaName).length ≤ 1 := length_optional_le _ _
    have hconnection : (connectionLines m.sdpConnectionInformation).length ≤ 1 :=
      length_optional_le _ _
    simp only [mediaLines, List.length_append, List.length_map, AttributeArray.length_toList]
    omega
  have horigin : (originLines d.sdpOrigin).length ≤ 1 := length_optional_le _ _
  have hname : (sessionNameLines d.sessionName).length ≤ 1 := length_optional_le _ _
  have htimes : d.sdpTimeDescription.length ≤ 2 := hd.times
  have hcount : d.sdpAttributes.count ≤ 256 := hd.count
  have hmediaCount : d.mediaDescriptions.length ≤ 5 := hd.mediaCount
  simp only [linesOf, List.length_append, List.length_map, List.length_singleton,
    AttributeArray.length_toList]
  omega

theorem length_joined_lt {d : SessionDescription} (hd : Stored d) :
    (joined (linesOf d)).length + 1 < 2 ^ 32 := by
  have hlines := length_linesOf_le hd
  have hle : (joined (linesOf d)).length ≤ (linesOf d).length * (maxLineLength + 2) := by
    apply length_flatMap_le
    intro l hl
    have hlength := length_le_of_mem_linesOf hd l hl
    rw [List.length_append]
    exact Nat.add_le_add_right hlength 2
  have hmax : (linesOf d).length * (maxLineLength + 2) ≤ 1546 * 549 :=
    Nat.mul_le_mul_right 549 hlines
  omega

end KvsWebrtc.Sdp.Wire
