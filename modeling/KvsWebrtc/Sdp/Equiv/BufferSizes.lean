import KvsWebrtc.Sdp.Equiv.RoundTrip

/-!
# Buffers that are too small

The serializer as one loop over the lines (`serializeLines_eq`).  A line that does not fit is an
error if its function looks at the space that remains; the functions for times and attributes do
not, and what follows them is written behind the buffer.  The others let a line pass that fits
without its zero.
-/

namespace KvsWebrtc.Sdp.Wire

open PeerConnection Text

/-! ### One loop -/

/-- The lines whose functions look at the space that remains: all but those of times and
attributes. -/
def isChecked (line : List Char) : Bool := line.head? ≠ some 't' ∧ line.head? ≠ some 'a'

def SdpOutput.writeLine (out : SdpOutput) (line : List Char) : Except SdpOutput SdpOutput :=
  if isChecked line then out.writeChecked (line ++ sdpLineSeparator) else
    out.write (line ++ sdpLineSeparator)

variable (out : SdpOutput)

theorem foldlM_optional (p : Prop) [Decidable p] {line : List Char} (h : isChecked line = true) :
    (if p then [line] else []).foldlM SdpOutput.writeLine out =
      if p then out.writeChecked (line ++ sdpLineSeparator) else .ok out := by
  split_ifs
  · rw [List.foldlM_cons, SdpOutput.writeLine, if_pos h]
    exact bind_pure _
  · rfl

theorem serializeVersion_eq (version : UInt64) :
    serializeVersion out version = [versionLine version].foldlM SdpOutput.writeLine out :=
  (foldlM_optional out True rfl).symm

theorem serializeOrigin_eq (o : SdpOrigin) :
    serializeOrigin out o = (originLines o).foldlM SdpOutput.writeLine out :=
  (foldlM_optional out _ rfl).symm

theorem serializeSessionName_eq (sessionName : List Char) :
    serializeSessionName out sessionName = (sessionNameLines sessionName).foldlM SdpOutput.writeLine
      out :=
  (foldlM_optional out _ rfl).symm

theorem serializeMediaName_eq (mediaName : List Char) :
    serializeMediaName out mediaName = (mediaNameLines mediaName).foldlM SdpOutput.writeLine out :=
  (foldlM_optional out _ rfl).symm

theorem serializeMediaConnectionInformation_eq (c : SdpConnectionInformation) :
    serializeMediaConnectionInformation out c = (connectionLines c).foldlM SdpOutput.writeLine
      out :=
  (foldlM_optional out _ rfl).symm

theorem serializeTimeDescription_eq (t : SdpTimeDescription) :
    serializeTimeDescription out t = out.writeLine (timeLine t) := rfl

theorem serializeAttribute_eq (a : SdpAttribute) :
    serializeAttribute out a = out.writeLine (attributeLine a) := by
  have hunchecked : isChecked (attributeLine a) = false := rfl
  rw [serializeAttribute, SdpOutput.writeLine, hunchecked, if_neg Bool.false_ne_true, attributeLine]
  split_ifs <;> rfl

theorem foldlM_flatMap {σ ε α ι : Type} (f : σ → α → Except ε σ) (g : ι → List α) (is : List ι)
    (s : σ) :
    (is.flatMap g).foldlM f s = is.foldlM (fun s i => (g i).foldlM f s) s := by
  induction is generalizing s with
  | nil => rfl
  | cons i is ih =>
    rw [List.flatMap_cons, List.foldlM_append, List.foldlM_cons]
    exact congrArg _ (funext ih)

theorem serializeMedia_eq (m : SdpMediaDescription) :
    serializeMedia out m = (mediaLines m).foldlM SdpOutput.writeLine out := by
  simp only [serializeMedia, mediaLines, List.foldlM_append, List.foldlM_map, serializeMediaName_eq,
    serializeMediaConnectionInformation_eq, funext₂ serializeAttribute_eq]

theorem serializeLines_eq (d : SessionDescription) :
    serializeLines out d = (linesOf d).foldlM SdpOutput.writeLine out := by
  simp only [serializeLines, linesOf, List.foldlM_append, List.foldlM_map, foldlM_flatMap,
    serializeVersion_eq, serializeOrigin_eq, serializeSessionName_eq,
    funext₂ serializeTimeDescription_eq, funext₂ serializeAttribute_eq, funext₂ serializeMedia_eq]

/-! ### Lines that do not fit -/

/-- The first line that does not fit into the room that is left is one that is checked. -/
def detects : Nat → List (List Char) → Bool
  | _, [] => false
  | room, line :: lines =>
    if room < (line ++ sdpLineSeparator).length then isChecked line
    else detects (room - (line ++ sdpLineSeparator).length) lines

variable {out} {m : List Char}

theorem length_joined_cons (line : List Char) (lines : List (List Char)) :
    (joined (line :: lines)).length = (line ++ sdpLineSeparator).length +
      (joined lines).length := by
  rw [joined, List.flatMap_cons, List.length_append, ← joined]

/-- The output in the middle of a buffer. -/
structure Within (out : SdpOutput) (m : List Char) : Prop where
  memory : out.memory = some m
  size : out.bufferSize = m.length
  small : m.length < 2 ^ 32
  total : out.totalWritten ≤ m.length

theorem Within.remaining (h : Within out m) : out.remaining = m.length - out.totalWritten := by
  have hsmall := h.small
  have htotal := h.total
  rw [SdpOutput.remaining, h.size]
  omega

theorem Within.print (h : Within out m) (text : List Char) :
    ∃ m', (out.print text).memory = some m' ∧ m'.length = m.length := by
  refine ⟨snprintf m out.totalWritten out.remaining text, ?_, length_snprintf ?_⟩
  · rw [SdpOutput.print, h.memory]
    rfl
  · have htotal := h.total
    rw [h.remaining]
    omega

def SdpOutput.behindLine (out : SdpOutput) (line : List Char) : SdpOutput :=
  (out.print (line ++ sdpLineSeparator)).advance (line ++ sdpLineSeparator)

variable (out) in
theorem totalWritten_behindLine (line : List Char)
    (h : out.totalWritten + (line ++ sdpLineSeparator).length < 2 ^ 32) :
    (out.behindLine line).totalWritten = out.totalWritten + (line ++ sdpLineSeparator).length :=
  Nat.mod_eq_of_lt h

theorem writeLine_of_remaining {line : List Char}
    (h : out.remaining ≥ (line ++ sdpLineSeparator).length) :
    out.writeLine line = .ok (out.behindLine line) := by
  have hroom : out.memory = none ∨ out.remaining ≥ (line ++ sdpLineSeparator).length := .inr h
  rw [SdpOutput.writeLine, SdpOutput.writeChecked, if_pos hroom]
  exact ite_self _

theorem writeLine_of_lt {m line : List Char} (hm : out.memory = some m)
    (h : out.remaining < (line ++ sdpLineSeparator).length) :
    out.writeLine line =
      if isChecked line then .error (out.print (line ++ sdpLineSeparator))
        else .ok (out.behindLine line) := by
  have hroom : ¬(out.memory = none ∨ out.remaining ≥ (line ++ sdpLineSeparator).length) := by
    rw [hm]
    rintro (hnone | hroom)
    · cases hnone
    · exact Nat.not_le.mpr h hroom
  rw [SdpOutput.writeLine, SdpOutput.writeChecked, if_neg hroom]
  rfl

theorem foldlM_behind (lines : List (List Char)) :
    ∀ out : SdpOutput, out.bufferSize < out.totalWritten →
      out.totalWritten + (joined lines).length < 2 ^ 32 →
      ∃ out', lines.foldlM SdpOutput.writeLine out = .ok out' := by
  induction lines with
  | nil => exact fun out _ _ => ⟨out, rfl⟩
  | cons line lines ih =>
    intro out hbehind htotal
    rw [length_joined_cons] at htotal
    -- the difference of the unsigned numbers is larger than what is left
    have hremaining : out.remaining ≥ (line ++ sdpLineSeparator).length := by
      rw [SdpOutput.remaining]
      omega
    have hadvance := totalWritten_behindLine out line (by omega)
    obtain ⟨out', hout'⟩ := ih (out.behindLine line)
      (hadvance ▸ Nat.lt_of_lt_of_le hbehind (Nat.le_add_right _ _)) (by omega)
    refine ⟨out', ?_⟩
    rw [List.foldlM_cons, writeLine_of_remaining hremaining]
    exact hout'

/-- **The lines into a buffer**: there is an error exactly if the first line that does not fit is
checked, and then nothing has been written behind the buffer. -/
theorem foldlM_within (lines : List (List Char)) :
    ∀ (out : SdpOutput) (m : List Char), Within out m →
      out.totalWritten + (joined lines).length < 2 ^ 32 →
      if detects (m.length - out.totalWritten) lines then
        ∃ out' m', lines.foldlM SdpOutput.writeLine out = .error out' ∧ out'.memory = some m' ∧
          m'.length = m.length
      else ∃ out', lines.foldlM SdpOutput.writeLine out = .ok out' := by
  induction lines with
  | nil => exact fun out _ _ _ => ⟨out, rfl⟩
  | cons line lines ih =>
    intro out m h htotal
    rw [length_joined_cons] at htotal
    have hadvance := totalWritten_behindLine out line (by omega)
    have hremaining := h.remaining
    have hsmall := h.small
    have hle := h.total
    obtain ⟨m', hm', hlen⟩ := h.print (line ++ sdpLineSeparator)
    rw [detects, List.foldlM_cons]
    by_cases hroom : m.length - out.totalWritten < (line ++ sdpLineSeparator).length
    · rw [if_pos hroom, writeLine_of_lt h.memory (by rwa [hremaining])]
      by_cases hchecked : isChecked line = true
      · rw [if_pos hchecked, if_pos hchecked]
        exact ⟨_, m', rfl, hm', hlen⟩
      · rw [if_neg hchecked, if_neg hchecked]
        have hsize : (out.behindLine line).bufferSize = m.length := h.size
        exact foldlM_behind lines (out.behindLine line) (by omega) (by omega)
    · have hrest := ih (out.behindLine line) m'
        ⟨hm', h.size.trans hlen.symm, by omega, by omega⟩ (by omega)
      rw [hlen, hadvance, ← Nat.sub_sub] at hrest
      rw [if_neg hroom, writeLine_of_remaining (by rw [hremaining]; omega)]
      exact hrest

/-! ### Sizes -/

def reportedSize (d : SessionDescription) (sdpBytesLength : Nat) : Nat :=
  (serializeSessionDescription d none sdpBytesLength).2.2

/-- What a call with a buffer should do: fill one of the reported size with the text and a zero, and
refuse a smaller one without writing behind it.  What is written behind a buffer makes it longer in
the model. -/
structure RightlySized (d : SessionDescription) (sdpBytesLength : Nat) (buffer : List Char) :
    Prop where
  whole : buffer.length = reportedSize d sdpBytesLength →
    serializeSessionDescription d (some buffer) buffer.length =
        (.success, some (joined (linesOf d) ++ ['\x00']), buffer.length) ∧
      (joined (linesOf d) ++ ['\x00']).length = buffer.length
  small : buffer.length < reportedSize d sdpBytesLength →
    ∃ buffer' written, serializeSessionDescription d (some buffer) buffer.length =
      (.bufferTooSmall, some buffer', written) ∧ buffer'.length = buffer.length

variable {d : SessionDescription}

theorem reportedSize_eq (hd : Stored d) (n : Nat) :
    reportedSize d n = (joined (linesOf d)).length + 1 := by
  rw [reportedSize, serialize_null (length_joined_lt hd)]

/-- A call with a buffer that is no larger than the text. -/
theorem serialize_within (hd : Stored d) {buffer : List Char}
    (hlen : buffer.length ≤ (joined (linesOf d)).length) :
    if detects buffer.length (linesOf d) then
      ∃ buffer' written, serializeSessionDescription d (some buffer) buffer.length =
        (.bufferTooSmall, some buffer', written) ∧ buffer'.length = buffer.length
    else (serializeSessionDescription d (some buffer) buffer.length).1 = .success := by
  have hlt := length_joined_lt hd
  have hwithin : Within ⟨some buffer, buffer.length, 0⟩ buffer :=
    ⟨rfl, rfl, by omega, Nat.zero_le _⟩
  have hrun : if detects buffer.length (linesOf d) then
      ∃ out' m', serializeLines ⟨some buffer, buffer.length, 0⟩ d = .error out' ∧
      out'.memory = some m' ∧ m'.length = buffer.length
      else ∃ out', serializeLines ⟨some buffer, buffer.length, 0⟩ d = .ok out' := by
    rw [serializeLines_eq]
    exact foldlM_within (linesOf d) _ _ hwithin (by show 0 + _ < _; omega)
  rw [serializeSessionDescription]
  split_ifs at hrun ⊢
  · obtain ⟨out, buffer', hout, hmemory, hlength⟩ := hrun
    rw [hout]
    exact ⟨buffer', out.totalWritten, hmemory ▸ rfl, hlength⟩
  · obtain ⟨out, hout⟩ := hrun
    rw [hout]

/-- **Sizes of buffers**: a call does what it should exactly if the buffer has the reported size or
the first line that does not fit is checked. -/
theorem rightlySized_iff (hd : Stored d) (n : Nat) {buffer : List Char}
    (hle : buffer.length ≤ reportedSize d n) :
    RightlySized d n buffer ↔ buffer.length = reportedSize d n ∨ detects buffer.length
    (linesOf d) = true := by
  have hsize := reportedSize_eq hd n
  have hlen := length_joined_lt hd
  constructor
  · intro h
    by_cases hwhole : buffer.length = reportedSize d n
    · exact .inl hwhole
    · obtain ⟨buffer', written, hcall, -⟩ := h.small (by omega)
      have hwithin := serialize_within hd (show buffer.length ≤ (joined (linesOf d)).length by
        omega)
      by_contra hdetects
      rw [if_neg fun h => hdetects (.inr h), hcall] at hwithin
      cases hwithin
  · intro h
    constructor
    · intro hwhole
      refine ⟨serialize_some hlen (hwhole.trans hsize), ?_⟩
      rw [List.length_append, List.length_singleton, hwhole, hsize]
    · intro hsmall
      have hwithin := serialize_within hd (show buffer.length ≤ (joined (linesOf d)).length by
        omega)
      rwa [if_pos (h.resolve_left (by omega))] at hwithin

/-- A buffer of 10 bytes ends in the line of the origin, and one of 40 in a line of an attribute. -/
theorem rightlySized_sample :
    RightlySized sampleDescription 0 (List.replicate 10 'x') ∧
      ¬RightlySized sampleDescription 0 (List.replicate 40 'x') := by
  have hstored := sampleDescription_wellFormed.stored
  have hsize : reportedSize sampleDescription 0 = 80 := by
    rw [reportedSize_eq hstored]
    decide +kernel
  constructor
  · refine (rightlySized_iff hstored 0 ?_).mpr (.inr (by decide +kernel))
    rw [hsize]
    decide
  · intro h
    have hdetects := (rightlySized_iff hstored 0 (by rw [hsize]; decide)).mp h
    rw [hsize] at hdetects
    exact absurd hdetects (by decide +kernel)

theorem stored_zero : Stored .zero :=
  ⟨by decide, ⟨by decide, by decide, by decide⟩, by decide, by decide, by decide, nofun, by
  decide, nofun⟩

/-- **A buffer without room for the zero** is said to hold the text, of which the last character is
missing. -/
theorem text_cut :
    serializeSessionDescription .zero (some ['x', 'x', 'x', 'x', 'x']) 5 =
        (.success, some ['v', '=', '0', '\r', '\x00'], 6) ∧
      ¬ ∀ d buffer, Stored d → buffer.length ≤ reportedSize d 0 → RightlySized d 0 buffer := by
  have hcall : serializeSessionDescription .zero (some ['x', 'x', 'x', 'x', 'x']) 5 =
      (.success, some ['v', '=', '0', '\r', '\x00'], 6) := by
    decide
  refine ⟨hcall, fun h => ?_⟩
  have hsize : reportedSize .zero 0 = 6 := by
    rw [reportedSize_eq stored_zero]
    decide
  obtain ⟨buffer', written, hsmall, -⟩ :=
    (h .zero ['x', 'x', 'x', 'x', 'x'] stored_zero (by rw [hsize]; decide)).small
    (by rw [hsize]; decide)
  have hstatus := congrArg Prod.fst (hcall.symm.trans hsmall)
  cases hstatus

end KvsWebrtc.Sdp.Wire
