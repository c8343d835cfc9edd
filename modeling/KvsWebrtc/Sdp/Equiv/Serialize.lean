import KvsWebrtc.Common.Emits
import KvsWebrtc.PeerConnection.Equiv.JsonOutput
import KvsWebrtc.Sdp.Serialize

/-!
# The text of a session description

Each function of the serializer writes the text of its lines (`Emits`), so that the size that is
counted without a buffer is the one that is needed with a buffer (`serialize_spec`).
-/

namespace KvsWebrtc.Sdp.Wire

open PeerConnection Text

/-! ### Lines -/

def versionLine (version : UInt64) : List Char := "v=".toList ++ printUInt64 version

def originLines (o : SdpOrigin) : List (List Char) :=
  let c := o.sdpConnectionInformation
  if o.userName ≠ [] ∧ c.networkType ≠ [] ∧ c.addressType ≠ [] ∧ c.connectionAddress ≠ [] then
    ["o=".toList ++ spaced [o.userName, printUInt64 o.sessionId, printUInt64 o.sessionVersion,
      c.networkType, c.addressType, c.connectionAddress]]
  else []

def sessionNameLines (sessionName : List Char) : List (List Char) :=
  if sessionName ≠ [] then ["s=".toList ++ sessionName] else []

def timeLine (t : SdpTimeDescription) : List Char :=
  "t=".toList ++ spaced [printUInt64 t.startTime, printUInt64 t.stopTime]

def attributeLine (a : SdpAttribute) : List Char :=
  "a=".toList ++ if a.attributeValue = [] then a.attributeName else
  a.attributeName ++ ':' :: a.attributeValue

def mediaNameLines (mediaName : List Char) : List (List Char) :=
  if mediaName ≠ [] then ["m=".toList ++ mediaName] else []

def connectionLines (c : SdpConnectionInformation) : List (List Char) :=
  if c.networkType ≠ [] then ["c=".toList ++ spaced [c.networkType, c.addressType,
    c.connectionAddress]] else []

def mediaLines (m : SdpMediaDescription) : List (List Char) :=
  mediaNameLines m.mediaName ++ (connectionLines m.sdpConnectionInformation ++
    m.sdpAttributes.toList.map attributeLine)

def linesOf (d : SessionDescription) : List (List Char) :=
  [versionLine d.version] ++ (originLines d.sdpOrigin ++ (sessionNameLines d.sessionName ++
    (d.sdpTimeDescription.map timeLine ++ (d.sdpAttributes.toList.map attributeLine ++
      d.mediaDescriptions.flatMap mediaLines))))

def joined (lines : List (List Char)) : List Char := lines.flatMap (· ++ sdpLineSeparator)

theorem joined_append (lines lines' : List (List Char)) :
    joined (lines ++ lines') = joined lines ++ joined lines' := List.flatMap_append

/-! ### The output -/

variable {buffer : Option Nat} {out : SdpOutput} {text line : List Char}

/-- How long a text may get in a buffer of a size, which has to hold a zero behind it, and without a
buffer. -/
def roomIn : Option Nat → Nat
  | none => 2 ^ 32 - 1
  | some size => size - 1

/-- The output that holds a text, and behind it a zero if there is a buffer and the text is not
empty. -/
structure Holds (buffer : Option Nat) (out : SdpOutput) (text : List Char) : Prop where
  total : out.totalWritten = text.length
  length : out.memory.map List.length = buffer
  size : ∀ n, buffer = some n → out.bufferSize = n ∧ n < 2 ^ 32
  written : ∀ m, out.memory = some m →
    m.take text.length = text ∧ (text ≠ [] → m[text.length]? = some '\x00')

abbrev Writes (buffer : Option Nat) (f : SdpOutput → Except SdpOutput SdpOutput)
    (text : List Char) : Prop :=
  Emits (Holds buffer) (fun _ => roomIn buffer) f text

theorem Holds.total_advance (h : Holds buffer out text)
    (hroom : text.length + line.length ≤ roomIn buffer) :
    ((out.print line).advance line).totalWritten = (text ++ line).length := by
  have hlt : text.length + line.length < 2 ^ 32 := by
    cases buffer with
    | none => exact Nat.lt_of_le_of_lt hroom (by decide)
    | some n =>
      have hsmall := (h.size n rfl).2
      have hle : text.length + line.length ≤ n - 1 := hroom
      omega
  show (out.totalWritten + line.length) % 2 ^ 32 = _
  rw [List.length_append, h.total, Nat.mod_eq_of_lt hlt]

theorem Holds.print (h : Holds buffer out text) (hpos : 0 < line.length)
    (hroom : text.length + line.length ≤ roomIn buffer) :
    Holds buffer ((out.print line).advance line) (text ++ line) ∧
      (out.memory = none ∨ out.remaining ≥ line.length) := by
  have htotal := h.total_advance hroom
  have hlength := h.length
  cases hm : out.memory with
  | none =>
    have hnone : ((out.print line).advance line).memory = none := by
      simp [SdpOutput.advance, SdpOutput.print, hm]
    rw [hm] at hlength
    exact ⟨⟨htotal, by
      rw [hnone]; exact hlength, h.size, fun m hm' => nomatch hnone.symm.trans hm'⟩, .inl rfl⟩
  | some m =>
    rw [hm] at hlength
    obtain rfl : some m.length = buffer := hlength
    obtain ⟨hsize, hsmall⟩ := h.size m.length rfl
    have htake := (h.written m hm).1
    have hroom : text.length + line.length ≤ m.length - 1 := hroom
    have hremaining : out.remaining = m.length - text.length := by
      rw [SdpOutput.remaining, h.total, hsize]
      omega
    have hfits : line.length < out.remaining := by omega
    have hmemory : ((out.print line).advance line).memory =
        some (snprintf m out.totalWritten out.remaining line) := by
      simp [SdpOutput.advance, SdpOutput.print, hm]
    obtain ⟨rest, hprinted⟩ : ∃ rest, snprintf m out.totalWritten out.remaining line =
        (text ++ line) ++ '\x00' :: rest := by
      obtain ⟨rest, hrest⟩ := snprintf_of_lt hfits
      exact ⟨rest, by rw [hrest, h.total, htake]⟩
    refine ⟨⟨htotal, ?_, h.size, ?_⟩, .inr (Nat.le_of_lt hfits)⟩
    · rw [hmemory, Option.map_some, length_snprintf (by rw [h.total]; omega)]
    · intro m' hm'
      obtain rfl := Option.some.inj (hmemory.symm.trans hm')
      rw [hprinted]
      exact ⟨List.take_left, fun _ => by simp⟩

theorem writes_write (hpos : 0 < line.length) : Writes buffer (·.write line) line := by
  intro out text h hroom
  exact ⟨_, rfl, (h.print hpos hroom).1, rfl⟩

theorem writes_writeChecked (hpos : 0 < line.length) :
    Writes buffer (·.writeChecked line) line := by
  intro out text h hroom
  obtain ⟨hholds, hfits⟩ := h.print hpos hroom
  exact ⟨_, if_pos hfits, hholds, rfl⟩

/-! ### The functions of the serializer -/

theorem joined_singleton (line : List Char) : joined [line] = line ++ sdpLineSeparator := by
  simp [joined]

theorem joined_map {ι : Type} (line : ι → List Char) (is : List ι) :
    joined (is.map line) = is.flatMap fun i => line i ++ sdpLineSeparator := by
  simp [joined, List.flatMap_map]

/-- A line that is left out where there is nothing to say. -/
theorem writes_optional (p : Prop) [Decidable p] (line : List Char) :
    Writes buffer (fun out => if p then out.writeChecked (line ++ sdpLineSeparator) else .ok out)
      (joined (if p then [line] else [])) := by
  have hline : Writes buffer (·.writeChecked (line ++ sdpLineSeparator))
      (line ++ sdpLineSeparator) :=
    writes_writeChecked (by simp [sdpLineSeparator])
  have htext : joined (if p then [line] else []) = if p then line ++ sdpLineSeparator else [] := by
    split_ifs
    · exact joined_singleton line
    · rfl
  rw [htext]
  exact hline.ite p

theorem writes_version (version : UInt64) :
    Writes buffer (serializeVersion · version) (joined [versionLine version]) := by
  rw [joined_singleton]
  exact writes_writeChecked (by simp [sdpLineSeparator])

theorem writes_origin (o : SdpOrigin) :
    Writes buffer (serializeOrigin · o) (joined (originLines o)) :=
  writes_optional _ _

theorem writes_sessionName (sessionName : List Char) :
    Writes buffer (serializeSessionName · sessionName) (joined (sessionNameLines sessionName)) :=
  writes_optional _ _

theorem writes_timeDescription (t : SdpTimeDescription) :
    Writes buffer (serializeTimeDescription · t) (timeLine t ++ sdpLineSeparator) :=
  writes_write (by simp [sdpLineSeparator])

theorem writes_attribute (a : SdpAttribute) :
    Writes buffer (serializeAttribute · a) (attributeLine a ++ sdpLineSeparator) := by
  simp only [serializeAttribute, attributeLine]
  split_ifs <;> exact writes_write (by simp [sdpLineSeparator])

theorem writes_mediaName (mediaName : List Char) :
    Writes buffer (serializeMediaName · mediaName) (joined (mediaNameLines mediaName)) :=
  writes_optional _ _

theorem writes_connection (c : SdpConnectionInformation) :
    Writes buffer (serializeMediaConnectionInformation · c) (joined (connectionLines c)) :=
  writes_optional _ _

theorem writes_media (m : SdpMediaDescription) :
    Writes buffer (serializeMedia · m) (joined (mediaLines m)) := by
  rw [mediaLines, joined_append, joined_append, joined_map]
  exact (writes_mediaName _).bind ((writes_connection _).bind (Emits.foldlM writes_attribute _))

theorem writes_lines (d : SessionDescription) :
    Writes buffer (serializeLines · d) (joined (linesOf d)) := by
  have hmedia : joined (d.mediaDescriptions.flatMap mediaLines) =
      d.mediaDescriptions.flatMap fun m => joined (mediaLines m) := List.flatMap_assoc
  simp only [linesOf, joined_append, joined_map, hmedia]
  exact (writes_version _).bind ((writes_origin _).bind ((writes_sessionName _).bind
    ((Emits.foldlM writes_timeDescription _).bind ((Emits.foldlM writes_attribute _).bind
      (Emits.foldlM writes_media _)))))

theorem serializeLines_holds {d : SessionDescription} (hstart : Holds buffer out [])
    (hroom : (joined (linesOf d)).length ≤ roomIn buffer) :
    ∃ out', serializeLines out d = .ok out' ∧ Holds buffer out' (joined (linesOf d)) := by
  obtain ⟨out', hout', hholds, -⟩ := writes_lines d out [] hstart
    (by rwa [List.length_nil, Nat.zero_add])
  exact ⟨out', hout', hholds⟩

/-- **Without a buffer** the text and a zero are counted. -/
theorem serialize_null {d : SessionDescription} (hlen : (joined (linesOf d)).length + 1 < 2 ^ 32)
    (n : Nat) :
    serializeSessionDescription d none n = (.success, none, (joined (linesOf d)).length + 1) := by
  have hstart : Holds none ⟨none, n, 0⟩ [] := ⟨rfl, rfl, nofun, nofun⟩
  obtain ⟨out, hout, hholds⟩ := serializeLines_holds (d := d) hstart
    (Nat.le_sub_one_of_lt (by omega))
  have hmemory : out.memory = none := Option.map_eq_none_iff.mp hholds.length
  rw [serializeSessionDescription, hout]
  show (Status.success, out.memory, (out.totalWritten + 1) % 2 ^ 32) = _
  rw [hmemory, hholds.total, Nat.mod_eq_of_lt hlen]

theorem Holds.full (h : Holds buffer out text) (hne : text ≠ []) {m : List Char}
    (hm : out.memory = some m) (hlen : m.length = text.length + 1) : m = text ++ ['\x00'] := by
  obtain ⟨htake, hzero⟩ := h.written m hm
  have hlast : text.length < m.length := by omega
  have hget := hzero hne
  rw [List.getElem?_eq_getElem hlast] at hget
  calc m = m.take text.length ++ m.drop text.length := (List.take_append_drop _ _).symm
    _ = text ++ m[text.length] :: m.drop (text.length + 1) := by
      rw [htake, List.drop_eq_getElem_cons hlast]
    _ = text ++ ['\x00'] := by rw [Option.some.inj hget, List.drop_eq_nil_of_le (by omega)]

/-- **With a buffer** of this size they are written. -/
theorem serialize_some {d : SessionDescription} (hlen : (joined (linesOf d)).length + 1 < 2 ^ 32)
    {memory : List Char} (hmemory : memory.length = (joined (linesOf d)).length + 1) :
    serializeSessionDescription d (some memory) memory.length =
      (.success, some (joined (linesOf d) ++ ['\x00']), memory.length) := by
  have hstart : Holds (some memory.length) ⟨some memory, memory.length, 0⟩ [] := by
    refine ⟨rfl, rfl, fun n hn => ?_, fun m _ => ⟨List.take_zero, fun h => absurd rfl h⟩⟩
    obtain rfl := Option.some.inj hn
    exact ⟨rfl, by omega⟩
  obtain ⟨out, hout, hholds⟩ := serializeLines_holds (d := d) hstart (by
    show _ ≤ memory.length - 1
    omega)
  obtain ⟨m, hm, hmlen⟩ := Option.map_eq_some_iff.mp hholds.length
  have hne : joined (linesOf d) ≠ [] := by simp [joined, linesOf, versionLine]
  have hfull := hholds.full hne hm (hmlen.trans hmemory)
  rw [serializeSessionDescription, hout]
  show (Status.success, out.memory, (out.totalWritten + 1) % 2 ^ 32) = _
  rw [hm, hfull, hholds.total, ← hmemory, Nat.mod_eq_of_lt (by omega)]

end KvsWebrtc.Sdp.Wire
