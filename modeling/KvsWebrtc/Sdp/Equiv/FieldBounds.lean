import KvsWebrtc.PeerConnection.Equiv.CandidateInit
import KvsWebrtc.Sdp.Equiv.Pointers

/-!
# Fields of parsed descriptions

Which texts fit the fields that they are stored in.  What has no length of its own in the source is
the name in front of a colon; and a title may be as long as a media name, for which its field is too
short.
-/

namespace KvsWebrtc.Sdp.Wire

open Jsmn PeerConnection

/-- Every string of a section fits its field with a zero behind it, also in the entries that do not
count. -/
structure MediaFits (m : SdpMediaDescription) : Prop where
  name : m.mediaName.length ≤ maxSdpMediaNameLength
  title : m.mediaTitle.length ≤ maxSdpMediaTitleLength
  attributes : ∀ i, AttributeStored (m.sdpAttributes.slots i)

/-- Every string of a description fits its field. -/
structure FieldsFit (d : SessionDescription) : Prop where
  sessionName : d.sessionName.length ≤ maxSdpSessionNameLength
  sessionInformation : d.sessionInformation.length ≤ maxSdpSessionInformationLength
  uri : d.uri.length ≤ maxSdpSessionNameLength
  emailAddress : d.emailAddress.length ≤ maxSdpSessionNameLength
  phoneNumber : d.phoneNumber.length ≤ maxSdpSessionNameLength
  attributes : ∀ i, AttributeStored (d.sdpAttributes.slots i)
  media : ∀ m ∈ d.mediaDescriptions, MediaFits m

/-- The name in front of a colon and the title of a line fit their fields. -/
structure LineFits (line : List Char) : Prop where
  name : HasMarker 'a' line → ':' ∈ line → (attributeOf line).attributeName.length ≤
  maxSdpAttributeNameLength
  title : HasMarker 'i' line → line.length - 2 ≤ maxSdpMediaTitleLength

/-- A call neither leaves the text or a field, nor does it leave a string in a field that does not
fit. -/
def Safe : Except Failure SessionDescription → Prop
  | .ok d => FieldsFit d
  | .error e => e ≠ .outOfBounds

variable {d : SessionDescription} {line : List Char} {pic : Platform}

/-! ### Copies -/

theorem strncpy_length (size : Nat) {n : Nat} {source : List Char} (hn : n ≤ source.length)
    (field : List Char) :
    if n ≤ size then ∃ s, strncpy size field source n = .ok s ∧ s.length = max n field.length
    else strncpy size field source n = .error .outOfBounds := by
  rw [strncpy]
  split_ifs
  · refine ⟨_, rfl, ?_⟩
    rw [List.length_append, List.length_take, List.length_drop, Nat.min_eq_left hn]
    omega
  · rfl

theorem copyLine_length (length : Nat) (field line : List Char) :
    if min maxSdpMediaNameLength (line.length - 2) ≤ length + 1 then
      ∃ s, copyLine length field line = .ok s ∧
        s.length = max (min maxSdpMediaNameLength (line.length - 2)) field.length
    else copyLine length field line = .error .outOfBounds :=
  strncpy_length (length + 1) (by rw [List.length_drop]; exact Nat.min_le_right _ _) field

theorem copyLine_fits {field : List Char} (hfield : field.length ≤ maxSdpSessionNameLength)
    (line : List Char) :
    ∃ s, copyLine maxSdpSessionNameLength field line = .ok s ∧ s.length ≤
      maxSdpSessionNameLength := by
  have hcopy := copyLine_length maxSdpSessionNameLength field line
  have hmin : min maxSdpMediaNameLength (line.length - 2) ≤ maxSdpSessionNameLength :=
    Nat.min_le_left _ _
  rw [if_pos (Nat.le_succ_of_le hmin)] at hcopy
  obtain ⟨s, hs, hlen⟩ := hcopy
  exact ⟨s, hs, hlen ▸ max_le hmin hfield⟩

/-- A title fits its field, or the copy leaves the field or the zero. -/
theorem copyLine_title_fits {field : List Char} (hfield : field.length ≤ maxSdpMediaTitleLength)
    (line : List Char) :
    if line.length - 2 ≤ maxSdpMediaTitleLength then
      ∃ s, copyLine maxSdpMediaTitleLength field line = .ok s ∧ s.length ≤ maxSdpMediaTitleLength
    else copyLine maxSdpMediaTitleLength field line = .error .outOfBounds ∨
      ∃ s, copyLine maxSdpMediaTitleLength field line = .ok s ∧ maxSdpMediaTitleLength <
        s.length := by
  have hcopy := copyLine_length maxSdpMediaTitleLength field line
  have hlong : maxSdpMediaNameLength = 255 := rfl
  have hshort : maxSdpMediaTitleLength = 127 := rfl
  by_cases hle : line.length - 2 ≤ maxSdpMediaTitleLength
  · rw [if_pos (by omega)] at hcopy
    obtain ⟨s, hs, hlen⟩ := hcopy
    rw [if_pos hle]
    exact ⟨s, hs, by omega⟩
  · rw [if_neg hle]
    by_cases hone : min maxSdpMediaNameLength (line.length - 2) ≤ maxSdpMediaTitleLength + 1
    · rw [if_pos hone] at hcopy
      obtain ⟨s, hs, hlen⟩ := hcopy
      exact .inr ⟨s, hs, by omega⟩
    · rw [if_neg hone] at hcopy
      exact .inl hcopy

theorem lineFits_attribute (ha : HasMarker 'a' line) :
    LineFits line ↔ (':' ∈ line → (attributeOf line).attributeName.length ≤
      maxSdpAttributeNameLength) :=
  ⟨fun h => h.name ha, fun h => ⟨fun _ => h, fun hi => absurd (hi.unique.mp ha) (by decide)⟩⟩

/-- The value of an attribute fits its field, and the name if the line does. -/
theorem parseAttribute_copies (ha : HasMarker 'a' line) (wrap : Nat) {a : AttributeArray}
    (hslot : AttributeStored (a.slots a.count)) (hcount : a.count < maxSdpAttributesCount) :
    ∃ source n value, n ≤ source.length ∧ (n ≤ maxSdpAttributeNameLength ↔ LineFits line) ∧
      value.length ≤ maxSdpAttributeValueLength ∧
      parseAttribute wrap a line =
        (strncpy (maxSdpAttributeNameLength + 1) (a.slots a.count).attributeName source n).map
          fun name => a.push wrap ⟨name, value⟩ := by
  obtain ⟨rest, rfl⟩ := ha.eq_cons
  rw [lineFits_attribute ha]
  by_cases hcolon : ':' ∈ rest
  · obtain ⟨name, value, rfl, hname⟩ := List.eq_append_cons_of_mem hcolon
    have hmem : ':' ∈ 'a' :: '=' :: (name ++ ':' :: value) := by simp
    have hle : min maxSdpAttributeValueLength value.length ≤ maxSdpAttributeValueLength :=
      Nat.min_le_left _ _
    have hcopy := strncpy_length (maxSdpAttributeValueLength + 1)
      (Nat.min_le_right maxSdpAttributeValueLength value.length) (a.slots a.count).attributeValue
    rw [if_pos (Nat.le_succ_of_le hle)] at hcopy
    obtain ⟨v, hv, hvlen⟩ := hcopy
    refine ⟨name ++ ':' :: value, name.length, v, by simp, ?_, hvlen ▸ max_le hle hslot.value, ?_⟩
    · simp only [hmem, true_imp_iff, attributeOf_colon hname]
    · rw [parseAttribute_colon hname value wrap hcount, hv]
      cases strncpy (maxSdpAttributeNameLength + 1) (a.slots a.count).attributeName
        (name ++ ':' :: value)
        name.length <;> rfl
  · have hmem : ':' ∉ 'a' :: '=' :: rest := by simpa using hcolon
    refine ⟨rest, min maxSdpAttributeNameLength rest.length, (a.slots a.count).attributeValue,
      Nat.min_le_right _ _, ?_, hslot.value, ?_⟩
    · exact iff_of_true (Nat.min_le_left _ _) fun h => absurd h hmem
    · rw [parseAttribute_name hcolon wrap hcount]
      cases strncpy (maxSdpAttributeNameLength + 1) (a.slots a.count).attributeName rest
        (min maxSdpAttributeNameLength rest.length) <;> rfl

/-- An attribute is stored, or its name leaves the field or the zero. -/
theorem parseAttribute_fits (ha : HasMarker 'a' line) (wrap : Nat) {a : AttributeArray}
    (hslot : AttributeStored (a.slots a.count)) (hcount : a.count < maxSdpAttributesCount) :
    (LineFits line ∧ ∃ x, parseAttribute wrap a line = .ok (a.push wrap x) ∧ AttributeStored x) ∨
      (¬ LineFits line ∧ (parseAttribute wrap a line = .error .outOfBounds ∨
        ∃ x, parseAttribute wrap a line = .ok (a.push wrap x) ∧ ¬ AttributeStored x)) := by
  obtain ⟨source, n, value, hn, hfits, hvalue, hparse⟩ := parseAttribute_copies ha wrap hslot hcount
  have hcopy := strncpy_length (maxSdpAttributeNameLength + 1) hn (a.slots a.count).attributeName
  rw [← hfits, hparse]
  by_cases hle : n ≤ maxSdpAttributeNameLength
  · rw [if_pos (Nat.le_succ_of_le hle)] at hcopy
    obtain ⟨name, hname, hlen⟩ := hcopy
    rw [hname]
    exact .inl ⟨hle, ⟨name, value⟩, rfl, hlen ▸ max_le hle hslot.name, hvalue⟩
  · refine .inr ⟨hle, ?_⟩
    by_cases hone : n ≤ maxSdpAttributeNameLength + 1
    · rw [if_pos hone] at hcopy
      obtain ⟨name, hname, hlen⟩ := hcopy
      rw [hname]
      refine .inr ⟨⟨name, value⟩, rfl, fun h => ?_⟩
      have hstored := h.name
      have hmax : n ≤ name.length := hlen ▸ Nat.le_max_left _ _
      exact hle (hmax.trans hstored)
    · rw [if_neg hone] at hcopy
      rw [hcopy]
      exact .inl rfl

theorem push_stored_iff {a : AttributeArray} (hslots : ∀ i, AttributeStored (a.slots i))
    (wrap : Nat) (x : SdpAttribute) :
    (∀ i, AttributeStored ((a.push wrap x).slots i)) ↔ AttributeStored x := by
  constructor
  · intro h
    have hpushed := h a.count
    simpa only [AttributeArray.push, Function.update_self] using hpushed
  · intro hx i
    show AttributeStored (Function.update a.slots a.count x i)
    by_cases hi : i = a.count
    · rw [hi, Function.update_self]
      exact hx
    · rw [Function.update_of_ne hi]
      exact hslots i

/-! ### Lines -/

/-- A description whose fields fit and whose counts are numbers of eight bits. -/
structure Fitting (d : SessionDescription) : Prop where
  fields : FieldsFit d
  counts : ∀ m ∈ d.mediaDescriptions, m.sdpAttributes.count < 2 ^ 8

def countsOf (d : SessionDescription) : Nat × Nat :=
  (d.mediaDescriptions.length, d.sdpAttributes.count)

/-- The numbers behind a line, unless it is refused. -/
def countsAfter (line : List Char) (counts : Nat × Nat) : Option (Nat × Nat) :=
  if HasMarker 'm' line then
    if counts.1 < maxSdpSessionMediaCount then some (counts.1 + 1, counts.2) else none
  else if HasMarker 'a' line ∧ counts.1 = 0 then
    if counts.2 < maxSdpAttributesCount then some (counts.1, counts.2 + 1) else none
  else some counts

/-- A line that is not refused fits and leaves a description that fits, or neither does. -/
def Parses (pic : Platform) (d : SessionDescription) (line : List Char) (counts : Nat × Nat) :
    Prop :=
  (LineFits (stripCr line) ∧ ∃ d', parseLine pic d line = .ok d' ∧ Fitting d' ∧
  countsOf d' = counts) ∨ (¬ LineFits (stripCr line) ∧ ¬ Safe (parseLine pic d line))

theorem lineFits_other (ha : ¬ HasMarker 'a' line) (hi : ¬ HasMarker 'i' line) : LineFits line :=
  ⟨fun h => absurd h ha, fun h => absurd h hi⟩

theorem lineFits_title (hi : HasMarker 'i' line) :
    LineFits line ↔ line.length - 2 ≤ maxSdpMediaTitleLength :=
  ⟨fun h => h.title hi, fun h => ⟨fun ha => absurd (ha.unique.mp hi) (by decide), fun _ => h⟩⟩

theorem zeroAttribute_stored : AttributeStored zeroAttribute := ⟨Nat.zero_le _, Nat.zero_le _⟩

theorem mediaFits_zero {name : List Char} (h : name.length ≤ maxSdpMediaNameLength) :
    MediaFits { SdpMediaDescription.zero with mediaName := name } :=
  ⟨h, Nat.zero_le _, fun _ => zeroAttribute_stored⟩

theorem Fitting.withMedia (hd : Fitting d) {media : List SdpMediaDescription}
    (h : ∀ m ∈ media, MediaFits m ∧ m.sdpAttributes.count < 2 ^ 8) :
    Fitting { d with mediaDescriptions := media } :=
  ⟨{ hd.fields with media := fun m hm => (h m hm).1 }, fun m hm => (h m hm).2⟩

theorem parses_media (hd : Fitting d) (hm : HasMarker 'm' (stripCr line))
    (hroom : d.mediaDescriptions.length < maxSdpSessionMediaCount) :
    Parses pic d line (d.mediaDescriptions.length + 1, d.sdpAttributes.count) := by
  have hempty : ([] : List Char).length ≤ maxSdpSessionNameLength := Nat.zero_le _
  obtain ⟨name, hname, hlen⟩ := copyLine_fits hempty (stripCr line)
  have hcopy : copyLine maxSdpMediaNameLength [] (stripCr line) = .ok name := hname
  have hfits : LineFits (stripCr line) := lineFits_other (by simp [hm.unique]) (by simp [hm.unique])
  have hparse : parseLine pic d line = .ok { d with
      mediaDescriptions := d.mediaDescriptions ++ [{ SdpMediaDescription.zero with
        mediaName := name }] } := by
    rw [parseLine_eq_mediaName hm, parseMediaName, if_pos hroom, hcopy]
    rfl
  refine .inl ⟨hfits, _, hparse, hd.withMedia ?_, by simp [countsOf]⟩
  intro m hmem
  rcases List.mem_append.mp hmem with hmem | hmem
  · exact ⟨hd.fields.media m hmem, hd.counts m hmem⟩
  · rw [List.mem_singleton.mp hmem]
    exact ⟨mediaFits_zero hlen, Nat.two_pow_pos 8⟩

theorem parses_sessionAttribute (hd : Fitting d) (ha : HasMarker 'a' (stripCr line))
    (hmedia : d.mediaDescriptions = []) (hroom : d.sdpAttributes.count < maxSdpAttributesCount) :
    Parses pic d line (d.mediaDescriptions.length, d.sdpAttributes.count + 1) := by
  have hparse : parseLine pic d line = parseSessionAttributes d (stripCr line) := by
    rw [parseLine_eq_sessionLine (ha.not_media (by decide)) hmedia,
      parseSessionLine_eq_attributes ha]
  rw [Parses, hparse, parseSessionAttributes]
  rcases parseAttribute_fits ha (2 ^ 16) (hd.fields.attributes _) hroom with
    ⟨hfits, x, hx, hstored⟩ | ⟨hfits, hx | ⟨x, hx, hstored⟩⟩
  · have hsmall : d.sdpAttributes.count < 256 := hroom
    rw [hx]
    exact .inl ⟨hfits, _, rfl, ⟨{ hd.fields with
      attributes := (push_stored_iff hd.fields.attributes _ _).mpr hstored }, hd.counts⟩,
      by rw [countsOf, AttributeArray.count_push (by omega)]⟩
  · rw [hx]
    exact .inr ⟨hfits, fun h => h rfl⟩
  · rw [hx]
    exact .inr ⟨hfits, fun h =>
      hstored ((push_stored_iff hd.fields.attributes _ _).mp h.attributes)⟩

theorem parses_lastMedia (hd : Fitting d) (hmedia : d.mediaDescriptions ≠ [])
    {f : SdpMediaDescription → Except Failure SdpMediaDescription}
    (hparse : parseLine pic d line = modifyLastMedia d f)
    (hf : ∀ m, MediaFits m → m.sdpAttributes.count < 2 ^ 8 →
      (LineFits (stripCr line) ∧ ∃ m', f m = .ok m' ∧ MediaFits m' ∧ m'.sdpAttributes.count <
        2 ^ 8) ∨
        (¬ LineFits (stripCr line) ∧ (f m = .error .outOfBounds ∨ ∃ m', f m = .ok m' ∧
          ¬ MediaFits m'))) :
    Parses pic d line (d.mediaDescriptions.length, d.sdpAttributes.count) := by
  obtain ⟨init, m, hsplit⟩ := (List.eq_nil_or_concat' d.mediaDescriptions).resolve_left hmedia
  have hlast : d.mediaDescriptions.getLast? = some m := by rw [hsplit, List.getLast?_concat]
  have hmem : m ∈ d.mediaDescriptions := by simp [hsplit]
  have hinit : ∀ m' ∈ d.mediaDescriptions.dropLast, MediaFits m' ∧ m'.sdpAttributes.count < 2 ^ 8 :=
    fun m' hm' =>
    ⟨hd.fields.media m' (List.dropLast_subset _ hm'), hd.counts m' (List.dropLast_subset _ hm')⟩
  rw [Parses, hparse, modifyLastMedia, hlast]
  dsimp only
  rcases hf m (hd.fields.media m hmem) (hd.counts m hmem) with
    ⟨hfits, m', hm', hmfits, hcount⟩ | ⟨hfits, hm' | ⟨m', hm', hmfits⟩⟩
  · rw [hm']
    refine .inl ⟨hfits, _, rfl, hd.withMedia ?_, by simp [countsOf, hsplit]⟩
    intro x hx
    rcases List.mem_append.mp hx with hx | hx
    · exact hinit x hx
    · rw [List.mem_singleton.mp hx]
      exact ⟨hmfits, hcount⟩
  · rw [hm']
    exact .inr ⟨hfits, fun h => h rfl⟩
  · rw [hm']
    exact .inr ⟨hfits, fun h =>
      hmfits (h.media m' (List.mem_append_right _ (List.mem_singleton_self _)))⟩

theorem parses_sectionAttribute (hd : Fitting d) (ha : HasMarker 'a' (stripCr line))
    (hmedia : d.mediaDescriptions ≠ []) :
    Parses pic d line (d.mediaDescriptions.length, d.sdpAttributes.count) := by
  have hparse : parseLine pic d line = parseMediaAttributes d (stripCr line) := by
    rw [parseLine_eq_mediaLine (ha.not_media (by decide)) hmedia, parseMediaLine, if_pos ha]
  refine parses_lastMedia hd hmedia hparse fun m hm hcount => ?_
  have hwrap : ∀ x, (m.sdpAttributes.push (2 ^ 8) x).count < 2 ^ 8 :=
    fun x => Nat.mod_lt _ (by decide)
  rcases parseAttribute_fits ha (2 ^ 8) (hm.attributes _) hcount with
    ⟨hfits, x, hx, hstored⟩ | ⟨hfits, hx | ⟨x, hx, hstored⟩⟩
  · rw [hx]
    exact .inl ⟨hfits, _, rfl, { hm with
      attributes := (push_stored_iff hm.attributes _ _).mpr hstored }, hwrap x⟩
  · rw [hx]
    exact .inr ⟨hfits, .inl rfl⟩
  · rw [hx]
    exact .inr ⟨hfits, .inr ⟨_, rfl, fun h =>
      hstored ((push_stored_iff hm.attributes _ _).mp h.attributes)⟩⟩

theorem parses_mediaTitle (hd : Fitting d) (hi : HasMarker 'i' (stripCr line))
    (hmedia : d.mediaDescriptions ≠ []) :
    Parses pic d line (d.mediaDescriptions.length, d.sdpAttributes.count) := by
  have hparse : parseLine pic d line = modifyLastMedia d (fun m =>
      copyLine maxSdpMediaTitleLength m.mediaTitle (stripCr line) >>= fun mediaTitle =>
        .ok { m with mediaTitle := mediaTitle }) := by
    rw [parseLine_eq_mediaLine (hi.not_media (by decide)) hmedia, parseMediaLine,
      if_neg (by simp [hi.unique]), if_pos hi]
  refine parses_lastMedia hd hmedia hparse fun m hm hcount => ?_
  have hcopy := copyLine_title_fits hm.title (stripCr line)
  rw [lineFits_title hi]
  split_ifs at hcopy with hle
  · obtain ⟨title, htitle, hlen⟩ := hcopy
    rw [htitle]
    exact .inl ⟨hle, _, rfl, { hm with title := hlen }, hcount⟩
  · rcases hcopy with hcopy | ⟨title, htitle, hlen⟩
    · rw [hcopy]
      exact .inr ⟨hle, .inl rfl⟩
    · rw [htitle]
      exact .inr ⟨hle, .inr ⟨_, rfl, fun h => Nat.not_le.mpr hlen h.title⟩⟩

theorem parses_sessionTitle (hd : Fitting d) (hi : HasMarker 'i' (stripCr line))
    (hmedia : d.mediaDescriptions = []) :
    Parses pic d line (d.mediaDescriptions.length, d.sdpAttributes.count) := by
  have hlength : maxSdpSessionInformationLength = maxSdpMediaTitleLength := rfl
  have hcopy := copyLine_title_fits hd.fields.sessionInformation (stripCr line)
  rw [Parses, lineFits_title hi, parseLine_eq_sessionLine (hi.not_media (by decide)) hmedia,
    parseSessionLine, if_neg (by simp [hi.unique]), if_pos hi, hlength]
  split_ifs at hcopy with hle
  · obtain ⟨title, htitle, hlen⟩ := hcopy
    rw [htitle]
    exact .inl ⟨hle, _, rfl, ⟨{ hd.fields with sessionInformation := hlen }, hd.counts⟩, rfl⟩
  · rcases hcopy with hcopy | ⟨title, htitle, hlen⟩
    · rw [hcopy]
      exact .inr ⟨hle, fun h => h rfl⟩
    · rw [htitle]
      exact .inr ⟨hle, fun h => Nat.not_le.mpr hlen h.sessionInformation⟩

theorem parses_field {f : List Char → SessionDescription} {field : List Char}
    (hfield : field.length ≤ maxSdpSessionNameLength) (line : List Char)
    (hf : ∀ s, s.length ≤ maxSdpSessionNameLength → Fitting (f s) ∧ countsOf (f s) = countsOf d) :
    ∃ d', (copyLine maxSdpSessionNameLength field line >>= fun s => .ok (f s)) = .ok d' ∧
      Fitting d' ∧
      countsOf d' = countsOf d := by
  obtain ⟨s, hs, hlen⟩ := copyLine_fits hfield line
  exact ⟨f s, by rw [hs]; rfl, hf s hlen⟩

theorem parses_other (hd : Fitting d) (hm : ¬ HasMarker 'm' (stripCr line))
    (ha : ¬ HasMarker 'a' (stripCr line)) (hi : ¬ HasMarker 'i' (stripCr line)) :
    Parses pic d line (d.mediaDescriptions.length, d.sdpAttributes.count) := by
  refine .inl ⟨lineFits_other ha hi, ?_⟩
  by_cases hmedia : d.mediaDescriptions = []
  · rw [parseLine_eq_sessionLine hm hmedia, parseSessionLine, if_neg hi]
    split_ifs
    · exact parses_field hd.fields.sessionName _ fun s hs =>
        ⟨⟨{ hd.fields with sessionName := hs }, hd.counts⟩, rfl⟩
    · exact parses_field hd.fields.uri _ fun s hs => ⟨⟨{ hd.fields with uri := hs }, hd.counts⟩,
        rfl⟩
    · exact parses_field hd.fields.emailAddress _ fun s hs =>
        ⟨⟨{ hd.fields with emailAddress := hs }, hd.counts⟩, rfl⟩
    · exact parses_field hd.fields.phoneNumber _ fun s hs =>
        ⟨⟨{ hd.fields with phoneNumber := hs }, hd.counts⟩, rfl⟩
    · refine ⟨_, rfl, ?_⟩
      rw [parseVersion]
      split
      · exact ⟨hd, rfl⟩
      · exact ⟨⟨{ hd.fields with }, hd.counts⟩, rfl⟩
    · exact ⟨d, rfl, hd, rfl⟩
  · rw [parseLine_eq_mediaLine hm hmedia, parseMediaLine, if_neg ha, if_neg hi]
    exact ⟨d, rfl, hd, rfl⟩

/-- **A line** is refused for its number, or it fits and leaves a description that fits, or neither
does. -/
theorem parseLine_step (pic : Platform) (hd : Fitting d) (line : List Char) :
    match countsAfter (stripCr line) (countsOf d) with
    | none => ∃ status, parseLine pic d line = .error (.status status)
    | some counts => Parses pic d line counts := by
  rw [countsAfter]
  by_cases hm : HasMarker 'm' (stripCr line)
  · rw [if_pos hm]
    by_cases hroom : d.mediaDescriptions.length < maxSdpSessionMediaCount
    · rw [if_pos (show (countsOf d).1 < _ from hroom)]
      exact parses_media hd hm hroom
    · rw [if_neg (show ¬ (countsOf d).1 < _ from hroom)]
      exact ⟨_, by rw [parseLine_eq_mediaName hm, parseMediaName, if_neg hroom]⟩
  rw [if_neg hm]
  by_cases ha : HasMarker 'a' (stripCr line)
  · by_cases hmedia : d.mediaDescriptions = []
    · rw [if_pos ⟨ha, by simp [countsOf, hmedia]⟩]
      by_cases hroom : d.sdpAttributes.count < maxSdpAttributesCount
      · rw [if_pos (show (countsOf d).2 < _ from hroom)]
        exact parses_sessionAttribute hd ha hmedia hroom
      · rw [if_neg (show ¬ (countsOf d).2 < _ from hroom)]
        refine ⟨.sdpAttributeMaxExceeded, ?_⟩
        rw [parseLine_eq_sessionLine hm hmedia, parseSessionLine_eq_attributes ha,
          parseSessionAttributes, parseAttribute, if_neg hroom]
        rfl
    · rw [if_neg (fun h => hmedia (List.length_eq_zero_iff.mp h.2))]
      exact parses_sectionAttribute hd ha hmedia
  rw [if_neg (fun h => ha h.1)]
  by_cases hi : HasMarker 'i' (stripCr line)
  · by_cases hmedia : d.mediaDescriptions = []
    · exact parses_sessionTitle hd hi hmedia
    · exact parses_mediaTitle hd hi hmedia
  · exact parses_other hd hm ha hi

/-! ### Texts -/

def acceptedLines : Nat × Nat → List (List Char) → List (List Char)
  | _, [] => []
  | counts, line :: lines =>
    match countsAfter line counts with
    | none => []
    | some counts => line :: acceptedLines counts lines

/-- **Runs over lines**: the strings fit behind each line exactly if the lines fit. -/
theorem safe_foldlM_iff (pic : Platform) (lines : List (List Char)) :
    ∀ {d : SessionDescription}, Fitting d →
      ((∀ rounds, Safe ((lines.take rounds).foldlM (parseLine pic) d)) ↔
        ∀ line ∈ acceptedLines (countsOf d) (lines.map stripCr), LineFits line) := by
  induction lines with
  | nil => exact fun hd => iff_of_true (fun rounds => by rw [List.take_nil]; exact hd.fields) nofun
  | cons line lines ih =>
    intro d hd
    have hfirst : Safe ((line :: lines).take 0 |>.foldlM (parseLine pic) d) := hd.fields
    have hrounds : (∀ rounds, Safe (((line :: lines).take rounds).foldlM (parseLine pic) d)) ↔
        ∀ rounds, Safe (parseLine pic d line >>= (lines.take rounds).foldlM (parseLine pic)) := by
      constructor
      · exact fun h rounds => h (rounds + 1)
      · rintro h (_ | rounds)
        · exact hfirst
        · exact h rounds
    have hstep := parseLine_step pic hd line
    rw [hrounds, List.map_cons, acceptedLines]
    generalize countsAfter (stripCr line) (countsOf d) = counts at hstep ⊢
    cases counts with
    | none =>
      obtain ⟨status, hline⟩ := hstep
      rw [hline]
      exact iff_of_true (fun _ => nofun) nofun
    | some counts =>
      rw [List.forall_mem_cons]
      rcases hstep with ⟨hfits, d', hline, hd', rfl⟩ | ⟨hfits, hline⟩
      · rw [hline]
        exact (ih hd').trans (and_iff_right hfits).symm
      · refine iff_of_false (fun h => hline ?_) fun h => hfits h.1
        rw [← Raw.bind_ok (parseLine pic d line)]
        exact h 0

theorem fitting_zero : Fitting .zero :=
  ⟨⟨Nat.zero_le _, Nat.zero_le _, Nat.zero_le _, Nat.zero_le _, Nat.zero_le _, fun _ =>
  zeroAttribute_stored, nofun⟩, nofun⟩

/-- **Reads and fields of descriptions**: every read is inside the text and every string fits its
field, behind each line, exactly if the lines that are parsed fit. -/
theorem deserialize_safe_iff (pic : Platform) {text : List Char} (hzero : '\x00' ∉ text)
    (hlen : text.length < 2 ^ 32) :
    (∀ rounds, Safe (Raw.deserializeSessionDescription pic rounds .zero
      (some (text ++ ['\x00'])))) ↔
      ∀ line ∈ acceptedLines (0, 0) ((textLines text).map stripCr), LineFits line := by
  simp only [Raw.deserializeSessionDescription_eq hzero hlen]
  exact safe_foldlM_iff pic (textLines text) fitting_zero

/-- **Reads and fields**: every read is inside the text and every stored string fits its field
exactly if the names in front of colons, the titles and the candidates fit. -/
theorem fields_safe_iff (pic : Platform) {text : List Char} (hzero : '\x00' ∉ text)
    (hlen : text.length < 2 ^ 32) (numTokens : Nat) (js : List Char) :
    (∀ rounds, Safe (Raw.deserializeSessionDescription pic rounds .zero
      (some (text ++ ['\x00'])))) ∧
        CandidateSafe (deserializeRtcIceCandidateInit numTokens (some js)) ↔
      (∀ line ∈ acceptedLines (0, 0) ((textLines text).map stripCr), LineFits line) ∧
        ∀ object members, jsmnParse numTokens js = .ok (object :: members) → object.type = .object →
          ∀ value ∈ candidateValues js members, CandidateFits js value :=
  (deserialize_safe_iff pic hzero hlen).and (candidate_safe_iff numTokens js)

theorem fields_safe_iff_short :
    (∀ rounds, Safe (Raw.deserializeSessionDescription digitPlatform rounds .zero
        (some (['a', '=', 'x', ':', '\n'] ++ ['\x00'])))) ∧
        CandidateSafe (deserializeRtcIceCandidateInit 100 (some ['\x7b', '\x7d'])) ↔
      (∀ line ∈ acceptedLines (0, 0) ((textLines ['a', '=', 'x', ':', '\n']).map stripCr),
        LineFits line) ∧
        ∀ object members, jsmnParse 100 ['\x7b', '\x7d'] = .ok (object :: members) →
          object.type = .object →
          ∀ value ∈ candidateValues ['\x7b', '\x7d'] members, CandidateFits
          ['\x7b', '\x7d'] value :=
  fields_safe_iff digitPlatform (by decide) (by decide) 100 ['\x7b', '\x7d']

/-- A name of 34 characters, the field having 32 and a zero. -/
def longName : List Char := 'a' :: '=' :: (List.replicate 34 'x' ++ [':', '\n'])

def longTitle : List Char := 'i' :: '=' :: (List.replicate 128 'x' ++ ['\n'])

def longCandidate : List Char := "\x7b\"candidate\":\"".toList ++ List.replicate 256 'x' ++
    ['"', '\x7d']

/-- **Fields are left**: by a name behind the zero, and by a title and a candidate over it. -/
theorem fields_left :
    Raw.deserializeSessionDescription digitPlatform 1 .zero
    (some (longName ++ ['\x00'])) = .error .outOfBounds ∧
      (Raw.deserializeSessionDescription digitPlatform 1 .zero (some (longTitle ++ ['\x00']))).map
          (·.sessionInformation) = .ok (List.replicate 128 'x') ∧
      deserializeRtcIceCandidateInit 100 (some longCandidate) = .ok (List.replicate 256 'x') ∧
      ¬ ∀ text, '\x00' ∉ text → text.length < 2 ^ 32 → ∀ rounds,
        Safe (Raw.deserializeSessionDescription digitPlatform rounds .zero
          (some (text ++ ['\x00']))) := by
  have hname : Raw.deserializeSessionDescription digitPlatform 1 .zero
      (some (longName ++ ['\x00'])) =
      .error .outOfBounds := rfl
  refine ⟨hname, by decide +kernel, by decide +kernel, fun h => ?_⟩
  have hsafe := h longName (by decide) (by decide) 1
  rw [hname] at hsafe
  exact hsafe rfl

end KvsWebrtc.Sdp.Wire
