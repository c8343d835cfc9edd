import KvsWebrtc.Sdp.Deserialize
import KvsWebrtc.Sdp.Equiv.Stored

/-!
# Session descriptions come back

The text that the serializer writes is a sequence of lines, and the parser takes each of them for
what it was written as: lines of the session up to the first media line, then those of the section
that was begun last (`parse_linesOf`).  The lines of the origin, of times and of connections are
passed over.  With what is known of the buffer this is the round trip (`round_trip`).
-/

namespace KvsWebrtc.Sdp.Wire

open PeerConnection Text

/-! ### Descriptions that can be written -/

/-- A text of limited length, on one line. -/
structure LineText (length : Nat) (s : List Char) : Prop where
  length_le : s.length ≤ length
  lf : '\n' ∉ s
  nul : '\x00' ∉ s

/-- A text that fits its field, without the ends of lines. -/
structure FieldText (length : Nat) (s : List Char) : Prop extends LineText length s where
  cr : '\r' ∉ s

structure AttributeWellFormed (a : SdpAttribute) : Prop where
  name : FieldText maxSdpAttributeNameLength a.attributeName
  name_ne : a.attributeName ≠ []
  colon : ':' ∉ a.attributeName
  value : FieldText maxSdpAttributeValueLength a.attributeValue

structure ConnectionWellFormed (c : SdpConnectionInformation) : Prop where
  networkType : FieldText maxSdpNetworkTypeLength c.networkType
  addressType : FieldText maxSdpAddressTypeLength c.addressType
  connectionAddress : FieldText maxSdpConnectionAddressLength c.connectionAddress

structure MediaWellFormed (m : SdpMediaDescription) : Prop where
  name : FieldText maxSdpMediaNameLength m.mediaName
  name_ne : m.mediaName ≠ []
  connection : ConnectionWellFormed m.sdpConnectionInformation
  count : m.sdpAttributes.count ≤ 255
  attributes : ∀ a ∈ m.sdpAttributes.toList, AttributeWellFormed a

/-- **A description that fits** the arrays of the structures. -/
structure WellFormed (d : SessionDescription) : Prop where
  userName : FieldText maxSdpSessionUsernameLength d.sdpOrigin.userName
  connection : ConnectionWellFormed d.sdpOrigin.sdpConnectionInformation
  sessionName : FieldText maxSdpSessionNameLength d.sessionName
  times : d.sdpTimeDescription.length ≤ maxSdpSessionTimeDescriptionCount
  count : d.sdpAttributes.count ≤ maxSdpAttributesCount
  attributes : ∀ a ∈ d.sdpAttributes.toList, AttributeWellFormed a
  mediaCount : d.mediaDescriptions.length ≤ maxSdpSessionMediaCount
  media : ∀ m ∈ d.mediaDescriptions, MediaWellFormed m

/-- The second description has what the text says of the first one. -/
structure SameText (d parsed : SessionDescription) : Prop where
  version : parsed.version = d.version
  sessionName : parsed.sessionName = d.sessionName
  attributes : parsed.sdpAttributes.toList = d.sdpAttributes.toList
  media : parsed.mediaDescriptions.map (fun m => (m.mediaName, m.sdpAttributes.toList)) =
    d.mediaDescriptions.map fun m => (m.mediaName, m.sdpAttributes.toList)

/-! ### Lines of a text -/

theorem textLines_append {l : List Char} (hl : '\n' ∉ l) (s : List Char) :
    textLines (l ++ '\n' :: s) = l :: textLines s := by
  rw [textLines, splitLines_line hl]
  rfl

theorem textLines_joined {lines : List (List Char)} (h : ∀ l ∈ lines, '\n' ∉ l) :
    textLines (joined lines) = lines.map (· ++ ['\r']) := by
  induction lines with
  | nil => rfl
  | cons l lines ih =>
    have hl : '\n' ∉ l ++ ['\r'] := by simpa using h l List.mem_cons_self
    have hsplit : joined (l :: lines) = (l ++ ['\r']) ++ '\n' :: joined lines := by
      simp [joined, sdpLineSeparator]
    rw [hsplit, textLines_append hl, ih fun l' hl' => h l' (List.mem_cons_of_mem l hl'),
      List.map_cons]

theorem cString_append {s : List Char} (h : '\x00' ∉ s) : cString (s ++ ['\x00']) = s := by
  have hne : ∀ c ∈ s, (c != '\x00') = true := by
    intro c hc
    have hc' : c ≠ '\x00' := fun he => h (he ▸ hc)
    simpa using hc'
  rw [cString, List.takeWhile_append_of_pos hne]
  simp

theorem stripCr_append (l : List Char) : stripCr (l ++ ['\r']) = l := by
  simp [stripCr]

/-! ### Arrays of attributes -/

namespace AttributeArray

def Fresh (a : AttributeArray) : Prop := ∀ i, a.count ≤ i → a.slots i = zeroAttribute

theorem fresh_zero : Fresh zero := fun _ _ => rfl

variable {a : AttributeArray} {wrap : Nat}

theorem count_push (h : a.count + 1 < wrap) (x : SdpAttribute) :
    (a.push wrap x).count = a.count + 1 :=
  Nat.mod_eq_of_lt h

theorem Fresh.push (ha : a.Fresh) (h : a.count + 1 < wrap) (x : SdpAttribute) :
    (a.push wrap x).Fresh := by
  intro i hi
  rw [count_push h] at hi
  show Function.update a.slots a.count x i = _
  rw [Function.update_of_ne (by omega)]
  exact ha i (by omega)

/-- An attribute comes behind those that count. -/
theorem toList_push (h : a.count + 1 < wrap) (x : SdpAttribute) :
    (a.push wrap x).toList = a.toList ++ [x] := by
  rw [toList, count_push h, List.range_succ, List.map_append, toList]
  congr 1
  · apply List.map_congr_left
    intro i hi
    exact Function.update_of_ne (Nat.ne_of_lt (List.mem_range.mp hi)) _ _
  · simp [AttributeArray.push]

end AttributeArray

/-! ### Parsing one line -/

theorem strncpy_all {size : Nat} {source : List Char} (hsource : source.length ≤ size)
    (rest : List Char) :
    strncpy size [] (source ++ rest) source.length = .ok source := by
  rw [strncpy, if_pos hsource, List.take_left, List.drop_nil, List.append_nil]

theorem copyLine_all {length : Nat} {s : List Char} (hs : s.length ≤ length)
    (hlength : length ≤ maxSdpMediaNameLength) (x y : Char) :
    copyLine length [] (x :: y :: s) = .ok s := by
  have hmin : min maxSdpMediaNameLength ((x :: y :: s).length - 2) = s.length := by
    rw [List.length_cons, List.length_cons]
    omega
  rw [copyLine, hmin]
  have hcopy := strncpy_all (Nat.le_succ_of_le hs) []
  rwa [List.append_nil] at hcopy

theorem findIdx?_append_self {c : Char} {l : List Char} (hl : c ∉ l) (rest : List Char) :
    (l ++ c :: rest).findIdx? (· == c) = some l.length := by
  induction l with
  | nil => simp [List.findIdx?_cons]
  | cons x l ih =>
    rw [List.mem_cons, not_or] at hl
    simp [List.findIdx?_cons, Ne.symm hl.1, ih hl.2]

theorem findIdx?_of_notMem {c : Char} {l : List Char} (hl : c ∉ l) :
    l.findIdx? (· == c) = none := by
  rw [List.findIdx?_eq_none_iff]
  intro x hx
  simpa using fun he : x = c => hl (he ▸ hx)

theorem attributeLine_of_value {name value : List Char} (h : value ≠ []) :
    attributeLine ⟨name, value⟩ = (['a', '='] ++ name) ++ ':' :: value := by
  simp [attributeLine, h]

theorem attributeLine_of_no_value (name : List Char) :
    attributeLine ⟨name, []⟩ = ['a', '='] ++ name := by
  simp [attributeLine]

theorem drop_colon (l rest : List Char) : (l ++ ':' :: rest).drop (l.length + 1) = rest := by
  rw [List.drop_length_add_append]
  rfl

theorem parseAttribute_colon {name : List Char} (hname : ':' ∉ name) (value : List Char)
    (wrap : Nat) {a : AttributeArray} (hcount : a.count < maxSdpAttributesCount) :
    parseAttribute wrap a ('a' :: '=' :: (name ++ ':' :: value)) = (do
      let name ← strncpy (maxSdpAttributeNameLength + 1) (a.slots a.count).attributeName
          (name ++ ':' :: value)
        name.length
      let value ← strncpy (maxSdpAttributeValueLength + 1) (a.slots a.count).attributeValue value
        (min maxSdpAttributeValueLength value.length)
      .ok (a.push wrap ⟨name, value⟩)) := by
  have hdrop := drop_colon ('a' :: '=' :: name) value
  have hrest := congrArg List.length hdrop
  rw [List.length_drop] at hrest
  have hsearch := @findIdx?_append_self ':' ('a' :: '=' :: name) (by simpa using hname) value
  rw [List.cons_append, List.cons_append] at hdrop hrest hsearch
  rw [parseAttribute, if_pos hcount, hsearch]
  dsimp only
  rw [hdrop, hrest]
  rfl

/-- Without a colon the name goes to the end of the line. -/
theorem parseAttribute_name {name : List Char} (hname : ':' ∉ name) (wrap : Nat)
    {a : AttributeArray} (hcount : a.count < maxSdpAttributesCount) :
    parseAttribute wrap a ('a' :: '=' :: name) = (do
      let name ← strncpy (maxSdpAttributeNameLength + 1) (a.slots a.count).attributeName name
        (min maxSdpAttributeNameLength name.length)
      .ok (a.push wrap ⟨name, (a.slots a.count).attributeValue⟩)) := by
  rw [parseAttribute, if_pos hcount, findIdx?_of_notMem (by simpa using hname)]
  rfl

theorem parseAttribute_attributeLine {a : AttributeArray} (ha : a.Fresh)
    (hcount : a.count < maxSdpAttributesCount) {x : SdpAttribute} (hx : AttributeWellFormed x)
    (wrap : Nat) :
    parseAttribute wrap a (attributeLine x) = .ok (a.push wrap x) := by
  obtain ⟨name, value⟩ := x
  have hname : name.length ≤ maxSdpAttributeNameLength := hx.name.length_le
  have hvalue : value.length ≤ maxSdpAttributeValueLength := hx.value.length_le
  have hslot : a.slots a.count = ⟨[], []⟩ := ha a.count (Nat.le_refl _)
  by_cases hempty : value = []
  · subst hempty
    have hcopy := strncpy_all (Nat.le_succ_of_le hname) []
    rw [List.append_nil] at hcopy
    rw [attributeLine_of_no_value]
    refine (parseAttribute_name hx.colon wrap hcount).trans ?_
    rw [hslot, Nat.min_eq_right hname, hcopy]
    rfl
  · have hcopyName := strncpy_all (Nat.le_succ_of_le hname) (':' :: value)
    have hcopyValue := strncpy_all (Nat.le_succ_of_le hvalue) []
    rw [List.append_nil] at hcopyValue
    rw [attributeLine_of_value hempty]
    refine (parseAttribute_colon hx.colon value wrap hcount).trans ?_
    rw [hslot, Nat.min_eq_right hvalue, hcopyName, hcopyValue]
    rfl

/-! ### The lines of a description -/

variable {pic : Platform} {d : SessionDescription}

@[simp] theorem hasMarker_cons {marker c : Char} {s : List Char} :
    HasMarker marker (c :: '=' :: s) ↔ c = marker := by
  simp [HasMarker]

theorem parseLine_session (hd : d.mediaDescriptions = []) {line : List Char}
    (hline : ¬ HasMarker 'm' line) :
    parseLine pic d (line ++ ['\r']) = parseSessionLine pic d line := by
  rw [parseLine, stripCr_append, if_neg hline]
  show (if d.mediaDescriptions ≠ [] then _ else _) = _
  rw [if_neg (not_not.mpr hd)]

theorem parseLine_media (hd : d.mediaDescriptions ≠ []) {line : List Char}
    (hline : ¬ HasMarker 'm' line) :
    parseLine pic d (line ++ ['\r']) = parseMediaLine d line := by
  rw [parseLine, stripCr_append, if_neg hline]
  exact if_pos hd

theorem parseLine_mediaName {name : List Char} (hname : name.length ≤ maxSdpMediaNameLength)
    (hcount : d.mediaDescriptions.length < maxSdpSessionMediaCount) :
    parseLine pic d (("m=".toList ++ name) ++ ['\r']) =
      .ok { d with mediaDescriptions :=
        d.mediaDescriptions ++ [{ SdpMediaDescription.zero with mediaName := name }] } := by
  have hline : "m=".toList ++ name = 'm' :: '=' :: name := rfl
  rw [parseLine, stripCr_append, hline, if_pos (hasMarker_cons.mpr rfl), parseMediaName,
    if_pos hcount, copyLine_all hname (Nat.le_refl _)]
  show (if _ ≠ [] then _ else _) = _
  rw [if_pos (by simp), parseMediaLine, if_neg (by simp), if_neg (by simp)]

theorem parseLine_version (hpic : ∀ v : UInt64, pic.strtoui64 (decimal v.toNat) = .ok v.toNat)
    (hd : d.mediaDescriptions = []) (version : UInt64) :
    parseLine pic d (versionLine version ++ ['\r']) = .ok { d with version := version } := by
  have hline : versionLine version = 'v' :: '=' :: printUInt64 version := rfl
  have hlen := length_printUInt64_le version
  have hmin : min (versionLine version).length maxSdpTokenLength =
      (versionLine version).length := by
    apply Nat.min_eq_left
    show (printUInt64 version).length + 2 ≤ 128
    omega
  have hread : pic.strtoui64 ((versionLine version).drop 2) = .ok version.toNat := hpic version
  rw [parseLine_session hd (by simp [hline]), parseSessionLine]
  simp only [hline, hasMarker_cons]
  rw [← hline, parseVersion, hmin, List.take_length, hread]
  simp

theorem parseLine_ignored {c : Char} (s : List Char)
    (hc : c ∉ ['m', 's', 'i', 'u', 'e', 'p', 'v', 'a']) :
    parseLine pic d ((c :: '=' :: s) ++ ['\r']) = .ok d := by
  simp only [List.mem_cons, List.not_mem_nil, or_false, not_or] at hc
  obtain ⟨hm, hs, hi, hu, he, hp, hv, ha⟩ := hc
  have hline : ¬ HasMarker 'm' (c :: '=' :: s) := by simpa using hm
  by_cases hd : d.mediaDescriptions = []
  · rw [parseLine_session hd hline]
    simp [parseSessionLine, hs, hi, hu, he, hp, hv, ha]
  · rw [parseLine_media hd hline]
    simp [parseMediaLine, hi, ha]

theorem parseLine_sessionName (hd : d.mediaDescriptions = []) (hnew : d.sessionName = [])
    {name : List Char} (hname : name.length ≤ maxSdpSessionNameLength) :
    parseLine pic d (("s=".toList ++ name) ++ ['\r']) = .ok { d with sessionName := name } := by
  have hline : "s=".toList ++ name = 's' :: '=' :: name := rfl
  rw [hline, parseLine_session hd (by simp), parseSessionLine, if_pos (hasMarker_cons.mpr rfl),
    hnew, copyLine_all hname (Nat.le_refl _)]
  rfl

/-! ### Sequences of lines -/

/-- The parser's loop over lines with their ends. -/
def parseAll (pic : Platform) (d : SessionDescription) (lines : List (List Char)) :
    Except Failure SessionDescription :=
  (lines.map (· ++ ['\r'])).foldlM (parseLine pic) d

theorem parseAll_append {lines lines' : List (List Char)} {d' : SessionDescription}
    (h : parseAll pic d lines = .ok d') :
    parseAll pic d (lines ++ lines') = parseAll pic d' lines' := by
  rw [parseAll, List.map_append, List.foldlM_append]
  show (parseAll pic d lines >>= fun d' => _) = _
  rw [h]
  rfl

theorem parseAll_singleton (line : List Char) :
    parseAll pic d [line] = parseLine pic d (line ++ ['\r']) := by
  rw [parseAll]
  simp

theorem parseAll_cons {line : List Char} {lines : List (List Char)} {d' : SessionDescription}
    (h : parseLine pic d (line ++ ['\r']) = .ok d') :
    parseAll pic d (line :: lines) = parseAll pic d' lines := by
  rw [← parseAll_singleton] at h
  exact parseAll_append h

theorem parseAll_ignored {lines : List (List Char)}
    (h : ∀ l ∈ lines, ∃ c s, l = c :: '=' :: s ∧ c ∉ ['m', 's', 'i', 'u', 'e', 'p', 'v', 'a']) :
    parseAll pic d lines = .ok d := by
  induction lines with
  | nil => rfl
  | cons l lines ih =>
    obtain ⟨c, s, rfl, hc⟩ := h l List.mem_cons_self
    rw [parseAll_cons (parseLine_ignored s hc)]
    exact ih fun l' hl' => h l' (List.mem_cons_of_mem _ hl')

def AttributeArray.pushAll (wrap : Nat) (a : AttributeArray) (xs : List SdpAttribute) :
    AttributeArray :=
  xs.foldl (AttributeArray.push wrap) a

theorem AttributeArray.toList_pushAll {wrap : Nat} {a : AttributeArray} {xs : List SdpAttribute}
    (h : a.count + xs.length < wrap) : (a.pushAll wrap xs).toList = a.toList ++ xs := by
  induction xs generalizing a with
  | nil => simp [AttributeArray.pushAll]
  | cons x xs ih =>
    rw [List.length_cons] at h
    have hcount := count_push (show a.count + 1 < wrap by omega) x
    show ((a.push wrap x).pushAll wrap xs).toList = _
    rw [ih (by omega), toList_push (by omega), List.append_assoc]
    rfl

/-- Attribute lines: the descriptions in between differ in one array only. -/
theorem parseAll_attributes {wrap : Nat} (describe : AttributeArray → SessionDescription)
    (hstep : ∀ a x, a.Fresh → a.count < maxSdpAttributesCount → AttributeWellFormed x →
      parseLine pic (describe a) (attributeLine x ++ ['\r']) = .ok (describe (a.push wrap x)))
    {xs : List SdpAttribute} (hxs : ∀ x ∈ xs, AttributeWellFormed x) {a : AttributeArray}
    (ha : a.Fresh) (hcount : a.count + xs.length ≤ maxSdpAttributesCount)
    (hwrap : a.count + xs.length < wrap) :
    parseAll pic (describe a) (xs.map attributeLine) = .ok (describe (a.pushAll wrap xs)) := by
  induction xs generalizing a with
  | nil => rfl
  | cons x xs ih =>
    rw [List.length_cons] at hcount hwrap
    have hpush := AttributeArray.count_push (show a.count + 1 < wrap by omega) x
    rw [List.map_cons, parseAll_cons (hstep a x ha (by omega) (hxs x List.mem_cons_self))]
    exact ih (fun y hy => hxs y (List.mem_cons_of_mem x hy)) (ha.push (by omega) x) (by omega)
      (by omega)

theorem parseLine_sessionAttribute (hd : d.mediaDescriptions = []) (ha : d.sdpAttributes.Fresh)
    (hcount : d.sdpAttributes.count < maxSdpAttributesCount) {x : SdpAttribute}
    (hx : AttributeWellFormed x) :
    parseLine pic d (attributeLine x ++ ['\r']) =
      .ok { d with sdpAttributes := d.sdpAttributes.push (2 ^ 16) x } := by
  obtain ⟨s, hs⟩ : ∃ s, attributeLine x = 'a' :: '=' :: s := ⟨_, rfl⟩
  rw [parseLine_session hd (by simp [hs]), parseSessionLine]
  simp only [hs, hasMarker_cons]
  rw [← hs]
  show parseSessionAttributes _ _ = _
  rw [parseSessionAttributes, parseAttribute_attributeLine ha hcount hx]
  rfl

theorem parseAll_sessionAttributes (hd : d.mediaDescriptions = []) (hnew : d.sdpAttributes = .zero)
    {xs : List SdpAttribute} (hxs : ∀ x ∈ xs, AttributeWellFormed x)
    (hcount : xs.length ≤ maxSdpAttributesCount) :
    parseAll pic d (xs.map attributeLine) =
      .ok { d with sdpAttributes := AttributeArray.zero.pushAll (2 ^ 16) xs } := by
  have hzero : AttributeArray.zero.count + xs.length ≤ maxSdpAttributesCount := by
    simpa [AttributeArray.zero] using hcount
  have hstep : ∀ a x, a.Fresh → a.count < maxSdpAttributesCount → AttributeWellFormed x →
      parseLine pic { d with sdpAttributes := a } (attributeLine x ++ ['\r']) =
        .ok { d with sdpAttributes := a.push (2 ^ 16) x } := by
    intro a x ha hlt hx
    exact parseLine_sessionAttribute (d := { d with sdpAttributes := a }) hd ha hlt hx
  have hall := parseAll_attributes (fun a => { d with sdpAttributes := a }) hstep hxs
    AttributeArray.fresh_zero hzero (Nat.lt_of_le_of_lt hzero (by decide))
  have hsame : { d with sdpAttributes := .zero } = d := by rw [← hnew]
  simpa only [hsame] using hall

def parsedMedia (m : SdpMediaDescription) : SdpMediaDescription :=
  { SdpMediaDescription.zero with
    mediaName := m.mediaName
    sdpAttributes := AttributeArray.zero.pushAll (2 ^ 8) m.sdpAttributes.toList }

theorem parseLine_mediaAttribute {ms : List SdpMediaDescription} {m : SdpMediaDescription}
    (hd : d.mediaDescriptions = ms ++ [m]) (ha : m.sdpAttributes.Fresh)
    (hcount : m.sdpAttributes.count < maxSdpAttributesCount) {x : SdpAttribute}
    (hx : AttributeWellFormed x) :
    parseLine pic d (attributeLine x ++ ['\r']) =
      .ok { d with mediaDescriptions :=
        ms ++ [{ m with sdpAttributes := m.sdpAttributes.push (2 ^ 8) x }] } := by
  obtain ⟨s, hs⟩ : ∃ s, attributeLine x = 'a' :: '=' :: s := ⟨_, rfl⟩
  rw [parseLine_media (by simp [hd]) (by simp [hs]), parseMediaLine, if_pos (by simp [hs]),
    parseMediaAttributes, modifyLastMedia, hd, List.getLast?_concat, List.dropLast_concat]
  dsimp only
  rw [parseAttribute_attributeLine ha hcount hx]
  rfl

/-- **A section** goes behind those that are there, with its attributes. -/
theorem parseAll_media {m : SdpMediaDescription} (hm : MediaWellFormed m)
    (hroom : d.mediaDescriptions.length < maxSdpSessionMediaCount) :
    parseAll pic d (mediaLines m) =
      .ok { d with mediaDescriptions := d.mediaDescriptions ++ [parsedMedia m] } := by
  have hname : mediaNameLines m.mediaName = ["m=".toList ++ m.mediaName] := if_pos hm.name_ne
  have hconnection : ∀ d', parseAll pic d' (connectionLines m.sdpConnectionInformation) =
      .ok d' := by
    intro d'
    apply parseAll_ignored
    intro l hl
    rw [connectionLines] at hl
    obtain rfl := eq_of_mem_ite hl
    exact ⟨'c', _, rfl, by decide⟩
  have hcount : AttributeArray.zero.count + m.sdpAttributes.toList.length ≤ 255 := by
    rw [AttributeArray.length_toList]
    exact Nat.le_trans (Nat.le_of_eq (Nat.zero_add _)) hm.count
  -- the section while its attributes are read
  let begun (a : AttributeArray) : SessionDescription :=
    { d with mediaDescriptions := d.mediaDescriptions ++
      [{ SdpMediaDescription.zero with mediaName := m.mediaName, sdpAttributes := a }] }
  have hstep : ∀ a x, a.Fresh → a.count < maxSdpAttributesCount → AttributeWellFormed x →
      parseLine pic (begun a) (attributeLine x ++ ['\r']) = .ok (begun (a.push (2 ^ 8) x)) := by
    intro a x ha hlt hx
    exact parseLine_mediaAttribute (d := begun a) rfl ha hlt hx
  have hle : AttributeArray.zero.count + m.sdpAttributes.toList.length ≤ maxSdpAttributesCount :=
    Nat.le_succ_of_le hcount
  have hattributes := parseAll_attributes begun hstep hm.attributes AttributeArray.fresh_zero hle
    (Nat.lt_succ_of_le hcount)
  rw [mediaLines, hname, List.singleton_append,
    parseAll_cons (parseLine_mediaName hm.name.length_le hroom), parseAll_append (hconnection _)]
  exact hattributes

theorem parseAll_medias {ms : List SdpMediaDescription} (hms : ∀ m ∈ ms, MediaWellFormed m)
    (hroom : d.mediaDescriptions.length + ms.length ≤ maxSdpSessionMediaCount) :
    parseAll pic d (ms.flatMap mediaLines) =
      .ok { d with mediaDescriptions := d.mediaDescriptions ++ ms.map parsedMedia } := by
  induction ms generalizing d with
  | nil => simp [parseAll, pure, Except.pure]
  | cons m ms ih =>
    rw [List.length_cons] at hroom
    rw [List.flatMap_cons, parseAll_append (parseAll_media (hms m List.mem_cons_self) (by omega)),
      ih (fun m' hm' => hms m' (List.mem_cons_of_mem m hm')) (by simp; omega)]
    simp

def parsedDescription (d : SessionDescription) : SessionDescription :=
  { SessionDescription.zero with
    version := d.version
    sessionName := d.sessionName
    sdpAttributes := AttributeArray.zero.pushAll (2 ^ 16) d.sdpAttributes.toList
    mediaDescriptions := d.mediaDescriptions.map parsedMedia }

/-- **The lines are parsed** into a zeroed description. -/
theorem parseAll_linesOf (hpic : ∀ v : UInt64, pic.strtoui64 (decimal v.toNat) = .ok v.toNat)
    (hd : WellFormed d) : parseAll pic .zero (linesOf d) = .ok (parsedDescription d) := by
  have horigin : ∀ d', parseAll pic d' (originLines d.sdpOrigin) = .ok d' := by
    intro d'
    apply parseAll_ignored
    intro l hl
    rw [originLines] at hl
    obtain rfl := eq_of_mem_ite hl
    exact ⟨'o', _, rfl, by decide⟩
  have htimes : ∀ d', parseAll pic d' (d.sdpTimeDescription.map timeLine) = .ok d' := by
    intro d'
    apply parseAll_ignored
    intro l hl
    obtain ⟨t, -, rfl⟩ := List.mem_map.mp hl
    exact ⟨'t', _, rfl, by decide⟩
  have hname : ∀ d', d'.mediaDescriptions = [] → d'.sessionName = [] →
      parseAll pic d' (sessionNameLines d.sessionName) = .ok { d' with
        sessionName := d.sessionName } := by
    intro d' hmedia hnew
    by_cases hempty : d.sessionName = []
    · rw [sessionNameLines, if_neg (not_not.mpr hempty), hempty, ← hnew]
      rfl
    · rw [sessionNameLines, if_pos hempty, parseAll_singleton]
      exact parseLine_sessionName hmedia hnew hd.sessionName.length_le
  have hcount : d.sdpAttributes.toList.length ≤ maxSdpAttributesCount := by
    rw [AttributeArray.length_toList]
    exact hd.count
  rw [linesOf, List.singleton_append, parseAll_cons (parseLine_version hpic rfl d.version),
    parseAll_append (horigin _), parseAll_append (hname _ rfl rfl), parseAll_append (htimes _),
    parseAll_append (parseAll_sessionAttributes rfl rfl hd.attributes hcount),
    parseAll_medias hd.media (by simpa [SessionDescription.zero] using hd.mediaCount)]
  rfl

theorem sameText_parsedDescription (hd : WellFormed d) : SameText d (parsedDescription d) := by
  refine ⟨rfl, rfl, ?_, ?_⟩
  · have hlt : AttributeArray.zero.count + d.sdpAttributes.toList.length < 2 ^ 16 := by
      rw [AttributeArray.length_toList]
      have hcount : d.sdpAttributes.count ≤ 256 := hd.count
      show 0 + _ < _
      omega
    exact AttributeArray.toList_pushAll hlt
  · show (d.mediaDescriptions.map parsedMedia).map _ = _
    rw [List.map_map]
    apply List.map_congr_left
    intro m hm
    have hlt : AttributeArray.zero.count + m.sdpAttributes.toList.length < 2 ^ 8 := by
      rw [AttributeArray.length_toList]
      have hcount := (hd.media m hm).count
      show 0 + _ < _
      omega
    exact congrArg _ (AttributeArray.toList_pushAll hlt)

/-! ### What the lines look like -/

section

variable {m n : Nat} {s t : List Char}

theorem LineText.mono (h : LineText m s) (hle : m ≤ n) : LineText n s :=
  ⟨Nat.le_trans h.length_le hle, h.lf, h.nul⟩

theorem LineText.append (hs : LineText m s) (ht : LineText n t) : LineText (m + n) (s ++ t) where
  length_le := by
    rw [List.length_append]
    exact Nat.add_le_add hs.length_le ht.length_le
  lf := by simp [hs.lf, ht.lf]
  nul := by simp [hs.nul, ht.nul]

theorem lineText_nil : LineText 0 [] := ⟨Nat.le_refl 0, List.not_mem_nil, List.not_mem_nil⟩

theorem lineText_marker {c : Char} (hlf : c ≠ '\n') (hnul : c ≠ '\x00') : LineText 2 [c, '='] where
  length_le := Nat.le_refl 2
  lf := by simp [Ne.symm hlf]
  nul := by simp [Ne.symm hnul]

theorem lineText_char {c : Char} (hlf : c ≠ '\n') (hnul : c ≠ '\x00') : LineText 1 [c] where
  length_le := Nat.le_refl 1
  lf := by simp [Ne.symm hlf]
  nul := by simp [Ne.symm hnul]

theorem lineText_printUInt64 (v : UInt64) : LineText 20 (printUInt64 v) where
  length_le := length_printUInt64_le v
  lf h := absurd (isDigit_of_mem_decimal h) (by decide)
  nul h := absurd (isDigit_of_mem_decimal h) (by decide)

theorem lineText_spaced {parts : List (List Char)} (h : ∀ part ∈ parts, LineText n part) :
    LineText (parts.length * (n + 1)) (spaced parts) := by
  induction parts with
  | nil => exact lineText_nil.mono (Nat.zero_le _)
  | cons part parts ih =>
    have hpart := h part List.mem_cons_self
    cases parts with
    | nil => exact (by simpa [spaced] using hpart.mono (by omega))
    | cons next parts =>
      have hrest := ih fun part' hpart' => h part' (List.mem_cons_of_mem part hpart')
      have hsplit : spaced (part :: next :: parts) = part ++ ([' '] ++ spaced (next :: parts)) := by
        simp [spaced]
      rw [hsplit]
      apply (hpart.append ((lineText_char (by decide) (by decide)).append hrest)).mono
      simp only [List.length_cons, Nat.add_mul]
      omega

end

theorem lineText_attributeLine {x : SdpAttribute} (hx : AttributeWellFormed x) :
    LineText maxLineLength (attributeLine x) := by
  have hmarker : LineText 2 ['a', '='] := lineText_marker (by decide) (by decide)
  rw [attributeLine]
  split_ifs
  · exact (hmarker.append hx.name.toLineText).mono (by decide)
  · exact (hmarker.append (hx.name.toLineText.append
      ((lineText_char (by decide) (by decide)).append hx.value.toLineText))).mono (by decide)

theorem ConnectionWellFormed.parts {c : SdpConnectionInformation} (hc : ConnectionWellFormed c) :
    ∀ part ∈ [c.networkType, c.addressType, c.connectionAddress], LineText 63 part := by
  simp only [List.mem_cons, List.not_mem_nil, or_false, forall_eq_or_imp, forall_eq]
  exact ⟨hc.networkType.toLineText.mono (by decide), hc.addressType.toLineText.mono (by decide),
    hc.connectionAddress.toLineText⟩

theorem lineText_mediaLines {m : SdpMediaDescription} (hm : MediaWellFormed m) :
    ∀ l ∈ mediaLines m, LineText maxLineLength l := by
  intro l hl
  simp only [mediaLines, List.mem_append, List.mem_map] at hl
  rcases hl with hl | hl | ⟨x, hx, rfl⟩
  · rw [mediaNameLines, if_pos hm.name_ne, List.mem_singleton] at hl
    subst hl
    exact ((lineText_marker (by decide) (by decide)).append hm.name.toLineText).mono (by decide)
  · rw [connectionLines] at hl
    obtain rfl := eq_of_mem_ite hl
    exact ((lineText_marker (by decide) (by decide)).append
      (lineText_spaced hm.connection.parts)).mono
      (show 2 + 3 * 64 ≤ maxLineLength by decide)
  · exact lineText_attributeLine (hm.attributes x hx)

/-- The lines are short, and none of them ends early. -/
theorem lineText_linesOf {d : SessionDescription} (hd : WellFormed d) :
    ∀ l ∈ linesOf d, LineText maxLineLength l := by
  have hmarker : ∀ {c : Char}, c ≠ '\n' → c ≠ '\x00' → LineText 2 [c, '='] := lineText_marker
  intro l hl
  simp only [linesOf, List.mem_append, List.mem_singleton, List.mem_map, List.mem_flatMap] at hl
  rcases hl with rfl | hl | hl | ⟨t, -, rfl⟩ | ⟨x, hx, rfl⟩ | ⟨m, hm, hl⟩
  · exact ((hmarker (by decide) (by decide)).append (lineText_printUInt64 d.version)).mono
      (by decide)
  · rw [originLines] at hl
    obtain rfl := eq_of_mem_ite hl
    have hparts : ∀ part ∈ [d.sdpOrigin.userName, printUInt64 d.sdpOrigin.sessionId,
        printUInt64 d.sdpOrigin.sessionVersion, d.sdpOrigin.sdpConnectionInformation.networkType,
        d.sdpOrigin.sdpConnectionInformation.addressType,
        d.sdpOrigin.sdpConnectionInformation.connectionAddress], LineText 63 part := by
      intro part hpart
      rcases List.mem_cons.mp hpart with rfl | hpart
      · exact hd.userName.toLineText.mono (by decide)
      rcases List.mem_cons.mp hpart with rfl | hpart
      · exact (lineText_printUInt64 _).mono (by decide)
      rcases List.mem_cons.mp hpart with rfl | hpart
      · exact (lineText_printUInt64 _).mono (by decide)
      exact hd.connection.parts part hpart
    exact ((hmarker (by decide) (by decide)).append (lineText_spaced hparts)).mono
      (show 2 + 6 * 64 ≤ maxLineLength by decide)
  · rw [sessionNameLines] at hl
    obtain rfl := eq_of_mem_ite hl
    exact ((hmarker (by decide) (by decide)).append hd.sessionName.toLineText).mono (by decide)
  · have hparts : ∀ part ∈ [printUInt64 t.startTime, printUInt64 t.stopTime], LineText 20 part := by
      simp [lineText_printUInt64]
    exact ((hmarker (by decide) (by decide)).append (lineText_spaced hparts)).mono
      (show 2 + 2 * 21 ≤ maxLineLength by decide)
  · exact lineText_attributeLine (hd.attributes x hx)
  · exact lineText_mediaLines (hd.media m hm) l hl

/-- A description that can be written fits its arrays. -/
theorem WellFormed.stored {d : SessionDescription} (hd : WellFormed d) : Stored d := by
  have hattribute : ∀ {a : SdpAttribute}, AttributeWellFormed a → AttributeStored a :=
    fun ha => ⟨ha.name.length_le, ha.value.length_le⟩
  have hconnection : ∀ {c : SdpConnectionInformation}, ConnectionWellFormed c →
      ConnectionStored c :=
    fun hc => ⟨hc.networkType.length_le, hc.addressType.length_le, hc.connectionAddress.length_le⟩
  have hmedia : ∀ {m : SdpMediaDescription}, MediaWellFormed m → MediaStored m :=
    fun hm => ⟨hm.name.length_le, hconnection hm.connection, Nat.lt_succ_of_le hm.count,
      fun a ha => hattribute (hm.attributes a ha)⟩
  exact ⟨hd.userName.length_le, hconnection hd.connection, hd.sessionName.length_le, hd.times,
    hd.count,
    fun a ha => hattribute (hd.attributes a ha), hd.mediaCount, fun m hm => hmedia (hd.media m hm)⟩

/-! ### The round trip -/

/-- **What is written is read back**, through a buffer of the size that the first call counts. -/
theorem round_trip {pic : Platform}
    (hpic : ∀ v : UInt64, pic.strtoui64 (decimal v.toNat) = .ok v.toNat) {d : SessionDescription}
    (hd : WellFormed d) (n : Nat) :
    ∃ size, serializeSessionDescription d none n = (.success, none, size) ∧
      ∀ buffer : List Char, buffer.length = size →
        ∃ text, serializeSessionDescription d (some buffer) size = (.success, some text, size) ∧
          ∃ parsed, deserializeSessionDescription pic .zero (some text) = .ok parsed ∧
            SameText d parsed := by
  have hlen := length_joined_lt hd.stored
  have hlines := lineText_linesOf hd
  refine ⟨_, serialize_null hlen n, fun buffer hbuffer => ?_⟩
  have hwritten := serialize_some hlen hbuffer
  rw [hbuffer] at hwritten
  refine ⟨_, hwritten, _, ?_, sameText_parsedDescription hd⟩
  have hnul : '\x00' ∉ joined (linesOf d) := by
    intro hmem
    obtain ⟨l, hl, hmem⟩ := List.mem_flatMap.mp hmem
    have hzero := (hlines l hl).nul
    simp [sdpLineSeparator, hzero] at hmem
  rw [deserializeSessionDescription, cString_append hnul, textLines_joined fun l hl =>
    (hlines l hl).lf]
  exact parseAll_linesOf hpic hd

def digitPlatform : Platform where
  strtoui64 s := .ok (Nat.ofDigitChars 10 s 0)
  strtoui32 s := .ok (Nat.ofDigitChars 10 s 0)

/-- A section with a value that has a colon, and with an attribute without a value. -/
def sampleMedia : SdpMediaDescription where
  mediaName := ['a', ' ', '9']
  mediaTitle := []
  sdpConnectionInformation := ⟨['I', 'N'], ['I', 'P', '4'], ['0']⟩
  sdpAttributes := ⟨fun i => if i = 0 then ⟨['m', 'i', 'd'], ['0', ':', '1']⟩ else ⟨['x'], []⟩, 2⟩

def sampleDescription : SessionDescription :=
  { SessionDescription.zero with
    version := 7
    sdpOrigin := ⟨['-'], 1, 2, ⟨['I', 'N'], ['I', 'P', '4'], ['0']⟩⟩
    sessionName := ['-']
    sdpTimeDescription := [⟨0, 0⟩]
    sdpAttributes := ⟨fun _ => ⟨['g'], ['B', ' ', '0']⟩, 1⟩
    mediaDescriptions := [sampleMedia] }

theorem sampleDescription_wellFormed : WellFormed sampleDescription where
  userName := ⟨⟨by decide, by decide, by decide⟩, by decide⟩
  connection := ⟨⟨⟨by decide, by decide, by decide⟩, by decide⟩,
  ⟨⟨by decide, by decide, by decide⟩, by decide⟩,
    ⟨⟨by decide, by decide, by decide⟩, by decide⟩⟩
  sessionName := ⟨⟨by decide, by decide, by decide⟩, by decide⟩
  times := by decide
  count := by decide
  attributes := by
    intro a ha
    obtain rfl := List.mem_singleton.mp ha
    exact ⟨⟨⟨by decide, by decide, by decide⟩, by decide⟩, by decide, by decide,
      ⟨⟨by decide, by decide, by decide⟩, by decide⟩⟩
  mediaCount := by decide
  media := by
    intro m hm
    obtain rfl := List.mem_singleton.mp hm
    refine ⟨⟨⟨by decide, by decide, by decide⟩, by decide⟩, by decide,
      ⟨⟨⟨by decide, by decide, by decide⟩, by decide⟩, ⟨⟨by decide, by decide, by decide⟩, by
      decide⟩,
        ⟨⟨by decide, by decide, by decide⟩, by decide⟩⟩, by decide, ?_⟩
    intro a ha
    rcases List.mem_cons.mp ha with rfl | ha
    · exact ⟨⟨⟨by decide, by decide, by decide⟩, by decide⟩, by decide, by decide,
        ⟨⟨by decide, by decide, by decide⟩, by decide⟩⟩
    · obtain rfl := List.mem_singleton.mp ha
      exact ⟨⟨⟨by decide, by decide, by decide⟩, by decide⟩, by decide, by decide,
        ⟨⟨by decide, by decide, by decide⟩, by decide⟩⟩

theorem round_trip_sample :
    ∃ size, serializeSessionDescription sampleDescription none 0 = (.success, none, size) ∧
      ∀ buffer : List Char, buffer.length = size →
        ∃ text, serializeSessionDescription sampleDescription
        (some buffer) size = (.success, some text, size) ∧
          ∃ parsed, deserializeSessionDescription digitPlatform .zero (some text) = .ok parsed ∧
            SameText sampleDescription parsed :=
  round_trip (fun _ => congrArg _ Nat.ofDigitChars_ten_toDigits) sampleDescription_wellFormed 0

end KvsWebrtc.Sdp.Wire
