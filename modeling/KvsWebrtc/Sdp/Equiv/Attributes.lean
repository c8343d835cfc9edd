import KvsWebrtc.Sdp.Equiv.RoundTrip

/-!
# Attributes of a text

What `deserializeSessionDescription` makes of the attribute lines of any text.  Of a description
only the arrays of attributes matter (`Arrays`), on which a line is a step of its own
(`parseLine_arrays`).  The count of a section is a number of eight bits and the array has 256
entries, so that the check against the size never fails there; the 256th attribute makes the count
zero.
-/

namespace KvsWebrtc.Sdp.Wire

open PeerConnection

/-! ### Arrays -/

/-- The arrays of attributes of a description: that of the session and those of the sections. -/
structure Arrays where
  session : AttributeArray
  sections : List AttributeArray

def arraysOf (d : SessionDescription) : Arrays :=
  ⟨d.sdpAttributes, d.mediaDescriptions.map (·.sdpAttributes)⟩

def Arrays.step (a : Arrays) (line : List Char) : Except Failure Arrays :=
  if HasMarker 'm' line then
    if a.sections.length < maxSdpSessionMediaCount then .ok { a with
      sections := a.sections ++ [.zero] }
    else .error (.status .sessionDescriptionMaxMediaCount)
  else if HasMarker 'a' line then
    match a.sections.getLast? with
    | none => (parseAttribute (2 ^ 16) a.session line).map fun s => ⟨s, a.sections⟩
    | some last => (parseAttribute (2 ^ 8) last line).map fun s =>
      ⟨a.session, a.sections.dropLast ++ [s]⟩
  else if HasMarker 'i' line then
    if line.length - 2 ≤ maxSdpMediaTitleLength + 1 then .ok a else .error .outOfBounds
  else .ok a

variable {pic : Platform} {d : SessionDescription} {line : List Char}

theorem HasMarker.unique {c c' : Char} (h : HasMarker c line) : HasMarker c' line ↔ c' = c := by
  constructor
  · intro h'
    have heq := h'.symm.trans h
    simpa using heq
  · rintro rfl
    exact h

theorem copyLine_long (field line : List Char) :
    ∃ s, copyLine maxSdpSessionNameLength field line = .ok s := by
  refine ⟨_, if_pos ?_⟩
  exact Nat.le_succ_of_le (Nat.min_le_left _ _)

theorem copyLine_title (field line : List Char) :
    (∃ s, copyLine maxSdpMediaTitleLength field line = .ok s) ∧
      line.length - 2 ≤ maxSdpMediaTitleLength + 1 ∨
      copyLine maxSdpMediaTitleLength field line = .error .outOfBounds ∧
        ¬ line.length - 2 ≤ maxSdpMediaTitleLength + 1 := by
  have hmin : min maxSdpMediaNameLength (line.length - 2) ≤ maxSdpMediaTitleLength + 1 ↔
      line.length - 2 ≤ maxSdpMediaTitleLength + 1 := by
    simp only [maxSdpMediaNameLength, maxSdpMediaTitleLength]
    omega
  by_cases h : line.length - 2 ≤ maxSdpMediaTitleLength + 1
  · exact .inl ⟨⟨_, if_pos (hmin.mpr h)⟩, h⟩
  · exact .inr ⟨if_neg fun h' => h (hmin.mp h'), h⟩

theorem parseLine_eq_mediaName (h : HasMarker 'm' (stripCr line)) :
    parseLine pic d line = parseMediaName d (stripCr line) := by
  have hrest : ∀ d' : SessionDescription, parseMediaLine d' (stripCr line) = .ok d' := fun d' => by
    rw [parseMediaLine, if_neg (by simp [h.unique]), if_neg (by simp [h.unique])]
  rw [parseLine, if_pos h, parseMediaName]
  split_ifs
  · cases copyLine maxSdpMediaNameLength [] (stripCr line) with
    | error e => rfl
    | ok name =>
      show (if d.mediaDescriptions ++ [_] ≠ [] then _ else _ : Except Failure SessionDescription) =
          _
      rw [if_pos (List.append_ne_nil_of_right_ne_nil _ (List.cons_ne_nil _ _)), hrest]
      rfl
  · rfl

theorem parseLine_eq_mediaLine (h : ¬ HasMarker 'm' (stripCr line))
    (hd : d.mediaDescriptions ≠ []) :
    parseLine pic d line = parseMediaLine d (stripCr line) := by
  rw [parseLine, if_neg h]
  exact if_pos hd

theorem parseLine_eq_sessionLine (h : ¬ HasMarker 'm' (stripCr line))
    (hd : d.mediaDescriptions = []) :
    parseLine pic d line = parseSessionLine pic d (stripCr line) := by
  rw [parseLine, if_neg h]
  exact if_neg (not_not_intro hd)

theorem parseSessionLine_eq_attributes (ha : HasMarker 'a' line) :
    parseSessionLine pic d line = parseSessionAttributes d line := by
  have hother : ∀ {c : Char}, c ≠ 'a' → ¬ HasMarker c line := fun hc hmarker =>
    hc (ha.unique.mp hmarker)
  rw [parseSessionLine, if_neg (hother (by decide)), if_neg (hother (by decide)),
    if_neg (hother (by decide)), if_neg (hother (by decide)), if_neg (hother (by decide)),
    if_neg (hother (by decide)), if_pos ha]

theorem parseLine_of_media (h : HasMarker 'm' (stripCr line)) :
    (parseLine pic d line).map arraysOf = (arraysOf d).step (stripCr line) := by
  have hlen : (arraysOf d).sections.length = d.mediaDescriptions.length := List.length_map _
  rw [parseLine_eq_mediaName h, Arrays.step, if_pos h, hlen, parseMediaName]
  split_ifs
  · obtain ⟨name, hname⟩ := copyLine_long [] (stripCr line)
    have hcopy : copyLine maxSdpMediaNameLength [] (stripCr line) = .ok name := hname
    rw [hcopy]
    show Except.ok (arraysOf _) = _
    rw [arraysOf, List.map_append]
    rfl
  · rfl

theorem map_modifyLastMedia {last : AttributeArray}
    (hlast : (arraysOf d).sections.getLast? = some last)
    (f : SdpMediaDescription → Except Failure SdpMediaDescription)
    (g : Except Failure AttributeArray)
    (hfg : ∀ m, m.sdpAttributes = last → (f m).map (·.sdpAttributes) = g) :
    (modifyLastMedia d f).map arraysOf =
      g.map fun s => ⟨d.sdpAttributes, (arraysOf d).sections.dropLast ++ [s]⟩ := by
  obtain ⟨m, hm, rfl⟩ : ∃ m, d.mediaDescriptions.getLast? = some m ∧ m.sdpAttributes = last := by
    rw [arraysOf, List.getLast?_map] at hlast
    exact Option.map_eq_some_iff.mp hlast
  rw [modifyLastMedia, hm, ← hfg m rfl]
  cases hfm : f m with
  | error e =>
    simp only [hfm]
    rfl
  | ok m' =>
    simp only [hfm]
    show Except.ok (arraysOf _) = Except.ok _
    simp [arraysOf, List.map_dropLast]

theorem parseLine_of_section (h : ¬ HasMarker 'm' (stripCr line)) {last : AttributeArray}
    (hlast : (arraysOf d).sections.getLast? = some last) :
    (parseLine pic d line).map arraysOf = (arraysOf d).step (stripCr line) := by
  have hd : d.mediaDescriptions ≠ [] := by
    intro hnil
    simp [arraysOf, hnil] at hlast
  rw [parseLine_eq_mediaLine h hd, parseMediaLine, Arrays.step, if_neg h]
  by_cases ha : HasMarker 'a' (stripCr line)
  · rw [if_pos ha, if_pos ha, hlast]
    refine map_modifyLastMedia hlast _ _ fun m hm => ?_
    rw [← hm]
    cases parseAttribute (2 ^ 8) m.sdpAttributes (stripCr line) <;> rfl
  · rw [if_neg ha, if_neg ha]
    by_cases hi : HasMarker 'i' (stripCr line)
    · rw [if_pos hi, if_pos hi]
      rw [map_modifyLastMedia hlast _ (if (stripCr line).length - 2 ≤
        maxSdpMediaTitleLength + 1 then .ok last
        else .error .outOfBounds) fun m hm => ?_]
      · have hsections : (arraysOf d).sections.dropLast ++ [last] = (arraysOf d).sections :=
          List.dropLast_append_getLast? _ hlast
        split_ifs
        · exact congrArg (fun sections => Except.ok (Arrays.mk d.sdpAttributes sections)) hsections
        · rfl
      · rcases copyLine_title m.mediaTitle (stripCr line) with ⟨⟨s, hs⟩, hle⟩ | ⟨hs, hle⟩
        · rw [if_pos hle, hs, ← hm]
          rfl
        · rw [if_neg hle, hs]
          rfl
    · rw [if_neg hi, if_neg hi]
      rfl

/-- A line that is copied to a field of full length leaves the arrays. -/
theorem map_copyLine_long (field line : List Char) {f : List Char → SessionDescription}
    (hf : ∀ s, arraysOf (f s) = arraysOf d) :
    (copyLine maxSdpSessionNameLength field line >>= fun s => .ok (f s)).map arraysOf = .ok
    (arraysOf d) := by
  obtain ⟨s, hs⟩ := copyLine_long field line
  rw [hs]
  exact congrArg Except.ok (hf s)

theorem arraysOf_parseVersion (line : List Char) :
    arraysOf (parseVersion pic d line) = arraysOf d := by
  rw [parseVersion]
  split <;> rfl

/-- A line in front of the first section changes the array of the session. -/
theorem parseLine_of_session (h : ¬ HasMarker 'm' (stripCr line)) (hd : d.mediaDescriptions = []) :
    (parseLine pic d line).map arraysOf = (arraysOf d).step (stripCr line) := by
  have hlast : (arraysOf d).sections.getLast? = none := by simp [arraysOf, hd]
  rw [parseLine_eq_sessionLine h hd, Arrays.step, if_neg h]
  by_cases ha : HasMarker 'a' (stripCr line)
  · rw [parseSessionLine_eq_attributes ha, if_pos ha, hlast, parseSessionAttributes]
    show _ = (parseAttribute (2 ^ 16) d.sdpAttributes (stripCr line)).map _
    cases parseAttribute (2 ^ 16) d.sdpAttributes (stripCr line) <;> rfl
  rw [parseSessionLine, if_neg ha, if_neg ha]
  by_cases hi : HasMarker 'i' (stripCr line)
  · have hlength : maxSdpSessionInformationLength = maxSdpMediaTitleLength := rfl
    rw [if_neg (by simp [hi.unique]), if_pos hi, if_pos hi, hlength]
    rcases copyLine_title d.sessionInformation (stripCr line) with ⟨⟨s, hs⟩, hle⟩ | ⟨hs, hle⟩
    · rw [if_pos hle, hs]
      rfl
    · rw [if_neg hle, hs]
      rfl
  · rw [if_neg hi, if_neg hi]
    split_ifs
    · exact map_copyLine_long _ _ fun s => rfl
    · exact map_copyLine_long _ _ fun s => rfl
    · exact map_copyLine_long _ _ fun s => rfl
    · exact map_copyLine_long _ _ fun s => rfl
    · exact congrArg Except.ok (arraysOf_parseVersion _)
    · rfl

/-- **A line is a step of the arrays.** -/
theorem parseLine_arrays (pic : Platform) (d : SessionDescription) (line : List Char) :
    (parseLine pic d line).map arraysOf = (arraysOf d).step (stripCr line) := by
  by_cases h : HasMarker 'm' (stripCr line)
  · exact parseLine_of_media h
  cases hlast : (arraysOf d).sections.getLast? with
  | none =>
    refine parseLine_of_session h ?_
    simpa [arraysOf] using hlast
  | some last => exact parseLine_of_section h hlast

theorem foldlM_arrays (lines : List (List Char)) :
    ∀ d, (lines.foldlM (parseLine pic) d).map arraysOf = (lines.map stripCr).foldlM Arrays.step
    (arraysOf d) := by
  induction lines with
  | nil => exact fun d => rfl
  | cons line lines ih =>
    intro d
    have hline := parseLine_arrays pic d line
    rw [List.foldlM_cons, List.map_cons, List.foldlM_cons, ← hline]
    cases hd' : parseLine pic d line with
    | error e => rfl
    | ok d' => exact ih d'

/-! ### What the text says -/

def attributeOf (line : List Char) : SdpAttribute :=
  ⟨(line.drop 2).takeWhile (· ≠ ':'), ((line.drop 2).dropWhile (· ≠ ':')).tail⟩

def attributesOf (lines : List (List Char)) : List SdpAttribute :=
  (lines.filter fun line => HasMarker 'a' line).map attributeOf

def ownLines (lines : List (List Char)) : List (List Char) := lines.takeWhile fun line =>
    ¬ HasMarker 'm' line

def sectionLines : List (List Char) → List (List (List Char))
  | [] => []
  | line :: lines => if HasMarker 'm' line then ownLines lines :: sectionLines lines
    else sectionLines lines

/-- The name and the value of an attribute line fit their fields. -/
def AttributesFit (lines : List (List Char)) : Prop :=
  ∀ line ∈ lines, HasMarker 'a' line → AttributeStored (attributeOf line)

variable {lines : List (List Char)}

theorem ownLines_media (h : HasMarker 'm' line) : ownLines (line :: lines) = [] := by
  simp [ownLines, h]

theorem ownLines_cons (h : ¬ HasMarker 'm' line) :
    ownLines (line :: lines) = line :: ownLines lines := by
  simp [ownLines, h]

theorem attributesOf_attribute (h : HasMarker 'a' line) :
    attributesOf (line :: lines) = attributeOf line :: attributesOf lines := by
  simp [attributesOf, h]

theorem attributesOf_cons (h : ¬ HasMarker 'a' line) :
    attributesOf (line :: lines) = attributesOf lines := by
  simp [attributesOf, h]

theorem HasMarker.eq_cons {c : Char} (h : HasMarker c line) : ∃ rest, line = c :: '=' :: rest := by
  match line, h with
  | x :: y :: rest, h =>
    obtain ⟨rfl, rfl⟩ : x = c ∧ y = '=' := by simpa [HasMarker] using h
    exact ⟨rest, rfl⟩

theorem HasMarker.two_le {c : Char} (h : HasMarker c line) : 2 ≤ line.length := by
  obtain ⟨rest, rfl⟩ := h.eq_cons
  exact Nat.le_add_left 2 _

theorem attributeOf_name {name : List Char} (h : ':' ∉ name) (x y : Char) :
    attributeOf (x :: y :: name) = ⟨name, []⟩ := by
  have hne : ∀ c ∈ name, decide (c ≠ ':') = true := fun c hc => decide_eq_true fun heq =>
    h (heq ▸ hc)
  simp only [attributeOf, List.drop_succ_cons, List.drop_zero]
  rw [List.takeWhile_eq_self_iff.mpr hne, List.dropWhile_eq_nil_iff.mpr hne]
  rfl

theorem attributeOf_colon {name : List Char} (h : ':' ∉ name) (value : List Char) (x y : Char) :
    attributeOf (x :: y :: (name ++ ':' :: value)) = ⟨name, value⟩ := by
  have hne : ∀ c ∈ name, decide (c ≠ ':') = true := fun c hc => decide_eq_true fun heq =>
    h (heq ▸ hc)
  simp only [attributeOf, List.drop_succ_cons, List.drop_zero]
  rw [List.takeWhile_append_of_pos hne, List.dropWhile_append_of_pos hne]
  simp

/-- A text that fits its field is stored there, over what the field had. -/
theorem strncpy_fit {size : Nat} {source : List Char} (h : source.length ≤ size)
    (field rest : List Char) {n : Nat} (hn : n = source.length) :
    strncpy (size + 1) field (source ++ rest) n = .ok (source ++ field.drop source.length) := by
  rw [hn, strncpy, if_pos (Nat.le_succ_of_le h), List.take_left]

theorem parseAttribute_spec (h : HasMarker 'a' line) (hfit : AttributeStored (attributeOf line))
    (wrap : Nat) (a : AttributeArray) :
    if a.count < maxSdpAttributesCount then
      ∃ x, parseAttribute wrap a line = .ok (a.push wrap x) ∧
        (a.slots a.count = zeroAttribute → x = attributeOf line)
    else parseAttribute wrap a line = .error (.status .sdpAttributeMaxExceeded) := by
  obtain ⟨rest, rfl⟩ := h.eq_cons
  split_ifs with hcount
  · by_cases hcolon : ':' ∈ rest
    · obtain ⟨name, value, rfl, hname⟩ := List.eq_append_cons_of_mem hcolon
      rw [attributeOf_colon hname] at hfit ⊢
      have hcopyName := strncpy_fit hfit.name (a.slots a.count).attributeName (':' :: value) (n :=
        name.length) rfl
      have hcopyValue := strncpy_fit hfit.value (a.slots a.count).attributeValue []
        (Nat.min_eq_right hfit.value)
      rw [List.append_nil] at hcopyValue
      refine ⟨⟨name ++ (a.slots a.count).attributeName.drop name.length,
        value ++ (a.slots a.count).attributeValue.drop value.length⟩, ?_, fun hzero => ?_⟩
      · rw [parseAttribute_colon hname value wrap hcount, hcopyName, hcopyValue]
        rfl
      · simp [hzero, zeroAttribute]
    · rw [attributeOf_name hcolon] at hfit ⊢
      have hcopyName := strncpy_fit hfit.name (a.slots a.count).attributeName []
        (Nat.min_eq_right hfit.name)
      rw [List.append_nil] at hcopyName
      refine ⟨⟨rest ++ (a.slots a.count).attributeName.drop rest.length,
        (a.slots a.count).attributeValue⟩, ?_,
        fun hzero => ?_⟩
      · rw [parseAttribute_name hcolon wrap hcount, hcopyName]
        rfl
      · simp [hzero, zeroAttribute]
  · rw [parseAttribute, if_neg hcount]

/-! ### Steps -/

variable {a a' : Arrays} {s : AttributeArray} {init : List AttributeArray} {last : AttributeArray}

theorem HasMarker.not_media {c : Char} (h : HasMarker c line) (hc : c ≠ 'm') :
    ¬ HasMarker 'm' line :=
  fun hm => hc (hm.unique.mp h)

theorem step_media (h : HasMarker 'm' line) :
    a.step line = if a.sections.length < maxSdpSessionMediaCount then
      .ok ⟨a.session, a.sections ++ [.zero]⟩
      else .error (.status .sessionDescriptionMaxMediaCount) := by
  rw [Arrays.step, if_pos h]

theorem step_first (h : HasMarker 'm' line) :
    (⟨s, []⟩ : Arrays).step line = .ok ⟨s, [] ++ [.zero]⟩ :=
  (step_media h).trans (if_pos (show 0 < maxSdpSessionMediaCount by decide))

variable (s init) in
theorem step_section (h : HasMarker 'a' line) (hfit : AttributeStored (attributeOf line))
    (hcount : last.count < maxSdpAttributesCount) :
    ∃ x, (⟨s, init ++ [last]⟩ : Arrays).step line = .ok ⟨s, init ++ [last.push (2 ^ 8) x]⟩ ∧
      (last.slots last.count = zeroAttribute → x = attributeOf line) := by
  have hspec := parseAttribute_spec h hfit (2 ^ 8) last
  rw [if_pos hcount] at hspec
  obtain ⟨x, hx, hzero⟩ := hspec
  refine ⟨x, ?_, hzero⟩
  rw [Arrays.step, if_neg (h.not_media (by decide)), if_pos h, List.getLast?_concat]
  dsimp only
  rw [hx, List.dropLast_concat]
  rfl

theorem step_session (h : HasMarker 'a' line) :
    (⟨s, []⟩ : Arrays).step line = (parseAttribute (2 ^ 16) s line).map fun s => ⟨s, []⟩ := by
  rw [Arrays.step, if_neg (h.not_media (by decide)), if_pos h]
  rfl

def TitleFits (line : List Char) : Prop := HasMarker 'i' line → line.length - 2 ≤
    maxSdpMediaTitleLength + 1

theorem step_other (hm : ¬ HasMarker 'm' line) (ha : ¬ HasMarker 'a' line) :
    TitleFits line ∧ a.step line = .ok a ∨ ¬ TitleFits line ∧ a.step line =
      .error .outOfBounds := by
  rw [Arrays.step, if_neg hm, if_neg ha]
  by_cases hi : HasMarker 'i' line
  · rw [if_pos hi]
    by_cases hle : line.length - 2 ≤ maxSdpMediaTitleLength + 1
    · exact .inl ⟨fun _ => hle, if_pos hle⟩
    · exact .inr ⟨fun h => hle (h hi), if_neg hle⟩
  · exact .inl ⟨fun h => absurd h hi, if_neg hi⟩

theorem titleFits_of_marker {c : Char} (h : HasMarker c line) (hc : c ≠ 'i') : TitleFits line :=
  fun hi => absurd (hi.unique.mp h) hc

/-- The attributes and the titles of the lines fit their fields. -/
structure TextFits (lines : List (List Char)) : Prop where
  attributes : AttributesFit lines
  titles : ∀ line ∈ lines, TitleFits line

theorem parseAttribute_status {α : Type} {f : AttributeArray → α} {wrap : Nat} {e : Failure}
    (ha : HasMarker 'a' line) (hfit : AttributeStored (attributeOf line))
    (h : (parseAttribute wrap s line).map f = .error e) : ∃ status, e = .status status := by
  have hspec := parseAttribute_spec ha hfit wrap s
  split_ifs at hspec
  · obtain ⟨x, hx, -⟩ := hspec
    rw [hx] at h
    cases h
  · rw [hspec] at h
    exact ⟨_, (Except.error.inj h).symm⟩

theorem step_status {e : Failure} (hfit : HasMarker 'a' line → AttributeStored (attributeOf line))
    (htitle : TitleFits line) (h : a.step line = .error e) : ∃ status, e = .status status := by
  by_cases hm : HasMarker 'm' line
  · rw [step_media hm] at h
    split_ifs at h
    exact ⟨_, (Except.error.inj h).symm⟩
  by_cases ha : HasMarker 'a' line
  · rw [Arrays.step, if_neg hm, if_pos ha] at h
    cases hlast : a.sections.getLast? with
    | none =>
      rw [hlast] at h
      exact parseAttribute_status ha (hfit ha) h
    | some last =>
      rw [hlast] at h
      exact parseAttribute_status ha (hfit ha) h
  · rcases step_other (a := a) hm ha with ⟨-, hstep⟩ | ⟨hlong, -⟩
    · cases hstep.symm.trans h
    · exact absurd htitle hlong

/-- **Lines whose fields fit** are refused with a status, or all parsed. -/
theorem foldlM_status {lines : List (List Char)} {e : Failure} (hfit : TextFits lines)
    (h : lines.foldlM Arrays.step a = .error e) : ∃ status, e = .status status := by
  induction lines generalizing a with
  | nil => cases h
  | cons line lines ih =>
    obtain ⟨hline, hlines⟩ := List.forall_mem_cons.mp hfit.attributes
    obtain ⟨htitle, htitles⟩ := List.forall_mem_cons.mp hfit.titles
    rw [List.foldlM_cons] at h
    cases hstep : a.step line with
    | error e' =>
      rw [hstep] at h
      obtain rfl : e' = e := Except.error.inj h
      exact step_status hline htitle hstep
    | ok b =>
      rw [hstep] at h
      exact ih ⟨hlines, htitles⟩ h

/-! ### Runs -/

theorem exists_ok_bind {ε α β : Type} {x : Except ε α} {f : α → Except ε β} {y : α}
    (hx : x = .ok y) :
    (∃ r, (x >>= f) = .ok r) ↔ ∃ r, f y = .ok r := by
  rw [hx]
  rfl

theorem not_exists_ok_bind {ε α β : Type} {x : Except ε α} {f : α → Except ε β} {e : ε}
    (hx : x = .error e) :
    ¬ ∃ r, (x >>= f) = .ok r := by
  rw [hx]
  rintro ⟨r, hr⟩
  cases hr

/-- **When the lines of sections are parsed**: the number of sections counts, and the number of
attributes does not. -/
theorem section_isOk_iff (lines : List (List Char)) :
    ∀ (init : List AttributeArray) (last : AttributeArray), AttributesFit lines →
      init.length + 1 ≤ maxSdpSessionMediaCount → last.count < maxSdpAttributesCount →
      ((∃ a', lines.foldlM Arrays.step ⟨s, init ++ [last]⟩ = .ok a') ↔
        init.length + 1 + (sectionLines lines).length ≤ maxSdpSessionMediaCount ∧
          ∀ line ∈ lines, TitleFits line) := by
  induction lines with
  | nil => exact fun init last _ hroom _ => ⟨fun _ => ⟨hroom, nofun⟩, fun _ => ⟨_, rfl⟩⟩
  | cons line lines ih =>
    intro init last hfit hroom hcount
    obtain ⟨hline, hlines⟩ := List.forall_mem_cons.mp hfit
    rw [List.foldlM_cons, List.forall_mem_cons, sectionLines]
    by_cases hm : HasMarker 'm' line
    · rw [if_pos hm, List.length_cons]
      have htitle : TitleFits line := titleFits_of_marker hm (by decide)
      have hstep := step_media (a := ⟨s, init ++ [last]⟩) hm
      have hlen : (init ++ [last]).length = init.length + 1 := by simp
      by_cases hmore : init.length + 1 < maxSdpSessionMediaCount
      · rw [if_pos (by rw [hlen]; exact hmore)] at hstep
        have hrest := ih (init ++ [last]) .zero hlines (by rw [hlen]; exact hmore) (by decide)
        rw [exists_ok_bind hstep, hrest, hlen]
        simp only [htitle, true_and]
        rw [Nat.add_right_comm, Nat.add_assoc]
      · rw [if_neg (by rw [hlen]; exact hmore)] at hstep
        refine iff_of_false (not_exists_ok_bind hstep) fun h => hmore ?_
        omega
    rw [if_neg hm]
    by_cases ha : HasMarker 'a' line
    · obtain ⟨x, hstep, -⟩ := step_section s init ha (hline ha) hcount
      have hpush : (last.push (2 ^ 8) x).count < maxSdpAttributesCount := Nat.mod_lt _ (by decide)
      rw [exists_ok_bind hstep, ih init _ hlines hroom hpush]
      simp only [titleFits_of_marker ha (by decide), true_and]
    · rcases step_other (a := ⟨s, init ++ [last]⟩) hm ha with ⟨htitle, hstep⟩ | ⟨htitle, hstep⟩
      · rw [exists_ok_bind hstep, ih init last hlines hroom hcount]
        simp only [htitle, true_and]
      · exact iff_of_false (not_exists_ok_bind hstep) fun h => htitle h.2.1

/-- **When all lines are parsed.** -/
theorem session_isOk_iff (lines : List (List Char)) :
    ∀ s : AttributeArray, AttributesFit lines → s.count ≤ maxSdpAttributesCount →
      ((∃ a', lines.foldlM Arrays.step ⟨s, []⟩ = .ok a') ↔
        (sectionLines lines).length ≤ maxSdpSessionMediaCount ∧
          s.count + (attributesOf (ownLines lines)).length ≤ maxSdpAttributesCount ∧
          ∀ line ∈ lines, TitleFits line) := by
  induction lines with
  | nil => exact fun s _ hcount => ⟨fun _ => ⟨by decide, hcount, nofun⟩, fun _ => ⟨_, rfl⟩⟩
  | cons line lines ih =>
    intro s hfit hcount
    obtain ⟨hline, hlines⟩ := List.forall_mem_cons.mp hfit
    rw [List.foldlM_cons, List.forall_mem_cons, sectionLines]
    -- a section ends the attributes of the session
    by_cases hm : HasMarker 'm' line
    · rw [exists_ok_bind (step_first hm), section_isOk_iff lines [] .zero hlines (by decide)
        (by decide), if_pos hm, ownLines_media hm, List.length_cons, List.length_nil, Nat.zero_add,
        Nat.add_comm]
      have hnone : (attributesOf []).length = 0 := rfl
      simp only [titleFits_of_marker hm (by decide), hnone, Nat.add_zero, hcount, true_and]
    rw [if_neg hm, ownLines_cons hm]
    by_cases ha : HasMarker 'a' line
    · have hspec := parseAttribute_spec ha (hline ha) (2 ^ 16) s
      have hstep := step_session (s := s) ha
      rw [attributesOf_attribute ha, List.length_cons]
      by_cases hroom : s.count < maxSdpAttributesCount
      · rw [if_pos hroom] at hspec
        obtain ⟨x, hx, -⟩ := hspec
        have hsmall : s.count < 256 := hroom
        have hpush : (s.push (2 ^ 16) x).count = s.count + 1 :=
          AttributeArray.count_push (by omega) x
        rw [hx] at hstep
        rw [exists_ok_bind hstep, ih _ hlines (by rw [hpush]; exact hroom), hpush]
        simp only [titleFits_of_marker ha (by decide), true_and]
        rw [Nat.add_right_comm, Nat.add_assoc s.count]
      · rw [if_neg hroom] at hspec
        rw [hspec] at hstep
        exact iff_of_false (not_exists_ok_bind hstep) fun h => hroom (by omega)
    · rw [attributesOf_cons ha]
      rcases step_other (a := ⟨s, []⟩) hm ha with ⟨htitle, hstep⟩ | ⟨htitle, hstep⟩
      · rw [exists_ok_bind hstep, ih s hlines hcount]
        simp only [htitle, true_and]
      · exact iff_of_false (not_exists_ok_bind hstep) fun h => htitle h.2.2.1

def Countable (lines : List (List Char)) : Prop := (attributesOf lines).length < 2 ^ 8

theorem foldlM_of_step {x : Except Failure Arrays} (hstep : a.step line = x) {r : Arrays}
    (h : (line :: lines).foldlM Arrays.step a = .ok r) :
    ∃ b, x = .ok b ∧ lines.foldlM Arrays.step b = .ok r := by
  rw [List.foldlM_cons, hstep] at h
  cases x with
  | error e => cases h
  | ok b => exact ⟨b, rfl, h⟩

/-- **The attributes of sections** are those of their lines, if they can be counted. -/
theorem section_attributes (lines : List (List Char)) :
    ∀ (init : List AttributeArray) (last : AttributeArray), AttributesFit lines → last.Fresh →
      last.count + (attributesOf (ownLines lines)).length < 2 ^ 8 →
        (∀ own ∈ sectionLines lines, Countable own) →
      lines.foldlM Arrays.step ⟨s, init ++ [last]⟩ = .ok a' →
        a'.session = s ∧ a'.sections.map AttributeArray.toList =
          init.map AttributeArray.toList ++ (last.toList ++ attributesOf (ownLines lines)) ::
            (sectionLines lines).map attributesOf := by
  induction lines with
  | nil =>
    intro init last _ _ _ _ h
    obtain rfl := Except.ok.inj h
    simp [ownLines, attributesOf, sectionLines]
  | cons line lines ih =>
    intro init last hfit hfresh hcount hsections h
    obtain ⟨hline, hlines⟩ := List.forall_mem_cons.mp hfit
    by_cases hm : HasMarker 'm' line
    · rw [sectionLines, if_pos hm, List.forall_mem_cons] at hsections
      obtain ⟨b, hb, hrest⟩ := foldlM_of_step (step_media hm) h
      split_ifs at hb
      obtain rfl := Except.ok.inj hb
      obtain ⟨hsession, hmap⟩ := ih (init ++ [last]) .zero hlines AttributeArray.fresh_zero
        ((Nat.zero_add _).trans_lt hsections.1) hsections.2 hrest
      refine ⟨hsession, hmap.trans ?_⟩
      have hzero : AttributeArray.zero.toList = [] := rfl
      rw [ownLines_media hm, sectionLines, if_pos hm, hzero]
      simp [attributesOf]
    rw [sectionLines, if_neg hm] at hsections
    rw [ownLines_cons hm] at hcount
    rw [ownLines_cons hm, sectionLines, if_neg hm]
    by_cases ha : HasMarker 'a' line
    · rw [attributesOf_attribute ha, List.length_cons] at hcount
      obtain ⟨x, hstep, hx⟩ := step_section s init ha (hline ha)
        (show last.count < 256 by omega)
      obtain ⟨b, hb, hrest⟩ := foldlM_of_step hstep h
      obtain rfl := Except.ok.inj hb
      obtain rfl := hx (hfresh _ (Nat.le_refl _))
      have hnext : last.count + 1 < 2 ^ 8 := by omega
      obtain ⟨hsession, hmap⟩ := ih init _ hlines (hfresh.push hnext _)
        (by rw [AttributeArray.count_push hnext]; omega) hsections hrest
      refine ⟨hsession, hmap.trans ?_⟩
      rw [AttributeArray.toList_push hnext, attributesOf_attribute ha, List.append_assoc,
        List.singleton_append]
    · rw [attributesOf_cons ha] at hcount ⊢
      rcases step_other (a := ⟨s, init ++ [last]⟩) hm ha with ⟨-, hstep⟩ | ⟨-, hstep⟩
      · obtain ⟨b, hb, hrest⟩ := foldlM_of_step hstep h
        obtain rfl := Except.ok.inj hb
        exact ih init last hlines hfresh hcount hsections hrest
      · obtain ⟨b, hb, -⟩ := foldlM_of_step hstep h
        cases hb

/-- **The attributes of the session** are those of the lines in front of the first section. -/
theorem session_attributes (lines : List (List Char)) :
    ∀ s : AttributeArray, AttributesFit lines → s.Fresh →
      (∀ own ∈ sectionLines lines, Countable own) →
      lines.foldlM Arrays.step ⟨s, []⟩ = .ok a' →
        a'.session.toList = s.toList ++ attributesOf (ownLines lines) ∧
          a'.sections.map AttributeArray.toList = (sectionLines lines).map attributesOf := by
  induction lines with
  | nil =>
    intro s _ _ _ h
    obtain rfl := Except.ok.inj h
    simp [ownLines, attributesOf, sectionLines]
  | cons line lines ih =>
    intro s hfit hfresh hsections h
    obtain ⟨hline, hlines⟩ := List.forall_mem_cons.mp hfit
    by_cases hm : HasMarker 'm' line
    · rw [sectionLines, if_pos hm, List.forall_mem_cons] at hsections
      obtain ⟨b, hb, hrest⟩ := foldlM_of_step (step_first hm) h
      obtain rfl := Except.ok.inj hb
      obtain ⟨rfl, hmap⟩ := section_attributes lines [] .zero hlines AttributeArray.fresh_zero
        ((Nat.zero_add _).trans_lt hsections.1) hsections.2 hrest
      have hzero : AttributeArray.zero.toList = [] := rfl
      rw [ownLines_media hm, sectionLines, if_pos hm, hmap, hzero]
      simp [attributesOf]
    rw [sectionLines, if_neg hm] at hsections
    rw [ownLines_cons hm, sectionLines, if_neg hm]
    by_cases ha : HasMarker 'a' line
    · have hspec := parseAttribute_spec ha (hline ha) (2 ^ 16) s
      have hstep := step_session (s := s) ha
      obtain ⟨b, hb, hrest⟩ := foldlM_of_step hstep h
      by_cases hroom : s.count < maxSdpAttributesCount
      · rw [if_pos hroom] at hspec
        obtain ⟨x, hx, hzero⟩ := hspec
        obtain rfl := hzero (hfresh _ (Nat.le_refl _))
        rw [hx] at hb
        obtain rfl := Except.ok.inj hb
        have hsmall : s.count < 256 := hroom
        have hnext : s.count + 1 < 2 ^ 16 := by omega
        obtain ⟨hsession, hmap⟩ := ih _ hlines (hfresh.push hnext _) hsections hrest
        refine ⟨hsession.trans ?_, hmap⟩
        rw [AttributeArray.toList_push hnext, attributesOf_attribute ha, List.append_assoc,
          List.singleton_append]
      · rw [if_neg hroom] at hspec
        rw [hspec] at hb
        cases hb
    · rw [attributesOf_cons ha]
      rcases step_other (a := ⟨s, []⟩) hm ha with ⟨-, hstep⟩ | ⟨-, hstep⟩
      · obtain ⟨b, hb, hrest⟩ := foldlM_of_step hstep h
        obtain rfl := Except.ok.inj hb
        exact ih s hlines hfresh hsections hrest
      · obtain ⟨b, hb, -⟩ := foldlM_of_step hstep h
        cases hb

/-! ### Texts -/

/-- The lines of the string in a memory, without the carriage returns at their ends. -/
def linesIn (memory : List Char) : List (List Char) := (textLines (cString memory)).map stripCr

theorem map_deserializeSessionDescription (pic : Platform) (d : SessionDescription)
    (memory : List Char) :
    (deserializeSessionDescription pic d (some memory)).map arraysOf =
      (linesIn memory).foldlM Arrays.step (arraysOf d) :=
  foldlM_arrays _ d

/-- A description has the attributes that the text has. -/
structure SameAttributes (lines : List (List Char)) (d : SessionDescription) : Prop where
  session : d.sdpAttributes.toList = attributesOf (ownLines lines)
  sections : d.mediaDescriptions.map (fun m => m.sdpAttributes.toList) =
  (sectionLines lines).map attributesOf

/-- The arrays can hold the attributes, and their counts can count them. -/
structure Storable (lines : List (List Char)) : Prop where
  session : (attributesOf (ownLines lines)).length ≤ maxSdpAttributesCount
  sections : (sectionLines lines).length ≤ maxSdpSessionMediaCount
  counts : ∀ own ∈ sectionLines lines, Countable own

/-- A text is either parsed with all of its attributes or refused, and refused if there are too
many. -/
structure KeepsAttributes (pic : Platform) (memory : List Char) : Prop where
  exact : ∀ d, deserializeSessionDescription pic .zero (some memory) = .ok d →
    SameAttributes (linesIn memory) d
  refuses : ¬ Storable (linesIn memory) →
    ∃ status, deserializeSessionDescription pic .zero (some memory) = .error (.status status)

/-- The attributes of every section can be counted, or the text is refused for another reason. -/
def CountableUnlessRefused (lines : List (List Char)) : Prop :=
  (∀ own ∈ sectionLines lines, Countable own) ∨
  maxSdpSessionMediaCount < (sectionLines lines).length ∨
    maxSdpAttributesCount < (attributesOf (ownLines lines)).length

variable {memory : List Char}

theorem exists_deserialize_iff (pic : Platform) (hfit : TextFits (linesIn memory)) :
    (∃ d, deserializeSessionDescription pic .zero (some memory) = .ok d) ↔
      (sectionLines (linesIn memory)).length ≤ maxSdpSessionMediaCount ∧
        (attributesOf (ownLines (linesIn memory))).length ≤ maxSdpAttributesCount := by
  have hrun := session_isOk_iff (linesIn memory) .zero hfit.attributes (by decide)
  have hmap := map_deserializeSessionDescription pic .zero memory
  have hzero : AttributeArray.zero.count = 0 := rfl
  rw [hzero, Nat.zero_add, and_iff_left hfit.titles] at hrun
  rw [← hrun]
  show _ ↔ ∃ a', (linesIn memory).foldlM Arrays.step (arraysOf .zero) = .ok a'
  rw [← hmap]
  cases deserializeSessionDescription pic .zero (some memory) with
  | error e => simp [Except.map]
  | ok d => simp [Except.map]

/-- A text whose fields fit is parsed or refused with a status. -/
theorem deserialize_status (pic : Platform) (hfit : TextFits (linesIn memory)) :
    (∃ d, deserializeSessionDescription pic .zero (some memory) = .ok d) ∨
      ∃ status, deserializeSessionDescription pic .zero (some memory) = .error
      (.status status) := by
  have hmap := map_deserializeSessionDescription pic .zero memory
  cases h : deserializeSessionDescription pic .zero (some memory) with
  | ok d => exact .inl ⟨d, rfl⟩
  | error e =>
    rw [h] at hmap
    obtain ⟨status, rfl⟩ := foldlM_status hfit hmap.symm
    exact .inr ⟨status, rfl⟩

/-- **Attributes of a text**: they are all stored or the text is refused exactly if the attributes
of every section can be counted or the text is refused for another reason. -/
theorem keepsAttributes_iff (pic : Platform) (hfit : TextFits (linesIn memory)) :
    KeepsAttributes pic memory ↔ CountableUnlessRefused (linesIn memory) := by
  have hok := exists_deserialize_iff pic hfit
  constructor
  · intro h
    by_contra hcount
    simp only [CountableUnlessRefused, not_or, not_lt] at hcount
    obtain ⟨hcounts, hsections, hsession⟩ := hcount
    obtain ⟨d, hd⟩ := hok.mpr ⟨hsections, hsession⟩
    obtain ⟨status, hstatus⟩ := h.refuses fun hstorable => hcounts hstorable.counts
    cases hd.symm.trans hstatus
  · intro h
    have hcounts : ∀ d, deserializeSessionDescription pic .zero (some memory) = .ok d →
        (∀ own ∈ sectionLines (linesIn memory), Countable own) := by
      intro d hd
      obtain ⟨hsections, hsession⟩ := hok.mp ⟨d, hd⟩
      rcases h with h | h | h
      · exact h
      · exact absurd hsections (Nat.not_le.mpr h)
      · exact absurd hsession (Nat.not_le.mpr h)
    constructor
    · intro d hd
      have hmap := map_deserializeSessionDescription pic .zero memory
      rw [hd] at hmap
      obtain ⟨hsession, hsections⟩ := session_attributes (linesIn memory) .zero hfit.attributes
        AttributeArray.fresh_zero (hcounts d hd) hmap.symm
      exact ⟨hsession, by rw [← hsections, arraysOf, List.map_map]; rfl⟩
    · intro hstorable
      -- a text that is parsed can be stored
      refine (deserialize_status pic hfit).resolve_left ?_
      rintro ⟨d, hd⟩
      obtain ⟨hsections, hsession⟩ := hok.mp ⟨d, hd⟩
      exact hstorable ⟨hsession, hsections, hcounts d hd⟩

theorem linesIn_joined {lines : List (List Char)} (h : ∀ l ∈ lines, '\n' ∉ l ∧ '\x00' ∉ l) :
    linesIn (joined lines ++ ['\x00']) = lines := by
  have hnul : '\x00' ∉ joined lines := by
    intro hmem
    obtain ⟨l, hl, hmem⟩ := List.mem_flatMap.mp hmem
    simp [sdpLineSeparator, (h l hl).2] at hmem
  rw [linesIn, cString_append hnul, textLines_joined fun l hl => (h l hl).1, List.map_map]
  exact (List.map_congr_left fun l _ => stripCr_append l).trans (List.map_id _)

/-- A session attribute and a section with a title and another attribute: both are kept. -/
theorem keepsAttributes_two : KeepsAttributes digitPlatform
    (joined ["a=x".toList, "m=v".toList, "i=t".toList, "a=mid:0".toList] ++ ['\x00']) := by
  have hlines : linesIn (joined ["a=x".toList, "m=v".toList, "i=t".toList, "a=mid:0".toList] ++
      ['\x00']) = ["a=x".toList, "m=v".toList, "i=t".toList, "a=mid:0".toList] :=
    linesIn_joined (by decide)
  refine (keepsAttributes_iff digitPlatform ⟨?_, ?_⟩).mpr ?_
  · rw [hlines]
    intro line hline _
    simp only [List.mem_cons, List.not_mem_nil, or_false] at hline
    rcases hline with rfl | rfl | rfl | rfl <;> exact ⟨by decide, by decide⟩
  · rw [hlines]
    intro line hline _
    simp only [List.mem_cons, List.not_mem_nil, or_false] at hline
    rcases hline with rfl | rfl | rfl | rfl <;> decide
  · rw [hlines]
    refine .inl fun own hown => ?_
    obtain rfl := List.mem_singleton.mp hown
    exact (by decide : (attributesOf ["i=t".toList, "a=mid:0".toList]).length < 2 ^ 8)

def longSection : List (List Char) := "m=v".toList :: List.replicate 256 "a=x".toList

theorem sectionLines_replicate (n : Nat) (h : ¬ HasMarker 'm' line) :
    sectionLines (List.replicate n line) = [] := by
  induction n with
  | zero => rfl
  | succ n ih => rw [List.replicate_succ, sectionLines, if_neg h, ih]

/-- **A section with 256 attributes** is not refused, and its attributes are lost. -/
theorem attributes_lost :
    ¬ ∀ memory, TextFits (linesIn memory) → KeepsAttributes digitPlatform memory := by
  intro h
  have hmem : ∀ l ∈ longSection, l = "m=v".toList ∨ l = "a=x".toList := fun l hl =>
    (List.mem_cons.mp hl).imp_right List.eq_of_mem_replicate
  have hlines : linesIn (joined longSection ++ ['\x00']) = longSection :=
    linesIn_joined fun l hl => by rcases hmem l hl with rfl | rfl <;> decide
  have hown : ownLines (List.replicate 256 "a=x".toList) = List.replicate 256 "a=x".toList :=
    List.takeWhile_eq_self_iff.mpr fun l hl => List.eq_of_mem_replicate hl ▸ by decide
  have hsections : sectionLines longSection = [List.replicate 256 "a=x".toList] := by
    rw [longSection, sectionLines, if_pos (by decide), hown, sectionLines_replicate _ (by decide)]
  have hfit : TextFits (linesIn (joined longSection ++ ['\x00'])) := by
    rw [hlines]
    constructor
    · intro l hl _
      rcases hmem l hl with rfl | rfl <;> exact ⟨by decide, by decide⟩
    · intro l hl
      rcases hmem l hl with rfl | rfl <;> exact titleFits_of_marker rfl (by decide)
  obtain ⟨d, hd⟩ := (exists_deserialize_iff digitPlatform hfit).mpr (by
    rw [hlines, hsections]
    exact ⟨by decide, by decide⟩)
  have hcount : ¬ Storable (linesIn (joined longSection ++ ['\x00'])) := by
    intro hstorable
    have hlen := hstorable.counts (List.replicate 256 "a=x".toList) (by
      rw [hlines, hsections]
      exact List.mem_cons_self)
    rw [Countable, attributesOf, List.length_map, List.filter_replicate_of_pos (by decide),
      List.length_replicate] at hlen
    exact absurd hlen (by decide)
  obtain ⟨status, hstatus⟩ := (h _ hfit).refuses hcount
  cases hd.symm.trans hstatus

end KvsWebrtc.Sdp.Wire
