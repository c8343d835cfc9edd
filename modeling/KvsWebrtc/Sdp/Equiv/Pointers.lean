import KvsWebrtc.Sdp.Pointers
import KvsWebrtc.Sdp.Equiv.Attributes

/-!
# Pointers stay inside the text

The parser with pointers does what the one on lines does (`deserializeSessionDescription_eq`): no
pointer leaves the text, and no difference of unsigned lengths is negative, since a line with a
marker has two characters.
-/

namespace KvsWebrtc.Sdp.Wire.Raw

open Memory PeerConnection

variable {d : SessionDescription} {line rest : List Char} {n : Nat}

theorem strncpy_eq {source : List Char} (hn : n ≤ source.length) (hzero : '\x00' ∉ source)
    (size : Nat) (field rest : List Char) :
    Memory.strncpy size field (source ++ rest) n = Wire.strncpy size field source n := by
  have hle : n ≤ (source ++ rest).length := by
    rw [List.length_append]
    exact Nat.le_add_right_of_le hn
  have htake : (source ++ rest).take n = source.take n := List.take_append_of_le_length hn
  have hread : '\x00' ∉ (source ++ rest).take n := htake ▸ fun h => hzero (List.mem_of_mem_take h)
  rw [Memory.strncpy_eq hle hread, htake, Wire.strncpy]

/-- A line of the text without its end. -/
structure Line (line : List Char) : Prop where
  zero : '\x00' ∉ line
  length : line.length < 2 ^ 32

theorem sub32_two (h2 : 2 ≤ n) (hn : n < 2 ^ 32) : sub32 n 2 = n - 2 := by
  rw [sub32]
  omega

theorem copyLine_eq (hline : Line line) (h2 : 2 ≤ line.length) (length : Nat)
    (field rest : List Char) :
    copyLine length field (line ++ rest) line.length = Wire.copyLine length field line := by
  have hdrop : (line ++ rest).drop sdpAttributeLength = line.drop 2 ++ rest :=
    List.drop_append_of_le_length h2
  have hlen : min maxSdpMediaNameLength (line.length - 2) ≤ (line.drop 2).length := by
    rw [List.length_drop]
    exact Nat.min_le_right _ _
  rw [copyLine, hdrop, sdpAttributeLength, sub32_two h2 hline.length,
    strncpy_eq hlen fun h => hline.zero (List.mem_of_mem_drop h)]
  rfl

theorem two_le_of_colon (ha : HasMarker 'a' line) {search : Nat} (h : (line)[search]? = some ':') :
    2 ≤ search := by
  obtain ⟨rest, rfl⟩ := ha.eq_cons
  match search, h with
  | 0, h => exact absurd (Option.some.inj h) (by decide)
  | 1, h => exact absurd (Option.some.inj h) (by decide)
  | k + 2, _ => exact Nat.le_add_left 2 k

theorem toSize_eq {z : Int} (h : z = n) (hn : n < 2 ^ 64) : toSize z = n := by
  rw [toSize, h, ← Int.natCast_emod, Nat.mod_eq_of_lt hn]
  rfl

theorem parseAttribute_eq (hline : Line line) (ha : HasMarker 'a' line) (wrap : Nat)
    (a : AttributeArray) (rest : List Char) :
    parseAttribute wrap a (line ++ rest) line.length = Wire.parseAttribute wrap a line := by
  have h2 := ha.two_le
  have hzero : ∀ k, '\x00' ∉ line.drop k := fun k h => hline.zero (List.mem_of_mem_drop h)
  -- the search stays in the line, although the text goes on behind it
  have hsearch : strnchr ':' line.length (line ++ rest) = .ok (line.findIdx? (· == ':')) := by
    rw [strnchr_eq (by rw [List.length_append]; exact Nat.le_add_right _ _), List.take_left]
  have hdrop : (line ++ rest).drop sdpAttributeLength = line.drop 2 ++ rest :=
    List.drop_append_of_le_length h2
  rw [parseAttribute, Wire.parseAttribute]
  split_ifs
  · rw [hsearch]
    cases hfind : line.findIdx? (· == ':') with
    | none =>
      have hlen : min maxSdpAttributeNameLength (line.length - 2) ≤ (line.drop 2).length := by
        rw [List.length_drop]
        exact Nat.min_le_right _ _
      rw [ok_bind]
      dsimp only
      rw [hdrop, sdpAttributeLength, sub32_two h2 hline.length, strncpy_eq hlen (hzero 2)]
    | some search =>
      obtain ⟨hlt, hcolon, -⟩ := List.findIdx?_eq_some_iff_getElem.mp hfind
      have hsearch2 : 2 ≤ search :=
        two_le_of_colon ha (by rw [List.getElem?_eq_getElem hlt]; simpa using hcolon)
      have hline32 := hline.length
      -- both lengths are positive, so they keep their values as unsigned numbers
      have hname : toSize ((search : Int) - sdpAttributeLength) = search - 2 :=
        toSize_eq (by rw [sdpAttributeLength]; omega) (by omega)
      have hvalue : toSize (min (maxSdpAttributeValueLength : Int)
          ((line.length : Int) - (search + 1))) =
          min maxSdpAttributeValueLength (line.length - (search + 1)) :=
        toSize_eq (by rw [maxSdpAttributeValueLength]; omega)
        (by rw [maxSdpAttributeValueLength]; omega)
      have hnameLen : search - 2 ≤ (line.drop 2).length := by
        rw [List.length_drop]
        omega
      have hvalueLen : min maxSdpAttributeValueLength (line.length - (search + 1)) ≤
          (line.drop (search + 1)).length := by
        rw [List.length_drop]
        exact Nat.min_le_right _ _
      have hdropValue : (line ++ rest).drop (search + 1) = line.drop (search + 1) ++ rest :=
        List.drop_append_of_le_length hlt
      rw [ok_bind]
      dsimp only
      rw [hname, hvalue, hdrop, hdropValue, strncpy_eq hnameLen (hzero 2)]
      simp only [strncpy_eq hvalueLen (hzero _)]
  · rfl

/-! ### Lines -/

variable {pic : Platform} {marker : Char}
    {parse : SessionDescription → Except Failure SessionDescription}

theorem whenMarker_eq (hm : marker ∉ ['\r', '\n']) {c : Char} (hc : c ∈ ['\r', '\n']) :
    whenMarker marker (line ++ c :: rest) d parse = if HasMarker marker line then parse d
      else .ok d := by
  have hnot : c ∉ [marker, '='] := by
    intro h
    rcases List.mem_cons.mp h with rfl | h
    · exact hm hc
    · obtain rfl := List.mem_singleton.mp h
      exact absurd hc (by decide)
  have hstart : ([marker, '='].isPrefixOf line = true) ↔ HasMarker marker line := by
    rw [List.isPrefixOf_iff_prefix, List.prefix_iff_eq_take]
    exact eq_comm
  rw [whenMarker, startsWith_append hnot]
  show (if [marker, '='].isPrefixOf line = true then _ else _) = _
  by_cases h : HasMarker marker line
  · rw [if_pos h, if_pos (hstart.mpr h)]
  · rw [if_neg h, if_neg fun h' => h (hstart.mp h')]

theorem parseVersion_eq (hline : Line line) (h2 : 2 ≤ line.length) (pic : Platform)
    (d : SessionDescription) (rest : List Char) :
    parseVersion pic d (line ++ rest) line.length = .ok (Wire.parseVersion pic d line) := by
  have hmin : 2 ≤ min line.length maxSdpTokenLength := Nat.le_min.mpr ⟨h2, by decide⟩
  have hlen : min line.length maxSdpTokenLength - 2 ≤ (line.drop 2).length := by
    rw [List.length_drop]
    exact Nat.sub_le_sub_right (Nat.min_le_left _ _) 2
  have hdrop : (line ++ rest).drop sdpAttributeLength = line.drop 2 ++ rest :=
    List.drop_append_of_le_length h2
  have htake : (line.drop 2 ++ rest).take (min line.length maxSdpTokenLength - 2) =
      (line.take (min line.length maxSdpTokenLength)).drop 2 := by
    rw [List.take_append_of_le_length hlen, List.drop_take]
  have hzero : '\x00' ∉ (line.take (min line.length maxSdpTokenLength)).drop 2 :=
    fun h => hline.zero (List.mem_of_mem_take (List.mem_of_mem_drop h))
  rw [parseVersion, hdrop, sdpAttributeLength,
    sub32_two hmin (Nat.lt_of_le_of_lt (Nat.min_le_left _ _) hline.length),
    readChars_eq (by rw [List.length_append]; exact Nat.le_add_right_of_le hlen)
    (by rw [htake]; exact hzero), htake, ok_bind, Wire.parseVersion]
  cases pic.strtoui64 ((line.take (min line.length maxSdpTokenLength)).drop 2) <;> rfl

theorem parseMediaName_eq (hline : Line line) (h2 : 2 ≤ line.length) (d : SessionDescription)
    (rest : List Char) :
    parseMediaName d (line ++ rest) line.length = Wire.parseMediaName d line := by
  rw [parseMediaName, Wire.parseMediaName, copyLine_eq hline h2]

theorem parseMediaAttributes_eq (hline : Line line) (ha : HasMarker 'a' line)
    (d : SessionDescription) (rest : List Char) :
    parseMediaAttributes d (line ++ rest) line.length = Wire.parseMediaAttributes d line := by
  simp only [parseMediaAttributes, Wire.parseMediaAttributes, parseAttribute_eq hline ha]

theorem parseSessionAttributes_eq (hline : Line line) (ha : HasMarker 'a' line)
    (d : SessionDescription) (rest : List Char) :
    parseSessionAttributes d (line ++ rest) line.length = Wire.parseSessionAttributes d line := by
  rw [parseSessionAttributes, Wire.parseSessionAttributes, parseAttribute_eq hline ha]

theorem bind_ok (x : Except Failure SessionDescription) : (x >>= fun d => .ok d) = x := bind_pure x

theorem parseMediaLine_eq (hline : Line line) {c : Char} (hc : c ∈ ['\r', '\n']) :
    parseMediaLine d (line ++ c :: rest) line.length = Wire.parseMediaLine d line := by
  simp only [parseMediaLine, whenMarker_eq (show 'a' ∉ ['\r', '\n'] by decide) hc,
    whenMarker_eq (show 'i' ∉ ['\r', '\n'] by decide) hc, Wire.parseMediaLine]
  by_cases ha : HasMarker 'a' line
  · have hi : ¬ HasMarker 'i' line := by simp [ha.unique]
    simp only [if_pos ha, if_neg hi, parseMediaAttributes_eq hline ha, bind_ok]
  · rw [if_neg ha, if_neg ha, ok_bind]
    by_cases hi : HasMarker 'i' line
    · simp only [if_pos hi, copyLine_eq hline hi.two_le]
    · rw [if_neg hi, if_neg hi]

theorem parseSessionLine_eq (hline : Line line) {c : Char} (hc : c ∈ ['\r', '\n']) :
    parseSessionLine pic d (line ++ c :: rest) line.length = Wire.parseSessionLine pic d line := by
  have hcopy : ∀ {marker : Char}, HasMarker marker line → ∀ length field,
      copyLine length field (line ++ c :: rest) line.length = Wire.copyLine length field line :=
    fun h length field => copyLine_eq hline h.two_le length field (c :: rest)
  simp only [parseSessionLine, whenMarker_eq (show 's' ∉ ['\r', '\n'] by decide) hc,
    whenMarker_eq (show 'i' ∉ ['\r', '\n'] by decide) hc, whenMarker_eq (show 'u' ∉ ['\r', '\n'] by
    decide) hc, whenMarker_eq (show 'e' ∉ ['\r', '\n'] by decide) hc,
    whenMarker_eq (show 'p' ∉ ['\r', '\n'] by decide) hc, whenMarker_eq (show 'v' ∉ ['\r', '\n'] by
    decide) hc, whenMarker_eq (show 'a' ∉ ['\r', '\n'] by decide) hc, Wire.parseSessionLine]
  -- a line has one marker, so that one of the branches is taken
  by_cases hs : HasMarker 's' line
  · simp only [hs.unique, hcopy hs, if_true, if_false, Char.reduceEq, bind_ok]
  by_cases hi : HasMarker 'i' line
  · simp only [hi.unique, hcopy hi, if_true, if_false, Char.reduceEq, bind_ok, ok_bind]
  by_cases hu : HasMarker 'u' line
  · simp only [hu.unique, hcopy hu, if_true, if_false, Char.reduceEq, bind_ok, ok_bind]
  by_cases he : HasMarker 'e' line
  · simp only [he.unique, hcopy he, if_true, if_false, Char.reduceEq, bind_ok, ok_bind]
  by_cases hp : HasMarker 'p' line
  · simp only [hp.unique, hcopy hp, if_true, if_false, Char.reduceEq, bind_ok, ok_bind]
  by_cases hv : HasMarker 'v' line
  · simp only [hv.unique, parseVersion_eq hline hv.two_le, if_true, if_false, Char.reduceEq,
      ok_bind]
  simp only [if_neg hs, if_neg hi, if_neg hu, if_neg he, if_neg hp, if_neg hv, ok_bind]
  by_cases ha : HasMarker 'a' line
  · rw [if_pos ha, if_pos ha, parseSessionAttributes_eq hline ha]
  · rw [if_neg ha, if_neg ha]

/-! ### The text -/

/-- The length of a line without its carriage return, and what stands behind it. -/
theorem strippedLength_eq {l : List Char} (hlen : l.length < 2 ^ 32) (rest : List Char) :
    strippedLength (l ++ '\n' :: rest) (l.length % 2 ^ 32) = .ok (stripCr l).length ∧
      ∃ c rest', c ∈ ['\r', '\n'] ∧ l ++ '\n' :: rest = stripCr l ++ c :: rest' := by
  rw [Nat.mod_eq_of_lt hlen, strippedLength, stripCr]
  rcases List.eq_nil_or_concat' l with rfl | ⟨init, c, rfl⟩
  · exact ⟨rfl, '\n', rest, by decide, rfl⟩
  · have hlast : (init ++ [c] ++ '\n' :: rest)[(init ++ [c]).length - 1]? = some c := by simp
    rw [if_pos (by simp), hlast, List.getLast?_concat, List.dropLast_concat]
    by_cases hc : c = '\r'
    · subst hc
      simp
    · have hsome : some c ≠ some '\r' := fun h => hc (Option.some.inj h)
      dsimp only
      rw [if_neg hc, if_neg hsome]
      exact ⟨rfl, '\n', rest, by decide, rfl⟩

theorem parseLine_eq {l : List Char} (hzero : '\x00' ∉ l) (hlen : l.length < 2 ^ 32)
    (pic : Platform) (d : SessionDescription) (rest : List Char) :
    parseLine pic d (l ++ '\n' :: rest) l.length = Wire.parseLine pic d l := by
  obtain ⟨hstripped, c, rest', hc, hsplit⟩ := strippedLength_eq hlen rest
  have hmem : ∀ {x : Char}, x ∈ stripCr l → x ∈ l := by
    intro x hx
    rw [stripCr] at hx
    split_ifs at hx
    · exact List.dropLast_subset l hx
    · exact hx
  have hle : (stripCr l).length ≤ l.length := by
    rw [stripCr]
    split_ifs
    · rw [List.length_dropLast]
      exact Nat.sub_le _ _
    · exact Nat.le_refl _
  have hline : Line (stripCr l) :=
    ⟨fun h => hzero (hmem h), Nat.lt_of_le_of_lt hle hlen⟩
  rw [parseLine, hstripped, ok_bind, hsplit, Wire.parseLine]
  simp only [whenMarker_eq (show 'm' ∉ ['\r', '\n'] by decide) hc, parseSessionLine_eq hline hc,
    parseMediaLine_eq hline hc]
  by_cases hm : HasMarker 'm' (stripCr l)
  · simp only [if_pos hm, parseMediaName_eq hline hm.two_le]
  · simp only [if_neg hm]

theorem textLines_of_notMem {text : List Char} (h : '\n' ∉ text) : textLines text = [] := by
  rw [textLines, Text.splitLines_of_not_mem h]

/-- **The loop over the lines.** -/
theorem parseLines_eq (pic : Platform) (rounds : Nat) :
    ∀ (text : List Char), '\x00' ∉ text → text.length < 2 ^ 32 →
      ∀ (rest : List Char) (d : SessionDescription), parseLines pic rounds text.length
      (text ++ rest) d =
        ((textLines text).take rounds).foldlM (Wire.parseLine pic) d := by
  induction rounds with
  | zero => exact fun text _ _ rest d => rfl
  | succ rounds ih =>
    intro text hzero hlen rest d
    have hsearch : strnchr '\n' text.length (text ++ rest) = .ok (text.findIdx? (· == '\n')) := by
      rw [strnchr_eq (by rw [List.length_append]; exact Nat.le_add_right _ _), List.take_left]
    rw [parseLines, hsearch, ok_bind]
    by_cases hnewline : '\n' ∈ text
    · obtain ⟨l, text', rfl, hl⟩ := List.eq_append_cons_of_mem hnewline
      have hlength : (l ++ '\n' :: text').length = l.length + (text'.length + 1) := by simp
      have hleft : (l ++ '\n' :: text').length - (l.length + 1) = text'.length := by omega
      have hdrop : (l ++ '\n' :: text' ++ rest).drop (l.length + 1) = text' ++ rest := by
        rw [List.append_assoc, List.drop_length_add_append]
        rfl
      have hzero' : '\x00' ∉ l ∧ '\x00' ∉ text' := by simpa using hzero
      rw [findIdx?_append_self hl, textLines_append hl, List.take_succ_cons, List.foldlM_cons]
      dsimp only
      rw [hleft, hdrop, List.append_assoc, List.cons_append, parseLine_eq hzero'.1 (by omega)]
      exact congrArg _ (funext fun d' => ih text' hzero'.2 (by omega) rest d')
    · rw [findIdx?_of_notMem hnewline, textLines_of_notMem hnewline]
      rfl

/-- **The parser with pointers** stays inside the text and does what the one on lines does. -/
theorem deserializeSessionDescription_eq {text : List Char} (hzero : '\x00' ∉ text)
    (hlen : text.length < 2 ^ 32) (pic : Platform) (rounds : Nat) (d : SessionDescription) :
    deserializeSessionDescription pic rounds d (some (text ++ ['\x00'])) =
      ((textLines text).take rounds).foldlM (Wire.parseLine pic) d := by
  rw [deserializeSessionDescription, strlen_append hzero]
  exact parseLines_eq pic rounds text hzero hlen ['\x00'] d

end KvsWebrtc.Sdp.Wire.Raw
