import KvsWebrtc.PeerConnection.Equiv.JsonOutput

/-!
# The round trip of session descriptions in JSON

A text is cut into its lines at the newlines; what is behind the last newline is a line as well,
unless it is empty.  Reading the JSON of a text is to give the text with `\r\n` behind each line
(`withCrlf`).  Both the serializer and the deserializer pass over a last line that has no newline,
and the serializer is content with a buffer that has no room for the terminating zero
(`serialize_right_iff`).
-/

namespace KvsWebrtc.PeerConnection

open Jsmn Text

/-! ### Lines -/

def textLines (text : List Char) : List (List Char) :=
  (splitLines text).1 ++ if (splitLines text).2 = [] then [] else [(splitLines text).2]

/-- The text with every line ended by a carriage return and a newline. -/
def withCrlf (text : List Char) : List Char :=
  (textLines text).flatMap fun line => stripCr line ++ ['\r', '\n']

def escapedLines (text : List Char) : List Char :=
  (splitLines text).1.flatMap fun line => stripCr line ++ sessionDescriptionInitLineEnding

def SdpType.value : SdpType → List Char
  | .offer => sdpOfferValue
  | .answer => sdpAnswerValue

def jsonPieces (type : SdpType) (text : List Char) : List (List Char) :=
  sessionDescriptionInitTemplateHead type.value ::
    ((splitLines text).1.map fun line => stripCr line ++ sessionDescriptionInitLineEnding) ++
      [sessionDescriptionInitTemplateTail]

def jsonText (type : SdpType) (text : List Char) : List Char :=
  sessionDescriptionInitTemplateHead type.value ++ escapedLines text ++
  sessionDescriptionInitTemplateTail

variable {type : SdpType} {text line next : List Char} {memory : List Char}
    {numTokens inputSize len : Nat}

theorem exists_line (text : List Char) :
    (∃ line next, '\n' ∉ line ∧ text = line ++ '\n' :: next) ∨ '\n' ∉ text := by
  by_cases h : '\n' ∈ text
  · obtain ⟨line, next, heq, hline⟩ := List.eq_append_cons_of_mem h
    exact .inl ⟨line, next, hline, heq⟩
  · exact .inr h

/-- Lines have no newline, and their characters are the text's. -/
theorem mem_of_mem_splitLines {c : Char} (hline : line ∈ (splitLines text).1) (hc : c ∈ line) :
    c ∈ text := by
  induction hlen : text.length using Nat.strong_induction_on generalizing text with
  | _ n ih =>
    rcases exists_line text with ⟨first, next, hfirst, rfl⟩ | hno
    · rw [splitLines_line hfirst] at hline
      rcases List.mem_cons.mp hline with rfl | hnext
      · exact List.mem_append_left _ hc
      · have hlt : next.length < n := by
          rw [← hlen, List.length_append, List.length_cons]
          omega
        exact List.mem_append_right _ (List.mem_cons_of_mem _ (ih _ hlt hnext rfl))
    · rw [splitLines_of_not_mem hno] at hline
      cases hline

theorem mem_of_mem_stripCr {c : Char} (hc : c ∈ stripCr line) : c ∈ line := by
  unfold stripCr at hc
  split_ifs at hc
  · exact (List.dropLast_sublist line).subset hc
  · exact hc

/-! ### Serializing -/

theorem serializeLines_eq (rounds : Nat) (hrounds : text.length ≤ rounds) (out : JsonOutput) :
    serializeLines rounds text out
      = writeAll ((splitLines text).1.map fun line => stripCr line ++
        sessionDescriptionInitLineEnding) out := by
  induction rounds generalizing text out with
  | zero =>
    obtain rfl := List.length_eq_zero_iff.mp (Nat.le_zero.mp hrounds)
    rfl
  | succ rounds ih =>
    rcases exists_line text with ⟨line, next, hline, rfl⟩ | hno
    · have hpass : ∀ c ∈ line, (c != '\n') = true := fun c hc => by
        simpa using fun heq : c = '\n' => hline (heq ▸ hc)
      rw [List.length_append, List.length_cons] at hrounds
      rw [splitLines_line hline, serializeLines, List.dropWhile_append_of_pos hpass,
        List.takeWhile_append_of_pos hpass]
      simp only [bne_self_eq_false, Bool.false_eq_true, not_false_eq_true,
        List.dropWhile_cons_of_neg, List.takeWhile_cons_of_neg, List.append_nil, List.map_cons,
        writeAll, List.foldlM_cons]
      congr 1
      funext out
      exact ih (by omega) out
    · have hall : ∀ c ∈ text, (c != '\n') = true := fun c hc => by
        simpa using fun heq : c = '\n' => hno (heq ▸ hc)
      rw [splitLines_of_not_mem hno, serializeLines, List.dropWhile_eq_nil_iff.mpr hall]
      rfl

theorem serializeSdp_eq (type : SdpType) (text : List Char) (out : JsonOutput) :
    serializeSdp { type := some type, sdp := text } out = writeAll (jsonPieces type text) out := by
  have hvalue : (if (some type = some SdpType.offer) then sdpOfferValue else sdpAnswerValue) =
      type.value := by
    cases type <;> rfl
  unfold serializeSdp jsonPieces
  simp only [hvalue, serializeLines_eq _ (Nat.le_refl _), writeAll, List.cons_append,
    List.foldlM_cons, List.foldlM_append, List.foldlM_nil, bind_pure]

theorem flatten_jsonPieces (type : SdpType) (text : List Char) :
    (jsonPieces type text).flatten = jsonText type text := by
  simp [jsonPieces, jsonText, escapedLines, List.flatMap]

/-! ### The tokens -/

def jsonTokens (v b : Nat) : List JsmnToken :=
  [{ type := .object, start := 0, finish := some (23 + v + b), size := 2 },
    { type := .string, start := 2, finish := some 6, size := 1 },
    { type := .string, start := 10, finish := some (10 + v), size := 0 },
    { type := .string, start := 14 + v, finish := some (17 + v), size := 1 },
    { type := .string, start := 21 + v, finish := some (21 + v + b), size := 0 }]

theorem templateHead_eq (value : List Char) : sessionDescriptionInitTemplateHead value
    = '\x7b' :: '"' :: 't' :: 'y' :: 'p' :: 'e' :: '"' :: ':' :: ' ' :: '"' :: (value ++
      ['"', ',', ' ', '"', 's', 'd', 'p', '"', ':', ' ', '"']) := rfl

theorem templateTail_eq : sessionDescriptionInitTemplateTail = ['"', '\x7d'] := rfl

theorem json_eq (value body rest : List Char) :
    sessionDescriptionInitTemplateHead value ++ body ++ sessionDescriptionInitTemplateTail ++ rest
      = '\x7b' :: '"' :: (['t', 'y', 'p', 'e'] ++ '"' :: ':' :: ' ' :: '"' :: (value ++
        '"' :: ',' :: ' ' ::
        '"' :: (['s', 'd', 'p'] ++ '"' :: ':' :: ' ' :: '"' :: (body ++
          '"' :: '\x7d' :: rest)))) := by
  simp only [templateHead_eq, templateTail_eq, List.append_assoc, List.cons_append, List.nil_append]

/-- **The tokenizer finds the object, the keys and the values.** -/
theorem jsmnParse_json {value body rest : List Char} (hvalue : Passes value) (hbody : Passes body)
    (hroom : 5 ≤ numTokens) (hrest : rest = [] ∨ ∃ r, rest = '\x00' :: r) :
    jsmnParse numTokens (sessionDescriptionInitTemplateHead value ++ body
      ++ sessionDescriptionInitTemplateTail ++ rest) = .ok
      (jsonTokens value.length body.length) := by
  have htype : Passes ['t', 'y', 'p', 'e'] := passes_of_plain (by simp)
  have hsdp : Passes ['s', 'd', 'p'] := passes_of_plain (by simp)
  rw [json_eq]
  generalize hjs : '\x7b' :: '"' :: (['t', 'y', 'p', 'e'] ++
    '"' :: ':' :: ' ' :: '"' :: (value ++ '"' ::
    ',' :: ' ' :: '"' :: (['s', 'd', 'p'] ++ '"' :: ':' :: ' ' :: '"' :: (body ++
    '"' :: '\x7d' :: rest))))
    = js
  -- twelve rounds pass the JSON
  obtain ⟨k, hk⟩ : ∃ k, js.length = k + 12 :=
    ⟨js.length - 12, by simp only [← hjs, List.length_append, List.length_cons]; omega⟩
  have hend : ∀ parser : JsmnParser, parseLoop k parser rest = .ok parser := by
    rcases hrest with rfl | ⟨r, rfl⟩
    · exact fun parser => parseLoop_nil
    · exact fun parser => parseLoop_zero r
  unfold jsmnParse
  rw [hk, ← hjs]
  rw [parseLoop_open (by simp [jsmnInit]; omega)]
  rw [parseLoop_string (by simp [jsmnInit, JsmnParser.growSuper]; omega) htype]
  rw [parseLoop_colon, parseLoop_space]
  rw [parseLoop_string (by simp [jsmnInit, JsmnParser.growSuper, JsmnParser.colon]; omega) hvalue]
  rw [parseLoop_comma, parseLoop_space]
  rw [parseLoop_string (by
    simp [jsmnInit, JsmnParser.growSuper, JsmnParser.colon, JsmnParser.comma, lastOpen]
    omega) hsdp]
  rw [parseLoop_colon, parseLoop_space]
  rw [parseLoop_string (by
    simp [jsmnInit, JsmnParser.growSuper, JsmnParser.colon, JsmnParser.comma, lastOpen]
    omega) hbody]
  simp [jsmnInit, JsmnParser.growSuper, JsmnParser.colon, JsmnParser.comma, JsmnParser.closeToken,
    lastOpen, parseLoop, hend]
  simp [bind, Except.bind, pure, Except.pure, lastOpen, jsonTokens]
  omega

/-! ### Deserializing -/

/-- A text of JSON strings without quotes, backslashes and zeros. -/
def Plain (text : List Char) : Prop := ∀ c ∈ text, c ≠ '\x00' ∧ c ≠ '"' ∧ c ≠ '\\'

theorem Plain.stripCr (h : Plain text) (hline : line ∈ (splitLines text).1) :
    Plain (stripCr line) :=
  fun c hc => h c (mem_of_mem_splitLines hline (mem_of_mem_stripCr hc))

theorem passes_escapedLines (h : Plain text) : Passes (escapedLines text) := by
  have hending : Passes sessionDescriptionInitLineEnding :=
    (passes_escaped (e := 'r') (by decide)).append (passes_escaped (e := 'n') (by decide))
  suffices hall : ∀ lines : List (List Char), (∀ line ∈ lines, Plain (stripCr line)) →
      Passes (lines.flatMap fun line => stripCr line ++ sessionDescriptionInitLineEnding) from
    hall _ fun line hline => h.stripCr hline
  intro lines hlines
  induction lines with
  | nil => exact passes_nil
  | cons line lines ih =>
    rw [List.flatMap_cons]
    have hline := passes_of_plain (hlines line List.mem_cons_self)
    exact (hline.append hending).append (ih fun l hl => hlines l (List.mem_cons_of_mem line hl))

theorem strstr_line (h : '\\' ∉ line) (rest : List Char) :
    strstr sessionDescriptionInitLineEndingWithoutCr (line ++ '\\' :: 'r' :: '\\' :: 'n' :: rest)
      = some (line ++ ['\\', 'r'], '\\' :: 'n' :: rest) := by
  induction line with
  | nil => simp [strstr, sessionDescriptionInitLineEndingWithoutCr]
  | cons c line ih =>
    rw [List.mem_cons, not_or] at h
    have hrest := ih h.2
    simp only [sessionDescriptionInitLineEndingWithoutCr] at hrest ⊢
    simp [strstr, h.1, hrest]

/-- The loop gives the lines back, each with a carriage return and a newline. -/
theorem unescapeLines_eq (lines : List (List Char)) (hlines : ∀ line ∈ lines, Plain (stripCr line))
    {rounds : Nat} (hrounds : lines.length ≤ rounds) :
    unescapeLines rounds
    (lines.flatMap fun line => stripCr line ++ sessionDescriptionInitLineEnding)
      = lines.flatMap fun line => stripCr line ++ ['\r', '\n'] := by
  induction lines generalizing rounds with
  | nil => cases rounds <;> rfl
  | cons line lines ih =>
    rw [List.length_cons] at hrounds
    obtain ⟨rounds, rfl⟩ : ∃ r, rounds = r + 1 := ⟨rounds - 1, by omega⟩
    have hslash : '\\' ∉ stripCr line := fun hmem => (hlines line List.mem_cons_self _ hmem).2.2 rfl
    have hrest := ih (fun l hl => hlines l (List.mem_cons_of_mem line hl))
      (Nat.le_of_succ_le_succ hrounds)
    have hfound := strstr_line hslash
      (lines.flatMap fun line => stripCr line ++ sessionDescriptionInitLineEnding)
    have heq : (line :: lines).flatMap (fun line => stripCr line ++
        sessionDescriptionInitLineEnding)
        = stripCr line ++ '\\' :: 'r' :: '\\' :: 'n' ::
          lines.flatMap fun line => stripCr line ++ sessionDescriptionInitLineEnding := by
      simp [sessionDescriptionInitLineEnding]
    rw [heq, unescapeLines, hfound]
    have hcr : (stripCr line ++ ['\\', 'r']).length - 2 = (stripCr line).length := by simp
    simp only [hcr, List.drop_left, List.take_left]
    rw [if_pos ⟨by simp, trivial⟩, List.flatMap_cons]
    simpa using hrest

theorem length_splitLines_le (text : List Char) :
    (splitLines text).1.length ≤ (escapedLines text).length := by
  have hall : ∀ lines : List (List Char), lines.length
      ≤ (lines.flatMap fun line => stripCr line ++ sessionDescriptionInitLineEnding).length := by
    intro lines
    induction lines with
    | nil => exact Nat.le_refl 0
    | cons line lines ih =>
      simp only [List.flatMap_cons, List.length_append, List.length_cons,
        sessionDescriptionInitLineEnding] at ih ⊢
      omega
  exact hall _

theorem readMembers_json (type : SdpType) (body rest : List Char)
    (init : RtcSessionDescriptionInit) :
    readMembers (sessionDescriptionInitTemplateHead type.value ++ body
        ++ sessionDescriptionInitTemplateTail ++ rest)
        (jsonTokens type.value.length body.length).tail init
      = if maxSessionDescriptionInitSdpLen < body.length then
          .error (.status .sessionDescriptionInitMaxSdpLenExceeded)
        else
          let sdp := unescapeLines body.length body
          .ok { type := some type, sdp := sdp ++ init.sdp.drop sdp.length } := by
  set js := sessionDescriptionInitTemplateHead type.value ++ body ++
    sessionDescriptionInitTemplateTail
    ++ rest with hjs
  have hbody : ∀ token : JsmnToken, token.start = 21 + type.value.length →
      token.finish = some (21 + type.value.length + body.length) → tokenText js token = body := by
    intro token hstart hfinish
    have hdrop : js.drop (21 + type.value.length)
        = body ++ (sessionDescriptionInitTemplateTail ++ rest) := by
      have hhead : (sessionDescriptionInitTemplateHead type.value).length =
          21 + type.value.length := by
        cases type <;> rfl
      rw [hjs, ← hhead, List.append_assoc, List.append_assoc, List.drop_left]
    rw [tokenText, hstart, hdrop, hfinish, Option.getD_some, Nat.add_sub_cancel_left,
      List.take_left]
  -- the type is read from the first key, and the text from the second one
  have htype : readMember js init ⟨.string, 2, some 6, 1⟩
      ⟨.string, 10, some (10 + type.value.length), 0⟩ = .ok { init with type := some type } := by
    cases type <;> rfl
  have hkey : tokenStartsWith js sdpTypeKey
        ⟨.string, 14 + type.value.length, some (17 + type.value.length), 1⟩ = false ∧
      tokenStartsWith js sdpKey
        ⟨.string, 14 + type.value.length, some (17 + type.value.length), 1⟩ = true := by
    cases type <;> exact ⟨rfl, rfl⟩
  have hvalue := hbody ⟨.string, 21 + type.value.length,
    some (21 + type.value.length + body.length), 0⟩
    rfl rfl
  simp only [jsonTokens, List.tail_cons, readMembers, htype]
  simp only [readMember, hkey, hvalue]
  split_ifs <;> simp_all [bind, Except.bind]

/-- **Reading the JSON of a text.** -/
theorem deserializeSessionDescriptionInit_json (type : SdpType) (hplain : Plain text)
    (hroom : 5 ≤ numTokens) (hlen : (jsonText type text).length ≤ len) (rest : List Char) :
    deserializeSessionDescriptionInit numTokens (jsonText type text ++ '\x00' :: rest) len
      = if maxSessionDescriptionInitSdpLen < (escapedLines text).length then
          .error (.status .sessionDescriptionInitMaxSdpLenExceeded)
        else if (splitLines text).1 = [] then .error (.status .sessionDescriptionInitMissingSdp)
        else .ok
          { type := some type
            sdp := (splitLines text).1.flatMap fun line => stripCr line ++ ['\r', '\n'] } := by
  have htake : (jsonText type text ++ '\x00' :: rest).take len
      = jsonText type text ++ ('\x00' :: rest).take (len - (jsonText type text).length) := by
    rw [List.take_append, List.take_of_length_le hlen]
  have hzero : ∀ n, ('\x00' :: rest).take n = [] ∨ ∃ r, ('\x00' :: rest).take n = '\x00' :: r := by
    intro n
    cases n with
    | zero => exact .inl rfl
    | succ n => exact .inr ⟨rest.take n, rfl⟩
  have hvalue : Passes type.value := by
    cases type <;> exact passes_of_plain (by simp [SdpType.value, sdpOfferValue, sdpAnswerValue])
  have htokens := jsmnParse_json hvalue (passes_escapedLines hplain) hroom
    (hzero (len - (jsonText type text).length))
  have hread := readMembers_json type (escapedLines text) ('\x00' :: rest)
      { type := none, sdp := [] }
  have hunescape := unescapeLines_eq (splitLines text).1 (fun line hline => hplain.stripCr hline)
    (length_splitLines_le text)
  unfold deserializeSessionDescriptionInit
  rw [htake]
  simp only [jsonText] at htokens hread ⊢
  rw [htokens]
  simp only [jsonTokens, List.tail_cons] at hread ⊢
  rw [if_neg (by simp), hread]
  unfold escapedLines at hunescape ⊢
  rw [hunescape]
  split_ifs with hmax hlines
  · rfl
  · simp [hlines, bind, Except.bind]
  · obtain ⟨line, lines, hcons⟩ := List.exists_cons_of_ne_nil hlines
    simp [hcons, bind, Except.bind, pure, Except.pure]

/-! ### The round trip -/

/-- What the serializer and the deserializer are to do: the output is written exactly if it fits
with the zero, what is behind the buffer stays, and reading what was written gives the type and the
text. -/
def RightJson (numTokens : Nat) (type : SdpType) (text memory : List Char) (inputSize len : Nat) :
    Prop :=
  let needed := (serializeSessionDescriptionInit { type := some type, sdp := text } none 0).2
  let (status, out) :=
    serializeSessionDescriptionInit { type := some type, sdp := text } (some memory) inputSize
  (status = .success ↔ needed.sessionDescriptionJSONLen ≤ inputSize) ∧
    ∃ memory', out.memory = some memory' ∧ memory'.length = memory.length ∧
      memory'.drop inputSize = memory.drop inputSize ∧
      (status = .success →
        deserializeSessionDescriptionInit numTokens memory' len
          = .ok { type := some type, sdp := withCrlf text })

/-- The text is one that can be read back: it has a line, a newline ends the last line, and what
JSON makes of it is not too long for the deserializer. -/
def Readable (text : List Char) : Prop :=
  text ≠ [] ∧ (splitLines text).2 = [] ∧ (escapedLines text).length ≤
  maxSessionDescriptionInitSdpLen

/-- The lines that are read back are all of them. -/
theorem withCrlf_eq_iff (text : List Char) :
    ((splitLines text).1.flatMap fun line => stripCr line ++ ['\r', '\n']) = withCrlf text
      ↔ (splitLines text).2 = [] := by
  unfold withCrlf textLines
  rw [List.flatMap_append, eq_comm, List.append_right_eq_self]
  split_ifs with hlast
  · simp [hlast]
  · simp [hlast]

theorem splitLines_eq_nil_iff (hlast : (splitLines text).2 = []) :
    (splitLines text).1 = [] ↔ text = [] := by
  constructor
  · intro hlines
    rcases exists_line text with ⟨line, next, hline, rfl⟩ | hno
    · simp [splitLines_line hline] at hlines
    · rw [splitLines_of_not_mem hno] at hlast
      exact hlast
  · rintro rfl
    rfl

/-- The text is read back exactly if it is readable. -/
theorem deserialize_json_iff (type : SdpType) (hplain : Plain text) (hroom : 5 ≤ numTokens)
    (hlen : (jsonText type text).length ≤ len) (rest : List Char) :
    deserializeSessionDescriptionInit numTokens (jsonText type text ++ '\x00' :: rest) len
        = .ok { type := some type, sdp := withCrlf text } ↔ Readable text := by
  rw [deserializeSessionDescriptionInit_json type hplain hroom hlen, Readable, ← Nat.not_lt]
  split_ifs with hmax hlines
  · simp [hmax]
  · simp only [hmax, not_false_eq_true, and_true, false_iff, not_and]
    intro hne hlast
    exact hne ((splitLines_eq_nil_iff hlast).mp hlines)
  · have hne : (splitLines text).2 = [] → text ≠ [] := fun hlast =>
      mt (splitLines_eq_nil_iff hlast).mpr hlines
    simp only [Except.ok.injEq, RtcSessionDescriptionInit.mk.injEq, true_and, withCrlf_eq_iff, hmax,
      not_false_eq_true, and_true]
    exact ⟨fun hlast => ⟨hne hlast, hlast⟩, fun h => h.2⟩

theorem length_needed (type : SdpType) (text : List Char) :
    (serializeSessionDescriptionInit { type := some type, sdp := text }
      none 0).2.sessionDescriptionJSONLen = (jsonText type text).length + 1 := by
  unfold serializeSessionDescriptionInit
  rw [serializeSdp_eq, writeAll_null rfl, flatten_jsonPieces]
  simp

/-- **The JSON of a session description** is right exactly if the buffer is not the one that only
the zero does not fit in, and, where the JSON fits, the text is one that can be read back. -/
theorem serialize_right_iff (type : SdpType) (hplain : Plain text) (hroom : 5 ≤ numTokens)
    (hsize : inputSize ≤ memory.length) (hlen : (jsonText type text).length ≤ len) :
    RightJson numTokens type text memory inputSize len
      ↔ inputSize ≠ (jsonText type text).length ∧
        ((jsonText type text).length < inputSize → Readable text) := by
  set out : JsonOutput :=
    { memory := some memory, inputSize := inputSize, sessionDescriptionJSONLen := 0 }
    with hout
  have hmem : out.memory = some memory := rfl
  obtain ⟨⟨memory', hmemory', hlength, hdrop⟩, hok⟩ := writeAll_spec hmem (Nat.zero_le _) hsize
    (jsonPieces type text)
  rw [flatten_jsonPieces] at hok
  have hok' : (writeAll (jsonPieces type text) out).isOk ↔ (jsonText type text).length ≤
      inputSize := by
    simpa [hout] using hok
  simp only [RightJson, length_needed]
  unfold serializeSessionDescriptionInit
  rw [serializeSdp_eq, ← hout]
  cases hwrite : writeAll (jsonPieces type text) out with
  | error out' =>
    rw [hwrite] at hok' hmemory'
    have hshort : ¬ (jsonText type text).length ≤ inputSize := by
      rw [← hok']
      simp [Except.isOk, Except.toBool]
    simp only [outputOf] at hmemory'
    constructor
    · intro _
      exact ⟨by omega, fun hfits => absurd hfits (by omega)⟩
    · intro _
      refine ⟨by simp; omega, memory', hmemory', hlength, hdrop, fun h => absurd h (by simp)⟩
  | ok out' =>
    rw [hwrite] at hok' hmemory'
    have hle : (jsonText type text).length ≤ inputSize := hok'.mp rfl
    simp only [outputOf] at hmemory'
    -- with room for the zero, the memory starts with the JSON
    have hfull : (jsonText type text).length < inputSize →
        ∃ rest, memory' = jsonText type text ++ '\x00' :: rest := by
      intro hlt
      obtain ⟨rest, out'', hwrite', hcontent⟩ :=
        writeAll_memory hmem (show jsonPieces type text ≠ [] by
        simp [jsonPieces]) (by rw [flatten_jsonPieces]; simpa [hout] using hlt) hsize
      obtain rfl := Except.ok.inj (hwrite.symm.trans hwrite')
      rw [hmemory', flatten_jsonPieces] at hcontent
      exact ⟨rest, by simpa [hout] using hcontent⟩
    constructor
    · rintro ⟨hiff, memory'', hmemory'', -, -, hread⟩
      have hlt : (jsonText type text).length < inputSize := hiff.mp rfl
      obtain rfl := Option.some.inj (hmemory'.symm.trans hmemory'')
      obtain ⟨rest, rfl⟩ := hfull hlt
      exact ⟨by omega, fun _ => (deserialize_json_iff type hplain hroom hlen rest).mp (hread rfl)⟩
    · rintro ⟨hne, hreadable⟩
      have hlt : (jsonText type text).length < inputSize := by omega
      obtain ⟨rest, rfl⟩ := hfull hlt
      refine ⟨iff_of_true rfl hlt, _, hmemory', hlength, hdrop, fun _ => ?_⟩
      exact (deserialize_json_iff type hplain hroom hlen rest).mpr (hreadable hlt)

/-- A line with a newline, in a buffer with room for the zero. -/
theorem serialize_right_version :
    RightJson 5 .offer ['v', '=', '0', '\n'] (List.replicate 40 ' ') 40 40 :=
  (@serialize_right_iff ['v', '=', '0', '\n'] (List.replicate 40 ' ') 5 40 40 .offer
    (by simp [Plain]) (by decide) (by decide) (by decide)).mpr
    ⟨by decide, fun _ => ⟨by decide, by decide, by decide⟩⟩

/-- A line without a newline is lost, and a buffer without room for the zero is accepted. -/
theorem last_line_lost :
    ¬ RightJson 5 .offer ['v', '=', '0'] (List.replicate 40 ' ') 40 40 ∧
      ¬ RightJson 5 .offer ['v', '=', '0', '\n'] (List.replicate 40 ' ') 35 40 := by
  constructor
  · rintro ⟨-, memory', hmemory, -, -, hread⟩
    have hout : (serializeSessionDescriptionInit { type := some .offer, sdp := ['v', '=', '0'] }
        (some (List.replicate 40 ' ')) 40).2.memory
          = some (jsonText .offer [] ++ '\x00' :: List.replicate 11 ' ') := by decide +kernel
    obtain rfl := Option.some.inj (hout.symm.trans hmemory)
    have hmissing : deserializeSessionDescriptionInit 5
        (jsonText .offer [] ++ '\x00' :: List.replicate 11 ' ') 40
          = .error (.status .sessionDescriptionInitMissingSdp) := by decide +kernel
    have hread := hread (by decide +kernel)
    rw [hmissing] at hread
    cases hread
  · rintro ⟨hiff, -⟩
    revert hiff
    decide +kernel

end KvsWebrtc.PeerConnection
