import KvsWebrtc.Common.Run
import KvsWebrtc.PeerConnection.Equiv.Jsmn
import KvsWebrtc.Signaling.Equiv.MessageMembers
import Mathlib.Data.List.Find

/-!
# Received messages

What `parseSignalingMessage` makes of the members of a message.  A text is copied as it stands in
the token; the type is compared as far as the token goes, so that an abbreviation is taken for the
whole name.
-/

namespace KvsWebrtc.Signaling

open Jsmn
open Relay (bytesOf cString)

variable {lib : Library} {message : List UInt8} {key : MessageKey}

/-! ### Values -/

def valueText (message : List UInt8) (value : JsmnToken) : List UInt8 :=
  (message.drop value.start).take (strLen value)

def typeNamed (text : List UInt8) : SignalingMessageType :=
  (comparedMessageTypes.find? fun messageType => text =
  bytesOf (getMessageTypeInString messageType)).getD .unknown

/-- A message that has the texts and the type of its values; `source` has the token of the value of
each key. -/
structure Delivers (lib : Library) (message : List UInt8) (text : JsmnToken → List UInt8)
    (messageType : JsmnToken → SignalingMessageType) (source : MessageKey → Option JsmnToken)
    (received : ReceivedSignalingMessage) : Prop where
  peerClientId : received.signalingMessage.peerClientId = ((source .senderClientId).map text).getD
    []
  messageType : received.signalingMessage.messageType =
  ((source .messageType).map messageType).getD .unknown
  payload : ∀ value ∈ source .messagePayload,
    lib.base64Decode (message.drop value.start) (strLen value) (maxSignalingMessageLen + 1) =
      .ok received.signalingMessage.payload
  correlationId : received.signalingMessage.correlationId = ((source .correlationId).map text).getD
    []
  errorType : received.errorType = ((source .errorType).map text).getD []
  statusCode : ∀ value ∈ source .statusCode, lib.strtoui32 (valueText message value) =
  .ok received.statusCode
  description : received.description = ((source .description).map text).getD []
  noPayload : source .messagePayload = none → received.signalingMessage.payload = []
  noStatusCode : source .statusCode = none → received.statusCode = 0

/-- The tokens of the values behind some more keys. -/
def withRead (source : MessageKey → Option JsmnToken) (read : KeyRead) :
    MessageKey → Option JsmnToken :=
  Function.update source read.key read.value

def memberValues (message : List UInt8) (members : List (Place × Json)) :
    MessageKey → Option JsmnToken :=
  (messageReads message false members).foldl withRead fun _ => none

def copiedText (message : List UInt8) (value : JsmnToken) : List UInt8 :=
  formatString (strLen value) (message.drop value.start)

def typeRead (message : List UInt8) (value : JsmnToken) : SignalingMessageType :=
  getMessageTypeFromString (message.drop value.start) (strLen value)

theorem readString_ok {value : JsmnToken} {maxLen : Nat} {text : List UInt8}
    (h : readString message value maxLen = .ok text) : text = copiedText message value := by
  rw [readString] at h
  split_ifs at h
  exact (Except.ok.inj h).symm

theorem readPayload_ok {value : JsmnToken} {payload : List UInt8}
    (h : readPayload lib message value = .ok payload) :
    lib.base64Decode (message.drop value.start) (strLen value) (maxSignalingMessageLen + 1) =
      .ok payload := by
  rw [readPayload] at h
  split_ifs at h
  cases hdecode : lib.base64Decode (message.drop value.start) (strLen value)
    (maxSignalingMessageLen + 1) with
  | error status =>
    rw [hdecode] at h
    cases h
  | ok payload' =>
    rw [hdecode] at h
    dsimp only at h
    split_ifs at h
    exact congrArg Except.ok (Except.ok.inj h)

theorem readStatusCode_ok {value : JsmnToken} {statusCode : Nat}
    (h : readStatusCode lib message value = .ok statusCode) :
    lib.strtoui32 (valueText message value) = .ok statusCode := by
  rw [readStatusCode] at h
  split_ifs at h
  rw [valueText]
  cases hcode : lib.strtoui32 ((message.drop value.start).take (strLen value)) with
  | error status =>
    rw [hcode] at h
    cases h
  | ok statusCode' =>
    rw [hcode] at h
    exact congrArg Except.ok (Except.ok.inj h)

/-- **A value is read** into its field. -/
theorem delivers_readValue {parse parse' : MessageParse} {value : JsmnToken}
    {source : MessageKey → Option JsmnToken}
    (h : parse.readValue lib message key value = .ok parse')
    (hd : Delivers lib message (copiedText message) (typeRead message) source parse.received) :
    Delivers lib message (copiedText message)
    (typeRead message) (Function.update source key (some value))
      parse'.received := by
  cases key with
  | senderClientId =>
    obtain ⟨text, htext, h⟩ := bind_eq_ok_iff.mp h
    obtain rfl := Except.ok.inj h
    obtain rfl := readString_ok htext
    -- the payload is no longer missing
    exact { hd with peerClientId := rfl }
  | messageType =>
    rw [MessageParse.readValue] at h
    split_ifs at h
    obtain rfl := Except.ok.inj h
    exact { hd with messageType := rfl }
  | messagePayload =>
    obtain ⟨payload, hpayload, h⟩ := bind_eq_ok_iff.mp h
    obtain rfl := Except.ok.inj h
    exact { hd with
      payload := fun v hv => Option.mem_some.mp hv ▸ readPayload_ok hpayload
      noPayload := fun h => absurd h (Option.some_ne_none value) }
  | statusResponse =>
    obtain rfl := Except.ok.inj h
    exact { hd with }
  | correlationId =>
    obtain ⟨text, htext, h⟩ := bind_eq_ok_iff.mp h
    obtain rfl := Except.ok.inj h
    obtain rfl := readString_ok htext
    exact { hd with correlationId := rfl }
  | errorType =>
    obtain ⟨text, htext, h⟩ := bind_eq_ok_iff.mp h
    obtain rfl := Except.ok.inj h
    obtain rfl := readString_ok htext
    exact { hd with errorType := rfl }
  | statusCode =>
    obtain ⟨statusCode, hcode, h⟩ := bind_eq_ok_iff.mp h
    obtain rfl := Except.ok.inj h
    exact { hd with
      statusCode := fun v hv => Option.mem_some.mp hv ▸ readStatusCode_ok hcode
      noStatusCode := fun h => absurd h (Option.some_ne_none value) }
  | description =>
    obtain ⟨text, htext, h⟩ := bind_eq_ok_iff.mp h
    obtain rfl := Except.ok.inj h
    obtain rfl := readString_ok htext
    exact { hd with description := rfl }

/-! ### Texts and types -/

/-- What the tokenizer says about the token of a value. -/
structure PlainValue (message : List UInt8) (value : JsmnToken) : Prop where
  zero : (0 : UInt8) ∉ valueText message value
  length : (valueText message value).length = strLen value
  quoted : strLen value = 0 → message[value.start]? = some 34

theorem take_chars (n : Nat) (message : List UInt8) :
    (chars message).take n = chars (message.take n) :=
  List.map_take.symm

theorem plain_of_jsmnParse {numTokens : Nat} {tokens : List JsmnToken}
    (h : jsmnParse numTokens (chars message) = .ok tokens) {value : JsmnToken}
    (hvalue : value ∈ tokens) :
    PlainValue message value := by
  obtain ⟨hclosed, pre, s, hsplit, hinside⟩ := jsmnParse_inside h
  obtain ⟨finish, hfinish⟩ := Option.isSome_iff_exists.mp (hclosed value hvalue)
  have hspans := hinside.spans value hvalue finish hfinish
  have hlen : strLen value = finish - value.start := by rw [strLen, hfinish, Option.getD_some]
  have hpre : pre = chars (message.take pre.length) := by
    rw [← take_chars, hsplit, List.take_left]
  have hshort : pre.length ≤ message.length := by
    have hchars : (chars message).length = message.length := List.length_map _
    rw [← hchars, hsplit, List.length_append]
    exact Nat.le_add_right _ _
  have hle := hspans.le
  have hfinishLe := hspans.finish_le
  refine ⟨fun hzero => hinside.zero ?_, ?_, fun hempty => ?_⟩
  · rw [valueText, List.take_drop] at hzero
    have hmem := List.take_subset_take_left message (show value.start + strLen value ≤ pre.length by
      omega)
      (List.mem_of_mem_drop hzero)
    rw [hpre]
    exact List.mem_map_of_mem hmem
  · rw [valueText, List.length_take, List.length_drop]
    omega
  · have hquote := hspans.quoted (by omega)
    rw [← show value.start = finish by omega] at hquote
    have hchar : (chars message)[value.start]? = some '"' := by
      rw [hsplit, List.getElem?_append_left (List.getElem?_eq_some_iff.mp hquote).1, hquote]
    rw [chars, List.getElem?_map, Option.map_eq_some_iff] at hchar
    obtain ⟨b, hb, hbyte⟩ := hchar
    rw [hb]
    have hnat := congrArg Char.toNat hbyte
    rw [toNat_byteChar] at hnat
    exact congrArg some (UInt8.toNat_inj.mp hnat)

theorem take_cString {b : List UInt8} {n : Nat} (h : (0 : UInt8) ∉ b.take n) :
    (cString b).take n = b.take n := by
  have hsplit := List.take_append_drop n b
  have hplain : ∀ c ∈ b.take n, decide (c ≠ 0) = true := fun c hc => decide_eq_true fun hzero =>
    h (hzero ▸ hc)
  have hstring : cString b = b.take n ++ (b.drop n).takeWhile (· ≠ 0) := by
    rw [cString, ← List.takeWhile_append_of_pos hplain, hsplit]
  by_cases hn : n ≤ b.length
  · rw [hstring, List.take_append_of_le_length (by rw [List.length_take]; omega), List.take_take,
      Nat.min_self]
  · have hwhole : b.drop n = [] := List.drop_eq_nil_of_le (by omega)
    rw [hstring, hwhole, List.takeWhile_nil, List.append_nil, List.take_take, Nat.min_self]

theorem copiedText_eq {value : JsmnToken} (hplain : PlainValue message value)
    (hlen : strLen value < 2 ^ 31) :
    copiedText message value = valueText message value := by
  rw [copiedText, formatString, if_pos hlen]
  exact take_cString hplain.zero

/-- A text that is the beginning of the name of a type, but not the whole name. -/
def Abbreviates (text : List UInt8) : Prop :=
  text ≠ [] ∧ ∃ messageType ∈ comparedMessageTypes, text <+: bytesOf
  (getMessageTypeInString messageType) ∧ text ≠ bytesOf (getMessageTypeInString messageType)

instance (text : List UInt8) : Decidable (Abbreviates text) :=
  inferInstanceAs (Decidable (_ ≠ _ ∧ ∃ messageType ∈ comparedMessageTypes, _ ∧ _))

theorem typeRead_empty {value : JsmnToken} (hplain : PlainValue message value)
    (hempty : strLen value = 0) :
    typeRead message value = .unknown := by
  have hquote := hplain.quoted hempty
  have hdrop : message.drop value.start = 34 :: message.drop (value.start + 1) := by
    obtain ⟨hlt, hget⟩ := List.getElem?_eq_some_iff.mp hquote
    rw [List.drop_eq_getElem_cons hlt, hget]
  have hnames : ∀ messageType ∈ comparedMessageTypes,
      (bytesOf (getMessageTypeInString messageType)).head? ≠ some 34 := by decide
  rw [typeRead, getMessageTypeFromString, hempty, hdrop]
  have hstring : cString (34 :: message.drop (value.start + 1)) =
      34 :: cString (message.drop (value.start + 1)) := rfl
  simp only [if_true, hstring, List.take_length]
  rw [List.find?_eq_none.mpr]
  · rfl
  · intro messageType hmem heq
    have htake := of_decide_eq_true heq
    rw [List.length_cons] at htake
    cases hname : bytesOf (getMessageTypeInString messageType) with
    | nil =>
      rw [hname] at htake
      cases htake
    | cons c name =>
      rw [hname, List.take_succ_cons] at htake
      refine hnames messageType hmem ?_
      rw [hname, ← (List.cons.inj htake).1]
      rfl

/-- **The type of a message** is that of its name, unless the name is abbreviated. -/
theorem typeRead_eq_iff {value : JsmnToken} (hplain : PlainValue message value) :
    typeRead message value = typeNamed (valueText message value) ↔ ¬ Abbreviates
    (valueText message value) := by
  by_cases hempty : strLen value = 0
  · have htext : valueText message value = [] := List.length_eq_zero_iff.mp
      (hplain.length.trans hempty)
    rw [typeRead_empty hplain hempty, htext]
    exact iff_of_true (by decide) fun h => h.1 rfl
  have hne : valueText message value ≠ [] := fun h => hempty (by rw [← hplain.length, h]; rfl)
  have hread : typeRead message value = (comparedMessageTypes.find? fun messageType =>
      valueText message value <+: bytesOf (getMessageTypeInString messageType)).getD .unknown := by
    rw [typeRead, getMessageTypeFromString]
    simp only [if_neg hempty]
    rw [take_cString hplain.zero]
    simp only [List.prefix_iff_eq_take, hplain.length]
    rfl
  rw [hread, typeNamed]
  -- no name is the beginning of another
  have hnames : ∀ t ∈ comparedMessageTypes, ∀ t' ∈ comparedMessageTypes,
      bytesOf (getMessageTypeInString t) <+: bytesOf (getMessageTypeInString t') → t = t' := by
      decide
  constructor
  · rintro heq ⟨-, messageType, hmem, hprefixed, hshort⟩
    cases hfound : comparedMessageTypes.find? fun messageType =>
        valueText message value <+: bytesOf (getMessageTypeInString messageType) with
    | none => exact List.find?_eq_none.mp hfound messageType hmem (decide_eq_true hprefixed)
    | some t =>
      have ht := List.mem_of_find?_eq_some hfound
      rw [hfound] at heq
      cases hwhole : comparedMessageTypes.find? fun messageType =>
          valueText message value = bytesOf (getMessageTypeInString messageType) with
      | none =>
        rw [hwhole] at heq
        obtain rfl : t = .unknown := heq
        exact absurd ht (by decide)
      | some t' =>
        have ht' := List.mem_of_find?_eq_some hwhole
        have htext := List.find?_some hwhole
        replace htext := of_decide_eq_true htext
        rw [htext] at hprefixed hshort
        exact hshort (hnames t' ht' messageType hmem hprefixed ▸ rfl)
  · intro hwhole
    congr 1
    refine List.find?_congr fun messageType hmem => decide_eq_decide.mpr ⟨fun h => ?_, fun h =>
      h ▸ List.prefix_rfl⟩
    by_contra hshort
    exact hwhole ⟨hne, messageType, hmem, h, hshort⟩

/-! ### Messages -/

theorem ok_ne {α : Type} (a : α) : (Except.ok a : Except Failure α) ≠ .error .outOfBounds := by
  intro h
  cases h

theorem status_ne {α : Type} (status : Status) :
    (Except.error (.status status) : Except Failure α) ≠ .error .outOfBounds := by
  intro h
  cases h

/-- No value is written outside of its field, since decoding a payload makes it no longer. -/
theorem readValue_inside (hdecode : ∀ text len room payload,
    lib.base64Decode text len room = .ok payload →
    payload.length ≤ len) (parse : MessageParse) (key : MessageKey) (value : JsmnToken) :
    parse.readValue lib message key value ≠ .error .outOfBounds := by
  have hstring : ∀ maxLen, readString message value maxLen ≠ .error .outOfBounds := by
    intro maxLen
    rw [readString]
    split_ifs
    · exact ok_ne _
    · exact status_ne _
  have hbind : ∀ {α : Type} {x : Except Failure α} {f : α → MessageParse}, x ≠ .error .outOfBounds →
      (x >>= fun a => Except.ok (f a)) ≠ .error .outOfBounds := by
    intro α x f hx h
    cases x with
    | error e =>
      cases h
      exact hx rfl
    | ok a => cases h
  cases key with
  | messageType =>
    rw [MessageParse.readValue]
    split_ifs
    · exact ok_ne _
    · exact status_ne _
  | messagePayload =>
    refine hbind ?_
    rw [readPayload]
    split_ifs with hlen
    · cases hpayload : lib.base64Decode (message.drop value.start) (strLen value)
        (maxSignalingMessageLen + 1) with
      | error status => exact status_ne status
      | ok payload =>
        -- the decoded payload is not longer than its text, so it fits
        have hshort := hdecode _ _ _ _ hpayload
        dsimp only
        rw [if_pos (by omega)]
        exact ok_ne payload
    · exact status_ne _
  | statusResponse => exact ok_ne _
  | statusCode =>
    refine hbind ?_
    rw [readStatusCode]
    split_ifs
    · cases lib.strtoui32 ((message.drop value.start).take (strLen value)) with
      | error status => exact status_ne status
      | ok statusCode => exact ok_ne statusCode
    · exact status_ne _
  | _ => exact hbind (hstring _)

/-- A run whose steps do not fail in one way does not fail in that way. -/
theorem foldlM_ne_error {ε σ α : Type*} {f : σ → α → Except ε σ} {e : ε} {l : List α}
    (h : ∀ s, ∀ a ∈ l, f s a ≠ .error e) (s : σ) : l.foldlM f s ≠ .error e := by
  induction l generalizing s with
  | nil => exact nofun
  | cons a l ih =>
    obtain ⟨ha, hl⟩ : (∀ s, f s a ≠ .error e) ∧ ∀ s, ∀ b ∈ l, f s b ≠ .error e :=
      ⟨fun s => h s a List.mem_cons_self, fun s b hb => h s b (List.mem_cons_of_mem a hb)⟩
    rw [List.foldlM_cons]
    cases hstep : f s a with
    | error e' =>
      intro heq
      exact ha s (hstep.trans heq)
    | ok s' => exact ih hl s'

theorem foldl_withRead {reads : List KeyRead} {source : MessageKey → Option JsmnToken}
    {value : JsmnToken} (h : reads.foldl withRead source key = some value) :
    source key = some value ∨ ∃ read ∈ reads, read.key = key ∧ read.value = some value := by
  induction reads generalizing source with
  | nil => exact .inl h
  | cons read reads ih =>
    rcases ih h with hread | ⟨read', hmem, hread'⟩
    · by_cases hkey : key = read.key
      · rw [withRead, hkey, Function.update_self] at hread
        exact .inr ⟨read, List.mem_cons_self, hkey.symm, hread⟩
      · rw [withRead, Function.update_of_ne hkey] at hread
        exact .inl hread
    · exact .inr ⟨read', List.mem_cons_of_mem _ hmem, hread'⟩

/-- **A run over keys** fills the fields. -/
theorem delivers_foldlM {reads : List KeyRead} {parse : MessageParse}
    (h : reads.foldlM (applyRead lib message) ⟨emptyMessage, false, false⟩ = .ok parse) :
    Delivers lib message (copiedText message)
    (typeRead message) (reads.foldl withRead fun _ => none)
      parse.received := by
  have hstart : Delivers lib message (copiedText message) (typeRead message) (fun _ =>
      none) emptyMessage :=
    ⟨rfl, rfl, fun _ h => absurd h (Option.not_mem_none _), rfl, rfl,
    fun _ h => absurd h (Option.not_mem_none _), rfl,
      fun _ => rfl, fun _ => rfl⟩
  have hstep : ∀ (parse : MessageParse) (source : MessageKey → Option JsmnToken) (read : KeyRead)
      (parse' : MessageParse), applyRead lib message parse read = .ok parse' →
      Delivers lib message (copiedText message) (typeRead message) source parse.received →
      Delivers lib message (copiedText message) (typeRead message) (withRead source read)
      parse'.received := by
    intro parse source read parse' hread hd
    rw [applyRead] at hread
    rw [withRead]
    cases hvalue : read.value with
    | some value =>
      rw [hvalue] at hread
      exact delivers_readValue hread hd
    | none =>
      rw [hvalue] at hread
      dsimp only at hread
      split_ifs at hread with hkey
      obtain rfl := Except.ok.inj hread
      rw [hkey]
      exact { hd with }
  exact foldlM_simulates (g := withRead)
    (R := fun parse source => Delivers lib message (copiedText message) (typeRead message) source
    parse.received)
    hstep h hstart

theorem Delivers.congr {text text' : JsmnToken → List UInt8}
    {type type' : JsmnToken → SignalingMessageType} {source : MessageKey → Option JsmnToken}
    {received : ReceivedSignalingMessage}
    (h : Delivers lib message text type source received)
    (htext : ∀ key, ∀ value ∈ source key, text value = text' value)
    (htype : ∀ value ∈ source .messageType, type value = type' value) :
    Delivers lib message text' type' source received where
  peerClientId := by rw [h.peerClientId, Option.map_congr (htext _)]
  messageType := by rw [h.messageType, Option.map_congr htype]
  payload := h.payload
  correlationId := by rw [h.correlationId, Option.map_congr (htext _)]
  errorType := by rw [h.errorType, Option.map_congr (htext _)]
  statusCode := h.statusCode
  description := by rw [h.description, Option.map_congr (htext _)]
  noPayload := h.noPayload
  noStatusCode := h.noStatusCode

abbrev MessageParse.start : MessageParse := ⟨emptyMessage, false, false⟩

/-- The members with a name that are read, up to the first value that is refused. -/
def membersRead (lib : Library) (message : List UInt8) (members : List (Place × Json)) :
    List KeyRead :=
  doneReads lib message .start (messageReads message false members)

/-- What should be made of a message: the tokens that are taken for keys are those of its members,
as far as the loop gets, the type is the one that is named, and the fields are those of the
members. -/
structure ParsesMembers (lib : Library) (numTokens : Nat) (message : List UInt8)
    (members : List (Place × Json)) : Prop where
  inside : parseSignalingMessage lib numTokens message ≠ .error .outOfBounds
  reads : message.length ≤ maxSignalingMessageLen →
    doneReads lib message .start (keyReads lib message false (Json.memberTokens members)) =
      membersRead lib message members
  types : message.length ≤ maxSignalingMessageLen →
    ∀ read ∈ membersRead lib message members, read.key = .messageType →
      ∀ value ∈ read.value, typeRead message value = typeNamed (valueText message value)
  fields : ∀ received, parseSignalingMessage lib numTokens message = .ok received →
    Delivers lib message (valueText message) (fun value => typeNamed (valueText message value))
      (memberValues message members) received

/-- As far as the loop gets, no other token is spelled like a key, and no type is abbreviated.  A
text that is too long is not looked at. -/
structure MembersClean (lib : Library) (message : List UInt8) (members : List (Place × Json)) :
    Prop where
  keys : message.length ≤ maxSignalingMessageLen → MessageClean lib message .start members
  types : message.length ≤ maxSignalingMessageLen →
    ∀ read ∈ membersRead lib message members, read.key = .messageType →
      ∀ value ∈ read.value, ¬ Abbreviates (valueText message value)

variable (lib) in
/-- A call succeeds or fails as the loop does, or it gives up before. -/
theorem parseSignalingMessage_cases {numTokens : Nat} {place : Place}
    {members : List (Place × Json)}
    (hparse : jsmnParse numTokens (chars message) = .ok (Json.object place members).tokens) :
    (∃ status, parseSignalingMessage lib numTokens message = .error (.status status)) ∨
      message.length ≤ maxSignalingMessageLen ∧
        ((∃ e, (keyReads lib message false (Json.memberTokens members)).foldlM
              (applyRead lib message) .start = .error e ∧
            parseSignalingMessage lib numTokens message = .error e) ∨
          ∃ parse, (keyReads lib message false (Json.memberTokens members)).foldlM
              (applyRead lib message) .start = .ok parse ∧
            parseSignalingMessage lib numTokens message = .ok parse.received) := by
  rw [Json.tokens, Json.inner] at hparse
  by_cases hlen : maxSignalingMessageLen < message.length
  · exact .inl ⟨_, by rw [parseSignalingMessage, if_pos hlen]⟩
  by_cases hempty : Json.memberTokens members = []
  · refine .inl ⟨.invalidApiCallReturnJson, ?_⟩
    rw [parseSignalingMessage, if_neg hlen, hparse, hempty]
  rw [parseSignalingMessage_eq (Nat.not_lt.mp hlen) hparse rfl hempty, readMembers_eq]
  cases hrun : (keyReads lib message false (Json.memberTokens members)).foldlM
      (applyRead lib message) .start with
  | error e => exact .inr ⟨Nat.not_lt.mp hlen, .inl ⟨e, rfl, rfl⟩⟩
  | ok parse =>
    dsimp only
    by_cases htype : parse.parsedMessageType
    · rw [if_pos htype]
      exact .inr ⟨Nat.not_lt.mp hlen, .inr ⟨parse, rfl, rfl⟩⟩
    · rw [if_neg htype]
      exact .inl ⟨_, rfl⟩

theorem plain_of_messageReads {numTokens : Nat} {place : Place} {members : List (Place × Json)}
    (hparse : jsmnParse numTokens (chars message) = .ok (Json.object place members).tokens)
    {read : KeyRead} (hread : read ∈ messageReads message false members) {value : JsmnToken}
    (hvalue : value ∈ read.value) : PlainValue message value := by
  obtain ⟨v, hv, hsome⟩ := messageReads_value members false read hread
  obtain rfl : v = value := Option.some.inj (hsome.symm.trans hvalue)
  refine plain_of_jsmnParse hparse ?_
  rw [Json.tokens, Json.inner]
  exact List.mem_cons_of_mem _ hv

theorem foldlM_of_doneReads {reads reads' : List KeyRead} {parse : MessageParse}
    (h : doneReads lib message parse reads = doneReads lib message parse reads') :
    reads.foldlM (applyRead lib message) parse = reads'.foldlM (applyRead lib message) parse := by
  rw [← foldlM_reachedBy parse reads, ← foldlM_reachedBy parse reads']
  exact congrArg (fun l => l.foldlM (applyRead lib message) parse) h

/-- The fields of a message that has been read in full. -/
theorem delivers_members (hlen : message.length ≤ maxSignalingMessageLen)
    {members : List (Place × Json)} {parse : MessageParse}
    (hplain : ∀ read ∈ messageReads message false members, ∀ value ∈ read.value,
      PlainValue message value)
    (htypes : ∀ read ∈ messageReads message false members, read.key = .messageType →
      ∀ value ∈ read.value, typeRead message value = typeNamed (valueText message value))
    (hrun : (messageReads message false members).foldlM (applyRead lib message) .start = .ok
      parse) :
    Delivers lib message (valueText message) (fun value => typeNamed (valueText message value))
      (memberValues message members) parse.received := by
  have hsource : ∀ key, ∀ value ∈ memberValues message members key,
      ∃ read ∈ messageReads message false members, read.key = key ∧ read.value = some value :=
    fun key value hvalue => (foldl_withRead hvalue).resolve_left (Option.some_ne_none value).symm
  refine (delivers_foldlM hrun).congr ?_ ?_
  · intro key value hvalue
    obtain ⟨read, hread, -, hsome⟩ := hsource key value hvalue
    have hp := hplain read hread value hsome
    have hshort : strLen value ≤ message.length := by
      rw [← hp.length, valueText, List.length_take, List.length_drop]
      omega
    have hmax : maxSignalingMessageLen < 2 ^ 31 := by decide
    exact copiedText_eq hp (by omega)
  · intro value hvalue
    obtain ⟨read, hread, hkey, hsome⟩ := hsource _ value hvalue
    exact htypes read hread hkey value hsome

/-- **Received messages**: what is read are the members and their values exactly if, as far as the
loop gets, no other token is spelled like a key and no type is abbreviated. -/
theorem parsesMembers_iff (hcompare : Compares lib)
    (hdecode : ∀ text len room payload, lib.base64Decode text len room = .ok payload →
      payload.length ≤ len)
    {numTokens : Nat} {place : Place} {members : List (Place × Json)}
    (hparse : jsmnParse numTokens (chars message) = .ok (Json.object place members).tokens) :
    ParsesMembers lib numTokens message members ↔ MembersClean lib message members := by
  have hplain : ∀ read ∈ messageReads message false members, ∀ value ∈ read.value,
      PlainValue message value := fun read hread value hvalue =>
    plain_of_messageReads hparse hread hvalue
  have hsub : ∀ read ∈ membersRead lib message members, read ∈ messageReads message false members :=
    fun read hread => reachedBy_subset _ _ hread
  have hkeys : _ ↔ MessageClean lib message .start members :=
    messageReads_iff hcompare members .start
  constructor
  · intro h
    exact ⟨fun hlen => hkeys.mp (h.reads hlen), fun hlen read hread hkey value hvalue =>
      (typeRead_eq_iff (hplain read (hsub read hread) value hvalue)).mp
        (h.types hlen read hread hkey value hvalue)⟩
  · intro h
    have htypes : message.length ≤ maxSignalingMessageLen →
        ∀ read ∈ membersRead lib message members, read.key = .messageType →
          ∀ value ∈ read.value, typeRead message value = typeNamed (valueText message value) :=
      fun hlen read hread hkey value hvalue =>
        (typeRead_eq_iff (hplain read (hsub read hread) value hvalue)).mpr
          (h.types hlen read hread hkey value hvalue)
    have hruns : message.length ≤ maxSignalingMessageLen →
        (keyReads lib message false (Json.memberTokens members)).foldlM (applyRead lib message)
            .start =
          (messageReads message false members).foldlM (applyRead lib message) .start :=
      fun hlen => foldlM_of_doneReads (hkeys.mpr (h.keys hlen))
    refine ⟨?_, fun hlen => hkeys.mpr (h.keys hlen), htypes, ?_⟩
    · rcases parseSignalingMessage_cases lib hparse with
        ⟨status, herror⟩ | ⟨hlen, ⟨e, hrun, herror⟩ | ⟨parse, -, hok⟩⟩
      · rw [herror]
        exact status_ne status
      · rw [herror]
        rintro heq
        obtain rfl := Except.error.inj heq
        rw [hruns hlen] at hrun
        refine foldlM_ne_error (fun parse read hread => ?_) _ hrun
        obtain ⟨value, -, hvalue⟩ := messageReads_value members false read hread
        rw [applyRead, hvalue]
        exact readValue_inside hdecode parse read.key value
      · rw [hok]
        exact ok_ne _
    · intro received hreceived
      rcases parseSignalingMessage_cases lib hparse with
        ⟨status, herror⟩ | ⟨hlen, ⟨e, -, herror⟩ | ⟨parse, hrun, hok⟩⟩
      · cases herror.symm.trans hreceived
      · cases herror.symm.trans hreceived
      · obtain rfl := Except.ok.inj (hok.symm.trans hreceived)
        rw [hruns hlen] at hrun
        -- the loop has got to all members
        have hall : membersRead lib message members = messageReads message false members :=
          reachedBy_eq_self hrun
        exact delivers_members hlen hplain (hall ▸ htypes hlen) hrun

theorem sampleLibrary_decodes (text : List UInt8) (len room : Nat) (payload : List UInt8)
    (h : sampleLibrary.base64Decode text len room = .ok payload) : payload.length ≤ len := by
  simp only [sampleLibrary] at h
  split_ifs at h with hdecodes
  obtain rfl := Except.ok.inj h
  have hlen := congrArg List.length hdecodes.1
  have hfour : (bytesOf "AQID").length = 4 := by decide
  have hthree : [(1 : UInt8), 2, 3].length = 3 := rfl
  rw [List.length_take, hfour] at hlen
  omega

/-- A sender of 257 characters, before a type that is abbreviated. -/
def refusedMessage : List UInt8 :=
  bytesOf "\x7b\"senderClientId\":\"" ++ List.replicate 257 120 ++
    bytesOf "\",\"messageType\":\"S\"\x7d"

/-- A message is read as it stands, and so is one that is refused at its first member. -/
theorem parsesMembers_goAway :
    ParsesMembers sampleLibrary 100
        (bytesOf "\x7b\"messageType\":\"GO_AWAY\",\"senderClientId\":\"c\"\x7d")
        [(⟨2, 13⟩, .string ⟨16, 23⟩), (⟨26, 40⟩, .string ⟨43, 44⟩)] ∧
      ParsesMembers sampleLibrary 100 refusedMessage
        [(⟨2, 16⟩, .string ⟨19, 276⟩), (⟨279, 290⟩, .string ⟨293, 294⟩)] := by
  constructor
  · refine (parsesMembers_iff sampleLibrary_compares sampleLibrary_decodes
      (show jsmnParse 100 (chars _) = .ok (Json.object ⟨0, 46⟩ _).tokens by decide +kernel)).mpr
      ⟨fun _ => ?_, fun _ => by decide +kernel⟩
    exact (messageReads_iff sampleLibrary_compares _ .start).mp (by decide +kernel)
  · refine (parsesMembers_iff sampleLibrary_compares sampleLibrary_decodes
      (show jsmnParse 100 (chars _) = .ok (Json.object ⟨0, 296⟩ _).tokens by decide +kernel)).mpr
      ⟨fun _ => ?_, fun _ => by decide +kernel⟩
    exact (messageReads_iff sampleLibrary_compares _ .start).mp (by decide +kernel)

/-- **A value that is spelled like a key** is taken for one: if it is the last token, its value is
read where there is none.  An abbreviated type is taken for a known one. -/
theorem value_taken_for_key :
    parseSignalingMessage sampleLibrary 100
    (bytesOf "\x7b\"messageType\":\"GO_AWAY\",\"a\":\"senderClientId\"\x7d") =
        .error .outOfBounds ∧
      (parseSignalingMessage sampleLibrary 100
        (bytesOf "\x7b\"messageType\":\"GO_AWAY\",\"a\":\"messageType\",\"b\":\"c\"\x7d")).map
          (·.signalingMessage.messageType) = .ok .unknown ∧
      (parseSignalingMessage sampleLibrary 100 (bytesOf "\x7b\"messageType\":\"S\"\x7d")).map
          (·.signalingMessage.messageType) = .ok .offer ∧
      ¬ ∀ message place members, jsmnParse 100
      (chars message) = .ok (Json.object place members).tokens →
        ParsesMembers sampleLibrary 100 message members := by
  have hcall : parseSignalingMessage sampleLibrary 100
      (bytesOf "\x7b\"messageType\":\"GO_AWAY\",\"a\":\"senderClientId\"\x7d") =
      .error .outOfBounds := by
    decide +kernel
  refine ⟨hcall, by decide +kernel, by decide +kernel, fun h => ?_⟩
  exact (h _ ⟨0, 46⟩ [(⟨2, 13⟩, .string ⟨16, 23⟩),
    (⟨26, 27⟩, .string ⟨30, 44⟩)] (by decide +kernel)).inside hcall

end KvsWebrtc.Signaling
