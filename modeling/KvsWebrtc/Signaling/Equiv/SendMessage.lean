import KvsWebrtc.Relay.Equiv.Protocol
import KvsWebrtc.Relay.Equiv.Routing
import KvsWebrtc.Signaling.SendMessage

/-!
# Signaling messages through the relay

What `kvsNgtcp2TransportSendMessage` sends, `protocol_parse_forward` reads,
`protocol_build_forwarded` writes anew and `parseSignalingMessage` reads again.  The relay does not
look at the correlation id, so a message with one arrives without; `signaling_roundTrips_iff` says
which messages arrive as they were sent.
-/

namespace KvsWebrtc.Signaling

open Jsmn
open Relay (bytesOf cString emit findJsonString findValueAfterKey_member ForwardRequest
  forwardedText length_forwardedText maxClientId maxSignalingMsg memberParts_cons memberParts_nil
    protocolBuildForwarded
  protocolParseForward quoteByte quoted Unquoted Unquoted.cString_eq)

variable {messageType : SignalingMessageType}

/-! ### The relay -/

theorem unquoted_messageType (messageType : SignalingMessageType) :
    Unquoted (bytesOf (getMessageTypeInString messageType)) := by
  cases messageType <;> decide

/-- The type of a message is shorter than the relay's buffer, and no key. -/
theorem messageType_spec (messageType : SignalingMessageType) :
    (bytesOf (getMessageTypeInString messageType)).length < 64 ∧
      bytesOf (getMessageTypeInString messageType) ≠ bytesOf "RecipientClientId" ∧
      bytesOf (getMessageTypeInString messageType) ≠ bytesOf "MessagePayload" := by
  cases messageType <;> decide

theorem messageText_eq (action recipientClientId messagePayload : List UInt8)
    (correlationId : Option (List UInt8)) :
    messageText action recipientClientId messagePayload correlationId =
      bytesOf "\x7b" ++ (quoted [bytesOf "action", bytesOf ":", action, bytesOf ",",
        bytesOf "RecipientClientId", bytesOf ":", recipientClientId, bytesOf ",",
          bytesOf "MessagePayload", bytesOf ":", messagePayload] ++
        quoteByte :: messageTail correlationId) := by
  simp only [quoted, List.flatMap_cons, List.flatMap_nil, List.append_nil, List.append_assoc,
    messageText]
  rfl

/-- **The relay reads** the fields of a message, unless the recipient has the name of the last
one. -/
theorem protocolParseForward_messageText (messageType : SignalingMessageType)
    {recipientClientId messagePayload : List UInt8}
    (hrecipient : Unquoted recipientClientId) (hlen : recipientClientId.length ≤ maxClientId)
    (hpayload : Unquoted messagePayload) (correlationId : Option (List UInt8)) :
    protocolParseForward
    (messageText (bytesOf (getMessageTypeInString messageType)) recipientClientId
        messagePayload correlationId) =
      if recipientClientId = bytesOf "MessagePayload" then none
      else some ⟨bytesOf (getMessageTypeInString messageType), recipientClientId,
        messagePayload⟩ := by
  have hfront : Unquoted (bytesOf "\x7b") := by decide
  have htype := unquoted_messageType messageType
  obtain ⟨htypeLen, hrecipientNe, hpayloadNe⟩ := messageType_spec messageType
  have haction := findValueAfterKey_member (by decide : Unquoted (bytesOf "action")) (by decide)
    (by decide) hfront []
    (fun _ h => absurd h List.not_mem_nil) htype
    [bytesOf ",", bytesOf "RecipientClientId", bytesOf ":", recipientClientId, bytesOf ",",
      bytesOf "MessagePayload", bytesOf ":", messagePayload] (messageTail correlationId)
  have hrecipientClientId := findValueAfterKey_member
    (by decide : Unquoted (bytesOf "RecipientClientId")) (by decide)
    (by decide) hfront [(bytesOf "action", bytesOf (getMessageTypeInString messageType))]
    (by simp only [List.forall_mem_cons, htype, and_true]; decide) hrecipient
    [bytesOf ",", bytesOf "MessagePayload", bytesOf ":", messagePayload] (messageTail correlationId)
  have hmessagePayload := findValueAfterKey_member (by decide : Unquoted (bytesOf "MessagePayload"))
    (by decide)
    (by decide) hfront [(bytesOf "action", bytesOf (getMessageTypeInString messageType)),
      (bytesOf "RecipientClientId", recipientClientId)]
    (by simp only [List.forall_mem_cons, htype, hrecipient, and_true]; decide) hpayload []
    (messageTail correlationId)
  -- the three searches are in the same text
  simp only [memberParts_cons, memberParts_nil, List.cons_append, List.nil_append, List.map_cons,
    List.map_nil, ← messageText_eq, List.mem_cons, hrecipientNe.symm, hpayloadNe.symm, false_or,
    List.not_mem_nil, or_false, if_false] at haction hrecipientClientId hmessagePayload
  rw [protocolParseForward]
  simp only [findJsonString, haction, hrecipientClientId, hmessagePayload, ge_iff_le,
    if_neg (Nat.not_le.mpr htypeLen), if_neg (Nat.not_le.mpr (Nat.lt_succ_of_le hlen))]
  by_cases hname : recipientClientId = bytesOf "MessagePayload"
  · -- the name is found where it stands for the recipient
    rw [if_pos hname, if_pos hname.symm]
    rfl
  · rw [if_neg hname, if_neg (Ne.symm hname)]
    rfl

/-! ### The tokens of an object -/

def memberText (key value : List Char) : List Char :=
  '"' :: (key ++ '"' :: ':' :: '"' :: (value ++ ['"']))

def objectText (k₁ v₁ k₂ v₂ k₃ v₃ : List Char) : List Char :=
  '\x7b' :: (memberText k₁ v₁ ++ ',' :: (memberText k₂ v₂ ++ ',' :: (memberText k₃ v₃ ++ ['\x7d'])))

/-- The token of a key from `start` on and the one of its value. -/
def memberTokens (start key value : Nat) : List JsmnToken :=
  [⟨.string, start, some (start + key), 1⟩, ⟨.string, start + key + 3,
  some (start + key + 3 + value), 0⟩]

theorem jsmnParse_object {numTokens : Nat} (hroom : 7 ≤ numTokens) {k₁ v₁ k₂ v₂ k₃ v₃ : List Char}
    (hk₁ : Passes k₁) (hv₁ : Passes v₁) (hk₂ : Passes k₂) (hv₂ : Passes v₂) (hk₃ : Passes k₃)
    (hv₃ : Passes v₃) :
    jsmnParse numTokens (objectText k₁ v₁ k₂ v₂ k₃ v₃) = .ok
      (⟨.object, 0, some (objectText k₁ v₁ k₂ v₂ k₃ v₃).length, 3⟩ ::
        (memberTokens 2 k₁.length v₁.length ++
          memberTokens (2 + k₁.length + 3 + v₁.length + 3) k₂.length v₂.length ++
          memberTokens (2 + k₁.length + 3 + v₁.length + 3 + k₂.length + 3 + v₂.length + 3) k₃.length
            v₃.length)) := by
  have htext : objectText k₁ v₁ k₂ v₂ k₃ v₃ =
      '\x7b' :: '"' :: (k₁ ++ '"' :: ':' :: '"' :: (v₁ ++ '"' :: ',' ::
      '"' :: (k₂ ++ '"' :: ':' :: '"' :: (v₂ ++ '"' :: ',' :: '"' :: (k₃ ++
      '"' :: ':' :: '"' :: (v₃ ++ '"' ::
        ['\x7d'])))))) := by
    simp only [objectText, memberText, List.append_assoc, List.cons_append, List.nil_append]
  have hlen : (objectText k₁ v₁ k₂ v₂ k₃ v₃).length =
      k₁.length + v₁.length + k₂.length + v₂.length + k₃.length + v₃.length + 19 := by
    simp only [htext, List.length_append, List.length_cons, List.length_nil]
    omega
  -- thirteen rounds pass the text
  obtain ⟨k, hk⟩ : ∃ k, (objectText k₁ v₁ k₂ v₂ k₃ v₃).length = k + 13 :=
    ⟨_, Nat.eq_add_of_sub_eq (by omega) rfl⟩
  unfold jsmnParse
  rw [hk, htext]
  rw [parseLoop_open (by simp [jsmnInit]; omega)]
  rw [parseLoop_string (by simp [jsmnInit, JsmnParser.growSuper]; omega) hk₁]
  rw [parseLoop_colon]
  rw [parseLoop_string (by simp [jsmnInit, JsmnParser.growSuper, JsmnParser.colon]; omega) hv₁]
  rw [parseLoop_comma]
  rw [parseLoop_string (by
    simp [jsmnInit, JsmnParser.growSuper, JsmnParser.colon, JsmnParser.comma, lastOpen]
    omega) hk₂]
  rw [parseLoop_colon]
  rw [parseLoop_string (by
    simp [jsmnInit, JsmnParser.growSuper, JsmnParser.colon, JsmnParser.comma, lastOpen]
    omega) hv₂]
  rw [parseLoop_comma]
  rw [parseLoop_string (by
    simp [jsmnInit, JsmnParser.growSuper, JsmnParser.colon, JsmnParser.comma, lastOpen]
    omega) hk₃]
  rw [parseLoop_colon]
  rw [parseLoop_string (by
    simp [jsmnInit, JsmnParser.growSuper, JsmnParser.colon, JsmnParser.comma, lastOpen]
    omega) hv₃]
  simp [jsmnInit, JsmnParser.growSuper, JsmnParser.colon, JsmnParser.comma, JsmnParser.closeToken,
    lastOpen, parseLoop, parseLoop_nil]
  simp [bind, Except.bind, pure, Except.pure, lastOpen, memberTokens]
  omega

/-! ### The message that is received -/

/-- `compareJsonString` compares the type of a token and its text. -/
def Compares (lib : Library) : Prop :=
  ∀ message token jsmnType tokenName, lib.compareJsonString message token jsmnType
  tokenName = true ↔
    token.type = jsmnType ∧ (message.drop token.start).take (strLen token) = bytesOf tokenName

variable {lib : Library} {message text rest : List UInt8}

theorem name_injective (key key' : MessageKey) :
    bytesOf key.name = bytesOf key'.name ↔ key = key' := by
  cases key <;> cases key' <;> decide

/-- A token with the text of a key is that key, if it is one that is looked for. -/
theorem keyOf_eq (hcompare : Compares lib) {parse : MessageParse} {key : MessageKey}
    {token : JsmnToken} (htype : token.type = .string)
    (htext : (message.drop token.start).take (strLen token) = bytesOf key.name)
    (hkey : key ∈ parse.keys) :
    parse.keyOf lib message token = some key := by
  have hp : ∀ key', lib.compareJsonString message token .string key'.name = true ↔ key' = key := by
    intro key'
    rw [hcompare, htext, name_injective]
    exact ⟨fun h => h.2.symm, fun h => ⟨htype, h.symm⟩⟩
  rw [MessageParse.keyOf]
  cases hfind : parse.keys.find? fun key' => lib.compareJsonString message token .string
    key'.name with
  | none => exact absurd ((hp key).mpr rfl) (List.find?_eq_none.mp hfind key hkey)
  | some key' =>
    have hfound := List.find?_some hfind
    rw [(hp key').mp hfound]

theorem formatString_append (htext : Unquoted text) (hlen : text.length < 2 ^ 31)
    (rest : List UInt8) :
    formatString text.length (text ++ rest) = text := by
  rw [formatString, if_pos hlen, cString, List.takeWhile_append_of_pos fun c hc =>
    decide_eq_true (htext c hc).1]
  exact List.take_left

theorem getMessageTypeFromString_append (messageType : SignalingMessageType) (rest : List UInt8) :
    getMessageTypeFromString (bytesOf (getMessageTypeInString messageType) ++ rest)
      (bytesOf (getMessageTypeInString messageType)).length = messageType := by
  have hne : (bytesOf (getMessageTypeInString messageType)).length ≠ 0 := by
    cases messageType <;> decide
  have hplain := unquoted_messageType messageType
  rw [getMessageTypeFromString]
  simp only [if_neg hne]
  rw [cString, List.takeWhile_append_of_pos fun c hc => decide_eq_true (hplain c hc).1,
    List.take_left]
  cases messageType <;> decide

theorem drop_part {start : Nat} {part : List UInt8} (h : message.drop start = part ++ rest) :
    message.drop (start + part.length) = rest := by
  rw [← List.drop_drop, h, List.drop_left]

theorem mem_keys (parse : MessageParse) {key : MessageKey}
    (h : key ∈ [MessageKey.senderClientId, .messageType, .messagePayload]) : key ∈ parse.keys :=
  List.mem_append_left _ h

/-- **A member** of the object is read. -/
theorem readMembers_member (hcompare : Compares lib) {parse : MessageParse} {key : MessageKey}
    (hkey : key ∈ [MessageKey.senderClientId, .messageType, .messagePayload]) {name : String}
    {start : Nat} {value : List UInt8}
    (hdrop : message.drop start = bytesOf name ++ (bytesOf "\":\"" ++ (value ++ rest)))
    (hname : key.name = name) (tokens : List JsmnToken) :
    readMembers lib message (memberTokens start (bytesOf name).length value.length ++ tokens)
      parse =
      match parse.readValue lib message key
        ⟨.string, start + (bytesOf name).length + 3,
          some (start + (bytesOf name).length + 3 + value.length), 0⟩ with
      | .error e => .error e
      | .ok parse => readMembers lib message tokens parse := by
  have hlen : strLen ⟨.string, start, some (start + (bytesOf name).length), 1⟩ =
      (bytesOf name).length :=
    Nat.add_sub_cancel_left _ _
  have hfound := @keyOf_eq lib message hcompare parse key
    ⟨.string, start, some (start + (bytesOf name).length), 1⟩ rfl
    (by rw [hlen, hname]; dsimp only; rw [hdrop, List.take_left]) (mem_keys parse hkey)
  rewrite [memberTokens, List.cons_append, List.cons_append, List.nil_append, readMembers, hfound]
  rfl

theorem strLen_mk (type : JsmnType) (start len size : Nat) :
    strLen ⟨type, start, some (start + len), size⟩ = len :=
  Nat.add_sub_cancel_left _ _

theorem readString_eq {start : Nat} {value : List UInt8} (hvalue : Unquoted value)
    (hdrop : message.drop start = value ++ rest) {maxLen : Nat} (hmax : maxLen < 2 ^ 31)
    (size : Nat) :
    readString message ⟨.string, start, some (start + value.length), size⟩ maxLen =
      if value.length ≤ maxLen then .ok value else .error (.status .invalidApiCallReturnJson) := by
  rw [readString, strLen_mk]
  split_ifs with hle
  · rw [hdrop, formatString_append hvalue (by omega)]
  · rfl

section Values

variable {parse : MessageParse} {start size : Nat} {value : List UInt8}

theorem readValue_senderClientId (hvalue : Unquoted value)
    (hdrop : message.drop start = value ++ rest) :
    parse.readValue lib message .senderClientId ⟨.string, start, some (start + value.length),
      size⟩ =
      if value.length ≤ maxSignalingClientIdLen then
        .ok { parse with
          received := { parse.received with
            signalingMessage := { parse.received.signalingMessage with peerClientId := value } } }
      else .error (.status .invalidApiCallReturnJson) := by
  rw [MessageParse.readValue, readString_eq hvalue hdrop (by decide)]
  split_ifs <;> rfl

theorem readValue_messageType
    (hdrop : message.drop start = bytesOf (getMessageTypeInString messageType) ++ rest) :
    parse.readValue lib message .messageType
        ⟨.string, start, some (start + (bytesOf (getMessageTypeInString messageType)).length),
          size⟩ =
      .ok { parse with
        received := { parse.received with
          signalingMessage := { parse.received.signalingMessage with messageType := messageType } }
        parsedMessageType := true } := by
  have hlen : (bytesOf (getMessageTypeInString messageType)).length ≤
      maxSignalingMessageTypeLen := by
    cases messageType <;> decide
  simp only [MessageParse.readValue, strLen_mk, if_pos hlen, hdrop, getMessageTypeFromString_append]

theorem readValue_messagePayload {payload : List UInt8}
    (hlen : value.length ≤ maxSignalingMessageLen) (hpayload : payload.length ≤ value.length)
    (hdrop : message.drop start = value ++ rest)
    (hdecode : lib.base64Decode (value ++ rest) value.length (maxSignalingMessageLen + 1) =
      .ok payload) :
    parse.readValue lib message .messagePayload ⟨.string, start, some (start + value.length),
      size⟩ =
      .ok { parse with
        received := { parse.received with
          signalingMessage := { parse.received.signalingMessage with payload := payload } } } := by
  have hfits : payload.length < maxSignalingMessageLen + 1 :=
    Nat.lt_succ_of_le (hpayload.trans hlen)
  simp only [MessageParse.readValue, readPayload, strLen_mk, if_pos hlen, hdrop, hdecode,
    if_pos hfits]
  rfl

end Values

theorem chars_forwardedText {senderId : List UInt8} {m : ForwardRequest}
    (hsender : Unquoted senderId) (htype : Unquoted m.messageType) (hpayload : Unquoted m.payload) :
    chars (forwardedText senderId m) = objectText (chars (bytesOf "senderClientId"))
    (chars senderId)
      (chars (bytesOf "messageType")) (chars m.messageType) (chars (bytesOf "messagePayload"))
      (chars m.payload) := by
  simp only [forwardedText, hsender.cString_eq, htype.cString_eq, hpayload.cString_eq, chars,
    List.map_append, objectText, memberText, List.append_assoc, List.cons_append, List.nil_append]
  rfl

theorem toNat_byteChar (b : UInt8) : (Char.ofNat b.toNat).toNat = b.toNat := by
  have hvalid : b.toNat.isValidChar := .inl (Nat.lt_trans b.toNat_lt (by decide))
  rw [Char.ofNat, dif_pos hvalid]
  rfl

theorem passes_chars {b : List UInt8} (h : Unquoted b) : Passes (chars b) := by
  apply passes_of_plain
  intro c hc
  obtain ⟨b, hb, rfl⟩ := List.mem_map.mp hc
  obtain ⟨hzero, hquote, hslash⟩ := h b hb
  have hne : ∀ {d : UInt8}, b ≠ d → Char.ofNat b.toNat ≠ Char.ofNat d.toNat := by
    intro d hbd heq
    have hnat := congrArg Char.toNat heq
    rw [toNat_byteChar, toNat_byteChar] at hnat
    exact hbd (UInt8.toNat_inj.mp hnat)
  exact ⟨hne hzero, hne hquote, hne hslash⟩

theorem parseSignalingMessage_eq {numTokens : Nat} (hlen : message.length ≤ maxSignalingMessageLen)
    {object : JsmnToken} {tokens : List JsmnToken}
    (hparse : jsmnParse numTokens (chars message) = .ok (object :: tokens))
    (hobject : object.type = .object) (hne : tokens ≠ []) :
    parseSignalingMessage lib numTokens message =
      match readMembers lib message tokens ⟨emptyMessage, false, false⟩ with
      | .error e => .error e
      | .ok parse =>
        if parse.parsedMessageType then .ok parse.received
        else .error (.status .signalingInvalidMessageType) := by
  obtain ⟨first, tokens, rfl⟩ := List.exists_cons_of_ne_nil hne
  rw [parseSignalingMessage, if_neg (Nat.not_lt.mpr hlen), hparse]
  dsimp only
  rewrite [if_neg (not_not_intro hobject)]
  rfl

/-- **What the peer makes of a text that the relay forwards.** -/
theorem parseSignalingMessage_forwardedText (hcompare : Compares lib) {numTokens : Nat}
    (hroom : 7 ≤ numTokens) {senderId recipientId encoded payload : List UInt8}
    (hsender : Unquoted senderId) (hencoded : Unquoted encoded)
    (hpayload : payload.length ≤ encoded.length)
    (hdecode : encoded.length ≤ maxSignalingMessageLen → ∀ rest,
      lib.base64Decode (encoded ++ rest) encoded.length (maxSignalingMessageLen + 1) =
        .ok payload) :
    let m : ForwardRequest := ⟨bytesOf (getMessageTypeInString messageType), recipientId, encoded⟩
    parseSignalingMessage lib numTokens (forwardedText senderId m) =
      if (forwardedText senderId m).length ≤ maxSignalingMessageLen ∧
        senderId.length ≤ maxSignalingClientIdLen then
        .ok { emptyMessage with signalingMessage := ⟨0, messageType, [], senderId, payload⟩ }
      else .error (.status .invalidApiCallReturnJson) := by
  intro m
  have htype : Unquoted m.messageType := unquoted_messageType messageType
  have hlen : (forwardedText senderId m).length =
      58 + senderId.length + m.messageType.length + encoded.length := by
    rw [length_forwardedText, hsender.cString_eq, htype.cString_eq, Unquoted.cString_eq hencoded]
  by_cases hfits : (forwardedText senderId m).length ≤ maxSignalingMessageLen
  · have hparse := jsmnParse_object hroom
      (passes_chars (by decide : Unquoted (bytesOf "senderClientId")))
      (passes_chars hsender) (passes_chars (by decide : Unquoted (bytesOf "messageType")))
      (passes_chars htype)
      (passes_chars (by decide : Unquoted (bytesOf "messagePayload"))) (passes_chars hencoded)
    rw [← chars_forwardedText hsender htype hencoded] at hparse
    have hchars : ∀ b, (chars b).length = b.length := fun b => List.length_map _
    simp only [hchars] at hparse
    rw [parseSignalingMessage_eq hfits hparse rfl (List.cons_ne_nil _ _)]
    simp only [hfits, true_and, List.append_assoc]
    -- where the keys and the values stand
    have hdrop₁ : (forwardedText senderId m).drop 2 = bytesOf "senderClientId" ++
        (bytesOf "\":\"" ++ (senderId ++
        (bytesOf "\",\"" ++ (bytesOf "messageType" ++ (bytesOf "\":\"" ++ (m.messageType ++
        (bytesOf "\",\"" ++ (bytesOf "messagePayload" ++
        (bytesOf "\":\"" ++ (encoded ++ bytesOf "\"\x7d"))))))))))
        := by
      rw [forwardedText, hsender.cString_eq, htype.cString_eq, Unquoted.cString_eq hencoded]
      simp only [List.append_assoc]
      rfl
    have hvalue₁ := drop_part (drop_part hdrop₁)
    have hdrop₂ := drop_part (drop_part hvalue₁)
    have hvalue₂ := drop_part (drop_part hdrop₂)
    have hdrop₃ := drop_part (drop_part hvalue₂)
    have hvalue₃ := drop_part (drop_part hdrop₃)
    have hcolon : (bytesOf "\":\"").length = 3 := by decide
    have hcomma : (bytesOf "\",\"").length = 3 := by decide
    simp only [hcolon, hcomma] at hvalue₁ hdrop₂ hvalue₂ hdrop₃ hvalue₃
    have hencodedLen : encoded.length ≤ maxSignalingMessageLen := by omega
    rw [readMembers_member hcompare (by decide : MessageKey.senderClientId ∈ _) hdrop₁ rfl,
      readValue_senderClientId hsender hvalue₁]
    by_cases hid : senderId.length ≤ maxSignalingClientIdLen
    · simp only [if_pos hid]
      rw [readMembers_member hcompare (by decide : MessageKey.messageType ∈ _) hdrop₂ rfl,
        readValue_messageType hvalue₂, ← List.append_nil
        (memberTokens _ (bytesOf "messagePayload").length _)]
      simp only
      rw [readMembers_member hcompare (by decide : MessageKey.messagePayload ∈ _) hdrop₃ rfl,
        readValue_messagePayload hencodedLen hpayload hvalue₃ (hdecode hencodedLen _)]
      rfl
    · simp only [if_neg hid]
  · rw [parseSignalingMessage, if_pos (Nat.not_le.mp hfits), if_neg fun h => hfits h.1]

/-! ### Both ways -/

/-- Base64 has four characters for three bytes, and the text of the payload is decoded to the
payload. -/
structure Base64RoundTrips (lib : Library) (payload : List UInt8) : Prop where
  length : ∀ room encoded, lib.base64Encode payload room = .ok encoded →
    encoded.length = 4 * ((payload.length + 2) / 3)
  unquoted : ∀ room encoded, lib.base64Encode payload room = .ok encoded → Unquoted encoded
  decodes : ∀ room encoded, lib.base64Encode payload room = .ok encoded → ∀ rest room',
    encoded.length ≤ room' → lib.base64Decode (encoded ++ rest) encoded.length room' = .ok payload

theorem Base64RoundTrips.payload_le {payload encoded : List UInt8}
    (h : Base64RoundTrips lib payload) {room : Nat}
    (hencode : lib.base64Encode payload room = .ok encoded) : payload.length ≤ encoded.length := by
  have hlen := h.length _ _ hencode
  omega

/-- What the relay makes of a text from the sender arrives at the peer as the message. -/
def RoundTrips (lib : Library) (numTokens : Nat) (senderId sent : List UInt8)
    (messageType : SignalingMessageType) (payload correlationId : List UInt8) : Prop :=
  ∃ m forwarded received, protocolParseForward sent = some m ∧
    protocolBuildForwarded senderId m (maxSignalingMsg + 1024) = some forwarded ∧
    parseSignalingMessage lib numTokens forwarded = .ok received ∧
    received.signalingMessage.messageType = messageType ∧
    received.signalingMessage.peerClientId = senderId ∧
    received.signalingMessage.payload = payload ∧ received.signalingMessage.correlationId =
    correlationId

/-- The messages that arrive as they were sent. -/
structure Arrives (messageType : SignalingMessageType)
    (senderId peerClientId payload correlationId : List UInt8) :
    Prop where
  uncorrelated : correlationId = []
  named : peerClientId ≠ bytesOf "MessagePayload"
  sender : senderId.length ≤ maxSignalingClientIdLen
  fits : 58 + senderId.length + (bytesOf (getMessageTypeInString messageType)).length +
    4 * ((payload.length + 2) / 3) ≤ maxSignalingMessageLen

theorem protocolBuildForwarded_eq (senderId : List UInt8) (m : ForwardRequest) {bufLen : Nat}
    (hlen : (forwardedText senderId m).length < bufLen) :
    protocolBuildForwarded senderId m bufLen = some (forwardedText senderId m) := by
  have hpos := length_forwardedText senderId m
  rw [protocolBuildForwarded, ← forwardedText, emit, if_pos ⟨by omega, hlen⟩]
  rfl

theorem forwardedText_of_protocolBuildForwarded {senderId forwarded : List UInt8}
    {m : ForwardRequest} {bufLen : Nat}
    (h : protocolBuildForwarded senderId m bufLen = some forwarded) :
    forwarded = forwardedText senderId m := by
  rw [protocolBuildForwarded, ← forwardedText, emit] at h
  split_ifs at h
  exact (Option.some.inj h).symm

theorem roundTrips_messageText_iff (messageType : SignalingMessageType) (hcompare : Compares lib)
    {numTokens : Nat} (hroom : 7 ≤ numTokens)
    {senderId recipientClientId encoded payload : List UInt8} (hsender : Unquoted senderId)
    (hrecipient : Unquoted recipientClientId)
    (hrecipientLen : recipientClientId.length ≤ maxClientId) (hencoded : Unquoted encoded)
    (hpayload : payload.length ≤ encoded.length)
    (hdecode : encoded.length ≤ maxSignalingMessageLen → ∀ rest,
      lib.base64Decode (encoded ++ rest) encoded.length (maxSignalingMessageLen + 1) = .ok payload)
    (sentId : Option (List UInt8)) (correlationId : List UInt8) :
    RoundTrips lib numTokens senderId
        (messageText (bytesOf (getMessageTypeInString messageType)) recipientClientId encoded
          sentId) messageType
        payload correlationId ↔
      correlationId = [] ∧ recipientClientId ≠ bytesOf "MessagePayload" ∧
        senderId.length ≤ maxSignalingClientIdLen ∧
        58 + senderId.length + (bytesOf (getMessageTypeInString messageType)).length +
          encoded.length ≤
          maxSignalingMessageLen := by
  -- what the server forwards, and what the receiver makes of it
  have hforward := protocolParseForward_messageText messageType hrecipient hrecipientLen
    hencoded sentId
  let m : ForwardRequest := ⟨bytesOf (getMessageTypeInString messageType), recipientClientId,
    encoded⟩
  have hlen : (forwardedText senderId m).length = 58 + senderId.length +
      (bytesOf (getMessageTypeInString messageType)).length + encoded.length := by
    rw [length_forwardedText, hsender.cString_eq, Unquoted.cString_eq
      (unquoted_messageType messageType), Unquoted.cString_eq hencoded]
  have hparse : parseSignalingMessage lib numTokens (forwardedText senderId m) = _ :=
    parseSignalingMessage_forwardedText hcompare hroom hsender hencoded hpayload hdecode
  constructor
  · rintro ⟨m', forwarded, received, hm', hforwarded, hreceived, -, -, -, hcorrelationId⟩
    rw [hforward] at hm'
    split_ifs at hm' with hname
    obtain rfl := Option.some.inj hm'
    obtain rfl := forwardedText_of_protocolBuildForwarded hforwarded
    rw [hparse] at hreceived
    split_ifs at hreceived with hfits
    rw [← Except.ok.inj hreceived] at hcorrelationId
    exact ⟨hcorrelationId.symm, hname, hfits.2, hlen ▸ hfits.1⟩
  · rintro ⟨rfl, hname, hid, hfits⟩
    rw [← hlen] at hfits
    rw [if_pos ⟨hfits, hid⟩] at hparse
    exact ⟨m, _, _, hforward.trans (if_neg hname),
      protocolBuildForwarded_eq senderId m (Nat.lt_of_le_of_lt hfits (by decide)), hparse, rfl, rfl,
      rfl, rfl⟩

section RoundTrip

variable {numTokens payloadLen correlationIdLen : Nat}
    {senderId peerClientId payload sent : List UInt8}
  {correlationId : Option (List UInt8)} {sendFrame : List UInt8 → Bool}

theorem sent_eq (hpeer : Unquoted peerClientId)
    (hsend : kvsNgtcp2TransportSendMessage lib messageType peerClientId payload payloadLen
      correlationId
      correlationIdLen sendFrame = .ok sent)
      (hbase64 : Base64RoundTrips lib (sentPayload payload payloadLen)) :
    ∃ encoded, lib.base64Encode (sentPayload payload payloadLen)
    (maxSignalingMessageLen + 256) = .ok encoded ∧
      sent = messageText (bytesOf (getMessageTypeInString messageType))
        (peerClientId.take maxSignalingClientIdLen) encoded
        (sentCorrelationId correlationId correlationIdLen) := by
  rw [kvsNgtcp2TransportSendMessage] at hsend
  cases hencode : lib.base64Encode (sentPayload payload payloadLen)
    (maxSignalingMessageLen + 256) with
  | error status =>
    rw [hencode] at hsend
    cases hsend
  | ok encoded =>
    rw [hencode] at hsend
    dsimp only at hsend
    split_ifs at hsend
    refine ⟨encoded, rfl, ?_⟩
    rw [← Except.ok.inj hsend, formatString, if_pos (by decide), hpeer.cString_eq,
      (hbase64.unquoted _ _ hencode).cString_eq]

theorem take_eq_iff {name : List UInt8} {n : Nat} (hn : name.length < n) (b : List UInt8) :
    b.take n = name ↔ b = name := by
  constructor
  · rintro rfl
    rw [List.length_take] at hn
    exact (List.take_of_length_le (by omega)).symm
  · rintro rfl
    exact List.take_of_length_le hn.le

/-- **Signaling messages through the relay**: a message that has been sent arrives as it was exactly
if it has no correlation id, the recipient is not called like the last key, the sender's id is not
too long, and what the relay forwards is no longer than the peer takes. -/
theorem signaling_roundTrips_iff (hcompare : Compares lib) (hroom : 7 ≤ numTokens)
    (hsender : Unquoted senderId) (hpeer : Unquoted peerClientId)
    (hbase64 : Base64RoundTrips lib (sentPayload payload payloadLen))
    (hsend : kvsNgtcp2TransportSendMessage lib messageType peerClientId payload payloadLen
      correlationId
      correlationIdLen sendFrame = .ok sent) :
    RoundTrips lib numTokens senderId sent messageType (sentPayload payload payloadLen)
        ((sentCorrelationId correlationId correlationIdLen).getD []) ↔
      Arrives messageType senderId peerClientId (sentPayload payload payloadLen)
        ((sentCorrelationId correlationId correlationIdLen).getD []) := by
  obtain ⟨encoded, hencode, rfl⟩ := sent_eq hpeer hsend hbase64
  have hrecipient : Unquoted (peerClientId.take maxSignalingClientIdLen) :=
    fun c hc => hpeer c (List.mem_of_mem_take hc)
  rw [roundTrips_messageText_iff messageType hcompare hroom hsender hrecipient
    (List.length_take_le _ _)
    (hbase64.unquoted _ _ hencode) (hbase64.payload_le hencode)
    (fun hle rest => hbase64.decodes _ _ hencode rest _ (Nat.le_succ_of_le hle)),
    hbase64.length _ _ hencode, ne_eq, take_eq_iff (by decide)]
  exact ⟨fun h => ⟨h.1, h.2.1, h.2.2.1, h.2.2.2⟩, fun h =>
    ⟨h.uncorrelated, h.named, h.sender, h.fits⟩⟩

end RoundTrip

/-! ### A library -/

def sampleLibrary : Library where
  base64Encode inputData outputLength :=
    if inputData = [1, 2, 3] ∧ 5 ≤ outputLength then .ok (bytesOf "AQID")
      else .error .bufferTooSmall
  base64Decode inputData inputLength outputLength :=
    if inputData.take inputLength = bytesOf "AQID" ∧ 3 ≤ outputLength then .ok [1, 2, 3]
    else .error .bufferTooSmall
  compareJsonString jsonStr token jsmnType tokenName :=
    token.type = jsmnType ∧ (jsonStr.drop token.start).take (strLen token) = bytesOf tokenName
  strtoui32 _ := .error .invalidArg

theorem sampleLibrary_compares : Compares sampleLibrary := fun _ _ _ _ => decide_eq_true_iff

theorem sampleLibrary_encodes {room : Nat} {encoded : List UInt8}
    (h : sampleLibrary.base64Encode [1, 2, 3] room = .ok encoded) : encoded = bytesOf "AQID" := by
  simp only [sampleLibrary] at h
  split_ifs at h
  exact (Except.ok.inj h).symm

theorem sampleLibrary_base64 : Base64RoundTrips sampleLibrary [1, 2, 3] where
  length room encoded h := by
    rw [sampleLibrary_encodes h]
    decide
  unquoted room encoded h := by
    rw [sampleLibrary_encodes h]
    decide
  decodes room encoded h rest room' hroom := by
    rw [sampleLibrary_encodes h] at hroom ⊢
    have hlen : (bytesOf "AQID").length = 4 := by decide
    simp only [sampleLibrary, List.take_left, true_and]
    rw [if_pos (by omega)]

/-- An offer arrives at a viewer, and not at a client that is called like the last key. -/
theorem signaling_roundTrips_offer :
    RoundTrips sampleLibrary 100 (bytesOf "master")
        (messageText (bytesOf "SDP_OFFER") (bytesOf "viewer") (bytesOf "AQID") none) .offer
        (sentPayload [1, 2, 3] 3) ((sentCorrelationId none 0).getD []) ∧
      ¬RoundTrips sampleLibrary 100 (bytesOf "master")
        (messageText (bytesOf "SDP_OFFER") (bytesOf "MessagePayload") (bytesOf "AQID") none) .offer
        (sentPayload [1, 2, 3] 3) ((sentCorrelationId none 0).getD []) := by
  have hsend : ∀ peerClientId ∈ [bytesOf "viewer", bytesOf "MessagePayload"],
      kvsNgtcp2TransportSendMessage sampleLibrary .offer peerClientId [1, 2, 3] 3 none 0
        (fun _ => true) =
          .ok (messageText (bytesOf "SDP_OFFER") peerClientId (bytesOf "AQID") none) := by
    decide +kernel
  have hbase64 : Base64RoundTrips sampleLibrary (sentPayload [1, 2, 3] 3) := sampleLibrary_base64
  constructor
  · refine (signaling_roundTrips_iff sampleLibrary_compares (by decide) (by decide) (by decide)
      hbase64 (hsend _ (by simp))).mpr ?_
    exact ⟨by decide, by decide, by decide, by decide⟩
  · intro h
    have harrives := (signaling_roundTrips_iff sampleLibrary_compares (by decide) (by decide)
      (by decide) hbase64 (hsend _ (by simp))).mp h
    exact harrives.named rfl

/-- **A message with a correlation id**, even a status response, arrives without. -/
theorem correlationId_lost :
    ¬ ∀ (correlationId : Option (List UInt8)) (sent : List UInt8),
      kvsNgtcp2TransportSendMessage sampleLibrary .statusResponse (bytesOf "v")
      [1, 2, 3] 3 correlationId 0
        (fun _ => true) = .ok sent →
      RoundTrips sampleLibrary 100 (bytesOf "m") sent .statusResponse [1, 2, 3]
        ((sentCorrelationId correlationId 0).getD []) := by
  intro h
  have harrives := h (some (bytesOf "1")) _ rfl
  have hdecode : (bytesOf "AQID").length ≤ maxSignalingMessageLen → ∀ rest,
      sampleLibrary.base64Decode
      (bytesOf "AQID" ++ rest) (bytesOf "AQID").length (maxSignalingMessageLen + 1) =
      .ok [1, 2, 3] :=
    fun _ rest => sampleLibrary_base64.decodes 5 (bytesOf "AQID") rfl rest _ (by decide)
  have hid := (roundTrips_messageText_iff .statusResponse sampleLibrary_compares (by decide)
    (by decide)
    (by decide) (by decide) (by decide) (by decide) hdecode _ _).mp harrives
  exact absurd hid.1 (by decide)

end KvsWebrtc.Signaling
