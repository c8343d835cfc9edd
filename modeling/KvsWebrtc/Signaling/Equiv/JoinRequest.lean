import KvsWebrtc.Relay.Equiv.Protocol
import KvsWebrtc.Signaling.SendMessage

/-!
# Joining a channel

What the server reads of the request to join.  It takes the first place where the name of a key
stands between quotes for the key, so a channel or a client that is called like a later key is not
found; and a text that does not fit into the array is sent with its whole length.
-/

namespace KvsWebrtc.Signaling

open Relay (bytesOf findJsonString findValueAfterKey findValueAfterKey_member JoinRequest
  maxChannelName maxClientId memberParts_cons memberParts_nil protocolParseJoin roleSize quoteByte
    quoted Unquoted Unquoted.cString_eq)

variable {channelName clientId : List UInt8}

def SignalingChannelRoleType.text : SignalingChannelRoleType → List UInt8
  | .master => bytesOf "master"
  | .unknown | .viewer => bytesOf "viewer"

theorem roleName_some (channelName : Option (List UInt8)) (roleType : SignalingChannelRoleType) :
    bytesOf (roleName (some ⟨channelName, roleType⟩)) = roleType.text := by
  cases roleType <;> simp [roleName, SignalingChannelRoleType.text]

theorem joinText_eq (hname : Unquoted channelName) (hclient : Unquoted clientId)
    (roleType : SignalingChannelRoleType) :
    joinText (some ⟨some channelName, roleType⟩) clientId =
      bytesOf "\x7b" ++ (quoted [bytesOf "messageType", bytesOf ":", bytesOf "JOIN_CHANNEL",
        bytesOf ",", bytesOf "channelName", bytesOf ":", channelName, bytesOf ",",
          bytesOf "clientId", bytesOf ":", clientId,
        bytesOf ",", bytesOf "role", bytesOf ":", roleType.text] ++
          quoteByte :: bytesOf "\x7d") := by
  simp only [quoted, List.flatMap_cons, List.flatMap_nil, List.append_nil, List.append_assoc,
    joinText, Option.bind_some, Option.getD_some, hname.cString_eq, hclient.cString_eq,
    roleName_some]
  rfl

theorem length_joinText (hname : Unquoted channelName) (hclient : Unquoted clientId)
    (roleType : SignalingChannelRoleType) :
    (joinText (some ⟨some channelName, roleType⟩) clientId).length = 77 + channelName.length +
      clientId.length := by
  have hrole : roleType.text.length = 6 := by cases roleType <;> decide
  have hfront : (bytesOf "\x7b\"messageType\":\"JOIN_CHANNEL\",\"channelName\":\"").length =
      45 := by decide
  have hclientKey : (bytesOf "\",\"clientId\":\"").length = 14 := by decide
  have hroleKey : (bytesOf "\",\"role\":\"").length = 10 := by decide
  have hback : (bytesOf "\"\x7d").length = 2 := by decide
  simp only [joinText, List.length_append, Option.bind_some, Option.getD_some, hname.cString_eq,
    hclient.cString_eq, roleName_some, hrole, hfront, hclientKey, hroleKey, hback]
  omega

theorem SignalingChannelRoleType.text_spec (roleType : SignalingChannelRoleType) :
    Unquoted roleType.text ∧ roleType.text.length < roleSize := by
  cases roleType <;> decide

/-- **The server reads** the three values, unless one of them stands where a later key is looked
for. -/
theorem protocolParseJoin_joinText (hname : Unquoted channelName)
    (hnameLen : channelName.length ≤ maxChannelName) (hclient : Unquoted clientId)
    (hclientLen : clientId.length ≤ maxClientId) (roleType : SignalingChannelRoleType) :
    protocolParseJoin (joinText (some ⟨some channelName, roleType⟩) clientId) =
      if channelName = bytesOf "clientId" ∨ channelName = bytesOf "role" ∨
        clientId = bytesOf "role" then none
      else some ⟨channelName, clientId, roleType.text⟩ := by
  have hfront : Unquoted (bytesOf "\x7b") := by decide
  obtain ⟨hrole, hroleLen⟩ := roleType.text_spec
  have hchannelName := findValueAfterKey_member (by decide : Unquoted (bytesOf "channelName"))
    (by decide) (by decide)
    hfront [(bytesOf "messageType", bytesOf "JOIN_CHANNEL")] (by decide) hname
    [bytesOf ",", bytesOf "clientId", bytesOf ":", clientId, bytesOf ",", bytesOf "role",
    bytesOf ":", roleType.text]
    (bytesOf "\x7d")
  have hclientId := findValueAfterKey_member (by decide : Unquoted (bytesOf "clientId")) (by decide)
    (by decide)
    hfront [(bytesOf "messageType", bytesOf "JOIN_CHANNEL"), (bytesOf "channelName", channelName)]
    (by simp only [List.forall_mem_cons, hname, and_true]; decide) hclient
    [bytesOf ",", bytesOf "role", bytesOf ":", roleType.text] (bytesOf "\x7d")
  have hroleText := findValueAfterKey_member (by decide : Unquoted (bytesOf "role")) (by decide)
    (by decide)
    hfront [(bytesOf "messageType", bytesOf "JOIN_CHANNEL"), (bytesOf "channelName", channelName),
      (bytesOf "clientId", clientId)]
    (by simp only [List.forall_mem_cons, hname, hclient, and_true]; decide) hrole []
    (bytesOf "\x7d")
  -- the three searches are in the same text
  simp only [memberParts_cons, memberParts_nil, List.cons_append, List.nil_append, List.map_cons,
    List.map_nil, ← joinText_eq hname hclient] at hchannelName hclientId hroleText
  have hother : bytesOf "channelName" ∉ [bytesOf "JOIN_CHANNEL"] ∧
      bytesOf "clientId" ≠ bytesOf "JOIN_CHANNEL" ∧
      bytesOf "role" ≠ bytesOf "JOIN_CHANNEL" := by decide
  rw [if_neg hother.1] at hchannelName
  simp only [List.mem_cons, hother, false_or, List.not_mem_nil, or_false] at hclientId hroleText
  have hnonempty : (joinText (some ⟨some channelName, roleType⟩) clientId).length ≠ 0 := by
    rw [length_joinText hname hclient]
    omega
  rw [protocolParseJoin, if_neg hnonempty]
  simp only [findJsonString, hchannelName, hclientId, hroleText, ge_iff_le,
    if_neg (Nat.not_le.mpr (Nat.lt_succ_of_le hnameLen))]
  -- a value that is the name of a later key is found in its place
  by_cases hnameClient : channelName = bytesOf "clientId"
  · rw [if_pos hnameClient.symm]
    exact (if_pos (.inl hnameClient)).symm
  rw [if_neg (Ne.symm hnameClient)]
  by_cases hrest : channelName = bytesOf "role" ∨ clientId = bytesOf "role"
  · rw [if_pos (hrest.imp Eq.symm Eq.symm)]
    simp only [if_neg (Nat.not_le.mpr (Nat.lt_succ_of_le hclientLen))]
    exact (if_pos (.inr hrest)).symm
  · rw [if_neg fun h => hrest (h.imp Eq.symm Eq.symm)]
    simp only [if_neg (Nat.not_le.mpr (Nat.lt_succ_of_le hclientLen)),
      if_neg (Nat.not_le.mpr hroleLen)]
    exact (if_neg fun h => h.elim hnameClient hrest).symm

/-! ### The frame -/

/-- The request arrives, and no more bytes are sent than have been formatted. -/
def Joins (channelName clientId : List UInt8) (roleType : SignalingChannelRoleType) : Prop :=
  ∃ frame, joinFrame (some ⟨some channelName, roleType⟩) clientId = .ok frame ∧
    protocolParseJoin frame = some ⟨channelName, clientId, roleType.text⟩ ∧
    frame.length ≤ (joinFormatted (some ⟨some channelName, roleType⟩) clientId).length

variable {channelInfo : Option JoinChannelInfo}

theorem joinFrame_eq (h : (joinText channelInfo clientId).length < joinJsonSize) :
    joinFrame channelInfo clientId = .ok (joinText channelInfo clientId) ∧
      joinFormatted channelInfo clientId = joinText channelInfo clientId := by
  have hformatted : joinFormatted channelInfo clientId = joinText channelInfo clientId :=
    List.take_of_length_le (Nat.le_pred_of_lt h)
  rw [joinFrame, hformatted]
  exact ⟨(if_neg (Nat.not_lt.mpr h.le)).trans (by rw [List.take_left]), rfl⟩

/-- A text that does not fit is sent with bytes from behind it. -/
theorem formatted_lt_of_joinFrame (h : joinJsonSize ≤ (joinText channelInfo clientId).length)
    {frame : List UInt8} (hframe : joinFrame channelInfo clientId = .ok frame) :
    (joinFormatted channelInfo clientId).length < frame.length := by
  have hformatted : (joinFormatted channelInfo clientId).length = joinJsonSize - 1 := by
    rw [joinFormatted, List.length_take]
    exact Nat.min_eq_left (Nat.le_trans (Nat.sub_le _ _) h)
  rw [joinFrame] at hframe
  split_ifs at hframe
  rw [← Except.ok.inj hframe, List.length_take, List.length_append, hformatted]
  simp only [joinJsonSize, List.length_singleton] at h ⊢
  omega

/-- **Requests to join**: the server reads what the client has been given exactly if the names have
at most 434 bytes together, and none of them is the name of a key that is looked for behind it. -/
theorem joins_iff (hname : Unquoted channelName) (hnameLen : channelName.length ≤ maxChannelName)
    (hclient : Unquoted clientId) (hclientLen : clientId.length ≤ maxClientId)
    (roleType : SignalingChannelRoleType) :
    Joins channelName clientId roleType ↔
      channelName.length + clientId.length ≤ 434 ∧ channelName ≠ bytesOf "clientId" ∧
        channelName ≠ bytesOf "role" ∧ clientId ≠ bytesOf "role" := by
  have hlen := length_joinText hname hclient roleType
  have hparse := protocolParseJoin_joinText hname hnameLen hclient hclientLen roleType
  constructor
  · rintro ⟨frame, hframe, hjoin, hle⟩
    have hfits : (joinText (some ⟨some channelName, roleType⟩) clientId).length < joinJsonSize := by
      by_contra hge
      exact Nat.not_lt.mpr hle (formatted_lt_of_joinFrame (Nat.not_lt.mp hge) hframe)
    obtain rfl := Except.ok.inj ((joinFrame_eq hfits).1.symm.trans hframe)
    rw [hjoin] at hparse
    split_ifs at hparse with hnamed
    rw [not_or, not_or] at hnamed
    simp only [joinJsonSize] at hfits
    exact ⟨by omega, hnamed⟩
  · rintro ⟨hsum, hnamed⟩
    rw [← not_or, ← not_or] at hnamed
    have hfits : (joinText (some ⟨some channelName, roleType⟩) clientId).length < joinJsonSize := by
      simp only [joinJsonSize]
      omega
    obtain ⟨hframe, hformatted⟩ := joinFrame_eq hfits
    exact ⟨_, hframe, hparse.trans (if_neg hnamed), hformatted ▸ le_rfl⟩

/-- A master joins a channel, but not one that is called like a key. -/
theorem joins_master :
    Joins (bytesOf "demo") (bytesOf "m1") .master ∧ ¬Joins (bytesOf "role")
    (bytesOf "m1") .master := by
  constructor
  · refine (joins_iff (by decide) (by decide) (by decide) (by decide) .master).mpr ?_
    exact ⟨by decide, by decide, by decide, by decide⟩
  · intro h
    have hnamed := (joins_iff (by decide) (by decide) (by decide) (by decide) .master).mp h
    exact hnamed.2.2.1 rfl

/-- **A long name**: the channel's name and the client's have the lengths that are declared, and the
request does not fit into the array. -/
theorem joins_long :
    ¬ ∀ channelName clientId : List UInt8, Unquoted channelName → Unquoted clientId →
      channelName.length ≤ maxChannelName → clientId.length ≤ maxClientId →
        Joins channelName clientId .viewer := by
  intro h
  have hlong : Unquoted (List.replicate 256 'a'.toUInt8) :=
    fun c hc => List.eq_of_mem_replicate hc ▸ by decide
  have hlen : (List.replicate 256 'a'.toUInt8).length = 256 := List.length_replicate
  obtain ⟨frame, hframe, -⟩ := h _ _ hlong hlong hlen.le hlen.le
  rw [joinFrame, if_pos] at hframe
  · cases hframe
  · rw [length_joinText hlong hlong, hlen]
    decide

end KvsWebrtc.Signaling
