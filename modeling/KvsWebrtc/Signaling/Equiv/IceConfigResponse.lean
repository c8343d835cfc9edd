import KvsWebrtc.PeerConnection.Jsmn
import KvsWebrtc.Signaling.Equiv.IceConfigTokens

/-!
# The list of ICE servers

The tree of a response says what each of its tokens is (`rootMarks`), and the loop over the marks of
the tree makes the entries of the servers, one after the other (`foldlM_rootMarks`,
`fillIceConfig_ok`).

The main result is `parsesServers_iff`: the servers are those of the list exactly if, as far as the
loop gets, it takes every token for what it is, no time wraps and no server has two arrays of URIs.
-/

namespace KvsWebrtc.Signaling

open Jsmn
open Relay (bytesOf cString)

variable {lib : Library} {strtoui64 : List UInt8 → Except Status Nat} {response : List UInt8}

/-! ### The servers of a response -/

section Tree

variable (response : List UInt8)

def namedIceKey (key : Place) : Option IceConfigKey :=
  iceConfigKeys.find? fun k => memberName response key = bytesOf k.name

/-- The tokens of the value of a key: an array of URIs comes with those of its elements, if there is
room for them. -/
def fieldTokens (key : IceConfigKey) (value : Json) : List JsmnToken :=
  match key, value with
  | .uris, .array place elements =>
    place.token .array elements.length ::
      if elements.length ≤ maxIceConfigUriCount then elements.map Json.token else []
  | _, value => [value.token]

/-- The members of a server that have one of the names, with the tokens of their values. -/
def memberFields (members : List (Place × Json)) : List (IceConfigKey × List JsmnToken) :=
  members.filterMap fun member => (namedIceKey response member.1).map fun key =>
  (key, fieldTokens key member.2)

/-- The members of the objects among the elements of a list. -/
def serversOf (elements : List Json) : List (List (Place × Json)) :=
  elements.filterMap fun
    | .object _ members => some members
    | _ => none

def iceServerList (members : List (Place × Json)) : Option Json :=
  (members.find? fun member => memberName response member.1 = bytesOf "IceServerList").map Prod.snd

def plainMarks (tokens : List JsmnToken) : List (JsmnToken × Option IceMark) :=
  tokens.map fun token => (token, none)

def memberMarks : List (Place × Json) → List (JsmnToken × Option IceMark)
  | [] => []
  | (key, value) :: members =>
    (key.token .string 1, (namedIceKey response key).map fun k => .field k (fieldTokens k value)) ::
      (plainMarks value.tokens ++ memberMarks members)

def elementMarks : List Json → List (JsmnToken × Option IceMark)
  | [] => []
  | .object place members :: elements =>
    (place.token .object members.length, some .server) :: (memberMarks response members ++
    elementMarks elements)
  | value :: elements => plainMarks value.tokens ++ elementMarks elements

def listMarks : Json → List (JsmnToken × Option IceMark)
  | .array _ elements => elementMarks response elements
  | value => plainMarks value.inner

def topMarks : List (Place × Json) → List (JsmnToken × Option IceMark)
  | [] => []
  | (key, value) :: members =>
    if memberName response key = bytesOf "IceServerList" then
      (key.token .string 1, some (.list (some value.token))) :: (value.token, none) ::
        (listMarks response value ++ plainMarks (Json.memberTokens members))
    else plainMarks (key.token .string 1 :: value.tokens) ++ topMarks members

def rootMarks (root : Json) : List (JsmnToken × Option IceMark) :=
  (root.token, none) :: topMarks response root.members

end Tree

theorem map_fst_plainMarks (tokens : List JsmnToken) :
    (plainMarks tokens).map Prod.fst = tokens := by
  rw [plainMarks, List.map_map]
  exact List.map_id tokens

theorem map_fst_memberMarks (members : List (Place × Json)) :
    (memberMarks response members).map Prod.fst = Json.memberTokens members := by
  induction members with
  | nil => rfl
  | cons member members ih =>
    obtain ⟨key, value⟩ := member
    rw [memberMarks, List.map_cons, List.map_append, map_fst_plainMarks, ih]
    rfl

theorem map_fst_elementMarks (elements : List Json) :
    (elementMarks response elements).map Prod.fst = Json.elementTokens elements := by
  induction elements with
  | nil => rfl
  | cons value elements ih =>
    cases value with
    | object place members =>
      rw [elementMarks, List.map_cons, List.map_append, map_fst_memberMarks, ih]
      rfl
    | _ =>
      rw [elementMarks, List.map_append, map_fst_plainMarks, ih]
      · rfl
      · exact fun _ _ => Json.noConfusion

theorem map_fst_listMarks (value : Json) :
    (listMarks response value).map Prod.fst = value.inner := by
  cases value with
  | array place elements => exact map_fst_elementMarks elements
  | _ => exact map_fst_plainMarks _

theorem map_fst_topMarks (members : List (Place × Json)) :
    (topMarks response members).map Prod.fst = Json.memberTokens members := by
  induction members with
  | nil => rfl
  | cons member members ih =>
    obtain ⟨key, value⟩ := member
    rw [topMarks]
    split_ifs
    · rw [List.map_cons, List.map_cons, List.map_append, map_fst_listMarks, map_fst_plainMarks]
      rfl
    · rw [List.map_append, map_fst_plainMarks, ih]
      rfl

theorem mark_of_mem_plainMarks {tokens : List JsmnToken} {token : JsmnToken} {mark : Option IceMark}
    (h : (token, mark) ∈ plainMarks tokens) : mark = none := by
  obtain ⟨_, -, heq⟩ := List.mem_map.mp h
  exact (Prod.mk.inj heq).2.symm

theorem not_server_of_mem_memberMarks {members : List (Place × Json)} {token : JsmnToken}
    {mark : Option IceMark} (h : (token, mark) ∈ memberMarks response members) :
    mark ≠ some .server := by
  induction members with
  | nil => cases h
  | cons member members ih =>
    obtain ⟨key, value⟩ := member
    rcases List.mem_cons.mp h with heq | h
    · obtain ⟨-, rfl⟩ := Prod.mk.inj heq
      cases namedIceKey response key <;> simp
    · rcases List.mem_append.mp h with h | h
      · rw [mark_of_mem_plainMarks h]
        exact (Option.some_ne_none _).symm
      · exact ih h

theorem isObject_of_mem_elementMarks {elements : List Json} {token : JsmnToken}
    (h : (token, some IceMark.server) ∈ elementMarks response elements) : token.type = .object := by
  have hplain : ∀ tokens, (token, some IceMark.server) ∉ plainMarks tokens := by
    intro tokens hmem
    cases mark_of_mem_plainMarks hmem
  induction elements with
  | nil => cases h
  | cons value elements ih =>
    cases value with
    | object place members =>
      rcases List.mem_cons.mp h with heq | h
      · obtain ⟨rfl, -⟩ := Prod.mk.inj heq
        rfl
      · exact ih ((List.mem_append.mp h).resolve_left fun h => not_server_of_mem_memberMarks h rfl)
    | _ => exact ih ((List.mem_append.mp h).resolve_left (hplain _))

theorem isObject_of_mem_rootMarks {root : Json} {token : JsmnToken}
    (h : (token, some IceMark.server) ∈ rootMarks response root) : token.type = .object := by
  have hplain : ∀ tokens, (token, some IceMark.server) ∉ plainMarks tokens := by
    intro tokens hmem
    cases mark_of_mem_plainMarks hmem
  rcases List.mem_cons.mp h with heq | h
  · cases (Prod.mk.inj heq).2
  generalize root.members = members at h
  induction members with
  | nil => cases h
  | cons member members ih =>
    obtain ⟨key, value⟩ := member
    rw [topMarks] at h
    split_ifs at h
    · rcases List.mem_cons.mp h with heq | h
      · cases (Prod.mk.inj heq).2
      rcases List.mem_cons.mp h with heq | h
      · cases (Prod.mk.inj heq).2
      replace h := (List.mem_append.mp h).resolve_right (hplain _)
      cases value with
      | array place elements => exact isObject_of_mem_elementMarks h
      | _ => exact absurd h (hplain _)
    · exact ih ((List.mem_append.mp h).resolve_left (hplain _))

/-! ### The loop over the servers -/

section Fold

variable {maxIceConfigs : Nat} {room : Option Nat}

theorem markedReads_plain {skip : Nat} {tokens : List JsmnToken} (hskip : skip ≤ tokens.length)
    (marks : List (JsmnToken × Option IceMark)) :
    markedReads strtoui64 response maxIceConfigs room skip (plainMarks tokens ++ marks) =
      markedReads strtoui64 response maxIceConfigs room 0 marks := by
  induction tokens generalizing skip with
  | nil =>
    obtain rfl := Nat.le_zero.mp hskip
    rfl
  | cons token tokens ih =>
    cases skip with
    | zero => exact ih (Nat.zero_le _)
    | succ skip => exact ih (Nat.le_of_succ_le_succ hskip)

theorem length_fieldTokens (key : IceConfigKey) (value : Json) :
    (fieldTokens key value).length ≤ value.tokens.length := by
  have hplain : 1 ≤ value.tokens.length := Nat.succ_le_succ (Nat.zero_le _)
  have hinner : ∀ elements : List Json, elements.length ≤ (Json.elementTokens elements).length := by
    intro elements
    induction elements with
    | nil => exact Nat.le_refl 0
    | cons value elements ih =>
      rw [Json.elementTokens, List.length_cons, List.length_cons, List.length_append]
      omega
  cases key with
  | uris =>
    cases value with
    | array place elements =>
      rw [fieldTokens, Json.tokens, Json.inner, List.length_cons, List.length_cons]
      split_ifs
      · rw [List.length_map]
        exact Nat.succ_le_succ (hinner elements)
      · exact Nat.succ_le_succ (Nat.zero_le _)
    | _ => exact hplain
  | _ => exact hplain

/-- **The members of a server** are read one after the other. -/
theorem foldlM_memberMarks (members : List (Place × Json))
    (marks : List (JsmnToken × Option IceMark)) (iceConfigs : List IceConfigEntry) (room : Nat) :
    (markedReads strtoui64 response maxIceConfigs (some room) 0
      (memberMarks response members ++ marks)).foldlM
        (applyIceRead strtoui64 response) iceConfigs =
      (memberFields response members).foldlM
          (fun iceConfigs field => readIceConfigValue strtoui64 response field.1 field.2 iceConfigs)
            iceConfigs >>=
        fun iceConfigs => (markedReads strtoui64 response maxIceConfigs (some room) 0 marks).foldlM
          (applyIceRead strtoui64 response) iceConfigs := by
  induction members generalizing iceConfigs with
  | nil => rfl
  | cons member members ih =>
    obtain ⟨key, value⟩ := member
    rw [memberMarks, List.cons_append, List.append_assoc, memberFields, List.filterMap_cons]
    cases hname : namedIceKey response key with
    | none =>
      rw [Option.map_none, markedReads_none, markedReads_plain (Nat.zero_le _)]
      simp only [Option.map_none]
      exact ih iceConfigs
    | some k =>
      have hends : endsAt (some room) (.field k (fieldTokens k value)) = false := by simp [endsAt]
      simp only [Option.map_some]
      rw [markedReads_some, hends, if_neg Bool.false_ne_true, List.foldlM_cons, List.foldlM_cons,
        applyIceRead, applyMark, IceMark.next]
      cases hread : readIceConfigValue strtoui64 response k (fieldTokens k value) iceConfigs with
      | error e => rfl
      | ok iceConfigs' =>
        rw [if_pos (isReadable_of_ok hread).1, markedNext,
          markedReads_plain (length_fieldTokens k value)]
        exact ih iceConfigs'

/-- The entry of a server, behind those that have been counted. -/
def readServer (strtoui64 : List UInt8 → Except Status Nat) (response : List UInt8)
    (iceConfigs : List IceConfigEntry) (members : List (Place × Json)) :
    Except Failure (List IceConfigEntry) :=
  (memberFields response members).foldlM
    (fun iceConfigs field => readIceConfigValue strtoui64 response field.1 field.2 iceConfigs)
    (emptyIceConfig :: iceConfigs)

/-- **The elements of the list** are read as long as there is room for the objects among them. -/
theorem foldlM_elementMarks (elements : List Json) (tokens : List JsmnToken)
    (iceConfigs : List IceConfigEntry) (room : Nat) :
    (markedReads strtoui64 response maxIceConfigs (some room) 0
        (elementMarks response elements ++ plainMarks tokens)).foldlM
        (applyIceRead strtoui64 response) iceConfigs =
      ((serversOf elements).take room).foldlM (readServer strtoui64 response) iceConfigs := by
  induction elements generalizing iceConfigs room with
  | nil =>
    rw [elementMarks, List.nil_append, ← List.append_nil (plainMarks tokens),
      markedReads_plain (Nat.zero_le _), serversOf, List.filterMap_nil, List.take_nil]
    rfl
  | cons value elements ih =>
    cases value with
    | object place members =>
      rw [elementMarks, List.cons_append, List.append_assoc, markedReads_some]
      have hservers : serversOf (.object place members :: elements) =
          members :: serversOf elements := rfl
      rw [hservers]
      cases room with
      | zero => rfl
      | succ room =>
        rw [if_neg (by simp [endsAt]), List.foldlM_cons, List.take_succ_cons, List.foldlM_cons,
          readServer]
        show (markedReads strtoui64 response maxIceConfigs (some room) 0 _).foldlM _
            (emptyIceConfig :: iceConfigs) = _
        rw [foldlM_memberMarks]
        exact bind_congr fun iceConfigs => ih iceConfigs room
    | _ =>
      rw [elementMarks, List.append_assoc, markedReads_plain (Nat.zero_le _)]
      · exact ih iceConfigs room
      · exact fun _ _ => Json.noConfusion

def readServers (strtoui64 : List UInt8 → Except Status Nat) (response : List UInt8)
    (maxIceConfigs : Nat) :
    Option Json → Except Failure (List IceConfigEntry)
  | none => .ok []
  | some (.array _ elements) =>
    ((serversOf elements).take maxIceConfigs).foldlM (readServer strtoui64 response) []
  | some _ => .error (.status .invalidApiCallReturnJson)

/-- **The marks of a response** are those of its servers. -/
theorem foldlM_rootMarks (root : Json) :
    (markedReads strtoui64 response maxIceConfigs none 0 (rootMarks response root)).foldlM
        (applyIceRead strtoui64 response) [] =
      readServers strtoui64 response maxIceConfigs (iceServerList response root.members) := by
  rw [rootMarks, markedReads_none]
  induction root.members with
  | nil => rfl
  | cons member members ih =>
    obtain ⟨key, value⟩ := member
    rw [topMarks, iceServerList, List.find?_cons]
    by_cases hname : memberName response key = bytesOf "IceServerList"
    · rw [if_pos hname, decide_eq_true hname, markedReads_some, if_neg
        (by simp [endsAt]), List.foldlM_cons,
        applyIceRead, applyMark, IceMark.next]
      cases value with
      | array place elements =>
        exact foldlM_elementMarks elements (Json.memberTokens members) [] maxIceConfigs
      | _ => rfl
    · rw [if_neg hname, decide_eq_false hname, markedReads_plain (Nat.zero_le _)]
      exact ih

end Fold

/-! ### The entry of a server -/

def fillIceConfig (strtoui64 : List UInt8 → Except Status Nat) (response : List UInt8)
    (fields : List (IceConfigKey × List JsmnToken)) (iceConfig : IceConfigEntry) :
    Except Failure IceConfigEntry :=
  fields.foldlM (fun iceConfig field => (valueChange strtoui64 response field.1 field.2).map
    (· iceConfig)) iceConfig

theorem foldlM_fields (fields : List (IceConfigKey × List JsmnToken)) (iceConfig : IceConfigEntry)
    (iceConfigs : List IceConfigEntry) :
    fields.foldlM
    (fun iceConfigs field => readIceConfigValue strtoui64 response field.1 field.2 iceConfigs)
        (iceConfig :: iceConfigs) =
      (fillIceConfig strtoui64 response fields iceConfig).map (· :: iceConfigs) := by
  induction fields generalizing iceConfig with
  | nil => rfl
  | cons field fields ih =>
    rw [List.foldlM_cons, readIceConfigValue_cons, fillIceConfig, List.foldlM_cons]
    cases valueChange strtoui64 response field.1 field.2 with
    | error e => rfl
    | ok change => exact ih (change iceConfig)

theorem foldlM_readServer_ok {servers : List (List (Place × Json))}
    {iceConfigs iceConfigs' : List IceConfigEntry}
    (h : servers.foldlM (readServer strtoui64 response) iceConfigs = .ok iceConfigs') :
    ∃ entries, iceConfigs' = entries.reverse ++ iceConfigs ∧ List.Forall₂ (fun members entry =>
      fillIceConfig strtoui64 response (memberFields response members) emptyIceConfig =
        .ok entry) servers entries := by
  induction servers generalizing iceConfigs with
  | nil =>
    obtain rfl := Except.ok.inj h
    exact ⟨[], rfl, .nil⟩
  | cons members servers ih =>
    rw [List.foldlM_cons, readServer, foldlM_fields] at h
    cases hfill : fillIceConfig strtoui64 response (memberFields response members)
      emptyIceConfig with
    | error e =>
      rw [hfill] at h
      cases h
    | ok entry =>
      rw [hfill] at h
      obtain ⟨entries, rfl, hentries⟩ := ih h
      exact ⟨entry :: entries, by simp, .cons hfill hentries⟩

theorem foldlM_readServer_error {servers : List (List (Place × Json))}
    {iceConfigs : List IceConfigEntry} {e : Failure}
    (h : servers.foldlM (readServer strtoui64 response) iceConfigs = .error e) :
    ∃ members ∈ servers,
      fillIceConfig strtoui64 response (memberFields response members) emptyIceConfig =
        .error e := by
  induction servers generalizing iceConfigs with
  | nil => cases h
  | cons members servers ih =>
    rw [List.foldlM_cons, readServer, foldlM_fields] at h
    cases hfill : fillIceConfig strtoui64 response (memberFields response members)
      emptyIceConfig with
    | error e' =>
      rw [hfill] at h
      obtain rfl := Except.error.inj h
      exact ⟨members, List.mem_cons_self, hfill⟩
    | ok entry =>
      rw [hfill] at h
      obtain ⟨members', hmem, herror⟩ := ih h
      exact ⟨members', List.mem_cons_of_mem _ hmem, herror⟩

def fieldValue (fields : List (IceConfigKey × List JsmnToken)) (key : IceConfigKey) :
    Option (List JsmnToken) :=
  (fields.reverse.find? fun field => field.1 = key).map Prod.snd

theorem fieldValue_concat (fields : List (IceConfigKey × List JsmnToken)) (key key' : IceConfigKey)
    (values : List JsmnToken) :
    fieldValue (fields ++ [(key', values)]) key = if key' = key then some values
      else fieldValue fields key := by
  rw [fieldValue, List.reverse_append, List.reverse_singleton, List.singleton_append,
    List.find?_cons]
  by_cases hkey : key' = key
  · rw [decide_eq_true hkey, if_pos hkey]
    rfl
  · rw [decide_eq_false hkey, if_neg hkey]
    rfl

def fieldText (response : List UInt8) (fields : List (IceConfigKey × List JsmnToken))
    (key : IceConfigKey) :
    List UInt8 :=
  (((fieldValue fields key).bind List.head?).map (valueText response)).getD []

def fieldUris (response : List UInt8) (fields : List (IceConfigKey × List JsmnToken)) :
    List (List UInt8) :=
  (((fieldValue fields .uris).map List.tail).getD []).map (valueText response)

def uriSum (fields : List (IceConfigKey × List JsmnToken)) : Nat :=
  ((fields.filter fun field => field.1 = .uris).map fun field => field.2.tail.length).sum

/-- What is in the entry of a server of which some members have been read. -/
structure FilledWith (strtoui64 : List UInt8 → Except Status Nat) (response : List UInt8)
    (fields : List (IceConfigKey × List JsmnToken)) (iceConfig : IceConfigEntry) : Prop where
  userName : iceConfig.userName = fieldText response fields .userName
  password : iceConfig.password = fieldText response fields .password
  noTtl : fieldValue fields .ttl = none → iceConfig.ttl = 0
  ttl : ∀ values, fieldValue fields .ttl = some values → ∃ seconds,
    strtoui64 (fieldText response fields .ttl) = .ok seconds ∧
      iceConfig.ttl = seconds * hundredsOfNanosInASecond % 2 ^ 64
  uriCount : iceConfig.uriCount = uriSum fields
  length : iceConfig.uris.length = maxIceConfigUriCount
  uris : iceConfig.uris.take (fieldUris response fields).length = fieldUris response fields

theorem filledWith_empty : FilledWith strtoui64 response [] emptyIceConfig where
  userName := rfl
  password := rfl
  noTtl := fun _ => rfl
  ttl := fun _ h => by cases h
  uriCount := rfl
  length := rfl
  uris := rfl

theorem putUris_spec (j : Nat) (texts : List (List UInt8)) (iceConfig : IceConfigEntry)
    (hroom : j + texts.length ≤ iceConfig.uris.length) :
    putUris j texts iceConfig = { iceConfig with
      uris := iceConfig.uris.take j ++ texts ++ iceConfig.uris.drop (j + texts.length)
      uriCount := iceConfig.uriCount + texts.length } := by
  induction texts generalizing j iceConfig with
  | nil => simp [putUris]
  | cons text texts ih =>
    have hj : j < iceConfig.uris.length := by
      rw [List.length_cons] at hroom
      omega
    have htake : (iceConfig.uris.take j).length = j := List.length_take_of_le hj.le
    rw [putUris, ih]
    · dsimp only
      have hset := List.set_eq_take_append_cons_drop (l := iceConfig.uris) (i := j) (a := text)
      rw [if_pos hj] at hset
      have hfront : (iceConfig.uris.set j text).take (j + 1) = iceConfig.uris.take j ++ [text] := by
        rw [hset, List.take_append, htake, List.take_of_length_le
          (by rw [htake]; exact Nat.le_succ j)]
        simp
      have hback : (iceConfig.uris.set j text).drop (j + 1 + texts.length) =
          iceConfig.uris.drop (j + (text :: texts).length) := by
        rw [List.drop_set_of_lt (by omega), List.length_cons]
        congr 1
        omega
      rw [hfront, hback, List.length_cons, List.append_assoc (iceConfig.uris.take j),
        List.singleton_append, Nat.add_assoc, Nat.add_comm 1]
    · dsimp only
      rw [List.length_set]
      rw [List.length_cons] at hroom
      omega

section Concat

variable (fields : List (IceConfigKey × List JsmnToken)) (key key' : IceConfigKey)
    (values : List JsmnToken)

theorem fieldText_concat : fieldText response (fields ++ [(key', values)]) key =
    if key' = key then (values.head?.map (valueText response)).getD []
      else fieldText response fields key := by
  rw [fieldText, fieldValue_concat]
  split_ifs <;> rfl

theorem fieldUris_concat : fieldUris response (fields ++ [(key', values)]) =
    if key' = .uris then values.tail.map (valueText response) else fieldUris response fields := by
  rw [fieldUris, fieldValue_concat]
  split_ifs <;> rfl

theorem uriSum_concat : uriSum (fields ++ [(key', values)]) =
    uriSum fields + if key' = .uris then values.tail.length else 0 := by
  rw [uriSum, List.filter_append, List.map_append, List.sum_append]
  by_cases hkey : key' = .uris
  · simp [hkey, uriSum]
  · simp [hkey, uriSum]

end Concat

theorem readString_plain {value : JsmnToken} {maxLen : Nat} {text : List UInt8}
    (hplain : PlainValue response value) (hmax : maxLen < 2 ^ 31)
    (h : readString response value maxLen = .ok text) : text = valueText response value := by
  rw [readString_ok h]
  rw [readString] at h
  split_ifs at h with hlen
  exact copiedText_eq hplain (hlen.trans_lt hmax)

theorem uriTexts_plain {count : Nat} {tokens : List JsmnToken} {texts : List (List UInt8)}
    (hplain : ∀ token ∈ tokens, PlainValue response token) (hlength : tokens.length = count)
    (h : uriTexts response count tokens = .ok texts) : texts = tokens.map (valueText response) := by
  induction count generalizing tokens texts with
  | zero =>
    obtain rfl := Except.ok.inj h
    obtain rfl := List.length_eq_zero_iff.mp hlength
    rfl
  | succ count ih =>
    cases tokens with
    | nil => cases h
    | cons uri tokens =>
      obtain ⟨huri, hplain⟩ := List.forall_mem_cons.mp hplain
      rw [uriTexts] at h
      split_ifs at h with hlen
      cases htexts : uriTexts response count tokens with
      | error e =>
        rw [htexts] at h
        cases h
      | ok texts' =>
        rw [htexts] at h
        obtain rfl := Except.ok.inj h
        have hmax : maxIceConfigUriLen < 2 ^ 31 := by decide
        rw [ih hplain (Nat.succ.inj hlength) htexts, copiedText_eq huri (hlen.trans_lt hmax)]
        rfl

/-- The tokens of a value are those of the tree. -/
structure FieldTokens (key : IceConfigKey) (values : List JsmnToken) : Prop where
  ne_nil : values ≠ []
  size : key = .uris → ∀ value ∈ values.head?, value.type = .array →
  value.size ≤ maxIceConfigUriCount → values.tail.length = value.size

/-- **A member of a server** is read into its entry. -/
theorem FilledWith.change {fields : List (IceConfigKey × List JsmnToken)}
    {iceConfig : IceConfigEntry} {key : IceConfigKey} {values : List JsmnToken}
    {change : IceConfigEntry → IceConfigEntry} (h : FilledWith strtoui64 response fields iceConfig)
    (htokens : FieldTokens key values) (hplain : ∀ token ∈ values, PlainValue response token)
    (hchange : valueChange strtoui64 response key values = .ok change) :
    FilledWith strtoui64 response (fields ++ [(key, values)]) (change iceConfig) := by
  cases values with
  | nil => exact absurd rfl htokens.ne_nil
  | cons value tokens =>
    obtain ⟨hvalue, hplain⟩ := List.forall_mem_cons.mp hplain
    have hmap : ∀ {α : Type} {x : Except Failure α} {f : α → IceConfigEntry → IceConfigEntry},
        x.map f = .ok change → ∃ a, x = .ok a ∧ f a = change := by
      intro α x f hx
      cases x with
      | error e => cases hx
      | ok a => exact ⟨a, rfl, Except.ok.inj hx⟩
    unfold valueChange at hchange
    cases key with
    | userName =>
      obtain ⟨text, htext, rfl⟩ := hmap hchange
      have hmax : maxIceConfigUserNameLen < 2 ^ 31 := by decide
      obtain rfl := readString_plain hvalue hmax htext
      constructor
      all_goals simp only [fieldText_concat, fieldValue_concat, fieldUris_concat, uriSum_concat,
        reduceCtorEq, if_false, if_true, Nat.add_zero]
      · rfl
      · exact h.password
      · exact h.noTtl
      · exact h.ttl
      · exact h.uriCount
      · exact h.length
      · exact h.uris
    | password =>
      obtain ⟨text, htext, rfl⟩ := hmap hchange
      have hmax : maxIceConfigCredentialLen < 2 ^ 31 := by decide
      obtain rfl := readString_plain hvalue hmax htext
      constructor
      all_goals simp only [fieldText_concat, fieldValue_concat, fieldUris_concat, uriSum_concat,
        reduceCtorEq, if_false, if_true, Nat.add_zero]
      · exact h.userName
      · rfl
      · exact h.noTtl
      · exact h.ttl
      · exact h.uriCount
      · exact h.length
      · exact h.uris
    | ttl =>
      obtain ⟨ttl, httl, rfl⟩ := hmap hchange
      rw [readTtl] at httl
      cases hseconds : strtoui64 ((response.drop value.start).take (strLen value)) with
      | error e =>
        rw [hseconds] at httl
        cases httl
      | ok seconds =>
        rw [hseconds] at httl
        obtain rfl := Except.ok.inj httl
        constructor
        all_goals simp only [fieldText_concat, fieldValue_concat, fieldUris_concat, uriSum_concat,
          reduceCtorEq, if_false, if_true, Nat.add_zero]
        · exact h.userName
        · exact h.password
        · exact fun hnone => absurd hnone id
        · exact fun _ _ => ⟨seconds, hseconds, rfl⟩
        · exact h.uriCount
        · exact h.length
        · exact h.uris
    | uris =>
      dsimp only at hchange
      split_ifs at hchange with htype hsize
      obtain ⟨texts, htexts, rfl⟩ := hmap hchange
      -- the tokens of the array are those of its texts
      have htail := htokens.size rfl value rfl (not_not.mp htype) (Nat.not_lt.mp hsize)
      obtain rfl := uriTexts_plain hplain htail htexts
      have hroom : 0 + (tokens.map (valueText response)).length ≤ iceConfig.uris.length := by
        rw [List.length_map, h.length, Nat.zero_add]
        exact htail.trans_le (Nat.not_lt.mp hsize)
      rw [putUris_spec 0 _ _ hroom, List.take_zero, List.nil_append]
      constructor
      all_goals simp only [fieldText_concat, fieldValue_concat, fieldUris_concat, uriSum_concat,
        reduceCtorEq, if_false, if_true]
      · exact h.userName
      · exact h.password
      · exact h.noTtl
      · exact h.ttl
      · rw [h.uriCount, List.length_map]
        rfl
      · rw [List.length_append, List.length_drop, ← h.length]
        omega
      · exact List.take_left

/-! ### The tokens of the tree -/

theorem fieldTokens_spec (key : IceConfigKey) (value : Json) :
    FieldTokens key (fieldTokens key value) := by
  have hone : ∀ {value : Json}, value.token.type ≠ .array → FieldTokens key [value.token] := by
    intro value htype
    refine ⟨List.cons_ne_nil _ _, fun _ v hv harray _ => ?_⟩
    obtain rfl := Option.some.inj hv
    exact absurd harray htype
  cases value with
  | array place elements =>
    cases key with
    | uris =>
      refine ⟨List.cons_ne_nil _ _, fun _ v hv _ hsize => ?_⟩
      obtain rfl := Option.some.inj hv
      rw [fieldTokens, if_pos (show elements.length ≤ _ from hsize), List.tail_cons,
        List.length_map]
      rfl
    | _ => exact ⟨List.cons_ne_nil _ _, fun h => by cases h⟩
  | _ =>
    cases key with
    | uris => exact hone (by simp [Json.token, Place.token])
    | _ => exact ⟨List.cons_ne_nil _ _, fun h => by cases h⟩

theorem mem_of_mem_fieldTokens {key : IceConfigKey} {value : Json} {token : JsmnToken}
    (h : token ∈ fieldTokens key value) : token ∈ value.tokens := by
  have helements : ∀ elements : List Json, token ∈ elements.map Json.token →
      token ∈ Json.elementTokens elements := by
    intro elements hmem
    induction elements with
    | nil => cases hmem
    | cons value elements ih =>
      rcases List.mem_cons.mp hmem with rfl | hmem
      · exact List.mem_cons_self
      · exact List.mem_cons_of_mem _ (List.mem_append_right _ (ih hmem))
  have hone : ∀ {value : Json}, token ∈ [value.token] → token ∈ value.tokens := by
    intro value hmem
    rw [List.mem_singleton.mp hmem]
    exact List.mem_cons_self
  cases key with
  | uris =>
    cases value with
    | array place elements =>
      rcases List.mem_cons.mp h with rfl | h
      · exact List.mem_cons_self
      · split_ifs at h
        · exact List.mem_cons_of_mem _ (helements elements h)
        · cases h
    | _ => exact hone h
  | _ => exact hone h

theorem mem_memberTokens {members : List (Place × Json)} {key : Place} {value : Json}
    (h : (key, value) ∈ members) {token : JsmnToken} (htoken : token ∈ value.tokens) :
    token ∈ Json.memberTokens members := by
  induction members with
  | nil => cases h
  | cons member members ih =>
    obtain ⟨key', value'⟩ := member
    rw [Json.memberTokens]
    rcases List.mem_cons.mp h with heq | h
    · obtain ⟨rfl, rfl⟩ := Prod.mk.inj heq
      refine List.mem_cons_of_mem _ ?_
      rcases List.mem_cons.mp htoken with rfl | htoken
      · exact List.mem_cons_self
      · exact List.mem_cons_of_mem _ (List.mem_append_left _ htoken)
    · exact List.mem_cons_of_mem _ (List.mem_cons_of_mem _ (List.mem_append_right _ (ih h)))

def listedServers (response : List UInt8) (maxIceConfigs : Nat) (root : Json) :
    List (List (Place × Json)) :=
  match iceServerList response root.members with
  | some (.array _ elements) => (serversOf elements).take maxIceConfigs
  | _ => []

theorem mem_of_mem_listedServers {maxIceConfigs : Nat} {root : Json} {members : List (Place × Json)}
    (h : members ∈ listedServers response maxIceConfigs root) {token : JsmnToken}
    (htoken : token ∈ Json.memberTokens members) : token ∈ root.tokens := by
  rw [listedServers] at h
  split at h
  · next place elements hlist =>
    obtain ⟨⟨key, value⟩, hfind, rfl⟩ := Option.map_eq_some_iff.mp hlist
    have hmember := List.mem_of_find?_eq_some hfind
    have hinner : token ∈ Json.memberTokens root.members := by
      apply mem_memberTokens hmember
      refine List.mem_cons_of_mem _ ?_
      obtain ⟨value, hvalue, hobject⟩ := List.mem_filterMap.mp (List.mem_of_mem_take h)
      have hinside : token ∈ value.inner := by
        cases value with
        | object place members' =>
          obtain rfl := Option.some.inj hobject
          exact htoken
        | _ => cases hobject
      have helement : ∀ elements : List Json, value ∈ elements → token ∈
          Json.elementTokens elements := by
        intro elements hmem
        induction elements with
        | nil => cases hmem
        | cons value' elements ih =>
          refine List.mem_cons_of_mem _ ?_
          rcases List.mem_cons.mp hmem with rfl | hmem
          · exact List.mem_append_left _ hinside
          · exact List.mem_append_right _ (ih hmem)
      exact helement elements hvalue
    refine List.mem_cons_of_mem _ ?_
    cases root with
    | object place members => exact hinner
    | _ => cases hmember
  · cases h

/-! ### What comes of a server -/

theorem valueChange_inside {key : IceConfigKey} {values : List JsmnToken}
    (htokens : FieldTokens key values) :
    valueChange strtoui64 response key values ≠ .error .outOfBounds := by
  have hmap : ∀ {α β : Type} {x : Except Failure α} {f : α → β}, x ≠ .error .outOfBounds →
      x.map f ≠ .error .outOfBounds := by
    intro α β x f hx h
    cases x with
    | error e =>
      cases h
      exact hx rfl
    | ok a => cases h
  have hstring : ∀ value maxLen, readString response value maxLen ≠ .error .outOfBounds := by
    intro value maxLen
    rw [readString]
    split_ifs
    · exact ok_ne _
    · exact status_ne _
  -- the texts of an array end with its tokens
  have huris : ∀ (count : Nat) (tokens : List JsmnToken), tokens.length = count →
      uriTexts response count tokens ≠ .error .outOfBounds := by
    intro count
    induction count with
    | zero => exact fun tokens _ => ok_ne []
    | succ count ih =>
      intro tokens hlength
      cases tokens with
      | nil => cases hlength
      | cons uri tokens =>
        rw [uriTexts]
        split_ifs
        · exact hmap (ih tokens (Nat.succ.inj hlength))
        · exact status_ne _
  cases values with
  | nil => exact absurd rfl htokens.ne_nil
  | cons value tokens =>
    unfold valueChange
    cases key with
    | ttl =>
      refine hmap ?_
      rw [readTtl]
      cases strtoui64 ((response.drop value.start).take (strLen value)) with
      | error status => exact status_ne _
      | ok seconds => exact ok_ne _
    | uris =>
      dsimp only
      split_ifs with htype hsize
      · exact status_ne _
      · exact status_ne _
      · exact hmap (huris _ _ (htokens.size rfl value rfl (not_not.mp htype) (Nat.not_lt.mp hsize)))
    | _ => exact hmap (hstring _ _)

theorem mem_memberFields {members : List (Place × Json)} {field : IceConfigKey × List JsmnToken}
    (h : field ∈ memberFields response members) :
    ∃ key value, (key, value) ∈ members ∧ field.2 = fieldTokens field.1 value := by
  obtain ⟨⟨key, value⟩, hmember, hfield⟩ := List.mem_filterMap.mp h
  obtain ⟨k, -, rfl⟩ := Option.map_eq_some_iff.mp hfield
  exact ⟨key, value, hmember, rfl⟩

/-- **A server** is not read past its tokens. -/
theorem fillIceConfig_inside (members : List (Place × Json)) (iceConfig : IceConfigEntry) :
    fillIceConfig strtoui64 response (memberFields response members) iceConfig ≠
      .error .outOfBounds := by
  refine foldlM_ne_error (fun iceConfig field hfield herror => ?_) iceConfig
  obtain ⟨key, value, -, hvalues⟩ := mem_memberFields hfield
  have htokens : FieldTokens field.1 field.2 := hvalues ▸ fieldTokens_spec field.1 value
  have hinside : valueChange strtoui64 response field.1 field.2 ≠ .error .outOfBounds :=
    valueChange_inside htokens
  cases hchange : valueChange strtoui64 response field.1 field.2 with
  | error e =>
    rw [hchange] at herror
    cases herror
    exact hinside hchange
  | ok change =>
    rw [hchange] at herror
    cases herror

theorem fillIceConfig_filledWith {fields done : List (IceConfigKey × List JsmnToken)}
    {iceConfig iceConfig' : IceConfigEntry}
    (hfields : ∀ field ∈ fields, FieldTokens field.1 field.2 ∧ ∀ token ∈ field.2,
      PlainValue response token)
    (hdone : FilledWith strtoui64 response done iceConfig)
    (h : fillIceConfig strtoui64 response fields iceConfig = .ok iceConfig') :
    FilledWith strtoui64 response (done ++ fields) iceConfig' := by
  induction fields generalizing done iceConfig with
  | nil =>
    obtain rfl := Except.ok.inj h
    rw [List.append_nil]
    exact hdone
  | cons field fields ih =>
    obtain ⟨⟨htokens, hplain⟩, hfields⟩ := List.forall_mem_cons.mp hfields
    rw [fillIceConfig, List.foldlM_cons] at h
    cases hchange : valueChange strtoui64 response field.1 field.2 with
    | error e =>
      rw [hchange] at h
      cases h
    | ok change =>
      rw [hchange] at h
      have hnext := ih hfields (hdone.change htokens hplain hchange) h
      rw [List.append_assoc] at hnext
      exact hnext

/-- **A server** is read into its entry. -/
theorem fillIceConfig_ok {members : List (Place × Json)} {iceConfig : IceConfigEntry}
    (hplain : ∀ token ∈ Json.memberTokens members, PlainValue response token)
    (h : fillIceConfig strtoui64 response (memberFields response members) emptyIceConfig =
      .ok iceConfig) :
    FilledWith strtoui64 response (memberFields response members) iceConfig := by
  rw [← List.nil_append (memberFields response members)]
  refine fillIceConfig_filledWith (fun field hfield => ?_) filledWith_empty h
  obtain ⟨key, value, hmember, hvalues⟩ := mem_memberFields hfield
  rw [hvalues]
  exact ⟨fieldTokens_spec field.1 value, fun token htoken =>
    hplain token (mem_memberTokens hmember (mem_of_mem_fieldTokens htoken))⟩

/-- What should be in the entry of a server: the texts of its last members of each name, and the
seconds without wrap. -/
structure Serves (strtoui64 : List UInt8 → Except Status Nat) (response : List UInt8)
    (members : List (Place × Json)) (iceConfig : IceConfigEntry) : Prop where
  userName : iceConfig.userName = fieldText response (memberFields response members) .userName
  password : iceConfig.password = fieldText response (memberFields response members) .password
  noTtl : fieldValue (memberFields response members) .ttl = none → iceConfig.ttl = 0
  ttl : fieldValue (memberFields response members) .ttl ≠ none → ∃ seconds,
    strtoui64 (fieldText response (memberFields response members) .ttl) = .ok seconds ∧
      iceConfig.ttl = seconds * hundredsOfNanosInASecond
  uriCount : iceConfig.uriCount = (fieldUris response (memberFields response members)).length
  uris : iceConfig.uris.take iceConfig.uriCount = fieldUris response (memberFields response members)

/-- The time of a server does not wrap, and only its last array of URIs is not empty. -/
structure ServerFits (strtoui64 : List UInt8 → Except Status Nat) (response : List UInt8)
    (members : List (Place × Json)) : Prop where
  ttl : fieldValue (memberFields response members) .ttl ≠ none → ∀ seconds,
    strtoui64 (fieldText response (memberFields response members) .ttl) = .ok seconds →
      seconds * hundredsOfNanosInASecond < 2 ^ 64
  uris : uriSum (memberFields response members) =
  (fieldUris response (memberFields response members)).length

theorem serves_iff {members : List (Place × Json)} {iceConfig : IceConfigEntry}
    (h : FilledWith strtoui64 response (memberFields response members) iceConfig) :
    Serves strtoui64 response members iceConfig ↔ ServerFits strtoui64 response members := by
  constructor
  · intro hserves
    refine ⟨fun hsome seconds hseconds => ?_, h.uriCount.symm.trans hserves.uriCount⟩
    obtain ⟨values, hvalues⟩ := Option.ne_none_iff_exists'.mp hsome
    obtain ⟨seconds', hseconds', hwhole⟩ := hserves.ttl hsome
    obtain ⟨seconds'', hseconds'', hwrapped⟩ := h.ttl values hvalues
    obtain rfl := Except.ok.inj (hseconds.symm.trans hseconds')
    obtain rfl := Except.ok.inj (hseconds.symm.trans hseconds'')
    rw [← hwhole, hwrapped]
    exact Nat.mod_lt _ (Nat.two_pow_pos 64)
  · intro hfits
    have hcount : iceConfig.uriCount =
        (fieldUris response (memberFields response members)).length :=
      h.uriCount.trans hfits.uris
    refine ⟨h.userName, h.password, h.noTtl, fun hsome => ?_, hcount, ?_⟩
    · obtain ⟨values, hvalues⟩ := Option.ne_none_iff_exists'.mp hsome
      obtain ⟨seconds, hseconds, hwrapped⟩ := h.ttl values hvalues
      exact ⟨seconds, hseconds,
        hwrapped.trans (Nat.mod_eq_of_lt (hfits.ttl hsome seconds hseconds))⟩
    · rw [hcount]
      exact h.uris

/-! ### The response -/

section Response

variable (lib : Library) (strtoui64 : List UInt8 → Except Status Nat) (response : List UInt8)

/-- The loop is reached: the response is an object with members that the array of tokens has room
for. -/
def ReachesLoop (numTokens : Nat) (root : Json) : Prop :=
  response ≠ [] ∧ jsmnParse numTokens (chars response) = .ok root.tokens ∧
  root.token.type = .object ∧ root.members ≠ []

/-- What should come of a call: it reads and writes inside of its arrays and takes the tokens for
what they are, each entry is that of the server at its place, and a failure leaves no entries. -/
structure ParsesServers (numTokens maxIceConfigs iceConfigCount : Nat) (root : Json) : Prop where
  inside : (parseIceConfigResponse lib strtoui64 response numTokens maxIceConfigs
    iceConfigCount).1 ≠ .error .outOfBounds
  reads : ReachesLoop response numTokens root →
    scanReads lib strtoui64 response maxIceConfigs none 0 root.tokens =
      markedReads strtoui64 response maxIceConfigs none 0 (rootMarks response root)
  iceConfigs : ∀ iceConfigs,
    (parseIceConfigResponse lib strtoui64 response numTokens maxIceConfigs iceConfigCount).1 =
      .ok iceConfigs →
      (parseIceConfigResponse lib strtoui64 response numTokens maxIceConfigs iceConfigCount).2 =
      iceConfigs.length ∧
        List.Forall₂ (Serves strtoui64 response) (listedServers response maxIceConfigs root)
        iceConfigs
  count : ∀ e, (parseIceConfigResponse lib strtoui64 response numTokens maxIceConfigs
    iceConfigCount).1 = .error e →
    (parseIceConfigResponse lib strtoui64 response numTokens maxIceConfigs iceConfigCount).2 = 0

/-- If the loop is not reached, the count was zero before.  If it is, it takes the tokens for what
they are as far as it gets, and if all servers can be read, they fit. -/
structure ServersClean (numTokens maxIceConfigs iceConfigCount : Nat) (root : Json) : Prop where
  early : ¬ ReachesLoop response numTokens root → iceConfigCount = 0
  agrees : ReachesLoop response numTokens root →
    Agrees lib strtoui64 response maxIceConfigs none 0 (rootMarks response root)
  fits : ReachesLoop response numTokens root →
    (∀ members ∈ listedServers response maxIceConfigs root,
      (fillIceConfig strtoui64 response (memberFields response members) emptyIceConfig).isOk) →
      ∀ members ∈ listedServers response maxIceConfigs root, ServerFits strtoui64 response members

end Response

theorem map_fst_rootMarks {root : Json} (htype : root.token.type = .object) :
    (rootMarks response root).map Prod.fst = root.tokens := by
  rw [rootMarks, List.map_cons, map_fst_topMarks]
  cases root with
  | object place members => rfl
  | _ => exact absurd htype (by simp [Json.token, Place.token])

section Call

variable {numTokens maxIceConfigs iceConfigCount : Nat} {root : Json}

/-- A call that does not reach the loop leaves the count alone. -/
theorem parseIceConfigResponse_early
    (htokens : ∀ tokens, jsmnParse numTokens (chars response) = .ok tokens → tokens = root.tokens)
    (h : ¬ ReachesLoop response numTokens root) :
    ∃ status, parseIceConfigResponse lib strtoui64 response numTokens maxIceConfigs iceConfigCount =
      (.error (.status status), iceConfigCount) := by
  unfold parseIceConfigResponse
  split_ifs with hmax hempty
  · exact ⟨_, rfl⟩
  · exact ⟨_, rfl⟩
  · split
    · next object first tokens hparse =>
      split_ifs with htype
      · exact ⟨_, rfl⟩
      · refine absurd ?_ h
        have hroot := htokens _ hparse
        obtain ⟨hobject, hinner⟩ := List.cons.inj hroot
        rw [not_not, hobject] at htype
        refine ⟨hempty, hroot ▸ hparse, htype, fun hnone => ?_⟩
        cases root with
        | object place members =>
          obtain rfl : members = [] := hnone
          cases hinner
        | _ => exact absurd htype (by simp [Json.token, Place.token])
    · exact ⟨_, rfl⟩

theorem parseIceConfigResponse_reached (hmax : 0 < maxIceConfigs)
    (h : ReachesLoop response numTokens root) :
    parseIceConfigResponse lib strtoui64 response numTokens maxIceConfigs iceConfigCount =
      match readIceConfigs lib strtoui64 response maxIceConfigs false 0 root.tokens [] with
      | .error e => (.error e, 0)
      | .ok iceConfigs => (.ok iceConfigs.reverse, iceConfigs.length) := by
  obtain ⟨hempty, hparse, htype, hmembers⟩ := h
  rw [parseIceConfigResponse, if_neg hmax.ne', if_neg hempty, hparse]
  cases root with
  | object place members =>
    cases members with
    | nil => exact absurd rfl hmembers
    | cons member members => rfl
  | _ => exact absurd htype (by simp [Json.token, Place.token])

/-- **A loop that takes the tokens for what they are** reads the servers. -/
theorem readIceConfigs_of_agrees (htype : root.token.type = .object)
    (h : Agrees lib strtoui64 response maxIceConfigs none 0 (rootMarks response root)) :
    readIceConfigs lib strtoui64 response maxIceConfigs false 0 root.tokens [] =
      readServers strtoui64 response maxIceConfigs (iceServerList response root.members) := by
  rw [readIceConfigs_eq (Nat.zero_le _) (fun _ => rfl), roomFor, if_neg Bool.false_ne_true,
    ← map_fst_rootMarks htype, (scanReads_eq_iff _ ?_ 0).mpr h, foldlM_rootMarks]
  rintro token mark hmem rfl
  exact isObject_of_mem_rootMarks hmem

theorem readServers_ok {iceConfigs : List IceConfigEntry}
    (h : readServers strtoui64 response maxIceConfigs (iceServerList response root.members) =
      .ok iceConfigs) :
    List.Forall₂ (fun members entry =>
      fillIceConfig strtoui64 response (memberFields response members) emptyIceConfig = .ok entry)
        (listedServers response maxIceConfigs root) iceConfigs.reverse := by
  unfold readServers at h
  rw [listedServers]
  split at h
  · next hlist =>
    obtain rfl := Except.ok.inj h
    rw [hlist]
    exact .nil
  · next place elements hlist =>
    obtain ⟨entries, rfl, hentries⟩ := foldlM_readServer_ok h
    rw [hlist, List.append_nil, List.reverse_reverse]
    exact hentries
  · cases h

theorem readServers_error {e : Failure}
    (h : readServers strtoui64 response maxIceConfigs (iceServerList response root.members) =
      .error e) :
    listedServers response maxIceConfigs root = [] ∧ e ≠ .outOfBounds ∨
      ∃ members ∈ listedServers response maxIceConfigs root,
        fillIceConfig strtoui64 response (memberFields response members) emptyIceConfig = .error
          e := by
  unfold readServers at h
  rw [listedServers]
  split at h
  · cases h
  · next place elements hlist =>
    rw [hlist]
    exact .inr (foldlM_readServer_error h)
  · next hother hlist =>
    left
    obtain rfl := Except.error.inj h
    refine ⟨?_, fun heq => by cases heq⟩
    split
    · next place elements hlist' =>
        exact absurd (hlist.symm.trans hlist') (by simpa using hother place elements)
    · rfl

theorem exists_of_forall₂ {α β : Type*} {R S : α → β → Prop} {l : List α} {l' : List β}
    (hR : List.Forall₂ R l l') (hS : List.Forall₂ S l l') {a : α} (ha : a ∈ l) :
    ∃ b, R a b ∧ S a b := by
  induction hR with
  | nil => cases ha
  | cons hab _ ih =>
    obtain ⟨hS, hS'⟩ := List.forall₂_cons.mp hS
    rcases List.mem_cons.mp ha with rfl | ha
    · exact ⟨_, hab, hS⟩
    · exact ih hS' ha

/-- **The list of ICE servers**: the entries are those of the servers exactly if, as far as the loop
gets, it takes the tokens for what they are, and the times and URIs fit. -/
theorem parsesServers_iff (hmax : 0 < maxIceConfigs)
    (htokens : ∀ tokens, jsmnParse numTokens (chars response) = .ok tokens → tokens = root.tokens) :
    ParsesServers lib strtoui64 response numTokens maxIceConfigs iceConfigCount root ↔
      ServersClean lib strtoui64 response numTokens maxIceConfigs iceConfigCount root := by
  by_cases hreach : ReachesLoop response numTokens root
  swap
  · obtain ⟨status, hcall⟩ : ∃ status,
        parseIceConfigResponse lib strtoui64 response numTokens maxIceConfigs iceConfigCount =
          (.error (.status status), iceConfigCount) := parseIceConfigResponse_early htokens hreach
    constructor
    · intro h
      refine ⟨fun _ => ?_, fun h => absurd h hreach, fun h => absurd h hreach⟩
      exact (congrArg Prod.snd hcall).symm.trans (h.count _ (congrArg Prod.fst hcall))
    · intro h
      have hcount := h.early hreach
      refine ⟨?_, fun h => absurd h hreach, fun iceConfigs hok => ?_, fun _ _ => ?_⟩
      · rw [hcall]
        exact status_ne status
      · rw [hcall] at hok
        cases hok
      · rw [hcall]
        exact hcount
  obtain ⟨-, hparse, htype, -⟩ := id hreach
  have hreads : scanReads lib strtoui64 response maxIceConfigs none 0 root.tokens =
        markedReads strtoui64 response maxIceConfigs none 0 (rootMarks response root) ↔
      Agrees lib strtoui64 response maxIceConfigs none 0 (rootMarks response root) := by
    rw [← map_fst_rootMarks htype]
    refine scanReads_eq_iff _ ?_ 0
    rintro token mark hmem rfl
    exact isObject_of_mem_rootMarks hmem
  by_cases hagrees : Agrees lib strtoui64 response maxIceConfigs none 0 (rootMarks response root)
  swap
  · exact iff_of_false (fun h => hagrees (hreads.mp (h.reads hreach))) fun h =>
      hagrees (h.agrees hreach)
  have hcall : parseIceConfigResponse lib strtoui64 response numTokens maxIceConfigs
      iceConfigCount =
      match readIceConfigs lib strtoui64 response maxIceConfigs false 0 root.tokens [] with
      | .error e => (.error e, 0)
      | .ok iceConfigs => (.ok iceConfigs.reverse, iceConfigs.length) :=
        parseIceConfigResponse_reached hmax hreach
  rw [readIceConfigs_of_agrees htype hagrees] at hcall
  cases hservers : readServers strtoui64 response maxIceConfigs
    (iceServerList response root.members) with
  | error e =>
    rw [hservers] at hcall
    dsimp only at hcall
    refine iff_of_true ⟨?_, fun _ => hreads.mpr hagrees, fun iceConfigs hok => ?_, fun _ _ => ?_⟩
      ⟨fun h => absurd hreach h, fun _ => hagrees, fun _ hreadable members hmem => ?_⟩
    · rw [hcall]
      intro heq
      obtain rfl := Except.error.inj heq
      rcases readServers_error hservers with ⟨-, hne⟩ | ⟨members, -, hfill⟩
      · exact hne rfl
      · exact fillIceConfig_inside members emptyIceConfig hfill
    · rw [hcall] at hok
      cases hok
    · rw [hcall]
    · rcases readServers_error hservers with ⟨hnone, -⟩ | ⟨members', hmem', hfill⟩
      · rw [hnone] at hmem
        cases hmem
      · have hok := hreadable members' hmem'
        rw [hfill] at hok
        cases hok
  | ok iceConfigs =>
    rw [hservers] at hcall
    dsimp only at hcall
    have hentries := readServers_ok hservers
    have hfilled : ∀ members ∈ listedServers response maxIceConfigs root, ∀ entry,
        fillIceConfig strtoui64 response (memberFields response members) emptyIceConfig = .ok
        entry → FilledWith strtoui64 response (memberFields response members) entry :=
      fun members hmem entry => fillIceConfig_ok fun token htoken =>
        plain_of_jsmnParse hparse (mem_of_mem_listedServers hmem htoken)
    constructor
    · intro h
      refine ⟨fun h => absurd hreach h, fun _ => hagrees, fun _ _ members hmem => ?_⟩
      have hserves := (h.iceConfigs iceConfigs.reverse (by rw [hcall])).2
      obtain ⟨entry, hfill, hentry⟩ := exists_of_forall₂ hentries hserves hmem
      exact (serves_iff (hfilled members hmem entry hfill)).mp hentry
    · intro h
      refine ⟨?_, fun _ => hreads.mpr hagrees, fun iceConfigs' hok => ?_, fun e herror => ?_⟩
      · rw [hcall]
        exact ok_ne _
      · rw [hcall] at hok ⊢
        obtain rfl := Except.ok.inj hok
        -- every listed server has been read
        have hlisted := (List.forall₂_and_left _ _).mpr
          ⟨fun members (hmem : members ∈ listedServers response maxIceConfigs root) => hmem,
          hentries⟩
        refine ⟨(List.length_reverse).symm, hlisted.imp fun members entry ⟨hmem, hfill⟩ => ?_⟩
        refine (serves_iff (hfilled members hmem entry hfill)).mpr (h.fits hreach ?_ members hmem)
        intro members' hmem'
        obtain ⟨entry', hfill', -⟩ := exists_of_forall₂ hentries hentries hmem'
        rw [hfill']
        rfl
      · rw [hcall] at herror
        cases herror

end Call

/-- A number, if there are digits only. -/
def sampleStrtoui64 (text : List UInt8) : Except Status Nat :=
  if text ≠ [] ∧ text.all isDigit = true then .ok (digitsOf text) else .error .invalidArg

def sampleServers : List UInt8 :=
  bytesOf ("\x7b\"IceServerList\":[\x7b\"Username\":\"u\",\"Password\":\"p\",\"Ttl\":300," ++
    "\"Uris\":[\"turn:a\",\"turn:b\"]\x7d,\x7b\"Ttl\":60\x7d]\x7d")

def sampleServersRoot : Json :=
  .object ⟨0, 99⟩ [(⟨2, 15⟩, .array ⟨17, 98⟩
    [.object ⟨18, 86⟩ [(⟨20, 28⟩, .string ⟨31, 32⟩), (⟨35, 43⟩, .string ⟨46, 47⟩),
      (⟨50, 53⟩, .primitive ⟨55, 58⟩),
      (⟨60, 64⟩, .array ⟨66, 85⟩ [.string ⟨68, 74⟩, .string ⟨77, 83⟩])],
    .object ⟨87, 97⟩ [(⟨89, 92⟩, .primitive ⟨94, 96⟩)]])]

/-- The seconds of a server, if there are less than an hour of them. -/
theorem ServerFits.of_seconds {members : List (Place × Json)} {n : Nat}
    (hseconds : sampleStrtoui64 (fieldText response (memberFields response members) .ttl) = .ok n)
    (hn : n < 3600) (huris : uriSum (memberFields response members) =
      (fieldUris response (memberFields response members)).length) :
    ServerFits sampleStrtoui64 response members := by
  refine ⟨fun _ seconds h => ?_, huris⟩
  obtain rfl := Except.ok.inj (hseconds.symm.trans h)
  rw [hundredsOfNanosInASecond]
  omega

theorem parsesServers_sample :
    ParsesServers sampleLibrary sampleStrtoui64 sampleServers 100 2 0 sampleServersRoot := by
  have hparse : jsmnParse 100 (chars sampleServers) = .ok sampleServersRoot.tokens := by
    decide +kernel
  refine (parsesServers_iff (by decide) fun tokens htokens => ?_).mpr
    ⟨fun _ => rfl, fun _ => ?_, fun _ _ => ?_⟩
  · exact Except.ok.inj (htokens.symm.trans hparse)
  · refine (scanReads_eq_iff _ ?_ 0).mp (by decide +kernel)
    rintro token mark hmem rfl
    exact isObject_of_mem_rootMarks hmem
  · have hlisted : listedServers sampleServers 2 sampleServersRoot =
        [[(⟨20, 28⟩, .string ⟨31, 32⟩), (⟨35, 43⟩, .string ⟨46, 47⟩),
        (⟨50, 53⟩, .primitive ⟨55, 58⟩),
          (⟨60, 64⟩, .array ⟨66, 85⟩ [.string ⟨68, 74⟩, .string ⟨77, 83⟩])],
        [(⟨89, 92⟩, .primitive ⟨94, 96⟩)]] := rfl
    rw [hlisted, List.forall_mem_cons, List.forall_mem_singleton]
    constructor
    · exact .of_seconds (n := 300) (by decide +kernel) (by decide) (by decide +kernel)
    · exact .of_seconds (n := 60) (by decide +kernel) (by decide) (by decide +kernel)

/-- **A member behind the list** is taken for one of a server: where there is none, the entry before
the first one is written.  An object in a server is taken for another server, and a value for a
key. -/
theorem member_behind_list :
    (parseIceConfigResponse sampleLibrary sampleStrtoui64
        (bytesOf "\x7b\"IceServerList\":[],\"Username\":\"b\"\x7d") 100 2 0).1 = .error
          .outOfBounds ∧
      (parseIceConfigResponse sampleLibrary sampleStrtoui64
        (bytesOf "\x7b\"IceServerList\":[\x7b\"x\":\x7b\x7d\x7d]\x7d") 100 2 0).2 = 2 ∧
      (parseIceConfigResponse sampleLibrary sampleStrtoui64
        (bytesOf "\x7b\"IceServerList\":[\x7b\"a\":\"Username\"\x7d]\x7d") 100 2 0).1 = .error
          .outOfBounds ∧
      ¬ ∀ response root, jsmnParse 100 (chars response) = .ok root.tokens →
        ParsesServers sampleLibrary sampleStrtoui64 response 100 2 0 root := by
  have hcall : (parseIceConfigResponse sampleLibrary sampleStrtoui64
      (bytesOf "\x7b\"IceServerList\":[],\"Username\":\"b\"\x7d") 100 2 0).1 =
      .error .outOfBounds := by
    decide +kernel
  refine ⟨hcall, by decide +kernel, by decide +kernel, fun h => ?_⟩
  exact (h _ (.object ⟨0, 35⟩ [(⟨2, 15⟩, .array ⟨17, 19⟩ []), (⟨21, 29⟩, .string ⟨32, 33⟩)])
    (by decide +kernel)).inside hcall

end KvsWebrtc.Signaling
