import KvsWebrtc.Common.Run
import KvsWebrtc.PeerConnection.Jsmn
import KvsWebrtc.Signaling.Equiv.SendMessage

/-!
# Keys among the tokens of a message

`parseSignalingMessage` compares one token after another with its keys, whatever the token is part
of, until it refuses a value.  So the tokens that it takes for keys are those of the members exactly
if no other one that it gets to is spelled like a key (`messageReads_iff`).
-/

namespace KvsWebrtc.Signaling

open Jsmn
open Relay (bytesOf cString)

/-! ### Tokens that are taken for keys -/

/-- A token that is taken for a key, with the number of the tokens behind it and the token of its
value. -/
structure KeyRead where
  behind : Nat
  key : MessageKey
  value : Option JsmnToken
deriving DecidableEq

section Reads

variable (lib : Library) (message : List UInt8)

/-- The key that a token is taken for, before or behind a `statusResponse`. -/
def keyAt (answered : Bool) (token : JsmnToken) : Option MessageKey :=
  MessageParse.keyOf lib message ⟨emptyMessage, false, answered⟩ token

def keyReads : Bool → List JsmnToken → List KeyRead
  | _, [] => []
  | answered, [token] =>
    match keyAt lib message answered token with
    | none => []
    | some key => [⟨0, key, none⟩]
  | answered, token :: value :: tokens =>
    match keyAt lib message answered token with
    | none => keyReads answered (value :: tokens)
    | some key => ⟨tokens.length + 1, key, some value⟩ :: keyReads (answered || key =
      .statusResponse) tokens

def applyRead (parse : MessageParse) (read : KeyRead) : Except Failure MessageParse :=
  match read.value with
  | some value => parse.readValue lib message read.key value
  | none =>
    if read.key = .statusResponse then .ok { parse with parsedStatusResponse := true }
      else .error .outOfBounds

end Reads

variable {lib : Library} {message : List UInt8} {answered : Bool} {token : JsmnToken}
    {key : MessageKey}

theorem keyAt_eq (parse : MessageParse) (token : JsmnToken) :
    parse.keyOf lib message token = keyAt lib message parse.parsedStatusResponse token := rfl

theorem keyReads_none (h : keyAt lib message answered token = none) (tokens : List JsmnToken) :
    keyReads lib message answered (token :: tokens) = keyReads lib message answered tokens := by
  cases tokens with
  | nil => simp only [keyReads, h]
  | cons value tokens => rw [keyReads, h]

theorem keyReads_some (h : keyAt lib message answered token = some key) (value : JsmnToken)
    (tokens : List JsmnToken) :
    keyReads lib message answered (token :: value :: tokens) =
      ⟨tokens.length + 1, key, some value⟩ ::
        keyReads lib message (answered || key = .statusResponse) tokens := by
  rw [keyReads, h]

theorem readValue_answered {parse parse' : MessageParse} {value : JsmnToken}
    (h : parse.readValue lib message key value = .ok parse') :
    parse'.parsedStatusResponse = (parse.parsedStatusResponse || key = .statusResponse) := by
  cases key with
  | statusResponse =>
    obtain rfl := Except.ok.inj h
    simp
  | messageType =>
    rw [MessageParse.readValue] at h
    split_ifs at h
    obtain rfl := Except.ok.inj h
    simp
  | _ =>
    obtain ⟨_, -, h⟩ := bind_eq_ok_iff.mp h
    obtain rfl := Except.ok.inj h
    simp

/-- **The loop over the tokens** does what is to be done with the keys, in order. -/
theorem readMembers_eq (tokens : List JsmnToken) (parse : MessageParse) :
    readMembers lib message tokens parse =
      (keyReads lib message parse.parsedStatusResponse tokens).foldlM
      (applyRead lib message) parse := by
  fun_induction readMembers lib message tokens parse with
  | case1 parse => rfl
  | case2 token parse hkey =>
    rw [keyAt_eq] at hkey
    rw [keyReads_none hkey]
    rfl
  | case3 token parse hkey =>
    rw [keyAt_eq] at hkey
    rw [keyReads, hkey]
    rfl
  | case4 token parse key hkey hne =>
    rw [keyAt_eq] at hne
    rw [keyReads, hne]
    show _ = (if key = .statusResponse then _ else _) >>= _
    rw [if_neg hkey]
    rfl
  | case5 token value tokens parse hkey ih =>
    rw [keyAt_eq] at hkey
    rw [keyReads_none hkey, ih]
  | case6 token value tokens parse key hkey e hread =>
    rw [keyAt_eq] at hkey
    rw [keyReads_some hkey, List.foldlM_cons]
    show _ = parse.readValue lib message key value >>= _
    rw [hread]
    rfl
  | case7 token value tokens parse key hkey parse' hread ih =>
    rw [keyAt_eq] at hkey
    rw [keyReads_some hkey, List.foldlM_cons]
    show _ = parse.readValue lib message key value >>= _
    rw [hread, ih, readValue_answered hread]
    rfl

/-! ### Members -/

def messageKeys (answered : Bool) : List MessageKey :=
  [.senderClientId, .messageType, .messagePayload] ++ if answered then [] else [.statusResponse]

def statusKeys : List MessageKey := [.correlationId, .errorType, .statusCode, .description]

section Members

variable (message : List UInt8)

def memberName (key : Place) : List UInt8 := (message.drop key.start).take (key.finish - key.start)

def named (keys : List MessageKey) (key : Place) : Option MessageKey :=
  keys.find? fun k => memberName message key = bytesOf k.name

/-- The members of a status response that have one of its names; `behind` tokens follow. -/
def statusReads (behind : Nat) : List (Place × Json) → List KeyRead
  | [] => []
  | (key, value) :: members =>
    match named message statusKeys key with
    | none => statusReads behind members
    | some k =>
      ⟨value.inner.length + ((Json.memberTokens members).length + behind) + 1, k,
      some value.token⟩ :: statusReads behind members

/-- The members of a message that have one of its names, and the members of its first
`statusResponse`. -/
def messageReads : Bool → List (Place × Json) → List KeyRead
  | _, [] => []
  | answered, (key, value) :: members =>
    let behind := (Json.memberTokens members).length
    match named message (messageKeys answered) key with
    | none => messageReads answered members
    | some k =>
      ⟨value.inner.length + behind + 1, k, some value.token⟩ ::
        ((if k = .statusResponse then statusReads message behind value.members else []) ++
          messageReads (answered || k = .statusResponse) members)

end Members

/-! ### No other keys -/

section MessageClean

variable (lib : Library) (message : List UInt8)

def doneReads : MessageParse → List KeyRead → List KeyRead := reachedBy (applyRead lib message)

def Silent (answered : Bool) (tokens : List JsmnToken) : Prop :=
  ∀ token ∈ tokens, keyAt lib message answered token = none

/-- Nothing in the members of a status response is taken for a key, except for their keys, up to the
first value that is refused. -/
def StatusClean : MessageParse → List (Place × Json) → Prop
  | _, [] => True
  | parse, (key, value) :: members =>
    match named message statusKeys key with
    | none =>
      Silent lib message true (key.token .string 1 :: value.tokens) ∧ StatusClean parse members
    | some k =>
      ∀ parse', parse.readValue lib message k value.token = .ok parse' →
        Silent lib message true value.inner ∧ StatusClean parse' members

/-- Nothing in a status response is taken for a key, except for the keys of its members. -/
def ResponseClean (parse : MessageParse) : Json → Prop
  | .object _ members => StatusClean lib message parse members
  | value => Silent lib message true value.inner

/-- Nothing in the members of a message is taken for a key, except for their keys, up to the first
value that is refused. -/
def MessageClean : MessageParse → List (Place × Json) → Prop
  | _, [] => True
  | parse, (key, value) :: members =>
    let answered := parse.parsedStatusResponse
    match named message (messageKeys answered) key with
    | none =>
      Silent lib message answered (key.token .string 1 :: value.tokens) ∧ MessageClean parse members
    | some k =>
      ∀ parse', parse.readValue lib message k value.token = .ok parse' →
        if k = .statusResponse then
          let reads := statusReads message (Json.memberTokens members).length value.members
          ResponseClean lib message parse' value ∧
            ∀ parse'', reads.foldlM (applyRead lib message) parse' = .ok parse'' →
              MessageClean parse'' members
        else Silent lib message answered value.inner ∧ MessageClean parse' members

end MessageClean

variable {parse : MessageParse}

theorem keyReads_silent {tokens : List JsmnToken} (h : Silent lib message answered tokens)
    (rest : List JsmnToken) :
    keyReads lib message answered (tokens ++ rest) = keyReads lib message answered rest := by
  induction tokens with
  | nil => rfl
  | cons token tokens ih =>
    obtain ⟨htoken, htokens⟩ := List.forall_mem_cons.mp h
    rw [List.cons_append, keyReads_none htoken, ih htokens]

theorem keyReads_loud {tokens : List JsmnToken} (h : ¬ Silent lib message answered tokens)
    (rest : List JsmnToken) :
    ∃ read reads, keyReads lib message answered (tokens ++ rest) = read :: reads ∧
      rest.length ≤ read.behind := by
  induction tokens with
  | nil => exact absurd (fun _ => nofun) h
  | cons token tokens ih =>
    rw [List.cons_append]
    cases hkey : keyAt lib message answered token with
    | none =>
      rw [keyReads_none hkey]
      exact ih fun htokens => h (List.forall_mem_cons.mpr ⟨hkey, htokens⟩)
    | some key =>
      cases hrest : tokens ++ rest with
      | nil =>
        refine ⟨⟨0, key, none⟩, [], by simp [keyReads, hkey], ?_⟩
        rw [(List.append_eq_nil_iff.mp hrest).2]
        exact Nat.le_refl 0
      | cons value behind =>
        refine ⟨_, _, keyReads_some hkey value behind, ?_⟩
        have hlen := congrArg List.length hrest
        rw [List.length_append, List.length_cons] at hlen
        show rest.length ≤ behind.length + 1
        omega

/-- Behind tokens that are no keys of members, the reads of members are those of the rest if the
tokens are silent. -/
theorem doneReads_append_iff {reads : List KeyRead} {rest : List JsmnToken}
    (hreads : ∀ read ∈ reads, read.behind < rest.length) (tokens : List JsmnToken) :
    doneReads lib message parse (keyReads lib message answered (tokens ++ rest)) =
        doneReads lib message parse reads ↔
      Silent lib message answered tokens ∧
        doneReads lib message parse (keyReads lib message answered rest) =
          doneReads lib message parse reads := by
  by_cases hsilent : Silent lib message answered tokens
  · rw [keyReads_silent hsilent, and_iff_right hsilent]
  · refine iff_of_false (fun h => ?_) fun h => hsilent h.1
    -- the first read stands in front of the rest, and it is done
    obtain ⟨read, others, heq, hle⟩ := keyReads_loud hsilent rest
    obtain ⟨done, hdone⟩ := exists_reachedBy_cons (applyRead lib message) parse read others
    have hmem : read ∈ doneReads lib message parse reads := by
      rw [← h, heq, doneReads, hdone]
      exact List.mem_cons_self
    exact Nat.not_lt.mpr hle (hreads read (reachedBy_subset parse reads hmem))

theorem length_memberTokens_cons (key : Place) (value : Json) (members : List (Place × Json)) :
    (Json.memberTokens ((key, value) :: members)).length =
      value.inner.length + (Json.memberTokens members).length + 2 := by
  simp [Json.memberTokens]

theorem exists_memberTokens_cons {member : Place × Json} {members : List (Place × Json)}
    {o : Option JsmnToken} (h : ∃ v ∈ Json.memberTokens members, o = some v) :
    ∃ v ∈ Json.memberTokens (member :: members), o = some v := by
  obtain ⟨v, hv, ho⟩ := h
  exact ⟨v, by simp [Json.memberTokens, hv], ho⟩

theorem statusReads_behind (behind : Nat) (members : List (Place × Json)) :
    ∀ read ∈ statusReads message behind members, read.behind < (Json.memberTokens members).length +
      behind := by
  induction members with
  | nil => exact nofun
  | cons member members ih =>
    obtain ⟨key, value⟩ := member
    intro read hread
    rw [length_memberTokens_cons]
    rw [statusReads] at hread
    cases hname : named message statusKeys key with
    | none =>
      rw [hname] at hread
      have hlt := ih read hread
      omega
    | some k =>
      rw [hname] at hread
      rcases List.mem_cons.mp hread with rfl | hread
      · dsimp only
        omega
      · have hlt := ih read hread
        omega

theorem keyAt_named (hcompare : Compares lib) {keys : List MessageKey} {place : Place}
    (hname : named message keys place = some key)
    (hkeys : ∀ k ∈ keys, k ∈ MessageParse.keys ⟨emptyMessage, false, answered⟩) (size : Nat) :
    keyAt lib message answered (place.token .string size) = some key := by
  rw [named] at hname
  have hmem := List.mem_of_find?_eq_some hname
  have hfound := List.find?_some hname
  exact keyOf_eq hcompare rfl (of_decide_eq_true hfound) (hkeys key hmem)

theorem mem_keys_status {k : MessageKey} (h : k ∈ statusKeys) :
    k ∈ MessageParse.keys ⟨emptyMessage, false, true⟩ :=
  List.mem_append_right _ h

theorem mem_keys_message {k : MessageKey} (h : k ∈ messageKeys answered) :
    k ∈ MessageParse.keys ⟨emptyMessage, false, answered⟩ := by
  cases answered with
  | false => exact h
  | true => exact mem_keys _ (by simpa [messageKeys] using h)

theorem applyRead_answered {parse' : MessageParse} {behind : Nat} {value : JsmnToken}
    (h : applyRead lib message parse ⟨behind, key, some value⟩ = .ok parse') :
    parse'.parsedStatusResponse = (parse.parsedStatusResponse || key = .statusResponse) :=
  readValue_answered h

/-- A key and its value are read; what follows is read if the value is not refused. -/
theorem doneReads_key_iff {reads : List KeyRead} {value : JsmnToken} {tokens : List JsmnToken}
    (hkey : keyAt lib message answered token = some key) :
    doneReads lib message parse (keyReads lib message answered (token :: value :: tokens)) =
        doneReads lib message parse (⟨tokens.length + 1, key, some value⟩ :: reads) ↔
      ∀ parse', parse.readValue lib message key value = .ok parse' →
        doneReads lib message parse'
            (keyReads lib message (answered || key = .statusResponse) tokens) =
          doneReads lib message parse' reads := by
  rw [keyReads_some hkey]
  exact reachedBy_cons_iff

/-- **The members of a status response** are read exactly if no other token that is got to there is
taken for a key. -/
theorem statusReads_iff (hcompare : Compares lib) {rest : List JsmnToken} {reads : List KeyRead}
    (hreads : ∀ read ∈ reads, read.behind < rest.length) (members : List (Place × Json)) :
    doneReads lib message parse
          (keyReads lib message true (Json.memberTokens members ++ rest)) =
        doneReads lib message parse (statusReads message rest.length members ++ reads) ↔
      StatusClean lib message parse members ∧
        ∀ parse', (statusReads message rest.length members).foldlM (applyRead lib message) parse =
            .ok parse' →
          doneReads lib message parse' (keyReads lib message true rest) =
            doneReads lib message parse' reads := by
  induction members generalizing parse with
  | nil =>
    constructor
    · intro h
      refine ⟨trivial, fun parse' hparse' => ?_⟩
      obtain rfl := Except.ok.inj hparse'
      exact h
    · exact fun h => h.2 parse rfl
  | cons member members ih =>
    obtain ⟨key, value⟩ := member
    -- the reads of the members come before those of the rest
    have hbehind : ∀ read ∈ statusReads message rest.length members ++ reads,
        read.behind < (Json.memberTokens members ++ rest).length := by
      intro read hread
      rw [List.length_append]
      rcases List.mem_append.mp hread with hread | hread
      · exact statusReads_behind _ members read hread
      · exact Nat.lt_of_lt_of_le (hreads read hread) (Nat.le_add_left _ _)
    rw [StatusClean, Json.memberTokens, statusReads]
    cases hname : named message statusKeys key with
    | none =>
      have hsplit : key.token .string 1 :: value.token ::
            (value.inner ++ Json.memberTokens members) ++ rest =
          (key.token .string 1 :: value.tokens) ++ (Json.memberTokens members ++ rest) := by
        simp [Json.tokens]
      dsimp only
      rw [hsplit, doneReads_append_iff hbehind, ih, and_assoc]
    | some k =>
      have hkey := keyAt_named hcompare hname (fun _ => mem_keys_status) 1
      have hlen : value.inner.length + ((Json.memberTokens members).length + rest.length) + 1 =
          (value.inner ++ (Json.memberTokens members ++ rest)).length + 1 := by
        simp only [List.length_append]
      dsimp only
      rw [List.cons_append, List.cons_append, List.append_assoc, hlen, List.cons_append,
        doneReads_key_iff hkey, Bool.true_or]
      simp only [doneReads_append_iff hbehind, ih]
      constructor
      · intro h
        refine ⟨fun parse' hread => ⟨(h parse' hread).1, (h parse' hread).2.1⟩, ?_⟩
        intro parse'' hrun
        obtain ⟨parse', hread, hrest⟩ := foldlM_cons_ok hrun
        exact (h parse' hread).2.2 parse'' hrest
      · rintro ⟨hclean, hrest⟩ parse' hread
        refine ⟨(hclean parse' hread).1, (hclean parse' hread).2, fun parse'' hrun => ?_⟩
        refine hrest parse'' ?_
        rw [List.foldlM_cons]
        show parse.readValue lib message k value.token >>= _ = _
        rw [hread]
        exact hrun

theorem responseReads_iff (hcompare : Compares lib) {rest : List JsmnToken} {reads : List KeyRead}
    (hreads : ∀ read ∈ reads, read.behind < rest.length) (value : Json) :
    doneReads lib message parse (keyReads lib message true (value.inner ++ rest)) =
        doneReads lib message parse (statusReads message rest.length value.members ++ reads) ↔
      ResponseClean lib message parse value ∧
        ∀ parse', (statusReads message rest.length value.members).foldlM (applyRead lib message)
            parse = .ok parse' →
          doneReads lib message parse' (keyReads lib message true rest) =
            doneReads lib message parse' reads := by
  cases value with
  | object place members =>
    simp only [Json.inner]
    exact statusReads_iff hcompare hreads members
  | _ =>
    -- there are no members
    refine (doneReads_append_iff hreads _).trans (and_congr_right fun _ => ⟨?_, fun h => h _ rfl⟩)
    rintro h parse' hparse'
    obtain rfl := Except.ok.inj hparse'
    exact h

theorem foldlM_answered {behind : Nat} {members : List (Place × Json)} {parse' : MessageParse}
    (hanswered : parse.parsedStatusResponse = true)
    (h : (statusReads message behind members).foldlM (applyRead lib message) parse = .ok parse') :
    parse'.parsedStatusResponse = true := by
  induction members generalizing parse with
  | nil =>
    obtain rfl := Except.ok.inj h
    exact hanswered
  | cons member members ih =>
    obtain ⟨place, value⟩ := member
    rw [statusReads] at h
    cases hname : named message statusKeys place with
    | none =>
      rw [hname] at h
      exact ih hanswered h
    | some k =>
      rw [hname] at h
      obtain ⟨parse₁, hread, hrest⟩ := foldlM_cons_ok h
      refine ih ?_ hrest
      rw [applyRead_answered hread, hanswered, Bool.true_or]

theorem messageReads_behind (members : List (Place × Json)) :
    ∀ answered, ∀ read ∈ messageReads message answered members, read.behind <
      (Json.memberTokens members).length := by
  induction members with
  | nil => exact fun _ => nofun
  | cons member members ih =>
    obtain ⟨key, value⟩ := member
    intro answered read hread
    rw [length_memberTokens_cons]
    rw [messageReads] at hread
    cases hname : named message (messageKeys answered) key with
    | none =>
      rw [hname] at hread
      have hlt := ih answered read hread
      omega
    | some k =>
      rw [hname] at hread
      rcases List.mem_cons.mp hread with rfl | hread
      · dsimp only
        omega
      rcases List.mem_append.mp hread with hread | hread
      · split_ifs at hread
        · -- the members of the status response stand in the value
          have hlt := statusReads_behind _ _ read hread
          have hmembers : (Json.memberTokens value.members).length ≤ value.inner.length := by
            cases value <;> simp [Json.members, Json.inner, Json.memberTokens]
          omega
        · cases hread
      · have hlt := ih _ read hread
        omega

/-- **The members of a message** are read exactly if no other token that is got to is taken for a
key. -/
theorem messageReads_iff (hcompare : Compares lib) (members : List (Place × Json)) :
    ∀ parse : MessageParse,
      doneReads lib message parse
            (keyReads lib message parse.parsedStatusResponse (Json.memberTokens members)) =
          doneReads lib message parse (messageReads message parse.parsedStatusResponse members) ↔
        MessageClean lib message parse members := by
  induction members with
  | nil => exact fun parse => iff_of_true rfl trivial
  | cons member members ih =>
    obtain ⟨key, value⟩ := member
    intro parse
    rw [Json.memberTokens, messageReads, MessageClean]
    generalize hanswered : parse.parsedStatusResponse = answered
    cases hname : named message (messageKeys answered) key with
    | none =>
      have hsplit : key.token .string 1 :: value.token ::
            (value.inner ++ Json.memberTokens members) =
          (key.token .string 1 :: value.tokens) ++ Json.memberTokens members := by
        simp [Json.tokens]
      dsimp only
      rw [hsplit, doneReads_append_iff (messageReads_behind members answered), ← ih, hanswered]
    | some k =>
      have hkey := keyAt_named hcompare hname (fun _ => mem_keys_message) 1
      dsimp only
      rw [← List.length_append, doneReads_key_iff hkey]
      refine forall₂_congr fun parse' hread => ?_
      have hparse' := readValue_answered hread
      rw [hanswered] at hparse'
      by_cases hstatus : k = .statusResponse
      · simp only [hstatus, decide_true, Bool.or_true] at hparse'
        simp only [hstatus, if_true, decide_true, Bool.or_true]
        rw [responseReads_iff hcompare (messageReads_behind members true)]
        refine and_congr_right fun _ => forall₂_congr fun parse'' hrun => ?_
        rw [← ih, foldlM_answered hparse' hrun]
      · simp only [hstatus, decide_false, Bool.or_false] at hparse'
        simp only [hstatus, if_false, decide_false, Bool.or_false, List.nil_append]
        rw [doneReads_append_iff (messageReads_behind members answered), ← ih, hparse']

theorem statusReads_value (behind : Nat) (members : List (Place × Json)) :
    ∀ read ∈ statusReads message behind members, ∃ value ∈ Json.memberTokens members,
      read.value = some value := by
  induction members with
  | nil => exact nofun
  | cons member members ih =>
    obtain ⟨key, value⟩ := member
    intro read hread
    rw [statusReads] at hread
    cases hname : named message statusKeys key with
    | none =>
      rw [hname] at hread
      exact exists_memberTokens_cons (ih read hread)
    | some k =>
      rw [hname] at hread
      rcases List.mem_cons.mp hread with rfl | hread
      · exact ⟨value.token, by simp [Json.memberTokens], rfl⟩
      · exact exists_memberTokens_cons (ih read hread)

theorem messageReads_value (members : List (Place × Json)) :
    ∀ answered, ∀ read ∈ messageReads message answered members,
      ∃ value ∈ Json.memberTokens members, read.value = some value := by
  induction members with
  | nil => exact fun _ => nofun
  | cons member members ih =>
    obtain ⟨key, value⟩ := member
    intro answered read hread
    rw [messageReads] at hread
    cases hname : named message (messageKeys answered) key with
    | none =>
      rw [hname] at hread
      exact exists_memberTokens_cons (ih answered read hread)
    | some k =>
      rw [hname] at hread
      rcases List.mem_cons.mp hread with rfl | hread
      · exact ⟨value.token, by simp [Json.memberTokens], rfl⟩
      rcases List.mem_append.mp hread with hread | hread
      · split_ifs at hread
        · obtain ⟨v, hv, hread⟩ := statusReads_value _ _ read hread
          refine ⟨v, ?_, hread⟩
          have hinner : v ∈ value.inner := by
            cases value with
            | object place members =>
              rw [Json.inner]
              exact hv
            | _ => cases hv
          simp [Json.memberTokens, hinner]
        · cases hread
      · exact exists_memberTokens_cons (ih _ read hread)

end KvsWebrtc.Signaling
