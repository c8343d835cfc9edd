import KvsWebrtc.Signaling.IceConfigResponse
import KvsWebrtc.Signaling.Equiv.ReceivedMessage

/-!
# The tokens of an ICE configuration

`parseIceConfigResponse` walks over all tokens of a response and never learns where the list or an
object ends.  What it takes each token for is a matter of the token and those behind it
(`classify`), and the loop does what the tokens that it takes for something ask for
(`readIceConfigs_eq`).  Where it is known what the tokens are, the loop reads what it should exactly
if, as far as it gets, it takes every token for what it is (`scanReads_eq_iff`).
-/

namespace KvsWebrtc.Signaling

open Jsmn
open Relay (bytesOf cString)

/-! ### What a token is taken for -/

/-- What a token stands for: the list with the token of its value, a server, or a key with the
tokens of its value. -/
inductive IceMark
  | list (value : Option JsmnToken)
  | server
  | field (key : IceConfigKey) (values : List JsmnToken)
deriving DecidableEq

/-- A token that stands for something, with the number of the tokens behind it. -/
structure IceRead where
  behind : Nat
  mark : IceMark
deriving DecidableEq

def valueTokens (key : IceConfigKey) : List JsmnToken → List JsmnToken
  | [] => []
  | value :: tokens =>
    value ::
      if key = .uris ∧ value.type = .array ∧ value.size ≤ maxIceConfigUriCount then
        tokens.take value.size
      else []

section Reads

variable (lib : Library) (strtoui64 : List UInt8 → Except Status Nat) (response : List UInt8)

def classify (room : Option Nat) (token : JsmnToken) (tokens : List JsmnToken) : Option IceMark :=
  if room.isSome then
    if token.type = .object then some .server
    else (iceConfigKeyOf lib response token).map fun key => .field key (valueTokens key tokens)
  else if lib.compareJsonString response token .string "IceServerList" then
  some (.list tokens.head?)
  else none

def applyMark (iceConfigs : List IceConfigEntry) : IceMark → Except Failure (List IceConfigEntry)
  | .list none => .error .outOfBounds
  | .list (some value) =>
    if value.type = .array then .ok iceConfigs else .error (.status .invalidApiCallReturnJson)
  | .server => .ok (emptyIceConfig :: iceConfigs)
  | .field key values => readIceConfigValue strtoui64 response key values iceConfigs

/-- The value of a key can be read into an entry. -/
def isReadable (key : IceConfigKey) (values : List JsmnToken) : Bool :=
  (readIceConfigValue strtoui64 response key values [emptyIceConfig]).isOk

/-- How the loop goes on behind a mark: the room for servers, and the tokens that it passes. -/
def IceMark.next (maxIceConfigs : Nat) (room : Option Nat) : IceMark → Option (Option Nat × Nat)
  | .list value => if value.any (·.type = .array) then some (some maxIceConfigs, 0) else none
  | .server => some (room.map (· - 1), 0)
  | .field key values => if isReadable strtoui64 response key values then some (room, values.length)
    else none

def endsAt (room : Option Nat) (mark : IceMark) : Bool := room = some 0 ∧ mark = .server

/-- The tokens that are taken for something, as far as the loop gets. -/
def scanReads (maxIceConfigs : Nat) (room : Option Nat) (skip : Nat) : List JsmnToken → List IceRead
  | [] => []
  | token :: tokens =>
    match skip with
    | skip + 1 => scanReads maxIceConfigs room skip tokens
    | 0 =>
      match classify lib response room token tokens with
      | none => scanReads maxIceConfigs room 0 tokens
      | some mark =>
        if endsAt room mark then []
        else
          ⟨tokens.length, mark⟩ ::
            match mark.next strtoui64 response maxIceConfigs room with
            | none => []
            | some (room, skip) => scanReads maxIceConfigs room skip tokens

end Reads

variable {lib : Library} {strtoui64 : List UInt8 → Except Status Nat} {response : List UInt8}

/-! ### What is done with a key -/

def uriTexts (response : List UInt8) : Nat → List JsmnToken → Except Failure (List (List UInt8))
  | 0, _ => .ok []
  | _ + 1, [] => .error .outOfBounds
  | count + 1, uri :: tokens =>
    if strLen uri ≤ maxIceConfigUriLen then (uriTexts response count tokens).map
      (copiedText response uri :: ·)
    else .error (.status .signalingMaxIceUriLen)

/-- URIs are put into an entry, from the `j`th on. -/
def putUris : Nat → List (List UInt8) → IceConfigEntry → IceConfigEntry
  | _, [], iceConfig => iceConfig
  | j, uri :: uris, iceConfig =>
    putUris (j + 1) uris
      { iceConfig with uris := iceConfig.uris.set j uri, uriCount := iceConfig.uriCount + 1 }

def valueChange (strtoui64 : List UInt8 → Except Status Nat) (response : List UInt8)
    (key : IceConfigKey) :
    List JsmnToken → Except Failure (IceConfigEntry → IceConfigEntry)
  | [] => .error .outOfBounds
  | value :: tokens =>
    match key with
    | .userName => (readString response value maxIceConfigUserNameLen).map fun userName iceConfig =>
      { iceConfig with userName := userName }
    | .password => (readString response value maxIceConfigCredentialLen).map
      fun password iceConfig =>
      { iceConfig with password := password }
    | .ttl => (readTtl strtoui64 response value).map fun ttl iceConfig =>
      { iceConfig with ttl := ttl }
    | .uris =>
      if value.type ≠ .array then .error (.status .invalidApiCallReturnJson)
      else if maxIceConfigUriCount < value.size then .error (.status .signalingMaxIceUriCount)
      else (uriTexts response value.size tokens).map (putUris 0)

theorem readUris_cons (count j : Nat) (tokens : List JsmnToken) (iceConfig : IceConfigEntry)
    (iceConfigs : List IceConfigEntry) :
    readUris response count j tokens (iceConfig :: iceConfigs) =
      (uriTexts response count tokens).map fun texts =>
        putUris j texts iceConfig :: iceConfigs := by
  induction count generalizing j tokens iceConfig with
  | zero => rfl
  | succ count ih =>
    cases tokens with
    | nil => rfl
    | cons uri tokens =>
      rw [readUris, uriTexts]
      split_ifs
      · show readUris response count (j + 1) tokens (_ :: iceConfigs) = _
        rw [ih]
        cases uriTexts response count tokens <;> rfl
      · rfl

/-- A value changes the entry that has been counted last. -/
theorem readIceConfigValue_cons (key : IceConfigKey) (tokens : List JsmnToken)
    (iceConfig : IceConfigEntry) (iceConfigs : List IceConfigEntry) :
    readIceConfigValue strtoui64 response key tokens (iceConfig :: iceConfigs) =
      (valueChange strtoui64 response key tokens).map fun change =>
        change iceConfig :: iceConfigs := by
  cases tokens with
  | nil => rfl
  | cons value tokens =>
    unfold readIceConfigValue valueChange
    cases key with
    | userName =>
      dsimp only
      cases readString response value maxIceConfigUserNameLen <;> rfl
    | password =>
      dsimp only
      cases readString response value maxIceConfigCredentialLen <;> rfl
    | ttl =>
      dsimp only
      cases readTtl strtoui64 response value <;> rfl
    | uris =>
      dsimp only
      split_ifs
      · rfl
      · rfl
      · rw [readUris_cons]
        cases uriTexts response value.size tokens <;> rfl

theorem isReadable_eq (key : IceConfigKey) (tokens : List JsmnToken) :
    isReadable strtoui64 response key tokens =
      (valueChange strtoui64 response key tokens).isOk := by
  rw [isReadable, readIceConfigValue_cons]
  cases valueChange strtoui64 response key tokens <;> rfl

/-- Where no entry has been counted, nothing but an empty array is read. -/
theorem isReadable_of_ok {key : IceConfigKey} {tokens : List JsmnToken}
    {iceConfigs iceConfigs' : List IceConfigEntry}
    (h : readIceConfigValue strtoui64 response key tokens iceConfigs = .ok iceConfigs') :
    isReadable strtoui64 response key tokens = true ∧ iceConfigs'.length = iceConfigs.length := by
  rw [isReadable_eq]
  cases iceConfigs with
  | cons iceConfig iceConfigs =>
    rw [readIceConfigValue_cons] at h
    cases hchange : valueChange strtoui64 response key tokens with
    | error e =>
      rw [hchange] at h
      cases h
    | ok change =>
      rw [hchange] at h
      obtain rfl := Except.ok.inj h
      exact ⟨rfl, rfl⟩
  | nil =>
    cases tokens with
    | nil => cases h
    | cons value tokens =>
      unfold readIceConfigValue at h
      unfold valueChange
      cases key with
      | userName =>
        obtain ⟨_, -, h⟩ := bind_eq_ok_iff.mp h
        cases h
      | password =>
        obtain ⟨_, -, h⟩ := bind_eq_ok_iff.mp h
        cases h
      | ttl =>
        obtain ⟨_, -, h⟩ := bind_eq_ok_iff.mp h
        cases h
      | uris =>
        dsimp only at h ⊢
        split_ifs at h ⊢
        cases hsize : value.size with
        | zero =>
          rw [hsize] at h
          obtain rfl := Except.ok.inj h
          exact ⟨rfl, rfl⟩
        | succ count =>
          rw [hsize] at h
          cases tokens with
          | nil => cases h
          | cons uri tokens =>
            rw [readUris] at h
            split_ifs at h
            cases h

/-! ### The tokens of a value -/

theorem readUris_take (count j : Nat) (tokens : List JsmnToken) (iceConfigs : List IceConfigEntry) :
    readUris response count j (tokens.take count) iceConfigs =
      readUris response count j tokens iceConfigs := by
  induction count generalizing j tokens iceConfigs with
  | zero => rfl
  | succ count ih =>
    cases tokens with
    | nil => rfl
    | cons uri tokens =>
      rw [List.take_succ_cons, readUris, readUris]
      simp only [ih]

theorem readIceConfigValue_valueTokens (key : IceConfigKey) (tokens : List JsmnToken)
    (iceConfigs : List IceConfigEntry) :
    readIceConfigValue strtoui64 response key (valueTokens key tokens) iceConfigs =
      readIceConfigValue strtoui64 response key tokens iceConfigs := by
  cases tokens with
  | nil => rfl
  | cons value tokens =>
    unfold valueTokens readIceConfigValue
    cases key with
    | uris =>
      dsimp only
      by_cases hvalue : value.type = .array ∧ value.size ≤ maxIceConfigUriCount
      · simp only [hvalue, Nat.not_lt.mpr hvalue.2, ne_eq, not_true, if_false, and_self, if_true,
          readUris_take]
      · rcases (not_and_or.mp hvalue).imp_right Nat.not_le.mp with htype | hsize
        · rw [if_pos htype, if_pos htype]
        · rw [if_pos hsize, if_pos hsize]
    | _ => rfl

theorem length_uriTexts {count : Nat} {tokens : List JsmnToken} {texts : List (List UInt8)}
    (h : uriTexts response count tokens = .ok texts) :
    count ≤ tokens.length ∧ texts.length = count := by
  induction count generalizing tokens texts with
  | zero =>
    obtain rfl := Except.ok.inj h
    exact ⟨Nat.zero_le _, rfl⟩
  | succ count ih =>
    cases tokens with
    | nil => cases h
    | cons uri tokens =>
      rw [uriTexts] at h
      split_ifs at h
      cases hrest : uriTexts response count tokens with
      | error e =>
        rw [hrest] at h
        cases h
      | ok texts' =>
        rw [hrest] at h
        obtain rfl := Except.ok.inj h
        obtain ⟨hle, hlength⟩ := ih hrest
        exact ⟨Nat.succ_le_succ hle, congrArg Nat.succ hlength⟩

theorem iceConfigSkip_eq {key : IceConfigKey} {tokens : List JsmnToken}
    (h : isReadable strtoui64 response key tokens = true) :
    iceConfigSkip key tokens = (valueTokens key tokens).length := by
  rw [isReadable_eq] at h
  cases tokens with
  | nil => cases h
  | cons value tokens =>
    cases key with
    | uris =>
      unfold valueChange at h
      dsimp only at h
      split_ifs at h with htype hsize
      · cases h
      · cases h
      · rw [valueTokens, if_pos ⟨rfl, not_not.mp htype, Nat.not_lt.mp hsize⟩]
        cases htexts : uriTexts response value.size tokens with
        | error e =>
          rw [htexts] at h
          cases h
        | ok texts =>
          rw [List.length_cons, List.length_take, Nat.min_eq_left (length_uriTexts htexts).1]
          rfl
    | _ => rfl

theorem isReadable_valueTokens (key : IceConfigKey) (tokens : List JsmnToken) :
    isReadable strtoui64 response key (valueTokens key tokens) =
      isReadable strtoui64 response key tokens := by
  rw [isReadable, readIceConfigValue_valueTokens, isReadable]

/-! ### The loop -/

def applyIceRead (strtoui64 : List UInt8 → Except Status Nat) (response : List UInt8)
    (iceConfigs : List IceConfigEntry) (read : IceRead) : Except Failure (List IceConfigEntry) :=
  applyMark strtoui64 response iceConfigs read.mark

/-- The room for servers behind those that have been counted. -/
def roomFor (maxIceConfigs : Nat) (jsonInIceServerList : Bool) (iceConfigs : List IceConfigEntry) :
    Option Nat :=
  if jsonInIceServerList then some (maxIceConfigs - iceConfigs.length) else none

section Scan

variable {maxIceConfigs : Nat} {room : Option Nat} {token : JsmnToken} {tokens : List JsmnToken}
    {mark : IceMark}

theorem scanReads_none (h : classify lib response room token tokens = none) :
    scanReads lib strtoui64 response maxIceConfigs room 0 (token :: tokens) =
      scanReads lib strtoui64 response maxIceConfigs room 0 tokens := by
  rw [scanReads]
  simp only [h]

theorem scanReads_ends (h : classify lib response room token tokens = some mark)
    (hends : endsAt room mark = true) :
    scanReads lib strtoui64 response maxIceConfigs room 0 (token :: tokens) = [] := by
  rw [scanReads]
  simp only [h, hends, if_true]

def scanNext (lib : Library) (strtoui64 : List UInt8 → Except Status Nat) (response : List UInt8)
    (maxIceConfigs : Nat) (tokens : List JsmnToken) : Option (Option Nat × Nat) → List IceRead
  | none => []
  | some (room, skip) => scanReads lib strtoui64 response maxIceConfigs room skip tokens

theorem scanReads_some (h : classify lib response room token tokens = some mark)
    (hends : endsAt room mark = false) :
    scanReads lib strtoui64 response maxIceConfigs room 0 (token :: tokens) =
      ⟨tokens.length, mark⟩ :: scanNext lib strtoui64 response maxIceConfigs tokens
        (mark.next strtoui64 response maxIceConfigs room) := by
  rw [scanReads]
  simp only [h, hends, Bool.false_eq_true, if_false]
  cases mark.next strtoui64 response maxIceConfigs room <;> rfl

end Scan

/-- **The loop over the tokens** does what the tokens that it takes for something ask for. -/
theorem readIceConfigs_eq {maxIceConfigs : Nat} {jsonInIceServerList : Bool}
    {iceConfigs : List IceConfigEntry} (hroom : iceConfigs.length ≤ maxIceConfigs)
    (hempty : jsonInIceServerList = false → iceConfigs = []) (skip : Nat)
    (tokens : List JsmnToken) :
    readIceConfigs lib strtoui64 response maxIceConfigs jsonInIceServerList skip tokens iceConfigs =
      (scanReads lib strtoui64 response maxIceConfigs
        (roomFor maxIceConfigs jsonInIceServerList iceConfigs) skip
        tokens).foldlM (applyIceRead strtoui64 response) iceConfigs := by
  induction tokens generalizing jsonInIceServerList iceConfigs skip with
  | nil => rfl
  | cons token tokens ih =>
    have hinside : ∀ iceConfigs : List IceConfigEntry, iceConfigs.length ≤ maxIceConfigs → ∀ skip,
        readIceConfigs lib strtoui64 response maxIceConfigs true skip tokens iceConfigs =
          (scanReads lib strtoui64 response maxIceConfigs (some (maxIceConfigs - iceConfigs.length))
          skip
            tokens).foldlM (applyIceRead strtoui64 response) iceConfigs :=
      fun iceConfigs hroom skip => ih hroom (fun h => absurd h (by decide)) skip
    cases skip with
    | succ skip =>
      rw [readIceConfigs, scanReads]
      exact ih hroom hempty skip
    | zero =>
      rw [readIceConfigs]
      cases jsonInIceServerList with
      | false =>
        obtain rfl := hempty rfl
        rw [if_neg Bool.false_ne_true]
        by_cases hlist : lib.compareJsonString response token .string "IceServerList" = true
        · have hmark : classify lib response none token tokens = some (.list tokens.head?) := by
            simp [classify, hlist]
          rw [if_pos hlist, roomFor, if_neg Bool.false_ne_true, scanReads_some hmark rfl,
            List.foldlM_cons, applyIceRead, IceMark.next]
          cases tokens.head? with
          | none => rfl
          | some value =>
            dsimp only
            rw [applyMark]
            by_cases harray : value.type = .array
            · rw [if_pos harray, if_pos harray, hinside [] hroom 0]
              simp only [Option.any_some, harray, decide_true, if_true]
              rfl
            · rw [if_neg harray, if_neg harray]
              rfl
        · have hmark : classify lib response none token tokens = none := by simp [classify, hlist]
          rw [if_neg hlist, roomFor, if_neg Bool.false_ne_true, scanReads_none hmark]
          exact ih hroom hempty 0
      | true =>
        rw [if_pos rfl, roomFor, if_pos rfl]
        by_cases hobject : token.type = .object
        · have hmark : classify lib response (some (maxIceConfigs - iceConfigs.length)) token
              tokens =
              some .server := by
            simp [classify, hobject]
          rw [if_pos hobject]
          by_cases hfull : maxIceConfigs < iceConfigs.length + 1
          · have hends : endsAt (some (maxIceConfigs - iceConfigs.length)) .server = true := by
              simp [endsAt]
              omega
            rw [if_pos hfull, scanReads_ends hmark hends]
            rfl
          · have hends : endsAt (some (maxIceConfigs - iceConfigs.length)) .server = false := by
              simp [endsAt]
              omega
            rw [if_neg hfull, scanReads_some hmark hends, List.foldlM_cons,
              hinside (emptyIceConfig :: iceConfigs) (Nat.le_of_not_lt hfull) 0]
            rfl
        · rw [if_neg hobject]
          cases hkey : iceConfigKeyOf lib response token with
          | none =>
            have hmark : classify lib response (some (maxIceConfigs - iceConfigs.length)) token
                tokens = none := by
              simp [classify, hobject, hkey]
            rw [scanReads_none hmark]
            exact hinside iceConfigs hroom 0
          | some key =>
            have hmark : classify lib response (some (maxIceConfigs - iceConfigs.length)) token
                tokens =
                some (.field key (valueTokens key tokens)) := by
              simp [classify, hobject, hkey]
            have hends : endsAt (some (maxIceConfigs - iceConfigs.length))
                (.field key (valueTokens key tokens)) =
                false := by
              simp [endsAt]
            rw [scanReads_some hmark hends, List.foldlM_cons, applyIceRead, applyMark,
              readIceConfigValue_valueTokens, IceMark.next, isReadable_valueTokens]
            dsimp only
            cases hread : readIceConfigValue strtoui64 response key tokens iceConfigs with
            | error e => rfl
            | ok iceConfigs' =>
              obtain ⟨hreadable, hlength⟩ := isReadable_of_ok hread
              rw [if_pos hreadable, ← iceConfigSkip_eq hreadable, ← hlength]
              exact hinside iceConfigs' (hlength.trans_le hroom) _

/-! ### What the tokens are -/

section Marks

variable (lib : Library) (strtoui64 : List UInt8 → Except Status Nat) (response : List UInt8)

def markedReads (maxIceConfigs : Nat) (room : Option Nat) (skip : Nat) :
    List (JsmnToken × Option IceMark) → List IceRead
  | [] => []
  | (_, mark) :: marks =>
    match skip with
    | skip + 1 => markedReads maxIceConfigs room skip marks
    | 0 =>
      match mark with
      | none => markedReads maxIceConfigs room 0 marks
      | some mark =>
        if endsAt room mark then []
        else
          ⟨marks.length, mark⟩ ::
            match mark.next strtoui64 response maxIceConfigs room with
            | none => []
            | some (room, skip) => markedReads maxIceConfigs room skip marks

/-- As far as the loop gets, every token is taken for what it is.  An object for which there is no
room ends the loop, whatever it is, so that nothing may be left to read. -/
def Agrees (maxIceConfigs : Nat) (room : Option Nat) (skip : Nat) : List
    (JsmnToken × Option IceMark) → Prop
  | [] => True
  | (token, mark) :: marks =>
    match skip with
    | skip + 1 => Agrees maxIceConfigs room skip marks
    | 0 =>
      match classify lib response room token (marks.map Prod.fst) with
      | none => mark = none ∧ Agrees maxIceConfigs room 0 marks
      | some taken =>
        if endsAt room taken then markedReads strtoui64 response maxIceConfigs room 0
          ((token, mark) :: marks) = []
        else
          mark = some taken ∧
            match taken.next strtoui64 response maxIceConfigs room with
            | none => True
            | some (room, skip) => Agrees maxIceConfigs room skip marks

end Marks

section Agree

variable {maxIceConfigs : Nat} {room : Option Nat}

def markedNext (strtoui64 : List UInt8 → Except Status Nat) (response : List UInt8)
    (maxIceConfigs : Nat) (marks : List (JsmnToken × Option IceMark)) : Option (Option Nat × Nat) →
      List IceRead
  | none => []
  | some (room, skip) => markedReads strtoui64 response maxIceConfigs room skip marks

theorem markedReads_none (token : JsmnToken) (marks : List (JsmnToken × Option IceMark)) :
    markedReads strtoui64 response maxIceConfigs room 0 ((token, none) :: marks) =
      markedReads strtoui64 response maxIceConfigs room 0 marks := rfl

theorem markedReads_some (token : JsmnToken) (mark : IceMark)
    (marks : List (JsmnToken × Option IceMark)) :
    markedReads strtoui64 response maxIceConfigs room 0 ((token, some mark) :: marks) =
      if endsAt room mark then []
      else
        ⟨marks.length, mark⟩ ::
          markedNext strtoui64 response maxIceConfigs marks
          (mark.next strtoui64 response maxIceConfigs room) := by
  rw [markedReads]
  cases mark.next strtoui64 response maxIceConfigs room <;> rfl

theorem scanReads_behind (skip : Nat) (tokens : List JsmnToken) :
    ∀ read ∈ scanReads lib strtoui64 response maxIceConfigs room skip tokens,
      read.behind < tokens.length := by
  induction tokens generalizing room skip with
  | nil =>
    intro read hread
    cases hread
  | cons token tokens ih =>
    intro read hread
    rw [List.length_cons]
    cases skip with
    | succ skip =>
      rw [scanReads] at hread
      exact Nat.lt_succ_of_lt (ih skip read hread)
    | zero =>
      cases hmark : classify lib response room token tokens with
      | none =>
        rw [scanReads_none hmark] at hread
        exact Nat.lt_succ_of_lt (ih 0 read hread)
      | some mark =>
        cases hends : endsAt room mark with
        | true =>
          rw [scanReads_ends hmark hends] at hread
          cases hread
        | false =>
          rw [scanReads_some hmark hends] at hread
          rcases List.mem_cons.mp hread with rfl | hread
          · exact Nat.lt_succ_self _
          · cases hnext : mark.next strtoui64 response maxIceConfigs room with
            | none =>
              rw [hnext] at hread
              cases hread
            | some next =>
              rw [hnext] at hread
              exact Nat.lt_succ_of_lt (ih next.2 read hread)

theorem markedReads_behind (skip : Nat) (marks : List (JsmnToken × Option IceMark)) :
    ∀ read ∈ markedReads strtoui64 response maxIceConfigs room skip marks,
      read.behind < marks.length := by
  induction marks generalizing room skip with
  | nil =>
    intro read hread
    cases hread
  | cons mark marks ih =>
    obtain ⟨token, mark⟩ := mark
    intro read hread
    rw [List.length_cons]
    cases skip with
    | succ skip =>
      rw [markedReads] at hread
      exact Nat.lt_succ_of_lt (ih skip read hread)
    | zero =>
      cases mark with
      | none =>
        exact Nat.lt_succ_of_lt (ih 0 read hread)
      | some mark =>
        rw [markedReads_some] at hread
        split_ifs at hread
        · cases hread
        · rcases List.mem_cons.mp hread with rfl | hread
          · exact Nat.lt_succ_self _
          · cases hnext : mark.next strtoui64 response maxIceConfigs room with
            | none =>
              rw [hnext] at hread
              cases hread
            | some next =>
              rw [hnext] at hread
              exact Nat.lt_succ_of_lt (ih next.2 read hread)

/-- **The loop takes the tokens for what they are** exactly if it agrees with the marks. -/
theorem scanReads_eq_iff (marks : List (JsmnToken × Option IceMark))
    (hserver : ∀ token mark, (token, some mark) ∈ marks → mark = .server → token.type = .object)
    (skip : Nat) :
    scanReads lib strtoui64 response maxIceConfigs room skip (marks.map Prod.fst) =
        markedReads strtoui64 response maxIceConfigs room skip marks ↔
      Agrees lib strtoui64 response maxIceConfigs room skip marks := by
  induction marks generalizing room skip with
  | nil => exact iff_of_true rfl trivial
  | cons mark marks ih =>
    obtain ⟨token, mark⟩ := mark
    have hrest : ∀ token mark, (token, some mark) ∈ marks → mark = .server → token.type = .object :=
      fun token mark h => hserver token mark (List.mem_cons_of_mem _ h)
    have hlength : (marks.map Prod.fst).length = marks.length := List.length_map _
    rw [List.map_cons]
    cases skip with
    | succ skip =>
      rw [scanReads, markedReads, Agrees]
      exact ih hrest skip
    | zero =>
      rw [Agrees]
      cases hmark : classify lib response room token (marks.map Prod.fst) with
      | none =>
        rw [scanReads_none hmark]
        cases mark with
        | none => exact (ih hrest 0).trans (and_iff_right rfl).symm
        | some mark =>
          refine iff_of_false (fun heq => ?_) fun h => by cases h.1
          rw [markedReads_some] at heq
          split at heq
          · next hends =>
            -- a server is an object, and every object is taken for something
            obtain ⟨rfl, rfl⟩ := of_decide_eq_true hends
            have hobject := hserver token .server List.mem_cons_self rfl
            simp [classify, hobject] at hmark
          · have hlt := scanReads_behind 0 (marks.map Prod.fst) ⟨marks.length, mark⟩
              (heq ▸ List.mem_cons_self)
            exact absurd hlt (by rw [hlength]; exact Nat.lt_irrefl _)
      | some taken =>
        dsimp only
        cases hends : endsAt room taken with
        | true =>
          rw [scanReads_ends hmark hends, if_pos rfl]
          exact eq_comm
        | false =>
          rw [scanReads_some hmark hends, if_neg Bool.false_ne_true]
          cases mark with
          | none =>
            refine iff_of_false (fun heq => ?_) fun h => by cases h.1
            have hlt := markedReads_behind 0 marks ⟨(marks.map Prod.fst).length, taken⟩
              (heq ▸ List.mem_cons_self)
            exact absurd hlt (by rw [hlength]; exact Nat.lt_irrefl _)
          | some mark =>
            rw [markedReads_some]
            by_cases hsame : mark = taken
            · subst hsame
              rw [hends, if_neg Bool.false_ne_true, hlength, List.cons_inj_right, and_iff_right rfl]
              cases mark.next strtoui64 response maxIceConfigs room with
              | none => exact iff_of_true rfl trivial
              | some next => exact ih hrest next.2
            · refine iff_of_false (fun heq => ?_) fun h => hsame (Option.some.inj h.1)
              split at heq
              · cases heq
              · exact hsame (congrArg IceRead.mark (List.cons.inj heq).1).symm

end Agree

end KvsWebrtc.Signaling
