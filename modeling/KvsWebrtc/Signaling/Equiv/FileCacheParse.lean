import KvsWebrtc.Signaling.Equiv.CString
import KvsWebrtc.Signaling.FileCache

/-!
# The lines of the cache file are read back

Every line that is shorter than the line buffer is read back (`Accepted.readEntry`), and so is a
file of such lines (`readCache_fileOf`), but for the roles and regions that `readBack` changes.
-/

namespace KvsWebrtc.Signaling

open Relay (bytesOf cString)

/-- What the platform's part of the cache is relied on for: `STRTOUI64` reads ten digits, and the
lengths are neither too short for a role nor too long for the size of a file. -/
structure CachePlatform.Lawful (platform : CachePlatform) : Prop where
  strtoui64 : ∀ n < 10 ^ 10, platform.strtoui64 (timestampStr n) = .ok n
  region : 6 ≤ platform.maxRegionNameLen
  small : maxSignalingCacheEntryCount * platform.maxSerializedSignalingCacheEntryLen < 2 ^ 32

def Clean (s : List UInt8) : Prop := comma ∉ s ∧ newline ∉ s ∧ 0 ∉ s

instance (s : List UInt8) : Decidable (Clean s) :=
  inferInstanceAs (Decidable (comma ∉ s ∧ newline ∉ s ∧ 0 ∉ s))

namespace SignalingFileCacheEntry

def strings (entry : SignalingFileCacheEntry) : List (List UInt8) :=
  [entry.channelName, entry.region, entry.channelArn, entry.httpsEndpoint, entry.wssEndpoint,
    entry.storageEnabled, entry.storageStreamArn, entry.webrtcEndpoint]

/-- An entry that `signalingCacheSaveToFile` accepts, within the declared lengths. -/
structure Accepted (platform : CachePlatform) (entry : SignalingFileCacheEntry) : Prop where
  complete : entry.incomplete = false
  channelName : entry.channelName.length ≤ maxChannelNameLen
  region : entry.region.length ≤ platform.maxRegionNameLen
  channelArn : entry.channelArn.length ≤ platform.maxArnLen
  httpsEndpoint : entry.httpsEndpoint.length ≤ maxSignalingEndpointUriLen
  wssEndpoint : entry.wssEndpoint.length ≤ maxSignalingEndpointUriLen
  storageEnabled : entry.storageEnabled.length ≤ 1
  storageStreamArn : entry.storageStreamArn.length ≤ platform.maxArnLen
  webrtcEndpoint : entry.webrtcEndpoint.length ≤ maxSignalingEndpointUriLen
  clean : ∀ s ∈ entry.strings, Clean s
  creationTsEpochSeconds : entry.creationTsEpochSeconds < 10 ^ 10

/-- What is read back of an entry: of a short region the end of the role shows, and every role but
the one of a master is the one of a viewer. -/
def readBack (entry : SignalingFileCacheEntry) : SignalingFileCacheEntry :=
  { entry with
    role := if entry.role = .master then .master else .viewer
    region := entry.region ++ entry.role.str.drop entry.region.length }

end SignalingFileCacheEntry

/-! ### Strings -/

def HasLine (s : List UInt8) : Prop := ∃ i, strchr newline s = some i

theorem hasLine_newline {s : List UInt8} (h : Clean s) (rest : List UInt8) :
    HasLine (s ++ newline :: rest) :=
  ⟨s.length, strchr_append_self h.2.1 h.2.2 rest⟩

theorem HasLine.comma {s rest : List UInt8} (hrest : HasLine rest) (h : Clean s) :
    HasLine (s ++ comma :: rest) := by
  obtain ⟨i, hi⟩ := hrest
  refine ⟨i + 1 + s.length, ?_⟩
  have hcomma : strchr newline (Signaling.comma :: rest) = some (i + 1) := by
    rw [strchr, if_neg (by decide), if_neg (by decide), hi]
    rfl
  rw [strchr_append h.2.1 h.2.2, hcomma]
  rfl

def OneLine (s : List UInt8) : Prop := ∃ body, s = body ++ [newline] ∧ newline ∉ body

theorem oneLine_newline {s : List UInt8} (h : Clean s) : OneLine (s ++ [newline]) :=
  ⟨s, rfl, h.2.1⟩

theorem OneLine.comma {s rest : List UInt8} (hrest : OneLine rest) (h : Clean s) :
    OneLine (s ++ comma :: rest) := by
  obtain ⟨body, rfl, hbody⟩ := hrest
  refine ⟨s ++ Signaling.comma :: body, by simp, ?_⟩
  rw [List.mem_append, List.mem_cons, not_or, not_or]
  exact ⟨h.2.1, by decide, hbody⟩

theorem clean_str (role : SignalingChannelRoleType) : Clean role.str := by
  cases role <;> refine ⟨?_, ?_, ?_⟩ <;> decide

theorem length_str (role : SignalingChannelRoleType) : role.str.length = 6 := by
  cases role <;> rfl

/-! ### The time stamp -/

theorem length_timestampStr {n : Nat} (h : n < 10 ^ 10) :
    (timestampStr n).length = maxSignalingCacheEntryTimestampStrLen := by
  have hle : (Nat.toDigits 10 n).length ≤ 10 :=
    (Nat.length_toDigits_le_iff (by decide) (by decide)).mpr h
  unfold timestampStr
  simp only [List.length_append, List.length_replicate, List.length_map,
    maxSignalingCacheEntryTimestampStrLen]
  omega

theorem clean_timestampStr (n : Nat) : Clean (timestampStr n) := by
  have hdigit : ∀ b ∈ timestampStr n, 48 ≤ b.toNat ∧ b.toNat ≤ 57 := by
    intro b hb
    unfold timestampStr at hb
    rcases List.mem_append.mp hb with hb | hb
    · obtain rfl := List.eq_of_mem_replicate hb
      decide
    · obtain ⟨c, hc, rfl⟩ := List.mem_map.mp hb
      have hdigit := Char.isDigit_iff_toNat.mp (Nat.isDigit_of_mem_toDigits (by decide)
        (by decide) hc)
      have h0 : '0'.toNat = 48 := rfl
      have h9 : '9'.toNat = 57 := rfl
      rw [UInt8.toNat_ofNat']
      omega
  refine ⟨fun h => ?_, fun h => ?_, fun h => ?_⟩ <;> exact absurd (hdigit _ h) (by decide)

/-! ### Reading one line -/

def cursorAt (entry : SignalingFileCacheEntry) (n : Nat) (current : List UInt8) : CacheCursor :=
  ⟨entry, n, current, UInt32.ofNat current.length⟩

theorem ofNat_length_sub (s rest : List UInt8) :
    UInt32.ofNat (s ++ rest).length - UInt32.ofNat s.length = UInt32.ofNat rest.length := by
  rw [List.length_append, Nat.add_comm, UInt32.ofNat_add]
  exact UInt32.add_sub_cancel _ _

section

variable {platform : CachePlatform} {fuel n i : Nat} {entry entry' : SignalingFileCacheEntry}
  {t rest : List UInt8}

theorem readTokens_token (hstore : storeToken platform entry (t ++ comma :: rest) t i = .ok entry')
    (hi : n % 10 = i) (ht : Clean t) (hrest : HasLine rest) :
    readTokens platform (fuel + 1) (cursorAt entry n (t ++ comma :: rest)) =
      readTokens platform fuel (cursorAt entry' (n + 1) rest) := by
  obtain ⟨nextLine, hnext⟩ := hrest
  have hline : strchr newline (t ++ comma :: rest) = some (nextLine + 1 + t.length) := by
    rw [strchr_append ht.2.1 ht.2.2, strchr, if_neg (by decide), if_neg (by decide), hnext]
    rfl
  have htoken : strchr comma (t ++ comma :: rest) = some t.length :=
    strchr_append_self ht.1 ht.2.2 rest
  have hsplit : t ++ comma :: rest = (t ++ [comma]) ++ rest := by simp
  have hlen : (t ++ [comma]).length = t.length + 1 := by simp
  rw [readTokens]
  unfold cursorAt
  dsimp only
  rw [hline, htoken]
  dsimp only
  rw [if_pos (by omega), List.take_left, hi, hstore]
  show readTokens platform fuel ⟨entry', n + 1, (t ++ comma :: rest).drop (t.length + 1),
    UInt32.ofNat (t ++ comma :: rest).length - UInt32.ofNat (t.length + 1)⟩ = _
  rw [hsplit, ← hlen, List.drop_left, ofNat_length_sub]

theorem readTokens_end (ht : Clean t) :
    readTokens platform fuel (cursorAt entry n (t ++ newline :: rest)) =
      .ok (cursorAt entry n (t ++ newline :: rest)) := by
  cases fuel with
  | zero => rfl
  | succ fuel =>
    have hline : strchr newline (t ++ newline :: rest) = some t.length :=
      strchr_append_self ht.2.1 ht.2.2 rest
    have htoken : strchr comma (t ++ newline :: rest) =
        (strchr comma rest).map (· + 1 + t.length) := by
      rw [strchr_append ht.1 ht.2.2, strchr, if_neg (by decide), if_neg (by decide), Option.map_map]
      rfl
    unfold readTokens cursorAt
    dsimp only
    rw [hline, htoken]
    cases strchr comma rest with
    | none => rfl
    | some j =>
      show (if j + 1 + t.length < t.length then _ else _) = _
      rw [if_neg (by omega)]

theorem copyToken_nil {limit : Nat} (h : t.length ≤ limit) : copyToken limit [] t = .ok t := by
  rw [copyToken, if_pos h, List.drop_nil, List.append_nil]

theorem storeToken_role (h : platform.Lawful) (hregion : entry.region = [])
    (role : SignalingChannelRoleType) :
    storeToken platform entry (role.str ++ comma :: rest) role.str 1 =
      .ok { entry with region := role.str, role := if role = .master then .master
        else .viewer } := by
  have hlen : role.str.length ≤ platform.maxRegionNameLen := by
    rw [length_str]
    exact h.region
  unfold storeToken
  rw [hregion, copyToken_nil hlen]
  cases role <;> rfl

end

namespace SignalingFileCacheEntry

variable {platform : CachePlatform} {entry : SignalingFileCacheEntry}

theorem Accepted.clean_strings (h : entry.Accepted platform) :
    Clean entry.channelName ∧ Clean entry.region ∧ Clean entry.channelArn ∧
      Clean entry.httpsEndpoint ∧
      Clean entry.wssEndpoint ∧ Clean entry.storageEnabled ∧ Clean entry.storageStreamArn ∧
        Clean entry.webrtcEndpoint := by
  simpa [strings] using h.clean

theorem Accepted.channelName_ne (h : entry.Accepted platform) : entry.channelName ≠ [] := by
  have hcomplete := h.complete
  unfold incomplete at hcomplete
  simp only [decide_eq_false_iff_not, not_or] at hcomplete
  exact hcomplete.2.1

theorem Accepted.region_ne (h : entry.Accepted platform) : entry.region ≠ [] := by
  have hcomplete := h.complete
  unfold incomplete at hcomplete
  simp only [decide_eq_false_iff_not, not_or] at hcomplete
  exact hcomplete.2.2.1

theorem Accepted.incomplete_readBack (h : entry.Accepted platform) :
    entry.readBack.incomplete = false := by
  have hcomplete := h.complete
  unfold incomplete readBack at *
  simp only [decide_eq_false_iff_not, not_or, List.append_eq_nil_iff, not_and_or] at hcomplete ⊢
  exact ⟨hcomplete.1, hcomplete.2.1, .inl hcomplete.2.2.1, hcomplete.2.2.2⟩

theorem serialize_append (entry : SignalingFileCacheEntry) (rest : List UInt8) :
    entry.serialize ++ rest =
      entry.channelName ++ comma :: (entry.role.str ++ comma :: (entry.region ++ comma ::
        (entry.channelArn ++ comma :: (entry.httpsEndpoint ++
          comma :: (entry.wssEndpoint ++ comma ::
          (entry.storageEnabled ++ comma :: (entry.storageStreamArn ++
            comma :: (entry.webrtcEndpoint ++
            comma :: (timestampStr entry.creationTsEpochSeconds ++ newline :: rest))))))))) := by
  simp [serialize]

theorem Accepted.readTokens_serialize (h : entry.Accepted platform) (hp : platform.Lawful)
    (fuel m : Nat) (rest : List UInt8) :
    readTokens platform (fuel + 9) (cursorAt .zero (10 * m) (entry.serialize ++ rest)) =
      .ok (cursorAt { entry.readBack with creationTsEpochSeconds := 0 } (10 * m + 9)
        (timestampStr entry.creationTsEpochSeconds ++ newline :: rest)) := by
  obtain ⟨hname, hregion, harn, hhttps, hwss, henabled, hstream, hwebrtc⟩ := h.clean_strings
  -- every token has the end of the line behind it
  have htimestamp := clean_timestampStr entry.creationTsEpochSeconds
  have line8 := hasLine_newline htimestamp rest
  have line7 := line8.comma hwebrtc
  have line6 := line7.comma hstream
  have line5 := line6.comma henabled
  have line4 := line5.comma hwss
  have line3 := line4.comma hhttps
  have line2 := line3.comma harn
  have line1 := line2.comma hregion
  have line0 := line1.comma (clean_str entry.role)
  rw [serialize_append]
  refine Eq.trans (readTokens_token (i := 0) (congrArg (Except.map _) (copyToken_nil h.channelName))
    (by omega)
    hname line0) ?_
  refine Eq.trans (readTokens_token (storeToken_role hp rfl entry.role) (by omega)
    (clean_str entry.role)
    line1) ?_
  refine Eq.trans (readTokens_token (i := 2) (congrArg (Except.map _) (if_pos h.region)) (by omega)
    hregion line2) ?_
  refine Eq.trans (readTokens_token (i := 3) (congrArg (Except.map _) (copyToken_nil h.channelArn))
    (by omega)
    harn line3) ?_
  refine Eq.trans (readTokens_token (i := 4) (congrArg (Except.map _)
    (copyToken_nil h.httpsEndpoint)) (by omega)
    hhttps line4) ?_
  refine Eq.trans (readTokens_token (i := 5) (congrArg (Except.map _) (copyToken_nil h.wssEndpoint))
    (by omega)
    hwss line5) ?_
  refine Eq.trans (readTokens_token (i := 6) (congrArg (Except.map _)
    (copyToken_nil h.storageEnabled)) (by omega)
    henabled line6) ?_
  refine Eq.trans (readTokens_token (i := 7) (congrArg (Except.map _)
    (copyToken_nil h.storageStreamArn)) (by omega)
    hstream line7) ?_
  refine Eq.trans (readTokens_token (i := 8) (congrArg (Except.map _)
    (copyToken_nil h.webrtcEndpoint)) (by omega)
    hwebrtc line8) ?_
  exact readTokens_end htimestamp

theorem Accepted.readTimestamp (h : entry.Accepted platform) (hp : platform.Lawful) (m : Nat)
    (rest : List UInt8) :
    Signaling.readTimestamp platform (cursorAt { entry.readBack with creationTsEpochSeconds := 0 }
      (10 * m + 9) (timestampStr entry.creationTsEpochSeconds ++ newline :: rest)) =
        .ok (cursorAt entry.readBack (10 * (m + 1)) rest) := by
  have hlen := length_timestampStr h.creationTsEpochSeconds
  have hsplit : timestampStr entry.creationTsEpochSeconds ++ newline :: rest =
      (timestampStr entry.creationTsEpochSeconds ++ [newline]) ++ rest := by simp
  have hlen' : (timestampStr entry.creationTsEpochSeconds ++ [newline]).length =
      maxSignalingCacheEntryTimestampStrLen + 1 := by
    rw [List.length_append, hlen]
    rfl
  unfold Signaling.readTimestamp cursorAt
  dsimp only
  rw [List.take_left' hlen, hp.strtoui64 _ h.creationTsEpochSeconds]
  show (if entry.readBack.incomplete = true then _ else _) = _
  rw [h.incomplete_readBack, if_neg (by simp), hsplit, List.drop_left' hlen', ← hlen',
    ofNat_length_sub]
  rfl

theorem Accepted.oneLine (h : entry.Accepted platform) : OneLine entry.serialize := by
  obtain ⟨hname, hregion, harn, hhttps, hwss, henabled, hstream, hwebrtc⟩ := h.clean_strings
  have hend := oneLine_newline (clean_timestampStr entry.creationTsEpochSeconds)
  exact ((((((((hend.comma hwebrtc).comma hstream).comma henabled).comma hwss).comma hhttps).comma
    harn).comma hregion).comma (clean_str entry.role)).comma hname

theorem Accepted.length_serialize (h : entry.Accepted platform) :
    entry.serialize.length = (entry.strings.map List.length).sum + 26 := by
  unfold serialize strings
  simp only [List.length_append, List.length_cons, length_str, List.map_cons, List.sum_cons,
    List.map_nil, List.sum_nil, length_timestampStr h.creationTsEpochSeconds, List.length_nil,
    maxSignalingCacheEntryTimestampStrLen]
  omega

/-- **One line** is read back. -/
theorem Accepted.readEntry (h : entry.Accepted platform) (hp : platform.Lawful) (m : Nat)
    (rest : List UInt8) :
    Signaling.readEntry platform (cursorAt .zero (10 * m) (entry.serialize ++ rest)) =
      .ok (cursorAt entry.readBack (10 * (m + 1)) rest) := by
  obtain ⟨fuel, hfuel⟩ : ∃ fuel, (entry.serialize ++ rest).length = fuel + 9 := by
    refine ⟨(entry.serialize ++ rest).length - 9, ?_⟩
    rw [List.length_append, h.length_serialize]
    omega
  unfold Signaling.readEntry
  show (readTokens platform (entry.serialize ++ rest).length _).bind _ = _
  rw [hfuel, h.readTokens_serialize hp]
  exact h.readTimestamp hp m rest

end SignalingFileCacheEntry

/-! ### Reading the file -/

section

variable {platform : CachePlatform}

def fileOf (entries : List SignalingFileCacheEntry) : List UInt8 :=
  entries.flatMap SignalingFileCacheEntry.serialize

/-- A text that starts with a string that is not empty is not empty either. -/
theorem cString_append_pos {t : List UInt8} (hne : t ≠ []) (h : Clean t) (rest : List UInt8) :
    0 < (cString (t ++ rest)).length := by
  cases t with
  | nil => exact absurd rfl hne
  | cons b t =>
    have hb : b ≠ 0 := by
      rintro rfl
      exact h.2.2 List.mem_cons_self
    simp [cString, hb]

theorem cString_pos {entry : SignalingFileCacheEntry} (h : entry.Accepted platform)
    (rest : List UInt8) :
    0 < (cString (entry.serialize ++ rest)).length := by
  rw [SignalingFileCacheEntry.serialize_append]
  exact cString_append_pos h.channelName_ne h.clean_strings.1 _

theorem cString_body_pos {entry : SignalingFileCacheEntry} (h : entry.Accepted platform)
    {body : List UInt8} (hbody : entry.serialize = body ++ [newline]) :
    0 < (cString body).length := by
  have hpos := cString_pos h []
  rw [List.append_nil, hbody] at hpos
  unfold cString at hpos ⊢
  cases body with
  | nil =>
    have hlen := h.length_serialize
    rw [hbody] at hlen
    simp at hlen
  | cons b body =>
    rw [List.cons_append, List.takeWhile_cons] at hpos
    rw [List.takeWhile_cons]
    split_ifs at hpos ⊢
    · exact Nat.succ_pos _
    · exact absurd hpos (by simp)

variable {entry entry' : SignalingFileCacheEntry} {rest : List UInt8} {listSize fuel m : Nat}
  {entries : List SignalingFileCacheEntry}

theorem more_lines (h : entry.Accepted platform)
    (hsize : (entry.serialize ++ rest).length < 2 ^ 32) :
    0 < (cString (cursorAt entry' m (entry.serialize ++ rest)).current).length ∧
      UInt32.ofNat maxSignalingCacheEntryTimestampStrLen <
        (cursorAt entry' m (entry.serialize ++ rest)).remainingSize := by
  refine ⟨cString_pos h rest, ?_⟩
  show _ < UInt32.ofNat (entry.serialize ++ rest).length
  rw [UInt32.lt_iff_toNat_lt, UInt32.toNat_ofNat_of_lt' (by decide),
    UInt32.toNat_ofNat_of_lt' hsize, List.length_append, h.length_serialize]
  unfold maxSignalingCacheEntryTimestampStrLen
  omega

theorem readEntries_serialize (h : entry.Accepted platform) (hp : platform.Lawful)
    (hsize : (entry.serialize ++ rest).length < 2 ^ 32) :
    readEntries platform listSize (fuel + 1) entries
        (cursorAt entry' (10 * m) (entry.serialize ++ rest)) =
      if entries.length + 1 = listSize then .ok (entries ++ [entry.readBack])
      else readEntries platform listSize fuel (entries ++ [entry.readBack])
        (cursorAt entry.readBack (10 * (m + 1)) rest) := by
  rw [readEntries, if_pos (more_lines h hsize)]
  show (readEntry platform (cursorAt .zero (10 * m) (entry.serialize ++ rest))).bind _ = _
  rw [h.readEntry hp]
  show (if (entries ++ [entry.readBack]).length = listSize then _ else _) = _
  rw [List.length_append]
  rfl

/-- The lines of a file are read one by one, as long as there is room for one more. -/
theorem readEntries_fileOf (hp : platform.Lawful) (fuel m : Nat) (entry' : SignalingFileCacheEntry)
    (entries : List SignalingFileCacheEntry) {pre : List SignalingFileCacheEntry}
    (h : ∀ entry ∈ pre, entry.Accepted platform) (hsize : (fileOf pre ++ rest).length < 2 ^ 32)
    (hroom : entries.length + pre.length < listSize) :
    ∃ entry'', readEntries platform listSize (fuel + pre.length) entries
        (cursorAt entry' (10 * m) (fileOf pre ++ rest)) =
      readEntries platform listSize fuel (entries ++ pre.map SignalingFileCacheEntry.readBack)
        (cursorAt entry'' (10 * (m + pre.length)) rest) := by
  induction pre generalizing entries entry' m with
  | nil => exact ⟨entry', by simp [fileOf]⟩
  | cons entry pre ih =>
    have hfile : fileOf (entry :: pre) ++ rest = entry.serialize ++ (fileOf pre ++ rest) := by
      simp [fileOf]
    rw [hfile] at hsize ⊢
    rw [List.length_cons] at hroom
    obtain ⟨entry'', heq⟩ := ih (m + 1) entry.readBack (entries ++ [entry.readBack])
      (fun e he => h e (List.mem_cons_of_mem _ he))
      (by rw [List.length_append] at hsize; omega)
      (by rw [List.length_append, List.length_singleton]; omega)
    refine ⟨entry'', ?_⟩
    rw [List.length_cons, ← Nat.add_assoc, readEntries_serialize
      (h entry List.mem_cons_self) hp hsize, if_neg (by omega), heq]
    simp [Nat.add_comm, Nat.add_left_comm]

/-- **A line without its end** makes the file unreadable: nothing is read of it, so that the entry
is incomplete. -/
theorem readEntry_error (platform : CachePlatform) {body : List UInt8} (h : newline ∉ body)
    (n : Nat) (rest : List UInt8) :
    ∃ failure, readEntry platform (cursorAt .zero n (body ++ 0 :: rest)) = .error failure := by
  have htokens : ∀ fuel, readTokens platform fuel (cursorAt .zero n (body ++ 0 :: rest)) =
      .ok (cursorAt .zero n (body ++ 0 :: rest)) := by
    intro fuel
    cases fuel with
    | zero => rfl
    | succ fuel =>
      rw [readTokens]
      unfold cursorAt
      dsimp only
      rw [strchr_eq_none h (by decide)]
  unfold readEntry
  show ∃ failure, (readTokens platform (body ++ 0 :: rest).length _).bind _ = _
  rw [htokens]
  show ∃ failure, readTimestamp platform (cursorAt .zero n (body ++ 0 :: rest)) = _
  unfold readTimestamp
  cases platform.strtoui64 _ with
  | error status => exact ⟨.status status, rfl⟩
  | ok creationTsEpochSeconds => exact ⟨.status .invalidArg, rfl⟩

theorem readCache_error (hp : platform.Lawful) {pre : List SignalingFileCacheEntry}
    (h : ∀ entry ∈ pre, entry.Accepted platform) (hcount : pre.length < maxSignalingCacheEntryCount)
    {body : List UInt8} (hbody : newline ∉ body) (hfirst : 0 < (cString body).length)
    (hlen : maxSignalingCacheEntryTimestampStrLen < body.length)
    (hsize : (fileOf pre ++ (body ++ 0 :: rest)).length < 2 ^ 32) :
    ∃ failure, readCache platform (fileOf pre ++ (body ++ 0 :: rest)) = .error failure := by
  obtain ⟨fuel, hfuel⟩ : ∃ fuel, maxSignalingCacheEntryCount = fuel + 1 + pre.length :=
    ⟨maxSignalingCacheEntryCount - pre.length - 1, by omega⟩
  have hroom : ([] : List SignalingFileCacheEntry).length + pre.length <
      maxSignalingCacheEntryCount := by
    rw [List.length_nil]
    omega
  obtain ⟨entry'', heq⟩ := readEntries_fileOf hp (fuel + 1) 0 .zero [] h hsize hroom
  obtain ⟨failure, herror⟩ := readEntry_error platform hbody (10 * (0 + pre.length)) rest
  refine ⟨failure, ?_⟩
  -- the loop goes on with the line that ends the file too early
  have hmore : 0 < (cString (body ++ 0 :: rest)).length ∧
      UInt32.ofNat maxSignalingCacheEntryTimestampStrLen < UInt32.ofNat
      (body ++ 0 :: rest).length := by
    constructor
    · unfold cString at hfirst ⊢
      cases body with
      | nil => exact absurd hfirst (by simp)
      | cons b body =>
        rw [List.cons_append, List.takeWhile_cons]
        rw [List.takeWhile_cons] at hfirst
        split_ifs at hfirst ⊢
        · exact Nat.succ_pos _
        · exact absurd hfirst (by simp)
    · have hlt : (body ++ 0 :: rest).length < 2 ^ 32 := by
        rw [List.length_append] at hsize
        omega
      rw [UInt32.lt_iff_toNat_lt, UInt32.toNat_ofNat_of_lt' (by decide),
        UInt32.toNat_ofNat_of_lt' hlt, List.length_append]
      omega
  rw [readCache, if_pos (by rw [List.length_append, List.length_append]; omega)]
  show readEntries platform maxSignalingCacheEntryCount maxSignalingCacheEntryCount []
    (cursorAt .zero (10 * 0) _) = _
  conv_lhs => arg 3; rw [hfuel]
  rw [heq, readEntries]
  exact (if_pos hmore).trans (congrArg (Except.bind · _) herror)

/-- **The file** is read back. -/
theorem readCache_fileOf (hp : platform.Lawful) {entries : List SignalingFileCacheEntry}
    (h : ∀ entry ∈ entries, entry.Accepted platform) (hsize : (fileOf entries).length < 2 ^ 32)
    (hcount : entries.length ≤ maxSignalingCacheEntryCount) :
    readCache platform (fileOf entries) = .ok (entries.map SignalingFileCacheEntry.readBack) := by
  rcases List.eq_nil_or_concat entries with rfl | ⟨init, last, rfl⟩
  · rfl
  · rw [List.concat_eq_append] at *
    have hlast : last.Accepted platform :=
      h last (List.mem_append_right _ (List.mem_singleton.mpr rfl))
    have hfile : fileOf (init ++ [last]) = fileOf init ++ (last.serialize ++ []) := by simp [fileOf]
    rw [List.length_append, List.length_singleton] at hcount
    have hne : 0 < (fileOf (init ++ [last])).length := by
      rw [hfile, List.length_append, List.append_nil, hlast.length_serialize]
      omega
    obtain ⟨fuel, hfuel⟩ : ∃ fuel, maxSignalingCacheEntryCount = fuel + 1 + init.length :=
      ⟨maxSignalingCacheEntryCount - init.length - 1, by omega⟩
    rw [readCache, if_pos hne, hfile]
    rw [hfile] at hsize
    have hroom : ([] : List SignalingFileCacheEntry).length + init.length <
        maxSignalingCacheEntryCount := by
      rw [List.length_nil]
      omega
    obtain ⟨entry'', heq⟩ := readEntries_fileOf hp (fuel + 1) 0 .zero []
      (fun e he => h e (List.mem_append_left _ he)) hsize hroom
    have hsize' : (last.serialize ++ []).length < 2 ^ 32 := by
      rw [List.length_append] at hsize
      omega
    show readEntries platform maxSignalingCacheEntryCount maxSignalingCacheEntryCount []
      (cursorAt .zero (10 * 0) _) = _
    conv_lhs => arg 3; rw [hfuel]
    rw [heq, readEntries_serialize hlast hp hsize', List.map_append, List.nil_append]
    split_ifs with hfull
    · rfl
    · cases fuel <;> rfl

end

end KvsWebrtc.Signaling
