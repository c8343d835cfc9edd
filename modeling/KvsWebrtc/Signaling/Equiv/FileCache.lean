import KvsWebrtc.Common.BoundedMap
import KvsWebrtc.Signaling.Equiv.FileCacheParse

/-!
# The cache file is a bounded map

Along every history of saves the file is the bounded map of the entries if and only if all of them
are `Kept` (`behaves_iff`): the role is one of the two that are written, the region is not shorter
than a role, and the line fits into its buffer.
-/

namespace KvsWebrtc.Signaling

open Relay (bytesOf)
open SignalingFileCacheEntry (serialize readBack key)

/-- An entry that survives the file. -/
structure SignalingFileCacheEntry.Kept (platform : CachePlatform)
    (entry : SignalingFileCacheEntry) :
    Prop where
  role : entry.role ≠ .unknown
  region : 6 ≤ entry.region.length
  length : (entry.strings.map List.length).sum + 26 < platform.maxSerializedSignalingCacheEntryLen

def cacheOf (history : List SignalingFileCacheEntry) : List SignalingFileCacheEntry :=
  BoundedMap.puts key maxSignalingCacheEntryCount history

/-- After a history of saves, each key has **the last entry saved for it**, unless it has been
evicted. -/
def Recalls (platform : CachePlatform) (history : List SignalingFileCacheEntry) : Prop :=
  ∃ file, saveAll platform history = .ok file ∧
    ∀ k : CacheKey, k.channelName ≠ [] → k.region ≠ [] →
      ∃ found, signalingCacheLoadFromFile platform file k = (.ok found, file) ∧
        (found = BoundedMap.latest key history k ∨
          found = none ∧ BoundedMap.Evicted key maxSignalingCacheEntryCount history k)

/-- One more save changes **no other key**, but for the one that it evicts from a full cache, under
which nothing is found any more. -/
def Frames (platform : CachePlatform) (history : List SignalingFileCacheEntry)
    (entry : SignalingFileCacheEntry) : Prop :=
  ∀ file file', saveAll platform history = .ok file → saveNext platform file entry = .ok file' →
    ∀ k : CacheKey, k.channelName ≠ [] → k.region ≠ [] → k ≠ entry.key →
      (signalingCacheLoadFromFile platform file' k).1 =
        if BoundedMap.evicts key maxSignalingCacheEntryCount (cacheOf history) entry = some k then
          .ok none
        else (signalingCacheLoadFromFile platform file k).1

/-- All along a sequence of saves the file behaves as a bounded map. -/
structure Behaves (platform : CachePlatform) (entries : List SignalingFileCacheEntry) : Prop where
  recalls : ∀ history, history <+: entries → Recalls platform history
  frames : ∀ history entry, history ++ [entry] <+: entries → Frames platform history entry

namespace SignalingFileCacheEntry

variable {platform : CachePlatform} {entry : SignalingFileCacheEntry}

theorem role_readBack (entry : SignalingFileCacheEntry) : entry.readBack.role ≠ .unknown := by
  show (if entry.role = .master then _ else _) ≠ SignalingChannelRoleType.unknown
  split_ifs <;> decide

theorem region_readBack (entry : SignalingFileCacheEntry) : 6 ≤ entry.readBack.region.length := by
  show 6 ≤ (entry.region ++ entry.role.str.drop entry.region.length).length
  rw [List.length_append, List.length_drop, length_str]
  omega

theorem Kept.readBack_eq (h : entry.Kept platform) : entry.readBack = entry := by
  have hregion : entry.role.str.drop entry.region.length = [] := by
    rw [List.drop_eq_nil_iff, length_str]
    exact h.region
  have hrole : (if entry.role = .master then SignalingChannelRoleType.master else .viewer) =
      entry.role := by
    have := h.role
    cases hr : entry.role with
    | unknown => exact absurd hr this
    | master => rfl
    | viewer => rfl
  unfold readBack
  rw [hregion, hrole, List.append_nil]

theorem map_readBack {entries : List SignalingFileCacheEntry}
    (h : ∀ entry ∈ entries, entry.Kept platform) : entries.map readBack = entries :=
  (List.map_congr_left fun entry hentry => (h entry hentry).readBack_eq).trans (List.map_id entries)

end SignalingFileCacheEntry

/-! ### Writing -/

/-- What is written of a line that is no longer than the line buffer. -/
def written (platform : CachePlatform) (entry : SignalingFileCacheEntry) : List UInt8 :=
  if entry.serialize.length < platform.maxSerializedSignalingCacheEntryLen then entry.serialize
  else entry.serialize.take (platform.maxSerializedSignalingCacheEntryLen - 1) ++ [0]

section

variable {platform : CachePlatform} {entries : List SignalingFileCacheEntry}
  {entry : SignalingFileCacheEntry} {file : List UInt8}

theorem length_written_le (platform : CachePlatform) (entry : SignalingFileCacheEntry) :
    (written platform entry).length ≤ platform.maxSerializedSignalingCacheEntryLen := by
  unfold written
  split_ifs with h
  · exact Nat.le_of_lt h
  · have hpos : 0 < platform.maxSerializedSignalingCacheEntryLen := Nat.succ_pos _
    rw [List.length_append, List.length_take, List.length_singleton]
    omega

theorem length_flatMap_written_le (platform : CachePlatform)
    (entries : List SignalingFileCacheEntry) :
    (entries.flatMap (written platform)).length ≤
      entries.length * platform.maxSerializedSignalingCacheEntryLen := by
  induction entries with
  | nil => exact Nat.zero_le _
  | cons entry entries ih =>
    rw [List.flatMap_cons, List.length_append, List.length_cons, Nat.succ_mul]
    have := length_written_le platform entry
    omega

theorem flatMap_written
    (h : ∀ entry ∈ entries, entry.serialize.length < platform.maxSerializedSignalingCacheEntryLen) :
    entries.flatMap (written platform) = fileOf entries := by
  unfold fileOf
  apply List.flatMap_congr
  intro entry hentry
  rw [written, if_pos (h entry hentry)]

theorem writeEntry_eq (entry : SignalingFileCacheEntry) :
    writeEntry platform entry =
      if entry.serialize.length ≤ platform.maxSerializedSignalingCacheEntryLen then
        .ok (written platform entry)
      else .error .outOfBounds := by
  unfold writeEntry written
  dsimp only
  split_ifs with hlt heq hle
  · rfl
  · omega
  · rfl
  · omega
  · omega
  · rfl

theorem mapM_writeEntry (entries : List SignalingFileCacheEntry) {lines : List (List UInt8)} :
    entries.mapM (writeEntry platform) = .ok lines ↔
      (∀ entry ∈ entries, entry.serialize.length ≤ platform.maxSerializedSignalingCacheEntryLen) ∧
        entries.map (written platform) = lines := by
  induction entries generalizing lines with
  | nil =>
    show (Except.ok [] = Except.ok lines) ↔ _
    simp
  | cons entry entries ih =>
    rw [List.mapM_cons, writeEntry_eq]
    show (Except.bind _ fun line => Except.bind (entries.mapM (writeEntry platform)) fun lines =>
      .ok (line :: lines)) = _ ↔ _
    split_ifs with hle
    · show (Except.bind (entries.mapM (writeEntry platform)) fun lines =>
        .ok (written platform entry :: lines)) = _ ↔ _
      cases hm : entries.mapM (writeEntry platform) with
      | error failure =>
        constructor
        · exact nofun
        · rintro ⟨hall, -⟩
          have := ih.mpr ⟨fun e he => hall e (List.mem_cons_of_mem _ he), rfl⟩
          rw [hm] at this
          cases this
      | ok lines' =>
        obtain ⟨hall, rfl⟩ := ih.mp hm
        show Except.ok (written platform entry :: entries.map (written platform)) = .ok lines ↔ _
        rw [Except.ok.injEq, List.map_cons]
        constructor
        · exact fun h => ⟨List.forall_mem_cons.mpr ⟨hle, hall⟩, h⟩
        · exact fun h => h.2
    · constructor
      · exact nofun
      · exact fun h => absurd (h.1 entry List.mem_cons_self) hle

theorem storeEntry_eq (entries : List SignalingFileCacheEntry) (entry : SignalingFileCacheEntry) :
    storeEntry entries entry = BoundedMap.put key maxSignalingCacheEntryCount entries entry := by
  unfold storeEntry BoundedMap.put
  dsimp only
  split_ifs with hi hge hlt hlt
  · rfl
  · omega
  · rfl
  · rfl
  · omega

theorem saveNext_of_readCache (hread : readCache platform file = .ok entries)
    (hcomplete : entry.incomplete = false) {file' : List UInt8} :
    saveNext platform file entry = .ok file' ↔
      (∀ e ∈ BoundedMap.put key maxSignalingCacheEntryCount entries entry,
        e.serialize.length ≤ platform.maxSerializedSignalingCacheEntryLen) ∧
      (BoundedMap.put key maxSignalingCacheEntryCount entries entry).flatMap
      (written platform) = file' := by
  unfold saveNext signalingCacheSaveToFile
  rw [hcomplete, if_neg (by simp), hread]
  dsimp only
  rw [storeEntry_eq]
  cases hm : (BoundedMap.put key maxSignalingCacheEntryCount entries entry).mapM
    (writeEntry platform) with
  | error failure =>
    constructor
    · exact nofun
    · rintro ⟨hall, -⟩
      have := (mapM_writeEntry _).mpr ⟨hall, rfl⟩
      rw [hm] at this
      cases this
  | ok lines =>
    obtain ⟨hall, rfl⟩ := (mapM_writeEntry _).mp hm
    show Except.ok _ = _ ↔ _
    rw [Except.ok.injEq, ← List.flatMap_def]
    exact ⟨fun h => ⟨hall, h⟩, fun h => h.2⟩

theorem load_of_readCache (hread : readCache platform file = .ok entries) {k : CacheKey}
    (hname : k.channelName ≠ []) (hregion : k.region ≠ []) :
    signalingCacheLoadFromFile platform file k = (.ok (BoundedMap.lookup key entries k), file) := by
  unfold signalingCacheLoadFromFile
  rw [if_neg (by simp [hname, hregion]), hread]
  rfl

end

/-! ### Runs -/

section

variable {platform : CachePlatform} {entries history : List SignalingFileCacheEntry}
  {entry : SignalingFileCacheEntry}

theorem SignalingFileCacheEntry.Kept.length_serialize_lt (h : entry.Kept platform)
    (hentry : entry.Accepted platform) :
    entry.serialize.length < platform.maxSerializedSignalingCacheEntryLen := by
  rw [hentry.length_serialize]
  exact h.length

/-- A file of no more lines than the cache has is small. -/
theorem length_flatMap_written_lt (hp : platform.Lawful)
    (hcount : entries.length ≤ maxSignalingCacheEntryCount) :
    (entries.flatMap (written platform)).length < 2 ^ 32 := by
  have hle := length_flatMap_written_le platform entries
  have hcount' := Nat.mul_le_mul_right platform.maxSerializedSignalingCacheEntryLen hcount
  have := hp.small
  omega

theorem readCache_written (hp : platform.Lawful) (h : ∀ entry ∈ entries, entry.Accepted platform)
    (hlen : ∀ entry ∈ entries, entry.serialize.length <
      platform.maxSerializedSignalingCacheEntryLen)
    (hcount : entries.length ≤ maxSignalingCacheEntryCount) :
    readCache platform (entries.flatMap (written platform)) = .ok (entries.map readBack) := by
  have hsize := length_flatMap_written_lt hp hcount
  rw [flatMap_written hlen] at hsize ⊢
  exact readCache_fileOf hp h hsize hcount

theorem readCache_kept (hp : platform.Lawful) (h : ∀ entry ∈ entries, entry.Accepted platform)
    (hkept : ∀ entry ∈ entries, entry.Kept platform)
    (hcount : entries.length ≤ maxSignalingCacheEntryCount) :
    readCache platform (entries.flatMap (written platform)) = .ok entries := by
  rw [readCache_written hp h (fun e he => (hkept e he).length_serialize_lt (h e he)) hcount,
    SignalingFileCacheEntry.map_readBack hkept]

theorem valid_cacheOf (history : List SignalingFileCacheEntry) :
    BoundedMap.Valid key maxSignalingCacheEntryCount (cacheOf history) :=
  BoundedMap.valid_puts (by decide) history

theorem readCache_cacheOf (hp : platform.Lawful) (h : ∀ entry ∈ history, entry.Accepted platform)
    (hkept : ∀ entry ∈ history, entry.Kept platform) :
    readCache platform ((cacheOf history).flatMap (written platform)) = .ok (cacheOf history) :=
  readCache_kept hp (fun e he => h e (BoundedMap.mem_puts he)) (fun e he =>
    hkept e (BoundedMap.mem_puts he))
    (valid_cacheOf history).length_le

theorem saveAll_append_singleton (platform : CachePlatform) (history : List SignalingFileCacheEntry)
    (entry : SignalingFileCacheEntry) :
    saveAll platform (history ++ [entry]) =
      (saveAll platform history).bind fun file => saveNext platform file entry := by
  unfold saveAll
  rw [List.foldlM_append]
  show (Except.bind _ fun file => (saveNext platform file entry).bind .ok) = _
  congr 1
  funext file
  cases saveNext platform file entry <;> rfl

/-- **The file of a history** has the lines of its bounded map. -/
theorem saveAll_eq (hp : platform.Lawful) (h : ∀ entry ∈ history, entry.Accepted platform)
    (hkept : ∀ entry ∈ history, entry.Kept platform) :
    saveAll platform history = .ok ((cacheOf history).flatMap (written platform)) := by
  induction history using List.reverseRecOn with
  | nil => rfl
  | append_singleton history entry ih =>
    have hh : ∀ e ∈ history, e.Accepted platform := fun e he => h e (List.mem_append_left _ he)
    have hk : ∀ e ∈ history, e.Kept platform := fun e he => hkept e (List.mem_append_left _ he)
    have hentry := h entry (List.mem_append_right _ (List.mem_singleton.mpr rfl))
    rw [saveAll_append_singleton, ih hh hk]
    apply (saveNext_of_readCache (readCache_cacheOf hp hh hk) hentry.complete).mpr
    unfold cacheOf
    rw [← BoundedMap.puts_append_singleton]
    refine ⟨fun e he => ?_, rfl⟩
    have hmem := BoundedMap.mem_puts he
    exact Nat.le_of_lt ((hkept e hmem).length_serialize_lt (h e hmem))

theorem load_cacheOf (hp : platform.Lawful) (h : ∀ entry ∈ history, entry.Accepted platform)
    (hkept : ∀ entry ∈ history, entry.Kept platform) {k : CacheKey} (hname : k.channelName ≠ [])
    (hregion : k.region ≠ []) :
    signalingCacheLoadFromFile platform ((cacheOf history).flatMap (written platform)) k =
      (.ok (BoundedMap.lookup key (cacheOf history) k), (cacheOf history).flatMap
        (written platform)) :=
  load_of_readCache (readCache_cacheOf hp h hkept) hname hregion

theorem recalls_of_kept (hp : platform.Lawful) (h : ∀ entry ∈ history, entry.Accepted platform)
    (hkept : ∀ entry ∈ history, entry.Kept platform) : Recalls platform history := by
  refine ⟨_, saveAll_eq hp h hkept, fun k hname hregion => ?_⟩
  exact ⟨_, load_cacheOf hp h hkept hname hregion, BoundedMap.lookup_puts (by decide) history k⟩

theorem frames_of_kept (hp : platform.Lawful) (h : ∀ e ∈ history ++ [entry], e.Accepted platform)
    (hkept : ∀ e ∈ history ++ [entry], e.Kept platform) : Frames platform history entry := by
  intro file file' hfile hfile' k hname hregion hk
  have hh : ∀ e ∈ history, e.Accepted platform := fun e he => h e (List.mem_append_left _ he)
  have hk' : ∀ e ∈ history, e.Kept platform := fun e he => hkept e (List.mem_append_left _ he)
  have hboth := saveAll_append_singleton platform history entry
  rw [hfile] at hboth
  rw [saveAll_eq hp hh hk', Except.ok.injEq] at hfile
  have hnext : saveNext platform file entry = .ok _ := hboth.symm.trans (saveAll_eq hp h hkept)
  rw [hfile', Except.ok.injEq] at hnext
  rw [hnext, ← hfile, load_cacheOf hp h hkept hname hregion, load_cacheOf hp hh hk' hname hregion]
  unfold cacheOf
  rw [BoundedMap.puts_append_singleton]
  have hput := BoundedMap.lookup_put_of_ne (valid_cacheOf history) (by decide) hk
  unfold cacheOf at hput
  rw [hput]
  split_ifs <;> rfl

/-- A line that fills the buffer loses its end, and the file cannot be read any more. -/
theorem readCache_truncated (hp : platform.Lawful) {pre post : List SignalingFileCacheEntry}
    (h : ∀ e ∈ pre, e.Accepted platform) (hkept : ∀ e ∈ pre, e.Kept platform)
    (hentry : entry.Accepted platform)
    (hlen : entry.serialize.length = platform.maxSerializedSignalingCacheEntryLen)
    (hcount : (pre ++ entry :: post).length ≤ maxSignalingCacheEntryCount) :
    ∃ failure, readCache platform ((pre ++ entry :: post).flatMap (written platform)) =
      .error failure := by
  have hsize := length_flatMap_written_lt hp hcount
  obtain ⟨body, hbody, hnewline⟩ := hentry.oneLine
  have hlength := hentry.length_serialize
  have hbodyLen : body.length + 1 = entry.serialize.length := by
    rw [hbody, List.length_append, List.length_singleton]
  have hwritten : written platform entry = body ++ [0] := by
    rw [written, if_neg (by omega), hbody, List.take_left' (by omega)]
  have hfile : (pre ++ entry :: post).flatMap (written platform) =
      fileOf pre ++ (body ++ 0 :: post.flatMap (written platform)) := by
    rw [List.flatMap_append, List.flatMap_cons, hwritten,
      flatMap_written fun e he => (hkept e he).length_serialize_lt (h e he)]
    simp
  rw [hfile] at hsize ⊢
  apply readCache_error hp h
  · rw [List.length_append, List.length_cons] at hcount
    omega
  · exact hnewline
  · exact cString_body_pos hentry hbody
  · unfold maxSignalingCacheEntryTimestampStrLen
    omega
  · exact hsize

/-- **The last entry** of a history is recalled only if it is kept. -/
theorem kept_of_recalls (hp : platform.Lawful) (h : ∀ e ∈ history, e.Accepted platform)
    (hkept : ∀ e ∈ history, e.Kept platform) (hentry : entry.Accepted platform)
    (hrecalls : Recalls platform (history ++ [entry])) : entry.Kept platform := by
  obtain ⟨file, hfile, hload⟩ := hrecalls
  rw [saveAll_append_singleton, saveAll_eq hp h hkept] at hfile
  obtain ⟨hle, rfl⟩ := (saveNext_of_readCache (readCache_cacheOf hp h hkept) hentry.complete).mp
    hfile
  have hvalid := (valid_cacheOf history).put (by decide) entry
  have hself := BoundedMap.lookup_put_self (valid_cacheOf history) (by decide) entry
  set cache := BoundedMap.put key maxSignalingCacheEntryCount (cacheOf history) entry with hcache
  have hmem : ∀ e ∈ cache, e = entry ∨ e ∈ history := by
    intro e he
    exact (BoundedMap.mem_put he).imp_right BoundedMap.mem_puts
  have hentryMem : entry ∈ cache := ((BoundedMap.lookup_eq_some_iff hvalid.nodup).mp hself).1
  -- the last entry cannot have been evicted
  obtain ⟨found, heq, hfound⟩ := hload entry.key hentry.channelName_ne hentry.region_ne
  have hlatest : found = some entry := by
    rcases hfound with rfl | ⟨-, hevicted⟩
    · rw [BoundedMap.latest_append_singleton, if_pos rfl]
    · exact absurd hevicted (BoundedMap.not_evicted_self history entry)
  subst hlatest
  have hlt : entry.serialize.length < platform.maxSerializedSignalingCacheEntryLen := by
    refine lt_of_le_of_ne (hle entry hentryMem) fun hlen => ?_
    obtain ⟨pre, post, hsplit, hpre⟩ := List.eq_append_cons_of_mem hentryMem
    have hhistory : ∀ e ∈ pre, e ∈ history := by
      intro e he
      refine (hmem e (hsplit ▸ List.mem_append_left _ he)).resolve_left ?_
      rintro rfl
      exact hpre he
    have hcount := hvalid.length_le
    rw [hsplit] at heq hcount
    obtain ⟨failure, herror⟩ := readCache_truncated hp (fun e he => h e (hhistory e he))
      (fun e he => hkept e (hhistory e he)) hentry hlen hcount
    unfold signalingCacheLoadFromFile at heq
    rw [if_neg (by simp [SignalingFileCacheEntry.key, hentry.channelName_ne, hentry.region_ne]),
      herror] at heq
    cases heq
  have hall : ∀ e ∈ cache, e.Accepted platform ∧
      e.serialize.length < platform.maxSerializedSignalingCacheEntryLen := by
    intro e he
    rcases hmem e he with rfl | he
    · exact ⟨hentry, hlt⟩
    · exact ⟨h e he, (hkept e he).length_serialize_lt (h e he)⟩
  have hread := readCache_written hp (fun e he => (hall e he).1) (fun e he => (hall e he).2)
    hvalid.length_le
  rw [load_of_readCache hread hentry.channelName_ne hentry.region_ne] at heq
  have hsome : BoundedMap.lookup key (cache.map readBack) entry.key = some entry := by
    simpa using congrArg Prod.fst heq
  obtain ⟨e, -, rfl⟩ := List.mem_map.mp (List.mem_of_find?_eq_some hsome)
  refine ⟨e.role_readBack, e.region_readBack, ?_⟩
  rw [hentry.length_serialize] at hlt
  exact hlt

end

/-- **The cache file is a bounded map** along every sequence of saves of which all entries are kept,
and along no other one. -/
theorem behaves_iff {platform : CachePlatform} (hp : platform.Lawful)
    (entries : List SignalingFileCacheEntry) (h : ∀ entry ∈ entries, entry.Accepted platform) :
    Behaves platform entries ↔ ∀ entry ∈ entries, entry.Kept platform := by
  constructor
  · intro hbehaves
    induction entries using List.reverseRecOn with
    | nil => exact fun entry hentry => absurd hentry List.not_mem_nil
    | append_singleton entries entry ih =>
      have hpre : entries <+: entries ++ [entry] := List.prefix_append _ _
      have hentries : ∀ e ∈ entries, e.Accepted platform := fun e he =>
        h e (List.mem_append_left _ he)
      have hkept := ih hentries
        { recalls := fun history hh => hbehaves.recalls history (hh.trans hpre)
          frames := fun history e hh => hbehaves.frames history e (hh.trans hpre) }
      rw [List.forall_mem_append]
      refine ⟨hkept, fun e he => ?_⟩
      obtain rfl := List.mem_singleton.mp he
      exact kept_of_recalls hp hentries hkept (h e (List.mem_append_right _ he))
        (hbehaves.recalls _ (List.prefix_rfl))
  · intro hkept
    exact
      { recalls := fun history hh =>
          recalls_of_kept hp (fun e he => h e (hh.subset he)) fun e he => hkept e (hh.subset he)
        frames := fun history entry hh =>
          frames_of_kept hp (fun e he => h e (hh.subset he)) fun e he => hkept e (hh.subset he) }

/-! ### Two caches -/

/-- A platform with the usual lengths, whose `STRTOUI64` reads digits. -/
def plainPlatform : CachePlatform where
  maxArnLen := 1024
  maxRegionNameLen := 128
  strtoui64 b :=
    let chars := b.map fun c => Char.ofNat c.toNat
    if chars ≠ [] ∧ chars.all Char.isDigit then .ok (Nat.ofDigitChars 10 chars 0)
      else .error .invalidArg

theorem map_timestampStr (n : Nat) :
    ((timestampStr n).map fun c => Char.ofNat c.toNat) =
      List.replicate (maxSignalingCacheEntryTimestampStrLen - (Nat.toDigits 10 n).length) '0' ++
        Nat.toDigits 10 n := by
  unfold timestampStr
  dsimp only
  rw [List.map_append, List.map_replicate, List.map_map, List.length_map]
  congr 1
  refine (List.map_congr_left fun c hc => ?_).trans (List.map_id _)
  have hdigit := Char.isDigit_iff_toNat.mp (Nat.isDigit_of_mem_toDigits (by decide) (by decide) hc)
  have h9 : '9'.toNat = 57 := rfl
  show Char.ofNat (UInt8.ofNat c.toNat).toNat = c
  rw [UInt8.toNat_ofNat', Nat.mod_eq_of_lt (by omega), Char.ofNat_toNat]

theorem plainPlatform_lawful : plainPlatform.Lawful where
  strtoui64 n hn := by
    have hdigits : ∀ c ∈ Nat.toDigits 10 n, c.isDigit = true := fun c hc =>
      Nat.isDigit_of_mem_toDigits (by decide) (by decide) hc
    have hne : Nat.toDigits 10 n ≠ [] := Nat.toDigits_ne_nil
    unfold plainPlatform
    dsimp only
    rw [map_timestampStr, if_pos, Nat.ofDigitChars_append, Nat.ofDigitChars_replicate_zero,
      Nat.mul_zero, Nat.ofDigitChars_ten_toDigits]
    refine ⟨fun h => hne (List.append_eq_nil_iff.mp h).2, ?_⟩
    rw [List.all_append, Bool.and_eq_true]
    refine ⟨?_, List.all_eq_true.mpr hdigits⟩
    rw [List.all_replicate]
    simp
  region := by decide
  small := by decide

def cachedChannel (channelName region : String) : SignalingFileCacheEntry where
  role := .master
  creationTsEpochSeconds := 1700000000
  storageEnabled := bytesOf "0"
  channelName := bytesOf channelName
  channelArn := bytesOf "arn:aws:kinesisvideo"
  region := bytesOf region
  httpsEndpoint := bytesOf "https://a"
  wssEndpoint := bytesOf "wss://a"
  storageStreamArn := []
  webrtcEndpoint := []

theorem cachedChannel_accepted :
    ∀ name ∈ ["one", "two"], ∀ region ∈ ["us-west-2", "abc"],
      (cachedChannel name region).Accepted plainPlatform := by
  intro name hname region hregion
  constructor <;> revert name region <;> decide +kernel

theorem behaves_two :
    Behaves plainPlatform [cachedChannel "one" "us-west-2", cachedChannel "two" "us-west-2"] := by
  apply (behaves_iff plainPlatform_lawful _ ?_).mpr
  · intro entry hentry
    simp only [List.mem_cons, List.not_mem_nil, or_false] at hentry
    rcases hentry with rfl | rfl <;> exact ⟨by decide, by decide +kernel, by decide +kernel⟩
  · intro entry hentry
    simp only [List.mem_cons, List.not_mem_nil, or_false] at hentry
    rcases hentry with rfl | rfl <;> exact cachedChannel_accepted _ (by simp) _ (by simp)

/-- The end of a role shows behind a short region, under which nothing is found any more. -/
theorem short_region_forgotten :
    (saveAll plainPlatform [cachedChannel "two" "abc"]).bind (readCache plainPlatform) =
        .ok [cachedChannel "two" "abcter"] ∧
      ¬Behaves plainPlatform [cachedChannel "two" "abc"] := by
  refine ⟨by decide +kernel, fun hbehaves => ?_⟩
  have hrecalls : Recalls plainPlatform ([] ++ [cachedChannel "two" "abc"]) :=
    hbehaves.recalls _ List.prefix_rfl
  have hkept := kept_of_recalls plainPlatform_lawful (by simp) (by simp)
    (cachedChannel_accepted "two" (by simp) "abc" (by simp)) hrecalls
  exact absurd hkept.region (by decide +kernel)

end KvsWebrtc.Signaling
