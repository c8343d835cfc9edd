import KvsWebrtc.Common.Status
import KvsWebrtc.Relay.Protocol
import KvsWebrtc.Signaling.CString
import KvsWebrtc.Signaling.MessageQueue

/-!
# The cache file of the signaling client

`Signaling/FileCache.c`.  A file is the list of its bytes, and a file that does not exist an empty
one, since it is created first.  Each save reads the whole file and writes it again; reading and
writing themselves do not fail.

The fixed buffers of an entry are C strings: a token is copied over the string that is there without
a terminating zero, so that what is longer shows behind it.  A token that does not fit, with a
terminating zero, is out of bounds, and so is writing more of the line buffer than it holds.  The
lengths of an ARN and of a region name and `STRTOUI64` are the platform's.
-/

namespace KvsWebrtc.Signaling

open Relay (bytesOf cString)

structure SignalingFileCacheEntry where
  role : SignalingChannelRoleType
  creationTsEpochSeconds : Nat
  storageEnabled : List UInt8
  channelName : List UInt8
  channelArn : List UInt8
  region : List UInt8
  httpsEndpoint : List UInt8
  wssEndpoint : List UInt8
  storageStreamArn : List UInt8
  webrtcEndpoint : List UInt8
deriving DecidableEq

/-- What the cache takes from the platform. -/
structure CachePlatform where
  maxArnLen : Nat
  maxRegionNameLen : Nat
  strtoui64 : List UInt8 → Except Status Nat

def maxChannelNameLen : Nat := 256

def maxSignalingEndpointUriLen : Nat := 512

def maxSignalingCacheEntryTimestampStrLen : Nat := 10

def CachePlatform.maxSerializedSignalingCacheEntryLen (platform : CachePlatform) : Nat :=
  maxChannelNameLen + platform.maxArnLen + platform.maxRegionNameLen +
    maxSignalingEndpointUriLen * 2 + maxSignalingCacheEntryTimestampStrLen + 8

def maxSignalingCacheEntryCount : Nat := 32

/-- `SIGNALING_FILE_CACHE_ROLE_TYPE_MASTER_STR`. -/
def masterStr : List UInt8 := bytesOf "Master"

/-- `SIGNALING_FILE_CACHE_ROLE_TYPE_VIEWER_STR`. -/
def viewerStr : List UInt8 := bytesOf "Viewer"

def comma : UInt8 := ','.toUInt8

def newline : UInt8 := '\n'.toUInt8

def SignalingFileCacheEntry.zero : SignalingFileCacheEntry where
  role := .unknown
  creationTsEpochSeconds := 0
  storageEnabled := []
  channelName := []
  channelArn := []
  region := []
  httpsEndpoint := []
  wssEndpoint := []
  storageStreamArn := []
  webrtcEndpoint := []

def SignalingFileCacheEntry.incomplete (entry : SignalingFileCacheEntry) : Bool :=
  entry.channelArn = [] ∨ entry.channelName = [] ∨ entry.region = [] ∨ entry.httpsEndpoint = [] ∨
    entry.wssEndpoint = []

/-! ### Reading -/

/-- `STRNCPY` of a token into a buffer with room for `limit` bytes and the zero, which holds
`old`. -/
def copyToken (limit : Nat) (old token : List UInt8) : Except Failure (List UInt8) :=
  if token.length ≤ limit then .ok (token ++ old.drop token.length) else .error .outOfBounds

/-- Where `deserializeSignalingCacheEntries` is, and the entry that it fills. -/
structure CacheCursor where
  entry : SignalingFileCacheEntry
  tokenCount : Nat
  current : List UInt8
  remainingSize : UInt32

/-- The `switch` of `deserializeSignalingCacheEntries`.  The role is copied into the region before
the region itself is. -/
def storeToken (platform : CachePlatform) (entry : SignalingFileCacheEntry)
    (current token : List UInt8) :
    Nat → Except Failure SignalingFileCacheEntry
  | 0 => (copyToken maxChannelNameLen entry.channelName token).map fun s =>
  { entry with channelName := s }
  | 1 => do
    let region ← copyToken platform.maxRegionNameLen entry.region token
    if masterStr.isPrefixOf current then .ok { entry with region := region, role := .master }
    else if viewerStr.isPrefixOf current then .ok { entry with region := region, role := .viewer }
    else .error (.status .invalidArg)
  | 2 => (copyToken platform.maxRegionNameLen entry.region token).map fun s =>
    { entry with region := s }
  | 3 => (copyToken platform.maxArnLen entry.channelArn token).map fun s =>
    { entry with channelArn := s }
  | 4 =>
    (copyToken maxSignalingEndpointUriLen entry.httpsEndpoint token).map fun s =>
      { entry with httpsEndpoint := s }
  | 5 =>
    (copyToken maxSignalingEndpointUriLen entry.wssEndpoint token).map fun s =>
      { entry with wssEndpoint := s }
  | 6 => (copyToken 1 entry.storageEnabled token).map fun s => { entry with storageEnabled := s }
  | 7 =>
    (copyToken platform.maxArnLen entry.storageStreamArn token).map fun s =>
      { entry with storageStreamArn := s }
  | 8 =>
    (copyToken maxSignalingEndpointUriLen entry.webrtcEndpoint token).map fun s =>
      { entry with webrtcEndpoint := s }
  | _ => .ok entry

/-- The tokens of a line: the inner loop, with a bound on its rounds. -/
def readTokens (platform : CachePlatform) : Nat → CacheCursor → Except Failure CacheCursor
  | 0, cursor => .ok cursor
  | fuel + 1, cursor =>
    match strchr newline cursor.current, strchr comma cursor.current with
    | some nextLine, some nextToken =>
      if nextToken < nextLine then do
        let entry ← storeToken platform cursor.entry cursor.current (cursor.current.take nextToken)
          (cursor.tokenCount % 10)
        readTokens platform fuel
          { entry := entry
            tokenCount := cursor.tokenCount + 1
            current := cursor.current.drop (nextToken + 1)
            remainingSize := cursor.remainingSize - UInt32.ofNat (nextToken + 1) }
      else .ok cursor
    | _, _ => .ok cursor

def readTimestamp (platform : CachePlatform) (cursor : CacheCursor) : Except Failure CacheCursor :=
  match platform.strtoui64 (cursor.current.take maxSignalingCacheEntryTimestampStrLen) with
  | .error status => .error (.status status)
  | .ok creationTsEpochSeconds =>
    let entry := { cursor.entry with creationTsEpochSeconds := creationTsEpochSeconds }
    if entry.incomplete then .error (.status .invalidArg)
    else .ok
      { entry := entry
        tokenCount := cursor.tokenCount + 1
        current := cursor.current.drop (maxSignalingCacheEntryTimestampStrLen + 1)
        remainingSize :=
          cursor.remainingSize - UInt32.ofNat (maxSignalingCacheEntryTimestampStrLen + 1) }

def readEntry (platform : CachePlatform) (cursor : CacheCursor) : Except Failure CacheCursor := do
  let cursor ← readTokens platform cursor.current.length cursor
  readTimestamp platform cursor

/-- The outer loop, which reads no more than `listSize` entries. -/
def readEntries (platform : CachePlatform) (listSize : Nat) :
    Nat → List SignalingFileCacheEntry → CacheCursor → Except Failure (List SignalingFileCacheEntry)
  | 0, entries, _ => .ok entries
  | fuel + 1, entries, cursor =>
    if 0 < (cString cursor.current).length ∧
        UInt32.ofNat maxSignalingCacheEntryTimestampStrLen < cursor.remainingSize then do
      let cursor ← readEntry platform { cursor with entry := .zero }
      let entries := entries ++ [cursor.entry]
      if entries.length = listSize then .ok entries
      else readEntries platform listSize fuel entries cursor
    else .ok entries

/-- `deserializeSignalingCacheEntries`, for a list of `MAX_SIGNALING_CACHE_ENTRY_COUNT` entries. -/
def deserializeSignalingCacheEntries (platform : CachePlatform) (cachedFileContent : List UInt8) :
    Except Failure (List SignalingFileCacheEntry) :=
  readEntries platform maxSignalingCacheEntryCount maxSignalingCacheEntryCount []
    { entry := .zero
      tokenCount := 0
      current := cachedFileContent
      remainingSize := UInt32.ofNat cachedFileContent.length }

def readCache (platform : CachePlatform) (file : List UInt8) :
    Except Failure (List SignalingFileCacheEntry) :=
  if file.length > 0 then deserializeSignalingCacheEntries platform file else .ok []

/-- What an entry is looked up by. -/
structure CacheKey where
  channelName : List UInt8
  region : List UInt8
  role : SignalingChannelRoleType
deriving DecidableEq

def SignalingFileCacheEntry.key (entry : SignalingFileCacheEntry) : CacheKey where
  channelName := entry.channelName
  region := entry.region
  role := entry.role

/-- `signalingCacheLoadFromFile`: the entry that is found, and the file, which is removed if it
cannot be read. -/
def signalingCacheLoadFromFile (platform : CachePlatform) (file : List UInt8) (key : CacheKey) :
    Except Failure (Option SignalingFileCacheEntry) × List UInt8 :=
  if key.channelName = [] ∨ key.region = [] then (.error (.status .invalidArg), file)
  else
    match readCache platform file with
    | .error failure => (.error failure, [])
    | .ok entries => (.ok (entries.find? fun entry => entry.key = key), file)

/-! ### Writing -/

/-- `%.10 PRIu64`. -/
def timestampStr (n : Nat) : List UInt8 :=
  let digits := (Nat.toDigits 10 n).map fun c => UInt8.ofNat c.toNat
  List.replicate (maxSignalingCacheEntryTimestampStrLen - digits.length) '0'.toUInt8 ++ digits

def SignalingChannelRoleType.str : SignalingChannelRoleType → List UInt8
  | .master => masterStr
  | _ => viewerStr

def SignalingFileCacheEntry.serialize (entry : SignalingFileCacheEntry) : List UInt8 :=
  entry.channelName ++ comma :: (entry.role.str ++ comma :: (entry.region ++ comma ::
    (entry.channelArn ++ comma :: (entry.httpsEndpoint ++ comma :: (entry.wssEndpoint ++ comma ::
      (entry.storageEnabled ++ comma :: (entry.storageStreamArn ++ comma :: (entry.webrtcEndpoint ++
        comma :: (timestampStr entry.creationTsEpochSeconds ++ [newline])))))))))

/-- What is written for an entry: as many bytes of the line buffer as the line is long. -/
def writeEntry (platform : CachePlatform) (entry : SignalingFileCacheEntry) :
    Except Failure (List UInt8) :=
  let line := entry.serialize
  let size := platform.maxSerializedSignalingCacheEntryLen
  if line.length < size then .ok line
  else if line.length = size then .ok (line.take (size - 1) ++ [0])
  else .error .outOfBounds

/-- The entries with the new one, in the place of the entry with its key or, if the cache is full,
of the last one. -/
def storeEntry (entries : List SignalingFileCacheEntry) (entry : SignalingFileCacheEntry) :
    List SignalingFileCacheEntry :=
  let i := entries.findIdx fun e => e.key = entry.key
  if i < entries.length then entries.set i entry
  else if entries.length ≥ maxSignalingCacheEntryCount then
    entries.set (maxSignalingCacheEntryCount - 1) entry
  else entries ++ [entry]

/-- `signalingCacheSaveToFile`, with the file that it leaves. -/
def signalingCacheSaveToFile (platform : CachePlatform) (file : List UInt8)
    (entry : SignalingFileCacheEntry) : Except Failure Unit × List UInt8 :=
  if entry.incomplete then (.error (.status .invalidArg), file)
  else
    match readCache platform file with
    | .error failure => (.error failure, [])
    | .ok entries =>
      match (storeEntry entries entry).mapM (writeEntry platform) with
      | .error failure => (.error failure, [])
      | .ok lines => (.ok (), lines.flatten)

def saveNext (platform : CachePlatform) (file : List UInt8) (entry : SignalingFileCacheEntry) :
    Except Failure (List UInt8) :=
  match signalingCacheSaveToFile platform file entry with
  | (.error failure, _) => .error failure
  | (.ok (), file) => .ok file

/-- The file after a history of saves, of which none fails. -/
def saveAll (platform : CachePlatform) (history : List SignalingFileCacheEntry) :
    Except Failure (List UInt8) :=
  history.foldlM (saveNext platform) []

end KvsWebrtc.Signaling
