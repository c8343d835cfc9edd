import KvsWebrtc.Signaling.Equiv.CString
import KvsWebrtc.Signaling.JoinResponse

/-!
# What is read of the response to a join

The parser passes over the time to live, which is a number, and reads the strings of all the servers
into one entry (`parse_build`).  So the first server is what the client gets exactly if it
`Survives` (`roundTrip_iff`).
-/

namespace KvsWebrtc.Signaling

open Relay (bytesOf strstr isSeparator IceServer JoinResponse protocolBuildJoinResponse emit
    emitUris
  emitIceServers)

def Plain (s : List UInt8) : Prop := quote ∉ s ∧ '\\'.toUInt8 ∉ s ∧ 0 ∉ s

instance (s : List UInt8) : Decidable (Plain s) :=
  inferInstanceAs (Decidable (quote ∉ s ∧ '\\'.toUInt8 ∉ s ∧ 0 ∉ s))

def Filled (client : IceConfiguration) (server : IceServer) (currentTime : UInt64) : Prop :=
  ∃ info, client.iceConfigs = [info] ∧ info.ttl.toNat = server.ttlSec * hundredsOfNanosInASecond ∧
    info.uris = server.uris ∧ info.userName = server.username ∧ info.password = server.password ∧
    client.iceConfigExpiration = currentTime + info.ttl

end KvsWebrtc.Signaling

namespace KvsWebrtc.Relay.IceServer

open Signaling

/-- A server within the declared lengths. -/
structure Declared (server : IceServer) : Prop where
  uris_length : server.uris.length ≤ maxIceConfigUriCount
  uri_length : ∀ uri ∈ server.uris, uri.length ≤ maxIceConfigUriLen
  uri_plain : ∀ uri ∈ server.uris, Plain uri
  username_length : server.username.length ≤ maxIceConfigUserNameLen
  username_plain : Plain server.username
  password_length : server.password.length ≤ maxIceConfigCredentialLen
  password_plain : Plain server.password

/-- The last of the strings that are not too short to be read, if there is one. -/
def lastLong (values : List (List UInt8)) : List UInt8 :=
  (values.filter fun value => 4 ≤ value.length).getLast?.getD []

/-- The first server is the one that is read, with the others behind it. -/
structure Survives (server : IceServer) (others : List IceServer) : Prop where
  ttl : server.ttlSec = 86400
  uris : server.uris.length = maxIceConfigUriCount ∨ ∀ other ∈ others, other.uris = []
  username : lastLong ((server :: others).map IceServer.username) = server.username
  password : lastLong ((server :: others).map IceServer.password) = server.password

end KvsWebrtc.Relay.IceServer

namespace KvsWebrtc.Signaling

open Relay (bytesOf strstr isSeparator IceServer JoinResponse protocolBuildJoinResponse emit
    emitUris
  emitIceServers)
open Relay.IceServer (lastLong)

/-! ### The text of a response -/

/-- The strings of an array, of which `j` are written. -/
def urisText : Nat → List (List UInt8) → List UInt8
  | _, [] => []
  | j, uri :: rest =>
    (if j = 0 then [] else bytesOf ",") ++ bytesOf "\"" ++ uri ++ bytesOf "\"" ++
    urisText (j + 1) rest

def iceServersText : List IceServer → List UInt8
  | [] => []
  | s :: rest =>
    (bytesOf "\x7b\"ttl\":" ++ bytesOf (toString s.ttlSec) ++ bytesOf ",\"uris\":[") ++
    urisText 0 s.uris ++
      (bytesOf "],\"username\":\"" ++ s.username ++ bytesOf "\",\"password\":\"" ++ s.password ++
        bytesOf "\"\x7d" ++ if rest.isEmpty then [] else bytesOf ",") ++ iceServersText rest

def joinHeader : List UInt8 :=
  bytesOf "\x7b\"messageType\":\"JOIN_CHANNEL_RESPONSE\",\"statusCode\":200,\"iceServers\":["

theorem emit_eq {bufLen : Nat} {buf text out : List UInt8} (h : emit bufLen buf text = some out) :
    out = buf ++ text := by
  unfold emit at h
  split_ifs at h
  exact (Option.some.inj h).symm

theorem emitUris_eq {bufLen j : Nat} {buf out : List UInt8} {uris : List (List UInt8)}
    (h : emitUris bufLen j buf uris = some out) : out = buf ++ urisText j uris := by
  induction uris generalizing j buf with
  | nil =>
    rw [urisText, List.append_nil]
    exact (Option.some.inj h).symm
  | cons uri rest ih =>
    obtain ⟨buf', hbuf, hrest⟩ := Option.bind_eq_some_iff.mp h
    rw [ih hrest, emit_eq hbuf, urisText]
    simp only [List.append_assoc]

theorem emitIceServers_eq {bufLen : Nat} {buf out : List UInt8} {servers : List IceServer}
    (h : emitIceServers bufLen buf servers = some out) : out = buf ++ iceServersText servers := by
  induction servers generalizing buf with
  | nil =>
    rw [iceServersText, List.append_nil]
    exact (Option.some.inj h).symm
  | cons s rest ih =>
    obtain ⟨buf₁, h₁, h⟩ := Option.bind_eq_some_iff.mp h
    obtain ⟨buf₂, h₂, h⟩ := Option.bind_eq_some_iff.mp h
    obtain ⟨buf₃, h₃, h⟩ := Option.bind_eq_some_iff.mp h
    rw [ih h, emit_eq h₃, emitUris_eq h₂, emit_eq h₁, iceServersText]
    simp only [List.append_assoc]

theorem protocolBuildJoinResponse_eq {r : JoinResponse} {bufLen : Nat} {json : List UInt8}
    (hstatus : r.statusCode = 200) (h : protocolBuildJoinResponse r bufLen = some json) :
    json = joinHeader ++ (iceServersText r.iceServers ++ bytesOf "]\x7d") := by
  unfold protocolBuildJoinResponse at h
  rw [if_neg (not_not.mpr hstatus)] at h
  obtain ⟨buf₁, h₁, h⟩ := Option.bind_eq_some_iff.mp h
  obtain ⟨buf₂, h₂, h⟩ := Option.bind_eq_some_iff.mp h
  rw [emit_eq h, emitIceServers_eq h₂, emit_eq h₁, List.nil_append, List.append_assoc]
  rfl

/-! ### The scan -/

/-- The scan of a text goes on with another entry behind it. -/
def Reaches (info : IceConfigInfo) (p : List UInt8) (info' : IceConfigInfo) (p' : List UInt8) :
    Prop :=
  ∀ fuel, p.length ≤ fuel → ∃ fuel', p'.length ≤ fuel' ∧ fillInfo fuel info p =
  fillInfo fuel' info' p'

theorem Reaches.refl (info : IceConfigInfo) (p : List UInt8) : Reaches info p info p :=
  fun fuel h => ⟨fuel, h, rfl⟩

theorem Reaches.trans {info info' info'' : IceConfigInfo} {p p' p'' : List UInt8}
    (h : Reaches info p info' p') (h' : Reaches info' p' info'' p'') :
    Reaches info p info'' p'' := by
  intro fuel hfuel
  obtain ⟨fuel', hfuel', heq⟩ := h fuel hfuel
  obtain ⟨fuel'', hfuel'', heq'⟩ := h' fuel' hfuel'
  exact ⟨fuel'', hfuel'', heq.trans heq'⟩

theorem Reaches.step {info info' : IceConfigInfo} {c : UInt8} {p p' : List UInt8}
    (hlen : p'.length ≤ p.length)
    (h : ∀ fuel, fillInfo (fuel + 1) info (c :: p) = fillInfo fuel info' p') :
    Reaches info (c :: p) info' p' := by
  intro fuel hfuel
  cases fuel with
  | zero => exact absurd hfuel (Nat.not_succ_le_zero _)
  | succ fuel =>
    rw [List.length_cons] at hfuel
    exact ⟨fuel, by omega, h fuel⟩

theorem reaches_skip {info : IceConfigInfo} {s p : List UInt8} (h : 0 ∉ s ∧ quote ∉ s) :
    Reaches info (s ++ p) info p := by
  induction s with
  | nil => exact Reaches.refl info p
  | cons c s ih =>
    simp only [List.mem_cons, not_or] at h
    obtain ⟨⟨h0, hzeros⟩, hquote, hquotes⟩ := h
    refine Reaches.trans (Reaches.step (le_refl _) fun fuel => ?_) (ih ⟨hzeros, hquotes⟩)
    show fillInfo (fuel + 1) info (c :: (s ++ p)) = fillInfo fuel info (s ++ p)
    rw [fillInfo, if_neg (Ne.symm h0), if_neg (Ne.symm hquote)]

def colon : UInt8 := ':'.toUInt8

theorem drop_behind (s : List UInt8) (c : UInt8) (p : List UInt8) :
    (s ++ c :: p).drop (s.length + 1) = p := by
  rw [List.append_cons, List.drop_left' (by simp)]

section

variable {info : IceConfigInfo} {key value p : List UInt8}

theorem fillInfo_key (hkey : Plain key) {d : UInt8} (hd : isSeparator d = false) (fuel : Nat) :
    fillInfo (fuel + 1) info (quote :: (key ++ quote :: colon :: d :: p)) =
      if d = quote then
        match strchr quote p with
        | none => .ok info
        | some vlen =>
          fillInfo fuel (info.setValue (key ++ quote :: colon :: d :: p) (p.take vlen))
          (p.drop (vlen + 1))
      else if d = '['.toUInt8 then
        (fillUris p.length info p).bind fun r => fillInfo fuel r.1 r.2
      else fillInfo fuel info (d :: p) := by
  have hsep : (colon :: d :: p).dropWhile isSeparator = d :: p := by
    rw [List.dropWhile_cons_of_pos (by decide), List.dropWhile_cons_of_neg (by simp [hd])]
  rw [fillInfo, if_neg (by decide), if_pos rfl, strchr_append_self hkey.1 hkey.2.2]
  dsimp only
  rw [drop_behind, hsep]
  rfl

theorem reaches_value (hkey : Plain key) (hvalue : Plain value) :
    Reaches info (quote :: (key ++ quote :: colon :: quote :: (value ++ quote :: p)))
      (info.setValue (key ++ quote :: colon :: quote :: (value ++ quote :: p)) value) p := by
  refine Reaches.step (by simp; omega) fun fuel => ?_
  rw [fillInfo_key hkey (by decide), if_pos rfl, strchr_append_self hvalue.1 hvalue.2.2]
  dsimp only
  rw [List.take_left, drop_behind]

theorem reaches_number (hkey : Plain key) {d : UInt8} (hd : isSeparator d = false)
    (hquote : d ≠ quote) (harray : d ≠ '['.toUInt8) :
    Reaches info (quote :: (key ++ quote :: colon :: d :: p)) info (d :: p) := by
  refine Reaches.step (by simp; omega) fun fuel => ?_
  rw [fillInfo_key hkey hd, if_neg hquote, if_neg harray]

theorem fillUris_urisText {uris : List (List UInt8)} (huris : ∀ uri ∈ uris, Plain uri)
    (j fuel : Nat) (hfuel : (urisText j uris ++ ']'.toUInt8 :: p).length ≤ fuel) :
    fillUris fuel info (urisText j uris ++ ']'.toUInt8 :: p) =
      .ok (uris.foldl IceConfigInfo.addUri info, p) := by
  induction uris generalizing info j fuel with
  | nil =>
    rw [urisText, List.nil_append] at hfuel ⊢
    cases fuel with
    | zero => exact absurd hfuel (Nat.not_succ_le_zero _)
    | succ fuel =>
      rw [fillUris, if_pos rfl]
      rfl
  | cons uri rest ih =>
    obtain ⟨huri, hrest⟩ := List.forall_mem_cons.mp huris
    -- the string itself, and then the comma before it, if there is one
    have hstring : ∀ fuel,
        (quote :: (uri ++ quote :: (urisText (j + 1) rest ++ ']'.toUInt8 :: p))).length ≤ fuel →
        fillUris fuel info
        (quote :: (uri ++ quote :: (urisText (j + 1) rest ++ ']'.toUInt8 :: p))) =
          .ok ((uri :: rest).foldl IceConfigInfo.addUri info, p) := by
      intro fuel hfuel
      rw [List.length_cons, List.length_append, List.length_cons] at hfuel
      cases fuel with
      | zero => exact absurd hfuel (Nat.not_succ_le_zero _)
      | succ fuel =>
        rw [fillUris, if_neg (by decide), if_pos rfl, strchr_append_self huri.1 huri.2.2]
        dsimp only
        rw [List.take_left, drop_behind]
        exact ih hrest (j + 1) fuel (by omega)
    by_cases hj : j = 0
    · have htext : urisText j (uri :: rest) ++ ']'.toUInt8 :: p =
          quote :: (uri ++ quote :: (urisText (j + 1) rest ++ ']'.toUInt8 :: p)) := by
        rw [urisText, if_pos hj]
        simp [show bytesOf "\"" = [quote] from rfl]
      rw [htext] at hfuel ⊢
      exact hstring fuel hfuel
    · have htext : urisText j (uri :: rest) ++ ']'.toUInt8 :: p =
          ','.toUInt8 :: quote :: (uri ++ quote :: (urisText (j + 1) rest ++
            ']'.toUInt8 :: p)) := by
        rw [urisText, if_neg hj]
        simp [show bytesOf "\"" = [quote] from rfl, show bytesOf "," = [','.toUInt8] from rfl]
      rw [htext] at hfuel ⊢
      cases fuel with
      | zero => exact absurd hfuel (Nat.not_succ_le_zero _)
      | succ fuel =>
        rw [fillUris, if_neg (by decide), if_neg (by decide)]
        exact hstring fuel (Nat.le_of_succ_le_succ hfuel)

theorem reaches_array (hkey : Plain key) {uris : List (List UInt8)}
    (huris : ∀ uri ∈ uris, Plain uri) :
    Reaches info
    (quote :: (key ++ quote :: colon :: '['.toUInt8 :: (urisText 0 uris ++ ']'.toUInt8 :: p)))
      (uris.foldl IceConfigInfo.addUri info) p := by
  refine Reaches.step (by simp; omega) fun fuel => ?_
  rw [fillInfo_key hkey (by decide), if_neg (by decide), if_pos rfl,
    fillUris_urisText huris 0 _ le_rfl]
  rfl

end

/-! ### The servers -/

theorem bytesOf_toString (n : Nat) :
    ∃ d ds, bytesOf (toString n) = d :: ds ∧ ∀ c ∈ d :: ds, 48 ≤ c.toNat ∧ c.toNat ≤ 57 := by
  have hdigits : ∀ c ∈ bytesOf (toString n), 48 ≤ c.toNat ∧ c.toNat ≤ 57 := by
    intro b hb
    obtain ⟨c, hc, rfl⟩ := List.mem_map.mp hb
    rw [show toString n = n.repr from rfl, Nat.toList_repr] at hc
    have hdigit := Char.isDigit_iff_toNat.mp (Nat.isDigit_of_mem_toDigits (by decide)
      (by decide) hc)
    have h0 : '0'.toNat = 48 := rfl
    have h9 : '9'.toNat = 57 := rfl
    rw [UInt8.toNat_ofNat']
    omega
  have hne : bytesOf (toString n) ≠ [] := by
    unfold bytesOf
    rw [show toString n = n.repr from rfl, Nat.toList_repr, Ne, List.map_eq_nil_iff]
    exact Nat.toDigits_ne_nil
  obtain ⟨d, ds, heq⟩ := List.exists_cons_of_ne_nil hne
  exact ⟨d, ds, heq, heq ▸ hdigits⟩

def fillServer (info : IceConfigInfo) (server : IceServer) : IceConfigInfo :=
  { info with
    uris := (info.uris ++ server.uris).take maxIceConfigUriCount
    userName := if 4 ≤ server.username.length then server.username else info.userName
    password := if 4 ≤ server.password.length then server.password else info.password }

theorem foldl_addUri {info : IceConfigInfo} {uris : List (List UInt8)}
    (hlen : ∀ uri ∈ uris, uri.length ≤ maxIceConfigUriLen)
    (hcount : info.uris.length ≤ maxIceConfigUriCount) :
    uris.foldl IceConfigInfo.addUri info =
      { info with uris := (info.uris ++ uris).take maxIceConfigUriCount } := by
  induction uris generalizing info with
  | nil =>
    rw [List.append_nil, List.take_of_length_le hcount]
    rfl
  | cons uri rest ih =>
    obtain ⟨huri, hrest⟩ := List.forall_mem_cons.mp hlen
    rw [List.foldl_cons, IceConfigInfo.addUri]
    split_ifs with hroom
    · have hcount' : (info.uris ++ [uri.take maxIceConfigUriLen]).length ≤
          maxIceConfigUriCount := by
        rw [List.length_append]
        exact hroom.1
      rw [ih hrest hcount', List.take_of_length_le huri, List.append_assoc]
      rfl
    · have hfull : info.uris.length = maxIceConfigUriCount := by omega
      rw [ih hrest hcount, ← hfull, List.take_left, List.take_left]

section

variable {info : IceConfigInfo} {value : List UInt8}

theorem setValue_username (hlen : value.length ≤ maxIceConfigUserNameLen) (rest : List UInt8) :
    info.setValue (bytesOf "username" ++ rest) value =
      { info with userName := if 4 ≤ value.length then value else info.userName } := by
  have hno : (bytesOf "ttl").isPrefixOf (bytesOf "username" ++ rest) = false := rfl
  have hyes : (bytesOf "user").isPrefixOf (bytesOf "username" ++ rest) = true := rfl
  have hpass : (bytesOf "pass").isPrefixOf (bytesOf "username" ++ rest) = false := rfl
  unfold IceConfigInfo.setValue
  rw [hno, hyes, hpass, List.take_of_length_le hlen]
  split_ifs <;> simp_all

theorem setValue_password (hlen : value.length ≤ maxIceConfigCredentialLen) (rest : List UInt8) :
    info.setValue (bytesOf "password" ++ rest) value =
      { info with password := if 4 ≤ value.length then value else info.password } := by
  have hno : (bytesOf "ttl").isPrefixOf (bytesOf "password" ++ rest) = false := rfl
  have huser : (bytesOf "user").isPrefixOf (bytesOf "password" ++ rest) = false := rfl
  have hyes : (bytesOf "pass").isPrefixOf (bytesOf "password" ++ rest) = true := rfl
  unfold IceConfigInfo.setValue
  rw [hno, huser, hyes, List.take_of_length_le hlen]
  split_ifs <;> simp_all

end

theorem iceServersText_cons {s : IceServer} {d : UInt8} {ds : List UInt8}
    (hdigits : bytesOf (toString s.ttlSec) = d :: ds) (rest : List IceServer) (p : List UInt8) :
    iceServersText (s :: rest) ++ p =
      ['\x7b'.toUInt8] ++ (quote :: (bytesOf "ttl" ++ quote :: colon :: d :: (ds ++ [','.toUInt8] ++
        (quote :: (bytesOf "uris" ++ quote :: colon :: '['.toUInt8 :: (urisText 0 s.uris ++
          ']'.toUInt8 ::
          ([','.toUInt8] ++
            (quote :: (bytesOf "username" ++ quote :: colon :: quote :: (s.username ++ quote ::
            ([','.toUInt8] ++
              (quote :: (bytesOf "password" ++ quote :: colon :: quote :: (s.password ++ quote ::
              (['\x7d'.toUInt8] ++ (if rest.isEmpty then [] else bytesOf ",") ++
                (iceServersText rest ++ p)))))))))))))))) := by
  have h₁ : bytesOf "\x7b\"ttl\":" = '\x7b'.toUInt8 :: quote :: (bytesOf "ttl" ++ [quote, colon]) :=
    rfl
  have h₂ : bytesOf ",\"uris\":[" =
      ','.toUInt8 :: quote :: (bytesOf "uris" ++ [quote, colon, '['.toUInt8]) := rfl
  have h₃ : bytesOf "],\"username\":\"" =
      ']'.toUInt8 :: ','.toUInt8 :: quote :: (bytesOf "username" ++ [quote, colon, quote]) := rfl
  have h₄ : bytesOf "\",\"password\":\"" =
      quote :: ','.toUInt8 :: quote :: (bytesOf "password" ++ [quote, colon, quote]) := rfl
  have h₅ : bytesOf "\"\x7d" = [quote, '\x7d'.toUInt8] := rfl
  rw [iceServersText, hdigits, h₁, h₂, h₃, h₄, h₅]
  simp only [List.append_assoc, List.cons_append, List.nil_append]

theorem reaches_server {info : IceConfigInfo} {s : IceServer} (h : s.Declared)
    (hcount : info.uris.length ≤ maxIceConfigUriCount) (rest : List IceServer) (p : List UInt8) :
    Reaches info (iceServersText (s :: rest) ++ p) (fillServer info s)
    (iceServersText rest ++ p) := by
  obtain ⟨d, ds, hdigits, hrange⟩ := bytesOf_toString s.ttlSec
  have hd := hrange d List.mem_cons_self
  have hne : ∀ c : UInt8, (c.toNat < 48 ∨ 57 < c.toNat) → d ≠ c := by
    rintro c hc rfl
    omega
  have hsep : isSeparator d = false := by
    simp [isSeparator, hne ' '.toUInt8 (by decide), hne ':'.toUInt8 (by decide)]
  have hskip : 0 ∉ d :: (ds ++ [','.toUInt8]) ∧ quote ∉ d :: (ds ++ [','.toUInt8]) := by
    rw [← List.cons_append, List.mem_append, List.mem_append]
    constructor
    · rintro (hc | hc)
      · exact absurd (hrange 0 hc) (by decide)
      · exact absurd hc (by decide)
    · rintro (hc | hc)
      · exact absurd (hrange quote hc) (by decide)
      · exact absurd hc (by decide)
  have hcomma : 0 ∉ [','.toUInt8] ∧ quote ∉ [','.toUInt8] := by decide
  rw [iceServersText_cons hdigits]
  refine Reaches.trans (reaches_skip (by decide)) ?_
  refine Reaches.trans (reaches_number (by decide) hsep (hne _ (by decide)) (hne _ (by decide))) ?_
  refine Reaches.trans (reaches_skip hskip) ?_
  refine Reaches.trans (reaches_array (by decide) h.uri_plain) ?_
  refine Reaches.trans (reaches_skip hcomma) ?_
  refine Reaches.trans (reaches_value (by decide) h.username_plain) ?_
  refine Reaches.trans (reaches_skip hcomma) ?_
  refine Reaches.trans (reaches_value (by decide) h.password_plain) ?_
  rw [setValue_username h.username_length, setValue_password h.password_length,
    foldl_addUri h.uri_length hcount]
  apply reaches_skip
  split_ifs <;> decide

theorem reaches_servers {info : IceConfigInfo} {servers : List IceServer}
    (h : ∀ s ∈ servers, s.Declared) (hcount : info.uris.length ≤ maxIceConfigUriCount)
    (p : List UInt8) :
    Reaches info (iceServersText servers ++ p) (servers.foldl fillServer info) p := by
  induction servers generalizing info with
  | nil => exact Reaches.refl info p
  | cons s rest ih =>
    obtain ⟨hs, hrest⟩ := List.forall_mem_cons.mp h
    refine Reaches.trans (reaches_server hs hcount rest p) (ih hrest ?_)
    exact List.length_take_le _ _

/-- What is read of all the servers: the first strings of their arrays, and the last names and
passwords that are not too short. -/
theorem foldl_fillServer (info : IceConfigInfo) (servers : List IceServer)
    (hcount : info.uris.length ≤ maxIceConfigUriCount) :
    servers.foldl fillServer info =
      { info with
        uris := (info.uris ++ servers.flatMap IceServer.uris).take maxIceConfigUriCount
        userName := ((servers.map IceServer.username).filter fun v =>
          4 ≤ v.length).getLast?.getD info.userName
        password :=
          ((servers.map IceServer.password).filter fun v => 4 ≤ v.length).getLast?.getD
          info.password } := by
  have hlast : ∀ (v : List UInt8) (vs : List (List UInt8)) (old : List UInt8),
      (vs.filter fun v => 4 ≤ v.length).getLast?.getD (if 4 ≤ v.length then v else old) =
        ((v :: vs).filter fun v => 4 ≤ v.length).getLast?.getD old := by
    intro v vs old
    rw [List.filter_cons]
    by_cases hv : 4 ≤ v.length
    · rw [if_pos hv, if_pos (decide_eq_true hv), List.getLast?_cons]
      rfl
    · rw [if_neg hv, if_neg (by simpa using hv)]
  have htake : ∀ (n : Nat) (us vs : List (List UInt8)), (us.take n ++ vs).take n =
      (us ++ vs).take n := by
    intro n us vs
    have hsub : n - min n us.length = n - us.length := by omega
    rw [List.take_append, List.take_append, List.take_take, List.length_take, min_self, hsub]
  induction servers generalizing info with
  | nil =>
    rw [List.flatMap_nil, List.append_nil, List.take_of_length_le hcount]
    rfl
  | cons s rest ih =>
    rw [List.foldl_cons, ih _ (List.length_take_le _ _)]
    unfold fillServer
    dsimp only
    rw [hlast, hlast, htake, List.flatMap_cons, List.append_assoc]
    rfl

/-- **What the client makes of a response**: one entry, with the time to live that is left when none
is given. -/
theorem parse_build (client : IceConfiguration) {r : JoinResponse} {bufLen : Nat}
    {json : List UInt8} (currentTime : UInt64) (hstatus : r.statusCode = 200)
    (hservers : r.iceServers ≠ []) (hdeclared : ∀ s ∈ r.iceServers, s.Declared)
    (hjson : protocolBuildJoinResponse r bufLen = some json) :
    parseJoinResponseAndFillIce client json currentTime = .ok
      { client with
        iceConfigs := [r.iceServers.foldl fillServer joinIceConfigInfo]
        iceConfigTime := currentTime
        iceConfigExpiration :=
          currentTime + (r.iceServers.foldl fillServer joinIceConfigInfo).ttl } := by
  have hfirst : firstIceServer json = some (iceServersText r.iceServers ++ bytesOf "]\x7d") := by
    rw [protocolBuildJoinResponse_eq hstatus hjson]
    obtain ⟨s, rest, heq⟩ := List.exists_cons_of_ne_nil hservers
    obtain ⟨d, ds, hdigits, -⟩ := bytesOf_toString s.ttlSec
    rw [heq, iceServersText_cons hdigits]
    rfl
  have hend : Reaches (r.iceServers.foldl fillServer joinIceConfigInfo) (bytesOf "]\x7d" ++ [])
      (r.iceServers.foldl fillServer joinIceConfigInfo) [] := reaches_skip (by decide)
  have hreaches := Reaches.trans (reaches_servers hdeclared (Nat.zero_le _) (bytesOf "]\x7d")) hend
  obtain ⟨fuel, -, heq⟩ := hreaches _ le_rfl
  unfold parseJoinResponseAndFillIce
  rw [hfirst]
  dsimp only
  rw [heq]
  cases fuel <;> rfl

/-- The first strings are the ones of the first server exactly if there is no room for others, or no
other one. -/
theorem take_flatMap_uris {s : IceServer} (others : List IceServer)
    (h : s.uris.length ≤ maxIceConfigUriCount) :
    ((s :: others).flatMap IceServer.uris).take maxIceConfigUriCount = s.uris ↔
      s.uris.length = maxIceConfigUriCount ∨ ∀ other ∈ others, other.uris = [] := by
  rw [List.flatMap_cons, List.take_append, List.take_of_length_le h, List.append_right_eq_self,
    List.take_eq_nil_iff, List.flatMap_eq_nil_iff]
  constructor
  · rintro (hfull | hnone)
    · exact .inl (by omega)
    · exact .inr hnone
  · rintro (hfull | hnone)
    · exact .inl (by omega)
    · exact .inr hnone

/-- **The round trip of a join response**: the client gets the first server exactly if its time to
live is the one that is taken when none is given, its name and password are the last ones that are
not too short, and the other servers do not add a string to its own. -/
theorem roundTrip_iff (client : IceConfiguration) {r : JoinResponse} {bufLen : Nat}
    {json : List UInt8} (currentTime : UInt64) {server : IceServer} {others : List IceServer}
    (hstatus : r.statusCode = 200) (hservers : r.iceServers = server :: others)
    (hdeclared : ∀ s ∈ r.iceServers, s.Declared)
    (hjson : protocolBuildJoinResponse r bufLen = some json) :
    (∃ client', parseJoinResponseAndFillIce client json currentTime = .ok client' ∧
        Filled client' server currentTime) ↔
      server.Survives others := by
  have hparse := parse_build client currentTime hstatus (by simp [hservers]) hdeclared hjson
  have hserver : server.Declared := hdeclared server (by simp [hservers])
  have huris := take_flatMap_uris others hserver.uris_length
  rw [hservers, foldl_fillServer _ _ (Nat.zero_le _)] at hparse
  constructor
  · rintro ⟨client', hclient', info, hinfo, httl, hu, huser, hpass, -⟩
    obtain rfl := Except.ok.inj (hparse.symm.trans hclient')
    obtain rfl := List.head_eq_of_cons_eq hinfo
    refine ⟨?_, huris.mp hu, huser, hpass⟩
    have hdefault : 864000000000 = server.ttlSec * 10000000 := httl
    omega
  · intro h
    refine ⟨_, hparse, _, rfl, ?_, huris.mpr h.uris, h.username, h.password, rfl⟩
    show 864000000000 = server.ttlSec * 10000000
    rw [h.ttl]

def relayIceServer (ttlSec : Nat) : IceServer where
  ttlSec := ttlSec
  uris := [bytesOf "stun:relay:3478"]
  username := bytesOf "user"
  password := bytesOf "password"

def relayResponse (ttlSec : Nat) : JoinResponse where
  statusCode := 200
  errorType := []
  description := []
  iceServers := [relayIceServer ttlSec]

def noIceConfiguration : IceConfiguration where
  iceConfigs := []
  iceConfigTime := 0
  iceConfigExpiration := 0

theorem relayIceServer_declared (ttlSec : Nat) : (relayIceServer ttlSec).Declared where
  uris_length := by simp only [relayIceServer]; decide
  uri_length := by simp only [relayIceServer]; decide
  uri_plain := by simp only [relayIceServer]; decide
  username_length := by simp only [relayIceServer]; decide
  username_plain := by simp only [relayIceServer]; decide
  password_length := by simp only [relayIceServer]; decide
  password_plain := by simp only [relayIceServer]; decide

theorem relayResponse_declared (ttlSec : Nat) :
    ∀ s ∈ (relayResponse ttlSec).iceServers, s.Declared := by
  intro s hs
  obtain rfl := List.mem_singleton.mp hs
  exact relayIceServer_declared ttlSec

theorem relayResponse_builds :
    (protocolBuildJoinResponse (relayResponse 86400) 4096).isSome ∧
      (protocolBuildJoinResponse (relayResponse 600) 4096).isSome := by
  decide +kernel

theorem roundTrip_day :
    ∃ client', parseJoinResponseAndFillIce noIceConfiguration
        ((protocolBuildJoinResponse (relayResponse 86400) 4096).get relayResponse_builds.1) 0 = .ok
          client' ∧
      Filled client' (relayIceServer 86400) 0 := by
  refine (roundTrip_iff noIceConfiguration 0 rfl rfl (relayResponse_declared 86400)
    (Option.some_get relayResponse_builds.1).symm).mpr ?_
  exact ⟨rfl, .inr (by simp), by decide, by decide⟩

theorem ten_minutes_become_a_day :
    ¬ ∃ client', parseJoinResponseAndFillIce noIceConfiguration
        ((protocolBuildJoinResponse (relayResponse 600) 4096).get relayResponse_builds.2) 0 = .ok
          client' ∧
      Filled client' (relayIceServer 600) 0 := by
  rintro ⟨client', hclient', info, hinfo, httl, -⟩
  have hparse := parse_build noIceConfiguration 0 rfl (by simp [relayResponse])
    (relayResponse_declared 600)
    (Option.some_get relayResponse_builds.2).symm
  obtain rfl := Except.ok.inj (hparse.symm.trans hclient')
  obtain rfl := List.head_eq_of_cons_eq hinfo
  exact absurd httl (by decide)

end KvsWebrtc.Signaling
