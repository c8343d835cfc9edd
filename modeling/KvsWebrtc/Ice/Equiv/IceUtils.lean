import KvsWebrtc.Common.BigEndian
import KvsWebrtc.Ice.Equiv.Network
import KvsWebrtc.Ice.IceUtils
import Mathlib.Data.List.Infix
import Mathlib.Tactic.SplitIfs

/-!
# The URLs of ICE servers are parsed right

The prefix of a URL, its host with the port, and the resolution of the name are taken one after the
other (`parsePrefix_eq`, `parseHost_default`, `parseHost_port`, `resolve_eq`).  `parsesRight_iff`
tells from the URL and the server before the call whether what is stored is what the URL says.

Without a port a parameter is copied behind the host, as far as there is room.  With one the host is
copied whatever its length is.  The parameter is looked for in the whole URL, and not at all for
`stun`.
-/

namespace KvsWebrtc.Text

variable {c : Char} {needle s t : List Char}

theorem isSome_strstr : (strstr needle s).isSome ↔ needle <:+: s := by
  induction s with
  | nil =>
    rw [strstr, List.infix_nil]
    split_ifs with h <;> simp [h]
  | cons c s ih =>
    rw [strstr, List.infix_cons_iff, ← List.isPrefixOf_iff_prefix]
    split_ifs with h
    · exact iff_of_true rfl (.inl h)
    · rw [Option.isSome_map, ih]
      exact ⟨.inr, fun h' => h'.resolve_left h⟩

theorem infix_append_iff_of_head (h : ∀ c ∈ t.head?, c ∉ needle) :
    needle <:+: s ++ t ↔ needle <:+: s ∨ needle <:+: t := by
  rw [List.infix_append_iff]
  refine ⟨?_, fun h => h.elim .inl fun h => .inr (.inl h)⟩
  rintro (h' | h' | ⟨l, l', rfl, hl, hl'⟩)
  · exact .inl h'
  · exact .inr h'
  · cases l' with
    | nil => exact .inl (by rw [List.append_nil]; exact hl.isInfix)
    | cons d l' =>
      obtain ⟨t, rfl⟩ := hl'
      exact absurd (List.mem_append_right l List.mem_cons_self) (h d rfl)

theorem infix_cons_iff_of_notMem (hc : c ∉ needle) : needle <:+: c :: t ↔ needle <:+: t := by
  rw [List.infix_cons_iff]
  refine ⟨fun h => h.elim (fun h' => ?_) id, .inr⟩
  cases needle with
  | nil => exact List.nil_infix
  | cons d needle =>
    obtain ⟨rfl, -⟩ := List.cons_prefix_cons.mp h'
    exact absurd List.mem_cons_self hc

end KvsWebrtc.Text

namespace KvsWebrtc.Ice.IceUtils

open Stun (KvsIpAddress)
open Signaling (maxIceConfigUriLen maxIceConfigUserNameLen maxIceConfigCredentialLen)
open Text (strstr)

/-- The schemes of URLs of ICE servers. -/
inductive Scheme
  | stun
  | turn
  | turns
deriving DecidableEq

def Scheme.text : Scheme → List Char
  | .stun => "stun".toList
  | .turn => "turn".toList
  | .turns => "turns".toList

def transportText : KvsSocketProtocol → List Char
  | .udp => "transport=udp".toList
  | .tcp => "transport=tcp".toList

/-- The parts of a URL. -/
structure Url where
  scheme : Scheme
  host : List Char
  port : Option (List Char)
  transport : Option KvsSocketProtocol

namespace Url

def portText (u : Url) : List Char := u.port.elim [] (':' :: ·)

def query (u : Url) : List Char := u.transport.elim [] fun t => '?' :: transportText t

def noPrefix (u : Url) : List Char := u.host ++ (u.portText ++ u.query)

/-- `scheme:host[:port][?transport=udp|tcp]`. -/
def text (u : Url) : List Char := u.scheme.text ++ ':' :: u.noPrefix

def portNumber (u : Url) : Nat := u.port.elim iceStunDefaultPort (Nat.ofDigitChars 10 · 0)

/-- A host has none of the characters that end it, and a port is a decimal number of 16 bits. -/
structure Valid (u : Url) : Prop where
  host : ∀ c ∈ u.host, c ≠ '\x00' ∧ c ≠ ':' ∧ c ≠ '?'
  digits : ∀ p ∈ u.port, p ≠ [] ∧ ∀ c ∈ p, c.isDigit
  portNumber_lt : u.portNumber < 2 ^ 16

end Url

/-- The arrays have their sizes, and the last character of `url` is not written to. -/
structure IceServer.WellFormed (server : IceServer) : Prop where
  url : server.url.drop maxIceConfigUriLen = ['\x00']
  username : server.username.length = maxIceConfigUserNameLen + 1
  credential : server.credential.length = maxIceConfigCredentialLen + 1

/-- Digits are read up to the place that is passed, and to the end of the text. -/
def ReadsDigits (platform : Platform) : Prop :=
  ∀ digits rest, digits ≠ [] → (∀ c ∈ digits, c.isDigit) → Nat.ofDigitChars 10 digits 0 < 2 ^ 32 →
    platform.strtoui32 (digits ++ rest) (some digits.length) = .ok (Nat.ofDigitChars 10 digits 0) ∧
      platform.strtoui32 digits none = .ok (Nat.ofDigitChars 10 digits 0)

/-- Every name is resolved. -/
structure Resolves (platform : Platform) (server : IceServer) : Prop where
  getIpWithHostName : ∀ url ipAddresses, (platform.getIpWithHostName url ipAddresses).1 = .success
  setIpFn : ∀ f ∈ server.setIpFn, ∀ url ipAddresses,
    (f url ipAddresses).1 ∈ [.success, .nullArg, .peerConnectionEarlyDnsResolutionFailed]

/-- What a URL says is in the server. -/
structure Stored (u : Url) (server : IceServer) : Prop where
  url : cString server.url = .ok u.host
  port : ∀ ipAddress ∈ [server.ipAddresses.ipv4Address, server.ipAddresses.ipv6Address],
    ipAddress.family ≠ 0 → beNat ipAddress.port = u.portNumber
  isTurn : server.isTurn = (u.scheme != .stun)
  isSecure : server.isSecure = (u.scheme == .turns)
  transport : server.transport = u.transport

/-- A host that fits is stored with the rest, and another one is rejected. -/
def ParsesRight (platform : Platform) (server : IceServer) (u : Url)
    (username credential : List Char) : Prop :=
  ∃ status server', parseIceServer platform server u.text username credential = .ok
  (status, server') ∧
    if u.host.length ≤ maxIceConfigUriLen then status = .success ∧ Stored u server'
      else status.failed

/-- The host fits into the field, with a parameter behind it unless there is a port, and what is not
set for the scheme is as it was. -/
structure Fits (u : Url) (server : IceServer) : Prop where
  host : u.host.length ≤ maxIceConfigUriLen
  query : u.port = none → u.transport = none ∨ u.host.length = maxIceConfigUriLen
  stun : u.scheme = .stun → server.isSecure = false ∧ server.transport = u.transport
  udp : u.scheme ≠ .stun → u.transport ≠ some .udp → ¬ transportText .udp <:+: u.host
  tcp : u.scheme ≠ .stun → u.transport = none → ¬ transportText .tcp <:+: u.host

variable {platform : Platform} {server : IceServer} {u : Url} {username credential : List Char}

/-! ### The prefix -/

theorem dropWhile_ne {c : Char} {s t : List Char} (h : c ∉ s) :
    (s ++ c :: t).dropWhile (· != c) = c :: t := by
  rw [List.dropWhile_append_of_pos, List.dropWhile_cons_of_neg]
  · simp
  · intro d hd
    rw [bne_iff_ne]
    rintro rfl
    exact h hd

theorem strchr_append {c : Char} {s t : List Char} (h : c ∉ s) :
    strchr c (s ++ c :: t) = some (c :: t) := by
  rw [strchr, if_pos (List.mem_append_right s List.mem_cons_self), dropWhile_ne h]

theorem strchr_eq_none {c : Char} {s : List Char} (h : c ∉ s) : strchr c s = none := if_neg h

theorem colon_notMem_scheme (scheme : Scheme) : ':' ∉ scheme.text := by
  cases scheme <;> decide

theorem drop_scheme (u : Url) : (u.text.dropWhile (· != ':')).drop 1 = u.noPrefix := by
  rw [Url.text, dropWhile_ne (colon_notMem_scheme u.scheme)]
  rfl

theorem notMem_portText (hu : u.Valid) {c : Char} (hc : c ≠ ':') (hdigit : c.isDigit = false) :
    c ∉ u.portText := by
  rw [Url.portText]
  cases hport : u.port with
  | none => exact List.not_mem_nil
  | some p =>
    intro hmem
    rcases List.mem_cons.mp hmem with rfl | hmem
    · exact hc rfl
    · rw [(hu.digits p hport).2 c hmem] at hdigit
      cases hdigit

/-! ### The transport -/

theorem notMem_transportText (t : KvsSocketProtocol) :
    ':' ∉ transportText t ∧ '?' ∉ transportText t := by
  cases t <;> decide

theorem transportText_infix_iff (t t' : KvsSocketProtocol) :
    transportText t <:+: transportText t' ↔ t' = t := by
  cases t <;> cases t' <;> decide

theorem not_infix_scheme (t : KvsSocketProtocol) (scheme : Scheme) :
    ¬ transportText t <:+: scheme.text := by
  cases t <;> cases scheme <;> decide

theorem not_infix_portText (hu : u.Valid) (t : KvsSocketProtocol) :
    ¬ transportText t <:+: u.portText := by
  intro h
  have hmem : 't' ∈ transportText t := by cases t <;> decide
  exact notMem_portText hu (by decide) (by decide) (h.subset hmem)

theorem infix_query_iff (t : KvsSocketProtocol) :
    transportText t <:+: u.query ↔ u.transport = some t := by
  rw [Url.query]
  cases u.transport with
  | none =>
    refine iff_of_false (fun h => ?_) nofun
    have := List.infix_nil.mp h
    cases t <;> cases this
  | some t' =>
    show transportText t <:+: '?' :: transportText t' ↔ _
    rw [Text.infix_cons_iff_of_notMem (notMem_transportText t).2, transportText_infix_iff,
      Option.some_inj]

/-- The parameter stands in the URL if it is there or the host has it. -/
theorem infix_text_iff (hu : u.Valid) (t : KvsSocketProtocol) :
    transportText t <:+: u.text ↔ transportText t <:+: u.host ∨ u.transport = some t := by
  have hquery : ∀ c ∈ u.query.head?, c ∉ transportText t := by
    intro c hc
    rw [Url.query] at hc
    cases htransport : u.transport with
    | none => rw [htransport] at hc; cases hc
    | some t' =>
      rw [htransport] at hc
      cases hc
      exact (notMem_transportText t).2
  have hrest : ∀ c ∈ (u.portText ++ u.query).head?, c ∉ transportText t := by
    intro c hc
    rw [Url.portText] at hc
    cases hport : u.port with
    | none => rw [hport] at hc; exact hquery c hc
    | some p =>
      rw [hport] at hc
      cases hc
      exact (notMem_transportText t).1
  rw [Url.text, Text.infix_append_iff_of_head, or_iff_right (not_infix_scheme t u.scheme),
    Text.infix_cons_iff_of_notMem (notMem_transportText t).1, Url.noPrefix,
    Text.infix_append_iff_of_head hrest, Text.infix_append_iff_of_head hquery,
    or_iff_right (not_infix_portText hu t), infix_query_iff]
  intro c hc
  cases hc
  exact (notMem_transportText t).1

theorem urlTransport_eq_iff (hu : u.Valid) :
    urlTransport u.text = u.transport ↔
      (u.transport ≠ some .udp → ¬ transportText .udp <:+: u.host) ∧
        (u.transport = none → ¬ transportText .tcp <:+: u.host) := by
  rw [urlTransport]
  simp only [Text.isSome_strstr]
  show (if transportText .udp <:+: u.text then _ else if transportText .tcp <:+: u.text then _
      else _) = _ ↔ _
  simp only [infix_text_iff hu]
  rcases u.transport with - | - | -
  all_goals split_ifs <;> simp_all

/-! ### The three parts -/

theorem length_url (hserver : server.WellFormed) : server.url.length = maxIceConfigUriLen + 1 := by
  have h := congrArg List.length hserver.url
  rw [List.length_drop, List.length_singleton] at h
  omega

theorem strncpy_eq (text : List Char) {array : List Char} {n : Nat} (h : n ≤ array.length) :
    strncpy array text n = .ok ((text ++ List.replicate n '\x00').take n ++ array.drop n) :=
  if_pos h

/-- What the prefix tells.  For `stun` the old values of what it does not tell are kept. -/
theorem parsePrefix_eq (hserver : server.WellFormed)
    (hcredentials : u.scheme ≠ .stun → username ≠ [] ∧ credential ≠ []) :
    ∃ server', parsePrefix server u.text username credential = .ok (.success, server') ∧
      server'.url = server.url ∧ server'.setIpFn = server.setIpFn ∧
        server'.isTurn = (u.scheme != .stun) ∧
      server'.isSecure = (if u.scheme = .stun then server.isSecure else u.scheme == .turns) ∧
      server'.transport = (if u.scheme = .stun then server.transport else urlTransport u.text) := by
  -- the copies of the credentials stay inside their arrays
  obtain ⟨usernameField, hname⟩ : ∃ field, strncpy server.username username
      maxIceConfigUserNameLen = .ok field :=
    ⟨_, strncpy_eq username (by rw [hserver.username]; exact Nat.le_succ _)⟩
  obtain ⟨credentialField, hcred⟩ :
      ∃ field, strncpy server.credential credential maxIceConfigCredentialLen = .ok field :=
    ⟨_, strncpy_eq credential (by rw [hserver.credential]; exact Nat.le_succ _)⟩
  cases hscheme : u.scheme with
  | stun =>
    have h : "stun:".toList.isPrefixOf u.text := by
      rw [Url.text, hscheme]
      rfl
    have hcall : parsePrefix server u.text username credential =
        .ok (.success, { server with isTurn := false }) :=
      if_pos h
    exact ⟨_, hcall, rfl, rfl, rfl, (if_pos rfl).symm, (if_pos rfl).symm⟩
  | turn =>
    have h : u.text = "turn:".toList ++ u.noPrefix := by
      rw [Url.text, hscheme]
      rfl
    obtain ⟨hu, hc⟩ := hcredentials (by rw [hscheme]; decide)
    have hstun : "stun:".toList.isPrefixOf u.text = false := by rw [h]; rfl
    have hturn : "turn:".toList.isPrefixOf u.text = true := by rw [h]; rfl
    have hturns : "turns:".toList.isPrefixOf u.text = false := by rw [h]; rfl
    have hcall : parsePrefix server u.text username credential = .ok (.success, { server with
        username := usernameField, credential := credentialField, isTurn := true, isSecure := false
        transport := urlTransport u.text }) := by
      rw [parsePrefix, hstun, hturn, hturns, if_neg Bool.false_ne_true, if_pos (.inl rfl),
        if_neg hu, if_neg hc, hname, hcred]
      rfl
    exact ⟨_, hcall, rfl, rfl, rfl, (if_neg (by decide)).symm, (if_neg (by decide)).symm⟩
  | turns =>
    have h : u.text = "turns:".toList ++ u.noPrefix := by
      rw [Url.text, hscheme]
      rfl
    obtain ⟨hu, hc⟩ := hcredentials (by rw [hscheme]; decide)
    have hstun : "stun:".toList.isPrefixOf u.text = false := by rw [h]; rfl
    have hturn : "turn:".toList.isPrefixOf u.text = false := by rw [h]; rfl
    have hturns : "turns:".toList.isPrefixOf u.text = true := by rw [h]; rfl
    have hcall : parsePrefix server u.text username credential = .ok (.success, { server with
        username := usernameField, credential := credentialField, isTurn := true, isSecure := true
        transport := urlTransport u.text }) := by
      rw [parsePrefix, hstun, hturn, hturns, if_neg Bool.false_ne_true, if_pos (.inr rfl),
        if_neg hu, if_neg hc, hname, hcred]
      rfl
    exact ⟨_, hcall, rfl, rfl, rfl, (if_neg (by decide)).symm, (if_neg (by decide)).symm⟩

theorem notMem_query {c : Char} (hc : c = ':' ∨ c = '\x00') : c ∉ u.query := by
  rw [Url.query]
  rcases u.transport with - | - | - <;> rcases hc with rfl | rfl <;> decide

/-- Without a port the rest of the URL is stored, as far as there is room. -/
theorem parseHost_default (hu : u.Valid) (hserver : server.url.drop maxIceConfigUriLen = ['\x00'])
    (hport : u.port = none) :
    parseHost platform server u.noPrefix = .ok (.success,
      { server with
    url := (u.host ++ u.query ++ List.replicate maxIceConfigUriLen '\x00').take maxIceConfigUriLen
          ++ ['\x00'] }, iceStunDefaultPort) := by
  have hnoPrefix : u.noPrefix = u.host ++ u.query := by
    rw [Url.noPrefix, Url.portText, hport]
    rfl
  have hcolon : ':' ∉ u.host ++ u.query := by
    rw [List.mem_append, not_or]
    exact ⟨fun h => (hu.host _ h).2.1 rfl, notMem_query (.inl rfl)⟩
  have hlength : maxIceConfigUriLen ≤ server.url.length := by
    have h := congrArg List.length hserver
    rw [List.length_drop, List.length_singleton] at h
    omega
  rw [parseHost, hnoPrefix, strchr_eq_none hcolon]
  show (strncpy _ _ _ >>= _) = _
  rw [strncpy_eq _ hlength, hserver]
  rfl

/-- With a port the host is stored, and a zero behind it, for which there may be no room. -/
theorem parseHost_port (hu : u.Valid) (hplatform : ReadsDigits platform) {p : List Char}
    (hport : u.port = some p) :
    parseHost platform server u.noPrefix =
      if u.host.length < server.url.length then
        .ok (.success, { server with
          url := u.host ++ '\x00' :: server.url.drop (u.host.length + 1) }, u.portNumber)
      else .error .outOfBounds := by
  have hnoPrefix : u.noPrefix = u.host ++ ':' :: (p ++ u.query) := by
    rw [Url.noPrefix, Url.portText, hport]
    rfl
  obtain ⟨hne, hdigits⟩ := hu.digits p hport
  have hnumber : Nat.ofDigitChars 10 p 0 = u.portNumber := by rw [Url.portNumber, hport]; rfl
  have hlt : Nat.ofDigitChars 10 p 0 < 2 ^ 32 := by
    have := hu.portNumber_lt
    omega
  -- the number ends at the `?`, or at the end of the text
  have hread : platform.strtoui32 (p ++ u.query) ((strchr '?' u.noPrefix).map fun param =>
      ((p ++ u.query).length : Int) - param.length) = .ok u.portNumber := by
    have hhost : '?' ∉ u.host := fun h => (hu.host _ h).2.2 rfl
    have hp : '?' ∉ ':' :: p := by
      have h := notMem_portText hu (c := '?') (by decide) (by decide)
      rwa [Url.portText, hport] at h
    obtain ⟨hsome, hnone⟩ := hplatform p u.query hne hdigits hlt
    rw [hnumber] at hsome hnone
    cases htransport : u.transport with
    | none =>
      have hquery : u.query = [] := by rw [Url.query, htransport]; rfl
      rw [hnoPrefix, hquery, List.append_nil, strchr_eq_none]
      · exact hnone
      · rw [List.mem_append, not_or]
        exact ⟨hhost, hp⟩
    | some t =>
      have hquery : u.query = '?' :: transportText t := by rw [Url.query, htransport]; rfl
      have hsplit : u.host ++ ':' :: (p ++ '?' :: transportText t)
          = (u.host ++ ':' :: p) ++ '?' :: transportText t := by
        rw [List.append_assoc]
        rfl
      have hstop : ((p ++ u.query).length : Int) - (u.query.length : Int) = p.length := by
        rw [List.length_append]
        omega
      rw [← hquery] at hsplit
      rw [hnoPrefix, hsplit, hquery, strchr_append, Option.map_some, ← hquery, hstop]
      · exact hsome
      · rw [List.mem_append, not_or]
        exact ⟨hhost, hp⟩
  have hn : u.noPrefix.length - (p ++ u.query).length - 1 = u.host.length := by
    rw [hnoPrefix, List.length_append, List.length_cons]
    omega
  have hcolon : strchr ':' u.noPrefix = some (':' :: (p ++ u.query)) := by
    rw [hnoPrefix, strchr_append fun h => (hu.host _ h).2.1 rfl]
  have htext : (u.noPrefix ++ List.replicate u.host.length '\x00').take u.host.length = u.host := by
    rw [hnoPrefix, List.append_assoc, List.take_left' rfl]
  rw [parseHost, hcolon]
  simp only [hread, hn]
  -- the host needs room for its zero
  by_cases hroom : u.host.length < server.url.length
  · rw [if_pos hroom, strncpy_eq _ hroom.le, Memory.ok_bind, htext, List.drop_eq_getElem_cons hroom,
      store_append, List.append_assoc]
    rfl
  · rw [if_neg hroom]
    rcases Nat.eq_or_lt_of_le (Nat.not_lt.mp hroom) with heq | hlt
    · rw [strncpy_eq _ heq.ge, Memory.ok_bind, htext, List.drop_eq_nil_of_le heq.le,
        List.append_nil, store_end]
      rfl
    · rw [strncpy, if_neg (Nat.not_le.mpr hlt)]
      rfl

theorem resolve_eq (hresolves : Resolves platform server) {url : List Char}
    (hurl : cString server.url = .ok url) (port : Nat) :
    ∃ ipAddresses, resolve platform server port = .ok
    (.success, setPorts server port ipAddresses) := by
  have hhost : ∀ ipAddresses, ∃ ipAddresses',
      resolveHost platform server port url ipAddresses =
      (.success, setPorts server port ipAddresses') := by
    intro ipAddresses
    have h := hresolves.getIpWithHostName url ipAddresses
    rw [resolveHost]
    rcases hip : platform.getIpWithHostName url ipAddresses with ⟨status, ipAddresses'⟩
    rw [hip] at h
    obtain rfl : status = .success := h
    exact ⟨ipAddresses', rfl⟩
  cases hfn : server.setIpFn with
  | none =>
    obtain ⟨ipAddresses', h⟩ := hhost server.ipAddresses
    refine ⟨ipAddresses', ?_⟩
    rw [resolve, hurl, Memory.ok_bind, hfn]
    exact congrArg Except.ok h
  | some f =>
    have h := hresolves.setIpFn f hfn url server.ipAddresses
    rcases hcall : f url server.ipAddresses with ⟨status, ipAddresses⟩
    rw [hcall] at h
    obtain ⟨ipAddresses', hhost⟩ := hhost ipAddresses
    -- the callback resolves the name, or leaves it to the library
    rcases List.mem_cons.mp h with rfl | h
    · refine ⟨ipAddresses, ?_⟩
      rw [resolve, hurl, Memory.ok_bind, hfn]
      simp only [hcall]
      rfl
    · refine ⟨ipAddresses', ?_⟩
      rw [resolve, hurl, Memory.ok_bind, hfn]
      simp only [hcall]
      rcases List.mem_pair.mp h with rfl | rfl
      · exact congrArg Except.ok hhost
      · exact congrArg Except.ok hhost

theorem beNat_withPort {port : Nat} (hport : port < 2 ^ 16) {ipAddress : KvsIpAddress}
    (h : (withPort port ipAddress).family ≠ 0) : beNat (withPort port ipAddress).port = port := by
  have hfamily : ipAddress.family ≠ 0 := by
    intro h0
    rw [withPort, if_neg (not_not.mpr h0)] at h
    exact h h0
  have hbytes : [UInt8.ofNat (port / 256), UInt8.ofNat port] = beBytes 2 port := by
    simp only [beBytes, pow_one, pow_zero, Nat.div_one]
  rw [withPort, if_pos hfamily, hbytes, beNat_beBytes_of_lt hport]

/-- The second and the third part behind the first one. -/
theorem parseIceServer_eq {server' : IceServer}
    (hcall : parsePrefix server u.text username credential = .ok (.success, server')) :
    parseIceServer platform server u.text username credential =
      (parseHost platform server' u.noPrefix >>= fun r =>
        if r.1.failed then .ok (r.1, r.2.1) else resolve platform r.2.1 r.2.2) := by
  rw [parseIceServer, hcall, Memory.ok_bind, drop_scheme]
  rfl

theorem cString_append {text rest : List Char} (h : '\x00' ∉ text) :
    cString (text ++ '\x00' :: rest) = .ok text := by
  rw [cString, if_pos (List.mem_append_right text List.mem_cons_self), List.takeWhile_append_of_pos,
    List.takeWhile_cons_of_neg, List.append_nil]
  · simp
  · intro c hc
    rw [bne_iff_ne]
    rintro rfl
    exact h hc

/-- Without a port the host is all that is stored if there is no parameter, or no room for it. -/
theorem cString_default (hu : u.Valid) :
    ∃ text, cString
    ((u.host ++ u.query ++ List.replicate maxIceConfigUriLen '\x00').take maxIceConfigUriLen
        ++ ['\x00']) = .ok text ∧
      (u.host.length ≤ maxIceConfigUriLen →
        (text = u.host ↔ u.transport = none ∨ u.host.length = maxIceConfigUriLen)) := by
  refine ⟨(u.host ++ u.query).take maxIceConfigUriLen, ?_, fun hlength => ?_⟩
  · have hzero : '\x00' ∉ (u.host ++ u.query).take maxIceConfigUriLen := by
      intro h
      rcases List.mem_append.mp (List.mem_of_mem_take h) with h | h
      · exact (hu.host _ h).1 rfl
      · exact notMem_query (.inr rfl) h
    rw [List.take_append, List.take_replicate, List.append_assoc, ← List.replicate_succ',
      List.replicate_succ, cString_append hzero]
  · rw [List.take_append, List.take_of_length_le hlength, List.append_right_eq_self,
      List.take_eq_nil_iff, Nat.sub_eq_zero_iff_le, or_comm]
    refine or_congr ?_ ⟨fun h => Nat.le_antisymm hlength h, fun h => h.ge⟩
    rw [Url.query]
    cases u.transport with
    | none => exact iff_of_true rfl rfl
    | some t => exact iff_of_false nofun nofun

/-- What is stored is right by the text in the field and by what the prefix tells. -/
theorem stored_iff (hu : u.Valid) {server' : IceServer} (hurl : cString server'.url = .ok text)
    (hturn : server'.isTurn = (u.scheme != .stun))
    (hsecure : server'.isSecure = (if u.scheme = .stun then server.isSecure
      else u.scheme == .turns))
    (htransport : server'.transport = (if u.scheme = .stun then server.transport
      else urlTransport u.text))
    (ipAddresses : DualKvsIpAddresses) :
    Stored u (setPorts server' u.portNumber ipAddresses) ↔
      text = u.host ∧ (u.scheme = .stun → server.isSecure = false ∧ server.transport =
        u.transport) ∧
        (u.scheme ≠ .stun → urlTransport u.text = u.transport) := by
  have hport : ∀ ipAddress ∈ [withPort u.portNumber ipAddresses.ipv4Address,
      withPort u.portNumber ipAddresses.ipv6Address], ipAddress.family ≠ 0 →
      beNat ipAddress.port = u.portNumber := by
    intro ipAddress hmem
    rcases List.mem_pair.mp hmem with rfl | rfl
    · exact beNat_withPort hu.portNumber_lt
    · exact beNat_withPort hu.portNumber_lt
  constructor
  · rintro ⟨hstored, -, -, hs, ht⟩
    refine ⟨Except.ok.inj (hurl.symm.trans hstored), fun h => ?_, fun h => ?_⟩
    · rw [if_pos h] at hsecure htransport
      refine ⟨hsecure.symm.trans (hs.trans ?_), htransport.symm.trans ht⟩
      rw [h]
      rfl
    · rw [if_neg h] at htransport
      exact htransport.symm.trans ht
  · rintro ⟨rfl, hstun, hother⟩
    refine ⟨hurl, hport, hturn, ?_, ?_⟩
    · by_cases h : u.scheme = .stun
      · rw [if_pos h] at hsecure
        refine hsecure.trans ((hstun h).1.trans ?_)
        rw [h]
        rfl
      · rwa [if_neg h] at hsecure
    · by_cases h : u.scheme = .stun
      · rw [if_pos h] at htransport
        exact htransport.trans (hstun h).2
      · rw [if_neg h] at htransport
        exact htransport.trans (hother h)

theorem fits_iff (hu : u.Valid) : Fits u server ↔
    u.host.length ≤ maxIceConfigUriLen ∧
      (u.port = none → u.transport = none ∨ u.host.length = maxIceConfigUriLen) ∧
      (u.scheme = .stun → server.isSecure = false ∧ server.transport = u.transport) ∧
      (u.scheme ≠ .stun → urlTransport u.text = u.transport) := by
  rw [urlTransport_eq_iff hu]
  constructor
  · rintro ⟨hhost, hquery, hstun, hudp, htcp⟩
    exact ⟨hhost, hquery, hstun, fun h => ⟨hudp h, htcp h⟩⟩
  · rintro ⟨hhost, hquery, hstun, hother⟩
    exact ⟨hhost, hquery, hstun, fun h => (hother h).1, fun h => (hother h).2⟩

theorem parsesRight_iff (hu : u.Valid) (hserver : server.WellFormed)
    (hplatform : ReadsDigits platform) (hresolves : Resolves platform server)
    (hcredentials : u.scheme ≠ .stun → username ≠ [] ∧ credential ≠ []) :
    ParsesRight platform server u username credential ↔ Fits u server := by
  obtain ⟨server', hcall, hurl, hfn, hturn, hsecure, htransport⟩ :=
    parsePrefix_eq hserver hcredentials
  -- with the host read, what is left is what `parsePrefix` has stored
  have hresolved : ∀ url text, cString url = .ok text →
      parseHost platform server' u.noPrefix = .ok (.success, { server' with url := url },
        u.portNumber) →
      (ParsesRight platform server u username credential ↔
        u.host.length ≤ maxIceConfigUriLen ∧ text = u.host ∧
          (u.scheme = .stun → server.isSecure = false ∧ server.transport = u.transport) ∧
          (u.scheme ≠ .stun → urlTransport u.text = u.transport)) := by
    intro url text htext hhost
    have hresolves' : Resolves platform { server' with url := url } :=
      ⟨hresolves.getIpWithHostName, fun f hf => hresolves.setIpFn f (hfn ▸ hf)⟩
    obtain ⟨ipAddresses, hresolve⟩ := resolve_eq hresolves' htext u.portNumber
    have hparse : parseIceServer platform server u.text username credential = .ok (.success, _) :=
      (parseIceServer_eq hcall).trans (by rw [hhost]; exact hresolve)
    rw [← @stored_iff server u text hu { server' with
      url := url } htext hturn hsecure htransport ipAddresses, ParsesRight, hparse]
    constructor
    · rintro ⟨status, server'', heq, h⟩
      cases heq
      by_cases hlength : u.host.length ≤ maxIceConfigUriLen
      · rw [if_pos hlength] at h
        exact ⟨hlength, h.2⟩
      · rw [if_neg hlength] at h
        cases h
    · rintro ⟨hlength, h⟩
      exact ⟨_, _, rfl, by rw [if_pos hlength]; exact ⟨rfl, h⟩⟩
  rw [fits_iff hu]
  cases hport : u.port with
  | none =>
    obtain ⟨text, htext, hiff⟩ := cString_default hu
    have hdefault : u.portNumber = iceStunDefaultPort := by rw [Url.portNumber, hport]; rfl
    have hhost := @parseHost_default platform server' u hu (hurl ▸ hserver.url) hport
    rw [← hdefault] at hhost
    rw [hresolved _ text htext hhost]
    refine and_congr_right fun hlength => and_congr_left fun _ => ?_
    rw [hiff hlength]
    exact ⟨fun h _ => h, fun h => h rfl⟩
  | some p =>
    have hhost := @parseHost_port platform server' u hu hplatform p hport
    have hsize : server'.url.length = maxIceConfigUriLen + 1 := by rw [hurl, length_url hserver]
    by_cases hlength : u.host.length ≤ maxIceConfigUriLen
    · rw [if_pos (hsize ▸ Nat.lt_succ_of_le hlength)] at hhost
      rw [hresolved _ u.host (cString_append fun h => (hu.host _ h).1 rfl) hhost]
      exact and_congr_right fun _ => and_congr_left fun _ => iff_of_true rfl nofun
    · -- hlength => a host that is too long is written over the end
      rw [if_neg (hsize ▸ fun h => hlength (Nat.le_of_lt_succ h))] at hhost
      have hparse : parseIceServer platform server u.text username credential =
          .error .outOfBounds :=
        (parseIceServer_eq hcall).trans (by rw [hhost]; rfl)
      refine iff_of_false ?_ fun h => hlength h.1
      rintro ⟨status, server'', heq, -⟩
      rw [hparse] at heq
      cases heq

def readDigits (digits : List Char) : Except Status Nat :=
  if digits ≠ [] ∧ digits.all Char.isDigit then .ok (Nat.ofDigitChars 10 digits 0)
    else .error .invalidArg

/-- Reads digits, and resolves every name to the same address. -/
def samplePlatform : Platform where
  strtoui32 text stop := readDigits (stop.elim text fun n => text.take n.toNat)
  getIpWithHostName _ _ := (.success, ⟨⟨Stun.familyIpv4, [0, 0], [127, 0, 0, 1]⟩, ⟨0, [0, 0], []⟩⟩)

def sampleServer : IceServer where
  isTurn := false
  isSecure := false
  url := List.replicate (maxIceConfigUriLen + 1) '\x00'
  ipAddresses := ⟨⟨0, [0, 0], []⟩, ⟨0, [0, 0], []⟩⟩
  username := List.replicate (maxIceConfigUserNameLen + 1) '\x00'
  credential := List.replicate (maxIceConfigCredentialLen + 1) '\x00'
  transport := none
  setIpFn := none

theorem readsDigits_samplePlatform : ReadsDigits samplePlatform := by
  intro digits rest hne hdigits _
  have hread : readDigits digits = .ok (Nat.ofDigitChars 10 digits 0) :=
    if_pos ⟨hne, List.all_eq_true.mpr hdigits⟩
  refine ⟨?_, hread⟩
  show readDigits ((digits ++ rest).take digits.length) = _
  rw [List.take_left' rfl, hread]

theorem resolves_sampleServer : Resolves samplePlatform sampleServer := ⟨fun _ _ => rfl, nofun⟩

theorem wellFormed_sampleServer : sampleServer.WellFormed where
  url := by
    rw [sampleServer, List.drop_replicate, Nat.add_sub_cancel_left]
    rfl
  username := List.length_replicate
  credential := List.length_replicate

theorem parsesRight_sampleServer :
    ParsesRight samplePlatform sampleServer ⟨.turns, "a.b".toList, some "443".toList, some .udp⟩
    ['u'] ['p'] :=
  (parsesRight_iff ⟨by simp, by simp, by decide⟩ wellFormed_sampleServer readsDigits_samplePlatform
    resolves_sampleServer (by decide)).mpr ⟨by decide, nofun, nofun, by decide, nofun⟩

def sampleUrl : Url := ⟨.turn, ['a'], none, some .udp⟩

theorem not_parsesRight :
    sampleUrl.Valid ∧ sampleUrl.text = "turn:a?transport=udp".toList ∧ sampleServer.WellFormed ∧
      ReadsDigits samplePlatform ∧ Resolves samplePlatform sampleServer ∧
      ¬ ParsesRight samplePlatform sampleServer sampleUrl ['u'] ['p'] := by
  refine ⟨⟨by simp [sampleUrl], nofun, by decide⟩, rfl, wellFormed_sampleServer,
    readsDigits_samplePlatform, resolves_sampleServer, ?_⟩
  rintro ⟨status, server', heq, h⟩
  rw [if_pos (by decide)] at h
  have htext : (parseIceServer samplePlatform sampleServer sampleUrl.text ['u'] ['p']).map
      (fun r => cString r.2.url) = .ok (.ok "a?transport=udp".toList) := by decide +kernel
  rw [heq, Except.map, h.2.url] at htext
  cases htext

end KvsWebrtc.Ice.IceUtils
