import KvsWebrtc.Common.BigEndian
import KvsWebrtc.Ice.Candidates
import KvsWebrtc.Ice.Equiv.RemoteCandidates

/-!
# The text of a candidate, written and read

The tokens of the text are in the places in which `iceAgentAddRemoteCandidate` looks for them
(`parseCandidate_candidateText`), so that an agent that has no candidates gets from it a remote
candidate with the address, the priority and the type of the local one (`candidate_roundTrips`).
-/

namespace KvsWebrtc.Ice

open Stun Text

variable {inetPton : Nat → List Char → Option (List UInt8)}
    {strtoui32 : List Char → Except Status Nat}
  {iceCandidate : IceCandidate}

/-- The address is one of the two families. -/
structure Serializable (iceCandidate : IceCandidate) : Prop where
  family : iceCandidate.ipAddress.family = familyIpv4 ∨ iceCandidate.ipAddress.family = familyIpv6
  length_port : iceCandidate.ipAddress.port.length = 2
  priority_lt : iceCandidate.priority < 2 ^ 32

/-- `inet_pton` inverts the formatting of the address, and takes no text for an address of the other
family; `STRTOUI32` reads numbers of 32 bits. -/
structure ReadsBack (inetPton : Nat → List Char → Option (List UInt8))
    (strtoui32 : List Char → Except Status Nat) (ipAddress : KvsIpAddress) : Prop where
  inverts : inetPton ipAddress.family (addressText ipAddress) =
    some (ipAddress.address.take (ipAddressLength ipAddress.family))
  rejects : ipAddress.family = familyIpv6 → inetPton familyIpv4 (addressText ipAddress) = none
  decimal : ∀ n < 2 ^ 32, strtoui32 (decimal n) = .ok n

/-- The remote candidate that is to be added for a local one. -/
structure IsRemoteCopy (copy iceCandidate : IceCandidate) : Prop where
  isRemote : copy.isRemote = true
  state : copy.state = .valid
  ipAddress : addressKey copy.ipAddress = addressKey iceCandidate.ipAddress
  priority : copy.priority = iceCandidate.priority
  iceCandidateType : copy.iceCandidateType = iceCandidate.iceCandidateType

/-! ### Tokens -/

theorem blank_notMem_decimal (n : Nat) : ' ' ∉ decimal n :=
  fun h => absurd (isDigit_of_mem_decimal h) (by decide)

theorem hexDigit_ne_blank (n : Nat) : hexDigit n ≠ ' ' := by
  rw [hexDigit, List.getD_eq_getElem?_getD]
  cases h : "0123456789ABCDEF".toList[n]? with
  | none => decide
  | some c =>
    have hblank : ' ' ∉ "0123456789ABCDEF".toList := by decide
    rintro rfl
    exact hblank (List.mem_of_getElem? h)

theorem blank_notMem_intercalate {sep : Char} (hsep : sep ≠ ' ') {texts : List (List Char)}
    (h : ∀ text ∈ texts, ' ' ∉ text) : ' ' ∉ [sep].intercalate texts := by
  induction texts with
  | nil => exact List.not_mem_nil
  | cons text rest ih =>
    obtain ⟨htext, hrest⟩ := List.forall_mem_cons.mp h
    by_cases hnil : rest = []
    · rwa [hnil, List.intercalate_singleton]
    · rw [List.intercalate_cons_of_ne_nil hnil, List.mem_append, List.mem_append,
        List.mem_singleton]
      rintro ((hmem | hmem) | hmem)
      · exact htext hmem
      · exact hsep hmem.symm
      · exact ih hrest hmem

theorem blank_notMem_addressText (ipAddress : KvsIpAddress) : ' ' ∉ addressText ipAddress := by
  rw [addressText]
  split_ifs
  · apply blank_notMem_intercalate (by decide)
    simp only [List.forall_mem_map]
    exact fun i _ => blank_notMem_decimal _
  · apply blank_notMem_intercalate (by decide)
    simp only [List.forall_mem_map, hexByte, List.mem_append, List.mem_cons, List.not_mem_nil,
      or_false, not_or]
    exact fun i _ => ⟨⟨(hexDigit_ne_blank _).symm, (hexDigit_ne_blank _).symm⟩,
      (hexDigit_ne_blank _).symm, (hexDigit_ne_blank _).symm⟩

theorem blank_notMem_type (iceCandidateType : IceCandidateType) :
    ' ' ∉ (iceAgentGetCandidateTypeStr iceCandidateType).toList := by
  cases iceCandidateType <;> decide

/-- The tokens that the parser reads are the first eight. -/
theorem splitOn_candidateText (foundation : Nat) (iceCandidate : IceCandidate) :
    ∃ rest, rest ≠ [] ∧ (candidateText foundation iceCandidate).splitOn ' ' =
      [decimal foundation, "1".toList, "udp".toList, decimal iceCandidate.priority,
        addressText iceCandidate.ipAddress, decimal (beNat iceCandidate.ipAddress.port),
          "typ".toList,
        (iceAgentGetCandidateTypeStr iceCandidate.iceCandidateType).toList] ++ rest := by
  rw [candidateText, List.splitOn_intercalate ' ' _ (List.cons_ne_nil _ _)]
  · exact ⟨_, List.cons_ne_nil _ _, rfl⟩
  · simp only [List.forall_mem_cons, List.not_mem_nil, false_implies, implies_true, and_true]
    refine ⟨blank_notMem_decimal _, by decide, by
      decide, blank_notMem_decimal _, blank_notMem_addressText _, blank_notMem_decimal _, by
      decide, blank_notMem_type _, by decide, ?_, by decide, by decide, by decide,
      by decide, by decide, by decide⟩
    split_ifs <;> decide

/-! ### The parser -/

def parsedCopy (iceCandidate : IceCandidate) : ParsedCandidate where
  foundIp := true
  ipAddress :=
    { iceCandidate.ipAddress with
      address :=
        iceCandidate.ipAddress.address.take (ipAddressLength iceCandidate.ipAddress.family) }
  priority := iceCandidate.priority
  iceCandidateType := iceCandidate.iceCandidateType

theorem length_decimal_byte_le (b : UInt8) : (decimal b.toNat).length ≤ 3 :=
  (Nat.length_toDigits_le_iff (by decide) (by decide)).mpr (Nat.lt_trans b.toNat_lt (by decide))

theorem length_addressText_le (ipAddress : KvsIpAddress) :
    (addressText ipAddress).length ≤ maxIpAddressStringLen := by
  rw [addressText]
  split_ifs
  · have h₀ := length_decimal_byte_le (ipAddress.address.getD 0 0)
    have h₁ := length_decimal_byte_le (ipAddress.address.getD 1 0)
    have h₂ := length_decimal_byte_le (ipAddress.address.getD 2 0)
    have h₃ := length_decimal_byte_le (ipAddress.address.getD 3 0)
    rw [ipv4Text, show List.range 4 = [0, 1, 2, 3] from rfl]
    simp only [List.map_cons, List.map_nil, List.intercalate_cons_cons, List.intercalate_singleton,
      List.length_append, List.length_singleton, maxIpAddressStringLen]
    omega
  · rw [ipv6Text, show List.range 8 = [0, 1, 2, 3, 4, 5, 6, 7] from rfl]
    simp only [List.map_cons, List.map_nil, List.intercalate_cons_cons, List.intercalate_singleton,
      hexByte, List.length_append, List.length_cons, List.length_nil, maxIpAddressStringLen]
    decide

theorem read_ip (hc : Serializable iceCandidate)
    (h : ReadsBack inetPton strtoui32 iceCandidate.ipAddress) (parsed : ParsedCandidate) :
    parsed.read inetPton strtoui32 (addressText iceCandidate.ipAddress) .ip =
      .ok { parsed with
        foundIp := true
        ipAddress := ⟨iceCandidate.ipAddress.family, parsed.ipAddress.port,
          iceCandidate.ipAddress.address.take
            (ipAddressLength iceCandidate.ipAddress.family)⟩ } := by
  have hinverts := h.inverts
  have htake : (addressText iceCandidate.ipAddress).take maxIpAddressStringLen =
      addressText iceCandidate.ipAddress := List.take_of_length_le (length_addressText_le _)
  rw [ParsedCandidate.read, htake]
  rcases hc.family with hfamily | hfamily
  -- an address is first read as one of IPv4
  · rw [hfamily] at hinverts ⊢
    rw [hinverts]
  · rw [h.rejects hfamily]
    rw [hfamily] at hinverts ⊢
    dsimp only
    rw [hinverts]

theorem read_port (hc : Serializable iceCandidate)
    (h : ReadsBack inetPton strtoui32 iceCandidate.ipAddress) (parsed : ParsedCandidate) :
    parsed.read inetPton strtoui32 (decimal (beNat iceCandidate.ipAddress.port)) .port =
      .ok { parsed with
        ipAddress := { parsed.ipAddress with port := iceCandidate.ipAddress.port } } := by
  have hlt := beNat_lt iceCandidate.ipAddress.port
  have hbytes := beBytes_beNat iceCandidate.ipAddress.port
  rw [hc.length_port] at hlt hbytes
  rw [ParsedCandidate.read, h.decimal _ (by omega)]
  dsimp only
  rw [hbytes]

theorem read_type (parsed : ParsedCandidate) (iceCandidateType : IceCandidateType) :
    parsed.read inetPton strtoui32 (iceAgentGetCandidateTypeStr iceCandidateType).toList .typeVal =
      .ok { parsed with iceCandidateType := iceCandidateType } := by
  cases iceCandidateType <;> rfl

/-- **The parser** finds every field of a candidate in its text. -/
theorem parseCandidate_candidateText (foundation : Nat) (hc : Serializable iceCandidate)
    (h : ReadsBack inetPton strtoui32 iceCandidate.ipAddress) :
    parseCandidate inetPton strtoui32 (candidateText foundation iceCandidate) =
      .ok (parsedCopy iceCandidate) := by
  obtain ⟨rest, hrest, hsplit⟩ := splitOn_candidateText foundation iceCandidate
  rw [parseCandidate, hsplit, List.dropLast_append_of_ne_nil hrest]
  simp only [sdpIceCandidateParserStates, List.cons_append, List.nil_append, List.zip_cons_cons,
    List.zip_nil_right, List.foldlM_cons, List.foldlM_nil]
  have hpriority := h.decimal _ hc.priority_lt
  have hprotocol : matchesText "tcp" "udp".toList = false := by decide
  have htyp : matchesText "typ" "typ".toList = true := by decide
  simp only [read_ip hc h, read_port hc h, read_type]
  simp only [ParsedCandidate.read, hpriority, hprotocol, htyp]
  rfl

/-! ### The agent -/

theorem isNew_parsedCopy (foundation : Nat) (hc : Serializable iceCandidate) {platform : Platform}
    (h : ReadsBack platform.inetPton platform.strtoui32 iceCandidate.ipAddress) {agent : IceAgent}
    (hremote : agent.remoteCandidates = []) :
    agent.IsNew platform (candidateText foundation iceCandidate) (parsedCopy iceCandidate) where
  ne_nil := by
    intro hnil
    obtain ⟨rest, -, hsplit⟩ := splitOn_candidateText foundation iceCandidate
    rw [hnil] at hsplit
    have hlength := congrArg List.length hsplit
    rw [List.splitOn_nil, List.length_append] at hlength
    simp only [List.length_cons, List.length_nil] at hlength
    omega
  length_lt := by
    rw [hremote]
    decide
  parse := parseCandidate_candidateText foundation hc h
  foundIp := rfl
  unknown := by
    rw [IceAgent.findCandidateWithIp, hremote]
    rfl

theorem isRemoteCopy_addRemote (agent : IceAgent) :
    IsRemoteCopy
      ((agent.addRemote iceCandidate.iceCandidateType (parsedCopy iceCandidate).ipAddress
        iceCandidate.priority).candidate agent.nextAddress) iceCandidate := by
  rw [IceAgent.addRemote_eq, (IceAgent.sameCandidates_createIceCandidatePairs _ _ _).candidate]
  have hcandidate : (agent.putRemote iceCandidate.iceCandidateType
      (parsedCopy iceCandidate).ipAddress
      iceCandidate.priority).candidate agent.nextAddress =
        ⟨iceCandidate.iceCandidateType, true, (parsedCopy iceCandidate).ipAddress, none, .valid,
          iceCandidate.priority, false, false, []⟩ := by
    simp [IceAgent.putRemote, IceAgent.allocCandidate]
  rw [hcandidate]
  refine ⟨rfl, rfl, ?_, rfl, rfl⟩
  simp only [addressKey, parsedCopy, List.take_take, Nat.min_self]

/-- **The text of a candidate, written and read**: an agent without candidates adds one remote
candidate, which is the copy of the local one. -/
theorem candidate_roundTrips (foundation : Nat) (hc : Serializable iceCandidate)
    (h : ReadsBack inetPton strtoui32 iceCandidate.ipAddress) {agent : IceAgent}
    (hlocal : agent.localCandidates = []) (hremote : agent.remoteCandidates = [])
    {outputLength : Nat} (hroom : (candidateText foundation iceCandidate).length < outputLength) :
    ∃ text agent' copy,
      (iceCandidateSerialize foundation iceCandidate true outputLength).outputData = some text ∧
      (outputLength < 2 ^ 31 →
        (iceCandidateSerialize foundation iceCandidate true outputLength).status = .success) ∧
      agent.addRemoteCandidate inetPton strtoui32 text = (.success, agent') ∧
      agent'.localCandidates = [] ∧ agent'.remoteCandidates = [copy] ∧
      IsRemoteCopy (agent'.candidate copy) iceCandidate := by
  have hclip : clip (outputLength - 1) (candidateText foundation iceCandidate) =
      candidateText foundation iceCandidate := clip_eq_self (by omega)
  -- what the platform has besides is not used
  let platform : Platform := ⟨fun _ _ => ⟨List.replicate stunHmacValueLen 0, List.length_replicate⟩,
    fun _ => 0, inetPton, strtoui32⟩
  have hnew : agent.IsNew platform (candidateText foundation iceCandidate)
      (parsedCopy iceCandidate) :=
    isNew_parsedCopy foundation hc h hremote
  refine ⟨candidateText foundation iceCandidate,
    agent.addRemote iceCandidate.iceCandidateType (parsedCopy iceCandidate).ipAddress
    iceCandidate.priority, agent.nextAddress, ?_, fun hlen => ?_, ?_, ?_, ?_,
    isRemoteCopy_addRemote agent⟩
  · rw [iceCandidateSerialize]
    simp only [Bool.true_eq_false, if_false, hclip]
    split_ifs <;> rfl
  · rw [iceCandidateSerialize, if_neg (by decide), if_pos ⟨hroom, hlen⟩]
  · have hadd := hnew.addRemoteCandidate_eq
    rw [hlocal] at hadd
    exact hadd
  · rw [IceAgent.addRemote_eq,
      (IceAgent.sameCandidates_createIceCandidatePairs _ _ _).localCandidates]
    exact hlocal
  · rw [IceAgent.addRemote_eq,
      (IceAgent.sameCandidates_createIceCandidatePairs _ _ _).remoteCandidates]
    exact congrArg (agent.nextAddress :: ·) hremote

def hostCandidate : IceCandidate where
  iceCandidateType := .host
  isRemote := false
  ipAddress := ⟨familyIpv4, [0x13, 0x88], [192, 0, 2, 1]⟩
  socketConnection := some 0
  state := .valid
  priority := 2130706431
  isPointToPoint := false
  reported := false
  turnPeers := []

theorem readsBack_hostCandidate :
    ReadsBack samplePlatform.inetPton samplePlatform.strtoui32 hostCandidate.ipAddress where
  inverts := by decide
  rejects := fun h => absurd h (by decide)
  decimal := by
    intro n _
    have hdigits : decimal n ≠ [] ∧ (decimal n).all Char.isDigit := by
      refine ⟨?_, List.all_eq_true.mpr fun c hc => isDigit_of_mem_decimal hc⟩
      exact Nat.toDigits_ne_nil
    have hread : Nat.ofDigitChars 10 (decimal n) 0 = n := Nat.ofDigitChars_ten_toDigits
    refine (if_pos hdigits).trans (congrArg Except.ok ?_)
    exact hread

theorem candidate_roundTrips_host :
    ∃ text agent' copy,
      (iceCandidateSerialize 1 hostCandidate true 256).outputData = some text ∧
      (256 < 2 ^ 31 → (iceCandidateSerialize 1 hostCandidate true 256).status = .success) ∧
      (createIceAgent [] 0).addRemoteCandidate samplePlatform.inetPton samplePlatform.strtoui32
        text =
        (.success, agent') ∧
      agent'.localCandidates = [] ∧ agent'.remoteCandidates = [copy] ∧
      IsRemoteCopy (agent'.candidate copy) hostCandidate :=
  candidate_roundTrips 1 ⟨.inl rfl, rfl, by decide⟩ readsBack_hostCandidate rfl rfl (by decide)

end KvsWebrtc.Ice
