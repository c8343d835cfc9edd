import KvsWebrtc.PeerConnection.Equiv.Twcc
import Mathlib.Data.Int.ModEq
import Mathlib.Tactic.Linarith

/-!
# Decoding feedback packets

`Feedback` is a feedback packet as the format defines it: its statuses with their deltas, and the
chunks that encode the statuses.  `FeedbackDecoded` says that the parser marks the packets of the
table as the statuses say, whatever the table holds, and `feedback_decoded_iff` when this is so.

The macros for status vectors start one bit too early.  They take the bit that tells the two kinds
of vectors apart for the first status and never reach the last one, and of a symbol with two bits
they see the higher one.  A packet with such a vector is decoded right only if this makes no
difference.  The other conditions: a run must not be longer than the packets that are left, since
the parser goes on to its end; and a delta must not be `MIN_INT16`, which the parser takes for none.
-/

namespace KvsWebrtc.Twcc

/-! ### The format -/

/-- The symbols of a chunk: a run, one-bit symbols or two-bit symbols. -/
def symbolsOf (chunk : Nat) : List Nat :=
  if chunk < 2 ^ 15 then List.replicate (chunk % 2 ^ 13) (chunk / 2 ^ 13 % 4)
  else if chunk < 2 ^ 15 + 2 ^ 14 then (List.range 14).map fun i => chunk / 2 ^ (13 - i) % 2
  else (List.range 7).map fun i => chunk / 2 ^ (12 - 2 * i) % 4

/-- The status of a packet with its delta, in ticks.  A large delta is a number in two's
complement. -/
inductive Report
  | lost
  | small (delta : UInt8)
  | large (delta : UInt16)
deriving DecidableEq

namespace Report

def symbol : Report → Nat
  | lost => 0
  | small _ => 1
  | large _ => 2

def ticks : Report → Int
  | lost => 0
  | small delta => delta.toNat
  | large delta => signed16 delta.toNat

def bytes : Report → List UInt8
  | lost => []
  | small delta => [delta]
  | large delta => beBytes 2 delta.toNat

end Report

/-- The chunks end with the one that brings the statuses up to `n`. -/
def Covers : List UInt16 → Nat → Prop
  | [], n => n = 0
  | chunk :: chunks, n => 0 < n ∧ Covers chunks (n - (symbolsOf chunk.toNat).length)

instance Covers.decidable : ∀ chunks n, Decidable (Covers chunks n)
  | [], n => inferInstanceAs (Decidable (n = 0))
  | chunk :: chunks, n =>
    have := Covers.decidable chunks (n - (symbolsOf chunk.toNat).length)
    inferInstanceAs (Decidable (0 < n ∧ _))

/-- A well-formed feedback packet, with zeros behind its deltas. -/
structure Feedback where
  ssrcs : List UInt8
  baseSeqNum : UInt16
  referenceTime : Nat
  fbPktCount : UInt8
  chunks : List UInt16
  reports : List Report
  padding : Nat
  ssrcs_length : ssrcs.length = 8
  referenceTime_lt : referenceTime < 2 ^ 24
  reports_length : reports.length < 2 ^ 16
  covers : Covers chunks reports.length
  symbols_eq : (chunks.flatMap fun chunk => symbolsOf chunk.toNat).take reports.length =
    reports.map Report.symbol

namespace Feedback

def head (fb : Feedback) : List UInt8 :=
  fb.ssrcs ++ (beBytes 2 fb.baseSeqNum.toNat ++ (beBytes 2 fb.reports.length ++
    (beBytes 3 fb.referenceTime ++ [fb.fbPktCount])))

def payload (fb : Feedback) : List UInt8 :=
  fb.head ++ (fb.chunks.flatMap (fun chunk => beBytes 2 chunk.toNat) ++
    (fb.reports.flatMap Report.bytes ++ List.replicate fb.padding 0))

/-- The arrival time of the packet of a status: the reference time, in units of 64 milliseconds, and
the deltas up to the status, in ticks of 250 microseconds. -/
def arrivalTime (fb : Feedback) (i : Nat) : Nat :=
  ((640000 * fb.referenceTime + 2500 * ((fb.reports.take (i + 1)).map Report.ticks).sum : Int) %
    2 ^ 64).toNat

def remoteTime (fb : Feedback) (i : Nat) : Nat :=
  if fb.reports[i]? = some .lost then twccPacketLostTime else fb.arrivalTime i

end Feedback

/-- **The packet is decoded**: the parser marks the packets of the table that the packet has a
status for, as the status says, and touches no other. -/
def FeedbackDecoded (fb : Feedback) : Prop :=
  ∀ m : TwccManager, ∃ m', m.parseRtcpTwccPacket fb.payload = .ok m' ∧
    (∀ i < fb.reports.length,
      m'.twccRtpPktInfosHashTable (fb.baseSeqNum + UInt16.ofNat i).toUInt64 =
        (m.twccRtpPktInfosHashTable (fb.baseSeqNum + UInt16.ofNat i).toUInt64).map fun info =>
          { info with remoteTimeKvs := fb.remoteTime i }) ∧
    ∀ key, (∀ i < fb.reports.length, key ≠ (fb.baseSeqNum + UInt16.ofNat i).toUInt64) →
      m'.twccRtpPktInfosHashTable key = m.twccRtpPktInfosHashTable key

/-! ### When it is decoded -/

/-- The symbols that the macros find in the chunks for `n` statuses. -/
def macroSymbols : List UInt16 → Nat → List Nat
  | [], _ => []
  | chunk :: chunks, n =>
    chunkSymbols chunk.toNat n ++ macroSymbols chunks (n - (chunkSymbols chunk.toNat n).length)

def widening (symbol : Nat) (report : Report) : Nat := if symbol = 2 ∧ report.symbol = 1 then 1
    else 0

/-- The symbol read for a status does no harm to it, if the deltas are read `lead` bytes too far. -/
structure Harmless (lead symbol : Nat) (report : Report) : Prop where
  lost : symbol = 0 ↔ report.symbol = 0
  delta : report.ticks ≠ minInt16
  zero : 0 < lead + widening symbol report → report.ticks = 0

/-- The symbols read do no harm.  Once a small delta is read as a large one, the deltas have to be
zero, and the packet needs a byte of padding for every such delta. -/
def AllHarmless (padding : Nat) : Nat → List Nat → List Report → Prop
  | lead, [], [] => lead ≤ padding
  | lead, symbol :: symbols, report :: reports =>
    Harmless lead symbol report ∧
      AllHarmless padding (lead + widening symbol report) symbols reports
  | _, _, _ => False

def ReadRight (fb : Feedback) : Prop :=
  AllHarmless fb.padding 0 (macroSymbols fb.chunks fb.reports.length) fb.reports

/-! ### The header and the chunks -/

theorem isRunlen_iff {chunk : Nat} (h : chunk < 2 ^ 16) :
    isRunlen chunk = true ↔ chunk < 2 ^ 15 := by
  rw [isRunlen, beq_iff_eq, Nat.shiftRight_eq_div_pow, Nat.and_one_is_mod]
  omega

theorem statusVectorIs2Bit_iff {chunk : Nat} (hvector : 2 ^ 15 ≤ chunk) (h : chunk < 2 ^ 16) :
    statusVectorIs2Bit chunk = true ↔ 2 ^ 15 + 2 ^ 14 ≤ chunk := by
  rw [statusVectorIs2Bit, beq_iff_eq, Nat.shiftRight_eq_div_pow, Nat.and_one_is_mod]
  omega

theorem runlenGet_eq (chunk : Nat) : runlenGet chunk = chunk % 2 ^ 13 :=
  Nat.and_two_pow_sub_one_eq_mod chunk 13

theorem runlenStatusSymbol_eq (chunk : Nat) : runlenStatusSymbol chunk = chunk / 2 ^ 13 % 4 := by
  rw [runlenStatusSymbol, Nat.shiftRight_eq_div_pow]
  exact Nat.and_two_pow_sub_one_eq_mod _ 2

theorem chunkSymbols_of_run {chunk : Nat} (h : chunk < 2 ^ 15) (n : Nat) :
    chunkSymbols chunk n = symbolsOf chunk := by
  rw [chunkSymbols, if_pos ((isRunlen_iff (by omega)).mpr h), symbolsOf, if_pos h, runlenGet_eq,
    runlenStatusSymbol_eq]

/-- The number of statuses of a chunk does not depend on how they are read. -/
theorem length_symbolsOf {chunk : Nat} (h : chunk < 2 ^ 16) :
    (symbolsOf chunk).length =
      if isRunlen chunk then runlenGet chunk else statusVectorCount chunk := by
  rw [symbolsOf, statusVectorCount]
  by_cases hrun : chunk < 2 ^ 15
  · rw [if_pos hrun, if_pos ((isRunlen_iff h).mpr hrun), List.length_replicate, runlenGet_eq]
  · rw [if_neg hrun, if_neg (mt (isRunlen_iff h).mp hrun)]
    have htwo := statusVectorIs2Bit_iff (Nat.le_of_not_lt hrun) h
    by_cases hone : chunk < 2 ^ 15 + 2 ^ 14
    · rw [if_pos hone, if_neg (mt htwo.mp (Nat.not_le_of_lt hone)), List.length_map,
        List.length_range]
    · rw [if_neg hone, if_pos (htwo.mpr (Nat.le_of_not_lt hone)), List.length_map,
        List.length_range]

theorem sub_length_chunkSymbols (chunk : UInt16) (n : Nat) :
    n - (chunkSymbols chunk.toNat n).length = n - (symbolsOf chunk.toNat).length := by
  rw [length_symbolsOf chunk.toNat_lt, chunkSymbols]
  split_ifs
  · rw [List.length_replicate]
  · rw [List.length_map, List.length_range]
    omega

theorem beNat_chunk (chunk : UInt16) :
    ∃ hi lo, beBytes 2 chunk.toNat = [hi, lo] ∧ beNat [hi, lo] = chunk.toNat := by
  refine ⟨_, _, rfl, ?_⟩
  show beNat (beBytes 2 chunk.toNat) = chunk.toNat
  exact beNat_beBytes_of_lt chunk.toNat_lt

/-- Behind the last chunk, both loops stop whatever follows. -/
theorem symbolsIn_of_nonpos {bytes : List UInt8} {packetsRemaining : Int}
    (h : packetsRemaining ≤ 0) :
    symbolsIn bytes packetsRemaining = .ok [] := by
  have hstop : ¬ packetsRemaining > 0 := by omega
  match bytes with
  | [] => rw [symbolsIn, if_neg hstop]; simp
  | [_] => rw [symbolsIn, if_neg hstop]; simp
  | _ :: _ :: _ => rw [symbolsIn, if_neg hstop]

theorem skipChunks_of_nonpos {bytes : List UInt8} {packetsRemaining : Int}
    (h : packetsRemaining ≤ 0) (chunkOffset : Nat) :
    TwccManager.skipChunks bytes packetsRemaining chunkOffset = .ok chunkOffset := by
  have hstop : ¬ packetsRemaining > 0 := by omega
  match bytes with
  | [] => rw [TwccManager.skipChunks]
  | [_] => rw [TwccManager.skipChunks, if_neg hstop]
  | _ :: _ :: _ => rw [TwccManager.skipChunks, if_neg hstop]

/-- The symbols of the chunks, with as many statuses as the packet has. -/
theorem symbolsIn_chunks {chunks : List UInt16} (n : Nat) (h : Covers chunks n)
    (packetsRemaining : Int) (hn : packetsRemaining.toNat = n) (rest : List UInt8) :
    symbolsIn (chunks.flatMap (fun chunk => beBytes 2 chunk.toNat) ++ rest) packetsRemaining =
      .ok (macroSymbols chunks n) := by
  induction chunks generalizing n packetsRemaining with
  | nil =>
    have hzero : n = 0 := h
    exact symbolsIn_of_nonpos (by omega)
  | cons chunk chunks ih =>
    obtain ⟨hpos, hmore⟩ := h
    obtain ⟨hi, lo, hbytes, hchunk⟩ := beNat_chunk chunk
    rw [List.flatMap_cons, hbytes]
    show symbolsIn (hi :: lo :: (chunks.flatMap (fun chunk => beBytes 2 chunk.toNat) ++ rest))
      packetsRemaining = _
    rw [symbolsIn, if_pos (by omega), hchunk, hn, macroSymbols]
    have hrest := ih (n - (chunkSymbols chunk.toNat n).length)
      (by rwa [sub_length_chunkSymbols])
      (packetsRemaining - (chunkSymbols chunk.toNat n).length) (by omega)
    dsimp only
    rw [hrest]
    rfl

theorem skipChunks_chunks {chunks : List UInt16} {n : Nat} (h : Covers chunks n)
    {packetsRemaining : Int} (hn : packetsRemaining.toNat = n) (rest : List UInt8)
    (chunkOffset : Nat) :
    TwccManager.skipChunks (chunks.flatMap (fun chunk => beBytes 2 chunk.toNat) ++ rest)
      packetsRemaining
      chunkOffset = .ok (chunkOffset + 2 * chunks.length) := by
  induction chunks generalizing n packetsRemaining chunkOffset with
  | nil =>
    have hzero : n = 0 := h
    exact skipChunks_of_nonpos (by omega) chunkOffset
  | cons chunk chunks ih =>
    obtain ⟨hpos, hmore⟩ := h
    obtain ⟨hi, lo, hbytes, hchunk⟩ := beNat_chunk chunk
    rw [List.flatMap_cons, hbytes]
    show TwccManager.skipChunks (hi :: lo :: _) packetsRemaining chunkOffset = _
    rw [TwccManager.skipChunks, if_pos (by omega), hchunk]
    have hoffset : chunkOffset + 2 * (chunk :: chunks).length = chunkOffset + 2 + 2 *
        chunks.length := by
      rw [List.length_cons]
      omega
    rw [hoffset]
    apply ih hmore
    rw [length_symbolsOf chunk.toNat_lt]
    split_ifs <;> omega

theorem length_head (fb : Feedback) : fb.head.length = 16 := by
  simp [Feedback.head, fb.ssrcs_length]

/-- What `readFeedback` makes of a well-formed packet. -/
theorem readFeedback_payload_eq_ok_iff {fb : Feedback} {baseSeqNum : UInt16}
    {times : List (Option Nat)} :
    readFeedback fb.payload = .ok (baseSeqNum, times) ↔
      baseSeqNum = fb.baseSeqNum ∧
        ∃ c, readStatuses fb.payload (macroSymbols fb.chunks fb.reports.length)
          ⟨16 + 2 * fb.chunks.length, referenceTimeOf fb.referenceTime⟩ = .ok (times, c) := by
  obtain ⟨rest, hsplit⟩ : ∃ rest, fb.payload = fb.ssrcs ++ (beBytes 2 fb.baseSeqNum.toNat ++
      (beBytes 2 fb.reports.length ++ (beBytes 3 fb.referenceTime ++ rest))) := by
    rw [Feedback.payload, Feedback.head]
    simp only [List.append_assoc]
    exact ⟨_, rfl⟩
  have hbase : uint16At fb.payload 8 = .ok fb.baseSeqNum.toNat := by
    rw [uint16At, hsplit, fieldAt_middle fb.ssrcs_length (length_beBytes 2 _)]
    exact congrArg _ (beNat_beBytes_of_lt fb.baseSeqNum.toNat_lt)
  have hcount : uint16At fb.payload 10 = .ok fb.reports.length := by
    have hfield : fieldAt fb.payload 10 2 = .ok (beBytes 2 fb.reports.length) := by
      rw [hsplit, ← List.append_assoc]
      exact fieldAt_middle (by simp [fb.ssrcs_length]) (length_beBytes 2 _) _
    have hlt : fb.reports.length < 256 ^ 2 := fb.reports_length
    rw [uint16At, hfield]
    exact congrArg _ (beNat_beBytes_of_lt hlt)
  have hreference : fieldAt fb.payload 12 3 = .ok (beBytes 3 fb.referenceTime) := by
    rw [hsplit, ← List.append_assoc, ← List.append_assoc]
    exact fieldAt_middle (by simp [fb.ssrcs_length]) (length_beBytes 3 _) _
  have hlt : fb.referenceTime < 256 ^ 3 := fb.referenceTime_lt
  have hchunks : fb.payload.drop 16 = fb.chunks.flatMap (fun chunk => beBytes 2 chunk.toNat) ++
      (fb.reports.flatMap Report.bytes ++ List.replicate fb.padding 0) := by
    rw [Feedback.payload, ← length_head fb, List.drop_left]
  rw [readFeedback, hbase, hcount, hreference, hchunks]
  show (TwccManager.skipChunks _ _ _ >>= fun _ => _) = _ ↔ _
  rw [skipChunks_chunks fb.covers (Int.toNat_natCast _)]
  show (symbolsIn _ _ >>= fun _ => _) = _ ↔ _
  rw [symbolsIn_chunks _ fb.covers _ (Int.toNat_natCast _)]
  show (readStatuses _ _ _ >>= fun _ => _) = _ ↔ _
  rw [beNat_beBytes_of_lt hlt, bind_eq_ok_iff, UInt16.ofNat_toNat]
  constructor
  · rintro ⟨⟨times', c⟩, htimes, h⟩
    obtain ⟨rfl, rfl⟩ := Prod.mk.inj (Except.ok.inj h)
    exact ⟨rfl, c, htimes⟩
  · rintro ⟨rfl, c, htimes⟩
    exact ⟨(times, c), htimes, rfl⟩

/-! ### The times -/

theorem convertTimescale_ticks (ticks : Int) :
    convertTimescale ticks twccTicksPerSecond hundredsOfNanosInASecond = 2500 * ticks := by
  show (ticks * 10000000).tdiv 4000 = 2500 * ticks
  rw [show ticks * 10000000 = 2500 * ticks * 4000 by ring]
  exact Int.mul_tdiv_cancel _ (by decide)

theorem addDelta_eq (referenceTime : Nat) (ticks : Int) :
    addDelta referenceTime ticks = ((referenceTime + 2500 * ticks) % (2 ^ 64 : Int)).toNat := by
  rw [addDelta, convertTimescale_ticks]

theorem referenceTimeOf_eq (reference : Nat) : referenceTimeOf reference = 640000 * reference := by
  show (((reference * 64 : Int) * 10000000).tdiv 1000).toNat = 640000 * reference
  rw [show (reference * 64 : Int) * 10000000 = (640000 * reference : Int) * 1000 by ring,
    Int.mul_tdiv_cancel _ (by decide)]
  omega

/-- Times stay even, so that none of them is the one of a lost packet. -/
theorem addDelta_even {referenceTime : Nat} (h : referenceTime % 2 = 0) (ticks : Int) :
    addDelta referenceTime ticks % 2 = 0 := by
  rw [addDelta_eq]
  omega

theorem addDelta_inj {referenceTime : Nat} {a b : Int} (ha : -32768 ≤ a ∧ a < 32768)
    (hb : -32768 ≤ b ∧ b < 32768) (h : addDelta referenceTime a = addDelta referenceTime b) :
    a = b := by
  rw [addDelta_eq, addDelta_eq] at h
  have hpos : (2 ^ 64 : Int) ≠ 0 := by norm_num
  have hmod := congrArg (Nat.cast (R := Int)) h
  rw [Int.toNat_of_nonneg (Int.emod_nonneg _ hpos), Int.toNat_of_nonneg
    (Int.emod_nonneg _ hpos)] at hmod
  -- the difference is a multiple of 2^64, and too small for another one than zero
  have hsmall : |referenceTime + 2500 * b - (referenceTime + 2500 * a)| < (2 ^ 64 : Int) := by
    rw [abs_lt]
    constructor <;> linarith
  have hzero := Int.eq_zero_of_abs_lt_dvd (Int.ModEq.dvd hmod) hsmall
  linarith

/-! ### The symbols read -/

theorem and_two (n : Nat) : n &&& 2 = 2 * (n / 2 % 2) := by
  have hdiv : (n &&& 2) / 2 = n / 2 % 2 := by rw [Nat.and_div_two, ← Nat.and_one_is_mod]
  have hmod := Nat.and_mod_two_eq_one (a := n) (b := 2)
  omega

/-- What they read of a vector of two-bit symbols: the higher bit of the status before. -/
theorem statusVectorStatus_twoBit {chunk i : Nat} (h : statusVectorIs2Bit chunk = true)
    (hi : i < 7) :
    statusVectorStatus chunk i = 2 * (chunk / 2 ^ (15 - 2 * i) % 2) := by
  have hpow : 2 ^ (15 - 2 * i) = 2 ^ (14 - i * 2) * 2 := by
    rw [← pow_succ]
    congr 1
    omega
  rw [statusVectorStatus, statusVectorSsize, statusVectorSmask, h, if_pos rfl]
  rw [and_two, Nat.shiftRight_eq_div_pow, hpow, Nat.div_div_eq_div_mul]

/-- The symbols read are at most those of the format, where they are not zero. -/
structure Readable (symbols : List Nat) (reports : List Report) : Prop where
  le_two : ∀ symbol ∈ symbols, symbol ≤ 2
  wide : ∀ (i symbol : Nat) (report : Report), symbols[i]? = some symbol →
  reports[i]? = some report → symbol = 0 ∨ report.symbol ≤ symbol

theorem Report.symbol_le_two (report : Report) : report.symbol ≤ 2 := by
  cases report with
  | lost => exact Nat.zero_le 2
  | small _ => exact Nat.le_succ 1
  | large _ => exact Nat.le_refl 2

theorem statusVectorStatus_le_two (chunk i : Nat) : statusVectorStatus chunk i ≤ 2 := by
  apply Nat.le_trans Nat.and_le_right
  rw [statusVectorSmask]
  split_ifs <;> omega

theorem statusVectorStatus_wide {chunk i symbol : Nat} (hvector : 2 ^ 15 ≤ chunk)
    (h : chunk < 2 ^ 16) (hsymbol : (symbolsOf chunk)[i]? = some symbol) (htwo : symbol ≤ 2) :
    statusVectorStatus chunk i = 0 ∨ symbol ≤ statusVectorStatus chunk i := by
  have his := statusVectorIs2Bit_iff hvector h
  rw [symbolsOf, if_neg (by omega)] at hsymbol
  by_cases hone : chunk < 2 ^ 15 + 2 ^ 14
  · rw [if_pos hone, List.getElem?_map, Option.map_eq_some_iff] at hsymbol
    obtain ⟨j, -, rfl⟩ := hsymbol
    omega
  · rw [if_neg hone, List.getElem?_map, Option.map_eq_some_iff] at hsymbol
    obtain ⟨j, hj, rfl⟩ := hsymbol
    have hi : i < 7 := by
      have hlt := (List.getElem?_eq_some_iff.mp hj).1
      rwa [List.length_range] at hlt
    rw [statusVectorStatus_twoBit (his.mpr (Nat.le_of_not_lt hone)) hi]
    omega

theorem readable_chunkSymbols {chunk : Nat} (h : chunk < 2 ^ 16) {n : Nat} (hn : 0 < n)
    {reports : List Report}
    (hsymbols : (symbolsOf chunk).take reports.length = reports.map Report.symbol)
    (hreports : reports.length = min (symbolsOf chunk).length n) :
    Readable (chunkSymbols chunk n) reports := by
  have hreport : ∀ (i : Nat) (report : Report), reports[i]? = some report →
      (symbolsOf chunk)[i]? = some report.symbol := by
    intro i report hreport
    have hi : i < reports.length := (List.getElem?_eq_some_iff.mp hreport).1
    have htake := congrArg (fun l => l[i]?) hsymbols
    simpa [List.getElem?_take_of_lt hi, hreport] using htake
  by_cases hrun : chunk < 2 ^ 15
  · rw [chunkSymbols_of_run hrun]
    constructor
    · intro symbol hmem
      -- all symbols of a run are that of its first packet
      rw [symbolsOf, if_pos hrun] at hmem hreport hreports
      obtain ⟨hne, rfl⟩ := List.mem_replicate.mp hmem
      rw [List.length_replicate] at hreports
      have hzero : 0 < reports.length := by omega
      have hfirst := hreport 0 reports[0] (List.getElem?_eq_getElem hzero)
      rw [List.getElem?_replicate, if_pos (by omega)] at hfirst
      rw [Option.some.inj hfirst]
      exact Report.symbol_le_two _
    · intro i symbol report hsymbol hi
      rw [hreport i report hi] at hsymbol
      exact .inr (Nat.le_of_eq (Option.some.inj hsymbol))
  · have hstatus : ∀ (i symbol : Nat), (chunkSymbols chunk n)[i]? = some symbol →
        symbol = statusVectorStatus chunk i := by
      intro i symbol hsymbol
      rw [chunkSymbols, if_neg (mt (isRunlen_iff h).mp hrun), List.getElem?_map,
        Option.map_eq_some_iff] at hsymbol
      obtain ⟨j, hj, rfl⟩ := hsymbol
      obtain ⟨hlt, rfl⟩ := List.getElem?_eq_some_iff.mp hj
      rw [List.getElem_range]
    constructor
    · intro symbol hmem
      obtain ⟨i, hi⟩ := List.mem_iff_getElem?.mp hmem
      rw [hstatus i symbol hi]
      exact statusVectorStatus_le_two chunk i
    · intro i symbol report hsymbol hi
      rw [hstatus i symbol hsymbol]
      exact statusVectorStatus_wide (Nat.le_of_not_lt hrun) h (hreport i report hi)
        report.symbol_le_two

theorem length_chunkSymbols {chunk : Nat} (h : chunk < 2 ^ 16) (n : Nat) :
    (chunkSymbols chunk n).length =
      if chunk < 2 ^ 15 then (symbolsOf chunk).length else min (symbolsOf chunk).length n := by
  by_cases hrun : chunk < 2 ^ 15
  · rw [chunkSymbols_of_run hrun, if_pos hrun]
  · rw [if_neg hrun, length_symbolsOf h, chunkSymbols, if_neg (mt (isRunlen_iff h).mp hrun),
      if_neg (mt (isRunlen_iff h).mp hrun), List.length_map, List.length_range]

theorem readable_macroSymbols {chunks : List UInt16} {reports : List Report}
    (hcovers : Covers chunks reports.length)
    (hsymbols : (chunks.flatMap fun chunk => symbolsOf chunk.toNat).take reports.length =
      reports.map Report.symbol) :
    reports.length ≤ (macroSymbols chunks reports.length).length ∧
      Readable (macroSymbols chunks reports.length) reports := by
  induction chunks generalizing reports with
  | nil =>
    have hzero : reports.length = 0 := hcovers
    obtain rfl := List.length_eq_zero_iff.mp hzero
    exact ⟨Nat.zero_le _, fun _ hmem => absurd hmem List.not_mem_nil, fun _ _ _ _ h => nomatch h⟩
  | cons chunk chunks ih =>
    obtain ⟨hpos, hmore⟩ := hcovers
    have hlt := chunk.toNat_lt
    set k := (symbolsOf chunk.toNat).length with hk
    rw [macroSymbols, sub_length_chunkSymbols, ← hk]
    rw [List.flatMap_cons] at hsymbols
    -- the chunk covers the first `k` reports
    have hfirst : (symbolsOf chunk.toNat).take (reports.take k).length =
        (reports.take k).map Report.symbol := by
      rw [List.map_take, ← hsymbols, List.length_take, List.take_take,
        List.take_append_of_le_length]
      exact Nat.min_le_left _ _
    have hread := readable_chunkSymbols hlt hpos hfirst List.length_take
    have hlength := length_chunkSymbols hlt reports.length
    have hrest : (reports.drop k).length = reports.length - k := List.length_drop
    by_cases hle : k ≤ reports.length
    · have hsame : (chunkSymbols chunk.toNat reports.length).length = k := by
        rw [hlength]
        split_ifs <;> omega
      have hdrop : (chunks.flatMap fun chunk => symbolsOf chunk.toNat).take
          (reports.drop k).length =
          (reports.drop k).map Report.symbol := by
        rw [List.map_drop, ← hsymbols, hrest, List.take_append, List.drop_append, ← hk,
          List.drop_of_length_le (by rw [List.length_take]; omega), List.nil_append,
          List.length_take]
        simp [hle, ← hk]
      obtain ⟨hcount, hmacros⟩ := ih (by rwa [hrest]) hdrop
      rw [hrest] at hcount hmacros
      refine ⟨by rw [List.length_append]; omega, ?_, ?_⟩
      · intro symbol hmem
        rcases List.mem_append.mp hmem with hmem | hmem
        · exact hread.le_two symbol hmem
        · exact hmacros.le_two symbol hmem
      · intro i symbol report hsymbol hreport
        rw [List.getElem?_append, hsame] at hsymbol
        split_ifs at hsymbol with hi
        · exact hread.wide i symbol report hsymbol (by rwa [List.getElem?_take_of_lt hi])
        · refine hmacros.wide (i - k) symbol report hsymbol ?_
          rw [List.getElem?_drop, Nat.add_sub_cancel' (Nat.le_of_not_lt hi)]
          exact hreport
    · -- the last chunk
      have hzero : reports.length - k = 0 := by omega
      rw [hzero] at hmore ⊢
      have hnil : macroSymbols chunks 0 = [] := by
        cases chunks with
        | nil => rfl
        | cons _ _ => exact absurd hmore.1 (Nat.lt_irrefl 0)
      have htake : reports.take k = reports := List.take_of_length_le (by omega)
      rw [hnil, List.append_nil]
      rw [htake] at hread
      refine ⟨?_, hread⟩
      rw [hlength]
      split_ifs <;> omega

/-! ### Reading the deltas -/

def deltaBytes (reports : List Report) (padding : Nat) : List UInt8 :=
  reports.flatMap Report.bytes ++ List.replicate padding 0

def marks : Nat → List Report → List (Option Nat)
  | _, [] => []
  | referenceTime, report :: reports =>
    if report.symbol = 0 then some twccPacketLostTime :: marks referenceTime reports
    else
      some (addDelta referenceTime report.ticks) :: marks (addDelta referenceTime report.ticks)
      reports

/-- The deltas are read `lead` bytes too far, and all bytes that have been skipped are zero. -/
structure Leads (payload : List UInt8) (padding lead : Nat) (reports : List Report) (c : Cursor) :
    Prop where
  stream : payload.drop c.recvOffset = (deltaBytes reports padding).drop lead
  zero : ∀ b ∈ (deltaBytes reports padding).take lead, b = 0
  lead_le : lead ≤ (deltaBytes reports padding).length
  even : c.referenceTime % 2 = 0

def deltaOf (symbol : Nat) (bytes : List UInt8) : Int :=
  if symbol = 2 then signed16 (beNat bytes) else beNat bytes

theorem fieldAt_eq_ok_iff {buf : List UInt8} {i n : Nat} (hn : 0 < n) {b : List UInt8} :
    fieldAt buf i n = .ok b ↔ n ≤ (buf.drop i).length ∧ b = (buf.drop i).take n := by
  rw [fieldAt, List.length_drop]
  constructor
  · intro h
    split_ifs at h with hle
    exact ⟨by omega, (Except.ok.inj h).symm⟩
  · rintro ⟨hle, rfl⟩
    rw [if_pos (by omega)]
    rfl

/-- A symbol that stands for a delta has as many bytes as it says. -/
theorem readStatus_eq_ok_iff {payload : List UInt8} {symbol : Nat}
    (hsymbol : symbol = 1 ∨ symbol = 2) {c : Cursor} {r : Option Nat × Cursor} :
    readStatus payload symbol c = .ok r ↔ symbol ≤ (payload.drop c.recvOffset).length ∧
      r = receive (c.recvOffset + symbol) c.referenceTime
        (deltaOf symbol ((payload.drop c.recvOffset).take symbol)) := by
  rcases hsymbol with rfl | rfl
  · rw [readStatus, bind_eq_ok_iff]
    simp only [fieldAt_eq_ok_iff Nat.one_pos]
    constructor
    · rintro ⟨b, ⟨hle, rfl⟩, h⟩
      exact ⟨hle, (Except.ok.inj h).symm⟩
    · rintro ⟨hle, rfl⟩
      exact ⟨_, ⟨hle, rfl⟩, rfl⟩
  · rw [readStatus, bind_eq_ok_iff]
    constructor
    · rintro ⟨delta, hdelta, h⟩
      rw [uint16At] at hdelta
      cases hfield : fieldAt payload c.recvOffset 2 with
      | error e =>
        rw [hfield] at hdelta
        exact nomatch hdelta
      | ok b =>
        rw [hfield] at hdelta
        obtain ⟨hle, rfl⟩ := (fieldAt_eq_ok_iff (by decide)).mp hfield
        obtain rfl := Except.ok.inj hdelta
        exact ⟨hle, (Except.ok.inj h).symm⟩
    · rintro ⟨hle, rfl⟩
      refine ⟨_, ?_, rfl⟩
      rw [uint16At, (fieldAt_eq_ok_iff (by decide)).mpr ⟨hle, rfl⟩]
      rfl

theorem Report.length_bytes (report : Report) : report.bytes.length = report.symbol := by
  cases report <;> rfl

theorem Report.ticks_range (report : Report) : -32768 ≤ report.ticks ∧ report.ticks < 32768 := by
  cases report with
  | lost => decide
  | small delta =>
    have hlt := delta.toNat_lt
    show -32768 ≤ (delta.toNat : Int) ∧ (delta.toNat : Int) < 32768
    omega
  | large delta =>
    have hlt := delta.toNat_lt
    show -32768 ≤ signed16 delta.toNat ∧ signed16 delta.toNat < 32768
    rw [signed16]
    split_ifs <;> omega

theorem deltaOf_range {symbol : Nat} (hsymbol : symbol = 1 ∨ symbol = 2) {bytes : List UInt8}
    (hlen : bytes.length = symbol) :
    -32768 ≤ deltaOf symbol bytes ∧ deltaOf symbol bytes < 32768 := by
  have hlt := beNat_lt bytes
  rw [hlen] at hlt
  rcases hsymbol with rfl | rfl
  · rw [deltaOf, if_neg (by decide)]
    omega
  · rw [deltaOf, if_pos rfl, signed16]
    split_ifs <;> omega

theorem deltaOf_bytes {report : Report} (h : report.symbol ≠ 0) :
    deltaOf report.symbol report.bytes = report.ticks := by
  cases report with
  | lost => exact absurd rfl h
  | small delta => simp [deltaOf, Report.symbol, Report.bytes, Report.ticks, beNat]
  | large delta =>
    show signed16 (beNat (beBytes 2 delta.toNat)) = signed16 delta.toNat
    have hlt : delta.toNat < 256 ^ 2 := delta.toNat_lt
    rw [beNat_beBytes_of_lt hlt]

theorem beNat_eq_zero_iff (bytes : List UInt8) : beNat bytes = 0 ↔ ∀ b ∈ bytes, b = 0 := by
  induction bytes with
  | nil => simp [beNat]
  | cons b bytes ih =>
    rw [beNat, Nat.add_eq_zero_iff, ih, Nat.mul_eq_zero, List.forall_mem_cons, ← UInt8.toNat_inj]
    simp

theorem deltaOf_eq_zero_iff {symbol : Nat} (hsymbol : symbol = 1 ∨ symbol = 2) {bytes : List UInt8}
    (hlen : bytes.length = symbol) : deltaOf symbol bytes = 0 ↔ ∀ b ∈ bytes, b = 0 := by
  have hlt := beNat_lt bytes
  rw [hlen] at hlt
  rw [← beNat_eq_zero_iff]
  rcases hsymbol with rfl | rfl
  · rw [deltaOf, if_neg (by decide)]
    omega
  · rw [deltaOf, if_pos rfl, signed16]
    split_ifs <;> omega

/-- A small delta that is read as a large one, or the second byte of a large one, does not change
only if it is zero. -/
theorem deltaOf_shifted {a x : UInt8} (h : deltaOf 2 [a, x] = a.toNat) : a = 0 := by
  have ha := a.toNat_lt
  have hx := x.toNat_lt
  have hvalue : beNat [a, x] = a.toNat * 256 + x.toNat := by simp [beNat]
  rw [deltaOf, if_pos rfl, hvalue, signed16] at h
  apply UInt8.toNat_inj.mp
  show a.toNat = 0
  split_ifs at h <;> omega

theorem deltaOf_low (lo : UInt8) : deltaOf 2 [0, lo] = lo.toNat := by
  have hlt := lo.toNat_lt
  have hvalue : beNat [0, lo] = lo.toNat := by simp [beNat]
  rw [deltaOf, if_pos rfl, hvalue, signed16, if_pos (by omega)]

theorem widening_eq {symbol : Nat} {report : Report} (hsymbol : symbol = 1 ∨ symbol = 2)
    (hreport : report.symbol ≠ 0) (hwide : report.symbol ≤ symbol) :
    widening symbol report + report.symbol = symbol := by
  have htwo := report.symbol_le_two
  rw [widening]
  split_ifs <;> omega

theorem deltaBytes_cons (report : Report) (reports : List Report) (padding : Nat) :
    deltaBytes (report :: reports) padding = report.bytes ++ deltaBytes reports padding := by
  rw [deltaBytes, List.flatMap_cons, List.append_assoc]
  rfl

section Steps

variable {payload : List UInt8} {padding lead symbol : Nat} {report : Report}
    {reports : List Report}
  {c : Cursor}

theorem Leads.advance (h : Leads payload padding lead (report :: reports) c)
    (hwide : widening symbol report + report.symbol = symbol)
    (hle : symbol ≤ (payload.drop c.recvOffset).length)
    (hzero : 0 < lead + widening symbol report → ∀ b ∈ (payload.drop c.recvOffset).take symbol,
      b = 0)
    {referenceTime : Nat} (heven : referenceTime % 2 = 0) :
    Leads payload padding (lead + widening symbol report) reports
      ⟨c.recvOffset + symbol, referenceTime⟩ := by
  obtain ⟨hstream, hskipped, hlead, -⟩ := h
  rw [deltaBytes_cons] at hstream hskipped hlead
  have hbytes := report.length_bytes
  have hend : lead + symbol = report.bytes.length + (lead + widening symbol report) := by omega
  have hlength : lead + symbol ≤ (report.bytes ++ deltaBytes reports padding).length := by
    rw [hstream, List.length_drop] at hle
    omega
  refine ⟨?_, ?_, ?_, heven⟩
  · rw [← List.drop_drop, hstream, List.drop_drop, hend, List.drop_length_add_append]
  · intro b hb
    have hpos : 0 < lead + widening symbol report := by
      by_contra hnot
      rw [Nat.eq_zero_of_not_pos hnot] at hb
      exact absurd hb List.not_mem_nil
    have hmem : b ∈ (report.bytes ++ deltaBytes reports padding).take (lead + symbol) := by
      rw [hend, List.take_length_add_append]
      exact List.mem_append_right _ hb
    rw [List.take_add, ← hstream] at hmem
    rcases List.mem_append.mp hmem with hmem | hmem
    · exact hskipped b hmem
    · exact hzero hpos b hmem
  · rw [List.length_append] at hlength
    omega

/-- Where the deltas are not read from their place, one that is read right is zero. -/
theorem Leads.ticks_eq_zero (h : Leads payload padding lead (report :: reports) c)
    (hreport : report.symbol ≠ 0) (hwide : widening symbol report + report.symbol = symbol)
    (hle : symbol ≤ (payload.drop c.recvOffset).length)
    (hdelta : deltaOf symbol ((payload.drop c.recvOffset).take symbol) = report.ticks)
    (hpos : 0 < lead + widening symbol report) : report.ticks = 0 := by
  have hskipped := h.zero
  have hstream := h.stream
  rw [deltaBytes_cons] at hskipped hstream
  rw [hstream] at hle hdelta
  cases report with
  | lost => rfl
  | small delta =>
    have hzero : delta = 0 := by
      cases lead with
      | zero =>
        -- the byte behind the delta is read too
        obtain rfl : symbol = 2 := by
          rw [widening] at hpos hwide
          split_ifs at hpos with htwo
          · exact htwo.1
          · exact absurd hpos (Nat.lt_irrefl 0)
        cases hrest : deltaBytes reports padding with
        | nil => simp [Report.bytes, hrest] at hle
        | cons x rest =>
          rw [hrest] at hdelta
          exact deltaOf_shifted hdelta
      | succ lead => exact hskipped delta List.mem_cons_self
    rw [hzero]
    rfl
  | large delta =>
    obtain ⟨hi, lo, hpair, hvalue⟩ := beNat_chunk delta
    have hwidening : widening symbol (.large delta) = 0 := if_neg fun hsmall => nomatch hsmall.2
    obtain rfl : symbol = 2 := by
      rw [hwidening] at hwide
      exact hwide.symm
    have hticks : (Report.large delta).ticks = deltaOf 2 [hi, lo] := by
      show signed16 delta.toNat = signed16 (beNat [hi, lo])
      rw [hvalue]
    have hbytes : (Report.large delta).bytes = [hi, lo] := hpair
    rw [hwidening] at hpos
    rw [hbytes] at hskipped hle hdelta
    rw [hticks] at hdelta ⊢
    match lead, hpos with
    | 1, _ =>
      have hhi : hi = 0 := hskipped hi List.mem_cons_self
      have hlo : lo = 0 := by
        cases hrest : deltaBytes reports padding with
        | nil => simp [hrest] at hle
        | cons x rest =>
          rw [hrest, hhi, deltaOf_low] at hdelta
          exact deltaOf_shifted hdelta
      rw [hhi, hlo, deltaOf_low]
      rfl
    | lead + 2, _ =>
      have hhi : hi = 0 := hskipped hi List.mem_cons_self
      have hlo : lo = 0 := hskipped lo (List.mem_cons_of_mem _ List.mem_cons_self)
      rw [hhi, hlo, deltaOf_low]
      rfl

/-- If a status gets its time, then its symbol does no harm. -/
theorem Leads.harmless (h : Leads payload padding lead (report :: reports) c)
    (hsymbol : symbol = 1 ∨ symbol = 2) (hreport : report.symbol ≠ 0)
    (hwide : report.symbol ≤ symbol) {c' : Cursor}
    (hread : readStatus payload symbol c = .ok (some (addDelta c.referenceTime report.ticks), c')) :
    Harmless lead symbol report ∧
      Leads payload padding (lead + widening symbol report) reports c' ∧
        c'.referenceTime = addDelta c.referenceTime report.ticks := by
  obtain ⟨hle, hreceive⟩ := (readStatus_eq_ok_iff hsymbol).mp hread
  have hwidening := widening_eq hsymbol hreport hwide
  have hlen : ((payload.drop c.recvOffset).take symbol).length = symbol := by
    rw [List.length_take]
    omega
  rw [receive] at hreceive
  split_ifs at hreceive with hmin
  swap
  · exact nomatch (Prod.mk.inj hreceive).1
  obtain ⟨htime, rfl⟩ := Prod.mk.inj hreceive
  have hdelta := addDelta_inj (deltaOf_range hsymbol hlen) report.ticks_range
    (Option.some.inj htime).symm
  have hzero := h.ticks_eq_zero hreport hwidening hle hdelta
  refine ⟨⟨?_, hdelta ▸ hmin, hzero⟩, ?_, ?_⟩
  · constructor
    · omega
    · exact fun hlost => absurd hlost hreport
  · apply h.advance hwidening hle _ (addDelta_even h.even _)
    exact fun hpos => (deltaOf_eq_zero_iff hsymbol hlen).mp (hdelta.trans (hzero hpos))
  · show addDelta c.referenceTime (deltaOf symbol _) = _
    rw [hdelta]

/-- If the symbol of a status does no harm, then the status gets its time. -/
theorem Leads.read (h : Leads payload padding lead (report :: reports) c)
    (hsymbol : symbol = 1 ∨ symbol = 2) (hreport : report.symbol ≠ 0)
    (hwide : report.symbol ≤ symbol) (hharmless : Harmless lead symbol report)
    (hpadding : lead + widening symbol report ≤ padding)
    (hrest : 0 < lead + widening symbol report → ∀ b ∈ deltaBytes reports padding, b = 0) :
    ∃ c', readStatus payload symbol c = .ok (some (addDelta c.referenceTime report.ticks), c') ∧
      Leads payload padding (lead + widening symbol report) reports c' ∧
        c'.referenceTime = addDelta c.referenceTime report.ticks := by
  have hwidening := widening_eq hsymbol hreport hwide
  have hbytes := report.length_bytes
  have hstream := h.stream
  rw [deltaBytes_cons] at hstream
  have hle : symbol ≤ (payload.drop c.recvOffset).length := by
    rw [hstream, List.length_drop, List.length_append, deltaBytes, List.length_append,
      List.length_replicate]
    omega
  have hlen : ((payload.drop c.recvOffset).take symbol).length = symbol := by
    rw [List.length_take]
    omega
  -- all bytes are zero once the deltas are not read from their place
  have hzero : 0 < lead + widening symbol report →
      ∀ b ∈ (payload.drop c.recvOffset).take symbol, b = 0 := by
    intro hpos b hb
    have hmem := List.mem_of_mem_drop (hstream ▸ List.mem_of_mem_take hb)
    rcases List.mem_append.mp hmem with hmem | hmem
    · have hsym : report.symbol = 1 ∨ report.symbol = 2 := by
        have htwo := report.symbol_le_two
        omega
      have hticks := (deltaOf_bytes hreport).trans (hharmless.zero hpos)
      exact (deltaOf_eq_zero_iff hsym hbytes).mp hticks b hmem
    · exact hrest hpos b hmem
  have hdelta : deltaOf symbol ((payload.drop c.recvOffset).take symbol) = report.ticks := by
    rcases Nat.eq_zero_or_pos (lead + widening symbol report) with hnone | hpos
    · have hsame : report.symbol = symbol := by omega
      have hlead : lead = 0 := by omega
      rw [hstream, hlead, List.drop_zero, ← hsame, ← hbytes, List.take_left, hbytes,
        deltaOf_bytes hreport]
    · rw [hharmless.zero hpos]
      exact (deltaOf_eq_zero_iff hsymbol hlen).mpr (hzero hpos)
  refine ⟨⟨c.recvOffset + symbol, addDelta c.referenceTime report.ticks⟩, ?_, ?_, rfl⟩
  · apply (readStatus_eq_ok_iff hsymbol).mpr
    rw [hdelta, receive, if_pos hharmless.delta]
    exact ⟨hle, rfl⟩
  · exact h.advance hwidening hle hzero (addDelta_even h.even _)

end Steps

/-! ### Reading all statuses -/

section AllSteps

variable {payload : List UInt8} {padding lead : Nat} {symbols : List Nat} {reports : List Report}
    {c : Cursor}

theorem AllHarmless.lead_le (h : AllHarmless padding lead symbols reports) : lead ≤ padding := by
  induction symbols generalizing lead reports with
  | nil =>
    cases reports with
    | nil => exact h
    | cons _ _ => exact h.elim
  | cons symbol symbols ih =>
    cases reports with
    | nil => exact h.elim
    | cons report reports => exact Nat.le_trans (Nat.le_add_right _ _) (ih h.2)

/-- Once the deltas are not read from their place, all of them are zero. -/
theorem AllHarmless.zero (h : AllHarmless padding lead symbols reports) (hlead : 0 < lead) :
    ∀ b ∈ deltaBytes reports padding, b = 0 := by
  induction symbols generalizing lead reports with
  | nil =>
    cases reports with
    | nil => exact fun b hb => List.eq_of_mem_replicate hb
    | cons _ _ => exact h.elim
  | cons symbol symbols ih =>
    cases reports with
    | nil => exact h.elim
    | cons report reports =>
      obtain ⟨hharmless, hrest⟩ := h
      rw [deltaBytes_cons]
      intro b hb
      rcases List.mem_append.mp hb with hb | hb
      · have hticks := hharmless.zero (Nat.lt_of_lt_of_le hlead (Nat.le_add_right _ _))
        by_cases hreport : report.symbol = 0
        · have hnil := List.length_eq_zero_iff.mp (report.length_bytes.trans hreport)
          exact absurd (hnil ▸ hb) List.not_mem_nil
        · have hsym : report.symbol = 1 ∨ report.symbol = 2 := by
            have htwo := report.symbol_le_two
            omega
          exact (deltaOf_eq_zero_iff hsym report.length_bytes).mp
            ((deltaOf_bytes hreport).trans hticks) b hb
      · exact ih hrest (Nat.lt_of_lt_of_le hlead (Nat.le_add_right _ _)) b hb

theorem Readable.head {symbol : Nat} {report : Report}
    (h : Readable (symbol :: symbols) (report :: reports)) :
    (symbol = 0 ∨ symbol = 1 ∨ symbol = 2) ∧ (symbol = 0 ∨ report.symbol ≤ symbol) := by
  have htwo := h.le_two symbol List.mem_cons_self
  exact ⟨by omega, h.wide 0 symbol report rfl rfl⟩

theorem Readable.tail {symbol : Nat} {report : Report}
    (h : Readable (symbol :: symbols) (report :: reports)) : Readable symbols reports :=
  ⟨fun s hs => h.le_two s (List.mem_cons_of_mem _ hs), fun i s r hs hr => h.wide (i + 1) s r hs hr⟩

theorem Leads.lost {report : Report} (h : Leads payload padding lead (report :: reports) c)
    (hlost : report.symbol = 0) : Leads payload padding lead reports c := by
  obtain ⟨hstream, hzero, hlead, heven⟩ := h
  rw [deltaBytes_cons, List.length_eq_zero_iff.mp
    (report.length_bytes.trans hlost)] at hstream hzero hlead
  exact ⟨hstream, hzero, hlead, heven⟩

theorem widening_lost {symbol : Nat} {report : Report} (hlost : report.symbol = 0) :
    widening symbol report = 0 := by
  rw [widening, hlost]
  exact if_neg fun h => nomatch h.2

theorem ticks_lost {report : Report} (hlost : report.symbol = 0) : report.ticks = 0 := by
  cases report with
  | lost => rfl
  | small _ => exact nomatch hlost
  | large _ => exact nomatch hlost

theorem marks_lost {report : Report} (hlost : report.symbol = 0) (referenceTime : Nat) :
    marks referenceTime (report :: reports) = some twccPacketLostTime :: marks referenceTime
      reports := by
  rw [marks, if_pos hlost]

theorem marks_received {report : Report} (hreport : report.symbol ≠ 0) (referenceTime : Nat) :
    marks referenceTime (report :: reports) =
      some (addDelta referenceTime report.ticks) :: marks
      (addDelta referenceTime report.ticks) reports := by
  rw [marks, if_neg hreport]

/-- Where no symbol does harm, every status gets its time. -/
theorem AllHarmless.readStatuses (h : AllHarmless padding lead symbols reports)
    (hreadable : Readable symbols reports) (hleads : Leads payload padding lead reports c) :
    ∃ c', readStatuses payload symbols c = .ok (marks c.referenceTime reports, c') := by
  induction symbols generalizing lead reports c with
  | nil =>
    cases reports with
    | nil => exact ⟨c, rfl⟩
    | cons _ _ => exact h.elim
  | cons symbol symbols ih =>
    cases reports with
    | nil => exact h.elim
    | cons report reports =>
      obtain ⟨hharmless, hrest⟩ := h
      obtain ⟨hsymbol, hwide⟩ := hreadable.head
      by_cases hlost : report.symbol = 0
      · obtain rfl := hharmless.lost.mpr hlost
        rw [widening_lost hlost] at hrest
        obtain ⟨c', hc'⟩ := ih hrest hreadable.tail (hleads.lost hlost)
        rw [marks_lost hlost]
        exact ⟨c', readStatuses_cons_eq_ok_iff.mpr ⟨_, c, _, rfl, hc', rfl⟩⟩
      · have hne : symbol ≠ 0 := mt hharmless.lost.mp hlost
        obtain ⟨c₁, hc₁, hleads₁, htime⟩ := hleads.read (hsymbol.resolve_left hne) hlost
          (hwide.resolve_left hne) hharmless hrest.lead_le hrest.zero
        obtain ⟨c', hc'⟩ := ih hrest hreadable.tail hleads₁
        rw [marks_received hlost, ← htime]
        rw [← htime] at hc₁
        exact ⟨c', readStatuses_cons_eq_ok_iff.mpr ⟨_, c₁, _, hc₁, hc', rfl⟩⟩

theorem twccPacketLostTime_odd : twccPacketLostTime % 2 = 1 := by decide

/-- A symbol that stands for a delta does not mark a packet as lost. -/
theorem readStatus_ne_lost {symbol : Nat} (hsymbol : symbol = 1 ∨ symbol = 2) {time : Nat}
    {c' : Cursor} (heven : c.referenceTime % 2 = 0)
    (h : readStatus payload symbol c = .ok (some time, c')) :
    time % 2 = 0 := by
  obtain ⟨-, hreceive⟩ := (readStatus_eq_ok_iff hsymbol).mp h
  rw [receive] at hreceive
  split_ifs at hreceive
  · rw [Option.some.inj (Prod.mk.inj hreceive).1]
    exact addDelta_even heven _
  · exact nomatch (Prod.mk.inj hreceive).1

/-- If every status gets its time, then no symbol does harm, and the padding is left. -/
theorem Readable.allHarmless (hreadable : Readable symbols reports)
    (hleads : Leads payload padding lead reports c) {c' : Cursor}
    (h : readStatuses payload symbols c = .ok (marks c.referenceTime reports, c')) :
    AllHarmless padding lead symbols reports ∧ ∃ lead', Leads payload padding lead' [] c' := by
  induction symbols generalizing lead reports c with
  | nil =>
    cases reports with
    | nil =>
      obtain ⟨-, rfl⟩ := Prod.mk.inj (Except.ok.inj h)
      have hlead := hleads.lead_le
      rw [deltaBytes, List.flatMap_nil, List.nil_append, List.length_replicate] at hlead
      exact ⟨hlead, lead, hleads⟩
    | cons report reports =>
      have hlen := length_readStatuses h
      rw [marks] at hlen
      split_ifs at hlen
  | cons symbol symbols ih =>
    cases reports with
    | nil => exact nomatch length_readStatuses h
    | cons report reports =>
      obtain ⟨hsymbol, hwide⟩ := hreadable.head
      obtain ⟨time, c₁, more, htime, hmore, hcons⟩ := readStatuses_cons_eq_ok_iff.mp h
      by_cases hlost : report.symbol = 0
      · rw [marks_lost hlost] at hcons
        obtain ⟨rfl, rfl⟩ := List.cons.inj hcons
        -- a received packet has an even time, and `TWCC_PACKET_LOST_TIME` is odd
        have hzero : symbol = 0 := by
          by_contra hne
          have heven := readStatus_ne_lost (hsymbol.resolve_left hne) hleads.even htime
          rw [twccPacketLostTime_odd] at heven
          exact nomatch heven
        subst hzero
        obtain ⟨-, rfl⟩ := Prod.mk.inj (Except.ok.inj htime)
        obtain ⟨hall, hend⟩ := ih hreadable.tail (hleads.lost hlost) hmore
        refine ⟨⟨⟨iff_of_true rfl hlost, ?_, fun _ => ticks_lost hlost⟩, ?_⟩, hend⟩
        · rw [ticks_lost hlost]
          decide
        · rwa [widening_lost hlost]
      · rw [marks_received hlost] at hcons
        obtain ⟨rfl, rfl⟩ := List.cons.inj hcons
        have hne : symbol ≠ 0 := by
          rintro rfl
          have hlosttime := congrArg (· % 2) (Option.some.inj (Prod.mk.inj (Except.ok.inj htime)).1)
          simp only [twccPacketLostTime_odd, addDelta_even hleads.even] at hlosttime
          exact nomatch hlosttime
        obtain ⟨hharmless, hleads₁, htime₁⟩ := hleads.harmless (hsymbol.resolve_left hne) hlost
          (hwide.resolve_left hne) htime
        rw [← htime₁] at hmore
        obtain ⟨hall, hend⟩ := ih hreadable.tail hleads₁ hmore
        exact ⟨⟨hharmless, hall⟩, hend⟩

end AllSteps

/-! ### The table -/

theorem Report.symbol_eq_zero_iff (report : Report) : report.symbol = 0 ↔ report = lost := by
  cases report with
  | lost => exact iff_of_true rfl rfl
  | small _ => exact iff_of_false (fun h => nomatch h) fun h => nomatch h
  | large _ => exact iff_of_false (fun h => nomatch h) fun h => nomatch h

theorem length_marks (referenceTime : Nat) (reports : List Report) :
    (marks referenceTime reports).length = reports.length := by
  induction reports generalizing referenceTime with
  | nil => rfl
  | cons report reports ih =>
    rw [marks]
    split_ifs <;> rw [List.length_cons, ih, List.length_cons]

theorem getElem?_marks {referenceTime : Nat} {reports : List Report} {i : Nat} {report : Report}
    (hreport : reports[i]? = some report) :
    (marks referenceTime reports)[i]? = some (some (
      if report = .lost then twccPacketLostTime
      else ((referenceTime + 2500 * ((reports.take (i + 1)).map Report.ticks).sum) %
        (2 ^ 64 : Int)).toNat)) := by
  induction reports generalizing referenceTime i with
  | nil => exact nomatch hreport
  | cons first reports ih =>
    by_cases hlost : first.symbol = 0
    · rw [marks_lost hlost]
      cases i with
      | zero =>
        obtain rfl := Option.some.inj hreport
        rw [if_pos ((Report.symbol_eq_zero_iff _).mp hlost)]
        rfl
      | succ i =>
        rw [List.getElem?_cons_succ, ih hreport, List.take_succ_cons, List.map_cons, List.sum_cons,
          ticks_lost hlost, zero_add]
    · rw [marks_received hlost]
      cases i with
      | zero =>
        obtain rfl := Option.some.inj hreport
        rw [if_neg (mt (Report.symbol_eq_zero_iff _).mpr hlost), List.take_succ_cons,
          List.take_zero, List.map_singleton, List.sum_singleton, ← addDelta_eq]
        rfl
      | succ i =>
        have hcast : (addDelta referenceTime first.ticks : Int) =
            (referenceTime + 2500 * first.ticks) % 2 ^ 64 := by
          rw [addDelta_eq, Int.toNat_of_nonneg (Int.emod_nonneg _ (by norm_num))]
        have hsum : ∀ sum : Int, referenceTime + 2500 * first.ticks + 2500 * sum =
            referenceTime + 2500 * (first.ticks + sum) := fun sum => by ring
        rw [List.getElem?_cons_succ, ih hreport, List.take_succ_cons, List.map_cons, List.sum_cons,
          hcast, Int.emod_add_emod, hsum]

/-- The times of the statuses are the ones that the packet says. -/
theorem getElem?_marks_feedback (fb : Feedback) {i : Nat} (hi : i < fb.reports.length) :
    (marks (referenceTimeOf fb.referenceTime) fb.reports)[i]? = some (some (fb.remoteTime i)) := by
  have hreport := List.getElem?_eq_getElem hi
  rw [getElem?_marks hreport, Feedback.remoteTime, Feedback.arrivalTime, hreport,
    referenceTimeOf_eq]
  simp only [Option.some.injEq]
  push_cast
  rfl

theorem remoteTime_ne_one (fb : Feedback) (i : Nat) : fb.remoteTime i ≠ 1 := by
  rw [Feedback.remoteTime, Feedback.arrivalTime]
  split_ifs
  · decide
  · omega

theorem feedbackDecoded_of_read {fb : Feedback} {c : Cursor}
    (h : readStatuses fb.payload (macroSymbols fb.chunks fb.reports.length)
      ⟨16 + 2 * fb.chunks.length, referenceTimeOf fb.referenceTime⟩ =
        .ok (marks (referenceTimeOf fb.referenceTime) fb.reports, c)) : FeedbackDecoded fb := by
  intro m
  have hread := readFeedback_payload_eq_ok_iff.mpr ⟨rfl, c, h⟩
  refine ⟨_, TwccManager.parseRtcpTwccPacket_eq_ok_iff.mpr ⟨_, _, hread, rfl⟩, ?_, ?_⟩
  · intro i hi
    apply TwccManager.table_reportAll_of_lt _ (getElem?_marks_feedback fb hi)
    rw [length_marks]
    exact Nat.le_of_lt fb.reports_length
  · intro key hkey
    apply TwccManager.table_reportAll_of_ne
    rwa [length_marks]

/-- A manager that has all packets in its table, with a time that no feedback packet stores. -/
def fullManager : TwccManager :=
  { TwccManager.create with
    twccRtpPktInfosHashTable := fun _ => some ⟨0, 0, 1, 0⟩ }

theorem FeedbackDecoded.times {fb : Feedback} (h : FeedbackDecoded fb)
    (hshort : (macroSymbols fb.chunks fb.reports.length).length ≤ 2 ^ 16) :
    ∃ times c, readStatuses fb.payload (macroSymbols fb.chunks fb.reports.length)
        ⟨16 + 2 * fb.chunks.length, referenceTimeOf fb.referenceTime⟩ = .ok (times, c) ∧
      (∀ i < fb.reports.length, times[i]? = some (some (fb.remoteTime i))) ∧
      ∀ i time, fb.reports.length ≤ i → times[i]? = some (some time) → time = 1 := by
  obtain ⟨m', hparse, hmarked, hrest⟩ := h fullManager
  obtain ⟨baseSeqNum, times, hread, rfl⟩ := TwccManager.parseRtcpTwccPacket_eq_ok_iff.mp hparse
  obtain ⟨rfl, c, htimes⟩ := readFeedback_payload_eq_ok_iff.mp hread
  have hlen := length_readStatuses htimes
  have hcount := (readable_macroSymbols fb.covers fb.symbols_eq).1
  have hstored : ∀ {i : Nat} {time : Option Nat}, times[i]? = some time →
      ({ fullManager with prevReportedBaseSeqNum := fb.baseSeqNum }.reportAll fb.baseSeqNum
        times).twccRtpPktInfosHashTable (fb.baseSeqNum + UInt16.ofNat i).toUInt64 =
          some (TwccRtpPacketInfo.setTime ⟨0, 0, 1, 0⟩ time) :=
    fun htime => TwccManager.table_reportAll_of_lt (by omega) htime
  refine ⟨times, c, htimes, ?_, ?_⟩
  · intro i hi
    obtain ⟨time, htime⟩ : ∃ time, times[i]? = some time := ⟨_, List.getElem?_eq_getElem (by omega)⟩
    have hsame := Option.some.inj ((hstored htime).symm.trans (hmarked i hi))
    have hremote := congrArg TwccRtpPacketInfo.remoteTimeKvs hsame
    rw [htime]
    cases time with
    | none => exact absurd hremote.symm (remoteTime_ne_one fb i)
    | some time => exact congrArg _ (congrArg _ hremote)
  · intro i time hi htime
    have hlt := (List.getElem?_eq_some_iff.mp htime).1
    have hother := hrest (fb.baseSeqNum + UInt16.ofNat i).toUInt64 (by
      intro j hj hkey
      have heq := (SeqNum.add_ofNat_inj (by omega) (by omega)).mp (SeqNum.toUInt64_inj.mp hkey)
      omega)
    exact congrArg TwccRtpPacketInfo.remoteTimeKvs
      (Option.some.inj ((hstored htime).symm.trans hother))

/-- The packet starts to be read at its first delta. -/
theorem leads_payload (fb : Feedback) :
    Leads fb.payload fb.padding 0 fb.reports
      ⟨16 + 2 * fb.chunks.length, referenceTimeOf fb.referenceTime⟩ := by
  have hchunks : ∀ chunks : List UInt16,
      (chunks.flatMap fun chunk => beBytes 2 chunk.toNat).length = 2 * chunks.length := by
    intro chunks
    induction chunks with
    | nil => rfl
    | cons chunk chunks ih =>
      rw [List.flatMap_cons, List.length_append, length_beBytes, ih, List.length_cons]
      omega
  refine ⟨?_, fun _ hb => absurd hb List.not_mem_nil, Nat.zero_le _, ?_⟩
  · show fb.payload.drop (16 + 2 * fb.chunks.length) = deltaBytes fb.reports fb.padding
    rw [← List.drop_drop, Feedback.payload, ← length_head fb, List.drop_left, ← hchunks,
      List.drop_left]
    rfl
  · show referenceTimeOf fb.referenceTime % 2 = 0
    rw [referenceTimeOf_eq]
    omega

/-- Behind the deltas, every symbol stores a time that is not one. -/
theorem Leads.read_padding {payload : List UInt8} {padding lead symbol : Nat} {c c' : Cursor}
    {time : Option Nat} (h : Leads payload padding lead [] c) (hsymbol : symbol ≤ 2)
    (hread : readStatus payload symbol c = .ok (time, c')) : ∃ t, time = some t ∧ t ≠ 1 := by
  rcases Nat.eq_zero_or_pos symbol with rfl | hpos
  · obtain ⟨rfl, -⟩ := Prod.mk.inj (Except.ok.inj hread)
    exact ⟨_, rfl, by decide⟩
  · have hsym : symbol = 1 ∨ symbol = 2 := by omega
    obtain ⟨hle, hreceive⟩ := (readStatus_eq_ok_iff hsym).mp hread
    have hlen : ((payload.drop c.recvOffset).take symbol).length = symbol := by
      rw [List.length_take]
      omega
    have hdelta : deltaOf symbol ((payload.drop c.recvOffset).take symbol) = 0 := by
      apply (deltaOf_eq_zero_iff hsym hlen).mpr
      intro b hb
      exact List.eq_of_mem_replicate (List.mem_of_mem_drop (h.stream ▸ List.mem_of_mem_take hb))
    rw [hdelta, receive, if_pos (by decide)] at hreceive
    refine ⟨_, (Prod.mk.inj hreceive).1, ?_⟩
    have heven := addDelta_even h.even 0
    omega

theorem Readable.take {symbols : List Nat} {reports : List Report} (h : Readable symbols reports) :
    Readable (symbols.take reports.length) reports := by
  refine ⟨fun s hs => h.le_two s (List.mem_of_mem_take hs), fun i s report hs hreport => ?_⟩
  rw [List.getElem?_take_of_lt (List.getElem?_eq_some_iff.mp hreport).1] at hs
  exact h.wide i s report hs hreport

/-- A packet that is decoded has been read right, unless its last run reaches around all sequence
numbers. -/
theorem FeedbackDecoded.readRight {fb : Feedback} (h : FeedbackDecoded fb)
    (hshort : (macroSymbols fb.chunks fb.reports.length).length ≤ 2 ^ 16) : ReadRight fb := by
  obtain ⟨hcount, hreadable⟩ := readable_macroSymbols fb.covers fb.symbols_eq
  obtain ⟨times, c, htimes, hmarks, hmore⟩ := h.times hshort
  unfold ReadRight
  generalize macroSymbols fb.chunks fb.reports.length = symbols at hcount hreadable htimes ⊢
  -- the symbols of the statuses, and those behind them
  obtain ⟨before, after, hbefore, rfl⟩ : ∃ before after, before.length = fb.reports.length ∧
      symbols = before ++ after :=
    ⟨symbols.take fb.reports.length, symbols.drop fb.reports.length,
      by rw [List.length_take]; omega, (List.take_append_drop _ _).symm⟩
  have hread : Readable before fb.reports := by
    have htake := hreadable.take
    rwa [← hbefore, List.take_left] at htake
  obtain ⟨times₁, c₁, times₂, h₁, h₂, rfl⟩ := readStatuses_append_eq_ok_iff.mp htimes
  have hlen₁ : times₁.length = fb.reports.length := (length_readStatuses h₁).trans hbefore
  have hsame : times₁ = marks (referenceTimeOf fb.referenceTime) fb.reports := by
    apply List.ext_getElem?
    intro i
    by_cases hi : i < fb.reports.length
    · have hmark := hmarks i hi
      rw [List.getElem?_append_left (by omega)] at hmark
      rw [hmark, getElem?_marks_feedback fb hi]
    · rw [List.getElem?_eq_none (by omega), List.getElem?_eq_none (by rw [length_marks]; omega)]
  rw [hsame] at h₁
  obtain ⟨hall, lead, hleads⟩ := hread.allHarmless (leads_payload fb) h₁
  cases after with
  | nil => rwa [List.append_nil]
  | cons symbol after =>
    obtain ⟨time, c₂, more, htime, -, rfl⟩ := readStatuses_cons_eq_ok_iff.mp h₂
    obtain ⟨t, rfl, hne⟩ := hleads.read_padding
      (hreadable.le_two symbol (List.mem_append_right before List.mem_cons_self)) htime
    have hone := hmore fb.reports.length t (Nat.le_refl _) (by
      rw [List.getElem?_append_right (by omega), hlen₁, Nat.sub_self]
      rfl)
    exact absurd hone hne

/-- **Feedback packets are decoded** if they are read right, and only then, unless the last run
reaches around all sequence numbers. -/
theorem feedback_decoded_iff (fb : Feedback) :
    (ReadRight fb → FeedbackDecoded fb) ∧
      ((macroSymbols fb.chunks fb.reports.length).length ≤ 2 ^ 16 →
        FeedbackDecoded fb → ReadRight fb) := by
  refine ⟨fun h => ?_, fun hshort h => h.readRight hshort⟩
  obtain ⟨-, hreadable⟩ := readable_macroSymbols fb.covers fb.symbols_eq
  obtain ⟨c, hc⟩ := h.readStatuses hreadable (leads_payload fb)
  exact feedbackDecoded_of_read hc

/-- A run of one small delta, and a vector of seven large ones. -/
def runFeedback : Feedback where
  ssrcs := List.replicate 8 0
  baseSeqNum := 65535
  referenceTime := 1
  fbPktCount := 0
  chunks := [0x2001, 0xEAAA]
  reports := .small 4 :: List.replicate 7 (.large 8)
  padding := 1
  ssrcs_length := rfl
  referenceTime_lt := by decide
  reports_length := by decide
  covers := by decide
  symbols_eq := by decide

/-- A vector of large deltas is read right. -/
theorem feedback_decoded_sample : FeedbackDecoded runFeedback := by
  apply (feedback_decoded_iff runFeedback).1
  have hlarge : Harmless 0 2 (.large 8) := ⟨by decide, by decide, by decide⟩
  exact ⟨⟨by decide, by decide, by decide⟩, hlarge, hlarge, hlarge, hlarge, hlarge, hlarge, hlarge,
    Nat.zero_le 1⟩

/-- One packet that has been received, as a vector of one-bit symbols. -/
def vectorFeedback : Feedback where
  ssrcs := List.replicate 8 0
  baseSeqNum := 7
  referenceTime := 1
  fbPktCount := 0
  chunks := [0xA000]
  reports := [.small 4]
  padding := 1
  ssrcs_length := rfl
  referenceTime_lt := by decide
  reports_length := by decide
  covers := by decide
  symbols_eq := by decide

theorem vector_not_decoded : ¬ ∀ fb : Feedback, FeedbackDecoded fb := by
  intro h
  obtain ⟨m', hparse, hmarked, -⟩ := h vectorFeedback fullManager
  have hstored := hmarked 0 (by decide)
  have hlost : (TwccManager.parseRtcpTwccPacket vectorFeedback.payload fullManager).toOption.bind
      (fun m => m.twccRtpPktInfosHashTable 7) = some ⟨0, 0, twccPacketLostTime, 0⟩ := by
    decide +kernel
  rw [hparse] at hlost
  have hsame := hlost.symm.trans hstored
  exact absurd hsame (by decide +kernel)

end KvsWebrtc.Twcc
