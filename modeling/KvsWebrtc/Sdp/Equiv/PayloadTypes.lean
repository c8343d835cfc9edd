import KvsWebrtc.Common.LastBest
import KvsWebrtc.Common.Run
import KvsWebrtc.Sdp.PayloadTypes
import Mathlib.Data.List.Forall2

/-!
# Correctness of the payload types

`setPayloadTypesFromOffer` leaves in the table, for each codec that is enabled, the last number that
the offer gives to it, over all sections; for H264 it is the last one with the best format in the
last section that names the codec (`setPayloadTypesFromOffer_spec`).

`setTransceiverPayloadTypes` gives every transceiver that sends the number of its codec, cut to
eight bits, and leaves everything else of the transceivers as it was.
-/

namespace KvsWebrtc.Sdp

open Text

/-! ### The numbers of an offer -/

/-- The number of a codec that a token of the media name gives. -/
def staticNumber? (codec : RtcCodec) (token : List Char) : Option Nat :=
  if sameUpTo token.length "0".toList token then
    if codec = .mulaw then some defaultPayloadMulaw else none
  else if sameUpTo token.length "8".toList token then
    if codec = .alaw then some defaultPayloadAlaw else none
  else none

section

variable (pic : Platform) (offer : SessionDescription) (codec : RtcCodec)

def attributeNumber? (a : SdpAttribute) : Option Nat :=
  (strstr codec.value a.attributeValue).bind fun p => (numberBefore pic p.1).toOption

/-- The numbers that a section gives to a codec, in the order in which they are read. -/
def mentions (m : SdpMediaDescription) : List Nat :=
  (tokens m.mediaName).filterMap (staticNumber? codec) ++
    m.sdpAttributes.filterMap (attributeNumber? pic codec)

/-- How good a number is: for H264 this depends on its format. -/
def codecScore (payloadType : Nat) : Nat :=
  if codec = .h264 then getH264FmtpScore (fmtpForPayloadType payloadType offer) else 0

/-- The number that an offer gives to a codec, or `start` if it gives none. -/
def offeredNumber (start : Nat) : Nat :=
  ((offer.mediaDescriptions.flatMap fun m =>
    best (codecScore offer codec) (mentions pic codec m)).getLast?).getD start

end

/-- What the loops know about one codec: the number in the table and, for H264, its score. -/
def OfferScan.shows (codec : RtcCodec) (s : OfferScan) (kept : Nat × Nat) : Prop :=
  s.codecTable codec.key = some kept.1 ∧ kept.2 = if codec = .h264 then s.bestFmtpScore else 0

theorem key_injective {c d : RtcCodec} (h : c.key = d.key) : c = d := by
  revert h
  cases c <;> cases d <;> decide

@[simp]
theorem upsert_key_self (t : HashTable) (c : RtcCodec) (n : Nat) :
    t.upsert c.key n c.key = some n := by
  simp [HashTable.upsert]

theorem upsert_key_of_ne {c d : RtcCodec} (h : c ≠ d) (t : HashTable) (n : Nat) :
    t.upsert d.key n c.key = t c.key :=
  if_neg fun he => h (key_injective he)

section

variable {pic : Platform} {offer : SessionDescription} {codec : RtcCodec} {s s' : OfferScan}
  {kept : Nat × Nat}

theorem codecAttribute_shows {a : SdpAttribute}
    (h : OfferScan.codecAttribute pic offer a.attributeValue s codec = .ok s')
    (hs : s.shows codec kept) :
    s'.shows codec
    ((attributeNumber? pic codec a).elim kept (keepBest (codecScore offer codec) kept)) := by
  unfold OfferScan.codecAttribute at h
  rw [if_pos (by rw [hs.1]; rfl)] at h
  unfold attributeNumber?
  cases hfound : strstr codec.value a.attributeValue with
  | none =>
    rw [hfound] at h
    obtain rfl := Except.ok.inj h
    exact hs
  | some p =>
    rw [hfound] at h
    simp only at h
    cases hnumber : numberBefore pic p.1 with
    | error e =>
      rw [hnumber] at h
      exact absurd h (by simp)
    | ok payloadType =>
      rw [hnumber] at h
      simp only at h
      rw [Option.bind_some, hnumber]
      show s'.shows codec (keepBest (codecScore offer codec) kept payloadType)
      unfold keepBest codecScore
      rw [hs.2]
      -- only H.264 payload types are scored, the others are replaced by later ones
      by_cases hcodec : codec = .h264
      · rw [if_pos hcodec] at h
        rw [if_pos hcodec, if_pos hcodec]
        split at h
        · rename_i hscore
          obtain rfl := Except.ok.inj h
          rw [if_pos hscore]
          exact ⟨upsert_key_self _ _ _, (if_pos hcodec).symm⟩
        · rename_i hscore
          obtain rfl := Except.ok.inj h
          rw [if_neg hscore]
          exact hs
      · rw [if_neg hcodec] at h
        rw [if_neg hcodec, if_neg hcodec, if_pos (Nat.le_refl 0)]
        obtain rfl := Except.ok.inj h
        exact ⟨upsert_key_self _ _ _, (if_neg hcodec).symm⟩

theorem codecAttribute_shows_of_ne {d : RtcCodec} (hne : codec ≠ d) {value : List Char}
    (h : OfferScan.codecAttribute pic offer value s d = .ok s') (hs : s.shows codec kept) :
    s'.shows codec kept := by
  unfold OfferScan.codecAttribute at h
  split at h
  · split at h
    · obtain rfl := Except.ok.inj h
      exact hs
    · split at h
      · exact absurd h (by simp)
      · split at h
        · rename_i hd
          simp only at h
          split at h
          · obtain rfl := Except.ok.inj h
            refine ⟨(upsert_key_of_ne hne _ _).trans hs.1, ?_⟩
            have hcodec : codec ≠ .h264 := hd ▸ hne
            rw [hs.2, if_neg hcodec, if_neg hcodec]
          · obtain rfl := Except.ok.inj h
            exact hs
        · obtain rfl := Except.ok.inj h
          exact ⟨(upsert_key_of_ne hne _ _).trans hs.1, hs.2⟩
  · obtain rfl := Except.ok.inj h
    exact hs

theorem foldlM_codecAttribute_shows {a : SdpAttribute} {codecs : List RtcCodec}
    (hnodup : codecs.Nodup)
    (h : codecs.foldlM (OfferScan.codecAttribute pic offer a.attributeValue) s = .ok s')
    (hs : s.shows codec kept) :
    s'.shows codec (if codec ∈ codecs then
      (attributeNumber? pic codec a).elim kept (keepBest (codecScore offer codec) kept)
        else kept) := by
  -- the codecs before this one change nothing, and neither do those behind it
  have hothers : ∀ {l : List RtcCodec} {s s' : OfferScan} {kept : Nat × Nat}, codec ∉ l →
      l.foldlM (OfferScan.codecAttribute pic offer a.attributeValue) s = .ok s' →
      s.shows codec kept → s'.shows codec kept := by
    intro l
    induction l with
    | nil =>
      intro s s' kept _ h hs
      obtain rfl := Except.ok.inj h
      exact hs
    | cons d l ih =>
      intro s s' kept hnot h hs
      obtain ⟨s₁, hd, hl⟩ := foldlM_cons_ok h
      have hne : codec ≠ d := fun he => hnot (he ▸ List.mem_cons_self)
      exact ih (fun hmem => hnot (List.mem_cons_of_mem d hmem)) hl
        (codecAttribute_shows_of_ne hne hd hs)
  induction codecs generalizing s kept with
  | nil =>
    obtain rfl := Except.ok.inj h
    exact hs
  | cons d codecs ih =>
    obtain ⟨s₁, hd, hl⟩ := foldlM_cons_ok h
    obtain ⟨hnot, hnodup⟩ := List.nodup_cons.mp hnodup
    by_cases hcodec : codec = d
    · subst hcodec
      rw [if_pos List.mem_cons_self]
      exact hothers hnot hl (codecAttribute_shows hd hs)
    · have hmem : codec ∈ d :: codecs ↔ codec ∈ codecs := by simp [hcodec]
      simp only [hmem]
      exact ih hnodup hl (codecAttribute_shows_of_ne hcodec hd hs)

theorem rtxAttribute_shows {value : List Char} (h : s.rtxAttribute pic value = .ok s')
    (hs : s.shows codec kept) : s'.shows codec kept := by
  unfold OfferScan.rtxAttribute at h
  split at h
  · obtain rfl := Except.ok.inj h
    exact hs
  · split at h
    · exact absurd h (by simp)
    · split at h
      · obtain rfl := Except.ok.inj h
        exact hs
      · split at h
        · exact absurd h (by simp)
        · split at h
          · obtain rfl := Except.ok.inj h
            exact hs
          · exact absurd h (by simp)

/-- **One attribute**: a number that it gives to the codec is kept, if it is good enough. -/
theorem readAttribute_shows (hcodec : codec ≠ .unknown) {a : SdpAttribute}
    (h : OfferScan.readAttribute pic offer s a = .ok s') (hs : s.shows codec kept) :
    s'.shows codec
    ((attributeNumber? pic codec a).elim kept (keepBest (codecScore offer codec) kept)) := by
  unfold OfferScan.readAttribute at h
  split at h
  · exact absurd h (by simp)
  · rename_i s₁ hcodecs
    have hmem : codec ∈ offeredCodecs := by
      revert hcodec
      cases codec <;> decide
    have hs₁ := foldlM_codecAttribute_shows (by decide) hcodecs hs
    rw [if_pos hmem] at hs₁
    exact rtxAttribute_shows h hs₁

/-- A static number of a codec is always good enough. -/
theorem upsert_shows (hcodec : codec ≠ .h264) (hs : s.shows codec kept) (n : Nat) :
    { s with codecTable := s.codecTable.upsert codec.key n }.shows codec
      (keepBest (codecScore offer codec) kept n) := by
  unfold keepBest codecScore
  rw [hs.2, if_neg hcodec, if_neg hcodec, if_pos (Nat.le_refl 0)]
  exact ⟨upsert_key_self _ _ _, (if_neg hcodec).symm⟩

/-- **One token** of the media name. -/
theorem staticToken_shows (hs : s.shows codec kept) (token : List Char) :
    (s.staticToken token).shows codec
      ((staticNumber? codec token).elim kept (keepBest (codecScore offer codec) kept)) := by
  unfold OfferScan.staticToken staticNumber?
  split
  · split
    · rename_i hcodec
      subst hcodec
      exact upsert_shows (by decide) hs defaultPayloadMulaw
    · rename_i hcodec
      exact ⟨(upsert_key_of_ne hcodec _ _).trans hs.1, hs.2⟩
  · split
    · split
      · rename_i hcodec
        subst hcodec
        exact upsert_shows (by decide) hs defaultPayloadAlaw
      · rename_i hcodec
        exact ⟨(upsert_key_of_ne hcodec _ _).trans hs.1, hs.2⟩
    · exact hs

theorem foldl_elim {α β γ : Type} (f : α → Option β) (g : γ → β → γ) (l : List α) (c : γ) :
    l.foldl (fun c a => (f a).elim c (g c)) c = (l.filterMap f).foldl g c := by
  induction l generalizing c with
  | nil => rfl
  | cons a l ih =>
    rw [List.foldl_cons, ih, List.filterMap_cons]
    cases f a <;> rfl

theorem foldl_staticToken_shows (hs : s.shows codec kept) (l : List (List Char)) :
    (l.foldl OfferScan.staticToken s).shows codec
      ((l.filterMap (staticNumber? codec)).foldl (keepBest (codecScore offer codec)) kept) := by
  rw [← foldl_elim]
  induction l generalizing s kept with
  | nil => exact hs
  | cons token l ih => exact ih (staticToken_shows hs token)

/-- **One section**: the last of the best numbers that it gives to the codec. -/
theorem sectionPayloadTypes_spec (hcodec : codec ≠ .unknown)
    {tables tables' : HashTable × HashTable} {m : SdpMediaDescription}
    (h : sectionPayloadTypes pic offer tables m = .ok tables') {v : Nat}
    (hv : tables.1 codec.key = some v) :
    tables'.1 codec.key =
      some (((best (codecScore offer codec) (mentions pic codec m)).getLast?).getD v) := by
  simp only [sectionPayloadTypes] at h
  split at h
  · exact absurd h (by simp)
  · rename_i s' hattributes
    obtain rfl := Except.ok.inj h
    have hstart : (⟨tables.1, 0, []⟩ : OfferScan).shows codec (v, 0) := by
      refine ⟨hv, ?_⟩
      split <;> rfl
    have hstatic := @foldl_staticToken_shows offer codec _ _ hstart (tokens m.mediaName)
    have hend := foldlM_simulates (R := fun s kept => s.shows codec kept)
      (g := fun kept a => (attributeNumber? pic codec a).elim kept
      (keepBest (codecScore offer codec) kept))
      (fun _ _ _ _ ha hs => readAttribute_shows hcodec ha hs) hattributes hstatic
    rw [foldl_elim, ← List.foldl_append] at hend
    rw [← (foldl_keepBest (codecScore offer codec) v (mentions pic codec m)).1]
    exact hend.1

/-- **The table after an offer** holds the number that the offer gives to an enabled codec. -/
theorem setPayloadTypesFromOffer_spec (hcodec : codec ≠ .unknown)
    {codecTable rtxTable codecTable' rtxTable' : HashTable}
    (h : setPayloadTypesFromOffer pic codecTable rtxTable offer = .ok (codecTable', rtxTable'))
    {v : Nat} (hv : codecTable codec.key = some v) :
    codecTable' codec.key = some (offeredNumber pic offer codec v) := by
  have hend := foldlM_simulates
    (R := fun tables v => (tables : HashTable × HashTable).1 codec.key = some v)
    (g := fun v m => ((best (codecScore offer codec) (mentions pic codec m)).getLast?).getD v)
    (fun _ _ _ _ hm hs => sectionPayloadTypes_spec hcodec hm hs) h hv
  rw [foldl_getLast?] at hend
  exact hend

end

/-! ### Transceivers -/

/-- Two records of one transceiver: they differ in the payload types only. -/
def KvsRtpTransceiver.same (t t' : KvsRtpTransceiver) : Prop :=
  t' = { t with payloadType := t'.payloadType, rtxPayloadType := t'.rtxPayloadType }

theorem KvsRtpTransceiver.same_refl (t : KvsRtpTransceiver) : t.same t := rfl

theorem KvsRtpTransceiver.same.kind {t t' : KvsRtpTransceiver} (h : t.same t') :
    t'.kind = t.kind := by
  rw [h]

theorem KvsRtpTransceiver.same.codec {t t' : KvsRtpTransceiver} (h : t.same t') :
    t'.codec = t.codec := by
  rw [h]

/-- What `setTransceiverPayloadTypes` does with one transceiver. -/
theorem setPayloadTypes_ok {codecTable rtxTable : HashTable} {t t' : KvsRtpTransceiver}
    (h : t.setPayloadTypes codecTable rtxTable = .ok t') :
    t.same t' ∧
      ((t.sends = true ∧ ∃ n, codecTable t.codec.key = some n ∧ t'.payloadType = UInt8.ofNat n) ∨
        (t.sends = false ∧ t' = t)) := by
  unfold KvsRtpTransceiver.setPayloadTypes at h
  split at h
  · rename_i hsends
    unfold HashTable.get at h
    cases hn : codecTable t.codec.key with
    | none =>
      rw [hn] at h
      exact absurd h (by simp)
    | some n =>
      rw [hn] at h
      obtain rfl := Except.ok.inj h
      exact ⟨rfl, .inl ⟨hsends, n, rfl, rfl⟩⟩
  · rename_i hsends
    obtain rfl := Except.ok.inj h
    exact ⟨rfl, .inr ⟨Bool.eq_false_iff.mpr hsends, rfl⟩⟩

theorem setTransceiverPayloadTypes_ok {codecTable rtxTable : HashTable}
    {transceivers transceivers' : List KvsRtpTransceiver}
    (h : setTransceiverPayloadTypes codecTable rtxTable transceivers = .ok transceivers') :
    List.Forall₂ (fun t t' => t.setPayloadTypes codecTable rtxTable = .ok t')
      transceivers transceivers' := by
  induction transceivers generalizing transceivers' with
  | nil =>
    obtain rfl := Except.ok.inj h
    exact .nil
  | cons t transceivers ih =>
    unfold setTransceiverPayloadTypes at h
    split at h
    · exact absurd h (by simp)
    · rename_i t' ht
      split at h
      · exact absurd h (by simp)
      · rename_i rest hrest
        obtain rfl := Except.ok.inj h
        exact .cons ht (ih hrest)

end KvsWebrtc.Sdp
