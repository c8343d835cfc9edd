import KvsWebrtc.PeerConnection.SessionDescription
import Mathlib.Data.List.Basic
import Mathlib.Tactic.SplitIfs

/-!
# Writing JSON to a buffer

The serializer writes a list of pieces one after the other.  It succeeds exactly if they fit without
the terminating zero, and leaves what is behind the buffer alone (`writeAll_spec`); if the zero fits
as well, the buffer has the pieces and the zero (`writeAll_memory`).
-/

namespace KvsWebrtc.PeerConnection

variable {m s : List Char} {pos size : Nat} {pieces : List (List Char)} {out : JsonOutput}

def writeAll (pieces : List (List Char)) (out : JsonOutput) : Except JsonOutput JsonOutput :=
  pieces.foldlM JsonOutput.write out

/-- The output that was written, whether all of it fitted or not. -/
def outputOf : Except JsonOutput JsonOutput → JsonOutput
  | .ok out => out
  | .error out => out

/-! ### `SNPRINTF` -/

theorem snprintf_of_pos (hsize : 0 < size) :
    snprintf m pos size s = (m.take pos ++ s.take (size - 1) ++ ['\x00'])
      ++ m.drop (pos + (s.take (size - 1)).length + 1) := by
  simp [snprintf, Nat.ne_of_gt hsize]

theorem length_snprintf (h : pos + size ≤ m.length) :
    (snprintf m pos size s).length = m.length := by
  rcases Nat.eq_zero_or_pos size with hsize | hsize
  · simp [snprintf, hsize]
  · have htake : (s.take (size - 1)).length ≤ size - 1 := List.length_take_le _ _
    simp only [snprintf_of_pos hsize, List.length_append, List.length_cons, List.length_nil,
      List.length_drop]
    rw [List.length_take_of_le (show pos ≤ m.length by omega)]
    omega

/-- `SNPRINTF` writes no more than it is allowed to. -/
theorem drop_snprintf (h : pos + size ≤ m.length) :
    (snprintf m pos size s).drop (pos + size) = m.drop (pos + size) := by
  rcases Nat.eq_zero_or_pos size with hsize | hsize
  · simp [snprintf, hsize]
  · have htake : (s.take (size - 1)).length ≤ size - 1 := List.length_take_le _ _
    have hlen : (m.take pos ++ s.take (size - 1) ++ ['\x00']).length
        = pos + (s.take (size - 1)).length + 1 := by
      simp only [List.length_append, List.length_cons, List.length_nil]
      rw [List.length_take_of_le (show pos ≤ m.length by omega)]
    rw [snprintf_of_pos hsize, List.drop_append, List.drop_eq_nil_of_le (by omega), hlen,
      List.drop_drop, List.nil_append]
    congr 1
    omega

theorem snprintf_of_lt (hs : s.length < size) :
    ∃ rest, snprintf m pos size s = m.take pos ++ s ++ '\x00' :: rest := by
  refine ⟨m.drop (pos + s.length + 1), ?_⟩
  rw [snprintf_of_pos (by omega), List.take_of_length_le (show s.length ≤ size - 1 by omega)]
  simp

/-! ### Pieces -/

theorem write_null (hm : out.memory = none) (s : List Char) :
    out.write s = .ok { out with
      sessionDescriptionJSONLen := out.sessionDescriptionJSONLen + s.length } := by
  simp [JsonOutput.write, hm]

theorem writeAll_null (hm : out.memory = none) (pieces : List (List Char)) :
    writeAll pieces out = .ok { out with
      sessionDescriptionJSONLen := out.sessionDescriptionJSONLen + pieces.flatten.length } := by
  induction pieces generalizing out with
  | nil => rfl
  | cons s pieces ih =>
    have hnull : ({ out with
      sessionDescriptionJSONLen := out.sessionDescriptionJSONLen + s.length } :
      JsonOutput).memory = none := hm
    have hrest := ih hnull
    unfold writeAll at hrest ⊢
    rw [List.foldlM_cons, write_null hm]
    refine hrest.trans ?_
    simp [Nat.add_assoc]

/-- One piece: it is refused if it does not fit without the zero, and what is behind the buffer
stays. -/
theorem write_some (hm : out.memory = some m) (hpos : out.sessionDescriptionJSONLen ≤ out.inputSize)
    (hsize : out.inputSize ≤ m.length) (s : List Char) :
    ∃ m', m'.length = m.length ∧ m'.drop out.inputSize = m.drop out.inputSize ∧
      out.write s = if out.sessionDescriptionJSONLen + s.length ≤ out.inputSize then
          .ok { out with
            memory := some m'
            sessionDescriptionJSONLen := out.sessionDescriptionJSONLen + s.length }
        else .error { out with memory := some m' } := by
  have hend : out.sessionDescriptionJSONLen + (out.inputSize - out.sessionDescriptionJSONLen)
      = out.inputSize := by omega
  refine ⟨snprintf m out.sessionDescriptionJSONLen (out.inputSize - out.sessionDescriptionJSONLen)
    s, length_snprintf (by omega), ?_, ?_⟩
  · have hdrop : (snprintf m out.sessionDescriptionJSONLen
        (out.inputSize - out.sessionDescriptionJSONLen) s).drop
          (out.sessionDescriptionJSONLen + (out.inputSize - out.sessionDescriptionJSONLen))
        = m.drop _ := drop_snprintf (by omega)
    rwa [hend] at hdrop
  · have hiff : s.length ≤ out.inputSize - out.sessionDescriptionJSONLen
        ↔ out.sessionDescriptionJSONLen + s.length ≤ out.inputSize := by omega
    simp [JsonOutput.write, hm, hiff]

/-- **The pieces are written exactly if they fit without the zero, and never behind the buffer.** -/
theorem writeAll_spec (hm : out.memory = some m)
    (hpos : out.sessionDescriptionJSONLen ≤ out.inputSize) (hsize : out.inputSize ≤ m.length)
    (pieces : List (List Char)) :
    (∃ m', (outputOf (writeAll pieces out)).memory = some m' ∧ m'.length = m.length ∧
      m'.drop out.inputSize = m.drop out.inputSize) ∧
      ((writeAll pieces out).isOk
        ↔ out.sessionDescriptionJSONLen + pieces.flatten.length ≤ out.inputSize) := by
  induction pieces generalizing out m with
  | nil => exact ⟨⟨m, hm, rfl, rfl⟩, by
    simpa [writeAll, Except.isOk, Except.toBool, pure, Except.pure]⟩
  | cons s pieces ih =>
    obtain ⟨m', hlen, hdrop, hwrite⟩ := write_some hm hpos hsize s
    unfold writeAll at ih ⊢
    rw [List.foldlM_cons, hwrite]
    by_cases hfits : out.sessionDescriptionJSONLen + s.length ≤ out.inputSize
    · rw [if_pos hfits]
      set out₁ : JsonOutput := { out with
        memory := some m'
        sessionDescriptionJSONLen := out.sessionDescriptionJSONLen + s.length } with hout₁
      have hm' : out₁.memory = some m' := rfl
      obtain ⟨⟨m'', hm'', hlen', hdrop'⟩, hok⟩ := ih hm' hfits (hlen ▸ hsize)
      refine ⟨⟨m'', hm'', hlen'.trans hlen, hdrop'.trans hdrop⟩, ?_⟩
      refine hok.trans ?_
      show out.sessionDescriptionJSONLen + s.length + pieces.flatten.length ≤ out.inputSize ↔ _
      simp only [List.flatten_cons, List.length_append]
      omega
    · rw [if_neg hfits]
      refine ⟨⟨m', rfl, hlen, hdrop⟩, ?_⟩
      simp only [bind, Except.bind, Except.isOk, Except.toBool, List.flatten_cons,
        List.length_append]
      simp only [Bool.false_eq_true, false_iff]
      omega

/-- Pieces that fit with the zero are written whole. -/
theorem writeAll_memory (hm : out.memory = some m) (hne : pieces ≠ [])
    (hfits : out.sessionDescriptionJSONLen + pieces.flatten.length < out.inputSize)
    (hsize : out.inputSize ≤ m.length) :
    ∃ rest out', writeAll pieces out = .ok out' ∧
      out'.memory = some (m.take out.sessionDescriptionJSONLen ++ pieces.flatten ++
        '\x00' :: rest) := by
  induction pieces generalizing out m with
  | nil => exact absurd rfl hne
  | cons s pieces ih =>
    simp only [List.flatten_cons, List.length_append] at hfits
    obtain ⟨rest, hrest⟩ : ∃ rest, snprintf m out.sessionDescriptionJSONLen
        (out.inputSize - out.sessionDescriptionJSONLen) s
          = m.take out.sessionDescriptionJSONLen ++ s ++ '\x00' :: rest := snprintf_of_lt (by omega)
    have hlen : (snprintf m out.sessionDescriptionJSONLen
        (out.inputSize - out.sessionDescriptionJSONLen) s).length = m.length :=
        length_snprintf (by omega)
    set out₁ : JsonOutput := { out with
      memory := some (snprintf m out.sessionDescriptionJSONLen
        (out.inputSize - out.sessionDescriptionJSONLen) s)
      sessionDescriptionJSONLen := out.sessionDescriptionJSONLen + s.length } with hout₁
    have hwrite : out.write s = .ok out₁ := by
      have hle : s.length ≤ out.inputSize - out.sessionDescriptionJSONLen := by omega
      simp [JsonOutput.write, hm, hle, hout₁]
    have hcons : writeAll (s :: pieces) out = writeAll pieces out₁ := by
      unfold writeAll
      rw [List.foldlM_cons, hwrite]
      rfl
    cases pieces with
    | nil =>
      refine ⟨rest, out₁, hcons, ?_⟩
      simp [hout₁, hrest]
    | cons t pieces =>
      have hm₁ : out₁.memory = some (snprintf m out.sessionDescriptionJSONLen
        (out.inputSize - out.sessionDescriptionJSONLen) s) := rfl
      obtain ⟨rest', out', hok, hmemory⟩ := ih hm₁ (by simp)
        (show out.sessionDescriptionJSONLen + s.length + _ < out.inputSize by omega)
        (show out.inputSize ≤ _ by omega)
      refine ⟨rest', out', hcons.trans hok, ?_⟩
      -- what the later pieces keep is what was there and the first piece
      have hkeep : (snprintf m out.sessionDescriptionJSONLen
          (out.inputSize - out.sessionDescriptionJSONLen) s).take
          (out.sessionDescriptionJSONLen + s.length)
          = m.take out.sessionDescriptionJSONLen ++ s := by
        have hpre : (m.take out.sessionDescriptionJSONLen ++ s).length
            = out.sessionDescriptionJSONLen + s.length := by
          rw [List.length_append, List.length_take_of_le (by omega)]
        rw [hrest, ← hpre, List.take_left]
      rw [hmemory]
      show some ((snprintf m _ _ s).take (out.sessionDescriptionJSONLen + s.length) ++ _ ++ _) = _
      rw [hkeep]
      simp

end KvsWebrtc.PeerConnection
