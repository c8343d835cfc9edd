import KvsWebrtc.PeerConnection.Equiv.Jsmn
import KvsWebrtc.PeerConnection.SessionDescription

/-!
# Candidates in JSON

Nothing behind the text is read: a token that is compared with the key has a character behind its
start that the key does not have.  A candidate that is too long leaves its field.
-/

namespace KvsWebrtc.PeerConnection

open Jsmn

/-- The values behind the tokens that begin like the key. -/
def candidateValues (js : List Char) : List JsmnToken → List JsmnToken
  | key :: value :: tokens =>
    if tokenStartsWith js candidateKey key then value :: candidateValues js tokens
      else candidateValues js tokens
  | _ => []

def CandidateFits (js : List Char) (value : JsmnToken) : Prop :=
  (tokenText js value).length ≤ maxIceCandidateInitCandidateLen

/-- A call neither leaves the text or the field, nor does it leave a string there that does not
fit. -/
def CandidateSafe : Except Failure (List Char) → Prop
  | .ok candidate => candidate.length ≤ maxIceCandidateInitCandidateLen
  | .error e => e ≠ .outOfBounds

variable {pre s : List Char} {tokens : List JsmnToken}

theorem startsWith_candidateKey {key : JsmnToken} (h : Stopped pre key.start) (s : List Char) :
    Memory.startsWith candidateKey ((pre ++ s).drop key.start) = .ok
    (tokenStartsWith (pre ++ s) candidateKey key) := by
  obtain ⟨c, hc, hstop⟩ := h
  have hstops : stops.all (fun c => c ∉ candidateKey) = true := by decide
  have hkey : c ∉ candidateKey := of_decide_eq_true (List.all_eq_true.mp hstops c hstop)
  have hmem : c ∈ (pre ++ s).drop key.start := by
    rw [List.drop_append]
    exact List.mem_append_left _ hc
  exact Memory.startsWith_of_mem hmem hkey

theorem tokenText_inside {value : JsmnToken} (hinside : Inside pre s tokens)
    (hmem : value ∈ tokens) :
    (tokenText (pre ++ s) value).length = value.finish.getD value.start - value.start ∧
      '\x00' ∉ tokenText (pre ++ s) value := by
  have hfinish : value.finish.getD value.start ≤ pre.length := by
    cases hf : value.finish with
    | none => exact hinside.start_le value hmem
    | some finish => exact (hinside.spans value hmem finish hf).finish_le
  have hstart := hinside.start_le value hmem
  have hdrop : (pre ++ s).drop value.start = pre.drop value.start ++ s :=
    List.drop_append_of_le_length hstart
  have hlen : value.finish.getD value.start - value.start ≤ (pre.drop value.start).length := by
    rw [List.length_drop]
    omega
  have htext : tokenText (pre ++ s) value =
      (pre.drop value.start).take (value.finish.getD value.start - value.start) := by
    rw [tokenText, hdrop, List.take_append_of_le_length hlen]
  rw [htext, List.length_take, Nat.min_eq_left hlen]
  exact ⟨rfl, fun h => hinside.zero (List.mem_of_mem_drop (List.mem_of_mem_take h))⟩

theorem strncpy_candidate {value : JsmnToken} (hinside : Inside pre s tokens)
    (hmem : value ∈ tokens) (candidate : List Char) :
    let copied := Memory.strncpy (maxIceCandidateInitCandidateLen + 1)
      candidate ((pre ++ s).drop value.start)
      (value.finish.getD value.start - value.start)
    if (tokenText (pre ++ s) value).length ≤ maxIceCandidateInitCandidateLen + 1 then
      ∃ candidate', copied = .ok candidate' ∧
        candidate'.length = max (tokenText (pre ++ s) value).length candidate.length
    else copied = .error .outOfBounds := by
  obtain ⟨hlen, hzero⟩ := tokenText_inside hinside hmem
  have hle : value.finish.getD value.start - value.start ≤
      ((pre ++ s).drop value.start).length := by
    rw [← hlen, tokenText, List.length_take]
    exact Nat.min_le_right _ _
  have hcopy := Memory.strncpy_eq hle hzero (maxIceCandidateInitCandidateLen + 1) candidate
  rw [hlen]
  dsimp only
  rw [hcopy]
  split_ifs
  · refine ⟨_, rfl, ?_⟩
    rw [List.length_append, List.length_take, Nat.min_eq_left hle, List.length_drop]
    omega
  · rfl

/-- **The loop over the tokens**: each candidate is copied over the one before. -/
theorem readCandidates_spec (hinside : Inside pre s tokens) (members : List JsmnToken) :
    members ⊆ tokens → (∀ t ∈ members.dropLast, Stopped pre t.start) → ∀ candidate : List Char,
      match readCandidates (pre ++ s) members candidate with
      | .ok candidate' => candidate'.length ≤ maxIceCandidateInitCandidateLen ↔
          candidate.length ≤ maxIceCandidateInitCandidateLen ∧
            ∀ value ∈ candidateValues (pre ++ s) members, CandidateFits (pre ++ s) value
      | .error e => e = .outOfBounds ∧
          ¬ ∀ value ∈ candidateValues (pre ++ s) members, CandidateFits (pre ++ s) value := by
  -- the last token has no value behind it
  have hdropLast : ∀ {key value t : JsmnToken} {members : List JsmnToken}, t ∈ members.dropLast →
      t ∈ (key :: value :: members).dropLast := by
    intro key value t members ht
    cases members with
    | nil => cases ht
    | cons x members => exact List.mem_cons_of_mem _ (List.mem_cons_of_mem _ ht)
  fun_induction candidateValues (pre ++ s) members with
  | case1 key value members hkey ih =>
    intro hsub hstop candidate
    obtain ⟨-, hrest⟩ := List.cons_subset.mp hsub
    obtain ⟨hvalue, hmembers⟩ := List.cons_subset.mp hrest
    have hstart := startsWith_candidateKey (hstop key List.mem_cons_self) s
    rw [readCandidates, hstart, hkey, List.forall_mem_cons]
    -- the key is found, and its value is copied
    have hcopy := strncpy_candidate hinside hvalue candidate
    dsimp only [Memory.ok_bind] at hcopy ⊢
    split_ifs at hcopy with hlen
    · obtain ⟨candidate₁, hcopied, hlength⟩ := hcopy
      have hspec := ih hmembers (fun t ht => hstop t (hdropLast ht)) candidate₁
      rw [if_pos rfl, hcopied, Memory.ok_bind]
      cases hrun : readCandidates (pre ++ s) members candidate₁ with
      | ok candidate' =>
        rw [hrun] at hspec
        dsimp only at hspec ⊢
        rw [hspec, hlength, Nat.max_le, CandidateFits]
        tauto
      | error e =>
        rw [hrun] at hspec
        exact ⟨hspec.1, fun h => hspec.2 h.2⟩
    · rw [if_pos rfl, hcopy]
      exact ⟨rfl, fun h => hlen (Nat.le_succ_of_le h.1)⟩
  | case2 key value members hkey ih =>
    intro hsub hstop candidate
    obtain ⟨-, hrest⟩ := List.cons_subset.mp hsub
    obtain ⟨-, hmembers⟩ := List.cons_subset.mp hrest
    have hstart := startsWith_candidateKey (hstop key List.mem_cons_self) s
    rw [readCandidates, hstart, Bool.eq_false_iff.mpr hkey]
    exact ih hmembers (fun t ht => hstop t (hdropLast ht)) candidate
  | case3 members hmembers =>
    intro hsub hstop candidate
    have hread : readCandidates (pre ++ s) members candidate = .ok candidate := by
      rw [readCandidates]
      exact hmembers
    rw [hread]
    simp

/-- **Reads and the field of candidates**: every read is inside the text and the candidate fits its
field exactly if all candidates of the text fit. -/
theorem candidate_safe_iff (numTokens : Nat) (js : List Char) :
    CandidateSafe (deserializeRtcIceCandidateInit numTokens (some js)) ↔
      ∀ object members, jsmnParse numTokens js = .ok (object :: members) → object.type = .object →
        ∀ value ∈ candidateValues js members, CandidateFits js value := by
  rw [deserializeRtcIceCandidateInit]
  cases hparse : jsmnParse numTokens js with
  | error e => exact iff_of_true nofun nofun
  | ok tokens =>
    match tokens with
    | [] => exact iff_of_true nofun nofun
    | [object] => exact iff_of_true nofun fun object members h _ => by cases h; exact nofun
    | object :: first :: members =>
      dsimp only
      by_cases hobject : object.type = .object
      · rw [if_neg (not_not_intro hobject)]
        obtain ⟨-, pre, s, rfl, hinside⟩ := jsmnParse_inside hparse
        -- only the last token of a text can lack its end
        have hstop : ∀ t ∈ (first :: members).dropLast, Stopped pre t.start := by
          intro t ht
          refine hinside.stopped t.start ?_
          rw [← List.map_dropLast]
          exact List.mem_map_of_mem (List.mem_cons_of_mem _ ht)
        have hspec := readCandidates_spec hinside (first :: members)
          (List.subset_cons_self ..) hstop []
        have hiff : (∀ object' members', Except.ok (ε := JsmnError) (object :: first :: members) =
            .ok (object' :: members') → object'.type = .object →
              ∀ value ∈ candidateValues (pre ++ s) members', CandidateFits (pre ++ s) value) ↔
            ∀ value ∈ candidateValues (pre ++ s) (first :: members),
            CandidateFits (pre ++ s) value :=
          ⟨fun h => h object (first :: members) rfl hobject, fun h _ _ heq _ => by
          cases heq; exact h⟩
        rw [hiff]
        cases hrun : readCandidates (pre ++ s) (first :: members) [] with
        | error e =>
          rw [hrun] at hspec
          exact iff_of_false (fun h => h hspec.1) hspec.2
        | ok candidate =>
          rw [hrun] at hspec
          rw [Memory.ok_bind]
          split_ifs with hempty
          · exact iff_of_true nofun (hspec.mp (hempty ▸ Nat.zero_le _)).2
          · exact hspec.trans (and_iff_right (Nat.zero_le _))
      · rw [if_pos hobject]
        exact iff_of_true nofun fun _ _ h hobject' => by cases h; exact absurd hobject' hobject

end KvsWebrtc.PeerConnection
