import Mathlib.Algebra.Ring.Nat
import Mathlib.Data.List.Basic
import Mathlib.Tactic.SplitIfs

/-!
# Reading from a stream that arrives in chunks

A stream arrives as a list of chunks, none of which is empty.  `readExact n` takes the first `n`
elements of the stream and leaves the rest, whatever the chunks are (`IsChunking.readExact`).
-/

namespace KvsWebrtc

variable {α : Type*} {stream : List α} {chunks : List (List α)}

/-- Reads exactly `n` elements, chunk by chunk; a read that returns nothing fails. -/
def readExact : Nat → List (List α) → Option (List α × List (List α))
  | 0, chunks => some ([], chunks)
  | _ + 1, [] => none
  | n + 1, chunk :: rest =>
    if n + 1 < chunk.length then some (chunk.take (n + 1), chunk.drop (n + 1) :: rest)
    else if chunk.length = 0 then none
    else (readExact (n + 1 - chunk.length) rest).map fun (read, rest) => (chunk ++ read, rest)

/-- The chunks are a way to cut the stream. -/
structure IsChunking (chunks : List (List α)) (stream : List α) : Prop where
  ne_nil : ∀ c ∈ chunks, c ≠ []
  flatten : chunks.flatten = stream

theorem IsChunking.nil : IsChunking ([] : List (List α)) [] := by
  refine ⟨fun c hc => ?_, rfl⟩
  cases hc

theorem IsChunking.cons {chunk : List α} (hchunk : chunk ≠ []) (h : IsChunking chunks stream) :
    IsChunking (chunk :: chunks) (chunk ++ stream) := by
  refine ⟨fun c hc => ?_, ?_⟩
  · obtain rfl | hc := List.mem_cons.mp hc
    · exact hchunk
    · exact h.ne_nil c hc
  · rw [List.flatten_cons, h.flatten]

theorem IsChunking.tail {chunk : List α} (h : IsChunking (chunk :: chunks) stream) :
    IsChunking chunks (stream.drop chunk.length) := by
  refine ⟨fun c hc => h.ne_nil c (List.mem_cons_of_mem chunk hc), ?_⟩
  rw [← h.flatten, List.flatten_cons, List.drop_left]

theorem IsChunking.eq_nil (h : IsChunking chunks ([] : List α)) : chunks = [] := by
  cases chunks with
  | nil => rfl
  | cons chunk rest =>
    have hflat := h.flatten
    rw [List.flatten_cons, List.append_eq_nil_iff] at hflat
    exact absurd hflat.1 (h.ne_nil chunk List.mem_cons_self)

/-- Every stream can be cut: into nothing if it is empty, else into itself. -/
theorem exists_isChunking (stream : List α) : ∃ chunks, IsChunking chunks stream := by
  cases stream with
  | nil => exact ⟨[], IsChunking.nil⟩
  | cons a l =>
    refine ⟨[a :: l], ?_⟩
    have h := @IsChunking.cons α [] [] (a :: l) (List.cons_ne_nil a l) IsChunking.nil
    rwa [List.append_nil] at h

/-- Reading `n` elements, if there are as many. -/
theorem IsChunking.readExact (h : IsChunking chunks stream) {n : Nat} (hn : n ≤ stream.length) :
    ∃ rest, readExact n chunks = some (stream.take n, rest) ∧ IsChunking rest (stream.drop n) := by
  induction chunks generalizing n stream with
  | nil =>
    obtain rfl := h.flatten
    obtain rfl := Nat.le_zero.mp hn
    exact ⟨[], rfl, h⟩
  | cons chunk rest ih =>
    cases n with
    | zero => exact ⟨chunk :: rest, rfl, h⟩
    | succ n =>
      have hchunk : chunk.length ≠ 0 := by
        intro hzero
        exact h.ne_nil chunk List.mem_cons_self (List.length_eq_zero_iff.mp hzero)
      have htail := h.tail
      have hflat : chunk ++ rest.flatten = stream := h.flatten
      rw [KvsWebrtc.readExact]
      split_ifs with hlt
      · -- the chunk is longer than what is read
        have htake : stream.take (n + 1) = chunk.take (n + 1) := by
          rw [← hflat, List.take_append_of_le_length (Nat.le_of_lt hlt)]
        have hdrop : stream.drop (n + 1) = chunk.drop (n + 1) ++ stream.drop chunk.length := by
          rw [← hflat, List.drop_append_of_le_length (Nat.le_of_lt hlt), List.drop_left]
        refine ⟨_, by rw [htake], ?_⟩
        rw [hdrop]
        refine htail.cons fun hnil => ?_
        have hlen := List.length_drop (i := n + 1) (l := chunk)
        rw [hnil, List.length_nil] at hlen
        omega
      · -- the chunk is used up, and the others give the rest
        obtain ⟨rest', hread, hrest'⟩ := ih htail (n := n + 1 - chunk.length)
          (by rw [List.length_drop]; omega)
        rw [hread]
        refine ⟨rest', ?_, ?_⟩
        · have htake : stream.take (n + 1) =
              chunk ++ (stream.drop chunk.length).take (n + 1 - chunk.length) := by
            rw [← hflat, List.drop_left, List.take_append, List.take_of_length_le (by omega)]
          rw [htake]
          rfl
        · rw [List.drop_drop] at hrest'
          rwa [show chunk.length + (n + 1 - chunk.length) = n + 1 by omega] at hrest'

end KvsWebrtc
