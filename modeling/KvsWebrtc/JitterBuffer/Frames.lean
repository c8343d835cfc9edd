import KvsWebrtc.JitterBuffer.Parse

/-!
# The frames of the window

The places from head to tail, cut into frames as `jitterBufferInternalParse` reads them: the first
frame has the head timestamp, and a stored packet with another timestamp than the current frame
starts a new one.  An empty place belongs to the frame before it.
-/

namespace KvsWebrtc

def JbCallbacks.startsFrame (cb : JbCallbacks) (p : RtpPacket) : Bool :=
  match cb.depay p with
  | .ok (_, isStart) => isStart
  | .error _ => false

def JbCallbacks.placeSize (cb : JbCallbacks) : Option RtpPacket → UInt32
  | none => 0
  | some p =>
    match cb.depay p with
    | .ok (size, _) => size
    | .error _ => 0

/-- A frame of the window: its timestamp and its places, in the order of the sequence numbers. -/
structure WindowFrame where
  timestamp : Nat
  places : List (Option RtpPacket)
deriving DecidableEq

namespace WindowFrame

def hasGap (f : WindowFrame) : Bool := f.places.any Option.isNone

def hasStart (cb : JbCallbacks) (f : WindowFrame) : Bool :=
  f.places.any fun o => o.any cb.startsFrame

def size (cb : JbCallbacks) (f : WindowFrame) : UInt32 :=
  f.places.foldl (fun size o => size + cb.placeSize o) 0

def complete (cb : JbCallbacks) (f : WindowFrame) : Bool := f.hasStart cb && !f.hasGap

theorem complete_of_hasStart {cb : JbCallbacks} {f : WindowFrame} (hstart : f.hasStart cb = true)
    (hgap : f.hasGap = false) : f.complete cb = true := by
  unfold complete
  rw [hstart, hgap]
  rfl

theorem incomplete_of_hasGap {cb : JbCallbacks} {f : WindowFrame} (hgap : f.hasGap = true) :
    f.complete cb = false := by
  unfold complete
  rw [hgap]
  exact Bool.and_false _

/-- The frames of a list of places, where `cur` was read and belongs to the frame of timestamp
`ts`. -/
def framesFrom (ts : Nat) (cur : List (Option RtpPacket)) :
    List (Option RtpPacket) → List WindowFrame
  | [] => [⟨ts, cur⟩]
  | none :: rest => framesFrom ts (cur ++ [none]) rest
  | some p :: rest =>
    if p.ts = ts then framesFrom ts (cur ++ [some p]) rest
    else ⟨ts, cur⟩ :: framesFrom p.ts [some p] rest

variable {ts : Nat} {cur rest : List (Option RtpPacket)}

theorem framesFrom_none : framesFrom ts cur (none :: rest) = framesFrom ts (cur ++ [none]) rest :=
  rfl

theorem framesFrom_same {p : RtpPacket} (h : p.ts = ts) :
    framesFrom ts cur (some p :: rest) = framesFrom ts (cur ++ [some p]) rest := if_pos h

theorem framesFrom_new {p : RtpPacket} (h : p.ts ≠ ts) :
    framesFrom ts cur (some p :: rest) = ⟨ts, cur⟩ :: framesFrom p.ts [some p] rest := if_neg h

/-- The frame being read comes first, with what was read of it. -/
theorem framesFrom_eq_cons (ts : Nat) (cur rest : List (Option RtpPacket)) :
    ∃ more fs, framesFrom ts cur rest = ⟨ts, cur ++ more⟩ :: fs := by
  induction rest generalizing cur with
  | nil => exact ⟨[], [], by rw [framesFrom, List.append_nil]⟩
  | cons o rest ih =>
    cases o with
    | none =>
      obtain ⟨more, fs, h⟩ := ih (cur ++ [none])
      exact ⟨none :: more, fs, by rw [framesFrom_none, h, List.append_assoc]; rfl⟩
    | some p =>
      by_cases hts : p.ts = ts
      · obtain ⟨more, fs, h⟩ := ih (cur ++ [some p])
        exact ⟨some p :: more, fs, by rw [framesFrom_same hts, h, List.append_assoc]; rfl⟩
      · exact ⟨[], _, by rw [framesFrom_new hts, List.append_nil]⟩

/-- Cutting loses no place and keeps their order. -/
theorem flatMap_framesFrom (ts : Nat) (cur rest : List (Option RtpPacket)) :
    (framesFrom ts cur rest).flatMap places = cur ++ rest := by
  induction rest generalizing ts cur with
  | nil => simp [framesFrom]
  | cons o rest ih =>
    cases o with
    | none => rw [framesFrom_none, ih, List.append_assoc]; rfl
    | some p =>
      by_cases hts : p.ts = ts
      · rw [framesFrom_same hts, ih, List.append_assoc]; rfl
      · rw [framesFrom_new hts, List.flatMap_cons, ih]; rfl

theorem ts_of_mem_framesFrom (hcur : ∀ p, some p ∈ cur → p.ts = ts) {f : WindowFrame}
    (hf : f ∈ framesFrom ts cur rest) {p : RtpPacket} (hp : some p ∈ f.places) :
    p.ts = f.timestamp := by
  induction rest generalizing ts cur with
  | nil =>
    obtain rfl := List.mem_singleton.mp hf
    exact hcur p hp
  | cons o rest ih =>
    cases o with
    | none =>
      rw [framesFrom_none] at hf
      refine ih (fun q hq => hcur q ?_) hf
      simpa using hq
    | some q =>
      by_cases hts : q.ts = ts
      · rw [framesFrom_same hts] at hf
        refine ih (fun r hr => ?_) hf
        rcases List.mem_append.mp hr with hr | hr
        · exact hcur r hr
        · obtain rfl := Option.some.inj (List.mem_singleton.mp hr)
          exact hts
      · rw [framesFrom_new hts] at hf
        rcases List.mem_cons.mp hf with rfl | hf
        · exact hcur p hp
        · refine ih (fun r hr => ?_) hf
          obtain rfl := Option.some.inj (List.mem_singleton.mp hr)
          rfl

/-- Places of the frame being read can be cut as if they had not been read. -/
theorem framesFrom_append {read : List (Option RtpPacket)}
    (hread : ∀ p, some p ∈ read → p.ts = ts) :
    framesFrom ts cur (read ++ rest) = framesFrom ts (cur ++ read) rest := by
  induction read generalizing cur with
  | nil => rw [List.append_nil]; rfl
  | cons o read ih =>
    have htail : ∀ p, some p ∈ read → p.ts = ts := fun p hp => hread p (List.mem_cons_of_mem _ hp)
    have hassoc : cur ++ o :: read = cur ++ [o] ++ read := by simp
    rw [hassoc, ← ih htail]
    cases o with
    | none => rfl
    | some p => exact framesFrom_same (hread p List.mem_cons_self)

end WindowFrame

namespace JitterBuffer

/-- The packet stored `k` places past the head. -/
def slot (jb : JitterBuffer) (k : Nat) : Option RtpPacket :=
  jb.pkgBufferHashTable ((jb.headSequenceNumber + k) % 65536)

theorem slot_eq (jb : JitterBuffer) (k : Nat) :
    jb.slot k = jb.pkgBufferHashTable ((jb.headSequenceNumber + k) % 65536) := rfl

def slots (jb : JitterBuffer) : List (Option RtpPacket) := (List.range jb.parseCount).map jb.slot

def frames (jb : JitterBuffer) : List WindowFrame :=
  WindowFrame.framesFrom jb.headTimestamp [] jb.slots

theorem length_slots (jb : JitterBuffer) : jb.slots.length = jb.parseCount := by
  simp [slots]

theorem getElem?_slots (jb : JitterBuffer) {k : Nat} (hk : k < jb.parseCount) :
    jb.slots[k]? = some (jb.slot k) := by
  simp [slots, hk]

end JitterBuffer

end KvsWebrtc
