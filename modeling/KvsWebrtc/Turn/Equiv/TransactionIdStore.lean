import KvsWebrtc.Common.Ring
import KvsWebrtc.Common.Run
import KvsWebrtc.Turn.TransactionIdStore
import Mathlib.Data.List.NodupEquivFin

/-!
# The transaction ids that a store has

A store is to have the ids of its last inserts (`AmongLast`).  The slots are those of the last
inserts, the newest of them before the next slot (`Tracks`), but two calls leave ids behind:
`transactionIdStoreClear` all of them, and `transactionIdStoreRemove` those that it does not find
first.  So along a run the store has an id exactly when it is among the last inserts if and only if
none of the calls does so (`hasId_iff_amongLast_along`).
-/

namespace KvsWebrtc.Turn

/-- A call that changes a store. -/
inductive StoreCall
  | insert (transactionId : List UInt8)
  | remove (transactionId : List UInt8)
  | clear
deriving DecidableEq

def StoreCall.isInsert : StoreCall → Bool
  | .insert _ => true
  | _ => false

def StoreCall.run (store : TransactionIdStore) : StoreCall → TransactionIdStore
  | .insert transactionId => store.insert transactionId
  | .remove transactionId => store.remove transactionId
  | .clear => store.clear

/-- A store and the calls that have been made, the last one first. -/
structure StoreRun where
  store : TransactionIdStore
  history : List StoreCall

/-- The id is one of the last `n` inserts since the last clear, and it has not been removed
since. -/
def AmongLast (n : Nat) (history : List StoreCall) (transactionId : List UInt8) : Prop :=
  ∃ later earlier, history = later ++ .insert transactionId :: earlier ∧ .clear ∉ later ∧
    .remove transactionId ∉ later ∧ later.countP StoreCall.isInsert < n

/-- For each insert since the last clear, the last one first, whether it is one of the id and the id
has not been removed since. -/
def live (transactionId : List UInt8) : List StoreCall → List Bool
  | [] | .clear :: _ => []
  | .insert inserted :: history => (inserted == transactionId) :: live transactionId history
  | .remove removed :: history =>
    if removed = transactionId then (live transactionId history).map fun _ => false
    else live transactionId history

/-- How often the id has been inserted by the last `n` inserts since the last clear or its last
removal. -/
def copies (n : Nat) (history : List StoreCall) (transactionId : List UInt8) : Nat :=
  ((live transactionId history).take n).count true

section

variable {n : Nat} {history : List StoreCall} {transactionId : List UInt8}

theorem amongLast_cons (call : StoreCall) :
    AmongLast n (call :: history) transactionId ↔
      call = .insert transactionId ∧ 0 < n ∨
      call ≠ .clear ∧ call ≠ .remove transactionId ∧
        AmongLast (n - if call.isInsert then 1 else 0) history transactionId := by
  unfold AmongLast
  constructor
  · rintro ⟨later, earlier, heq, hclear, hremove, hcount⟩
    cases later with
    | nil =>
      obtain ⟨rfl, -⟩ := List.cons.inj heq
      exact .inl ⟨rfl, hcount⟩
    | cons c later =>
      obtain ⟨rfl, rfl⟩ := List.cons.inj heq
      rw [List.mem_cons, not_or] at hclear hremove
      rw [List.countP_cons] at hcount
      exact .inr ⟨Ne.symm hclear.1, Ne.symm hremove.1, later, earlier, rfl, hclear.2, hremove.2, by
        omega⟩
  · rintro (⟨rfl, hn⟩ | ⟨hclear, hremove, later, earlier, rfl, hclear', hremove', hcount⟩)
    · exact ⟨[], history, rfl, by simp, by simp, hn⟩
    · refine ⟨call :: later, earlier, rfl, ?_, ?_, ?_⟩
      · simp [Ne.symm hclear, hclear']
      · simp [Ne.symm hremove, hremove']
      · rw [List.countP_cons]
        omega

/-- The id is among the last inserts if one of these is live. -/
theorem amongLast_iff :
    AmongLast n history transactionId ↔ ∃ i < n, (live transactionId history)[i]? = some true := by
  induction history generalizing n with
  | nil => simp [AmongLast, live]
  | cons call history ih =>
    rw [amongLast_cons, ih]
    cases call with
    | clear => simp [live]
    | remove removed =>
      by_cases h : removed = transactionId
      · -- nothing that has been inserted is live any more
        simp [live, h, List.getElem?_replicate]
      · simp [live, h, StoreCall.isInsert]
    | insert inserted =>
      simp only [live, StoreCall.isInsert, StoreCall.insert.injEq]
      constructor
      · rintro (⟨rfl, hn⟩ | ⟨-, -, i, hi, hlive⟩)
        · exact ⟨0, hn, by simp⟩
        · exact ⟨i + 1, by simp at hi; omega, hlive⟩
      · rintro ⟨i, hi, hlive⟩
        cases i with
        | zero =>
          rw [List.getElem?_cons_zero, Option.some.injEq] at hlive
          exact .inl ⟨eq_of_beq hlive, hi⟩
        | succ i => exact .inr ⟨by simp, by simp, i, by simp; omega, hlive⟩

instance : Decidable (AmongLast n history transactionId) :=
  decidable_of_iff (∃ i, i < n ∧ (live transactionId history)[i]? = some true) amongLast_iff.symm

/-- At most one insert is live if two that are live are the same. -/
theorem copies_le_one_iff :
    copies n history transactionId ≤ 1 ↔ ∀ i j, i < n → j < n →
      (live transactionId history)[i]? = some true → (live transactionId history)[j]? = some true →
        i = j := by
  unfold copies
  rw [← not_iff_not, not_le, Nat.lt_iff_add_one_le, ← List.duplicate_iff_two_le_count,
    List.duplicate_iff_exists_distinct_get]
  simp only [not_forall]
  constructor
  · rintro ⟨i, j, hij, hi, hj⟩
    have hget : ∀ k : Fin ((live transactionId history).take n).length,
        true = ((live transactionId history).take n).get k → k.1 < n ∧
          (live transactionId history)[k.1]? = some true := by
      intro k hk
      have hk' : ((live transactionId history).take n)[k.1]? = some true := by
        rw [List.getElem?_eq_getElem k.2, hk]
        rfl
      rw [List.getElem?_take] at hk'
      split_ifs at hk' with hlt
      exact ⟨hlt, hk'⟩
    exact ⟨i, j, (hget i hi).1, (hget j hj).1, (hget i hi).2, (hget j hj).2, fun h =>
      absurd hij (by omega)⟩
  · rintro ⟨i, j, hi, hj, hlivei, hlivej, hne⟩
    wlog hlt : i < j generalizing i j
    · exact this j i hj hi hlivej hlivei (Ne.symm hne) (by omega)
    have hget : ∀ k, k < n → (live transactionId history)[k]? = some true →
        ((live transactionId history).take n)[k]? = some true := by
      intro k hk hlive
      rw [List.getElem?_take, if_pos hk, hlive]
    obtain ⟨hi', hgeti⟩ := List.getElem?_eq_some_iff.mp (hget i hi hlivei)
    obtain ⟨hj', hgetj⟩ := List.getElem?_eq_some_iff.mp (hget j hj hlivej)
    exact ⟨⟨i, hi'⟩, ⟨j, hj'⟩, hlt, hgeti.symm, hgetj.symm⟩

end

/-! ### The search for a slot -/

namespace TransactionIdStore

variable {store : TransactionIdStore} {transactionId : List UInt8} {s : Nat}

theorem getElem?_of_findSlot (h : store.findSlot transactionId = some s) :
    store.transactionIds[s]? = some transactionId := by
  obtain ⟨j, hj, rfl⟩ := Option.map_eq_some_iff.mp h
  have hslot := List.find?_some hj
  exact beq_iff_eq.mp hslot

theorem findSlot_eq_none_iff :
    store.findSlot transactionId = none ↔ ¬ store.hasId transactionId := by
  unfold findSlot hasId
  rw [Option.map_eq_none_iff, List.find?_eq_none, List.any_eq_true]
  push Not
  rfl

theorem slots_remove (hzero : transactionId ≠ zeroTransactionId) (removed : List UInt8) (s : Nat) :
    (store.remove removed).transactionIds[s]? = some transactionId ↔
      store.transactionIds[s]? = some transactionId ∧
        store.findSlot removed ≠ some s := by
  unfold remove
  cases hfind : store.findSlot removed with
  | none => simp
  | some k =>
    dsimp only
    by_cases hs : k = s
    · subst hs
      simp only [ne_eq, not_true_eq_false, and_false, iff_false]
      intro hset
      obtain ⟨hlt, hget⟩ := List.getElem?_eq_some_iff.mp hset
      rw [List.getElem_set_self] at hget
      exact hzero hget.symm
    · rw [List.getElem?_set_ne hs]
      simp [hs]

end TransactionIdStore

/-! ### The slots -/

namespace StoreRun

variable {n : Nat} {r : StoreRun} {transactionId : List UInt8}

def step (r : StoreRun) (call : StoreCall) : StoreRun := ⟨call.run r.store, call :: r.history⟩

/-- The store has the id exactly when it is among the last inserts. -/
def Agrees (n : Nat) (transactionId : List UInt8) (r : StoreRun) : Prop :=
  r.store.hasId transactionId ↔ AmongLast n r.history transactionId

/-- The condition on a call: an id that is removed has been inserted once, and the store is cleared
when the id is not among the last inserts. -/
def CallOk (n : Nat) (transactionId : List UInt8) (r : StoreRun) : StoreCall → Prop
  | .insert _ => True
  | .remove removed => removed = transactionId → copies n r.history transactionId ≤ 1
  | .clear => ¬ AmongLast n r.history transactionId

instance : Decidable (Agrees n transactionId r) := inferInstanceAs (Decidable (_ ↔ _))

instance (call : StoreCall) : Decidable (CallOk n transactionId r call) :=
  match call with
  | .insert _ => .isTrue trivial
  | .remove removed => inferInstanceAs (Decidable (removed = transactionId → _))
  | .clear => inferInstanceAs (Decidable (¬ _))

/-- The slots before the next one are those of the last inserts: the id is in the slots of its live
inserts. -/
structure Tracks (n : Nat) (transactionId : List UInt8) (r : StoreRun) : Prop where
  count : r.store.maxTransactionIdsCount = n
  slots : ∀ i < n, r.store.transactionIds[slotBack n r.store.nextTransactionIdIndex i]? = some
    transactionId ↔
    (live transactionId r.history)[i]? = some true

theorem Tracks.next_lt (h : Tracks n transactionId r) : r.store.nextTransactionIdIndex < n :=
  h.count ▸ r.store.next_lt

theorem Tracks.agrees (h : Tracks n transactionId r) : Agrees n transactionId r := by
  unfold Agrees
  rw [TransactionIdStore.hasId_iff, amongLast_iff]
  constructor
  · intro hmem
    obtain ⟨s, hs⟩ := List.getElem?_of_mem hmem
    have hlt : s < n := h.count ▸ (List.getElem?_eq_some_iff.mp hs).1
    obtain ⟨i, hi, rfl⟩ := exists_slotBack h.next_lt hlt
    exact ⟨i, hi, (h.slots i hi).mp hs⟩
  · rintro ⟨i, hi, hlive⟩
    exact List.mem_of_getElem? ((h.slots i hi).mpr hlive)

theorem Tracks.insert (h : Tracks n transactionId r) (inserted : List UInt8) :
    Tracks n transactionId (r.step (.insert inserted)) := by
  have hnext := h.next_lt
  refine ⟨?_, fun i hi => ?_⟩
  · show (r.store.insert inserted).transactionIds.length = n
    rw [TransactionIdStore.transactionIds_insert, List.length_set]
    exact h.count
  show (r.store.insert inserted).transactionIds[slotBack n
      (r.store.insert inserted).nextTransactionIdIndex i]? =
    _ ↔ ((inserted == transactionId) :: live transactionId r.history)[i]? = _
  rw [TransactionIdStore.transactionIds_insert, TransactionIdStore.nextTransactionIdIndex_insert,
    h.count]
  cases i with
  | zero =>
    rw [slotBack_zero hnext, List.getElem?_set_self r.store.next_lt]
    simp
  | succ i =>
    rw [slotBack_succ hi, List.getElem?_cons_succ, ← h.slots i (by omega), List.getElem?_set_ne]
    -- the next slot is that of the new id
    intro heq
    have hzero : 0 = i + 1 := slotBack_inj (by omega) hi
      ((slotBack_zero hnext).trans (heq.trans (slotBack_succ hi).symm))
    omega

/-- The id is in at most one slot if it has been inserted once. -/
theorem Tracks.copies_le_one_iff (h : Tracks n transactionId r) :
    copies n r.history transactionId ≤ 1 ↔ ∀ s t : Nat,
    r.store.transactionIds[s]? = some transactionId →
      r.store.transactionIds[t]? = some transactionId → s = t := by
  rw [Turn.copies_le_one_iff]
  constructor
  · intro hone s t hs ht
    have hlts : s < n := h.count ▸ (List.getElem?_eq_some_iff.mp hs).1
    have hltt : t < n := h.count ▸ (List.getElem?_eq_some_iff.mp ht).1
    obtain ⟨i, hi, rfl⟩ := exists_slotBack h.next_lt hlts
    obtain ⟨j, hj, rfl⟩ := exists_slotBack h.next_lt hltt
    rw [hone i j hi hj ((h.slots i hi).mp hs) ((h.slots j hj).mp ht)]
  · intro hone i j hi hj hlivei hlivej
    exact slotBack_inj hi hj (hone _ _ ((h.slots i hi).mpr hlivei) ((h.slots j hj).mpr hlivej))

theorem Tracks.remove (h : Tracks n transactionId r) (hzero : transactionId ≠ zeroTransactionId)
    {removed : List UInt8} (hok : r.CallOk n transactionId (.remove removed)) :
    Tracks n transactionId (r.step (.remove removed)) := by
  refine ⟨?_, fun i hi => ?_⟩
  · show (r.store.remove removed).transactionIds.length = n
    rw [TransactionIdStore.length_remove]
    exact h.count
  show (r.store.remove removed).transactionIds[slotBack n
      (r.store.remove removed).nextTransactionIdIndex i]? =
    _ ↔ (live transactionId (.remove removed :: r.history))[i]? = _
  rw [TransactionIdStore.slots_remove hzero, TransactionIdStore.nextTransactionIdIndex_remove, live]
  split_ifs with heq
  · subst heq
    -- the only slot with the id is the one that is found
    simp only [List.map_const', List.getElem?_replicate]
    constructor
    · rintro ⟨hslot, hfind⟩
      exfalso
      cases hs : r.store.findSlot removed with
      | none =>
        rw [TransactionIdStore.findSlot_eq_none_iff, TransactionIdStore.hasId_iff] at hs
        exact hs (List.mem_of_getElem? hslot)
      | some s =>
        have hone := h.copies_le_one_iff.mp (hok rfl) s _
            (TransactionIdStore.getElem?_of_findSlot hs) hslot
        exact hfind (hs.trans (congrArg some hone))
    · intro hfalse
      split_ifs at hfalse
      simp at hfalse
  · rw [← h.slots i hi, and_iff_left_iff_imp]
    intro hslot hfind
    have hremoved := TransactionIdStore.getElem?_of_findSlot hfind
    exact heq (Option.some.inj (hremoved.symm.trans hslot))

theorem Tracks.clear (h : Tracks n transactionId r) (hok : r.CallOk n transactionId .clear) :
    Tracks n transactionId (r.step .clear) := by
  refine ⟨h.count, fun i _ => ?_⟩
  have hnot : ¬ r.store.hasId transactionId := mt h.agrees.mp hok
  rw [TransactionIdStore.hasId_iff] at hnot
  constructor
  · intro hslot
    exact absurd (List.mem_of_getElem? hslot) hnot
  · intro hlive
    simp [step, live] at hlive

/-! ### Runs -/

theorem Tracks.step (h : Tracks n transactionId r) (hzero : transactionId ≠ zeroTransactionId)
    (call : StoreCall) (hok : r.CallOk n transactionId call) :
    Tracks n transactionId (r.step call) := by
  cases call with
  | insert inserted => exact h.insert inserted
  | remove removed => exact h.remove hzero hok
  | clear => exact h.clear hok

/-- A call after which the store still agrees meets the condition. -/
theorem Tracks.callOk (h : Tracks n transactionId r) (hzero : transactionId ≠ zeroTransactionId)
    (call : StoreCall) (hagrees : Agrees n transactionId (r.step call)) :
    r.CallOk n transactionId call := by
  cases call with
  | insert inserted => trivial
  | remove removed =>
    rintro rfl
    have hnot : ¬ AmongLast n (.remove removed :: r.history) removed := by
      rw [amongLast_cons]
      simp
    have hgone : ¬ (r.store.remove removed).hasId removed := mt hagrees.mp hnot
    rw [TransactionIdStore.hasId_iff] at hgone
    have hfound : ∀ s : Nat, r.store.transactionIds[s]? = some removed →
        r.store.findSlot removed = some s := by
      intro s hs
      by_contra hne
      exact hgone (List.mem_of_getElem? ((TransactionIdStore.slots_remove hzero removed s).mpr
          ⟨hs, hne⟩))
    refine h.copies_le_one_iff.mpr fun s t hs ht => ?_
    exact Option.some.inj ((hfound s hs).symm.trans (hfound t ht))
  | clear =>
    intro hamong
    -- clearing leaves the slots alone
    have hhas : r.store.clear.hasId transactionId :=
      (TransactionIdStore.hasId_clear _ _).mpr (h.agrees.mpr hamong)
    have hnot : ¬ AmongLast n (.clear :: r.history) transactionId := by
      rw [amongLast_cons]
      simp
    exact hnot (hagrees.mp hhas)

def initial (store : TransactionIdStore) : StoreRun := ⟨store, []⟩

theorem tracks_initial {store : TransactionIdStore} (h : createTransactionIdStoreOf n = .ok store)
    (hzero : transactionId ≠ zeroTransactionId) : Tracks n transactionId (initial store) := by
  unfold createTransactionIdStoreOf at h
  split_ifs at h
  obtain rfl := Except.ok.inj h
  refine ⟨List.length_replicate, fun i _ => ?_⟩
  show (List.replicate n zeroTransactionId)[_]? = _ ↔ ([] : List Bool)[i]? = _
  simp [List.getElem?_replicate, Ne.symm hzero]

theorem not_agrees_zero {store : TransactionIdStore}
    (h : createTransactionIdStoreOf n = .ok store) :
    ¬ Agrees n zeroTransactionId (initial store) := by
  unfold createTransactionIdStoreOf at h
  split_ifs at h with hn
  obtain rfl := Except.ok.inj h
  unfold Agrees
  rw [TransactionIdStore.hasId_iff, amongLast_iff]
  show ¬ (zeroTransactionId ∈ List.replicate n zeroTransactionId ↔ ∃ i < n,
      ([] : List Bool)[i]? = some true)
  simp [hn.2.ne']

/-- **The ids that a store has**: along a run of a store of any size, the store has an id exactly
when it is among the last inserts if and only if the id is not all zeroes, whenever it is removed it
has been inserted once, and it is not among the last inserts when the store is cleared. -/
theorem hasId_iff_amongLast_along {store : TransactionIdStore}
    (h : createTransactionIdStoreOf n = .ok store) (transactionId : List UInt8)
    (calls : List StoreCall) :
    Along step (Agrees n transactionId) (initial store) calls ↔
      transactionId ≠ zeroTransactionId ∧ AllSteps step (CallOk n transactionId)
      (initial store) calls := by
  by_cases hzero : transactionId = zeroTransactionId
  · subst hzero
    constructor
    · intro halong
      exact absurd halong.head (not_agrees_zero h)
    · rintro ⟨hne, -⟩
      exact absurd rfl hne
  · have hall : AllSteps step (fun _ _ => True) (initial store) calls :=
      allSteps_of_forall (fun _ _ => trivial) _ _
    rw [and_iff_right hzero]
    exact along_iff_allSteps_of (fun _ (ht : Tracks n transactionId _) => ht.agrees)
      (fun _ call ht _ hok => ht.step hzero call hok)
      (fun _ call ht _ hagrees => ht.callOk hzero call hagrees) hall (tracks_initial h hzero)

def twoIds : TransactionIdStore where
  transactionIds := [zeroTransactionId, zeroTransactionId]
  nextTransactionIdIndex := 0
  earliestTransactionIdIndex := 0
  transactionIdCount := 0
  next_lt := by decide
  earliest_lt := by decide

/-- An id of twelve bytes, all of them the same. -/
def constantId (b : UInt8) : List UInt8 := List.replicate 12 b

/-- An id that is inserted, pushed out by two others, inserted again and removed. -/
theorem hasId_iff_amongLast_along_twoIds :
    Along step (Agrees 2 (constantId 1)) (initial twoIds)
      [.insert (constantId 1), .insert (constantId 2), .insert (constantId 3),
        .insert (constantId 1), .remove (constantId 1), .clear] :=
  (hasId_iff_amongLast_along rfl _ _).mpr ⟨by decide, by decide⟩

/-- An id that is inserted before the store is cleared is still found. -/
theorem cleared_id_found :
    ¬ ∀ (n : Nat) (store : TransactionIdStore), createTransactionIdStoreOf n = .ok store →
      ∀ (transactionId : List UInt8) (calls : List StoreCall), transactionId.length = 12 →
        Agrees n transactionId (calls.foldl step (initial store)) := by
  intro h
  have hfound := h 2 twoIds rfl (constantId 1) [.insert (constantId 1), .clear] rfl
  revert hfound
  decide

end StoreRun

end KvsWebrtc.Turn
