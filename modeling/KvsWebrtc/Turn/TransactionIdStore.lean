import KvsWebrtc.Stun.Packet

/-!
# The store of transaction ids

`TransactionIdStore` of `Ice/IceUtils.c`: a ring of transaction ids.  All its slots start out as
zeroes, and all of them are searched; clearing the store resets the indices but not the slots.
-/

namespace KvsWebrtc.Turn

/-- `STUN_TRANSACTION_ID_LEN` zeroes, the contents of a slot that is not used. -/
def zeroTransactionId : List UInt8 := List.replicate 12 0

def defaultMaxStoredTransactionIdCount : Nat := 20

/-- `TransactionIdStore`, with `maxTransactionIdsCount` slots. -/
structure TransactionIdStore where
  transactionIds : List (List UInt8)
  nextTransactionIdIndex : Nat
  earliestTransactionIdIndex : Nat
  transactionIdCount : Nat
  next_lt : nextTransactionIdIndex < transactionIds.length
  earliest_lt : earliestTransactionIdIndex < transactionIds.length

def maxStoredTransactionIdCount : Nat := 100

/-- `createTransactionIdStore`. -/
def createTransactionIdStoreOf (maxIdCount : Nat) : Except Status TransactionIdStore :=
  if h : maxIdCount < maxStoredTransactionIdCount ∧ 0 < maxIdCount then
    .ok
      { transactionIds := List.replicate maxIdCount zeroTransactionId
        nextTransactionIdIndex := 0
        earliestTransactionIdIndex := 0
        transactionIdCount := 0
        next_lt := by rw [List.length_replicate]; exact h.2
        earliest_lt := by rw [List.length_replicate]; exact h.2 }
  else .error .invalidArg

/-- `createTransactionIdStore`, with the default number of slots. -/
def createTransactionIdStore : TransactionIdStore where
  transactionIds := List.replicate defaultMaxStoredTransactionIdCount zeroTransactionId
  nextTransactionIdIndex := 0
  earliestTransactionIdIndex := 0
  transactionIdCount := 0
  next_lt := by decide
  earliest_lt := by decide

namespace TransactionIdStore

variable (store : TransactionIdStore)

def maxTransactionIdsCount : Nat := store.transactionIds.length

theorem maxTransactionIdsCount_pos : 0 < store.maxTransactionIdsCount :=
  Nat.zero_lt_of_lt store.next_lt

/-- The slots once an id has been put into the next one. -/
def slots (transactionId : List UInt8) : List (List UInt8) :=
  store.transactionIds.set (store.nextTransactionIdIndex % store.maxTransactionIdsCount)
  transactionId

theorem mod_lt_slots (n : Nat) (transactionId : List UInt8) :
    n % store.maxTransactionIdsCount < (store.slots transactionId).length := by
  unfold slots
  rw [List.length_set]
  exact Nat.mod_lt n store.maxTransactionIdsCount_pos

theorem earliest_lt_slots (transactionId : List UInt8) :
    store.earliestTransactionIdIndex < (store.slots transactionId).length := by
  unfold slots
  rw [List.length_set]
  exact store.earliest_lt

/-- `transactionIdStoreInsert`. -/
def insert (transactionId : List UInt8) : TransactionIdStore :=
  if (store.nextTransactionIdIndex + 1) % store.maxTransactionIdsCount =
      store.earliestTransactionIdIndex then
    { transactionIds := store.slots transactionId
      nextTransactionIdIndex := (store.nextTransactionIdIndex + 1) % store.maxTransactionIdsCount
      earliestTransactionIdIndex := (store.earliestTransactionIdIndex + 1) %
      store.maxTransactionIdsCount
      transactionIdCount := store.transactionIdCount
      next_lt := store.mod_lt_slots _ transactionId
      earliest_lt := store.mod_lt_slots _ transactionId }
  else
    { transactionIds := store.slots transactionId
      nextTransactionIdIndex := (store.nextTransactionIdIndex + 1) % store.maxTransactionIdsCount
      earliestTransactionIdIndex := store.earliestTransactionIdIndex
      transactionIdCount := min (store.transactionIdCount + 1) store.maxTransactionIdsCount
      next_lt := store.mod_lt_slots _ transactionId
      earliest_lt := store.earliest_lt_slots transactionId }

/-- `transactionIdStoreHasId`: the search starts at the earliest id and goes through all the
slots. -/
def hasId (transactionId : List UInt8) : Bool :=
  (List.range store.maxTransactionIdsCount).any fun j =>
    store.transactionIds[(store.earliestTransactionIdIndex + j) % store.maxTransactionIdsCount]? ==
      some transactionId

/-- The slot in which the search of `transactionIdStoreRemove` ends. -/
def findSlot (transactionId : List UInt8) : Option Nat :=
  ((List.range store.maxTransactionIdsCount).find? fun j =>
    store.transactionIds[(store.earliestTransactionIdIndex + j) % store.maxTransactionIdsCount]? ==
      some transactionId).map fun j =>
    (store.earliestTransactionIdIndex + j) % store.maxTransactionIdsCount

/-- `transactionIdStoreRemove`: the first slot with the id, from the earliest one on, is filled with
zeroes. -/
def remove (transactionId : List UInt8) : TransactionIdStore :=
  match store.findSlot transactionId with
  | none => store
  | some i =>
    { store with
      transactionIds := store.transactionIds.set i zeroTransactionId
      next_lt := by rw [List.length_set]; exact store.next_lt
      earliest_lt := by rw [List.length_set]; exact store.earliest_lt }

/-- `transactionIdStoreClear`. -/
def clear : TransactionIdStore where
  transactionIds := store.transactionIds
  nextTransactionIdIndex := 0
  earliestTransactionIdIndex := 0
  transactionIdCount := 0
  next_lt := store.maxTransactionIdsCount_pos
  earliest_lt := store.maxTransactionIdsCount_pos

/-! ### What the store has -/

theorem hasId_iff (transactionId : List UInt8) :
    store.hasId transactionId ↔ transactionId ∈ store.transactionIds := by
  unfold hasId
  rw [List.any_eq_true]
  constructor
  · rintro ⟨j, -, hj⟩
    exact List.mem_of_getElem? (beq_iff_eq.mp hj)
  · intro hmem
    obtain ⟨i, hi⟩ := List.getElem?_of_mem hmem
    have hlt : i < store.maxTransactionIdsCount := (List.getElem?_eq_some_iff.mp hi).1
    have hearliest : store.earliestTransactionIdIndex < store.maxTransactionIdsCount :=
      store.earliest_lt
    -- the slot comes `i` after the earliest one, around the end of the ring
    refine ⟨(i + (store.maxTransactionIdsCount - store.earliestTransactionIdIndex)) %
      store.maxTransactionIdsCount, List.mem_range.mpr (Nat.mod_lt _ (by omega)), ?_⟩
    rw [Nat.add_mod_mod]
    have hsum : store.earliestTransactionIdIndex +
        (i + (store.maxTransactionIdsCount - store.earliestTransactionIdIndex)) =
        i + store.maxTransactionIdsCount := by omega
    rw [hsum, Nat.add_mod_right, Nat.mod_eq_of_lt hlt, hi]
    exact beq_self_eq_true _

theorem hasId_create (transactionId : List UInt8) :
    createTransactionIdStore.hasId transactionId ↔ transactionId = zeroTransactionId := by
  rw [hasId_iff]
  show transactionId ∈ List.replicate _ _ ↔ _
  simp [defaultMaxStoredTransactionIdCount]

theorem transactionIds_insert (transactionId : List UInt8) :
    (store.insert transactionId).transactionIds =
      store.transactionIds.set store.nextTransactionIdIndex transactionId := by
  have hmod : store.nextTransactionIdIndex % store.maxTransactionIdsCount =
      store.nextTransactionIdIndex :=
    Nat.mod_eq_of_lt store.next_lt
  rw [← hmod]
  unfold insert
  split_ifs <;> rfl

theorem nextTransactionIdIndex_insert (transactionId : List UInt8) :
    (store.insert transactionId).nextTransactionIdIndex =
      (store.nextTransactionIdIndex + 1) % store.maxTransactionIdsCount := by
  unfold insert
  split_ifs <;> rfl

theorem length_remove (transactionId : List UInt8) :
    (store.remove transactionId).transactionIds.length = store.transactionIds.length := by
  unfold remove
  split
  · rfl
  · exact List.length_set

theorem nextTransactionIdIndex_remove (transactionId : List UInt8) :
    (store.remove transactionId).nextTransactionIdIndex = store.nextTransactionIdIndex := by
  unfold remove
  split <;> rfl

theorem hasId_insert {transactionId other : List UInt8}
    (h : (store.insert transactionId).hasId other) :
    other = transactionId ∨ store.hasId other := by
  rw [hasId_iff, transactionIds_insert] at h
  rw [hasId_iff]
  exact (List.mem_or_eq_of_mem_set h).symm

theorem hasId_clear (transactionId : List UInt8) :
    store.clear.hasId transactionId ↔ store.hasId transactionId := by
  rw [hasId_iff, hasId_iff]
  rfl

end TransactionIdStore

end KvsWebrtc.Turn
