import KvsWebrtc.Common.Run
import KvsWebrtc.Signaling.MessageQueue
import Mathlib.Data.List.Basic
import Mathlib.Tactic.SplitIfs

/-!
# Which messages are taken for duplicates

A message is a duplicate if one with its correlation id, and with its peer if it has one, is in the
queue (`Ongoing`).  `signalingGetOngoingMessage` gives its cursor back when the search has run off
the end of the queue, so that it finds a message in every queue that is not empty.  A run of calls
goes right exactly when each lookup and each store meets an empty queue or one with such a message
(`right_iff_decided`).  As nothing is stored in a queue that is not empty, there is never more than
one message in it (`length_le_one_along`).
-/

namespace KvsWebrtc.Signaling

/-- The message has the correlation id, and the peer unless that is empty. -/
def Ongoing (correlationId peerClientId : List UInt8) (message : SignalingMessage) : Prop :=
  message.correlationId = correlationId ∧ (peerClientId = [] ∨ message.peerClientId = peerClientId)

instance (correlationId peerClientId : List UInt8) (message : SignalingMessage) :
    Decidable (Ongoing correlationId peerClientId message) :=
  inferInstanceAs (Decidable (_ ∧ _))

/-- A call on the queue. -/
inductive QueueCall
  | store (message : SignalingMessage)
  | get (correlationId : List UInt8) (peerClientId : Option (List UInt8))
  | remove (correlationId : List UInt8)

def QueueCall.run (queue : List SignalingMessage) : QueueCall → List SignalingMessage
  | .store message => (signalingStoreOngoingMessage queue message).2
  | .get _ _ => queue
  | .remove correlationId => (signalingRemoveOngoingMessage queue (some correlationId)).2

/-- What a call is to do: a store is refused exactly if the message is a duplicate, a lookup finds
such a message exactly if there is one, and a removal takes one message out and no other. -/
def QueueCall.Right (queue : List SignalingMessage) : QueueCall → Prop
  | .store message =>
    if ∃ m ∈ queue, Ongoing message.correlationId message.peerClientId m then
      signalingStoreOngoingMessage queue message = (.signalingDuplicateMessageBeingSent, queue)
    else signalingStoreOngoingMessage queue message = (.success, queue ++ [message])
  | .get correlationId peerClientId =>
    if ∃ m ∈ queue, Ongoing correlationId (peerClientId.getD []) m then
      ∃ m ∈ queue, Ongoing correlationId (peerClientId.getD []) m ∧
        signalingGetOngoingMessage queue (some correlationId) peerClientId = (.success, some m)
    else signalingGetOngoingMessage queue (some correlationId) peerClientId = (.success, none)
  | .remove correlationId =>
    if ∃ m ∈ queue, m.correlationId = correlationId then
      ∃ before m after, queue = before ++ m :: after ∧ m.correlationId = correlationId ∧
        signalingRemoveOngoingMessage queue (some correlationId) = (.success, before ++ after)
    else signalingRemoveOngoingMessage queue (some correlationId) = (.notFound, queue)

/-- The search does not run off the end of a queue that has messages. -/
def QueueCall.Decided (queue : List SignalingMessage) : QueueCall → Prop
  | .store message => queue = [] ∨ ∃ m ∈ queue, Ongoing message.correlationId message.peerClientId m
  | .get correlationId peerClientId =>
    queue = [] ∨ ∃ m ∈ queue, Ongoing correlationId (peerClientId.getD []) m
  | .remove _ => True

variable {queue : List SignalingMessage} {correlationId : List UInt8}
  {peerClientId : Option (List UInt8)} {message m : SignalingMessage}

@[simp] theorem hasCorrelationId_iff :
    m.hasCorrelationId correlationId ↔ m.correlationId = correlationId := by
  simp only [SignalingMessage.hasCorrelationId, decide_eq_true_eq, or_iff_right_iff_imp]
  rintro ⟨rfl, hm⟩
  exact hm

@[simp] theorem isOngoing_iff :
    m.isOngoing correlationId peerClientId ↔ Ongoing correlationId (peerClientId.getD []) m := by
  cases peerClientId <;> simp [SignalingMessage.isOngoing, checkPeerClientId, Ongoing]

/-! ### The lookup -/

/-- A search that meets a match stops there. -/
theorem getOngoingMessageLoop_of_exists
    (h : ∃ m ∈ queue, Ongoing correlationId (peerClientId.getD []) m)
    (pExistingMessage : Option SignalingMessage) :
    ∃ m ∈ queue, Ongoing correlationId (peerClientId.getD []) m ∧
      getOngoingMessageLoop correlationId peerClientId queue pExistingMessage = some m := by
  induction queue generalizing pExistingMessage with
  | nil => simp at h
  | cons m queue ih =>
    by_cases hm : Ongoing correlationId (peerClientId.getD []) m
    · exact ⟨m, List.mem_cons_self, hm, by simp [getOngoingMessageLoop, hm]⟩
    · obtain ⟨m', hmem, hm'⟩ := h
      have hrest : m' ∈ queue := (List.mem_cons.mp hmem).resolve_left fun heq => hm (heq ▸ hm')
      obtain ⟨found, hfound, hongoing, hloop⟩ := ih ⟨m', hrest, hm'⟩ (some m)
      refine ⟨found, List.mem_cons_of_mem m hfound, hongoing, ?_⟩
      simpa [getOngoingMessageLoop, hm] using hloop

/-- A search without a match ends with the last message. -/
theorem getOngoingMessageLoop_of_not_exists
    (h : ¬ ∃ m ∈ queue, Ongoing correlationId (peerClientId.getD []) m)
    (pExistingMessage : Option SignalingMessage) :
    getOngoingMessageLoop correlationId peerClientId queue pExistingMessage
      = queue.getLast?.or pExistingMessage := by
  induction queue generalizing pExistingMessage with
  | nil => simp [getOngoingMessageLoop]
  | cons m queue ih =>
    have hm : ¬ Ongoing correlationId (peerClientId.getD []) m := fun hm =>
      h ⟨m, List.mem_cons_self, hm⟩
    have hrest := ih (fun ⟨m', hmem, hm'⟩ => h ⟨m', List.mem_cons_of_mem m hmem, hm'⟩) (some m)
    simp only [getOngoingMessageLoop, isOngoing_iff, hm, if_false]
    rw [hrest, List.getLast?_cons]
    cases queue.getLast? <;> simp

/-- **The lookup finds a message in every queue that has one.** -/
theorem signalingGetOngoingMessage_isSome_iff :
    (signalingGetOngoingMessage queue (some correlationId) peerClientId).2.isSome
      ↔ queue ≠ [] := by
  by_cases h : ∃ m ∈ queue, Ongoing correlationId (peerClientId.getD []) m
  · obtain ⟨m, hmem, -, hloop⟩ := getOngoingMessageLoop_of_exists h none
    simp only [signalingGetOngoingMessage, hloop, Option.isSome_some, true_iff]
    exact List.ne_nil_of_mem hmem
  · simp only [signalingGetOngoingMessage, getOngoingMessageLoop_of_not_exists h]
    cases queue <;> simp

theorem signalingStoreOngoingMessage_eq :
    signalingStoreOngoingMessage queue message
      = if queue = [] then (.success, [message]) else (.signalingDuplicateMessageBeingSent,
        queue) := by
  have hsome : (signalingGetOngoingMessage queue (some message.correlationId)
      (some message.peerClientId)).2.isSome ↔ queue ≠ [] := signalingGetOngoingMessage_isSome_iff
  unfold signalingStoreOngoingMessage
  by_cases hq : queue = []
  · subst hq
    rfl
  · simp only [signalingGetOngoingMessage] at hsome ⊢
    simp [hsome.mpr hq, hq]

/-! ### The removal -/

/-- A removal takes the first message with the correlation id out. -/
theorem signalingRemoveOngoingMessage_of_exists (h : ∃ m ∈ queue, m.correlationId = correlationId) :
    ∃ before m after, queue = before ++ m :: after ∧ m.correlationId = correlationId ∧
      signalingRemoveOngoingMessage queue (some correlationId) = (.success, before ++ after) := by
  suffices hfind : ∃ before m after, queue = before ++ m :: after ∧
      m.correlationId = correlationId ∧
      m ∉ before ∧ findByCorrelationId correlationId queue = some m by
    obtain ⟨before, m, after, hq, hm, hbefore, hfound⟩ := hfind
    refine ⟨before, m, after, hq, hm, ?_⟩
    simp only [signalingRemoveOngoingMessage, hfound]
    rw [hq, List.erase_append_right _ hbefore, List.erase_cons_head]
  induction queue with
  | nil => simp at h
  | cons m queue ih =>
    by_cases hm : m.correlationId = correlationId
    · exact ⟨[], m, queue, rfl, hm, by simp, by simp [findByCorrelationId, hm]⟩
    · obtain ⟨m', hmem, hm'⟩ := h
      have hrest : m' ∈ queue := (List.mem_cons.mp hmem).resolve_left fun heq => hm (heq ▸ hm')
      obtain ⟨before, found, after, hq, hfound, hbefore, hloop⟩ := ih ⟨m', hrest, hm'⟩
      refine ⟨m :: before, found, after, by rw [hq, List.cons_append], hfound, ?_, ?_⟩
      · -- a message without the correlation id is not the one that was found
        rw [List.mem_cons, not_or]
        exact ⟨fun heq => hm (heq ▸ hfound), hbefore⟩
      · simpa [findByCorrelationId, hm] using hloop

theorem signalingRemoveOngoingMessage_of_not_exists
    (h : ¬ ∃ m ∈ queue, m.correlationId = correlationId) :
    signalingRemoveOngoingMessage queue (some correlationId) = (.notFound, queue) := by
  have hnone : findByCorrelationId correlationId queue = none := by
    induction queue with
    | nil => rfl
    | cons m queue ih =>
      have hm : m.correlationId ≠ correlationId := fun hm => h ⟨m, List.mem_cons_self, hm⟩
      simpa [findByCorrelationId, hm]
        using ih fun ⟨m', hmem, hm'⟩ => h ⟨m', List.mem_cons_of_mem m hmem, hm'⟩
  simp [signalingRemoveOngoingMessage, hnone]

/-! ### Runs -/

/-- **One call** goes right exactly when its search does not run off the end of a queue with
messages. -/
theorem QueueCall.right_iff (queue : List SignalingMessage) (call : QueueCall) :
    call.Right queue ↔ call.Decided queue := by
  cases call with
  | store message =>
    by_cases hex : ∃ m ∈ queue, Ongoing message.correlationId message.peerClientId m
    · have hne : queue ≠ [] := fun hq => by simp [hq] at hex
      simp only [Right, Decided, hex, if_true, or_true, iff_true]
      rw [signalingStoreOngoingMessage_eq, if_neg hne]
    · simp only [Right, Decided, hex, if_false, or_false]
      rw [signalingStoreOngoingMessage_eq]
      split_ifs with hq
      · simp [hq]
      · simp [hq]
  | get correlationId peerClientId =>
    by_cases hex : ∃ m ∈ queue, Ongoing correlationId (peerClientId.getD []) m
    · simp only [Right, Decided, hex, if_true, or_true, iff_true]
      obtain ⟨m, hmem, hm, hloop⟩ := getOngoingMessageLoop_of_exists hex none
      exact ⟨m, hmem, hm, by simp [signalingGetOngoingMessage, hloop]⟩
    · simp only [Right, Decided, hex, if_false, or_false]
      rw [signalingGetOngoingMessage, getOngoingMessageLoop_of_not_exists hex]
      cases queue <;> simp
  | remove correlationId =>
    simp only [Right, Decided, iff_true]
    split_ifs with hex
    · exact signalingRemoveOngoingMessage_of_exists hex
    · exact signalingRemoveOngoingMessage_of_not_exists hex

/-- **The calls of a run all go right exactly when no search runs off the end of a queue with
messages.** -/
theorem right_iff_decided (calls : List QueueCall) :
    AllSteps QueueCall.run QueueCall.Right [] calls ↔ AllSteps QueueCall.run QueueCall.Decided
    [] calls :=
  allSteps_congr (I := fun _ => True) (fun queue call _ => call.right_iff queue)
    (fun _ _ _ _ => trivial) trivial calls

/-- There is never more than one message in the queue. -/
theorem length_le_one_along (calls : List QueueCall) :
    Along QueueCall.run (fun queue => queue.length ≤ 1) [] calls := by
  refine along_of_step ?_ (by simp) calls
  intro queue call hlen
  cases call with
  | store message =>
    simp only [QueueCall.run, signalingStoreOngoingMessage_eq]
    split_ifs
    · exact Nat.le_refl 1
    · exact hlen
  | get correlationId peerClientId => exact hlen
  | remove correlationId =>
    by_cases hex : ∃ m ∈ queue, m.correlationId = correlationId
    · obtain ⟨before, m, after, hq, -, hremove⟩ := signalingRemoveOngoingMessage_of_exists hex
      rw [hq] at hlen
      simp only [QueueCall.run, hremove]
      simp only [List.length_append, List.length_cons] at hlen ⊢
      omega
    · simp only [QueueCall.run, signalingRemoveOngoingMessage_of_not_exists hex]
      exact hlen

/-- An offer with the correlation id `a`, and one with `b`, to the peers `p` and `q`. -/
def offerToP : SignalingMessage where
  version := 0
  messageType := .offer
  correlationId := [97]
  peerClientId := [112]
  payload := []

def offerToQ : SignalingMessage where
  version := 0
  messageType := .offer
  correlationId := [98]
  peerClientId := [113]
  payload := []

/-- Two offers with different correlation ids to different peers: the second one is refused. -/
theorem second_offer_refused :
    ¬ AllSteps QueueCall.run QueueCall.Right [] [.store offerToP, .store offerToQ] := by
  rw [AllSteps, AllSteps]
  rintro ⟨-, hsecond, -⟩
  revert hsecond
  have hqueue : QueueCall.run [] (.store offerToP) = [offerToP] := by decide
  have hnot : ¬ ∃ m ∈ [offerToP], Ongoing offerToQ.correlationId offerToQ.peerClientId m := by
    decide
  have hstore : signalingStoreOngoingMessage [offerToP] offerToQ
      = (.signalingDuplicateMessageBeingSent, [offerToP]) := by decide
  rw [hqueue]
  simp only [QueueCall.Right, hnot, if_false, hstore]
  decide

end KvsWebrtc.Signaling
