import KvsWebrtc.PeerConnection.Equiv.Rtcp

/-!
# How far the loop over a compound packet gets

The sub-packets at the start of a buffer, as the parser alone sees them (`Compound`), are the ones
that `onRtcpPacket` hands to its handlers, until a handler fails.  Their lengths and what is left
add up to the length of the buffer, so the offset of the loop is never behind its end.

A handler may read behind its payload: what it finds there is the rest of the buffer and then the
bytes `behind` it, which are any.  Only where these come to an end too does the model stop.
-/

namespace KvsWebrtc.Rtcp

/-- A buffer that starts with some well-formed sub-packets, and what is left behind them. -/
inductive Compound : List UInt8 → List RtcpPacket → List UInt8 → Prop
  | nil (rest : List UInt8) : Compound rest [] rest
  | cons {buff : List UInt8} {p : RtcpPacket} {ps : List RtcpPacket} {rest : List UInt8}
      (hparse : setRtcpPacketFromBytes buff = .ok p)
      (hlen : p.payload.length + rtcpPacketHeaderLen ≤ buff.length)
      (h : Compound (buff.drop (p.payload.length + rtcpPacketHeaderLen)) ps rest) :
      Compound buff (p :: ps) rest

def headerLengths (ps : List RtcpPacket) : Nat :=
  (ps.map fun p => (p.header.packetLength + 1) * rtcpPacketLenWordSize).sum

def Handled.result (h : Handled) (construct : ConstructRtx) : Except Failure Outcome :=
  handleIn h.connection h.packet h.memory construct

def AllSucceed (construct : ConstructRtx) (packets : List Handled) : Prop :=
  ∀ h ∈ packets, ∃ o, h.result construct = .ok o ∧ o.status = .success

/-- A packet whose handler can read behind the memory: feedback whose chunks do not come to an end
in it, or a FIR, PLI or SLI without the word that is read. -/
def Handled.ReadsOn (h : Handled) : Prop :=
  handlerOf h.packet = .ok .twcc ∨ h.memory.length < 8

/-- Why the loop stops with what it returns: at the end of the buffer, at a sub-packet that is
malformed, at one whose handler fails, or at one whose handler reads behind all that can be read. -/
inductive Stops (construct : ConstructRtx) (packets : List Handled) (rest : List UInt8) :
    Except Failure Outcome → Prop
  | done {o : Outcome} (hrest : rest = []) (hstatus : o.status = .success)
      (hpackets : AllSucceed construct packets) :
      Stops construct packets rest (.ok o)
  | malformed {o : Outcome} (hrest : rest ≠ []) (hparse : setRtcpPacketFromBytes rest =
    .error o.status)
      (hpackets : AllSucceed construct packets) :
      Stops construct packets rest (.ok o)
  | failed {o o' : Outcome} {h : Handled} (hlast : packets.getLast? = some h)
      (hhandle : h.result construct = .ok o') (hfailed : o'.status ≠ .success)
      (hstatus : o.status = o'.status) : Stops construct packets rest (.ok o)
  | outside {e : Failure} {h : Handled} (hlast : packets.getLast? = some h)
      (hhandle : h.result construct = .error e) (hreads : h.ReadsOn) :
      Stops construct packets rest (.error e)

/-- The loop ends, with the sub-packets that it has handled one behind the other from the start of
the buffer on: all of them if it succeeds, and the ones before a malformed one if it gets there. -/
structure CompoundLoop (construct : ConstructRtx) (c : KvsPeerConnection)
    (behind buff : List UInt8) : Prop where
  ends : ∀ fuel, buff.length ≤ fuel →
    packetLoop construct (readOn behind) fuel c buff = onRtcpPacketIn c construct behind buff
  offsets : ∃ rest, Compound buff ((handledIn c construct behind buff).map (·.packet)) rest ∧
    headerLengths ((handledIn c construct behind buff).map (·.packet)) + rest.length = buff.length ∧
    Stops construct (handledIn c construct behind buff) rest
      (onRtcpPacketIn c construct behind buff)
  success : ∀ o, onRtcpPacketIn c construct behind buff = .ok o → o.status = .success →
    Compound buff ((handledIn c construct behind buff).map (·.packet)) [] ∧
      headerLengths ((handledIn c construct behind buff).map (·.packet)) = buff.length
  malformed : ∀ ps rest status, Compound buff ps rest → rest ≠ [] →
    setRtcpPacketFromBytes rest = .error status →
    AllSucceed construct (handledIn c construct behind buff) →
      (handledIn c construct behind buff).map (·.packet) = ps ∧
        ∃ o, onRtcpPacketIn c construct behind buff = .ok o ∧ o.status = status

variable {construct : ConstructRtx}

theorem length_of_setRtcpPacketFromBytes {rawPacket : List UInt8} {p : RtcpPacket}
    (h : setRtcpPacketFromBytes rawPacket = .ok p) :
    p.payload.length + rtcpPacketHeaderLen = (p.header.packetLength + 1) * rtcpPacketLenWordSize ∧
      p.payload.length + rtcpPacketHeaderLen ≤ rawPacket.length := by
  have heq : p.payload.length + rtcpPacketHeaderLen =
      (p.header.packetLength + 1) * rtcpPacketLenWordSize := by
    rw [p.payload_length, Nat.succ_mul]
    rfl
  refine ⟨heq, ?_⟩
  rw [heq]
  simp only [setRtcpPacketFromBytes] at h
  split_ifs at h with hmin hlen hversion
  obtain rfl := Except.ok.inj h
  exact hlen

theorem Compound.length_eq {buff : List UInt8} {ps : List RtcpPacket} {rest : List UInt8}
    (h : Compound buff ps rest) : headerLengths ps + rest.length = buff.length := by
  induction h with
  | nil rest => exact Nat.zero_add _
  | cons hparse hlen _ ih =>
    rw [headerLengths, List.map_cons, List.sum_cons, ← (length_of_setRtcpPacketFromBytes hparse).1]
    rw [headerLengths, List.length_drop] at ih
    omega

/-- What is handled before the loop goes on does not change why it stops. -/
theorem Stops.cons {packets : List Handled} {rest : List UInt8} {o : Outcome}
    (h : Stops construct packets rest (.ok o)) {first : Handled} {outcome : Outcome}
    (hfirst : first.result construct = .ok outcome)
    (hsucceeded : outcome.status = .success) (events : List RtcpEvent) :
    Stops construct (first :: packets) rest (.ok { o with events := events }) := by
  have hall : AllSucceed construct packets → AllSucceed construct (first :: packets) :=
    fun hpackets => List.forall_mem_cons.mpr ⟨⟨outcome, hfirst, hsucceeded⟩, hpackets⟩
  have hgetLast : ∀ {h}, packets.getLast? = some h → (first :: packets).getLast? = some h := by
    intro h hlast
    rw [List.getLast?_cons, hlast]
    rfl
  cases h with
  | done hrest hstatus hpackets => exact .done hrest hstatus (hall hpackets)
  | malformed hrest hparse hpackets => exact .malformed hrest hparse (hall hpackets)
  | failed hlast hhandle hfailed hstatus => exact .failed (hgetLast hlast) hhandle hfailed hstatus

/-- Only feedback and a word that is not there are read behind the memory. -/
theorem readsOn_of_error {c : KvsPeerConnection} {p : RtcpPacket} {memory : List UInt8}
    {e : Failure} (h : handleIn c p memory construct = .error e) :
    Handled.ReadsOn ⟨c, p, memory⟩ := by
  have hfails : ¬ ∃ o, handleIn c p memory construct = .ok o := by
    rintro ⟨o, ho⟩
    rw [h] at ho
    cases ho
  obtain ⟨handler, hhandler⟩ := handlerOf_ok p
  have hrun : handleIn c p memory construct = handler.run c p memory construct := by
    rw [handleIn, hhandler]
    rfl
  rw [hrun] at hfails
  cases handler with
  | twcc => exact .inl hhandler
  | fir => exact .inr (Nat.lt_of_not_le fun hle => hfails ((onMediaSsrc_ok_iff _ _).mpr hle))
  | pli => exact .inr (Nat.lt_of_not_le fun hle => hfails ((onMediaSsrc_ok_iff _ _).mpr hle))
  | sli => exact .inr (Nat.lt_of_not_le fun hle => hfails ((onMediaSsrc_ok_iff _ _).mpr hle))
  | nack => exact absurd onNack_ok hfails
  | remb => exact absurd onRtcpRembPacket_ok hfails
  | senderReport => exact absurd onRtcpSenderReport_ok hfails
  | receiverReport => exact absurd onRtcpReceiverReport_ok hfails
  | unhandled => exact absurd ⟨_, rfl⟩ hfails

/-- The rounds follow the parser, whatever can be read behind a packet. -/
theorem packetLoop_stops (view : View) (fuel : Nat) (c : KvsPeerConnection) (buff : List UInt8)
    (hfuel : buff.length ≤ fuel) :
    ∃ rest, Compound buff ((handledLoop construct view fuel c buff).map (·.packet)) rest ∧
      Stops construct (handledLoop construct view fuel c buff) rest
        (packetLoop construct view fuel c buff) := by
  induction fuel generalizing c buff with
  | zero =>
    obtain rfl := List.length_eq_zero_iff.mp (Nat.le_zero.mp hfuel)
    exact ⟨[], .nil [], .done rfl rfl fun _ hh => absurd hh List.not_mem_nil⟩
  | succ fuel ih =>
    match buff with
    | [] => exact ⟨[], .nil [], .done rfl rfl fun _ hh => absurd hh List.not_mem_nil⟩
    | b :: buff =>
      rw [packetLoop, handledLoop]
      cases hp : setRtcpPacketFromBytes (b :: buff) with
      | error status =>
        -- nothing has been handled yet, and all bytes are left
        exact ⟨b :: buff, .nil _, .malformed (List.cons_ne_nil b buff) hp fun _ hh =>
          absurd hh List.not_mem_nil⟩
      | ok p =>
        dsimp only
        have hlen := (length_of_setRtcpPacketFromBytes hp).2
        cases houtcome : handleIn c p (view (b :: buff) p) construct with
        | error e =>
          exact ⟨_, .cons hp hlen (.nil _), .outside rfl houtcome (readsOn_of_error houtcome)⟩
        | ok outcome =>
          show ∃ rest, _ ∧ Stops construct _ rest (if outcome.status.failed then _ else _)
          dsimp only
          -- the loop goes on behind the sub-packet only if its handler has succeeded
          split_ifs with hfailed
          · exact ⟨_, .cons hp hlen (.nil _), .failed rfl houtcome
              ((Status.failed_eq_true_iff _).mp hfailed) rfl⟩
          · have hsucceeded : outcome.status = .success := by
              simpa [Status.failed] using hfailed
            obtain ⟨rest, hrest, hstops⟩ := ih outcome.connection
              ((b :: buff).drop (p.payload.length + rtcpPacketHeaderLen))
              ((length_drop_le b buff p).trans (Nat.le_of_succ_le_succ hfuel))
            refine ⟨rest, .cons hp hlen hrest, ?_⟩
            -- the events of this handler come before those of the rest of the loop
            revert hstops
            cases packetLoop construct view fuel outcome.connection
                ((b :: buff).drop (p.payload.length + rtcpPacketHeaderLen)) with
            | error e =>
              intro hstops
              cases hstops with
              | outside hlast hhandle hreads =>
                exact .outside (by rw [List.getLast?_cons, hlast]; rfl) hhandle hreads
            | ok o =>
              have hfirst : Handled.result ⟨c, p, view (b :: buff) p⟩ construct = .ok outcome :=
                houtcome
              exact fun hstops => hstops.cons hfirst hsucceeded _

theorem status_of_setRtcpPacketFromBytes {rawPacket : List UInt8} {status : Status}
    (h : setRtcpPacketFromBytes rawPacket = .error status) : status ≠ .success := by
  simp only [setRtcpPacketFromBytes] at h
  split_ifs at h <;> exact Except.error.inj h ▸ (by decide)

theorem Compound.unique {buff : List UInt8} {ps ps' : List RtcpPacket} {rest rest' : List UInt8}
    {status status' : Status} (h : Compound buff ps rest) (h' : Compound buff ps' rest')
    (hrest : setRtcpPacketFromBytes rest = .error status)
    (hrest' : setRtcpPacketFromBytes rest' = .error status') : ps = ps' ∧ rest = rest' := by
  induction h generalizing ps' with
  | nil rest =>
    cases h' with
    | nil => exact ⟨rfl, rfl⟩
    | cons hparse => rw [hparse] at hrest; cases hrest
  | cons hparse _ _ ih =>
    cases h' with
    | nil => rw [hparse] at hrest'; cases hrest'
    | cons hparse' _ h' =>
      obtain rfl := Except.ok.inj (hparse.symm.trans hparse')
      obtain ⟨rfl, rfl⟩ := ih h' hrest
      exact ⟨rfl, rfl⟩

theorem Stops.rest_eq_nil {packets : List Handled} {rest : List UInt8} {o : Outcome}
    (h : Stops construct packets rest (.ok o)) (hstatus : o.status = .success) :
    rest = [] := by
  cases h with
  | done hrest => exact hrest
  | malformed _ hparse => exact absurd hstatus (status_of_setRtcpPacketFromBytes hparse)
  | failed _ _ hfailed heq => exact absurd (heq.symm.trans hstatus) hfailed

/-- Without a failing handler the loop stops where the parser does. -/
theorem Stops.of_allSucceed {packets : List Handled} {rest : List UInt8}
    {r : Except Failure Outcome} (h : Stops construct packets rest r)
    (hpackets : AllSucceed construct packets) :
    ∃ o, r = .ok o ∧ (rest = [] ∨ setRtcpPacketFromBytes rest = .error o.status) := by
  have hsucceeded : ∀ {h}, packets.getLast? = some h →
      ∃ o, h.result construct = .ok o ∧ o.status = .success :=
    fun hlast => hpackets _ (List.mem_of_getLast? hlast)
  cases h with
  | done hrest => exact ⟨_, rfl, .inl hrest⟩
  | malformed _ hparse => exact ⟨_, rfl, .inr hparse⟩
  | failed hlast hhandle hfailed =>
    obtain ⟨o, ho, hstatus⟩ := hsucceeded hlast
    rw [hhandle] at ho
    exact absurd (Except.ok.inj ho ▸ hstatus) hfailed
  | outside hlast hhandle =>
    obtain ⟨o, ho, -⟩ := hsucceeded hlast
    rw [hhandle] at ho
    cases ho

/-- **The loop over a compound packet** ends, with the sub-packets that it has handled one behind
the other from the start of the buffer on: all of them if it succeeds, and the ones before the first
malformed one if it stops there. -/
theorem compound_loop (construct : ConstructRtx) (c : KvsPeerConnection)
    (behind buff : List UInt8) :
    CompoundLoop construct c behind buff := by
  obtain ⟨rest, hrest, hstops⟩ :=
    @packetLoop_stops construct (readOn behind) buff.length c buff (Nat.le_refl _)
  refine ⟨fun fuel hfuel => packetLoop_congr hfuel (Nat.le_refl _),
    ⟨rest, hrest, hrest.length_eq, hstops⟩, ?_, ?_⟩
  · intro o ho hstatus
    rw [onRtcpPacketIn] at ho
    rw [ho] at hstops
    obtain rfl := hstops.rest_eq_nil hstatus
    exact ⟨hrest, hrest.length_eq⟩
  · intro ps rest' status hps hne hparse hpackets
    obtain ⟨o, ho, hend⟩ := hstops.of_allSucceed hpackets
    -- what the loop has left is not parsed either, so it is what the parser has left
    have hterminal : ∃ s, setRtcpPacketFromBytes rest = .error s := by
      rcases hend with rfl | hend
      · exact ⟨_, rfl⟩
      · exact ⟨_, hend⟩
    obtain ⟨s, hs⟩ := hterminal
    obtain ⟨heq, rfl⟩ := hrest.unique hps hs hparse
    refine ⟨heq, o, ho, ?_⟩
    rcases hend with hnil | hend
    · exact absurd hnil hne
    · exact Except.error.inj (hend.symm.trans hparse)

/-- A FIR without a payload reads the packet behind it, and the loop goes on to the malformed
one. -/
example :
    (onRtcpPacketIn estimatingConnection (fun _ => .success) []
      [0x80, 192, 0, 0, 0x80, 201, 0, 1, 0, 0, 0, 7, 0x40, 0, 0, 0]).toOption.map (·.status) =
      some .rtcpInputPacketInvalidVersion := by
  decide +kernel

end KvsWebrtc.Rtcp
