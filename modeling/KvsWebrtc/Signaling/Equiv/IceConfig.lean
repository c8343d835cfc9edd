import KvsWebrtc.Signaling.IceConfig

/-!
# Offers prolong the ICE configuration

Sending an offer validates the configuration once more, which stamps it with the time of the offer:
the servers are offered with the full time to live, and the configuration expires later than it
should.  Both are right exactly along the runs in which every offer that packages servers is sent at
the very time of the fetch (`expiration_along`).
-/

namespace KvsWebrtc.Signaling

theorem IceConfigInfo.error_ne_success (info : IceConfigInfo) : info.error ≠ some .success := by
  unfold error
  split_ifs <;> simp

theorem iceConfigError_ne_success (iceConfigs : List IceConfigInfo) :
    iceConfigError iceConfigs ≠ some .success := by
  cases hfind : iceConfigs.findSome? IceConfigInfo.error with
  | some status =>
    obtain ⟨info, -, hinfo⟩ := List.exists_of_findSome?_eq_some hfind
    have hne : status ≠ .success := by
      rintro rfl
      exact info.error_ne_success hinfo
    unfold iceConfigError
    rw [hfind]
    split_ifs <;> simp [hne]
  | none =>
    unfold iceConfigError
    rw [hfind]
    split_ifs <;> simp

namespace IceConfiguration

/-- The message will offer the servers of the client. -/
def Packages (client : IceConfiguration) (messageType : SignalingMessageType) (curTime : UInt64) :
    Prop :=
  messageType = .offer ∧ curTime ≤ client.iceConfigExpiration ∧ iceConfigError client.iceConfigs =
  none

end IceConfiguration

/-- Every server is offered with its time to live, less the time since the fetch. -/
def Offer.Genuine (offer : Offer) : Prop :=
  offer.servers.map OfferedIceServer.ttl = offer.fetched.map fun info =>
    (info.ttl - (offer.curTime - offer.fetchTime)) / UInt64.ofNat hundredsOfNanosInASecond

namespace IceConfigRun

/-- **Expiry**: the configuration does not outlive its shortest time to live, the grace period off,
and all the offers have been genuine. -/
structure Expires (run : IceConfigRun) : Prop where
  expiration : run.client.iceConfigExpiration.toNat ≤ run.fetchTime.toNat +
  (validity run.fetched).toNat
  offers : ∀ offer ∈ run.offers, offer.Genuine

/-- An offer with servers is sent at the time that the configuration is stamped with. -/
def AtFetch (run : IceConfigRun) : IceConfigEvent → Prop
  | .fetch _ _ => True
  | .refresh _ _ => True
  | .send messageType curTime currentTime =>
    run.client.Packages messageType curTime → currentTime = run.client.iceConfigTime

/-- The expiration of the configuration, stamped once more, is within the range of the clock. -/
def InRange (run : IceConfigRun) : IceConfigEvent → Prop
  | .fetch _ _ => True
  | .refresh _ _ => True
  | .send _ _ currentTime => currentTime.toNat + (validity run.client.iceConfigs).toNat < 2 ^ 64

/-! ### The invariant -/

/-- What holds as long as the configuration has not been stamped again. -/
structure Stamped (run : IceConfigRun) : Prop extends run.Expires where
  time : run.client.iceConfigTime = run.fetchTime
  clock : run.fetchTime ≤ run.clock
  valid : iceConfigError run.client.iceConfigs = none → run.client.iceConfigs = run.fetched

variable {run : IceConfigRun}

theorem stamped_initial : initial.Stamped where
  expiration := Nat.zero_le _
  offers := fun _ h => absurd h List.not_mem_nil
  time := rfl
  clock := UInt64.le_refl _
  valid := fun _ => rfl

theorem toNat_add_le (a b : UInt64) : (a + b).toNat ≤ a.toNat + b.toNat := by
  rw [UInt64.toNat_add]
  exact Nat.mod_le _ _

theorem Stamped.fetch (h : run.Stamped) (response : IceConfigResponse) {currentTime : UInt64}
    (hclock : run.clock ≤ currentTime) : (run.fetch response currentTime).Stamped := by
  have hle : run.fetchTime ≤ currentTime := UInt64.le_trans h.clock hclock
  unfold IceConfigRun.fetch IceConfiguration.getIceConfigLws
  cases response with
  | failed => exact ⟨⟨h.expiration, h.offers⟩, h.time, hle, h.valid⟩
  | malformed => exact ⟨⟨h.expiration, h.offers⟩, h.time, hle, fun hnone => by cases hnone⟩
  | parsed iceConfigs =>
    dsimp only [IceConfiguration.validateIceConfiguration]
    cases herror : iceConfigError iceConfigs with
    | none => exact ⟨⟨toNat_add_le _ _, h.offers⟩, rfl, UInt64.le_refl _, fun _ => rfl⟩
    | some status =>
      have hfailed : status ≠ .success := by
        rintro rfl
        exact iceConfigError_ne_success iceConfigs herror
      refine ⟨⟨?_, h.offers⟩, ?_, ?_, fun hnone => absurd (herror.symm.trans hnone) (by simp)⟩
      · simpa [hfailed] using h.expiration
      · simpa [hfailed] using h.time
      · simpa [hfailed] using hle

theorem sendIceServers_of_packages {client : IceConfiguration} {messageType : SignalingMessageType}
    {curTime : UInt64} (h : client.Packages messageType curTime) (currentTime : UInt64) :
    client.sendIceServers messageType curTime currentTime =
      (client.iceConfigs.map fun info =>
        { password := info.password
          ttl := (info.ttl - (curTime - currentTime)) / UInt64.ofNat hundredsOfNanosInASecond
          uris := info.uris
          userName := info.userName },
        { client with
          iceConfigTime := currentTime
          iceConfigExpiration := currentTime + validity client.iceConfigs }) := by
  obtain ⟨hoffer, hexpiration, hnone⟩ := h
  have hne : client.iceConfigs.length ≠ 0 := by
    intro hnil
    rw [List.length_eq_zero_iff.mp hnil] at hnone
    cases hnone
  unfold IceConfiguration.sendIceServers IceConfiguration.validateIceConfiguration
  rw [if_pos ⟨hoffer, hne, hexpiration⟩, hnone]

/-- Nothing is offered and nothing changes otherwise. -/
theorem sendIceServers_of_not_packages {client : IceConfiguration}
    {messageType : SignalingMessageType} {curTime : UInt64}
    (h : ¬client.Packages messageType curTime) (currentTime : UInt64) :
    client.sendIceServers messageType curTime currentTime = ([], client) := by
  unfold IceConfiguration.sendIceServers IceConfiguration.validateIceConfiguration
  split_ifs with hsend
  · cases hnone : iceConfigError client.iceConfigs with
    | some status => rfl
    | none => exact absurd ⟨hsend.1, hsend.2.2, hnone⟩ h
  · rfl

theorem Stamped.send (h : run.Stamped) {messageType : SignalingMessageType}
    {curTime currentTime : UInt64} (hclock : run.clock ≤ curTime) (hle : curTime ≤ currentTime)
    (hfetch : run.AtFetch (.send messageType curTime currentTime)) :
    (run.send messageType curTime currentTime).Stamped := by
  have hlater : run.fetchTime ≤ currentTime := UInt64.le_trans (UInt64.le_trans h.clock hclock) hle
  unfold IceConfigRun.send
  by_cases hpackages : run.client.Packages messageType curTime
  · obtain rfl := (hfetch hpackages).trans h.time
    -- between two equal readings the clock has not moved
    obtain rfl : curTime = run.fetchTime := UInt64.le_antisymm hle (UInt64.le_trans h.clock hclock)
    have hvalid := h.valid hpackages.2.2
    rw [sendIceServers_of_packages hpackages]
    refine ⟨⟨?_, ?_⟩, rfl, UInt64.le_refl _, h.valid⟩
    · rw [hvalid]
      exact toNat_add_le _ _
    · intro offer hoffer
      dsimp only at hoffer
      split_ifs at hoffer
      · exact h.offers offer hoffer
      · rcases List.mem_append.mp hoffer with hold | hnew
        · exact h.offers offer hold
        · obtain rfl := List.mem_singleton.mp hnew
          show List.map _ (List.map _ _) = _
          rw [List.map_map, hvalid]
          rfl
  · rw [sendIceServers_of_not_packages hpackages]
    exact ⟨⟨h.expiration, h.offers⟩, h.time, hlater, h.valid⟩

theorem Stamped.step (h : run.Stamped) {event : IceConfigEvent} (htimely : run.Timely event)
    (hfetch : run.AtFetch event) : (run.step event).Stamped := by
  cases event with
  | fetch response currentTime => exact h.fetch response htimely
  | send messageType curTime currentTime => exact h.send htimely.1 htimely.2 hfetch
  | refresh curTime fetched =>
    have hlater : run.fetchTime ≤ curTime := UInt64.le_trans h.clock htimely.1
    unfold IceConfigRun.step
    dsimp only
    split_ifs
    · cases fetched with
      | none => exact ⟨⟨h.expiration, h.offers⟩, h.time, hlater, h.valid⟩
      | some f => exact h.fetch f.1 (UInt64.le_trans htimely.1 (htimely.2 f rfl))
    · exact ⟨⟨h.expiration, h.offers⟩, h.time, hlater, h.valid⟩

/-- An offer later than the fetch makes the configuration outlive its time. -/
theorem Stamped.atFetch (h : run.Stamped) {event : IceConfigEvent} (htimely : run.Timely event)
    (hrange : run.InRange event) (hexpires : (run.step event).Expires) : run.AtFetch event := by
  cases event with
  | fetch response currentTime => trivial
  | refresh curTime fetched => trivial
  | send messageType curTime currentTime =>
    intro hpackages
    have hlater : run.fetchTime ≤ currentTime :=
      UInt64.le_trans (UInt64.le_trans h.clock htimely.1) htimely.2
    have hexpiration := hexpires.expiration
    simp only [IceConfigRun.step, IceConfigRun.send,
      sendIceServers_of_packages hpackages] at hexpiration
    rw [h.valid hpackages.2.2] at hexpiration
    have hadd : (currentTime + validity run.fetched).toNat =
        currentTime.toNat + (validity run.fetched).toNat := by
      rw [UInt64.toNat_add, Nat.mod_eq_of_lt]
      exact h.valid hpackages.2.2 ▸ hrange
    rw [hadd] at hexpiration
    rw [h.time]
    apply UInt64.le_antisymm _ hlater
    rw [UInt64.le_iff_toNat_le]
    omega

/-! ### The runs -/

/-- The condition on the run: it follows the clock, and stays in its range. -/
theorem expires_iff_atFetch {events : List IceConfigEvent}
    (htimely : AllSteps step Timely run events) (hrange : AllSteps step InRange run events)
    (h : run.Stamped) :
    Along step Expires run events ↔ AllSteps step AtFetch run events :=
  along_iff_allSteps_of (I := Stamped) (fun _ hs => hs.toExpires)
    (fun _ _ hs hok => hs.step hok.1) (fun _ _ hs hok => hs.atFetch hok.1 hok.2)
    (htimely.and hrange) h

def sampleServer : IceConfigInfo where
  version := 0
  ttl := 300 * 10000000
  uris := [[116, 117, 114, 110]]
  userName := [117]
  password := [112]

/-- An offer at the time of the fetch, and an answer ten seconds later. -/
def promptRun : List IceConfigEvent :=
  [.fetch (.parsed [sampleServer]) 10000000000, .send .offer 10000000000 10000000000,
    .send .answer 10100000000 10100000000]

def lateOfferRun : List IceConfigEvent :=
  [.fetch (.parsed [sampleServer]) 10000000000, .send .offer 10100000000 10100000000]

theorem timely_lateOfferRun : AllSteps step Timely initial lateOfferRun := by
  decide +kernel

end IceConfigRun

end KvsWebrtc.Signaling
