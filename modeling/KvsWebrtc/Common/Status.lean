import Mathlib.Algebra.Ring.Nat
import Mathlib.Tactic.TypeStar

/-!
# Status codes and failures

`STATUS` is a 32-bit code in the source, `STATUS_SUCCESS` being zero.  The model names the codes
the modelled functions return or test for; `other` stands for the codes of application callbacks
and of the platform.
-/

namespace KvsWebrtc

/-- The `STATUS` values of the modelled functions. -/
inductive Status
  | success
  | nullArg
  | invalidArg
  | invalidArgLen
  | notEnoughMemory
  | timerQueueStopScheduling
  | notFound
  | invalidOperation
  | bufferTooSmall
  | turnMissingChannelDataHeader
  | turnConnectionGetCredentialsFailed
  | turnConnectionAllocationFailed
  | turnConnectionFailedToCreatePermission
  | turnConnectionFailedToBindChannel
  | turnConnectionPeerNotUsable
  | turnInvalidState
  | rtpInputMtuTooSmall
  | rtpInvalidNalu
  | rtpInputPacketTooSmall
  | rtpInvalidExtensionLen
  | internalError
  | stunMessageIntegrityNotLast
  | stunFingerprintNotLast
  | stunMagicCookieMismatch
  | stunInvalidAddressAttributeLength
  | stunInvalidUsernameAttributeLength
  | stunInvalidMessageIntegrityAttributeLength
  | stunInvalidFingerprintAttributeLength
  | stunMultipleMessageIntegrityAttributes
  | stunMultipleFingerprintAttributes
  | stunAttributesAfterFingerprintMessageIntegrity
  | stunMessageIntegrityAfterFingerprint
  | stunMaxAttributeCount
  | stunMessageIntegrityMismatch
  | stunFingerprintMismatch
  | stunInvalidPriorityAttributeLength
  | stunInvalidUseCandidateAttributeLength
  | stunInvalidLifetimeAttributeLength
  | stunInvalidRequestedTransportAttributeLength
  | stunInvalidRealmAttributeLength
  | stunInvalidNonceAttributeLength
  | stunInvalidErrorCodeAttributeLength
  | stunInvalidIceControlAttributeLength
  | stunInvalidChannelNumberAttributeLength
  | stunInvalidChangeRequestAttributeLength
  | rollingBufferNotInRange
  | rtcpInputPacketTooSmall
  | rtcpInputPartialPacket
  | rtcpInputPacketInvalidVersion
  | rtcpInputRembTooSmall
  | rtcpInputRembInvalid
  | rtcpInputNackListInvalid
  | rtcpInputSsrcInvalid
  | hashKeyNotPresent
  | hashKeyAlreadyPresent
  | sctpInvalidDcepPacket
  | sessionDescriptionInitNotObject
  | sessionDescriptionInitInvalidType
  | sessionDescriptionInitMaxSdpLenExceeded
  | sessionDescriptionInitMissingSdp
  | sessionDescriptionInitMissingType
  | sessionDescriptionMaxMediaCount
  | sessionDescriptionInvalidSessionDescription
  | sdpAttributeMaxExceeded
  | sessionDescriptionMissingIceValues
  | sessionDescriptionMissingCertificateFingerprint
  | createAnswerWithoutRemoteDescription
  | invalidAddressLength
  | peerConnectionEarlyDnsResolutionFailed
  | iceUrlInvalidPrefix
  | iceUrlTurnMissingUsername
  | iceUrlTurnMissingCredential
  | iceMaxRemoteCandidateCountExceeded
  | iceCandidateInitMalformed
  | iceCandidateMissingCandidate
  | iceCandidateStringIsTcp
  | iceCandidateStringMissingIp
  | iceCandidateStringMissingType
  | iceCandidatePairListEmpty
  | iceFailedToNominateCandidatePair
  | iceNoNominatedValidCandidatePairAvailable
  | iceNoConnectedCandidatePair
  | iceFailedToRecoverFromDisconnection
  | iceInvalidState
  | socketConnectionClosedAlready
  | socketWriteFailed
  | resolveHostnameFailed
  | hostnameNotFound
  | sendDataFailed
  | srtpNotReadyYet
  | srtpEncryptFailed
  | operationTimedOut
  | serviceCallNotAuthorizedError
  | signalingMediaStorageDisabled
  | signalingMaxIceConfigCount
  | signalingNoConfigSpecified
  | signalingInvalidIceConfigInfoVersion
  | signalingNoConfigUriSpecified
  | signalingMaxIceUriCount
  | signalingMaxIceUriLen
  | signalingIceTtlLessThanGracePeriod
  | signalingLwsCallFailed
  | invalidApiCallReturnJson
  | signalingInvalidReadyState
  | signalingInvalidSignalingMessageVersion
  | signalingDuplicateMessageBeingSent
  | signalingGetTokenCallFailed
  | signalingDescribeCallFailed
  | signalingDescribeMediaCallFailed
  | signalingCreateCallFailed
  | signalingGetEndpointCallFailed
  | signalingGetIceConfigCallFailed
  | signalingReadyCallbackFailed
  | signalingConnectCallFailed
  | signalingConnectedCallbackFailed
  | signalingDisconnectedCallbackFailed
  | signalingDeleteCallFailed
  | signalingJoinSessionCallFailed
  | signalingJoinSessionConnectedFailed
  | signalingInvalidMessageType
  | signalingMessageDeliveryFailed
  | signalingReceivedMessageLargerThanMaxDataLen
  | signalingReceiveBinaryDataNotSupported
  | other (code : Nat)
deriving DecidableEq

namespace Status

/-- `STATUS_FAILED`. -/
def failed (s : Status) : Bool := s ≠ success

@[simp] theorem failed_success : success.failed = false := rfl

theorem failed_eq_true_iff (s : Status) : s.failed = true ↔ s ≠ success := by
  simp [failed]

theorem failed_eq_false_iff (s : Status) : s.failed = false ↔ s = success := by
  simp [failed]

end Status

/-- How a call fails: with a status, or by reading or writing outside of its buffers. -/
inductive Failure
  | status (s : Status)
  | outOfBounds
deriving DecidableEq

/-- A sequence of two calls succeeds if both do. -/
theorem bind_eq_ok_iff {ε α β : Type} {x : Except ε α} {f : α → Except ε β} {r : β} :
    (x >>= f) = .ok r ↔ ∃ a, x = .ok a ∧ f a = .ok r := by
  cases x with
  | error e =>
    constructor
    · intro h
      cases h
    · rintro ⟨a, ha, -⟩
      cases ha
  | ok a =>
    constructor
    · intro h
      exact ⟨a, rfl, h⟩
    · rintro ⟨a', ha, h⟩
      obtain rfl := Except.ok.inj ha
      exact h

end KvsWebrtc
