import KvsWebrtc.Sdp.Answer
import Mathlib.Logic.Function.Basic

/-!
# Session descriptions in full

The structures of `Sdp/Sdp.h` with the fields that are read and written by the serializer and the
parser. Fields that neither uses are left out: the connection of the session, time zones, keys and
bandwidths.

A string field is the text in its array, up to the terminating zero.  An array of attributes is
modelled with all of its entries, since the count of a section can wrap.  The arrays of times and of
sections are the lists of the entries that count; those behind are zero.
-/

namespace KvsWebrtc.Sdp.Wire

def maxSdpAttributesCount : Nat := 256

def maxSdpAttributeNameLength : Nat := 32

def maxSdpMediaTitleLength : Nat := 127

def maxSdpSessionInformationLength : Nat := 127

/-- `MAX_SDP_SESSION_NAME_LENGTH`, which is also the length of the other session fields. -/
def maxSdpSessionNameLength : Nat := 255

def maxSdpTokenLength : Nat := 128

def maxSdpSessionUsernameLength : Nat := 32

def maxSdpNetworkTypeLength : Nat := 7

def maxSdpAddressTypeLength : Nat := 7

def maxSdpConnectionAddressLength : Nat := 63

def maxSdpSessionTimeDescriptionCount : Nat := 2

def zeroAttribute : SdpAttribute := ⟨[], []⟩

/-- An array of attributes with the number of those that count. -/
structure AttributeArray where
  slots : Nat → SdpAttribute
  count : Nat

namespace AttributeArray

def zero : AttributeArray := ⟨fun _ => zeroAttribute, 0⟩

def toList (a : AttributeArray) : List SdpAttribute := (List.range a.count).map a.slots

/-- Stores an attribute at the count, which is a number below `wrap`. -/
def push (wrap : Nat) (a : AttributeArray) (x : SdpAttribute) : AttributeArray :=
  ⟨Function.update a.slots a.count x, (a.count + 1) % wrap⟩

end AttributeArray

structure SdpConnectionInformation where
  networkType : List Char
  addressType : List Char
  connectionAddress : List Char
deriving DecidableEq

structure SdpOrigin where
  userName : List Char
  sessionId : UInt64
  sessionVersion : UInt64
  sdpConnectionInformation : SdpConnectionInformation
deriving DecidableEq

structure SdpTimeDescription where
  startTime : UInt64
  stopTime : UInt64
deriving DecidableEq

structure SdpMediaDescription where
  mediaName : List Char
  mediaTitle : List Char
  sdpConnectionInformation : SdpConnectionInformation
  sdpAttributes : AttributeArray

structure SessionDescription where
  version : UInt64
  sdpOrigin : SdpOrigin
  sessionName : List Char
  sessionInformation : List Char
  uri : List Char
  emailAddress : List Char
  phoneNumber : List Char
  sdpTimeDescription : List SdpTimeDescription
  sdpAttributes : AttributeArray
  mediaDescriptions : List SdpMediaDescription

def SdpConnectionInformation.zero : SdpConnectionInformation := ⟨[], [], []⟩

def SdpMediaDescription.zero : SdpMediaDescription := ⟨[], [], .zero, .zero⟩

def SessionDescription.zero : SessionDescription where
  version := 0
  sdpOrigin := ⟨[], 0, 0, .zero⟩
  sessionName := []
  sessionInformation := []
  uri := []
  emailAddress := []
  phoneNumber := []
  sdpTimeDescription := []
  sdpAttributes := .zero
  mediaDescriptions := []

end KvsWebrtc.Sdp.Wire
