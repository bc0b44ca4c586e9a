import Mathlib.Data.Int.Notation

/-!
# The public types

What the headers of `include/firebolt` declare: the enumerations and the records that getters
return and callbacks receive.
-/

namespace Firebolt

/-- The errors of the transport; the client itself only ever names `InvalidParams`. -/
inductive Error
  | InvalidParams
  | other (code : ℤ)
  deriving DecidableEq, Repr

inductive AgePolicy
  | ADULT | CHILD | TEEN
  deriving DecidableEq, Repr

namespace Accessibility

structure ClosedCaptionsSettings where
  enabled : Bool
  preferredLanguages : List String

structure VoiceGuidanceSettings where
  enabled : Bool
  rate : Float
  navigationHints : Bool

end Accessibility

namespace Advertising

structure Ifa where
  ifa : String
  ifa_type : String
  lmt : String

end Advertising

namespace Device

inductive DeviceClass
  | STB | OTT | TV
  deriving DecidableEq, Inhabited, Repr

structure HDRFormat where
  hdr10 : Bool
  hdr10Plus : Bool
  dolbyVision : Bool
  hlg : Bool
  deriving DecidableEq, Inhabited

end Device

namespace Display

structure DisplaySize where
  width : UInt32
  height : UInt32

end Display

namespace Lifecycle

inductive LifecycleState
  | INITIALIZING | ACTIVE | PAUSED | SUSPENDED | HIBERNATED | TERMINATING
  deriving DecidableEq, Inhabited, Repr

inductive CloseType
  | DEACTIVATE | UNLOAD | KILL_RELOAD | KILL_REACTIVATE
  deriving DecidableEq, Repr

structure StateChange where
  oldState : LifecycleState
  newState : LifecycleState
  deriving DecidableEq, Repr

end Lifecycle

namespace Metrics

inductive ErrorType
  | Network | Media | Restriction | Entitlement | Other
  deriving DecidableEq, Repr

end Metrics

namespace Stats

structure MemoryInfo where
  userMemoryUsed : UInt32
  userMemoryLimit : UInt32
  gpuMemoryUsed : UInt32
  gpuMemoryLimit : UInt32

end Stats

namespace TextToSpeech

/-- `enum class SpeechState` is an `int` underneath, and a cast can give it any `int`; the
enumerators are the four values below. -/
structure SpeechState where
  underlying : Int32
  deriving DecidableEq, Inhabited

namespace SpeechState

def PENDING : SpeechState := ⟨0⟩
def IN_PROGRESS : SpeechState := ⟨1⟩
def PAUSED : SpeechState := ⟨2⟩
def NOT_FOUND : SpeechState := ⟨3⟩

/-- The enumerators, in the order in which the header declares them. -/
def enumerators : List SpeechState := [PENDING, IN_PROGRESS, PAUSED, NOT_FOUND]

/-- `static_cast<SpeechState>(n)`. -/
def ofUInt32 (n : UInt32) : SpeechState := ⟨n.toInt32⟩

end SpeechState

abbrev TTSStatus : Type := UInt32
abbrev SpeechId : Type := UInt32

structure TTSStatusResponse where
  ttsStatus : TTSStatus
  success : Bool

structure SpeechIdEvent where
  speechId : SpeechId

structure ListVoicesResponse where
  ttsStatus : TTSStatus
  voices : List String

structure SpeechResponse where
  speechId : SpeechId
  ttsStatus : TTSStatus
  success : Bool

structure SpeechStateResponse where
  speechState : SpeechState
  ttsStatus : TTSStatus
  success : Bool

end TextToSpeech

end Firebolt
