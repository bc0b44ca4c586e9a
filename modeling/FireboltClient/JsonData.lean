import FireboltClient.JsonTypes

/-!
# The decoders of `json_types`

One definition for each decoder class and each table of names, in the order of the headers. A
class lists the members it requires, the statements of `fromJson` behind the check, and `value`.
-/

open Json Statement

namespace Firebolt

/-- The exception every object decoder throws when its check fails. -/
def missingFields : Exn := .invalid_argument "Missing required fields in JSON"

/-- The decoder class of an object decoder: `checkRequiredFields` guards its body. -/
def JsonTypes.object {σ τ : Type} (T : JsonTypes) (c : ObjectClass σ τ) : JsonClass σ τ :=
  c.toClass T.checkRequiredFields missingFields

/-- `table.at(json)`: the conversion to a string is implicit in C++. -/
def JsonTypes.enumAtJson {α : Type} (T : JsonTypes) (table : EnumType α) (json : Json) :
    Except Exn α := do
  T.enumAt table (← json.getString)

/-! ## common.h -/

namespace JsonData

def AgePolicyEnum : EnumType AgePolicy :=
  [("app:adult", .ADULT), ("app:child", .CHILD), ("app:teen", .TEEN)]

end JsonData

/-! ## accessibility.h -/

namespace Accessibility.JsonData

structure ClosedCaptionsSettings.Members where
  enabled_ : Bool
  preferredLanguages_ : List String
  deriving Inhabited

def ClosedCaptionsSettings :
    ObjectClass ClosedCaptionsSettings.Members Accessibility.ClosedCaptionsSettings where
  required := ["enabled", "preferredLanguages"]
  body := [
    assign "enabled" getBool fun b m => { m with enabled_ := b },
    assign "preferredLanguages" getStrings fun ws m => { m with preferredLanguages_ := ws }]
  value m := ⟨m.enabled_, m.preferredLanguages_⟩

structure VoiceGuidanceSettings.Members where
  enabled_ : Bool
  rate_ : Float
  navigationHints_ : Bool
  deriving Inhabited

def VoiceGuidanceSettings :
    ObjectClass VoiceGuidanceSettings.Members Accessibility.VoiceGuidanceSettings where
  required := ["enabled", "rate", "navigationHints"]
  body := [
    assign "enabled" getBool fun b m => { m with enabled_ := b },
    assign "rate" getDouble fun d m => { m with rate_ := d },
    assign "navigationHints" getBool fun b m => { m with navigationHints_ := b }]
  value m := ⟨m.enabled_, m.rate_, m.navigationHints_⟩

end Accessibility.JsonData

/-! ## advertising.h -/

namespace Advertising.JsonData

structure IfaJson.Members where
  ifa : String
  ifa_type : String
  lmt : String
  deriving Inhabited

def IfaJson : ObjectClass IfaJson.Members Ifa where
  required := ["ifa", "ifa_type", "lmt"]
  body := [
    assign "ifa" getString fun s m => { m with ifa := s },
    assign "ifa_type" getString fun s m => { m with ifa_type := s },
    assign "lmt" getString fun s m => { m with lmt := s }]
  value m := ⟨m.ifa, m.ifa_type, m.lmt⟩

end Advertising.JsonData

/-! ## device.h -/

namespace Device.JsonData

def DeviceClassEnum : EnumType DeviceClass :=
  [("stb", .STB), ("ott", .OTT), ("tv", .TV)]

def DeviceClassJson (T : JsonTypes) : JsonClass DeviceClass DeviceClass :=
  .scalar (T.enumAtJson DeviceClassEnum)

def HDRFormat : ObjectClass Device.HDRFormat Device.HDRFormat where
  required := ["hdr10", "hdr10Plus", "dolbyVision", "hlg"]
  body := [
    assign "hdr10" getBool fun b m => { m with hdr10 := b },
    assign "hdr10Plus" getBool fun b m => { m with hdr10Plus := b },
    assign "dolbyVision" getBool fun b m => { m with dolbyVision := b },
    assign "hlg" getBool fun b m => { m with hlg := b }]
  value hdrFormat_ := hdrFormat_

end Device.JsonData

/-! ## display.h -/

namespace Display.JsonData

structure DisplaySizeJson.Members where
  width_ : UInt32
  height_ : UInt32
  deriving Inhabited

def DisplaySizeJson (T : JsonTypes) : ObjectClass DisplaySizeJson.Members DisplaySize where
  required := ["width", "height"]
  body := [
    assign "width" (getUInt32 T.beyond) fun n m => { m with width_ := n },
    assign "height" (getUInt32 T.beyond) fun n m => { m with height_ := n }]
  value m := ⟨m.width_, m.height_⟩

end Display.JsonData

/-! ## lifecycle.h -/

namespace Lifecycle.JsonData

def CloseReasonEnum : EnumType CloseType :=
  [("deactivate", .DEACTIVATE), ("unload", .UNLOAD), ("killReload", .KILL_RELOAD),
    ("killReactivate", .KILL_REACTIVATE)]

def LifecycleStateEnum : EnumType LifecycleState :=
  [("initializing", .INITIALIZING), ("active", .ACTIVE), ("paused", .PAUSED),
    ("suspended", .SUSPENDED), ("hibernated", .HIBERNATED), ("terminating", .TERMINATING)]

def LifecycleState (T : JsonTypes) :
    JsonClass Lifecycle.LifecycleState Lifecycle.LifecycleState :=
  .scalar (T.enumAtJson LifecycleStateEnum)

structure StateChange.Members where
  oldState_ : Lifecycle.LifecycleState
  newState_ : Lifecycle.LifecycleState
  deriving Inhabited

def StateChange (T : JsonTypes) : ObjectClass StateChange.Members Lifecycle.StateChange where
  required := ["oldState", "newState"]
  body := [
    assign "oldState" (T.enumAtJson LifecycleStateEnum) fun s m => { m with oldState_ := s },
    assign "newState" (T.enumAtJson LifecycleStateEnum) fun s m => { m with newState_ := s }]
  value m := ⟨m.oldState_, m.newState_⟩

end Lifecycle.JsonData

/-! ## metrics.h -/

namespace Metrics.JsonData

def ErrorTypeEnum : EnumType ErrorType :=
  [("network", .Network), ("media", .Media), ("restriction", .Restriction),
    ("entitlement", .Entitlement), ("other", .Other)]

end Metrics.JsonData

/-! ## stats.h -/

namespace Stats.JsonData

structure MemoryInfo.Members where
  userMemoryUsed : UInt32
  userMemoryLimit : UInt32
  gpuMemoryUsed : UInt32
  gpuMemoryLimit : UInt32
  deriving Inhabited

def MemoryInfo (T : JsonTypes) : ObjectClass MemoryInfo.Members Stats.MemoryInfo where
  required :=
    ["userMemoryUsedKiB", "userMemoryLimitKiB", "gpuMemoryUsedKiB", "gpuMemoryLimitKiB"]
  body := [
    assign "userMemoryUsedKiB" (getUInt32 T.beyond) fun n m => { m with userMemoryUsed := n },
    assign "userMemoryLimitKiB" (getUInt32 T.beyond) fun n m => { m with userMemoryLimit := n },
    assign "gpuMemoryUsedKiB" (getUInt32 T.beyond) fun n m => { m with gpuMemoryUsed := n },
    assign "gpuMemoryLimitKiB" (getUInt32 T.beyond) fun n m => { m with gpuMemoryLimit := n }]
  value m := ⟨m.userMemoryUsed, m.userMemoryLimit, m.gpuMemoryUsed, m.gpuMemoryLimit⟩

end Stats.JsonData

/-! ## texttospeech.h -/

namespace TextToSpeech.JsonData

structure ListVoicesResponse.Members where
  ttsStatus_ : UInt32
  voices_ : List String
  deriving Inhabited

/-- The voices are not converted as a list: the member is iterated, whatever it is, and each item
is converted and appended. -/
def ListVoicesResponse (T : JsonTypes) :
    ObjectClass ListVoicesResponse.Members TextToSpeech.ListVoicesResponse where
  required := ["TTS_Status", "voices"]
  body := [
    assign "TTS_Status" (getUInt32 T.beyond) fun n m => { m with ttsStatus_ := n },
    exec fun m => { m with voices_ := [] },
    forEach "voices" <| store getString fun s m => { m with voices_ := m.voices_ ++ [s] }]
  value m := ⟨m.ttsStatus_, m.voices_⟩

structure SpeechIdEvent.Members where
  speechId_ : UInt32
  deriving Inhabited

def SpeechIdEvent (T : JsonTypes) :
    ObjectClass SpeechIdEvent.Members TextToSpeech.SpeechIdEvent where
  required := ["speechid"]
  body := [
    assign "speechid" (getUInt32 T.beyond) fun n m => { m with speechId_ := n }]
  value m := ⟨m.speechId_⟩

structure SpeechResponse.Members where
  speechId_ : UInt32
  ttsStatus_ : UInt32
  success_ : Bool
  deriving Inhabited

def SpeechResponse (T : JsonTypes) :
    ObjectClass SpeechResponse.Members TextToSpeech.SpeechResponse where
  required := ["speechid", "TTS_Status", "success"]
  body := [
    assign "speechid" (getUInt32 T.beyond) fun n m => { m with speechId_ := n },
    assign "TTS_Status" (getUInt32 T.beyond) fun n m => { m with ttsStatus_ := n },
    assign "success" getBool fun b m => { m with success_ := b }]
  value m := ⟨m.speechId_, m.ttsStatus_, m.success_⟩

structure SpeechStateResponse.Members where
  speechState_ : SpeechState
  ttsStatus_ : UInt32
  success_ : Bool
  deriving Inhabited

/-- `static_cast<SpeechState>(json.get<uint32_t>())`; no table is asked. -/
def getSpeechState (beyond : Float → UInt32) (json : Json) : Except Exn SpeechState := do
  return SpeechState.ofUInt32 (← json.getUInt32 beyond)

def SpeechStateResponse (T : JsonTypes) :
    ObjectClass SpeechStateResponse.Members TextToSpeech.SpeechStateResponse where
  required := ["speechstate", "TTS_Status", "success"]
  body := [
    assign "speechstate" (getSpeechState T.beyond) fun s m => { m with speechState_ := s },
    assign "TTS_Status" (getUInt32 T.beyond) fun n m => { m with ttsStatus_ := n },
    assign "success" getBool fun b m => { m with success_ := b }]
  value m := ⟨m.speechState_, m.ttsStatus_, m.success_⟩

structure TTSStatusResponse.Members where
  ttsStatus_ : UInt32
  success_ : Bool
  deriving Inhabited

def TTSStatusResponse (T : JsonTypes) :
    ObjectClass TTSStatusResponse.Members TextToSpeech.TTSStatusResponse where
  required := ["TTS_Status", "success"]
  body := [
    assign "TTS_Status" (getUInt32 T.beyond) fun n m => { m with ttsStatus_ := n },
    assign "success" getBool fun b m => { m with success_ := b }]
  value m := ⟨m.ttsStatus_, m.success_⟩

end TextToSpeech.JsonData

end Firebolt
