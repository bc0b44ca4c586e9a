import FireboltClient.Schema
import FireboltClient.Types

/-!
# The OpenRPC specification

The schemas and method parameters of `docs/openrpc` that the client is measured against. Nothing
here is taken from the C++ sources.
-/

namespace Firebolt.OpenRpc

/-! ## Schemas -/

/-- `^[a-z]{3}$` -/
def isLanguageCode (s : String) : Bool :=
  s.toList.length = 3 && s.toList.all fun c => 'a' ≤ c && c ≤ 'z'

def ISO639_2Language : Schema := .stringWith isLanguageCode

def ClosedCaptionsSettings : Schema :=
  .object ["enabled"]
    [("enabled", .boolean), ("preferredLanguages", .array 0 ISO639_2Language)]

def SpeechRate : Schema := .number (1 / 10) 10

def VoiceGuidanceSettings : Schema :=
  .object ["enabled", "navigationHints", "rate"]
    [("enabled", .boolean), ("rate", SpeechRate), ("navigationHints", .boolean)]

def AdvertisingIdResult : Schema :=
  .object ["ifa", "ifa_type", "lmt"]
    [("ifa", .string), ("ifa_type", .string), ("lmt", .stringWith fun s => s ∈ ["0", "1"])]

def HDRFormatMap : Schema :=
  .object ["hdr10", "hdr10Plus", "dolbyVision", "hlg"]
    [("hdr10", .boolean), ("hdr10Plus", .boolean), ("dolbyVision", .boolean), ("hlg", .boolean)]

/-- The strings of `DeviceClass`, each with the class it stands for. -/
def deviceClass? : String → Option Device.DeviceClass
  | "ott" => some .OTT
  | "stb" => some .STB
  | "tv" => some .TV
  | _ => none

def DeviceClass : Schema := .stringWith fun s => (deviceClass? s).isSome

/-- The strings of `LifecycleState`, each with the state it stands for. -/
def lifecycleState? : String → Option Lifecycle.LifecycleState
  | "initializing" => some .INITIALIZING
  | "active" => some .ACTIVE
  | "paused" => some .PAUSED
  | "suspended" => some .SUSPENDED
  | "hibernated" => some .HIBERNATED
  | "terminating" => some .TERMINATING
  | _ => none

def LifecycleState : Schema := .stringWith fun s => (lifecycleState? s).isSome

/-- Neither member is required. -/
def StateChange : Schema :=
  .object [] [("newState", LifecycleState), ("oldState", LifecycleState)]

/-- The parameter of `Lifecycle2.onStateChanged`. -/
def StateHistory : Schema := .array 1 StateChange

def MemoryUsage : Schema :=
  .object ["userMemoryUsedKiB", "userMemoryLimitKiB", "gpuMemoryUsedKiB", "gpuMemoryLimitKiB"]
    [("userMemoryUsedKiB", .integer), ("userMemoryLimitKiB", .integer),
      ("gpuMemoryUsedKiB", .integer), ("gpuMemoryLimitKiB", .integer)]

def TTSStatus : Schema := .integerWith fun n => 0 ≤ n && n ≤ 3

def ListVoicesResponse : Schema :=
  .object ["TTS_Status", "voices"] [("TTS_Status", TTSStatus), ("voices", .array 0 .string)]

def SpeechId : Schema := .integer

def SpeechIdEvent : Schema := .object ["speechid"] [("speechid", SpeechId)]

def SpeechResponse : Schema :=
  .object ["speechid", "TTS_Status", "success"]
    [("speechid", SpeechId), ("TTS_Status", TTSStatus), ("success", .boolean)]

/-- The integers of `SpeechState`, each with the state that its description names. -/
def speechState? : ℤ → Option TextToSpeech.SpeechState
  | 0 => some .PENDING
  | 1 => some .IN_PROGRESS
  | 2 => some .PAUSED
  | 3 => some .NOT_FOUND
  | _ => none

def SpeechState : Schema := .integerWith fun n => (speechState? n).isSome

def SpeechStateResponse : Schema :=
  .object ["speechstate", "TTS_Status", "success"]
    [("speechstate", SpeechState), ("TTS_Status", TTSStatus), ("success", .boolean)]

def TTSStatusResponse : Schema :=
  .object ["TTS_Status", "success"] [("TTS_Status", TTSStatus), ("success", .boolean)]

example : isLanguageCode "eng" = true ∧ isLanguageCode "en-gb" = false := by decide

/-! ## Methods with parameters -/

inductive Method
  | startContent | stopContent | page | error
  | mediaLoadStart | mediaPlay | mediaPlaying | mediaPause | mediaWaiting
  | mediaSeeking | mediaSeeked | mediaRateChanged | mediaRenditionChanged | mediaEnded
  | event | appInfo
  | watched | watchedV2
  | listvoices | speak | pause | resume | cancel | getspeechstate
  | close
  deriving DecidableEq, Repr

namespace Method

def all : List Method :=
  [startContent, stopContent, page, error, mediaLoadStart, mediaPlay, mediaPlaying, mediaPause,
    mediaWaiting, mediaSeeking, mediaSeeked, mediaRateChanged, mediaRenditionChanged, mediaEnded,
    event, appInfo, watched, watchedV2, listvoices, speak, pause, resume, cancel, getspeechstate,
    close]

theorem mem_all (m : Method) : m ∈ all := by
  cases m <;> decide

def name : Method → String
  | startContent => "Metrics.startContent"
  | stopContent => "Metrics.stopContent"
  | page => "Metrics.page"
  | error => "Metrics.error"
  | mediaLoadStart => "Metrics.mediaLoadStart"
  | mediaPlay => "Metrics.mediaPlay"
  | mediaPlaying => "Metrics.mediaPlaying"
  | mediaPause => "Metrics.mediaPause"
  | mediaWaiting => "Metrics.mediaWaiting"
  | mediaSeeking => "Metrics.mediaSeeking"
  | mediaSeeked => "Metrics.mediaSeeked"
  | mediaRateChanged => "Metrics.mediaRateChanged"
  | mediaRenditionChanged => "Metrics.mediaRenditionChanged"
  | mediaEnded => "Metrics.mediaEnded"
  | event => "Metrics.event"
  | appInfo => "Metrics.appInfo"
  | watched => "Discovery.watched"
  | watchedV2 => "Discovery.watchedV2"
  | listvoices => "TextToSpeech.listvoices"
  | speak => "TextToSpeech.speak"
  | pause => "TextToSpeech.pause"
  | resume => "TextToSpeech.resume"
  | cancel => "TextToSpeech.cancel"
  | getspeechstate => "TextToSpeech.getspeechstate"
  | close => "Lifecycle2.close"

/-- The parameters marked as required. -/
def required : Method → List String
  | startContent | stopContent => []
  | page => ["pageId"]
  | error => ["type", "code", "description", "visible"]
  | mediaLoadStart | mediaPlay | mediaPlaying | mediaPause | mediaWaiting | mediaEnded =>
    ["entityId"]
  | mediaSeeking => ["entityId", "target"]
  | mediaSeeked => ["entityId", "position"]
  | mediaRateChanged => ["entityId", "rate"]
  | mediaRenditionChanged => ["entityId", "bitrate", "width", "height"]
  | event => ["schema", "data"]
  | appInfo => ["build"]
  | watched | watchedV2 => ["entityId"]
  | listvoices => ["language"]
  | speak => ["text"]
  | pause | resume | cancel | getspeechstate => ["speechid"]
  | close => ["type"]

/-- The other parameters. -/
def optional : Method → List String
  | startContent | stopContent => ["entityId", "agePolicy"]
  | page | mediaLoadStart | mediaPlay | mediaPlaying | mediaPause | mediaWaiting | mediaEnded
  | mediaSeeking | mediaSeeked | mediaRateChanged | event => ["agePolicy"]
  | error => ["parameters", "agePolicy"]
  | mediaRenditionChanged => ["profile", "agePolicy"]
  | watched | watchedV2 => ["progress", "completed", "watchedOn", "agePolicy"]
  | appInfo | listvoices | speak | pause | resume | cancel | getspeechstate | close => []

end Method

/-- The strings of the age policies that have an enumerator. -/
def agePolicy? : String → Option AgePolicy
  | "app:adult" => some .ADULT
  | "app:child" => some .CHILD
  | "app:teen" => some .TEEN
  | _ => none

def errorType? : String → Option Metrics.ErrorType
  | "network" => some .Network
  | "media" => some .Media
  | "restriction" => some .Restriction
  | "entitlement" => some .Entitlement
  | "other" => some .Other
  | _ => none

def closeType? : String → Option Lifecycle.CloseType
  | "deactivate" => some .DEACTIVATE
  | "unload" => some .UNLOAD
  | "killReload" => some .KILL_RELOAD
  | "killReactivate" => some .KILL_REACTIVATE
  | _ => none

end Firebolt.OpenRpc
