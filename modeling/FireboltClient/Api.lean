import FireboltClient.Decoders
import FireboltClient.Interfaces

/-!
# All methods of the API

All fifty methods that call the platform as one type: what each returns, the request it hands to
the helper, and what it makes of the reply.
-/

namespace Firebolt

variable (T : JsonTypes) (H : IHelper)

/-! ## Replies -/

/-- What a method makes of the reply. -/
inductive Reply
  | nothing
  | boolean
  | string
  | unsigned
  | strings
  | decoded (d : Decoder)

namespace Reply

abbrev Value : Reply → Type
  | nothing => Unit
  | boolean => Bool
  | string => String
  | unsigned => UInt32
  | strings => List String
  | decoded d => d.Value

/-- Hand a request to the helper, with the decoder of the reply. -/
def ask : (k : Reply) → Request → Except Error k.Value
  | nothing => H.invoke
  | boolean => H.get T.JSON_Boolean
  | string => H.get T.JSON_String
  | unsigned => H.get T.JSON_Unsigned
  | strings => H.get (T.NL_Json_Array T.JSON_String)
  | decoded d => H.get (d.cls T)

end Reply

/-! ## All methods -/

/-- A call of a method without parameters. -/
inductive PlainCall
  | audioDescription | closedCaptionsSettings | highContrastUI | voiceGuidanceSettings
  | intent
  | advertisingId
  | chipsetId | deviceClass | hdr | timeInActiveState | uid | uptime
  | edid | maxResolution | size
  | state
  | country | preferredAudioLanguages | presentationLanguage
  | ready | signIn | signOut
  | connected
  | focused
  | memoryUsage
  deriving DecidableEq, Repr

def PlainCall.reply : PlainCall → Reply
  | audioDescription | highContrastUI | connected | focused => .boolean
  | intent | chipsetId | uid | edid | country | presentationLanguage => .string
  | timeInActiveState | uptime => .unsigned
  | preferredAudioLanguages => .strings
  | ready | signIn | signOut => .nothing
  | closedCaptionsSettings => .decoded (.object .ClosedCaptionsSettings)
  | voiceGuidanceSettings => .decoded (.object .VoiceGuidanceSettings)
  | advertisingId => .decoded (.object .IfaJson)
  | deviceClass => .decoded .DeviceClassJson
  | hdr => .decoded (.object .HDRFormat)
  | maxResolution | size => .decoded (.object .DisplaySizeJson)
  | state => .decoded .LifecycleState
  | memoryUsage => .decoded (.object .MemoryInfo)

def Call.reply : Call → Reply
  | .startContent .. | .stopContent .. | .page .. | .error .. | .mediaLoadStart .. | .mediaPlay ..
  | .mediaPlaying .. | .mediaPause .. | .mediaWaiting .. | .mediaSeeking .. | .mediaSeeked ..
  | .mediaRateChanged .. | .mediaRenditionChanged .. | .mediaEnded .. | .event .. | .appInfo ..
  | .close .. => .nothing
  | .watched .. | .watchedV2 .. => .boolean
  | .listVoices .. => .decoded (.object .ListVoicesResponse)
  | .speak .. => .decoded (.object .SpeechResponse)
  | .pause .. | .resume .. | .cancel .. => .decoded (.object .TTSStatusResponse)
  | .getSpeechState .. => .decoded (.object .SpeechStateResponse)

/-- The name of the method in the OpenRPC files. -/
def PlainCall.documentedName : PlainCall → String
  | audioDescription => "Accessibility.audioDescription"
  | closedCaptionsSettings => "Accessibility.closedCaptionsSettings"
  | highContrastUI => "Accessibility.highContrastUI"
  | voiceGuidanceSettings => "Accessibility.voiceGuidanceSettings"
  | intent => "Actions.intent"
  | advertisingId => "Advertising.advertisingId"
  | chipsetId => "Device.chipsetId"
  | deviceClass => "Device.deviceClass"
  | hdr => "Device.hdr"
  | timeInActiveState => "Device.timeInActiveState"
  | uid => "Device.uid"
  | uptime => "Device.uptime"
  | edid => "Display.edid"
  | maxResolution => "Display.maxResolution"
  | size => "Display.size"
  | state => "Lifecycle2.state"
  | country => "Localization.country"
  | preferredAudioLanguages => "Localization.preferredAudioLanguages"
  | presentationLanguage => "Localization.presentationLanguage"
  | ready => "Metrics.ready"
  | signIn => "Metrics.signIn"
  | signOut => "Metrics.signOut"
  | connected => "Network.connected"
  | focused => "Presentation.focused"
  | memoryUsage => "Stats.memoryUsage"

def PlainCall.all : List PlainCall :=
  [audioDescription, closedCaptionsSettings, highContrastUI, voiceGuidanceSettings, intent,
    advertisingId, chipsetId, deviceClass, hdr, timeInActiveState, uid, uptime, edid,
    maxResolution, size, state, country, preferredAudioLanguages, presentationLanguage, ready,
    signIn, signOut, connected, focused, memoryUsage]

theorem PlainCall.mem_all (p : PlainCall) : p ∈ all := by
  cases p <;> decide

section

open Accessibility Actions Advertising Device Discovery Display Lifecycle Firebolt.Localization
  Metrics Network Presentation Stats TextToSpeech

/-- What the method returns. -/
def PlainCall.result : (p : PlainCall) → Except Error p.reply.Value
  | audioDescription => AccessibilityImpl.audioDescription T H
  | closedCaptionsSettings => AccessibilityImpl.closedCaptionsSettings T H
  | highContrastUI => AccessibilityImpl.highContrastUI T H
  | voiceGuidanceSettings => AccessibilityImpl.voiceGuidanceSettings T H
  | intent => ActionsImpl.intent T H
  | advertisingId => AdvertisingImpl.advertisingId T H
  | chipsetId => DeviceImpl.chipsetId T H
  | deviceClass => DeviceImpl.deviceClass T H
  | hdr => DeviceImpl.hdr T H
  | timeInActiveState => DeviceImpl.timeInActiveState T H
  | uid => DeviceImpl.uid T H
  | uptime => DeviceImpl.uptime T H
  | edid => DisplayImpl.edid T H
  | maxResolution => DisplayImpl.maxResolution T H
  | size => DisplayImpl.size T H
  | state => LifecycleImpl.state T H
  | country => LocalizationImpl.country T H
  | preferredAudioLanguages => LocalizationImpl.preferredAudioLanguages T H
  | presentationLanguage => LocalizationImpl.presentationLanguage T H
  | ready => MetricsImpl.ready H
  | signIn => MetricsImpl.signIn H
  | signOut => MetricsImpl.signOut H
  | connected => NetworkImpl.connected T H
  | focused => PresentationImpl.focused T H
  | memoryUsage => StatsImpl.memoryUsage T H

/-- What the method returns. The metrics and `close` invoke the request they build; `watched` and
`watchedV2` get a boolean. -/
def Call.result : (c : Call) → Except Error c.reply.Value
  | .startContent entityId agePolicy =>
    H.invoke (MetricsImpl.startContent T entityId agePolicy)
  | .stopContent entityId agePolicy =>
    H.invoke (MetricsImpl.stopContent T entityId agePolicy)
  | .page pageId agePolicy => H.invoke (MetricsImpl.page T pageId agePolicy)
  | .error type code description visible params agePolicy =>
    H.invoke (MetricsImpl.error T type code description visible params agePolicy)
  | .mediaLoadStart entityId agePolicy =>
    H.invoke (MetricsImpl.mediaLoadStart T entityId agePolicy)
  | .mediaPlay entityId agePolicy =>
    H.invoke (MetricsImpl.mediaPlay T entityId agePolicy)
  | .mediaPlaying entityId agePolicy =>
    H.invoke (MetricsImpl.mediaPlaying T entityId agePolicy)
  | .mediaPause entityId agePolicy =>
    H.invoke (MetricsImpl.mediaPause T entityId agePolicy)
  | .mediaWaiting entityId agePolicy =>
    H.invoke (MetricsImpl.mediaWaiting T entityId agePolicy)
  | .mediaSeeking entityId target agePolicy =>
    H.invoke (MetricsImpl.mediaSeeking T entityId target agePolicy)
  | .mediaSeeked entityId position agePolicy =>
    H.invoke (MetricsImpl.mediaSeeked T entityId position agePolicy)
  | .mediaRateChanged entityId rate agePolicy =>
    H.invoke (MetricsImpl.mediaRateChanged T entityId rate agePolicy)
  | .mediaRenditionChanged entityId bitrate width height profile agePolicy =>
    H.invoke (MetricsImpl.mediaRenditionChanged T entityId bitrate width height profile
      agePolicy)
  | .mediaEnded entityId agePolicy =>
    H.invoke (MetricsImpl.mediaEnded T entityId agePolicy)
  | .event schema data agePolicy =>
    H.invoke (MetricsImpl.event T schema data agePolicy)
  | .appInfo build => H.invoke (MetricsImpl.appInfo build)
  | .watched entityId progress completed watchedOn agePolicy =>
    H.get T.JSON_Boolean
      (DiscoveryImpl.watched T entityId progress completed watchedOn agePolicy)
  | .watchedV2 entityId progress completed watchedOn agePolicy =>
    H.get T.JSON_Boolean
      (DiscoveryImpl.watchedV2 T entityId progress completed watchedOn agePolicy)
  | .listVoices language => TextToSpeechImpl.listVoices T H language
  | .speak text => TextToSpeechImpl.speak T H text
  | .pause speechId => TextToSpeechImpl.pause T H speechId
  | .resume speechId => TextToSpeechImpl.resume T H speechId
  | .cancel speechId => TextToSpeechImpl.cancel T H speechId
  | .getSpeechState speechId => TextToSpeechImpl.getSpeechState T H speechId
  | .close reason => H.invoke (LifecycleImpl.close T reason)

end

/-- A call of any method that calls the platform. -/
inductive ApiCall
  | plain (p : PlainCall)
  | call (c : Call)

namespace ApiCall

def reply : ApiCall → Reply
  | plain p => p.reply
  | call c => c.reply

/-- What the call hands to the helper; a getter without parameters hands over the default. -/
def request : ApiCall → Request
  | plain .ready => ⟨"Metrics.ready", .null⟩
  | plain .signIn => ⟨"Metrics.signIn", .null⟩
  | plain .signOut => ⟨"Metrics.signOut", .null⟩
  | plain p => ⟨p.documentedName, H.parameters⟩
  | call c => c.request T

/-- What the call returns. -/
def result : (a : ApiCall) → Except Error a.reply.Value
  | plain p => p.result T H
  | call c => c.result T H

/-- What the call returns, where the kind of its reply is known. -/
def resultAs {k : Reply} (a : ApiCall) (h : a.reply = k) : Except Error k.Value := h ▸ a.result T H

variable {T H}

/-- Every method hands its request and its decoder to the helper. -/
theorem result_eq (a : ApiCall) : a.result T H = a.reply.ask T H (a.request T H) := by
  cases a with
  | plain p => cases p <;> rfl
  | call c => cases c <;> rfl

theorem resultAs_eq {k : Reply} {a : ApiCall} (h : a.reply = k) :
    a.resultAs T H h = k.ask T H (a.request T H) := by
  subst h
  exact result_eq a

theorem methodName_request_plain (p : PlainCall) :
    ((plain p).request T H).methodName = p.documentedName := by
  cases p <;> rfl

end ApiCall

end Firebolt
