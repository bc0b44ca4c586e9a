import FireboltClient.Requests

/-!
# The interfaces

The getters, the subscriptions, the metrics without parameters, and the accessor that owns the
interfaces. `M.subscribe i` is the `SubscriptionManager` that the implementation of `i` builds with
its own address.
-/

namespace Firebolt

variable (T : JsonTypes) (H : IHelper) {ω : Type} (M : SubscriptionManager ω)

/-- The result of subscribing: the id of the new subscription, or an error. -/
abbrev SubscriptionManager.Subscribe : Type := M.State → Except Error SubscriptionId × M.State

namespace Accessibility.AccessibilityImpl

def audioDescription : Except Error Bool :=
  H.get T.JSON_Boolean ⟨"Accessibility.audioDescription", H.parameters⟩

def closedCaptionsSettings : Except Error ClosedCaptionsSettings :=
  H.get (T.object JsonData.ClosedCaptionsSettings)
    ⟨"Accessibility.closedCaptionsSettings", H.parameters⟩

def highContrastUI : Except Error Bool :=
  H.get T.JSON_Boolean ⟨"Accessibility.highContrastUI", H.parameters⟩

def voiceGuidanceSettings : Except Error VoiceGuidanceSettings :=
  H.get (T.object JsonData.VoiceGuidanceSettings)
    ⟨"Accessibility.voiceGuidanceSettings", H.parameters⟩

def subscribeOnAudioDescriptionChanged (notification : Bool → ω) : M.Subscribe :=
  M.subscribe .Accessibility T.JSON_Boolean "Accessibility.onAudioDescriptionChanged" notification

def subscribeOnClosedCaptionsSettingsChanged (notification : ClosedCaptionsSettings → ω) :
    M.Subscribe :=
  M.subscribe .Accessibility (T.object JsonData.ClosedCaptionsSettings)
    "Accessibility.onClosedCaptionsSettingsChanged" notification

def subscribeOnHighContrastUIChanged (notification : Bool → ω) : M.Subscribe :=
  M.subscribe .Accessibility T.JSON_Boolean "Accessibility.onHighContrastUIChanged" notification

def subscribeOnVoiceGuidanceSettingsChanged (notification : VoiceGuidanceSettings → ω) :
    M.Subscribe :=
  M.subscribe .Accessibility (T.object JsonData.VoiceGuidanceSettings)
    "Accessibility.onVoiceGuidanceSettingsChanged" notification

def unsubscribe (id : SubscriptionId) (s : M.State) : Except Error Unit × M.State :=
  M.unsubscribe .Accessibility id s

def unsubscribeAll (s : M.State) : M.State :=
  M.unsubscribeAll .Accessibility s

end Accessibility.AccessibilityImpl

namespace Actions.ActionsImpl

def intent : Except Error String :=
  H.get T.JSON_String ⟨"Actions.intent", H.parameters⟩

def subscribeOnIntent (notification : String → ω) : M.Subscribe :=
  M.subscribe .Actions T.JSON_String "Actions.onIntent" notification

/-- `IActions` gives `subscribeOnIntent` a second name. -/
def subscribeOnIntentChanged (notification : String → ω) : M.Subscribe :=
  subscribeOnIntent T M notification

def unsubscribe (id : SubscriptionId) (s : M.State) : Except Error Unit × M.State :=
  M.unsubscribe .Actions id s

def unsubscribeAll (s : M.State) : M.State :=
  M.unsubscribeAll .Actions s

end Actions.ActionsImpl

namespace Advertising.AdvertisingImpl

def advertisingId : Except Error Ifa :=
  H.get (T.object JsonData.IfaJson) ⟨"Advertising.advertisingId", H.parameters⟩

end Advertising.AdvertisingImpl

namespace Device.DeviceImpl

def chipsetId : Except Error String :=
  H.get T.JSON_String ⟨"Device.chipsetId", H.parameters⟩

def deviceClass : Except Error DeviceClass :=
  H.get (JsonData.DeviceClassJson T) ⟨"Device.deviceClass", H.parameters⟩

def hdr : Except Error HDRFormat :=
  H.get (T.object JsonData.HDRFormat) ⟨"Device.hdr", H.parameters⟩

def timeInActiveState : Except Error UInt32 :=
  H.get T.JSON_Unsigned ⟨"Device.timeInActiveState", H.parameters⟩

def uid : Except Error String :=
  H.get T.JSON_String ⟨"Device.uid", H.parameters⟩

def uptime : Except Error UInt32 :=
  H.get T.JSON_Unsigned ⟨"Device.uptime", H.parameters⟩

def subscribeOnHdrChanged (notification : HDRFormat → ω) : M.Subscribe :=
  M.subscribe .Device (T.object JsonData.HDRFormat) "Device.onHdrChanged" notification

def unsubscribe (id : SubscriptionId) (s : M.State) : Except Error Unit × M.State :=
  M.unsubscribe .Device id s

def unsubscribeAll (s : M.State) : M.State :=
  M.unsubscribeAll .Device s

end Device.DeviceImpl

namespace Display.DisplayImpl

def edid : Except Error String :=
  H.get T.JSON_String ⟨"Display.edid", H.parameters⟩

def maxResolution : Except Error DisplaySize :=
  H.get (T.object (JsonData.DisplaySizeJson T)) ⟨"Display.maxResolution", H.parameters⟩

def size : Except Error DisplaySize :=
  H.get (T.object (JsonData.DisplaySizeJson T)) ⟨"Display.size", H.parameters⟩

end Display.DisplayImpl

namespace Lifecycle.LifecycleImpl

def state : Except Error LifecycleState :=
  H.get (JsonData.LifecycleState T) ⟨"Lifecycle2.state", H.parameters⟩

def subscribeOnStateChanged (notification : List StateChange → ω) : M.Subscribe :=
  M.subscribe .Lifecycle (T.NL_Json_Array (T.object (JsonData.StateChange T)))
    "Lifecycle2.onStateChanged" notification

def unsubscribe (id : SubscriptionId) (s : M.State) : Except Error Unit × M.State :=
  M.unsubscribe .Lifecycle id s

def unsubscribeAll (s : M.State) : M.State :=
  M.unsubscribeAll .Lifecycle s

end Lifecycle.LifecycleImpl

namespace Localization.LocalizationImpl

def country : Except Error String :=
  H.get T.JSON_String ⟨"Localization.country", H.parameters⟩

def preferredAudioLanguages : Except Error (List String) :=
  H.get (T.NL_Json_Array T.JSON_String) ⟨"Localization.preferredAudioLanguages", H.parameters⟩

def presentationLanguage : Except Error String :=
  H.get T.JSON_String ⟨"Localization.presentationLanguage", H.parameters⟩

def subscribeOnCountryChanged (notification : String → ω) : M.Subscribe :=
  M.subscribe .Localization T.JSON_String "Localization.onCountryChanged" notification

def subscribeOnPreferredAudioLanguagesChanged (notification : List String → ω) : M.Subscribe :=
  M.subscribe .Localization (T.NL_Json_Array T.JSON_String)
    "Localization.onPreferredAudioLanguagesChanged" notification

def subscribeOnPresentationLanguageChanged (notification : String → ω) : M.Subscribe :=
  M.subscribe .Localization T.JSON_String "Localization.onPresentationLanguageChanged"
    notification

def unsubscribe (id : SubscriptionId) (s : M.State) : Except Error Unit × M.State :=
  M.unsubscribe .Localization id s

def unsubscribeAll (s : M.State) : M.State :=
  M.unsubscribeAll .Localization s

end Localization.LocalizationImpl

namespace Metrics.MetricsImpl

def ready : Except Error Unit := H.invoke ⟨"Metrics.ready", .null⟩

def signIn : Except Error Unit := H.invoke ⟨"Metrics.signIn", .null⟩

def signOut : Except Error Unit := H.invoke ⟨"Metrics.signOut", .null⟩

end Metrics.MetricsImpl

namespace Network.NetworkImpl

def connected : Except Error Bool :=
  H.get T.JSON_Boolean ⟨"Network.connected", H.parameters⟩

def subscribeOnConnectedChanged (notification : Bool → ω) : M.Subscribe :=
  M.subscribe .Network T.JSON_Boolean "Network.onConnectedChanged" notification

def unsubscribe (id : SubscriptionId) (s : M.State) : Except Error Unit × M.State :=
  M.unsubscribe .Network id s

def unsubscribeAll (s : M.State) : M.State :=
  M.unsubscribeAll .Network s

end Network.NetworkImpl

namespace Presentation.PresentationImpl

def focused : Except Error Bool :=
  H.get T.JSON_Boolean ⟨"Presentation.focused", H.parameters⟩

def subscribeOnFocusedChanged (notification : Bool → ω) : M.Subscribe :=
  M.subscribe .Presentation T.JSON_Boolean "Presentation.onFocusedChanged" notification

def unsubscribe (id : SubscriptionId) (s : M.State) : Except Error Unit × M.State :=
  M.unsubscribe .Presentation id s

def unsubscribeAll (s : M.State) : M.State :=
  M.unsubscribeAll .Presentation s

end Presentation.PresentationImpl

namespace Stats.StatsImpl

def memoryUsage : Except Error MemoryInfo :=
  H.get (T.object (JsonData.MemoryInfo T)) ⟨"Stats.memoryUsage", H.parameters⟩

end Stats.StatsImpl

namespace TextToSpeech.TextToSpeechImpl

def listVoices (language : String) : Except Error ListVoicesResponse :=
  H.get (T.object (JsonData.ListVoicesResponse T)) (listVoicesRequest language)

def speak (text : String) : Except Error SpeechResponse :=
  H.get (T.object (JsonData.SpeechResponse T)) (speakRequest text)

def pause (speechId : SpeechId) : Except Error TTSStatusResponse :=
  H.get (T.object (JsonData.TTSStatusResponse T)) (pauseRequest speechId)

def resume (speechId : SpeechId) : Except Error TTSStatusResponse :=
  H.get (T.object (JsonData.TTSStatusResponse T)) (resumeRequest speechId)

def cancel (speechId : SpeechId) : Except Error TTSStatusResponse :=
  H.get (T.object (JsonData.TTSStatusResponse T)) (cancelRequest speechId)

def getSpeechState (speechId : SpeechId) : Except Error SpeechStateResponse :=
  H.get (T.object (JsonData.SpeechStateResponse T)) (getSpeechStateRequest speechId)

/-- The eight speech events have one decoder. -/
def subscribeOnSpeechEvent (eventName : String) (notification : SpeechIdEvent → ω) :
    M.Subscribe :=
  M.subscribe .TextToSpeech (T.object (JsonData.SpeechIdEvent T)) eventName notification

def subscribeOnWillSpeak (notification : SpeechIdEvent → ω) : M.Subscribe :=
  subscribeOnSpeechEvent T M "TextToSpeech.onWillspeak" notification

def subscribeOnSpeechStart (notification : SpeechIdEvent → ω) : M.Subscribe :=
  subscribeOnSpeechEvent T M "TextToSpeech.onSpeechstart" notification

def subscribeOnSpeechPause (notification : SpeechIdEvent → ω) : M.Subscribe :=
  subscribeOnSpeechEvent T M "TextToSpeech.onSpeechpause" notification

def subscribeOnSpeechResume (notification : SpeechIdEvent → ω) : M.Subscribe :=
  subscribeOnSpeechEvent T M "TextToSpeech.onSpeechresume" notification

def subscribeOnSpeechComplete (notification : SpeechIdEvent → ω) : M.Subscribe :=
  subscribeOnSpeechEvent T M "TextToSpeech.onSpeechcomplete" notification

def subscribeOnSpeechInterrupted (notification : SpeechIdEvent → ω) : M.Subscribe :=
  subscribeOnSpeechEvent T M "TextToSpeech.onSpeechinterrupted" notification

def subscribeOnNetworkError (notification : SpeechIdEvent → ω) : M.Subscribe :=
  subscribeOnSpeechEvent T M "TextToSpeech.onNetworkerror" notification

def subscribeOnPlaybackError (notification : SpeechIdEvent → ω) : M.Subscribe :=
  subscribeOnSpeechEvent T M "TextToSpeech.onPlaybackerror" notification

def unsubscribe (id : SubscriptionId) (s : M.State) : Except Error Unit × M.State :=
  M.unsubscribe .TextToSpeech id s

def unsubscribeAll (s : M.State) : M.State :=
  M.unsubscribeAll .TextToSpeech s

end TextToSpeech.TextToSpeechImpl

/-! ## The accessor -/

namespace FireboltAccessorImpl

/-- The teardown, interface by interface. -/
def unsubscribeAll (s : M.State) : M.State :=
  let s := Accessibility.AccessibilityImpl.unsubscribeAll M s
  let s := Actions.ActionsImpl.unsubscribeAll M s
  let s := Lifecycle.LifecycleImpl.unsubscribeAll M s
  let s := Localization.LocalizationImpl.unsubscribeAll M s
  let s := Network.NetworkImpl.unsubscribeAll M s
  let s := Presentation.PresentationImpl.unsubscribeAll M s
  TextToSpeech.TextToSpeechImpl.unsubscribeAll M s

/-- `Disconnect` hands over to `Gateway::disconnect`, which belongs to the transport, in the state
that the teardown leaves. -/
def Disconnect {α : Type} (disconnect : M.State → α) (s : M.State) : α :=
  disconnect (unsubscribeAll M s)

end FireboltAccessorImpl

end Firebolt
