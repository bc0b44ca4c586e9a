import FireboltClient.Interfaces
import FireboltClient.Decoders
import Mathlib.Data.List.Nodup

/-!
# Events

The twenty events, each with what the OpenRPC files say of it (its name and its interface) and
with what the client does about it (its decoder and its `subscribeOn…` method).
-/

namespace Firebolt

inductive Event
  | AudioDescriptionChanged
  | ClosedCaptionsSettingsChanged
  | HighContrastUIChanged
  | VoiceGuidanceSettingsChanged
  | Intent
  | HdrChanged
  | StateChanged
  | CountryChanged
  | PreferredAudioLanguagesChanged
  | PresentationLanguageChanged
  | ConnectedChanged
  | FocusedChanged
  | WillSpeak
  | SpeechStart
  | SpeechPause
  | SpeechResume
  | SpeechComplete
  | SpeechInterrupted
  | NetworkError
  | PlaybackError
  deriving DecidableEq, Repr

namespace Event

/-- The name of the event in the OpenRPC files. -/
def documentedName : Event → String
  | AudioDescriptionChanged => "Accessibility.onAudioDescriptionChanged"
  | ClosedCaptionsSettingsChanged => "Accessibility.onClosedCaptionsSettingsChanged"
  | HighContrastUIChanged => "Accessibility.onHighContrastUIChanged"
  | VoiceGuidanceSettingsChanged => "Accessibility.onVoiceGuidanceSettingsChanged"
  | Intent => "Actions.onIntent"
  | HdrChanged => "Device.onHdrChanged"
  | StateChanged => "Lifecycle2.onStateChanged"
  | CountryChanged => "Localization.onCountryChanged"
  | PreferredAudioLanguagesChanged => "Localization.onPreferredAudioLanguagesChanged"
  | PresentationLanguageChanged => "Localization.onPresentationLanguageChanged"
  | ConnectedChanged => "Network.onConnectedChanged"
  | FocusedChanged => "Presentation.onFocusedChanged"
  | WillSpeak => "TextToSpeech.onWillspeak"
  | SpeechStart => "TextToSpeech.onSpeechstart"
  | SpeechPause => "TextToSpeech.onSpeechpause"
  | SpeechResume => "TextToSpeech.onSpeechresume"
  | SpeechComplete => "TextToSpeech.onSpeechcomplete"
  | SpeechInterrupted => "TextToSpeech.onSpeechinterrupted"
  | NetworkError => "TextToSpeech.onNetworkerror"
  | PlaybackError => "TextToSpeech.onPlaybackerror"

def all : List Event :=
  [AudioDescriptionChanged, ClosedCaptionsSettingsChanged, HighContrastUIChanged,
    VoiceGuidanceSettingsChanged, Intent, HdrChanged, StateChanged, CountryChanged,
    PreferredAudioLanguagesChanged, PresentationLanguageChanged, ConnectedChanged, FocusedChanged,
    WillSpeak, SpeechStart, SpeechPause, SpeechResume, SpeechComplete, SpeechInterrupted,
    NetworkError, PlaybackError]

theorem mem_all (e : Event) : e ∈ all := by
  cases e <;> decide

/-- The interface whose event it is. -/
def interface : Event → Interface
  | AudioDescriptionChanged | ClosedCaptionsSettingsChanged | HighContrastUIChanged
  | VoiceGuidanceSettingsChanged => .Accessibility
  | Intent => .Actions
  | HdrChanged => .Device
  | StateChanged => .Lifecycle
  | CountryChanged | PreferredAudioLanguagesChanged | PresentationLanguageChanged =>
    .Localization
  | ConnectedChanged => .Network
  | FocusedChanged => .Presentation
  | WillSpeak | SpeechStart | SpeechPause | SpeechResume | SpeechComplete | SpeechInterrupted
  | NetworkError | PlaybackError => .TextToSpeech

/-- The data members of the event's decoder. -/
abbrev Members : Event → Type
  | AudioDescriptionChanged | HighContrastUIChanged | ConnectedChanged | FocusedChanged => Bool
  | ClosedCaptionsSettingsChanged => ObjectDecoder.ClosedCaptionsSettings.Members
  | VoiceGuidanceSettingsChanged => ObjectDecoder.VoiceGuidanceSettings.Members
  | Intent | CountryChanged | PresentationLanguageChanged => String
  | HdrChanged => ObjectDecoder.HDRFormat.Members
  | StateChanged => List Lifecycle.StateChange
  | PreferredAudioLanguagesChanged => List String
  | WillSpeak | SpeechStart | SpeechPause | SpeechResume | SpeechComplete | SpeechInterrupted
  | NetworkError | PlaybackError => ObjectDecoder.SpeechIdEvent.Members

/-- What the callback receives. -/
abbrev Value : Event → Type
  | AudioDescriptionChanged | HighContrastUIChanged | ConnectedChanged | FocusedChanged => Bool
  | ClosedCaptionsSettingsChanged => Accessibility.ClosedCaptionsSettings
  | VoiceGuidanceSettingsChanged => Accessibility.VoiceGuidanceSettings
  | Intent | CountryChanged | PresentationLanguageChanged => String
  | HdrChanged => Device.HDRFormat
  | StateChanged => List Lifecycle.StateChange
  | PreferredAudioLanguagesChanged => List String
  | WillSpeak | SpeechStart | SpeechPause | SpeechResume | SpeechComplete | SpeechInterrupted
  | NetworkError | PlaybackError => TextToSpeech.SpeechIdEvent

variable (T : JsonTypes)

/-- The decoder of the payload. -/
def cls : (e : Event) → JsonClass e.Members e.Value
  | AudioDescriptionChanged | HighContrastUIChanged | ConnectedChanged | FocusedChanged =>
    T.JSON_Boolean
  | ClosedCaptionsSettingsChanged => T.object (ObjectDecoder.ClosedCaptionsSettings.cls T)
  | VoiceGuidanceSettingsChanged => T.object (ObjectDecoder.VoiceGuidanceSettings.cls T)
  | Intent | CountryChanged | PresentationLanguageChanged => T.JSON_String
  | HdrChanged => T.object (ObjectDecoder.HDRFormat.cls T)
  | StateChanged => T.NL_Json_Array (T.object (ObjectDecoder.StateChange.cls T))
  | PreferredAudioLanguagesChanged => T.NL_Json_Array T.JSON_String
  | WillSpeak | SpeechStart | SpeechPause | SpeechResume | SpeechComplete | SpeechInterrupted
  | NetworkError | PlaybackError => T.object (ObjectDecoder.SpeechIdEvent.cls T)

/-- The decoder class of `json_types` that decodes the whole payload, where there is one. -/
def decoder? : Event → Option Decoder
  | ClosedCaptionsSettingsChanged => some (.object .ClosedCaptionsSettings)
  | VoiceGuidanceSettingsChanged => some (.object .VoiceGuidanceSettings)
  | HdrChanged => some (.object .HDRFormat)
  | WillSpeak | SpeechStart | SpeechPause | SpeechResume | SpeechComplete | SpeechInterrupted
  | NetworkError | PlaybackError => some (.object .SpeechIdEvent)
  | AudioDescriptionChanged | HighContrastUIChanged | Intent | StateChanged | CountryChanged
  | PreferredAudioLanguagesChanged | PresentationLanguageChanged | ConnectedChanged
  | FocusedChanged => none

instance : (e : Event) → Inhabited e.Members
  | AudioDescriptionChanged | ClosedCaptionsSettingsChanged | HighContrastUIChanged
  | VoiceGuidanceSettingsChanged | Intent | HdrChanged | StateChanged | CountryChanged
  | PreferredAudioLanguagesChanged | PresentationLanguageChanged | ConnectedChanged
  | FocusedChanged | WillSpeak | SpeechStart | SpeechPause | SpeechResume | SpeechComplete
  | SpeechInterrupted | NetworkError | PlaybackError => ⟨default⟩

variable {ω : Type} (M : SubscriptionManager ω)

open Accessibility Actions Device Lifecycle Firebolt.Localization Network Presentation
  TextToSpeech in
/-- The method that subscribes to the event. -/
def subscribe : (e : Event) → (e.Value → ω) → M.Subscribe
  | AudioDescriptionChanged => AccessibilityImpl.subscribeOnAudioDescriptionChanged T M
  | ClosedCaptionsSettingsChanged =>
    AccessibilityImpl.subscribeOnClosedCaptionsSettingsChanged T M
  | HighContrastUIChanged => AccessibilityImpl.subscribeOnHighContrastUIChanged T M
  | VoiceGuidanceSettingsChanged =>
    AccessibilityImpl.subscribeOnVoiceGuidanceSettingsChanged T M
  | Intent => ActionsImpl.subscribeOnIntent T M
  | HdrChanged => DeviceImpl.subscribeOnHdrChanged T M
  | StateChanged => LifecycleImpl.subscribeOnStateChanged T M
  | CountryChanged => LocalizationImpl.subscribeOnCountryChanged T M
  | PreferredAudioLanguagesChanged =>
    LocalizationImpl.subscribeOnPreferredAudioLanguagesChanged T M
  | PresentationLanguageChanged => LocalizationImpl.subscribeOnPresentationLanguageChanged T M
  | ConnectedChanged => NetworkImpl.subscribeOnConnectedChanged T M
  | FocusedChanged => PresentationImpl.subscribeOnFocusedChanged T M
  | WillSpeak => TextToSpeechImpl.subscribeOnWillSpeak T M
  | SpeechStart => TextToSpeechImpl.subscribeOnSpeechStart T M
  | SpeechPause => TextToSpeechImpl.subscribeOnSpeechPause T M
  | SpeechResume => TextToSpeechImpl.subscribeOnSpeechResume T M
  | SpeechComplete => TextToSpeechImpl.subscribeOnSpeechComplete T M
  | SpeechInterrupted => TextToSpeechImpl.subscribeOnSpeechInterrupted T M
  | NetworkError => TextToSpeechImpl.subscribeOnNetworkError T M
  | PlaybackError => TextToSpeechImpl.subscribeOnPlaybackError T M

variable {T M}

/-- Every method passes the owner, the decoder and the documented name of its event. -/
theorem subscribe_eq (e : Event) (notification : e.Value → ω) :
    e.subscribe T M notification =
      M.subscribe e.interface (e.cls T) e.documentedName notification := by
  cases e <;> rfl

/-- No two events share a name. -/
theorem documentedName_injective : Function.Injective documentedName := by
  have hnodup : (all.map documentedName).Nodup := by simp [all, documentedName]
  intro e e' h
  exact List.inj_on_of_nodup_map hnodup (mem_all e) (mem_all e') h

theorem definite (hT : T.ChecksExactly) (hA : T.DecodesArrays) (hS : T.DecodesScalars) :
    (e : Event) → (e.cls T).Definite
  | AudioDescriptionChanged | HighContrastUIChanged | ConnectedChanged | FocusedChanged =>
    hS.boolean
  | ClosedCaptionsSettingsChanged => ObjectDecoder.definite hT .ClosedCaptionsSettings
  | VoiceGuidanceSettingsChanged => ObjectDecoder.definite hT .VoiceGuidanceSettings
  | Intent | CountryChanged | PresentationLanguageChanged => hS.string
  | HdrChanged => ObjectDecoder.definite hT .HDRFormat
  | StateChanged => hA.definite (ObjectDecoder.definite hT .StateChange)
  | PreferredAudioLanguagesChanged => hA.definite hS.string
  | WillSpeak | SpeechStart | SpeechPause | SpeechResume | SpeechComplete | SpeechInterrupted
  | NetworkError | PlaybackError => ObjectDecoder.definite hT .SpeechIdEvent

theorem definite_of_decoder? (hT : T.ChecksExactly) {e : Event} {d : Decoder}
    (h : e.decoder? = some d) : (e.cls T).Definite := by
  cases e <;> cases h <;> exact Decoder.definite hT (.object _)

/-- The event's decoder returns just when that class does. -/
theorem exists_decodes_iff {e : Event} {d : Decoder} (h : e.decoder? = some d) (json : Json) :
    (∃ v, (e.cls T).Decodes json v) ↔ ∃ v, (d.cls T).Decodes json v := by
  cases e <;> cases h <;> exact Iff.rfl

/-- Once subscribed, an event also runs the new notification, last and once, on what the decoder
makes of the payload; it does not run it when the decoder throws. -/
theorem onEvent_of_subscribe (hM : M.Lawful) {e : Event} (hdef : (e.cls T).Definite)
    {notification : e.Value → ω} {s s' : M.State} {id : SubscriptionId}
    (hsub : e.subscribe T M notification s = (.ok id, s')) (json : Json) :
    (M.onEvent e.documentedName json s').1 =
      (M.onEvent e.documentedName json s).1 ++
        (((e.cls T).value? json).map notification).toList := by
  obtain ⟨-, -, handle, hhandle, hstore⟩ := hM.subscribe_ok (subscribe_eq e notification ▸ hsub)
  rw [(hM.onEvent _ _ _).1, (hM.onEvent _ _ _).1, hstore, List.filter_append,
    List.filterMap_append, ← hhandle.handle_eq hdef]
  rcases hpayload : handle json with _ | w <;> simp [hpayload]

/-- Once subscribed, the new notification runs just when the decoder returns. -/
theorem invoked_iff (hM : M.Lawful) {e : Event} (hdef : (e.cls T).Definite)
    {notification : e.Value → ω} {s s' : M.State} {id : SubscriptionId}
    (hsub : e.subscribe T M notification s = (.ok id, s')) (json : Json) :
    (∃ v, (M.onEvent e.documentedName json s').1 =
        (M.onEvent e.documentedName json s).1 ++ [notification v]) ↔
      ∃ v, (e.cls T).Decodes json v := by
  rw [onEvent_of_subscribe hM hdef hsub]
  rcases hdef json with ⟨v, hv⟩ | ht
  · rw [hv.value?_eq]
    exact ⟨fun _ => ⟨v, hv⟩, fun _ => ⟨v, rfl⟩⟩
  · rw [ht.value?_eq]
    constructor
    · rintro ⟨v, hv⟩
      simp at hv
    · rintro ⟨v, hv⟩
      exact absurd (hv default) ht.decode_ne_ok

end Event

end Firebolt
