import FireboltClient.Acceptance

/-!
# Invalid event payloads

For every event the payloads on which its callback runs although the schema forbids them. The
decoders convert types and look names up; they check no range, no pattern and no length, and the
conversion to an unsigned integer also takes booleans and fractions.
-/

namespace Firebolt

open Json

variable {T : JsonTypes} {json : Json}

/-- The schema of the payload, for the events that a decoder of `json_types` decodes. -/
def Event.schema? : Event → Option Schema
  | ClosedCaptionsSettingsChanged => some OpenRpc.ClosedCaptionsSettings
  | VoiceGuidanceSettingsChanged => some OpenRpc.VoiceGuidanceSettings
  | HdrChanged => some OpenRpc.HDRFormatMap
  | StateChanged => some OpenRpc.StateHistory
  | WillSpeak | SpeechStart | SpeechPause | SpeechResume | SpeechComplete | SpeechInterrupted
  | NetworkError | PlaybackError => some OpenRpc.SpeechIdEvent
  | AudioDescriptionChanged | HighContrastUIChanged | Intent | CountryChanged
  | PreferredAudioLanguagesChanged | PresentationLanguageChanged | ConnectedChanged
  | FocusedChanged => none

/-! ## Closed captions -/

/-- Some language is not made of three letters, and nothing else is wrong. -/
def BadLanguage (json : Json) : Prop :=
  ∃ (b : Bool) (ws : List String), json.find? "enabled" = some (.boolean b) ∧
    json.find? "preferredLanguages" = some (.array (ws.map string)) ∧
      ∃ w ∈ ws, OpenRpc.isLanguageCode w = false

theorem closedCaptionsSettings_valid_iff {b : Bool} {ws : List String}
    (henabled : json.find? "enabled" = some (.boolean b))
    (hlanguages : json.find? "preferredLanguages" = some (.array (ws.map string))) :
    OpenRpc.ClosedCaptionsSettings json = true ↔ ∀ w ∈ ws, OpenRpc.isLanguageCode w = true := by
  have hobject : json.isObject = true := isObject_of_find? (Option.isSome_of_eq_some henabled)
  simp [OpenRpc.ClosedCaptionsSettings, Schema.object, Schema.boolean, Schema.array,
    OpenRpc.ISO639_2Language, Schema.stringWith, hobject, henabled, hlanguages, isBoolean]

theorem badLanguage_iff (hT : T.ChecksExactly) :
    (∃ v, (T.object Accessibility.JsonData.ClosedCaptionsSettings).Decodes json v) ∧
      ¬ OpenRpc.ClosedCaptionsSettings json = true ↔ BadLanguage json := by
  have hdef : (T.object Accessibility.JsonData.ClosedCaptionsSettings).Definite :=
    ObjectDecoder.definite hT .ClosedCaptionsSettings
  rw [hdef.exists_decodes_iff default]
  simp only [Accessibility.JsonData.decode_closedCaptionsSettings hT, reads_getBool,
    reads_getStrings]
  constructor
  · rintro ⟨⟨v, henabled, hlanguages⟩, hinvalid⟩
    rw [closedCaptionsSettings_valid_iff henabled hlanguages] at hinvalid
    exact ⟨v.enabled, v.preferredLanguages, henabled, hlanguages, by simpa using hinvalid⟩
  · rintro ⟨b, ws, henabled, hlanguages, w, hw, hbad⟩
    refine ⟨⟨⟨b, ws⟩, henabled, hlanguages⟩, fun hvalid => ?_⟩
    rw [closedCaptionsSettings_valid_iff henabled hlanguages] at hvalid
    exact absurd (hvalid w hw) (by rw [hbad]; exact Bool.false_ne_true)

/-! ## Voice guidance -/

/-- The rate is a number, or an infinity or NaN, out of range, and nothing else is wrong. -/
def BadRate (json : Json) : Prop :=
  ∃ (b b' : Bool) (v : Json), json.find? "enabled" = some (.boolean b) ∧
    json.find? "navigationHints" = some (.boolean b') ∧ json.find? "rate" = some v ∧
      v.isNumber = true ∧ ¬ ∃ q, v.number? = some q ∧ 1 / 10 ≤ q ∧ q ≤ 10

theorem voiceGuidanceSettings_valid_iff {b b' : Bool} {v : Json}
    (henabled : json.find? "enabled" = some (.boolean b))
    (hhints : json.find? "navigationHints" = some (.boolean b'))
    (hrate : json.find? "rate" = some v) :
    OpenRpc.VoiceGuidanceSettings json = true ↔
      ∃ q, v.number? = some q ∧ 1 / 10 ≤ q ∧ q ≤ 10 := by
  have hobject : json.isObject = true := isObject_of_find? (Option.isSome_of_eq_some henabled)
  rw [← Schema.number_iff]
  simp [OpenRpc.VoiceGuidanceSettings, Schema.object, Schema.boolean, OpenRpc.SpeechRate, hobject,
    henabled, hhints, hrate, isBoolean]

theorem badRate_iff (hT : T.ChecksExactly) :
    (∃ v, (T.object Accessibility.JsonData.VoiceGuidanceSettings).Decodes json v) ∧
      ¬ OpenRpc.VoiceGuidanceSettings json = true ↔ BadRate json := by
  have hdef : (T.object Accessibility.JsonData.VoiceGuidanceSettings).Definite :=
    ObjectDecoder.definite hT .VoiceGuidanceSettings
  rw [hdef.exists_decodes_iff default]
  simp only [Accessibility.JsonData.decode_voiceGuidanceSettings hT, reads_getBool]
  constructor
  · rintro ⟨⟨r, henabled, ⟨v, hrate, hget⟩, hhints⟩, hinvalid⟩
    rw [voiceGuidanceSettings_valid_iff henabled hhints hrate] at hinvalid
    exact ⟨_, _, v, henabled, hhints, hrate, exists_getDouble_iff.mp ⟨_, hget⟩, hinvalid⟩
  · rintro ⟨b, b', v, henabled, hhints, hrate, hnumber, hbad⟩
    obtain ⟨d, hget⟩ := exists_getDouble_iff.mpr hnumber
    refine ⟨⟨⟨b, d, b'⟩, henabled, ⟨v, hrate, hget⟩, hhints⟩, ?_⟩
    rwa [voiceGuidanceSettings_valid_iff henabled hhints hrate]

/-! ## HDR formats -/

theorem hdrFormatMap_valid (hT : T.ChecksExactly) {v : Device.HDRFormat}
    (h : (T.object Device.JsonData.HDRFormat).Decodes json v) :
    OpenRpc.HDRFormatMap json = true := by
  have hreads := (Device.JsonData.decode_hdrFormat hT).mp (h default)
  simp only [reads_getBool] at hreads
  obtain ⟨h₁, h₂, h₃, h₄⟩ := hreads
  have hobject : json.isObject = true := isObject_of_find? (Option.isSome_of_eq_some h₁)
  simp [OpenRpc.HDRFormatMap, Schema.object, Schema.boolean, hobject, h₁, h₂, h₃, h₄, isBoolean]

/-! ## Speech events -/

/-- The speech id is a boolean, or a number that is no integer. -/
def BadSpeechId (json : Json) : Prop :=
  ∃ v, json.find? "speechid" = some v ∧
    ((∃ b, v = .boolean b) ∨ v.isNumber = true ∧ ∀ n : ℤ, v.number? ≠ some (n : ℚ))

theorem speechIdEvent_valid_iff {v : Json} (hid : json.find? "speechid" = some v) :
    OpenRpc.SpeechIdEvent json = true ↔ ∃ n : ℤ, v.number? = some (n : ℚ) := by
  have hobject : json.isObject = true := isObject_of_find? (Option.isSome_of_eq_some hid)
  rw [← Schema.integer_iff]
  simp [OpenRpc.SpeechIdEvent, Schema.object, OpenRpc.SpeechId, hobject, hid]

theorem badSpeechId_iff (hT : T.ChecksExactly) :
    (∃ v, (T.object (TextToSpeech.JsonData.SpeechIdEvent T)).Decodes json v) ∧
      ¬ OpenRpc.SpeechIdEvent json = true ↔ BadSpeechId json := by
  have hdef : (T.object (TextToSpeech.JsonData.SpeechIdEvent T)).Definite :=
    ObjectDecoder.definite hT .SpeechIdEvent
  rw [hdef.exists_decodes_iff default]
  simp only [TextToSpeech.JsonData.decode_speechIdEvent hT]
  constructor
  · rintro ⟨⟨r, v, hid, hget⟩, hinvalid⟩
    rw [speechIdEvent_valid_iff hid, not_exists] at hinvalid
    have haccepts := exists_getUInt32_iff.mp ⟨_, hget⟩
    refine ⟨v, hid, ?_⟩
    rcases Bool.or_eq_true_iff.mp haccepts with hnumber | hboolean
    · exact Or.inr ⟨hnumber, hinvalid⟩
    · obtain ⟨b, hb⟩ := exists_getBool_iff.mpr hboolean
      exact Or.inl ⟨b, getBool_eq_ok.mp hb⟩
  · rintro ⟨v, hid, hbad⟩
    have haccepts : (v.isNumber || v.isBoolean) = true := by
      rcases hbad with ⟨b, rfl⟩ | ⟨hnumber, -⟩
      · rfl
      · rw [hnumber, Bool.true_or]
    obtain ⟨n, hget⟩ : ∃ n, v.getUInt32 T.beyond = .ok n := exists_getUInt32_iff.mpr haccepts
    refine ⟨⟨⟨n⟩, v, hid, hget⟩, ?_⟩
    rw [speechIdEvent_valid_iff hid, not_exists]
    rcases hbad with ⟨b, rfl⟩ | ⟨-, hbad⟩
    · exact fun n hn => absurd hn (by simp [number?])
    · exact hbad

/-! ## The lifecycle history -/

theorem lifecycleState_accepts_eq (v : Json) :
    Conversion.lifecycleState.accepts v = OpenRpc.LifecycleState v := by
  cases v with
  | string s => exact congrArg Option.isSome (lookup_lifecycleStateEnum s)
  | _ => rfl

theorem stateChange_valid (hT : T.ChecksExactly) (hL : T.LooksUp) {v}
    (h : (T.object (Lifecycle.JsonData.StateChange T)).Decodes json v) :
    OpenRpc.StateChange json = true := by
  have hconv : Convertible json ObjectDecoder.StateChange.fields :=
    (ObjectDecoder.StateChange.exists_decodes_iff hT hL json).mp ⟨v, h⟩
  obtain ⟨old, hold, haccepts⟩ := hconv ("oldState", .lifecycleState) List.mem_cons_self
  obtain ⟨new, hnew, haccepts'⟩ :=
    hconv ("newState", .lifecycleState) (List.mem_cons_of_mem _ List.mem_cons_self)
  have hobject : json.isObject = true := isObject_of_find? (Option.isSome_of_eq_some hold)
  rw [lifecycleState_accepts_eq] at haccepts haccepts'
  simp [OpenRpc.StateChange, Schema.object, hobject, hold, hnew, haccepts, haccepts']

/-- The history is empty, or no array at all although the transport's array decoder takes it. -/
def BadHistory (T : JsonTypes) (json : Json) : Prop :=
  json = .array [] ∨ (∀ xs, json ≠ .array xs) ∧
    ∃ v, (T.NL_Json_Array (T.object (Lifecycle.JsonData.StateChange T))).Decodes json v

theorem badHistory_iff (hT : T.ChecksExactly) (hL : T.LooksUp) (hA : T.DecodesArrays) :
    (∃ v, (T.NL_Json_Array (T.object (Lifecycle.JsonData.StateChange T))).Decodes json v) ∧
      ¬ OpenRpc.StateHistory json = true ↔ BadHistory T json := by
  have hdef : (T.object (Lifecycle.JsonData.StateChange T)).Definite :=
    ObjectDecoder.definite hT .StateChange
  by_cases harray : ∃ xs, json = .array xs
  · obtain ⟨xs, rfl⟩ := harray
    have hbad : BadHistory T (.array xs) ↔ xs = [] := by simp [BadHistory]
    have hvalid : OpenRpc.StateHistory (.array xs) = true ↔
        1 ≤ xs.length ∧ ∀ x ∈ xs, OpenRpc.StateChange x = true := by
      simp [OpenRpc.StateHistory, Schema.array]
    simp only [hbad, hvalid, hA.decodes_iff hdef, exists_forall₂_iff]
    constructor
    · rintro ⟨hdecodes, hinvalid⟩
      by_contra hne
      refine hinvalid ⟨List.length_pos_of_ne_nil hne, fun x hx => ?_⟩
      obtain ⟨v, hv⟩ := hdecodes x hx
      exact stateChange_valid hT hL hv
    · rintro rfl
      exact ⟨fun x hx => absurd hx List.not_mem_nil, fun h => absurd h.1 (by simp)⟩
  · have harray' : ∀ xs, json ≠ .array xs := not_exists.mp harray
    have hinvalid : ¬ OpenRpc.StateHistory json = true := by
      rintro hvalid
      obtain ⟨xs, rfl, -⟩ := Schema.array_iff.mp hvalid
      exact harray' xs rfl
    unfold BadHistory
    rw [and_iff_left hinvalid, or_iff_right (harray' []), and_iff_right harray']

/-! ## All events -/

/-- What is wrong with an invalid payload that runs the callback. -/
def Event.Overlooks (T : JsonTypes) (json : Json) : Event → Prop
  | ClosedCaptionsSettingsChanged => BadLanguage json
  | VoiceGuidanceSettingsChanged => BadRate json
  | StateChanged => BadHistory T json
  | WillSpeak | SpeechStart | SpeechPause | SpeechResume | SpeechComplete | SpeechInterrupted
  | NetworkError | PlaybackError => BadSpeechId json
  | _ => False

theorem Event.overlooks_iff (hT : T.ChecksExactly) (hL : T.LooksUp) (hA : T.DecodesArrays)
    {e : Event} {s : Schema} (hs : e.schema? = some s) :
    (∃ v, (e.cls T).Decodes json v) ∧ ¬ s json = true ↔ e.Overlooks T json := by
  cases e <;> cases hs
  case ClosedCaptionsSettingsChanged => exact badLanguage_iff hT
  case VoiceGuidanceSettingsChanged => exact badRate_iff hT
  case HdrChanged =>
    refine iff_of_false ?_ id
    rintro ⟨⟨v, hv⟩, hinvalid⟩
    exact hinvalid (hdrFormatMap_valid hT hv)
  case StateChanged => exact badHistory_iff hT hL hA
  all_goals exact badSpeechId_iff hT

theorem Event.definite_of_schema? (hT : T.ChecksExactly) (hA : T.DecodesArrays) {e : Event}
    {s : Schema} (hs : e.schema? = some s) : (e.cls T).Definite := by
  cases e <;> cases hs
  case StateChanged => exact hA.definite (ObjectDecoder.definite hT .StateChange)
  all_goals exact Event.definite_of_decoder? hT rfl

section

variable {ω : Type} {M : SubscriptionManager ω}

/-- After a subscription, an incoming payload that runs the callback is valid, but for the
payloads that the decoders overlook. -/
theorem invoked_valid_iff (hT : T.ChecksExactly) (hL : T.LooksUp) (hA : T.DecodesArrays)
    (hM : M.Lawful) {e : Event} {schema : Schema} (hschema : e.schema? = some schema)
    {notification : e.Value → ω} {s s' : M.State} {id : SubscriptionId}
    (hsub : e.subscribe T M notification s = (.ok id, s')) (json : Json) :
    ((∃ v, (M.onEvent e.documentedName json s').1 =
        (M.onEvent e.documentedName json s).1 ++ [notification v]) → schema json = true) ↔
      ¬ e.Overlooks T json := by
  have hdef : (e.cls T).Definite := Event.definite_of_schema? hT hA hschema
  rw [Event.invoked_iff hM hdef hsub, ← Event.overlooks_iff hT hL hA hschema, not_and, not_not]

end

/-- A history of one change. -/
theorem invoked_valid_oneChange :
    let M := SubscriptionManager.documented Unit 1
    let s' := (Event.subscribe .documented M .StateChanged (fun _ => ()) M.init).2
    let json : Json := .array [.object [("newState", .string "paused"),
      ("oldState", .string "initializing")]]
    (∃ _ : List Lifecycle.StateChange, (M.onEvent "Lifecycle2.onStateChanged" json s').1 =
      (M.onEvent "Lifecycle2.onStateChanged" json M.init).1 ++ [()]) →
        OpenRpc.StateHistory json = true := by
  intro M s' json
  have hvalid : ¬ Event.Overlooks .documented json .StateChanged := by
    simp [Event.Overlooks, BadHistory, json]
  exact (invoked_valid_iff JsonTypes.documented_checksExactly JsonTypes.documented_looksUp
    JsonTypes.documented_decodesArrays (SubscriptionManager.documented_lawful Unit 1) rfl rfl
    json).mpr hvalid

/-- A speech rate of 11, where the schema allows at most 10. -/
theorem invoked_rateEleven :
    let M := SubscriptionManager.documented Unit 1
    let s' := (Event.subscribe .documented M .VoiceGuidanceSettingsChanged (fun _ => ()) M.init).2
    let json : Json := .object [("enabled", .boolean false), ("navigationHints", .boolean false),
      ("rate", .number_float 11)]
    (M.onEvent "Accessibility.onVoiceGuidanceSettingsChanged" json s').1 = [()] ∧
      OpenRpc.VoiceGuidanceSettings json = false := by
  decide +kernel

end Firebolt
