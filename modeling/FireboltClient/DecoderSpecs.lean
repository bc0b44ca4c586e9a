import FireboltClient.JsonData

/-!
# What each decoder returns

For each decoder class one equivalence: `fromJson` returns with `value() = r` just when every
member of `r` is what stands under its key.
-/

open Json

namespace Firebolt

variable {T : JsonTypes} {json : Json}

/-- An object decoder whose check names just the members it reads returns whenever its body runs
to the end. -/
theorem JsonTypes.ChecksExactly.decode_object (hT : T.ChecksExactly) {σ τ : Type}
    {c : ObjectClass σ τ} {m : σ} {r : τ} (hkeys : keys c.body = c.required)
    (hne : c.required ≠ []) :
    (T.object c).decode m json = .ok r ↔ ∃ m', Finishes json c.body m m' ∧ c.value m' = r :=
  ObjectClass.decode_eq_ok_of_exact (hT json c.required) hne (by rw [hkeys]; exact fun _ h => h)

/-- An object decoder breaks no precondition: the check has asked for every member that is read. -/
theorem JsonTypes.ChecksFields.object_safe (hT : T.ChecksFields) {σ τ : Type}
    {c : ObjectClass σ τ} (m : σ) (json : Json) (hkeys : keys c.body = c.required) :
    (∀ read ∈ ((T.object c).fromJson json m).reads,
        read.1 = json ∧ (json.find? read.2).isSome) ∧
      ((T.object c).fromJson json m).outcome ≠ .error .undefined :=
  ObjectClass.fromJson_safe (fun key hkey => by rwa [hkeys] at hkey)
    fun hcheck => (hT json c.required hcheck).2

namespace Accessibility.JsonData

theorem decode_closedCaptionsSettings (hT : T.ChecksExactly) {m : ClosedCaptionsSettings.Members}
    {r : Accessibility.ClosedCaptionsSettings} :
    (T.object ClosedCaptionsSettings).decode m json = .ok r ↔
      json.Reads "enabled" getBool r.enabled ∧
      json.Reads "preferredLanguages" getStrings r.preferredLanguages := by
  rw [hT.decode_object rfl (List.cons_ne_nil _ _)]
  simp only [ClosedCaptionsSettings, finishes_assign, finishes_nil]
  constructor
  · rintro ⟨_, ⟨_, henabled, _, hpreferredLanguages, rfl⟩, rfl⟩
    exact ⟨henabled, hpreferredLanguages⟩
  · rintro ⟨henabled, hpreferredLanguages⟩
    exact ⟨_, ⟨_, henabled, _, hpreferredLanguages, rfl⟩, rfl⟩

theorem decode_voiceGuidanceSettings (hT : T.ChecksExactly) {m : VoiceGuidanceSettings.Members}
    {r : Accessibility.VoiceGuidanceSettings} :
    (T.object VoiceGuidanceSettings).decode m json = .ok r ↔
      json.Reads "enabled" getBool r.enabled ∧
      json.Reads "rate" getDouble r.rate ∧
      json.Reads "navigationHints" getBool r.navigationHints := by
  rw [hT.decode_object rfl (List.cons_ne_nil _ _)]
  simp only [VoiceGuidanceSettings, finishes_assign, finishes_nil]
  constructor
  · rintro ⟨_, ⟨_, henabled, _, hrate, _, hnavigationHints, rfl⟩, rfl⟩
    exact ⟨henabled, hrate, hnavigationHints⟩
  · rintro ⟨henabled, hrate, hnavigationHints⟩
    exact ⟨_, ⟨_, henabled, _, hrate, _, hnavigationHints, rfl⟩, rfl⟩

end Accessibility.JsonData

namespace Advertising.JsonData

theorem decode_ifaJson (hT : T.ChecksExactly) {m : IfaJson.Members}
    {r : Ifa} :
    (T.object IfaJson).decode m json = .ok r ↔
      json.Reads "ifa" getString r.ifa ∧
      json.Reads "ifa_type" getString r.ifa_type ∧
      json.Reads "lmt" getString r.lmt := by
  rw [hT.decode_object rfl (List.cons_ne_nil _ _)]
  simp only [IfaJson, finishes_assign, finishes_nil]
  constructor
  · rintro ⟨_, ⟨_, hifa, _, hifatype, _, hlmt, rfl⟩, rfl⟩
    exact ⟨hifa, hifatype, hlmt⟩
  · rintro ⟨hifa, hifatype, hlmt⟩
    exact ⟨_, ⟨_, hifa, _, hifatype, _, hlmt, rfl⟩, rfl⟩

end Advertising.JsonData

namespace Device.JsonData

theorem decode_hdrFormat (hT : T.ChecksExactly) {m : Device.HDRFormat}
    {r : Device.HDRFormat} :
    (T.object HDRFormat).decode m json = .ok r ↔
      json.Reads "hdr10" getBool r.hdr10 ∧
      json.Reads "hdr10Plus" getBool r.hdr10Plus ∧
      json.Reads "dolbyVision" getBool r.dolbyVision ∧
      json.Reads "hlg" getBool r.hlg := by
  rw [hT.decode_object rfl (List.cons_ne_nil _ _)]
  simp only [HDRFormat, finishes_assign, finishes_nil]
  constructor
  · rintro ⟨_, ⟨_, hhdr10, _, hhdr10Plus, _, hdolbyVision, _, hhlg, rfl⟩, rfl⟩
    exact ⟨hhdr10, hhdr10Plus, hdolbyVision, hhlg⟩
  · rintro ⟨hhdr10, hhdr10Plus, hdolbyVision, hhlg⟩
    exact ⟨_, ⟨_, hhdr10, _, hhdr10Plus, _, hdolbyVision, _, hhlg, rfl⟩, rfl⟩

end Device.JsonData

namespace Display.JsonData

theorem decode_displaySizeJson (hT : T.ChecksExactly) {m : DisplaySizeJson.Members}
    {r : DisplaySize} :
    (T.object (DisplaySizeJson T)).decode m json = .ok r ↔
      json.Reads "width" (getUInt32 T.beyond) r.width ∧
      json.Reads "height" (getUInt32 T.beyond) r.height := by
  rw [hT.decode_object rfl (List.cons_ne_nil _ _)]
  simp only [DisplaySizeJson, finishes_assign, finishes_nil]
  constructor
  · rintro ⟨_, ⟨_, hwidth, _, hheight, rfl⟩, rfl⟩
    exact ⟨hwidth, hheight⟩
  · rintro ⟨hwidth, hheight⟩
    exact ⟨_, ⟨_, hwidth, _, hheight, rfl⟩, rfl⟩

end Display.JsonData

namespace Lifecycle.JsonData

theorem decode_stateChange (hT : T.ChecksExactly) {m : StateChange.Members}
    {r : Lifecycle.StateChange} :
    (T.object (StateChange T)).decode m json = .ok r ↔
      json.Reads "oldState" (T.enumAtJson LifecycleStateEnum) r.oldState ∧
      json.Reads "newState" (T.enumAtJson LifecycleStateEnum) r.newState := by
  rw [hT.decode_object rfl (List.cons_ne_nil _ _)]
  simp only [StateChange, finishes_assign, finishes_nil]
  constructor
  · rintro ⟨_, ⟨_, holdState, _, hnewState, rfl⟩, rfl⟩
    exact ⟨holdState, hnewState⟩
  · rintro ⟨holdState, hnewState⟩
    exact ⟨_, ⟨_, holdState, _, hnewState, rfl⟩, rfl⟩

end Lifecycle.JsonData

namespace Stats.JsonData

theorem decode_memoryInfo (hT : T.ChecksExactly) {m : MemoryInfo.Members}
    {r : Stats.MemoryInfo} :
    (T.object (MemoryInfo T)).decode m json = .ok r ↔
      json.Reads "userMemoryUsedKiB" (getUInt32 T.beyond) r.userMemoryUsed ∧
      json.Reads "userMemoryLimitKiB" (getUInt32 T.beyond) r.userMemoryLimit ∧
      json.Reads "gpuMemoryUsedKiB" (getUInt32 T.beyond) r.gpuMemoryUsed ∧
      json.Reads "gpuMemoryLimitKiB" (getUInt32 T.beyond) r.gpuMemoryLimit := by
  rw [hT.decode_object rfl (List.cons_ne_nil _ _)]
  simp only [MemoryInfo, finishes_assign, finishes_nil]
  constructor
  · rintro ⟨_, ⟨_, huserUsed, _, huserLimit, _, hgpuUsed, _, hgpuLimit, rfl⟩, rfl⟩
    exact ⟨huserUsed, huserLimit, hgpuUsed, hgpuLimit⟩
  · rintro ⟨huserUsed, huserLimit, hgpuUsed, hgpuLimit⟩
    exact ⟨_, ⟨_, huserUsed, _, huserLimit, _, hgpuUsed, _, hgpuLimit, rfl⟩, rfl⟩

end Stats.JsonData

namespace TextToSpeech.JsonData

/-- Appending the converted items one by one to an empty list gives just the converted items. -/
theorem foldl_voices (ws : List String) (m : ListVoicesResponse.Members) :
    ws.foldl (fun m w => { m with voices_ := m.voices_ ++ [w] }) m =
      { m with voices_ := m.voices_ ++ ws } := by
  induction ws generalizing m with
  | nil => rw [List.foldl_nil, List.append_nil]
  | cons w ws ih => rw [List.foldl_cons, ih, List.append_assoc, List.singleton_append]

theorem decode_listVoicesResponse (hT : T.ChecksExactly) {m : ListVoicesResponse.Members}
    {r : TextToSpeech.ListVoicesResponse} :
    (T.object (ListVoicesResponse T)).decode m json = .ok r ↔
      json.Reads "TTS_Status" (getUInt32 T.beyond) r.ttsStatus ∧
      json.Reads "voices" (fun v => v.items.mapM getString) r.voices := by
  rw [hT.decode_object rfl (List.cons_ne_nil _ _)]
  simp only [ListVoicesResponse, finishes_assign, finishes_exec, finishes_forEach, finishes_nil,
    foldl_voices, List.nil_append]
  constructor
  · rintro ⟨_, ⟨_, hstatus, _, hvoices, rfl⟩, rfl⟩
    exact ⟨hstatus, hvoices⟩
  · rintro ⟨hstatus, hvoices⟩
    exact ⟨_, ⟨_, hstatus, _, hvoices, rfl⟩, rfl⟩

theorem decode_speechIdEvent (hT : T.ChecksExactly) {m : SpeechIdEvent.Members}
    {r : TextToSpeech.SpeechIdEvent} :
    (T.object (SpeechIdEvent T)).decode m json = .ok r ↔
      json.Reads "speechid" (getUInt32 T.beyond) r.speechId := by
  rw [hT.decode_object rfl (List.cons_ne_nil _ _)]
  simp only [SpeechIdEvent, finishes_assign, finishes_nil]
  constructor
  · rintro ⟨_, ⟨_, hspeechId, rfl⟩, rfl⟩
    exact hspeechId
  · intro hspeechId
    exact ⟨_, ⟨_, hspeechId, rfl⟩, rfl⟩

theorem decode_speechResponse (hT : T.ChecksExactly) {m : SpeechResponse.Members}
    {r : TextToSpeech.SpeechResponse} :
    (T.object (SpeechResponse T)).decode m json = .ok r ↔
      json.Reads "speechid" (getUInt32 T.beyond) r.speechId ∧
      json.Reads "TTS_Status" (getUInt32 T.beyond) r.ttsStatus ∧
      json.Reads "success" getBool r.success := by
  rw [hT.decode_object rfl (List.cons_ne_nil _ _)]
  simp only [SpeechResponse, finishes_assign, finishes_nil]
  constructor
  · rintro ⟨_, ⟨_, hspeechId, _, httsStatus, _, hsuccess, rfl⟩, rfl⟩
    exact ⟨hspeechId, httsStatus, hsuccess⟩
  · rintro ⟨hspeechId, httsStatus, hsuccess⟩
    exact ⟨_, ⟨_, hspeechId, _, httsStatus, _, hsuccess, rfl⟩, rfl⟩

theorem decode_speechStateResponse (hT : T.ChecksExactly) {m : SpeechStateResponse.Members}
    {r : TextToSpeech.SpeechStateResponse} :
    (T.object (SpeechStateResponse T)).decode m json = .ok r ↔
      json.Reads "speechstate" (getSpeechState T.beyond) r.speechState ∧
      json.Reads "TTS_Status" (getUInt32 T.beyond) r.ttsStatus ∧
      json.Reads "success" getBool r.success := by
  rw [hT.decode_object rfl (List.cons_ne_nil _ _)]
  simp only [SpeechStateResponse, finishes_assign, finishes_nil]
  constructor
  · rintro ⟨_, ⟨_, hspeechState, _, httsStatus, _, hsuccess, rfl⟩, rfl⟩
    exact ⟨hspeechState, httsStatus, hsuccess⟩
  · rintro ⟨hspeechState, httsStatus, hsuccess⟩
    exact ⟨_, ⟨_, hspeechState, _, httsStatus, _, hsuccess, rfl⟩, rfl⟩

theorem decode_ttsStatusResponse (hT : T.ChecksExactly) {m : TTSStatusResponse.Members}
    {r : TextToSpeech.TTSStatusResponse} :
    (T.object (TTSStatusResponse T)).decode m json = .ok r ↔
      json.Reads "TTS_Status" (getUInt32 T.beyond) r.ttsStatus ∧
      json.Reads "success" getBool r.success := by
  rw [hT.decode_object rfl (List.cons_ne_nil _ _)]
  simp only [TTSStatusResponse, finishes_assign, finishes_nil]
  constructor
  · rintro ⟨_, ⟨_, httsStatus, _, hsuccess, rfl⟩, rfl⟩
    exact ⟨httsStatus, hsuccess⟩
  · rintro ⟨httsStatus, hsuccess⟩
    exact ⟨_, ⟨_, httsStatus, _, hsuccess, rfl⟩, rfl⟩

end TextToSpeech.JsonData

end Firebolt
