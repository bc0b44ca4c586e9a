import FireboltClient.Decoders

/-!
# Unsigned members

`get<uint32_t>()` casts whatever number or boolean it finds. For the twelve `uint32_t` members of
the decoders: the result is the number in the JSON value just when that number is an integer of
32 bits, and then different numbers stay different.
-/

open Json

/-- The number under `key`, if there is one. -/
def Json.numberAt? (key : String) (json : Json) : Option ℚ := (json.find? key).bind number?

/-- The number under `key` is an integer of 32 bits. -/
def Json.Fits (key : String) (json : Json) : Prop :=
  ∃ n : ℕ, n < 2 ^ 32 ∧ json.numberAt? key = some (n : ℚ)

/-- A member that is read as a `uint32_t` is read exactly just when it fits. -/
theorem Json.Reads.exact_iff_fits {beyond : Float → UInt32} {json : Json} {key : String}
    {n : UInt32} (h : json.Reads key (getUInt32 beyond) n) :
    json.numberAt? key = some (n.toNat : ℚ) ↔ json.Fits key := by
  constructor
  · exact fun hn => ⟨n.toNat, n.toNat_lt, hn⟩
  · rintro ⟨k, hk, hnumber⟩
    obtain ⟨v, hv, hget⟩ := h
    have hnumber' : v.number? = some (k : ℚ) := by
      rwa [numberAt?, hv, Option.bind_some] at hnumber
    obtain ⟨n', hget', hn'⟩ := getUInt32_of_number hnumber' hk
    have hnn' : n = n' := Except.ok.inj (hget.symm.trans hget')
    rw [hnumber, hnn', hn']

namespace Firebolt

variable {T : JsonTypes} {json : Json}

namespace ObjectDecoder

/-- The `uint32_t` members: the key that each is read from, and where it stands in the result. -/
def unsigned : (d : ObjectDecoder) → List (String × (d.Value → UInt32))
  | DisplaySizeJson => [("width", fun r => r.width), ("height", fun r => r.height)]
  | MemoryInfo =>
    [("userMemoryUsedKiB", fun r => r.userMemoryUsed),
      ("userMemoryLimitKiB", fun r => r.userMemoryLimit),
      ("gpuMemoryUsedKiB", fun r => r.gpuMemoryUsed),
      ("gpuMemoryLimitKiB", fun r => r.gpuMemoryLimit)]
  | ListVoicesResponse => [("TTS_Status", fun r => r.ttsStatus)]
  | SpeechIdEvent => [("speechid", fun r => r.speechId)]
  | SpeechResponse => [("speechid", fun r => r.speechId), ("TTS_Status", fun r => r.ttsStatus)]
  | SpeechStateResponse | TTSStatusResponse => [("TTS_Status", fun r => r.ttsStatus)]
  | ClosedCaptionsSettings | VoiceGuidanceSettings | IfaJson | HDRFormat | StateChange => []

/-- Each is what `get<uint32_t>()` makes of the member under its key. -/
theorem reads_unsigned (hT : T.ChecksExactly) {d : ObjectDecoder} {m : d.Members} {r : d.Value}
    (h : (T.object (d.cls T)).decode m json = .ok r) :
    ∀ u ∈ d.unsigned, json.Reads u.1 (getUInt32 T.beyond) (u.2 r) := by
  cases d with
  | DisplaySizeJson => simpa [unsigned] using (Display.JsonData.decode_displaySizeJson hT).mp h
  | MemoryInfo => simpa [unsigned] using (Stats.JsonData.decode_memoryInfo hT).mp h
  | ListVoicesResponse =>
    simpa [unsigned] using ((TextToSpeech.JsonData.decode_listVoicesResponse hT).mp h).1
  | SpeechIdEvent => simpa [unsigned] using (TextToSpeech.JsonData.decode_speechIdEvent hT).mp h
  | SpeechResponse =>
    have hreads := (TextToSpeech.JsonData.decode_speechResponse hT).mp h
    simpa [unsigned] using ⟨hreads.1, hreads.2.1⟩
  | SpeechStateResponse =>
    simpa [unsigned] using ((TextToSpeech.JsonData.decode_speechStateResponse hT).mp h).2.1
  | TTSStatusResponse =>
    simpa [unsigned] using ((TextToSpeech.JsonData.decode_ttsStatusResponse hT).mp h).1
  | _ => exact fun u hu => absurd hu List.not_mem_nil

/-- Every `uint32_t` member of a decoder is the number in the JSON value, just when the value is
refused or the numbers under their keys are integers of 32 bits; and on such values different
numbers, different speech ids among them, are decoded to different members. -/
theorem unsigned_exact_iff (hT : T.ChecksExactly) (hL : T.LooksUp) (d : ObjectDecoder)
    (json : Json) :
    ((∀ m r, (T.object (d.cls T)).decode m json = .ok r →
        ∀ u ∈ d.unsigned, json.numberAt? u.1 = some ((u.2 r).toNat : ℚ)) ↔
      (Convertible json d.fields → ∀ u ∈ d.unsigned, json.Fits u.1)) ∧
    ∀ json' m r m' r', (T.object (d.cls T)).decode m json = .ok r →
      (T.object (d.cls T)).decode m' json' = .ok r' →
      (∀ u ∈ d.unsigned, json.Fits u.1) → (∀ u ∈ d.unsigned, json'.Fits u.1) →
        ∀ u ∈ d.unsigned, json.numberAt? u.1 ≠ json'.numberAt? u.1 → u.2 r ≠ u.2 r' := by
  refine ⟨⟨fun h hconv u hu => ?_, fun h m r hr u hu => ?_⟩, ?_⟩
  · obtain ⟨r, hr⟩ := (d.exists_decode_iff hT hL default json).mpr hconv
    exact (reads_unsigned hT hr u hu).exact_iff_fits.mp (h default r hr u hu)
  · have hconv : Convertible json d.fields := (d.exists_decode_iff hT hL m json).mp ⟨r, hr⟩
    exact (reads_unsigned hT hr u hu).exact_iff_fits.mpr (h hconv u hu)
  · intro json' m r m' r' hr hr' hfits hfits' u hu hne heq
    have hexact := (reads_unsigned hT hr u hu).exact_iff_fits.mpr (hfits u hu)
    have hexact' := (reads_unsigned hT hr' u hu).exact_iff_fits.mpr (hfits' u hu)
    exact hne (by rw [hexact, hexact', heq])

/-- The greatest speech id, stored as a floating number. -/
theorem unsigned_exact_greatest :
    let json : Json := .object [("speechid", .number_float 4294967295)]
    ∀ m r, (JsonTypes.documented.object (TextToSpeech.JsonData.SpeechIdEvent .documented)).decode m
      json = .ok r →
        ∀ u ∈ unsigned .SpeechIdEvent, json.numberAt? u.1 = some ((u.2 r).toNat : ℚ) := by
  intro json
  refine (unsigned_exact_iff JsonTypes.documented_checksExactly JsonTypes.documented_looksUp
    .SpeechIdEvent json).1.mpr fun _ u hu => ?_
  obtain rfl := List.mem_singleton.mp hu
  exact ⟨4294967295, by decide, by decide +kernel⟩

/-- Two speech ids that are the same after 32 bits, and neither is refused. -/
theorem speechId_collides :
    let decode := (JsonTypes.documented.object (TextToSpeech.JsonData.SpeechIdEvent
      .documented)).decode default
    let json : Json := .object [("speechid", .number_unsigned 4294967297)]
    decode json = .ok ⟨1⟩ ∧ json.numberAt? "speechid" = some 4294967297 ∧
      decode (.object [("speechid", .number_unsigned 1)]) = .ok ⟨1⟩ :=
  ⟨rfl, rfl, rfl⟩

end ObjectDecoder

end Firebolt
