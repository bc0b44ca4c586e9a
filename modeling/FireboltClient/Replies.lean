import FireboltClient.Enumerators

/-!
# What a reply says

`Shows` says when a JSON value stands for a result: each member of the result is under the key that
the OpenRPC files give it. Other members and any order are allowed, and an integer may be stored in
any of the three ways. A decoder returns whatever a value shows; on a value that its schema allows
it returns nothing else, as long as the integers fit.
-/

open Json

namespace Firebolt

/-- `json` shows the result of an object decoder, member by member. Two members are shown as the
client reads them: `preferredLanguages` has to be there, though its schema leaves it optional, since
a result always lists the languages; and `rate` is the `double` that `get<double>()` makes of the
number, which for an integer is the nearest one. -/
def ObjectDecoder.Shows : (d : ObjectDecoder) → Json → d.Value → Prop
  | ClosedCaptionsSettings => fun json r =>
    json.find? "enabled" = some (.boolean r.enabled) ∧
      json.find? "preferredLanguages" = some (.array (r.preferredLanguages.map string))
  | VoiceGuidanceSettings => fun json r =>
    json.find? "enabled" = some (.boolean r.enabled) ∧ json.Reads "rate" getDouble r.rate ∧
      json.find? "navigationHints" = some (.boolean r.navigationHints)
  | IfaJson => fun json r =>
    json.find? "ifa" = some (.string r.ifa) ∧ json.find? "ifa_type" = some (.string r.ifa_type) ∧
      json.find? "lmt" = some (.string r.lmt)
  | HDRFormat => fun json r =>
    json.find? "hdr10" = some (.boolean r.hdr10) ∧
      json.find? "hdr10Plus" = some (.boolean r.hdr10Plus) ∧
      json.find? "dolbyVision" = some (.boolean r.dolbyVision) ∧
      json.find? "hlg" = some (.boolean r.hlg)
  | DisplaySizeJson => fun json r =>
    json.numberAt? "width" = some (r.width.toNat : ℚ) ∧
      json.numberAt? "height" = some (r.height.toNat : ℚ)
  | StateChange => fun json r =>
    (json.find? "oldState").bind OpenRpc.lifecycleStateOf? = some r.oldState ∧
      (json.find? "newState").bind OpenRpc.lifecycleStateOf? = some r.newState
  | MemoryInfo => fun json r =>
    json.numberAt? "userMemoryUsedKiB" = some (r.userMemoryUsed.toNat : ℚ) ∧
      json.numberAt? "userMemoryLimitKiB" = some (r.userMemoryLimit.toNat : ℚ) ∧
      json.numberAt? "gpuMemoryUsedKiB" = some (r.gpuMemoryUsed.toNat : ℚ) ∧
      json.numberAt? "gpuMemoryLimitKiB" = some (r.gpuMemoryLimit.toNat : ℚ)
  | ListVoicesResponse => fun json r =>
    json.numberAt? "TTS_Status" = some (r.ttsStatus.toNat : ℚ) ∧
      json.find? "voices" = some (.array (r.voices.map string))
  | SpeechIdEvent => fun json r => json.numberAt? "speechid" = some (r.speechId.toNat : ℚ)
  | SpeechResponse => fun json r =>
    json.numberAt? "speechid" = some (r.speechId.toNat : ℚ) ∧
      json.numberAt? "TTS_Status" = some (r.ttsStatus.toNat : ℚ) ∧
      json.find? "success" = some (.boolean r.success)
  | SpeechStateResponse => fun json r =>
    (json.find? "speechstate").bind OpenRpc.speechStateOf? = some r.speechState ∧
      json.numberAt? "TTS_Status" = some (r.ttsStatus.toNat : ℚ) ∧
      json.find? "success" = some (.boolean r.success)
  | TTSStatusResponse => fun json r =>
    json.numberAt? "TTS_Status" = some (r.ttsStatus.toNat : ℚ) ∧
      json.find? "success" = some (.boolean r.success)

/-- `json` shows the result of a decoder. -/
def Decoder.Shows : (d : Decoder) → Json → d.Value → Prop
  | object d => d.Shows
  | DeviceClassJson => fun json c => OpenRpc.deviceClassOf? json = some c
  | LifecycleState => fun json s => OpenRpc.lifecycleStateOf? json = some s

/-! ## Reading members -/

section Members

variable {json : Json} {key : String} {beyond : Float → UInt32}

theorem reads_of_numberAt? {n : UInt32} (h : json.numberAt? key = some (n.toNat : ℚ)) :
    json.Reads key (getUInt32 beyond) n := by
  obtain ⟨v, hv, hnumber⟩ := Option.bind_eq_some_iff.mp h
  exact ⟨v, hv, getUInt32_of_toNat hnumber⟩

theorem reads_getString {s : String} :
    json.Reads key getString s ↔ json.find? key = some (.string s) := by
  unfold Reads
  simp only [getString_eq_ok, exists_eq_right]

theorem reads_speechState {s : TextToSpeech.SpeechState}
    (h : (json.find? key).bind OpenRpc.speechStateOf? = some s) :
    json.Reads key (TextToSpeech.JsonData.getSpeechState beyond) s := by
  obtain ⟨v, hv, hs⟩ := Option.bind_eq_some_iff.mp h
  obtain ⟨n, hn, hstate⟩ := OpenRpc.speechStateOf?_eq_some_iff.mp hs
  obtain ⟨hlo, hhi⟩ := OpenRpc.bounds_of_speechState? hstate
  obtain ⟨k, rfl⟩ := Int.eq_ofNat_of_zero_le hlo
  have hnumber : v.number? = some (k : ℚ) := by exact_mod_cast hn
  have hread : ∃ u, v.getUInt32 beyond = .ok u ∧ u.toNat = k :=
    getUInt32_of_number hnumber (by omega)
  obtain ⟨u, hu, rfl⟩ := hread
  refine ⟨v, hv, getSpeechState_eq_ok.mpr ⟨u, hu, ?_⟩⟩
  exact Option.some.inj ((speechState?_toNat (by omega)).symm.trans hstate)

end Members

/-! ## Decoding what is shown -/

variable {T : JsonTypes} {json : Json}

namespace ObjectDecoder

/-- An object decoder returns what a value shows. -/
theorem decodes_of_shows (hT : T.ChecksExactly) (hL : T.LooksUp) {d : ObjectDecoder}
    {r : d.Value} (h : d.Shows json r) : (T.object (d.cls T)).Decodes json r := by
  intro m
  cases d with
  | ClosedCaptionsSettings =>
    obtain ⟨henabled, hlanguages⟩ := h
    exact (Accessibility.JsonData.decode_closedCaptionsSettings hT).mpr
      ⟨reads_getBool.mpr henabled, reads_getStrings.mpr hlanguages⟩
  | VoiceGuidanceSettings =>
    obtain ⟨henabled, hrate, hhints⟩ := h
    exact (Accessibility.JsonData.decode_voiceGuidanceSettings hT).mpr
      ⟨reads_getBool.mpr henabled, hrate, reads_getBool.mpr hhints⟩
  | IfaJson =>
    obtain ⟨hifa, htype, hlmt⟩ := h
    exact (Advertising.JsonData.decode_ifaJson hT).mpr
      ⟨reads_getString.mpr hifa, reads_getString.mpr htype, reads_getString.mpr hlmt⟩
  | HDRFormat =>
    obtain ⟨hhdr10, hplus, hdolby, hhlg⟩ := h
    exact (Device.JsonData.decode_hdrFormat hT).mpr
      ⟨reads_getBool.mpr hhdr10, reads_getBool.mpr hplus, reads_getBool.mpr hdolby,
        reads_getBool.mpr hhlg⟩
  | DisplaySizeJson =>
    obtain ⟨hwidth, hheight⟩ := h
    exact (Display.JsonData.decode_displaySizeJson hT).mpr
      ⟨reads_of_numberAt? hwidth, reads_of_numberAt? hheight⟩
  | StateChange => exact (declared_stateChange hT hL).mpr h
  | MemoryInfo =>
    obtain ⟨huserUsed, huserLimit, hgpuUsed, hgpuLimit⟩ := h
    exact (Stats.JsonData.decode_memoryInfo hT).mpr
      ⟨reads_of_numberAt? huserUsed, reads_of_numberAt? huserLimit, reads_of_numberAt? hgpuUsed,
        reads_of_numberAt? hgpuLimit⟩
  | ListVoicesResponse =>
    obtain ⟨hstatus, hvoices⟩ := h
    exact (TextToSpeech.JsonData.decode_listVoicesResponse hT).mpr
      ⟨reads_of_numberAt? hstatus, _, hvoices, mapM_getString_eq_ok.mpr rfl⟩
  | SpeechIdEvent =>
    exact (TextToSpeech.JsonData.decode_speechIdEvent hT).mpr (reads_of_numberAt? h)
  | SpeechResponse =>
    obtain ⟨hspeechId, hstatus, hsuccess⟩ := h
    exact (TextToSpeech.JsonData.decode_speechResponse hT).mpr
      ⟨reads_of_numberAt? hspeechId, reads_of_numberAt? hstatus, reads_getBool.mpr hsuccess⟩
  | SpeechStateResponse =>
    obtain ⟨hstate, hstatus, hsuccess⟩ := h
    exact (TextToSpeech.JsonData.decode_speechStateResponse hT).mpr
      ⟨reads_speechState hstate, reads_of_numberAt? hstatus, reads_getBool.mpr hsuccess⟩
  | TTSStatusResponse =>
    obtain ⟨hstatus, hsuccess⟩ := h
    exact (TextToSpeech.JsonData.decode_ttsStatusResponse hT).mpr
      ⟨reads_of_numberAt? hstatus, reads_getBool.mpr hsuccess⟩

/-- On a value that its schema allows, an object decoder returns what the value shows just when the
integers fit. -/
theorem shows_iff_fits (hT : T.ChecksExactly) (hL : T.LooksUp) {d : ObjectDecoder}
    {m : d.Members} {r : d.Value} (hvalid : ∀ s ∈ (Decoder.object d).schema?, s json = true)
    (hr : (T.object (d.cls T)).decode m json = .ok r) :
    d.Shows json r ↔ ∀ u ∈ d.unsigned, json.Fits u.1 := by
  cases d with
  | ClosedCaptionsSettings =>
    obtain ⟨henabled, hlanguages⟩ := (Accessibility.JsonData.decode_closedCaptionsSettings hT).mp hr
    exact iff_of_true ⟨reads_getBool.mp henabled, reads_getStrings.mp hlanguages⟩
      (by simp [unsigned])
  | VoiceGuidanceSettings =>
    obtain ⟨henabled, hrate, hhints⟩ :=
      (Accessibility.JsonData.decode_voiceGuidanceSettings hT).mp hr
    exact iff_of_true ⟨reads_getBool.mp henabled, hrate, reads_getBool.mp hhints⟩
      (by simp [unsigned])
  | IfaJson =>
    obtain ⟨hifa, htype, hlmt⟩ := (Advertising.JsonData.decode_ifaJson hT).mp hr
    exact iff_of_true
      ⟨reads_getString.mp hifa, reads_getString.mp htype, reads_getString.mp hlmt⟩
      (by simp [unsigned])
  | HDRFormat =>
    obtain ⟨hhdr10, hplus, hdolby, hhlg⟩ := (Device.JsonData.decode_hdrFormat hT).mp hr
    exact iff_of_true ⟨reads_getBool.mp hhdr10, reads_getBool.mp hplus, reads_getBool.mp hdolby,
      reads_getBool.mp hhlg⟩ (by simp [unsigned])
  | DisplaySizeJson =>
    obtain ⟨hwidth, hheight⟩ := (Display.JsonData.decode_displaySizeJson hT).mp hr
    simp [Shows, unsigned, hwidth.exact_iff_fits, hheight.exact_iff_fits]
  | StateChange => exact iff_of_true ((declared_stateChange hT hL).mp hr) (by simp [unsigned])
  | MemoryInfo =>
    obtain ⟨huserUsed, huserLimit, hgpuUsed, hgpuLimit⟩ :=
      (Stats.JsonData.decode_memoryInfo hT).mp hr
    simp [Shows, unsigned, huserUsed.exact_iff_fits, huserLimit.exact_iff_fits,
      hgpuUsed.exact_iff_fits, hgpuLimit.exact_iff_fits]
  | ListVoicesResponse =>
    obtain ⟨hstatus, v, hv, hvoices⟩ :=
      (TextToSpeech.JsonData.decode_listVoicesResponse hT).mp hr
    -- only the schema says that the voices are an array
    obtain ⟨-, -, hproperties⟩ := Schema.object_iff.mp (hvalid _ rfl)
    have hv' : Schema.array 0 .string v = true :=
      hproperties ("voices", .array 0 .string) (by simp) v hv
    obtain ⟨xs, rfl, -⟩ := Schema.array_iff.mp hv'
    obtain rfl : xs = r.voices.map string := mapM_getString_eq_ok.mp hvoices
    simp [Shows, unsigned, hstatus.exact_iff_fits, hv]
  | SpeechIdEvent =>
    have hspeechId := (TextToSpeech.JsonData.decode_speechIdEvent hT).mp hr
    simp [Shows, unsigned, hspeechId.exact_iff_fits]
  | SpeechResponse =>
    obtain ⟨hspeechId, hstatus, hsuccess⟩ := (TextToSpeech.JsonData.decode_speechResponse hT).mp hr
    simp [Shows, unsigned, hspeechId.exact_iff_fits, hstatus.exact_iff_fits,
      reads_getBool.mp hsuccess]
  | SpeechStateResponse =>
    obtain ⟨hstate, hstatus, hsuccess⟩ :=
      (TextToSpeech.JsonData.decode_speechStateResponse hT).mp hr
    -- only the schema says that the state is a listed integer
    obtain ⟨-, -, hproperties⟩ := Schema.object_iff.mp (hvalid _ rfl)
    obtain ⟨v, hv, hget⟩ := hstate
    have hv' : OpenRpc.SpeechState v = true :=
      hproperties ("speechstate", OpenRpc.SpeechState) (by simp) v hv
    obtain ⟨n, hn, hlisted⟩ := Schema.integerWith_iff.mp hv'
    obtain ⟨s, hs⟩ := Option.isSome_iff_exists.mp hlisted
    obtain ⟨hlo, hhi⟩ := OpenRpc.bounds_of_speechState? hs
    have hnumber : json.numberAt? "speechstate" = some (n : ℚ) := by
      rw [numberAt?, hv, Option.bind_some, hn]
    have hstate' := ((speechState_declared_iff ⟨v, hv, hget⟩).mpr ⟨n, hlo, hhi, hnumber⟩).2
    simp [Shows, unsigned, hstate', hstatus.exact_iff_fits, reads_getBool.mp hsuccess]
  | TTSStatusResponse =>
    obtain ⟨hstatus, hsuccess⟩ := (TextToSpeech.JsonData.decode_ttsStatusResponse hT).mp hr
    simp [Shows, unsigned, hstatus.exact_iff_fits, reads_getBool.mp hsuccess]

end ObjectDecoder

namespace Decoder

/-- A decoder returns what a value shows. -/
theorem decodes_of_shows (hT : T.ChecksExactly) (hL : T.LooksUp) {d : Decoder} {v : d.Value}
    (h : d.Shows json v) : (d.cls T).Decodes json v := by
  cases d with
  | object d => exact ObjectDecoder.decodes_of_shows hT hL h
  | DeviceClassJson =>
    exact fun m => JsonClass.scalar_decode_eq_ok.mpr ((enumAtJson_deviceClass hL).mpr h)
  | LifecycleState =>
    exact fun m => JsonClass.scalar_decode_eq_ok.mpr ((enumAtJson_lifecycleState hL).mpr h)

/-- The keys under which a decoder reads a `uint32_t`. -/
def unsigned : Decoder → List String
  | object d => d.unsigned.map Prod.fst
  | DeviceClassJson | LifecycleState => []

theorem shows_iff_fits (hT : T.ChecksExactly) (hL : T.LooksUp) {d : Decoder} {v : d.Value}
    (hvalid : ∀ s ∈ d.schema?, s json = true) (hv : (d.cls T).Decodes json v) :
    d.Shows json v ↔ ∀ key ∈ d.unsigned, json.Fits key := by
  cases d with
  | object d =>
    refine (ObjectDecoder.shows_iff_fits hT hL hvalid (hv default)).trans ?_
    simp only [unsigned, List.forall_mem_map]
  | DeviceClassJson =>
    have hget := JsonClass.scalar_decode_eq_ok.mp (hv default)
    exact iff_of_true ((enumAtJson_deviceClass hL).mp hget) (by simp [unsigned])
  | LifecycleState =>
    have hget := JsonClass.scalar_decode_eq_ok.mp (hv default)
    exact iff_of_true ((enumAtJson_lifecycleState hL).mp hget) (by simp [unsigned])

/-- On a value that its schema allows, a decoder returns just what the value shows, and refuses it
if it shows nothing; unless it accepts an integer that does not fit. -/
theorem faithful_iff (hT : T.ChecksExactly) (hL : T.LooksUp) {d : Decoder}
    (hvalid : ∀ s ∈ d.schema?, s json = true) :
    (∀ v, (d.cls T).Decodes json v ↔ d.Shows json v) ↔
      ((∃ v, (d.cls T).Decodes json v) → ∀ key ∈ d.unsigned, json.Fits key) := by
  constructor
  · rintro h ⟨v, hv⟩
    exact (shows_iff_fits hT hL hvalid hv).mp ((h v).mp hv)
  · intro h v
    refine ⟨fun hv => ?_, decodes_of_shows hT hL⟩
    exact (shows_iff_fits hT hL hvalid hv).mpr (h ⟨v, hv⟩)

/-- A reply with its integers stored in two ways, and a member that nobody asks for. -/
theorem faithful_iff_speechResponse :
    let json : Json := .object [("TTS_Status", .number_float 3), ("extra", .null),
      ("speechid", .number_unsigned 4294967295), ("success", .boolean true)]
    ∀ v, ((object .SpeechResponse).cls .documented).Decodes json v ↔
      (object .SpeechResponse).Shows json v := by
  intro json
  refine (faithful_iff JsonTypes.documented_checksExactly JsonTypes.documented_looksUp ?_).mpr ?_
  · rintro s hs
    obtain rfl := Option.some.inj hs
    decide +kernel
  · intro _ key hkey
    rcases List.mem_cons.mp hkey with rfl | hkey
    · exact ⟨4294967295, by decide, by decide +kernel⟩
    · obtain rfl := List.mem_singleton.mp hkey
      exact ⟨3, by decide, by decide +kernel⟩

end Decoder

/-! ## Writing replies -/

namespace OpenRpc

def lifecycleStateName : Lifecycle.LifecycleState → String
  | .INITIALIZING => "initializing"
  | .ACTIVE => "active"
  | .PAUSED => "paused"
  | .SUSPENDED => "suspended"
  | .HIBERNATED => "hibernated"
  | .TERMINATING => "terminating"

def deviceClassName : Device.DeviceClass → String
  | .STB => "stb"
  | .OTT => "ott"
  | .TV => "tv"

@[simp] theorem lifecycleStateOf?_name (s : Lifecycle.LifecycleState) :
    lifecycleStateOf? (.string (lifecycleStateName s)) = some s := by
  cases s <;> rfl

@[simp] theorem deviceClassOf?_name (c : Device.DeviceClass) :
    deviceClassOf? (.string (deviceClassName c)) = some c := by
  cases c <;> rfl

end OpenRpc

namespace ObjectDecoder

/-- A value as a platform may write it, with the keys in the order of a `std::map`. -/
def write : (d : ObjectDecoder) → d.Value → Json
  | ClosedCaptionsSettings => fun r =>
    .object [("enabled", .boolean r.enabled),
      ("preferredLanguages", .array (r.preferredLanguages.map string))]
  | VoiceGuidanceSettings => fun r =>
    .object [("enabled", .boolean r.enabled), ("navigationHints", .boolean r.navigationHints),
      ("rate", .number_float r.rate)]
  | IfaJson => fun r =>
    .object [("ifa", .string r.ifa), ("ifa_type", .string r.ifa_type), ("lmt", .string r.lmt)]
  | HDRFormat => fun r =>
    .object [("dolbyVision", .boolean r.dolbyVision), ("hdr10", .boolean r.hdr10),
      ("hdr10Plus", .boolean r.hdr10Plus), ("hlg", .boolean r.hlg)]
  | DisplaySizeJson => fun r =>
    .object [("height", ofUInt32 r.height), ("width", ofUInt32 r.width)]
  | StateChange => fun r =>
    .object [("newState", .string (OpenRpc.lifecycleStateName r.newState)),
      ("oldState", .string (OpenRpc.lifecycleStateName r.oldState))]
  | MemoryInfo => fun r =>
    .object [("gpuMemoryLimitKiB", ofUInt32 r.gpuMemoryLimit),
      ("gpuMemoryUsedKiB", ofUInt32 r.gpuMemoryUsed),
      ("userMemoryLimitKiB", ofUInt32 r.userMemoryLimit),
      ("userMemoryUsedKiB", ofUInt32 r.userMemoryUsed)]
  | ListVoicesResponse => fun r =>
    .object [("TTS_Status", ofUInt32 r.ttsStatus), ("voices", .array (r.voices.map string))]
  | SpeechIdEvent => fun r => .object [("speechid", ofUInt32 r.speechId)]
  | SpeechResponse => fun r =>
    .object [("TTS_Status", ofUInt32 r.ttsStatus), ("speechid", ofUInt32 r.speechId),
      ("success", .boolean r.success)]
  | SpeechStateResponse => fun r =>
    .object [("TTS_Status", ofUInt32 r.ttsStatus),
      ("speechstate", ofUInt32 r.speechState.underlying.toUInt32),
      ("success", .boolean r.success)]
  | TTSStatusResponse => fun r =>
    .object [("TTS_Status", ofUInt32 r.ttsStatus), ("success", .boolean r.success)]

/-- Only a speech state that is none of the enumerators has no documented integer. -/
def Writable : (d : ObjectDecoder) → d.Value → Prop
  | SpeechStateResponse => fun r => r.speechState ∈ TextToSpeech.SpeechState.enumerators
  | _ => fun _ => True

theorem speechStateOf?_underlying {s : TextToSpeech.SpeechState}
    (h : s ∈ TextToSpeech.SpeechState.enumerators) :
    OpenRpc.speechStateOf? (ofUInt32 s.underlying.toUInt32) = some s := by
  have hlisted : OpenRpc.speechState? (s.underlying.toUInt32.toNat : ℤ) = some s := by
    simp only [TextToSpeech.SpeechState.enumerators, List.mem_cons, List.not_mem_nil,
      or_false] at h
    rcases h with rfl | rfl | rfl | rfl <;> rfl
  exact OpenRpc.speechStateOf?_eq_some_iff.mpr ⟨_, by simp, hlisted⟩

/-- What is written shows the value. -/
theorem shows_write {d : ObjectDecoder} {r : d.Value} (h : d.Writable r) :
    d.Shows (d.write r) r := by
  cases d with
  | ClosedCaptionsSettings => exact ⟨rfl, rfl⟩
  | VoiceGuidanceSettings => exact ⟨rfl, ⟨_, rfl, rfl⟩, rfl⟩
  | IfaJson => exact ⟨rfl, rfl, rfl⟩
  | HDRFormat => exact ⟨rfl, rfl, rfl, rfl⟩
  | DisplaySizeJson => exact ⟨number?_ofUInt32 _, number?_ofUInt32 _⟩
  | StateChange =>
    exact ⟨OpenRpc.lifecycleStateOf?_name _, OpenRpc.lifecycleStateOf?_name _⟩
  | MemoryInfo =>
    exact ⟨number?_ofUInt32 _, number?_ofUInt32 _, number?_ofUInt32 _, number?_ofUInt32 _⟩
  | ListVoicesResponse => exact ⟨number?_ofUInt32 _, rfl⟩
  | SpeechIdEvent => exact number?_ofUInt32 _
  | SpeechResponse => exact ⟨number?_ofUInt32 _, number?_ofUInt32 _, rfl⟩
  | SpeechStateResponse => exact ⟨speechStateOf?_underlying h, number?_ofUInt32 _, rfl⟩
  | TTSStatusResponse => exact ⟨number?_ofUInt32 _, rfl⟩

end ObjectDecoder

namespace Decoder

def write : (d : Decoder) → d.Value → Json
  | object d => d.write
  | DeviceClassJson => fun c => .string (OpenRpc.deviceClassName c)
  | LifecycleState => fun s => .string (OpenRpc.lifecycleStateName s)

def Writable : (d : Decoder) → d.Value → Prop
  | object d => d.Writable
  | DeviceClassJson | LifecycleState => fun _ => True

theorem shows_write {d : Decoder} {v : d.Value} (h : d.Writable v) : d.Shows (d.write v) v := by
  cases d with
  | object d => exact ObjectDecoder.shows_write h
  | DeviceClassJson => exact OpenRpc.deviceClassOf?_name v
  | LifecycleState => exact OpenRpc.lifecycleStateOf?_name v

end Decoder

/-! ## Replies of all methods -/

namespace Reply

/-- `json` shows the value. Where nothing is returned, the reply does not matter. -/
def Shows : (k : Reply) → Json → k.Value → Prop
  | nothing => fun _ _ => True
  | boolean => fun json b => json = .boolean b
  | string => fun json s => json = .string s
  | unsigned => fun json n => json.number? = some (n.toNat : ℚ)
  | strings => fun json ws => json = .array (ws.map Json.string)
  | decoded d => d.Shows

/-- A reply as a platform may write it. -/
def write : (k : Reply) → k.Value → Json
  | nothing => fun _ => .null
  | boolean => .boolean
  | string => .string
  | unsigned => ofUInt32
  | strings => fun ws => .array (ws.map Json.string)
  | decoded d => d.write

def Writable : (k : Reply) → k.Value → Prop
  | decoded d => d.Writable
  | _ => fun _ => True

theorem shows_write {k : Reply} {v : k.Value} (h : k.Writable v) : k.Shows (k.write v) v := by
  cases k with
  | nothing => trivial
  | unsigned => exact number?_ofUInt32 v
  | decoded d => exact Decoder.shows_write h
  | _ => rfl

variable {T : JsonTypes} {H : IHelper} {k : Reply} {r : Request}

/-- An error of the platform is the error of the method. -/
theorem ask_error (hH : H.Gets) (hI : H.Invokes) {e : Error} (h : H.reply r = .error e) :
    k.ask T H r = .error e := by
  cases k with
  | nothing => exact hI.invoke_error h
  | _ => exact hH.get_error h

/-- A reply that shows a value makes the method return it. -/
theorem ask_of_shows (hT : T.ChecksExactly) (hL : T.LooksUp) (hA : T.DecodesArrays)
    (hR : T.ReadsScalars) (hU : T.ReadsUnsigned) (hH : H.Gets) (hI : H.Invokes) {json : Json}
    {v : k.Value} (h : H.reply r = .ok json) (hv : k.Shows json v) : k.ask T H r = .ok v := by
  cases k with
  | nothing => exact hI.invoke_ok h
  | boolean =>
    cases hv
    exact hH.get_decodes h (hR.boolean v)
  | string =>
    cases hv
    exact hH.get_decodes h (hR.string v)
  | unsigned => exact hH.get_decodes h (hU hv)
  | strings =>
    cases hv
    exact hH.get_decodes h (hA.decodes_strings hR v)
  | decoded d => exact hH.get_decodes h (Decoder.decodes_of_shows hT hL hv)

end Reply

end Firebolt
