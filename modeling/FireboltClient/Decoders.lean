import FireboltClient.DecoderSpecs
import FireboltClient.TwoRuns

/-!
# The decoder classes together

`ObjectDecoder` names the twelve classes that decode an object, `Decoder` adds the two that decode
a string. `fields` says of each object decoder which conversion it applies under which key, and
`exists_decode_iff` that it returns on exactly the values whose members convert.

Each body is gone through twice, statement by statement: `body_runsOn` for what it converts, and
`body_alike` for what it forgets.
-/

open Json

namespace Firebolt

/-! ## Conversions -/

/-- What a decoder does with a member. -/
inductive Conversion
  | boolean
  | double
  | uint32
  | string
  | strings
  | eachString
  | lifecycleState
  deriving DecidableEq, Repr

/-- Whether a value is converted, and not refused. -/
def Conversion.accepts : Conversion → Json → Bool
  | .boolean, v => v.isBoolean
  | .double, v => v.isNumber
  | .uint32, v => v.isNumber || v.isBoolean
  | .string, v => v.isString
  | .strings, .array xs => xs.all isString
  | .strings, _ => false
  | .eachString, v => v.items.all isString
  | .lifecycleState, .string s =>
    (List.lookup s Lifecycle.JsonData.LifecycleStateEnum).isSome
  | .lifecycleState, _ => false

/-- The value has a member under each key, and each is converted. -/
def Convertible (json : Json) (fields : List (String × Conversion)) : Prop :=
  ∀ f ∈ fields, ∃ v, json.find? f.1 = some v ∧ f.2.accepts v = true

section Convertible

variable {T : JsonTypes} {json : Json} {key : String} {conv : Conversion}
  {fields : List (String × Conversion)} {α : Type} {get : Json → Except Exn α}

@[simp] theorem convertible_nil : Convertible json [] := fun _ hf => absurd hf List.not_mem_nil

/-- A field converts just when it can be read. -/
theorem convertible_cons (hget : ∀ v, conv.accepts v = true ↔ ∃ a, get v = .ok a) :
    Convertible json ((key, conv) :: fields) ↔
      (∃ a, json.Reads key get a) ∧ Convertible json fields := by
  unfold Convertible Json.Reads
  rw [List.forall_mem_cons]
  simp only [hget]
  constructor
  · rintro ⟨⟨v, hv, a, ha⟩, hrest⟩
    exact ⟨⟨a, v, hv, ha⟩, hrest⟩
  · rintro ⟨⟨a, v, hv, ha⟩, hrest⟩
    exact ⟨⟨v, hv, a, ha⟩, hrest⟩

theorem exists_mapM_getString_iff {xs : List Json} :
    (∃ ws, xs.mapM getString = .ok ws) ↔ xs.all isString = true := by
  rw [exists_mapM_eq_ok_iff, List.all_eq_true]
  simp only [exists_getString_iff]

theorem strings_accepts (v : Json) :
    Conversion.strings.accepts v = true ↔ ∃ ws, v.getStrings = .ok ws := by
  cases v with
  | array xs => exact exists_mapM_getString_iff.symm
  | _ => simp [Conversion.accepts, getStrings]

theorem getSpeechState_eq_ok {beyond : Float → UInt32} {v : Json}
    {s : TextToSpeech.SpeechState} :
    TextToSpeech.JsonData.getSpeechState beyond v = .ok s ↔
      ∃ n, v.getUInt32 beyond = .ok n ∧ .ofUInt32 n = s := by
  unfold TextToSpeech.JsonData.getSpeechState
  rw [bind_eq_ok]
  simp [pure, Except.pure]

theorem uint32_accepts_speechState (beyond : Float → UInt32) (v : Json) :
    Conversion.uint32.accepts v = true ↔
      ∃ s, TextToSpeech.JsonData.getSpeechState beyond v = .ok s := by
  have haccepts : Conversion.uint32.accepts v = true ↔ ∃ n, v.getUInt32 beyond = .ok n :=
    exists_getUInt32_iff.symm
  rw [haccepts]
  simp only [getSpeechState_eq_ok]
  constructor
  · rintro ⟨n, hn⟩
    exact ⟨_, n, hn, rfl⟩
  · rintro ⟨_, n, hn, -⟩
    exact ⟨n, hn⟩

theorem enumAtJson_eq_ok (hL : T.LooksUp) {table : EnumType α} {v : Json} {a : α} :
    T.enumAtJson table v = .ok a ↔ ∃ s, v = .string s ∧ List.lookup s table = some a := by
  unfold JsonTypes.enumAtJson
  rw [bind_eq_ok]
  simp only [getString_eq_ok, hL table]

theorem lifecycleState_accepts (hL : T.LooksUp) (v : Json) :
    Conversion.lifecycleState.accepts v = true ↔
      ∃ s, T.enumAtJson Lifecycle.JsonData.LifecycleStateEnum v = .ok s := by
  simp only [enumAtJson_eq_ok hL]
  cases v with
  | string s => simp [Conversion.accepts, Option.isSome_iff_exists]
  | _ => simp [Conversion.accepts]

end Convertible

/-! ## Bodies -/

/-- From any members, the body runs to its end on just the values whose members convert. -/
def RunsOn {σ : Type} (body : List (Statement σ)) (fields : List (String × Conversion)) : Prop :=
  ∀ json m, (∃ m', Finishes json body m m') ↔ Convertible json fields

namespace RunsOn

variable {σ α : Type} {body : List (Statement σ)} {fields : List (String × Conversion)}
  {key : String} {conv : Conversion} {get : Json → Except Exn α} {set : α → σ → σ}

theorem nil : RunsOn ([] : List (Statement σ)) [] := fun _ m =>
  iff_of_true ⟨m, finishes_nil.mpr rfl⟩ convertible_nil

theorem exec {f : σ → σ} (h : RunsOn body fields) : RunsOn (.exec f :: body) fields :=
  fun json m => h json (f m)

/-- What is stored does not matter to the rest of the body, which runs on the same values from
all members. -/
theorem read {β : Type} {s : Statement σ} {get : Json → Except Exn β} {store : β → σ → σ}
    (hs : ∀ json m m', Finishes json (s :: body) m m' ↔
      ∃ b, json.Reads key get b ∧ Finishes json body (store b m) m')
    (hget : ∀ v, conv.accepts v = true ↔ ∃ b, get v = .ok b) (h : RunsOn body fields) :
    RunsOn (s :: body) ((key, conv) :: fields) := by
  intro json m
  rw [convertible_cons hget]
  simp only [hs]
  constructor
  · rintro ⟨m', b, hreads, hfin⟩
    exact ⟨⟨b, hreads⟩, (h json _).mp ⟨m', hfin⟩⟩
  · rintro ⟨⟨b, hreads⟩, hrest⟩
    obtain ⟨m', hfin⟩ := (h json (store b m)).mpr hrest
    exact ⟨m', b, hreads, hfin⟩

theorem assign (h : RunsOn body fields) (hget : ∀ v, conv.accepts v = true ↔ ∃ a, get v = .ok a) :
    RunsOn (Statement.assign key get set :: body) ((key, conv) :: fields) :=
  h.read (fun _ _ _ => finishes_assign) hget

theorem forEach (h : RunsOn body fields)
    (hget : ∀ v, conv.accepts v = true ↔ ∃ as, v.items.mapM get = .ok as) :
    RunsOn (Statement.forEach key (Statement.store get set) :: body) ((key, conv) :: fields) :=
  h.read (fun _ _ _ => finishes_forEach) hget

/-! ### One rule for each conversion -/

theorem boolean {set : Bool → σ → σ} (h : RunsOn body fields) :
    RunsOn (Statement.assign key getBool set :: body) ((key, .boolean) :: fields) :=
  h.assign fun _ => exists_getBool_iff.symm

theorem double {set : Float → σ → σ} (h : RunsOn body fields) :
    RunsOn (Statement.assign key getDouble set :: body) ((key, .double) :: fields) :=
  h.assign fun _ => exists_getDouble_iff.symm

theorem uint32 {beyond : Float → UInt32} {set : UInt32 → σ → σ} (h : RunsOn body fields) :
    RunsOn (Statement.assign key (getUInt32 beyond) set :: body) ((key, .uint32) :: fields) :=
  h.assign fun _ => exists_getUInt32_iff.symm

theorem speechState {beyond : Float → UInt32} {set : TextToSpeech.SpeechState → σ → σ}
    (h : RunsOn body fields) :
    RunsOn (Statement.assign key (TextToSpeech.JsonData.getSpeechState beyond) set :: body)
      ((key, .uint32) :: fields) :=
  h.assign (uint32_accepts_speechState beyond)

theorem string {set : String → σ → σ} (h : RunsOn body fields) :
    RunsOn (Statement.assign key getString set :: body) ((key, .string) :: fields) :=
  h.assign fun _ => exists_getString_iff.symm

theorem strings {set : List String → σ → σ} (h : RunsOn body fields) :
    RunsOn (Statement.assign key getStrings set :: body) ((key, .strings) :: fields) :=
  h.assign strings_accepts

theorem eachString {set : String → σ → σ} (h : RunsOn body fields) :
    RunsOn (Statement.forEach key (Statement.store getString set) :: body)
      ((key, .eachString) :: fields) :=
  h.forEach fun _ => exists_mapM_getString_iff.symm

theorem lifecycleState {T : JsonTypes} (hL : T.LooksUp)
    {set : Lifecycle.LifecycleState → σ → σ} (h : RunsOn body fields) :
    RunsOn (Statement.assign key (T.enumAtJson Lifecycle.JsonData.LifecycleStateEnum) set :: body)
      ((key, .lifecycleState) :: fields) :=
  h.assign (lifecycleState_accepts hL)

end RunsOn

/-! ## The object decoders -/

inductive ObjectDecoder
  | ClosedCaptionsSettings
  | VoiceGuidanceSettings
  | IfaJson
  | HDRFormat
  | DisplaySizeJson
  | StateChange
  | MemoryInfo
  | ListVoicesResponse
  | SpeechIdEvent
  | SpeechResponse
  | SpeechStateResponse
  | TTSStatusResponse
  deriving DecidableEq, Repr

namespace ObjectDecoder

/-- The data members of the class. -/
abbrev Members : ObjectDecoder → Type
  | ClosedCaptionsSettings => Accessibility.JsonData.ClosedCaptionsSettings.Members
  | VoiceGuidanceSettings => Accessibility.JsonData.VoiceGuidanceSettings.Members
  | IfaJson => Advertising.JsonData.IfaJson.Members
  | HDRFormat => Device.HDRFormat
  | DisplaySizeJson => Display.JsonData.DisplaySizeJson.Members
  | StateChange => Lifecycle.JsonData.StateChange.Members
  | MemoryInfo => Stats.JsonData.MemoryInfo.Members
  | ListVoicesResponse => TextToSpeech.JsonData.ListVoicesResponse.Members
  | SpeechIdEvent => TextToSpeech.JsonData.SpeechIdEvent.Members
  | SpeechResponse => TextToSpeech.JsonData.SpeechResponse.Members
  | SpeechStateResponse => TextToSpeech.JsonData.SpeechStateResponse.Members
  | TTSStatusResponse => TextToSpeech.JsonData.TTSStatusResponse.Members

/-- What `value()` returns. -/
abbrev Value : ObjectDecoder → Type
  | ClosedCaptionsSettings => Accessibility.ClosedCaptionsSettings
  | VoiceGuidanceSettings => Accessibility.VoiceGuidanceSettings
  | IfaJson => Advertising.Ifa
  | HDRFormat => Device.HDRFormat
  | DisplaySizeJson => Display.DisplaySize
  | StateChange => Lifecycle.StateChange
  | MemoryInfo => Stats.MemoryInfo
  | ListVoicesResponse => TextToSpeech.ListVoicesResponse
  | SpeechIdEvent => TextToSpeech.SpeechIdEvent
  | SpeechResponse => TextToSpeech.SpeechResponse
  | SpeechStateResponse => TextToSpeech.SpeechStateResponse
  | TTSStatusResponse => TextToSpeech.TTSStatusResponse

/-- The class. -/
def cls (T : JsonTypes) : (d : ObjectDecoder) → ObjectClass d.Members d.Value
  | ClosedCaptionsSettings => Accessibility.JsonData.ClosedCaptionsSettings
  | VoiceGuidanceSettings => Accessibility.JsonData.VoiceGuidanceSettings
  | IfaJson => Advertising.JsonData.IfaJson
  | HDRFormat => Device.JsonData.HDRFormat
  | DisplaySizeJson => Display.JsonData.DisplaySizeJson T
  | StateChange => Lifecycle.JsonData.StateChange T
  | MemoryInfo => Stats.JsonData.MemoryInfo T
  | ListVoicesResponse => TextToSpeech.JsonData.ListVoicesResponse T
  | SpeechIdEvent => TextToSpeech.JsonData.SpeechIdEvent T
  | SpeechResponse => TextToSpeech.JsonData.SpeechResponse T
  | SpeechStateResponse => TextToSpeech.JsonData.SpeechStateResponse T
  | TTSStatusResponse => TextToSpeech.JsonData.TTSStatusResponse T

instance : (d : ObjectDecoder) → Inhabited d.Members
  | ClosedCaptionsSettings | VoiceGuidanceSettings | IfaJson | HDRFormat | DisplaySizeJson
  | StateChange | MemoryInfo | ListVoicesResponse | SpeechIdEvent | SpeechResponse
  | SpeechStateResponse | TTSStatusResponse => ⟨default⟩

/-- The members it reads, and what it converts them to. -/
def fields : ObjectDecoder → List (String × Conversion)
  | ClosedCaptionsSettings => [("enabled", .boolean), ("preferredLanguages", .strings)]
  | VoiceGuidanceSettings =>
    [("enabled", .boolean), ("rate", .double), ("navigationHints", .boolean)]
  | IfaJson => [("ifa", .string), ("ifa_type", .string), ("lmt", .string)]
  | HDRFormat =>
    [("hdr10", .boolean), ("hdr10Plus", .boolean), ("dolbyVision", .boolean), ("hlg", .boolean)]
  | DisplaySizeJson => [("width", .uint32), ("height", .uint32)]
  | StateChange => [("oldState", .lifecycleState), ("newState", .lifecycleState)]
  | MemoryInfo =>
    [("userMemoryUsedKiB", .uint32), ("userMemoryLimitKiB", .uint32),
      ("gpuMemoryUsedKiB", .uint32), ("gpuMemoryLimitKiB", .uint32)]
  | ListVoicesResponse => [("TTS_Status", .uint32), ("voices", .eachString)]
  | SpeechIdEvent => [("speechid", .uint32)]
  | SpeechResponse => [("speechid", .uint32), ("TTS_Status", .uint32), ("success", .boolean)]
  | SpeechStateResponse =>
    [("speechstate", .uint32), ("TTS_Status", .uint32), ("success", .boolean)]
  | TTSStatusResponse => [("TTS_Status", .uint32), ("success", .boolean)]

/-- The required list and the reads agree, key by key. -/
theorem keys_body (T : JsonTypes) (d : ObjectDecoder) :
    keys (d.cls T).body = (d.cls T).required := by
  cases d <;> rfl

/-- Statement by statement, a body converts what `fields` says. -/
theorem body_runsOn {T : JsonTypes} (hL : T.LooksUp) (d : ObjectDecoder) :
    RunsOn (d.cls T).body d.fields := by
  cases d with
  | ClosedCaptionsSettings => exact .boolean (.strings .nil)
  | VoiceGuidanceSettings => exact .boolean (.double (.boolean .nil))
  | IfaJson => exact .string (.string (.string .nil))
  | HDRFormat => exact .boolean (.boolean (.boolean (.boolean .nil)))
  | DisplaySizeJson => exact .uint32 (.uint32 .nil)
  | StateChange => exact .lifecycleState hL (.lifecycleState hL .nil)
  | MemoryInfo => exact .uint32 (.uint32 (.uint32 (.uint32 .nil)))
  | ListVoicesResponse => exact .uint32 (.exec (.eachString .nil))
  | SpeechIdEvent => exact .uint32 .nil
  | SpeechResponse => exact .uint32 (.uint32 (.boolean .nil))
  | SpeechStateResponse => exact .speechState (.uint32 (.boolean .nil))
  | TTSStatusResponse => exact .uint32 (.boolean .nil)

theorem required_ne_nil (T : JsonTypes) (d : ObjectDecoder) : (d.cls T).required ≠ [] := by
  cases d <;> exact List.cons_ne_nil _ _

/-- An object decoder returns on exactly the values whose members convert. -/
theorem exists_decode_iff {T : JsonTypes} (hT : T.ChecksExactly) (hL : T.LooksUp)
    (d : ObjectDecoder) (m : d.Members) (json : Json) :
    (∃ r, (T.object (d.cls T)).decode m json = .ok r) ↔ Convertible json d.fields := by
  rw [← d.body_runsOn hL json m]
  simp only [hT.decode_object (d.keys_body T) (d.required_ne_nil T)]
  constructor
  · rintro ⟨r, m', hfin, -⟩
    exact ⟨m', hfin⟩
  · rintro ⟨m', hfin⟩
    exact ⟨_, m', hfin, rfl⟩

/-- Each body assigns every member of its class. The voices are appended, but to a cleared list. -/
theorem body_alike (T : JsonTypes) (d : ObjectDecoder) (json : Json) (m n : d.Members) :
    (runBody json (d.cls T).body m).Alike (runBody json (d.cls T).body n) := by
  cases d with
  | ClosedCaptionsSettings => exact .assign fun enabled => .assign fun languages => .of_eq rfl
  | VoiceGuidanceSettings =>
    exact .assign fun enabled => .assign fun rate => .assign fun hints => .of_eq rfl
  | IfaJson => exact .assign fun ifa => .assign fun ifa_type => .assign fun lmt => .of_eq rfl
  | HDRFormat =>
    exact .assign fun hdr10 => .assign fun hdr10Plus => .assign fun dolbyVision =>
      .assign fun hlg => .of_eq rfl
  | DisplaySizeJson => exact .assign fun width => .assign fun height => .of_eq rfl
  | StateChange => exact .assign fun oldState => .assign fun newState => .of_eq rfl
  | MemoryInfo =>
    exact .assign fun userUsed => .assign fun userLimit => .assign fun gpuUsed =>
      .assign fun gpuLimit => .of_eq rfl
  | ListVoicesResponse => exact .assign fun status => .exec (.of_eq rfl)
  | SpeechIdEvent => exact .assign fun speechId => .of_eq rfl
  | SpeechResponse =>
    exact .assign fun speechId => .assign fun status => .assign fun success => .of_eq rfl
  | SpeechStateResponse =>
    exact .assign fun state => .assign fun status => .assign fun success => .of_eq rfl
  | TTSStatusResponse => exact .assign fun status => .assign fun success => .of_eq rfl

theorem forgets (T : JsonTypes) (d : ObjectDecoder) : (T.object (d.cls T)).Forgets :=
  ObjectClass.forgets (d.body_alike T)

theorem definite {T : JsonTypes} (hT : T.ChecksExactly) (d : ObjectDecoder) :
    (T.object (d.cls T)).Definite :=
  (d.forgets T).definite fun m json => (hT.checksFields.object_safe m json (d.keys_body T)).2

theorem exists_decodes_iff {T : JsonTypes} (hT : T.ChecksExactly) (hL : T.LooksUp)
    (d : ObjectDecoder) (json : Json) :
    (∃ r, (T.object (d.cls T)).Decodes json r) ↔ Convertible json d.fields := by
  rw [(d.definite hT).exists_decodes_iff default, d.exists_decode_iff hT hL]

end ObjectDecoder

/-! ## All decoder classes -/

inductive Decoder
  | object (d : ObjectDecoder)
  | DeviceClassJson
  | LifecycleState
  deriving DecidableEq, Repr

namespace Decoder

abbrev Members : Decoder → Type
  | object d => d.Members
  | DeviceClassJson => Device.DeviceClass
  | LifecycleState => Lifecycle.LifecycleState

abbrev Value : Decoder → Type
  | object d => d.Value
  | DeviceClassJson => Device.DeviceClass
  | LifecycleState => Lifecycle.LifecycleState

/-- The class. -/
def cls (T : JsonTypes) : (d : Decoder) → JsonClass d.Members d.Value
  | object d => T.object (d.cls T)
  | DeviceClassJson => Device.JsonData.DeviceClassJson T
  | LifecycleState => Lifecycle.JsonData.LifecycleState T

instance : (d : Decoder) → Inhabited d.Members
  | object d => inferInstanceAs (Inhabited d.Members)
  | DeviceClassJson => inferInstanceAs (Inhabited Device.DeviceClass)
  | LifecycleState => inferInstanceAs (Inhabited Lifecycle.LifecycleState)

theorem forgets (T : JsonTypes) : (d : Decoder) → (d.cls T).Forgets
  | object d => d.forgets T
  | DeviceClassJson => JsonClass.scalar_forgets _
  | LifecycleState => JsonClass.scalar_forgets _

/-- Every class decodes or throws, and what it held before does not matter. -/
theorem definite {T : JsonTypes} (hT : T.ChecksExactly) : (d : Decoder) → (d.cls T).Definite
  | object d => d.definite hT
  | DeviceClassJson => JsonClass.scalar_definite _
  | LifecycleState => JsonClass.scalar_definite _

end Decoder

end Firebolt
