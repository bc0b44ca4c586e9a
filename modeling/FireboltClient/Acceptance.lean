import FireboltClient.Events
import FireboltClient.Getters
import FireboltClient.OpenRpc

/-!
# What the specification allows is accepted

A conversion of a decoder takes a schema if it accepts whatever is valid under it. The decoders'
conversions take the schemas of their members one by one, so a valid value is accepted as long as
the members that the decoder asks for are there. One decoder asks for a member that its schema
leaves out of `required`.
-/

namespace Firebolt

/-- The conversion accepts what is valid under the schema. -/
def Conversion.Takes (conv : Conversion) (s : Schema) : Prop :=
  ∀ v, s v = true → conv.accepts v = true

namespace Conversion

theorem boolean_takes : boolean.Takes .boolean := fun _ h => h

theorem string_takes : string.Takes .string := fun _ h => h

theorem string_takes_stringWith (p : String → Bool) : string.Takes (.stringWith p) := by
  intro v h
  obtain ⟨s, rfl, -⟩ := Schema.stringWith_iff.mp h
  rfl

theorem double_takes (lo hi : ℚ) : double.Takes (.number lo hi) :=
  fun _ => Schema.isNumber_of_number

theorem uint32_takes_integerWith (p : ℤ → Bool) : uint32.Takes (.integerWith p) := by
  intro v h
  show (v.isNumber || v.isBoolean) = true
  rw [Schema.isNumber_of_integerWith h, Bool.true_or]

theorem uint32_takes_integer : uint32.Takes .integer := uint32_takes_integerWith _

theorem uint32_takes_ttsStatus : uint32.Takes OpenRpc.TTSStatus := uint32_takes_integerWith _

theorem uint32_takes_speechState : uint32.Takes OpenRpc.SpeechState := uint32_takes_integerWith _

/-- Both conversions to a list of strings take an array of strings. -/
theorem accepts_array {conv : Conversion} (hconv : conv = strings ∨ conv = eachString)
    {items : Schema} (hitems : string.Takes items) (n : ℕ) : conv.Takes (.array n items) := by
  intro v h
  obtain ⟨xs, rfl, -, hxs⟩ := Schema.array_iff.mp h
  have hall : xs.all Json.isString = true := List.all_eq_true.mpr fun x hx => hitems x (hxs x hx)
  rcases hconv with rfl | rfl
  · exact hall
  · exact hall

end Conversion

/-- Fields whose conversions take the schemas of the members convert, if the members are there. -/
theorem convertible_of_takes {json : Json} {fields : List (String × Conversion)}
    {properties : List (String × Schema)}
    (hfields : List.Forall₂ (fun f p => f.1 = p.1 ∧ f.2.Takes p.2) fields properties)
    (hvalid : ∀ p ∈ properties, ∀ v, json.find? p.1 = some v → p.2 v = true)
    (hpresent : ∀ f ∈ fields, (json.find? f.1).isSome) : Convertible json fields := by
  induction hfields with
  | nil => exact convertible_nil
  | @cons f p fields properties hfp _ ih =>
    obtain ⟨hkey, htakes⟩ := hfp
    have hrest : Convertible json fields :=
      ih (fun q hq => hvalid q (List.mem_cons_of_mem _ hq))
        fun g hg => hpresent g (List.mem_cons_of_mem _ hg)
    intro g hg
    rcases List.mem_cons.mp hg with rfl | hg
    · obtain ⟨v, hv⟩ := Option.isSome_iff_exists.mp (hpresent g List.mem_cons_self)
      exact ⟨v, hv, htakes v (hvalid p List.mem_cons_self v (hkey ▸ hv))⟩
    · exact hrest g hg

/-- A value that is valid under an object schema converts, if each field is there, because the
schema requires it or for some other reason. -/
theorem convertible_of_object {json : Json} {fields : List (String × Conversion)}
    {required : List String} {properties : List (String × Schema)}
    (hvalid : Schema.object required properties json = true)
    (hfields : List.Forall₂ (fun f p => f.1 = p.1 ∧ f.2.Takes p.2) fields properties)
    (hrequired : ∀ f ∈ fields, f.1 ∈ required ∨ (json.find? f.1).isSome) :
    Convertible json fields := by
  obtain ⟨-, hpresent, hproperties⟩ := Schema.object_iff.mp hvalid
  exact convertible_of_takes hfields hproperties fun f hf =>
    (hrequired f hf).elim (hpresent f.1) id

/-! ## The tables of names -/

theorem lookup_lifecycleStateEnum (s : String) :
    List.lookup s Lifecycle.JsonData.LifecycleStateEnum = OpenRpc.lifecycleState? s := by
  fun_cases OpenRpc.lifecycleState? s
  case case7 => simp_all [Lifecycle.JsonData.LifecycleStateEnum]
  all_goals rfl

theorem lookup_deviceClassEnum (s : String) :
    List.lookup s Device.JsonData.DeviceClassEnum = OpenRpc.deviceClass? s := by
  fun_cases OpenRpc.deviceClass? s
  case case4 => simp_all [Device.JsonData.DeviceClassEnum]
  all_goals rfl

/-! ## The decoders and their schemas -/

namespace Decoder

/-- The schema of what a decoder decodes, for the decoders whose schema says which members are
required or which strings are allowed. -/
def schema? : Decoder → Option Schema
  | .object .ClosedCaptionsSettings => some OpenRpc.ClosedCaptionsSettings
  | .object .VoiceGuidanceSettings => some OpenRpc.VoiceGuidanceSettings
  | .object .IfaJson => some OpenRpc.AdvertisingIdResult
  | .object .HDRFormat => some OpenRpc.HDRFormatMap
  | .object .MemoryInfo => some OpenRpc.MemoryUsage
  | .object .ListVoicesResponse => some OpenRpc.ListVoicesResponse
  | .object .SpeechIdEvent => some OpenRpc.SpeechIdEvent
  | .object .SpeechResponse => some OpenRpc.SpeechResponse
  | .object .SpeechStateResponse => some OpenRpc.SpeechStateResponse
  | .object .TTSStatusResponse => some OpenRpc.TTSStatusResponse
  | .object .DisplaySizeJson | .object .StateChange => none
  | .DeviceClassJson => some OpenRpc.DeviceClass
  | .LifecycleState => some OpenRpc.LifecycleState

variable {T : JsonTypes} {json : Json} {s : Schema}

open ObjectDecoder Conversion in
/-- Every member that an object decoder converts is converted, if it is there. -/
theorem convertible_of_valid {d : ObjectDecoder} (hs : schema? (.object d) = some s)
    (hvalid : s json = true)
    (hthere : d = .ClosedCaptionsSettings → (json.find? "preferredLanguages").isSome) :
    Convertible json d.fields := by
  cases d <;> cases hs
  case ClosedCaptionsSettings =>
    refine convertible_of_object hvalid (.cons ⟨rfl, boolean_takes⟩
      (.cons ⟨rfl, accepts_array (.inl rfl) (string_takes_stringWith _) 0⟩ .nil)) ?_
    simpa [fields] using hthere rfl
  case VoiceGuidanceSettings =>
    exact convertible_of_object hvalid (.cons ⟨rfl, boolean_takes⟩ (.cons ⟨rfl, double_takes _ _⟩
      (.cons ⟨rfl, boolean_takes⟩ .nil))) (by simp [fields])
  case IfaJson =>
    exact convertible_of_object hvalid (.cons ⟨rfl, string_takes⟩ (.cons ⟨rfl, string_takes⟩
      (.cons ⟨rfl, string_takes_stringWith _⟩ .nil))) (by simp [fields])
  case HDRFormat =>
    exact convertible_of_object hvalid (.cons ⟨rfl, boolean_takes⟩ (.cons ⟨rfl, boolean_takes⟩
      (.cons ⟨rfl, boolean_takes⟩ (.cons ⟨rfl, boolean_takes⟩ .nil)))) (by simp [fields])
  case MemoryInfo =>
    exact convertible_of_object hvalid (.cons ⟨rfl, uint32_takes_integer⟩
      (.cons ⟨rfl, uint32_takes_integer⟩ (.cons ⟨rfl, uint32_takes_integer⟩
        (.cons ⟨rfl, uint32_takes_integer⟩ .nil)))) (by simp [fields])
  case ListVoicesResponse =>
    exact convertible_of_object hvalid (.cons ⟨rfl, uint32_takes_ttsStatus⟩
      (.cons ⟨rfl, accepts_array (.inr rfl) string_takes 0⟩ .nil)) (by simp [fields])
  case SpeechIdEvent =>
    exact convertible_of_object hvalid (.cons ⟨rfl, uint32_takes_integer⟩ .nil)
      (by simp [fields])
  case SpeechResponse =>
    exact convertible_of_object hvalid (.cons ⟨rfl, uint32_takes_integer⟩
      (.cons ⟨rfl, uint32_takes_ttsStatus⟩ (.cons ⟨rfl, boolean_takes⟩ .nil)))
      (by simp [fields])
  case SpeechStateResponse =>
    exact convertible_of_object hvalid (.cons ⟨rfl, uint32_takes_speechState⟩
      (.cons ⟨rfl, uint32_takes_ttsStatus⟩ (.cons ⟨rfl, boolean_takes⟩ .nil)))
      (by simp [fields])
  case TTSStatusResponse =>
    exact convertible_of_object hvalid (.cons ⟨rfl, uint32_takes_ttsStatus⟩
      (.cons ⟨rfl, boolean_takes⟩ .nil)) (by simp [fields])

/-- A string that the schema lists is in the table, if the table has what the schema lists. -/
theorem scalar_decodes_of_valid (hL : T.LooksUp) {α : Type} {table : EnumType α}
    {names : String → Option α} (htable : ∀ w, List.lookup w table = names w)
    (hvalid : Schema.stringWith (fun w => (names w).isSome) json = true) :
    ∃ a, (JsonClass.scalar (T.enumAtJson table)).Decodes json a := by
  obtain ⟨w, rfl, hw⟩ := Schema.stringWith_iff.mp hvalid
  obtain ⟨a, ha⟩ := Option.isSome_iff_exists.mp hw
  exact ⟨a, fun m => JsonClass.scalar_decode_eq_ok.mpr
    ((enumAtJson_eq_ok hL).mpr ⟨w, rfl, (htable w).trans ha⟩)⟩

/-- A decoder returns on a valid value, but for one that lacks the member which only the client
requires. -/
theorem exists_decodes_iff_of_valid (hT : T.ChecksExactly) (hL : T.LooksUp) {d : Decoder}
    (hs : d.schema? = some s) (hvalid : s json = true) :
    (∃ v, (d.cls T).Decodes json v) ↔
      (d = .object .ClosedCaptionsSettings → (json.find? "preferredLanguages").isSome) := by
  cases d with
  | object d =>
    have hiff : (∃ v, ((object d).cls T).Decodes json v) ↔ Convertible json d.fields :=
      d.exists_decodes_iff hT hL json
    rw [hiff]
    constructor
    · rintro hconv hd
      cases hd
      obtain ⟨v, hv, -⟩ := hconv ("preferredLanguages", .strings) (by simp [ObjectDecoder.fields])
      rw [hv]
      rfl
    · exact fun hthere => convertible_of_valid hs hvalid fun hd => hthere (congrArg object hd)
  | DeviceClassJson =>
    cases hs
    exact iff_of_true (scalar_decodes_of_valid hL lookup_deviceClassEnum hvalid) (by simp)
  | LifecycleState =>
    cases hs
    exact iff_of_true (scalar_decodes_of_valid hL lookup_lifecycleStateEnum hvalid) (by simp)

end Decoder

/-! ## Getters and events -/

section

variable {ω : Type} {T : JsonTypes} {H : IHelper} {M : SubscriptionManager ω} {d : Decoder}
  {json : Json}

/-- A value gets through to the application: `fromJson` returns, every getter with this decoder
returns a value, and no event with this decoder is dropped. -/
structure Accepted (T : JsonTypes) (H : IHelper) (M : SubscriptionManager ω) (d : Decoder)
    (json : Json) : Prop where
  returns : ∀ m, ∃ v, (d.cls T).decode m json = .ok v
  getter : ∀ g : Getter, g.decoder = d → H.reply (g.request T H) = .ok json →
    ∃ v, g.call T H = .ok v
  event : ∀ (e : Event) (notification : e.Value → ω) (s s' : M.State) (id : SubscriptionId),
    e.decoder? = some d → e.subscribe T M notification s = (.ok id, s') →
      ∃ v, (M.onEvent e.documentedName json s').1 =
        (M.onEvent e.documentedName json s).1 ++ [notification v]

theorem accepted_iff_decodes (hT : T.ChecksExactly) (hH : H.Gets) (hM : M.Lawful) :
    Accepted T H M d json ↔ ∃ v, (d.cls T).Decodes json v := by
  refine ⟨fun h => ((d.definite hT).exists_decodes_iff default).mpr (h.returns default), ?_⟩
  rintro ⟨v, hv⟩
  refine ⟨fun m => ⟨v, hv m⟩, ?_, ?_⟩
  · rintro g rfl hreply
    exact ⟨v, Getter.call_decodes hH hreply hv⟩
  · intro e notification s s' id hd hsub
    rw [Event.invoked_iff hM (Event.definite_of_decoder? hT hd) hsub, Event.exists_decodes_iff hd]
    exact ⟨v, hv⟩

/-- A value that is valid under the schema of a decoder gets through to the application just when
it is not a `ClosedCaptionsSettings` without `preferredLanguages`. -/
theorem accepted_iff (hT : T.ChecksExactly) (hL : T.LooksUp) (hH : H.Gets) (hM : M.Lawful)
    {s : Schema} (hs : d.schema? = some s) (hvalid : s json = true) :
    Accepted T H M d json ↔
      (d = .object .ClosedCaptionsSettings → (json.find? "preferredLanguages").isSome) := by
  rw [accepted_iff_decodes hT hH hM]
  exact Decoder.exists_decodes_iff_of_valid hT hL hs hvalid

end

/-- The optional member is there, as an empty array. -/
theorem accepted_noPreferences :
    Accepted .documented (.documented fun _ => .error (.other 1)) (.documented Unit 1)
      (.object .ClosedCaptionsSettings)
      (.object [("enabled", .boolean true), ("preferredLanguages", .array [])]) :=
  (accepted_iff JsonTypes.documented_checksExactly JsonTypes.documented_looksUp
    (IHelper.documented_gets _) (SubscriptionManager.documented_lawful Unit 1) rfl
    (by decide)).mpr fun _ => rfl

/-- Without the optional member, which the schema allows, the decoder throws and the getter
fails. -/
theorem not_accepted_withoutPreferences :
    let json : Json := .object [("enabled", .boolean true)]
    OpenRpc.ClosedCaptionsSettings json = true ∧
      (∀ m, (JsonTypes.documented.object Accessibility.JsonData.ClosedCaptionsSettings).decode m
        json = .error (.thrown missingFields)) ∧
      Accessibility.AccessibilityImpl.closedCaptionsSettings .documented
        (.documented fun _ => .ok json) = .error .InvalidParams :=
  ⟨by decide, fun _ => rfl, rfl⟩

end Firebolt
