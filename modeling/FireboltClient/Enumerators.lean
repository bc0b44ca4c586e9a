import FireboltClient.Acceptance
import FireboltClient.History
import FireboltClient.Numbers
import Mathlib.Tactic.IntervalCases

/-!
# Decoded enumerators

The states and classes that OpenRPC pairs with strings and integers, and the decoders that return
them. Three decoders ask a table; the decoder of the speech state casts an integer instead, and
the cast gives an enumerator only if the integer is listed.
-/

open Json

namespace Firebolt

/-! ## What a JSON value stands for -/

namespace OpenRpc

def lifecycleStateOf? : Json → Option Lifecycle.LifecycleState
  | .string s => lifecycleState? s
  | _ => none

def deviceClassOf? : Json → Option Device.DeviceClass
  | .string s => deviceClass? s
  | _ => none

/-- A number with an integral value, in whatever way it is stored. -/
def speechStateOf? (json : Json) : Option TextToSpeech.SpeechState :=
  json.number?.bind fun q => if q.isInt then speechState? q.num else none

theorem bounds_of_speechState? {n : ℤ} {s : TextToSpeech.SpeechState}
    (h : speechState? n = some s) : 0 ≤ n ∧ n ≤ 3 := by
  revert h
  fun_cases speechState? n <;> intro h
  case case5 => exact absurd h (by simp)
  all_goals decide

theorem mem_enumerators_of_speechState? {n : ℤ} {s : TextToSpeech.SpeechState}
    (h : speechState? n = some s) : s ∈ TextToSpeech.SpeechState.enumerators := by
  revert h
  fun_cases speechState? n <;> intro h
  case case5 => exact absurd h (by simp)
  all_goals
    rw [← Option.some.inj h]
    decide

theorem speechStateOf?_eq_some_iff {v : Json} {s : TextToSpeech.SpeechState} :
    speechStateOf? v = some s ↔ ∃ n : ℤ, v.number? = some (n : ℚ) ∧ speechState? n = some s := by
  unfold speechStateOf?
  rw [Option.bind_eq_some_iff]
  constructor
  · rintro ⟨q, hq, h⟩
    by_cases hint : q.isInt
    · rw [if_pos hint] at h
      exact ⟨q.num, by rw [hq, Rat.eq_num_of_isInt hint]; rfl, h⟩
    · rw [if_neg hint] at h
      exact absurd h (by simp)
  · rintro ⟨n, hn, h⟩
    exact ⟨n, hn, by rw [if_pos (by simp [Rat.isInt])]; exact h⟩

end OpenRpc

/-- The cast gives the listed state for a listed integer. -/
theorem speechState?_toNat {u : UInt32} (h : u.toNat ≤ 3) :
    OpenRpc.speechState? (u.toNat : ℤ) = some (.ofUInt32 u) := by
  have hu : u = UInt32.ofNat u.toNat := UInt32.ofNat_toNat.symm
  rw [hu]
  generalize u.toNat = k at h
  interval_cases k <;> rfl

variable {T : JsonTypes} {H : IHelper} {json : Json}

theorem enumAtJson_lifecycleState (hL : T.LooksUp) {v : Json} {s : Lifecycle.LifecycleState} :
    T.enumAtJson Lifecycle.JsonData.LifecycleStateEnum v = .ok s ↔
      OpenRpc.lifecycleStateOf? v = some s := by
  rw [enumAtJson_eq_ok hL]
  simp only [lookup_lifecycleStateEnum]
  cases v <;> simp [OpenRpc.lifecycleStateOf?]

theorem enumAtJson_deviceClass (hL : T.LooksUp) {v : Json} {c : Device.DeviceClass} :
    T.enumAtJson Device.JsonData.DeviceClassEnum v = .ok c ↔
      OpenRpc.deviceClassOf? v = some c := by
  rw [enumAtJson_eq_ok hL]
  simp only [lookup_deviceClassEnum]
  cases v <;> simp [OpenRpc.deviceClassOf?]

/-- A member read as a speech state is the listed state just when it holds a listed integer. -/
theorem speechState_declared_iff {beyond : Float → UInt32} {key : String}
    {s : TextToSpeech.SpeechState}
    (h : json.Reads key (TextToSpeech.JsonData.getSpeechState beyond) s) :
    (s ∈ TextToSpeech.SpeechState.enumerators ∧
        (json.find? key).bind OpenRpc.speechStateOf? = some s) ↔
      ∃ n : ℤ, 0 ≤ n ∧ n ≤ 3 ∧ json.numberAt? key = some (n : ℚ) := by
  obtain ⟨v, hv, hget⟩ := h
  obtain ⟨u, hu, rfl⟩ := getSpeechState_eq_ok.mp hget
  rw [numberAt?, hv, Option.bind_some, Option.bind_some, OpenRpc.speechStateOf?_eq_some_iff]
  constructor
  · rintro ⟨-, n, hn, hstate⟩
    obtain ⟨hlo, hhi⟩ := OpenRpc.bounds_of_speechState? hstate
    exact ⟨n, hlo, hhi, hn⟩
  · rintro ⟨n, hlo, hhi, hn⟩
    obtain ⟨k, rfl⟩ := Int.eq_ofNat_of_zero_le hlo
    have hnumber : v.number? = some (k : ℚ) := by exact_mod_cast hn
    obtain ⟨u', hu', hk⟩ := getUInt32_of_number hnumber (by omega)
    obtain rfl : u = u' := Except.ok.inj (hu.symm.trans hu')
    have hstate : OpenRpc.speechState? (k : ℤ) = some (.ofUInt32 u) := by
      rw [← hk]
      exact speechState?_toNat (by omega)
    exact ⟨OpenRpc.mem_enumerators_of_speechState? hstate, k, hn, hstate⟩

/-! ## The decoders -/

/-- Every enumeration in a result is what the JSON value stands for, and a declared enumerator. -/
def Decoder.Declared : (d : Decoder) → Json → d.Value → Prop
  | .LifecycleState => fun json s => OpenRpc.lifecycleStateOf? json = some s
  | .DeviceClassJson => fun json c => OpenRpc.deviceClassOf? json = some c
  | .object .StateChange => fun json r =>
    (json.find? "oldState").bind OpenRpc.lifecycleStateOf? = some r.oldState ∧
      (json.find? "newState").bind OpenRpc.lifecycleStateOf? = some r.newState
  | .object .SpeechStateResponse => fun json r =>
    r.speechState ∈ TextToSpeech.SpeechState.enumerators ∧
      (json.find? "speechstate").bind OpenRpc.speechStateOf? = some r.speechState
  | _ => fun _ _ => True

/-- The decoder returns only what the value stands for; on a value that stands for nothing it
throws and its getters return `InvalidParams`. -/
structure DecodesDeclared (T : JsonTypes) (H : IHelper) (d : Decoder) (json : Json) : Prop where
  value : ∀ m v, (d.cls T).decode m json = .ok v → d.Declared json v
  throws : (∀ v, ¬ d.Declared json v) → (d.cls T).Throws json
  getter : ∀ g : Getter, g.decoder = d → H.reply (g.request T H) = .ok json →
    (∀ v, ¬ d.Declared json v) → g.call T H = .error .InvalidParams

/-- Returning nothing else is all there is to it. -/
theorem decodesDeclared_iff (hT : T.ChecksExactly) (hH : H.Gets) (d : Decoder) :
    DecodesDeclared T H d json ↔
      ∀ m v, (d.cls T).decode m json = .ok v → d.Declared json v := by
  refine ⟨DecodesDeclared.value, fun hvalue => ?_⟩
  have hthrows : (∀ v, ¬ d.Declared json v) → (d.cls T).Throws json := by
    intro hnone
    rcases d.definite hT json with ⟨v, hv⟩ | ht
    · exact absurd (hvalue default v (hv default)) (hnone v)
    · exact ht
  refine ⟨hvalue, hthrows, ?_⟩
  rintro g rfl hreply hnone
  exact Getter.call_throws hH hreply (hthrows hnone)

theorem declared_stateChange (hT : T.ChecksExactly) (hL : T.LooksUp)
    {m : Lifecycle.JsonData.StateChange.Members} {r : Lifecycle.StateChange} :
    (T.object (Lifecycle.JsonData.StateChange T)).decode m json = .ok r ↔
      (Decoder.object .StateChange).Declared json r := by
  rw [Lifecycle.JsonData.decode_stateChange hT]
  simp only [Reads, Decoder.Declared, enumAtJson_lifecycleState hL, Option.bind_eq_some_iff]

/-- If the value is accepted, `speechstate` is one of the listed integers. -/
def SpeechStateListed (json : Json) : Prop :=
  Convertible json ObjectDecoder.SpeechStateResponse.fields →
    ∃ n : ℤ, 0 ≤ n ∧ n ≤ 3 ∧ json.numberAt? "speechstate" = some (n : ℚ)

theorem declared_speechStateResponse_iff (hT : T.ChecksExactly) (hL : T.LooksUp) :
    (∀ m r, (T.object (TextToSpeech.JsonData.SpeechStateResponse T)).decode m json = .ok r →
        (Decoder.object .SpeechStateResponse).Declared json r) ↔ SpeechStateListed json := by
  have hexists := fun m => ObjectDecoder.SpeechStateResponse.exists_decode_iff hT hL m json
  constructor
  · intro h hconv
    obtain ⟨r, hr⟩ := (hexists default).mpr hconv
    exact (speechState_declared_iff
      ((TextToSpeech.JsonData.decode_speechStateResponse hT).mp hr).1).mp (h default r hr)
  · intro h m r hr
    exact (speechState_declared_iff
      ((TextToSpeech.JsonData.decode_speechStateResponse hT).mp hr).1).mpr
        (h ((hexists m).mp ⟨r, hr⟩))

section

variable {ω : Type} {M : SubscriptionManager ω}

/-- Every decoder returns only enumerators that the JSON value stands for, on all values but those
that are accepted as a `SpeechStateResponse` with a `speechstate` that is not listed; and a
history with a change that stands for nothing is dropped. -/
theorem enums_declared_iff (hT : T.ChecksExactly) (hL : T.LooksUp) (hA : T.DecodesArrays)
    (hH : H.Gets) (hM : M.Lawful) (json : Json) :
    (∀ d, DecodesDeclared T H d json ↔
      (d = .object .SpeechStateResponse → SpeechStateListed json)) ∧
    ∀ (notification : List Lifecycle.StateChange → ω) s s' id xs,
      Lifecycle.LifecycleImpl.subscribeOnStateChanged T M notification s = (.ok id, s') →
      (∃ x ∈ xs, ∀ r, ¬ (Decoder.object .StateChange).Declared x r) →
        (M.onEvent "Lifecycle2.onStateChanged" (.array xs) s').1 =
          (M.onEvent "Lifecycle2.onStateChanged" (.array xs) s).1 := by
  refine ⟨fun d => ?_, fun notification s s' id xs hsub hbad => ?_⟩
  · rw [decodesDeclared_iff hT hH]
    by_cases hd : d = .object .SpeechStateResponse
    · subst hd
      rw [forall_prop_of_true rfl]
      exact declared_speechStateResponse_iff hT hL
    · refine iff_of_true (fun m v hv => ?_) fun h => absurd h hd
      cases d with
      | object d =>
        cases d with
        | StateChange => exact (declared_stateChange hT hL).mp hv
        | SpeechStateResponse => exact absurd rfl hd
        | _ => trivial
      | DeviceClassJson =>
        exact (enumAtJson_deviceClass hL).mp (JsonClass.scalar_decode_eq_ok.mp hv)
      | LifecycleState =>
        exact (enumAtJson_lifecycleState hL).mp (JsonClass.scalar_decode_eq_ok.mp hv)
  · obtain ⟨x, hx, hnone⟩ := hbad
    refine Lifecycle.history_dropped hT hL hA hM hsub ⟨x, hx, fun r hr => hnone r ?_⟩
    exact (declared_stateChange hT hL).mp ((Lifecycle.decodes_iff_names hT hL).mpr hr default)

end

/-- A listed state, stored as a floating number. -/
theorem enums_declared_notFound :
    let json : Json := .object [("TTS_Status", .number_unsigned 0), ("speechstate",
      .number_float 3), ("success", .boolean true)]
    DecodesDeclared .documented (.documented fun _ => .ok json) (.object .SpeechStateResponse)
      json := by
  intro json
  refine ((enums_declared_iff JsonTypes.documented_checksExactly JsonTypes.documented_looksUp
    JsonTypes.documented_decodesArrays (IHelper.documented_gets _)
    (SubscriptionManager.documented_lawful Unit 1) json).1 _).mpr fun _ _ => ?_
  exact ⟨3, by decide, by decide, by decide +kernel⟩

/-- The integer 7 is cast to a state that is not declared, and `2 ^ 32` to one that it does not
stand for. -/
theorem speechState_seven :
    let decode := (JsonTypes.documented.object (TextToSpeech.JsonData.SpeechStateResponse
      .documented)).decode default
    let json (n : UInt64) : Json := .object [("TTS_Status", .number_unsigned 0),
      ("speechstate", .number_unsigned n), ("success", .boolean true)]
    decode (json 7) = .ok ⟨⟨7⟩, 0, true⟩ ∧
      ⟨7⟩ ∉ TextToSpeech.SpeechState.enumerators ∧
        decode (json 4294967296) = .ok ⟨.PENDING, 0, true⟩ ∧
          OpenRpc.speechState? 4294967296 = none :=
  ⟨rfl, by decide, rfl, rfl⟩

end Firebolt
