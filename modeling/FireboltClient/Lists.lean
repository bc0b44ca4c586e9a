import FireboltClient.Decoders

/-!
# Two ways to read a list of strings

`ListVoicesResponse` iterates over the member and converts each item; `ClosedCaptionsSettings`
converts the member as a whole. The iteration also takes values that are no arrays.
-/

open Json

namespace Firebolt

variable {T : JsonTypes} {json v : Json} {ws : List String}

/-- What is iterated like an array of strings without being an array: null, a string, and an
object with strings for members. -/
def IteratesAsStrings (v : Json) : Prop :=
  v = .null ∨ (∃ s, v = .string s) ∨ ∃ ms, v = .object ms ∧ ∀ p ∈ ms, p.2.isString = true

/-- The voices are the items of the member, if all of them are strings. -/
theorem voices_eq_iff (hT : T.ChecksExactly) {m : TextToSpeech.JsonData.ListVoicesResponse.Members}
    (hvoices : json.find? "voices" = some v)
    (hstatus : ∃ w, json.find? "TTS_Status" = some w ∧ Conversion.uint32.accepts w = true) :
    (∃ r, (T.object (TextToSpeech.JsonData.ListVoicesResponse T)).decode m json = .ok r ∧
      r.voices = ws) ↔ v.items = ws.map string := by
  obtain ⟨w, hw, haccepts⟩ := hstatus
  obtain ⟨n, hn⟩ : ∃ n, w.getUInt32 T.beyond = .ok n := exists_getUInt32_iff.mpr haccepts
  rw [← mapM_getString_eq_ok]
  simp only [TextToSpeech.JsonData.decode_listVoicesResponse hT]
  constructor
  · rintro ⟨r, ⟨-, hreads⟩, rfl⟩
    exact (reads_iff hvoices).mp hreads
  · intro hitems
    exact ⟨⟨n, ws⟩, ⟨⟨w, hw, hn⟩, v, hvoices, hitems⟩, rfl⟩

/-- The preferred languages are the elements of the member, if it is an array of strings. -/
theorem preferredLanguages_eq_iff (hT : T.ChecksExactly)
    {m : Accessibility.JsonData.ClosedCaptionsSettings.Members}
    (hlanguages : json.find? "preferredLanguages" = some v)
    (henabled : ∃ b, json.find? "enabled" = some (.boolean b)) :
    (∃ r, (T.object Accessibility.JsonData.ClosedCaptionsSettings).decode m json = .ok r ∧
      r.preferredLanguages = ws) ↔ v = .array (ws.map string) := by
  obtain ⟨b, hb⟩ := henabled
  simp only [Accessibility.JsonData.decode_closedCaptionsSettings hT, reads_getBool,
    reads_getStrings, hlanguages, Option.some.injEq]
  constructor
  · rintro ⟨r, ⟨-, hreads⟩, rfl⟩
    exact hreads
  · exact fun h => ⟨⟨b, ws⟩, ⟨hb, h⟩, rfl⟩

/-- Items and elements agree, as lists of strings, on all other values. -/
theorem items_eq_iff_array (v : Json) :
    (∀ ws : List String, v.items = ws.map string ↔ v = .array (ws.map string)) ↔
      ¬ IteratesAsStrings v := by
  constructor
  · rintro h (rfl | ⟨s, rfl⟩ | ⟨ms, rfl, hms⟩)
    · exact absurd ((h []).mp rfl) (by simp)
    · exact absurd ((h [s]).mp rfl) (by simp)
    · have hall : ∀ x ∈ ms.map Prod.snd, ∃ s, x.getString = .ok s := by
        intro x hx
        obtain ⟨p, hp, rfl⟩ := List.mem_map.mp hx
        exact exists_getString_iff.mpr (hms p hp)
      obtain ⟨ws, hws⟩ := exists_mapM_eq_ok_iff.mpr hall
      exact absurd ((h ws).mp (mapM_getString_eq_ok.mp hws)) (by simp)
  · intro hnot ws
    have hstrings : v.items = ws.map string → ∀ x ∈ v.items, x.isString = true := by
      intro hitems x hx
      rw [hitems] at hx
      obtain ⟨w, -, rfl⟩ := List.mem_map.mp hx
      rfl
    cases v with
    | array xs => simp [items]
    | null => exact absurd (Or.inl rfl) hnot
    | string s => exact absurd (Or.inr (Or.inl ⟨s, rfl⟩)) hnot
    | object ms =>
      refine iff_of_false (fun hitems => hnot (Or.inr (Or.inr ⟨ms, rfl, ?_⟩))) (by simp)
      exact fun p hp => hstrings hitems p.2 (List.mem_map_of_mem hp)
    | _ =>
      refine iff_of_false (fun hitems => ?_) (by simp)
      exact absurd (hstrings hitems _ (List.mem_singleton_self _)) Bool.false_ne_true

/-- With one value under `voices` and under `preferredLanguages`, and the other members in order,
both decoders return the same strings, those of the array of strings that the value is, or both
throw; just when the value is not one of those that only iterate as strings. -/
theorem stringLists_agree_iff (hT : T.ChecksExactly) {json' : Json}
    {m : TextToSpeech.JsonData.ListVoicesResponse.Members}
    {m' : Accessibility.JsonData.ClosedCaptionsSettings.Members}
    (hvoices : json.find? "voices" = some v)
    (hstatus : ∃ w, json.find? "TTS_Status" = some w ∧ Conversion.uint32.accepts w = true)
    (hlanguages : json'.find? "preferredLanguages" = some v)
    (henabled : ∃ b, json'.find? "enabled" = some (.boolean b)) :
    (∀ ws,
      ((∃ r, (T.object (TextToSpeech.JsonData.ListVoicesResponse T)).decode m json = .ok r ∧
          r.voices = ws) ↔
        ∃ r, (T.object Accessibility.JsonData.ClosedCaptionsSettings).decode m' json' = .ok r ∧
          r.preferredLanguages = ws) ∧
      ((∃ r, (T.object (TextToSpeech.JsonData.ListVoicesResponse T)).decode m json = .ok r ∧
          r.voices = ws) ↔ v = .array (ws.map string))) ↔
      ¬ IteratesAsStrings v := by
  simp only [voices_eq_iff hT hvoices hstatus, preferredLanguages_eq_iff hT hlanguages henabled,
    and_self]
  exact items_eq_iff_array v

/-- An array of strings with a bad element at its end: both decoders throw. -/
theorem stringLists_agree_badElement :
    let v : Json := .array [.string "carol", .boolean true]
    let voices := (JsonTypes.documented.object (TextToSpeech.JsonData.ListVoicesResponse
      .documented)).decode default (.object [("TTS_Status", .number_unsigned 0), ("voices", v)])
    let languages := (JsonTypes.documented.object
      Accessibility.JsonData.ClosedCaptionsSettings).decode default
        (.object [("enabled", .boolean true), ("preferredLanguages", v)])
    ∀ ws, ((∃ r, voices = .ok r ∧ r.voices = ws) ↔
        ∃ r, languages = .ok r ∧ r.preferredLanguages = ws) ∧
      ((∃ r, voices = .ok r ∧ r.voices = ws) ↔ v = .array (ws.map string)) := by
  intro v voices languages
  have hnot : ¬ IteratesAsStrings v := by simp [IteratesAsStrings, v]
  exact (stringLists_agree_iff JsonTypes.documented_checksExactly rfl ⟨_, rfl, rfl⟩ rfl
    ⟨true, rfl⟩).mpr hnot

/-- Null under `voices` is read as no voices; as a whole it is refused. -/
theorem voices_null :
    (JsonTypes.documented.object (TextToSpeech.JsonData.ListVoicesResponse .documented)).decode
        default (.object [("TTS_Status", .number_unsigned 0), ("voices", .null)]) = .ok ⟨0, []⟩ ∧
      Json.null.getStrings = .error (.type_error 302) ∧
      (JsonTypes.documented.object Accessibility.JsonData.ClosedCaptionsSettings).decode default
        (.object [("enabled", .boolean true), ("preferredLanguages", .null)]) =
          .error (.thrown (.type_error 302)) :=
  ⟨rfl, rfl, rfl⟩

end Firebolt
