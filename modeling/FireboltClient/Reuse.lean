import FireboltClient.Decoders

/-!
# Decoders that are used again

The members of a decoder have no initial values, and an exception leaves them half updated. None
of it shows: a `fromJson` that returns has overwritten every member, and a list member holds the
strings of that value and nothing else.
-/

open Json

namespace Firebolt.Decoder

/-- The lists in a result, each with the key it is decoded from. -/
def lists : (d : Decoder) → d.Value → List (String × List String)
  | object .ClosedCaptionsSettings, r => [("preferredLanguages", r.preferredLanguages)]
  | object .ListVoicesResponse, r => [("voices", r.voices)]
  | _, _ => []

variable {T : JsonTypes} {json : Json}

/-- The languages are converted as a whole, so they are the elements of an array. -/
theorem items_preferredLanguages {m : Accessibility.JsonData.ClosedCaptionsSettings.Members}
    {r : Accessibility.ClosedCaptionsSettings}
    (h : (T.object Accessibility.JsonData.ClosedCaptionsSettings).decode m json = .ok r) :
    ∃ v, json.find? "preferredLanguages" = some v ∧
      v.items = r.preferredLanguages.map string := by
  obtain ⟨-, m', hfin, rfl⟩ := ObjectClass.decode_eq_ok.mp h
  simp only [Accessibility.JsonData.ClosedCaptionsSettings, finishes_assign, finishes_nil,
    reads_getStrings] at hfin
  obtain ⟨enabled, -, languages, hlanguages, rfl⟩ := hfin
  exact ⟨_, hlanguages, rfl⟩

/-- The voices are appended one by one to a list that was cleared, so they are the items. -/
theorem items_voices {m : TextToSpeech.JsonData.ListVoicesResponse.Members}
    {r : TextToSpeech.ListVoicesResponse}
    (h : (T.object (TextToSpeech.JsonData.ListVoicesResponse T)).decode m json = .ok r) :
    ∃ v, json.find? "voices" = some v ∧ v.items = r.voices.map string := by
  obtain ⟨-, m', hfin, rfl⟩ := ObjectClass.decode_eq_ok.mp h
  simp only [TextToSpeech.JsonData.ListVoicesResponse, finishes_assign, finishes_exec,
    finishes_forEach, finishes_nil, TextToSpeech.JsonData.foldl_voices, List.nil_append] at hfin
  obtain ⟨status, -, voices, ⟨v, hv, hvoices⟩, rfl⟩ := hfin
  exact ⟨v, hv, mapM_getString_eq_ok.mp hvoices⟩

/-- A list in a result holds the items of the member it is decoded from, in their order. -/
theorem items_lists {d : Decoder} {m : d.Members} {r : d.Value}
    (h : (d.cls T).decode m json = .ok r) :
    ∀ l ∈ d.lists r, ∃ v, json.find? l.1 = some v ∧ v.items = l.2.map string := by
  cases d with
  | DeviceClassJson | LifecycleState => exact fun l hl => absurd hl List.not_mem_nil
  | object d =>
    cases d with
    | ClosedCaptionsSettings =>
      intro l hl
      obtain rfl := List.mem_singleton.mp hl
      exact items_preferredLanguages h
    | ListVoicesResponse =>
      intro l hl
      obtain rfl := List.mem_singleton.mp hl
      exact items_voices h
    | _ => exact fun l hl => absurd hl List.not_mem_nil

/-- A value that is decoded by an object is decoded by every other object of the class, whatever
the two have been through since they were made: to the same result and the same members, with
lists that hold exactly what the value lists. -/
theorem decode_held {T : JsonTypes} {d : Decoder} {m₀ : d.Members} {earlier : List Json}
    {json : Json} {r : d.Value} (h : (d.cls T).decode ((d.cls T).held m₀ earlier) json = .ok r)
    (m₀' : d.Members) (earlier' : List Json) :
    (d.cls T).decode ((d.cls T).held m₀' earlier') json = .ok r ∧
      ((d.cls T).fromJson json ((d.cls T).held m₀' earlier')).self =
        ((d.cls T).fromJson json ((d.cls T).held m₀ earlier)).self ∧
      ∀ l ∈ d.lists r, ∃ v, json.find? l.1 = some v ∧ v.items = l.2.map string := by
  have hforgets : (d.cls T).Forgets := d.forgets T
  refine ⟨?_, ?_, items_lists h⟩
  · rw [hforgets.decode_eq _ ((d.cls T).held m₀ earlier) json]
    exact h
  · have hout := (JsonClass.decode_eq_ok.mp h).1
    exact ((hforgets json _ _).self hout).symm

/-- An object that threw at the second voice of an earlier list, and a new one. -/
theorem decode_held_halfVoices :
    let c := (object .ListVoicesResponse).cls .documented
    let earlier : Json := .object [("TTS_Status", .number_unsigned 1),
      ("voices", .array [.string "carol", .null])]
    let json : Json := .object [("TTS_Status", .number_unsigned 0),
      ("voices", .array [.string "amelie"])]
    c.decode ⟨7, ["tom"]⟩ earlier = .error (.thrown (.type_error 302)) ∧
      c.held ⟨7, ["tom"]⟩ [earlier] = ⟨1, ["carol"]⟩ ∧
      c.decode (c.held ⟨7, ["tom"]⟩ [earlier]) json = .ok ⟨0, ["amelie"]⟩ ∧
      c.decode (c.held ⟨3, ["eva"]⟩ []) json = .ok ⟨0, ["amelie"]⟩ := by
  intro c earlier json
  have hheld : c.decode (c.held ⟨7, ["tom"]⟩ [earlier]) json = .ok ⟨0, ["amelie"]⟩ := rfl
  exact ⟨rfl, rfl, hheld, (decode_held hheld ⟨3, ["eva"]⟩ []).1⟩

end Firebolt.Decoder
