import FireboltClient.Getters

/-!
# Preconditions

`json[key]` on a constant value is undefined unless the value is an object that contains the key.
The twelve object decoders list the keys twice, in the check and in the reads behind it; since the
lists agree, no reply breaks the precondition.
-/

namespace Firebolt

variable {T : JsonTypes} {H : IHelper}

/-- A value without all the required members is refused, whatever `checkRequiredFields` says of
the others: nothing is read and no member changes. -/
theorem ObjectDecoder.fromJson_of_missing (hT : T.ChecksFields) {d : ObjectDecoder} {json : Json}
    (hmissing : json.isObject = false ∨ ∃ key ∈ (d.cls T).required, json.find? key = none)
    (m : d.Members) :
    (T.object (d.cls T)).fromJson json m = ⟨.error (.thrown missingFields), m, []⟩ := by
  refine ObjectClass.fromJson_of_not_check fun hcheck => ?_
  obtain ⟨hobject, hpresent⟩ := hT json _ hcheck
  rcases hmissing with hnot | ⟨key, hkey, hnone⟩
  · exact absurd (hnot.symm.trans hobject) Bool.false_ne_true
  · have hsome := hpresent key hkey
    rw [hnone] at hsome
    exact Bool.false_ne_true hsome

/-- Every `json[key]` that an object decoder evaluates is on an object that contains the key. If
the value is no object, or lacks a member of the decoder's required list, the decoder throws
before it reads anything, and a getter with this decoder returns `InvalidParams`. -/
theorem object_decoders_safe (hT : T.ChecksFields) (hH : H.Gets) (d : ObjectDecoder)
    (json : Json) :
    (∀ m, (∀ read ∈ ((T.object (d.cls T)).fromJson json m).reads,
        read.1 = json ∧ json.isObject = true ∧ (json.find? read.2).isSome) ∧
      ((T.object (d.cls T)).fromJson json m).outcome ≠ .error .undefined) ∧
    (json.isObject = false ∨ (∃ key ∈ (d.cls T).required, json.find? key = none) →
      (∀ m, (T.object (d.cls T)).fromJson json m = ⟨.error (.thrown missingFields), m, []⟩) ∧
      ∀ g : Getter, g.decoder = .object d → H.reply (g.request T H) = .ok json →
        g.call T H = .error .InvalidParams) := by
  refine ⟨fun m => ?_, fun hmissing => ?_⟩
  · obtain ⟨hreads, hdefined⟩ := hT.object_safe m json (d.keys_body T)
    refine ⟨fun read hread => ?_, hdefined⟩
    obtain ⟨hjson, hsome⟩ := hreads read hread
    exact ⟨hjson, Json.isObject_of_find? hsome, hsome⟩
  · have hrun := ObjectDecoder.fromJson_of_missing hT hmissing
    refine ⟨hrun, fun g hg hreply => Getter.call_throws hH hreply ?_⟩
    rw [hg]
    intro m
    refine ⟨missingFields, ?_⟩
    show JsonClass.decode (T.object (d.cls T)) m json = _
    rw [JsonClass.decode, hrun]
    rfl

/-- A reply that lacks two of the three members. -/
theorem object_decoders_safe_partial :
    Accessibility.AccessibilityImpl.voiceGuidanceSettings .documented
      (.documented fun _ => .ok (.object [("enabled", .boolean true)])) =
        .error .InvalidParams :=
  ((object_decoders_safe JsonTypes.documented_checksExactly.checksFields (IHelper.documented_gets _)
    .VoiceGuidanceSettings (.object [("enabled", .boolean true)])).2
      (Or.inr ⟨"rate", by decide, by decide⟩)).2 ⟨.plain .voiceGuidanceSettings, _, rfl⟩ rfl rfl

end Firebolt
