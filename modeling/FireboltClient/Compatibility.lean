import FireboltClient.Getters
import FireboltClient.Lifetimes
import FireboltClient.Topics

/-!
# Members that nobody asks for

A later version of the platform may send more members than this client knows, in any order. What
a getter returns and what an event runs is decided by the members that the decoder requires; of
the others neither a name nor a value has any effect.
-/

namespace Firebolt

open Session

variable {T : JsonTypes}

/-! ## Decoders -/

/-- The values agree on the members that the decoder requires. -/
def ObjectDecoder.Agrees (T : JsonTypes) (d : ObjectDecoder) (json json' : Json) : Prop :=
  ∀ key ∈ (d.cls T).required, json.find? key = json'.find? key

/-- A decoder of a single value looks at all of it. -/
def Decoder.Agrees (T : JsonTypes) : Decoder → Json → Json → Prop
  | object d => d.Agrees T
  | DeviceClassJson | LifecycleState => Eq

theorem ObjectDecoder.Agrees.symm {d : ObjectDecoder} {json json' : Json}
    (h : d.Agrees T json json') : d.Agrees T json' json := fun key hkey => (h key hkey).symm

theorem ObjectDecoder.Agrees.check (hT : T.ChecksExactly) {d : ObjectDecoder} {json json' : Json}
    (h : d.Agrees T json json') (hcheck : T.checkRequiredFields json (d.cls T).required = true) :
    T.checkRequiredFields json' (d.cls T).required = true := by
  have hpresent : ∀ key ∈ (d.cls T).required, (json'.find? key).isSome := by
    intro key hkey
    rw [← h key hkey]
    exact ((hT json _).mp hcheck).2 key hkey
  obtain ⟨key, hkey⟩ := List.exists_mem_of_ne_nil _ (d.required_ne_nil T)
  exact (hT json' _).mpr ⟨Json.isObject_of_find? (hpresent key hkey), hpresent⟩

theorem ObjectDecoder.decode_congr (hT : T.ChecksExactly) {d : ObjectDecoder} {json json' : Json}
    (h : d.Agrees T json json') (m : d.Members) :
    (T.object (d.cls T)).decode m json = (T.object (d.cls T)).decode m json' := by
  refine ObjectClass.decode_congr ?_ ?_
  · exact Bool.eq_iff_iff.mpr ⟨h.check hT, h.symm.check hT⟩
  · rw [d.keys_body T]
    exact h

/-- A decoder ends alike on values that agree, exceptions included. -/
theorem Decoder.decode_congr (hT : T.ChecksExactly) {d : Decoder} {json json' : Json}
    (h : d.Agrees T json json') (m : d.Members) :
    (d.cls T).decode m json = (d.cls T).decode m json' := by
  cases d with
  | object d => exact ObjectDecoder.decode_congr hT h m
  | DeviceClassJson | LifecycleState =>
    obtain rfl : json = json' := h
    rfl

/-! ## Getters and events -/

/-- Payloads that agree on what the decoder of the event asks for; of a history, element by
element. -/
def Event.Agrees (T : JsonTypes) : Event → Json → Json → Prop
  | ClosedCaptionsSettingsChanged => ObjectDecoder.ClosedCaptionsSettings.Agrees T
  | VoiceGuidanceSettingsChanged => ObjectDecoder.VoiceGuidanceSettings.Agrees T
  | HdrChanged => ObjectDecoder.HDRFormat.Agrees T
  | StateChanged => fun json json' =>
    ∃ xs ys, json = .array xs ∧ json' = .array ys ∧
      List.Forall₂ (ObjectDecoder.StateChange.Agrees T) xs ys
  | WillSpeak | SpeechStart | SpeechPause | SpeechResume | SpeechComplete | SpeechInterrupted
  | NetworkError | PlaybackError => ObjectDecoder.SpeechIdEvent.Agrees T
  | AudioDescriptionChanged | HighContrastUIChanged | Intent | CountryChanged
  | PreferredAudioLanguagesChanged | PresentationLanguageChanged | ConnectedChanged
  | FocusedChanged => Eq

section Values

variable {σ τ : Type} [Inhabited σ] {c : JsonClass σ τ} {json json' : Json}

theorem value?_congr (h : ∀ m, c.decode m json = c.decode m json') :
    c.value? json = c.value? json' := congrArg Except.toOption (h default)

/-- Elements that are decoded alike make arrays that are decoded alike. -/
theorem JsonTypes.DecodesArrays.value?_congr (hA : T.DecodesArrays) (hc : c.Definite)
    {xs ys : List Json}
    (h : List.Forall₂ (fun x y => ∀ m, c.decode m x = c.decode m y) xs ys) :
    (T.NL_Json_Array c).value? (.array xs) = (T.NL_Json_Array c).value? (.array ys) := by
  rcases hc.decodes_or_throws xs with ⟨vs, hvs⟩ | ⟨x, hx, hthrows⟩
  · have hvs' : List.Forall₂ c.Decodes ys vs := by
      induction h generalizing vs with
      | nil => exact hvs
      | cons hxy _ ih =>
        obtain ⟨v, vs, hv, hrest, rfl⟩ := List.forall₂_cons_left_iff.mp hvs
        exact .cons (fun m => (hxy m).symm.trans (hv m)) (ih vs hrest)
    rw [(hA.decodes hvs).value?_eq, (hA.decodes hvs').value?_eq]
  · obtain ⟨y, hy, hxy⟩ : ∃ y ∈ ys, ∀ m, c.decode m x = c.decode m y :=
      exists_mem_of_forall₂ h hx
    have hthrows' : c.Throws y := fun m => (hxy m) ▸ hthrows m
    rw [(hA.throws hc ⟨x, hx, hthrows⟩).value?_eq, (hA.throws hc ⟨y, hy, hthrows'⟩).value?_eq]

/-- Replies that are decoded alike are answered alike. -/
theorem get_congr {H H' : IHelper} (hH : H.Gets) (hH' : H'.Gets) (hc : c.Definite)
    {r r' : Request} (hreply : H.reply r = .ok json) (hreply' : H'.reply r' = .ok json')
    (h : ∀ m, c.decode m json = c.decode m json') : H.get c r = H'.get c r' := by
  rcases hc json with ⟨v, hv⟩ | hthrows
  · have hv' : c.Decodes json' v := fun m => (h m).symm.trans (hv m)
    rw [hH.get_decodes hreply hv, hH'.get_decodes hreply' hv']
  · have hthrows' : c.Throws json' := fun m => (h m) ▸ hthrows m
    rw [hH.get_throws hreply hthrows, hH'.get_throws hreply' hthrows']

end Values

/-- Payloads that agree give the callbacks the same. -/
theorem Event.value?_congr (hT : T.ChecksExactly) (hA : T.DecodesArrays) {e : Event}
    {json json' : Json} (h : e.Agrees T json json') :
    (e.cls T).value? json = (e.cls T).value? json' := by
  cases e
  case StateChanged =>
    obtain ⟨xs, ys, rfl, rfl, hxs⟩ := h
    exact hA.value?_congr (ObjectDecoder.definite hT .StateChange)
      (hxs.imp fun _ _ hxy => ObjectDecoder.decode_congr hT hxy)
  case ClosedCaptionsSettingsChanged | VoiceGuidanceSettingsChanged | HdrChanged =>
    exact Firebolt.value?_congr (ObjectDecoder.decode_congr hT h)
  case WillSpeak | SpeechStart | SpeechPause | SpeechResume | SpeechComplete | SpeechInterrupted
      | NetworkError | PlaybackError =>
    exact Firebolt.value?_congr (ObjectDecoder.decode_congr hT h)
  all_goals exact congrArg _ h

/-- A getter answers two replies alike, and after any session an event runs the same callbacks on
the same values for two payloads, if they agree on the members that the decoder requires. -/
theorem own_members_decide {ω : Type} {M : SubscriptionManager ω} {H H' : IHelper}
    (hM : M.Lawful) (hT : T.ChecksExactly) (hA : T.DecodesArrays) (hS : T.DecodesScalars)
    (hH : H.Gets) (hH' : H'.Gets) :
    (∀ (g : Getter) (json json' : Json), g.decoder.Agrees T json json' →
      H.reply (g.request T H) = .ok json → H'.reply (g.request T H') = .ok json' →
        g.call T H = g.call T H') ∧
    ∀ (e : Event) (json json' : Json), e.Agrees T json json' → ∀ ops : List (Op ω),
      (M.onEvent e.documentedName json (run T (.init M) ops).state).1 =
        (M.onEvent e.documentedName json' (run T (.init M) ops).state).1 := by
  refine ⟨fun g json json' h hreply hreply' => ?_, fun e json json' h ops => ?_⟩
  · rw [Getter.call_eq, Getter.call_eq]
    exact get_congr hH hH' (g.decoder.definite hT) hreply hreply' (Decoder.decode_congr hT h)
  · have hrun := fun json => onEvent_of_entries hM (Event.definite hT hA hS)
      (store_eq_live (T := T) hM ops) e.documentedName json
    rw [hrun, hrun]
    refine List.filterMap_congr fun x _ => ?_
    rw [Live.deliver_eq, Live.deliver_eq, Event.value?_congr hT hA h]

/-- Settings with a member that the client does not know. -/
theorem own_members_decide_fontSize :
    let json : Json := .object [("enabled", .boolean true),
      ("preferredLanguages", .array [.string "eng"])]
    let json' : Json := .object [("enabled", .boolean true), ("fontSize", .number_unsigned 3),
      ("preferredLanguages", .array [.string "eng"])]
    let M := SubscriptionManager.documented (List String) 1
    let ops : List (Op (List String)) :=
      [.subscribe .ClosedCaptionsSettingsChanged fun r => r.preferredLanguages]
    Accessibility.AccessibilityImpl.closedCaptionsSettings .documented
          (.documented fun _ => .ok json) =
        Accessibility.AccessibilityImpl.closedCaptionsSettings .documented
          (.documented fun _ => .ok json') ∧
      (M.onEvent "Accessibility.onClosedCaptionsSettingsChanged" json'
        (run .documented (.init M) ops).state).1 = [["eng"]] := by
  intro json json' M ops
  have hagrees : ObjectDecoder.ClosedCaptionsSettings.Agrees .documented json json' := by
    intro key hkey
    rcases List.mem_cons.mp hkey with rfl | hkey
    · rfl
    · obtain rfl := List.mem_singleton.mp hkey
      rfl
  obtain ⟨hgetters, hevents⟩ := own_members_decide (SubscriptionManager.documented_lawful _ 1)
    JsonTypes.documented_checksExactly JsonTypes.documented_decodesArrays
    JsonTypes.documented_decodesScalars (IHelper.documented_gets fun _ => .ok json)
    (IHelper.documented_gets fun _ => .ok json')
  exact ⟨hgetters ⟨.plain .closedCaptionsSettings, _, rfl⟩ json json' hagrees rfl rfl,
    (hevents .ClosedCaptionsSettingsChanged json json' hagrees ops).symm.trans rfl⟩

end Firebolt
