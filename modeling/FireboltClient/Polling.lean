import FireboltClient.Api
import FireboltClient.Lifetimes
import FireboltClient.Topics

/-!
# Polling and subscribing

Eleven properties can be asked for and can be subscribed to. Each getter names one decoder and
each event another, in methods of their own; an application that mixes the two is told the same
by both.
-/

namespace Firebolt

open Session

inductive Property
  | audioDescription | closedCaptionsSettings | highContrastUI | voiceGuidanceSettings
  | intent
  | hdr
  | country | preferredAudioLanguages | presentationLanguage
  | connected
  | focused

namespace Property

/-- The event that announces a change of the property. -/
abbrev event : Property → Event
  | audioDescription => .AudioDescriptionChanged
  | closedCaptionsSettings => .ClosedCaptionsSettingsChanged
  | highContrastUI => .HighContrastUIChanged
  | voiceGuidanceSettings => .VoiceGuidanceSettingsChanged
  | intent => .Intent
  | hdr => .HdrChanged
  | country => .CountryChanged
  | preferredAudioLanguages => .PreferredAudioLanguagesChanged
  | presentationLanguage => .PresentationLanguageChanged
  | connected => .ConnectedChanged
  | focused => .FocusedChanged

/-- The call that asks for the property. -/
def plainCall : Property → PlainCall
  | audioDescription => .audioDescription
  | closedCaptionsSettings => .closedCaptionsSettings
  | highContrastUI => .highContrastUI
  | voiceGuidanceSettings => .voiceGuidanceSettings
  | intent => .intent
  | hdr => .hdr
  | country => .country
  | preferredAudioLanguages => .preferredAudioLanguages
  | presentationLanguage => .presentationLanguage
  | connected => .connected
  | focused => .focused

variable (T : JsonTypes) (H : IHelper)

/-- What the getter asks for. -/
def request (p : Property) : Request := (ApiCall.plain p.plainCall).request T H

theorem value_eq (p : Property) : p.plainCall.reply.Value = p.event.Value := by
  cases p <;> rfl

/-- The getter. -/
def get (p : Property) : Except Error p.event.Value :=
  cast (congrArg (Except Error) p.value_eq) (p.plainCall.result T H)

variable {T H}

/-- A getter asks with the decoder of the event. -/
theorem get_eq (p : Property) : p.get T H = H.get (p.event.cls T) (p.request T H) := by
  cases p <;> rfl

/-- The callbacks of a property that are live, run on a value. -/
def callbacks {ω : Type} (p : Property) (v : p.event.Value) (l : List (Live ω)) : List ω :=
  l.filterMap fun x => (x.on p.event).map fun c => c.2 v

variable {ω : Type} {M : SubscriptionManager ω}

/-- After any session, let the payload of a property's event be what its getter would be replied.
If the getter returns a value, the event runs the callbacks that are subscribed to the property
just then, in order, on that value; else the getter reports `InvalidParams` and the event runs
nothing. -/
theorem polled_iff_delivered (hM : M.Lawful) (hT : T.ChecksExactly) (hA : T.DecodesArrays)
    (hS : T.DecodesScalars) (hH : H.Gets) (ops : List (Op ω)) (p : Property) {json : Json}
    (hreply : H.reply (p.request T H) = .ok json) :
    let delivered := (M.onEvent p.event.documentedName json
      (run T (.init M) ops).state).1
    (∃ v, p.get T H = .ok v ∧
      delivered = p.callbacks v (live (log T (.init M) ops))) ∨
    p.get T H = .error .InvalidParams ∧ delivered = [] := by
  intro delivered
  have hdelivered : delivered = (live (log T (.init M) ops)).filterMap fun x =>
      (x.on p.event).bind fun c => ((p.event.cls T).value? json).map c.2 := by
    refine (onEvent_of_entries hM (Event.definite hT hA hS) (store_eq_live hM ops) _ _).trans ?_
    exact List.filterMap_congr fun x _ => Live.deliver_eq p.event json x
  rcases Event.definite hT hA hS p.event json with ⟨v, hv⟩ | hthrows
  · refine Or.inl ⟨v, ?_, ?_⟩
    · rw [get_eq]
      exact hH.get_decodes hreply hv
    · rw [hdelivered, hv.value?_eq]
      refine List.filterMap_congr fun x _ => ?_
      cases x.on p.event <;> rfl
  · refine Or.inr ⟨?_, ?_⟩
    · rw [get_eq]
      exact hH.get_throws hreply hthrows
    · rw [hdelivered, hthrows.value?_eq, List.filterMap_eq_nil_iff]
      intro x _
      cases x.on p.event <;> rfl

/-- A boolean is both returned and delivered, a string neither. -/
theorem polled_iff_delivered_focused :
    let M := SubscriptionManager.documented Bool 3
    let ops : List (Op Bool) := [.subscribe .FocusedChanged id, .subscribe .ConnectedChanged id,
      .subscribe .FocusedChanged not]
    let s := (run .documented (.init M) ops).state
    let H (json : Json) : IHelper := .documented fun _ => .ok json
    (∃ v, focused.get .documented (H (.boolean true)) = .ok v ∧
      (M.onEvent "Presentation.onFocusedChanged" (.boolean true) s).1 = [v, !v]) ∧
    focused.get .documented (H (.string "yes")) = .error .InvalidParams ∧
      (M.onEvent "Presentation.onFocusedChanged" (.string "yes") s).1 = [] := by
  intro M ops s H
  have hboth (json : Json) := polled_iff_delivered (SubscriptionManager.documented_lawful Bool 3)
    JsonTypes.documented_checksExactly JsonTypes.documented_decodesArrays
    JsonTypes.documented_decodesScalars (T := .documented)
    (IHelper.documented_gets fun _ => .ok json) ops .focused rfl
  constructor
  · rcases hboth (.boolean true) with ⟨v, hv, hrun⟩ | ⟨herror, -⟩
    · exact ⟨v, hv, hrun.trans rfl⟩
    · have hget : focused.get .documented (H (.boolean true)) = .ok true := rfl
      exact absurd (hget.symm.trans herror) (by simp)
  · rcases hboth (.string "yes") with ⟨v, hv, -⟩ | hnone
    · have hget : focused.get .documented (H (.string "yes")) = .error .InvalidParams := rfl
      exact absurd (hget.symm.trans hv) (by simp)
    · exact hnone

end Property

end Firebolt
