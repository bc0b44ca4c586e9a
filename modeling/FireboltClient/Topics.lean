import FireboltClient.Delivery
import FireboltClient.Replies

/-!
# Publish and subscribe

What the events are for: a list of callbacks for each of the twenty events, and values in place of
JSON. The platform announces a value by sending any JSON that shows it. The lists of the reference
model, one for each interface, are seen as lists for each event by `View`, and `view_step` carries
this through every action; with the simulation of the helper's store below it, the callbacks that
the client runs are those that were subscribed to the event, on the value that was announced.
-/

namespace Firebolt

open Session

/-! ## Announcements -/

/-- `json` shows a value that the platform announces with an event. -/
def Event.Shows : (e : Event) → Json → e.Value → Prop
  | AudioDescriptionChanged | HighContrastUIChanged | ConnectedChanged | FocusedChanged =>
    fun json b => json = .boolean b
  | ClosedCaptionsSettingsChanged => ObjectDecoder.ClosedCaptionsSettings.Shows
  | VoiceGuidanceSettingsChanged => ObjectDecoder.VoiceGuidanceSettings.Shows
  | Intent | CountryChanged | PresentationLanguageChanged => fun json s => json = .string s
  | HdrChanged => ObjectDecoder.HDRFormat.Shows
  | StateChanged => fun json cs =>
    ∃ xs, json = .array xs ∧ List.Forall₂ ObjectDecoder.StateChange.Shows xs cs
  | PreferredAudioLanguagesChanged => fun json ws => json = .array (ws.map Json.string)
  | WillSpeak | SpeechStart | SpeechPause | SpeechResume | SpeechComplete | SpeechInterrupted
  | NetworkError | PlaybackError => ObjectDecoder.SpeechIdEvent.Shows

/-- The decoder of an event decodes what the payload shows. -/
theorem Event.decodes_of_shows {T : JsonTypes} (hT : T.ChecksExactly) (hL : T.LooksUp)
    (hA : T.DecodesArrays) (hR : T.ReadsScalars) {e : Event} {json : Json} {v : e.Value}
    (h : e.Shows json v) : (e.cls T).Decodes json v := by
  cases e
  case AudioDescriptionChanged | HighContrastUIChanged | ConnectedChanged | FocusedChanged =>
    cases h
    exact hR.boolean v
  case Intent | CountryChanged | PresentationLanguageChanged =>
    cases h
    exact hR.string v
  case StateChanged =>
    obtain ⟨xs, rfl, hxs⟩ := h
    exact hA.decodes (hxs.imp fun x c => ObjectDecoder.decodes_of_shows hT hL)
  case PreferredAudioLanguagesChanged =>
    cases h
    exact hA.decodes_strings hR v
  case ClosedCaptionsSettingsChanged | VoiceGuidanceSettingsChanged | HdrChanged =>
    exact ObjectDecoder.decodes_of_shows hT hL h
  all_goals exact ObjectDecoder.decodes_of_shows hT hL h

/-- What an application does, and what the platform announces: a value, with the JSON that is
sent for it. -/
inductive Act (ω : Type)
  | subscribe (e : Event) (notification : e.Value → ω)
  | unsubscribe (i : Interface) (id : SubscriptionId)
  | unsubscribeAll (i : Interface)
  | announce (e : Event) (v : e.Value) (json : Json) (shows_ : e.Shows json v)

/-- The action as the client sees it. -/
def Act.op {ω : Type} : Act ω → Op ω
  | subscribe e notification => .subscribe e notification
  | unsubscribe i id => .unsubscribe i id
  | unsubscribeAll i => .unsubscribeAll i
  | announce e _ json _ => .event e.documentedName json

/-! ## Topics -/

/-- The callbacks that are subscribed to each event. -/
abbrev Topics (ω : Type) : Type := (e : Event) → List (SubscriptionId × (e.Value → ω))

namespace Topics

variable {ω : Type}

/-- A subscription is added to its event, removals go through the events of their interface, and
an announced value is handed to the callbacks of its event. -/
def step (t : Topics ω) : Act ω × Answer ω → Topics ω × List ω
  | (.subscribe e notification, ⟨some id, _⟩) =>
    (Function.update t e (t e ++ [(id, notification)]), [])
  | (.subscribe _ _, ⟨none, _⟩) => (t, [])
  | (.unsubscribe i id, _) =>
    (fun e => if e.interface = i then (t e).filter fun c => c.1 ≠ id else t e, [])
  | (.unsubscribeAll i, _) => (fun e => if e.interface = i then [] else t e, [])
  | (.announce e v _ _, _) => (t, (t e).map fun c => c.2 v)

end Topics

/-- A live subscription, as a callback of the event `e`. -/
def Live.on {ω : Type} (e : Event) (x : Live ω) : Option (SubscriptionId × (e.Value → ω)) :=
  if h : x.event = e then some (x.id, fun v => x.notification (h ▸ v)) else none

section View

variable {ω : Type} {e : Event} {x : Live ω}

@[simp] theorem Live.on_self (id : SubscriptionId) (notification : e.Value → ω) :
    Live.on e ⟨id, e, notification⟩ = some (id, notification) := dif_pos rfl

theorem Live.on_of_ne (h : x.event ≠ e) : x.on e = none := dif_neg h

/-- An event is delivered to the callbacks of its own. -/
theorem Live.deliver_eq {T : JsonTypes} (e : Event) (json : Json) (x : Live ω) :
    Live.deliver T e.documentedName json x =
      (x.on e).bind fun c => ((e.cls T).value? json).map c.2 := by
  by_cases he : x.event = e
  · obtain ⟨id, e', notification⟩ := x
    subst he
    rw [Live.deliver, if_pos rfl, Live.on_self]
    rfl
  · have hname : x.event.documentedName ≠ e.documentedName := fun hname =>
      he (Event.documentedName_injective hname)
    rw [Live.deliver, if_neg hname, Live.on_of_ne he]
    rfl

/-- The lists of the interfaces, event by event. -/
structure View (r : Reference ω) (t : Topics ω) : Prop where
  interface : ∀ i, ∀ x ∈ r i, x.event.interface = i
  topics : ∀ e, t e = (r e.interface).filterMap (Live.on e)

/-- Removing an id before or after the events are told apart is the same. -/
theorem filterMap_on_filter (e : Event) (id : SubscriptionId) (xs : List (Live ω)) :
    (xs.filter fun x => x.id ≠ id).filterMap (Live.on e) =
      (xs.filterMap (Live.on e)).filter fun c => c.1 ≠ id := by
  rw [List.filterMap_filter, List.filter_filterMap]
  congr 1
  funext x
  by_cases he : x.event = e
  · obtain ⟨xid, xe, notification⟩ := x
    subst he
    by_cases hid : xid = id
    · simp [hid, Option.filter]
    · simp [hid, Option.filter]
  · simp [Live.on_of_ne he]

end View

section Step

variable {ω : Type} {T : JsonTypes} {r : Reference ω} {t : Topics ω}

/-- A new entry goes to the end of its interface and of its event. -/
theorem View.subscribe (h : View r t) (e : Event) (notification : e.Value → ω)
    (id : SubscriptionId) :
    View (Function.update r e.interface (r e.interface ++ [⟨id, e, notification⟩]))
      (Function.update t e (t e ++ [(id, notification)])) := by
  refine ⟨fun i x hx => ?_, fun e' => ?_⟩
  · by_cases hi : i = e.interface
    · subst hi
      rw [Function.update_self, List.mem_append, List.mem_singleton] at hx
      rcases hx with hx | rfl
      · exact h.interface _ x hx
      · rfl
    · rw [Function.update_of_ne hi] at hx
      exact h.interface i x hx
  · by_cases he : e' = e
    · subst he
      rw [Function.update_self, Function.update_self, List.filterMap_append, h.topics]
      simp
    · have hnone : Live.on e' ⟨id, e, notification⟩ = none := Live.on_of_ne (Ne.symm he)
      rw [Function.update_of_ne he, h.topics]
      by_cases hi : e'.interface = e.interface
      · rw [hi, Function.update_self, List.filterMap_append]
        simp [hnone]
      · rw [Function.update_of_ne hi]

/-- What removes entries of an interface removes them from its events. -/
theorem View.remove (h : View r t) (i : Interface) {l : List (Live ω)} {t' : Topics ω}
    (hsub : ∀ x ∈ l, x ∈ r i) (hself : ∀ e, e.interface = i → t' e = l.filterMap (Live.on e))
    (hother : ∀ e, e.interface ≠ i → t' e = t e) : View (Function.update r i l) t' := by
  refine ⟨fun j x hx => ?_, fun e => ?_⟩
  · by_cases hj : j = i
    · subst hj
      rw [Function.update_self] at hx
      exact h.interface j x (hsub x hx)
    · rw [Function.update_of_ne hj] at hx
      exact h.interface j x hx
  · by_cases he : e.interface = i
    · rw [hself e he, he, Function.update_self]
    · rw [hother e he, h.topics, Function.update_of_ne he]

/-- Looking through all interfaces for an event finds the callbacks of its topic. -/
theorem View.announce (h : View r t) {e : Event} {json : Json} {v : e.Value}
    (hv : (e.cls T).Decodes json v) :
    Interface.all.flatMap (fun i => (r i).filterMap (Live.deliver T e.documentedName json)) =
      (t e).map fun c => c.2 v := by
  rw [flatMap_deliver h.interface, h.topics, List.map_filterMap]
  refine List.filterMap_congr fun x _ => ?_
  rw [Live.deliver_eq, hv.value?_eq]
  cases x.on e <;> rfl

/-- Every action keeps the view and runs the same callbacks. -/
theorem view_step (hT : T.ChecksExactly) (hL : T.LooksUp) (hA : T.DecodesArrays)
    (hR : T.ReadsScalars) (h : View r t) (a : Act ω) (answer : Answer ω) :
    View (Reference.step T r (a.op, answer)).1 (t.step (a, answer)).1 ∧
      (Reference.step T r (a.op, answer)).2 = (t.step (a, answer)).2 := by
  obtain ⟨id, invoked⟩ := answer
  cases a with
  | subscribe e notification =>
    cases id with
    | none => exact ⟨h, rfl⟩
    | some id => exact ⟨h.subscribe e notification id, rfl⟩
  | unsubscribe i id' =>
    refine ⟨h.remove i (fun x hx => List.mem_of_mem_filter hx) (fun e he => ?_) fun e he => ?_, rfl⟩
    · show (if e.interface = i then _ else _) = _
      rw [if_pos he, filterMap_on_filter, ← he, h.topics]
    · exact if_neg he
  | unsubscribeAll i =>
    refine ⟨h.remove i (fun x hx => absurd hx List.not_mem_nil) (fun e he => ?_) fun e he => ?_,
      rfl⟩
    · exact if_pos he
    · exact if_neg he
  | announce e v json hshows =>
    exact ⟨h, h.announce (Event.decodes_of_shows hT hL hA hR hshows)⟩

end Step

/-! ## Whole sessions -/

section

variable {ω : Type} {T : JsonTypes} {M : SubscriptionManager ω}

/-- The client takes the action as it sees it. -/
def Act.step (T : JsonTypes) (s : Session M) (a : Act ω) : Session M × Answer ω :=
  Session.step T s a.op

/-- The topics are a view of lists that the helper's store refines. -/
def Tracks (T : JsonTypes) (s : Session M) (t : Topics ω) : Prop :=
  ∃ r, Sim T s r ∧ View r t

theorem tracks_init (hM : M.Lawful) : Tracks T (.init M) fun _ => [] :=
  ⟨fun _ => [], sim_init hM, fun _ _ hx => absurd hx List.not_mem_nil, fun _ => rfl⟩

/-- Every action keeps the topics in step, and runs the callbacks of the topic. -/
theorem tracks_step (hM : M.Lawful) (hT : T.ChecksExactly) (hL : T.LooksUp)
    (hA : T.DecodesArrays) (hS : T.DecodesScalars) (hR : T.ReadsScalars) {s : Session M}
    {t : Topics ω} (a : Act ω) (h : Tracks T s t) (ha : Permitted s a.op) :
    Tracks T (Act.step T s a).1 (t.step (a, (Act.step T s a).2)).1 ∧
      (t.step (a, (Act.step T s a).2)).2 = (Act.step T s a).2.invoked := by
  obtain ⟨r, hsim, hview⟩ := h
  obtain ⟨hsim', hinvoked⟩ := sim_step hM (Event.definite hT hA hS) s r a.op hsim ha
  obtain ⟨hview', hrun⟩ := view_step hT hL hA hR hview a (Act.step T s a).2
  exact ⟨⟨_, hsim', hview'⟩, hrun.symm.trans hinvoked⟩

/-- In every session that hands back only ids that the same interface returned, an announced value
is handed, as it is, to the callbacks that are subscribed to the event just then, in the order in
which they subscribed, once each and to no others. -/
theorem publish_subscribe (hM : M.Lawful) (hT : T.ChecksExactly) (hL : T.LooksUp)
    (hA : T.DecodesArrays) (hS : T.DecodesScalars) (hR : T.ReadsScalars) (acts : List (Act ω))
    (hacts : Transducer.Along (Act.step T) (fun s a => Permitted s a.op) (.init M) acts) :
    (Transducer.run Topics.step (fun _ => [])
        (Transducer.log (Act.step T) (.init M) acts)).2 =
      (Transducer.log (Act.step T) (.init M) acts).map fun x => x.2.invoked :=
  (Transducer.run_simulates Answer.invoked
    (fun _ _ a => tracks_step hM hT hL hA hS hR a) (tracks_init hM) hacts).2

end

/-- Two events of one interface: each callback gets the values of its own event, until it is
removed. -/
theorem publish_subscribe_twoEvents :
    let M := SubscriptionManager.documented ℕ 2
    let payload (n : UInt32) : Json := ObjectDecoder.SpeechIdEvent.write ⟨n⟩
    let acts : List (Act ℕ) :=
      [.subscribe .WillSpeak fun v => v.speechId.toNat,
        .subscribe .SpeechStart fun v => v.speechId.toNat + 100,
        .announce .WillSpeak ⟨7⟩ (payload 7) (number?_ofUInt32 _),
        .announce .SpeechStart ⟨7⟩ (payload 7) (number?_ofUInt32 _),
        .unsubscribe .TextToSpeech 0,
        .announce .WillSpeak ⟨8⟩ (payload 8) (number?_ofUInt32 _),
        .announce .SpeechStart ⟨8⟩ (payload 8) (number?_ofUInt32 _)]
    (Transducer.log (Act.step .documented) (.init M) acts).map (fun x => x.2.invoked) =
      [[], [], [7], [107], [], [], [108]] := by
  intro M payload acts
  have hacts : Transducer.Along (Act.step .documented) (fun s a => Permitted s a.op) (.init M)
      acts := by
    refine ⟨trivial, trivial, trivial, trivial, ?_, trivial, trivial, trivial⟩
    show (Interface.TextToSpeech, 0) ∈
      [(Interface.TextToSpeech, 1), (Interface.TextToSpeech, 0)]
    decide
  exact (publish_subscribe (SubscriptionManager.documented_lawful ℕ 2)
    JsonTypes.documented_checksExactly JsonTypes.documented_looksUp
    JsonTypes.documented_decodesArrays JsonTypes.documented_decodesScalars
    JsonTypes.documented_readsScalars acts hacts).symm.trans (by decide +kernel)

end Firebolt
