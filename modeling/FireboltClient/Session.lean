import FireboltClient.Events
import FireboltClient.Transducer

/-!
# Sessions

What an application does with the eight interfaces, and what the platform sends meanwhile: any
sequence of subscriptions, removals and events. A subscription answers with an id or is refused;
an event answers with what the callbacks did.
-/

namespace Firebolt

open Accessibility Actions Device Lifecycle Firebolt.Localization Network Presentation TextToSpeech

section

variable {ω : Type} (M : SubscriptionManager ω)

/-- `unsubscribe` of an interface. -/
def Interface.unsubscribe :
    Interface → SubscriptionId → M.State → Except Error Unit × M.State
  | Accessibility => AccessibilityImpl.unsubscribe M
  | Actions => ActionsImpl.unsubscribe M
  | Device => DeviceImpl.unsubscribe M
  | Lifecycle => LifecycleImpl.unsubscribe M
  | Localization => LocalizationImpl.unsubscribe M
  | Network => NetworkImpl.unsubscribe M
  | Presentation => PresentationImpl.unsubscribe M
  | TextToSpeech => TextToSpeechImpl.unsubscribe M

/-- `unsubscribeAll` of an interface. -/
def Interface.unsubscribeAll : Interface → M.State → M.State
  | Accessibility => AccessibilityImpl.unsubscribeAll M
  | Actions => ActionsImpl.unsubscribeAll M
  | Device => DeviceImpl.unsubscribeAll M
  | Lifecycle => LifecycleImpl.unsubscribeAll M
  | Localization => LocalizationImpl.unsubscribeAll M
  | Network => NetworkImpl.unsubscribeAll M
  | Presentation => PresentationImpl.unsubscribeAll M
  | TextToSpeech => TextToSpeechImpl.unsubscribeAll M

/-- Every interface removes with its own address. -/
theorem Interface.unsubscribe_eq (i : Interface) (id : SubscriptionId) (s : M.State) :
    i.unsubscribe M id s = M.unsubscribe i id s := by
  cases i <;> rfl

theorem Interface.unsubscribeAll_eq (i : Interface) (s : M.State) :
    i.unsubscribeAll M s = M.unsubscribeAll i s := by
  cases i <;> rfl

end

/-- An action of the application or of the platform. -/
inductive Op (ω : Type)
  | subscribe (e : Event) (notification : e.Value → ω)
  | unsubscribe (i : Interface) (id : SubscriptionId)
  | unsubscribeAll (i : Interface)
  | event (eventName : String) (json : Json)

/-- The event that an action subscribes to. -/
def Op.event? {ω : Type} : Op ω → Option Event
  | .subscribe e _ => some e
  | _ => none

/-- Whether an action removes the entry `id` of `owner`. -/
def Op.removes {ω : Type} (owner : Interface) (id : SubscriptionId) : Op ω → Bool
  | .unsubscribe _ id' => id = id'
  | .unsubscribeAll i => owner = i
  | _ => false

/-- What an action answers: the id of a new subscription, and what the callbacks did. -/
structure Answer (ω : Type) where
  id : Option SubscriptionId
  invoked : List ω

/-- The helper's state, and the ids that each interface has returned so far. -/
structure Session {ω : Type} (M : SubscriptionManager ω) where
  state : M.State
  returned : List (Interface × SubscriptionId)

namespace Session

variable {ω : Type} (T : JsonTypes) {M : SubscriptionManager ω}

def init (M : SubscriptionManager ω) : Session M := ⟨M.init, []⟩

def step (s : Session M) : Op ω → Session M × Answer ω
  | .subscribe e notification =>
    match e.subscribe T M notification s.state with
    | (.ok id, state) => (⟨state, (e.interface, id) :: s.returned⟩, ⟨some id, []⟩)
    | (.error _, state) => ({ s with state }, ⟨none, []⟩)
  | .unsubscribe i id => ({ s with state := (i.unsubscribe M id s.state).2 }, ⟨none, []⟩)
  | .unsubscribeAll i => ({ s with state := i.unsubscribeAll M s.state }, ⟨none, []⟩)
  | .event eventName json =>
    ({ s with state := (M.onEvent eventName json s.state).2 },
      ⟨none, (M.onEvent eventName json s.state).1⟩)

/-- The actions of a session and what they answered. -/
def log (s : Session M) (ops : List (Op ω)) : List (Op ω × Answer ω) :=
  Transducer.log (step T) s ops

/-- The session after the actions. -/
def run (s : Session M) (ops : List (Op ω)) : Session M := (Transducer.run (step T) s ops).1

theorem log_cons (s : Session M) (op : Op ω) (ops : List (Op ω)) :
    log T s (op :: ops) = (op, (step T s op).2) :: log T (step T s op).1 ops := rfl

section Step

variable {T}

/-- A subscription is accepted, and stores one entry of its own interface, or is refused and
stores nothing. -/
theorem step_subscribe (hM : M.Lawful) (s : Session M) (e : Event) (notification : e.Value → ω) :
    (∃ state id h,
      step T s (.subscribe e notification) =
          (⟨state, (e.interface, id) :: s.returned⟩, ⟨some id, []⟩) ∧
        Handles (e.cls T) notification h ∧
        id ∉ M.issued s.state ∧ M.issued state = id :: M.issued s.state ∧
        M.store state = M.store s.state ++ [⟨id, e.interface, e.documentedName, h⟩]) ∨
    ∃ state, step T s (.subscribe e notification) = ({ s with state }, ⟨none, []⟩) ∧
      M.Keeps s.state state := by
  rcases hsub : e.subscribe T M notification s.state with ⟨err | id, state⟩
  · have hkeeps := hM.subscribe_error ((Event.subscribe_eq e notification) ▸ hsub)
    refine Or.inr ⟨state, ?_, hkeeps⟩
    simp only [step, hsub]
  · obtain ⟨hfresh, hissued, h, hh, hstore⟩ :=
      hM.subscribe_ok ((Event.subscribe_eq e notification) ▸ hsub)
    refine Or.inl ⟨state, id, h, ?_, hh, hfresh, hissued, hstore⟩
    simp only [step, hsub]

theorem step_unsubscribe (hM : M.Lawful) (s : Session M) (i : Interface) (id : SubscriptionId) :
    ∃ state, step T s (.unsubscribe i id) = ({ s with state }, ⟨none, []⟩) ∧
      M.store state = (M.store s.state).filter (fun x => x.id ≠ id) ∧
      M.issued state = M.issued s.state := by
  refine ⟨(M.unsubscribe i id s.state).2, ?_, hM.unsubscribe i id s.state⟩
  rw [← Interface.unsubscribe_eq]
  rfl

theorem step_unsubscribeAll (hM : M.Lawful) (s : Session M) (i : Interface) :
    ∃ state, step T s (.unsubscribeAll i) = ({ s with state }, ⟨none, []⟩) ∧
      M.store state = (M.store s.state).filter (fun x => x.owner ≠ i) ∧
      M.issued state = M.issued s.state := by
  refine ⟨M.unsubscribeAll i s.state, ?_, hM.unsubscribeAll i s.state⟩
  rw [← Interface.unsubscribeAll_eq]
  rfl

theorem step_event (hM : M.Lawful) (s : Session M) (eventName : String) (json : Json) :
    ∃ state, step T s (.event eventName json) =
        ({ s with state }, ⟨none,
          ((M.store s.state).filter fun x => x.eventName = eventName).filterMap
            fun x => x.handle json⟩) ∧
      M.Keeps s.state state := by
  obtain ⟨hout, hkeeps⟩ := hM.onEvent eventName json s.state
  refine ⟨_, ?_, hkeeps⟩
  rw [← hout]
  rfl

/-- An action adds one entry, or removes the entries it is said to remove. -/
theorem store_step (hM : M.Lawful) (s : Session M) (op : Op ω) :
    (∃ e id h, op.event? = some e ∧ (step T s op).2.id = some id ∧
      M.store (step T s op).1.state =
        M.store s.state ++ [⟨id, e.interface, e.documentedName, h⟩]) ∨
    (step T s op).2.id = none ∧ M.store (step T s op).1.state =
      (M.store s.state).filter fun x => !op.removes x.owner x.id := by
  cases op with
  | subscribe e notification =>
    rcases step_subscribe (T := T) hM s e notification with
      ⟨state, id, h, hstep, -, -, -, hstore⟩ | ⟨state, hstep, hkeeps⟩
    · refine Or.inl ⟨e, id, h, rfl, ?_, ?_⟩ <;> rw [hstep]
      exact hstore
    · refine Or.inr ⟨?_, ?_⟩ <;> rw [hstep]
      exact hkeeps.1.trans (List.filter_eq_self.mpr fun _ _ => rfl).symm
  | unsubscribe i id =>
    obtain ⟨state, hstep, hstore, -⟩ := step_unsubscribe (T := T) hM s i id
    refine Or.inr ⟨?_, ?_⟩ <;> rw [hstep]
    simpa [Op.removes] using hstore
  | unsubscribeAll i =>
    obtain ⟨state, hstep, hstore, -⟩ := step_unsubscribeAll (T := T) hM s i
    refine Or.inr ⟨?_, ?_⟩ <;> rw [hstep]
    simpa [Op.removes] using hstore
  | event eventName json =>
    obtain ⟨state, hstep, hkeeps⟩ := step_event (T := T) hM s eventName json
    refine Or.inr ⟨?_, ?_⟩ <;> rw [hstep]
    exact hkeeps.1.trans (List.filter_eq_self.mpr fun _ _ => rfl).symm

end Step

end Session

end Firebolt
