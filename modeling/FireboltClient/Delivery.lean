import FireboltClient.OwnedStore
import FireboltClient.Session

/-!
# Event delivery

The reference model gives every interface a list of its own: the live subscriptions, each with its
event and its callback. The one store of the helper refines it. `Sim` pairs the entries of each
owner with the list of that interface; `sim_step` carries it through every action.
-/

namespace Firebolt

open OwnedStore Session

/-! ## The reference model -/

/-- A live subscription of an interface. -/
structure Live (ω : Type) where
  id : SubscriptionId
  event : Event
  notification : event.Value → ω

/-- One list for each interface. -/
abbrev Reference (ω : Type) : Type := Interface → List (Live ω)

def Interface.all : List Interface :=
  [Accessibility, Actions, Device, Lifecycle, Localization, Network, Presentation, TextToSpeech]

theorem Interface.mem_all (i : Interface) : i ∈ Interface.all := by
  cases i <;> decide

section

variable {ω : Type} (T : JsonTypes)

/-- What a live subscription does with an event: run its callback, if the event is its own and its
payload decodes. -/
def Live.deliver (eventName : String) (json : Json) (x : Live ω) : Option ω :=
  if x.event.documentedName = eventName then
    ((x.event.cls T).value? json).map x.notification
  else none

/-- An action changes the list of its own interface; an event looks through all of them. -/
def Reference.step (r : Reference ω) : Op ω × Answer ω → Reference ω × List ω
  | (.subscribe e notification, ⟨some id, _⟩) =>
    (Function.update r e.interface (r e.interface ++ [⟨id, e, notification⟩]), [])
  | (.subscribe _ _, ⟨none, _⟩) => (r, [])
  | (.unsubscribe i id, _) => (Function.update r i ((r i).filter fun x => x.id ≠ id), [])
  | (.unsubscribeAll i, _) => (Function.update r i [], [])
  | (.event eventName json, _) =>
    (r, Interface.all.flatMap fun i => (r i).filterMap (Live.deliver T eventName json))

end

/-! ## The simulation -/

variable {ω : Type} {M : SubscriptionManager ω} {T : JsonTypes}

/-- An entry of the store stands for a live subscription of its owner. -/
structure Stands (T : JsonTypes) (i : Interface) (x : Subscription ω) (y : Live ω) : Prop where
  id : x.id = y.id
  owner : y.event.interface = i
  eventName : x.eventName = y.event.documentedName
  handle : Handles (y.event.cls T) y.notification x.handle

/-- The store and the lists of the reference model agree, and an id belongs to the interface that
returned it. -/
structure Sim (T : JsonTypes) (s : Session M) (r : Reference ω) : Prop where
  lists : ∀ i,
    List.Forall₂ (Stands T i) (ownedBy Subscription.owner i (M.store s.state)) (r i)
  stored : ∀ x ∈ M.store s.state, x.id ∈ M.issued s.state
  returned : ∀ p ∈ s.returned, p.2 ∈ M.issued s.state
  owner : ∀ p ∈ s.returned, ∀ x ∈ M.store s.state, x.id = p.2 → x.owner = p.1

/-- The ids that an application hands back are ones that the interface returned. -/
def Permitted (s : Session M) : Op ω → Prop
  | .unsubscribe i id => (i, id) ∈ s.returned
  | _ => True

theorem sim_init (hM : M.Lawful) : Sim T (.init M) fun _ => [] := by
  have hinit : M.store (Session.init M).state = [] := hM.store_init
  refine ⟨fun i => ?_, ?_, ?_, ?_⟩
  · rw [hinit]
    exact .nil
  · rw [hinit]
    exact fun x hx => absurd hx List.not_mem_nil
  · exact fun p hp => absurd hp List.not_mem_nil
  · exact fun p hp => absurd hp List.not_mem_nil

section Step

variable {s : Session M} {r : Reference ω}

/-- Entries of one event name have one owner. -/
theorem Sim.owner_of_eventName (h : Sim T s r) {x y : Subscription ω}
    (hx : x ∈ M.store s.state) (hy : y ∈ M.store s.state) (hxy : x.eventName = y.eventName) :
    x.owner = y.owner := by
  have hstands : ∀ z ∈ M.store s.state,
      ∃ e : Event, z.eventName = e.documentedName ∧ e.interface = z.owner := by
    intro z hz
    obtain ⟨l, hl⟩ := exists_forall₂_iff.mp ⟨_, h.lists z.owner⟩ z (mem_ownedBy.mpr ⟨hz, rfl⟩)
    exact ⟨l.event, hl.eventName, hl.owner⟩
  obtain ⟨e, hxe, hex⟩ := hstands x hx
  obtain ⟨e', hye, hey⟩ := hstands y hy
  have heq : e = e' := Event.documentedName_injective (hxe.symm.trans (hxy.trans hye))
  rw [← hex, ← hey, heq]

/-- Entry by entry, an event does with the store's entries what it does with the live
subscriptions they stand for. -/
theorem Stands.filterMap_eq (hdef : ∀ e : Event, (e.cls T).Definite) (eventName : String)
    (json : Json) {i : Interface} {xs : List (Subscription ω)} {ys : List (Live ω)}
    (h : List.Forall₂ (Stands T i) xs ys) :
    (xs.filter fun x => x.eventName = eventName).filterMap (fun x => x.handle json) =
      ys.filterMap (Live.deliver T eventName json) := by
  induction h with
  | nil => rfl
  | @cons x y xs ys hxy hrest ih =>
    have hhandle : x.handle json = ((y.event.cls T).value? json).map y.notification :=
      hxy.handle.handle_eq (hdef y.event) json
    by_cases hname : x.eventName = eventName
    · have hname' : y.event.documentedName = eventName := hxy.eventName ▸ hname
      rw [List.filter_cons_of_pos (by simpa using hname), List.filterMap_cons,
        List.filterMap_cons, ih, hhandle, Live.deliver, if_pos hname']
    · have hname' : y.event.documentedName ≠ eventName := hxy.eventName ▸ hname
      rw [List.filter_cons_of_neg (by simpa using hname), List.filterMap_cons, ih, Live.deliver,
        if_neg hname']

/-- An event runs the callbacks that the reference model runs, in the same order. -/
theorem Sim.delivers (h : Sim T s r) (hdef : ∀ e : Event, (e.cls T).Definite) (eventName : String)
    (json : Json) :
    ((M.store s.state).filter fun x => x.eventName = eventName).filterMap
        (fun x => x.handle json) =
      Interface.all.flatMap fun i => (r i).filterMap (Live.deliver T eventName json) := by
  have hone : ∀ x ∈ M.store s.state, ∀ y ∈ M.store s.state,
      decide (x.eventName = eventName) = true → decide (y.eventName = eventName) = true →
      x.owner = y.owner := by
    intro x hx y hy hxn hyn
    exact h.owner_of_eventName hx hy ((of_decide_eq_true hxn).trans (of_decide_eq_true hyn).symm)
  rw [filter_eq_flatMap_ownedBy (by decide : Interface.all.Nodup) Interface.mem_all hone,
    List.filterMap_flatMap]
  exact List.flatMap_congr fun i _ => Stands.filterMap_eq hdef eventName json (h.lists i)

/-- An event concerns only the list of its own interface. -/
theorem flatMap_deliver {r : Reference ω} (h : ∀ i, ∀ x ∈ r i, x.event.interface = i) (e : Event)
    (json : Json) :
    Interface.all.flatMap (fun i => (r i).filterMap (Live.deliver T e.documentedName json)) =
      (r e.interface).filterMap (Live.deliver T e.documentedName json) := by
  refine flatMap_eq_of_forall_ne (by decide : Interface.all.Nodup) (Interface.mem_all e.interface)
    fun i hi => ?_
  rw [List.filterMap_eq_nil_iff]
  intro x hx
  refine if_neg fun hname => hi ?_
  rw [← h i x hx, Event.documentedName_injective hname]

/-- Where no entry is new and no id is issued, only the lists of the interfaces can change. -/
theorem Sim.of_subset (h : Sim T s r) {state : M.State} {r' : Reference ω}
    (hsub : ∀ x ∈ M.store state, x ∈ M.store s.state)
    (hissued : M.issued state = M.issued s.state)
    (hlists : ∀ i,
      List.Forall₂ (Stands T i) (ownedBy Subscription.owner i (M.store state)) (r' i)) :
    Sim T { s with state } r' := by
  refine ⟨hlists, fun x hx => ?_, fun p hp => ?_, fun p hp x hx => ?_⟩
  · show x.id ∈ M.issued state
    rw [hissued]
    exact h.stored x (hsub x hx)
  · show p.2 ∈ M.issued state
    rw [hissued]
    exact h.returned p hp
  · exact h.owner p hp x (hsub x hx)

/-- A call that keeps the store keeps the simulation. -/
theorem Sim.keeps (h : Sim T s r) {state : M.State} (hkeeps : M.Keeps s.state state) :
    Sim T { s with state } r := by
  obtain ⟨hstore, hissued⟩ := hkeeps
  refine h.of_subset (fun x hx => hstore ▸ hx) hissued fun i => ?_
  rw [hstore]
  exact h.lists i

/-- Removing by id hits the list of the interface that returned the id, and no other. -/
theorem Sim.unsubscribe (h : Sim T s r) {i : Interface} {id : SubscriptionId}
    (hid : (i, id) ∈ s.returned) {state : M.State}
    (hstore : M.store state = (M.store s.state).filter (fun x => x.id ≠ id))
    (hissued : M.issued state = M.issued s.state) :
    Sim T { s with state } (Function.update r i ((r i).filter fun x => x.id ≠ id)) := by
  refine h.of_subset (fun x hx => List.mem_of_mem_filter (hstore ▸ hx)) hissued fun j => ?_
  rw [hstore]
  by_cases hj : j = i
  · subst hj
    rw [Function.update_self, ownedBy_filter]
    refine List.rel_filter (fun x y hxy => ?_) (h.lists j)
    simp [hxy.id]
  · rw [Function.update_of_ne hj, ownedBy_filter_of_ne ?_ hj]
    · exact h.lists j
    · intro x hx hxid
      exact h.owner (i, id) hid x hx (by simpa using hxid)

/-- Removing an owner empties the list of that interface, and leaves the others. -/
theorem Sim.unsubscribeAll (h : Sim T s r) {i : Interface} {state : M.State}
    (hstore : M.store state = (M.store s.state).filter (fun x => x.owner ≠ i))
    (hissued : M.issued state = M.issued s.state) :
    Sim T { s with state } (Function.update r i []) := by
  refine h.of_subset (fun x hx => List.mem_of_mem_filter (hstore ▸ hx)) hissued fun j => ?_
  rw [hstore]
  by_cases hj : j = i
  · subst hj
    rw [Function.update_self, ownedBy_remove_self]
    exact .nil
  · rw [Function.update_of_ne hj, ownedBy_remove_of_ne hj]
    exact h.lists j

/-- A new entry goes to the end of the list of its interface, under an id nobody has. -/
theorem Sim.subscribe (h : Sim T s r) {e : Event} {notification : e.Value → ω}
    {handle : Json → Option ω} (hhandle : Handles (e.cls T) notification handle)
    {id : SubscriptionId} (hfresh : id ∉ M.issued s.state) {state : M.State}
    (hissued : M.issued state = id :: M.issued s.state)
    (hstore : M.store state =
      M.store s.state ++ [⟨id, e.interface, e.documentedName, handle⟩]) :
    Sim T ⟨state, (e.interface, id) :: s.returned⟩
      (Function.update r e.interface (r e.interface ++ [⟨id, e, notification⟩])) := by
  have hold : ∀ x ∈ M.store s.state, x.id ≠ id := by
    intro x hx hid
    exact hfresh (hid ▸ h.stored x hx)
  refine ⟨fun j => ?_, fun x hx => ?_, fun p hp => ?_, fun p hp x hx hid => ?_⟩
  · show List.Forall₂ _ (ownedBy _ j (M.store state)) _
    rw [hstore]
    have howner : Subscription.owner ⟨id, e.interface, e.documentedName, handle⟩ = e.interface :=
      rfl
    by_cases hj : j = e.interface
    · subst hj
      rw [Function.update_self, ownedBy_append_self _ howner]
      exact List.rel_append (h.lists _) (.cons ⟨rfl, rfl, rfl, hhandle⟩ .nil)
    · rw [Function.update_of_ne hj, ownedBy_append_of_ne _ (howner ▸ Ne.symm hj)]
      exact h.lists j
  · show x.id ∈ M.issued state
    rw [hissued]
    rw [hstore, List.mem_append, List.mem_singleton] at hx
    rcases hx with hx | rfl
    · exact List.mem_cons_of_mem _ (h.stored x hx)
    · exact List.mem_cons_self
  · show p.2 ∈ M.issued state
    rw [hissued]
    rcases List.mem_cons.mp hp with rfl | hp
    · exact List.mem_cons_self
    · exact List.mem_cons_of_mem _ (h.returned p hp)
  · rw [hstore, List.mem_append, List.mem_singleton] at hx
    rcases List.mem_cons.mp hp with rfl | hp <;> rcases hx with hx | rfl
    · exact absurd hid (hold x hx)
    · rfl
    · exact h.owner p hp x hx hid
    · have hid' : p.2 = id := hid.symm
      exact absurd (hid' ▸ h.returned p hp) hfresh

/-- Every action keeps the simulation, and runs the callbacks that the reference model runs. -/
theorem sim_step (hM : M.Lawful) (hdef : ∀ e : Event, (e.cls T).Definite) (s : Session M)
    (r : Reference ω) (op : Op ω) (h : Sim T s r) (hop : Permitted s op) :
    Sim T (step T s op).1 (Reference.step T r (op, (step T s op).2)).1 ∧
      (Reference.step T r (op, (step T s op).2)).2 = (step T s op).2.invoked := by
  cases op with
  | subscribe e notification =>
    rcases step_subscribe (T := T) hM s e notification with
      ⟨state, id, handle, hstep, hhandle, hfresh, hissued, hstore⟩ | ⟨state, hstep, hkeeps⟩
    · rw [hstep]
      exact ⟨h.subscribe hhandle hfresh hissued hstore, rfl⟩
    · rw [hstep]
      exact ⟨h.keeps hkeeps, rfl⟩
  | unsubscribe i id =>
    obtain ⟨state, hstep, hstore, hissued⟩ := step_unsubscribe (T := T) hM s i id
    rw [hstep]
    exact ⟨h.unsubscribe hop hstore hissued, rfl⟩
  | unsubscribeAll i =>
    obtain ⟨state, hstep, hstore, hissued⟩ := step_unsubscribeAll (T := T) hM s i
    rw [hstep]
    exact ⟨h.unsubscribeAll hstore hissued, rfl⟩
  | event eventName json =>
    obtain ⟨state, hstep, hkeeps⟩ := step_event (T := T) hM s eventName json
    rw [hstep]
    exact ⟨h.keeps hkeeps, (h.delivers hdef eventName json).symm⟩

end Step

/-- In every session that hands back only ids that the same interface returned, the callbacks run
are those of the reference model, in the same order and with the same values. Both take from the
helper which subscriptions are accepted and under which ids: a subscription returns the answer of
the helper as it is (`Event.subscribe_eq`). -/
theorem delivery_refines (hM : M.Lawful) (hT : T.ChecksExactly) (hA : T.DecodesArrays)
    (hS : T.DecodesScalars) (ops : List (Op ω))
    (hops : Transducer.Along (step T) Permitted (.init M) ops) :
    (Transducer.run (Reference.step T) (fun _ => []) (log T (.init M) ops)).2 =
      (log T (.init M) ops).map fun x => x.2.invoked := by
  exact (Transducer.run_simulates Answer.invoked
    (sim_step hM (Event.definite hT hA hS)) (sim_init hM) hops).2

/-- Two interfaces: one callback is removed by its id, the other goes on. -/
theorem delivery_refines_twoInterfaces :
    let M := SubscriptionManager.documented Bool 2
    let ops : List (Op Bool) :=
      [.subscribe .HighContrastUIChanged id, .subscribe .FocusedChanged id,
        .event "Accessibility.onHighContrastUIChanged" (.boolean true),
        .unsubscribe .Accessibility 0,
        .event "Accessibility.onHighContrastUIChanged" (.boolean true),
        .event "Presentation.onFocusedChanged" (.boolean false),
        .event "Presentation.onFocusedChanged" .null, .unsubscribeAll .Presentation]
    (Transducer.run (Reference.step .documented) (fun _ => [])
      (log .documented (.init M) ops)).2 = [[], [], [true], [], [], [false], [], []] := by
  intro M ops
  have hops : Transducer.Along (step .documented) Permitted (.init M) ops := by
    refine ⟨trivial, trivial, trivial, ?_, trivial, trivial, trivial, trivial, trivial⟩
    show (Interface.Accessibility, 0) ∈ [(Interface.Presentation, 1), (Interface.Accessibility, 0)]
    decide
  exact (delivery_refines (SubscriptionManager.documented_lawful Bool 2)
    JsonTypes.documented_checksExactly JsonTypes.documented_decodesArrays
    JsonTypes.documented_decodesScalars ops hops).trans (by decide +kernel)

end Firebolt
