import FireboltClient.Changes
import FireboltClient.Delivery

/-!
# Live subscriptions

Which callbacks an event runs after a session is read off the log alone: those of the accepted
subscriptions that no later action removes, whatever ids the application hands back and through
whichever interface it does.
-/

namespace Firebolt

open Session

variable {ω : Type} {M : SubscriptionManager ω} {T : JsonTypes}

/-- What a logged action does to the live subscriptions. -/
def Op.change : Op ω × Answer ω → Change (Live ω)
  | (.subscribe e notification, ⟨some id, _⟩) => .append ⟨id, e, notification⟩
  | (op, _) => .drop fun x => op.removes x.event.interface x.id

/-- The accepted subscriptions that no later action removes, in the order of acceptance. -/
def live (log : List (Op ω × Answer ω)) : List (Live ω) :=
  Change.survivors (log.map Op.change)

/-! ## One action -/

/-- An entry of the store stands for a live subscription. -/
def Entry (T : JsonTypes) (x : Subscription ω) (y : Live ω) : Prop := Stands T x.owner x y

theorem Entry.removes_eq {x : Subscription ω} {y : Live ω} (h : Entry T x y) (op : Op ω) :
    op.removes x.owner x.id = op.removes y.event.interface y.id := by
  rw [Stands.owner h, Stands.id h]

/-- An event does with an entry what it does with the live subscription. -/
theorem Entry.deliver_eq {x : Subscription ω} {y : Live ω} (h : Entry T x y)
    (hdef : (y.event.cls T).Definite) (eventName : String) (json : Json) :
    (if x.eventName = eventName then x.handle json else none) =
      Live.deliver T eventName json y := by
  rw [Live.deliver, Stands.eventName h, (Stands.handle h).handle_eq hdef json]

/-- An action changes the store as its log entry says. -/
theorem step_change (hM : M.Lawful) (s : Session M) (op : Op ω) :
    ∃ c, Change.Rel (Entry T) c (Op.change (op, (step T s op).2)) ∧
      M.store (step T s op).1.state = c.apply (M.store s.state) := by
  have hremoves : (step T s op).2.id = none → M.store (step T s op).1.state =
      (M.store s.state).filter (fun x => !op.removes x.owner x.id) →
      ∃ c, Change.Rel (Entry T) c (Op.change (op, (step T s op).2)) ∧
        M.store (step T s op).1.state = c.apply (M.store s.state) := by
    intro hid hstore
    have hchange : Op.change (op, (step T s op).2) =
        .drop fun x => op.removes x.event.interface x.id := by
      rcases hanswer : (step T s op).2 with ⟨_ | id, invoked⟩
      · cases op <;> rfl
      · rw [hanswer] at hid
        exact absurd hid (by simp)
    refine ⟨.drop fun x => op.removes x.owner x.id, ?_, hstore⟩
    rw [hchange]
    exact .drop fun x y hxy => hxy.removes_eq op
  rcases hop : op.event? with _ | e
  · rcases store_step (T := T) hM s op with ⟨e, id, h, he, -, -⟩ | ⟨hid, hstore⟩
    · exact absurd (hop.symm.trans he) (by simp)
    · exact hremoves hid hstore
  cases op with
  | subscribe e notification =>
    rcases step_subscribe (T := T) hM s e notification with
      ⟨state, id, h, hstep, hh, -, -, hstore⟩ | ⟨state, hstep, hkeeps⟩
    · refine ⟨.append ⟨id, e.interface, e.documentedName, h⟩, ?_, ?_⟩ <;> rw [hstep]
      · exact .append ⟨rfl, rfl, rfl, hh⟩
      · exact hstore
    · refine hremoves (by rw [hstep]) ?_
      rw [hstep]
      exact hkeeps.1.trans (List.filter_eq_self.mpr fun _ _ => rfl).symm
  | _ => exact absurd hop (by simp [Op.event?])

/-- An event does with the store what it does with the live subscriptions. -/
theorem onEvent_of_entries (hM : M.Lawful) (hdef : ∀ e : Event, (e.cls T).Definite) {s : M.State}
    {l : List (Live ω)} (h : List.Forall₂ (Entry T) (M.store s) l) (eventName : String)
    (json : Json) :
    (M.onEvent eventName json s).1 = l.filterMap (Live.deliver T eventName json) := by
  rw [(hM.onEvent _ _ _).1, List.filterMap_filter]
  refine Change.filterMap_eq_of_forall₂ h fun x y hxy => ?_
  rw [← hxy.deliver_eq (hdef y.event)]
  simp only [decide_eq_true_eq]

/-! ## Whole sessions -/

/-- The store after a session, entry by entry. -/
theorem store_run (hM : M.Lawful) (s : Session M) (ops : List (Op ω)) {l : List (Live ω)}
    (h : List.Forall₂ (Entry T) (M.store s.state) l) :
    List.Forall₂ (Entry T) (M.store (run T s ops).state)
      (((log T s ops).map Op.change).foldl Change.apply l) := by
  induction ops generalizing s l with
  | nil => exact h
  | cons op ops ih =>
    obtain ⟨c, hrel, hstore⟩ := step_change (T := T) hM s op
    refine ih (step T s op).1 ?_
    rw [hstore]
    exact hrel.forall₂_apply h

/-- The store stands, entry by entry, for what is live of the log. -/
theorem store_eq_live (hM : M.Lawful) (ops : List (Op ω)) :
    List.Forall₂ (Entry T) (M.store (run T (.init M) ops).state)
      (live (log T (.init M) ops)) := by
  have hinit : List.Forall₂ (Entry T) (M.store (Session.init M).state) [] := by
    have hstore : M.store (Session.init M).state = [] := hM.store_init
    rw [hstore]
    exact .nil
  have hrun := store_run hM (Session.init M) ops hinit
  rwa [Change.foldl_apply_nil] at hrun

/-- After any session, with any ids handed back, an event runs the callbacks of the accepted
subscriptions to it that no later action removed: each once, in the order of acceptance, on what
the decoder makes of the payload. -/
theorem event_runs_live (hM : M.Lawful) (hT : T.ChecksExactly) (hA : T.DecodesArrays)
    (hS : T.DecodesScalars) (ops : List (Op ω)) (eventName : String) (json : Json) :
    (M.onEvent eventName json (run T (.init M) ops).state).1 =
      (live (log T (.init M) ops)).filterMap (Live.deliver T eventName json) :=
  onEvent_of_entries hM (Event.definite hT hA hS) (store_eq_live hM ops) eventName json

/-- An id that another interface returned removes that interface's callback: the second event
runs nothing. -/
theorem event_runs_live_foreignId :
    let M := SubscriptionManager.documented Bool 2
    let ops : List (Op Bool) :=
      [.subscribe .HighContrastUIChanged id, .subscribe .FocusedChanged id,
        .unsubscribe .Accessibility 1]
    let s := (run .documented (.init M) ops).state
    (M.onEvent "Accessibility.onHighContrastUIChanged" (.boolean true) s).1 = [true] ∧
      (M.onEvent "Presentation.onFocusedChanged" (.boolean true) s).1 = [] := by
  intro M ops s
  have hruns := event_runs_live (SubscriptionManager.documented_lawful Bool 2)
    JsonTypes.documented_checksExactly JsonTypes.documented_decodesArrays
    JsonTypes.documented_decodesScalars ops
  exact ⟨(hruns _ _).trans (by decide +kernel), (hruns _ _).trans (by decide +kernel)⟩

end Firebolt
