import FireboltClient.Lifetimes

/-!
# Isolation of the interfaces

All interfaces share one store and one supply of ids, and yet an event runs what was done through
its own interface and nothing else. Two sessions that do the same through an interface, with the
same answers up to the choice of ids, run the same callbacks of its events, whatever they do
through the others and whatever helper is below them.
-/

namespace Firebolt

open Session

variable {ω : Type} {T : JsonTypes}

/-- Whether a logged action goes through the interface. -/
def Op.through (i : Interface) : Op ω × Answer ω → Bool
  | (.subscribe e _, _) => e.interface = i
  | (.unsubscribe j _, _) => j = i
  | (.unsubscribeAll j, _) => j = i
  | (.event _ _, _) => false

/-- What was done through an interface. -/
def part (i : Interface) (log : List (Op ω × Answer ω)) : List (Op ω × Answer ω) :=
  log.filter (Op.through i)

/-- The ids of the accepted subscriptions. -/
def ids (log : List (Op ω × Answer ω)) : List SubscriptionId :=
  log.filterMap fun x => x.2.id

/-- The same action under other ids. -/
def Op.rename (f : SubscriptionId → SubscriptionId) : Op ω × Answer ω → Op ω × Answer ω
  | (.unsubscribe i id, a) => (.unsubscribe i (f id), { a with id := a.id.map f })
  | (op, a) => (op, { a with id := a.id.map f })

/-! ## The list of one interface -/

section Reference

variable {r : Reference ω} {i : Interface}

/-- The list of an interface changes as the actions that go through it say. -/
theorem reference_step_apply (hr : ∀ x ∈ r i, x.event.interface = i) (x : Op ω × Answer ω) :
    (Reference.step T r x).1 i = if Op.through i x then (Op.change x).apply (r i) else r i := by
  obtain ⟨op, id, invoked⟩ := x
  cases op with
  | subscribe e notification =>
    by_cases he : e.interface = i
    · subst he
      cases id with
      | none =>
        have hkeep : (Op.change (.subscribe e notification, ⟨none, invoked⟩)).apply
            (r e.interface) = r e.interface := List.filter_eq_self.mpr fun _ _ => rfl
        rw [hkeep, ite_self]
        rfl
      | some id =>
        rw [if_pos (by simp [Op.through])]
        exact Function.update_self ..
    · rw [if_neg (by simp [Op.through, he])]
      cases id with
      | none => rfl
      | some id => exact Function.update_of_ne (Ne.symm he) ..
  | unsubscribe j id' =>
    by_cases hj : j = i
    · subst hj
      rw [if_pos (by simp [Op.through])]
      refine (Function.update_self ..).trans (List.filter_congr fun x _ => ?_)
      simp [Op.removes]
    · rw [if_neg (by simp [Op.through, hj])]
      exact Function.update_of_ne (Ne.symm hj) ..
  | unsubscribeAll j =>
    by_cases hj : j = i
    · subst hj
      rw [if_pos (by simp [Op.through])]
      refine (Function.update_self ..).trans (Eq.symm ?_)
      show (r j).filter _ = []
      rw [List.filter_eq_nil_iff]
      intro x hx
      simp [Op.removes, hr x hx]
    · rw [if_neg (by simp [Op.through, hj])]
      exact Function.update_of_ne (Ne.symm hj) ..
  | event eventName json => rfl

/-- Only an accepted subscription appends. -/
theorem Op.change_eq_append {x : Op ω × Answer ω} {y : Live ω} (h : Op.change x = .append y) :
    x.1 = .subscribe y.event y.notification ∧ x.2.id = some y.id := by
  obtain ⟨op, id, invoked⟩ := x
  cases op with
  | subscribe e notification =>
    cases id with
    | none => exact absurd h (by simp [Op.change])
    | some id =>
      obtain rfl := Change.append.inj h
      exact ⟨rfl, rfl⟩
  | _ => exact absurd h (by simp [Op.change])

/-- An entry is put into the list of the interface of its event. -/
theorem reference_step_interface (hr : ∀ x ∈ r i, x.event.interface = i) (x : Op ω × Answer ω) :
    ∀ y ∈ (Reference.step T r x).1 i, y.event.interface = i := by
  intro y hy
  rw [reference_step_apply hr] at hy
  by_cases hx : Op.through i x = true
  · rw [if_pos hx] at hy
    rcases hchange : Op.change x with z | p
    · rw [hchange, Change.apply, List.mem_append, List.mem_singleton] at hy
      rcases hy with hy | rfl
      · exact hr y hy
      · obtain ⟨op, answer⟩ := x
        obtain ⟨rfl, -⟩ := Op.change_eq_append hchange
        exact of_decide_eq_true hx
    · rw [hchange] at hy
      exact hr y (List.mem_of_mem_filter hy)
  · rw [if_neg hx] at hy
    exact hr y hy

/-- After any log, the list of an interface is what is live of the part that went through it. -/
theorem reference_run_apply (hr : ∀ x ∈ r i, x.event.interface = i) (log : List (Op ω × Answer ω)) :
    (Transducer.run (Reference.step T) r log).1 i =
      ((part i log).map Op.change).foldl Change.apply (r i) := by
  induction log generalizing r with
  | nil => rfl
  | cons x log ih =>
    have hrest : (Transducer.run (Reference.step T) r (x :: log)).1 i =
        ((part i log).map Op.change).foldl Change.apply ((Reference.step T r x).1 i) :=
      ih (reference_step_interface hr x)
    rw [hrest, reference_step_apply hr]
    by_cases hx : Op.through i x = true
    · rw [if_pos hx, part, part, List.filter_cons_of_pos hx]
      rfl
    · rw [if_neg hx, part, part, List.filter_cons_of_neg hx]

end Reference

/-! ## The ids of a session -/

section Ids

variable {M : SubscriptionManager ω} {s : Session M} {i : Interface}

/-- A new id is answered to the interface of the event, or none is. -/
theorem step_answer (hM : M.Lawful) (s : Session M) (op : Op ω) :
    ((step T s op).2.id = none ∧ M.issued (step T s op).1.state = M.issued s.state ∧
        (step T s op).1.returned = s.returned) ∨
      ∃ e notification id, op = .subscribe e notification ∧ (step T s op).2.id = some id ∧
        id ∉ M.issued s.state ∧ M.issued (step T s op).1.state = id :: M.issued s.state ∧
        (step T s op).1.returned = (e.interface, id) :: s.returned := by
  cases op with
  | subscribe e notification =>
    rcases step_subscribe (T := T) hM s e notification with
      ⟨state, id, h, hstep, -, hfresh, hissued, -⟩ | ⟨state, hstep, hkeeps⟩
    · rw [hstep]
      exact Or.inr ⟨e, notification, id, rfl, rfl, hfresh, hissued, rfl⟩
    · rw [hstep]
      exact Or.inl ⟨rfl, hkeeps.2, rfl⟩
  | unsubscribe j id =>
    obtain ⟨state, hstep, -, hissued⟩ := step_unsubscribe (T := T) hM s j id
    rw [hstep]
    exact Or.inl ⟨rfl, hissued, rfl⟩
  | unsubscribeAll j =>
    obtain ⟨state, hstep, -, hissued⟩ := step_unsubscribeAll (T := T) hM s j
    rw [hstep]
    exact Or.inl ⟨rfl, hissued, rfl⟩
  | event eventName json =>
    obtain ⟨state, hstep, hkeeps⟩ := step_event (T := T) hM s eventName json
    rw [hstep]
    exact Or.inl ⟨rfl, hkeeps.2, rfl⟩

theorem ids_cons (x : Op ω × Answer ω) (log : List (Op ω × Answer ω)) :
    ids (x :: log) = x.2.id.toList ++ ids log := by
  unfold ids
  rcases hid : x.2.id with _ | id
  · exact List.filterMap_cons_none hid
  · exact List.filterMap_cons_some hid

/-- No id is answered twice. -/
theorem ids_nodup (hM : M.Lawful) (s : Session M) (ops : List (Op ω)) :
    (ids (log T s ops)).Nodup ∧ ∀ id ∈ ids (log T s ops), id ∉ M.issued s.state := by
  induction ops generalizing s with
  | nil => exact ⟨List.nodup_nil, fun id hid => absurd hid List.not_mem_nil⟩
  | cons op ops ih =>
    obtain ⟨hnodup, hfresh⟩ := ih (step T s op).1
    rcases step_answer (T := T) hM s op with
      ⟨hnone, hissued, -⟩ | ⟨-, -, id, -, hsome, hid, hissued, -⟩
    · rw [log_cons, ids_cons, hnone]
      rw [hissued] at hfresh
      exact ⟨hnodup, hfresh⟩
    · rw [log_cons, ids_cons, hsome]
      rw [hissued] at hfresh
      refine ⟨List.nodup_cons.mpr ⟨fun h => hfresh id h List.mem_cons_self, hnodup⟩, ?_⟩
      intro id' hid'
      rcases List.mem_cons.mp hid' with rfl | hid'
      · exact hid
      · exact fun h => hfresh id' hid' (List.mem_cons_of_mem _ h)

theorem mem_part {x : Op ω × Answer ω} {log : List (Op ω × Answer ω)} :
    x ∈ part i log ↔ x ∈ log ∧ Op.through i x = true := List.mem_filter

/-- An id that is handed back through an interface was answered to this interface. -/
theorem mem_ids_of_unsubscribe (hM : M.Lawful) {ops : List (Op ω)}
    (hops : Transducer.Along (step T) Permitted s ops) {id : SubscriptionId} {a : Answer ω}
    (hx : (.unsubscribe i id, a) ∈ log T s ops) :
    (i, id) ∈ s.returned ∨ id ∈ ids (part i (log T s ops)) := by
  induction ops generalizing s with
  | nil => exact absurd hx List.not_mem_nil
  | cons op ops ih =>
    have hlater : ∀ id ∈ ids (part i (log T (step T s op).1 ops)),
        id ∈ ids (part i (log T s (op :: ops))) := by
      intro id hid
      rw [log_cons]
      exact (((List.sublist_cons_self _ _).filter _).filterMap _).subset hid
    rw [log_cons] at hx
    rcases List.mem_cons.mp hx with hhead | hx
    · obtain ⟨rfl, -⟩ := Prod.mk.inj hhead
      exact Or.inl hops.1
    · rcases ih hops.2 hx with hreturned | hid
      · rcases step_answer (T := T) hM s op with
          ⟨-, -, hsame⟩ | ⟨e, notification, id', rfl, hsome, -, -, hnew⟩
        · exact Or.inl (hsame ▸ hreturned)
        · rw [hnew] at hreturned
          rcases List.mem_cons.mp hreturned with heq | hreturned
          · obtain ⟨rfl, rfl⟩ := Prod.mk.inj heq
            refine Or.inr (List.mem_filterMap.mpr ⟨(.subscribe e notification, _), ?_, hsome⟩)
            rw [log_cons, mem_part]
            exact ⟨List.mem_cons_self, by simp [Op.through]⟩
          · exact Or.inl hreturned
      · exact Or.inr (hlater id hid)

end Ids

/-! ## The choice of ids -/

section Rename

variable {f : SubscriptionId → SubscriptionId} {known : List SubscriptionId}

/-- The same subscription under its other id. -/
structure Renamed (f : SubscriptionId → SubscriptionId) (known : List SubscriptionId)
    (x y : Live ω) : Prop where
  known : x.id ∈ known
  eq : y = { x with id := f x.id }

/-- Where no two known ids are confused, a renamed action changes the renamed list alike. -/
theorem change_rename (hf : Set.InjOn f {id | id ∈ known}) {x : Op ω × Answer ω}
    (hid : ∀ id, x.2.id = some id → id ∈ known)
    (hback : ∀ j id, x.1 = .unsubscribe j id → id ∈ known) :
    Change.Rel (Renamed f known) (Op.change x) (Op.change (Op.rename f x)) := by
  obtain ⟨op, id, invoked⟩ := x
  cases op with
  | subscribe e notification =>
    cases id with
    | none => exact .drop fun x y _ => rfl
    | some id => exact .append ⟨hid id rfl, rfl⟩
  | unsubscribe j id' =>
    refine .drop fun x y hxy => ?_
    obtain ⟨hknown, rfl⟩ := hxy
    have hiff : x.id = id' ↔ f x.id = f id' := (hf.eq_iff hknown (hback j id' rfl)).symm
    simp [Op.removes, hiff]
  | unsubscribeAll j =>
    refine .drop fun x y hxy => ?_
    obtain ⟨-, rfl⟩ := hxy
    rfl
  | event eventName json => exact .drop fun x y _ => rfl

/-- The id does not show when an event is delivered. -/
theorem Renamed.deliver_eq {x y : Live ω} (h : Renamed f known x y) (eventName : String)
    (json : Json) : Live.deliver T eventName json x = Live.deliver T eventName json y := by
  obtain ⟨-, rfl⟩ := h
  rfl

theorem ids_rename (log : List (Op ω × Answer ω)) :
    ids (log.map (Op.rename f)) = (ids log).map f := by
  unfold ids
  rw [List.filterMap_map, List.map_filterMap]
  refine List.filterMap_congr fun x _ => ?_
  obtain ⟨op, id, invoked⟩ := x
  cases op <;> rfl

/-- Renamed actions leave the renamed subscriptions, which deliver the same. -/
theorem live_rename {log : List (Op ω × Answer ω)} (hf : Set.InjOn f {id | id ∈ ids log})
    (hback : ∀ j id a, (.unsubscribe j id, a) ∈ log → id ∈ ids log) (eventName : String)
    (json : Json) :
    (live (log.map (Op.rename f))).filterMap (Live.deliver T eventName json) =
      (live log).filterMap (Live.deliver T eventName json) := by
  have hchanges : List.Forall₂ (Change.Rel (Renamed f (ids log))) (log.map Op.change)
      ((log.map (Op.rename f)).map Op.change) := by
    rw [List.map_map, List.forall₂_map_left_iff, List.forall₂_map_right_iff, List.forall₂_same]
    intro x hx
    refine change_rename hf (fun id hid => List.mem_filterMap.mpr ⟨x, hx, hid⟩) fun j id hop => ?_
    refine hback j id x.2 ?_
    rw [← hop]
    exact hx
  have hlive := Change.Rel.forall₂_foldl hchanges .nil
  rw [Change.foldl_apply_nil, Change.foldl_apply_nil] at hlive
  exact (Change.filterMap_eq_of_forall₂ hlive fun x y hxy => hxy.deliver_eq eventName json).symm

end Rename

/-! ## Two sessions -/

section

variable {M M' : SubscriptionManager ω}

/-- After a session that hands back only ids that the same interface returned, an event runs what
is live of the part that went through its interface. -/
theorem onEvent_eq_part (hM : M.Lawful) (hT : T.ChecksExactly) (hA : T.DecodesArrays)
    (hS : T.DecodesScalars) {ops : List (Op ω)}
    (hops : Transducer.Along (step T) Permitted (.init M) ops) (e : Event) (json : Json) :
    (M.onEvent e.documentedName json (run T (.init M) ops).state).1 =
      (live (part e.interface (log T (.init M) ops))).filterMap
        (Live.deliver T e.documentedName json) := by
  have hdef := Event.definite hT hA hS
  have hsim : Sim T (run T (.init M) ops)
      (Transducer.run (Reference.step T) (fun _ => []) (log T (.init M) ops)).1 :=
    (Transducer.run_simulates Answer.invoked (sim_step hM hdef) (sim_init hM) hops).1
  have happly : ∀ i, (Transducer.run (Reference.step T) (fun _ => []) (log T (.init M) ops)).1 i =
      live (part i (log T (.init M) ops)) := by
    intro i
    rw [reference_run_apply (fun x hx => absurd hx List.not_mem_nil), Change.foldl_apply_nil]
    rfl
  have hinterface : ∀ i, ∀ x ∈ (Transducer.run (Reference.step T) (fun _ => [])
      (log T (.init M) ops)).1 i, x.event.interface = i := by
    intro i x hx
    obtain ⟨y, hy⟩ := exists_forall₂_iff.mp ⟨_, (hsim.lists i).flip⟩ x hx
    exact hy.owner
  rw [(hM.onEvent _ _ _).1, hsim.delivers hdef, flatMap_deliver hinterface, happly]

/-- Two sessions that did the same through an interface and got the same answers, up to the choice
of ids, run the same callbacks of its events. -/
theorem interfaces_isolated (hM : M.Lawful) (hM' : M'.Lawful) (hT : T.ChecksExactly)
    (hA : T.DecodesArrays) (hS : T.DecodesScalars) {ops ops' : List (Op ω)}
    (hops : Transducer.Along (step T) Permitted (.init M) ops)
    (hops' : Transducer.Along (step T) Permitted (.init M') ops') {e : Event}
    {f : SubscriptionId → SubscriptionId}
    (hsame : part e.interface (log T (.init M') ops') =
      (part e.interface (log T (.init M) ops)).map (Op.rename f)) (json : Json) :
    (M'.onEvent e.documentedName json (run T (.init M') ops').state).1 =
      (M.onEvent e.documentedName json (run T (.init M) ops).state).1 := by
  rw [onEvent_eq_part hM' hT hA hS hops', onEvent_eq_part hM hT hA hS hops, hsame]
  refine live_rename ?_ ?_ _ _
  · -- the new names are ids of the second session, of which no two are equal
    have hnodup : (ids (part e.interface (log T (.init M') ops'))).Nodup :=
      (ids_nodup hM' (.init M') ops').1.sublist (List.filter_sublist.filterMap _)
    rw [hsame, ids_rename] at hnodup
    exact fun id hid id' hid' h => List.inj_on_of_nodup_map hnodup hid hid' h
  · intro j id a hx
    obtain ⟨hlog, hthrough⟩ := mem_part.mp hx
    obtain rfl : j = e.interface := of_decide_eq_true hthrough
    rcases mem_ids_of_unsubscribe hM hops hlog with h | h
    · exact absurd h List.not_mem_nil
    · exact h

end

/-- With and without a subscription of another interface in between, which takes up an id. -/
theorem interfaces_isolated_shiftedIds :
    let M := SubscriptionManager.documented Bool 2
    let M' := SubscriptionManager.documented Bool 5
    let ops : List (Op Bool) :=
      [.subscribe .HighContrastUIChanged id, .subscribe .HighContrastUIChanged not,
        .unsubscribe .Accessibility 0]
    let ops' : List (Op Bool) :=
      [.subscribe .FocusedChanged id, .subscribe .HighContrastUIChanged id,
        .event "Presentation.onFocusedChanged" (.boolean false),
        .subscribe .HighContrastUIChanged not, .unsubscribeAll .Presentation,
        .unsubscribe .Accessibility 1]
    (M'.onEvent "Accessibility.onHighContrastUIChanged" (.boolean true)
        (run .documented (.init M') ops').state).1 =
      (M.onEvent "Accessibility.onHighContrastUIChanged" (.boolean true)
        (run .documented (.init M) ops).state).1 := by
  intro M M' ops ops'
  have hops : Transducer.Along (step .documented) Permitted (.init M) ops := by
    refine ⟨trivial, trivial, ?_, trivial⟩
    show (Interface.Accessibility, 0) ∈ [(Interface.Accessibility, 1), (Interface.Accessibility, 0)]
    decide
  have hops' : Transducer.Along (step .documented) Permitted (.init M') ops' := by
    refine ⟨trivial, trivial, trivial, trivial, trivial, ?_, trivial⟩
    show (Interface.Accessibility, 1) ∈ [(Interface.Accessibility, 2), (Interface.Accessibility, 1),
      (Interface.Presentation, 0)]
    decide
  exact interfaces_isolated (e := .HighContrastUIChanged) (f := fun id => id + 1)
    (SubscriptionManager.documented_lawful Bool 2) (SubscriptionManager.documented_lawful Bool 5)
    JsonTypes.documented_checksExactly JsonTypes.documented_decodesArrays
    JsonTypes.documented_decodesScalars hops hops' rfl (.boolean true)

end Firebolt
