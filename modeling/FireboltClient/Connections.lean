import FireboltClient.Disconnect
import FireboltClient.Lifetimes

/-!
# Connections

An application connects, uses the client, disconnects and connects again, any number of times and
in any order. Whatever the gateway does short of storing callbacks itself, nothing that was
subscribed before a `Disconnect` runs after it, except through `Device`.
-/

namespace Firebolt

open Session

variable {κ ρ ω : Type}

/-- The gateway's part in `Connect` and `Disconnect`, on the state of the helper. `κ` is the
configuration with the listener, `ρ` the result. -/
structure Gateway (κ ρ σ : Type) where
  connect : κ → σ → ρ × σ
  disconnect : σ → ρ × σ

/-- `Connect` returns what the gateway returns, and logs the version. -/
def FireboltAccessorImpl.Connect {σ : Type} (G : Gateway κ ρ σ) (config : κ) (s : σ) : ρ × σ :=
  G.connect config s

/-- What an application does, connections included. -/
inductive Action (κ ω : Type)
  | op (o : Op ω)
  | connect (config : κ)
  | disconnect

inductive Outcome (ρ ω : Type)
  | answer (a : Answer ω)
  | result (r : ρ)

/-- What a logged action does to the live subscriptions. -/
def Action.change : Action κ ω × Outcome ρ ω → Change (Live ω)
  | (.op o, .answer a) => Op.change (o, a)
  | (.disconnect, _) => .drop fun x => x.event.interface ≠ .Device
  | _ => .drop fun _ => false

variable {M : SubscriptionManager ω} {T : JsonTypes} {G : Gateway κ ρ M.State}

/-- Neither call of the gateway stores a callback. -/
structure Gateway.StoresNothing (G : Gateway κ ρ M.State) : Prop where
  connect : ∀ (config : κ) (s : M.State), (M.store (G.connect config s).2).Sublist (M.store s)
  disconnect : ∀ s : M.State, (M.store (G.disconnect s).2).Sublist (M.store s)

/-- One action of the application. -/
def Action.step (T : JsonTypes) (G : Gateway κ ρ M.State) (s : Session M) :
    Action κ ω → Session M × Outcome ρ ω
  | .op o => ((Session.step T s o).1, .answer (Session.step T s o).2)
  | .connect config =>
    let r := FireboltAccessorImpl.Connect G config s.state
    ({ s with state := r.2 }, .result r.1)
  | .disconnect =>
    let r := FireboltAccessorImpl.Disconnect M G.disconnect s.state
    ({ s with state := r.2 }, .result r.1)

/-! ## What is stored -/

/-- The entries of the store stand for some of the live subscriptions. -/
def StandsWithin (T : JsonTypes) (s : Session M) (l : List (Live ω)) : Prop :=
  ∃ u, u.Sublist l ∧ List.Forall₂ (Entry T) (M.store s.state) u

section

variable {s : Session M} {l : List (Live ω)}

theorem StandsWithin.of_sublist (h : StandsWithin T s l) {state : M.State}
    (hsub : (M.store state).Sublist (M.store s.state)) : StandsWithin T { s with state } l := by
  obtain ⟨u, hu, hstands⟩ := h
  obtain ⟨u', hu', hstands'⟩ := Change.exists_sublist_forall₂ hsub hstands
  exact ⟨u', hu'.trans hu, hstands'⟩

theorem StandsWithin.change (h : StandsWithin T s l) {s' : Session M}
    {c : Change (Subscription ω)} {c' : Change (Live ω)} (hrel : c.Rel (Entry T) c')
    (hstore : M.store s'.state = c.apply (M.store s.state)) : StandsWithin T s' (c'.apply l) := by
  obtain ⟨u, hu, hstands⟩ := h
  refine ⟨c'.apply u, Change.apply_sublist hu c', ?_⟩
  rw [hstore]
  exact hrel.forall₂_apply hstands

/-- Every action leaves within the live subscriptions what its log entry says. -/
theorem standsWithin_step (hM : M.Lawful) (hG : G.StoresNothing) (a : Action κ ω)
    (h : StandsWithin T s l) :
    StandsWithin T (a.step T G s).1 ((Action.change (a, (a.step T G s).2)).apply l) := by
  cases a with
  | op o =>
    obtain ⟨c, hrel, hstore⟩ := step_change (T := T) hM s o
    exact h.change hrel hstore
  | connect config =>
    have hkeep : Change.apply l (.drop fun _ => false) = l :=
      List.filter_eq_self.mpr fun _ _ => rfl
    show StandsWithin T { s with state := (G.connect config s.state).2 } (Change.apply l _)
    rw [show Action.change (Action.connect config, ((Action.connect config).step T G s).2) =
      (.drop fun _ => false : Change (Live ω)) from rfl, hkeep]
    exact h.of_sublist (hG.connect config s.state)
  | disconnect =>
    have hrel : Change.Rel (Entry T)
        (.drop fun x => decide (x.owner ≠ .Device) : Change (Subscription ω))
        (.drop fun x => decide (x.event.interface ≠ .Device) : Change (Live ω)) := by
      refine .drop fun x y hxy => ?_
      rw [Stands.owner hxy]
    have hteardown : StandsWithin T
        { s with state := FireboltAccessorImpl.unsubscribeAll M s.state }
        (Change.apply l (.drop fun x => decide (x.event.interface ≠ .Device))) := by
      refine h.change hrel ?_
      show M.store (FireboltAccessorImpl.unsubscribeAll M s.state) = _
      rw [store_unsubscribeAll hM]
      refine List.filter_congr fun x _ => ?_
      simp
    exact hteardown.of_sublist (hG.disconnect _)

theorem standsWithin_run (hM : M.Lawful) (hG : G.StoresNothing) (acts : List (Action κ ω))
    (h : StandsWithin T s l) :
    StandsWithin T (Transducer.run (Action.step T G) s acts).1
      (((Transducer.log (Action.step T G) s acts).map Action.change).foldl Change.apply l) := by
  induction acts generalizing s l with
  | nil => exact h
  | cons a acts ih => exact ih (standsWithin_step hM hG a h)

end

/-! ## What runs -/

/-- The accepted subscriptions that no later action removes; a `Disconnect` removes those of every
interface but `Device`. -/
def connected (log : List (Action κ ω × Outcome ρ ω)) : List (Live ω) :=
  Change.survivors (log.map Action.change)

/-- In every run of connections, an event runs nothing but callbacks of the subscriptions that are
left, each at most once, in the order of acceptance. -/
theorem onEvent_sublist_connected (hM : M.Lawful) (hT : T.ChecksExactly) (hA : T.DecodesArrays)
    (hS : T.DecodesScalars) (hG : G.StoresNothing) (acts : List (Action κ ω)) (eventName : String)
    (json : Json) :
    (M.onEvent eventName json
        (Transducer.run (Action.step T G) (.init M) acts).1.state).1.Sublist
      ((connected (Transducer.log (Action.step T G) (.init M) acts)).filterMap
        (Live.deliver T eventName json)) := by
  have hinit : StandsWithin T (Session.init M) [] := by
    have hstore : M.store (Session.init M).state = [] := hM.store_init
    exact ⟨[], List.Sublist.refl _, by rw [hstore]; exact .nil⟩
  obtain ⟨u, hu, hstands⟩ := standsWithin_run hM hG acts hinit
  rw [Change.foldl_apply_nil] at hu
  rw [onEvent_of_entries hM (Event.definite hT hA hS) hstands]
  exact hu.filterMap _

/-- Nothing that is removed by a `Disconnect` is run by an event of another interface than
`Device`. -/
theorem deliver_eq_nil_of_device {l : List (Live ω)}
    (hl : ∀ x ∈ l, x.event.interface = .Device) {e : Event} (he : e.interface ≠ .Device)
    (json : Json) : l.filterMap (Live.deliver T e.documentedName json) = [] := by
  rw [List.filterMap_eq_nil_iff]
  intro x hx
  refine if_neg fun hname => he ?_
  rw [← Event.documentedName_injective hname]
  exact hl x hx

/-- Whatever was done before a `Disconnect`, connections and all, an event of any interface but
`Device` afterwards runs nothing but callbacks of subscriptions that were accepted since then and
are not removed again: each at most once, in the order of acceptance. -/
theorem event_runs_reconnected (hM : M.Lawful) (hT : T.ChecksExactly) (hA : T.DecodesArrays)
    (hS : T.DecodesScalars) (hG : G.StoresNothing) (before after : List (Action κ ω)) {e : Event}
    (he : e.interface ≠ .Device) (json : Json) :
    let disconnected := (Transducer.run (Action.step T G) (.init M) (before ++ [.disconnect])).1
    (M.onEvent e.documentedName json
        (Transducer.run (Action.step T G) disconnected after).1.state).1.Sublist
      ((connected (Transducer.log (Action.step T G) disconnected after)).filterMap
        (Live.deliver T e.documentedName json)) := by
  intro disconnected
  have hrun := onEvent_sublist_connected hM hT hA hS hG ((before ++ [.disconnect]) ++ after)
    e.documentedName json
  have hleft : ∀ x ∈ Change.survivors ((Transducer.log (Action.step T G) (.init M)
      (before ++ [.disconnect])).map Action.change), x.event.interface = .Device := by
    intro x hx
    rw [Transducer.log_append, List.map_append, Change.survivors_append] at hx
    -- the last change is the one of `Disconnect`, and it appends nothing
    have hlast : x ∈ ((Change.survivors ((Transducer.log (Action.step T G) (.init M) before).map
        Action.change)).filter fun x => !([Change.drop fun x : Live ω =>
          decide (x.event.interface ≠ .Device)]).any (Change.drops x)) ++ [] := hx
    rw [List.append_nil, List.mem_filter] at hlast
    simpa [Change.drops] using hlast.2
  rw [Transducer.run_append_fst, connected, Transducer.log_append, List.map_append,
    Change.survivors_append, List.filterMap_append,
    deliver_eq_nil_of_device (fun x hx => hleft x (List.mem_of_mem_filter hx)) he,
    List.nil_append] at hrun
  exact hrun

/-- Two connections: only the callback of the second one runs after it. -/
theorem event_runs_reconnected_twice :
    let M := SubscriptionManager.documented ℕ 2
    let G : Gateway Unit Bool M.State := ⟨fun _ s => (true, s), fun s => (true, s)⟩
    let before : List (Action Unit ℕ) :=
      [.connect (), .op (.subscribe .FocusedChanged fun _ => 1)]
    let after : List (Action Unit ℕ) :=
      [.connect (), .op (.subscribe .FocusedChanged fun _ => 2)]
    let disconnected := (Transducer.run (Action.step .documented G) (.init M)
      (before ++ [.disconnect])).1
    (M.onEvent "Presentation.onFocusedChanged" (.boolean true)
      (Transducer.run (Action.step .documented G) disconnected after).1.state).1 = [2] := by
  intro M G before after disconnected
  have hruns := event_runs_reconnected (G := G) (SubscriptionManager.documented_lawful ℕ 2)
    JsonTypes.documented_checksExactly JsonTypes.documented_decodesArrays
    JsonTypes.documented_decodesScalars
    ⟨fun _ s => List.Sublist.refl _, fun s => List.Sublist.refl _⟩ before after
    (e := .FocusedChanged) (by decide) (.boolean true)
  -- one of one callback is that callback
  exact hruns.eq_of_length (by decide +kernel)

end Firebolt
