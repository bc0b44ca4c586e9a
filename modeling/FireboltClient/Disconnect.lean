import FireboltClient.OwnedStore
import FireboltClient.Session

/-!
# Disconnect

What the teardown of `Disconnect` leaves in the helper's store. It goes through seven of the eight
interfaces, so what is left after any session is what `Device` still holds, and that depends on
whether every accepted HDR subscription was removed again.
-/

namespace Firebolt

open OwnedStore Session

variable {ω : Type} {M : SubscriptionManager ω} {T : JsonTypes}

/-! ## What a session leaves to an interface -/

/-- Every accepted subscription to an event of `i` is removed by a later action. -/
def Released (i : Interface) (log : List (Op ω × Answer ω)) : Prop :=
  ∀ pre r post e id, log = pre ++ r :: post → r.1.event? = some e → e.interface = i →
    r.2.id = some id → ∃ q ∈ post, q.1.removes i id = true

theorem released_nil (i : Interface) : Released i ([] : List (Op ω × Answer ω)) := by
  intro pre r post e id hlog
  exact absurd hlog (by simp)

theorem released_cons {i : Interface} {r : Op ω × Answer ω} {log : List (Op ω × Answer ω)} :
    Released i (r :: log) ↔
      (∀ e id, r.1.event? = some e → e.interface = i → r.2.id = some id →
        ∃ q ∈ log, q.1.removes i id = true) ∧ Released i log := by
  constructor
  · intro h
    refine ⟨fun e id => h [] r log e id rfl, fun pre q post e id hlog => ?_⟩
    exact h (r :: pre) q post e id (by rw [hlog, List.cons_append])
  · rintro ⟨hhead, htail⟩ pre q post e id hlog
    cases pre with
    | nil =>
      obtain ⟨rfl, rfl⟩ := List.cons.inj hlog
      exact hhead e id
    | cons p pre => exact htail pre q post e id (List.cons.inj hlog).2

/-- An action that subscribes removes nothing. -/
theorem removes_of_event? {op : Op ω} {e : Event} (h : op.event? = some e) (i : Interface)
    (id : SubscriptionId) : op.removes i id = false := by
  cases op with
  | subscribe e notification => rfl
  | _ => exact absurd h (by simp [Op.event?])

/-- After a session an interface holds nothing just when what it held before and what it has
subscribed to meanwhile was all removed. -/
theorem ownedBy_run_eq_nil_iff (hM : M.Lawful) (i : Interface) (s : Session M)
    (ops : List (Op ω)) :
    ownedBy Subscription.owner i (M.store (run T s ops).state) = [] ↔
      (∀ x ∈ ownedBy Subscription.owner i (M.store s.state),
        ∃ r ∈ log T s ops, r.1.removes i x.id = true) ∧ Released i (log T s ops) := by
  induction ops generalizing s with
  | nil =>
    refine ⟨fun h => ⟨fun x hx => ?_, released_nil i⟩, fun h => ?_⟩
    · exact absurd (h ▸ hx) List.not_mem_nil
    · exact List.eq_nil_iff_forall_not_mem.mpr fun x hx => by
        obtain ⟨r, hr, -⟩ := h.1 x hx
        exact absurd hr List.not_mem_nil
  | cons op ops ih =>
    have hrun : run T s (op :: ops) = run T (step T s op).1 ops := rfl
    have hlog : log T s (op :: ops) = (op, (step T s op).2) :: log T (step T s op).1 ops := rfl
    rw [hrun, hlog, ih, released_cons]
    simp only [List.exists_mem_cons_iff]
    rcases store_step (T := T) hM s op with ⟨e, id, h, he, hid, hstore⟩ | ⟨hid, hstore⟩
    · -- the action adds an entry, so what was there before is removed by the rest
      have hnew : ∀ {P : SubscriptionId → Prop}, (∀ e' id', op.event? = some e' →
          e'.interface = i → (step T s op).2.id = some id' → P id') ↔ (e.interface = i → P id) := by
        intro P
        constructor
        · exact fun hP howner => hP e id he howner hid
        · intro hP e' id' he' howner hid'
          obtain rfl : e = e' := Option.some.inj (he.symm.trans he')
          obtain rfl : id = id' := Option.some.inj (hid.symm.trans hid')
          exact hP howner
      rw [hstore, forall_ownedBy_append, hnew, and_assoc]
      simp only [removes_of_event? he, Bool.false_eq_true, false_or]
    · -- the action removes some entries, and the rest has to remove the others
      have hnew : ∀ e id, op.event? = some e → e.interface = i → (step T s op).2.id = some id →
          ∃ q ∈ log T (step T s op).1 ops, q.1.removes i id = true := by
        intro e id _ _ h
        exact absurd (hid ▸ h) (by simp)
      rw [hstore, forall_ownedBy_filter, and_iff_right hnew]
      refine and_congr_left fun _ => forall₂_congr fun x hx => ?_
      rw [(mem_ownedBy.mp hx).2]
      by_cases hop : op.removes i x.id = true
      · simp [hop]
      · simp [hop]

/-! ## The teardown -/

/-- The teardown leaves what `Device` holds, and nothing else. -/
theorem store_unsubscribeAll (hM : M.Lawful) (s : M.State) :
    M.store (FireboltAccessorImpl.unsubscribeAll M s) =
      ownedBy Subscription.owner .Device (M.store s) := by
  simp only [FireboltAccessorImpl.unsubscribeAll, Accessibility.AccessibilityImpl.unsubscribeAll,
    Actions.ActionsImpl.unsubscribeAll, Lifecycle.LifecycleImpl.unsubscribeAll,
    Localization.LocalizationImpl.unsubscribeAll, Network.NetworkImpl.unsubscribeAll,
    Presentation.PresentationImpl.unsubscribeAll, TextToSpeech.TextToSpeechImpl.unsubscribeAll,
    (hM.unsubscribeAll _ _).1, List.filter_filter, ownedBy]
  refine List.filter_congr fun x _ => ?_
  cases x.owner <;> rfl

/-- Nothing that was stored before can be run by a later event once the store is empty. -/
theorem onEvent_eq_nil (hM : M.Lawful) {s : M.State} (h : M.store s = []) (eventName : String)
    (json : Json) : (M.onEvent eventName json s).1 = [] := by
  rw [(hM.onEvent eventName json s).1, h]
  rfl

/-- After any session, `Disconnect` hands over an empty store just when every accepted
subscription to `Device.onHdrChanged` was removed again by the application itself; and then no
callback of the session can run any more. -/
theorem disconnect_leaves_nothing_iff (hM : M.Lawful) (ops : List (Op ω)) :
    (FireboltAccessorImpl.Disconnect M M.store (run T (.init M) ops).state = [] ↔
      Released .Device (log T (.init M) ops)) ∧
    (Released .Device (log T (.init M) ops) → ∀ eventName json,
      FireboltAccessorImpl.Disconnect M (fun s => (M.onEvent eventName json s).1)
        (run T (.init M) ops).state = []) := by
  have hiff : FireboltAccessorImpl.Disconnect M M.store (run T (.init M) ops).state = [] ↔
      Released .Device (log T (.init M) ops) := by
    have hinit : M.store (Session.init M).state = [] := hM.store_init
    unfold FireboltAccessorImpl.Disconnect
    rw [store_unsubscribeAll hM, ownedBy_run_eq_nil_iff hM, hinit]
    refine ⟨fun h => h.2, fun h => ⟨fun x hx => ?_, h⟩⟩
    exact absurd hx (by simp [ownedBy])
  refine ⟨hiff, fun h eventName json => ?_⟩
  exact onEvent_eq_nil hM (hiff.mpr h) eventName json

/-- A session that subscribes to the HDR event and removes the subscription by its id. -/
theorem disconnect_leaves_nothing_removed :
    let M := SubscriptionManager.documented Unit 1
    FireboltAccessorImpl.Disconnect M M.store (run .documented (.init M)
      [.subscribe .HdrChanged fun _ => (), .unsubscribe .Device 0]).state = [] := by
  refine (disconnect_leaves_nothing_iff (SubscriptionManager.documented_lawful Unit 1) _).1.mpr ?_
  refine released_cons.mpr ⟨fun e id he _ hid => ?_, released_cons.mpr ⟨?_, released_nil _⟩⟩
  · obtain rfl : 0 = id := Option.some.inj hid
    exact ⟨_, List.mem_singleton_self _, rfl⟩
  · intro e id he
    exact absurd he (by simp [Op.event?])

/-- One HDR subscription, left alone: `Disconnect` hands it over, and it still runs. -/
theorem disconnect_leaves_hdrChanged :
    let M := SubscriptionManager.documented Unit 1
    let s := (run .documented (.init M) [.subscribe .HdrChanged fun _ => ()]).state
    FireboltAccessorImpl.Disconnect M M.store s ≠ [] ∧
      FireboltAccessorImpl.Disconnect M (fun s => (M.onEvent "Device.onHdrChanged"
        (.object [("dolbyVision", .boolean true), ("hdr10", .boolean true),
          ("hdr10Plus", .boolean false), ("hlg", .boolean false)]) s).1) s = [()] :=
  ⟨List.cons_ne_nil _ _, by decide +kernel⟩

end Firebolt
