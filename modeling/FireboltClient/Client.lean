import FireboltClient.Remote
import FireboltClient.Topics

/-!
# The whole client

Calls of methods, subscriptions, removals and announced values, in any order, over one helper
whose one state serves them all. What an application sees of the client is what it would see of
the platform itself: an object with methods, and a list of callbacks for each event.
-/

namespace Firebolt

open Session

variable {ω σ τ : Type}

/-- What is done with the client, by the application or by the platform. -/
inductive Use (ω : Type)
  | call (a : ApiCall)
  | act (a : Act ω)

/-! ## The client and the platform -/

section

variable {M : SubscriptionManager ω}

/-- The client sends the request of a call, and keeps the subscriptions. -/
def Client.step (T : JsonTypes) (L : Link M.State) (s : Session M) :
    Use ω → Session M × (Answered ⊕ Answer ω)
  | .call a => ({ s with state := (L.step T s.state a).1 }, .inl (L.step T s.state a).2)
  | .act a => ((Act.step T s a).1, .inr (Act.step T s a).2)

/-- The platform is called itself, and runs the callbacks itself. Of the client it is told the ids
of the subscriptions. -/
def Platform.step (A : Api τ) (p : τ × Topics ω) :
    Use ω × (Answered ⊕ Answer ω) → (τ × Topics ω) × (Answered ⊕ List ω)
  | (.call a, _) => (((A.step p.1 a).1, p.2), .inl (A.step p.1 a).2)
  | (.act a, .inr answer) =>
    ((p.1, (p.2.step (a, answer)).1), .inr (p.2.step (a, answer)).2)
  | (.act _, .inl _) => (p, .inr [])

/-- The ids that are handed back are ones that the same interface returned. -/
def PermittedUse (s : Session M) : Use ω → Prop
  | .call _ => True
  | .act a => Permitted s a.op

/-- Requests for methods leave the callbacks as they are, and what is done about callbacks leaves
the object of the platform as it is. -/
structure Link.Apart (L : Link M.State) (R : M.State → τ → Prop) : Prop where
  send : ∀ (r : Request) (s : M.State), M.Keeps s (L.send r s)
  subscribe : ∀ {α β : Type} [Inhabited α] (owner : Interface) (c : JsonClass α β) (name : String)
    (n : β → ω) {s : M.State} {t : τ}, R s t → R (M.subscribe owner c name n s).2 t
  unsubscribe : ∀ (owner : Interface) (id : SubscriptionId) {s : M.State} {t : τ}, R s t →
    R (M.unsubscribe owner id s).2 t
  unsubscribeAll : ∀ (owner : Interface) {s : M.State} {t : τ}, R s t →
    R (M.unsubscribeAll owner s) t
  onEvent : ∀ (name : String) (json : Json) {s : M.State} {t : τ}, R s t →
    R (M.onEvent name json s).2 t

/-! ## Every use -/

variable {T : JsonTypes} {L : Link M.State} {A : Api τ} {R : M.State → τ → Prop}

/-- An action of a session leaves the object of the platform as it is. -/
theorem Link.Apart.step (h : L.Apart R) {s : Session M} {t : τ} (hst : R s.state t) (op : Op ω) :
    R (Session.step T s op).1.state t := by
  cases op with
  | subscribe e notification =>
    have hsub : R (e.subscribe T M notification s.state).2 t := by
      rw [Event.subscribe_eq]
      exact h.subscribe _ _ _ _ hst
    rcases hstep : e.subscribe T M notification s.state with ⟨_ | id, state⟩ <;>
      rw [hstep] at hsub <;> simp only [Session.step, hstep] <;> exact hsub
  | unsubscribe i id =>
    show R (i.unsubscribe M id s.state).2 t
    rw [Interface.unsubscribe_eq]
    exact h.unsubscribe i id hst
  | unsubscribeAll i =>
    show R (i.unsubscribeAll M s.state) t
    rw [Interface.unsubscribeAll_eq]
    exact h.unsubscribeAll i hst
  | event eventName json => exact h.onEvent eventName json hst

/-- The client and the platform agree on the object and on the topics. -/
def Agree (T : JsonTypes) (R : M.State → τ → Prop) (s : Session M) (p : τ × Topics ω) : Prop :=
  R s.state p.1 ∧ Tracks T s p.2

theorem Tracks.keeps {T : JsonTypes} {s : Session M} {t : Topics ω} (h : Tracks T s t)
    {state : M.State} (hkeeps : M.Keeps s.state state) : Tracks T { s with state } t := by
  obtain ⟨r, hsim, hview⟩ := h
  exact ⟨r, hsim.keeps hkeeps, hview⟩

/-- Every use keeps them agreed, and shows the application the same. -/
theorem agree_step (hM : M.Lawful) (hT : T.ChecksExactly) (hL : T.LooksUp) (hN : T.NamesValues)
    (hA : T.DecodesArrays) (hS : T.DecodesScalars) (hR : T.ReadsScalars) (hU : T.ReadsUnsigned)
    (hserves : L.Serves A R) (hapart : L.Apart R) (s : Session M) (p : τ × Topics ω) (u : Use ω)
    (h : Agree T R s p) (hu : PermittedUse s u) :
    Agree T R (Client.step T L s u).1
        (Platform.step A p (u, (Client.step T L s u).2)).1 ∧
      (Platform.step A p (u, (Client.step T L s u).2)).2 =
        Sum.map id Answer.invoked (Client.step T L s u).2 := by
  obtain ⟨hobject, htopics⟩ := h
  cases u with
  | call a =>
    obtain ⟨hobject', hreturned⟩ :=
      Link.step_agrees hT hL hN hA hR hU hserves s.state p.1 a hobject
    refine ⟨⟨hobject', htopics.keeps (hapart.send _ _)⟩, ?_⟩
    exact congrArg Sum.inl hreturned.symm
  | act a =>
    obtain ⟨htopics', hinvoked⟩ := tracks_step hM hT hL hA hS hR a htopics hu
    exact ⟨⟨hapart.step hobject a.op, htopics'⟩, congrArg Sum.inr hinvoked⟩

/-- In every run in which an interface is handed back only ids that it returned, the calls return
what the platform's object returns, and the announced values run the callbacks that are
subscribed to their events, use by use and whatever the order. -/
theorem client_refines_platform (hM : M.Lawful) (hT : T.ChecksExactly) (hL : T.LooksUp)
    (hN : T.NamesValues) (hA : T.DecodesArrays) (hS : T.DecodesScalars) (hR : T.ReadsScalars)
    (hU : T.ReadsUnsigned) (hserves : L.Serves A R) (hapart : L.Apart R) {t : τ}
    (ht : R M.init t) (uses : List (Use ω))
    (huses : Transducer.Along (Client.step T L) PermittedUse (.init M) uses) :
    (Transducer.run (Platform.step A) (t, fun _ => [])
        (Transducer.log (Client.step T L) (.init M) uses)).2 =
      (Transducer.log (Client.step T L) (.init M) uses).map fun x =>
        Sum.map id Answer.invoked x.2 :=
  (Transducer.run_simulates (Sum.map id Answer.invoked)
    (agree_step hM hT hL hN hA hS hR hU hserves hapart) ⟨ht, tracks_init hM⟩ huses).2

end

/-! ### The documented behaviour -/

/-- A helper that keeps something else besides the subscriptions. -/
def SubscriptionManager.beside (M : SubscriptionManager ω) (t : τ) : SubscriptionManager ω where
  State := M.State × τ
  init := (M.init, t)
  store s := M.store s.1
  issued s := M.issued s.1
  subscribe owner c name n s :=
    ((M.subscribe owner c name n s.1).1, (M.subscribe owner c name n s.1).2, s.2)
  unsubscribe owner id s := ((M.unsubscribe owner id s.1).1, (M.unsubscribe owner id s.1).2, s.2)
  unsubscribeAll owner s := (M.unsubscribeAll owner s.1, s.2)
  onEvent name json s := ((M.onEvent name json s.1).1, (M.onEvent name json s.1).2, s.2)

theorem SubscriptionManager.beside_lawful {M : SubscriptionManager ω} (hM : M.Lawful) (t : τ) :
    (M.beside t).Lawful where
  store_init := hM.store_init
  subscribe_ok {α β _ owner c name n s s' id} h := by
    obtain ⟨hid, hs'⟩ := Prod.mk.inj h
    have hsub : M.subscribe owner c name n s.1 = (.ok id, s'.1) := by
      rw [← hs', ← hid]
    exact hM.subscribe_ok hsub
  subscribe_error {α β _ owner c name n s s' e} h := by
    obtain ⟨he, hs'⟩ := Prod.mk.inj h
    have hsub : M.subscribe owner c name n s.1 = (.error e, s'.1) := by
      rw [← hs', ← he]
    exact hM.subscribe_error hsub
  unsubscribe owner id s := hM.unsubscribe owner id s.1
  unsubscribeAll owner s := hM.unsubscribeAll owner s.1
  onEvent name json s := hM.onEvent name json s.1

/-- A link that keeps something else besides the connection. -/
def Link.beside (σ : Type) (L : Link τ) : Link (σ × τ) where
  helper s := L.helper s.2
  send r s := (s.1, L.send r s.2)

theorem Link.beside_serves {L : Link τ} {A : Api τ} (hL : L.Serves A Eq) :
    (L.beside σ).Serves A fun s t => s.2 = t where
  gets s := hL.gets s.2
  invokes s := hL.invokes s.2
  error h hread hserved := hL.error h hread hserved
  value h hread hserved := hL.value h hread hserved
  send h hread := hL.send h hread

theorem Link.beside_apart (M : SubscriptionManager ω) (t : τ) (L : Link τ) :
    Link.Apart (M := M.beside t) (L.beside M.State) fun s t => s.2 = t where
  send _ _ := ⟨rfl, rfl⟩
  subscribe _ _ _ _ _ _ h := h
  unsubscribe _ _ _ _ h := h
  unsubscribeAll _ _ _ h := h
  onEvent _ _ _ _ h := h

/-- A text is spoken under an id; the announcement that it starts carries the same id. -/
theorem client_refines_platform_speaker :
    let M := (SubscriptionManager.documented ℕ 2).beside (7 : UInt32)
    let L : Link M.State := (Link.documented Link.speaker).beside _
    let payload (n : UInt32) : Json := ObjectDecoder.SpeechIdEvent.write ⟨n⟩
    let uses : List (Use ℕ) :=
      [.act (.subscribe .SpeechStart fun v => v.speechId.toNat), .call (.call (.speak "one")),
        .act (.announce .SpeechStart ⟨7⟩ (payload 7) (number?_ofUInt32 _)),
        .act (.unsubscribe .TextToSpeech 0), .call (.call (.pause 7)),
        .act (.announce .SpeechStart ⟨8⟩ (payload 8) (number?_ofUInt32 _))]
    (Transducer.log (Client.step .documented L) (.init M) uses).map
        (fun x => Sum.map id Answer.invoked x.2) =
      [.inr [], .inl ⟨.call (.speak "one"), .ok ⟨7, 0, true⟩⟩, .inr [7], .inr [],
        .inl ⟨.call (.pause 7), .ok ⟨0, true⟩⟩, .inr []] := by
  intro M L payload uses
  have huses : Transducer.Along (Client.step .documented L) PermittedUse (.init M) uses := by
    refine ⟨trivial, trivial, trivial, ?_, trivial, trivial, trivial⟩
    show (Interface.TextToSpeech, 0) ∈ [(Interface.TextToSpeech, 0)]
    decide
  exact (client_refines_platform
    (SubscriptionManager.beside_lawful (SubscriptionManager.documented_lawful ℕ 2) 7)
    JsonTypes.documented_checksExactly JsonTypes.documented_looksUp
    JsonTypes.documented_namesValues JsonTypes.documented_decodesArrays
    JsonTypes.documented_decodesScalars JsonTypes.documented_readsScalars
    JsonTypes.documented_readsUnsigned
    (Link.beside_serves (Link.documented_serves fun _ _ _ => Link.speaker_writable))
    (Link.beside_apart (SubscriptionManager.documented ℕ 2) 7 (Link.documented Link.speaker)) rfl
    uses huses).symm.trans rfl

end Firebolt
