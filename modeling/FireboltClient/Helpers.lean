import FireboltClient.Decoder
import FireboltClient.Types

/-!
# The transport's helper

`<firebolt/helpers.h>` belongs to the transport library, too: `IHelper` asks the platform, and a
`SubscriptionManager` keeps the callbacks of one interface in a store that all interfaces share.
-/

namespace Firebolt

/-! ## Calling the platform -/

/-- What the client hands to the helper. -/
structure Request where
  methodName : String
  parameters : Json

/-- The part of `IHelper` that asks the platform: its reply to a request, `get`, which decodes the
reply with a new decoder, and `invoke`, whose reply carries no value. `parameters` is the default
argument of `get`. -/
structure IHelper where
  parameters : Json
  reply : Request → Except Error Json
  get {σ τ : Type} [Inhabited σ] : JsonClass σ τ → Request → Except Error τ
  invoke : Request → Except Error Unit

/-- `get` passes an error on, gives what the decoder makes of the reply, and turns an exception
into `InvalidParams`. -/
structure IHelper.Gets (H : IHelper) : Prop where
  get_error : ∀ {σ τ : Type} [Inhabited σ] {c : JsonClass σ τ} {r : Request} {e : Error},
    H.reply r = .error e → H.get c r = .error e
  get_decodes : ∀ {σ τ : Type} [Inhabited σ] {c : JsonClass σ τ} {r : Request} {json : Json}
    {v : τ}, H.reply r = .ok json → c.Decodes json v → H.get c r = .ok v
  get_throws : ∀ {σ τ : Type} [Inhabited σ] {c : JsonClass σ τ} {r : Request} {json : Json},
    H.reply r = .ok json → c.Throws json → H.get c r = .error .InvalidParams

/-- `invoke` passes an error on and drops what the platform replies. -/
structure IHelper.Invokes (H : IHelper) : Prop where
  invoke_error : ∀ {r : Request} {e : Error}, H.reply r = .error e → H.invoke r = .error e
  invoke_ok : ∀ {r : Request} {json : Json}, H.reply r = .ok json → H.invoke r = .ok ()

namespace IHelper

/-- A helper that gets these replies. -/
def documented (reply : Request → Except Error Json) : IHelper where
  parameters := .object []
  reply := reply
  get c r :=
    match reply r with
    | .error e => .error e
    | .ok json =>
      match c.decode default json with
      | .ok v => .ok v
      | .error _ => .error .InvalidParams
  invoke r := (reply r).map fun _ => ()

theorem documented_gets (reply : Request → Except Error Json) : (documented reply).Gets where
  get_error h := by
    simp only [documented] at h ⊢
    rw [h]
  get_decodes h hv := by
    simp only [documented] at h ⊢
    rw [h]
    simp only [hv default]
  get_throws h ht := by
    obtain ⟨e, he⟩ := ht default
    simp only [documented] at h ⊢
    rw [h]
    simp only [he]

theorem documented_invokes (reply : Request → Except Error Json) : (documented reply).Invokes where
  invoke_error h := by
    simp only [documented] at h ⊢
    rw [h]
    rfl
  invoke_ok h := by
    simp only [documented] at h ⊢
    rw [h]
    rfl

end IHelper

/-! ## Subscriptions -/

abbrev SubscriptionId : Type := ℕ

/-- The interfaces that own a `SubscriptionManager`. Each passes its own address as the owner. -/
inductive Interface
  | Accessibility
  | Actions
  | Device
  | Lifecycle
  | Localization
  | Network
  | Presentation
  | TextToSpeech
  deriving DecidableEq, Repr

/-- An entry of the helper's store. `handle` is what the callback does with a payload: nothing, or
something that can be observed. -/
structure Subscription (ω : Type) where
  id : SubscriptionId
  owner : Interface
  eventName : String
  handle : Json → Option ω

/-- `handle` runs `notification` on what the decoder makes of a payload, and does nothing when the
decoder throws. -/
structure Handles {σ τ ω : Type} (c : JsonClass σ τ) (notification : τ → ω)
    (handle : Json → Option ω) : Prop where
  decodes : ∀ {json : Json} {v : τ}, c.Decodes json v → handle json = some (notification v)
  throws : ∀ {json : Json}, c.Throws json → handle json = none

/-- A callback does to a payload what its notification does to the decoded value. -/
theorem Handles.handle_eq {σ τ ω : Type} [Inhabited σ] {c : JsonClass σ τ} {n : τ → ω}
    {handle : Json → Option ω} (h : Handles c n handle) (hc : c.Definite) (json : Json) :
    handle json = (c.value? json).map n := by
  rcases hc json with ⟨v, hv⟩ | ht
  · rw [h.decodes hv, hv.value?_eq]
    rfl
  · rw [h.throws ht, ht.value?_eq]
    rfl

/-- The managers of all interfaces, each with the owner it was built with, over one helper. `store`
and `issued` observe the helper's entries and the ids it has given out. -/
structure SubscriptionManager (ω : Type) where
  State : Type
  init : State
  store : State → List (Subscription ω)
  issued : State → List SubscriptionId
  subscribe {σ τ : Type} [Inhabited σ] : Interface → JsonClass σ τ → String → (τ → ω) → State →
    Except Error SubscriptionId × State
  unsubscribe : Interface → SubscriptionId → State → Except Error Unit × State
  unsubscribeAll : Interface → State → State
  onEvent : String → Json → State → List ω × State

namespace SubscriptionManager

variable {ω : Type}

/-- A call leaves the store and the ids as they are. -/
def Keeps (M : SubscriptionManager ω) (s s' : M.State) : Prop :=
  M.store s' = M.store s ∧ M.issued s' = M.issued s

/-- What the client relies on: a successful `subscribe` stores one entry under an id that was never
given out before; `unsubscribe` removes the entry with that id, `unsubscribeAll` the entries of
that owner; an event runs the entries stored under its name, once each. -/
structure Lawful (M : SubscriptionManager ω) : Prop where
  store_init : M.store M.init = []
  subscribe_ok : ∀ {σ τ : Type} [Inhabited σ] {owner : Interface} {c : JsonClass σ τ}
    {name : String} {n : τ → ω} {s s' : M.State} {id : SubscriptionId},
    M.subscribe owner c name n s = (.ok id, s') →
      id ∉ M.issued s ∧ M.issued s' = id :: M.issued s ∧
        ∃ h, Handles c n h ∧ M.store s' = M.store s ++ [⟨id, owner, name, h⟩]
  subscribe_error : ∀ {σ τ : Type} [Inhabited σ] {owner : Interface} {c : JsonClass σ τ}
    {name : String} {n : τ → ω} {s s' : M.State} {e : Error},
    M.subscribe owner c name n s = (.error e, s') → M.Keeps s s'
  unsubscribe : ∀ (owner : Interface) (id : SubscriptionId) (s : M.State),
    M.store (M.unsubscribe owner id s).2 = (M.store s).filter (fun x => x.id ≠ id) ∧
      M.issued (M.unsubscribe owner id s).2 = M.issued s
  unsubscribeAll : ∀ (owner : Interface) (s : M.State),
    M.store (M.unsubscribeAll owner s) = (M.store s).filter (fun x => x.owner ≠ owner) ∧
      M.issued (M.unsubscribeAll owner s) = M.issued s
  onEvent : ∀ (name : String) (json : Json) (s : M.State),
    (M.onEvent name json s).1 =
        ((M.store s).filter fun x => x.eventName = name).filterMap (fun x => x.handle json) ∧
      M.Keeps s (M.onEvent name json s).2

/-! ### The documented behaviour -/

/-- The store and the next id to give out. -/
structure Store (ω : Type) where
  entries : List (Subscription ω)
  next : SubscriptionId

/-- What a callback does: decode the payload with a new decoder, and run the notification. -/
def onPayload {σ τ : Type} [Inhabited σ] (c : JsonClass σ τ) (notification : τ → ω) (json : Json) :
    Option ω :=
  (c.value? json).map notification

/-- A helper that counts its ids, and refuses a subscription once `capacity` ids are given out. -/
def documented (ω : Type) (capacity : ℕ) : SubscriptionManager ω where
  State := Store ω
  init := ⟨[], 0⟩
  store s := s.entries
  issued s := (List.range s.next).reverse
  subscribe owner c name n s :=
    if s.next < capacity then
      (.ok s.next, ⟨s.entries ++ [⟨s.next, owner, name, onPayload c n⟩], s.next + 1⟩)
    else (.error (.other 1), s)
  unsubscribe _ id s := (.ok (), { s with entries := s.entries.filter fun x => x.id ≠ id })
  unsubscribeAll owner s := { s with entries := s.entries.filter fun x => x.owner ≠ owner }
  onEvent name json s :=
    ((s.entries.filter fun x => x.eventName = name).filterMap fun x => x.handle json, s)

theorem handles_onPayload {σ τ : Type} [Inhabited σ] (c : JsonClass σ τ) (n : τ → ω) :
    Handles c n (onPayload c n) where
  decodes hv := congrArg (Option.map n) hv.value?_eq
  throws ht := congrArg (Option.map n) ht.value?_eq

theorem documented_lawful (ω : Type) (capacity : ℕ) : (documented ω capacity).Lawful where
  store_init := rfl
  subscribe_ok {σ τ _ owner c name n s s' id} h := by
    simp only [documented] at h ⊢
    by_cases hcap : s.next < capacity
    · rw [if_pos hcap] at h
      obtain ⟨hid, rfl⟩ := Prod.mk.inj h
      obtain rfl : s.next = id := Except.ok.inj hid
      exact ⟨by simp, by simp [List.range_succ], _, handles_onPayload c n, rfl⟩
    · rw [if_neg hcap] at h
      exact absurd (Prod.mk.inj h).1 (by simp)
  subscribe_error {σ τ _ owner c name n s s' e} h := by
    simp only [documented, Keeps] at h ⊢
    by_cases hcap : s.next < capacity
    · rw [if_pos hcap] at h
      exact absurd (Prod.mk.inj h).1 (by simp)
    · rw [if_neg hcap] at h
      obtain ⟨-, rfl⟩ := Prod.mk.inj h
      exact ⟨rfl, rfl⟩
  unsubscribe _ _ _ := ⟨rfl, rfl⟩
  unsubscribeAll _ _ := ⟨rfl, rfl⟩
  onEvent _ _ _ := ⟨rfl, rfl, rfl⟩

end SubscriptionManager

end Firebolt
