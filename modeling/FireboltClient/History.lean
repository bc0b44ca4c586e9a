import FireboltClient.Events
import Mathlib.Data.List.Chain

/-!
# The lifecycle history

A history arrives as an array of state changes. The callback gets all of them, in order, or it is
not run at all.
-/

open Json

namespace Firebolt.Lifecycle

variable {ω : Type} {T : JsonTypes} {M : SubscriptionManager ω}

/-- An object names the states of a change, each under its own key. -/
def Names (x : Json) (c : StateChange) : Prop :=
  (∃ s, x.find? "oldState" = some (.string s) ∧
      List.lookup s JsonData.LifecycleStateEnum = some c.oldState) ∧
    ∃ s, x.find? "newState" = some (.string s) ∧
      List.lookup s JsonData.LifecycleStateEnum = some c.newState

/-- A name is decoded to the state it stands for. -/
theorem reads_state_iff (hL : T.LooksUp) {x : Json} {key : String} {a : LifecycleState} :
    x.Reads key (T.enumAtJson JsonData.LifecycleStateEnum) a ↔
      ∃ s, x.find? key = some (.string s) ∧
        List.lookup s JsonData.LifecycleStateEnum = some a := by
  unfold Json.Reads
  simp only [enumAtJson_eq_ok hL]
  constructor
  · rintro ⟨v, hv, s, rfl, hs⟩
    exact ⟨s, hv, hs⟩
  · rintro ⟨s, hv, hs⟩
    exact ⟨_, hv, s, rfl, hs⟩

theorem decodes_iff_names (hT : T.ChecksExactly) (hL : T.LooksUp) {x : Json} {c : StateChange} :
    (T.object (JsonData.StateChange T)).Decodes x c ↔ Names x c := by
  unfold Names
  rw [← reads_state_iff hL, ← reads_state_iff hL]
  exact JsonClass.decodes_of_spec fun m json r => JsonData.decode_stateChange hT

/-- What is the same name on the wire is the same state in the callback. -/
theorem state_eq_of_names {x y : Json} {c c' : StateChange} (hx : Names x c) (hy : Names y c')
    (h : y.find? "oldState" = x.find? "newState") : c'.oldState = c.newState := by
  obtain ⟨-, s, hs, hnew⟩ := hx
  obtain ⟨⟨s', hs', hold⟩, -⟩ := hy
  have hss' : some (Json.string s') = some (.string s) := by rw [← hs', ← hs, h]
  obtain rfl : s' = s := by simpa using hss'
  exact Option.some.inj (hold.symm.trans hnew)

/-- A chain on the wire is a chain in the callback. -/
theorem isChain_of_names {xs : List Json} {cs : List StateChange} (h : List.Forall₂ Names xs cs)
    (hchain : xs.IsChain fun x y => y.find? "oldState" = x.find? "newState") :
    cs.IsChain fun c c' => c'.oldState = c.newState := by
  induction h with
  | nil => exact .nil
  | @cons x c xs cs hxc hrest ih =>
    cases hrest with
    | nil => exact .singleton _
    | @cons y c' ys cs' hyc' hrest' =>
      obtain ⟨hlink, htail⟩ := List.isChain_cons_cons.mp hchain
      exact List.isChain_cons_cons.mpr ⟨state_eq_of_names hxc hyc' hlink, ih htail⟩

section

variable {notification : List StateChange → ω} {s s' : M.State} {id : SubscriptionId}

/-- After a subscription, a history in which every element names a change runs the callback on
the changes. -/
theorem history_delivered (hT : T.ChecksExactly) (hL : T.LooksUp) (hA : T.DecodesArrays)
    (hM : M.Lawful)
    (hsub : LifecycleImpl.subscribeOnStateChanged T M notification s = (.ok id, s'))
    {xs : List Json} {cs : List StateChange} (h : List.Forall₂ Names xs cs) :
    (M.onEvent "Lifecycle2.onStateChanged" (.array xs) s').1 =
      (M.onEvent "Lifecycle2.onStateChanged" (.array xs) s).1 ++ [notification cs] := by
  have hdef : (Event.StateChanged.cls T).Definite :=
    hA.definite (ObjectDecoder.definite hT .StateChange)
  have hdecodes : (Event.StateChanged.cls T).Decodes (.array xs) cs :=
    hA.decodes (h.imp fun x c => (decodes_iff_names hT hL).mpr)
  have hrun := Event.onEvent_of_subscribe hM hdef hsub (.array xs)
  rwa [hdecodes.value?_eq] at hrun

/-- After a subscription, a history with a single element that names no change runs nothing new. -/
theorem history_dropped (hT : T.ChecksExactly) (hL : T.LooksUp) (hA : T.DecodesArrays)
    (hM : M.Lawful)
    (hsub : LifecycleImpl.subscribeOnStateChanged T M notification s = (.ok id, s'))
    {xs : List Json} (h : ∃ x ∈ xs, ∀ c, ¬ Names x c) :
    (M.onEvent "Lifecycle2.onStateChanged" (.array xs) s').1 =
      (M.onEvent "Lifecycle2.onStateChanged" (.array xs) s).1 := by
  obtain ⟨x, hx, hnone⟩ := h
  have hdef : (T.object (JsonData.StateChange T)).Definite :=
    ObjectDecoder.definite hT .StateChange
  have hrefused : (T.object (JsonData.StateChange T)).Throws x := by
    rw [hdef.throws_iff]
    intro c hc
    exact hnone c ((decodes_iff_names hT hL).mp hc)
  have hthrows : (Event.StateChanged.cls T).Throws (.array xs) := hA.throws hdef ⟨x, hx, hrefused⟩
  have hdefs : (Event.StateChanged.cls T).Definite := hA.definite hdef
  have hrun := Event.onEvent_of_subscribe hM hdefs hsub (.array xs)
  rw [hthrows.value?_eq] at hrun
  exact hrun.trans (List.append_nil _)

/-- After a subscription to the state changes, a history runs the callback just when every element
names the states of a change. The callback then runs once, on the list of these changes: as many
as elements, in their order, and a chain if the history is one. Else it does not run at all. -/
theorem history_all_or_nothing (hT : T.ChecksExactly) (hL : T.LooksUp) (hA : T.DecodesArrays)
    (hM : M.Lawful)
    (hsub : LifecycleImpl.subscribeOnStateChanged T M notification s = (.ok id, s'))
    (xs : List Json) :
    let before := (M.onEvent "Lifecycle2.onStateChanged" (.array xs) s).1
    let after := (M.onEvent "Lifecycle2.onStateChanged" (.array xs) s').1
    ((∃ v, after = before ++ [v]) ↔ ∀ x ∈ xs, ∃ c, Names x c) ∧
    ((∀ x ∈ xs, ∃ c, Names x c) → ∃ cs, after = before ++ [notification cs] ∧
      cs.length = xs.length ∧
      (∀ (i : ℕ) (x : Json) (c : StateChange), xs[i]? = some x → cs[i]? = some c → Names x c) ∧
      ((xs.IsChain fun x y => y.find? "oldState" = x.find? "newState") →
        cs.IsChain fun c c' => c'.oldState = c.newState)) ∧
    ((∃ x ∈ xs, ∀ c, ¬ Names x c) → after = before) := by
  intro before after
  have hdropped : (∃ x ∈ xs, ∀ c, ¬ Names x c) → after = before :=
    history_dropped hT hL hA hM hsub
  refine ⟨⟨fun ⟨v, hv⟩ => ?_, fun hall => ?_⟩, fun hall => ?_, hdropped⟩
  · by_contra hnot
    push Not at hnot
    rw [hdropped hnot] at hv
    exact absurd (congrArg List.length hv) (by simp)
  · obtain ⟨cs, hcs⟩ := exists_forall₂_iff.mpr hall
    exact ⟨_, history_delivered hT hL hA hM hsub hcs⟩
  · obtain ⟨cs, hcs⟩ := exists_forall₂_iff.mpr hall
    refine ⟨cs, history_delivered hT hL hA hM hsub hcs, hcs.length_eq.symm, ?_,
      isChain_of_names hcs⟩
    intro i x c hx hc
    obtain ⟨hi, rfl⟩ := List.getElem?_eq_some_iff.mp hx
    obtain ⟨hi', rfl⟩ := List.getElem?_eq_some_iff.mp hc
    exact hcs.get hi hi'

end

/-- Two changes, the second from the state that the first led to. -/
theorem history_all_or_nothing_twoChanges :
    let M := SubscriptionManager.documented (List StateChange) 1
    let s' := (LifecycleImpl.subscribeOnStateChanged .documented M (fun cs => cs) M.init).2
    let change (old new : String) : Json :=
      .object [("newState", .string new), ("oldState", .string old)]
    let xs := [change "initializing" "active", change "active" "paused"]
    ∃ cs, (M.onEvent "Lifecycle2.onStateChanged" (.array xs) s').1 = [cs] ∧
      cs.length = 2 ∧ cs.IsChain fun c c' => c'.oldState = c.newState := by
  intro M s' change xs
  have hnames : ∀ x ∈ xs, ∃ c, Names x c := by
    simp only [xs, List.forall_mem_cons]
    exact ⟨⟨⟨.INITIALIZING, .ACTIVE⟩, ⟨_, rfl, rfl⟩, _, rfl, rfl⟩,
      ⟨⟨.ACTIVE, .PAUSED⟩, ⟨_, rfl, rfl⟩, _, rfl, rfl⟩, fun x hx => absurd hx List.not_mem_nil⟩
  have hsub : LifecycleImpl.subscribeOnStateChanged .documented M (fun cs => cs) M.init =
      (.ok 0, s') := rfl
  obtain ⟨cs, hrun, hlength, -, hchain⟩ := (history_all_or_nothing
    JsonTypes.documented_checksExactly JsonTypes.documented_looksUp
    JsonTypes.documented_decodesArrays (SubscriptionManager.documented_lawful _ 1) hsub xs).2.1
      hnames
  exact ⟨cs, hrun, hlength, hchain (.cons_cons rfl (.singleton _))⟩

end Firebolt.Lifecycle
