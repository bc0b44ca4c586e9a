import Mathlib.Data.List.Nodup

/-!
# A list shared by owners

Entries of several owners stand in one list. `ownedBy i` is the part of owner `i`; these lemmas
say what an operation on the whole list is on each part.
-/

namespace OwnedStore

variable {ε ι : Type} [DecidableEq ι] (owner : ε → ι)

/-- The entries of owner `i`, in order. -/
def ownedBy (i : ι) (s : List ε) : List ε := s.filter fun x => owner x = i

variable {owner} {i j : ι} {s : List ε} {x : ε} {p : ε → Bool}

theorem mem_ownedBy : x ∈ ownedBy owner i s ↔ x ∈ s ∧ owner x = i := by
  simp [ownedBy]

theorem ownedBy_append_self (s : List ε) (h : owner x = i) :
    ownedBy owner i (s ++ [x]) = ownedBy owner i s ++ [x] := by
  simp [ownedBy, h]

theorem ownedBy_append_of_ne (s : List ε) (h : owner x ≠ i) :
    ownedBy owner i (s ++ [x]) = ownedBy owner i s := by
  simp [ownedBy, h]

/-- Removing an owner leaves that owner nothing. -/
theorem ownedBy_remove_self (i : ι) (s : List ε) :
    ownedBy owner i (s.filter fun x => owner x ≠ i) = [] := by
  unfold ownedBy
  rw [List.filter_filter, List.filter_eq_nil_iff]
  intro x _
  simp

/-- Removing an owner leaves the others everything. -/
theorem ownedBy_remove_of_ne (h : i ≠ j) (s : List ε) :
    ownedBy owner i (s.filter fun x => owner x ≠ j) = ownedBy owner i s := by
  unfold ownedBy
  rw [List.filter_filter]
  refine List.filter_congr fun x _ => ?_
  by_cases hx : owner x = i
  · simp [hx, h]
  · simp [hx]

theorem ownedBy_filter : ownedBy owner i (s.filter p) = (ownedBy owner i s).filter p := by
  unfold ownedBy
  rw [List.filter_filter, List.filter_filter]
  exact List.filter_congr fun x _ => Bool.and_comm _ _

/-- After one entry is added, it and the old ones are all that an owner can have. -/
theorem forall_ownedBy_append {P : ε → Prop} :
    (∀ y ∈ ownedBy owner i (s ++ [x]), P y) ↔
      (∀ y ∈ ownedBy owner i s, P y) ∧ (owner x = i → P x) := by
  by_cases h : owner x = i
  · rw [ownedBy_append_self s h, List.forall_mem_append, List.forall_mem_singleton]
    simp only [h, forall_const]
  · rw [ownedBy_append_of_ne s h]
    simp only [h, false_implies, and_true]

/-- After some are removed, an owner has those of its entries that stay. -/
theorem forall_ownedBy_filter {P : ε → Prop} :
    (∀ y ∈ ownedBy owner i (s.filter p), P y) ↔ ∀ y ∈ ownedBy owner i s, p y = true → P y := by
  rw [ownedBy_filter]
  simp only [List.mem_filter, and_imp]

/-- A removal that only hits owner `j` leaves the others everything. -/
theorem ownedBy_filter_of_ne (hp : ∀ x ∈ s, p x = false → owner x = j) (h : i ≠ j) :
    ownedBy owner i (s.filter p) = ownedBy owner i s := by
  rw [ownedBy_filter, List.filter_eq_self]
  intro x hx
  obtain ⟨hmem, howner⟩ := mem_ownedBy.mp hx
  by_contra hpx
  exact h (howner.symm.trans (hp x hmem (Bool.not_eq_true _ ▸ hpx)))

/-- Where all but one of the parts are empty, the parts together are that one. -/
theorem flatMap_eq_of_forall_ne {owners : List ι} {f : ι → List ε} (hnodup : owners.Nodup)
    (hi : i ∈ owners) (hne : ∀ j, j ≠ i → f j = []) : owners.flatMap f = f i := by
  induction owners with
  | nil => exact absurd hi List.not_mem_nil
  | cons k owners ih =>
    obtain ⟨hk, hrest⟩ := List.nodup_cons.mp hnodup
    rw [List.flatMap_cons]
    by_cases hki : k = i
    · subst hki
      have hnil : owners.flatMap f = [] := by
        rw [List.flatMap_eq_nil_iff]
        intro j hj
        exact hne j fun hjk => hk (hjk ▸ hj)
      rw [hnil, List.append_nil]
    · have hi' : i ∈ owners := (List.mem_cons.mp hi).resolve_left (Ne.symm hki)
      rw [hne k hki, List.nil_append, ih hrest hi']

/-- Entries that all have one owner are found by looking through the owners in any order. -/
theorem filter_eq_flatMap_ownedBy {owners : List ι} (hnodup : owners.Nodup)
    (hall : ∀ i, i ∈ owners) (hone : ∀ x ∈ s, ∀ y ∈ s, p x → p y → owner x = owner y) :
    s.filter p = owners.flatMap fun i => (ownedBy owner i s).filter p := by
  by_cases hex : ∃ x ∈ s, p x
  · obtain ⟨x, hx, hpx⟩ := hex
    have hself : (ownedBy owner (owner x) s).filter p = s.filter p := by
      unfold ownedBy
      rw [List.filter_filter]
      refine List.filter_congr fun y hy => ?_
      by_cases hpy : p y
      · simp [hpy, hone y hy x hx hpy hpx]
      · simp [hpy]
    have hother : ∀ i, i ≠ owner x → (ownedBy owner i s).filter p = [] := by
      intro i hi
      rw [List.filter_eq_nil_iff]
      intro y hy hpy
      obtain ⟨hmem, howner⟩ := mem_ownedBy.mp hy
      exact hi (howner.symm.trans (hone y hmem x hx hpy hpx))
    rw [flatMap_eq_of_forall_ne hnodup (hall (owner x)) hother, hself]
  · have hnone : ∀ x ∈ s, ¬ p x := fun x hx hpx => hex ⟨x, hx, hpx⟩
    rw [List.filter_eq_nil_iff.mpr hnone, eq_comm, List.flatMap_eq_nil_iff]
    intro i _
    rw [List.filter_eq_nil_iff]
    exact fun y hy => hnone y (mem_ownedBy.mp hy).1

end OwnedStore
