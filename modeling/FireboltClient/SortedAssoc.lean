import Mathlib.Order.Lattice
import Mathlib.Tactic.SplitIfs

/-!
# Maps as lists sorted by key

`StdMap κ α` is `std::map`: a list of pairs whose keys increase, with the increase carried as a
field. `insert` is `m[k] = v`, so it replaces the value of a key that is already there.
-/

namespace SortedAssoc

variable {κ α β : Type}

/-- Where no key occurs twice, every pair is found by its key. -/
theorem lookup_of_mem [BEq κ] [LawfulBEq κ] {m : List (κ × α)}
    (hnodup : (m.map Prod.fst).Nodup) {k : κ} {v : α} (h : (k, v) ∈ m) :
    List.lookup k m = some v := by
  obtain ⟨m₁, m₂, rfl⟩ := List.append_of_mem h
  refine List.lookup_eq_some_iff.mpr ⟨m₁, m₂, rfl, fun e he => ?_⟩
  rw [List.map_append, List.map_cons] at hnodup
  have hne : e.1 ≠ k :=
    (List.nodup_append.mp hnodup).2.2 _ (List.mem_map_of_mem he) _ List.mem_cons_self
  exact bne_iff_ne.mpr hne.symm

variable [LinearOrder κ]

/-- `m[k] = v`, keeping the keys in order. -/
def insert (k : κ) (v : α) : List (κ × α) → List (κ × α)
  | [] => [(k, v)]
  | (k', v') :: m =>
    if k < k' then (k, v) :: (k', v') :: m
    else if k = k' then (k, v) :: m
    else (k', v') :: insert k v m

/-- The keys increase. -/
def Sorted (m : List (κ × α)) : Prop := m.Pairwise fun a b => a.1 < b.1

instance (m : List (κ × α)) : Decidable (Sorted m) :=
  inferInstanceAs (Decidable (m.Pairwise fun a b => a.1 < b.1))

section

variable [BEq κ] [LawfulBEq κ]

theorem lookup_insert_self (k : κ) (v : α) (m : List (κ × α)) :
    List.lookup k (insert k v m) = some v := by
  induction m with
  | nil => exact List.lookup_cons_self
  | cons e m ih =>
    unfold insert
    split_ifs with hlt heq
    · exact List.lookup_cons_self
    · exact List.lookup_cons_self
    · rw [List.lookup_cons, beq_false_of_ne heq]
      exact ih

theorem lookup_insert_of_ne {k k' : κ} (h : k' ≠ k) (v : α) (m : List (κ × α)) :
    List.lookup k' (insert k v m) = List.lookup k' m := by
  have hne : (k' == k) = false := beq_false_of_ne h
  induction m with
  | nil => rw [insert, List.lookup_cons, hne]
  | cons e m ih =>
    unfold insert
    split_ifs with hlt heq
    · rw [List.lookup_cons, hne]
    · subst heq
      rw [List.lookup_cons, List.lookup_cons, hne]
    · rw [List.lookup_cons, List.lookup_cons, ih]

end

theorem mem_insert {k : κ} {v : α} {m : List (κ × α)} {e : κ × α} (h : e ∈ insert k v m) :
    e = (k, v) ∨ e ∈ m := by
  induction m with
  | nil => exact Or.inl (by simpa [insert] using h)
  | cons e' m ih =>
    unfold insert at h
    split_ifs at h with hlt heq
    · simpa using h
    · rcases List.mem_cons.mp h with h | h
      · exact Or.inl h
      · exact Or.inr (List.mem_cons_of_mem _ h)
    · rcases List.mem_cons.mp h with rfl | h
      · exact Or.inr List.mem_cons_self
      · exact (ih h).imp_right (List.mem_cons_of_mem _)

theorem sorted_insert (k : κ) (v : α) {m : List (κ × α)} (hm : Sorted m) :
    Sorted (insert k v m) := by
  induction m with
  | nil => exact List.pairwise_singleton _ _
  | cons e m ih =>
    obtain ⟨hhead, htail⟩ := List.pairwise_cons.mp hm
    unfold insert
    split_ifs with hlt heq
    · refine List.pairwise_cons.mpr ⟨fun a ha => ?_, hm⟩
      rcases List.mem_cons.mp ha with rfl | ha
      · exact hlt
      · exact hlt.trans (hhead a ha)
    · subst heq
      exact List.pairwise_cons.mpr ⟨hhead, htail⟩
    · refine List.pairwise_cons.mpr ⟨fun a ha => ?_, ih htail⟩
      rcases mem_insert ha with rfl | ha
      · exact lt_of_le_of_ne (not_lt.mp hlt) (Ne.symm heq)
      · exact hhead a ha

/-- A key above all the others goes to the end. -/
theorem insert_eq_append {k : κ} {m : List (κ × α)} (h : ∀ e ∈ m, e.1 < k) (v : α) :
    insert k v m = m ++ [(k, v)] := by
  induction m with
  | nil => rfl
  | cons e m ih =>
    have he : e.1 < k := h e List.mem_cons_self
    unfold insert
    rw [if_neg he.not_gt, if_neg he.ne', ih fun a ha => h a (List.mem_cons_of_mem _ ha)]
    rfl

end SortedAssoc

/-- `std::map`. -/
structure StdMap (κ α : Type) [LinearOrder κ] where
  entries : List (κ × α)
  sorted : SortedAssoc.Sorted entries

namespace StdMap

open SortedAssoc

variable {κ α β : Type} [LinearOrder κ]

/-- A map without entries. -/
def empty : StdMap κ α := ⟨[], List.Pairwise.nil⟩

/-- `m[k] = v`. -/
def insert (m : StdMap κ α) (k : κ) (v : α) : StdMap κ α :=
  ⟨SortedAssoc.insert k v m.entries, sorted_insert k v m.sorted⟩

/-- The value under `k`. -/
def find? [BEq κ] (m : StdMap κ α) (k : κ) : Option α := List.lookup k m.entries

@[ext] theorem ext {m m' : StdMap κ α} (h : m.entries = m'.entries) : m = m' := by
  cases m
  cases m'
  cases h
  rfl

@[simp] theorem find?_insert_self [BEq κ] [LawfulBEq κ] (m : StdMap κ α) (k : κ) (v : α) :
    (m.insert k v).find? k = some v :=
  lookup_insert_self k v m.entries

theorem find?_insert_of_ne [BEq κ] [LawfulBEq κ] (m : StdMap κ α) {k k' : κ} (h : k' ≠ k)
    (v : α) : (m.insert k v).find? k' = m.find? k' :=
  lookup_insert_of_ne h v m.entries

/-- Inserting the entries of a sorted list one after the other rebuilds the list. -/
theorem entries_foldl_insert (f : α → β) (es : List (κ × α)) :
    ∀ m : StdMap κ β, Sorted es → (∀ a ∈ m.entries, ∀ e ∈ es, a.1 < e.1) →
      (es.foldl (fun m e => m.insert e.1 (f e.2)) m).entries =
        m.entries ++ es.map fun e => (e.1, f e.2) := by
  induction es with
  | nil => intro m _ _; simp
  | cons e es ih =>
    intro m hes hlt
    obtain ⟨hhead, htail⟩ := List.pairwise_cons.mp hes
    have hins : (m.insert e.1 (f e.2)).entries = m.entries ++ [(e.1, f e.2)] :=
      insert_eq_append (fun a ha => hlt a ha e List.mem_cons_self) _
    rw [List.foldl_cons, ih _ htail ?_, hins, List.append_assoc]
    · rfl
    · intro a ha b hb
      rw [hins] at ha
      rcases List.mem_append.mp ha with ha | ha
      · exact hlt a ha b (List.mem_cons_of_mem _ hb)
      · rw [List.mem_singleton.mp ha]
        exact hhead b hb

end StdMap
