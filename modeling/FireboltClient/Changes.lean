import Mathlib.Data.List.Forall2

/-!
# Lists that grow at the end

A change appends one entry, or drops the entries that a test marks. After any number of changes
what is left is what no later change dropped, in the order of arrival (`foldl_apply`). Two lists
with related entries stay related under related changes.
-/

inductive Change (ε : Type)
  | append (x : ε)
  | drop (p : ε → Bool)

namespace Change

variable {ε δ : Type}

def apply (s : List ε) : Change ε → List ε
  | append x => s ++ [x]
  | drop p => s.filter fun x => !p x

/-- Whether a change drops an entry that is there. -/
def drops (x : ε) : Change ε → Bool
  | append _ => false
  | drop p => p x

/-- The entries that are appended and that no later change drops. -/
def survivors : List (Change ε) → List ε
  | [] => []
  | append x :: cs => if cs.any (drops x) then survivors cs else x :: survivors cs
  | drop _ :: cs => survivors cs

theorem filter_foldl_cons (c : Change ε) (cs : List (Change ε)) (s : List ε) :
    (s.filter fun x => !(c :: cs).any (drops x)) =
      (s.filter fun x => !c.drops x).filter fun x => !cs.any (drops x) := by
  rw [List.filter_filter]
  refine List.filter_congr fun x _ => ?_
  rw [List.any_cons, Bool.not_or, Bool.and_comm]

/-- What was there and was not dropped, and then what was appended and was not dropped. -/
theorem foldl_apply (cs : List (Change ε)) (s : List ε) :
    cs.foldl apply s = (s.filter fun x => !cs.any (drops x)) ++ survivors cs := by
  induction cs generalizing s with
  | nil => simp [survivors]
  | cons c cs ih =>
    rw [List.foldl_cons, ih, filter_foldl_cons]
    cases c with
    | append x =>
      have hself : (s.filter fun y => !drops y (append x)) = s :=
        List.filter_eq_self.mpr fun _ _ => rfl
      rw [hself, apply, List.filter_append, List.append_assoc, survivors]
      by_cases hx : cs.any (drops x) = true
      · simp [hx]
      · simp [hx]
    | drop p => rfl

theorem foldl_apply_nil (cs : List (Change ε)) : cs.foldl apply [] = survivors cs := by
  rw [foldl_apply, List.filter_nil, List.nil_append]

/-- The entries of the first changes, as far as the others leave them, come first. -/
theorem survivors_append (cs cs' : List (Change ε)) :
    survivors (cs ++ cs') =
      ((survivors cs).filter fun x => !cs'.any (drops x)) ++ survivors cs' := by
  rw [← foldl_apply_nil, List.foldl_append, foldl_apply_nil, foldl_apply]

/-! ## Related lists -/

/-- Related entries are appended, or related entries are treated alike. -/
inductive Rel (R : ε → δ → Prop) : Change ε → Change δ → Prop
  | append {x : ε} {y : δ} (h : R x y) : Rel R (append x) (append y)
  | drop {p : ε → Bool} {q : δ → Bool} (h : ∀ x y, R x y → p x = q y) : Rel R (drop p) (drop q)

variable {R : ε → δ → Prop} {c : Change ε} {c' : Change δ} {s s' : List ε} {t u : List δ}

theorem Rel.forall₂_apply (h : Rel R c c') (hst : List.Forall₂ R s t) :
    List.Forall₂ R (c.apply s) (c'.apply t) := by
  cases h with
  | append h => exact List.rel_append hst (.cons h .nil)
  | drop h =>
    refine List.rel_filter (fun x y hxy => ?_) hst
    simp only [h x y hxy]

theorem Rel.forall₂_foldl {cs : List (Change ε)} {cs' : List (Change δ)}
    (h : List.Forall₂ (Rel R) cs cs') (hst : List.Forall₂ R s t) :
    List.Forall₂ R (cs.foldl apply s) (cs'.foldl apply t) := by
  induction h generalizing s t with
  | nil => exact hst
  | cons hc _ ih => exact ih (hc.forall₂_apply hst)

/-- A part of a list is related to a part of the other list. -/
theorem exists_sublist_forall₂ (hsub : s'.Sublist s) (hst : List.Forall₂ R s t) :
    ∃ u, u.Sublist t ∧ List.Forall₂ R s' u := by
  induction hsub generalizing t with
  | slnil => exact ⟨[], List.nil_sublist t, .nil⟩
  | cons x _ ih =>
    obtain ⟨y, t, -, hrest, rfl⟩ := List.forall₂_cons_left_iff.mp hst
    obtain ⟨u, hu, hsu⟩ := ih hrest
    exact ⟨u, hu.cons y, hsu⟩
  | cons_cons x _ ih =>
    obtain ⟨y, t, hxy, hrest, rfl⟩ := List.forall₂_cons_left_iff.mp hst
    obtain ⟨u, hu, hsu⟩ := ih hrest
    exact ⟨y :: u, hu.cons_cons y, .cons hxy hsu⟩

theorem apply_sublist (h : u.Sublist t) (c' : Change δ) : (c'.apply u).Sublist (c'.apply t) := by
  cases c' with
  | append y => exact h.append (List.Sublist.refl [y])
  | drop q => exact h.filter _

/-- Related entries give related results. -/
theorem filterMap_eq_of_forall₂ {β : Type} {f : ε → Option β} {g : δ → Option β}
    (hst : List.Forall₂ R s t) (hfg : ∀ x y, R x y → f x = g y) :
    s.filterMap f = t.filterMap g := by
  induction hst with
  | nil => rfl
  | cons hxy _ ih => rw [List.filterMap_cons, List.filterMap_cons, hfg _ _ hxy, ih]

end Change
