import Mathlib.Data.List.Basic

/-!
# Machines that answer

A machine takes actions one after the other and answers each. A second machine that is told the
answers of the first simulates it if a relation between their states is kept by every step, and
the relation then lasts for whole runs.
-/

namespace Transducer

variable {σ τ α β γ : Type}

/-- Run the actions in order and collect the answers. -/
def run (step : σ → α → σ × β) : σ → List α → σ × List β
  | s, [] => (s, [])
  | s, a :: as =>
    let next := run step (step s a).1 as
    (next.1, (step s a).2 :: next.2)

/-- Every action meets `P` in the state in which it is taken. -/
def Along (step : σ → α → σ × β) (P : σ → α → Prop) : σ → List α → Prop
  | _, [] => True
  | s, a :: as => P s a ∧ Along step P (step s a).1 as

/-- The actions of a run, each with its answer. -/
def log (step : σ → α → σ × β) (s : σ) (as : List α) : List (α × β) :=
  as.zip (run step s as).2

section

variable {step : σ → α → σ × β} {s : σ} {a : α} {as : List α}

theorem run_cons_snd :
    (run step s (a :: as)).2 = (step s a).2 :: (run step (step s a).1 as).2 := rfl

@[simp] theorem log_cons :
    log step s (a :: as) = (a, (step s a).2) :: log step (step s a).1 as := rfl

/-- A run goes on where the run before it ended. -/
theorem run_append_fst (bs : List α) :
    (run step s (as ++ bs)).1 = (run step (run step s as).1 bs).1 := by
  induction as generalizing s with
  | nil => rfl
  | cons a as ih => exact ih

theorem log_append (bs : List α) :
    log step s (as ++ bs) = log step s as ++ log step (run step s as).1 bs := by
  induction as generalizing s with
  | nil => rfl
  | cons a as ih => rw [List.cons_append, log_cons, log_cons, ih, List.cons_append]; rfl

end

/-- A simulation lasts for whole runs: the second machine, told the log of the first, ends in a
related state, and its answers are those of the first as `f` shows them. -/
theorem run_simulates {step : σ → α → σ × β} {step' : τ → α × β → τ × γ} {R : σ → τ → Prop}
    {P : σ → α → Prop} (f : β → γ)
    (hstep : ∀ s t a, R s t → P s a →
      R (step s a).1 (step' t (a, (step s a).2)).1 ∧
        (step' t (a, (step s a).2)).2 = f (step s a).2)
    {s : σ} {t : τ} {as : List α} (h : R s t) (hP : Along step P s as) :
    R (run step s as).1 (run step' t (log step s as)).1 ∧
      (run step' t (log step s as)).2 = (log step s as).map fun x => f x.2 := by
  induction as generalizing s t with
  | nil => exact ⟨h, rfl⟩
  | cons a as ih =>
    obtain ⟨hR, hout⟩ := hstep s t a h hP.1
    obtain ⟨hrest, houts⟩ := ih hR hP.2
    refine ⟨hrest, ?_⟩
    rw [log_cons, run_cons_snd, List.map_cons, hout, houts]

/-- Two machines that answer the same actions alike, in related states, answer whole runs alike. -/
theorem run_agrees {step : σ → α → σ × β} {step' : τ → α → τ × β} {R : σ → τ → Prop}
    (hstep : ∀ s t a, R s t → R (step s a).1 (step' t a).1 ∧ (step s a).2 = (step' t a).2)
    {s : σ} {t : τ} (h : R s t) (as : List α) :
    R (run step s as).1 (run step' t as).1 ∧ (run step s as).2 = (run step' t as).2 := by
  induction as generalizing s t with
  | nil => exact ⟨h, rfl⟩
  | cons a as ih =>
    obtain ⟨hR, hout⟩ := hstep s t a h
    obtain ⟨hrest, houts⟩ := ih hR
    refine ⟨hrest, ?_⟩
    rw [run_cons_snd, run_cons_snd, hout, houts]

end Transducer
