import FireboltClient.Decoder

/-!
# Two runs of a decoder

One body, or one `fromJson`, run twice on the same value from different members. `Run.Alike`
compares what the two runs leave, with one rule for each kind of statement: two runs draw together
as they assign the same members, and from equal members nothing can part them.

A class that `Forgets` gives the same for a value whatever its object has been through, so an
object that is used again does what a new one would do.
-/

/-- The runs end the same way after the same reads, and if they return, with the same members.
Where they throw, what is left of the old members may differ. -/
structure Run.Alike {σ : Type} (r s : Run σ) : Prop where
  outcome : r.outcome = s.outcome
  reads : r.reads = s.reads
  self : r.outcome = .ok () → r.self = s.self

open Statement

/-! ## Bodies -/

section Body

variable {σ α : Type} {json : Json} {body : List (Statement σ)} {m n : σ} {key : String}

theorem Run.Alike.of_eq (h : m = n) :
    (runBody json body m).Alike (runBody json body n) := by
  subst h
  exact ⟨rfl, rfl, fun _ => rfl⟩

theorem Run.Alike.exec {f : σ → σ}
    (h : (runBody json body (f m)).Alike (runBody json body (f n))) :
    (runBody json (.exec f :: body) m).Alike (runBody json (.exec f :: body) n) := h

/-- An update that is cut short in both runs or in neither leads on to the rest of the body. -/
theorem Run.Alike.read {update : Json → Update σ}
    (hend : ∀ v, (update v m).1 = (update v n).1)
    (hrest : ∀ v, (update v m).1 = .ok () →
      (runBody json body (update v m).2).Alike (runBody json body (update v n).2)) :
    (runBody json (.read key update :: body) m).Alike
      (runBody json (.read key update :: body) n) := by
  rw [runBody, runBody]
  rcases json.find? key with _ | v
  · exact ⟨rfl, rfl, fun h => absurd h (by simp)⟩
  · rcases hm : update v m with ⟨o, m₁⟩
    rcases hn : update v n with ⟨p, n₁⟩
    obtain rfl : o = p := by simpa only [hm, hn] using hend v
    rcases o with e | ⟨⟩ <;> simp only [hm, hn]
    · exact ⟨rfl, rfl, fun h => absurd h (by simp)⟩
    · have hrun := hrest v (by rw [hm])
      rw [hm, hn] at hrun
      exact ⟨hrun.outcome, congrArg ((json, key) :: ·) hrun.reads, hrun.self⟩

/-- Whether a value is converted does not depend on the members, and neither does what is
stored. -/
theorem Run.Alike.assign {get : Json → Except Exn α} {set : α → σ → σ}
    (h : ∀ a, (runBody json body (set a m)).Alike (runBody json body (set a n))) :
    (runBody json (assign key get set :: body) m).Alike
      (runBody json (assign key get set :: body) n) := by
  refine .read (fun v => ?_) fun v hv => ?_
  · unfold store
    rcases get v with e | a <;> rfl
  · unfold store at hv ⊢
    rcases hget : get v with e | a
    · rw [hget] at hv
      exact absurd hv (by simp)
    · exact h a

end Body

/-! ## Classes -/

namespace JsonClass

variable {σ τ : Type}

/-- The members of an object after `fromJson` of each value, however each call ended. -/
def held (c : JsonClass σ τ) (m : σ) (earlier : List Json) : σ :=
  earlier.foldl (fun m json => (c.fromJson json m).self) m

/-- From any two members, `fromJson` of a value ends alike. -/
def Forgets (c : JsonClass σ τ) : Prop :=
  ∀ json m n, (c.fromJson json m).Alike (c.fromJson json n)

namespace Forgets

variable {c : JsonClass σ τ}

theorem decode_eq (hc : c.Forgets) (m n : σ) (json : Json) : c.decode m json = c.decode n json := by
  have hrun := hc json m n
  unfold decode
  rw [← hrun.outcome]
  rcases hout : (c.fromJson json m).outcome with e | ⟨⟩
  · rfl
  · rw [hrun.self hout]

/-- A class that forgets and breaks no precondition decodes a value or refuses it. -/
theorem definite (hc : c.Forgets)
    (hdef : ∀ m json, (c.fromJson json m).outcome ≠ .error .undefined) : c.Definite := by
  intro json
  by_cases h : ∃ m v, c.decode m json = .ok v
  · obtain ⟨m, v, hv⟩ := h
    exact Or.inl ⟨v, fun n => (hc.decode_eq n m json).trans hv⟩
  · exact Or.inr fun m => decode_thrown (hdef m json) fun v hv => h ⟨m, v, hv⟩

end Forgets

theorem scalar_forgets {α : Type} (get : Json → Except Exn α) : (scalar get).Forgets := by
  intro json m n
  simp only [scalar]
  rcases get json with e | a
  · exact ⟨rfl, rfl, fun h => absurd h (by simp)⟩
  · exact ⟨rfl, rfl, fun _ => rfl⟩

end JsonClass

/-- A check of the value alone in front of a body does not tell two objects apart. -/
theorem ObjectClass.forgets {σ τ : Type} {c : ObjectClass σ τ} {check : Json → List String → Bool}
    {e : Exn} (h : ∀ json m n, (runBody json c.body m).Alike (runBody json c.body n)) :
    (c.toClass check e).Forgets := by
  intro json m n
  by_cases hcheck : check json c.required = true
  · have hrun : ∀ k, (c.toClass check e).fromJson json k = runBody json c.body k := fun k =>
      if_pos hcheck
    rw [hrun, hrun]
    exact h json m n
  · rw [fromJson_of_not_check hcheck, fromJson_of_not_check hcheck]
    exact ⟨rfl, rfl, fun h => absurd h (by simp)⟩
