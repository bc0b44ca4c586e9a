import FireboltClient.Json

/-!
# JSON schemas

The part of JSON Schema that the OpenRPC files use. A schema is the test whether a value is valid
under it; each keyword is a function that builds one.
-/

/-- A test whether a value is valid. -/
abbrev Schema : Type := Json → Bool

namespace Schema

open Json

def boolean : Schema := isBoolean

def string : Schema := isString

/-- A string with a further condition: `enum`, `pattern`. -/
def stringWith (p : String → Bool) : Schema
  | .string s => p s
  | _ => false

/-- A number from `minimum` to `maximum`. -/
def number (minimum maximum : ℚ) : Schema := fun json =>
  json.number?.any fun q => minimum ≤ q ∧ q ≤ maximum

/-- A number without fraction, in whatever way it is written, with a further condition: `enum`,
`minimum` and `maximum`. -/
def integerWith (p : ℤ → Bool) : Schema := fun json =>
  json.number?.any fun q => q.isInt && p q.num

def integer : Schema := integerWith fun _ => true

/-- A number with a further condition: `const`, `minimum`, `exclusiveMinimum` and the like. -/
def numberWith (p : ℚ → Bool) : Schema := fun json => json.number?.any p

/-- `oneOf`: valid under just one of the schemas. -/
def oneOf (ss : List Schema) : Schema := fun json => ss.countP (fun s => s json) = 1

/-- An object whose members are all valid under one schema, whatever their names are:
`additionalProperties`. -/
def mapOf (s : Schema) : Schema
  | .object m => m.all fun e => s e.2
  | _ => false

/-- An array of at least `minItems` items. -/
def array (minItems : ℕ) (items : Schema) : Schema
  | .array xs => decide (minItems ≤ xs.length) && xs.all items
  | _ => false

/-- An object with certain members, some required. Other members are allowed. -/
def object (required : List String) (properties : List (String × Schema)) : Schema := fun json =>
  json.isObject && (required.all fun key => (json.find? key).isSome) &&
    properties.all fun p => (json.find? p.1).all p.2

variable {json : Json}

theorem stringWith_iff {p : String → Bool} :
    stringWith p json = true ↔ ∃ s, json = .string s ∧ p s = true := by
  cases json <;> simp [stringWith]

theorem number_iff {lo hi : ℚ} :
    number lo hi json = true ↔ ∃ q, json.number? = some q ∧ lo ≤ q ∧ q ≤ hi := by
  unfold number
  rw [Option.any_eq_true]
  simp only [Bool.decide_and, Bool.and_eq_true, decide_eq_true_eq]

theorem numberWith_iff {p : ℚ → Bool} :
    numberWith p json = true ↔ ∃ q, json.number? = some q ∧ p q = true :=
  Option.any_eq_true _ _

/-- Where no two of the schemas can hold, one of them is enough. -/
theorem oneOf_iff {ss : List Schema}
    (hss : ss.Pairwise fun s s' => ¬ (s json = true ∧ s' json = true)) :
    oneOf ss json = true ↔ ∃ s ∈ ss, s json = true := by
  unfold oneOf
  rw [decide_eq_true_eq]
  induction ss with
  | nil => simp
  | cons s ss ih =>
    obtain ⟨hhead, htail⟩ := List.pairwise_cons.mp hss
    by_cases hs : s json = true
    · have hnone : ss.countP (fun s => s json) = 0 := by
        rw [List.countP_eq_zero]
        exact fun s' hs' h => hhead s' hs' ⟨hs, h⟩
      rw [List.countP_cons_of_pos (p := fun s : Schema => s json) hs, hnone]
      exact iff_of_true rfl ⟨s, List.mem_cons_self, hs⟩
    · rw [List.countP_cons_of_neg (p := fun s : Schema => s json) hs, ih htail]
      simp [hs]

theorem integerWith_iff {p : ℤ → Bool} :
    integerWith p json = true ↔ ∃ n : ℤ, json.number? = some (n : ℚ) ∧ p n = true := by
  unfold integerWith
  rw [Option.any_eq_true]
  constructor
  · rintro ⟨q, hq, h⟩
    obtain ⟨hint, hp⟩ := Bool.and_eq_true_iff.mp h
    exact ⟨q.num, by rw [hq, Rat.eq_num_of_isInt hint]; rfl, hp⟩
  · rintro ⟨n, hn, hp⟩
    exact ⟨n, hn, by simp [Rat.isInt, hp]⟩

theorem integer_iff : integer json = true ↔ ∃ n : ℤ, json.number? = some (n : ℚ) := by
  unfold integer
  rw [integerWith_iff]
  simp

theorem array_iff {n : ℕ} {items : Schema} :
    array n items json = true ↔
      ∃ xs, json = .array xs ∧ n ≤ xs.length ∧ ∀ x ∈ xs, items x = true := by
  cases json <;> simp [array]

theorem object_iff {required : List String} {properties : List (String × Schema)} :
    object required properties json = true ↔
      json.isObject = true ∧ (∀ key ∈ required, (json.find? key).isSome) ∧
        ∀ p ∈ properties, ∀ v, json.find? p.1 = some v → p.2 v = true := by
  unfold object
  simp only [Bool.and_eq_true, List.all_eq_true, Option.all_eq_true, and_assoc]

theorem isNumber_of_integerWith {p : ℤ → Bool} (h : integerWith p json = true) :
    json.isNumber = true := by
  obtain ⟨n, hn, -⟩ := integerWith_iff.mp h
  exact isNumber_of_number? hn

theorem isNumber_of_number {lo hi : ℚ} (h : number lo hi json = true) :
    json.isNumber = true := by
  obtain ⟨q, hq, -⟩ := number_iff.mp h
  exact isNumber_of_number? hq

end Schema
