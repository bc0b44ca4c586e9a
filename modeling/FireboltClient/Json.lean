import FireboltClient.Binary64
import FireboltClient.SortedAssoc
import Mathlib.Data.List.Forall2
import Mathlib.Data.String.Basic

/-!
# JSON values and their conversions

The values of `nlohmann::json`, with its three representations of a number, and the typed reads
`get<T>()`. A read either returns or throws; `get_…_eq_ok` lemmas say on which values it returns.
Objects are `std::map`s, so their keys increase in every value the parser builds; nothing below
needs that.
-/

/-- The exceptions thrown while a value is read. -/
inductive Exn
  | type_error (id : ℕ)
  | out_of_range
  | invalid_argument (what : String)
  deriving DecidableEq, Repr

theorem bind_eq_ok {ε α β : Type} {x : Except ε α} {f : α → Except ε β} {b : β} :
    x >>= f = .ok b ↔ ∃ a, x = .ok a ∧ f a = .ok b := by
  cases x with
  | error e =>
    refine iff_of_false (by simp [bind, Except.bind]) ?_
    rintro ⟨a, ha, -⟩
    exact absurd ha (by simp)
  | ok a => exact ⟨fun h => ⟨a, rfl, h⟩, fun ⟨_, ha, h⟩ => Except.ok.inj ha ▸ h⟩

/-- A list is converted element by element, and the first exception escapes. -/
theorem mapM_eq_ok_iff {ε α β : Type} (f : α → Except ε β) (xs : List α) (ys : List β) :
    xs.mapM f = .ok ys ↔ List.Forall₂ (fun x y => f x = .ok y) xs ys := by
  induction xs generalizing ys with
  | nil =>
    rw [List.mapM_nil, List.forall₂_nil_left_iff]
    exact ⟨fun h => (Except.ok.inj h).symm, fun h => h ▸ rfl⟩
  | cons x xs ih =>
    rw [List.mapM_cons, List.forall₂_cons_left_iff, bind_eq_ok]
    constructor
    · rintro ⟨y, hy, h⟩
      obtain ⟨zs, hzs, h⟩ := bind_eq_ok.mp h
      exact ⟨y, zs, hy, (ih zs).mp hzs, (Except.ok.inj h).symm⟩
    · rintro ⟨y, zs, hy, hzs, rfl⟩
      exact ⟨y, hy, bind_eq_ok.mpr ⟨zs, (ih zs).mpr hzs, rfl⟩⟩

/-- A list has related elements throughout just when each element has one. -/
theorem exists_forall₂_iff {α β : Type} {R : α → β → Prop} {xs : List α} :
    (∃ ys, List.Forall₂ R xs ys) ↔ ∀ x ∈ xs, ∃ y, R x y := by
  induction xs with
  | nil => exact ⟨fun _ _ hx => absurd hx List.not_mem_nil, fun _ => ⟨[], .nil⟩⟩
  | cons x xs ih =>
    rw [List.forall_mem_cons, ← ih]
    constructor
    · rintro ⟨ys, hys⟩
      obtain ⟨y, ys, hy, hys, -⟩ := List.forall₂_cons_left_iff.mp hys
      exact ⟨⟨y, hy⟩, ys, hys⟩
    · rintro ⟨⟨y, hy⟩, ys, hys⟩
      exact ⟨y :: ys, .cons hy hys⟩

/-- An element of a list is related to an element of a related list. -/
theorem exists_mem_of_forall₂ {α β : Type} {R : α → β → Prop} {xs : List α} {ys : List β}
    (h : List.Forall₂ R xs ys) {x : α} (hx : x ∈ xs) : ∃ y ∈ ys, R x y := by
  induction h with
  | nil => exact absurd hx List.not_mem_nil
  | @cons x' y xs ys hxy _ ih =>
    rcases List.mem_cons.mp hx with rfl | hx
    · exact ⟨y, List.mem_cons_self, hxy⟩
    · obtain ⟨z, hz, hxz⟩ := ih hx
      exact ⟨z, List.mem_cons_of_mem _ hz, hxz⟩

theorem exists_mapM_eq_ok_iff {ε α β : Type} {f : α → Except ε β} {xs : List α} :
    (∃ ys, xs.mapM f = .ok ys) ↔ ∀ x ∈ xs, ∃ y, f x = .ok y := by
  simp only [mapM_eq_ok_iff, exists_forall₂_iff]

/-- What a list conversion throws was thrown by an element. -/
theorem exists_of_mapM_eq_error {ε α β : Type} {f : α → Except ε β} {xs : List α} {e : ε}
    (h : xs.mapM f = .error e) : ∃ x ∈ xs, f x = .error e := by
  induction xs with
  | nil => exact absurd h (by simp [pure, Except.pure])
  | cons x xs ih =>
    rw [List.mapM_cons] at h
    rcases hx : f x with e' | y <;> rw [hx] at h
    · have he : e' = e := Except.error.inj h
      exact ⟨x, List.mem_cons_self, he ▸ hx⟩
    · rcases hxs : xs.mapM f with e' | ys <;> rw [hxs] at h
      · have he : e' = e := Except.error.inj h
        obtain ⟨z, hz, hfz⟩ := ih (he ▸ hxs)
        exact ⟨z, List.mem_cons_of_mem _ hz, hfz⟩
      · exact absurd h (by simp [bind, Except.bind, pure, Except.pure])

/-- A JSON value. -/
inductive Json
  | null
  | boolean (b : Bool)
  | number_integer (n : Int64)
  | number_unsigned (n : UInt64)
  | number_float (d : Float)
  | string (s : String)
  | array (xs : List Json)
  | object (members : List (String × Json))
  deriving Inhabited

namespace Json

/-! ## Looking at a value -/

/-- The member under `key`, if the value is an object that has one. -/
def find? (key : String) : Json → Option Json
  | object m => List.lookup key m
  | _ => none

def isObject : Json → Bool
  | object _ => true
  | _ => false

def isBoolean : Json → Bool
  | boolean _ => true
  | _ => false

def isString : Json → Bool
  | string _ => true
  | _ => false

def isNumber : Json → Bool
  | number_integer _ | number_unsigned _ | number_float _ => true
  | _ => false

/-- The number that a JSON number stands for. -/
def number? : Json → Option ℚ
  | number_integer n => some (n.toInt : ℚ)
  | number_unsigned n => some (n.toNat : ℚ)
  | number_float d => Binary64.value d
  | _ => none

/-- What `for (const auto& x : json)` visits. -/
def items : Json → List Json
  | null => []
  | array xs => xs
  | object m => m.map Prod.snd
  | j => [j]

theorem isObject_of_find? {key : String} {j : Json} (h : (j.find? key).isSome) :
    j.isObject = true := by
  cases j with
  | object m => rfl
  | _ => exact absurd h (by simp [find?])

theorem isNumber_of_number? {j : Json} {q : ℚ} (h : j.number? = some q) : j.isNumber = true := by
  cases j <;> simp [number?, isNumber] at h ⊢

/-! ## Typed reads -/

/-- The member under `key` is there, and `get` converts it to `a`. -/
def Reads {α : Type} (json : Json) (key : String) (get : Json → Except Exn α) (a : α) : Prop :=
  ∃ v, json.find? key = some v ∧ get v = .ok a

section Reads

variable {α : Type} {json v : Json} {key : String} {get : Json → Except Exn α} {a b : α}

/-- Reading a member that is known to be there. -/
theorem reads_iff (h : json.find? key = some v) : json.Reads key get a ↔ get v = .ok a := by
  constructor
  · rintro ⟨w, hw, hga⟩
    rwa [Option.some.inj (h.symm.trans hw)]
  · exact fun hga => ⟨v, h, hga⟩

end Reads

def getBool : Json → Except Exn Bool
  | boolean b => .ok b
  | _ => .error (.type_error 302)

def getString : Json → Except Exn String
  | string s => .ok s
  | _ => .error (.type_error 302)

/-- `get<std::vector<std::string>>()`. -/
def getStrings : Json → Except Exn (List String)
  | array xs => xs.mapM getString
  | _ => .error (.type_error 302)

/-- `get<double>()`; integers are rounded. -/
def getDouble : Json → Except Exn Float
  | number_integer n => .ok (Binary64.ofInt64 n)
  | number_unsigned n => .ok (Binary64.ofUInt64 n)
  | number_float d => .ok d
  | _ => .error (.type_error 302)

/-- `get<uint32_t>()`: a `static_cast` of the stored number or boolean. -/
def getUInt32 (beyond : Float → UInt32) : Json → Except Exn UInt32
  | number_integer n => .ok n.toUInt64.toUInt32
  | number_unsigned n => .ok n.toUInt32
  | number_float d => .ok (Binary64.toUInt32 beyond d)
  | boolean b => .ok (if b then 1 else 0)
  | _ => .error (.type_error 302)

theorem getBool_eq_ok {j : Json} {b : Bool} : j.getBool = .ok b ↔ j = boolean b := by
  cases j <;> simp [getBool]

theorem getString_eq_ok {j : Json} {s : String} : j.getString = .ok s ↔ j = string s := by
  cases j <;> simp [getString]

@[simp] theorem reads_getBool {json : Json} {key : String} {b : Bool} :
    json.Reads key getBool b ↔ json.find? key = some (boolean b) := by
  unfold Reads
  simp only [getBool_eq_ok, exists_eq_right]

theorem mapM_getString_eq_ok {xs : List Json} {ws : List String} :
    xs.mapM getString = .ok ws ↔ xs = ws.map string := by
  simp only [mapM_eq_ok_iff, getString_eq_ok]
  rw [← List.forall₂_map_right_iff (R := Eq), List.forall₂_eq_eq_eq]

theorem getStrings_eq_ok {j : Json} {ws : List String} :
    j.getStrings = .ok ws ↔ j = array (ws.map string) := by
  cases j with
  | array xs => simp only [getStrings, mapM_getString_eq_ok, array.injEq]
  | _ => simp [getStrings]

@[simp] theorem reads_getStrings {json : Json} {key : String} {ws : List String} :
    json.Reads key getStrings ws ↔ json.find? key = some (array (ws.map string)) := by
  unfold Reads
  simp only [getStrings_eq_ok, exists_eq_right]

theorem exists_getBool_iff {j : Json} : (∃ b, j.getBool = .ok b) ↔ j.isBoolean = true := by
  cases j <;> simp [getBool, isBoolean]

theorem exists_getString_iff {j : Json} : (∃ s, j.getString = .ok s) ↔ j.isString = true := by
  cases j <;> simp [getString, isString]

theorem exists_getDouble_iff {j : Json} : (∃ d, j.getDouble = .ok d) ↔ j.isNumber = true := by
  cases j <;> simp [getDouble, isNumber]

section UInt32

variable {beyond : Float → UInt32} {j : Json}

theorem exists_getUInt32_iff :
    (∃ n, j.getUInt32 beyond = .ok n) ↔ (j.isNumber || j.isBoolean) = true := by
  cases j <;> simp [getUInt32, isNumber, isBoolean]

theorem toUInt32_of_toInt {n : Int64} {k : ℕ} (h : n.toInt = k) (hk : k < 2 ^ 32) :
    n.toUInt64.toUInt32.toNat = k := by
  have hn : n.toUInt64.toNat = k := by
    have htn : n.toUInt64.toNat = n.toBitVec.toNat := rfl
    have hti : n.toInt = n.toBitVec.toInt := rfl
    rw [hti, BitVec.toInt_eq_toNat_cond] at h
    rw [htn]
    split_ifs at h <;> omega
  rw [UInt64.toNat_toUInt32, hn]
  exact Nat.mod_eq_of_lt hk

/-- A number that fits is read as it is, whichever way it is stored. -/
theorem getUInt32_of_number {k : ℕ} (h : j.number? = some (k : ℚ)) (hk : k < 2 ^ 32) :
    ∃ n, j.getUInt32 beyond = .ok n ∧ n.toNat = k := by
  cases j with
  | number_integer n =>
    have hn : n.toInt = k := by exact_mod_cast Option.some.inj h
    exact ⟨_, rfl, toUInt32_of_toInt hn hk⟩
  | number_unsigned n =>
    have hn : n.toNat = k := by exact_mod_cast Option.some.inj h
    refine ⟨_, rfl, ?_⟩
    rw [UInt64.toNat_toUInt32, hn]
    exact Nat.mod_eq_of_lt hk
  | number_float d => exact ⟨_, rfl, Binary64.toUInt32_of_value beyond h hk⟩
  | _ => simp [number?] at h

/-- A number that is an integer of 32 bits is read as that integer. -/
theorem getUInt32_of_toNat {n : UInt32} (h : j.number? = some (n.toNat : ℚ)) :
    j.getUInt32 beyond = .ok n := by
  have hread : ∃ k, j.getUInt32 beyond = .ok k ∧ k.toNat = n.toNat :=
    getUInt32_of_number h n.toNat_lt
  obtain ⟨k, hk, hkn⟩ := hread
  rw [hk, UInt32.toNat_inj.mp hkn]

end UInt32

example : (number_integer (-1)).getUInt32 (fun _ => 0) = .ok 4294967295 := by decide

end Json
