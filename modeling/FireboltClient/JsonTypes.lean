import FireboltClient.Decoder
import FireboltClient.Types

/-!
# The transport's JSON helpers

`<firebolt/json_types.h>` belongs to the transport library. The decoders are stated over any
`JsonTypes`; what they rely on is named here, law by law, and a theorem that needs a law takes it
as a hypothesis.
-/

namespace Firebolt

/-- The names of an enumeration's values. -/
abbrev EnumType (α : Type) : Type := List (String × α)

/-- The helpers of `json_types.h`, and what the compiler does with a cast out of range. -/
structure JsonTypes where
  beyond : Float → UInt32
  checkRequiredFields : Json → List String → Bool
  enumAt {α : Type} : EnumType α → String → Except Exn α
  toString {α : Type} [DecidableEq α] : EnumType α → α → String
  JSON_Boolean : JsonClass Bool Bool
  JSON_String : JsonClass String String
  JSON_Unsigned : JsonClass UInt32 UInt32
  NL_Json_Array {σ τ : Type} [Inhabited σ] : JsonClass σ τ → JsonClass (List τ) (List τ)

namespace JsonTypes

variable (T : JsonTypes)

/-- `checkRequiredFields` accepts only objects that have all the members. -/
def ChecksFields : Prop :=
  ∀ json names, T.checkRequiredFields json names = true →
    json.isObject = true ∧ ∀ name ∈ names, (json.find? name).isSome

/-- `checkRequiredFields` accepts exactly the objects that have all the members. -/
def ChecksExactly : Prop :=
  ∀ json names, T.checkRequiredFields json names = true ↔
    json.isObject = true ∧ ∀ name ∈ names, (json.find? name).isSome

/-- `EnumType::at` gives the value paired with a name and throws on every other name. -/
def LooksUp : Prop :=
  ∀ {α : Type} (table : EnumType α) (name : String) (a : α),
    T.enumAt table name = .ok a ↔ List.lookup name table = some a

/-- `toString` gives a name that the table pairs with the value. -/
def NamesValues : Prop :=
  ∀ {α : Type} [DecidableEq α] (table : EnumType α) (name : String) (a : α),
    (name, a) ∈ table → (T.toString table a, a) ∈ table

/-- The elements of an array are decoded in order, each by a new decoder, and what an element
throws escapes. Nothing is said of a value that is no array, but that it is decoded or refused.

The law asks for this whatever the array decoder holds, though the client uses each for one value:
`Decodes`, `Throws` and `Definite` speak of all members, as those of most classes have no initial
values, and it is these that `Gets` and `Handles` take of the decoder they are given. -/
structure DecodesArrays : Prop where
  decodes : ∀ {σ τ : Type} [Inhabited σ] {c : JsonClass σ τ} {xs : List Json} {vs : List τ},
    List.Forall₂ c.Decodes xs vs → (T.NL_Json_Array c).Decodes (.array xs) vs
  throws : ∀ {σ τ : Type} [Inhabited σ] {c : JsonClass σ τ} {xs : List Json},
    c.Definite → (∃ x ∈ xs, c.Throws x) → (T.NL_Json_Array c).Throws (.array xs)
  definite : ∀ {σ τ : Type} [Inhabited σ] {c : JsonClass σ τ},
    c.Definite → (T.NL_Json_Array c).Definite

/-- The decoders of a single boolean and of a single string refuse what they do not decode. -/
structure DecodesScalars : Prop where
  boolean : T.JSON_Boolean.Definite
  string : T.JSON_String.Definite

/-- The decoders of a single boolean and of a single string decode what is stored as one. -/
structure ReadsScalars : Prop where
  boolean : ∀ b : Bool, T.JSON_Boolean.Decodes (.boolean b) b
  string : ∀ s : String, T.JSON_String.Decodes (.string s) s

/-- The decoder of a single unsigned integer decodes a number that is an integer of 32 bits. -/
def ReadsUnsigned : Prop :=
  ∀ {json : Json} {n : UInt32}, json.number? = some (n.toNat : ℚ) → T.JSON_Unsigned.Decodes json n

variable {T}

theorem ChecksExactly.checksFields (h : T.ChecksExactly) : T.ChecksFields :=
  fun json names => (h json names).mp

/-- An array of strings is decoded to the list of them. -/
theorem DecodesArrays.decodes_strings (h : T.DecodesArrays) (hR : T.ReadsScalars)
    (ws : List String) :
    (T.NL_Json_Array T.JSON_String).Decodes (.array (ws.map Json.string)) ws := by
  refine h.decodes ?_
  rw [List.forall₂_map_left_iff, List.forall₂_same]
  exact fun w _ => hR.string w

/-- An array is decoded just when every element is, to the list of what the elements give. -/
theorem DecodesArrays.decodes_iff (h : T.DecodesArrays) {σ τ : Type} [Inhabited σ]
    {c : JsonClass σ τ} (hc : c.Definite) {xs : List Json} {vs : List τ} :
    (T.NL_Json_Array c).Decodes (.array xs) vs ↔ List.Forall₂ c.Decodes xs vs := by
  refine ⟨fun hvs => ?_, h.decodes⟩
  rcases hc.decodes_or_throws xs with ⟨ws, hws⟩ | hthrows
  · have heq : vs = ws := hvs.unique (h.decodes hws)
    rwa [heq]
  · exact absurd (hvs default) (h.throws hc hthrows).decode_ne_ok

/-! ### The documented behaviour -/

/-- Helpers that behave as their documentation says; an array decoder that refuses whatever is no
array. -/
def documented : JsonTypes where
  beyond _ := 0
  checkRequiredFields json names := json.isObject && names.all fun name => (json.find? name).isSome
  enumAt table name :=
    match List.lookup name table with
    | some a => .ok a
    | none => .error .out_of_range
  toString table a := ((table.find? fun e => e.2 = a).map Prod.fst).getD ""
  JSON_Boolean := JsonClass.scalar Json.getBool
  JSON_String := JsonClass.scalar Json.getString
  JSON_Unsigned := JsonClass.scalar (Json.getUInt32 fun _ => 0)
  NL_Json_Array c :=
    { fromJson := fun json vs =>
        match json with
        | .array xs =>
          match xs.mapM (c.decode default) with
          | .ok ws => ⟨.ok (), ws, []⟩
          | .error e => ⟨.error e, vs, []⟩
        | _ => ⟨.error (.thrown (.type_error 302)), vs, []⟩
      value := fun vs => vs }

theorem documented_checksExactly : documented.ChecksExactly := by
  intro json names
  simp [documented]

theorem documented_looksUp : documented.LooksUp := by
  intro α table name a
  simp only [documented]
  rcases List.lookup name table with _ | b <;> simp

theorem documented_namesValues : documented.NamesValues := by
  intro α _ table name a hmem
  have hsome : (table.find? fun e => e.2 = a).isSome := by
    rw [List.find?_isSome]
    exact ⟨(name, a), hmem, by simp⟩
  obtain ⟨e, he⟩ := Option.isSome_iff_exists.mp hsome
  have hval : e.2 = a := by simpa using List.find?_some he
  have hname : documented.toString table a = e.1 := by simp [documented, he]
  rw [hname, ← hval]
  exact List.mem_of_find?_eq_some he

theorem documented_decodesScalars : documented.DecodesScalars :=
  ⟨JsonClass.scalar_definite _, JsonClass.scalar_definite _⟩

theorem documented_readsScalars : documented.ReadsScalars := ⟨fun _ _ => rfl, fun _ _ => rfl⟩

theorem documented_readsUnsigned : documented.ReadsUnsigned :=
  fun h _ => JsonClass.scalar_decode_eq_ok.mpr (Json.getUInt32_of_toNat h)

theorem documented_decode_array {σ τ : Type} [Inhabited σ] (c : JsonClass σ τ) (m : List τ)
    (xs : List Json) :
    (documented.NL_Json_Array c).decode m (.array xs) = xs.mapM (c.decode default) := by
  rw [JsonClass.decode]
  simp only [documented]
  rcases xs.mapM (c.decode default) with e | vs <;> rfl

theorem documented_array_throws {σ τ : Type} [Inhabited σ] {c : JsonClass σ τ} (hc : c.Definite)
    {xs : List Json} (h : ∃ x ∈ xs, c.Throws x) :
    (documented.NL_Json_Array c).Throws (.array xs) := by
  intro m
  rw [documented_decode_array]
  rcases hmap : xs.mapM (c.decode default) with f | vs
  · obtain ⟨y, -, hy⟩ := exists_of_mapM_eq_error hmap
    rcases hc y with ⟨v, hv⟩ | ht
    · exact absurd ((hv default).symm.trans hy) (by simp)
    · obtain ⟨e, he⟩ := ht default
      have hf : f = .thrown e := Except.error.inj (hy.symm.trans he)
      exact ⟨e, by rw [hf]⟩
  · obtain ⟨x, hmem, ht⟩ := h
    obtain ⟨v, hv⟩ := exists_mapM_eq_ok_iff.mp ⟨vs, hmap⟩ x hmem
    exact absurd hv ht.decode_ne_ok

theorem documented_decodesArrays : documented.DecodesArrays where
  decodes hvs m := by
    rw [documented_decode_array, mapM_eq_ok_iff]
    exact hvs.imp fun x v h => h default
  throws hc hx := documented_array_throws hc hx
  definite {σ τ} _ c hc json := by
    cases json with
    | array xs =>
      rcases hc.decodes_or_throws xs with ⟨vs, hvs⟩ | hthrows
      · refine Or.inl ⟨vs, fun m => ?_⟩
        rw [documented_decode_array, mapM_eq_ok_iff]
        exact hvs.imp fun x v h => h default
      · exact Or.inr (documented_array_throws hc hthrows)
    | _ => exact Or.inr fun m => ⟨.type_error 302, rfl⟩

end JsonTypes

end Firebolt
