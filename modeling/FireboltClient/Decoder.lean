import FireboltClient.Json

/-!
# Decoder objects

A decoder is an object with data members: `fromJson` overwrites the members one statement after
the other, and `value` builds the result from them. An exception leaves the members as they were
at that point. `json[key]` on a constant value has a precondition, that `json` is an object
containing `key`; breaking it is the outcome `undefined`, and every evaluation is recorded.

`Finishes` says when a body runs to its end, with one rule for each kind of statement.
-/

/-- What stops a decoder: an exception, or a broken precondition. -/
inductive Fault
  | thrown (e : Exn)
  | undefined
  deriving DecidableEq

/-- What a run leaves: how it ended, the members, and the `json[key]` it evaluated. -/
structure Run (σ : Type) where
  outcome : Except Fault Unit
  self : σ
  reads : List (Json × String)

/-- A change of the members that may be cut short by an exception. -/
abbrev Update (σ : Type) : Type := σ → Except Exn Unit × σ

/-- A statement of a decoder's body. -/
inductive Statement (σ : Type)
  | exec (f : σ → σ)
  | read (key : String) (update : Json → Update σ)

namespace Statement

variable {σ α : Type}

/-- Convert and store; nothing is stored if the conversion throws. -/
def store (get : Json → Except Exn α) (set : α → σ → σ) (v : Json) : Update σ := fun m =>
  match get v with
  | .ok a => (.ok (), set a m)
  | .error e => (.error e, m)

/-- `member = json[key].get<T>();` -/
def assign (key : String) (get : Json → Except Exn α) (set : α → σ → σ) : Statement σ :=
  .read key (store get set)

/-- The loop over the elements; the first exception leaves it. -/
def loop (body : Json → Update σ) : List Json → Update σ
  | [], m => (.ok (), m)
  | x :: xs, m =>
    match body x m with
    | (.ok (), m') => loop body xs m'
    | (.error e, m') => (.error e, m')

/-- `for (const auto& x : json[key]) { body }` -/
def forEach (key : String) (body : Json → Update σ) : Statement σ :=
  .read key fun v => loop body v.items

def key? : Statement σ → Option String
  | .exec _ => none
  | .read key _ => some key

@[simp] theorem store_eq_ok {get : Json → Except Exn α} {set : α → σ → σ} {v : Json} {m m' : σ} :
    store get set v m = (.ok (), m') ↔ ∃ a, get v = .ok a ∧ set a m = m' := by
  unfold store
  rcases get v with e | a <;> simp

/-- A loop that converts and stores each element stores all of them, in order, or throws. -/
theorem loop_store_eq_ok {get : Json → Except Exn α} {set : α → σ → σ} {xs : List Json}
    {m m' : σ} :
    loop (store get set) xs m = (.ok (), m') ↔
      ∃ as, xs.mapM get = .ok as ∧ as.foldl (fun m a => set a m) m = m' := by
  induction xs generalizing m with
  | nil =>
    constructor
    · intro h
      exact ⟨[], rfl, (Prod.mk.inj h).2⟩
    · rintro ⟨as, has, rfl⟩
      cases has
      rfl
  | cons x xs ih =>
    rw [List.mapM_cons]
    rcases hx : get x with e | a
    · simp [loop, store, hx, bind, Except.bind]
    · have hloop : loop (store get set) (x :: xs) m = loop (store get set) xs (set a m) := by
        simp [loop, store, hx]
      rw [hloop, ih]
      constructor
      · rintro ⟨as, has, hm⟩
        exact ⟨a :: as, bind_eq_ok.mpr ⟨a, rfl, bind_eq_ok.mpr ⟨as, has, rfl⟩⟩, hm⟩
      · rintro ⟨as, has, hm⟩
        obtain ⟨b, hb, h⟩ := bind_eq_ok.mp has
        obtain ⟨bs, hbs, h⟩ := bind_eq_ok.mp h
        cases hb
        cases h
        exact ⟨bs, hbs, hm⟩

end Statement

open Statement

section Body

variable {σ α : Type}

/-- Run the statements of a body in order. -/
def runBody (json : Json) : List (Statement σ) → σ → Run σ
  | [], m => ⟨.ok (), m, []⟩
  | .exec f :: body, m => runBody json body (f m)
  | .read key update :: body, m =>
    match json.find? key with
    | none => ⟨.error .undefined, m, [(json, key)]⟩
    | some v =>
      match update v m with
      | (.error e, m') => ⟨.error (.thrown e), m', [(json, key)]⟩
      | (.ok (), m') =>
        let r := runBody json body m'
        { r with reads := (json, key) :: r.reads }

/-- The keys a body reads. -/
def keys (body : List (Statement σ)) : List String := body.filterMap key?

/-! ## Running to the end -/

/-- The body runs to its end and turns the members `m` into `m'`. -/
def Finishes (json : Json) (body : List (Statement σ)) (m m' : σ) : Prop :=
  (runBody json body m).outcome = .ok () ∧ (runBody json body m).self = m'

variable {json : Json} {body : List (Statement σ)} {m m' : σ} {key : String}

@[simp] theorem finishes_nil : Finishes json [] m m' ↔ m = m' :=
  ⟨fun h => h.2, fun h => ⟨rfl, h⟩⟩

@[simp] theorem finishes_exec {f : σ → σ} :
    Finishes json (.exec f :: body) m m' ↔ Finishes json body (f m) m' := Iff.rfl

theorem finishes_read {update : Json → Update σ} :
    Finishes json (.read key update :: body) m m' ↔
      ∃ v, json.find? key = some v ∧
        ∃ m₁, update v m = (.ok (), m₁) ∧ Finishes json body m₁ m' := by
  unfold Finishes
  rw [runBody]
  rcases hfind : json.find? key with _ | v
  · simp
  · rcases hupd : update v m with ⟨_ | _, m₁⟩
    · simp [hupd]
    · simp [hupd]

@[simp] theorem finishes_assign {get : Json → Except Exn α} {set : α → σ → σ} :
    Finishes json (assign key get set :: body) m m' ↔
      ∃ a, json.Reads key get a ∧ Finishes json body (set a m) m' := by
  unfold assign Json.Reads
  rw [finishes_read]
  simp only [store_eq_ok]
  constructor
  · rintro ⟨v, hv, m₁, ⟨a, ha, rfl⟩, h⟩
    exact ⟨a, ⟨v, hv, ha⟩, h⟩
  · rintro ⟨a, ⟨v, hv, ha⟩, h⟩
    exact ⟨v, hv, _, ⟨a, ha, rfl⟩, h⟩

@[simp] theorem finishes_forEach {get : Json → Except Exn α} {set : α → σ → σ} :
    Finishes json (forEach key (store get set) :: body) m m' ↔
      ∃ as, json.Reads key (fun v => v.items.mapM get) as ∧
        Finishes json body (as.foldl (fun m a => set a m) m) m' := by
  unfold forEach Json.Reads
  rw [finishes_read]
  simp only [loop_store_eq_ok]
  constructor
  · rintro ⟨v, hv, m₁, ⟨as, has, rfl⟩, h⟩
    exact ⟨as, ⟨v, hv, has⟩, h⟩
  · rintro ⟨as, ⟨v, hv, has⟩, h⟩
    exact ⟨v, hv, _, ⟨as, has, rfl⟩, h⟩

/-- A body that runs to its end found every member it reads. -/
theorem Finishes.isSome (h : Finishes json body m m') :
    ∀ key ∈ keys body, (json.find? key).isSome := by
  induction body generalizing m with
  | nil => exact fun key hkey => absurd hkey List.not_mem_nil
  | cons s body ih =>
    cases s with
    | exec f => exact ih (finishes_exec.mp h)
    | read key update =>
      obtain ⟨v, hv, m₁, -, hrest⟩ := finishes_read.mp h
      intro k hk
      rcases List.mem_cons.mp hk with rfl | hk
      · rw [hv]
        rfl
      · exact ih hrest k hk

/-! ## What a body reads -/

/-- Only `json` itself is indexed, with the keys of the body. -/
theorem mem_reads {r : Json × String} (h : r ∈ (runBody json body m).reads) :
    r.1 = json ∧ r.2 ∈ keys body := by
  induction body generalizing m with
  | nil => exact absurd h List.not_mem_nil
  | cons s body ih =>
    cases s with
    | exec f => exact ih h
    | read key update =>
      rw [runBody] at h
      have hkeys : keys (.read key update :: body) = key :: keys body := rfl
      rw [hkeys]
      rcases hfind : json.find? key with _ | v
      · rw [hfind] at h
        rw [List.mem_singleton.mp h]
        exact ⟨rfl, List.mem_cons_self⟩
      · rcases hupd : update v m with ⟨_ | _, m₁⟩ <;> simp only [hfind, hupd] at h
        · rw [List.mem_singleton.mp h]
          exact ⟨rfl, List.mem_cons_self⟩
        · rcases List.mem_cons.mp h with rfl | h
          · exact ⟨rfl, List.mem_cons_self⟩
          · exact (ih h).imp_right (List.mem_cons_of_mem _)

/-- A body all of whose keys are there breaks no precondition. -/
theorem outcome_ne_undefined (h : ∀ key ∈ keys body, (json.find? key).isSome) :
    (runBody json body m).outcome ≠ .error .undefined := by
  induction body generalizing m with
  | nil => exact fun h => nomatch h
  | cons s body ih =>
    cases s with
    | exec f => exact ih h
    | read key update =>
      have hkey : (json.find? key).isSome := h key List.mem_cons_self
      have hrest : ∀ k ∈ keys body, (json.find? k).isSome := fun k hk =>
        h k (List.mem_cons_of_mem _ hk)
      obtain ⟨v, hfind⟩ := Option.isSome_iff_exists.mp hkey
      rw [runBody]
      rcases hupd : update v m with ⟨_ | _, m₁⟩ <;> simp only [hfind, hupd]
      · exact fun h => nomatch h
      · exact ih hrest

/-- Two values with the same members under the keys of a body are the same to it. -/
theorem runBody_congr {json' : Json} (h : ∀ key ∈ keys body, json.find? key = json'.find? key)
    (m : σ) :
    (runBody json body m).outcome = (runBody json' body m).outcome ∧
      (runBody json body m).self = (runBody json' body m).self := by
  induction body generalizing m with
  | nil => exact ⟨rfl, rfl⟩
  | cons s body ih =>
    cases s with
    | exec f => exact ih h (f m)
    | read key update =>
      have hrest : ∀ k ∈ keys body, json.find? k = json'.find? k := fun k hk =>
        h k (List.mem_cons_of_mem _ hk)
      rw [runBody, runBody, ← h key List.mem_cons_self]
      rcases json.find? key with _ | v
      · exact ⟨rfl, rfl⟩
      · rcases hupd : update v m with ⟨_ | _, m₁⟩
        · simp only [hupd, and_self]
        · simp only [hupd]
          exact ih hrest m₁

end Body

/-! ## Decoder classes -/

/-- A decoder class with members `σ` and result `τ`. -/
structure JsonClass (σ τ : Type) where
  fromJson : Json → σ → Run σ
  value : σ → τ

namespace JsonClass

variable {σ τ : Type}

/-- `value()` after `fromJson(json)`, on an object whose members are `m` before. -/
def decode (c : JsonClass σ τ) (m : σ) (json : Json) : Except Fault τ :=
  (c.fromJson json m).outcome.map fun _ => c.value (c.fromJson json m).self

theorem decode_eq_ok {c : JsonClass σ τ} {m : σ} {json : Json} {v : τ} :
    c.decode m json = .ok v ↔
      (c.fromJson json m).outcome = .ok () ∧ c.value (c.fromJson json m).self = v := by
  unfold decode
  rcases (c.fromJson json m).outcome with e | ⟨⟩ <;> simp [Except.map]

/-- A decoder that does not return throws, as long as it breaks no precondition. -/
theorem decode_thrown {c : JsonClass σ τ} {m : σ} {json : Json}
    (hdef : (c.fromJson json m).outcome ≠ .error .undefined)
    (h : ∀ v, c.decode m json ≠ .ok v) : ∃ e, c.decode m json = .error (.thrown e) := by
  unfold decode at h ⊢
  rcases hout : (c.fromJson json m).outcome with e | ⟨⟩
  · cases e with
    | thrown e => exact ⟨e, rfl⟩
    | undefined => exact absurd hout hdef
  · rw [hout] at h
    exact absurd rfl (h _)

/-- `fromJson(json)` returns and `value()` is `v`, whatever the members held before. -/
def Decodes (c : JsonClass σ τ) (json : Json) (v : τ) : Prop := ∀ m, c.decode m json = .ok v

/-- `fromJson(json)` throws, whatever the members held before. -/
def Throws (c : JsonClass σ τ) (json : Json) : Prop :=
  ∀ m, ∃ e, c.decode m json = .error (.thrown e)

/-- Every value is decoded or refused, and the members held before do not matter. -/
def Definite (c : JsonClass σ τ) : Prop := ∀ json, (∃ v, c.Decodes json v) ∨ c.Throws json

section Definite

variable {c : JsonClass σ τ} {json : Json} {m : σ} {v : τ}

theorem Throws.decode_ne_ok (h : c.Throws json) : c.decode m json ≠ .ok v := by
  obtain ⟨e, he⟩ := h m
  rw [he]
  exact fun h => nomatch h

theorem Decodes.unique [Nonempty σ] {w : τ} (hv : c.Decodes json v) (hw : c.Decodes json w) :
    v = w := by
  obtain ⟨m⟩ := ‹Nonempty σ›
  exact Except.ok.inj ((hv m).symm.trans (hw m))

/-- One successful run tells what all runs give. -/
theorem Definite.decodes_of_eq_ok (hc : c.Definite) (h : c.decode m json = .ok v) :
    c.Decodes json v := by
  rcases hc json with ⟨w, hw⟩ | ht
  · have hwv : w = v := Except.ok.inj ((hw m).symm.trans h)
    rwa [hwv] at hw
  · exact absurd h ht.decode_ne_ok

theorem Definite.exists_decodes_iff (hc : c.Definite) (m : σ) :
    (∃ v, c.Decodes json v) ↔ ∃ v, c.decode m json = .ok v := by
  constructor
  · rintro ⟨v, hv⟩
    exact ⟨v, hv m⟩
  · rintro ⟨v, hv⟩
    exact ⟨v, hc.decodes_of_eq_ok hv⟩

theorem Definite.throws_iff [Nonempty σ] (hc : c.Definite) :
    c.Throws json ↔ ∀ v, ¬ c.Decodes json v := by
  constructor
  · intro ht v hv
    obtain ⟨m⟩ := ‹Nonempty σ›
    exact ht.decode_ne_ok (hv m)
  · intro h
    exact (hc json).resolve_left fun ⟨v, hv⟩ => h v hv

/-- A list is decoded element by element, or one of its elements is refused. -/
theorem Definite.decodes_or_throws (hc : c.Definite) (xs : List Json) :
    (∃ vs, List.Forall₂ c.Decodes xs vs) ∨ ∃ x ∈ xs, c.Throws x := by
  by_cases hall : ∀ x ∈ xs, ∃ v, c.Decodes x v
  · exact Or.inl (exists_forall₂_iff.mpr hall)
  · obtain ⟨x, hx⟩ := not_forall.mp hall
    obtain ⟨hmem, hnone⟩ := Classical.not_imp.mp hx
    exact Or.inr ⟨x, hmem, (hc x).resolve_left hnone⟩

theorem decodes_of_spec [Nonempty σ] {P : Json → τ → Prop}
    (hspec : ∀ m json v, c.decode m json = .ok v ↔ P json v) : c.Decodes json v ↔ P json v := by
  constructor
  · intro h
    obtain ⟨m⟩ := ‹Nonempty σ›
    exact (hspec m json v).mp (h m)
  · exact fun h m => (hspec m json v).mpr h

end Definite

/-- What a new decoder gives for a value, if it does not throw. -/
def value? [Inhabited σ] (c : JsonClass σ τ) (json : Json) : Option τ :=
  (c.decode default json).toOption

theorem Decodes.value?_eq [Inhabited σ] {c : JsonClass σ τ} {json : Json} {v : τ}
    (h : c.Decodes json v) : c.value? json = some v := by
  unfold value?
  rw [h default]
  rfl

theorem Throws.value?_eq [Inhabited σ] {c : JsonClass σ τ} {json : Json} (h : c.Throws json) :
    c.value? json = none := by
  obtain ⟨e, he⟩ := h default
  unfold value?
  rw [he]
  rfl

/-- A class with one member, set to what a conversion of the whole value gives. -/
def scalar {α : Type} (get : Json → Except Exn α) : JsonClass α α where
  fromJson json m :=
    match get json with
    | .ok a => ⟨.ok (), a, []⟩
    | .error e => ⟨.error (.thrown e), m, []⟩
  value m := m

theorem scalar_decode {α : Type} (get : Json → Except Exn α) (m : α) (json : Json) :
    (scalar get).decode m json = (get json).mapError .thrown := by
  rw [decode]
  simp only [scalar]
  rcases get json with e | a <;> rfl

theorem scalar_decode_eq_ok {α : Type} {get : Json → Except Exn α} {m a : α} {json : Json} :
    (scalar get).decode m json = .ok a ↔ get json = .ok a := by
  rw [scalar_decode]
  rcases get json with e | b <;> simp [Except.mapError]

theorem scalar_definite {α : Type} (get : Json → Except Exn α) : (scalar get).Definite := by
  intro json
  unfold Decodes Throws
  simp only [scalar_decode]
  rcases get json with e | a
  · exact Or.inr fun _ => ⟨e, rfl⟩
  · exact Or.inl ⟨a, fun _ => rfl⟩

end JsonClass

/-- A class whose body runs only after a check that the required members are there. -/
structure ObjectClass (σ τ : Type) where
  required : List String
  body : List (Statement σ)
  value : σ → τ

namespace ObjectClass

variable {σ τ : Type}

/-- `fromJson`: refuse with `e` if the check fails, else run the body. -/
def toClass (c : ObjectClass σ τ) (check : Json → List String → Bool) (e : Exn) :
    JsonClass σ τ where
  fromJson json m := if check json c.required then runBody json c.body m
    else ⟨.error (.thrown e), m, []⟩
  value := c.value

variable {c : ObjectClass σ τ} {check : Json → List String → Bool} {e : Exn} {m : σ} {json : Json}

theorem decode_eq_ok {v : τ} :
    (c.toClass check e).decode m json = .ok v ↔
      check json c.required = true ∧ ∃ m', Finishes json c.body m m' ∧ c.value m' = v := by
  rw [JsonClass.decode_eq_ok]
  simp only [toClass, Finishes]
  split_ifs with h <;> simp [h]

/-- Where the check asks just for the members that the body reads anyway, the class returns
whenever its body runs to the end. -/
theorem decode_eq_ok_of_exact {v : τ}
    (hcheck : check json c.required = true ↔
      json.isObject = true ∧ ∀ key ∈ c.required, (json.find? key).isSome)
    (hne : c.required ≠ []) (hsub : c.required ⊆ keys c.body) :
    (c.toClass check e).decode m json = .ok v ↔
      ∃ m', Finishes json c.body m m' ∧ c.value m' = v := by
  rw [decode_eq_ok, hcheck]
  refine ⟨fun h => h.2, fun h => ⟨?_, h⟩⟩
  obtain ⟨m', hfin, -⟩ := h
  have hall : ∀ key ∈ c.required, (json.find? key).isSome := fun key hkey =>
    hfin.isSome key (hsub hkey)
  obtain ⟨key, hkey⟩ := List.exists_mem_of_ne_nil _ hne
  exact ⟨Json.isObject_of_find? (hall key hkey), hall⟩

/-- A failed check throws before anything is read or written. -/
theorem fromJson_of_not_check (h : ¬ check json c.required = true) :
    (c.toClass check e).fromJson json m = ⟨.error (.thrown e), m, []⟩ := if_neg h

/-- Two values that the check does not tell apart, with the same members under the keys of the
body, are decoded alike. -/
theorem decode_congr {json' : Json} (hcheck : check json c.required = check json' c.required)
    (h : ∀ key ∈ keys c.body, json.find? key = json'.find? key) :
    (c.toClass check e).decode m json = (c.toClass check e).decode m json' := by
  obtain ⟨houtcome, hself⟩ := runBody_congr h m
  unfold JsonClass.decode toClass
  simp only [← hcheck]
  split_ifs
  · simp only [houtcome, hself]
  · rfl

/-- The body runs only behind the check, so keys that are all required are all there. -/
theorem fromJson_safe (hkeys : ∀ key ∈ keys c.body, key ∈ c.required)
    (hcheck : check json c.required = true → ∀ key ∈ c.required, (json.find? key).isSome) :
    (∀ r ∈ ((c.toClass check e).fromJson json m).reads, r.1 = json ∧ (json.find? r.2).isSome) ∧
      ((c.toClass check e).fromJson json m).outcome ≠ .error .undefined := by
  by_cases h : check json c.required = true
  · have hrun : (c.toClass check e).fromJson json m = runBody json c.body m := if_pos h
    rw [hrun]
    refine ⟨fun r hr => ?_, outcome_ne_undefined fun key hkey => hcheck h key (hkeys key hkey)⟩
    obtain ⟨hjson, hkey⟩ := mem_reads hr
    exact ⟨hjson, hcheck h _ (hkeys _ hkey)⟩
  · rw [fromJson_of_not_check h]
    exact ⟨fun r hr => absurd hr List.not_mem_nil, fun h => nomatch h⟩

end ObjectClass
