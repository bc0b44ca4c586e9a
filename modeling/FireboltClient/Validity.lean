import FireboltClient.RoundTrip

/-!
# Valid requests

The schemas of the parameters, and which calls make requests that are valid under them. The client
checks no argument, so a request is valid just when the application has kept to the ranges and
formats that the specification gives.
-/

namespace Firebolt

namespace OpenRpc

/-! ## Schemas of parameters -/

/-- The tests of the formats, which JSON Schema leaves to the validator. -/
structure Formats where
  dateTime : String → Bool
  uri : String → Bool

def isLetter (c : Char) : Bool := ('a' ≤ c && c ≤ 'z') || ('A' ≤ c && c ≤ 'Z')

/-- `^[a-zA-Z]+([a-zA-Z0-9\-]*)$` -/
def isLocale (s : String) : Bool :=
  match s.toList with
  | [] => false
  | c :: cs => isLetter c && cs.all fun c => isLetter c || ('0' ≤ c && c ≤ '9') || c = '-'

def Locale : Schema := .stringWith isLocale

/-- Any string, or one of the listed strings; so any string. -/
def AgePolicy : Schema := fun json =>
  Schema.string json || Schema.stringWith (fun s => (agePolicy? s).isSome) json

def ErrorType : Schema := .stringWith fun s => (errorType? s).isSome

def CloseType : Schema := .stringWith fun s => (closeType? s).isSome

/-- Nothing yet, a fraction of the whole, or a number of seconds. -/
def MediaPosition : Schema :=
  .oneOf [.numberWith fun q => q = 0, .numberWith fun q => 0 < q ∧ q < 1,
    .integerWith fun n => 1 ≤ n ∧ n ≤ 86400]

def FlatMap : Schema :=
  .mapOf (.oneOf [.string, .numberWith fun _ => true, .boolean])

/-- The parameters of a method, each with its schema. -/
def Method.params (F : Formats) : Method → List (String × Schema)
  | startContent | stopContent => [("entityId", .string), ("agePolicy", AgePolicy)]
  | page => [("pageId", .string), ("agePolicy", AgePolicy)]
  | error =>
    [("type", ErrorType), ("code", .string), ("description", .string), ("visible", .boolean),
      ("parameters", FlatMap), ("agePolicy", AgePolicy)]
  | mediaLoadStart | mediaPlay | mediaPlaying | mediaPause | mediaWaiting | mediaEnded =>
    [("entityId", .string), ("agePolicy", AgePolicy)]
  | mediaSeeking => [("entityId", .string), ("target", MediaPosition), ("agePolicy", AgePolicy)]
  | mediaSeeked => [("entityId", .string), ("position", MediaPosition), ("agePolicy", AgePolicy)]
  | mediaRateChanged =>
    [("entityId", .string), ("rate", .numberWith fun _ => true), ("agePolicy", AgePolicy)]
  | mediaRenditionChanged =>
    [("entityId", .string), ("bitrate", .numberWith fun _ => true),
      ("width", .numberWith fun _ => true), ("height", .numberWith fun _ => true),
      ("profile", .string), ("agePolicy", AgePolicy)]
  | event => [("schema", .stringWith F.uri), ("data", .string), ("agePolicy", AgePolicy)]
  | appInfo => [("build", .string)]
  | watched | watchedV2 =>
    [("entityId", .string), ("progress", .numberWith fun q => 0 ≤ q), ("completed", .boolean),
      ("watchedOn", .stringWith F.dateTime), ("agePolicy", AgePolicy)]
  | listvoices => [("language", Locale)]
  | speak => [("text", .string)]
  | pause | resume | cancel | getspeechstate => [("speechid", SpeechId)]
  | close => [("type", CloseType)]

/-- The required parameters are there, and those that are there are valid under their schemas. -/
def Method.Valid (F : Formats) (m : Method) (params : Json) : Prop :=
  (∀ key ∈ m.required, (params.find? key).isSome) ∧
    ∀ p ∈ m.params F, ∀ v, params.find? p.1 = some v → p.2 v = true

end OpenRpc

/-! ## Arguments in range -/

/-- The number is 0, a fraction below 1, or a whole number up to 86400. -/
def IsMediaPosition (d : Float) : Prop :=
  ∃ q, Binary64.value d = some q ∧
    (q = 0 ∨ (0 < q ∧ q < 1) ∨ ∃ n : ℤ, q = n ∧ 1 ≤ n ∧ n ≤ 86400)

/-- The arguments are what the specification asks for. -/
def Call.InRange (F : OpenRpc.Formats) : Call → Prop
  | mediaSeeking _ target _ => IsMediaPosition target
  | mediaSeeked _ position _ => IsMediaPosition position
  | mediaRateChanged _ rate _ => ∃ q, Binary64.value rate = some q
  | event schema _ _ => F.uri schema = true
  | watched _ progress _ watchedOn _ | watchedV2 _ progress _ watchedOn _ =>
    (∀ d ∈ progress, ∃ q, Binary64.value d = some q ∧ 0 ≤ q) ∧
      ∀ s ∈ watchedOn, F.dateTime s = true
  | listVoices language => OpenRpc.isLocale language = true
  | _ => True

/-! ## Valid members -/

section Members

open OpenRpc

theorem mediaPosition_iff {json : Json} :
    MediaPosition json = true ↔ ∃ q, json.number? = some q ∧
      (q = 0 ∨ (0 < q ∧ q < 1) ∨ ∃ n : ℤ, q = n ∧ 1 ≤ n ∧ n ≤ 86400) := by
  have hapart : [Schema.numberWith fun q => q = 0, Schema.numberWith fun q => 0 < q ∧ q < 1,
      Schema.integerWith fun n => 1 ≤ n ∧ n ≤ 86400].Pairwise
        fun s s' => ¬ (s json = true ∧ s' json = true) := by
    simp only [List.pairwise_cons, List.mem_cons, List.not_mem_nil, or_false, forall_eq_or_imp,
      forall_eq, Schema.numberWith_iff, Schema.integerWith_iff, decide_eq_true_eq, false_implies,
      implies_true, List.Pairwise.nil, and_true]
    refine ⟨⟨?_, ?_⟩, ?_⟩
    · rintro ⟨⟨q, hq, rfl⟩, q', hq', hpos, -⟩
      obtain rfl := Option.some.inj (hq.symm.trans hq')
      exact lt_irrefl _ hpos
    · rintro ⟨⟨q, hq, rfl⟩, n, hn, hlo, -⟩
      have hzero : (n : ℚ) = 0 := Option.some.inj (hn.symm.trans hq)
      have hn0 : n = 0 := by exact_mod_cast hzero
      omega
    · rintro ⟨⟨q, hq, -, hlt⟩, n, hn, hlo, -⟩
      obtain rfl := Option.some.inj (hq.symm.trans hn)
      have hn1 : n < 1 := by exact_mod_cast hlt
      omega
  unfold MediaPosition
  rw [Schema.oneOf_iff hapart]
  simp only [List.mem_cons, List.not_mem_nil, or_false, exists_eq_or_imp, exists_eq_left,
    Schema.numberWith_iff, Schema.integerWith_iff, decide_eq_true_eq]
  constructor
  · rintro (⟨q, hq, h⟩ | ⟨q, hq, h⟩ | ⟨n, hn, h⟩)
    · exact ⟨q, hq, Or.inl h⟩
    · exact ⟨q, hq, Or.inr (Or.inl h)⟩
    · exact ⟨n, hn, Or.inr (Or.inr ⟨n, rfl, h⟩)⟩
  · rintro ⟨q, hq, h | h | ⟨n, rfl, h⟩⟩
    · exact Or.inl ⟨q, hq, h⟩
    · exact Or.inr (Or.inl ⟨q, hq, h⟩)
    · exact Or.inr (Or.inr ⟨n, hq, h⟩)

theorem exists_of_mapM_eq_some {α β : Type} {f : α → Option β} {xs : List α} {ys : List β}
    (h : xs.mapM f = some ys) {x : α} (hx : x ∈ xs) : ∃ y, f x = some y := by
  induction xs generalizing ys with
  | nil => exact absurd hx List.not_mem_nil
  | cons x' xs ih =>
    rw [List.mapM_cons] at h
    obtain ⟨y, hy, hrest⟩ := Option.bind_eq_some_iff.mp h
    obtain ⟨ys', hys, -⟩ := Option.bind_eq_some_iff.mp hrest
    rcases List.mem_cons.mp hx with rfl | hx
    · exact ⟨y, hy⟩
    · exact ih hys hx

/-- What reads as a map of strings is a flat map. -/
theorem flatMap_of_flatMap? {json : Json} {m : StdMap String String}
    (h : flatMap? json = some m) : FlatMap json = true := by
  cases json with
  | object ms =>
    obtain ⟨es, hes, -⟩ := Option.bind_eq_some_iff.mp h
    show ms.all _ = true
    rw [List.all_eq_true]
    intro e he
    obtain ⟨e', he'⟩ := exists_of_mapM_eq_some hes he
    obtain ⟨s, hs, -⟩ := Option.map_eq_some_iff.mp he'
    obtain ⟨key, v⟩ := e
    cases v with
    | string s => rfl
    | _ => exact absurd hs (by simp [string?])
  | _ => exact absurd h (by simp [flatMap?])

@[simp] theorem flatMap_paramString (m : StdMap String String) :
    FlatMap (Metrics.MetricsImpl.paramString m) = true :=
  flatMap_of_flatMap? (flatMap?_paramString m)

/-- A table whose names are all listed writes only listed names. -/
theorem stringWith_name {T : JsonTypes} {α : Type} [DecidableEq α] {table : EnumType α} {a : α}
    {names : String → Option α} (h : named? names (T.name table a) = some a) :
    Schema.stringWith (fun s => (names s).isSome) (T.name table a) = true := by
  have hnames : names (T.toString table a) = some a := h
  show (names (T.toString table a)).isSome = true
  rw [hnames]
  rfl

variable {T : JsonTypes}

@[simp] theorem string_valid (s : String) : Schema.string (.string s) = true := rfl

@[simp] theorem boolean_valid (b : Bool) : Schema.boolean (.boolean b) = true := rfl

@[simp] theorem stringWith_string (p : String → Bool) (s : String) :
    Schema.stringWith p (.string s) = p s := rfl

@[simp] theorem locale_string (s : String) : Locale (.string s) = isLocale s := rfl

@[simp] theorem agePolicy_name (a : Firebolt.AgePolicy) :
    OpenRpc.AgePolicy (T.name JsonData.AgePolicyEnum a) = true := rfl

@[simp] theorem number_ofUInt32 (n : UInt32) :
    Schema.numberWith (fun _ => true) (ofUInt32 n) = true :=
  Schema.numberWith_iff.mpr ⟨_, number?_ofUInt32 n, rfl⟩

@[simp] theorem speechId_ofUInt32 (n : UInt32) : SpeechId (ofUInt32 n) = true :=
  Schema.integer_iff.mpr ⟨n.toNat, by simp⟩

@[simp] theorem numberWith_float (p : ℚ → Bool) (d : Float) :
    Schema.numberWith p (.number_float d) = true ↔ ∃ q, Binary64.value d = some q ∧ p q = true :=
  Schema.numberWith_iff

@[simp] theorem mediaPosition_float (d : Float) :
    MediaPosition (.number_float d) = true ↔ IsMediaPosition d := mediaPosition_iff

theorem errorType_name (hT : T.NamesValues) (a : Metrics.ErrorType) :
    ErrorType (T.name Metrics.JsonData.ErrorTypeEnum a) = true :=
  stringWith_name (named?_errorType hT a)

theorem closeType_name (hT : T.NamesValues) (a : Lifecycle.CloseType) :
    CloseType (T.name Lifecycle.JsonData.CloseReasonEnum a) = true :=
  stringWith_name (named?_closeType hT a)

/-- Assigned members are valid one by one. -/
theorem valid_assignments_iff {as : List Assignment} {props : List (String × Schema)}
    (hkeys : as.map Prod.fst = props.map Prod.fst) (hnodup : (as.map Prod.fst).Nodup) :
    (∀ p ∈ props, ∀ v, (List.lookup p.1 as).join = some v → p.2 v = true) ↔
      List.Forall₂ (fun a p => ∀ v ∈ a.2, p.2 v = true) as props := by
  induction as generalizing props with
  | nil =>
    obtain rfl : props = [] := List.map_eq_nil_iff.mp hkeys.symm
    exact iff_of_true (fun p hp => absurd hp List.not_mem_nil) .nil
  | cons a as ih =>
    cases props with
    | nil => exact absurd hkeys (by simp)
    | cons p props =>
      obtain ⟨hkey, hrest⟩ := List.cons.inj hkeys
      obtain ⟨hnot, hnodup⟩ := List.nodup_cons.mp hnodup
      rw [List.forall_mem_cons, List.forall₂_cons, ← ih hrest hnodup]
      have hhead : List.lookup p.1 (a :: as) = some a.2 := by
        rw [← hkey]
        exact List.lookup_cons_self
      have htail : ∀ q ∈ props, List.lookup q.1 (a :: as) = List.lookup q.1 as := by
        intro q hq
        have hne : q.1 ≠ a.1 := by
          intro hqa
          rw [hrest, ← hqa] at hnot
          exact hnot (List.mem_map_of_mem hq)
        rw [List.lookup_cons, beq_false_of_ne hne]
      refine and_congr ?_ (forall₂_congr fun q hq => ?_)
      · rw [hhead]
        rfl
      · rw [htail q hq]

end Members

/-! ## Calls -/

open OpenRpc Metrics Discovery TextToSpeech Lifecycle

variable {T : JsonTypes}

-- Unification is to find the assignments of a call, not to run them.
attribute [local irreducible] parameters

/-- The assignments of a call go with the parameters of its method, and set valid members just
when the arguments are in range. -/
theorem exists_valid_assignments (hT : T.NamesValues) (F : Formats) (c : Call) :
    ∃ as, (c.request T).parameters = parameters as ∧
      as.map Prod.fst = (c.method.params F).map Prod.fst ∧ (as.map Prod.fst).Nodup ∧
        (List.Forall₂ (fun a p => ∀ v ∈ a.2, p.2 v = true) as (c.method.params F) ↔
          c.InRange F) := by
  cases c <;> refine ⟨_, rfl, rfl, by simp [put, putIf], ?_⟩ <;>
    simp [put, putIf, Call.method, Method.params, Call.InRange, errorType_name hT,
      closeType_name hT, Option.forall_mem_map, Option.mem_some_iff, -Option.mem_def]

theorem HasKeys.isSome_find? {json : Json} {ks : List String} (h : HasKeys json ks)
    {key : String} (hkey : key ∈ ks) : (json.find? key).isSome := by
  rcases h with ⟨-, rfl⟩ | ⟨m, rfl, -, hm⟩
  · exact absurd hkey List.not_mem_nil
  · obtain ⟨e, he, rfl⟩ := List.mem_map.mp ((hm key).mpr hkey)
    exact List.lookup_isSome_iff.mpr ⟨e, he, beq_self_eq_true e.1⟩

/-- Every required parameter of a request is there, and those that are there are valid under
their schemas just when the arguments of the call are in range. -/
theorem valid_request_iff (hT : T.NamesValues) (F : Formats) (c : Call) :
    c.method.Valid F (c.request T).parameters ↔ c.InRange F := by
  have hrequired : ∀ key ∈ c.method.required, ((c.request T).parameters.find? key).isSome :=
    fun key hkey => (hasKeys_request c).isSome_find? (List.mem_append_left _ hkey)
  obtain ⟨as, has, hkeys, hnodup, hvalid⟩ := exists_valid_assignments hT F c
  rw [← hvalid, ← valid_assignments_iff hkeys hnodup]
  have hfind : ∀ key, (c.request T).parameters.find? key = (List.lookup key as).join := by
    rw [has]
    exact find?_parameters hnodup
  constructor
  · rintro ⟨-, h⟩ p hp v hv
    exact h p hp v (by rw [hfind, hv])
  · intro h
    refine ⟨hrequired, fun p hp v hv => h p hp v ?_⟩
    rw [← hfind, hv]

/-- A language with an underscore goes out as it was given. -/
theorem valid_request_iff_locale :
    let F : Formats := { dateTime := fun _ => true, uri := fun _ => true }
    Method.listvoices.Valid F ((Call.listVoices "en-US").request .documented).parameters ∧
      ¬ Method.listvoices.Valid F ((Call.listVoices "en_US").request .documented).parameters := by
  intro F
  constructor
  · have hlocale : isLocale "en-US" = true := by decide
    exact (valid_request_iff JsonTypes.documented_namesValues F (.listVoices "en-US")).mpr hlocale
  · intro h
    have hlocale : isLocale "en_US" = true :=
      (valid_request_iff JsonTypes.documented_namesValues F (.listVoices "en_US")).mp h
    exact absurd hlocale (by decide)

end Firebolt
