import FireboltClient.OpenRpc
import FireboltClient.Requests
import Mathlib.Data.List.Nodup

/-!
# Requests read back

A reader that knows only the OpenRPC names takes each parameter of a request and recovers the
call. What is stored under a key is told by `find?_build`; the rest is one reader for each type of
argument.
-/

namespace Firebolt

/-! ## What the assignments leave -/

namespace Params

variable {as : List Assignment} {key : String}

theorem find?_set_self (p : Params) (key : String) (v : Json) :
    (p.set key v).find? key = some v := StdMap.find?_insert_self _ _ _

theorem find?_set_of_ne (p : Params) {key key' : String} (h : key' ≠ key) (v : Json) :
    (p.set key v).find? key' = p.find? key' := by
  show ((p.getD .empty).insert key v).find? key' = p.find? key'
  rw [StdMap.find?_insert_of_ne _ h]
  cases p with
  | none => rfl
  | some m => rfl

theorem find?_assign_of_ne (p : Params) {a : Assignment} (h : key ≠ a.1) :
    (p.assign a).find? key = p.find? key := by
  unfold assign
  rcases a.2 with _ | v
  · rfl
  · exact find?_set_of_ne p h v

theorem find?_assign_self (p : Params) (a : Assignment) :
    (p.assign a).find? a.1 = a.2.orElse fun _ => p.find? a.1 := by
  unfold assign
  rcases a.2 with _ | v
  · rfl
  · exact find?_set_self p a.1 v

theorem find?_foldl_of_not_mem (p : Params) (h : key ∉ as.map Prod.fst) :
    (as.foldl assign p).find? key = p.find? key := by
  induction as generalizing p with
  | nil => rfl
  | cons a as ih =>
    rw [List.map_cons, List.mem_cons, not_or] at h
    rw [List.foldl_cons, ih _ h.2, find?_assign_of_ne p h.1]

/-- A key that is assigned once holds what was assigned, if anything was. -/
theorem find?_foldl (p : Params) (hnodup : (as.map Prod.fst).Nodup) (key : String)
    (hp : p.find? key = none) :
    (as.foldl assign p).find? key = (List.lookup key as).join := by
  induction as generalizing p with
  | nil => exact hp
  | cons a as ih =>
    obtain ⟨hnot, hrest⟩ := List.nodup_cons.mp hnodup
    rw [List.foldl_cons]
    by_cases hkey : key = a.1
    · subst hkey
      rw [find?_foldl_of_not_mem _ hnot, find?_assign_self, hp, List.lookup_cons_self]
      simp
    · rw [ih _ hrest (by rw [find?_assign_of_ne p hkey, hp]), List.lookup_cons,
        beq_false_of_ne hkey]

/-- An object stays one. -/
theorem isSome_foldl_assign (as : List Assignment) (m : StdMap String Json) :
    (as.foldl assign (some m)).isSome := by
  induction as generalizing m with
  | nil => rfl
  | cons a as ih =>
    obtain ⟨k, _ | v⟩ := a
    · exact ih m
    · exact ih _

theorem find?_build (hnodup : (as.map Prod.fst).Nodup) (key : String) :
    (build as).find? key = (List.lookup key as).join :=
  find?_foldl null hnodup key rfl

end Params

/-- The names whose flag is set. -/
def select : List String → List Bool → List String
  | k :: ks, b :: bs => if b then k :: select ks bs else select ks bs
  | _, _ => []

/-- The keys that the assignments set. -/
def supplied (as : List Assignment) : List String :=
  select (as.map Prod.fst) (as.map fun a => a.2.isSome)

/-- Null if there are no keys, else an object with just these keys. -/
def HasKeys (json : Json) (ks : List String) : Prop :=
  (json = .null ∧ ks = []) ∨
    ∃ m, json = .object m ∧ ks ≠ [] ∧ ∀ key, key ∈ m.map Prod.fst ↔ key ∈ ks

section Parameters

variable {as : List Assignment} {key : String}

theorem supplied_cons (key : String) (v : Option Json) (as : List Assignment) :
    supplied ((key, v) :: as) = if v.isSome then key :: supplied as else supplied as := rfl

theorem find?_parameters (hnodup : (as.map Prod.fst).Nodup) (key : String) :
    (parameters as).find? key = (List.lookup key as).join := by
  rw [← Params.find?_build hnodup key]
  unfold parameters
  rcases Params.build as with _ | m <;> rfl

theorem mem_supplied_iff (hnodup : (as.map Prod.fst).Nodup) :
    key ∈ supplied as ↔ ((List.lookup key as).join).isSome := by
  induction as with
  | nil => simp [supplied, select]
  | cons a as ih =>
    obtain ⟨hnot, hrest⟩ := List.nodup_cons.mp hnodup
    obtain ⟨k, v⟩ := a
    by_cases hkey : key = k
    · subst hkey
      have hnone : (List.lookup key as).join.isSome = false := by
        have hfind : List.lookup key as = none := by
          refine List.lookup_eq_none_iff.mpr fun a ha => bne_iff_ne.mpr fun heq => ?_
          exact hnot (List.mem_map.mpr ⟨a, ha, heq.symm⟩)
        rw [hfind]
        rfl
      cases v with
      | none => simp [supplied_cons, ih hrest, hnone]
      | some v => simp [supplied_cons]
    · rw [List.lookup_cons, beq_false_of_ne hkey, ← ih hrest]
      cases v with
      | none => simp [supplied_cons]
      | some v => simp [supplied_cons, hkey]

/-- Setting anything makes an object. -/
theorem parameters_eq_null_iff : parameters as = .null ↔ supplied as = [] := by
  unfold parameters Params.build
  induction as with
  | nil => exact ⟨fun _ => rfl, fun _ => rfl⟩
  | cons a as ih =>
    obtain ⟨k, _ | v⟩ := a
    · exact ih
    · refine ⟨fun h => ?_, fun h => absurd h (List.cons_ne_nil _ _)⟩
      obtain ⟨m, hm⟩ := Option.isSome_iff_exists.mp
        (Params.isSome_foldl_assign as (StdMap.empty.insert k v))
      have hm' : ((k, some v) :: as).foldl Params.assign Params.null = some m := hm
      rw [hm'] at h
      exact absurd h (by simp [Params.toJson])

/-- The key set of the parameters is what the assignments set. -/
theorem hasKeys_parameters (hnodup : (as.map Prod.fst).Nodup) :
    HasKeys (parameters as) (supplied as) := by
  have hkeys := find?_parameters hnodup
  by_cases hnull : parameters as = .null
  · exact Or.inl ⟨hnull, parameters_eq_null_iff.mp hnull⟩
  · obtain ⟨m, hm⟩ : ∃ m, parameters as = .object m := by
      unfold parameters at hnull ⊢
      rcases hbuild : Params.build as with _ | m
      · rw [hbuild] at hnull
        exact absurd rfl hnull
      · exact ⟨m.entries, rfl⟩
    refine Or.inr ⟨m, hm, fun h => hnull (parameters_eq_null_iff.mpr h), fun key => ?_⟩
    rw [mem_supplied_iff hnodup, ← hkeys key, hm]
    show _ ↔ (List.lookup key m).isSome
    rw [List.lookup_isSome_iff, List.mem_map]
    simp only [beq_iff_eq, @eq_comm _ key]

end Parameters

/-! ## Reading by name -/

/-- The method that a call calls. -/
def Call.method : Call → OpenRpc.Method
  | .startContent .. => .startContent
  | .stopContent .. => .stopContent
  | .page .. => .page
  | .error .. => .error
  | .mediaLoadStart .. => .mediaLoadStart
  | .mediaPlay .. => .mediaPlay
  | .mediaPlaying .. => .mediaPlaying
  | .mediaPause .. => .mediaPause
  | .mediaWaiting .. => .mediaWaiting
  | .mediaSeeking .. => .mediaSeeking
  | .mediaSeeked .. => .mediaSeeked
  | .mediaRateChanged .. => .mediaRateChanged
  | .mediaRenditionChanged .. => .mediaRenditionChanged
  | .mediaEnded .. => .mediaEnded
  | .event .. => .event
  | .appInfo .. => .appInfo
  | .watched .. => .watched
  | .watchedV2 .. => .watchedV2
  | .listVoices .. => .listvoices
  | .speak .. => .speak
  | .pause .. => .pause
  | .resume .. => .resume
  | .cancel .. => .cancel
  | .getSpeechState .. => .getspeechstate
  | .close .. => .close

/-- Which optional arguments a call supplies, in the order of `Method.optional`. -/
def Call.present : Call → List Bool
  | startContent entityId agePolicy | stopContent entityId agePolicy =>
    [entityId.isSome, agePolicy.isSome]
  | page _ agePolicy | mediaLoadStart _ agePolicy | mediaPlay _ agePolicy
  | mediaPlaying _ agePolicy | mediaPause _ agePolicy | mediaWaiting _ agePolicy
  | mediaEnded _ agePolicy | mediaSeeking _ _ agePolicy | mediaSeeked _ _ agePolicy
  | mediaRateChanged _ _ agePolicy | event _ _ agePolicy => [agePolicy.isSome]
  | error _ _ _ _ params agePolicy => [params.isSome, agePolicy.isSome]
  | mediaRenditionChanged _ _ _ _ profile agePolicy => [profile.isSome, agePolicy.isSome]
  | watched _ progress completed watchedOn agePolicy
  | watchedV2 _ progress completed watchedOn agePolicy =>
    [progress.isSome, completed.isSome, watchedOn.isSome, agePolicy.isSome]
  | appInfo _ | listVoices _ | speak _ | pause _ | resume _ | cancel _ | getSpeechState _
  | close _ => []

/-- The names of the parameters a call supplies: the required ones, and the optional ones whose
argument is there. -/
def Call.names (c : Call) : List String :=
  c.method.required ++ select c.method.optional c.present

namespace OpenRpc

def string? : Json → Option String
  | .string s => some s
  | _ => none

def boolean? : Json → Option Bool
  | .boolean b => some b
  | _ => none

def number? : Json → Option Float
  | .number_float d => some d
  | _ => none

def unsigned? : Json → Option UInt32
  | .number_unsigned n => if n.toNat < 2 ^ 32 then some n.toUInt32 else none
  | _ => none

/-- A string of an enumeration. -/
def named? {α : Type} (names : String → Option α) (json : Json) : Option α :=
  (string? json).bind names

/-- A flat map from strings to strings. -/
def flatMap? : Json → Option (StdMap String String)
  | .object m => do
    let entries ← m.mapM fun e => (string? e.2).map fun s => (e.1, s)
    return entries.foldl (fun m e => m.insert e.1 e.2) .empty
  | _ => none

/-- A required parameter. -/
def param? {α : Type} (params : Json) (name : String) (read : Json → Option α) : Option α :=
  (params.find? name).bind read

/-- Absent is not an error. -/
def readOpt {α : Type} (value : Option Json) (read : Json → Option α) : Option (Option α) :=
  match value with
  | none => some none
  | some v => (read v).map some

/-- An optional parameter. -/
def optParam? {α : Type} (params : Json) (name : String) (read : Json → Option α) :
    Option (Option α) :=
  readOpt (params.find? name) read

/-- Read the parameters of a method, each by its name. -/
def Method.read (params : Json) : Method → Option Call
  | startContent => do
    return .startContent (← optParam? params "entityId" string?)
      (← optParam? params "agePolicy" (named? agePolicy?))
  | stopContent => do
    return .stopContent (← optParam? params "entityId" string?)
      (← optParam? params "agePolicy" (named? agePolicy?))
  | page => do
    return .page (← param? params "pageId" string?)
      (← optParam? params "agePolicy" (named? agePolicy?))
  | error => do
    return .error (← param? params "type" (named? errorType?)) (← param? params "code" string?)
      (← param? params "description" string?) (← param? params "visible" boolean?)
      (← optParam? params "parameters" flatMap?)
      (← optParam? params "agePolicy" (named? agePolicy?))
  | mediaLoadStart => do
    return .mediaLoadStart (← param? params "entityId" string?)
      (← optParam? params "agePolicy" (named? agePolicy?))
  | mediaPlay => do
    return .mediaPlay (← param? params "entityId" string?)
      (← optParam? params "agePolicy" (named? agePolicy?))
  | mediaPlaying => do
    return .mediaPlaying (← param? params "entityId" string?)
      (← optParam? params "agePolicy" (named? agePolicy?))
  | mediaPause => do
    return .mediaPause (← param? params "entityId" string?)
      (← optParam? params "agePolicy" (named? agePolicy?))
  | mediaWaiting => do
    return .mediaWaiting (← param? params "entityId" string?)
      (← optParam? params "agePolicy" (named? agePolicy?))
  | mediaSeeking => do
    return .mediaSeeking (← param? params "entityId" string?) (← param? params "target" number?)
      (← optParam? params "agePolicy" (named? agePolicy?))
  | mediaSeeked => do
    return .mediaSeeked (← param? params "entityId" string?) (← param? params "position" number?)
      (← optParam? params "agePolicy" (named? agePolicy?))
  | mediaRateChanged => do
    return .mediaRateChanged (← param? params "entityId" string?) (← param? params "rate" number?)
      (← optParam? params "agePolicy" (named? agePolicy?))
  | mediaRenditionChanged => do
    return .mediaRenditionChanged (← param? params "entityId" string?)
      (← param? params "bitrate" unsigned?) (← param? params "width" unsigned?)
      (← param? params "height" unsigned?) (← optParam? params "profile" string?)
      (← optParam? params "agePolicy" (named? agePolicy?))
  | mediaEnded => do
    return .mediaEnded (← param? params "entityId" string?)
      (← optParam? params "agePolicy" (named? agePolicy?))
  | event => do
    return .event (← param? params "schema" string?) (← param? params "data" string?)
      (← optParam? params "agePolicy" (named? agePolicy?))
  | appInfo => do
    return .appInfo (← param? params "build" string?)
  | watched => do
    return .watched (← param? params "entityId" string?) (← optParam? params "progress" number?)
      (← optParam? params "completed" boolean?) (← optParam? params "watchedOn" string?)
      (← optParam? params "agePolicy" (named? agePolicy?))
  | watchedV2 => do
    return .watchedV2 (← param? params "entityId" string?) (← optParam? params "progress" number?)
      (← optParam? params "completed" boolean?) (← optParam? params "watchedOn" string?)
      (← optParam? params "agePolicy" (named? agePolicy?))
  | listvoices => do
    return .listVoices (← param? params "language" string?)
  | speak => do
    return .speak (← param? params "text" string?)
  | pause => do
    return .pause (← param? params "speechid" unsigned?)
  | resume => do
    return .resume (← param? params "speechid" unsigned?)
  | cancel => do
    return .cancel (← param? params "speechid" unsigned?)
  | getspeechstate => do
    return .getSpeechState (← param? params "speechid" unsigned?)
  | close => do
    return .close (← param? params "type" (named? closeType?))

end OpenRpc

/-! ## The round trip -/

open OpenRpc

section RoundTrip

variable {T : JsonTypes}

@[simp] theorem string?_string (s : String) : string? (.string s) = some s := rfl

@[simp] theorem boolean?_boolean (b : Bool) : boolean? (.boolean b) = some b := rfl

@[simp] theorem number?_number_float (d : Float) : number? (.number_float d) = some d := rfl

@[simp] theorem unsigned?_ofUInt32 (n : UInt32) : unsigned? (ofUInt32 n) = some n := by
  show (if n.toUInt64.toNat < 2 ^ 32 then some n.toUInt64.toUInt32 else none) = some n
  rw [if_pos (by rw [UInt32.toNat_toUInt64]; exact n.toNat_lt), UInt32.toUInt32_toUInt64]

theorem named?_name {α : Type} [DecidableEq α] (hT : T.NamesValues) {table : EnumType α}
    {names : String → Option α} (htable : ∀ e ∈ table, names e.1 = some e.2) {a : α}
    (ha : ∃ name, (name, a) ∈ table) : named? names (T.name table a) = some a := by
  obtain ⟨name, hname⟩ := ha
  exact htable _ (hT table name a hname)

theorem named?_agePolicy (hT : T.NamesValues) (a : AgePolicy) :
    named? agePolicy? (T.name JsonData.AgePolicyEnum a) = some a :=
  named?_name hT (by decide) (by cases a <;> simp [JsonData.AgePolicyEnum])

theorem named?_errorType (hT : T.NamesValues) (a : Metrics.ErrorType) :
    named? errorType? (T.name Metrics.JsonData.ErrorTypeEnum a) = some a :=
  named?_name hT (by decide) (by cases a <;> simp [Metrics.JsonData.ErrorTypeEnum])

theorem named?_closeType (hT : T.NamesValues) (a : Lifecycle.CloseType) :
    named? closeType? (T.name Lifecycle.JsonData.CloseReasonEnum a) = some a :=
  named?_name hT (by decide) (by cases a <;> simp [Lifecycle.JsonData.CloseReasonEnum])

theorem flatMap?_paramString (m : StdMap String String) :
    flatMap? (Metrics.MetricsImpl.paramString m) = some m := by
  have hwritten : (m.entries.foldl (fun m e => m.insert e.1 (.string e.2)) StdMap.empty).entries =
      m.entries.map fun e => (e.1, Json.string e.2) :=
    StdMap.entries_foldl_insert Json.string m.entries .empty m.sorted
      fun a ha => absurd ha List.not_mem_nil
  have hread : (m.entries.foldl (fun m e => m.insert e.1 e.2) StdMap.empty).entries = m.entries :=
    (StdMap.entries_foldl_insert id m.entries .empty m.sorted
      fun a ha => absurd ha List.not_mem_nil).trans (by simp [StdMap.empty])
  have hstrings : (m.entries.map fun e => (e.1, Json.string e.2)).mapM
      (fun e => (string? e.2).map fun s => (e.1, s)) = some m.entries := by
    rw [List.mapM_map]
    show m.entries.mapM (fun e => pure e) = some m.entries
    rw [List.mapM_pure, List.map_id']
    rfl
  unfold Metrics.MetricsImpl.paramString flatMap?
  rw [hwritten]
  show ((m.entries.map fun e => (e.1, Json.string e.2)).mapM
      (fun e => (string? e.2).map fun s => (e.1, s)) >>= fun entries =>
        some (entries.foldl (fun m e => m.insert e.1 e.2) .empty)) = some m
  rw [hstrings]
  exact congrArg some (StdMap.ext hread)

theorem param?_eq {as : List Assignment} (hnodup : (as.map Prod.fst).Nodup) (key : String)
    {α : Type} (read : Json → Option α) :
    param? (parameters as) key read = (List.lookup key as).join.bind read := by
  unfold param?
  rw [find?_parameters hnodup]

theorem optParam?_eq {as : List Assignment} (hnodup : (as.map Prod.fst).Nodup) (key : String)
    {α : Type} (read : Json → Option α) :
    optParam? (parameters as) key read = readOpt (List.lookup key as).join read := by
  unfold optParam?
  rw [find?_parameters hnodup]

/-- What `putIf` stores reads back, present or absent. -/
theorem readOpt_map {α : Type} (value : Option α) {toJson : α → Json} {read : Json → Option α}
    (h : ∀ a, read (toJson a) = some a) : readOpt (value.map toJson) read = some value := by
  cases value with
  | none => rfl
  | some a => exact congrArg (Option.map some) (h a)

theorem readOpt_string (value : Option String) :
    readOpt (value.map .string) string? = some value := readOpt_map value string?_string

theorem readOpt_boolean (value : Option Bool) :
    readOpt (value.map .boolean) boolean? = some value := readOpt_map value boolean?_boolean

theorem readOpt_number (value : Option Float) :
    readOpt (value.map .number_float) number? = some value :=
  readOpt_map value number?_number_float

theorem readOpt_flatMap (value : Option (StdMap String String)) :
    readOpt (value.map Metrics.MetricsImpl.paramString) flatMap? = some value :=
  readOpt_map value flatMap?_paramString

theorem readOpt_agePolicy (hT : T.NamesValues) (value : Option AgePolicy) :
    readOpt (value.map (T.name JsonData.AgePolicyEnum)) (named? agePolicy?) = some value :=
  readOpt_map value (named?_agePolicy hT)

open Metrics Discovery TextToSpeech Lifecycle

theorem methodName_request (c : Call) : (c.request T).methodName = c.method.name := by
  cases c <;> rfl

-- Unification is to find the assignments of a call, not to run them.
attribute [local irreducible] parameters

/-- What a call hands over is a list of assignments, each key assigned once. -/
theorem exists_assignments (c : Call) :
    ∃ as, (c.request T).parameters = parameters as ∧ (as.map Prod.fst).Nodup ∧
      supplied as = c.names := by
  cases c <;> refine ⟨_, rfl, ?_, ?_⟩ <;>
    simp [put, putIf, supplied, select, Call.names, Call.method, Call.present, Method.required,
      Method.optional]

/-- The keys of the parameters are the names of what the call supplies. -/
theorem hasKeys_request (c : Call) : HasKeys (c.request T).parameters c.names := by
  obtain ⟨as, has, hnodup, hsupplied⟩ := exists_assignments (T := T) c
  rw [has, ← hsupplied]
  exact hasKeys_parameters hnodup

attribute [local simp] MetricsImpl.startContent MetricsImpl.stopContent MetricsImpl.page
  MetricsImpl.error MetricsImpl.media MetricsImpl.mediaLoadStart MetricsImpl.mediaPlay
  MetricsImpl.mediaPlaying MetricsImpl.mediaPause MetricsImpl.mediaWaiting
  MetricsImpl.mediaNumber MetricsImpl.mediaSeeking MetricsImpl.mediaSeeked
  MetricsImpl.mediaRateChanged MetricsImpl.mediaRenditionChanged MetricsImpl.mediaEnded
  MetricsImpl.event MetricsImpl.appInfo DiscoveryImpl.watchedAs DiscoveryImpl.watched
  DiscoveryImpl.watchedV2 TextToSpeechImpl.listVoicesRequest TextToSpeechImpl.speakRequest
  TextToSpeechImpl.speechRequest TextToSpeechImpl.pauseRequest TextToSpeechImpl.resumeRequest
  TextToSpeechImpl.cancelRequest TextToSpeechImpl.getSpeechStateRequest LifecycleImpl.close in
/-- Reading each parameter by its name gives the call back. -/
theorem read_parameters (hT : T.NamesValues) (c : Call) :
    c.method.read (c.request T).parameters = some c := by
  cases c <;>
    simp [Call.request, Call.method, Method.read, put, putIf, param?_eq, optParam?_eq,
      List.lookup_cons, readOpt_string, readOpt_boolean, readOpt_number, readOpt_flatMap,
      readOpt_agePolicy hT, named?_errorType hT, named?_closeType hT]

theorem name_injective : Function.Injective Method.name := by
  have hnodup : (Method.all.map Method.name).Nodup := by simp [Method.all, Method.name]
  intro m m' h
  exact List.inj_on_of_nodup_map hnodup m.mem_all m'.mem_all h

theorem request_injective (hT : T.NamesValues) : Function.Injective (Call.request T) := by
  intro c c' h
  have hmethod : c.method = c'.method := by
    apply name_injective
    rw [← methodName_request (T := T) c, h, methodName_request]
  have hread := read_parameters hT c
  rw [h, hmethod, read_parameters hT c'] at hread
  exact (Option.some.inj hread).symm

/-- A request is null or has just the names of what the call supplies, and the call is recovered
from its method and its parameters. The request is what the method hands to the helper, and it
hands over nothing else (`ApiCall.result_eq`). -/
theorem request_roundTrip (hT : T.NamesValues) (c : Call) :
    (c.request T).methodName = c.method.name ∧
      HasKeys (c.request T).parameters c.names ∧
      c.method.read (c.request T).parameters = some c ∧
      ∀ c' : Call, c'.request T = c.request T → c' = c :=
  ⟨methodName_request c, hasKeys_request c, read_parameters hT c, fun _ h =>
    request_injective hT h⟩

end RoundTrip

/-- A present empty map is told apart from an absent one. -/
theorem request_roundTrip_emptyMap :
    let c := Call.error .Media "42" "lost" true (some .empty) none
    HasKeys (c.request .documented).parameters
        ["type", "code", "description", "visible", "parameters"] ∧
      c.method.read (c.request .documented).parameters = some c :=
  ⟨(request_roundTrip JsonTypes.documented_namesValues _).2.1,
    (request_roundTrip JsonTypes.documented_namesValues _).2.2.1⟩

end Firebolt
