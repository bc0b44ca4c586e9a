import FireboltClient.Replies
import FireboltClient.RoundTrip
import FireboltClient.Transducer

/-!
# Remote calls

At the other end of the connection the platform reads every request by its OpenRPC names alone,
serves it from an object with the methods of the API, and replies with JSON that shows the result.
`remote_transparent`: an application that calls the client gets, call by call, what it would get
from that object itself.
-/

namespace Firebolt

open OpenRpc

/-! ## The platform's side -/

namespace OpenRpc

/-- Every documented method, with how its parameters are read. -/
def methods : List (String × (Json → Option ApiCall)) :=
  PlainCall.all.map (fun p => (p.documentedName, fun _ => some (.plain p))) ++
    Method.all.map fun m => (m.name, fun params => (m.read params).map .call)

/-- The call that a request stands for. -/
def readCall (r : Request) : Option ApiCall :=
  (List.lookup r.methodName methods).bind fun read => read r.parameters

theorem nodup_methods : (methods.map Prod.fst).Nodup := by
  have hnames : methods.map Prod.fst =
      PlainCall.all.map PlainCall.documentedName ++ Method.all.map Method.name := by
    simp only [methods, List.map_append, List.map_map]
    rfl
  rw [hnames]
  simp [PlainCall.all, PlainCall.documentedName, Method.all, Method.name]

/-- A request is read as the call that made it. -/
theorem readCall_request {T : JsonTypes} {H : IHelper} (hN : T.NamesValues) (a : ApiCall) :
    readCall (a.request T H) = some a := by
  unfold readCall
  cases a with
  | plain p =>
    have hmem : (p.documentedName, fun _ => some (.plain p)) ∈ methods :=
      List.mem_append_left _ (List.mem_map_of_mem p.mem_all)
    rw [ApiCall.methodName_request_plain, SortedAssoc.lookup_of_mem nodup_methods hmem]
    rfl
  | call c =>
    have hmem : (c.method.name, fun params => (c.method.read params).map .call) ∈ methods :=
      List.mem_append_right _ (List.mem_map_of_mem c.method.mem_all)
    have hname : ((ApiCall.call c).request T H).methodName = c.method.name :=
      methodName_request c
    rw [hname, SortedAssoc.lookup_of_mem nodup_methods hmem]
    exact congrArg (Option.map ApiCall.call) (read_parameters hN c)

end OpenRpc

/-- An object with the methods of the API: what a call returns, and the state it leaves. -/
def Api (τ : Type) : Type := (a : ApiCall) → τ → Except Error a.reply.Value × τ

/-- What was called and what it returned. -/
abbrev Answered : Type := (a : ApiCall) × Except Error a.reply.Value

def Api.step {τ : Type} (A : Api τ) (t : τ) (a : ApiCall) : τ × Answered :=
  ((A a t).2, ⟨a, (A a t).1⟩)

/-! ## The client's side -/

/-- A helper over a connection: how it behaves in each state, and what a request does to it. -/
structure Link (σ : Type) where
  helper : σ → IHelper
  send : Request → σ → σ

namespace Link

variable {σ τ : Type}

/-- The application calls a method of the client. There is one `send`, of the request of the call,
as every method hands that request to the helper once and returns the answer
(`ApiCall.result_eq`). -/
def step (T : JsonTypes) (L : Link σ) (s : σ) (a : ApiCall) : σ × Answered :=
  (L.send (a.request T (L.helper s)) s, ⟨a, a.result T (L.helper s)⟩)

/-- The platform at the other end serves the object `A`: a request that stands for a call is
replied to with the error of the call, or with JSON that shows its value. -/
structure Serves (L : Link σ) (A : Api τ) (R : σ → τ → Prop) : Prop where
  gets : ∀ s, (L.helper s).Gets
  invokes : ∀ s, (L.helper s).Invokes
  error : ∀ {s t r a e}, R s t → readCall r = some a → (A a t).1 = .error e →
    (L.helper s).reply r = .error e
  value : ∀ {s t r a v}, R s t → readCall r = some a → (A a t).1 = .ok v →
    ∃ json, (L.helper s).reply r = .ok json ∧ a.reply.Shows json v
  send : ∀ {s t r a}, R s t → readCall r = some a → R (L.send r s) (A a t).2

variable {T : JsonTypes} {L : Link σ} {A : Api τ} {R : σ → τ → Prop}

/-- One call: the request is read as the call, and the reply decodes to the value it shows. -/
theorem step_agrees (hT : T.ChecksExactly) (hL : T.LooksUp) (hN : T.NamesValues)
    (hA : T.DecodesArrays) (hR : T.ReadsScalars) (hU : T.ReadsUnsigned) (hserves : L.Serves A R)
    (s : σ) (t : τ) (a : ApiCall) (h : R s t) :
    R (L.step T s a).1 (A.step t a).1 ∧ (L.step T s a).2 = (A.step t a).2 := by
  have hread : readCall (a.request T (L.helper s)) = some a := readCall_request hN a
  refine ⟨hserves.send h hread, ?_⟩
  have hresult : a.result T (L.helper s) = (A a t).1 := by
    rw [ApiCall.result_eq]
    rcases hserved : (A a t).1 with e | v
    · exact Reply.ask_error (hserves.gets s) (hserves.invokes s) (hserves.error h hread hserved)
    · obtain ⟨json, hreply, hshows⟩ := hserves.value h hread hserved
      exact Reply.ask_of_shows hT hL hA hR hU (hserves.gets s) (hserves.invokes s) hreply hshows
  show (⟨a, a.result T (L.helper s)⟩ : Answered) = ⟨a, (A a t).1⟩
  rw [hresult]

/-- Over any sequence of calls, with any arguments, the client returns what the platform's object
returns, call by call, and the platform's object ends in the same state. -/
theorem remote_transparent (hT : T.ChecksExactly) (hL : T.LooksUp) (hN : T.NamesValues)
    (hA : T.DecodesArrays) (hR : T.ReadsScalars) (hU : T.ReadsUnsigned) (hserves : L.Serves A R)
    {s : σ} {t : τ} (h : R s t) (calls : List ApiCall) :
    R (Transducer.run (L.step T) s calls).1 (Transducer.run A.step t calls).1 ∧
      (Transducer.run (L.step T) s calls).2 = (Transducer.run A.step t calls).2 :=
  Transducer.run_agrees (step_agrees hT hL hN hA hR hU hserves) h calls

/-! ### The documented behaviour -/

/-- A platform that serves `A` in its own state, and writes each result. -/
def documented (A : Api τ) : Link τ where
  helper t := .documented fun r =>
    match readCall r with
    | none => .error (.other 0)
    | some a => (A a t).1.map a.reply.write
  send r t :=
    match readCall r with
    | none => t
    | some a => (A a t).2

theorem documented_serves {A : Api τ}
    (hA : ∀ a t v, (A a t).1 = .ok v → a.reply.Writable v) : (documented A).Serves A Eq where
  gets _ := IHelper.documented_gets _
  invokes _ := IHelper.documented_invokes _
  error {s t r a e} h hread hserved := by
    subst h
    simp only [documented, IHelper.documented, hread, hserved]
    rfl
  value {s t r a v} h hread hserved := by
    subst h
    refine ⟨a.reply.write v, ?_, Reply.shows_write (hA a s v hserved)⟩
    simp only [documented, IHelper.documented, hread, hserved]
    rfl
  send {s t r a} h hread := by
    subst h
    simp only [documented, hread]

/-- A platform that counts what it has been asked to speak, and pauses what it has counted. -/
def speaker : Api UInt32
  | .call (.speak _), n => (.ok ⟨n, 0, true⟩, n + 1)
  | .call (.pause speechId), n => (.ok ⟨if speechId < n then 0 else 1, speechId < n⟩, n)
  | _, n => (.error (.other 1), n)

theorem speaker_writable {a : ApiCall} {n : UInt32} {v : a.reply.Value}
    (h : (speaker a n).1 = .ok v) : a.reply.Writable v := by
  unfold speaker at h
  split at h
  · trivial
  · trivial
  · exact absurd h (by simp)

/-- Two texts are spoken under two ids, and only these can be paused. -/
theorem remote_transparent_speaker :
    (Transducer.run (step .documented (documented speaker)) 7
      [.call (.speak "one"), .call (.speak "two"), .call (.pause 8), .call (.pause 9),
        .plain .uptime]).2 =
      [⟨.call (.speak "one"), .ok ⟨7, 0, true⟩⟩, ⟨.call (.speak "two"), .ok ⟨8, 0, true⟩⟩,
        ⟨.call (.pause 8), .ok ⟨0, true⟩⟩, ⟨.call (.pause 9), .ok ⟨1, false⟩⟩,
        ⟨.plain .uptime, .error (.other 1)⟩] :=
  (remote_transparent JsonTypes.documented_checksExactly JsonTypes.documented_looksUp
    JsonTypes.documented_namesValues JsonTypes.documented_decodesArrays
    JsonTypes.documented_readsScalars JsonTypes.documented_readsUnsigned
    (documented_serves fun _ _ _ => speaker_writable) rfl _).2.trans rfl

end Link

end Firebolt
