import FireboltClient.Api

/-!
# Getters

The fifteen methods whose reply goes through a decoder of `json_types`: the request they make, and
what they return for a reply.
-/

namespace Firebolt

/-- A method whose reply goes through a decoder of `json_types`, called with its arguments. -/
structure Getter where
  apiCall : ApiCall
  decoder : Decoder
  reply_eq : apiCall.reply = .decoded decoder

namespace Getter

variable (T : JsonTypes) (H : IHelper)

/-- What the getter asks for. -/
def request (g : Getter) : Request := g.apiCall.request T H

/-- The getter. -/
def call (g : Getter) : Except Error g.decoder.Value := g.apiCall.resultAs T H g.reply_eq

variable {T H} {g : Getter} {json : Json}

/-- Every getter hands its request and its decoder to the helper. -/
theorem call_eq (g : Getter) : g.call T H = H.get (g.decoder.cls T) (g.request T H) :=
  ApiCall.resultAs_eq g.reply_eq

/-- A getter returns what its decoder makes of the reply. -/
theorem call_decodes (hH : H.Gets) (hreply : H.reply (g.request T H) = .ok json)
    {v : g.decoder.Value} (hv : (g.decoder.cls T).Decodes json v) : g.call T H = .ok v := by
  rw [call_eq]
  exact hH.get_decodes hreply hv

/-- A getter returns `InvalidParams` when its decoder throws. -/
theorem call_throws (hH : H.Gets) (hreply : H.reply (g.request T H) = .ok json)
    (ht : (g.decoder.cls T).Throws json) : g.call T H = .error .InvalidParams := by
  rw [call_eq]
  exact hH.get_throws hreply ht

end Getter

end Firebolt
