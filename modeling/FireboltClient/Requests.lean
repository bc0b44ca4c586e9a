import FireboltClient.Helpers
import FireboltClient.JsonData

/-!
# The requests

What each method with parameters hands to the helper. `parameters` starts as null and becomes an
object with the first member that is set; a member that is set again is overwritten.
-/

namespace Firebolt

/-! ## Building parameters -/

/-- The value of `nlohmann::json parameters;`: null until a member is set. -/
def Params : Type := Option (StdMap String Json)

namespace Params

def null : Params := none

/-- `parameters[key] = value;` -/
def set (p : Params) (key : String) (value : Json) : Params :=
  some ((p.getD .empty).insert key value)

def toJson : Params → Json
  | none => .null
  | some m => .object m.entries

def find? (key : String) (p : Params) : Option Json := p.bind fun m => m.find? key

end Params

/-- A statement that sets a member, or sets it only if an optional argument is there. -/
abbrev Assignment : Type := String × Option Json

/-- `parameters[key] = value;` -/
def put (key : String) (value : Json) : Assignment := (key, some value)

/-- `if (value) { parameters[key] = *value; }` -/
def putIf {α : Type} (key : String) (value : Option α) (toJson : α → Json) : Assignment :=
  (key, value.map toJson)

namespace Params

/-- Run an assignment. -/
def assign (p : Params) (a : Assignment) : Params :=
  match a.2 with
  | some value => p.set a.1 value
  | none => p

def build (assignments : List Assignment) : Params := assignments.foldl assign null

end Params

/-- `parameters` after the assignments, as it is handed to the helper. -/
def parameters (assignments : List Assignment) : Json := (Params.build assignments).toJson

/-- `nlohmann::json` made from a `uint32_t`. -/
def ofUInt32 (n : UInt32) : Json := .number_unsigned n.toUInt64

@[simp] theorem number?_ofUInt32 (n : UInt32) : (ofUInt32 n).number? = some (n.toNat : ℚ) := by
  simp [ofUInt32, Json.number?]

variable (T : JsonTypes)

/-- `toString(table, value)` as a JSON value. -/
def JsonTypes.name {α : Type} [DecidableEq α] (table : EnumType α) (a : α) : Json :=
  .string (T.toString table a)

/-! ## Metrics -/

namespace Metrics.MetricsImpl

open Firebolt.JsonData Metrics.JsonData

/-- `nlohmann::json paramString = nlohmann::json::object();` and the loop over the map. -/
def paramString (parameters : StdMap String String) : Json :=
  .object (parameters.entries.foldl (fun m e => m.insert e.1 (.string e.2)) StdMap.empty).entries

def startContent (entityId : Option String) (agePolicy : Option AgePolicy) : Request where
  methodName := "Metrics.startContent"
  parameters := parameters [
    putIf "entityId" entityId .string,
    putIf "agePolicy" agePolicy (T.name AgePolicyEnum)]

def stopContent (entityId : Option String) (agePolicy : Option AgePolicy) : Request where
  methodName := "Metrics.stopContent"
  parameters := parameters [
    putIf "entityId" entityId .string,
    putIf "agePolicy" agePolicy (T.name AgePolicyEnum)]

def page (pageId : String) (agePolicy : Option AgePolicy) : Request where
  methodName := "Metrics.page"
  parameters := parameters [
    put "pageId" (.string pageId),
    putIf "agePolicy" agePolicy (T.name AgePolicyEnum)]

def error (type : ErrorType) (code description : String) (visible : Bool)
    (params : Option (StdMap String String)) (agePolicy : Option AgePolicy) : Request where
  methodName := "Metrics.error"
  parameters := parameters [
    put "type" (T.name ErrorTypeEnum type),
    put "code" (.string code),
    put "description" (.string description),
    put "visible" (.boolean visible),
    putIf "parameters" params paramString,
    putIf "agePolicy" agePolicy (T.name AgePolicyEnum)]

/-- The methods that report an entity and nothing else. -/
def media (methodName entityId : String) (agePolicy : Option AgePolicy) : Request where
  methodName := methodName
  parameters := parameters [
    put "entityId" (.string entityId),
    putIf "agePolicy" agePolicy (T.name AgePolicyEnum)]

def mediaLoadStart (entityId : String) (agePolicy : Option AgePolicy) : Request :=
  media T "Metrics.mediaLoadStart" entityId agePolicy

def mediaPlay (entityId : String) (agePolicy : Option AgePolicy) : Request :=
  media T "Metrics.mediaPlay" entityId agePolicy

def mediaPlaying (entityId : String) (agePolicy : Option AgePolicy) : Request :=
  media T "Metrics.mediaPlaying" entityId agePolicy

def mediaPause (entityId : String) (agePolicy : Option AgePolicy) : Request :=
  media T "Metrics.mediaPause" entityId agePolicy

def mediaWaiting (entityId : String) (agePolicy : Option AgePolicy) : Request :=
  media T "Metrics.mediaWaiting" entityId agePolicy

/-- The methods that report an entity and one number. -/
def mediaNumber (methodName key entityId : String) (value : Float)
    (agePolicy : Option AgePolicy) : Request where
  methodName := methodName
  parameters := parameters [
    put "entityId" (.string entityId),
    put key (.number_float value),
    putIf "agePolicy" agePolicy (T.name AgePolicyEnum)]

def mediaSeeking (entityId : String) (target : Float) (agePolicy : Option AgePolicy) : Request :=
  mediaNumber T "Metrics.mediaSeeking" "target" entityId target agePolicy

def mediaSeeked (entityId : String) (position : Float) (agePolicy : Option AgePolicy) : Request :=
  mediaNumber T "Metrics.mediaSeeked" "position" entityId position agePolicy

def mediaRateChanged (entityId : String) (rate : Float) (agePolicy : Option AgePolicy) : Request :=
  mediaNumber T "Metrics.mediaRateChanged" "rate" entityId rate agePolicy

def mediaRenditionChanged (entityId : String) (bitrate width height : UInt32)
    (profile : Option String) (agePolicy : Option AgePolicy) : Request where
  methodName := "Metrics.mediaRenditionChanged"
  parameters := parameters [
    put "entityId" (.string entityId),
    put "bitrate" (ofUInt32 bitrate),
    put "width" (ofUInt32 width),
    put "height" (ofUInt32 height),
    putIf "profile" profile .string,
    putIf "agePolicy" agePolicy (T.name AgePolicyEnum)]

def mediaEnded (entityId : String) (agePolicy : Option AgePolicy) : Request :=
  media T "Metrics.mediaEnded" entityId agePolicy

def event (schema data : String) (agePolicy : Option AgePolicy) : Request where
  methodName := "Metrics.event"
  parameters := parameters [
    put "schema" (.string schema),
    put "data" (.string data),
    putIf "agePolicy" agePolicy (T.name AgePolicyEnum)]

def appInfo (build : String) : Request where
  methodName := "Metrics.appInfo"
  parameters := parameters [put "build" (.string build)]

end Metrics.MetricsImpl

/-! ## Discovery -/

namespace Discovery.DiscoveryImpl

open Firebolt.JsonData

/-- `watched` and `watchedV2` differ in the name only. -/
def watchedAs (methodName entityId : String) (progress : Option Float) (completed : Option Bool)
    (watchedOn : Option String) (agePolicy : Option AgePolicy) : Request where
  methodName := methodName
  parameters := parameters [
    put "entityId" (.string entityId),
    putIf "progress" progress .number_float,
    putIf "completed" completed .boolean,
    putIf "watchedOn" watchedOn .string,
    putIf "agePolicy" agePolicy (T.name AgePolicyEnum)]

def watched (entityId : String) (progress : Option Float) (completed : Option Bool)
    (watchedOn : Option String) (agePolicy : Option AgePolicy) : Request :=
  watchedAs T "Discovery.watched" entityId progress completed watchedOn agePolicy

def watchedV2 (entityId : String) (progress : Option Float) (completed : Option Bool)
    (watchedOn : Option String) (agePolicy : Option AgePolicy) : Request :=
  watchedAs T "Discovery.watchedV2" entityId progress completed watchedOn agePolicy

end Discovery.DiscoveryImpl

/-! ## TextToSpeech -/

namespace TextToSpeech.TextToSpeechImpl

def listVoicesRequest (language : String) : Request where
  methodName := "TextToSpeech.listvoices"
  parameters := parameters [put "language" (.string language)]

def speakRequest (text : String) : Request where
  methodName := "TextToSpeech.speak"
  parameters := parameters [put "text" (.string text)]

/-- The methods that name a speech call. -/
def speechRequest (methodName : String) (speechId : SpeechId) : Request where
  methodName := methodName
  parameters := parameters [put "speechid" (ofUInt32 speechId)]

def pauseRequest (speechId : SpeechId) : Request :=
  speechRequest "TextToSpeech.pause" speechId

def resumeRequest (speechId : SpeechId) : Request :=
  speechRequest "TextToSpeech.resume" speechId

def cancelRequest (speechId : SpeechId) : Request :=
  speechRequest "TextToSpeech.cancel" speechId

def getSpeechStateRequest (speechId : SpeechId) : Request :=
  speechRequest "TextToSpeech.getspeechstate" speechId

end TextToSpeech.TextToSpeechImpl

/-! ## Lifecycle -/

namespace Lifecycle.LifecycleImpl

def close (reason : CloseType) : Request where
  methodName := "Lifecycle2.close"
  parameters := parameters [put "type" (T.name Lifecycle.JsonData.CloseReasonEnum reason)]

end Lifecycle.LifecycleImpl

/-! ## All calls -/

/-- A call of one of the methods above, with its arguments. -/
inductive Call
  | startContent (entityId : Option String) (agePolicy : Option AgePolicy)
  | stopContent (entityId : Option String) (agePolicy : Option AgePolicy)
  | page (pageId : String) (agePolicy : Option AgePolicy)
  | error (type : Metrics.ErrorType) (code description : String) (visible : Bool)
      (params : Option (StdMap String String)) (agePolicy : Option AgePolicy)
  | mediaLoadStart (entityId : String) (agePolicy : Option AgePolicy)
  | mediaPlay (entityId : String) (agePolicy : Option AgePolicy)
  | mediaPlaying (entityId : String) (agePolicy : Option AgePolicy)
  | mediaPause (entityId : String) (agePolicy : Option AgePolicy)
  | mediaWaiting (entityId : String) (agePolicy : Option AgePolicy)
  | mediaSeeking (entityId : String) (target : Float) (agePolicy : Option AgePolicy)
  | mediaSeeked (entityId : String) (position : Float) (agePolicy : Option AgePolicy)
  | mediaRateChanged (entityId : String) (rate : Float) (agePolicy : Option AgePolicy)
  | mediaRenditionChanged (entityId : String) (bitrate width height : UInt32)
      (profile : Option String) (agePolicy : Option AgePolicy)
  | mediaEnded (entityId : String) (agePolicy : Option AgePolicy)
  | event (schema data : String) (agePolicy : Option AgePolicy)
  | appInfo (build : String)
  | watched (entityId : String) (progress : Option Float) (completed : Option Bool)
      (watchedOn : Option String) (agePolicy : Option AgePolicy)
  | watchedV2 (entityId : String) (progress : Option Float) (completed : Option Bool)
      (watchedOn : Option String) (agePolicy : Option AgePolicy)
  | listVoices (language : String)
  | speak (text : String)
  | pause (speechId : TextToSpeech.SpeechId)
  | resume (speechId : TextToSpeech.SpeechId)
  | cancel (speechId : TextToSpeech.SpeechId)
  | getSpeechState (speechId : TextToSpeech.SpeechId)
  | close (reason : Lifecycle.CloseType)

open Metrics Discovery TextToSpeech Lifecycle in
/-- What the call hands to the helper. -/
def Call.request : Call → Request
  | startContent entityId agePolicy => MetricsImpl.startContent T entityId agePolicy
  | stopContent entityId agePolicy => MetricsImpl.stopContent T entityId agePolicy
  | page pageId agePolicy => MetricsImpl.page T pageId agePolicy
  | error type code description visible params agePolicy =>
    MetricsImpl.error T type code description visible params agePolicy
  | mediaLoadStart entityId agePolicy => MetricsImpl.mediaLoadStart T entityId agePolicy
  | mediaPlay entityId agePolicy => MetricsImpl.mediaPlay T entityId agePolicy
  | mediaPlaying entityId agePolicy => MetricsImpl.mediaPlaying T entityId agePolicy
  | mediaPause entityId agePolicy => MetricsImpl.mediaPause T entityId agePolicy
  | mediaWaiting entityId agePolicy => MetricsImpl.mediaWaiting T entityId agePolicy
  | mediaSeeking entityId target agePolicy =>
    MetricsImpl.mediaSeeking T entityId target agePolicy
  | mediaSeeked entityId position agePolicy =>
    MetricsImpl.mediaSeeked T entityId position agePolicy
  | mediaRateChanged entityId rate agePolicy =>
    MetricsImpl.mediaRateChanged T entityId rate agePolicy
  | mediaRenditionChanged entityId bitrate width height profile agePolicy =>
    MetricsImpl.mediaRenditionChanged T entityId bitrate width height profile agePolicy
  | mediaEnded entityId agePolicy => MetricsImpl.mediaEnded T entityId agePolicy
  | event schema data agePolicy => MetricsImpl.event T schema data agePolicy
  | appInfo build => MetricsImpl.appInfo build
  | watched entityId progress completed watchedOn agePolicy =>
    DiscoveryImpl.watched T entityId progress completed watchedOn agePolicy
  | watchedV2 entityId progress completed watchedOn agePolicy =>
    DiscoveryImpl.watchedV2 T entityId progress completed watchedOn agePolicy
  | listVoices language => TextToSpeechImpl.listVoicesRequest language
  | speak text => TextToSpeechImpl.speakRequest text
  | pause speechId => TextToSpeechImpl.pauseRequest speechId
  | resume speechId => TextToSpeechImpl.resumeRequest speechId
  | cancel speechId => TextToSpeechImpl.cancelRequest speechId
  | getSpeechState speechId => TextToSpeechImpl.getSpeechStateRequest speechId
  | close reason => LifecycleImpl.close T reason

end Firebolt
