import Switchboard.Feature.Basic
import Switchboard.Settings.Limits
/-!
Dispatchers: which feature answers a request.

A dispatcher holds the features of services in the order in which they were registered. Of the
features that serve the path and the verb of a request, one for that very verb comes before one for
every verb, then one with more constants before one with fewer, then one that lets fewer segments
follow, and then the one registered first.

The feature runs only if the caller has the access that it requires and the body of the request is
within the limits. The body is not read before the access is known to be enough.

* `Service.build` makes features of the drafts of a service, all of them or none.
* `Dispatcher.select` finds the feature, `Dispatcher.gate` decides whether it runs.
* `Dispatcher.dispatch` answers a request.
-/

namespace Switchboard

/-- Features below one base path. -/
structure Service (σ : Type) where
  name : String
  basePath : String
  drafts : List (Draft σ)

/-- The features of all services. -/
structure Dispatcher (σ : Type) where
  /-- The place that the counters of the features are named for. -/
  place : String
  settings : Settings.DispatchSettings
  features : List (Feature σ)
  /-- The number of features that were ever registered. -/
  registered : Nat

/-- Whether a request runs a feature. -/
inductive Admission (σ : Type) where
  | refused (response : Message)
  | admitted (feature : Feature σ) (context : Context) (request : Message)

variable {σ : Type}

/-! ### Services -/

namespace Service

/-- The non-empty segments of the base path. -/
def baseSegments (service : Service σ) : List String :=
  (Text.split '/' service.basePath).filter (· ≠ "")

/-- A description of a service. -/
def text (service : Service σ) : String :=
  Text.Quoted.record "Service"
    [("name", Text.Quoted.quote service.name),
      ("base_path", Text.Quoted.quote service.basePath),
      ("features", Text.decimal service.drafts.length)] false

/-- Makes features of drafts, with counters from a number on; the first fault counts. -/
def buildFrom (service : Service σ) (place : String) (number : Nat) :
    List (Draft σ) → Except FeatureFault (List (Feature σ))
  | [] => .ok []
  | draft :: rest =>
    match draft.build service.name service.baseSegments { place, number } with
    | .error fault => .error fault
    | .ok feature => (buildFrom service place (number + 1) rest).map (feature :: ·)

/-- Makes features of all drafts of a service. -/
def build (service : Service σ) (place : String) (number : Nat) :
    Except FeatureFault (List (Feature σ)) :=
  service.buildFrom place number service.drafts

end Service

/-! ### Ranks -/

namespace Feature

/-- Says whether a feature comes before another one that serves the same request, whatever the order
in which they were registered. -/
def outranks (one other : Feature σ) : Bool :=
  if one.verb.isSome ≠ other.verb.isSome then one.verb.isSome
  else if one.signature.constantCount ≠ other.signature.constantCount then
    other.signature.constantCount < one.signature.constantCount
  else one.signature.extent.toNat < other.signature.extent.toNat

/-- The first feature that none of the others outranks, where `best` comes before all of them. -/
def bestFrom (best : Feature σ) : List (Feature σ) → Feature σ
  | [] => best
  | feature :: rest => bestFrom (if feature.outranks best then feature else best) rest

/-- The first feature that none outranks. -/
def best? : List (Feature σ) → Option (Feature σ)
  | [] => none
  | feature :: rest => some (bestFrom feature rest)

end Feature

namespace Dispatcher

/-! ### Registering -/

/-- A dispatcher without features. -/
def empty (place : String) (settings : Settings.DispatchSettings) : Dispatcher σ :=
  { place, settings, features := [], registered := 0 }

/-- Registers the features of a service. -/
def register (dispatcher : Dispatcher σ) (service : Service σ) :
    Except FeatureFault (Dispatcher σ) :=
  (service.build dispatcher.place dispatcher.registered).map fun features =>
    { dispatcher with
      features := dispatcher.features ++ features
      registered := dispatcher.registered + features.length }

/-- Removes the features of a service. Returns how many they were. -/
def unregister (dispatcher : Dispatcher σ) (service : String) : Dispatcher σ × Nat :=
  let kept := dispatcher.features.filter fun feature => feature.service != service
  ({ dispatcher with features := kept }, dispatcher.features.length - kept.length)

/-- What can be told about the features. -/
def infos (dispatcher : Dispatcher σ) (hits : Counter → UInt64) : List FeatureInfo :=
  dispatcher.features.map fun feature => feature.info (hits feature.counter)

/-! ### Choosing a feature -/

/-- The features that serve a path. -/
def candidates (dispatcher : Dispatcher σ) (path : List String) : List (Feature σ) :=
  dispatcher.features.filter fun feature => feature.serves path

/-- The feature that answers a verb on a path. -/
def select (dispatcher : Dispatcher σ) (verb : Verb) (path : List String) : Option (Feature σ) :=
  Feature.best? ((dispatcher.candidates path).filter fun feature => feature.accepts verb)

/-- Adds a verb to a list that does not have it. -/
def addVerb (verbs : List String) (verb : String) : List String :=
  if verb ∈ verbs then verbs else verbs ++ [verb]

/-- The verbs that are served on a path. -/
def allowedVerbs (dispatcher : Dispatcher σ) (path : List String) : List String :=
  ((dispatcher.candidates path).map Feature.verbText).foldl addVerb []

/-! ### Answering -/

/-- The answer when no feature serves a verb on a path. -/
def unserved (dispatcher : Dispatcher σ) (verb : Verb) (uri : Uri) : Message :=
  match dispatcher.allowedVerbs uri.segments with
  | [] => Message.explain .notFound ("no feature matches " ++ verb.name ++ " " ++ uri.pathText)
  | allowed => Message.methodNotAllowed allowed
      (verb.name ++ " is not allowed on " ++ uri.pathText)

/-- The answer when the caller lacks access. -/
def denied (required granted : Access) : Message :=
  Message.explain .forbidden
    (required.text ++ " access required, caller has " ++ granted.text)

/-- The answer when the body of a request cannot be read. -/
def unreadable (fault : BodyFault) : Message :=
  let status : Status := match fault with
    | .overflow _ => .tooLarge
    | .timeout _ => .slowRequest
    | _ => .badRequest
  Message.explain status fault.message

/-- The answer when the body of a request is too long. -/
def tooLong (limit : Nat) : Message :=
  Message.explain .tooLarge
    ("request body exceeds the " ++ Text.decimal limit ++ " byte limit")

/-- The circumstances of a request to a feature. -/
def contextOf (feature : Feature σ) (verb : Verb) (uri : Uri) (granted : Access) : Context :=
  { service := feature.service, signature := feature.signature.written, verb, uri
    access := granted
    path := (feature.signature.capture? uri.segments).getD PathArguments.none }

/-- Decides whether a request runs a feature, and tells the time that it takes to read the body. -/
def gate (dispatcher : Dispatcher σ) (verb : Verb) (uri : Uri) (request : Message)
    (granted : Access) : Admission σ × Span :=
  match dispatcher.select verb uri.segments with
  | none => (.refused (dispatcher.unserved verb uri), Span.zero)
  | some feature =>
    if granted.permits feature.access then
      let limit := dispatcher.settings.maxBytes
      match request.memorize limit dispatcher.settings.bodyTimeout with
      | (.error fault, _, spent) => (.refused (unreadable fault), spent)
      | (.ok (), request, spent) =>
        if request.contentLength?.any (limit < ·) then (.refused (tooLong limit), spent)
        else (.admitted feature (contextOf feature verb uri granted) request, spent)
    else (.refused (denied feature.access granted), Span.zero)

/-- Answers a request of a caller with some access. -/
def dispatch (dispatcher : Dispatcher σ) (verb : Verb) (uri : Uri) (request : Message)
    (granted : Access) : Activity σ Message := do
  let (admission, spent) := dispatcher.gate verb uri request granted
  Activity.wait spent
  match admission with
  | .refused response => return response
  | .admitted feature context request => feature.execute context request

end Dispatcher

end Switchboard
