import Switchboard.Activity
import Switchboard.Feature.Extraction
/-!
Features: handlers for verbs and paths, with stages before and after them.

A feature has a main stage. Prologues run before it, in order, and the first of them that does not
answer with a success gives the answer. Epilogues run after it, in order; each may ask for the
response that there is and replaces it by its own. A stage never fails: a fault of its arguments or
of its handler, and a handler that breaks off, become an answer that explains what went wrong.

* `Draft.build` checks what was declared and makes a feature of it.
* `Stage.run` runs one stage, `Feature.execute` all of them.
-/

namespace Switchboard

/-- What answers for a stage. -/
abbrev Handler (σ : Type) := Arguments → Activity σ (Except FeatureFault Message)

/-- A stage as it is declared. -/
structure StageDraft (σ : Type) where
  name : String
  parameters : List Parameter
  handler : Handler σ

/-- A stage whose parameters can be found. -/
structure Stage (σ : Type) where
  name : String
  plan : Plan
  handler : Handler σ

/-- A feature as it is declared. -/
structure Draft (σ : Type) where
  /-- A verb, or a star for every verb. -/
  verb : String
  signature : String
  access : Access
  description : Option String
  parameters : List Parameter
  handler : Option (Handler σ)
  prologues : List (StageDraft σ)
  epilogues : List (StageDraft σ)

/-- A feature that can be served. -/
structure Feature (σ : Type) where
  service : String
  /-- The verb that is served; without one, every verb is. -/
  verb : Option Verb
  signature : Signature
  access : Access
  description : Option String
  prologues : List (Stage σ)
  main : Stage σ
  epilogues : List (Stage σ)
  counter : Counter

/-- What can be told about a feature. -/
structure FeatureInfo where
  service : String
  verb : String
  signature : String
  access : Access
  description : Option String
  hits : UInt64
  deriving DecidableEq, Repr

variable {σ : Type}

/-! ### Building -/

/-- A feature that only has a verb and a signature. -/
def Draft.of (verb signature : String) : Draft σ :=
  { verb, signature, access := .anyone, description := none, parameters := [], handler := none
    prologues := [], epilogues := [] }

/-- A stage of which the parameters can be found. -/
def StageDraft.build (draft : StageDraft σ) (signature : Signature) :
    Except FeatureFault (Stage σ) :=
  (Plan.ofParameters draft.parameters signature).map fun plan =>
    { name := draft.name, plan, handler := draft.handler }

/-- Stages of which the parameters can be found; the first fault counts. -/
def StageDraft.buildAll (signature : Signature) :
    List (StageDraft σ) → Except FeatureFault (List (Stage σ))
  | [] => .ok []
  | draft :: rest => match draft.build signature with
    | .error fault => .error fault
    | .ok stage => (buildAll signature rest).map (stage :: ·)

namespace Draft

/-- The verb of a draft as it is compared. -/
def verbName (draft : Draft σ) : String := Text.upper (Text.trim draft.verb)

/-- The verb that is served, if it is one. -/
def verb? (draft : Draft σ) : Except FeatureFault (Option Verb) :=
  if draft.verbName = "*" then .ok none
  else match Verb.ofName? draft.verbName with
    | some verb => .ok (some verb)
    | none => .error (.invalidVerb draft.verbName)

/-- Checks a draft for a service below the segments of a base. -/
def build (draft : Draft σ) (service : String) (base : List String) (counter : Counter) :
    Except FeatureFault (Feature σ) := do
  let verb ← draft.verb?
  let signature ← (Signature.read base draft.signature).mapError fun fault =>
    .invalidSignature draft.signature fault.message
  let key := draft.verbName ++ ":" ++ signature.pattern
  let handler ← match draft.handler with
    | some handler => .ok handler
    | none => .error (.missingHandler key)
  let main ← StageDraft.build { name := key, parameters := draft.parameters, handler } signature
  let prologues ← StageDraft.buildAll signature draft.prologues
  let epilogues ← StageDraft.buildAll signature draft.epilogues
  return { service, verb, signature, access := draft.access, description := draft.description
           prologues, main, epilogues, counter }

end Draft

/-! ### Running -/

namespace Stage

/-- What is said of a handler that breaks off without words. -/
def silentPanic : String := "stage panicked"

/-- The answer of a stage whose handler has ended. -/
def answer : Except Panic (Except FeatureFault Message) → Message
  | .ok (.ok response) => response
  | .ok (.error fault) => fault.response
  | .error panic => (FeatureFault.handler (panic.words.getD silentPanic)).response

/-- Runs a stage. Returns its answer and what is left of what arguments are taken from. -/
def run (stage : Stage σ) (context : Context) (pending : Pending) :
    Activity σ (Message × Pending) :=
  match stage.plan.extract context pending with
  | (.error fault, pending) => return (fault.response, pending)
  | (.ok arguments, pending) => do
    let outcome ← Activity.attempt (stage.handler arguments)
    return (answer outcome, pending)

end Stage

namespace Feature

/-- Runs prologues. Returns the answer of the first that does not succeed, or the request as the
main stage gets it. -/
def runPrologues (context : Context) :
    List (Stage σ) → Message → Activity σ (Except Message Message)
  | [], request => return .ok request
  | stage :: rest, request => do
    let (response, pending) ← stage.run context { request, previous := none }
    if response.isSuccess then runPrologues context rest pending.request
    else return .error response

/-- Runs epilogues, each with the response that there is. -/
def runEpilogues (context : Context) :
    List (Stage σ) → Message → Message → Activity σ Message
  | [], _, response => return response
  | stage :: rest, request, response => do
    let (response, pending) ← stage.run context { request, previous := some response }
    runEpilogues context rest pending.request response

/-- Runs all stages of a feature for a request whose body is in memory. -/
def execute (feature : Feature σ) (context : Context) (request : Message) :
    Activity σ Message := do
  Activity.countHit feature.counter
  match ← runPrologues context feature.prologues request with
  | .error response => return response
  | .ok request =>
    let (response, pending) ← feature.main.run context { request, previous := none }
    runEpilogues context feature.epilogues pending.request response

/-! ### Telling about features -/

/-- Says whether a feature serves a verb. -/
def accepts (feature : Feature σ) (verb : Verb) : Bool :=
  match feature.verb with
  | some own => own == verb
  | none => true

/-- Says whether a feature serves a path. -/
def serves (feature : Feature σ) (path : List String) : Bool := feature.signature.accepts path

/-- The verb of a feature, or a star. -/
def verbText (feature : Feature σ) : String :=
  match feature.verb with
  | some verb => verb.name
  | none => "*"

/-- What can be told about a feature that was run a number of times. -/
def info (feature : Feature σ) (hits : UInt64) : FeatureInfo :=
  { service := feature.service, verb := feature.verbText, signature := feature.signature.pattern
    access := feature.access, description := feature.description, hits }

/-- A description of a feature that was run a number of times. -/
def text (feature : Feature σ) (hits : UInt64) : String :=
  Text.Quoted.record "Feature"
    [("service", Text.Quoted.quote feature.service),
      ("verb", Text.Quoted.optional Verb.name feature.verb),
      ("signature", feature.signature.text), ("access", feature.access.name),
      ("prologues", Text.decimal feature.prologues.length),
      ("epilogues", Text.decimal feature.epilogues.length), ("hits", Text.decimal hits.toNat)] false

end Feature

end Switchboard
