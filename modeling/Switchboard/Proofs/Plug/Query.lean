import Switchboard.Proofs.Endpoint.Resolution
import Switchboard.Proofs.Exchange.LocalAccess
import Switchboard.Proofs.Feature.Forms
import Switchboard.Proofs.Uri.Query
/-!
What plugs tell features by their queries.

The query of a plug is changed pair by pair and key by key. It is written anew or written on each
time, and read by the dispatcher in the end, so the same texts are coded and decoded many times. What
a feature reads are the pairs that the changes make of those that the plug began with.

* `Plug.queryPairs_requery` and `Plug.leaves_requery`: what one change does.
* `Uri.ServedAs`: as which URI a URI gets to a dispatcher, which never changes the query.
* `Plug.requeried` is all of it, over any changes and up to the stages that run.
-/

namespace Switchboard

variable {σ : Type}

/-! ### Changes of a query -/

/-- A change of the query of a plug. -/
inductive QueryChange where
  | add (key value : String)
  | addAll (pairs : List (String × String))
  | remove (key : String)

namespace QueryChange

/-- The pairs that a change makes of some pairs. -/
def apply (pairs : List (String × String)) : QueryChange → List (String × String)
  | .add key value => pairs ++ [(key, value)]
  | .addAll added => pairs ++ added
  | .remove key => pairs.filter fun pair => pair.1 ≠ key

/-- Says whether a change removes a key, be there pairs of it or not. -/
def removes : QueryChange → Bool
  | .remove _ => true
  | _ => false

end QueryChange

namespace Plug

/-- A plug with a change of its query. -/
def requery (plug : Plug σ) : QueryChange → Plug σ
  | .add key value => plug.withPair key value
  | .addAll pairs => plug.withPairs pairs
  | .remove key => plug.withoutKey key

theorem requery_eq (plug : Plug σ) (change : QueryChange) :
    plug.requery change = { plug with uri := (plug.requery change).uri } := by
  cases change <;> rfl

/-- **One change** does to the decoded pairs of a plug what it does to a list. -/
theorem queryPairs_requery (plug : Plug σ) (change : QueryChange) :
    (plug.requery change).uri.queryPairs = change.apply plug.uri.queryPairs := by
  cases change with
  | add key value => exact Uri.queryPairs_addPairs plug.uri [(key, value)]
  | addAll pairs => exact Uri.queryPairs_addPairs plug.uri pairs
  | remove key => exact Uri.queryPairs_withoutKey plug.uri key

theorem leaves_requery (plug : Plug σ) (change : QueryChange) :
    Uri.Leaves change.removes plug.uri (plug.requery change).uri := by
  cases change with
  | add key value => exact Uri.leaves_addPairs plug.uri [(key, value)]
  | addAll pairs => exact Uri.leaves_addPairs plug.uri pairs
  | remove key => exact Uri.leaves_withoutKey plug.uri key

/-! Any number of changes, one after the other. -/

theorem foldl_requery_eq (plug : Plug σ) (changes : List QueryChange) :
    changes.foldl requery plug = { plug with uri := (changes.foldl requery plug).uri } := by
  induction changes generalizing plug with
  | nil => rfl
  | cons change rest ih =>
    rw [List.foldl_cons, ih, requery_eq plug change]

theorem queryPairs_foldl_requery (plug : Plug σ) (changes : List QueryChange) :
    (changes.foldl requery plug).uri.queryPairs
      = changes.foldl QueryChange.apply plug.uri.queryPairs := by
  induction changes generalizing plug with
  | nil => rfl
  | cons change rest ih => rw [List.foldl_cons, ih, queryPairs_requery, List.foldl_cons]

theorem leaves_foldl_requery (plug : Plug σ) (changes : List QueryChange) :
    Uri.Leaves (changes.any QueryChange.removes) plug.uri (changes.foldl requery plug).uri := by
  induction changes generalizing plug with
  | nil => exact Uri.Leaves.refl plug.uri
  | cons change rest ih => exact (plug.leaves_requery change).trans (ih _)

end Plug

/-! ### What stages read -/

/-- The values of a name among pairs, up to the case of ASCII letters, in order. -/
def valuesNamed (name : String) (pairs : List (String × String)) : List String :=
  (pairs.filter fun pair => Text.lower pair.1 = Text.lower name).map Prod.snd

theorem Context.queryAll_eq (context : Context) (name : String) :
    context.queryAll name = valuesNamed name context.queryPairs := rfl

/-- **Says that a stage that runs reads some pairs** of the query: the values of every name, in its
circumstances and in those that are handed to its handler. -/
structure StageRun.Reads (run : StageRun σ) (pairs : List (String × String)) : Prop where
  all : run.context.queryPairs = pairs
  values : ∀ name, run.context.queryAll name = valuesNamed name pairs
  handed : ∀ arguments, run.received.arguments = .ok arguments →
    ∀ name, arguments.context.queryAll name = valuesNamed name pairs

/-- A handler is handed the circumstances of its stage. -/
theorem Plan.context_of_extract {plan : Plan} {context : Context} {pending : Pending}
    {arguments : Arguments} (found : (plan.extract context pending).1 = .ok arguments) :
    arguments.context = context := by
  unfold extract at found
  split at found
  · cases found
  · cases found
    rfl

/-- **All stages that a dispatcher runs** for a URI read the pairs of its query. -/
theorem Dispatcher.reads_of_mem_stageRuns {dispatcher : Dispatcher σ} {verb : Verb} {uri : Uri}
    {request : Message} {granted : Access} {scope : Scope} {world : World σ} {run : StageRun σ}
    (member : run ∈ dispatcher.stageRuns verb uri request granted scope world) :
    run.Reads uri.queryPairs := by
  obtain ⟨feature, context, memorized, spent, admitted, -, -, same, -⟩ := of_mem_stageRuns member
  obtain ⟨-, -, -, -, rfl⟩ := gate_admitted_iff.mp admitted
  have pairs : run.context.queryPairs = uri.queryPairs := by
    rw [same]
    rfl
  have values : ∀ name, run.context.queryAll name = valuesNamed name uri.queryPairs := by
    intro name
    rw [Context.queryAll_eq, pairs]
  refine ⟨pairs, values, fun arguments found name => ?_⟩
  rw [Plan.context_of_extract found, values]

/-! ### The way to a dispatcher -/

/-- A host in the same process leaves the query of what it serves as it is. -/
theorem LocalHost.query_of_score {host : LocalHost} {uri own : Uri} {score : Int}
    (scored : host.score uri = some (score, own)) : own.query = uri.query := by
  unfold LocalHost.score at scored
  split at scored
  · cases scored
    rfl
  · unfold LocalHost.ownUri? at scored
    cases found : host.aliases.find? (LocalHost.liesBelow uri) with
    | none =>
      rw [found] at scored
      cases scored
    | some root =>
      rw [found] at scored
      cases scored
      rfl

/-- **Says as which URI a URI gets to a dispatcher**: as itself, or as the one that a host in the same
process makes of it, by its name or by an alias. -/
inductive Uri.ServedAs (uri : Uri) : Uri → Prop
  | itself : ServedAs uri uri
  | host {host : LocalHost} {own : Uri} {score : Int} : host.score uri = some (score, own) →
      ServedAs uri own

theorem Uri.ServedAs.queryPairs_eq {uri own : Uri} (served : uri.ServedAs own) :
    own.queryPairs = uri.queryPairs := by
  have query : own.query = uri.query := by
    cases served with
    | itself => rfl
    | host scored => exact LocalHost.query_of_score scored
  rw [queryPairs, query]
  rfl

/-- A host in the same process that is found for a URI is asked for the one that it makes of it. -/
theorem Registry.servedAs_of_find {registry : Registry σ} {uri : Uri} {found : Match σ} {key : Nat}
    {host : LocalHost} {dispatcher : Dispatcher σ} (finds : registry.find uri = some found)
    (isHost : found.endpoint = Endpoint.localHost key host dispatcher) :
    uri.ServedAs found.uri := by
  have scored := (Registry.find_eq_some_iff.mp finds).scored
  rw [isHost] at scored
  exact Uri.ServedAs.host scored

/-- The stages that run in a hop to a host in the same process read the query of the plug. -/
theorem Exchange.reads_of_runs {exchange : Exchange σ} {plug : Plug σ} {verb : Verb}
    {request : Message} {timeout : Span} {scope : Scope} {world : World σ} {found : Match σ}
    {key : Nat} {host : LocalHost} {dispatcher : Dispatcher σ} {run : StageRun σ}
    (finds : exchange.registry.find plug.uri = some found)
    (isHost : found.endpoint = Endpoint.localHost key host dispatcher)
    (runs : exchange.Runs dispatcher (exchange.visit plug verb request timeout scope world) run) :
    run.Reads plug.uri.queryPairs := by
  obtain ⟨asked, uri, ⟨isAsked, routed⟩, member⟩ := runs
  have same : asked.found = found := Option.some.inj ((of_mem_asked isAsked).1.symm.trans finds)
  have direct :
      exchange.registry.route found = some (.answered dispatcher.answerer found.uri) :=
    Registry.route_of_answers (by rw [isHost]; rfl)
  rw [same, direct] at routed
  cases routed
  rw [← (Registry.servedAs_of_find finds isHost).queryPairs_eq]
  exact Dispatcher.reads_of_mem_stageRuns member

namespace Plug

/-! ### What a plug tells -/

/-- **Says what a plug is and tells** once its query was changed. -/
structure Requeried (plug : Plug σ) (changes : List QueryChange) (next : Plug σ) : Prop where
  settings : next = { plug with uri := next.uri }
  /-- The changes are made to the decoded pairs. -/
  pairs : next.uri.queryPairs = changes.foldl QueryChange.apply plug.uri.queryPairs
  /-- Scheme, authority and fragment stay, and the path but for blanks at its end. -/
  leaves : Uri.Leaves (changes.any QueryChange.removes) plug.uri next.uri
  kept : next.uri.path = plug.uri.path ↔
    (changes.any QueryChange.removes = true → plug.uri.fragment = none →
      plug.uri.path.isPadded = false)
  /-- A stage that a dispatcher runs for the URI reads the pairs that the changes make. -/
  dispatched : ∀ (dispatcher : Dispatcher σ) verb own request granted scope world,
    next.uri.ServedAs own → ∀ run ∈ dispatcher.stageRuns verb own request granted scope world,
      run.Reads (changes.foldl QueryChange.apply plug.uri.queryPairs)
  /-- So does one that runs in the first hop of a call, if that goes to a host of the process. -/
  called : ∀ (exchange : Exchange σ) key host dispatcher found verb request timeout scope world,
    exchange.registry.find next.uri = some found →
      found.endpoint = Endpoint.localHost key host dispatcher →
      ∀ run, exchange.Runs dispatcher (exchange.visit next verb request timeout scope world) run →
        run.Reads (changes.foldl QueryChange.apply plug.uri.queryPairs)

/-- **What a plug is told by pairs and keys** is what features read of its query. Nothing else of the
plug changes, unless a key is removed from a URI without a hierarchy and without a fragment whose path
ends with blanks: these are lost. -/
theorem requeried (plug : Plug σ) (changes : List QueryChange) :
    plug.Requeried changes (changes.foldl requery plug) := by
  have pairs := plug.queryPairs_foldl_requery changes
  have leaves := plug.leaves_foldl_requery changes
  refine
    { settings := plug.foldl_requery_eq changes
      pairs := pairs
      leaves := leaves
      kept := by rw [leaves.path, Uri.pathAfter_eq_self_iff]
      dispatched := fun dispatcher verb own request granted scope world served run member => ?_
      called := fun exchange key host dispatcher found verb request timeout scope world finds isHost
        run runs => ?_ }
  · rw [← pairs, ← served.queryPairs_eq]
    exact Dispatcher.reads_of_mem_stageRuns member
  · rw [← pairs]
    exact Exchange.reads_of_runs finds isHost runs

/-! ### Tags for the lobby -/

open Exchange (officeExchange officeDispatcher officeExchange_route)

/-- A plug for the lobby of the office, with a query that was written by someone else. -/
def lobbyPlug : Plug Unit :=
  officeExchange.plug
    { Uri.ofPlace "http" "office.example" ["lobby"] with query := some "Tag=a+b&x=1" }

/-- Tags that are added, and a key that is removed again. -/
def lobbyChanges : List QueryChange :=
  [.add "tag" "ü&=+", .addAll [("TAG", ""), ("x", "2")], .remove "x"]

/-- The first hop of a call to the lobby with these tags. -/
def lobbyVisit : Visit Unit :=
  officeExchange.visit (lobbyChanges.foldl requery lobbyPlug) .get Message.ok (Span.ofSeconds 60)
    .outermost (World.initial 0 ())

/-- What is added to the query, in whatever case, is what the lobby reads. -/
theorem lobby_reads_tags :
    Uri.parse "http://office.example/lobby?Tag=a+b&x=1" = .ok lobbyPlug.uri ∧
    (lobbyChanges.foldl requery lobbyPlug).uri.text
      = "http://office.example/lobby?Tag=a+b&tag=%C3%BC%26%3D%2B&TAG=" ∧
    ∃ run, officeExchange.Runs officeDispatcher lobbyVisit run ∧
      run.context.queryAll "tag" = ["a b", "ü&=+", ""] := by
  have told := requeried lobbyPlug lobbyChanges
  have served : lobbyVisit.asked.any (fun asked =>
      !(asked.stageRuns officeDispatcher asked.found.uri).isEmpty) = true := by
    decide +kernel
  obtain ⟨asked, isAsked, ran⟩ := List.any_eq_true.mp served
  have finds := (Exchange.of_mem_asked isAsked).1
  obtain ⟨run, member⟩ := List.exists_mem_of_ne_nil _ (by simpa using ran)
  have runs : officeExchange.Runs officeDispatcher lobbyVisit run :=
    ⟨asked, asked.found.uri, ⟨isAsked, officeExchange_route finds⟩, member⟩
  have isHost : asked.found.endpoint
      = Endpoint.localHost 0 Exchange.officeHost officeDispatcher :=
    List.mem_singleton.mp (Registry.endpoint_mem_of_find finds)
  have reads := told.called officeExchange 0 _ _ asked.found .get Message.ok _ _ _ finds isHost run
    runs
  refine ⟨by decide +kernel, by decide +kernel, run, runs, ?_⟩
  rw [reads.values]
  decide +kernel

/-! ### A blank at the end of a path -/

/-- A plug for a page of a list of mails, whose name ends with a blank. -/
def listPlug : Plug Unit :=
  Plug.of
    { scheme := "mail", authority := none, dotted := false, path := .literal "list "
      query := some "page=2", fragment := none } .standard

/-- **A blank at the end of a path without a hierarchy** is lost with a key that is removed, though no
pair has that key and the query stays. -/
theorem list_loses_blank : Uri.parse "mail:list ?page=2" = .ok listPlug.uri ∧
    ([.remove "lang"].foldl requery listPlug).uri.queryPairs = listPlug.uri.queryPairs ∧
    ([.remove "lang"].foldl requery listPlug).uri.text = "mail:list?page=2" ∧
    ([.remove "lang"].foldl requery listPlug).uri.path ≠ listPlug.uri.path := by
  refine ⟨by decide +kernel, by decide +kernel, by decide +kernel, by decide +kernel⟩

end Plug

end Switchboard
