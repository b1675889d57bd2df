import Switchboard.Endpoint.Local
import Switchboard.Endpoint.SchemeSwap
import Switchboard.Endpoint.Wire
import Switchboard.Script.Stage
/-!
Scripted endpoints and plugs.

A scripted endpoint leaves a mark for each call and then does what its script says for a call of
that number; the last entry of the script is for all further calls.

* `Script.endpoint` is the endpoint that a document describes.
* `Script.messageHandler` is what sees messages on their way.
* `Script.change` makes one change to a plug.
-/

namespace Switchboard.Script

/-! ### Mocks -/

/-- Replaces the start of a URI. -/
def replaceStart (start replacement : String) (target : Uri) : Option Uri := do
  let rest ← Text.dropStart? start.toList target.text.toList
  (Uri.parse (replacement ++ String.ofList rest)).toOption

/-- The score of a URI for a mock that serves a scheme, perhaps a host and perhaps what begins with
a text. -/
def mockScore (j : Json) (target : Uri) : Option (Int × Uri) :=
  let hostFits := match j.fieldText? "host" with
    | some host => target.host? == some host
    | none => true
  if target.scheme == j.textOr "scheme" "mock" && hostFits then
    let score := j.intOr "score" 1
    match (j.field "prefix").texts with
    | [start, replacement] => (replaceStart start replacement target).map fun uri => (score, uri)
    | _ => some (score, target)
  else none

/-- Puts a number in the place of each mark for it. -/
def numbered (n : Nat) : List Char → List Char
  | '\x7b' :: 'n' :: '\x7d' :: rest => (Text.decimal n).toList ++ numbered n rest
  | c :: rest => c :: numbered n rest
  | [] => []

/-- What a mock does with a call. -/
inductive Action where
  | breaks (panic : Panic)
  | fails (fault : CallFault)
  | echoes
  | replies (message : Message) (location : Option String)

/-- An entry of a script: how long to wait, and what to do then. -/
structure Entry where
  pause : Option Nat
  action : Action

def action (j : Json) : Described Action := do
  match j.fieldText? "panic", j.field? "fail" with
  | some "<static>", _ => return .breaks ⟨some "static panic"⟩
  | some "<other>", _ => return .breaks ⟨none⟩
  | some words, _ => return .breaks ⟨some words⟩
  | none, some fault => return .fails (callFault fault)
  | none, none =>
    if j.isSet "echo" then return .echoes
    else return .replies (← message (j.field "reply")) (j.fieldText? "location")

def entry (j : Json) : Described Entry := do
  return { pause := j.fieldNat? "sleep_ms", action := ← action j }

/-- Counts a call of the party with a key. Returns its number, from zero on. -/
def countCall (key : Nat) : Activity Trace Nat := do
  let world ← Activity.world
  let count := (world.state.calls.lookup key).getD 0
  Activity.change fun world =>
    { world with state := { world.state with calls := (key, count + 1) :: world.state.calls } }
  return count

/-- The entry for a call of a number. -/
def entryAt (entries : List Entry) (number : Nat) : Entry :=
  (entries[min number (entries.length - 1)]?).getD
    { pause := none, action := .replies Message.ok none }

/-- Does what an entry says. -/
def perform (number : Nat) (request : Message) : Action → Activity Trace (Except CallFault Message)
  | .breaks panic => Activity.breakOff panic
  | .fails fault => return .error fault
  | .echoes => return .ok request
  | .replies message none => return .ok message
  | .replies message (some location) =>
    return .ok (message.setHeader "Location"
      (String.ofList (numbered (number + 1) location.toList)))

/-- Answers by a script. -/
def mockAnswer (name : String) (key : Nat) (entries : List Entry) : Answerer Trace :=
  fun plug verb uri request timeout => do
    let world ← Activity.world
    leaveMark (Report.object [("endpoint", .text name), ("plug_uri", Report.uri plug.uri),
      ("verb", Report.verb verb), ("uri", Report.uri uri), ("timeout_ms", Report.millis timeout),
      ("request", Report.message world.date request)])
    let number ← countCall key
    let entry := entryAt entries number
    pause? entry.pause
    perform number request entry.action

/-! ### Endpoints -/

/-- A carrier that reaches nobody. -/
def nobody : Carrier Trace := fun _ => return .error .unreachable

def localHost (j : Json) : Described LocalHost := do
  let host ← (LocalHost.ofName (j.textOr "host" "")).mapError Fault.call
  let aliases ← each uri (j.field "aliases").texts
  return aliases.foldl LocalHost.addAlias host

/-- Dispatchers by name. -/
abbrev Dispatchers := List (String × Dispatcher Trace)

/-- The endpoint that a document describes, once the dispatchers are known. -/
def endpoint (key : Nat) (j : Json) : Described (Dispatchers → Endpoint Trace) := do
  match j.textOr "kind" "" with
  | "mock" =>
    let name := j.textOr "name" ""
    let entries ← each entry (j.itemsOf "script")
    let delivery := Delivery.answers (mockAnswer name key entries)
    return fun _ => { key, name, score := mockScore j, delivery }
  | "rewrite" => return fun _ => Endpoint.schemeSwap key (j.textOr "from" "") (j.textOr "to" "")
  | "http" => return fun _ => Endpoint.wire key nobody
  | "local" =>
    let host ← localHost j
    let name := j.textOr "dispatcher" ""
    return fun dispatchers => Endpoint.localHost key host
      ((dispatchers.lookup name).getD (Dispatcher.empty "" .standard))
  | _ => .error .malformed

/-! ### Plugs -/

/-- What sees messages on their way; one that only logs passes every message on. -/
def messageHandler (j : Json) : Described (MessageHandler Trace) := do
  if (j.field? "logging").isSome then return fun _ _ _ message => return some message
  let replacement ← message (j.field "message")
  let extra ← cookie (j.field "cookie")
  let name := j.textOr "name" ""
  let value := j.textOr "value" ""
  let finish (message : Message) : Activity Trace (Option Message) :=
    match j.textOr "do" "pass" with
    | "append_header" => return some (message.appendHeader name value)
    | "set_header" => return some (message.setHeader name value)
    | "add_cookie" => return some (message.addCookie extra)
    | "replace" => return some replacement
    | "close" => return some message.close
    | "none" => return none
    | "panic" => Activity.breakOff (panicOf j)
    | _ => return some message
  return fun verb uri served message => do
    let world ← Activity.world
    leaveMark? ((j.field? "log").map fun label => Report.object [("handler", label),
      ("verb", Report.verb verb), ("uri", Report.uri uri), ("normalized", Report.uri served),
      ("message", Report.message world.date message)])
    pause? (j.fieldNat? "sleep_ms")
    finish message

/-- The text of a query value, which need not be a text. -/
def queryValue : Json → String
  | .text s => s
  | j => j.write

/-- Makes the change to a plug that a list describes: a name and what belongs to it. -/
def change (plug : Plug Trace) (j : Json) : Described (Plug Trace) := do
  match j with
  | .list [.text "at", segments] => return plug.below segments.texts
  | .list [.text "at_path", .text path] => return plug.belowPath path
  | .list [.text "with_uri", .text text] => return { plug with uri := ← uri text }
  | .list [.text "with", .text key, value] => return plug.withPair key (queryValue value)
  | .list [.text "with_params", pairs] => return plug.withPairs pairs.pairs
  | .list [.text "without", .text key] => return plug.withoutKey key
  | .list [.text "with_header", .text name, .text value] => return plug.withHeader name value
  | .list [.text "with_headers", pairs] => return plug.withHeaders (headers pairs)
  | .list [.text "without_header", .text name] => return plug.withoutHeader name
  | .list [.text "with_credentials", .text username, .text password] =>
    return { plug with credentials := some { username, password } }
  | .list [.text "without_credentials"] => return { plug with credentials := none }
  | .list [.text "with_cookie_jar", .text name] => return { plug with jar := some (.named name) }
  | .list [.text "without_cookie_jar"] => return { plug with jar := none }
  | .list [.text "with_timeout", n] =>
    return { plug with timeout := Span.ofMillis (← need n.nat?) }
  | .list [.text "with_auto_redirects", n] => return { plug with maxRedirects := ← need n.nat? }
  | .list [.text "without_auto_redirects"] => return { plug with maxRedirects := 0 }
  | .list [.text "with_redirect_headers", .text word] =>
    return { plug with redirectPolicy := redirectPolicy word }
  | .list [.text "with_max_memorize_bytes", n] => return { plug with maxBytes := ← need n.nat? }
  | .list [.text "with_pre_handler", h] => return plug.withBefore (← messageHandler h)
  | .list [.text "with_post_handler", h] => return plug.withAfter (← messageHandler h)
  | _ => .error .malformed

end Switchboard.Script
