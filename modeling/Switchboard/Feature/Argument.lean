import Switchboard.Feature.Context
import Switchboard.Feature.Parameter
import Switchboard.Number.Real
/-!
Arguments: what a handler gets for the parameters of its stage.

Arguments are looked up by name, up to the case of ASCII letters, and by kind. A stream, the copy of
the request and the response of the stage before can be taken once.
-/

namespace Switchboard

/-- What was found for a parameter. A value that the request does not have is `none`. -/
inductive Argument where
  | text (value : Option String)
  | int (value : Option Int)
  | uint (value : Option Nat)
  | float (value : Option Number.Double)
  | bool (value : Option Bool)
  | textList (values : List String)
  | intList (values : List Int)
  | cookie (value : Option Cookie)
  | document (value : Json)
  | bytes (value : Text.Bytes)
  | stream (value : Option Stream)
  | verb (value : Verb)
  | uri (value : Uri)
  | context (value : Context)
  | request (value : Option Message)
  | response (value : Option Message)
  deriving Inhabited

/-- The arguments of a stage, in the order of its parameters. -/
structure Arguments where
  context : Context
  values : List (String × Argument)
  deriving Inhabited

/-! ### Kinds and descriptions -/

namespace Argument

/-- The kind of an argument. -/
def kind : Argument → Kind
  | .text _ => .text
  | .int _ => .int
  | .uint _ => .uint
  | .float _ => .float
  | .bool _ => .bool
  | .textList _ => .textList
  | .intList _ => .intList
  | .cookie _ => .cookie
  | .document _ => .document
  | .bytes _ => .bytes
  | .stream _ => .stream
  | .verb _ => .verb
  | .uri _ => .uri
  | .context _ => .context
  | .request _ => .request
  | .response _ => .response

/-- The word for a truth value. -/
def boolText (value : Bool) : String := if value then "true" else "false"

open Text.Quoted in
/-- A description of a cookie. -/
def cookieText (cookie : Cookie) : String :=
  record "Cookie"
    [("name", quote cookie.name), ("value", quote cookie.value),
      ("uri", optional (fun scope => quote scope.text) cookie.scope),
      ("expires", optional Text.decimalInt cookie.expires),
      ("secure", boolText cookie.secure), ("http_only", boolText cookie.httpOnly)] false

open Text.Quoted in
/-- A description of the value of an argument. -/
def valueText : Argument → String
  | .text value => optional quote value
  | .int value => optional Text.decimalInt value
  | .uint value => optional Text.decimal value
  | .float value => optional Number.Double.text value
  | .bool value => optional boolText value
  | .textList values => bracket (values.map quote)
  | .intList values => bracket (values.map Text.decimalInt)
  | .cookie value => optional cookieText value
  | .document value => value.description
  | .bytes value => Text.decimal value.length
  | .stream value => boolText value.isSome
  | .verb value => value.name
  | .uri value => quote value.text
  | .context value => quote value.service
  | .request value => optional Message.text value
  | .response value => optional Message.text value

/-- A description of an argument. -/
def description (argument : Argument) : String :=
  argument.kind.name ++ "(" ++ argument.valueText ++ ")"

end Argument

namespace Arguments

/-! ### Looking up -/

/-- Says whether an argument has a name. -/
def isNamed (name : String) (entry : String × Argument) : Bool := Text.sameName entry.1 name

/-- The first argument of a name. -/
def get? (arguments : Arguments) (name : String) : Option Argument :=
  (arguments.values.find? (isNamed name)).map Prod.snd

def text? (arguments : Arguments) (name : String) : Option String :=
  match arguments.get? name with
  | some (.text value) => value
  | _ => none

def int? (arguments : Arguments) (name : String) : Option Int :=
  match arguments.get? name with
  | some (.int value) => value
  | _ => none

def uint? (arguments : Arguments) (name : String) : Option Nat :=
  match arguments.get? name with
  | some (.uint value) => value
  | _ => none

def float? (arguments : Arguments) (name : String) : Option Number.Double :=
  match arguments.get? name with
  | some (.float value) => value
  | _ => none

def bool? (arguments : Arguments) (name : String) : Option Bool :=
  match arguments.get? name with
  | some (.bool value) => value
  | _ => none

def texts (arguments : Arguments) (name : String) : List String :=
  match arguments.get? name with
  | some (.textList values) => values
  | _ => []

def ints (arguments : Arguments) (name : String) : List Int :=
  match arguments.get? name with
  | some (.intList values) => values
  | _ => []

def cookie? (arguments : Arguments) (name : String) : Option Cookie :=
  match arguments.get? name with
  | some (.cookie value) => value
  | _ => none

def document? (arguments : Arguments) (name : String) : Option Json :=
  match arguments.get? name with
  | some (.document value) => some value
  | _ => none

def bytes? (arguments : Arguments) (name : String) : Option Text.Bytes :=
  match arguments.get? name with
  | some (.bytes value) => some value
  | _ => none

def verb? (arguments : Arguments) (name : String) : Option Verb :=
  match arguments.get? name with
  | some (.verb value) => some value
  | _ => none

def uri? (arguments : Arguments) (name : String) : Option Uri :=
  match arguments.get? name with
  | some (.uri value) => some value
  | _ => none

/-! ### Taking -/

/-- Takes the stream out of the first argument of a name. -/
def takeStreamFrom (name : String) :
    List (String × Argument) → Option Stream × List (String × Argument)
  | [] => (none, [])
  | entry :: rest =>
    if isNamed name entry then
      match entry.2 with
      | .stream value => (value, (entry.1, .stream none) :: rest)
      | _ => (none, entry :: rest)
    else
      let (value, rest) := takeStreamFrom name rest
      (value, entry :: rest)

/-- Takes the stream of a name; there is none afterwards. -/
def takeStream (arguments : Arguments) (name : String) : Option Stream × Arguments :=
  let (value, values) := takeStreamFrom name arguments.values
  (value, { arguments with values })

/-- Takes the first copy of the request that is there. -/
def takeRequestFrom : List (String × Argument) → Option Message × List (String × Argument)
  | [] => (none, [])
  | (name, .request (some message)) :: rest => (some message, (name, .request none) :: rest)
  | entry :: rest =>
    let (value, rest) := takeRequestFrom rest
    (value, entry :: rest)

/-- Takes a copy of the request. -/
def takeRequest (arguments : Arguments) : Option Message × Arguments :=
  let (value, values) := takeRequestFrom arguments.values
  (value, { arguments with values })

/-- Takes the first response that is there. -/
def takeResponseFrom : List (String × Argument) → Option Message × List (String × Argument)
  | [] => (none, [])
  | (name, .response (some message)) :: rest => (some message, (name, .response none) :: rest)
  | entry :: rest =>
    let (value, rest) := takeResponseFrom rest
    (value, entry :: rest)

/-- Takes the response of the stage before. -/
def takeResponse (arguments : Arguments) : Option Message × Arguments :=
  let (value, values) := takeResponseFrom arguments.values
  (value, { arguments with values })

end Arguments

end Switchboard
