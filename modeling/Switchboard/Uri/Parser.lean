import Switchboard.Number.Integer
import Switchboard.Uri.Basic
import Switchboard.Uri.Host
/-!
Reading URIs.

Control characters and blanks around a URI are dropped, breaks (tabs and line ends) within it too. A
text without a scheme is read relative to a base, if there is one.

A path is read segment by segment. A segment of one dot is dropped, a segment of two dots removes
the one before it, unless that is a drive letter; if either is the last one, an empty segment stands
in its place. In files a drive letter in the first place of the path is written with a colon and may
stand for the host, and a break after one ends its segment.

* `Uri.parse` reads a URI that stands by itself.
* `Uri.join` reads a reference relative to a URI.
* `Uri.walkPath` is the reading of a path.
-/

namespace Switchboard.Uri

open Text

/-! ### Breaks -/

/-- Tabs and line ends. -/
def isBreak (c : Char) : Bool := c == '\t' || c == '\n' || c == '\r'

/-- A text without breaks. -/
def plain (text : List Char) : List Char := text.filter fun c => !isBreak c

/-- Says whether a text, given in reverse order, ends in a letter and a colon. -/
def endsInDrive : List Char → Bool
  | ':' :: letter :: _ => letter.isAlpha
  | _ => false

/-- Drops breaks after the text `before`, given in reverse order. One break is kept after a letter
and a colon, since these may turn out to be a drive letter. -/
def dropBreaks (before : List Char) : List Char → List Char
  | [] => []
  | c :: rest =>
    if !isBreak c then c :: dropBreaks (c :: before) rest
    else if endsInDrive before then c :: dropBreaks [] rest
    else dropBreaks before rest

/-! ### Segments -/

/-- Says whether a segment stands for the one above. -/
def isDoubleDot (segment : String) : Bool :=
  lower segment ∈ ["..", "%2e%2e", "%2e.", ".%2e"]

/-- Says whether a segment stands for itself being left out. -/
def isSingleDot (segment : String) : Bool := lower segment ∈ [".", "%2e"]

/-- Says whether a segment is a letter with a colon. -/
def isPlainDrive (segment : String) : Bool :=
  match segment.toList with
  | [letter, ':'] => letter.isAlpha
  | _ => false

/-- Says whether a segment is a letter with a colon or a bar. -/
def isDriveLetter (segment : String) : Bool :=
  match segment.toList with
  | [letter, mark] => letter.isAlpha && (mark == ':' || mark == '|')
  | _ => false

/-- The segments without the last one, which stays if it is a drive letter. -/
def dropLastSegment (segments : List String) : List String :=
  match segments.getLast? with
  | some last => if isDriveLetter last then segments else segments.dropLast
  | none => []

/-- Adds one segment, of which `final` says whether no slash follows it. -/
def addSegment (final : Bool) (segments : List String) (segment : String) : List String :=
  if isDoubleDot segment then
    let above := dropLastSegment segments
    if final then above ++ [""] else above
  else if isSingleDot segment then if final then segments ++ [""] else segments
  else segments ++ [segment]

/-- A segment as it is written, from the text between two slashes. -/
def segmentText (piece : List Char) : String :=
  String.ofList (Percent.write Percent.path (plain piece))

/-! ### Paths -/

/-- How far the reading of a path has come. -/
structure Walk where
  /-- The segments that a slash follows. -/
  segments : List String
  /-- The beginning of the next segment that is there already. -/
  stem : String
  /-- Whether the first segment is a drive letter that was read in its place. -/
  drive : Bool

namespace Walk

/-- A walk that has come to the slash after some segments. -/
def after (segments : List String) : Walk := { segments, stem := "", drive := false }

/-- Adds a segment to a stem. Dots are told by the segment alone, and the stem stays with them. -/
def addToStem (walk : Walk) (final : Bool) (segment : String) : Walk :=
  let segments :=
    if isDoubleDot segment then walk.segments ++ [walk.stem]
    else if isSingleDot segment then
      walk.segments ++ [walk.stem] ++ (if final then [""] else [])
    else walk.segments ++ [walk.stem ++ segment]
  { walk with segments, stem := "" }

/-- Splits off a drive letter that a break ends, if more comes after it. -/
def brokenDrive? (piece : List Char) : Option (String × List Char) :=
  match piece with
  | letter :: ':' :: c :: rest =>
    if letter.isAlpha && isBreak c && !(plain rest).isEmpty then
      some (String.ofList [letter, ':'], rest)
    else none
  | _ => none

/-- Adds the text between two slashes in the first place of the path of a file. -/
def addFirst (walk : Walk) (final : Bool) (piece : List Char) : Walk :=
  match brokenDrive? piece with
  | some (drive, rest) => { walk with segments := [drive, segmentText rest] }
  | none =>
    let segment := segmentText piece
    if isDriveLetter segment then
      { walk with segments := [String.ofList (segment.toList.take 1 ++ [':'])], drive := true }
    else { walk with segments := addSegment final walk.segments segment }

/-- Adds the text between two slashes, of which `final` says whether it is the last one. -/
def addPiece (isFile final : Bool) (walk : Walk) (piece : List Char) : Walk :=
  if walk.stem ≠ "" then walk.addToStem final (segmentText piece)
  else if isFile && walk.segments.isEmpty then walk.addFirst final piece
  else { walk with segments := addSegment final walk.segments (segmentText piece) }

/-- Adds texts between slashes, the last of which is final. -/
def addPieces (isFile : Bool) (walk : Walk) : List (List Char) → Walk
  | [] => walk
  | [piece] => addPiece isFile true walk piece
  | piece :: rest => addPieces isFile (addPiece isFile false walk piece) rest

end Walk

/-- Puts slashes in the place of backslashes in the schemes of the web. -/
def unifySlashes (isWeb : Bool) (text : List Char) : List Char :=
  if isWeb then text.map fun c => if c == '\\' then '/' else c else text

/-- The path of a file has no empty segments at its start. -/
def trimFilePath (segments : List String) : List String :=
  match segments.dropWhile (· = "") with
  | [] => [""]
  | segments => segments

/-- Reads a path from where a walk has come to. -/
def walkPath (scheme : String) (start : Walk) (text : List Char) : Walk :=
  let isFile := scheme = "file"
  let pieces := splitOn '/' (unifySlashes (isWebScheme scheme) text)
  let walk := start.addPieces isFile pieces
  if isFile then { walk with segments := trimFilePath walk.segments } else walk

/-- Reads a path after the segments of a base. -/
def readPathFrom (scheme : String) (base : List String) (text : List Char) : List String :=
  (walkPath scheme (.after base) text).segments

/-- Reads a path that starts at the root. It is empty only outside the schemes of the web. -/
def readPath (scheme : String) (text : List Char) : List String :=
  match unifySlashes (isWebScheme scheme) text with
  | [] => if isWebScheme scheme then [""] else []
  | '/' :: rest => readPathFrom scheme [] rest
  | text => readPathFrom scheme [] text

/-- Reads a path without a hierarchy. -/
def readLiteral (text : List Char) : Path :=
  .literal (String.ofList (Percent.write Percent.controls (plain text)))

/-! ### Queries and fragments -/

/-- Reads a query. -/
def readQuery (scheme : String) (text : List Char) : String :=
  let set := if isWebScheme scheme then Percent.webQuery else Percent.query
  String.ofList (Percent.write set (plain text))

/-- Reads a fragment. -/
def readFragment (text : List Char) : String :=
  String.ofList (Percent.write Percent.fragment (plain text))

/-- The text before a query or fragment, and the rest. -/
def spanPath (text : List Char) : List Char × List Char :=
  text.span fun c => c != '?' && c != '#'

/-- Reads what follows a path: perhaps a query, perhaps a fragment. -/
def readTail (scheme : String) (text : List Char) : Option String × Option String :=
  match text with
  | '?' :: rest =>
    let (query, rest) := rest.span (· != '#')
    let fragment := match rest with
      | _ :: fragment => some (readFragment fragment)
      | [] => none
    (some (readQuery scheme query), fragment)
  | '#' :: rest => (none, some (readFragment rest))
  | _ => (none, none)

/-! ### Authorities -/

/-- Splits at the last occurrence of `c`. -/
def cutAtLast (c : Char) (text : List Char) : Option (List Char × List Char) :=
  (cutAt c text.reverse).map fun (after, before) => (before.reverse, after.reverse)

/-- Splits off a host: it ends at a colon outside brackets. -/
def spanHost (inBrackets : Bool) : List Char → List Char × List Char
  | [] => ([], [])
  | c :: rest =>
    if c == ':' && !inBrackets then ([], c :: rest)
    else
      let inside := if c == '[' then true else if c == ']' then false else inBrackets
      let (host, after) := spanHost inside rest
      (c :: host, after)

/-- Reads the digits of a port onto a value, which is none before the first digit. -/
def readPort (value : Option Nat) : List Char → Except UriFault (Option Nat × List Char)
  | [] => .ok (value, [])
  | c :: rest => match Number.digitValue? c with
    | some digit =>
      let next := value.getD 0 * 10 + digit
      if next ≤ 65535 then readPort (some next) rest else .error .port
    | none => if c == '\\' then .ok (value, c :: rest) else .error .port

/-- Reads an authority from the text up to the end of it. What a backslash begins after a port
belongs to the path and is returned. -/
def readAuthority (scheme : String) (text tail : List Char) :
    Except UriFault (Authority × List Char) := do
  let isWeb := isWebScheme scheme
  let (user, hostText) := (cutAtLast '@' text).elim (none, text) fun (user, host) =>
    (some user, host)
  if user = some [] ∧ hostText = [] ∧ tail ≠ [] then .error .emptyHost
  else
    let (name, password) := match cutAt ':' (user.getD []) with
      | some (name, password) => (name, password)
      | none => (user.getD [], [])
    let username := String.ofList (Percent.write Percent.userinfo name)
    let password := String.ofList (Percent.write Percent.userinfo password)
    let (hostChars, portText) := spanHost false hostText
    let host ←
      if isWeb then (if hostChars = [] then .error .emptyHost else Host.parseWeb hostChars)
      else Host.parseOther hostChars
    if host = "" ∧ portText ≠ [] then .error .emptyHost
    else
      let (port, rest) ← match portText with
        | _ :: digits => readPort none digits
        | [] => .ok (none, [])
      let port := if port = defaultPort? scheme then none else port
      if host = "" ∧ (username ≠ "" ∨ password ≠ "") then .error .emptyHost
      else .ok ({ username, password, host, port }, rest ++ tail)

/-- The text up to the end of an authority, and the rest. -/
def spanAuthority (scheme : String) (text : List Char) : List Char × List Char :=
  text.span fun c => !(c == '/' || c == '?' || c == '#' || (isWebScheme scheme && c == '\\'))

/-- A URI with an authority, from the text after the two slashes. -/
def withAuthority (scheme : String) (text : List Char) : Except UriFault Uri := do
  let (front, tail) := spanAuthority scheme text
  let (authority, rest) ← readAuthority scheme (plain front) tail
  let (path, rest) := spanPath rest
  let (query, fragment) := readTail scheme rest
  let path := Path.segments (readPath scheme path)
  return { scheme, authority, dotted := false, path, query, fragment }

/-! ### Files -/

/-- Says whether a text begins with a segment that is a drive letter. -/
def startsWithDrive (text : List Char) : Bool :=
  match text with
  | letter :: mark :: rest =>
    letter.isAlpha && (mark == ':' || mark == '|')
      && ((plain rest).head?.all fun c => c == '/' || c == '\\' || c == '?' || c == '#')
  | _ => false

/-- A file on the given host, with a path that is read from where a walk has come to. A host that
`yields` is left out if a drive letter is read in the first place. -/
def fileUri (host : String) (yields : Bool) (start : Walk) (text : List Char) : Uri :=
  let (path, rest) := spanPath text
  let (query, fragment) := readTail "file" rest
  let walk := walkPath "file" start path
  let host := if yields && walk.drive then "" else host
  { scheme := "file"
    authority := some { username := "", password := "", host, port := none }
    dotted := false
    path := .segments walk.segments
    query, fragment }

/-- Drops one slash. -/
def dropSlash : List Char → List Char
  | c :: rest => if c == '/' || c == '\\' then rest else c :: rest
  | [] => []

/-- A file with a host, from the text after the two slashes. A drive letter in the place of the host
is the start of the path. After a host that is left out the slash before the path counts as an empty
segment. -/
def fileWithHost (text : List Char) : Except UriFault Uri := do
  let (name, rest) := text.span fun c => !(c == '/' || c == '\\' || c == '?' || c == '#')
  let name := plain name
  if isDriveLetter (String.ofList name) then return fileUri "" false (.after []) text
  else
    let host ← if name = [] then .ok "" else Host.parseWeb name
    if host = "" ∨ host = "localhost" then return fileUri "" false (.after []) rest
    else return fileUri host true (.after []) (dropSlash rest)

/-- The path of the base of a file, if the base is one. -/
def fileBase : Option Uri → Option (String × List String)
  | some base => match base.path with
    | .segments items =>
      if base.scheme = "file" then some (base.host?.getD "", items) else none
    | .literal _ => none
  | none => none

/-- Where a path beside that of a base starts: the last segment is left out. A drive letter stays,
as a segment if it is the only one and otherwise as a stem. -/
def walkBeside (segments : List String) : Walk :=
  match segments.getLast? with
  | some last =>
    if !isPlainDrive last then .after segments.dropLast
    else if segments.length = 1 then .after segments
    else { segments := segments.dropLast, stem := last, drive := false }
  | none => .after []

/-- Reads a file from the text after its scheme. -/
def readFile (base : Option Uri) (text : List Char) : Except UriFault Uri :=
  match unifySlashes true (text.take 2) with
  | ['/', '/'] => fileWithHost (text.drop 2)
  | '/' :: _ =>
    let rest := text.drop 1
    match fileBase base with
    | some (host, segments) =>
      if startsWithDrive rest then .ok (fileUri "" false (.after []) rest)
      else match segments with
        | first :: _ =>
          if isPlainDrive first then .ok (fileUri "" false (.after [first]) rest)
          else .ok (fileUri host false (.after []) rest)
        | [] => .ok (fileUri host false (.after []) rest)
    | none => .ok (fileUri "" false (.after []) rest)
  | _ => match base, fileBase base with
    | some base, some (host, segments) => match text with
      | [] => .ok { base with fragment := none }
      | '?' :: _ =>
        let (query, fragment) := readTail "file" text
        .ok { base with query, fragment }
      | '#' :: rest => .ok { base with fragment := some (readFragment rest) }
      | _ =>
        if startsWithDrive text then .ok (fileUri "" false (.after []) text)
        else .ok (fileUri host false (walkBeside segments) text)
    | _, _ => .ok (fileUri "" false (.after []) text)

/-! ### References -/

/-- A URI beside another, with a path read after the given segments. -/
def beside (base : Uri) (segments : List String) (text : List Char) : Uri :=
  let (path, rest) := spanPath text
  let (query, fragment) := readTail base.scheme rest
  let path := Path.segments (readPathFrom base.scheme segments path)
  let dotted := if base.authority.isSome then base.dotted else path.needsDot
  { base with dotted, path, query, fragment }

/-- Reads a reference without a scheme relative to a base with a hierarchy. -/
def readRelative (base : Uri) (segments : List String) (text : List Char) : Except UriFault Uri :=
  match text with
  | [] => .ok { base with fragment := none }
  | '?' :: _ =>
    let (query, fragment) := readTail base.scheme text
    .ok { base with query, fragment }
  | '#' :: rest => .ok { base with fragment := some (readFragment rest) }
  | c :: rest =>
    let isSlash := fun c => c == '/' || c == '\\'
    if isSlash c then
      if rest.head?.any isSlash then
        let isPlain := text.take 2 = ['/', '/']
        withAuthority base.scheme (if isPlain then text.drop 2 else text.dropWhile isSlash)
      else .ok (beside base [] rest)
    else .ok (beside base segments.dropLast text)

/-- Reads a URI from the text after its scheme. -/
def readAbsolute (base : Option Uri) (scheme : String) (text : List Char) : Except UriFault Uri :=
  if scheme = "file" then readFile base text
  else if isWebScheme scheme then
    let slashes := text.takeWhile fun c => c == '/' || c == '\\'
    match base, base.map Uri.path with
    | some base, some (.segments segments) =>
      if slashes.length < 2 ∧ base.scheme = scheme then readRelative base segments text
      else withAuthority scheme (text.drop slashes.length)
    | _, _ => withAuthority scheme (text.drop slashes.length)
  else match text with
    | '/' :: '/' :: rest => withAuthority scheme rest
    | text =>
      let (path, rest) := spanPath text
      let (query, fragment) := readTail scheme rest
      let path := match path with
        | '/' :: segments => .segments (readPathFrom scheme [] segments)
        | path => readLiteral path
      .ok { scheme, authority := none, dotted := path.needsDot, path, query, fragment }

/-- Splits off a scheme, in small letters. -/
def scheme? (text : List Char) : Option (String × List Char) :=
  match cutAt ':' text with
  | none => none
  | some (front, rest) =>
    let isFirst := fun (c : Char) => c.isAlpha
    let isOther := fun (c : Char) => c.isAlphanum || c == '+' || c == '-' || c == '.'
    if front.head?.any isFirst && front.all isOther then
      some (lower (String.ofList front), rest.dropWhile isBreak)
    else none

/-- Drops what does not count in a URI. -/
def cleaned (text : String) : List Char :=
  let isEdge := fun (c : Char) => c.toNat ≤ 0x20
  dropBreaks [] (dropEndWhile isEdge (text.toList.dropWhile isEdge))

/-- Reads a URI or a reference relative to a base. -/
def parseWith (base : Option Uri) (text : String) : Except UriFault Uri :=
  let text := cleaned text
  match scheme? text with
  | some (scheme, rest) => readAbsolute base scheme rest
  | none => match base with
    | none => .error .relativeWithoutBase
    | some base => match text, base.path with
      | '#' :: rest, _ => .ok { base with fragment := some (readFragment rest) }
      | _, .literal _ => .error .relativeToLiteral
      | text, .segments segments =>
        if base.scheme = "file" then readFile (some base) text
        else readRelative base segments text

/-- Reads a URI. -/
def parse (text : String) : Except UriFault Uri := parseWith none text

/-- Reads a reference relative to a URI. -/
def join (base : Uri) (reference : String) : Except UriFault Uri := parseWith (some base) reference

end Switchboard.Uri
