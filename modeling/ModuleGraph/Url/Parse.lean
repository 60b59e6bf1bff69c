import ModuleGraph.Url
import ModuleGraph.Url.Host
import ModuleGraph.Text.Blank

/-! # Reading URLs

A text is an absolute URL when it begins with a scheme.  Blanks and controls around it are passed
over, and so are tabs and line breaks anywhere, except that one right after the drive letter of a
file URL ends the segment of the letter.  Web URLs (http, https, ws, wss, ftp) have a host; a
backslash in them counts as a slash, and any number of slashes may stand before the host.  A file
URL has a path from the root.  Any other URL has a host if two slashes follow the scheme, and an
opaque path if no slash does.  The segments `.` and `..` are resolved; `..` never removes a segment
that looks like a drive letter. -/

namespace ModuleGraph.Url

inductive SchemeKind where
  | web
  | file
  | other
  deriving DecidableEq

/-- The schemes with a hierarchy of their own, with their usual ports. -/
def webPorts : List (String × Nat) :=
  [("http", 80), ("https", 443), ("ws", 80), ("wss", 443), ("ftp", 21)]

def schemeKind (scheme : String) : SchemeKind :=
  if scheme = "file" then .file
  else if (webPorts.lookup scheme).isSome then .web
  else .other

/-- Cuts the scheme, in small letters, and its colon off. -/
def splitScheme? (cs : List Char) : Option (String × List Char) :=
  let inScheme (c : Char) := c.isAlphanum || c == '+' || c == '-' || c == '.'
  let scheme := cs.takeWhile inScheme
  match scheme, cs.dropWhile inScheme with
  | first :: _, ':' :: rest =>
    if first.isAlpha then some (String.ofList (scheme.map Char.toLower), rest) else none
  | _, _ => none

/-- Whether `c` separates the segments of a path. -/
def isSeparator (kind : SchemeKind) (c : Char) : Bool :=
  c == '/' || (c == '\\' && kind != .other)

/-- Whether `c` ends the part with user, host and port. -/
def endsAuthority (kind : SchemeKind) (c : Char) : Bool :=
  isSeparator kind c || c == '?' || c == '#'

/-- Cuts the user information off: everything up to the last `@` before the end of the authority. -/
def splitUserInfo (kind : SchemeKind) (cs : List Char) : Option (List Char) × List Char :=
  let authority := cs.takeWhile fun c => !endsAuthority kind c
  if authority.contains '@' then
    let host := Text.lastPiece (· == '@') authority
    let user := authority.take (authority.length - host.length - 1)
    (some user, cs.drop (user.length + 1))
  else (none, cs)

/-- Cuts the host off: it ends with the authority, or at the first colon outside brackets. -/
def splitHost (kind : SchemeKind) (bracket : Bool) : List Char → List Char × List Char
  | [] => ([], [])
  | c :: rest =>
    if endsAuthority kind c || (c == ':' && !bracket) then ([], c :: rest)
    else
      let (host, after) :=
        splitHost kind (if c = '[' then true else if c = ']' then false else bracket) rest
      (c :: host, after)

/-- The port that digits write; nothing for none and for the usual port of the scheme. -/
def port? (scheme : String) (digits : List Char) : Option (Option Nat) :=
  if digits.isEmpty then some none
  else do
    let n ← Text.numeral? digits
    if 65535 < n then none
    else if webPorts.lookup scheme = some n then some none
    else some (some n)

/-- The port after a host, and what follows it: a slash, a backslash, the sign of a query or a
fragment, or nothing. -/
def splitPort? (scheme : String) (cs : List Char) : Option (Option Nat × List Char) :=
  match cs with
  | ':' :: rest =>
    let after := rest.dropWhile Text.isDigit
    if after.head?.all fun c => ['/', '\\', '?', '#'].contains c then
      (port? scheme (rest.takeWhile Text.isDigit)).map fun port => (port, after)
    else none
  | _ => some (none, cs)

/-- Whether a segment stands for the segment itself. -/
def isSingleDot (segment : List Char) : Bool :=
  [".", "%2e"].contains (String.ofList (segment.map Char.toLower))

/-- Whether a segment stands for the segment above. -/
def isDoubleDot (segment : List Char) : Bool :=
  ["..", ".%2e", "%2e.", "%2e%2e"].contains (String.ofList (segment.map Char.toLower))

/-- Whether a segment is a letter and a colon or bar. -/
def isDriveLetter (segment : List Char) : Bool :=
  match segment with
  | [letter, mark] => letter.isAlpha && (mark == ':' || mark == '|')
  | _ => false

/-- Whether a segment is a drive letter, alone or with a backslash behind it. -/
def startsAsDrive (segment : List Char) : Bool :=
  isDriveLetter (segment.take 2) && (segment.drop 2).head?.all (· == '\\')

/-- Whether `c` is a tab or a line break. -/
def isBreak (c : Char) : Bool := c == '\t' || c == '\n' || c == '\r'

/-- The text without tabs and line breaks. -/
def visible (cs : List Char) : List Char := cs.filter fun c => !isBreak c

/-- A segment cut behind a drive letter, where a tab or line break and more text follow. -/
def splitBrokenDrive? (segment : List Char) : Option (List Char × List Char) :=
  let beforeColon := visible (segment.takeWhile (· != ':'))
  let afterColon := (segment.dropWhile (· != ':')).drop 1
  let drive := beforeColon ++ [':']
  if isDriveLetter drive && afterColon.head?.any isBreak && !(visible afterColon).isEmpty then
    some (drive, visible afterColon)
  else none

/-- The path read so far. -/
structure PathState where
  segments : List (List Char)
  /-- Whether the path of a file URL begins with a drive letter; such a URL has no host. -/
  hasDrive : Bool

namespace PathState

/-- The path without its last segment; a drive letter stays. -/
def shorten (s : PathState) : PathState :=
  if s.segments.getLast?.any startsAsDrive then s
  else { s with segments := s.segments.dropLast }

/-- The path with a segment added as it is. -/
def push (s : PathState) (segment : List Char) : PathState :=
  { s with segments := s.segments ++ [segment] }

/-- The path with a segment that is no dot segment; in front of a file URL's path a drive letter is
written with a colon. -/
def pushText (kind : SchemeKind) (s : PathState) (segment : List Char) : PathState :=
  if kind == .file && s.segments.isEmpty && isDriveLetter segment then
    ⟨[segment.take 1 ++ [':']], true⟩
  else s.push (percentEncode pathSet segment)

/-- The path with one more segment. -/
def add (kind : SchemeKind) (s : PathState) (isLast : Bool) (segment : List Char) : PathState :=
  -- A dot segment at the end leaves the slash in front of it.
  let close (s : PathState) := if isLast then s.push [] else s
  match if kind == .file && s.segments.isEmpty then splitBrokenDrive? segment else none with
  | some (drive, rest) => (s.push drive).push (percentEncode pathSet rest)
  | none =>
    let text := visible segment
    if isDoubleDot text then close s.shorten
    else if isSingleDot text then close s
    else s.pushText kind text

/-- The path with more segments. -/
def addAll (kind : SchemeKind) (s : PathState) : List (List Char) → PathState
  | [] => s
  | segment :: rest => (s.add kind rest.isEmpty segment).addAll kind rest

/-- The segments of a path; those of a file URL do not begin with an empty one if more follow. -/
def finish (kind : SchemeKind) (s : PathState) : UrlPath :=
  let list :=
    if kind = .file then
      match s.segments.dropWhile List.isEmpty with
      | [] => [[]]
      | list => list
    else s.segments
  .segments (list.map String.ofList)

end PathState

/-- Reads a path; the slash in front has been taken off. -/
def readSegments (kind : SchemeKind) (cs : List Char) : PathState :=
  PathState.addAll kind ⟨[], false⟩ (Text.splitWhere (isSeparator kind) cs)

/-- The path after a host: empty only where the URL is no web or file URL. -/
def readPath (kind : SchemeKind) (cs : List Char) : PathState :=
  match cs with
  | [] => if kind = .other then ⟨[], false⟩ else ⟨[[]], false⟩
  | c :: rest => readSegments kind (if isSeparator kind c then rest else c :: rest)

/-- Cuts a text before its fragment and its query, both without their signs. -/
def splitTail (cs : List Char) : List Char × Option (List Char) × Option (List Char) :=
  let beforeFragment := cs.takeWhile (· != '#')
  let fragment := (cs.dropWhile (· != '#')).tail?
  let path := beforeFragment.takeWhile (· != '?')
  let query := (beforeFragment.dropWhile (· != '?')).tail?
  (path, query, fragment)

/-- A query as it is written. -/
def writeQuery (kind : SchemeKind) (cs : List Char) : String :=
  String.ofList (percentEncode (if kind = .other then querySet else webQuerySet) (visible cs))

/-- A fragment as it is written. -/
def writeFragment (cs : List Char) : String :=
  String.ofList (percentEncode fragmentSet (visible cs))

/-- A user name or password as it is written. -/
def writeUserInfo (cs : List Char) : String := String.ofList (percentEncode userInfoSet cs)

/-- Whether a host may be left out: not in a web URL, not before a port and not after a user. -/
def allowsEmptyHost (kind : SchemeKind) (user afterHost : List Char) : Bool :=
  kind != .web && afterHost.head? != some ':' && (user.isEmpty || user == [':'])

/-- What follows the slashes before a host. -/
def readAuthority? (scheme : String) (kind : SchemeKind) (cs : List Char) : Option Url := do
  let (user, rest) := splitUserInfo kind cs
  -- An `@` with nothing in front of it and no host behind it is refused, except at the end.
  if user = some [] ∧ rest.head?.any (endsAuthority kind) then none
  else
    let user := user.getD []
    let (host, rest) := splitHost kind false rest
    if host.isEmpty && !allowsEmptyHost kind user rest then none
    else
      let host ← if kind = .web then webHost? host else plainHost? host
      let (port, rest) ← splitPort? scheme rest
      let (path, query, fragment) := splitTail rest
      some
        { scheme, host := some host, port
          username := writeUserInfo (user.takeWhile (· != ':'))
          password := writeUserInfo ((user.dropWhile (· != ':')).drop 1)
          path := (readPath kind path).finish kind
          query := query.map (writeQuery kind)
          fragment := fragment.map writeFragment }

/-- A URL without user and port. -/
def plain (scheme : String) (kind : SchemeKind) (host : Option String) (path : UrlPath)
    (query fragment : Option (List Char)) : Url :=
  { scheme, host, path, username := "", password := "", port := none
    query := query.map (writeQuery kind), fragment := fragment.map writeFragment }

/-- The host of a file URL; the local host is left out. -/
def fileHost? (cs : List Char) : Option String :=
  if cs.isEmpty then some ""
  else (webHost? cs).map fun host => if host = "localhost" then "" else host

/-- A file URL with a host, which a drive letter in the path takes away. -/
def fileUrl (scheme host : String) (read : List Char → PathState) (cs : List Char) : Url :=
  let (path, query, fragment) := splitTail cs
  let state := read path
  plain scheme .file (some (if state.hasDrive then "" else host)) (state.finish .file) query fragment

/-- What follows the scheme of a file URL and two slashes. -/
def readFileHost? (scheme : String) (cs : List Char) : Option Url :=
  let written := visible (cs.takeWhile fun c => !endsAuthority .file c)
  if isDriveLetter written then some (fileUrl scheme "" (readSegments .file) cs)
  else do
    let host ← fileHost? written
    -- Without a host, the path keeps the slash in front of it, so no drive letter comes first.
    let read := if host.isEmpty then readSegments .file else readPath .file
    some (fileUrl scheme host read (cs.dropWhile fun c => !endsAuthority .file c))

/-- The text behind a slash at its beginning. -/
def afterSlash? (cs : List Char) : Option (List Char) :=
  match cs.dropWhile isBreak with
  | c :: rest => if isSeparator .file c then some rest else none
  | [] => none

/-- What follows the scheme of a file URL, tabs and line breaks included. -/
def readFile? (scheme : String) (cs : List Char) : Option Url :=
  match afterSlash? cs with
  | none => some (fileUrl scheme "" (readSegments .file) cs)
  | some rest =>
    match afterSlash? rest with
    | none => some (fileUrl scheme "" (readSegments .file) rest)
    | some rest => readFileHost? scheme rest

/-- What follows the scheme of a URL that is neither a web nor a file URL. -/
def readOther? (scheme : String) (cs : List Char) : Option Url :=
  match cs with
  | '/' :: '/' :: rest => readAuthority? scheme .other rest
  | '/' :: rest =>
    let (path, query, fragment) := splitTail rest
    some (plain scheme .other none ((readSegments .other path).finish .other) query fragment)
  | _ =>
    let (path, query, fragment) := splitTail cs
    some (plain scheme .other none (.opaquePath (String.ofList (percentEncode [] path)))
      query fragment)

/-- The absolute URL that a text writes. -/
def parse? (text : String) : Option Url := do
  let isOuter (c : Char) := c.toNat ≤ 0x20
  let cs := Text.trimWhile isOuter text.toList
  let (scheme, rest) ← splitScheme? (visible cs)
  match schemeKind scheme with
  | .web => readAuthority? scheme .web (rest.dropWhile (isSeparator .web))
  | .file => readFile? scheme ((cs.dropWhile (· != ':')).drop 1)
  | .other => readOther? scheme rest

end ModuleGraph.Url
