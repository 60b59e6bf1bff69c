/-! # URLs

A URL in its parts, in the form in which they are written: scheme and host in small letters, text
percent-encoded, a port only where it is not the usual one for the scheme.  The path of a URL with
a hierarchy is a list of segments; other URLs have an opaque path. -/

namespace ModuleGraph

inductive UrlPath where
  | segments (list : List String)
  | opaquePath (text : String)
  deriving DecidableEq

/-- The path as text. -/
def UrlPath.write : UrlPath → String
  | .segments list => String.join (list.map ("/" ++ ·))
  | .opaquePath text => text

/-- A URL in the form in which it is written. -/
structure Url where
  scheme : String
  username : String
  password : String
  host : Option String
  port : Option Nat
  path : UrlPath
  query : Option String
  fragment : Option String
  deriving DecidableEq

namespace Url

/-- User name and password, with the sign that ends them. -/
def credentials (u : Url) : String :=
  if u.username.isEmpty && u.password.isEmpty then ""
  else u.username ++ (if u.password.isEmpty then "" else ":" ++ u.password) ++ "@"

/-- Everything between the scheme and the path. -/
def authority (u : Url) : String :=
  match u.host with
  | some host =>
    "//" ++ u.credentials ++ host ++
      match u.port with
      | some port => ":" ++ toString port
      | none => ""
  | none =>
    match u.path with
    | .segments ("" :: _ :: _) => "/."
    | _ => ""

/-- The URL as text. -/
def write (u : Url) : String :=
  u.scheme ++ ":" ++ u.authority ++ u.path.write ++
    (match u.query with
      | some query => "?" ++ query
      | none => "") ++
    match u.fragment with
    | some fragment => "#" ++ fragment
    | none => ""

instance : ToString Url := ⟨write⟩

end Url

end ModuleGraph
