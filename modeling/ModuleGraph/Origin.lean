import ModuleGraph.Text.Blank
import ModuleGraph.Text.Lowercase
import ModuleGraph.Text.Split
import ModuleGraph.KeyedSet
import ModuleGraph.Path
import ModuleGraph.Url.Parse

/-! # Where packages come from, and who they are

A package has an origin: a directory, a repository or a registry entry.  Its identity is a name in
small letters that does not depend on how the origin is spelled: the last component of the
location, a `.git` at the end left out.  Two origins count as the same place when their canonical
locations agree.  A mirror makes one location stand in for another when identities are resolved. -/

namespace ModuleGraph

/-- Who a package is. -/
structure Identity where
  name : String
  deriving DecidableEq, Inhabited

namespace Identity

instance : Ord Identity := ⟨compareOn Identity.name⟩

instance : Std.TransOrd Identity := inferInstanceAs (Std.TransCmp (compareOn Identity.name))

instance : Std.LawfulEqOrd Identity where
  eq_of_compare {a b} h := by
    have h : compare a.name b.name = .eq := h
    have h := Std.LawfulEqOrd.eq_of_compare h
    cases a; cases b; simp_all

instance : ToString Identity := ⟨Identity.name⟩

/-- The identity of a name. -/
def ofName (name : String) : Identity := ⟨Text.lowercase name⟩

end Identity

/-- Where a package comes from. -/
inductive Origin where
  /-- The directory of a package that is being built. -/
  | root (path : Path)
  /-- The directory of a package that others depend on. -/
  | directory (path : Path)
  | repository (url : Url)
  | registry (id : String)
  deriving DecidableEq

namespace Location

/-- Drops a scheme, or the user of a remote shell, whose first colon then becomes a slash. -/
def dropScheme (cs : List Char) : List Char :=
  match Text.cutThrough? [':', '/', '/'] cs with
  | some rest => rest
  | none =>
    match Text.stripStart? ['g', 'i', 't', '@'] cs with
    | some rest => Text.replaceFirst ':' '/' rest
    | none => cs

/-- Drops everything through the first `@`, if no slash stands before it. -/
def dropUser (cs : List Char) : List Char :=
  match cs.dropWhile fun c => c != '@' && c != '/' with
  | '@' :: rest => rest
  | _ => cs

/-- Drops one `.git` at the end. -/
def dropGit (cs : List Char) : List Char :=
  (Text.stripEnd? ['.', 'g', 'i', 't'] cs).getD cs

/-- The location with cosmetic differences removed: blanks around it, letter case, scheme, user,
slashes at the end and one `.git`. -/
def canonical (location : String) : String :=
  let small := (Text.lowercase (Text.trim location)).toList
  let bare := dropUser (dropScheme small)
  String.ofList (dropGit (Text.dropEndWhile (· == '/') bare))

/-- The last component of a location, without a `.git`. -/
def lastName (location : String) : String :=
  let isSlash (c : Char) := c == '/' || c == '\\'
  let trimmed := Text.dropEndWhile isSlash location.toList
  String.ofList (dropGit (Text.lastPiece (fun c => isSlash c || c == ':') trimmed))

end Location

namespace Origin

def isRoot : Origin → Bool
  | .root _ => true
  | _ => false

/-- The location as people write it. -/
def location : Origin → String
  | .root path => path.text
  | .directory path => path.text
  | .repository url => url.write
  | .registry id => id

/-- What decides whether two origins are the same place. -/
def canonical (o : Origin) : String := Location.canonical o.location

/-- The directory of the package, if the origin is one. -/
def directory? : Origin → Option Path
  | .root path => some path
  | .directory path => some path
  | _ => none

/-- A phrase for the package `id` with this origin. -/
def describe (id : Identity) : Origin → String
  | .root path => s!"'{id}' (at '{path.text}')"
  | .directory path => s!"'{id}' (at '{path.text}')"
  | .repository url => s!"'{id}' (from '{url}')"
  | .registry _ => s!"'{id}'"

end Origin

/-- A package that the graph needs, and where to get it. -/
structure Reference where
  identity : Identity
  origin : Origin
  deriving DecidableEq

namespace Reference

def write (r : Reference) : String := s!"{r.identity} ({r.origin.location})"

instance : ToString Reference := ⟨write⟩

end Reference

/-- Locations that others stand in for, by their canonical form. -/
abbrev Mirrors := SortedMap String String

namespace Mirrors

/-- Lets `mirror` stand in for `location`. -/
def add (m : Mirrors) (location mirror : String) : Mirrors :=
  m.put (Location.canonical location) mirror

/-- The mirrors of a list of pairs, added in order. -/
def ofPairs (pairs : List (String × String)) : Mirrors :=
  pairs.foldl (fun m (location, mirror) => m.add location mirror) KeyedSet.empty

/-- The location to go by: the mirror, if there is one. -/
def resolve (m : Mirrors) (location : String) : String :=
  m.getD (Location.canonical location) location

/-- The identity of a package with the given origin.  Registry entries are named by their id. -/
def identify (m : Mirrors) : Origin → Identity
  | .registry id => .ofName id
  | origin => .ofName (Location.lastName (m.resolve origin.location))

end Mirrors

end ModuleGraph
