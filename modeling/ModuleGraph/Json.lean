/-! # JSON values

Numbers are whole numbers where they are written as such and fit in 64 bits; any other number keeps
its text, and no part of the library takes one.  A record lists its fields once each, in ascending
order of their names, so that two records with the same fields are equal. -/

namespace ModuleGraph

inductive Json where
  | null
  | bool (b : Bool)
  | int (n : Int)
  | real (written : String)
  | text (s : String)
  | list (items : List Json)
  | record (fields : List (String × Json))
  deriving Inhabited

namespace Json

/-- A list of texts. -/
def texts (ss : List String) : Json := .list (ss.map .text)

/-- A value that may be absent; absence is written as null. -/
def optional {α : Type} (write : α → Json) : Option α → Json
  | none => .null
  | some a => write a

/-- The field `name` of a record. -/
def field? (name : String) : Json → Option Json
  | .record fields => fields.lookup name
  | _ => none

end Json

end ModuleGraph
