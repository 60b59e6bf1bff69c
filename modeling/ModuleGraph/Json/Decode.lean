import ModuleGraph.Json

/-! # Reading JSON values as data

A reader gives `none` for a value of the wrong shape.  A record is read through its `Fields`: it
may be written as a JSON record, where unknown fields are passed over, or as the list of its
fields in the order of their declaration.  A choice between names is written as the name, or as a
record with the name for its only field.  Where the value stands decides how freely it may be
written; a `Dialect` says so. -/

namespace ModuleGraph.Json

variable {α : Type}

/-- Where a value stands. -/
inductive Dialect where
  /-- In a request. -/
  | request
  /-- Below a field that names the kind of a record. -/
  | tagged
  /-- In a file. -/
  | file
  deriving DecidableEq

namespace Dialect

/-- Whether a value says that a choice carries nothing. -/
def isNothing : Dialect → Json → Bool
  | _, .null => true
  | .tagged, .record [] => true
  | .file, .record [] => true
  | .file, .list [] => true
  | _, _ => false

/-- Whether the list of a record's fields may have so many items; in a file, superfluous items are
passed over. -/
def allowsItems (d : Dialect) (fields items : Nat) : Bool := items ≤ fields || d == .file

end Dialect

def bool? : Json → Option Bool
  | .bool b => some b
  | _ => none

/-- A whole number between the two bounds of a signed 64-bit word. -/
def int64? : Json → Option Int
  | .int n =>
    let bound := Int.ofNat (Nat.pow 2 63)
    if -bound ≤ n && n < bound then some n else none
  | _ => none

/-- A whole number below 2^64. -/
def nat64? : Json → Option Nat
  | .int n => if 0 ≤ n && n < Int.ofNat (Nat.pow 2 64) then some n.toNat else none
  | _ => none

def text? : Json → Option String
  | .text s => some s
  | _ => none

/-- A list, every item of which `read` accepts. -/
def list? (read : Json → Option α) : Json → Option (List α)
  | .list items => items.mapM read
  | _ => none

def texts? : Json → Option (List String) := list? text?

/-- A record that is used as a table, every value of which `read` accepts. -/
def table? (read : Json → Option α) : Json → Option (List (String × α))
  | .record fields => fields.mapM fun (name, j) => (read j).map (name, ·)
  | _ => none

/-- Null, or a value that `read` accepts. -/
def nullable? (read : Json → Option α) : Json → Option (Option α)
  | .null => some none
  | j => (read j).map some

/-- The fields of a record, by name. -/
abbrev Fields := String → Option Json

/-- The fields of a record whose declaration has the given names in this order. -/
def fields? (d : Dialect) (names : List String) : Json → Option Fields
  | .record fields => some fun name => fields.lookup name
  | .list items =>
    if d.allowsItems names.length items.length then some fun name => (names.zip items).lookup name
    else none
  | _ => none

/-- A choice: the name, and what it carries if it is written as a record. -/
def choice? : Json → Option (String × Option Json)
  | .text name => some (name, none)
  | .record [(name, j)] => some (name, some j)
  | _ => none

/-- A choice that carries nothing. -/
def word? (d : Dialect) (read : String → Option α) (j : Json) : Option α := do
  match ← j.choice? with
  | (name, none) => read name
  | (name, some carried) => if d.isNothing carried then read name else none

namespace Fields

/-- A field that has to be there. -/
def get? (fs : Fields) (name : String) (read : Json → Option α) : Option α := fs name >>= read

/-- A field with a value to take where it is missing. -/
def getD? (fs : Fields) (name : String) (default : α) (read : Json → Option α) : Option α :=
  match fs name with
  | none => some default
  | some j => read j

/-- A field that may be missing or null. -/
def opt? (fs : Fields) (name : String) (read : Json → Option α) : Option (Option α) :=
  fs.getD? name none (nullable? read)

end Fields

end ModuleGraph.Json
