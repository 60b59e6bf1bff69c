import ModuleGraph.Json.Token
import ModuleGraph.KeyedSet

/-! # Reading JSON text

The tokens drive a stack of lists and records that are still open, which may not grow too deep.
Of several fields with one name the last one counts. -/

namespace ModuleGraph.Json

/-- A list or record that is still open; lists are collected in reverse. -/
inductive Open where
  | list (items : List Json)
  | record (fields : List (String × Json))
  /-- A record in which a field has been named. -/
  | field (fields : List (String × Json)) (name : String)

/-- What may come next. -/
inductive Expect where
  /-- The first item or field, or the end of the list or record. -/
  | first
  | item
  | fieldName
  | colon
  /-- A comma, or the end of the list or record. -/
  | more
  /-- Nothing: the value is complete. -/
  | done (j : Json)

structure ParseState where
  stack : List Open
  expect : Expect

namespace ParseState

/-- How many lists and records may be open at once. -/
def deepest : Nat := 127

/-- Puts a complete value where it belongs. -/
def place (j : Json) : List Open → Option ParseState
  | [] => some ⟨[], .done j⟩
  | .list items :: rest => some ⟨.list (j :: items) :: rest, .more⟩
  | .field fields name :: rest =>
    some ⟨.record (insertByKey Prod.fst (name, j) fields) :: rest, .more⟩
  | .record _ :: _ => none

/-- Whether a value may come next. -/
def wantsValue (s : ParseState) : Bool :=
  match s.expect, s.stack with
  | .item, _ => true
  | .first, .list _ :: _ => true
  | _, _ => false

/-- Whether the innermost list or record may end here. -/
def mayClose (s : ParseState) : Bool :=
  match s.expect with
  | .first => true
  | .more => true
  | _ => false

/-- Opens a list or record, if a value may come next. -/
def openNext (s : ParseState) (o : Open) : Option ParseState :=
  if s.wantsValue && s.stack.length < deepest then some ⟨o :: s.stack, .first⟩ else none

/-- Takes one token. -/
def step (s : ParseState) (t : Token) : Option ParseState :=
  match t with
  | .value j => if s.wantsValue then place j s.stack else none
  | .text name =>
    if s.wantsValue then place (.text name) s.stack
    else
      match s.expect, s.stack with
      | .first, .record fields :: rest => some ⟨.field fields name :: rest, .colon⟩
      | .fieldName, .record fields :: rest => some ⟨.field fields name :: rest, .colon⟩
      | _, _ => none
  | .openList => s.openNext (.list [])
  | .openRecord => s.openNext (.record [])
  | .closeList =>
    match s.mayClose, s.stack with
    | true, .list items :: rest => place (.list items.reverse) rest
    | _, _ => none
  | .closeRecord =>
    match s.mayClose, s.stack with
    | true, .record fields :: rest => place (.record fields) rest
    | _, _ => none
  | .colon =>
    match s.expect with
    | .colon => some ⟨s.stack, .item⟩
    | _ => none
  | .comma =>
    match s.expect, s.stack with
    | .more, .list _ :: _ => some ⟨s.stack, .item⟩
    | .more, .record _ :: _ => some ⟨s.stack, .fieldName⟩
    | _, _ => none

end ParseState

/-- The value that a text writes, if it writes one. -/
def parse? (s : String) : Option Json := do
  let tokens ← tokens? s
  let final ← tokens.foldlM ParseState.step ⟨[], .item⟩
  match final.expect with
  | .done j => some j
  | _ => none

end ModuleGraph.Json
