import ModuleGraph.Text.Split

/-! # Paths

A path is kept as it was written.  What it means is its list of components: empty pieces and
pieces `.` are passed over, except a `.` that a relative path begins with.  Two paths are the same
place when they have the same components, one lies below another when its components begin with
the other's, and paths are ordered by their components. -/

namespace ModuleGraph

/-- A step of a path; the constructors are in ascending order. -/
inductive Component where
  | root
  | current
  | parent
  | name (text : String)
  deriving DecidableEq

namespace Component

/-- Tells the kinds of components apart, in ascending order. -/
def rank : Component → Nat
  | .root => 0
  | .current => 1
  | .parent => 2
  | .name _ => 3

/-- The text of a name; nothing for the other components. -/
def label : Component → String
  | .name text => text
  | _ => ""

/-- By kind first, names among each other by their text. -/
instance : Ord Component := ⟨compareLex (compareOn rank) (compareOn label)⟩

instance : Std.TransOrd Component :=
  inferInstanceAs (Std.TransCmp (compareLex (compareOn rank) (compareOn label)))

instance : Std.LawfulEqOrd Component where
  eq_of_compare {a b} h := by
    have h : compareLex (compareOn rank) (compareOn label) a b = .eq := h
    rw [compareLex_eq_eq] at h
    have hr : a.rank = b.rank := Std.LawfulEqOrd.eq_of_compare h.1
    have hl : a.label = b.label := Std.LawfulEqOrd.eq_of_compare h.2
    cases a <;> cases b <;> simp_all [rank, label]

end Component

/-- A path as it was written. -/
structure Path where
  text : String
  deriving DecidableEq, Inhabited

namespace Path

private def isSlash (c : Char) : Bool := c == '/'

/-- Whether the path begins at the root. -/
def isAbsolute (p : Path) : Bool := p.text.toList.head? == some '/'

/-- The component that a piece between slashes stands for, unless it is passed over. -/
def componentOf? (piece : List Char) : Option Component :=
  if piece = [] then none
  else if piece = ['.'] then none
  else if piece = ['.', '.'] then some .parent
  else some (.name (String.ofList piece))

/-- The steps that the path takes. -/
def components (p : Path) : List Component :=
  let pieces := Text.splitWhere isSlash p.text.toList
  let start : List Component :=
    if p.isAbsolute then [.root] else if pieces.head? = some ['.'] then [.current] else []
  start ++ pieces.filterMap componentOf?

/-- `other` as seen from `p`: an absolute path stands for itself, a relative one is added after a
slash. -/
def join (p other : Path) : Path :=
  if other.isAbsolute then other
  else if p.text.toList = [] ∨ p.text.toList.getLast? = some '/' then ⟨p.text ++ other.text⟩
  else ⟨p.text ++ "/" ++ other.text⟩

/-- The name of the file or directory, unless the path ends in the root, `.` or `..`. -/
def fileName? (p : Path) : Option String :=
  match p.components.getLast? with
  | some (.name text) => some text
  | _ => none

/-- Whether `p` is `base` or lies below it. -/
def isBelow (p base : Path) : Bool := base.components.isPrefixOf p.components

end Path

end ModuleGraph
