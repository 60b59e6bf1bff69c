import ModuleGraph.Condition

/-! # Product filters

A filter says which products of a package are needed: all of them or a finite set.  Filters only
grow; `merge` also tells whether one did. -/

namespace ModuleGraph

/-- Which products of a package are needed. -/
inductive ProductFilter where
  | everything
  | only (names : Names)
  deriving DecidableEq

namespace ProductFilter

/-- No products. -/
def nothing : ProductFilter := .only KeyedSet.empty

instance : Inhabited ProductFilter := ⟨nothing⟩

/-- Exactly the products of a list. -/
def ofList (names : List String) : ProductFilter := .only (KeyedSet.ofList names)

/-- Whether a product is needed. -/
def contains : ProductFilter → String → Bool
  | .everything, _ => true
  | .only names, product => names.contains product

/-- The products that either filter needs. -/
def union : ProductFilter → ProductFilter → ProductFilter
  | .everything, _ => .everything
  | _, .everything => .everything
  | .only a, .only b => .only (a.union b)

/-- Whether the filter needs more after another has been joined to it. -/
def growsBy : ProductFilter → ProductFilter → Bool
  | .everything, _ => false
  | .only _, .everything => true
  | .only a, .only b => (a.union b).size != a.size

/-- The filter as text. -/
def write : ProductFilter → String
  | .everything => "everything"
  | .only names => "[" ++ ", ".intercalate names.toList ++ "]"

end ProductFilter

end ModuleGraph
