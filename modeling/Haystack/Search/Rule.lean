import Haystack.Search.Tolerance
import Haystack.Value.Element

/-!
# When items agree in a search

Each kind has its **search rule**. Discrete kinds know no window, and their items agree when they are
equal. Floating-point items agree when they are within a tolerance window, by default the empty one.
References agree when they are deeply equal, so searching for references and comparing them are one
notion. Unlike exact equality the floating-point rule is not transitive, and no equality or hash rests
on it.
-/

namespace Haystack

/-- How the items of a type are compared in a search. -/
structure SearchRule (α : Type) where
  /-- What a caller may say about how close items have to be. -/
  Window : Type
  /-- The window when nothing is said. -/
  default : Window
  /-- Whether an item of the haystack and an item of the pattern agree. -/
  agree : Window → α → α → Bool

/-- The rule of a discrete kind. -/
def SearchRule.discrete {α : Type} (equal : α → α → Bool) : SearchRule α where
  Window := Unit
  default := ()
  agree := fun _ => equal

/-- The rule of the floating-point numbers of one precision. -/
def SearchRule.floating (p : Precision) : SearchRule (Binary p) where
  Window := Tolerance p
  default := .zero p
  agree := Tolerance.admits

/-- The rule of a flat kind. -/
def FlatKind.searchRule : (k : FlatKind) → SearchRule k.Item
  | int64 => .discrete fun x y => decide (x = y)
  | int32 => .discrete fun x y => decide (x = y)
  | int16 => .discrete fun x y => decide (x = y)
  | int8 => .discrete fun x y => decide (x = y)
  | float64 => .floating .double
  | float32 => .floating .single
  | bool => .discrete fun x y => decide (x = y)
  | char => .discrete fun x y => decide (x = y)

/-- The window of a flat kind that belongs to a tolerance of 64 bits: the tolerance itself, the
narrowed one, or nothing for a discrete kind. -/
def FlatKind.windowOf : (k : FlatKind) → Tolerance .double → k.searchRule.Window
  | float64, t => t
  | float32, t => t.narrow
  | int64, _ | int32, _ | int16, _ | int8, _ | bool, _ | char, _ => ()

/-- The rule of references under an equality of opaque values. -/
def Element.searchRule {α : Type} (equal : α → α → Bool) : SearchRule (Element α) :=
  .discrete (Element.deepEq equal)

end Haystack
