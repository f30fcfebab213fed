/-!
# Element kinds

Every array holds items of one kind. Eight kinds are **flat**: their items are plain data with one
fixed equality and one fixed contribution to a hash. The ninth kind holds references, whose items may
be arrays again. The split into `FlatKind` and `Kind` keeps the recursion of nested arrays out of
everything that is said about flat ones.
-/

namespace Haystack

/-- The kinds whose items are plain data. -/
inductive FlatKind where
  | int64
  | int32
  | int16
  | int8
  | float64
  | float32
  | bool
  | char
  deriving DecidableEq

/-- The kind of the items of an array. -/
inductive Kind where
  | flat (kind : FlatKind)
  | reference
  deriving DecidableEq

/-- The coarse families that kinds fall into. -/
inductive Family where
  | integral
  | floating
  | bool
  | char
  | reference
  deriving DecidableEq

namespace Family

/-- The name of a family. -/
def label : Family → String
  | integral => "Integral"
  | floating => "Floating"
  | bool => "Bool"
  | char => "Char"
  | reference => "Reference"

end Family

namespace FlatKind

/-- The name of a flat kind. -/
def label : FlatKind → String
  | int64 => "Int64"
  | int32 => "Int32"
  | int16 => "Int16"
  | int8 => "Int8"
  | float64 => "Float64"
  | float32 => "Float32"
  | bool => "Bool"
  | char => "Char"

/-- The family of a flat kind. -/
def family : FlatKind → Family
  | int64 | int32 | int16 | int8 => .integral
  | float64 | float32 => .floating
  | bool => .bool
  | char => .char

end FlatKind

namespace Kind

/-- All kinds, in the order in which they are registered. -/
def all : List Kind :=
  [.flat .int64, .flat .int32, .flat .int16, .flat .int8, .flat .float64, .flat .float32,
    .flat .bool, .flat .char, .reference]

/-- The name of a kind. -/
def label : Kind → String
  | flat k => k.label
  | reference => "Reference"

/-- The family of a kind. -/
def family : Kind → Family
  | flat k => k.family
  | reference => .reference

/-- Whether the items are floating-point numbers. -/
def isFloating (k : Kind) : Bool :=
  decide (k.family = .floating)

/-- Whether a search may ask for a tolerance window: only the distance of floating-point numbers is
measured, all other kinds compare exactly. -/
def supportsTolerance (k : Kind) : Bool :=
  k.isFloating

/-- The place of a kind in `Kind.all`. -/
def position (k : Kind) : Nat :=
  all.idxOf k

/-- The kind of a given name. -/
def ofLabel? (s : String) : Option Kind :=
  all.find? fun k => k.label == s

/-- Every kind is registered, once. -/
theorem count_all (k : Kind) : all.count k = 1 := by
  cases k with
  | flat k => cases k <;> decide
  | reference => decide

/-- The kind at the place of a kind is that kind. -/
theorem all_position (k : Kind) : all[k.position]? = some k := by
  cases k with
  | flat k => cases k <;> decide
  | reference => decide

end Kind

end Haystack
