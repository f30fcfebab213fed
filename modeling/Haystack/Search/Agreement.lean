/-!
# Ways for items to agree

Relations that a caller may search by instead of equality. Each looks at the item of the haystack first
and at the item of the pattern second.
-/

namespace Haystack.Agreement

/-- The item of the haystack is the smaller one. -/
def less (x y : Int) : Bool :=
  decide (x < y)

/-- The item of the haystack is at least as large. -/
def atLeast (x y : Int) : Bool :=
  decide (y ≤ x)

/-- The item of the haystack divides the other one; zero divides nothing. -/
def divides (x y : Int) : Bool :=
  decide (x ≠ 0) && decide (Int.tmod y x = 0)

/-- The items differ by at most two. -/
def near (x y : Int) : Bool :=
  decide ((x - y).natAbs ≤ 2)

/-- The items are strings that differ in the case of ASCII letters only. -/
def ignoringCase (x y : String) : Bool :=
  x.map Char.toLower == y.map Char.toLower

/-- The string of the haystack continues the other one. -/
def startsWith (x y : String) : Bool :=
  y.toList.isPrefixOf x.toList

end Haystack.Agreement
