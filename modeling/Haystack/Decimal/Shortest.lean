import Haystack.Decimal.Basic

/-!
# The shortest decimal that reads back

Of all decimals that read as a given magnitude, the one to print has the fewest digits, and of those
it is the nearest to the magnitude. The search goes through the decimal grids from coarse to fine:
on the grid of `n` leading digits the magnitude has two neighbours, and if any decimal of `n` digits
reads back, one of these does. The first grid with a hit decides; of two hits the nearer one is
taken, and an exact tie goes as the caller says.

Whether a candidate reads back is asked of `Decimal.code` itself, so the answer cannot disagree with
the reader. Seventeen digits are enough for either precision. The function does not lean on that fact:
past the last grid it would give the exact expansion of the magnitude, which reads back as well.
-/

namespace Haystack

-- powers of natural numbers are those of the core library, also next to other power operations
attribute [local instance (high)] instPowNat

/-- Where an exact tie between two decimals goes. -/
inductive Tie where
  /-- To the larger one. -/
  | up
  /-- To the one with an even last digit. -/
  | toEven
  deriving DecidableEq

namespace Decimal

/-- The least `k` with `num / den < 10 ^ k`, for a positive quotient. -/
def quotientOrder (num den : Nat) : Int :=
  if den ≤ num then Digit.count (num / den)
  else 1 - (Digit.count ((den - 1) / num) : Int)

/-- Of the two neighbours of `num / den` on the grid of step `10 ^ exponent`, the one that reads as
`code`, or the nearer one if both do. -/
def onGrid? (tie : Tie) (p : Precision) (code num den : Nat) (exponent : Int) : Option Decimal :=
  -- in steps of the grid the magnitude is `top / bottom`
  let top := num * 10 ^ (-exponent).toNat
  let bottom := den * 10 ^ exponent.toNat
  let low := top / bottom
  let readsBack (d : Decimal) : Bool := d.code p == code
  let below := trim ⟨low, exponent⟩
  let above := trim ⟨low + 1, exponent⟩
  if readsBack below then
    if readsBack above then
      -- both read back: compare with the point halfway between them
      if 2 * top < (2 * low + 1) * bottom then some below
      else if (2 * low + 1) * bottom < 2 * top then some above
      else if tie = .toEven ∧ low % 2 = 0 then some below
      else some above
    else some below
  else if readsBack above then some above
  else none

/-- **The shortest decimal that reads as the positive finite magnitude `code`.** -/
def shortest (tie : Tie) (p : Precision) (code : Nat) : Decimal :=
  let num := p.units code
  let den := 2 ^ p.depth
  let order := quotientOrder num den
  -- a unit is `5 ^ depth / 10 ^ depth`
  let exact : Decimal := ⟨num * 5 ^ p.depth, -(p.depth : Int)⟩
  ((List.range 17).findSome? fun (n : Nat) =>
    onGrid? tie p code num den (order - (n + 1 : Nat))).getD exact

/-- A hit on a grid reads back. -/
theorem code_of_onGrid? {tie : Tie} {p : Precision} {c num den : Nat} {e : Int} {d : Decimal}
    (h : onGrid? tie p c num den e = some d) : d.code p = c := by
  simp only [onGrid?] at h
  repeat' split at h
  all_goals simp_all

end Decimal

end Haystack
