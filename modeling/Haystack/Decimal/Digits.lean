/-!
# Decimal digits

Natural numbers as lists of decimal digits, the most significant one first. Zero is the empty list
here: a list of digits that starts with something other than `0` belongs to exactly one positive
number, and whoever writes a zero decides how it looks.
-/

namespace Haystack

/-- A decimal digit. -/
abbrev Digit := Fin 10

namespace Digit

/-- The digit zero. -/
def zero : Digit :=
  ⟨0, Nat.zero_lt_succ 9⟩

/-- The digit one. -/
def one : Digit :=
  ⟨1, Nat.one_lt_succ_succ 8⟩

/-- The character of a digit. -/
def toChar (d : Digit) : Char :=
  Char.ofNat ('0'.toNat + d.val)

/-- The digit that a character shows, if it shows one. -/
def ofChar? (c : Char) : Option Digit :=
  if '0' ≤ c ∧ c ≤ '9' then some (Fin.ofNat 10 (c.toNat - '0'.toNat)) else none

/-- The digits of a number, the most significant one first; none at all for zero. -/
def ofNat (n : Nat) : List Digit :=
  if n = 0 then [] else ofNat (n / 10) ++ [Fin.ofNat 10 n]
termination_by n
decreasing_by omega

/-- The number that a list of digits writes; leading zeros do not count. -/
def toNat (ds : List Digit) : Nat :=
  ds.foldl (fun n d => 10 * n + d.val) 0

/-- How many digits a number has; zero has none. -/
def count (n : Nat) : Nat :=
  (ofNat n).length

/-- A digit at the end counts one, and what stands in front of it ten times more. -/
theorem toNat_append_singleton (ds : List Digit) (d : Digit) :
    toNat (ds ++ [d]) = 10 * toNat ds + d.val := by
  simp [toNat]

/-- Writing a number and reading it back gives the number. -/
theorem toNat_ofNat (n : Nat) : toNat (ofNat n) = n := by
  fun_induction ofNat n with
  | case1 => rfl
  | case2 n h ih =>
    rw [toNat_append_singleton, ih]
    simp [Fin.ofNat]
    omega

/-- Every digit is read back from its character. -/
theorem ofChar?_toChar (d : Digit) : ofChar? d.toChar = some d := by
  revert d
  decide

end Digit

end Haystack
