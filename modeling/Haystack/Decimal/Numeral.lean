import Haystack.Decimal.Shortest

/-!
# Numerals

A `Numeral` is a number as it stands in a text: a sign, the digits before the point, the digits after
it and an exponent of ten, the last two optional. It is what a reader of numbers finds and what a
printer of numbers lays out, so the two share it:

* `Numeral.text` is the text of a numeral and `Numeral.toDecimal` its exact magnitude.
* `Numeral.ofBinary style x` lays out the shortest digits of a finite number. A `NumeralStyle` says
  which exponents are written positionally, whether a whole number shows a fraction, and where an exact
  tie between two shortest decimals goes.
* `Numeral.plain` and `Numeral.json` are the two styles in use.
-/

namespace Haystack

/-- A number as written. An empty fraction means that no point is written. -/
structure Numeral where
  negative : Bool
  whole : List Digit
  fraction : List Digit
  exponent : Option Int
  deriving DecidableEq

/-- How the digits of a number are laid out. -/
structure NumeralStyle where
  /-- Where an exact tie between two shortest decimals goes. -/
  tie : Tie
  /-- Whether a number whose first digit stands for this power of ten is written positionally. -/
  positional : Int → Bool
  /-- Whether a positional whole number ends in a point and a zero. -/
  marksWhole : Bool

namespace NumeralStyle

/-- Plain text: always positional, a whole number without a point, a tie upwards. -/
def plain : NumeralStyle where
  tie := .up
  positional := fun _ => true
  marksWhole := false

/-- Numbers in JSON text: positional from `0.00001` up to sixteen digits before the point, a whole
number with a zero behind the point, a tie to the even digit. -/
def json : NumeralStyle where
  tie := .toEven
  positional := fun e => decide (-5 ≤ e ∧ e ≤ 15)
  marksWhole := true

/-- The fraction of a whole number. -/
def wholeFraction (s : NumeralStyle) : List Digit :=
  if s.marksWhole then [Digit.zero] else []

end NumeralStyle

namespace Numeral

/-- The magnitude of a numeral. -/
def toDecimal (n : Numeral) : Decimal where
  coefficient := Digit.toNat (n.whole ++ n.fraction)
  exponent := n.exponent.getD 0 - n.fraction.length

/-- Neither a point nor an exponent is written. -/
def isWhole (n : Numeral) : Bool :=
  n.fraction.isEmpty && n.exponent.isNone

/-- The digits of a number, a single `0` for zero. -/
def digitsOfNat (n : Nat) : List Digit :=
  if n = 0 then [Digit.zero] else Digit.ofNat n

/-- The text of an exponent, its sign always written. -/
def exponentText (e : Int) : List Char :=
  'e' :: (if e < 0 then '-' else '+') :: (digitsOfNat e.natAbs).map Digit.toChar

/-- **The text of a numeral.** -/
def text (n : Numeral) : List Char :=
  (if n.negative then ['-'] else []) ++ n.whole.map Digit.toChar ++
    (if n.fraction.isEmpty then [] else '.' :: n.fraction.map Digit.toChar) ++
    (n.exponent.map exponentText).getD []

/-- The numeral of an integer. -/
def ofInt (i : Int) : Numeral :=
  ⟨decide (i < 0), digitsOfNat i.natAbs, [], none⟩

/-- A decimal with the point where it belongs. -/
def positional (style : NumeralStyle) (negative : Bool) (d : Decimal) : Numeral :=
  let ds := Digit.ofNat d.coefficient
  if 0 ≤ d.exponent then
    ⟨negative, ds ++ List.replicate d.exponent.toNat Digit.zero, style.wholeFraction, none⟩
  else
    let places := (-d.exponent).toNat
    if places < ds.length then
      ⟨negative, ds.take (ds.length - places), ds.drop (ds.length - places), none⟩
    else
      ⟨negative, [Digit.zero], List.replicate (places - ds.length) Digit.zero ++ ds, none⟩

/-- A decimal with one digit before the point and the exponent of that digit. -/
def scientific (negative : Bool) (d : Decimal) : Numeral :=
  let ds := Digit.ofNat d.coefficient
  ⟨negative, ds.take 1, ds.drop 1, some (d.order - 1)⟩

/-- A decimal laid out in a style. -/
def ofDecimal (style : NumeralStyle) (negative : Bool) (d : Decimal) : Numeral :=
  if d.coefficient = 0 then ⟨negative, [Digit.zero], style.wholeFraction, none⟩
  else if style.positional (d.order - 1) then positional style negative d
  else scientific negative d

/-- **The shortest numeral of a finite number** in a style. -/
def ofBinary {p : Precision} (style : NumeralStyle) (x : Binary p) : Numeral :=
  ofDecimal style x.negative (if x.code = 0 then ⟨0, 0⟩ else Decimal.shortest style.tie p x.code)

end Numeral

/-- The plain text of a number, with words for the numbers that have no digits. -/
def Binary.plainText {p : Precision} (x : Binary p) : String :=
  if x.isNaN then "NaN"
  else if x.isInfinite then (if x.negative then "-inf" else "inf")
  else String.ofList (Numeral.ofBinary .plain x).text

end Haystack
