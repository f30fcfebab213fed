import Haystack.Decimal.Numeral
import Haystack.Proofs.Decimal.Shortest

/-!
# The layout of numerals

A decimal is laid out in one of five ways, one for each place that the point can have (`Layout`). In all
of them the numeral has the value of the decimal (`Layout.toRat_eq`), so a finite number is read back
from its shortest numeral in any style, and its sign with it (`ofDecimal_ofBinary`).

A numeral can only be found in a text again if it is **well formed**: it has digits before the point, and
no zero stands in front of another digit. Both printers lay out such numerals (`wellFormed_ofInt`,
`Layout.wellFormed`). In the style of JSON a floating-point number never looks like an integer
(`Layout.isWhole_json`), and its digits are few (`length_ofBinary_json_le`).
-/

namespace Haystack

/-! ### Lists of digits -/

namespace Digit

/-- Digits in front count by the place at which the others begin. -/
theorem toNat_append (ds es : List Digit) :
    toNat (ds ++ es) = toNat ds * 10 ^ es.length + toNat es := by
  -- induction on the last digit, the one that `toNat` adds
  induction es using List.reverseRecOn with
  | nil => simp [toNat]
  | append_singleton es e ih =>
    rw [← List.append_assoc, toNat_append_singleton, ih, toNat_append_singleton, List.length_append,
      List.length_singleton, Nat.pow_succ]
    ring

/-- Zeros alone stand for zero. -/
theorem toNat_replicate_zero (k : Nat) : toNat (List.replicate k zero) = 0 := by
  induction k with
  | zero => rfl
  | succ k ih =>
    rw [List.replicate_succ', toNat_append_singleton, ih]
    rfl

/-- A number other than zero has digits. -/
theorem ofNat_ne_nil {n : Nat} (h : n ≠ 0) : ofNat n ≠ [] := by
  rw [ofNat, if_neg h]
  exact List.append_ne_nil_of_right_ne_nil _ (List.cons_ne_nil _ _)

/-- **The digits of a number do not start with a zero.** -/
theorem head?_ofNat_ne (n : Nat) : (ofNat n).head? ≠ some zero := by
  fun_induction ofNat n with
  | case1 => simp
  | case2 n hn ih =>
    by_cases hdiv : n / 10 = 0
    · -- a single digit, the number itself
      have hlt : n < 10 := by omega
      rw [hdiv, ofNat, if_pos rfl, List.nil_append, List.head?_cons]
      intro hzero
      have hval := congrArg Fin.val (Option.some.inj hzero)
      rw [Fin.val_ofNat, Nat.mod_eq_of_lt hlt] at hval
      exact hn hval
    · -- the first digit is that of the tenth
      rwa [List.head?_append_of_ne_nil _ (ofNat_ne_nil hdiv)]

end Digit

namespace Numeral

variable {style : NumeralStyle} {negative : Bool} {d : Decimal} {p : Precision}

/-! ### The layouts of a decimal -/

/-- **The layouts of a decimal**, one for each place that the point can have. -/
inductive Layout (style : NumeralStyle) (negative : Bool) (d : Decimal) : Numeral → Prop
  /-- Zero is a single digit. -/
  | zero (hd : d.coefficient = 0) :
    Layout style negative d ⟨negative, [Digit.zero], style.wholeFraction, none⟩
  /-- The point is `k` places behind the digits. -/
  | behind (k : Nat) (hd : d.coefficient ≠ 0) (hplace : style.positional (d.order - 1))
      (hexp : d.exponent = k) :
    Layout style negative d ⟨negative, Digit.ofNat d.coefficient ++ List.replicate k Digit.zero,
      style.wholeFraction, none⟩
  /-- The point is behind the first `k` digits, and more follow. -/
  | among (k : Nat) (hd : d.coefficient ≠ 0) (hplace : style.positional (d.order - 1)) (hk : k ≠ 0)
      (hlt : k < Digit.count d.coefficient) (hexp : d.exponent = k - Digit.count d.coefficient) :
    Layout style negative d ⟨negative, (Digit.ofNat d.coefficient).take k,
      (Digit.ofNat d.coefficient).drop k, none⟩
  /-- The point is `k` places before the digits. -/
  | before (k : Nat) (hd : d.coefficient ≠ 0) (hplace : style.positional (d.order - 1))
      (hexp : d.exponent = -(k + Digit.count d.coefficient)) :
    Layout style negative d ⟨negative, [Digit.zero],
      List.replicate k Digit.zero ++ Digit.ofNat d.coefficient, none⟩
  /-- The point is behind the first digit, and the exponent says where it belongs. -/
  | scientific (hd : d.coefficient ≠ 0) :
    Layout style negative d ⟨negative, (Digit.ofNat d.coefficient).take 1,
      (Digit.ofNat d.coefficient).drop 1, some (d.order - 1)⟩

/-- **A decimal is laid out in one of the five ways.** -/
theorem layout_ofDecimal (style : NumeralStyle) (negative : Bool) (d : Decimal) :
    Layout style negative d (ofDecimal style negative d) := by
  have hdigits : (Digit.ofNat d.coefficient).length = Digit.count d.coefficient := rfl
  rw [ofDecimal]
  split
  · next hd => exact .zero hd
  · next hd =>
    split
    · next hplace =>
      rw [positional]
      dsimp only
      -- a whole number, or else the point is among the digits or before all of them
      split
      · next hexp => exact .behind d.exponent.toNat hd hplace (Int.toNat_of_nonneg hexp).symm
      · next hexp =>
        split
        · next hlt => exact .among _ hd hplace (by omega) (by omega) (by omega)
        · next hle => exact .before _ hd hplace (by omega)
    · exact .scientific hd

/-- A number is laid out as its shortest decimal, and zero as the decimal `0`. -/
theorem layout_ofBinary (style : NumeralStyle) (x : Binary p) :
    Layout style x.negative
      (if x.code = 0 then ⟨0, 0⟩ else Decimal.shortest style.tie p x.code) (ofBinary style x) :=
  layout_ofDecimal style x.negative _

/-! ### Layout keeps the value -/

/-- The value of a numeral: its digits in one row, from the place that fraction and exponent name. -/
theorem toRat_toDecimal (n : Numeral) : n.toDecimal.toRat
    = Digit.toNat (n.whole ++ n.fraction) * 10 ^ (n.exponent.getD 0 - n.fraction.length) :=
  rfl

/-- The fraction of a whole number is made of zeros. -/
theorem wholeFraction_eq_replicate (s : NumeralStyle) :
    s.wholeFraction = List.replicate s.wholeFraction.length Digit.zero := by
  rw [NumeralStyle.wholeFraction]
  split <;> rfl

/-- **The numeral of a decimal has its value**, however it is laid out. -/
theorem Layout.toRat_eq {n : Numeral} (h : Layout style negative d n) :
    n.toDecimal.toRat = d.toRat := by
  have hdigits : (Digit.ofNat d.coefficient).length = Digit.count d.coefficient := rfl
  cases h with
  | zero hd =>
    -- no digit but zeros
    rw [Decimal.toRat_eq_zero_iff.2 hd, Decimal.toRat_eq_zero_iff, toDecimal,
      wholeFraction_eq_replicate, ← List.replicate_one, ← List.replicate_add,
      Digit.toNat_replicate_zero]
  | behind k hd _ hexp =>
    -- zeros before the point and, maybe, behind it
    rw [toRat_toDecimal, wholeFraction_eq_replicate, Digit.toNat_append, Digit.toNat_append,
      Digit.toNat_replicate_zero, Digit.toNat_replicate_zero, Digit.toNat_ofNat, Decimal.toRat, hexp]
    simp only [List.length_replicate, Option.getD_none, zero_sub, zpow_neg, zpow_natCast, add_zero]
    push_cast
    field_simp
  | among k hd _ hk hlt hexp =>
    -- the same digits, of which those behind the point are counted off the exponent
    have hplaces : (0 : ℤ) - ((Digit.count d.coefficient - k : ℕ) : ℤ) = d.exponent := by omega
    rw [toRat_toDecimal, List.take_append_drop, Digit.toNat_ofNat, List.length_drop, hdigits,
      Option.getD_none, hplaces, Decimal.toRat]
  | before k hd _ hexp =>
    -- zeros in front of the digits do not count
    have hplaces : (0 : ℤ) - ((k + Digit.count d.coefficient : ℕ) : ℤ) = d.exponent := by omega
    rw [toRat_toDecimal, ← List.append_assoc, Digit.toNat_append, List.length_append,
      List.length_replicate, Digit.toNat_ofNat, hdigits, Option.getD_none, hplaces, Decimal.toRat,
      ← List.replicate_one, ← List.replicate_add, Digit.toNat_replicate_zero, Nat.zero_mul,
      Nat.zero_add]
  | scientific hd =>
    have hcount : 0 < (Digit.ofNat d.coefficient).length :=
      List.length_pos_iff.2 (Digit.ofNat_ne_nil hd)
    -- the exponent makes up for the digits behind the point
    have hexp : d.order - 1 - ((Digit.count d.coefficient - 1 : ℕ) : ℤ) = d.exponent := by
      rw [Decimal.order]
      omega
    rw [toRat_toDecimal, List.take_append_drop, Digit.toNat_ofNat, List.length_drop, hdigits,
      Option.getD_some, hexp, Decimal.toRat]

/-- The sign of a numeral is the one that it is laid out with. -/
theorem Layout.negative_eq {n : Numeral} (h : Layout style negative d n) :
    n.negative = negative := by
  cases h <;> rfl

/-- **A finite number is read back from its shortest numeral.** -/
theorem ofDecimal_ofBinary (style : NumeralStyle) {x : Binary p} (hx : x.isFinite) :
    Binary.ofDecimal (ofBinary style x).negative (ofBinary style x).toDecimal = x := by
  have hfinite : x.code < p.infinityCode := of_decide_eq_true hx
  -- the layout keeps the value, and the shortest decimal of that value reads back
  have hcode : (ofBinary style x).toDecimal.code p = x.code := by
    rw [Decimal.code_eq_of_toRat_eq p (layout_ofBinary style x).toRat_eq]
    split
    · next hzero =>
      rw [hzero]
      rfl
    · next hzero => exact Decimal.code_shortest style.tie hzero hfinite
  have hsign : (ofBinary style x).negative = x.negative := (layout_ofBinary style x).negative_eq
  simp only [Binary.ofDecimal, hsign, hcode]

/-! ### Well-formed numerals -/

/-- A numeral with digits before the point, none of them a zero in front of another. -/
structure WellFormed (n : Numeral) : Prop where
  nonempty : n.whole ≠ []
  noLeadingZero : n.whole.head? = some Digit.zero → n.whole = [Digit.zero]

/-- A single zero before the point is fine. -/
theorem wellFormed_of_whole_eq_zero {n : Numeral} (h : n.whole = [Digit.zero]) : n.WellFormed :=
  ⟨h ▸ List.cons_ne_nil _ _, fun _ => h⟩

/-- So are the leading digits of a positive number, also with more digits after them. -/
theorem wellFormed_of_whole_eq_take {n : Numeral} {m k : Nat} (ds : List Digit) (hm : m ≠ 0)
    (hk : k ≠ 0) (h : n.whole = (Digit.ofNat m).take k ++ ds) : n.WellFormed := by
  have htake : (Digit.ofNat m).take k ≠ [] := by
    rw [ne_eq, List.take_eq_nil_iff]
    exact not_or_intro hk (Digit.ofNat_ne_nil hm)
  -- the first digit is that of `m`, which is not zero
  have hhead : n.whole.head? ≠ some Digit.zero := by
    rw [h, List.head?_append_of_ne_nil _ htake, List.head?_take, if_neg hk]
    exact Digit.head?_ofNat_ne m
  exact ⟨h ▸ List.append_ne_nil_of_left_ne_nil htake ds, fun hzero => absurd hzero hhead⟩

/-- An integer is written as a single zero or with the digits of a positive number. -/
theorem digitsOfNat_eq_zero_or (n : Nat) :
    digitsOfNat n = [Digit.zero] ∨ n ≠ 0 ∧ digitsOfNat n = Digit.ofNat n := by
  rw [digitsOfNat]
  split
  · exact .inl rfl
  · next hn => exact .inr ⟨hn, rfl⟩

/-- The digits of an integer stand for its magnitude. -/
theorem toNat_digitsOfNat (n : Nat) : Digit.toNat (digitsOfNat n) = n := by
  rw [digitsOfNat]
  split
  · next hzero =>
    rw [hzero]
    rfl
  · exact Digit.toNat_ofNat n

/-- **Numerals of integers are well formed.** -/
theorem wellFormed_ofInt (i : Int) : (ofInt i).WellFormed := by
  rcases digitsOfNat_eq_zero_or i.natAbs with hzero | ⟨hi, hdigits⟩
  · exact wellFormed_of_whole_eq_zero hzero
  · refine wellFormed_of_whole_eq_take (k := (Digit.ofNat i.natAbs).length) [] hi
      (List.length_pos_iff.2 (Digit.ofNat_ne_nil hi)).ne' ?_
    rw [List.take_length, List.append_nil]
    exact hdigits

/-- **Numerals of decimals are well formed.** -/
theorem Layout.wellFormed {n : Numeral} (h : Layout style negative d n) : n.WellFormed := by
  cases h with
  | zero hd => exact wellFormed_of_whole_eq_zero rfl
  | behind k hd _ hexp =>
    -- all of the digits, with zeros after them
    refine wellFormed_of_whole_eq_take (k := (Digit.ofNat d.coefficient).length)
      (List.replicate k Digit.zero) hd (List.length_pos_iff.2 (Digit.ofNat_ne_nil hd)).ne' ?_
    rw [List.take_length]
  | among k hd _ hk hlt hexp =>
    exact wellFormed_of_whole_eq_take [] hd hk (List.append_nil _).symm
  | before k hd _ hexp => exact wellFormed_of_whole_eq_zero rfl
  | scientific hd =>
    exact wellFormed_of_whole_eq_take [] hd Nat.one_ne_zero (List.append_nil _).symm

/-! ### Floating-point numbers in JSON -/

/-- **In JSON a decimal is not laid out as an integer**: it shows a fraction or an exponent. -/
theorem Layout.isWhole_json {n : Numeral} (h : Layout .json negative d n) :
    n.isWhole = false := by
  cases h with
  | zero hd => rfl
  | behind k hd _ hexp => rfl
  | among k hd _ hk hlt hexp =>
    -- digits are left for the fraction
    rw [isWhole, Bool.and_eq_false_iff, List.isEmpty_eq_false_iff, ne_eq, List.drop_eq_nil_iff]
    exact .inl (Nat.not_le.2 hlt)
  | before k hd _ hexp =>
    -- all digits are in the fraction
    rw [isWhole, Bool.and_eq_false_iff, List.isEmpty_eq_false_iff]
    exact .inl (List.append_ne_nil_of_right_ne_nil _ (Digit.ofNat_ne_nil hd))
  | scientific hd => exact Bool.and_false _

/-- In JSON a decimal is laid out with few digits more than its own. -/
theorem Layout.length_json_le {n : Numeral} (h : Layout .json negative d n) :
    (n.whole ++ n.fraction).length ≤ Digit.count d.coefficient + 17 := by
  have hdigits : (Digit.ofNat d.coefficient).length = Digit.count d.coefficient := rfl
  -- the style is positional between these orders only
  have hrange (h : NumeralStyle.json.positional (d.order - 1)) :
      -4 ≤ Digit.count d.coefficient + d.exponent
        ∧ Digit.count d.coefficient + d.exponent ≤ 16 := by
    have horder : -5 ≤ d.order - 1 ∧ d.order - 1 ≤ 15 := of_decide_eq_true h
    rw [Decimal.order] at horder
    omega
  cases h with
  | zero hd => exact (show 2 ≤ 17 by decide).trans (Nat.le_add_left _ _)
  | behind k hd hplace hexp =>
    have hfraction : NumeralStyle.json.wholeFraction.length = 1 := rfl
    -- `k` zeros before the point and one behind it
    have hk := hrange hplace
    simp only [List.length_append, List.length_replicate, hfraction]
    omega
  | among k hd _ hk hlt hexp =>
    rw [List.take_append_drop]
    omega
  | before k hd hplace hexp =>
    -- a zero before the point and `k` zeros behind it
    have hk := hrange hplace
    simp only [List.length_append, List.length_replicate, List.length_singleton]
    omega
  | scientific hd =>
    rw [List.take_append_drop]
    omega

/-- **A floating-point number has few digits in JSON.** -/
theorem length_ofBinary_json_le {x : Binary p} (hx : x.isFinite) :
    ((ofBinary .json x).whole ++ (ofBinary .json x).fraction).length ≤ 35 := by
  have hfinite : x.code < p.infinityCode := of_decide_eq_true hx
  refine (layout_ofBinary .json x).length_json_le.trans (Nat.add_le_add_right ?_ 17)
  -- eighteen digits at most, since the shortest decimal has no more than seventeen and a power of ten
  rw [Digit.count_le_iff]
  split
  · decide
  · next hzero =>
    exact (Decimal.coefficient_shortest_le _ hzero hfinite).trans_lt (by decide)

end Numeral

end Haystack
