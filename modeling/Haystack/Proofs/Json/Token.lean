import Haystack.Json.Token
import Haystack.Proofs.Decimal.Numeral

/-!
# Reading back what is written

The reader of tokens takes a numeral as far as it goes, so a numeral that stands in a text is found
again if nothing after it would continue it (`EndsNumeral`): the next character, if there is one, is
neither a digit nor a point nor the letter of an exponent. With that, and digits before the point as the
grammar has them (`Numeral.WellFormed`), **a text of a numeral is read as that numeral** and nothing
more (`NumeralText.numeral?_eq`). A numeral has several texts, as its exponent can be written in several
ways (`ExponentText`), and the one that is written here is one of them (`numeralText_text`).

The other tokens end with themselves. So the tokens of a text can be taken off its front one by one:
`NumeralText.ofText_eq` for a numeral, `ofText_string` for a string without escapes and `ofText_symbol`
for the words and marks.
-/

namespace Haystack

/-- The character of a digit is that of one. -/
theorem Digit.isDigit_toChar (d : Digit) : (ofChar? d.toChar).isSome := by
  rw [ofChar?_toChar]
  rfl

/-- A digit does not look like anything else that a reader takes notice of. -/
theorem Digit.toChar_not_special (d : Digit) :
    d.toChar ≠ '-' ∧ Json.Token.isBlank d.toChar = false := by
  revert d
  decide

/-- A digit is no plus sign. -/
theorem Digit.toChar_ne_plus (d : Digit) : d.toChar ≠ '+' := by
  revert d
  decide

namespace Json.Token

variable {s t rest : List Char} {ds : List Digit} {n : Numeral}

/-! ### What may follow -/

/-- What may follow digits: nothing that is a digit itself. -/
def EndsDigits (s : List Char) : Prop :=
  ∀ c ∈ s.head?, Digit.ofChar? c = none

/-- **What may follow a numeral**: nothing that would continue it. -/
def EndsNumeral (s : List Char) : Prop :=
  ∀ c ∈ s.head?, Digit.ofChar? c = none ∧ c ≠ '.' ∧ c ≠ 'e' ∧ c ≠ 'E'

/-- What may follow a numeral may follow its digits. -/
theorem EndsNumeral.endsDigits (h : EndsNumeral s) : EndsDigits s :=
  fun c hc => (h c hc).1

/-- Digits end before any other character. -/
theorem endsDigits_cons {c : Char} (h : Digit.ofChar? c = none) (s : List Char) :
    EndsDigits (c :: s) := by
  simpa [EndsDigits] using h

/-- A numeral ends before a character that could be no part of it. -/
theorem endsNumeral_cons {c : Char}
    (h : Digit.ofChar? c = none ∧ c ≠ '.' ∧ c ≠ 'e' ∧ c ≠ 'E') (s : List Char) :
    EndsNumeral (c :: s) := by
  simpa [EndsNumeral] using h

/-- A numeral ends with the text. -/
theorem endsNumeral_nil : EndsNumeral [] :=
  nofun

/-- A numeral ends before a comma. -/
theorem endsNumeral_comma (s : List Char) : EndsNumeral (',' :: s) :=
  endsNumeral_cons (by decide) s

/-- A numeral ends before the end of a list. -/
theorem endsNumeral_endList (s : List Char) : EndsNumeral (']' :: s) :=
  endsNumeral_cons (by decide) s

/-- A numeral ends before the end of an object. -/
theorem endsNumeral_endObject (s : List Char) : EndsNumeral ('\x7d' :: s) :=
  endsNumeral_cons (by decide) s

/-! ### The parts of a numeral -/

/-- **Digits are read to their end.** -/
theorem digits_map_toChar (ds : List Digit) (h : EndsDigits rest) :
    digits (ds.map Digit.toChar ++ rest) = (ds, rest) := by
  induction ds with
  | nil =>
    -- what follows is no digit
    cases rest with
    | nil => rfl
    | cons c rest =>
      rw [List.map_nil, List.nil_append, digits, h c (Option.mem_some_self c)]
  | cons d ds ih =>
    rw [List.map_cons, List.cons_append, digits, Digit.ofChar?_toChar]
    dsimp only
    rw [ih]

/-- So are digits of which there has to be one. -/
theorem someDigits?_map_toChar (hds : ds ≠ []) (h : EndsDigits rest) :
    someDigits? (ds.map Digit.toChar ++ rest) = some (ds, rest) := by
  rw [someDigits?, digits_map_toChar ds h, if_neg hds]

/-- The digits before the point are read, as no zero stands in front of another of them. -/
theorem wholePart?_map_toChar (hn : n.WellFormed) (h : EndsDigits rest) :
    wholePart? (n.whole.map Digit.toChar ++ rest) = some (n.whole, rest) := by
  rw [wholePart?, someDigits?_map_toChar hn.nonempty h]
  split
  · next hzero =>
    -- a zero in front of another digit
    have hwhole := congrArg Prod.fst (Option.some.inj hzero)
    have hsingle := hn.noLeadingZero (congrArg List.head? hwhole)
    rw [hsingle] at hwhole
    cases hwhole
  · rfl

/-- The text of a fraction, with its point. -/
def fractionText (ds : List Digit) : List Char :=
  if ds.isEmpty then [] else '.' :: ds.map Digit.toChar

/-- A fraction ends the digits before it, with its point or by its absence. -/
theorem endsDigits_fractionText (ds : List Digit) (h : EndsDigits rest) :
    EndsDigits (fractionText ds ++ rest) := by
  cases ds with
  | nil => exact h
  | cons d ds => exact endsDigits_cons (by decide) _

/-- **A fraction is read**, if what follows it is neither a digit nor, in its absence, a point. -/
theorem fractionPart?_fractionText (ds : List Digit) (h : EndsDigits rest)
    (hpoint : rest.head? ≠ some '.') :
    fractionPart? (fractionText ds ++ rest) = some (ds, rest) := by
  cases ds with
  | nil =>
    -- a fraction is left out where there is no point
    rw [fractionText, if_pos List.isEmpty_nil, List.nil_append, fractionPart?]
    rintro tail rfl
    exact hpoint rfl
  | cons d ds =>
    have hcons : fractionText (d :: ds) ++ rest = '.' :: ((d :: ds).map Digit.toChar ++ rest) := rfl
    rw [hcons, fractionPart?, someDigits?_map_toChar (List.cons_ne_nil d ds) h]

/-- The text of an exponent that may be left out. -/
def exponentText? (e : Option Int) : List Char :=
  (e.map Numeral.exponentText).getD []

/-- **The texts of an exponent**: a letter in either case, a sign that may be left out if it is a plus,
and digits. -/
inductive ExponentText : Option Int → List Char → Prop
  | none : ExponentText none []
  | unsigned {c : Char} {ds : List Digit} (hc : c = 'e' ∨ c = 'E') (hds : ds ≠ []) :
    ExponentText (some (Digit.toNat ds)) (c :: ds.map Digit.toChar)
  | plus {c : Char} {ds : List Digit} (hc : c = 'e' ∨ c = 'E') (hds : ds ≠ []) :
    ExponentText (some (Digit.toNat ds)) (c :: '+' :: ds.map Digit.toChar)
  | minus {c : Char} {ds : List Digit} (hc : c = 'e' ∨ c = 'E') (hds : ds ≠ []) :
    ExponentText (some (-Digit.toNat ds)) (c :: '-' :: ds.map Digit.toChar)

/-- The exponent that is written is one of its texts. -/
theorem exponentText_exponentText? (e : Option Int) : ExponentText e (exponentText? e) := by
  cases e with
  | none => exact .none
  | some e =>
    -- the sign is always written
    have hdigits : Numeral.digitsOfNat e.natAbs ≠ [] := (Numeral.wellFormed_ofInt e).nonempty
    have hvalue := Numeral.toNat_digitsOfNat e.natAbs
    by_cases hneg : e < 0
    · have htext : exponentText? (some e)
          = 'e' :: '-' :: (Numeral.digitsOfNat e.natAbs).map Digit.toChar := by
        rw [exponentText?, Option.map_some, Option.getD_some, Numeral.exponentText, if_pos hneg]
      have hexp : e = -(Digit.toNat (Numeral.digitsOfNat e.natAbs) : Int) := by omega
      rw [htext]
      nth_rewrite 1 [hexp]
      exact .minus (.inl rfl) hdigits
    · have htext : exponentText? (some e)
          = 'e' :: '+' :: (Numeral.digitsOfNat e.natAbs).map Digit.toChar := by
        rw [exponentText?, Option.map_some, Option.getD_some, Numeral.exponentText, if_neg hneg]
      have hexp : e = (Digit.toNat (Numeral.digitsOfNat e.natAbs) : Int) := by omega
      rw [htext]
      nth_rewrite 1 [hexp]
      exact .plus (.inl rfl) hdigits

/-- The letter of an exponent is neither a digit nor a point. -/
theorem exponentLetter_not_special {c : Char} (hc : c = 'e' ∨ c = 'E') :
    Digit.ofChar? c = none ∧ c ≠ '.' := by
  rcases hc with rfl | rfl <;> decide

/-- An exponent ends the digits before it, and so does what follows the numeral. -/
theorem ExponentText.ends {e : Option Int} (he : ExponentText e s) (h : EndsNumeral rest) :
    EndsDigits (s ++ rest) ∧ (s ++ rest).head? ≠ some '.' := by
  -- an exponent that is there begins with its letter
  have letter {c : Char} (hc : c = 'e' ∨ c = 'E') (tail : List Char) :
      EndsDigits (c :: tail) ∧ (c :: tail).head? ≠ some '.' :=
    ⟨endsDigits_cons (exponentLetter_not_special hc).1 tail,
      fun hpoint => (exponentLetter_not_special hc).2 (Option.some.inj hpoint)⟩
  cases he with
  | none => exact ⟨h.endsDigits, fun hpoint => (h '.' hpoint).2.1 rfl⟩
  | unsigned hc _ => exact letter hc _
  | plus hc _ => exact letter hc _
  | minus hc _ => exact letter hc _

/-- A digit is no sign. -/
theorem exponentSign_map_toChar (hds : ds ≠ []) (rest : List Char) :
    exponentSign (ds.map Digit.toChar ++ rest) = (false, ds.map Digit.toChar ++ rest) := by
  obtain ⟨d, ds, rfl⟩ := List.exists_cons_of_ne_nil hds
  rw [List.map_cons, List.cons_append, exponentSign]
  · rintro tail htail
    exact absurd (List.head_eq_of_cons_eq htail) d.toChar_not_special.1
  · rintro tail htail
    exact absurd (List.head_eq_of_cons_eq htail) d.toChar_ne_plus

/-- **An exponent is read, however it is written.** -/
theorem ExponentText.exponentPart?_eq {e : Option Int} (he : ExponentText e s)
    (h : EndsNumeral rest) : exponentPart? (s ++ rest) = some (e, rest) := by
  cases he with
  | none =>
    -- an exponent is left out where there is no letter
    cases rest with
    | nil => rfl
    | cons c rest =>
      obtain ⟨-, -, he, hE⟩ := h c (Option.mem_some_self c)
      exact if_neg (not_or_intro he hE)
  | unsigned hc hds =>
    rw [List.cons_append, exponentPart?, if_pos hc, exponentSign_map_toChar hds,
      someDigits?_map_toChar hds h.endsDigits]
    rfl
  | plus hc hds =>
    rw [List.cons_append, exponentPart?, if_pos hc, List.cons_append, exponentSign,
      someDigits?_map_toChar hds h.endsDigits]
    rfl
  | minus hc hds =>
    rw [List.cons_append, exponentPart?, if_pos hc, List.cons_append, exponentSign,
      someDigits?_map_toChar hds h.endsDigits]
    rfl

/-! ### Numerals -/

/-- **The texts of a numeral**, which differ in how the exponent is written. -/
inductive NumeralText (n : Numeral) : List Char → Prop
  | intro {e : List Char} (hn : n.WellFormed) (he : ExponentText n.exponent e) :
    NumeralText n ((if n.negative then ['-'] else [])
      ++ (n.whole.map Digit.toChar ++ (fractionText n.fraction ++ e)))

/-- The text of a numeral is one of its texts. -/
theorem numeralText_text (hn : n.WellFormed) : NumeralText n n.text := by
  have htext : n.text = (if n.negative then ['-'] else [])
      ++ (n.whole.map Digit.toChar ++ (fractionText n.fraction ++ exponentText? n.exponent)) := by
    simp only [Numeral.text, fractionText, exponentText?, List.append_assoc]
  rw [htext]
  exact .intro hn (exponentText_exponentText? n.exponent)

/-- **A numeral is read part by part**, once its sign has been. -/
theorem unsigned?_parts (negative : Bool) (hn : n.WellFormed) (he : ExponentText n.exponent s)
    (h : EndsNumeral rest) :
    unsigned? negative (n.whole.map Digit.toChar ++ (fractionText n.fraction ++ (s ++ rest)))
      = some (⟨negative, n.whole, n.fraction, n.exponent⟩, rest) := by
  -- each part ends where the next one, or what follows the numeral, begins
  obtain ⟨hexp, hpoint⟩ := he.ends h
  rw [unsigned?, wholePart?_map_toChar hn (endsDigits_fractionText n.fraction hexp)]
  dsimp only
  rw [fractionPart?_fractionText n.fraction hexp hpoint]
  dsimp only
  rw [he.exponentPart?_eq h]

/-- **A text of a numeral is read as that numeral.** -/
theorem NumeralText.numeral?_eq (hs : NumeralText n s) (h : EndsNumeral rest) :
    numeral? (s ++ rest) = some (n, rest) := by
  obtain ⟨hn, he⟩ := hs
  have hparts := unsigned?_parts n.negative hn he h
  obtain ⟨negative, whole, fraction, exponent⟩ := n
  simp only [List.append_assoc]
  cases negative with
  | true => exact hparts
  | false =>
    -- without a sign the text begins with a digit
    obtain ⟨d, ds, rfl⟩ := List.exists_cons_of_ne_nil hn.nonempty
    rw [if_neg Bool.false_ne_true, List.nil_append, numeral?]
    · exact hparts
    · -- a digit is no sign
      intro tail htail
      exact absurd (List.head_eq_of_cons_eq htail) d.toChar_not_special.1

/-! ### Tokens -/

/-- An empty text has no tokens. -/
theorem ofText_nil : ofText [] = [] := by
  rw [ofText]

/-- A token that can be read is taken off the front. -/
theorem ofText_cons {c : Char} {tok : Token} (hblank : isBlank c = false)
    (h : read? c s = some (tok, rest)) : ofText (c :: s) = tok :: ofText rest := by
  rw [ofText, if_neg (by simp [hblank])]
  split
  · next hread =>
    rw [h] at hread
    cases hread
    rfl
  · next hread =>
    rw [h] at hread
    cases hread

/-- **A numeral is a token**, if nothing after it continues it. -/
theorem NumeralText.ofText_eq (hs : NumeralText n s) (h : EndsNumeral rest) :
    ofText (s ++ rest) = number n :: ofText rest := by
  have hread := hs.numeral?_eq h
  -- the first character is the sign or a digit
  obtain ⟨c, tail, hcons, hblank, hfirst⟩ : ∃ c tail, s ++ rest = c :: tail ∧ isBlank c = false
      ∧ (c = '-' ∨ (Digit.ofChar? c).isSome) := by
    obtain ⟨hn, he⟩ := hs
    obtain ⟨d, ds, hwhole⟩ := List.exists_cons_of_ne_nil hn.nonempty
    rw [hwhole]
    cases n.negative with
    | true => exact ⟨_, _, rfl, by decide, .inl rfl⟩
    | false => exact ⟨_, _, rfl, d.toChar_not_special.2, .inr d.isDigit_toChar⟩
  rw [hcons] at hread ⊢
  refine ofText_cons hblank ?_
  rw [read?, if_pos hfirst, hread, Option.map_some]

/-- The text that is written of a numeral is read as one token. -/
theorem ofText_text (hn : n.WellFormed) (h : EndsNumeral rest) :
    ofText (n.text ++ rest) = number n :: ofText rest :=
  (numeralText_text hn).ofText_eq h

/-- A token other than a numeral, by its first character. -/
theorem ofText_symbol {c : Char} {tok : Token} (hblank : isBlank c = false)
    (hfirst : c ≠ '-' ∧ Digit.ofChar? c = none) (h : symbol? c s = some (tok, rest)) :
    ofText (c :: s) = tok :: ofText rest := by
  refine ofText_cons hblank ?_
  rw [read?, if_neg (not_or_intro hfirst.1 (by rw [hfirst.2]; exact Bool.false_ne_true)), h]

/-- The word `null` is a token. -/
theorem ofText_null (rest : List Char) :
    ofText (['n', 'u', 'l', 'l'] ++ rest) = null :: ofText rest :=
  ofText_symbol (by decide) (by decide) rfl

/-- An opening brace is a token by itself. -/
theorem ofText_beginObject (rest : List Char) :
    ofText ('\x7b' :: rest) = beginObject :: ofText rest :=
  ofText_symbol (by decide) (by decide) rfl

/-- So is a closing brace. -/
theorem ofText_endObject (rest : List Char) :
    ofText ('\x7d' :: rest) = endObject :: ofText rest :=
  ofText_symbol (by decide) (by decide) rfl

/-- So is a comma. -/
theorem ofText_comma (rest : List Char) : ofText (',' :: rest) = comma :: ofText rest :=
  ofText_symbol (by decide) (by decide) rfl

/-- So is a colon. -/
theorem ofText_colon (rest : List Char) : ofText (':' :: rest) = colon :: ofText rest :=
  ofText_symbol (by decide) (by decide) rfl

/-! ### Strings -/

/-- Characters that stand for themselves in a string. -/
def Plain (s : List Char) : Prop :=
  ∀ c ∈ s, c ≠ '"' ∧ c ≠ '\\' ∧ 0x20 ≤ c.toNat

/-- Whether characters stand for themselves is seen one by one. -/
instance (s : List Char) : Decidable (Plain s) :=
  List.decidableBAll _ s

/-- **Characters that stand for themselves are read as they are**, up to the closing quote. -/
theorem stringBody?_plain (h : Plain s) (rest : List Char) :
    stringBody? (s ++ '"' :: rest) = some (s, rest) := by
  induction s with
  | nil =>
    rw [List.nil_append, stringBody?, if_pos rfl]
  | cons c s ih =>
    obtain ⟨hquote, hslash, hcontrol⟩ := h c List.mem_cons_self
    have htail := ih fun c hc => h c (List.mem_cons_of_mem _ hc)
    rw [List.cons_append, stringBody?, if_neg hquote, if_neg hslash, if_neg (Nat.not_lt.2 hcontrol),
      htail, Option.map_some]

/-- **A string without escapes is read as itself.** -/
theorem ofText_string {w : String} (h : Plain w.toList) (rest : List Char) :
    ofText ('"' :: (w.toList ++ '"' :: rest)) = string w :: ofText rest := by
  refine ofText_symbol (by decide) (by decide) ?_
  rw [symbol?, stringBody?_plain h, Option.map_some, String.ofList_toList]

end Json.Token

end Haystack
