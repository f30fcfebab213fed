import Haystack.Json.Number
import Haystack.Json.StringBody

/-!
# The tokens of JSON text

A text is cut into tokens before anything is made of it. The cut never fails: where the text goes
wrong, the token `malformed` stands in for the place, and nothing after it is looked at. A reader of
tokens that stops at the first problem it meets, from the left, therefore meets the problems of the
text in the order in which they stand there, whether they are problems of its form or of its content.
-/

namespace Haystack.Json

/-- A token of JSON text. -/
inductive Token where
  | beginList
  | endList
  | beginObject
  | endObject
  | comma
  | colon
  | null
  | bool (b : Bool)
  | number (n : Numeral)
  | string (s : String)
  /-- The text is no JSON from here on. -/
  | malformed
  deriving DecidableEq

namespace Token

/-! ### Numerals -/

/-- Reads as many digits as there are. -/
def digits : List Char → List Digit × List Char
  | [] => ([], [])
  | c :: rest =>
    match Digit.ofChar? c with
    | some d => (d :: (digits rest).1, (digits rest).2)
    | none => ([], c :: rest)

/-- Reads at least one digit. -/
def someDigits? (s : List Char) : Option (List Digit × List Char) :=
  if (digits s).1 = [] then none else some (digits s)

/-- Reads the digits before the point: a single zero, or digits that do not start with one. -/
def wholePart? (s : List Char) : Option (List Digit × List Char) :=
  match someDigits? s with
  | some (0 :: _ :: _, _) => none
  | r => r

/-- Reads the digits after the point, if there is a point. -/
def fractionPart? : List Char → Option (List Digit × List Char)
  | '.' :: rest => someDigits? rest
  | s => some ([], s)

/-- Reads the sign of an exponent: whether it is a minus. A plus may be written or left out. -/
def exponentSign : List Char → Bool × List Char
  | '-' :: rest => (true, rest)
  | '+' :: rest => (false, rest)
  | s => (false, s)

/-- Reads the exponent, if there is one. -/
def exponentPart? : List Char → Option (Option Int × List Char)
  | c :: rest =>
    if c = 'e' ∨ c = 'E' then
      (someDigits? (exponentSign rest).2).map fun r =>
        (some (if (exponentSign rest).1 then -(Digit.toNat r.1 : Int) else Digit.toNat r.1), r.2)
    else some (none, c :: rest)
  | [] => some (none, [])

/-- Reads a numeral from behind its sign. -/
def unsigned? (negative : Bool) (s : List Char) : Option (Numeral × List Char) :=
  match wholePart? s with
  | none => none
  | some (whole, s) =>
    match fractionPart? s with
    | none => none
    | some (fraction, s) =>
      match exponentPart? s with
      | none => none
      | some (exponent, s) => some (⟨negative, whole, fraction, exponent⟩, s)

/-- **Reads a numeral.** -/
def numeral? : List Char → Option (Numeral × List Char)
  | '-' :: rest => unsigned? true rest
  | s => unsigned? false s

/-! ### Tokens -/

/-- Blanks between tokens. -/
def isBlank (c : Char) : Bool :=
  c = ' ' || c = '\n' || c = '\t' || c = '\r'

/-- What is left of a text behind a word that it has to start with. -/
def behind? : List Char → List Char → Option (List Char)
  | [], s => some s
  | _ :: _, [] => none
  | w :: ws, c :: s => if w = c then behind? ws s else none

/-- Reads a token other than a numeral from its first character and what follows it. -/
def symbol? (c : Char) (rest : List Char) : Option (Token × List Char) :=
  match c with
  | '[' => some (beginList, rest)
  | ']' => some (endList, rest)
  | '\x7b' => some (beginObject, rest)
  | '\x7d' => some (endObject, rest)
  | ',' => some (comma, rest)
  | ':' => some (colon, rest)
  | 'n' => (behind? ['u', 'l', 'l'] rest).map (null, ·)
  | 't' => (behind? ['r', 'u', 'e'] rest).map (bool true, ·)
  | 'f' => (behind? ['a', 'l', 's', 'e'] rest).map (bool false, ·)
  | '"' => (stringBody? rest).map fun r => (string (String.ofList r.1), r.2)
  | _ => none

/-- **Reads a token** from its first character and what follows it. -/
def read? (c : Char) (rest : List Char) : Option (Token × List Char) :=
  if c = '-' ∨ (Digit.ofChar? c).isSome then
    (numeral? (c :: rest)).map fun r => (number r.1, r.2)
  else symbol? c rest

/-! ### What is left is shorter -/

/-- The digits and what is left make up the text. -/
theorem digits_length (s : List Char) : (digits s).2.length + (digits s).1.length = s.length := by
  fun_induction digits s with
  | case1 => rfl
  | case2 c rest d _ ih =>
    simp only [List.length_cons]
    omega
  | case3 => rfl

/-- At least one digit is taken off. -/
theorem someDigits?_length {s rest : List Char} {ds : List Digit}
    (h : someDigits? s = some (ds, rest)) : rest.length < s.length := by
  unfold someDigits? at h
  split at h
  · simp at h
  · rename_i hne
    have hl := digits_length s
    have hp := List.length_pos_iff.2 hne
    simp only [Option.some.injEq] at h
    rw [h] at hl hp
    simp only at hl hp
    omega

/-- A whole part has at least one digit. -/
theorem wholePart?_length {s rest : List Char} {ds : List Digit}
    (h : wholePart? s = some (ds, rest)) : rest.length < s.length := by
  unfold wholePart? at h
  split at h
  · simp at h
  · exact someDigits?_length h

/-- A fraction may be missing, and then nothing is taken off. -/
theorem fractionPart?_length {s rest : List Char} {ds : List Digit}
    (h : fractionPart? s = some (ds, rest)) : rest.length ≤ s.length := by
  unfold fractionPart? at h
  split at h
  · have := someDigits?_length h
    simp only [List.length_cons]
    omega
  · simp only [Option.some.injEq, Prod.mk.injEq] at h
    simp [h.2]

/-- A sign may be missing. -/
theorem exponentSign_length (s : List Char) : (exponentSign s).2.length ≤ s.length := by
  unfold exponentSign
  split <;> simp

/-- An exponent may be missing. -/
theorem exponentPart?_length {s rest : List Char} {e : Option Int}
    (h : exponentPart? s = some (e, rest)) : rest.length ≤ s.length := by
  unfold exponentPart? at h
  split at h
  · rename_i c tail
    split at h
    · obtain ⟨⟨ds, more⟩, hd, hr⟩ := Option.map_eq_some_iff.1 h
      simp only [Prod.mk.injEq] at hr
      -- a letter, perhaps a sign, and some digits
      have h1 := someDigits?_length hd
      have h2 := exponentSign_length tail
      simp only [List.length_cons, ← hr.2]
      omega
    · simp only [Option.some.injEq, Prod.mk.injEq] at h
      simp [← h.2]
  · simp only [Option.some.injEq, Prod.mk.injEq] at h
    simp [← h.2]

/-- The whole part is never missing, so a numeral takes something off. -/
theorem unsigned?_length {negative : Bool} {s rest : List Char} {n : Numeral}
    (h : unsigned? negative s = some (n, rest)) : rest.length < s.length := by
  unfold unsigned? at h
  split at h
  · simp at h
  · rename_i hw
    split at h
    · simp at h
    · rename_i hf
      split at h
      · simp at h
      · rename_i he
        -- the three parts are read one behind the other
        have h1 := wholePart?_length hw
        have h2 := fractionPart?_length hf
        have h3 := exponentPart?_length he
        simp only [Option.some.injEq, Prod.mk.injEq] at h
        rw [← h.2]
        omega

/-- A sign in front only makes the rest shorter. -/
theorem numeral?_length {s rest : List Char} {n : Numeral} (h : numeral? s = some (n, rest)) :
    rest.length < s.length := by
  unfold numeral? at h
  split at h
  · exact Nat.lt_succ_of_lt (unsigned?_length h)
  · exact unsigned?_length h

/-- A word that the text starts with is taken off. -/
theorem behind?_length {w s rest : List Char} (h : behind? w s = some rest) :
    rest.length ≤ s.length := by
  fun_induction behind? w s with
  | case1 => simp_all
  | case2 => simp at h
  | case3 w ws s ih => exact Nat.le_succ_of_le (ih h)
  | case4 => simp at h

/-- A symbol takes off nothing, a word or the rest of a string. -/
theorem symbol?_length {c : Char} {s rest : List Char} {t : Token}
    (h : symbol? c s = some (t, rest)) : rest.length ≤ s.length := by
  -- the three words are alike, and so are the six marks
  have word {w : List Char} {u : Token}
      (h : (behind? w s).map (fun r => (u, r)) = some (t, rest)) : rest.length ≤ s.length := by
    obtain ⟨r, hr, he⟩ := Option.map_eq_some_iff.1 h
    simp only [Prod.mk.injEq] at he
    rw [← he.2]
    exact behind?_length hr
  have mark {u : Token} (h : some (u, s) = some (t, rest)) : rest.length ≤ s.length := by
    simp only [Option.some.injEq, Prod.mk.injEq] at h
    simp [h.2]
  unfold symbol? at h
  split at h
  · exact mark h
  · exact mark h
  · exact mark h
  · exact mark h
  · exact mark h
  · exact mark h
  · exact word h
  · exact word h
  · exact word h
  · obtain ⟨⟨u, v⟩, hu, he⟩ := Option.map_eq_some_iff.1 h
    simp only [Prod.mk.injEq] at he
    rw [← he.2]
    exact Nat.le_of_lt (stringBody?_length hu)
  · simp at h

/-- **A token leaves no more than followed its first character**, so taking tokens off a text ends. -/
theorem read?_length {c : Char} {s rest : List Char} {t : Token}
    (h : read? c s = some (t, rest)) : rest.length ≤ s.length := by
  unfold read? at h
  split at h
  · obtain ⟨⟨u, v⟩, hu, he⟩ := Option.map_eq_some_iff.1 h
    simp only [Prod.mk.injEq] at he
    rw [← he.2]
    exact Nat.le_of_lt_succ (numeral?_length hu)
  · exact symbol?_length h

/-- **The tokens of a text.** -/
def ofText (s : List Char) : List Token :=
  match s with
  | [] => []
  | c :: rest =>
    if isBlank c then ofText rest
    else
      match _h : read? c rest with
      | some (t, rest) => t :: ofText rest
      | none => [malformed]
termination_by s.length
decreasing_by
  · simp
  · exact Nat.lt_succ_of_le (read?_length _h)

end Token

end Haystack.Json
