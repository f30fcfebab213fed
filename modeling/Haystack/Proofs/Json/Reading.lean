import Haystack.Proofs.Json.Grammar

/-!
# Reading what the grammar allows

The reader of tokens meets the grammar: blanks are passed over (`ofText_blanks`), the pieces of a string
are read as the characters that they stand for, and not at all if there are none
(`stringBody?_flatMap_text`), and **the text of a value begins with the token of the value**
(`Text.exists_ofText_eq`). A value that is a single token is at its end with it.

Lists and objects are left to the readers that make something of them.
-/

namespace Haystack.Json

variable {s rest b : List Char} {ps : List Piece} {v : Value}

/-! ### Escapes -/

/-- A hexadecimal digit is read in either case. -/
theorem HexDigit.hexDigit?_char (d : HexDigit) : hexDigit? d.char = some d.value.val := by
  have hall : ∀ (value : Fin 16) (upper : Bool),
      hexDigit? (HexDigit.char ⟨value, upper⟩) = some value.val := by
    decide
  exact hall d.value d.upper

/-- Four digits are read as the code unit that they write. -/
theorem CodeUnit.codeUnit?_text (u : CodeUnit) (rest : List Char) :
    codeUnit? (u.text ++ rest) = some (u.value, rest) := by
  have htext : u.text ++ rest
      = u.first.char :: u.second.char :: u.third.char :: u.fourth.char :: rest := rfl
  rw [htext, codeUnit?, HexDigit.hexDigit?_char, HexDigit.hexDigit?_char, HexDigit.hexDigit?_char,
    HexDigit.hexDigit?_char]
  rfl

/-- A second half is read where an escape by code unit is one, and nothing else is. -/
theorem lowSurrogate?_text (u : CodeUnit) (rest : List Char) :
    lowSurrogate? ('\\' :: 'u' :: (u.text ++ rest))
      = if u.IsLow then some (u.value, rest) else none := by
  rw [lowSurrogate?, u.codeUnit?_text]
  rfl

/-- An escape by code unit is read as the grammar has it. -/
theorem escape?_unit (u : CodeUnit) (rest : List Char) :
    escape? ('u' :: (u.text ++ rest))
      = if u.IsHigh then (lowSurrogate? rest).map fun r =>
          (Char.ofNat (0x10000 + (u.value - 0xD800) * 0x400 + (r.1 - 0xDC00)), r.2)
        else if u.IsLow then none else some (Char.ofNat u.value, rest) := by
  rw [escape?, if_pos rfl, unicodeEscape?, u.codeUnit?_text]
  dsimp only
  cases lowSurrogate? rest <;> rfl

/-- An escape by letter is read as the character that the letter names. -/
theorem ShortEscape.escape?_eq {letter c : Char} (h : ShortEscape letter c) (rest : List Char) :
    escape? (letter :: rest) = some (c, rest) := by
  cases h <;> rfl

/-! ### Strings -/

/-- Behind a backslash the body of a string goes on with the character of the escape. -/
theorem stringBody?_escape {c : Char} (h : escape? s = some (c, rest)) :
    stringBody? ('\\' :: s) = (stringBody? rest).map fun r => (c :: r.1, r.2) := by
  rw [stringBody?, if_neg (by decide), if_pos rfl]
  split
  · next hread =>
    rw [h] at hread
    cases hread
    rfl
  · next hread =>
    rw [h] at hread
    cases hread

/-- Behind a backslash that is no escape nothing is read. -/
theorem stringBody?_escape_none (h : escape? s = none) : stringBody? ('\\' :: s) = none := by
  rw [stringBody?, if_neg (by decide), if_pos rfl]
  split
  · next hread =>
    rw [h] at hread
    cases hread
  · rfl

/-- Nothing but an escape by code unit can be the second half of a pair. -/
theorem lowSurrogate?_flatMap_text (h : ∀ u tail, ps ≠ .unit u :: tail) (rest : List Char) :
    lowSurrogate? (ps.flatMap Piece.text ++ '"' :: rest) = none := by
  cases ps with
  | nil => rfl
  | cons p ps =>
    cases p with
    | plain c hc =>
      -- a character that stands for itself is no backslash
      rw [lowSurrogate?]
      rintro tail htail
      exact hc.2.1 (List.head_eq_of_cons_eq htail)
    | short letter c hc => cases hc <;> rfl
    | unit u => exact absurd rfl (h u ps)

/-- **Pieces are read as the characters that they stand for**, up to and with the closing quote. The
induction is that of `chars?`, which takes pairs together. -/
theorem stringBody?_flatMap_text (ps : List Piece) (rest : List Char) :
    stringBody? (ps.flatMap Piece.text ++ '"' :: rest) = (chars? ps).map (·, rest) := by
  -- the text of the first piece, and of a code unit in particular, stands in front
  have append (p : Piece) (ps : List Piece) : (p :: ps).flatMap Piece.text ++ '"' :: rest
      = p.text ++ (ps.flatMap Piece.text ++ '"' :: rest) := by
    rw [List.flatMap_cons, List.append_assoc]
  have unit (u : CodeUnit) (ps : List Piece) : (.unit u :: ps).flatMap Piece.text ++ '"' :: rest
      = '\\' :: 'u' :: (u.text ++ (ps.flatMap Piece.text ++ '"' :: rest)) :=
    append (.unit u) ps
  fun_induction chars? ps with
  | case1 =>
    rw [List.flatMap_nil, List.nil_append, stringBody?, if_pos rfl]
    rfl
  | case2 c hc ps ih =>
    -- a character that stands for itself
    obtain ⟨hquote, hslash, hcontrol⟩ := hc
    rw [append, Piece.text, List.singleton_append, stringBody?, if_neg hquote, if_neg hslash,
      if_neg (Nat.not_lt.2 hcontrol), ih, Option.map_map, Option.map_map]
    rfl
  | case3 letter c hc ps ih =>
    -- an escape by letter
    rw [append, Piece.text, List.cons_append, List.singleton_append,
      stringBody?_escape (hc.escape?_eq _), ih, Option.map_map, Option.map_map]
    rfl
  | case4 u hu v ps hv ih =>
    -- two halves of a pair
    have hread := escape?_unit u ('\\' :: 'u' :: (v.text ++ (ps.flatMap Piece.text ++ '"' :: rest)))
    rw [if_pos hu, lowSurrogate?_text, if_pos hv] at hread
    rw [unit, unit, stringBody?_escape hread, ih, Option.map_map, Option.map_map]
    rfl
  | case5 u hu v ps hv =>
    -- a first half with something else than a second one behind it
    have hread := escape?_unit u ('\\' :: 'u' :: (v.text ++ (ps.flatMap Piece.text ++ '"' :: rest)))
    rw [if_pos hu, lowSurrogate?_text, if_neg hv] at hread
    rw [unit, unit, stringBody?_escape_none hread]
    rfl
  | case6 u ps hu hps =>
    -- a first half on its own
    have hread := escape?_unit u (ps.flatMap Piece.text ++ '"' :: rest)
    rw [if_pos hu, lowSurrogate?_flatMap_text hps] at hread
    rw [unit, stringBody?_escape_none hread]
    rfl
  | case7 u ps hu hlow =>
    -- a second half on its own
    have hread := escape?_unit u (ps.flatMap Piece.text ++ '"' :: rest)
    rw [if_neg hu, if_pos hlow] at hread
    rw [unit, stringBody?_escape_none hread]
    rfl
  | case8 u ps hu hlow ih =>
    -- any other code unit stands for its own character
    have hread := escape?_unit u (ps.flatMap Piece.text ++ '"' :: rest)
    rw [if_neg hu, if_neg hlow] at hread
    rw [unit, stringBody?_escape hread, ih, Option.map_map, Option.map_map]
    rfl

/-! ### Tokens -/

namespace Token

/-- Blanks in front of a text make no difference to its tokens. -/
theorem ofText_blanks (hb : Blanks b) (s : List Char) : ofText (b ++ s) = ofText s := by
  induction b with
  | nil => rfl
  | cons c b ih =>
    have hc : isBlank c = true := by
      rcases hb c List.mem_cons_self with rfl | rfl | rfl | rfl <;> rfl
    rw [List.cons_append, ofText, if_pos hc]
    exact ih fun c hc => hb c (List.mem_cons_of_mem _ hc)

/-- A blank ends a numeral, and without one it is what follows that ends it. -/
theorem endsNumeral_blanks (hb : Blanks b) (h : EndsNumeral s) : EndsNumeral (b ++ s) := by
  cases b with
  | nil => exact h
  | cons c b =>
    refine endsNumeral_cons ?_ _
    rcases hb c List.mem_cons_self with rfl | rfl | rfl | rfl <;> decide

/-- An opening bracket is a token by itself. -/
theorem ofText_beginList (rest : List Char) : ofText ('[' :: rest) = beginList :: ofText rest :=
  ofText_symbol (by decide) (by decide) rfl

/-- So is a closing bracket. -/
theorem ofText_endList (rest : List Char) : ofText (']' :: rest) = endList :: ofText rest :=
  ofText_symbol (by decide) (by decide) rfl

/-- A text ends where no token begins. -/
theorem ofText_of_read?_eq_none {c : Char} (hblank : isBlank c = false) (h : read? c s = none) :
    ofText (c :: s) = [malformed] := by
  rw [ofText, if_neg (by simp [hblank])]
  split
  · next hread =>
    rw [h] at hread
    cases hread
  · rfl

end Token

/-- The token of a string, as far as it is one. -/
def stringToken (ps : List Piece) : Token :=
  match string? ps with
  | some w => .string w
  | none => .malformed

/-- **The token that the text of a value begins with.** -/
def Value.token : Value → Token
  | null => .null
  | bool b => .bool b
  | number n => .number n
  | string ps => stringToken ps
  | list _ => .beginList
  | object _ => .beginObject

open Token in
/-- A string is read if it stands for one, and nothing after it is otherwise. -/
theorem ofText_stringText (ps : List Piece) (rest : List Char) :
    ofText (stringText ps ++ rest)
      = stringToken ps :: (if (string? ps).isSome then ofText rest else []) := by
  have htext : stringText ps ++ rest = '"' :: (ps.flatMap Piece.text ++ '"' :: rest) := by
    rw [stringText, List.cons_append, List.append_assoc]
    rfl
  have hread := stringBody?_flatMap_text ps rest
  -- behind the opening quote it is the pieces that are read
  have hsymbol : symbol? '"' (ps.flatMap Piece.text ++ '"' :: rest)
      = (string? ps).map fun w => (.string w, rest) := by
    rw [symbol?, hread, string?, Option.map_map, Option.map_map]
    rfl
  rw [htext, stringToken]
  cases hps : string? ps with
  | some w =>
    rw [hps] at hsymbol
    exact ofText_symbol (by decide) (by decide) hsymbol
  | none =>
    rw [hps] at hsymbol
    -- half of a pair on its own ends the tokens
    exact ofText_of_read?_eq_none (by decide) (by rw [read?, if_neg (by decide), hsymbol]; rfl)

/-- `null` or a number, which are over with their token. -/
def Value.IsAtom (v : Value) : Prop :=
  v = .null ∨ ∃ n, v = .number n

open Token in
/-- **The text of a value begins with its token**, and that is all of it if the value is a number or
`null`. -/
theorem Text.exists_ofText_eq (h : Text v s) (hrest : EndsNumeral rest) :
    ∃ ts, ofText (s ++ rest) = v.token :: ts ∧ (v.IsAtom → ts = ofText rest) := by
  cases h with
  | null => exact ⟨_, ofText_null rest, fun _ => rfl⟩
  | true => exact ⟨_, ofText_symbol (by decide) (by decide) rfl, fun _ => rfl⟩
  | false => exact ⟨_, ofText_symbol (by decide) (by decide) rfl, fun _ => rfl⟩
  | number h => exact ⟨_, h.ofText_eq hrest, fun _ => rfl⟩
  | string ps => exact ⟨_, ofText_stringText ps rest, nofun⟩
  | emptyList hb => exact ⟨_, ofText_symbol (by decide) (by decide) rfl, nofun⟩
  | list h => exact ⟨_, ofText_symbol (by decide) (by decide) rfl, nofun⟩
  | emptyObject hb => exact ⟨_, ofText_beginObject _, nofun⟩
  | object h => exact ⟨_, ofText_beginObject _, nofun⟩

open Token in
/-- The same of an element, whose blanks are no tokens. -/
theorem Element.exists_ofText_eq (h : Element v s) (hrest : EndsNumeral rest) :
    ∃ ts, ofText (s ++ rest) = v.token :: ts ∧ (v.IsAtom → ts = ofText rest) := by
  obtain ⟨hb, h, hb'⟩ := h
  obtain ⟨ts, hts, hatom⟩ := h.exists_ofText_eq (endsNumeral_blanks hb' hrest)
  refine ⟨ts, ?_, fun hv => ?_⟩
  · -- the blanks in front are passed over
    rw [List.append_assoc, List.append_assoc, ofText_blanks hb, hts]
  · -- so are those behind, if the value is over with its token
    rw [hatom hv, ofText_blanks hb']

open Token in
/-- **A member begins with its name, a colon and the token of its value**, as far as the name is one. -/
theorem Member.exists_ofText_eq {m : List Piece × Value} {w : String} (h : Member m s)
    (hrest : EndsNumeral rest) (hw : string? m.1 = some w) :
    ∃ ts, ofText (s ++ rest) = .string w :: .colon :: m.2.token :: ts
      ∧ (m.2.IsAtom → ts = ofText rest) := by
  obtain ⟨hb, hb', h⟩ := h
  obtain ⟨ts, hts, hatom⟩ := h.exists_ofText_eq hrest
  refine ⟨ts, ?_, hatom⟩
  simp only [List.append_assoc, List.cons_append]
  -- blanks, the name, blanks, the colon, and then the element
  rw [ofText_blanks hb, ofText_stringText, stringToken, hw, Option.isSome_some, if_pos rfl,
    ofText_blanks hb', ofText_colon, hts]

open Token in
/-- A member begins with the token of its name, whether that is a string or not. -/
theorem Member.head?_ofText {m : List Piece × Value} (h : Member m s) (rest : List Char) :
    (ofText (s ++ rest)).head? = some (stringToken m.1) := by
  obtain ⟨hb, hb', h⟩ := h
  rw [List.append_assoc, List.append_assoc, ofText_blanks hb, ofText_stringText, List.head?_cons]

open Token in
/-- With a name that is no string the tokens are over. -/
theorem Member.ofText_eq_malformed {m : List Piece × Value} (h : Member m s) (rest : List Char)
    (hnone : string? m.1 = none) : ofText (s ++ rest) = [.malformed] := by
  obtain ⟨hb, hb', h⟩ := h
  rw [List.append_assoc, List.append_assoc, ofText_blanks hb, ofText_stringText, stringToken, hnone]
  rfl

end Haystack.Json
