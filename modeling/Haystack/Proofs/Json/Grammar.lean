import Haystack.Proofs.Json.Token

/-!
# The grammar of JSON text

What a JSON text may look like, apart from how it is read. A `Value` is what a text says, with its
numerals and the pieces of its strings as they are written, and `Text`, `Element`, `Elements`, `Member`
and `Members` are the rules by which values are put down: an element is a value with blanks around it, and
it is elements that stand in a list, in an object and at the top of a text.

A string is made of pieces, each of which is a character or an escape. Most pieces stand for one
character each, but an escape by code unit that names one half of a pair stands for a character only
together with the other half (`chars?`). A half on its own is well-formed, yet no string has it.
-/

namespace Haystack.Json

/-! ### Strings -/

/-- A hexadecimal digit, written in upper or in lower case. -/
structure HexDigit where
  value : Fin 16
  upper : Bool

/-- The character of a hexadecimal digit. -/
def HexDigit.char (d : HexDigit) : Char :=
  if d.value.val < 10 then Char.ofNat ('0'.toNat + d.value)
  else Char.ofNat ((if d.upper then 'A' else 'a').toNat + (d.value - 10))

/-- A code unit as four digits. -/
structure CodeUnit where
  first : HexDigit
  second : HexDigit
  third : HexDigit
  fourth : HexDigit

namespace CodeUnit

/-- The number that the digits stand for, the first of them counting most. -/
def value (u : CodeUnit) : Nat :=
  ((u.first.value * 16 + u.second.value) * 16 + u.third.value) * 16 + u.fourth.value

/-- The digits as they are written, each in its own case. -/
def text (u : CodeUnit) : List Char :=
  [u.first.char, u.second.char, u.third.char, u.fourth.char]

/-- The first half of a pair. -/
def IsHigh (u : CodeUnit) : Prop :=
  0xD800 ≤ u.value ∧ u.value ≤ 0xDBFF

/-- The second half of a pair. -/
def IsLow (u : CodeUnit) : Prop :=
  0xDC00 ≤ u.value ∧ u.value ≤ 0xDFFF

/-- Two comparisons tell a first half. -/
instance (u : CodeUnit) : Decidable u.IsHigh :=
  inferInstanceAs (Decidable (_ ∧ _))

/-- Two comparisons tell a second half. -/
instance (u : CodeUnit) : Decidable u.IsLow :=
  inferInstanceAs (Decidable (_ ∧ _))

/-- The character of a pair. -/
def pair (high low : CodeUnit) : Char :=
  Char.ofNat (0x10000 + (high.value - 0xD800) * 0x400 + (low.value - 0xDC00))

end CodeUnit

/-- A letter behind a backslash, and the character that it names. -/
inductive ShortEscape : Char → Char → Prop
  | quote : ShortEscape '"' '"'
  | backslash : ShortEscape '\\' '\\'
  | slash : ShortEscape '/' '/'
  | backspace : ShortEscape 'b' '\x08'
  | formFeed : ShortEscape 'f' '\x0c'
  | lineFeed : ShortEscape 'n' '\n'
  | carriageReturn : ShortEscape 'r' '\r'
  | tab : ShortEscape 't' '\t'

/-- A piece of a string. -/
inductive Piece where
  /-- A character that stands for itself. -/
  | plain (c : Char) (h : c ≠ '"' ∧ c ≠ '\\' ∧ 0x20 ≤ c.toNat)
  /-- An escape by letter. -/
  | short (letter c : Char) (h : ShortEscape letter c)
  /-- An escape by code unit. -/
  | unit (u : CodeUnit)

/-- The text of a piece. -/
def Piece.text : Piece → List Char
  | plain c _ => [c]
  | short letter _ _ => ['\\', letter]
  | unit u => '\\' :: 'u' :: u.text

/-- **The characters that pieces stand for**, unless one of them is half of a pair on its own. -/
def chars? : List Piece → Option (List Char)
  | [] => some []
  | .plain c _ :: ps => (chars? ps).map (c :: ·)
  | .short _ c _ :: ps => (chars? ps).map (c :: ·)
  | .unit u :: ps =>
    if u.IsHigh then
      match ps with
      | .unit v :: ps => if v.IsLow then (chars? ps).map (CodeUnit.pair u v :: ·) else none
      | _ => none
    else if u.IsLow then none
    else (chars? ps).map (Char.ofNat u.value :: ·)

/-- A string in its quotes. -/
def stringText (ps : List Piece) : List Char :=
  '"' :: (ps.flatMap Piece.text ++ ['"'])

/-- The string that pieces stand for. -/
def string? (ps : List Piece) : Option String :=
  (chars? ps).map String.ofList

/-! ### Values -/

/-- **What a JSON text says.** -/
inductive Value where
  | null
  | bool (b : Bool)
  | number (n : Numeral)
  | string (ps : List Piece)
  | list (vs : List Value)
  | object (ms : List (List Piece × Value))

/-- Blanks between tokens. -/
def Blanks (b : List Char) : Prop :=
  ∀ c ∈ b, c = ' ' ∨ c = '\n' ∨ c = '\t' ∨ c = '\r'

/-- Whether there are only blanks is seen character by character. -/
instance (b : List Char) : Decidable (Blanks b) :=
  List.decidableBAll _ b

mutual

/-- **The texts of a value.** -/
inductive Text : Value → List Char → Prop
  | null : Text .null ['n', 'u', 'l', 'l']
  | true : Text (.bool true) ['t', 'r', 'u', 'e']
  | false : Text (.bool false) ['f', 'a', 'l', 's', 'e']
  | number {n : Numeral} {s : List Char} (h : Token.NumeralText n s) : Text (.number n) s
  | string (ps : List Piece) : Text (.string ps) (stringText ps)
  | emptyList {b : List Char} (hb : Blanks b) : Text (.list []) ('[' :: (b ++ [']']))
  | list {vs : List Value} {s : List Char} (h : Elements vs s) :
    Text (.list vs) ('[' :: (s ++ [']']))
  | emptyObject {b : List Char} (hb : Blanks b) : Text (.object []) ('\x7b' :: (b ++ ['\x7d']))
  | object {ms : List (List Piece × Value)} {s : List Char} (h : Members ms s) :
    Text (.object ms) ('\x7b' :: (s ++ ['\x7d']))

/-- **A value with blanks around it**, as it may stand in a list, in an object or alone. -/
inductive Element : Value → List Char → Prop
  | intro {v : Value} {b s b' : List Char} (hb : Blanks b) (h : Text v s) (hb' : Blanks b') :
    Element v (b ++ (s ++ b'))

/-- Elements with a comma between any two. -/
inductive Elements : List Value → List Char → Prop
  | last {v : Value} {s : List Char} (h : Element v s) : Elements [v] s
  | more {v : Value} {vs : List Value} {s t : List Char} (h : Element v s) (ht : Elements vs t) :
    Elements (v :: vs) (s ++ ',' :: t)

/-- A member of an object: a string, a colon and an element. -/
inductive Member : List Piece × Value → List Char → Prop
  | intro {ps : List Piece} {v : Value} {b b' s : List Char} (hb : Blanks b) (hb' : Blanks b')
    (h : Element v s) : Member (ps, v) (b ++ (stringText ps ++ (b' ++ ':' :: s)))

/-- Members with a comma between any two. -/
inductive Members : List (List Piece × Value) → List Char → Prop
  | last {m : List Piece × Value} {s : List Char} (h : Member m s) : Members [m] s
  | more {m : List Piece × Value} {ms : List (List Piece × Value)} {s t : List Char}
    (h : Member m s) (ht : Members ms t) : Members (m :: ms) (s ++ ',' :: t)

end

end Haystack.Json
