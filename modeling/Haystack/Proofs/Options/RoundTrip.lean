import Haystack.Options.Decoding
import Haystack.Options.Encoding
import Haystack.Search.Query
import Haystack.Proofs.Json.Token
import Haystack.Proofs.Json.Number
import Haystack.Proofs.Search.Refusal

/-!
# Options in JSON and back

Written options are an object of three members, and each of its tokens is read as what was written: the
names are plain strings, the bounds integers of 64 bits, and a finite tolerance is a numeral that reads
back. So **reading what was written succeeds for all options**, and both bounds come back as they were
(`decode_encode`).

The tolerance comes back as it was if it has a JSON text, and an infinite one has none: it is written as
`null`, and what is read is no tolerance. An infinite tolerance is a proper window, so options that are
valid can come back as other valid options (`decode_encode_of_validate`), under which searches have
other answers (`not_decode_encode_infinite`).
-/

namespace Haystack

namespace Options

open Json (Token)
open Json.Token (EndsNumeral)

variable {acc acc' o : Options} {f : Field} {seen : List Field} {t : Token} {ts : List Token}
  {rest : List Char}

/-! ### The tokens of written options -/

/-- The token of a bound. -/
def indexToken : Option Int64 → Token
  | some i => .number (.ofInt i.toInt)
  | none => .null

/-- The token of a tolerance, which is that of an absent one if it has no numeral. -/
def toleranceToken : Option Double → Token
  | some x => if x.isFinite then .number (.ofBinary .json x) else .null
  | none => .null

/-- The token of the value of a field. -/
def fieldToken (o : Options) : Field → Token
  | .start => indexToken o.start?
  | .stop => indexToken o.stop?
  | .tolerance => toleranceToken o.tolerance?

/-- A bound is written as one token, that of an integer or `null`. -/
theorem ofText_indexText (i : Option Int64) (h : EndsNumeral rest) :
    Token.ofText (indexText i ++ rest) = indexToken i :: Token.ofText rest := by
  cases i with
  | none => exact Token.ofText_null rest
  | some i => exact Token.ofText_text (Numeral.wellFormed_ofInt i.toInt) h

/-- So is a tolerance, as a number where it is finite and as `null` otherwise. -/
theorem ofText_toleranceText (x : Option Double) (h : EndsNumeral rest) :
    Token.ofText (toleranceText x ++ rest) = toleranceToken x :: Token.ofText rest := by
  cases x with
  | none => exact Token.ofText_null rest
  | some x =>
    rw [toleranceText, Json.ofDouble, toleranceToken]
    split
    · exact Token.ofText_text (Numeral.layout_ofBinary .json x).wellFormed h
    · exact Token.ofText_null rest

/-- **The value of every field is written as one token.** -/
theorem ofText_fieldText (o : Options) (f : Field) (h : EndsNumeral rest) :
    Token.ofText (o.fieldText f ++ rest) = o.fieldToken f :: Token.ofText rest := by
  cases f with
  | start => exact ofText_indexText o.start? h
  | stop => exact ofText_indexText o.stop? h
  | tolerance => exact ofText_toleranceText o.tolerance? h

/-- The names of the fields need no escapes. -/
theorem Field.plain_name (f : Field) : Token.Plain f.name.toList := by
  cases f <;> simp [Token.Plain, Field.name]

/-- **A member is read as its name, a colon and its value.** -/
theorem ofText_memberText (o : Options) (f : Field) (h : EndsNumeral rest) :
    Token.ofText (o.memberText f ++ rest)
      = .string f.name :: .colon :: o.fieldToken f :: Token.ofText rest := by
  have htext : o.memberText f ++ rest
      = '"' :: (f.name.toList ++ '"' :: (':' :: (o.fieldText f ++ rest))) := by
    simp only [memberText, List.cons_append, List.append_assoc, List.nil_append]
  rw [htext, Token.ofText_string f.plain_name, Token.ofText_colon, ofText_fieldText o f h]

/-- The tokens of written options. -/
theorem ofText_encode (o : Options) : Token.ofText o.encode.toList
    = [.beginObject, .string Field.start.name, .colon, o.fieldToken .start, .comma,
      .string Field.stop.name, .colon, o.fieldToken .stop, .comma,
      .string Field.tolerance.name, .colon, o.fieldToken .tolerance, .endObject] := by
  have htext : o.encode.toList = '\x7b' :: (o.memberText .start ++ ',' :: (o.memberText .stop
      ++ ',' :: (o.memberText .tolerance ++ ['\x7d']))) := by
    simp only [encode, String.toList_ofList, List.cons_append, List.append_assoc, List.nil_append]
  -- each member is followed by a mark, which no value goes on with
  rw [htext, Token.ofText_beginObject, ofText_memberText o .start (Json.Token.endsNumeral_comma _),
    Token.ofText_comma, ofText_memberText o .stop (Json.Token.endsNumeral_comma _),
    Token.ofText_comma, ofText_memberText o .tolerance (Json.Token.endsNumeral_endObject _),
    Token.ofText_endObject, Token.ofText_nil]

/-! ### Reading the values -/

/-- **A bound comes back as it was.** -/
theorem index?_indexToken (i : Option Int64) : index? (indexToken i) = .ok i := by
  cases i with
  | none => rfl
  | some i =>
    have hlow : -2 ^ 63 ≤ i.toInt := Int64.le_toInt i
    have hhigh : i.toInt < 2 ^ 63 := Int64.toInt_lt i
    -- an integer of 64 bits is read as one, and a signed one is in the range of a bound
    have hread : Found.ofToken? (indexToken (some i)) = some (.integer i.toInt) := by
      rw [indexToken, Found.ofToken?, Json.Number.ofNumeral?_ofInt hlow (by omega)]
    rw [index?, hread]
    dsimp only
    rw [if_pos (Int64.toInt_le i), Int64.ofInt_toInt]

/-- **A tolerance comes back if it is finite**, and as an absent one if it is not. -/
theorem number?_toleranceToken (x : Option Double) :
    number? (toleranceToken x) = .ok (x.filter Binary.isFinite) := by
  cases x with
  | none => rfl
  | some x =>
    by_cases hx : x.isFinite
    · have hread : Found.ofToken? (toleranceToken (some x)) = some (.float x) := by
        rw [toleranceToken, if_pos hx, Found.ofToken?, Json.Number.ofNumeral?_ofBinary hx]
      rw [number?, hread, Option.filter_some, if_pos hx]
    · rw [toleranceToken, if_neg hx, Option.filter_some, if_neg hx]
      rfl

/-! ### Reading the members -/

/-- The options with the field of other options. -/
def copy (acc o : Options) : Field → Options
  | .start => { acc with start? := o.start? }
  | .stop => { acc with stop? := o.stop? }
  | .tolerance => { acc with tolerance? := o.tolerance? }

/-- **What the written form describes**: the options without a tolerance that has no JSON text. -/
def described (o : Options) : Options :=
  { o with tolerance? := o.tolerance?.filter Binary.isFinite }

/-- Reading the value of a field puts it into its place. -/
theorem set_fieldToken (acc o : Options) (f : Field) :
    acc.set f (o.fieldToken f) = .ok (acc.copy o.described f) := by
  cases f with
  | start => rw [set, fieldToken, index?_indexToken]; rfl
  | stop => rw [set, fieldToken, index?_indexToken]; rfl
  | tolerance => rw [set, fieldToken, number?_toleranceToken]; rfl

/-- A member of a field that was not there before sets the field. -/
theorem members_comma (hf : f ∉ seen) (hset : acc.set f t = .ok acc') :
    members seen acc (.string f.name :: .colon :: t :: .comma :: ts) = members (f :: seen) acc' ts := by
  rw [members, Field.ofName?_name]
  dsimp only
  rw [if_neg hf, hset]

/-- So does the last member, and with it the object is over. -/
theorem members_endObject (hf : f ∉ seen) (hset : acc.set f t = .ok acc') :
    members seen acc (.string f.name :: .colon :: t :: .endObject :: ts) = .ok (acc', ts) := by
  rw [members, Field.ofName?_name]
  dsimp only
  rw [if_neg hf, hset]

/-- **Written options are read as what they describe.** -/
theorem decode_encode (o : Options) : decode o.encode = .ok o.described := by
  -- each of the three members sets its field, none of which was there before
  have hmembers : value (Token.ofText o.encode.toList) = .ok (o.described, []) := by
    rw [ofText_encode, value, members_comma (by decide) (set_fieldToken empty o .start),
      members_comma (by decide) (set_fieldToken _ o .stop),
      members_endObject (by decide) (set_fieldToken _ o .tolerance)]
    · rfl
    · intro ts hend
      cases hend
  rw [decode, ofTokens, hmembers]

/-! ### Valid options -/

/-- The tolerance of valid options is finite or the positive infinity. -/
theorem isFinite_of_validate {x : Double} (h : o.validate = .ok ()) (hx : o.tolerance? = some x)
    (hinf : x ≠ Binary.infinity false) : x.isFinite := by
  obtain ⟨t, ht⟩ := validate_eq_ok_iff.1 h
  rw [window, hx] at ht
  -- valid options have a window of that width, and only the positive infinity is as wide without end
  have hwidth : t.width = x := Tolerance.ofWidth?_eq_ok_iff.1 ht
  by_contra hfinite
  exact hinf (hwidth ▸ Tolerance.eq_infinity_of_not_isFinite (hwidth ▸ hfinite))

/-- **Valid options come back from their written form**, all of them as they were, but for an infinite
tolerance, which is lost. -/
theorem decode_encode_of_validate (o : Options) (h : o.validate = .ok ()) :
    decode o.encode
      = .ok (if o.tolerance? = some (Binary.infinity false) then { o with tolerance? := none }
          else o) := by
  rw [decode_encode, described]
  split
  · next hinf =>
    rw [hinf, Option.filter_some, if_neg (by decide)]
  · next hinf =>
    -- with a text for the tolerance nothing is dropped in writing it
    have hfilter : o.tolerance?.filter Binary.isFinite = o.tolerance? := by
      cases hx : o.tolerance? with
      | none => rfl
      | some x =>
        rw [Option.filter_some, if_pos]
        exact isFinite_of_validate h hx fun hx' => hinf (hx' ▸ hx)
    rw [hfilter]

/-- Options at the ends of the ranges: the least and the greatest bound and the negative zero. -/
def extreme : Options :=
  ((empty.withStart Int64.minValue).withStop Int64.maxValue).withTolerance (Binary.zero true)

/-- Bounds at the ends of their range and a negative zero come back. -/
theorem decode_encode_of_validate_extreme :
    extreme.validate = .ok () ∧ decode extreme.encode = .ok extreme := by
  have hvalid : extreme.validate = .ok () := rfl
  refine ⟨hvalid, ?_⟩
  rw [decode_encode_of_validate extreme hvalid, if_neg (by decide)]

/-- Options that ask for an infinite window. -/
def infinite : Options :=
  empty.withTolerance (Binary.infinity false)

/-- **An infinite tolerance does not come back.** The options are valid and let a search for a `1` among
zeros succeed at once; what they become in JSON is valid as well and lets it find nothing. -/
theorem not_decode_encode_infinite :
    infinite.validate = .ok ()
      ∧ decode infinite.encode = .ok empty
      ∧ decode infinite.encode ≠ .ok infinite
      ∧ infinite.firstIndexOf (· == ·) (some (.flat ⟨.float64, [Binary.zero false]⟩))
          (some (.flat ⟨.float64, [Binary.ofBits .double 0x3FF0000000000000]⟩ : TypedArray Nat))
          = .ok (some 0)
      ∧ empty.firstIndexOf (· == ·) (some (.flat ⟨.float64, [Binary.zero false]⟩))
          (some (.flat ⟨.float64, [Binary.ofBits .double 0x3FF0000000000000]⟩ : TypedArray Nat))
          = .ok none := by
  -- the tolerance is written as `null`, which reads as none
  have hread : decode infinite.encode = .ok empty := decode_encode infinite
  refine ⟨rfl, hread, ?_, by decide +kernel, by decide +kernel⟩
  rw [hread]
  decide

end Options

end Haystack
