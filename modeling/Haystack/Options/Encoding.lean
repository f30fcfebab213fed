import Haystack.Json.Number
import Haystack.Options.Field

/-!
# Writing options

Options are written as a JSON object of all three fields, in their order and without blanks. What is
absent is written as `null`, and so is a tolerance that has no JSON text.
-/

namespace Haystack.Options

/-- The text of a bound. -/
def indexText : Option Int64 → List Char
  | some i => (Numeral.ofInt i.toInt).text
  | none => ['n', 'u', 'l', 'l']

/-- The text of a tolerance. -/
def toleranceText : Option Double → List Char
  | some x => Json.ofDouble x
  | none => ['n', 'u', 'l', 'l']

/-- The text of the value of a field. -/
def fieldText (o : Options) : Field → List Char
  | .start => indexText o.start?
  | .stop => indexText o.stop?
  | .tolerance => toleranceText o.tolerance?

/-- The text of a field, its name and its value. -/
def memberText (o : Options) (f : Field) : List Char :=
  '"' :: f.name.toList ++ ['"', ':'] ++ o.fieldText f

/-- **The written form of options.** -/
def encode (o : Options) : String :=
  String.ofList (['\x7b'] ++ o.memberText .start ++ [','] ++ o.memberText .stop ++ [','] ++
    o.memberText .tolerance ++ ['\x7d'])

end Haystack.Options
