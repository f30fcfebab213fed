import Haystack.Json.Token
import Haystack.Options.Field
import Haystack.Text.Quoted

/-!
# Why written options are refused

A text may be no JSON at all, or it may be JSON that does not describe options. Only the second case
has something to explain: a `Rejection` says what stands in the text and what belongs there.
-/

namespace Haystack.Options

/-- What stands at some place of a text. -/
inductive Found where
  | null
  | bool (b : Bool)
  | integer (i : Int)
  | float (x : Double)
  | string (s : String)
  | list
  | object
  deriving DecidableEq

/-- What belongs at some place of a text. -/
inductive Expected where
  | index
  | tolerance
  | options
  deriving DecidableEq

/-- Why JSON text does not describe options. -/
inductive Rejection where
  /-- There is no field of this name. -/
  | unknownField (name : String)
  /-- The field was there before. -/
  | duplicateField (field : Field)
  /-- Something else belongs here. -/
  | wrongType (found : Found) (expected : Expected)
  /-- An integer that is no bound. -/
  | indexOutOfRange (i : Int)
  deriving DecidableEq

/-- Why a text is refused. -/
inductive DecodeError where
  /-- The text is no JSON, or goes on after its end. -/
  | malformed
  /-- The text does not describe options. -/
  | rejected (reason : Rejection)
  deriving DecidableEq

namespace Found

/-- What a token, or the value that it begins, is; nothing if no value begins there. -/
def ofToken? : Json.Token → Option Found
  | .null => some null
  | .bool b => some (bool b)
  | .string s => some (string s)
  | .beginList => some list
  | .beginObject => some object
  | .number n =>
    match Json.Number.ofNumeral? n with
    | some (.integer i) => some (integer i)
    | some (.float x) => some (float x)
    | none => none
  | .endList | .endObject | .comma | .colon | .malformed => none

/-- The description of what stands in a text. -/
def description : Found → String
  | null => "null"
  | bool b => "boolean `" ++ (if b then "true" else "false") ++ "`"
  | integer i => "integer `" ++ String.ofList (Numeral.ofInt i).text ++ "`"
  | float x => "floating point `" ++ String.ofList (Json.ofDouble x) ++ "`"
  | string s => "string " ++ Text.quoted s
  | list => "sequence"
  | object => "map"

end Found

/-- The description of what belongs in a text. -/
def Expected.description : Expected → String
  | index => "isize"
  | tolerance => "f64"
  | options => "struct SearchOptions"

/-- The message of a rejection. -/
def Rejection.message : Rejection → String
  | unknownField name =>
    "unknown field `" ++ name ++ "`, expected one of " ++
      ", ".intercalate (Field.all.map fun f => "`" ++ f.name ++ "`")
  | duplicateField field => "duplicate field `" ++ field.name ++ "`"
  | wrongType found expected =>
    "invalid type: " ++ found.description ++ ", expected " ++ expected.description
  | indexOutOfRange i =>
    "invalid value: " ++ (Found.integer i).description ++ ", expected " ++ Expected.index.description

end Haystack.Options
