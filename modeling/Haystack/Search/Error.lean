import Haystack.Decimal.Numeral
import Haystack.Kind.Basic

/-!
# Why a search is refused

Not to find anything is an answer; only a query that makes no sense is refused. The constructors of
`SearchError` are the reasons, each with the facts that its message shows, and every reason belongs to
one of two classes: the caller passed something invalid, or asked for something that is not on offer.
-/

namespace Haystack

/-- The coarse class of a refusal. -/
inductive ErrorClass where
  | invalidArgument
  | unsupported
  deriving DecidableEq

/-- The name of a class. -/
def ErrorClass.label : ErrorClass → String
  | invalidArgument => "invalid_argument"
  | unsupported => "unsupported"

/-- The reasons to refuse a search. -/
inductive SearchError where
  /-- There is no pattern to look for. -/
  | nullPattern
  /-- The tolerance is below zero. -/
  | negativeTolerance (value : Double)
  /-- The tolerance is not a number. -/
  | nanTolerance
  /-- A tolerance was given for a kind that compares exactly. -/
  | toleranceUnsupported (kind : Kind)
  /-- Haystack and pattern hold different kinds. -/
  | kindMismatch (haystack pattern : Kind)
  /-- An end bound was given for a search from the end. -/
  | endBoundUnsupported
  deriving DecidableEq

namespace SearchError

/-- The class of a reason. -/
def errorClass : SearchError → ErrorClass
  | nullPattern | negativeTolerance _ | nanTolerance | kindMismatch .. => .invalidArgument
  | toleranceUnsupported _ | endBoundUnsupported => .unsupported

/-- The message for a reason. -/
def message : SearchError → String
  | nullPattern => "search pattern must not be null"
  | negativeTolerance value => "tolerance must be non-negative, got " ++ value.plainText
  | nanTolerance => "tolerance must not be NaN"
  | toleranceUnsupported kind => kind.label ++ " arrays do not accept a tolerance window"
  | kindMismatch haystack pattern =>
    "pattern kind " ++ pattern.label ++ " does not match haystack kind " ++ haystack.label
  | endBoundUnsupported => "backward search does not accept an end bound"

/-- The message with the class in front of it. -/
def classedMessage (e : SearchError) : String :=
  e.errorClass.label ++ ": " ++ e.message

end SearchError

end Haystack
