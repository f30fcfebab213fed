import Haystack.Search.Options

/-!
# The fields of written options

The names under which options are written and read, in the order in which they are written.
-/

namespace Haystack.Options

/-- A field of written options. -/
inductive Field where
  | start
  | stop
  | tolerance
  deriving DecidableEq

namespace Field

/-- All fields, in order. -/
def all : List Field :=
  [start, stop, tolerance]

/-- The name of a field. -/
def name : Field → String
  | start => "from_index"
  | stop => "end_index"
  | tolerance => "tolerance"

/-- The field of a given name. -/
def ofName? (s : String) : Option Field :=
  all.find? fun f => f.name == s

/-- Every field is found under its name, so no two fields share one. -/
theorem ofName?_name (f : Field) : ofName? f.name = some f := by
  cases f <;> rfl

end Field

end Haystack.Options
