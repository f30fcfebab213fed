/-!
# The version of the library
-/

namespace Haystack

/-- The version. -/
def version : String :=
  "0.4.0"

end Haystack
