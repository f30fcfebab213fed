import Haystack.Value.Element

/-!
# Rules for opaque strings

Rules by which opaque strings may be compared and hashed, besides going by their values. Not all of
them are good citizens: a rule need not be symmetric, or reflexive, or hash equal values alike, and
deep equality has to do the right thing under each.
-/

namespace Haystack.ScalarRule

/-- Strings are the same if they differ in the case of ASCII letters only. -/
def ignoringCase : ScalarRule String :=
  onImage (String.map Char.toLower) byValue

/-- Strings are the same if they have equally many bytes. -/
def byteLength : ScalarRule String where
  equal x y := x.utf8ByteSize == y.utf8ByteSize
  hash x := Int32.ofNat x.utf8ByteSize

/-- All strings are the same. -/
def always : ScalarRule String where
  equal _ _ := true
  hash _ := 0

/-- The right string continues the left one. -/
def continuing : ScalarRule String where
  equal x y := x.toList.isPrefixOf y.toList
  hash _ := -7

/-- No string is the same as any. -/
def never : ScalarRule String where
  equal _ _ := false
  hash _ := 0

end Haystack.ScalarRule
