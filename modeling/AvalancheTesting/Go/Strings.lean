import Mathlib.Data.List.Basic

/-!
# The Go `strings` functions the harness uses

Defined on the strings' characters, so that they compute by `decide`. For a prefix that is
itself a whole string, Go's byte-wise test and this character-wise one agree.
-/

namespace AvalancheTesting

/-- `strings.HasPrefix(s, pre)`. -/
def hasPrefix (s pre : String) : Bool := pre.toList.isPrefixOf s.toList

/-- `strings.TrimPrefix(s, pre)`. -/
def trimPrefix (s pre : String) : String :=
  if hasPrefix s pre then ⟨s.toList.drop pre.length⟩ else s

/-- `strings.Join(elems, sep)`. -/
def join (elems : List String) (sep : String) : String := String.intercalate sep elems

end AvalancheTesting
