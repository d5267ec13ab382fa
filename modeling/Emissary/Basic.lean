/-
# Strings and keys

Python strings are modelled as lists of characters, so that their slicing,
`split` and comparisons are the list functions; `Key` names them where they
are used as the keys of a dictionary (cache keys, resource names, buckets).
-/
import Mathlib.Data.Char

namespace Emissary

/-- A Python string used as a key. -/
abbrev Key := List Char

/-- `BEq` on keys is equality. Stated once as a constant, so that a membership
test on keys elaborates to the same term in every module. -/
instance instLawfulBEqKey : LawfulBEq Key := inferInstance

end Emissary
