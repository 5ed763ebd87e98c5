/-!
# Powers of the two bases

Numbers are written in base ten and kept in base two; these are the two scales.
-/

namespace TenantTables.Number

/-- A power of two. -/
def twoTo (n : Nat) : Nat := Nat.pow 2 n

/-- A power of ten. -/
def tenTo (n : Nat) : Nat := Nat.pow 10 n

end TenantTables.Number
