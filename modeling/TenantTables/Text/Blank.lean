/-!
# White space

Cells, tokens, literals and identifiers are read after trimming. White space is
the class of twenty-five characters that Unicode gives the White_Space
property, which is wider than the ASCII notion and narrower than "invisible":
the no-break space is trimmed, the zero-width space is not.
-/

namespace TenantTables.Text

/-- White space, as Unicode defines it. -/
def isBlank (c : Char) : Bool :=
  let n := c.toNat
  (9 ≤ n && n ≤ 13) || n == 0x20 || n == 0x85 || n == 0xA0 || n == 0x1680 ||
    (0x2000 ≤ n && n ≤ 0x200A) || n == 0x2028 || n == 0x2029 || n == 0x202F ||
    n == 0x205F || n == 0x3000

/-- The characters without the white space in front. -/
def dropLeadingBlanks (cs : List Char) : List Char :=
  cs.dropWhile isBlank

/-- The characters without the white space behind. -/
def dropTrailingBlanks (cs : List Char) : List Char :=
  (cs.reverse.dropWhile isBlank).reverse

/-- The characters without white space at either end. -/
def trimChars (cs : List Char) : List Char :=
  dropTrailingBlanks (dropLeadingBlanks cs)

/-- Removes white space at both ends. -/
def trim (s : String) : String :=
  String.ofList (trimChars s.toList)

/-- Whether nothing but white space is present. -/
def isBlankText (s : String) : Bool :=
  s.toList.all isBlank

end TenantTables.Text
