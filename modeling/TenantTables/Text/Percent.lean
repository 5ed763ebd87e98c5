import TenantTables.Text.Class
import TenantTables.Text.Utf8

/-!
# Percent encoding

`%XX` stands for one byte. A percent sign that two hexadecimal digits do not
follow stands for itself, and so does `+`: the queries read here are not form
data.
-/

namespace TenantTables.Text

/-- The value of a hexadecimal digit of either case. -/
def hexValue? (c : Char) : Option Nat :=
  if isAsciiDigit c then some (digitValue c)
  else if 'a' ≤ c ∧ c ≤ 'f' then some (c.toNat - 87)
  else if 'A' ≤ c ∧ c ≤ 'F' then some (c.toNat - 55)
  else none

/-- The bytes that a percent-encoded text stands for. -/
def percentBytes : List Char → List UInt8
  | [] => []
  | '%' :: high :: low :: after =>
      match hexValue? high, hexValue? low with
      | some h, some l => (16 * h + l).toUInt8 :: percentBytes after
      | _, _ => encodeChar '%' ++ percentBytes (high :: low :: after)
  | c :: rest => encodeChar c ++ percentBytes rest

/-- Decodes once; bytes that are not UTF-8 read as replacement characters. -/
def percentDecode (s : String) : String :=
  decodeLossy (percentBytes s.toList)

end TenantTables.Text
