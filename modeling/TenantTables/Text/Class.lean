import TenantTables.Text.Blank
import TenantTables.Text.Case
import TenantTables.Unicode.Property

/-!
# Character classes

Digits come in two widths. What only has to look like a number admits the
decimal digits of every script; what is read as a number admits the ten ASCII
digits.
-/

namespace TenantTables.Text

/-- One of the ten ASCII digits. -/
def isAsciiDigit (c : Char) : Bool :=
  '0' ≤ c && c ≤ '9'

def isAsciiLower (c : Char) : Bool :=
  'a' ≤ c && c ≤ 'z'

def isAsciiUpper (c : Char) : Bool :=
  'A' ≤ c && c ≤ 'Z'

/-- The value of an ASCII digit. -/
def digitValue (c : Char) : Nat :=
  c.toNat - 48

/-- A decimal digit of any script. -/
def isDecimalDigit (c : Char) : Bool :=
  Unicode.decimalDigits.holds c

/-- The natural number that a row of ASCII digits writes in base ten. -/
def decimalValue (digits : List Char) : Nat :=
  digits.foldl (fun n c => 10 * n + digitValue c) 0

/-- ASCII letters in lower case, all other characters as they are. -/
def lowerAscii (s : String) : String :=
  String.ofList (s.toList.map fun c =>
    if isAsciiUpper c then Char.ofNat (c.toNat + 32) else c)

end TenantTables.Text
