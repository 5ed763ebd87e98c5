import TenantTables.Json.Value
import TenantTables.Number.Shortest

/-!
# The text of documents

Compact JSON text: no blanks, keys in the order of the object, and in strings
only the characters escaped that have to be.
-/

namespace TenantTables.Json

/-- A hexadecimal digit in lower case. -/
def hexDigit (n : Nat) : Char :=
  Char.ofNat (if n < 10 then 48 + n else 87 + n)

/-- One character inside a string. Quotes, backslashes and control characters
below U+0020 are escaped, everything else stands for itself. -/
def escapeChar (c : Char) : List Char :=
  if c = '"' then ['\\', '"']
  else if c = '\\' then ['\\', '\\']
  else if c = '\n' then ['\\', 'n']
  else if c = '\r' then ['\\', 'r']
  else if c = '\t' then ['\\', 't']
  else if c.toNat = 8 then ['\\', 'b']
  else if c.toNat = 12 then ['\\', 'f']
  else if c.toNat < 32 then
    ['\\', 'u', '0', '0', hexDigit (c.toNat / 16), hexDigit (c.toNat % 16)]
  else [c]

/-- A string in quotes. -/
def quoted (s : String) : String :=
  String.ofList ('"' :: s.toList.flatMap escapeChar ++ ['"'])

mutual

/-- Compact JSON text. -/
def Value.text : Value → String
  | .null => "null"
  | .bool true => "true"
  | .bool false => "false"
  | .int n => toString n
  | .float d => d.toText
  | .str s => quoted s
  | .arr items => "[" ++ ",".intercalate (Value.itemTexts items) ++ "]"
  | .obj fields => "\x7b" ++ ",".intercalate (Value.fieldTexts fields) ++ "\x7d"

/-- The texts of the items of a list. -/
def Value.itemTexts : List Value → List String
  | [] => []
  | v :: rest => v.text :: Value.itemTexts rest

/-- The texts of the fields of an object, each a key and a value. -/
def Value.fieldTexts : List (String × Value) → List String
  | [] => []
  | (k, v) :: rest => (quoted k ++ ":" ++ v.text) :: Value.fieldTexts rest

end

/-- The escape of a UTF-16 unit. -/
def unitEscape (n : Nat) : List Char :=
  ['\\', 'u', hexDigit (n / 4096 % 16), hexDigit (n / 256 % 16),
    hexDigit (n / 16 % 16), hexDigit (n % 16)]

/-- A character of a text in ASCII: others are escaped, those beyond the basic
plane as two units. -/
def asciiChar (c : Char) : List Char :=
  let n := c.toNat
  if n < 127 then [c]
  else if n < 0x10000 then unitEscape n
  else unitEscape (0xD800 + (n - 0x10000) / 1024) ++
    unitEscape (0xDC00 + (n - 0x10000) % 1024)

/-- Compact JSON text in ASCII. -/
def Value.asciiText (v : Value) : String :=
  String.ofList (v.text.toList.flatMap asciiChar)

/-- A value as a text column shows it: strings without quotes, everything else
as JSON text, and null as no text at all. -/
def Value.toText? : Value → Option String
  | .null => none
  | .str s => some s
  | v => some v.text

end TenantTables.Json
