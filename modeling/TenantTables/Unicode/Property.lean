import TenantTables.Unicode.BreakTable
import TenantTables.Unicode.CategoryTable
import TenantTables.Unicode.CharSet
import TenantTables.Unicode.PropertyTable

/-!
# Categories and properties

A general category is a row of its table, or a group of such rows. A property is
a row of its table too, or follows from other properties and categories by a
rule of the Unicode standard: letters are alphabetic, and so are the characters
that are listed as alphabetic beside them.
-/

namespace TenantTables.Unicode

/-- The set of the row that has a name. -/
def rowNamed? (table : List (String × List String))
    (name : String) : Option CharSet :=
  (table.find? fun (names, _) => (Text.split ' ' names).contains name).map
    fun (_, lines) =>
    .ofTable lines

/-- Groups of categories, by their names and the short names
of their members. -/
def categoryGroups : List (String × List String) := [
  ("c other", ["cc", "cf", "cn", "co", "cs"]),
  ("l letter", ["lu", "ll", "lt", "lm", "lo"]),
  ("lc casedletter", ["lu", "ll", "lt"]),
  ("m mark combiningmark", ["mn", "mc", "me"]),
  ("n number", ["nd", "nl", "no"]),
  ("p punctuation punct", ["pc", "pd", "ps", "pe", "pi", "pf", "po"]),
  ("s symbol", ["sm", "sc", "sk", "so"]),
  ("z separator", ["zs", "zl", "zp"])]

/-- All characters that some row of a table holds. -/
def allRows (table : List (String × List String)) : CharSet :=
  .unionAll (table.map fun (_, lines) => .ofTable lines)

/-- A category that is no group, by any of its names. -/
def leafCategory? (name : String) : Option CharSet :=
  if name = "cn" ∨ name = "unassigned" then some (allRows categoryTable).compl
  else rowNamed? categoryTable name

/-- The code points of surrogates: a category without characters, which cannot
be named but as a part of its group. -/
def surrogates : CharSet := ⟨[(0xD800, 0xDFFF)]⟩

/-- A member of a group, by its short name. -/
def groupMember? (name : String) : Option CharSet :=
  if name = "cs" then some surrogates else leafCategory? name

/-- The characters of a general category, by any of its names. -/
def category? (name : String) : Option CharSet :=
  match name with
  | "any" => some .all
  | "ascii" => some (.span '\x00' '\x7f')
  | "assigned" => some (allRows categoryTable).compl.compl
  | name =>
      match categoryGroups.find? fun (names, _) =>
        (Text.split ' ' names).contains name with
      | some (_, members) => some (.unionAll (members.filterMap groupMember?))
      | none => leafCategory? name

/-- A category or a property of the tables, by any of its names. -/
def basicSet (name : String) : CharSet :=
  ((rowNamed? propertyTable name).orElse fun _ => category? name).getD .empty

/-! The rules read the sets that they start from by name. -/

section Rules

variable (basic : String → CharSet)

def uppercase : CharSet :=
  .unionAll [basic "lu", basic "oupper"]

def lowercase : CharSet :=
  .unionAll [basic "ll", basic "olower"]

def cased : CharSet :=
  .unionAll [uppercase basic, lowercase basic, basic "lt"]

/-- Characters that case context passes over: marks, modifiers, and the
punctuation that words may hold. -/
def caseIgnorable : CharSet :=
  .unionAll ([basic "mn", basic "me", basic "cf", basic "lm", basic "sk"] ++
    ["ml", "mb", "sq"].filterMap (rowNamed? wordBreakTable))

def alphabetic : CharSet :=
  .unionAll [basic "l", basic "nl", basic "oalpha", basic "oupper",
    basic "olower"]

def math : CharSet :=
  .unionAll [basic "sm", basic "omath"]

def graphemeExtend : CharSet :=
  .unionAll [basic "me", basic "mn", basic "ogrext"]

/-- Characters that stand for themselves: neither controls nor extensions of
what is in front. -/
def graphemeBase : CharSet :=
  CharSet.all.diff
    (.unionAll [basic "c", basic "zl", basic "zp", graphemeExtend basic])

/-- Characters reserved for the notation of patterns. -/
def patternReserved : CharSet :=
  .unionAll [basic "patsyn", basic "patws"]

def idStart : CharSet :=
  (CharSet.unionAll [basic "l", basic "nl", basic "oids"]).diff
    (patternReserved basic)

def idContinue : CharSet :=
  (CharSet.unionAll [idStart basic, basic "mn", basic "mc", basic "nd",
    basic "pc", basic "oidc"]).diff (patternReserved basic)

def foldedIdStart : CharSet :=
  (idStart basic).diff (.ofTable foldedStartExceptions)

def foldedIdContinue : CharSet :=
  (idContinue basic).diff (.ofTable foldedContinueExceptions)

def changesWhenCasemapped : CharSet :=
  .unionAll [basic "cwl", basic "cwt", basic "cwu"]

/-- Word characters: letters, marks, decimal digits, connectors and joiners. -/
def wordSet : CharSet :=
  .unionAll [alphabetic basic, basic "m", basic "nd", basic "pc", basic "joinc"]

end Rules

/-- Decimal digits of all scripts. -/
def decimalDigits : CharSet :=
  basicSet "nd"

/-- White space. -/
def blanks : CharSet :=
  basicSet "space"

/-- Word characters. -/
def words : CharSet :=
  wordSet basicSet

end TenantTables.Unicode
