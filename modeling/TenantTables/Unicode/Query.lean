import TenantTables.Unicode.AgeTable
import TenantTables.Unicode.Property
import TenantTables.Unicode.ScriptExtensionTable
import TenantTables.Unicode.ScriptTable

/-!
# Asking for sets by name

A query names a property, a category or a script, or a value of a property that
has more than two. Names are compared without regard to case, blanks, hyphens
and underscores, and a leading `is` says nothing. Three short names are those of
a category and of a property with values; they mean the category.
-/

namespace TenantTables.Unicode

/-- What a pattern asks for. -/
inductive Query where
  | named (name : String)
  | valued (property value : String)
  deriving Repr, DecidableEq

/-- Drops what names are compared without. -/
def looseChars (cs : List Char) : List Char :=
  (cs.filter fun c => c.toNat < 128 && c != ' ' && c != '_' && c != '-').map
    Char.toLower

/-- The form in which names are compared. A leading `is` is dropped, but for the
name `isc`, which would be the category `c` without it. -/
def looseName (name : String) : String :=
  match name.toList with
  | i :: s :: rest =>
      if i.toLower = 'i' ∧ s.toLower = 's' then
        let rest := looseChars rest
        String.ofList (if rest = ['c'] then ['i', 's', 'c'] else rest)
      else String.ofList (looseChars (i :: s :: rest))
  | short => String.ofList (looseChars short)

/-- A property that holds of a character or does not. -/
def property? (name : String) : Option CharSet :=
  match rowNamed? propertyTable name with
  | some s => some s
  | none =>
      match name with
      | "alpha" | "alphabetic" => some (alphabetic basicSet)
      | "ci" | "caseignorable" => some (caseIgnorable basicSet)
      | "cased" => some (cased basicSet)
      | "cwcm" | "changeswhencasemapped" =>
          some (changesWhenCasemapped basicSet)
      | "grbase" | "graphemebase" => some (graphemeBase basicSet)
      | "grext" | "graphemeextend" => some (graphemeExtend basicSet)
      | "idc" | "idcontinue" => some (idContinue basicSet)
      | "ids" | "idstart" => some (idStart basicSet)
      | "lower" | "lowercase" => some (lowercase basicSet)
      | "math" => some (math basicSet)
      | "upper" | "uppercase" => some (uppercase basicSet)
      | "xidc" | "xidcontinue" => some (foldedIdContinue basicSet)
      | "xids" | "xidstart" => some (foldedIdStart basicSet)
      | _ => none

/-- The characters of a script. -/
def script? (name : String) : Option CharSet :=
  rowNamed? scriptTable name

/-- The characters in use with a script. -/
def scriptExtension? (name : String) : Option CharSet :=
  (scriptTable.find? fun (names, _) => (Text.split ' ' names).contains name).map
    fun (names, lines) =>
      (rowNamed? scriptExtensionTable ((Text.split ' ' names).headD "")).getD
        (.ofTable lines)

/-- The characters that an edition of Unicode holds. -/
def age? (name : String) : Option CharSet :=
  let later :=
    ageTable.dropWhile fun (names, _) => !(Text.split ' ' names).contains name
  if later.isEmpty then none
  else some (allRows (ageTable.take (ageTable.length - later.length + 1)))

/-- The first of the Hangul syllables, and their number for one
initial and vowel. -/
def firstSyllable : Nat := 0xAC00

def syllablesPerVowel : Nat := 28

def lastSyllable : Nat := 0xD7A3

/-- The Hangul syllables without a final consonant. -/
def openSyllables : CharSet :=
  ⟨(List.range
    ((lastSyllable - firstSyllable) / syllablesPerVowel + 1)).map fun i =>
    (firstSyllable + syllablesPerVowel * i,
      firstSyllable + syllablesPerVowel * i)⟩

/-- The Hangul syllables with a final consonant. -/
def closedSyllables : CharSet :=
  CharSet.diff ⟨[(firstSyllable, lastSyllable)]⟩ openSyllables

/-- A class of the grapheme boundaries. -/
def graphemeBreak? (name : String) : Option CharSet :=
  match name with
  | "ex" | "extend" =>
      some (.unionAll [graphemeExtend basicSet, basicSet "emod"])
  | "lv" => some openSyllables
  | "lvt" => some closedSyllables
  | name => rowNamed? graphemeBreakTable name

/-- A class of the word boundaries. -/
def wordBreak? (name : String) : Option CharSet :=
  match name with
  | "extend" =>
      some (CharSet.diff
        (.unionAll [graphemeExtend basicSet, basicSet "mc", basicSet "emod"])
        (.just '\u200d'))
  | name => rowNamed? wordBreakTable name

/-- Georgian letters that sentences do not tell apart by case. -/
def caselessGeorgian : CharSet :=
  .ofTable ["10D0-10FA 10FD-10FF 1C90-1CBA 1CBD-1CBF"]

def sentenceExtend : CharSet :=
  .unionAll [graphemeExtend basicSet, basicSet "joinc", basicSet "mc"]

def sentenceLower : CharSet :=
  ((lowercase basicSet).diff (graphemeExtend basicSet)).diff caselessGeorgian

def sentenceUpper : CharSet :=
  (CharSet.unionAll [uppercase basicSet, basicSet "lt"]).diff caselessGeorgian

/-- A class of the sentence boundaries. -/
def sentenceBreak? (name : String) : Option CharSet :=
  match name with
  | "ex" | "extend" => some sentenceExtend
  | "lo" | "lower" => some sentenceLower
  | "up" | "upper" => some sentenceUpper
  | "le" | "oletter" =>
      some (CharSet.diff (.unionAll [alphabetic basicSet, .just '\u05f3'])
        (.unionAll [sentenceLower, sentenceUpper, sentenceExtend]))
  | "nu" | "numeric" =>
      (wordBreak? "nu").map fun digits => digits.union (.just '\u066c')
  | name => rowNamed? sentenceBreakTable name

/-- The set that a query asks for. -/
def Query.set? : Query → Option CharSet
  | named name =>
      let name := looseName name
      let property :=
        if ["cf", "lc", "sc"].contains name then none else property? name
      property.or ((category? name).or (script? name))
  | valued property value =>
      let value := looseName value
      match looseName property with
      | "gc" | "generalcategory" => category? value
      | "sc" | "script" => script? value
      | "scx" | "scriptextensions" => scriptExtension? value
      | "age" => age? value
      | "gcb" | "graphemeclusterbreak" => graphemeBreak? value
      | "wb" | "wordbreak" => wordBreak? value
      | "sb" | "sentencebreak" => sentenceBreak? value
      | _ => none

end TenantTables.Unicode
