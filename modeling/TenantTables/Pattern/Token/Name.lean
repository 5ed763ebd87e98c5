import TenantTables.Unicode.Property

/-!
# Names of groups

A name has letters and digits of all scripts and four signs. The letters are
those of the newest edition of Unicode, one later than that of the classes.
-/

namespace TenantTables.Pattern

open Unicode (CharSet)

/-- Characters that the newest edition of Unicode, 17, made alphabetic. -/
def newAlphabetic : CharSet :=
  .ofTable [
    "88F C5C CDC A7CE-A7CF A7D2 A7D4 A7F1 10940-10959 10EC5-10EC7 10EFA-10EFB",
    "11B60-11B67 11DB0-11DDB 16EA0-16EB8 16EBB-16ED3 16FF2-16FF6 187F8-187FF",
    "18D09-18D1E 18D80-18DF2 1E6C0-1E6DE 1E6E0-1E6F5 1E6FE-1E6FF 2B73A-2B73F",
    "2CEA2-2CEAD 323B0-33479"]

/-- Characters that the newest edition of Unicode, 17, added as numbers. -/
def newNumbers : CharSet :=
  .ofTable ["11DE0-11DE9 16FF4-16FF6"]

/-- Characters that open the name of a group, beside the underscore. -/
def nameOpeners : CharSet :=
  .unionAll [Unicode.alphabetic Unicode.basicSet, newAlphabetic]

/-- Characters of the name of a group, beside four signs. -/
def nameChars : CharSet :=
  .unionAll [nameOpeners, Unicode.basicSet "n", newNumbers]

/-- Reads the name of a group up to its closing angle bracket. -/
def readName (cs : List Char) : Option (String × List Char) :=
  let name := cs.takeWhile (· != '>')
  match name, cs.drop name.length with
  | c :: more, _ :: rest =>
      if (c == '_' || nameOpeners.holds c) &&
          more.all
            (fun c => ['_', '.', '[', ']'].contains c || nameChars.holds c) then
        some (String.ofList name, rest)
      else none
  | _, _ => none

end TenantTables.Pattern
