import TenantTables.Error
import TenantTables.Number.Reading
import TenantTables.Number.Shortest
import TenantTables.Path
import TenantTables.Pattern.Match
import TenantTables.Pattern.Read
import TenantTables.Time.Reading

/-!
# Field rules

Rows are checked before they are stored, each field against its rules. A rule
is written as a word, some with an argument, and bars separate the rules of a
field. All rules but one accept a missing or null value.
-/

namespace TenantTables

open Json (Value Object)
open Number (Double Extended)

/-- A condition on a value. -/
inductive FieldRule where
  /-- Present, not null and not blank. -/
  | required
  /-- Accepts everything; it documents that null is fine. -/
  | nullable
  | string
  | numeric
  | integer
  | boolean
  | email
  | date
  /-- A least number, length of text, or length of list. -/
  | min (limit : Extended)
  /-- A greatest number, length of text, or length of list. -/
  | max (limit : Extended)
  | oneOf (allowed : List String)
  /-- Some part of the text matches. -/
  | pattern (e : Pattern.Expr)

namespace FieldRule

/-- What limits measure: a number itself, or a length. -/
def measure? : Value → Option Double
  | .int n => some (Double.ofInt n)
  | .float d => some d
  | .str s => some (Double.ofInt s.length)
  | .arr items => some (Double.ofInt items.length)
  | _ => none

/-- An address: one at sign with something in front, a dot with something on
both sides behind it, and no white space anywhere. -/
def isEmail (s : String) : Bool :=
  match Text.cutAt '@' s.toList with
  | (name, some domain) =>
      !name.isEmpty && !s.toList.any Text.isBlank && !domain.contains '@' &&
        (domain.drop 1).dropLast.contains '.'
  | (_, none) => false

/-- Whether a value that is not null satisfies a rule. -/
def accepts (rule : FieldRule) (v : Value) : Bool :=
  match rule with
  | .required => v.str?.all fun s => !Text.isBlankText s
  | .nullable => true
  | .string => v.str?.isSome
  | .numeric =>
      match v with
      | .int _ | .float _ => true
      | .str s => Number.isNumeric s
      | _ => false
  | .integer =>
      match v with
      | .int _ => true
      | .str s => (Number.readInt64? (Text.trim s)).isSome
      | _ => false
  | .boolean =>
      match v with
      | .bool _ => true
      | .int n => n == 0 || n == 1
      | .str s => ["0", "1", "true", "false"].contains s
      | _ => false
  | .email => v.str?.any isEmail
  | .date => v.str?.any fun s => (Time.Instant.read? s).isSome
  | .min limit => (measure? v).any limit.leFinite
  | .max limit => (measure? v).any limit.geFinite
  | .oneOf allowed => v.toText?.any allowed.contains
  | .pattern e => v.toText?.any e.isMatch

/-- The message for a field that breaks a rule. -/
def message (rule : FieldRule) (field : String) : String :=
  match rule with
  | .required => "The " ++ field ++ " field is required."
  | .nullable => ""
  | .string => "The " ++ field ++ " must be a string."
  | .numeric => "The " ++ field ++ " must be a number."
  | .integer => "The " ++ field ++ " must be an integer."
  | .boolean => "The " ++ field ++ " field must be true or false."
  | .email => "The " ++ field ++ " must be a valid email address."
  | .date => "The " ++ field ++ " is not a valid date."
  | .min limit =>
      "The " ++ field ++ " must be at least " ++ limit.toPlain ++ "."
  | .max limit =>
      "The " ++ field ++ " may not be greater than " ++ limit.toPlain ++ "."
  | .oneOf _ => "The selected " ++ field ++ " is invalid."
  | .pattern _ => "The " ++ field ++ " format is invalid."

/-- Whether a value, which may be missing, satisfies a rule. -/
def holds (rule : FieldRule) (v : Option Value) : Bool :=
  match rule, v.filter (!·.isNull) with
  | .required, none => false
  | _, none => true
  | rule, some v => rule.accepts v

/-- The numeric argument of a rule. -/
def limitOf (name : String) (argument : Option String) :
    Except Error Extended :=
  match argument.bind fun a => Number.readExtended? (Text.trim a) with
  | some limit => .ok limit
  | none =>
      .error (.validation ("Rule '" ++ name ++ "' needs a numeric argument"))

/-- Reads one rule. -/
def parse (token : String) : Except Error FieldRule :=
  let (name, argument) := Text.splitOnce ':' token
  let name := Text.trim name
  match name with
  | "required" => .ok .required
  | "nullable" => .ok .nullable
  | "string" => .ok .string
  | "numeric" => .ok .numeric
  | "integer" => .ok .integer
  | "boolean" => .ok .boolean
  | "email" => .ok .email
  | "date" => .ok .date
  | "min" => (limitOf name argument).map .min
  | "max" => (limitOf name argument).map .max
  | "in" => .ok (.oneOf ((Text.split ',' (argument.getD "")).map Text.trim))
  | "regex" =>
      match Pattern.Expr.parse? (argument.getD "") with
      | some e => .ok (.pattern e)
      | none => .error (.invalidPattern .rule)
  | name => .error (.validation ("Unknown rule '" ++ name ++ "'"))

end FieldRule

/-- The rules of fields, each under a dotted path, in the order
of declaration. -/
structure FieldRules where
  fields : List (String × List FieldRule)

namespace FieldRules

def empty : FieldRules := ⟨[]⟩

def isEmpty (rules : FieldRules) : Bool :=
  rules.fields.isEmpty

/-- Declares rules for a path. -/
def declare (rules : FieldRules) (path : String)
    (fieldRules : List FieldRule) : FieldRules :=
  ⟨rules.fields ++ [(path, fieldRules)]⟩

/-- Declares rules for a path in their written form; blank parts are skipped. -/
def parseField (rules : FieldRules) (path written : String) :
    Except Error FieldRules :=
  (((Text.split '|' written).filter fun r => !Text.isBlankText r).mapM
    FieldRule.parse).map
    (rules.declare path)

/-- The messages of the rules that a value breaks. -/
def broken (path : String) (fieldRules : List FieldRule)
    (v : Option Value) : List String :=
  (fieldRules.filter fun rule => !rule.holds v).map fun rule =>
    rule.message path

/-- The messages of all declarations that a row breaks. A later declaration for
a path takes the place of an earlier one. -/
def validate (rules : FieldRules) (row : Object) : FieldMessages :=
  rules.fields.foldl
    (fun messages (path, fieldRules) =>
      let texts := broken path fieldRules (Path.get? row path)
      if texts.isEmpty then messages else messages.insert path texts)
    []

/-- Accepts a row, or reports everything that is wrong with it. -/
def check (rules : FieldRules) (row : Object) : Except Error Unit :=
  let messages := rules.validate row
  if messages.isEmpty then .ok () else .error (.fieldErrors messages)

end FieldRules

end TenantTables
