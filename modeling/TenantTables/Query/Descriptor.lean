import TenantTables.Number.Reading
import TenantTables.Query.Filter
import TenantTables.Query.Params
import TenantTables.Query.Sort

/-!
# Query descriptors

A descriptor is what a request asks of a table: columns, a filter, an order, a
page, and whether the selected rows are to be deleted instead of read. Any
request has one. What is malformed is left out or replaced by its default.
-/

namespace TenantTables.Query

/-- What one list request asks for. -/
structure Descriptor where
  selected : List String
  filter : Filter
  sorts : List SortTerm
  page : Nat
  pageSize : Nat
  isDelete : Bool
  deriving DecidableEq, Repr

/-- The size of a page where no other is configured. -/
def defaultPageSize : Nat := 15

/-- The greatest page number and page size. -/
def maxPage : Nat := 4294967295

namespace Descriptor

/-- The first page of everything. -/
def default : Descriptor where
  selected := ["*"]
  filter := .empty
  sorts := []
  page := 1
  pageSize := defaultPageSize
  isDelete := false

/-- Whether all columns are selected. -/
def selectsAll (d : Descriptor) : Bool :=
  d.selected.contains "*"

/-- The number of rows in front of the page. -/
def offset (d : Descriptor) : Nat :=
  (d.page - 1) * d.pageSize

/-- A character that a selected name may have. -/
def isSelectChar (c : Char) : Bool :=
  Text.isAsciiLower c || Text.isAsciiDigit c || c == '_' || c == '*'

/-- The columns that a select parameter names; all of them
when it names none. -/
def readSelect (raw : Option String) : List String :=
  let names :=
    match raw with
    | none => []
    | some raw =>
        ((Text.split ',' (Text.lower raw)).map fun name =>
          String.ofList (name.toList.filter isSelectChar)).filter (· ≠ "")
  if names.isEmpty then ["*"] else names

/-- A positive number in range, its fraction dropped. Anything else
counts as absent. -/
def readPositive? (raw : Option String) : Option Nat :=
  raw.bind fun raw =>
    (Number.literalValue? raw).bind fun d =>
      let n := d.floorAbs
      if !d.negative && 1 ≤ n && n ≤ maxPage then some n else none

/-- Whether a request method asks for deletion. -/
def isDeleteMethod (method : String) : Bool :=
  Text.lowerAscii (Text.trim method) == "delete"

/-- The descriptor of a request; `pageSize` is for requests that name none. -/
def ofParams (p : Params) (method : String) (aliases : Aliases)
    (pageSize : Nat) :
    Descriptor where
  selected := readSelect (p.get? "select")
  filter := .ofRaw (p.all "filter") aliases
  sorts := (p.all "sort").filterMap fun raw => SortTerm.parse? raw aliases
  page := (readPositive? (p.get? "page")).getD 1
  pageSize :=
    ((readPositive? (p.get? "limit")).or
      (readPositive? (p.get? "per_page"))).getD
      (if pageSize = 0 then 1 else pageSize)
  isDelete := isDeleteMethod method

end Descriptor

end TenantTables.Query
