import TenantTables.Audit.Event
import TenantTables.Audit.Policy
import TenantTables.Audit.Session
import TenantTables.Column
import TenantTables.Column.Document
import TenantTables.Config
import TenantTables.Config.Document
import TenantTables.Csv
import TenantTables.Error
import TenantTables.Export
import TenantTables.FieldRule
import TenantTables.Import.Reconcile
import TenantTables.Import.Row
import TenantTables.Json.Print
import TenantTables.Json.Read
import TenantTables.Json.Value
import TenantTables.Memory.Store
import TenantTables.Memory.Table
import TenantTables.Number.Decimal
import TenantTables.Number.Double
import TenantTables.Number.Numeral
import TenantTables.Number.Power
import TenantTables.Number.Reading
import TenantTables.Number.Shortest
import TenantTables.Page
import TenantTables.Path
import TenantTables.Pattern.Basic
import TenantTables.Pattern.Match
import TenantTables.Pattern.Read
import TenantTables.Pattern.Size
import TenantTables.Pattern.Token
import TenantTables.Pattern.Token.Bracket
import TenantTables.Pattern.Token.Escape
import TenantTables.Pattern.Token.Lexer
import TenantTables.Pattern.Token.Name
import TenantTables.Pattern.Token.Verbose
import TenantTables.Pattern.Utf8
import TenantTables.Postgres.Cache
import TenantTables.Postgres.Connection
import TenantTables.Postgres.Reply
import TenantTables.Postgres.Store
import TenantTables.Proofs.ActionRun
import TenantTables.Proofs.WorkView
import TenantTables.Query.Clause
import TenantTables.Query.Descriptor
import TenantTables.Query.Document
import TenantTables.Query.Filter
import TenantTables.Query.Like
import TenantTables.Query.Match
import TenantTables.Query.Order
import TenantTables.Query.Params
import TenantTables.Query.Sort
import TenantTables.Record
import TenantTables.Repository
import TenantTables.Service
import TenantTables.Sql.Condition
import TenantTables.Sql.Definition
import TenantTables.Sql.Identifier
import TenantTables.Sql.Parameter
import TenantTables.Sql.Statement
import TenantTables.Supply
import TenantTables.TableName
import TenantTables.TableSpec
import TenantTables.Text.Blank
import TenantTables.Text.Case
import TenantTables.Text.CaseTable
import TenantTables.Text.Class
import TenantTables.Text.Order
import TenantTables.Text.Percent
import TenantTables.Text.Split
import TenantTables.Text.Utf8
import TenantTables.Time.Date
import TenantTables.Time.Instant
import TenantTables.Time.Reading
import TenantTables.Time.Stored
import TenantTables.Unicode.AgeTable
import TenantTables.Unicode.BreakTable
import TenantTables.Unicode.CategoryTable
import TenantTables.Unicode.CharSet
import TenantTables.Unicode.Fold
import TenantTables.Unicode.FoldTable
import TenantTables.Unicode.Property
import TenantTables.Unicode.PropertyTable
import TenantTables.Unicode.Query
import TenantTables.Unicode.ScriptExtensionTable
import TenantTables.Unicode.ScriptTable
import TenantTables.Proofs.ObjectKeys
import TenantTables.Proofs.TableRows
import TenantTables.Proofs.StoreInvariant
import TenantTables.Proofs.ImportEntry
import TenantTables.Proofs.ImportCalls
import TenantTables.Proofs.ImportTable
import TenantTables.Proofs.Request
import TenantTables.Proofs.FailedRequest
import TenantTables.Proofs.PhysicalName
import TenantTables.Proofs.PairedRun
import TenantTables.Proofs.TenantIsolation
import TenantTables.Proofs.PathReading
import TenantTables.Proofs.RuleMessages
import TenantTables.Proofs.NestedRules
import TenantTables.Proofs.SqlToken
import TenantTables.Proofs.ConditionBinding
import TenantTables.Proofs.StatementBinding
import TenantTables.Proofs.IssuedStatements
import TenantTables.Proofs.ConditionShape
import TenantTables.Proofs.ConditionFormula
import TenantTables.Proofs.TextOrder
import TenantTables.Proofs.DigitText
import TenantTables.Proofs.ValueOrder
import TenantTables.Proofs.Calendar
import TenantTables.Proofs.Pagination
import TenantTables.Proofs.TimestampText
import TenantTables.Proofs.LiteralComparison
import TenantTables.Proofs.Rounding
import TenantTables.Proofs.BulkDeletion
import TenantTables.Proofs.TextCutting
import TenantTables.Proofs.Encoding
import TenantTables.Proofs.DescriptorShape
import TenantTables.Proofs.WrittenQuery
import TenantTables.Proofs.CsvReading
import TenantTables.Proofs.Flattening
import TenantTables.Proofs.DocumentReading
import TenantTables.Proofs.CellReading
import TenantTables.Proofs.CheckedRows
import TenantTables.Proofs.ExportedFile
import TenantTables.Proofs.Coercion
import TenantTables.Proofs.WrittenAttributes
import TenantTables.Proofs.RowWriting
import TenantTables.Proofs.GeneralLayout
import TenantTables.Proofs.ImportRows
import TenantTables.Proofs.ImportRun
import TenantTables.Proofs.Reimport
import TenantTables.Proofs.RelationName
import TenantTables.Proofs.IdentifierLimit
import TenantTables.Proofs.StaleUpdate
import TenantTables.Proofs.TableExistence
import TenantTables.Proofs.CallInterleaving
import TenantTables.Proofs.AuditTrail
import TenantTables.Proofs.HiddenFields
import TenantTables.Proofs.ServiceInvariant
import TenantTables.Proofs.RecordRequests
import TenantTables.Proofs.IdentifierMap
import TenantTables.Proofs.ChangeLog
import TenantTables.Proofs.GeneralRows
import TenantTables.Proofs.GeneralRequests
import TenantTables.Proofs.UpsertedRecord
import TenantTables.Proofs.WindowOfTime
import TenantTables.Proofs.ImportedIdentifiers
import TenantTables.Proofs.ReimportContent
import TenantTables.Proofs.WildcardPattern
import TenantTables.Proofs.NestedPath
import TenantTables.Proofs.NestedOrder
import TenantTables.Proofs.UntouchedAttributes
import TenantTables.Proofs.PatternClause
import TenantTables.Proofs.MergedOrder
import TenantTables.Proofs.SmallSort
import TenantTables.Proofs.PartitionSort
import TenantTables.Proofs.RunSort
import TenantTables.Proofs.SortedRows
import TenantTables.Proofs.RowNesting
import TenantTables.Proofs.NameEncoding
import TenantTables.Proofs.RewrittenRow
import TenantTables.Proofs.ShortestDigits
import TenantTables.Proofs.NumberText
import TenantTables.Proofs.DecimalRange
import TenantTables.Proofs.BoundValues
import TenantTables.Proofs.OppositeClauses
import TenantTables.Proofs.NegatedCondition
import TenantTables.Proofs.DecimalLiteral
import TenantTables.Proofs.NumericParameter
import TenantTables.Proofs.TypeRules
import TenantTables.Proofs.WrittenPath
import TenantTables.Proofs.ReportedRules
import TenantTables.Proofs.FieldSearch
import TenantTables.Proofs.LayoutKeys
import TenantTables.Proofs.DateOrder
import TenantTables.Proofs.DayPath
import TenantTables.Proofs.QuotedName
import TenantTables.Proofs.RecordChanges
