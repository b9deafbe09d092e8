import SqlAudit.Audit
import SqlAudit.Catalog.Basic
import SqlAudit.Catalog.ByteScan
import SqlAudit.Catalog.Loader
import SqlAudit.Catalog.Name
import SqlAudit.Catalog.OrderedMap
import SqlAudit.Catalog.Pieces
import SqlAudit.Catalog.Provider
import SqlAudit.Catalog.Shared
import SqlAudit.Catalog.Table
import SqlAudit.Command.Arguments
import SqlAudit.Command.Help
import SqlAudit.Command.Listing
import SqlAudit.Command.Options
import SqlAudit.Command.Outcome
import SqlAudit.Command.Project
import SqlAudit.Command.Run
import SqlAudit.Dialect
import SqlAudit.Files.Basic
import SqlAudit.Files.Memory
import SqlAudit.Files.Pattern
import SqlAudit.Files.Search
import SqlAudit.Finding
import SqlAudit.Json.Basic
import SqlAudit.Json.Catalog
import SqlAudit.Json.Decode
import SqlAudit.Json.Finding
import SqlAudit.Json.Parse
import SqlAudit.Json.Print
import SqlAudit.Json.Settings
import SqlAudit.Json.Spelling
import SqlAudit.Lint.ImplicitJoin
import SqlAudit.Lint.NullComparison
import SqlAudit.Lint.SelectStar
import SqlAudit.Lint.Semicolon
import SqlAudit.Lint.Slices
import SqlAudit.Lint.WordCase
import SqlAudit.Lint.Words
import SqlAudit.Main
import SqlAudit.Names.Columns
import SqlAudit.Names.Scope
import SqlAudit.Names.Symbols
import SqlAudit.Names.Tables
import SqlAudit.Names.UnusedAlias
import SqlAudit.Position
import SqlAudit.Proofs.Audit.Comparison
import SqlAudit.Proofs.Audit.Drivers
import SqlAudit.Proofs.Audit.ImplicitJoins
import SqlAudit.Proofs.Audit.Limit
import SqlAudit.Proofs.Audit.Phases
import SqlAudit.Proofs.Audit.SelectStars
import SqlAudit.Proofs.Audit.Switches
import SqlAudit.Proofs.Audit.WithoutCatalog
import SqlAudit.Proofs.Catalog.AddedColumn
import SqlAudit.Proofs.Catalog.ByteScan
import SqlAudit.Proofs.Catalog.ColumnMap
import SqlAudit.Proofs.Catalog.FailedLoad
import SqlAudit.Proofs.Catalog.Fallback
import SqlAudit.Proofs.Catalog.Frame
import SqlAudit.Proofs.Catalog.Keys
import SqlAudit.Proofs.Catalog.Lookup
import SqlAudit.Proofs.Catalog.Pieces
import SqlAudit.Proofs.Catalog.Redefinition
import SqlAudit.Proofs.Catalog.Removal
import SqlAudit.Proofs.Catalog.Renaming
import SqlAudit.Proofs.Catalog.Segments
import SqlAudit.Proofs.Catalog.Separators
import SqlAudit.Proofs.Catalog.TableMap
import SqlAudit.Proofs.Catalog.TableNames
import SqlAudit.Proofs.Catalog.ViewColumns
import SqlAudit.Proofs.Catalog.WellFormed
import SqlAudit.Proofs.Command.DriverNames
import SqlAudit.Proofs.Command.ExitCode
import SqlAudit.Proofs.Json.Catalog
import SqlAudit.Proofs.Json.Compact
import SqlAudit.Proofs.Json.Numerals
import SqlAudit.Proofs.Json.Records
import SqlAudit.Proofs.Json.RoundTrip
import SqlAudit.Proofs.Json.Settings
import SqlAudit.Proofs.Lint.ItemStars
import SqlAudit.Proofs.Lint.SetLists
import SqlAudit.Proofs.Lint.SliceBySlice
import SqlAudit.Proofs.Lint.Slices
import SqlAudit.Proofs.Names.Ambiguity
import SqlAudit.Proofs.Names.BareNames
import SqlAudit.Proofs.Names.Briefs
import SqlAudit.Proofs.Names.CanonicalAlias
import SqlAudit.Proofs.Names.CaseInsensitive
import SqlAudit.Proofs.Names.Collection
import SqlAudit.Proofs.Names.Columns
import SqlAudit.Proofs.Names.CommonTable
import SqlAudit.Proofs.Names.EnteredTables
import SqlAudit.Proofs.Names.FirstOfKind
import SqlAudit.Proofs.Names.Flattening
import SqlAudit.Proofs.Names.LastAlias
import SqlAudit.Proofs.Names.LetterCase
import SqlAudit.Proofs.Names.MissingTables
import SqlAudit.Proofs.Names.MoreColumns
import SqlAudit.Proofs.Names.Occurrences
import SqlAudit.Proofs.Names.OuterAliases
import SqlAudit.Proofs.Names.QuotedNames
import SqlAudit.Proofs.Names.ResolvedAliases
import SqlAudit.Proofs.Names.SchemaChecks
import SqlAudit.Proofs.Names.SchemaTable
import SqlAudit.Proofs.Names.Scope
import SqlAudit.Proofs.Names.ScopeColumns
import SqlAudit.Proofs.Names.ScopeMaps
import SqlAudit.Proofs.Names.Shadowing
import SqlAudit.Proofs.Names.SingleScope
import SqlAudit.Proofs.Names.Suggestions
import SqlAudit.Proofs.Names.Symbols
import SqlAudit.Proofs.Names.Tables
import SqlAudit.Proofs.Names.Unmentioned
import SqlAudit.Proofs.Report.Marks
import SqlAudit.Proofs.Session.Publication
import SqlAudit.Proofs.Sql.Nodes
import SqlAudit.Proofs.Sql.Occurrences
import SqlAudit.Proofs.Sql.SingleSelect
import SqlAudit.Proofs.Text.Blanks
import SqlAudit.Proofs.Text.Distance
import SqlAudit.Proofs.Text.Edits
import SqlAudit.Proofs.Text.Encoding
import SqlAudit.Proofs.Text.Folding
import SqlAudit.Proofs.Text.Joining
import SqlAudit.Proofs.Text.LowerCase
import SqlAudit.Proofs.Text.Nearest
import SqlAudit.Record
import SqlAudit.Report.Basic
import SqlAudit.Report.Human
import SqlAudit.Report.Json
import SqlAudit.Report.Words
import SqlAudit.Session
import SqlAudit.Settings
import SqlAudit.Settings.Decode
import SqlAudit.Settings.Fields
import SqlAudit.Sql.Read.Access
import SqlAudit.Sql.Read.Basic
import SqlAudit.Sql.Read.Change
import SqlAudit.Sql.Read.Column
import SqlAudit.Sql.Read.Control
import SqlAudit.Sql.Read.Definition
import SqlAudit.Sql.Read.Expr
import SqlAudit.Sql.Read.Form
import SqlAudit.Sql.Read.Query
import SqlAudit.Sql.Read.Script
import SqlAudit.Sql.Read.Select
import SqlAudit.Sql.Read.Source
import SqlAudit.Sql.Read.Statement
import SqlAudit.Sql.Read.Strength
import SqlAudit.Sql.Read.Table
import SqlAudit.Sql.Read.TypeName
import SqlAudit.Sql.Render
import SqlAudit.Sql.Selects
import SqlAudit.Sql.Token
import SqlAudit.Sql.Token.Keywords
import SqlAudit.Sql.Token.Scan
import SqlAudit.Sql.Tree
import SqlAudit.Sql.Walk
import SqlAudit.Text.Case
import SqlAudit.Text.CaseTable
import SqlAudit.Text.Distance
import SqlAudit.Text.Letter
import SqlAudit.Text.RollingRows
import SqlAudit.Toml.Basic
import SqlAudit.Toml.Parse
import SqlAudit.Toml.Scalar
import SqlAudit.Toml.Table
