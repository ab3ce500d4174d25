import EntitySql.Schema.Declaration
import EntitySql.Session.Journal
import EntitySql.Session.Basic
import EntitySql.Sqlite.Connection
import EntitySql.Sqlite.Url
import EntitySql.Proofs.Predicate.Binding
import EntitySql.Proofs.Predicate.Grammar
import EntitySql.Proofs.Predicate.Meaning
import EntitySql.Proofs.Predicate.Negation
import EntitySql.Proofs.Predicate.Outcome
import EntitySql.Proofs.Predicate.Tests
import EntitySql.Proofs.Predicate.TwinRuns
import EntitySql.Proofs.Session.Observation
import EntitySql.Proofs.Session.Transaction
import EntitySql.Proofs.Session.BatchTransaction
import EntitySql.Proofs.Statement.Places
import EntitySql.Proofs.Statement.Supply
import EntitySql.Proofs.Statement.Parameters
import EntitySql.Proofs.Statement.Shape
import EntitySql.Proofs.Hydrate.Cache
import EntitySql.Proofs.Hydrate.ObjectGraph
import EntitySql.Proofs.Hydrate.Children
import EntitySql.Proofs.Hydrate.Run
import EntitySql.Proofs.Hydrate.Recovery
import EntitySql.Proofs.Statement.PredicateText
import EntitySql.Proofs.Statement.ShapeText
import EntitySql.Proofs.Predicate.Identifiers
import EntitySql.Proofs.Statement.Readable
import EntitySql.Proofs.Statement.ReadableParts
import EntitySql.Proofs.Statement.Numbering
import EntitySql.Proofs.Session.OperationRuns
import EntitySql.Proofs.Value.Equality
import EntitySql.Proofs.Hydrate.Flat
import EntitySql.Proofs.Session.StoredRows
import EntitySql.Proofs.Session.InsertGet
import EntitySql.Proofs.Statement.Paging
import EntitySql.Proofs.Statement.StatementText
import EntitySql.Proofs.Statement.RootOrder
import EntitySql.Proofs.Statement.JoinPaging
import EntitySql.Proofs.Statement.RootContiguity
import EntitySql.Proofs.Hydrate.Roots
import EntitySql.Proofs.Session.JoinedRows
import EntitySql.Proofs.Session.PageTotals
import EntitySql.Proofs.Session.FirstRoot
import EntitySql.Proofs.Hydrate.NestedRoots
import EntitySql.Proofs.Session.Exclusion
import EntitySql.Proofs.Session.WhereClauses
import EntitySql.Proofs.Hydrate.Slices
import EntitySql.Proofs.Session.JoinLayout
import EntitySql.Proofs.Session.ScriptTransaction
import EntitySql.Proofs.Dialect.NameReading
import EntitySql.Proofs.Statement.QuotedNames
import EntitySql.Proofs.Hydrate.Reference
import EntitySql.Proofs.Hydrate.KeptInstances
import EntitySql.Proofs.Hydrate.ReferenceRun
import EntitySql.Proofs.Predicate.References
import EntitySql.Proofs.Predicate.Checks
import EntitySql.Proofs.Statement.AliasUses
import EntitySql.Proofs.Statement.SelectChecks
import EntitySql.Proofs.Statement.JoinScope
import EntitySql.Proofs.Hydrate.Shortcut
import EntitySql.Proofs.Predicate.LikePattern
import EntitySql.Proofs.Predicate.OutOfScope
import EntitySql.Proofs.Value.ByteOrder
import EntitySql.Proofs.Predicate.RowTests
import EntitySql.Proofs.Predicate.ListTests
import EntitySql.Proofs.Predicate.Constants
import EntitySql.Proofs.Predicate.FoldedTests
import EntitySql.Proofs.Hydrate.FieldSources
import EntitySql.Proofs.Hydrate.RowSources
import EntitySql.Proofs.Hydrate.FlatRoots
import EntitySql.Proofs.Calendar.UniversalTexts
import EntitySql.Proofs.Session.InsertInPlace
import EntitySql.Proofs.Session.BatchModes
import EntitySql.Proofs.Dialect.TypeSyntax
import EntitySql.Proofs.Dialect.TypeNormalForm
import EntitySql.Proofs.Statement.NumberedText
import EntitySql.Proofs.Session.OutputNames
import EntitySql.Proofs.Predicate.NameSearch
import EntitySql.Proofs.Predicate.Rebinding
import EntitySql.Proofs.Session.KeyClauses
import EntitySql.Proofs.Sqlite.FirstValue
import EntitySql.Proofs.Predicate.MemberNumbers
import EntitySql.Proofs.Predicate.AliasAssignment
