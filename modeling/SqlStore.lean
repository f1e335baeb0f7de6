import SqlStore.Main
import SqlStore.Proofs.Execution.RoundTrip
import SqlStore.Proofs.Sql.Statements
import SqlStore.Proofs.Storage.File
import SqlStore.Proofs.Execution.Identity
import SqlStore.Proofs.Execution.Isolation
import SqlStore.Proofs.Execution.FreshTable
import SqlStore.Proofs.Execution.Matching
import SqlStore.Proofs.Query.Join
import SqlStore.Proofs.Query.Grouping
import SqlStore.Proofs.Schema.Reloaded
import SqlStore.Proofs.Execution.Rewriting
import SqlStore.Proofs.Query.Like
import SqlStore.Proofs.Execution.SortedOutput
import SqlStore.Proofs.Query.Ordering
import SqlStore.Proofs.Execution.GroupRows
import SqlStore.Proofs.Execution.LegacyOr
import SqlStore.Proofs.Execution.Joins
import SqlStore.Proofs.Execution.Unqualified
import SqlStore.Proofs.Query.Sums
import SqlStore.Proofs.Execution.Items
import SqlStore.Proofs.Execution.IndependentUpdates
import SqlStore.Proofs.Execution.InsertForms
import SqlStore.Proofs.Schema.FixedPoints
import SqlStore.Proofs.Schema.IntegerTexts
import SqlStore.Proofs.Execution.Numbers
import SqlStore.Proofs.Decimal.IntegerOrder
import SqlStore.Proofs.Execution.Schemas
import SqlStore.Proofs.Sql.Faults
import SqlStore.Proofs.Value.Transitivity
import SqlStore.Proofs.Sql.Malformed
import SqlStore.Proofs.Sql.Spelling
import SqlStore.Proofs.Execution.Script
import SqlStore.Proofs.CommandLine.Runs
