import NestedTx.Diagnostics
import NestedTx.LogSettings
import NestedTx.Main
import NestedTx.Proofs.Database.WithTransaction
import NestedTx.Proofs.Database.Clients
import NestedTx.Proofs.Database.Finality
import NestedTx.Query.Cached
import NestedTx.Proofs.Lending
import NestedTx.Proofs.Database.Lending
import NestedTx.Proofs.Transaction.Levels
import NestedTx.Proofs.Database.Block
import NestedTx.Proofs.Database.Turns
import NestedTx.Proofs.Console.Actions
import NestedTx.Proofs.Session
import NestedTx.Proofs.Isolation
import NestedTx.Proofs.Database.Exits
import NestedTx.Proofs.Transaction.Brackets
import NestedTx.Proofs.Database.Crew
import NestedTx.Proofs.Database.Balance
import NestedTx.Proofs.Query.Caching
import NestedTx.Proofs.Database.Leaks
import NestedTx.Proofs.Cache.Lifetimes
import NestedTx.Proofs.Query.Writes
import NestedTx.Proofs.Database.Control
import NestedTx.Proofs.Console.Desk
import NestedTx.Proofs.Database.Nested
import NestedTx.Proofs.Database.Scopes
import NestedTx.Proofs.Database.Escalation
import NestedTx.Proofs.Query.Agreement
import NestedTx.Proofs.Database.Listing
import NestedTx.Proofs.Database.Saved
import NestedTx.Proofs.Decimal.Exact
import NestedTx.Proofs.Reachability.Backoff
import NestedTx.Proofs.Reachability.Schedule
import NestedTx.Proofs.Query.Strength
import NestedTx.Proofs.Console.Alignment
import NestedTx.Proofs.Console.Given
