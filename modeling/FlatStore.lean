import FlatStore.Main
import FlatStore.Store.Process
import FlatStore.Proofs.RoundTrip
import FlatStore.Proofs.RecoveredTable
import FlatStore.Proofs.Restart
import FlatStore.Proofs.ConcurrentInserts
import FlatStore.Proofs.Lifetime
import FlatStore.Proofs.Growth
import FlatStore.Proofs.Frames
import FlatStore.Proofs.Connections
import FlatStore.Proofs.Registration
import FlatStore.Proofs.ConcurrentIdentities
import FlatStore.Proofs.Agreement
import FlatStore.Proofs.Runs
import FlatStore.Proofs.Selections
import FlatStore.Proofs.Cutting
import FlatStore.Proofs.Terminators
import FlatStore.Proofs.WellFormedPlans
import FlatStore.Proofs.Keywords
import FlatStore.Proofs.InsertShape
import FlatStore.Proofs.Entries
import FlatStore.Proofs.Grammar
import FlatStore.Proofs.NewTables
import FlatStore.Proofs.WrittenTables
import FlatStore.Proofs.Projections
import FlatStore.Proofs.ListedColumns
import FlatStore.Proofs.Rendering
import FlatStore.Proofs.Locality
import FlatStore.Proofs.Commuting
import FlatStore.Proofs.LineEndings
import FlatStore.Proofs.Accounts
import FlatStore.Proofs.TableLocks
import FlatStore.Proofs.Exclusion
import FlatStore.Proofs.LoadEvents
import FlatStore.Proofs.NameCounts
import FlatStore.Proofs.Starting
import FlatStore.Proofs.LockedCalls
import FlatStore.Proofs.RecoveredIdentities
