import NavState.Session.Run
import NavState.Bench.Stores
import NavState.Bench.Tables
import NavState.Proofs.Operations
import NavState.Proofs.Flight
import NavState.Proofs.Provenance
import NavState.Proofs.Settlements
import NavState.Proofs.Periods
import NavState.Proofs.Commits
import NavState.Proofs.Capacity
import NavState.Proofs.Isolation
import NavState.Proofs.Clearing
import NavState.Proofs.Histories
import NavState.Proofs.Browsing
import NavState.Proofs.Movements
import NavState.Proofs.Tabs
import NavState.Proofs.Revisits
import NavState.Proofs.Reentrance
import NavState.Proofs.Sessions
import NavState.Proofs.Conversations
import NavState.Proofs.Announcements
import NavState.Proofs.Interplay
import NavState.Proofs.Hooks
import NavState.Proofs.Reports
import NavState.Proofs.Accounts
import NavState.Proofs.Rows
import NavState.Proofs.Exports
import NavState.Proofs.Touches
import NavState.Proofs.Reaching
import NavState.Proofs.Window
import NavState.Proofs.Handouts
import NavState.Proofs.Idempotence
import NavState.Proofs.Gathering
import NavState.Proofs.Separation
import NavState.Proofs.Zippers
import NavState.Proofs.Tables
import NavState.Proofs.Registrations
import NavState.Proofs.Dispatch
import NavState.Proofs.Tending
import NavState.Proofs.Verdicts
import NavState.Proofs.Serving
import NavState.Proofs.Joins
import NavState.Proofs.Latecomers
import NavState.Proofs.Catalogues
