import Turnrail.Accounts.Login
import Turnrail.Accounts.Rejection
import Turnrail.Accounts.Selection
import Turnrail.Catalog.LowerBound
import Turnrail.Directory.Worktree
import Turnrail.Engine.Grammar
import Turnrail.Engine.Helper
import Turnrail.Engine.LineReader
import Turnrail.Engine.Process
import Turnrail.Engine.Sequence
import Turnrail.Engine.Writes
import Turnrail.Failure.Diagnostics
import Turnrail.Ledger.Acceptance
import Turnrail.Ledger.Atomicity
import Turnrail.Registry.Edits
import Turnrail.Registry.Store
import Turnrail.Runtime.Accounts
import Turnrail.Runtime.Commit
import Turnrail.Runtime.Continuity
import Turnrail.Runtime.Departure
import Turnrail.Runtime.Fingerprint
import Turnrail.Runtime.Journal
import Turnrail.Runtime.Provenance
import Turnrail.Runtime.Recovery
import Turnrail.Settings.Limits
import Turnrail.Settings.Logins
import Turnrail.Socket.Head
import Turnrail.Socket.Message
import Turnrail.Socket.Messages
import Turnrail.Transport.Buffering
import Turnrail.Transport.Delivery
import Turnrail.Transport.ModelStream
