import Cutscene.Json.Reader
import Cutscene.Json.Printer
import Cutscene.Json.Tagged
import Cutscene.Uuid
import Cutscene.Instant
import Cutscene.Progress
import Cutscene.Namespace
import Cutscene.Fault
import Cutscene.Rect
import Cutscene.HostCommand
import Cutscene.Run
import Cutscene.Selection
import Cutscene.Catalog
import Cutscene.Event
import Cutscene.Store.RecordName
import Cutscene.Director.Cue
import Cutscene.Store.FileStore
import Cutscene.Rehearsal
import Cutscene.Console.Settings
import Cutscene.Anchor.Watch
import Cutscene.Anchor.Listing
import Cutscene.Console
import Cutscene.Console.LineReader
import Cutscene.Console.Program
import Cutscene.Main
import Cutscene.Proofs.Director.Bracketing
import Cutscene.Proofs.Director.Replay
import Cutscene.Proofs.Run.Coherence
import Cutscene.Proofs.Run.Effects
import Cutscene.Proofs.Director.Tickets
import Cutscene.Proofs.Run.Lint
import Cutscene.Proofs.Run.Operations
import Cutscene.Proofs.Director.Waking
import Cutscene.Proofs.Director.Saving
import Cutscene.Proofs.Digits
import Cutscene.Proofs.Json.Tokens
import Cutscene.Proofs.Json.RoundTrip
import Cutscene.Proofs.Progress
import Cutscene.Proofs.Store.RecordName
import Cutscene.Proofs.Store.FileStore
import Cutscene.Proofs.Store.Atomicity
import Cutscene.Proofs.Run.Ending
import Cutscene.Proofs.Director.Refusals
import Cutscene.Proofs.Run.Showing
import Cutscene.Proofs.Director.Showing
import Cutscene.Proofs.Replay
import Cutscene.Proofs.Run.Highlight
import Cutscene.Proofs.Run.Script
import Cutscene.Proofs.Run.Path
import Cutscene.Proofs.Run.Budget
import Cutscene.Proofs.Run.Sounds
import Cutscene.Proofs.Run.Renaming
import Cutscene.Proofs.Run.Rescripting
import Cutscene.Proofs.Run.Report
import Cutscene.Proofs.Director.Outcomes
import Cutscene.Proofs.Director.Minutes
import Cutscene.Proofs.Director.Geometry
import Cutscene.Proofs.Director.Twins
import Cutscene.Proofs.Director.Independence
import Cutscene.Proofs.Director.Dispatches
import Cutscene.Proofs.Director.Staging
import Cutscene.Proofs.Director.Waits
import Cutscene.Proofs.Director.Keeping
import Cutscene.Proofs.Console.Reactions
import Cutscene.Proofs.Console.Course
import Cutscene.Proofs.Console.Timers
import Cutscene.Proofs.Console.Telling
import Cutscene.Proofs.Director.Switching
import Cutscene.Proofs.Director.Completion
import Cutscene.Proofs.Console.Refusals
import Cutscene.Proofs.Formats
import Cutscene.Proofs.Roster
import Cutscene.Proofs.Director.Arbitration
import Cutscene.Proofs.Anchor.Standing
import Cutscene.Proofs.Anchor.Course
import Cutscene.Proofs.Anchor.Polling
import Cutscene.Proofs.Run.Choosing
import Cutscene.Proofs.Catalog
import Cutscene.Proofs.Store.Users
import Cutscene.Proofs.Store.Paths
import Cutscene.Proofs.Store.Leftovers
import Cutscene.Proofs.Json.Grammar
import Cutscene.Proofs.Trigger
import Cutscene.Proofs.Json.Spelling
import Cutscene.Proofs.Json.Derivation
import Cutscene.Proofs.Store.Editions
