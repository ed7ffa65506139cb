import Marionette.Main
import Marionette.Screen
import Marionette.Proofs.Chance
import Marionette.Proofs.SortedMap
import Marionette.Proofs.StepTable.Steps
import Marionette.Proofs.StepTable.Lanes
import Marionette.Proofs.StepTable.Columns
import Marionette.Proofs.StepTable.Fates
import Marionette.Proofs.StepTable.Accounts
import Marionette.Proofs.StepTable.Markers
import Marionette.Proofs.BuiltIn
import Marionette.Proofs.StepTable.Greetings
import Marionette.Proofs.StepTable.Wanderings
import Marionette.Proofs.Playback.Wakeup
import Marionette.Proofs.Playback.Reachable
import Marionette.Proofs.Playback.Drain
import Marionette.Proofs.Playback.Reference
import Marionette.Proofs.Playback.Restriction
import Marionette.Proofs.Playback.Laps
import Marionette.Proofs.Playback.FinalStates
import Marionette.Proofs.Playback.Concatenation
import Marionette.Proofs.Playback.Mirror
import Marionette.Proofs.Playback.Ownership
import Marionette.Proofs.Playback.EditLock
import Marionette.Proofs.Playback.Tale
import Marionette.Proofs.Playback.LastShown
import Marionette.Proofs.Playback.Timing
import Marionette.Proofs.Playback.Instant
import Marionette.Proofs.Playback.Rounds
import Marionette.Proofs.Playback.Cancellation
import Marionette.Proofs.Playback.Lockstep
import Marionette.Proofs.Playback.Bystanders
import Marionette.Proofs.Playback.Opening
import Marionette.Proofs.Playback.Starting
import Marionette.Proofs.Playback.Draws
import Marionette.Proofs.Playback.Announcement
import Marionette.Proofs.Playback.Range
import Marionette.Proofs.Playback.Horizon
import Marionette.Proofs.Playback.Length
import Marionette.Proofs.Naming
import Marionette.Proofs.Project
import Marionette.Proofs.Decimal.Numeral
import Marionette.Proofs.Decimal.Double
import Marionette.Proofs.Decimal.Shortest
import Marionette.Proofs.Json.Reading
import Marionette.Proofs.Json.Decoding
import Marionette.Proofs.Document.Project
import Marionette.Proofs.Cli
import Marionette.Proofs.TimerQueue
import Marionette.Proofs.Playback.Portions
import Marionette.Proofs.Playback.Inside
import Marionette.Proofs.InPlace
import Marionette.Proofs.Edits
import Marionette.Proofs.Revision
import Marionette.Proofs.StageDisplay
import Marionette.Proofs.Reordering
import Marionette.Proofs.FreshNames
