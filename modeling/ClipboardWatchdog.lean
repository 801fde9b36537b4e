import ClipboardWatchdog.Clipboard.PollingThreads
import ClipboardWatchdog.Main
import ClipboardWatchdog.Proofs.Clipboard.PollingAlarm
import ClipboardWatchdog.Proofs.Clipboard.EventAlarm
import ClipboardWatchdog.Proofs.Helper.Keeping
import ClipboardWatchdog.Proofs.Watchdog.Operations
import ClipboardWatchdog.Proofs.Watchdog.Sessions
import ClipboardWatchdog.Proofs.Watchdog.Mode
import ClipboardWatchdog.Proofs.Text.Digits
import ClipboardWatchdog.Proofs.Time.StampRoundTrip
import ClipboardWatchdog.Proofs.Time.Calendar
import ClipboardWatchdog.Proofs.Session.Names
import ClipboardWatchdog.Proofs.Session.Ranking
import ClipboardWatchdog.Proofs.Storage.Entries
import ClipboardWatchdog.Proofs.Session.Sweeping
import ClipboardWatchdog.Proofs.Watchdog.ActiveSession
import ClipboardWatchdog.Proofs.Helper.Recovery
import ClipboardWatchdog.Proofs.Control.Updating
import ClipboardWatchdog.Proofs.Watchdog.PollingResets
import ClipboardWatchdog.Proofs.Helper.Agreeing
import ClipboardWatchdog.Proofs.Helper.Ending
import ClipboardWatchdog.Proofs.Helper.Requests
import ClipboardWatchdog.Proofs.Watchdog.UnreadableClock
import ClipboardWatchdog.Proofs.Watchdog.Telling
import ClipboardWatchdog.Proofs.Watchdog.Reentry
import ClipboardWatchdog.Proofs.Helper.BrokenOff
import ClipboardWatchdog.Proofs.Watchdog.Showing
import ClipboardWatchdog.Proofs.Watchdog.Mirroring
import ClipboardWatchdog.Proofs.Watchdog.Observing
import ClipboardWatchdog.Proofs.Json.Accepting
import ClipboardWatchdog.Proofs.Settings.Loading
import ClipboardWatchdog.Proofs.Watchdog.RecordLines
import ClipboardWatchdog.Proofs.Watchdog.Routing
import ClipboardWatchdog.Proofs.Clipboard.Strategies
import ClipboardWatchdog.Proofs.Control.SettingsInUse
import ClipboardWatchdog.Proofs.Settings.Bounds
import ClipboardWatchdog.Proofs.Watchdog.Pausing
import ClipboardWatchdog.Proofs.Clipboard.Looping
import ClipboardWatchdog.Proofs.Clipboard.Restarting
import ClipboardWatchdog.Proofs.Watchdog.DueResets
import ClipboardWatchdog.Proofs.Watchdog.Truth
import ClipboardWatchdog.Proofs.Clipboard.Overcounting
import ClipboardWatchdog.Proofs.Helper.CallOrder
import ClipboardWatchdog.Proofs.Session.NameStamps
import ClipboardWatchdog.Proofs.Session.Retaining
import ClipboardWatchdog.Proofs.Session.OtherBases
import ClipboardWatchdog.Proofs.Session.NamePattern
import ClipboardWatchdog.Proofs.Session.FreeNames
import ClipboardWatchdog.Proofs.Settings.Composing
import ClipboardWatchdog.Proofs.Watchdog.SessionReach
import ClipboardWatchdog.Proofs.Watchdog.CopyLines
