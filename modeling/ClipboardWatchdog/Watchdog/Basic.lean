import ClipboardWatchdog.Clipboard.Monitor
import ClipboardWatchdog.Helper.Engine
import ClipboardWatchdog.Journal
import ClipboardWatchdog.Watchdog.Config

/-!
# The watchdog

A `Watchdog` is what stays fixed: the configuration, the host, and the receiver of the status. A
`Watch` is what changes, beside the reset engine: the monitor, the status, the journal, and what
has been delivered to the receiver. The status is what the user sees at a glance. All that a
watchdog does is `Work` on the engine and the watch, which a fault of the host, of the receiver or
of the clock may abandon.
-/

namespace ClipboardWatchdog

open Text

/-- The counters, the mode and the last message. -/
structure Status where
  copies : Nat := 0
  resets : Nat := 0
  diagnostics : Bool := false
  lastMessage : Option String := none
  deriving DecidableEq, Repr, Inhabited

def Status.text (s : Status) : String :=
  "Copies: " ++ decimal s.copies ++ " | Resets: " ++ decimal s.resets ++ " | Diagnostics: " ++
    (if s.diagnostics then "on" else "off") ++
    (match s.lastMessage with
      | some m => " | " ++ m
      | none => "")

/-- What a receiver of the status is handed, and the counters that it could read at that
moment. -/
structure Delivery where
  text : String
  copies : Nat
  resets : Nat
  deriving DecidableEq, Repr, Inhabited

/-- What a watchdog remembers beside its engine. -/
structure Watch where
  monitor : Monitor
  journal : Journal
  status : Status := {}
  deliveries : List Delivery := []

/-- A watchdog: its configuration, the host that it drives, and the receiver of its status, if one
is registered. The receiver may break down. Unlike a host it has no memory: whether it breaks down
is a function of what it is handed, so that one that breaks down at its third call is left out. -/
structure Watchdog (σ : Type) where
  config : Config
  host : Host σ
  receiver : Option (Delivery → Option Fault)

/-- What a watchdog does: work on its engine and its watch. -/
abbrev Work (σ α : Type) := Act σ Watch α

/-- The scene of a watchdog that has done nothing. -/
def Watchdog.opening {σ : Type} (w : Watchdog σ) (host : σ) (disk : Disk) (clock : Clock) :
    Scene σ Watch where
  engine := { host }
  around := { monitor := .new w.config.resetThreshold, journal := { disk, clock } }

/-- The watch with nothing on record: no log and no delivery. -/
def Watch.quiet (w : Watch) : Watch :=
  { w with deliveries := [], journal := { w.journal with log := [] } }

namespace Scene

variable {σ : Type}

/-- The scene with another clock. A watchdog works on a scene with the clock that it finds there, so
that in the course of one operation no time passes. -/
def withClock (s : Scene σ Watch) (clock : Clock) : Scene σ Watch :=
  { s with around := { s.around with journal := { s.around.journal with clock } } }

/-- The scene with nothing on record: no visit of the host, no log and no delivery. -/
def quiet (s : Scene σ Watch) : Scene σ Watch where
  engine := { s.engine with visits := [] }
  around := s.around.quiet

end Scene

namespace Watch

def onMonitor (f : Monitor → Monitor) : Aside Watch Unit :=
  modify fun w => { w with monitor := f w.monitor }

def note {α : Type} (f : Journal → Journal.Written α) : Aside Watch α := do
  let w ← get
  let (result, journal) := f w.journal
  set { w with journal }
  .demand result

end Watch

namespace Work

variable {σ : Type}

/-- Changes the watch. -/
def onWatch (f : Watch → Watch) : Work σ Unit := modify fun s => { s with around := f s.around }

def onMonitor (f : Monitor → Monitor) : Work σ Unit := aside (Watch.onMonitor f)

def onStatus (f : Status → Status) : Work σ Unit :=
  onWatch fun w => { w with status := f w.status }

def note {α : Type} (f : Journal → Journal.Written α) : Work σ α := aside (Watch.note f)

/-- Changes the journal without asking for the time. -/
def onJournal (f : Journal → Journal) : Work σ Unit :=
  onWatch fun w => { w with journal := f w.journal }

def watch : Work σ Watch := return (← get).around

/-- The number of resets that have run to their end. -/
def runs : Work σ Nat := return (← get).engine.runs

def now : Work σ Moment := do aside (.demand (← watch).journal.clock.read)

/-- The time of day, as messages show it. -/
def clockText : Work σ String := return (Civil.ofMoment (← now)).clockText

end Work

namespace Watchdog

variable {σ : Type} (w : Watchdog σ)

open Work

/-- Hands the status to its receiver. -/
def emit : Work σ Unit := do
  match w.receiver with
  | none => return ()
  | some receive =>
    let shown ← watch
    let delivery : Delivery := ⟨shown.status.text, shown.monitor.counter.count, ← runs⟩
    onWatch fun s => { s with deliveries := s.deliveries ++ [delivery] }
    match receive delivery with
    | none => return ()
    | some fault => throw fault

/-- Puts a message into the status. -/
def say (message : String) : Work σ Unit := do
  onStatus fun s => { s with lastMessage := some message }
  w.emit

end Watchdog

end ClipboardWatchdog
