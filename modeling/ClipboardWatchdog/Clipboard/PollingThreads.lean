/-!
# The threads of the monitor

Starting the monitor spawns a thread unless the running flag is set already. A thread tests the
flag, ticks if it is set and ends if it is not, then sleeps until its interval is over or it is
woken, and tests the flag again. Stopping clears the flag and wakes the thread, and does not wait
for it to end. `Threads.step` is one atomic step of all this.
-/

namespace ClipboardWatchdog

/-- What a polling thread does next. -/
inductive ThreadPhase
  | testing
  | ticking
  | asleep
  deriving DecidableEq, Repr, Inhabited

/-- A polling thread: its number, in the order of spawning, and what it does next. -/
structure PollingThread where
  number : Nat
  phase : ThreadPhase
  deriving DecidableEq, Repr, Inhabited

/-- The running flag, the number of threads spawned so far, and those that have not ended. -/
structure Threads where
  running : Bool := false
  spawned : Nat := 0
  alive : List PollingThread := []
  deriving DecidableEq, Repr, Inhabited

/-- The atomic steps: the owner's two, and the three of the thread with a number. -/
inductive ThreadStep
  | start
  | stop
  | test (number : Nat)
  | tick (number : Nat)
  | wake (number : Nat)
  deriving DecidableEq, Repr, Inhabited

namespace Threads

/-- The phase of a thread that has not ended. -/
def phase? (t : Threads) (number : Nat) : Option ThreadPhase :=
  (t.alive.find? (·.number = number)).map (·.phase)

def moved (t : Threads) (number : Nat) (phase : ThreadPhase) : Threads :=
  { t with alive := t.alive.map fun p => if p.number = number then { p with phase } else p }

def ended (t : Threads) (number : Nat) : Threads :=
  { t with alive := t.alive.filter (·.number ≠ number) }

/-- One atomic step, if it is possible now. -/
def step (t : Threads) : ThreadStep → Option Threads
  | .start =>
    if t.running then some t
    else
      some {
        running := true
        spawned := t.spawned + 1
        alive := t.alive ++ [⟨t.spawned, .testing⟩] }
  | .stop => some { t with running := false }
  | .test n =>
    if t.phase? n = some .testing then
      some (if t.running then t.moved n .ticking else t.ended n)
    else none
  | .tick n => if t.phase? n = some .ticking then some (t.moved n .asleep) else none
  | .wake n => if t.phase? n = some .asleep then some (t.moved n .testing) else none

/-- A row of steps, each possible in its turn. -/
def run (t : Threads) : List ThreadStep → Option Threads
  | [] => some t
  | s :: ss => (t.step s).bind (·.run ss)

end Threads

end ClipboardWatchdog
