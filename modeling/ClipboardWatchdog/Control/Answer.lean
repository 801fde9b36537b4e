import ClipboardWatchdog.Control

/-!
# Answers

What a user interface receives: the snapshots, healths, reports and counters of the watchdog as
JSON objects, and around the value of a command the word whether it was carried out.
-/

namespace ClipboardWatchdog

namespace Json

/-- A value that may be missing. -/
def ofOption {α : Type} (present : α → Json) : Option α → Json
  | some a => present a
  | none => .null

def ofList {α : Type} (present : α → Json) (items : List α) : Json := .array (items.map present)

end Json

open Json

/-- A span in whole seconds and the nanoseconds left. -/
def Span.toJson (s : Span) : Json :=
  ofMembers [("secs", ofNat s.seconds), ("nanos", ofNat s.nanos)]

/-- A moment in its internet form, in universal time. -/
def Moment.toJson (m : Moment) : Json := ofText ((Civil.ofMoment m).internetText "Z")

def Format.toJson (f : Format) : Json := ofMembers [("id", ofNat f.id), ("name", ofText f.name)]

/-- A snapshot with its text and the fingerprint of the text. -/
def Snapshot.toJson (s : Snapshot) : Json :=
  ofMembers [("sequence_number", ofNat s.sequence), ("text_content", ofOption ofText s.text),
    ("content_hash", ofOption ofText s.print), ("formats", ofList Format.toJson s.formats),
    ("observed_at", s.observedAt.toJson)]

def Health.toJson (h : Health) : Json :=
  ofMembers [("running", .bool h.running), ("responding", .bool h.responding),
    ("pid", ofNat h.pid), ("start_time", ofOption Moment.toJson h.startTime),
    ("working_set_mb", ofNat h.workingSetMb), ("private_mem_mb", ofNat h.privateMb),
    ("handle_count", ofNat h.handles), ("thread_count", ofNat h.threads),
    ("uptime", h.upTime.toJson)]

def Reason.name : Reason → String
  | scheduled => "Scheduled"
  | unhealthy => "Unhealthy"
  | clipboardInaccessible => "ClipboardInaccessible"
  | manual => "Manual"

def Report.toJson (r : Report) : Json :=
  ofMembers [("reason", ofText r.reason.name), ("instances_found", ofNat r.found),
    ("terminated", ofNat r.terminated), ("termination_failures", ofList ofText r.failures),
    ("relaunched_pid", ofOption ofNat r.relaunched),
    ("launch_error", ofOption ofText r.launchError), ("health_after", r.healthAfter.toJson),
    ("recovered", .bool r.recovered), ("duration", r.elapsed.toJson)]

def Status.toJson (s : Status) : Json :=
  ofMembers [("copies", ofNat s.copies), ("resets", ofNat s.resets),
    ("diagnostics", .bool s.diagnostics), ("last_message", ofOption ofText s.lastMessage)]

/-- The status beside its line of text. -/
def Status.view (s : Status) : Json := ofMembers [("status", s.toJson), ("text", ofText s.text)]

namespace Command

/-- The answer to a command: that it was carried out and its value, or that it was not and why. -/
def answer {α : Type} (present : α → Json) : Except CommandError α → Json
  | .ok a => ofMembers [("success", .bool true), ("data", present a), ("error", .null)]
  | .error e =>
    ofMembers [("success", .bool false), ("data", .null), ("error", ofText e.message)]

end Command

end ClipboardWatchdog
