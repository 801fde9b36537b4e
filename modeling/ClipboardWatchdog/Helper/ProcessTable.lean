import ClipboardWatchdog.Helper.Host
import ClipboardWatchdog.Storage.Disk

/-!
# A process table in memory

A host whose processes are a list. It is set up with the troubles that a real host may give: pids
that are found but gone, processes that cannot be ended, launches that fail or come to nothing,
calls that break down, and a request for a reset in the middle of a call.
-/

namespace ClipboardWatchdog

/-- The four kinds of call. -/
inductive CallKind
  | find
  | sample
  | terminate
  | launch
  deriving DecidableEq, Repr, Inhabited

def Call.kind : Call → CallKind
  | .find _ => .find
  | .sample _ => .sample
  | .terminate _ => .terminate
  | .launch _ => .launch

/-- What a launch comes to. There may be no program to launch, or it fails for a reason. A process
that dies at once is found and cannot be sampled; one that is hidden can be sampled and is not
found. -/
inductive Launch
  | absent
  | fails (reason : String)
  | starts (process : Sample) (dies hidden : Bool)
  deriving DecidableEq, Repr, Inhabited

/-- How the search for a program fails where there is none. A name with a slash is a path and is
followed as such; any other is looked for in some directories, where it would stand as one entry. A
directory is no program. -/
def Launch.searchError (name : String) : DiskError :=
  if name.toList.contains '/' then
    match Disk.empty.stat (.ofString name) with
    | .error e => e
    | .ok _ => .accessDenied
  else if name = "." ∨ name = ".." then .accessDenied
  else if Disk.maxName < name.utf8ByteSize then .nameTooLong
  else .notFound

/-- Why a program that does not exist is not launched. -/
def Launch.absence (name : String) : String :=
  if name.toList.contains (Char.ofNat 0) then "nul byte found in provided data"
  else (searchError name).message

/-- A process table: the processes that can be sampled, the pids that a lookup finds, and the
troubles it is set up with. The empty one has no process and no program to launch. -/
structure ProcessTable where
  live : List Sample := []
  found : List Pid := []
  stubborn : List Pid := []
  launch : Launch := .absent
  breaksOn : Option (CallKind × Fault) := none
  asksOn : Option CallKind := none
  deriving Inhabited

namespace ProcessTable

def process? (t : ProcessTable) (pid : Pid) : Option Sample := t.live.find? (·.pid = pid)

/-- The table with one process more; it takes the place of one with the same pid. -/
def start (t : ProcessTable) (s : Sample) : ProcessTable :=
  { t with live := s :: t.live.filter (·.pid ≠ s.pid) }

/-- The table with a pid more to be found. A launch puts all that is found into ascending order,
and a pid that is there twice stays so. -/
def find (t : ProcessTable) (pid : Pid) : ProcessTable :=
  { t with found := (t.found ++ [pid]).mergeSort }

/-- Answers one call by the table. -/
def answer (t : ProcessTable) : (c : Call) → c.Answer × ProcessTable
  | .find _ => (t.found, t)
  | .sample pid => (t.process? pid, t)
  | .terminate pid =>
    if t.stubborn.contains pid then (.error (.terminateFailed pid), t)
    else
      let rest := { t with
        found := t.found.filter (· ≠ pid)
        live := t.live.filter (·.pid ≠ pid) }
      (if (t.process? pid).isSome then .ok () else .error (.notFound pid), rest)
  | .launch name =>
    match t.launch with
    | .absent => (.error (.launchFailed name (Launch.absence name)), t)
    | .fails reason => (.error (.launchFailed name reason), t)
    | .starts process dies hidden =>
      let t := if dies then t else t.start process
      let t := if hidden then t else t.find process.pid
      (.ok process.pid, t)

/-- Goes on with a call once there is nothing more to ask for. -/
def finish (t : ProcessTable) (c : Call) : Reply ProcessTable c.Answer :=
  match t.breaksOn with
  | some (kind, fault) =>
    if kind = c.kind then .breaks fault t
    else
      let (a, t) := t.answer c
      .answers a t
  | none =>
    let (a, t) := t.answer c
    .answers a t

/-- The host of a process table. The request that it is set up with is made once. -/
def host : Host ProcessTable := fun c t =>
  if t.asksOn = some c.kind then
    .asks { t with asksOn := none } fun _ t => t.finish c
  else t.finish c

end ProcessTable

end ClipboardWatchdog
