import ClipboardWatchdog.Proofs.Session.Opening
import ClipboardWatchdog.Proofs.Text.OneLine

/-!
# The life of a session

After its start a session meets `Call`s: it is asked to write a record or the title of a section, or
to be closed, and at the end of its life it is closed by all means. `Session.content?_of_life` says
what its file then holds: the header, the lines of what was asked before the first close, and one
trailer. For a record and for closing the clock is read, and where it cannot be read the call is
broken off with nothing done.
-/

namespace ClipboardWatchdog

open Text Disk

/-- The whole seconds from a moment to another, none where the clock went back. -/
def Moment.secondsUntil (start stop : Moment) : ℕ :=
  ((stop.seconds * 1000000000 + stop.nanos - (start.seconds * 1000000000 + start.nanos)) /
    1000000000).toNat

lemma Moment.seconds_elapsed {start stop : Moment} (hstart : start.isLeap = false)
    (hstop : stop.isLeap = false) : (start.elapsed stop).seconds = start.secondsUntil stop := by
  unfold elapsed Span.ofNanos nanosBetween secondsUntil
  simp only [hstart, hstop, Bool.false_eq_true, and_false, if_false]
  omega

namespace Session

variable {s : Session} {d d' : Disk} {place : Place} {text : String}

/-! ### A session and its file -/

/-- The session with more records. -/
def counted (s : Session) (n : ℕ) : Session := { s with records := s.records + n }

lemma counted_counted (s : Session) (m n : ℕ) : (s.counted m).counted n = s.counted (m + n) := by
  simp [counted, Nat.add_assoc]

lemma counted_zero (s : Session) : s.counted 0 = s := rfl

lemma block_append (front back : List String) :
    block (front ++ back) = block front ++ block back := by
  induction front with
  | nil => exact (String.empty_append).symm
  | cons line front ih =>
    rw [List.cons_append, block, block, ih]
    simp only [String.append_assoc]

/-- The session is open, and this text stands in its file, which takes more. -/
structure Holds (s : Session) (d : Disk) (place : Place) (text : String) : Prop where
  isOpen : s.isOpen = true
  leads : d.Leads s.path place
  file : d.lookup place = some (.file (.text text))
  full : d.full = false

namespace Holds

lemma counted (h : s.Holds d place text) (n : ℕ) : (s.counted n).Holds d place text :=
  ⟨h.isOpen, h.leads, h.file, h.full⟩

lemma append (h : s.Holds d place text) (more : String) :
    s.Holds (d.append s.path more).2 place (text ++ more) where
  isOpen := h.isOpen
  leads := h.leads.mono (keepsDirectories_append d s.path more)
  file := lookup_append_of_leads h.leads h.file h.full more
  full := (full_append d s.path more).trans h.full

lemma recordAt_eq (h : s.Holds d place text) (now : Moment) (category : Option Category)
    (message : String) :
    s.recordAt d now category message =
      (s.counted 1, (d.append s.path (block [line now category message])).2) := by
  unfold recordAt
  rw [if_pos h.isOpen, append_of_leads h.leads h.file h.full]
  rfl

lemma addSection_eq (h : s.Holds d place text) (title : String) :
    s.addSection d title = (s, (d.append s.path (block (sectionTitle title))).2) :=
  if_pos h.isOpen

lemma closeAt_eq (h : s.Holds d place text) (now : Moment) :
    s.closeAt d now =
      ({ s with isOpen := false }, (d.append s.path (block (s.trailer now))).2) :=
  if_pos h.isOpen

lemma content? (h : s.Holds d place text) : d.content? s.path = some (.text text) :=
  h.leads.content?_eq_some_iff.mpr h.file

end Holds

/-! ### One call -/

/-- What is asked of a session: to write a record or the title of a section, or to be closed. -/
inductive Call
  | record (clock : Clock) (category : Option Category) (message : String)
  | title (heading : String)
  | close (clock : Clock)

namespace Call

/-- The lines that the call adds to the file of an open session. -/
def lines : Call → List String
  | .record clock category message =>
    match clock.read with
    | .ok now => [line now category message]
    | .error _ => []
  | .title heading => sectionTitle heading
  | .close _ => []

/-- The call writes a record: it asks for one, and the clock can be read. -/
def isRecord : Call → Bool
  | .record clock _ _ => clock.read.isOk
  | _ => false

lemma lines_record (clock : Clock) (category : Option Category) (message : String) :
    (Call.record clock category message).lines =
      match clock.read with
      | .ok now => [line now category message]
      | .error _ => [] := rfl

lemma isRecord_record (clock : Clock) (category : Option Category) (message : String) :
    (Call.record clock category message).isRecord = clock.read.isOk := rfl

/-- The moment at which the call closes the session. -/
def closedAt? : Call → Option Moment
  | .close clock => clock.read.toOption
  | _ => none

lemma closedAt?_eq_some_iff {c : Call} {now : Moment} :
    c.closedAt? = some now ↔ ∃ clock, c = .close clock ∧ clock.read = .ok now := by
  cases c with
  | record clock category message => simp [closedAt?]
  | title heading => simp [closedAt?]
  | close clock => cases hread : clock.read <;> simp [closedAt?, hread, Except.toOption]

/-- What is handed over to be written. -/
def message : Call → String
  | .record _ _ message => message
  | .title heading => heading
  | .close _ => ""

end Call

/-- A session and the disk after a call. One that is broken off leaves both as they were. -/
def perform (x : Session × Disk) : Call → Session × Disk
  | .record clock category message =>
    match x.1.record x.2 clock category message with
    | .ok y => y
    | .error _ => x
  | .title heading => x.1.addSection x.2 heading
  | .close clock =>
    match x.1.close x.2 clock with
    | .ok y => y
    | .error _ => x

variable {x : Session × Disk} {c : Call}

lemma perform_record (x : Session × Disk) (clock : Clock) (category : Option Category)
    (message : String) :
    perform x (.record clock category message) =
      match clock.read with
      | .ok now => x.1.recordAt x.2 now category message
      | .error _ => x := by
  simp only [perform, record]
  cases clock.read <;> rfl

lemma perform_title (x : Session × Disk) (title : String) :
    perform x (.title title) = x.1.addSection x.2 title := rfl

lemma perform_close (x : Session × Disk) (clock : Clock) :
    perform x (.close clock) =
      match clock.read with
      | .ok now => x.1.closeAt x.2 now
      | .error _ => x := by
  simp only [perform, close]
  cases clock.read <;> rfl

/-- A session that is closed stays as it is, and so does its file. -/
lemma perform_of_closed (h : x.1.isOpen = false) (c : Call) : perform x c = x := by
  have hopen : ¬x.1.isOpen = true := by simp [h]
  cases c with
  | record clock category message =>
    rw [perform_record]
    cases clock.read with
    | error fault => rfl
    | ok now => exact if_neg hopen
  | title heading => exact if_neg hopen
  | close clock =>
    rw [perform_close]
    cases clock.read with
    | error fault => rfl
    | ok now => exact if_neg hopen

/-- A call that does not close the session adds its lines. -/
lemma Holds.perform (h : x.1.Holds x.2 place text) (hc : c.closedAt? = none) :
    (Session.perform x c).1 = x.1.counted (if c.isRecord then 1 else 0) ∧
      (Session.perform x c).1.Holds (Session.perform x c).2 place (text ++ block c.lines) := by
  have hempty : text ++ block [] = text := String.append_empty
  cases c with
  | record clock category message =>
    rw [perform_record, Call.isRecord_record, Call.lines_record]
    cases clock.read with
    | error fault =>
      dsimp only
      rw [hempty]
      exact ⟨rfl, h⟩
    | ok now =>
      dsimp only
      rw [h.recordAt_eq]
      exact ⟨rfl, (h.append (block [line now category message])).counted 1⟩
  | title heading =>
    rw [perform_title, h.addSection_eq]
    exact ⟨rfl, h.append (block (sectionTitle heading))⟩
  | close clock =>
    rw [perform_close]
    cases hread : clock.read with
    | error fault =>
      dsimp only
      rw [Call.lines, hempty]
      exact ⟨rfl, h⟩
    | ok now => cases hc.symm.trans (Call.closedAt?_eq_some_iff.mpr ⟨clock, rfl, hread⟩)

/-- A call that closes the session adds the trailer. -/
lemma Holds.perform_closing (h : x.1.Holds x.2 place text) {now : Moment}
    (hc : c.closedAt? = some now) :
    Session.perform x c =
      ({ x.1 with isOpen := false }, (x.2.append x.1.path (block (x.1.trailer now))).2) := by
  obtain ⟨clock, rfl, hread⟩ := Call.closedAt?_eq_some_iff.mp hc
  rw [perform_close, hread]
  exact h.closeAt_eq now

/-! ### A row of calls -/

/-- A session and the disk after a row of calls. -/
def run (x : Session × Disk) (calls : List Call) : Session × Disk := calls.foldl perform x

lemma run_append (x : Session × Disk) (front back : List Call) :
    run x (front ++ back) = run (run x front) back := List.foldl_append

lemma run_of_closed (h : x.1.isOpen = false) (calls : List Call) : run x calls = x := by
  induction calls with
  | nil => rfl
  | cons c calls ih =>
    change run (perform x c) calls = x
    rw [perform_of_closed h, ih]

/-- The calls before the one that closes the session. -/
def early (calls : List Call) : List Call := calls.takeWhile fun c => c.closedAt?.isNone

/-- The moment at which the session is closed. -/
def closedAt? (calls : List Call) : Option Moment := calls.findSome? Call.closedAt?

/-- The lines at the end of a file, if there is an end. -/
def ending? (s : Session) : Option Moment → List String
  | some now => s.trailer now
  | none => []

variable {calls : List Call}

lemma early_cons_of_none (hc : c.closedAt? = none) (calls : List Call) :
    early (c :: calls) = c :: early calls := by
  simp [early, hc]

lemma early_cons_of_some {now : Moment} (hc : c.closedAt? = some now) (calls : List Call) :
    early (c :: calls) = [] := by
  simp [early, hc]

lemma closedAt?_cons_of_none (hc : c.closedAt? = none) (calls : List Call) :
    closedAt? (c :: calls) = closedAt? calls := by
  simp [closedAt?, hc]

lemma closedAt?_cons_of_some {now : Moment} (hc : c.closedAt? = some now) (calls : List Call) :
    closedAt? (c :: calls) = some now := by
  simp [closedAt?, hc]

/-- What comes of a session in a row of calls: it counts the records of the early calls, and is open
if there was no end. -/
lemma Holds.run (h : x.1.Holds x.2 place text) (calls : List Call) :
    (Session.run x calls).1 = { x.1.counted ((early calls).countP Call.isRecord) with
      isOpen := (closedAt? calls).isNone } ∧
    (Session.run x calls).2.content? x.1.path = some (.text (text ++
      block ((early calls).flatMap Call.lines ++
        (x.1.counted ((early calls).countP Call.isRecord)).ending? (closedAt? calls)))) := by
  induction calls generalizing x text with
  | nil =>
    have hempty : text ++ block [] = text := String.append_empty
    refine ⟨?_, ?_⟩
    · change x.1 = { x.1 with isOpen := true }
      rw [← h.isOpen]
    · change x.2.content? x.1.path = some (.text (text ++ block []))
      rw [hempty]
      exact h.content?
  | cons c calls ih =>
    have hrun : Session.run x (c :: calls) = Session.run (Session.perform x c) calls := rfl
    cases hc : c.closedAt? with
    | none =>
      obtain ⟨hsession, hheld⟩ := h.perform hc
      obtain ⟨hs, hfile⟩ := ih hheld
      rw [hrun, early_cons_of_none hc, closedAt?_cons_of_none hc]
      rw [hsession, counted_counted, Nat.add_comm] at hs hfile
      rw [List.countP_cons, List.flatMap_cons, List.append_assoc, block_append,
        ← String.append_assoc]
      exact ⟨hs, hfile⟩
    | some now =>
      rw [hrun, h.perform_closing hc, run_of_closed rfl, early_cons_of_some hc,
        closedAt?_cons_of_some hc]
      exact ⟨rfl, (h.append (block (x.1.trailer now))).content?⟩

/-! ### The whole file -/

/-- What stands in front of a message does not break the line. -/
lemma oneLine_line_iff {now : Moment} {category : Option Category} {message : String} :
    OneLine (line now category message) ↔ OneLine message := by
  have htime : OneLine (String.ofList (Civil.ofMoment now).lineText) :=
    oneLine_ofList_iff.mpr fun _ => isInLine_of_mem_lineText
  have hmarks : OneLine "[" ∧ OneLine "] " ∧ OneLine "" := by decide +kernel
  obtain ⟨hfront, hback, hempty⟩ := hmarks
  cases category with
  | none => simp [line, htime, hfront, hback]
  | some category =>
    have hlabel : OneLine category.label := by cases category <;> decide +kernel
    simp [line, htime, hlabel, hfront, hback]

lemma Call.oneLine_of_mem_lines {l : String} (h : OneLine c.message) (hl : l ∈ c.lines) :
    OneLine l := by
  cases c with
  | record clock category message =>
    rw [lines_record] at hl
    cases hread : clock.read with
    | error fault => simp [hread] at hl
    | ok now =>
      rw [hread, List.mem_singleton] at hl
      rw [hl]
      exact oneLine_line_iff.mpr h
  | title heading =>
    have hseparator : OneLine separator := by decide +kernel
    change l ∈ [separator, heading, separator] at hl
    simp only [List.mem_cons, List.not_mem_nil, or_false] at hl
    rcases hl with rfl | rfl | rfl
    · exact hseparator
    · exact h
    · exact hseparator
  | close clock => cases hl

/-- The lines at the end of the file of a session, from its start, the number of its records and its
end. There are none without an end. -/
def closing (started : Moment) (count : ℕ) : Option Moment → List String
  | none => []
  | some now =>
    [separator, "SESSION END", separator,
      "End time:        " ++ (Civil.ofMoment now).fullText,
      "Duration:        " ++ Span.upTime ⟨started.secondsUntil now, 0⟩,
      "Records:         " ++ decimal count,
      separator]

lemma ending?_counted {stop : Option Moment} (hrecords : s.records = 0)
    (hstarted : s.startedAt.isLeap = false) (hstop : ∀ now ∈ stop, now.isLeap = false) (n : ℕ) :
    (s.counted n).ending? stop = closing s.startedAt n stop := by
  cases stop with
  | none => rfl
  | some now =>
    have hduration : (s.startedAt.elapsed now).upTime =
        Span.upTime ⟨s.startedAt.secondsUntil now, 0⟩ := by
      rw [← Moment.seconds_elapsed hstarted (hstop now rfl)]
      rfl
    unfold ending? trailer closing counted
    dsimp only
    rw [hduration, hrecords, Nat.zero_add]

/-- A moment that was read off a clock lies outside leap seconds. -/
lemma isLeap_of_closedAt? {now : Moment} (h : closedAt? calls = some now) : now.isLeap = false := by
  obtain ⟨c, -, hc⟩ := List.exists_of_findSome?_eq_some h
  obtain ⟨clock, -, hread⟩ := Call.closedAt?_eq_some_iff.mp hc
  exact (Clock.read_eq_ok_iff.mp hread).1

/-- The last call of all closes the session, if it was not closed before and the clock can be
read. -/
lemma closedAt?_concat_close (calls : List Call) (last : Clock) :
    closedAt? (calls ++ [.close last]) = (closedAt? calls).or last.read.toOption := by
  unfold closedAt?
  rw [List.findSome?_append, List.findSome?_singleton]
  rfl

lemma early_concat_close (calls : List Call) (last : Clock) :
    (early (calls ++ [.close last])).flatMap Call.lines = (early calls).flatMap Call.lines ∧
      (early (calls ++ [.close last])).countP Call.isRecord =
        (early calls).countP Call.isRecord := by
  induction calls with
  | nil =>
    cases hc : (Call.close last).closedAt? with
    | none =>
      rw [List.nil_append, early_cons_of_none hc]
      exact ⟨rfl, rfl⟩
    | some now =>
      rw [List.nil_append, early_cons_of_some hc]
      exact ⟨rfl, rfl⟩
  | cons c calls ih =>
    obtain ⟨hlines, hcount⟩ := ih
    cases hc : c.closedAt? with
    | none =>
      rw [List.cons_append, early_cons_of_none hc, early_cons_of_none hc, List.flatMap_cons,
        List.flatMap_cons, List.countP_cons, List.countP_cons, hlines, hcount]
      exact ⟨rfl, rfl⟩
    | some now =>
      rw [List.cons_append, early_cons_of_some hc, early_cons_of_some hc]
      exact ⟨rfl, rfl⟩

/-- The file of a session over its whole life. -/
theorem content?_of_life {clock : Clock} {origin : Origin} {dir : Path} {base : String}
    {role : Role} {helper : String} (hfull : d.full = false)
    (h : create d clock origin dir base role helper = (.ok s, d')) (calls : List Call)
    (last : Clock) :
    let count := (early calls).countP Call.isRecord
    let ended := run (s, d') (calls ++ [.close last])
    ∃ started, clock.read = .ok started ∧
      ended.2.content? s.path = some (.text (block (header origin role started helper ++
        (early calls).flatMap Call.lines ++
          closing started count ((closedAt? calls).or last.read.toOption)))) ∧
      (run (s, d') calls).1.records = count ∧ ended.1.records = count ∧
      (∀ more, (closedAt? calls).isSome = true → run (s, d') (calls ++ more) = run (s, d') calls) ∧
      ((∀ c ∈ calls, OneLine c.message) →
        ∀ l ∈ (early calls).flatMap Call.lines, OneLine l) := by
  intro count ended
  obtain ⟨started, place, hread, hnew⟩ := isNew_of_create_eq_ok hfull h
  have hheld : s.Holds d' place (block (header origin role started helper)) := by
    refine ⟨?_, hnew.leads, hnew.header, hnew.full.trans hfull⟩
    rw [hnew.session]
  have hstarted : s.startedAt = started := by rw [hnew.session]
  have hrecords : s.records = 0 := by rw [hnew.session]
  have hleap : s.startedAt.isLeap = false := by
    rw [hstarted]
    exact (Clock.read_eq_ok_iff.mp hread).1
  obtain ⟨hsession, -⟩ := Holds.run (x := (s, d')) hheld calls
  obtain ⟨hlines, hcount⟩ := early_concat_close calls last
  obtain ⟨hended, hfile⟩ := Holds.run (x := (s, d')) hheld (calls ++ [.close last])
  rw [hcount] at hended hfile
  rw [hlines, ending?_counted hrecords hleap (fun now hnow => isLeap_of_closedAt? hnow),
    closedAt?_concat_close, hstarted, ← block_append, ← List.append_assoc] at hfile
  refine ⟨started, hread, hfile, ?_, ?_, ?_, ?_⟩
  · rw [hsession]
    change s.records + count = count
    rw [hrecords, Nat.zero_add]
  · change (run (s, d') (calls ++ [.close last])).1.records = count
    rw [hended]
    change s.records + count = count
    rw [hrecords, Nat.zero_add]
  · intro more hclosed
    rw [run_append]
    refine run_of_closed ?_ more
    rw [hsession]
    simpa using hclosed
  · intro hmessages l hl
    obtain ⟨c, hc, hl⟩ := List.mem_flatMap.mp hl
    exact Call.oneLine_of_mem_lines (hmessages c ((List.takeWhile_prefix _).subset hc)) hl

lemma exists_of_isOk_create {clock : Clock} {origin : Origin} {dir : Path} {base : String}
    {role : Role} {helper : String}
    (h : (create d clock origin dir base role helper).1.isOk = true) :
    ∃ s d', create d clock origin dir base role helper = (.ok s, d') := by
  cases hcreate : create d clock origin dir base role helper with
  | mk result d' =>
    rw [hcreate] at h
    cases result with
    | error e => cases h
    | ok s => exact ⟨s, d', rfl⟩

/-- The clock goes back before the session is closed, and a record is asked for after that; another
one cannot be stamped. -/
theorem content?_of_life_setBack :
    let origin : Origin := ⟨"1", "m", "o", "r"⟩
    let clock : Clock := ⟨⟨1773047107, 42000000⟩⟩
    let calls : List Call := [.record ⟨⟨1773047109, 0⟩⟩ (some .info) "a", .title "t",
      .record ⟨⟨-1, 0⟩⟩ none "b", .close ⟨⟨1773047100, 0⟩⟩, .record ⟨⟨1773047110, 0⟩⟩ none "c"]
    let last : Clock := ⟨⟨1773047111, 0⟩⟩
    Disk.empty.full = false ∧
      ∃ s d', create .empty clock origin (Path.ofString "w") "d" .onController "h" = (.ok s, d') ∧
        ∃ started, clock.read = .ok started ∧
          (run (s, d') (calls ++ [.close last])).2.content? s.path =
            some (.text (block (header origin .onController started "h" ++
              (line ⟨1773047109, 0⟩ (some .info) "a" :: sectionTitle "t") ++
                closing started 1 (some ⟨1773047100, 0⟩)))) ∧
          (run (s, d') (calls ++ [.close last])).1.records = 1 := by
  intro origin clock calls last
  have hfull : Disk.empty.full = false := rfl
  obtain ⟨s, d', h⟩ := exists_of_isOk_create
    (by decide +kernel : (create .empty clock origin (Path.ofString "w") "d" .onController
      "h").1.isOk = true)
  have hlines : (early calls).flatMap Call.lines =
      line ⟨1773047109, 0⟩ (some .info) "a" :: sectionTitle "t" := rfl
  have hrecords : (early calls).countP Call.isRecord = 1 := by decide
  have hclosed : (closedAt? calls).or last.read.toOption = some ⟨1773047100, 0⟩ := by decide
  obtain ⟨started, hread, hfile, -, hcount, -⟩ := content?_of_life hfull h calls last
  rw [hlines, hrecords, hclosed] at hfile
  exact ⟨hfull, s, d', h, started, hread, hfile, hcount.trans hrecords⟩

/-- A record that is asked for before 1970 is neither written nor counted. -/
theorem record_without_trace :
    let call : Call := .record ⟨⟨-1, 0⟩⟩ (some .info) "a"
    let close : Call := .close ⟨⟨1773047107, 0⟩⟩
    ∃ s d', create .empty ⟨⟨1773047107, 0⟩⟩ ⟨"1", "m", "o", "r"⟩ (Path.ofString "w") "d"
        .onController "h" = (.ok s, d') ∧
      run (s, d') [call] = (s, d') ∧ run (s, d') [call, close] = run (s, d') [close] ∧
        (run (s, d') [call, close]).1.records = 0 :=
  ⟨_, _, rfl, rfl, rfl, rfl⟩

end Session

end ClipboardWatchdog
