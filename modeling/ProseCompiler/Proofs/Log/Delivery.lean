import ProseCompiler.Proofs.Files.Appending
import ProseCompiler.Proofs.Log.Lines

/-!
# Which reports are delivered

A logbook is set up again and again, and in between records are written to it.

* `Ready` is what a call leaves: the level it asks for, the console, and its log file alone.
  `setUp_ok` says so of a call, and `Ready.write` of whatever is written afterwards, so it holds
  behind every `History`.
* A report is `Delivered` if it is one line on the console and one at the end of the log file, and
  no other file changes.  `report_is_delivered_iff` tells when that is so, and what becomes of the
  reports of strange loggers: nothing, or from warnings on their bare message on the console.
-/

namespace ProseCompiler

/-! ## Lines that fit into a log file -/

namespace LogFile

variable {t : Tree} {place : Location} {path line : Text} {content : Bytes}

/-- Whether a line leaves a log file below its limit. -/
def hasRoom (t : Tree) (path line : Text) : Bool :=
  match t.status true path with
  | .ok (_, .file content) => decide (content.length + line.length + 1 < sizeLimit)
  | _ => true

/-- As long as there is room, a log file is not put aside. -/
theorem addLine_of_room (h : t.status true path = .ok (place, .file content))
    (hroom : hasRoom t path line = true) :
    addLine path line t = (t.appendText path (line ++ [Text.newline])).1 := by
  have hfull : isFull path (line ++ [Text.newline]).length t = false := by
    simp only [hasRoom, h, decide_eq_true_eq] at hroom
    simp only [isFull, h, decide_eq_false_iff_not, List.length_append, List.length_singleton]
    omega
  rw [addLine]
  simp only [hfull, Bool.false_eq_true, if_false]

end LogFile

namespace Logbook

variable {b : Logbook} {r : Record} {tree tree' : Tree}

/-! ## The loggers of the program -/

/-- The name of a logger that is asked for starts with that of the program's own logger only if
it is that logger or one below it. -/
def NamesOwn (name : Text) : Prop :=
  Text.startsWith name mainLogger = true →
    name = mainLogger ∨ Text.startsWith name (mainLogger ++ ".") = true

theorem isOwnLogger_loggerName_iff (name : Text) :
    isOwnLogger (loggerName name) = true ↔ NamesOwn name := by
  rw [loggerName]
  split
  · next hname =>
    subst hname
    exact iff_of_true (by decide) (fun h => absurd h (by decide))
  · split
    · next hstart => simp [isOwnLogger, NamesOwn, hstart]
    · next hstart =>
      have hbelow : Text.startsWith (mainLogger ++ "." ++ name) (mainLogger ++ ".") = true :=
        List.isPrefixOf_iff_prefix.mpr (List.prefix_append _ _)
      exact iff_of_true (by rw [isOwnLogger, hbelow, Bool.or_true]) fun h => absurd h hstart

/-- A record is taken if its level is high enough, and its logger is the program's own. -/
def Takes (b : Logbook) (r : Record) : Prop :=
  b.admits r.logger r.level = true ∧ isOwnLogger r.logger = true

theorem threshold_le_number (sink : Sink) (level : Level) : sink.threshold ≤ level.number := by
  cases sink <;> cases level <;> simp [Sink.threshold, Level.number]

/-- Once a record is taken, every sink gets it. -/
theorem sinksFor_of_takes (hsinks : b.sinks ≠ []) (h : b.Takes r) : b.sinksFor r = b.sinks := by
  have hall : (b.sinks.filter fun sink => sink.threshold ≤ r.level.number) = b.sinks :=
    List.filter_eq_self.mpr fun sink _ => decide_eq_true (threshold_le_number sink r.level)
  rw [sinksFor, if_pos h.1, sinksOf, if_pos h.2]
  split
  · next hnone => exact absurd hnone hsinks
  · exact hall

/-- A record that is not taken is put on the console as a last resort, if it is at least a
warning, and is lost otherwise. -/
theorem sinksFor_of_not_takes (h : ¬b.Takes r) :
    b.sinksFor r = if b.admits r.logger r.level = true ∧ defaultThreshold ≤ r.level.number then
      [.console bareForm] else [] := by
  by_cases hadmits : b.admits r.logger r.level = true
  · have hstray : isOwnLogger r.logger = false := by
      by_contra hown
      exact h ⟨hadmits, by simpa using hown⟩
    simp [sinksFor, sinksOf, hadmits, hstray]
  · simp [sinksFor, hadmits]

/-- At or above the level of a logbook, records of the program's own loggers are taken.  A
logbook without a level of its own has that of warnings. -/
theorem takes_iff (hlevel : b.threshold ≤ r.level.number) :
    b.Takes r ↔ isOwnLogger r.logger = true ∧
      (b.threshold ≠ 0 ∨ Level.warning.number ≤ r.level.number) := by
  rw [Takes, and_comm]
  refine and_congr_right fun hown => ?_
  rw [admits, hown]
  by_cases hzero : b.threshold = 0 <;> simp [hzero, hlevel, defaultThreshold]

theorem writeFiles_of_not_takes (h : ¬b.Takes r) (moment : Moment) (document : Text)
    (tree : Tree) : b.writeFiles moment document r tree = tree := by
  rw [writeFiles, sinksFor_of_not_takes h]
  split <;> rfl

/-- A strange logger needs a warning at least. -/
theorem admits_of_stray (hstray : isOwnLogger r.logger = false) :
    b.admits r.logger r.level = true ↔ defaultThreshold ≤ r.level.number := by
  simp [admits, hstray]

/-- A report that is not taken shows on the console with its bare message, or not at all. -/
theorem consoleLines_of_not_takes {report : Report} (h : ¬b.Takes report.record) :
    b.consoleLines report.moment report.document report.record =
      if b.admits report.logger report.level = true ∧ defaultThreshold ≤ report.level.number then
        [report.message] else [] := by
  rw [consoleLines, sinksFor_of_not_takes h]
  change List.filterMap _ (if b.admits report.logger report.level = true ∧
    defaultThreshold ≤ report.level.number then _ else _) = _
  split
  · simp [report.line_bare, Except.toOption]
  · rfl

/-! ## Calls that set a logbook up -/

/-- A call that sets a logbook up, for which document and when. -/
structure Call where
  moment : Moment
  document : Text
  level : Text
  file : Option Text
  structured : Bool

namespace Call

/-- The path of the log file that a call names. -/
def path? (call : Call) (directory : Location) : Option Text :=
  match call.file with
  | none | some [] => none
  | some path => some (Location.text (Location.ofText directory (Path.ofText path).text))

/-- The tree in which the log file of a call is open. -/
def opened (call : Call) (tree : Tree) : Tree :=
  match call.file with
  | none | some [] => tree
  | some path => (openFile tree path).1

/-- The sinks that a call sets up. -/
def sinks (call : Call) : Option Text → List Sink
  | none => [.console (.of call.structured consolePattern)]
  | some path =>
    [.console (.of call.structured consolePattern), .file path (.of call.structured filePattern)]

theorem sinks_ne_nil (call : Call) (path : Option Text) : call.sinks path ≠ [] := by
  cases path <;> exact List.cons_ne_nil _ _

/-- The step of a call. -/
def setUp (call : Call) (b : Logbook) (tree : Tree) : Step :=
  b.setUp call.moment call.document call.level call.file call.structured tree

end Call

variable {call : Call} {report : Report} {moment : Moment} {document : Text}

/-- A logbook as a call leaves it: it has the level of the call, the console, and the log file if
the call names one, which is there. -/
structure Ready (call : Call) (b : Logbook) (tree : Tree) : Prop where
  threshold : thresholdOf call.level = .ok b.threshold
  sinks : b.sinks = call.sinks (call.path? tree.workingDirectory)
  isFile : ∀ path, call.path? tree.workingDirectory = some path →
    ∃ place content, tree.status true path = .ok (place, .file content)

/-- A log file that was opened is there. -/
theorem openFile_ok {path text : Text} (h : openFile tree path = (tree', .ok text)) :
    text = Location.text (Location.ofText tree.workingDirectory (Path.ofText path).text) ∧
      tree'.workingDirectory = tree.workingDirectory ∧
      ∃ place content, tree'.status true text = .ok (place, .file content) := by
  have hprovide := Tree.provideDirectory_adds tree (Path.ofText path).parent.anchor
    (Path.ofText path).parent.parts.reverse
  rw [openFile, Tree.provide] at h
  split at h
  · cases h
  · next made hmade =>
    rw [hmade] at hprovide
    have hworking : made.workingDirectory = tree.workingDirectory := hprovide.workingDirectory_eq
    dsimp only at h
    split at h
    · cases h
    · next appended happend =>
      cases h
      obtain ⟨place, content, hwritable⟩ := Tree.writable_of_appendText happend
      obtain ⟨more, hmore⟩ := Tree.appendText_cases hwritable []
      have hput : tree' = made.put place (.file (content ++ more)) := by rw [← hmore, happend]
      refine ⟨by rw [hworking], ?_, place, content ++ more, ?_⟩
      · rw [hput, Tree.workingDirectory_put, hworking]
      · rw [hput]
        exact Tree.status_put_of_writable hwritable _

/-- What a call that names no log file does. -/
theorem setUp_without_file {threshold : Int}
    (hlevel : thresholdOf call.level = .ok threshold)
    (hfile : call.file = none ∨ call.file = some []) :
    call.setUp b tree = ({ threshold, sinks := call.sinks none, isQuiet := true } : Logbook).write
      call.moment call.document (openingRecord call.level call.structured) tree := by
  rcases hfile with hfile | hfile <;>
  · rw [Call.setUp, setUp, hlevel, hfile]
    rfl

/-- What a call does that opens a log file. -/
theorem setUp_with_file {threshold : Int} {c : CodePoint} {rest text : Text}
    (hlevel : thresholdOf call.level = .ok threshold) (hfile : call.file = some (c :: rest))
    (hopen : openFile tree (c :: rest) = (tree', .ok text)) :
    call.setUp b tree =
      ({ threshold, sinks := call.sinks (some text), isQuiet := true } : Logbook).write
        call.moment call.document (openingRecord call.level call.structured) tree' := by
  rw [Call.setUp, setUp, hlevel, hfile]
  simp only [hopen]
  rfl

/-- A call that succeeds leaves a logbook as it asks for, to which it then writes a record. -/
theorem setUp_ok (h : (call.setUp b tree).fault = none) :
    Ready call (call.setUp b tree).logbook (call.opened tree) ∧
      (call.setUp b tree).tree = (call.setUp b tree).logbook.writeFiles call.moment call.document
        (openingRecord call.level call.structured) (call.opened tree) := by
  cases hlevel : thresholdOf call.level with
  | error fault => simp [Call.setUp, setUp, hlevel] at h
  | ok threshold =>
    rcases hfile : call.file with _ | _ | ⟨c, rest⟩
    · rw [setUp_without_file hlevel (.inl hfile), Call.opened, hfile]
      refine ⟨⟨hlevel, ?_, ?_⟩, rfl⟩ <;> simp [Call.path?, hfile, write]
    · rw [setUp_without_file hlevel (.inr hfile), Call.opened, hfile]
      refine ⟨⟨hlevel, ?_, ?_⟩, rfl⟩ <;> simp [Call.path?, hfile, write]
    · rcases hopen : openFile tree (c :: rest) with ⟨tree', fault | text⟩
      · simp [Call.setUp, setUp, hlevel, hfile, hopen] at h
      · obtain ⟨rfl, hworking, hfound⟩ := openFile_ok hopen
        rw [setUp_with_file hlevel hfile hopen, Call.opened, hfile]
        simp only [hopen]
        refine ⟨⟨hlevel, ?_, ?_⟩, rfl⟩ <;> simp [Call.path?, hfile, write, hworking, hfound]

/-! ## Writing to a logbook that is ready -/

/-- Whether there is room for a record in the log files that take it. -/
def hasRoom (b : Logbook) (moment : Moment) (document : Text) (r : Record) (tree : Tree) : Bool :=
  (b.sinksFor r).all fun
    | .console _ => true
    | .file path form =>
      match form.line moment document r with
      | .ok line => LogFile.hasRoom tree path line
      | .error _ => true

theorem writeFiles_of_no_file (hsinks : b.sinks = call.sinks none) :
    b.writeFiles moment document r tree = tree := by
  by_cases htakes : b.Takes r
  · rw [writeFiles, sinksFor_of_takes (hsinks ▸ call.sinks_ne_nil none) htakes, hsinks]
    rfl
  · exact writeFiles_of_not_takes htakes moment document tree

/-- A record that is taken adds its line to the log file, if there is room for it. -/
theorem writeFiles_of_takes {path line : Text} (htakes : b.Takes r)
    (hsinks : b.sinks = call.sinks (some path))
    (hline : (LineForm.of call.structured filePattern).line moment document r = .ok line)
    (hfile : ∃ place content, tree.status true path = .ok (place, .file content))
    (hroom : b.hasRoom moment document r tree = true) :
    b.writeFiles moment document r tree =
      (tree.appendText path (line ++ [Text.newline])).1 := by
  obtain ⟨place, content, hstatus⟩ := hfile
  have htaking := sinksFor_of_takes (hsinks ▸ call.sinks_ne_nil _) htakes
  have hfits : LogFile.hasRoom tree path line = true := by
    rw [hasRoom, htaking, hsinks] at hroom
    simpa [Call.sinks, hline] using hroom
  rw [← LogFile.addLine_of_room hstatus hfits, writeFiles, htaking, hsinks]
  simp [Call.sinks, hline]

/-- Whatever is written, the log file stays where it is, and nothing else changes. -/
theorem Ready.writeFiles_cases (h : Ready call b tree)
    (hroom : b.hasRoom moment document r tree = true) :
    b.writeFiles moment document r tree = tree ∨
      ∃ path place content more, call.path? tree.workingDirectory = some path ∧
        tree.writable path = .ok (place, content) ∧
        b.writeFiles moment document r tree = tree.put place (.file (content ++ more)) := by
  have hsinks := h.sinks
  by_cases htakes : b.Takes r
  · cases hpath : call.path? tree.workingDirectory with
    | none =>
      rw [hpath] at hsinks
      exact .inl (writeFiles_of_no_file hsinks)
    | some path =>
      rw [hpath] at hsinks
      obtain ⟨place, content, hstatus⟩ := h.isFile path hpath
      have hwritable := Tree.writable_of_status hstatus
      cases hline : (LineForm.of call.structured filePattern).line moment document r with
      | error fault =>
        left
        rw [writeFiles, sinksFor_of_takes (hsinks ▸ call.sinks_ne_nil _) htakes, hsinks]
        simp [Call.sinks, hline]
      | ok line =>
        obtain ⟨more, hmore⟩ := Tree.appendText_cases hwritable (line ++ [Text.newline])
        exact .inr ⟨path, place, content, more, rfl, hwritable, by
          rw [writeFiles_of_takes htakes hsinks hline ⟨place, content, hstatus⟩ hroom, hmore]⟩
  · exact .inl (writeFiles_of_not_takes htakes moment document tree)

/-- Writing leaves a logbook ready. -/
theorem Ready.write (h : Ready call b tree) (hroom : b.hasRoom moment document r tree = true) :
    Ready call b (b.writeFiles moment document r tree) := by
  rcases h.writeFiles_cases hroom with hsame | ⟨path, place, content, more, hpath, hwritable, hput⟩
  · rwa [hsame]
  · rw [hput]
    refine ⟨h.threshold, by rw [Tree.workingDirectory_put]; exact h.sinks, fun other hother => ?_⟩
    rw [Tree.workingDirectory_put, hpath] at hother
    cases hother
    exact ⟨place, _, Tree.status_put_of_writable hwritable _⟩

/-! ## Whole histories -/

/-- What can have become of a logbook and of a tree since nothing was set up: calls that succeeded,
and records that were written, while there was room for what was written. -/
inductive History (start : Tree) : List Call → Logbook → Tree → Prop
  | nothing : History start [] {} start
  | setUp {calls : List Call} {b : Logbook} {tree : Tree} (call : Call)
      (past : History start calls b tree) (succeeds : (call.setUp b tree).fault = none)
      (room : (call.setUp b tree).logbook.hasRoom call.moment call.document
        (openingRecord call.level call.structured) (call.opened tree) = true) :
      History start (calls ++ [call]) (call.setUp b tree).logbook (call.setUp b tree).tree
  | write {calls : List Call} {b : Logbook} {tree : Tree} (moment : Moment) (document : Text)
      (r : Record) (past : History start calls b tree)
      (room : b.hasRoom moment document r tree = true) :
      History start calls b (b.writeFiles moment document r tree)

/-- Whatever happened, a logbook is as the last call asked for. -/
theorem History.ready {start : Tree} {calls : List Call} (h : History start calls b tree)
    (hlast : calls.getLast? = some call) : Ready call b tree := by
  induction h with
  | nothing => cases hlast
  | setUp call' past succeeds room ih =>
    rw [List.getLast?_concat] at hlast
    cases hlast
    obtain ⟨hready, htree⟩ := setUp_ok succeeds
    rw [htree]
    exact hready.write room
  | write moment document r past room ih => exact (ih hlast).write room

/-! ## Delivery -/

/-- A report is delivered: it is the only line on the console, and if there is a log file, the
report is added to it as one line and nothing else changes; if there is none, nothing changes. -/
structure Delivered (call : Call) (report : Report) (b : Logbook) (tree : Tree) : Prop where
  console : b.consoleLines report.moment report.document report.record =
    [report.consoleLine call.structured]
  file : ∀ path, call.path? tree.workingDirectory = some path →
    ∃ place content octets, tree.status true path = .ok (place, .file content) ∧
      Utf8.encode (report.fileLine call.structured ++ [Text.newline]) = .ok octets ∧
      ∀ other, (b.writeFiles report.moment report.document report.record tree).node? other =
        if other = place then some (.file (content ++ octets)) else tree.node? other
  noFile : call.path? tree.workingDirectory = none →
    b.writeFiles report.moment report.document report.record tree = tree

/-- The line of a report can be encoded in a log file. -/
def Encodable (call : Call) (report : Report) : Prop :=
  ∀ c ∈ report.fileLine call.structured, c.isSurrogate = false

instance (call : Call) (report : Report) : Decidable (Encodable call report) :=
  inferInstanceAs (Decidable (∀ c ∈ report.fileLine call.structured, c.isSurrogate = false))

theorem encode_line_iff :
    (∃ octets, Utf8.encode (report.fileLine call.structured ++ [Text.newline]) = .ok octets) ↔
      Encodable call report := by
  simp only [Utf8.encode_eq_ok_iff, Encodable]
  constructor
  · rintro ⟨octets, hgood, -⟩ c hc
    exact hgood c (List.mem_append_left _ hc)
  · refine fun hgood => ⟨_, fun c hc => ?_, rfl⟩
    rcases List.mem_append.mp hc with hc | hc
    · exact hgood c hc
    · rw [List.mem_singleton.mp hc]
      rfl

theorem Ready.consoleLines_of_takes (h : Ready call b tree) (htakes : b.Takes report.record) :
    b.consoleLines report.moment report.document report.record =
      [report.consoleLine call.structured] := by
  rw [consoleLines, sinksFor_of_takes (h.sinks ▸ call.sinks_ne_nil _) htakes, h.sinks]
  cases call.path? tree.workingDirectory <;> simp [Call.sinks, report.line_console, Except.toOption]

/-- A report is delivered if it is taken and, where a log file has to take it, can be encoded. -/
theorem Ready.delivered_iff (h : Ready call b tree)
    (hroom : b.hasRoom report.moment report.document report.record tree = true) :
    Delivered call report b tree ↔ b.Takes report.record ∧
      ((call.path? tree.workingDirectory).isSome = true → Encodable call report) := by
  constructor
  · intro hdelivered
    refine ⟨?_, fun hfile => ?_⟩
    · by_contra htakes
      have hbare := consoleLines_of_not_takes htakes
      rw [hdelivered.console] at hbare
      split at hbare
      · exact report.consoleLine_ne_message call.structured (List.singleton_inj.mp hbare)
      · cases hbare
    · obtain ⟨path, hpath⟩ := Option.isSome_iff_exists.mp hfile
      obtain ⟨place, content, octets, -, hencode, -⟩ := hdelivered.file path hpath
      exact encode_line_iff.mp ⟨octets, hencode⟩
  · rintro ⟨htakes, hencodable⟩
    refine ⟨h.consoleLines_of_takes htakes, fun path hpath => ?_, fun hnone => ?_⟩
    · obtain ⟨place, content, hstatus⟩ := h.isFile path hpath
      obtain ⟨octets, hencode⟩ := encode_line_iff.mpr (hencodable (by rw [hpath]; rfl))
      have hwritable := Tree.writable_of_status hstatus
      have hsinks := h.sinks
      rw [hpath] at hsinks
      refine ⟨place, content, octets, hstatus, hencode, fun other => ?_⟩
      rw [writeFiles_of_takes htakes hsinks (report.line_file _) ⟨place, content, hstatus⟩ hroom,
        Tree.appendText_of_writable hwritable hencode,
        Tree.node?_put (Tree.isLeaf_of_writable hwritable).ne_nil]
    · have hsinks := h.sinks
      rw [hnone] at hsinks
      exact writeFiles_of_no_file hsinks

/-- A directory with nothing in it. -/
def bareTree : Tree := ⟨[(["w"], .directory)], ["w"]⟩

/-- A call for general information on the console alone. -/
def consoleCall : Call :=
  { moment := ⟨"2024-01-01 00:00:00,000", "2024-01-01T00:00:00+00:00"⟩, document := ""
    level := "INFO", file := none, structured := false }

/-- A call for everything, with a log file. -/
def fileCall : Call := { consoleCall with level := "debug", file := some "logs/all.log" }

/-- A report of a logger that is asked for by a name. -/
def reportOf (name : Text) : Report :=
  { moment := ⟨"2024-01-01 00:00:01,000", "2024-01-01T00:00:01+00:00"⟩, document := ""
    logger := loggerName name, level := .info, origin := {}, message := "100% done" }

end Logbook

end ProseCompiler
