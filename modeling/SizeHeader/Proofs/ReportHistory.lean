import SizeHeader.Report.Basic
import SizeHeader.Report.Terminal

/-!
# The history of a report

Messages are recorded and printed in any order, and some are refused. What the stream has received
does not show how the messages were batched: each recorded message is one line, in the order of
recording, in the colours of the first print behind it. What no print has followed is still there.
-/

namespace SizeHeader.Report

inductive Call where
  | emit (m : Message) (args : Arguments)
  | print (choice : Option Bool) (env : Environment)

/-- A report with all that was printed from it. -/
structure Session where
  report : Report
  written : String := ""
deriving DecidableEq

def Session.step (c : Catalog) (stream : OutputStream) (s : Session) :
    Call → Except MessageFault Unit × Session
  | .emit m args =>
    match s.report.emit c m args with
    | .ok report => (.ok (), { s with report })
    | .error fault => (.error fault, s)
  | .print choice env =>
    let (text, report) := s.report.print (stream.usesColour env choice)
    (.ok (), { report, written := s.written ++ text })

/-- The session after some calls. A call that fails does not keep the next ones from being made. -/
def Session.run (c : Catalog) (stream : OutputStream) (s : Session) (calls : List Call) : Session :=
  calls.foldl (fun s call => (s.step c stream call).2) s

namespace Call

/-- The diagnostic that a call records, unless it fails. -/
def diagnostic? (c : Catalog) : Call → Option Diagnostic
  | emit m args =>
    match Operation.emit.check args *> c.format m.code args with
    | .ok text => some ⟨if m.severity = .error then "error" else "note", m.code, text⟩
    | .error _ => none
  | print _ _ => none

def colour? (stream : OutputStream) : Call → Option Bool
  | emit _ _ => none
  | print choice env => some (stream.usesColour env choice)

end Call

/-- A recorded diagnostic with the colour mode of the first print after it, if there was one. -/
abbrev Entry := Diagnostic × Option Bool

/-- The diagnostics that calls record, in order. -/
def recorded (c : Catalog) (stream : OutputStream) : List Call → List Entry
  | [] => []
  | call :: rest =>
    match call.diagnostic? c with
    | some d => (d, rest.findSome? (·.colour? stream)) :: recorded c stream rest
    | none => recorded c stream rest

/-- The entries that a print followed, one to a line. -/
def shown (program : String) (entries : List Entry) : String :=
  .join (entries.filterMap fun entry =>
    entry.2.map fun colour => entry.1.line colour program ++ "\n")

/-- The entries that no print has followed. -/
def pending (entries : List Entry) : List Diagnostic :=
  entries.filterMap fun entry => if entry.2 = none then some entry.1 else none

theorem shown_append (program : String) (left right : List Entry) :
    shown program (left ++ right) = shown program left ++ shown program right := by
  rw [shown, List.filterMap_append, String.join_append]
  rfl

theorem pending_append (left right : List Entry) :
    pending (left ++ right) = pending left ++ pending right :=
  List.filterMap_append

@[simp]
theorem pending_map_some (items : List Diagnostic) (colour : Bool) :
    pending (items.map (·, some colour)) = [] := by
  simp [pending, List.filterMap_map]

@[simp]
theorem pending_map_none (items : List Diagnostic) :
    pending (items.map (·, none)) = items := by
  have hall : (fun e : Entry => if e.2 = none then some e.1 else none) ∘ (·, none) = some := rfl
  rw [pending, List.filterMap_map, hall, List.filterMap_some]

@[simp]
theorem shown_map_none (program : String) (items : List Diagnostic) :
    shown program (items.map (·, none)) = "" := by
  have hnone : (items.map fun d => ((d, none) : Entry)).filterMap (fun entry =>
      entry.2.map fun colour => entry.1.line colour program ++ "\n") = [] := by
    simp
  rw [shown, hnone, String.join_nil]

/-! ### One print -/

theorem line_ne_empty (colour : Bool) (program : String) (d : Diagnostic) :
    d.line colour program ≠ "" := by
  cases colour <;> simp [Diagnostic.line, Diagnostic.plainLine, Diagnostic.colouredLine]

theorem intercalate_append_newline {lines : List String} (hlines : lines ≠ []) :
    "\n".intercalate lines ++ "\n" = .join (lines.map (· ++ "\n")) := by
  induction lines with
  | nil => exact absurd rfl hlines
  | cons line rest ih =>
      by_cases hrest : rest = []
      · simp [hrest]
      · rw [String.intercalate_cons_of_ne_nil hrest, List.map_cons, String.join_cons, ← ih hrest]
        simp [String.append_assoc]

theorem printed_eq_shown (r : Report) (colour : Bool) :
    r.printed colour = shown r.program (r.items.map (·, some colour)) := by
  have hlines : shown r.program (r.items.map (·, some colour)) =
      .join ((r.items.map (·.line colour r.program)).map (· ++ "\n")) := by
    simp [shown, List.filterMap_map, Function.comp_def]
  rw [printed, format]
  cases hitems : r.items with
  | nil => simp [shown]
  | cons d rest =>
      have hne : (d :: rest).map (·.line colour r.program) ≠ [] := by simp
      have hformat : "\n".intercalate ((d :: rest).map (·.line colour r.program)) ≠ "" := by
        intro hempty
        have hend := intercalate_append_newline hne
        rw [hempty] at hend
        have hlength := congrArg String.length hend
        have hline : (d.line colour r.program).length ≠ 0 := by
          simpa using line_ne_empty colour r.program d
        simp only [List.map_cons, String.join_cons, String.length_append, String.length_empty]
          at hlength
        omega
      rw [if_neg hformat, intercalate_append_newline hne, ← hitems, hlines]

/-! ### One call -/

theorem step_emit (c : Catalog) (stream : OutputStream) (s : Session) (m : Message)
    (args : Arguments) :
    s.step c stream (.emit m args) =
      match Operation.emit.check args *> c.format m.code args with
      | .ok text =>
        (.ok (), { s with
          report.items := s.report.items ++
            [⟨if m.severity = .error then "error" else "note", m.code, text⟩] })
      | .error fault => (.error fault, s) := by
  rw [Session.step, emit_eq]
  cases Operation.emit.check args *> c.format m.code args with
  | error fault => rfl
  | ok text => cases m.severity <;> rfl

theorem step_print (c : Catalog) (stream : OutputStream) (s : Session) (choice : Option Bool)
    (env : Environment) :
    s.step c stream (.print choice env) =
      (.ok (), {
        report.program := s.report.program
        written := s.written ++
          shown s.report.program
            (s.report.items.map (·, some (stream.usesColour env choice))) }) := by
  simp only [Session.step, print, printed_eq_shown]
  rfl

/-! ### All calls -/

theorem run_cons (c : Catalog) (stream : OutputStream) (s : Session) (call : Call)
    (rest : List Call) :
    s.run c stream (call :: rest) = (s.step c stream call).2.run c stream rest := rfl

/-- The entries of calls are one list with those of the diagnostics that are there before them. Of
these entries a call that records adds none, as its own is already among them, and a print shows the
first ones, which are all that it finds. -/
theorem run_eq (c : Catalog) (stream : OutputStream) (calls : List Call) (s : Session) :
    let entries := s.report.items.map (·, calls.findSome? (·.colour? stream)) ++
      recorded c stream calls
    s.run c stream calls =
      { report := ⟨s.report.program, pending entries⟩
        written := s.written ++ shown s.report.program entries } := by
  induction calls generalizing s with
  | nil => simp [Session.run, recorded]
  | cons call rest ih =>
      rw [run_cons, ih]
      cases call with
      | emit m args =>
          have hcolour : (Call.emit m args :: rest).findSome? (·.colour? stream) =
              rest.findSome? (·.colour? stream) := rfl
          rw [hcolour, step_emit, recorded, Call.diagnostic?]
          cases Operation.emit.check args *> c.format m.code args with
          | error fault => rfl
          | ok text => simp
      | print choice env =>
          have hcolour : (Call.print choice env :: rest).findSome? (·.colour? stream) =
              some (stream.usesColour env choice) := rfl
          have hrecorded : recorded c stream (.print choice env :: rest) =
              recorded c stream rest := rfl
          rw [hcolour, hrecorded, step_print]
          simp [pending_append, shown_append, String.append_assoc]

/-- **Nothing is lost, told twice or moved.** From a report that has nothing yet, the stream receives
one line for each message that was recorded and then printed, in the order of recording and in the
colours of the first print after it, and the report has the others, in the same order. A message that
is refused changes nothing, one that is recorded becomes the last item of the report, and a print with
nothing to print writes nothing. -/
theorem run_history (c : Catalog) (stream : OutputStream) (program : String) :
    (∀ calls : List Call,
      Session.run c stream { report := { program } } calls =
        { report := { program, items := pending (recorded c stream calls) }
          written := shown program (recorded c stream calls) }) ∧
    (∀ (s : Session) (m : Message) (args : Arguments),
      s.step c stream (.emit m args) =
        match Operation.emit.check args *> c.format m.code args with
        | .ok text =>
          (.ok (), { s with
            report.items := s.report.items ++
              [⟨if m.severity = .error then "error" else "note", m.code, text⟩] })
        | .error fault => (.error fault, s)) ∧
    ∀ (written : String) (choice : Option Bool) (env : Environment),
      Session.step c stream { report := { program }, written } (.print choice env) =
        (.ok (), { report := { program }, written }) := by
  refine ⟨fun calls => ?_, step_emit c stream, fun written choice env => ?_⟩
  · simpa using run_eq c stream calls { report := { program } }
  · rw [step_print]
    simp [shown]

end SizeHeader.Report
