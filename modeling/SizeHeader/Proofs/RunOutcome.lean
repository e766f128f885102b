import SizeHeader.CommandLine
import SizeHeader.Proofs.HostLayout
import SizeHeader.Proofs.OpenedFile
import SizeHeader.Proofs.ReportHistory
import SizeHeader.Proofs.RunSteps

/-!
# Outcomes of runs

A run is a chain of steps, each of which ends it or hands on to the next. Nothing fails before the file
is opened but the command line itself, so what comes of a run depends on the service alone: on whether
the file can be opened, and on whether it can be written.
-/

namespace SizeHeader

open FileService (openForWriting write)
open FileView (node file LeadsTo)

/-- A fatal error of the program becomes the last item of the report, and its message gives the exit
status. -/
theorem CommandLine.conclude_raised {m : Message} {args : Arguments} {text : String} (kind : FatalKind)
    (report : Report) (colour : Bool)
    (hargs : ∀ op : Operation, ∀ name ∈ op.reserved, name ∉ args.map (·.1))
    (hformat : Catalog.builtin.format m.code args = .ok text) :
    conclude report colour (.error (FatalError.raised kind m args)) =
      .ok (m.exitCode, (report.record m.severity.name m.code text).printed colour) := by
  have hfatal := Operation.check_eq_ok_iff.mpr (hargs .fatal)
  have hemit := Operation.check_eq_ok_iff.mpr (hargs .emit)
  have hrecord := report.emit_of_format hemit hformat
  rw [FatalError.raised_of_format kind hfatal hformat]
  simp only [conclude, Report.emitFatal, hrecord]
  rfl

theorem FileService.writeContent_ok {σ : Type} [FileService σ] {files : σ} {path : String}
    (hnul : '\x00' ∉ path.toList) (bytes : List UInt8) :
    FileService.writeContent files path (.ok bytes) =
      match openForWriting files path with
      | .error e => (.error (.opening e.reason), files)
      | .ok (handle, opened) =>
        match write opened handle bytes with
        | (.error e, left) => (.error (.writing e.reason), left)
        | (.ok (), left) => (.ok (), left) := by
  refine (if_neg hnul).trans ?_
  cases openForWriting files path <;> rfl

/-- What is told of an error of the system: its name, or the whole of it where the name is missing or
empty. -/
def OsError.IsReason (e : OsError) (reason : String) : Prop :=
  (e.strerror = some reason ∧ reason ≠ "") ∨
    ((e.strerror = none ∨ e.strerror = some "") ∧ reason = e.description)

theorem OsError.isReason_iff {e : OsError} {told : String} : e.IsReason told ↔ told = e.reason := by
  rw [IsReason, reason]
  cases e.strerror with
  | none => simp
  | some name =>
    by_cases hname : name = ""
    · simp [hname, eq_comm]
    · simp only [Option.some.injEq, hname, reduceCtorEq, or_self, false_and, or_false, if_false]
      constructor
      · rintro ⟨rfl, -⟩
        rfl
      · rintro rfl
        exact ⟨rfl, hname⟩

namespace Run

/-- The report of a run that has only announced its file. -/
def announced (path : String) : Report := ({} : Report).note "SD0100" ("Generating file: " ++ path)

end Run

namespace CommandLine

def header : String := "#define QTCW_sizeof_QPoint 8\n#define QTCW_sizeof_QRect 16\n"

def headerBytes : List UInt8 := header.toList.map Text.Latin1.byte

theorem encodeDefinitions_registered :
    encodeDefinitions (SizeEntry.definitions? [⟨"QPoint", 8⟩, ⟨"QRect", 16⟩] defaultScope) =
      .ok headerBytes := by
  decide

theorem hostLayout_eq_ok {host : String} (hhost : (Target.ofTriple? host).isSome) :
    ∃ layout, hostLayout host = .ok layout ∧ layout.Ordinary := by
  obtain ⟨target, htarget⟩ := Option.isSome_iff_exists.mp hhost
  refine ⟨.ofString target.layoutString, ?_, target.ordinary_layoutString⟩
  simp only [hostLayout, DataLayout.ofTriple, Machine.ofTriple, htarget]
  rfl

variable {σ : Type}

theorem prepare_run {host : String} (hhost : (Target.ofTriple? host).isSome) (path : String)
    (rest : List String) (files : σ) :
    (prepare host (path :: rest)).run { files } =
      (.ok (path, [⟨"QPoint", 8⟩, ⟨"QRect", 16⟩]), { files, report := Run.announced path }) := by
  obtain ⟨layout, hlayout, hordinary⟩ := hostLayout_eq_ok hhost
  have hannounce := Run.announce_run (Record.entries_registered hordinary) path { files }
  have hpath : (liftM (outputPath (path :: rest)) : Run σ String).run { files } =
      (.ok path, { files }) := rfl
  have hhostLayout : (liftM (hostLayout host) : Run σ DataLayout).run { files } =
      (.ok layout, { files }) := by
    rw [hlayout]
    rfl
  unfold prepare
  rw [Run.bind_ok _ hpath, Run.bind_ok _ hhostLayout, Run.bind_ok _ hannounce]
  rfl

variable [FileService σ]

theorem runOn_path {host : String} (hhost : (Target.ofTriple? host).isSome) (path : String)
    (rest : List String) (stderr : OutputStream) (env : Environment) (files : σ) :
    runOn host (path :: rest) stderr env files =
      let (outcome, left) := FileService.writeContent files path (.ok headerBytes)
      (conclude (Run.announced path) (stderr.usesColour env none) (outcome.mapError (·.raised path)),
        left) := by
  have hprogram : (program host (path :: rest)).run { files } =
      let (outcome, left) := FileService.writeContent files path (.ok headerBytes)
      (outcome.mapError (·.raised path), { files := left, report := Run.announced path }) := by
    unfold program
    rw [Run.bind_ok _ (prepare_run hhost path rest files)]
    rw [Run.writeDefinitions_run, encodeDefinitions_registered]
  unfold runOn
  rw [hprogram]

/-- A diagnostic of the program as it is printed. -/
def told (colour : Bool) (d : Diagnostic) : String := d.line colour "size_definer" ++ "\n"

theorem printed_eq_told {r : Report} (hprogram : r.program = "size_definer") (colour : Bool) :
    r.printed colour = .join (r.items.map (told colour)) := by
  rw [Report.printed_eq_shown, hprogram, Report.shown, List.filterMap_map]
  exact congrArg String.join (congrFun List.filterMap_eq_map' r.items)

theorem printed_error (code text : String) (colour : Bool) :
    (({} : Report).error code text).printed colour = told colour ⟨"error", code, text⟩ := by
  have hitems : (({} : Report).error code text).items = [⟨"error", code, text⟩] := rfl
  rw [printed_eq_told rfl, hitems]
  simp

theorem printed_announced (path : String) (colour : Bool) :
    (Run.announced path).printed colour =
      told colour ⟨"note", "SD0100", "Generating file: " ++ path⟩ := by
  have hitems : (Run.announced path).items = [⟨"note", "SD0100", "Generating file: " ++ path⟩] := rfl
  rw [printed_eq_told rfl, hitems]
  simp

theorem printed_announced_error (path code text : String) (colour : Bool) :
    ((Run.announced path).error code text).printed colour =
      told colour ⟨"note", "SD0100", "Generating file: " ++ path⟩ ++
        told colour ⟨"error", code, text⟩ := by
  have hitems : ((Run.announced path).error code text).items =
      [⟨"note", "SD0100", "Generating file: " ++ path⟩, ⟨"error", code, text⟩] := rfl
  rw [printed_eq_told rfl, hitems]
  simp

/-- A fault of the output file becomes fatal, and is told behind the announcement. -/
theorem conclude_outputFile {m : Message} {path reason text : String} (colour : Bool)
    (hformat : Catalog.builtin.format m.code [("path", .text path), ("reason", .text reason)] =
      .ok text) :
    conclude (Run.announced path) colour (.error (FatalError.raised .outputFile m
      [("path", .text path), ("reason", .text reason)])) =
      .ok (m.exitCode, ((Run.announced path).record m.severity.name m.code text).printed colour) := by
  have hargs : ∀ op : Operation, ∀ name ∈ op.reserved,
      name ∉ ([("path", .text path), ("reason", .text reason)] : Arguments).map (·.1) := by
    intro op
    cases op <;> simp [Operation.reserved]
  exact conclude_raised .outputFile (Run.announced path) colour hargs hformat

theorem conclude_opening (path reason : String) (colour : Bool) :
    conclude (Run.announced path) colour (.error ((OutputFault.opening reason).raised path)) =
      .ok (2, told colour ⟨"note", "SD0100", "Generating file: " ++ path⟩ ++
        told colour ⟨"error", "SD0002", "can't open file '" ++ path ++ "': " ++ reason⟩) := by
  have hconclude := conclude_outputFile (m := .cannotOpen) colour (Catalog.format_cannotOpen path reason)
  rw [← printed_announced_error]
  exact hconclude

theorem conclude_writing (path reason : String) (colour : Bool) :
    conclude (Run.announced path) colour (.error ((OutputFault.writing reason).raised path)) =
      .ok (2, told colour ⟨"note", "SD0100", "Generating file: " ++ path⟩ ++
        told colour ⟨"error", "SD0003", "can't write file '" ++ path ++ "': " ++ reason⟩) := by
  have hconclude := conclude_outputFile (m := .cannotWrite) colour (Catalog.format_cannotWrite path reason)
  rw [← printed_announced_error]
  exact hconclude

theorem runOn_nil (host : String) (stderr : OutputStream) (env : Environment) (files : σ) :
    runOn host [] stderr env files =
      (.ok (1, told (stderr.usesColour env none) ⟨"error", "SD0001", "no filename supplied"⟩),
        files) := by
  have hargs : ∀ op : Operation, ∀ name ∈ op.reserved, name ∉ ([] : Arguments).map (·.1) := by
    simp
  have hconclude := conclude_raised (m := .missingFilename) .argument {} (stderr.usesColour env none)
    hargs Catalog.format_missingFilename
  have hpath : (liftM (outputPath []) : Run σ String).run { files } =
      (.error (FatalError.raised .argument .missingFilename []), { files }) := rfl
  have hprogram : (program host []).run { files } =
      (.error (FatalError.raised .argument .missingFilename []), { files }) := by
    unfold program prepare
    exact Run.bind_error _ (Run.bind_error _ hpath)
  unfold runOn
  rw [hprogram, ← printed_error]
  exact congrArg (·, files) hconclude

/-- **What comes of a run.** Without a path the run is refused. With one, whatever stands behind it, a
NUL in the path breaks the run off before anything is done or printed. A file that cannot be opened or
written is announced, then told of. A file that can be is announced, and if opening has emptied it then
it holds the definitions alone. No other file is touched. -/
theorem runOn_outcome [FileView σ] {host : String} (hhost : (Target.ofTriple? host).isSome)
    (stderr : OutputStream) (env : Environment) (files : σ) :
    let colour := stderr.usesColour env none
    runOn host [] stderr env files =
      (.ok (1, told colour ⟨"error", "SD0001", "no filename supplied"⟩), files) ∧
    ∀ (path : String) (rest : List String),
      let generating := told colour ⟨"note", "SD0100", "Generating file: " ++ path⟩
      if '\x00' ∈ path.toList then
        runOn host (path :: rest) stderr env files = (.error .nulInPath, files)
      else
        match openForWriting files path with
        | .error e =>
          ∃ reason, e.IsReason reason ∧
            runOn host (path :: rest) stderr env files =
              (.ok (2, generating ++ told colour
                ⟨"error", "SD0002", "can't open file '" ++ path ++ "': " ++ reason⟩), files)
        | .ok (handle, opened) =>
          (∀ other, other ≠ handle →
            node (write opened handle headerBytes).2 other = node files other) ∧
          match write opened handle headerBytes with
          | (.error e, left) =>
            ∃ reason, e.IsReason reason ∧
              runOn host (path :: rest) stderr env files =
                (.ok (2, generating ++ told colour
                  ⟨"error", "SD0003", "can't write file '" ++ path ++ "': " ++ reason⟩), left)
          | (.ok (), left) =>
            runOn host (path :: rest) stderr env files = (.ok (0, generating), left) ∧
              LeadsTo left path handle ∧
              (node opened handle = file [] → node left handle = file headerBytes) := by
  intro colour
  refine ⟨runOn_nil host stderr env files, ?_⟩
  intro path rest generating
  have hrun := runOn_path hhost path rest stderr env files
  split_ifs with hnul
  · rw [hrun, FileService.writeContent, if_pos hnul]
    rfl
  rw [FileService.writeContent_ok hnul] at hrun
  cases hopen : openForWriting files path with
  | error e =>
    simp only [hopen] at hrun
    refine ⟨e.reason, OsError.isReason_iff.mpr rfl, ?_⟩
    rw [hrun]
    exact congrArg (·, files) (conclude_opening path e.reason _)
  | ok result =>
    obtain ⟨handle, opened⟩ := result
    have hleads : LeadsTo (write opened handle headerBytes).2 path handle :=
      FileView.leadsTo_write headerBytes (FileView.leadsTo_open hopen)
    have hother : ∀ other, other ≠ handle →
        node (write opened handle headerBytes).2 other = node files other := by
      intro other hne
      rw [FileView.node_write_of_ne opened headerBytes hne, FileView.node_open_of_ne hopen hne]
    refine ⟨hother, ?_⟩
    cases hwrite : write opened handle headerBytes with
    | mk outcome left =>
      simp only [hopen, hwrite] at hrun
      rw [hwrite] at hleads
      cases outcome with
      | error e =>
        refine ⟨e.reason, OsError.isReason_iff.mpr rfl, ?_⟩
        rw [hrun]
        exact congrArg (·, left) (conclude_writing path e.reason _)
      | ok =>
        refine ⟨?_, hleads, fun hempty => FileView.node_write hempty hwrite⟩
        rw [hrun]
        exact congrArg (fun text => (Except.ok (0, text), left)) (printed_announced path _)

/-- A file that is created, one in a directory that is not there, and one that has no space. -/
theorem runOn_in_small_system :
    let files : FileSystem :=
      ⟨[(["tmp"], .directory), (["dev"], .directory), (["dev", "full"], .device .full)], ["tmp"]⟩
    runOn "x86_64-unknown-linux-gnu" ["sizes.h", "ignored"] ⟨some false⟩ {} files =
      (.ok (0, "size_definer: note [SD0100]: Generating file: sizes.h.\n"),
        files.set ["tmp", "sizes.h"] (.file headerBytes)) ∧
    runOn "x86_64-unknown-linux-gnu" ["missing/sizes.h"] ⟨some false⟩ {} files =
      (.ok (2, "size_definer: note [SD0100]: Generating file: missing/sizes.h.\n" ++
        "size_definer: error [SD0002]: can't open file 'missing/sizes.h': No such file or directory.\n"),
        files) ∧
    runOn "x86_64-unknown-linux-gnu" ["/dev/full"] ⟨some false⟩ {} files =
      (.ok (2, "size_definer: note [SD0100]: Generating file: /dev/full.\n" ++
        "size_definer: error [SD0003]: can't write file '/dev/full': No space left on device.\n"),
        files) := by
  intro files
  have hhost : (Target.ofTriple? "x86_64-unknown-linux-gnu").isSome := by decide
  have houtcome := (runOn_outcome hhost ⟨some false⟩ {} files).2
  refine ⟨?_, ?_, ?_⟩
  · have hfree : ∀ n, files.node? ["tmp", "sizes.h"] = some n → ∃ content, n = .file content := by
      intro n hn
      cases hn
    have hopen : openForWriting files "sizes.h" =
        .ok (["tmp", "sizes.h"], files.set ["tmp", "sizes.h"] (.file [])) :=
      FileSystem.service_open
        (FileSystem.openForWriting_name ⟨by decide, by decide⟩ (by decide) (by decide) hfree)
    have hwrite : write (files.set ["tmp", "sizes.h"] (.file [])) ["tmp", "sizes.h"] headerBytes =
        (.ok (), files.set ["tmp", "sizes.h"] (.file headerBytes)) := rfl
    have hrun := houtcome "sizes.h" ["ignored"]
    simp only [if_neg (by decide : ¬ '\x00' ∈ "sizes.h".toList), hopen, hwrite] at hrun
    exact hrun.2.1
  · have hresolve : files.resolve .followed "missing/sizes.h" = .error .missing := by
      have hpath : Path.ofString "missing/sizes.h" = ⟨false, ["missing", "sizes.h"], false⟩ := by decide
      rw [FileSystem.resolve, if_neg (by decide), if_neg (by decide), hpath]
      exact FileSystem.walk_of_free ⟨by decide, by decide⟩ (by simp) rfl
    have hopen := FileSystem.service_open_of_fault hresolve
    have hrun := houtcome "missing/sizes.h" []
    simp only [if_neg (by decide : ¬ '\x00' ∈ "missing/sizes.h".toList), hopen] at hrun
    obtain ⟨reason, hreason, hrun⟩ := hrun
    rw [hrun, OsError.isReason_iff.mp hreason]
    exact congrArg (fun text => (Except.ok (2, text), files)) (by decide +kernel)
  · have hresolve : files.resolve .followed "/dev/full" = .ok ["dev", "full"] := by
      have hpath : Path.ofString "/dev/full" = ⟨true, ["dev", "full"], false⟩ := by decide
      rw [FileSystem.resolve_eq_ok_iff, hpath]
      refine ⟨⟨by decide, by decide⟩, .directory ⟨by decide, by decide⟩ rfl (by simp) ?_⟩
      exact .last ⟨by decide, by decide⟩ (by simp) fun target htarget => by cases htarget
    have hopen : openForWriting files "/dev/full" = .ok (["dev", "full"], files) :=
      FileSystem.service_open (FileSystem.openForWriting_of_device hresolve rfl)
    have hwrite : write files ["dev", "full"] headerBytes =
        (.error (FileSystem.WriteFault.osError .noSpace), files) := rfl
    have hrun := houtcome "/dev/full" []
    simp only [if_neg (by decide : ¬ '\x00' ∈ "/dev/full".toList), hopen, hwrite] at hrun
    obtain ⟨-, reason, hreason, hrun⟩ := hrun
    rw [hrun, OsError.isReason_iff.mp hreason]
    exact congrArg (fun text => (Except.ok (2, text), files)) (by decide +kernel)

end CommandLine

end SizeHeader
