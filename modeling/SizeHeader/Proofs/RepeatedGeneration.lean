import SizeHeader.CommandLine
import SizeHeader.Proofs.SizedRecords
import SizeHeader.Proofs.WrittenFile

/-!
# Repeated generation

Generation sizes, announces and writes, in this order. What fails before the announcement leaves no
trace, and whatever comes after it leaves the announcement alone. Opening a written file once more
leads back to where it was first opened, so a second run does to the files what the first one did.
-/

namespace SizeHeader

open FileService (openForWriting write)

namespace FileSystem

/-- Opening a file again takes back what has been written to it. -/
theorem openForWriting_write {fs opened : FileSystem} {path : String} {l : Location}
    (h : fs.openForWriting path = .ok (l, opened)) (bytes : List UInt8) :
    (opened.write l bytes).2.openForWriting path = .ok (l, opened) := by
  have hresolve : (opened.write l bytes).2.resolve .followed path = .ok l :=
    resolve_write bytes (resolve_open h)
  obtain ⟨-, hdir, ⟨rfl, d, hdevice⟩ | rfl⟩ := openForWriting_eq_ok h
  · have hsame : (opened.write l bytes).2 = opened :=
      write_of_not_file bytes (by simp [hdevice])
    rw [hsame]
    exact h
  · have hl : l ≠ [] := by
      rintro rfl
      exact hdir rfl
    have hnode : (fs.set l (.file [])).node? l = some (.file []) := node?_set_self fs _ hl
    have hwritten : ((fs.set l (.file [])).write l bytes).2 = fs.set l (.file bytes) := by
      rw [write_of_file bytes hnode, set_set, List.nil_append]
    rw [hwritten] at hresolve ⊢
    have hfile : ∀ n, (fs.set l (.file bytes)).node? l = some n → ∃ content, n = .file content := by
      intro n hn
      rw [node?_set_self fs _ hl] at hn
      exact ⟨bytes, (Option.some.inj hn).symm⟩
    rw [openForWriting_of_resolve hresolve hfile, set_set]

end FileSystem

/-- What is written goes by the state that opening leads to, and not by the one before it. -/
theorem FileService.writeContent_eq_of_open {σ : Type} [FileService σ] {files files' : σ}
    {path : String} {result : Handle σ × σ} (hnul : '\x00' ∉ path.toList)
    (h : openForWriting files path = .ok result) (h' : openForWriting files' path = .ok result)
    (content : Except OutputFault (List UInt8)) :
    writeContent files' path content = writeContent files path content := by
  simp only [writeContent, if_neg hnul, h, h']

/-- Writing again ends in the same way and leaves everything as it is. -/
theorem FileSystem.writeContent_again (fs : FileSystem) (path : String)
    (content : Except OutputFault (List UInt8)) :
    FileService.writeContent (FileService.writeContent fs path content).2 path content =
      FileService.writeContent fs path content := by
  have hwrites := FileService.writes_writeContent fs path content
  by_cases hnul : '\x00' ∈ path.toList
  · rw [(hwrites.of_closed (.inl hnul)).2]
  cases hopen : FileService.openForWriting fs path with
  | error e => rw [(hwrites.of_closed (.inr ⟨e, hopen⟩)).2]
  | ok result =>
    obtain ⟨l, opened⟩ := result
    rw [hwrites.left_eq hnul hopen]
    have hreopen := FileSystem.openForWriting_write (of_service_open hopen) (payload content)
    exact FileService.writeContent_eq_of_open hnul hopen (service_open hreopen) content

namespace Run

variable {σ : Type} [FileService σ]

theorem generate_run_of_error {layout : DataLayout} {e : InternalError}
    (h : Record.entries layout Record.registered = .error e) (path : String) (w : World σ) :
    (generate layout path).run w = (.error (.internal e), w) := by
  have hannounce : (announce layout path).run w = (.error (.internal e), w) := by
    unfold announce
    rw [h]
    rfl
  exact bind_error _ hannounce

/-- Once the records are sized, the run is announced and ends as the writing of their entries does. -/
theorem generate_run {layout : DataLayout} {es : List SizeEntry}
    (h : Record.entries layout Record.registered = .ok es) (path : String) (w : World σ) :
    (generate layout path).run w =
      let written := FileService.writeContent w.files path
        (encodeDefinitions (SizeEntry.definitions? es defaultScope))
      ((written.1.mapError (·.raised path)).map fun _ => es,
        ⟨written.2, w.report.note "SD0100" ("Generating file: " ++ path)⟩) := by
  unfold generate
  rw [bind_ok _ (announce_run h path w)]
  have hwrite := writeDefinitions_run path es
    ⟨w.files, w.report.note "SD0100" ("Generating file: " ++ path)⟩
  rcases hresult : FileService.writeContent w.files path
    (encodeDefinitions (SizeEntry.definitions? es defaultScope)) with ⟨outcome, left⟩
  rw [hresult] at hwrite
  cases outcome with
  | ok => exact bind_ok _ hwrite
  | error fault => exact bind_error _ hwrite

theorem generateFor_run_of_error {host : String} {target : Option DataLayout} {e : UnknownTarget}
    (h : DataLayout.ofTarget host target = .error e) (path : String) (w : World σ) :
    (generateFor host target path).run w = (.error (.unknownTarget e), w) := by
  unfold generateFor
  rw [h]
  rfl

theorem generateFor_eq {host : String} {target : Option DataLayout} {layout : DataLayout}
    (h : DataLayout.ofTarget host target = .ok layout) (path : String) :
    (generateFor host target path : Run σ (List SizeEntry)) = generate layout path := by
  unfold generateFor
  rw [h]

/-- What the command line runs for a path is generation for the host. -/
theorem program_cons (host path : String) (rest : List String) :
    (CommandLine.program host (path :: rest) : Run σ Unit) =
      generateFor host none path >>= fun _ => pure () := by
  unfold CommandLine.program CommandLine.prepare CommandLine.hostLayout generateFor generate
  simp only [CommandLine.outputPath, DataLayout.ofTarget]
  cases DataLayout.ofTriple host with
  | error e => rfl
  | ok layout =>
    simp only [Except.mapError, bind_assoc, pure_bind, bind_pure_unit]
    rfl

/-- A run that returns has written the file. -/
theorem written_of_map_ok {outcome : Except OutputFault Unit} {path : String}
    {es returned : List SizeEntry}
    (h : ((outcome.mapError (·.raised path)).map fun _ => es) = .ok returned) :
    outcome = .ok () ∧ returned = es := by
  cases outcome with
  | error fault => cases h
  | ok => exact ⟨rfl, (Except.ok.inj h).symm⟩

/-- A second run, with whatever report, ends as the first one did and changes no file. -/
theorem generate_again (layout : DataLayout) (path : String) (fs : FileSystem)
    (report again : Report) :
    let first := (generate layout path).run ⟨fs, report⟩
    let second := (generate layout path).run ⟨first.2.files, again⟩
    second.1 = first.1 ∧ second.2.files = first.2.files := by
  intro first second
  cases hentries : Record.entries layout Record.registered with
  | error e =>
    have hfirst : first = (.error (.internal e), ⟨fs, report⟩) :=
      generate_run_of_error hentries path ⟨fs, report⟩
    have hsecond : second = (.error (.internal e), ⟨first.2.files, again⟩) :=
      generate_run_of_error hentries path ⟨first.2.files, again⟩
    rw [hsecond, hfirst]
    exact ⟨rfl, rfl⟩
  | ok es =>
    have hfirst : first = _ := generate_run hentries path ⟨fs, report⟩
    have hsecond : second = _ := generate_run hentries path ⟨first.2.files, again⟩
    rw [hsecond, hfirst]
    dsimp only
    rw [FileSystem.writeContent_again]
    exact ⟨rfl, rfl⟩

/-- A run that returns entries has written their definitions. -/
theorem generate_written {layout : DataLayout} {path : String} {w : World σ} {es : List SizeEntry}
    (h : ((generate layout path).run w).1 = .ok es) :
    FileService.Writes w.files path (encodeDefinitions (SizeEntry.definitions? es defaultScope))
      (.ok (), ((generate layout path).run w).2.files) := by
  cases hentries : Record.entries layout Record.registered with
  | error e =>
    rw [generate_run_of_error hentries] at h
    cases h
  | ok sized =>
    rw [generate_run hentries] at h ⊢
    obtain ⟨hok, rfl⟩ := written_of_map_ok h
    have hwrites := FileService.writes_writeContent w.files path
      (encodeDefinitions (SizeEntry.definitions? es defaultScope))
    rwa [← Prod.eta (FileService.writeContent w.files path _), hok] at hwrites

end Run

/-- **Generation is ordered and repeatable.** Without a layout, or without a size for every registered
record, nothing is announced and no file is touched. Otherwise the run is announced, once, however the
writing ends, and what it returns are the sizes of the registered records, in order. Done again it ends
in the same way and leaves the files as they are, and if it succeeds the file holds what it returns. -/
theorem generateFor_outcome (host : String) (target : Option DataLayout) (path : String) :
    (∀ {σ : Type} [FileService σ] (w : World σ),
      let result := (Run.generateFor host target path).run w
      (∀ e, DataLayout.ofTarget host target = .error e → result = (.error (.unknownTarget e), w)) ∧
      ∀ layout, DataLayout.ofTarget host target = .ok layout →
        (∀ e, Record.entries layout Record.registered = .error e →
          result = (.error (.internal e), w)) ∧
        ∀ es, Record.entries layout Record.registered = .ok es →
          result.2.report.items =
            w.report.items ++ [⟨"note", "SD0100", "Generating file: " ++ path⟩] ∧
          ∀ returned, result.1 = .ok returned → returned = es ∧
            returned = Record.registered.map fun r =>
              ⟨r.name, Record.signed (r.dataType.exactAllocSize layout % 2 ^ 64)⟩) ∧
    ∀ (fs : FileSystem) (report again : Report),
      let first := (Run.generateFor host target path).run { files := fs, report }
      let second := (Run.generateFor host target path).run { files := first.2.files, report := again }
      second.1 = first.1 ∧ second.2.files = first.2.files ∧
      ∀ es, first.1 = .ok es →
        ∃ l text, SizeEntry.definitions? es defaultScope = some text ∧
          first.2.files.resolve .followed path = .ok l ∧
          ((∀ d, fs.node? l ≠ some (.device d)) →
            ∃ bytes, first.2.files.node? l = some (.file bytes) ∧
              bytes.map (·.toNat) = text.toList.map (·.toNat)) := by
  constructor
  · intro σ _ w result
    refine ⟨fun e he => Run.generateFor_run_of_error he path w, fun layout hlayout => ⟨?_, ?_⟩⟩
    · intro e he
      change (Run.generateFor host target path).run w = _
      rw [Run.generateFor_eq hlayout, Run.generate_run_of_error he]
    · intro es hes
      have hresult : result = _ :=
        (congrArg (·.run w) (Run.generateFor_eq hlayout path)).trans (Run.generate_run hes path w)
      rw [hresult]
      refine ⟨rfl, fun returned hreturned => ?_⟩
      obtain ⟨-, rfl⟩ := Run.written_of_map_ok hreturned
      refine ⟨rfl, ?_⟩
      simpa only [Record.signedSize_eq_signed] using (Record.entries_eq_ok_iff.mp hes).2
  · intro fs report again
    cases hlayout : DataLayout.ofTarget host target with
    | error e =>
      intro first second
      have hfirst : first = (.error (.unknownTarget e), ⟨fs, report⟩) :=
        Run.generateFor_run_of_error hlayout path ⟨fs, report⟩
      have hsecond : second = (.error (.unknownTarget e), ⟨first.2.files, again⟩) :=
        Run.generateFor_run_of_error hlayout path ⟨first.2.files, again⟩
      rw [hsecond, hfirst]
      exact ⟨rfl, rfl, fun es hes => by cases hes⟩
    | ok layout =>
      rw [Run.generateFor_eq hlayout]
      have hagain := Run.generate_again layout path fs report again
      exact ⟨hagain.1, hagain.2, fun es hes => (Run.generate_written hes).of_ok⟩

end SizeHeader
