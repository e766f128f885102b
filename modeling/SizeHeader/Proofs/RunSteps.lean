import SizeHeader.Generation
import SizeHeader.Proofs.OwnTexts

/-!
# Steps of runs

A step that fails ends the run and keeps what was done before it, and one that succeeds hands its
result on. The steps of this program are the note that a file is being written, which always succeeds,
and the writing itself.
-/

namespace SizeHeader

theorem Report.emit_of_format {c : Catalog} {m : Message} {args : Arguments} {text : String}
    (r : Report) (hargs : Operation.emit.check args = .ok ()) (hformat : c.format m.code args = .ok text) :
    r.emit c m args = .ok (r.record m.severity.name m.code text) := by
  rw [emit_eq, hargs, hformat]
  rfl

theorem FatalError.raised_of_format {m : Message} {args : Arguments} {text : String} (kind : FatalKind)
    (hargs : Operation.fatal.check args = .ok ())
    (hformat : Catalog.builtin.format m.code args = .ok text) :
    FatalError.raised kind m args = .fatal ⟨kind, m, args, text⟩ := by
  rw [raised, make_eq, hargs, hformat]
  rfl

namespace Run

variable {σ α β : Type}

theorem bind_ok {x : Run σ α} {w w' : World σ} {a : α} (f : α → Run σ β)
    (h : x.run w = (.ok a, w')) : (x >>= f).run w = (f a).run w' := by
  change ExceptT.bindCont f (x.run w).1 (x.run w).2 = _
  rw [h]
  rfl

theorem bind_error {x : Run σ α} {w w' : World σ} {e : RunError} (f : α → Run σ β)
    (h : x.run w = (.error e, w')) : (x >>= f).run w = (.error e, w') := by
  change ExceptT.bindCont f (x.run w).1 (x.run w).2 = _
  rw [h]
  rfl

theorem get_run (w : World σ) : (get : Run σ (World σ)).run w = (.ok w, w) := rfl

theorem announce_run {layout : DataLayout} {entries : List SizeEntry}
    (hentries : Record.entries layout Record.registered = .ok entries) (path : String) (w : World σ) :
    (announce layout path).run w =
      (.ok entries, { w with report := w.report.note "SD0100" ("Generating file: " ++ path) }) := by
  have hargs : Operation.emit.check [("path", .text path)] = .ok () := by
    rw [Operation.check_eq_ok_iff]
    simp [Operation.reserved]
  have hrecord :=
    Report.emit_of_format (m := .generating) w.report hargs (Catalog.format_generating path)
  have hemit : (emit .generating [("path", .text path)]).run w =
      (.ok (), { w with report := w.report.note "SD0100" ("Generating file: " ++ path) }) := by
    unfold emit
    rw [bind_ok _ (get_run _), hrecord]
    rfl
  unfold announce
  rw [hentries]
  exact bind_ok _ hemit

theorem writeDefinitions_run [FileService σ] (path : String) (entries : List SizeEntry)
    (w : World σ) :
    (writeDefinitions path entries).run w =
      let (outcome, left) :=
        FileService.writeContent w.files path
          (encodeDefinitions (SizeEntry.definitions? entries defaultScope))
      (outcome.mapError (·.raised path), { w with files := left }) := by
  unfold writeDefinitions
  rw [bind_ok _ (get_run w)]
  obtain ⟨outcome, left⟩ :=
    FileService.writeContent w.files path
      (encodeDefinitions (SizeEntry.definitions? entries defaultScope))
  cases outcome <;> rfl

end Run

end SizeHeader
