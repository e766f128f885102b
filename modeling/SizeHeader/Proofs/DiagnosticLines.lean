import SizeHeader.Report.Basic
import SizeHeader.Proofs.TextReading

/-!
# Plain diagnostics can be read back

Whatever records diagnostics records them as errors or notes, and so a plain line can be read from the
front: the name of the program is known, the kind ends at the first blank behind it and the code at the
first bracket behind that. The message is all that is left, whatever separators it holds itself. Only
the period that ends it may have been added.
-/

namespace SizeHeader

/-- An error or a note. -/
def Diagnostic.Graded (d : Diagnostic) : Prop := ∃ s : Severity, d.kind = s.name

theorem Diagnostic.Graded.not_mem_kind {d : Diagnostic} (h : d.Graded) {c : Char}
    (hc : c ∉ "error note".toList) : c ∉ d.kind.toList := by
  obtain ⟨s, hs⟩ := h
  rw [hs]
  cases s with
  | error => exact fun hmem => hc (List.mem_append_left " note".toList hmem)
  | note => exact fun hmem => hc (List.mem_append_right "error ".toList hmem)

namespace Report

/-! ### Recording -/

/-- One call that records a diagnostic, or would. -/
inductive Recording where
  | error (code message : String)
  | note (code message : String)
  | emit (c : Catalog) (m : Message) (args : Arguments)

/-- The diagnostic that a call records. A message that has no text records none. -/
def Recording.diagnostic? : Recording → Option Diagnostic
  | error code message => some ⟨Severity.error.name, code, message⟩
  | note code message => some ⟨Severity.note.name, code, message⟩
  | emit c m args =>
    (Operation.emit.check args *> c.format m.code args).toOption.map (⟨m.severity.name, m.code, ·⟩)

def Recording.diagnostics (calls : List Recording) : List Diagnostic :=
  calls.filterMap diagnostic?

def after (r : Report) : Recording → Report
  | .error code message => r.error code message
  | .note code message => r.note code message
  | .emit c m args =>
    match r.emit c m args with
    | .ok grown => grown
    | .error _ => r

/-- The report after some calls. A call that fails does not keep the next ones from being made. -/
def afterAll (r : Report) (calls : List Recording) : Report := calls.foldl after r

theorem after_eq (r : Report) (call : Recording) :
    r.after call = { r with items := r.items ++ call.diagnostic?.toList } := by
  cases call with
  | error code message => rfl
  | note code message => rfl
  | emit c m args =>
    simp only [after, Recording.diagnostic?, emit_eq]
    cases Operation.emit.check args *> c.format m.code args with
    | error fault => simp [Except.map, Except.toOption]
    | ok text => rfl

theorem afterAll_eq (r : Report) (calls : List Recording) :
    r.afterAll calls = { r with items := r.items ++ Recording.diagnostics calls } := by
  induction calls generalizing r with
  | nil => simp [afterAll, Recording.diagnostics]
  | cons call rest ih =>
    change (r.after call).afterAll rest = _
    rw [ih, after_eq, Recording.diagnostics, Recording.diagnostics]
    cases hcall : call.diagnostic? <;> simp [hcall]

theorem Recording.graded_of_diagnostic? {call : Recording} {d : Diagnostic}
    (h : call.diagnostic? = some d) : d.Graded := by
  cases call with
  | error code message =>
    obtain rfl := Option.some.inj h
    exact ⟨.error, rfl⟩
  | note code message =>
    obtain rfl := Option.some.inj h
    exact ⟨.note, rfl⟩
  | emit c m args =>
    obtain ⟨text, -, rfl⟩ := Option.map_eq_some_iff.mp h
    exact ⟨m.severity, rfl⟩

/-- Nothing but errors and notes is ever recorded. -/
theorem Recording.graded_of_mem_diagnostics {calls : List Recording} :
    ∀ d ∈ diagnostics calls, d.Graded := by
  intro d hd
  obtain ⟨call, -, hcall⟩ := List.mem_filterMap.mp hd
  exact graded_of_diagnostic? hcall

end Report

namespace Diagnostic

/-! ### One line -/

/-- The diagnostic with the message that is shown for it. -/
def finished (d : Diagnostic) : Diagnostic := { d with message := ended d.message }

theorem finished_eq_iff {d e : Diagnostic} :
    d.finished = e.finished ↔ d.kind = e.kind ∧ d.code = e.code ∧ ended d.message = ended e.message :=
  Iff.of_eq (mk.injEq _ _ _ _ _ _)

/-- A code that can be told from what follows it, and no line breaks. -/
def Legible (d : Diagnostic) : Prop :=
  ']' ∉ d.code.toList ∧ '\n' ∉ d.code.toList ∧ '\n' ∉ d.message.toList

instance (d : Diagnostic) : Decidable d.Legible :=
  inferInstanceAs (Decidable (']' ∉ d.code.toList ∧ '\n' ∉ d.code.toList ∧ '\n' ∉ d.message.toList))

/-- The diagnostic that a plain line of a program shows. -/
def ofPlainLine? (program : String) (line : List Char) : Option Diagnostic :=
  match line.dropPrefix? (program ++ ": ").toList with
  | none => none
  | some rest =>
    match rest.span (· ≠ ' ') with
    | (kind, ' ' :: '[' :: rest) =>
      match rest.span (· ≠ ']') with
      | (code, ']' :: ':' :: ' ' :: message) =>
        some ⟨.ofList kind, .ofList code, .ofList message⟩
      | _ => none
    | _ => none

theorem not_mem_ended {c : Char} (hc : c ≠ '.') {s : String} (h : c ∉ s.toList) :
    c ∉ (ended s).toList := by
  unfold ended
  split
  · exact h
  · simp [h, hc]

theorem toList_plainLine (program : String) (d : Diagnostic) :
    (d.plainLine program).toList = (program ++ ": ").toList ++ (d.kind.toList ++
      ' ' :: '[' :: (d.code.toList ++ ']' :: ':' :: ' ' :: (ended d.message).toList)) := by
  simp [plainLine]

theorem ofPlainLine?_plainLine (program : String) {d : Diagnostic} (hkind : ' ' ∉ d.kind.toList)
    (hcode : ']' ∉ d.code.toList) :
    ofPlainLine? program (d.plainLine program).toList = some d.finished := by
  have hlead := List.dropPrefix?_eq_some_iff.mpr
    ⟨(program ++ ": ").toList, toList_plainLine program d, beq_self_eq_true _⟩
  simp only [ofPlainLine?, hlead, Text.span_append_cons hkind, Text.span_append_cons hcode,
    String.ofList_toList]
  rfl

/-- A plain line has no characters but those of its parts and of its kind, and separators. -/
theorem not_mem_plainLine {c : Char} (hc : c ∉ "error note: [].".toList) {program : String}
    {d : Diagnostic} (hprogram : c ∉ program.toList) (hd : d.Graded) (hcode : c ∉ d.code.toList)
    (hmessage : c ∉ d.message.toList) : c ∉ (d.plainLine program).toList := by
  have hletters : c ∉ "error note".toList :=
    fun hmem => hc (List.mem_append_left ": [].".toList hmem)
  have hmarks : c ∉ ": [].".toList :=
    fun hmem => hc (List.mem_append_right "error note".toList hmem)
  have hne : c ≠ ':' ∧ c ≠ ' ' ∧ c ≠ '[' ∧ c ≠ ']' ∧ c ≠ '.' := by simpa using hmarks
  have hkind : c ∉ d.kind.toList := hd.not_mem_kind hletters
  have hended : c ∉ (ended d.message).toList := not_mem_ended hne.2.2.2.2 hmessage
  rw [toList_plainLine]
  simp [hne, hprogram, hkind, hcode, hended]

end Diagnostic

namespace Report

/-! ### All lines -/

theorem toList_format (r : Report) (colour : Bool) :
    (r.format colour).toList = ['\n'].intercalate (r.items.map (·.line colour r.program |>.toList)) := by
  rw [format, String.toList_intercalate, List.map_map]
  rfl

/-- What the lines of a plain text show. An empty text is not one empty line, but that of no
diagnostics. -/
def readPlain (program text : String) : List (Option Diagnostic) :=
  if text = "" then [] else (text.toList.splitOn '\n').map (Diagnostic.ofPlainLine? program)

section Reading

variable {program : String} {items : List Diagnostic}

theorem splitOn_format_plain (hprogram : '\n' ∉ program.toList) (hgraded : ∀ d ∈ items, d.Graded)
    (hitems : ∀ d ∈ items, d.Legible) (hne : items ≠ []) :
    (format ⟨program, items⟩ false).toList.splitOn '\n' =
      items.map (·.plainLine program |>.toList) := by
  rw [toList_format, List.splitOn_intercalate '\n' _ (by simpa using hne)]
  · rfl
  · intro line hline
    obtain ⟨d, hd, rfl⟩ := List.mem_map.mp hline
    obtain ⟨-, hcode, hmessage⟩ := hitems d hd
    exact Diagnostic.not_mem_plainLine (by decide) hprogram (hgraded d hd) hcode hmessage

theorem format_plain_ne_empty (hne : items ≠ []) : format ⟨program, items⟩ false ≠ "" := by
  intro hempty
  obtain ⟨d, rest, rfl⟩ := List.exists_cons_of_ne_nil hne
  have hchars := toList_format ⟨program, d :: rest⟩ false
  rw [hempty, List.map_cons] at hchars
  have hline : (d.line false program).toList = [] := by
    by_cases hrest : rest = []
    · simpa [hrest] using hchars.symm
    · rw [List.intercalate_cons_of_ne_nil (by simpa using hrest)] at hchars
      simp at hchars
  change (d.plainLine program).toList = [] at hline
  rw [Diagnostic.toList_plainLine] at hline
  simp at hline

theorem readPlain_format (hprogram : '\n' ∉ program.toList) (hgraded : ∀ d ∈ items, d.Graded)
    (hitems : ∀ d ∈ items, d.Legible) :
    readPlain program (format ⟨program, items⟩ false) = items.map (some ·.finished) := by
  by_cases hne : items = []
  · subst hne
    rfl
  rw [readPlain, if_neg (format_plain_ne_empty hne),
    splitOn_format_plain hprogram hgraded hitems hne, List.map_map]
  refine List.map_congr_left fun d hd => ?_
  have hkind : ' ' ∉ d.kind.toList := by
    obtain ⟨s, hs⟩ := hgraded d hd
    rw [hs]
    cases s <;> decide
  exact Diagnostic.ofPlainLine?_plainLine program hkind (hitems d hd).1

/-- Only what is shown of the diagnostics matters for their text. -/
theorem format_plain_congr {others : List Diagnostic}
    (h : items.map (·.finished) = others.map (·.finished)) :
    format ⟨program, items⟩ false = format ⟨program, others⟩ false := by
  have hline (ds : List Diagnostic) : ds.map (·.plainLine program) =
      (ds.map (·.finished)).map fun d =>
        program ++ ": " ++ d.kind ++ " [" ++ d.code ++ "]: " ++ d.message := by
    rw [List.map_map]
    rfl
  change "\n".intercalate (items.map (·.plainLine program)) =
    "\n".intercalate (others.map (·.plainLine program))
  rw [hline, hline, h]

end Reading

end Report

end SizeHeader
