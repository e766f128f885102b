import SizeHeader.Proofs.DiagnosticLines
import SizeHeader.Proofs.NamedArguments

/-!
# Lines of a report

A diagnostic is one line as long as no line break gets into it, and its parts go in as they are. Of the
program's own messages, neither the texts nor the codes have line breaks. What is left are the values
under the keys that a text names: each line break in them, or in the name of the program, is one line
more, which may then pass for a diagnostic that nobody recorded.
-/

namespace SizeHeader

namespace Text

/-- The lines of a text. The empty text has none. -/
def lines (s : List Char) : List (List Char) := if s = [] then [] else s.splitOn '\n'

def breaks (s : String) : Nat := s.toList.count '\n'

theorem breaks_append (s t : String) : breaks (s ++ t) = breaks s + breaks t := by
  rw [breaks, String.toList_append, List.count_append]
  rfl

theorem breaks_join (texts : List String) : breaks (String.join texts) = (texts.map breaks).sum := by
  induction texts with
  | nil => rfl
  | cons s rest ih => rw [String.join_cons, breaks_append, ih, List.map_cons, List.sum_cons]

theorem breaks_eq_zero_iff {s : String} : breaks s = 0 ↔ '\n' ∉ s.toList := List.count_eq_zero

end Text

/-! ### Texts in pieces -/

/-- What stands under some keys, as a text shows it. -/
def Arguments.plainUnder (args : Arguments) (keys : List String) : List String :=
  keys.filterMap fun key => (args.lookup key).bind (·.plain?)

theorem Arguments.plainUnder_cons_of_shown {args : Arguments} {key s : String}
    (hs : args.shown key = .ok s) (keys : List String) :
    args.plainUnder (key :: keys) = s :: args.plainUnder keys := by
  obtain ⟨a, ha, hplain⟩ := shown_eq_ok_iff.mp hs
  simp only [plainUnder, List.filterMap_cons, ha, Option.bind_some, hplain]

namespace Piece

/-- A piece that has no line break of its own. -/
def Unbroken : Piece → Prop
  | characters s => Text.breaks s = 0
  | argument _ => True

instance : DecidablePred Unbroken
  | characters s => inferInstanceAs (Decidable (Text.breaks s = 0))
  | argument _ => .isTrue trivial

/-- The keys of the text that is read are those of the pieces that were written. -/
theorem keys_ofChars_written {ps : List Piece} (hps : ∀ p ∈ ps, p.Plain) :
    (Template.ofChars (ps.flatMap written)).keys = keys ps := by
  induction ps with
  | nil => rfl
  | cons p ps ih =>
    rw [List.forall_mem_cons] at hps
    rw [List.flatMap_cons]
    cases p with
    | characters s =>
      change _ = keys ps
      rw [written, Template.ofChars_doubled_append, ← ih hps.2]
      -- Literal characters have no keys, however many of them stand before the rest.
      induction s.toList with
      | nil => rfl
      | cons c cs ih => exact ih
    | argument key =>
      have hkey : PlainKey key.toList := hps.1
      have hname : String.ofList (Field.key ⟨key.toList, none, []⟩) = key := by
        rw [Field.key_plain hkey, String.ofList_toList]
      change _ = key :: keys ps
      rw [ofChars_written_argument hkey, ← ih hps.2]
      exact congrArg (· :: _) hname

/-- All line breaks of a text in unbroken pieces are those of its values. -/
theorem breaks_join_values {args : Arguments} {ps : List Piece} (hps : ∀ p ∈ ps, p.Unbroken)
    {values : List String} (hvalues : ps.mapM (value args) = .ok values) :
    Text.breaks (String.join values) = ((args.plainUnder (keys ps)).map Text.breaks).sum := by
  rw [Text.breaks_join]
  induction ps generalizing values with
  | nil =>
    obtain rfl : [] = values := Except.ok.inj hvalues
    rfl
  | cons p ps ih =>
    rw [List.forall_mem_cons] at hps
    obtain ⟨s, rest, hs, hrest, rfl⟩ := mapM_value_cons_eq_ok_iff.mp hvalues
    rw [List.map_cons, List.sum_cons, ih hps.2 hrest]
    cases p with
    | characters t =>
      obtain rfl : t = s := Except.ok.inj hs
      have ht : Text.breaks t = 0 := hps.1
      have hkeys : keys (characters t :: ps) = keys ps := rfl
      rw [ht, hkeys, Nat.zero_add]
    | argument key =>
      have hkeys : keys (argument key :: ps) = key :: keys ps := rfl
      rw [hkeys, args.plainUnder_cons_of_shown hs, List.map_cons, List.sum_cons]

end Piece

/-! ### The program's own messages -/

/-- One of the program's own messages, to be told with texts for its fields. -/
structure Notice where
  message : Message
  own : message ∈ Catalog.builtin.messages
  texts : List (String × String)

namespace Notice

def arguments (n : Notice) : Arguments := n.texts.map fun entry => (entry.1, .text entry.2)

def recording (n : Notice) : Report.Recording := .emit .builtin n.message n.arguments

/-- The texts that the message asks for. -/
def shown (n : Notice) : List String := n.arguments.plainUnder n.message.template.keys

theorem exists_pieces {m : Message} (hm : m ∈ Catalog.builtin.messages) :
    ∃ ps : List Piece, Catalog.builtin.text? m.code = some (.ofList (ps.flatMap Piece.written)) ∧
      m.text = .ofList (ps.flatMap Piece.written) ∧ (∀ p ∈ ps, p.Plain) ∧ ∀ p ∈ ps, p.Unbroken := by
  simp only [Catalog.builtin, List.mem_cons, List.not_mem_nil, or_false] at hm
  rcases hm with rfl | rfl | rfl | rfl | rfl
  · exact ⟨[.characters "no filename supplied"], rfl, rfl, by decide, by decide⟩
  · exact ⟨[.characters "can't open file '", .argument "path", .characters "': ", .argument "reason"],
      rfl, rfl, by decide, by decide⟩
  · exact ⟨[.characters "can't write file '", .argument "path", .characters "': ", .argument "reason"],
      rfl, rfl, by decide, by decide⟩
  · exact ⟨[.characters "Generating file: ", .argument "path"], rfl, rfl, by decide, by decide⟩
  · exact ⟨[.characters "cannot determine size of '", .argument "name", .characters "': ",
      .argument "reason"], rfl, rfl, by decide, by decide⟩

theorem breaks_format {n : Notice} {text : String}
    (h : Catalog.builtin.format n.message.code n.arguments = .ok text) :
    Text.breaks text = (n.shown.map Text.breaks).sum := by
  obtain ⟨ps, hcatalog, htext, hplain, hunbroken⟩ := exists_pieces n.own
  have hcode : "code" ∉ n.arguments.map (·.1) := by
    intro hmem
    rw [Catalog.format_of_reserved hmem] at h
    cases h
  have hkeys : n.message.template.keys = Piece.keys ps := by
    rw [Message.template, htext, String.toList_ofList, Piece.keys_ofChars_written hplain]
  rw [Catalog.format_pieces_eq hplain hcatalog hcode] at h
  cases hvalues : ps.mapM (Piece.value n.arguments) with
  | error fault =>
    rw [hvalues] at h
    cases h
  | ok values =>
    rw [hvalues] at h
    obtain rfl : String.join values = text := Except.ok.inj h
    rw [shown, hkeys, Piece.breaks_join_values hunbroken hvalues]

/-- A diagnostic has the line breaks of the program's name and of the texts that it shows. -/
theorem breaks_plainLine {n : Notice} {d : Diagnostic} (h : n.recording.diagnostic? = some d)
    (program : String) :
    Text.breaks (d.plainLine program) = ((program :: n.shown).map Text.breaks).sum := by
  obtain ⟨text, htext, rfl⟩ := Option.map_eq_some_iff.mp h
  have hformat : Catalog.builtin.format n.message.code n.arguments = .ok text := by
    cases hcheck : Operation.emit.check n.arguments with
    | error fault => simp [hcheck, SeqRight.seqRight, Except.bind, Except.toOption] at htext
    | ok _ =>
      cases hformat : Catalog.builtin.format n.message.code n.arguments with
      | error fault => simp [hcheck, hformat, SeqRight.seqRight, Except.bind, Except.toOption] at htext
      | ok t => simpa [hcheck, hformat, SeqRight.seqRight, Except.bind, Except.toOption] using htext
  have hkind : Text.breaks n.message.severity.name = 0 := by
    cases n.message.severity <;> decide
  have hcodes : ∀ m ∈ Catalog.builtin.messages, Text.breaks m.code = 0 := by decide
  have hended : Text.breaks (Diagnostic.ended text) = Text.breaks text := by
    unfold Diagnostic.ended
    split
    · rfl
    · exact Text.breaks_append text "."
  calc
    Text.breaks (Diagnostic.plainLine program ⟨n.message.severity.name, n.message.code, text⟩) =
        Text.breaks program + Text.breaks text := by
      simp only [Diagnostic.plainLine, Text.breaks_append, hkind, hcodes _ n.own, hended]
      rfl
    _ = ((program :: n.shown).map Text.breaks).sum := by
      rw [breaks_format hformat, List.map_cons, List.sum_cons]

/-- Of calls that record or fail, those that record are counted as their diagnostics are. -/
theorem map_diagnostics {α : Type} {f : Diagnostic → α} {g : Notice → α}
    (h : ∀ (n : Notice) (d : Diagnostic), n.recording.diagnostic? = some d → f d = g n)
    (notices : List Notice) :
    (Report.Recording.diagnostics (notices.map recording)).map f =
      (notices.filter (·.recording.diagnostic?.isSome)).map g := by
  unfold Report.Recording.diagnostics
  induction notices with
  | nil => rfl
  | cons n rest ih =>
    rw [List.map_cons]
    cases hn : n.recording.diagnostic? with
    | none => rw [List.filterMap_cons_none hn, List.filter_cons_of_neg (by simp [hn]), ih]
    | some d =>
      rw [List.filterMap_cons_some hn, List.filter_cons_of_pos (by simp [hn]), List.map_cons,
        List.map_cons, h n d hn, ih]

end Notice

namespace Report

/-! ### All lines -/

/-- The lines of a plain text are those of its diagnostics, in order. -/
theorem lines_format (program : String) (items : List Diagnostic) :
    Text.lines (format ⟨program, items⟩ false).toList =
      items.flatMap fun d => (d.plainLine program).toList.splitOn '\n' := by
  by_cases hne : items = []
  · subst hne
    rfl
  · have hchars : (format ⟨program, items⟩ false).toList ≠ [] := by
      simpa using format_plain_ne_empty hne
    rw [Text.lines, if_neg hchars, toList_format,
      Text.splitOn_intercalate_eq_flatMap (by simpa using hne), List.flatMap_map]
    rfl

theorem length_lines_format (program : String) (items : List Diagnostic) :
    (Text.lines (format ⟨program, items⟩ false).toList).length =
      (items.map fun d => Text.breaks (d.plainLine program) + 1).sum := by
  rw [lines_format, List.length_flatMap]
  simp only [Text.length_splitOn, Text.breaks]

/-- A line of an unbroken diagnostic is that diagnostic's own. -/
theorem exists_plainLine_of_mem_lines {program : String} {items : List Diagnostic}
    (hitems : ∀ d ∈ items, Text.breaks (d.plainLine program) = 0) {line : List Char}
    (hline : line ∈ Text.lines (format ⟨program, items⟩ false).toList) :
    ∃ d ∈ items, line = (d.plainLine program).toList := by
  rw [lines_format] at hline
  obtain ⟨d, hd, hmem⟩ := List.mem_flatMap.mp hline
  rw [List.splitOn_eq_singleton (Text.breaks_eq_zero_iff.mp (hitems d hd))] at hmem
  exact ⟨d, hd, List.mem_singleton.mp hmem⟩

/-- **What makes a diagnostic more than one line.** A report of the program's own messages has one line
for each of them and one more for each line break in what they show, that is the name of the program and
the texts that they ask for. So it is one line for each, beginning with the name of the program, exactly
if no line break is in any of these. -/
theorem lines_of_notices (program : String) (notices : List Notice) :
    let report : Report := afterAll { program } (notices.map Notice.recording)
    let lines : List (List Char) := Text.lines (report.format false).toList
    let recorded : List Notice := notices.filter (·.recording.diagnostic?.isSome)
    report.items.length = recorded.length ∧
    lines.length = recorded.length +
      (recorded.map fun n => ((program :: n.shown).map Text.breaks).sum).sum ∧
    (lines.length = report.items.length ∧ (∀ line ∈ lines, program.toList <+: line) ↔
      ∀ n ∈ recorded, ∀ s ∈ program :: n.shown, '\n' ∉ s.toList) := by
  intro report lines recorded
  have hreport : report = ⟨program, Recording.diagnostics (notices.map Notice.recording)⟩ :=
    afterAll_eq { program } _
  have hlines : lines = Text.lines (format ⟨program, report.items⟩ false).toList := by
    have hprogram : report.program = program := congrArg Report.program hreport
    rw [← hprogram]
  have hbreaks : (report.items.map fun d => Text.breaks (d.plainLine program)) =
      recorded.map fun n => ((program :: n.shown).map Text.breaks).sum := by
    rw [hreport]
    exact Notice.map_diagnostics (fun n d h => n.breaks_plainLine h program) notices
  have hcount : report.items.length = recorded.length := by
    simpa using congrArg List.length hbreaks
  have hlength : lines.length = recorded.length +
      (recorded.map fun n => ((program :: n.shown).map Text.breaks).sum).sum := by
    calc
      lines.length = (report.items.map fun d => Text.breaks (d.plainLine program) + 1).sum := by
        rw [hlines, length_lines_format]
      _ = (report.items.map fun d => Text.breaks (d.plainLine program)).sum + report.items.length := by
        rw [List.sum_map_add, List.map_const', List.sum_replicate, smul_eq_mul, Nat.mul_one]
      _ = _ := by rw [hbreaks, hcount, Nat.add_comm]
  refine ⟨hcount, hlength, ?_⟩
  constructor
  · rintro ⟨hone, -⟩ n hn s hs
    have hsum : (recorded.map fun n => ((program :: n.shown).map Text.breaks).sum).sum = 0 := by
      omega
    have hzero := List.sum_eq_zero_iff.mp hsum _ (List.mem_map_of_mem hn)
    exact Text.breaks_eq_zero_iff.mp (List.sum_eq_zero_iff.mp hzero _ (List.mem_map_of_mem hs))
  · intro hunbroken
    have hzero : ∀ n ∈ recorded, ((program :: n.shown).map Text.breaks).sum = 0 := by
      intro n hn
      rw [List.sum_eq_zero_iff, List.forall_mem_map]
      exact fun s hs => Text.breaks_eq_zero_iff.mpr (hunbroken n hn s hs)
    have hsum : (recorded.map fun n => ((program :: n.shown).map Text.breaks).sum).sum = 0 := by
      rw [List.sum_eq_zero_iff, List.forall_mem_map]
      exact hzero
    have hitems : ∀ d ∈ report.items, Text.breaks (d.plainLine program) = 0 := by
      rw [← List.forall_mem_map (P := fun breaks => breaks = 0), hbreaks, List.forall_mem_map]
      exact hzero
    refine ⟨by omega, fun line hline => ?_⟩
    rw [hlines] at hline
    obtain ⟨d, -, rfl⟩ := exists_plainLine_of_mem_lines hitems hline
    rw [Diagnostic.toList_plainLine, String.toList_append, List.append_assoc]
    exact List.prefix_append _ _

/-- One diagnostic whose path makes it two lines, both of which begin with the name of the program. -/
theorem lines_of_forging_path :
    let path := "a\nsize_definer: error [SD0003]: b"
    let notice : Notice := ⟨.generating, by decide, [("path", path)]⟩
    let report : Report := afterAll {} [notice.recording]
    report.items = [⟨"note", "SD0100", "Generating file: " ++ path⟩] ∧
      Text.lines (report.format false).toList =
        ["size_definer: note [SD0100]: Generating file: a".toList,
          "size_definer: error [SD0003]: b.".toList] := by
  decide +kernel

end Report

end SizeHeader
