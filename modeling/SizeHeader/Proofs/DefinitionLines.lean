import SizeHeader.Definition
import SizeHeader.Proofs.OwnTexts
import SizeHeader.Proofs.TextReading

/-!
# Definitions can be read back

A text of definitions has one line for each entry, and a line tells which entry it was made from,
although a name may hold anything that lines are made of, blanks and numerals included: what a line
begins with is known, and its size is what stands behind the last blank. So a line is read from both
ends, and the name is what is left between them. There is a text unless some size has too many digits.
-/

namespace SizeHeader.SizeEntry

/-- What the lines of a scope begin with. -/
def lead (scope : String) : List Char := ("#define " ++ scope ++ "_sizeof_").toList

/-- The definition of an entry without its line break. -/
def line (scope : String) (e : SizeEntry) : List Char :=
  lead scope ++ (e.name.toList ++ ' ' :: e.size.repr.toList)

/-- The entry that a line defines. -/
def ofLine? (scope : String) (line : List Char) : Option SizeEntry :=
  match line.dropPrefix? (lead scope) with
  | none => none
  | some rest =>
    match rest.reverse.span (· ≠ ' ') with
    | (size, ' ' :: name) =>
      (String.ofList size.reverse).toInt?.map (⟨.ofList name.reverse, ·⟩)
    | _ => none

/-! ### Sizes that have a text -/

/-- The text of entries, as long as none of their sizes is too long. -/
def text (entries : List SizeEntry) (scope : String) : String :=
  .join (entries.map fun e => definitionLine scope e.name e.size.repr)

theorem definition?_of_short {e : SizeEntry} (he : Text.digitCount e.size ≤ 4300) (scope : String) :
    e.definition? scope = some (definitionLine scope e.name e.size.repr) := by
  have hsize : Text.decimal? e.size = some e.size.repr := Text.decimal?_eq_some_iff.mpr ⟨he, rfl⟩
  rw [definition?, SizeHeader.definition?, Argument.plain?, hsize, Option.map_some]

theorem definition?_of_long {e : SizeEntry} (he : 4300 < Text.digitCount e.size) (scope : String) :
    e.definition? scope = none := by
  have hsize : Text.decimal? e.size = none := Text.decimal?_eq_none_iff.mpr he
  rw [definition?, SizeHeader.definition?, Argument.plain?, hsize, Option.map_none]

theorem definitions?_cons (e : SizeEntry) (rest : List SizeEntry) (scope : String) :
    definitions? (e :: rest) scope =
      (e.definition? scope).bind fun line => (definitions? rest scope).map (line ++ ·) := by
  simp only [definitions?, SizeHeader.definitions?, List.map_cons, List.mapM_cons, definition?]
  cases SizeHeader.definition? scope e.name (.integer e.size) with
  | none => rfl
  | some line =>
    generalize List.mapM (m := Option) _ _ = lines
    cases lines with
    | none => rfl
    | some lines => exact congrArg some String.join_cons

/-- One size with too many digits leaves all entries without a text. -/
theorem definitions?_eq (entries : List SizeEntry) (scope : String) :
    definitions? entries scope =
      if ∀ e ∈ entries, Text.digitCount e.size ≤ 4300 then some (text entries scope) else none := by
  induction entries with
  | nil => rfl
  | cons e rest ih =>
    rw [definitions?_cons, ih]
    simp only [List.forall_mem_cons]
    by_cases he : Text.digitCount e.size ≤ 4300
    · rw [definition?_of_short he]
      by_cases hrest : ∀ e ∈ rest, Text.digitCount e.size ≤ 4300
      · simp only [he, true_and, text, List.map_cons, String.join_cons, Option.bind_some, if_pos hrest,
          Option.map_some]
      · simp [he, hrest]
    · rw [definition?_of_long (Nat.not_le.mp he)]
      simp [he]

theorem definitions?_of_short {entries : List SizeEntry}
    (h : ∀ e ∈ entries, Text.digitCount e.size ≤ 4300) (scope : String) :
    definitions? entries scope = some (text entries scope) := by
  rw [definitions?_eq, if_pos h]

theorem definitions?_eq_none_iff {entries : List SizeEntry} {scope : String} :
    definitions? entries scope = none ↔ ∃ e ∈ entries, 4300 < Text.digitCount e.size := by
  simp [definitions?_eq]

/-! ### One line -/

theorem toList_definitionLine (scope : String) (e : SizeEntry) :
    (definitionLine scope e.name e.size.repr).toList = e.line scope ++ ['\n'] := by
  simp [definitionLine, line, lead]

theorem newline_not_mem_line {scope : String} (hscope : '\n' ∉ scope.toList) {e : SizeEntry}
    (he : '\n' ∉ e.name.toList) : '\n' ∉ e.line scope := by
  have hsize : '\n' ∉ e.size.repr.toList := by
    intro hmem
    exact absurd (Text.inNumeral_of_mem_intRepr _ hmem) (by decide)
  simp [line, lead, hscope, he, hsize]

theorem ofLine?_line (scope : String) (e : SizeEntry) : ofLine? scope (e.line scope) = some e := by
  have hblank : ' ' ∉ e.size.repr.toList.reverse := by
    intro hmem
    exact absurd (Text.inNumeral_of_mem_intRepr _ (List.mem_reverse.mp hmem)) (by decide)
  have hlead : (e.line scope).dropPrefix? (lead scope) =
      some (e.name.toList ++ ' ' :: e.size.repr.toList) :=
    List.dropPrefix?_eq_some_iff.mpr ⟨lead scope, rfl, beq_self_eq_true (lead scope)⟩
  have hends : (e.name.toList ++ ' ' :: e.size.repr.toList).reverse =
      e.size.repr.toList.reverse ++ ' ' :: e.name.toList.reverse := by
    simp
  simp only [ofLine?, hlead, hends, Text.span_append_cons hblank, List.reverse_reverse,
    String.ofList_toList, Int.toInt?_repr, Option.map_some]

/-- The pieces of the template that definitions are made from. -/
def templatePieces : List Piece :=
  [.characters "#define ", .argument "prefix", .characters "_sizeof_", .argument "name",
    .characters " ", .argument "size", .characters "\n"]

def templateArguments (scope : String) (e : SizeEntry) : Arguments :=
  [("prefix", .text scope), ("name", .text e.name), ("size", .integer e.size)]

/-- A definition is what the template comes to, in which names are not read again. -/
theorem fill_definitionTemplate (scope : String) (e : SizeEntry) :
    (Template.ofChars definitionTemplate.toList).fill (templateArguments scope e) =
      match e.definition? scope with
      | some line => .ok line.toList
      | none => .error (.format .longInteger) := by
  have htemplate : definitionTemplate.toList = templatePieces.flatMap Piece.written := by
    decide
  have hscope : (templateArguments scope e).shown "prefix" = .ok scope := rfl
  have hname : (templateArguments scope e).shown "name" = .ok e.name := rfl
  have hlookup : (templateArguments scope e).lookup "size" = some (.integer e.size) := rfl
  rw [htemplate, Piece.fill_written _ (by decide), definition?, SizeHeader.definition?]
  cases hplain : (Argument.integer e.size).plain? with
  | none =>
    have hsize := Arguments.shown_of_isLong hlookup (Argument.plain?_eq_none_iff.mp hplain)
    simp [templatePieces, Piece.value, hscope, hname, hsize, bind, Except.bind, Except.map]
  | some s =>
    have hsize := Arguments.shown_of_plain? hlookup hplain
    simp [templatePieces, Piece.value, hscope, hname, hsize, definitionLine, bind, Except.bind, pure,
      Except.pure, Except.map]

/-! ### All lines -/

theorem splitOn_text {scope : String} (hscope : '\n' ∉ scope.toList) {entries : List SizeEntry}
    (hentries : ∀ e ∈ entries, '\n' ∉ e.name.toList) :
    (text entries scope).toList.splitOn '\n' = entries.map (·.line scope) ++ [[]] := by
  have hlines : (text entries scope).toList =
      (entries.map (·.line scope)).flatMap (· ++ ['\n']) := by
    simp only [text, String.toList_join, List.flatMap_map, toList_definitionLine]
  rw [hlines, Text.splitOn_flatMap_append]
  intro line hline
  obtain ⟨e, he, rfl⟩ := List.mem_map.mp hline
  exact newline_not_mem_line hscope (hentries e he)

theorem map_ofLine?_line (scope : String) (entries : List SizeEntry) :
    (entries.map (·.line scope)).map (ofLine? scope) = entries.map some := by
  rw [List.map_map]
  exact List.map_congr_left fun e _ => ofLine?_line scope e

theorem text_injective {scope : String} (hscope : '\n' ∉ scope.toList)
    {entries others : List SizeEntry} (hentries : ∀ e ∈ entries, '\n' ∉ e.name.toList)
    (hothers : ∀ e ∈ others, '\n' ∉ e.name.toList) (h : text entries scope = text others scope) :
    entries = others := by
  have hlines : entries.map (·.line scope) = others.map (·.line scope) := by
    rw [← List.append_cancel_right_eq _ [[]], ← splitOn_text hscope hentries, h,
      splitOn_text hscope hothers]
  refine List.map_injective_iff.mpr (Option.some_injective SizeEntry) ?_
  rw [← map_ofLine?_line scope entries, hlines, map_ofLine?_line]

/-- **Definitions determine their entries.** Among entries whose names have no line breaks and whose sizes
have at most 4300 digits, only one list comes to a given text, and no other list does, whatever its
sizes. The text has one line for each entry, in their order, and nothing behind the last of them, and
each line is read back as its entry, with the name and the size that it was made from. With a longer
size among them, entries have no text. A definition is what its template comes to: names go in as they
are. -/
theorem definitions_eq_iff {scope : String} (hscope : '\n' ∉ scope.toList) :
    (∀ entries others : List SizeEntry, (∀ e ∈ entries, '\n' ∉ e.name.toList) →
      (∀ e ∈ others, '\n' ∉ e.name.toList) →
        (∀ e ∈ entries, Text.digitCount e.size ≤ 4300) →
          (definitions? entries scope = definitions? others scope ↔ entries = others)) ∧
    (∀ entries : List SizeEntry, (∀ e ∈ entries, '\n' ∉ e.name.toList) →
      (∀ e ∈ entries, Text.digitCount e.size ≤ 4300) →
        ∃ text lines, definitions? entries scope = some text ∧
          text.toList.splitOn '\n' = lines ++ [[]] ∧ lines.map (ofLine? scope) = entries.map some) ∧
    (∀ entries : List SizeEntry, (∃ e ∈ entries, 4300 < Text.digitCount e.size) →
      definitions? entries scope = none) ∧
    ∀ e : SizeEntry,
      (Template.ofChars definitionTemplate.toList).fill
          [("prefix", .text scope), ("name", .text e.name), ("size", .integer e.size)] =
        match e.definition? scope with
        | some line => .ok line.toList
        | none => .error (.format .longInteger) := by
  refine ⟨fun entries others hentries hothers hsizes => ?_, fun entries hentries hsizes => ?_,
    fun entries hlong => definitions?_eq_none_iff.mpr hlong, fill_definitionTemplate scope⟩
  · constructor
    · intro h
      rw [definitions?_of_short hsizes, definitions?_eq] at h
      split_ifs at h
      exact text_injective hscope hentries hothers (Option.some.inj h)
    · exact congrArg (definitions? · scope)
  · exact ⟨text entries scope, entries.map (·.line scope), definitions?_of_short hsizes scope,
      splitOn_text hscope hentries, map_ofLine?_line scope entries⟩

theorem definitions_eq_iff_of_imitating_names :
    '\n' ∉ "QTCW".toList ∧
    (definitions? [⟨"A 1", 2⟩] "QTCW" = definitions? [⟨"A", 12⟩] "QTCW" ↔
      ([⟨"A 1", 2⟩] : List SizeEntry) = [⟨"A", 12⟩]) ∧
    (∃ text lines,
      definitions? [⟨"\x7bsize\x7d 8 #define QTCW_sizeof_B", -4⟩, ⟨"", Text.powerOfTen 4299⟩] "QTCW" =
        some text ∧
      text.toList.splitOn '\n' = lines ++ [[]] ∧
      lines.map (ofLine? "QTCW") =
        [some ⟨"\x7bsize\x7d 8 #define QTCW_sizeof_B", -4⟩, some ⟨"", Text.powerOfTen 4299⟩]) ∧
    definitions? [⟨"A", 8⟩, ⟨"B", Text.powerOfTen 4300⟩] "QTCW" = none := by
  have hscope : '\n' ∉ "QTCW".toList := by decide
  obtain ⟨hiff, hlines, hlong, -⟩ := definitions_eq_iff hscope
  have hgreatest : Text.digitCount (Text.powerOfTen 4299) ≤ 4300 :=
    (Text.digitCount_powerOfTen (by decide)).le
  have hleast : 4300 < Text.digitCount (Text.powerOfTen 4300) :=
    Text.lt_digitCount_powerOfTen (by decide)
  refine ⟨hscope, hiff _ _ (by decide) (by decide) (by decide), ?_, ?_⟩
  · refine hlines _ (by decide) ?_
    simp only [List.forall_mem_cons, List.not_mem_nil, false_implies, implies_true, and_true]
    exact ⟨by decide, hgreatest⟩
  · exact hlong _ ⟨_, List.mem_cons_of_mem _ List.mem_cons_self, hleast⟩

/-- A size of 4301 digits has no text, so two equal lists with it have none either. And a truth value is
a number, but what is shown of it is a word and not that number. -/
theorem no_definitions_of_long_size :
    definitions? [⟨"A", Text.powerOfTen 4300⟩] "QTCW" = none ∧
    (Argument.boolean true).number? = (Argument.integer 1).number? ∧
    SizeHeader.definitions? "QTCW" [("A", .boolean true)] = some "#define QTCW_sizeof_A True\n" ∧
    SizeHeader.definitions? "QTCW" [("A", .integer 1)] = some "#define QTCW_sizeof_A 1\n" := by
  have hleast : 4300 < Text.digitCount (Text.powerOfTen 4300) :=
    Text.lt_digitCount_powerOfTen (by decide)
  exact ⟨definitions?_eq_none_iff.mpr ⟨_, List.mem_cons_self, hleast⟩, rfl, by decide, by decide⟩

end SizeHeader.SizeEntry
