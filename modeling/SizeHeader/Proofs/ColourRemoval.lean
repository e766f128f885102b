import SizeHeader.Proofs.DiagnosticLines

/-!
# Colours add nothing

A coloured line is put together apart from the plain one, and it writes the kind out instead of copying
it: as `error` for an error and as `note` for anything else. Since only errors and notes are recorded,
the two lines differ by the escape sequences alone. Deleting these never takes more with it, although
what stands behind a sequence may look like the end of one: a sequence is over at its first letter.
-/

namespace SizeHeader

namespace Style

/-! ### Escape sequences -/

/-- What stands behind an escape sequence, if a text begins with one: an escape character, a bracket,
digits, and the letter that ends it. -/
def behindSequence? : List Char → Option (List Char)
  | '\x1b' :: '[' :: s =>
    match s.dropWhile Char.isDigit with
    | 'm' :: rest => some rest
    | _ => none
  | _ => none

theorem length_behindSequence? {s rest : List Char} (h : behindSequence? s = some rest) :
    rest.length < s.length := by
  unfold behindSequence? at h
  split at h
  next s =>
    have hle : (s.dropWhile Char.isDigit).length ≤ s.length :=
      (List.dropWhile_suffix Char.isDigit).length_le
    split at h
    next behind hdrop =>
      obtain rfl := Option.some.inj h
      simp only [hdrop, List.length_cons] at hle ⊢
      omega
    next => cases h
  next => cases h

/-- A text without its escape sequences. -/
def strip (s : List Char) : List Char :=
  match s with
  | [] => []
  | c :: rest =>
    match _h : behindSequence? (c :: rest) with
    | some behind => strip behind
    | none => c :: strip rest
termination_by s.length
decreasing_by
  · exact length_behindSequence? ‹_›
  · simp

theorem behindSequence?_of_ne {c : Char} (hc : c ≠ '\x1b') (rest : List Char) :
    behindSequence? (c :: rest) = none := by
  simp [behindSequence?, hc]

theorem behindSequence?_sequence {digits : List Char} (hdigits : ∀ c ∈ digits, c.isDigit = true)
    (rest : List Char) :
    behindSequence? ('\x1b' :: '[' :: (digits ++ 'm' :: rest)) = some rest := by
  have hdrop : (digits ++ 'm' :: rest).dropWhile Char.isDigit = 'm' :: rest := by
    rw [List.dropWhile_append_of_pos hdigits]
    rfl
  simp only [behindSequence?, hdrop]

theorem strip_nil : strip [] = [] := by rw [strip]

theorem strip_append_of_not_mem {word : List Char} (h : '\x1b' ∉ word) (rest : List Char) :
    strip (word ++ rest) = word ++ strip rest := by
  induction word with
  | nil => rfl
  | cons c word ih =>
    rw [List.mem_cons, not_or] at h
    rw [List.cons_append, strip, List.cons_append, ← ih h.2]
    split
    next behind hbehind =>
      rw [behindSequence?_of_ne (Ne.symm h.1)] at hbehind
      cases hbehind
    next => rfl

theorem strip_sequence (digits : List Char) (hdigits : ∀ c ∈ digits, c.isDigit = true)
    (rest : List Char) : strip ('\x1b' :: '[' :: (digits ++ 'm' :: rest)) = strip rest := by
  rw [strip]
  split
  next behind hbehind =>
    rw [behindSequence?_sequence hdigits] at hbehind
    rw [Option.some.inj hbehind]
  next hnone =>
    rw [behindSequence?_sequence hdigits] at hnone
    cases hnone

/-- Every style is one escape sequence. -/
theorem strip_style {style : String} (h : style ∈ [reset, bold, dim, red, cyan])
    (rest : List Char) : strip (style.toList ++ rest) = strip rest := by
  simp only [List.mem_cons, List.not_mem_nil, or_false] at h
  rcases h with rfl | rfl | rfl | rfl | rfl
  · exact strip_sequence ['0'] (by simp) rest
  · exact strip_sequence ['1'] (by simp) rest
  · exact strip_sequence ['2'] (by simp) rest
  · exact strip_sequence ['3', '1'] (by simp) rest
  · exact strip_sequence ['3', '6'] (by simp) rest

end Style

namespace Diagnostic

open Style (strip strip_style strip_append_of_not_mem)

/-! ### One line -/

theorem strip_colouredKind (s : Severity) (rest : List Char) :
    strip ((colouredKind s.name).toList ++ rest) = s.name.toList ++ strip rest := by
  cases s with
  | error =>
    have hkind : colouredKind Severity.error.name =
        Style.bold ++ Style.red ++ Severity.error.name ++ Style.reset := by
      decide
    simp only [hkind, String.toList_append, List.append_assoc]
    rw [strip_style (by decide), strip_style (by decide), strip_append_of_not_mem (by decide),
      strip_style (by decide)]
  | note =>
    have hkind : colouredKind Severity.note.name =
        Style.bold ++ Severity.note.name ++ Style.reset := by
      decide
    simp only [hkind, String.toList_append, List.append_assoc]
    rw [strip_style (by decide), strip_append_of_not_mem (by decide), strip_style (by decide)]

/-- No escape characters in what a diagnostic says. -/
def Unescaped (d : Diagnostic) : Prop := '\x1b' ∉ d.code.toList ∧ '\x1b' ∉ d.message.toList

instance (d : Diagnostic) : Decidable d.Unescaped :=
  inferInstanceAs (Decidable ('\x1b' ∉ d.code.toList ∧ '\x1b' ∉ d.message.toList))

theorem strip_colouredLine {program : String} (hprogram : '\x1b' ∉ program.toList) {d : Diagnostic}
    (hgraded : d.Graded) (hd : d.Unescaped) (rest : List Char) :
    strip ((d.colouredLine program).toList ++ rest) =
      (d.plainLine program).toList ++ strip rest := by
  obtain ⟨s, hs⟩ := hgraded
  have hended : '\x1b' ∉ (ended d.message).toList := not_mem_ended (by decide) hd.2
  simp only [colouredLine, plainLine, hs, String.toList_append, List.append_assoc]
  rw [strip_style (by decide), strip_append_of_not_mem hprogram, strip_style (by decide),
    strip_append_of_not_mem (by decide), strip_colouredKind, strip_append_of_not_mem (by decide),
    strip_style (by decide), strip_append_of_not_mem hd.1, strip_style (by decide),
    strip_append_of_not_mem (by decide), strip_append_of_not_mem hended]

end Diagnostic

namespace Report

open Style (strip strip_append_of_not_mem)

/-! ### All lines -/

theorem strip_intercalate {coloured plain : Diagnostic → List Char} {items : List Diagnostic}
    (h : ∀ d ∈ items, ∀ rest, strip (coloured d ++ rest) = plain d ++ strip rest) :
    strip (['\n'].intercalate (items.map coloured)) = ['\n'].intercalate (items.map plain) := by
  induction items with
  | nil => exact Style.strip_nil
  | cons d items ih =>
    rw [List.forall_mem_cons] at h
    by_cases hne : items = []
    · subst hne
      simpa [Style.strip_nil] using h.1 []
    · have hcoloured : items.map coloured ≠ [] := by simpa using hne
      have hplain : items.map plain ≠ [] := by simpa using hne
      rw [List.map_cons, List.map_cons, List.intercalate_cons_of_ne_nil hcoloured,
        List.intercalate_cons_of_ne_nil hplain, List.append_assoc, List.append_assoc, h.1,
        strip_append_of_not_mem (by decide), ih h.2]

/-- **Colours add nothing.** Whatever is recorded without escape characters, the coloured text without
its escape sequences is the plain text, and the plain text has no escape character. -/
theorem strip_format_coloured {program : String} (hprogram : '\x1b' ∉ program.toList)
    {calls : List Recording} (hcalls : ∀ d ∈ Recording.diagnostics calls, d.Unescaped) :
    let r : Report := afterAll { program } calls
    strip (r.format true).toList = (r.format false).toList ∧ '\x1b' ∉ (r.format false).toList := by
  intro r
  have hr : r = ⟨program, Recording.diagnostics calls⟩ := afterAll_eq { program } calls
  have hgraded : ∀ d ∈ Recording.diagnostics calls, d.Graded := Recording.graded_of_mem_diagnostics
  rw [hr, toList_format, toList_format]
  constructor
  · refine strip_intercalate fun d hd rest => ?_
    exact d.strip_colouredLine hprogram (hgraded d hd) (hcalls d hd) rest
  · refine Text.not_mem_intercalate (by decide) fun line hline => ?_
    obtain ⟨d, hd, rfl⟩ := List.mem_map.mp hline
    obtain ⟨hcode, hmessage⟩ := hcalls d hd
    exact Diagnostic.not_mem_plainLine (by decide) hprogram (hgraded d hd) hcode hmessage

theorem strip_format_coloured_of_imitations :
    '\x1b' ∉ "[36m".toList ∧
    (∀ d ∈ Recording.diagnostics
      [.error "31m" "[0m]", .emit .builtin .generating [("path", .text "[1m")]], d.Unescaped) ∧
    let r : Report := afterAll { program := "[36m" }
      [.error "31m" "[0m]", .emit .builtin .generating [("path", .text "[1m")]]
    strip (r.format true).toList = (r.format false).toList ∧ '\x1b' ∉ (r.format false).toList := by
  have hprogram : '\x1b' ∉ "[36m".toList := by decide
  have hcalls : ∀ d ∈ Recording.diagnostics
      [.error "31m" "[0m]", .emit .builtin .generating [("path", .text "[1m")]], d.Unescaped := by
    decide +kernel
  exact ⟨hprogram, hcalls, strip_format_coloured hprogram hcalls⟩

end Report

end SizeHeader
