import Mathlib
import SizeHeader.Version
import SizeHeader.Proofs.LongIntegers
import SizeHeader.Proofs.WrittenDocuments

/-!
# The version of a document

A program that is not installed takes its version from the project table of a document. A version that
is written there as a string is found, character for character. A document that gives none makes the
version unknown, unless it breaks the search off: the name of the project table can stand for something
else, and an integer can have more digits than the reader converts. Nothing else does.
-/

namespace SizeHeader.Version

open Toml (Statement)

theorem find_none (document : Option String) :
    find none document = (ofDocument document).map (⟨·, true⟩) := by
  cases h : ofDocument document <;> simp [find, h] <;> rfl

section

variable {text : String}

theorem ofDocument_of_ok {entries : Toml.Entries} (h : Toml.document text = .ok entries) :
    ofDocument (some text) = ofEntries entries := by
  simp only [ofDocument, h]

theorem ofDocument_of_malformed (h : Toml.document text = .error .malformed) :
    ofDocument (some text) = .ok unknown := by
  simp only [ofDocument, h]

theorem ofDocument_of_longInteger {digits : Nat}
    (h : Toml.document text = .error (.longInteger digits)) :
    ofDocument (some text) = .error (.longInteger digits) := by
  simp only [ofDocument, h]

end

/-! ### Versions that are strings -/

/-- **Written versions are found.** The version is what is written under its key in the project table,
whatever stands in the other tables, strings and comments. -/
theorem find_of_written {d : Toml.Document} {t : Toml.Table} (ht : t ∈ d.tables)
    (hname : t.name = "project") {v : String} (hv : ("version", v) ∈ t.texts) :
    find none (some d.text) = .ok ⟨.text v, true⟩ := by
  have hnames : ((d.tables.map (·.entry)).map (·.1)).Nodup := by
    rw [List.map_map]
    exact d.names_nodup
  have hproject : (d.tables.map (·.entry)).lookup "project" = some (.table .header t.inner) :=
    Toml.Entries.lookup_of_mem hnames (List.mem_map.mpr ⟨t, ht, by rw [Toml.Table.entry, hname]⟩)
  have hversion : t.inner.lookup "version" = some (.text v) :=
    Toml.Entries.lookup_of_mem t.keys_inner_nodup (List.mem_map.mpr ⟨("version", v), hv, rfl⟩)
  have hentries : ofEntries (d.tables.map (·.entry)) = .ok (.text v) := by
    rw [ofEntries, hproject]
    dsimp only
    rw [hversion, Option.getD_some]
  rw [find_none, ofDocument_of_ok d.document_text, hentries]
  rfl

/-- A version with a line break, a quote and a number sign, between comments that imitate it. -/
theorem find_of_written_among_imitations :
    ∃ d : Toml.Document,
      d.text = "# version = \"0\"\r\n[project]\nversion = \"\\n\\u0022#\"# [tool]\n" ∧
        find none (some d.text) = .ok ⟨.text "\n\"#", true⟩ := by
  have hpoint : Toml.HexDigits '"' ['0', '0', '2', '2'] :=
    ⟨[0, 0, 2, 2], by simp [Toml.HexDigit], rfl⟩
  have hspells : Toml.Spells (String.ofList ['\n', '"', '#']).toList
      (['\\', 'n'] ++ (['\\', 'u', '0', '0', '2', '2'] ++ (['#'] ++ []))) := by
    rw [String.toList_ofList]
    exact .cons (.letter (by decide)) (.cons (.short hpoint rfl)
      (.cons (.plain (by decide) (by decide) (by decide)) .nil))
  let before : Toml.Comment := ⟨" version = \"0\"".toList, by simp [Toml.Printed]⟩
  let behind : Toml.Comment := ⟨" [tool]".toList, by simp [Toml.Printed]⟩
  let space : Toml.Gap := ⟨[' '], by simp⟩
  let pair : Toml.Pair :=
    { key := ⟨['v', 'e', 'r', 's', 'i', 'o', 'n'], by simp [Toml.Bare], List.cons_ne_nil _ _⟩
      before := space
      after := space
      value := ⟨_, _, hspells⟩ }
  let header : Toml.Header :=
    { before := .none
      name := ⟨['p', 'r', 'o', 'j', 'e', 'c', 't'], by simp [Toml.Bare], List.cons_ne_nil _ _⟩
      after := .none }
  let table : Toml.Table :=
    { header := ⟨.none, header, .none, none, .lineFeed⟩
      rows := [⟨.none, some pair, .none, some behind, .lineFeed⟩]
      keys_nodup := List.nodup_singleton _ }
  let d : Toml.Document :=
    { opening := [⟨.none, (), .none, some before, .carriageReturn⟩]
      tables := [table]
      names_nodup := List.nodup_singleton _
      terminated := true }
  have htable : table ∈ d.tables := List.mem_cons_self
  have hversion : ("version", "\n\"#") ∈ table.texts := List.mem_cons_self
  exact ⟨d, rfl, find_of_written htable rfl hversion⟩

/-! ### Documents that break the search off -/

/-- What the project table of a document gives as the version. -/
def provided (document : Option String) : Option Toml.Value := do
  let entries ← (Toml.document (← document)).toOption
  match entries.lookup "project" with
  | some (.table _ project) => project.lookup "version"
  | _ => none

/-- The documents that break the search off. One that is valid does so by a statement above all headers
that gives the name of the project table to another value, or by tables that share this name. -/
def Interrupts (document : Option String) : Fault → Prop
  | .noTable T => ∃ text entries statements, document = some text ∧
      Toml.document text = .ok entries ∧ Statement.ofText text = .ok statements ∧
      ((∃ v, .pair ["project"] v ∈ Statement.preamble statements ∧ v.otherType? = some T) ∨
        .arrayHeader ["project"] ∈ statements ∧ T = "list")
  | .longInteger digits => ∃ text, document = some text ∧
      Toml.document text = .error (.longInteger digits) ∧ Text.maxDigits < digits

theorem interrupts_noTable_iff {text T : String} {entries : Toml.Entries}
    (h : Toml.document text = .ok entries) :
    Interrupts (some text) (.noTable T) ↔ entries.otherType? "project" = some T := by
  rw [Toml.otherType?_of_document h]
  simp [Interrupts, h]

theorem ofEntries_eq_error_iff {entries : Toml.Entries} {fault : Fault} :
    ofEntries entries = .error fault ↔
      ∃ T, entries.otherType? "project" = some T ∧ fault = .noTable T := by
  unfold ofEntries Toml.Entries.otherType?
  cases entries.lookup "project" with
  | none => simp
  | some v => cases v <;> simp [Toml.Value.otherType?, eq_comm]

theorem ofDocument_eq_error_iff {document : Option String} {fault : Fault} :
    ofDocument document = .error fault ↔ Interrupts document fault := by
  cases document with
  | none => cases fault <;> simp [ofDocument, Interrupts]
  | some text =>
    cases h : Toml.document text with
    | ok entries =>
      rw [ofDocument_of_ok h, ofEntries_eq_error_iff]
      cases fault with
      | noTable T => simp [interrupts_noTable_iff h]
      | longInteger digits => simp [Interrupts, h]
    | error read =>
      cases read with
      | malformed =>
        rw [ofDocument_of_malformed h]
        cases fault <;> simp [Interrupts, h]
      | longInteger digits =>
        have hdigits : Text.maxDigits < digits := Toml.ReportsLong.document text digits h
        rw [ofDocument_of_longInteger h]
        cases fault with
        | noTable T => simp [Interrupts, h]
        | longInteger others =>
          simp only [Interrupts, Except.error.injEq, Fault.longInteger.injEq, Option.some.injEq,
            exists_eq_left', h, Toml.Fault.longInteger.injEq]
          exact ⟨fun heq => ⟨heq, heq ▸ hdigits⟩, fun heq => heq.1⟩

theorem eq_of_ofDocument_eq_ok {document : Option String} {v : Toml.Value}
    (h : ofDocument document = .ok v) : v = (provided document).getD unknown := by
  cases document with
  | none => exact (Except.ok.inj h).symm
  | some text =>
    cases hread : Toml.document text with
    | error read =>
      have hprovided : provided (some text) = none := by simp [provided, hread, Except.toOption]
      rw [hprovided, Option.getD_none]
      cases read with
      | malformed =>
        rw [ofDocument_of_malformed hread] at h
        exact (Except.ok.inj h).symm
      | longInteger digits =>
        rw [ofDocument_of_longInteger hread] at h
        cases h
    | ok entries =>
      rw [ofDocument_of_ok hread] at h
      simp only [ofEntries] at h
      simp only [provided, hread, Except.toOption, Option.bind_eq_bind, Option.bind_some]
      split at h
      next hproject =>
        rw [hproject]
        exact (Except.ok.inj h).symm
      next project hproject =>
        rw [hproject]
        exact (Except.ok.inj h).symm
      next => cases h

/-- **Every ending of a search.** It breaks off at the documents that interrupt it and at no others, and
ends otherwise in what the document provides or in an unknown version, always as a development version. -/
theorem find_not_installed (document : Option String) :
    (∀ fault, find none document = .error fault ↔ Interrupts document fault) ∧
      ∀ version, find none document = .ok version ↔
        version = ⟨(provided document).getD unknown, true⟩ ∧
          ∀ fault, ¬Interrupts document fault := by
  rw [find_none]
  simp only [← ofDocument_eq_error_iff]
  cases h : ofDocument document with
  | error fault => simp [Except.map]
  | ok v => simp [Except.map, ← eq_of_ofDocument_eq_ok h, eq_comm]

/-- A number under the name of the project table. -/
theorem find_of_number : find none (some "project = 1\n") = .error (.noTable "int") := by
  cbv

end SizeHeader.Version
