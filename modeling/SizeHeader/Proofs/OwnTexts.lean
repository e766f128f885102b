import SizeHeader.Message.Internal
import SizeHeader.Proofs.CatalogText

/-!
# The texts of this program

A text in pieces is a row of literal parts and plain fields. It is filled piece by piece, and the
messages of this program are all such texts.
-/

namespace SizeHeader

/-- A part of a text: characters that stand for themselves, or the argument with a key. -/
inductive Piece where
  | characters (s : String)
  | argument (key : String)

namespace Piece

def written : Piece → List Char
  | characters s => Template.doubled s.toList
  | argument key => '{' :: (key.toList ++ ['}'])

/-- What a piece comes to, which for an argument may be a fault. -/
def value (args : Arguments) : Piece → Except TemplateFault String
  | characters s => .ok s
  | argument key => args.shown key

def Plain : Piece → Prop
  | characters _ => True
  | argument key => PlainKey key.toList

instance (p : Piece) : Decidable p.Plain :=
  match p with
  | characters _ => .isTrue trivial
  | argument key => inferInstanceAs (Decidable (PlainKey key.toList))

theorem ofChars_written_argument {key : String} (hkey : PlainKey key.toList) (r : List Char) :
    Template.ofChars ((argument key).written ++ r) =
      .field ⟨key.toList, none, []⟩ (Template.ofChars r) := by
  have hchars : (argument key).written ++ r = '{' :: (key.toList ++ '}' :: r) := by
    simp [written]
  rw [hchars, Template.ofChars_plainField hkey]

theorem fill_written_append {args : Arguments} {p : Piece} (hp : p.Plain) (r : List Char) :
    (Template.ofChars (p.written ++ r)).fill args =
      (p.value args).bind fun s => ((Template.ofChars r).fill args).map (s.toList ++ ·) := by
  cases p with
  | characters s =>
      rw [written, Template.ofChars_doubled_append, Template.fill, Template.fillWith_foldr_literal,
        Template.fill]
      rfl
  | argument key =>
      rw [ofChars_written_argument hp, Template.fill_plainField hp, String.ofList_toList]
      rfl

theorem mapM_value_cons_eq_ok_iff {args : Arguments} {p : Piece} {ps : List Piece}
    {values : List String} :
    (p :: ps).mapM (value args) = .ok values ↔
      ∃ s rest, p.value args = .ok s ∧ ps.mapM (value args) = .ok rest ∧ values = s :: rest := by
  rw [List.mapM_cons]
  cases p.value args <;> cases ps.mapM (value args) <;>
    simp [bind, Except.bind, pure, Except.pure, eq_comm]

/-- A text in plain pieces is filled piece by piece, so of their faults the leftmost is reported. -/
theorem fill_written (args : Arguments) {ps : List Piece} (hps : ∀ p ∈ ps, p.Plain) :
    (Template.ofChars (ps.flatMap written)).fill args =
      (ps.mapM (Piece.value args)).map fun values => (String.join values).toList := by
  induction ps with
  | nil => rfl
  | cons p ps ih =>
      rw [List.forall_mem_cons] at hps
      rw [List.flatMap_cons, fill_written_append hps.1, ih hps.2, List.mapM_cons]
      cases p.value args with
      | error fault => rfl
      | ok s =>
          cases ps.mapM (Piece.value args) with
          | error fault => rfl
          | ok values =>
              simp [Except.map, Except.bind, bind, pure, Except.pure, String.join_cons]

end Piece

namespace Catalog

section Pieces

variable {c : Catalog} {code : String} {args : Arguments} {ps : List Piece}

theorem format_pieces_eq (hps : ∀ p ∈ ps, p.Plain)
    (htext : c.text? code = some (.ofList (ps.flatMap Piece.written)))
    (hargs : "code" ∉ args.map (·.1)) :
    c.format code args =
      ((ps.mapM (Piece.value args)).map String.join).mapError
        (.ofTemplate code (.ofList (ps.flatMap Piece.written))) := by
  rw [format_of_text? htext hargs, String.toList_ofList, Piece.fill_written args hps]
  cases ps.mapM (Piece.value args) <;> simp [Except.map, Except.mapError, -String.toList_join]

theorem format_pieces (ps : List Piece) (values : List String)
    (htext : c.text? code = some (.ofList (ps.flatMap Piece.written)))
    (hargs : "code" ∉ args.map (·.1)) (hps : ∀ p ∈ ps, p.Plain)
    (hvalues : ps.mapM (Piece.value args) = .ok values) :
    c.format code args = .ok (String.join values) := by
  rw [format_pieces_eq hps htext hargs, hvalues]
  rfl

end Pieces

theorem format_missingFilename :
    builtin.format "SD0001" [] = .ok "no filename supplied" := by
  decide

theorem format_generating (path : String) :
    builtin.format "SD0100" [("path", .text path)] = .ok ("Generating file: " ++ path) := by
  have hformat : builtin.format "SD0100" [("path", .text path)] = _ :=
    format_pieces [.characters "Generating file: ", .argument "path"] ["Generating file: ", path]
      rfl (by simp) (by decide) rfl
  simpa using hformat

/-- A text that tells of something in quotes and ends in a reason. -/
theorem format_withReason {c : Catalog} {code : String} (lead key value reason : String)
    (htext : c.text? code = some (.ofList
      ([.characters lead, .argument key, .characters "': ", .argument "reason"].flatMap
        Piece.written)))
    (hkey : PlainKey key.toList) (hcode : key ≠ "code") (hreason : key ≠ "reason") :
    c.format code [(key, .text value), ("reason", .text reason)] =
      .ok (lead ++ value ++ "': " ++ reason) := by
  have hreasonKey : PlainKey "reason".toList := by decide
  have hplain : ∀ p ∈ [Piece.characters lead, .argument key, .characters "': ", .argument "reason"],
      p.Plain := by
    intro p hp
    simp only [List.mem_cons, List.not_mem_nil, or_false] at hp
    rcases hp with rfl | rfl | rfl | rfl
    exacts [trivial, hkey, trivial, hreasonKey]
  have hbeq : ("reason" == key) = false := beq_eq_false_iff_ne.mpr (Ne.symm hreason)
  have hvalues : [Piece.characters lead, .argument key, .characters "': ", .argument "reason"].mapM
      (Piece.value [(key, .text value), ("reason", .text reason)]) =
        .ok [lead, value, "': ", reason] := by
    have hshown : Arguments.shown [(key, .text value), ("reason", .text reason)] key = .ok value :=
      Arguments.shown_of_plain? List.lookup_cons_self rfl
    have hreasonShown : Arguments.shown [(key, .text value), ("reason", .text reason)] "reason" =
        .ok reason :=
      Arguments.shown_of_plain? (a := .text reason) (by simp [List.lookup_cons, hbeq]) rfl
    simp [Piece.value, hshown, hreasonShown, bind, Except.bind, pure, Except.pure]
  have hformat : c.format code [(key, .text value), ("reason", .text reason)] = _ :=
    format_pieces _ [lead, value, "': ", reason] htext (by simp [Ne.symm hcode]) hplain
      hvalues
  simpa [String.append_assoc] using hformat

theorem format_cannotOpen (path reason : String) :
    builtin.format "SD0002" [("path", .text path), ("reason", .text reason)] =
      .ok ("can't open file '" ++ path ++ "': " ++ reason) :=
  format_withReason "can't open file '" "path" path reason rfl (by decide) (by decide) (by decide)

theorem format_cannotWrite (path reason : String) :
    builtin.format "SD0003" [("path", .text path), ("reason", .text reason)] =
      .ok ("can't write file '" ++ path ++ "': " ++ reason) :=
  format_withReason "can't write file '" "path" path reason rfl (by decide) (by decide) (by decide)

theorem format_cannotSize (name reason : String) :
    builtin.format "IE0002" [("name", .text name), ("reason", .text reason)] =
      .ok ("cannot determine size of '" ++ name ++ "': " ++ reason) :=
  format_withReason "cannot determine size of '" "name" name reason rfl (by decide) (by decide)
    (by decide)

theorem internalError_cannotSize (name reason : String) :
    builtin.internalError "IE0002" [("name", .text name), ("reason", .text reason)] =
      .told "IE0002" ("cannot determine size of '" ++ name ++ "': " ++ reason) := by
  have hcheck : Operation.internal.check [("name", .text name), ("reason", .text reason)] =
      .ok () := by
    rw [Operation.check_eq_ok_iff]
    simp [Operation.reserved]
  simp [internalError, hcheck, format_cannotSize, SeqRight.seqRight, Except.bind]

end Catalog

end SizeHeader
