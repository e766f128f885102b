import Mathlib
import SizeHeader.Proofs.DefinitionLines
import SizeHeader.Proofs.OpenedFile
import SizeHeader.Proofs.RunSteps

/-!
# Written files

The file of the definitions is opened, which empties it, and then its text is made, encoded and written.
So a text that cannot be made or encoded leaves the file empty, whatever it held before, and one that can
be leaves its bytes alone. Faults of opening and of writing are told as fatal errors. The three others, a
NUL in the path, a size with too many digits and a character without a byte, are not: they leave the run
as they are.
-/

namespace SizeHeader

open FileService (openForWriting write)
open FileView (node file LeadsTo)

namespace Text.Latin1

/-- Latin-1 covers a text if every character of it has a byte. -/
def Covers (text : String) : Prop := ∀ c ∈ text.toList, c.toNat ≤ 0xff

instance : DecidablePred Covers := fun text =>
  inferInstanceAs (Decidable (∀ c ∈ text.toList, c.toNat ≤ 0xff))

theorem dropWhile_eq_nil_iff_covers {text : String} :
    text.toList.dropWhile encodable = [] ↔ Covers text := by
  rw [List.dropWhile_eq_nil_iff, Covers]
  refine forall₂_congr fun c _ => ?_
  rw [encodable, decide_eq_true_iff]
  omega

theorem encode_of_covers {text : String} (h : Covers text) :
    encode text = .ok (text.toList.map byte) := by
  rw [encode, encodeChars, dropWhile_eq_nil_iff_covers.mpr h]

theorem encode_of_not_covers {text : String} (h : ¬Covers text) :
    ∃ e, encode text = .error e := by
  rw [encode, encodeChars]
  cases hdrop : text.toList.dropWhile encodable with
  | nil => exact absurd (dropWhile_eq_nil_iff_covers.mp hdrop) h
  | cons c rest => exact ⟨_, rfl⟩

/-- Bytes are code points. -/
theorem map_toNat_byte {text : String} (h : Covers text) :
    (text.toList.map byte).map (·.toNat) = text.toList.map (·.toNat) := by
  rw [List.map_map]
  refine List.map_congr_left fun c hc => ?_
  have hlt : c.toNat < 2 ^ 8 := Nat.lt_succ_of_le (h c hc)
  exact UInt8.toNat_ofNat_of_lt' hlt

end Text.Latin1

open Text.Latin1 (Covers)

/-! ### Contents -/

theorem encodeDefinitions_of_covers {text : String} (h : Covers text) :
    encodeDefinitions (some text) = .ok (text.toList.map Text.Latin1.byte) := by
  rw [encodeDefinitions, Text.Latin1.encode_of_covers h]
  rfl

theorem encodeDefinitions_of_not_covers {text : String} (h : ¬Covers text) :
    ∃ e, encodeDefinitions (some text) = .error (.unencodable e) := by
  obtain ⟨e, he⟩ := Text.Latin1.encode_of_not_covers h
  exact ⟨e, by rw [encodeDefinitions, he]; rfl⟩

/-- A content can be had exactly of a text in Latin-1. -/
theorem encodeDefinitions_cases (text? : Option String) :
    (text? = none ∧ encodeDefinitions text? = .error .longInteger) ∨
      (∃ text e, text? = some text ∧ ¬Covers text ∧
        encodeDefinitions text? = .error (.unencodable e)) ∨
      ∃ text, text? = some text ∧ Covers text ∧
        encodeDefinitions text? = .ok (text.toList.map Text.Latin1.byte) := by
  cases text? with
  | none => exact .inl ⟨rfl, rfl⟩
  | some text =>
    by_cases htext : Covers text
    · exact .inr (.inr ⟨text, rfl, htext, encodeDefinitions_of_covers htext⟩)
    · obtain ⟨e, he⟩ := encodeDefinitions_of_not_covers htext
      exact .inr (.inl ⟨text, e, rfl, htext, he⟩)

/-- What there is to write of a content: its bytes, or nothing if it could not be had. -/
def payload (content : Except OutputFault (List UInt8)) : List UInt8 := content.toOption.getD []

@[simp]
theorem payload_error (fault : OutputFault) : payload (.error fault) = [] := rfl

@[simp]
theorem payload_ok (bytes : List UInt8) : payload (.ok bytes) = bytes := rfl

namespace FileService

variable {σ : Type} [FileService σ]

/-- The ways in which the writing of a content can end, with the files it leaves. -/
inductive Writes (files : σ) (path : String) (content : Except OutputFault (List UInt8)) :
    Except OutputFault Unit × σ → Prop where
  | nul (hnul : '\x00' ∈ path.toList) : Writes files path content (.error .nulInPath, files)
  | closed {e : OsError} (hnul : '\x00' ∉ path.toList) (hopen : openForWriting files path = .error e) :
      Writes files path content (.error (.opening e.reason), files)
  | refused {e : OsError} {handle : Handle σ} {opened left : σ} (hnul : '\x00' ∉ path.toList)
      (hopen : openForWriting files path = .ok (handle, opened))
      (hwrite : write opened handle (payload content) = (.error e, left)) :
      Writes files path content (.error (.writing e.reason), left)
  /-- Once the payload is written, the content decides how the writing ends. -/
  | ended {handle : Handle σ} {opened left : σ} (hnul : '\x00' ∉ path.toList)
      (hopen : openForWriting files path = .ok (handle, opened))
      (hwrite : write opened handle (payload content) = (.ok (), left)) :
      Writes files path content (content.map fun _ => (), left)

theorem writes_writeContent (files : σ) (path : String) (content : Except OutputFault (List UInt8)) :
    Writes files path content (writeContent files path content) := by
  unfold writeContent
  by_cases hnul : '\x00' ∈ path.toList
  · rw [if_pos hnul]
    exact .nul hnul
  rw [if_neg hnul]
  cases hopen : openForWriting files path with
  | error e => exact .closed hnul hopen
  | ok result =>
    obtain ⟨handle, opened⟩ := result
    -- Either way one list of bytes is written, which is the payload of the content.
    cases content with
    | error fault =>
      have hpayload : payload (.error fault) = [] := rfl
      dsimp only
      rw [← hpayload]
      rcases hwrite : write opened handle (payload (.error fault)) with ⟨e | ⟨⟩, left⟩
      · exact .refused hnul hopen hwrite
      · exact .ended hnul hopen hwrite
    | ok bytes =>
      have hpayload : payload (.ok bytes) = bytes := rfl
      dsimp only
      rw [← hpayload]
      rcases hwrite : write opened handle (payload (.ok bytes)) with ⟨e | ⟨⟩, left⟩
      · exact .refused hnul hopen hwrite
      · exact .ended hnul hopen hwrite

section Ending

variable {files opened : σ} {path : String} {content : Except OutputFault (List UInt8)}
  {handle : Handle σ} {result : Except OutputFault Unit × σ}

theorem Writes.of_closed (h : Writes files path content result)
    (hclosed : '\x00' ∈ path.toList ∨ ∃ e, openForWriting files path = .error e) :
    (∃ fault, result.1 = .error fault) ∧ result.2 = files := by
  cases h with
  | nul hnul => exact ⟨⟨_, rfl⟩, rfl⟩
  | closed hnul hopen => exact ⟨⟨_, rfl⟩, rfl⟩
  | _ hnul hopen =>
    rcases hclosed with hmem | ⟨e, he⟩
    · exact absurd hmem hnul
    · rw [hopen] at he
      cases he

/-- Once the file is open, writing the payload decides what is left. -/
theorem Writes.left_eq (h : Writes files path content result) (hnul : '\x00' ∉ path.toList)
    (hopen : openForWriting files path = .ok (handle, opened)) :
    result.2 = (write opened handle (payload content)).2 := by
  cases h with
  | nul hmem => exact absurd hmem hnul
  | closed _ hclosed => rw [hopen] at hclosed; cases hclosed
  | _ _ hother hwrite =>
    obtain ⟨rfl, rfl⟩ := Prod.mk.inj (Except.ok.inj (hopen.symm.trans hother))
    rw [hwrite]

theorem Writes.outcome_eq (h : Writes files path content result) (hnul : '\x00' ∉ path.toList)
    (hopen : openForWriting files path = .ok (handle, opened))
    (hwrite : (write opened handle (payload content)).1 = .ok ()) :
    result.1 = content.map fun _ => () := by
  cases h with
  | nul hmem => exact absurd hmem hnul
  | closed _ hclosed => rw [hopen] at hclosed; cases hclosed
  | refused _ hother hrefused =>
    obtain ⟨rfl, rfl⟩ := Prod.mk.inj (Except.ok.inj (hopen.symm.trans hother))
    rw [hrefused] at hwrite
    cases hwrite
  | ended => rfl

theorem Writes.leadsTo [FileView σ] (h : Writes files path content result)
    (hnul : '\x00' ∉ path.toList) (hopen : openForWriting files path = .ok (handle, opened)) :
    LeadsTo result.2 path handle := by
  rw [h.left_eq hnul hopen]
  exact FileView.leadsTo_write _ (FileView.leadsTo_open hopen)

theorem Writes.node_of_ne [FileView σ] (h : Writes files path content result)
    (hnul : '\x00' ∉ path.toList) (hopen : openForWriting files path = .ok (handle, opened))
    {other : Handle σ} (hne : other ≠ handle) : node result.2 other = node files other := by
  rw [h.left_eq hnul hopen, FileView.node_write_of_ne opened _ hne, FileView.node_open_of_ne hopen hne]

end Ending

end FileService

/-- A view of files that opening empties, except of those that keep nothing anyway. -/
class EmptyingView (σ : Type) [FileService σ] extends FileView σ where
  Keeps : σ → FileService.Handle σ → Prop
  node_open {files opened : σ} {path : String} {handle : FileService.Handle σ} :
    FileService.openForWriting files path = .ok (handle, opened) → Keeps files handle →
      node opened handle = file []

namespace FileSystem

theorem node?_open {fs opened : FileSystem} {path : String} {l : Location}
    (h : fs.openForWriting path = .ok (l, opened)) (hkeeps : ∀ d, fs.node? l ≠ some (.device d)) :
    opened.node? l = some (.file []) := by
  obtain ⟨-, hdir, ⟨-, d, hdevice⟩ | rfl⟩ := openForWriting_eq_ok h
  · exact absurd hdevice (hkeeps d)
  · have hl : l ≠ [] := by
      rintro rfl
      exact hdir rfl
    exact node?_set_self fs _ hl

/-- Devices keep nothing. -/
instance : EmptyingView FileSystem where
  Keeps fs l := ∀ d, fs.node? l ≠ some (.device d)
  node_open h hkeeps := node?_open (of_service_open h) hkeeps

end FileSystem

open EmptyingView (Keeps)

section Emptied

variable {σ : Type} [FileService σ] [EmptyingView σ] {files opened : σ} {path : String}
  {content : Except OutputFault (List UInt8)} {handle : FileService.Handle σ}
  {result : Except OutputFault Unit × σ}

/-- A file that keeps what is written to it holds the payload and nothing else. -/
theorem FileService.Writes.node_eq (h : Writes files path content result)
    (hnul : '\x00' ∉ path.toList) (hopen : openForWriting files path = .ok (handle, opened))
    (hkeeps : Keeps files handle) (hwrite : (write opened handle (payload content)).1 = .ok ()) :
    node result.2 handle = file (payload content) := by
  have hempty : node opened handle = file [] := EmptyingView.node_open hopen hkeeps
  have hpair : write opened handle (payload content) = (.ok (), result.2) :=
    Prod.ext hwrite (h.left_eq hnul hopen).symm
  have hnode := FileView.node_write hempty hpair
  rwa [List.nil_append] at hnode

theorem FileService.Writes.of_covers {text : String}
    (h : Writes files path (encodeDefinitions (some text)) result)
    (hnul : '\x00' ∉ path.toList) (hopen : openForWriting files path = .ok (handle, opened))
    (hkeeps : Keeps files handle) (htext : Covers text)
    (hwrite : (write opened handle (text.toList.map Text.Latin1.byte)).1 = .ok ()) :
    result.1 = .ok () ∧
      ∃ bytes, node result.2 handle = file bytes ∧
        bytes.map (·.toNat) = text.toList.map (·.toNat) := by
  rw [encodeDefinitions_of_covers htext] at h
  refine ⟨h.outcome_eq hnul hopen hwrite, _, h.node_eq hnul hopen hkeeps hwrite, ?_⟩
  exact Text.Latin1.map_toNat_byte htext

/-- A content that cannot be had ends the writing with its fault, and leaves the file empty. -/
theorem FileService.Writes.of_fault {fault : OutputFault}
    (h : Writes files path (.error fault) result) (hnul : '\x00' ∉ path.toList)
    (hopen : openForWriting files path = .ok (handle, opened)) (hkeeps : Keeps files handle)
    (hwrite : (write opened handle []).1 = .ok ()) :
    result.1 = .error fault ∧ node result.2 handle = file [] :=
  ⟨h.outcome_eq hnul hopen hwrite, h.node_eq hnul hopen hkeeps hwrite⟩

theorem FileService.Writes.of_ok {text? : Option String} {left : σ}
    (h : Writes files path (encodeDefinitions text?) (.ok (), left)) :
    ∃ (handle : FileService.Handle σ) (text : String), text? = some text ∧ LeadsTo left path handle ∧
      (Keeps files handle →
        ∃ bytes, node left handle = file bytes ∧
          bytes.map (·.toNat) = text.toList.map (·.toNat)) := by
  generalize houtcome : (Except.ok () : Except OutputFault Unit) = outcome at h
  cases h with
  | nul => cases houtcome
  | closed => cases houtcome
  | refused => cases houtcome
  | @ended handle opened _ hnul hopen hwrite =>
    have hended := Writes.ended hnul hopen hwrite
    rcases encodeDefinitions_cases text? with
      ⟨-, hcontent⟩ | ⟨_, _, -, -, hcontent⟩ | ⟨text, rfl, htext, hcontent⟩
    · rw [hcontent] at houtcome
      cases houtcome
    · rw [hcontent] at houtcome
      cases houtcome
    · refine ⟨handle, text, rfl, hended.leadsTo hnul hopen, fun hkeeps => ?_⟩
      rw [hcontent, payload_ok] at hwrite
      exact (hended.of_covers hnul hopen hkeeps htext (by rw [hwrite])).2

end Emptied

theorem FatalError.raised_outputFile {m : Message} {path reason text : String}
    (hformat : Catalog.builtin.format m.code [("path", .text path), ("reason", .text reason)] =
      .ok text) :
    FatalError.raised .outputFile m [("path", .text path), ("reason", .text reason)] =
      .fatal ⟨.outputFile, m, [("path", .text path), ("reason", .text reason)], text⟩ := by
  have hargs : Operation.fatal.check [("path", .text path), ("reason", .text reason)] = .ok () := by
    rw [Operation.check_eq_ok_iff]
    simp [Operation.reserved]
  exact FatalError.raised_of_format .outputFile hargs hformat

theorem OutputFault.raised_opening (path reason : String) :
    (OutputFault.opening reason).raised path =
      .fatal ⟨.outputFile, .cannotOpen, [("path", .text path), ("reason", .text reason)],
        "can't open file '" ++ path ++ "': " ++ reason⟩ := by
  rw [raised, FatalError.raised_outputFile (m := .cannotOpen) (Catalog.format_cannotOpen path reason)]

theorem OutputFault.raised_writing (path reason : String) :
    (OutputFault.writing reason).raised path =
      .fatal ⟨.outputFile, .cannotWrite, [("path", .text path), ("reason", .text reason)],
        "can't write file '" ++ path ++ "': " ++ reason⟩ := by
  rw [raised, FatalError.raised_outputFile (m := .cannotWrite) (Catalog.format_cannotWrite path reason)]

/-- A run that writes the definitions ends as the writing of their content does. -/
theorem Run.writes_writeDefinitions {σ : Type} [FileService σ] (path : String)
    (entries : List SizeEntry) (w : World σ) :
    ∃ result, FileService.Writes w.files path
        (encodeDefinitions (SizeEntry.definitions? entries defaultScope)) result ∧
      (writeDefinitions path entries).run w =
        (result.1.mapError (·.raised path), { w with files := result.2 }) :=
  ⟨_, FileService.writes_writeContent w.files path _, writeDefinitions_run path entries w⟩

/-- **What is in the files afterwards.** If the file cannot be opened nothing changes. If it can, no
other file changes, however the writing ends. A text in Latin-1 replaces what the file held, one byte
to a character; any other text is refused as a whole, and the file is there and empty. So it is where
there is no text, which is if a size has more than 4300 digits. -/
theorem writeDefinitions_leaves {σ : Type} [FileService σ] [EmptyingView σ] (path : String)
    (entries : List SizeEntry) (w : World σ) :
    let text? := SizeEntry.definitions? entries defaultScope
    let result := (Run.writeDefinitions path entries).run w
    let left := result.2.files
    (text? = none ↔ ∃ e ∈ entries, 4300 < Text.digitCount e.size) ∧
    ('\x00' ∈ path.toList ∨ (∃ e, openForWriting w.files path = .error e) →
      (∃ fault, result.1 = .error fault) ∧ left = w.files) ∧
    ∀ (handle : FileService.Handle σ) (opened : σ), '\x00' ∉ path.toList →
      openForWriting w.files path = .ok (handle, opened) →
        LeadsTo left path handle ∧
        (∀ other, other ≠ handle → node left other = node w.files other) ∧
        (Keeps w.files handle →
          (∀ text, text? = some text →
            ((∀ c ∈ text.toList, c.toNat ≤ 0xff) →
              (write opened handle (text.toList.map Text.Latin1.byte)).1 = .ok () →
                result.1 = .ok () ∧
                ∃ bytes, node left handle = file bytes ∧
                  bytes.map (·.toNat) = text.toList.map (·.toNat)) ∧
            ((∃ c ∈ text.toList, 0xff < c.toNat) → (write opened handle []).1 = .ok () →
              (∃ e, result.1 = .error (.unencodable e)) ∧ node left handle = file [])) ∧
          (text? = none → (write opened handle []).1 = .ok () →
            result.1 = .error .longInteger ∧ node left handle = file [])) := by
  intro text? result left
  obtain ⟨written, hwrites, hrun⟩ := Run.writes_writeDefinitions path entries w
  change FileService.Writes w.files path (encodeDefinitions text?) written at hwrites
  have houtcome : result.1 = written.1.mapError (·.raised path) := congrArg Prod.fst hrun
  have hleft : left = written.2 := congrArg (·.2.files) hrun
  rw [houtcome, hleft]
  refine ⟨SizeEntry.definitions?_eq_none_iff, ?_, ?_⟩
  · intro hclosed
    obtain ⟨⟨fault, hfault⟩, hfiles⟩ := hwrites.of_closed hclosed
    exact ⟨⟨fault.raised path, by rw [hfault]; rfl⟩, hfiles⟩
  · intro handle opened hnul hopen
    refine ⟨hwrites.leadsTo hnul hopen, fun other hne => hwrites.node_of_ne hnul hopen hne, ?_⟩
    intro hkeeps
    refine ⟨fun text hsome => ⟨?_, ?_⟩, ?_⟩
    · intro htext haccepts
      rw [hsome] at hwrites
      obtain ⟨hok, hbytes⟩ := hwrites.of_covers hnul hopen hkeeps htext haccepts
      exact ⟨by rw [hok]; rfl, hbytes⟩
    · rintro ⟨c, hc, hlt⟩ hcloses
      have htext : ¬Covers text := fun hall => absurd (hall c hc) (Nat.not_le.mpr hlt)
      obtain ⟨e, he⟩ := encodeDefinitions_of_not_covers htext
      rw [hsome, he] at hwrites
      obtain ⟨hfault, hempty⟩ := hwrites.of_fault hnul hopen hkeeps hcloses
      exact ⟨⟨e, by rw [hfault]; rfl⟩, hempty⟩
    · intro hnone hcloses
      rw [hnone] at hwrites
      obtain ⟨hfault, hempty⟩ := hwrites.of_fault hnul hopen hkeeps hcloses
      exact ⟨by rw [hfault]; rfl, hempty⟩

/-- A text with a character of its own byte takes the place of a longer one. One whose last name is
beyond Latin-1 leaves nothing of either, and neither does a size of 4301 digits. -/
theorem writeDefinitions_replaces_stale :
    let files : FileSystem :=
      ⟨[(["tmp"], .directory), (["tmp", "sizes.h"], .file (.replicate 30 115))], ["tmp"]⟩
    let written := (Run.writeDefinitions "sizes.h" [⟨"é", 8⟩]).run { files }
    let refused := (Run.writeDefinitions "sizes.h" [⟨"QPoint", 8⟩, ⟨"Ł", 8⟩]).run { files }
    let long := (Run.writeDefinitions "sizes.h" [⟨"A", 8⟩, ⟨"B", Text.powerOfTen 4300⟩]).run { files }
    (written.1 = .ok () ∧ ∃ bytes, written.2.files.node? ["tmp", "sizes.h"] = some (.file bytes) ∧
      bytes.map (·.toNat) = "#define QTCW_sizeof_é 8\n".toList.map (·.toNat)) ∧
    ((∃ e, refused.1 = .error (.unencodable e)) ∧
      refused.2.files.node? ["tmp", "sizes.h"] = some (.file [])) ∧
    long.1 = .error .longInteger ∧
      long.2.files.node? ["tmp", "sizes.h"] = some (.file []) := by
  intro files written refused long
  have hopen : FileService.openForWriting files "sizes.h" =
      .ok (["tmp", "sizes.h"], files.set ["tmp", "sizes.h"] (.file [])) := by
    have hfile : ∀ n, files.node? ["tmp", "sizes.h"] = some n → ∃ content, n = .file content := by
      intro n hn
      exact ⟨_, (Option.some.inj hn).symm⟩
    exact FileSystem.service_open
      (FileSystem.openForWriting_name ⟨by decide, by decide⟩ (by decide) (by decide) hfile)
  have hkeeps : Keeps files ["tmp", "sizes.h"] := by
    intro d hd
    cases hd
  have hnul : '\x00' ∉ "sizes.h".toList := by decide
  obtain ⟨-, -, hwritten⟩ :=
    (writeDefinitions_leaves "sizes.h" [⟨"é", 8⟩] { files }).2.2 _ _ hnul hopen
  obtain ⟨-, -, hrefused⟩ :=
    (writeDefinitions_leaves "sizes.h" [⟨"QPoint", 8⟩, ⟨"Ł", 8⟩] { files }).2.2 _ _ hnul hopen
  obtain ⟨hnone, -, hleft⟩ :=
    writeDefinitions_leaves "sizes.h" [⟨"A", 8⟩, ⟨"B", Text.powerOfTen 4300⟩] { files }
  obtain ⟨-, -, hlong⟩ := hleft _ _ hnul hopen
  have haccepts : ∀ bytes,
      (write (files.set ["tmp", "sizes.h"] (.file [])) ["tmp", "sizes.h"] bytes).1 = .ok () := by
    intro bytes
    rfl
  have hlatin : ∀ c ∈ "#define QTCW_sizeof_é 8\n".toList, c.toNat ≤ 0xff :=
    Text.Latin1.dropWhile_eq_nil_iff_covers.mp (by decide)
  have hbeyond : ∃ c ∈ "#define QTCW_sizeof_QPoint 8\n#define QTCW_sizeof_Ł 8\n".toList,
      0xff < c.toNat := ⟨'Ł', by decide, by decide⟩
  have hdigits : 4300 < Text.digitCount (Text.powerOfTen 4300) :=
    Text.lt_digitCount_powerOfTen (by decide)
  have hsize := hnone.mpr ⟨_, List.mem_cons_of_mem _ List.mem_cons_self, hdigits⟩
  exact ⟨((hwritten hkeeps).1 _ (by decide)).1 hlatin (haccepts _),
    ((hrefused hkeeps).1 _ (by decide)).2 hbeyond (haccepts _), (hlong hkeeps).2 hsize (haccepts _)⟩

/-- **Which faults are told.** A fatal error is one of the output file: `SD0002` exactly where the
file cannot be opened, and `SD0003` exactly where it was opened and not written. But a NUL in the path
ends the run without one, and so do a text beyond Latin-1 and a size of more than 4300 digits for a file
that can be opened and closed. -/
theorem writeDefinitions_faults {σ : Type} [FileService σ] (path : String) (entries : List SizeEntry)
    (w : World σ) :
    let text? := SizeEntry.definitions? entries defaultScope
    let outcome := ((Run.writeDefinitions path entries).run w).1
    let opens (handle : FileService.Handle σ) (opened : σ) : Prop :=
      '\x00' ∉ path.toList ∧ openForWriting w.files path = .ok (handle, opened)
    (∀ e, outcome = .error (.fatal e) → (e.kind = .outputFile ∧ e.exitCode = 2) ∧
      (e.message.code = "SD0002" ∨ e.message.code = "SD0003")) ∧
    ((∃ e, outcome = .error (.fatal e) ∧ e.message.code = "SD0002") ↔
      '\x00' ∉ path.toList ∧ ∃ e, openForWriting w.files path = .error e) ∧
    ((∃ e, outcome = .error (.fatal e) ∧ e.message.code = "SD0003") ↔
      ∃ handle opened e, opens handle opened ∧
        (write opened handle (payload (encodeDefinitions text?))).1 = .error e) ∧
    (outcome = .ok () ↔
      ∃ handle opened text, opens handle opened ∧ text? = some text ∧ Covers text ∧
        (write opened handle (text.toList.map Text.Latin1.byte)).1 = .ok ()) ∧
    (outcome = .error .nulInPath ↔ '\x00' ∈ path.toList) ∧
    ((∃ e, outcome = .error (.unencodable e)) ↔
      ∃ handle opened text, opens handle opened ∧ text? = some text ∧ ¬Covers text ∧
        (write opened handle []).1 = .ok ()) ∧
    (outcome = .error .longInteger ↔
      ∃ handle opened, opens handle opened ∧ (∃ e ∈ entries, 4300 < Text.digitCount e.size) ∧
        (write opened handle []).1 = .ok ()) := by
  intro text? outcome opens
  obtain ⟨written, hwrites, hrun⟩ := Run.writes_writeDefinitions path entries w
  change FileService.Writes w.files path (encodeDefinitions text?) written at hwrites
  have houtcome : outcome = written.1.mapError (·.raised path) := congrArg Prod.fst hrun
  have hlong : (∃ e ∈ entries, 4300 < Text.digitCount e.size) ↔ text? = none :=
    SizeEntry.definitions?_eq_none_iff.symm
  rw [houtcome, hlong]
  cases hwrites with
  | nul hnul => simp [Except.mapError, OutputFault.raised, opens, hnul]
  | closed hnul hopen =>
    simp [Except.mapError, OutputFault.raised_opening, opens, hnul, hopen, FatalError.exitCode,
      Message.cannotOpen]
  | refused hnul hopen hwrite =>
    rcases encodeDefinitions_cases text? with
      ⟨htext, hcontent⟩ | ⟨text, _, htext, hcovers, hcontent⟩ | ⟨text, htext, hcovers, hcontent⟩ <;>
    · rw [hcontent] at hwrite ⊢
      simp_all [Except.mapError, OutputFault.raised_writing, opens, FatalError.exitCode,
        Message.cannotWrite]
  | ended hnul hopen hwrite =>
    rcases encodeDefinitions_cases text? with
      ⟨htext, hcontent⟩ | ⟨text, _, htext, hcovers, hcontent⟩ | ⟨text, htext, hcovers, hcontent⟩ <;>
    · rw [hcontent] at hwrite ⊢
      simp_all [Except.mapError, Except.map, OutputFault.raised, opens]

/-- Neither a NUL in the path nor a name beyond Latin-1 nor a size of 4301 digits is told as a fatal
error. -/
theorem writeDefinitions_untold :
    let files : FileSystem := ⟨[(["tmp"], .directory)], ["tmp"]⟩
    ((Run.writeDefinitions "a\x00b" [⟨"QPoint", 8⟩]).run { files }).1 = .error .nulInPath ∧
      ((Run.writeDefinitions "sizes.h" [⟨"Ł", 8⟩]).run { files }).1 =
        .error (.unencodable ⟨'Ł', 20, 1⟩) ∧
      ((Run.writeDefinitions "sizes.h" [⟨"A", Text.powerOfTen 4300⟩]).run { files }).1 =
        .error .longInteger := by
  intro files
  have hopen : FileService.openForWriting files "sizes.h" =
      .ok (["tmp", "sizes.h"], files.set ["tmp", "sizes.h"] (.file [])) := by
    have hfree : ∀ n, files.node? ["tmp", "sizes.h"] = some n → ∃ content, n = .file content := by
      intro n hn
      cases hn
    exact FileSystem.service_open
      (FileSystem.openForWriting_name ⟨by decide, by decide⟩ (by decide) (by decide) hfree)
  have hunencodable : encodeDefinitions (SizeEntry.definitions? [⟨"Ł", 8⟩] defaultScope) =
      .error (.unencodable ⟨'Ł', 20, 1⟩) := by
    decide
  have hdigits : 4300 < Text.digitCount (Text.powerOfTen 4300) :=
    Text.lt_digitCount_powerOfTen (by decide)
  have hlong : SizeEntry.definitions? [⟨"A", Text.powerOfTen 4300⟩] defaultScope = none :=
    SizeEntry.definitions?_eq_none_iff.mpr ⟨_, List.mem_cons_self, hdigits⟩
  refine ⟨?_, ?_, ?_⟩
  · rw [Run.writeDefinitions_run, FileService.writeContent, if_pos (by decide)]
    rfl
  · rw [Run.writeDefinitions_run, FileService.writeContent, if_neg (by decide)]
    simp only [hopen, hunencodable]
    rfl
  · rw [Run.writeDefinitions_run, hlong, FileService.writeContent, if_neg (by decide)]
    simp only [hopen]
    rfl

end SizeHeader
