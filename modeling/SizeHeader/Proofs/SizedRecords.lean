import Mathlib
import SizeHeader.Proofs.ExactSize

/-!
# Records that can be sized

A type is valid when no part of it is refused, however deep the part stands and however often. That is
decided before anything is computed. So a record ends in one of three ways: a part of it is refused, or
none is but its size is no positive signed word, or it has an entry. A list of records ends as the first
of them does that has no entry.
-/

namespace SizeHeader

namespace DataType

/-- The type `part` is the other type itself or stands somewhere within it. -/
inductive Occurs (part : DataType) : DataType → Prop where
  | here : Occurs part part
  | element {count : Int} {element : DataType} (h : Occurs part element) :
      Occurs part (.array count element)
  | member {members : List DataType} {packed : Bool} {t : DataType} (hmem : t ∈ members)
      (h : Occurs part t) : Occurs part (.struct members packed)

/-- Types that nothing may be made of. -/
def Refused : DataType → Prop
  | integer width => width = 0 ∨ 8388608 < width
  | float _ => False
  | pointer space => space < 0 ∨ 16777216 ≤ space
  | void => True
  | label => True
  | array count _ => count < 0 ∨ 2 ^ 64 ≤ count
  | struct _ _ => False

theorem integer_valid_iff {width : Nat} : (integer width).Valid ↔ ¬(integer width).Refused := by
  simp only [Valid, Refused, maxIntegerWidth]
  omega

theorem pointer_valid_iff {space : Int} : (pointer space).Valid ↔ ¬(pointer space).Refused := by
  simp only [Valid, Refused, addressSpaces]
  omega

theorem array_valid_iff {count : Int} {element : DataType} :
    (array count element).Valid ↔ ¬(array count element).Refused ∧ element.Valid := by
  have hsize : ((UInt64.size : Nat) : Int) = 2 ^ 64 := rfl
  simp only [Valid, Refused, hsize]
  refine and_congr_left fun _ => ?_
  omega

theorem allValid_iff {members : List DataType} : AllValid members ↔ ∀ t ∈ members, t.Valid := by
  induction members with
  | nil => simp [AllValid]
  | cons t rest ih => simp [AllValid, ih]

theorem Refused.not_valid {t : DataType} (h : t.Refused) : ¬t.Valid := by
  intro hvalid
  cases t with
  | integer width => exact integer_valid_iff.mp hvalid h
  | float format => exact h
  | pointer space => exact pointer_valid_iff.mp hvalid h
  | void => exact hvalid
  | label => exact hvalid
  | array count element => exact (array_valid_iff.mp hvalid).1 h
  | struct members packed => exact h

theorem Occurs.valid {part t : DataType} (h : part.Occurs t) (ht : t.Valid) : part.Valid := by
  induction h with
  | here => exact ht
  | element h ih => exact ih (array_valid_iff.mp ht).2
  | member hmem h ih => exact ih (allValid_iff.mp ht _ hmem)

mutual

theorem exists_refused : ∀ t : DataType, ¬t.Valid → ∃ part : DataType, part.Occurs t ∧ part.Refused
  | integer width, h => ⟨.integer width, .here, not_not.mp (mt integer_valid_iff.mpr h)⟩
  | float _, h => absurd trivial h
  | pointer space, h => ⟨.pointer space, .here, not_not.mp (mt pointer_valid_iff.mpr h)⟩
  | void, _ => ⟨.void, .here, trivial⟩
  | label, _ => ⟨.label, .here, trivial⟩
  | array count element, h => by
      by_cases hcount : (array count element).Refused
      · exact ⟨.array count element, .here, hcount⟩
      · have helement : ¬element.Valid := fun hvalid => h (array_valid_iff.mpr ⟨hcount, hvalid⟩)
        obtain ⟨part, hpart, hrefused⟩ := exists_refused element helement
        exact ⟨part, .element hpart, hrefused⟩
  | struct members packed, h => by
      obtain ⟨t, hmem, part, hpart, hrefused⟩ := exists_refused_member members h
      exact ⟨part, .member hmem hpart, hrefused⟩

theorem exists_refused_member : ∀ members : List DataType, ¬AllValid members →
    ∃ t ∈ members, ∃ part : DataType, part.Occurs t ∧ part.Refused
  | [], h => absurd trivial h
  | t :: rest, h => by
      by_cases ht : t.Valid
      · have hrest : ¬AllValid rest := fun hvalid => h ⟨ht, hvalid⟩
        obtain ⟨s, hmem, hpart⟩ := exists_refused_member rest hrest
        exact ⟨s, List.mem_cons_of_mem t hmem, hpart⟩
      · exact ⟨t, List.mem_cons_self, exists_refused t ht⟩

end

theorem not_valid_iff {t : DataType} :
    ¬t.Valid ↔ ∃ part : DataType, part.Occurs t ∧ part.Refused := by
  constructor
  · exact exists_refused t
  · rintro ⟨part, hpart, hrefused⟩ hvalid
    exact hrefused.not_valid (hpart.valid hvalid)

end DataType

namespace Record

/-! ### One record -/

/-- What is told of a record that has no size. -/
def unsized (r : Record) (reason : String) : InternalError :=
  .told "IE0002" ("cannot determine size of '" ++ r.name ++ "': " ++ reason)

theorem unsized_inj {r : Record} {reason other : String} :
    r.unsized reason = r.unsized other ↔ reason = other := by
  simp [unsized]

theorem not_positive_ne_invalid (size : Int) :
    SizeFault.message (.notPositive size) ≠ SizeFault.message .invalidType := by
  intro h
  have hhead := congrArg (·.toList.head?) h
  simp [SizeFault.message] at hhead

theorem entry_of_not_valid {r : Record} (layout : DataLayout) (h : ¬r.dataType.Valid) :
    r.entry layout = .error (r.unsized (SizeFault.message .invalidType)) := by
  have hsize : r.size layout = .error .invalidType := by rw [size, if_neg h]
  exact entry_eq_of_size_error hsize

theorem entry_of_not_positive {layout : DataLayout} {r : Record} (hvalid : r.dataType.Valid)
    (h : ¬0 < r.signedSize layout) :
    r.entry layout = .error (r.unsized (SizeFault.message (.notPositive (r.signedSize layout)))) := by
  have hsize : r.size layout = .error (.notPositive (r.signedSize layout)) := by
    rw [size, if_pos hvalid, if_neg h]
  exact entry_eq_of_size_error hsize

theorem entry_of_positive {layout : DataLayout} {r : Record} (hvalid : r.dataType.Valid)
    (h : 0 < r.signedSize layout) : r.entry layout = .ok ⟨r.name, r.signedSize layout⟩ := by
  have hsize : r.size layout = .ok (r.signedSize layout) := by
    rw [size, if_pos hvalid, if_pos h]
  exact entry_eq_of_size_ok hsize

theorem entry_eq_invalid_iff {layout : DataLayout} {r : Record} :
    r.entry layout = .error (r.unsized (SizeFault.message .invalidType)) ↔ ¬r.dataType.Valid := by
  constructor
  · intro h hvalid
    by_cases hpos : 0 < r.signedSize layout
    · rw [entry_of_positive hvalid hpos] at h
      cases h
    · rw [entry_of_not_positive hvalid hpos] at h
      exact not_positive_ne_invalid _ (unsized_inj.mp (Except.error.inj h))
  · exact entry_of_not_valid layout

theorem entry_eq_not_positive_iff {layout : DataLayout} {r : Record} :
    r.entry layout = .error (r.unsized (SizeFault.message (.notPositive (r.signedSize layout)))) ↔
      r.dataType.Valid ∧ r.signedSize layout ≤ 0 := by
  constructor
  · intro h
    by_cases hvalid : r.dataType.Valid
    · refine ⟨hvalid, not_lt.mp fun hpos => ?_⟩
      rw [entry_of_positive hvalid hpos] at h
      cases h
    · rw [entry_of_not_valid layout hvalid] at h
      exact absurd (unsized_inj.mp (Except.error.inj h)).symm (not_positive_ne_invalid _)
  · rintro ⟨hvalid, hle⟩
    exact entry_of_not_positive hvalid (not_lt.mpr hle)

theorem entry_eq_ok_iff {layout : DataLayout} {r : Record} {e : SizeEntry} :
    r.entry layout = .ok e ↔
      (r.dataType.Valid ∧ 0 < r.signedSize layout) ∧ e = ⟨r.name, r.signedSize layout⟩ := by
  constructor
  · intro h
    by_cases hvalid : r.dataType.Valid
    · by_cases hpos : 0 < r.signedSize layout
      · rw [entry_of_positive hvalid hpos] at h
        exact ⟨⟨hvalid, hpos⟩, (Except.ok.inj h).symm⟩
      · rw [entry_of_not_positive hvalid hpos] at h
        cases h
    · rw [entry_of_not_valid layout hvalid] at h
      cases h
  · rintro ⟨⟨hvalid, hpos⟩, rfl⟩
    exact entry_of_positive hvalid hpos

/-! ### Lists of records -/

theorem entries_nil (layout : DataLayout) : entries layout [] = .ok [] := rfl

theorem entries_cons_of_error {layout : DataLayout} {r : Record} {e : InternalError}
    (h : r.entry layout = .error e) (rest : List Record) : entries layout (r :: rest) = .error e := by
  rw [entries, List.mapM_cons, h]
  rfl

theorem entries_cons_of_ok {layout : DataLayout} {r : Record} {e : SizeEntry}
    (h : r.entry layout = .ok e) (rest : List Record) :
    entries layout (r :: rest) = (entries layout rest).map (e :: ·) := by
  rw [entries, List.mapM_cons, h, entries]
  cases rest.mapM (entry layout) <;> rfl

/-- Entries come out in the order of the records, and only if each record has one. -/
theorem entries_eq_ok_iff {layout : DataLayout} {records : List Record} {es : List SizeEntry} :
    entries layout records = .ok es ↔
      (∀ r ∈ records, ∃ e, r.entry layout = .ok e) ∧
        es = records.map fun r => ⟨r.name, r.signedSize layout⟩ := by
  induction records generalizing es with
  | nil =>
    rw [entries_nil]
    constructor
    · rintro ⟨⟩
      exact ⟨by simp, rfl⟩
    · rintro ⟨-, rfl⟩
      rfl
  | cons r rest ih =>
    cases hentry : r.entry layout with
    | error e => simp [entries_cons_of_error hentry, hentry]
    | ok e =>
      obtain ⟨-, rfl⟩ := entry_eq_ok_iff.mp hentry
      rw [entries_cons_of_ok hentry]
      simp only [List.forall_mem_cons, List.map_cons, hentry, Except.ok.injEq, exists_eq', true_and]
      constructor
      · intro h
        cases htail : entries layout rest with
        | error e => simp [htail, Except.map] at h
        | ok tail =>
          obtain ⟨hall, rfl⟩ := ih.mp htail
          rw [htail] at h
          exact ⟨hall, (Except.ok.inj h).symm⟩
      · rintro ⟨hall, rfl⟩
        rw [ih.mpr ⟨hall, rfl⟩]
        rfl

/-- The error of a list is that of the first record without an entry, whatever stands behind it. -/
theorem entries_eq_error_iff {layout : DataLayout} {records : List Record} {e : InternalError} :
    entries layout records = .error e ↔
      ∃ front r rest, records = front ++ r :: rest ∧ (∀ q ∈ front, ∃ entry, q.entry layout = .ok entry) ∧
        r.entry layout = .error e := by
  constructor
  · intro h
    induction records with
    | nil => cases h
    | cons r rest ih =>
      cases hentry : r.entry layout with
      | error fault =>
        rw [entries_cons_of_error hentry] at h
        obtain rfl := Except.error.inj h
        exact ⟨[], r, rest, rfl, by simp, hentry⟩
      | ok entry =>
        rw [entries_cons_of_ok hentry] at h
        cases htail : entries layout rest with
        | ok tail => simp [htail, Except.map] at h
        | error fault =>
          rw [htail] at h
          obtain rfl := Except.error.inj h
          obtain ⟨front, q, rest, rfl, hfront, hq⟩ := ih htail
          exact ⟨r :: front, q, rest, rfl, List.forall_mem_cons.mpr ⟨⟨entry, hentry⟩, hfront⟩, hq⟩
  · rintro ⟨front, r, rest, rfl, hfront, hr⟩
    induction front with
    | nil => exact entries_cons_of_error hr rest
    | cons q front ih =>
      obtain ⟨⟨entry, hq⟩, hfront⟩ := List.forall_mem_cons.mp hfront
      rw [List.cons_append, entries_cons_of_ok hq, ih hfront]
      rfl

/-- **Which records have entries.** A list of records has entries if each of them has one, and then
they are those of the records, in order; otherwise the first record without an entry gives the error.
A record has none if a part of it is refused, whatever its size would be, or if its size, which is the
exact one modulo `2 ^ 64` and signed, is not positive. The error names the record as it is. -/
theorem entries_outcome (layout : DataLayout) :
    (∀ records : List Record,
      ((∃ es, entries layout records = .ok es) ↔ ∀ r ∈ records, ∃ e, r.entry layout = .ok e) ∧
      (∀ es, entries layout records = .ok es →
        records.map (·.entry layout) = es.map .ok ∧ es.map (·.name) = records.map (·.name)) ∧
      ∀ e, entries layout records = .error e ↔
        ∃ front r rest, records = front ++ r :: rest ∧
          (∀ q ∈ front, ∃ entry, q.entry layout = .ok entry) ∧ r.entry layout = .error e) ∧
    ∀ r : Record,
      let size : Int := signed (r.dataType.exactAllocSize layout % 2 ^ 64)
      let refused : Prop := ∃ part : DataType, part.Occurs r.dataType ∧ part.Refused
      let failure (reason : String) : Except InternalError SizeEntry :=
        .error (.told "IE0002" ("cannot determine size of '" ++ r.name ++ "': " ++ reason))
      (r.entry layout = failure "LLVM IR parsing error" ↔ refused) ∧
      (r.entry layout = failure ("size " ++ size.repr ++ " is not positive") ↔ ¬refused ∧ size ≤ 0) ∧
      (r.entry layout = .ok ⟨r.name, size⟩ ↔ ¬refused ∧ 0 < size) := by
  refine ⟨fun records => ⟨?_, ?_, fun e => entries_eq_error_iff⟩, ?_⟩
  · constructor
    · rintro ⟨es, hes⟩
      exact (entries_eq_ok_iff.mp hes).1
    · intro hall
      exact ⟨_, entries_eq_ok_iff.mpr ⟨hall, rfl⟩⟩
  · intro es hes
    obtain ⟨hall, rfl⟩ := entries_eq_ok_iff.mp hes
    refine ⟨?_, by simp⟩
    rw [List.map_map]
    refine List.map_congr_left fun r hr => ?_
    obtain ⟨e, he⟩ := hall r hr
    exact he.trans (congrArg Except.ok (entry_eq_ok_iff.mp he).2)
  · intro r size refused failure
    have hsize : r.signedSize layout = size := r.signedSize_eq_signed layout
    have hvalid : r.dataType.Valid ↔ ¬refused := not_iff_comm.mp DataType.not_valid_iff |>.symm
    have hinvalid := @entry_eq_invalid_iff layout r
    have hnotPositive := @entry_eq_not_positive_iff layout r
    have hok := @entry_eq_ok_iff layout r ⟨r.name, size⟩
    rw [hsize] at hnotPositive hok
    refine ⟨?_, ?_, ?_⟩
    · exact hinvalid.trans DataType.not_valid_iff
    · exact hnotPositive.trans (and_congr_left' hvalid)
    · simpa [hvalid] using hok

/-- No part of this record is `void` or a label, an integer or an array out of bounds, and yet one is
refused: the pointer leads beyond the last address space. -/
theorem entry_far_pointer :
    let r : Record := ⟨"W", [("f0", .integer 8), ("f1", .pointer 16777216)]⟩
    (∀ part : DataType, part.Occurs r.dataType →
      part ≠ .void ∧ part ≠ .label ∧
        (∀ width, part = .integer width → ¬(width = 0 ∨ 8388608 < width)) ∧
        ∀ count element, part = .array count element → ¬(count < 0 ∨ 2 ^ 64 ≤ count)) ∧
    r.entry {} = .error (.told "IE0002" "cannot determine size of 'W': LLVM IR parsing error") := by
  intro r
  refine ⟨?_, entry_of_not_valid {} (by decide)⟩
  intro part hpart
  cases hpart with
  | here => simp [dataType]
  | member hmem h =>
    simp only [r, List.map_cons, List.map_nil, List.mem_cons, List.not_mem_nil, or_false] at hmem
    rcases hmem with rfl | rfl <;> cases h <;> simp

end Record

end SizeHeader
