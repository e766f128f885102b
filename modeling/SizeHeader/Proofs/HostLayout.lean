import Mathlib
import SizeHeader.Proofs.MemberLists
import SizeHeader.Proofs.TextReading
import SizeHeader.Target.Machine

/-!
# Layouts of hosts

A layout string changes the default layout one specification at a time. No target's string touches the
alignment of 32-bit integers, or asks more of aggregates than they do, so a record of such integers
takes exactly their bytes on every host.
-/

namespace SizeHeader

theorem setKey_append_of_lt {α : Type} {key : Nat} (value : α) {front : List (Nat × α)}
    (rest : List (Nat × α)) (hfront : ∀ entry ∈ front, entry.1 < key) :
    setKey key value (front ++ rest) = front ++ setKey key value rest := by
  induction front with
  | nil => rfl
  | cons entry front ih =>
    have hentry : entry.1 < key := hfront entry List.mem_cons_self
    have hrest := ih fun e he => hfront e (List.mem_cons_of_mem entry he)
    rw [List.cons_append, setKey, if_neg (by omega), if_neg (by omega), hrest, List.cons_append]

namespace DataLayout

def narrowIntegers : List (Nat × Alignment) := [(1, ⟨0⟩), (8, ⟨0⟩), (16, ⟨1⟩), (32, ⟨2⟩)]

/-- Integers of up to 32 bits are aligned as by default, and aggregates to no more than 4 bytes. -/
structure Ordinary (layout : DataLayout) : Prop where
  integers : ∃ wider, layout.integers = narrowIntegers ++ wider
  aggregate : layout.aggregate.exponent ≤ 2

theorem ordinary_default : Ordinary {} := ⟨⟨[(64, ⟨2⟩)], rfl⟩, by decide⟩

theorem Ordinary.integerAlign_eq {layout : DataLayout} (h : layout.Ordinary) :
    layout.integerAlign 32 = ⟨2⟩ := by
  obtain ⟨wider, hwider⟩ := h.integers
  rw [integerAlign, hwider]
  rfl

end DataLayout

namespace Specification

/-- A specification that keeps layouts ordinary. -/
def Ordinary : Specification → Prop
  | integer width _ => 32 < width
  | aggregate align => align.exponent ≤ 2
  | _ => True

instance : DecidablePred Ordinary
  | integer width _ => inferInstanceAs (Decidable (32 < width))
  | aggregate align => inferInstanceAs (Decidable (align.exponent ≤ 2))
  | float _ _ => inferInstanceAs (Decidable True)
  | pointer _ _ => inferInstanceAs (Decidable True)
  | neutral => inferInstanceAs (Decidable True)

theorem Ordinary.apply {spec : Specification} (hspec : spec.Ordinary) {layout : DataLayout}
    (h : layout.Ordinary) : (spec.apply layout).Ordinary := by
  cases spec with
  | integer width align =>
    obtain ⟨wider, hwider⟩ := h.integers
    refine ⟨⟨setKey width align wider, ?_⟩, h.aggregate⟩
    change setKey width align layout.integers = _
    rw [hwider]
    apply setKey_append_of_lt
    intro entry hentry
    have hnarrow : ∀ e ∈ DataLayout.narrowIntegers, e.1 ≤ 32 := by decide
    exact lt_of_le_of_lt (hnarrow entry hentry) hspec
  | float width align => exact ⟨h.integers, h.aggregate⟩
  | pointer space format => exact ⟨h.integers, h.aggregate⟩
  | aggregate align => exact ⟨h.integers, hspec⟩
  | neutral => exact h

end Specification

namespace DataLayout

theorem ordinary_foldl {specs : List Specification} (hspecs : ∀ spec ∈ specs, spec.Ordinary)
    {layout : DataLayout} (h : layout.Ordinary) :
    (specs.foldl Specification.apply layout).Ordinary := by
  induction specs generalizing layout with
  | nil => exact h
  | cons spec specs ih =>
    have hspec := hspecs spec List.mem_cons_self
    exact ih (fun s hs => hspecs s (List.mem_cons_of_mem spec hs)) (hspec.apply h)

/-- The specifications of a layout string are the parts that it was joined from. -/
theorem ofString_intercalate {parts : List String} (hne : parts ≠ [])
    (hparts : ∀ part ∈ parts, '-' ∉ part.toList ∧ '\x00' ∉ part.toList) :
    ofString ("-".intercalate parts) =
      ofSpecifications (parts.map fun part => .ofChars part.toList) := by
  have hchars : ("-".intercalate parts).toList = ['-'].intercalate (parts.map String.toList) :=
    String.toList_intercalate
  have hdash : ∀ chars ∈ parts.map String.toList, '-' ∉ chars := by
    intro chars hmem
    obtain ⟨part, hpart, rfl⟩ := List.mem_map.mp hmem
    exact (hparts part hpart).1
  have hnul : '\x00' ∉ ['-'].intercalate (parts.map String.toList) := by
    apply Text.not_mem_intercalate (by decide)
    intro chars hmem
    obtain ⟨part, hpart, rfl⟩ := List.mem_map.mp hmem
    exact (hparts part hpart).2
  have hbefore : Text.beforeNul ("-".intercalate parts) =
      ['-'].intercalate (parts.map String.toList) := by
    rw [Text.beforeNul, hchars, List.takeWhile_eq_self_iff]
    intro c hc
    exact decide_eq_true (ne_of_mem_of_not_mem hc hnul)
  rw [ofString, hbefore, List.splitOn_intercalate '-' hdash (by simpa using hne), List.map_map]
  rfl

end DataLayout

namespace Target

def parts (t : Target) : List String :=
  ["e", t.mangling] ++ t.pointers ++ ["p270:32:32", "p271:32:32", "p272:64:64"]
    ++ t.wideScalars ++ t.extendedFloats ++ [t.nativeIntegers] ++ t.stack

/-- A part that stands for itself in a layout string, and that keeps layouts ordinary. -/
def OrdinaryPart (part : String) : Prop :=
  ('-' ∉ part.toList ∧ '\x00' ∉ part.toList) ∧ (Specification.ofChars part.toList).Ordinary

instance : DecidablePred OrdinaryPart := fun _ => inferInstanceAs (Decidable (_ ∧ _))

theorem ordinaryPart_of_mem_parts (t : Target) : ∀ part ∈ t.parts, OrdinaryPart part := by
  have hfirst : ∀ part ∈ ["e", t.mangling], OrdinaryPart part := by
    unfold mangling
    repeat' split
    all_goals decide
  have hpointers : ∀ part ∈ t.pointers, OrdinaryPart part := by
    unfold pointers
    split <;> decide
  have hscalars : ∀ part ∈ t.wideScalars, OrdinaryPart part := by
    unfold wideScalars
    repeat' split
    all_goals decide
  have hfloats : ∀ part ∈ t.extendedFloats, OrdinaryPart part := by
    unfold extendedFloats
    repeat' split
    all_goals decide
  have hnative : ∀ part ∈ [t.nativeIntegers], OrdinaryPart part := by
    unfold nativeIntegers
    split <;> decide
  have hstack : ∀ part ∈ t.stack, OrdinaryPart part := by
    unfold stack
    split <;> decide
  have hspaces : ∀ part ∈ ["p270:32:32", "p271:32:32", "p272:64:64"], OrdinaryPart part := by
    decide
  unfold parts
  simp only [List.forall_mem_append]
  exact ⟨⟨⟨⟨⟨⟨hfirst, hpointers⟩, hspaces⟩, hscalars⟩, hfloats⟩, hnative⟩, hstack⟩

theorem ordinary_layoutString (t : Target) : (DataLayout.ofString t.layoutString).Ordinary := by
  have hparts := t.ordinaryPart_of_mem_parts
  change (DataLayout.ofString ("-".intercalate t.parts)).Ordinary
  rw [DataLayout.ofString_intercalate (by simp [parts]) fun part hpart => (hparts part hpart).1]
  apply DataLayout.ordinary_foldl _ DataLayout.ordinary_default
  intro spec hspec
  obtain ⟨part, hpart, rfl⟩ := List.mem_map.mp hspec
  exact (hparts part hpart).2

end Target

namespace Record

open DataType

theorem dataType_ofIntegers (name : String) (fields : List String) :
    (ofIntegers name fields).dataType =
      .struct (List.replicate fields.length (.integer 32)) false := by
  unfold dataType ofIntegers
  rw [List.map_map]
  exact congrArg (DataType.struct · false) List.map_const'

theorem align_replicate_integer {layout : DataLayout} (h : layout.Ordinary) (count : Nat) :
    (struct (List.replicate (count + 1) (.integer 32)) false).align layout = ⟨2⟩ := by
  rw [align, maxAlign_replicate, maxAlign, align, h.integerAlign_eq]
  exact congrArg Alignment.mk (max_eq_left h.aggregate)

/-- A record of 32-bit integers takes their bytes alone. -/
theorem exactAllocSize_ofIntegers {layout : DataLayout} (h : layout.Ordinary) (name : String)
    {fields : List String} (hne : fields ≠ []) :
    (ofIntegers name fields).dataType.exactAllocSize layout = fields.length * 4 := by
  obtain ⟨count, hcount⟩ := Nat.exists_eq_succ_of_ne_zero (mt List.eq_nil_of_length_eq_zero hne)
  have hinteger : (integer 32).exactAllocSize layout = 4 := by
    rw [exactAllocSize, align, h.integerAlign_eq, exactSize]
    decide
  rw [dataType_ofIntegers, exactAllocSize_replicate, hinteger, hcount, align_replicate_integer h]
  exact Alignment.ceil_of_dvd (Nat.dvd_mul_left 4 (count + 1))

theorem entry_ofIntegers {layout : DataLayout} (h : layout.Ordinary) (name : String)
    {fields : List String} (hne : fields ≠ []) (hlt : fields.length * 4 < 2 ^ 63) :
    (ofIntegers name fields).entry layout = .ok ⟨name, (fields.length * 4 : Nat)⟩ := by
  have hpos : 0 < fields.length := List.length_pos_of_ne_nil hne
  have hsize := exactAllocSize_ofIntegers h name hne
  have hvalid : (ofIntegers name fields).dataType.Valid := by
    rw [dataType_ofIntegers]
    exact allValid_replicate (by decide) fields.length
  rw [entry_eq_entryOfSize hvalid (by omega), hsize, entryOfSize, if_pos (by omega)]
  rfl

theorem entries_registered {layout : DataLayout} (h : layout.Ordinary) :
    entries layout registered = .ok [⟨"QPoint", 8⟩, ⟨"QRect", 16⟩] := by
  have hpoint : qPoint.entry layout = .ok ⟨"QPoint", 8⟩ :=
    entry_ofIntegers h "QPoint" (by simp) (by decide)
  have hrect : qRect.entry layout = .ok ⟨"QRect", 16⟩ :=
    entry_ofIntegers h "QRect" (by simp) (by decide)
  simp only [entries, registered, List.mapM_cons, List.mapM_nil, hpoint, hrect]
  rfl

end Record

end SizeHeader
