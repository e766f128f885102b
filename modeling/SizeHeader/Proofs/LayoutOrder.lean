import Mathlib
import SizeHeader.Layout.Specification
import SizeHeader.Record

/-!
# Orders of specifications

A layout string sets entries of tables that are kept in the order of their keys. Two specifications
with different keys can change places, since neither finds its entry elsewhere for the other one. So an
integer without a width of its own, or an address space that is not listed, looks into the same tables
however the string was arranged. Parts that set nothing which a size is computed from can stand
anywhere, or be left out, and what stands behind an ABI alignment is never read.
-/

namespace SizeHeader

/-! ### Tables -/

section Tables

variable {α : Type} {key other : Nat}

theorem setKey_comm (hne : key ≠ other) (v w : α) (table : List (Nat × α)) :
    setKey key v (setKey other w table) = setKey other w (setKey key v table) := by
  induction table with
  | nil =>
    rcases Nat.lt_or_gt_of_ne hne with hlt | hgt
    · simp [setKey, hlt, hlt.not_gt, hne.symm]
    · simp [setKey, hgt, hgt.not_gt, hne]
  | cons entry table ih =>
    obtain ⟨k, u⟩ := entry
    -- Each of the two keys stands before, at or behind the first entry of the table.
    rcases Nat.lt_trichotomy key k with hk | hk | hk <;>
      rcases Nat.lt_trichotomy other k with ho | ho | ho <;>
        grind [setKey]

theorem lookup_setKey_self (v : α) (table : List (Nat × α)) :
    (setKey key v table).lookup key = some v := by
  induction table with
  | nil => simp [setKey]
  | cons entry table ih =>
    rw [setKey]
    split_ifs with hlt heq
    · exact List.lookup_cons_self
    · exact List.lookup_cons_self
    · rw [List.lookup_cons, beq_eq_false_iff_ne.mpr heq, ih]

theorem lookup_setKey_of_ne (hne : other ≠ key) (v : α) (table : List (Nat × α)) :
    (setKey key v table).lookup other = table.lookup other := by
  have hskip : ∀ rest : List (Nat × α), ((key, v) :: rest).lookup other = rest.lookup other := by
    intro rest
    rw [List.lookup_cons, beq_eq_false_iff_ne.mpr hne]
  induction table with
  | nil => exact hskip []
  | cons entry table ih =>
    rw [setKey]
    split_ifs with hlt heq
    · exact hskip _
    · rw [hskip, List.lookup_cons, beq_eq_false_iff_ne.mpr (heq ▸ hne)]
    · rw [List.lookup_cons, List.lookup_cons, ih]

end Tables

namespace FloatFormat

/-- The widths of the floats that types have. -/
def widths : List Nat := [16, 32, 64]

theorem bits_mem_widths (format : FloatFormat) : format.bits ∈ widths := by
  cases format <;> decide

end FloatFormat

/-! ### Specifications -/

namespace Specification

/-- The entry of a layout that a specification sets. -/
inductive Key where
  | integer (width : Nat)
  | float (width : Nat)
  | pointer (space : Nat)
  | aggregate
deriving DecidableEq, Repr

/-- The key of a specification that sizes can depend on. -/
def key? : Specification → Option Key
  | integer width _ => some (.integer width)
  | float width _ => if width ∈ FloatFormat.widths then some (.float width) else none
  | pointer space _ => some (.pointer space)
  | aggregate _ => some .aggregate
  | neutral => none

/-- Specifications with different keys can be applied in either order. -/
theorem apply_comm {spec other : Specification} (hne : spec.key? ≠ other.key?)
    (layout : DataLayout) :
    other.apply (spec.apply layout) = spec.apply (other.apply layout) := by
  cases spec with
  | neutral => rfl
  | aggregate align =>
    cases other with
    | aggregate align' => exact absurd rfl hne
    | _ => rfl
  | integer width align =>
    cases other with
    | integer width' align' =>
      have hwidth : width' ≠ width := by
        rintro rfl
        exact hne rfl
      simp only [apply, setKey_comm hwidth]
    | _ => rfl
  | float width align =>
    cases other with
    | float width' align' =>
      have hwidth : width' ≠ width := by
        rintro rfl
        exact hne rfl
      simp only [apply, setKey_comm hwidth]
    | _ => rfl
  | pointer space format =>
    cases other with
    | pointer space' format' =>
      have hspace : space' ≠ space := by
        rintro rfl
        exact hne rfl
      simp only [apply, setKey_comm hspace]
    | _ => rfl

/-- The specifications that sizes can depend on. -/
def effective (specs : List Specification) : List Specification := specs.filter (·.key?.isSome)

theorem map_key?_effective (specs : List Specification) :
    (effective specs).map key? = (specs.filterMap key?).map some := by
  induction specs with
  | nil => rfl
  | cons spec specs ih =>
    cases hspec : spec.key? with
    | none =>
      rw [effective, List.filter_cons_of_neg (by simp [hspec]), List.filterMap_cons_none hspec]
      exact ih
    | some key =>
      rw [effective, List.filter_cons_of_pos (by simp [hspec]), List.filterMap_cons_some hspec,
        List.map_cons, List.map_cons, hspec]
      exact congrArg _ ih

/-- Where no key is set twice, the order of specifications does not matter. -/
theorem foldl_apply_perm {specs others : List Specification} (h : specs.Perm others)
    (hkeys : (specs.map key?).Nodup) (layout : DataLayout) :
    specs.foldl apply layout = others.foldl apply layout := by
  apply h.foldl_eq'
  intro spec hspec other hother layout
  by_cases hsame : spec.key? = other.key?
  · rw [List.inj_on_of_nodup_map hkeys hspec hother hsame]
  · exact apply_comm hsame layout

end Specification

/-! ### Layouts that sizes cannot tell apart -/

/-- The same tables, up to floats of widths that no type has. -/
structure DataLayout.Agree (layout other : DataLayout) : Prop where
  integers : layout.integers = other.integers
  floats : ∀ width ∈ FloatFormat.widths, layout.floats.lookup width = other.floats.lookup width
  pointers : layout.pointers = other.pointers
  aggregate : layout.aggregate = other.aggregate

namespace DataLayout.Agree

variable {layout other more : DataLayout}

theorem refl (layout : DataLayout) : layout.Agree layout := ⟨rfl, fun _ _ => rfl, rfl, rfl⟩

theorem symm (h : layout.Agree other) : other.Agree layout where
  integers := h.integers.symm
  floats width hwidth := (h.floats width hwidth).symm
  pointers := h.pointers.symm
  aggregate := h.aggregate.symm

theorem trans (h : layout.Agree other) (h' : other.Agree more) : layout.Agree more where
  integers := h.integers.trans h'.integers
  floats width hwidth := (h.floats width hwidth).trans (h'.floats width hwidth)
  pointers := h.pointers.trans h'.pointers
  aggregate := h.aggregate.trans h'.aggregate

theorem apply (h : layout.Agree other) (spec : Specification) :
    (spec.apply layout).Agree (spec.apply other) := by
  cases spec with
  | integer width align => exact { h with integers := congrArg (setKey width align) h.integers }
  | float width align =>
    refine { h with floats := fun w hw => ?_ }
    by_cases heq : w = width
    · subst heq
      exact (lookup_setKey_self align _).trans (lookup_setKey_self align _).symm
    · exact (lookup_setKey_of_ne heq align _).trans
        ((h.floats w hw).trans (lookup_setKey_of_ne heq align _).symm)
  | pointer space format => exact { h with pointers := congrArg (setKey space format) h.pointers }
  | aggregate align => exact { h with aggregate := rfl }
  | neutral => exact h

theorem apply_of_key?_eq_none (h : layout.Agree other) {spec : Specification}
    (hspec : spec.key? = none) : (spec.apply layout).Agree other := by
  cases spec with
  | float width align =>
    have hwidth : width ∉ FloatFormat.widths := by
      intro hmem
      rw [Specification.key?, if_pos hmem] at hspec
      cases hspec
    refine { h with floats := fun w hw => ?_ }
    exact (lookup_setKey_of_ne (ne_of_mem_of_not_mem hw hwidth) align _).trans (h.floats w hw)
  | neutral => exact h
  | _ => cases hspec

theorem foldl_effective (h : layout.Agree other) (specs : List Specification) :
    (specs.foldl Specification.apply layout).Agree
      ((Specification.effective specs).foldl Specification.apply other) := by
  induction specs generalizing layout other with
  | nil => exact h
  | cons spec specs ih =>
    cases hspec : spec.key? with
    | none =>
      rw [Specification.effective, List.filter_cons_of_neg (by simp [hspec])]
      exact ih (h.apply_of_key?_eq_none hspec)
    | some key =>
      rw [Specification.effective, List.filter_cons_of_pos (by simp [hspec])]
      exact ih (h.apply spec)

end DataLayout.Agree

namespace DataType

variable {layout other : DataLayout}

mutual

theorem align_congr (h : layout.Agree other) : ∀ t : DataType, t.align layout = t.align other
  | integer width => by rw [align, align, DataLayout.integerAlign, DataLayout.integerAlign, h.integers]
  | float format => by
      rw [align, align, DataLayout.floatAlign, DataLayout.floatAlign,
        h.floats _ format.bits_mem_widths]
  | pointer space => by
      rw [align, align, DataLayout.pointerFormat, DataLayout.pointerFormat, h.pointers]
  | void => rfl
  | label => rfl
  | array _ element => align_congr h element
  | struct _ true => rfl
  | struct members false => by rw [align, align, maxAlign_congr h members, h.aggregate]

theorem maxAlign_congr (h : layout.Agree other) :
    ∀ members : List DataType, maxAlign layout members = maxAlign other members
  | [] => rfl
  | t :: rest => by rw [maxAlign, maxAlign, align_congr h t, maxAlign_congr h rest]

end

mutual

theorem size_congr_layout (h : layout.Agree other) : ∀ t : DataType, t.size layout = t.size other
  | integer _ => rfl
  | float _ => rfl
  | pointer space => by
      rw [size, size, DataLayout.pointerFormat, DataLayout.pointerFormat, h.pointers]
  | void => rfl
  | label => rfl
  | array count element => by
      rw [size, size, align_congr h element, size_congr_layout h element]
  | struct members true => by
      rw [size, size, packedEnd_congr h 0 members]
  | struct members false => by
      rw [size, size, maxAlign_congr h members, alignedEnd_congr h 0 members]

theorem packedEnd_congr (h : layout.Agree other) (offset : UInt64) :
    ∀ members : List DataType, packedEnd layout offset members = packedEnd other offset members
  | [] => rfl
  | t :: rest => by
      rw [packedEnd, packedEnd, align_congr h t, size_congr_layout h t, packedEnd_congr h _ rest]

theorem alignedEnd_congr (h : layout.Agree other) (offset : UInt64) :
    ∀ members : List DataType, alignedEnd layout offset members = alignedEnd other offset members
  | [] => rfl
  | t :: rest => by
      rw [alignedEnd, alignedEnd, align_congr h t, size_congr_layout h t, alignedEnd_congr h _ rest]

end

end DataType

namespace Record

theorem entries_congr_layout {layout other : DataLayout} (h : layout.Agree other) :
    entries layout = entries other := by
  funext records
  have hentry : entry layout = entry other := by
    funext r
    have hsize : r.signedSize layout = r.signedSize other := by
      rw [signedSize, signedSize, DataType.allocSize, DataType.allocSize, DataType.align_congr h,
        DataType.size_congr_layout h]
    rw [entry, entry, size, size, hsize]
  rw [entries, entries, hentry]

end Record

/-! ### Layout strings -/

namespace Specification

/-- Parts that no size depends on: those that tell the order of bytes, the mangling, the native widths,
the stack or vectors, and those of floats that no type has. -/
def Idle : List Char → Prop
  | [] => True
  | kind :: rest =>
    if kind = 'f' then
      ∀ width ∈ (rest.splitOn ':').head?.bind Text.nat?, width ∉ FloatFormat.widths
    else kind ∉ ['i', 'p', 'a']

instance : DecidablePred Idle
  | [] => .isTrue trivial
  | kind :: _ => inferInstanceAs (Decidable (if kind = 'f' then _ else kind ∉ ['i', 'p', 'a']))

/-- The letter of a part and its fields up to the ABI alignment. What follows is a preference. -/
def upToAbi : List Char → List (List Char)
  | [] => []
  | kind :: rest => [kind] :: (rest.splitOn ':').take (if kind = 'p' then 3 else 2)

theorem ofFields?_eq_none {kind : Char} (hkind : kind ∉ ['i', 'f', 'p', 'a'])
    (fields : List (List Char)) : ofFields? kind fields = none := by
  simp only [List.mem_cons, List.not_mem_nil, or_false, not_or] at hkind
  unfold ofFields?
  split
  · exact absurd rfl hkind.1
  · exact absurd rfl hkind.2.1
  · exact absurd rfl hkind.2.2.1
  · exact absurd rfl hkind.2.2.2
  · rfl

theorem ofFields?_take (kind : Char) (fields : List (List Char)) :
    ofFields? kind (fields.take (if kind = 'p' then 3 else 2)) = ofFields? kind fields := by
  by_cases hkind : kind ∈ ['i', 'f', 'p', 'a']
  · simp only [List.mem_cons, List.not_mem_nil, or_false] at hkind
    rcases hkind with rfl | rfl | rfl | rfl <;>
      rcases fields with _ | ⟨first, _ | ⟨second, _ | ⟨third, rest⟩⟩⟩ <;> rfl
  · rw [ofFields?_eq_none hkind, ofFields?_eq_none hkind]

theorem ofChars_congr {part other : List Char} (h : upToAbi part = upToAbi other) :
    ofChars part = ofChars other := by
  cases part with
  | nil =>
    cases other with
    | nil => rfl
    | cons kind rest => cases h
  | cons kind rest =>
    cases other with
    | nil => cases h
    | cons kind' rest' =>
      obtain ⟨hkind, hfields⟩ := List.cons.inj h
      obtain rfl : kind = kind' := (List.cons.inj hkind).1
      rw [ofChars, ofChars, ← ofFields?_take, hfields, ofFields?_take]

theorem key?_getD_ofFields?_float {fields : List (List Char)}
    (h : ∀ width ∈ fields.head?.bind Text.nat?, width ∉ FloatFormat.widths) :
    ((ofFields? 'f' fields).getD .neutral).key? = none := by
  rcases fields with _ | ⟨field, _ | ⟨abi, rest⟩⟩
  · rfl
  · rfl
  · cases hwidth : Text.nat? field with
    | none => simp [ofFields?, hwidth, key?]
    | some width =>
      cases halign : align? abi with
      | none => simp [ofFields?, hwidth, halign, key?]
      | some align =>
        have hunused : width ∉ FloatFormat.widths := h width hwidth
        simp [ofFields?, hwidth, halign, key?, hunused]

theorem Idle.key?_ofChars {part : List Char} (h : Idle part) : (ofChars part).key? = none := by
  cases part with
  | nil => rfl
  | cons kind rest =>
    rw [Idle] at h
    split_ifs at h with hfloat
    · subst hfloat
      exact key?_getD_ofFields?_float h
    · have hkind : kind ∉ ['i', 'f', 'p', 'a'] := by
        simp only [List.mem_cons, List.not_mem_nil, or_false, not_or] at h ⊢
        exact ⟨h.1, hfloat, h.2⟩
      rw [ofChars, ofFields?_eq_none hkind]
      rfl

end Specification

namespace DataLayout

open Specification (Idle upToAbi)

/-- The parts of a layout string, up to the NUL that ends it. -/
def parts (s : String) : List (List Char) := (Text.beforeNul s).splitOn '-'

/-- The keys that the parts of a layout string set. -/
def keys (parts : List (List Char)) : List Specification.Key :=
  parts.filterMap fun part => (Specification.ofChars part).key?

/-- The same parts, up to their order, idle parts and preferences. -/
inductive Rearranged : List (List Char) → List (List Char) → Prop where
  | order {parts others : List (List Char)} (h : parts.Perm others) : Rearranged parts others
  | insertion {part : List Char} (h : Idle part) (parts : List (List Char)) :
      Rearranged parts (part :: parts)
  | removal {part : List Char} (h : Idle part) (parts : List (List Char)) :
      Rearranged (part :: parts) parts
  | preference {part other : List Char} (h : upToAbi part = upToAbi other)
      (parts : List (List Char)) : Rearranged (part :: parts) (other :: parts)
  | trans {parts others more : List (List Char)} (h : Rearranged parts others)
      (h' : Rearranged others more) : Rearranged parts more

instance : Trans Rearranged Rearranged Rearranged := ⟨.trans⟩

/-- What rearranging keeps are the specifications that sizes can depend on. -/
theorem Rearranged.perm_effective {parts others : List (List Char)} (h : Rearranged parts others) :
    (Specification.effective (parts.map .ofChars)).Perm
      (Specification.effective (others.map .ofChars)) := by
  induction h with
  | order h => exact (h.map _).filter _
  | insertion h parts =>
    rw [Specification.effective, Specification.effective, List.map_cons,
      List.filter_cons_of_neg (by simp [h.key?_ofChars])]
  | removal h parts =>
    rw [Specification.effective, Specification.effective, List.map_cons,
      List.filter_cons_of_neg (by simp [h.key?_ofChars])]
  | preference h parts =>
    rw [List.map_cons, List.map_cons, Specification.ofChars_congr h]
  | trans _ _ ih ih' => exact ih.trans ih'

theorem Rearranged.agree {s t : String} (h : Rearranged (parts s) (parts t))
    (hkeys : (keys (parts s)).Nodup) : (ofString s).Agree (ofString t) := by
  have hnodup : ((Specification.effective ((parts s).map .ofChars)).map
      Specification.key?).Nodup := by
    rw [Specification.map_key?_effective, List.filterMap_map]
    exact hkeys.map (Option.some_injective _)
  have hs := (Agree.refl {}).foldl_effective ((parts s).map .ofChars)
  have ht := (Agree.refl {}).foldl_effective ((parts t).map .ofChars)
  rw [Specification.foldl_apply_perm h.perm_effective hnodup] at hs
  exact hs.trans ht.symm

end DataLayout

namespace Record

open DataLayout (ofString parts keys Rearranged)
open Specification (Idle upToAbi)

/-- **Layout strings have no order.** Where no two parts of a layout string set the same key, its parts
may be put in any order, parts that no size depends on may be added or left out, and preferences may be
changed: the same records have the same entries, or fail in the same way. -/
theorem entries_of_rearranged {s t : String} (hkeys : (keys (parts s)).Nodup)
    (h : Rearranged (parts s) (parts t)) (records : List Record) :
    entries (ofString s) records = entries (ofString t) records :=
  congrFun (entries_congr_layout (h.agree hkeys)) records

/-- The integer takes its alignment from a wider one, and the pointers their width from address space 0.
Without the one or the other the record has another size. -/
theorem entries_of_rearranged_defaults :
    let s := "e-p:32:32-i64:64-f80:128"
    let t := "i64:64:128-v64:64-p:32:32"
    let records : List Record :=
      [⟨"R", [("p", .pointer 7), ("q", .pointer 7), ("r", .pointer 7), ("n", .integer 33)]⟩]
    ((keys (parts s)).Nodup ∧ Rearranged (parts s) (parts t)) ∧
      entries (ofString s) records = .ok [⟨"R", 24⟩] ∧
      entries (ofString t) records = .ok [⟨"R", 24⟩] ∧
      entries (ofString "p:32:32") records = .ok [⟨"R", 20⟩] ∧
      entries (ofString "i64:64") records = .ok [⟨"R", 32⟩] := by
  intro s t records
  have hkeys : (keys (parts s)).Nodup := by decide
  have h : Rearranged (parts s) (parts t) := by
    have hparts : parts s = ["e", "p:32:32", "i64:64", "f80:128"].map String.toList := by decide
    have hothers : parts t = ["i64:64:128", "v64:64", "p:32:32"].map String.toList := by decide
    have horder : Idle "e".toList := by decide
    have hfloat : Idle "f80:128".toList := by decide
    have hvector : Idle "v64:64".toList := by decide
    have hinteger : upToAbi "i64:64".toList = upToAbi "i64:64:128".toList := by decide
    rw [hparts, hothers]
    calc
      Rearranged _ (["p:32:32", "i64:64", "f80:128"].map String.toList) := .removal horder _
      Rearranged _ (["f80:128", "i64:64", "p:32:32"].map String.toList) := .order (by decide)
      Rearranged _ (["i64:64", "p:32:32"].map String.toList) := .removal hfloat _
      Rearranged _ (["i64:64:128", "p:32:32"].map String.toList) := .preference hinteger _
      Rearranged _ (["v64:64", "i64:64:128", "p:32:32"].map String.toList) := .insertion hvector _
      Rearranged _ (["i64:64:128", "v64:64", "p:32:32"].map String.toList) := .order (by decide)
  have hs : entries (ofString s) records = .ok [⟨"R", 24⟩] := by decide
  exact ⟨⟨hkeys, h⟩, hs, entries_of_rearranged hkeys h records ▸ hs, by decide, by decide⟩

end Record

end SizeHeader
