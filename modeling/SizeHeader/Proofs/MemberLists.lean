import Mathlib
import SizeHeader.Proofs.FieldOrder

/-!
# Repeated and omitted members

Members of one type stand next to each other without padding, so they take the room of an array of
them, also where the sizes exceed a word. Members that are left out leave the others a placement in the
room of all, so no record needs more for having fewer of them.
-/

namespace SizeHeader

namespace DataType

variable {layout : DataLayout}

/-! ### Members of one type -/

theorem allValid_replicate {t : DataType} (ht : t.Valid) (count : Nat) :
    AllValid (List.replicate count t) := by
  refine allValid_iff.mpr fun u hu => ?_
  rwa [List.eq_of_mem_replicate hu]

theorem exactAllocSize_array (count : Nat) (t : DataType) :
    (array count t).exactAllocSize layout = count * t.exactAllocSize layout :=
  Alignment.ceil_of_dvd ((Alignment.dvd_ceil _ _).mul_left count)

theorem descending_replicate (count : Nat) (t : DataType) :
    Descending layout (List.replicate count t) :=
  List.pairwise_replicate.mpr (.inr le_rfl)

theorem exactRoom_replicate (count : Nat) (t : DataType) :
    exactRoom layout (List.replicate count t) = count * t.exactAllocSize layout := by
  rw [exactRoom, List.map_replicate, List.sum_replicate, smul_eq_mul]

theorem maxAlign_replicate (count : Nat) (t : DataType) :
    maxAlign layout (List.replicate (count + 1) t) = maxAlign layout [t] := by
  induction count with
  | zero => rfl
  | succ count ih =>
    rw [List.replicate_succ, maxAlign, ih]
    exact congrArg Alignment.mk (max_eq_right (le_max_left _ _))

/-- Equal members leave no room between them: where the first one ends the next one may begin. -/
theorem exactAllocSize_replicate (count : Nat) (t : DataType) :
    (struct (List.replicate count t) false).exactAllocSize layout =
      ((struct (List.replicate count t) false).align layout).ceil
        (count * t.exactAllocSize layout) := by
  rw [exactAllocSize_of_descending (descending_replicate count t), exactRoom_replicate]

/-- An array is one member of its own type, which is aligned like its elements. -/
theorem exactAllocSize_replicate_eq_array (count : Nat) (t : DataType) :
    (struct (List.replicate count t) false).exactAllocSize layout =
      (struct [array count t] false).exactAllocSize layout := by
  have harray : (struct [array count t] false).exactAllocSize layout =
      ((struct [array count t] false).align layout).ceil (count * t.exactAllocSize layout) := by
    rw [← exactAllocSize_array, ← Nat.one_mul ((array count t).exactAllocSize layout)]
    exact exactAllocSize_replicate 1 (array count t)
  rw [harray, exactAllocSize_replicate]
  cases count with
  -- Without members there is no alignment to compare, but nothing to round up either.
  | zero => rw [Nat.zero_mul, Alignment.ceil_of_dvd (dvd_zero _), Alignment.ceil_of_dvd (dvd_zero _)]
  | succ count =>
    have halign : (struct (List.replicate (count + 1) t) false).align layout =
        (struct [array (count + 1 : Nat) t] false).align layout := by
      rw [align, maxAlign_replicate]
      rfl
    rw [halign]

/-! ### Members left out -/

theorem maxAlign_dvd_iff {members : List DataType} {n : Nat} :
    (maxAlign layout members).bytes ∣ n ↔ ∀ t ∈ members, (t.align layout).bytes ∣ n := by
  induction members with
  | nil => simp [maxAlign, Alignment.byte, Alignment.bytes]
  | cons t rest ih => rw [maxAlign, Alignment.max_dvd_iff, ih, List.forall_mem_cons]

theorem align_struct_dvd_of_subset {fewer members : List DataType} (h : fewer ⊆ members) :
    ((struct fewer false).align layout).bytes ∣ ((struct members false).align layout).bytes := by
  have hmembers := Alignment.max_dvd_iff.mp (dvd_refl ((struct members false).align layout).bytes)
  refine Alignment.max_dvd_iff.mpr ⟨maxAlign_dvd_iff.mpr fun t ht => ?_, hmembers.2⟩
  exact maxAlign_dvd_iff.mp hmembers.1 t (h ht)

/-- The members that remain can stay where they are. -/
theorem Placement.sublist {members : List DataType} {placed fewer : List (DataType × Nat)}
    {total : Nat} (h : Placement layout members placed total) (hfewer : fewer.Sublist placed) :
    Placement layout (fewer.map (·.1)) fewer total where
  members_eq := rfl
  aligned p hp := h.aligned p (hfewer.subset hp)
  ordered := h.ordered.sublist hfewer
  inside p hp := h.inside p (hfewer.subset hp)
  whole := by
    have hsubset : fewer.map (·.1) ⊆ members := by
      rw [← h.members_eq]
      exact (hfewer.map (·.1)).subset
    exact (align_struct_dvd_of_subset hsubset).trans h.whole

theorem exactAllocSize_le_of_sublist {fewer members : List DataType}
    (h : fewer.Sublist members) :
    (struct fewer false).exactAllocSize layout ≤ (struct members false).exactAllocSize layout := by
  have hmembers : (placedFrom layout 0 members).map (·.1) = members := map_placedFrom 0 members
  rw [← hmembers] at h
  obtain ⟨placed, hplaced, rfl⟩ := List.sublist_map_iff.mp h
  exact ((placement_placedFrom members).sublist hplaced).exactAllocSize_le

end DataType

namespace Record

open DataType

theorem size_congr {layout : DataLayout} {r s : Record} (hr : r.dataType.Valid)
    (hs : s.dataType.Valid)
    (h : r.dataType.exactAllocSize layout = s.dataType.exactAllocSize layout) :
    r.size layout = s.size layout := by
  rw [size_eq_of_valid layout hr rfl, size_eq_of_valid layout hs rfl, h]

theorem size_ne_invalidType {layout : DataLayout} {r : Record} (hr : r.dataType.Valid) :
    r.size layout ≠ .error .invalidType := by
  rw [size_eq_of_valid layout hr rfl]
  split <;> simp

theorem entry_congr {layout : DataLayout} {r s : Record} (hname : r.name = s.name)
    (hsize : r.size layout = s.size layout) : r.entry layout = s.entry layout := by
  rw [entry, entry, hname, hsize]

/-- **Members of one type are an array.** A record with so many members of one type has the size of a
record whose only member is an array of as many elements, or fails as it does for want of a positive
size. That holds in words, however often the offsets wrap. -/
theorem size_of_repeated (layout : DataLayout) {t : DataType} (ht : t.Valid) {count : Nat}
    (hcount : count < 2 ^ 64) {r s : Record} (hr : r.fields.map (·.2) = List.replicate count t)
    (hs : s.fields.map (·.2) = [.array count t]) :
    r.size layout = s.size layout ∧ r.size layout ≠ .error .invalidType ∧
      (r.name = s.name → r.entry layout = s.entry layout) := by
  have hrvalid : r.dataType.Valid := by
    rw [dataType, hr]
    exact allValid_replicate ht count
  have hcounted : ¬(array count t).Refused := by
    rintro (hneg | hlarge) <;> omega
  have hsvalid : s.dataType.Valid := by
    rw [dataType, hs]
    exact ⟨array_valid_iff.mpr ⟨hcounted, ht⟩, trivial⟩
  have hsize : r.size layout = s.size layout := by
    apply size_congr hrvalid hsvalid
    rw [dataType, dataType, hr, hs]
    exact exactAllocSize_replicate_eq_array count t
  exact ⟨hsize, size_ne_invalidType hrvalid, fun hname => entry_congr hname hsize⟩

/-- Each member takes `2 ^ 64 + 4` bytes, so the offsets wrap at every one of them. -/
theorem size_of_repeated_wrapping :
    let t : DataType := .struct [.array 2305843009213693952 (.integer 64), .integer 32] false
    let r : Record := ⟨"Wrapped", [("a", t), ("b", t), ("c", t)]⟩
    let s : Record := ⟨"Wrapped", [("all", .array 3 t)]⟩
    (t.Valid ∧ r.fields.map (·.2) = List.replicate 3 t ∧ s.fields.map (·.2) = [.array 3 t]) ∧
      r.entry {} = .ok ⟨"Wrapped", 12⟩ ∧ s.entry {} = .ok ⟨"Wrapped", 12⟩ := by
  intro t r s
  have ht : t.Valid := by decide
  have hentry : r.entry {} = .ok ⟨"Wrapped", 12⟩ := by decide
  have hfields : r.fields.map (·.2) = List.replicate 3 t := rfl
  have hsame : r.entry {} = s.entry {} :=
    (size_of_repeated {} ht (by decide) hfields rfl).2.2 rfl
  exact ⟨⟨ht, rfl, rfl⟩, hentry, hsame ▸ hentry⟩

/-- **Fewer members need no more room.** -/
theorem entry_of_fewer (layout : DataLayout) {r s : Record} (hvalid : r.dataType.Valid)
    (hexact : r.dataType.exactAllocSize layout < 2 ^ 63)
    (hfewer : (s.fields.map (·.2)).Sublist (r.fields.map (·.2))) {e : SizeEntry}
    (he : s.entry layout = .ok e) :
    ∃ size : Int, r.entry layout = .ok ⟨r.name, size⟩ ∧ e.size ≤ size := by
  have hle : s.dataType.exactAllocSize layout ≤ r.dataType.exactAllocSize layout :=
    exactAllocSize_le_of_sublist hfewer
  have hsvalid : s.dataType.Valid :=
    allValid_iff.mpr fun t ht => allValid_iff.mp hvalid t (hfewer.subset ht)
  rw [entry_eq_entryOfSize hsvalid (by omega), entryOfSize] at he
  split at he
  · obtain rfl := Except.ok.inj he
    refine ⟨r.dataType.exactAllocSize layout, ?_, Int.ofNat_le.mpr hle⟩
    rw [entry_eq_entryOfSize hvalid hexact, entryOfSize, if_pos (by omega)]
  · cases he

/-- Without its widest member a record is aligned less, and the members behind it move. -/
theorem entry_of_fewer_narrow :
    let r : Record := ⟨"Full", [("a", .integer 8), ("b", .float .double), ("c", .integer 16),
      ("d", .integer 8)]⟩
    let s : Record := ⟨"Narrow", [("a", .integer 8), ("c", .integer 16), ("d", .integer 8)]⟩
    (r.dataType.Valid ∧ r.dataType.exactAllocSize {} < 2 ^ 63 ∧
      (s.fields.map (·.2)).Sublist (r.fields.map (·.2)) ∧ s.entry {} = .ok ⟨"Narrow", 6⟩) ∧
      ∃ size : Int, r.entry {} = .ok ⟨"Full", size⟩ ∧ 6 ≤ size := by
  intro r s
  have hvalid : r.dataType.Valid := by decide
  have hexact : r.dataType.exactAllocSize {} < 2 ^ 63 := by decide
  have hfewer : (s.fields.map (·.2)).Sublist (r.fields.map (·.2)) :=
    .cons_cons _ (.cons _ (.refl _))
  have hs : s.entry {} = .ok ⟨"Narrow", 6⟩ := by decide
  exact ⟨⟨hvalid, hexact, hfewer, hs⟩, entry_of_fewer {} hvalid hexact hfewer hs⟩

end Record

end SizeHeader
