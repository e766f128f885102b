import Mathlib
import SizeHeader.Proofs.RoundingUp
import SizeHeader.Proofs.SizedRecords

/-!
# Placements of members

A struct is laid out by putting each member at the first offset that its alignment and the members
before it allow. No placement in the same order can be ahead of that one at any member, so none needs
less room: the size of a struct is the least total into which its members can be placed.
-/

namespace SizeHeader

namespace DataType

/-- Members at offsets. Each stands at a multiple of its alignment, at or behind the end of each one
before it, and all end within the total, which is a multiple of the alignment of the struct. -/
structure Placement (layout : DataLayout) (members : List DataType)
    (placed : List (DataType × Nat)) (total : Nat) : Prop where
  members_eq : placed.map (·.1) = members
  aligned : ∀ p ∈ placed, (p.1.align layout).bytes ∣ p.2
  ordered : placed.Pairwise fun p q => p.2 + p.1.exactAllocSize layout ≤ q.2
  inside : ∀ p ∈ placed, p.2 + p.1.exactAllocSize layout ≤ total
  whole : ((struct members false).align layout).bytes ∣ total

/-- Each member at the first offset that is left for it. -/
def placedFrom (layout : DataLayout) (offset : Nat) : List DataType → List (DataType × Nat)
  | [] => []
  | t :: rest =>
    (t, (t.align layout).ceil offset) ::
      placedFrom layout ((t.align layout).ceil offset + t.exactAllocSize layout) rest

section Ends

variable {layout : DataLayout}

theorem exactAlignedEnd_cons (offset : Nat) (t : DataType) (rest : List DataType) :
    exactAlignedEnd layout offset (t :: rest) =
      exactAlignedEnd layout ((t.align layout).ceil offset + t.exactAllocSize layout) rest := rfl

theorem le_exactAlignedEnd (offset : Nat) (members : List DataType) :
    offset ≤ exactAlignedEnd layout offset members := by
  induction members generalizing offset with
  | nil => exact le_rfl
  | cons t rest ih =>
    have hceil := (t.align layout).le_ceil offset
    have hrest := ih ((t.align layout).ceil offset + t.exactAllocSize layout)
    rw [exactAlignedEnd_cons]
    omega

/-! ### The greedy placement -/

theorem map_placedFrom (offset : Nat) (members : List DataType) :
    (placedFrom layout offset members).map (·.1) = members := by
  induction members generalizing offset with
  | nil => rfl
  | cons t rest ih => rw [placedFrom, List.map_cons, ih]

theorem aligned_placedFrom (offset : Nat) (members : List DataType) :
    ∀ p ∈ placedFrom layout offset members, (p.1.align layout).bytes ∣ p.2 := by
  induction members generalizing offset with
  | nil => exact List.forall_mem_nil _
  | cons t rest ih =>
    rw [placedFrom, List.forall_mem_cons]
    exact ⟨(t.align layout).dvd_ceil offset, ih _⟩

theorem le_of_mem_placedFrom (offset : Nat) (members : List DataType) :
    ∀ p ∈ placedFrom layout offset members, offset ≤ p.2 := by
  induction members generalizing offset with
  | nil => exact List.forall_mem_nil _
  | cons t rest ih =>
    have hceil := (t.align layout).le_ceil offset
    rw [placedFrom, List.forall_mem_cons]
    refine ⟨hceil, fun p hp => ?_⟩
    have hp := ih _ p hp
    omega

theorem ordered_placedFrom (offset : Nat) (members : List DataType) :
    (placedFrom layout offset members).Pairwise fun p q =>
      p.2 + p.1.exactAllocSize layout ≤ q.2 := by
  induction members generalizing offset with
  | nil => exact .nil
  | cons t rest ih => exact .cons (le_of_mem_placedFrom _ rest) (ih _)

theorem inside_placedFrom (offset : Nat) (members : List DataType) :
    ∀ p ∈ placedFrom layout offset members,
      p.2 + p.1.exactAllocSize layout ≤ exactAlignedEnd layout offset members := by
  induction members generalizing offset with
  | nil => exact List.forall_mem_nil _
  | cons t rest ih =>
    rw [placedFrom, List.forall_mem_cons]
    exact ⟨le_exactAlignedEnd _ rest, ih _⟩

/-! ### Any placement -/

/-- What is placed in order ends no earlier than the greedy placement does. The greedy offset is never
ahead of the next member's own, which is a multiple of the same alignment. -/
theorem exactAlignedEnd_le {placed : List (DataType × Nat)} {offset bound : Nat}
    (haligned : ∀ p ∈ placed, (p.1.align layout).bytes ∣ p.2)
    (hordered : placed.Pairwise fun p q => p.2 + p.1.exactAllocSize layout ≤ q.2)
    (hinside : ∀ p ∈ placed, p.2 + p.1.exactAllocSize layout ≤ bound)
    (hbehind : ∀ p ∈ placed, offset ≤ p.2) (hoffset : offset ≤ bound) :
    exactAlignedEnd layout offset (placed.map (·.1)) ≤ bound := by
  induction placed generalizing offset with
  | nil => exact hoffset
  | cons p rest ih =>
    rw [List.forall_mem_cons] at haligned hinside hbehind
    rw [List.pairwise_cons] at hordered
    have hceil : (p.1.align layout).ceil offset ≤ p.2 := Alignment.ceil_le haligned.1 hbehind.1
    have hend : (p.1.align layout).ceil offset + p.1.exactAllocSize layout ≤
        p.2 + p.1.exactAllocSize layout := Nat.add_le_add_right hceil _
    rw [List.map_cons, exactAlignedEnd_cons]
    apply ih haligned.2 hordered.2 hinside.2
    · intro q hq
      exact hend.trans (hordered.1 q hq)
    · exact hend.trans hinside.1

/-! ### The size of a struct -/

/-- The size of a struct is rounded up to its members' alignment first and then to its own, which is a
multiple of theirs. -/
theorem exactAllocSize_struct (members : List DataType) :
    (struct members false).exactAllocSize layout =
      ((struct members false).align layout).ceil (exactAlignedEnd layout 0 members) := by
  rw [exactAllocSize, exactSize, align]
  exact Alignment.ceil_ceil (Alignment.dvd_max_left _ _) _

theorem exactAlignedEnd_le_exactAllocSize (members : List DataType) :
    exactAlignedEnd layout 0 members ≤ (struct members false).exactAllocSize layout := by
  rw [exactAllocSize_struct]
  exact Alignment.le_ceil _ _

theorem exactAllocSize_le_of_mem {t : DataType} {members : List DataType} (ht : t ∈ members) :
    t.exactAllocSize layout ≤ (struct members false).exactAllocSize layout := by
  obtain ⟨p, hp, rfl⟩ : ∃ p ∈ placedFrom layout 0 members, p.1 = t := by
    rw [← List.mem_map, map_placedFrom]
    exact ht
  calc
    p.1.exactAllocSize layout ≤ p.2 + p.1.exactAllocSize layout := Nat.le_add_left _ _
    _ ≤ exactAlignedEnd layout 0 members := inside_placedFrom 0 members p hp
    _ ≤ (struct members false).exactAllocSize layout := exactAlignedEnd_le_exactAllocSize members

theorem placement_placedFrom (members : List DataType) :
    Placement layout members (placedFrom layout 0 members)
      ((struct members false).exactAllocSize layout) where
  members_eq := map_placedFrom 0 members
  aligned := aligned_placedFrom 0 members
  ordered := ordered_placedFrom 0 members
  inside p hp := (inside_placedFrom 0 members p hp).trans (exactAlignedEnd_le_exactAllocSize members)
  whole := by
    rw [exactAllocSize_struct]
    exact Alignment.dvd_ceil _ _

theorem Placement.exactAllocSize_le {members : List DataType} {placed : List (DataType × Nat)}
    {total : Nat} (h : Placement layout members placed total) :
    (struct members false).exactAllocSize layout ≤ total := by
  have hend : exactAlignedEnd layout 0 (placed.map (·.1)) ≤ total :=
    exactAlignedEnd_le h.aligned h.ordered h.inside (fun p _ => p.2.zero_le) total.zero_le
  rw [h.members_eq] at hend
  rw [exactAllocSize_struct]
  exact Alignment.ceil_le h.whole hend

theorem isLeast_exactAllocSize (members : List DataType) :
    IsLeast {total | ∃ placed, Placement layout members placed total}
      ((struct members false).exactAllocSize layout) :=
  ⟨⟨_, placement_placedFrom members⟩, fun _ ⟨_, h⟩ => h.exactAllocSize_le⟩

theorem toNat_allocSize {t : DataType} (h : t.exactAllocSize layout < 2 ^ 64) :
    (t.allocSize layout).toNat = t.exactAllocSize layout := by
  rw [allocSize_eq_ofNat, UInt64.toNat_ofNat', Nat.mod_eq_of_lt h]

end Ends

end DataType

namespace Record

open DataType

/-- The entry of a record that takes so many bytes. It has none if it takes no room at all. -/
def entryOfSize (r : Record) (size : Nat) : Except InternalError SizeEntry :=
  if 0 < size then .ok ⟨r.name, size⟩ else .error (r.unsized "size 0 is not positive")

theorem entry_eq_entryOfSize {layout : DataLayout} {r : Record} (hvalid : r.dataType.Valid)
    (hexact : r.dataType.exactAllocSize layout < 2 ^ 63) :
    r.entry layout = r.entryOfSize (r.dataType.exactAllocSize layout) := by
  have hmod : r.dataType.exactAllocSize layout =
      r.dataType.exactAllocSize layout % 2 ^ 64 := by omega
  have hsize := size_eq_of_valid layout hvalid hmod
  by_cases hpos : 0 < r.dataType.exactAllocSize layout
  · rw [entryOfSize, if_pos hpos]
    rw [if_pos ⟨hpos, hexact⟩] at hsize
    exact entry_eq_of_size_ok hsize
  · have hzero : r.dataType.exactAllocSize layout = 0 := by omega
    rw [entryOfSize, if_neg hpos]
    rw [if_neg fun h => hpos h.1, hzero] at hsize
    exact entry_eq_of_size_error hsize

/-- **Layouts are valid and optimal.** The members of a record, in their order and each in the room that
it takes alone, can be placed into the size of the record, and into no smaller total. Only a record that
needs no room at all has no size. -/
theorem entry_least_placement (layout : DataLayout) {r : Record} (hvalid : r.dataType.Valid)
    (hexact : r.dataType.exactAllocSize layout < 2 ^ 63) :
    let members : List DataType := r.fields.map (·.2)
    ∃ size : Nat,
      IsLeast {total | ∃ placed, Placement layout members placed total} size ∧
      (∀ t ∈ members, (t.allocSize layout).toNat = t.exactAllocSize layout) ∧
      r.entry layout = r.entryOfSize size := by
  intro members
  refine ⟨r.dataType.exactAllocSize layout, isLeast_exactAllocSize members, ?_,
    entry_eq_entryOfSize hvalid hexact⟩
  intro t ht
  have hle : t.exactAllocSize layout ≤ r.dataType.exactAllocSize layout :=
    exactAllocSize_le_of_mem ht
  exact toNat_allocSize (by omega)

/-- The nested struct is kept apart from what is before it, and the whole is rounded up to what the
layout asks of aggregates. -/
theorem entry_least_placement_nested :
    let layout : DataLayout := { aggregate := ⟨4⟩ }
    let r : Record := ⟨"Mixed", [("flag", .integer 8),
      ("inner", .struct [.float .double, .integer 16] false), ("tail", .array 3 (.integer 16))]⟩
    (r.dataType.Valid ∧ r.dataType.exactAllocSize layout < 2 ^ 63) ∧
      r.entry layout = .ok ⟨"Mixed", 48⟩ ∧
        IsLeast {total | ∃ placed, Placement layout (r.fields.map (·.2)) placed total} 48 := by
  intro layout r
  have hvalid : r.dataType.Valid := by decide
  have hexact : r.dataType.exactAllocSize layout < 2 ^ 63 := by decide
  obtain ⟨size, hleast, -, hentry⟩ := entry_least_placement layout hvalid hexact
  have hsize : size = r.dataType.exactAllocSize layout := hleast.unique (isLeast_exactAllocSize _)
  obtain rfl : size = 48 := hsize.trans (by decide)
  exact ⟨⟨hvalid, hexact⟩, hentry, hleast⟩

end Record

end SizeHeader
