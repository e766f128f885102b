import Mathlib
import SizeHeader.Proofs.Placement

/-!
# The order of members

The order of a record's members decides nothing but the padding between them. The room that they take
and the alignment of the whole are the same in every order. Where alignments never increase there is no
padding before the end: each member ends at a multiple of all the alignments to come.
-/

namespace SizeHeader

namespace DataType

variable {layout : DataLayout}

/-! ### Every order -/

theorem maxAlign_perm {members others : List DataType} (h : members.Perm others) :
    maxAlign layout members = maxAlign layout others := by
  induction h with
  | nil => rfl
  | cons t _ ih => rw [maxAlign, maxAlign, ih]
  | swap s t rest => exact congrArg Alignment.mk (max_left_comm _ _ _)
  | trans _ _ ih₁ ih₂ => exact ih₁.trans ih₂

theorem align_struct_perm {members others : List DataType} (h : members.Perm others) :
    (struct members false).align layout = (struct others false).align layout := by
  rw [align, align, maxAlign_perm h]

/-- The room that members take with no padding between them. -/
def exactRoom (layout : DataLayout) (members : List DataType) : Nat :=
  (members.map (exactAllocSize layout)).sum

theorem exactRoom_perm {members others : List DataType} (h : members.Perm others) :
    exactRoom layout members = exactRoom layout others :=
  (h.map (exactAllocSize layout)).sum_eq

theorem exactRoom_cons (t : DataType) (rest : List DataType) :
    exactRoom layout (t :: rest) = t.exactAllocSize layout + exactRoom layout rest := by
  rw [exactRoom, List.map_cons, List.sum_cons, exactRoom]

theorem add_exactRoom_le (offset : Nat) (members : List DataType) :
    offset + exactRoom layout members ≤ exactAlignedEnd layout offset members := by
  induction members generalizing offset with
  | nil => exact le_rfl
  | cons t rest ih =>
    have hceil := (t.align layout).le_ceil offset
    have hrest := ih ((t.align layout).ceil offset + t.exactAllocSize layout)
    rw [exactRoom_cons, exactAlignedEnd_cons]
    omega

theorem exactAlignedEnd_eq_zero {members : List DataType} (h : exactRoom layout members = 0) :
    exactAlignedEnd layout 0 members = 0 := by
  induction members with
  | nil => rfl
  | cons t rest ih =>
    rw [exactRoom_cons, Nat.add_eq_zero_iff] at h
    rw [exactAlignedEnd_cons, Alignment.ceil_of_dvd (dvd_zero _), h.1, ih h.2]

/-! ### Orders in which alignments never increase -/

def Descending (layout : DataLayout) (members : List DataType) : Prop :=
  members.Pairwise fun s t => (t.align layout).bytes ≤ (s.align layout).bytes

theorem exactAlignedEnd_of_descending {members : List DataType} (h : Descending layout members)
    {offset : Nat} (hoffset : ∀ t ∈ members, (t.align layout).bytes ∣ offset) :
    exactAlignedEnd layout offset members = offset + exactRoom layout members := by
  induction members generalizing offset with
  | nil => rfl
  | cons t rest ih =>
    obtain ⟨hfirst, hrest⟩ := List.pairwise_cons.mp h
    rw [List.forall_mem_cons] at hoffset
    have hnext : ∀ s ∈ rest, (s.align layout).bytes ∣ offset + t.exactAllocSize layout := by
      intro s hs
      have hdvd : (s.align layout).bytes ∣ (t.align layout).bytes :=
        Alignment.bytes_dvd_iff.mpr (hfirst s hs)
      exact dvd_add (hoffset.2 s hs) (hdvd.trans (Alignment.dvd_ceil _ _))
    calc
      exactAlignedEnd layout offset (t :: rest)
        = exactAlignedEnd layout (offset + t.exactAllocSize layout) rest := by
          rw [exactAlignedEnd_cons, Alignment.ceil_of_dvd hoffset.1]
      _ = offset + t.exactAllocSize layout + exactRoom layout rest := ih hrest hnext
      _ = offset + exactRoom layout (t :: rest) := by rw [exactRoom_cons, Nat.add_assoc]

/-! ### The size of a struct -/

theorem ceil_exactRoom_le (members : List DataType) :
    ((struct members false).align layout).ceil (exactRoom layout members) ≤
      (struct members false).exactAllocSize layout := by
  have hroom : exactRoom layout members ≤ exactAlignedEnd layout 0 members := by
    simpa using add_exactRoom_le 0 members
  rw [exactAllocSize_struct]
  exact Alignment.ceil_mono _ hroom

/-- Whether members need any room does not depend on their order. -/
theorem exactAllocSize_pos_iff {members : List DataType} :
    0 < (struct members false).exactAllocSize layout ↔
      0 < ((struct members false).align layout).ceil (exactRoom layout members) := by
  refine ⟨fun hsize => ?_, fun hroom => hroom.trans_le (ceil_exactRoom_le members)⟩
  by_contra hzero
  have hroom := Alignment.le_ceil ((struct members false).align layout) (exactRoom layout members)
  have hend : exactAlignedEnd layout 0 members = 0 := exactAlignedEnd_eq_zero (by omega)
  rw [exactAllocSize_struct, hend, Alignment.ceil_of_dvd (dvd_zero _)] at hsize
  exact lt_irrefl 0 hsize

theorem exactAllocSize_of_descending {members : List DataType} (h : Descending layout members) :
    (struct members false).exactAllocSize layout =
      ((struct members false).align layout).ceil (exactRoom layout members) := by
  have hend : exactAlignedEnd layout 0 members = 0 + exactRoom layout members :=
    exactAlignedEnd_of_descending h fun t _ => dvd_zero _
  rw [exactAllocSize_struct, hend, Nat.zero_add]

/-- The room of members that fit into a word, as it is computed in words. -/
theorem sum_allocSize_eq_exactRoom {members : List DataType}
    (h : ∀ t ∈ members, t.exactAllocSize layout < 2 ^ 64) :
    (members.map fun t => (t.allocSize layout).toNat).sum = exactRoom layout members := by
  have hmap : (members.map fun t => (t.allocSize layout).toNat) =
      members.map (exactAllocSize layout) :=
    List.map_congr_left fun t ht => toNat_allocSize (h t ht)
  rw [hmap, exactRoom]

end DataType

namespace Record

open DataType

/-- **Order changes only padding.** Take the room of some types one by one, and round the sum up to the
alignment of their struct. No record with members of these types, in whatever order, needs less. One in
which their alignments never increase needs just that, which is the least for all orders. -/
theorem entry_of_order (layout : DataLayout) {types : List DataType}
    (hvalid : ∀ t ∈ types, t.Valid) {r : Record} (hr : (r.fields.map (·.2)).Perm types)
    (hexact : r.dataType.exactAllocSize layout < 2 ^ 63) :
    let room : Nat := (types.map fun t => (t.allocSize layout).toNat).sum
    let least : Nat := (r.dataType.align layout).ceil room
    (∃ size, r.entry layout = r.entryOfSize size ∧ least ≤ size ∧ (0 < size ↔ 0 < least)) ∧
    ∀ s : Record, (s.fields.map (·.2)).Perm types → Descending layout (s.fields.map (·.2)) →
      s.dataType.align layout = r.dataType.align layout ∧
        s.entry layout = s.entryOfSize least := by
  intro room least
  have hrvalid : r.dataType.Valid := allValid_iff.mpr fun t ht => hvalid t (hr.mem_iff.mp ht)
  have hroom : room = exactRoom layout (r.fields.map (·.2)) := by
    rw [exactRoom_perm hr]
    refine sum_allocSize_eq_exactRoom fun t ht => ?_
    have hle : t.exactAllocSize layout ≤ r.dataType.exactAllocSize layout :=
      exactAllocSize_le_of_mem (hr.mem_iff.mpr ht)
    omega
  have hleast : least = (r.dataType.align layout).ceil (exactRoom layout (r.fields.map (·.2))) := by
    rw [← hroom]
  have hle : least ≤ r.dataType.exactAllocSize layout := by
    rw [hleast]
    exact ceil_exactRoom_le _
  refine ⟨⟨_, entry_eq_entryOfSize hrvalid hexact, hle, ?_⟩, ?_⟩
  · rw [hleast]
    exact exactAllocSize_pos_iff
  · intro s hs hdescending
    have hperm : (s.fields.map (·.2)).Perm (r.fields.map (·.2)) := hs.trans hr.symm
    have halign : s.dataType.align layout = r.dataType.align layout := align_struct_perm hperm
    have hsvalid : s.dataType.Valid := allValid_iff.mpr fun t ht => hvalid t (hs.mem_iff.mp ht)
    have hsize : s.dataType.exactAllocSize layout = least := by
      calc
        s.dataType.exactAllocSize layout
          = (s.dataType.align layout).ceil (exactRoom layout (s.fields.map (·.2))) :=
            exactAllocSize_of_descending hdescending
        _ = least := by rw [halign, exactRoom_perm hperm, ← hleast]
    refine ⟨halign, ?_⟩
    rw [entry_eq_entryOfSize hsvalid (by omega), hsize]

/-- The same members with eight bytes less of padding. -/
theorem entry_of_order_tight :
    let types : List DataType := [.integer 8, .float .double, .integer 16, .integer 8]
    let loose : Record := ⟨"Loose", [("a", .integer 8), ("b", .float .double), ("c", .integer 16),
      ("d", .integer 8)]⟩
    let tight : Record := ⟨"Tight", [("b", .float .double), ("c", .integer 16), ("a", .integer 8),
      ("d", .integer 8)]⟩
    ((∀ t ∈ types, t.Valid) ∧ (loose.fields.map (·.2)).Perm types ∧
      loose.dataType.exactAllocSize {} < 2 ^ 63) ∧
      loose.entry {} = .ok ⟨"Loose", 24⟩ ∧ tight.entry {} = .ok ⟨"Tight", 16⟩ := by
  intro types loose tight
  have hvalid : ∀ t ∈ types, t.Valid := by decide
  have hloose : (loose.fields.map (·.2)).Perm types := .refl types
  have hexact : loose.dataType.exactAllocSize {} < 2 ^ 63 := by decide
  have htight : (tight.fields.map (·.2)).Perm types :=
    @List.perm_middle DataType (.integer 8) [.float .double, .integer 16] [.integer 8]
  have hdescending : Descending {} (tight.fields.map (·.2)) := by
    unfold Descending
    decide
  have horder := (entry_of_order {} hvalid hloose hexact).2 tight htight hdescending
  refine ⟨⟨hvalid, hloose, hexact⟩, by decide, ?_⟩
  rw [horder.2]
  decide

end Record

end SizeHeader
