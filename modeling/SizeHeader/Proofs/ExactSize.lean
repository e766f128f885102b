import Mathlib
import SizeHeader.Proofs.OwnTexts
import SizeHeader.Record

/-!
# Exact sizes

Sizes are computed in 64-bit words, which wrap. The same rules over unbounded numbers give the exact
size, and the word is what remains of it modulo `2 ^ 64`: alignments are powers of two, so rounding up
commutes with reduction, and sums and products do anyway. What a record is reported to take is that
remainder, read as a signed word.
-/

namespace SizeHeader

namespace Alignment

theorem bytes_eq (a : Alignment) : a.bytes = 2 ^ a.exponent := by
  rw [bytes, Nat.one_shiftLeft]

def ceil (a : Alignment) (n : Nat) : Nat := (n + a.bytes - 1) / a.bytes * a.bytes

/-- Clearing the low bits of a word rounds it down. -/
theorem and_complement_eq {k x : Nat} (hk : k ≤ 64) (hx : x < 2 ^ 64) :
    x &&& (2 ^ 64 - 1 - (2 ^ k - 1)) = x / 2 ^ k * 2 ^ k := by
  have hpow : 2 ^ k ≤ 2 ^ 64 := Nat.pow_le_pow_right (by norm_num) hk
  have hpos : 0 < 2 ^ k := Nat.two_pow_pos k
  have hmask : 2 ^ 64 - 1 - (2 ^ k - 1) = 2 ^ 64 - (2 ^ k - 1 + 1) := by omega
  apply Nat.eq_of_testBit_eq
  intro i
  rw [hmask, Nat.testBit_and, Nat.testBit_two_pow_sub_succ (by omega), Nat.testBit_two_pow_sub_one,
    Nat.testBit_mul_two_pow, Nat.testBit_div_two_pow]
  by_cases hik : k ≤ i
  · have hnot : ¬i < k := by omega
    by_cases hi : i < 64
    · simp [hik, hnot, hi]
    · have hbig : x < 2 ^ i := lt_of_lt_of_le hx (Nat.pow_le_pow_right (by norm_num) (by omega))
      simp [hik, Nat.testBit_lt_two_pow hbig]
  · simp [hik]
    omega

/-- Rounding down to a power of two that divides the modulus commutes with reduction. -/
theorem mod_div_mul {k : Nat} (hk : k ≤ 64) (x : Nat) :
    x % 2 ^ 64 / 2 ^ k * 2 ^ k = x / 2 ^ k * 2 ^ k % 2 ^ 64 := by
  have hsplit : 2 ^ 64 = 2 ^ k * 2 ^ (64 - k) := by
    rw [← pow_add, Nat.add_sub_cancel' hk]
  calc
    x % 2 ^ 64 / 2 ^ k * 2 ^ k = x / 2 ^ k % 2 ^ (64 - k) * 2 ^ k := by
      rw [hsplit, Nat.mod_mul_right_div_self]
    _ = x / 2 ^ k * 2 ^ k % (2 ^ (64 - k) * 2 ^ k) := (Nat.mul_mod_mul_right _ _ _).symm
    _ = x / 2 ^ k * 2 ^ k % 2 ^ 64 := by rw [hsplit, Nat.mul_comm (2 ^ (64 - k))]

theorem roundUp_ofNat (a : Alignment) (n : Nat) : a.roundUp (.ofNat n) = .ofNat (a.ceil n) := by
  have hpos := a.bytes_pos
  have hmask : a.mask.toNat = (a.bytes - 1) % 2 ^ 64 := UInt64.toNat_ofNat'
  apply UInt64.toNat_inj.mp
  rw [roundUp, UInt64.toNat_and, UInt64.toNat_add, UInt64.toNat_not, UInt64.toNat_ofNat',
    UInt64.toNat_ofNat', hmask, ceil]
  -- An alignment beyond any word has all bits of a word in its mask, and its multiples reduce to 0.
  rcases Nat.lt_or_ge 64 a.exponent with hlt | hle
  · obtain ⟨d, hd⟩ : 2 ^ 64 ∣ a.bytes := by
      rw [bytes_eq]
      exact pow_dvd_pow 2 hlt.le
    have hall : (a.bytes - 1) % 2 ^ 64 = 2 ^ 64 - 1 := by omega
    have hzero : (n + a.bytes - 1) / a.bytes * a.bytes % 2 ^ 64 = 0 := by
      rw [hd]
      exact Nat.mod_eq_zero_of_dvd ((Dvd.intro d rfl).mul_left _)
    rw [hall, hzero, show UInt64.size - 1 - (2 ^ 64 - 1) = 0 from rfl, Nat.and_zero]
  · have hbytes : a.bytes ≤ 2 ^ 64 := by
      rw [bytes_eq]
      exact Nat.pow_le_pow_right (by norm_num) hle
    have hsum : (n % 2 ^ 64 + (a.bytes - 1) % 2 ^ 64) % 2 ^ 64 = (n + a.bytes - 1) % 2 ^ 64 := by
      rw [← Nat.add_mod, ← Nat.add_sub_assoc hpos]
    rw [hsum, Nat.mod_eq_of_lt (by omega : a.bytes - 1 < 2 ^ 64), bytes_eq]
    rw [show UInt64.size - 1 - (2 ^ a.exponent - 1) = 2 ^ 64 - 1 - (2 ^ a.exponent - 1) from rfl,
      and_complement_eq hle (Nat.mod_lt _ (by norm_num)), mod_div_mul hle]

end Alignment

namespace DataType

mutual

/-- The size over unbounded numbers, by the rules of `size`. -/
def exactSize (layout : DataLayout) : DataType → Nat
  | integer width => bytesOfBits width
  | float format => bytesOfBits format.bits
  | pointer space => bytesOfBits (layout.pointerFormat space.toNat).bits
  | void => 0
  | label => 0
  | array count element =>
    count.toNat * (element.align layout).ceil (element.exactSize layout)
  | struct members true => exactPackedEnd layout 0 members
  | struct members false => (maxAlign layout members).ceil (exactAlignedEnd layout 0 members)

def exactPackedEnd (layout : DataLayout) (offset : Nat) : List DataType → Nat
  | [] => offset
  | t :: rest =>
    exactPackedEnd layout (offset + (t.align layout).ceil (t.exactSize layout)) rest

def exactAlignedEnd (layout : DataLayout) (offset : Nat) : List DataType → Nat
  | [] => offset
  | t :: rest =>
    exactAlignedEnd layout
      ((t.align layout).ceil offset + (t.align layout).ceil (t.exactSize layout)) rest

end

def exactAllocSize (layout : DataLayout) (t : DataType) : Nat :=
  (t.align layout).ceil (t.exactSize layout)

mutual

theorem size_eq_ofNat (layout : DataLayout) :
    ∀ t : DataType, t.size layout = .ofNat (t.exactSize layout)
  | integer _ => rfl
  | float _ => rfl
  | pointer _ => rfl
  | void => rfl
  | label => rfl
  | array count element => by
      rw [size, exactSize, size_eq_ofNat layout element, Alignment.roundUp_ofNat, UInt64.ofNat_mul]
  | struct members true => by
      rw [size, exactSize]
      exact packedEnd_ofNat layout 0 members
  | struct members false => by
      have hend : alignedEnd layout 0 members = .ofNat (exactAlignedEnd layout 0 members) :=
        alignedEnd_ofNat layout 0 members
      rw [size, exactSize, hend, Alignment.roundUp_ofNat]

theorem packedEnd_ofNat (layout : DataLayout) (offset : Nat) :
    ∀ members : List DataType,
      packedEnd layout (.ofNat offset) members = .ofNat (exactPackedEnd layout offset members)
  | [] => rfl
  | t :: rest => by
      rw [packedEnd, exactPackedEnd, size_eq_ofNat layout t, Alignment.roundUp_ofNat,
        ← UInt64.ofNat_add, packedEnd_ofNat layout _ rest]

theorem alignedEnd_ofNat (layout : DataLayout) (offset : Nat) :
    ∀ members : List DataType,
      alignedEnd layout (.ofNat offset) members = .ofNat (exactAlignedEnd layout offset members)
  | [] => rfl
  | t :: rest => by
      rw [alignedEnd, exactAlignedEnd, size_eq_ofNat layout t, Alignment.roundUp_ofNat,
        Alignment.roundUp_ofNat, ← UInt64.ofNat_add, alignedEnd_ofNat layout _ rest]

end

theorem allocSize_eq_ofNat (layout : DataLayout) (t : DataType) :
    t.allocSize layout = .ofNat (t.exactAllocSize layout) := by
  rw [allocSize, size_eq_ofNat, Alignment.roundUp_ofNat, exactAllocSize]

end DataType

namespace Record

def signed (word : Nat) : Int := if word < 2 ^ 63 then word else word - 2 ^ 64

theorem toInt_toInt64_ofNat (n : Nat) : (UInt64.ofNat n).toInt64.toInt = signed (n % 2 ^ 64) := by
  have hbits : (UInt64.ofNat n).toInt64.toInt = (BitVec.ofNat 64 n).toInt := rfl
  rw [hbits, BitVec.toInt_eq_toNat_cond, BitVec.toNat_ofNat, signed]
  split <;> split <;> omega

theorem signedSize_eq_signed (layout : DataLayout) (r : Record) :
    r.signedSize layout = signed (r.dataType.exactAllocSize layout % 2 ^ 64) := by
  rw [signedSize, DataType.allocSize_eq_ofNat, toInt_toInt64_ofNat]

theorem signed_pos_iff {word : Nat} (hword : word < 2 ^ 64) :
    0 < signed word ↔ 0 < word ∧ word < 2 ^ 63 := by
  rw [signed]
  split <;> omega

theorem size_eq_of_valid (layout : DataLayout) {r : Record} (hvalid : r.dataType.Valid) {word : Nat}
    (hword : word = r.dataType.exactAllocSize layout % 2 ^ 64) :
    r.size layout =
      if 0 < word ∧ word < 2 ^ 63 then .ok (word : Int) else .error (.notPositive (signed word)) := by
  have hlt : word < 2 ^ 64 := by omega
  have hpos := signed_pos_iff hlt
  rw [size, if_pos hvalid, signedSize_eq_signed, ← hword]
  by_cases hrange : 0 < word ∧ word < 2 ^ 63
  · rw [if_pos (hpos.mpr hrange), if_pos hrange, signed, if_pos hrange.2]
  · rw [if_neg (mt hpos.mp hrange), if_neg hrange]

theorem entry_eq_of_size_error {layout : DataLayout} {r : Record} {fault : SizeFault}
    (hsize : r.size layout = .error fault) :
    r.entry layout =
      .error (.told "IE0002" ("cannot determine size of '" ++ r.name ++ "': " ++ fault.message)) := by
  simp only [entry, hsize, Message.cannotSize, Catalog.internalError_cannotSize]

theorem entry_eq_of_size_ok {layout : DataLayout} {r : Record} {size : Int}
    (hsize : r.size layout = .ok size) : r.entry layout = .ok ⟨r.name, size⟩ := by
  simp only [entry, hsize]

/-- The size of a record with valid fields is its exact size modulo `2 ^ 64`, where that is a positive
signed word. Otherwise the error tells which number the word is. So a size is exact as soon as the
exact size is a signed word. -/
theorem entry_eq_of_valid (layout : DataLayout) (r : Record) (hvalid : r.dataType.Valid) :
    let exact : Nat := r.dataType.exactAllocSize layout
    let word : Nat := exact % 2 ^ 64
    (r.entry layout =
      if 0 < word ∧ word < 2 ^ 63 then .ok ⟨r.name, word⟩
      else .error (.told "IE0002" ("cannot determine size of '" ++ r.name ++ "': size " ++
        (signed word).repr ++ " is not positive"))) ∧
    ∀ e, r.entry layout = .ok e →
      (1 ≤ e.size ∧ e.size ≤ 2 ^ 63 - 1) ∧ (exact < 2 ^ 63 → e.size = exact) := by
  intro exact word
  have hsize : r.size layout =
      if 0 < word ∧ word < 2 ^ 63 then .ok (word : Int) else .error (.notPositive (signed word)) :=
    size_eq_of_valid layout hvalid rfl
  have hentry : r.entry layout =
      if 0 < word ∧ word < 2 ^ 63 then .ok ⟨r.name, word⟩
      else .error (.told "IE0002" ("cannot determine size of '" ++ r.name ++ "': size " ++
        (signed word).repr ++ " is not positive")) := by
    by_cases hrange : 0 < word ∧ word < 2 ^ 63
    · rw [if_pos hrange] at hsize ⊢
      exact entry_eq_of_size_ok hsize
    · rw [if_neg hrange] at hsize ⊢
      have htext : "': size " = "': " ++ "size " := rfl
      rw [entry_eq_of_size_error hsize, SizeFault.message, htext]
      simp only [String.append_assoc]
  refine ⟨hentry, ?_⟩
  intro e he
  by_cases hrange : 0 < word ∧ word < 2 ^ 63
  · rw [hentry, if_pos hrange] at he
    obtain rfl := Except.ok.inj he
    have hlow : (1 : Int) ≤ word := by omega
    have hhigh : (word : Int) ≤ 2 ^ 63 - 1 := by omega
    refine ⟨⟨hlow, hhigh⟩, ?_⟩
    intro hexact
    have hmod : word = exact := Nat.mod_eq_of_lt (by omega)
    exact congrArg Nat.cast hmod
  · rw [hentry, if_neg hrange] at he
    cases he

/-- An array that takes `2 ^ 64` bytes leaves only what stands behind it. -/
theorem entry_behind_wrapping_array :
    (Record.mk "Wrapped" [("all", .array 2305843009213693952 (.integer 64)),
      ("rest", .integer 32)]).dataType.Valid ∧
    (Record.mk "Wrapped" [("all", .array 2305843009213693952 (.integer 64)),
      ("rest", .integer 32)]).entry {} = .ok ⟨"Wrapped", 4⟩ := by
  refine ⟨by decide, ?_⟩
  rw [(entry_eq_of_valid _ _ (by decide)).1]
  decide

end Record

end SizeHeader
