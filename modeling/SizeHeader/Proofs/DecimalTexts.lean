import SizeHeader.Message.Argument

/-!
# Decimal texts

Integers of up to 4300 digits have a text, and so has every argument that is not an integer. In either
direction from zero the first integer without one is a power of ten.
-/

namespace SizeHeader

namespace Text

theorem lt_digitCount_iff {n : Int} {k : Nat} (hk : 0 < k) :
    k < digitCount n ↔ Nat.pow 10 k ≤ n.natAbs := by
  have hlength : digitCount n ≤ k ↔ n.natAbs < Nat.pow 10 k :=
    Nat.length_toDigits_le_iff (by decide) hk
  rw [← Nat.not_le, hlength, Nat.not_lt]

def powerOfTen (k : Nat) : Int := .ofNat (.pow 10 k)

theorem lt_digitCount_powerOfTen {k : Nat} (hk : 0 < k) : k < digitCount (powerOfTen k) :=
  (lt_digitCount_iff hk).mpr (Nat.le_refl (.pow 10 k))

theorem digitCount_powerOfTen {k : Nat} (hk : 0 < k) : digitCount (powerOfTen k) = k + 1 := by
  have hlower := lt_digitCount_powerOfTen hk
  have hupper : ¬k + 1 < digitCount (powerOfTen k) := by
    rw [lt_digitCount_iff (Nat.succ_pos k), Nat.not_le]
    exact Nat.pow_lt_pow_succ (by decide)
  omega

end Text

namespace Argument

/-- An integer that has more digits than are written. -/
def IsLong (a : Argument) : Prop := ∃ n, a = .integer n ∧ 4300 < Text.digitCount n

theorem isLong_integer_iff {n : Int} : (integer n).IsLong ↔ 4300 < Text.digitCount n := by
  simp [IsLong]

instance : DecidablePred IsLong
  | integer _ => decidable_of_iff' _ isLong_integer_iff
  | text _ => .isFalse (by simp [IsLong])
  | boolean _ => .isFalse (by simp [IsLong])
  | absent => .isFalse (by simp [IsLong])

theorem plain?_eq_none_iff {a : Argument} : a.plain? = none ↔ a.IsLong := by
  cases a with
  | text s => simp [plain?, IsLong]
  | integer n => rw [isLong_integer_iff, plain?, Text.decimal?_eq_none_iff, Text.maxDigits]
  | boolean b => cases b <;> simp [plain?, IsLong]
  | absent => simp [plain?, IsLong]

theorem exists_plain?_iff {a : Argument} : (∃ s, a.plain? = some s) ↔ ¬a.IsLong := by
  rw [← plain?_eq_none_iff, ← Option.isSome_iff_exists, Option.isSome_iff_ne_none]

end Argument

end SizeHeader
