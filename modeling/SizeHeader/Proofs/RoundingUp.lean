import Mathlib
import SizeHeader.Proofs.ExactSize

/-!
# Rounding up

An offset rounded up is the least multiple of the alignment that is not below it. Alignments divide
each other as they are ordered, so rounding up to one and then to a larger one rounds up to the larger
one alone.
-/

namespace SizeHeader.Alignment

theorem dvd_ceil (a : Alignment) (n : Nat) : a.bytes ∣ a.ceil n :=
  Nat.dvd_mul_left a.bytes ((n + a.bytes - 1) / a.bytes)

theorem le_ceil (a : Alignment) (n : Nat) : n ≤ a.ceil n := by
  have hpos := a.bytes_pos
  have hsplit := Nat.div_add_mod' (n + a.bytes - 1) a.bytes
  have hrest := Nat.mod_lt (n + a.bytes - 1) hpos
  unfold ceil
  omega

theorem ceil_le {a : Alignment} {n m : Nat} (hm : a.bytes ∣ m) (h : n ≤ m) : a.ceil n ≤ m := by
  obtain ⟨k, rfl⟩ := hm
  have hpos := a.bytes_pos
  have hlt : n + a.bytes - 1 < a.bytes * (k + 1) := by
    rw [Nat.mul_add, Nat.mul_one]
    omega
  have hquot : (n + a.bytes - 1) / a.bytes ≤ k := Nat.lt_succ_iff.mp (Nat.div_lt_of_lt_mul hlt)
  calc
    a.ceil n ≤ k * a.bytes := Nat.mul_le_mul_right a.bytes hquot
    _ = a.bytes * k := Nat.mul_comm k a.bytes

theorem ceil_of_dvd {a : Alignment} {n : Nat} (h : a.bytes ∣ n) : a.ceil n = n :=
  le_antisymm (ceil_le h le_rfl) (a.le_ceil n)

theorem ceil_mono (a : Alignment) {n m : Nat} (h : n ≤ m) : a.ceil n ≤ a.ceil m :=
  ceil_le (a.dvd_ceil m) (h.trans (a.le_ceil m))

theorem bytes_le_iff {a b : Alignment} : a.bytes ≤ b.bytes ↔ a.exponent ≤ b.exponent := by
  rw [bytes_eq, bytes_eq, Nat.pow_le_pow_iff_right (by decide)]

theorem bytes_dvd_iff {a b : Alignment} : a.bytes ∣ b.bytes ↔ a.bytes ≤ b.bytes := by
  rw [bytes_le_iff, bytes_eq, bytes_eq, Nat.pow_dvd_pow_iff_le_right (by decide)]

theorem ceil_ceil {a b : Alignment} (h : a.bytes ∣ b.bytes) (n : Nat) :
    b.ceil (a.ceil n) = b.ceil n := by
  apply le_antisymm
  · exact ceil_le (b.dvd_ceil n) (ceil_le (h.trans (b.dvd_ceil n)) (b.le_ceil n))
  · exact b.ceil_mono (a.le_ceil n)

theorem exponent_max (a b : Alignment) : (max a b).exponent = max a.exponent b.exponent := rfl

theorem dvd_max_left (a b : Alignment) : a.bytes ∣ (max a b).bytes := by
  rw [bytes_dvd_iff, bytes_le_iff, exponent_max]
  exact le_max_left a.exponent b.exponent

theorem dvd_max_right (a b : Alignment) : b.bytes ∣ (max a b).bytes := by
  rw [bytes_dvd_iff, bytes_le_iff, exponent_max]
  exact le_max_right a.exponent b.exponent

/-- The larger of two alignments asks for what both ask for. -/
theorem max_dvd_iff {a b : Alignment} {n : Nat} :
    (max a b).bytes ∣ n ↔ a.bytes ∣ n ∧ b.bytes ∣ n := by
  constructor
  · intro h
    exact ⟨(dvd_max_left a b).trans h, (dvd_max_right a b).trans h⟩
  · rintro ⟨ha, hb⟩
    rcases le_total a.exponent b.exponent with hle | hle
    · have hmax : max a b = b := congrArg mk (max_eq_right hle)
      rwa [hmax]
    · have hmax : max a b = a := congrArg mk (max_eq_left hle)
      rwa [hmax]

end SizeHeader.Alignment
