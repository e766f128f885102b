/-!
Alignments are powers of two, and addresses are 64-bit words.
-/

namespace SizeHeader

/-- An alignment of `2 ^ exponent` bytes. -/
structure Alignment where
  exponent : Nat
deriving DecidableEq, Repr

namespace Alignment

def byte : Alignment := ⟨0⟩

def bytes (a : Alignment) : Nat := 1 <<< a.exponent

theorem bytes_pos (a : Alignment) : 0 < a.bytes := by
  rw [bytes, Nat.one_shiftLeft]
  exact Nat.two_pow_pos a.exponent

instance : Max Alignment where
  max a b := ⟨max a.exponent b.exponent⟩

/-- The alignment given in bits, where no bits stand for no requirement. -/
def ofBits? (bits : Nat) : Option Alignment :=
  let exponent := (bits / 8).log2
  if bits = 0 then some byte
  else if bits = 8 * bytes ⟨exponent⟩ then some ⟨exponent⟩
  else none

/-- The low bits that are clear in every multiple of the alignment. -/
def mask (a : Alignment) : UInt64 := .ofNat (a.bytes - 1)

/-- The next multiple of the alignment, in 64-bit arithmetic. -/
def roundUp (a : Alignment) (w : UInt64) : UInt64 :=
  (w + a.mask) &&& ~~~a.mask

end Alignment

end SizeHeader
