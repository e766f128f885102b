/-!
Decimal texts of integers. An integer is read and written only up to a greatest number of digits, so
not every integer has a text.
-/

namespace SizeHeader.Text

/-- The most digits that an integer is read or written with. -/
def maxDigits : Nat := 4300

def digitCount (n : Int) : Nat := (Nat.toDigits 10 n.natAbs).length

def decimal? (n : Int) : Option String :=
  if digitCount n ≤ maxDigits then some n.repr else none

/-- What is told of an integer with more digits, with their number where they were counted. -/
def tooLong (digits : Option Nat) : String :=
  "Exceeds the limit (" ++ maxDigits.repr ++ " digits) for integer string conversion"
    ++ digits.elim "" (fun count => ": value has " ++ count.repr ++ " digits")
    ++ "; use sys.set_int_max_str_digits() to increase the limit"

theorem decimal?_eq_some_iff {n : Int} {s : String} :
    decimal? n = some s ↔ digitCount n ≤ maxDigits ∧ s = n.repr := by
  simp [decimal?, eq_comm]

theorem decimal?_eq_none_iff {n : Int} : decimal? n = none ↔ maxDigits < digitCount n := by
  simp [decimal?]

end SizeHeader.Text
