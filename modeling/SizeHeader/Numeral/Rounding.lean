/-!
Rounding of natural numbers to the nearest one with a limited number of significant digits. Of two
that are equally near, the one with the even last digit is taken.
-/

namespace SizeHeader.Numeral

def divRound (n d : Nat) : Nat :=
  if 2 * (n % d) < d || (2 * (n % d) = d && n / d % 2 = 0) then n / d else n / d + 1

/-- The digits after the first `count` of them, which rounding drops. -/
def excess (base count n : Nat) : Nat := (Nat.toDigits base n).length - count

/-- The number in units of the last digit kept. A carry may give it one digit more. -/
def leading (base count n : Nat) : Nat := divRound n (Nat.pow base (excess base count n))

def doubleBits : Nat := 53

def doubleBound : Nat := 1 <<< 1024

/-- The nearest number of double precision, if it does not lie beyond the last of them. -/
def nearestDouble? (n : Nat) : Option Nat :=
  let rounded := leading 2 doubleBits n <<< excess 2 doubleBits n
  if rounded < doubleBound then some rounded else none

end SizeHeader.Numeral
