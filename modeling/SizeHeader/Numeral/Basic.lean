import SizeHeader.Numeral.Rounding

/-!
Numerals: whole numbers written in a base, with decimal places, or with an exponent.
-/

namespace SizeHeader

/-- A written number in its parts, from left to right. Only the digits may be grouped. -/
structure Numeral where
  negative : Bool
  lead : List Char
  digits : List Char
  tail : List Char
deriving DecidableEq, Repr

namespace Numeral

inductive Base where
  | binary
  | octal
  | decimal
  | hexadecimal
deriving DecidableEq, Repr

namespace Base

def value : Base → Nat
  | binary => 2
  | octal => 8
  | decimal => 10
  | hexadecimal => 16

def lead : Base → List Char
  | binary => ['0', 'b']
  | octal => ['0', 'o']
  | decimal => []
  | hexadecimal => ['0', 'x']

end Base

def inBase (b : Base) (told : Bool) (n : Int) : Numeral where
  negative := n < 0
  lead := if told then b.lead else []
  digits := Nat.toDigits b.value n.natAbs
  tail := []

def fraction (point : Bool) (places : List Char) : List Char :=
  if places = [] && !point then [] else '.' :: places

def exponent (n : Nat) : List Char :=
  'e' :: '+' :: (if n < 10 then '0' :: Nat.toDigits 10 n else Nat.toDigits 10 n)

def fixed (point : Bool) (places n : Nat) : List Char × List Char :=
  (Nat.toDigits 10 n, fraction point (.replicate places '0'))

/-- The first `count` digits of a number, filled up with zeros, and the exponent of the first. -/
def significant (count n : Nat) : List Char × Nat :=
  let digits := Nat.toDigits 10 (leading 10 count n)
  (digits.take count ++ .replicate (count - digits.length) '0',
    digits.length + excess 10 count n - 1)

def scientific (point : Bool) (places n : Nat) : List Char × List Char :=
  let (digits, e) := significant (places + 1) n
  (digits.take 1, fraction point (digits.drop 1) ++ exponent e)

def dropLastZeros (s : List Char) : List Char := (s.reverse.dropWhile (· = '0')).reverse

/-- A number with so many digits in all, and an exponent where these are too few. Zeros at the end of
decimal places stay only where the point is asked for. -/
def general (point : Bool) (count n : Nat) : List Char × List Char :=
  let length := (Nat.toDigits 10 n).length
  if length ≤ count then fixed point (if point then count - length else 0) n
  else
    let (digits, e) := significant count n
    let places := digits.drop 1
    (digits.take 1, fraction point (if point then places else dropLastZeros places) ++ exponent e)

def upper (n : Numeral) : Numeral :=
  { n with
    lead := n.lead.map Char.toUpper
    digits := n.digits.map Char.toUpper
    tail := n.tail.map Char.toUpper }

/-- Puts a separator between groups of `size` digits, counted from the right, and counts the digits. -/
def separateCounting (separator : Char) (size : Nat) : List Char → List Char × Nat
  | [] => ([], 0)
  | c :: rest =>
    let (separated, count) := separateCounting separator size rest
    if count ≠ 0 && count % size = 0 then (c :: separator :: separated, count + 1)
    else (c :: separated, count + 1)

def separate (separator : Char) (size : Nat) (digits : List Char) : List Char :=
  (separateCounting separator size digits).1

/-- The least number of digits that fill a width when every `size` of them are separated. -/
def digitsFilling (size width : Nat) : Nat :=
  width / (size + 1) * size + max 1 (width % (size + 1))

end Numeral

end SizeHeader
