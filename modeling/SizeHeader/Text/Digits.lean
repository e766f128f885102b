/-!
Numerals. Layouts and data types use the ten ASCII digits; message templates take the decimal digits
of every script, each script's ten digits being consecutive code points.
-/

namespace SizeHeader.Text

def nat? (s : List Char) : Option Nat :=
  if s ≠ [] ∧ s.all Char.isDigit then some (Nat.ofDigitChars 10 s 0) else none

def zeroDigits : List Nat := [
  48, 1632, 1776, 1984, 2406, 2534, 2662, 2790, 2918, 3046, 3174, 3302, 3430, 3558, 3664, 3792,
  3872, 4160, 4240, 6112, 6160, 6470, 6608, 6784, 6800, 6992, 7088, 7232, 7248, 42528, 43216,
  43264, 43472, 43504, 43600, 44016, 65296, 66720, 68912, 69734, 69872, 69942, 70096, 70384,
  70736, 70864, 71248, 71360, 71472, 71904, 72016, 72784, 73040, 73120, 92768, 92864, 93008,
  120782, 120792, 120802, 120812, 120822, 123200, 123632, 125264, 130032]

def decimalDigit? (c : Char) : Option Nat :=
  (zeroDigits.find? fun least => least ≤ c.toNat && c.toNat < least + 10).map (c.toNat - ·)

def spanDigits : List Char → List Nat × List Char
  | [] => ([], [])
  | c :: rest =>
    match decimalDigit? c with
    | some digit =>
      let (digits, after) := spanDigits rest
      (digit :: digits, after)
    | none => ([], c :: rest)

def ofDigits (digits : List Nat) : Nat :=
  digits.foldl (fun n digit => 10 * n + digit) 0

/-- The greatest number that counts something, that of a signed 64-bit word. -/
def maxIndex : Nat := 9223372036854775807

def index? (s : List Char) : Option Nat :=
  match spanDigits s with
  | ([], _) => none
  | (digits, []) => some (ofDigits digits)
  | _ => none

/-- Whether the digits that a text begins with are too many for a number. -/
def overflows (s : List Char) : Bool := maxIndex < ofDigits (spanDigits s).1

end SizeHeader.Text
