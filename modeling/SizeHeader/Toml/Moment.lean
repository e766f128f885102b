/-!
Dates and times of TOML. A date may have a time behind it, and a time there may have an offset; a
time can also stand alone. Only the form is kept, and the day has to be one of its month.
-/

namespace SizeHeader.Toml

inductive Moment where
  | date
  | dateTime
  | time
deriving DecidableEq, Repr

namespace Moment

def fixed? (count : Nat) (s : List Char) : Option (Nat × List Char) :=
  let digits := s.take count
  if digits.length = count && digits.all Char.isDigit then
    some (Nat.ofDigitChars 10 digits 0, s.drop count)
  else none

/-- Reads a number of two digits that is at most so great, from behind a mark. -/
def pair? (mark : Char) (greatest : Nat) : List Char → Option (Nat × List Char)
  | [] => none
  | c :: rest => do
    guard (c = mark)
    let (n, rest) ← fixed? 2 rest
    guard (n ≤ greatest)
    return (n, rest)

def isLeap (year : Nat) : Bool := year % 4 = 0 && (year % 100 ≠ 0 || year % 400 = 0)

/-- The number of days in a month; there are none in a month that is none. -/
def monthLength (year month : Nat) : Nat :=
  if month = 2 then (if isLeap year then 29 else 28)
  else if month ∈ [4, 6, 9, 11] then 30
  else if 1 ≤ month && month ≤ 12 then 31
  else 0

/-- What is behind a date at the front of a text. Years begin with 1. -/
def afterDate? (s : List Char) : Option (List Char) := do
  let (year, s) ← fixed? 4 s
  let (month, s) ← pair? '-' 12 s
  let (day, s) ← pair? '-' 31 s
  guard (1 ≤ year ∧ 1 ≤ day ∧ day ≤ monthLength year month)
  return s

def skipFraction : List Char → List Char
  | '.' :: c :: rest => if c.isDigit then rest.dropWhile Char.isDigit else '.' :: c :: rest
  | s => s

def afterTime? (s : List Char) : Option (List Char) := do
  let (hour, s) ← fixed? 2 s
  guard (hour ≤ 23)
  let (_, s) ← pair? ':' 59 s
  let (_, s) ← pair? ':' 59 s
  return skipFraction s

def skipOffset (s : List Char) : List Char :=
  match s with
  | [] => []
  | c :: rest =>
    if c = 'Z' ∨ c = 'z' then rest
    else
      let signed := do
        let (_, s) ← pair? '+' 23 s <|> pair? '-' 23 s
        let (_, s) ← pair? ':' 59 s
        return s
      signed.getD s

def afterDateTime? : List Char → Option (List Char)
  | [] => none
  | c :: rest => do
    guard (c = 'T' ∨ c = 't' ∨ c = ' ')
    return skipOffset (← afterTime? rest)

def ofChars? (s : List Char) : Option (Moment × List Char) :=
  match afterDate? s with
  | some rest =>
    match afterDateTime? rest with
    | some rest => some (.dateTime, rest)
    | none => some (.date, rest)
  | none => (afterTime? s).map fun rest => (.time, rest)

end Moment

end SizeHeader.Toml
