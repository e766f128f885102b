import SizeHeader.Toml.Lexeme

/-!
Numbers of TOML: integers in four bases, and decimals with a fraction or an exponent. An underscore
may stand between two digits.
-/

namespace SizeHeader.Toml

inductive Real where
  /-- The mantissa times a power of ten. -/
  | decimal (negative : Bool) (mantissa : Nat) (exponent : Int)
  | infinity (negative : Bool)
  | notANumber
deriving DecidableEq, Repr

inductive Number where
  /-- An integer, with the number of its digits where it is written in decimal. -/
  | integer (n : Int) (digits : Nat)
  | real (r : Real)
deriving DecidableEq, Repr

namespace Number

/-- Splits off digits, each of which may have an underscore before it. -/
def spanDigits (isDigit : Char → Bool) : List Char → List Char × List Char
  | [] => ([], [])
  | '_' :: c :: rest =>
    if isDigit c then
      let (digits, rest) := spanDigits isDigit rest
      (c :: digits, rest)
    else ([], '_' :: c :: rest)
  | c :: rest =>
    if isDigit c then
      let (digits, rest) := spanDigits isDigit rest
      (c :: digits, rest)
    else ([], c :: rest)

def digits? (isDigit : Char → Bool) (s : List Char) : Option (List Char × List Char) :=
  match s with
  | '_' :: _ => none
  | s =>
    match spanDigits isDigit s with
    | ([], _) => none
    | result => some result

def ofDigits (base : Nat) (digits : List Char) : Nat :=
  digits.foldl (fun n c => base * n + (hexDigit? c).getD 0) 0

/-- Reads a number of a base from behind the letter that tells the base. -/
def inBase? (base : Nat) (s : List Char) : Option (Number × List Char) := do
  let (digits, rest) ← digits? (fun c => (hexDigit? c).any (· < base)) s
  return (.integer (ofDigits base digits) 0, rest)

def spanSign : List Char → Bool × List Char
  | '-' :: rest => (true, rest)
  | '+' :: rest => (false, rest)
  | s => (false, s)

/-- Reads the whole part of a decimal, which begins with zero only if it is zero. -/
def whole? : List Char → Option (List Char × List Char)
  | '0' :: rest => some (['0'], rest)
  | s => digits? Char.isDigit s

def fraction? : List Char → Option (List Char × List Char)
  | '.' :: rest => digits? Char.isDigit rest
  | _ => none

def exponent? : List Char → Option (Int × List Char)
  | c :: rest =>
    if c = 'e' ∨ c = 'E' then do
      let (negative, rest) := spanSign rest
      let (digits, rest) ← digits? Char.isDigit rest
      let n : Int := ofDigits 10 digits
      return (if negative then -n else n, rest)
    else none
  | [] => none

def decimal? (s : List Char) : Option (Number × List Char) := do
  let (negative, s) := spanSign s
  let (whole, s) ← whole? s
  let (places, s') := (fraction? s).getD ([], s)
  match exponent? s' with
  | some (e, rest) =>
    return (.real (.decimal negative (ofDigits 10 (whole ++ places)) (e - places.length)), rest)
  | none =>
    if places = [] then
      let n : Int := ofDigits 10 whole
      return (.integer (if negative then -n else n) whole.length, s')
    else return (.real (.decimal negative (ofDigits 10 (whole ++ places)) (-places.length)), s')

def special? (s : List Char) : Option (Number × List Char) :=
  match spanSign s with
  | (negative, 'i' :: 'n' :: 'f' :: rest) => some (.real (.infinity negative), rest)
  | (_, 'n' :: 'a' :: 'n' :: rest) => some (.real .notANumber, rest)
  | _ => none

def ofChars? : List Char → Option (Number × List Char)
  | '0' :: 'x' :: rest => inBase? 16 rest
  | '0' :: 'o' :: rest => inBase? 8 rest
  | '0' :: 'b' :: rest => inBase? 2 rest
  | s => decimal? s <|> special? s

end Number

end SizeHeader.Toml
