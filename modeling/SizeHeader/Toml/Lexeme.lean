/-!
The lexemes of TOML: blanks, comments, strings and keys. Each reader takes characters from the front
of a text and returns what is left.
-/

namespace SizeHeader.Toml

def isBlank (c : Char) : Bool := c = ' ' || c = '\t'

/-- Control characters, of which only the tab may stand in comments and strings. -/
def isForbidden (c : Char) : Bool := (c.toNat < 32 && c ≠ '\t') || c.toNat = 127

def skipBlanks (s : List Char) : List Char := s.dropWhile isBlank

/-- Skips blanks, line breaks and comments, starting inside or outside a comment. -/
def skipLines : Bool → List Char → Option (List Char)
  | _, [] => some []
  | true, c :: rest =>
    if c = '\n' then skipLines false rest
    else if isForbidden c then none
    else skipLines true rest
  | false, c :: rest =>
    if isBlank c || c = '\n' then skipLines false rest
    else if c = '#' then skipLines true rest
    else some (c :: rest)

def endLine (s : List Char) : Option (List Char) :=
  let afterComment :=
    match skipBlanks s with
    | '#' :: rest =>
      if (rest.takeWhile (· ≠ '\n')).any isForbidden then none
      else some (rest.dropWhile (· ≠ '\n'))
    | rest => some rest
  match afterComment with
  | some [] => some []
  | some ('\n' :: rest) => some rest
  | _ => none

/-- Line ends of one form: a carriage return before a line feed is dropped. -/
def normalizeLines : List Char → List Char
  | [] => []
  | '\r' :: '\n' :: rest => '\n' :: normalizeLines rest
  | c :: rest => c :: normalizeLines rest

/-! ### Strings -/

def hexDigit? (c : Char) : Option Nat :=
  if '0' ≤ c ∧ c ≤ '9' then some (c.toNat - '0'.toNat)
  else if 'a' ≤ c ∧ c ≤ 'f' then some (c.toNat - 'a'.toNat + 10)
  else if 'A' ≤ c ∧ c ≤ 'F' then some (c.toNat - 'A'.toNat + 10)
  else none

def codePoint? (digits : List Char) : Option Char := do
  let n := (← digits.mapM hexDigit?).foldl (fun n d => 16 * n + d) 0
  if n.isValidChar then some (.ofNat n) else none

def escape? : Char → Option Char
  | 'b' => some '\x08'
  | 't' => some '\t'
  | 'n' => some '\n'
  | 'f' => some '\x0c'
  | 'r' => some '\r'
  | '"' => some '"'
  | '\\' => some '\\'
  | _ => none

def prepend (c : Char) (result : List Char × List Char) : List Char × List Char :=
  (c :: result.1, result.2)

def basicBody : List Char → Option (List Char × List Char)
  | [] => none
  | '"' :: rest => some ([], rest)
  | '\\' :: 'u' :: a :: b :: c :: d :: rest => do
    return prepend (← codePoint? [a, b, c, d]) (← basicBody rest)
  | '\\' :: 'U' :: a :: b :: c :: d :: e :: f :: g :: h :: rest => do
    return prepend (← codePoint? [a, b, c, d, e, f, g, h]) (← basicBody rest)
  | '\\' :: c :: rest => do return prepend (← escape? c) (← basicBody rest)
  | c :: rest => if isForbidden c then none else do return prepend c (← basicBody rest)

/-- Reads a basic string of several lines up to its three closing quotes. A backslash at the end of a
line makes all blanks and line breaks behind it be skipped. -/
def longBasicBody (skipping : Bool) : List Char → Option (List Char × List Char)
  | [] => none
  | '"' :: '"' :: '"' :: rest => some ([], rest)
  | '\\' :: 'u' :: a :: b :: c :: d :: rest => do
    return prepend (← codePoint? [a, b, c, d]) (← longBasicBody false rest)
  | '\\' :: 'U' :: a :: b :: c :: d :: e :: f :: g :: h :: rest => do
    return prepend (← codePoint? [a, b, c, d, e, f, g, h]) (← longBasicBody false rest)
  | '\\' :: c :: rest =>
    if isBlank c || c = '\n' then
      if (skipBlanks (c :: rest)).head? = some '\n' then longBasicBody true rest else none
    else do return prepend (← escape? c) (← longBasicBody false rest)
  | c :: rest =>
    if skipping && (isBlank c || c = '\n') then longBasicBody true rest
    else if isForbidden c && c ≠ '\n' then none
    else do return prepend c (← longBasicBody false rest)

def literalBody : List Char → Option (List Char × List Char)
  | [] => none
  | '\'' :: rest => some ([], rest)
  | c :: rest => if isForbidden c then none else do return prepend c (← literalBody rest)

def longLiteralBody : List Char → Option (List Char × List Char)
  | [] => none
  | '\'' :: '\'' :: '\'' :: rest => some ([], rest)
  | c :: rest =>
    if isForbidden c && c ≠ '\n' then none else do return prepend c (← longLiteralBody rest)

/-- Up to two quotes right behind the closing ones belong to a string of several lines. -/
def withClosingQuotes (quote : Char) : List Char × List Char → List Char × List Char
  | (s, c :: d :: rest) =>
    if c = quote then
      if d = quote then (s ++ [quote, quote], rest) else (s ++ [quote], d :: rest)
    else (s, c :: d :: rest)
  | (s, [c]) => if c = quote then (s ++ [quote], []) else (s, [c])
  | (s, []) => (s, [])

/-- A line break right behind the opening quotes is no part of the string. -/
def dropFirstBreak : List Char → List Char
  | '\n' :: rest => rest
  | s => s

def string? : List Char → Option (List Char × List Char)
  | '"' :: '"' :: '"' :: rest =>
    (longBasicBody false (dropFirstBreak rest)).map (withClosingQuotes '"')
  | '"' :: rest => basicBody rest
  | '\'' :: '\'' :: '\'' :: rest =>
    (longLiteralBody (dropFirstBreak rest)).map (withClosingQuotes '\'')
  | '\'' :: rest => literalBody rest
  | _ => none

/-! ### Keys -/

def isBare (c : Char) : Bool := c.isAlphanum || c = '-' || c = '_'

def keyPart? : List Char → Option (String × List Char)
  | '"' :: rest => (basicBody rest).map fun (s, rest) => (.ofList s, rest)
  | '\'' :: rest => (literalBody rest).map fun (s, rest) => (.ofList s, rest)
  | s =>
    if s.takeWhile isBare = [] then none
    else some (.ofList (s.takeWhile isBare), s.dropWhile isBare)

def key? : Nat → List Char → Option (List String × List Char)
  | 0, _ => none
  | parts + 1, s => do
    let (part, rest) ← keyPart? s
    match skipBlanks rest with
    | '.' :: rest =>
      let (others, rest) ← key? parts (skipBlanks rest)
      return (part :: others, rest)
    | rest => return ([part], rest)

end SizeHeader.Toml
