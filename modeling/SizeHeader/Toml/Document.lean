import SizeHeader.Text.Decimal
import SizeHeader.Toml.Lexeme
import SizeHeader.Toml.Value

/-!
TOML documents: lines that hold a key with a value, or the header of the table that the lines below
it belong to.
-/

namespace SizeHeader.Toml

inductive Fault where
  | malformed
  /-- An integer has so many decimal digits, more than `Text.maxDigits`. -/
  | longInteger (digits : Nat)
deriving DecidableEq, Repr

def orMalformed {α : Type} : Option α → Except Fault α
  | some a => .ok a
  | none => .error .malformed

/-- Enough steps for reading a text, each of which takes at least one character. -/
def steps (s : List Char) : Nat := s.length + 1

def scalar (s : List Char) : Except Fault (Value × List Char) :=
  match s with
  | 't' :: 'r' :: 'u' :: 'e' :: rest => .ok (.boolean true, rest)
  | 'f' :: 'a' :: 'l' :: 's' :: 'e' :: rest => .ok (.boolean false, rest)
  | s =>
    match Moment.ofChars? s with
    | some (kind, rest) => .ok (.moment kind (.ofList (s.take (s.length - rest.length))), rest)
    | none =>
      match Number.ofChars? s with
      | some (.integer n digits, rest) =>
        if Text.maxDigits < digits then .error (.longInteger digits) else .ok (.integer n, rest)
      | some (.real r, rest) => .ok (.real r, rest)
      | none => .error .malformed

mutual

def value : Nat → List Char → Except Fault (Value × List Char)
  | 0, _ => .error .malformed
  | _ + 1, [] => .error .malformed
  | n + 1, c :: rest =>
    if c = '"' ∨ c = '\'' then do
      let (s, rest) ← orMalformed (string? (c :: rest))
      return (.text (.ofList s), rest)
    else if c = '[' then do
      let (items, rest) ← items n (← orMalformed (skipLines false rest))
      return (.array items, rest)
    else if c = '{' then
      match skipBlanks rest with
      | '}' :: rest => .ok (.table .inline [], rest)
      | rest => do
        let (entries, rest) ← pairs n [] rest
        return (.table .inline entries, rest)
    else scalar (c :: rest)

/-- Reads the items of an array up to its closing bracket. A comma may stand behind the last. -/
def items : Nat → List Char → Except Fault (List Value × List Char)
  | 0, _ => .error .malformed
  | _ + 1, ']' :: rest => .ok ([], rest)
  | n + 1, s => do
    let (v, rest) ← value n s
    match ← orMalformed (skipLines false rest) with
    | ']' :: rest => return ([v], rest)
    | ',' :: rest =>
      let (vs, rest) ← items n (← orMalformed (skipLines false rest))
      return (v :: vs, rest)
    | _ => throw .malformed

def pairs : Nat → Entries → List Char → Except Fault (Entries × List Char)
  | 0, _, _ => .error .malformed
  | n + 1, entries, s => do
    let (key, rest) ← orMalformed (key? n s)
    match rest with
    | '=' :: rest =>
      let (v, rest) ← value n (skipBlanks rest)
      let entries ← orMalformed (entries.insert 0 v key)
      match skipBlanks rest with
      | '}' :: rest => return (entries, rest)
      | ',' :: rest => pairs n entries (skipBlanks rest)
      | _ => throw .malformed
    | _ => throw .malformed

end

/-- What the lines so far have built: all tables, the header that the next line stands under, and the
number of headers before it. -/
structure Builder where
  entries : Entries := []
  header : List String := []
  part : Nat := 0

namespace Builder

def insert (b : Builder) (key : List String) (v : Value) : Option Builder := do
  let entries ←
    if b.header = [] then b.entries.insert b.part v key
    else b.entries.modify (Value.withEntries (Entries.insert b.part v key)) b.header
  return { b with entries }

def openHeader (b : Builder) (header : List String) (f : Option Value → Option Value) :
    Option Builder := do
  return { entries := ← b.entries.modify f header, header, part := b.part + 1 }

/-- Reads the statement at the beginning of a line, up to the blanks behind it. -/
def statement (b : Builder) : List Char → Except Fault (Builder × List Char)
  | '[' :: '[' :: rest => do
    let (header, rest) ← orMalformed (key? (steps rest) (skipBlanks rest))
    match rest with
    | ']' :: ']' :: rest => return (← orMalformed (b.openHeader header Value.grown), rest)
    | _ => throw .malformed
  | '[' :: rest => do
    let (header, rest) ← orMalformed (key? (steps rest) (skipBlanks rest))
    match rest with
    | ']' :: rest => return (← orMalformed (b.openHeader header Value.opened), rest)
    | _ => throw .malformed
  | s => do
    let (key, rest) ← orMalformed (key? (steps s) s)
    match rest with
    | '=' :: rest =>
      let (v, rest) ← value (steps rest) (skipBlanks rest)
      return (← orMalformed (b.insert key v), rest)
    | _ => throw .malformed

def lines (b : Builder) : Nat → List Char → Except Fault Entries
  | 0, _ => .error .malformed
  | n + 1, s =>
    match skipBlanks s with
    | [] => .ok b.entries
    | '\n' :: rest => lines b n rest
    | '#' :: rest => do lines b n (← orMalformed (endLine ('#' :: rest)))
    | s => do
      let (b, rest) ← b.statement s
      lines b n (← orMalformed (endLine rest))

end Builder

def document (s : String) : Except Fault Entries :=
  let lines := normalizeLines s.toList
  Builder.lines {} (steps lines) lines

end SizeHeader.Toml
