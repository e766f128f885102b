import SizeHeader.Text.Quoted

/-!
Latin-1: each character up to U+00FF is one byte, its code point, and no other character has a form.
A text is encoded as a whole or not at all.
-/

namespace SizeHeader.Text

/-- The first run of characters of a text that have no byte. -/
structure Unencodable where
  first : Char
  start : Nat
  length : Nat
deriving DecidableEq, Repr

namespace Latin1

def name : String := "latin-1"

def encodable (c : Char) : Bool := c.toNat < 256

def byte (c : Char) : UInt8 := .ofNat c.toNat

def char (b : UInt8) : Char := .ofNat b.toNat

def encodeChars (s : List Char) : Except Unencodable (List UInt8) :=
  match s.dropWhile encodable with
  | [] => .ok (s.map byte)
  | c :: rest =>
    .error
      { first := c
        start := (s.takeWhile encodable).length
        length := ((c :: rest).takeWhile (!encodable ·)).length }

def encode (s : String) : Except Unencodable (List UInt8) :=
  encodeChars s.toList

def decode (bytes : List UInt8) : String :=
  .ofList (bytes.map char)

end Latin1

/-- A single character is named by its code point, a longer run by its first and last position. -/
def Unencodable.message (e : Unencodable) : String :=
  let subject :=
    if e.length = 1 then
      "character '" ++ String.ofList (Quoted.codePoint e.first.toNat) ++ "' in position "
        ++ e.start.repr
    else
      "characters in position " ++ e.start.repr ++ "-" ++ (e.start + e.length - 1).repr
  "'latin-1' codec can't encode " ++ subject ++ ": ordinal not in range(256)"

end SizeHeader.Text
