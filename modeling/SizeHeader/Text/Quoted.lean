import SizeHeader.Text.Printable

/-!
Quoted texts. A text stands between two equal delimiters, and whatever could be taken for something
else is written with a backslash: the backslash itself, the delimiter, line breaks and tabs, and
every unprintable character by its code point.
-/

namespace SizeHeader.Text.Quoted

def hex : Nat → Nat → List Char
  | 0, _ => []
  | width + 1, n => hex width (n / 16) ++ [Nat.digitChar (n % 16)]

/-- The shortest numeric escape that has room for the code point. -/
def codePoint (n : Nat) : List Char :=
  if n < 0x100 then '\\' :: 'x' :: hex 2 n
  else if n < 0x10000 then '\\' :: 'u' :: hex 4 n
  else '\\' :: 'U' :: hex 8 n

/-- Which characters outside the escapes proper are written as they are. -/
structure Alphabet where
  plain : Char → Bool

def unicode : Alphabet := ⟨isPrintable⟩

def ascii : Alphabet := ⟨fun c => 32 ≤ c.toNat && c.toNat < 127⟩

/-- Texts are delimited by single quotes, but by double quotes where that saves every escape. -/
def delimiter (s : List Char) : Char :=
  if '\'' ∈ s ∧ '"' ∉ s then '"' else '\''

def encodeChar (alphabet : Alphabet) (quote c : Char) : List Char :=
  if c = quote ∨ c = '\\' then ['\\', c]
  else if c = '\n' then ['\\', 'n']
  else if c = '\r' then ['\\', 'r']
  else if c = '\t' then ['\\', 't']
  else if alphabet.plain c then [c]
  else codePoint c.toNat

def encodeChars (alphabet : Alphabet) (s : List Char) : List Char :=
  delimiter s :: (s.flatMap (encodeChar alphabet (delimiter s)) ++ [delimiter s])

end Quoted

def quoted (s : String) : String :=
  .ofList (Quoted.encodeChars Quoted.unicode s.toList)

def quotedAscii (s : String) : String :=
  .ofList (Quoted.encodeChars Quoted.ascii s.toList)

end SizeHeader.Text
