import SizeHeader.Layout.Basic
import SizeHeader.Text.Digits
import SizeHeader.Text.Terminated

/-!
Layout strings: specifications separated by dashes, each of which changes one entry of the default
layout or nothing at all. A specification gives its numbers in bits, separated by colons; what follows
the ABI alignment is a preference and has no effect.
-/

namespace SizeHeader

inductive Specification where
  | integer (width : Nat) (align : Alignment)
  | float (width : Nat) (align : Alignment)
  | pointer (space : Nat) (format : PointerFormat)
  | aggregate (align : Alignment)
  /-- Byte order, mangling, native widths and whatever else leaves sizes alone. -/
  | neutral
deriving DecidableEq, Repr

namespace Specification

def align? (bits : List Char) : Option Alignment :=
  Text.nat? bits >>= Alignment.ofBits?

/-- Letters before the number of an address space that say what its pointers are good for. -/
def isFlag (c : Char) : Bool := c = 'e' || c = 'u'

def isName : List Char → Bool
  | [] => true
  | c :: rest => c = '(' && rest.getLast? = some ')'

/-- The number of an address space, where none written means 0. Flags may stand before it, and a name
behind it. -/
def space? (s : List Char) : Option Nat :=
  let s := s.dropWhile isFlag
  if isName (s.dropWhile Char.isDigit) then some (Nat.ofDigitChars 10 (s.takeWhile Char.isDigit) 0)
  else none

def ofFields? : Char → List (List Char) → Option Specification
  | 'i', width :: abi :: _ => return .integer (← Text.nat? width) (← align? abi)
  | 'f', width :: abi :: _ => return .float (← Text.nat? width) (← align? abi)
  | 'p', space :: bits :: abi :: _ =>
    return .pointer (← space? space) ⟨← Text.nat? bits, ← align? abi⟩
  | 'a', _ :: abi :: _ => return .aggregate (← align? abi)
  | _, _ => none

def ofChars : List Char → Specification
  | [] => .neutral
  | kind :: rest => (ofFields? kind (rest.splitOn ':')).getD .neutral

def apply (layout : DataLayout) : Specification → DataLayout
  | integer width align => { layout with integers := setKey width align layout.integers }
  | float width align => { layout with floats := setKey width align layout.floats }
  | pointer space format => { layout with pointers := setKey space format layout.pointers }
  | aggregate align => { layout with aggregate := align }
  | neutral => layout

end Specification

namespace DataLayout

def ofSpecifications (specs : List Specification) : DataLayout :=
  specs.foldl Specification.apply {}

def ofString (s : String) : DataLayout :=
  ofSpecifications (((Text.beforeNul s).splitOn '-').map Specification.ofChars)

end DataLayout

end SizeHeader
