/-!
Data types of record members: scalars, arrays and structs nested to any depth, with their text and
the rules that make a type one whose values have a size.
-/

namespace SizeHeader

inductive FloatFormat where
  | half
  | single
  | double
deriving DecidableEq, Repr

namespace FloatFormat

def bits : FloatFormat → Nat
  | half => 16
  | single => 32
  | double => 64

def text : FloatFormat → String
  | half => "half"
  | single => "float"
  | double => "double"

end FloatFormat

inductive DataType where
  | integer (width : Nat)
  | float (format : FloatFormat)
  | pointer (space : Int)
  | void
  | label
  | array (count : Int) (element : DataType)
  | struct (members : List DataType) (packed : Bool)
deriving Inhabited

namespace DataType

def maxIntegerWidth : Nat := 8388608

def addressSpaces : Int := 16777216

mutual

/-- Integers have between 1 and `maxIntegerWidth` bits, arrays fewer than `2 ^ 64` elements, pointers
lead to one of the address spaces, and no part is `void` or `label`, not even the element of an empty
array. -/
def Valid : DataType → Prop
  | integer width => 0 < width ∧ width ≤ maxIntegerWidth
  | float _ => True
  | pointer space => 0 ≤ space ∧ space < addressSpaces
  | void => False
  | label => False
  | array count element => (0 ≤ count ∧ count < UInt64.size) ∧ element.Valid
  | struct members _ => AllValid members

def AllValid : List DataType → Prop
  | [] => True
  | t :: rest => t.Valid ∧ AllValid rest

end

mutual

def decideValid : (t : DataType) → Decidable t.Valid
  | integer width => inferInstanceAs (Decidable (0 < width ∧ width ≤ maxIntegerWidth))
  | float _ => .isTrue trivial
  | pointer space => inferInstanceAs (Decidable (0 ≤ space ∧ space < addressSpaces))
  | void => .isFalse id
  | label => .isFalse id
  | array _ element => @instDecidableAnd _ _ inferInstance (decideValid element)
  | struct members _ => decideAllValid members

def decideAllValid : (ts : List DataType) → Decidable (AllValid ts)
  | [] => .isTrue trivial
  | t :: rest => @instDecidableAnd _ _ (decideValid t) (decideAllValid rest)

end

instance (t : DataType) : Decidable t.Valid := decideValid t

instance (ts : List DataType) : Decidable (AllValid ts) := decideAllValid ts

mutual

/-- The written form of a type. Packed structs stand in angle brackets, and address space 0 is left
out. -/
def text : DataType → String
  | integer width => "i" ++ width.repr
  | float format => format.text
  | pointer space => if space = 0 then "ptr" else "ptr addrspace(" ++ space.repr ++ ")"
  | void => "void"
  | label => "label"
  | array count element => "[" ++ count.repr ++ " x " ++ element.text ++ "]"
  | struct members false => "\x7b" ++ listText members ++ "\x7d"
  | struct members true => "<\x7b" ++ listText members ++ "\x7d>"

def listText : List DataType → String
  | [] => ""
  | t :: rest => t.text ++ tailText rest

def tailText : List DataType → String
  | [] => ""
  | t :: rest => ", " ++ t.text ++ tailText rest

end

end DataType

end SizeHeader
