import SizeHeader.Text.Decimal
import SizeHeader.Text.Quoted

/-!
Arguments of messages: named values, of which the first with a name counts. Numbers have parts that
can be asked for by name, and texts have characters.
-/

namespace SizeHeader

inductive Argument where
  | text (s : String)
  | integer (n : Int)
  | boolean (b : Bool)
  | absent
deriving DecidableEq, Repr

abbrev Arguments := List (String × Argument)

inductive PartFault where
  | noAttribute (type name : String)
  | noItems (type : String)
  | itemByName
  | outOfRange
deriving DecidableEq, Repr

def PartFault.message : PartFault → String
  | noAttribute type name => "'" ++ type ++ "' object has no attribute '" ++ name ++ "'"
  | noItems type => "'" ++ type ++ "' object is not subscriptable"
  | itemByName => "string indices must be integers, not 'str'"
  | outOfRange => "string index out of range"

namespace Argument

/-- The text of a value by itself. Only an integer with too many digits has none. -/
def plain? : Argument → Option String
  | text s => some s
  | integer n => Text.decimal? n
  | boolean true => some "True"
  | boolean false => some "False"
  | absent => some "None"

def quoted? : Argument → Option String
  | text s => some (Text.quoted s)
  | other => other.plain?

def quotedAscii? : Argument → Option String
  | text s => some (Text.quotedAscii s)
  | other => other.plain?

def typeName : Argument → String
  | text _ => "str"
  | integer _ => "int"
  | boolean _ => "bool"
  | absent => "NoneType"

def number? : Argument → Option Int
  | integer n => some n
  | boolean b => some (if b then 1 else 0)
  | _ => none

/-- The parts of a number as a complex one and as a fraction. -/
def part (a : Argument) (name : List Char) : Except PartFault Argument :=
  match a.number?, String.ofList name with
  | some n, "real" => .ok (integer n)
  | some _, "imag" => .ok (integer 0)
  | some n, "numerator" => .ok (integer n)
  | some _, "denominator" => .ok (integer 1)
  | _, name => .error (.noAttribute a.typeName name)

/-- A character of a text by its position, which is missing where it was given as a name. -/
def item (a : Argument) (index : Option Nat) : Except PartFault Argument :=
  match a, index with
  | text _, none => .error .itemByName
  | text s, some i =>
    match s.toList[i]? with
    | some c => .ok (text (.ofList [c]))
    | none => .error .outOfRange
  | other, _ => .error (.noItems other.typeName)

end Argument

/-- What is done with arguments. Each operation has names of its own, which no argument may take. -/
inductive Operation where
  | format
  | emit
  | internal
  | fatal
deriving DecidableEq, Repr

namespace Operation

def name : Operation → String
  | format => "_fmt"
  | emit => "emit"
  | internal => "raise_internal_error"
  | fatal => "FatalError.__init__"

def reserved : Operation → List String
  | format => ["code"]
  | emit => ["r", "em"]
  | internal => ["code"]
  | fatal => ["self", "em"]

def clash? (op : Operation) (args : Arguments) : Option String :=
  (args.map (·.1)).find? (op.reserved.contains ·)

end Operation

end SizeHeader
