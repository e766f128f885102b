import SizeHeader.Message.Argument
import SizeHeader.Text.Digits

/-!
Access paths: the parts of an argument that a field asks for, one after the other. A name follows a
point, and a position stands in brackets.
-/

namespace SizeHeader

inductive AccessFault where
  | emptyName
  | afterBracket
  | bracketOpen
deriving DecidableEq, Repr

def AccessFault.message : AccessFault → String
  | emptyName => "Empty attribute in format string"
  | afterBracket => "Only '.' or '[' may follow ']' in format field specifier"
  | bracketOpen => "Missing ']' in format string"

inductive Access where
  | done
  | malformed (fault : AccessFault)
  | part (name : List Char) (rest : Access)
  | item (position : List Char) (rest : Access)
deriving DecidableEq, Repr

namespace Access

def partNamed (name : List Char) (rest : Access) : Access :=
  if name = [] then malformed .emptyName else part name.reverse rest

mutual

def ofChars : List Char → Access
  | [] => done
  | c :: rest =>
    if c = '.' then inName [] rest
    else if c = '[' then inItem [] rest
    else malformed .afterBracket

/-- Reads on inside a name, of which the last characters come first. -/
def inName (name : List Char) : List Char → Access
  | [] => partNamed name done
  | c :: rest =>
    if c = '.' then partNamed name (inName [] rest)
    else if c = '[' then partNamed name (inItem [] rest)
    else inName (c :: name) rest

def inItem (position : List Char) : List Char → Access
  | [] => malformed .bracketOpen
  | c :: rest =>
    if c = ']' then item position.reverse (ofChars rest) else inItem (c :: position) rest

end

end Access

inductive PathFailure where
  | malformed (fault : AccessFault)
  | tooManyDigits
  | part (fault : PartFault)
deriving DecidableEq, Repr

/-- The value at the end of a path. A position is looked at before its value is. -/
def Access.follow (a : Argument) : Access → Except PathFailure Argument
  | done => .ok a
  | malformed fault => .error (.malformed fault)
  | part name rest => do rest.follow (← (a.part name).mapError .part)
  | item position rest => do
    if Text.overflows position then throw .tooManyDigits
    if position = [] then throw (.malformed .emptyName)
    rest.follow (← (a.item (Text.index? position)).mapError .part)

end SizeHeader
