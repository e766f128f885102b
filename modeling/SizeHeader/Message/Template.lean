import SizeHeader.Message.Access
import SizeHeader.Message.FieldFormat

/-!
Message templates: text with fields in braces. A field names an argument or a part of one, may ask for
its quoted form after an exclamation mark, and may give a format after a colon; a doubled brace stands
for itself. The format may be a template itself, whose fields have plain formats.

A template is read once from left to right, up to the first place where it is malformed, and filled
in the same order, so of several faults the leftmost is the one reported. What an argument puts in
is never read again.
-/

namespace SizeHeader

structure Field where
  /-- The key of an argument, and the path to a part of it. -/
  name : List Char
  conversion : Option Char
  format : List Char
deriving DecidableEq, Repr

inductive SyntaxFault where
  | loneOpen
  | loneClose
  | unclosed
  | braceInKey
  | conversionMissing
  | afterConversion
  | formatUnclosed
deriving DecidableEq, Repr

def SyntaxFault.message : SyntaxFault → String
  | loneOpen => "Single '\x7b' encountered in format string"
  | loneClose => "Single '\x7d' encountered in format string"
  | unclosed => "expected '\x7d' before end of string"
  | braceInKey => "unexpected '\x7b' in field name"
  | conversionMissing => "end of string while looking for conversion specifier"
  | afterConversion => "expected ':' after conversion specifier"
  | formatUnclosed => "unmatched '\x7b' in format spec"

inductive Template where
  | done
  | malformed (fault : SyntaxFault)
  | literal (c : Char) (rest : Template)
  | field (f : Field) (rest : Template)
deriving DecidableEq, Repr

namespace Template

mutual

def ofChars : List Char → Template
  | [] => done
  | '{' :: '{' :: rest => literal '{' (ofChars rest)
  | '{' :: [] => malformed .loneOpen
  | '{' :: c :: rest => inName [] (c :: rest)
  | '}' :: '}' :: rest => literal '}' (ofChars rest)
  | '}' :: _ => malformed .loneClose
  | c :: rest => literal c (ofChars rest)

/-- Reads on inside the name of a field, of which the last characters come first. -/
def inName (name : List Char) : List Char → Template
  | [] => malformed .unclosed
  | '{' :: _ => malformed .braceInKey
  | '}' :: rest => field ⟨name.reverse, none, []⟩ (ofChars rest)
  | ':' :: rest => inFormat ⟨name.reverse, none, []⟩ [] 0 rest
  | '!' :: [] => malformed .conversionMissing
  | '!' :: _ :: [] => malformed .formatUnclosed
  | '!' :: c :: '}' :: rest => field ⟨name.reverse, some c, []⟩ (ofChars rest)
  | '!' :: c :: ':' :: rest => inFormat ⟨name.reverse, some c, []⟩ [] 0 rest
  | '!' :: _ :: _ :: _ => malformed .afterConversion
  | '[' :: rest => inBrackets ('[' :: name) rest
  | c :: rest => inName (c :: name) rest

def inBrackets (name : List Char) : List Char → Template
  | [] => malformed .unclosed
  | ']' :: rest => inName (']' :: name) rest
  | c :: rest => inBrackets (c :: name) rest

/-- Reads on inside the format of a field, in which `depth` braces are open. -/
def inFormat (f : Field) (format : List Char) (depth : Nat) : List Char → Template
  | [] => malformed .formatUnclosed
  | c :: rest =>
    if c = '}' then
      match depth with
      | 0 => field { f with format := format.reverse } (ofChars rest)
      | depth + 1 => inFormat f (c :: format) depth rest
    else inFormat f (c :: format) (if c = '{' then depth + 1 else depth) rest

end

end Template

inductive TemplateFault where
  | malformed (fault : SyntaxFault)
  | missing (key : String)
  /-- Arguments have names only, so no place in their order can be meant. -/
  | positional (index : Nat)
  | tooManyDigits
  | access (fault : AccessFault)
  | part (fault : PartFault)
  | unknownConversion (c : Char)
  | format (fault : FormatFault)
  /-- A template inside a format has such a format itself. -/
  | nested
deriving DecidableEq, Repr

def TemplateFault.message : TemplateFault → String
  | malformed fault => fault.message
  | missing key => key
  | positional index =>
    "Replacement index " ++ index.repr ++ " out of range for positional args tuple"
  | tooManyDigits => "Too many decimal digits in format string"
  | access fault => fault.message
  | part fault => fault.message
  | unknownConversion c => "Unknown conversion specifier " ++ FormatFault.showLetter 127 c
  | format fault => fault.message
  | nested => "Max string recursion exceeded"

def PathFailure.fault : PathFailure → TemplateFault
  | malformed fault => .access fault
  | tooManyDigits => .tooManyDigits
  | part fault => .part fault

namespace Field

def endsKey (c : Char) : Bool := c = '.' || c = '['

def key (f : Field) : List Char := f.name.takeWhile (!endsKey ·)

def access (f : Field) : Access := .ofChars (f.name.dropWhile (!endsKey ·))

/-- The argument with a key. Keys that are empty or numbers ask for a place, which none has. -/
def argument? (args : Arguments) (key : List Char) : Except TemplateFault Argument :=
  if Text.overflows key then .error .tooManyDigits
  else if key = [] then .error (.positional 0)
  else
    match Text.index? key with
    | some index => .error (.positional index)
    | none =>
      match args.lookup (.ofList key) with
      | some a => .ok a
      | none => .error (.missing (.ofList key))

def shown : Option String → Except TemplateFault Argument
  | some s => .ok (.text s)
  | none => .error (.format .longInteger)

/-- The value as a conversion shows it. NUL asks for none. -/
def convert (a : Argument) : Option Char → Except TemplateFault Argument
  | none => .ok a
  | some '\x00' => .ok a
  | some 's' => shown a.plain?
  | some 'r' => shown a.quoted?
  | some 'a' => shown a.quotedAscii?
  | some c => .error (.unknownConversion c)

/-- The text of a field, where `expand` fills the templates in formats. -/
def fill (expand : List Char → Except TemplateFault (List Char)) (args : Arguments) (f : Field) :
    Except TemplateFault (List Char) := do
  let a ← argument? args f.key
  let b ← (f.access.follow a).mapError PathFailure.fault
  let c ← convert b f.conversion
  let format ← if '{' ∈ f.format then expand f.format else .ok f.format
  (c.format format).mapError .format

end Field

namespace Template

def fillWith (expand : List Char → Except TemplateFault (List Char)) (args : Arguments) :
    Template → Except TemplateFault (List Char)
  | done => .ok []
  | malformed fault => .error (.malformed fault)
  | literal c rest => do return c :: (← rest.fillWith expand args)
  | field f rest => do
    let s ← f.fill expand args
    return s ++ (← rest.fillWith expand args)

def expand (args : Arguments) (format : List Char) : Except TemplateFault (List Char) :=
  (ofChars format).fillWith (fun _ => .error .nested) args

def fill (args : Arguments) (t : Template) : Except TemplateFault (List Char) :=
  t.fillWith (expand args) args

end Template

end SizeHeader
