import SizeHeader.Message.Argument
import SizeHeader.Numeral.Basic
import SizeHeader.Text.Digits

/-!
Field formats: fill and alignment, sign, zero padding, width, separator, precision and a type letter,
each of them optional and in this order.
-/

namespace SizeHeader

inductive Padding where
  | after
  | before
  | around
  /-- Between the sign of a number and its digits. -/
  | inside
deriving DecidableEq, Repr

inductive Sign where
  | plus
  | nothing
  | space
deriving DecidableEq, Repr

inductive Separator where
  | comma
  | underscore
deriving DecidableEq, Repr

def Separator.char : Separator → Char
  | comma => ','
  | underscore => '_'

structure FieldFormat where
  fill : Char
  padding : Padding
  sign : Option Sign
  /-- Asks for a zero without sign. -/
  unsignedZero : Bool
  alternate : Bool
  width : Nat
  separator : Option Separator
  precision : Option Nat
  letter : Char
deriving DecidableEq, Repr

/-- What a format asks for and a kind of value cannot have. -/
inductive Feature where
  | sign
  | space
  | unsignedZero
  | alternate
  | inside
  | precision
deriving DecidableEq, Repr

def Feature.name : Feature → String
  | sign => "Sign"
  | space => "Space"
  | unsignedZero => "Negative zero coercion (z)"
  | alternate => "Alternate form (#)"
  | inside => "'=' alignment"
  | precision => "Precision"

inductive FormatFault where
  | tooManyDigits
  | precisionMissing
  | notAFormat (format : String) (type : String)
  | unknownLetter (letter : Char) (type : String)
  | twoSeparators
  | separated (separator : Separator) (letter : Char)
  | inText (feature : Feature)
  | inInteger (feature : Feature)
  | inCharacter (feature : Feature)
  | noCharacter
  | beyondWord
  | beyondDouble
  | precisionTooBig
  | longInteger
  | formatOfAbsent
deriving DecidableEq, Repr

namespace FormatFault

/-- A character by itself where it is visible ASCII, else its code point. -/
def showLetter (last : Nat) (c : Char) : String :=
  if 32 < c.toNat && c.toNat < last then .ofList [c]
  else "\\x" ++ .ofList (Nat.toDigits 16 c.toNat)

def message : FormatFault → String
  | tooManyDigits => "Too many decimal digits in format string"
  | precisionMissing => "Format specifier missing precision"
  | notAFormat format type =>
    "Invalid format specifier '" ++ format ++ "' for object of type '" ++ type ++ "'"
  | unknownLetter letter type =>
    "Unknown format code '" ++ showLetter 128 letter ++ "' for object of type '" ++ type ++ "'"
  | twoSeparators => "Cannot specify both ',' and '_'."
  | separated separator letter =>
    "Cannot specify '" ++ .ofList [separator.char] ++ "' with '" ++ showLetter 128 letter ++ "'."
  | inText feature => feature.name ++ " not allowed in string format specifier"
  | inInteger feature => feature.name ++ " not allowed in integer format specifier"
  | inCharacter feature => feature.name ++ " not allowed with integer format specifier 'c'"
  | noCharacter => "%c arg not in range(0x110000)"
  | beyondWord => "Python int too large to convert to C long"
  | beyondDouble => "int too large to convert to float"
  | precisionTooBig => "precision too big"
  | longInteger => Text.tooLong none
  | formatOfAbsent => "unsupported format string passed to NoneType.__format__"

end FormatFault

namespace Padding

def ofMark? : Char → Option Padding
  | '<' => some after
  | '>' => some before
  | '^' => some around
  | '=' => some inside
  | _ => none

/-- Pads a sign and a body to a width. An odd rest of `around` goes behind. -/
def apply (p : Padding) (fill : Char) (width : Nat) (sign body : List Char) : List Char :=
  let missing := width - (sign ++ body).length
  match p with
  | after => sign ++ body ++ .replicate missing fill
  | before => .replicate missing fill ++ sign ++ body
  | around => .replicate (missing / 2) fill ++ sign ++ body ++ .replicate (missing - missing / 2) fill
  | inside => sign ++ .replicate missing fill ++ body

end Padding

namespace Sign

def ofMark? : Char → Option Sign
  | '+' => some plus
  | '-' => some nothing
  | ' ' => some space
  | _ => none

def chars (sign : Sign) (negative : Bool) : List Char :=
  if negative then ['-']
  else
    match sign with
    | plus => ['+']
    | nothing => []
    | space => [' ']

end Sign

namespace FieldFormat

def spanPadding : List Char → Option Char × Option Padding × List Char
  | [] => (none, none, [])
  | [c] =>
    match Padding.ofMark? c with
    | some p => (none, some p, [])
    | none => (none, none, [c])
  | c :: d :: rest =>
    match Padding.ofMark? d with
    | some p => (some c, some p, rest)
    | none =>
      match Padding.ofMark? c with
      | some p => (none, some p, d :: rest)
      | none => (none, none, c :: d :: rest)

def spanSign : List Char → Option Sign × List Char
  | [] => (none, [])
  | c :: rest =>
    match Sign.ofMark? c with
    | some sign => (some sign, rest)
    | none => (none, c :: rest)

def spanMark (mark : Char) : List Char → Bool × List Char
  | [] => (false, [])
  | c :: rest => if c = mark then (true, rest) else (false, c :: rest)

/-- A leading zero, which asks for zeros as fill unless a fill was given. -/
def spanZero (fill : Option Char) (s : List Char) : Bool × List Char :=
  if fill.isNone then spanMark '0' s else (false, s)

def spanNumber (s : List Char) : Except FormatFault (Option Nat × List Char) :=
  match Text.spanDigits s with
  | ([], rest) => .ok (none, rest)
  | (digits, rest) =>
    if Text.maxIndex < Text.ofDigits digits then .error .tooManyDigits
    else .ok (some (Text.ofDigits digits), rest)

def spanSeparator : List Char → Except FormatFault (Option Separator × List Char)
  | ',' :: '_' :: _ => .error .twoSeparators
  | '_' :: ',' :: _ => .error .twoSeparators
  | ',' :: rest => .ok (some .comma, rest)
  | '_' :: rest => .ok (some .underscore, rest)
  | s => .ok (none, s)

def spanPrecision : List Char → Except FormatFault (Option Nat × List Char)
  | '.' :: rest =>
    match spanNumber rest with
    | .ok (none, _) => .error .precisionMissing
    | result => result
  | s => .ok (none, s)

/-- The letters of numbers that any separator, or the underscore alone, may group. -/
def grouped (separator : Separator) (letter : Char) : Bool :=
  letter ∈ ['d', 'e', 'f', 'g', 'E', 'G', '%', 'F', '\x00']
    || (separator = .underscore && letter ∈ ['b', 'o', 'x', 'X'])

/-- Reads a format for a value of the named type. Numbers are padded before, and by zeros behind
their sign; everything else is padded after. -/
def read (numeric : Bool) (type : String) (s : List Char) : Except FormatFault FieldFormat := do
  let (fill, padding, s₁) := spanPadding s
  let (sign, s₂) := spanSign s₁
  let (unsignedZero, s₃) := spanMark 'z' s₂
  let (alternate, s₄) := spanMark '#' s₃
  let (zeros, s₅) := spanZero fill s₄
  let (width, s₆) ← spanNumber s₅
  let (separator, s₇) ← spanSeparator s₆
  let (precision, s₈) ← spanPrecision s₇
  let letter ←
    match s₈ with
    | [] => pure (if numeric then 'd' else 's')
    | [c] => pure c
    | _ => throw (.notAFormat (.ofList s) type)
  match separator with
  | some mark => if grouped mark letter then pure () else throw (.separated mark letter)
  | none => pure ()
  return {
    fill := if zeros then '0' else fill.getD ' '
    padding := padding.getD (if numeric then (if zeros then .inside else .before) else .after)
    sign, unsignedZero, alternate
    width := width.getD 0
    separator, precision, letter }

def textFault? (format : FieldFormat) : Option Feature :=
  match format.sign with
  | some .space => some .space
  | some _ => some .sign
  | none =>
    if format.unsignedZero then some .unsignedZero
    else if format.alternate then some .alternate
    else if format.padding = .inside then some .inside
    else none

def applyText (format : FieldFormat) (type : String) (s : List Char) :
    Except FormatFault (List Char) :=
  if format.letter ≠ 's' then .error (.unknownLetter format.letter type)
  else
    match format.textFault? with
    | some feature => .error (.inText feature)
    | none =>
      .ok (format.padding.apply format.fill format.width []
        (s.take (format.precision.getD s.length)))

def groupSize (format : FieldFormat) : Nat :=
  if format.letter ∈ ['b', 'o', 'x', 'X'] then 4 else 3

/-- The digits of a number, with zeros before them up to a width, and in groups. -/
def group (format : FieldFormat) (width : Nat) (digits : List Char) : List Char :=
  match digits, format.separator with
  | [], _ => []
  | _, none => .replicate (width - digits.length) '0' ++ digits
  | _, some separator =>
    let zeros := Numeral.digitsFilling format.groupSize width - digits.length
    Numeral.separate separator.char format.groupSize (.replicate zeros '0' ++ digits)

def assemble (format : FieldFormat) (n : Numeral) : List Char :=
  let front := (format.sign.getD .nothing).chars n.negative ++ n.lead
  let width :=
    if format.fill = '0' && format.padding = .inside then
      format.width - (front ++ n.tail).length
    else 0
  format.padding.apply format.fill format.width front (format.group width n.digits ++ n.tail)

def integerFault? (format : FieldFormat) : Option Feature :=
  if format.precision.isSome then some .precision
  else if format.unsignedZero then some .unsignedZero
  else none

/-- The character with a number, which has to be that of a signed 64-bit word to be looked at. -/
def character (format : FieldFormat) (n : Int) : Except FormatFault Numeral :=
  if format.sign.isSome then .error (.inCharacter .sign)
  else if format.alternate then .error (.inCharacter .alternate)
  else if n < -Text.maxIndex - 1 || Text.maxIndex < n then .error .beyondWord
  else if n < 0 || 0x10ffff < n then .error .noCharacter
  else .ok ⟨false, [], [], [.ofNat n.toNat]⟩

def integerNumeral (format : FieldFormat) (n : Int) : Except FormatFault Numeral :=
  match format.letter with
  | 'b' => .ok (.inBase .binary format.alternate n)
  | 'o' => .ok (.inBase .octal format.alternate n)
  | 'x' => .ok (.inBase .hexadecimal format.alternate n)
  | 'X' => .ok (Numeral.inBase .hexadecimal format.alternate n).upper
  | 'c' => format.character n
  | _ =>
    if Text.maxDigits < Text.digitCount n then .error .longInteger
    else .ok (.inBase .decimal format.alternate n)

def defaultPrecision : Nat := 6

def maxPrecision : Nat := 2147483647

/-- Digits and tail of a number of double precision, in lower case. -/
def decimal (format : FieldFormat) (n : Nat) : List Char × List Char :=
  let precision := format.precision.getD defaultPrecision
  match format.letter.toLower with
  | 'e' => Numeral.scientific format.alternate precision n
  | 'g' => Numeral.general format.alternate (max 1 precision) n
  | '%' =>
    match Numeral.nearestDouble? (100 * n) with
    | some n =>
      let (digits, tail) := Numeral.fixed format.alternate precision n
      (digits, tail ++ ['%'])
    | none => ([], ['i', 'n', 'f', '%'])
  | _ => Numeral.fixed format.alternate precision n

def decimalNumeral (format : FieldFormat) (n : Int) : Except FormatFault Numeral :=
  match Numeral.nearestDouble? n.natAbs with
  | none => .error .beyondDouble
  | some size =>
    if maxPrecision < format.precision.getD 0 then .error .precisionTooBig
    else
      let (digits, tail) := format.decimal size
      let numeral : Numeral := ⟨n < 0, [], digits, tail⟩
      .ok (if format.letter.isUpper then numeral.upper else numeral)

def applyInteger (format : FieldFormat) (type : String) (n : Int) :
    Except FormatFault (List Char) :=
  if format.letter ∈ ['b', 'c', 'd', 'n', 'o', 'x', 'X'] then
    match format.integerFault? with
    | some feature => .error (.inInteger feature)
    | none => (format.integerNumeral n).map format.assemble
  else if format.letter ∈ ['e', 'E', 'f', 'F', 'g', 'G', '%'] then
    (format.decimalNumeral n).map format.assemble
  else .error (.unknownLetter format.letter type)

end FieldFormat

/-- The value under a format. Without a format it is plain, and with one truth values count as 0
and 1. -/
def Argument.format (a : Argument) (spec : List Char) : Except FormatFault (List Char) :=
  if spec = [] then
    match a.plain? with
    | some s => .ok s.toList
    | none => .error .longInteger
  else
    match a with
    | text s => do (← FieldFormat.read false a.typeName spec).applyText a.typeName s.toList
    | integer n => do (← FieldFormat.read true a.typeName spec).applyInteger a.typeName n
    | boolean b => do
      (← FieldFormat.read true a.typeName spec).applyInteger a.typeName (if b then 1 else 0)
    | absent => .error .formatOfAbsent

end SizeHeader
