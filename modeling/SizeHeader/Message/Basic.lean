import SizeHeader.Message.Template

/-!
Messages: a code, a severity, a category, a template for the text, and the exit status of a run that
ends with the message.
-/

namespace SizeHeader

inductive Severity where
  | error
  | note
deriving DecidableEq, Repr

inductive Category where
  | general
  | argument
  | io
  | internal
deriving DecidableEq, Repr

structure Message where
  code : String
  severity : Severity
  text : String
  category : Category := .general
  doc : String := ""
  exitCode : Int := 0
deriving DecidableEq, Repr

inductive NameFault where
  | severity (name : String)
  | category (name : String)
deriving DecidableEq, Repr

def NameFault.message : NameFault → String
  | severity name => Text.quoted name ++ " is not a valid Severity"
  | category name => Text.quoted name ++ " is not a valid Category"

namespace Severity

def name : Severity → String
  | error => "error"
  | note => "note"

def ofName (s : String) : Except NameFault Severity :=
  match [error, note].find? (·.name = s) with
  | some severity => .ok severity
  | none => .error (.severity s)

def describe : Severity → String
  | error => "<Severity.ERROR: 'error'>"
  | note => "<Severity.NOTE: 'note'>"

end Severity

namespace Category

def name : Category → String
  | general => "general"
  | argument => "argument"
  | io => "io"
  | internal => "internal"

def ofName (s : String) : Except NameFault Category :=
  match [general, argument, io, internal].find? (·.name = s) with
  | some category => .ok category
  | none => .error (.category s)

def describe : Category → String
  | general => "<Category.GENERAL: 'general'>"
  | argument => "<Category.ARGUMENT: 'argument'>"
  | io => "<Category.IO: 'io'>"
  | internal => "<Category.INTERNAL: 'internal'>"

end Category

namespace Message

/-- The message with its severity and category given by name; the severity is looked at first. -/
def ofNames (code severity text category doc : String) (exitCode : Int) :
    Except NameFault Message := do
  let severity ← Severity.ofName severity
  let category ← Category.ofName category
  return { code, severity, text, category, doc, exitCode }

/-- The message with all of its parts, if its exit status can be written. -/
def describe? (m : Message) : Option String :=
  (Text.decimal? m.exitCode).map fun exitCode =>
    "ErrorMessage(code=" ++ Text.quoted m.code ++ ", severity=" ++ m.severity.describe
      ++ ", text=" ++ Text.quoted m.text ++ ", category=" ++ m.category.describe
      ++ ", doc=" ++ Text.quoted m.doc ++ ", exit_code=" ++ exitCode ++ ")"

def template (m : Message) : Template := .ofChars m.text.toList

end Message

end SizeHeader
