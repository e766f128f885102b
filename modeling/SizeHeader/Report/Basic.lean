import SizeHeader.Message.Catalog

/-!
Reports: diagnostics in the order of their recording, shown one to a line. A message that does not
end in a period is given one.
-/

namespace SizeHeader

structure Diagnostic where
  kind : String
  code : String
  message : String
deriving DecidableEq, Repr

structure Report where
  program : String := "size_definer"
  items : List Diagnostic := []
deriving DecidableEq, Repr

namespace Style

def reset : String := "\x1b[0m"
def bold : String := "\x1b[1m"
def dim : String := "\x1b[2m"
def red : String := "\x1b[31m"
def cyan : String := "\x1b[36m"

end Style

namespace Diagnostic

def ended (s : String) : String :=
  if s.toList.getLast? = some '.' then s else s ++ "."

def plainLine (program : String) (d : Diagnostic) : String :=
  program ++ ": " ++ d.kind ++ " [" ++ d.code ++ "]: " ++ ended d.message

/-- The kind in colour, where everything but an error is a note. -/
def colouredKind (kind : String) : String :=
  if kind = Severity.error.name then Style.bold ++ Style.red ++ "error" ++ Style.reset
  else Style.bold ++ "note" ++ Style.reset

def colouredLine (program : String) (d : Diagnostic) : String :=
  Style.cyan ++ program ++ Style.reset ++ ": " ++ colouredKind d.kind
    ++ " [" ++ Style.dim ++ d.code ++ Style.reset ++ "]: " ++ ended d.message

def line (colour : Bool) (program : String) (d : Diagnostic) : String :=
  if colour then d.colouredLine program else d.plainLine program

end Diagnostic

namespace Report

def record (r : Report) (kind code message : String) : Report :=
  { r with items := r.items ++ [⟨kind, code, message⟩] }

def error (r : Report) (code message : String) : Report :=
  r.record Severity.error.name code message

def note (r : Report) (code message : String) : Report :=
  r.record Severity.note.name code message

def clear (r : Report) : Report := { r with items := [] }

@[simp] theorem items_record (r : Report) (kind code message : String) :
    (r.record kind code message).items = r.items ++ [⟨kind, code, message⟩] := rfl

@[simp] theorem program_record (r : Report) (kind code message : String) :
    (r.record kind code message).program = r.program := rfl

def format (r : Report) (colour : Bool) : String :=
  "\n".intercalate (r.items.map (·.line colour r.program))

/-- What printing sends to the stream: the lines and a last line break, or nothing at all. -/
def printed (r : Report) (colour : Bool) : String :=
  if r.format colour = "" then "" else r.format colour ++ "\n"

def print (r : Report) (colour : Bool) : String × Report :=
  (r.printed colour, r.clear)

/-- Records a message with the severity it carries and the text that the catalog has for its code. -/
def emit (r : Report) (c : Catalog) (m : Message) (args : Arguments) :
    Except MessageFault Report := do
  Operation.emit.check args
  let text ← c.format m.code args
  match m.severity with
  | .error => return r.error m.code text
  | .note => return r.note m.code text

theorem emit_eq (r : Report) (c : Catalog) (m : Message) (args : Arguments) :
    r.emit c m args =
      (Operation.emit.check args *> c.format m.code args).map
        (r.record m.severity.name m.code) := by
  unfold emit
  cases Operation.emit.check args with
  | error fault => rfl
  | ok _ =>
    cases c.format m.code args with
    | error fault => rfl
    | ok text => cases m.severity <;> rfl

end Report

end SizeHeader
