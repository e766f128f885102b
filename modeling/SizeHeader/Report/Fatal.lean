import SizeHeader.Report.Basic

/-!
Fatal errors end a run with the exit status of their message. Their text is fixed when they arise,
and recording them tells it again.
-/

namespace SizeHeader

inductive FatalKind where
  | general
  | argument
  | outputFile
deriving DecidableEq, Repr

structure FatalError where
  kind : FatalKind
  message : Message
  arguments : Arguments
  text : String
deriving DecidableEq, Repr

namespace FatalError

def make (c : Catalog) (kind : FatalKind) (m : Message) (args : Arguments) :
    Except MessageFault FatalError := do
  Operation.fatal.check args
  let text ← c.format m.code args
  return { kind, message := m, arguments := args, text }

theorem make_eq (c : Catalog) (kind : FatalKind) (m : Message) (args : Arguments) :
    make c kind m args =
      (Operation.fatal.check args *> c.format m.code args).map (⟨kind, m, args, ·⟩) := by
  unfold make
  cases Operation.fatal.check args with
  | error fault => rfl
  | ok _ => cases c.format m.code args <;> rfl

def exitCode (e : FatalError) : Int := e.message.exitCode

def describe (e : FatalError) : String := e.message.code ++ ": " ++ e.text

end FatalError

def Report.emitFatal (r : Report) (c : Catalog) (e : FatalError) : Except MessageFault Report :=
  r.emit c e.message e.arguments

end SizeHeader
