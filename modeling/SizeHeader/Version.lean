import SizeHeader.Toml.Document

/-!
The version of the program: that of the installed distribution, or else the one that the project table
of a TOML document gives. A program that is not installed is a development version.
-/

namespace SizeHeader

structure Version where
  value : Toml.Value
  development : Bool

namespace Version

/-- Why a document breaks the search off. A malformed one does not. -/
inductive Fault where
  | noTable (typeName : String)
  | longInteger (digits : Nat)
deriving DecidableEq, Repr

def Fault.message : Fault → String
  | noTable typeName => "'" ++ typeName ++ "' object has no attribute 'get'"
  | longInteger digits => Text.tooLong (some digits)

def unknown : Toml.Value := .text "unknown"

def ofEntries (entries : Toml.Entries) : Except Fault Toml.Value :=
  match entries.lookup "project" with
  | none => .ok unknown
  | some (.table _ project) => .ok ((project.lookup "version").getD unknown)
  | some other => .error (.noTable other.typeName)

/-- A document that is missing or malformed gives no version. -/
def ofDocument : Option String → Except Fault Toml.Value
  | none => .ok unknown
  | some document =>
    match Toml.document document with
    | .ok entries => ofEntries entries
    | .error .malformed => .ok unknown
    | .error (.longInteger digits) => .error (.longInteger digits)

def find (installed document : Option String) : Except Fault Version :=
  match installed with
  | some version => .ok ⟨.text version, false⟩
  | none => do return ⟨← ofDocument document, true⟩

end Version

end SizeHeader
