import SizeHeader.Definition
import SizeHeader.FileSystem.Service
import SizeHeader.Report.Fatal
import SizeHeader.Target.Machine
import SizeHeader.Text.Latin1

/-!
Generation of the output file. Sizes are found first, so that a failure among them leaves the file
alone; then the run is announced, and then the file is opened, which empties it. Only then is there a
text to write, and a fault in it finds the file empty.
-/

namespace SizeHeader

inductive RunError where
  | unknownTarget (e : UnknownTarget)
  | internal (e : InternalError)
  | messageFault (fault : MessageFault)
  | nulInPath
  | longInteger
  | unencodable (e : Text.Unencodable)
  /-- The only error that is reported to the user and sets the exit status. -/
  | fatal (e : FatalError)
deriving DecidableEq, Repr

def RunError.message : RunError → String
  | unknownTarget e => e.message
  | internal e => e.message
  | messageFault fault => fault.message
  | nulInPath => "embedded null byte"
  | longInteger => Text.tooLong none
  | unencodable e => e.message
  | fatal e => e.describe

inductive OutputFault where
  | nulInPath
  | opening (reason : String)
  | longInteger
  | unencodable (e : Text.Unencodable)
  | writing (reason : String)
deriving DecidableEq, Repr

/-- What a run reads and changes: the files, kept in states `σ`, and its report. -/
structure World (σ : Type) where
  files : σ
  report : Report := {}
deriving DecidableEq, Repr

/-- Steps of a run. A step that fails keeps what was done before. -/
abbrev Run (σ : Type) := ExceptT RunError (StateM (World σ))

namespace FatalError

def raised (kind : FatalKind) (m : Message) (args : Arguments) : RunError :=
  match make Catalog.builtin kind m args with
  | .ok e => .fatal e
  | .error fault => .messageFault fault

end FatalError

def OutputFault.raised (path : String) : OutputFault → RunError
  | nulInPath => .nulInPath
  | opening reason =>
    FatalError.raised .outputFile .cannotOpen [("path", .text path), ("reason", .text reason)]
  | longInteger => .longInteger
  | unencodable e => .unencodable e
  | writing reason =>
    FatalError.raised .outputFile .cannotWrite [("path", .text path), ("reason", .text reason)]

/-- The bytes of definitions in Latin-1. Without a text, a size among them has too many digits. -/
def encodeDefinitions : Option String → Except OutputFault (List UInt8)
  | none => .error .longInteger
  | some text => (Text.Latin1.encode text).mapError .unencodable

variable {σ : Type}

namespace FileService

variable [FileService σ]

/-- Opens the file at a path and writes a content to it, all of it or nothing. A content that cannot be
had leaves nothing to write, but its file is closed all the same. -/
def writeContent (files : σ) (path : String) (content : Except OutputFault (List UInt8)) :
    Except OutputFault Unit × σ :=
  if '\x00' ∈ path.toList then (.error .nulInPath, files)
  else
    match openForWriting files path with
    | .error e => (.error (.opening e.reason), files)
    | .ok (handle, opened) =>
      match content with
      | .error fault =>
        match write opened handle [] with
        | (.error e, left) => (.error (.writing e.reason), left)
        | (.ok (), left) => (.error fault, left)
      | .ok bytes =>
        match write opened handle bytes with
        | (.error e, left) => (.error (.writing e.reason), left)
        | (.ok (), left) => (.ok (), left)

end FileService

namespace Run

def emit (m : Message) (args : Arguments) : Run σ Unit := do
  match (← get).report.emit Catalog.builtin m args with
  | .ok report => modify ({ · with report })
  | .error fault => throw (.messageFault fault)

def writeDefinitions [FileService σ] (path : String) (entries : List SizeEntry) : Run σ Unit := do
  let world ← get
  let (outcome, files) :=
    FileService.writeContent world.files path
      (encodeDefinitions (SizeEntry.definitions? entries defaultScope))
  set { world with files }
  match outcome with
  | .ok () => return ()
  | .error fault => throw (fault.raised path)

/-- The entries of the registered records, and the note that their file is being written. -/
def announce (layout : DataLayout) (path : String) : Run σ (List SizeEntry) := do
  match Record.entries layout Record.registered with
  | .error e => throw (.internal e)
  | .ok entries =>
    emit .generating [("path", .text path)]
    return entries

def generate [FileService σ] (layout : DataLayout) (path : String) : Run σ (List SizeEntry) := do
  let entries ← announce layout path
  writeDefinitions path entries
  return entries

/-- `generate` for a given layout or, without one, for the host. -/
def generateFor [FileService σ] (host : String) (target : Option DataLayout) (path : String) :
    Run σ (List SizeEntry) := do
  match DataLayout.ofTarget host target with
  | .error e => throw (.unknownTarget e)
  | .ok layout => generate layout path

end Run

end SizeHeader
