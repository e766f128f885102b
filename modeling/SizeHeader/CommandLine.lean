import SizeHeader.Generation
import SizeHeader.Report.Terminal

/-!
The command line: the path of the output file, taken as it is. Arguments behind it are ignored. What
was recorded is printed at the end of the run, unless an error that is not a fatal one breaks it off.
-/

namespace SizeHeader.CommandLine

inductive ExitStatus where
  | success
  | missingFilename
  | outputFile
deriving DecidableEq, Repr

def ExitStatus.code : ExitStatus → Int
  | success => 0
  | missingFilename => Message.missingFilename.exitCode
  | outputFile => Message.cannotOpen.exitCode

def outputPath : List String → Except RunError String
  | [] => .error (FatalError.raised .argument .missingFilename [])
  | path :: _ => .ok path

def hostLayout (host : String) : Except RunError DataLayout :=
  (DataLayout.ofTriple host).mapError .unknownTarget

variable {σ : Type}

/-- Everything before the file is opened: the path, and the entries to write there. -/
def prepare (host : String) (args : List String) : Run σ (String × List SizeEntry) := do
  let path ← outputPath args
  let layout ← hostLayout host
  return (path, ← Run.announce layout path)

def program [FileService σ] (host : String) (args : List String) : Run σ Unit := do
  let (path, entries) ← prepare host args
  Run.writeDefinitions path entries

/-- Ends a run: a fatal error is recorded after everything else, and the report is printed. The
result is the exit status with the printed text. -/
def conclude (report : Report) (colour : Bool) : Except RunError Unit → Except RunError (Int × String)
  | .ok () => .ok (ExitStatus.success.code, report.printed colour)
  | .error (.fatal e) =>
    match report.emitFatal Catalog.builtin e with
    | .ok report => .ok (e.exitCode, report.printed colour)
    | .error fault => .error (.messageFault fault)
  | .error e => .error e

def runOn [FileService σ] (host : String) (args : List String) (stderr : OutputStream)
    (env : Environment) (files : σ) : Except RunError (Int × String) × σ :=
  let (outcome, world) := (program host args).run { files }
  (conclude world.report (stderr.usesColour env none) outcome, world.files)

def run [FileService σ] (args : List String) (stderr : OutputStream) (env : Environment) (files : σ) :
    Except RunError (Int × String) × σ :=
  runOn Machine.hostTriple args stderr env files

end SizeHeader.CommandLine
