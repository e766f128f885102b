import SizeHeader.CommandLine

/-!
The program: writes the size definitions for the host to the file named on the command line.
-/

namespace SizeHeader.Main

def reason : IO.Error → String
  | .noFileOrDirectory _ _ details => details
  | .inappropriateType _ _ details => details
  | .invalidArgument _ _ details => details
  | .permissionDenied _ _ details => details
  | .resourceExhausted _ _ details => details
  | .hardwareFault _ details => details
  | .otherError _ details => details
  | e => e.toString

def writeContent (path : String) (content : Except OutputFault (List UInt8)) :
    IO (Except OutputFault Unit) := do
  if '\x00' ∈ path.toList then return .error .nulInPath
  match ← (IO.FS.Handle.mk path .write).toBaseIO with
  | .error e => return .error (.opening (reason e))
  | .ok handle =>
    match content with
    | .error fault => return .error fault
    | .ok bytes =>
      let write := do
        handle.write ⟨bytes.toArray⟩
        handle.flush
      match ← write.toBaseIO with
      | .error e => return .error (.writing (reason e))
      | .ok () => return .ok ()

def environment : IO Environment := do
  return { noColor := ← IO.getEnv "NO_COLOR", term := ← IO.getEnv "TERM" }

def run (args : List String) : IO UInt32 := do
  let (prepared, world) := (CommandLine.prepare Machine.hostTriple args).run { files := () }
  let outcome ←
    match prepared with
    | .error e => pure (.error e)
    | .ok (path, entries) =>
      let written ←
        writeContent path (encodeDefinitions (SizeEntry.definitions? entries defaultScope))
      pure (written.mapError (·.raised path))
  let stderr ← IO.getStderr
  let colour := OutputStream.usesColour ⟨some (← stderr.isTty)⟩ (← environment) none
  match CommandLine.conclude world.report colour outcome with
  | .ok (exitCode, text) =>
    stderr.putStr text
    return .ofNat exitCode.toNat
  | .error e =>
    stderr.putStrLn e.message
    return 1

end SizeHeader.Main

def main (args : List String) : IO UInt32 := SizeHeader.Main.run args
