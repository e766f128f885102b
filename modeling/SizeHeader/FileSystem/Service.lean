import SizeHeader.FileSystem.Operations
import SizeHeader.Text.Quoted

/-!
What a program asks of an operating system in order to write a file. File systems answer as a POSIX
system does; the program itself takes any service.
-/

namespace SizeHeader

/-- An error of the operating system: what it is called, if it has a name, and the error as a whole. -/
structure OsError where
  strerror : Option String
  description : String
deriving DecidableEq, Repr

namespace OsError

def reason (e : OsError) : String :=
  match e.strerror with
  | none => e.description
  | some name => if name = "" then e.description else name

def numbered (number : Nat) (name subject : String) : OsError :=
  ⟨some name, "[Errno " ++ number.repr ++ "] " ++ name ++ subject⟩

end OsError

/-- The writing of files in states `σ` of an operating system. -/
class FileService (σ : Type) where
  Handle : Type
  /-- Opens the file at a path, which is created or emptied. A failure changes nothing. -/
  openForWriting : σ → String → Except OsError (Handle × σ)
  /-- Writes at the end of an opened file and closes it. -/
  write : σ → Handle → List UInt8 → Except OsError Unit × σ

namespace PathFault

def number : PathFault → Nat
  | missing => 2
  | notDirectory => 20
  | directory => 21
  | nameTooLong => 36
  | tooManyLinks => 40

def osError (fault : PathFault) (path : String) : OsError :=
  .numbered fault.number fault.message (": " ++ Text.quoted path)

end PathFault

namespace FileSystem

def WriteFault.number : WriteFault → Nat
  | noSpace => 28

def WriteFault.osError (fault : WriteFault) : OsError := .numbered fault.number fault.message ""

def write (fs : FileSystem) (l : Location) (bytes : List UInt8) : Except OsError Unit × FileSystem :=
  match fs.append l bytes with
  | .ok written => (.ok (), written)
  | .error fault => (.error fault.osError, fs)

instance : FileService FileSystem where
  Handle := Location
  openForWriting fs path := (fs.openForWriting path).mapError (·.osError path)
  write := write

end FileSystem

end SizeHeader
