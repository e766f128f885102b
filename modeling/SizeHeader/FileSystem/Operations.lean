import SizeHeader.FileSystem.Path

/-!
Operations on file systems. One that fails changes nothing.
-/

namespace SizeHeader.FileSystem

inductive WriteFault where
  | noSpace
deriving DecidableEq, Repr

def WriteFault.message : WriteFault → String
  | noSpace => "No space left on device"

/-- Opens a file for writing: a missing file is created, and one that is there is emptied. -/
def openForWriting (fs : FileSystem) (path : String) :
    Except PathFault (Location × FileSystem) := do
  let l ← fs.resolve .followed path
  match fs.node? l with
  | some .directory => throw .directory
  | some (.device _) => return (l, fs)
  | _ => return (l, fs.set l (.file []))

def append (fs : FileSystem) (l : Location) (bytes : List UInt8) : Except WriteFault FileSystem :=
  match fs.node? l with
  | some (.file content) => .ok (fs.set l (.file (content ++ bytes)))
  | some (.device .full) => if bytes = [] then .ok fs else .error .noSpace
  | _ => .ok fs

def writeFile? (fs : FileSystem) (path : String) (bytes : List UInt8) : Option FileSystem := do
  let (l, opened) ← (fs.openForWriting path).toOption
  (opened.append l bytes).toOption

def makeDirectory? (fs : FileSystem) (path : String) : Option FileSystem := do
  let l ← (fs.resolve .meant path).toOption
  if (fs.node? l).isSome then none else some (fs.set l .directory)

def makeLink? (fs : FileSystem) (path target : String) : Option FileSystem := do
  let l ← (fs.resolve .meant path).toOption
  if (fs.node? l).isSome || (Path.ofString path).trailingSlash || target = ""
      || maxPath < target.utf8ByteSize then none
  else some (fs.set l (.link target))

def remove? (fs : FileSystem) (path : String) : Option FileSystem := do
  let l ← (fs.resolve .meant path).toOption
  match fs.node? l with
  | none => none
  | some .directory => none
  | some _ => if (Path.ofString path).trailingSlash then none else some (fs.erase l)

end SizeHeader.FileSystem
