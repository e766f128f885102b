import SizeHeader.FileSystem.Basic

/-!
Paths and where they lead. Names are looked up one after the other; every name but the last has to
lead to a directory, directly or through links, and at most `maxLinks` links are followed in all.
-/

namespace SizeHeader

structure Path where
  absolute : Bool
  names : List String
  trailingSlash : Bool
deriving DecidableEq, Repr

def Path.ofString (s : String) : Path :=
  let parts := s.toList.splitOn '/'
  let names := parts.filter (· ≠ [])
  { absolute := s.toList.head? = some '/'
    names := names.map .ofList
    trailingSlash := names ≠ [] && parts.getLast? = some [] }

def Path.start (p : Path) (here : Location) : Location :=
  if p.absolute then [] else here

inductive PathFault where
  | missing
  | directory
  | notDirectory
  | nameTooLong
  | tooManyLinks
deriving DecidableEq, Repr

def PathFault.message : PathFault → String
  | missing => "No such file or directory"
  | directory => "Is a directory"
  | notDirectory => "Not a directory"
  | nameTooLong => "File name too long"
  | tooManyLinks => "Too many levels of symbolic links"

namespace FileSystem

def maxLinks : Nat := 40

def maxName : Nat := 255

def maxPath : Nat := 4095

/-- Whether a link in the last place is followed, as for opening a file, or is itself meant. -/
inductive LastLink where
  | followed
  | meant
deriving DecidableEq, Repr

/-- The location that names lead to from a directory. The last name may be free, but it has to be a
proper one; where a link in its place is followed, no slash may stand behind it. -/
def walk (fs : FileSystem) (last : LastLink) (trailingSlash : Bool) (links : Nat) (here : Location) :
    List String → Except PathFault Location
  | [] => .error .directory
  | name :: rest =>
    if name = "." ∨ name = ".." then
      if rest = [] then .error .directory
      else walk fs last trailingSlash links (if name = "." then here else here.dropLast) rest
    else if rest = [] ∧ last = .followed ∧ trailingSlash then .error .directory
    else if maxName < name.utf8ByteSize then .error .nameTooLong
    else if rest = [] ∧ last = .meant then .ok (here ++ [name])
    else
      match fs.node? (here ++ [name]) with
      | some (.link target) =>
        match links with
        | 0 => .error .tooManyLinks
        | links + 1 =>
          let p := Path.ofString target
          walk fs last (if rest = [] then p.trailingSlash else trailingSlash) links (p.start here)
            (p.names ++ rest)
      | some .directory =>
        if rest = [] then .ok (here ++ [name])
        else walk fs last trailingSlash links (here ++ [name]) rest
      | some _ => if rest = [] then .ok (here ++ [name]) else .error .notDirectory
      | none => if rest = [] then .ok (here ++ [name]) else .error .missing
termination_by names => (links, names.length)

def resolve (fs : FileSystem) (last : LastLink) (path : String) : Except PathFault Location :=
  if path = "" ∨ '\x00' ∈ path.toList then .error .missing
  else if maxPath < path.utf8ByteSize then .error .nameTooLong
  else
    let p := Path.ofString path
    walk fs last p.trailingSlash maxLinks (p.start fs.workingDirectory) p.names

end FileSystem

end SizeHeader
