import SizeHeader.Text.Quoted

/-!
Target platforms. A triple names an architecture, a vendor, an operating system and an ABI, separated
by dashes; parts may be missing from the end, and parts after the fourth are ignored.
-/

namespace SizeHeader

structure Platform where
  arch : String
  vendor : String
  os : String
  abi : String
deriving DecidableEq, Repr

namespace Platform

/-- The name of an operating system without its version. Every Darwin and macOS release is Darwin. -/
def osName (s : List Char) : List Char :=
  if "darwin".toList.isPrefixOf s || "macos".toList.isPrefixOf s then "darwin".toList
  else s.takeWhile (· ≠ '.')

def ofParts (parts : List (List Char)) : Platform where
  arch := .ofList (parts[0]?.getD "unknown".toList)
  vendor := .ofList (parts[1]?.getD "unknown".toList)
  os := .ofList (osName (parts[2]?.getD "unknown".toList))
  abi := .ofList (parts[3]?.getD [])

def ofTriple (triple : String) : Platform :=
  ofParts (triple.toList.splitOn '-')

def IsLinux (p : Platform) : Prop := p.os = "linux"

instance (p : Platform) : Decidable p.IsLinux := inferInstanceAs (Decidable (p.os = "linux"))

def describe (p : Platform) : String :=
  "TargetPlatform(arch=" ++ Text.quoted p.arch ++ ", vendor=" ++ Text.quoted p.vendor
    ++ ", os=" ++ Text.quoted p.os ++ ", abi=" ++ Text.quoted p.abi ++ ")"

end Platform

end SizeHeader
