import SizeHeader.Layout.Specification

/-!
The layouts of x86 targets. A triple names the architecture in its first part and the system in its
third; everything behind names the environment, which may end in the format of object files.
-/

namespace SizeHeader

def findNamed? {α : Type} (test : List Char → Bool) (entries : List (String × α)) : Option α :=
  (entries.find? fun entry => test entry.1.toList).map (·.2)

inductive Processor where
  | x86
  | x86_64
deriving DecidableEq, Repr

namespace Processor

def names : List (String × Processor) := [
  ("x86_64", x86_64), ("x86_64h", x86_64), ("amd64", x86_64),
  ("i386", x86), ("i486", x86), ("i586", x86), ("i686", x86), ("i786", x86), ("i886", x86),
  ("i986", x86)]

def ofChars? (s : List Char) : Option Processor := findNamed? (· = s) names

end Processor

inductive System where
  | darwin
  | windows
  | uefi
  /-- Microcontrollers, which align nothing to more than 32 bits. -/
  | microcontroller
  /-- Linux and every other system without rules of its own. -/
  | generic
deriving DecidableEq, Repr

namespace System

def names : List (String × System) := [
  ("darwin", darwin), ("macos", darwin), ("ios", darwin), ("tvos", darwin), ("watchos", darwin),
  ("bridgeos", darwin), ("driverkit", darwin), ("xros", darwin), ("visionos", darwin),
  ("windows", windows), ("win32", windows), ("uefi", uefi),
  ("elfiamcu", microcontroller)]

def ofChars (s : List Char) : System :=
  (findNamed? (·.isPrefixOf s) names).getD generic

end System

inductive Abi where
  | unstated
  | microsoft
  /-- Of the 64-bit processor, but with 32-bit pointers. -/
  | narrow
  | other
deriving DecidableEq, Repr

namespace Abi

/-- Environments that are known, but have no rules of their own. -/
def otherNames : List String := [
  "gnu", "musl", "eabi", "android", "ohos", "pauthtest", "code16", "itanium", "cygnus", "coreclr",
  "simulator", "macabi", "opencl", "pixel", "vertex", "geometry", "hull", "domain", "compute",
  "library", "raygeneration", "intersection", "anyhit", "closesthit", "miss", "callable", "mesh",
  "amplification", "rootsignature", "mlibc", "llvm", "mtia"]

def names : List (String × Abi) :=
  [("gnux32", narrow), ("muslx32", narrow), ("msvc", microsoft)] ++ otherNames.map (·, other)

def ofEnvironment (s : List Char) : Abi :=
  (findNamed? (·.isPrefixOf s) names).getD unstated

end Abi

inductive ObjectFormat where
  | machO
  | coff
  | xcoff
  | goff
  /-- ELF, and formats that no x86 system has. -/
  | elf
deriving DecidableEq, Repr

namespace ObjectFormat

def names : List (String × ObjectFormat) := [
  ("xcoff", xcoff), ("coff", coff), ("elf", elf), ("goff", goff), ("macho", machO), ("wasm", elf),
  ("spirv", elf)]

def ofEnvironment? (s : List Char) : Option ObjectFormat := findNamed? (·.isSuffixOf s) names

def ofSystem : System → ObjectFormat
  | .darwin => machO
  | .windows => coff
  | .uefi => coff
  | _ => elf

end ObjectFormat

structure Target where
  processor : Processor
  system : System
  abi : Abi
  format : ObjectFormat
deriving DecidableEq, Repr

namespace Target

def ofTriple? (triple : String) : Option Target := do
  let parts := (Text.beforeNul triple).splitOn '-'
  let processor ← Processor.ofChars? (parts.headD [])
  let system := System.ofChars (parts[2]?.getD [])
  let environment := ['-'].intercalate (parts.drop 3)
  return {
    processor
    system
    abi := .ofEnvironment environment
    format := (ObjectFormat.ofEnvironment? environment).getD (.ofSystem system) }

/-- Windows programs follow its native ABI unless they name another one. -/
def nativeWindows (t : Target) : Bool :=
  t.system = .windows && (t.abi = .unstated || t.abi = .microsoft)

def mangling (t : Target) : String :=
  match t.format with
  | .machO => "m:o"
  | .goff => "m:l"
  | .xcoff => "m:a"
  | .coff =>
    if t.system = .windows || t.system = .uefi then
      match t.processor with
      | .x86 => "m:x"
      | .x86_64 => "m:w"
    else "m:e"
  | .elf => "m:e"

def pointers (t : Target) : List String :=
  if t.processor = .x86 || t.abi = .narrow then ["p:32:32"] else []

def wideScalars (t : Target) : List String :=
  if t.processor = .x86_64 || t.system = .windows then ["i64:64", "i128:128"]
  else if t.system = .microcontroller then ["i64:32", "f64:32"]
  else ["i128:128", "f64:32:64"]

def extendedFloats (t : Target) : List String :=
  if t.system = .microcontroller then ["f128:32"]
  else if t.processor = .x86_64 || t.system = .darwin || t.nativeWindows then ["f80:128"]
  else ["f80:32"]

def nativeIntegers (t : Target) : String :=
  if t.processor = .x86_64 then "n8:16:32:64" else "n8:16:32"

def stack (t : Target) : List String :=
  if t.processor = .x86 && t.system = .windows || t.system = .microcontroller then ["a:0:32", "S32"]
  else ["S128"]

def layoutString (t : Target) : String :=
  "-".intercalate
    (["e", t.mangling] ++ t.pointers ++ ["p270:32:32", "p271:32:32", "p272:64:64"]
      ++ t.wideScalars ++ t.extendedFloats ++ [t.nativeIntegers] ++ t.stack)

end Target

end SizeHeader
