import SizeHeader.Target.Layout
import SizeHeader.Target.Platform

/-!
Target machines: the layout of a triple with a relocation model. A manager keeps the machine of the
host once it has been made; machines for other triples are made anew each time. The pool stands
for what all managers share.
-/

namespace SizeHeader

structure UnknownTarget where
  triple : String
deriving DecidableEq, Repr

def UnknownTarget.message (e : UnknownTarget) : String :=
  "No available targets are compatible with triple \"" ++ e.triple ++ "\""

inductive Relocation where
  | pic
  | standard
deriving DecidableEq, Repr

def Relocation.name : Relocation → String
  | pic => "pic"
  | standard => "default"

structure Machine where
  layout : String
  relocation : Relocation
deriving DecidableEq, Repr

namespace Machine

def hostTriple : String := "x86_64-unknown-linux-gnu"

/-- Programs on Linux are position independent. -/
def ofTriple (triple : String) : Except UnknownTarget Machine :=
  match Target.ofTriple? triple with
  | none => .error ⟨.ofList (Text.beforeNul triple)⟩
  | some target =>
    .ok
      { layout := target.layoutString
        relocation := if (Platform.ofTriple triple).IsLinux then .pic else .standard }

def dataLayout (m : Machine) : DataLayout := .ofString m.layout

end Machine

def DataLayout.ofTriple (triple : String) : Except UnknownTarget DataLayout := do
  return (← Machine.ofTriple triple).dataLayout

/-- The layout that sizes are asked for: a given one, or else that of the host. -/
def DataLayout.ofTarget (host : String) : Option DataLayout → Except UnknownTarget DataLayout
  | some layout => .ok layout
  | none => ofTriple host

/-- Identifies a machine by the number of machines made before it. -/
abbrev MachineId := Nat

/-- All machines made, the host machine that each manager keeps, and the managers for which native
code generation has been set up. -/
structure MachinePool where
  machines : List Machine := []
  kept : List (Nat × MachineId) := []
  initialised : List Nat := []
deriving DecidableEq, Repr

namespace MachinePool

def relocations (p : MachinePool) : List Relocation := p.machines.map (·.relocation)

def initialise (p : MachinePool) (manager : Nat) : MachinePool :=
  if manager ∈ p.initialised then p
  else { p with initialised := p.initialised ++ [manager] }

/-- Makes a new machine. A failure leaves the manager set up. -/
def create (p : MachinePool) (manager : Nat) (triple : String) :
    Except UnknownTarget (MachineId × Machine) × MachinePool :=
  let p := p.initialise manager
  match Machine.ofTriple triple with
  | .error e => (.error e, p)
  | .ok machine =>
    (.ok (p.machines.length, machine), { p with machines := p.machines ++ [machine] })

def kept? (p : MachinePool) (manager : Nat) : Option (MachineId × Machine) := do
  let id ← p.kept.lookup manager
  return (id, ← p.machines[id]?)

/-- The host machine of the manager, made when first asked for. -/
def host (p : MachinePool) (manager : Nat) :
    Except UnknownTarget (MachineId × Machine) × MachinePool :=
  match (p.initialise manager).kept? manager with
  | some found => (.ok found, p.initialise manager)
  | none =>
    match p.create manager Machine.hostTriple with
    | (.ok (id, machine), p) => (.ok (id, machine), { p with kept := (manager, id) :: p.kept })
    | (.error e, p) => (.error e, p)

end MachinePool

end SizeHeader
