import SizeHeader.Layout.Alignment

/-!
Data layouts: the alignment of every scalar, the width of pointers, and the least alignment of an
aggregate. Tables are kept in the order of their keys, so a layout does not remember the order in
which it was written.
-/

namespace SizeHeader

def setKey {α : Type} (key : Nat) (value : α) : List (Nat × α) → List (Nat × α)
  | [] => [(key, value)]
  | (k, v) :: rest =>
    if key < k then (key, value) :: (k, v) :: rest
    else if key = k then (key, value) :: rest
    else (k, v) :: setKey key value rest

structure PointerFormat where
  bits : Nat
  align : Alignment
deriving DecidableEq, Repr

structure DataLayout where
  integers : List (Nat × Alignment) :=
    [(1, ⟨0⟩), (8, ⟨0⟩), (16, ⟨1⟩), (32, ⟨2⟩), (64, ⟨2⟩)]
  floats : List (Nat × Alignment) := [(16, ⟨1⟩), (32, ⟨2⟩), (64, ⟨3⟩)]
  pointers : List (Nat × PointerFormat) := [(0, ⟨64, ⟨3⟩⟩)]
  aggregate : Alignment := .byte
deriving DecidableEq, Repr

namespace DataLayout

/-- An integer without a width of its own is aligned like the next larger width listed, and one
larger than all of them like the largest. -/
def integerAlign (layout : DataLayout) (width : Nat) : Alignment :=
  match layout.integers.find? (fun entry => width ≤ entry.1) with
  | some entry => entry.2
  | none => (layout.integers.getLast?.map (·.2)).getD .byte

def floatAlign (layout : DataLayout) (width : Nat) : Alignment :=
  (layout.floats.lookup width).getD .byte

/-- Address spaces that are not listed are stored like address space 0. -/
def pointerFormat (layout : DataLayout) (space : Nat) : PointerFormat :=
  (layout.pointers.lookup space <|> layout.pointers.lookup 0).getD ⟨64, ⟨3⟩⟩

end DataLayout

end SizeHeader
