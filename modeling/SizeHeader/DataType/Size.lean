import SizeHeader.DataType.Basic
import SizeHeader.Layout.Basic

/-!
Sizes of data types under a layout, in bytes and in 64-bit arithmetic.
-/

namespace SizeHeader.DataType

def bytesOfBits (bits : Nat) : Nat := (bits + 7) / 8

mutual

def align (layout : DataLayout) : DataType → Alignment
  | integer width => layout.integerAlign width
  | float format => layout.floatAlign format.bits
  | pointer space => (layout.pointerFormat space.toNat).align
  | void => .byte
  | label => .byte
  | array _ element => element.align layout
  | struct _ true => .byte
  | struct members false => max (maxAlign layout members) layout.aggregate

def maxAlign (layout : DataLayout) : List DataType → Alignment
  | [] => .byte
  | t :: rest => max (t.align layout) (maxAlign layout rest)

end

mutual

/-- The bytes a value takes, up to padding behind it. The layout's least alignment of aggregates
does not enter the size of a struct, only the room it takes as a part. -/
def size (layout : DataLayout) : DataType → UInt64
  | integer width => .ofNat (bytesOfBits width)
  | float format => .ofNat (bytesOfBits format.bits)
  | pointer space => .ofNat (bytesOfBits (layout.pointerFormat space.toNat).bits)
  | void => 0
  | label => 0
  | array count element =>
    .ofNat count.toNat * (element.align layout).roundUp (element.size layout)
  | struct members true => packedEnd layout 0 members
  | struct members false => (maxAlign layout members).roundUp (alignedEnd layout 0 members)

def packedEnd (layout : DataLayout) (offset : UInt64) : List DataType → UInt64
  | [] => offset
  | t :: rest =>
    packedEnd layout (offset + (t.align layout).roundUp (t.size layout)) rest

def alignedEnd (layout : DataLayout) (offset : UInt64) : List DataType → UInt64
  | [] => offset
  | t :: rest =>
    alignedEnd layout
      ((t.align layout).roundUp offset + (t.align layout).roundUp (t.size layout)) rest

end

/-- The room a value takes as an element or member: its size, rounded up to its alignment. -/
def allocSize (layout : DataLayout) (t : DataType) : UInt64 :=
  (t.align layout).roundUp (t.size layout)

end SizeHeader.DataType
