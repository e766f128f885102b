import SizeHeader.DataType.Size
import SizeHeader.Message.Internal
import SizeHeader.Target.Layout

/-!
Records: named lists of data members, laid out as a struct. The size of a record is what an array of
them takes for each, read as a signed word, and it has to be positive.
-/

namespace SizeHeader

structure Record where
  name : String
  fields : List (String × DataType)

structure SizeEntry where
  name : String
  size : Int
deriving DecidableEq, Repr

inductive SizeFault where
  | invalidType
  | notPositive (size : Int)
deriving DecidableEq, Repr

def SizeFault.message : SizeFault → String
  | invalidType => "LLVM IR parsing error"
  | notPositive size => "size " ++ size.repr ++ " is not positive"

namespace Record

def dataType (r : Record) : DataType :=
  .struct (r.fields.map (·.2)) false

/-- The alloc size of the record as a signed word. -/
def signedSize (layout : DataLayout) (r : Record) : Int :=
  (r.dataType.allocSize layout).toInt64.toInt

def size (layout : DataLayout) (r : Record) : Except SizeFault Int :=
  if r.dataType.Valid then
    if 0 < r.signedSize layout then .ok (r.signedSize layout)
    else .error (.notPositive (r.signedSize layout))
  else .error .invalidType

def entry (layout : DataLayout) (r : Record) : Except InternalError SizeEntry :=
  match r.size layout with
  | .ok size => .ok ⟨r.name, size⟩
  | .error fault =>
    .error (Catalog.builtin.internalError Message.cannotSize.code
      [("name", .text r.name), ("reason", .text fault.message)])

/-- The entries of records in their order, or the error of the first that has none. -/
def entries (layout : DataLayout) (records : List Record) :
    Except InternalError (List SizeEntry) :=
  records.mapM (entry layout)

def integerWidth : Nat := 32

def ofIntegers (name : String) (fields : List String) : Record :=
  ⟨name, fields.map (·, .integer integerWidth)⟩

def qPoint : Record := ofIntegers "QPoint" ["xp", "yp"]

def qRect : Record := ofIntegers "QRect" ["x1", "y1", "x2", "y2"]

def registered : List Record := [qPoint, qRect]

end Record

end SizeHeader
