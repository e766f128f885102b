import SizeHeader.Message.Argument
import SizeHeader.Record

/-!
Size definitions: one preprocessor line for each entry. A size is shown as any argument is, so one with
too many digits leaves its entries without a text.
-/

namespace SizeHeader

def definitionLine (scope name size : String) : String :=
  "#define " ++ scope ++ "_sizeof_" ++ name ++ " " ++ size ++ "\n"

def defaultScope : String := "QTCW"

def definitionTemplate : String :=
  definitionLine "\x7bprefix\x7d" "\x7bname\x7d" "\x7bsize\x7d"

def definition? (scope name : String) (size : Argument) : Option String :=
  size.plain?.map (definitionLine scope name)

/-- The definitions of names with sizes of any kind, if all of these have a text. -/
def definitions? (scope : String) (sizes : List (String × Argument)) : Option String :=
  (sizes.mapM fun (name, size) => definition? scope name size).map String.join

namespace SizeEntry

def definition? (e : SizeEntry) (scope : String) : Option String :=
  SizeHeader.definition? scope e.name (.integer e.size)

def definitions? (entries : List SizeEntry) (scope : String) : Option String :=
  SizeHeader.definitions? scope (entries.map fun e => (e.name, .integer e.size))

end SizeEntry

end SizeHeader
