import SizeHeader.Message.Basic

/-!
The message catalog: messages in the order in which they were added, found by their codes. A code that
is taken cannot be added again.
-/

namespace SizeHeader

structure Catalog where
  messages : List Message
deriving DecidableEq, Repr

inductive MessageFault where
  | unknownCode (code : String)
  /-- A field of the message with this code and text names no argument. -/
  | missingArgument (key code text : String)
  | template (fault : TemplateFault)
  | reservedName (op : Operation) (name : String)
deriving DecidableEq, Repr

def MessageFault.message : MessageFault → String
  | unknownCode code => "unknown error code: " ++ code
  | missingArgument key code text =>
    "missing text key '" ++ key ++ "' for " ++ code ++ " (needed by: " ++ Text.quoted text ++ ")"
  | template fault => fault.message
  | reservedName op name =>
    op.name ++ "() got multiple values for argument '" ++ name ++ "'"

/-- The message `added` has the code of `present`, which was there before it. -/
structure DuplicateCode where
  present : Message
  added : Message
deriving DecidableEq, Repr

/-- Both messages are shown, and if that fails its fault is told instead. -/
def DuplicateCode.message (e : DuplicateCode) : String :=
  match e.present.describe?, e.added.describe? with
  | some present, some added => "duplicate error code " ++ present ++ " in " ++ added
  | _, _ => Text.tooLong none

def Operation.check (op : Operation) (args : Arguments) : Except MessageFault Unit :=
  match op.clash? args with
  | some name => .error (.reservedName op name)
  | none => .ok ()

def Message.fill (m : Message) (args : Arguments) : Except MessageFault String :=
  match m.template.fill args with
  | .ok s => .ok (.ofList s)
  | .error (.missing key) => .error (.missingArgument key m.code m.text)
  | .error fault => .error (.template fault)

namespace Catalog

def find? (c : Catalog) (code : String) : Option Message :=
  c.messages.find? (·.code = code)

def codes (c : Catalog) : List String := c.messages.map (·.code)

def add (c : Catalog) (m : Message) : Except DuplicateCode Catalog :=
  match c.find? m.code with
  | some present => .error ⟨present, m⟩
  | none => .ok ⟨c.messages ++ [m]⟩

theorem find?_eq_none_iff {c : Catalog} {code : String} : c.find? code = none ↔ code ∉ c.codes := by
  simp [find?, codes]

theorem code_of_find? {c : Catalog} {code : String} {m : Message} (hm : c.find? code = some m) :
    m.code = code := by
  simpa using List.find?_some hm

theorem add_eq_ok_iff {c d : Catalog} {m : Message} :
    c.add m = .ok d ↔ m.code ∉ c.codes ∧ d = ⟨c.messages ++ [m]⟩ := by
  rw [← find?_eq_none_iff]
  unfold add
  cases hm : c.find? m.code with
  | none => simp [eq_comm]
  | some present => simp

theorem find?_of_add {c d : Catalog} {m : Message} (hadd : c.add m = .ok d) (code : String) :
    d.find? code = (c.find? code <|> if m.code = code then some m else none) := by
  obtain ⟨hcode, rfl⟩ := add_eq_ok_iff.mp hadd
  simp only [find?, List.find?_append, List.find?_cons, List.find?_nil]
  by_cases h : m.code = code <;> simp [h]

def format (c : Catalog) (code : String) (args : Arguments) : Except MessageFault String := do
  Operation.format.check args
  match c.find? code with
  | some m => m.fill args
  | none => throw (.unknownCode code)

end Catalog

namespace Message

def missingFilename : Message where
  code := "SD0001"
  severity := .error
  text := "no filename supplied"
  category := .argument
  doc := "Usage: size_definer <output-path>."
  exitCode := 1

def cannotOpen : Message where
  code := "SD0002"
  severity := .error
  text := "can't open file '\x7bpath\x7d': \x7breason\x7d"
  category := .io
  doc := "Output path is in a missing or read-only directory, or is not a regular file."
  exitCode := 2

def cannotWrite : Message where
  code := "SD0003"
  severity := .error
  text := "can't write file '\x7bpath\x7d': \x7breason\x7d"
  category := .io
  doc := "Output file was opened but writing or closing it failed."
  exitCode := 2

def generating : Message where
  code := "SD0100"
  severity := .note
  text := "Generating file: \x7bpath\x7d"
  doc := "Printed once per run before the output file is opened."

def cannotSize : Message where
  code := "IE0002"
  severity := .error
  text := "cannot determine size of '\x7bname\x7d': \x7breason\x7d"
  category := .internal
  doc := "LLVM rejected the layout or returned a non-positive size."

end Message

def Catalog.builtin : Catalog :=
  ⟨[.missingFilename, .cannotOpen, .cannotWrite, .generating, .cannotSize]⟩

end SizeHeader
