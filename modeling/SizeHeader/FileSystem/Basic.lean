/-!
File systems: a tree of named nodes, kept as a table from locations to nodes. A location is the list
of names that leads to it from the root, which is always a directory. Relative paths begin at the
working directory.
-/

namespace SizeHeader

/-- Files that keep nothing of what is written to them. -/
inductive Device where
  | null
  /-- Refuses every byte for want of space. -/
  | full
deriving DecidableEq, Repr

inductive Node where
  | file (content : List UInt8)
  | directory
  | link (target : String)
  | device (d : Device)
deriving DecidableEq, Repr

abbrev Location := List String

structure FileSystem where
  nodes : List (Location × Node)
  workingDirectory : Location
deriving DecidableEq, Repr

namespace FileSystem

def node? (fs : FileSystem) (l : Location) : Option Node :=
  if l = [] then some .directory else fs.nodes.lookup l

def setNode (l : Location) (n : Node) : List (Location × Node) → List (Location × Node)
  | [] => [(l, n)]
  | entry :: rest => if entry.1 = l then (l, n) :: rest else entry :: setNode l n rest

def set (fs : FileSystem) (l : Location) (n : Node) : FileSystem :=
  { fs with nodes := setNode l n fs.nodes }

def erase (fs : FileSystem) (l : Location) : FileSystem :=
  { fs with nodes := fs.nodes.filter (·.1 ≠ l) }

/-- Everything below the working directory by its relative path, in the order of these paths. -/
def tree (fs : FileSystem) : List (String × Node) :=
  let below := fs.nodes.filterMap fun (l, n) =>
    let depth := fs.workingDirectory.length
    if l.take depth = fs.workingDirectory ∧ depth < l.length then
      some ("/".intercalate (l.drop depth), n)
    else none
  below.mergeSort fun a b => decide (a.1 ≤ b.1)

theorem lookup_setNode_self (l : Location) (n : Node) (nodes : List (Location × Node)) :
    (setNode l n nodes).lookup l = some n := by
  induction nodes with
  | nil => simp [setNode]
  | cons entry rest ih =>
    obtain ⟨k, m⟩ := entry
    by_cases hk : k = l
    · simp [setNode, hk]
    · have hne : (l == k) = false := beq_eq_false_iff_ne.mpr (Ne.symm hk)
      simpa [setNode, hk, List.lookup_cons, hne] using ih

theorem lookup_setNode_of_ne {l k : Location} (n : Node) (nodes : List (Location × Node))
    (hne : k ≠ l) : (setNode l n nodes).lookup k = nodes.lookup k := by
  have hbeq : (k == l) = false := beq_eq_false_iff_ne.mpr hne
  induction nodes with
  | nil => simp [setNode, List.lookup_cons, hbeq]
  | cons entry rest ih =>
    obtain ⟨j, m⟩ := entry
    by_cases hj : j = l
    · simp [setNode, hj, List.lookup_cons, hbeq]
    · simp only [setNode, hj, if_false, List.lookup_cons, ih]

theorem node?_set_self (fs : FileSystem) {l : Location} (n : Node) (hl : l ≠ []) :
    (fs.set l n).node? l = some n := by
  simp only [node?, set, hl, if_false]
  exact lookup_setNode_self l n fs.nodes

theorem node?_set_of_ne (fs : FileSystem) {l k : Location} (n : Node) (hne : k ≠ l) :
    (fs.set l n).node? k = fs.node? k := by
  simp only [node?, set, lookup_setNode_of_ne n fs.nodes hne]

theorem set_set (fs : FileSystem) (l : Location) (m n : Node) :
    (fs.set l m).set l n = fs.set l n := by
  have hnodes : ∀ nodes, setNode l n (setNode l m nodes) = setNode l n nodes := by
    intro nodes
    induction nodes with
    | nil => simp [setNode]
    | cons entry rest ih =>
      by_cases hentry : entry.1 = l
      · simp [setNode, hentry]
      · simp [setNode, hentry, ih]
  simp only [set, hnodes]

end FileSystem

end SizeHeader
