import Mathlib.Tactic.SplitIfs
import SizeHeader.FileSystem.Service

/-!
# Opened files

A path is resolved along links and directories to a location where a file can be. Opening the file
changes the node of that location alone, and writing does the same; neither is a link or a directory
on the way of any path, so the path goes on leading there.
-/

namespace SizeHeader

namespace FileSystem

def Proper (name : String) : Prop := ¬(name = "." ∨ name = "..") ∧ name.utf8ByteSize ≤ maxName

/-- The way of names from a directory to the location of a file, with links followed. -/
inductive Leads (fs : FileSystem) : Bool → Nat → Location → List String → Location → Prop where
  | dots {slash : Bool} {links : Nat} {here l : Location} {name : String} {rest : List String}
      (hdots : name = "." ∨ name = "..") (hrest : rest ≠ [])
      (h : Leads fs slash links (if name = "." then here else here.dropLast) rest l) :
      Leads fs slash links here (name :: rest) l
  | link {slash : Bool} {links : Nat} {here l : Location} {name : String} {rest : List String}
      {target : String} (hname : Proper name) (hslash : rest = [] → slash = false)
      (hnode : fs.node? (here ++ [name]) = some (.link target))
      (h : Leads fs (if rest = [] then (Path.ofString target).trailingSlash else slash) links
        ((Path.ofString target).start here) ((Path.ofString target).names ++ rest) l) :
      Leads fs slash (links + 1) here (name :: rest) l
  | directory {slash : Bool} {links : Nat} {here l : Location} {name : String} {rest : List String}
      (hname : Proper name) (hnode : fs.node? (here ++ [name]) = some .directory) (hrest : rest ≠ [])
      (h : Leads fs slash links (here ++ [name]) rest l) :
      Leads fs slash links here (name :: rest) l
  | last {slash : Bool} {links : Nat} {here : Location} {name : String} (hname : Proper name)
      (hslash : ¬slash) (hnode : ∀ target, fs.node? (here ++ [name]) ≠ some (.link target)) :
      Leads fs slash links here [name] (here ++ [name])

theorem Leads.of_walk {fs : FileSystem} {l : Location} {slash : Bool} {links : Nat} {here : Location}
    {names : List String} (h : fs.walk .followed slash links here names = .ok l) :
    fs.Leads slash links here names l := by
  fun_induction walk fs .followed slash links here names with
  | case3 slash links here name rest hdots hrest ih => exact .dots hdots hrest (ih h)
  | case6 slash links here name rest hdots hslash hlen hmeant => cases hmeant.2
  | case8 slash here name rest hdots hslash hlen hmeant target hnode links p ih =>
    exact .link ⟨hdots, Nat.not_lt.mp hlen⟩ (by simpa using hslash) hnode (ih h)
  | case9 slash links here name hdots hlen hnode hslash hmeant =>
    obtain rfl := Except.ok.inj h
    exact .last ⟨hdots, Nat.not_lt.mp hlen⟩ (by simpa using hslash) (by simp [hnode])
  | case10 slash links here name rest hdots hslash hlen hmeant hnode hrest ih =>
    exact .directory ⟨hdots, Nat.not_lt.mp hlen⟩ hnode hrest (ih h)
  | case11 slash links here name hdots hlen node hlink hdir hnode hslash hmeant =>
    obtain rfl := Except.ok.inj h
    refine .last ⟨hdots, Nat.not_lt.mp hlen⟩ (by simpa using hslash) fun target htarget => ?_
    exact hlink target (Option.some.inj (hnode.symm.trans htarget))
  | case13 slash links here name hdots hlen hnode hslash hmeant =>
    obtain rfl := Except.ok.inj h
    exact .last ⟨hdots, Nat.not_lt.mp hlen⟩ (by simpa using hslash) (by simp [hnode])
  | _ => cases h

theorem Leads.walk_eq {fs : FileSystem} {l : Location} {slash : Bool} {links : Nat}
    {here : Location} {names : List String} (h : fs.Leads slash links here names l) :
    fs.walk .followed slash links here names = .ok l := by
  induction h with
  | dots hdots hrest h ih => rw [walk, if_pos hdots, if_neg hrest, ih]
  | link hname hslash hnode h ih =>
    have hlen := Nat.not_lt.mpr hname.2
    rw [walk, if_neg hname.1, if_neg (by simpa using hslash), if_neg hlen, if_neg (by simp), hnode]
    exact ih
  | directory hname hnode hrest h ih =>
    have hlen := Nat.not_lt.mpr hname.2
    rw [walk, if_neg hname.1, if_neg (by simp [hrest]), if_neg hlen, if_neg (by simp), hnode]
    simp only [hrest, if_false, ih]
  | last hname hslash hnode =>
    have hlen := Nat.not_lt.mpr hname.2
    rw [walk, if_neg hname.1, if_neg (by simpa using hslash), if_neg hlen, if_neg (by simp)]
    split
    · rename_i target htarget
      exact absurd htarget (hnode target)
    all_goals rfl

/-- There is no way through a name that is free. -/
theorem walk_of_free {fs : FileSystem} {slash : Bool} {links : Nat} {here : Location} {name : String}
    {rest : List String} (hname : Proper name) (hrest : rest ≠ [])
    (hnode : fs.node? (here ++ [name]) = none) :
    fs.walk .followed slash links here (name :: rest) = .error .missing := by
  have hlen := Nat.not_lt.mpr hname.2
  rw [walk, if_neg hname.1, if_neg (by simp [hrest]), if_neg hlen, if_neg (by simp), hnode]
  exact if_neg hrest

theorem Leads.not_link {fs : FileSystem} {l : Location} {slash : Bool} {links : Nat}
    {here : Location} {names : List String} (h : fs.Leads slash links here names l) :
    ∀ target, fs.node? l ≠ some (.link target) := by
  induction h with
  | dots hdots hrest h ih => exact ih
  | link hname hslash hnode h ih => exact ih
  | directory hname hnode hrest h ih => exact ih
  | last hname hslash hnode => exact hnode

/-- No file is on the way to another location, so what it holds does not matter to ways. -/
theorem Leads.set {fs : FileSystem} {file : Location} (content : List UInt8)
    (hlink : ∀ target, fs.node? file ≠ some (.link target))
    (hdir : fs.node? file ≠ some .directory) {l : Location} {slash : Bool} {links : Nat}
    {here : Location} {names : List String} (h : fs.Leads slash links here names l) :
    (fs.set file (.file content)).Leads slash links here names l := by
  induction h with
  | dots hdots hrest h ih => exact .dots hdots hrest ih
  | @link slash links here l name rest target hname hslash hnode h ih =>
    have hne : here ++ [name] ≠ file := by
      rintro rfl
      exact hlink target hnode
    exact .link hname hslash ((node?_set_of_ne fs _ hne).trans hnode) ih
  | @directory slash links here l name rest hname hnode hrest h ih =>
    have hne : here ++ [name] ≠ file := by
      rintro rfl
      exact hdir hnode
    exact .directory hname ((node?_set_of_ne fs _ hne).trans hnode) hrest ih
  | @last slash links here name hname hslash hnode =>
    refine .last hname hslash fun target htarget => ?_
    -- The file itself can be in the last place, where it is no link.
    by_cases heq : here ++ [name] = file
    · rw [heq, node?_set_self _ _ (by simp [← heq])] at htarget
      cases htarget
    · rw [node?_set_of_ne _ _ heq] at htarget
      exact hnode target htarget

theorem resolve_eq_ok_iff {fs : FileSystem} {path : String} {l : Location} :
    fs.resolve .followed path = .ok l ↔
      (¬(path = "" ∨ '\x00' ∈ path.toList) ∧ path.utf8ByteSize ≤ maxPath) ∧
        fs.Leads (Path.ofString path).trailingSlash maxLinks
          ((Path.ofString path).start fs.workingDirectory) (Path.ofString path).names l := by
  unfold resolve
  split_ifs with hpath hlen
  · constructor
    · intro h
      cases h
    · intro h
      exact absurd hpath h.1.1
  · constructor
    · intro h
      cases h
    · intro h
      exact absurd hlen (Nat.not_lt.mpr h.1.2)
  · constructor
    · intro h
      exact ⟨⟨hpath, Nat.not_lt.mp hlen⟩, .of_walk h⟩
    · intro h
      exact h.2.walk_eq

theorem resolve_not_link {fs : FileSystem} {path : String} {l : Location}
    (h : fs.resolve .followed path = .ok l) : ∀ target, fs.node? l ≠ some (.link target) :=
  (resolve_eq_ok_iff.mp h).2.not_link

theorem resolve_set {fs : FileSystem} {file : Location} (content : List UInt8)
    (hlink : ∀ target, fs.node? file ≠ some (.link target))
    (hdir : fs.node? file ≠ some .directory) {path : String} {l : Location}
    (h : fs.resolve .followed path = .ok l) :
    (fs.set file (.file content)).resolve .followed path = .ok l := by
  obtain ⟨hpath, hleads⟩ := resolve_eq_ok_iff.mp h
  exact resolve_eq_ok_iff.mpr ⟨hpath, hleads.set content hlink hdir⟩

/-- A file that is opened is emptied, and a device is left as it is. -/
theorem openForWriting_eq_ok {fs opened : FileSystem} {path : String} {l : Location}
    (h : fs.openForWriting path = .ok (l, opened)) :
    fs.resolve .followed path = .ok l ∧ fs.node? l ≠ some .directory ∧
      (opened = fs ∧ (∃ d, fs.node? l = some (.device d)) ∨ opened = fs.set l (.file [])) := by
  cases hresolve : fs.resolve .followed path with
  | error fault => simp [openForWriting, hresolve, bind, Except.bind] at h
  | ok k =>
    simp only [openForWriting, hresolve, bind, Except.bind] at h
    split at h
    · cases h
    · rename_i d hnode
      obtain ⟨rfl, rfl⟩ := Prod.mk.inj (Except.ok.inj h)
      exact ⟨rfl, by simp [hnode], .inl ⟨rfl, d, hnode⟩⟩
    · rename_i hdir hdevice
      obtain ⟨rfl, rfl⟩ := Prod.mk.inj (Except.ok.inj h)
      exact ⟨rfl, hdir, .inr rfl⟩

theorem openForWriting_of_resolve {fs : FileSystem} {path : String} {l : Location}
    (hresolve : fs.resolve .followed path = .ok l)
    (hnode : ∀ n, fs.node? l = some n → ∃ content, n = .file content) :
    fs.openForWriting path = .ok (l, fs.set l (.file [])) := by
  simp only [openForWriting, hresolve, bind, Except.bind]
  cases hat : fs.node? l with
  | none => rfl
  | some n =>
    obtain ⟨content, rfl⟩ := hnode n hat
    rfl

theorem openForWriting_of_device {fs : FileSystem} {path : String} {l : Location} {d : Device}
    (hresolve : fs.resolve .followed path = .ok l) (hnode : fs.node? l = some (.device d)) :
    fs.openForWriting path = .ok (l, fs) := by
  simp only [openForWriting, hresolve, bind, Except.bind, hnode]
  rfl

/-- A proper name that is free or a file's can be opened in the working directory. -/
theorem openForWriting_name {fs : FileSystem} {name : String} (hname : Proper name)
    (hpath : Path.ofString name = ⟨false, [name], false⟩) (hnul : '\x00' ∉ name.toList)
    (hnode : ∀ n, fs.node? (fs.workingDirectory ++ [name]) = some n → ∃ content, n = .file content) :
    fs.openForWriting name =
      .ok (fs.workingDirectory ++ [name], fs.set (fs.workingDirectory ++ [name]) (.file [])) := by
  have hne : name ≠ "" := by
    rintro rfl
    cases hpath
  refine openForWriting_of_resolve ?_ hnode
  rw [resolve_eq_ok_iff, hpath]
  refine ⟨⟨by simp [hne, hnul], Nat.le_trans hname.2 (by decide)⟩, .last hname (by simp) ?_⟩
  intro target htarget
  obtain ⟨content, hcontent⟩ := hnode _ htarget
  cases hcontent

theorem write_of_file {fs : FileSystem} {l : Location} {content : List UInt8} (bytes : List UInt8)
    (hnode : fs.node? l = some (.file content)) :
    fs.write l bytes = (.ok (), fs.set l (.file (content ++ bytes))) := by
  simp only [write, append, hnode]

theorem write_of_not_file {fs : FileSystem} {l : Location} (bytes : List UInt8)
    (hnode : ∀ content, fs.node? l ≠ some (.file content)) : (fs.write l bytes).2 = fs := by
  unfold write append
  split <;> rename_i hwrite
  · split at hwrite
    · rename_i content hfile
      exact absurd hfile (hnode content)
    · split at hwrite
      · exact (Except.ok.inj hwrite).symm
      · cases hwrite
    · exact (Except.ok.inj hwrite).symm
  · rfl

end FileSystem

/-- What a service keeps in its files. Opening and writing change one file each, and the path of an
opened file leads to it from then on. -/
class FileView (σ : Type) [FileService σ] where
  Node : Type
  node : σ → FileService.Handle σ → Node
  file : List UInt8 → Node
  LeadsTo : σ → String → FileService.Handle σ → Prop
  leadsTo_open {files opened : σ} {path : String} {handle : FileService.Handle σ} :
    FileService.openForWriting files path = .ok (handle, opened) → LeadsTo opened path handle
  node_open_of_ne {files opened : σ} {path : String} {handle other : FileService.Handle σ} :
    FileService.openForWriting files path = .ok (handle, opened) → other ≠ handle →
      node opened other = node files other
  leadsTo_write {files : σ} {path : String} {handle : FileService.Handle σ} (bytes : List UInt8) :
    LeadsTo files path handle → LeadsTo (FileService.write files handle bytes).2 path handle
  node_write_of_ne (files : σ) {handle other : FileService.Handle σ} (bytes : List UInt8) :
    other ≠ handle → node (FileService.write files handle bytes).2 other = node files other
  node_write {files left : σ} {handle : FileService.Handle σ} {content bytes : List UInt8} :
    node files handle = file content → FileService.write files handle bytes = (.ok (), left) →
      node left handle = file (content ++ bytes)

namespace FileSystem

theorem of_service_open {fs opened : FileSystem} {path : String} {l : Location}
    (h : FileService.openForWriting fs path = .ok (l, opened)) :
    fs.openForWriting path = .ok (l, opened) := by
  change (fs.openForWriting path).mapError _ = _ at h
  cases hopen : fs.openForWriting path with
  | error fault => rw [hopen] at h; cases h
  | ok result =>
    rw [hopen] at h
    exact congrArg Except.ok (Except.ok.inj h)

theorem service_open {fs opened : FileSystem} {path : String} {l : Location}
    (h : fs.openForWriting path = .ok (l, opened)) :
    FileService.openForWriting fs path = .ok (l, opened) :=
  congrArg (Except.mapError _) h

theorem service_open_of_fault {fs : FileSystem} {path : String} {fault : PathFault}
    (h : fs.resolve .followed path = .error fault) :
    FileService.openForWriting fs path = .error (fault.osError path) := by
  have hopen : fs.openForWriting path = .error fault := by
    simp only [openForWriting, h, bind, Except.bind]
  exact congrArg (Except.mapError _) hopen

theorem resolve_open {fs opened : FileSystem} {path : String} {l : Location}
    (h : fs.openForWriting path = .ok (l, opened)) : opened.resolve .followed path = .ok l := by
  obtain ⟨hresolve, hdir, ⟨rfl, -⟩ | rfl⟩ := openForWriting_eq_ok h
  · exact hresolve
  · exact resolve_set [] (resolve_not_link hresolve) hdir hresolve

theorem node?_open_of_ne {fs opened : FileSystem} {path : String} {l other : Location}
    (h : fs.openForWriting path = .ok (l, opened)) (hne : other ≠ l) :
    opened.node? other = fs.node? other := by
  obtain ⟨-, -, ⟨rfl, -⟩ | rfl⟩ := openForWriting_eq_ok h
  · rfl
  · exact node?_set_of_ne fs _ hne

theorem resolve_write {fs : FileSystem} {l : Location} (bytes : List UInt8) {path : String}
    {k : Location} (h : fs.resolve .followed path = .ok k) :
    (fs.write l bytes).2.resolve .followed path = .ok k := by
  by_cases hfile : ∃ content, fs.node? l = some (.file content)
  · obtain ⟨content, hnode⟩ := hfile
    rw [write_of_file bytes hnode]
    exact resolve_set _ (by simp [hnode]) (by simp [hnode]) h
  · rw [write_of_not_file bytes (by simpa using hfile)]
    exact h

theorem node?_write_of_ne (fs : FileSystem) {l other : Location} (bytes : List UInt8)
    (hne : other ≠ l) : (fs.write l bytes).2.node? other = fs.node? other := by
  by_cases hfile : ∃ content, fs.node? l = some (.file content)
  · obtain ⟨content, hnode⟩ := hfile
    rw [write_of_file bytes hnode]
    exact node?_set_of_ne fs _ hne
  · rw [write_of_not_file bytes (by simpa using hfile)]

theorem node?_write {fs left : FileSystem} {l : Location} {content bytes : List UInt8}
    (hnode : fs.node? l = some (.file content)) (h : fs.write l bytes = (.ok (), left)) :
    left.node? l = some (.file (content ++ bytes)) := by
  have hl : l ≠ [] := by
    rintro rfl
    cases hnode
  rw [write_of_file bytes hnode] at h
  obtain rfl := (Prod.mk.inj h).2
  exact node?_set_self fs _ hl

instance : FileView FileSystem where
  Node := Option Node
  node := node?
  file content := some (.file content)
  LeadsTo fs path l := fs.resolve .followed path = .ok l
  leadsTo_open h := resolve_open (of_service_open h)
  node_open_of_ne h hne := node?_open_of_ne (of_service_open h) hne
  leadsTo_write bytes h := resolve_write bytes h
  node_write_of_ne fs _ _ bytes hne := node?_write_of_ne fs bytes hne
  node_write hnode h := node?_write hnode h

end FileSystem

end SizeHeader
