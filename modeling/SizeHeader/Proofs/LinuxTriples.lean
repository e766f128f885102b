import SizeHeader.Proofs.NormalTriple
import SizeHeader.Target.Machine

/-!
# Triples of Linux

Whether a triple is one of Linux shows on the triple as it is written: what stands between its second
dash and the next one, or the end, is the name of Linux, alone or with a version behind a point. The
third part is renamed before it is compared, and in two ways, but neither makes a name into that of
Linux which did not begin with it: a version is cut off at the first point, and all that becomes another
name becomes Darwin.
-/

namespace SizeHeader

namespace Platform

/-! ### Names -/

/-- The names that stand for Linux: this one, and this one with a version behind a point. -/
def NamesLinux (os : List Char) : Prop := os = "linux".toList ∨ "linux.".toList <+: os

instance : DecidablePred NamesLinux := fun os =>
  inferInstanceAs (Decidable (os = "linux".toList ∨ "linux.".toList <+: os))

theorem namesLinux_iff_firstPart {os : List Char} :
    NamesLinux os ↔ Text.FirstPart '.' os "linux".toList := by
  have hlead (version : List Char) : "linux.".toList ++ version = "linux".toList ++ '.' :: version :=
    rfl
  have hversion : "linux.".toList <+: os ↔ ∃ version, os = "linux".toList ++ '.' :: version :=
    exists_congr fun version => by rw [hlead, eq_comm]
  have hpoint : '.' ∉ "linux".toList := by decide
  rw [NamesLinux, hversion, Text.FirstPart, and_iff_right hpoint]

/-- The name begins with these very characters, and only a point may come next. -/
theorem namesLinux_iff {os : List Char} :
    NamesLinux os ↔ "linux".toList <+: os ∧ ∀ c ∈ os[5]?, c = '.' := by
  rw [namesLinux_iff_firstPart]
  constructor
  · rintro ⟨-, rfl | ⟨version, rfl⟩⟩
    · exact ⟨List.prefix_rfl, by simp⟩
    · exact ⟨List.prefix_append _ _, fun c hc => (Option.some.inj hc).symm⟩
  · rintro ⟨⟨behind, rfl⟩, hnext⟩
    refine ⟨by decide, ?_⟩
    cases behind with
    | nil => exact .inl (List.append_nil _)
    | cons c version =>
      obtain rfl : c = '.' := hnext c rfl
      exact .inr ⟨version, rfl⟩

theorem NamesLinux.not_likeDarwin {os : List Char} (h : NamesLinux os) : ¬LikeDarwin os := by
  obtain ⟨⟨behind, rfl⟩, -⟩ := namesLinux_iff.mp h
  rintro (⟨rest, hos⟩ | ⟨rest, hos⟩)
  · exact absurd (List.cons.inj hos).1 (by decide)
  · exact absurd (List.cons.inj hos).1 (by decide)

theorem osName_eq_linux_iff {os : List Char} : osName os = "linux".toList ↔ NamesLinux os := by
  rcases osName_cases os with ⟨hlike, hname⟩ | ⟨-, hname⟩
  · rw [hname]
    exact iff_of_false (by decide) fun h => h.not_likeDarwin hlike
  · rw [hname, Text.takeWhile_ne_eq_iff, namesLinux_iff_firstPart]

/-! ### Triples -/

/-- Only the third part counts. -/
theorem isLinux_ofParts_iff {parts : List (List Char)} :
    (ofParts parts).IsLinux ↔ ∃ os ∈ parts[2]?, NamesLinux os := by
  have hname : (ofParts parts).IsLinux ↔ NamesLinux (parts[2]?.getD "unknown".toList) := by
    rw [← osName_eq_linux_iff, IsLinux, ofParts, ← String.toList_inj, String.toList_ofList]
  rw [hname]
  cases parts[2]? with
  | none => exact iff_of_false (by decide) (by simp)
  | some os => simp

/-- The form that the triples of Linux have as they are written. -/
def LinuxTriple (triple : String) : Prop :=
  ∃ arch vendor os : String, '-' ∉ arch.toList ∧ '-' ∉ vendor.toList ∧ '-' ∉ os.toList ∧
    NamesLinux os.toList ∧
    (triple = arch ++ "-" ++ vendor ++ "-" ++ os ∨
      ∃ rest, triple = arch ++ "-" ++ vendor ++ "-" ++ os ++ "-" ++ rest)

theorem linuxTriple_iff {triple : String} :
    LinuxTriple triple ↔ ∃ os ∈ (triple.toList.splitOn '-')[2]?, NamesLinux os := by
  constructor
  · rintro ⟨arch, vendor, os, harch, hvendor, hos, hname, htriple⟩
    have hbehind : ∃ behind, triple.toList =
        arch.toList ++ '-' :: (vendor.toList ++ '-' :: behind) ∧
          Text.FirstPart '-' behind os.toList := by
      obtain rfl | ⟨rest, rfl⟩ := htriple
      · exact ⟨os.toList, by simp, hos, .inl rfl⟩
      · exact ⟨os.toList ++ '-' :: rest.toList, by simp, hos, .inr ⟨rest.toList, rfl⟩⟩
    obtain ⟨behind, hchars, hpart⟩ := hbehind
    refine ⟨os.toList, ?_, hname⟩
    rw [Option.mem_def, hchars, List.splitOn_append_cons_self_of_not_mem harch,
      List.splitOn_append_cons_self_of_not_mem hvendor]
    exact Text.getElem?_zero_splitOn.mpr hpart
  · rintro ⟨os, hmem, hname⟩
    obtain ⟨arch, afterArch, harch, hchars, hafter⟩ := Text.getElem?_succ_splitOn.mp hmem
    obtain ⟨vendor, behind, hvendor, rfl, hpart⟩ := Text.getElem?_succ_splitOn.mp hafter
    obtain ⟨hos, hbehind⟩ := Text.getElem?_zero_splitOn.mp hpart
    refine ⟨.ofList arch, .ofList vendor, .ofList os, ?_⟩
    simp only [String.toList_ofList]
    refine ⟨harch, hvendor, hos, hname, ?_⟩
    obtain rfl | ⟨rest, rfl⟩ := hbehind
    · exact .inl (String.toList_injective (by simp [hchars]))
    · exact .inr ⟨.ofList rest, String.toList_injective (by simp [hchars])⟩

/-- **Linux shows on the triple as it is written.** A triple is read as one of Linux exactly if it has the
form of one. So nothing but the third of the parts between its dashes counts, whatever the others are,
and this part begins with the name itself, in lower case, and goes on with a point, if it goes on. -/
theorem isLinux_ofTriple_iff (triple : String) :
    ((ofTriple triple).IsLinux ↔ LinuxTriple triple) ∧
    ((ofTriple triple).IsLinux ↔
      ∃ os ∈ (triple.toList.splitOn '-')[2]?, "linux".toList <+: os ∧ ∀ c ∈ os[5]?, c = '.') := by
  have hpart : (ofTriple triple).IsLinux ↔
      ∃ os ∈ (triple.toList.splitOn '-')[2]?, NamesLinux os := isLinux_ofParts_iff
  refine ⟨hpart.trans linuxTriple_iff.symm, hpart.trans ?_⟩
  simp only [namesLinux_iff]

example : (ofTriple "x86_64--linux.5").IsLinux ∧ ¬(ofTriple "linux-linux.5-linux6-linux").IsLinux := by
  decide

end Platform

/-- Machines for triples of Linux, and no others, are position independent. -/
theorem Machine.relocation_eq_pic_iff {triple : String} {machine : Machine}
    (h : ofTriple triple = .ok machine) :
    machine.relocation = .pic ↔ Platform.LinuxTriple triple := by
  have hrelocation : machine.relocation =
      if (Platform.ofTriple triple).IsLinux then .pic else .standard := by
    unfold ofTriple at h
    split at h
    · cases h
    · obtain rfl := Except.ok.inj h
      rfl
  rw [Platform.linuxTriple_iff, ← Platform.isLinux_ofParts_iff, hrelocation]
  change _ ↔ (Platform.ofTriple triple).IsLinux
  by_cases hlinux : (Platform.ofTriple triple).IsLinux <;> simp [hlinux]

end SizeHeader
