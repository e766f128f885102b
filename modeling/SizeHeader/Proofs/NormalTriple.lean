import SizeHeader.Proofs.TextReading
import SizeHeader.Target.Platform

/-!
# Normal triples

Reading a triple fills in what is missing, drops what is too much and names the operating system
without its version. All of this happens once: the four fields, joined by dashes again, are read as they
are. Cutting a version off never leaves a name that is treated in another way, since a name that begins
like Darwin or macOS did so before it was cut.
-/

namespace SizeHeader

namespace Platform

/-! ### Names of operating systems -/

def LikeDarwin (s : List Char) : Prop := "darwin".toList <+: s ∨ "macos".toList <+: s

/-- Either all of the name is replaced or its version is cut off. -/
theorem osName_cases (s : List Char) :
    LikeDarwin s ∧ osName s = "darwin".toList ∨
      ¬LikeDarwin s ∧ osName s = s.takeWhile (· ≠ '.') := by
  have hlike : ("darwin".toList.isPrefixOf s || "macos".toList.isPrefixOf s) = true ↔
      LikeDarwin s := by
    rw [Bool.or_eq_true, List.isPrefixOf_iff_prefix, List.isPrefixOf_iff_prefix, LikeDarwin]
  by_cases h : LikeDarwin s
  · exact .inl ⟨h, if_pos (hlike.mpr h)⟩
  · exact .inr ⟨h, if_neg (mt hlike.mp h)⟩

/-- A name that is left as it is: that of Darwin itself, or one without a version that is not taken for
Darwin. -/
def NormalOs (s : List Char) : Prop := s = "darwin".toList ∨ '.' ∉ s ∧ ¬LikeDarwin s

theorem normalOs_osName (s : List Char) : NormalOs (osName s) := by
  rcases osName_cases s with ⟨-, hname⟩ | ⟨hlike, hname⟩
  · exact .inl hname
  · have hcut : s.takeWhile (· ≠ '.') <+: s := List.takeWhile_prefix _
    rw [hname]
    refine .inr ⟨fun hdot => ?_, fun h => ?_⟩
    · simpa using List.mem_takeWhile_imp hdot
    · exact hlike (h.imp (·.trans hcut) (·.trans hcut))

theorem osName_of_normalOs {s : List Char} (h : NormalOs s) : osName s = s := by
  rcases h with rfl | ⟨hdot, hnormal⟩
  · rfl
  · rcases osName_cases s with ⟨hlike, -⟩ | ⟨-, hname⟩
    · exact absurd hlike hnormal
    · rw [hname, List.takeWhile_eq_self_iff]
      intro c hc
      exact decide_eq_true (ne_of_mem_of_not_mem hc hdot)

theorem dash_not_mem_osName {s : List Char} (h : '-' ∉ s) : '-' ∉ osName s := by
  rcases osName_cases s with ⟨-, hname⟩ | ⟨-, hname⟩ <;> rw [hname]
  · decide
  · exact fun hmem => h ((List.takeWhile_prefix _).subset hmem)

/-! ### Triples -/

/-- The four fields, joined by dashes. -/
def triple (p : Platform) : String := "-".intercalate [p.arch, p.vendor, p.os, p.abi]

structure Normal (p : Platform) : Prop where
  arch : '-' ∉ p.arch.toList
  vendor : '-' ∉ p.vendor.toList
  os : '-' ∉ p.os.toList
  abi : '-' ∉ p.abi.toList
  name : NormalOs p.os.toList

theorem dash_not_mem_getD {triple fallback : List Char} (hfallback : '-' ∉ fallback) (i : Nat) :
    '-' ∉ (triple.splitOn '-')[i]?.getD fallback := by
  cases hpart : (triple.splitOn '-')[i]? with
  | none => exact hfallback
  | some part => exact Text.not_mem_of_mem_splitOn part (List.mem_of_getElem? hpart)

theorem normal_ofTriple (triple : String) : (ofTriple triple).Normal where
  arch := by
    simp only [ofTriple, ofParts, String.toList_ofList]
    exact dash_not_mem_getD (by decide) 0
  vendor := by
    simp only [ofTriple, ofParts, String.toList_ofList]
    exact dash_not_mem_getD (by decide) 1
  os := by
    simp only [ofTriple, ofParts, String.toList_ofList]
    exact dash_not_mem_osName (dash_not_mem_getD (by decide) 2)
  abi := by
    simp only [ofTriple, ofParts, String.toList_ofList]
    exact dash_not_mem_getD (by decide) 3
  name := by
    simp only [ofTriple, ofParts, String.toList_ofList]
    exact normalOs_osName _

theorem Normal.ofTriple_eq {p : Platform} (h : p.Normal) : ofTriple p.triple = p := by
  have hchars : p.triple.toList = ['-'].intercalate
      [p.arch.toList, p.vendor.toList, p.os.toList, p.abi.toList] :=
    String.toList_intercalate
  have hparts : p.triple.toList.splitOn '-' =
      [p.arch.toList, p.vendor.toList, p.os.toList, p.abi.toList] := by
    rw [hchars]
    exact List.splitOn_intercalate '-' (by simp [h.arch, h.vendor, h.os, h.abi]) (by simp)
  have hname := osName_of_normalOs h.name
  simp [ofTriple, hparts, ofParts, hname]

/-- **Triples are normalised once and for all.** The fields of a triple, joined again, are read as the
same fields, and they are normal. The normal platforms are all those that are read off their own joined
form. -/
theorem ofTriple_triple_iff :
    (∀ triple : String,
      ofTriple (ofTriple triple).triple = ofTriple triple ∧ (ofTriple triple).Normal) ∧
    ∀ p : Platform, ofTriple p.triple = p ↔ p.Normal := by
  refine ⟨fun triple => ⟨(normal_ofTriple triple).ofTriple_eq, normal_ofTriple triple⟩, fun p => ?_⟩
  constructor
  · intro h
    rw [← h]
    exact normal_ofTriple p.triple
  · exact Normal.ofTriple_eq

end Platform

end SizeHeader
