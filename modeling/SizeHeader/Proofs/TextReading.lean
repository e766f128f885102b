import Mathlib

/-!
# Reading texts apart

A text that was put together from words, numerals, parts or lines can be taken apart again where it is
known what ends each of them: a word ends before the first character that it cannot have, and parts and
lines end at a character that none of them has.
-/

namespace SizeHeader.Text

/-! ### Words and numerals -/

theorem forall_head?_cons {p : Char → Prop} {c : Char} (hc : p c) (rest : List Char) :
    ∀ d ∈ (c :: rest).head?, p d := by
  rintro d ⟨⟩
  exact hc

/-- Two words over some characters that are equal up to what follows them are equal, if what follows
begins with none of these characters. -/
theorem word_append_inj {p : Char → Prop} {word other rest rest' : List Char}
    (hword : ∀ c ∈ word, p c) (hother : ∀ c ∈ other, p c) (hrest : ∀ c ∈ rest.head?, ¬p c)
    (hrest' : ∀ c ∈ rest'.head?, ¬p c) (h : word ++ rest = other ++ rest') :
    word = other ∧ rest = rest' := by
  induction word generalizing other with
  | nil =>
    cases other with
    | nil => exact ⟨rfl, h⟩
    | cons c other =>
      obtain rfl : rest = c :: (other ++ rest') := h
      exact absurd (hother c List.mem_cons_self) (hrest c rfl)
  | cons c word ih =>
    rw [List.forall_mem_cons] at hword
    cases other with
    | nil =>
      obtain rfl : c :: (word ++ rest) = rest' := h
      exact absurd hword.1 (hrest' c rfl)
    | cons d other =>
      rw [List.forall_mem_cons] at hother
      obtain ⟨rfl, htail⟩ := List.cons.inj h
      obtain ⟨rfl, hrest⟩ := ih hword.2 hother.2 htail
      exact ⟨rfl, hrest⟩

def InNumeral (c : Char) : Prop := c.isDigit ∨ c = '-'

instance : DecidablePred InNumeral := fun c => inferInstanceAs (Decidable (c.isDigit ∨ c = '-'))

theorem inNumeral_of_mem_natRepr {n : Nat} : ∀ c ∈ n.repr.toList, InNumeral c := by
  intro c hc
  rw [Nat.repr_eq_ofList_toDigits, String.toList_ofList] at hc
  exact .inl (Nat.isDigit_of_mem_toDigits (by decide) (by decide) hc)

theorem inNumeral_of_mem_intRepr {n : Int} : ∀ c ∈ n.repr.toList, InNumeral c := by
  cases n with
  | ofNat n => exact inNumeral_of_mem_natRepr
  | negSucc n =>
    intro c hc
    have hsplit : (Int.negSucc n).repr.toList = '-' :: (n + 1).repr.toList := by
      rw [Int.repr, String.toList_append]
      rfl
    rw [hsplit, List.mem_cons] at hc
    exact hc.elim .inr (inNumeral_of_mem_natRepr c)

/-- A numeral can be read off the front of a text in one way only. -/
theorem repr_append_inj {m n : Int} {rest rest' : List Char} (hrest : ∀ c ∈ rest.head?, ¬InNumeral c)
    (hrest' : ∀ c ∈ rest'.head?, ¬InNumeral c)
    (h : m.repr.toList ++ rest = n.repr.toList ++ rest') : m = n ∧ rest = rest' := by
  obtain ⟨hrepr, hrest⟩ :=
    word_append_inj inNumeral_of_mem_intRepr inNumeral_of_mem_intRepr hrest hrest' h
  exact ⟨Int.repr_injective (String.toList_injective hrepr), hrest⟩

/-! ### Parts -/

theorem not_mem_intercalate {c : Char} {sep : List Char} {parts : List (List Char)} (hsep : c ∉ sep)
    (hparts : ∀ part ∈ parts, c ∉ part) : c ∉ sep.intercalate parts := by
  induction parts with
  | nil => exact List.not_mem_nil
  | cons part rest ih =>
    have hpart := hparts part List.mem_cons_self
    have hrest := ih fun p hp => hparts p (List.mem_cons_of_mem part hp)
    by_cases hne : rest = []
    · rw [hne, List.intercalate_singleton]
      exact hpart
    · rw [List.intercalate_cons_of_ne_nil hne]
      simp only [List.mem_append, not_or]
      exact ⟨⟨hpart, hsep⟩, hrest⟩

theorem takeWhile_append_of_head? {p : Char → Bool} {word rest : List Char}
    (hword : ∀ c ∈ word, p c = true) (hrest : ∀ c ∈ rest.head?, p c = false) :
    (word ++ rest).takeWhile p = word := by
  rw [List.takeWhile_append_of_pos hword]
  cases rest with
  | nil => exact List.append_nil _
  | cons c rest => rw [List.takeWhile_cons_of_neg (by simp [hrest c rfl]), List.append_nil]

theorem dropWhile_append_of_head? {p : Char → Bool} {word rest : List Char}
    (hword : ∀ c ∈ word, p c = true) (hrest : ∀ c ∈ rest.head?, p c = false) :
    (word ++ rest).dropWhile p = rest := by
  rw [List.dropWhile_append_of_pos hword]
  cases rest with
  | nil => rfl
  | cons c rest => rw [List.dropWhile_cons_of_neg (by simp [hrest c rfl])]

/-- What stands before a separator and what begins with it. -/
theorem span_append_cons {sep : Char} {word : List Char} (h : sep ∉ word) (rest : List Char) :
    (word ++ sep :: rest).span (· ≠ sep) = (word, sep :: rest) := by
  have hword : ∀ c ∈ word, decide (c ≠ sep) = true :=
    fun c hc => decide_eq_true (ne_of_mem_of_not_mem hc h)
  have hrest : ∀ c ∈ (sep :: rest).head?, decide (c ≠ sep) = false :=
    forall_head?_cons (by simp) rest
  rw [List.span_eq_takeWhile_dropWhile, takeWhile_append_of_head? hword hrest,
    dropWhile_append_of_head? hword hrest]

/-- What stands before the first separator, or the whole of a text that has none. -/
def FirstPart (sep : Char) (s part : List Char) : Prop :=
  sep ∉ part ∧ (s = part ∨ ∃ rest, s = part ++ sep :: rest)

theorem exists_firstPart (sep : Char) (s : List Char) : ∃ part, FirstPart sep s part := by
  by_cases hsep : sep ∈ s
  · obtain ⟨part, rest, hs, hpart⟩ := List.eq_append_cons_of_mem hsep
    exact ⟨part, hpart, .inr ⟨rest, hs⟩⟩
  · exact ⟨s, hsep, .inl rfl⟩

theorem FirstPart.takeWhile_eq {sep : Char} {s part : List Char} (h : FirstPart sep s part) :
    s.takeWhile (· ≠ sep) = part := by
  obtain ⟨hsep, hs⟩ := h
  have hpart : ∀ c ∈ part, decide (c ≠ sep) = true :=
    fun c hc => decide_eq_true (ne_of_mem_of_not_mem hc hsep)
  obtain rfl | ⟨rest, rfl⟩ := hs
  · exact List.takeWhile_eq_self_iff.mpr hpart
  · exact takeWhile_append_of_head? hpart (forall_head?_cons (by simp) rest)

theorem takeWhile_ne_eq_iff {sep : Char} {s part : List Char} :
    s.takeWhile (· ≠ sep) = part ↔ FirstPart sep s part := by
  refine ⟨fun h => ?_, FirstPart.takeWhile_eq⟩
  obtain ⟨first, hfirst⟩ := exists_firstPart sep s
  rw [← h, hfirst.takeWhile_eq]
  exact hfirst

theorem getElem?_zero_splitOn {sep : Char} {s part : List Char} :
    (s.splitOn sep)[0]? = some part ↔ FirstPart sep s part := by
  obtain ⟨first, hfirst⟩ := exists_firstPart sep s
  have hhead : (s.splitOn sep)[0]? = some first := by
    obtain ⟨hsep, rfl | ⟨rest, rfl⟩⟩ := hfirst
    · rw [List.splitOn_eq_singleton hsep, List.getElem?_cons_zero]
    · rw [List.splitOn_append_cons_self_of_not_mem hsep, List.getElem?_cons_zero]
  rw [hhead, Option.some_inj, ← takeWhile_ne_eq_iff, hfirst.takeWhile_eq]

/-- All other parts are parts of what stands behind the first separator. -/
theorem getElem?_succ_splitOn {sep : Char} {s part : List Char} {i : Nat} :
    (s.splitOn sep)[i + 1]? = some part ↔
      ∃ front rest, sep ∉ front ∧ s = front ++ sep :: rest ∧ (rest.splitOn sep)[i]? = some part := by
  constructor
  · intro h
    obtain ⟨front, hfront, rfl | ⟨rest, rfl⟩⟩ := exists_firstPart sep s
    · rw [List.splitOn_eq_singleton hfront] at h
      cases h
    · rw [List.splitOn_append_cons_self_of_not_mem hfront, List.getElem?_cons_succ] at h
      exact ⟨front, rest, hfront, rfl, h⟩
  · rintro ⟨front, rest, hfront, rfl, h⟩
    rw [List.splitOn_append_cons_self_of_not_mem hfront, List.getElem?_cons_succ]
    exact h

theorem not_mem_of_mem_splitOn {sep : Char} {s : List Char} :
    ∀ part ∈ s.splitOn sep, sep ∉ part := by
  intro part hpart
  obtain ⟨i, hi⟩ := List.mem_iff_getElem?.mp hpart
  clear hpart
  induction i generalizing s with
  | zero => exact (getElem?_zero_splitOn.mp hi).1
  | succ i ih =>
    obtain ⟨front, rest, -, -, hrest⟩ := getElem?_succ_splitOn.mp hi
    exact ih hrest

/-- Parts that have a separator behind each of them come out as they were, and nothing else but an
empty end. -/
theorem splitOn_flatMap_append {sep : Char} {parts : List (List Char)}
    (h : ∀ part ∈ parts, sep ∉ part) :
    (parts.flatMap (· ++ [sep])).splitOn sep = parts ++ [[]] := by
  induction parts with
  | nil => rfl
  | cons part rest ih =>
    rw [List.forall_mem_cons] at h
    rw [List.flatMap_cons, List.append_assoc, List.singleton_append,
      List.splitOn_append_cons_self_of_not_mem h.1, ih h.2]
    rfl

/-- Parts with separators between them are split where they hold separators themselves. -/
theorem splitOn_intercalate_eq_flatMap {sep : Char} {parts : List (List Char)} (hne : parts ≠ []) :
    ([sep].intercalate parts).splitOn sep = parts.flatMap (·.splitOn sep) := by
  induction parts with
  | nil => exact absurd rfl hne
  | cons part rest ih =>
    by_cases hrest : rest = []
    · simp [hrest]
    · rw [List.intercalate_cons_of_ne_nil hrest, List.append_assoc, List.singleton_append,
        List.splitOn_append_cons_self, ih hrest, List.flatMap_cons]

/-- There is one part more than there are separators. -/
theorem length_splitOn (sep : Char) (s : List Char) :
    (s.splitOn sep).length = s.count sep + 1 := by
  induction s with
  | nil => rfl
  | cons c s ih =>
    by_cases hc : c = sep
    · subst hc
      have hcut := List.splitOn_append_cons_self (a := c) [] s
      rw [List.nil_append] at hcut
      rw [hcut, List.length_append, ih, List.count_cons_self]
      simp [Nat.add_comm]
    · rw [List.splitOn_cons_eq_if_modifyHead, if_neg (by simpa using hc), List.length_modifyHead, ih,
        List.count_cons_of_ne hc]

end SizeHeader.Text
