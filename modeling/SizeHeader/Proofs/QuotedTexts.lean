import SizeHeader.Proofs.WrittenLexemes
import SizeHeader.Target.Platform

/-!
# Quoted texts

A quoted text ends at its own delimiter and at nothing else, whatever stands behind it. The delimiter
depends on the text, but it is the first character, and once it is known every character is written in a
way that can be read from the front: a backslash tells that a character is written otherwise, and the
letter behind the backslash how many digits follow. Nothing that is written for a character begins with
the delimiter. So a description that puts quoted texts between fixed words can be taken apart again, even
where a text imitates those words.
-/

namespace SizeHeader

namespace Text.Quoted

/-! ### One character -/

/-- Reads a code point that is written with some number of digits. -/
def readCodePoint? (width : Nat) (s : List Char) : Option (Char × List Char) :=
  (Toml.codePoint? (s.take width)).map (·, s.drop width)

/-- Reads what stands behind a backslash. -/
def readEscape? : List Char → Option (Char × List Char)
  | 'n' :: rest => some ('\n', rest)
  | 'r' :: rest => some ('\r', rest)
  | 't' :: rest => some ('\t', rest)
  | 'x' :: rest => readCodePoint? 2 rest
  | 'u' :: rest => readCodePoint? 4 rest
  | 'U' :: rest => readCodePoint? 8 rest
  | c :: rest => some (c, rest)
  | [] => none

/-- Reads one character between the delimiters, and returns what stands behind it. -/
def readChar? : List Char → Option (Char × List Char)
  | [] => none
  | c :: rest => if c = '\\' then readEscape? rest else some (c, rest)

theorem readCodePoint?_hex {width : Nat} {c : Char} (h : c.toNat < 16 ^ width) (rest : List Char) :
    readCodePoint? width (hex width c.toNat ++ rest) = some (c, rest) := by
  have hlength : (hex width c.toNat).length = width := Toml.length_hex width c.toNat
  have hpoint : Toml.codePoint? (hex width c.toNat) = some c := (Toml.hexDigits_hex h).codePoint?_eq
  rw [readCodePoint?, List.take_left' hlength, List.drop_left' hlength, hpoint]
  rfl

theorem readChar?_codePoint (c : Char) (rest : List Char) :
    readChar? (codePoint c.toNat ++ rest) = some (c, rest) := by
  unfold codePoint
  split_ifs with hshort hmiddle
  · exact readCodePoint?_hex hshort rest
  · exact readCodePoint?_hex hmiddle rest
  · exact readCodePoint?_hex (Toml.toNat_lt_hex c) rest

theorem delimiter_eq_or (s : List Char) : delimiter s = '\'' ∨ delimiter s = '"' := by
  unfold delimiter
  split
  · exact .inr rfl
  · exact .inl rfl

section Delimited

variable {quote : Char} (hquote : quote = '\'' ∨ quote = '"')

include hquote

/-- What is written for a character is read as this character, up to its end. -/
theorem readChar?_encodeChar (alphabet : Alphabet) (c : Char) (rest : List Char) :
    readChar? (encodeChar alphabet quote c ++ rest) = some (c, rest) := by
  unfold encodeChar
  split_ifs with hmark hfeed hreturn htab hplain
  · obtain rfl | rfl := hmark
    · obtain rfl | rfl := hquote <;> rfl
    · rfl
  · rw [hfeed]
    rfl
  · rw [hreturn]
    rfl
  · rw [htab]
    rfl
  · exact if_neg (not_or.mp hmark).2
  · exact readChar?_codePoint c rest

theorem encodeChar_append_ne_cons (alphabet : Alphabet) (c : Char) (rest more : List Char) :
    encodeChar alphabet quote c ++ rest ≠ quote :: more := by
  intro h
  have hne : quote ≠ '\\' := by obtain rfl | rfl := hquote <;> decide
  -- Only the delimiter could begin with itself, but there is a backslash before it.
  have hread : readChar? (quote :: more) = some (quote, more) := if_neg hne
  rw [← h, readChar?_encodeChar hquote, Option.some_inj, Prod.mk.injEq] at hread
  obtain ⟨rfl, rfl⟩ := hread
  rw [encodeChar, if_pos (.inl rfl)] at h
  exact hne (List.cons.inj h).1.symm

/-! ### Whole texts -/

/-- The induction is on the one text: what is written for its first character, or the delimiter where
there is none, leaves the other text no choice. -/
theorem flatMap_encodeChar_append_inj {alphabet other : Alphabet} {s t rest rest' : List Char}
    (h : s.flatMap (encodeChar alphabet quote) ++ quote :: rest =
      t.flatMap (encodeChar other quote) ++ quote :: rest') : s = t ∧ rest = rest' := by
  induction s generalizing t with
  | nil =>
    cases t with
    | nil => exact ⟨rfl, (List.cons.inj h).2⟩
    | cons d t =>
      rw [List.flatMap_cons, List.append_assoc] at h
      exact absurd h.symm (encodeChar_append_ne_cons hquote other d _ _)
  | cons c s ih =>
    rw [List.flatMap_cons, List.append_assoc] at h
    cases t with
    | nil => exact absurd h (encodeChar_append_ne_cons hquote alphabet c _ _)
    | cons d t =>
      rw [List.flatMap_cons, List.append_assoc] at h
      have hread := congrArg readChar? h
      rw [readChar?_encodeChar hquote, readChar?_encodeChar hquote, Option.some_inj,
        Prod.mk.injEq] at hread
      obtain ⟨rfl, hbehind⟩ := hread
      obtain ⟨rfl, hrest⟩ := ih hbehind
      exact ⟨rfl, hrest⟩

end Delimited

/-- Quoted texts are read alike whichever characters were written as they are. -/
theorem encodeChars_append_inj {alphabet other : Alphabet} {s t rest rest' : List Char}
    (h : encodeChars alphabet s ++ rest = encodeChars other t ++ rest') : s = t ∧ rest = rest' := by
  simp only [encodeChars, List.cons_append, List.append_assoc, List.nil_append] at h
  obtain ⟨hquote, hbody⟩ := List.cons.inj h
  rw [← hquote] at hbody
  exact flatMap_encodeChar_append_inj (delimiter_eq_or s) hbody

end Text.Quoted

/-- A quoted text can be read off the front of a text in one way only. -/
theorem Text.quoted_append_inj {s t : String} {rest rest' : List Char}
    (h : (quoted s).toList ++ rest = (quoted t).toList ++ rest') : s = t ∧ rest = rest' := by
  rw [quoted, quoted, String.toList_ofList, String.toList_ofList] at h
  obtain ⟨hchars, hrest⟩ := Quoted.encodeChars_append_inj h
  exact ⟨String.toList_injective hchars, hrest⟩

namespace Platform

/-! ### Descriptions of platforms -/

theorem toList_describe (p : Platform) : p.describe.toList =
    "TargetPlatform(arch=".toList ++ ((Text.quoted p.arch).toList ++
      (", vendor=".toList ++ ((Text.quoted p.vendor).toList ++
        (", os=".toList ++ ((Text.quoted p.os).toList ++
          (", abi=".toList ++ ((Text.quoted p.abi).toList ++ ")".toList))))))) := by
  unfold describe
  simp only [String.toList_append, List.append_assoc]

/-- **The description of a platform identifies the platform.** Two descriptions are equal exactly if all
four fields are, whatever quotes, backslashes and names of fields the fields hold. -/
theorem describe_eq_iff (p q : Platform) :
    p.describe = q.describe ↔
      p.arch = q.arch ∧ p.vendor = q.vendor ∧ p.os = q.os ∧ p.abi = q.abi := by
  constructor
  · intro h
    have hchars := congrArg String.toList h
    rw [toList_describe, toList_describe] at hchars
    obtain ⟨harch, hchars⟩ := Text.quoted_append_inj (List.append_cancel_left hchars)
    obtain ⟨hvendor, hchars⟩ := Text.quoted_append_inj (List.append_cancel_left hchars)
    obtain ⟨hos, hchars⟩ := Text.quoted_append_inj (List.append_cancel_left hchars)
    obtain ⟨habi, -⟩ := Text.quoted_append_inj (List.append_cancel_left hchars)
    exact ⟨harch, hvendor, hos, habi⟩
  · rintro ⟨harch, hvendor, hos, habi⟩
    unfold describe
    rw [harch, hvendor, hos, habi]

example : (Platform.mk "a', vendor='b" "\"'" "" "\\").describe =
    "TargetPlatform(arch=\"a', vendor='b\", vendor='\"\\'', os='', abi='\\\\')" := by
  decide +kernel

end Platform

end SizeHeader
