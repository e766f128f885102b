import Mathlib
import SizeHeader.Text.Quoted
import SizeHeader.Toml.Document
import SizeHeader.Proofs.TextReading

/-!
# Written lexemes

How blanks, comments, keys and basic strings are written, and that each is read back from whatever
text it stands in. A character of a basic string can be written in up to four ways, each of which is
read up to its own end, so that no text behind a string is taken for a part of it, and no part of it
for its end.
-/

namespace SizeHeader.Toml

/-- Characters that stand for themselves in a comment: tabs, and all that is no control character. -/
def Printed (c : Char) : Prop := c = '\t' ∨ 32 ≤ c.toNat ∧ c.toNat ≠ 127

instance : DecidablePred Printed := fun c =>
  inferInstanceAs (Decidable (c = '\t' ∨ 32 ≤ c.toNat ∧ c.toNat ≠ 127))

theorem Printed.isForbidden_eq_false {c : Char} (h : Printed c) : isForbidden c = false := by
  obtain rfl | ⟨h, h'⟩ := h
  · decide
  · simp [isForbidden, h', Nat.not_lt.mpr h]

/-! ### Strings -/

/-- The characters that a letter behind a backslash stands for. -/
def letters : List (Char × Char) :=
  [('b', '\x08'), ('t', '\t'), ('n', '\n'), ('f', '\x0c'), ('r', '\r'), ('"', '"'), ('\\', '\\')]

def HexDigit (c : Char) (n : Nat) : Prop :=
  n < 16 ∧ (c = n.digitChar ∨ c = n.digitChar.toUpper)

/-- The digits of the code point of a character, the first being the most significant. -/
def HexDigits (c : Char) (digits : List Char) : Prop :=
  ∃ values, List.Forall₂ HexDigit digits values ∧ Nat.ofDigits 16 values.reverse = c.toNat

/-- The ways to write a character between the quotes of a basic string. -/
inductive Spelling (c : Char) : List Char → Prop where
  | plain (hprinted : Printed c) (hquote : c ≠ '"') (hbackslash : c ≠ '\\') : Spelling c [c]
  | letter {l : Char} (h : (l, c) ∈ letters) : Spelling c ['\\', l]
  | short {digits : List Char} (h : HexDigits c digits) (hlength : digits.length = 4) :
      Spelling c ('\\' :: 'u' :: digits)
  | long {digits : List Char} (h : HexDigits c digits) (hlength : digits.length = 8) :
      Spelling c ('\\' :: 'U' :: digits)

/-- How a string is written: character by character, each in any of its spellings. -/
inductive Spells : List Char → List Char → Prop where
  | nil : Spells [] []
  | cons {c : Char} {written : List Char} {s rest : List Char} (hc : Spelling c written)
      (hrest : Spells s rest) : Spells (c :: s) (written ++ rest)

/-- A property of all digits, checked digit by digit. -/
theorem HexDigit.of_forall {P : Char → Nat → Prop}
    (hall : ∀ n < 16, P n.digitChar n ∧ P n.digitChar.toUpper n) {c : Char} {n : Nat}
    (h : HexDigit c n) : P c n := by
  obtain ⟨hn, rfl | rfl⟩ := h
  · exact (hall n hn).1
  · exact (hall n hn).2

theorem HexDigit.hexDigit?_eq {c : Char} {n : Nat} (h : HexDigit c n) : hexDigit? c = some n :=
  h.of_forall (P := fun c n => hexDigit? c = some n) (by decide)

theorem HexDigit.printed {c : Char} {n : Nat} (h : HexDigit c n) : Printed c :=
  h.of_forall (P := fun c _ => Printed c) (by decide)

theorem HexDigits.printed {c : Char} {digits : List Char} (h : HexDigits c digits) :
    ∀ d ∈ digits, Printed d := by
  obtain ⟨values, hvalues, -⟩ := h
  induction hvalues with
  | nil => exact List.forall_mem_nil _
  | cons hd _ ih => exact List.forall_mem_cons.mpr ⟨hd.printed, ih⟩

theorem mapM_hexDigit? {digits : List Char} {values : List Nat}
    (h : List.Forall₂ HexDigit digits values) : digits.mapM hexDigit? = some values := by
  induction h with
  | nil => rfl
  | cons hd _ ih => simp [List.mapM_cons, hd.hexDigit?_eq, ih]

theorem HexDigits.codePoint?_eq {c : Char} {digits : List Char} (h : HexDigits c digits) :
    codePoint? digits = some c := by
  obtain ⟨values, hvalues, hsum⟩ := h
  have hfold : values.foldl (fun n d => 16 * n + d) 0 = c.toNat := by
    rw [← hsum, Nat.ofDigits_eq_foldr, List.foldr_reverse]
    simp only [Nat.cast_id]
    congr 1
    funext n d
    omega
  have hvalid : c.toNat.isValidChar := c.valid
  simp [codePoint?, mapM_hexDigit? hvalues, hfold, hvalid]

theorem escape?_letter {l c : Char} (h : (l, c) ∈ letters) :
    escape? l = some c ∧ l ≠ 'u' ∧ l ≠ 'U' := by
  have hall : ∀ p ∈ letters, escape? p.1 = some p.2 ∧ p.1 ≠ 'u' ∧ p.1 ≠ 'U' := by decide
  exact hall _ h

/-- Every spelling of a character is read up to its end, whatever comes behind it. -/
theorem Spelling.basicBody_append {c : Char} {written : List Char} (h : Spelling c written)
    (s : List Char) : basicBody (written ++ s) = (basicBody s).map (prepend c) := by
  cases h with
  | plain hprinted hquote hbackslash =>
    have hc : isForbidden c = false := hprinted.isForbidden_eq_false
    rw [List.singleton_append, basicBody.eq_6 c s hquote (fun _ _ _ _ _ h => absurd h hbackslash)
      (fun _ _ _ _ _ _ _ _ _ h => absurd h hbackslash) (fun _ _ h => absurd h hbackslash), hc]
    cases basicBody s <;> rfl
  | @letter l h =>
    obtain ⟨hescape, hu, hU⟩ := escape?_letter h
    rw [List.cons_append, List.singleton_append,
      basicBody.eq_5 l s (fun _ _ _ _ _ h => absurd h hu) (fun _ _ _ _ _ _ _ _ _ h => absurd h hU),
      hescape]
    cases basicBody s <;> rfl
  | @short digits h hlength =>
    match digits, h.codePoint?_eq, hlength with
    | [a₁, a₂, a₃, a₄], hpoint, _ =>
      simp only [List.cons_append, List.nil_append]
      rw [basicBody.eq_3, hpoint]
      cases basicBody s <;> rfl
  | @long digits h hlength =>
    match digits, h.codePoint?_eq, hlength with
    | [a₁, a₂, a₃, a₄, a₅, a₆, a₇, a₈], hpoint, _ =>
      simp only [List.cons_append, List.nil_append]
      rw [basicBody.eq_4, hpoint]
      cases basicBody s <;> rfl

theorem Spelling.printed {c : Char} {written : List Char} (h : Spelling c written) :
    ∀ d ∈ written, Printed d := by
  cases h with
  | plain hprinted hquote hbackslash => exact List.forall_mem_singleton.mpr hprinted
  | @letter l h =>
    have hl : Printed l := by
      have hall : ∀ p ∈ letters, Printed p.1 := by decide
      exact hall _ h
    exact List.forall_mem_cons.mpr ⟨by decide, List.forall_mem_singleton.mpr hl⟩
  | short h hlength =>
    exact List.forall_mem_cons.mpr ⟨by decide, List.forall_mem_cons.mpr ⟨by decide, h.printed⟩⟩
  | long h hlength =>
    exact List.forall_mem_cons.mpr ⟨by decide, List.forall_mem_cons.mpr ⟨by decide, h.printed⟩⟩

theorem Spells.printed {s written : List Char} (h : Spells s written) : ∀ d ∈ written, Printed d := by
  induction h with
  | nil => exact List.forall_mem_nil _
  | cons hc _ ih => exact List.forall_mem_append.mpr ⟨hc.printed, ih⟩

theorem Spelling.ne_quote {c d : Char} {rest : List Char} (h : Spelling c (d :: rest)) : d ≠ '"' := by
  cases h with
  | plain hprinted hquote hbackslash => exact hquote
  | letter h => decide
  | short h hlength => decide
  | long h hlength => decide

theorem Spelling.ne_nil {c : Char} {written : List Char} (h : Spelling c written) : written ≠ [] := by
  cases h <;> exact List.cons_ne_nil _ _

theorem length_hex (width n : Nat) : (Text.Quoted.hex width n).length = width := by
  induction width generalizing n with
  | zero => rfl
  | succ width ih => rw [Text.Quoted.hex, List.length_append, ih, List.length_singleton]

theorem exists_hex_values {width n : Nat} (h : n < 16 ^ width) :
    ∃ values, List.Forall₂ HexDigit (Text.Quoted.hex width n) values ∧
      Nat.ofDigits 16 values.reverse = n := by
  induction width generalizing n with
  | zero =>
    obtain rfl : n = 0 := by simpa using h
    exact ⟨[], .nil, rfl⟩
  | succ width ih =>
    obtain ⟨values, hvalues, hsum⟩ := ih (n := n / 16) (by omega)
    have hlast : HexDigit (n % 16).digitChar (n % 16) := ⟨Nat.mod_lt n (by decide), .inl rfl⟩
    refine ⟨values ++ [n % 16], List.rel_append hvalues (.cons hlast .nil), ?_⟩
    rw [List.reverse_append, List.reverse_singleton, List.singleton_append, Nat.ofDigits_cons, hsum]
    exact Nat.mod_add_div n 16

/-- The digits of a number, padded to a width in which it fits. -/
theorem hexDigits_hex {width : Nat} {c : Char} (h : c.toNat < 16 ^ width) :
    HexDigits c (Text.Quoted.hex width c.toNat) :=
  exists_hex_values h

theorem toNat_lt_hex (c : Char) : c.toNat < 16 ^ 8 := c.val.toNat_lt

theorem exists_hexDigits (c : Char) : ∃ digits, HexDigits c digits ∧ digits.length = 8 :=
  ⟨Text.Quoted.hex 8 c.toNat, hexDigits_hex (toNat_lt_hex c), length_hex 8 c.toNat⟩

theorem exists_spells (s : List Char) : ∃ written, Spells s written := by
  induction s with
  | nil => exact ⟨[], .nil⟩
  | cons c s ih =>
    obtain ⟨written, h⟩ := ih
    obtain ⟨digits, hdigits, hlength⟩ := exists_hexDigits c
    exact ⟨_, .cons (.long hdigits hlength) h⟩

theorem Spells.basicBody_append {s written : List Char} (h : Spells s written)
    (rest : List Char) : basicBody (written ++ '"' :: rest) = some (s, rest) := by
  induction h with
  | nil => rfl
  | cons hc _ ih =>
    rw [List.append_assoc, hc.basicBody_append, ih]
    rfl

theorem Spells.string?_append {s written : List Char} (h : Spells s written) {rest : List Char}
    (hrest : rest.head? ≠ some '"') : string? ('"' :: (written ++ '"' :: rest)) = some (s, rest) := by
  rw [string?.eq_2, h.basicBody_append]
  -- Three quotes would begin a string of several lines.
  intro more heq
  cases h with
  | nil =>
    obtain rfl : rest = '"' :: more := (List.cons.inj heq).2
    exact hrest rfl
  | @cons c written _ _ hc _ =>
    cases written with
    | nil => exact hc.ne_nil rfl
    | cons d written => exact hc.ne_quote (List.cons.inj heq).1

structure BasicString where
  value : String
  written : List Char
  spells : Spells value.toList written

namespace BasicString

def chars (s : BasicString) : List Char := '"' :: (s.written ++ ['"'])

theorem printed (s : BasicString) : ∀ c ∈ s.chars, Printed c := by
  refine List.forall_mem_cons.mpr ⟨by decide, List.forall_mem_append.mpr ⟨s.spells.printed, ?_⟩⟩
  exact List.forall_mem_singleton.mpr (by decide)

/-- Every string can be written. -/
theorem exists_value_eq (v : String) : ∃ s : BasicString, s.value = v := by
  obtain ⟨written, h⟩ := exists_spells v.toList
  exact ⟨⟨v, written, h⟩, rfl⟩

theorem value_append (s : BasicString) {rest : List Char} (hrest : rest.head? ≠ some '"') (n : Nat) :
    Toml.value (n + 1) (s.chars ++ rest) = .ok (.text s.value, rest) := by
  have hstring : string? (s.chars ++ rest) = some (s.value.toList, rest) := by
    rw [chars, List.cons_append, List.append_assoc, List.singleton_append]
    exact s.spells.string?_append hrest
  rw [chars, List.cons_append] at hstring ⊢
  rw [Toml.value.eq_3, if_pos (.inl rfl), hstring]
  simp [orMalformed, bind, Except.bind, pure, Except.pure]

end BasicString

/-! ### Blanks, comments and keys -/

structure Gap where
  chars : List Char
  blank : ∀ c ∈ chars, c = ' ' ∨ c = '\t'

def Gap.none : Gap := ⟨[], List.forall_mem_nil _⟩

theorem Gap.printed (gap : Gap) : ∀ c ∈ gap.chars, Printed c := by
  intro c hc
  obtain rfl | rfl := gap.blank c hc <;> decide

theorem Gap.skipBlanks_append (gap : Gap) (rest : List Char) :
    skipBlanks (gap.chars ++ rest) = skipBlanks rest := by
  apply List.dropWhile_append_of_pos
  intro c hc
  obtain rfl | rfl := gap.blank c hc <;> decide

theorem Gap.append_ne_cons (gap : Gap) {c : Char} (hc : ¬(c = ' ' ∨ c = '\t')) {s : List Char}
    (hs : ∀ more, s ≠ c :: more) (more : List Char) : gap.chars ++ s ≠ c :: more := by
  cases hgap : gap.chars with
  | nil => exact hs more
  | cons d rest =>
    intro h
    exact hc ((List.cons.inj h).1 ▸ gap.blank d (hgap ▸ List.mem_cons_self))

theorem skipBlanks_of_head? {s : List Char} (h : ∀ c ∈ s.head?, isBlank c = false) :
    skipBlanks s = s :=
  Text.dropWhile_append_of_head? (List.forall_mem_nil (isBlank · = true)) h

structure Comment where
  chars : List Char
  printed : ∀ c ∈ chars, Printed c

/-- The characters of a key without quotes: letters and digits of ASCII, and two signs. -/
def Bare (c : Char) : Prop := c.isAlphanum = true ∨ c = '-' ∨ c = '_'

namespace Bare

theorem isBare_eq_true {c : Char} (h : Bare c) : isBare c = true := by
  simpa [Bare, isBare, or_assoc] using h

theorem printed {c : Char} (h : Bare c) : Printed c := by
  obtain h | rfl | rfl := h
  · right
    simp only [Char.isAlphanum, Char.isAlpha, Char.isUpper, Char.isLower, Char.isDigit,
      Bool.or_eq_true, Bool.and_eq_true, decide_eq_true_eq, ge_iff_le,
      UInt32.le_iff_toNat_le] at h
    have hval : c.toNat = c.val.toNat := rfl
    have hbounds : 'A'.val.toNat = 65 ∧ 'Z'.val.toNat = 90 ∧ 'a'.val.toNat = 97 ∧
        'z'.val.toNat = 122 ∧ '0'.val.toNat = 48 ∧ '9'.val.toNat = 57 := by decide
    omega
  · decide
  · decide

theorem isBlank_eq_false {c : Char} (h : Bare c) : isBlank c = false := by
  have hblank : ¬Bare ' ' ∧ ¬Bare '\t' := by simp [Bare]
  have hne : c ≠ ' ' := fun hc => hblank.1 (hc ▸ h)
  have hne' : c ≠ '\t' := fun hc => hblank.2 (hc ▸ h)
  simp [isBlank, hne, hne']

end Bare

structure BareKey where
  chars : List Char
  bare : ∀ c ∈ chars, Bare c
  ne_nil : chars ≠ []

namespace BareKey

def text (key : BareKey) : String := .ofList key.chars

theorem exists_chars_eq (key : BareKey) : ∃ c rest, key.chars = c :: rest ∧ Bare c := by
  obtain ⟨c, rest, h⟩ := List.exists_cons_of_ne_nil key.ne_nil
  exact ⟨c, rest, h, key.bare c (h ▸ List.mem_cons_self)⟩

theorem append_ne_cons (key : BareKey) {c : Char} (hc : ¬Bare c) (rest more : List Char) :
    key.chars ++ rest ≠ c :: more := by
  obtain ⟨d, tail, hchars, hd⟩ := key.exists_chars_eq
  rw [hchars]
  intro h
  exact hc ((List.cons.inj h).1 ▸ hd)

theorem skipBlanks_append (key : BareKey) (rest : List Char) :
    skipBlanks (key.chars ++ rest) = key.chars ++ rest := by
  obtain ⟨d, tail, hchars, hd⟩ := key.exists_chars_eq
  rw [hchars]
  apply skipBlanks_of_head?
  rintro c ⟨⟩
  exact hd.isBlank_eq_false

theorem keyPart?_append (key : BareKey) {rest : List Char}
    (hrest : ∀ c ∈ rest.head?, isBare c = false) :
    keyPart? (key.chars ++ rest) = some (key.text, rest) := by
  have hbare : ∀ c ∈ key.chars, isBare c = true := fun c hc => (key.bare c hc).isBare_eq_true
  rw [keyPart?.eq_3, Text.takeWhile_append_of_head? hbare hrest,
    Text.dropWhile_append_of_head? hbare hrest, if_neg key.ne_nil, text]
  · exact key.append_ne_cons (by simp [Bare]) rest
  · exact key.append_ne_cons (by simp [Bare]) rest

/-- A bare key of one part ends at the sign or the bracket behind it. -/
theorem key?_append (key : BareKey) (gap : Gap) {d : Char} (hd : d = '=' ∨ d = ']')
    (rest : List Char) (n : Nat) :
    key? (n + 1) (key.chars ++ (gap.chars ++ d :: rest)) = some ([key.text], d :: rest) := by
  have hbare : ∀ c ∈ (gap.chars ++ d :: rest).head?, isBare c = false := by
    intro c hc
    cases hgap : gap.chars with
    | nil =>
      rw [hgap] at hc
      obtain rfl : d = c := Option.some.inj hc
      obtain rfl | rfl := hd <;> decide
    | cons b more =>
      rw [hgap] at hc
      obtain rfl : b = c := Option.some.inj hc
      obtain rfl | rfl := gap.blank b (hgap ▸ List.mem_cons_self) <;> decide
  have hblanks : skipBlanks (gap.chars ++ d :: rest) = d :: rest := by
    rw [gap.skipBlanks_append]
    apply skipBlanks_of_head?
    rintro c ⟨⟩
    obtain rfl | rfl := hd <;> decide
  rw [key?, key.keyPart?_append hbare]
  simp only [Option.bind_eq_bind, Option.bind_some, hblanks]
  obtain rfl | rfl := hd <;> rfl

end BareKey

end SizeHeader.Toml
