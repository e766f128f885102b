import Mathlib
import SizeHeader.Proofs.TomlStatements
import SizeHeader.Proofs.WrittenLexemes

/-!
# Written lines

Lines with the header of a table, with a key and a string, or with nothing, as they can be written: with
blanks around everything, a comment behind it, and both kinds of line ends. Every line is read on its
own, since all that stands in a string or in a comment is printed, and a line end is not.
-/

namespace SizeHeader.Toml

inductive LineEnd where
  | lineFeed
  | carriageReturn
deriving DecidableEq

def LineEnd.chars : LineEnd → List Char
  | lineFeed => ['\n']
  | carriageReturn => ['\r', '\n']

structure Row (Content : Type) where
  indent : Gap
  content : Content
  gap : Gap
  comment : Option Comment
  ending : LineEnd

def Row.map {α β : Type} (f : α → β) (row : Row α) : Row β := { row with content := f row.content }

structure Header where
  before : Gap
  name : BareKey
  after : Gap

structure Pair where
  key : BareKey
  before : Gap
  after : Gap
  value : BasicString

inductive Content where
  | nothing
  | header (h : Header)
  | pair (p : Pair)

namespace Content

def chars : Content → List Char
  | nothing => []
  | header h => '[' :: (h.before.chars ++ (h.name.chars ++ (h.after.chars ++ [']'])))
  | pair p => p.key.chars ++ (p.before.chars ++ '=' :: (p.after.chars ++ p.value.chars))

def ofPair? : Option Pair → Content
  | none => nothing
  | some p => pair p

def statement? : Content → Option Statement
  | nothing => none
  | header h => some (.header [h.name.text])
  | pair p => some (.pair [p.key.text] (.text p.value.value))

end Content

namespace Row

def statement? (row : Row Content) : Option Statement := row.content.statement?

def commentChars (row : Row Content) : List Char :=
  row.comment.elim [] fun comment => '#' :: comment.chars

def body (row : Row Content) : List Char :=
  row.indent.chars ++ (row.content.chars ++ (row.gap.chars ++ row.commentChars))

/-- The text of lines, of which the last can lack its end. -/
def text (terminated : Bool) : List (Row Content) → List Char
  | [] => []
  | row :: rows =>
    row.body ++
      ((if rows.isEmpty && !terminated then [] else row.ending.chars) ++ text terminated rows)

end Row

/-! ### Line ends -/

theorem normalizeLines_append {s : List Char} (h : '\r' ∉ s) (rest : List Char) :
    normalizeLines (s ++ rest) = s ++ normalizeLines rest := by
  induction s with
  | nil => rfl
  | cons c s ih =>
    rw [List.mem_cons, not_or] at h
    rw [List.cons_append, normalizeLines.eq_3, ih h.2, List.cons_append]
    intro more hc
    exact absurd hc.symm h.1

theorem LineEnd.normalizeLines_append (ending : LineEnd) (rest : List Char) :
    normalizeLines (ending.chars ++ rest) = '\n' :: normalizeLines rest := by
  cases ending with
  | lineFeed => exact Toml.normalizeLines_append (s := ['\n']) (by decide) rest
  | carriageReturn => rfl

theorem Content.printed (content : Content) : ∀ c ∈ content.chars, Printed c := by
  cases content with
  | nothing => exact List.forall_mem_nil _
  | header h =>
    refine List.forall_mem_cons.mpr ⟨by decide, ?_⟩
    simp only [List.forall_mem_append, List.forall_mem_singleton]
    exact ⟨h.before.printed, fun c hc => (h.name.bare c hc).printed, h.after.printed, by decide⟩
  | pair p =>
    simp only [chars, List.forall_mem_append, List.forall_mem_cons]
    exact ⟨fun c hc => (p.key.bare c hc).printed, p.before.printed, by decide, p.after.printed,
      p.value.printed⟩

theorem Row.printed_commentChars (row : Row Content) : ∀ c ∈ row.commentChars, Printed c := by
  unfold commentChars
  cases row.comment with
  | none => exact List.forall_mem_nil _
  | some comment => exact List.forall_mem_cons.mpr ⟨by decide, comment.printed⟩

theorem Row.printed_body (row : Row Content) : ∀ c ∈ row.body, Printed c := by
  simp only [body, List.forall_mem_append]
  exact ⟨row.indent.printed, row.content.printed, row.gap.printed, row.printed_commentChars⟩

theorem Row.normalizeLines_text (terminated : Bool) (rows : List (Row Content)) :
    normalizeLines (text terminated rows) =
      text terminated (rows.map fun row => { row with ending := .lineFeed }) := by
  induction rows with
  | nil => rfl
  | cons row rows ih =>
    have hbody : '\r' ∉ row.body := fun h => absurd (row.printed_body _ h) (by decide)
    rw [text, Toml.normalizeLines_append hbody, List.map_cons, text, ← ih, List.isEmpty_map]
    split
    · rfl
    · rw [LineEnd.normalizeLines_append]
      rfl

/-! ### Lines and statements -/

/-- Behind a line, the text ends or goes on with a line feed. -/
def BehindLine (tail : List Char) : Prop := ∀ c ∈ tail.head?, c = '\n'

namespace Row

variable {tail : List Char}

theorem skipBlanks_commentChars (row : Row Content) (htail : BehindLine tail) :
    skipBlanks (row.commentChars ++ tail) = row.commentChars ++ tail := by
  apply skipBlanks_of_head?
  unfold commentChars
  cases row.comment with
  | none =>
    intro c hc
    rw [htail c hc]
    decide
  | some comment =>
    rintro c ⟨⟩
    decide

theorem endLine_append (row : Row Content) (gap : Gap) (htail : BehindLine tail) :
    endLine (gap.chars ++ (row.commentChars ++ tail)) = some tail.tail := by
  unfold endLine
  rw [gap.skipBlanks_append, row.skipBlanks_commentChars htail]
  unfold commentChars
  cases row.comment with
  | none =>
    cases tail with
    | nil => rfl
    | cons c rest =>
      obtain rfl := htail c rfl
      rfl
  | some comment =>
    have hline : ∀ c ∈ comment.chars, decide (c ≠ '\n') = true := by
      intro c hc
      have hne : c ≠ '\n' := fun h => absurd (comment.printed c hc) (h ▸ by decide)
      exact decide_eq_true hne
    have hbreak : ∀ c ∈ tail.head?, decide (c ≠ '\n') = false := by
      intro c hc
      simp [htail c hc]
    have htake := Text.takeWhile_append_of_head? hline hbreak
    have hdrop := Text.dropWhile_append_of_head? hline hbreak
    have hallowed : comment.chars.any isForbidden = false := by
      simp only [List.any_eq_false, Bool.not_eq_true]
      exact fun c hc => (comment.printed c hc).isForbidden_eq_false
    simp only [Option.elim_some, List.cons_append, htake, hdrop, hallowed, Bool.false_eq_true,
      if_false]
    cases tail with
    | nil => rfl
    | cons c rest =>
      obtain rfl := htail c rfl
      rfl

end Row

namespace Statement

theorem ofLines_of_ofChars {n : Nat} {s t rest : List Char} {statement : Statement}
    (hs : skipBlanks s = t) (hbreak : ∀ more, t ≠ '\n' :: more) (hcomment : ∀ more, t ≠ '#' :: more)
    (h : ofChars t = .ok (statement, rest)) :
    ofLines (n + 1) s = do
      return statement :: (← ofLines n (← orMalformed (endLine rest))) := by
  rw [ofLines, hs]
  split
  next => cases h
  next more => exact absurd rfl (hbreak more)
  next more => exact absurd rfl (hcomment more)
  next =>
    rw [h]
    rfl

end Statement

namespace Content

theorem ofChars_header (h : Header) (rest : List Char) :
    Statement.ofChars ((header h).chars ++ rest) = .ok (.header [h.name.text], rest) := by
  simp only [chars, List.cons_append, List.append_assoc, List.nil_append]
  rw [Statement.ofChars.eq_2, h.before.skipBlanks_append, h.name.skipBlanks_append, steps,
    h.name.key?_append _ (.inr rfl)]
  · rfl
  · exact h.before.append_ne_cons (by decide) (h.name.append_ne_cons (by simp [Bare]) _)

theorem ofChars_pair (p : Pair) {rest : List Char} (hrest : rest.head? ≠ some '"') :
    Statement.ofChars ((pair p).chars ++ rest) =
      .ok (.pair [p.key.text] (.text p.value.value), rest) := by
  have hvalue : skipBlanks (p.value.chars ++ rest) = p.value.chars ++ rest := by
    apply skipBlanks_of_head?
    rintro c ⟨⟩
    decide
  simp only [chars, List.cons_append, List.append_assoc]
  rw [Statement.ofChars.eq_3, steps, p.key.key?_append _ (.inl rfl)]
  · simp only [orMalformed, bind, Except.bind]
    rw [p.after.skipBlanks_append, hvalue, steps, p.value.value_append hrest]
    rfl
  · exact fun more => p.key.append_ne_cons (by simp [Bare]) _ ('[' :: more)
  · exact p.key.append_ne_cons (by simp [Bare]) _

end Content

namespace Row

variable {tail : List Char}

theorem behindContent_ne_quote (row : Row Content) (htail : BehindLine tail) :
    (row.gap.chars ++ (row.commentChars ++ tail)).head? ≠ some '"' := by
  intro h
  obtain ⟨more, hmore⟩ := List.head?_eq_some_iff.mp h
  refine row.gap.append_ne_cons (by decide) ?_ more hmore
  unfold commentChars
  cases row.comment with
  | none =>
    rintro more rfl
    exact absurd (htail '"' rfl) (by decide)
  | some comment => exact fun more heq => absurd (List.cons.inj heq).1 (by decide)

theorem ofLines_comment (row : Row Content) (htail : BehindLine tail) {n : Nat} {s : List Char}
    {statements : List Statement} (hs : skipBlanks s = row.commentChars ++ tail)
    (h : Statement.ofLines n tail.tail = .ok statements) :
    Statement.ofLines (n + 1) s = .ok statements := by
  have hcomment := row.endLine_append .none htail
  rw [Gap.none, List.nil_append, commentChars] at hcomment
  rw [Statement.ofLines, hs, commentChars]
  cases hrow : row.comment with
  | none =>
    cases tail with
    | nil =>
      cases n with
      | zero => cases h
      | succ n => exact h
    | cons c rest =>
      obtain rfl := htail c rfl
      exact h
  | some comment =>
    simp only [hrow, Option.elim_some, List.cons_append] at hcomment ⊢
    rw [hcomment]
    exact h

/-- What stands in a line makes at most one statement, and the text goes on behind the line. -/
theorem ofLines_append (row : Row Content) (htail : BehindLine tail) {n : Nat}
    {statements : List Statement} (h : Statement.ofLines n tail.tail = .ok statements) :
    Statement.ofLines (n + 1) (row.body ++ tail) = .ok (row.statement?.toList ++ statements) := by
  have hbody : skipBlanks (row.body ++ tail) =
      skipBlanks (row.content.chars ++ (row.gap.chars ++ (row.commentChars ++ tail))) := by
    rw [body, List.append_assoc, row.indent.skipBlanks_append, List.append_assoc, List.append_assoc]
  have hend := row.endLine_append row.gap htail
  rw [statement?]
  cases hcontent : row.content with
  | nothing =>
    rw [hcontent, Content.chars, List.nil_append, row.gap.skipBlanks_append,
      row.skipBlanks_commentChars htail] at hbody
    exact row.ofLines_comment htail hbody h
  | header header =>
    rw [hcontent] at hbody
    rw [Statement.ofLines_of_ofChars hbody (fun _ h => absurd (List.cons.inj h).1 (by decide))
      (fun _ h => absurd (List.cons.inj h).1 (by decide)) (Content.ofChars_header header _), hend]
    simp [orMalformed, bind, Except.bind, h, pure, Except.pure, Content.statement?]
  | pair pair =>
    have hquote := row.behindContent_ne_quote htail
    have hskip : ∀ rest, skipBlanks ((Content.pair pair).chars ++ rest) =
        (Content.pair pair).chars ++ rest := by
      intro rest
      rw [Content.chars, List.append_assoc]
      exact pair.key.skipBlanks_append _
    have hne : ∀ c rest more, ¬Bare c → (Content.pair pair).chars ++ rest ≠ c :: more := by
      intro c rest more hc
      rw [Content.chars, List.append_assoc]
      exact pair.key.append_ne_cons hc _ more
    rw [hcontent, hskip] at hbody
    rw [Statement.ofLines_of_ofChars hbody (fun more => hne _ _ more (by simp [Bare]))
      (fun more => hne _ _ more (by simp [Bare])) (Content.ofChars_pair pair hquote), hend]
    simp [orMalformed, bind, Except.bind, h, pure, Except.pure, Content.statement?]

theorem statement?_eq_none_of_body {row : Row Content} (h : row.body = []) :
    row.statement? = none := by
  have hchars : row.content.chars = [] := by
    simp only [body, List.append_eq_nil_iff] at h
    exact h.2.1
  rw [statement?]
  cases hcontent : row.content with
  | nothing => rfl
  | header header =>
    rw [hcontent] at hchars
    cases hchars
  | pair pair =>
    rw [hcontent, Content.chars, List.append_eq_nil_iff] at hchars
    exact absurd hchars.1 pair.key.ne_nil

theorem ofLines_text (terminated : Bool) {rows : List (Row Content)}
    (hrows : ∀ row ∈ rows, row.ending = .lineFeed) {n : Nat}
    (hn : (text terminated rows).length < n) :
    Statement.ofLines n (text terminated rows) =
      .ok (rows.filterMap statement?) := by
  induction rows generalizing n with
  | nil =>
    cases n with
    | zero => cases hn
    | succ n => rfl
  | cons row rows ih =>
    obtain ⟨hrow, hrows⟩ := List.forall_mem_cons.mp hrows
    obtain ⟨n, rfl⟩ : ∃ m, n = m + 1 := ⟨n - 1, by omega⟩
    have hstatements : (row :: rows).filterMap statement? =
        row.statement?.toList ++ rows.filterMap statement? := by
      cases hstatement : row.statement? <;> simp [hstatement]
    rw [hstatements]
    rw [text] at hn ⊢
    split at hn
    next hlast =>
      -- The last line without an end: an empty one takes no step of its own.
      obtain rfl : rows = [] := by simpa using (Bool.and_eq_true_iff.mp hlast).1
      rw [if_pos hlast]
      by_cases hbody : row.body = []
      · rw [hbody, statement?_eq_none_of_body hbody]
        rfl
      · have hlength := List.length_pos_iff.mpr hbody
        have hpos : 0 < n := by
          rw [List.length_append] at hn
          omega
        obtain ⟨n, rfl⟩ : ∃ m, n = m + 1 := ⟨n - 1, by omega⟩
        have htail : BehindLine [] := by rintro c ⟨⟩
        exact row.ofLines_append htail rfl
    next hmore =>
      rw [if_neg hmore, hrow]
      apply row.ofLines_append (Text.forall_head?_cons (p := (· = '\n')) rfl _)
      apply ih hrows
      simp only [hrow, LineEnd.chars, List.length_append, List.length_cons, List.length_nil] at hn
      omega

theorem ofText_text (terminated : Bool) (rows : List (Row Content)) :
    Statement.ofText (.ofList (text terminated rows)) =
      .ok (rows.filterMap statement?) := by
  unfold Statement.ofText
  rw [String.toList_ofList, normalizeLines_text]
  dsimp only
  rw [steps, ofLines_text terminated (by simp) (Nat.lt_succ_self _), List.filterMap_map]
  rfl

end Row

end SizeHeader.Toml
