import Mathlib
import SizeHeader.Toml.Document

/-!
# Statements of documents

A document is read one statement at a time, and what a statement says does not depend on those before
it. So a document can be taken apart first, into the statements that it makes, and its tables are then
built from these alone. No statement changes what kind of thing stands under a name at the top: a name
that has come to stand for a table remains one, and so does a name for anything else.
-/

namespace SizeHeader.Toml

theorem bind_eq_ok_iff {α β : Type} {x : Except Fault α} {f : α → Except Fault β} {b : β} :
    x >>= f = .ok b ↔ ∃ a, x = .ok a ∧ f a = .ok b := by
  cases x with
  | error fault => simp [bind, Except.bind]
  | ok a => simp [bind, Except.bind]

theorem malformed_bind {α β : Type} (f : α → Except Fault β) :
    (throw .malformed : Except Fault α) >>= f = throw .malformed := rfl

theorem orMalformed_eq_ok_iff {α : Type} {o : Option α} {a : α} :
    orMalformed o = .ok a ↔ o = some a := by
  cases o <;> simp [orMalformed]

inductive Statement where
  | header (key : List String)
  | arrayHeader (key : List String)
  | pair (key : List String) (v : Value)

namespace Statement

/-- Reads the statement at the beginning of a line, up to the blanks behind it. -/
def ofChars : List Char → Except Fault (Statement × List Char)
  | '[' :: '[' :: rest => do
    let (key, rest) ← orMalformed (key? (steps rest) (skipBlanks rest))
    match rest with
    | ']' :: ']' :: rest => return (arrayHeader key, rest)
    | _ => throw .malformed
  | '[' :: rest => do
    let (key, rest) ← orMalformed (key? (steps rest) (skipBlanks rest))
    match rest with
    | ']' :: rest => return (header key, rest)
    | _ => throw .malformed
  | s => do
    let (key, rest) ← orMalformed (key? (steps s) s)
    match rest with
    | '=' :: rest =>
      let (v, rest) ← value (steps rest) (skipBlanks rest)
      return (pair key v, rest)
    | _ => throw .malformed

/-- Reads lines up to the end of the text. -/
def ofLines : Nat → List Char → Except Fault (List Statement)
  | 0, _ => .error .malformed
  | n + 1, s =>
    match skipBlanks s with
    | [] => .ok []
    | '\n' :: rest => ofLines n rest
    | '#' :: rest => do ofLines n (← orMalformed (endLine ('#' :: rest)))
    | s => do
      let (statement, rest) ← ofChars s
      return statement :: (← ofLines n (← orMalformed (endLine rest)))

def ofText (s : String) : Except Fault (List Statement) :=
  let lines := normalizeLines s.toList
  ofLines (steps lines) lines

end Statement

namespace Builder

def apply (b : Builder) : Statement → Option Builder
  | .header key => b.openHeader key Value.opened
  | .arrayHeader key => b.openHeader key Value.grown
  | .pair key v => b.insert key v

def applyAll (b : Builder) (statements : List Statement) : Option Builder :=
  statements.foldlM apply b

theorem applyAll_nil (b : Builder) : b.applyAll [] = some b := rfl

theorem applyAll_cons (b : Builder) (statement : Statement) (statements : List Statement) :
    b.applyAll (statement :: statements) = (b.apply statement).bind (·.applyAll statements) := rfl

theorem statement_eq (b : Builder) (s : List Char) :
    b.statement s = (do
      let (statement, rest) ← Statement.ofChars s
      return (← orMalformed (b.apply statement), rest)) := by
  unfold statement
  split
  next rest =>
    rw [Statement.ofChars.eq_1, bind_assoc]
    refine bind_congr fun read => ?_
    obtain ⟨key, rest⟩ := read
    dsimp only
    split
    · rfl
    · simp only [malformed_bind]
  next rest h =>
    rw [Statement.ofChars.eq_2 _ h, bind_assoc]
    refine bind_congr fun read => ?_
    obtain ⟨key, rest⟩ := read
    dsimp only
    split
    · rfl
    · simp only [malformed_bind]
  next h h' =>
    rw [Statement.ofChars.eq_3 _ h h', bind_assoc]
    refine bind_congr fun read => ?_
    obtain ⟨key, rest⟩ := read
    dsimp only
    split
    next rest =>
      simp only [bind_assoc]
      rfl
    · simp only [malformed_bind]

theorem lines_eq_ok_iff {n : Nat} {b : Builder} {s : List Char} {entries : Entries} :
    b.lines n s = .ok entries ↔
      ∃ statements, Statement.ofLines n s = .ok statements ∧
        (b.applyAll statements).map (·.entries) = some entries := by
  induction n generalizing b s with
  | zero => simp [lines, Statement.ofLines]
  | succ n ih =>
    unfold lines Statement.ofLines
    generalize skipBlanks s = s
    split
    · simp [applyAll_nil]
    · simp only [ih]
    · simp only [bind_eq_ok_iff, ih]
      exact ⟨fun ⟨rest, hrest, statements, h, h'⟩ => ⟨statements, ⟨rest, hrest, h⟩, h'⟩,
        fun ⟨statements, ⟨rest, hrest, h⟩, h'⟩ => ⟨rest, hrest, statements, h, h'⟩⟩
    · simp only [statement_eq, bind_eq_ok_iff, orMalformed_eq_ok_iff, ih]
      constructor
      · rintro ⟨⟨b', rest⟩, ⟨⟨st, rest'⟩, hst, b'', hb, h⟩, after, hafter, statements, hs, hbuilt⟩
        obtain ⟨rfl, rfl⟩ : b'' = b' ∧ rest' = rest := by simpa [pure, Except.pure] using h
        refine ⟨st :: statements, ⟨_, hst, _, hafter, _, hs, rfl⟩, ?_⟩
        rw [applyAll_cons, hb]
        exact hbuilt
      · rintro ⟨_, ⟨⟨st, rest⟩, hst, after, hafter, statements, hs, h⟩, hbuilt⟩
        obtain rfl : st :: statements = _ := by simpa [pure, Except.pure] using h
        rw [applyAll_cons, Option.map_eq_some_iff] at hbuilt
        obtain ⟨built, hall, hentries⟩ := hbuilt
        obtain ⟨b', hb, hall⟩ := Option.bind_eq_some_iff.mp hall
        have hbuilt : (b'.applyAll statements).map (·.entries) = some entries := by
          rw [hall, Option.map_some, hentries]
        exact ⟨(b', rest), ⟨_, hst, b', hb, rfl⟩, after, hafter, statements, hs, hbuilt⟩

end Builder

theorem document_eq_ok_iff {s : String} {entries : Entries} :
    document s = .ok entries ↔
      ∃ statements, Statement.ofText s = .ok statements ∧
        (Builder.applyAll {} statements).map (·.entries) = some entries :=
  Builder.lines_eq_ok_iff

/-! ### What stands under a name -/

/-- The type of a value that is no table. -/
def Value.otherType? : Value → Option String
  | .table _ _ => none
  | v => some v.typeName

namespace Entries

def otherType? (entries : Entries) (name : String) : Option String :=
  (entries.lookup name).bind Value.otherType?

theorem lookup_cons (key name : String) (v : Value) (entries : Entries) :
    List.lookup name ((key, v) :: entries) = if name = key then some v else entries.lookup name := by
  rw [List.lookup_cons]
  by_cases hname : name = key
  · simp [hname]
  · rw [beq_false_of_ne hname, if_neg hname]

theorem lookup_set (key name : String) (v : Value) (entries : Entries) :
    (set key v entries).lookup name = if name = key then some v else entries.lookup name := by
  induction entries with
  | nil => exact lookup_cons key name v []
  | cons entry rest ih =>
    obtain ⟨k, w⟩ := entry
    unfold set
    by_cases hk : k = key
    · rw [if_pos hk, lookup_cons, lookup_cons, hk]
      split <;> rfl
    · rw [if_neg hk, lookup_cons, lookup_cons, ih]
      by_cases hname : name = k
      · rw [if_pos hname, if_pos hname, if_neg (hname ▸ hk)]
      · rw [if_neg hname, if_neg hname]

theorem otherType?_set (key name : String) (v : Value) (entries : Entries) :
    (set key v entries).otherType? name =
      if name = key then v.otherType? else entries.otherType? name := by
  unfold otherType?
  rw [lookup_set]
  split <;> rfl

theorem otherType?_set_of_eq {key : String} {v : Value} {entries : Entries}
    (h : v.otherType? = entries.otherType? key) (name : String) :
    (set key v entries).otherType? name = entries.otherType? name := by
  rw [otherType?_set, h]
  split
  next hname => rw [hname]
  · rfl

theorem otherType?_append (key name : String) (v : Value) {entries : Entries}
    (h : entries.lookup key = none) :
    Entries.otherType? (entries ++ [(key, v)]) name =
      if name = key then v.otherType? else entries.otherType? name := by
  unfold otherType?
  rw [List.lookup_append, lookup_cons]
  by_cases hname : name = key
  · subst hname
    simp [h]
  · simp [hname]

variable {entries entries' : Entries} {name T : String}

theorem otherType?_of_set {α : Type} {o : Option α} {key : String} {g : α → Value}
    (h : (do return set key (g (← o)) entries) = some entries')
    (hg : ∀ a, (g a).otherType? = entries.otherType? key) :
    entries'.otherType? name = entries.otherType? name := by
  obtain ⟨a, -, h⟩ := Option.bind_eq_some_iff.mp h
  obtain rfl := Option.some.inj h
  exact otherType?_set_of_eq (hg a) name

/-- A key of several parts leads to a table, and so does nothing to any other value. -/
theorem otherType?_insert {part : Nat} {v : Value} {key : List String}
    (h : entries.insert part v key = some entries') :
    entries'.otherType? name = some T ↔
      entries.otherType? name = some T ∨ key = [name] ∧ v.otherType? = some T := by
  unfold insert at h
  split at h
  next => cases h
  next key =>
    split at h
    next hkey =>
      obtain rfl := Option.some.inj h
      rw [otherType?_append _ _ _ hkey]
      by_cases hname : name = key
      · subst hname
        simp [otherType?, hkey]
      · simp [hname, Ne.symm hname]
    next => cases h
  next key rest hrest =>
    have hlong : key :: rest ≠ [name] := fun h => hrest (List.cons.inj h).2
    have hsame : entries'.otherType? name = entries.otherType? name := by
      split at h
      next hkey =>
        obtain ⟨inner, -, h⟩ := Option.bind_eq_some_iff.mp h
        obtain rfl := Option.some.inj h
        rw [otherType?_append _ _ _ hkey]
        split
        next hname => simp [hname, otherType?, hkey, Value.otherType?]
        · rfl
      next hkey =>
        exact otherType?_of_set h fun _ => by simp [otherType?, hkey, Value.otherType?]
      next hkey =>
        split at h
        next => exact otherType?_of_set h fun _ => by simp [otherType?, hkey, Value.otherType?]
        next => cases h
      next => cases h
    rw [hsame]
    simp [hlong]

theorem otherType?_modify {f : Option Value → Option Value} {P : Prop} {key : List String}
    (hf : ∀ {old new}, f old = some new →
      (new.otherType? = some T ↔ old.bind Value.otherType? = some T ∨ P))
    (h : entries.modify f key = some entries') :
    entries'.otherType? name = some T ↔ entries.otherType? name = some T ∨ key = [name] ∧ P := by
  unfold modify at h
  split at h
  next => cases h
  next key =>
    obtain ⟨new, hnew, h⟩ := Option.bind_eq_some_iff.mp h
    obtain rfl := Option.some.inj h
    rw [otherType?_set]
    by_cases hname : name = key
    · subst hname
      simp [hf hnew, otherType?]
    · simp [hname, Ne.symm hname]
  next key rest hrest =>
    have hlong : key :: rest ≠ [name] := fun h => hrest (List.cons.inj h).2
    have hsame : entries'.otherType? name = entries.otherType? name := by
      split at h
      next hkey =>
        exact otherType?_of_set h fun _ => by simp [otherType?, hkey, Value.otherType?]
      next => cases h
      next hkey =>
        exact otherType?_of_set h fun _ => by simp [otherType?, hkey, Value.otherType?]
      next hkey =>
        exact otherType?_of_set h fun _ => by
          simp [otherType?, hkey, Value.otherType?, Value.typeName]
      next => cases h
    rw [hsame]
    simp [hlong]

end Entries

namespace Value

variable {old : Option Value} {new : Value} {T : String}

theorem otherType?_opened (h : opened old = some new) :
    new.otherType? = some T ↔ old.bind otherType? = some T ∨ False := by
  unfold opened at h
  split at h
  · obtain rfl := Option.some.inj h
    simp [otherType?]
  · obtain rfl := Option.some.inj h
    simp [otherType?]
  · cases h

theorem otherType?_grown (h : grown old = some new) :
    new.otherType? = some T ↔ old.bind otherType? = some T ∨ T = "list" := by
  unfold grown at h
  split at h
  · obtain rfl := Option.some.inj h
    simp [otherType?, typeName, eq_comm]
  · obtain rfl := Option.some.inj h
    simp [otherType?, typeName, eq_comm]
  · cases h

theorem otherType?_withEntries {f : Entries → Option Entries} (h : withEntries f old = some new) :
    new.otherType? = some T ↔ old.bind otherType? = some T ∨ False := by
  unfold withEntries at h
  split at h
  · obtain ⟨entries, -, h⟩ := Option.bind_eq_some_iff.mp h
    obtain rfl := Option.some.inj h
    simp [otherType?]
  · obtain ⟨entries, -, h⟩ := Option.bind_eq_some_iff.mp h
    obtain rfl := Option.some.inj h
    simp [otherType?, typeName]
  · cases h

end Value

namespace Statement

def isPair : Statement → Bool
  | .pair _ _ => true
  | _ => false

/-- The statements above the first header, which belong to no table. -/
def preamble (statements : List Statement) : List Statement := statements.takeWhile isPair

theorem preamble_header (key : List String) (statements : List Statement) :
    preamble (header key :: statements) = [] := rfl

theorem preamble_arrayHeader (key : List String) (statements : List Statement) :
    preamble (arrayHeader key :: statements) = [] := rfl

theorem preamble_pair (key : List String) (v : Value) (statements : List Statement) :
    preamble (pair key v :: statements) = pair key v :: preamble statements := rfl

/-- What a statement under a header gives a name at the top, if it is no table. -/
def Gives (header : List String) (name T : String) : Statement → Prop
  | .header _ => False
  | .arrayHeader key => key = [name] ∧ T = "list"
  | .pair key v => header = [] ∧ key = [name] ∧ v.otherType? = some T

def headerAfter (header : List String) : Statement → List String
  | .header key => key
  | .arrayHeader key => key
  | .pair _ _ => header

end Statement

namespace Builder

variable {b b' : Builder} {name T : String}

theorem of_openHeader {f : Option Value → Option Value} {key : List String}
    (h : b.openHeader key f = some b') :
    b.entries.modify f key = some b'.entries ∧ b'.header = key ∧ key ≠ [] := by
  obtain ⟨entries, hentries, h⟩ := Option.bind_eq_some_iff.mp h
  obtain rfl := Option.some.inj h
  refine ⟨hentries, rfl, ?_⟩
  rintro rfl
  cases hentries

theorem of_insert {key : List String} {v : Value} (h : b.insert key v = some b') :
    (b.header = [] ∧ b.entries.insert b.part v key = some b'.entries ∨
      b.header ≠ [] ∧ b.entries.modify (Value.withEntries (Entries.insert b.part v key)) b.header =
        some b'.entries) ∧ b'.header = b.header := by
  unfold insert at h
  split at h
  next hheader =>
    obtain ⟨entries, hentries, h⟩ := Option.bind_eq_some_iff.mp h
    obtain rfl := Option.some.inj h
    exact ⟨.inl ⟨hheader, hentries⟩, rfl⟩
  next hheader =>
    obtain ⟨entries, hentries, h⟩ := Option.bind_eq_some_iff.mp h
    obtain rfl := Option.some.inj h
    exact ⟨.inr ⟨hheader, hentries⟩, rfl⟩

theorem header_of_apply {statement : Statement} (h : b.apply statement = some b') :
    b'.header = statement.headerAfter b.header := by
  cases statement with
  | header key => exact (of_openHeader h).2.1
  | arrayHeader key => exact (of_openHeader h).2.1
  | pair key v => exact (of_insert h).2

theorem otherType?_apply {statement : Statement} (h : b.apply statement = some b') :
    b'.entries.otherType? name = some T ↔
      b.entries.otherType? name = some T ∨ statement.Gives b.header name T := by
  cases statement with
  | header key =>
    rw [Entries.otherType?_modify Value.otherType?_opened (of_openHeader h).1]
    simp [Statement.Gives]
  | arrayHeader key => exact Entries.otherType?_modify Value.otherType?_grown (of_openHeader h).1
  | pair key v =>
    obtain ⟨⟨hheader, h⟩ | ⟨hheader, h⟩, -⟩ := of_insert h
    · rw [Entries.otherType?_insert h]
      simp [Statement.Gives, hheader]
    · rw [Entries.otherType?_modify Value.otherType?_withEntries h]
      simp [Statement.Gives, hheader]

theorem otherType?_applyAll {statements : List Statement} (h : b.applyAll statements = some b') :
    b'.entries.otherType? name = some T ↔
      b.entries.otherType? name = some T ∨
        b.header = [] ∧ (∃ v, .pair [name] v ∈ Statement.preamble statements ∧
          v.otherType? = some T) ∨
        .arrayHeader [name] ∈ statements ∧ T = "list" := by
  induction statements generalizing b with
  | nil =>
    obtain rfl := Option.some.inj h
    simp [Statement.preamble]
  | cons statement statements ih =>
    obtain ⟨next, hnext, hrest⟩ := Option.bind_eq_some_iff.mp h
    rw [ih hrest, otherType?_apply hnext, header_of_apply hnext]
    cases statement with
    | header key =>
      have hkey : key ≠ [] := (of_openHeader hnext).2.2
      simp [Statement.preamble_header, Statement.Gives, Statement.headerAfter, hkey]
    | arrayHeader key =>
      have hkey : key ≠ [] := (of_openHeader hnext).2.2
      have hmem : .arrayHeader [name] ∈ Statement.arrayHeader key :: statements ↔
          key = [name] ∨ .arrayHeader [name] ∈ statements := by
        simp [eq_comm]
      rw [hmem]
      simp only [Statement.preamble_arrayHeader, Statement.Gives, Statement.headerAfter, hkey,
        List.not_mem_nil, false_and, exists_false, and_false, false_or, or_and_right, or_assoc]
    | pair key v =>
      have hmem : (∃ w, .pair [name] w ∈ Statement.pair key v :: Statement.preamble statements ∧
            w.otherType? = some T) ↔
          key = [name] ∧ v.otherType? = some T ∨
            ∃ w, .pair [name] w ∈ Statement.preamble statements ∧ w.otherType? = some T := by
        simp [or_and_right, exists_or, eq_comm, and_assoc]
      rw [Statement.preamble_pair, hmem]
      simp only [Statement.Gives, Statement.headerAfter, List.mem_cons, reduceCtorEq, false_or,
        and_or_left, or_assoc]

end Builder

/-- Whether a name stands for something else than a table is seen in single statements of a document:
above all headers, or as the whole name of an array of tables. -/
theorem otherType?_of_document {s : String} {entries : Entries} (h : document s = .ok entries)
    (name T : String) :
    entries.otherType? name = some T ↔
      ∃ statements, Statement.ofText s = .ok statements ∧
        ((∃ v, .pair [name] v ∈ Statement.preamble statements ∧ v.otherType? = some T) ∨
          .arrayHeader [name] ∈ statements ∧ T = "list") := by
  obtain ⟨statements, hstatements, hbuilt⟩ := document_eq_ok_iff.mp h
  obtain ⟨b, hb, rfl⟩ := Option.map_eq_some_iff.mp hbuilt
  rw [Builder.otherType?_applyAll hb, hstatements]
  simp [Entries.otherType?]

end SizeHeader.Toml
