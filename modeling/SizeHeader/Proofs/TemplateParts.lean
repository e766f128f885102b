import Mathlib.Data.List.TakeWhile
import SizeHeader.Message.Catalog
import SizeHeader.Proofs.DecimalTexts

/-!
# Templates in parts

A template is read from left to right, and what has been read is never looked at again. So a text
that can be filled may be cut off from whatever stands behind it: reading it leaves no brace open,
and the rest is read as if it stood alone.
-/

namespace SizeHeader

namespace Template

def append : Template → Template → Template
  | done, u => u
  | malformed fault, _ => malformed fault
  | literal c rest, u => literal c (rest.append u)
  | field f rest, u => field f (rest.append u)

/-- A template that has been read to the end of its text. -/
def Complete : Template → Prop
  | done => True
  | malformed _ => False
  | literal _ rest => rest.Complete
  | field _ rest => rest.Complete

/-! ### Filling -/

section Filling

variable {expand : List Char → Except TemplateFault (List Char)} {args : Arguments}

theorem complete_of_fillWith {t : Template} {s : List Char}
    (h : t.fillWith expand args = .ok s) : t.Complete := by
  induction t generalizing s with
  | done => trivial
  | malformed fault => simp [fillWith] at h
  | literal c rest ih =>
      cases hrest : rest.fillWith expand args with
      | ok r => exact ih hrest
      | error fault => simp [fillWith, hrest, bind, Except.bind] at h
  | field f rest ih =>
      cases hrest : rest.fillWith expand args with
      | ok r => exact ih hrest
      | error fault =>
          cases hf : f.fill expand args <;>
            simp [fillWith, hrest, hf, bind, Except.bind] at h

theorem fillWith_append (t u : Template) :
    (t.append u).fillWith expand args =
      (t.fillWith expand args).bind fun s => (u.fillWith expand args).map (s ++ ·) := by
  induction t with
  | done =>
      cases hu : u.fillWith expand args <;>
        simp [append, fillWith, hu, Except.bind, Except.map]
  | malformed fault => rfl
  | literal c rest ih =>
      simp only [append, fillWith, ih]
      cases rest.fillWith expand args with
      | error fault => rfl
      | ok s => cases u.fillWith expand args <;> rfl
  | field f rest ih =>
      simp only [append, fillWith, ih]
      cases f.fill expand args with
      | error fault => rfl
      | ok r =>
          cases rest.fillWith expand args with
          | error fault => rfl
          | ok s =>
              cases u.fillWith expand args <;>
                simp [bind, Except.bind, Except.map, pure, Except.pure]

theorem fillWith_foldr_literal (s : List Char) (t : Template) :
    (s.foldr literal t).fillWith expand args = (t.fillWith expand args).map (s ++ ·) := by
  induction s with
  | nil => cases ht : t.fillWith expand args <;> simp [ht, Except.map]
  | cons c s ih =>
      rw [List.foldr_cons, fillWith, ih]
      cases t.fillWith expand args <;> rfl

end Filling

/-! ### Reading -/

theorem ofChars_cons_of_plain {c : Char} (hopen : c ≠ '{') (hclose : c ≠ '}') (rest : List Char) :
    ofChars (c :: rest) = literal c (ofChars rest) := by
  simp [ofChars, hopen, hclose]

theorem inName_cons_of_plain {c : Char} (hc : c ∉ ['{', '}', ':', '!', '[']) (name rest : List Char) :
    inName name (c :: rest) = inName (c :: name) rest := by
  simp only [List.mem_cons, not_or] at hc
  simp [inName, hc]

/-- Whatever is read completely is read the same way before a text `r`, which is read after it. -/
def ReadsOn (r : List Char) (read : List Char → Template) (s : List Char) : Prop :=
  (read s).Complete → read (s ++ r) = (read s).append (ofChars r)

/-- Every state of the reader leaves to `r` what it does not need to complete its own text. Only a
character without a meaning of its own needs more than unfolding: whether it is one does not depend
on what follows it. -/
theorem readsOn (r : List Char) :
    (∀ s, ReadsOn r ofChars s) ∧ (∀ name s, ReadsOn r (inName name) s) ∧
      (∀ name s, ReadsOn r (inBrackets name) s) ∧
        ∀ f format depth s, ReadsOn r (inFormat f format depth) s := by
  refine ofChars.mutual_induct (ReadsOn r ofChars) (fun name => ReadsOn r (inName name))
    (fun name => ReadsOn r (inBrackets name))
    (fun f format depth => ReadsOn r (inFormat f format depth))
    ?_ ?_ ?_ ?_ ?_ ?_ ?literal ?_ ?_ ?_ ?_ ?_ ?_ ?_ ?_ ?_ ?_ ?inName ?_ ?_ ?_ ?_ ?_ ?_ ?_
  case literal =>
    intro c rest _ hlone hopen _ hclose ih hcomplete
    have hbrace : c ≠ '{' := by
      intro hc
      cases rest with
      | nil => exact hlone hc rfl
      | cons d rest => exact hopen d rest hc rfl
    rw [ofChars_cons_of_plain hbrace hclose] at hcomplete
    rw [List.cons_append, ofChars_cons_of_plain hbrace hclose, ofChars_cons_of_plain hbrace hclose,
      append, ih hcomplete]
  case inName =>
    intro name c rest hopen hclose hcolon hlone hshort _ _ hlong hbracket ih hcomplete
    have hmark : c ≠ '!' := by
      intro hc
      match rest with
      | [] => exact hlone hc rfl
      | [d] => exact hshort d hc rfl
      | d :: e :: rest => exact hlong d e rest hc rfl
    have hc : c ∉ ['{', '}', ':', '!', '['] := by
      simpa using ⟨hopen, hclose, hcolon, hmark, hbracket⟩
    rw [inName_cons_of_plain hc] at hcomplete
    rw [List.cons_append, inName_cons_of_plain hc, inName_cons_of_plain hc]
    exact ih hcomplete
  all_goals
    intros
    simp_all [ReadsOn, ofChars, inName, inBrackets, inFormat, append, Complete]

theorem ofChars_append {s : List Char} (hs : (ofChars s).Complete) (r : List Char) :
    ofChars (s ++ r) = (ofChars s).append (ofChars r) :=
  (readsOn r).1 s hs

theorem fill_ofChars_append {args : Arguments} {s t : List Char}
    (hs : (ofChars s).fill args = .ok t) (r : List Char) :
    (ofChars (s ++ r)).fill args = ((ofChars r).fill args).map (t ++ ·) := by
  rw [ofChars_append (complete_of_fillWith hs), fill, fillWith_append]
  rw [fill] at hs
  rw [hs, Except.bind, fill]

/-! ### Doubled braces -/

def doubled (s : List Char) : List Char :=
  s.flatMap fun c => if c = '{' ∨ c = '}' then [c, c] else [c]

theorem ofChars_doubled_append (s r : List Char) :
    ofChars (doubled s ++ r) = s.foldr literal (ofChars r) := by
  induction s with
  | nil => rfl
  | cons c s ih =>
      have hcons : doubled (c :: s) =
          (if c = '{' ∨ c = '}' then [c, c] else [c]) ++ doubled s := rfl
      rw [hcons, List.foldr_cons, ← ih]
      by_cases hopen : c = '{'
      · simp [hopen, ofChars]
      by_cases hclose : c = '}'
      · simp [hclose, ofChars]
      · simpa [hopen, hclose] using ofChars_cons_of_plain hopen hclose (doubled s ++ r)

theorem fill_doubled (args : Arguments) (s : List Char) :
    (ofChars (doubled s)).fill args = .ok s := by
  have hread := ofChars_doubled_append s []
  rw [List.append_nil] at hread
  rw [hread, fill, fillWith_foldr_literal]
  simp [ofChars, fillWith, Except.map]

end Template

/-! ### Plain fields -/

namespace Arguments

/-- What is shown of the argument with a key, unless it is not there or has no text. -/
def shown (args : Arguments) (key : String) : Except TemplateFault String :=
  match args.lookup key with
  | none => .error (.missing key)
  | some a =>
    match a.plain? with
    | none => .error (.format .longInteger)
    | some s => .ok s

variable {args : Arguments} {key : String} {a : Argument}

theorem shown_eq_ok_iff {s : String} :
    args.shown key = .ok s ↔ ∃ a, args.lookup key = some a ∧ a.plain? = some s := by
  rw [shown]
  cases args.lookup key with
  | none => simp
  | some a => cases ha : a.plain? <;> simp [ha]

theorem shown_of_plain? {s : String} (ha : args.lookup key = some a) (hs : a.plain? = some s) :
    args.shown key = .ok s :=
  shown_eq_ok_iff.mpr ⟨a, ha, hs⟩

theorem shown_of_isLong (ha : args.lookup key = some a) (hlong : a.IsLong) :
    args.shown key = .error (.format .longInteger) := by
  simp [shown, ha, Argument.plain?_eq_none_iff.mpr hlong]

theorem shown_of_absent (habsent : args.lookup key = none) :
    args.shown key = .error (.missing key) := by
  simp [shown, habsent]

end Arguments

/-- A key that stands for the argument of that name: it is neither empty nor a number, does not begin
with more digits than a number can have, and has no character that means something in a field. -/
structure PlainKey (key : List Char) : Prop where
  ne_nil : key ≠ []
  notNumber : Text.index? key = none
  fits : Text.overflows key = false
  unmarked : ∀ c ∈ key, c ∉ ['{', '}', '!', ':', '.', '[']

theorem plainKey_iff {key : List Char} :
    PlainKey key ↔ key ≠ [] ∧ Text.index? key = none ∧ Text.overflows key = false ∧
      key.all (· ∉ ['{', '}', '!', ':', '.', '[']) := by
  rw [List.all_eq_true]
  constructor
  · intro h
    exact ⟨h.ne_nil, h.notNumber, h.fits, fun c hc => decide_eq_true (h.unmarked c hc)⟩
  · rintro ⟨hne, hnumber, hfits, hmarks⟩
    exact ⟨hne, hnumber, hfits, fun c hc => of_decide_eq_true (hmarks c hc)⟩

instance (key : List Char) : Decidable (PlainKey key) := decidable_of_iff' _ plainKey_iff

namespace Template

theorem inName_append_of_plain {key : List Char} (hkey : ∀ c ∈ key, c ∉ ['{', '}', ':', '!', '['])
    (name r : List Char) : inName name (key ++ r) = inName (key.reverse ++ name) r := by
  induction key generalizing name with
  | nil => rfl
  | cons c key ih =>
      rw [List.cons_append, inName_cons_of_plain (hkey c List.mem_cons_self),
        ih fun d hd => hkey d (List.mem_cons_of_mem c hd)]
      simp

theorem ofChars_plainField {key : List Char} (hkey : PlainKey key) (r : List Char) :
    ofChars ('{' :: (key ++ '}' :: r)) = field ⟨key, none, []⟩ (ofChars r) := by
  have hmarks : ∀ c ∈ key, c ∉ ['{', '}', ':', '!', '['] := by
    have hsubset : ['{', '}', ':', '!', '['] ⊆ ['{', '}', '!', ':', '.', '['] := by decide
    exact fun c hc hmark => hkey.unmarked c hc (hsubset hmark)
  have hopen : ofChars ('{' :: (key ++ '}' :: r)) = inName [] (key ++ '}' :: r) := by
    cases hlist : key with
    | nil => exact absurd hlist hkey.ne_nil
    | cons c key =>
        have hc := hmarks c (hlist ▸ List.mem_cons_self)
        simp only [List.mem_cons, not_or] at hc
        simp [ofChars, hc]
  rw [hopen, inName_append_of_plain hmarks]
  simp [inName]

end Template

namespace Field

theorem endsKey_of_plain {key : List Char} (hkey : PlainKey key) : ∀ c ∈ key, endsKey c = false := by
  intro c hc
  have := hkey.unmarked c hc
  simp only [List.mem_cons, not_or] at this
  simp [endsKey, this]

theorem key_plain {key : List Char} (hkey : PlainKey key) : Field.key ⟨key, none, []⟩ = key := by
  rw [Field.key, List.takeWhile_eq_self_iff]
  simpa using endsKey_of_plain hkey

theorem access_plain {key : List Char} (hkey : PlainKey key) :
    Field.access ⟨key, none, []⟩ = .done := by
  have hdrop : key.dropWhile (!endsKey ·) = [] := by
    rw [List.dropWhile_eq_nil_iff]
    simpa using endsKey_of_plain hkey
  simp [access, hdrop, Access.ofChars]

theorem argument?_plain {key : List Char} (hkey : PlainKey key) (args : Arguments) :
    argument? args key =
      match args.lookup (.ofList key) with
      | some a => .ok a
      | none => .error (.missing (.ofList key)) := by
  cases ha : args.lookup (.ofList key) <;>
    simp [argument?, hkey.fits, hkey.ne_nil, hkey.notNumber, ha]

/-- A plain field puts in its argument as it is, and faults where that has no text or is not there. -/
theorem fill_plain {key : List Char} (hkey : PlainKey key)
    (expand : List Char → Except TemplateFault (List Char)) (args : Arguments) :
    fill expand args ⟨key, none, []⟩ = (args.shown (.ofList key)).map String.toList := by
  rw [fill, key_plain hkey, access_plain hkey, argument?_plain hkey, Arguments.shown]
  cases args.lookup (.ofList key) with
  | none => rfl
  | some a =>
      cases ha : a.plain? <;>
        simp [Access.follow, convert, Argument.format, ha, Except.mapError, bind, Except.bind,
          Except.map]

end Field

theorem Template.fill_plainField {args : Arguments} {key : List Char} (hkey : PlainKey key)
    (t : Template) :
    (field ⟨key, none, []⟩ t).fill args =
      (args.shown (.ofList key)).bind fun s => (t.fill args).map (s.toList ++ ·) := by
  rw [fill, fillWith, Field.fill_plain hkey, fill]
  cases args.shown (.ofList key) with
  | error fault => rfl
  | ok s => cases t.fillWith (expand args) args <;> rfl

end SizeHeader
