import SizeHeader.Proofs.TemplateParts

/-!
# Texts of a catalog

What a catalog makes of a code depends on the text that it has for the code and on nothing else. The
texts compose: a text that can be filled may be put before any other, and neither changes what
becomes of the other. Arguments go in as they are, whatever braces they hold.
-/

namespace SizeHeader

/-- The template fault as one of the message with this code and text. -/
def MessageFault.ofTemplate (code text : String) : TemplateFault → MessageFault
  | .missing key => .missingArgument key code text
  | fault => .template fault

/-- The same fault, told of another text. -/
def MessageFault.toldOf (text : String) : MessageFault → MessageFault
  | .missingArgument key code _ => .missingArgument key code text
  | fault => fault

theorem MessageFault.toldOf_ofTemplate (code t u : String) (fault : TemplateFault) :
    (ofTemplate code t fault).toldOf u = ofTemplate code u fault := by
  cases fault <;> rfl

theorem Message.fill_eq (m : Message) (args : Arguments) :
    m.fill args =
      ((m.template.fill args).map String.ofList).mapError (.ofTemplate m.code m.text) := by
  rw [fill]
  cases m.template.fill args with
  | ok s => rfl
  | error fault => cases fault <;> rfl

theorem Operation.clash?_eq_none_iff {op : Operation} {args : Arguments} :
    op.clash? args = none ↔ ∀ name ∈ op.reserved, name ∉ args.map (·.1) := by
  rw [clash?, List.find?_eq_none]
  constructor
  · intro h name hname hmem
    exact h name hmem (by simpa using hname)
  · intro h name hmem hname
    exact h name (by simpa using hname) hmem

theorem Operation.check_eq_ok_iff {op : Operation} {args : Arguments} :
    op.check args = .ok () ↔ ∀ name ∈ op.reserved, name ∉ args.map (·.1) := by
  rw [← clash?_eq_none_iff, check]
  cases op.clash? args <;> simp

namespace Catalog

def text? (c : Catalog) (code : String) : Option String := (c.find? code).map (·.text)

theorem format_of_text? {c : Catalog} {code t : String} {args : Arguments}
    (ht : c.text? code = some t) (hargs : "code" ∉ args.map (·.1)) :
    c.format code args =
      (((Template.ofChars t.toList).fill args).map String.ofList).mapError
        (.ofTemplate code t) := by
  obtain ⟨m, hm, rfl⟩ := Option.map_eq_some_iff.mp ht
  have hcheck : Operation.format.check args = .ok () := by
    rw [Operation.check_eq_ok_iff]
    simpa [Operation.reserved] using hargs
  have hcode := code_of_find? hm
  simp only [format, hcheck, hm, bind, Except.bind]
  rw [Message.fill_eq, hcode, Message.template]

/-- What is filled in front of a plain field stays as it is, and then the field decides. -/
theorem fill_append_plainField {args : Arguments} {key t₁ : String} {r : List Char}
    (hkey : PlainKey key.toList) (hr : (Template.ofChars t₁.toList).fill args = .ok r)
    (t₂ : String) :
    (Template.ofChars (t₁ ++ "\x7b" ++ key ++ "\x7d" ++ t₂).toList).fill args =
      ((args.shown key).bind fun s => ((Template.ofChars t₂.toList).fill args).map (s.toList ++ ·)).map
        (r ++ ·) := by
  have hchars : (t₁ ++ "\x7b" ++ key ++ "\x7d" ++ t₂).toList =
      t₁.toList ++ '{' :: (key.toList ++ '}' :: t₂.toList) := by
    simp
  rw [hchars, Template.fill_ofChars_append hr, Template.ofChars_plainField hkey,
    Template.fill_plainField hkey, String.ofList_toList]

theorem fill_of_format {c : Catalog} {code t s : String} {args : Arguments}
    (ht : c.text? code = some t) (hargs : "code" ∉ args.map (·.1))
    (hs : c.format code args = .ok s) :
    (Template.ofChars t.toList).fill args = .ok s.toList := by
  rw [format_of_text? ht hargs] at hs
  cases hfill : (Template.ofChars t.toList).fill args with
  | error fault =>
      rw [hfill] at hs
      exact absurd hs (by simp [Except.map, Except.mapError])
  | ok r =>
      rw [hfill] at hs
      have hr : String.ofList r = s := by simpa [Except.map, Except.mapError] using hs
      rw [← hr, String.toList_ofList]

section Parts

variable {args : Arguments} {c₁ c₂ c : Catalog} {code t₁ t₂ t s₁ : String}

/-- Where filling one text puts `r` before what another one comes to, so does the catalog. A fault is
that of the other text, told of this one. -/
theorem format_of_fill_eq_map (hargs : "code" ∉ args.map (·.1)) (h₂ : c₂.text? code = some t₂)
    (h : c.text? code = some t) {r : List Char}
    (hfill : (Template.ofChars t.toList).fill args =
      ((Template.ofChars t₂.toList).fill args).map (r ++ ·)) :
    c.format code args =
      ((c₂.format code args).map (.ofList r ++ ·)).mapError (·.toldOf t) := by
  rw [format_of_text? h₂ hargs, format_of_text? h hargs, hfill]
  cases (Template.ofChars t₂.toList).fill args with
  | ok s₂ => simp [Except.map, Except.mapError]
  | error fault => simp [Except.map, Except.mapError, MessageFault.toldOf_ofTemplate]

theorem format_append (hargs : "code" ∉ args.map (·.1)) (h₁ : c₁.text? code = some t₁)
    (h₂ : c₂.text? code = some t₂) (h : c.text? code = some (t₁ ++ t₂))
    (hs₁ : c₁.format code args = .ok s₁) :
    c.format code args =
      ((c₂.format code args).map (s₁ ++ ·)).mapError (·.toldOf (t₁ ++ t₂)) := by
  have hfill := Template.fill_ofChars_append (fill_of_format h₁ hargs hs₁) t₂.toList
  rw [← String.toList_append] at hfill
  simpa using format_of_fill_eq_map hargs h₂ h hfill

theorem format_append_plainField (hargs : "code" ∉ args.map (·.1)) {key s : String}
    (hkey : PlainKey key.toList) (hs : args.shown key = .ok s) (h₁ : c₁.text? code = some t₁)
    (h₂ : c₂.text? code = some t₂) (h : c.text? code = some (t₁ ++ "\x7b" ++ key ++ "\x7d" ++ t₂))
    (hs₁ : c₁.format code args = .ok s₁) :
    c.format code args =
      ((c₂.format code args).map (s₁ ++ s ++ ·)).mapError
        (·.toldOf (t₁ ++ "\x7b" ++ key ++ "\x7d" ++ t₂)) := by
  have hfill := fill_append_plainField hkey (fill_of_format h₁ hargs hs₁) t₂
  have hcombined : (Template.ofChars (t₁ ++ "\x7b" ++ key ++ "\x7d" ++ t₂).toList).fill args =
      ((Template.ofChars t₂.toList).fill args).map (s₁.toList ++ s.toList ++ ·) := by
    rw [hfill, hs]
    cases (Template.ofChars t₂.toList).fill args <;> simp [Except.map, Except.bind]
  simpa using format_of_fill_eq_map hargs h₂ h hcombined

/-- A long integer keeps the text from being filled, whatever stands behind its field. -/
theorem format_append_longField (hargs : "code" ∉ args.map (·.1)) {key : String}
    (hkey : PlainKey key.toList) (hs : args.shown key = .error (.format .longInteger))
    (h₁ : c₁.text? code = some t₁)
    (h : c.text? code = some (t₁ ++ "\x7b" ++ key ++ "\x7d" ++ t₂))
    (hs₁ : c₁.format code args = .ok s₁) :
    c.format code args = .error (.template (.format .longInteger)) := by
  rw [format_of_text? h hargs, fill_append_plainField hkey (fill_of_format h₁ hargs hs₁) t₂, hs]
  rfl

theorem format_doubled (hargs : "code" ∉ args.map (·.1)) {s : String}
    (h : c.text? code = some (.ofList (Template.doubled s.toList))) :
    c.format code args = .ok s := by
  rw [format_of_text? h hargs, String.toList_ofList, Template.fill_doubled]
  simp [Except.map, Except.mapError]

end Parts

def single (code text : String) : Catalog := ⟨[{ code, severity := .note, text }]⟩

/-- Texts compose. A text that can be filled may be put before any other, and what it comes to is put
before what the other comes to; faults of the other stay. Doubled braces come to the text they were
doubled in. A plain field in between comes to its argument as it is, and where that is an integer of more
than 4300 digits, to a fault. -/
theorem format_composes {args : Arguments} (hargs : "code" ∉ args.map (·.1)) :
    (∀ (c₁ c₂ c : Catalog) (code t₁ t₂ s₁ : String), c₁.text? code = some t₁ →
      c₂.text? code = some t₂ → c.text? code = some (t₁ ++ t₂) → c₁.format code args = .ok s₁ →
        c.format code args =
          ((c₂.format code args).map (s₁ ++ ·)).mapError (·.toldOf (t₁ ++ t₂))) ∧
    (∀ (c : Catalog) (code s : String),
      c.text? code = some (.ofList (Template.doubled s.toList)) → c.format code args = .ok s) ∧
    ∀ (c₁ c₂ c : Catalog) (code t₁ t₂ s₁ key : String) (a : Argument), PlainKey key.toList →
      args.lookup key = some a → c₁.text? code = some t₁ → c₂.text? code = some t₂ →
        c.text? code = some (t₁ ++ "\x7b" ++ key ++ "\x7d" ++ t₂) → c₁.format code args = .ok s₁ →
          (¬a.IsLong → ∃ s, a.plain? = some s ∧
            c.format code args =
              ((c₂.format code args).map (s₁ ++ s ++ ·)).mapError
                (·.toldOf (t₁ ++ "\x7b" ++ key ++ "\x7d" ++ t₂))) ∧
          (a.IsLong → c.format code args = .error (.template (.format .longInteger))) := by
  refine ⟨fun _ _ _ _ _ _ _ h₁ h₂ h hs₁ => format_append hargs h₁ h₂ h hs₁,
    fun _ _ _ h => format_doubled hargs h, ?_⟩
  intro c₁ c₂ c code t₁ t₂ s₁ key a hkey ha h₁ h₂ h hs₁
  constructor
  · intro hshort
    obtain ⟨s, hs⟩ := Argument.exists_plain?_iff.mpr hshort
    exact ⟨s, hs, format_append_plainField hargs hkey (args.shown_of_plain? ha hs) h₁ h₂ h hs₁⟩
  · intro hlong
    exact format_append_longField hargs hkey (args.shown_of_isLong ha hlong) h₁ h hs₁

theorem format_composes_between_braces :
    "code" ∉ ([("path", .text "\x7b!")] : Arguments).map (·.1) ∧
      (single "T" "\x7b\x7b\x7bpath\x7d\x7d\x7d").format "T" [("path", .text "\x7b!")] =
        .ok "\x7b\x7b!\x7d" ∧
      (single "T" "\x7bpath\x7d\x7breason\x7d").format "T" [("path", .text "\x7b!")] =
        .error (.missingArgument "reason" "T" "\x7bpath\x7d\x7breason\x7d") ∧
      (single "T" "\x7b\x7bpath\x7d\x7d").format "T" [("path", .text "\x7b!")] =
        .ok "\x7bpath\x7d" := by
  have hargs : "code" ∉ ([("path", .text "\x7b!")] : Arguments).map (·.1) := by decide
  obtain ⟨happend, hdoubled, hfield⟩ := format_composes hargs
  have hshort : ¬(Argument.text "\x7b!").IsLong := by decide
  refine ⟨hargs, ?_, ?_, ?_⟩
  · obtain ⟨s, hs, hformat⟩ := (hfield (single "T" "\x7b\x7b") (single "T" "\x7d\x7d")
      (single "T" "\x7b\x7b\x7bpath\x7d\x7d\x7d") "T" _ _ "\x7b" "path" _ (by decide) rfl rfl rfl
      rfl rfl).1 hshort
    obtain rfl : "\x7b!" = s := Option.some.inj hs
    exact hformat
  · exact happend (single "T" "\x7bpath\x7d") (single "T" "\x7breason\x7d") _ "T" _ _ "\x7b!"
      rfl rfl rfl rfl
  · exact hdoubled _ "T" "\x7bpath\x7d" rfl

/-- A long integer is no text, although its key is there. -/
theorem format_long_integer {n : Int} (hn : 4300 < Text.digitCount n) :
    (single "T" "\x7bsize\x7d").format "T" [("size", .integer n)] =
      .error (.template (.format .longInteger)) := by
  have hshown : Arguments.shown [("size", .integer n)] "size" = .error (.format .longInteger) :=
    Arguments.shown_of_isLong rfl (Argument.isLong_integer_iff.mpr hn)
  have hempty : (single "T" "").format "T" [("size", .integer n)] = .ok "" := rfl
  have htext : (single "T" "\x7bsize\x7d").text? "T" =
      some ("" ++ "\x7b" ++ "size" ++ "\x7d" ++ "") := rfl
  exact format_append_longField (by simp) (by decide) hshown rfl htext hempty

/-- A key with more digits in front than a number can have stands for no argument, although it is no
number as a whole. The least integer of 4301 digits is an argument, but one without a text. -/
theorem format_overflowing_key :
    ("9223372036854775808a".toList ≠ [] ∧ Text.index? "9223372036854775808a".toList = none ∧
      "9223372036854775808a".toList.all (· ∉ ['{', '}', '!', ':', '.', '['])) ∧
    (single "T" "\x7b9223372036854775808a\x7d").format "T" [("9223372036854775808a", .text "v")] =
      .error (.template .tooManyDigits) ∧
    (single "T" "\x7bsize\x7d").format "T" [("size", .integer (Text.powerOfTen 4300))] =
      .error (.template (.format .longInteger)) := by
  have hlong : 4300 < Text.digitCount (Text.powerOfTen 4300) :=
    Text.lt_digitCount_powerOfTen (by decide)
  exact ⟨by decide, by decide, format_long_integer hlong⟩

end Catalog

end SizeHeader
