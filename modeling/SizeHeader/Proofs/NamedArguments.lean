import SizeHeader.Proofs.OwnTexts

/-!
# The arguments that a text names

A text asks for arguments by the keys that its fields name, the fields in formats included, and for
nothing else. What it comes to is decided by what stands under these keys: other arguments do not
matter, nor does the order in which arguments are given. A text in plain pieces needs all of its keys,
each with a value that has a text, and it fails with the leftmost that is missing or has none.
-/

namespace SizeHeader

namespace Arguments

/-- The same under all of these keys, absence included. -/
def AgreeOn (keys : List String) (left right : Arguments) : Prop :=
  ∀ key ∈ keys, left.lookup key = right.lookup key

instance (keys : List String) (left right : Arguments) : Decidable (AgreeOn keys left right) :=
  inferInstanceAs (Decidable (∀ key ∈ keys, left.lookup key = right.lookup key))

theorem lookup_eq_none_iff_not_mem {args : Arguments} {key : String} :
    args.lookup key = none ↔ key ∉ args.map (·.1) := by
  rw [List.lookup_eq_none_iff, List.mem_map]
  constructor
  · rintro h ⟨p, hp, rfl⟩
    simpa using h p hp
  · intro h p hp
    exact bne_iff_ne.mpr fun hkey => h ⟨p, hp, hkey.symm⟩

theorem lookup_filter {keep : List String} {key : String} (hkey : key ∈ keep) (args : Arguments) :
    (args.filter (·.1 ∈ keep)).lookup key = args.lookup key := by
  induction args with
  | nil => rfl
  | cons p rest ih =>
      by_cases hp : p.1 ∈ keep
      · rw [List.filter_cons_of_pos (by simpa using hp), List.lookup_cons, List.lookup_cons, ih]
      · have hne : (key == p.1) = false := beq_eq_false_iff_ne.mpr (ne_of_mem_of_not_mem hkey hp)
        rw [List.filter_cons_of_neg (by simpa using hp), List.lookup_cons, hne, ih]

/-- There is an argument with the key, and it has a text. -/
def Gives (args : Arguments) (key : String) : Prop := ∃ a, args.lookup key = some a ∧ ¬a.IsLong

instance (args : Arguments) (key : String) : Decidable (args.Gives key) :=
  match h : args.lookup key with
  | some a => decidable_of_iff (¬a.IsLong) (by simp [Gives, h])
  | none => .isFalse (by simp [Gives, h])

theorem gives_iff {args : Arguments} {key : String} :
    args.Gives key ↔ ∃ s, args.shown key = .ok s := by
  simp only [Gives, shown_eq_ok_iff, ← Argument.exists_plain?_iff]
  exact ⟨fun ⟨a, ha, s, hs⟩ => ⟨s, a, ha, hs⟩, fun ⟨s, a, ha, hs⟩ => ⟨a, ha, s, hs⟩⟩

/-- Of arguments with different names it does not matter which of them comes first. -/
theorem lookup_perm {args args' : Arguments} (h : args.Perm args') (hnames : (args.map (·.1)).Nodup)
    (key : String) : args.lookup key = args'.lookup key := by
  induction h with
  | nil => rfl
  | cons p _ ih => rw [List.lookup_cons, List.lookup_cons, ih (List.nodup_cons.mp hnames).2]
  | swap p q rest =>
      obtain ⟨name, a⟩ := p
      obtain ⟨name', a'⟩ := q
      have hne : name' ≠ name := by
        rintro rfl
        simp at hnames
      by_cases hname : key = name
      · have hname' : (key == name') = false :=
          beq_eq_false_iff_ne.mpr fun hkey => hne (hkey ▸ hname)
        simp only [List.lookup_cons, hname']
      · have hname : (key == name) = false := beq_eq_false_iff_ne.mpr hname
        simp only [List.lookup_cons, hname]
  | trans h₁ _ ih₁ ih₂ =>
      rw [ih₁ hnames, ih₂ ((h₁.map _).nodup_iff.mp hnames)]

end Arguments

/-! ### The keys of a template -/

/-- The key that a field names, and those of the templates in its format, which `inner` gives. -/
def Field.keysWith (inner : List Char → List String) (f : Field) : List String :=
  .ofList f.key :: if '{' ∈ f.format then inner f.format else []

namespace Template

def keysWith (inner : List Char → List String) : Template → List String
  | done => []
  | malformed _ => []
  | literal _ rest => rest.keysWith inner
  | field f rest => f.keysWith inner ++ rest.keysWith inner

/-- The keys that the fields of a template name, in their order, those in formats included. -/
def keys (t : Template) : List String :=
  t.keysWith fun format => (ofChars format).keysWith fun _ => []

end Template

section Agreement

open Arguments (AgreeOn)

variable {left right : Arguments} {inner : List Char → List String}
  {expand expand' : List Char → Except TemplateFault (List Char)}

theorem Field.argument?_congr {key : List Char}
    (h : left.lookup (.ofList key) = right.lookup (.ofList key)) :
    argument? left key = argument? right key := by
  simp only [argument?, h]

theorem Field.fill_congr (hexpand : ∀ format, AgreeOn (inner format) left right →
      expand format = expand' format)
    (f : Field) (h : AgreeOn (f.keysWith inner) left right) :
    f.fill expand left = f.fill expand' right := by
  have hkey : argument? left f.key = argument? right f.key :=
    argument?_congr (h _ List.mem_cons_self)
  by_cases hformat : '{' ∈ f.format
  · have hinner : expand f.format = expand' f.format := by
      refine hexpand f.format fun key hmem => h key ?_
      rw [keysWith, if_pos hformat]
      exact List.mem_cons_of_mem _ hmem
    simp only [fill, hkey, hinner]
  · simp only [fill, hkey, if_neg hformat]

theorem Template.fillWith_congr (hexpand : ∀ format, AgreeOn (inner format) left right →
      expand format = expand' format)
    (t : Template) (h : AgreeOn (t.keysWith inner) left right) :
    t.fillWith expand left = t.fillWith expand' right := by
  induction t with
  | done => rfl
  | malformed fault => rfl
  | literal c rest ih => rw [fillWith, fillWith, ih h]
  | field f rest ih =>
      have hfield : AgreeOn (f.keysWith inner) left right :=
        fun key hmem => h key (List.mem_append_left _ hmem)
      have hrest : AgreeOn (rest.keysWith inner) left right :=
        fun key hmem => h key (List.mem_append_right _ hmem)
      rw [fillWith, fillWith, f.fill_congr hexpand hfield, ih hrest]

/-- A template is filled from its own keys only. A format is a template whose fields have plain
formats, so what fills it is the same lemma once more. -/
theorem Template.fill_congr (t : Template) (h : AgreeOn t.keys left right) :
    t.fill left = t.fill right := by
  have hexpand : ∀ format, AgreeOn ((ofChars format).keysWith fun _ => []) left right →
      expand left format = expand right format :=
    fun format => fillWith_congr (fun _ _ => rfl) (ofChars format)
  exact t.fillWith_congr hexpand h

end Agreement

/-! ### Plain pieces -/

namespace Piece

def key? : Piece → Option String
  | characters _ => none
  | argument key => some key

/-- The keys of the fields among some pieces, in their order. -/
def keys (ps : List Piece) : List String := ps.filterMap key?

/-- Pieces have values as long as every key among them gives one. -/
theorem exists_mapM_value_iff {args : Arguments} {ps : List Piece} :
    (∃ values, ps.mapM (value args) = .ok values) ↔ ∀ key ∈ keys ps, args.Gives key := by
  induction ps with
  | nil => exact iff_of_true ⟨[], rfl⟩ (by simp [keys])
  | cons p ps ih =>
      have hcons : (∃ values, (p :: ps).mapM (value args) = .ok values) ↔
          (∃ s, p.value args = .ok s) ∧ ∃ values, ps.mapM (value args) = .ok values := by
        simp only [mapM_value_cons_eq_ok_iff]
        constructor
        · rintro ⟨-, s, rest, hs, hrest, rfl⟩
          exact ⟨⟨s, hs⟩, rest, hrest⟩
        · rintro ⟨⟨s, hs⟩, rest, hrest⟩
          exact ⟨s :: rest, s, rest, hs, hrest, rfl⟩
      rw [hcons, ih]
      cases p with
      | characters s =>
          have hkeys : keys (characters s :: ps) = keys ps := rfl
          simp [hkeys, value]
      | argument key =>
          have hkeys : keys (argument key :: ps) = key :: keys ps := rfl
          rw [hkeys, List.forall_mem_cons, value, Arguments.gives_iff]

/-- The leftmost piece that comes to a fault decides. -/
theorem mapM_value_of_fault {args : Arguments} {front : List Piece} {p : Piece}
    {fault : TemplateFault} (hfront : ∀ key ∈ keys front, args.Gives key)
    (hp : p.value args = .error fault) (rest : List Piece) :
    (front ++ p :: rest).mapM (value args) = .error fault := by
  obtain ⟨values, hvalues⟩ := exists_mapM_value_iff.mpr hfront
  rw [List.mapM_append, hvalues, List.mapM_cons, hp]
  rfl

end Piece

/-! ### Texts of a catalog -/

namespace Catalog

section Pieces

variable {c : Catalog} {code : String} {args : Arguments} {ps : List Piece}

theorem format_pieces_ok_iff (hps : ∀ p ∈ ps, p.Plain)
    (htext : c.text? code = some (.ofList (ps.flatMap Piece.written)))
    (hargs : "code" ∉ args.map (·.1)) :
    (∃ s, c.format code args = .ok s) ↔ ∀ key ∈ Piece.keys ps, args.Gives key := by
  rw [format_pieces_eq hps htext hargs, ← Piece.exists_mapM_value_iff]
  cases ps.mapM (Piece.value args) <;> simp [Except.map, Except.mapError]

theorem format_pieces_of_fault {front rest : List Piece} {p : Piece} {fault : TemplateFault}
    (hps : ∀ p ∈ ps, p.Plain) (htext : c.text? code = some (.ofList (ps.flatMap Piece.written)))
    (hargs : "code" ∉ args.map (·.1)) (hpieces : ps = front ++ p :: rest)
    (hfront : ∀ key ∈ Piece.keys front, args.Gives key) (hp : p.value args = .error fault) :
    c.format code args = .error (.ofTemplate code (.ofList (ps.flatMap Piece.written)) fault) := by
  have hvalues : ps.mapM (Piece.value args) = .error fault := by
    rw [hpieces, Piece.mapM_value_of_fault hfront hp]
  rw [format_pieces_eq hps htext hargs, hvalues]
  rfl

end Pieces

theorem format_of_reserved {args : Arguments} (h : "code" ∈ args.map (·.1)) (c : Catalog)
    (code : String) : c.format code args = .error (.reservedName .format "code") := by
  have hclash : Operation.format.clash? args = some "code" := by
    cases hfind : Operation.format.clash? args with
    | none => exact absurd h (Operation.clash?_eq_none_iff.mp hfind "code" (by decide))
    | some name =>
        have hname : Operation.format.reserved.contains name := List.find?_some hfind
        simpa [Operation.reserved] using hname
  simp only [format, Operation.check, hclash, bind, Except.bind]

/-- The same from arguments that are the same where the text asks. The name that formatting has taken
for itself is asked for by every text. -/
theorem format_congr {c : Catalog} {code t : String} {args args' : Arguments}
    (ht : c.text? code = some t) (hcode : "code" ∈ args.map (·.1) ↔ "code" ∈ args'.map (·.1))
    (h : Arguments.AgreeOn (Template.ofChars t.toList).keys args args') :
    c.format code args = c.format code args' := by
  by_cases hargs : "code" ∈ args.map (·.1)
  · rw [format_of_reserved hargs, format_of_reserved (hcode.mp hargs)]
  · rw [format_of_text? ht hargs, format_of_text? ht (mt hcode.mpr hargs), Template.fill_congr _ h]

theorem format_perm {c : Catalog} {code t : String} {args args' : Arguments}
    (ht : c.text? code = some t) (hperm : args.Perm args') (hnames : (args.map (·.1)).Nodup) :
    c.format code args = c.format code args' :=
  format_congr ht (hperm.map (·.1)).mem_iff fun key _ => Arguments.lookup_perm hperm hnames key

theorem format_filter {c : Catalog} {code t : String} (ht : c.text? code = some t)
    (args : Arguments) :
    c.format code (args.filter (·.1 ∈ "code" :: (Template.ofChars t.toList).keys)) =
      c.format code args := by
  refine format_congr ht ?_ fun key hkey =>
    Arguments.lookup_filter (List.mem_cons_of_mem "code" hkey) args
  rw [← not_iff_not, ← Arguments.lookup_eq_none_iff_not_mem, ← Arguments.lookup_eq_none_iff_not_mem,
    Arguments.lookup_filter List.mem_cons_self]

/-- **What a text asks for.** A text in plain pieces can be filled exactly if the keys of all its fields
are there and none of them stands for an integer of more than 4300 digits. Otherwise the leftmost field
of these is reported. Any text whatever comes to the same, or to the same fault, from arguments that are
the same under the keys of its fields: so their order does not matter, and arguments that no field names
may be left out. -/
theorem format_depends_on_keys :
    (∀ (c : Catalog) (code : String) (ps : List Piece) (args : Arguments), (∀ p ∈ ps, p.Plain) →
      c.text? code = some (.ofList (ps.flatMap Piece.written)) → "code" ∉ args.map (·.1) →
        ((∃ s, c.format code args = .ok s) ↔ ∀ key ∈ Piece.keys ps, args.Gives key) ∧
        ∀ front key rest, ps = front ++ .argument key :: rest →
          (∀ k ∈ Piece.keys front, args.Gives k) →
            (key ∉ args.map (·.1) →
              c.format code args =
                .error (.missingArgument key code (.ofList (ps.flatMap Piece.written)))) ∧
            ∀ a, args.lookup key = some a → a.IsLong →
              c.format code args = .error (.template (.format .longInteger))) ∧
    ∀ (c : Catalog) (code t : String), c.text? code = some t →
      (∀ args args' : Arguments, ("code" ∈ args.map (·.1) ↔ "code" ∈ args'.map (·.1)) →
        Arguments.AgreeOn (Template.ofChars t.toList).keys args args' →
          c.format code args = c.format code args') ∧
      (∀ args args' : Arguments, args.Perm args' → (args.map (·.1)).Nodup →
        c.format code args = c.format code args') ∧
      ∀ args : Arguments,
        c.format code (args.filter (·.1 ∈ "code" :: (Template.ofChars t.toList).keys)) =
          c.format code args := by
  refine ⟨fun c code ps args hps htext hargs => ⟨format_pieces_ok_iff hps htext hargs, ?_⟩,
    fun c code t ht => ⟨?_, ?_, format_filter ht⟩⟩
  · intro front key rest hpieces hfront
    constructor
    · intro habsent
      exact format_pieces_of_fault hps htext hargs hpieces hfront
        (Arguments.shown_of_absent (Arguments.lookup_eq_none_iff_not_mem.mpr habsent))
    · intro a ha hlong
      exact format_pieces_of_fault hps htext hargs hpieces hfront (Arguments.shown_of_isLong ha hlong)
  · exact fun args args' hcode hagree => format_congr ht hcode hagree
  · exact fun args args' hperm hnames => format_perm ht hperm hnames

theorem format_depends_on_keys_in_formats :
    (single "T" "\x7b\x7b\x7bpath\x7d \x7breason\x7d\x7bname\x7d").format "T"
        [("path", .text "\x7bname\x7d")] =
      .error (.missingArgument "reason" "T" "\x7b\x7b\x7bpath\x7d \x7breason\x7d\x7bname\x7d") ∧
    (single "T" "\x7b\x7b\x7bpath\x7d \x7breason\x7d\x7bname\x7d").format "T"
        [("reason", .integer (Text.powerOfTen 4300)), ("path", .boolean true)] =
      .error (.template (.format .longInteger)) ∧
    (∃ s, (single "T" "\x7b\x7b\x7bpath\x7d \x7breason\x7d\x7bname\x7d").format "T"
      [("reason", .absent), ("name", .integer 3), ("path", .text "\x7b")] = .ok s) ∧
    (Template.ofChars "\x7bpath!r:>\x7bwidth\x7d\x7d".toList).keys = ["path", "width"] ∧
    Arguments.AgreeOn ["path", "width"] [("path", .text "x"), ("width", .integer 5)]
      [("colour", .absent), ("width", .integer 5), ("path", .text "x")] ∧
    (single "T" "\x7bpath!r:>\x7bwidth\x7d\x7d").format "T"
        [("path", .text "x"), ("width", .integer 5)] =
      (single "T" "\x7bpath!r:>\x7bwidth\x7d\x7d").format "T"
        [("colour", .absent), ("width", .integer 5), ("path", .text "x")] := by
  obtain ⟨hpieces, hagreement⟩ := format_depends_on_keys
  have hplain : ∀ p ∈ [Piece.characters "\x7b", .argument "path", .characters " ",
      .argument "reason", .argument "name"], p.Plain := by
    decide
  have hkeys : (Template.ofChars "\x7bpath!r:>\x7bwidth\x7d\x7d".toList).keys = ["path", "width"] := by
    decide
  have hagree : Arguments.AgreeOn ["path", "width"] [("path", .text "x"), ("width", .integer 5)]
      [("colour", .absent), ("width", .integer 5), ("path", .text "x")] := by
    decide
  have hlong : (Argument.integer (Text.powerOfTen 4300)).IsLong :=
    Argument.isLong_integer_iff.mpr (Text.lt_digitCount_powerOfTen (by decide))
  refine ⟨?_, ?_, ?_, hkeys, hagree, ?_⟩
  · exact ((hpieces _ "T" _ _ hplain rfl (by decide)).2 [.characters "\x7b", .argument "path",
      .characters " "] "reason" [.argument "name"] rfl (by decide)).1 (by decide)
  · exact ((hpieces _ "T" _ _ hplain rfl (by simp)).2 [.characters "\x7b", .argument "path",
      .characters " "] "reason" [.argument "name"] rfl (by decide)).2 _ rfl hlong
  · exact (hpieces _ "T" _ _ hplain rfl (by decide)).1.mpr (by decide)
  · exact (hagreement _ "T" _ rfl).1 _ _ (by decide) (hkeys ▸ hagree)

/-- A key with more digits in front than a number can have names no argument, whether there is one of
that name or not. And an integer of 4301 digits is refused although its key is there. -/
theorem format_key_of_too_many_digits :
    ("9223372036854775808 bytes".toList ≠ [] ∧
      Text.index? "9223372036854775808 bytes".toList = none ∧
      "9223372036854775808 bytes".toList.all (· ∉ ['{', '}', '!', ':', '.', '['])) ∧
    (single "T" "\x7b9223372036854775808 bytes\x7d").format "T"
        [("9223372036854775808 bytes", .text "v")] =
      .error (.template .tooManyDigits) ∧
    (single "T" "\x7b9223372036854775808 bytes\x7d").format "T" [] =
      .error (.template .tooManyDigits) ∧
    (single "T" "\x7bsize\x7d").format "T" [("size", .integer (Text.powerOfTen 4300))] =
      .error (.template (.format .longInteger)) := by
  have hlong : 4300 < Text.digitCount (Text.powerOfTen 4300) :=
    Text.lt_digitCount_powerOfTen (by decide)
  exact ⟨by decide, by decide, by decide, format_long_integer hlong⟩

end Catalog

end SizeHeader
