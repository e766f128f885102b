import Mathlib
import SizeHeader.Proofs.WrittenLines

/-!
# Written documents

Documents of tables whose values are strings. The statements of such a document build exactly the tables
that were written, whatever else its lines hold: names and keys are pairwise distinct, so every header
opens a table of its own, and every key below it is new there.
-/

namespace SizeHeader.Toml

namespace Entries

variable {key : String} {v : Value} {entries : Entries}

theorem set_append (h : entries.lookup key = none) (v : Value) (rest : Entries) :
    set key v (entries ++ rest) = entries ++ set key v rest := by
  induction entries with
  | nil => rfl
  | cons entry entries ih =>
    obtain ⟨k, w⟩ := entry
    rw [lookup_cons] at h
    split at h
    next => cases h
    next hne => rw [List.cons_append, set, if_neg (Ne.symm hne), ih h, List.cons_append]

theorem lookup_append_cons (h : entries.lookup key = none) (v : Value) (rest : Entries) :
    (entries ++ (key, v) :: rest).lookup key = some v := by
  rw [List.lookup_append, h, lookup_cons, if_pos rfl, Option.none_or]

theorem lookup_eq_none {name : String} (h : name ∉ entries.map (·.1)) : entries.lookup name = none := by
  rw [List.lookup_eq_none_iff]
  intro entry hentry
  rw [bne_iff_ne]
  rintro rfl
  exact h (List.mem_map_of_mem hentry)

theorem lookup_before {rest : Entries} (hkeys : ((entries ++ (key, v) :: rest).map (·.1)).Nodup) :
    entries.lookup key = none := by
  apply lookup_eq_none
  rw [List.map_append, List.map_cons, List.nodup_append] at hkeys
  exact fun hmem => hkeys.2.2 key hmem key List.mem_cons_self rfl

theorem lookup_of_mem (hkeys : (entries.map (·.1)).Nodup) (h : (key, v) ∈ entries) :
    entries.lookup key = some v := by
  obtain ⟨before, after, rfl⟩ := List.append_of_mem h
  exact lookup_append_cons (lookup_before hkeys) v after

end Entries

/-! ### Building tables -/

namespace Builder

theorem insert_new {name key : String} {before inner : Entries} {part : Nat} {v : Value}
    (hname : before.lookup name = none) (hkey : inner.lookup key = none) :
    insert ⟨before ++ [(name, .table .header inner)], [name], part⟩ [key] v =
      some ⟨before ++ [(name, .table .header (inner ++ [(key, v)]))], [name], part⟩ := by
  have hinner : inner.insert part v [key] = some (inner ++ [(key, v)]) := by
    rw [Entries.insert, hkey]
  simp [insert, Entries.modify, Entries.lookup_append_cons hname, Value.withEntries, hinner,
    Entries.set_append hname, Entries.set]

/-- The pairs below the header of a table. -/
theorem applyAll_pairs {name : String} {before pairs : Entries} {part : Nat}
    (hname : before.lookup name = none) (inner : Entries) (hkeys : ((inner ++ pairs).map (·.1)).Nodup) :
    applyAll ⟨before ++ [(name, .table .header inner)], [name], part⟩
        (pairs.map fun pair => .pair [pair.1] pair.2) =
      some ⟨before ++ [(name, .table .header (inner ++ pairs))], [name], part⟩ := by
  induction pairs generalizing inner with
  | nil => rw [List.append_nil, List.map_nil, applyAll_nil]
  | cons pair pairs ih =>
    obtain ⟨key, v⟩ := pair
    have hkey : inner.lookup key = none := Entries.lookup_before hkeys
    rw [List.append_cons] at hkeys
    rw [List.map_cons, applyAll_cons, apply, insert_new hname hkey, Option.bind_some, ih _ hkeys,
      ← List.append_cons]

theorem applyAll_append (b : Builder) (statements others : List Statement) :
    b.applyAll (statements ++ others) = (b.applyAll statements).bind (·.applyAll others) :=
  List.foldlM_append

theorem applyAll_table {b : Builder} {name : String} (hname : b.entries.lookup name = none)
    {pairs : Entries} (hkeys : (pairs.map (·.1)).Nodup) :
    b.applyAll (.header [name] :: pairs.map fun pair => .pair [pair.1] pair.2) =
      some ⟨b.entries ++ [(name, .table .header pairs)], [name], b.part + 1⟩ := by
  have hopen : b.openHeader [name] Value.opened =
      some ⟨b.entries ++ [(name, .table .header [])], [name], b.part + 1⟩ := by
    have hset := Entries.set_append hname (.table .header []) []
    rw [List.append_nil] at hset
    simp [openHeader, Entries.modify, hname, Value.opened, hset, Entries.set]
  rw [applyAll_cons, apply, hopen, Option.bind_some]
  exact applyAll_pairs hname [] hkeys

end Builder

structure Table where
  header : Row Header
  rows : List (Row (Option Pair))
  keys_nodup : ((rows.filterMap (·.content)).map (·.key.text)).Nodup

namespace Table

def name (t : Table) : String := t.header.content.name.text

/-- The strings of a table under their keys. -/
def texts (t : Table) : List (String × String) :=
  (t.rows.filterMap (·.content)).map fun pair => (pair.key.text, pair.value.value)

def lines (t : Table) : List (Row Content) :=
  t.header.map .header :: t.rows.map (Row.map .ofPair?)

def inner (t : Table) : Entries := t.texts.map fun text => (text.1, .text text.2)

def entry (t : Table) : String × Value := (t.name, .table .header t.inner)

def statements (t : Table) : List Statement :=
  .header [t.name] :: t.inner.map fun pair => .pair [pair.1] pair.2

theorem filterMap_lines (t : Table) : t.lines.filterMap Row.statement? = t.statements := by
  have hrows : (t.rows.map (Row.map .ofPair?)).filterMap Row.statement? =
      t.inner.map fun pair => .pair [pair.1] pair.2 := by
    rw [inner, texts, List.map_map, List.map_map, List.map_filterMap, List.filterMap_map]
    congr 1
    funext row
    rw [Function.comp, Row.statement?, Row.map]
    cases row.content <;> rfl
  have hheader : Row.statement? (t.header.map .header) = some (.header [t.name]) := rfl
  rw [lines, List.filterMap_cons_some hheader, hrows, statements]

theorem keys_inner_nodup (t : Table) : (t.inner.map (·.1)).Nodup := by
  rw [inner, texts, List.map_map, List.map_map]
  exact t.keys_nodup

theorem applyAll_statements {b : Builder} {t : Table} (hname : b.entries.lookup t.name = none) :
    b.applyAll t.statements = some ⟨b.entries ++ [t.entry], [t.name], b.part + 1⟩ :=
  Builder.applyAll_table hname t.keys_inner_nodup

theorem applyAll_flatMap_statements {b : Builder} {tables : List Table}
    (hnames : ((b.entries ++ tables.map entry).map (·.1)).Nodup) :
    (b.applyAll (tables.flatMap statements)).map (·.entries) = some (b.entries ++ tables.map entry) := by
  induction tables generalizing b with
  | nil => rw [List.flatMap_nil, Builder.applyAll_nil, List.map_nil, List.append_nil, Option.map_some]
  | cons t tables ih =>
    have hname : b.entries.lookup t.name = none := Entries.lookup_before hnames
    rw [List.map_cons, List.append_cons] at hnames ⊢
    rw [List.flatMap_cons, Builder.applyAll_append, applyAll_statements hname, Option.bind_some]
    exact ih hnames

end Table

/-- Lines without content, and tables behind them. -/
structure Document where
  opening : List (Row Unit)
  tables : List Table
  names_nodup : (tables.map (·.name)).Nodup
  terminated : Bool

namespace Document

def lines (d : Document) : List (Row Content) :=
  d.opening.map (Row.map fun _ => Content.nothing) ++ d.tables.flatMap (·.lines)

def text (d : Document) : String := .ofList (Row.text d.terminated d.lines)

theorem filterMap_lines (d : Document) :
    d.lines.filterMap Row.statement? = d.tables.flatMap (·.statements) := by
  have hopening : (d.opening.map (Row.map fun _ => Content.nothing)).filterMap Row.statement? = [] := by
    rw [List.filterMap_map, List.filterMap_eq_nil_iff]
    exact fun _ _ => rfl
  rw [lines, List.filterMap_append, hopening, List.nil_append, List.filterMap_flatMap]
  congr 1
  funext t
  exact t.filterMap_lines

/-- A document is read as the tables that were written. -/
theorem document_text (d : Document) : document d.text = .ok (d.tables.map (·.entry)) := by
  rw [document_eq_ok_iff]
  refine ⟨_, Row.ofText_text d.terminated d.lines, ?_⟩
  rw [d.filterMap_lines]
  apply Table.applyAll_flatMap_statements
  rw [List.nil_append, List.map_map]
  exact d.names_nodup

end Document

end SizeHeader.Toml
