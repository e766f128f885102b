import SizeHeader.Toml.Moment
import SizeHeader.Toml.Number

/-!
TOML values and the building of tables from the statements of a document. Every table remembers what
made it, since that decides which later statement may still add to it.
-/

namespace SizeHeader.Toml

inductive Origin where
  /-- Passed through by the header of a table inside it. -/
  | implied
  /-- Passed through by a dotted key in the numbered part of the document. -/
  | dotted (part : Nat)
  | header
  /-- Written in braces, and closed with them. -/
  | inline
deriving DecidableEq, Repr

inductive Value where
  | text (s : String)
  | integer (n : Int)
  | real (r : Real)
  | boolean (b : Bool)
  | moment (kind : Moment) (text : String)
  | array (items : List Value)
  | table (origin : Origin) (entries : List (String × Value))
  /-- An array of tables that grows by headers: the tables before the current one, and the entries
  of the current one. -/
  | tables (earlier : List Value) (current : List (String × Value))

abbrev Entries := List (String × Value)

namespace Entries

def set (key : String) (v : Value) : Entries → Entries
  | [] => [(key, v)]
  | (k, w) :: rest => if k = key then (key, v) :: rest else (k, w) :: set key v rest

/-- Adds a value under a dotted key, in the part of the document with this number. A key must be
new, and of the tables on its way only those that a dotted key of the same part has made, or that no
statement has named, may be added to. -/
def insert (part : Nat) (v : Value) : List String → Entries → Option Entries
  | [], _ => none
  | [key], entries =>
    match entries.lookup key with
    | none => some (entries ++ [(key, v)])
    | some _ => none
  | key :: rest, entries =>
    match entries.lookup key with
    | none => do return entries ++ [(key, .table (.dotted part) (← insert part v rest []))]
    | some (.table .implied inner) => do
      return entries.set key (.table (.dotted part) (← insert part v rest inner))
    | some (.table (.dotted other) inner) =>
      if other = part then do
        return entries.set key (.table (.dotted part) (← insert part v rest inner))
      else none
    | some _ => none

/-- Changes what a header names, and makes the tables on the way to it. -/
def modify (f : Option Value → Option Value) : List String → Entries → Option Entries
  | [], _ => none
  | [key], entries => do return entries.set key (← f (entries.lookup key))
  | key :: rest, entries =>
    match entries.lookup key with
    | none => do return entries.set key (.table .implied (← modify f rest []))
    | some (.table .inline _) => none
    | some (.table origin inner) => do
      return entries.set key (.table origin (← modify f rest inner))
    | some (.tables earlier current) => do
      return entries.set key (.tables earlier (← modify f rest current))
    | some _ => none

end Entries

namespace Value

def opened : Option Value → Option Value
  | none => some (.table .header [])
  | some (.table .implied entries) => some (.table .header entries)
  | some _ => none

/-- An array of tables with one more table, which becomes the current one. -/
def grown : Option Value → Option Value
  | none => some (.tables [] [])
  | some (.tables earlier current) => some (.tables (earlier ++ [.table .header current]) [])
  | some _ => none

/-- The table that statements below its header add to, changed. -/
def withEntries (f : Entries → Option Entries) : Option Value → Option Value
  | some (.table origin entries) => do return .table origin (← f entries)
  | some (.tables earlier current) => do return .tables earlier (← f current)
  | _ => none

def typeName : Value → String
  | text _ => "str"
  | integer _ => "int"
  | real _ => "float"
  | boolean _ => "bool"
  | moment .date _ => "datetime.date"
  | moment .dateTime _ => "datetime.datetime"
  | moment .time _ => "datetime.time"
  | array _ => "list"
  | table _ _ => "dict"
  | tables _ _ => "list"

end Value

end SizeHeader.Toml
