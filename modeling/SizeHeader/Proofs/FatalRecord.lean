import SizeHeader.Proofs.GrowingCatalog
import SizeHeader.Proofs.RunSteps

/-!
# Fatal errors are told twice

A fatal error gets its text when it arises, and recording it asks the catalog for the text once more.
Nothing that is done in between can change the answer: a catalog only grows, and the error itself
brings the code, the arguments, the severity and the exit status. What can still go wrong is an argument
whose name recording has taken for itself.
-/

namespace SizeHeader

/-- The messages there are so far, and what has been recorded of them. -/
structure Desk where
  catalog : Catalog
  report : Report
deriving DecidableEq

namespace Desk

def add (d : Desk) (m : Message) : Except DuplicateCode Unit × Desk :=
  let (result, catalog) := d.catalog.step m
  (result, { d with catalog })

def emit (d : Desk) (m : Message) (args : Arguments) : Except MessageFault Unit × Desk :=
  match d.report.emit d.catalog m args with
  | .ok report => (.ok (), { d with report })
  | .error fault => (.error fault, d)

def raise (d : Desk) (kind : FatalKind) (m : Message) (args : Arguments) :
    Except MessageFault FatalError × Desk :=
  (FatalError.make d.catalog kind m args, d)

/-- Records a fatal error, and returns its exit status. -/
def record (d : Desk) (e : FatalError) : Except MessageFault Int × Desk :=
  match d.report.emitFatal d.catalog e with
  | .ok report => (.ok e.exitCode, { d with report })
  | .error fault => (.error fault, d)

inductive Call where
  | add (m : Message)
  | emit (m : Message) (args : Arguments)
  | raise (kind : FatalKind) (m : Message) (args : Arguments)
  | record (e : FatalError)

def after (d : Desk) : Call → Desk
  | .add m => (d.add m).2
  | .emit m args => (d.emit m args).2
  | .raise kind m args => (d.raise kind m args).2
  | .record e => (d.record e).2

/-- The desk after some calls. A call that fails does not keep the next ones from being made. -/
def run (d : Desk) (calls : List Call) : Desk := calls.foldl after d

/-! ### The catalog in between -/

def Call.added : Call → List Message
  | add m => [m]
  | _ => []

theorem catalog_emit (d : Desk) (m : Message) (args : Arguments) :
    (d.emit m args).2.catalog = d.catalog := by
  unfold emit
  cases d.report.emit d.catalog m args <;> rfl

theorem catalog_record (d : Desk) (e : FatalError) : (d.record e).2.catalog = d.catalog := by
  unfold record
  cases d.report.emitFatal d.catalog e <;> rfl

theorem catalog_after (d : Desk) (call : Call) :
    (d.after call).catalog = d.catalog.addAll call.added := by
  cases call with
  | add m => rfl
  | emit m args => exact d.catalog_emit m args
  | raise kind m args => rfl
  | record e => exact d.catalog_record e

theorem catalog_run (d : Desk) (calls : List Call) :
    (d.run calls).catalog = d.catalog.addAll (calls.flatMap Call.added) := by
  induction calls generalizing d with
  | nil => rfl
  | cons call rest ih =>
      change ((d.after call).run rest).catalog = _
      rw [ih, catalog_after, List.flatMap_cons, Catalog.addAll_append]

/-- What the catalog has told once it tells after any calls. -/
theorem format_run {d : Desk} {code text : String} {args : Arguments}
    (h : d.catalog.format code args = .ok text) (calls : List Call) :
    (d.run calls).catalog.format code args = .ok text := by
  have hmem : code ∈ d.catalog.codes := Catalog.mem_codes_of_format h
  rw [catalog_run, Catalog.format_addAll hmem, h]

end Desk

/-! ### Raising and recording -/

/-- Of the names that recording has taken, raising leaves over only one. -/
theorem Operation.clash?_emit_of_fatal {args : Arguments}
    (hcheck : Operation.fatal.check args = .ok ()) :
    Operation.emit.clash? args = if "r" ∈ args.map (·.1) then some "r" else none := by
  cases hclash : Operation.emit.clash? args with
  | none =>
    have hr : "r" ∉ args.map (·.1) := clash?_eq_none_iff.mp hclash "r" (by decide)
    rw [if_neg hr]
  | some name =>
    have hem : "em" ∉ args.map (·.1) := check_eq_ok_iff.mp hcheck "em" (by decide)
    have hmem : name ∈ args.map (·.1) := List.mem_of_find?_eq_some hclash
    have hreserved : Operation.emit.reserved.contains name := List.find?_some hclash
    have hcases : name = "r" ∨ name = "em" := by simpa [reserved] using hreserved
    obtain rfl | rfl := hcases
    · rw [if_pos hmem]
    · exact absurd hmem hem

namespace Desk

theorem raise_eq (d : Desk) (kind : FatalKind) (m : Message) (args : Arguments) :
    d.raise kind m args =
      ((Operation.fatal.check args *> d.catalog.format m.code args).map (⟨kind, m, args, ·⟩), d) := by
  rw [raise, FatalError.make_eq]

theorem record_of_clash {d : Desk} {e : FatalError} {name : String}
    (hclash : Operation.emit.clash? e.arguments = some name) :
    d.record e = (.error (.reservedName .emit name), d) := by
  have hcheck : Operation.emit.check e.arguments = .error (.reservedName .emit name) := by
    rw [Operation.check, hclash]
  have hemit : d.report.emitFatal d.catalog e = .error (.reservedName .emit name) := by
    rw [Report.emitFatal, Report.emit_eq, hcheck]
    rfl
  simp only [record, hemit]

theorem record_of_format {d : Desk} {e : FatalError} {text : String}
    (hclash : Operation.emit.clash? e.arguments = none)
    (hformat : d.catalog.format e.message.code e.arguments = .ok text) :
    d.record e = (.ok e.exitCode,
      { d with report := d.report.record e.message.severity.name e.message.code text }) := by
  have hcheck : Operation.emit.check e.arguments = .ok () := by
    rw [Operation.check, hclash]
  have hemit := d.report.emit_of_format hcheck hformat
  simp only [record, Report.emitFatal, hemit]

theorem record_of_raised {d : Desk} {e : FatalError} {text : String}
    (hcheck : Operation.fatal.check e.arguments = .ok ())
    (hformat : d.catalog.format e.message.code e.arguments = .ok text) :
    d.record e =
      if "r" ∈ e.arguments.map (·.1) then (.error (.reservedName .emit "r"), d)
      else (.ok e.exitCode, { d with
        report.items := d.report.items ++
          [⟨if e.message.severity = .error then "error" else "note", e.message.code, text⟩] }) := by
  have hclash := Operation.clash?_emit_of_fatal hcheck
  by_cases hr : "r" ∈ e.arguments.map (·.1)
  · rw [if_pos hr] at hclash ⊢
    exact record_of_clash hclash
  · rw [if_neg hr] at hclash ⊢
    have hkind : e.message.severity.name =
        if e.message.severity = .error then "error" else "note" := by
      cases e.message.severity <;> rfl
    rw [record_of_format hclash hformat, ← hkind]
    rfl

/-- **Told twice.** A fatal error is raised where the catalog has a text for it, and nothing else
changes then, nor does anything where it cannot be raised. Whatever is added, told, raised or recorded
afterwards, recording the error tells that text again, once, as the kind of the message that was given,
and returns the exit status of that message. Only an argument that is named like the report keeps it
from being recorded. -/
theorem raise_then_record (d : Desk) (kind : FatalKind) (m : Message) (args : Arguments) :
    match Operation.fatal.check args *> d.catalog.format m.code args with
    | .error fault => d.raise kind m args = (.error fault, d)
    | .ok text =>
      ∃ e : FatalError, d.raise kind m args = (.ok e, d) ∧ e.kind = kind ∧
        e.describe = m.code ++ ": " ++ text ∧
        ∀ calls : List Call,
          let later : Desk := d.run calls
          later.record e =
            if "r" ∈ args.map (·.1) then (.error (.reservedName .emit "r"), later)
            else (.ok m.exitCode, { later with
              report.items := later.report.items ++
                [⟨if m.severity = .error then "error" else "note", m.code, text⟩] }) := by
  have hraise := d.raise_eq kind m args
  cases hcheck : Operation.fatal.check args with
  | error fault =>
    rw [hcheck] at hraise
    exact hraise
  | ok _ =>
    cases hformat : d.catalog.format m.code args with
    | error fault =>
      rw [hcheck, hformat] at hraise
      exact hraise
    | ok text =>
      rw [hcheck, hformat] at hraise
      refine ⟨⟨kind, m, args, text⟩, hraise, rfl, rfl, ?_⟩
      intro calls later
      exact record_of_raised hcheck (format_run hformat calls)

end Desk

end SizeHeader
