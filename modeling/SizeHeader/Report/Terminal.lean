/-!
When to use colour: on terminals that can show it and where the user has not declined it.
-/

namespace SizeHeader

structure Environment where
  noColor : Option String := none
  term : Option String := none
deriving DecidableEq, Repr

/-- A stream that diagnostics go to. Some streams cannot say whether they are terminals. -/
structure OutputStream where
  isTerminal : Option Bool
deriving DecidableEq, Repr

/-- Colour is declined by `noColor`, whatever its value, and by the terminal `dumb`. -/
def Environment.allowsColour (env : Environment) : Bool :=
  env.noColor.isNone && env.term ≠ some "dumb"

/-- An explicit choice decides alone. -/
def OutputStream.usesColour (stream : OutputStream) (env : Environment) (choice : Option Bool) : Bool :=
  choice.getD (stream.isTerminal = some true && env.allowsColour)

theorem OutputStream.usesColour_eq_true_iff {stream : OutputStream} {env : Environment}
    {choice : Option Bool} :
    stream.usesColour env choice = true ↔
      choice = some true ∨ choice = none ∧ stream.isTerminal = some true ∧ env.noColor = none ∧
        env.term ≠ some "dumb" := by
  cases choice with
  | none => simp [usesColour, Environment.allowsColour]
  | some wanted => simp [usesColour]

end SizeHeader
