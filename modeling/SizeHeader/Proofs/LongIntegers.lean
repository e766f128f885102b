import Mathlib
import SizeHeader.Toml.Document

/-!
# Long integers

The only fault of a document that is not of its form: an integer whose digits are more than the reader
converts. Every reader hands on the faults of the readers it is made of, and adds none but malformed
texts, so whatever text is read, a count of digits that is reported is above the greatest one.
-/

namespace SizeHeader.Toml

/-- What a reader reports as too long has more digits than an integer can have. -/
def ReportsLong {α : Type} (x : Except Fault α) : Prop :=
  ∀ digits, x = .error (.longInteger digits) → Text.maxDigits < digits

namespace ReportsLong

variable {α β : Type}

theorem ok (a : α) : ReportsLong (.ok a) := by
  rintro digits ⟨⟩

theorem malformed : ReportsLong (.error .malformed : Except Fault α) := by
  rintro digits ⟨⟩

theorem orMalformed (o : Option α) : ReportsLong (orMalformed o) := by
  cases o with
  | none => exact malformed
  | some a => exact ok a

theorem bind {x : Except Fault α} {f : α → Except Fault β} (hx : ReportsLong x)
    (hf : ∀ a, ReportsLong (f a)) : ReportsLong (x >>= f) := by
  cases x with
  | error fault => exact fun digits h => hx digits (congrArg Except.error (Except.error.inj h))
  | ok a => exact hf a

theorem scalar (s : List Char) : ReportsLong (scalar s) := by
  unfold Toml.scalar
  split
  · exact ok _
  · exact ok _
  split
  · exact ok _
  split
  · split
    next hlong =>
      rintro digits ⟨⟩
      exact hlong
    · exact ok _
  · exact ok _
  · exact malformed

theorem value_items_pairs (n : Nat) :
    (∀ s, ReportsLong (value n s)) ∧ (∀ s, ReportsLong (items n s)) ∧
      ∀ entries s, ReportsLong (pairs n entries s) := by
  induction n with
  | zero => exact ⟨fun _ => malformed, fun _ => malformed, fun _ _ => malformed⟩
  | succ n ih =>
    obtain ⟨hvalue, hitems, hpairs⟩ := ih
    refine ⟨fun s => ?_, fun s => ?_, fun entries s => ?_⟩
    · cases s with
      | nil => exact malformed
      | cons c rest =>
        unfold value
        split
        · exact (orMalformed _).bind fun _ => ok _
        split
        · exact (orMalformed _).bind fun _ => (hitems _).bind fun _ => ok _
        split
        · split
          · exact ok _
          · exact (hpairs _ _).bind fun _ => ok _
        · exact scalar _
    · by_cases hs : ∃ rest, s = ']' :: rest
      · obtain ⟨rest, rfl⟩ := hs
        exact ok _
      rw [items.eq_3 s n fun rest h => hs ⟨rest, h⟩]
      refine (hvalue _).bind fun (v, rest) => ?_
      dsimp only
      refine (orMalformed _).bind fun rest => ?_
      split
      · exact ok _
      · exact (orMalformed _).bind fun _ => (hitems _).bind fun _ => ok _
      · exact malformed
    · unfold pairs
      refine (orMalformed _).bind fun (key, rest) => ?_
      dsimp only
      split
      · refine (hvalue _).bind fun (v, rest) => (orMalformed _).bind fun entries => ?_
        dsimp only
        split
        · exact ok _
        · exact hpairs _ _
        · exact malformed
      · exact malformed

theorem statement (b : Builder) (s : List Char) : ReportsLong (b.statement s) := by
  unfold Builder.statement
  split
  · refine (orMalformed _).bind fun (header, rest) => ?_
    dsimp only
    split
    · exact (orMalformed _).bind fun _ => ok _
    · exact malformed
  · refine (orMalformed _).bind fun (header, rest) => ?_
    dsimp only
    split
    · exact (orMalformed _).bind fun _ => ok _
    · exact malformed
  · refine (orMalformed _).bind fun (key, rest) => ?_
    dsimp only
    split
    · exact ((value_items_pairs _).1 _).bind fun _ => (orMalformed _).bind fun _ => ok _
    · exact malformed

theorem lines (b : Builder) (n : Nat) (s : List Char) : ReportsLong (b.lines n s) := by
  induction n generalizing b s with
  | zero => exact malformed
  | succ n ih =>
    unfold Builder.lines
    split
    · exact ok _
    · exact ih _ _
    · exact (orMalformed _).bind fun _ => ih _ _
    · exact (statement _ _).bind fun _ => (orMalformed _).bind fun _ => ih _ _

theorem document (s : String) : ReportsLong (document s) := lines {} _ _

end ReportsLong

end SizeHeader.Toml
