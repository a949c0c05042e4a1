import Conformance.Proofs.Text.Lexemes
import Conformance.Report.Duration

namespace Conformance

/-!
# Doubles as bare words

A double is written in digits with a point or an exponent, so it can be told from
the punctuation around it.
-/

namespace Decimal

open Text

theorem zeros_bare (count : Int) : Bare (Notation.zeros count) := by
  intro character member
  obtain rfl := List.eq_of_mem_replicate member
  rfl

theorem repr_bare (number : Nat) : Bare number.repr.toList := by
  rw [Nat.repr, String.toList_ofList]
  exact .digits number

/-- A whole number is written in digits, perhaps behind a sign. -/
theorem toString_bare (number : Int) : Bare (toString number).toList := by
  cases number with
  | ofNat number => exact repr_bare number
  | negSucc number =>
      change Bare ("-" ++ Nat.repr (number + 1)).toList
      rw [String.toList_append]
      exact .append (by decide) (repr_bare (number + 1))

/-- A written number is a bare word. -/
theorem Notation.write_bare (style : Notation) (number : Digits) :
    Bare (style.write number).toList := by
  unfold write
  dsimp only
  split
  · decide
  rw [String.toList_ofList]
  have written := Bare.digits number.normal.digits
  split
  · exact (written.append (zeros_bare _)).append (by decide)
  split
  · refine .append (.append ?_ (by decide)) ?_
    · exact fun _ member => written _ (List.mem_of_mem_take member)
    · exact fun _ member => written _ (List.mem_of_mem_drop member)
  split
  · exact .append (.append (by decide) (zeros_bare _)) written
  · refine .append (.append ?_ (by decide)) (toString_bare _)
    cases digits : Nat.toDigits 10 number.normal.digits with
    | nil => exact nofun
    | cons first rest =>
        rw [digits] at written
        obtain ⟨firstBare, restBare⟩ := List.forall_mem_cons.mp written
        cases rest with
        | nil => exact written
        | cons second others =>
            exact List.forall_mem_cons.mpr
              ⟨firstBare, List.forall_mem_cons.mpr ⟨rfl, restBare⟩⟩

theorem Notation.write_ne_nil (style : Notation) (number : Digits) :
    (style.write number).toList ≠ [] := by
  unfold write
  dsimp only
  split
  · decide
  rw [String.toList_ofList]
  split
  · simp
  split
  · simp
  split <;> simp

end Decimal

/--
Every double is written as a bare word, so that it can be told from the
punctuation around it.
-/
def JsonLines.WritesWords (number : Float → String) : Prop :=
  ∀ value, (Text.Scalar.decimal (number value)).Legible

/-- The fewest digits that give a double back are a bare word. -/
theorem writesWords_doubleText : JsonLines.WritesWords doubleText :=
  fun _ => .decimal (Decimal.Notation.write_bare _ _) (Decimal.Notation.write_ne_nil _ _)

end Conformance
