import Conformance.Proofs.Program.Moments
import Conformance.Program.GroupLookup

namespace Conformance

/-!
# Values as integers

Where an integer is needed, an integer stands for itself, and an object that responds
to the conversion is sent one message.  Nothing else is asked, and nothing else gives
an integer.  `IntegerConversion` lists the ways in which the conversion ends.
-/

/-- A value is an object that responds to the conversion into an integer. -/
inductive Value.IntegerSource
    {Label : Type}
    (store : Store Label) :
    Value → ObjectRef → Prop where
  | intro
      {reference : ObjectRef}
      (responds : store.respondsTo "to_int" reference = true) :
      IntegerSource store (.object reference) reference

/-- The integer that a value is or answers, with the scene that its conversion leaves. -/
inductive Value.GivesInteger
    {World Label : Type}
    (invoke : Invoke World Label)
    (before : Scene World Label) :
    Value → Int64 → Scene World Label → Prop where
  | itself (number : Int64) :
      GivesInteger invoke before (.integer number) number before
  | answered
      {value : Value}
      {reference : ObjectRef}
      {number : Int64}
      {reached : Scene World Label}
      (source : value.IntegerSource before.store reference)
      (sent :
        reference.send invoke "to_int" [] before =
          (.returned (.integer number), reached)) :
      GivesInteger invoke before value number reached

/--
The error that comes of a value that gives no integer, with the
scene that is left then.
-/
inductive Value.RefusesInteger
    {World Label : Type}
    (invoke : Invoke World Label)
    (before : Scene World Label) :
    Value → Raised → Scene World Label → Prop where
  | nil :
      RefusesInteger invoke before .nil
        (.typeError "no implicit conversion from nil to integer") before
  | inconvertible
      {value : Value}
      (notNil : value ≠ .nil)
      (noInteger : ∀ number, value ≠ .integer number)
      (noSource : ∀ reference, ¬ value.IntegerSource before.store reference) :
      RefusesInteger invoke before value
        (.noImplicitConversion value.className "Integer") before
  | misanswered
      {value answer : Value}
      {reference : ObjectRef}
      {reached : Scene World Label}
      (source : value.IntegerSource before.store reference)
      (sent : reference.send invoke "to_int" [] before = (.returned answer, reached))
      (noInteger : ∀ number, answer ≠ .integer number) :
      RefusesInteger invoke before value
        (value.badConversion "Integer" "to_int" answer) reached
  | raised
      {value : Value}
      {reference : ObjectRef}
      {error : Raised}
      {reached : Scene World Label}
      (source : value.IntegerSource before.store reference)
      (sent : reference.send invoke "to_int" [] before = (.stopped error, reached)) :
      RefusesInteger invoke before value error reached

/-- The ways in which the conversion of a value into an integer ends. -/
inductive Value.IntegerConversion
    {World Label : Type}
    (invoke : Invoke World Label)
    (value : Value)
    (before : Scene World Label) :
    Ending Raised Int64 → Scene World Label → Prop where
  | given
      {number : Int64}
      {reached : Scene World Label}
      (gives : value.GivesInteger invoke before number reached) :
      IntegerConversion invoke value before (.returned number) reached
  | refused
      {error : Raised}
      {reached : Scene World Label}
      (refuses : value.RefusesInteger invoke before error reached) :
      IntegerConversion invoke value before (.stopped error) reached
  | panicked
      {reference : ObjectRef}
      {payload : Payload}
      {reached : Scene World Label}
      (source : value.IntegerSource before.store reference)
      (sent : reference.send invoke "to_int" [] before = (.panicked payload, reached)) :
      IntegerConversion invoke value before (.panicked payload) reached
  | overflowed
      {reference : ObjectRef}
      {reached : Scene World Label}
      (source : value.IntegerSource before.store reference)
      (sent : reference.send invoke "to_int" [] before = (.overflowed, reached)) :
      IntegerConversion invoke value before .overflowed reached

namespace Value

variable {World Label : Type} {invoke : Invoke World Label}
variable {before : Scene World Label}
variable {value : Value} {reference : ObjectRef}

/-- What is made of the answer to the conversion message: an integer, or a complaint. -/
def acceptedInteger (value : Value) : Value → Raising World Label Int64
  | .integer number => pure number
  | answer => Act.stop (value.badConversion "Integer" "to_int" answer)

theorem acceptedInteger_of_noInteger
    {answer : Value}
    (noInteger : ∀ number, answer ≠ .integer number) :
    (value.acceptedInteger answer : Raising World Label Int64) =
      Act.stop (value.badConversion "Integer" "to_int" answer) := by
  cases answer with
  | integer number => exact absurd rfl (noInteger number)
  | _ => rfl

/--
An object that responds is converted by one message, and by what
is made of its answer.
-/
theorem IntegerSource.toInteger_eq
    (source : value.IntegerSource before.store reference) :
    value.toInteger invoke before =
      (reference.send invoke "to_int" [] >>= value.acceptedInteger) before := by
  cases source with
  | intro responds =>
      unfold toInteger
      simp only [Act.bind_apply, Act.current_apply, responds, ↓reduceIte]
      rfl

/-- A value that is neither an integer nor `nil` and is not asked for one gives none. -/
theorem toInteger_of_no_source
    (notNil : value ≠ .nil)
    (noInteger : ∀ number, value ≠ .integer number)
    (noSource : ∀ reference, ¬ value.IntegerSource before.store reference) :
    value.toInteger invoke before =
      (.stopped (.noImplicitConversion value.className "Integer"), before) := by
  cases value with
  | nil => exact absurd rfl notNil
  | integer number => exact absurd rfl (noInteger number)
  | object reference =>
      have silent : before.store.respondsTo "to_int" reference ≠ true :=
        fun responds =>
        noSource reference (.intro responds)
      unfold toInteger
      simp only [Act.bind_apply, Act.current_apply, silent]
      rfl
  | _ => rfl

/-- What the list says of a conversion is what the conversion does. -/
theorem IntegerConversion.performed
    {ending : Ending Raised Int64}
    {after : Scene World Label}
    (conversion : value.IntegerConversion invoke before ending after) :
    value.toInteger invoke before = (ending, after) := by
  cases conversion with
  | given gives =>
      cases gives with
      | itself number => rfl
      | answered source sent =>
          exact source.toInteger_eq.trans (Act.bind_of_returned sent)
  | refused refuses =>
      cases refuses with
      | nil => rfl
      | inconvertible notNil noInteger noSource =>
          exact toInteger_of_no_source notNil noInteger noSource
      | misanswered source sent noInteger =>
          apply source.toInteger_eq.trans
          apply (Act.bind_of_returned sent).trans
          simp only [acceptedInteger_of_noInteger noInteger, Act.stop_apply]
      | raised source sent =>
          exact source.toInteger_eq.trans (Act.bind_of_stopped sent)
  | panicked source sent =>
      apply source.toInteger_eq.trans
      simp only [Act.bind_apply, sent]
  | overflowed source sent =>
      apply source.toInteger_eq.trans
      simp only [Act.bind_apply, sent]

/-- The list leaves no conversion out. -/
theorem exists_integerConversion
    (invoke : Invoke World Label)
    (value : Value)
    (before : Scene World Label) :
    ∃ ending after, value.IntegerConversion invoke before ending after := by
  by_cases isNil : value = .nil
  · subst isNil
    exact ⟨_, _, .refused .nil⟩
  by_cases isInteger : ∃ number, value = .integer number
  · obtain ⟨number, rfl⟩ := isInteger
    exact ⟨_, _, .given (.itself number)⟩
  by_cases isAsked : ∃ reference, value.IntegerSource before.store reference
  · obtain ⟨reference, source⟩ := isAsked
    rcases sent : reference.send invoke "to_int" [] before with ⟨ending, reached⟩
    cases ending with
    | returned answer =>
        by_cases gives : ∃ number, answer = .integer number
        · obtain ⟨number, rfl⟩ := gives
          exact ⟨_, _, .given (.answered source sent)⟩
        · exact ⟨_, _, .refused (.misanswered source sent (not_exists.mp gives))⟩
    | stopped error => exact ⟨_, _, .refused (.raised source sent)⟩
    | panicked payload => exact ⟨_, _, .panicked source sent⟩
    | overflowed => exact ⟨_, _, .overflowed source sent⟩
  · exact
      ⟨_, _, .refused
        (.inconvertible isNil (not_exists.mp isInteger) (not_exists.mp isAsked))⟩

/-- The list settles how every conversion into an integer ends. -/
theorem toInteger_eq_iff
    {ending : Ending Raised Int64}
    {after : Scene World Label} :
    value.toInteger invoke before = (ending, after) ↔
      value.IntegerConversion invoke before ending after := by
  constructor
  · intro performed
    obtain ⟨otherEnding, otherAfter, conversion⟩ :=
      exists_integerConversion invoke value before
    have same := conversion.performed.symm.trans performed
    cases same
    exact conversion
  · exact IntegerConversion.performed

/-- A value gives an integer exactly if its conversion returns it. -/
theorem givesInteger_iff
    {number : Int64}
    {reached : Scene World Label} :
    value.GivesInteger invoke before number reached ↔
      value.toInteger invoke before = (.returned number, reached) := by
  constructor
  · intro gives
    exact (IntegerConversion.given gives).performed
  · intro performed
    cases toInteger_eq_iff.mp performed with
    | given gives => exact gives

/-- A value refuses to give an integer exactly if its conversion stops with the error. -/
theorem refusesInteger_iff
    {error : Raised}
    {reached : Scene World Label} :
    value.RefusesInteger invoke before error reached ↔
      value.toInteger invoke before = (.stopped error, reached) := by
  constructor
  · intro refuses
    exact (IntegerConversion.refused refuses).performed
  · intro performed
    cases toInteger_eq_iff.mp performed with
    | refused refuses => exact refuses

/--
An object that responds is sent the message once, and comes
past what that comes past.
-/
theorem IntegerSource.moments_eq
    (source : value.IntegerSource before.store reference)
    (within : Within World Label) :
    (Operation.toInteger value).moments within before =
      (Operation.send reference "to_int" []).moments within before := by
  cases source with
  | intro responds => rfl

end Value

end Conformance
