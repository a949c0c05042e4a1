import Conformance.Proofs.Hash.Invariants

namespace Conformance

/-!
# Assigning the default callable

The assignment of a default callable looks at the frozen flag first and at `nil`
next.  Any other argument is turned into a callable: it is one, or it is an object
that responds to the conversion and is sent one message.  Only a callable that can
be called with the hash and the key is stored.  `Assignment` lists all the ways in
which this can end, and the rest of what there is to say is read off the list.
-/

/-- A callable that can compute a value from the hash and the key. -/
inductive Proc.TakesTwo : Proc → Prop where
  | plain (id : Nat) (arity : Arity) : TakesTwo ⟨id, .plain, arity⟩
  | exactly (id : Nat) : TakesTwo ⟨id, .lambda, .exactly 2⟩
  | atLeast (id : Nat) {count : Nat} (enough : count ≤ 2) :
      TakesTwo ⟨id, .lambda, .atLeast count⟩

/-- An argument is an object that responds to the conversion into a callable. -/
inductive Value.Converter
    {Label : Type}
    (store : Store Label) :
    Value → ObjectRef → Prop where
  | intro
      {reference : ObjectRef}
      (responds : store.respondsTo "to_proc" reference = true) :
      Converter store (.object reference) reference

/--
The callable that an argument is or converts to, with the scene that
its conversion leaves.
-/
inductive Value.Gives
    {World Label : Type}
    (invoke : Invoke World Label)
    (before : Scene World Label) :
    Value → Proc → Scene World Label → Prop where
  | itself (callable : Proc) : Gives invoke before (.proc callable) callable before
  | converted
      {argument : Value}
      {reference : ObjectRef}
      {callable : Proc}
      {reached : Scene World Label}
      (converter : argument.Converter before.store reference)
      (sent :
        reference.send invoke "to_proc" [] before =
          (.returned (.proc callable), reached)) :
      Gives invoke before argument callable reached

/-- The ways in which the assignment of a default callable ends. -/
inductive HashRef.Assignment
    {World Label : Type}
    (invoke : Invoke World Label)
    (hash : HashRef)
    (argument : Value)
    (before : Scene World Label) :
    Ending Raised Value → Scene World Label → Prop where
  | frozen
      (isFrozen : (before.store.hash hash).frozen = true) :
      Assignment invoke hash argument before (.stopped (.frozen "Hash")) before
  | dropped
      (unfrozen : (before.store.hash hash).frozen = false)
      (isNil : argument = .nil) :
      Assignment invoke hash argument before (.returned .nil)
        (hash.update HashState.withoutDefaultProc before)
  | stored
      {callable : Proc}
      {reached : Scene World Label}
      (unfrozen : (before.store.hash hash).frozen = false)
      (gives : argument.Gives invoke before callable reached)
      (takesTwo : callable.TakesTwo) :
      Assignment invoke hash argument before (.returned argument)
        (hash.update (fun state => state.withDefaultProc callable) reached)
  | unsuited
      {callable : Proc}
      {reached : Scene World Label}
      (unfrozen : (before.store.hash hash).frozen = false)
      (gives : argument.Gives invoke before callable reached)
      (takesOther : ¬ callable.TakesTwo) :
      Assignment invoke hash argument before
        (.stopped (.typeError
          ("default_proc takes two arguments (2 for " ++
            toString callable.arity.signed.toInt ++ ")")))
        reached
  | misconverted
      {reference : ObjectRef}
      {answer : Value}
      {reached : Scene World Label}
      (unfrozen : (before.store.hash hash).frozen = false)
      (converter : argument.Converter before.store reference)
      (sent : reference.send invoke "to_proc" [] before = (.returned answer, reached))
      (noCallable : ∀ callable, answer ≠ .proc callable) :
      Assignment invoke hash argument before
        (.stopped (argument.badConversion "Proc" "to_proc" answer)) reached
  | failed
      {reference : ObjectRef}
      {ending : Ending Raised Value}
      {reached : Scene World Label}
      (unfrozen : (before.store.hash hash).frozen = false)
      (converter : argument.Converter before.store reference)
      (sent : reference.send invoke "to_proc" [] before = (ending, reached))
      (noAnswer : ∀ answer, ending ≠ .returned answer) :
      Assignment invoke hash argument before ending reached
  | inconvertible
      (unfrozen : (before.store.hash hash).frozen = false)
      (notNil : argument ≠ .nil)
      (noCallable : ∀ callable, argument ≠ .proc callable)
      (noConverter : ∀ reference, ¬ argument.Converter before.store reference) :
      Assignment invoke hash argument before
        (.stopped (.typeError
          ("wrong default_proc type " ++ argument.className ++ " (expected Proc)")))
        before

/--
What the assignment of a default callable answers, what it sends, and what it
writes, for whatever argument and whatever the argument does when it is asked.
-/
structure HashRef.AssignmentSettled
    {World Label : Type}
    (invoke : Invoke World Label)
    (hash : HashRef)
    (argument : Value)
    (before : Scene World Label) : Prop where
  settled : ∀ {ending after},
    hash.setDefaultProc invoke argument before = (ending, after) ↔
      hash.Assignment invoke argument before ending after
  frozen :
    (before.store.hash hash).frozen = true →
    hash.setDefaultProc invoke argument before = (.stopped (.frozen "Hash"), before)
  dropped :
    (before.store.hash hash).frozen = false →
    argument = .nil →
    ∃ after,
      hash.setDefaultProc invoke argument before = (.returned .nil, after) ∧
        after.store.hash hash = { before.store.hash hash with defaultProc := none }
  asksOnce : ∀ {reference} (within : Within World Label),
    (before.store.hash hash).frozen = false →
    argument.Converter before.store reference →
    (Operation.setDefaultProc hash argument).moments within before =
      (Operation.send reference "to_proc" []).moments within before
  asksNothing : ∀ (within : Within World Label),
    (before.store.hash hash).frozen = true ∨
      (∀ reference, ¬ argument.Converter before.store reference) →
    (Operation.setDefaultProc hash argument).moments within before = [] ∧
      (hash.setDefaultProc invoke argument before).2.store.stubs = before.store.stubs
  answers_iff :
    (before.store.hash hash).frozen = false →
    argument ≠ .nil →
    ((∃ answer after,
        hash.setDefaultProc invoke argument before = (.returned answer, after)) ↔
      ∃ callable reached,
        argument.Gives invoke before callable reached ∧ callable.TakesTwo)
  stored : ∀ {answer after},
    argument ≠ .nil →
    hash.setDefaultProc invoke argument before = (.returned answer, after) →
    answer = argument ∧
      ∃ callable reached,
        argument.Gives invoke before callable reached ∧
          after.store.hash hash =
            (reached.store.hash hash).withDefaultProc callable ∧
          (after.store.hash hash).defaultProc = some callable
  refused : ∀ {ending after},
    (before.store.hash hash).frozen = false →
    hash.setDefaultProc invoke argument before = (ending, after) →
    (∀ answer, ending ≠ .returned answer) →
    ((∃ reference,
        argument.Converter before.store reference ∧
          (reference.send invoke "to_proc" [] before).1 = ending) ∨
        ∃ message, ending = .stopped (.typeError message)) ∧
      ((∃ reference,
        argument.Converter before.store reference ∧
          after = (reference.send invoke "to_proc" [] before).2) ∨
        (∀ reference, ¬ argument.Converter before.store reference) ∧ after = before)

/--
Exactly the callables that take the hash and the key can compute the
values of absent keys.
-/
theorem HashRef.computes_iff_takesTwo {callable : Proc} :
    HashRef.computes callable = true ↔ callable.TakesTwo := by
  obtain ⟨id, flavour, arity⟩ := callable
  cases flavour with
  | plain => exact ⟨fun _ => .plain id arity, fun _ => rfl⟩
  | lambda =>
      cases arity with
      | exactly count =>
          constructor
          · intro accepts
            obtain rfl : count = 2 := by simpa [computes, suits] using accepts
            exact .exactly id
          · rintro ⟨⟩
            rfl
      | atLeast count =>
          constructor
          · intro accepts
            exact .atLeast id (by simpa [computes, suits] using accepts)
          · intro takesTwo
            cases takesTwo with
            | atLeast _ enough => simpa [computes, suits] using enough

namespace Value

variable {World Label : Type} {invoke : Invoke World Label}
variable {before : Scene World Label}
variable {argument : Value} {reference : ObjectRef}

/-- What is made of the answer to the conversion message: a callable, or a complaint. -/
def accepted (argument : Value) : Value → Raising World Label (Option Proc)
  | .proc callable => pure (some callable)
  | answer => Act.stop (argument.badConversion "Proc" "to_proc" answer)

theorem accepted_of_noCallable
    {answer : Value}
    (noCallable : ∀ callable, answer ≠ .proc callable) :
    (argument.accepted answer : Raising World Label (Option Proc)) =
      Act.stop (argument.badConversion "Proc" "to_proc" answer) := by
  cases answer with
  | proc callable => exact absurd rfl (noCallable callable)
  | _ => rfl

theorem Converter.toProc?_eq
    (converter : argument.Converter before.store reference) :
    argument.toProc? invoke before =
      (reference.send invoke "to_proc" [] >>= argument.accepted) before := by
  cases converter with
  | intro responds =>
      simp only [toProc?, Act.bind_apply, Act.current_apply, responds, ↓reduceIte]
      rfl

theorem Gives.toProc?_eq
    {callable : Proc}
    {reached : Scene World Label}
    (gives : argument.Gives invoke before callable reached) :
    argument.toProc? invoke before = (.returned (some callable), reached) := by
  cases gives with
  | itself => rfl
  | converted converter sent =>
      exact converter.toProc?_eq.trans (Act.bind_of_returned sent)

theorem Gives.notNil
    {callable : Proc}
    {reached : Scene World Label}
    (gives : argument.Gives invoke before callable reached) :
    argument ≠ .nil := by
  rintro rfl
  cases gives with
  | converted converter sent => cases converter

theorem Converter.notNil (converter : argument.Converter before.store reference) :
    argument ≠ .nil := by
  rintro rfl
  cases converter

/-- An argument that is no callable and is not asked for one gives none. -/
theorem toProc?_eq_none
    (noCallable : ∀ callable, argument ≠ .proc callable)
    (noConverter : ∀ reference, ¬ argument.Converter before.store reference) :
    argument.toProc? invoke before = (.returned none, before) := by
  cases argument with
  | proc callable => exact absurd rfl (noCallable callable)
  | object reference =>
      have silent : before.store.respondsTo "to_proc" reference ≠ true :=
        fun responds =>
        noConverter reference (.intro responds)
      simp only [toProc?, Act.bind_apply, Act.current_apply, silent]
      rfl
  | _ => rfl

/-- An argument that is not asked for a callable runs no body of a conversion. -/
theorem converter?_of_no_converter
    (noConverter : ∀ reference, ¬ argument.Converter before.store reference) :
    argument.converter? "to_proc" before.store = none := by
  cases argument with
  | object reference =>
      apply converter?_of_not_respondsTo
      exact Bool.eq_false_iff.mpr fun responds =>
        noConverter reference (.intro responds)
  | _ => rfl

end Value

namespace HashRef

variable {World Label : Type} {invoke : Invoke World Label}
variable {before : Scene World Label}
variable {hash : HashRef} {argument : Value}

theorem setDefaultProc_of_conversion
    {ending : Ending Raised Value}
    {after : Scene World Label}
    (unfrozen : (before.store.hash hash).frozen = false)
    (notNil : argument ≠ .nil)
    (converts :
      (argument.toProc? invoke >>= hash.storeDefaultProc argument) before =
        (ending, after)) :
    hash.setDefaultProc invoke argument before = (ending, after) := by
  have isNil : argument.isNil = false := by
    cases argument with
    | nil => exact absurd rfl notNil
    | _ => rfl
  simpa [setDefaultProc_apply, unfrozen, isNil] using converts

/-- What the list says of an assignment is what the assignment does. -/
theorem Assignment.performed
    {ending : Ending Raised Value}
    {after : Scene World Label}
    (assignment : hash.Assignment invoke argument before ending after) :
    hash.setDefaultProc invoke argument before = (ending, after) := by
  cases assignment with
  | frozen isFrozen => simp [setDefaultProc_apply, isFrozen]
  | dropped unfrozen isNil =>
      simp [setDefaultProc_apply, unfrozen, isNil, Value.isNil]
  | stored unfrozen gives takesTwo =>
      apply setDefaultProc_of_conversion unfrozen gives.notNil
      refine (Act.bind_of_returned gives.toProc?_eq).trans ?_
      simp only [storeDefaultProc, computes_iff_takesTwo.mpr takesTwo, ↓reduceIte]
      rfl
  | unsuited unfrozen gives takesOther =>
      apply setDefaultProc_of_conversion unfrozen gives.notNil
      refine (Act.bind_of_returned gives.toProc?_eq).trans ?_
      simp only [storeDefaultProc, computes_iff_takesTwo, takesOther, ↓reduceIte]
      rfl
  | misconverted unfrozen converter sent noCallable =>
      apply setDefaultProc_of_conversion unfrozen converter.notNil
      apply Act.bind_of_stopped
      rw [converter.toProc?_eq, Act.bind_of_returned sent,
        Value.accepted_of_noCallable noCallable]
      rfl
  | failed unfrozen converter sent noAnswer =>
      apply setDefaultProc_of_conversion unfrozen converter.notNil
      rw [Act.bind_apply, converter.toProc?_eq, Act.bind_apply, sent]
      cases ending with
      | returned answer => exact absurd rfl (noAnswer answer)
      | _ => rfl
  | inconvertible unfrozen notNil noCallable noConverter =>
      apply setDefaultProc_of_conversion unfrozen notNil
      exact Act.bind_of_returned (Value.toProc?_eq_none noCallable noConverter)

/-- The list leaves no assignment out. -/
theorem exists_assignment
    (invoke : Invoke World Label)
    (hash : HashRef)
    (argument : Value)
    (before : Scene World Label) :
    ∃ ending after, hash.Assignment invoke argument before ending after := by
  cases isFrozen : (before.store.hash hash).frozen with
  | true => exact ⟨_, _, .frozen isFrozen⟩
  | false =>
      have ofCallable {callable : Proc} {reached : Scene World Label}
          (gives : argument.Gives invoke before callable reached) :
          ∃ ending after, hash.Assignment invoke argument before ending after := by
        by_cases takesTwo : callable.TakesTwo
        · exact ⟨_, _, .stored isFrozen gives takesTwo⟩
        · exact ⟨_, _, .unsuited isFrozen gives takesTwo⟩
      by_cases isNil : argument = .nil
      · exact ⟨_, _, .dropped isFrozen isNil⟩
      by_cases isCallable : ∃ callable, argument = .proc callable
      · obtain ⟨callable, rfl⟩ := isCallable
        exact ofCallable (.itself callable)
      by_cases isAsked : ∃ reference, argument.Converter before.store reference
      · obtain ⟨reference, converter⟩ := isAsked
        rcases sent :
            reference.send invoke "to_proc" [] before with ⟨ending, reached⟩
        by_cases answers : ∃ answer, ending = .returned answer
        · obtain ⟨answer, rfl⟩ := answers
          by_cases gives : ∃ callable, answer = .proc callable
          · obtain ⟨callable, rfl⟩ := gives
            exact ofCallable (.converted converter sent)
          · exact ⟨_, _, .misconverted isFrozen converter sent (not_exists.mp gives)⟩
        · exact ⟨_, _, .failed isFrozen converter sent (not_exists.mp answers)⟩
      · exact
          ⟨_, _, .inconvertible isFrozen isNil (not_exists.mp isCallable)
            (not_exists.mp isAsked)⟩

theorem setDefaultProc_eq_iff
    {ending : Ending Raised Value}
    {after : Scene World Label} :
    hash.setDefaultProc invoke argument before = (ending, after) ↔
      hash.Assignment invoke argument before ending after := by
  refine ⟨fun performed => ?_, Assignment.performed⟩
  obtain ⟨otherEnding, otherAfter, assignment⟩ :=
    exists_assignment invoke hash argument before
  have same := assignment.performed
  rw [performed] at same
  cases same
  exact assignment

/-- What an argument is not asked for does not count as a call of a stub. -/
theorem Assignment.stubs_eq
    {ending : Ending Raised Value}
    {after : Scene World Label}
    (assignment : hash.Assignment invoke argument before ending after)
    (asksNothing :
      (before.store.hash hash).frozen = true ∨
        ∀ reference, ¬ argument.Converter before.store reference) :
    after.store.stubs = before.store.stubs := by
  have notAsked {reference : ObjectRef}
      (unfrozen : (before.store.hash hash).frozen = false)
      (converter : argument.Converter before.store reference) : False := by
    rcases asksNothing with isFrozen | noConverter
    · rw [unfrozen] at isFrozen
      contradiction
    · exact noConverter reference converter
  cases assignment with
  | frozen | dropped | inconvertible => rfl
  | stored unfrozen gives | unsuited unfrozen gives =>
      cases gives with
      | itself => rfl
      | converted converter => exact (notAsked unfrozen converter).elim
  | misconverted unfrozen converter | failed unfrozen converter =>
      exact (notAsked unfrozen converter).elim

/--
An assignment that does not answer has written nothing, and fails as
its argument or by type.
-/
theorem Assignment.refused
    {ending : Ending Raised Value}
    {after : Scene World Label}
    (assignment : hash.Assignment invoke argument before ending after)
    (unfrozen : (before.store.hash hash).frozen = false)
    (noAnswer : ∀ answer, ending ≠ .returned answer) :
    ((∃ reference,
        argument.Converter before.store reference ∧
          (reference.send invoke "to_proc" [] before).1 = ending) ∨
        ∃ message, ending = .stopped (.typeError message)) ∧
      ((∃ reference,
        argument.Converter before.store reference ∧
          after = (reference.send invoke "to_proc" [] before).2) ∨
        (∀ reference, ¬ argument.Converter before.store reference) ∧
          after = before) := by
  cases assignment with
  | frozen isFrozen =>
      rw [unfrozen] at isFrozen
      contradiction
  | dropped | stored => exact absurd rfl (noAnswer _)
  | unsuited _ gives =>
      refine ⟨.inr ⟨_, rfl⟩, ?_⟩
      cases gives with
      | itself => exact .inr ⟨nofun, rfl⟩
      | converted converter sent => exact .inl ⟨_, converter, by rw [sent]⟩
  | misconverted _ converter sent =>
      exact ⟨.inr ⟨_, rfl⟩, .inl ⟨_, converter, by rw [sent]⟩⟩
  | failed _ converter sent =>
      exact ⟨.inl ⟨_, converter, by rw [sent]⟩, .inl ⟨_, converter, by rw [sent]⟩⟩
  | inconvertible _ _ _ noConverter =>
      exact ⟨.inr ⟨_, rfl⟩, .inr ⟨noConverter, rfl⟩⟩

/-- An assignment that answers has stored what its argument is or was converted to. -/
theorem Assignment.stores
    {answer : Value}
    {after : Scene World Label}
    (assignment : hash.Assignment invoke argument before (.returned answer) after)
    (notNil : argument ≠ .nil) :
    answer = argument ∧
      ∃ callable reached,
        argument.Gives invoke before callable reached ∧ callable.TakesTwo ∧
          after.store.hash hash =
            (reached.store.hash hash).withDefaultProc callable := by
  cases assignment with
  | dropped _ isNil => exact absurd isNil notNil
  | stored _ gives takesTwo =>
      exact ⟨rfl, _, _, gives, takesTwo, store_hash_update _ _ _⟩
  | failed _ _ _ noAnswer => exact absurd rfl (noAnswer answer)

variable (invoke hash argument before)

/--
The frozen flag, the argument and one message settle every assignment
of a default callable.
-/
theorem setDefaultProc_settled : hash.AssignmentSettled invoke argument before where
  settled := setDefaultProc_eq_iff
  frozen isFrozen := setDefaultProc_eq_iff.mpr (.frozen isFrozen)
  dropped unfrozen isNil :=
    ⟨_, setDefaultProc_eq_iff.mpr (.dropped unfrozen isNil), store_hash_update _ _ _⟩
  asksOnce within unfrozen converter := by
    cases converter with
    | intro responds =>
        simp only [Operation.moments, Operation.callee?, unfrozen,
          Bool.false_eq_true, ↓reduceIte]
        rfl
  asksNothing within asksNothing := by
    refine ⟨?_, ?_⟩
    · have noCallee :
          (Operation.setDefaultProc hash argument).callee? before.store = none := by
        rcases asksNothing with isFrozen | noConverter
        · simp only [Operation.callee?, isFrozen, ↓reduceIte]
        · simp only [Operation.callee?,
            Value.converter?_of_no_converter noConverter, ite_self]
      simp only [Operation.moments, noCallee]
    · obtain ⟨ending, after, assignment⟩ :=
        exists_assignment invoke hash argument before
      rw [assignment.performed]
      exact assignment.stubs_eq asksNothing
  answers_iff unfrozen notNil := by
    constructor
    · rintro ⟨answer, after, answered⟩
      obtain ⟨-, callable, reached, gives, takesTwo, -⟩ :=
        (setDefaultProc_eq_iff.mp answered).stores notNil
      exact ⟨callable, reached, gives, takesTwo⟩
    · rintro ⟨callable, reached, gives, takesTwo⟩
      exact ⟨_, _, setDefaultProc_eq_iff.mpr (.stored unfrozen gives takesTwo)⟩
  stored notNil answered := by
    obtain ⟨same, callable, reached, gives, -, stored⟩ :=
      (setDefaultProc_eq_iff.mp answered).stores notNil
    exact ⟨same, callable, reached, gives, stored, by rw [stored]; rfl⟩
  refused unfrozen performed noAnswer :=
    (setDefaultProc_eq_iff.mp performed).refused unfrozen noAnswer

end HashRef

end Conformance
