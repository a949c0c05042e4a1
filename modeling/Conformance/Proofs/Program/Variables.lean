import Conformance.Proofs.Program.Changes

namespace Conformance

/-!
# The variables of a context

Code sets variables one after the other, and so do the bodies that it calls.  When
it ends, however it ends, a variable has the value that was last written to it; one
that was not written has the value that it had before.
-/

/-- The last value that writes give to a variable. -/
def lastWritten? (writes : List (String × Value)) (name : String) : Option Value :=
  writes.reverse.lookup name

/-- A context has the variables of an earlier one with writes made to them. -/
def Context.Wrote
    (writes : List (String × Value))
    (before after : Context) : Prop :=
  ∀ name, after.bindings name = (lastWritten? writes name).or (before.bindings name)

/-- How the writes of the body with a label are listed. -/
abbrev Writing (World Label : Type) : Type :=
  Label → List Value → Scene World Label → List (String × Value)

namespace Operation

variable {World Label : Type}

/-- The variables that the body that an operation runs sets. -/
def writes
    (writing : Writing World Label)
    (operation : Operation Label)
    (scene : Scene World Label) :
    List (String × Value) :=
  match operation.callee? scene.store with
  | none => []
  | some (label, arguments) => writing label arguments scene

end Operation

namespace Code

variable {World Label Error Result : Type}

/--
The variables that code sets, in order, with those that the bodies
it calls set as given.
-/
def writes
    (invoke : Invoke World Label)
    (writing : Writing World Label) :
    Code World Label Error Result → Scene World Label → List (String × Value)
  | .done _, _ => []
  | .panic _, _ => []
  | .overflow, _ => []
  | .look next, scene => (next scene).writes invoke writing scene
  | .write world next, scene =>
      next.writes invoke writing { scene with world := world }
  | .assign name value next, scene =>
      (name, value) :: next.writes invoke writing (scene.assign name value)
  | .makeStub name next, scene =>
      let (answer, reached) := scene.makeStub name
      (next answer).writes invoke writing reached
  | .operate operation next, scene =>
      let (ending, reached) := operation.perform invoke scene
      let later := match ending with
        | .returned value => (next (.ok value)).writes invoke writing reached
        | .stopped error => (next (.error error)).writes invoke writing reached
        | .panicked _ => []
        | .overflowed => []
      operation.writes writing scene ++ later

end Code

namespace Program

variable {World Label Error Result : Type}

/--
The variables that the body with a label sets; calls may be nested so deep below it.
-/
def writing (program : Program World Label) : Nat → Writing World Label
  | 0 => fun _ _ _ => []
  | depth + 1 => fun label arguments scene =>
      (program.body label arguments).writes (program.invoke depth)
        (program.writing depth) scene

/-- The variables that running code of a program sets. -/
def writes
    (program : Program World Label)
    (depth : Nat)
    (code : Code World Label Error Result)
    (scene : Scene World Label) :
    List (String × Value) :=
  code.writes (program.invoke depth) (program.writing depth) scene

end Program

theorem lastWritten?_append
    (earlier later : List (String × Value))
    (name : String) :
    lastWritten? (earlier ++ later) name =
      (lastWritten? later name).or (lastWritten? earlier name) := by
  rw [lastWritten?, List.reverse_append, List.lookup_append]
  rfl

namespace Context.Wrote

variable {first second third : Context}

theorem nil (context : Context) : context.Wrote [] context :=
  fun _ => rfl

theorem trans
    {earlier later : List (String × Value)}
    (before : first.Wrote earlier second)
    (after : second.Wrote later third) :
    first.Wrote (earlier ++ later) third := by
  intro name
  rw [after name, before name, lastWritten?_append, Option.or_assoc]

theorem assign
    (context : Context)
    (name : String)
    (value : Value) :
    context.Wrote [(name, value)] (context.assign name value) := by
  intro other
  by_cases same : other = name
  · subst same
    simp [lastWritten?]
  · have unwritten : (other == name) = false := by simpa using same
    simp [lastWritten?, List.lookup_cons, unwritten, same]

end Context.Wrote

/-- An operation by itself leaves the context as the body that it runs leaves it. -/
theorem Operation.perform_context
    {World Label : Type}
    (invoke : Invoke World Label)
    (operation : Operation Label)
    (scene : Scene World Label) :
    (operation.perform invoke scene).2.context =
      (operation.handed invoke scene).context := by
  obtain ⟨store, -, finish⟩ := operation.perform_finishes invoke scene
  rw [finish]
  rfl

namespace Program

variable {World Label Error Result : Type} (program : Program World Label)

theorem code_wrote
    {depth : Nat}
    (bodies : ∀ label arguments (scene : Scene World Label),
      scene.context.Wrote (program.writing depth label arguments scene)
        (program.invoke depth label arguments scene).2.context)
    (code : Code World Label Error Result)
    (scene : Scene World Label) :
    scene.context.Wrote (program.writes depth code scene)
      (program.run depth code scene).2.context := by
  induction code generalizing scene with
  | done ending => cases ending <;> exact .nil _
  | panic payload => exact .nil _
  | overflow => exact .nil _
  | look next inductionHypothesis => exact inductionHypothesis scene scene
  | write world next inductionHypothesis =>
      exact inductionHypothesis { scene with world := world }
  | assign name value next inductionHypothesis =>
      exact (Context.Wrote.assign _ name value).trans (inductionHypothesis _)
  | makeStub name next inductionHypothesis =>
      have later :=
        inductionHypothesis (scene.makeStub name).1 (scene.makeStub name).2
      have sameBindings :
          (scene.makeStub name).2.context.bindings = scene.context.bindings := by
        unfold Scene.makeStub
        split <;> rfl
      intro other
      rw [← sameBindings]
      exact later other
  | operate operation next inductionHypothesis =>
      have called :
          scene.context.Wrote (operation.writes (program.writing depth) scene)
            (operation.handed (program.invoke depth) scene).context := by
        unfold Operation.writes Operation.handed
        cases operation.callee? scene.store with
        | none => exact .nil _
        | some call => exact bodies call.1 call.2 scene
      have sameContext := operation.perform_context (program.invoke depth) scene
      rcases performed :
          operation.perform (program.invoke depth) scene with ⟨ending, reached⟩
      rw [performed] at sameContext
      have begun :
          scene.context.Wrote (operation.writes (program.writing depth) scene)
            reached.context := by
        rw [← sameContext] at called
        exact called
      simp only [Program.writes, Code.writes, Program.run, Code.execute, performed]
      cases ending with
      | returned value => exact begun.trans (inductionHypothesis (.ok value) reached)
      | stopped error =>
          exact begun.trans (inductionHypothesis (.error error) reached)
      | panicked payload => exact begun.trans (.nil _)
      | overflowed => exact begun.trans (.nil _)

/-- Running code leaves in each variable what was last written to it. -/
theorem run_wrote
    (depth : Nat)
    (code : Code World Label Error Result)
    (scene : Scene World Label) :
    scene.context.Wrote (program.writes depth code scene)
      (program.run depth code scene).2.context := by
  apply program.code_wrote
  induction depth with
  | zero =>
      intro label arguments scene
      exact .nil _
  | succ depth inductionHypothesis =>
      intro label arguments scene
      exact program.code_wrote inductionHypothesis
        (program.body label arguments) scene

end Program

end Conformance
