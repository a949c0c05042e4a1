import Conformance.Proofs.Program.Changes

namespace Conformance

/-!
# The moments of a run

Running code comes past many scenes, also inside the bodies that it calls.  Its
moments list all of them in order: each look, write and assignment, each request
for a stub, and the beginning and the end of each operation, with the moments of
the body that the operation runs in between.

`moments_along` is the way to show something of every moment of every run: a
relation of scenes that every single step respects holds between any two moments,
from the start of the run to its end.
-/

/-- Something that a run comes past, with the scene that it leaves. -/
inductive Moment (World Label : Type) where
  | passed (scene : Scene World Label)
  | askedStub
      (name : String)
      (before : Scene World Label)
      (answer : Except Misuse Value)
      (scene : Scene World Label)
  | began (operation : Operation Label) (scene : Scene World Label)
  | ended
      (depth : Nat)
      (operation : Operation Label)
      (start : Scene World Label)
      (ending : Ending Raised Value)
      (scene : Scene World Label)

namespace Moment

variable {World Label : Type}

/-- The scene at a moment. -/
def scene : Moment World Label → Scene World Label
  | .passed scene => scene
  | .askedStub _ _ _ scene => scene
  | .began _ scene => scene
  | .ended _ _ _ _ scene => scene

/-- What a moment records of a stub or an operation is what came of it. -/
def Faithful (program : Program World Label) : Moment World Label → Prop
  | .askedStub name before answer scene => before.makeStub name = (answer, scene)
  | .ended depth operation start ending scene =>
      operation.perform (program.invoke depth) start = (ending, scene)
  | _ => True

end Moment

/-- How the moments of the body with a label are listed. -/
abbrev Within (World Label : Type) : Type :=
  Label → List Value → Scene World Label → List (Moment World Label)

namespace Operation

variable {World Label : Type}

/-- The moments of the body that an operation runs. -/
def moments
    (within : Within World Label)
    (operation : Operation Label)
    (scene : Scene World Label) :
    List (Moment World Label) :=
  match operation.callee? scene.store with
  | none => []
  | some (label, arguments) => within label arguments scene

end Operation

namespace Code

variable {World Label Error Result : Type}

/-- The moments of running code, with the moments of the bodies it calls as given. -/
def moments
    (depth : Nat)
    (invoke : Invoke World Label)
    (within : Within World Label) :
    Code World Label Error Result → Scene World Label → List (Moment World Label)
  | .done _, scene => [.passed scene]
  | .panic _, scene => [.passed scene]
  | .overflow, scene => [.passed scene]
  | .look next, scene =>
      .passed scene :: (next scene).moments depth invoke within scene
  | .write world next, scene =>
      .passed scene :: next.moments depth invoke within { scene with world := world }
  | .assign name value next, scene =>
      .passed scene :: next.moments depth invoke within (scene.assign name value)
  | .makeStub name next, scene =>
      let (answer, reached) := scene.makeStub name
      .passed scene :: .askedStub name scene answer reached ::
        (next answer).moments depth invoke within reached
  | .operate operation next, scene =>
      let (ending, reached) := operation.perform invoke scene
      let later := match ending with
        | .returned value => (next (.ok value)).moments depth invoke within reached
        | .stopped error => (next (.error error)).moments depth invoke within reached
        | .panicked _ => []
        | .overflowed => []
      .began operation scene ::
        (operation.moments within scene ++
          .ended depth operation scene ending reached :: later)

end Code

namespace Program

variable {World Label Error Result : Type}

/-- The moments of the body with a label; calls may be nested so deep below it. -/
def within (program : Program World Label) : Nat → Within World Label
  | 0 => fun _ _ scene => [.passed scene]
  | depth + 1 => fun label arguments scene =>
      (program.body label arguments).moments depth (program.invoke depth)
        (program.within depth) scene

/-- The moments of running code of a program. -/
def moments
    (program : Program World Label)
    (depth : Nat)
    (code : Code World Label Error Result)
    (scene : Scene World Label) :
    List (Moment World Label) :=
  code.moments depth (program.invoke depth) (program.within depth) scene

end Program

/-- A relation holds between any two of a start, a list of moments and a finish. -/
structure Along
    {World Label : Type}
    (related : Scene World Label → Scene World Label → Prop)
    (start : Scene World Label)
    (moments : List (Moment World Label))
    (finish : Scene World Label) : Prop where
  fromStart : ∀ moment ∈ moments, related start moment.scene
  ordered : moments.Pairwise fun earlier later => related earlier.scene later.scene
  toFinish : ∀ moment ∈ moments, related moment.scene finish
  through : related start finish

/--
A relation between scenes that every step of a program's runs respects, so long
as each operation ends in a moment that is allowed.
-/
structure Program.Respects
    {World Label : Type}
    (program : Program World Label)
    (related : Scene World Label → Scene World Label → Prop)
    (allowed : Moment World Label → Prop) : Prop where
  refl : ∀ scene, related scene scene
  trans : ∀ first second third,
    related first second → related second third → related first third
  write : ∀ (scene : Scene World Label) world,
    related scene { scene with world := world }
  assign : ∀ scene name value, related scene (scene.assign name value)
  makeStub : ∀ scene name, related scene (scene.makeStub name).2
  own : ∀ depth operation start ending finish,
    operation.perform (program.invoke depth) start = (ending, finish) →
    allowed (.ended depth operation start ending finish) →
    related (operation.handed (program.invoke depth) start) finish

namespace Along

variable {World Label : Type}
variable {related : Scene World Label → Scene World Label → Prop}
variable {start middle finish : Scene World Label}

theorem nil (through : related start finish) :
    Along related start [] finish where
  fromStart := by simp
  ordered := .nil
  toFinish := by simp
  through := through

theorem append
    (trans : ∀ first second third,
      related first second → related second third → related first third)
    {leading trailing : List (Moment World Label)}
    (first : Along related start leading middle)
    (later : Along related middle trailing finish) :
    Along related start (leading ++ trailing) finish where
  fromStart moment member := by
    rcases List.mem_append.mp member with inLeading | inTrailing
    · exact first.fromStart moment inLeading
    · exact trans _ _ _ first.through (later.fromStart moment inTrailing)
  ordered := by
    refine List.pairwise_append.mpr ⟨first.ordered, later.ordered, ?_⟩
    intro earlier inLeading after inTrailing
    exact trans _ _ _ (first.toFinish earlier inLeading)
      (later.fromStart after inTrailing)
  toFinish moment member := by
    rcases List.mem_append.mp member with inLeading | inTrailing
    · exact trans _ _ _ (first.toFinish moment inLeading) later.through
    · exact later.toFinish moment inTrailing
  through := trans _ _ _ first.through later.through

/-- A moment between two scenes goes before what follows the second. -/
theorem cons
    (trans : ∀ first second third,
      related first second → related second third → related first third)
    {moment : Moment World Label}
    {rest : List (Moment World Label)}
    (before : related start moment.scene)
    (after : related moment.scene middle)
    (later : Along related middle rest finish) :
    Along related start (moment :: rest) finish :=
  append trans
    { fromStart := by simpa using before
      ordered := List.pairwise_singleton _ _
      toFinish := by simpa using after
      through := trans _ _ _ before after }
    later

end Along

namespace Program.Respects

variable {World Label Error Result : Type}
variable {program : Program World Label}
variable {related : Scene World Label → Scene World Label → Prop}
variable {allowed : Moment World Label → Prop}

/-- The moments of code are related, given that those of the bodies it calls are. -/
theorem code_along
    (respects : program.Respects related allowed)
    {depth : Nat}
    (bodies : ∀ label arguments scene,
      (∀ moment ∈ program.within depth label arguments scene, allowed moment) →
      Along related scene (program.within depth label arguments scene)
        (program.invoke depth label arguments scene).2)
    (code : Code World Label Error Result)
    (scene : Scene World Label)
    (allAllowed : ∀ moment ∈ program.moments depth code scene, allowed moment) :
    Along related scene (program.moments depth code scene)
      (program.run depth code scene).2 := by
  have passing {start : Scene World Label} : related start start :=
    respects.refl start
  induction code generalizing scene with
  | done ending =>
      cases ending <;> exact .cons respects.trans passing passing (.nil passing)
  | panic payload =>
      exact .cons respects.trans passing passing (.nil passing)
  | overflow =>
      exact .cons respects.trans passing passing (.nil passing)
  | look next inductionHypothesis =>
      have later := inductionHypothesis scene scene fun moment member =>
        allAllowed moment (List.mem_cons_of_mem _ member)
      exact .cons respects.trans passing passing later
  | write world next inductionHypothesis =>
      have later :=
        inductionHypothesis { scene with world := world } fun moment member =>
        allAllowed moment (List.mem_cons_of_mem _ member)
      exact .cons respects.trans passing (respects.write scene world) later
  | assign name value next inductionHypothesis =>
      have later :=
        inductionHypothesis (scene.assign name value) fun moment member =>
        allAllowed moment (List.mem_cons_of_mem _ member)
      exact .cons respects.trans passing (respects.assign scene name value) later
  | makeStub name next inductionHypothesis =>
      have later :=
        inductionHypothesis (scene.makeStub name).1 (scene.makeStub name).2
          fun moment member =>
            allAllowed moment (List.mem_cons_of_mem _ (List.mem_cons_of_mem _ member))
      exact
        .cons respects.trans passing passing
          (.cons respects.trans (respects.makeStub scene name) passing later)
  | operate operation next inductionHypothesis =>
      have called :
          (∀ moment ∈ operation.moments (program.within depth) scene, allowed moment) →
            Along related scene (operation.moments (program.within depth) scene)
              (operation.handed (program.invoke depth) scene) := by
        intro calleeAllowed
        unfold Operation.moments at calleeAllowed ⊢
        unfold Operation.handed
        cases callee : operation.callee? scene.store with
        | none =>
            exact .nil passing
        | some call =>
            rw [callee] at calleeAllowed
            exact bodies call.1 call.2 scene calleeAllowed
      rcases performed :
          operation.perform (program.invoke depth) scene with ⟨ending, reached⟩
      simp only [Program.moments, Code.moments, performed] at allAllowed ⊢
      simp only [Program.run, Code.execute, performed]
      have begun :=
        called fun moment member =>
          allAllowed moment (List.mem_cons_of_mem _ (List.mem_append_left _ member))
      have finished :
          related (operation.handed (program.invoke depth) scene) reached :=
        respects.own depth operation scene ending reached performed
          (allAllowed _ (by simp))
      -- the end of the operation is followed by the code that its answer selects, if any
      refine .cons respects.trans passing passing (.append respects.trans begun ?_)
      cases ending with
      | returned value =>
          refine .cons respects.trans finished passing ?_
          apply inductionHypothesis (.ok value) reached
          intro moment member
          exact allAllowed moment
            (List.mem_cons_of_mem _
              (List.mem_append_right _ (List.mem_cons_of_mem _ member)))
      | stopped error =>
          refine .cons respects.trans finished passing ?_
          apply inductionHypothesis (.error error) reached
          intro moment member
          exact allAllowed moment
            (List.mem_cons_of_mem _
              (List.mem_append_right _ (List.mem_cons_of_mem _ member)))
      | panicked payload =>
          exact .cons respects.trans finished passing (.nil passing)
      | overflowed =>
          exact .cons respects.trans finished passing (.nil passing)

theorem within_along
    (respects : program.Respects related allowed)
    (depth : Nat)
    (label : Label)
    (arguments : List Value)
    (scene : Scene World Label)
    (allAllowed : ∀ moment ∈ program.within depth label arguments scene, allowed moment) :
    Along related scene (program.within depth label arguments scene)
      (program.invoke depth label arguments scene).2 := by
  induction depth generalizing label arguments scene with
  | zero =>
      exact .cons respects.trans (respects.refl scene) (respects.refl scene)
        (.nil (respects.refl scene))
  | succ depth inductionHypothesis =>
      exact respects.code_along inductionHypothesis
        (program.body label arguments) scene allAllowed

/--
What every step of a program's runs respects holds between any two moments of a
run, from its start to its end.
-/
theorem moments_along
    (respects : program.Respects related allowed)
    (depth : Nat)
    (code : Code World Label Error Result)
    (scene : Scene World Label)
    (allAllowed : ∀ moment ∈ program.moments depth code scene, allowed moment) :
    Along related scene (program.moments depth code scene)
      (program.run depth code scene).2 :=
  respects.code_along (respects.within_along depth) code scene allAllowed

end Program.Respects

namespace Program

variable {World Label Error Result : Type}

theorem code_faithful
    (program : Program World Label)
    {depth : Nat}
    (bodies : ∀ label arguments scene,
      ∀ moment ∈ program.within depth label arguments scene, moment.Faithful program)
    (code : Code World Label Error Result)
    (scene : Scene World Label) :
    ∀ moment ∈ program.moments depth code scene, moment.Faithful program := by
  induction code generalizing scene with
  | done ending =>
      simp [Program.moments, Code.moments, Moment.Faithful]
  | panic payload =>
      simp [Program.moments, Code.moments, Moment.Faithful]
  | overflow =>
      simp [Program.moments, Code.moments, Moment.Faithful]
  | look next inductionHypothesis =>
      exact List.forall_mem_cons.mpr ⟨trivial, inductionHypothesis scene scene⟩
  | write world next inductionHypothesis =>
      exact List.forall_mem_cons.mpr ⟨trivial, inductionHypothesis _⟩
  | assign name value next inductionHypothesis =>
      exact List.forall_mem_cons.mpr ⟨trivial, inductionHypothesis _⟩
  | makeStub name next inductionHypothesis =>
      exact
        List.forall_mem_cons.mpr ⟨trivial,
          List.forall_mem_cons.mpr ⟨rfl, inductionHypothesis _ _⟩⟩
  | operate operation next inductionHypothesis =>
      have called :
          ∀ moment ∈ operation.moments (program.within depth) scene,
            moment.Faithful program := by
        unfold Operation.moments
        split
        · simp
        · next label arguments _ => exact bodies label arguments scene
      rcases performed :
          operation.perform (program.invoke depth) scene with ⟨ending, reached⟩
      simp only [Program.moments, Code.moments, performed]
      refine List.forall_mem_cons.mpr ⟨trivial, ?_⟩
      refine List.forall_mem_append.mpr ⟨called, List.forall_mem_cons.mpr ⟨performed, ?_⟩⟩
      cases ending with
      | returned value => exact inductionHypothesis (.ok value) reached
      | stopped error => exact inductionHypothesis (.error error) reached
      | panicked payload => simp
      | overflowed => simp

/-- Every moment of a run records what came of it. -/
theorem moments_faithful
    (program : Program World Label)
    (depth : Nat)
    (code : Code World Label Error Result)
    (scene : Scene World Label) :
    ∀ moment ∈ program.moments depth code scene, moment.Faithful program := by
  apply program.code_faithful
  induction depth with
  | zero =>
      simp [within, Moment.Faithful]
  | succ depth inductionHypothesis =>
      intro label arguments scene
      exact program.code_faithful inductionHypothesis
        (program.body label arguments) scene

end Program

end Conformance
