import Conformance.Proofs.Program.Growth

namespace Conformance

/-!
# Courses

A program at work runs one piece of code after another.  A piece leaves the
objects and the world to the next one, which may run in another context.  The
moments of all of them, in order, are a course.

`Trail` says what may come after what: every moment follows from the scene before
it by one step.  A trail can be cut anywhere, so what holds of one step carries
over from any moment of a course to any later one.
-/

/-- The scene that moments lead to from a start. -/
def Moment.sceneAfter
    {World Label : Type}
    (start : Scene World Label) :
    List (Moment World Label) → Scene World Label
  | [] => start
  | moment :: rest => Moment.sceneAfter moment.scene rest

/-- Nothing differs between two scenes but the world and the variables of the context. -/
structure Scene.Idle
    {World Label : Type}
    (before after : Scene World Label) : Prop where
  store : after.store = before.store
  stubs : after.context.stubs = before.context.stubs

/-- Two scenes have the same objects. -/
def Scene.SameObjects
    {World Label : Type}
    (before after : Scene World Label) : Prop :=
  after.store = before.store

/--
A moment comes next after a scene.  What counts as no step at all is a parameter;
an operation ends after what the body that it runs leaves.
-/
inductive Moment.Follows
    {World Label : Type}
    (program : Program World Label)
    (idle : Scene World Label → Scene World Label → Prop)
    (scene : Scene World Label) :
    Moment World Label → Prop where
  | passed
      {reached : Scene World Label}
      (rests : idle scene reached) :
      Follows program idle scene (.passed reached)
  | askedStub
      {name : String}
      {before reached : Scene World Label}
      {answer : Except Misuse Value}
      (rests : idle scene before)
      (asked : before.makeStub name = (answer, reached)) :
      Follows program idle scene (.askedStub name before answer reached)
  | began
      {operation : Operation Label}
      {reached : Scene World Label}
      (rests : idle scene reached) :
      Follows program idle scene (.began operation reached)
  | ended
      {depth : Nat}
      {operation : Operation Label}
      {start reached : Scene World Label}
      {ending : Ending Raised Value}
      (rests : idle scene (operation.handed (program.invoke depth) start))
      (performed : operation.perform (program.invoke depth) start = (ending, reached)) :
      Follows program idle scene (.ended depth operation start ending reached)

/-- Moments that follow one another from a start to a finish. -/
inductive Trail
    {World Label : Type}
    (program : Program World Label)
    (idle : Scene World Label → Scene World Label → Prop) :
    Scene World Label → List (Moment World Label) → Scene World Label → Prop where
  | nil
      {start finish : Scene World Label}
      (rests : idle start finish) :
      Trail program idle start [] finish
  | cons
      {start finish : Scene World Label}
      {moment : Moment World Label}
      {rest : List (Moment World Label)}
      (follows : moment.Follows program idle start)
      (later : Trail program idle moment.scene rest finish) :
      Trail program idle start (moment :: rest) finish

/-- A piece of code to run, and the context that it runs in. -/
structure Task (World Label : Type) where
  context : Context
  code : Code World Label Fault Unit

/-- A scene without objects. -/
def Scene.fresh
    {World Label : Type}
    (context : Context)
    (world : World) :
    Scene World Label :=
  ⟨.empty, context, world⟩

/-- The moments of tasks that run one after the other. -/
def Program.course
    {World Label : Type}
    (program : Program World Label)
    (depth : Nat) :
    List (Task World Label) → Scene World Label → List (Moment World Label)
  | [], _ => []
  | task :: rest, scene =>
      program.moments depth task.code (scene.enter task.context) ++
        program.course depth rest
          (program.run depth task.code (scene.enter task.context)).2

namespace Moment

variable {World Label : Type}

@[simp] theorem sceneAfter_nil (start : Scene World Label) :
    sceneAfter start [] = start :=
  rfl

@[simp] theorem sceneAfter_cons
    (start : Scene World Label)
    (moment : Moment World Label)
    (rest : List (Moment World Label)) :
    sceneAfter start (moment :: rest) = sceneAfter moment.scene rest :=
  rfl

@[simp] theorem sceneAfter_append
    (start : Scene World Label)
    (earlier later : List (Moment World Label)) :
    sceneAfter start (earlier ++ later) =
      sceneAfter (sceneAfter start earlier) later := by
  induction earlier generalizing start with
  | nil => rfl
  | cons moment rest inductionHypothesis => exact inductionHypothesis moment.scene

/-- What follows after an idle step follows without it. -/
theorem Follows.of_idle
    {program : Program World Label}
    {idle : Scene World Label → Scene World Label → Prop}
    {before scene : Scene World Label}
    {moment : Moment World Label}
    (follows : moment.Follows program idle scene)
    (earlier : ∀ reached, idle scene reached → idle before reached) :
    moment.Follows program idle before := by
  cases follows with
  | passed rests => exact .passed (earlier _ rests)
  | askedStub rests asked => exact .askedStub (earlier _ rests) asked
  | began rests => exact .began (earlier _ rests)
  | ended rests performed => exact .ended (earlier _ rests) performed

theorem Follows.mono
    {program : Program World Label}
    {idle coarser : Scene World Label → Scene World Label → Prop}
    {scene : Scene World Label}
    {moment : Moment World Label}
    (follows : moment.Follows program idle scene)
    (weaker : ∀ before after, idle before after → coarser before after) :
    moment.Follows program coarser scene := by
  cases follows with
  | passed rests => exact .passed (weaker _ _ rests)
  | askedStub rests asked => exact .askedStub (weaker _ _ rests) asked
  | began rests => exact .began (weaker _ _ rests)
  | ended rests performed => exact .ended (weaker _ _ rests) performed

end Moment

namespace Scene

variable {World Label : Type} {first second third : Scene World Label}

theorem SameObjects.refl (scene : Scene World Label) : scene.SameObjects scene :=
  rfl

theorem Idle.refl (scene : Scene World Label) : scene.Idle scene :=
  ⟨rfl, rfl⟩

theorem Idle.trans (earlier : first.Idle second) (later : second.Idle third) :
    first.Idle third where
  store := later.store.trans earlier.store
  stubs := later.stubs.trans earlier.stubs

end Scene

namespace Trail

variable {World Label : Type} {program : Program World Label}
variable {idle coarser : Scene World Label → Scene World Label → Prop}
variable {start middle finish : Scene World Label}
variable {moments leading trailing : List (Moment World Label)}

/-- A trail may begin with an idle step. -/
theorem of_idle
    (trail : Trail program idle middle moments finish)
    (earlier : ∀ reached, idle middle reached → idle start reached) :
    Trail program idle start moments finish := by
  cases trail with
  | nil rests => exact .nil (earlier _ rests)
  | cons follows later => exact .cons (follows.of_idle earlier) later

theorem append
    (trans : ∀ first second third, idle first second →
      idle second third → idle first third)
    (first : Trail program idle start leading middle)
    (later : Trail program idle middle trailing finish) :
    Trail program idle start (leading ++ trailing) finish := by
  induction first with
  | nil rests => exact later.of_idle fun reached => trans _ _ reached rests
  | cons follows _ inductionHypothesis =>
      exact .cons follows (inductionHypothesis later)

theorem mono
    (trail : Trail program idle start moments finish)
    (weaker : ∀ before after, idle before after → coarser before after) :
    Trail program coarser start moments finish := by
  induction trail with
  | nil rests => exact .nil (weaker _ _ rests)
  | cons follows _ inductionHypothesis =>
      exact .cons (follows.mono weaker) inductionHypothesis

/-- A trail can be cut between any two of its moments. -/
theorem cut
    (refl : ∀ scene, idle scene scene)
    (trail : Trail program idle start (leading ++ trailing) finish) :
    Trail program idle start leading (Moment.sceneAfter start leading) ∧
      Trail program idle (Moment.sceneAfter start leading) trailing finish := by
  induction leading generalizing start with
  | nil => exact ⟨.nil (refl start), trail⟩
  | cons moment rest inductionHypothesis =>
      cases trail with
      | cons follows later =>
          obtain ⟨restTrail, trailingTrail⟩ := inductionHypothesis later
          exact ⟨.cons follows restTrail, trailingTrail⟩

/-- A trail up to one of its points is a trail. -/
theorem upTo
    (refl : ∀ scene, idle scene scene)
    (trail : Trail program idle start moments finish)
    (point : leading <+: moments) :
    Trail program idle start leading (Moment.sceneAfter start leading) := by
  obtain ⟨trailing, rfl⟩ := point
  exact (trail.cut refl).1

/-- The stretch of a trail between two of its points is a trail. -/
theorem stretch
    {between : List (Moment World Label)}
    (refl : ∀ scene, idle scene scene)
    (trail : Trail program idle start moments finish)
    (points : leading ++ between <+: moments) :
    Trail program idle (Moment.sceneAfter start leading) between
      (Moment.sceneAfter start (leading ++ between)) := by
  rw [Moment.sceneAfter_append]
  have later := ((trail.upTo refl points).cut refl).2
  rw [Moment.sceneAfter_append] at later
  exact later

/-- A moment of a trail follows the scene that the moments before it lead to. -/
theorem follows_of_prefix
    {moment : Moment World Label}
    (refl : ∀ scene, idle scene scene)
    (trail : Trail program idle start moments finish)
    (point : leading ++ [moment] <+: moments) :
    moment.Follows program idle (Moment.sceneAfter start leading) := by
  cases trail.stretch refl point with
  | cons follows _ => exact follows

theorem follows_of_mem
    {moment : Moment World Label}
    (refl : ∀ scene, idle scene scene)
    (trail : Trail program idle start moments finish)
    (member : moment ∈ moments) :
    ∃ scene, moment.Follows program idle scene := by
  obtain ⟨leading, trailing, rfl⟩ := List.mem_iff_append.mp member
  have point : leading ++ [moment] <+: leading ++ moment :: trailing :=
    ⟨trailing, by simp⟩
  exact ⟨_, trail.follows_of_prefix refl point⟩

/-- What a moment of a trail records of an operation is what the operation does. -/
theorem performed_of_mem
    {depth : Nat}
    {operation : Operation Label}
    {before after : Scene World Label}
    {ending : Ending Raised Value}
    (refl : ∀ scene, idle scene scene)
    (trail : Trail program idle start moments finish)
    (member : .ended depth operation before ending after ∈ moments) :
    operation.perform (program.invoke depth) before = (ending, after) := by
  obtain ⟨scene, follows⟩ := trail.follows_of_mem refl member
  cases follows with
  | ended rests performed => exact performed

end Trail

namespace Program

variable {World Label Error Result : Type} (program : Program World Label)

theorem code_trail
    {depth : Nat}
    (bodies : ∀ label arguments scene,
      Trail program Scene.Idle scene (program.within depth label arguments scene)
        (program.invoke depth label arguments scene).2)
    (code : Code World Label Error Result)
    (scene : Scene World Label) :
    Trail program Scene.Idle scene (program.moments depth code scene)
      (program.run depth code scene).2 := by
  have resting (scene : Scene World Label) : scene.Idle scene := .refl scene
  induction code generalizing scene with
  | done ending =>
      cases ending <;> exact .cons (.passed (resting scene)) (.nil (resting scene))
  | panic payload =>
      exact .cons (.passed (resting scene)) (.nil (resting scene))
  | overflow =>
      exact .cons (.passed (resting scene)) (.nil (resting scene))
  | look next inductionHypothesis =>
      exact .cons (.passed (resting scene)) (inductionHypothesis scene scene)
  | write world next inductionHypothesis =>
      have later := inductionHypothesis { scene with world := world }
      refine .cons (.passed (resting scene)) (later.of_idle fun reached rests => ?_)
      exact ⟨rests.store, rests.stubs⟩
  | assign name value next inductionHypothesis =>
      have later := inductionHypothesis (scene.assign name value)
      refine .cons (.passed (resting scene)) (later.of_idle fun reached rests => ?_)
      exact ⟨rests.store, rests.stubs⟩
  | makeStub name next inductionHypothesis =>
      have later :=
        inductionHypothesis (scene.makeStub name).1 (scene.makeStub name).2
      exact .cons (.passed (resting scene)) (.cons (.askedStub (resting scene) rfl) later)
  | operate operation next inductionHypothesis =>
      have called :
          Trail program Scene.Idle scene (operation.moments (program.within depth) scene)
            (operation.handed (program.invoke depth) scene) := by
        unfold Operation.moments Operation.handed
        cases operation.callee? scene.store with
        | none => exact .nil (resting scene)
        | some call => exact bodies call.1 call.2 scene
      rcases performed :
          operation.perform (program.invoke depth) scene with ⟨ending, reached⟩
      simp only [Program.moments, Code.moments, Program.run, Code.execute, performed]
      refine .cons (.began (resting scene)) (called.append (fun _ _ _ => .trans) ?_)
      refine .cons (.ended (resting _) performed) ?_
      cases ending with
      | returned value => exact inductionHypothesis (.ok value) reached
      | stopped error => exact inductionHypothesis (.error error) reached
      | panicked payload => exact .nil (resting reached)
      | overflowed => exact .nil (resting reached)

/-- The moments of running code are a trail from its start to its end. -/
theorem moments_trail
    (depth : Nat)
    (code : Code World Label Error Result)
    (scene : Scene World Label) :
    Trail program Scene.Idle scene (program.moments depth code scene)
      (program.run depth code scene).2 := by
  apply program.code_trail
  induction depth with
  | zero =>
      intro label arguments scene
      exact .cons (.passed (.refl scene)) (.nil (.refl scene))
  | succ depth inductionHypothesis =>
      intro label arguments scene
      exact program.code_trail inductionHypothesis
        (program.body label arguments) scene

/-- A course is a trail over the objects: between two tasks only the context changes. -/
theorem course_trail
    (depth : Nat)
    (tasks : List (Task World Label))
    (scene : Scene World Label) :
    ∃ finish, Trail program Scene.SameObjects scene
      (program.course depth tasks scene) finish := by
  induction tasks generalizing scene with
  | nil => exact ⟨scene, .nil rfl⟩
  | cons task rest inductionHypothesis =>
      obtain ⟨finish, later⟩ :=
        inductionHypothesis (program.run depth task.code (scene.enter task.context)).2
      have first := program.moments_trail depth task.code (scene.enter task.context)
      have entered :
          Trail program Scene.SameObjects scene
            (program.moments depth task.code (scene.enter task.context))
            (program.run depth task.code (scene.enter task.context)).2 :=
        (first.mono fun _ _ rests => rests.store).of_idle fun _ rests => rests
      exact ⟨finish,
        entered.append (fun _ _ _ earlier after => after.trans earlier) later⟩

/--
An operation, from its beginning through the moments of the body it runs to its end.
-/
def episode
    (depth : Nat)
    (operation : Operation Label)
    (start : Scene World Label)
    (ending : Ending Raised Value)
    (finish : Scene World Label) :
    List (Moment World Label) :=
  .began operation start ::
    (operation.moments (program.within depth) start ++
      [.ended depth operation start ending finish])

theorem code_episode
    {depth nesting : Nat}
    {operation : Operation Label}
    {start finish : Scene World Label}
    {ending : Ending Raised Value}
    (bodies : ∀ label arguments scene,
      .ended nesting operation start ending finish ∈
        program.within depth label arguments scene →
      program.episode nesting operation start ending finish <:+:
        program.within depth label arguments scene)
    (code : Code World Label Error Result)
    (scene : Scene World Label)
    (member :
      .ended nesting operation start ending finish ∈
        program.moments depth code scene) :
    program.episode nesting operation start ending finish <:+:
      program.moments depth code scene := by
  have inRest {moment : Moment World Label} {rest : List (Moment World Label)}
      (found : program.episode nesting operation start ending finish <:+: rest) :
      program.episode nesting operation start ending finish <:+: moment :: rest :=
    found.trans (List.infix_cons List.infix_rfl)
  induction code generalizing scene with
  | done given => simp [Program.moments, Code.moments] at member
  | panic payload => simp [Program.moments, Code.moments] at member
  | overflow => simp [Program.moments, Code.moments] at member
  | look next inductionHypothesis =>
      rcases List.mem_cons.mp member with isHead | later
      · cases isHead
      · exact inRest (inductionHypothesis scene scene later)
  | write world next inductionHypothesis =>
      rcases List.mem_cons.mp member with isHead | later
      · cases isHead
      · exact inRest (inductionHypothesis _ later)
  | assign name value next inductionHypothesis =>
      rcases List.mem_cons.mp member with isHead | later
      · cases isHead
      · exact inRest (inductionHypothesis _ later)
  | makeStub name next inductionHypothesis =>
      rcases List.mem_cons.mp member with isHead | afterHead
      · cases isHead
      · rcases List.mem_cons.mp afterHead with isAsking | later
        · cases isAsking
        · exact inRest (inRest (inductionHypothesis _ _ later))
  | operate other next inductionHypothesis =>
      rcases performed :
          other.perform (program.invoke depth) scene with ⟨given, reached⟩
      simp only [Program.moments, Code.moments, performed] at member ⊢
      rcases List.mem_cons.mp member with isBeginning | afterBeginning
      · cases isBeginning
      rcases List.mem_append.mp afterBeginning with inCallee | fromEnd
      · have called :
            program.episode nesting operation start ending finish <:+:
              other.moments (program.within depth) scene := by
          unfold Operation.moments at inCallee ⊢
          split at inCallee
          · simp at inCallee
          · next label arguments _ => exact bodies label arguments scene inCallee
        exact inRest (called.trans (List.prefix_append _ _).isInfix)
      rcases List.mem_cons.mp fromEnd with isEnd | later
      · -- the operation sought is the one that the code performs here
        cases isEnd
        exact ⟨[], _, by simp [episode]; rfl⟩
      · refine inRest (List.IsInfix.trans (inRest ?_) (List.suffix_append _ _).isInfix)
        cases given with
        | returned value => exact inductionHypothesis (.ok value) reached later
        | stopped error => exact inductionHypothesis (.error error) reached later
        | panicked payload => simp at later
        | overflowed => simp at later

/--
Between the beginning and the end of an operation lie the
moments of the body it runs.
-/
theorem episode_of_mem_moments
    {depth nesting : Nat}
    {operation : Operation Label}
    {start finish scene : Scene World Label}
    {ending : Ending Raised Value}
    {code : Code World Label Error Result}
    (member :
      .ended nesting operation start ending finish ∈
        program.moments depth code scene) :
    program.episode nesting operation start ending finish <:+:
      program.moments depth code scene := by
  refine program.code_episode ?_ code scene member
  clear member
  induction depth with
  | zero => simp [within]
  | succ depth inductionHypothesis =>
      intro label arguments scene member
      exact program.code_episode inductionHypothesis
        (program.body label arguments) scene member

theorem episode_of_mem_course
    {depth nesting : Nat}
    {operation : Operation Label}
    {start finish scene : Scene World Label}
    {ending : Ending Raised Value}
    {tasks : List (Task World Label)}
    (member : .ended nesting operation start ending finish ∈
      program.course depth tasks scene) :
    program.episode nesting operation start ending finish <:+:
      program.course depth tasks scene := by
  induction tasks generalizing scene with
  | nil => simp [course] at member
  | cons task rest inductionHypothesis =>
      rcases List.mem_append.mp member with inFirst | inRest
      · exact (program.episode_of_mem_moments inFirst).trans
          (List.prefix_append _ _).isInfix
      · exact (inductionHypothesis inRest).trans (List.suffix_append _ _).isInfix

end Program

end Conformance
