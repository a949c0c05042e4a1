import Conformance.Corpus
import Conformance.Proofs.Hash.Assigning
import Conformance.Proofs.Program.Returning
import Conformance.Proofs.Suite.Passing

namespace Conformance.Corpus

/-!
# The checks of hash fallbacks

Every check of the two groups is gone through step by step, from any scene that its
scenario can start in.  What is assigned to a hash, and what comes of it, is read off
the list of the ways in which an assignment ends.
-/

/-- How the callables of the corpus run in its checks. -/
def invoke : Invoke Unit Routine :=
  machine.program.invoke machine.depth

/-- A check returns from every scene on a fork of a context, and leaves no stub unmet. -/
def HoldsIn (context : Context) (check : Check Unit) : Prop :=
  ∀ scene : Scene Unit Routine,
    scene.context = context.fork →
    check.Returns invoke scene fun _ after => after.firstUnmet? = none

/-- A plain callable that always gives one value was made, and only that. -/
structure MadeConstant
    (before : Scene Unit Routine)
    (callable : Proc)
    (value : Value)
    (after : Scene Unit Routine) : Prop where
  plain : callable.flavour = .plain
  behaves : after.store.behaviours callable.id = .constant value
  hashes : after.store.hashes = before.store.hashes
  stubs : after.store.stubs = before.store.stubs
  context : after.context = before.context

variable {context : Context} {scene : Scene Unit Routine} {hash : HashRef}

/-- A scenario without setup hooks passes if its check holds. -/
theorem passes_of_holdsIn
    {check : Check Unit}
    (holds : HoldsIn context check)
    (name : String) :
    (scenario name check).Passes machine context := by
  intro group place scene
  obtain ⟨_, after, executed, met⟩ := holds (scene.enter context.fork) rfl
  have ran : machine.run check (scene.enter context.fork) = (.returned (), after) :=
    executed
  simp [Scenario.execute, Scenario.steps, scenario, Machine.runHooks, ran,
    Scenario.outcomeOf, met]

/-- In the context that a scenario starts in there is no stub to be met. -/
theorem met_of_context_eq
    {after : Scene Unit Routine}
    (forked : scene.context = context.fork)
    (sameContext : after.context = scene.context) :
    after.firstUnmet? = none := by
  rw [Scene.firstUnmet?, sameContext, forked]
  rfl

/-- A plain callable takes any arguments. -/
theorem receive_of_plain
    {callable : Proc}
    (plain : callable.flavour = .plain)
    (arguments : List Value) :
    ∃ received, callable.receive arguments = .ok received := by
  simp only [Proc.receive, plain]
  split <;> exact ⟨_, rfl⟩

theorem takesTwo_of_plain
    {callable : Proc}
    (plain : callable.flavour = .plain) :
    callable.TakesTwo := by
  obtain ⟨id, flavour, arity⟩ := callable
  cases plain
  exact .plain id arity

/-- A declaration was made or refined on a stub, and only that. -/
structure Declared
    (before : Scene Unit Routine)
    (stub : Nat)
    (change : StubState → StubState)
    (after : Scene Unit Routine) : Prop where
  stub : after.store.stubs stub = change (before.store.stubs stub)
  hashes : after.store.hashes = before.store.hashes
  behaviours : after.store.behaviours = before.store.behaviours
  context : after.context = before.context

/-- A hash has the state that it had before what left all hashes as they were. -/
theorem hash_eq_of_hashes_eq
    {after : Scene Unit Routine}
    {state : HashState}
    (hashes : after.store.hashes = scene.store.hashes)
    (before : scene.store.hash hash = state) :
    after.store.hash hash = state :=
  (congrFun hashes hash.id).trans before

section Steps

variable {Error : Type} [OfRaised Error] {wanted : Value → Scene Unit Routine → Prop}

theorem returns_call_constant
    {callable : Proc}
    {arguments : List Value}
    {value : Value}
    (plain : callable.flavour = .plain)
    (behaves : scene.store.behaviours callable.id = .constant value)
    (holds : wanted value scene) :
    (Code.perform (.call callable arguments) : Step Error Value).Returns
      invoke scene wanted := by
  obtain ⟨received, receives⟩ := receive_of_plain plain arguments
  refine Code.returns_perform ?_ holds
  simp only [Operation.perform, Proc.call, receives, behaves]

theorem returns_call_paris
    {callable : Proc}
    {arguments : List Value}
    (plain : callable.flavour = .plain)
    (behaves : scene.store.behaviours callable.id = .body .paris)
    (holds :
      wanted (.text ⟨scene.store.next, "Paris"⟩)
        (scene.withStore scene.store.advance)) :
    (Code.perform (.call callable arguments) : Step Error Value).Returns
      invoke scene wanted := by
  obtain ⟨received, receives⟩ := receive_of_plain plain arguments
  refine Code.returns_perform ?_ holds
  simp only [Operation.perform, Proc.call, receives, behaves]
  rfl

theorem returns_shouldReceive (stub : Nat) (method : String) :
    (Code.perform (.shouldReceive stub method) : Step Error Value).Returns invoke
      scene fun _ after =>
      Declared scene stub (fun state => state.shouldReceive method) after :=
  Code.returns_perform rfl ⟨Table.put_same _ _ _, rfl, rfl, rfl⟩

theorem returns_andReturn (stub : Nat) (method : String) (value : Value) :
    (Code.perform (.andReturn stub method value) : Step Error Value).Returns invoke
      scene fun _ after =>
      Declared scene stub (fun state => state.andReturn method value) after :=
  Code.returns_perform rfl ⟨Table.put_same _ _ _, rfl, rfl, rfl⟩

/-- An absent key is answered by the callable of the hash. -/
theorem returns_get_computed
    {callable : Proc}
    {key value : Value}
    (absent : (scene.store.hash hash).entries = [])
    (falls : (scene.store.hash hash).defaultProc = some callable)
    (plain : callable.flavour = .plain)
    (behaves : scene.store.behaviours callable.id = .constant value)
    (holds : wanted value scene) :
    (Code.perform (.get hash key) : Step Error Value).Returns invoke scene wanted := by
  obtain ⟨received, receives⟩ := receive_of_plain plain [.hash hash, key]
  refine Code.returns_perform ?_ holds
  simp [Operation.perform, HashRef.get, HashState.find?, absent, falls,
    Proc.call, receives, behaves]

/-- Without a callable an absent key is answered by the fixed value. -/
theorem returns_get_fixed
    {key : Value}
    (absent : (scene.store.hash hash).entries = [])
    (noCallable : (scene.store.hash hash).defaultProc = none)
    (holds : wanted (scene.store.hash hash).default scene) :
    (Code.perform (.get hash key) : Step Error Value).Returns invoke scene wanted := by
  refine Code.returns_perform ?_ holds
  simp [Operation.perform, HashRef.get, HashState.find?, absent, noCallable]

theorem returns_assignDefaultProc
    {argument answer : Value}
    {after : Scene Unit Routine}
    (assignment : hash.Assignment invoke argument scene (.returned answer) after)
    (holds : wanted answer after) :
    (assignDefaultProc hash argument : Step Error Value).Returns invoke scene wanted :=
  Code.returns_perform assignment.performed holds

theorem raises_assignDefaultProc
    {argument : Value}
    {error : Raised}
    {kind : ErrorKind}
    {after : Scene Unit Routine}
    {wanted : Scene Unit Routine → Prop}
    (assignment : hash.Assignment invoke argument scene (.stopped error) after)
    (isOfKind : error.isA kind = true)
    (holds : wanted after) :
    (assignDefaultProc hash argument).Raises invoke scene kind wanted :=
  Code.raises_perform assignment.performed isOfKind holds

theorem returns_defaultProcValue
    (holds : wanted ((scene.store.hash hash).defaultProc.elim .nil .proc) scene) :
    (defaultProcValue hash).Returns invoke scene wanted := by
  refine .bind (Code.returns_hashState ?_)
  cases fallback : (scene.store.hash hash).defaultProc with
  | none => exact Code.returns_pure (by simpa [fallback] using holds)
  | some callable => exact Code.returns_pure (by simpa [fallback] using holds)

theorem returns_defaultProcOf
    {callable : Proc}
    {wanted : Proc → Scene Unit Routine → Prop}
    (falls : (scene.store.hash hash).defaultProc = some callable)
    (holds : wanted callable scene) :
    (defaultProcOf hash).Returns invoke scene wanted := by
  refine .bind (Code.returns_hashState ?_)
  rw [falls]
  exact Code.returns_pure holds

theorem returns_expectText
    {reference : TextRef}
    {text : String}
    {wanted : Unit → Scene Unit Routine → Prop}
    (same : reference.text = text)
    (holds : wanted () (scene.withStore scene.store.advance)) :
    (expectText (.text reference) text).Returns invoke scene wanted := by
  refine .bind (Code.returns_newText (Expectation.returns_check ?_ holds))
  simp [ValueMatcher.holds, Value.equal, same]

end Steps

section Making

variable (scene)

/-- The hash falls back to a plain callable that gives `"Paris"`. -/
theorem returns_parisHash :
    parisHash.Returns invoke scene fun hash after =>
      after.context = scene.context ∧
        ∃ callable : Proc,
          callable.flavour = .plain ∧
            after.store.hash hash = .new (.computed callable) ∧
            after.store.behaviours callable.id = .body .paris := by
  refine .bind (Code.returns_newProc ((Code.returns_newHash _).mono ?_))
  rintro hash after ⟨sameContext, sameBehaviours, state⟩
  refine ⟨sameContext, _, rfl, state, ?_⟩
  rw [sameBehaviours]
  exact Table.put_same _ _ _

theorem returns_frozenHash {Error : Type} [OfRaised Error] :
    (frozenHash : Step Error HashRef).Returns invoke scene fun hash after =>
      after.context = scene.context ∧ (after.store.hash hash).frozen = true := by
  refine .bind ((Code.returns_newHash .nothing).mono ?_)
  rintro hash made ⟨sameContext, -, -⟩
  refine .bind (Code.returns_perform rfl (Code.returns_pure ⟨sameContext, ?_⟩))
  rw [HashRef.store_hash_update]
  rfl

theorem returns_returning (value : Value) :
    (Code.returning value : Check Proc).Returns invoke scene fun callable after =>
      MadeConstant scene callable value after :=
  Code.returns_newProc ⟨rfl, Table.put_same _ _ _, rfl, rfl, rfl⟩

theorem returns_returningText (text : String) :
    (returningText text).Returns invoke scene fun callable after =>
      ∃ id, MadeConstant scene callable (.text ⟨id, text⟩) after := by
  refine .bind (Code.returns_newText ((returns_returning _ _).mono ?_))
  intro callable after made
  exact ⟨_, made.plain, made.behaves, made.hashes, made.stubs, made.context⟩

end Making

section Checks

variable (context : Context)

theorem callsBlock_holds : HoldsIn context callsBlock := by
  intro scene forked
  refine .bind ((returns_parisHash scene).mono ?_)
  rintro hash made ⟨sameContext, callable, plain, state, behaves⟩
  refine .bind (returns_defaultProcOf (by rw [state]; rfl) ?_)
  refine .bind (returns_call_paris plain behaves ?_)
  exact returns_expectText rfl (met_of_context_eq forked sameContext)

theorem givesSameBlock_holds : HoldsIn context givesSameBlock := by
  intro scene forked
  refine .bind (Code.returns_newProc (.bind ((Code.returns_newHash _).mono ?_)))
  rintro hash made ⟨sameContext, -, state⟩
  refine .bind (returns_defaultProcValue (Expectation.returns_check ?_ ?_))
  · simp [state, HashState.new, ValueMatcher.holds, Value.same_iff]
  · exact met_of_context_eq forked sameContext

theorem givesNoBlock_holds : HoldsIn context givesNoBlock := by
  intro scene forked
  refine .bind ((Code.returns_newHash _).mono ?_)
  rintro hash made ⟨sameContext, -, state⟩
  refine .bind (returns_defaultProcValue ?_)
  rw [state]
  exact Expectation.returns_check rfl (met_of_context_eq forked sameContext)

theorem replacesBlock_holds : HoldsIn context replacesBlock := by
  intro scene forked
  refine .bind ((returns_parisHash scene).mono ?_)
  rintro hash _ ⟨sameContext, first, -, state, -⟩
  refine .bind ((returns_returningText _ "Montreal").mono ?_)
  rintro callable reached ⟨id, made⟩
  have unchanged := hash_eq_of_hashes_eq made.hashes state
  refine .bind (returns_assignDefaultProc
    (.stored (by rw [unchanged]; rfl) (.itself callable)
      (takesTwo_of_plain made.plain)) ?_)
  refine .bind (returns_defaultProcOf (by rw [HashRef.store_hash_update]; rfl) ?_)
  refine .bind (returns_call_constant made.plain made.behaves ?_)
  exact returns_expectText rfl (met_of_context_eq forked (made.context.trans sameContext))

/-- A stub on which one method was declared, with its answer, after so many calls. -/
def declaredStub (name method : String) (value : Value) (calls : Nat) : StubState :=
  ⟨name, [⟨method, value, .atLeastOnce, calls⟩]⟩

theorem andReturn_shouldReceive (name method : String) (value : Value) :
    ((StubState.new name).shouldReceive method).andReturn method value =
      declaredStub name method value 0 := by
  simp [StubState.new, StubState.shouldReceive, StubState.andReturn,
    StubState.refine, declaredStub]

/-- A call of the declared method is counted and answered. -/
theorem receive?_declaredStub (name method : String) (value : Value) (calls : Nat) :
    (declaredStub name method value calls).receive? method =
      some (value, declaredStub name method value (calls + 1)) := by
  simp [StubState.receive?, StubState.find?, StubState.refine, declaredStub]

/-- A stub that is declared to convert is asked once, and what it answers is stored. -/
theorem returns_assign_declaredStub
    {Error : Type} [OfRaised Error]
    {stub calls : Nat}
    {name : String}
    {callable : Proc}
    (declared : scene.store.stubs stub =
      declaredStub name "to_proc" (.proc callable) calls)
    (unfrozen : (scene.store.hash hash).frozen = false)
    (takesTwo : callable.TakesTwo) :
    (assignDefaultProc hash (.object (.stub stub)) : Step Error Value).Returns invoke
      scene fun answer after =>
      answer = .object (.stub stub) ∧
        after.store.hash hash = (scene.store.hash hash).withDefaultProc callable ∧
        after.store.stubs stub =
          declaredStub name "to_proc" (.proc callable) (calls + 1) ∧
        after.store.behaviours = scene.store.behaviours ∧
        after.context = scene.context := by
  have sent :
      ObjectRef.send invoke (.stub stub) "to_proc" [] scene =
        (.returned (.proc callable),
          scene.withStore (scene.store.putStub stub
            (declaredStub name "to_proc" (.proc callable) (calls + 1)))) := by
    simp only [ObjectRef.send, declared, receive?_declaredStub]
  have responds : scene.store.respondsTo "to_proc" (.stub stub) = true := by
    simp [Store.respondsTo, declared, StubState.respondsTo, declaredStub]
  refine returns_assignDefaultProc
    (.stored unfrozen (.converted (.intro responds) sent) takesTwo)
      ⟨rfl, ?_, ?_, rfl, rfl⟩
  · exact hash.store_hash_update _ _
  · exact Table.put_same _ _ _

theorem convertsArgument_holds : HoldsIn context convertsArgument := by
  intro scene forked
  refine .bind ((returns_parisHash scene).mono ?_)
  rintro hash made ⟨sameContext, first, -, state, -⟩
  refine .bind (Code.returns_contextStub (by rw [sameContext, forked]; rfl) ?_)
  refine .bind (Code.returns_pure (.bind ((returns_shouldReceive _ _).mono ?_)))
  intro _ named received
  refine .bind ((returns_returningText _ "Montreal").mono ?_)
  rintro callable reached ⟨id, fresh⟩
  refine .bind ((returns_andReturn _ _ _).mono ?_)
  intro _ asked answers
  have declared :
      asked.store.stubs made.store.next =
        declaredStub "to_proc" "to_proc" (.proc callable) 0 := by
    rw [answers.stub, fresh.stubs, received.stub, ← andReturn_shouldReceive]
    exact congrArg (fun stub => (StubState.shouldReceive stub _).andReturn _ _)
      (Table.put_same _ _ _)
  have unchanged : asked.store.hash hash = .new (.computed first) :=
    hash_eq_of_hashes_eq answers.hashes
      (hash_eq_of_hashes_eq fresh.hashes (hash_eq_of_hashes_eq received.hashes state))
  have behaves := (congrFun answers.behaviours callable.id).trans fresh.behaves
  refine .bind ((returns_assign_declaredStub declared (by rw [unchanged]; rfl)
    (takesTwo_of_plain fresh.plain)).mono ?_)
  rintro _ after ⟨rfl, assigned, counted, sameBehaviours, stillContext⟩
  rw [unchanged] at assigned
  refine .bind (Expectation.returns_check
    (by simp [ValueMatcher.holds, Value.same_iff]) ?_)
  refine .bind (returns_get_computed (by rw [assigned]; rfl)
    (by rw [assigned]; rfl) fresh.plain
    ((congrFun sameBehaviours _).trans behaves) ?_)
  refine returns_expectText rfl ?_
  -- the context knows of this stub only, which was asked once
  have stubs : after.context.stubs = [made.store.next] := by
    rw [stillContext, answers.context, fresh.context, received.context,
      Context.addStub, sameContext, forked]
    rfl
  simp [Scene.firstUnmet?, Scene.withStore, Store.advance, stubs, counted,
    declaredStub, StubState.firstUnmet?, ExpectedCalls.satisfiedBy]

theorem overridesDefault_holds : HoldsIn context overridesDefault := by
  intro scene forked
  refine .bind ((Code.returns_newHash _).mono ?_)
  rintro hash _ ⟨sameContext, -, state⟩
  refine .bind ((returns_returning _ _).mono ?_)
  intro callable reached made
  have unchanged := hash_eq_of_hashes_eq made.hashes state
  refine .bind (returns_assignDefaultProc
    (.stored (by rw [unchanged]; rfl) (.itself callable)
      (takesTwo_of_plain made.plain)) ?_)
  refine .bind (Code.returns_hashState ?_)
  rw [HashRef.store_hash_update]
  refine .bind (Expectation.returns_check rfl ?_)
  refine .bind (returns_defaultProcOf (by rw [HashRef.store_hash_update]; rfl) ?_)
  refine .bind (returns_call_constant made.plain made.behaves ?_)
  exact Expectation.returns_check rfl
    (met_of_context_eq forked (made.context.trans sameContext))

theorem refusesInteger_holds : HoldsIn context refusesInteger := by
  intro scene forked
  refine .bind ((Code.returns_newHash _).mono ?_)
  rintro hash made ⟨sameContext, -, state⟩
  refine Expectation.returns_checkRaise (raises_assignDefaultProc
    (.inconvertible (by rw [state]; rfl) nofun nofun nofun)
      (ErrorKind.isA_self _) ?_)
  exact met_of_context_eq forked sameContext

theorem answersCallable_holds : HoldsIn context answersCallable := by
  intro scene forked
  refine .bind ((returns_returning _ _).mono ?_)
  intro callable _ made
  refine .bind ((Code.returns_newHash _).mono ?_)
  rintro hash reached ⟨sameContext, -, state⟩
  refine .bind (returns_assignDefaultProc
    (.stored (by rw [state]; rfl) (.itself callable) (takesTwo_of_plain made.plain)) ?_)
  refine Expectation.returns_check ?_
    (met_of_context_eq forked (sameContext.trans made.context))
  simp [ValueMatcher.holds, Value.same_iff]

theorem clearsWithNil_holds : HoldsIn context clearsWithNil := by
  intro scene forked
  refine .bind ((returns_parisHash scene).mono ?_)
  rintro hash made ⟨sameContext, callable, -, state, -⟩
  have met := met_of_context_eq forked sameContext
  refine .bind (returns_assignDefaultProc (.dropped (by rw [state]; rfl) rfl) ?_)
  have cleared := hash.store_hash_update HashState.withoutDefaultProc made
  rw [state] at cleared
  refine .bind (returns_defaultProcValue ?_)
  rw [cleared]
  refine .bind (Expectation.returns_check rfl ?_)
  refine .bind (returns_get_fixed (by rw [cleared]; rfl) (by rw [cleared]; rfl) ?_)
  rw [cleared]
  exact Expectation.returns_check rfl met

theorem answersNil_holds : HoldsIn context answersNil := by
  intro scene forked
  refine .bind ((Code.returns_newHash _).mono ?_)
  rintro hash made ⟨sameContext, -, state⟩
  refine .bind (returns_assignDefaultProc (.dropped (by rw [state]; rfl) rfl) ?_)
  exact Expectation.returns_check rfl (met_of_context_eq forked sameContext)

theorem takesLambdaOfTwo_holds : HoldsIn context takesLambdaOfTwo := by
  intro scene forked
  refine .bind ((Code.returns_newHash _).mono ?_)
  rintro hash made ⟨sameContext, -, state⟩
  refine .bind (Code.returns_newProc ?_)
  refine Expectation.returns_checkRaise_notToRaise (returns_assignDefaultProc
    (.stored (congrArg HashState.frozen state) (.itself _) (.exactly _)) ?_)
  exact met_of_context_eq forked sameContext

/--
A lambda that takes another number of arguments than two is
refused, and nothing changes.
-/
theorem raises_assign_lambda
    {id parameters : Nat}
    {wanted : Scene Unit Routine → Prop}
    (unfrozen : (scene.store.hash hash).frozen = false)
    (other : parameters ≠ 2)
    (holds : wanted scene) :
    (assignDefaultProc hash (.proc ⟨id, .lambda, .exactly parameters⟩)).Raises invoke scene
      .typeError wanted := by
  refine raises_assignDefaultProc (.unsuited unfrozen (.itself _) ?_)
    (ErrorKind.isA_self _) holds
  rintro ⟨⟩
  exact other rfl

theorem refusesOtherLambdas_holds : HoldsIn context refusesOtherLambdas := by
  intro scene forked
  refine .bind ((Code.returns_newHash _).mono ?_)
  rintro hash made ⟨sameContext, -, state⟩
  have unfrozen := congrArg HashState.frozen state
  refine .bind (Code.returns_newProc (.bind ?_))
  refine Expectation.returns_checkRaise (raises_assign_lambda unfrozen (by decide) ?_)
  refine .bind (Code.returns_newProc ?_)
  refine Expectation.returns_checkRaise (raises_assign_lambda unfrozen (by decide) ?_)
  exact met_of_context_eq forked sameContext

/-- A frozen hash refuses whatever is assigned to it. -/
theorem raises_assign_frozenHash
    {argument : Value}
    {wanted : Scene Unit Routine → Prop}
    (holds : ∀ after : Scene Unit Routine, after.context = scene.context →
      wanted after) :
    (do assignDefaultProc (← frozenHash) argument : Step Raised Value).Raises invoke scene
      .runtimeError wanted := by
  refine .after ((returns_frozenHash scene).mono ?_)
  rintro hash after ⟨sameContext, frozen⟩
  have below : ErrorKind.frozenError.Descends .runtimeError := .above rfl (.refl _)
  exact raises_assignDefaultProc (.frozen frozen)
    (ErrorKind.isA_iff_descends.mpr below)
    (holds after sameContext)

theorem refusesWhenFrozen_holds : HoldsIn context refusesWhenFrozen := by
  intro scene forked
  refine .bind ((returns_returning _ _).mono ?_)
  intro block made fresh
  refine .bind (Expectation.returns_checkRaise (raises_assign_frozenHash ?_))
  intro between firstContext
  refine Expectation.returns_checkRaise (raises_assign_frozenHash ?_)
  intro after secondContext
  exact met_of_context_eq forked (secondContext.trans (firstContext.trans fresh.context))

end Checks

theorem defaultProcGroup_sound (platform : Platform) :
    defaultProcGroup.Sound machine platform where
  hooksReturn _ _ := rfl
  scenariosPass _ _ := by
    simp only [defaultProcGroup, List.forall_mem_cons]
    exact
      ⟨passes_of_holdsIn (callsBlock_holds _) _,
        passes_of_holdsIn (givesSameBlock_holds _) _,
        passes_of_holdsIn (givesNoBlock_holds _) _, nofun⟩

theorem defaultProcAssignGroup_sound (platform : Platform) :
    defaultProcAssignGroup.Sound machine platform where
  hooksReturn _ _ := rfl
  scenariosPass _ _ := by
    simp only [defaultProcAssignGroup, List.forall_mem_cons]
    exact
      ⟨passes_of_holdsIn (replacesBlock_holds _) _,
        passes_of_holdsIn (convertsArgument_holds _) _,
        passes_of_holdsIn (overridesDefault_holds _) _,
        passes_of_holdsIn (refusesInteger_holds _) _,
        passes_of_holdsIn (answersCallable_holds _) _,
        passes_of_holdsIn (clearsWithNil_holds _) _,
        passes_of_holdsIn (answersNil_holds _) _,
        passes_of_holdsIn (takesLambdaOfTwo_holds _) _,
        passes_of_holdsIn (refusesOtherLambdas_holds _) _,
        passes_of_holdsIn (refusesWhenFrozen_holds _) _, nofun⟩

end Conformance.Corpus
