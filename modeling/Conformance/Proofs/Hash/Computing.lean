import Conformance.Proofs.Hash.Assigning
import Conformance.Proofs.Hash.Fallbacks
import Conformance.Proofs.Hash.Storing
import Conformance.Proofs.Program.Receiving

namespace Conformance

/-!
# Computing absent keys

Whether a callable is suited to the hash and the key is asked once, when it is
assigned; a lookup just calls it.  The two rules for numbers of arguments agree, and
a hash keeps its callable until the next setter succeeds, so a callable that was
assigned is never refused the call: each lookup of an absent key runs its body once.
-/

/--
A lookup comes to one run of the body of a callable, with its moments and no others.
-/
structure HashRef.ComputesOnce
    {World Label : Type}
    (hash : HashRef)
    (key : Value)
    (callable : Proc)
    (received : List Value)
    (scene : Scene World Label) : Prop where
  ending : ∀ invoke : Invoke World Label,
    hash.get invoke key scene = callable.runBody invoke received scene
  moments : ∀ within : Within World Label,
    (Operation.get hash key).moments within scene =
      callable.bodyMoments within received scene

/--
What comes of assigning a default callable, from the assignment
to every later lookup.
-/
structure AssignedComputes
    {World Label : Type}
    (program : Program World Label)
    (start : Scene World Label)
    (moments : List (Moment World Label))
    (hash : HashRef) : Prop where
  computes : ∀ {leading nesting argument before answer after between key},
    (leading ++ [.ended nesting (.setDefaultProc hash argument) before
      (.returned answer) after]) ++
        between <+: moments →
    argument ≠ .nil →
    hash.id < after.store.next →
    (∀ moment ∈ between, ¬ moment.SetsFallback hash) →
    ((Moment.sceneAfter after between).store.hash hash).contains key = false →
    ∃ callable converted received,
      argument.Gives (program.invoke nesting) before callable converted ∧
        ((Moment.sceneAfter after between).store.hash hash).defaultProc =
          some callable ∧
        callable.receive [.hash hash, key] = .ok received ∧
        callable.arity.Adapts [.hash hash, key] received ∧
        (callable.flavour = .lambda → received = [.hash hash, key]) ∧
        hash.ComputesOnce key callable received (Moment.sceneAfter after between)
  admits : ∀ {invoke : Invoke World Label} {argument callable before converted},
    (before.store.hash hash).frozen = false →
    argument.Gives invoke before callable converted →
    callable.flavour = .lambda →
    ((∃ answer after, hash.setDefaultProc invoke argument before = (.returned answer, after)) ↔
      ∀ key, ∃ received, callable.receive [.hash hash, key] = .ok received)
  oneRule : ∀ arity : Arity, HashRef.suits arity = arity.accepts 2
  signed : ∀ arity : Arity,
    (arity.required : Int) ≤ Int64.maxValue.toInt →
    (HashRef.suits arity = true ↔
      arity.signed = 2 ∨ (-3 ≤ arity.signed ∧ arity.signed ≤ -1))

namespace HashRef

/-- The rule of the assignment is the rule of the call, for two arguments. -/
theorem suits_eq_accepts (arity : Arity) : suits arity = arity.accepts 2 := by
  cases arity with
  | exactly count => exact Bool.beq_comm
  | atLeast count => rfl

/-- A lambda takes the hash and the key exactly if its parameters are suited to them. -/
theorem takesTwo_iff_suits
    {callable : Proc}
    (strict : callable.flavour = .lambda) :
    callable.TakesTwo ↔ suits callable.arity = true := by
  rw [← computes_iff_takesTwo]
  simp only [computes, strict]

end HashRef

namespace Arity

theorem toInt_signed_exactly
    {count : Nat}
    (small : (count : Int) ≤ Int64.maxValue.toInt) :
    (Arity.exactly count).signed.toInt = count := by
  have bound : Int64.maxValue.toInt = 2 ^ 63 - 1 := rfl
  exact Int64.toInt_ofNat_of_lt (by omega)

theorem toInt_signed_atLeast
    {count : Nat}
    (small : (count : Int) ≤ Int64.maxValue.toInt) :
    (Arity.atLeast count).signed.toInt = -count - 1 := by
  have bound : Int64.maxValue.toInt = 2 ^ 63 - 1 := rfl
  have negated : (-Int64.ofNat count).toInt = -count :=
    Int64.toInt_neg_ofNat_of_le (by omega)
  have one : (1 : Int64).toInt = 1 := rfl
  rw [signed, Int64.toInt_sub, negated, one]
  exact Int.bmod_eq_of_le (by omega) (by omega)

/-- The signed numbers of the parameters that are suited to the hash and the key. -/
theorem suits_iff_signed
    {arity : Arity}
    (small : (arity.required : Int) ≤ Int64.maxValue.toInt) :
    HashRef.suits arity = true ↔
      arity.signed = 2 ∨ (-3 ≤ arity.signed ∧ arity.signed ≤ -1) := by
  have two : (2 : Int64).toInt = 2 := rfl
  have least : (-3 : Int64).toInt = -3 := rfl
  have most : (-1 : Int64).toInt = -1 := rfl
  rw [← Int64.toInt_inj, Int64.le_iff_toInt_le,
    Int64.le_iff_toInt_le, two, least, most]
  cases arity with
  | exactly count =>
      have isSmall : (count : Int) ≤ Int64.maxValue.toInt := small
      rw [toInt_signed_exactly isSmall, HashRef.suits, beq_iff_eq]
      omega
  | atLeast count =>
      have isSmall : (count : Int) ≤ Int64.maxValue.toInt := small
      rw [toInt_signed_atLeast isSmall, HashRef.suits, decide_eq_true_eq]
      omega

end Arity

namespace Proc

variable {callable : Proc}

/-- A callable that takes the hash and the key receives them, a lambda as they are. -/
theorem TakesTwo.receives
    (takesTwo : callable.TakesTwo)
    (first second : Value) :
    ∃ received,
      callable.receive [first, second] = .ok received ∧
        callable.arity.Adapts [first, second] received ∧
        (callable.flavour = .lambda → received = [first, second]) := by
  cases flavour : callable.flavour with
  | plain =>
      obtain ⟨received, adapts⟩ := callable.arity.exists_adapts [first, second]
      exact ⟨received, receive_of_adapts flavour adapts, adapts, nofun⟩
  | lambda =>
      have suits := (HashRef.takesTwo_iff_suits flavour).mp takesTwo
      have accepts : callable.arity.accepts [first, second].length = true := by
        rw [← suits, HashRef.suits_eq_accepts]
        rfl
      exact ⟨_, receive_of_lambda flavour accepts,
        .refl (Arity.adapted_of_accepts accepts),
        fun _ => rfl⟩

/-- A lambda that does not refuse two arguments takes two. -/
theorem takesTwo_of_receives
    {arguments received : List Value}
    (strict : callable.flavour = .lambda)
    (two : arguments.length = 2)
    (receives : callable.receive arguments = .ok received) :
    callable.TakesTwo := by
  rw [HashRef.takesTwo_iff_suits strict, HashRef.suits_eq_accepts, ← two]
  cases accepts : callable.arity.accepts arguments.length with
  | true => rfl
  | false =>
      rw [receive_of_misfit strict accepts] at receives
      cases receives

end Proc

namespace HashRef

variable {World Label : Type} {hash : HashRef} {key : Value} {callable : Proc}
variable {scene : Scene World Label}

/-- A key that is not stored is looked up by a call of the callable. -/
theorem computesOnce_of_receives
    {received : List Value}
    (absent : (scene.store.hash hash).contains key = false)
    (falls : (scene.store.hash hash).defaultProc = some callable)
    (receives : callable.receive [.hash hash, key] = .ok received) :
    hash.ComputesOnce key callable received scene := by
  have notFound : (scene.store.hash hash).find? key = none := by
    simpa [HashState.contains_eq_isSome] using absent
  have called (invoke : Invoke World Label) (within : Within World Label) :=
    Proc.runsOnce_of_receives invoke within scene receives
  exact {
    ending := by
      intro invoke
      simp only [get, notFound, falls]
      exact (called invoke fun _ _ _ => []).ending
    moments := by
      intro within
      rw [← (called (fun _ _ => Act.done .nil) within).moments]
      simp only [Operation.moments, Operation.callee?, notFound, falls] }

end HashRef

/-- An argument gives one callable, and leaves one scene. -/
theorem Value.Gives.unique
    {World Label : Type}
    {invoke : Invoke World Label}
    {argument : Value}
    {callable other : Proc}
    {before reached otherReached : Scene World Label}
    (first : argument.Gives invoke before callable reached)
    (second : argument.Gives invoke before other otherReached) :
    callable = other ∧ reached = otherReached := by
  have same := first.toProc?_eq.symm.trans second.toProc?_eq
  cases same
  exact ⟨rfl, rfl⟩

namespace HashRef

variable {World Label : Type} {hash : HashRef} {argument : Value} {callable : Proc}
variable {invoke : Invoke World Label} {before converted : Scene World Label}

/--
A lambda is stored exactly if it would not refuse to be called
with the hash and any key.
-/
theorem setDefaultProc_answers_iff_receives
    (unfrozen : (before.store.hash hash).frozen = false)
    (gives : argument.Gives invoke before callable converted)
    (strict : callable.flavour = .lambda) :
    (∃ answer after, hash.setDefaultProc invoke argument before =
      (.returned answer, after)) ↔
      ∀ key, ∃ received, callable.receive [.hash hash, key] = .ok received := by
  constructor
  · rintro ⟨answer, after, answers⟩ key
    obtain ⟨_, stored, reached, givesStored, takesTwo, _⟩ :=
      (setDefaultProc_eq_iff.mp answers).stores gives.notNil
    obtain ⟨rfl, _⟩ := gives.unique givesStored
    obtain ⟨received, receives, _, _⟩ := takesTwo.receives (.hash hash) key
    exact ⟨received, receives⟩
  · intro receivesAll
    obtain ⟨received, receives⟩ := receivesAll .nil
    have takesTwo : callable.TakesTwo :=
      Proc.takesTwo_of_receives strict rfl receives
    exact ⟨_, _, setDefaultProc_eq_iff.mpr (.stored unfrozen gives takesTwo)⟩

end HashRef

namespace Program

variable {World Label : Type}

/--
A callable that was assigned computes the absent keys from then on, by one run of its
body for each lookup, and the assignment turns away just the lambdas that would
refuse that call.
-/
theorem assignedComputes
    (program : Program World Label)
    (depth : Nat)
    (tasks : List (Task World Label))
    (context : Context)
    (world : World)
    (hash : HashRef) :
    AssignedComputes program (.fresh context world)
      (program.course depth tasks (.fresh context world)) hash := by
  obtain ⟨finish, trail⟩ := program.course_trail depth tasks (.fresh context world)
  exact {
    computes := by
      intro leading nesting argument before answer after between key points notNil made
        noSetter absent
      have ends :
          .ended nesting (.setDefaultProc hash argument) before
            (.returned answer) after ∈
            program.course depth tasks (.fresh context world) :=
        points.subset (by simp)
      have performed := trail.performed_of_mem .refl ends
      obtain ⟨_, callable, converted, gives, takesTwo, stored⟩ :=
        (HashRef.setDefaultProc_eq_iff.mp performed).stores notNil
      -- no setter comes in between, so the lookup still finds the callable
      have later := trail.stretch .refl points
      simp only [Moment.sceneAfter_append, Moment.sceneAfter_cons,
        Moment.sceneAfter_nil, Moment.scene] at later
      have falls :
          ((Moment.sceneAfter after between).store.hash hash).defaultProc =
            some callable := by
        have sameCallable := congrArg Prod.snd (later.fallback_eq made noSetter)
        rw [stored] at sameCallable
        exact sameCallable
      obtain ⟨received, receives, adapts, asGiven⟩ :=
        takesTwo.receives (.hash hash) key
      exact ⟨callable, converted, received, gives, falls, receives, adapts, asGiven,
        HashRef.computesOnce_of_receives absent falls receives⟩
    admits := HashRef.setDefaultProc_answers_iff_receives
    oneRule := HashRef.suits_eq_accepts
    signed := fun _ => Arity.suits_iff_signed }

end Program

end Conformance
