import Conformance.Proofs.Program.Moments

namespace Conformance

/-!
# What a body receives

A lambda runs its body on the arguments as they are given, and only if their number
fits.  A plain callable always runs its body, on arguments that are made to fit:
`Arity.Adapts` says place by place what those are, and there is only one such list.
Either way a call runs the body once or not at all.
-/

namespace Arity

/-- How many arguments a body gets when a plain callable is given so many. -/
def adapted : Arity → Nat → Nat
  | .exactly count, _ => count
  | .atLeast count, given => max count given

/--
Arguments made to fit: those that are given as far as both lists go, and then `nil`.
-/
structure Adapts (arity : Arity) (given received : List Value) : Prop where
  length : received.length = arity.adapted given.length
  common : ∀ place,
    place < received.length → place < given.length → received[place]? = given[place]?
  padding : ∀ place,
    place < received.length → given.length ≤ place → received[place]? = some .nil

end Arity

namespace Proc

variable {World Label : Type}

/-- Runs the body of a callable once, on the arguments that it receives. -/
def runBody
    (invoke : Invoke World Label)
    (callable : Proc)
    (received : List Value) :
    Raising World Label Value :=
  fun scene =>
    match scene.store.behaviours callable.id with
    | .constant value => (.returned value, scene)
    | .body label => invoke label received scene

/-- The moments of running the body of a callable once. -/
def bodyMoments
    (within : Within World Label)
    (callable : Proc)
    (received : List Value)
    (scene : Scene World Label) :
    List (Moment World Label) :=
  match scene.store.behaviours callable.id with
  | .constant _ => []
  | .body label => within label received scene

/--
A call comes to one run of the body on the given list, with its
moments and no others.
-/
structure RunsOnce
    (invoke : Invoke World Label)
    (within : Within World Label)
    (callable : Proc)
    (arguments received : List Value)
    (before : Scene World Label) : Prop where
  ending : callable.call invoke arguments before =
    callable.runBody invoke received before
  moments :
    (Operation.call callable arguments).moments within before =
      callable.bodyMoments within received before

/-- What a call does, for every number of arguments and both flavours of callables. -/
structure CallSettled
    (invoke : Invoke World Label)
    (within : Within World Label)
    (callable : Proc)
    (arguments : List Value)
    (before : Scene World Label) : Prop where
  lambda :
    callable.flavour = .lambda →
    callable.arity.accepts arguments.length = true →
    callable.RunsOnce invoke within arguments arguments before
  refused :
    callable.flavour = .lambda →
    callable.arity.accepts arguments.length = false →
    callable.call invoke arguments before =
        (.stopped (.argumentError
          (Message.wrongNumberOfArguments arguments.length
            callable.arity.expected)), before) ∧
      (Operation.call callable arguments).moments within before = []
  plain :
    callable.flavour = .plain →
    ∃ received,
      callable.arity.Adapts arguments received ∧
        callable.RunsOnce invoke within arguments received before
  alike : ∀ other : Proc,
    other.arity = callable.arity →
    before.store.behaviours other.id = before.store.behaviours callable.id →
    callable.arity.accepts arguments.length = true →
    other.call invoke arguments before = callable.call invoke arguments before ∧
      (Operation.call other arguments).moments within before =
        (Operation.call callable arguments).moments within before
  readapted : ∀ received,
    callable.flavour = .plain →
    callable.arity.Adapts arguments received →
    callable.call invoke received before = callable.call invoke arguments before ∧
      (Operation.call callable received).moments within before =
        (Operation.call callable arguments).moments within before

end Proc

namespace Arity

variable {arity : Arity} {given received : List Value}

/-- There is only one way of making arguments fit. -/
theorem Adapts.unique
    {other : List Value}
    (first : arity.Adapts given received)
    (second : arity.Adapts given other) :
    received = other := by
  have sameLength : received.length = other.length :=
    first.length.trans second.length.symm
  apply List.ext_getElem?
  intro place
  by_cases inside : place < received.length
  · have insideOther : place < other.length := sameLength ▸ inside
    rcases Nat.lt_or_ge place given.length with isGiven | isPadding
    · rw [first.common place inside isGiven, second.common place insideOther isGiven]
    · rw [first.padding place inside isPadding,
        second.padding place insideOther isPadding]
  · rw [List.getElem?_eq_none (by omega), List.getElem?_eq_none (by omega)]

/-- Arguments of a suitable number fit as they are. -/
theorem Adapts.refl (fits : arity.adapted given.length = given.length) :
    arity.Adapts given given where
  length := fits.symm
  common _ _ _ := rfl
  padding place inside isPadding := by omega

/-- Arguments that were made to fit stay as they are when they are made to fit again. -/
theorem Adapts.again (adapts : arity.Adapts given received) :
    arity.Adapts received received := by
  apply Adapts.refl
  rw [adapts.length]
  cases arity with
  | exactly count => rfl
  | atLeast count =>
      simp only [adapted]
      omega

theorem adapted_of_accepts
    {count : Nat}
    (accepts : arity.accepts count = true) :
    arity.adapted count = count := by
  cases arity with
  | exactly required => exact (beq_iff_eq.mp accepts).symm
  | atLeast required => exact Nat.max_eq_right (of_decide_eq_true accepts)

/-- Arguments are handed on as they are only if that makes them fit. -/
theorem adapted_of_passes
    {count : Nat}
    (passes :
      (count == arity.required ||
        decide (arity.required < count) && arity.takesMore) = true) :
    arity.adapted count = count := by
  rw [Bool.or_eq_true, Bool.and_eq_true, beq_iff_eq, decide_eq_true_eq] at passes
  cases arity with
  | exactly needed =>
      rcases passes with isNeeded | ⟨-, more⟩
      · exact isNeeded.symm
      · cases more
  | atLeast needed =>
      simp only [adapted, required] at passes ⊢
      omega

/-- Arguments are changed only if as many are needed as are required. -/
theorem adapted_of_not_passes
    {count : Nat}
    (changes :
      ¬ (count == arity.required ||
        decide (arity.required < count) && arity.takesMore) = true) :
    arity.adapted count = arity.required := by
  rw [Bool.or_eq_true, Bool.and_eq_true, beq_iff_eq, decide_eq_true_eq] at changes
  cases arity with
  | exactly needed => rfl
  | atLeast needed =>
      simp only [adapted, required, takesMore, and_true] at changes ⊢
      omega

/--
Dropping superfluous arguments and adding `nil` for missing
ones makes arguments fit.
-/
theorem adapts_pad
    (fits : arity.adapted given.length = arity.required) :
    arity.Adapts given
      (given.take arity.required ++
        List.replicate (arity.required - (given.take arity.required).length) .nil) where
  length := by
    rw [fits, List.length_append, List.length_replicate, List.length_take]
    omega
  common place inside isGiven := by
    rw [List.length_append, List.length_replicate, List.length_take] at inside
    have isKept : place < (given.take arity.required).length := by
      rw [List.length_take]
      omega
    rw [List.getElem?_append_left isKept, List.getElem?_take_of_lt (by omega)]
  padding place inside isPadding := by
    rw [List.length_append, List.length_replicate] at inside
    have isAdded : (given.take arity.required).length ≤ place := by
      rw [List.length_take]
      omega
    rw [List.getElem?_append_right isAdded,
      List.getElem?_replicate, if_pos (by omega)]

/-- There is always a way of making arguments fit. -/
theorem exists_adapts (arity : Arity) (given : List Value) :
    ∃ received, arity.Adapts given received := by
  by_cases passes :
      (given.length == arity.required ||
        decide (arity.required < given.length) && arity.takesMore) = true
  · exact ⟨given, .refl (adapted_of_passes passes)⟩
  · exact ⟨_, adapts_pad (adapted_of_not_passes passes)⟩

end Arity

namespace Proc

variable {callable : Proc} {arguments received : List Value}

theorem receive_of_lambda
    (strict : callable.flavour = .lambda)
    (accepts : callable.arity.accepts arguments.length = true) :
    callable.receive arguments = .ok arguments := by
  simp [receive, strict, accepts]

theorem receive_of_misfit
    (strict : callable.flavour = .lambda)
    (misfit : callable.arity.accepts arguments.length = false) :
    callable.receive arguments =
      .error (.argumentError
        (Message.wrongNumberOfArguments arguments.length callable.arity.expected)) := by
  simp [receive, strict, misfit]

/-- A plain callable receives its arguments made to fit. -/
theorem receive_of_adapts
    (lenient : callable.flavour = .plain)
    (adapts : callable.arity.Adapts arguments received) :
    callable.receive arguments = .ok received := by
  have settle {other :
      List Value} (otherAdapts : callable.arity.Adapts arguments other) :
      (Except.ok other : Except Raised (List Value)) = .ok received :=
    congrArg Except.ok (otherAdapts.unique adapts)
  simp only [receive, lenient]
  split
  · next passes => exact settle (.refl (Arity.adapted_of_passes passes))
  · next changes =>
      exact settle (Arity.adapts_pad (Arity.adapted_of_not_passes changes))

variable {World Label : Type} (invoke : Invoke World Label)
variable (within : Within World Label)
variable (before : Scene World Label)

theorem runsOnce_of_receives
    (receives : callable.receive arguments = .ok received) :
    callable.RunsOnce invoke within arguments received before where
  ending := by
    simp only [call, receives]
    rfl
  moments := by
    simp only [Operation.moments, Operation.callee?, callee?, bodyMoments, receives]
    cases behaviour : before.store.behaviours callable.id <;> rfl

/-- Calls on which callables with one body receive the same do the same. -/
theorem RunsOnce.alike
    {other : Proc}
    {given : List Value}
    {invoke : Invoke World Label}
    {within : Within World Label}
    {before : Scene World Label}
    (first : other.RunsOnce invoke within given received before)
    (second : callable.RunsOnce invoke within arguments received before)
    (sameBody : before.store.behaviours other.id = before.store.behaviours callable.id) :
    other.call invoke given before = callable.call invoke arguments before ∧
      (Operation.call other given).moments within before =
        (Operation.call callable arguments).moments within before := by
  rw [first.ending, second.ending, first.moments, second.moments]
  simp only [runBody, bodyMoments, sameBody, and_self]

/--
Arguments of a number that the arity accepts are received as they
are, whatever the flavour.
-/
theorem receive_of_accepts
    (accepts : callable.arity.accepts arguments.length = true) :
    callable.receive arguments = .ok arguments := by
  cases flavour : callable.flavour with
  | lambda => exact receive_of_lambda flavour accepts
  | plain =>
      exact receive_of_adapts flavour (.refl (Arity.adapted_of_accepts accepts))

/-- The flavour, the arity and the number of arguments settle what every call does. -/
theorem call_settled
    (invoke : Invoke World Label)
    (within : Within World Label)
    (callable : Proc)
    (arguments : List Value)
    (before : Scene World Label) :
    callable.CallSettled invoke within arguments before where
  lambda strict accepts :=
    runsOnce_of_receives invoke within before (receive_of_lambda strict accepts)
  refused strict misfit := by
    have refuses := receive_of_misfit strict misfit
    refine ⟨?_, ?_⟩
    · simp only [call, refuses]
      rfl
    · simp only [Operation.moments, Operation.callee?, callee?, refuses]
  plain lenient := by
    obtain ⟨received, adapts⟩ := callable.arity.exists_adapts arguments
    exact ⟨received, adapts,
      runsOnce_of_receives invoke within before (receive_of_adapts lenient adapts)⟩
  alike other sameArity sameBody accepts := by
    have otherAccepts : other.arity.accepts arguments.length = true :=
      sameArity ▸ accepts
    have first :=
      runsOnce_of_receives invoke within before (receive_of_accepts otherAccepts)
    have second :=
      runsOnce_of_receives invoke within before (receive_of_accepts accepts)
    exact first.alike second sameBody
  readapted received lenient adapts := by
    have first :=
      runsOnce_of_receives invoke within before
        (receive_of_adapts lenient adapts.again)
    have second :=
      runsOnce_of_receives invoke within before (receive_of_adapts lenient adapts)
    exact first.alike second rfl

end Proc

end Conformance
