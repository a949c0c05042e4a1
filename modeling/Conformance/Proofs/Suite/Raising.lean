import Conformance.Proofs.Suite.Matchers

namespace Conformance

/-!
# Matchers on blocks

A matcher on a block runs the block and judges what it came to.  A block is expected
to raise an error of a kind, or not to; errors of the kinds below count as well, and an
error of any other kind is passed on by the matcher that expects none.

Only one thing can keep a matcher from its verdict: a block that was to raise an error
and returned a value instead is reported with the text of the value, and if the value
has no text the check exhausts the call stack.
-/

namespace Code

variable {World Label : Type}

/-- The check of a block with an expectation that was turned around so many times. -/
def judged
    (block : Code World Label Raised Value)
    (count : Nat)
    (matcher : RaiseMatcher)
    (kind : ErrorKind) :
    Code World Label Fault Unit :=
  ((Expectation.ofBlock block).notTimes count).checkRaise matcher kind

/--
What a block comes to, with the scene that it leaves: a value,
or the error it raises.
-/
inductive ComesTo
    (machine : Machine World Label)
    (scene : Scene World Label)
    (block : Code World Label Raised Value) :
    Except Raised Value → Scene World Label → Prop where
  | value
      {value : Value}
      {reached : Scene World Label}
      (run : machine.run block scene = (.returned value, reached)) :
      ComesTo machine scene block (.ok value) reached
  | error
      {error : Raised}
      {reached : Scene World Label}
      (run : machine.run block scene = (.stopped error, reached)) :
      ComesTo machine scene block (.error error) reached

/-- A check does what a block does, and then at most looks at what the block has left. -/
structure RunsOnce
    (machine : Machine World Label)
    (scene : Scene World Label)
    (block : Code World Label Raised Value)
    (check : Code World Label Fault Unit) : Prop where
  moments : ∃ looks ≤ 1,
    machine.program.moments machine.depth check scene =
      machine.program.moments machine.depth block scene ++
        List.replicate looks (.passed (machine.run block scene).2)
  left : (machine.run check scene).2 = (machine.run block scene).2

end Code

/--
The expectation that a block raises an error of a kind is to fail
where it does not pass.
-/
def RaisingPromise
    {World Label : Type}
    (machine : Machine World Label)
    (scene : Scene World Label)
    (block : Code World Label Raised Value)
    (count : Nat) : Prop :=
  ∀ kind outcome reached,
    block.ComesTo machine scene outcome reached →
    ¬ (block.judged count .toRaise kind).Passes machine scene →
    (block.judged count .toRaise kind).Fails machine scene

/-- What is true of the checks of a block, whatever the block does. -/
structure RaisingEnsures
    {World Label : Type}
    (machine : Machine World Label)
    (scene : Scene World Label)
    (block : Code World Label Raised Value)
    (count : Nat) : Prop where
  once : ∀ {matcher kind},
    block.RunsOnce machine scene (block.judged count matcher kind)
  raised_iff : ∀ {kind},
    (block.judged count .toRaise kind).Passes machine scene ↔
      ∃ error reached,
        block.ComesTo machine scene (.error error) reached ∧ error.kind.Descends kind
  notRaised_iff : ∀ {kind},
    (block.judged count .toRaise kind).Fails machine scene ↔
      (∃ error reached,
        block.ComesTo machine scene (.error error) reached ∧
          ¬ error.kind.Descends kind) ∨
      ∃ value reached,
        block.ComesTo machine scene (.ok value) reached ∧ reached.store.Shows [value]
  exhausts : ∀ {kind value reached},
    block.ComesTo machine scene (.ok value) reached →
    ¬ reached.store.Shows [value] →
    machine.run (block.judged count .toRaise kind) scene = (.overflowed, reached)
  quiet_iff : ∀ {kind},
    (block.judged count .notToRaise kind).Passes machine scene ↔
      ∃ value reached, block.ComesTo machine scene (.ok value) reached
  forbidden_iff : ∀ {kind},
    (block.judged count .notToRaise kind).Fails machine scene ↔
      ∃ error reached,
        block.ComesTo machine scene (.error error) reached ∧ error.kind.Descends kind
  passedOn_iff : ∀ {kind error},
    (machine.run (block.judged count .notToRaise kind) scene).1 =
      .stopped (.raised error) ↔
      ∃ reached,
        block.ComesTo machine scene (.error error) reached ∧
          ¬ error.kind.Descends kind
  panics : ∀ {matcher kind payload reached},
    machine.run block scene = (.panicked payload, reached) →
    machine.run (block.judged count matcher kind) scene =
      (.panicked payload, reached)
  overflows : ∀ {matcher kind reached},
    machine.run block scene = (.overflowed, reached) →
    machine.run (block.judged count matcher kind) scene = (.overflowed, reached)
  notBoth : ∀ {kind},
    (block.judged count .toRaise kind).Passes machine scene →
    ¬ (block.judged count .notToRaise kind).Passes machine scene
  ancestors : ∀ {kind ancestor},
    kind.Descends ancestor →
    (block.judged count .toRaise kind).Passes machine scene →
    (block.judged count .toRaise ancestor).Passes machine scene ∧
      (block.judged count .notToRaise ancestor).Fails machine scene
  apart : ∀ {kind other},
    ¬ kind.Descends other →
    ¬ other.Descends kind →
    (block.judged count .toRaise kind).Passes machine scene →
    ¬ (block.judged count .toRaise other).Passes machine scene
  siblings : ∀ {kind other},
    kind ∈ [.typeError, .argumentError, .runtimeError] →
    other ∈ [.typeError, .argumentError, .runtimeError] →
    kind ≠ other →
    (block.judged count .toRaise kind).Passes machine scene →
    ¬ (block.judged count .toRaise other).Passes machine scene

/-- How a matcher judges what a block came to, given the store that the block left. -/
inductive RaiseMatcher.Judges
    {Label : Type}
    (store : Store Label)
    (kind : ErrorKind) :
    RaiseMatcher → Except Raised Value → Ending Fault Unit → Prop where
  | raised {error : Raised} :
      error.kind.Descends kind →
        Judges store kind .toRaise (.error error) (.returned ())
  | otherRaised {error : Raised} :
      ¬ error.kind.Descends kind →
      Judges store kind .toRaise (.error error)
        (.stopped (.assertion ("Expected " ++ kind.name ++ "\nbut got " ++ error.text)))
  | nothingRaised {value : Value} {text : String} :
      store.inspect? value = some text →
      Judges store kind .toRaise (.ok value)
        (.stopped (.assertion ("Expected " ++ kind.name ++
          " but no exception was raised (" ++ text ++ " was returned)")))
  | endless {value : Value} :
      store.inspect? value = none →
        Judges store kind .toRaise (.ok value) .overflowed
  | quiet {value : Value} : Judges store kind .notToRaise (.ok value) (.returned ())
  | forbidden {error : Raised} :
      error.kind.Descends kind →
      Judges store kind .notToRaise (.error error)
        (.stopped (.assertion ("Expected to not get " ++ kind.name ++
          "\nbut got " ++ error.text)))
  | passedOn {error : Raised} :
      ¬ error.kind.Descends kind →
      Judges store kind .notToRaise (.error error) (.stopped (.raised error))

namespace RaiseMatcher

variable {World Label : Type} {kind : ErrorKind} {matcher : RaiseMatcher}

/-- What a block came to can always be judged. -/
theorem exists_judges
    (store : Store Label)
    (kind : ErrorKind)
    (matcher : RaiseMatcher)
    (outcome : Except Raised Value) :
    ∃ ending, matcher.Judges store kind outcome ending := by
  cases matcher with
  | toRaise =>
      cases outcome with
      | ok value =>
          cases shown : store.inspect? value with
          | some text => exact ⟨_, .nothingRaised shown⟩
          | none => exact ⟨_, .endless shown⟩
      | error error =>
          by_cases descends : error.kind.Descends kind
          · exact ⟨_, .raised descends⟩
          · exact ⟨_, .otherRaised descends⟩
  | notToRaise =>
      cases outcome with
      | ok value => exact ⟨_, .quiet⟩
      | error error =>
          by_cases descends : error.kind.Descends kind
          · exact ⟨_, .forbidden descends⟩
          · exact ⟨_, .passedOn descends⟩

/-- The judgement has no further effect. -/
theorem Judges.run
    {machine : Machine World Label}
    {scene : Scene World Label}
    {outcome : Except Raised Value}
    {ending : Ending Fault Unit}
    (judges : matcher.Judges scene.store kind outcome ending) :
    machine.run (Expectation.judge kind matcher outcome) scene =
      (ending, scene) := by
  cases judges with
  | raised descends | forbidden descends =>
      simp only [Expectation.judge, Raised.isA,
        ErrorKind.isA_iff_descends.mpr descends]
      rfl
  | otherRaised apart | passedOn apart =>
      simp only [Expectation.judge, Raised.isA, ErrorKind.isA_iff_descends, apart]
      rfl
  | @nothingRaised value text shown =>
      have inspected (invoke : Invoke World Label) :
          (Code.inspect value : Code World Label Fault String).execute invoke scene =
            (.returned text, scene) := by
        simp only [Code.inspect, Code.execute, shown]
      rw [Machine.run, Program.run, Expectation.judge, Code.execute_bind,
        Act.bind_of_returned (inspected _)]
      rfl
  | @endless value noText =>
      have inspected (invoke : Invoke World Label) :
          (Code.inspect value : Code World Label Fault String).execute invoke scene =
            (.overflowed, scene) := by
        simp only [Code.inspect, Code.execute, noText]
      rw [Machine.run, Program.run, Expectation.judge, Code.execute_bind,
        Act.bind_apply, inspected]
  | quiet => rfl

end RaiseMatcher

namespace Code

variable {World Label : Type}

/-- A judgement comes past one moment, or past two if it looks at a value. -/
theorem exists_moments_judge
    (depth : Nat)
    (invoke : Invoke World Label)
    (within : Within World Label)
    (kind : ErrorKind)
    (matcher : RaiseMatcher)
    (outcome : Except Raised Value)
    (scene : Scene World Label) :
    ∃ looks ≤ 1,
      (Expectation.judge kind matcher outcome).moments depth invoke within scene =
        .passed scene :: List.replicate looks (.passed scene) := by
  cases matcher with
  | toRaise =>
      cases outcome with
      | ok value =>
          refine ⟨1, Nat.le_refl 1, congrArg (List.cons _) ?_⟩
          beta_reduce
          cases scene.store.inspect? value <;> rfl
      | error error =>
          refine ⟨0, Nat.zero_le 1, ?_⟩
          simp only [Expectation.judge]
          split <;> rfl
  | notToRaise =>
      refine ⟨0, Nat.zero_le 1, ?_⟩
      cases outcome with
      | ok value => rfl
      | error error =>
          simp only [Expectation.judge]
          split <;> rfl

/--
An attempt comes past all that the code comes past, and only
what is left is looked at.
-/
theorem exists_moments_attempt
    {depth : Nat}
    {invoke : Invoke World Label}
    {within : Within World Label}
    {next : Except Raised Value → Code World Label Fault Unit}
    (looksOnly : ∀ ending scene, ∃ looks ≤ 1,
      (next ending).moments depth invoke within scene =
        .passed scene :: List.replicate looks (.passed scene))
    (block : Code World Label Raised Value)
    (scene : Scene World Label) :
    ∃ looks ≤ 1,
      (block.attempt >>= next).moments depth invoke within scene =
        block.moments depth invoke within scene ++
          List.replicate looks (.passed (block.execute invoke scene).2) := by
  change ∃ looks ≤ 1,
    (block.attempt.andThen next).moments depth invoke within scene = _
  induction block generalizing scene with
  | done ending =>
      -- what goes on starts where the block ends, so the last moment is that of both
      obtain ⟨looks, few, moments⟩ := looksOnly ending scene
      refine ⟨looks, few, ?_⟩
      cases ending <;> exact moments
  | panic payload => exact ⟨0, Nat.zero_le 1, rfl⟩
  | overflow => exact ⟨0, Nat.zero_le 1, rfl⟩
  | look continuation inductionHypothesis =>
      obtain ⟨looks, few, moments⟩ := inductionHypothesis scene scene
      exact ⟨looks, few, congrArg (List.cons _) moments⟩
  | write world continuation inductionHypothesis =>
      obtain ⟨looks, few, moments⟩ :=
        inductionHypothesis { scene with world := world }
      exact ⟨looks, few, congrArg (List.cons _) moments⟩
  | assign name value continuation inductionHypothesis =>
      obtain ⟨looks, few, moments⟩ := inductionHypothesis (scene.assign name value)
      exact ⟨looks, few, congrArg (List.cons _) moments⟩
  | makeStub name continuation inductionHypothesis =>
      obtain ⟨looks, few, moments⟩ :=
        inductionHypothesis (scene.makeStub name).1 (scene.makeStub name).2
      exact ⟨looks, few, congrArg (List.cons _) (congrArg (List.cons _) moments)⟩
  | operate operation continuation inductionHypothesis =>
      rcases performed : operation.perform invoke scene with ⟨ending, reached⟩
      simp only [attempt, andThen, Code.moments, execute, performed]
      cases ending with
      | returned value =>
          obtain ⟨looks, few, moments⟩ := inductionHypothesis (.ok value) reached
          exact ⟨looks, few, by simp [moments]⟩
      | stopped error =>
          obtain ⟨looks, few, moments⟩ := inductionHypothesis (.error error) reached
          exact ⟨looks, few, by simp [moments]⟩
      | panicked payload => exact ⟨0, Nat.zero_le 1, by simp⟩
      | overflowed => exact ⟨0, Nat.zero_le 1, by simp⟩

variable {machine : Machine World Label} {scene reached after : Scene World Label}
variable {block : Code World Label Raised Value} {outcome : Except Raised Value}
variable {count : Nat} {matcher : RaiseMatcher} {kind : ErrorKind}
variable {ending : Ending Fault Unit}

/-- An even number of turns leaves an expectation as it is. -/
theorem judged_eq
    (block : Code World Label Raised Value)
    (even : Even count)
    (matcher : RaiseMatcher)
    (kind : ErrorKind) :
    block.judged count matcher kind =
      (block.attempt >>= Expectation.judge kind matcher) := by
  have notOdd : decide (Odd count) = false := by simpa using even
  rw [judged, Expectation.ofBlock, Expectation.notTimes_eq, notOdd]
  rfl

/-- The check of a block runs the block and goes on with what the block came to. -/
theorem run_judged
    (machine : Machine World Label)
    (block : Code World Label Raised Value)
    (even : Even count)
    (matcher : RaiseMatcher)
    (kind : ErrorKind)
    (scene : Scene World Label) :
    machine.run (block.judged count matcher kind) scene =
      match machine.run block scene with
      | (.returned value, reached) =>
          machine.run (Expectation.judge kind matcher (.ok value)) reached
      | (.stopped error, reached) =>
          machine.run (Expectation.judge kind matcher (.error error)) reached
      | (.panicked payload, reached) => (.panicked payload, reached)
      | (.overflowed, reached) => (.overflowed, reached) := by
  simp only [Machine.run, Program.run, judged_eq block even, execute_bind,
    Act.bind_apply, execute_attempt]
  rcases block.execute (machine.program.invoke machine.depth) scene with
    ⟨ending, reached⟩
  cases ending <;> rfl

/-- The check of a block ends as its matcher judges what the block came to. -/
theorem ComesTo.run_judged
    (comesTo : block.ComesTo machine scene outcome reached)
    (even : Even count)
    (judges : matcher.Judges reached.store kind outcome ending) :
    machine.run (block.judged count matcher kind) scene = (ending, reached) := by
  rw [Code.run_judged machine block even]
  cases comesTo with
  | value run | error run =>
      rw [run]
      exact judges.run

/-- A block comes to something, unless it panics or its calls are nested too deep. -/
theorem run_cases
    (machine : Machine World Label)
    (block : Code World Label Raised Value)
    (scene : Scene World Label) :
    (∃ outcome reached, block.ComesTo machine scene outcome reached) ∨
      (∃ payload reached, machine.run block scene = (.panicked payload, reached)) ∨
      ∃ reached, machine.run block scene = (.overflowed, reached) := by
  rcases run : machine.run block scene with ⟨ending, reached⟩
  cases ending with
  | returned value => exact .inl ⟨_, _, .value run⟩
  | stopped error => exact .inl ⟨_, _, .error run⟩
  | panicked payload => exact .inr (.inl ⟨payload, reached, rfl⟩)
  | overflowed => exact .inr (.inr ⟨reached, rfl⟩)

theorem run_judged_of_panicked
    {payload : Payload}
    (even : Even count)
    (run : machine.run block scene = (.panicked payload, reached)) :
    machine.run (block.judged count matcher kind) scene =
      (.panicked payload, reached) := by
  rw [run_judged machine block even, run]

theorem run_judged_of_overflowed
    (even : Even count)
    (run : machine.run block scene = (.overflowed, reached)) :
    machine.run (block.judged count matcher kind) scene =
      (.overflowed, reached) := by
  rw [run_judged machine block even, run]

/-- A check that neither panics nor overflows has judged what the block came to. -/
theorem exists_comesTo_of_run_judged
    (even : Even count)
    (ends : (machine.run (block.judged count matcher kind) scene).1 = ending)
    (noPanic : ∀ payload, ending ≠ .panicked payload)
    (noOverflow : ending ≠ .overflowed) :
    ∃ outcome reached,
      block.ComesTo machine scene outcome reached ∧
        matcher.Judges reached.store kind outcome ending := by
  rcases run_cases machine block scene with
    ⟨outcome, reached, comesTo⟩ | ⟨payload, reached, run⟩ | ⟨reached, run⟩
  · obtain ⟨verdict, judges⟩ := matcher.exists_judges reached.store kind outcome
    rw [comesTo.run_judged even judges] at ends
    subst ends
    exact ⟨outcome, reached, comesTo, judges⟩
  · rw [run_judged_of_panicked even run] at ends
    exact absurd ends.symm (noPanic payload)
  · rw [run_judged_of_overflowed even run] at ends
    exact absurd ends.symm noOverflow

theorem ComesTo.unique
    {other : Except Raised Value}
    (first : block.ComesTo machine scene outcome reached)
    (second : block.ComesTo machine scene other after) :
    outcome = other := by
  cases first with
  | value run =>
      cases second with
      | value runToo =>
          cases run.symm.trans runToo
          rfl
      | error runToo => cases run.symm.trans runToo
  | error run =>
      cases second with
      | value runToo => cases run.symm.trans runToo
      | error runToo =>
          cases run.symm.trans runToo
          rfl

theorem ComesTo.run_snd (comesTo : block.ComesTo machine scene outcome reached) :
    (machine.run block scene).2 = reached := by
  cases comesTo with
  | value run | error run => rw [run]

/-- A block runs once in its check, from the scene in which the matcher is applied. -/
theorem runsOnce_judged (even : Even count) :
    block.RunsOnce machine scene (block.judged count matcher kind) where
  moments := by
    rw [judged_eq block even]
    exact exists_moments_attempt
      (fun _ _ => exists_moments_judge _ _ _ _ _ _ _) block scene
  left := by
    rcases run_cases machine block scene with
      ⟨outcome, reached, comesTo⟩ | ⟨payload, reached, run⟩ | ⟨reached, run⟩
    · obtain ⟨verdict, judges⟩ := matcher.exists_judges reached.store kind outcome
      rw [comesTo.run_judged even judges, comesTo.run_snd]
    · rw [run_judged_of_panicked even run, run]
    · rw [run_judged_of_overflowed even run, run]

theorem passes_toRaise_iff (even : Even count) :
    (block.judged count .toRaise kind).Passes machine scene ↔
      ∃ error reached,
        block.ComesTo machine scene (.error error) reached ∧
          error.kind.Descends kind := by
  constructor
  · intro passes
    obtain ⟨outcome, reached, comesTo, judges⟩ :=
      exists_comesTo_of_run_judged even passes nofun nofun
    cases judges with
    | raised descends => exact ⟨_, reached, comesTo, descends⟩
  · rintro ⟨error, reached, comesTo, descends⟩
    exact congrArg Prod.fst (comesTo.run_judged even (.raised descends))

theorem fails_toRaise_iff (even : Even count) :
    (block.judged count .toRaise kind).Fails machine scene ↔
      (∃ error reached,
        block.ComesTo machine scene (.error error) reached ∧
          ¬ error.kind.Descends kind) ∨
      ∃ value reached,
        block.ComesTo machine scene (.ok value) reached ∧
          reached.store.Shows [value] := by
  constructor
  · rintro ⟨message, ends⟩
    obtain ⟨outcome, reached, comesTo, judges⟩ :=
      exists_comesTo_of_run_judged even ends nofun nofun
    cases judges with
    | otherRaised apart => exact .inl ⟨_, reached, comesTo, apart⟩
    | nothingRaised shown =>
        exact .inr ⟨_, reached, comesTo, List.forall_mem_singleton.mpr ⟨_, shown⟩⟩
  · rintro (⟨error, reached, comesTo, apart⟩ | ⟨value, reached, comesTo, shows⟩)
    · exact ⟨_, congrArg Prod.fst (comesTo.run_judged even (.otherRaised apart))⟩
    · obtain ⟨text, shown⟩ := List.forall_mem_singleton.mp shows
      exact ⟨_, congrArg Prod.fst (comesTo.run_judged even (.nothingRaised shown))⟩

theorem passes_notToRaise_iff (even : Even count) :
    (block.judged count .notToRaise kind).Passes machine scene ↔
      ∃ value reached, block.ComesTo machine scene (.ok value) reached := by
  constructor
  · intro passes
    obtain ⟨outcome, reached, comesTo, judges⟩ :=
      exists_comesTo_of_run_judged even passes nofun nofun
    cases judges with
    | quiet => exact ⟨_, reached, comesTo⟩
  · rintro ⟨value, reached, comesTo⟩
    exact congrArg Prod.fst (comesTo.run_judged even .quiet)

theorem fails_notToRaise_iff (even : Even count) :
    (block.judged count .notToRaise kind).Fails machine scene ↔
      ∃ error reached,
        block.ComesTo machine scene (.error error) reached ∧
          error.kind.Descends kind := by
  constructor
  · rintro ⟨message, ends⟩
    obtain ⟨outcome, reached, comesTo, judges⟩ :=
      exists_comesTo_of_run_judged even ends nofun nofun
    cases judges with
    | forbidden descends => exact ⟨_, reached, comesTo, descends⟩
  · rintro ⟨error, reached, comesTo, descends⟩
    exact ⟨_, congrArg Prod.fst (comesTo.run_judged even (.forbidden descends))⟩

theorem raises_notToRaise_iff {error : Raised} (even : Even count) :
    (machine.run (block.judged count .notToRaise kind) scene).1 =
      .stopped (.raised error) ↔
      ∃ reached,
        block.ComesTo machine scene (.error error) reached ∧
          ¬ error.kind.Descends kind := by
  constructor
  · intro ends
    obtain ⟨outcome, reached, comesTo, judges⟩ :=
      exists_comesTo_of_run_judged even ends nofun nofun
    cases judges with
    | passedOn apart => exact ⟨reached, comesTo, apart⟩
  · rintro ⟨reached, comesTo, apart⟩
    exact congrArg Prod.fst (comesTo.run_judged even (.passedOn apart))

end Code

namespace Machine

variable {World Label : Type}

theorem raisingEnsures
    (machine : Machine World Label)
    (scene : Scene World Label)
    (block : Code World Label Raised Value)
    {count : Nat}
    (even : Even count) :
    RaisingEnsures machine scene block count := by
  have apart {kind other : ErrorKind}
      (notBelow : ¬ kind.Descends other)
      (notAbove : ¬ other.Descends kind)
      (passes : (block.judged count .toRaise kind).Passes machine scene) :
      ¬ (block.judged count .toRaise other).Passes machine scene := by
    intro passesToo
    obtain ⟨error, reached, comesTo, below⟩ :=
      (Code.passes_toRaise_iff even).mp passes
    obtain ⟨_, _, comesToo, belowToo⟩ := (Code.passes_toRaise_iff even).mp passesToo
    cases comesTo.unique comesToo
    exact (below.comparable belowToo).elim notBelow notAbove
  exact {
    once := Code.runsOnce_judged even
    raised_iff := Code.passes_toRaise_iff even
    notRaised_iff := Code.fails_toRaise_iff even
    exhausts := by
      intro kind value reached comesTo notShown
      apply comesTo.run_judged even
      apply RaiseMatcher.Judges.endless
      simpa [Store.Shows, Option.eq_none_iff_forall_ne_some] using notShown
    quiet_iff := Code.passes_notToRaise_iff even
    forbidden_iff := Code.fails_notToRaise_iff even
    passedOn_iff := Code.raises_notToRaise_iff even
    panics := Code.run_judged_of_panicked even
    overflows := Code.run_judged_of_overflowed even
    notBoth := by
      intro kind passes passesToo
      obtain ⟨error, _, comesTo, _⟩ := (Code.passes_toRaise_iff even).mp passes
      obtain ⟨value, _, comesToo⟩ := (Code.passes_notToRaise_iff even).mp passesToo
      cases comesTo.unique comesToo
    ancestors := by
      intro kind ancestor above passes
      obtain ⟨error, reached, comesTo, below⟩ :=
        (Code.passes_toRaise_iff even).mp passes
      have stillBelow := below.trans above
      exact ⟨(Code.passes_toRaise_iff even).mpr ⟨error, reached, comesTo, stillBelow⟩,
        (Code.fails_notToRaise_iff even).mpr ⟨error, reached, comesTo, stillBelow⟩⟩
    apart := apart
    siblings := by
      intro kind other listed otherListed differ
      have unrelated :
          ∀ low ∈ [ErrorKind.typeError, .argumentError, .runtimeError],
            ∀ high ∈ [ErrorKind.typeError, .argumentError, .runtimeError],
              low ≠ high → low.isA high = false := by
        decide +kernel
      have notDescends {low high : ErrorKind} (notIsA : low.isA high = false) :
          ¬ low.Descends high := by
        rw [← ErrorKind.isA_iff_descends, notIsA]
        exact Bool.false_ne_true
      exact apart (notDescends (unrelated kind listed other otherListed differ))
        (notDescends (unrelated other otherListed kind listed differ.symm)) }

/--
Matchers on blocks keep their promise of every block that raises an error, and of a
block that returns a value exactly if the value has a text.
-/
theorem raisingPromise_iff
    (machine : Machine World Label)
    (scene : Scene World Label)
    (block : Code World Label Raised Value)
    {count : Nat}
    (even : Even count) :
    RaisingEnsures machine scene block count ∧
      (RaisingPromise machine scene block count ↔
        ∀ value reached,
          block.ComesTo machine scene (.ok value) reached →
            reached.store.Shows [value]) := by
  have ensures := machine.raisingEnsures scene block even
  refine ⟨ensures, fun promise value reached comesTo => ?shows, fun shows => ?keeps⟩
  case shows =>
    have notPasses :
        ¬ (block.judged count .toRaise .typeError).Passes machine scene := by
      intro passes
      obtain ⟨_, _, comesToo, _⟩ := ensures.raised_iff.mp passes
      cases comesTo.unique comesToo
    rcases ensures.notRaised_iff.mp (promise _ _ _ comesTo notPasses) with
      ⟨_, _, comesToo, _⟩ | ⟨other, after, comesToo, shown⟩
    · cases comesTo.unique comesToo
    · cases comesTo.unique comesToo
      rwa [← comesTo.run_snd, comesToo.run_snd]
  case keeps =>
    intro kind outcome reached comesTo notPasses
    apply ensures.notRaised_iff.mpr
    cases outcome with
    | ok value => exact .inr ⟨value, reached, comesTo, shows value reached comesTo⟩
    | error error =>
        refine .inl ⟨error, reached, comesTo, fun below => notPasses ?_⟩
        exact ensures.raised_iff.mpr ⟨error, reached, comesTo, below⟩

end Machine

/-- Makes a hash and returns it. -/
def returnNew : Code Unit Empty Raised Value :=
  Code.perform (.newHash .nothing)

/-- The promise is kept of a new hash, also after two turns. -/
theorem raisingPromise_returnNew :
    Even 2 ∧
      RaisingPromise ⟨bodiless, 1⟩ (.fresh (.new ⟨"x86_64-linux"⟩) ()) returnNew 2 := by
  refine ⟨even_two, ?_⟩
  apply (Machine.raisingPromise_iff ⟨bodiless, 1⟩ _ returnNew even_two).2.mpr
  intro value reached comesTo
  cases comesTo with
  | value run =>
      cases run
      exact List.forall_mem_singleton.mpr ⟨_, rfl⟩

/-- Makes a hash, inserts it into itself and returns it. -/
def returnEntangled : Code Unit Empty Raised Value := do
  let hash ← Code.perform (.newHash .nothing)
  let _ ← Code.perform (.insert ⟨0⟩ (.integer 1) hash)
  pure hash

/-- The promise is not kept of a hash inside itself. -/
theorem not_raisingPromise_returnEntangled :
    ¬ RaisingPromise ⟨bodiless, 1⟩
      (.fresh (.new ⟨"x86_64-linux"⟩) ()) returnEntangled 0 := by
  intro promise
  obtain ⟨message, ending⟩ :=
    promise .typeError (.ok (.hash ⟨0⟩)) _ (.value rfl) nofun
  cases ending

end Conformance
