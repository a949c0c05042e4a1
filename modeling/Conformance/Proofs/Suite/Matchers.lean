import Conformance.Proofs.Object.Equality
import Conformance.Proofs.Object.Inspection
import Mathlib.Algebra.Ring.Parity

namespace Conformance

/-!
# Matchers on values

A matcher on a value passes if the value meets its condition, and after an odd number
of turns if the value does not.  Otherwise it fails with a message, for which it needs
the texts of the values that the message shows; where one of them has no text, the
check exhausts the call stack instead.

A matcher on the wrong kind of subject, and a matcher on blocks that was turned around,
is a misuse, and it is found out before anything else is done.
-/

/-- The classes and modules that a value belongs to, its own class first. -/
def Value.classes (value : Value) : List String :=
  value.className :: (value.ancestors ++ ["Object", "BasicObject"])

/-- The values that meet a condition. -/
inductive ValueMatcher.Meets : ValueMatcher → Value → Prop where
  | itself (expected : Value) : Meets (.toEqual expected) expected
  | same (expected : Value) : Meets (.toEq expected) expected
  | alike {actual expected : Value} :
      actual.SameContent expected → Meets (.toEq expected) actual
  | nil : Meets .toBeNil .nil
  | yes : Meets .toBeTrue (.bool true)
  | no : Meets .toBeFalse (.bool false)
  | kind {actual : Value} {tag : String} :
      tag ∈ actual.classes → Meets (.toBeKindOf tag) actual

/-- Whether a matcher is to accept a value after so many turns. -/
def ValueMatcher.Accepts
    (matcher : ValueMatcher)
    (actual : Value)
    (count : Nat) :
    Prop :=
  Even count ∧ matcher.Meets actual ∨ Odd count ∧ ¬ matcher.Meets actual

/-- Each of some values has a text. -/
def Store.Shows {Label : Type} (store : Store Label) (values : List Value) : Prop :=
  ∀ value ∈ values, ∃ text, store.inspect? value = some text

namespace Code

variable {World Label : Type}

/-- A check lets its scenario go on. -/
def Passes
    (machine : Machine World Label)
    (scene : Scene World Label)
    (check : Code World Label Fault Unit) : Prop :=
  (machine.run check scene).1 = .returned ()

/-- A check ends its scenario with a message about what was expected. -/
def Fails
    (machine : Machine World Label)
    (scene : Scene World Label)
    (check : Code World Label Fault Unit) : Prop :=
  ∃ message, (machine.run check scene).1 = .stopped (.assertion message)

/-- A check is refused as a misuse, and nothing at all is done for it. -/
structure Misuses
    (machine : Machine World Label)
    (scene : Scene World Label)
    (check : Code World Label Fault Unit)
    (kind : Misuse) : Prop where
  ending : machine.run check scene = (.stopped (.misuse kind), scene)
  idle : machine.program.moments machine.depth check scene = [.passed scene]

end Code

namespace Value

variable {World Label : Type}

/-- The check of a value with an expectation that was turned around so many times. -/
def checked
    (actual : Value)
    (count : Nat)
    (matcher : ValueMatcher) :
    Code World Label Fault Unit :=
  ((Expectation.ofValue actual).notTimes count).check matcher

end Value

/-- What the check of a value is to do. -/
structure MatcherPromise
    {World Label : Type}
    (machine : Machine World Label)
    (scene : Scene World Label)
    (matcher : ValueMatcher)
    (actual : Value)
    (count : Nat) : Prop where
  passes : matcher.Accepts actual count →
    (actual.checked count matcher).Passes machine scene
  fails : ¬ matcher.Accepts actual count →
    (actual.checked count matcher).Fails machine scene

/-- What is true of the checks of values, and of misuses, whatever the scene is like. -/
structure MatchersEnsure
    {World Label : Type}
    (machine : Machine World Label)
    (scene : Scene World Label) : Prop where
  passes_iff : ∀ {actual count matcher},
    (Value.checked actual count matcher).Passes machine scene ↔
      ValueMatcher.Accepts matcher actual count
  fails_iff : ∀ {actual count matcher},
    (Value.checked actual count matcher).Fails machine scene ↔
      ¬ ValueMatcher.Accepts matcher actual count ∧
        scene.store.Shows (ValueMatcher.shows actual (decide (Odd count)) matcher)
  exhausts_iff : ∀ {actual count matcher},
    (machine.run (Value.checked actual count matcher) scene).1 = .overflowed ↔
      ¬ ValueMatcher.Accepts matcher actual count ∧
        ¬ scene.store.Shows (ValueMatcher.shows actual (decide (Odd count)) matcher)
  shows_iff : ∀ {values},
    (∀ value ∈ values, scene.store.Knows value) →
    (scene.store.Shows values ↔ ∀ value ∈ values, ¬ scene.store.Winds value)
  unchanged : ∀ {actual count matcher},
    (machine.run (Value.checked actual count matcher) scene).2 = scene
  opposed : ∀ {actual count matcher},
    (Value.checked actual (count + 1) matcher).Passes machine scene ↔
      ¬ (Value.checked actual count matcher).Passes machine scene
  notBothFail : ∀ {actual count matcher},
    (Value.checked actual count matcher).Fails machine scene →
    ¬ (Value.checked actual (count + 1) matcher).Fails machine scene
  equalOfSame : ∀ {actual expected count},
    Even count →
    (Value.checked actual count (.toEqual expected)).Passes machine scene →
    (Value.checked actual count (.toEq expected)).Passes machine scene
  differentOfUnequal : ∀ {actual expected count},
    Odd count →
    (Value.checked actual count (.toEq expected)).Passes machine scene →
    (Value.checked actual count (.toEqual expected)).Passes machine scene
  blockGiven : ∀ {block count matcher},
    (((Expectation.ofBlock block).notTimes count).check matcher).Misuses
      machine scene (.blockGiven matcher.name)
  valueGiven : ∀ {actual count matcher kind},
    Even count →
    (((Expectation.ofValue actual).notTimes count).checkRaise matcher kind).Misuses
      machine scene (.valueGiven matcher.name)
  negated : ∀ {subject count matcher kind},
    Odd count →
    (Expectation.checkRaise (.notTimes count ⟨subject, false⟩) matcher kind).Misuses
      machine scene (.negatedBlock matcher.name)

theorem Value.isKindOf_iff_mem_classes {value : Value} {tag : String} :
    value.isKindOf tag = true ↔ tag ∈ value.classes := by
  simp only [isKindOf, classes, Bool.or_eq_true, beq_iff_eq, List.contains_iff_mem,
    List.mem_cons, List.mem_append, List.not_mem_nil, or_false]
  tauto

/--
A check that fails exhausts the call stack if not all the values in
its message have texts.
-/
theorem FailingCheck.run_of_not_shows
    {World Label : Type}
    {check : Code World Label Fault Unit}
    {values : List Value}
    {scene : Scene World Label}
    (failing : FailingCheck check values)
    (notShown : ¬ scene.store.Shows values)
    (machine : Machine World Label) :
    machine.run check scene = (.overflowed, scene) := by
  simp only [Store.Shows, not_forall] at notShown
  obtain ⟨value, member, noText⟩ := notShown
  have none : scene.store.inspect? value = none := by
    simpa [Option.eq_none_iff_forall_ne_some] using noText
  exact failing.exhausts member none machine

namespace ValueMatcher

/-- How the check of a value ends, given the store that it is made in. -/
inductive Concludes
    {Label : Type}
    (store : Store Label)
    (matcher : ValueMatcher)
    (actual : Value)
    (count : Nat) :
    Ending Fault Unit → Prop where
  | accepted :
      matcher.Accepts actual count →
        Concludes store matcher actual count (.returned ())
  | refused {message : String} :
      ¬ matcher.Accepts actual count →
      store.Shows (matcher.shows actual (decide (Odd count))) →
      Concludes store matcher actual count (.stopped (.assertion message))
  | endless :
      ¬ matcher.Accepts actual count →
      ¬ store.Shows (matcher.shows actual (decide (Odd count))) →
      Concludes store matcher actual count .overflowed

/-- The decision procedure for a condition is right. -/
theorem holds_iff_meets {matcher : ValueMatcher} {actual : Value} :
    matcher.holds actual = true ↔ matcher.Meets actual := by
  constructor
  · intro accepted
    cases matcher with
    | toEq expected =>
        rcases Value.equal_iff_same_or_sameContent.mp accepted with isSame | alike
        · rw [Value.same_iff.mp isSame]
          exact .same expected
        · exact .alike alike
    | toEqual expected =>
        rw [Value.same_iff.mp accepted]
        exact .itself expected
    | toBeNil =>
        cases actual with
        | nil => exact .nil
        | _ => cases accepted
    | toBeTrue =>
        rw [of_decide_eq_true accepted]
        exact .yes
    | toBeFalse =>
        rw [of_decide_eq_true accepted]
        exact .no
    | toBeKindOf tag => exact .kind (Value.isKindOf_iff_mem_classes.mp accepted)
  · intro meets
    cases meets with
    | itself => exact Value.same_iff.mpr rfl
    | same => exact Value.equal_equivalence.refl actual
    | alike alike => exact alike.equal
    | nil | yes | no => rfl
    | kind member => exact Value.isKindOf_iff_mem_classes.mpr member

/-- What is the same is equal. -/
theorem Meets.toEq
    {actual expected : Value}
    (isSame : Meets (.toEqual expected) actual) :
    Meets (.toEq expected) actual := by
  cases isSame
  exact .same _

/-- A matcher accepts a value if what it finds is not what it was turned around to. -/
theorem accepts_iff {matcher : ValueMatcher} {actual : Value} {count : Nat} :
    matcher.Accepts actual count ↔ matcher.holds actual ≠ decide (Odd count) := by
  rw [Accepts, ← holds_iff_meets, ← Nat.not_odd_iff_even]
  by_cases odd : Odd count <;> simp [odd]

theorem accepts_succ {matcher : ValueMatcher} {actual : Value} {count : Nat} :
    matcher.Accepts actual (count + 1) ↔ ¬ matcher.Accepts actual count := by
  simp only [Accepts, Nat.even_add_one, Nat.odd_add_one, Nat.not_even_iff_odd,
    Nat.not_odd_iff_even]
  rw [← Nat.not_even_iff_odd]
  tauto

end ValueMatcher

namespace Expectation

variable {World Label : Type}

/-- Only the number of turns counts, and of that only whether it is odd. -/
theorem notTimes_eq
    (count : Nat)
    (subject : Subject World Label)
    (negated : Bool) :
    notTimes count ⟨subject, negated⟩ =
      ⟨subject, negated ^^ decide (Odd count)⟩ := by
  induction count generalizing negated with
  | zero => simp [notTimes]
  | succ count inductionHypothesis =>
      rw [notTimes, not, inductionHypothesis]
      by_cases odd : Odd count <;> simp [odd, Nat.odd_add_one]

end Expectation

namespace Value

variable {World Label : Type}
variable {machine : Machine World Label} {scene : Scene World Label}
variable {actual : Value} {count : Nat} {matcher : ValueMatcher}

theorem checked_eq :
    (actual.checked count matcher : Code World Label Fault Unit) =
      Expectation.check ⟨.value actual, decide (Odd count)⟩ matcher := by
  rw [checked, Expectation.ofValue, Expectation.notTimes_eq, Bool.false_xor]

theorem run_checked_of_accepts (accepts : matcher.Accepts actual count) :
    machine.run (actual.checked count matcher) scene = (.returned (), scene) := by
  have differ := ValueMatcher.accepts_iff.mp accepts
  rw [checked_eq]
  cases holds : matcher.holds actual <;> cases odd : decide (Odd count)
  case true.false | false.true =>
    simp only [Expectation.check, holds]
    rfl
  case true.true | false.false =>
    rw [holds, odd] at differ
    exact absurd rfl differ

theorem failingCheck_of_not_accepts (refuses : ¬ matcher.Accepts actual count) :
    FailingCheck (actual.checked count matcher : Code World Label Fault Unit)
      (matcher.shows actual (decide (Odd count))) := by
  rw [checked_eq]
  exact .value (not_not.mp (mt ValueMatcher.accepts_iff.mpr refuses))

/-- The check of a value ends in one of three ways, and leaves the scene as it is. -/
theorem exists_concludes
    (machine : Machine World Label)
    (scene : Scene World Label)
    (actual : Value)
    (count : Nat)
    (matcher : ValueMatcher) :
    ∃ ending,
      machine.run (actual.checked count matcher) scene = (ending, scene) ∧
        matcher.Concludes scene.store actual count ending := by
  by_cases accepts : matcher.Accepts actual count
  · exact ⟨_, run_checked_of_accepts accepts, .accepted accepts⟩
  have failing :
      FailingCheck (actual.checked count matcher : Code World Label Fault Unit)
        (matcher.shows actual (decide (Odd count))) :=
    failingCheck_of_not_accepts accepts
  by_cases shown : scene.store.Shows (matcher.shows actual (decide (Odd count)))
  · obtain ⟨message, reports⟩ := failing.reports shown
    exact ⟨_, reports.ending machine, .refused accepts shown⟩
  · exact ⟨_, failing.run_of_not_shows shown machine, .endless accepts shown⟩

variable (machine : Machine World Label) (scene : Scene World Label)

theorem passes_checked_iff :
    (actual.checked count matcher).Passes machine scene ↔
      matcher.Accepts actual count := by
  obtain ⟨ending, run, concludes⟩ :=
    exists_concludes machine scene actual count matcher
  cases concludes <;> simp [Code.Passes, *]

theorem fails_checked_iff :
    (actual.checked count matcher).Fails machine scene ↔
      ¬ matcher.Accepts actual count ∧
        scene.store.Shows (matcher.shows actual (decide (Odd count))) := by
  obtain ⟨ending, run, concludes⟩ :=
    exists_concludes machine scene actual count matcher
  cases concludes <;> simp [Code.Fails, *]

theorem exhausts_checked_iff :
    (machine.run (actual.checked count matcher) scene).1 = .overflowed ↔
      ¬ matcher.Accepts actual count ∧
        ¬ scene.store.Shows (matcher.shows actual (decide (Odd count))) := by
  obtain ⟨ending, run, concludes⟩ :=
    exists_concludes machine scene actual count matcher
  cases concludes <;> simp [*]

theorem run_checked_snd :
    (machine.run (actual.checked count matcher) scene).2 = scene := by
  obtain ⟨ending, run, -⟩ := exists_concludes machine scene actual count matcher
  rw [run]

end Value

namespace Machine

variable {World Label : Type}

theorem matchersEnsure
    (machine : Machine World Label)
    (scene : Scene World Label) :
    MatchersEnsure machine scene where
  passes_iff := Value.passes_checked_iff machine scene
  fails_iff := Value.fails_checked_iff machine scene
  exhausts_iff := Value.exhausts_checked_iff machine scene
  shows_iff known := by
    refine forall₂_congr fun value member => ?_
    exact Store.exists_inspect?_iff_not_winds (known value member)
  unchanged := Value.run_checked_snd machine scene
  opposed := by
    intro actual count matcher
    rw [Value.passes_checked_iff, Value.passes_checked_iff,
      ValueMatcher.accepts_succ]
  notBothFail := by
    intro actual count matcher fails failsTurned
    have refuses := ((Value.fails_checked_iff machine scene).mp fails).1
    have refusesTurned := ((Value.fails_checked_iff machine scene).mp failsTurned).1
    exact refusesTurned (ValueMatcher.accepts_succ.mpr refuses)
  equalOfSame := by
    intro actual expected count even passes
    rw [Value.passes_checked_iff] at passes ⊢
    rcases passes with ⟨_, isSame⟩ | ⟨odd, _⟩
    · exact .inl ⟨even, isSame.toEq⟩
    · exact absurd even (Nat.not_even_iff_odd.mpr odd)
  differentOfUnequal := by
    intro actual expected count odd passes
    rw [Value.passes_checked_iff] at passes ⊢
    rcases passes with ⟨even, _⟩ | ⟨_, isUnequal⟩
    · exact absurd even (Nat.not_even_iff_odd.mpr odd)
    · exact .inr ⟨odd, fun isSame => isUnequal isSame.toEq⟩
  blockGiven := by
    intro block count matcher
    rw [Expectation.ofBlock, Expectation.notTimes_eq]
    exact ⟨rfl, rfl⟩
  valueGiven := by
    intro actual count matcher kind even
    have notOdd : decide (Odd count) = false := by simpa using even
    rw [Expectation.ofValue, Expectation.notTimes_eq, notOdd]
    exact ⟨rfl, rfl⟩
  negated := by
    intro subject count matcher kind odd
    rw [Expectation.notTimes_eq, decide_eq_true odd]
    exact ⟨rfl, rfl⟩

/--
Matchers on values keep their promise of every check that passes, and of a check that
does not pass exactly if all the values in its message have texts.
-/
theorem matcherPromise_iff
    (machine : Machine World Label)
    (scene : Scene World Label) :
    MatchersEnsure machine scene ∧
      ∀ matcher actual count,
        MatcherPromise machine scene matcher actual count ↔
          matcher.Accepts actual count ∨
            scene.store.Shows (matcher.shows actual (decide (Odd count))) := by
  have ensures := machine.matchersEnsure scene
  refine ⟨ensures, fun matcher actual count => ⟨fun promise => ?shows,
    fun shows => ?keeps⟩⟩
  case shows =>
    by_cases accepts : matcher.Accepts actual count
    · exact .inl accepts
    · exact .inr (ensures.fails_iff.mp (promise.fails accepts)).2
  case keeps =>
    refine ⟨ensures.passes_iff.mpr, fun refuses => ?_⟩
    exact ensures.fails_iff.mpr ⟨refuses, shows.resolve_left refuses⟩

end Machine

/-- What is there after a hash has been inserted into itself. -/
def entangled : Scene Unit Empty :=
  (bodiless.run 1 nestItself.code (.fresh nestItself.context ())).2

/-- The promise is not kept when a hash inside itself is expected to be `nil`. -/
theorem not_matcherPromise_entangled :
    ¬ MatcherPromise ⟨bodiless, 1⟩ entangled .toBeNil (.hash ⟨0⟩) 0 := by
  intro promise
  have refuses : ¬ ValueMatcher.Accepts .toBeNil (.hash ⟨0⟩) 0 := by
    rintro (⟨_, ⟨⟩⟩ | ⟨odd, _⟩)
    cases (by decide : ¬ Odd 0) odd
  obtain ⟨message, ending⟩ := promise.fails refuses
  cases ending

end Conformance
