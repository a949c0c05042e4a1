import Conformance.Proofs.Hash.Clearing
import Conformance.Proofs.Hash.Entangling
import Conformance.Proofs.Program.Returning
import Conformance.Suite.Scenario

namespace Conformance

/-!
# Inspecting values

A check that fails says what it expected and what it got, and for this it needs the
texts of values.  These are to be had as long as no hash is inside itself.  Nothing
keeps a program from inserting a hash into itself, and from then on the hash and all
that it is inside of have no text: inspecting them never comes to an end, and a check
that fails on them exhausts the call stack before it has said a word.
-/

/-- The values whose texts are in the message of a matcher that fails. -/
def ValueMatcher.shows (actual : Value) (negated : Bool) : ValueMatcher → List Value
  | .toEq expected => [actual, expected]
  | .toEqual expected => [actual, expected]
  | .toBeNil => if negated then [] else [actual]
  | .toBeTrue => if negated then [] else [actual]
  | .toBeFalse => if negated then [] else [actual]
  | .toBeKindOf _ => [actual]

/-- The checks that fail, with the values whose texts are in their messages. -/
inductive FailingCheck {World Label : Type} :
    Code World Label Fault Unit → List Value → Prop where
  | value
      {matcher : ValueMatcher}
      {actual : Value}
      {negated : Bool}
      (fails : matcher.holds actual = negated) :
      FailingCheck (Expectation.check ⟨.value actual, negated⟩ matcher)
        (matcher.shows actual negated)
  | nothingRaised {kind : ErrorKind} {value : Value} :
      FailingCheck (Expectation.judge kind .toRaise (.ok value)) [value]
  | otherRaised
      {kind : ErrorKind}
      {error : Raised}
      (differs : error.isA kind = false) :
      FailingCheck (Expectation.judge kind .toRaise (.error error)) []
  | stillRaised
      {kind : ErrorKind}
      {error : Raised}
      (isKind : error.isA kind = true) :
      FailingCheck (Expectation.judge kind .notToRaise (.error error)) []

namespace Code

variable {World Label : Type}

/-- A check ends with a message, and its scenario counts as failed with this message. -/
structure Reports
    (check : Code World Label Fault Unit)
    (scene : Scene World Label)
    (message : String) : Prop where
  ending : ∀ machine : Machine World Label,
    machine.run check scene = (.stopped (.assertion message), scene)
  outcome : ∀ machine : Machine World Label,
    Scenario.outcomeOf (machine.run check scene).2 (machine.run check scene).1 =
      .failed message

/-- A check exhausts the call stack, however large it is. -/
def Exhausts
    (check : Code World Label Fault Unit)
    (scene : Scene World Label) :
    Prop :=
  ∀ machine : Machine World Label, machine.run check scene = (.overflowed, scene)

/-- Code puts a message together from the texts of values. -/
structure Tells
    (shown : List Value)
    (scene : Scene World Label)
    (code : Code World Label Fault String) : Prop where
  told :
    (∀ value ∈ shown, ∃ text, scene.store.inspect? value = some text) →
    ∃ message, ∀ invoke, code.execute invoke scene = (.returned message, scene)
  exhausted : ∀ value ∈ shown,
    scene.store.inspect? value = none →
    ∀ invoke, code.execute invoke scene = (.overflowed, scene)

end Code

/-- What failing checks and inspection are to promise, at every point of a course. -/
structure InspectionPromise
    {World Label : Type}
    (start : Scene World Label)
    (moments : List (Moment World Label)) : Prop where
  ends : ∀ earlier,
    earlier <+: moments →
    WellFounded (Moment.sceneAfter start earlier).store.Inside
  shown : ∀ earlier value,
    earlier <+: moments →
    (Moment.sceneAfter start earlier).store.Made value →
    ∃ text, (Moment.sceneAfter start earlier).store.inspect? value = some text
  reported : ∀ earlier check values,
    earlier <+: moments →
    FailingCheck check values →
    (∀ value ∈ values, (Moment.sceneAfter start earlier).store.Made value) →
    ∃ message, check.Reports (Moment.sceneAfter start earlier) message

/-- What is true of inspection and of failing checks at every point of a course. -/
structure InspectionEnsures
    {World Label : Type}
    (start : Scene World Label)
    (moments : List (Moment World Label)) : Prop where
  ends_iff : ∀ {earlier},
    earlier <+: moments →
    (WellFounded (Moment.sceneAfter start earlier).store.Inside ↔
      ∀ hash, ¬ (Moment.sceneAfter start earlier).store.InsideItself hash)
  recursion : ∀ {earlier hash},
    earlier <+: moments →
    (Moment.sceneAfter start earlier).store.Made (.hash hash) →
    (Moment.sceneAfter start earlier).store.inspect? (.hash hash) =
      (Value.inspectEntries (Moment.sceneAfter start earlier).store.inspect?
          ((Moment.sceneAfter start earlier).store.entriesOf hash)).map
        fun texts => "\x7b" ++ ", ".intercalate texts ++ "\x7d"
  shown_iff : ∀ {earlier value},
    earlier <+: moments →
    (Moment.sceneAfter start earlier).store.Made value →
    ((∃ text, (Moment.sceneAfter start earlier).store.inspect? value = some text) ↔
      ¬ (Moment.sceneAfter start earlier).store.Winds value)
  endless : ∀ {earlier value},
    earlier <+: moments →
    (Moment.sceneAfter start earlier).store.Winds value →
    ∀ depth,
      value.inspectWithin (Moment.sceneAfter start earlier).store.entriesOf depth = none
  reported : ∀ {earlier check values},
    earlier <+: moments →
    FailingCheck check values →
    (∀ value ∈ values, (Moment.sceneAfter start earlier).store.Made value) →
    (∀ value ∈ values, ¬ (Moment.sceneAfter start earlier).store.Winds value) →
    ∃ message, check.Reports (Moment.sceneAfter start earlier) message
  exhausted : ∀ {earlier check values value},
    earlier <+: moments →
    FailingCheck check values →
    value ∈ values →
    (Moment.sceneAfter start earlier).store.Winds value →
    check.Exhausts (Moment.sceneAfter start earlier)

namespace Code.Tells

variable {World Label : Type} {scene : Scene World Label}

theorem pure (message : String) :
    Tells [] scene (Pure.pure message : Code World Label Fault String) where
  told _ := ⟨message, fun _ => rfl⟩
  exhausted _ member := absurd member List.not_mem_nil

/-- A message that starts with a value tells it, and then the values in its rest. -/
theorem inspect
    {value : Value}
    {rest : List Value}
    {next : String → Code World Label Fault String}
    (goesOn : ∀ text, Tells rest scene (next text)) :
    Tells (value :: rest) scene (Code.inspect value >>= next) := by
  have shows {text : String} (shown : scene.store.inspect? value = some text)
      (invoke : Invoke World Label) :
      (Code.inspect value >>= next).execute invoke scene =
        (next text).execute invoke scene := by
    rw [execute_bind]
    apply Act.bind_of_returned
    simp only [Code.inspect, execute, shown]
  constructor
  · intro allShown
    obtain ⟨text, shown⟩ := allShown value List.mem_cons_self
    obtain ⟨message, told⟩ :=
      (goesOn text).told fun other member =>
        allShown other (List.mem_cons_of_mem _ member)
    exact ⟨message, fun invoke => (shows shown invoke).trans (told invoke)⟩
  · intro other member notShown invoke
    cases own : scene.store.inspect? value with
    | none =>
        rw [execute_bind, Act.bind_apply]
        simp only [Code.inspect, execute, own]
    | some text =>
        rcases List.mem_cons.mp member with rfl | inRest
        · rw [own] at notShown
          cases notShown
        · exact (shows own invoke).trans
            ((goesOn text).exhausted other inRest notShown invoke)

end Code.Tells

namespace ValueMatcher

variable {World Label : Type}

theorem complaint_tells
    (matcher : ValueMatcher)
    (actual : Value)
    (scene : Scene World Label) :
    Code.Tells (matcher.shows actual false) scene (matcher.complaint actual) := by
  cases matcher with
  | toEq | toEqual => exact .inspect fun _ => .inspect fun _ => .pure _
  | toBeNil | toBeTrue | toBeFalse | toBeKindOf => exact .inspect fun _ => .pure _

theorem negatedComplaint_tells
    (matcher : ValueMatcher)
    (actual : Value)
    (scene : Scene World Label) :
    Code.Tells (matcher.shows actual true) scene
      (matcher.negatedComplaint actual) := by
  cases matcher with
  | toEq | toEqual => exact .inspect fun _ => .inspect fun _ => .pure _
  | toBeNil | toBeTrue | toBeFalse => exact .pure _
  | toBeKindOf => exact .inspect fun _ => .pure _

end ValueMatcher

namespace FailingCheck

variable {World Label : Type} {check : Code World Label Fault Unit}
variable {values : List Value}

/-- A check that fails puts its message together and stops with it. -/
theorem exists_message
    (failing : FailingCheck check values)
    (scene : Scene World Label) :
    ∃ message : Code World Label Fault String,
      Code.Tells values scene message ∧
        ∀ invoke,
          check.execute invoke scene =
            (message >>= fun text => Code.stop (.assertion text)).execute
              invoke scene := by
  cases failing with
  | @value matcher actual negated fails =>
      cases negated with
      | false =>
          refine ⟨_, matcher.complaint_tells actual scene, fun invoke => ?_⟩
          simp only [Expectation.check, fails]
      | true =>
          refine ⟨_, matcher.negatedComplaint_tells actual scene, fun invoke => ?_⟩
          simp only [Expectation.check, fails]
  | @nothingRaised kind value =>
      let message (valueText : String) : String :=
        "Expected " ++ kind.name ++ " but no exception was raised (" ++ valueText ++
          " was returned)"
      have tells :
          Code.Tells [value] scene
            (Code.inspect value >>= fun valueText =>
              (pure (message valueText) : Code World Label Fault String)) :=
        .inspect fun _ => .pure _
      refine ⟨_, tells, fun invoke => ?_⟩
      rw [Expectation.judge, Code.execute_bind, Code.execute_bind, Act.bind_apply,
        Act.bind_apply, Code.execute_bind, Act.bind_apply]
      rcases (Code.inspect value).execute invoke scene with ⟨ending, reached⟩
      cases ending <;> rfl
  | @otherRaised kind error differs =>
      refine ⟨_, .pure ("Expected " ++ kind.name ++ "\nbut got " ++ error.text),
        fun invoke => ?_⟩
      simp only [Expectation.judge, differs]
      rfl
  | @stillRaised kind error isKind =>
      refine ⟨_,
        .pure ("Expected to not get " ++ kind.name ++ "\nbut got " ++ error.text),
        fun invoke => ?_⟩
      simp only [Expectation.judge, isKind]
      rfl

/-- A check that fails is reported if all the values in its message have texts. -/
theorem reports
    (failing : FailingCheck check values)
    {scene : Scene World Label}
    (allShown : ∀ value ∈ values, ∃ text, scene.store.inspect? value = some text) :
    ∃ message, check.Reports scene message := by
  obtain ⟨code, tells, stops⟩ := failing.exists_message scene
  obtain ⟨message, told⟩ := tells.told allShown
  have ending (machine : Machine World Label) :
      machine.run check scene = (.stopped (.assertion message), scene) := by
    refine (stops _).trans ?_
    rw [Code.execute_bind, Act.bind_of_returned (told _)]
    rfl
  refine ⟨message, ending, fun machine => ?_⟩
  rw [ending machine]
  rfl

/-- A check that fails exhausts the call stack if a value in its message has no text. -/
theorem exhausts
    (failing : FailingCheck check values)
    {scene : Scene World Label}
    {value : Value}
    (member : value ∈ values)
    (notShown : scene.store.inspect? value = none) :
    check.Exhausts scene := by
  obtain ⟨code, tells, stops⟩ := failing.exists_message scene
  intro machine
  refine (stops _).trans ?_
  rw [Code.execute_bind, Act.bind_apply, tells.exhausted value member notShown]

end FailingCheck

namespace Program

variable {World Label : Type}

/--
Inspection and failing checks keep their promise in exactly those courses in which no
insertion puts into a hash what the hash is reached from; of everything else they
keep it in every course.
-/
theorem inspectionPromise_iff
    (program : Program World Label)
    (depth : Nat)
    (tasks : List (Task World Label))
    (context : Context)
    (world : World)
    (storesMade :
      ∀ moment ∈ program.course depth tasks (.fresh context world),
        moment.StoresMade) :
    let start : Scene World Label := .fresh context world
    let moments := program.course depth tasks start
    InspectionEnsures start moments ∧
      (InspectionPromise start moments ↔
        ∀ moment ∈ moments, ¬ moment.Entangles) := by
  intro start moments
  obtain ⟨finish, trail⟩ := program.course_trail depth tasks start
  have closed {earlier : List (Moment World Label)} (point : earlier <+: moments) :
      (Moment.sceneAfter start earlier).store.Closed :=
    (trail.upTo .refl point).closed
      (fun moment member => storesMade moment (point.subset member))
      Store.closed_empty
  have straight_iff :=
    trail.straight_iff storesMade Store.closed_empty Store.straight_empty
  have shown_iff {earlier : List (Moment World Label)} {value : Value}
      (point : earlier <+: moments)
      (made : (Moment.sceneAfter start earlier).store.Made value) :=
    Store.exists_inspect?_iff_not_winds ((closed point).knows made)
  refine ⟨?ensures, ?kept⟩
  case ensures => exact {
    ends_iff := fun point => (closed point).wellFounded_iff
    recursion := fun point made => Store.inspect?_hash ((closed point).knows made)
    shown_iff := shown_iff
    endless := fun _ winds => Store.inspectWithin_of_winds winds
    reported := fun point failing made noneWinds =>
      failing.reports fun value member =>
        (shown_iff point (made value member)).mpr (noneWinds value member)
    exhausted := fun _ failing member winds =>
      failing.exhausts member (Store.inspectWithin_of_winds winds _) }
  case kept =>
    rw [← straight_iff]
    constructor
    · intro promise earlier point
      exact (closed point).wellFounded_iff.mp (promise.ends earlier point)
    · intro straight
      have shown {earlier : List (Moment World Label)} {value : Value}
          (point : earlier <+: moments)
          (made : (Moment.sceneAfter start earlier).store.Made value) :
          ∃ text, (Moment.sceneAfter start earlier).store.inspect? value =
            some text := by
        apply (shown_iff point made).mpr
        rintro ⟨hash, _, loop⟩
        exact straight earlier point hash loop
      exact {
        ends :=
          fun earlier point =>
            (closed point).wellFounded_iff.mpr (straight earlier point)
        shown := fun _ _ point made => shown point made
        reported := fun _ _ _ point failing made =>
          failing.reports fun value member => shown point (made value member) }

end Program

/-- Makes two hashes and inserts the first one into the second one. -/
def nestOther : Task Unit Empty where
  context := .new ⟨"x86_64-linux"⟩
  code := do
    let _ ← Code.perform (.newHash .nothing)
    let _ ← Code.perform (.newHash .nothing)
    let _ ← Code.perform (.insert ⟨1⟩ (.integer 1) (.hash ⟨0⟩))
    pure ()

/-- The promise is kept when a hash is inserted into another one. -/
theorem inspectionPromise_nestOther :
    let start : Scene Unit Empty := .fresh (.new ⟨"x86_64-linux"⟩) ()
    let moments := bodiless.course 1 [nestOther] start
    (∀ moment ∈ moments, moment.StoresMade) ∧ InspectionPromise start moments := by
  intro start moments
  have allStoreMade : moments.Forall Moment.StoresMade :=
    ⟨trivial, trivial, trivial, trivial, trivial,
      ⟨Store.made_hash (by decide), Store.made_of_not_hash nofun,
        Store.made_hash (by decide)⟩,
      trivial⟩
  have allApart : moments.Forall fun moment => ¬ moment.Entangles := by
    refine ⟨nofun, nofun, nofun, nofun, nofun, ?_, nofun⟩
    rintro ⟨putIn, reached⟩
    -- the first hash is another one and has no entries, and the key is no hash at all
    cases putIn with
    | value =>
        rcases reached.cases_tail with isSame | ⟨_, _, inside⟩
        · cases isSame
        · cases inside with
          | key entry | value entry => exact List.not_mem_nil entry
    | key =>
        rcases reached.cases_tail with isSame | ⟨_, _, inside⟩
        · cases isSame
        · cases inside
  have storesMade := List.forall_iff_forall_mem.mp allStoreMade
  refine ⟨storesMade, ?_⟩
  have promiseIff :=
    (bodiless.inspectionPromise_iff 1 [nestOther] (.new ⟨"x86_64-linux"⟩) () storesMade).2
  exact promiseIff.mpr (List.forall_iff_forall_mem.mp allApart)

/-- Makes a hash and inserts it into itself. -/
def nestItself : Task Unit Empty where
  context := .new ⟨"x86_64-linux"⟩
  code := do
    let _ ← Code.perform (.newHash .nothing)
    let _ ← Code.perform (.insert ⟨0⟩ (.integer 1) (.hash ⟨0⟩))
    pure ()

/-- The promise is not kept when a hash is inserted into itself. -/
theorem not_inspectionPromise_nestItself :
    let start : Scene Unit Empty := .fresh (.new ⟨"x86_64-linux"⟩) ()
    let moments := bodiless.course 1 [nestItself] start
    (∀ moment ∈ moments, moment.StoresMade) ∧ ¬ InspectionPromise start moments := by
  intro start moments
  have allStoreMade : moments.Forall Moment.StoresMade :=
    ⟨trivial, trivial, trivial,
      ⟨Store.made_hash (by decide), Store.made_of_not_hash nofun,
        Store.made_hash (by decide)⟩,
      trivial⟩
  refine ⟨List.forall_iff_forall_mem.mp allStoreMade, fun promise => ?_⟩
  have made : (Moment.sceneAfter start moments).store.Made (.hash ⟨0⟩) :=
    Store.made_hash (by decide)
  obtain ⟨text, shown⟩ := promise.shown _ _ List.prefix_rfl made
  cases shown

end Conformance
