import Conformance.Proofs.Hash.Entries
import Mathlib.Data.List.Nodup

namespace Conformance

/-!
# Equality of values

Two values are the same when they are one reference or do not differ, and equal when
they are the same or have equal text or record.  Both are equivalences, and a hash
cannot tell equal keys apart: it finds the same entry under either of them.

A reference carries what never changes about its object besides the identity.  The
store hands out every identity once, so references that a program was given are the
same exactly when their identities are.
-/

/-- The kinds of values. -/
inductive Variant where
  | nil
  | bool
  | integer
  | text
  | symbol
  | proc
  | hash
  | group
  | object
  deriving Repr, DecidableEq

namespace Value

/-- The kind of a value. -/
def variant : Value → Variant
  | .nil => .nil
  | .bool _ => .bool
  | .integer _ => .integer
  | .text _ => .text
  | .symbol _ => .symbol
  | .proc _ => .proc
  | .hash _ => .hash
  | .group _ => .group
  | .object _ => .object

/-- The identity that a value refers to; values without an object have none. -/
def identity? : Value → Option Nat
  | .text reference => some reference.id
  | .proc callable => some callable.id
  | .hash reference => some reference.id
  | .group reference => some reference.id
  | .object (.host id _) => some id
  | .object (.stub id) => some id
  | _ => none

/-- Texts with equal letters, or group records with equal fields. -/
inductive SameContent : Value → Value → Prop where
  | text (left right : Nat) (content : String) :
      SameContent (.text ⟨left, content⟩) (.text ⟨right, content⟩)
  | group (left right : Nat) (record : GroupRecord) :
      SameContent (.group ⟨left, record⟩) (.group ⟨right, record⟩)

end Value

/-- The operations that make an object and answer a reference to it. -/
def Operation.makes {Label : Type} : Operation Label → Bool
  | .newText _ => true
  | .newGroup _ => true
  | .newHash _ => true
  | .newProc _ _ _ => true
  | .newObject _ _ => true
  | .newStub _ => true
  | _ => false

/-- The reference to a new object that a program was given at a moment. -/
def Moment.given? {World Label : Type} : Moment World Label → Option Value
  | .askedStub _ _ (.ok value) _ => some value
  | .ended _ operation _ (.returned value) _ =>
      if operation.makes then some value else none
  | _ => none

/-- A hash takes two keys for one. -/
structure HashRef.Interchangeable
    {World Label : Type}
    (hash : HashRef)
    (left right : Value)
    (scene : Scene World Label) : Prop where
  contains :
    (scene.store.hash hash).contains left = (scene.store.hash hash).contains right
  get : ∀ (invoke : Invoke World Label),
    (scene.store.hash hash).contains left = true →
    ∃ value,
      hash.get invoke left scene = (.returned value, scene) ∧
        hash.get invoke right scene = (.returned value, scene)
  insert : ∀ value,
    (scene.store.hash hash).contains left = true →
    hash.insert left value scene = hash.insert right value scene
  replaces : ∀ value,
    (scene.store.hash hash).contains left = true →
    ∃ front key held back,
      (scene.store.hash hash).entries = front ++ (key, held) :: back ∧
        key.equal left = true ∧
        ((scene.store.hash hash).insert left value).entries =
          front ++ (key, value) :: back ∧
        ((scene.store.hash hash).insert right value).entries =
          front ++ (key, value) :: back

/-- What holds of all values, and of keys and references along the moments of a course. -/
structure EqualityGoverned
    {World Label : Type}
    (start : Scene World Label)
    (moments : List (Moment World Label)) : Prop where
  sameEquivalence : Equivalence fun left right : Value => left.same right = true
  equalEquivalence : Equivalence fun left right : Value => left.equal right = true
  equal_iff : ∀ {left right : Value},
    left.equal right = true ↔ left.same right = true ∨ left.SameContent right
  oneVariant : ∀ {left right : Value},
    left.equal right = true → left.variant = right.variant
  identity : ∀ {left right},
    left ∈ moments.filterMap Moment.given? →
    right ∈ moments.filterMap Moment.given? →
    (left.same right = true ↔ left.identity? = right.identity?)
  keys : ∀ {earlier left right} (hash : HashRef),
    earlier <+: moments →
    left.equal right = true →
    hash.Interchangeable left right (Moment.sceneAfter start earlier)

namespace Value

theorem same_equivalence :
    Equivalence fun left right : Value => left.same right = true where
  refl _ := same_iff.mpr rfl
  symm isSame := same_iff.mpr (same_iff.mp isSame).symm
  trans first second := same_iff.mpr ((same_iff.mp first).trans (same_iff.mp second))

theorem equal_equivalence :
    Equivalence fun left right : Value => left.equal right = true where
  refl _ := equal_iff.mpr rfl
  symm isEqual := equal_iff.mpr (equal_iff.mp isEqual).symm
  trans first second :=
    equal_iff.mpr ((equal_iff.mp first).trans (equal_iff.mp second))

theorem SameContent.equal
    {left right : Value}
    (alike : left.SameContent right) :
    left.equal right = true := by
  cases alike with
  | text left right content => simp [Value.equal]
  | group left right record => simp [Value.equal]

/--
Values are equal when they are the same, and else only if they are
alike texts or records.
-/
theorem equal_iff_same_or_sameContent {left right : Value} :
    left.equal right = true ↔ left.same right = true ∨ left.SameContent right := by
  constructor
  · intro isEqual
    cases left with
    | text first =>
        cases right with
        | text second =>
            obtain ⟨id, content⟩ := first
            obtain ⟨otherId, otherContent⟩ := second
            obtain rfl :
                content = otherContent := by simpa [Value.equal] using isEqual
            exact .inr (.text id otherId content)
        | _ => exact .inl isEqual
    | group first =>
        cases right with
        | group second =>
            obtain ⟨id, record⟩ := first
            obtain ⟨otherId, otherRecord⟩ := second
            obtain rfl : record = otherRecord := by simpa [Value.equal] using isEqual
            exact .inr (.group id otherId record)
        | _ => exact .inl isEqual
    | _ => exact .inl isEqual
  · rintro (isSame | alike)
    · rw [same_iff.mp isSame]
      exact equal_equivalence.refl right
    · exact alike.equal

theorem variant_eq_of_equal
    {left right : Value}
    (isEqual : left.equal right = true) :
    left.variant = right.variant := by
  rcases equal_iff_same_or_sameContent.mp isEqual with isSame | alike
  · rw [same_iff.mp isSame]
  · cases alike <;> rfl

/-- The same values are equal to one of two equal values and to the other. -/
theorem equal_congr_right
    {left right : Value}
    (alike : left.equal right = true)
    (other : Value) :
    other.equal left = other.equal right := by
  rw [equal_comm, equal_congr alike, equal_comm]

end Value

namespace HashState

variable {left right : Value}

theorem contains_congr
    (alike : left.equal right = true)
    (state : HashState) :
    state.contains left = state.contains right := by
  simp only [contains, Value.equal_congr_right alike]

theorem find?_congr
    (alike : left.equal right = true)
    (state : HashState) :
    state.find? left = state.find? right := by
  simp only [find?, Value.equal_congr_right alike]

/-- Storing passes over entries with other keys. -/
theorem store_append
    {key : Value}
    {front : List (Value × Value)}
    (others : ∀ entry ∈ front, entry.1.equal key = false)
    (value : Value)
    (rest : List (Value × Value)) :
    store key value (front ++ rest) = front ++ store key value rest := by
  induction front with
  | nil => rfl
  | cons entry front inductionHypothesis =>
      have different : entry.1.equal key = false := others entry List.mem_cons_self
      have later := inductionHypothesis fun other member =>
        others other (List.mem_cons_of_mem entry member)
      simp [store, different, later]

/--
Storing under a key that is there replaces the value of one entry and nothing else,
and storing under an equal key replaces the value of the same entry.
-/
theorem insert_of_contains
    {state : HashState}
    {key : Value}
    (present : state.contains key = true) :
    ∃ front stored held back,
      state.entries = front ++ (stored, held) :: back ∧
        stored.equal key = true ∧
        ∀ other,
          key.equal other = true →
          ∀ value, (state.insert other value).entries =
            front ++ (stored, value) :: back := by
  rw [contains_eq_isSome, find?, Option.isSome_map] at present
  obtain ⟨⟨stored, held⟩, found⟩ := Option.isSome_iff_exists.mp present
  obtain ⟨isKey, front, back, shape, others⟩ :=
    List.find?_eq_some_iff_append.mp found
  refine ⟨front, stored, held, back, shape, isKey, fun other alike value => ?_⟩
  have isOther : stored.equal other = true := by
    rw [← Value.equal_congr_right alike, isKey]
  have apart (entry : Value × Value) (member : entry ∈ front) :
      entry.1.equal other = false := by
    rw [← Value.equal_congr_right alike]
    simpa using others entry member
  rw [insert, shape, store_append apart, store, if_pos isOther]

/-- A value stored under a key that is there is stored alike under every equal key. -/
theorem insert_congr
    {state : HashState}
    (alike : left.equal right = true)
    (present : state.contains left = true)
    (value : Value) :
    state.insert left value = state.insert right value := by
  obtain ⟨_, _, _, _, -, -, replaced⟩ := insert_of_contains present
  have sameEntries :=
    (replaced left (Value.equal_equivalence.refl left) value).trans
      (replaced right alike value).symm
  exact congrArg (fun entries => { state with entries := entries }) sameEntries

end HashState

/-- A hash does the same under one of two equal keys as under the other. -/
theorem HashRef.interchangeable_of_equal
    {World Label : Type}
    {left right : Value}
    (alike : left.equal right = true)
    (hash : HashRef)
    (scene : Scene World Label) :
    hash.Interchangeable left right scene where
  contains := HashState.contains_congr alike _
  get invoke present := by
    rw [HashState.contains_eq_isSome] at present
    obtain ⟨value, found⟩ := Option.isSome_iff_exists.mp present
    have foundOther := (HashState.find?_congr alike _).symm.trans found
    exact ⟨value, get_of_found found invoke, get_of_found foundOther invoke⟩
  insert value present := by
    simp only [insert_apply, update, HashState.insert_congr alike present]
  replaces value present := by
    obtain ⟨front, key, held, back, shape, isKey, replaced⟩ :=
      HashState.insert_of_contains present
    exact ⟨front, key, held, back, shape, isKey,
      replaced left (Value.equal_equivalence.refl left) value,
        replaced right alike value⟩

namespace Moment.Follows

variable {World Label : Type} {program : Program World Label}
variable {scene : Scene World Label} {moment : Moment World Label}

/-- A reference that a program is given has an identity that was not handed out before. -/
theorem identity_of_given
    {value : Value}
    (follows : moment.Follows program Scene.SameObjects scene)
    (given : moment.given? = some value) :
    ∃ id, value.identity? = some id ∧ scene.store.next ≤ id ∧
      id < moment.scene.store.next := by
  cases follows with
  | passed | began => cases given
  | askedStub rests asked =>
      rcases Scene.makeStub_cases asked with ⟨rfl, rfl⟩ | ⟨rfl, rfl⟩
      · cases given
      · cases given
        rw [← rests]
        exact ⟨_, rfl, Nat.le_refl _, Nat.lt_succ_self _⟩
  | @ended depth operation start reached ending rests performed =>
      rw [← rests]
      cases operation with
      | newText | newGroup | newHash | newProc | newObject | newStub =>
          cases performed
          cases given
          exact ⟨_, rfl, Nat.le_refl _, Nat.lt_succ_self _⟩
      | _ => cases ending <;> cases given

end Moment.Follows

namespace Trail

variable {World Label : Type} {program : Program World Label}
variable {start finish : Scene World Label} {moments : List (Moment World Label)}

/--
The references that are given along a trail have identities of their
own, free at its start.
-/
theorem given_fresh
    (trail : Trail program Scene.SameObjects start moments finish) :
    (∀ value ∈ moments.filterMap Moment.given?,
        ∃ id, value.identity? = some id ∧ start.store.next ≤ id) ∧
      ((moments.filterMap Moment.given?).map Value.identity?).Nodup := by
  induction trail with
  | nil rests => simp
  | @cons start _ moment rest follows _ inductionHypothesis =>
      obtain ⟨laterFresh, laterApart⟩ := inductionHypothesis
      have fresh : ∀ value ∈ rest.filterMap Moment.given?,
          ∃ id, value.identity? = some id ∧ start.store.next ≤ id := by
        intro value member
        obtain ⟨id, identity, notBefore⟩ := laterFresh value member
        exact ⟨id, identity, Nat.le_trans follows.grows.next_le notBefore⟩
      cases given : moment.given? with
      | none =>
          rw [List.filterMap_cons_none given]
          exact ⟨fresh, laterApart⟩
      | some first =>
          obtain ⟨id, identity, notBefore, beforeNext⟩ :=
            follows.identity_of_given given
          rw [List.filterMap_cons_some given]
          refine ⟨List.forall_mem_cons.mpr ⟨⟨id, identity, notBefore⟩, fresh⟩, ?_⟩
          refine List.nodup_cons.mpr ⟨fun member => ?_, laterApart⟩
          obtain ⟨later, isLater, sameIdentity⟩ := List.mem_map.mp member
          obtain ⟨laterId, laterIdentity, notBeforeNext⟩ := laterFresh later isLater
          rw [identity, laterIdentity] at sameIdentity
          cases sameIdentity
          omega

end Trail

/--
Sameness and equality are equivalences, equality goes beyond sameness only for texts
and group records, and hashes respect it; and the references that a program is given
are the same when their identities are.
-/
theorem Program.equalityGoverned
    {World Label : Type}
    (program : Program World Label)
    (depth : Nat)
    (tasks : List (Task World Label))
    (context : Context)
    (world : World) :
    EqualityGoverned (.fresh context world)
      (program.course depth tasks (.fresh context world)) := by
  obtain ⟨finish, trail⟩ := program.course_trail depth tasks (.fresh context world)
  exact {
    sameEquivalence := Value.same_equivalence
    equalEquivalence := Value.equal_equivalence
    equal_iff := Value.equal_iff_same_or_sameContent
    oneVariant := Value.variant_eq_of_equal
    identity := by
      intro left right leftGiven rightGiven
      rw [Value.same_iff]
      refine ⟨congrArg Value.identity?, fun sameIdentity => ?_⟩
      exact List.inj_on_of_nodup_map trail.given_fresh.2 leftGiven rightGiven sameIdentity
    keys := fun hash _ alike => hash.interchangeable_of_equal alike _ }

end Conformance
