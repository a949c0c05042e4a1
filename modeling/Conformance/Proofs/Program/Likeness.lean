import Conformance.Proofs.Program.Growth
import Mathlib.Data.List.Forall2

namespace Conformance

/-!
# Scenes alike but for identities

What a hook can tell of its context are the platform, the variables and its own
stubs, with the objects behind them.  Two scenes are alike to it when these
correspond under a pairing of identities.  Of the objects that are shared with
other scenarios, which the variables of the group lead to, only what never
changes has to correspond: a hash of the group may hold one thing here and
another there.

A body is known by its label, and a label can hold identities, as a closure does
that was made over an object.  So labels too correspond under a pairing, in a way
that the program decides.
-/

/-- The kinds of objects that have an identity. -/
inductive Species where
  | text
  | proc
  | hash
  | group
  | host
  | stub
  deriving Repr, DecidableEq

/-- Which identities stand for one another in two scenes. -/
abbrev Pairing : Type :=
  Species → Nat → Nat → Prop

namespace Pairing

/-- The pairing of no identities. -/
def none : Pairing :=
  fun _ _ _ => False

/-- The identities that one of two pairings pairs. -/
def union (first second : Pairing) : Pairing :=
  fun species left right => first species left right ∨ second species left right

/-- One more pair of identities. -/
def add (pairing : Pairing) (species : Species) (left right : Nat) : Pairing :=
  fun other first second =>
    pairing other first second ∨ other = species ∧ first = left ∧ second = right

/-- All that one pairing pairs another one does too. -/
def Within (fewer more : Pairing) : Prop :=
  ∀ species first second, fewer species first second → more species first second

/-- No identity stands for two. -/
structure OneToOne (pairing : Pairing) : Prop where
  right : ∀ {species left first second},
    pairing species left first → pairing species left second → first = second
  left : ∀ {species first second right},
    pairing species first right → pairing species second right → first = second

@[simp] theorem union_none (pairing : Pairing) : pairing.union .none = pairing := by
  funext species first second
  simp [union, none]

theorem union_add (shared own : Pairing) (species : Species) (left right : Nat) :
    shared.union (own.add species left right) =
      (shared.union own).add species left right := by
  funext other first second
  simp only [union, add, or_assoc]

theorem within_add {pairing : Pairing} {species : Species} {left right : Nat} :
    pairing.Within (pairing.add species left right) :=
  fun _ _ _ => .inl

end Pairing

/-- What counts as alike when two runs are compared. -/
structure Likeness (Label : Type) where
  /-- The variables that the group uses for what its scenarios share. -/
  grouped : String → Bool
  /-- The objects that hooks know from before the run. -/
  known : Pairing
  /-- The labels whose bodies stand for one another while identities do. -/
  labels : Pairing → Label → Label → Prop
  labels_mono : ∀ {fewer more : Pairing} {left right : Label},
    labels fewer left right → fewer.Within more → labels more left right

/-- Values alike up to a pairing of identities. -/
inductive Value.Matches (pairing : Pairing) : Value → Value → Prop where
  | nil : Matches pairing .nil .nil
  | bool (flag : Bool) : Matches pairing (.bool flag) (.bool flag)
  | integer (number : Int64) : Matches pairing (.integer number) (.integer number)
  | symbol (name : String) : Matches pairing (.symbol name) (.symbol name)
  | text {left right : Nat} (content : String) (paired : pairing .text left right) :
      Matches pairing (.text ⟨left, content⟩) (.text ⟨right, content⟩)
  | proc
      {left right : Nat} (flavour : Flavour) (arity : Arity)
        (paired : pairing .proc left right) :
      Matches pairing (.proc ⟨left, flavour, arity⟩) (.proc ⟨right, flavour, arity⟩)
  | hash {left right : Nat} (paired : pairing .hash left right) :
      Matches pairing (.hash ⟨left⟩) (.hash ⟨right⟩)
  | group {left right : Nat} (record : GroupRecord)
    (paired : pairing .group left right) :
      Matches pairing (.group ⟨left, record⟩) (.group ⟨right, record⟩)
  | host {left right : Nat} (className : String)
    (paired : pairing .host left right) :
      Matches pairing (.object (.host left className))
        (.object (.host right className))
  | stub {left right : Nat} (paired : pairing .stub left right) :
      Matches pairing (.object (.stub left)) (.object (.stub right))

/-- Callables that do alike when they are called. -/
inductive Behaviour.Matches
    {Label : Type}
    (likeness : Likeness Label)
    (pairing : Pairing) :
    Behaviour Label → Behaviour Label → Prop where
  | constant {left right : Value} (values : left.Matches pairing right) :
      Matches likeness pairing (.constant left) (.constant right)
  | body {left right : Label} (labels : likeness.labels pairing left right) :
      Matches likeness pairing (.body left) (.body right)

/-- Hashes with alike contents. -/
structure HashState.Matches (pairing : Pairing) (left right : HashState) : Prop where
  entries :
    left.entries.Forall₂
      (fun first second =>
        first.1.Matches pairing second.1 ∧ first.2.Matches pairing second.2)
      right.entries
  default : left.default.Matches pairing right.default
  defaultProc :
    Option.Rel
      (fun first second => (Value.proc first).Matches pairing (Value.proc second))
      left.defaultProc right.defaultProc
  frozen : left.frozen = right.frozen

/-- Declarations alike but for what they answer, which corresponds. -/
structure Declaration.Matches
    (pairing : Pairing)
    (left right : Declaration) :
    Prop where
  method : left.method = right.method
  returns : left.returns.Matches pairing right.returns
  expected : left.expected = right.expected
  calls : left.calls = right.calls

/-- Stubs with alike declarations. -/
structure StubState.Matches (pairing : Pairing) (left right : StubState) : Prop where
  name : left.name = right.name
  declarations :
    left.declarations.Forall₂ (fun first second => first.Matches pairing second)
      right.declarations

namespace Store

variable {Label : Type}

/-- What can never change of two objects of a species is alike. -/
def SameNature
    (likeness : Likeness Label)
    (pairing : Pairing)
    (left right : Store Label)
    (first second : Nat) :
    Species → Prop
  | .proc =>
      (left.behaviours first).Matches likeness pairing (right.behaviours second)
  | .host =>
      (left.methods first).Forall₂
        (fun method other => method.1 = other.1 ∧
          likeness.labels pairing method.2 other.2)
        (right.methods second)
  | .text | .hash | .group | .stub => True

/-- What can change of two objects of a species is alike. -/
def SameState
    (pairing : Pairing)
    (left right : Store Label)
    (first second : Nat) :
    Species → Prop
  | .hash => (left.hashes first).Matches pairing (right.hashes second)
  | .stub => (left.stubs first).Matches pairing (right.stubs second)
  | .text | .proc | .group | .host => True

/-- Paired objects of two stores have been made, and are alike in what never changes. -/
structure Corresponds
    (likeness : Likeness Label)
    (pairing : Pairing)
    (left right : Store Label) : Prop where
  oneToOne : pairing.OneToOne
  made : ∀ {species first second},
    pairing species first second → first < left.next ∧ second < right.next
  natures : ∀ {species first second},
    pairing species first second →
      SameNature likeness pairing left right first second species

end Store

namespace Scene

variable {World Label : Type}

/--
The identities that a variable may hold: those of the group and those of the
scenario where the group uses the name, and otherwise those of the scenario only.
-/
def reach
    (grouped : String → Bool)
    (shared own : Pairing)
    (groupLevel : Bool)
    (name : String) :
    Pairing :=
  if grouped name then shared.union own else if groupLevel then .none else own

/--
Two scenes are alike under a pairing of what they share with other scenarios and
a pairing of what is their own.  Hooks of a group share only what they know from
before the run.
-/
structure Matches
    (likeness : Likeness Label)
    (shared own : Pairing)
    (left right : Scene World Label) : Prop where
  platform : left.context.platform = right.context.platform
  groupLevel : left.context.groupLevel = right.context.groupLevel
  known : likeness.known.Within shared
  unshared : left.context.groupLevel = true → shared.Within likeness.known
  objects : left.store.Corresponds likeness (shared.union own) right.store
  states : ∀ {species first second},
    own species first second →
    left.store.SameState (shared.union own) right.store first second species
  bindings : ∀ name,
    Option.Rel (Value.Matches
      (reach likeness.grouped shared own left.context.groupLevel name))
      (left.context.bindings name) (right.context.bindings name)
  stubs : left.context.stubs.Forall₂ (own .stub) right.context.stubs

/-- Two scenes are alike to hooks. -/
def Alike (likeness : Likeness Label) (left right : Scene World Label) : Prop :=
  ∃ shared own, left.Matches likeness shared own right

end Scene

theorem Value.Matches.mono
    {fewer more : Pairing}
    {left right : Value}
    (matched : left.Matches fewer right)
    (included : fewer.Within more) :
    left.Matches more right := by
  cases matched with
  | nil => exact .nil
  | bool flag => exact .bool flag
  | integer number => exact .integer number
  | symbol name => exact .symbol name
  | text content paired => exact .text content (included _ _ _ paired)
  | proc flavour arity paired => exact .proc flavour arity (included _ _ _ paired)
  | hash paired => exact .hash (included _ _ _ paired)
  | group record paired => exact .group record (included _ _ _ paired)
  | host className paired => exact .host className (included _ _ _ paired)
  | stub paired => exact .stub (included _ _ _ paired)

theorem Behaviour.Matches.mono
    {Label : Type}
    {likeness : Likeness Label}
    {fewer more : Pairing}
    {left right : Behaviour Label}
    (matched : left.Matches likeness fewer right)
    (included : fewer.Within more) :
    left.Matches likeness more right := by
  cases matched with
  | constant values => exact .constant (values.mono included)
  | body labels => exact .body (likeness.labels_mono labels included)

theorem Value.Matches.rel_mono
    {fewer more : Pairing}
    {left right : Option Value}
    (matched : Option.Rel (Value.Matches fewer) left right)
    (included : fewer.Within more) :
    Option.Rel (Value.Matches more) left right := by
  cases matched with
  | none => exact .none
  | some values => exact .some (values.mono included)

theorem HashState.Matches.mono
    {fewer more : Pairing}
    {left right : HashState}
    (matched : left.Matches fewer right)
    (included : fewer.Within more) :
    left.Matches more right where
  entries :=
    matched.entries.imp fun _ _ alike =>
      ⟨alike.1.mono included, alike.2.mono included⟩
  default := matched.default.mono included
  defaultProc := by
    have callables := matched.defaultProc
    generalize left.defaultProc = first at callables ⊢
    generalize right.defaultProc = second at callables ⊢
    cases callables with
    | none => exact .none
    | some values => exact .some (values.mono included)
  frozen := matched.frozen

theorem StubState.Matches.mono
    {fewer more : Pairing}
    {left right : StubState}
    (matched : left.Matches fewer right)
    (included : fewer.Within more) :
    left.Matches more right where
  name := matched.name
  declarations :=
    matched.declarations.imp fun _ _ alike =>
      ⟨alike.method, alike.returns.mono included, alike.expected, alike.calls⟩

namespace Store

variable {Label : Type} {likeness : Likeness Label}
variable {left right leftLater rightLater : Store Label}

theorem SameNature.mono
    {fewer more : Pairing}
    {first second : Nat}
    {species : Species}
    (same : left.SameNature likeness fewer right first second species)
    (included : fewer.Within more) :
    left.SameNature likeness more right first second species := by
  cases species with
  | proc => exact Behaviour.Matches.mono same included
  | host =>
      exact List.Forall₂.imp
        (fun _ _ alike => ⟨alike.1, likeness.labels_mono alike.2 included⟩) same
  | _ => trivial

theorem SameState.mono
    {fewer more : Pairing}
    {first second : Nat}
    {species : Species}
    (same : left.SameState fewer right first second species)
    (included : fewer.Within more) :
    left.SameState more right first second species := by
  cases species with
  | hash => exact HashState.Matches.mono same included
  | stub => exact StubState.Matches.mono same included
  | _ => trivial

/-- Objects keep their nature in stores that only grow. -/
theorem SameNature.later
    {pairing : Pairing}
    {first second : Nat}
    {species : Species}
    (same : left.SameNature likeness pairing right first second species)
    (leftGrows : left.Grows leftLater)
    (rightGrows : right.Grows rightLater)
    (firstMade : first < left.next)
    (secondMade : second < right.next) :
    leftLater.SameNature likeness pairing rightLater first second species := by
  cases species with
  | proc =>
      simp only [SameNature, leftGrows.behaviours first firstMade,
        rightGrows.behaviours second secondMade]
      exact same
  | host =>
      simp only [SameNature, leftGrows.methods first firstMade,
        rightGrows.methods second secondMade]
      exact same
  | _ => trivial

/-- What corresponds still does in stores that have grown. -/
theorem Corresponds.later
    {pairing : Pairing}
    (corresponds : left.Corresponds likeness pairing right)
    (leftGrows : left.Grows leftLater)
    (rightGrows : right.Grows rightLater) :
    leftLater.Corresponds likeness pairing rightLater where
  oneToOne := corresponds.oneToOne
  made := by
    intro species first second paired
    obtain ⟨firstMade, secondMade⟩ := corresponds.made paired
    exact
      ⟨Nat.lt_of_lt_of_le firstMade leftGrows.next_le,
        Nat.lt_of_lt_of_le secondMade rightGrows.next_le⟩
  natures := by
    intro species first second paired
    obtain ⟨firstMade, secondMade⟩ := corresponds.made paired
    exact (corresponds.natures paired).later leftGrows rightGrows firstMade secondMade

/-- A store has one object more than another, and the others are as they were. -/
structure AddsOne (before after : Store Label) : Prop where
  next_eq : after.next = before.next + 1
  grows : before.Grows after
  hashes : ∀ id, id < before.next → after.hashes id = before.hashes id
  stubs : ∀ id, id < before.next → after.stubs id = before.stubs id

theorem addsOne_newHash (store : Store Label) (fallback : Fallback) :
    store.AddsOne (store.newHash fallback).2 where
  next_eq := rfl
  grows := ⟨Nat.le_succ _, fun _ _ => rfl, fun _ _ => rfl⟩
  hashes _ old := Table.put_other store.hashes _ (Nat.ne_of_lt old)
  stubs _ _ := rfl

theorem addsOne_newProc
    (store : Store Label)
    (flavour : Flavour)
    (arity : Arity)
    (behaviour : Behaviour Label) :
    store.AddsOne (store.newProc flavour arity behaviour).2 where
  next_eq := rfl
  grows :=
    ⟨Nat.le_succ _, fun _ old => Table.put_other store.behaviours _ (Nat.ne_of_lt old),
      fun _ _ => rfl⟩
  hashes _ _ := rfl
  stubs _ _ := rfl

theorem addsOne_newObject
    (store : Store Label)
    (className : String)
    (methods : List (String × Label)) :
    store.AddsOne (store.newObject className methods).2 where
  next_eq := rfl
  grows :=
    ⟨Nat.le_succ _, fun _ _ => rfl,
      fun _ old => Table.put_other store.methods _ (Nat.ne_of_lt old)⟩
  hashes _ _ := rfl
  stubs _ _ := rfl

theorem addsOne_newStub (store : Store Label) (name : String) :
    store.AddsOne (store.newStub name).2 where
  next_eq := rfl
  grows := ⟨Nat.le_succ _, fun _ _ => rfl, fun _ _ => rfl⟩
  hashes _ _ := rfl
  stubs _ old := Table.put_other store.stubs _ (Nat.ne_of_lt old)

/-- Objects keep their state when others are added. -/
theorem SameState.later
    {pairing : Pairing}
    {first second : Nat}
    {species : Species}
    (same : left.SameState pairing right first second species)
    (leftAdds : left.AddsOne leftLater)
    (rightAdds : right.AddsOne rightLater)
    (firstMade : first < left.next)
    (secondMade : second < right.next) :
    leftLater.SameState pairing rightLater first second species := by
  cases species with
  | hash =>
      simp only [SameState, leftAdds.hashes first firstMade,
        rightAdds.hashes second secondMade]
      exact same
  | stub =>
      simp only [SameState, leftAdds.stubs first firstMade,
        rightAdds.stubs second secondMade]
      exact same
  | _ => trivial

/-- Identities that have just been handed out in both stores can be paired. -/
theorem Corresponds.oneToOne_add
    {pairing : Pairing}
    (corresponds : left.Corresponds likeness pairing right)
    (species : Species) :
    (pairing.add species left.next right.next).OneToOne := by
  constructor
  · intro other first second third one another
    rcases one with oneOld | ⟨-, rfl, rfl⟩
    · have := corresponds.made oneOld
      rcases another with otherOld | ⟨-, rfl, rfl⟩
      · exact corresponds.oneToOne.right oneOld otherOld
      · omega
    · rcases another with otherOld | ⟨-, -, rfl⟩
      · have := corresponds.made otherOld
        omega
      · rfl
  · intro other first second third one another
    rcases one with oneOld | ⟨-, rfl, rfl⟩
    · have := corresponds.made oneOld
      rcases another with otherOld | ⟨-, rfl, rfl⟩
      · exact corresponds.oneToOne.left oneOld otherOld
      · omega
    · rcases another with otherOld | ⟨-, rfl, -⟩
      · have := corresponds.made otherOld
        omega
      · rfl

/-- New objects that are alike can be paired. -/
theorem Corresponds.add
    {pairing : Pairing}
    {species : Species}
    (corresponds : left.Corresponds likeness pairing right)
    (leftAdds : left.AddsOne leftLater)
    (rightAdds : right.AddsOne rightLater)
    (nature :
      leftLater.SameNature likeness (pairing.add species left.next right.next) rightLater
        left.next right.next species) :
    leftLater.Corresponds likeness
      (pairing.add species left.next right.next) rightLater where
  oneToOne := corresponds.oneToOne_add species
  made := by
    intro other first second paired
    rw [leftAdds.next_eq, rightAdds.next_eq]
    rcases paired with old | ⟨-, rfl, rfl⟩
    · have := corresponds.made old
      omega
    · omega
  natures := by
    intro other first second paired
    rcases paired with old | ⟨rfl, rfl, rfl⟩
    · obtain ⟨firstMade, secondMade⟩ := corresponds.made old
      exact ((corresponds.natures old).mono Pairing.within_add).later
        leftAdds.grows rightAdds.grows firstMade secondMade
    · exact nature

end Store

namespace Declaration.Matches

variable {pairing : Pairing} {left right : Declaration}

theorem unmet_eq (matched : left.Matches pairing right) :
    left.expected.satisfiedBy left.calls =
      right.expected.satisfiedBy right.calls := by
  rw [matched.expected, matched.calls]

end Declaration.Matches

namespace StubState.Matches

variable {pairing : Pairing} {left right : StubState}

theorem firstUnmet?_eq (matched : left.Matches pairing right) :
    left.firstUnmet? = right.firstUnmet? := by
  obtain ⟨leftName, leftDeclarations⟩ := left
  obtain ⟨rightName, rightDeclarations⟩ := right
  obtain rfl : leftName = rightName := matched.name
  have declarations :
      leftDeclarations.Forall₂ (fun first second => first.Matches pairing second)
        rightDeclarations := matched.declarations
  simp only [firstUnmet?]
  induction declarations with
  | nil => rfl
  | @cons first second leftRest rightRest alike rest inductionHypothesis =>
      have others := inductionHypothesis ⟨rfl, rest⟩
      simp only [List.find?_cons, alike.unmet_eq]
      split
      · simp only [Option.map_some, alike.method, alike.expected, alike.calls]
      · exact others

end StubState.Matches

namespace Scene.Matches

variable {World Label : Type} {likeness : Likeness Label} {shared own : Pairing}
variable {left right : Scene World Label}

theorem firstUnmet?_eq (matched : left.Matches likeness shared own right) :
    left.firstUnmet? = right.firstUnmet? := by
  have stubs := matched.stubs
  have states {first second : Nat} (paired : own .stub first second) :
      (left.store.stubs first).firstUnmet? =
        (right.store.stubs second).firstUnmet? :=
    StubState.Matches.firstUnmet?_eq (matched.states paired)
  unfold Scene.firstUnmet?
  generalize left.context.stubs = leftStubs at stubs ⊢
  generalize right.context.stubs = rightStubs at stubs ⊢
  induction stubs with
  | nil => rfl
  | cons paired _ inductionHypothesis =>
      simp only [List.findSome?_cons, states paired, inductionHypothesis]

/--
Scenes are alike to the first hook of a group if what is known
from before the run is.
-/
theorem forGroup
    (known : left.store.Corresponds likeness likeness.known right.store)
    (platform : Platform) :
    (left.enter (.forGroup platform)).Matches likeness likeness.known .none
      (right.enter (.forGroup platform)) where
  platform := rfl
  groupLevel := rfl
  known _ _ _ := id
  unshared _ _ _ _ := id
  objects := by
    rw [Pairing.union_none]
    exact known
  states := False.elim
  bindings _ := .none
  stubs := .nil

/--
Forks of alike contexts of a group are alike, whatever has been done to the
objects since: all that the group made is shared now.
-/
theorem fork
    {leftLater rightLater : Scene World Label}
    (matched : left.Matches likeness shared own right)
    (ofGroup : left.context.groupLevel = true)
    (leftGrows : left.store.Grows leftLater.store)
    (rightGrows : right.store.Grows rightLater.store) :
    (leftLater.enter left.context.fork).Matches likeness (shared.union own) .none
      (rightLater.enter right.context.fork) where
  platform := matched.platform
  groupLevel := rfl
  known species first second paired :=
    .inl (matched.known species first second paired)
  unshared := nofun
  objects := by
    rw [Pairing.union_none]
    exact matched.objects.later leftGrows rightGrows
  states := False.elim
  bindings := by
    intro name
    have bound := matched.bindings name
    cases isGrouped : likeness.grouped name with
    | true =>
        simp only [reach, isGrouped, ↓reduceIte, Pairing.union_none] at bound ⊢
        exact bound
    | false =>
        simp only [reach, isGrouped, ofGroup, Bool.false_eq_true,
          ↓reduceIte] at bound ⊢
        exact bound
  stubs := .nil

theorem assign
    (matched : left.Matches likeness shared own right)
    (name : String)
    {value other : Value}
    (values :
      value.Matches (reach likeness.grouped shared own
        left.context.groupLevel name) other) :
    (left.assign name value).Matches likeness shared own
      (right.assign name other) where
  platform := matched.platform
  groupLevel := matched.groupLevel
  known := matched.known
  unshared := matched.unshared
  objects := matched.objects
  states := matched.states
  bindings := by
    intro asked
    by_cases same : asked = name
    · subst same
      simp only [Scene.assign, Context.bindings_assign_same]
      exact .some values
    · simp only [Scene.assign, Context.bindings_assign_other _ _ same]
      exact matched.bindings asked
  stubs := matched.stubs

theorem reach_within_add
    {grouped : String → Bool}
    {groupLevel : Bool}
    {name : String}
    {species : Species}
    {first second : Nat} :
    (reach grouped shared own groupLevel name).Within
      (reach grouped shared (own.add species first second) groupLevel name) := by
  unfold reach
  split
  · exact fun _ _ _ paired => paired.imp id .inl
  · split
    · exact fun _ _ _ => id
    · exact fun _ _ _ => .inl

/-- Alike objects that are made in alike scenes become their own in both. -/
theorem make
    {leftStore rightStore : Store Label}
    {species : Species}
    (matched : left.Matches likeness shared own right)
    (leftAdds : left.store.AddsOne leftStore)
    (rightAdds : right.store.AddsOne rightStore)
    (nature :
      leftStore.SameNature likeness
        ((shared.union own).add species left.store.next right.store.next) rightStore
        left.store.next right.store.next species)
    (state :
      leftStore.SameState
        ((shared.union own).add species left.store.next right.store.next)
        rightStore left.store.next right.store.next species) :
    (left.withStore leftStore).Matches likeness shared
      (own.add species left.store.next right.store.next)
        (right.withStore rightStore) where
  platform := matched.platform
  groupLevel := matched.groupLevel
  known := matched.known
  unshared := matched.unshared
  objects := by
    rw [Pairing.union_add]
    exact matched.objects.add leftAdds rightAdds nature
  states := by
    intro other first second paired
    rw [Pairing.union_add]
    rcases paired with old | ⟨rfl, rfl, rfl⟩
    · obtain ⟨firstMade, secondMade⟩ := matched.objects.made (.inr old)
      exact ((matched.states old).mono Pairing.within_add).later
        leftAdds rightAdds firstMade secondMade
    · exact state
  bindings name := Value.Matches.rel_mono (matched.bindings name) reach_within_add
  stubs := matched.stubs.imp fun _ _ => .inl

/-- New hashes in alike scenes are alike if what they fall back to is. -/
theorem newHash
    (matched : left.Matches likeness shared own right)
    {fallback other : Fallback}
    (fallbacks : (HashState.new fallback).Matches (shared.union own) (.new other)) :
    (left.withStore (left.store.newHash fallback).2).Matches likeness shared
      (own.add .hash left.store.next right.store.next)
      (right.withStore (right.store.newHash other).2) := by
  refine matched.make (left.store.addsOne_newHash _)
    (right.store.addsOne_newHash _) trivial ?_
  simp only [Store.SameState, Store.newHash, Store.advance,
    Store.putHash, Table.put_same]
  exact fallbacks.mono Pairing.within_add

/-- New callables in alike scenes are alike if they do alike. -/
theorem newProc
    (matched : left.Matches likeness shared own right)
    (flavour : Flavour)
    (arity : Arity)
    {behaviour other : Behaviour Label}
    (behaviours : behaviour.Matches likeness (shared.union own) other) :
    (left.withStore (left.store.newProc flavour arity behaviour).2).Matches
      likeness shared
      (own.add .proc left.store.next right.store.next)
      (right.withStore (right.store.newProc flavour arity other).2) := by
  refine matched.make (left.store.addsOne_newProc ..)
    (right.store.addsOne_newProc ..) ?_ trivial
  simp only [Store.SameNature, Store.newProc, Store.advance, Table.put_same]
  exact behaviours.mono Pairing.within_add

/-- New objects of the host in alike scenes are alike if their methods do alike. -/
theorem newObject
    (matched : left.Matches likeness shared own right)
    (className : String)
    {methods others : List (String × Label)}
    (sameMethods :
      methods.Forall₂
        (fun method other =>
          method.1 = other.1 ∧ likeness.labels (shared.union own) method.2 other.2)
        others) :
    (left.withStore (left.store.newObject className methods).2).Matches likeness shared
      (own.add .host left.store.next right.store.next)
      (right.withStore (right.store.newObject className others).2) := by
  refine matched.make (left.store.addsOne_newObject ..)
    (right.store.addsOne_newObject ..) ?_ trivial
  simp only [Store.SameNature, Store.newObject, Store.advance, Table.put_same]
  exact sameMethods.imp fun _ _ alike =>
    ⟨alike.1, likeness.labels_mono alike.2 Pairing.within_add⟩

theorem newStub (matched : left.Matches likeness shared own right) (name : String) :
    (left.withStore (left.store.newStub name).2).Matches likeness shared
      (own.add .stub left.store.next right.store.next)
      (right.withStore (right.store.newStub name).2) := by
  refine matched.make (left.store.addsOne_newStub _)
    (right.store.addsOne_newStub _) trivial ?_
  simp only [Store.SameState, Store.newStub, Store.advance,
    Store.putStub, Table.put_same]
  exact ⟨rfl, .nil⟩

/-- A stub that a scenario asks for in alike scenes becomes its own in both. -/
theorem makeStub
    (matched : left.Matches likeness shared own right)
    (notOfGroup : left.context.groupLevel = false)
    (name : String) :
    (left.makeStub name).1 = .ok (.object (.stub left.store.next)) ∧
      (right.makeStub name).1 = .ok (.object (.stub right.store.next)) ∧
      (left.makeStub name).2.Matches likeness shared
        (own.add .stub left.store.next right.store.next)
          (right.makeStub name).2 := by
  have alsoNotOfGroup : right.context.groupLevel = false :=
    matched.groupLevel ▸ notOfGroup
  have made := matched.newStub name
  simp only [Scene.makeStub, notOfGroup, alsoNotOfGroup,
    Bool.false_eq_true, ↓reduceIte]
  refine ⟨rfl, rfl, ?_⟩
  exact {
    platform := made.platform
    groupLevel := made.groupLevel
    known := made.known
    unshared := made.unshared
    objects := made.objects
    states := made.states
    bindings := made.bindings
    stubs := List.rel_append made.stubs (.cons (.inr ⟨rfl, rfl, rfl⟩) .nil) }

end Scene.Matches

end Conformance
