import Conformance.Object.Store
import Mathlib.Data.List.Infix

namespace Conformance

/-!
# Verifying stubs

A stub is met when every declared method was called as often as it must be.  What is
reported of stubs that are not met is the first declaration that was not, in the
order of the stubs and then of their declarations.
-/

/-- A declared method was called as often as it must be. -/
def Declaration.Met (declaration : Declaration) : Prop :=
  match declaration.expected with
  | .atLeastOnce => 1 ≤ declaration.calls
  | .exactly count => declaration.calls = count

/-- Every declaration of a stub was met. -/
def StubState.AllMet (stub : StubState) : Prop :=
  ∀ declaration ∈ stub.declarations, declaration.Met

/-- What is reported of a declaration that was not met. -/
def StubState.unmet (stub : StubState) (declaration : Declaration) : UnmetCall :=
  ⟨stub.name, declaration.method, declaration.expected.text, declaration.calls⟩

/-- A report is about the first declaration of a stub that was not met. -/
def StubState.FirstUnmet (stub : StubState) (call : UnmetCall) : Prop :=
  ∃ earlier declaration later,
    stub.declarations = earlier ++ declaration :: later ∧
      (∀ before ∈ earlier, before.Met) ∧
      ¬ declaration.Met ∧
      call = stub.unmet declaration

/-- A report is about the first declaration that was not met, over stubs in order. -/
def Store.FirstUnmet
    {Label : Type}
    (store : Store Label)
    (stubs : List Nat)
    (call : UnmetCall) : Prop :=
  ∃ earlier stub later,
    stubs = earlier ++ stub :: later ∧
      (∀ before ∈ earlier, (store.stubs before).AllMet) ∧
      (store.stubs stub).FirstUnmet call

theorem Declaration.satisfiedBy_iff_met {declaration : Declaration} :
    declaration.expected.satisfiedBy declaration.calls = true ↔ declaration.Met := by
  unfold Met
  cases declaration.expected <;> simp [ExpectedCalls.satisfiedBy]

namespace StubState

variable {stub : StubState} {call : UnmetCall}

theorem firstUnmet?_eq_none_iff : stub.firstUnmet? = none ↔ stub.AllMet := by
  simp [firstUnmet?, AllMet, Declaration.satisfiedBy_iff_met]

theorem firstUnmet?_eq_some_iff :
    stub.firstUnmet? = some call ↔ stub.FirstUnmet call := by
  simp only [firstUnmet?, Option.map_eq_some_iff, List.find?_eq_some_iff_append,
    Bool.not_eq_true', Bool.not_not, ← Bool.not_eq_true,
      Declaration.satisfiedBy_iff_met]
  constructor
  · rintro ⟨declaration, ⟨unmet, earlier, later, shape, met⟩, isReport⟩
    exact ⟨earlier, declaration, later, shape, met, unmet, isReport.symm⟩
  · rintro ⟨earlier, declaration, later, shape, met, unmet, isReport⟩
    exact ⟨declaration, ⟨unmet, earlier, later, shape, met⟩, isReport.symm⟩

end StubState

namespace Store

variable {Label : Type} {store : Store Label} {stubs : List Nat} {call : UnmetCall}

theorem findSome?_firstUnmet?_eq_none_iff :
    (stubs.findSome? fun id => (store.stubs id).firstUnmet?) = none ↔
      ∀ stub ∈ stubs, (store.stubs stub).AllMet := by
  simp only [List.findSome?_eq_none_iff, StubState.firstUnmet?_eq_none_iff]

theorem findSome?_firstUnmet?_eq_some_iff :
    (stubs.findSome? fun id => (store.stubs id).firstUnmet?) = some call ↔
      store.FirstUnmet stubs call := by
  rw [List.findSome?_eq_some_iff]
  constructor
  · rintro ⟨earlier, stub, later, shape, unmet, met⟩
    refine ⟨earlier, stub, later, shape, ?_,
      StubState.firstUnmet?_eq_some_iff.mp unmet⟩
    intro before member
    exact StubState.firstUnmet?_eq_none_iff.mp (met before member)
  · rintro ⟨earlier, stub, later, shape, met, unmet⟩
    refine ⟨earlier, stub, later, shape,
      StubState.firstUnmet?_eq_some_iff.mpr unmet, ?_⟩
    intro before member
    exact StubState.firstUnmet?_eq_none_iff.mpr (met before member)

end Store

end Conformance
