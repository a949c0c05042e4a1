import Conformance.Proofs.Program.Moments
import Conformance.Suite.Scenario

namespace Conformance

/-!
# What every run keeps

A run hands out new identities and never gives one back: the bodies of callables
and the methods of objects stay what they were made with.  Of the context it keeps
the platform, the level and the recorded stubs; a new stub is recorded only below
group level, and under an identity that was not handed out before.
-/

/--
The objects of a store are still there in a later one, with the
parts that cannot change.
-/
structure Store.Grows {Label : Type} (before after : Store Label) : Prop where
  next_le : before.next ≤ after.next
  behaviours : ∀ id, id < before.next → after.behaviours id = before.behaviours id
  methods : ∀ id, id < before.next → after.methods id = before.methods id

/-- A scene comes from an earlier one by running code in one and the same context. -/
structure Scene.Grows
    {World Label : Type}
    (before after : Scene World Label) :
    Prop where
  store : before.store.Grows after.store
  platform : after.context.platform = before.context.platform
  groupLevel : after.context.groupLevel = before.context.groupLevel
  stubs : ∃ made,
    after.context.stubs = before.context.stubs ++ made ∧
      (∀ id ∈ made, before.store.next ≤ id ∧ id < after.store.next) ∧
      (before.context.groupLevel = true → made = [])

namespace Store.Grows

variable {Label : Type} {first second third : Store Label}

theorem refl (store : Store Label) : store.Grows store where
  next_le := Nat.le_refl store.next
  behaviours _ _ := rfl
  methods _ _ := rfl

theorem trans
    (earlier : first.Grows second)
    (later : second.Grows third) :
    first.Grows third where
  next_le := Nat.le_trans earlier.next_le later.next_le
  behaviours id old := by
    have stillOld : id < second.next := Nat.lt_of_lt_of_le old earlier.next_le
    rw [later.behaviours id stillOld, earlier.behaviours id old]
  methods id old := by
    have stillOld : id < second.next := Nat.lt_of_lt_of_le old earlier.next_le
    rw [later.methods id stillOld, earlier.methods id old]

end Store.Grows

namespace Scene.Grows

variable {World Label : Type} {first second third : Scene World Label}

theorem refl (scene : Scene World Label) : scene.Grows scene where
  store := .refl scene.store
  platform := rfl
  groupLevel := rfl
  stubs := ⟨[], by simp⟩

theorem trans
    (earlier : first.Grows second)
    (later : second.Grows third) :
    first.Grows third where
  store := earlier.store.trans later.store
  platform := later.platform.trans earlier.platform
  groupLevel := later.groupLevel.trans earlier.groupLevel
  stubs := by
    obtain ⟨made, madeShape, madeFresh, madeBelow⟩ := earlier.stubs
    obtain ⟨more, moreShape, moreFresh, moreBelow⟩ := later.stubs
    have madeFirst := earlier.store.next_le
    have madeSecond := later.store.next_le
    refine ⟨made ++ more, ?_, ?_, ?_⟩
    · rw [moreShape, madeShape, List.append_assoc]
    · intro id member
      rcases List.mem_append.mp member with inMade | inMore
      · have := madeFresh id inMade
        omega
      · have := moreFresh id inMore
        omega
    · intro group
      rw [madeBelow group, moreBelow (earlier.groupLevel.trans group)]
      rfl

theorem of_store
    {scene : Scene World Label}
    {store : Store Label}
    (grows : scene.store.Grows store) :
    scene.Grows (scene.withStore store) where
  store := grows
  platform := rfl
  groupLevel := rfl
  stubs := ⟨[], by simp [Scene.withStore]⟩

end Scene.Grows

namespace Operation.Change

variable {Label : Type} {operation : Operation Label} {before after : Store Label}

/-- No change by an operation takes an object away. -/
theorem grows (change : operation.Change before after) : before.Grows after := by
  have table {Entry : Type} (entries : Table Entry) (entry : Entry) (id : Nat)
      (old : id < before.next) : (entries.put before.next entry) id = entries id :=
    Table.put_other entries entry (Nat.ne_of_lt old)
  cases change with
  | newProc =>
      exact ⟨Nat.le_succ _, fun id old => table _ _ id old, fun _ _ => rfl⟩
  | newObject =>
      exact ⟨Nat.le_succ _, fun _ _ => rfl, fun id old => table _ _ id old⟩
  | newText | newGroup | newHash | newStub =>
      exact ⟨Nat.le_succ _, fun _ _ => rfl, fun _ _ => rfl⟩
  | insert | setDefault | dropDefaultProc | setDefaultProc | freeze | count
  | shouldReceive | andReturn | exactly =>
      exact ⟨Nat.le_refl _, fun _ _ => rfl, fun _ _ => rfl⟩

end Operation.Change

namespace Operation.Finishes

variable {World Label : Type} {operation : Operation Label}
variable {handed finish : Scene World Label}

theorem grows (finishes : operation.Finishes handed finish) :
    handed.Grows finish := by
  obtain ⟨store, changes, rfl⟩ := finishes
  apply Scene.Grows.of_store
  induction changes with
  | refl => exact .refl _
  | tail _ change inductionHypothesis => exact inductionHypothesis.trans change.grows

end Operation.Finishes

namespace Scene

variable {World Label : Type}

theorem makeStub_of_groupLevel
    {scene : Scene World Label}
    (group : scene.context.groupLevel = true)
    (name : String) :
    scene.makeStub name = (.error (.groupStub name), scene) := by
  simp [makeStub, group]

/-- Asking for a stub takes no object away, and records one below group level only. -/
theorem grows_makeStub
    (scene : Scene World Label)
    (name : String) :
    scene.Grows (scene.makeStub name).2 := by
  cases group : scene.context.groupLevel with
  | true =>
      rw [makeStub_of_groupLevel group]
      exact .refl scene
  | false =>
      simp only [makeStub, group, Bool.false_eq_true, ↓reduceIte]
      exact {
        store := ⟨Nat.le_succ _, fun _ _ => rfl, fun _ _ => rfl⟩
        platform := rfl
        groupLevel := rfl
        stubs :=
          ⟨[scene.store.next],
            rfl, by simp [Store.newStub, Store.advance, Store.putStub],
          by simp [group]⟩ }

end Scene

namespace Program

variable {World Label Error Result : Type}

/-- Every step of every run keeps what is kept. -/
theorem respects_grows (program : Program World Label) :
    program.Respects Scene.Grows fun _ => True where
  refl := .refl
  trans _ _ _ := .trans
  write scene _ := ⟨.refl scene.store, rfl, rfl, [], by simp⟩
  assign scene _ _ :=
    ⟨.refl scene.store, rfl, rfl, [], by simp [Scene.assign, Context.assign]⟩
  makeStub := Scene.grows_makeStub
  own depth operation start ending finish performed _ := by
    have finishes := operation.perform_finishes (program.invoke depth) start
    rw [performed] at finishes
    exact finishes.grows

end Program

namespace Machine

variable {World Label Error Result : Type}

theorem run_grows
    (machine : Machine World Label)
    (code : Code World Label Error Result)
    (scene : Scene World Label) :
    scene.Grows (machine.run code scene).2 :=
  (machine.program.respects_grows.moments_along machine.depth code scene
    fun _ _ => trivial).through

end Machine

end Conformance
