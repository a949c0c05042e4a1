import Conformance.Proofs.Hash.Storing
import Conformance.Proofs.Hash.Invariants

namespace Conformance

/-!
# The entries of hashes

The entries of a hash are what the successful insertions into it come to, in the
order in which they ended, whatever else goes on in a course and however deep calls
are nested.  No other operation touches them, and nothing that is not aimed at a
hash changes anything about it.
-/

/--
The key and the value that a moment stored into a hash, if it ended
a successful insertion.
-/
def Moment.inserted?
    {World Label : Type}
    (hash : HashRef) :
    Moment World Label → Option (Value × Value)
  | .ended _ (.insert target key value) _ (.returned _) _ =>
      if target = hash then some (key, value) else none
  | _ => none

/-- The keys and values that moments stored into a hash, in order. -/
def HashRef.insertions
    {World Label : Type}
    (hash : HashRef)
    (moments : List (Moment World Label)) :
    List (Value × Value) :=
  moments.filterMap (Moment.inserted? hash)

/-- What a successful insertion makes of a hash, told by what can be asked of it. -/
structure HashRef.Inserts
    {World Label : Type}
    (hash : HashRef)
    (key value : Value)
    (before after : Scene World Label) : Prop where
  stored : HashState.Stored key value (before.store.hash hash)
    (after.store.hash hash)
  get : ∀ (invoke : Invoke World Label) other,
    other.equal key = true → hash.get invoke other after = (.returned value, after)
  getOthers : ∀ (invoke : Invoke World Label) other held,
    other.equal key = false →
    (before.store.hash hash).find? other = some held →
    hash.get invoke other before = (.returned held, before) ∧
      hash.get invoke other after = (.returned held, after)

/-- The entries of a hash follow the insertions into it along the moments of a course. -/
structure EntriesFollowInsertions
    {World Label : Type}
    (start : Scene World Label)
    (moments : List (Moment World Label))
    (hash : HashRef) : Prop where
  distinct : ∀ {earlier},
    earlier <+: moments →
    HashState.KeysDistinct ((Moment.sceneAfter start earlier).store.entriesOf hash)
  inserts : ∀ {nesting key value before answer after},
    .ended nesting (.insert hash key value) before
      (.returned answer) after ∈ moments →
    hash.Inserts key value before after
  refused : ∀ {nesting key value before ending after},
    .ended nesting (.insert hash key value) before ending after ∈ moments →
    (∀ answer, ending ≠ .returned answer) →
    (before.store.hash hash).frozen = true ∧
      ending = .stopped (.frozen "Hash") ∧ after = before
  born : ∀ {nesting fallback before after},
    .ended nesting (.newHash fallback) before
      (.returned (.hash hash)) after ∈ moments →
    hash.id < after.store.next ∧ after.store.entriesOf hash = []
  replayed : ∀ {earlier between},
    earlier ++ between <+: moments →
    hash.id < (Moment.sceneAfter start earlier).store.next →
    (Moment.sceneAfter start (earlier ++ between)).store.entriesOf hash =
      HashState.storeAll ((Moment.sceneAfter start earlier).store.entriesOf hash)
        (hash.insertions between)
  lastWins : ∀ {earlier between},
    earlier ++ between <+: moments →
    hash.id < (Moment.sceneAfter start earlier).store.next →
    ∀ key,
      ((Moment.sceneAfter start (earlier ++ between)).store.hash hash).find? key =
        (HashState.lastStored? (hash.insertions between) key).or
          (((Moment.sceneAfter start earlier).store.hash hash).find? key)
  kept : ∀ {earlier between},
    earlier ++ between <+: moments →
    hash.id < (Moment.sceneAfter start earlier).store.next →
    ((Moment.sceneAfter start earlier).store.entriesOf hash).map Prod.fst <+:
      ((Moment.sceneAfter start (earlier ++ between)).store.entriesOf hash).map Prod.fst
  untouched : ∀ {earlier moment},
    earlier ++ [moment] <+: moments →
    hash.id < (Moment.sceneAfter start earlier).store.next →
    moment.target? ≠ some hash →
    moment.scene.store.hash hash = (Moment.sceneAfter start earlier).store.hash hash

theorem HashState.keysDistinct_invariant :
    HashState.Invariant fun state => HashState.KeysDistinct state.entries where
  new fallback := by cases fallback <;> exact .nil
  insert distinct key value := HashState.keysDistinct_store distinct key value
  withDefault distinct _ := distinct
  withDefaultProc distinct _ := distinct
  withoutDefaultProc distinct := distinct
  freeze distinct := distinct

namespace Operation.Change

variable {Label : Type} {operation : Operation Label} {before after : Store Label}
variable {hash : HashRef}

/-- A change leaves the entries of every hash as they are that it does not insert into. -/
theorem entriesOf_eq
    (change : operation.Change before after)
    (made : hash.id < before.next)
    (noInsertion : ∀ key value, operation ≠ .insert hash key value) :
    after.entriesOf hash = before.entriesOf hash := by
  cases change with
  | newHash => exact congrArg HashState.entries (Store.hash_newHash made _)
  | newText | newGroup | newProc | newObject | newStub => rfl
  | @insert target key value _ unfrozen =>
      have different : hash ≠ target := by
        rintro rfl
        exact noInsertion key value rfl
      exact congrArg HashState.entries (Store.hash_putHash_other _ _ different)
  | setDefault | dropDefaultProc | setDefaultProc | freeze =>
      exact Store.part_putHash HashState.entries _ _ hash _ rfl
  | count | shouldReceive | andReturn | exactly => rfl

end Operation.Change

namespace HashRef

variable {World Label : Type}

/-- A key that is found answers its value and runs nothing. -/
theorem get_of_found
    {hash : HashRef}
    {key value : Value}
    {scene : Scene World Label}
    (found : (scene.store.hash hash).find? key = some value)
    (invoke : Invoke World Label) :
    hash.get invoke key scene = (.returned value, scene) := by
  simp only [get, found]

theorem perform_insert
    (invoke : Invoke World Label)
    (hash : HashRef)
    (key value : Value)
    (scene : Scene World Label) :
    (Operation.insert hash key value).perform invoke scene =
      if (scene.store.hash hash).frozen then (.stopped (.frozen "Hash"), scene)
      else (.returned .nil, hash.update (fun state => state.insert key value) scene) := by
  rw [Operation.perform, Act.bind_apply, insert_apply]
  cases (scene.store.hash hash).frozen <;> rfl

/-- An insertion is refused and changes nothing, or stores its value. -/
theorem insert_cases
    {invoke : Invoke World Label}
    {hash : HashRef}
    {key value : Value}
    {before after : Scene World Label}
    {ending : Ending Raised Value}
    (performed :
      (Operation.insert hash key value).perform invoke before = (ending, after)) :
    ((before.store.hash hash).frozen = true ∧ ending = .stopped (.frozen "Hash") ∧
        after = before) ∨
      (ending = .returned .nil ∧
        after = hash.update (fun state => state.insert key value) before) := by
  rw [perform_insert] at performed
  split at performed
  · next frozen =>
      cases performed
      exact .inl ⟨frozen, rfl, rfl⟩
  · cases performed
    exact .inr ⟨rfl, rfl⟩

theorem inserts_update
    (hash : HashRef)
    (key value : Value)
    (scene : Scene World Label) :
    hash.Inserts key value scene
      (hash.update (fun state => state.insert key value) scene) := by
  have stored := (scene.store.hash hash).stored_insert key value
  rw [← hash.store_hash_update (fun state => state.insert key value) scene] at stored
  exact {
    stored := stored
    get := fun invoke other same => get_of_found (stored.found other same) invoke
    getOthers := by
      intro invoke other held different found
      have still := (stored.others other different).1.trans found
      exact ⟨get_of_found found invoke, get_of_found still invoke⟩ }

end HashRef

namespace Moment.Follows

variable {World Label : Type} {program : Program World Label}
variable {scene : Scene World Label} {moment : Moment World Label} {hash : HashRef}

/--
A step stores into a hash what its moment inserted, and does
nothing else to the entries.
-/
theorem entriesOf_eq
    (follows : moment.Follows program Scene.SameObjects scene)
    (made : hash.id < scene.store.next) :
    moment.scene.store.entriesOf hash =
      HashState.storeAll (scene.store.entriesOf hash)
        (moment.inserted? hash).toList := by
  have otherwise
      (noInsertion : ∀ key value, moment.act? ≠ some (.insert hash key value)) :
      moment.scene.store.entriesOf hash = scene.store.entriesOf hash := by
    apply follows.keeps (fun store => store.entriesOf hash) made
    intro operation before after acts change stillMade
    apply change.entriesOf_eq stillMade
    rintro key value rfl
    exact noInsertion key value acts
  cases follows with
  | passed | askedStub | began => exact otherwise (by simp [act?])
  | @ended depth operation start reached ending rests performed =>
      cases operation with
      | insert target key value =>
          rcases HashRef.insert_cases performed with ⟨-, rfl, rfl⟩ | ⟨rfl, rfl⟩
          · exact congrArg (fun store : Store Label => store.entriesOf hash) rests
          · by_cases aimed : target = hash
            · subst aimed
              rw [← rests]
              simp only [inserted?, ↓reduceIte]
              have stored :=
                target.store_hash_update (fun state => state.insert key value) start
              exact congrArg HashState.entries stored
            · simp only [inserted?, aimed, ↓reduceIte]
              exact otherwise (by simp [act?, aimed])
      | _ => exact otherwise (by simp [act?])

end Moment.Follows

/--
The entries of a hash at the end of a trail are those at its
start with its insertions.
-/
theorem Trail.entriesOf_eq
    {World Label : Type}
    {program : Program World Label}
    {start finish : Scene World Label}
    {moments : List (Moment World Label)}
    {hash : HashRef}
    (trail : Trail program Scene.SameObjects start moments finish)
    (made : hash.id < start.store.next) :
    finish.store.entriesOf hash =
      HashState.storeAll (start.store.entriesOf hash) (hash.insertions moments) := by
  apply trail.replays (fun store => store.entriesOf hash) _ _ made
  intro moment _ scene follows stillMade
  exact follows.entriesOf_eq stillMade

namespace Program

variable {World Label : Type}

/-- In every course the entries of every hash follow the insertions into it. -/
theorem entriesFollowInsertions
    (program : Program World Label)
    (depth : Nat)
    (tasks : List (Task World Label))
    (context : Context)
    (world : World)
    (hash : HashRef) :
    EntriesFollowInsertions (.fresh context world)
      (program.course depth tasks (.fresh context world)) hash := by
  obtain ⟨finish, trail⟩ := program.course_trail depth tasks (.fresh context world)
  exact {
    distinct :=
      fun point => trail.everyHash HashState.keysDistinct_invariant point hash
    inserts := by
      intro nesting key value before answer after member
      have performed := trail.performed_of_mem .refl member
      rcases HashRef.insert_cases performed with ⟨-, stopped, -⟩ | ⟨-, rfl⟩
      · cases stopped
      · exact hash.inserts_update key value before
    refused := by
      intro nesting key value before ending after member failed
      have performed := trail.performed_of_mem .refl member
      rcases HashRef.insert_cases performed with refused | ⟨returned, -⟩
      · exact refused
      · exact absurd returned (failed _)
    born := by
      intro nesting fallback before after member
      have performed := trail.performed_of_mem .refl member
      obtain ⟨made, isNew⟩ := HashRef.made_of_newHash performed
      refine ⟨made, (congrArg HashState.entries isNew).trans ?_⟩
      cases fallback <;> rfl
    replayed := fun points made => (trail.stretch .refl points).entriesOf_eq made
    lastWins := by
      intro earlier between points made key
      have replayed := (trail.stretch .refl points).entriesOf_eq made
      have found := HashState.lookup?_storeAll
        ((Moment.sceneAfter (.fresh context world) earlier).store.entriesOf hash)
        (hash.insertions between) key
      rw [← replayed] at found
      exact found
    kept := by
      intro earlier between points made
      rw [(trail.stretch .refl points).entriesOf_eq made]
      exact HashState.keys_prefix_storeAll _ _
    untouched := fun point made untargeted =>
      (trail.follows_of_prefix .refl point).hash_eq made untargeted }

/-- Of three insertions the last one is refused, because the hash is frozen by then. -/
example :
    let program : Program Unit Unit := ⟨fun _ _ => pure .nil⟩
    let code : Code Unit Unit Fault Unit := do
      let _ ← Code.perform (.newHash .nothing)
      let _ ← Code.perform (.insert ⟨0⟩ (.integer 1) (.bool true))
      let _ ← Code.perform (.insert ⟨0⟩ (.integer 1) .nil)
      let _ ← Code.perform (.freeze ⟨0⟩)
      let _ ← Code.perform (.insert ⟨0⟩ (.integer 2) .nil)
      pure ()
    let context : Context := .new ⟨"x86_64-linux"⟩
    HashRef.insertions ⟨0⟩ (program.course 0 [⟨context, code⟩] (.fresh context ())) =
      [(.integer 1, .bool true), (.integer 1, .nil)] := by
  decide

end Program

end Conformance
