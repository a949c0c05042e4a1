import Conformance.Proofs.Hash.Entries
import Conformance.Proofs.Object.Nesting

namespace Conformance

/-!
# How hashes get inside themselves

Only insertions put values into hashes, and an insertion puts in what it is given.  So
a hash gets inside itself by an insertion of something that the hash is reached from,
and in no other way.  A program that stores only what was made before never has an
entry that refers to a hash which is still to be made.
-/

namespace Store

variable {Label : Type}

/-- A value is no hash that is still to be made. -/
def Made (store : Store Label) (value : Value) : Prop :=
  ∀ hash, value = .hash hash → hash.id < store.next

/--
The hashes that were made have only such hashes in them, and no
others have any entries.
-/
structure Closed (store : Store Label) : Prop where
  inside : ∀ {inner outer}, store.Inside inner outer → store.Made inner
  unmade : ∀ {hash : HashRef}, store.next ≤ hash.id → store.entriesOf hash = []

/-- No hash is inside itself. -/
def Straight (store : Store Label) : Prop :=
  ∀ hash, ¬ store.InsideItself hash

/-- The store after a value was inserted into a hash under a key. -/
def inserted
    (store : Store Label)
    (hash : HashRef)
    (key value : Value) :
    Store Label :=
  store.putHash hash ((store.hash hash).insert key value)

/--
What an insertion puts into its hash: the value, and the key unless
an equal one is there.
-/
inductive PutIn
    (store : Store Label)
    (hash : HashRef)
    (key value : Value) :
    Value → Prop where
  | value : PutIn store hash key value value
  | key (isNew : (store.hash hash).contains key = false) :
      PutIn store hash key value key

end Store

namespace Moment

variable {World Label : Type}

/--
What an insertion is given was made before it, and so was the
hash that it is aimed at.
-/
def StoresMade : Moment World Label → Prop
  | .ended _ (.insert hash key value) start _ _ =>
      start.store.Made (.hash hash) ∧ start.store.Made key ∧ start.store.Made value
  | _ => True

/-- A successful insertion of something that its hash is reached from. -/
inductive Entangles : Moment World Label → Prop where
  | intro
      {nesting : Nat}
      {hash : HashRef}
      {key value answer inner : Value}
      {before after : Scene World Label}
      (putIn : before.store.PutIn hash key value inner)
      (reached : before.store.Reached (.hash hash) inner) :
      Entangles (.ended nesting (.insert hash key value) before (.returned answer) after)

/-- What a step from a scene does to the entries of the hashes. -/
inductive Enters (scene : Scene World Label) : Moment World Label → Prop where
  | nothing
      {moment : Moment World Label}
      (same : moment.scene.store.entriesOf = scene.store.entriesOf) :
      Enters scene moment
  | insertion
      {nesting : Nat}
      {hash : HashRef}
      {key value answer : Value}
      {start after : Scene World Label}
      (rests : start.store = scene.store)
      (inserted : after.store = scene.store.inserted hash key value) :
      Enters scene (.ended nesting (.insert hash key value) start
        (.returned answer) after)

end Moment

namespace Store

variable {Label : Type} {store other : Store Label} {inner outer : Value}
variable {hash : HashRef}
variable {key value : Value}

theorem made_hash (isMade : hash.id < store.next) : store.Made (.hash hash) := by
  intro other isHash
  cases isHash
  exact isMade

theorem made_of_not_hash (noHash : ∀ hash, value ≠ .hash hash) : store.Made value :=
  fun hash isHash => absurd isHash (noHash hash)

theorem inside_hash_iff :
    store.Inside inner (.hash hash) ↔
      inner ∈ (store.entriesOf hash).map Prod.fst ∨
        inner ∈ (store.entriesOf hash).map Prod.snd := by
  constructor
  · intro inside
    cases inside with
    | key entry => exact .inl (List.mem_map_of_mem entry)
    | value entry => exact .inr (List.mem_map_of_mem entry)
  · rintro (isKey | isValue)
    · obtain ⟨_, entry, rfl⟩ := List.mem_map.mp isKey
      exact .key entry
    · obtain ⟨_, entry, rfl⟩ := List.mem_map.mp isValue
      exact .value entry

theorem Inside.congr
    (same : other.entriesOf = store.entriesOf)
    (inside : store.Inside inner outer) :
    other.Inside inner outer := by
  obtain ⟨hash, rfl⟩ := inside.isHash
  rw [inside_hash_iff, same]
  exact inside_hash_iff.mp inside

theorem entriesOf_inserted :
    (store.inserted hash key value).entriesOf hash =
      ((store.hash hash).insert key value).entries :=
  congrArg HashState.entries (hash_putHash_same store hash _)

theorem entriesOf_inserted_other
    {another : HashRef}
    (different : another ≠ hash) :
    (store.inserted hash key value).entriesOf another = store.entriesOf another :=
  congrArg HashState.entries (hash_putHash_other store _ different)

/--
After an insertion nothing is inside a hash that was not, but
what the insertion put in.
-/
theorem Inside.of_inserted
    (inside : (store.inserted hash key value).Inside inner outer) :
    store.Inside inner outer ∨
      outer = .hash hash ∧ store.PutIn hash key value inner := by
  obtain ⟨another, rfl⟩ := inside.isHash
  rw [inside_hash_iff] at inside
  by_cases same : another = hash
  · subst same
    rw [entriesOf_inserted, HashState.keys_insert] at inside
    rcases inside with isKey | isValue
    · cases present : (store.hash another).contains key with
      | true =>
          rw [if_pos present] at isKey
          exact .inl (inside_hash_iff.mpr (.inl isKey))
      | false =>
          rw [if_neg (by simp [present])] at isKey
          rcases List.mem_append.mp isKey with wasThere | isNew
          · exact .inl (inside_hash_iff.mpr (.inl wasThere))
          · cases List.mem_singleton.mp isNew
            exact .inr ⟨rfl, .key present⟩
    · rcases HashState.mem_values_store isValue with rfl | wasThere
      · exact .inr ⟨rfl, .value⟩
      · exact .inl (inside_hash_iff.mpr (.inr wasThere))
  · rw [entriesOf_inserted_other same] at inside
    exact .inl (inside_hash_iff.mpr inside)

/-- What an insertion puts into its hash is inside it afterwards. -/
theorem PutIn.inside (putIn : store.PutIn hash key value inner) :
    (store.inserted hash key value).Inside inner (.hash hash) := by
  rw [inside_hash_iff, entriesOf_inserted, HashState.keys_insert]
  cases putIn with
  | value => exact .inr (HashState.value_mem_values_store _ _ _)
  | key isNew =>
      rw [if_neg (by simp [isNew])]
      exact .inl (List.mem_append_right _ (List.mem_singleton_self _))

/-- What is inside another hash stays there. -/
theorem Inside.inserted
    (inside : store.Inside inner outer)
    (different : outer ≠ .hash hash) :
    (store.inserted hash key value).Inside inner outer := by
  obtain ⟨another, rfl⟩ := inside.isHash
  have apart : another ≠ hash := fun same => different (congrArg Value.hash same)
  rw [inside_hash_iff, entriesOf_inserted_other apart]
  exact inside_hash_iff.mp inside

/--
After an insertion a value is inside of what it was inside of before, unless the way
there leads over something that was put in.
-/
theorem reached_of_inserted
    {start : Value}
    (reached : (store.inserted hash key value).Reached start outer) :
    store.Reached start outer ∨
      ∃ first,
        store.PutIn hash key value first ∧
          store.Reached start first ∧
          (store.inserted hash key value).Reached start first ∧
          (store.inserted hash key value).Reached (.hash hash) outer := by
  induction reached with
  | refl => exact .inl .refl
  | tail toMiddle inside inductionHypothesis =>
      rcases inductionHypothesis with before | ⟨first, putIn, before, toFirst, after⟩
      · rcases inside.of_inserted with wasInside | ⟨rfl, putIn⟩
        · exact .inl (before.tail wasInside)
        · exact .inr ⟨_, putIn, before, toMiddle, .refl⟩
      · exact .inr ⟨first, putIn, before, toFirst, after.tail inside⟩

/--
No hash gets inside itself unless an insertion puts in what
its hash is reached from.
-/
theorem Straight.inserted
    (straight : store.Straight)
    (apart : ∀ inner, store.PutIn hash key value inner →
      ¬ store.Reached (.hash hash) inner) :
    (store.inserted hash key value).Straight := by
  have notFrom {inner : Value} (putIn : store.PutIn hash key value inner)
      (reached : (store.inserted hash key value).Reached (.hash hash) inner) :
        False := by
    rcases reached_of_inserted reached with
      before | ⟨first, firstPutIn, before, -, -⟩
    · exact apart inner putIn before
    · exact apart first firstPutIn before
  intro looped loop
  obtain ⟨last, toLast, inside⟩ := Relation.TransGen.tail'_iff.mp loop
  rcases inside.of_inserted with wasInside | ⟨isHash, putIn⟩
  · rcases reached_of_inserted toLast with before | ⟨first, putIn, -, toFirst, after⟩
    · exact straight looped (.tail' before wasInside)
    · -- from the hash the way goes on through the loop to what was put in
      exact notFrom putIn ((after.tail inside).trans toFirst)
  · cases isHash
    exact notFrom putIn toLast

/--
An insertion that puts in what its hash is reached from leaves a hash inside itself.
-/
theorem not_straight_inserted
    (straight : store.Straight)
    (putIn : store.PutIn hash key value inner)
    (reached : store.Reached (.hash hash) inner) :
    ¬ (store.inserted hash key value).Straight := by
  -- the way up from the hash never comes back to it, so nothing on it was replaced
  have still : (store.inserted hash key value).Reached (.hash hash) inner := by
    clear putIn
    induction reached with
    | refl => exact .refl
    | @tail middle outer toMiddle inside inductionHypothesis =>
        have apart : outer ≠ .hash hash := by
          rintro rfl
          exact straight hash (.tail' toMiddle inside)
        exact inductionHypothesis.tail (inside.inserted apart)
  exact fun stillStraight => stillStraight hash (.tail' still putIn.inside)

theorem Closed.congr
    (closed : store.Closed)
    (same : other.entriesOf = store.entriesOf)
    (grows : store.next ≤ other.next) :
    other.Closed where
  inside isInside hash isHash :=
    Nat.lt_of_lt_of_le (closed.inside (isInside.congr same.symm) hash isHash) grows
  unmade notMade := by
    rw [same]
    exact closed.unmade (Nat.le_trans grows notMade)

theorem Straight.congr
    (straight : store.Straight)
    (same : other.entriesOf = store.entriesOf) :
    other.Straight :=
  fun hash loop =>
    straight hash (Relation.TransGen.mono
      (fun _ _ inside => inside.congr same.symm) _ _ loop)

theorem Closed.inserted
    (closed : store.Closed)
    (hashMade : store.Made (.hash hash))
    (keyMade : store.Made key)
    (valueMade : store.Made value) :
    (store.inserted hash key value).Closed where
  inside isInside := by
    rcases isInside.of_inserted with wasInside | ⟨-, putIn⟩
    · exact closed.inside wasInside
    · cases putIn with
      | value => exact valueMade
      | key => exact keyMade
  unmade {another} notMade := by
    have different : another ≠ hash := by
      rintro rfl
      exact Nat.lt_irrefl _ (Nat.lt_of_lt_of_le (hashMade another rfl) notMade)
    rw [entriesOf_inserted_other different]
    exact closed.unmade notMade

/-- All that is reached from something that was made was made. -/
theorem Closed.knows
    (closed : store.Closed)
    (made : store.Made value) :
    store.Knows value := by
  intro hash reached
  rcases reached.cases_head with isValue | ⟨_, inside, _⟩
  · exact made hash isValue.symm
  · exact closed.inside inside hash rfl

theorem inside_empty : ¬ (Store.empty : Store Label).Inside inner outer := by
  intro inside
  cases inside with
  | key entry => cases entry
  | value entry => cases entry

theorem closed_empty : (Store.empty : Store Label).Closed where
  inside isInside := absurd isInside inside_empty
  unmade _ := rfl

theorem straight_empty : (Store.empty : Store Label).Straight := by
  intro hash loop
  obtain ⟨_, _, inside⟩ := Relation.TransGen.tail'_iff.mp loop
  exact inside_empty inside

/-- In a closed store every descent ends exactly if no hash is inside itself. -/
theorem Closed.wellFounded_iff (closed : store.Closed) :
    WellFounded store.Inside ↔ store.Straight := by
  constructor
  · intro wellFounded hash loop
    exact not_winds_of_acc (wellFounded.apply (.hash hash)) ⟨hash, .refl, loop⟩
  · intro straight
    have noWinds (value : Value) : ¬ store.Winds value :=
      fun ⟨hash, _, loop⟩ => straight hash loop
    refine ⟨fun value => ?_⟩
    by_cases made : store.Made value
    · have known := closed.knows made
      exact (exists_inspect?_iff_acc known).mp
        ((exists_inspect?_iff_not_winds known).mpr
        (noWinds value))
    · -- only a hash can be still to be made, and then it has no entries
      refine ⟨_, fun inner inside => ?_⟩
      obtain ⟨hash, rfl⟩ := inside.isHash
      have notMade : store.next ≤ hash.id := by
        by_contra isMade
        exact made fun other isHash => by
          cases isHash
          omega
      rw [inside_hash_iff, closed.unmade notMade] at inside
      simp at inside

end Store

/-- An operation that inserts nothing leaves all entries as they are. -/
theorem Operation.Change.entriesOf_kept
    {Label : Type}
    {operation : Operation Label}
    {before after : Store Label}
    (change : operation.Change before after)
    (unmade : ∀ hash : HashRef, before.next ≤ hash.id → before.entriesOf hash = [])
    (noInsertion : ∀ hash key value, operation ≠ .insert hash key value) :
    after.entriesOf = before.entriesOf := by
  funext hash
  cases change with
  | @newHash fallback =>
      by_cases isNew : hash = ⟨before.next⟩
      · subst isNew
        rw [unmade _ (Nat.le_refl _)]
        have entries := congrArg HashState.entries
          (Store.hash_putHash_same before ⟨before.next⟩ (.new fallback))
        refine Eq.trans entries ?_
        cases fallback <;> rfl
      · exact congrArg HashState.entries (Store.hash_putHash_other before _ isNew)
  | newText | newGroup | newProc | newObject | newStub => rfl
  | insert => exact absurd rfl (noInsertion _ _ _)
  | setDefault | dropDefaultProc | setDefaultProc | freeze =>
      exact Store.part_putHash HashState.entries _ _ hash _ rfl
  | count | shouldReceive | andReturn | exactly => rfl

namespace Moment.Follows

variable {World Label : Type} {program : Program World Label}
variable {scene : Scene World Label} {moment : Moment World Label}

/-- A step that ends no insertion leaves all entries as they are. -/
theorem entriesOf_kept
    (follows : moment.Follows program Scene.SameObjects scene)
    (closed : scene.store.Closed)
    (noInsertion : ∀ hash key value, moment.act? ≠ some (.insert hash key value)) :
    moment.scene.store.entriesOf = scene.store.entriesOf := by
  have kept :=
    follows.carries
      (fun store => scene.store.next ≤ store.next ∧
        store.entriesOf = scene.store.entriesOf)
      ⟨Nat.le_refl _, rfl⟩
      fun operation before after acts change held => by
        refine ⟨Nat.le_trans held.1 change.grows.next_le, ?_⟩
        refine (change.entriesOf_kept ?_ ?_).trans held.2
        · intro hash notMade
          rw [held.2]
          exact closed.unmade (Nat.le_trans held.1 notMade)
        · rintro hash key value rfl
          exact noInsertion hash key value acts
  exact kept.2

/-- A step leaves all entries as they are, or it is an insertion that succeeded. -/
theorem enters
    (follows : moment.Follows program Scene.SameObjects scene)
    (closed : scene.store.Closed) :
    moment.Enters scene := by
  have kept := follows.entriesOf_kept closed
  cases follows with
  | passed | askedStub | began => exact .nothing (kept (by simp [act?]))
  | @ended depth operation start reached ending rests performed =>
      cases operation with
      | insert hash key value =>
          rcases HashRef.insert_cases performed with ⟨-, rfl, rfl⟩ | ⟨rfl, rfl⟩
          · exact .nothing (congrArg Store.entriesOf rests)
          · refine .insertion rests ?_
            rw [← rests]
            rfl
      | _ => exact .nothing (kept (by simp [act?]))

theorem closed
    (follows : moment.Follows program Scene.SameObjects scene)
    (storesMade : moment.StoresMade)
    (closedBefore : scene.store.Closed) :
    moment.scene.store.Closed := by
  cases follows.enters closedBefore with
  | nothing same => exact closedBefore.congr same follows.grows.next_le
  | insertion rests inserted =>
      obtain ⟨hashMade, keyMade, valueMade⟩ := storesMade
      rw [rests] at hashMade keyMade valueMade
      rw [Moment.scene, inserted]
      exact closedBefore.inserted hashMade keyMade valueMade

/-- No step but an entangling insertion gets a hash inside itself. -/
theorem straight
    (follows : moment.Follows program Scene.SameObjects scene)
    (closed : scene.store.Closed)
    (apart : ¬ moment.Entangles)
    (straightBefore : scene.store.Straight) :
    moment.scene.store.Straight := by
  cases follows.enters closed with
  | nothing same => exact straightBefore.congr same
  | insertion rests inserted =>
      rw [Moment.scene, inserted]
      apply straightBefore.inserted
      intro inner putIn reached
      rw [← rests] at putIn reached
      exact apart (.intro putIn reached)

/-- An entangling insertion does get a hash inside itself. -/
theorem not_straight
    (follows : moment.Follows program Scene.SameObjects scene)
    (entangles : moment.Entangles)
    (straightBefore : scene.store.Straight) :
    ¬ moment.scene.store.Straight := by
  cases entangles with
  | @intro nesting hash key value answer inner before after putIn reached =>
      cases follows with
      | ended rests performed =>
          rcases HashRef.insert_cases performed with ⟨-, stopped, -⟩ | ⟨-, rfl⟩
          · cases stopped
          · rw [← rests] at straightBefore
            exact Store.not_straight_inserted straightBefore putIn reached

end Moment.Follows

namespace Trail

variable {World Label : Type} {program : Program World Label}
variable {start finish : Scene World Label} {moments : List (Moment World Label)}

theorem closed
    (trail : Trail program Scene.SameObjects start moments finish)
    (storesMade : ∀ moment ∈ moments, moment.StoresMade)
    (closedBefore : start.store.Closed) :
    finish.store.Closed := by
  induction trail with
  | nil rests => exact rests ▸ closedBefore
  | cons follows _ inductionHypothesis =>
      apply inductionHypothesis
      · exact fun moment member => storesMade moment (List.mem_cons_of_mem _ member)
      · exact follows.closed (storesMade _ List.mem_cons_self) closedBefore

/-- On a trail without entangling insertions no hash gets inside itself. -/
theorem straight
    (trail : Trail program Scene.SameObjects start moments finish)
    (storesMade : ∀ moment ∈ moments, moment.StoresMade)
    (apart : ∀ moment ∈ moments, ¬ moment.Entangles)
    (closedBefore : start.store.Closed)
    (straightBefore : start.store.Straight) :
    finish.store.Straight := by
  induction trail with
  | nil rests => exact rests ▸ straightBefore
  | cons follows _ inductionHypothesis =>
      apply inductionHypothesis
      · exact fun moment member => storesMade moment (List.mem_cons_of_mem _ member)
      · exact fun moment member => apart moment (List.mem_cons_of_mem _ member)
      · exact follows.closed (storesMade _ List.mem_cons_self) closedBefore
      · exact follows.straight closedBefore (apart _ List.mem_cons_self) straightBefore

/-- No hash is ever inside itself exactly if no insertion of a trail is entangling. -/
theorem straight_iff
    (trail : Trail program Scene.SameObjects start moments finish)
    (storesMade : ∀ moment ∈ moments, moment.StoresMade)
    (closedBefore : start.store.Closed)
    (straightBefore : start.store.Straight) :
    (∀ earlier, earlier <+: moments →
      (Moment.sceneAfter start earlier).store.Straight) ↔
      ∀ moment ∈ moments, ¬ moment.Entangles := by
  constructor
  · intro always moment member entangles
    obtain ⟨leading, trailing, rfl⟩ := List.mem_iff_append.mp member
    have point : leading ++ [moment] <+: leading ++ moment :: trailing :=
      ⟨trailing, by simp⟩
    have before := always leading (List.prefix_append _ _)
    have after := always (leading ++ [moment]) point
    rw [Moment.sceneAfter_append] at after
    exact (trail.follows_of_prefix .refl point).not_straight entangles before after
  · intro apart earlier point
    apply (trail.upTo .refl point).straight _ _ closedBefore straightBefore
    · exact fun moment member => storesMade moment (point.subset member)
    · exact fun moment member => apart moment (point.subset member)

end Trail

end Conformance
