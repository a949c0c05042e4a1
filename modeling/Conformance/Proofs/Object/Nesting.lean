import Conformance.Object.Store
import Mathlib.Data.Finset.Card
import Mathlib.Data.Finset.Range
import Mathlib.Logic.Relation

namespace Conformance

/-!
# Hashes inside hashes

The text of a hash is made of the texts of its keys and values.  So a value has a text
exactly if no hash that is reached from it is inside itself: on the way down from such
a hash no bound is ever enough, while on any other way no hash comes twice, and the
number of hashes that are reached is bound enough.
-/

/-- A value is a key or a value of an entry of the hash that another value refers to. -/
inductive Store.Inside
    {Label : Type}
    (store : Store Label) :
    Value → Value → Prop where
  | key
      {hash : HashRef}
      {key value : Value}
      (entry : (key, value) ∈ store.entriesOf hash) :
      Inside store key (.hash hash)
  | value
      {hash : HashRef}
      {key value : Value}
      (entry : (key, value) ∈ store.entriesOf hash) :
      Inside store value (.hash hash)

namespace Store

variable {Label : Type}

/-- A value is another one, or somewhere inside it. -/
abbrev Reached (store : Store Label) : Value → Value → Prop :=
  Relation.ReflTransGen store.Inside

/-- A hash is somewhere inside itself. -/
def InsideItself (store : Store Label) (hash : HashRef) : Prop :=
  Relation.TransGen store.Inside (.hash hash) (.hash hash)

/-- A hash that is inside itself is reached from a value. -/
def Winds (store : Store Label) (value : Value) : Prop :=
  ∃ hash, store.Reached (.hash hash) value ∧ store.InsideItself hash

/-- A value has a text with hashes nested so deep. -/
def ShowsWithin (store : Store Label) (depth : Nat) (value : Value) : Prop :=
  ∃ text, value.inspectWithin store.entriesOf depth = some text

/-- All hashes that are reached from a value were made. -/
def Knows (store : Store Label) (value : Value) : Prop :=
  ∀ hash, store.Reached (.hash hash) value → hash.id < store.next

variable {store : Store Label} {value inner outer : Value} {hash : HashRef}

theorem Inside.isHash (inside : store.Inside inner outer) :
    ∃ hash, outer = .hash hash := by
  cases inside with
  | key => exact ⟨_, rfl⟩
  | value => exact ⟨_, rfl⟩

/-- What a value that is inside another one reaches is reached from the other one. -/
theorem Winds.outwards
    (inside : store.Inside inner outer)
    (winds : store.Winds inner) :
    store.Winds outer := by
  obtain ⟨hash, reached, loop⟩ := winds
  exact ⟨hash, reached.tail inside, loop⟩

/-- There is always a way on from a value that a hash inside itself is reached from. -/
theorem Winds.inwards (winds : store.Winds value) :
    ∃ inner, store.Inside inner value ∧ store.Winds inner := by
  obtain ⟨hash, reached, loop⟩ := winds
  cases reached with
  | refl =>
      obtain ⟨inner, below, inside⟩ := Relation.TransGen.tail'_iff.mp loop
      exact ⟨inner, inside, hash, below, loop⟩
  | tail below inside => exact ⟨_, inside, hash, below, loop⟩

/-- The descent from a value ends only if no hash inside itself is reached. -/
theorem not_winds_of_acc (ends : Acc store.Inside value) : ¬ store.Winds value := by
  induction ends with
  | intro value _ inductionHypothesis =>
      intro winds
      obtain ⟨inner, inside, stillWinds⟩ := winds.inwards
      exact inductionHypothesis inner inside stillWinds

end Store

namespace Value

variable {first second : Value → Option String} {entries : List (Value × Value)}

/-- Entries have texts exactly if all their keys and values have. -/
theorem exists_inspectEntries_iff :
    (∃ texts, inspectEntries first entries = some texts) ↔
      ∀ entry ∈ entries,
        (∃ text, first entry.1 = some text) ∧ ∃ text, first entry.2 = some text := by
  induction entries with
  | nil => simp [inspectEntries]
  | cons entry rest inductionHypothesis =>
      obtain ⟨key, value⟩ := entry
      rw [List.forall_mem_cons, ← inductionHypothesis]
      constructor
      · rintro ⟨texts, shown⟩
        simp only [inspectEntries] at shown
        split at shown
        · next keyText valueText restTexts keyShown valueShown restShown =>
            exact ⟨⟨⟨keyText, keyShown⟩, valueText, valueShown⟩,
              restTexts, restShown⟩
        · cases shown
      · rintro ⟨⟨⟨keyText, keyShown⟩, valueText, valueShown⟩, restTexts, restShown⟩
        simp only [inspectEntries, keyShown, valueShown, restShown]
        exact ⟨_, rfl⟩

/-- Entries have the same texts if their keys and values have. -/
theorem inspectEntries_mono
    {texts : List String}
    (agree : ∀ value text, first value = some text → second value = some text)
    (shown : inspectEntries first entries = some texts) :
    inspectEntries second entries = some texts := by
  induction entries generalizing texts with
  | nil => exact shown
  | cons entry rest inductionHypothesis =>
      obtain ⟨key, value⟩ := entry
      simp only [inspectEntries] at shown
      split at shown
      · next keyText valueText restTexts keyShown valueShown restShown =>
          cases shown
          simp only [inspectEntries, agree _ _ keyShown, agree _ _ valueShown,
            inductionHypothesis restShown]
      · cases shown

/-- With a larger bound a value keeps its text. -/
theorem inspectWithin_mono
    {entriesOf : HashRef → List (Value × Value)}
    {depth larger : Nat}
    {value : Value}
    {text : String}
    (deeper : depth ≤ larger)
    (shown : value.inspectWithin entriesOf depth = some text) :
    value.inspectWithin entriesOf larger = some text := by
  induction depth generalizing larger value text with
  | zero =>
      cases value with
      | hash reference => cases shown
      | _ => cases larger <;> exact shown
  | succ depth inductionHypothesis =>
      obtain ⟨larger, rfl⟩ : ∃ fewer, larger = fewer + 1 := ⟨larger - 1, by omega⟩
      cases value with
      | hash reference =>
          obtain ⟨texts, entriesShown, rfl⟩ := Option.map_eq_some_iff.mp shown
          have stillShown :=
            inspectEntries_mono
              (fun _ _ => inductionHypothesis (Nat.le_of_succ_le_succ deeper))
              entriesShown
          exact Option.map_eq_some_iff.mpr ⟨texts, stillShown, rfl⟩
      | _ => exact shown

end Value

namespace Store

variable {Label : Type} {store : Store Label} {depth : Nat} {value : Value}
variable {hash : HashRef}

theorem showsWithin_of_not_hash (noHash : ∀ hash, value ≠ .hash hash) :
    store.ShowsWithin depth value := by
  cases value with
  | hash reference => exact absurd rfl (noHash reference)
  | _ => cases depth <;> exact ⟨_, rfl⟩

theorem not_showsWithin_zero : ¬ store.ShowsWithin 0 (.hash hash) := by
  rintro ⟨text, shown⟩
  cases shown

/-- A hash has a text exactly if everything inside it has one with a smaller bound. -/
theorem showsWithin_succ_iff :
    store.ShowsWithin (depth + 1) (.hash hash) ↔
      ∀ inner, store.Inside inner (.hash hash) → store.ShowsWithin depth inner := by
  have entriesShown :
      store.ShowsWithin (depth + 1) (.hash hash) ↔
        ∃ texts,
          Value.inspectEntries (Value.inspectWithin store.entriesOf depth)
            (store.entriesOf hash) = some texts := by
    simp only [ShowsWithin, Value.inspectWithin, Option.map_eq_some_iff]
    exact
      ⟨fun ⟨_, texts, shown, _⟩ => ⟨texts, shown⟩,
        fun ⟨texts, shown⟩ => ⟨_, texts, shown, rfl⟩⟩
  rw [entriesShown, Value.exists_inspectEntries_iff]
  constructor
  · intro allShown inner inside
    cases inside with
    | key entry => exact (allShown _ entry).1
    | value entry => exact (allShown _ entry).2
  · intro allShown entry member
    exact ⟨allShown entry.1 (.key member), allShown entry.2 (.value member)⟩

/-- From a value that has a text with any bound at all the descent ends. -/
theorem ShowsWithin.ends (shows : store.ShowsWithin depth value) :
    Acc store.Inside value := by
  induction depth generalizing value with
  | zero =>
      refine ⟨_, fun inner inside => ?_⟩
      obtain ⟨hash, rfl⟩ := inside.isHash
      exact absurd shows not_showsWithin_zero
  | succ depth inductionHypothesis =>
      refine ⟨_, fun inner inside => ?_⟩
      obtain ⟨hash, rfl⟩ := inside.isHash
      exact inductionHypothesis (showsWithin_succ_iff.mp shows inner inside)

/--
A value that no hash inside itself is reached from has a text, with the number of
hashes that are reached for a bound: no hash comes twice on a way down.
-/
theorem showsWithin_of_not_winds
    {hashes : Finset HashRef}
    (straight : ¬ store.Winds value)
    (among : ∀ hash, store.Reached (.hash hash) value → hash ∈ hashes)
    (enough : hashes.card ≤ depth) :
    store.ShowsWithin depth value := by
  induction depth generalizing value hashes with
  | zero =>
      apply showsWithin_of_not_hash
      rintro hash rfl
      have none : hashes = ∅ := Finset.card_eq_zero.mp (Nat.le_zero.mp enough)
      have member := among hash .refl
      simp [none] at member
  | succ depth inductionHypothesis =>
      by_cases isHash : ∃ hash, value = .hash hash
      · obtain ⟨hash, rfl⟩ := isHash
        apply showsWithin_succ_iff.mpr
        intro inner inside
        have member : hash ∈ hashes := among hash .refl
        have others :
            ∀ other, store.Reached (.hash other) inner →
              other ∈ hashes.erase hash := by
          intro other reached
          refine Finset.mem_erase.mpr ⟨?_, among other (reached.tail inside)⟩
          rintro rfl
          exact straight ⟨other, .refl, .tail' reached inside⟩
        have fewer : (hashes.erase hash).card ≤ depth := by
          rw [Finset.card_erase_of_mem member]
          omega
        exact inductionHypothesis
          (fun winds => straight (winds.outwards inside)) others fewer
      · exact showsWithin_of_not_hash (not_exists.mp isHash)

/-- The hashes that were made, as far as identities tell. -/
def madeHashes (store : Store Label) : Finset HashRef :=
  (Finset.range store.next).image HashRef.mk

theorem card_madeHashes_le : store.madeHashes.card ≤ store.next := by
  have fewer : store.madeHashes.card ≤ (Finset.range store.next).card :=
    Finset.card_image_le
  rw [Finset.card_range] at fewer
  exact fewer

theorem mem_madeHashes (made : hash.id < store.next) : hash ∈ store.madeHashes :=
  Finset.mem_image.mpr ⟨hash.id, Finset.mem_range.mpr made, rfl⟩

/-- A value has a text exactly if no hash inside itself is reached from it. -/
theorem exists_inspect?_iff_not_winds (known : store.Knows value) :
    (∃ text, store.inspect? value = some text) ↔ ¬ store.Winds value := by
  constructor
  · rintro ⟨text, shown⟩
    exact not_winds_of_acc (ShowsWithin.ends ⟨text, shown⟩)
  · intro straight
    apply showsWithin_of_not_winds straight _ card_madeHashes_le
    exact fun hash reached => mem_madeHashes (known hash reached)

/-- A value has a text exactly if the descent from it ends. -/
theorem exists_inspect?_iff_acc (known : store.Knows value) :
    (∃ text, store.inspect? value = some text) ↔ Acc store.Inside value :=
  ⟨ShowsWithin.ends, fun ends =>
    (exists_inspect?_iff_not_winds known).mpr (not_winds_of_acc ends)⟩

/-- Where a hash inside itself is reached, no bound is enough. -/
theorem inspectWithin_of_winds (winds : store.Winds value) (depth : Nat) :
    value.inspectWithin store.entriesOf depth = none := by
  apply Option.eq_none_iff_forall_ne_some.mpr
  intro text shown
  exact not_winds_of_acc (ShowsWithin.ends ⟨text, shown⟩) winds

/-- A bound beyond the number of identities makes no difference. -/
theorem inspectWithin_eq_inspect?
    (known : store.Knows value)
    (enough : store.next ≤ depth) :
    value.inspectWithin store.entriesOf depth = store.inspect? value := by
  by_cases winds : store.Winds value
  · rw [inspect?, inspectWithin_of_winds winds, inspectWithin_of_winds winds]
  · obtain ⟨text, shown⟩ := (exists_inspect?_iff_not_winds known).mpr winds
    rw [shown]
    exact Value.inspectWithin_mono enough shown

/--
The bound does not show: a hash is shown by the texts of its
entries, whatever is in them.
-/
theorem inspect?_hash (known : store.Knows (.hash hash)) :
    store.inspect? (.hash hash) =
      (Value.inspectEntries store.inspect? (store.entriesOf hash)).map
        fun texts => "\x7b" ++ ", ".intercalate texts ++ "\x7d" := by
  rw [← inspectWithin_eq_inspect? known (Nat.le_succ store.next)]
  rfl

end Store

end Conformance
