import Conformance.Object.Hash
import Mathlib.Data.List.Infix

namespace Conformance

/-!
# Storing into a hash

Equality of values is an equivalence: values are equal when what is left of them
without the identities of texts and records is the same.  Storing under a key
therefore answers every equal key from then on and no other key, and it keeps the
keys that are there, in their order.  Of many values stored under equal keys the
last one is found.
-/

namespace Value

/-- What equality looks at: the value without the identities of texts and records. -/
def content : Value → Value
  | .text reference => .text ⟨0, reference.text⟩
  | .group reference => .group ⟨0, reference.record⟩
  | other => other

theorem equal_iff {left right : Value} :
    left.equal right = true ↔ left.content = right.content := by
  cases left <;> cases right <;> simp [equal, same_iff, content]

theorem equal_comm (left right : Value) : left.equal right = right.equal left := by
  rw [Bool.eq_iff_iff, equal_iff, equal_iff]
  exact eq_comm

/-- Equal values are equal to the same values. -/
theorem equal_congr
    {left right : Value}
    (alike : left.equal right = true)
    (other : Value) :
    left.equal other = right.equal other := by
  rw [Bool.eq_iff_iff, equal_iff, equal_iff, equal_iff.mp alike]

end Value

namespace HashState

/-- The value that entries hold under a key. -/
def lookup? (entries : List (Value × Value)) (key : Value) : Option Value :=
  (entries.find? fun entry => entry.1.equal key).map Prod.snd

/-- No two entries have equal keys. -/
def KeysDistinct (entries : List (Value × Value)) : Prop :=
  entries.Pairwise fun earlier later => earlier.1.equal later.1 = false

/-- Stores pairs one after the other. -/
def storeAll
    (entries pairs : List (Value × Value)) :
    List (Value × Value) :=
  pairs.foldl (fun stored pair => store pair.1 pair.2 stored) entries

/-- The last value among pairs whose key equals the given one. -/
def lastStored? (pairs : List (Value × Value)) (key : Value) : Option Value :=
  lookup? pairs.reverse key

/-- What storing a value under a key does to a hash, told by what can be asked of it. -/
structure Stored (key value : Value) (before after : HashState) : Prop where
  contains : ∀ other, other.equal key = true → after.contains other = true
  found : ∀ other, other.equal key = true → after.find? other = some value
  others : ∀ other,
    other.equal key = false →
    after.find? other = before.find? other ∧
      after.contains other = before.contains other
  replaced :
    before.contains key = true →
    after.entries.map Prod.fst = before.entries.map Prod.fst ∧
      after.size = before.size
  added :
    before.contains key = false →
    after.entries.map Prod.fst = before.entries.map Prod.fst ++ [key] ∧
      after.size = before.size + 1

theorem contains_eq_isSome (state : HashState) (key : Value) :
    state.contains key = (state.find? key).isSome := by
  rw [find?, Option.isSome_map, contains, Bool.eq_iff_iff,
    List.find?_isSome, List.any_eq_true]

theorem lookup?_cons
    (entry : Value × Value)
    (rest : List (Value × Value))
    (key : Value) :
    lookup? (entry :: rest) key =
      if entry.1.equal key then some entry.2 else lookup? rest key := by
  unfold lookup?
  cases found : entry.1.equal key <;> simp [found]

/--
Storing under a key changes what is found under the keys equal
to it, and nothing else.
-/
theorem lookup?_store
    (key value : Value)
    (entries : List (Value × Value))
    (other : Value) :
    lookup? (store key value entries) other =
      if other.equal key then some value else lookup? entries other := by
  induction entries with
  | nil =>
      simp only [store, lookup?_cons, key.equal_comm other]
  | cons entry rest inductionHypothesis =>
      obtain ⟨oldKey, oldValue⟩ := entry
      by_cases replaces : oldKey.equal key = true
      · have alike : oldKey.equal other = other.equal key := by
          rw [Value.equal_congr replaces, Value.equal_comm]
        by_cases found : other.equal key = true
        · simp [store, lookup?_cons, replaces, alike, found]
        · simp [store, lookup?_cons, replaces, alike, found]
      · simp only [store, lookup?_cons, replaces, inductionHypothesis,
          Bool.false_eq_true, ↓reduceIte]
        by_cases found : oldKey.equal other = true
        · have different : ¬ other.equal key = true := by
            intro same
            rw [Value.equal_congr found, same] at replaces
            exact replaces rfl
          simp [found, different]
        · simp [found]

/--
The keys stay as they are and in their order; only a key that is
not there yet is added.
-/
theorem keys_store
    (key value : Value)
    (entries : List (Value × Value)) :
    (store key value entries).map Prod.fst =
      if (lookup? entries key).isSome then entries.map Prod.fst
      else entries.map Prod.fst ++ [key] := by
  induction entries with
  | nil => rfl
  | cons entry rest inductionHypothesis =>
      obtain ⟨oldKey, oldValue⟩ := entry
      by_cases replaces : oldKey.equal key = true
      · simp [store, lookup?_cons, replaces]
      · simp only [store, lookup?_cons, replaces, Bool.false_eq_true, ↓reduceIte,
          List.map_cons, inductionHypothesis]
        by_cases present : (lookup? rest key).isSome = true
        · simp [present]
        · simp [present]

/-- The values after storing are the new one and some of the old ones. -/
theorem mem_values_store
    {key value other : Value}
    {entries : List (Value × Value)}
    (member : other ∈ (store key value entries).map Prod.snd) :
    other = value ∨ other ∈ entries.map Prod.snd := by
  induction entries with
  | nil => exact .inl (List.mem_singleton.mp member)
  | cons entry rest inductionHypothesis =>
      obtain ⟨oldKey, oldValue⟩ := entry
      by_cases replaces : oldKey.equal key = true
      · rw [store, if_pos replaces] at member
        rcases List.mem_cons.mp member with isNew | inRest
        · exact .inl isNew
        · exact .inr (List.mem_cons_of_mem _ inRest)
      · rw [store, if_neg replaces] at member
        rcases List.mem_cons.mp member with isFirst | inRest
        · exact .inr (isFirst ▸ List.mem_cons_self)
        · exact (inductionHypothesis inRest).imp id (List.mem_cons_of_mem _)

theorem value_mem_values_store
    (key value : Value)
    (entries : List (Value × Value)) :
    value ∈ (store key value entries).map Prod.snd := by
  induction entries with
  | nil => exact List.mem_singleton_self value
  | cons entry rest inductionHypothesis =>
      obtain ⟨oldKey, oldValue⟩ := entry
      by_cases replaces : oldKey.equal key = true
      · rw [store, if_pos replaces]
        exact List.mem_cons_self
      · rw [store, if_neg replaces]
        exact List.mem_cons_of_mem _ inductionHypothesis

theorem keysDistinct_iff {entries : List (Value × Value)} :
    KeysDistinct entries ↔
      (entries.map Prod.fst).Pairwise fun earlier later =>
        earlier.equal later = false := by
  rw [List.pairwise_map]
  rfl

theorem lookup?_isSome_iff {entries : List (Value × Value)} {key : Value} :
    (lookup? entries key).isSome = true ↔
      ∃ stored ∈ entries.map Prod.fst, stored.equal key = true := by
  simp [lookup?]

/-- Storing never leaves two entries with equal keys where there were none. -/
theorem keysDistinct_store
    {entries : List (Value × Value)}
    (distinct : KeysDistinct entries)
    (key value : Value) :
    KeysDistinct (store key value entries) := by
  rw [keysDistinct_iff] at distinct ⊢
  rw [keys_store]
  by_cases present : (lookup? entries key).isSome = true
  · simpa [present] using distinct
  · simp only [present, Bool.false_eq_true, ↓reduceIte]
    refine List.pairwise_append.mpr ⟨distinct, List.pairwise_singleton _ _, ?_⟩
    intro stored member added isKey
    cases List.mem_singleton.mp isKey
    rw [lookup?_isSome_iff] at present
    by_contra same
    exact present ⟨stored, member, by simpa using same⟩

theorem keys_insert (state : HashState) (key value : Value) :
    (state.insert key value).entries.map Prod.fst =
      if state.contains key then state.entries.map Prod.fst
      else state.entries.map Prod.fst ++ [key] := by
  rw [contains_eq_isSome]
  exact keys_store key value state.entries

/-- Inserting into a hash stores the value under its key. -/
theorem stored_insert (state : HashState) (key value : Value) :
    Stored key value state (state.insert key value) := by
  have found (other : Value) :
      (state.insert key value).find? other =
        if other.equal key then some value else state.find? other :=
    lookup?_store key value state.entries other
  have size :
      (state.insert key value).size =
        ((state.insert key value).entries.map Prod.fst).length :=
    (List.length_map Prod.fst).symm
  exact {
    contains := by
      intro other same
      simp [contains_eq_isSome, found, same]
    found := by
      intro other same
      simp [found, same]
    others := by
      intro other different
      simp [contains_eq_isSome, found, different]
    replaced := by
      intro present
      rw [size, keys_insert, if_pos present]
      exact ⟨rfl, List.length_map Prod.fst⟩
    added := by
      intro absent
      rw [size, keys_insert, if_neg (by simp [absent])]
      exact ⟨rfl, by simp [HashState.size]⟩ }

theorem storeAll_append_singleton
    (entries pairs : List (Value × Value))
    (pair : Value × Value) :
    storeAll entries (pairs ++ [pair]) =
      store pair.1 pair.2 (storeAll entries pairs) := by
  simp [storeAll]

/-- The last of several writes under equal keys is the one that is found. -/
theorem lookup?_storeAll
    (entries pairs : List (Value × Value))
    (key : Value) :
    lookup? (storeAll entries pairs) key =
      (lastStored? pairs key).or (lookup? entries key) := by
  induction pairs using List.reverseRecOn with
  | nil => rfl
  | append_singleton earlier pair inductionHypothesis =>
      have last :
          lastStored? (earlier ++ [pair]) key =
            if key.equal pair.1 then some pair.2 else lastStored? earlier key := by
        rw [lastStored?, List.reverse_append, List.reverse_singleton,
          List.singleton_append, lookup?_cons, Value.equal_comm]
        rfl
      rw [storeAll_append_singleton, lookup?_store, last, inductionHypothesis]
      by_cases found : key.equal pair.1 = true
      · simp [found]
      · simp [found]

/--
However much is stored, the keys that were there stay, in their
order and at the front.
-/
theorem keys_prefix_storeAll (entries pairs : List (Value × Value)) :
    entries.map Prod.fst <+: (storeAll entries pairs).map Prod.fst := by
  induction pairs using List.reverseRecOn with
  | nil => exact List.prefix_rfl
  | append_singleton earlier pair inductionHypothesis =>
      rw [storeAll_append_singleton, keys_store]
      by_cases present : (lookup? (storeAll entries earlier) pair.1).isSome = true
      · simpa [present] using inductionHypothesis
      · simp only [present, Bool.false_eq_true, ↓reduceIte]
        exact inductionHypothesis.trans (List.prefix_append _ _)

end HashState

end Conformance
