import Conformance.Suite.Registry

namespace Conformance

/-!
# Turns

A run owes one turn to each selected scenario, in the order of the registry: of
its groups, and of the scenarios inside a group.
-/

/-- The turn of one scenario: its place in its group, and the place of the group. -/
structure Turn (World Label : Type) where
  place : Nat
  group : Group World Label
  index : Nat
  scenario : Scenario World Label

/-- The names of the selected scenarios of a group, each with that of the group. -/
def RunOptions.selectedNames
    {World Label : Type}
    (options : RunOptions)
    (group : Group World Label) :
    List (String × String) :=
  (group.scenarios.filter fun scenario => options.selects group.name scenario.name).map
    fun scenario => (group.name, scenario.name)

/-- The turns of a group at its place. -/
def RunOptions.turns
    {World Label : Type}
    (options : RunOptions)
    (entry : Nat × Group World Label) :
    List (Turn World Label) :=
  (options.selected entry.2).map fun (index, scenario) =>
    ⟨entry.1, entry.2, index, scenario⟩

/-- The turns of a whole registry, in its order. -/
def Registry.turns
    {World Label : Type}
    (registry : Registry World Label)
    (options : RunOptions) :
    List (Turn World Label) :=
  (registry.groups.zipIdx.map fun (group, place) => (place, group)).flatMap options.turns

namespace Turn

variable {World Label : Type}

/-- The names that the report of a turn carries. -/
def names (turn : Turn World Label) : String × String :=
  (turn.group.name, turn.scenario.name)

/-- The call after so many others in which the group at a place has its first turn. -/
def opening (due : List (Turn World Label)) (place : Nat) : Nat :=
  due.findIdx fun turn => turn.place == place

theorem of_drop_eq_cons
    {due rest : List (Turn World Label)}
    {count : Nat}
    {turn : Turn World Label}
    (shape : due.drop count = turn :: rest) :
    due[count]? = some turn ∧ due.drop (count + 1) = rest ∧
      due.take (count + 1) = due.take count ++ [turn] := by
  have found : due[count]? = some turn := by
    have head : (due.drop count)[0]? = some turn := by rw [shape]; rfl
    rwa [List.getElem?_drop, Nat.add_zero] at head
  refine ⟨found, ?_, ?_⟩
  · rw [← List.drop_drop, shape]
    rfl
  · rw [List.take_add_one, found]
    rfl

theorem opening_eq
    {due : List (Turn World Label)}
    {count : Nat}
    {turn : Turn World Label}
    (found : due[count]? = some turn)
    (first : ∀ earlier ∈ due.take count, earlier.place ≠ turn.place) :
    opening due turn.place = count := by
  obtain ⟨bound, isTurn⟩ := List.getElem?_eq_some_iff.mp found
  refine (List.findIdx_eq bound).mpr ⟨by simp [isTurn], ?_⟩
  intro index earlier
  have member : due[index] ∈ due.take count :=
    List.mem_take_iff_getElem.mpr ⟨index, by omega, rfl⟩
  simpa using first _ member

theorem opening_le
    {due : List (Turn World Label)}
    {count : Nat}
    {turn : Turn World Label}
    (isDue : due[count]? = some turn) :
    opening due turn.place ≤ count := by
  refine Nat.le_of_not_lt fun later => ?_
  obtain ⟨_, isTurn⟩ := List.getElem?_eq_some_iff.mp isDue
  have noTurn : (due[count].place == turn.place) = false :=
    List.not_of_lt_findIdx later
  rw [isTurn] at noTurn
  simp at noTurn

end Turn

namespace Registry

variable {World Label : Type} {registry : Registry World Label}
variable {options : RunOptions}

theorem places_sorted {Item : Type} (items : List Item) :
    (items.zipIdx.map fun (item, place) => (place, item)).Pairwise
      fun earlier later =>
      earlier.1 < later.1 := by
  have places : (items.zipIdx.map Prod.snd).Pairwise (· < ·) := by
    rw [List.zipIdx_map_snd]
    exact List.pairwise_lt_range'
  exact List.pairwise_map.mpr (List.pairwise_map.mp places)

theorem turns_of_group_sorted
    (options : RunOptions)
    (entry : Nat × Group World Label) :
    (options.turns entry).Pairwise fun earlier later =>
      earlier.place = later.place ∧ earlier.index < later.index := by
  have selected :
      (options.selected entry.2).Pairwise fun earlier later => earlier.1 < later.1 :=
    (places_sorted entry.2.scenarios).filter _
  exact List.pairwise_map.mpr (selected.imp fun before => ⟨rfl, before⟩)

/--
A turn of a registry belongs to the group and to the selected
scenario at its places.
-/
theorem of_mem_turns
    {turn : Turn World Label}
    (member : turn ∈ registry.turns options) :
    registry.groups[turn.place]? = some turn.group ∧
      turn.group.scenarios[turn.index]? = some turn.scenario ∧
      options.selects turn.group.name turn.scenario.name = true := by
  obtain ⟨⟨place, group⟩, entryMember, turnMember⟩ := List.mem_flatMap.mp member
  obtain ⟨⟨_, _⟩, groupMember, entryShape⟩ := List.mem_map.mp entryMember
  obtain ⟨⟨index, scenario⟩, selected, rfl⟩ := List.mem_map.mp turnMember
  obtain ⟨scenarioMember, selects⟩ := List.mem_filter.mp selected
  obtain ⟨⟨_, _⟩, placed, scenarioShape⟩ := List.mem_map.mp scenarioMember
  cases entryShape
  cases scenarioShape
  exact
    ⟨List.mk_mem_zipIdx_iff_getElem?.mp groupMember,
      List.mk_mem_zipIdx_iff_getElem?.mp placed, selects⟩

theorem map_snd_places {Item : Type} (items : List Item) :
    (items.zipIdx.map fun (item, place) => (place, item)).map Prod.snd = items := by
  rw [List.map_map]
  exact List.zipIdx_map_fst 0 items

theorem map_snd_selected (options : RunOptions) (group : Group World Label) :
    (options.selected group).map Prod.snd =
      group.scenarios.filter fun scenario =>
        options.selects group.name scenario.name := by
  have scenarios := map_snd_places group.scenarios
  rw [← scenarios, List.filter_map]
  rfl

theorem names_turns_of_group
    (options : RunOptions)
    (entry : Nat × Group World Label) :
    (options.turns entry).map Turn.names = options.selectedNames entry.2 := by
  rw [RunOptions.turns, RunOptions.selectedNames, ← map_snd_selected,
    List.map_map, List.map_map]
  rfl

/-- The turns of a registry stand in the order of its groups and of their scenarios. -/
theorem turns_sorted (registry : Registry World Label) (options : RunOptions) :
    (registry.turns options).Pairwise fun earlier later =>
      earlier.place < later.place ∨
        earlier.place = later.place ∧ earlier.index < later.index := by
  refine List.pairwise_flatMap.mpr ⟨?_, ?_⟩
  · intro entry _
    exact (turns_of_group_sorted options entry).imp .inr
  · refine (places_sorted registry.groups).imp ?_
    intro earlier later before first firstMember second secondMember
    obtain ⟨_, _, rfl⟩ := List.mem_map.mp firstMember
    obtain ⟨_, _, rfl⟩ := List.mem_map.mp secondMember
    exact .inl before

/-- A turn is due in one call only. -/
theorem turns_unique
    {first second : Nat}
    {turn other : Turn World Label}
    (firstDue : (registry.turns options)[first]? = some turn)
    (secondDue : (registry.turns options)[second]? = some other)
    (samePlace : turn.place = other.place)
    (sameIndex : turn.index = other.index) :
    first = second := by
  have sorted := List.pairwise_iff_getElem.mp (registry.turns_sorted options)
  obtain ⟨firstBound, rfl⟩ := List.getElem?_eq_some_iff.mp firstDue
  obtain ⟨secondBound, rfl⟩ := List.getElem?_eq_some_iff.mp secondDue
  rcases Nat.lt_trichotomy first second with before | same | before
  · have := sorted first second firstBound secondBound before
    omega
  · exact same
  · have := sorted second first secondBound firstBound before
    omega

theorem group_eq_of_place_eq
    {first second : Turn World Label}
    (firstMember : first ∈ registry.turns options)
    (secondMember : second ∈ registry.turns options)
    (samePlace : first.place = second.place) :
    first.group = second.group := by
  have ofFirst := (of_mem_turns firstMember).1
  have ofSecond := (of_mem_turns secondMember).1
  rw [samePlace, ofSecond] at ofFirst
  exact (Option.some.inj ofFirst).symm

end Registry

namespace Turn

variable {World Label : Type} {registry : Registry World Label}
variable {options : RunOptions}
variable {count : Nat} {turn : Turn World Label}

theorem opening_spec
    (isDue : (registry.turns options)[count]? = some turn) :
    ∃ opener,
      (registry.turns options)[opening
        (registry.turns options) turn.place]? = some opener ∧
        opener.place = turn.place := by
  have among : turn ∈ registry.turns options := List.mem_of_getElem? isDue
  have bound :
      opening (registry.turns options) turn.place <
        (registry.turns options).length :=
    List.findIdx_lt_length_of_exists ⟨turn, among, by simp⟩
  have found := List.getElem?_eq_getElem bound
  have samePlace :=
    List.findIdx_of_getElem?_eq_some
      (p := fun other : Turn World Label => other.place == turn.place) found
  exact ⟨_, found, eq_of_beq samePlace⟩

end Turn

end Conformance
