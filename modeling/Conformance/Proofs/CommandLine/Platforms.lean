import Conformance.Proofs.CommandLine.ExitCodes
import Conformance.Proofs.Suite.Activities

namespace Conformance

/-!
# Platforms and their names

A platform that a user asks for is taken as it is written if it names an architecture
and a system, and is refused as a whole if it does not.  A platform goes by every text
in its identifier but the empty one, and therefore by every part of a name it goes by.
It either goes by a name or lacks it, so that of two groups under opposite guards one
is skipped and the other is not.
-/

namespace Platform

/--
An identifier is an architecture, a dash and a system; further
dashes belong to the system.
-/
structure MadeOf (id architecture system : String) : Prop where
  parts : id = architecture ++ "-" ++ system
  firstDash : '-' ∉ architecture.toList
  hasArchitecture : architecture ≠ ""
  hasSystem : system ≠ ""

/-- A platform goes by every part of its names. -/
theorem satisfies_part
    {platform : Platform}
    {name part : String}
    (goesBy : platform.satisfies name = true)
    (nonempty : part ≠ "")
    (within : ∃ before after, name = before ++ part ++ after) :
    platform.satisfies part = true := by
  obtain ⟨-, outer⟩ := satisfies_iff.mp goesBy
  have occurs :=
    Text.occursIn_trans (Text.occursIn_iff_append.mpr within)
      (Text.occursIn_iff_append.mpr outer)
  exact satisfies_iff.mpr ⟨nonempty, Text.occursIn_iff_append.mp occurs⟩

/-- A platform goes by its identifier and by both of its parts. -/
theorem MadeOf.satisfies
    {platform : Platform}
    {architecture system : String}
    (made : MadeOf platform.id architecture system) :
    platform.satisfies architecture = true ∧ platform.satisfies system = true ∧
      platform.satisfies platform.id = true := by
  have nonempty : platform.id ≠ "" := by
    rw [made.parts]
    simp [made.hasArchitecture]
  refine ⟨satisfies_iff.mpr ⟨made.hasArchitecture, "", "-" ++ system, ?_⟩,
    satisfies_iff.mpr ⟨made.hasSystem, architecture ++ "-", "", ?_⟩,
    satisfies_iff.mpr ⟨nonempty, "", "", ?_⟩⟩
  · rw [String.empty_append, ← String.append_assoc, made.parts]
  · rw [String.append_empty, made.parts]
  · rw [String.empty_append, String.append_empty]

/-- A platform either goes by a name or lacks it. -/
theorem xor_satisfies_lacks (platform : Platform) (name : String) :
    Xor (platform.satisfies name = true) (platform.lacks name = true) := by
  cases goesBy : platform.satisfies name <;> simp [lacks, goesBy]

end Platform

namespace Settings

/-- The settings with a platform to ask for. -/
def asking (settings : Settings) (id : String) : Settings :=
  { settings with platform := some id }

theorem namesPlatform_iff {id : String} :
    NamesPlatform id ↔ ∃ architecture system,
      Platform.MadeOf id architecture system := by
  constructor
  · intro named
    cases named with
    | @intro architecture system parts firstDash hasArchitecture hasSystem =>
        refine ⟨String.ofList architecture, String.ofList system, ?_, ?_, ?_, ?_⟩
        · simp [← String.toList_inj, parts]
        · rwa [String.toList_ofList]
        · exact mt String.ofList_eq_empty_iff.mp hasArchitecture
        · exact mt String.ofList_eq_empty_iff.mp hasSystem
  · rintro ⟨architecture, system, made⟩
    have parts : id.toList = architecture.toList ++ '-' :: system.toList := by
      simp [made.parts]
    exact .intro parts made.firstDash
      (mt String.toList_eq_nil_iff.mp made.hasArchitecture)
      (mt String.toList_eq_nil_iff.mp made.hasSystem)

/--
The platform asked for is taken as it is if it is made of two
parts, and refused if not.
-/
theorem resolvePlatform_asking
    (settings : Settings)
    (id : String)
    (detected : Platform) :
    (settings.asking id).resolvePlatform detected = .ok ⟨id⟩ ∧
        (∃ architecture system, Platform.MadeOf id architecture system) ∨
      (settings.asking id).resolvePlatform detected =
        .error (.malformedPlatform id) ∧
        ¬ ∃ architecture system, Platform.MadeOf id architecture system := by
  rw [← namesPlatform_iff, ← wellFormed_iff]
  cases fits : wellFormed id <;> simp [resolvePlatform, asking, fits]

end Settings

namespace Group

variable {World Label : Type} {platform : Platform}

/--
A group is skipped: none of its hooks runs when it is opened, and none
of its scenarios is to.
-/
def Skipped
    (machine : Machine World Label)
    (platform : Platform)
    (group : Group World Label)
    (place : Nat)
    (scene : Scene World Label) : Prop :=
  ∃ reason, group.activate machine platform place scene = ((.skip reason, []), scene)

theorem skipped_iff_refused
    (machine : Machine World Label)
    (group : Group World Label)
    (place : Nat)
    (scene : Scene World Label) :
    group.Skipped machine platform place scene ↔ group.Refused platform := by
  constructor
  · rintro ⟨reason, skipped⟩
    by_contra admitted
    rw [activate_of_not_refused admitted] at skipped
    cases failure :
        (group.hookRun machine platform place scene).1.ending.hookFailure? with
    | none =>
        rw [prepare_of_returned failure] at skipped
        cases congrArg (fun opened => opened.1.1) skipped
    | some message =>
        rw [prepare_of_failed failure] at skipped
        cases congrArg (fun opened => opened.1.1) skipped
  · rintro ⟨guard, guarded, refuses⟩
    exact ⟨_, activate_of_refused guarded refuses place scene⟩

theorem refused_iff_of_guard
    {group : Group World Label}
    {guard : Guard}
    (guarded : group.guard = some guard) :
    group.Refused platform ↔ guard.allows platform = false := by
  simp [Refused, guarded]

/-- A platform refuses one of two groups under opposite guards, and admits the other. -/
theorem xor_refused
    {first second : Group World Label}
    {name : String}
    (only : first.guard = some (.onlyOn name))
    (except : second.guard = some (.exceptOn name)) :
    Xor (first.Refused platform) (second.Refused platform) := by
  rw [refused_iff_of_guard only, refused_iff_of_guard except]
  cases goesBy : platform.satisfies name <;> simp [Guard.allows, goesBy]

end Group

/--
A run reports a scenario as skipped exactly when its platform
refuses the scenario's group.
-/
theorem Run.skipped_iff_refused
    {World Label : Type}
    {machine : Machine World Label}
    {run : Run World Label}
    {due : List (Turn World Label)}
    {count : Nat}
    {turn : Turn World Label}
    {report : Report}
    (obeyed : ∀ count, run.Obeys machine due count)
    (isDue : due[count]? = some turn)
    (answered : run.answer machine count = some report) :
    (∃ reason, report.outcome = .skipped reason) ↔
      turn.group.Refused run.platform := by
  obtain ⟨-, rfl⟩ := answers_of_answer obeyed isDue answered
  exact (Call.comesTo machine run.platform _).skipped_iff

/-- How the platform that a user asks for is taken, if it is, and how it is refused. -/
structure Settings.TakesPlatform
    (settings : Settings)
    (detected : Platform)
    (id : String) : Prop where
  accepts_iff :
    (∃ platform, (settings.asking id).resolvePlatform detected = .ok platform) ↔
      ∃ architecture system, Platform.MadeOf id architecture system
  unchanged : ∀ platform,
    (settings.asking id).resolvePlatform detected = .ok platform → platform.id = id
  rejects_iff : ∀ error,
    (settings.asking id).resolvePlatform detected = .error error ↔
      error = .malformedPlatform id ∧
        ¬ ∃ architecture system, Platform.MadeOf id architecture system
  quoted : ∃ before after,
    (SettingsError.malformedPlatform id).text = before ++ id ++ after
  named : ∀ platform architecture system,
    (settings.asking id).resolvePlatform detected = .ok platform →
    Platform.MadeOf id architecture system →
    platform.satisfies architecture = true ∧ platform.satisfies system = true ∧
      platform.satisfies id = true

/--
What a platform goes by, and what becomes of groups that run only on
it or everywhere else.
-/
structure Platform.GoesByNames (platform : Platform) : Prop where
  satisfies_iff : ∀ name,
    platform.satisfies name = true ↔
      name ≠ "" ∧ ∃ before after, platform.id = before ++ name ++ after
  parts : ∀ name part,
    platform.satisfies name = true →
    part ≠ "" →
    (∃ before after, name = before ++ part ++ after) →
    platform.satisfies part = true
  opposite : ∀ name,
    Xor (platform.satisfies name = true) (platform.lacks name = true)
  guards : ∀ name,
    (Guard.onlyOn name).allows platform = platform.satisfies name ∧
      (Guard.exceptOn name).allows platform = platform.lacks name
  groups : ∀ {World Label : Type} (machine : Machine World Label)
      (first second : Group World Label) name place otherPlace scene otherScene,
    first.guard = some (.onlyOn name) →
    second.guard = some (.exceptOn name) →
    Xor (first.Skipped machine platform place scene)
      (second.Skipped machine platform otherPlace otherScene)
  reports : ∀ {World Label : Type} (machine : Machine World Label)
      (registry : Registry World Label) options scene count other
      (turn otherTurn : Turn World Label) report otherReport name,
    (registry.turns options)[count]? = some turn →
    (registry.turns options)[other]? = some otherTurn →
    turn.group.guard = some (.onlyOn name) →
    otherTurn.group.guard = some (.exceptOn name) →
    (Run.start registry platform options scene).answer machine count = some report →
    (Run.start registry platform options scene).answer machine other =
      some otherReport →
    Xor (∃ reason, report.outcome = .skipped reason)
      (∃ reason, otherReport.outcome = .skipped reason)

theorem Settings.takesPlatform
    (settings : Settings)
    (detected : Platform)
    (id : String) :
    settings.TakesPlatform detected id := by
  have quoted :
      ∃ before after, (SettingsError.malformedPlatform id).text =
        before ++ id ++ after :=
    ⟨_, _, rfl⟩
  rcases settings.resolvePlatform_asking id detected with
    ⟨resolved, made⟩ | ⟨resolved, notMade⟩
  · exact {
      accepts_iff := by simp [resolved, made]
      unchanged := by simp [resolved]
      rejects_iff := by simp [resolved, made]
      quoted := quoted
      named := by
        intro platform architecture system accepted parts
        rw [resolved] at accepted
        obtain rfl := Except.ok.inj accepted
        exact Platform.MadeOf.satisfies parts }
  · exact {
      accepts_iff := by simp [resolved, notMade]
      unchanged := by simp [resolved]
      rejects_iff := by simp [resolved, notMade, eq_comm]
      quoted := quoted
      named := by simp [resolved] }

theorem Platform.goesByNames (platform : Platform) : platform.GoesByNames where
  satisfies_iff _ := Platform.satisfies_iff
  parts _ _ goesBy nonempty within := satisfies_part goesBy nonempty within
  opposite := xor_satisfies_lacks platform
  guards _ := ⟨rfl, rfl⟩
  groups := by
    intro World Label machine first second name place otherPlace scene otherScene
      only except
    rw [Group.skipped_iff_refused, Group.skipped_iff_refused]
    exact Group.xor_refused only except
  reports := by
    intro World Label machine registry options scene count other turn otherTurn
      report otherReport name isDue otherDue only except answered otherAnswered
    have obeyed := Run.obeys machine registry platform options scene
    rw [Run.skipped_iff_refused obeyed isDue answered,
      Run.skipped_iff_refused obeyed otherDue otherAnswered]
    exact Group.xor_refused only except

/--
Every text that a user asks to run on is taken or refused as it should be, and every
platform goes by its names and skips one of two groups under opposite guards.
-/
theorem Settings.askedPlatform_goesByNames
    (settings : Settings)
    (detected : Platform)
    (id : String)
    (platform : Platform) :
    settings.TakesPlatform detected id ∧ platform.GoesByNames :=
  ⟨settings.takesPlatform detected id, platform.goesByNames⟩

/-- Only the first dash divides an identifier, so one in front leaves no architecture. -/
example (detected : Platform) :
    (Settings.initial.asking "é--").resolvePlatform detected = .ok ⟨"é--"⟩ ∧
      (Settings.initial.asking "-a-b").resolvePlatform detected =
        .error (.malformedPlatform "-a-b") :=
  ⟨rfl, rfl⟩

end Conformance
