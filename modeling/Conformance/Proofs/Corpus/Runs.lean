import Conformance.Proofs.Corpus.GroupChecks

namespace Conformance.Corpus

/-!
# Runs of the corpus

The groups of the corpus are sound wherever their guards admit them, so a run of the
corpus fails nowhere.  The guards of the two groups on group lookup and the choice of
the database look at the platform separately; they agree on what counts as Windows.
-/

/--
How a run of the corpus goes: every selected scenario is reported, as passed or as
skipped, and of the two groups on group lookup the one runs that fits the database.
-/
structure RunsClean
    (host : Host)
    (platform : Platform)
    (options : RunOptions)
    (run : Run Unit Routine) : Prop where
  onWindows :
    (∃ before after, before ++ "windows".toList ++ after = platform.id.toList) →
    (run.complete machine).1 =
      options.reports defaultProcGroup .passed ++
        options.reports defaultProcAssignGroup .passed ++
        options.reports (windowsGroup host) .passed ++
        options.reports (otherGroup host)
          (.skipped ((Guard.exceptOn "windows").skipReason platform))
  elsewhere :
    (¬ ∃ before after, before ++ "windows".toList ++ after = platform.id.toList) →
    (run.complete machine).1 =
      options.reports defaultProcGroup .passed ++
        options.reports defaultProcAssignGroup .passed ++
        options.reports (windowsGroup host)
          (.skipped ((Guard.onlyOn "windows").skipReason platform)) ++
        options.reports (otherGroup host) .passed
  noneFails : ∀ report ∈ (run.complete machine).1, ¬ report.outcome.Fails
  ended : ∀ count, run.owed ≤ count → run.answer machine count = none
  oneAdmitted : (windowsGroup host).Refused platform ↔
    ¬ (otherGroup host).Refused platform
  withoutDatabase :
    ¬ (windowsGroup host).Refused platform → host.databaseFor platform = .unsupported
  withDatabase :
    ¬ (otherGroup host).Refused platform → host.databaseFor platform = host.database
  ranAdmitted : ∀ activity ∈ (run.complete machine).2.journal,
    ∃ group,
      (registry host).groups[activity.place]? = some group ∧ ¬ group.Refused platform

variable {host : Host} {gid : UInt32} {record : GroupRecord} {platform : Platform}

theorem isWindows_iff :
    platform.isWindows = true ↔
      ∃ before after, before ++ "windows".toList ++ after = platform.id.toList := by
  rw [← Text.occursIn_iff]
  have named : "windows".isEmpty = false := by decide
  simp [Platform.isWindows, Platform.satisfies, named]

theorem windowsGroup_refused_iff :
    (windowsGroup host).Refused platform ↔ platform.isWindows = false := by
  constructor
  · rintro ⟨guard, guarded, refuses⟩
    cases guarded
    exact refuses
  · intro elsewhere
    exact ⟨_, rfl, elsewhere⟩

theorem exceptOn_refuses_iff :
    (Guard.exceptOn "windows").allows platform = false ↔
      platform.isWindows = true := by
  simp [Guard.allows, Platform.isWindows]

theorem otherGroup_refused_iff :
    (otherGroup host).Refused platform ↔ platform.isWindows = true := by
  constructor
  · rintro ⟨guard, guarded, refuses⟩
    cases guarded
    exact exceptOn_refuses_iff.mp refuses
  · intro windows
    exact ⟨_, rfl, exceptOn_refuses_iff.mpr windows⟩

theorem registry_groups (host : Host) :
    (registry host).groups =
      [defaultProcGroup, defaultProcAssignGroup,
        windowsGroup host, otherGroup host] :=
  rfl

/-- Every group of the corpus is sound where its guard admits it. -/
theorem sound_of_admitted (agrees : host.Agrees gid record) :
    ∀ group ∈ (registry host).groups,
      ¬ group.Refused platform → group.Sound machine platform := by
  simp only [registry_groups, List.forall_mem_cons]
  refine
    ⟨fun _ => defaultProcGroup_sound platform,
      fun _ => defaultProcAssignGroup_sound platform, ?_, ?_, nofun⟩
  · intro admitted
    rw [windowsGroup_refused_iff, Bool.not_eq_false] at admitted
    exact windowsGroup_sound host admitted
  · intro admitted
    rw [otherGroup_refused_iff, Bool.not_eq_true] at admitted
    exact otherGroup_sound agrees admitted

/-- A run of the corpus reports the verdicts of its four groups. -/
theorem complete_eq_verdicts
    (agrees : host.Agrees gid record)
    (options : RunOptions)
    (scene : Scene Unit Routine) :
    ((Run.start (registry host) platform options scene).complete machine).1 =
      options.reports defaultProcGroup .passed ++
        options.reports defaultProcAssignGroup .passed ++
        options.reports (windowsGroup host) ((windowsGroup host).verdict platform) ++
        options.reports (otherGroup host) ((otherGroup host).verdict platform) := by
  rw [Run.complete_of_sound (sound_of_admitted agrees)]
  simp only [registry_groups, List.flatMap_cons, List.flatMap_nil, List.append_nil,
    List.append_assoc]
  rfl

/-- On every platform and under every filter a run of the corpus fails nowhere. -/
theorem runs_clean
    (agrees : host.Agrees gid record)
    (platform : Platform)
    (options : RunOptions)
    (scene : Scene Unit Routine) :
    RunsClean host platform options (.start (registry host) platform options scene) where
  onWindows occurs := by
    have windows := isWindows_iff.mpr occurs
    have admitted : ¬ (windowsGroup host).Refused platform := by
      simp [windowsGroup_refused_iff, windows]
    have refuses := exceptOn_refuses_iff.mpr windows
    rw [complete_eq_verdicts agrees, Group.verdict_of_admitted admitted,
      Group.verdict_of_refused rfl refuses]
  elsewhere absent := by
    have elsewhere : platform.isWindows = false :=
      Bool.eq_false_iff.mpr (mt isWindows_iff.mp absent)
    have admitted : ¬ (otherGroup host).Refused platform := by
      simp [otherGroup_refused_iff, elsewhere]
    have refuses : (Guard.onlyOn "windows").allows platform = false := elsewhere
    rw [complete_eq_verdicts agrees, Group.verdict_of_admitted admitted,
      Group.verdict_of_refused rfl refuses]
  noneFails := by
    intro report member
    rw [Run.complete_of_sound (sound_of_admitted agrees)] at member
    obtain ⟨group, -, inGroup⟩ := List.mem_flatMap.mp member
    obtain ⟨names, -, rfl⟩ := List.mem_map.mp inGroup
    exact Group.verdict_not_fails
  ended _ notBefore := Run.answer_of_owed_le notBefore
  oneAdmitted := by
    rw [windowsGroup_refused_iff, otherGroup_refused_iff, Bool.not_eq_true]
  withoutDatabase admitted := by
    rw [windowsGroup_refused_iff, Bool.not_eq_false] at admitted
    exact databaseFor_windows admitted
  withDatabase admitted := by
    rw [otherGroup_refused_iff, Bool.not_eq_true] at admitted
    exact databaseFor_elsewhere admitted
  ranAdmitted _ ran := Run.admitted_of_mem_journal scene ran

/-- A group with the number twenty. -/
def staffRecord : GroupRecord :=
  ⟨"staff", "x", 20, ["ada"]⟩

/-- A host whose process belongs to the one group that its database holds. -/
def staffHost : Host where
  database := .ofRecords [staffRecord] (some 20)
  id := fun flag => .ok ⟨true, if flag = "-g" then "20\n" else "staff\n", ""⟩

theorem runs_clean_on_staffHost :
    staffHost.Agrees 20 staffRecord ∧
      RunsClean staffHost ⟨"x86_64-linux"⟩ ⟨some "getgrgid", true⟩
        (.start (registry staffHost) ⟨"x86_64-linux"⟩ ⟨some "getgrgid", true⟩
          (.new ⟨"x86_64-linux"⟩ ())) := by
  have agrees : staffHost.Agrees 20 staffRecord := {
    supported := rfl
    current := rfl
    found := fun _ _ => rfl
    missing := fun _ _ => rfl
    recordGid := rfl
    gidPrinted := ⟨⟨true, "20\n", ""⟩, rfl, rfl, by decide⟩
    namePrinted := ⟨⟨true, "staff\n", ""⟩, rfl, rfl, by decide⟩ }
  exact ⟨agrees, runs_clean agrees _ _ _⟩

end Conformance.Corpus
