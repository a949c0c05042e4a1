import Conformance.CommandLine.Execution
import Conformance.Proofs.Report.Deliveries
import Mathlib.Data.List.TakeDrop
import Mathlib.Data.List.TakeWhile

namespace Conformance

/-!
# Exit codes

Settings are looked at before anything is started.  Those that cannot be followed
end the command with a code of their own, and no machine, reporter or clock has a
part in it.  All others start a run, and the code tells whether one of the reports
of the run fails; neither the format, the clock nor how texts are rendered makes a
difference.
-/

namespace Settings

/-- An identifier names an architecture and a system, with its first dash between them. -/
inductive NamesPlatform (id : String) : Prop where
  | intro
      {architecture system : List Char}
      (parts : id.toList = architecture ++ '-' :: system)
      (firstDash : '-' ∉ architecture)
      (hasArchitecture : architecture ≠ [])
      (hasSystem : system ≠ [])

/-- Why settings cannot be followed; of two reasons it is the platform. -/
inductive Refused (settings : Settings) : SettingsError → Prop where
  | platform
      {id : String}
      (asked : settings.platform = some id)
      (unnamed : ¬ NamesPlatform id) :
      Refused settings (.malformedPlatform id)
  | filter
      (named : ∀ id, settings.platform = some id → NamesPlatform id)
      (empty : settings.filter = some "") :
      Refused settings .emptyFilter

/-- The run that settings ask for, on the detected platform if they ask for none. -/
def askedRun
    {World Label : Type}
    (settings : Settings)
    (detected : Platform)
    (registry : Registry World Label)
    (scene : Scene World Label) :
    Run World Label :=
  .start registry ((settings.platform.map Platform.mk).getD detected)
    ⟨settings.filter, settings.stopOnFail⟩ scene

theorem wellFormed_iff {id : String} :
    wellFormed id = true ↔ NamesPlatform id := by
  unfold wellFormed
  rw [List.span_eq_takeWhile_dropWhile]
  constructor
  · intro fits
    cases atDash : id.toList.dropWhile fun character => character != '-' with
    | nil => simp [atDash] at fits
    | cons dash system =>
        have isDash : dash = '-' := by
          have notTaken :=
            List.head?_dropWhile_not (fun character => character != '-') id.toList
          simpa [atDash] using notTaken
        subst isDash
        have parts :=
          id.toList.takeWhile_append_dropWhile (p := fun character => character != '-')
        rw [atDash] at parts
        simp only [atDash, Bool.and_eq_true, Bool.not_eq_true',
          List.isEmpty_eq_false_iff] at fits
        refine .intro parts.symm ?_ fits.1 fits.2
        intro member
        simpa using List.mem_takeWhile_imp member
  · intro named
    cases named with
    | @intro architecture system parts firstDash hasArchitecture hasSystem =>
        have taken : ∀ character ∈ architecture, (character != '-') = true := by
          intro character member
          apply bne_iff_ne.mpr
          rintro rfl
          exact firstDash member
        simp [parts, List.takeWhile_append_of_pos taken,
          List.dropWhile_append_of_pos taken, hasArchitecture, hasSystem]

variable {World Label : Type} {settings : Settings} {error : SettingsError}

theorem exists_refused_iff :
    (∃ error, settings.Refused error) ↔
      (∃ id, settings.platform = some id ∧ ¬ NamesPlatform id) ∨
        settings.filter = some "" := by
  constructor
  · rintro ⟨error, refused⟩
    cases refused with
    | platform asked unnamed => exact .inl ⟨_, asked, unnamed⟩
    | filter named empty => exact .inr empty
  · rintro (⟨id, asked, unnamed⟩ | empty)
    · exact ⟨_, .platform asked unnamed⟩
    · by_cases named : ∀ id, settings.platform = some id → NamesPlatform id
      · exact ⟨_, .filter named empty⟩
      · push Not at named
        obtain ⟨id, asked, unnamed⟩ := named
        exact ⟨_, .platform asked unnamed⟩

/-- Settings that ask for no platform, or for one by its name, run on it. -/
theorem resolvePlatform_of_named
    (named : ∀ id, settings.platform = some id → NamesPlatform id)
    (detected : Platform) :
    settings.resolvePlatform detected =
      .ok ((settings.platform.map Platform.mk).getD detected) := by
  unfold resolvePlatform
  cases asked : settings.platform with
  | none => rfl
  | some id => simp [wellFormed_iff.mpr (named id asked)]

theorem prepare_of_refused
    (refused : settings.Refused error)
    (detected : Platform)
    (registry : Registry World Label)
    (scene : Scene World Label) :
    settings.prepare detected registry scene = .error error := by
  cases refused with
  | @platform id asked unnamed =>
      have malformed : wellFormed id = false :=
        Bool.eq_false_iff.mpr (mt wellFormed_iff.mp unnamed)
      simp only [prepare, resolvePlatform, asked, malformed]
      rfl
  | filter named empty =>
      simp only [prepare, resolvePlatform_of_named named, runOptions, empty]
      rfl

theorem prepare_of_not_refused
    (followed : ∀ error, ¬ settings.Refused error)
    (detected : Platform)
    (registry : Registry World Label)
    (scene : Scene World Label) :
    settings.prepare detected registry scene =
      .ok (settings.askedRun detected registry scene) := by
  have noReason := mt exists_refused_iff.mpr (not_exists.mpr followed)
  push Not at noReason
  obtain ⟨named, notEmpty⟩ := noReason
  simp only [prepare, resolvePlatform_of_named named, runOptions, notEmpty]
  rfl

end Settings

namespace CommandLine

/--
How running a registry ends.  Settings that cannot be followed start no run: the
result is there without an effect, whatever the machine that would run the bodies,
and however events would be told.  Otherwise a run is delivered, and the exit code is
about all of its reports.
-/
structure ExitTellsOutcome
    {World Label : Type}
    (machine : Machine World Label)
    (detected : Platform)
    (registry : Registry World Label)
    (scene : Scene World Label)
    (settings : Settings) : Prop where
  refused_iff : ∀ rendering duration,
    (runRegistry rendering machine duration detected registry scene settings).exitCode = 2 ↔
      (∃ id, settings.platform = some id ∧ ¬ Settings.NamesPlatform id) ∨
        settings.filter = some ""
  refused : ∀ {error},
    settings.Refused error →
    settings.prepare detected registry scene = .error error ∧
      (∀ rendering duration,
        runRegistry rendering machine duration detected registry scene settings =
          ⟨2, "", rendering.diagnostic error⟩) ∧
      ∀ {Effect : Type → Type} [Monad Effect]
          (stopwatch : Stopwatch Effect) (tell : Event → Effect Unit),
        conduct machine stopwatch tell detected registry scene settings =
          pure (.error error)
  succeeds_iff :
    (∀ error, ¬ settings.Refused error) →
    ∀ rendering duration,
      (runRegistry rendering machine duration detected registry scene settings).exitCode = 0 ↔
        ∀ report ∈ ((settings.askedRun detected registry scene).complete machine).1,
          ¬ report.outcome.Fails
  fails_iff :
    (∀ error, ¬ settings.Refused error) →
    ∀ rendering duration,
      (runRegistry rendering machine duration detected registry scene settings).exitCode = 1 ↔
        ∃ report ∈ ((settings.askedRun detected registry scene).complete machine).1,
          report.outcome.Fails
  conducted :
    (∀ error, ¬ settings.Refused error) →
    ∀ {State Mark : Type} {Effect : Type → Type} [Monad Effect] [LawfulMonad Effect]
        (reporter : Reporter State) (mark : Effect Mark)
          (lap : Mark → Effect Duration),
      (conduct machine (.between (liftM mark) fun began => liftM (lap began))
          reporter.tellBeside detected registry scene settings).run
            ⟨reporter.initial, ""⟩ =
        (do
          let events ← (settings.askedRun detected registry scene).events machine mark lap
          pure
            (.ok ((settings.askedRun detected registry scene).complete machine).2,
              reporter.told events ⟨reporter.initial, ""⟩))
  sameCode :
    (∀ error, ¬ settings.Refused error) →
    ∀ rendering duration,
      (runRegistry rendering machine duration detected registry scene settings).exitCode =
        exitCodeOf ((settings.askedRun detected registry scene).complete machine).2.tally
  ended : ∀ count,
    (settings.askedRun detected registry scene).owed ≤ count →
    (settings.askedRun detected registry scene).answer machine count = none

variable {World Label : Type}

theorem exitCode_report
    (rendering : Rendering)
    (machine : Machine World Label)
    (duration : Duration)
    (settings : Settings)
    (run : Run World Label) :
    (report rendering machine duration settings run).exitCode =
      exitCodeOf (run.complete machine).2.tally := by
  unfold report
  cases settings.format with
  | console => simp only [Reporter.follow_eq]
  | json => simp only [Reporter.follow_eq]

theorem exitCodeOf_eq_zero_iff {tally : Tally} :
    exitCodeOf tally = 0 ↔ tally.isSuccess = true := by
  cases success : tally.isSuccess <;> simp [exitCodeOf, success]

theorem exitCodeOf_eq_one_iff {tally : Tally} :
    exitCodeOf tally = 1 ↔ tally.isSuccess = false := by
  cases success : tally.isSuccess <;> simp [exitCodeOf, success]

theorem exitCodeOf_ne_two (tally : Tally) : exitCodeOf tally ≠ 2 := by
  cases success : tally.isSuccess <;> simp [exitCodeOf, success]

variable {settings : Settings} {error : SettingsError}

/-- Settings that cannot be followed give a code of their own and their diagnostic. -/
theorem runRegistry_of_refused
    (refused : settings.Refused error)
    (rendering : Rendering)
    (machine : Machine World Label)
    (duration : Duration)
    (detected : Platform)
    (registry : Registry World Label)
    (scene : Scene World Label) :
    runRegistry rendering machine duration detected registry scene settings =
      ⟨2, "", rendering.diagnostic error⟩ := by
  simp only [runRegistry, Settings.prepare_of_refused refused]

/-- Settings that can be followed give the code of the tally of their run. -/
theorem exitCode_of_not_refused
    (followed : ∀ error, ¬ settings.Refused error)
    (rendering : Rendering)
    (machine : Machine World Label)
    (duration : Duration)
    (detected : Platform)
    (registry : Registry World Label)
    (scene : Scene World Label) :
    (runRegistry rendering machine duration detected registry scene settings).exitCode =
      exitCodeOf ((settings.askedRun detected registry scene).complete machine).2.tally := by
  simp only [runRegistry, Settings.prepare_of_not_refused followed, exitCode_report]

/-- Running a registry has a code of its own for settings that cannot be followed. -/
theorem exitCode_eq_two_iff
    (rendering : Rendering)
    (machine : Machine World Label)
    (duration : Duration)
    (detected : Platform)
    (registry : Registry World Label)
    (scene : Scene World Label) :
    (runRegistry rendering machine duration detected registry scene settings).exitCode = 2 ↔
      ∃ error, settings.Refused error := by
  constructor
  · intro exits
    by_contra followed
    rw [exitCode_of_not_refused (not_exists.mp followed)] at exits
    exact exitCodeOf_ne_two _ exits
  · rintro ⟨error, refused⟩
    rw [runRegistry_of_refused refused]

/-- The tally of a run that settings ask for is a success if none of its reports fails. -/
theorem isSuccess_askedRun_iff
    (machine : Machine World Label)
    (detected : Platform)
    (registry : Registry World Label)
    (scene : Scene World Label) :
    ((settings.askedRun detected registry scene).complete machine).2.tally.isSuccess = true ↔
      ∀ report ∈ ((settings.askedRun detected registry scene).complete machine).1,
        ¬ report.outcome.Fails := by
  let run := settings.askedRun detected registry scene
  have obeyed := Run.obeys machine registry run.platform run.options scene
  exact (Run.tally_counts obeyed rfl run.owed).isSuccess_iff

/-- A command whose settings can be followed delivers the run that they ask for. -/
theorem conduct_of_not_refused
    {Effect : Type → Type}
    [Monad Effect]
    (followed : ∀ error, ¬ settings.Refused error)
    (machine : Machine World Label)
    (stopwatch : Stopwatch Effect)
    (tell : Event → Effect Unit)
    (detected : Platform)
    (registry : Registry World Label)
    (scene : Scene World Label) :
    conduct machine stopwatch tell detected registry scene settings =
      (do
        let final ← (settings.askedRun detected registry scene).deliver
          machine stopwatch tell
        pure (.ok final)) := by
  simp only [conduct, Settings.prepare_of_not_refused followed]

/--
The exit code tells whether a registry was run, and whether
one of its reports fails.
-/
theorem exit_tells_outcome
    (machine : Machine World Label)
    (detected : Platform)
    (registry : Registry World Label)
    (scene : Scene World Label)
    (settings : Settings) :
    ExitTellsOutcome machine detected registry scene settings where
  refused_iff rendering duration := by
    rw [← Settings.exists_refused_iff]
    exact exitCode_eq_two_iff rendering machine duration detected registry scene
  refused := by
    intro error refused
    have notStarted := Settings.prepare_of_refused refused detected registry scene
    refine ⟨notStarted, ?_, ?_⟩
    · intro rendering duration
      exact runRegistry_of_refused refused rendering machine duration
        detected registry scene
    · intro Effect _ stopwatch tell
      simp only [conduct, notStarted]
  succeeds_iff followed rendering duration := by
    rw [exitCode_of_not_refused followed, exitCodeOf_eq_zero_iff]
    exact isSuccess_askedRun_iff machine detected registry scene
  fails_iff followed rendering duration := by
    rw [exitCode_of_not_refused followed, exitCodeOf_eq_one_iff, ← Bool.not_eq_true,
      isSuccess_askedRun_iff]
    simp only [not_forall, not_not, exists_prop]
  conducted := by
    intro followed State Mark Effect _ _ reporter mark lap
    have attended :=
      reporter.attend_run machine mark lap (settings.askedRun detected registry scene)
        ⟨reporter.initial, ""⟩
    rw [Reporter.attend] at attended
    simp [conduct_of_not_refused followed, attended]
  sameCode followed rendering duration :=
    exitCode_of_not_refused followed rendering machine duration detected registry scene
  ended _ notBefore := Run.answer_of_owed_le notBefore

end CommandLine

end Conformance
