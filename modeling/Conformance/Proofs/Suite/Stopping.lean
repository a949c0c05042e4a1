import Conformance.Proofs.Suite.Activities
import Conformance.Proofs.Suite.Tallies

namespace Conformance

/-!
# Stopping at the first failure

Two runs of one registry, one of which stops at the first failure, do the same
in every call up to the one that reports it.  After that call the run that stops
is silent.
-/

/-- The reports up to the first one that counts against a run, and this one, too. -/
def Report.upToFailure : List Report → List Report
  | [] => []
  | report :: rest =>
      match report.outcome with
      | .passed => report :: upToFailure rest
      | .skipped _ => report :: upToFailure rest
      | .failed _ => [report]
      | .errored _ => [report]

namespace Report

theorem upToFailure_cons_of_fails
    {report : Report}
    (fails : report.outcome.Fails)
    (rest : List Report) :
    upToFailure (report :: rest) = [report] := by
  generalize same : report.outcome = outcome at fails
  cases fails <;> simp only [upToFailure, same]

theorem upToFailure_cons_of_not_fails
    {report : Report}
    (holds : ¬ report.outcome.Fails)
    (rest : List Report) :
    upToFailure (report :: rest) = report :: upToFailure rest := by
  cases same : report.outcome with
  | passed => simp only [upToFailure, same]
  | failed message => exact absurd (same ▸ .failed message) holds
  | skipped reason => simp only [upToFailure, same]
  | errored cause => exact absurd (same ▸ .errored cause) holds

/-- Reports none of which fails are followed by what comes up to the next failure. -/
theorem upToFailure_append_of_none_fails
    {reports : List Report}
    (unharmed : ∀ report ∈ reports, ¬ report.outcome.Fails)
    (later : List Report) :
    upToFailure (reports ++ later) = reports ++ upToFailure later := by
  induction reports with
  | nil => rfl
  | cons report rest inductionHypothesis =>
      obtain ⟨holds, restUnharmed⟩ := List.forall_mem_cons.mp unharmed
      rw [List.cons_append, upToFailure_cons_of_not_fails holds,
        inductionHypothesis restUnharmed, List.cons_append]

theorem upToFailure_of_none_fails
    {reports : List Report}
    (unharmed : ∀ report ∈ reports, ¬ report.outcome.Fails) :
    upToFailure reports = reports := by
  have whole := upToFailure_append_of_none_fails unharmed []
  rwa [upToFailure, List.append_nil] at whole

/--
After a report that fails, nothing more belongs to the reports
up to the first failure.
-/
theorem upToFailure_append_of_fails
    {reports : List Report}
    (harmed : ∃ report ∈ reports, report.outcome.Fails)
    (later : List Report) :
    upToFailure (reports ++ later) = upToFailure reports := by
  induction reports with
  | nil =>
      obtain ⟨report, member, -⟩ := harmed
      cases member
  | cons report rest inductionHypothesis =>
      rw [List.cons_append]
      by_cases fails : report.outcome.Fails
      · rw [upToFailure_cons_of_fails fails, upToFailure_cons_of_fails fails]
      · have restHarmed : ∃ report ∈ rest, report.outcome.Fails := by
          obtain ⟨other, member, otherFails⟩ := harmed
          rcases List.mem_cons.mp member with rfl | inRest
          · exact absurd otherFails fails
          · exact ⟨other, inRest, otherFails⟩
        rw [upToFailure_cons_of_not_fails fails, upToFailure_cons_of_not_fails fails,
          inductionHypothesis restHarmed]

theorem upToFailure_toList (report : Option Report) :
    upToFailure report.toList = report.toList := by
  cases report with
  | none => rfl
  | some report =>
      by_cases fails : report.outcome.Fails
      · exact upToFailure_cons_of_fails fails []
      · exact upToFailure_cons_of_not_fails fails []

end Report

namespace Run

variable {World Label : Type}

/--
The call after so many others answers the same in both runs, runs the
same, and leaves the same.
-/
structure SameCall
    (machine : Machine World Label)
    (left right : Run World Label)
    (count : Nat) : Prop where
  answer : left.answer machine count = right.answer machine count
  ran : left.ran machine count = right.ran machine count
  journal : (left.after machine (count + 1)).journal =
    (right.after machine (count + 1)).journal
  scene : (left.after machine (count + 1)).scene =
    (right.after machine (count + 1)).scene
  tally : (left.after machine (count + 1)).tally =
    (right.after machine (count + 1)).tally

/--
A run stops at the first failure of another one: it does the same up to and
including the call that reports the failure, and nothing after it.
-/
structure StopsAtFailure
    (machine : Machine World Label)
    (stopping goingOn : Run World Label) : Prop where
  reports : ∀ count,
    (stopping.pull machine count).1 =
      Report.upToFailure (goingOn.pull machine count).1
  complete : (stopping.complete machine).1 =
    Report.upToFailure (goingOn.complete machine).1
  together : ∀ count,
    (∀ report ∈ (goingOn.pull machine count).1, ¬ report.outcome.Fails) →
    stopping.SameCall machine goingOn count
  stopped : ∀ count later report,
    stopping.answer machine count = some report →
    report.outcome.Fails →
    count < later →
    stopping.answer machine later = none ∧ stopping.ran machine later = [] ∧
      stopping.after machine later = stopping.after machine (count + 1)

variable {machine : Machine World Label} {left right : Run World Label}
variable {due : List (Turn World Label)} {count : Nat}

/-- Two runs have done the same in so many calls, and neither is halted. -/
structure Abreast
    (machine : Machine World Label)
    (left right : Run World Label)
    (count : Nat) : Prop where
  leftRunning : (left.after machine count).halted = false
  rightRunning : (right.after machine count).halted = false
  journal : (left.after machine count).journal = (right.after machine count).journal
  tally : (left.after machine count).tally = (right.after machine count).tally
  scene : ∀ earlier ≤ count,
    (left.after machine earlier).scene = (right.after machine earlier).scene

/-- Runs that have done the same so far answer the same turn by the same call. -/
theorem Abreast.call_eq
    (abreast : Abreast machine left right count)
    {turn : Turn World Label}
    (isDue : due[count]? = some turn) :
    left.call machine due count turn = right.call machine due count turn := by
  simp only [call, abreast.scene _ (Turn.opening_le isDue),
    abreast.scene count (Nat.le_refl count)]

/-- Runs on one platform with the same turns before them do the same in the next call. -/
theorem Abreast.sameCall
    (abreast : Abreast machine left right count)
    (samePlatform : left.platform = right.platform)
    (leftObeyed : left.Obeys machine due count)
    (rightObeyed : right.Obeys machine due count) :
    left.SameCall machine right count := by
  have scene := abreast.scene count (Nat.le_refl count)
  cases isDue : due[count]? with
  | some turn =>
      have leftAnswers := leftObeyed.answers turn abreast.leftRunning isDue
      have rightAnswers := rightObeyed.answers turn abreast.rightRunning isDue
      rw [abreast.call_eq isDue] at leftAnswers
      exact {
        answer := by rw [leftAnswers.answer, rightAnswers.answer, samePlatform]
        ran := by rw [leftAnswers.ran, rightAnswers.ran, samePlatform]
        journal := by rw [leftAnswers.journal, rightAnswers.journal,
          abreast.journal, samePlatform]
        scene := by rw [leftAnswers.scene, rightAnswers.scene, samePlatform]
        tally := by rw [leftAnswers.tally, rightAnswers.tally,
          abreast.tally, samePlatform] }
  | none =>
      have leftSilent := leftObeyed.exhausted abreast.leftRunning isDue
      have rightSilent := rightObeyed.exhausted abreast.rightRunning isDue
      exact {
        answer := by rw [leftSilent.answer, rightSilent.answer]
        ran := by rw [leftSilent.ran, rightSilent.ran]
        journal := by rw [leftSilent.journal, rightSilent.journal, abreast.journal]
        scene := by rw [leftSilent.scene, rightSilent.scene, scene]
        tally := by rw [leftSilent.tally, rightSilent.tally, abreast.tally] }

/--
A call that reports a failure halts a run that stops on failure,
and no other call does.
-/
theorem halted_succ_iff
    (obeyed : ∀ count, left.Obeys machine due count)
    (stops : left.options.stopOnFail = true)
    (running : (left.after machine count).halted = false) :
    (left.after machine (count + 1)).halted = true ↔
      ∃ report, left.answer machine count = some report ∧ report.outcome.Fails := by
  rcases answers_or_silent obeyed count with ⟨turn, -, answers⟩ | ⟨-, silent⟩
  · rw [answers.halted, answers.answer, stops, Bool.true_and, Outcome.isFailure_iff]
    simp
  · rw [silent.halted, silent.answer, running]
    simp

/-- A run that stops on failure is halted by the call that reports one. -/
theorem halted_of_fails
    (obeyed : ∀ count, left.Obeys machine due count)
    (stops : left.options.stopOnFail = true)
    {report : Report}
    (answered : left.answer machine count = some report)
    (fails : report.outcome.Fails) :
    (left.after machine (count + 1)).halted = true := by
  cases running : (left.after machine count).halted with
  | true =>
      -- a halted run answers nothing
      rw [answer, next_of_halted machine running] at answered
      cases answered
  | false =>
      exact (halted_succ_iff obeyed stops running).mpr ⟨report, answered, fails⟩

/--
Either nothing has failed and the runs are abreast, or something has and
the left one is halted.
-/
inductive Pace
    (machine : Machine World Label)
    (left right : Run World Label)
    (count : Nat) : Prop where
  | abreast
      (unharmed : ∀ report ∈ (right.pull machine count).1, ¬ report.outcome.Fails)
      (abreast : Abreast machine left right count)
  | halted
      (harmed : ∃ report ∈ (right.pull machine count).1, report.outcome.Fails)
      (halted : (left.after machine count).halted = true)

/-- Runs that are abreast are so after one more call, unless it reports a failure. -/
theorem Abreast.pace_succ
    (abreast : Abreast machine left right count)
    (same : left.SameCall machine right count)
    (obeyed : ∀ count, left.Obeys machine due count)
    (stops : left.options.stopOnFail = true)
    (rightRunning : (right.after machine (count + 1)).halted = false)
    (unharmed : ∀ report ∈ (right.pull machine count).1, ¬ report.outcome.Fails) :
    Pace machine left right (count + 1) := by
  have halts := halted_succ_iff obeyed stops abreast.leftRunning
  rw [same.answer] at halts
  cases halted : (left.after machine (count + 1)).halted with
  | true =>
      obtain ⟨report, answered, fails⟩ := halts.mp halted
      refine .halted ⟨report, ?_, fails⟩ halted
      simp [pull_reports_succ, answered]
  | false =>
      refine .abreast ?_ {
        leftRunning := halted
        rightRunning := rightRunning
        journal := same.journal
        tally := same.tally
        scene := ?_ }
      · rw [pull_reports_succ]
        refine List.forall_mem_append.mpr ⟨unharmed, ?_⟩
        intro report answered fails
        have isHalted := halts.mpr ⟨report, Option.mem_toList.mp answered, fails⟩
        rw [halted] at isHalted
        contradiction
      · intro earlier notAfter
        rcases Nat.le_succ_iff.mp notAfter with before | now
        · exact abreast.scene earlier before
        · rw [now]
          exact same.scene

/-- One more call of both runs keeps the pace. -/
theorem Pace.succ
    (pace : Pace machine left right count)
    (samePlatform : left.platform = right.platform)
    (leftObeyed : ∀ count, left.Obeys machine due count)
    (rightObeyed : ∀ count, right.Obeys machine due count)
    (stops : left.options.stopOnFail = true)
    (rightRunning : ∀ count, (right.after machine count).halted = false) :
    Pace machine left right (count + 1) := by
  cases pace with
  | abreast unharmed abreast =>
      have same :=
        abreast.sameCall samePlatform (leftObeyed count) (rightObeyed count)
      exact abreast.pace_succ same leftObeyed stops (rightRunning _) unharmed
  | halted harmed halted =>
      obtain ⟨report, member, fails⟩ := harmed
      refine .halted ⟨report, ?_, fails⟩ ?_
      · rw [pull_reports_succ]
        exact List.mem_append_left _ member
      · rw [after_of_halted halted (Nat.le_succ count)]
        exact halted

/-- Runs that are abreast in the beginning keep pace, call by call. -/
theorem Abreast.paces
    (abreast : Abreast machine left right 0)
    (samePlatform : left.platform = right.platform)
    (leftObeyed : ∀ count, left.Obeys machine due count)
    (rightObeyed : ∀ count, right.Obeys machine due count)
    (stops : left.options.stopOnFail = true)
    (rightRunning : ∀ count, (right.after machine count).halted = false)
    (count : Nat) :
    Pace machine left right count := by
  induction count with
  | zero => exact .abreast nofun abreast
  | succ count inductionHypothesis =>
      exact inductionHypothesis.succ samePlatform leftObeyed
        rightObeyed stops rightRunning

/-- What a run reports keeps pace with the reports of another up to the first failure. -/
theorem pull_eq_upToFailure
    (paces : ∀ count, Pace machine left right count)
    (samePlatform : left.platform = right.platform)
    (leftObeyed : ∀ count, left.Obeys machine due count)
    (rightObeyed : ∀ count, right.Obeys machine due count)
    (count : Nat) :
    (left.pull machine count).1 =
      Report.upToFailure (right.pull machine count).1 := by
  induction count with
  | zero => rfl
  | succ count inductionHypothesis =>
      rw [pull_reports_succ, pull_reports_succ, inductionHypothesis]
      cases paces count with
      | abreast unharmed abreast =>
          have same :=
            abreast.sameCall samePlatform (leftObeyed count) (rightObeyed count)
          rw [Report.upToFailure_append_of_none_fails unharmed,
            Report.upToFailure_toList,
            Report.upToFailure_of_none_fails unharmed, same.answer]
      | halted harmed halted =>
          rw [Report.upToFailure_append_of_fails harmed, answer,
            next_of_halted machine halted, Option.toList_none, List.append_nil]

/--
A run that stops on failure reports and does what the run that goes
on does, and then stops.
-/
theorem stopsAtFailure
    (machine : Machine World Label)
    (registry : Registry World Label)
    (platform : Platform)
    (filter : Option String)
    (scene : Scene World Label) :
    (Run.start registry platform ⟨filter, true⟩ scene).StopsAtFailure machine
      (Run.start registry platform ⟨filter, false⟩ scene) := by
  have obeyed := obeys machine registry platform ⟨filter, true⟩ scene
  -- the turns depend on the filter only, so both runs have the same ones before them
  have otherObeyed (count : Nat) :
      (Run.start registry platform ⟨filter, false⟩ scene).Obeys machine
        (registry.turns ⟨filter, true⟩) count :=
    obeys machine registry platform ⟨filter, false⟩ scene count
  have running := running_of_not_stopOnFail otherObeyed rfl rfl
  have abreast :
      Abreast machine (Run.start registry platform ⟨filter, true⟩ scene)
        (Run.start registry platform ⟨filter, false⟩ scene) 0 := by
    refine ⟨rfl, rfl, rfl, rfl, ?_⟩
    intro earlier notAfter
    obtain rfl := Nat.le_zero.mp notAfter
    rfl
  have paces := abreast.paces rfl obeyed otherObeyed rfl running
  exact {
    reports := pull_eq_upToFailure paces rfl obeyed otherObeyed
    complete := pull_eq_upToFailure paces rfl obeyed otherObeyed _
    together := by
      intro count unharmed
      cases paces count with
      | abreast _ abreast =>
          exact abreast.sameCall rfl (obeyed count) (otherObeyed count)
      | halted harmed _ =>
          obtain ⟨report, member, fails⟩ := harmed
          exact absurd fails (unharmed report member)
    stopped := by
      intro count later report answered fails after
      have halted := halted_of_fails obeyed rfl answered fails
      obtain ⟨silent, -⟩ := silent_of_ended obeyed (.inl halted) after
      exact ⟨silent.answer, silent.ran, after_of_halted halted after⟩ }

end Run

end Conformance
