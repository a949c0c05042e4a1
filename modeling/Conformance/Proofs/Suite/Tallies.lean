import Conformance.Proofs.Suite.Calls

namespace Conformance

/-!
# What a tally counts

After any number of calls the tally of a run counts the reports that these calls
answered: each of them once, under the class of its outcome.
-/

/--
The outcomes that count against a run: the system failed, or
the scenario went wrong.
-/
inductive Outcome.Fails : Outcome → Prop where
  | failed (message : String) : Fails (.failed message)
  | errored (cause : Cause) : Fails (.errored cause)

theorem Outcome.isFailure_iff {outcome : Outcome} :
    outcome.isFailure = true ↔ outcome.Fails := by
  cases outcome with
  | passed => exact ⟨nofun, nofun⟩
  | failed message => exact ⟨fun _ => .failed message, fun _ => rfl⟩
  | skipped reason => exact ⟨nofun, nofun⟩
  | errored cause => exact ⟨fun _ => .errored cause, fun _ => rfl⟩

theorem Outcome.fails_iff {outcome : Outcome} :
    outcome.Fails ↔
      (outcome matches .failed _) = true ∨ (outcome matches .errored _) = true := by
  rw [← isFailure_iff]
  cases outcome <;> simp [isFailure]

/-- A tally counts every report of a list under the class of its outcome. -/
structure Tally.Counts (tally : Tally) (reports : List Report) : Prop where
  passed : tally.passed = reports.countP (·.outcome matches .passed)
  failed : tally.failed = reports.countP (·.outcome matches .failed _)
  skipped : tally.skipped = reports.countP (·.outcome matches .skipped _)
  errored : tally.errored = reports.countP (·.outcome matches .errored _)

namespace Tally.Counts

variable {tally : Tally} {reports : List Report}

theorem empty : Tally.empty.Counts [] :=
  ⟨rfl, rfl, rfl, rfl⟩

/-- Recording the outcome of one more report counts this report, too. -/
theorem record (counts : tally.Counts reports) (report : Report) :
    (tally.record report.outcome).Counts (reports ++ [report]) := by
  obtain ⟨passed, failed, skipped, errored⟩ := counts
  cases outcome : report.outcome <;>
    constructor <;>
    simp [Tally.record, List.countP_append, outcome, passed, failed,
      skipped, errored]

/-- Every report belongs to one class, so the counts add up to their number. -/
theorem total (counts : tally.Counts reports) : tally.total = reports.length := by
  rw [Tally.total, counts.passed, counts.failed, counts.skipped, counts.errored]
  clear counts
  induction reports with
  | nil => rfl
  | cons report rest inductionHypothesis =>
      rw [List.length_cons, ← inductionHypothesis]
      cases outcome : report.outcome <;> simp [outcome] <;> omega

/-- Nothing that fails has been counted exactly when a tally is a success. -/
theorem isSuccess_iff (counts : tally.Counts reports) :
    tally.isSuccess = true ↔ ∀ report ∈ reports, ¬ report.outcome.Fails := by
  simp only [isSuccess, counts.failed, counts.errored, Bool.and_eq_true, beq_iff_eq,
    List.countP_eq_zero]
  constructor
  · rintro ⟨noneFailed, noneErrored⟩ report member fails
    exact (Outcome.fails_iff.mp fails).elim (noneFailed report member)
      (noneErrored report member)
  · intro noneFails
    exact
      ⟨fun report member failed =>
        noneFails report member (Outcome.fails_iff.mpr (.inl failed)),
        fun report member errored =>
          noneFails report member (Outcome.fails_iff.mpr (.inr errored))⟩

end Tally.Counts

namespace Run

variable {World Label : Type} {machine : Machine World Label}
variable {run : Run World Label} {due : List (Turn World Label)}

/-- After any number of calls a tally counts the reports that were pulled. -/
theorem tally_counts
    (obeyed : ∀ count, run.Obeys machine due count)
    (fresh : run.tally = .empty)
    (count : Nat) :
    (run.after machine count).tally.Counts (run.pull machine count).1 := by
  induction count with
  | zero =>
      rw [after_zero, fresh]
      exact .empty
  | succ count inductionHypothesis =>
      rw [pull_reports_succ]
      rcases answers_or_silent obeyed count with ⟨turn, -, answers⟩ | ⟨-, silent⟩
      · rw [answers.answer, answers.tally]
        exact inductionHypothesis.record _
      · rw [silent.answer, silent.tally, Option.toList_none, List.append_nil]
        exact inductionHypothesis

end Run

end Conformance
