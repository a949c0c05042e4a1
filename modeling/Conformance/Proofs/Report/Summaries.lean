import Conformance.Proofs.Report.Failures
import Conformance.Proofs.Text.Lexemes
import Mathlib.Data.List.Nodup
import Mathlib.Data.List.TakeWhile

namespace Conformance

/-!
# Reading summaries back

A summary names the classes that occurred and leaves out the others.  A number stands
in it only in front of the word for a class, so all four counts can be read back from
its words; a class that is not named has the count zero.  The line that concludes a run
on the console has a few more words around the summary, but no other number.
-/

namespace Text

/-- The words of a text, between its blanks. -/
def words (text : String) : List String :=
  (text.toList.splitOn ' ').map String.ofList

/-- Words without blanks that are joined by blanks are the words of the text they make. -/
theorem words_intercalate
    {parts : List String}
    (unbroken : ∀ part ∈ parts, ' ' ∉ part.toList)
    (nonempty : parts ≠ []) :
    words (" ".intercalate parts) = parts := by
  have blank : " ".toList = [' '] := rfl
  have split :
      ([' '].intercalate (parts.map String.toList)).splitOn ' ' =
        parts.map String.toList := by
    refine List.splitOn_intercalate ' ' ?_ (mt List.map_eq_nil_iff.mp nonempty)
    intro characters member
    obtain ⟨part, isPart, rfl⟩ := List.mem_map.mp member
    exact unbroken part isPart
  rw [words, String.toList_intercalate, blank, split, List.map_map]
  simp only [Function.comp_def, String.ofList_toList, List.map_id']

end Text

namespace Tally

/--
The counts that words tell: a number counts what the next word names, up to a comma.
-/
def told : List String → List (String × Nat)
  | number :: word :: rest =>
      match Text.number? number with
      | some count =>
          (String.ofList (word.toList.takeWhile (· != ',')), count) :: told rest
      | none => told (word :: rest)
  | _ => []

/-- The tally with these counts; a class without a count has not occurred. -/
def ofCounts (counts : List (String × Nat)) : Tally where
  passed := (counts.lookup "passed").getD 0
  failed := (counts.lookup "failed").getD 0
  skipped := (counts.lookup "skipped").getD 0
  errored := (counts.lookup "errored").getD 0

/-- Reads the tally that a text tells. -/
def ofText (text : String) : Tally :=
  ofCounts (told (Text.words text))

/-- The count of each class under its name. -/
def counts (tally : Tally) : List (Nat × String) :=
  [(tally.passed, "passed"), (tally.failed, "failed"), (tally.skipped, "skipped"),
    (tally.errored, "errored")]

/-- The counts of the classes that occurred. -/
def occurring (tally : Tally) : List (Nat × String) :=
  tally.counts.filter fun part => decide (0 < part.1)

/-- The words of a summary of these counts. -/
def wordsOf : List (Nat × String) → List String
  | [] => ["no", "scenarios", "ran"]
  | [(count, word)] => [toString count, word]
  | (count, word) :: next :: rest =>
      toString count :: (word ++ ",") :: wordsOf (next :: rest)

/--
What a summary tells of its tally.  Every count can be read from it, and from the line
that concludes a run in any console and after any time.
-/
structure SummaryTells (tally : Tally) : Prop where
  read : ofText tally.summary = tally
  concluded : ∀ (console : Console) (duration : Duration),
    ofText (console.conclusion tally duration) = tally
  apart : ∀ other : Tally, tally.summary = other.summary → tally = other
  nothing_iff :
    tally.summary = "no scenarios ran" ↔
      tally.passed = 0 ∧ tally.failed = 0 ∧ tally.skipped = 0 ∧ tally.errored = 0

section Words

theorem wordsOf_ne_nil (parts : List (Nat × String)) : wordsOf parts ≠ [] := by
  cases parts with
  | nil => exact List.cons_ne_nil _ _
  | cons part rest =>
      cases rest with
      | nil => exact List.cons_ne_nil _ _
      | cons next others => exact List.cons_ne_nil _ _

theorem intercalate_wordsOf {parts : List (Nat × String)} (occurred : parts ≠ []) :
    ", ".intercalate (parts.map fun part => toString part.1 ++ " " ++ part.2) =
      " ".intercalate (wordsOf parts) := by
  induction parts with
  | nil => contradiction
  | cons part rest inductionHypothesis =>
      obtain ⟨count, word⟩ := part
      cases rest with
      | nil => simp [wordsOf]
      | cons next others =>
          have later := inductionHypothesis (List.cons_ne_nil next others)
          rw [List.map_cons] at later
          rw [List.map_cons, List.map_cons, String.intercalate_cons_cons, later,
            wordsOf, String.intercalate_cons_cons,
            String.intercalate_cons_of_ne_nil (wordsOf_ne_nil (next :: others))]
          simp only [String.append_assoc]
          rfl

theorem summary_eq (tally : Tally) :
    tally.summary = " ".intercalate (wordsOf tally.occurring) := by
  have parts :
      tally.parts = tally.occurring.map fun part =>
        toString part.1 ++ " " ++ part.2 := rfl
  rw [summary, parts]
  cases occurred : tally.occurring with
  | nil => rfl
  | cons part rest => exact intercalate_wordsOf (List.cons_ne_nil part rest)

/-- A class is named in one word without a comma. -/
theorem plain_of_mem_counts
    {tally : Tally}
    {part : Nat × String}
    (member : part ∈ tally.counts) :
    ' ' ∉ part.2.toList ∧ ',' ∉ part.2.toList := by
  have names :
      ∀ word ∈ ["passed", "failed", "skipped", "errored"],
        ' ' ∉ word.toList ∧ ',' ∉ word.toList := by
    decide
  exact names part.2 (List.mem_map_of_mem member)

theorem blank_not_mem_toString (number : Nat) : ' ' ∉ (toString number).toList := by
  intro member
  cases Console.isDigit_of_mem_toString member

theorem unbroken_wordsOf
    {parts : List (Nat × String)}
    (plain : ∀ part ∈ parts, ' ' ∉ part.2.toList) :
    ∀ word ∈ wordsOf parts, ' ' ∉ word.toList := by
  fun_induction wordsOf parts with
  | case1 => decide
  | case2 count word =>
      simp only [List.forall_mem_cons] at plain ⊢
      exact ⟨blank_not_mem_toString count, plain.1, by simp⟩
  | case3 count word next rest inductionHypothesis =>
      rw [List.forall_mem_cons] at plain
      simp only [List.forall_mem_cons, String.toList_append, List.mem_append, not_or]
      exact ⟨blank_not_mem_toString count, ⟨plain.1, by decide⟩,
        inductionHypothesis plain.2⟩

end Words

section Reading

/-- A word that is no number tells nothing. -/
theorem told_of_no_number
    {word : String}
    (noNumber : Text.number? word = none)
    (rest : List String) :
    told (word :: rest) = told rest := by
  cases rest with
  | nil => rfl
  | cons next others => rw [told, noNumber]

theorem told_append_of_no_numbers
    {words : List String}
    (noNumbers : ∀ word ∈ words, Text.number? word = none)
    (rest : List String) :
    told (words ++ rest) = told rest := by
  induction words with
  | nil => rfl
  | cons word words inductionHypothesis =>
      rw [List.forall_mem_cons] at noNumbers
      rw [List.cons_append, told_of_no_number noNumbers.1,
        inductionHypothesis noNumbers.2]

theorem told_count
    {word named : String}
    (names : String.ofList (word.toList.takeWhile (· != ',')) = named)
    (count : Nat)
    (rest : List String) :
    told (toString count :: word :: rest) = (named, count) :: told rest := by
  have isCount : Text.number? (toString count) = some count :=
    Text.number?_repr count
  rw [told, isCount]
  simp only [names]

/-- The words of a summary tell its counts, whatever words follow. -/
theorem told_wordsOf
    {parts : List (Nat × String)}
    (plain : ∀ part ∈ parts, ',' ∉ part.2.toList)
    (rest : List String) :
    told (wordsOf parts ++ rest) = parts.map Prod.swap ++ told rest := by
  have upToComma {word : String} (noComma : ',' ∉ word.toList) :
      ∀ letter ∈ word.toList, (letter != ',') = true := by
    intro letter member
    exact bne_iff_ne.mpr (ne_of_mem_of_not_mem member noComma)
  fun_induction wordsOf parts with
  | case1 =>
      have noNumbers :
          Text.number? "no" = none ∧ Text.number? "scenarios" = none ∧
            Text.number? "ran" = none := by
        decide
      simp only [List.cons_append, List.nil_append, told_of_no_number noNumbers.1,
        told_of_no_number noNumbers.2.1,
          told_of_no_number noNumbers.2.2, List.map_nil]
  | case2 count word =>
      have kept :=
        List.takeWhile_eq_self_iff.mpr (upToComma (plain _ List.mem_cons_self))
      exact told_count (by rw [kept, String.ofList_toList]) count rest
  | case3 count word next others inductionHypothesis =>
      -- only the word of the last part has no comma behind it
      rw [List.forall_mem_cons] at plain
      have kept : (word ++ ",").toList.takeWhile (· != ',') = word.toList := by
        rw [String.toList_append, List.takeWhile_append_of_pos (upToComma plain.1)]
        exact List.append_nil _
      have toldFirst :=
        told_count (by rw [kept, String.ofList_toList]) count
          (wordsOf (next :: others) ++ rest)
      rw [List.cons_append, List.cons_append, toldFirst, inductionHypothesis plain.2]
      rfl

/-- Among the counts that are not zero, a class that is missing has the count zero. -/
theorem lookup_positive
    {counts : List (Nat × String)}
    (distinct : (counts.map Prod.snd).Nodup)
    {count : Nat}
    {word : String}
    (member : (count, word) ∈ counts) :
    (((counts.filter fun part => decide (0 < part.1)).map Prod.swap).lookup word).getD 0 =
      count := by
  have only : ∀ other, (other, word) ∈ counts → other = count := by
    intro other isOther
    exact congrArg Prod.fst (List.inj_on_of_nodup_map distinct isOther member rfl)
  cases found :
      ((counts.filter fun part => decide (0 < part.1)).map Prod.swap).lookup word with
  | some other =>
      obtain ⟨before, after, shape, -⟩ := List.lookup_eq_some_iff.mp found
      have told : (word, other) ∈
          (counts.filter fun part => decide (0 < part.1)).map Prod.swap := by
        rw [shape]
        exact List.mem_append_right _ List.mem_cons_self
      obtain ⟨part, isPart, same⟩ := List.mem_map.mp told
      obtain ⟨rfl, rfl⟩ := Prod.mk.inj same
      exact only part.1 (List.mem_of_mem_filter isPart)
  | none =>
      -- a count that was left out cannot be positive
      by_contra notZero
      have positive : 0 < count := Nat.pos_of_ne_zero (Ne.symm notZero)
      have kept : (count, word) ∈ counts.filter fun part => decide (0 < part.1) :=
        List.mem_filter.mpr ⟨member, decide_eq_true positive⟩
      have differs := List.lookup_eq_none_iff.mp found _ (List.mem_map_of_mem kept)
      exact bne_iff_ne.mp differs rfl

theorem ofCounts_occurring (tally : Tally) :
    ofCounts (tally.occurring.map Prod.swap) = tally := by
  have distinct : (tally.counts.map Prod.snd).Nodup := by
    have names : ["passed", "failed", "skipped", "errored"].Nodup := by decide
    exact names
  have passed : (tally.passed, "passed") ∈ tally.counts := by simp [counts]
  have failed : (tally.failed, "failed") ∈ tally.counts := by simp [counts]
  have skipped : (tally.skipped, "skipped") ∈ tally.counts := by simp [counts]
  have errored : (tally.errored, "errored") ∈ tally.counts := by simp [counts]
  rw [ofCounts, occurring, lookup_positive distinct passed,
    lookup_positive distinct failed, lookup_positive distinct skipped,
    lookup_positive distinct errored]

/--
A summary tells its tally, with any words in front of it and
behind it that tell nothing.
-/
theorem ofText_around
    (before after : List String)
    (unbroken : ∀ word ∈ before ++ after, ' ' ∉ word.toList)
    (noNumbers : ∀ word ∈ before ++ after, Text.number? word = none)
    (tally : Tally) :
    ofText (" ".intercalate (before ++ (wordsOf tally.occurring ++ after))) = tally := by
  have plain {part : Nat × String} (member : part ∈ tally.occurring) :=
    plain_of_mem_counts (List.mem_of_mem_filter member)
  rw [List.forall_mem_append] at unbroken noNumbers
  have allUnbroken :
      ∀ word ∈ before ++ (wordsOf tally.occurring ++ after), ' ' ∉ word.toList := by
    simp only [List.forall_mem_append]
    exact ⟨unbroken.1,
      unbroken_wordsOf fun part member => (plain member).1, unbroken.2⟩
  have toldAfter : told after = [] := by
    have nothing := told_append_of_no_numbers noNumbers.2 []
    rwa [List.append_nil] at nothing
  rw [ofText, Text.words_intercalate allUnbroken (by simp [wordsOf_ne_nil]),
    told_append_of_no_numbers noNumbers.1,
    told_wordsOf fun part member => (plain member).2,
    toldAfter, List.append_nil, ofCounts_occurring]

theorem ofText_summary (tally : Tally) : ofText tally.summary = tally := by
  have read := ofText_around [] [] (by simp) (by simp) tally
  rwa [List.nil_append, List.append_nil, ← summary_eq] at read

/--
A concluding line tells its tally, whatever is written
directly before and behind it.
-/
theorem ofText_line
    (front back : String)
    (unbrokenFront : ' ' ∉ front.toList)
    (unbrokenBack : ' ' ∉ back.toList)
    (tally : Tally)
    (duration : Duration) :
    ofText
        (front ++
          ("====== " ++ tally.summary ++ " in " ++ duration.secondsText ++ "s ======") ++
          back) =
      tally := by
  have shape :
      front ++ ("====== " ++ tally.summary ++ " in " ++
        duration.secondsText ++ "s ======") ++
          back =
        " ".intercalate
          ([front ++ "======"] ++
            (wordsOf tally.occurring ++
              ["in", duration.secondsText ++ "s", "======" ++ back])) := by
    rw [String.intercalate_append_of_ne_nil (List.cons_ne_nil _ _) (by simp),
      String.intercalate_append_of_ne_nil (wordsOf_ne_nil _)
        (List.cons_ne_nil _ _), ← summary_eq]
    simp only [String.intercalate_singleton, String.intercalate_cons_cons]
    simp [← String.toList_inj]
  have unbrokenSeconds : ' ' ∉ duration.secondsText.toList := by
    intro member
    rcases Console.mem_of_mem_secondsText member with isDigit | isPoint
    · cases isDigit
    · cases isPoint
  rw [shape]
  refine ofText_around _ _ ?_ ?_ tally
  · simp [unbrokenFront, unbrokenBack, unbrokenSeconds]
  · have noFront : Text.number? (front ++ "======") = none :=
      Text.number?_eq_none '=' (by simp) rfl
    have noSeconds : Text.number? (duration.secondsText ++ "s") = none :=
      Text.number?_eq_none 's' (by simp) rfl
    have noBack : Text.number? ("======" ++ back) = none :=
      Text.number?_eq_none '=' (by simp) rfl
    have noIn : Text.number? "in" = none := by decide
    simp [noFront, noIn, noSeconds, noBack]

/-- The line that concludes a run tells its tally, in colours or without. -/
theorem ofText_conclusion
    (console : Console)
    (tally : Tally)
    (duration : Duration) :
    ofText (console.conclusion tally duration) = tally := by
  unfold Console.conclusion Console.paint
  cases console.coloured with
  | false =>
      have line := ofText_line "" "\n" (by decide) (by decide) tally duration
      rwa [String.empty_append] at line
  | true =>
      have unbroken : ' ' ∉ (Colour.ofTally tally).opening.toList := by
        cases Colour.ofTally tally <;> decide
      -- the colours stand without a blank at the first and at the last word of the line
      have line :=
        ofText_line _ (Colour.closing ++ "\n") unbroken (by decide) tally duration
      rwa [← String.append_assoc] at line

end Reading

/-- A summary tells all counts of its tally, the zero ones among them. -/
theorem summary_tells (tally : Tally) : tally.SummaryTells where
  read := ofText_summary tally
  concluded console duration := ofText_conclusion console tally duration
  apart _ same := Function.LeftInverse.injective ofText_summary same
  nothing_iff := by
    constructor
    · intro nothing
      have isEmpty : tally = .empty :=
        Function.LeftInverse.injective ofText_summary nothing
      rw [isEmpty]
      exact ⟨rfl, rfl, rfl, rfl⟩
    · obtain ⟨passed, failed, skipped, errored⟩ := tally
      rintro ⟨rfl, rfl, rfl, rfl⟩
      rfl

/-- The last line of a coloured run, in which two classes have not occurred. -/
example :
    ofText "\x1b[31m====== 3 passed, 10 errored in 0.25s ======\x1b[0m\n" =
      ⟨3, 0, 0, 10⟩ := by
  decide +kernel

end Tally

end Conformance
