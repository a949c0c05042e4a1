import Conformance.Outcome
import Conformance.Report.JsonLines
import Mathlib.Data.List.Basic

namespace Conformance

/-!
# Reading outcomes back

A report shows an outcome by its label and its detail.  The four causes of an error
begin in four different ways, and the kind of a raised error ends at the first colon
of its text, as no kind has a colon in its name.  So an outcome can be read back from
what a report shows of it, whatever its messages are.
-/

/-- What stands in a text behind its beginning. -/
def Text.behind? (beginning text : String) : Option String :=
  (text.toList.dropPrefix? beginning.toList).map String.ofList

/--
Reads an error: its kind stands in front of the first colon, and its
message behind a blank.
-/
def Raised.ofText? (text : String) : Option Raised :=
  match text.toList.dropWhile (· != ':') with
  | ':' :: ' ' :: message =>
      (ErrorKind.ofName? (String.ofList (text.toList.takeWhile (· != ':')))).map fun kind =>
        ⟨kind, String.ofList message⟩
  | _ => none

/-- Reads a cause by the way it begins. -/
def Cause.ofText? (text : String) : Option Cause :=
  ((Text.behind? "harness misuse: " text).map Cause.misuse).or <|
    (((Text.behind? "unexpected " text).bind Raised.ofText?).map Cause.unexpected).or <|
      ((Text.behind? "before_all hook failed: " text).map Cause.hook).or <|
        (Text.behind? "panicked: " text).map Cause.panic

/-- Reads an outcome from its label and its detail. -/
def Outcome.ofTexts? (label : String) : Option String → Option Outcome
  | none => if label = "PASSED" then some .passed else none
  | some text =>
      if label = "FAILED" then some (.failed text)
      else if label = "SKIPPED" then some (.skipped text)
      else if label = "ERROR" then (Cause.ofText? text).map .errored
      else none

namespace Fault

/-- What kind of trouble a fault is. -/
inductive Category where
  /-- The program did not behave as it was expected to. -/
  | mismatch
  /-- The scenario misused the harness. -/
  | misuse
  /-- The program raised an error that nobody expected. -/
  | unexpected
  deriving Repr, DecidableEq

/-- The category of a fault. -/
def category : Fault → Category
  | .assertion _ => .mismatch
  | .unmet _ => .mismatch
  | .misuse _ => .misuse
  | .raised _ => .unexpected

end Fault

/-- What can be told of outcomes and faults by the texts in reports. -/
structure TextsTell : Prop where
  reads_iff : ∀ {label detail} {outcome : Outcome},
    Outcome.ofTexts? label detail = some outcome ↔
      outcome.label = label ∧ outcome.detail = detail
  outcomes : ∀ {outcome other : Outcome},
    outcome.label = other.label → outcome.detail = other.detail → outcome = other
  causes : ∀ {cause other : Cause}, cause.text = other.text → cause = other
  errors : ∀ {error other : Raised}, error.text = other.text → error = other
  machines : ∀ {outcome other : Outcome},
    outcome.status = other.status → outcome.detail = other.detail → outcome = other
  faults : ∀ {fault other : Fault},
    fault.outcome.label = other.outcome.label →
    fault.outcome.detail = other.outcome.detail →
    fault.category = other.category

theorem Text.behind?_eq_some_iff {beginning text rest : String} :
    behind? beginning text = some rest ↔ text = beginning ++ rest := by
  simp only [behind?, Option.map_eq_some_iff,
    List.dropPrefix?_eq_some_iff, beq_iff_eq]
  constructor
  · rintro ⟨_, ⟨_, split, rfl⟩, rfl⟩
    rw [← String.toList_inj, split, String.toList_append, String.toList_ofList]
  · rintro rfl
    exact ⟨rest.toList, ⟨_, String.toList_append, rfl⟩, String.ofList_toList⟩

/-- Of two beginnings that do not begin one another, a text has only one. -/
theorem Text.behind?_eq_none
    (beginning other rest : String)
    (apart : ¬ beginning.toList <+: other.toList ∧ ¬ other.toList <+: beginning.toList) :
    behind? beginning (other ++ rest) = none := by
  rw [Option.eq_none_iff_forall_ne_some]
  intro found isBehind
  have same := congrArg String.toList (behind?_eq_some_iff.mp isBehind)
  rw [String.toList_append, String.toList_append] at same
  rcases List.prefix_or_prefix_of_prefix ⟨_, same.symm⟩ (List.prefix_append _ _) with
    within | within
  · exact apart.1 within
  · exact apart.2 within

namespace ErrorKind

theorem ofName?_eq_some_iff {spelling : String} {kind : ErrorKind} :
    ofName? spelling = some kind ↔ kind.name = spelling := by
  constructor
  · intro found
    simpa using List.find?_some found
  · rintro rfl
    exact ofName?_name kind

theorem noColon_name (kind : ErrorKind) :
    ∀ letter ∈ kind.name.toList, (letter != ':') = true := by
  rw [← List.all_eq_true]
  cases kind <;> rfl

end ErrorKind

/-- The text of an error is read as this error, and no other text is. -/
theorem Raised.ofText?_eq_some_iff {text : String} {error : Raised} :
    ofText? text = some error ↔ error.text = text := by
  constructor
  · intro isRead
    unfold ofText? at isRead
    split at isRead
    · next message behind =>
        obtain ⟨kind, named, rfl⟩ := Option.map_eq_some_iff.mp isRead
        have isName := ErrorKind.ofName?_eq_some_iff.mp named
        rw [← String.toList_inj, Raised.text, isName, String.toList_append,
          String.toList_append, String.toList_ofList, String.toList_ofList]
        have whole :
            text.toList.takeWhile (· != ':') ++ text.toList.dropWhile (· != ':') =
              text.toList :=
          List.takeWhile_append_dropWhile
        rw [behind] at whole
        refine Eq.trans ?_ whole
        rw [List.append_assoc, String.toList_ofList]
        rfl
    · cases isRead
  · rintro rfl
    obtain ⟨kind, message⟩ := error
    have shape :
        (Raised.text ⟨kind, message⟩).toList =
          kind.name.toList ++ ':' :: ' ' :: message.toList := by
      rw [Raised.text, String.toList_append, String.toList_append, List.append_assoc]
      rfl
    have noColon := kind.noColon_name
    simp [ofText?, shape, List.takeWhile_append_of_pos noColon,
      List.dropWhile_append_of_pos noColon, ErrorKind.ofName?_name]

/-- The text of a cause is read as this cause, and no other text is. -/
theorem Cause.ofText?_eq_some_iff {text : String} {cause : Cause} :
    ofText? text = some cause ↔ cause.text = text := by
  constructor
  · intro isRead
    simp only [ofText?, Option.or_eq_some_iff, Option.map_eq_some_iff,
      Option.bind_eq_some_iff, Text.behind?_eq_some_iff,
      Raised.ofText?_eq_some_iff] at isRead
    rcases isRead with
      ⟨message, rfl, rfl⟩ | ⟨-, ⟨error, ⟨_, rfl, rfl⟩, rfl⟩ | ⟨-, ⟨message, rfl, rfl⟩ |
        ⟨-, message, rfl, rfl⟩⟩⟩ <;>
      rfl
  · rintro rfl
    have own (beginning rest : String) :
      Text.behind? beginning (beginning ++ rest) = some rest :=
      Text.behind?_eq_some_iff.mpr rfl
    cases cause with
    | misuse message =>
        change ofText? ("harness misuse: " ++ message) = some (.misuse message)
        rw [ofText?, own "harness misuse: " message]
        rfl
    | unexpected error =>
        have noMisuse :=
          Text.behind?_eq_none "harness misuse: " "unexpected " error.text (by decide)
        change ofText? ("unexpected " ++ error.text) = some (.unexpected error)
        rw [ofText?, noMisuse, own "unexpected " error.text, Option.bind_some,
          Raised.ofText?_eq_some_iff.mpr (Eq.refl error.text)]
        rfl
    | hook message =>
        have noMisuse :=
          Text.behind?_eq_none "harness misuse: "
            "before_all hook failed: " message (by decide)
        have noError :=
          Text.behind?_eq_none "unexpected "
            "before_all hook failed: " message (by decide)
        change ofText? ("before_all hook failed: " ++ message) = some (.hook message)
        rw [ofText?, noMisuse, noError, own "before_all hook failed: " message]
        rfl
    | panic message =>
        have noMisuse :=
          Text.behind?_eq_none "harness misuse: " "panicked: " message (by decide)
        have noError :=
          Text.behind?_eq_none "unexpected " "panicked: " message (by decide)
        have noHook :=
          Text.behind?_eq_none "before_all hook failed: " "panicked: " message (by decide)
        change ofText? ("panicked: " ++ message) = some (.panic message)
        rw [ofText?, noMisuse, noError, noHook, own "panicked: " message]
        rfl

/-- An outcome is read from its own label and detail, and from no others. -/
theorem Outcome.ofTexts?_eq_some_iff
    {label : String}
    {detail : Option String}
    {outcome : Outcome} :
    ofTexts? label detail = some outcome ↔
      outcome.label = label ∧ outcome.detail = detail := by
  constructor
  · intro isRead
    cases detail with
    | none =>
        simp only [ofTexts?, Option.ite_none_right_eq_some,
          Option.some.injEq] at isRead
        obtain ⟨rfl, rfl⟩ := isRead
        exact ⟨rfl, rfl⟩
    | some text =>
        simp only [ofTexts?] at isRead
        split at isRead
        · next isFailed =>
            cases isRead
            exact ⟨isFailed.symm, rfl⟩
        split at isRead
        · next isSkipped =>
            cases isRead
            exact ⟨isSkipped.symm, rfl⟩
        split at isRead
        · next isError =>
            obtain ⟨cause, read, rfl⟩ := Option.map_eq_some_iff.mp isRead
            exact ⟨isError.symm, congrArg some (Cause.ofText?_eq_some_iff.mp read)⟩
        · cases isRead
  · rintro ⟨rfl, rfl⟩
    cases outcome with
    | passed | failed | skipped => rfl
    | errored cause =>
        have read := Cause.ofText?_eq_some_iff.mpr (Eq.refl cause.text)
        exact congrArg (Option.map Outcome.errored) read

/-- Label and detail tell outcomes apart. -/
theorem Outcome.eq_of_texts
    {outcome other : Outcome}
    (sameLabel : outcome.label = other.label)
    (sameDetail : outcome.detail = other.detail) :
    outcome = other := by
  have readBack := Outcome.ofTexts?_eq_some_iff.mpr ⟨sameLabel, sameDetail⟩
  have readOther :=
    Outcome.ofTexts?_eq_some_iff.mpr ⟨Eq.refl other.label, Eq.refl other.detail⟩
  exact Option.some.inj (readBack.symm.trans readOther)

/-- The words for outcomes in the reports for machines tell as much as their labels do. -/
theorem Outcome.label_eq_of_status
    {outcome other : Outcome}
    (same : outcome.status = other.status) :
    outcome.label = other.label := by
  cases outcome <;> cases other <;> simp [status, label] at same ⊢

/-- The outcome of a fault tells its category. -/
theorem Fault.category_eq_of_outcome
    {fault other : Fault}
    (same : fault.outcome = other.outcome) :
    fault.category = other.category := by
  cases fault <;> cases other <;> simp [outcome, category] at same ⊢

/--
Every outcome can be read back from its label and its detail, and with it the message
and, of an unexpected error, the kind; no message makes one outcome read as another.
-/
theorem Outcome.textsTell : TextsTell where
  reads_iff := Outcome.ofTexts?_eq_some_iff
  outcomes := Outcome.eq_of_texts
  causes := fun same =>
    Function.IsPartialInv.injective (fun _ _ => Cause.ofText?_eq_some_iff) same
  errors := fun same =>
    Function.IsPartialInv.injective (fun _ _ => Raised.ofText?_eq_some_iff) same
  machines :=
    fun sameStatus => Outcome.eq_of_texts (Outcome.label_eq_of_status sameStatus)
  faults := fun sameLabel sameDetail =>
    Fault.category_eq_of_outcome (Outcome.eq_of_texts sameLabel sameDetail)

/-- A message that imitates another cause and holds colons is still read as it is. -/
example :
    Outcome.ofTexts? "ERROR" (some "unexpected KeyError: panicked: key not found: x") =
      some (.errored (.unexpected ⟨.keyError, "panicked: key not found: x"⟩)) := by
  decide +kernel

end Conformance
