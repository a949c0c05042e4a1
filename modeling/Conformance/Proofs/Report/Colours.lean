import Conformance.Proofs.Report.Failures
import Mathlib.Data.List.Forall2

namespace Conformance

/-!
# Colours in console reports

A console in colours writes what a console without them writes, and nothing but
sequences for colours in between.  To say so, a text is read into pieces: a sequence
that turns a colour on or off is one piece, and any other character is one.  As long as
no text in the events holds an escape, every piece is read as it was written, the
letters are those of the report without colours, and every colour is closed before the
next one opens and before the event is over.
-/

/-- A piece of a text in colours. -/
inductive Piece where
  | letter (character : Char)
  | opening (colour : Colour)
  | closing
  deriving Repr, DecidableEq

namespace Piece

/-- Reads a text from left to right into sequences for colours and other characters. -/
def ofText : List Char → List Piece
  | [] => []
  | '\x1b' :: '[' :: '3' :: '1' :: 'm' :: rest => .opening .red :: ofText rest
  | '\x1b' :: '[' :: '3' :: '2' :: 'm' :: rest => .opening .green :: ofText rest
  | '\x1b' :: '[' :: '3' :: '3' :: 'm' :: rest => .opening .yellow :: ofText rest
  | '\x1b' :: '[' :: '0' :: 'm' :: rest => .closing :: ofText rest
  | character :: rest => .letter character :: ofText rest

/-- The characters of a piece. -/
def text : Piece → List Char
  | .letter character => [character]
  | .opening colour => colour.opening.toList
  | .closing => Colour.closing.toList

/-- The character that a piece shows, if it is not a sequence for a colour. -/
def letter? : Piece → Option Char
  | .letter character => some character
  | _ => none

/-- Every colour is closed before the next one opens, and none is open at the end. -/
inductive Closed : List Piece → Prop where
  | nil : Closed []
  | letter {rest : List Piece} (character : Char) (later : Closed rest) :
      Closed (.letter character :: rest)
  | painted {rest : List Piece} (colour : Colour) (letters : List Char)
    (later : Closed rest) :
      Closed (.opening colour :: (letters.map .letter ++ .closing :: rest))

end Piece

namespace Text

/-- A text without the sequences for colours. -/
def withoutColours (text : String) : String :=
  String.ofList ((Piece.ofText text.toList).filterMap Piece.letter?)

/-- A text that holds no escape. -/
def Escapeless (text : String) : Prop :=
  '\x1b' ∉ text.toList

instance (text : String) : Decidable (Escapeless text) :=
  inferInstanceAs (Decidable ('\x1b' ∉ text.toList))

end Text

/--
Whatever follows a text in colours, it is read into closed pieces
that show a plain text.
-/
structure Shows (painted plain : String) : Prop where
  escapeless : Text.Escapeless plain
  read : ∃ pieces,
    (∀ rest, Piece.ofText (painted.toList ++ rest) = pieces ++ Piece.ofText rest) ∧
      Piece.Closed pieces ∧
      pieces.filterMap Piece.letter? = plain.toList

namespace Outcome

/-- The messages that an outcome was given. -/
def messages : Outcome → List String
  | .passed => []
  | .failed message => [message]
  | .skipped reason => [reason]
  | .errored (.misuse message) => [message]
  | .errored (.unexpected error) => [error.message]
  | .errored (.hook message) => [message]
  | .errored (.panic message) => [message]

end Outcome

namespace Event

/-- The texts that an event was given. -/
def texts : Event → List String
  | .started platform => [platform.id]
  | .reported report _ => report.group :: report.scenario :: report.outcome.messages
  | .completed _ _ => []

end Event

namespace Piece

theorem ofText_letter
    {character : Char}
    (noEscape : character ≠ '\x1b')
    (rest : List Char) :
    ofText (character :: rest) = .letter character :: ofText rest := by
  rw [ofText.eq_def]
  split <;> simp_all

theorem ofText_letters
    {letters : List Char}
    (noEscape : '\x1b' ∉ letters)
    (rest : List Char) :
    ofText (letters ++ rest) = letters.map .letter ++ ofText rest := by
  induction letters with
  | nil => rfl
  | cons letter others inductionHypothesis =>
      rw [List.mem_cons, not_or] at noEscape
      rw [List.cons_append, ofText_letter (Ne.symm noEscape.1),
        inductionHypothesis noEscape.2]
      rfl

theorem ofText_opening (colour : Colour) (rest : List Char) :
    ofText (colour.opening.toList ++ rest) = .opening colour :: ofText rest := by
  cases colour <;> rfl

theorem ofText_closing (rest : List Char) :
    ofText (Colour.closing.toList ++ rest) = .closing :: ofText rest :=
  rfl

/-- Reading a text into pieces loses nothing. -/
theorem flatMap_text_ofText (text : List Char) :
    (ofText text).flatMap Piece.text = text := by
  fun_induction ofText text <;> simp_all [Piece.text] <;> rfl

theorem letters_map_letter (letters : List Char) :
    (letters.map Piece.letter).filterMap letter? = letters := by
  rw [List.filterMap_map]
  exact List.filterMap_some

theorem Closed.letters (letters : List Char) : Closed (letters.map .letter) := by
  induction letters with
  | nil => exact .nil
  | cons letter others inductionHypothesis =>
      exact .letter letter inductionHypothesis

theorem Closed.append
    {first second : List Piece}
    (closedFirst : Closed first)
    (closedSecond : Closed second) :
    Closed (first ++ second) := by
  induction closedFirst with
  | nil => exact closedSecond
  | letter character _ inductionHypothesis =>
      exact .letter character inductionHypothesis
  | painted colour letters _ inductionHypothesis =>
      rw [List.cons_append, List.append_assoc]
      exact .painted colour letters inductionHypothesis

end Piece

namespace Text.Escapeless

theorem append
    {first second : String}
    (escapelessFirst : Escapeless first)
    (escapelessSecond : Escapeless second) :
    Escapeless (first ++ second) := by
  rw [Escapeless, String.toList_append, List.mem_append, not_or]
  exact ⟨escapelessFirst, escapelessSecond⟩

theorem summary (tally : Tally) : Escapeless tally.summary := by
  intro member
  rcases Console.mem_of_mem_summary member with isDigit | inWords
  · cases isDigit
  · revert inWords
    decide

theorem secondsText (duration : Duration) : Escapeless duration.secondsText := by
  intro member
  rcases Console.mem_of_mem_secondsText member with isDigit | isPoint
  · cases isDigit
  · cases isPoint

theorem number (number : Nat) : Escapeless (toString number) := by
  intro member
  cases Console.isDigit_of_mem_toString member

theorem label (outcome : Outcome) : Escapeless outcome.label := by
  cases outcome <;> simp only [Outcome.label] <;> decide

theorem mark (outcome : Outcome) : Escapeless (Console.mark outcome) := by
  cases outcome <;> simp only [Console.mark] <;> decide

theorem kindName (kind : ErrorKind) : Escapeless kind.name := by
  cases kind <;> decide

theorem detail
    {outcome : Outcome}
    {text : String}
    (given : ∀ message ∈ outcome.messages, Escapeless message)
    (explained : outcome.detail = some text) :
    Escapeless text := by
  cases outcome with
  | passed => cases explained
  | failed message | skipped message =>
      cases explained
      exact given _ List.mem_cons_self
  | errored cause =>
      cases explained
      cases cause with
      | misuse message | hook message | panic message =>
          exact .append (by decide) (given _ List.mem_cons_self)
      | unexpected error =>
          have kindFirst : Escapeless (error.kind.name ++ ": ") :=
            .append (kindName error.kind) (by decide)
          exact .append (by decide) (kindFirst.append (given _ List.mem_cons_self))

theorem remark
    {outcome : Outcome}
    (given : ∀ message ∈ outcome.messages, Escapeless message)
    (duration : Duration) :
    Escapeless (Console.remark duration outcome) := by
  cases outcome with
  | skipped reason => exact given _ List.mem_cons_self
  | passed | failed | errored => exact .append (number _) (by decide)

end Text.Escapeless

namespace Shows

/-- A text without an escape shows itself. -/
theorem plain
    {text : String}
    (escapeless : Text.Escapeless text) :
    Shows text text where
  escapeless := escapeless
  read :=
    ⟨text.toList.map .letter, Piece.ofText_letters escapeless, .letters _,
      Piece.letters_map_letter _⟩

theorem nothing : Shows "" "" :=
  plain (by decide)

theorem lineEnd : Shows "\n" "\n" :=
  plain (by decide)

theorem append
    {painted paintedRest plain plainRest : String}
    (first : Shows painted plain)
    (second : Shows paintedRest plainRest) :
    Shows (painted ++ paintedRest) (plain ++ plainRest) := by
  obtain ⟨pieces, isRead, closed, letters⟩ := first.read
  obtain ⟨piecesRest, isReadRest, closedRest, lettersRest⟩ := second.read
  refine ⟨first.escapeless.append second.escapeless,
    pieces ++ piecesRest, fun rest => ?_,
    closed.append closedRest, ?_⟩
  · rw [String.toList_append, List.append_assoc, isRead,
      isReadRest, List.append_assoc]
  · rw [List.filterMap_append, letters, lettersRest, String.toList_append]

theorem join
    {painted plain : List String}
    (shows : List.Forall₂ Shows painted plain) :
    Shows (String.join painted) (String.join plain) := by
  induction shows with
  | nil => exact .nothing
  | cons first _ inductionHypothesis =>
      rw [String.join_cons, String.join_cons]
      exact first.append inductionHypothesis

/-- A painted text shows the text. -/
theorem paint
    {text : String}
    (escapeless : Text.Escapeless text)
    (verbose : Bool)
    (colour : Colour) :
    Shows (Console.paint ⟨verbose, true⟩ colour text)
      (Console.paint ⟨verbose, false⟩ colour text) := by
  change Shows (colour.opening ++ text ++ Colour.closing) text
  refine ⟨escapeless,
    .opening colour :: (text.toList.map .letter ++ [.closing]), fun rest => ?_,
    .painted colour _ .nil, ?_⟩
  · rw [String.toList_append, String.toList_append, List.append_assoc,
      List.append_assoc, Piece.ofText_opening, Piece.ofText_letters escapeless,
      Piece.ofText_closing, List.cons_append, List.append_assoc]
    rfl
  · change (text.toList.map Piece.letter ++ [Piece.closing]).filterMap
      Piece.letter? = text.toList
    rw [List.filterMap_append, Piece.letters_map_letter]
    exact List.append_nil _

variable {painted plain : String}

/-- Without the sequences for colours, a text in colours is the text that it shows. -/
theorem withoutColours_eq (shows : Shows painted plain) :
    Text.withoutColours painted = plain := by
  obtain ⟨pieces, isRead, -, letters⟩ := shows.read
  have whole := isRead []
  rw [List.append_nil] at whole
  rw [Text.withoutColours, whole, List.filterMap_append, letters]
  simp [Piece.ofText]

theorem closed (shows : Shows painted plain) :
    Piece.Closed (Piece.ofText painted.toList) := by
  obtain ⟨pieces, isRead, closed, -⟩ := shows.read
  have whole := isRead []
  rw [List.append_nil] at whole
  rw [whole]
  exact closed.append .nil

end Shows

namespace Console

/--
What colours may do to what is written of events: nothing but
to add their sequences.
-/
structure OnlyAddsColours (verbose : Bool) (events : List Event) : Prop where
  transcript :
    Text.withoutColours ((Console.reporter ⟨verbose, true⟩).transcript events) =
      (Console.reporter ⟨verbose, false⟩).transcript events
  eachEvent :
    List.Forall₂ (fun painted plain => Text.withoutColours painted = plain)
      ((Console.reporter ⟨verbose, true⟩).writeAll events []).1
      ((Console.reporter ⟨verbose, false⟩).writeAll events []).1
  closed :
    Piece.Closed
      (Piece.ofText ((Console.reporter ⟨verbose, true⟩).transcript events).toList)
  closedInEach : ∀ painted ∈ ((Console.reporter ⟨verbose, true⟩).writeAll events []).1,
    Piece.Closed (Piece.ofText painted.toList)
  closedAfter : ∀ earlier,
    earlier <+: events →
    Piece.Closed
      (Piece.ofText ((Console.reporter ⟨verbose, true⟩).transcript earlier).toList)
  noneLeft : Text.Escapeless ((Console.reporter ⟨verbose, false⟩).transcript events)
  lossless : ∀ text, (Piece.ofText text).flatMap Piece.text = text

/-- No text that a report was given holds an escape. -/
def EscapelessReport (report : Report) : Prop :=
  Text.Escapeless report.group ∧
    Text.Escapeless report.scenario ∧
    ∀ message ∈ report.outcome.messages, Text.Escapeless message

theorem EscapelessReport.description
    {report : Report}
    (escapeless : EscapelessReport report) :
    Text.Escapeless report.description := by
  have groupFirst : Text.Escapeless (report.group ++ " ") :=
    escapeless.1.append (by decide)
  exact groupFirst.append escapeless.2.1

theorem shows_progress
    {report : Report}
    (escapeless : EscapelessReport report)
    (verbose : Bool)
    (duration : Duration) :
    Shows (Console.progress ⟨verbose, true⟩ report duration)
      (Console.progress ⟨verbose, false⟩ report duration) := by
  cases verbose with
  | false => exact .paint (.mark report.outcome) false _
  | true =>
      have description :
          Shows (report.description ++ " ... ") (report.description ++ " ... ") :=
        .plain (escapeless.description.append (by decide))
      have label :=
        Shows.paint (.label report.outcome) true (Colour.ofOutcome report.outcome)
      have remark : Text.Escapeless (remark duration report.outcome) :=
        .remark escapeless.2.2 duration
      exact (((description.append label).append (.plain (by decide))).append
        (.plain remark)).append (.plain (by decide))

theorem shows_failure
    {report : Report}
    (escapeless : EscapelessReport report)
    (verbose : Bool) :
    Shows (Console.failure ⟨verbose, true⟩ report)
      (Console.failure ⟨verbose, false⟩ report) := by
  have header :
      Text.Escapeless (report.description ++ " [" ++ report.outcome.label ++ "]") :=
    ((escapeless.description.append (by decide)).append (.label _)).append (by decide)
  have title := (Shows.paint header verbose .red).append .lineEnd
  unfold Console.failure
  cases explained : report.outcome.detail with
  | none => exact (title.append .nothing).append .lineEnd
  | some text =>
      have explanation : Text.Escapeless text := .detail escapeless.2.2 explained
      exact (title.append ((Shows.plain explanation).append .lineEnd)).append .lineEnd

theorem shows_failures
    {reports : List Report}
    (escapeless : ∀ report ∈ reports, EscapelessReport report)
    (verbose : Bool) :
    Shows (Console.failures ⟨verbose, true⟩ reports)
      (Console.failures ⟨verbose, false⟩ reports) := by
  cases reports with
  | nil => exact .nothing
  | cons report rest =>
      have listed :
          List.Forall₂ Shows ((report :: rest).map (Console.failure ⟨verbose, true⟩))
            ((report :: rest).map (Console.failure ⟨verbose, false⟩)) := by
        rw [List.forall₂_map_left_iff, List.forall₂_map_right_iff, List.forall₂_same]
        exact fun report member => shows_failure (escapeless report member) verbose
      have title :=
        Shows.paint (show Text.Escapeless headline by decide) verbose .red
      exact ((Shows.lineEnd.append title).append .lineEnd).append (.join listed)

theorem shows_conclusion
    (verbose : Bool)
    (tally : Tally)
    (duration : Duration) :
    Shows (Console.conclusion ⟨verbose, true⟩ tally duration)
      (Console.conclusion ⟨verbose, false⟩ tally duration) := by
  have line :
      Text.Escapeless
        ("====== " ++ tally.summary ++ " in " ++ duration.secondsText ++ "s ======") :=
    ((((show Text.Escapeless "====== " by decide).append (.summary tally)).append
      (by decide)).append (.secondsText duration)).append (by decide)
  exact (Shows.paint line verbose _).append .lineEnd

/-- What a console in colours writes of an event shows what one without them writes. -/
theorem shows_write
    {event : Event}
    {pending : List Report}
    (escapeless : ∀ text ∈ event.texts, Text.Escapeless text)
    (allEscapeless : ∀ report ∈ pending, EscapelessReport report)
    (verbose : Bool) :
    Shows (Console.write ⟨verbose, true⟩ event pending).1
      (Console.write ⟨verbose, false⟩ event pending).1 := by
  cases event with
  | started platform =>
      have platformId : Text.Escapeless platform.id :=
        escapeless _ List.mem_cons_self
      cases verbose with
      | false => exact .nothing
      | true =>
          exact .plain (((show Text.Escapeless "platform: " by decide).append platformId).append
            (by decide))
  | reported report duration =>
      simp only [Event.texts, List.forall_mem_cons] at escapeless
      exact shows_progress escapeless verbose duration
  | completed tally duration =>
      have lead : Text.Escapeless (if verbose then "" else "\n") := by
        cases verbose <;> decide
      exact ((Shows.plain lead).append (shows_failures allEscapeless verbose)).append
        (shows_conclusion verbose tally duration)

/-- What is remembered of an event does not depend on colours, and brings no escapes. -/
theorem pending_write
    {event : Event}
    {pending : List Report}
    (escapeless : ∀ text ∈ event.texts, Text.Escapeless text)
    (allEscapeless : ∀ report ∈ pending, EscapelessReport report)
    (verbose : Bool) :
    (Console.write ⟨verbose, true⟩ event pending).2 =
        (Console.write ⟨verbose, false⟩ event pending).2 ∧
      ∀ report ∈ (Console.write ⟨verbose, false⟩ event pending).2,
        EscapelessReport report := by
  cases event with
  | started platform => exact ⟨rfl, allEscapeless⟩
  | completed tally duration => exact ⟨rfl, nofun⟩
  | reported report duration =>
      simp only [Event.texts, List.forall_mem_cons] at escapeless
      refine ⟨rfl, ?_⟩
      simp only [write]
      split
      · intro other member
        rcases List.mem_append.mp member with isPending | isThis
        · exact allEscapeless other isPending
        · obtain rfl := List.mem_singleton.mp isThis
          exact escapeless
      · exact allEscapeless

theorem shows_writeAll
    {events : List Event}
    {pending : List Report}
    (escapeless : ∀ event ∈ events, ∀ text ∈ event.texts, Text.Escapeless text)
    (allEscapeless : ∀ report ∈ pending, EscapelessReport report)
    (verbose : Bool) :
    List.Forall₂ Shows ((Console.reporter ⟨verbose, true⟩).writeAll events pending).1
      ((Console.reporter ⟨verbose, false⟩).writeAll events pending).1 := by
  induction events generalizing pending with
  | nil => exact .nil
  | cons event rest inductionHypothesis =>
      obtain ⟨escapelessFirst, escapelessRest⟩ := List.forall_mem_cons.mp escapeless
      obtain ⟨samePending, stillEscapeless⟩ :=
        pending_write escapelessFirst allEscapeless verbose
      refine .cons (shows_write escapelessFirst allEscapeless verbose) ?_
      change List.Forall₂ Shows
        ((Console.reporter ⟨verbose, true⟩).writeAll rest
          (Console.write ⟨verbose, true⟩ event pending).2).1
        ((Console.reporter ⟨verbose, false⟩).writeAll rest
          (Console.write ⟨verbose, false⟩ event pending).2).1
      rw [samePending]
      exact inductionHypothesis escapelessRest stillEscapeless

/-- Colours only add their sequences, and none of them is open when an event is over. -/
theorem onlyAddsColours
    (verbose : Bool)
    (events : List Event)
    (escapeless : ∀ event ∈ events, ∀ text ∈ event.texts, Text.Escapeless text) :
    OnlyAddsColours verbose events := by
  have nonePending : ∀ report ∈ ([] : List Report), EscapelessReport report :=
    fun _ member => absurd member List.not_mem_nil
  have shows := shows_writeAll escapeless nonePending verbose
  have whole {earlier : List Event} (point : earlier <+: events) :
      Shows ((Console.reporter ⟨verbose, true⟩).transcript earlier)
        ((Console.reporter ⟨verbose, false⟩).transcript earlier) :=
    .join (shows_writeAll (fun event member => escapeless event (point.subset member))
      nonePending verbose)
  exact {
    transcript := (whole List.prefix_rfl).withoutColours_eq
    eachEvent := shows.imp fun _ _ => Shows.withoutColours_eq
    closed := (whole List.prefix_rfl).closed
    closedInEach :=
      ((List.forall₂_and_left _ _).mp (shows.imp fun _ _ shown => ⟨shown.closed, shown⟩)).1
    closedAfter := fun _ point => (whole point).closed
    noneLeft := (whole List.prefix_rfl).escapeless
    lossless := Piece.flatMap_text_ofText }

/--
A run with every outcome; one message looks like the rest of a
sequence for a colour.
-/
def colourfulRun : List Event :=
  [.started ⟨"x86_64-linux"⟩,
    .reported ⟨"Hash", "answers", .passed⟩ ⟨3000000⟩,
    .reported ⟨"Hash", "waits", .skipped "platform_is windows"⟩ ⟨0⟩,
    .reported ⟨"Hash", "fails", .failed "Expected 1\n to == 2"⟩ ⟨0⟩,
    .reported ⟨"Hash", "raises", .errored (.unexpected ⟨.typeError, "[31m"⟩)⟩ ⟨0⟩,
    .completed ⟨1, 1, 1, 1⟩ ⟨3000000⟩]

/-- In a run whose events hold no escape, colours only add their sequences. -/
theorem onlyAddsColours_colourfulRun :
    (∀ event ∈ colourfulRun, ∀ text ∈ event.texts, Text.Escapeless text) ∧
      OnlyAddsColours true colourfulRun := by
  have escapeless :
      ∀ event ∈ colourfulRun, ∀ text ∈ event.texts, Text.Escapeless text := by
    decide
  exact ⟨escapeless, onlyAddsColours true colourfulRun escapeless⟩

end Console

end Conformance
