namespace Conformance.Text

/-!
# Control sequences

Some characters steer a terminal and do not show: single controls, and
sequences that an escape opens.  A text that no terminal will read is written
without them.  Tabs, line feeds, form feeds and carriage returns lay out a text
and stay in it.
-/

/-- Where in a control sequence a reader of a text stands. -/
inductive ControlState where
  /-- Outside of every sequence. -/
  | outside
  /-- Behind the escape that opens a sequence. -/
  | escape
  /-- Behind an escape and characters that only its last one explains. -/
  | designation
  /-- Among the parameters of a sequence such as the one for a colour. -/
  | parameters
  /-- At the head of a string for a device. -/
  | deviceHead
  /-- Among the parameters at the head of a string for a device. -/
  | deviceParameters
  /-- Behind the parameters at the head of a string for a device. -/
  | deviceTail
  /-- In a string that a terminator ends. -/
  | string
  /-- In a command to the operating system, which a bell may end. -/
  | systemCommand
  deriving Repr, DecidableEq

/-- Whether a character stands between two others, these included. -/
def isWithin (first last character : Char) : Bool :=
  first ≤ character && character ≤ last

/-- A control that lays out a text. -/
def isLayout (character : Char) : Bool :=
  character = '\t' || character = '\n' || character = '\x0c' || character = '\r'

/-- Whether the encoding of a character holds the byte that terminates a string. -/
def holdsTerminator (character : Char) : Bool :=
  (String.utf8EncodeChar character).contains 0x9c

namespace ControlState

/-- Whether a character is shown: outside of sequences all but controls are, and
a layout control is shown wherever it breaks a sequence off. -/
def shows (state : ControlState) (character : Char) : Bool :=
  match state with
  | .outside => isLayout character || (' ' ≤ character && character ≠ '\x7f')
  | .escape | .designation | .parameters => isLayout character
  | .deviceHead | .deviceParameters | .deviceTail | .string | .systemCommand => false

/-- The state behind an escape and one more character. -/
def opened (character : Char) : ControlState :=
  if character = '[' then .parameters
  else if character = ']' then .systemCommand
  else if character = 'P' then .deviceHead
  else if character = 'X' || character = '^' || character = '_' then .string
  else if isWithin ' ' '/' character then .designation
  else if isWithin '0' '~' character then .outside
  else .escape

/-- The state behind a character that neither opens nor cancels a sequence. -/
def advance (state : ControlState) (character : Char) : ControlState :=
  match state with
  | .outside => .outside
  | .escape => if isLayout character then .outside else opened character
  | .designation =>
      if isLayout character || isWithin '0' '~' character then
        .outside else .designation
  | .parameters =>
      if isLayout character || isWithin '@' '~' character then
        .outside else .parameters
  | .deviceHead =>
      if isWithin ' ' '/' character then .deviceTail
      else if isWithin '0' '?' character then .deviceParameters
      else if isWithin '@' '~' character then .string
      else .deviceHead
  | .deviceParameters =>
      if isWithin ' ' '/' character then .deviceTail
      else if isWithin '<' '~' character then .string
      else .deviceParameters
  | .deviceTail => if isWithin '0' '~' character then .string else .deviceTail
  | .string => if holdsTerminator character then .outside else .string
  | .systemCommand => if character = '\x07' then .outside else .systemCommand

/-- The state behind a character.  Everywhere an escape opens another sequence, and
the controls for cancelling and substituting break the present one off. -/
def next (state : ControlState) (character : Char) : ControlState :=
  if character = '\x1b' then .escape
  else if character = '\x18' || character = '\x1a' then .outside
  else state.advance character

/-- The characters that are shown of a text that a reader in some state goes on with. -/
def shown : ControlState → List Char → List Char
  | _, [] => []
  | state, character :: rest =>
      if state.shows character then character :: (state.next character).shown rest
      else (state.next character).shown rest

end ControlState

/-- A text without controls and control sequences. -/
def withoutControls (text : String) : String :=
  String.ofList (ControlState.outside.shown text.toList)

end Conformance.Text
