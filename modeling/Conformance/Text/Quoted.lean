import Conformance.Text.DefaultIgnorable
import Conformance.Text.GraphemeExtend
import Conformance.Text.Unprintable

namespace Conformance.Text

/-!
# Quoted text

A text is shown between double quotes with everything escaped that would not
show as itself: quotes, backslashes, controls, and characters that have no
printed form, leave nothing to see, or attach to their neighbour.
-/

/-- A natural number in hexadecimal, lower case and without leading zeros. -/
def hexadecimal (number : Nat) : List Char :=
  Nat.toDigits 16 number

/-- The two halfwidth sound marks, which extend the letter before them and yet take a
column of their own, as no other extending character does. -/
def isHalfwidthSoundMark (character : Char) : Bool :=
  character = '\uff9e' || character = '\uff9f'

/-- A character that can be shown only as part of the one before it. -/
def attaches (character : Char) : Bool :=
  isGraphemeExtend character && !isHalfwidthSoundMark character

/-- Whether a character would not show as itself. -/
def hides (character : Char) : Bool :=
  attaches character || isUnprintable character || isDefaultIgnorable character

/-- The characters that stand for one character of a quoted text. -/
def quotedChar (character : Char) : List Char :=
  if character = Char.ofNat 0 then ['\\', '0']
  else if character = '\t' then ['\\', 't']
  else if character = '\r' then ['\\', 'r']
  else if character = '\n' then ['\\', 'n']
  else if character = '\"' then ['\\', '\"']
  else if character = '\\' then ['\\', '\\']
  else if hides character then
    ['\\', 'u', '\x7b'] ++ hexadecimal character.toNat ++ ['\x7d']
  else [character]

/-- A text between double quotes, every character in its shown form. -/
def quoted (text : String) : String :=
  String.ofList ('\"' :: text.toList.flatMap quotedChar ++ ['\"'])

end Conformance.Text
