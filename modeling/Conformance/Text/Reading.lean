namespace Conformance.Text

/-!
# Reading what another program prints

A program prints a line, so white space at both ends of what it prints does not
count.  A number is read digit by digit, and the reading stops at the first
character that is no digit or that leads out of the range.
-/

/-- Whether a character is white space. -/
def isWhite (character : Char) : Bool :=
  let code := character.toNat
  (9 ≤ code && code ≤ 13) || code == 0x20 || code == 0x85 ||
    code == 0xA0 || code == 0x1680 ||
    (0x2000 ≤ code && code ≤ 0x200A) || code == 0x2028 ||
      code == 0x2029 || code == 0x202F ||
    code == 0x205F || code == 0x3000

/-- A text without the white space at its ends. -/
def stripped (text : String) : String :=
  let fromFront := text.toList.dropWhile isWhite
  String.ofList (fromFront.reverse.dropWhile isWhite).reverse

/-- Why a text is no integer of sixty-four bits. -/
inductive IntegerError where
  | empty
  | invalidDigit
  | tooLarge
  | tooSmall
  deriving Repr, DecidableEq

/-- What is wrong. -/
def IntegerError.text : IntegerError → String
  | .empty => "cannot parse integer from empty string"
  | .invalidDigit => "invalid digit found in string"
  | .tooLarge => "number too large to fit in target type"
  | .tooSmall => "number too small to fit in target type"

/-- The number that digits bring another one to, which they lead up or down. -/
def readDigits (upwards : Bool) : List Char → Int → Except IntegerError Int
  | [], number => .ok number
  | character :: rest, number =>
      if character.isDigit then
        let digit : Nat := character.toNat - '0'.toNat
        let next := if upwards then 10 * number + digit else 10 * number - digit
        if Int64.maxValue.toInt < next then .error .tooLarge
        else if next < Int64.minValue.toInt then .error .tooSmall
        else readDigits upwards rest next
      else .error .invalidDigit

/-- The number of digits, perhaps after a sign. -/
def readSigned : List Char → Except IntegerError Int
  | [] => .error .empty
  | ['+'] | ['-'] => .error .invalidDigit
  | '+' :: digits => readDigits true digits 0
  | '-' :: digits => readDigits false digits 0
  | digits => readDigits true digits 0

/-- The integer that a text is for. -/
def readInteger (text : String) : Except IntegerError Int64 :=
  (readSigned text.toList).map Int64.ofInt

end Conformance.Text
