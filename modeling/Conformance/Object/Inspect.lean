import Conformance.Object.Hash
import Conformance.Text.Quoted

namespace Conformance

/-!
# Values as text

A value is inspected for messages, which show its structure, and displayed for
people, who see only its text.  A hash shows its entries, so inspecting follows
the entries of hashes inside hashes; the descent is bounded, and a hash nested
deeper than the bound has no text.
-/

namespace GroupRecord

/-- A group record as messages show it. -/
def inspect (record : GroupRecord) : String :=
  "#<struct Etc::Group name=" ++ Text.quoted record.name ++
    ", passwd=" ++ Text.quoted record.password ++
    ", gid=" ++ toString record.gid.toNat ++
    ", mem=[" ++ ", ".intercalate (record.members.map Text.quoted) ++ "]>"

end GroupRecord

namespace Proc

/-- The identity of a callable as twelve hexadecimal digits or more. -/
def address (callable : Proc) : String :=
  let digits := Text.hexadecimal callable.id
  String.ofList (List.replicate (12 - digits.length) '0' ++ digits)

/-- A callable as messages show it. -/
def inspect (callable : Proc) : String :=
  "#<Proc:0x" ++ callable.address ++
    match callable.flavour with
      | .plain => ">"
      | .lambda => " (lambda)>"

end Proc

namespace Value

/-- The text of entries, given the texts of their keys and values. -/
def inspectEntries
    (inspectValue : Value → Option String) :
    List (Value × Value) → Option (List String)
  | [] => some []
  | (key, value) :: rest =>
      match inspectValue key, inspectValue value,
        inspectEntries inspectValue rest with
      | some keyText, some valueText, some restTexts =>
          some ((keyText ++ " => " ++ valueText) :: restTexts)
      | _, _, _ => none

/-- The text of a value in which hashes are nested at most so deep. -/
def inspectWithin
    (entriesOf : HashRef → List (Value × Value)) :
    Nat → Value → Option String
  | _, .nil => some "nil"
  | _, .bool flag => some (if flag then "true" else "false")
  | _, .integer number => some (toString number.toInt)
  | _, .text reference => some (Text.quoted reference.text)
  | _, .symbol name => some (":" ++ name)
  | _, .proc callable => some callable.inspect
  | _, .group reference => some reference.record.inspect
  | _, .object reference => some ("#<" ++ reference.className ++ ">")
  | 0, .hash _ => none
  | depth + 1, .hash reference =>
      (inspectEntries (inspectWithin entriesOf depth) (entriesOf reference)).map
        fun texts => "\x7b" ++ ", ".intercalate texts ++ "\x7d"

/--
The text of a value for people: texts and symbols show bare,
and `nil` shows nothing.
-/
def displayWithin
    (entriesOf : HashRef → List (Value × Value))
    (depth : Nat) :
    Value → Option String
  | .nil => some ""
  | .text reference => some reference.text
  | .symbol name => some name
  | value => value.inspectWithin entriesOf depth

end Value

end Conformance
