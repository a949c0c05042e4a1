namespace Conformance.Text

/-!
# Objects on one line

Machine readers get one flat JSON object a line.  A library writes the objects,
and this is the format that it is assumed to have: an object is compact, with its
fields in the order of their keys; a text is escaped as the standard asks, so that
it holds no quote and no control character of its own; and a number that is no
count stands as the token that it is given as.
-/

/-- The value of a field. -/
inductive Scalar where
  | null
  | flag (value : Bool)
  | count (value : Nat)
  | decimal (token : String)
  | text (value : String)
  deriving Repr, DecidableEq

/-- The characters that stand for one character between quotes. -/
def escapedChar (character : Char) : List Char :=
  if character = '\"' then ['\\', '\"']
  else if character = '\\' then ['\\', '\\']
  else if character = '\n' then ['\\', 'n']
  else if character = '\r' then ['\\', 'r']
  else if character = '\t' then ['\\', 't']
  else if character = '\x08' then ['\\', 'b']
  else if character = '\x0c' then ['\\', 'f']
  else if character.toNat < 16 then
    ['\\', 'u', '0', '0', '0', Nat.digitChar character.toNat]
  else if character.toNat < 32 then
    ['\\', 'u', '0', '0', '1', Nat.digitChar (character.toNat - 16)]
  else [character]

/-- A text between quotes. -/
def escaped (text : String) : List Char :=
  '\"' :: text.toList.flatMap escapedChar ++ ['\"']

namespace Scalar

/-- A value as it stands in a line. -/
def write : Scalar → List Char
  | .null => "null".toList
  | .flag value => (if value then "true" else "false").toList
  | .count value => Nat.toDigits 10 value
  | .decimal token => token.toList
  | .text value => escaped value

end Scalar

/-- One field: its key, a colon and its value. -/
def fieldText (field : String × Scalar) : List Char :=
  escaped field.1 ++ ':' :: field.2.write

/-- Puts a field where its key belongs; one with the same key gives way. -/
def putField (field : String × Scalar) :
    List (String × Scalar) → List (String × Scalar)
  | [] => [field]
  | other :: rest =>
      if field.1 = other.1 then field :: rest
      else if field.1 < other.1 then field :: other :: rest
      else other :: putField field rest

/-- Fields in the order of their keys. -/
def inKeyOrder (fields : List (String × Scalar)) : List (String × Scalar) :=
  fields.foldl (fun ordered field => putField field ordered) []

/-- An object and the end of its line. -/
def objectLine (fields : List (String × Scalar)) : List Char :=
  '\x7b' :: [','].intercalate ((inKeyOrder fields).map fieldText) ++ ['\x7d', '\n']

end Conformance.Text
