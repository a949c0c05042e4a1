namespace Conformance.Text

/-!
# Lines

A text of several lines keeps its shape beside other text when the lines after
the first stand behind a margin.
-/

/-- The lines of a text; a line feed at the end begins one more, which is empty. -/
def lines : List Char → List (List Char)
  | [] => [[]]
  | character :: rest =>
      if character = '\n' then [] :: lines rest
      else
        match lines rest with
        | [] => [[character]]
        | line :: below => (character :: line) :: below

/-- A line without the spaces at its end. -/
def trimmed (line : List Char) : List Char :=
  (line.reverse.dropWhile fun character => character == ' ').reverse

/-- Lines below one another, each after the first behind a margin. -/
def stacked (margin : List Char) : List (List Char) → List Char
  | [] => []
  | line :: below => line ++ below.flatMap fun next => '\n' :: (margin ++ next)

/-- A text that begins at a column, with its other lines set in to the same column. -/
def setIn (column : Nat) (text : String) : String :=
  String.ofList (stacked (List.replicate column ' ') (lines text.toList))

end Conformance.Text
