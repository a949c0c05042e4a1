namespace Conformance.Text

/-!
# Characters that may be ignored in display

The Unicode 17.0 property `Default_Ignorable_Code_Point`: fillers, joiners,
selectors and tags, which leave nothing to see where they stand.
-/

/-- Inclusive ranges of the code points that have the property, in ascending order. -/
def defaultIgnorableRanges : List (Nat × Nat) :=
  [(173, 173), (847, 847), (1564, 1564), (4447, 4448), (6068, 6069), (6155, 6159),
   (8203, 8207), (8234, 8238), (8288, 8303), (12644, 12644), (65024, 65039),
   (65279, 65279), (65440, 65440), (65520, 65528), (113824, 113827),
   (119155, 119162), (917504, 921599)]

/-- A character that leaves nothing to see. -/
def isDefaultIgnorable (character : Char) : Bool :=
  defaultIgnorableRanges.any fun range =>
    range.1 ≤ character.toNat && character.toNat ≤ range.2

end Conformance.Text
