namespace Conformance.Text

/-!
# One text inside another

Filters and platform names select by occurrence: a text is selected when the
other one stands somewhere in it as a whole.
-/

/-- Whether the characters `part` stand together somewhere in others. -/
def standsIn (part : List Char) : List Char → Bool
  | [] => part.isEmpty
  | first :: rest => part.isPrefixOf (first :: rest) || standsIn part rest

/-- Whether `part` stands somewhere in `whole`; the empty text stands in every text. -/
def occursIn (part whole : String) : Bool :=
  standsIn part.toList whole.toList

/-- Characters stand in others exactly when these split around them. -/
theorem standsIn_iff
    {part whole : List Char} :
    standsIn part whole = true ↔ part <:+: whole := by
  induction whole with
  | nil => cases part <;> simp [standsIn]
  | cons first rest inductionHypothesis =>
      simp only [standsIn, Bool.or_eq_true, inductionHypothesis,
        List.isPrefixOf_iff_prefix]
      exact List.infix_cons_iff.symm

/-- Occurrence splits the whole text around the part. -/
theorem occursIn_iff
    {part whole : String} :
    occursIn part whole = true ↔
      ∃ before after, before ++ part.toList ++ after = whole.toList :=
  standsIn_iff

/-- A text occurs in itself. -/
theorem occursIn_self (text : String) : occursIn text text = true :=
  standsIn_iff.mpr (List.infix_refl _)

/-- A text occurs between two others. -/
theorem occursIn_middle (before part after : String) :
    occursIn part (before ++ part ++ after) = true :=
  occursIn_iff.mpr ⟨before.toList, after.toList, by simp only [String.toList_append]⟩

/-- A text occurs in another exactly when it stands between two others in it. -/
theorem occursIn_iff_append
    {part whole : String} :
    occursIn part whole = true ↔
      ∃ before after, whole = before ++ part ++ after := by
  constructor
  · intro occurs
    obtain ⟨before, after, split⟩ := occursIn_iff.mp occurs
    refine ⟨String.ofList before, String.ofList after, ?_⟩
    simp only [← String.toList_inj, String.toList_append,
      String.toList_ofList, split]
  · rintro ⟨before, after, rfl⟩
    exact occursIn_middle before part after

/-- Occurrence is transitive. -/
theorem occursIn_trans
    {first second third : String}
    (inner : occursIn first second = true)
    (outer : occursIn second third = true) :
    occursIn first third = true :=
  standsIn_iff.mpr ((standsIn_iff.mp inner).trans (standsIn_iff.mp outer))

end Conformance.Text
