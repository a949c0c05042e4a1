namespace Conformance

/-!
# Kinds of errors

Raised errors belong to nine kinds that form a tree below `standardError`.  An
expectation that names a kind is met by every kind below it, so every kind knows
the one directly above it.
-/

/-- The kinds of errors a program under test may raise. -/
inductive ErrorKind where
  | standardError
  | argumentError
  | typeError
  | runtimeError
  | frozenError
  | nameError
  | noMethodError
  | indexError
  | keyError
  deriving Repr, DecidableEq

namespace ErrorKind

/-- Every kind once, in the order in which listings show them. -/
def all : List ErrorKind :=
  [.standardError, .argumentError, .typeError, .runtimeError, .frozenError,
    .nameError, .noMethodError, .indexError, .keyError]

/-- The spelling of a kind in messages. -/
def name : ErrorKind → String
  | .standardError => "StandardError"
  | .argumentError => "ArgumentError"
  | .typeError => "TypeError"
  | .runtimeError => "RuntimeError"
  | .frozenError => "FrozenError"
  | .nameError => "NameError"
  | .noMethodError => "NoMethodError"
  | .indexError => "IndexError"
  | .keyError => "KeyError"

/-- The kind directly above; only the root has none. -/
def parent : ErrorKind → Option ErrorKind
  | .standardError => none
  | .argumentError => some .standardError
  | .typeError => some .standardError
  | .runtimeError => some .standardError
  | .frozenError => some .runtimeError
  | .nameError => some .standardError
  | .noMethodError => some .nameError
  | .indexError => some .standardError
  | .keyError => some .indexError

/-- The listing has every kind behind the one above it. -/
theorem idxOf_parent_lt
    {kind above : ErrorKind}
    (parentIs : kind.parent = some above) :
    all.idxOf above < all.idxOf kind := by
  cases kind <;> cases parentIs <;> decide

/--
Whether a kind is the given one or lies below it: the search goes up
from parent to parent.
-/
def isA (kind ancestor : ErrorKind) : Bool :=
  decide (kind = ancestor) ||
    match _ : kind.parent with
    | none => false
    | some above => above.isA ancestor
termination_by all.idxOf kind
decreasing_by exact idxOf_parent_lt ‹_›

/-- The kind with a given spelling; upper and lower case are told apart. -/
def ofName? (spelling : String) : Option ErrorKind :=
  all.find? fun kind => kind.name == spelling

/-- Reading the spelling of a kind gives the kind back. -/
theorem ofName?_name (kind : ErrorKind) : ofName? kind.name = some kind := by
  cases kind <;> decide

/-- Descent: a kind lies below itself, and below whatever its parent lies below. -/
inductive Descends : ErrorKind → ErrorKind → Prop where
  | refl (kind : ErrorKind) : Descends kind kind
  | above {kind middle ancestor : ErrorKind} :
      kind.parent = some middle → Descends middle ancestor → Descends kind ancestor

namespace Descends

variable {kind middle ancestor other : ErrorKind}

/-- A kind lies below whatever a kind above it lies below. -/
theorem trans (first : Descends kind middle) (later : Descends middle ancestor) :
    Descends kind ancestor := by
  induction first with
  | refl => exact later
  | above parentIs _ inductionHypothesis =>
      exact .above parentIs (inductionHypothesis later)

/-- Of two kinds above the same kind one lies below the other. -/
theorem comparable (first : Descends kind ancestor) (second : Descends kind other) :
    Descends ancestor other ∨ Descends other ancestor := by
  induction first with
  | refl => exact .inl second
  | above parentIs first inductionHypothesis =>
      cases second with
      | refl => exact .inr (.above parentIs first)
      | above parentIsToo second =>
          obtain rfl := Option.some.inj (parentIs.symm.trans parentIsToo)
          exact inductionHypothesis second

end Descends

/-- Every kind is its own. -/
@[simp] theorem isA_self (kind : ErrorKind) : kind.isA kind = true := by
  rw [isA, decide_eq_true rfl, Bool.true_or]

/-- The search goes on from the kind directly above. -/
theorem isA_of_parent
    {kind above ancestor : ErrorKind}
    (parentIs : kind.parent = some above) :
    kind.isA ancestor = (decide (kind = ancestor) || above.isA ancestor) := by
  rw [isA]
  split
  · next rootIs => rw [parentIs] at rootIs; cases rootIs
  · next found => rw [Option.some.inj (parentIs.symm.trans found)]

/-- The root of the kinds is below nothing else. -/
theorem isA_of_root
    {kind ancestor : ErrorKind}
    (rootIs : kind.parent = none) :
    kind.isA ancestor = decide (kind = ancestor) := by
  rw [isA]
  split
  · exact Bool.or_false _
  · next found => rw [rootIs] at found; cases found

/-- What the search finds lies above the kind. -/
theorem descends_of_isA
    {kind ancestor : ErrorKind}
    (accepted : kind.isA ancestor = true) :
    Descends kind ancestor := by
  cases parentIs : kind.parent with
  | none =>
      rw [isA_of_root parentIs, decide_eq_true_eq] at accepted
      exact accepted ▸ .refl kind
  | some above =>
      rw [isA_of_parent parentIs, Bool.or_eq_true, decide_eq_true_eq] at accepted
      rcases accepted with same | acceptedAbove
      · exact same ▸ .refl kind
      · exact .above parentIs (descends_of_isA acceptedAbove)
termination_by all.idxOf kind
decreasing_by exact idxOf_parent_lt parentIs

/-- The search along the parents decides descent. -/
theorem isA_iff_descends
    {kind ancestor : ErrorKind} :
    kind.isA ancestor = true ↔ Descends kind ancestor := by
  constructor
  · exact descends_of_isA
  · intro descends
    induction descends with
    | refl kind => exact isA_self kind
    | above parentIs _ inductionHypothesis =>
        rw [isA_of_parent parentIs, inductionHypothesis, Bool.or_true]

end ErrorKind

end Conformance
