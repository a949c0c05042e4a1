import Conformance.Object.Arity

namespace Conformance

/-!
# Values

Values are what programs under test handle.  A reference carries the identity
of its object together with whatever about the object never changes; what can
change lives in the store.  Two values are the same when their references are,
and equal when they are the same or have equal immutable contents.
-/

/-- How a callable treats a number of arguments that does not fit. -/
inductive Flavour where
  | plain
  | lambda
  deriving Repr, DecidableEq

/-- A reference to a text object; its text never changes. -/
structure TextRef where
  id : Nat
  text : String
  deriving Repr, DecidableEq

/-- A reference to a callable; its flavour and arity never change. -/
structure Proc where
  id : Nat
  flavour : Flavour
  arity : Arity
  deriving Repr, DecidableEq

/-- A reference to a hash. -/
structure HashRef where
  id : Nat
  deriving Repr, DecidableEq

/-- A record of a group database. -/
structure GroupRecord where
  name : String
  password : String
  gid : UInt32
  members : List String
  deriving Repr, DecidableEq

/-- A reference to a group record; the record never changes. -/
structure GroupRef where
  id : Nat
  record : GroupRecord
  deriving Repr, DecidableEq

/-- A reference to an object outside the value types: one of the host's, or a stub. -/
inductive ObjectRef where
  | host (id : Nat) (className : String)
  | stub (id : Nat)
  deriving Repr, DecidableEq

/-- What programs under test handle. -/
inductive Value where
  | nil
  | bool (flag : Bool)
  | integer (number : Int64)
  | text (reference : TextRef)
  | symbol (name : String)
  | proc (callable : Proc)
  | hash (reference : HashRef)
  | group (reference : GroupRef)
  | object (reference : ObjectRef)
  deriving Repr, DecidableEq

namespace Value

/--
Whether two values are one and the same: references to one object, or values
without an identity that do not differ.
-/
def same : Value → Value → Bool
  | .nil, .nil => true
  | .bool left, .bool right => left == right
  | .integer left, .integer right => left == right
  | .symbol left, .symbol right => left == right
  | .text left, .text right => decide (left = right)
  | .proc left, .proc right => decide (left = right)
  | .hash left, .hash right => decide (left = right)
  | .group left, .group right => decide (left = right)
  | .object left, .object right => decide (left = right)
  | _, _ => false

/--
A reference stands for its object, so values are the same when
they do not differ at all.
-/
theorem same_iff {left right : Value} : left.same right = true ↔ left = right := by
  cases left <;> cases right <;> simp [same]

/-- Whether two values are equal: the same, or alike in an immutable content. -/
def equal : Value → Value → Bool
  | .text left, .text right => left.text == right.text
  | .group left, .group right => decide (left.record = right.record)
  | left, right => left.same right

/-- Whether a value counts as true: all but `nil` and `false` do. -/
def truthy : Value → Bool
  | .nil => false
  | .bool flag => flag
  | _ => true

/-- Whether a value is `nil`. -/
def isNil : Value → Bool
  | .nil => true
  | _ => false

end Value

namespace ObjectRef

/--
The name of an object's class; every stub belongs to the same one.  An object of
the host keeps its name: code that it would run to give one is left out.
-/
def className : ObjectRef → String
  | .host _ className => className
  | .stub _ => "MockObject"

end ObjectRef

namespace Value

/-- The name of a value's class. -/
def className : Value → String
  | .nil => "NilClass"
  | .bool true => "TrueClass"
  | .bool false => "FalseClass"
  | .integer _ => "Integer"
  | .text _ => "String"
  | .symbol _ => "Symbol"
  | .proc _ => "Proc"
  | .hash _ => "Hash"
  | .group _ => "Etc::Group"
  | .object reference => reference.className

/-- The classes and modules above a value's own class, but for the universal ones. -/
def ancestors : Value → List String
  | .integer _ => ["Numeric", "Comparable"]
  | .text _ => ["Comparable"]
  | .hash _ => ["Enumerable"]
  | .group _ => ["Struct::Group", "Struct", "Enumerable"]
  | _ => []

/-- Whether a tag names a value's class or something above it. -/
def isKindOf (value : Value) (tag : String) : Bool :=
  tag == "Object" || tag == "BasicObject" || tag == value.className ||
    value.ancestors.contains tag

end Value

end Conformance
