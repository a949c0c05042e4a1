import Conformance.Suite.Expectation

namespace Conformance.Script

/-!
# Script expressions

Scripts write hooks, scenario bodies and the bodies of callables as expressions.
An expression has a value or ends in a fault; its parts are evaluated from left
to right.
-/

/-- What is asked of one value, or made of it. -/
inductive Unary where
  | className
  | isKindOf (tag : String)
  | truthy
  | isNil
  | inspect
  | display
  | asInteger
  | asText
  | asProc
  | asHash
  | asGroup
  | arity
  | flavour
  | returning
  | hashWithDefault
  | hashWithProc
  | default
  | defaultProc
  | freeze
  | isFrozen
  | size
  | isEmpty
  | respondsTo (method : String)
  | toProc
  | toInteger
  deriving Repr, DecidableEq

/-- What is made of two values. -/
inductive Binary where
  | add
  | less
  | equal
  | same
  | get
  | setDefault
  | setDefaultProc
  | contains
  deriving Repr, DecidableEq

/-- A source of group records. -/
inductive GroupSource where
  | unsupported
  | system
  | records (records : List GroupRecord) (currentGid : Option UInt32)
  | systemFailure (errno : Int)
  | bufferFailure (limit : Nat)
  deriving Repr, DecidableEq

/-- Whether an expectation is about a value or about a block. -/
inductive Form where
  | value
  | block
  deriving Repr, DecidableEq

/-- A matcher that compares with another value. -/
inductive Comparison where
  | equality
  | identity
  deriving Repr, DecidableEq

/-- A matcher that needs no other value. -/
inductive Matcher where
  | beNil
  | beTrue
  | beFalse
  | beKindOf (tag : String)
  | raises (matcher : RaiseMatcher) (kind : ErrorKind)
  deriving Repr, DecidableEq

/-- Expressions. -/
inductive Expr where
  | nil
  | bool (flag : Bool)
  | integer (number : Int64)
  | text (content : String)
  | symbol (name : String)
  | variable (name : String)
  | assign (name : String) (value : Expr)
  | argument (index : Nat)
  | argumentCount
  | sequence (steps : List Expr)
  | choose (condition positive negative : Expr)
  | trace (entry : String)
  | raise (error : Raised)
  | fail (message : String)
  | panic (payload : Payload)
  | unary (operator : Unary) (operand : Expr)
  | binary (operator : Binary) (left right : Expr)
  | hash
  | insert (table key value : Expr)
  | callable (flavour : Flavour) (arity : Arity) (body : Expr)
  | call (target : Expr) (arguments : List Expr)
  | object (className : String) (methods : List (String × Expr))
  | send (receiver : Expr) (method : String) (arguments : List Expr)
  | group (record : GroupRecord)
  | currentGroup (source : GroupSource)
  | lookupGroup (source : GroupSource) (gid : Expr)
  | stub (key name : String)
  | contextStub (key name : String)
  | declare (key method : String) (count : Option Nat)
  | declareReturning (key method : String) (answer : Expr) (count : Option Nat)
  | stubValue (key : String)
  | stubName (key : String)
  | callCount (key method : String)
  | verify (key : String)
  | contextAssign (name : String) (value : Expr)
  | contextRead (name : String)
  | contextPlatform
  | compare (form : Form) (subject : Expr) (negations : Nat)
    (comparison : Comparison)
      (operand : Expr)
  | expect (form : Form) (subject : Expr) (negations : Nat) (matcher : Matcher)

end Conformance.Script
