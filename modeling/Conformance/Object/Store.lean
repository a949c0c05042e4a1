import Conformance.Object.Inspect
import Conformance.Object.Stub

namespace Conformance

/-!
# The store

The store holds every object that has an identity, under the number that is its
identity.  Numbers are handed out in order and never twice, so two references
made at different times never meet.
-/

/-- A table with an entry for every number. -/
abbrev Table (Entry : Type) := Nat → Entry

namespace Table

/-- Replaces one entry. -/
def put
    {Entry : Type}
    (table : Table Entry)
    (index : Nat)
    (entry : Entry) :
    Table Entry :=
  fun other => if other = index then entry else table other

/-- A replaced entry is read back. -/
@[simp] theorem put_same
    {Entry : Type}
    (table : Table Entry)
    (index : Nat)
    (entry : Entry) :
    table.put index entry index = entry := by
  simp [put]

/-- Other entries stay as they were. -/
@[simp] theorem put_other
    {Entry : Type}
    (table : Table Entry)
    {index other : Nat}
    (entry : Entry)
    (different : other ≠ index) :
    table.put index entry other = table other := by
  simp [put, different]

end Table

/-- What a callable does when it is called. -/
inductive Behaviour (Label : Type) where
  | constant (value : Value)
  | body (label : Label)
  deriving Repr, DecidableEq

/--
Every object with an identity.  Bodies of callables and methods are kept as
labels of the program that the store belongs to.
-/
structure Store (Label : Type) where
  next : Nat
  hashes : Table HashState
  behaviours : Table (Behaviour Label)
  methods : Table (List (String × Label))
  stubs : Table StubState

namespace Store

variable {Label : Type}

/-- A store without objects. -/
def empty : Store Label where
  next := 0
  hashes := fun _ => .empty
  behaviours := fun _ => .constant .nil
  methods := fun _ => []
  stubs := fun _ => .new ""

/-- The state of a hash. -/
def hash (store : Store Label) (reference : HashRef) : HashState :=
  store.hashes reference.id

/-- Replaces the state of a hash. -/
def putHash
    (store : Store Label)
    (reference : HashRef)
    (state : HashState) :
    Store Label :=
  { store with hashes := store.hashes.put reference.id state }

/-- Replaces the state of a stub. -/
def putStub (store : Store Label) (id : Nat) (state : StubState) : Store Label :=
  { store with stubs := store.stubs.put id state }

/-- Hands out a fresh identity. -/
def advance (store : Store Label) : Store Label :=
  { store with next := store.next + 1 }

/-- Makes a text object. -/
def newText (store : Store Label) (text : String) : Value × Store Label :=
  (.text ⟨store.next, text⟩, store.advance)

/-- Makes a group record object. -/
def newGroup (store : Store Label) (record : GroupRecord) : Value × Store Label :=
  (.group ⟨store.next, record⟩, store.advance)

/-- Makes a hash. -/
def newHash (store : Store Label) (fallback : Fallback) : Value × Store Label :=
  let reference : HashRef := ⟨store.next⟩
  (.hash reference, (store.putHash reference (.new fallback)).advance)

/-- Makes a callable. -/
def newProc
    (store : Store Label)
    (flavour : Flavour)
    (arity : Arity)
    (behaviour : Behaviour Label) :
    Value × Store Label :=
  (.proc ⟨store.next, flavour, arity⟩,
    { store with behaviours := store.behaviours.put store.next behaviour }.advance)

/-- Makes an object of the host that answers the given methods. -/
def newObject
    (store : Store Label)
    (className : String)
    (methods : List (String × Label)) :
    Value × Store Label :=
  (.object (.host store.next className),
    { store with methods := store.methods.put store.next methods }.advance)

/-- Makes a stub. -/
def newStub (store : Store Label) (name : String) : Value × Store Label :=
  (.object (.stub store.next), (store.putStub store.next (.new name)).advance)

/--
Whether an object answers a method.  An object of the host answers those in its
table: the question is a query, and code that an object would run to answer it is
left out.
-/
def respondsTo (store : Store Label) (method : String) : ObjectRef → Bool
  | .host id _ => (store.methods id).any fun entry => entry.1 == method
  | .stub id => (store.stubs id).respondsTo method

/-- The entries of a hash. -/
def entriesOf (store : Store Label) (reference : HashRef) : List (Value × Value) :=
  (store.hash reference).entries

/--
The text of a value in messages.  There are no more hashes than identities
handed out, so a deeper nesting never ends and has no text.
-/
def inspect? (store : Store Label) (value : Value) : Option String :=
  value.inspectWithin store.entriesOf store.next

/-- The text of a value for people. -/
def display? (store : Store Label) (value : Value) : Option String :=
  value.displayWithin store.entriesOf store.next

@[simp] theorem hash_putHash_same
    (store : Store Label)
    (reference : HashRef)
    (state : HashState) :
    (store.putHash reference state).hash reference = state := by
  simp [hash, putHash]

@[simp] theorem hash_putHash_other
    (store : Store Label)
    {reference other : HashRef}
    (state : HashState)
    (different : other ≠ reference) :
    (store.putHash reference state).hash other = store.hash other := by
  have idsDiffer : other.id ≠ reference.id := by
    intro sameId
    cases other
    cases reference
    exact different (congrArg HashRef.mk sameId)
  simp [hash, putHash, idsDiffer]

end Store

end Conformance
