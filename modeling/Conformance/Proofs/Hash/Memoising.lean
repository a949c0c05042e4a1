import Conformance.Proofs.Hash.Computing
import Conformance.Proofs.Object.Equality
import Conformance.Proofs.Program.Returning

namespace Conformance

/-!
# Memoising hashes

A hash memoises a computation if its default callable computes the value of the key
that it is given, stores it under this key in the hash that it is given, and answers
it.  The lookup that falls back to such a callable has its own hash changed while it
is under way.  However such a hash is asked from then on, each class of equal keys
that is looked up without being stored is computed once, and every later lookup of
the class finds that one value.
-/

/-- A question to a hash. -/
inductive Inquiry where
  | get (key : Value)
  | contains (key : Value)
  | size
  deriving Repr, DecidableEq

/-- What a hash answers to a question. -/
inductive Reply where
  | value (value : Value)
  | flag (isStored : Bool)
  | count (size : Nat)
  deriving Repr, DecidableEq

namespace Inquiry

variable {World Label : Type}

/-- Asks a hash one question. -/
def ask (hash : HashRef) : Inquiry → Code World Label Raised Reply
  | .get key => do
      let value ← Code.perform (.get hash key)
      pure (.value value)
  | .contains key => do
      let state ← Code.hashState hash
      pure (.flag (state.contains key))
  | .size => do
      let state ← Code.hashState hash
      pure (.count state.size)

/-- Asks a hash one question after the other. -/
def askAll (hash : HashRef) : List Inquiry → Code World Label Raised (List Reply)
  | [] => pure []
  | inquiry :: rest => do
      let reply ← inquiry.ask hash
      let replies ← askAll hash rest
      pure (reply :: replies)

/-- The reply that the state of a hash holds to a question. -/
def answer? (state : HashState) : Inquiry → Option Reply
  | .get key => (state.find? key).map .value
  | .contains key => some (.flag (state.contains key))
  | .size => some (.count state.size)

/--
The body that a question runs, with its arguments and the scene that it starts from.
-/
def callee?
    (hash : HashRef)
    (scene : Scene World Label) :
    Inquiry → Option (Label × List Value × Scene World Label)
  | .get key =>
      ((Operation.get hash key).callee? scene.store).map fun (label, arguments) =>
        (label, arguments, scene)
  | _ => none

/-- The bodies that questions run, in order. -/
def callees
    (invoke : Invoke World Label)
    (hash : HashRef) :
    List Inquiry → Scene World Label → List (Label × List Value × Scene World Label)
  | [], _ => []
  | inquiry :: rest, scene =>
      (inquiry.callee? hash scene).toList ++
        callees invoke hash rest ((inquiry.ask hash).execute invoke scene).2

/-- Whether a question looks a key up, or one that equals it. -/
def looksUp (key : Value) : Inquiry → Bool
  | .get other => other.equal key
  | _ => false

end Inquiry

/-- Computes the value of a key, stores it under the key and answers it. -/
def Code.memoise
    {World Label : Type}
    (compute : Value → Code World Label Raised Value)
    (hash : HashRef)
    (key : Value) :
    Code World Label Raised Value := do
  let value ← compute key
  let _ ← Code.perform (.insert hash key value)
  pure value

/-- One run of a computation. -/
structure Computation (World Label : Type) where
  key : Value
  before : Scene World Label
  value : Value
  after : Scene World Label

section Memoising

variable {World Label : Type}

/--
A computation that always succeeds and leaves all hashes as they are.  It may rely on
what it finds in the scene, apart from the hashes, so long as it leaves it there.
-/
structure Computes
    (program : Program World Label)
    (depth : Nat)
    (compute : Value → Code World Label Raised Value)
    (ready : Scene World Label → Prop) : Prop where
  succeeds : ∀ key {scene},
    ready scene →
    (compute key).Returns (program.invoke depth) scene fun _ after =>
      ready after ∧
        ∀ hash : HashRef,
          hash.id < scene.store.next → after.store.hash hash = scene.store.hash hash
  apart : ∀ {scene} (hash : HashRef) (change : HashState → HashState),
    ready scene → ready (hash.update change scene)

/-- A hash falls back to a callable with two parameters that memoises a computation. -/
structure HashRef.Memoises
    (program : Program World Label)
    (compute : Value → Code World Label Raised Value)
    (hash : HashRef)
    (callable : Proc)
    (label : Label)
    (scene : Scene World Label) : Prop where
  made : hash.id < scene.store.next
  unfrozen : (scene.store.hash hash).frozen = false
  falls : (scene.store.hash hash).defaultProc = some callable
  callableMade : callable.id < scene.store.next
  takesTwo : callable.arity = .exactly 2
  behaves : scene.store.behaviours callable.id = .body label
  body : ∀ key, program.body label [.hash hash, key] = Code.memoise compute hash key

/--
How a memoising hash is asked: from a scene by questions and replies to another one,
with the runs of the computation that this takes.
-/
inductive HashRef.Asked
    (program : Program World Label)
    (depth : Nat)
    (compute : Value → Code World Label Raised Value)
    (ready : Scene World Label → Prop)
    (hash : HashRef) :
    Scene World Label → List Inquiry → List Reply → List (Computation World Label) →
      Scene World Label → Prop where
  | nil {scene : Scene World Label} :
      Asked program depth compute ready hash scene [] [] [] scene
  | read
      {scene finish : Scene World Label}
      {inquiry : Inquiry}
      {reply : Reply}
      {rest : List Inquiry}
      {replies : List Reply}
      {runs : List (Computation World Label)}
      (answered : inquiry.answer? (scene.store.hash hash) = some reply)
      (later : Asked program depth compute ready hash scene rest replies runs finish) :
      Asked program depth compute ready hash scene (inquiry :: rest)
        (reply :: replies) runs finish
  | computed
      {scene reached finish : Scene World Label}
      {key value : Value}
      {rest : List Inquiry}
      {replies : List Reply}
      {runs : List (Computation World Label)}
      (isReady : ready scene)
      (absent : (scene.store.hash hash).contains key = false)
      (ran : program.run depth (compute key) scene = (.returned value, reached))
      (kept : reached.store.hash hash = scene.store.hash hash)
      (later :
        Asked program depth compute ready hash
          (hash.update (fun state => state.insert key value) reached) rest
            replies runs finish) :
      Asked program depth compute ready hash scene (.get key :: rest)
        (.value value :: replies)
        (⟨key, scene, value, reached⟩ :: runs) finish

/--
What comes of asking a memoising hash, whatever it is asked: the replies, the runs of the
computation and the scene that is reached.
-/
structure HashRef.Memoised
    (program : Program World Label)
    (depth : Nat)
    (compute : Value → Code World Label Raised Value)
    (ready : Scene World Label → Prop)
    (hash : HashRef)
    (label : Label)
    (start : Scene World Label)
    (inquiries : List Inquiry)
    (replies : List Reply)
    (runs : List (Computation World Label))
    (finish : Scene World Label) : Prop where
  answers :
    program.run (depth + 1) (Inquiry.askAll hash inquiries) start =
      (.returned replies, finish)
  callees :
    Inquiry.callees (program.invoke (depth + 1)) hash inquiries start =
      runs.map fun run => (label, [.hash hash, run.key], run.before)
  ran : ∀ run ∈ runs,
    program.run depth (compute run.key) run.before = (.returned run.value, run.after)
  once : ∀ {key},
    inquiries.any (fun inquiry => inquiry.looksUp key) = true →
    (start.store.hash hash).contains key = false →
    runs.countP (fun run => run.key.equal key) = 1
  only : ∀ run ∈ runs,
    .get run.key ∈ inquiries ∧ (start.store.hash hash).contains run.key = false
  noted : ∀ notes : World → List Value,
    (∀ key scene,
      ready scene →
      notes (program.run depth (compute key) scene).2.world =
        notes scene.world ++ [key]) →
    notes finish.world = notes start.world ++ runs.map Computation.key
  stored : ∀ {place : Nat} {key value},
    inquiries[place]? = some (Inquiry.get key) →
    (start.store.hash hash).find? key = some value →
    replies[place]? = some (Reply.value value)
  computed : ∀ {place : Nat} {key run},
    inquiries[place]? = some (Inquiry.get key) →
    run ∈ runs →
    run.key.equal key = true →
    replies[place]? = some (Reply.value run.value)
  flags : ∀ {place : Nat} {key},
    inquiries[place]? = some (Inquiry.contains key) →
    replies[place]? =
      some (Reply.flag
        ((start.store.hash hash).contains key ||
          (inquiries.take place).any fun inquiry => inquiry.looksUp key))
  sizes : ∀ {place : Nat},
    inquiries[place]? = some Inquiry.size →
    replies[place]? =
      some (Reply.count
        ((start.store.hash hash).size +
          runs.countP fun run =>
            (inquiries.take place).any fun inquiry => inquiry.looksUp run.key))
  entries :
    (finish.store.hash hash).entries =
      (start.store.hash hash).entries ++ runs.map fun run => (run.key, run.value)
  raised : (finish.store.hash hash).size = (start.store.hash hash).size + runs.length

end Memoising

namespace HashState

variable {state : HashState} {key value : Value}

/-- A key that is not stored yet is stored at the end. -/
theorem entries_insert_of_absent
    (absent : state.contains key = false) :
    (state.insert key value).entries = state.entries ++ [(key, value)] := by
  have others : ∀ entry ∈ state.entries, entry.1.equal key = false := by
    simpa [contains] using absent
  have atEnd := store_append others value []
  simpa [insert, store] using atEnd

theorem contains_insert_of_absent
    (absent : state.contains key = false)
    (other : Value) :
    (state.insert key value).contains other =
      (state.contains other || key.equal other) := by
  simp [contains, entries_insert_of_absent absent]

/-- What is found is still found when more is stored at the end. -/
theorem find?_of_entries_append
    {later : HashState}
    {added : List (Value × Value)}
    (shape : later.entries = state.entries ++ added)
    (found : state.find? key = some value) :
    later.find? key = some value := by
  obtain ⟨entry, first, isValue⟩ := Option.map_eq_some_iff.mp found
  rw [find?, shape, List.find?_append, first, Option.some_or,
    Option.map_some, isValue]

theorem contains_of_find?
    (found : state.find? key = some value) :
    state.contains key = true := by
  rw [contains_eq_isSome, found]
  rfl

end HashState

namespace Inquiry

variable {state : HashState} {inquiry : Inquiry} {reply : Reply}

/-- A question that the state of a hash answers looks up nothing that is not stored. -/
theorem contains_or_looksUp
    (answered : inquiry.answer? state = some reply)
    (key : Value) :
    (state.contains key || inquiry.looksUp key) = state.contains key := by
  cases inquiry with
  | get other =>
      obtain ⟨value, found, -⟩ := Option.map_eq_some_iff.mp answered
      have present := HashState.contains_of_find? found
      cases looksUp : other.equal key with
      | true => rw [← HashState.contains_congr looksUp, present, Bool.true_or]
      | false => simp only [Inquiry.looksUp, looksUp, Bool.or_false]
  | contains other => exact Bool.or_false _
  | size => exact Bool.or_false _

/-- Only the lookup of an absent key is not answered by the state of a hash. -/
theorem eq_get_of_no_answer
    (unanswered : inquiry.answer? state = none) :
    ∃ key, inquiry = .get key ∧ state.contains key = false := by
  cases inquiry with
  | get key =>
      refine ⟨key, rfl, ?_⟩
      rw [HashState.contains_eq_isSome, Option.map_eq_none_iff.mp unanswered]
      rfl
  | contains key => cases unanswered
  | size => cases unanswered

theorem looksUp_of_absent
    {key : Value}
    (answered : inquiry.answer? state = some reply)
    (absent : state.contains key = false) :
    inquiry.looksUp key = false := by
  have noMore := contains_or_looksUp answered key
  rw [absent, Bool.false_or] at noMore
  exact noMore

end Inquiry

namespace HashRef.Asked

variable {World Label : Type} {program : Program World Label} {depth : Nat}
variable {compute : Value → Code World Label Raised Value}
variable {ready : Scene World Label → Prop}
variable {hash : HashRef} {start finish : Scene World Label}
variable {inquiries : List Inquiry} {replies : List Reply}
variable {runs : List (Computation World Label)}

/--
The runs add their values at the end and leave the entries that
were there as they are.
-/
theorem entries_eq
    (asked : hash.Asked program depth compute ready start inquiries replies runs finish) :
    (finish.store.hash hash).entries =
      (start.store.hash hash).entries ++ runs.map fun run =>
        (run.key, run.value) := by
  induction asked with
  | nil => simp
  | read answered later inductionHypothesis => exact inductionHypothesis
  | computed isReady absent ran kept later inductionHypothesis =>
      rw [inductionHypothesis, store_hash_update, kept,
        HashState.entries_insert_of_absent absent]
      simp

theorem ran
    (asked : hash.Asked program depth compute ready start inquiries replies runs finish) :
    ∀ run ∈ runs,
      program.run depth (compute run.key) run.before =
        (.returned run.value, run.after) := by
  induction asked with
  | nil => simp
  | read answered later inductionHypothesis => exact inductionHypothesis
  | computed isReady absent ran kept later inductionHypothesis =>
      exact List.forall_mem_cons.mpr ⟨ran, inductionHypothesis⟩

/--
A computation that notes its key notes the keys of the runs, and
nothing else is noted.
-/
theorem noted
    (asked : hash.Asked program depth compute ready start inquiries replies runs finish)
    {notes : World → List Value}
    (each : ∀ key scene,
      ready scene →
      notes (program.run depth (compute key) scene).2.world =
        notes scene.world ++ [key]) :
    notes finish.world = notes start.world ++ runs.map Computation.key := by
  induction asked with
  | nil => simp
  | read answered later inductionHypothesis => exact inductionHypothesis
  | @computed scene reached finish key value rest replies runs isReady
      absent ran kept later inductionHypothesis =>
      have notesKey : notes reached.world = notes scene.world ++ [key] := by
        rw [← each key scene isReady, ran]
      have noteRest :
          notes finish.world = notes reached.world ++ runs.map Computation.key :=
        inductionHypothesis
      rw [noteRest, notesKey, List.append_assoc]
      rfl

/-- Only a key that is looked up and was not stored is computed. -/
theorem only
    (asked : hash.Asked program depth compute ready start inquiries replies runs finish) :
    ∀ run ∈ runs,
      .get run.key ∈ inquiries ∧
        (start.store.hash hash).contains run.key = false := by
  induction asked with
  | nil => simp
  | read answered later inductionHypothesis =>
      intro run member
      obtain ⟨lookedUp, absent⟩ := inductionHypothesis run member
      exact ⟨List.mem_cons_of_mem _ lookedUp, absent⟩
  | computed isReady absent ran kept later inductionHypothesis =>
      refine List.forall_mem_cons.mpr ⟨⟨List.mem_cons_self, absent⟩, fun run member => ?_⟩
      obtain ⟨lookedUp, notStored⟩ := inductionHypothesis run member
      rw [store_hash_update, kept, HashState.contains_insert_of_absent absent,
        Bool.or_eq_false_iff] at notStored
      exact ⟨List.mem_cons_of_mem _ lookedUp, notStored.1⟩

/-- What was computed once is not computed again for an equal key. -/
theorem apart_of_insert
    {reached : Scene World Label}
    {state : HashState}
    {key value : Value}
    (asked :
      hash.Asked program depth compute ready
        (hash.update (fun state => state.insert key value) reached) inquiries
          replies runs finish)
    (kept : reached.store.hash hash = state)
    (absent : state.contains key = false) :
    ∀ run ∈ runs, key.equal run.key = false := by
  intro run member
  have notStored := (asked.only run member).2
  rw [store_hash_update, kept, HashState.contains_insert_of_absent absent,
    Bool.or_eq_false_iff] at notStored
  exact notStored.2

/-- A key that is looked up and was not stored is computed once for all that equal it. -/
theorem once
    {key : Value}
    (asked : hash.Asked program depth compute ready start inquiries replies runs finish)
    (lookedUp : inquiries.any (fun inquiry => inquiry.looksUp key) = true)
    (absent : (start.store.hash hash).contains key = false) :
    runs.countP (fun run => run.key.equal key) = 1 := by
  induction asked with
  | nil => cases lookedUp
  | @read scene finish inquiry reply rest replies runs answered
      later inductionHypothesis =>
      rw [List.any_cons, Inquiry.looksUp_of_absent answered absent,
        Bool.false_or] at lookedUp
      exact inductionHypothesis lookedUp absent
  | @computed scene reached finish first value rest replies runs isReady
      firstAbsent ran kept later inductionHypothesis =>
      have others := later.apart_of_insert kept firstAbsent
      cases isFirst : first.equal key with
      | true =>
          have noOther : runs.countP (fun run => run.key.equal key) = 0 := by
            rw [List.countP_eq_zero]
            intro run member
            rw [← Value.equal_congr_right isFirst,
              Value.equal_comm, others run member]
            exact Bool.false_ne_true
          rw [List.countP_cons, noOther, isFirst]
          rfl
      | false =>
          rw [List.countP_cons, isFirst]
          refine inductionHypothesis ?_ ?_
          · simpa [Inquiry.looksUp, isFirst] using lookedUp
          · rw [store_hash_update, kept,
              HashState.contains_insert_of_absent firstAbsent, absent, isFirst]
            rfl

/--
What was found at the start, or is found for a key that was
computed, is found at the end.
-/
theorem found
    (asked : hash.Asked program depth compute ready start inquiries replies runs finish) :
    ∀ run ∈ runs, (finish.store.hash hash).find? run.key = some run.value := by
  induction asked with
  | nil => simp
  | read answered later inductionHypothesis => exact inductionHypothesis
  | @computed scene reached finish key value rest replies runs isReady
      absent ran kept later inductionHypothesis =>
      refine List.forall_mem_cons.mpr ⟨?_, inductionHypothesis⟩
      refine HashState.find?_of_entries_append later.entries_eq ?_
      rw [store_hash_update]
      exact (HashState.stored_insert _ key value).found key
        (Value.equal_equivalence.refl key)

/-- A lookup is answered by what is found under its key at the end. -/
theorem gets
    {place : Nat}
    {key : Value}
    (asked : hash.Asked program depth compute ready start inquiries replies runs finish)
    (isGet : inquiries[place]? = some (Inquiry.get key)) :
    ∃ value,
      (finish.store.hash hash).find? key = some value ∧
        replies[place]? = some (Reply.value value) := by
  induction asked generalizing place with
  | nil => simp at isGet
  | read answered later inductionHypothesis =>
      cases place with
      | zero =>
          cases isGet
          obtain ⟨value, found, rfl⟩ := Option.map_eq_some_iff.mp answered
          exact ⟨value, HashState.find?_of_entries_append later.entries_eq found, rfl⟩
      | succ place => exact inductionHypothesis isGet
  | computed isReady absent ran kept later inductionHypothesis =>
      cases place with
      | zero =>
          cases isGet
          have computed := Asked.computed isReady absent ran kept later
          exact ⟨_, computed.found _ List.mem_cons_self, rfl⟩
      | succ place => exact inductionHypothesis isGet

/-- A key is stored if it was at the start or has been looked up before. -/
theorem flags
    {place : Nat}
    {key : Value}
    (asked : hash.Asked program depth compute ready start inquiries replies runs finish)
    (isContains : inquiries[place]? = some (Inquiry.contains key)) :
    replies[place]? =
      some (Reply.flag
        ((start.store.hash hash).contains key ||
          (inquiries.take place).any fun inquiry => inquiry.looksUp key)) := by
  induction asked generalizing place with
  | nil => simp at isContains
  | read answered later inductionHypothesis =>
      cases place with
      | zero =>
          cases isContains
          cases answered
          simp
      | succ place =>
          have reply := inductionHypothesis isContains
          simp only [List.getElem?_cons_succ, List.take_succ_cons, List.any_cons,
            ← Bool.or_assoc, Inquiry.contains_or_looksUp answered, reply]
  | computed isReady absent ran kept later inductionHypothesis =>
      cases place with
      | zero => cases isContains
      | succ place =>
          have reply := inductionHypothesis isContains
          rw [store_hash_update, kept,
            HashState.contains_insert_of_absent absent] at reply
          simp only [List.getElem?_cons_succ, List.take_succ_cons, List.any_cons,
            ← Bool.or_assoc, reply, Inquiry.looksUp]

/--
The size is that at the start, and one more for each run for a key
that was looked up before.
-/
theorem sizes
    {place : Nat}
    (asked : hash.Asked program depth compute ready start inquiries replies runs finish)
    (isSize : inquiries[place]? = some Inquiry.size) :
    replies[place]? =
      some (Reply.count
        ((start.store.hash hash).size +
          runs.countP fun run =>
            (inquiries.take place).any fun inquiry => inquiry.looksUp run.key)) := by
  induction asked generalizing place with
  | nil => simp at isSize
  | @read scene finish inquiry reply rest replies runs answered
      later inductionHypothesis =>
      cases place with
      | zero =>
          cases isSize
          cases answered
          simp
      | succ place =>
          have reply := inductionHypothesis isSize
          rw [List.getElem?_cons_succ, reply]
          congr 3
          refine List.countP_congr fun run member => ?_
          have absent := (later.only run member).2
          rw [List.take_succ_cons, List.any_cons,
            Inquiry.looksUp_of_absent answered absent, Bool.false_or]
  | @computed scene reached finish key value rest replies runs isReady
      absent ran kept later inductionHypothesis =>
      cases place with
      | zero => cases isSize
      | succ place =>
          have reply := inductionHypothesis isSize
          have others := later.apart_of_insert kept absent
          have grown :
              ((hash.update (fun state => state.insert key value) reached).store.hash
                hash).size = (scene.store.hash hash).size + 1 := by
            rw [store_hash_update, kept]
            exact ((HashState.stored_insert _ key value).added absent).2
          have sameRuns :
              (runs.countP fun run =>
                  ((Inquiry.get key :: rest).take (place + 1)).any fun inquiry =>
                    inquiry.looksUp run.key) =
                runs.countP fun run =>
                  (rest.take place).any fun inquiry => inquiry.looksUp run.key := by
            refine List.countP_congr fun run member => ?_
            simp only [List.take_succ_cons, List.any_cons, Inquiry.looksUp,
              others run member, Bool.false_or]
          have first : (Inquiry.get key).looksUp key = true :=
            Value.equal_equivalence.refl key
          rw [List.getElem?_cons_succ, reply, grown, List.countP_cons, sameRuns,
            List.take_succ_cons, List.any_cons, first, Bool.true_or, if_pos rfl]
          congr 2
          omega

end HashRef.Asked

namespace HashRef.Memoises

variable {World Label : Type} {program : Program World Label} {depth : Nat}
variable {compute : Value → Code World Label Raised Value}
variable {ready : Scene World Label → Prop}
variable {hash : HashRef} {callable : Proc} {label : Label}
variable {scene reached : Scene World Label} {key value : Value}

theorem receives
    (memoises : hash.Memoises program compute callable label scene)
    (key : Value) :
    callable.receive [.hash hash, key] = .ok [.hash hash, key] := by
  apply Proc.receive_of_accepts
  rw [memoises.takesTwo]
  rfl

/-- A lookup of an absent key runs the body of the callable. -/
theorem callee?_eq
    (memoises : hash.Memoises program compute callable label scene)
    (absent : (scene.store.hash hash).contains key = false) :
    (Inquiry.get key).callee? hash scene =
      some (label, [.hash hash, key], scene) := by
  have notFound : (scene.store.hash hash).find? key = none := by
    simpa [HashState.contains_eq_isSome] using absent
  simp only [Inquiry.callee?, Operation.callee?, notFound, memoises.falls,
    Proc.callee?, memoises.receives, memoises.behaves, Option.map_some]

/-- The value of an absent key is computed, is stored at the end and answered. -/
theorem perform_get
    (memoises : hash.Memoises program compute callable label scene)
    (absent : (scene.store.hash hash).contains key = false)
    (ran : program.run depth (compute key) scene = (.returned value, reached))
    (kept : reached.store.hash hash = scene.store.hash hash) :
    (Operation.get hash key).perform (program.invoke (depth + 1)) scene =
      (.returned value, hash.update (fun state => state.insert key value) reached) := by
  have unfrozen : (reached.store.hash hash).frozen = false := by
    rw [kept, memoises.unfrozen]
  have inserted :
      (Operation.insert hash key value).perform (program.invoke depth) reached =
        (.returned .nil, hash.update (fun state => state.insert key value) reached) := by
    rw [perform_insert, unfrozen]
    rfl
  obtain ⟨_, _, executed, rfl, rfl⟩ :
      (Code.memoise compute hash key).Returns
        (program.invoke depth) scene fun answer after =>
        answer = value ∧
          after = hash.update (fun state => state.insert key value) reached :=
    .bind ⟨value, reached, ran, .bind (Code.returns_perform inserted
      (Code.returns_pure ⟨rfl, rfl⟩))⟩
  have looked :=
    (computesOnce_of_receives absent memoises.falls (memoises.receives key)).ending
      (program.invoke (depth + 1))
  rw [Operation.perform, looked, Proc.runBody, memoises.behaves]
  change (program.body label [.hash hash, key]).execute
    (program.invoke depth) scene = _
  rw [memoises.body, executed]

/--
A hash still memoises after a run that leaves it as it was, and
after what the run stores.
-/
theorem persists
    (memoises : hash.Memoises program compute callable label scene)
    (grows : scene.store.Grows reached.store)
    (kept : reached.store.hash hash = scene.store.hash hash) :
    hash.Memoises program compute callable label
      (hash.update (fun state => state.insert key value) reached) where
  made := Nat.lt_of_lt_of_le memoises.made grows.next_le
  unfrozen := by
    rw [store_hash_update, kept]
    exact memoises.unfrozen
  falls := by
    rw [store_hash_update, kept]
    exact memoises.falls
  callableMade := Nat.lt_of_lt_of_le memoises.callableMade grows.next_le
  takesTwo := memoises.takesTwo
  behaves :=
    (grows.behaviours callable.id memoises.callableMade).trans memoises.behaves
  body := memoises.body

end HashRef.Memoises

namespace Inquiry

variable {World Label : Type} {invoke : Invoke World Label} {hash : HashRef}
variable {scene reached finish : Scene World Label} {inquiry : Inquiry}
variable {reply : Reply}
variable {rest : List Inquiry} {replies : List Reply}

/-- A question that the state of a hash answers runs nothing and changes nothing. -/
theorem ask_of_answer?
    (answered : inquiry.answer? (scene.store.hash hash) = some reply)
    (invoke : Invoke World Label) :
    (inquiry.ask hash).execute invoke scene = (.returned reply, scene) ∧
      inquiry.callee? hash scene = none := by
  cases inquiry with
  | get key =>
      obtain ⟨value, found, rfl⟩ := Option.map_eq_some_iff.mp answered
      refine ⟨?_, ?_⟩
      · have looked := HashRef.get_of_found found invoke
        obtain ⟨_, _, executed, rfl, rfl⟩ :
            ((Inquiry.get key).ask hash).Returns invoke scene fun answer after =>
              answer = .value value ∧ after = scene :=
          .bind (Code.returns_perform looked (Code.returns_pure ⟨rfl, rfl⟩))
        exact executed
      · simp only [callee?, Operation.callee?, found, Option.map_none]
  | contains key =>
      cases answered
      exact ⟨rfl, rfl⟩
  | size =>
      cases answered
      exact ⟨rfl, rfl⟩

/--
Questions are asked one after the other, each from the scene that
the one before leaves.
-/
theorem askAll_cons
    (first : (inquiry.ask hash).execute invoke scene = (.returned reply, reached))
    (later : (askAll hash rest).execute invoke reached = (.returned replies, finish)) :
    (askAll hash (inquiry :: rest)).execute invoke scene =
        (.returned (reply :: replies), finish) ∧
      callees invoke hash (inquiry :: rest) scene =
        (inquiry.callee? hash scene).toList ++ callees invoke hash rest reached := by
  refine ⟨?_, ?_⟩
  · obtain ⟨_, _, executed, rfl, rfl⟩ :
        (askAll hash (inquiry :: rest)).Returns invoke scene fun answers after =>
          answers = reply :: replies ∧ after = finish :=
      .bind ⟨reply, reached, first, .bind ⟨replies, finish, later,
        Code.returns_pure ⟨rfl, rfl⟩⟩⟩
    exact executed
  · rw [callees, first]

end Inquiry

namespace HashRef

variable {World Label : Type} {program : Program World Label} {depth : Nat}
variable {compute : Value → Code World Label Raised Value}
variable {ready : Scene World Label → Prop}
variable {hash : HashRef} {callable : Proc} {label : Label}

/-- Whatever a memoising hash is asked, it replies, and runs the computation as needed. -/
theorem exists_asked
    (computes : Computes program depth compute ready)
    (inquiries : List Inquiry)
    {start : Scene World Label}
    (memoises : hash.Memoises program compute callable label start)
    (isReady : ready start) :
    ∃ replies runs finish,
      hash.Asked program depth compute ready start inquiries replies runs finish ∧
        program.run (depth + 1) (Inquiry.askAll hash inquiries) start =
          (.returned replies, finish) ∧
        Inquiry.callees (program.invoke (depth + 1)) hash inquiries start =
          runs.map fun run => (label, [.hash hash, run.key], run.before) := by
  induction inquiries generalizing start with
  | nil => exact ⟨[], [], start, .nil, rfl, rfl⟩
  | cons inquiry rest inductionHypothesis =>
      cases answered : inquiry.answer? (start.store.hash hash) with
      | some reply =>
          obtain ⟨replies, runs, finish, asked, answers, calls⟩ :=
            inductionHypothesis memoises isReady
          obtain ⟨first, noCallee⟩ :=
            Inquiry.ask_of_answer? answered (program.invoke (depth + 1))
          obtain ⟨allAnswer, allCall⟩ := Inquiry.askAll_cons first answers
          refine ⟨reply :: replies, runs, finish,
            .read answered asked, allAnswer, ?_⟩
          rw [allCall, noCallee, calls]
          rfl
      | none =>
          obtain ⟨key, rfl, absent⟩ := Inquiry.eq_get_of_no_answer answered
          obtain ⟨value, reached, ran, reachedReady, untouched⟩ :=
            computes.succeeds key isReady
          have kept := untouched hash memoises.made
          have grows : start.store.Grows reached.store := by
            have along :=
              program.respects_grows.moments_along depth
                (compute key) start fun _ _ => trivial
            have ends : (program.run depth (compute key) start).2 = reached :=
              congrArg Prod.snd ran
            rw [← ends]
            exact along.through.store
          obtain ⟨replies, runs, finish, asked, answers, calls⟩ :=
            inductionHypothesis (memoises.persists grows kept)
              (computes.apart hash _ reachedReady)
          have first :
              ((Inquiry.get key).ask hash).execute
                (program.invoke (depth + 1)) start =
                (.returned (.value value),
                  hash.update (fun state => state.insert key value) reached) := by
            obtain ⟨_, _, executed, rfl, rfl⟩ :
                ((Inquiry.get key).ask hash).Returns
                  (program.invoke (depth + 1)) start
                  fun answer after =>
                    answer = .value value ∧
                      after = hash.update (fun state => state.insert key value) reached :=
              .bind (Code.returns_perform (memoises.perform_get absent ran kept)
                (Code.returns_pure ⟨rfl, rfl⟩))
            exact executed
          obtain ⟨allAnswer, allCall⟩ := Inquiry.askAll_cons first answers
          refine ⟨_, _, finish,
            .computed isReady absent ran kept asked, allAnswer, ?_⟩
          rw [allCall, memoises.callee?_eq absent, calls]
          rfl

/--
However a memoising hash is asked, it computes each class of keys that is looked up
without being stored once, and answers the one value that it keeps for the class.
-/
theorem memoised
    (computes : Computes program depth compute ready)
    {start : Scene World Label}
    (memoises : hash.Memoises program compute callable label start)
    (isReady : ready start)
    (inquiries : List Inquiry) :
    ∃ replies runs finish,
      hash.Memoised program depth compute ready label start inquiries
        replies runs finish := by
  obtain ⟨replies, runs, finish, asked, answers, calls⟩ :=
    exists_asked computes inquiries memoises isReady
  refine ⟨replies, runs, finish, ?_⟩
  exact {
    answers := answers
    callees := calls
    ran := asked.ran
    once := asked.once
    only := asked.only
    noted := fun notes each => asked.noted each
    stored := by
      intro place key value isGet found
      obtain ⟨answer, foundAtEnd, replied⟩ := asked.gets isGet
      have kept := HashState.find?_of_entries_append asked.entries_eq found
      rw [foundAtEnd] at kept
      cases kept
      exact replied
    computed := by
      intro place key run isGet member alike
      obtain ⟨answer, foundAtEnd, replied⟩ := asked.gets isGet
      have computed := asked.found run member
      rw [HashState.find?_congr alike, foundAtEnd] at computed
      cases computed
      exact replied
    flags := asked.flags
    sizes := asked.sizes
    entries := asked.entries_eq
    raised := by
      simp [HashState.size, asked.entries_eq] }

end HashRef

/-- Makes a new text each time, and notes for which key. -/
def freshText (key : Value) : Code (List Value) Unit Raised Value := do
  Code.changeWorld fun noted => noted ++ [key]
  Code.newText "fresh"

/-- A program whose one body memoises new texts. -/
def freshTexts : Program (List Value) Unit where
  body
    | _, [.hash hash, key] => Code.memoise freshText hash key
    | _, _ => pure .nil

/-- A lambda with this body, a hash that falls back to it, and two more texts. -/
def freshTextsScene : Scene (List Value) Unit where
  store :=
    let withProc := (Store.empty.newProc .lambda (.exactly 2) (.body ())).2
    (withProc.newHash (.computed ⟨0, .lambda, .exactly 2⟩)).2.advance.advance
  context := .new ⟨"x86_64-linux"⟩
  world := []

/-- One new text is made for two equal keys. -/
theorem memoised_freshTexts :
    ∃ runs finish,
      (⟨1⟩ : HashRef).Memoised freshTexts 0 freshText
        (fun _ => True) () freshTextsScene
        [.contains (.text ⟨3, "key"⟩), .get (.text ⟨2, "key"⟩),
          .contains (.text ⟨3, "key"⟩), .get (.text ⟨3, "key"⟩), .size]
        [.flag false, .value (.text ⟨4, "fresh"⟩),
          .flag true, .value (.text ⟨4, "fresh"⟩), .count 1]
        runs finish := by
  have computes : Computes freshTexts 0 freshText fun _ => True := {
    succeeds := fun key scene _ => ⟨_, _, rfl, trivial, fun _ _ => rfl⟩
    apart := fun _ _ _ => trivial }
  have memoises :
      (⟨1⟩ : HashRef).Memoises freshTexts freshText ⟨0, .lambda, .exactly 2⟩ ()
        freshTextsScene := {
    made := by decide
    unfrozen := rfl
    falls := rfl
    callableMade := by decide
    takesTwo := rfl
    behaves := rfl
    body := fun _ => rfl }
  obtain ⟨replies, runs, finish, memoised⟩ :=
    HashRef.memoised computes memoises trivial
      [.contains (.text ⟨3, "key"⟩), .get (.text ⟨2, "key"⟩),
        .contains (.text ⟨3, "key"⟩), .get (.text ⟨3, "key"⟩), .size]
  have replied := congrArg Prod.fst memoised.answers
  cases replied
  exact ⟨runs, finish, memoised⟩

end Conformance
