import Conformance.Proofs.Stub.Verification
import Mathlib.Data.List.Dedup
import Mathlib.Data.List.DropRight

namespace Conformance

/-!
# The history of a stub

What a stub keeps is an account of the calls that concerned it.  A method has one
declaration, with what the calls since its latest declaration come to, and the
declarations stand in the order of these.  Every call turns the account of the
earlier calls into the account that includes it.
-/

/-- A call that concerns a stub. -/
inductive StubCall where
  | shouldReceive (method : String)
  | andReturn (method : String) (value : Value)
  | exactly (method : String) (count : Nat)
  | send (method : String)
  deriving DecidableEq

/-- Changes a declaration if it is one of the given method. -/
def Declaration.changeFor
    (method : String)
    (change : Declaration → Declaration)
    (declaration : Declaration) :
    Declaration :=
  if declaration.method = method then change declaration else declaration

namespace StubCall

/-- The method that a call declares. -/
def declared? : StubCall → Option String
  | .shouldReceive method => some method
  | _ => none

/-- The answer that a call sets for a method. -/
def answer? (method : String) : StubCall → Option Value
  | .andReturn other value => if other = method then some value else none
  | _ => none

/-- The number of calls that a call sets for a method. -/
def limit? (method : String) : StubCall → Option Nat
  | .exactly other count => if other = method then some count else none
  | _ => none

/-- What a call does to a declaration that is already there. -/
def refine : StubCall → Declaration → Declaration
  | .shouldReceive _ => id
  | .andReturn method value =>
      .changeFor method fun declaration => { declaration with returns := value }
  | .exactly method count =>
      .changeFor method fun declaration =>
        { declaration with expected := .exactly count }
  | .send method =>
      .changeFor method fun declaration =>
        { declaration with calls := declaration.calls + 1 }

end StubCall

/--
The methods that calls declare, each once, in the order of
their latest declarations.
-/
def declaredMethods (log : List StubCall) : List String :=
  (log.filterMap StubCall.declared?).dedup

/-- The calls after the latest declaration of a method. -/
def callsSince (method : String) (log : List StubCall) : List StubCall :=
  log.rtakeWhile fun call => call ≠ .shouldReceive method

/--
What the calls since the latest declaration of a method come to: the last answer
that was set, or `nil`, the last number of calls that was set, or at least one, and
how often the method was called.
-/
def declarationOf (log : List StubCall) (method : String) : Declaration where
  method := method
  returns :=
    ((callsSince method log).filterMap (StubCall.answer? method)).getLast?.getD .nil
  expected :=
    (((callsSince method log).filterMap (StubCall.limit? method)).getLast?.map
      ExpectedCalls.exactly).getD .atLeastOnce
  calls := (callsSince method log).count (.send method)

namespace StubState

/-- What a call makes of a stub. -/
def take (stub : StubState) : StubCall → StubState
  | .shouldReceive method => stub.shouldReceive method
  | .andReturn method value => stub.andReturn method value
  | .exactly method count => stub.exactly method count
  | .send method =>
      match stub.receive? method with
      | some (_, counted) => counted
      | none => stub

/-- A stub with an account of all calls that concerned it. -/
def account (name : String) (log : List StubCall) : StubState :=
  ⟨name, (declaredMethods log).map (declarationOf log)⟩

/-- A call of a method is counted, and nothing else about the stub changes. -/
structure Counted
    (method : String)
    (before after : StubState) : Prop where
  count : after.callCount method = before.callCount method + 1
  others : ∀ other, other ≠ method → after.find? other = before.find? other
  order :
    after.declarations.map Declaration.method =
      before.declarations.map Declaration.method

/-- A stub gives account of the calls that concerned it, to whoever asks. -/
structure Accounts
    (name : String)
    (log : List StubCall)
    (stub : StubState) : Prop where
  once : (stub.declarations.map Declaration.method).Nodup
  order : stub.declarations.map Declaration.method = declaredMethods log
  responds : ∀ method, stub.respondsTo method = true ↔ .shouldReceive method ∈ log
  callCount : ∀ method,
    stub.callCount method =
      if .shouldReceive method ∈ log then
        (callsSince method log).count (.send method) else 0
  answers : ∀ method,
    .shouldReceive method ∈ log →
    ∃ counted,
      stub.receive? method = some ((declarationOf log method).returns, counted) ∧
        StubState.Counted method stub counted
  refuses : ∀ method, .shouldReceive method ∉ log → stub.receive? method = none
  met :
    stub.firstUnmet? = none ↔
      ∀ method, .shouldReceive method ∈ log → (declarationOf log method).Met
  unmet : ∀ call,
    stub.firstUnmet? = some call ↔
      ∃ earlier method later,
        declaredMethods log = earlier ++ method :: later ∧
          (∀ before ∈ earlier, (declarationOf log before).Met) ∧
          ¬ (declarationOf log method).Met ∧
          call =
            ⟨name, method, (declarationOf log method).expected.text,
              (declarationOf log method).calls⟩

end StubState

namespace Declaration

variable {method : String} {change : Declaration → Declaration}

@[simp] theorem changeFor_same
    {declaration : Declaration}
    (same : declaration.method = method) :
    declaration.changeFor method change = change declaration :=
  if_pos same

@[simp] theorem changeFor_other
    {declaration : Declaration}
    (different : declaration.method ≠ method) :
    declaration.changeFor method change = declaration :=
  if_neg different

/-- Where a method is not declared, no declaration changes. -/
theorem map_changeFor_of_undeclared
    {declarations : List Declaration}
    (undeclared : ∀ declaration ∈ declarations, declaration.method ≠ method) :
    declarations.map (changeFor method change) = declarations := by
  have unchanged : ∀ declaration ∈ declarations,
      declaration.changeFor method change = id declaration :=
    fun declaration member => changeFor_other (undeclared declaration member)
  exact (List.map_congr_left unchanged).trans (List.map_id declarations)

end Declaration

theorem mem_declaredMethods {method : String} {log : List StubCall} :
    method ∈ declaredMethods log ↔ .shouldReceive method ∈ log := by
  simp only [declaredMethods, List.mem_dedup, List.mem_filterMap]
  constructor
  · rintro ⟨call, member, declares⟩
    cases call with
    | shouldReceive other =>
        cases declares
        exact member
    | _ => cases declares
  · intro member
    exact ⟨_, member, rfl⟩

/-- Of equal items the last one is kept. -/
theorem dedup_concat
    {Item : Type}
    [DecidableEq Item]
    (items : List Item)
    (item : Item) :
    (items ++ [item]).dedup =
      (items.dedup.filter fun other => !decide (other = item)) ++ [item] := by
  induction items with
  | nil => rfl
  | cons head rest inductionHypothesis =>
      by_cases repeated : head ∈ rest
      · have stillRepeated : head ∈ rest ++ [item] := List.mem_append_left _ repeated
        simp only [List.cons_append, List.dedup_cons_of_mem stillRepeated,
          List.dedup_cons_of_mem repeated, inductionHypothesis]
      · by_cases same : head = item
        · subst same
          have repeatedAtEnd : head ∈ rest ++ [head] := by simp
          simp [List.dedup_cons_of_mem repeatedAtEnd,
            List.dedup_cons_of_notMem repeated, inductionHypothesis]
        · have stillNew : head ∉ rest ++ [item] := by simp [repeated, same]
          simp [List.dedup_cons_of_notMem stillNew,
            List.dedup_cons_of_notMem repeated, inductionHypothesis, same]

/-- A method that is declared again moves to the end. -/
theorem declaredMethods_shouldReceive (log : List StubCall) (method : String) :
    declaredMethods (log ++ [.shouldReceive method]) =
      ((declaredMethods log).filter fun other => !decide (other = method)) ++
        [method] := by
  simp only [declaredMethods, List.filterMap_append]
  exact dedup_concat _ method

theorem declaredMethods_other
    {call : StubCall}
    (log : List StubCall)
    (declaresNone : call.declared? = none) :
    declaredMethods (log ++ [call]) = declaredMethods log := by
  simp [declaredMethods, declaresNone]

theorem callsSince_concat
    {call : StubCall}
    {method : String}
    (log : List StubCall)
    (different : call ≠ .shouldReceive method) :
    callsSince method (log ++ [call]) = callsSince method log ++ [call] :=
  List.rtakeWhile_concat_pos _ _ _ (by simpa using different)

/-- A method that has just been declared has nothing to account for. -/
theorem declarationOf_declared (log : List StubCall) (method : String) :
    declarationOf (log ++ [.shouldReceive method]) method =
      ⟨method, .nil, .atLeastOnce, 0⟩ := by
  have noCalls : callsSince method (log ++ [.shouldReceive method]) = [] :=
    List.rtakeWhile_concat_neg _ _ _ (by simp)
  simp [declarationOf, noCalls]

/-- Any other call refines what the calls before it come to. -/
theorem declarationOf_concat
    {call : StubCall}
    {method : String}
    (log : List StubCall)
    (different : call ≠ .shouldReceive method) :
    declarationOf (log ++ [call]) method =
      call.refine (declarationOf log method) := by
  simp only [declarationOf, callsSince_concat log different]
  cases call with
  | shouldReceive other => simp [StubCall.refine, StubCall.answer?, StubCall.limit?]
  | andReturn other | exactly other | send other =>
      by_cases same : method = other
      · simp [StubCall.refine, StubCall.answer?, StubCall.limit?, same]
      · have unlike : other ≠ method := Ne.symm same
        simp [StubCall.refine, StubCall.answer?, StubCall.limit?, same, unlike]

namespace StubState

/-- Where no method is declared twice, refining one changes every declaration of it. -/
theorem refine_eq_map
    {declarations : List Declaration}
    (distinct : (declarations.map Declaration.method).Nodup)
    (method : String)
    (change : Declaration → Declaration) :
    refine method change declarations =
      declarations.map (.changeFor method change) := by
  induction declarations with
  | nil => rfl
  | cons declaration rest inductionHypothesis =>
      obtain ⟨notInRest, restDistinct⟩ := List.nodup_cons.mp distinct
      by_cases same : declaration.method = method
      · have others : ∀ other ∈ rest, other.method ≠ method := by
          intro other member isMethod
          exact notInRest (List.mem_map.mpr ⟨other, member, isMethod.trans same.symm⟩)
        simp [refine, same, Declaration.map_changeFor_of_undeclared others]
      · simp [refine, same, inductionHypothesis restDistinct]

/-- A call that declares nothing refines every declaration. -/
theorem take_eq_map
    {stub : StubState}
    {call : StubCall}
    (distinct : (stub.declarations.map Declaration.method).Nodup)
    (declaresNone : call.declared? = none) :
    stub.take call = { stub with declarations := stub.declarations.map call.refine } := by
  cases call with
  | shouldReceive => cases declaresNone
  | andReturn method value =>
      simp only [take, andReturn, refine_eq_map distinct]
      rfl
  | exactly method count =>
      simp only [take, exactly, refine_eq_map distinct]
      rfl
  | send method =>
      cases found : stub.find? method with
      | some declaration =>
          simp only [take, receive?, found, Option.map_some, refine_eq_map distinct]
          rfl
      | none =>
          have undeclared :
              ∀ declaration ∈ stub.declarations, declaration.method ≠ method := by
            simpa [find?] using found
          have unchanged :
              stub.declarations.map (StubCall.send method).refine =
                stub.declarations :=
            Declaration.map_changeFor_of_undeclared undeclared
          simp only [take, receive?, found, Option.map_none, unchanged]

theorem map_method_account (name : String) (log : List StubCall) :
    (account name log).declarations.map Declaration.method =
      declaredMethods log := by
  simp only [account, List.map_map]
  exact List.map_id (declaredMethods log)

/--
Every call turns the account of the earlier calls into the account that includes it.
-/
theorem take_account
    (name : String)
    (log : List StubCall)
    (call : StubCall) :
    (account name log).take call = account name (log ++ [call]) := by
  have distinct :
      ((account name log).declarations.map Declaration.method).Nodup := by
    rw [map_method_account]
    exact List.nodup_dedup _
  cases declares : call.declared? with
  | none =>
      have refines : ∀ method ∈ declaredMethods log,
          call.refine (declarationOf log method) =
            declarationOf (log ++ [call]) method := by
        intro method _
        refine (declarationOf_concat log ?_).symm
        rintro rfl
        cases declares
      rw [take_eq_map distinct declares]
      simp only [account, declaredMethods_other log declares, List.map_map]
      exact congrArg (StubState.mk name) (List.map_congr_left refines)
  | some method =>
      obtain rfl : call = .shouldReceive method := by
        cases call <;> cases declares
        rfl
      -- the method leaves its old place, and what the others come to stays
      have kept :
          ∀ other ∈ (declaredMethods log).filter fun other => !decide (other = method),
            declarationOf log other =
              declarationOf (log ++ [.shouldReceive method]) other := by
        intro other member
        have different : StubCall.shouldReceive method ≠ .shouldReceive other := by
          rintro ⟨⟩
          simp at member
        exact (declarationOf_concat log different).symm
      simp only [take, shouldReceive, account, declaredMethods_shouldReceive,
        List.map_append, List.map_cons, List.map_nil, declarationOf_declared,
        ← List.map_congr_left kept, List.filter_map]
      rfl

/-- A stub keeps an account of all calls that concerned it. -/
theorem foldl_take (name : String) (log : List StubCall) :
    log.foldl take (.new name) = account name log := by
  induction log using List.reverseRecOn with
  | nil => rfl
  | append_singleton earlier call inductionHypothesis =>
      rw [List.foldl_append, inductionHypothesis]
      exact take_account name earlier call

/--
Declaring a method again takes back its refinements and its count,
and moves it to the end.
-/
example :
    [.shouldReceive "a", .exactly "a" 2, .shouldReceive "b", .send "a",
      .shouldReceive "a"].foldl
        take (.new "stub") =
      ⟨"stub", [⟨"b", .nil, .atLeastOnce, 0⟩, ⟨"a", .nil, .atLeastOnce, 0⟩]⟩ := by
  decide

theorem find?_account
    (name : String)
    (log : List StubCall)
    (method : String) :
    (account name log).find? method =
      if .shouldReceive method ∈ log then
        some (declarationOf log method) else none := by
  have found :
      (account name log).find? method =
        ((declaredMethods log).find? fun other => other == method).map
          (declarationOf log) :=
    List.find?_map
  rw [found]
  by_cases declared : .shouldReceive method ∈ log
  · have isFound :
        ((declaredMethods log).find? fun other => other == method).isSome = true :=
      List.find?_isSome.mpr
        ⟨method, mem_declaredMethods.mpr declared, beq_self_eq_true method⟩
    obtain ⟨other, finds⟩ := Option.isSome_iff_exists.mp isFound
    obtain rfl : other = method := by simpa using List.find?_some finds
    simp only [finds, declared, Option.map_some, ↓reduceIte]
  · have isMissing :
        ((declaredMethods log).find? fun other => other == method) = none := by
      apply List.find?_eq_none.mpr
      intro other member same
      obtain rfl : other = method := eq_of_beq same
      exact declared (mem_declaredMethods.mp member)
    simp only [isMissing, declared, Option.map_none, ↓reduceIte]

/-- Counting a call of a declared method changes the account of that method only. -/
theorem counted_account
    (name : String)
    {log : List StubCall}
    {method : String}
    (declared : .shouldReceive method ∈ log) :
    Counted method (account name log) (account name (log ++ [.send method])) where
  count := by
    have notDeclaring : StubCall.send method ≠ .shouldReceive method := by simp
    simp [callCount, find?_account, declared, declarationOf,
      callsSince_concat log notDeclaring]
  others := by
    intro other different
    have notDeclaring : StubCall.send method ≠ .shouldReceive other := by simp
    have isOther : (declarationOf log other).method ≠ method := different
    simp [find?_account, declarationOf_concat log notDeclaring,
      StubCall.refine, isOther]
  order := by
    have declaresNone : (StubCall.send method).declared? = none := rfl
    simp only [map_method_account, declaredMethods_other log declaresNone]

theorem receive?_account
    (name : String)
    (log : List StubCall)
    (method : String) :
    (account name log).receive? method =
      if .shouldReceive method ∈ log then
        some ((declarationOf log method).returns, account name (log ++ [.send method]))
      else none := by
  have taken := take_account name log (.send method)
  have found := find?_account name log method
  by_cases declared : .shouldReceive method ∈ log
  · simp only [declared, ↓reduceIte] at found ⊢
    simp only [take, receive?, found, Option.map_some] at taken
    simp only [receive?, found, Option.map_some, taken]
  · simp only [declared, ↓reduceIte] at found ⊢
    simp only [receive?, found, Option.map_none]

/-- A stub gives account of all calls that concerned it. -/
theorem accounts_account (name : String) (log : List StubCall) :
    (account name log).Accounts name log where
  once := by
    rw [map_method_account]
    exact List.nodup_dedup _
  order := map_method_account name log
  responds := by
    intro method
    rw [← mem_declaredMethods, ← map_method_account name log]
    simp [respondsTo]
  callCount := by
    intro method
    by_cases declared : .shouldReceive method ∈ log
    · simp only [callCount, find?_account, declared, ↓reduceIte]
      rfl
    · simp only [callCount, find?_account, declared, ↓reduceIte]
  answers := by
    intro method declared
    rw [receive?_account, if_pos declared]
    exact ⟨_, rfl, counted_account name declared⟩
  refuses := by
    intro method undeclared
    rw [receive?_account, if_neg undeclared]
  met := by
    simp only [firstUnmet?_eq_none_iff, AllMet, account, List.forall_mem_map,
      mem_declaredMethods]
  unmet := by
    intro call
    rw [firstUnmet?_eq_some_iff]
    constructor
    · rintro ⟨earlier, declaration, later, shape, met, unmet, rfl⟩
      obtain ⟨before, rest, methods, rfl, restShape⟩ :=
        List.map_eq_append_iff.mp shape
      obtain ⟨method, after, rfl, rfl, rfl⟩ := List.map_eq_cons_iff.mp restShape
      exact ⟨before, method, after, methods, List.forall_mem_map.mp met, unmet, rfl⟩
    · rintro ⟨before, method, after, methods, met, unmet, rfl⟩
      have shape :
          (account name log).declarations =
            (before ++ method :: after).map (declarationOf log) := by
        rw [← methods]
        rfl
      rw [List.map_append, List.map_cons] at shape
      exact ⟨_, _, _, shape, List.forall_mem_map.mpr met, unmet, rfl⟩

end StubState

end Conformance
