import OnlineJudge.Admin.TestIds
import OnlineJudge.Library.TransitionSystem

/-!
# The test cases of a question

`AdminCreateTestCase` and `AdminUpdateTestCase` (`oj_admin_service_impl.cpp`) with the methods of
`model_question.hpp`, for the rows of one question.
-/

namespace OnlineJudge.Submissions

open List

open Questions (isValidQuestionId)

open Admin (isDigits maxTestOrdinal encodeTestId)

structure TestRow where
  id : Int8
  input : Bytes
  output : Bytes
  isSample : Bool
  deriving DecidableEq

/-- A `TEXT` column: what it keeps of a text, or `none` where the statement fails. -/
structure TextColumn where
  store : Bytes → Option Bytes
  bounded : ∀ {value kept}, store value = some kept → kept.length ≤ 65535

def getTestsByQuestionId (table : List TestRow) : List TestRow :=
  table.insertionSort fun lhs rhs => lhs.id ≤ rhs.id

def nextId (seen : List TestRow) : Int :=
  seen.foldl (fun next item => max next (item.id.toInt + 1)) 1

variable (column : TextColumn)

/-- `CreateTestCase`, with the table and the ordinal afterwards; `none` where it returns
`false`. -/
def createTestCase (questionId : Bytes) (seen table : List TestRow) (input output : Bytes)
    (isSample : Bool) : Option (Int × List TestRow) :=
  if !isValidQuestionId questionId then none
  else if nextId seen > 127 then none
  else
    match column.store input, column.store output with
    | some input, some output =>
      -- the unique key
      if table.any (·.id = Int8.ofInt (nextId seen)) then none
      else some (nextId seen, table ++ [⟨Int8.ofInt (nextId seen), input, output, isSample⟩])
    | _, _ => none

def updateTestCase (testId : Int) (questionId : Bytes) (table : List TestRow) (input output : Bytes)
    (isSample : Bool) : Option (List TestRow) :=
  if !isValidQuestionId questionId || testId ≤ 0 || testId > 127 then none
  else if !table.any (·.id = Int8.ofInt testId) then none
  else
    match column.store input, column.store output with
    | some input, some output =>
      some (table.map fun item =>
        if item.id = Int8.ofInt testId then { item with input, output, isSample } else item)
    | _, _ => none

structure Failure where
  code : Nat
  message : String
  deriving DecidableEq

/-- `message TestCase` of `common.proto`, which both requests have. -/
structure TestCaseMessage where
  testCaseId : UInt64 := 0
  questionId : Bytes
  ordinal : UInt32
  input : Bytes
  expectedOutput : Bytes
  isSample : Bool := false
  deriving DecidableEq

/-- The ordinal that `AdminCreateTestCase` expects. -/
def expectedOrdinal (existing : List TestRow) : Int :=
  match (getTestsByQuestionId existing).getLast? with
  | none => 1
  | some item => item.id.toInt + 1

/-- `AdminCreateTestCase`, with the table afterwards.  `existing` are the rows that it has listed,
and `seen` those that the transaction has seen. -/
def adminCreateTestCase (request : TestCaseMessage)
    (existing : Option (List TestRow)) (seen table : List TestRow) :
    List TestRow × Except Failure Unit :=
  if !isDigits request.questionId || request.ordinal = 0 || request.ordinal > maxTestOrdinal then
    (table, .error ⟨400, "INVALID_TEST_CASE_KEY"⟩)
  else
    match existing with
    | none => (table, .error ⟨500, "LOAD_TEST_CASES_FAILED"⟩)
    | some existing =>
      if (request.ordinal.toNat : Int) ≠ expectedOrdinal existing then
        (table, .error ⟨409, "TEST_ORDINAL_CONFLICT"⟩)
      else
        match createTestCase column request.questionId seen table request.input
          request.expectedOutput request.isSample with
        | none => (table, .error ⟨500, "CREATE_TEST_CASE_FAILED"⟩)
        | some (ordinal, after) =>
          -- the row stays when the ordinal is another one
          (after,
            if ordinal ≠ request.ordinal.toNat then .error ⟨500, "CREATE_TEST_CASE_FAILED"⟩
            else .ok ())

def adminUpdateTestCase (request : TestCaseMessage) (table : List TestRow) :
    List TestRow × Except Failure Unit :=
  if !isDigits request.questionId || request.ordinal = 0 || request.ordinal > maxTestOrdinal then
    (table, .error ⟨400, "INVALID_TEST_CASE_KEY"⟩)
  else if request.testCaseId ≠ 0 ∧
      request.testCaseId ≠ encodeTestId request.questionId request.ordinal then
    (table, .error ⟨400, "TEST_CASE_ID_MISMATCH"⟩)
  else
    match updateTestCase column request.ordinal.toNat request.questionId table request.input
      request.expectedOutput request.isSample with
    | none => (table, .error ⟨404, "TEST_CASE_NOT_FOUND"⟩)
    | some after => (after, .ok ())

inductive TestAction
  | create (request : TestCaseMessage) (existing : Option (List TestRow)) (seen : List TestRow)
  | update (request : TestCaseMessage)

def testsSystem : TransitionSystem (List TestRow) TestAction where
  initial := []
  step table
    | .create request existing seen =>
      some (adminCreateTestCase column request existing seen table).1
    | .update request => some (adminUpdateTestCase column request table).1

def Stored (tests : List TestRow) : Prop :=
  (testsSystem column).Reachable tests

structure Fits (tests : List TestRow) : Prop where
  distinct : (tests.map (·.id)).Nodup
  ordinals : ∀ test ∈ tests, 1 ≤ test.id.toInt
  inputs : ∀ test ∈ tests, test.input.length ≤ 65535
  outputs : ∀ test ∈ tests, test.output.length ≤ 65535

theorem one_le_nextId (seen : List TestRow) : 1 ≤ nextId seen := by
  have grows (start : Int) : start ≤
      seen.foldl (fun next item => max next (item.id.toInt + 1)) start := by
    induction seen generalizing start with
    | nil => exact le_refl start
    | cons item rest ih => exact (le_max_left _ _).trans (ih _)
  exact grows 1

variable {seen after table tests : List TestRow} {output questionId input : Bytes} {isSample : Bool}

theorem toInt_ofInt_nextId (bound : ¬ nextId seen > 127) :
    (Int8.ofInt (nextId seen)).toInt = nextId seen := by
  have least := one_le_nextId seen
  exact Int8.toInt_ofInt_of_le (by omega) (by omega)

variable {column : TextColumn}

theorem Fits.create {ordinal : Int} (fits : Fits table)
    (created : createTestCase column questionId seen table input output isSample =
      some (ordinal, after)) : Fits after := by
  unfold createTestCase at created
  obtain ⟨-, created⟩ := Option.ite_none_left_eq_some.mp created
  obtain ⟨bound, created⟩ := Option.ite_none_left_eq_some.mp created
  split at created
  · rename_i keptInput keptOutput storedInput storedOutput
    obtain ⟨unused, created⟩ := Option.ite_none_left_eq_some.mp created
    cases created
    have fresh : ∀ test ∈ table, test.id ≠ Int8.ofInt (nextId seen) := by simpa using unused
    refine ⟨?_, ?_, ?_, ?_⟩
    · rw [map_append, nodup_append]
      refine ⟨fits.distinct, nodup_singleton _, ?_⟩
      rintro _ old _ new rfl
      obtain ⟨test, member, same⟩ := List.mem_map.mp old
      exact fresh test member (same.trans (List.mem_singleton.mp new))
    · refine List.forall_mem_append.mpr ⟨fits.ordinals, List.forall_mem_singleton.mpr ?_⟩
      rw [toInt_ofInt_nextId bound]
      exact one_le_nextId seen
    · exact List.forall_mem_append.mpr
        ⟨fits.inputs, List.forall_mem_singleton.mpr (column.bounded storedInput)⟩
    · exact List.forall_mem_append.mpr
        ⟨fits.outputs, List.forall_mem_singleton.mpr (column.bounded storedOutput)⟩
  · cases created

theorem Fits.update {testId : Int} (fits : Fits table)
    (updated : updateTestCase column testId questionId table input output isSample = some after) :
    Fits after := by
  unfold updateTestCase at updated
  obtain ⟨-, updated⟩ := Option.ite_none_left_eq_some.mp updated
  obtain ⟨-, updated⟩ := Option.ite_none_left_eq_some.mp updated
  split at updated
  · rename_i keptInput keptOutput storedInput storedOutput
    cases updated
    have boundInput := column.bounded storedInput
    have boundOutput := column.bounded storedOutput
    refine ⟨?_, ?_, ?_, ?_⟩
    · rw [map_map]
      refine (congrArg List.Nodup (map_congr_left fun item _ => ?_)).mpr fits.distinct
      dsimp only [Function.comp_apply]
      split <;> rfl
    · refine List.forall_mem_map.mpr fun item member => ?_
      have bound := fits.ordinals item member
      split <;> exact bound
    · refine List.forall_mem_map.mpr fun item member => ?_
      have bound := fits.inputs item member
      split <;> assumption
    · refine List.forall_mem_map.mpr fun item member => ?_
      have bound := fits.outputs item member
      split <;> assumption
  · cases updated

theorem fits_of_stored (stored : Stored column tests) : Fits tests := by
  refine TransitionSystem.Reachable.induct stored ⟨.nil, ?_, ?_, ?_⟩ ?_
  · exact fun _ never => absurd never not_mem_nil
  · exact fun _ never => absurd never not_mem_nil
  · exact fun _ never => absurd never not_mem_nil
  intro table after action _ step fits
  cases action with
  | create request existing seen =>
    cases step
    unfold adminCreateTestCase
    split
    · exact fits
    split
    · exact fits
    split
    · exact fits
    split
    · exact fits
    · rename_i created
      exact fits.create created
  | update request =>
    cases step
    unfold adminUpdateTestCase
    split
    · exact fits
    split
    · exact fits
    split
    · exact fits
    · rename_i updated
      exact fits.update updated

theorem Fits.length_le (fits : Fits tests) : tests.length ≤ 127 := by
  have distinct : (tests.map fun test => test.id.toInt).Nodup := by
    have mapped := fits.distinct.map (f := Int8.toInt) fun _ _ same => Int8.toInt_inj.mp same
    rwa [map_map] at mapped
  have inRange : (tests.map fun test => test.id.toInt).toFinset ⊆ Finset.Icc 1 127 := by
    intro ordinal member
    obtain ⟨test, mem, rfl⟩ := List.mem_map.mp (List.mem_toFinset.mp member)
    have greatest := test.id.toInt_lt
    exact Finset.mem_Icc.mpr ⟨fits.ordinals test mem, by omega⟩
  calc
    tests.length = (tests.map fun test => test.id.toInt).toFinset.card := by
      rw [toFinset_card_of_nodup distinct, length_map]
    _ ≤ (Finset.Icc (1 : Int) 127).card := Finset.card_le_card inRange
    _ = 127 := by rw [Int.card_Icc]; rfl

end OnlineJudge.Submissions
