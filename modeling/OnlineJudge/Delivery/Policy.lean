import OnlineJudge.Common.Messages

/-!
# Which tasks are judged and what becomes of a delivery

The functions of `judge_delivery_policy.hpp` and `report_decision.hpp`.
-/

namespace OnlineJudge.Delivery

def isGuestSubmission (task : JudgeTaskMessage) : Bool :=
  match task.target with
  | some (.custom id) => (text "guest-").isPrefixOf id
  | _ => false

def validJudgeTask (task : JudgeTaskMessage) : Bool :=
  if task.messageId = [] ∨ (task.userId = 0 ∧ !isGuestSubmission task) ∨ task.questionId = [] ∨
      task.code = [] ∨ task.code.length > 64 * 1024 ∨ task.language = [] ∨
      task.timeLimitMs = 0 ∨ task.timeLimitMs > 60000 ∨
      task.memoryLimitMb = 0 ∨ task.memoryLimitMb > 4096 ∨
      task.testCases = [] ∨ task.testCases.length > 1000 ∨ task.createdAt ≤ 0 ∨
      task.target = none then
    false
  else
    task.testCases.all fun test =>
      !(test.input.length > 1024 * 1024 || test.expectedOutput.length > 1024 * 1024)

structure TaskBounds (task : JudgeTaskMessage) : Prop where
  code : task.code.length ≤ 65536
  timeLimit_pos : 0 < task.timeLimitMs.toNat
  timeLimit_le : task.timeLimitMs.toNat ≤ 60000
  tests_pos : 0 < task.testCases.length
  tests_le : task.testCases.length ≤ 1000

theorem bounds_of_validJudgeTask {task : JudgeTaskMessage} (valid : validJudgeTask task = true) :
    TaskBounds task := by
  unfold validJudgeTask at valid
  split at valid
  case isTrue => cases valid
  case isFalse accepted =>
    simp only [not_or] at accepted
    obtain ⟨-, -, -, -, code, -, nonzero, most, -, -, some_test, tests, -⟩ := accepted
    refine ⟨Nat.not_lt.mp code, ?_, ?_, List.length_pos_iff.mpr some_test, Nat.not_lt.mp tests⟩
    · exact Nat.pos_of_ne_zero fun zero => nonzero (UInt32.toNat_inj.mp zero)
    · exact UInt32.le_iff_toNat_le.mp (UInt32.not_lt.mp most)

inductive ReportDecision
  | ack
  | retry
  | reject
  deriving DecidableEq

inductive DeliveryAction
  | ack
  | retry
  | deadLetter
  deriving DecidableEq

def resolveDeliveryAction (decision : ReportDecision) (retryCount : UInt32) : DeliveryAction :=
  if decision = .ack then .ack
  else if decision = .reject ∨ retryCount ≥ 3 then .deadLetter
  else .retry

end OnlineJudge.Delivery
