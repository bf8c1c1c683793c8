import OnlineJudge.Common.Utf8
import OnlineJudge.Delivery.Receipts
import OnlineJudge.Library.RepeatableRead

/-!
# The tables of the judge pipeline

The rows that `ModelSubmission` (`model_submission.hpp`) works on, and what its methods do with one
row.  Times are microseconds since the epoch.  Columns that the methods never read (`task_type`,
`applied_at`, `legacy_user_submit_id`) are left out.
-/

namespace OnlineJudge.Store

open Delivery Function

/-! ## Rows -/

abbrev DateTime := Int

structure Submission where
  userId : UInt32
  questionId : Bytes
  code : Option Bytes
  language : Option Bytes
  status : SubmissionStatus
  resultJson : Option Bytes := none
  isPass : Option Bool := none
  timeUsedMs : Option Nat := none
  memoryUsedBytes : Option Nat := none
  compileError : Option Bytes := none
  createdAt : DateTime
  completedAt : Option DateTime := none
  resultVersion : UInt64 := 0
  deriving DecidableEq

/-- The values of the column `status` of `judge_outbox`. -/
inductive OutboxStatus
  | pending
  | sending
  | published
  | dead
  deriving DecidableEq

structure JudgeOutbox where
  submissionId : Option UInt64 := none
  customTaskId : Option Bytes := none
  payload : Bytes
  status : OutboxStatus := .pending
  attemptCount : Nat := 0
  nextRetryAt : Option DateTime := none
  leaseOwner : Option String := none
  leaseExpiresAt : Option DateTime := none
  confirmDeadline : Option DateTime := none
  createdAt : DateTime
  publishedAt : Option DateTime := none
  deriving DecidableEq

structure LegacySubmission where
  userId : UInt32
  questionId : Bytes
  resultJson : Bytes
  -- the nullable column of the submission, before ODB converts it to `bool`
  isPass : Option Bool
  actionTime : DateTime
  deriving DecidableEq

inductive Key
  | submission (id : UInt64)
  | outbox (messageId : Bytes)
  | receipt (messageId : Bytes)
  | history (id : Nat)
  deriving DecidableEq

abbrev Row : Key → Type
  | .submission _ => Submission
  | .outbox _ => JudgeOutbox
  | .receipt _ => JudgeResultReceipt
  | .history _ => LegacySubmission

abbrev Tables := RepeatableRead.Database Row

namespace Tables

variable (db : Tables)

def submission (id : UInt64) : Option Submission := db (.submission id)

variable (messageId : Bytes)

def outbox : Option JudgeOutbox := db (.outbox messageId)

def receipt : Option JudgeResultReceipt :=
  db (.receipt messageId)

def history (id : Nat) : Option LegacySubmission := db (.history id)

def setSubmission (id : UInt64) (row : Submission) : Tables :=
  update db (.submission id) (some row)

def setOutbox (row : JudgeOutbox) : Tables :=
  update db (.outbox messageId) (some row)

def setReceipt (row : JudgeResultReceipt) : Tables :=
  update db (.receipt messageId) (some row)

def setHistory (id : Nat) (row : LegacySubmission) : Tables :=
  update db (.history id) (some row)

section Lookup

variable (db : Tables) (id id' : UInt64) (messageId messageId' : Bytes) (n : Nat)

@[simp] theorem submission_setSubmission (row : Submission) :
    (db.setSubmission id row).submission id' =
      if id' = id then some row else db.submission id' := by
  by_cases same : id' = id
  · subst same
    simp [submission, setSubmission]
  · simp [submission, setSubmission, same]

@[simp] theorem outbox_setOutbox (row : JudgeOutbox) :
    (db.setOutbox messageId row).outbox messageId' =
      if messageId' = messageId then some row else db.outbox messageId' := by
  by_cases same : messageId' = messageId
  · subst same
    simp [outbox, setOutbox]
  · simp [outbox, setOutbox, same]

variable (row : JudgeResultReceipt)

@[simp] theorem receipt_setReceipt :
    (db.setReceipt messageId row).receipt messageId' =
      if messageId' = messageId then some row else db.receipt messageId' := by
  by_cases same : messageId' = messageId
  · subst same
    simp [receipt, setReceipt]
  · simp [receipt, setReceipt, same]

@[simp] theorem submission_setOutbox (row : JudgeOutbox) :
    (db.setOutbox messageId row).submission id = db.submission id := by
  simp [submission, setOutbox]

@[simp] theorem submission_setReceipt :
    (db.setReceipt messageId row).submission id = db.submission id := by
  simp [submission, setReceipt]

@[simp] theorem submission_setHistory (row : LegacySubmission) :
    (db.setHistory n row).submission id = db.submission id := by
  simp [submission, setHistory]

@[simp] theorem outbox_setSubmission (row : Submission) :
    (db.setSubmission id row).outbox messageId = db.outbox messageId := by
  simp [outbox, setSubmission]

@[simp] theorem outbox_setReceipt :
    (db.setReceipt messageId row).outbox messageId' = db.outbox messageId' := by
  simp [outbox, setReceipt]

@[simp] theorem outbox_setHistory (row : LegacySubmission) :
    (db.setHistory n row).outbox messageId = db.outbox messageId := by
  simp [outbox, setHistory]

@[simp] theorem receipt_setSubmission (row : Submission) :
    (db.setSubmission id row).receipt messageId = db.receipt messageId := by
  simp [receipt, setSubmission]

@[simp] theorem receipt_setOutbox (row : JudgeOutbox) :
    (db.setOutbox messageId row).receipt messageId' = db.receipt messageId' := by
  simp [receipt, setOutbox]

@[simp] theorem receipt_setHistory (row : LegacySubmission) :
    (db.setHistory n row).receipt messageId = db.receipt messageId := by
  simp [receipt, setHistory]

variable {db messageId messageId'}

theorem eq_or_of_setOutbox {row row' : JudgeOutbox}
    (found : (db.setOutbox messageId row).outbox messageId' = some row') :
    messageId' = messageId ∧ row = row' ∨ db.outbox messageId' = some row' := by
  rw [outbox_setOutbox, ite_eq_iff] at found
  exact found.imp (.imp_right Option.some.inj) And.right

theorem eq_or_of_setReceipt {row row' : JudgeResultReceipt}
    (found : (db.setReceipt messageId row).receipt messageId' = some row') :
    messageId' = messageId ∧ row = row' ∨ db.receipt messageId' = some row' := by
  rw [receipt_setReceipt, ite_eq_iff] at found
  exact found.imp (.imp_right Option.some.inj) And.right

end Lookup

end Tables

/-! ## What is outside the repository -/

/-- Serialization of tasks and of results.  The `string` fields of a task that is parsed
back have to be UTF-8. -/
structure Codec where
  /-- `SerializeToString` of `JudgeTaskMessage`. -/
  serializeTask : JudgeTaskMessage → Option Bytes
  /-- `ParseFromString` of `JudgeTaskMessage`. -/
  parseTask : Bytes → Option JudgeTaskMessage
  /-- `MessageToJsonString`. -/
  messageToJson : JudgeResult → Option Bytes
  parse_serialize : ∀ {task payload}, task.textual = true → serializeTask task = some payload →
    parseTask payload = some task

/-- `ValidateTaskPayload` of `oj_service_impl.cpp`: the task of the outbox row is the one
that the request reports on. -/
def validateTaskPayload (codec : Codec) (outbox : JudgeOutbox)
    (request : UpdateJudgeResultRequest) : Option JudgeTaskMessage :=
  match codec.parseTask outbox.payload with
  | none => none
  | some task =>
    if task.messageId = request.messageId ∧ request.target ≠ none ∧
        task.target = request.target then some task
    else none

theorem validateTaskPayload_eq_some {codec : Codec} {outbox : JudgeOutbox}
    {request : UpdateJudgeResultRequest} {task : JudgeTaskMessage}
    (valid : validateTaskPayload codec outbox request = some task) :
    codec.parseTask outbox.payload = some task ∧ task.messageId = request.messageId ∧
      request.target ≠ none ∧ task.target = request.target := by
  unfold validateTaskPayload at valid
  split at valid
  · cases valid
  case h_2 task' parsed =>
    split at valid
    case isTrue same =>
      cases valid
      exact ⟨parsed, same⟩
    case isFalse => cases valid

/-! ## Submissions -/

def waiting (status : SubmissionStatus) : Bool := status = .queued ∨ status = .judging

/-- The statuses that `UpdateJudgeResult` accepts. -/
def finalStatus (status : SubmissionStatus) : Bool :=
  status ≠ .unspecified ∧ status ≠ .pending ∧ status ≠ .queued ∧ status ≠ .judging

theorem not_waiting_of_final {status : SubmissionStatus} (final : finalStatus status = true) :
    waiting status = false := by
  cases status <;> first | rfl | cases final

variable (submission : Submission)

def appliedSubmission (result : JudgeResult) (resultJson : Bytes) (now : DateTime) : Submission :=
  { submission with
    status := result.status
    resultJson := some resultJson
    isPass := some (result.status = .accepted)
    timeUsedMs := some result.timeUsedMs
    memoryUsedBytes := some result.memoryUsedBytes
    compileError :=
      if result.compileError ≠ [] then some result.compileError else submission.compileError
    completedAt := some (if result.completedAt > 0 then result.completedAt * 1000000 else now)
    resultVersion := submission.resultVersion + 1 }

/-- The line that `ApplyJudgeResult` adds to the history. -/
def historyLine (result : JudgeResult) (resultJson : Bytes) (now : DateTime) :
    LegacySubmission where
  userId := submission.userId
  questionId := submission.questionId
  resultJson := resultJson
  isPass := some (result.status = .accepted)
  actionTime := now

def terminalReason (expired : Bool) : String :=
  if expired then "OUTBOX_EXPIRED" else "OUTBOX_RETRIES_EXHAUSTED"

def terminalSubmission (reason : String) (now : DateTime) : Submission :=
  { submission with
    status := .systemError
    resultJson := some (text ("\x7b\"status\":\"SYSTEM_ERROR\",\"reason\":\"" ++ reason ++
      "\"\x7d"))
    isPass := some false
    completedAt := some now
    resultVersion := submission.resultVersion + 1 }

/-! ## Outbox rows -/

def outboxMaxAgeMicros : Int := 15 * 60 * 1000000

def outboxMaxAttempts : Nat := 20

namespace JudgeOutbox

def claimable (now : DateTime) (row : JudgeOutbox) : Bool :=
  (row.status = .pending ∧ row.nextRetryAt.all (· ≤ now)) ∨
    (row.status = .sending ∧ row.leaseExpiresAt.all (· ≤ now))

def expired (now : DateTime) (row : JudgeOutbox) : Bool :=
  now - row.createdAt > outboxMaxAgeMicros

/-- `ClaimPendingOutbox` gives the row up. -/
def givenUp (now : DateTime) (row : JudgeOutbox) : Bool :=
  row.expired now ∨ row.attemptCount ≥ outboxMaxAttempts

variable (row : JudgeOutbox)

def terminal : JudgeOutbox :=
  { row with
    status := .dead
    leaseOwner := none
    leaseExpiresAt := none
    confirmDeadline := none }

def claimed (owner : String) (leaseSeconds confirmTimeoutSeconds : UInt32) (now : DateTime) :
    JudgeOutbox :=
  { row with
    status := .sending
    leaseOwner := some owner
    leaseExpiresAt := some (now + leaseSeconds.toNat * 1000000)
    confirmDeadline := some (now + confirmTimeoutSeconds.toNat * 1000000)
    nextRetryAt := none
    attemptCount := row.attemptCount + 1 }

def settled (published : Bool) (retryDelaySeconds : UInt32) (now : DateTime) : JudgeOutbox :=
  if published then
    { row with
      status := .published
      publishedAt := some now
      nextRetryAt := none
      leaseOwner := none
      leaseExpiresAt := none
      confirmDeadline := none }
  else
    { row with
      status := .pending
      nextRetryAt := some (now + retryDelaySeconds.toNat * 1000000)
      leaseOwner := none
      leaseExpiresAt := none
      confirmDeadline := none }

/-- `UpdateOutbox` changes the row only for the publisher that holds its lease. -/
def heldBy (owner : String) : Bool :=
  row.status = .sending ∧ row.leaseOwner = some owner

def SameTask (row row' : JudgeOutbox) : Prop :=
  row'.payload = row.payload ∧ row'.submissionId = row.submissionId

end JudgeOutbox

end OnlineJudge.Store
