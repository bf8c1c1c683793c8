import Mathlib.Data.List.Basic

/-!
# The messages the judge exchanges

The messages of `comm/proto/mq_message.proto` and `comm/proto/common.proto` that a run uses, and
`DockerTaskResult` of `event_loop.hpp`, whose `status` strings are an enumeration here.
-/

namespace OnlineJudge

/-- A `std::string` that holds arbitrary bytes. -/
abbrev Bytes := List UInt8

def text (literal : String) : Bytes := literal.toUTF8.toList

/-- `std::tolower` in the C locale. -/
def toLower (byte : UInt8) : UInt8 := if 65 ≤ byte ∧ byte ≤ 90 then byte + 32 else byte

/-- `std::toupper` in the C locale. -/
def toUpper (byte : UInt8) : UInt8 := if 97 ≤ byte ∧ byte ≤ 122 then byte - 32 else byte

/-- The `oneof task_id` of `JudgeTaskMessage` and of `UpdateJudgeResultRequest`. -/
inductive Target
  | submission (id : UInt64)
  | custom (id : Bytes)
  deriving DecidableEq

structure TestCaseInput where
  testCaseId : UInt64 := 0
  index : UInt32 := 0
  input : Bytes := []
  expectedOutput : Bytes := []
  deriving DecidableEq

structure JudgeTaskMessage where
  messageId : Bytes := []
  target : Option Target := none
  userId : UInt32 := 0
  questionId : Bytes := []
  code : Bytes := []
  language : Bytes := []
  timeLimitMs : UInt32 := 0
  memoryLimitMb : UInt32 := 0
  testCases : List TestCaseInput := []
  createdAt : Int := 0
  deriving DecidableEq

inductive SubmissionStatus
  | unspecified
  | pending
  | queued
  | judging
  | accepted
  | wrongAnswer
  | compileError
  | memoryLimitExceeded
  | timeLimitExceeded
  | runtimeError
  | systemError
  | cancelled
  deriving DecidableEq

/-- The name that `common.proto` gives a status, without `SUBMISSION_STATUS_`. -/
def SubmissionStatus.name : SubmissionStatus → Bytes
  | .unspecified => text "UNSPECIFIED"
  | .pending => text "PENDING"
  | .queued => text "QUEUED"
  | .judging => text "JUDGING"
  | .accepted => text "ACCEPTED"
  | .wrongAnswer => text "WRONG_ANSWER"
  | .compileError => text "COMPILE_ERROR"
  | .memoryLimitExceeded => text "MEMORY_LIMIT_EXCEEDED"
  | .timeLimitExceeded => text "TIME_LIMIT_EXCEEDED"
  | .runtimeError => text "RUNTIME_ERROR"
  | .systemError => text "SYSTEM_ERROR"
  | .cancelled => text "CANCELLED"

structure TestCaseResult where
  index : Nat := 0
  status : SubmissionStatus := .unspecified
  timeUsedMs : Nat := 0
  memoryUsedBytes : Nat := 0
  input : Bytes := []
  expectedOutput : Bytes := []
  actualOutput : Bytes := []
  deriving DecidableEq

structure JudgeResult where
  status : SubmissionStatus := .unspecified
  timeUsedMs : Nat := 0
  memoryUsedBytes : Nat := 0
  compileError : Bytes := []
  testCaseResults : List TestCaseResult := []
  completedAt : Int := 0
  deriving DecidableEq

/-- `message PageRequest`. -/
structure PageRequest where
  page : UInt32 := 0
  pageSize : UInt32 := 0
  deriving DecidableEq

/-- `message PageResponse`. -/
structure PageResponse where
  totalItems : UInt64
  page : UInt32
  pageSize : UInt32
  totalPages : UInt32
  deriving DecidableEq

/-- The page that a request asks for; a request without one asks for the first. -/
def PageRequest.number (request : PageRequest) : Nat :=
  if request.page = 0 then 1 else request.page.toNat

/-- `ProtoAdapter::SetPage`. -/
def PageRequest.setPage (request : PageRequest) (totalItems : Nat)
    (defaultPageSize maxPageSize : Nat) : PageResponse :=
  let requestedSize := if request.pageSize = 0 then defaultPageSize else request.pageSize.toNat
  let pageSize := max 1 (min requestedSize (max 1 maxPageSize))
  { totalItems := .ofNat totalItems
    page := if request.page = 0 then 1 else request.page
    pageSize := .ofNat pageSize
    totalPages :=
      if totalItems = 0 then 0
      else .ofNat (min ((totalItems + pageSize - 1) / pageSize) 4294967295) }

/-- The values `DockerTaskResult::status` takes; `unset` is the empty string of
a default-constructed result. -/
inductive TaskStatus
  | unset
  | ok
  | systemError
  | cancelled
  | compileError
  | runtimeError
  | timeLimit
  | memoryLimit
  deriving DecidableEq

structure DockerTaskResult where
  status : TaskStatus := .unset
  exitCode : Int := -1
  timedOut : Bool := false
  killed : Bool := false
  timeUsedMs : Nat := 0
  memoryUsedBytes : Nat := 0
  stdoutStr : Bytes := []
  stderrStr : Bytes := []
  deriving DecidableEq

end OnlineJudge
