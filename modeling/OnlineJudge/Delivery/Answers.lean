import OnlineJudge.Delivery.Consumer

/-!
# The answers to one delivery

`answers` lists what `HandleMessage` (`mq_consumer.hpp`) and the completion callback have answered,
for every outcome of their operations.
-/

namespace OnlineJudge.Delivery

open Inbox

/-- What `PushNewTask` does. -/
inductive PushResult
  /-- It returns an empty name: the loop is not running, takes no tasks, there is no coroutine, or
  the name is taken. -/
  | refused
  | accepted
  /-- It throws, possibly when the callback is already stored in `_pendings`. -/
  | threw (stored : Bool)
  deriving DecidableEq

/-- The outcomes of the operations that one delivery uses; `none` is an exception. -/
structure Operations where
  /-- `PayloadFingerprint` returns. -/
  fingerprint : Bool := true
  claim : Option ClaimResult
  claimToken : String
  complete : Option CompleteResult
  report : Option ReportResult
  push : PushResult
  result : JudgeResult
  deriving DecidableEq

namespace Operations

variable (operations : Operations)

def call : Handler → Handler
  | .claiming delivery =>
    match operations.claim with
    | some answer => afterClaim delivery operations.claimToken answer
    | none => afterException (.claiming delivery)
  | .completing delivery claimToken result =>
    match operations.complete with
    | some answer => afterComplete delivery result answer
    | none => afterException (.completing delivery claimToken result)
  | .reporting delivery result callback =>
    match operations.report with
    | some reported => .settled (finishDelivery reported delivery.retryCount)
    | none => afterException (.reporting delivery result callback)
  | handler => handler

end Operations

open Operations

def Handler.answers : Handler → List Disposition
  | .settled disposition => [disposition]
  | _ => []

/-- `HandleMessage`: its answers, and the delivery whose callback the loop holds afterwards. -/
def handleMessage (setting : Setting) (operations : Operations) (body : Bytes) (retryCount : UInt32)
    (now : Int) : List Disposition × Option TaskDelivery :=
  if !operations.fingerprint then ([retryOrDeadLetter retryCount 1000], none)
  else
    -- `Claim`, and for a malformed task or a stored result `Complete` and `Report`
    match operations.call (operations.call (operations.call
        (receive setting body retryCount now))) with
    | .judging delivery claimToken =>
      match operations.push with
      | .refused => ([], none)
      | .accepted => ([], some delivery)
      | .threw stored =>
        ((afterException (.judging delivery claimToken)).answers,
          if stored then some delivery else none)
    | handler => (handler.answers, none)

def completion (operations : Operations) (delivery : TaskDelivery) : List Disposition :=
  (operations.call (operations.call
    (.completing delivery operations.claimToken operations.result))).answers

def answers (setting : Setting) (operations : Operations) (body : Bytes) (retryCount : UInt32)
    (now : Int) : List Disposition :=
  let (own, held) := handleMessage setting operations body retryCount now
  own ++ held.elim [] (completion operations)

def HandsOver (setting : Setting) (operations : Operations) (body : Bytes) : Prop :=
  operations.fingerprint = true ∧ operations.claim = some .started ∧
    ∃ task, setting.parseTask body = some task ∧ task.messageId.length ≤ 256 ∧
      validJudgeTask task = true

def Operations.CallbackReturns (operations : Operations) : Prop :=
  operations.complete ≠ none ∧ (operations.complete = some .completed → operations.report ≠ none)

section Settling

variable (operations : Operations)

/-- `FinishDelivery` in `HandleMessage` always answers: what it throws is caught. -/
theorem call_reporting_settles (delivery : TaskDelivery) (result : JudgeResult) :
    ∃ disposition, operations.call (.reporting delivery result false) = .settled disposition := by
  cases reported : operations.report with
  | some => exact ⟨_, by rw [call, reported]⟩
  | none =>
    refine ⟨retryOrDeadLetter delivery.retryCount 1000, ?_⟩
    rw [call, reported]
    rfl

theorem call_completing_settles {delivery : TaskDelivery} {terminal : JudgeResult}
    (malformed : delivery.terminal = some terminal) (claimToken : String) (result : JudgeResult) :
    ∃ disposition, operations.call (operations.call (.completing delivery claimToken result)) =
      .settled disposition := by
  cases completed : operations.complete with
  | none =>
    refine ⟨retryOrDeadLetter delivery.retryCount 1000, ?_⟩
    simp [call, completed, afterException, malformed]
  | some answer =>
    cases answer with
    | completed =>
      obtain ⟨disposition, settles⟩ := call_reporting_settles operations delivery result
      refine ⟨disposition, ?_⟩
      rw [← settles]
      simp [call, completed, afterComplete, malformed]
    | conflict =>
      refine ⟨retryOrDeadLetter delivery.retryCount 1000, ?_⟩
      simp [call, completed, afterComplete, malformed]
    | notOwner | error =>
      refine ⟨retryOrDeadLetter delivery.retryCount 1000, ?_⟩
      simp [call, completed, afterComplete]

/-- `HandleMessage` from `Claim` on answers, unless it hands a valid task over. -/
theorem call_claiming_settles (delivery : TaskDelivery)
    (keeps : delivery.terminal ≠ none ∨ operations.claim ≠ some .started) :
    ∃ disposition, operations.call (operations.call (operations.call (.claiming delivery))) =
      .settled disposition := by
  cases claimed : operations.claim with
  | none => exact ⟨retryOrDeadLetter delivery.retryCount 1000, by
      simp [call, claimed, afterException]⟩
  | some answer =>
    have after : operations.call (.claiming delivery) =
        afterClaim delivery operations.claimToken answer := by
      rw [call, claimed]
    rw [after]
    cases answer with
    | completed result =>
      obtain ⟨disposition, settles⟩ := call_reporting_settles operations delivery result
      refine ⟨disposition, ?_⟩
      rw [afterClaim, settles]
      rfl
    | processing | conflict | error => exact ⟨_, rfl⟩
    | started =>
      cases malformed : delivery.terminal with
      | none => exact absurd claimed (keeps.resolve_left (not_not.mpr malformed))
      | some terminal =>
        obtain ⟨disposition, settles⟩ := call_completing_settles operations malformed
          operations.claimToken terminal
        refine ⟨disposition, ?_⟩
        rw [← settles]
        simp [afterClaim, malformed]

theorem handled_cases (setting : Setting) (body : Bytes) (retryCount : UInt32) (now : Int)
    (fingerprint : operations.fingerprint = true) :
    (HandsOver setting operations body ∧ ∃ delivery claimToken, delivery.terminal = none ∧
      operations.call (operations.call (operations.call (receive setting body retryCount now))) =
        .judging delivery claimToken) ∨
    (¬ HandsOver setting operations body ∧ ∃ disposition,
      operations.call (operations.call (operations.call (receive setting body retryCount now))) =
        .settled disposition) := by
  cases parsed : setting.parseTask body with
  | none =>
    refine Or.inr ⟨?_, .deadLetter retryCount, by simp [receive, parsed, call]⟩
    rintro ⟨_, _, task, parsed', _⟩
    rw [parsed] at parsed'
    cases parsed'
  | some task =>
    by_cases malformed : task.messageId.length > 256 ∨ validJudgeTask task = false
    · refine Or.inr ⟨?_, ?_⟩
      · rintro ⟨_, _, task', parsed', short, valid⟩
        cases parsed.symm.trans parsed'
        rcases malformed with long | invalid
        · omega
        · rw [valid] at invalid
          cases invalid
      · by_cases named :
            task.messageId ≠ [] ∧ task.messageId.length ≤ 256 ∧ task.target ≠ none
        · have received : receive setting body retryCount now =
              .claiming ⟨body, retryCount, task, some (terminalResult now)⟩ := by
            simp only [receive, parsed]
            rw [if_pos malformed, if_pos named]
          rw [received]
          exact call_claiming_settles operations _ (Or.inl (Option.some_ne_none _))
        · have received : receive setting body retryCount now =
              .settled (.deadLetter retryCount) := by
            simp only [receive, parsed]
            rw [if_pos malformed, if_neg named]
          rw [received]
          exact ⟨_, rfl⟩
    · have received : receive setting body retryCount now =
          .claiming ⟨body, retryCount, task, none⟩ := by
        simp only [receive, parsed]
        rw [if_neg malformed]
      rw [received]
      by_cases started : operations.claim = some .started
      · refine Or.inl ⟨⟨fingerprint, started, task, parsed, ?_⟩,
          ⟨body, retryCount, task, none⟩, operations.claimToken, rfl, ?_⟩
        · simpa [not_or] using malformed
        · simp [call, started, afterClaim]
      · exact Or.inr ⟨fun handsOver => started handsOver.2.1,
          call_claiming_settles operations _ (Or.inr started)⟩

theorem length_completion {delivery : TaskDelivery} (valid : delivery.terminal = none) :
    (completion operations delivery).length = 1 ∧ operations.CallbackReturns ∨
      (completion operations delivery).length = 0 ∧ ¬ operations.CallbackReturns := by
  cases completed : operations.complete with
  | none =>
    refine Or.inr ⟨?_, fun returns => returns.1 completed⟩
    simp [completion, call, completed, afterException, valid, Handler.answers]
  | some answer =>
    cases answer with
    | completed =>
      cases reported : operations.report with
      | none =>
        refine Or.inr ⟨?_, fun returns => returns.2 completed reported⟩
        simp [completion, call, completed, reported, afterComplete, afterException,
          valid, Handler.answers]
      | some =>
        refine Or.inl ⟨?_, by simp [completed], by simp [reported]⟩
        simp [completion, call, completed, reported, afterComplete, Handler.answers]
    | _ =>
      refine Or.inl ⟨?_, by simp [completed], by simp [completed]⟩
      simp [completion, call, completed, afterComplete, valid, Handler.answers]

end Settling

/-- **Which deliveries are answered exactly once.** -/
theorem answered_once_iff (setting : Setting) (operations : Operations) (body : Bytes)
    (retryCount : UInt32) (now : Int) :
    (answers setting operations body retryCount now).length = 1 ↔
      (HandsOver setting operations body →
        match operations.push with
        | .refused => False
        | .accepted => operations.CallbackReturns
        | .threw stored => stored = true → ¬ operations.CallbackReturns) := by
  by_cases fingerprint : operations.fingerprint = true
  · rcases handled_cases operations setting body retryCount now fingerprint with
      ⟨handsOver, delivery, claimToken, valid, judging⟩ | ⟨keeps, disposition, settled⟩
    · rw [answers, handleMessage, judging]
      simp only [fingerprint, handsOver, forall_const]
      rcases length_completion operations valid with ⟨once, returns⟩ | ⟨never, throws⟩
      · cases operations.push with
        | refused => simp
        | accepted => simp [once, returns]
        | threw stored => cases stored <;> simp [afterException, Handler.answers, once, returns]
      · cases operations.push with
        | refused => simp
        | accepted => simp [never, throws]
        | threw stored => cases stored <;> simp [afterException, Handler.answers, never, throws]
    · rw [answers, handleMessage, settled]
      simp [fingerprint, keeps, Handler.answers]
  · have keeps : ¬ HandsOver setting operations body := fun handsOver => fingerprint handsOver.1
    simp [answers, handleMessage, fingerprint, keeps]

def smallTask : JudgeTaskMessage where
  messageId := [1]
  target := some (.submission 1)
  userId := 1
  questionId := [49]
  code := [65]
  language := [99]
  timeLimitMs := 1000
  memoryLimitMb := 64
  testCases := [{}]
  createdAt := 1

def smallSetting : Setting where
  parseTask _ := some smallTask
  codec := { serialize := fun _ => none, parse := fun _ => none, serialize_parse := nofun }
  sha256 _ _ := 0
  completedTtlMs := 1000
  messageId := [1]

def smallOperations (complete : Option CompleteResult) (push : PushResult) : Operations where
  claim := some .started
  claimToken := "a"
  complete
  report := some ⟨.ack, 0⟩
  push
  result := {}

/-- A loop that is being stopped refuses the task, the callback throws, or `PushNewTask` throws
late. -/
theorem unanswered_or_answered_twice :
    answers smallSetting (smallOperations (some .completed) .refused) [] 0 0 = [] ∧
    answers smallSetting (smallOperations none .accepted) [] 0 0 = [] ∧
    answers smallSetting (smallOperations (some .completed) (.threw true)) [] 0 0 =
      [.retry 1000 1, .ack] := by
  decide +kernel

end OnlineJudge.Delivery
