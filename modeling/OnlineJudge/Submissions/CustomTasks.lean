import OnlineJudge.Callback.Handler
import OnlineJudge.Submissions.Creation

/-!
# The state of a custom task

`CreateCustomTest` (`oj_service_impl.cpp`) writes `QUEUED` after the commit of the outbox row,
`RecoverCustomTaskCache` (`model_submission.hpp`) if it has found nothing, and `UpdateJudgeResult`
writes the result, each without a look at what it overwrites.
-/

namespace OnlineJudge.Submissions

open Delivery Store Callback Option List

/-! ## States in Redis -/

def customTaskId (task : JudgeTaskMessage) : Bytes :=
  match task.target with
  | some (.custom id) => id
  | _ => []

/-- The state of a task that waits. -/
def queuedMembers (task : JudgeTaskMessage) : List (String × Scalar) :=
  [("task_id", .string (customTaskId task)), ("message_id", .string task.messageId),
    ("user_id", .int task.userId.toNat), ("status", .string (text "QUEUED")),
    ("expires_at", .int (task.createdAt + 600))]

/-- What `GetCustomTest` reads in a state. -/
structure TaskView where
  userId : Int
  status : SubmissionStatus
  resultJson : Option Bytes
  deriving DecidableEq

def viewOf (document : Document) : TaskView where
  userId := (document.read "user_id" Scalar.int?).getD 0
  status := statusIn document
  resultJson := resultJsonIn document

structure CustomSetting where
  service : ServiceSetting
  faithful : service.json.Faithful

namespace CustomSetting

variable (setting : CustomSetting)

def queuedText (task : JudgeTaskMessage) : Bytes :=
  setting.service.json.write (Document.assign [] (queuedMembers task))

def parseView (encoded : Bytes) : Option TaskView := (setting.service.json.read encoded).map viewOf

theorem parseView_queuedText (task : JudgeTaskMessage) :
    ∃ userId, setting.parseView (setting.queuedText task) = some ⟨userId, .queued, none⟩ := by
  obtain ⟨document, read, written, others⟩ := setting.faithful.read_assign [] nodup_nil
    (show ((queuedMembers task).map Prod.fst).Nodup by simp [queuedMembers])
  obtain ⟨status, found, same⟩ := written "status" (.string (text "QUEUED"))
    (by simp [queuedMembers])
  have noResult : document.lookup "result_json" = none := by
    have unset := others "result_json" (by simp [queuedMembers])
    generalize document.lookup "result_json" = result at unset ⊢
    cases unset
    rfl
  have queued : statusIn document = .queued := by
    rw [statusIn, Document.stringAt, Document.read, found, same (by decide +kernel)]
    decide +kernel
  refine ⟨(viewOf document).userId, ?_⟩
  rw [parseView, queuedText, read, map_some, viewOf, queued, resultJsonIn, noResult, map_none]

theorem parseView_finishedState (request : SignedRequest) {found : Found}
    (stored : found.transient = none) (taskId resultJson : Bytes) :
    ∃ userId shown, setting.parseView
      (finishedState setting.service request found taskId resultJson) =
        some ⟨userId, found.result.status, some shown⟩ := by
  obtain ⟨document, read, written, -⟩ := setting.faithful.read_assign [] nodup_nil
    (show ((finishedMembers request found taskId resultJson).map Prod.fst).Nodup by
      simp [finishedMembers])
  obtain ⟨named, valid⟩ := submissionStatus_name found.result.status
  obtain ⟨status, isStatus, same⟩ := written "status" (.string found.result.status.name)
    (by simp [finishedMembers])
  obtain ⟨result, isResult, -⟩ := written "result_json" (.string resultJson)
    (by simp [finishedMembers])
  have final : statusIn document = found.result.status := by
    rw [statusIn, Document.stringAt, Document.read, isStatus, same valid]
    exact named
  refine ⟨(viewOf document).userId, document.stringAt "result_json", ?_⟩
  rw [parseView, finishedState, stored, bind_none, getD_none, read, map_some, viewOf, final,
    resultJsonIn, isResult, map_some]

end CustomSetting

/-- `ttl` of `RecoverCustomTaskCache`; `now` is in seconds. -/
def recoverTtl (task : JudgeTaskMessage) (now : Int) : Int :=
  (Int32.ofInt (task.createdAt + 600 - now)).toInt

/-- The query of `RecoverCustomTaskCaches`; `now` is in microseconds. -/
def recoverable (now : DateTime) (row : JudgeOutbox) : Bool :=
  row.createdAt ≥ now - 600 * 1000000

/-! ## Calls -/

inductive CreateStage
  /-- Before the transaction of `CreateCustomOutbox`. -/
  | building
  | writing
  | ended
  deriving DecidableEq

inductive RecoverStage
  | idle
  | reading (task : JudgeTaskMessage) (ttl : Int)
  | writing (task : JudgeTaskMessage) (ttl : Int)
  deriving DecidableEq

/-- The call is about to write `QUEUED`. -/
def RecoverStage.writes : RecoverStage → Bool
  | .writing .. => true
  | .idle | .reading .. => false

structure TaskState (n m : Nat) where
  cached : Option Bytes := none
  outbox : Option JudgeOutbox := none
  create : CreateStage := .building
  recoveries : Fin n → RecoverStage := fun _ => .idle
  callbacks : Fin m → Option (SignedRequest × Stage) := fun _ => none
  completed : Bool := false

variable {n m : Nat}

/-- How the transaction of `CreateCustomOutbox` ends. -/
inductive CommitFate
  | committed
  | replyLost
  | failed
  deriving DecidableEq

/-- What `UpdateJudgeResult` gets from outside for its next step. -/
structure CallbackInput where
  now : Int := 0
  fresh : Bool := true
  /-- The transaction of `GetOutbox` succeeds. -/
  readable : Bool := true
  /-- What `ApplyJudgeResult` returns. -/
  outcome : ApplyOutcome := .persisted
  deriving DecidableEq

inductive Caller (n m : Nat)
  | creator
  | recovery (i : Fin n)
  | callback (j : Fin m)
  deriving DecidableEq

inductive TaskAction (n m : Nat)
  /-- `CreateCustomOutbox`. -/
  | commit (fate : CommitFate) (now : DateTime)
  /-- `CreateCustomTest` writes the state. -/
  | enqueue
  /-- `ClaimPendingOutbox`, up to its commit. -/
  | claim (i : Fin n) (call : ClaimCall) (now : Int)
  /-- `RecoverCustomTaskCaches`, up to its commit. -/
  | recover (i : Fin n) (queried : DateTime) (now : Int)
  /-- `UpdateOutbox`; the row in its snapshot may be an earlier version. -/
  | settle (call : SettleCall) (seen : JudgeOutbox)
  /-- `RecoverCustomTaskCache` reads the state. -/
  | look (i : Fin n)
  /-- `RecoverCustomTaskCache` writes the state. -/
  | requeue (i : Fin n)
  /-- `UpdateJudgeResult` is called; `now` is in seconds. -/
  | receive (j : Fin m) (request : SignedRequest) (now : Int)
  /-- The next command or transaction of `UpdateJudgeResult`. -/
  | advance (j : Fin m) (input : CallbackInput)
  | vanish
  | stop (caller : Caller n m)

namespace TaskState

def setRecovery (s : TaskState n m) (i : Fin n) (stage : RecoverStage) : TaskState n m :=
  { s with recoveries := Function.update s.recoveries i stage }

def setCallback (s : TaskState n m) (j : Fin m) (call : Option (SignedRequest × Stage)) :
    TaskState n m :=
  { s with callbacks := Function.update s.callbacks j call }

end TaskState

section Steps

variable (setting : CustomSetting) (task : JudgeTaskMessage)

def setCached (cached : Option Bytes) (value : Bytes) (ttl : Int) : Option Bytes × Bool :=
  if ttl ≤ 0 then (cached, false) else (some value, true)

/-- `RecoverCustomTaskCache` comes to the row. -/
def startRecovery (row : JudgeOutbox) (now : Int) : RecoverStage :=
  match setting.service.codec.parseTask row.payload with
  | none => .idle
  | some parsed =>
    -- all other keys are left out
    if parsed.target ≠ task.target then .idle
    else if recoverTtl parsed now ≤ 0 then .idle
    else .reading parsed (recoverTtl parsed now)

def advanceCallback (s : TaskState n m) (j : Fin m) (input : CallbackInput)
    (request : SignedRequest) : Stage → Option (TaskState n m)
  | .reserving => some (s.setCallback j (some (request, afterReserve request (some input.fresh))))
  | .reading taskId =>
    some (s.setCallback j
      (some (request, afterRead setting.service request input.now taskId s.cached)))
  | .looking =>
    some (s.setCallback j (some (request, afterLookup setting.service request input.now
      (if input.readable then s.outbox else none))))
  | .applying found =>
    some (s.setCallback j (some (request, afterApply setting.service request found input.outcome)))
  | .invalidating _ response => some (s.setCallback j (some (request, .responded response)))
  | .writing found taskId resultJson response =>
    let stored := setCached s.cached
      (finishedState setting.service request found taskId resultJson)
      (cacheTtl found.task input.now)
    some { s.setCallback j (some (request, afterWrite response stored.2)) with
      cached := stored.1
      completed := s.completed || stored.2 }
  | .responded _ => none

def taskStep (s : TaskState n m) : TaskAction n m → Option (TaskState n m)
  | .commit fate now =>
    if s.create ≠ .building then none
    else
      match fate, setting.service.codec.serializeTask task with
      | .committed, some payload =>
        some { s with
          create := .writing
          outbox := some { customTaskId := some (customTaskId task), payload, createdAt := now } }
      | .replyLost, some payload =>
        some { s with
          create := .ended
          outbox := some { customTaskId := some (customTaskId task), payload, createdAt := now } }
      | .failed, _ | _, none => some { s with create := .ended }
  | .enqueue =>
    if s.create ≠ .writing then none
    else some { s with
      create := .ended
      cached := (setCached s.cached (setting.queuedText task) 600).1 }
  | .claim i call now =>
    match s.outbox with
    | none => none
    | some row =>
      if s.recoveries i ≠ .idle ∨ call.limit = 0 ∨ call.owner = "" ∨
          !row.claimable call.now then none
      else if row.givenUp call.now then some { s with outbox := some row.terminal }
      else some { s.setRecovery i (startRecovery setting task row now) with
        outbox := some (call.claimed row) }
  | .recover i queried now =>
    match s.outbox with
    | none => none
    | some row =>
      if s.recoveries i ≠ .idle ∨ !recoverable queried row then none
      else some (s.setRecovery i (startRecovery setting task row now))
  | .settle call seen =>
    match s.outbox with
    | none => none
    | some row =>
      if seen.payload ≠ row.payload ∨ seen.createdAt ≠ row.createdAt ∨
          !seen.heldBy call.owner then none
      else some { s with
        outbox := some (seen.settled call.published call.retryDelaySeconds call.now) }
  | .look i =>
    match s.recoveries i with
    | .reading parsed ttl =>
      some (s.setRecovery i (if s.cached = none then .writing parsed ttl else .idle))
    | _ => none
  | .requeue i =>
    match s.recoveries i with
    | .writing parsed ttl =>
      some { s.setRecovery i .idle with
        cached := (setCached s.cached (setting.queuedText parsed) ttl).1 }
    | _ => none
  | .receive j request now =>
    if request.messageId = task.messageId ∧ request.target = task.target then
      some (s.setCallback j (some (request, start setting.service request now)))
    else none
  | .advance j input =>
    match s.callbacks j with
    | none => none
    | some (request, stage) => advanceCallback setting s j input request stage
  | .vanish => some { s with cached := none }
  | .stop .creator => some { s with create := .ended }
  | .stop (.recovery i) => some (s.setRecovery i .idle)
  | .stop (.callback j) => some (s.setCallback j none)

def taskSystem (n m : Nat) : TransitionSystem (TaskState n m) (TaskAction n m) where
  initial := {}
  step := taskStep setting task

end Steps

/-- A call is about to write `QUEUED`. -/
def requeuePending (s : TaskState n m) : Bool :=
  s.create = .writing || decide (∃ i, (s.recoveries i).writes = true)

/-- A result is written only while no call is about to write `QUEUED`, and a recovery looks for the
state only while no result has vanished. -/
def inTurn (s : TaskState n m) : TaskAction n m → Bool
  | .advance j _ =>
    match s.callbacks j with
    | some (_, .writing ..) => !requeuePending s
    | _ => true
  | .look _ => s.cached.isSome || !s.completed
  | _ => true

/-- The state in Redis has the status `QUEUED`. -/
def holdsQueued (setting : CustomSetting) (s : TaskState n m) : Bool :=
  (s.cached.bind setting.parseView).any fun view => view.status = .queued

def holdsResult (setting : CustomSetting) (s : TaskState n m) : Bool :=
  (s.cached.bind setting.parseView).any fun view =>
    finalStatus view.status && view.resultJson.isSome

/-! ## Custom tasks are not guests' tasks -/

theorem not_guest_randomHex (random : Option Bytes) :
    (text "guest-").isPrefixOf (randomHex random) = false := by
  have letter : text "guest-" = 103 :: text "uest-" := by decide +kernel
  rw [letter]
  match random with
  | none => rfl
  | some [] => rfl
  | some (value :: rest) =>
    have digits : ∀ value < 16, hexDigit value ≠ 103 := by decide
    have bound := value.toNat_lt
    change ((103 : UInt8) == hexDigit (value.toNat / 16) && _) = false
    rw [beq_eq_false_iff_ne.mpr (digits _ (by omega)).symm, Bool.false_and]

theorem target_of_createCustomTest {Time : Type} {env : Env Time} {request : CreateRequest}
    {task : JudgeTaskMessage} (built : createCustomTest env request = .ok task) :
    task.target = some (.custom (randomHex env.taskRandom)) := by
  obtain ⟨question, userId, built⟩ := testing_of_ok built
  rw [built.isTask]
  rfl

/-! ## The invariant -/

section Invariant

variable {setting : CustomSetting} {task : JudgeTaskMessage} {s t : TaskState n m}

/-- What `UpdateJudgeResult` knows of a task that it has found. -/
structure FoundHere (create : CreateStage) (found : Found) : Prop where
  built : create ≠ .building
  transient : found.transient = none
  final : finalStatus found.result.status = true

/-- Where a call of `UpdateJudgeResult` for the task can be. -/
def StageOk (create : CreateStage) : Stage → Prop
  | .reserving | .looking | .responded _ => True
  | .applying found => FoundHere create found
  | .writing found _ _ _ => FoundHere create found
  | .reading _ | .invalidating .. => False

structure InOrder (setting : CustomSetting) (task : JudgeTaskMessage) (s : TaskState n m) :
    Prop where
  outbox : s.create = .building → s.outbox = none
  callbacks : ∀ j request stage, s.callbacks j = some (request, stage) →
    request.target = task.target ∧ StageOk s.create stage
  ended : s.completed = true → s.create = .ended
  quiet : s.completed = true → ∀ i, (s.recoveries i).writes = false
  queued : s.completed = false → ∀ encoded, s.cached = some encoded →
    ∃ task, encoded = setting.queuedText task
  finished : s.completed = true → ∀ encoded, s.cached = some encoded →
    ∃ request found taskId resultJson, finalStatus found.result.status = true ∧
      found.transient = none ∧
      encoded = finishedState setting.service request found taskId resultJson

/-- What a step from `s` brings about: the order is kept, and so is a result that was written. -/
structure Keeps (setting : CustomSetting) (task : JudgeTaskMessage) (s t : TaskState n m) :
    Prop where
  inOrder : InOrder setting task t
  completed : s.completed = true → t.completed = true

theorem inOrder_initial : InOrder setting task (taskSystem setting task n m).initial where
  outbox _ := rfl
  callbacks _ _ _ none := by cases none
  ended never := by cases never
  quiet never := by cases never
  queued _ _ none := by cases none
  finished never := by cases never

theorem StageOk.mono {create create' : CreateStage} {stage : Stage} (ok : StageOk create stage)
    (built : create' ≠ .building) : StageOk create' stage := by
  cases stage with
  | applying | writing => exact { ok with built }
  | _ => exact ok

/-! ### The stages of `UpdateJudgeResult` -/

theorem stageOk_start (request : SignedRequest) (now : Int) :
    StageOk s.create (start setting.service request now) := by
  unfold start
  split
  · trivial
  split
  · trivial
  · trivial

variable {request : SignedRequest} {taskId : Bytes}

theorem stageOk_afterReserve (notGuest : guestTask request = none) (fresh : Bool) :
    StageOk s.create (afterReserve request (some fresh)) := by
  cases fresh with
  | false => trivial
  | true =>
    rw [afterReserve, notGuest]
    trivial

theorem stageOk_afterLookup (inOrder : InOrder setting task s) (request : SignedRequest) (now : Int)
    (readable : Bool) :
    StageOk s.create
      (afterLookup setting.service request now (if readable then s.outbox else none)) := by
  unfold afterLookup
  split
  · trivial
  rename_i found valid
  -- A row that was found has been committed.
  have built : s.create ≠ .building := by
    intro building
    rw [inOrder.outbox building, ite_self] at valid
    cases valid
  unfold checkResult
  split
  · trivial
  split
  · trivial
  rename_i final
  split
  · trivial
  · exact ⟨built, rfl, by simpa using final⟩

theorem stageOk_afterApply {found : Found} (target : request.target = some (.custom taskId))
    (here : FoundHere s.create found) (outcome : ApplyOutcome) :
    StageOk s.create (afterApply setting.service request found outcome) := by
  unfold afterApply
  rw [target]
  split
  · trivial
  · trivial
  · trivial
  all_goals
    dsimp only
    split
    · trivial
    · exact here

theorem stageOk_afterWrite (create : CreateStage) (response : Response) (written : Bool) :
    StageOk create (afterWrite response written) := by
  cases written with
  | false | true => trivial

/-! ### The steps -/

namespace InOrder

section

variable (inOrder : InOrder setting task s)
include inOrder

theorem setRecovery (i : Fin n) {stage : RecoverStage}
    (quiet : s.completed = true → stage.writes = false) :
    InOrder setting task (s.setRecovery i stage) :=
  { inOrder with
    quiet := fun completed => Function.forall_update_iff s.recoveries
      (p := fun _ stage => stage.writes = false) |>.mpr
        ⟨quiet completed, fun j _ => inOrder.quiet completed j⟩ }

theorem setCallback (j : Fin m) {call : Option (SignedRequest × Stage)}
    (ok : ∀ request stage, call = some (request, stage) →
      request.target = task.target ∧ StageOk s.create stage) :
    InOrder setting task (s.setCallback j call) :=
  { inOrder with
    callbacks := Function.forall_update_iff s.callbacks
      (p := fun _ call => ∀ request stage, call = some (request, stage) →
        request.target = task.target ∧ StageOk s.create stage) |>.mpr
        ⟨ok, fun j' _ => inOrder.callbacks j'⟩ }

theorem setOutbox {row row' : JudgeOutbox} (found : s.outbox = some row) :
    InOrder setting task { s with outbox := some row' } :=
  { inOrder with
    outbox := fun building => by
      rw [inOrder.outbox building] at found
      cases found }

theorem setCreate {create : CreateStage} {outbox : Option JudgeOutbox} (built : create ≠ .building)
    (ended : s.completed = true → create = .ended) :
    InOrder setting task { s with create, outbox } :=
  { inOrder with
    outbox := fun building => absurd building built
    callbacks := fun j request stage call =>
      ⟨(inOrder.callbacks j request stage call).1,
        (inOrder.callbacks j request stage call).2.mono built⟩
    ended }

theorem enqueue (before : s.completed = false) (queued : JudgeTaskMessage) (ttl : Int) :
    InOrder setting task
      { s with cached := (setCached s.cached (setting.queuedText queued) ttl).1 } :=
  { inOrder with
    queued := fun _ encoded => by
      dsimp only [setCached]
      split
      · exact inOrder.queued before encoded
      · rintro ⟨⟩
        exact ⟨queued, rfl⟩
    finished := fun completed => by
      rw [before] at completed
      cases completed }

end

end InOrder

theorem writes_startRecovery (row : JudgeOutbox) (now : Int) :
    (startRecovery setting task row now).writes = false := by
  unfold startRecovery
  split
  · rfl
  split
  · rfl
  split
  · rfl
  · rfl

theorem ended_of_not_pending (free : requeuePending s = false) (built : s.create ≠ .building) :
    s.create = .ended ∧ ∀ i, (s.recoveries i).writes = false := by
  simp only [requeuePending, Bool.or_eq_false_iff, decide_eq_false_iff_not, not_exists,
    Bool.not_eq_true] at free
  refine ⟨?_, free.2⟩
  cases stage : s.create with
  | building => exact absurd stage built
  | writing => exact absurd stage free.1
  | ended => rfl

section

variable (inOrder : InOrder setting task s)
include inOrder

theorem InOrder.writeResult {found : Found} {resultJson : Bytes} (here : FoundHere s.create found)
    (free : requeuePending s = false) (ttl : Int) :
    InOrder setting task { s with
      cached := (setCached s.cached
        (finishedState setting.service request found taskId resultJson) ttl).1
      completed := s.completed || (setCached s.cached
        (finishedState setting.service request found taskId resultJson) ttl).2 } := by
  obtain ⟨ended, quiet⟩ := ended_of_not_pending free here.built
  unfold setCached
  split
  -- A task that has expired is not written, and nothing is completed.
  · simp only [Bool.or_false]
    exact inOrder
  · simp only [Bool.or_true]
    refine { inOrder with
      ended := fun _ => ended
      quiet := fun _ => quiet
      queued := nofun
      finished := fun _ encoded stored => ?_ }
    cases stored
    exact ⟨request, found, taskId, resultJson, here.final, here.transient, rfl⟩

theorem InOrder.advance (custom : task.target = some (.custom taskId))
    (notGuest : (text "guest-").isPrefixOf taskId = false) {j : Fin m} {input : CallbackInput}
    (turn : inTurn s (.advance j input) = true) {stage : Stage}
    (call : s.callbacks j = some (request, stage))
    (took : advanceCallback setting s j input request stage = some t) : Keeps setting task s t := by
  obtain ⟨target, ok⟩ := inOrder.callbacks j request stage call
  have goes {next : Stage} (ok : StageOk s.create next) :
      Keeps setting task s (s.setCallback j (some (request, next))) := by
    refine ⟨inOrder.setCallback j ?_, id⟩
    rintro _ _ ⟨⟩
    exact ⟨target, ok⟩
  cases stage with
  | reserving =>
    cases took
    have none : guestTask request = none := by
      rw [guestTask, target, custom]
      simp [notGuest]
    exact goes (stageOk_afterReserve none input.fresh)
  -- Only the state of a guest's task is read before the result is stored.
  | reading taskId => exact ok.elim
  | looking =>
    cases took
    exact goes (stageOk_afterLookup inOrder request input.now input.readable)
  | applying found =>
    cases took
    exact goes (stageOk_afterApply (target.trans custom) ok input.outcome)
  | invalidating found response => exact ok.elim
  | writing found taskId resultJson response =>
    cases took
    have free : requeuePending s = false := by
      simpa [inTurn, call] using turn
    refine ⟨(goes (stageOk_afterWrite _ response _)).inOrder.writeResult ok free _, ?_⟩
    exact fun completed => Bool.or_eq_true_iff.mpr (.inl completed)
  | responded response => cases took

theorem InOrder.commit {fate : CommitFate} {now : DateTime}
    (took : taskStep setting task s (.commit fate now) = some t) : Keeps setting task s t := by
  obtain ⟨building, took⟩ := ite_none_left_eq_some.mp took
  rw [not_ne_iff] at building
  have before : s.completed = true → False := by
    intro completed
    rw [inOrder.ended completed] at building
    cases building
  split at took
  · cases took
    exact ⟨inOrder.setCreate (by decide) fun completed => (before completed).elim, id⟩
  · cases took
    exact ⟨inOrder.setCreate (by decide) fun _ => rfl, id⟩
  · cases took
    exact ⟨inOrder.setCreate (by decide) fun _ => rfl, id⟩
  · cases took
    exact ⟨inOrder.setCreate (by decide) fun _ => rfl, id⟩

theorem InOrder.not_completed (writing : s.create = .writing) : s.completed = false := by
  cases completed : s.completed with
  | false => rfl
  | true =>
    rw [inOrder.ended completed] at writing
    cases writing

theorem InOrder.not_completed_of_writes {i : Fin n}
    (writes : (s.recoveries i).writes = true) : s.completed = false := by
  cases completed : s.completed with
  | false => rfl
  | true =>
    rw [inOrder.quiet completed i] at writes
    cases writes

theorem InOrder.step (custom : task.target = some (.custom taskId))
    (notGuest : (text "guest-").isPrefixOf taskId = false) {a : TaskAction n m}
    (turn : inTurn s a = true) (took : taskStep setting task s a = some t) :
    Keeps setting task s t := by
  cases a with simp only [taskStep] at took
  | commit => exact inOrder.commit took
  | enqueue =>
    obtain ⟨writing, took⟩ := ite_none_left_eq_some.mp took
    cases took
    have before := inOrder.not_completed (not_ne_iff.mp writing)
    exact ⟨(inOrder.enqueue before task 600).setCreate (by decide) fun _ => rfl, id⟩
  | claim i call now =>
    split at took
    · cases took
    rename_i row found
    obtain ⟨-, took⟩ := ite_none_left_eq_some.mp took
    split at took
    · cases took
      exact ⟨inOrder.setOutbox found, id⟩
    · cases took
      exact ⟨(inOrder.setRecovery i fun _ => writes_startRecovery row now).setOutbox found, id⟩
  | recover i queried now =>
    split at took
    · cases took
    rename_i row found
    obtain ⟨-, took⟩ := ite_none_left_eq_some.mp took
    cases took
    exact ⟨inOrder.setRecovery i fun _ => writes_startRecovery row now, id⟩
  | settle call seen =>
    split at took
    · cases took
    rename_i row found
    obtain ⟨-, took⟩ := ite_none_left_eq_some.mp took
    cases took
    exact ⟨inOrder.setOutbox found, id⟩
  | look i =>
    split at took
    · cases took
      refine ⟨inOrder.setRecovery i fun completed => ?_, id⟩
      -- In turn, a state is not looked for once a result was written and has vanished.
      split
      · rename_i absent
        simp [inTurn, absent, completed] at turn
      · rfl
    · cases took
  | requeue i =>
    split at took
    · rename_i parsed ttl writing
      cases took
      have before := inOrder.not_completed_of_writes (i := i) (by rw [writing]; rfl)
      exact ⟨(inOrder.setRecovery i fun _ => rfl).enqueue before parsed ttl, id⟩
    · cases took
  | receive j request now =>
    obtain ⟨⟨-, target⟩, took⟩ := ite_none_right_eq_some.mp took
    cases took
    refine ⟨inOrder.setCallback j ?_, id⟩
    rintro _ _ ⟨⟩
    exact ⟨target, stageOk_start request now⟩
  | advance j input =>
    split at took
    · cases took
    · rename_i request stage call
      exact inOrder.advance custom notGuest turn call took
  | vanish =>
    cases took
    refine ⟨{ inOrder with queued := ?_, finished := ?_ }, id⟩
    · exact nofun
    · exact nofun
  | stop caller =>
    cases caller with cases took
    | creator =>
      exact ⟨inOrder.setCreate (by decide) fun _ => rfl, id⟩
    | recovery i =>
      exact ⟨inOrder.setRecovery i fun _ => rfl, id⟩
    | callback j =>
      exact ⟨inOrder.setCallback j fun _ _ none => (by cases none), id⟩

theorem InOrder.completed_of_holdsResult (holds : holdsResult setting s = true) :
    s.completed = true := by
  cases completed : s.completed with
  | true => rfl
  | false =>
    unfold holdsResult at holds
    cases stored : s.cached with
    | none =>
      rw [stored] at holds
      cases holds
    | some encoded =>
      obtain ⟨queued, rfl⟩ := inOrder.queued completed encoded stored
      obtain ⟨userId, parsed⟩ := setting.parseView_queuedText queued
      rw [stored, bind_some, parsed] at holds
      cases holds

theorem InOrder.not_holdsQueued (completed : s.completed = true) :
    holdsQueued setting s = false := by
  unfold holdsQueued
  cases stored : s.cached with
  | none => rfl
  | some encoded =>
    obtain ⟨request, found, taskId, resultJson, final, transient, rfl⟩ :=
      inOrder.finished completed encoded stored
    obtain ⟨userId, shown, parsed⟩ :=
      setting.parseView_finishedState request transient taskId resultJson
    rw [bind_some, parsed, Option.any_some, decide_eq_false_iff_not]
    intro queued
    change found.result.status = .queued at queued
    rw [queued] at final
    cases final

end

end Invariant

/-- **A result stays** in every run in which it is written only while no call is about to write
`QUEUED`, and no recovery looks for the state after a result has vanished. -/
theorem completed_stays {Time : Type} {env : Env Time} {request : CreateRequest}
    {task : JudgeTaskMessage} (built : createCustomTest env request = .ok task)
    {setting : CustomSetting} {s t : TaskState n m}
    (reachable : (taskSystem setting task n m).ReachableUnder (fun s a => inTurn s a = true) s)
    (holds : holdsResult setting s = true)
    (reaches : (taskSystem setting task n m).ReachesUnder (fun s a => inTurn s a = true) s t) :
    holdsQueued setting t = false := by
  have custom := target_of_createCustomTest built
  have notGuest := not_guest_randomHex env.taskRandom
  have inOrder : InOrder setting task s :=
    reachable.induct inOrder_initial fun _ turn took inOrder =>
      (inOrder.step custom notGuest turn took).inOrder
  have later : InOrder setting task t ∧ t.completed = true :=
    reaches.induct (P := fun t => InOrder setting task t ∧ t.completed = true)
      ⟨inOrder, inOrder.completed_of_holdsResult holds⟩ fun _ turn took ⟨inOrder, completed⟩ =>
        have kept := inOrder.step custom notGuest turn took
        ⟨kept.inOrder, kept.completed completed⟩
  exact later.1.not_holdsQueued later.2

/-! ## A result that is lost -/

def customTask : JudgeTaskMessage :=
  taskOf (sampleEnv (sampleLegacy 1) []) sampleRequest (sampleLegacy 1) 1 [{ index := 1 }]
    (.custom (text "00"))

theorem createCustomTest_sample :
    createCustomTest (sampleEnv (sampleLegacy 1) []) sampleRequest = .ok customTask := by
  decide +kernel

def customService : ServiceSetting where
  codec :=
    { serializeTask task := if task = customTask then some [1] else none
      parseTask payload := if payload = [1] then some customTask else none
      messageToJson _ := some []
      parse_serialize := by
        intro task payload _ serialized
        obtain ⟨same, serialized⟩ := ite_none_right_eq_some.mp serialized
        cases serialized
        rw [same]
        rfl }
  parseResult _ := some { status := .accepted }
  hmac _ _ := List.replicate 32 0
  configuredId := some [107]
  configuredSecret := some [115]
  json := countedJson

def customSetting : CustomSetting := ⟨customService, countedJson_faithful⟩

def customReport : SignedRequest where
  messageId := text "00"
  target := some (.custom (text "00"))
  resultPayload := [9]
  serviceAuth :=
    { keyId := [107]
      timestamp := 1
      nonce := List.replicate 16 97
      hmacSha256 := List.replicate 32 0 }

/-- `UpdateJudgeResult`, from its call to its write. -/
def reportSteps (j : Fin m) : List (TaskAction n m) :=
  .receive j customReport 2 :: List.replicate 4 (.advance j { now := 2000000 })

def firstClaim (i : Fin n) : TaskAction n m := .claim i ⟨1, "a", 30, 10, 1000000, fun _ => 0⟩ 1

/-- The task is created, then claimed and judged; later the server is started again. -/
theorem completed_stays_recovered :
    ∃ s t : TaskState 1 1, holdsResult customSetting s = true ∧ t.recoveries 0 = .idle ∧
      t.create = .ended ∧ holdsQueued customSetting t = false := by
  obtain ⟨s, t, before, first, after, second⟩ :=
    (taskSystem customSetting customTask 1 1).exists_of_runsUnder inTurn
      ([.commit .committed 1000000, .enqueue, firstClaim 0, .look 0] ++ reportSteps 0)
      [.recover 0 3000000 3, .look 0] (holdsResult customSetting)
      (fun t => t.recoveries 0 = .idle ∧ t.create = .ended) (by decide +kernel)
  obtain ⟨idle, ended⟩ := of_decide_eq_true second
  exact ⟨s, t, first, idle, ended, completed_stays createCustomTest_sample before first after⟩

/-- The row is committed and claimed, the task is judged and its result written; then
`CreateCustomTest` writes `QUEUED`. -/
theorem queued_after_result :
    ∃ s t : TaskState 1 1,
      createCustomTest (sampleEnv (sampleLegacy 1) []) sampleRequest = .ok customTask ∧
      (taskSystem customSetting customTask 1 1).Reachable s ∧
      holdsResult customSetting s = true ∧
      (taskSystem customSetting customTask 1 1).Reaches s t ∧
      holdsQueued customSetting t = true := by
  obtain ⟨s, t, before, first, after, second⟩ :=
    (taskSystem customSetting customTask 1 1).exists_of_runsUnder (fun _ _ => true)
      ([.commit .committed 1000000, firstClaim 0, .look 0, .requeue 0] ++ reportSteps 0) [.enqueue]
      (holdsResult customSetting) (holdsQueued customSetting) (by decide +kernel)
  exact ⟨s, t, createCustomTest_sample, before.reaches, first, after.reaches, second⟩

end OnlineJudge.Submissions
