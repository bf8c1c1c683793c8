import OnlineJudge.EventLoop.Loop

/-!
# The life of one task

No section of the loop relates two tasks.  `view s taskId` is the part of a state that concerns a
task, and `TaskStep` lists everything a step can do to it (`step_view`).
-/

namespace OnlineJudge.EventLoop

variable {ω : Type} {n m : Nat}

inductive Role
  | away
  | popped
  | resuming
  | returning
  | post (stopping : Bool)
  | cancelling (callback : Bool)
  | cancelled (callback : Bool)
  | completing (callback : Bool)
  | completed (callback : Bool)
  | exited
  deriving DecidableEq

def OwnerPc.role (taskId : TaskId) : OwnerPc ω → Role
  | .idle => .away
  | .popped t => if t = taskId then .popped else .away
  | .resuming t _ => if t = taskId then .resuming else .away
  | .returning t => if t = taskId then .returning else .away
  | .post t stopping => if t = taskId then .post stopping else .away
  | .cancelling t callback => if t = taskId then .cancelling callback else .away
  | .cancelled t callback => if t = taskId then .cancelled callback else .away
  | .completing t callback _ => if t = taskId then .completing callback else .away
  | .completed t callback => if t = taskId then .completed callback else .away
  | .exited => .exited

attribute [simp] OwnerPc.role

inductive IoRole
  | away
  | holds (generation : UInt64)
  | exited
  deriving DecidableEq

def IoPc.job? : IoPc ω → Option (IoJob ω)
  | .idle => none
  | .holding job => some job
  | .executing job => some job
  | .finished job _ => some job
  | .exited => none

def IoPc.role (taskId : TaskId) (pc : IoPc ω) : IoRole :=
  if pc.isExited then .exited
  else
    match pc.job? with
    | some job => if job.taskId = taskId then .holds job.generation else .away
    | none => .away

section IoRole

variable (taskId : TaskId) (job : IoJob ω)

@[simp] theorem IoPc.role_idle : (IoPc.idle : IoPc ω).role taskId = .away := rfl

@[simp] theorem IoPc.role_exited : (IoPc.exited : IoPc ω).role taskId = .exited := rfl

@[simp] theorem IoPc.role_holding : (IoPc.holding job).role taskId =
    if job.taskId = taskId then .holds job.generation else .away := rfl

@[simp] theorem IoPc.role_executing : (IoPc.executing job).role taskId =
    if job.taskId = taskId then .holds job.generation else .away := rfl

@[simp] theorem IoPc.role_finished (result : DockerTaskResult) :
    (IoPc.finished job result).role taskId =
      if job.taskId = taskId then .holds job.generation else .away := rfl

end IoRole

@[ext]
structure TaskView (ω : Type) (n m : Nat) where
  entry : Option (PendingEntry ω)
  /-- The task's id occurs in `_ready`. -/
  listed : Bool
  /-- The generations of the task's jobs in `_io_queue`. -/
  queued : List UInt64
  role : Fin n → Role
  ioRole : Fin m → IoRole
  running : Bool
  acceptingIo : Bool
  stopOwners : Bool
  stop : StopPhase
  used : Bool
  accepted : Bool
  invoked : Nat

def generationsOf (taskId : TaskId) (queue : List (IoJob ω)) : List UInt64 :=
  (queue.filter fun job => job.taskId = taskId).map IoJob.generation

def view (s : LoopState ω n m) (taskId : TaskId) : TaskView ω n m where
  entry := s.pendings[taskId]?
  listed := decide (taskId ∈ s.ready)
  queued := generationsOf taskId s.ioQueue
  role owner := (s.owners owner).role taskId
  ioRole worker := (s.ios worker).role taskId
  running := s.running
  acceptingIo := s.acceptingIo
  stopOwners := s.stopOwners
  stop := s.stop
  used := decide (taskId ∈ s.used)
  accepted := decide (taskId ∈ s.accepted)
  invoked := s.invoked.count taskId

namespace TaskView

variable (v : TaskView ω n m)

@[simps] def setRole (owner : Fin n) (role : Role) : TaskView ω n m :=
  { v with role := Function.update v.role owner role }

@[simps] def setIoRole (worker : Fin m) (role : IoRole) : TaskView ω n m :=
  { v with ioRole := Function.update v.ioRole worker role }

@[simps] def setEntry (entry : PendingEntry ω) : TaskView ω n m :=
  { v with entry := some entry }

@[simps] def eraseEntry : TaskView ω n m :=
  { v with entry := none }

/-- Change whether `_ready` has the task's id. -/
@[simps] def setListed (listed : Bool) : TaskView ω n m :=
  { v with listed := listed }

@[simps] def setQueued (queued : List UInt64) : TaskView ω n m :=
  { v with queued := queued }

@[simps] def addInvoked (calls : Nat) : TaskView ω n m :=
  { v with invoked := v.invoked + calls }

@[simps] def setStop (stop : StopPhase) : TaskView ω n m :=
  { v with stop := stop }

end TaskView

def CoTask.Suspended (task : CoTask ω) : Prop :=
  match task.point with
  | .start _ | .await _ => True
  | .executing | .final => False

variable {task : CoTask ω} {action : Action ω n m} {e : PendingEntry ω}

theorem CoTask.suspended_iff : task.Suspended ↔ task.resumeBody.isSome := by
  unfold Suspended resumeBody
  cases task.point <;> simp

theorem CoTask.not_done_of_suspended (suspended : task.Suspended) : task.done = false := by
  unfold Suspended at suspended
  unfold done
  cases point : task.point <;> simp_all

theorem CoTask.not_done_of_executing (executing : task.point = .executing) : task.done = false := by
  simp [done, executing]

open TaskView

/-- **What one step of the loop can do to one task.**  `stutter` is every step
that concerns other tasks only, and every step of the coroutine that changes
nothing but the coroutine. -/
inductive TaskStep : TaskView ω n m → TaskView ω n m → Prop
  | stutter {v} : TaskStep v v
  | push {v} (body : Coroutine ω) (deadline : Nat) (callback : Bool)
      (isRunning : v.running = true) (accepting : v.acceptingIo = true)
      (absent : v.entry = none) (fresh : v.used = false) :
      TaskStep v
        { v with
          entry := some { task := { point := .start body, cb := callback }, deadline := deadline }
          listed := true
          used := true
          accepted := callback || v.accepted }
  /-- The deadline sweep or a refused `SubmitIo` marks a running entry. -/
  | markRunning {v} {e : PendingEntry ω} (present : v.entry = some e)
      (state : e.state = .running) :
      TaskStep v (v.setEntry { e with cancelRequested := true })
  | markReady {v} {e : PendingEntry ω} (present : v.entry = some e)
      (state : e.state ≠ .running) (wanted : e.cancelRequested = false) :
      TaskStep v ((v.setEntry { e with cancelRequested := true, state := .ready }).setListed true)
  /-- An occurrence in `_ready` is dropped. -/
  | unlist {v} (listed : Bool) (fewer : listed = true → v.listed = true)
      (notReady : ∀ e, v.entry = some e → e.state ≠ .ready) :
      TaskStep v (v.setListed listed)
  | pop {v} (owner : Fin n) {e : PendingEntry ω} (listed : Bool)
      (fewer : listed = true → v.listed = true) (free : v.role owner = .away)
      (present : v.entry = some e) (state : e.state = .ready) :
      TaskStep v
        (((v.setEntry { e with state := .running }).setRole owner
          (if !v.running || e.cancelRequested then .post true else .popped)).setListed listed)
  | ownerExit {v} (owner : Fin n) (free : v.role owner = .away) (unlisted : v.listed = false)
      (stopping : v.stopOwners = true) :
      TaskStep v (v.setRole owner .exited)
  | resumeNothing {v} (owner : Fin n) (popped : v.role owner = .popped)
      (nothing : ∀ e, v.entry = some e → ¬ e.task.Suspended) :
      TaskStep v (v.setRole owner .returning)
  | resume {v} (owner : Fin n) {e : PendingEntry ω} (popped : v.role owner = .popped)
      (present : v.entry = some e) (suspended : e.task.Suspended) :
      TaskStep v
        ((v.setEntry { e with task := { e.task with point := .executing } }).setRole owner
          .resuming)
  /-- `SubmitIo` takes the job and the coroutine suspends. -/
  | submit {v} (owner : Fin n) {e : PendingEntry ω} (ioDeadline : Nat)
      (continuation : DockerTaskResult → Coroutine ω) (resuming : v.role owner = .resuming)
      (present : v.entry = some e) (accepting : v.acceptingIo = true)
      (state : e.state = .running) (wanted : e.cancelRequested = false) :
      TaskStep v
        (((v.setEntry
          { e with
            task := { e.task with point := .await continuation }
            state := .waiting
            ioInFlight := true
            ioDeadline := ioDeadline
            generation := e.generation + 1 }).setRole owner .returning).setQueued
          (v.queued ++ [e.generation + 1]))
  | coroutineGone {v} (owner : Fin n) (resuming : v.role owner = .resuming)
      (absent : v.entry = none) :
      TaskStep v (v.setRole owner .returning)
  | coroutineDone {v} (owner : Fin n) {e : PendingEntry ω} (request : Option JudgeResult)
      (resuming : v.role owner = .resuming) (present : v.entry = some e) :
      TaskStep v
        ((v.setEntry { e with task := { e.task with point := .final, request := request } }).setRole
          owner .returning)
  | resumeReturns {v} (owner : Fin n) (returning : v.role owner = .returning) :
      TaskStep v (v.setRole owner (.post false))
  | postGone {v} (owner : Fin n) {stopping : Bool} (post : v.role owner = .post stopping)
      (absent : v.entry = none) :
      TaskStep v (v.setRole owner .away)
  | takeCancelled {v} (owner : Fin n) {stopping : Bool} {e : PendingEntry ω}
      (post : v.role owner = .post stopping) (present : v.entry = some e)
      (cancel : (stopping || e.cancelRequested) = true) :
      TaskStep v
        ((v.setEntry { e with task := { e.task with cb := false } }).setRole owner
          (.cancelling e.task.cb))
  | takeDone {v} (owner : Fin n) {e : PendingEntry ω} (post : v.role owner = .post false)
      (present : v.entry = some e) (wanted : e.cancelRequested = false)
      (done : e.task.done = true) :
      TaskStep v
        ((v.setEntry { e with task := { e.task with cb := false } }).setRole owner
          (.completing e.task.cb))
  | postContinue {v} (owner : Fin n) {e : PendingEntry ω} (post : v.role owner = .post false)
      (present : v.entry = some e) (wanted : e.cancelRequested = false)
      (notDone : e.task.done = false) :
      TaskStep v (v.setRole owner .away)
  | invokeCancelled {v} (owner : Fin n) {callback : Bool}
      (cancelling : v.role owner = .cancelling callback) :
      TaskStep v ((v.setRole owner (.cancelled callback)).addInvoked callback.toNat)
  | invokeCompleted {v} (owner : Fin n) {callback : Bool}
      (completing : v.role owner = .completing callback) :
      TaskStep v ((v.setRole owner (.completed callback)).addInvoked callback.toNat)
  | finishGone {v} (owner : Fin n) {callback : Bool}
      (finishing : v.role owner = .cancelled callback ∨ v.role owner = .completed callback)
      (absent : v.entry = none) :
      TaskStep v (v.setRole owner .away)
  | finishWaiting {v} (owner : Fin n) {callback : Bool} {e : PendingEntry ω}
      (cancelled : v.role owner = .cancelled callback) (present : v.entry = some e)
      (inFlight : e.ioInFlight = true) :
      TaskStep v ((v.setEntry { e with state := .waiting }).setRole owner .away)
  | finishErase {v} (owner : Fin n) {callback : Bool} {e : PendingEntry ω}
      (finishing : v.role owner = .cancelled callback ∧ e.ioInFlight = false ∨
        v.role owner = .completed callback)
      (present : v.entry = some e) :
      TaskStep v (v.setRole owner .away).eraseEntry
  | ioTake {v} (worker : Fin m) {generation : UInt64} {rest : List UInt64}
      (free : v.ioRole worker = .away) (front : v.queued = generation :: rest)
      (isRunning : v.running = true) :
      TaskStep v ((v.setIoRole worker (.holds generation)).setQueued rest)
  | ioExit {v} (worker : Fin m) (free : v.ioRole worker = .away)
      (stopped : v.running = false) :
      TaskStep v (v.setIoRole worker .exited)
  | ioStale {v} (worker : Fin m) {generation : UInt64}
      (holds : v.ioRole worker = .holds generation)
      (stale : ∀ e, v.entry = some e → e.generation ≠ generation) :
      TaskStep v (v.setIoRole worker .away)
  | ioCancelled {v} (worker : Fin m) {e : PendingEntry ω}
      (holds : v.ioRole worker = .holds e.generation) (present : v.entry = some e)
      (cancel : (e.cancelRequested || !v.running) = true) :
      TaskStep v
        (((v.setEntry
          { e with
            ioInFlight := false
            cancelRequested := true
            state := if e.state = .running then .running else .ready }).setIoRole
          worker .away).setListed (v.listed || e.state ≠ .running))
  | ioResult {v} (worker : Fin m) {e : PendingEntry ω} (result : DockerTaskResult)
      (holds : v.ioRole worker = .holds e.generation) (present : v.entry = some e)
      (wanted : e.cancelRequested = false) (isRunning : v.running = true) :
      TaskStep v
        (((v.setEntry
          { e with
            ioInFlight := false
            task := { e.task with result := result }
            state := .ready }).setIoRole worker .away).setListed true)
  | stopAccepting {v} (phase : v.stop = .notCalled) :
      TaskStep v { v with acceptingIo := false, stop := .acceptingCleared }
  | stopRunning {v} (phase : v.stop = .acceptingCleared) :
      TaskStep v { v with running := false, stop := .runningCleared }
  | stopSwap {v} (phase : v.stop = .runningCleared) :
      TaskStep v ((v.setQueued []).setStop .ioSwapped)
  | stopIoNotify {v} (phase : v.stop = .ioSwapped) :
      TaskStep v (v.setStop .ioNotified)
  | stopJoinIo {v} (phase : v.stop = .ioNotified)
      (joined : ∀ worker, v.ioRole worker = .exited) :
      TaskStep v (v.setStop .ioJoined)
  | stopSweep {v} (phase : v.stop = .ioJoined) :
      TaskStep v
        { v with
          entry := v.entry.map PendingEntry.cancel
          listed := v.listed || v.entry.any fun e => e.state ≠ .running
          stop := .swept }
  | stopOwners {v} (phase : v.stop = .swept) :
      TaskStep v { v with stopOwners := true, stop := .ownersStopped }
  | stopNotify {v} (phase : v.stop = .ownersStopped) :
      TaskStep v (v.setStop .ownersNotified)
  | stopJoin {v} (phase : v.stop = .ownersNotified)
      (joined : ∀ owner, v.role owner = .exited) :
      TaskStep v (v.setStop .returned)

open TaskStep

/-! ## The view after an elementary change -/

section View

variable (s : LoopState ω n m) {taskId other : TaskId}

@[simp] theorem view_entry : (view s taskId).entry = s.pendings[taskId]? := rfl

@[simp] theorem view_role (owner : Fin n) :
    (view s taskId).role owner = (s.owners owner).role taskId := rfl

@[simp] theorem view_ioRole (worker : Fin m) :
    (view s taskId).ioRole worker = (s.ios worker).role taskId := rfl

@[simp] theorem view_setEntry_self (entry : PendingEntry ω) :
    view (s.setEntry taskId entry) taskId = (view s taskId).setEntry entry := by
  apply TaskView.ext
  case entry => simp [view, LoopState.setEntry, TaskView.setEntry]
  all_goals rfl

@[simp] theorem view_setEntry_of_ne (entry : PendingEntry ω) (ne : taskId ≠ other) :
    view (s.setEntry taskId entry) other = view s other := by
  apply TaskView.ext
  case entry => simp [view, LoopState.setEntry, Std.TreeMap.getElem?_insert, ne]
  all_goals rfl

@[simp] theorem view_eraseEntry_self :
    view (s.eraseEntry taskId) taskId = (view s taskId).eraseEntry := by
  apply TaskView.ext
  case entry => simp [view, LoopState.eraseEntry]
  all_goals rfl

@[simp] theorem view_eraseEntry_of_ne (ne : taskId ≠ other) :
    view (s.eraseEntry taskId) other = view s other := by
  apply TaskView.ext
  case entry => simp [view, LoopState.eraseEntry, Std.TreeMap.getElem?_erase, ne]
  all_goals rfl

@[simp] theorem view_pushReady_self :
    view (s.pushReady taskId) taskId = (view s taskId).setListed true := by
  apply TaskView.ext
  case listed => simp [view, LoopState.pushReady]
  all_goals rfl

@[simp] theorem view_pushReady_of_ne (ne : taskId ≠ other) :
    view (s.pushReady taskId) other = view s other := by
  apply TaskView.ext
  case listed => simp [view, LoopState.pushReady, ne.symm]
  all_goals rfl

theorem view_pushIo_self {job : IoJob ω} (mine : job.taskId = taskId) :
    view (s.pushIo job) taskId =
      (view s taskId).setQueued ((view s taskId).queued ++ [job.generation]) := by
  apply TaskView.ext
  case queued => simp [view, LoopState.pushIo, generationsOf, mine]
  all_goals rfl

@[simp] theorem view_pushIo_of_ne {job : IoJob ω} (ne : job.taskId ≠ other) :
    view (s.pushIo job) other = view s other := by
  apply TaskView.ext
  case queued => simp [view, LoopState.pushIo, generationsOf, ne]
  all_goals rfl

@[simp] theorem view_setOwner (owner : Fin n) (pc : OwnerPc ω) :
    view (s.setOwner owner pc) taskId = (view s taskId).setRole owner (pc.role taskId) := by
  apply TaskView.ext
  case role =>
    funext i
    by_cases same : i = owner
    · subst same; simp [LoopState.setOwner, TaskView.setRole]
    · simp [LoopState.setOwner, TaskView.setRole, same]
  all_goals rfl

@[simp] theorem view_setIo (worker : Fin m) (pc : IoPc ω) :
    view (s.setIo worker pc) taskId = (view s taskId).setIoRole worker (pc.role taskId) := by
  apply TaskView.ext
  case ioRole =>
    funext i
    by_cases same : i = worker
    · subst same; simp [LoopState.setIo, TaskView.setIoRole]
    · simp [LoopState.setIo, TaskView.setIoRole, same]
  all_goals rfl

end View

@[simp] theorem TaskView.setRole_eq_self {v : TaskView ω n m} {owner : Fin n} {role : Role}
    (same : v.role owner = role) : v.setRole owner role = v := by
  subst same
  simp [TaskView.setRole]

@[simp] theorem TaskView.addInvoked_zero (v : TaskView ω n m) : v.addInvoked 0 = v := rfl

@[simp] theorem TaskView.setIoRole_eq_self {v : TaskView ω n m} {worker : Fin m} {role : IoRole}
    (same : v.ioRole worker = role) : v.setIoRole worker role = v := by
  subst same
  simp [TaskView.setIoRole]

@[simp] theorem view_writeFrame_of_ne {s : LoopState ω n m} {taskId other : TaskId}
    (write : CoTask ω → CoTask ω) (ne : taskId ≠ other) :
    view (writeFrame s taskId write) other = view s other := by
  unfold writeFrame
  split
  · rfl
  · exact view_setEntry_of_ne s _ ne

theorem view_writeFrame_of_some {s : LoopState ω n m} {taskId : TaskId} {entry : PendingEntry ω}
    (write : CoTask ω → CoTask ω) (present : s.pendings[taskId]? = some entry) :
    view (writeFrame s taskId write) taskId =
      (view s taskId).setEntry { entry with task := write entry.task } := by
  simp only [writeFrame, present]
  exact view_setEntry_self s _

section

variable (s : LoopState ω n m) (taskId : TaskId) (write : CoTask ω → CoTask ω)

theorem writeFrame_shape :
    ∃ pendings, writeFrame s taskId write = { s with pendings := pendings } := by
  unfold writeFrame
  split
  · exact ⟨_, rfl⟩
  · exact ⟨_, rfl⟩

@[simp] theorem writeFrame_owners : (writeFrame s taskId write).owners = s.owners := by
  obtain ⟨pendings, shape⟩ := writeFrame_shape s taskId write
  rw [shape]

@[simp] theorem writeFrame_stop : (writeFrame s taskId write).stop = s.stop := by
  obtain ⟨pendings, shape⟩ := writeFrame_shape s taskId write
  rw [shape]

end

/-! ## The sections, seen from one task -/

section Sections

variable {s t : LoopState ω n m} {taskId other : TaskId}

theorem TaskStep.of_eq {v w u : TaskView ω n m} (step : TaskStep v w) (eq : u = w) :
    TaskStep v u := eq ▸ step

variable {timeoutMs : Int} {owner : Fin n} {worker : Fin m}

theorem view_pushNewTask {body : Option (Coroutine ω)} {callback : Bool}
    (step : pushNewTask s taskId body timeoutMs callback = some t) :
    TaskStep (view s other) (view t other) := by
  cases body with
  | none => cases step; exact .stutter
  | some body =>
    simp only [pushNewTask] at step
    split at step
    · cases step; exact .stutter
    split at step
    · cases step; exact .stutter
    split at step
    · cases step
    case isFalse refused present fresh =>
      have flags : s.running = true ∧ s.acceptingIo = true := by simpa using refused
      have absent : s.pendings[taskId]? = none := by simpa using present
      cases step
      by_cases same : taskId = other
      · subst same
        refine of_eq (push body (s.now + (max 1 timeoutMs).toNat) callback
          flags.1 flags.2 absent (by simpa [view] using fresh)) ?_
        apply TaskView.ext
        case entry => simp [view, LoopState.setEntry, LoopState.pushReady]
        case listed => simp [view, LoopState.setEntry, LoopState.pushReady]
        case used => simp [view]
        case accepted => cases callback <;> simp [view]
        all_goals rfl
      · refine of_eq .stutter ?_
        apply TaskView.ext
        case entry =>
          simp [view, LoopState.setEntry, LoopState.pushReady, Std.TreeMap.getElem?_insert, same]
        case listed => simp [view, LoopState.setEntry, LoopState.pushReady, Ne.symm same]
        case used => simp [view, Ne.symm same]
        case accepted => cases callback <;> simp [view, Ne.symm same]
        all_goals rfl

theorem view_sweep : TaskStep (view s other) (view (sweep s) other) := by
  have listed : other ∈ sweptReady s ↔
      ∃ e, s.pendings[other]? = some e ∧ e.overdue s.now = true ∧ e.state ≠ .running := by
    simp [sweptReady, Std.TreeMap.mem_toList_iff_getElem?_eq_some]
  cases present : s.pendings[other]? with
  | none =>
    refine of_eq .stutter ?_
    apply TaskView.ext
    case entry => simp [view, sweep, Std.TreeMap.getElem?_map, present]
    case listed => simp [view, sweep, listed, present]
    all_goals rfl
  | some e =>
    have entry : (view (sweep s) other).entry = some (e.sweep s.now) := by
      simp [view, sweep, Std.TreeMap.getElem?_map, present]
    by_cases overdue : e.overdue s.now = true
    · have wanted : e.cancelRequested = false := by
        simp only [PendingEntry.overdue, Bool.and_eq_true, Bool.not_eq_true'] at overdue
        exact overdue.1
      by_cases state : e.state = .running
      · refine of_eq (markRunning present state) ?_
        apply TaskView.ext
        case entry => exact entry.trans (by simp [PendingEntry.sweep, overdue, state, setEntry])
        case listed => simp [view, sweep, listed, present, state, setEntry]
        all_goals rfl
      · refine of_eq (markReady present state wanted) ?_
        apply TaskView.ext
        case entry => exact entry.trans (by simp [PendingEntry.sweep, overdue, state, setEntry])
        case listed => simp [view, sweep, listed, present, state, overdue]
        all_goals rfl
    · refine of_eq .stutter ?_
      apply TaskView.ext
      case entry => exact entry.trans (by simp [PendingEntry.sweep, overdue, present])
      case listed => simp [view, sweep, listed, present, overdue]
      all_goals rfl

theorem view_popReady (idle : s.owners owner = .idle) :
    TaskStep (view s other) (view (popReady s owner) other) := by
  have away : (view s other).role owner = .away := by simp [idle]
  unfold popReady
  cases queue : s.ready with
  | nil =>
    dsimp only
    split
    case isTrue stopping =>
      refine of_eq (ownerExit owner away (by simp [view, queue]) stopping) ?_
      exact view_setOwner s owner .exited
    case isFalse => exact .stutter
  | cons front rest =>
    dsimp only
    have fewer : decide (other ∈ rest) = true → (view s other).listed = true := by
      intro member
      have member : other ∈ rest := by simpa using member
      simp [view, queue, member]
    have dropped : view { s with ready := rest } other =
        (view s other).setListed (decide (other ∈ rest)) := rfl
    by_cases same : front = other
    · subst same
      cases present : s.pendings[front]? with
      | none => exact of_eq (unlist _ fewer (by simp [present])) dropped
      | some e =>
        dsimp only
        split
        case isTrue state =>
          refine of_eq (pop owner _ fewer away present state) ?_
          rw [view_setOwner, view_setEntry_self, dropped, apply_ite (OwnerPc.role front)]
          simp only [OwnerPc.role, if_true]
          rfl
        case isFalse state =>
          refine of_eq (unlist _ fewer ?_) dropped
          intro e' present'
          rw [view_entry, present] at present'
          cases present'
          exact state
    · have kept : view { s with ready := rest } other = view s other := by
        rw [dropped]
        apply TaskView.ext
        case listed => simp [view, queue, Ne.symm same]
        all_goals rfl
      refine of_eq .stutter ?_
      cases present : s.pendings[front]? with
      | none => exact kept
      | some e =>
        dsimp only
        split
        case isFalse => exact kept
        case isTrue =>
          rw [view_setOwner, view_setEntry_of_ne _ _ same, kept]
          refine TaskView.setRole_eq_self ?_
          split <;> simp [same, idle]

theorem view_ownerSection (step : ownerSection s owner = some t) :
    Relation.ReflTransGen TaskStep (view s other) (view t other) := by
  unfold ownerSection at step
  split at step
  case h_1 idle =>
    cases step
    have swept : TaskStep (view s other) (view (sweep s) other) := view_sweep
    have popped : TaskStep (view (sweep s) other) (view (popReady (sweep s) owner) other) :=
      view_popReady idle
    exact (Relation.ReflTransGen.single swept).tail popped
  case h_2 => cases step

theorem view_resume (step : resume s owner = some t) : TaskStep (view s other) (view t other) := by
  unfold resume at step
  split at step
  case h_2 => cases step
  case h_1 taskId pc =>
    by_cases same : taskId = other
    · subst same
      have popped : (view s taskId).role owner = .popped := by simp [pc]
      cases present : s.pendings[taskId]? with simp only [present] at step
      | none =>
        cases step
        refine (TaskStep.resumeNothing owner popped (by simp [present])).of_eq ?_
        simp
      | some e =>
        cases body : e.task.resumeBody with simp only [body] at step
        | none =>
          cases step
          refine (TaskStep.resumeNothing owner popped ?_).of_eq (by simp)
          simp [present, CoTask.suspended_iff, body]
        | some =>
          cases step
          refine (TaskStep.resume owner popped present
            (by simp [CoTask.suspended_iff, body])).of_eq ?_
          simp [view_writeFrame_of_some _ present]
    · refine stutter.of_eq ?_
      repeat' split at step
      all_goals
        cases step
        simp [pc, same]

theorem submitIo_cases (s : LoopState ω n m) (taskId : TaskId) (work : ω) (timeoutMs : Int) :
    submitIo s taskId work timeoutMs = (false, s) ∨
    (∃ e, s.pendings[taskId]? = some e ∧ e.state = .running ∧
      submitIo s taskId work timeoutMs =
        (false, s.setEntry taskId { e with cancelRequested := true })) ∨
    (∃ e ioDeadline, s.pendings[taskId]? = some e ∧ s.acceptingIo = true ∧ e.state = .running ∧
      e.cancelRequested = false ∧
      submitIo s taskId work timeoutMs =
        (true, (s.setEntry taskId
          { e with
            state := .waiting
            ioInFlight := true
            ioDeadline := ioDeadline
            generation := e.generation + 1 }).pushIo
          ⟨taskId, e.generation + 1, ioDeadline, work⟩)) := by
  unfold submitIo
  cases present : s.pendings[taskId]? with
  | none => exact .inl rfl
  | some e =>
    dsimp only
    by_cases refused : (!s.acceptingIo || e.state ≠ .running || e.cancelRequested) = true
    · rw [if_pos refused]
      exact .inl rfl
    rw [if_neg refused]
    simp only [Bool.or_eq_true, not_or, Bool.not_eq_true, decide_eq_false_iff_not,
      Bool.not_eq_false', Decidable.not_not] at refused
    obtain ⟨⟨accepting, state⟩, wanted⟩ := refused
    by_cases late : e.deadline ≤ s.now
    · rw [if_pos late]
      exact .inr (.inl ⟨e, rfl, state, rfl⟩)
    · rw [if_neg late]
      exact .inr (.inr ⟨e, _, rfl, accepting, state, wanted, rfl⟩)

theorem view_awaitSuspend {work : Option ω} {continuation : DockerTaskResult → Coroutine ω}
    {body : Coroutine ω} (pc : s.owners owner = .resuming taskId body) :
    TaskStep (view s other)
      (view (awaitSuspend s owner taskId timeoutMs work continuation) other) := by
  have stays : ∀ (s' : LoopState ω n m) (body' : Coroutine ω), s'.owners = s.owners →
      view (s'.setOwner owner (.resuming taskId body')) other = view s' other := by
    intro s' body' owners
    rw [view_setOwner]
    exact TaskView.setRole_eq_self (by simp [owners, pc])
  unfold awaitSuspend
  cases work with
  | none => exact stutter.of_eq (stays s _ rfl)
  | some work =>
    rcases submitIo_cases s taskId work (max 1 timeoutMs) with
      same | ⟨e, present, state, same⟩ | ⟨e, ioDeadline, present, accepting, state, wanted, same⟩
    · simp only [same]
      exact stutter.of_eq (stays s _ rfl)
    · simp only [same]
      rw [stays (s.setEntry _ _) _ rfl]
      by_cases mine : taskId = other
      · subst mine
        exact (markRunning present state).of_eq (view_setEntry_self s _)
      · exact stutter.of_eq (view_setEntry_of_ne s _ mine)
    · simp only [same]
      by_cases mine : taskId = other
      · subst mine
        refine (submit owner ioDeadline continuation (by simp [pc]) present accepting
          state wanted).of_eq ?_
        rw [view_setOwner, view_writeFrame_of_some _ Std.TreeMap.getElem?_insert_self,
          view_pushIo_self _ rfl, view_setEntry_self]
        simp only [OwnerPc.role, if_true]
        rfl
      · refine stutter.of_eq ?_
        simp [pc, mine]

theorem view_coroutineStep {time : Int} (step : coroutineStep s owner time = some t) :
    TaskStep (view s other) (view t other) := by
  unfold coroutineStep at step
  split at step
  case h_1 taskId request pc =>
    cases step
    by_cases same : taskId = other
    · subst same
      have resuming : (view s taskId).role owner = .resuming := by simp [pc]
      cases present : s.pendings[taskId]? with
      | none =>
        refine (coroutineGone owner resuming present).of_eq ?_
        simp [writeFrame, present]
      | some =>
        refine (coroutineDone owner request resuming present).of_eq ?_
        simp [view_writeFrame_of_some _ present]
    · refine stutter.of_eq ?_
      simp [pc, same]
  case h_2 taskId continuation pc =>
    cases step
    refine stutter.of_eq ?_
    rw [view_setOwner]
    exact TaskView.setRole_eq_self (by simp [pc])
  case h_3 pc =>
    cases step
    exact view_awaitSuspend pc
  case h_4 => cases step

theorem view_resumeReturns (step : resumeReturns s owner = some t) :
    TaskStep (view s other) (view t other) := by
  unfold resumeReturns at step
  split at step
  case h_2 => cases step
  case h_1 taskId pc =>
    cases step
    by_cases same : taskId = other
    · subst same
      refine (TaskStep.resumeReturns owner (by simp [pc])).of_eq ?_
      simp
    · refine TaskStep.stutter.of_eq ?_
      simp [pc, same]

theorem view_postResume (step : postResume s owner = some t) :
    TaskStep (view s other) (view t other) := by
  unfold postResume at step
  split at step
  case h_2 => cases step
  case h_1 taskId stopping pc =>
    by_cases same : taskId = other
    · subst same
      have post : (view s taskId).role owner = .post stopping := by simp [pc]
      cases present : s.pendings[taskId]? with simp only [present] at step
      | none =>
        cases step
        refine (postGone owner post present).of_eq ?_
        simp
      | some e =>
        split at step
        case isTrue cancel =>
          cases step
          refine (takeCancelled owner post present cancel).of_eq ?_
          simp
        case isFalse keep =>
          have keep : stopping = false ∧ e.cancelRequested = false := by simpa using keep
          rw [keep.1] at post
          split at step
          case isTrue done =>
            cases step
            refine (takeDone owner post present keep.2 done).of_eq ?_
            simp
          case isFalse notDone =>
            cases step
            refine (postContinue owner post present keep.2 (by simpa using notDone)).of_eq ?_
            simp
    · refine stutter.of_eq ?_
      repeat' split at step
      all_goals
        cases step
        simp [pc, same]

theorem view_invoked (owner : Fin n) (pc : OwnerPc ω) (taskId : TaskId) (callback : Bool) :
    view { s.setOwner owner pc with
        invoked := if callback then taskId :: s.invoked else s.invoked } other =
      ((view s other).setRole owner (pc.role other)).addInvoked
        (if taskId = other then callback.toNat else 0) := by
  rw [← view_setOwner]
  apply TaskView.ext
  case invoked =>
    by_cases same : taskId = other <;> cases callback <;> simp [view, LoopState.setOwner, same]
  all_goals rfl

theorem view_invokeCallback (step : invokeCallback s owner = some t) :
    TaskStep (view s other) (view t other) := by
  unfold invokeCallback at step
  split at step
  case h_1 taskId callback pc =>
    cases step
    rw [view_invoked]
    by_cases same : taskId = other
    · subst same
      have cancelling : (view s taskId).role owner = .cancelling callback := by simp [pc]
      simpa using invokeCancelled owner cancelling
    · refine stutter.of_eq ?_
      simp [pc, same]
  case h_2 taskId callback result pc =>
    cases step
    rw [view_invoked]
    by_cases same : taskId = other
    · subst same
      have completing : (view s taskId).role owner = .completing callback := by simp [pc]
      simpa using invokeCompleted owner completing
    · refine stutter.of_eq ?_
      simp [pc, same]
  case h_3 => cases step

theorem view_finish (step : finish s owner = some t) : TaskStep (view s other) (view t other) := by
  unfold finish at step
  split at step
  case h_1 taskId callback pc =>
    by_cases same : taskId = other
    · subst same
      have cancelled : (view s taskId).role owner = .cancelled callback := by simp [pc]
      cases present : s.pendings[taskId]? with simp only [present] at step
      | none =>
        cases step
        refine (finishGone owner (.inl cancelled) present).of_eq ?_
        simp
      | some e =>
        split at step
        case isTrue inFlight =>
          cases step
          refine (finishWaiting owner cancelled present inFlight).of_eq ?_
          simp
        case isFalse landed =>
          cases step
          refine (finishErase owner (.inl ⟨cancelled, by simpa using landed⟩) present).of_eq ?_
          rw [view_setOwner, view_eraseEntry_self]
          rfl
    · refine stutter.of_eq ?_
      repeat' split at step
      all_goals
        cases step
        simp [pc, same]
  case h_2 taskId callback pc =>
    cases step
    by_cases same : taskId = other
    · subst same
      have completed : (view s taskId).role owner = .completed callback := by simp [pc]
      rw [view_setOwner, view_eraseEntry_self]
      cases present : s.pendings[taskId]? with
      | none =>
        refine (finishGone owner (.inr completed) present).of_eq ?_
        apply TaskView.ext
        case entry => exact present.symm
        all_goals rfl
      | some => exact (finishErase owner (.inr completed) present).of_eq rfl
    · refine stutter.of_eq ?_
      simp [pc, same]
  case h_3 => cases step

theorem view_ioTake (step : ioTake s worker = some t) : TaskStep (view s other) (view t other) := by
  unfold ioTake at step
  split at step
  case h_2 => cases step
  case h_1 idle =>
    have free : (view s other).ioRole worker = .away := by simp [idle]
    split at step
    case isTrue stopped =>
      cases step
      refine (TaskStep.ioExit worker free (by simpa [view] using stopped)).of_eq ?_
      simp
    case isFalse isRunning =>
      split at step
      · cases step
      case h_2 job rest queue =>
        cases step
        by_cases mine : job.taskId = other
        · have front : (view s other).queued = job.generation :: generationsOf other rest := by
            simp [view, generationsOf, queue, mine]
          refine (TaskStep.ioTake worker free front (by simpa [view] using isRunning)).of_eq ?_
          rw [view_setIo, IoPc.role_holding, if_pos mine]
          rfl
        · refine stutter.of_eq ?_
          rw [view_setIo, TaskView.setIoRole_eq_self (by simp [idle, mine])]
          apply TaskView.ext
          case queued => simp [view, generationsOf, queue, mine]
          all_goals rfl

theorem view_ioBegin (step : ioBegin s worker = some t) : view t other = view s other := by
  unfold ioBegin at step
  split at step
  case h_2 => cases step
  case h_1 job pc =>
    split at step <;>
    · cases step
      simp [pc]

theorem view_ioFinish {outcome : WorkOutcome} (step : ioFinish s worker outcome = some t) :
    view t other = view s other := by
  unfold ioFinish at step
  split at step
  case h_2 => cases step
  case h_1 job pc =>
    cases step
    simp [pc]

theorem view_completeIo_of_ne {generation : UInt64} {result : DockerTaskResult}
    (ne : taskId ≠ other) : view (completeIo s taskId generation result) other = view s other := by
  unfold completeIo
  split
  · rfl
  split
  · rfl
  dsimp only
  split
  · split
    · rw [view_pushReady_of_ne _ ne, view_setEntry_of_ne _ _ ne]
    · rw [view_setEntry_of_ne _ _ ne]
  · rw [view_pushReady_of_ne _ ne, view_setEntry_of_ne _ _ ne]

theorem completeIo_shape (s : LoopState ω n m) (taskId : TaskId) (generation : UInt64)
    (result : DockerTaskResult) :
    ∃ pendings ready, completeIo s taskId generation result =
      { s with pendings := pendings, ready := ready } := by
  unfold completeIo
  split
  · exact ⟨_, _, rfl⟩
  split
  · exact ⟨_, _, rfl⟩
  dsimp only
  split
  · split <;> exact ⟨_, _, rfl⟩
  · exact ⟨_, _, rfl⟩

theorem view_ioComplete (step : ioComplete s worker = some t) :
    TaskStep (view s other) (view t other) := by
  unfold ioComplete at step
  split at step
  case h_2 => cases step
  case h_1 job result pc =>
    cases step
    by_cases mine : job.taskId = other
    · subst mine
      have holds : (view s job.taskId).ioRole worker = .holds job.generation := by simp [pc]
      rw [view_setIo, IoPc.role_idle]
      unfold completeIo
      cases present : s.pendings[job.taskId]? with
      | none => exact ioStale worker holds (by simp [present])
      | some e =>
        dsimp only
        split
        case isTrue stale =>
          refine ioStale worker holds ?_
          simpa [present] using stale
        case isFalse current =>
          rw [← Decidable.not_not.mp current] at holds
          split
          case isTrue cancel =>
            refine (ioCancelled worker holds present cancel).of_eq ?_
            by_cases state : e.state = .running
            · simp only [state, view_setEntry_self, ne_eq, not_true, if_false, if_true,
                decide_false, Bool.or_false]
              rfl
            · simp only [state, view_pushReady_self, view_setEntry_self, ne_eq, not_false_iff,
                if_true, if_false, decide_true, Bool.or_true]
              rfl
          case isFalse keep =>
            have keep : e.cancelRequested = false ∧ s.running = true := by simpa using keep
            rw [view_pushReady_self, view_setEntry_self]
            exact ioResult worker _ holds present keep.1 keep.2
    · obtain ⟨pendings, ready, shape⟩ := completeIo_shape s job.taskId job.generation result
      refine stutter.of_eq ?_
      rw [view_setIo, TaskView.setIoRole_eq_self (by simp [shape, pc, mine]),
        view_completeIo_of_ne mine]

theorem view_stopSweep : view (stopSweep s) other = { view s other with
      entry := (view s other).entry.map PendingEntry.cancel
      listed := (view s other).listed ||
        (view s other).entry.any fun e => e.state ≠ .running } := by
  have listed : other ∈ stopReady s ↔
      ∃ e, s.pendings[other]? = some e ∧ e.state ≠ .running := by
    simp [stopReady, Std.TreeMap.mem_toList_iff_getElem?_eq_some]
  apply TaskView.ext
  case entry => simp [view, stopSweep, Std.TreeMap.getElem?_map]
  case listed => cases present : s.pendings[other]? <;> simp [view, stopSweep, listed, present]
  all_goals rfl

theorem view_stopStep (step : stopStep s = some t) : TaskStep (view s other) (view t other) := by
  unfold stopStep at step
  split at step
  case h_1 phase => cases step; exact .stopAccepting phase
  case h_2 phase => cases step; exact .stopRunning phase
  case h_3 phase => cases step; exact .stopSwap phase
  case h_4 phase => cases step; exact .stopIoNotify phase
  case h_5 phase =>
    split at step
    case isFalse => cases step
    case isTrue joined =>
      cases step
      refine .stopJoinIo phase fun worker => ?_
      simp [IoPc.role, joined worker]
  case h_6 phase =>
    cases step
    refine (TaskStep.stopSweep phase).of_eq ?_
    exact congrArg (fun v : TaskView ω n m => { v with stop := .swept }) view_stopSweep
  case h_7 phase => cases step; exact .stopOwners phase
  case h_8 phase => cases step; exact .stopNotify phase
  case h_9 phase =>
    split at step
    case isFalse => cases step
    case isTrue joined =>
      cases step
      refine .stopJoin phase fun owner => ?_
      have exited := joined owner
      cases pc : s.owners owner <;> simp [pc, OwnerPc.isExited] at exited ⊢
  case h_10 => cases step

end Sections

variable {s t : LoopState ω n m}

theorem step_view_single (taken : step s action = some t) (taskId : TaskId)
    (later : ∀ owner, action ≠ .ownerSection owner) : TaskStep (view s taskId) (view t taskId) := by
  cases action with
  | tick => cases taken; exact .stutter
  | pushNewTask => exact view_pushNewTask taken
  | ownerSection owner => exact absurd rfl (later owner)
  | resume => exact view_resume taken
  | coroutine => exact view_coroutineStep taken
  | resumeReturns => exact view_resumeReturns taken
  | postResume => exact view_postResume taken
  | invokeCallback => exact view_invokeCallback taken
  | finish => exact view_finish taken
  | ioTake => exact view_ioTake taken
  | ioBegin => exact stutter.of_eq (view_ioBegin taken)
  | ioFinish => exact stutter.of_eq (view_ioFinish taken)
  | ioComplete => exact view_ioComplete taken
  | stop => exact view_stopStep taken

/-- **Every step of the loop, seen from one task, is a sequence of task steps.**
The owner's first section is a sweep followed by a pop. -/
theorem step_view (taken : step s action = some t) (taskId : TaskId) :
    Relation.ReflTransGen TaskStep (view s taskId) (view t taskId) := by
  cases action with
  | ownerSection => exact view_ownerSection taken
  | _ => exact .single (step_view_single taken taskId (by simp))

/-! ## Erasure -/

/-- An owner in this role erases the entry `e` in its last section. -/
def Role.Erases (e : PendingEntry ω) : Role → Prop
  | .cancelled _ => e.ioInFlight = false
  | .completed _ => True
  | _ => False

theorem TaskStep.erased {v w : TaskView ω n m} (step : TaskStep v w) (present : v.entry = some e)
    (erased : w.entry = none) : ∃ owner, (v.role owner).Erases e := by
  cases step with
  | finishErase owner finishing present' =>
    rw [present] at present'
    cases present'
    refine ⟨owner, ?_⟩
    rcases finishing with ⟨cancelled, landed⟩ | completed
    · rw [cancelled]; exact landed
    · rw [completed]; trivial
  | stopSweep =>
    rw [present] at erased
    cases erased
  | push | markRunning | markReady | pop | resume | submit | coroutineDone | takeCancelled
  | takeDone | finishWaiting | ioCancelled | ioResult => cases erased
  | _ => cases present.symm.trans erased

/-- **Only an owner's last section erases an entry.** -/
theorem step_erased {taskId : TaskId} (taken : step s action = some t)
    (present : s.pendings[taskId]? = some e) (erased : t.pendings[taskId]? = none) :
    ∃ owner, ((s.owners owner).role taskId).Erases e := by
  cases action with
  | ownerSection owner =>
    simp only [step, ownerSection] at taken
    split at taken
    case h_2 => cases taken
    case h_1 idle =>
      cases taken
      have swept : (sweep s).pendings[taskId]? = some (e.sweep s.now) := by
        simp [sweep, Std.TreeMap.getElem?_map, present]
      have inFlight : (e.sweep s.now).ioInFlight = e.ioInFlight := by
        unfold PendingEntry.sweep
        split <;> rfl
      have popped : TaskStep (view (sweep s) taskId) (view (popReady (sweep s) owner) taskId) :=
        view_popReady idle
      obtain ⟨i, erases⟩ := popped.erased swept erased
      refine ⟨i, ?_⟩
      unfold Role.Erases at erases ⊢
      rw [inFlight] at erases
      exact erases
  | _ => exact (step_view_single taken taskId (by simp)).erased present erased

end OnlineJudge.EventLoop
