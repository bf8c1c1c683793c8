import Mathlib.Algebra.BigOperators.Fin
import OnlineJudge.EventLoop.Invariant

/-!
# No task is stranded

An entry moves on only when something picks it up: its id in `_ready`, a job that will call
`CompleteIo`, or an owner.
-/

namespace OnlineJudge.EventLoop

open List

variable {ω : Type} {n m : Nat}

def OwnerPc.task? : OwnerPc ω → Option TaskId
  | .idle | .exited => none
  | .popped taskId | .resuming taskId _ | .returning taskId | .post taskId _
  | .cancelling taskId _ | .cancelled taskId _ | .completing taskId _ _
  | .completed taskId _ => some taskId

/-- The jobs that are queued, or held by an I/O worker that has not yet called
`CompleteIo`. -/
def liveJobs (s : LoopState ω n m) : List (IoJob ω) :=
  s.ioQueue ++ (finRange m).flatMap fun worker => (s.ios worker).job?.toList

def jobsOf (s : LoopState ω n m) (taskId : TaskId) : List (IoJob ω) :=
  (liveJobs s).filter fun job => job.taskId = taskId

variable {taskId : TaskId} {job : IoJob ω}

theorem OwnerPc.task?_of_attends {pc : OwnerPc ω} {task : CoTask ω}
    (attends : (pc.role taskId).Attends task) : pc.task? = some taskId := by
  cases pc <;> simp only [OwnerPc.role] at attends <;> first
    | exact attends.elim
    | (split at attends
       · subst_vars; rfl
       · exact attends.elim)

theorem IoPc.role_eq_holds {pc : IoPc ω} (held : pc.job? = some job) :
    pc.role job.taskId = .holds job.generation := by
  cases pc <;> simp_all [IoPc.job?]

theorem IoPc.jobs_role (pc : IoPc ω) (taskId : TaskId) :
    (pc.role taskId).jobs = (pc.job?.toList.filter fun job => job.taskId = taskId).length := by
  cases pc with
  | idle | exited => rfl
  | holding job | executing job | finished job result =>
    by_cases mine : job.taskId = taskId <;> simp [IoPc.job?, IoRole.jobs, mine]

theorem hasJob_of_mem_jobsOf {s : LoopState ω n m} (live : job ∈ jobsOf s taskId) :
    (view s taskId).HasJob job.generation := by
  obtain ⟨member, mine⟩ := mem_filter.mp live
  have mine : job.taskId = taskId := by simpa using mine
  subst mine
  rcases mem_append.mp member with queued | held
  · refine .inl ?_
    simp only [view, generationsOf, mem_map, mem_filter]
    exact ⟨job, ⟨queued, by simp⟩, rfl⟩
  · obtain ⟨worker, _, held⟩ := mem_flatMap.mp held
    exact .inr ⟨worker, IoPc.role_eq_holds (Option.mem_toList.mp held)⟩

theorem length_jobsOf (s : LoopState ω n m) (taskId : TaskId) :
    (jobsOf s taskId).length = (view s taskId).jobs := by
  have held : (((finRange m).flatMap fun worker => (s.ios worker).job?.toList).filter
        fun job => job.taskId = taskId).length = tally IoRole.jobs (view s taskId).ioRole := by
    rw [filter_flatMap, length_flatMap, tally, Fin.sum_univ_def]
    simp only [view_ioRole, IoPc.jobs_role]
  rw [jobsOf, liveJobs, filter_append, length_append, held, TaskView.jobs]
  simp [view, generationsOf]

/-- **No task is stranded before `Stop` is called**, and no task has two live jobs. -/
theorem no_stranded_task {s : LoopState ω n m} (reachable : (system ω n m).Reachable s)
    (before : s.stop = .notCalled) (taskId : TaskId) :
    (∀ e, s.pendings[taskId]? = some e →
      (e.state = .ready → taskId ∈ s.ready) ∧
      (e.state = .waiting →
        e.ioInFlight = true ∧ ∃ job, jobsOf s taskId = [job] ∧ job.generation = e.generation) ∧
      (e.state = .running → ∃ owner, (s.owners owner).task? = some taskId)) ∧
    (jobsOf s taskId).length ≤ 1 := by
  have inv := TaskInv.of_reachable reachable taskId
  refine ⟨fun e present => ⟨?_, ?_, ?_⟩, ?_⟩
  · intro ready
    simpa [view] using (inv.settled e present).ready ready
  · intro waiting
    have inFlight := (inv.settled e present).waiting waiting
    have early : (view s taskId).stop.rank < 3 := by simp [view, before, StopPhase.rank]
    have one := inv.jobs.outstanding e present inFlight early
    rw [← length_jobsOf] at one
    obtain ⟨job, only⟩ := length_eq_one_iff.mp one
    have live : job ∈ jobsOf s taskId := by simp [only]
    have current := (inv.of_job (hasJob_of_mem_jobsOf live) present).2.1
    exact ⟨inFlight, job, only, current.symm⟩
  · intro running
    obtain ⟨owner, attends⟩ := inv.drivers.attended e present running
    exact ⟨owner, OwnerPc.task?_of_attends attends⟩
  · rw [length_jobsOf]
    exact inv.jobs.atMostOne

def oneAwait : Coroutine Unit := .await 5000 (some ()) fun _ => .done none

theorem no_stranded_task_waiting :
    ∃ s : LoopState Unit 1 1, (system Unit 1 1).Reachable s ∧ s.stop = .notCalled ∧
      ∃ e, s.pendings["task"]? = some e ∧ e.state = .waiting ∧ e.ioInFlight = true ∧
        ∃ job, jobsOf s "task" = [job] ∧ job.generation = e.generation := by
  obtain ⟨s, reachable, check⟩ := (system Unit 1 1).exists_of_run
    [.pushNewTask "task" (some oneAwait) 10 true, .ownerSection 0, .resume 0, .coroutine 0 0]
    (fun s => s.stop = .notCalled && s.pendings["task"]?.any fun e => e.state = .waiting)
    (by decide)
  simp only [Bool.and_eq_true, decide_eq_true_eq, Option.any_eq_true] at check
  obtain ⟨before, e, present, waiting⟩ := check
  have waits := ((no_stranded_task reachable before "task").1 e present).2.1 waiting
  exact ⟨s, reachable, before, e, present, waiting, waits⟩

end OnlineJudge.EventLoop
