import OnlineJudge.Runtime.Executor

/-!
# Every accepted task is accounted for

The accepted tasks are, in order, those that workers have taken, those that `Stop` has cancelled,
and those that are queued (`Ledger`).  A `Start` that cannot create a thread stops the workers
without a look at the queue (`stopped_with_queued_task`).
-/

namespace OnlineJudge.Runtime

open Function Executor List

variable {config : Config} {τ : Type} {s t : Executor config τ}

/-! ## What a step does -/

inductive Step (s : Executor config τ) : Action config τ → Executor config τ → Prop
  /-- `Start` returns at once. -/
  | startReturns (free : s.lifecycle = .free) : Step s .start s
  | startBegins (free : s.lifecycle = .free) (notStopped : s.stopped = false)
      (again : s.started = true → s.stopping = true) :
      Step s .start { s with
        started := true, stopping := false, activePolicy := config.stopPolicy,
        lifecycle := .spawning 0 }
  | spawned {created : Nat} (spawning : s.lifecycle = .spawning created)
      (inRange : created < config.workerCount) :
      Step s (.spawn true)
        { s.setWorker ⟨created, inRange⟩ .waiting with lifecycle := .spawning (created + 1) }
  | spawnFails {created : Nat} (spawning : s.lifecycle = .spawning created) :
      Step s (.spawn false) { s with lifecycle := .caught }
  | startFinishes (spawning : s.lifecycle = .spawning config.workerCount) :
      Step s .startFinish { s with lifecycle := .free }
  | catches (caught : s.lifecycle = .caught) :
      Step s .catchSection
        { s with stopping := true, activePolicy := .cancelPending, lifecycle := .unwinding }
  | abandons (unwinding : s.lifecycle = .unwinding)
      (idle : ∀ i, Executor.Idle (s.workers i) = true) :
      Step s .abandon { s with started := false, stopped := true, lifecycle := .free }
  | rejects (task : τ) (full stopped : Nat) :
      Step s (.submit task)
        { s with rejectedQueueFullCount := full, rejectedStoppedCount := stopped }
  | accepts (task : τ) (started : s.started = true) (notStopping : s.stopping = false)
      (notStopped : s.stopped = false) (room : s.tasks.length < config.queueCapacity) :
      Step s (.submit task) { s with
        tasks := s.tasks ++ [task], acceptedCount := s.acceptedCount + 1,
        accepted := s.accepted ++ [task] }
  /-- `Stop` finds the executor stopped. -/
  | stopReturns (policy : StopPolicy) (free : s.lifecycle = .free) (stopped : s.stopped = true) :
      Step s (.stop policy) (s.stopReturns policy)
  /-- `Stop` finds an executor that was not started. -/
  | stopUnstarted (policy : StopPolicy) (free : s.lifecycle = .free)
      (notStarted : s.started = false) (notStopped : s.stopped = false) :
      Step s (.stop policy) ({ s with stopped := true }.stopReturns policy)
  | stopDrains (free : s.lifecycle = .free) (started : s.started = true)
      (notStopped : s.stopped = false) :
      Step s (.stop .drain)
        { s with stopping := true, activePolicy := .drain, lifecycle := .stopping .drain [] }
  | stopCancels (free : s.lifecycle = .free) (started : s.started = true)
      (notStopped : s.stopped = false) :
      Step s (.stop .cancelPending) { s with
        stopping := true, activePolicy := .cancelPending,
        cancelledPendingCount := s.cancelledPendingCount + s.tasks.length, tasks := [],
        cancelled := s.cancelled ++ s.tasks, lifecycle := .stopping .cancelPending s.tasks }
  | pops {policy : StopPolicy} {task : τ} {rest : List τ}
      (stopping : s.lifecycle = .stopping policy (task :: rest)) :
      Step s .popCancelled { s with lifecycle := .stopping policy rest }
  | stopFinishes {policy : StopPolicy} (stopping : s.lifecycle = .stopping policy [])
      (idle : ∀ i, Executor.Idle (s.workers i) = true) :
      Step s .stopFinish
        ({ s with started := false, stopped := true, lifecycle := .free }.stopReturns policy)
  | exits {i : Fin config.workerCount} (waiting : s.workers i = .waiting)
      (stopping : s.stopping = true) (done : s.activePolicy = .cancelPending ∨ s.tasks = []) :
      Step s (.take i) (s.setWorker i .exited)
  | takes {i : Fin config.workerCount} {task : τ} {rest : List τ}
      (waiting : s.workers i = .waiting) (first : s.tasks = task :: rest)
      (goesOn : s.stopping = true → s.activePolicy = .drain) :
      Step s (.take i)
        { s.setWorker i (.holding task) with tasks := rest, taken := s.taken ++ [task] }
  | begins {i : Fin config.workerCount} {task : τ} (holding : s.workers i = .holding task) :
      Step s (.begin i) { s.setWorker i (.running task) with begun := s.begun ++ [task] }
  | finishes {i : Fin config.workerCount} {task : τ} (running : s.workers i = .running task) :
      Step s (.finish i) (s.setWorker i (.finished task))
  | completes {i : Fin config.workerCount} {task : τ} (finished : s.workers i = .finished task) :
      Step s (.complete i)
        { s.setWorker i (.discarding task) with completedCount := s.completedCount + 1 }
  | discards {i : Fin config.workerCount} {task : τ}
      (discarding : s.workers i = .discarding task) :
      Step s (.discard i) (s.setWorker i .waiting)

theorem step_submit (task : τ) : Step s (.submit task) (s.submit task).1 := by
  unfold submit
  split
  · exact .rejects task _ _
  rename_i running
  split
  · exact .rejects task _ _
  rename_i room
  simp only [Bool.or_eq_true, Bool.not_eq_true', not_or, Bool.not_eq_true,
    Bool.not_eq_false] at running
  exact .accepts task running.1.1 running.1.2 running.2 (by omega)

theorem step_stop (policy : StopPolicy) (free : s.lifecycle = .free) :
    Step s (.stop policy) (s.stopSection policy) := by
  unfold stopSection
  split
  · rename_i stopped
    exact .stopReturns policy free stopped
  rename_i notStopped
  rw [Bool.not_eq_true] at notStopped
  split
  · rename_i notStarted
    exact .stopUnstarted policy free (by simpa using notStarted) notStopped
  rename_i started
  cases policy with
  | drain => exact .stopDrains free (by simpa using started) notStopped
  | cancelPending => exact .stopCancels free (by simpa using started) notStopped

variable {i : Fin config.workerCount} {lifecycle : Lifecycle τ} {worker before : Worker τ}

theorem step_take (taken : s.takeSection i = some t) : Step s (.take i) t := by
  unfold takeSection at taken
  split at taken <;> [skip; cases taken]
  rename_i waiting
  split at taken
  · rename_i leaves
    cases taken
    simp only [Bool.and_eq_true, Bool.or_eq_true, decide_eq_true_eq, List.isEmpty_iff] at leaves
    exact .exits waiting leaves.1 leaves.2
  · rename_i goesOn
    split at taken <;> cases taken
    rename_i task rest first
    refine .takes waiting first fun stopping => ?_
    cases policy : s.activePolicy with
    | drain => rfl
    | cancelPending => simp [stopping, policy] at goesOn

variable {action : Action config τ} {task : τ}

theorem step_cases (taken : step s action = some t) : Step s action t := by
  cases action with
  | start =>
    rw [step] at taken
    split at taken <;> cases taken
    rename_i free
    have free : s.lifecycle = .free := by
      cases isFree : s.lifecycle <;> simp_all
    unfold startSection
    split
    · exact .startReturns free
    rename_i again
    split
    · exact .startReturns free
    rename_i notStopped
    refine .startBegins free (by simpa using notStopped) fun started => ?_
    simpa [started] using again
  | spawn succeeds =>
    rw [step, spawn] at taken
    split at taken <;> [skip; cases taken]
    rename_i created spawning
    split at taken <;> [skip; cases taken]
    rename_i inRange
    split at taken <;> rename_i succeeds <;> cases taken
    · subst succeeds
      exact .spawned spawning inRange
    · rw [Bool.not_eq_true] at succeeds
      subst succeeds
      exact .spawnFails spawning
  | startFinish =>
    rw [step, startFinish] at taken
    split at taken <;> [skip; cases taken]
    rename_i created spawning
    split at taken <;> cases taken
    rename_i all
    subst all
    exact .startFinishes spawning
  | catchSection =>
    rw [step, catchSection] at taken
    split at taken <;> cases taken
    rename_i caught
    exact .catches caught
  | abandon =>
    rw [step, abandon] at taken
    split at taken <;> [skip; cases taken]
    rename_i unwinding
    split at taken <;> cases taken
    rename_i idle
    exact .abandons unwinding idle
  | submit task =>
    cases taken
    exact step_submit task
  | stop policy =>
    rw [step] at taken
    split at taken <;> cases taken
    rename_i free
    refine step_stop policy ?_
    cases isFree : s.lifecycle <;> simp_all
  | popCancelled =>
    rw [step, popCancelled] at taken
    split at taken <;> cases taken
    rename_i stopping
    exact .pops stopping
  | stopFinish =>
    rw [step, stopFinish] at taken
    split at taken <;> [skip; cases taken]
    rename_i stopping
    split at taken <;> cases taken
    rename_i idle
    exact .stopFinishes stopping idle
  | take => exact step_take taken
  | begin i =>
    rw [step, begin] at taken
    split at taken <;> cases taken
    rename_i holding
    exact .begins holding
  | finish i =>
    rw [step, finish] at taken
    split at taken <;> cases taken
    rename_i running
    exact .finishes running
  | complete i =>
    rw [step, complete] at taken
    split at taken <;> cases taken
    rename_i finished
    exact .completes finished
  | discard i =>
    rw [step, Executor.discard] at taken
    split at taken <;> cases taken
    rename_i discarding
    exact .discards discarding

/-! ## The flags -/

/-- What holds while `lifecycle_mutex_` is where it is. -/
def Phase (s : Executor config τ) : Lifecycle τ → Prop
  | .free => s.stopped = false → s.stopping = false ∧
      (s.started = true ∧ (∀ i, s.workers i ≠ .absent) ∨
        s.started = false ∧ s.tasks = [] ∧ ∀ i, s.workers i = .absent)
  | .spawning created => s.started = true ∧ s.stopping = false ∧
      ∀ i : Fin config.workerCount, s.workers i ≠ .absent ↔ i < created
  | .caught => s.stopping = false
  | .unwinding => s.stopping = true ∧ s.activePolicy = .cancelPending
  | .stopping policy _ => s.stopping = true ∧ s.activePolicy = policy ∧
      (∀ i, s.workers i ≠ .absent) ∧ (policy = .cancelPending → s.tasks = [])

theorem Phase.congr (phase : Phase s lifecycle)
    (same : (t.started, t.stopping, t.stopped, t.activePolicy, t.tasks, t.workers) =
      (s.started, s.stopping, s.stopped, s.activePolicy, s.tasks, s.workers)) :
    Phase t lifecycle := by
  simp only [Prod.mk.injEq] at same
  obtain ⟨started, stopping, stopped, policy, tasks, workers⟩ := same
  cases lifecycle <;> simpa only [Phase, started, stopping, stopped, policy, tasks, workers]

structure Flags (s : Executor config τ) : Prop where
  phase : Phase s s.lifecycle
  stopped : s.stopped = true →
    s.lifecycle = .free ∧ s.started = false ∧ ∀ i, Executor.Idle (s.workers i) = true
  exited : ∀ i, s.workers i = .exited →
    s.stopping = true ∧ (s.activePolicy = .cancelPending ∨ s.tasks = [])
  cancelled : s.cancelled ≠ [] → s.stopping = true ∧ s.activePolicy = .cancelPending ∧ s.tasks = []
  drained : s.drained = true → s.stopped = true

theorem update_ne_absent {j : Fin config.workerCount}
    (runs : Executor.Idle (s.workers i) = false) (present : worker ≠ .absent) :
    update s.workers i worker j ≠ .absent ↔ s.workers j ≠ .absent := by
  rcases eq_or_ne j i with rfl | other
  · have before : s.workers j ≠ .absent := fun absent => by
      rw [absent] at runs
      cases runs
    rw [update_self]
    exact iff_of_true present before
  · rw [update_of_ne other]

theorem Phase.setWorker (phase : Phase s lifecycle) (runs : Executor.Idle (s.workers i) = false)
    (present : worker ≠ .absent) : Phase (s.setWorker i worker) lifecycle := by
  cases lifecycle with
  | free =>
    intro notStopped
    obtain ⟨notStopping, ⟨started, all⟩ | ⟨_, _, none⟩⟩ := phase notStopped
    · exact ⟨notStopping, .inl ⟨started, fun j => (update_ne_absent runs present).mpr (all j)⟩⟩
    · rw [none i] at runs
      cases runs
  | spawning =>
    obtain ⟨started, notStopping, all⟩ := phase
    exact ⟨started, notStopping, fun j => (update_ne_absent runs present).trans (all j)⟩
  | caught | unwinding => exact phase
  | stopping =>
    obtain ⟨isStopping, active, all, empty⟩ := phase
    exact ⟨isStopping, active, fun j => (update_ne_absent runs present).mpr (all j), empty⟩

theorem Phase.takeTask (phase : Phase s lifecycle)
    {rest : List τ} (first : s.tasks = task :: rest) :
    Phase { s with tasks := rest } lifecycle := by
  have some : s.tasks ≠ [] := by simp [first]
  cases lifecycle with
  | free =>
    intro notStopped
    obtain ⟨notStopping, started | ⟨_, none, _⟩⟩ := phase notStopped
    · exact ⟨notStopping, .inl started⟩
    · exact absurd none some
  | spawning | caught | unwinding => exact phase
  | stopping =>
    obtain ⟨isStopping, active, all, empty⟩ := phase
    exact ⟨isStopping, active, all, fun cancels => absurd (empty cancels) some⟩

namespace Flags

section

variable (flags : Flags s)
include flags

theorem at_ {lifecycle : Lifecycle τ} (is : s.lifecycle = lifecycle) :
    Phase s lifecycle := is ▸ flags.phase

theorem of_busy {P : Prop} (busy : s.lifecycle ≠ .free) (stopped : s.stopped = true) : P :=
  absurd (flags.stopped stopped).1 busy

theorem of_running {P : Prop} (running : s.stopping = false)
    (ended : (∃ i, s.workers i = .exited) ∨ s.cancelled ≠ []) : P := by
  have stopping : s.stopping = true := by
    rcases ended with ⟨i, exited⟩ | some
    · exact (flags.exited i exited).1
    · exact (flags.cancelled some).1
  rw [running] at stopping
  cases stopping

theorem present (free : s.lifecycle = .free) (started : s.started = true)
    (notStopped : s.stopped = false) : s.stopping = false ∧ ∀ i, s.workers i ≠ .absent := by
  obtain ⟨notStopping, ⟨_, all⟩ | ⟨never, _⟩⟩ := flags.at_ free notStopped
  · exact ⟨notStopping, all⟩
  · rw [started] at never
    cases never

theorem absent {created : Nat} (spawning : s.lifecycle = .spawning created)
    (inRange : created < config.workerCount) : s.workers ⟨created, inRange⟩ = .absent := by
  by_contra present
  exact absurd (((flags.at_ spawning).2.2 _).mp present) (Nat.lt_irrefl created)

theorem tasks_eq_nil {policy : StopPolicy} (stopping : s.lifecycle = .stopping policy [])
    (idle : ∀ i, Executor.Idle (s.workers i) = true) : s.tasks = [] := by
  obtain ⟨_, active, present, empty⟩ := flags.at_ stopping
  -- One worker is enough: none exits before the queue is empty or cancelled.
  let worker : Fin config.workerCount := ⟨0, config.hasWorker⟩
  have exited : s.workers worker = .exited := by
    have isIdle := idle worker
    have isPresent := present worker
    cases place : s.workers worker <;> simp_all [Executor.Idle]
  rcases (flags.exited worker exited).2 with cancels | none
  · exact empty (active.symm.trans cancels)
  · exact none

theorem setWorker (worker : Worker τ) (was : s.workers i = before)
    (runs : Executor.Idle before = false) (present : worker ≠ .absent)
    (leaves : worker = .exited →
      s.stopping = true ∧ (s.activePolicy = .cancelPending ∨ s.tasks = [])) :
    Flags (s.setWorker i worker) := by
  subst was
  refine { flags with
    phase := flags.phase.setWorker runs present
    stopped := fun stopped => ?_
    exited := fun j exited => ?_ }
  · have idle := (flags.stopped stopped).2.2 i
    rw [runs] at idle
    cases idle
  · change update s.workers i worker j = .exited at exited
    rcases eq_or_ne j i with rfl | other
    · rw [update_self] at exited
      exact leaves exited
    · rw [update_of_ne other] at exited
      exact flags.exited j exited

theorem step {action : Action config τ} (step : Step s action t) : Flags t := by
  cases step with
  | startReturns => exact flags
  | startBegins free notStopped again =>
    obtain ⟨notStopping, ⟨started, _⟩ | ⟨_, _, none⟩⟩ := flags.at_ free notStopped
    · have := again started
      rw [notStopping] at this
      cases this
    exact { flags with
      phase := ⟨rfl, rfl, fun i => iff_of_false (not_not.mpr (none i)) (Nat.not_lt_zero _)⟩
      stopped := fun stopped => absurd stopped (ne_true_of_eq_false notStopped)
      exited := fun i exited => flags.of_running notStopping (.inl ⟨i, exited⟩)
      cancelled := fun some => flags.of_running notStopping (.inr some) }
  | @spawned created spawning inRange =>
    obtain ⟨started, notStopping, all⟩ := flags.at_ spawning
    refine { flags with
      phase := ⟨started, notStopping, fun i => ?_⟩
      stopped := flags.of_busy (by simp [spawning])
      exited := fun i exited => ?_ }
    · change update s.workers _ Worker.waiting i ≠ .absent ↔ (i : Nat) < created + 1
      rcases eq_or_ne i ⟨created, inRange⟩ with rfl | other
      · simp
      have : (i : Nat) ≠ created := fun same => other (Fin.ext same)
      rw [update_of_ne other, all i]
      omega
    · change update s.workers _ Worker.waiting i = .exited at exited
      rcases eq_or_ne i ⟨created, inRange⟩ with rfl | other
      · simp at exited
      · rw [update_of_ne other] at exited
        exact flags.exited i exited
  | spawnFails spawning =>
    exact { flags with
      phase := (flags.at_ spawning).2.1
      stopped := flags.of_busy (by simp [spawning]) }
  | startFinishes spawning =>
    obtain ⟨started, notStopping, all⟩ := flags.at_ spawning
    exact { flags with
      phase := fun _ => ⟨notStopping, .inl ⟨started, fun i => (all i).mpr i.isLt⟩⟩
      stopped := flags.of_busy (by simp [spawning]) }
  | catches caught =>
    exact { flags with
      phase := ⟨rfl, rfl⟩
      stopped := flags.of_busy (by simp [caught])
      exited := fun _ _ => ⟨rfl, .inl rfl⟩
      cancelled := fun some => ⟨rfl, rfl, (flags.cancelled some).2.2⟩ }
  | abandons unwinding idle | stopFinishes stopping idle =>
    exact { flags with
      phase := nofun
      stopped := fun _ => ⟨rfl, rfl, idle⟩
      drained := fun _ => rfl }
  | rejects => exact { flags with phase := flags.phase.congr rfl }
  | accepts task started notStopping notStopped =>
    refine { flags with
      phase := ?_
      exited := fun i exited => flags.of_running notStopping (.inl ⟨i, exited⟩)
      cancelled := fun some => flags.of_running notStopping (.inr some) }
    -- `Submit` does not hold `lifecycle_mutex_`: a `Start` may be anywhere.
    cases place : s.lifecycle with
    | free =>
      have all := (flags.present place started notStopped).2
      exact fun _ => ⟨notStopping, .inl ⟨started, all⟩⟩
    | spawning | caught | unwinding => exact flags.at_ place
    | stopping =>
      have := (flags.at_ place).1
      rw [notStopping] at this
      cases this
  | stopReturns policy free stopped =>
    exact { flags with
      phase := flags.phase.congr rfl
      drained := fun _ => stopped }
  | stopUnstarted policy free notStarted notStopped =>
    obtain ⟨notStopping, ⟨started, _⟩ | ⟨_, empty, none⟩⟩ := flags.at_ free notStopped
    · rw [notStarted] at started
      cases started
    refine { flags with
      phase := ?_
      stopped := fun _ => ⟨free, notStarted, fun i => ?_⟩
      drained := fun _ => rfl }
    · change Phase _ s.lifecycle
      rw [free]
      intro stopped
      cases stopped
    · change Executor.Idle (s.workers i) = true
      rw [none i]
      rfl
  | stopDrains free started notStopped =>
    obtain ⟨notStopping, all⟩ := flags.present free started notStopped
    exact { flags with
      phase := ⟨rfl, rfl, all, nofun⟩
      stopped := fun stopped => absurd stopped (ne_true_of_eq_false notStopped)
      exited := fun i exited => flags.of_running notStopping (.inl ⟨i, exited⟩)
      cancelled := fun some => flags.of_running notStopping (.inr some) }
  | stopCancels free started notStopped =>
    exact { flags with
      phase := ⟨rfl, rfl, (flags.present free started notStopped).2, fun _ => rfl⟩
      stopped := fun stopped => absurd stopped (ne_true_of_eq_false notStopped)
      exited := fun _ _ => ⟨rfl, .inl rfl⟩
      cancelled := fun _ => ⟨rfl, rfl, rfl⟩ }
  | pops stopping =>
    exact { flags with
      phase := flags.at_ stopping
      stopped := flags.of_busy (by simp [stopping]) }
  | exits waiting stopping done =>
    exact flags.setWorker _ waiting rfl nofun fun _ => ⟨stopping, done⟩
  | @takes i task rest waiting first =>
    have some : s.tasks ≠ [] := by simp [first]
    have moved := flags.setWorker (.holding task) waiting rfl nofun nofun
    exact { moved with
      phase := moved.phase.takeTask first
      exited := fun j exited =>
        ⟨(moved.exited j exited).1, .inl ((moved.exited j exited).2.resolve_right some)⟩
      cancelled := fun more => absurd (flags.cancelled more).2.2 some }
  | @begins i task holding =>
    have moved := flags.setWorker (.running task) holding rfl nofun nofun
    exact { moved with phase := moved.phase.congr rfl }
  | finishes running => exact flags.setWorker _ running rfl nofun nofun
  | @completes i task finished =>
    have moved := flags.setWorker (.discarding task) finished rfl nofun nofun
    exact { moved with phase := moved.phase.congr rfl }
  | discards discarding => exact flags.setWorker _ discarding rfl nofun nofun

end

end Flags

/-! ## The ledger -/

def inFlight : Worker τ → Nat
  | .holding _ | .running _ | .finished _ => 1
  | _ => 0

/-- The worker has taken `task` and not called it. -/
def unbegun [DecidableEq τ] (task : τ) : Worker τ → Nat
  | .holding held => if held = task then 1 else 0
  | _ => 0

theorem inFlight_of_idle (idle : Executor.Idle worker = true) : inFlight worker = 0 := by
  cases worker <;> first | rfl | cases idle

theorem unbegun_of_idle [DecidableEq τ] (idle : Executor.Idle worker = true) :
    unbegun task worker = 0 := by
  cases worker <;> first | rfl | cases idle

structure Ledger [DecidableEq τ] (s : Executor config τ) : Prop where
  order : s.accepted = s.taken ++ s.cancelled ++ s.tasks
  room : s.tasks.length ≤ config.queueCapacity
  acceptedCount : s.acceptedCount = s.accepted.length
  cancelledCount : s.cancelledPendingCount = s.cancelled.length
  completedCount : s.completedCount + tally inFlight s.workers = s.taken.length
  begun : ∀ task, s.begun.count task + tally (unbegun task) s.workers = s.taken.count task

namespace Ledger

variable [DecidableEq τ]

theorem setWorker (ledger : Ledger s) (worker : Worker τ) (was : s.workers i = before)
    (flight : inFlight worker = inFlight before)
    (calls : ∀ task, unbegun task worker = unbegun task before) :
    Ledger (s.setWorker i worker) := by
  subst was
  exact { ledger with
    completedCount := by
      change s.completedCount + tally inFlight (update s.workers i worker) = _
      rw [tally_update_of_eq flight]
      exact ledger.completedCount
    begun := fun task => by
      change s.begun.count task + tally (unbegun task) (update s.workers i worker) = _
      rw [tally_update_of_eq (calls task)]
      exact ledger.begun task }

theorem step {action : Action config τ} (flags : Flags s) (ledger : Ledger s)
    (step : Step s action t) : Ledger t := by
  cases step with
  | startReturns => exact ledger
  | startBegins | spawnFails | startFinishes | catches | abandons | rejects | stopReturns
  | stopUnstarted | stopDrains | pops | stopFinishes => exact { ledger with }
  | @spawned created spawning inRange =>
    have absent := flags.absent spawning inRange
    have moved := ledger.setWorker .waiting absent rfl fun _ => rfl
    exact { moved with }
  | accepts task started notStopping notStopped room =>
    exact { ledger with
      order := by
        change s.accepted ++ [task] = s.taken ++ s.cancelled ++ (s.tasks ++ [task])
        rw [ledger.order, append_assoc _ s.tasks]
      room := by
        change (s.tasks ++ [task]).length ≤ config.queueCapacity
        rw [length_append]
        exact room
      acceptedCount := by
        change s.acceptedCount + 1 = (s.accepted ++ [task]).length
        rw [ledger.acceptedCount, length_append]
        rfl }
  | stopCancels =>
    exact { ledger with
      order := by
        change s.accepted = s.taken ++ (s.cancelled ++ s.tasks) ++ []
        rw [ledger.order, append_nil, append_assoc]
      room := Nat.zero_le _
      cancelledCount := by
        change s.cancelledPendingCount + s.tasks.length = (s.cancelled ++ s.tasks).length
        rw [ledger.cancelledCount, length_append] }
  | exits waiting => exact ledger.setWorker _ waiting rfl fun _ => rfl
  | @takes i task rest waiting first =>
    -- A cancelled task was accepted before those in the queue; the order needs that no task
    -- is taken once some were cancelled.
    have none : s.cancelled = [] := by
      by_contra some
      have empty := (flags.cancelled some).2.2
      rw [first] at empty
      cases empty
    have flight := tally_update inFlight s.workers i (.holding task)
    rw [waiting] at flight
    exact { ledger with
      order := by
        change s.accepted = s.taken ++ [task] ++ s.cancelled ++ rest
        rw [ledger.order, first, none, append_nil, append_nil, append_assoc]
        rfl
      room := by
        have room := ledger.room
        rw [first] at room
        exact Nat.le_of_succ_le room
      completedCount := by
        have before := ledger.completedCount
        change s.completedCount + tally inFlight (update s.workers i (.holding task)) =
          (s.taken ++ [task]).length
        rw [length_append]
        simp only [inFlight, length_singleton] at flight ⊢
        omega
      begun := fun other => by
        have before := ledger.begun other
        have calls := tally_update (unbegun other) s.workers i (.holding task)
        rw [waiting] at calls
        change s.begun.count other +
          tally (unbegun other) (update s.workers i (.holding task)) =
            (s.taken ++ [task]).count other
        rw [count_append, count_singleton]
        simp only [unbegun, beq_iff_eq] at calls ⊢
        omega }
  | @begins i task holding =>
    have moved := tally_update_of_eq (a := Worker.running task)
      (show inFlight (.running task) = inFlight (s.workers i) by rw [holding]; rfl)
    exact { ledger with
      completedCount := by
        change s.completedCount + tally inFlight (update s.workers i (.running task)) = _
        rw [moved]
        exact ledger.completedCount
      begun := fun other => by
        have before := ledger.begun other
        have calls := tally_update (unbegun other) s.workers i (.running task)
        rw [holding] at calls
        change (s.begun ++ [task]).count other +
          tally (unbegun other) (update s.workers i (.running task)) = s.taken.count other
        rw [count_append, count_singleton]
        simp only [unbegun, beq_iff_eq] at calls ⊢
        omega }
  | finishes running => exact ledger.setWorker _ running rfl fun _ => rfl
  | @completes i task finished =>
    have flight := tally_update inFlight s.workers i (.discarding task)
    rw [finished] at flight
    exact { ledger with
      completedCount := by
        have before := ledger.completedCount
        change s.completedCount + 1 +
          tally inFlight (update s.workers i (.discarding task)) = s.taken.length
        simp only [inFlight] at flight
        omega
      begun := fun other => by
        have calls := tally_update_of_eq (a := Worker.discarding task)
          (show unbegun other (.discarding task) = unbegun other (s.workers i) by
            rw [finished]; rfl)
        change s.begun.count other +
          tally (unbegun other) (update s.workers i (.discarding task)) = _
        rw [calls]
        exact ledger.begun other }
  | discards discarding => exact ledger.setWorker _ discarding rfl fun _ => rfl

end Ledger

/-! ## Where the queue is empty -/

/-- A failed `Start` finds the queue empty, and a `Stop` that is to drain the executor finds
no task cancelled by another `Stop`. -/
def orderly (s : Executor config τ) : Action config τ → Bool
  | .catchSection => s.tasks.isEmpty
  | .stop .drain => s.cancelled.isEmpty
  | _ => true

structure Emptied (s : Executor config τ) : Prop where
  unwinding : s.lifecycle = .unwinding → s.tasks = []
  stopped : s.stopped = true → s.tasks = []
  drained : s.drained = true → s.cancelled = []

theorem Emptied.step (flags : Flags s) (emptied : Emptied s) (isOrderly : orderly s action = true)
    (step : Step s action t) : Emptied t := by
  cases step with
  | startReturns => exact emptied
  | startBegins | spawned | spawnFails | startFinishes | stopDrains | pops =>
    exact { emptied with unwinding := nofun }
  | catches => exact { emptied with unwinding := fun _ => isEmpty_iff.mp isOrderly }
  | abandons unwinding =>
    exact { emptied with
      unwinding := nofun
      stopped := fun _ => emptied.unwinding unwinding }
  | rejects | exits | begins | finishes | completes | discards => exact { emptied with }
  | accepts task started notStopping notStopped =>
    exact { emptied with
      unwinding := fun unwinding => absurd (flags.at_ unwinding).1 (by simp [notStopping])
      stopped := fun stopped => absurd stopped (ne_true_of_eq_false notStopped) }
  | stopReturns policy =>
    -- A second `Stop` returns whatever its policy and that of the first.
    cases policy with
    | drain => exact { emptied with drained := fun _ => isEmpty_iff.mp isOrderly }
    | cancelPending =>
      refine { emptied with drained := fun drained => emptied.drained ?_ }
      simpa [stopReturns] using drained
  | stopUnstarted policy free notStarted notStopped =>
    have empty : s.tasks = [] := by
      obtain ⟨_, ⟨started, _⟩ | ⟨_, empty, _⟩⟩ := flags.at_ free notStopped
      · rw [notStarted] at started
        cases started
      · exact empty
    cases policy with
    | drain => exact ⟨fun _ => empty, fun _ => empty, fun _ => isEmpty_iff.mp isOrderly⟩
    | cancelPending =>
      refine ⟨fun _ => empty, fun _ => empty, fun drained => emptied.drained ?_⟩
      simpa [stopReturns] using drained
  | stopCancels free started notStopped =>
    exact {
      unwinding := nofun
      stopped := fun _ => rfl
      drained := fun drained => absurd (flags.drained drained) (ne_true_of_eq_false notStopped) }
  | @stopFinishes policy stopping idle =>
    have empty := flags.tasks_eq_nil stopping idle
    refine ⟨fun _ => empty, fun _ => empty, fun drained => ?_⟩
    cases policy with
    | drain =>
      by_contra some
      have cancels := (flags.cancelled some).2.1
      rw [(flags.at_ stopping).2.1] at cancels
      cases cancels
    | cancelPending => exact emptied.drained (by simpa [stopReturns] using drained)
  | takes waiting first =>
    exact { emptied with
      unwinding := fun unwinding => absurd (emptied.unwinding unwinding) (by simp [first])
      stopped := fun stopped => absurd (emptied.stopped stopped) (by simp [first]) }

/-! ## All runs -/

theorem flags_of_reachable {allowed : Executor config τ → Action config τ → Prop}
    (reachable : (executorSystem config τ).ReachableUnder allowed s) : Flags s :=
  reachable.induct
    { phase := fun _ => ⟨rfl, .inr ⟨rfl, rfl, fun _ => rfl⟩⟩
      stopped := nofun
      exited := nofun
      cancelled := fun some => absurd rfl some
      drained := nofun }
    fun _ _ taken flags => flags.step (step_cases taken)

theorem ledger_of_reachable [DecidableEq τ] (reachable : (executorSystem config τ).Reachable s) :
    Ledger s :=
  reachable.induct
    { order := rfl
      room := Nat.zero_le _
      acceptedCount := rfl
      cancelledCount := rfl
      completedCount := by
        change 0 + tally inFlight _ = 0
        rw [Nat.zero_add, tally_eq_zero_iff]
        exact fun _ => rfl
      begun := fun task => by
        change 0 + tally (unbegun task) _ = 0
        rw [Nat.zero_add, tally_eq_zero_iff]
        exact fun _ => rfl }
    fun before taken ledger => ledger.step (flags_of_reachable before) (step_cases taken)

theorem emptied_of_reachable
    (reachable : (executorSystem config τ).ReachableUnder (fun s a => orderly s a = true) s) :
    Emptied s :=
  reachable.induct
    { unwinding := nofun
      stopped := nofun
      drained := nofun }
    fun before isOrderly taken emptied =>
      emptied.step (flags_of_reachable before) isOrderly (step_cases taken)

theorem Ledger.all_run [DecidableEq τ] (ledger : Ledger s) (flags : Flags s)
    (stopped : s.stopped = true) (empty : s.tasks = []) (none : s.cancelled = []) :
    s.completedCount = s.acceptedCount ∧ ∀ task, s.begun.count task = s.accepted.count task := by
  have idle := (flags.stopped stopped).2.2
  have noFlight : tally inFlight s.workers = 0 :=
    tally_eq_zero_iff.mpr fun i => inFlight_of_idle (idle i)
  have all : s.accepted = s.taken := by
    rw [ledger.order, none, empty, append_nil, append_nil]
  constructor
  · rw [ledger.acceptedCount, all, ← ledger.completedCount, noFlight, Nat.add_zero]
  · intro task
    have noCall : tally (unbegun task) s.workers = 0 :=
      tally_eq_zero_iff.mpr fun i => unbegun_of_idle (idle i)
    rw [all, ← ledger.begun task, noCall, Nat.add_zero]

/-- **Every accepted task is accounted for**: the queue is within its capacity, tasks are taken in
order and called once, and the counters agree; in orderly runs a draining `Stop` returns once all
have run, and a stopped executor has no tasks. -/
theorem executor_accounting [DecidableEq τ] (reachable : (executorSystem config τ).Reachable s) :
    s.tasks.length ≤ config.queueCapacity ∧
    s.taken <+: s.accepted ∧
    (∀ task, s.begun.count task ≤ s.accepted.count task) ∧
    s.acceptedCount = s.completedCount + tally inFlight s.workers + s.tasks.length +
      s.cancelledPendingCount ∧
    ((executorSystem config τ).ReachableUnder (fun s a => orderly s a = true) s →
      (s.drained = true → s.completedCount = s.acceptedCount ∧
        ∀ task, s.begun.count task = s.accepted.count task) ∧
      (s.stopped = true → s.tasks = [])) := by
  have flags := flags_of_reachable reachable
  have ledger := ledger_of_reachable reachable
  have inOrder : s.taken <+: s.accepted :=
    ⟨s.cancelled ++ s.tasks, by rw [ledger.order, append_assoc]⟩
  refine ⟨ledger.room, inOrder, fun task => ?_, ?_, fun reachable => ⟨fun drained => ?_, ?_⟩⟩
  · calc s.begun.count task
        ≤ s.begun.count task + tally (unbegun task) s.workers := Nat.le_add_right _ _
      _ = s.taken.count task := ledger.begun task
      _ ≤ s.accepted.count task := inOrder.sublist.count_le task
  · rw [ledger.acceptedCount, ledger.order, ledger.completedCount, ledger.cancelledCount,
      length_append, length_append, Nat.add_right_comm]
  · have emptied := emptied_of_reachable reachable
    have stopped := flags.drained drained
    exact ledger.all_run flags stopped (emptied.stopped stopped) (emptied.drained drained)
  · exact (emptied_of_reachable reachable).stopped

abbrev smallConfig : Config where
  workerCount := 1
  queueCapacity := 1

/-- A task runs while a `Stop` waits for it. -/
theorem executor_accounting_drained : ∃ s : Executor smallConfig Nat,
    s.drained = true ∧ s.acceptedCount = 1 ∧ s.completedCount = s.acceptedCount ∧ s.tasks = [] := by
  obtain ⟨s, reachable, check⟩ := (executorSystem smallConfig Nat).exists_of_runUnder orderly
    [.start, .spawn true, .startFinish, .submit 7, .submit 8, .take 0, .stop .drain, .begin 0,
      .finish 0, .complete 0, .discard 0, .take 0, .stopFinish]
    (fun s => s.drained && s.stopped && s.acceptedCount == 1) (by decide)
  simp only [Bool.and_eq_true, beq_iff_eq] at check
  obtain ⟨⟨drained, stopped⟩, one⟩ := check
  obtain ⟨_, _, _, _, orderlyRun⟩ := executor_accounting reachable.reaches
  obtain ⟨allRun, empty⟩ := orderlyRun reachable
  exact ⟨s, drained, one, (allRun drained).1, empty stopped⟩

/-- The task is accepted while `Start` creates its first worker; the creation fails.  A draining
`Stop` returns at once. -/
theorem stopped_with_queued_task : ∃ s : Executor smallConfig Nat,
    (executorSystem smallConfig Nat).Reachable s ∧ s.stopped = true ∧ s.drained = true ∧
      s.tasks = [7] ∧ s.accepted = [7] ∧ s.begun = [] := by
  obtain ⟨s, reachable, check⟩ := (executorSystem smallConfig Nat).exists_of_run
    [.start, .submit 7, .spawn false, .catchSection, .abandon, .stop .drain]
    (fun s => s.stopped && s.drained && decide (s.tasks = [7] ∧ s.accepted = [7] ∧ s.begun = []))
    (by decide)
  simp only [Bool.and_eq_true, decide_eq_true_eq] at check
  exact ⟨s, reachable, check.1.1, check.1.2, check.2⟩

end OnlineJudge.Runtime
