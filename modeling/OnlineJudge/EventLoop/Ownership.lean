import OnlineJudge.EventLoop.Progress

/-!
# Who may destroy a frame, and the callback that owns the judger

No I/O worker executes a job of an entry that is erased, but an owner can still be inside
`task->Resume()` (`frame_destroyed_while_resumed`), and the callback may be destroyed on the thread
that it joins.
-/

namespace OnlineJudge.EventLoop

open Option TransitionSystem

variable {ω : Type} {n m : Nat}

/-! ## Destroying the frame -/

def OwnerPc.insideResume (taskId : TaskId) : OwnerPc ω → Bool
  | .resuming t _ | .returning t => t = taskId
  | _ => false

open OwnerPc

def IoPc.executes (taskId : TaskId) : IoPc ω → Bool
  | .executing job => job.taskId = taskId
  | _ => false

def popsAlone (s : LoopState ω n m) : Action ω n m → Bool
  | .ownerSection owner =>
    match ownerSection s owner with
    | none => true
    | some t =>
      match (t.owners owner).task? with
      | none => true
      | some taskId => decide (∀ other, (s.owners other).task? ≠ some taskId)
  | _ => true

def Solo (s : LoopState ω n m) : Prop :=
  ∀ i j taskId, (s.owners i).task? = some taskId → (s.owners j).task? = some taskId → i = j

/-- The step leaves `Stop` where it is, and gives no owner a task. -/
structure Keeps (s t : LoopState ω n m) : Prop where
  tasks : ∀ i taskId, (t.owners i).task? = some taskId → (s.owners i).task? = some taskId
  stop : t.stop = s.stop

variable {t s : LoopState ω n m} {pc : OwnerPc ω} {owner : Fin n} {taskId : TaskId}
    {action : Action ω n m}

theorem Keeps.of_owners (same : t.owners = s.owners) (stop : t.stop = s.stop) : Keeps s t where
  tasks i taskId task := by rwa [same] at task
  stop := stop

theorem Keeps.setOwner (same : t.owners = s.owners) (stop : t.stop = s.stop)
    (task : pc.task? = (s.owners owner).task? ∨ pc.task? = none) :
    Keeps s (t.setOwner owner pc) where
  tasks i taskId has := by
    by_cases mine : i = owner
    · subst mine
      simp only [LoopState.setOwner, Function.update_self] at has
      rcases task with kept | gone
      · exact kept.symm.trans has
      · cases gone.symm.trans has
    · simpa [LoopState.setOwner, mine, same] using has
  stop := stop

theorem Solo.of_keeps (solo : Solo s) (keeps : Keeps s t) : Solo t :=
  fun i j taskId first second =>
    solo i j taskId (keeps.tasks i taskId first) (keeps.tasks j taskId second)

theorem keeps_awaitSuspend {timeoutMs : Int} {work : Option ω}
    {continuation : DockerTaskResult → Coroutine ω} (busy : (s.owners owner).task? = some taskId) :
    Keeps s (awaitSuspend s owner taskId timeoutMs work continuation) := by
  unfold awaitSuspend
  cases work with
  | none => exact .setOwner rfl rfl (.inl busy.symm)
  | some work =>
    rcases submitIo_cases s taskId work (max 1 timeoutMs) with
      same | ⟨e, _, _, same⟩ | ⟨e, _, _, _, _, _, same⟩ <;> simp only [same]
    · exact .setOwner rfl rfl (.inl busy.symm)
    · exact .setOwner rfl rfl (.inl busy.symm)
    · exact .setOwner (writeFrame_owners ..) (writeFrame_stop ..) (.inl busy.symm)

theorem keeps_step (taken : step s action = some t) (other : ∀ owner, action ≠ .ownerSection owner)
    (notStop : action ≠ .stop) : Keeps s t := by
  cases action with
  | ownerSection owner => exact absurd rfl (other owner)
  | stop => exact absurd rfl notStop
  | tick => cases taken; exact .of_owners rfl rfl
  | pushNewTask =>
    simp only [step, pushNewTask] at taken
    repeat' split at taken
    all_goals cases taken
    all_goals exact .of_owners rfl rfl
  | resume owner =>
    simp only [step, resume] at taken
    split at taken <;> [skip; cases taken]
    rename_i pc
    repeat' split at taken
    all_goals cases taken
    · exact .setOwner rfl rfl (.inl (by rw [pc]; rfl))
    · exact .setOwner rfl rfl (.inl (by rw [pc]; rfl))
    · exact .setOwner (writeFrame_owners ..) (writeFrame_stop ..) (.inl (by rw [pc]; rfl))
  | coroutine owner time =>
    simp only [step, coroutineStep] at taken
    split at taken <;> cases taken
    case h_1 pc =>
      exact .setOwner (writeFrame_owners ..) (writeFrame_stop ..) (.inl (by rw [pc]; rfl))
    case h_2 pc => exact .setOwner rfl rfl (.inl (by rw [pc]; rfl))
    case h_3 pc => exact keeps_awaitSuspend (by rw [pc]; rfl)
  | resumeReturns owner =>
    simp only [step, resumeReturns] at taken
    split at taken <;> cases taken
    case h_1 pc => exact .setOwner rfl rfl (.inl (by rw [pc]; rfl))
  | postResume owner =>
    simp only [step, postResume] at taken
    split at taken <;> [skip; cases taken]
    rename_i pc
    repeat' split at taken
    all_goals cases taken
    · exact .setOwner rfl rfl (.inr rfl)
    · exact .setOwner rfl rfl (.inl (by rw [pc]; rfl))
    · exact .setOwner rfl rfl (.inl (by rw [pc]; rfl))
    · exact .setOwner rfl rfl (.inr rfl)
  | invokeCallback owner =>
    simp only [step, invokeCallback] at taken
    split at taken <;> cases taken
    case h_1 taskId callback pc =>
      have moved : Keeps s (s.setOwner owner (.cancelled taskId callback)) :=
        .setOwner rfl rfl (.inl (by rw [pc]; rfl))
      exact { moved with }
    case h_2 taskId callback result pc =>
      have moved : Keeps s (s.setOwner owner (.completed taskId callback)) :=
        .setOwner rfl rfl (.inl (by rw [pc]; rfl))
      exact { moved with }
  | finish =>
    simp only [step, finish] at taken
    repeat' split at taken
    all_goals cases taken
    all_goals exact .setOwner rfl rfl (.inr rfl)
  | ioTake =>
    simp only [step, ioTake] at taken
    repeat' split at taken
    all_goals cases taken
    all_goals exact .of_owners rfl rfl
  | ioBegin =>
    simp only [step, ioBegin] at taken
    repeat' split at taken
    all_goals cases taken
    all_goals exact .of_owners rfl rfl
  | ioFinish =>
    simp only [step, ioFinish] at taken
    split at taken <;> cases taken
    exact .of_owners rfl rfl
  | ioComplete worker =>
    simp only [step, ioComplete] at taken
    split at taken <;> cases taken
    case h_1 job result pc =>
      obtain ⟨pendings, ready, shape⟩ := completeIo_shape s job.taskId job.generation result
      exact .of_owners (by rw [shape]; rfl) (by rw [shape]; rfl)

theorem ownerSection_frame (taken : ownerSection s owner = some t) :
    t.stop = s.stop ∧ ∀ i, i ≠ owner → t.owners i = s.owners i := by
  unfold ownerSection at taken
  split at taken
  case h_2 => cases taken
  case h_1 =>
    cases taken
    unfold popReady
    split
    · split
      · exact ⟨rfl, fun i ne => Function.update_of_ne ne _ _⟩
      · exact ⟨rfl, fun _ _ => rfl⟩
    dsimp only
    split
    · exact ⟨rfl, fun _ _ => rfl⟩
    split
    · exact ⟨rfl, fun i ne => Function.update_of_ne ne _ _⟩
    · exact ⟨rfl, fun _ _ => rfl⟩

theorem stopStep_owners (taken : stopStep s = some t) : t.owners = s.owners := by
  unfold stopStep at taken
  split at taken <;> try split at taken
  all_goals cases taken
  all_goals rfl

theorem solo_step (solo : Solo s) (alone : popsAlone s action = true)
    (taken : step s action = some t) : Solo t := by
  by_cases stops : action = .stop
  · subst stops
    have owners := stopStep_owners taken
    intro i j taskId first second
    rw [owners] at first second
    exact solo i j taskId first second
  by_cases pops : ∃ owner, action = .ownerSection owner
  · obtain ⟨owner, rfl⟩ := pops
    have taken : ownerSection s owner = some t := taken
    obtain ⟨_, others⟩ := ownerSection_frame taken
    have fresh : ∀ taskId, (t.owners owner).task? = some taskId →
        ∀ other, (s.owners other).task? ≠ some taskId := by
      intro taskId popped
      simpa [popsAlone, taken, popped] using alone
    intro i j taskId first second
    by_cases mine : i = owner <;> by_cases yours : j = owner
    · exact mine.trans yours.symm
    · subst mine
      rw [others j yours] at second
      exact absurd second (fresh taskId first j)
    · subst yours
      rw [others i mine] at first
      exact absurd first (fresh taskId second i)
    · rw [others i mine] at first
      rw [others j yours] at second
      exact solo i j taskId first second
  · exact solo.of_keeps (keeps_step taken (fun owner same => pops ⟨owner, same⟩) stops)

theorem Solo.of_reachable
    (reachable : (system ω n m).ReachableUnder (fun s a => popsAlone s a = true) s) : Solo s :=
  TransitionSystem.ReachesUnder.induct (P := Solo) reachable nofun
    fun _ alone taken solo => solo_step solo alone taken

variable {e : PendingEntry ω} {callback : Bool}

theorem Role.Erases.task? (erases : (pc.role taskId).Erases e) :
    pc.task? = some taskId ∧ pc.insideResume taskId = false := by
  cases pc with
  | cancelled t callback | completed t callback =>
    rw [role] at erases
    split at erases
    case isTrue same => subst same; exact ⟨rfl, rfl⟩
    case isFalse => exact erases.elim
  | idle | exited => exact erases.elim
  | _ =>
    rw [role] at erases
    split at erases <;> exact erases.elim

theorem no_job_of_erases (reachable : (system ω n m).Reachable s)
    (present : s.pendings[taskId]? = some e)
    (erases : ((s.owners owner).role taskId).Erases e) (g : UInt64) :
    ¬ (view s taskId).HasJob g := by
  have inv := TaskInv.of_reachable reachable taskId
  have expects := inv.drivers.expects e present owner
  rw [view_role] at expects
  refine inv.no_job present ?_ g
  cases role : (s.owners owner).role taskId with
  | cancelled =>
    rw [role] at erases
    exact erases
  | completed =>
    rw [role] at expects
    exact inv.landed_of_done present expects
  | _ =>
    rw [role] at erases
    exact erases.elim

theorem IoPc.hasJob_of_executes {worker : Fin m}
    (executes : (s.ios worker).executes taskId = true) : ∃ g, (view s taskId).HasJob g := by
  unfold IoPc.executes at executes
  split at executes
  case h_1 job pc =>
    have mine : job.taskId = taskId := by simpa using executes
    exact ⟨job.generation, .inr ⟨worker, by simp [pc, mine]⟩⟩
  case h_2 => cases executes

/-- **An entry is erased only when nobody uses its frame**, in every run in which
no owner pops a task that another owner has not let go of. -/
theorem erased_entry_unused {s t : LoopState ω n m} {action : Action ω n m} {taskId : TaskId}
    {e : PendingEntry ω}
    (reachable : (system ω n m).ReachableUnder (fun s a => popsAlone s a = true) s)
    (taken : (system ω n m).step s action = some t) (present : s.pendings[taskId]? = some e)
    (erased : t.pendings[taskId]? = none) :
    (∀ owner, (s.owners owner).insideResume taskId = false) ∧
      ∀ worker, (s.ios worker).executes taskId = false := by
  obtain ⟨eraser, erases⟩ := step_erased taken present erased
  constructor
  · intro owner
    by_contra inside
    have busy : (s.owners owner).task? = some taskId := by
      cases pc : s.owners owner <;> simp_all [insideResume, task?]
    have same := Solo.of_reachable reachable owner eraser taskId busy erases.task?.1
    rw [same, erases.task?.2] at inside
    exact inside rfl
  · intro worker
    by_contra executes
    obtain ⟨g, job⟩ := IoPc.hasJob_of_executes (by simpa using executes)
    exact no_job_of_erases reachable.reaches present erases g job

def twoAwaits : Coroutine Unit :=
  .await 5000 (some ()) fun _ => .await 5000 (some ()) fun _ => .done none

/-- The owners take turns: each lets go of the task before the other pops it. -/
def turnsSchedule : List (Action Unit 2 1) :=
  [.pushNewTask "task" (some twoAwaits) 10 true,
    .ownerSection 0, .resume 0, .coroutine 0 0, .resumeReturns 0, .postResume 0,
    .ioTake 0, .ioBegin 0, .ioFinish 0 (.returned {}), .ioComplete 0,
    .ownerSection 1, .resume 1, .coroutine 1 0, .resumeReturns 1, .postResume 1,
    .ioTake 0, .ioBegin 0, .ioFinish 0 (.returned {}), .ioComplete 0,
    .ownerSection 0, .resume 0, .coroutine 0 0, .resumeReturns 0, .postResume 0,
    .invokeCallback 0]

theorem erased_entry_unused_after_turns :
    ∃ (s t : LoopState Unit 2 1) (e : PendingEntry Unit),
      (system Unit 2 1).ReachableUnder (fun s a => popsAlone s a = true) s ∧
      (system Unit 2 1).step s (.finish 0) = some t ∧ s.pendings["task"]? = some e ∧
      t.pendings["task"]? = none ∧ (∀ owner, (s.owners owner).insideResume "task" = false) ∧
      (s.ios 0).executes "task" = false := by
  obtain ⟨s, reachable, check⟩ := (system Unit 2 1).exists_of_runUnder popsAlone turnsSchedule
    (fun s => s.pendings["task"]?.isSome &&
      ((system Unit 2 1).step s (.finish 0)).any fun t => t.pendings["task"]?.isNone) (by decide)
  simp only [Bool.and_eq_true, isSome_iff_exists, any_eq_true, isNone_iff_eq_none] at check
  obtain ⟨⟨e, present⟩, t, taken, erased⟩ := check
  have unused := erased_entry_unused reachable taken present erased
  exact ⟨s, t, e, reachable, taken, present, erased, unused.1, unused.2 0⟩

def OwnerPc.resumes (taskId : TaskId) : OwnerPc ω → Bool
  | .resuming t _ => t = taskId
  | _ => false

theorem OwnerPc.resuming_of_resumes (resumes : pc.resumes taskId = true) :
    ∃ body, pc = .resuming taskId body := by
  cases pc with
  | resuming t body =>
    have same : t = taskId := by simpa [OwnerPc.resumes] using resumes
    exact ⟨body, by rw [same]⟩
  | _ => simp [OwnerPc.resumes] at resumes

/-- Owner `0` is still on its way back from `Resume()` when owner `1` resumes the same task; the
deadline passes, `SubmitIo` marks the entry for owner `1`, and owner `0` finds the mark. -/
def staleOwnerSchedule : List (Action Unit 2 1) :=
  [.pushNewTask "task" (some twoAwaits) 10 true,
    -- owner 0 runs the coroutine to its first await and stays inside Resume()
    .ownerSection 0, .resume 0, .coroutine 0 0,
    .ioTake 0, .ioBegin 0, .ioFinish 0 (.returned {}), .ioComplete 0,
    -- owner 1 takes over; its SubmitIo comes after the deadline
    .ownerSection 1, .resume 1, .tick 10, .coroutine 1 0,
    -- owner 0 returns and takes the cancellation path
    .resumeReturns 0, .postResume 0, .invokeCallback 0]

/-- **A frame is destroyed while another owner runs its coroutine.** -/
theorem frame_destroyed_while_resumed :
    ∃ (s t : LoopState Unit 2 1) (e : PendingEntry Unit),
      (system Unit 2 1).Reachable s ∧ (system Unit 2 1).step s (.finish 0) = some t ∧
      s.pendings["task"]? = some e ∧ t.pendings["task"]? = none ∧
      (s.owners 1).insideResume "task" = true ∧ ∃ body, t.owners 1 = .resuming "task" body := by
  obtain ⟨s, reachable, check⟩ := (system Unit 2 1).exists_of_run staleOwnerSchedule
    (fun s => s.pendings["task"]?.isSome && (s.owners 1).insideResume "task" &&
      ((system Unit 2 1).step s (.finish 0)).any fun t =>
        t.pendings["task"]?.isNone && (t.owners 1).resumes "task") (by decide)
  simp only [Bool.and_eq_true, isSome_iff_exists, any_eq_true, isNone_iff_eq_none] at check
  obtain ⟨⟨⟨e, present⟩, inside⟩, t, taken, erased, resumes⟩ := check
  exact ⟨s, t, e, reachable, taken, present, erased, inside, resuming_of_resumes resumes⟩

/-! ## Destroying the callback -/

def destroysCallback (s : LoopState ω n m) (taskId : TaskId) : Action ω n m → Bool
  | .finish owner =>
    match s.owners owner with
    | .cancelled t callback | .completed t callback => callback && t = taskId
    | _ => false
  | _ => false

def JudgerInUse (s : LoopState ω n m) (taskId : TaskId) : Prop :=
  jobsOf s taskId ≠ [] ∨ ∃ e, s.pendings[taskId]? = some e ∧ e.task.done = false

theorem jobsOf_eq_nil (none : ∀ g, ¬ (view s taskId).HasJob g) : jobsOf s taskId = [] := by
  rw [← List.length_eq_zero_iff, length_jobsOf]
  exact TaskView.jobs_eq_zero_iff.mpr none

theorem not_judgerInUse
    (none : ∀ g, ¬ (view s taskId).HasJob g) (absent : s.pendings[taskId]? = Option.none) :
    ¬ JudgerInUse s taskId := by
  rintro (jobs | ⟨e, present, _⟩)
  · exact jobs (jobsOf_eq_nil none)
  · rw [absent] at present
    cases present

theorem finish_cancelled_safe_iff (inv : TaskInv (view s taskId))
    (pc : s.owners owner = .cancelled taskId callback) (taken : finish s owner = some t) :
    ¬ JudgerInUse t taskId ↔ ∀ e, s.pendings[taskId]? = some e → e.ioInFlight = false := by
  simp only [finish, pc] at taken
  cases present : s.pendings[taskId]? with simp only [present] at taken
  | none =>
    cases taken
    have none : ∀ g, ¬ (view s taskId).HasJob g := by
      intro g job
      obtain ⟨e, present', _⟩ := inv.jobs.current g job
      rw [view_entry, present] at present'
      cases present'
    refine ⟨fun _ => ?_, fun _ => not_judgerInUse none present⟩
    rintro _ ⟨⟩
  | some e =>
    split at taken
    case isTrue inFlight =>
      cases taken
      have notDone := CoTask.not_done_of_suspended ((inv.settled e present).inFlight inFlight)
      have used : JudgerInUse
          ((s.setEntry taskId { e with state := .waiting }).setOwner owner .idle) taskId :=
        .inr ⟨_, Std.TreeMap.getElem?_insert_self, notDone⟩
      refine ⟨fun safe => absurd used safe, fun landed => ?_⟩
      rw [landed e rfl] at inFlight
      cases inFlight
    case isFalse landed =>
      cases taken
      have landed : e.ioInFlight = false := by simpa using landed
      have absent : (s.pendings.erase taskId)[taskId]? = none := Std.TreeMap.getElem?_erase_self
      refine ⟨fun _ => ?_, fun _ => not_judgerInUse (inv.no_job present landed) absent⟩
      rintro _ ⟨⟩
      exact landed

theorem finish_completed_safe (inv : TaskInv (view s taskId))
    (pc : s.owners owner = .completed taskId callback) (taken : finish s owner = some t) :
    ¬ JudgerInUse t taskId ∧ ∀ e, s.pendings[taskId]? = some e → e.ioInFlight = false := by
  simp only [finish, pc] at taken
  cases taken
  have landed : ∀ e, s.pendings[taskId]? = some e → e.ioInFlight = false := by
    intro e present
    have expects := inv.drivers.expects e present owner
    rw [view_role, pc, role, if_pos rfl] at expects
    exact inv.landed_of_done present expects
  have none : ∀ g, ¬ (view s taskId).HasJob g := by
    intro g job
    obtain ⟨e, present, inFlight, _⟩ := inv.jobs.current g job
    rw [landed e present] at inFlight
    cases inFlight
  have absent : (s.pendings.erase taskId)[taskId]? = Option.none := Std.TreeMap.getElem?_erase_self
  exact ⟨not_judgerInUse none absent, landed⟩

def DestroysSafely (s : LoopState ω n m) (action : Action ω n m) (t : LoopState ω n m) : Prop :=
  ∀ taskId, destroysCallback s taskId action = true → ¬ JudgerInUse t taskId

def FindsLanded (s : LoopState ω n m) (action : Action ω n m) : Prop :=
  ∀ taskId, destroysCallback s taskId action = true →
    ∀ e, s.pendings[taskId]? = some e → e.ioInFlight = false

theorem destroysSafely_iff
    (reachable : (system ω n m).Reachable s) (taken : (system ω n m).step s action = some t) :
    DestroysSafely s action t ↔ FindsLanded s action := by
  refine forall_congr' fun taskId => imp_congr_right fun destroys => ?_
  have inv := TaskInv.of_reachable reachable taskId
  unfold destroysCallback at destroys
  split at destroys
  case h_2 => cases destroys
  case h_1 owner =>
    split at destroys
    case h_3 => cases destroys
    case h_1 t' callback pc =>
      have mine : t' = taskId := by simp_all
      exact finish_cancelled_safe_iff inv (mine ▸ pc) taken
    case h_2 t' callback pc =>
      have mine : t' = taskId := by simp_all
      obtain ⟨safe, landed⟩ := finish_completed_safe inv (mine ▸ pc) taken
      exact ⟨fun _ => landed, fun _ => safe⟩

/-- **A run destroys every callback safely exactly when none of the sections that
destroy one finds its entry in flight.** -/
theorem callback_destroyed_safely_iff (actions : List (Action ω n m)) :
    (system ω n m).Along DestroysSafely {} actions ↔
      (system ω n m).Along (fun s action _ => FindsLanded s action) {} actions :=
  along_congr destroysSafely_iff actions

def lateJobSchedule : List (Action Unit 1 1) :=
  [.pushNewTask "task" (some twoAwaits) 10 true,
    .ownerSection 0, .resume 0, .coroutine 0 0, .resumeReturns 0, .postResume 0,
    .ioTake 0, .ioBegin 0,
    -- the owner's sweep marks the waiting entry, and the owner pops it
    .tick 10, .ownerSection 0, .postResume 0, .invokeCallback 0]

/-- **A callback is destroyed while a job of its task is executing**, and the
frame of the task is still there, in its await. -/
theorem callback_destroyed_while_executing :
    ∃ (s t : LoopState Unit 1 1) (e : PendingEntry Unit), (system Unit 1 1).Reachable s ∧
      (system Unit 1 1).step s (.finish 0) = some t ∧
      destroysCallback s "task" (.finish 0) = true ∧ (t.ios 0).executes "task" = true ∧
      t.pendings["task"]? = some e ∧ e.task.done = false ∧ JudgerInUse t "task" := by
  obtain ⟨s, reachable, check⟩ := (system Unit 1 1).exists_of_run lateJobSchedule
    (fun s => destroysCallback s "task" (.finish 0) &&
      ((system Unit 1 1).step s (.finish 0)).any fun t =>
        (t.ios 0).executes "task" && t.pendings["task"]?.any fun e => !e.task.done) (by decide)
  simp only [Bool.and_eq_true, any_eq_true, Bool.not_eq_true'] at check
  obtain ⟨destroys, t, taken, executes, e, present, notDone⟩ := check
  exact ⟨s, t, e, reachable, taken, destroys, executes, present, notDone,
    .inr ⟨e, present, notDone⟩⟩

end OnlineJudge.EventLoop
