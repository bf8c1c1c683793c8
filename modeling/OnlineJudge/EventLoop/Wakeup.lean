import OnlineJudge.Library.CondVar
import OnlineJudge.EventLoop.Ownership

/-!
# The waits of the workers

The waits of owners on `_cv` and of I/O workers on `_io_cv`.  `Stop` sets `_stop_owners` and
notifies `_cv` without `_mutex`: an owner that has just found its predicate false misses both
(`owner_sleeps_through_stop`).
-/

namespace OnlineJudge.EventLoop

open Function Option Waiter StopPhase

variable {ω : Type} {n m : Nat}

/-! ## The refined system -/

structure WakeState (ω : Type) (n m : Nat) where
  loop : LoopState ω n m := {}
  ownerWait : Fin n → Waiter := fun _ => .out
  ioWait : Fin m → Waiter := fun _ => .out

inductive WakeAction (ω : Type) (n m : Nat)
  /-- An owner takes `_mutex` at the top of its loop or after a wakeup, evaluates
  its predicate and runs its first section, or is about to block. -/
  | owner (owner : Fin n)
  | ownerBlock (owner : Fin n)
  | ownerTimeout (owner : Fin n)
  /-- The same for an I/O worker and `_io_mutex`. -/
  | io (worker : Fin m)
  | ioBlock (worker : Fin m)
  /-- Any other step of the loop; where it calls `notify_one`, the two choices
  name the thread that wakes. -/
  | other (action : Action ω n m) (wakes : Option (Fin n)) (ioWakes : Option (Fin m))

/-- The predicates of the two waits of `OwnerWork`. -/
def ownerPredicate (s : LoopState ω n m) (timed : Bool) : Bool :=
  s.stopOwners || !s.ready.isEmpty || (!timed && !s.pendings.isEmpty)

/-- The predicate of the wait of `IoWork`. -/
def ioPredicate (s : LoopState ω n m) : Bool := !s.running || !s.ioQueue.isEmpty

namespace WakeState

variable (s : WakeState ω n m)

def runOwner (owner : Fin n) : Option (WakeState ω n m) :=
  (ownerSection s.loop owner).map fun loop =>
    { s with loop := loop, ownerWait := update s.ownerWait owner .out }

/-- The owner holds `_mutex` and evaluates its predicate. -/
def evaluateOwner (owner : Fin n) (timed : Bool) : Option (WakeState ω n m) :=
  if ownerPredicate s.loop timed then s.runOwner owner
  else some { s with ownerWait := update s.ownerWait owner (.deciding timed) }

def owner (owner : Fin n) : Option (WakeState ω n m) :=
  if mutexFree s.ownerWait then
    match s.loop.owners owner, s.ownerWait owner with
    | .idle, .out => s.evaluateOwner owner (!s.loop.pendings.isEmpty)
    | .idle, .woken timed => s.evaluateOwner owner timed
    | .idle, .expired => s.runOwner owner
    | _, _ => none
  else none

/-- The I/O worker holds `_io_mutex`, evaluates its predicate, and takes a job
or is about to block. -/
def evaluateIo (worker : Fin m) : Option (WakeState ω n m) :=
  if ioPredicate s.loop then
    (ioTake s.loop worker).map fun loop =>
      { s with loop := loop, ioWait := update s.ioWait worker .out }
  else some { s with ioWait := update s.ioWait worker (.deciding false) }

def io (worker : Fin m) : Option (WakeState ω n m) :=
  if mutexFree s.ioWait then
    match s.loop.ios worker, s.ioWait worker with
    | .idle, .out | .idle, .woken _ => s.evaluateIo worker
    | _, _ => none
  else none

end WakeState

open WakeState

variable (s : LoopState ω n m)

/-- The coroutine that the owner runs is about to call `SubmitIo`. -/
def submits (owner : Fin n) : Bool :=
  match s.owners owner with
  | .resuming _ (.await _ (some _) _) => true
  | _ => false

/-- The step takes `_mutex`. -/
def takesMutex : Action ω n m → Bool
  | .pushNewTask .. | .postResume _ | .finish _ | .ioComplete _ => true
  | .coroutine owner _ => submits s owner
  | .stop => s.stop = .ioJoined
  | _ => false

/-- The step takes `_io_mutex`. -/
def takesIoMutex : Action ω n m → Bool
  | .coroutine owner _ => submits s owner
  | .stop => s.stop = .runningCleared
  | _ => false

/-- `PushNewTask` and `CompleteIo` wake one owner whenever they push on `_ready`, and `Stop` wakes
all at its end. -/
def notifyOwners (s t : LoopState ω n m) (waiters : Fin n → Waiter) (wakes : Option (Fin n)) :
    Action ω n m → Option (Fin n → Waiter)
  | .pushNewTask .. | .ioComplete _ =>
    if s.ready.length < t.ready.length then notifyOne waiters wakes else some waiters
  | .stop => some (if s.stop = .ownersStopped then notifyAll waiters else waiters)
  | _ => some waiters

/-- `SubmitIo` wakes one worker whenever it queues a job, and `Stop` wakes all. -/
def notifyIos (s t : LoopState ω n m) (waiters : Fin m → Waiter) (ioWakes : Option (Fin m)) :
    Action ω n m → Option (Fin m → Waiter)
  | .coroutine .. =>
    if s.ioQueue.length < t.ioQueue.length then notifyOne waiters ioWakes else some waiters
  | .stop => some (if s.stop = .ioSwapped then notifyAll waiters else waiters)
  | _ => some waiters

def otherStep (s : WakeState ω n m) (action : Action ω n m) (wakes : Option (Fin n))
    (ioWakes : Option (Fin m)) : Option (WakeState ω n m) :=
  match action with
  | .ownerSection _ | .ioTake _ => none
  | _ =>
    if (takesMutex s.loop action && !mutexFree s.ownerWait) ||
        (takesIoMutex s.loop action && !mutexFree s.ioWait) then none
    else do
      let loop ← step s.loop action
      let ownerWait ← notifyOwners s.loop loop s.ownerWait wakes action
      let ioWait ← notifyIos s.loop loop s.ioWait ioWakes action
      return { loop, ownerWait, ioWait }

def wakeStep (s : WakeState ω n m) : WakeAction ω n m → Option (WakeState ω n m)
  | .owner owner => s.owner owner
  | .ownerBlock owner =>
    match s.ownerWait owner with
    | .deciding timed => some { s with ownerWait := update s.ownerWait owner (.blocked timed) }
    | _ => none
  | .ownerTimeout owner =>
    match s.ownerWait owner with
    | .blocked true => some { s with ownerWait := update s.ownerWait owner .expired }
    | _ => none
  | .io worker => s.io worker
  | .ioBlock worker =>
    match s.ioWait worker with
    | .deciding timed => some { s with ioWait := update s.ioWait worker (.blocked timed) }
    | _ => none
  | .other action wakes ioWakes => otherStep s action wakes ioWakes

def wakeSystem (ω : Type) (n m : Nat) : TransitionSystem (WakeState ω n m) (WakeAction ω n m) where
  initial := {}
  step := wakeStep

/-! ## What a step can do -/

section Inversion

variable {s t : WakeState ω n m} {i : Fin n}

theorem runOwner_eq_some (taken : s.runOwner i = some t) :
    ∃ loop, ownerSection s.loop i = some loop ∧
      t = { s with loop := loop, ownerWait := update s.ownerWait i .out } := by
  obtain ⟨loop, ran, rfl⟩ := map_eq_some_iff.mp taken
  exact ⟨loop, ran, rfl⟩

theorem evaluateOwner_cases {timed : Bool} (taken : s.evaluateOwner i timed = some t) :
    s.runOwner i = some t ∨
      ownerPredicate s.loop timed = false ∧
        t = { s with ownerWait := update s.ownerWait i (.deciding timed) } := by
  unfold evaluateOwner at taken
  split at taken
  case isTrue => exact .inl taken
  case isFalse off =>
    cases taken
    exact .inr ⟨by simpa using off, rfl⟩

theorem owner_cases (taken : s.owner i = some t) :
    s.runOwner i = some t ∨
      ∃ timed, ownerPredicate s.loop timed = false ∧
        t = { s with ownerWait := update s.ownerWait i (.deciding timed) } := by
  unfold owner at taken
  obtain ⟨-, taken⟩ := ite_none_right_eq_some.mp taken
  split at taken
  · exact (evaluateOwner_cases taken).imp id fun off => ⟨_, off⟩
  · exact (evaluateOwner_cases taken).imp id fun off => ⟨_, off⟩
  · exact .inl taken
  · cases taken

theorem io_cases {w : Fin m} (taken : s.io w = some t) :
    (∃ loop, EventLoop.step s.loop (.ioTake w) = some loop ∧
      t = { s with loop := loop, ioWait := update s.ioWait w .out }) ∨
    ioPredicate s.loop = false ∧
      t = { s with ioWait := update s.ioWait w (.deciding false) } := by
  have evaluated : s.evaluateIo w = some t := by
    unfold io at taken
    obtain ⟨-, taken⟩ := ite_none_right_eq_some.mp taken
    split at taken
    · exact taken
    · exact taken
    · cases taken
  unfold evaluateIo at evaluated
  split at evaluated
  case isTrue =>
    obtain ⟨loop, ran, rfl⟩ := map_eq_some_iff.mp evaluated
    exact .inl ⟨loop, ran, rfl⟩
  case isFalse off =>
    cases evaluated
    exact .inr ⟨by simpa using off, rfl⟩

structure OtherStep (s t : WakeState ω n m) (action : Action ω n m) (wakes : Option (Fin n))
    (ioWakes : Option (Fin m)) : Prop where
  pops : ∀ owner, action ≠ .ownerSection owner
  loop : step s.loop action = some t.loop
  owners : notifyOwners s.loop t.loop s.ownerWait wakes action = some t.ownerWait
  ios : notifyIos s.loop t.loop s.ioWait ioWakes action = some t.ioWait
  mutex : takesMutex s.loop action = true → mutexFree s.ownerWait = true
  ioMutex : takesIoMutex s.loop action = true → mutexFree s.ioWait = true

theorem otherStep_cases {action : Action ω n m} {wakes : Option (Fin n)}
    {ioWakes : Option (Fin m)} (taken : otherStep s action wakes ioWakes = some t) :
    OtherStep s t action wakes ioWakes := by
  unfold otherStep at taken
  split at taken
  · cases taken
  · cases taken
  case h_3 notPop notTake =>
    obtain ⟨free, taken⟩ := ite_none_left_eq_some.mp taken
    obtain ⟨loop, stepped, rest⟩ := bind_eq_some_iff.mp taken
    obtain ⟨ownerWait, owners, rest⟩ := bind_eq_some_iff.mp rest
    obtain ⟨ioWait, ios, rest⟩ := bind_eq_some_iff.mp rest
    cases rest
    simp only [Bool.or_eq_true, Bool.and_eq_true, not_or, not_and, Bool.not_eq_true,
      Bool.not_eq_false'] at free
    exact ⟨fun owner same => notPop owner same, stepped, owners, ios, free.1, free.2⟩

end Inversion

/-! ## Every run with waits is a run of the loop -/

def wakeSimulation (ω : Type) (n m : Nat) :
    TransitionSystem.Simulation (wakeSystem ω n m) (system ω n m) where
  abs := loop
  initial_abs := rfl
  step_abs := by
    intro s t action taken
    have one : ∀ (action : Action ω n m) {loop : LoopState ω n m},
        step s.loop action = some loop → (system ω n m).Reaches s.loop loop :=
      fun _ _ stepped => TransitionSystem.Reaches.tail (.refl _) stepped
    cases action with
    | owner i =>
      rcases owner_cases taken with ran | ⟨_, _, rfl⟩
      · obtain ⟨loop, popped, rfl⟩ := runOwner_eq_some ran
        exact one (.ownerSection i) popped
      · exact .refl _
    | io w =>
      rcases io_cases taken with ⟨loop, ran, rfl⟩ | ⟨_, rfl⟩
      · exact one (.ioTake w) ran
      · exact .refl _
    | ownerBlock i | ownerTimeout i | ioBlock i =>
      simp only [wakeSystem, wakeStep] at taken
      split at taken <;> cases taken
      exact .refl _
    | other action => exact one action (otherStep_cases taken).loop

theorem wakeLoop_reachable {s : WakeState ω n m} (reachable : (wakeSystem ω n m).Reachable s) :
    (system ω n m).Reachable s.loop :=
  (wakeSimulation ω n m).reachable reachable

theorem wakePhases {s : WakeState ω n m} (reachable : (wakeSystem ω n m).Reachable s) :
    Phases (view s.loop "") :=
  (TaskInv.of_reachable (wakeLoop_reachable reachable) "").phases

theorem ioTake_stop {s t : LoopState ω n m} {w : Fin m}
    (taken : EventLoop.step s (.ioTake w) = some t) : t.stop = s.stop := by
  have keeps : Keeps s t :=
    keeps_step taken nofun nofun
  exact keeps.stop

theorem stopStep_rank {s t : LoopState ω n m} (taken : stopStep s = some t) :
    t.stop.rank = s.stop.rank + 1 := by
  unfold stopStep at taken
  split at taken <;> try split at taken
  all_goals cases taken
  all_goals simp_all [rank]

/-! ## The I/O workers wake up -/

/-- An I/O worker that is about to block, or blocked, has not missed the
notification of `Stop`. -/
structure IoAwake (s : WakeState ω n m) : Prop where
  deciding : ∀ w timed, s.ioWait w = .deciding timed → s.loop.stop.rank < 3
  blocked : ∀ w timed, s.ioWait w = .blocked timed → s.loop.stop.rank < 4

variable {action : WakeAction ω n m}

namespace IoAwake

variable {s t : WakeState ω n m}

theorem of_eq (awake : IoAwake s) (waits : t.ioWait = s.ioWait) (stop : t.loop.stop = s.loop.stop) :
    IoAwake t := by
  constructor
  · rw [waits, stop]; exact awake.deciding
  · rw [waits, stop]; exact awake.blocked

theorem update {w : Fin m} {waiter : Waiter} (awake : IoAwake s)
    (waits : t.ioWait = update s.ioWait w waiter) (stop : t.loop.stop = s.loop.stop)
    (deciding : ∀ timed, waiter = .deciding timed → s.loop.stop.rank < 3)
    (blocked : ∀ timed, waiter = .blocked timed → s.loop.stop.rank < 4) : IoAwake t := by
  constructor
  · intro i timed now
    rw [waits] at now
    rw [stop]
    by_cases same : i = w
    · subst same; exact deciding timed (by simpa using now)
    · exact awake.deciding i timed (by simpa [same] using now)
  · intro i timed now
    rw [waits] at now
    rw [stop]
    by_cases same : i = w
    · subst same; exact blocked timed (by simpa using now)
    · exact awake.blocked i timed (by simpa [same] using now)

variable {wakes : Option (Fin n)} {ioWakes : Option (Fin m)}

/-- A step of `Stop`: it swaps the queue only with `_io_mutex` free, and wakes all
workers after that. -/
theorem stop (awake : IoAwake s) (parts : OtherStep s t .stop wakes ioWakes) : IoAwake t := by
  have next := stopStep_rank parts.loop
  have waits : t.ioWait = if s.loop.stop = .ioSwapped then notifyAll s.ioWait else s.ioWait :=
    (Option.some.inj parts.ios).symm
  constructor
  · intro i timed now
    have before : s.ioWait i = .deciding timed := by
      rw [waits] at now
      split at now
      · exact deciding_of_notify now
      · exact now
    have early := awake.deciding i timed before
    have notSwapping : s.loop.stop ≠ .runningCleared := by
      intro phase
      exact not_deciding_of_mutexFree (parts.ioMutex (by simp [takesIoMutex, phase])) i timed before
    cases phase : s.loop.stop <;> simp_all [rank]
  · intro i timed now
    rw [waits] at now
    split at now
    case isTrue => exact absurd now (notify_ne_blocked _ _)
    case isFalse notSwapped =>
      have early := awake.blocked i timed now
      cases phase : s.loop.stop <;> simp_all [rank]

theorem other {action : Action ω n m} (awake : IoAwake s)
    (parts : OtherStep s t action wakes ioWakes) (notStop : action ≠ .stop) :
    IoAwake t := by
  have stop := (keeps_step parts.loop parts.pops notStop).stop
  have waits : ∀ i, t.ioWait i = s.ioWait i ∨ t.ioWait i = (s.ioWait i).notify := by
    intro i
    have notified := parts.ios
    unfold notifyIos at notified
    split at notified
    · split at notified
      · exact notifyOne_cases notified i
      · exact .inl (congrFun (Option.some.inj notified) i).symm
    · exact absurd rfl notStop
    · exact .inl (congrFun (Option.some.inj notified) i).symm
  constructor
  · intro i timed now
    rw [stop]
    rcases waits i with same | woken
    · exact awake.deciding i timed (same ▸ now)
    · exact awake.deciding i timed (deciding_of_notify (woken ▸ now))
  · intro i timed now
    rw [stop]
    rcases waits i with same | woken
    · exact awake.blocked i timed (same ▸ now)
    · exact absurd (woken ▸ now) (notify_ne_blocked _ _)

theorem step (awake : IoAwake s)
    (reachable : (wakeSystem ω n m).Reachable s) (taken : wakeStep s action = some t) :
    IoAwake t := by
  cases action with simp only [wakeStep] at taken
  | owner =>
    rcases owner_cases taken with ran | ⟨_, _, rfl⟩
    · obtain ⟨loop, popped, rfl⟩ := runOwner_eq_some ran
      exact awake.of_eq rfl (ownerSection_frame popped).1
    · exact awake.of_eq rfl rfl
  | ownerBlock i | ownerTimeout i =>
    split at taken <;> cases taken
    exact awake.of_eq rfl rfl
  | io w =>
    rcases io_cases taken with ⟨loop, stepped, rfl⟩ | ⟨off, rfl⟩
    · exact awake.update rfl (ioTake_stop stepped) nofun nofun
    have early : s.loop.stop.rank < 2 := by
      have isRunning : s.loop.running = true := by simp_all [ioPredicate]
      exact (wakePhases reachable).rank_of_running isRunning
    exact awake.update rfl rfl (fun _ _ => by omega) nofun
  | ioBlock w =>
    split at taken
    case h_1 timed before =>
      cases taken
      have early := awake.deciding w timed before
      exact awake.update rfl rfl nofun (fun _ _ => by omega)
    case h_2 => cases taken
  | other action =>
    have parts := otherStep_cases taken
    by_cases stops : action = .stop
    · subst stops; exact awake.stop parts
    · exact awake.other parts stops

end IoAwake

/-! ## The owners wake up, if they are not about to block -/

/-- At the last notification of `Stop`, no owner is between a false evaluation of its predicate and
its block. -/
def lastNotifySeen (s : WakeState ω n m) : WakeAction ω n m → Bool
  | .other .stop _ _ =>
    s.loop.stop ≠ .ownersStopped || decide (∀ owner, s.ownerWait owner ≠ .deciding false)
  | _ => true

/-- No owner is about to block, or blocked, in its untimed wait once `Stop` is
past its last notification. -/
def OwnersAwake (s : WakeState ω n m) : Prop :=
  8 ≤ s.loop.stop.rank →
    ∀ owner, s.ownerWait owner ≠ .deciding false ∧ s.ownerWait owner ≠ .blocked false

namespace OwnersAwake

variable {s t : WakeState ω n m}

section

variable (awake : OwnersAwake s)
include awake

theorem of_eq (waits : t.ownerWait = s.ownerWait) (stop : t.loop.stop = s.loop.stop) :
    OwnersAwake t := by
  intro late
  rw [waits]
  exact awake (stop ▸ late)

theorem update {i : Fin n} {waiter : Waiter} (waits : t.ownerWait = update s.ownerWait i waiter)
    (stop : t.loop.stop = s.loop.stop)
    (moved : 8 ≤ s.loop.stop.rank → waiter ≠ .deciding false ∧ waiter ≠ .blocked false) :
    OwnersAwake t := by
  intro late owner
  rw [stop] at late
  rw [waits]
  by_cases same : owner = i
  · subst same; simpa using moved late
  · simpa [same] using awake late owner

variable {wakes : Option (Fin n)} {ioWakes : Option (Fin m)}

theorem stop (seen : lastNotifySeen s (.other .stop wakes ioWakes) = true)
    (parts : OtherStep s t .stop wakes ioWakes) : OwnersAwake t := by
  intro late owner
  have next := stopStep_rank parts.loop
  have waits : t.ownerWait =
      if s.loop.stop = .ownersStopped then notifyAll s.ownerWait else s.ownerWait :=
    (Option.some.inj parts.owners).symm
  rw [waits]
  split
  case isTrue phase =>
    have decided : ∀ owner, s.ownerWait owner ≠ .deciding false := by
      simpa [lastNotifySeen, phase] using seen
    exact ⟨fun now => decided owner (deciding_of_notify now), notify_ne_blocked _ _⟩
  case isFalse other =>
    refine awake ?_ owner
    cases phase : s.loop.stop <;> simp_all [rank]

theorem other {action : Action ω n m} (parts : OtherStep s t action wakes ioWakes)
    (notStop : action ≠ .stop) : OwnersAwake t := by
  intro late owner
  have stop := (keeps_step parts.loop parts.pops notStop).stop
  have before := awake (stop ▸ late) owner
  have waits : t.ownerWait owner = s.ownerWait owner ∨
      t.ownerWait owner = (s.ownerWait owner).notify := by
    have notified := parts.owners
    unfold notifyOwners at notified
    split at notified
    · split at notified
      · exact notifyOne_cases notified owner
      · exact .inl (congrFun (Option.some.inj notified) owner).symm
    · split at notified
      · exact notifyOne_cases notified owner
      · exact .inl (congrFun (Option.some.inj notified) owner).symm
    · exact absurd rfl notStop
    · exact .inl (congrFun (Option.some.inj notified) owner).symm
  rcases waits with same | woken
  · rw [same]; exact before
  · rw [woken]
    exact ⟨fun now => before.1 (deciding_of_notify now), notify_ne_blocked _ _⟩

theorem step (reachable : (wakeSystem ω n m).Reachable s) (seen : lastNotifySeen s action = true)
    (taken : wakeStep s action = some t) : OwnersAwake t := by
  cases action with simp only [wakeStep] at taken
  | owner =>
    rcases owner_cases taken with ran | ⟨timed, off, rfl⟩
    · obtain ⟨loop, popped, rfl⟩ := runOwner_eq_some ran
      exact awake.update rfl (ownerSection_frame popped).1 fun _ => by simp
    refine awake.update rfl rfl fun late => ?_
    -- the predicate is true once `_stop_owners` is set
    have stopping : s.loop.stopOwners = true := by
      have phases := (wakePhases reachable).stopOwners
      simp only [view] at phases
      rw [phases]
      exact decide_eq_true (by omega)
    simp [ownerPredicate, stopping] at off
  | ownerBlock i =>
    split at taken
    case h_1 timed before =>
      cases taken
      refine awake.update rfl rfl fun late => ⟨by simp, ?_⟩
      intro blocked
      cases blocked
      exact (awake late i).1 before
    case h_2 => cases taken
  | ownerTimeout =>
    split at taken <;> cases taken
    exact awake.update rfl rfl fun _ => by simp
  | io w =>
    rcases io_cases taken with ⟨loop, stepped, rfl⟩ | ⟨_, rfl⟩
    · exact awake.of_eq rfl (ioTake_stop stepped)
    · exact awake.of_eq rfl rfl
  | ioBlock =>
    split at taken <;> cases taken
    exact awake.of_eq rfl rfl
  | other action =>
    have parts := otherStep_cases taken
    by_cases stops : action = .stop
    · subst stops; exact awake.stop seen parts
    · exact awake.other parts stops

end

end OwnersAwake

theorem io_not_blocked {s : WakeState ω n m} (reachable : (wakeSystem ω n m).Reachable s)
    (notified : 4 ≤ s.loop.stop.rank) (w : Fin m) (timed : Bool) : s.ioWait w ≠ .blocked timed := by
  intro blocked
  have awake : IoAwake s :=
    TransitionSystem.Reachable.induct (P := IoAwake) reachable ⟨nofun, nofun⟩
      fun before taken awake => awake.step before taken
  have early := awake.blocked w timed blocked
  omega

/-- **No worker sleeps through `Stop`**, in every run in which no owner is about to block in its
untimed wait when `Stop` notifies `_cv`. -/
theorem no_worker_sleeps_through_stop {s : WakeState ω n m}
    (reachable : (wakeSystem ω n m).ReachableUnder (fun s a => lastNotifySeen s a = true) s) :
    (8 ≤ s.loop.stop.rank → ∀ owner, s.ownerWait owner ≠ .blocked false) ∧
      (4 ≤ s.loop.stop.rank → ∀ w timed, s.ioWait w ≠ .blocked timed) := by
  have awake : OwnersAwake s :=
    TransitionSystem.ReachesUnder.induct (P := OwnersAwake) reachable nofun
      fun before seen taken awake => awake.step before.reaches seen taken
  exact ⟨fun late owner => (awake late owner).2, io_not_blocked reachable.reaches⟩

/-- A shutdown in which the only owner is blocked before `Stop` is called, so
that its notification reaches it. -/
theorem no_worker_sleeps_through_stop_when_blocked :
    ∃ s : WakeState Unit 1 1,
      (wakeSystem Unit 1 1).ReachableUnder (fun s a => lastNotifySeen s a = true) s ∧
      s.loop.stop = .ownersNotified ∧ s.ownerWait 0 ≠ .blocked false ∧
      s.ioWait 0 ≠ .blocked false := by
  obtain ⟨s, reachable, check⟩ := (wakeSystem Unit 1 1).exists_of_runUnder lastNotifySeen
    [.owner 0, .ownerBlock 0, .other .stop none none, .other .stop none none,
      .other .stop none none, .other .stop none none, .io 0, .other .stop none none,
      .other .stop none none, .other .stop none none, .other .stop none none]
    (fun s => s.loop.stop = .ownersNotified) (by decide)
  have phase : s.loop.stop = .ownersNotified := of_decide_eq_true check
  have awake := no_worker_sleeps_through_stop reachable
  have rank : s.loop.stop.rank = 8 := by rw [phase]; rfl
  exact ⟨s, reachable, phase, awake.1 (by omega) 0, awake.2 (by omega) 0 false⟩

/-! ## An owner that is about to block sleeps through `Stop` -/

theorem blocked_step {s t : WakeState ω n m} {i : Fin n}
    (reachable : (wakeSystem ω n m).Reachable s) (late : 8 ≤ s.loop.stop.rank)
    (blocked : s.ownerWait i = .blocked false) (taken : wakeStep s action = some t) :
    8 ≤ t.loop.stop.rank ∧ t.ownerWait i = .blocked false := by
  have inv := TaskInv.of_reachable (wakeLoop_reachable reachable) ""
  cases action with simp only [wakeStep] at taken
  | owner j =>
    have ne : i ≠ j := by
      rintro rfl
      simp only [owner, blocked] at taken
      split at taken
      · split at taken <;> simp_all
      · cases taken
    rcases owner_cases taken with ran | ⟨timed, off, rfl⟩
    · obtain ⟨loop, popped, rfl⟩ := runOwner_eq_some ran
      exact ⟨(ownerSection_frame popped).1 ▸ late, by simpa [ne] using blocked⟩
    · exact ⟨late, by simpa [ne] using blocked⟩
  | ownerBlock j | ownerTimeout j =>
    split at taken
    case h_2 => cases taken
    case h_1 before =>
      cases taken
      have ne : i ≠ j := by
        rintro rfl
        rw [blocked] at before
        cases before
      exact ⟨late, by simpa [ne] using blocked⟩
  | io w =>
    rcases io_cases taken with ⟨loop, stepped, rfl⟩ | ⟨_, rfl⟩
    · exact ⟨(ioTake_stop stepped) ▸ late, blocked⟩
    · exact ⟨late, blocked⟩
  | ioBlock =>
    split at taken <;> cases taken
    exact ⟨late, blocked⟩
  | other action wakes ioWakes =>
    have parts := otherStep_cases taken
    by_cases stops : action = .stop
    · subst stops
      have next := stopStep_rank parts.loop
      have past : s.loop.stop ≠ .ownersStopped := by
        intro phase
        simp [phase, rank] at late
      have waits : some s.ownerWait = some t.ownerWait := by
        simpa [notifyOwners, past] using parts.owners
      exact ⟨by omega, Option.some.inj waits ▸ blocked⟩
    · have stop := (keeps_step parts.loop parts.pops stops).stop
      refine ⟨stop ▸ late, ?_⟩
      have notified := parts.owners
      unfold notifyOwners at notified
      split at notified
      case h_1 taskId body timeoutMs callback =>
        -- the loop accepts no task any more
        have refused : t.loop = s.loop := by
          have accepting : s.loop.acceptingIo = false := by
            have := inv.phases.acceptingIo
            simp only [view] at this
            rw [this]
            exact decide_eq_false (by omega)
          have stepped := parts.loop
          simp only [step, pushNewTask, accepting] at stepped
          split at stepped
          · exact (Option.some.inj stepped).symm
          · simpa using stepped.symm
        rw [refused, if_neg (Nat.lt_irrefl _)] at notified
        exact Option.some.inj notified ▸ blocked
      case h_2 worker =>
        -- every I/O worker has left
        have exited := inv.shutdown.ioJoined (Nat.le_trans (by decide) late) worker
        have stepped := parts.loop
        simp only [step, ioComplete] at stepped
        split at stepped
        case h_1 job result pc =>
          rw [view_ioRole, pc, IoPc.role_finished] at exited
          split at exited <;> cases exited
        case h_2 => cases stepped
      case h_3 => exact absurd rfl stops
      case h_4 => exact Option.some.inj notified ▸ blocked

theorem blocked_forever {s t : WakeState ω n m} {i : Fin n}
    (reachable : (wakeSystem ω n m).Reachable s) (late : 8 ≤ s.loop.stop.rank)
    (blocked : s.ownerWait i = .blocked false) (later : (wakeSystem ω n m).Reaches s t) :
    t.ownerWait i = .blocked false := by
  have kept : 8 ≤ t.loop.stop.rank ∧ t.ownerWait i = .blocked false :=
    TransitionSystem.ReachesUnder.induct
      (P := fun t => 8 ≤ t.loop.stop.rank ∧ t.ownerWait i = .blocked false) later ⟨late, blocked⟩
      fun before _ taken kept => blocked_step (reachable.trans before) kept.1 kept.2 taken
  exact kept.2

/-- The owner finds its predicate false just before `Stop` sets `_stop_owners`, and blocks just
after the notification. -/
def lostWakeupSchedule : List (WakeAction Unit 1 1) :=
  let worker : Fin 1 := ⟨0, Nat.one_pos⟩
  [.other .stop none none, .other .stop none none, .other .stop none none,
    .other .stop none none, .io worker, .other .stop none none, .other .stop none none,
    .owner worker, .other .stop none none, .other .stop none none, .ownerBlock worker]

/-- **An owner sleeps through `Stop`**, and no continuation of the run wakes it. -/
theorem owner_sleeps_through_stop :
    ∃ s : WakeState Unit 1 1, (wakeSystem Unit 1 1).Reachable s ∧
      s.loop.stop = .ownersNotified ∧ s.ownerWait 0 = .blocked false ∧
      ∀ t, (wakeSystem Unit 1 1).Reaches s t → t.ownerWait 0 = .blocked false := by
  obtain ⟨s, reachable, check⟩ := (wakeSystem Unit 1 1).exists_of_run lostWakeupSchedule
    (fun s => decide (s.loop.stop = .ownersNotified) && decide (s.ownerWait 0 = .blocked false))
    (by decide)
  simp only [Bool.and_eq_true, decide_eq_true_eq] at check
  obtain ⟨phase, blocked⟩ := check
  have late : 8 ≤ s.loop.stop.rank := by rw [phase]; decide
  exact ⟨s, reachable, phase, blocked, fun t later => blocked_forever reachable late blocked later⟩

end OnlineJudge.EventLoop
