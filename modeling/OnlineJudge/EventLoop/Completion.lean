import OnlineJudge.EventLoop.Invariant

/-!
# Every callback is called exactly once

The callback of an accepted task is in the promise of its frame, in the hands of an owner, or has
been called.
-/

namespace OnlineJudge.EventLoop

open TaskView

variable {ω : Type} {n m : Nat} {v w : TaskView ω n m}

def Role.callbacks : Role → Nat
  | .cancelling callback | .completing callback => callback.toNat
  | _ => 0

def Role.tookCallback : Role → Bool
  | .cancelling _ | .cancelled _ | .completing _ | .completed _ => true
  | _ => false

def promised (entry : Option (PendingEntry ω)) : Nat :=
  entry.elim 0 fun e => e.task.cb.toNat

def TaskView.callbacks (v : TaskView ω n m) : Nat :=
  promised v.entry + tally Role.callbacks v.role + v.invoked

structure Callback (v : TaskView ω n m) : Prop where
  conserved : v.callbacks = v.accepted.toNat
  taken : ∀ owner e, (v.role owner).tookCallback = true → v.entry = some e → e.task.cb = false

theorem TaskView.callbacks_setRole (v : TaskView ω n m) (owner : Fin n) (role : Role) :
    (v.setRole owner role).callbacks + (v.role owner).callbacks =
      v.callbacks + role.callbacks := by
  have moved := tally_update Role.callbacks v.role owner role
  change promised v.entry + tally Role.callbacks (Function.update v.role owner role) + v.invoked
    + _ = promised v.entry + tally Role.callbacks v.role + v.invoked + _
  omega

namespace Callback

variable {owner : Fin n} {role : Role}

theorem setRole (inv : Callback v)
    (before : (v.role owner).callbacks = 0) (after : role.callbacks = 0)
    (took : role.tookCallback = true → (v.role owner).tookCallback = true) :
    Callback (v.setRole owner role) where
  conserved := by
    have moved := v.callbacks_setRole owner role
    have same := inv.conserved
    rw [setRole_accepted]
    omega
  taken i e tookIt present := by
    by_cases same : i = owner
    · subst same
      exact inv.taken i e (took (by simpa using tookIt)) present
    · exact inv.taken i e (by simpa [same] using tookIt) present

theorem setEntry {e e' : PendingEntry ω} (inv : Callback v) (present : v.entry = some e)
    (same : e'.task.cb = e.task.cb) : Callback (v.setEntry e') where
  conserved := by
    refine Eq.trans ?_ inv.conserved
    simp only [callbacks, promised, setEntry_entry, setEntry_invoked, present, Option.elim_some,
      same]
    rfl
  taken := by
    rintro i _ tookIt ⟨⟩
    rw [same]
    exact inv.taken i e tookIt present

theorem setListed {listed : Bool} (inv : Callback v) : Callback (v.setListed listed) :=
  { inv with }

theorem setQueued {queued : List UInt64} (inv : Callback v) : Callback (v.setQueued queued) :=
  { inv with }

theorem setIoRole {worker : Fin m} {role : IoRole} (inv : Callback v) :
    Callback (v.setIoRole worker role) :=
  { inv with }

theorem take {e : PendingEntry ω} (inv : Callback v) (present : v.entry = some e)
    (before : (v.role owner).callbacks = 0) (after : role.callbacks = e.task.cb.toNat) :
    Callback ((v.setEntry { e with task := { e.task with cb := false } }).setRole owner role) where
  conserved := by
    have moved := tally_update Role.callbacks v.role owner role
    have same : promised v.entry + tally Role.callbacks v.role + v.invoked = v.accepted.toNat :=
      inv.conserved
    rw [present] at same
    change e.task.cb.toNat + _ + _ = _ at same
    change 0 + tally Role.callbacks (Function.update v.role owner role) + v.invoked = _
    rw [setRole_accepted, setEntry_accepted]
    omega
  taken := by
    rintro _ _ _ ⟨⟩
    rfl

theorem invoke {calls : Nat} (inv : Callback v) (before : (v.role owner).callbacks = calls)
    (after : role.callbacks = 0) (took : (v.role owner).tookCallback = true) :
    Callback ((v.setRole owner role).addInvoked calls) where
  conserved := by
    have moved := v.callbacks_setRole owner role
    have same := inv.conserved
    have counted : ((v.setRole owner role).addInvoked calls).callbacks =
        (v.setRole owner role).callbacks + calls := (Nat.add_assoc _ _ _).symm
    rw [addInvoked_accepted, setRole_accepted]
    omega
  taken i e tookIt present := by
    by_cases same : i = owner
    · subst same
      exact inv.taken i e took present
    · exact inv.taken i e (by simpa [same] using tookIt) present

end Callback

theorem Callback.step (callback : Callback v) (inv : TaskInv v) (step : TaskStep v w) :
    Callback w := by
  cases step with
  | stutter => exact callback
  | push body deadline given isRunning accepting absent fresh =>
    have nothing := inv.fresh fresh
    have away : ∀ owner, (v.role owner).callbacks = 0 ∧ (v.role owner).tookCallback = false := by
      intro owner
      rcases nothing.role owner with role | role <;> simp [role, Role.callbacks, Role.tookCallback]
    refine ⟨?_, ?_⟩
    · have none : tally Role.callbacks v.role = 0 := tally_eq_zero_iff.mpr fun i => (away i).1
      change given.toNat + tally Role.callbacks v.role + v.invoked = (given || v.accepted).toNat
      rw [none, nothing.invoked, nothing.accepted, Bool.or_false]
      rfl
    · intro owner e took
      rw [show _ = false from (away owner).2] at took
      cases took
  | markRunning present => exact .setEntry callback present rfl
  | markReady present => exact .setListed (.setEntry callback present rfl)
  | unlist => exact .setListed callback
  | pop owner listed fewer free present =>
    refine .setListed (.setRole (.setEntry callback present rfl) ?_ ?_ ?_)
    · simp [free, Role.callbacks]
    · split <;> rfl
    · split <;> nofun
  | ownerExit owner busy | resumeNothing owner busy | coroutineGone owner busy
  | resumeReturns owner busy | postGone owner busy | postContinue owner busy =>
    exact .setRole callback (by simp [busy, Role.callbacks]) rfl nofun
  | resume owner busy present | coroutineDone owner _ busy present
  | finishWaiting owner busy present =>
    exact .setRole (.setEntry callback present rfl) (by simp [busy, Role.callbacks]) rfl nofun
  | submit owner ioDeadline continuation busy present =>
    exact .setQueued (.setRole (.setEntry callback present rfl) (by simp [busy, Role.callbacks])
      rfl nofun)
  | takeCancelled owner busy present | takeDone owner busy present =>
    exact .take callback present (by simp [busy, Role.callbacks]) rfl
  | invokeCancelled owner busy | invokeCompleted owner busy =>
    exact .invoke callback (by simp [busy, Role.callbacks]) rfl (by simp [busy, Role.tookCallback])
  | finishGone owner finishing =>
    refine .setRole callback ?_ rfl nofun
    rcases finishing with finishing | finishing <;> simp [finishing, Role.callbacks]
  | @finishErase owner given e finishing present =>
    have role : (v.role owner).callbacks = 0 ∧ (v.role owner).tookCallback = true := by
      rcases finishing with ⟨finishing, _⟩ | finishing <;>
        simp [finishing, Role.callbacks, Role.tookCallback]
    have taken := callback.taken owner e role.2 present
    have moved := (Callback.setRole callback role.1 rfl nofun : Callback (v.setRole owner .away))
    refine ⟨?_, by rintro _ _ _ ⟨⟩⟩
    refine Eq.trans ?_ moved.conserved
    change 0 + _ + _ = promised v.entry + _ + _
    rw [present]
    change 0 + _ + _ = e.task.cb.toNat + _ + _
    rw [taken]
    rfl
  | ioTake => exact .setQueued (.setIoRole callback)
  | ioExit | ioStale => exact .setIoRole callback
  | ioCancelled worker holds present | ioResult worker result holds present =>
    exact .setListed (.setIoRole (.setEntry callback present rfl))
  | stopSweep =>
    refine ⟨?_, ?_⟩
    · refine Eq.trans ?_ callback.conserved
      have same : promised (v.entry.map PendingEntry.cancel) = promised v.entry := by
        cases v.entry <;> rfl
      change promised (v.entry.map PendingEntry.cancel) + _ + _ = _
      rw [same]
      rfl
    · intro owner e took present
      obtain ⟨e', present', rfl⟩ := Option.map_eq_some_iff.mp present
      exact callback.taken owner e' took present'
  | _ => exact { callback with }

theorem Callback.steps (callback : Callback v) (inv : TaskInv v)
    (steps : Relation.ReflTransGen TaskStep v w) : Callback w := by
  induction steps with
  | refl => exact callback
  | tail before step ih => exact ih.step (inv.steps before) step

theorem Callback.of_reachable {s : LoopState ω n m} (reachable : (system ω n m).Reachable s)
    (taskId : TaskId) : Callback (view s taskId) := by
  refine TransitionSystem.Reachable.induct (P := fun s => Callback (view s taskId)) reachable ?_ ?_
  · have absent : (view (system ω n m).initial taskId).entry = none := by simp [system]
    have idle : tally Role.callbacks (view (system ω n m).initial taskId).role = 0 :=
      tally_eq_zero_iff.mpr fun _ => rfl
    refine ⟨?_, fun owner e _ present => ?_⟩
    · rw [callbacks, absent, idle]
      rfl
    · rw [absent] at present
      cases present
  · intro t u action before taken callback
    exact callback.steps (TaskInv.of_reachable before taskId) (step_view taken taskId)

theorem no_entry_of_returned {s : LoopState ω n m} (owners : 0 < n)
    (reachable : (system ω n m).Reachable s) (returned : s.stop = .returned) (taskId : TaskId) :
    s.pendings[taskId]? = none := by
  have inv := TaskInv.of_reachable reachable taskId
  have rank : (view s taskId).stop.rank = 9 := by simp [view, returned, StopPhase.rank]
  have exited := inv.shutdown.ownersJoined (by omega)
  cases present : s.pendings[taskId]? with
  | none => rfl
  | some e =>
    exfalso
    have settled := inv.settled e present
    cases state : e.state with
    | ready =>
      have listed := settled.ready state
      rw [(inv.shutdown.ownerExited ⟨0, owners⟩ (exited _)).2] at listed
      cases listed
    | waiting =>
      have inFlight := settled.waiting state
      rw [(inv.shutdown.swept (by omega) e present).2] at inFlight
      cases inFlight
    | running =>
      obtain ⟨owner, attends⟩ := inv.drivers.attended e present state
      rw [exited owner] at attends
      exact attends

/-- **Every callback is called exactly once**: at most once at any time, before its entry is erased,
and exactly once when `Stop` has returned. -/
theorem callback_exactly_once {s : LoopState ω n m} (owners : 0 < n)
    (reachable : (system ω n m).Reachable s) :
    (∀ taskId, s.invoked.count taskId ≤ 1) ∧
    (∀ action t (taskId : TaskId) (e : PendingEntry ω),
      (system ω n m).step s action = some t →
      s.pendings[taskId]? = some e → t.pendings[taskId]? = none → e.task.cb = false) ∧
    (s.stop = .returned → s.pendings.isEmpty = true ∧
      ∀ taskId ∈ s.accepted, s.invoked.count taskId = 1) := by
  refine ⟨fun taskId => ?_, ?_, fun returned => ⟨?_, fun taskId accepted => ?_⟩⟩
  · have conserved := (Callback.of_reachable reachable taskId).conserved
    have most : (view s taskId).accepted.toNat ≤ 1 := Bool.toNat_le _
    have part : (view s taskId).invoked ≤ (view s taskId).callbacks := Nat.le_add_left _ _
    exact Nat.le_trans part (conserved ▸ most)
  · intro action t taskId e taken present erased
    obtain ⟨owner, erases⟩ := step_erased taken present erased
    refine (Callback.of_reachable reachable taskId).taken owner e ?_ present
    rw [view_role]
    cases role : (s.owners owner).role taskId <;> rw [role] at erases <;> first
      | rfl
      | exact erases.elim
  · rw [Std.TreeMap.isEmpty_iff_forall_not_mem]
    intro taskId member
    have absent := no_entry_of_returned owners reachable returned taskId
    simp [Std.TreeMap.mem_iff_isSome_getElem?, absent] at member
  · have inv := TaskInv.of_reachable reachable taskId
    have conserved := (Callback.of_reachable reachable taskId).conserved
    have absent : (view s taskId).entry = none :=
      no_entry_of_returned owners reachable returned taskId
    have exited := inv.shutdown.ownersJoined (by simp [view, returned, StopPhase.rank])
    have idle : tally Role.callbacks (view s taskId).role = 0 :=
      tally_eq_zero_iff.mpr fun owner => by rw [exited owner]; rfl
    rw [callbacks, absent, idle] at conserved
    simpa [promised, view, accepted] using conserved

/-- A task that is pushed and never runs before `Stop` still gets its callback
called. -/
theorem callback_exactly_once_after_stop :
    ∃ s : LoopState Unit 1 1, (system Unit 1 1).Reachable s ∧ s.stop = .returned ∧
      "task" ∈ s.accepted ∧ s.pendings.isEmpty = true ∧ s.invoked.count "task" = 1 := by
  obtain ⟨s, reachable, check⟩ := (system Unit 1 1).exists_of_run
    [.pushNewTask "task" (some (.done none)) 10 true, .stop, .stop, .stop, .stop, .ioTake 0, .stop,
      .stop, .stop, .stop, .ownerSection 0, .postResume 0, .invokeCallback 0, .finish 0,
      .ownerSection 0, .ownerSection 0, .stop]
    (fun s => s.stop = .returned && decide ("task" ∈ s.accepted)) (by decide)
  simp only [Bool.and_eq_true, decide_eq_true_eq] at check
  obtain ⟨returned, accepted⟩ := check
  obtain ⟨empty, once⟩ := (callback_exactly_once (by decide) reachable).2.2 returned
  exact ⟨s, reachable, returned, accepted, empty, once "task" accepted⟩

end OnlineJudge.EventLoop
