import OnlineJudge.Library.Tally
import OnlineJudge.EventLoop.TaskView

/-!
# The invariants of one task

Facts about the view of a task, each kept by every `TaskStep`, collected in `TaskInv`.
-/

namespace OnlineJudge.EventLoop

open TaskView Option StopPhase CoTask PendingEntry

variable {ω : Type} {n m : Nat} {v w : TaskView ω n m}

/-! ## Flags -/

/-- The atomic flags of the loop follow the progress of `Stop`. -/
structure Phases (v : TaskView ω n m) : Prop where
  acceptingIo : v.acceptingIo = decide (v.stop.rank < 1)
  running : v.running = decide (v.stop.rank < 2)
  stopOwners : v.stopOwners = decide (7 ≤ v.stop.rank)

theorem Phases.step (inv : Phases v) (step : TaskStep v w) : Phases w := by
  obtain ⟨acceptingIo, running, stopOwners⟩ := inv
  cases step with
  | stopAccepting phase =>
    rw [phase] at running stopOwners
    exact ⟨rfl, running, stopOwners⟩
  | stopRunning phase =>
    rw [phase] at acceptingIo stopOwners
    exact ⟨acceptingIo, rfl, stopOwners⟩
  | stopOwners phase =>
    rw [phase] at acceptingIo running
    exact ⟨acceptingIo, running, rfl⟩
  | stopSwap phase | stopIoNotify phase | stopJoinIo phase | stopSweep phase | stopNotify phase
  | stopJoin phase =>
    rw [phase] at acceptingIo running stopOwners
    exact ⟨acceptingIo, running, stopOwners⟩
  | _ => exact ⟨acceptingIo, running, stopOwners⟩

namespace Phases

variable (phases : Phases v)
include phases

theorem rank_of_accepting (accepting : v.acceptingIo = true) : v.stop.rank < 1 := by
  simpa [phases.acceptingIo] using accepting

theorem rank_of_running (isRunning : v.running = true) : v.stop.rank < 2 := by
  simpa [phases.running] using isRunning

theorem rank_of_stopped (stopped : v.running = false) : 2 ≤ v.stop.rank := by
  rw [phases.running, decide_eq_false_iff_not] at stopped
  exact Nat.le_of_not_lt stopped

theorem rank_of_stopOwners (stopping : v.stopOwners = true) : 7 ≤ v.stop.rank := by
  simpa [phases.stopOwners] using stopping

end Phases

/-! ## The progress of `Stop` -/

/-- What the phases of `Stop` leave behind, from the phase on in which they are
done. -/
structure Shutdown (v : TaskView ω n m) : Prop where
  swapped : 3 ≤ v.stop.rank → v.queued = []
  ioExited : ∀ worker, v.ioRole worker = .exited → 2 ≤ v.stop.rank
  ioJoined : 5 ≤ v.stop.rank → ∀ worker, v.ioRole worker = .exited
  swept : 6 ≤ v.stop.rank → ∀ e, v.entry = some e → e.cancelRequested = true ∧ e.ioInFlight = false
  ownerExited : ∀ owner, v.role owner = .exited → 7 ≤ v.stop.rank ∧ v.listed = false
  ownersJoined : 9 ≤ v.stop.rank → ∀ owner, v.role owner = .exited

variable {role : Role}

theorem TaskView.role_of_setRole {owner i : Fin n} {r : Role}
    (eq : (v.setRole owner role).role i = r) : i = owner ∧ role = r ∨ i ≠ owner ∧ v.role i = r := by
  by_cases same : i = owner
  · subst same
    exact .inl ⟨rfl, by simpa [TaskView.setRole] using eq⟩
  · exact .inr ⟨same, by simpa [TaskView.setRole, same] using eq⟩

theorem TaskView.ioRole_of_setIoRole {worker i : Fin m} {role r : IoRole}
    (eq : (v.setIoRole worker role).ioRole i = r) :
    i = worker ∧ role = r ∨ i ≠ worker ∧ v.ioRole i = r := by
  by_cases same : i = worker
  · subst same
    exact .inl ⟨rfl, by simpa [TaskView.setIoRole] using eq⟩
  · exact .inr ⟨same, by simpa [TaskView.setIoRole, same] using eq⟩

namespace Shutdown

theorem setRole {owner : Fin n} {role : Role} (inv : Shutdown v) (before : v.role owner ≠ .exited)
    (after : role ≠ .exited) : Shutdown (v.setRole owner role) :=
  { inv with
    ownerExited := fun i exited => by
      rcases role_of_setRole exited with ⟨_, same⟩ | ⟨_, exited⟩
      · exact absurd same after
      · exact inv.ownerExited i exited
    ownersJoined := fun returned => absurd (inv.ownersJoined returned owner) before }

variable {worker : Fin m} {listed : Bool}

theorem setIoRole {role : IoRole} (inv : Shutdown v) (before : v.ioRole worker ≠ .exited)
    (after : role ≠ .exited) :
    Shutdown (v.setIoRole worker role) :=
  { inv with
    ioExited := fun i exited => by
      rcases ioRole_of_setIoRole exited with ⟨_, same⟩ | ⟨_, exited⟩
      · exact absurd same after
      · exact inv.ioExited i exited
    ioJoined := fun joined => absurd (inv.ioJoined joined worker) before }

theorem setEntry {e e' : PendingEntry ω} (inv : Shutdown v) (present : v.entry = some e)
    (cancel : e.cancelRequested = true → e'.cancelRequested = true)
    (landed : e.ioInFlight = false → e'.ioInFlight = false) : Shutdown (v.setEntry e') :=
  { inv with
    swept := by
      rintro late _ ⟨⟩
      have marks := inv.swept late e present
      exact ⟨cancel marks.1, landed marks.2⟩ }

theorem unlist (inv : Shutdown v) (fewer : listed = true → v.listed = true) :
    Shutdown (v.setListed listed) :=
  { inv with
    ownerExited := fun owner exited => by
      obtain ⟨late, unlisted⟩ := inv.ownerExited owner exited
      refine ⟨late, ?_⟩
      cases listed with
      | false => rfl
      | true => exact absurd (fewer rfl) (by simp [unlisted]) }

theorem relist (inv : Shutdown v) (early : v.stop.rank < 7) : Shutdown (v.setListed listed) :=
  { inv with
    ownerExited := fun owner exited => by
      have late := (inv.ownerExited owner exited).1
      omega }

theorem setQueued {queued : List UInt64} (inv : Shutdown v) (early : v.stop.rank < 3) :
    Shutdown (v.setQueued queued) :=
  { inv with swapped := fun late => absurd late (by simp only [setQueued_stop]; omega) }

/-- `Stop` moves to its next phase, of which `swapped`, `ioJoined`, `swept` and
`ownersJoined` give what that phase has to leave behind. -/
theorem setStop {stop : StopPhase} (inv : Shutdown v) (next : stop.rank = v.stop.rank + 1)
    (swapped : stop.rank = 3 → v.queued = [])
    (ioJoined : stop.rank = 5 → ∀ worker, v.ioRole worker = .exited)
    (swept : stop.rank = 6 → ∀ e, v.entry = some e →
      e.cancelRequested = true ∧ e.ioInFlight = false)
    (ownersJoined : stop.rank = 9 → ∀ owner, v.role owner = .exited) :
    Shutdown (v.setStop stop) where
  swapped late := by
    by_cases now : stop.rank = 3
    · exact swapped now
    · exact inv.swapped (by simp at late; omega)
  ioExited worker exited := by
    have := inv.ioExited worker exited
    simp only [setStop_stop]
    omega
  ioJoined late := by
    by_cases now : stop.rank = 5
    · exact ioJoined now
    · exact inv.ioJoined (by simp at late; omega)
  swept late := by
    by_cases now : stop.rank = 6
    · exact swept now
    · exact inv.swept (by simp at late; omega)
  ownerExited owner exited := by
    have := inv.ownerExited owner exited
    simp only [setStop_stop]
    exact ⟨by omega, this.2⟩
  ownersJoined late := by
    by_cases now : stop.rank = 9
    · exact ownersJoined now
    · exact inv.ownersJoined (by simp at late; omega)

theorem rank_of_holds {generation : UInt64} (inv : Shutdown v)
    (holds : v.ioRole worker = .holds generation) : v.stop.rank < 5 := by
  by_contra late
  have exited := inv.ioJoined (by omega) worker
  rw [holds] at exited
  cases exited

end Shutdown

theorem Shutdown.step (inv : Shutdown v) (phases : Phases v) (step : TaskStep v w) :
    Shutdown w := by
  cases step with
  | stutter => exact inv
  | push body deadline callback isRunning accepting =>
    have early := phases.rank_of_accepting accepting
    exact
      { inv with
        swept := fun late => by dsimp only at late; omega
        ownerExited := (inv.relist (by omega)).ownerExited }
  | markRunning present => exact .setEntry inv present (fun _ => rfl) id
  | markReady present state wanted =>
    have early : v.stop.rank < 6 := by
      by_contra late
      have marks := inv.swept (by omega) _ present
      rw [wanted] at marks
      cases marks.1
    exact .relist (.setEntry inv present (fun _ => rfl) id) (Nat.lt_succ_of_lt early)
  | unlist listed fewer => exact .unlist inv fewer
  | pop owner listed fewer free present =>
    refine .unlist (.setRole (.setEntry inv present id id) (by simp [free]) ?_) fewer
    split <;> simp
  | ownerExit owner free unlisted stopping =>
    have late := phases.rank_of_stopOwners stopping
    exact
      { inv with
        ownerExited := fun i _ => ⟨late, unlisted⟩
        ownersJoined := fun returned => by
          have := inv.ownersJoined returned owner
          rw [free] at this
          cases this }
  | submit owner ioDeadline continuation resuming present accepting =>
    have early := phases.rank_of_accepting accepting
    have moved : Shutdown (v.setRole owner .returning) :=
      .setRole inv (by simp [resuming]) (by simp)
    exact
      { moved with
        swapped := fun late => by simp at late; omega
        swept := fun late => by simp at late; omega }
  | resumeNothing owner busy | coroutineGone owner busy | resumeReturns owner busy
  | postGone owner busy | postContinue owner busy => exact .setRole inv (by simp [busy]) (by simp)
  | resume owner busy present | coroutineDone owner _ busy present
  | takeCancelled owner busy present | takeDone owner busy present
  | finishWaiting owner busy present =>
    exact .setRole (.setEntry inv present id id) (by simp [busy]) (by simp)
  | invokeCancelled owner busy | invokeCompleted owner busy =>
    exact { Shutdown.setRole inv (by simp [busy]) (by simp) with }
  | finishGone owner finishing =>
    refine .setRole inv ?_ (by simp)
    rcases finishing with finishing | finishing <;> simp [finishing]
  | finishErase owner finishing =>
    have moved : Shutdown (v.setRole owner .away) := by
      refine .setRole inv ?_ (by simp)
      rcases finishing with ⟨finishing, _⟩ | finishing <;> simp [finishing]
    exact { moved with swept := fun _ _ none => by cases none }
  | ioTake worker free front isRunning =>
    have early := phases.rank_of_running isRunning
    exact .setQueued (.setIoRole inv (by simp [free]) (by simp)) (by simp; omega)
  | ioExit worker free stopped =>
    have late := phases.rank_of_stopped stopped
    exact
      { inv with
        ioExited := fun _ _ => late
        ioJoined := fun joined => by
          have := inv.ioJoined joined worker
          rw [free] at this
          cases this }
  | ioStale worker holds => exact .setIoRole inv (by simp [holds]) (by simp)
  | ioCancelled worker holds present =>
    have early := inv.rank_of_holds holds
    exact .relist (.setIoRole (.setEntry inv present (fun _ => rfl) (fun _ => rfl))
      (by simp [holds]) (by simp)) (by simp; omega)
  | ioResult worker result holds present =>
    have early := inv.rank_of_holds holds
    exact .relist (.setIoRole (.setEntry inv present id (fun _ => rfl))
      (by simp [holds]) (by simp)) (by simp; omega)
  | stopAccepting phase =>
    have moved : Shutdown (v.setStop .acceptingCleared) :=
      .setStop inv (by simp [phase, rank]) nofun nofun nofun nofun
    exact { moved with }
  | stopRunning phase =>
    have moved : Shutdown (v.setStop .runningCleared) :=
      .setStop inv (by simp [phase, rank]) nofun nofun nofun nofun
    exact { moved with }
  | stopSwap phase =>
    have emptied : Shutdown (v.setQueued []) := { inv with swapped := fun _ => rfl }
    exact .setStop emptied (by simp [phase, rank]) (fun _ => rfl) nofun nofun nofun
  | stopIoNotify phase | stopNotify phase =>
    exact .setStop inv (by simp [phase, rank]) nofun nofun nofun nofun
  | stopJoinIo phase joined =>
    exact .setStop inv (by simp [phase, rank]) nofun (fun _ => joined) nofun nofun
  | stopSweep phase =>
    have early : v.stop.rank < 6 := by simp [phase, rank]
    have marks : ∀ e, v.entry.map cancel = some e →
        e.cancelRequested = true ∧ e.ioInFlight = false := by
      intro e present
      obtain ⟨e', _, rfl⟩ := map_eq_some_iff.mp present
      exact ⟨rfl, rfl⟩
    have marked : Shutdown { v with entry := v.entry.map cancel } :=
      { inv with swept := fun _ => marks }
    exact .setStop (.relist marked (Nat.lt_succ_of_lt early)) (by simp [phase, rank])
      nofun nofun (fun _ => marks) nofun
  | stopOwners phase =>
    have moved : Shutdown (v.setStop .ownersStopped) :=
      .setStop inv (by simp [phase, rank]) nofun nofun nofun nofun
    exact { moved with }
  | stopJoin phase joined =>
    exact .setStop inv (by simp [phase, rank]) nofun nofun nofun (fun _ => joined)

/-! ## Names, entries, jobs -/

structure Fresh (v : TaskView ω n m) : Prop where
  entry : v.entry = none
  queued : v.queued = []
  role : ∀ owner, v.role owner = .away ∨ v.role owner = .exited
  ioRole : ∀ worker generation, v.ioRole worker ≠ .holds generation
  accepted : v.accepted = false
  invoked : v.invoked = 0

/-- The state, the flags and the frame of an entry agree; `listed` says whether
`_ready` has the id. -/
structure Settled (e : PendingEntry ω) (listed : Bool) : Prop where
  ready : e.state = .ready → listed = true
  waiting : e.state = .waiting → e.ioInFlight = true
  parked : e.state ≠ .running → e.task.Suspended
  inFlight : e.ioInFlight = true → e.task.Suspended
  unmarked : e.ioInFlight = true → e.cancelRequested = false → e.state = .waiting

/-- A job of the task, of generation `g`, is in the queue or with a worker. -/
def TaskView.HasJob (v : TaskView ω n m) (g : UInt64) : Prop :=
  g ∈ v.queued ∨ ∃ worker, v.ioRole worker = .holds g

def IoRole.jobs : IoRole → Nat
  | .holds _ => 1
  | .away | .exited => 0

def TaskView.jobs (v : TaskView ω n m) : Nat :=
  v.queued.length + tally IoRole.jobs v.ioRole

/-- The task's jobs: at most one, of the current generation of an entry that
waits for it.  `outstanding` ends with the swap of the queue in `Stop`, which
abandons jobs. -/
structure Jobs (v : TaskView ω n m) : Prop where
  current : ∀ g, v.HasJob g → ∃ e, v.entry = some e ∧ e.ioInFlight = true ∧ e.generation = g
  atMostOne : v.jobs ≤ 1
  outstanding : ∀ e, v.entry = some e → e.ioInFlight = true → v.stop.rank < 3 → v.jobs = 1

/-! ## Owners -/

def Role.drives : Role → Bool
  | .popped | .resuming => true
  | _ => false

def Role.Expects : Role → PendingEntry ω → Prop
  | .popped, e => e.state = .running ∧ e.ioInFlight = false ∧ e.task.Suspended
  | .resuming, e => e.state = .running ∧ e.ioInFlight = false ∧ e.task.point = .executing
  | .completing _, e | .completed _, e => e.task.done = true
  | _, _ => True

/-- The owner will yet move a running entry on: in this role, with the frame in
this state, its way through `OwnerWork` does not end before the entry has left
`Running`. -/
def Role.Attends : Role → CoTask ω → Prop
  | .popped, task => task.Suspended
  | .resuming, task => task.point = .executing
  | .returning, task | .post false, task => task.done = true
  | .post true, _ | .cancelling _, _ | .cancelled _, _ | .completing _, _ | .completed _, _ => True
  | .away, _ | .exited, _ => False

structure Drivers (v : TaskView ω n m) : Prop where
  expects : ∀ e, v.entry = some e → ∀ owner, (v.role owner).Expects e
  unique : ∀ e, v.entry = some e → ∀ i j, (v.role i).drives = true → (v.role j).drives = true →
    i = j
  attended : ∀ e, v.entry = some e → e.state = .running → ∃ owner, (v.role owner).Attends e.task

/-- **The invariant of one task.** -/
structure TaskInv (v : TaskView ω n m) : Prop where
  phases : Phases v
  shutdown : Shutdown v
  fresh : v.used = false → Fresh v
  settled : ∀ e, v.entry = some e → Settled e v.listed
  jobs : Jobs v
  drivers : Drivers v

/-! ## Consequences -/

namespace TaskInv

variable {e : PendingEntry ω} (inv : TaskInv v)
include inv

theorem of_job {g : UInt64} (job : v.HasJob g) (present : v.entry = some e) :
    e.ioInFlight = true ∧ e.generation = g ∧ e.task.Suspended := by
  obtain ⟨e', present', inFlight, generation⟩ := inv.jobs.current g job
  rw [present] at present'
  cases present'
  exact ⟨inFlight, generation, (inv.settled e present).inFlight inFlight⟩

section

variable (present : v.entry = some e)
include present

theorem no_job (landed : e.ioInFlight = false) (g : UInt64) : ¬ v.HasJob g := by
  intro job
  have inFlight := (inv.of_job job present).1
  rw [landed] at inFlight
  cases inFlight

theorem of_not_suspended (awake : ¬ e.task.Suspended) :
    e.state = .running ∧ e.ioInFlight = false := by
  have settled := inv.settled e present
  constructor
  · by_contra other
    exact awake (settled.parked other)
  · by_contra other
    exact awake (settled.inFlight (by simpa using other))

theorem landed_of_done (done : e.task.done = true) : e.ioInFlight = false := by
  refine (inv.of_not_suspended present fun suspended => ?_).2
  rw [not_done_of_suspended suspended] at done
  cases done

theorem no_driver (idle : e.state ≠ .running ∨ e.ioInFlight = true) (owner : Fin n) :
    (v.role owner).drives = false := by
  have expects := inv.drivers.expects e present owner
  cases role : v.role owner with
  | popped | resuming =>
    rw [role] at expects
    rcases idle with idle | idle
    · exact absurd expects.1 idle
    · rw [expects.2.1] at idle
      cases idle
  | _ => rfl

theorem no_other_driver {owner i : Fin n}
    (drives : (v.role owner).drives = true) (ne : i ≠ owner) : (v.role i).drives = false := by
  by_contra other
  exact ne (inv.drivers.unique e present i owner (by simpa using other) drives)

end

end TaskInv

/-! ## Preservation -/

theorem TaskInv.fresh_step (inv : TaskInv v) (step : TaskStep v w) : w.used = false → Fresh w := by
  intro unused
  cases step with
  | push => cases unused
  | stutter => exact inv.fresh unused
  | unlist => exact { inv.fresh unused with }
  | ownerExit owner =>
    have fresh := inv.fresh unused
    exact
      { fresh with
        role := fun i => by
          by_cases same : i = owner
          · subst same; simp
          · simpa [same] using fresh.role i }
  | ioExit =>
    have fresh := inv.fresh unused
    exact
      { fresh with
        ioRole := fun i generation holds => by
          rcases ioRole_of_setIoRole holds with ⟨_, same⟩ | ⟨_, holds⟩
          · cases same
          · exact fresh.ioRole i generation holds }
  | stopAccepting | stopRunning | stopIoNotify | stopJoinIo | stopOwners | stopNotify | stopJoin =>
    exact { inv.fresh unused with }
  | stopSwap => exact { inv.fresh unused with queued := rfl }
  | stopSweep => exact { inv.fresh unused with entry := by simp [(inv.fresh unused).entry] }
  | markRunning present | markReady present | pop _ _ _ _ present =>
    rw [(inv.fresh unused).entry] at present
    cases present
  | resumeNothing owner busy | resume owner busy | submit owner _ _ busy
  | coroutineGone owner busy | coroutineDone owner _ busy | resumeReturns owner busy
  | postGone owner busy | takeCancelled owner busy | takeDone owner busy
  | postContinue owner busy | invokeCancelled owner busy | invokeCompleted owner busy
  | finishWaiting owner busy =>
    have idle := (inv.fresh unused).role owner
    simp [busy] at idle
  | finishGone owner busy =>
    have idle := (inv.fresh unused).role owner
    rcases busy with busy | busy <;> simp [busy] at idle
  | finishErase owner _ present =>
    have idle := (inv.fresh unused).entry
    simp [idle] at present
  | ioTake worker free front =>
    have empty := (inv.fresh unused).queued
    simp [empty] at front
  | ioStale worker holds | ioCancelled worker holds | ioResult worker _ holds =>
    exact absurd holds ((inv.fresh unused).ioRole worker _)

theorem TaskInv.settled_step (inv : TaskInv v) (step : TaskStep v w) :
    ∀ e, w.entry = some e → Settled e w.listed := by
  cases step with
  | push =>
    rintro e ⟨⟩
    exact ⟨fun _ => rfl, nofun, fun _ => trivial, nofun, nofun⟩
  | markRunning present =>
    rintro e ⟨⟩
    exact { inv.settled _ present with unmarked := nofun }
  | markReady present state =>
    rintro e ⟨⟩
    have settled := inv.settled _ present
    exact
      { settled with
        ready := fun _ => rfl
        waiting := nofun
        parked := fun _ => settled.parked state
        unmarked := nofun }
  | unlist listed fewer notReady =>
    intro e present
    exact { inv.settled e present with ready := fun ready => absurd ready (notReady e present) }
  | pop owner listed fewer free present state =>
    rintro e ⟨⟩
    have settled := inv.settled _ present
    exact
      { settled with
        ready := nofun
        waiting := nofun
        parked := fun other => absurd rfl other
        unmarked := fun inFlight wanted => by
          have waiting := settled.unmarked inFlight wanted
          rw [state] at waiting
          cases waiting }
  | resume owner popped present =>
    rintro e ⟨⟩
    obtain ⟨state, landed, _⟩ : Role.Expects .popped _ :=
      popped ▸ inv.drivers.expects _ present owner
    exact
      { inv.settled _ present with
        parked := fun other => absurd state other
        inFlight := fun inFlight => by rw [landed] at inFlight; cases inFlight }
  | submit =>
    rintro e ⟨⟩
    exact ⟨nofun, fun _ => rfl, fun _ => trivial, fun _ => trivial, fun _ _ => rfl⟩
  | coroutineDone owner request resuming present =>
    rintro e ⟨⟩
    obtain ⟨state, landed, _⟩ : Role.Expects .resuming _ :=
      resuming ▸ inv.drivers.expects _ present owner
    exact
      { inv.settled _ present with
        parked := fun other => absurd state other
        inFlight := fun inFlight => by rw [landed] at inFlight; cases inFlight }
  | takeCancelled owner post present | takeDone owner post present =>
    rintro e ⟨⟩
    exact { inv.settled _ present with }
  | finishWaiting owner cancelled present inFlight =>
    rintro e ⟨⟩
    have settled := inv.settled _ present
    exact
      { settled with
        ready := nofun
        waiting := fun _ => inFlight
        parked := fun _ => settled.inFlight inFlight
        unmarked := fun _ _ => rfl }
  | finishErase => rintro e ⟨⟩
  | @ioCancelled worker e holds present =>
    rintro _ ⟨⟩
    have suspended := (inv.of_job (.inr ⟨worker, holds⟩) present).2.2
    exact
      { ready := fun ready => by
          by_cases state : e.state = .running
          · simp [state] at ready
          · simp [state]
        waiting := fun waiting => by split at waiting <;> cases waiting
        parked := fun _ => suspended
        inFlight := nofun
        unmarked := nofun }
  | ioResult worker result holds present =>
    rintro e ⟨⟩
    have suspended := (inv.of_job (.inr ⟨worker, holds⟩) present).2.2
    exact ⟨fun _ => rfl, nofun, fun _ => suspended, nofun, nofun⟩
  | stopSweep =>
    intro e present
    obtain ⟨e', present', rfl⟩ := map_eq_some_iff.mp present
    have settled := inv.settled e' present'
    exact
      { ready := fun ready => by
          by_cases state : e'.state = .running
          · simp [cancel, state] at ready
          · simp [present', state]
        waiting := fun waiting => by
          simp only [cancel] at waiting
          split at waiting <;> cases waiting
        parked := fun parked =>
          settled.parked fun state => parked (by simp [cancel, state])
        inFlight := nofun
        unmarked := nofun }
  | _ => exact inv.settled

theorem TaskView.jobs_eq_zero_iff : v.jobs = 0 ↔ ∀ g, ¬ v.HasJob g := by
  constructor
  · rintro zero g (queued | ⟨worker, holds⟩)
    · have empty : v.queued = [] :=
        List.eq_nil_of_length_eq_zero (Nat.eq_zero_of_add_eq_zero_right zero)
      simp [empty] at queued
    · have idle := tally_eq_zero_iff.mp (Nat.eq_zero_of_add_eq_zero_left zero) worker
      simp [holds, IoRole.jobs] at idle
  · intro none
    have empty : v.queued = [] :=
      List.eq_nil_iff_forall_not_mem.mpr fun g queued => none g (.inl queued)
    have idle : tally IoRole.jobs v.ioRole = 0 := by
      refine tally_eq_zero_iff.mpr fun worker => ?_
      cases role : v.ioRole worker with
      | holds g => exact absurd (.inr ⟨worker, role⟩) (none g)
      | away | exited => rfl
    simp [TaskView.jobs, empty, idle]

namespace Jobs

theorem of_none (none : ∀ g, ¬ v.HasJob g) (landed : ∀ e, v.entry = some e → e.ioInFlight = false) :
    Jobs v where
  current g job := absurd job (none g)
  atMostOne := by rw [jobs_eq_zero_iff.mpr none]; exact Nat.zero_le 1
  outstanding e present inFlight := by
    rw [landed e present] at inFlight
    cases inFlight

theorem setEntry {e e' : PendingEntry ω} (inv : Jobs v) (present : v.entry = some e)
    (inFlight : e'.ioInFlight = e.ioInFlight) (generation : e'.generation = e.generation) :
    Jobs (v.setEntry e') where
  current g job := by
    obtain ⟨e₀, present₀, flag, current⟩ := inv.current g job
    rw [present] at present₀
    cases present₀
    exact ⟨e', rfl, inFlight.trans flag, generation.trans current⟩
  atMostOne := inv.atMostOne
  outstanding := by
    rintro _ ⟨⟩ flag early
    exact inv.outstanding e present (inFlight ▸ flag) early

theorem setRole {owner : Fin n} {role : Role} (inv : Jobs v) : Jobs (v.setRole owner role) :=
  { inv with }

theorem setListed {listed : Bool} (inv : Jobs v) : Jobs (v.setListed listed) :=
  { inv with }

theorem no_job_of_release {worker : Fin m} {g : UInt64} (inv : Jobs v)
    (holds : v.ioRole worker = .holds g) (g' : UInt64) :
    ¬ (v.setIoRole worker .away).HasJob g' := by
  have moved : tally IoRole.jobs (v.setIoRole worker .away).ioRole + _ = _ :=
    tally_update IoRole.jobs v.ioRole worker .away
  have one := inv.atMostOne
  simp only [holds, IoRole.jobs, TaskView.jobs] at moved one
  refine jobs_eq_zero_iff.mp ?_ g'
  simp only [TaskView.jobs, setIoRole_queued]
  omega

theorem setStop {stop : StopPhase} (inv : Jobs v) (later : v.stop.rank ≤ stop.rank) :
    Jobs (v.setStop stop) :=
  { inv with
    outstanding := fun e present inFlight early =>
      inv.outstanding e present inFlight (Nat.lt_of_le_of_lt later early) }

end Jobs

theorem TaskInv.jobs_step (inv : TaskInv v) (step : TaskStep v w) : Jobs w := by
  have jobs := inv.jobs
  cases step with
  | stutter => exact jobs
  | push body deadline callback isRunning accepting absent fresh =>
    have nothing := inv.fresh fresh
    refine .of_none ?_ (by rintro e ⟨⟩; rfl)
    rintro g (queued | ⟨worker, holds⟩)
    · simp [nothing.queued] at queued
    · exact nothing.ioRole worker g holds
  | markRunning present => exact .setEntry jobs present rfl rfl
  | markReady present => exact .setListed (.setEntry jobs present rfl rfl)
  | unlist => exact .setListed jobs
  | pop owner listed fewer free present =>
    exact .setListed (.setRole (.setEntry jobs present rfl rfl))
  | resume owner _ present | coroutineDone owner _ _ present | takeCancelled owner _ present
  | takeDone owner _ present | finishWaiting owner _ present =>
    exact .setRole (.setEntry jobs present rfl rfl)
  | ownerExit | resumeNothing | coroutineGone | resumeReturns | postGone | postContinue
  | finishGone => exact .setRole jobs
  | invokeCancelled | invokeCompleted => exact { jobs with }
  | @submit owner e ioDeadline continuation resuming present =>
    obtain ⟨_, landed, _⟩ : Role.Expects .resuming _ :=
      resuming ▸ inv.drivers.expects _ present owner
    have none := inv.no_job present landed
    have total : (v.queued ++ [e.generation + 1]).length + tally IoRole.jobs v.ioRole = 1 := by
      have zero := jobs_eq_zero_iff.mpr none
      rw [TaskView.jobs] at zero
      rw [List.length_append, List.length_singleton]
      omega
    refine ⟨?_, Nat.le_of_eq total, fun _ _ _ _ => total⟩
    rintro g (queued | held)
    · rcases List.mem_append.mp queued with queued | queued
      · exact absurd (.inl queued) (none g)
      · exact ⟨_, rfl, rfl, (List.mem_singleton.mp queued).symm⟩
    · exact absurd (.inr held) (none g)
  | finishErase owner finishing present =>
    have none : ∀ g, ¬ v.HasJob g := by
      rcases finishing with ⟨_, landed⟩ | completed
      · exact inv.no_job present landed
      have done : Role.Expects (.completed _) _ :=
        completed ▸ inv.drivers.expects _ present owner
      exact inv.no_job present (inv.landed_of_done present done)
    exact .of_none none (by rintro e ⟨⟩)
  | @ioTake worker generation rest free front =>
    have total : rest.length +
        tally IoRole.jobs (Function.update v.ioRole worker (.holds generation)) = v.jobs := by
      have moved := tally_update IoRole.jobs v.ioRole worker (.holds generation)
      simp only [free, IoRole.jobs] at moved
      rw [TaskView.jobs, front, List.length_cons]
      omega
    refine ⟨?_, Nat.le_trans (Nat.le_of_eq total) jobs.atMostOne, fun e present inFlight early =>
      total.trans (jobs.outstanding e present inFlight early)⟩
    rintro g (queued | ⟨i, holds⟩)
    · exact jobs.current g (.inl (by rw [front]; exact List.mem_cons_of_mem _ queued))
    rcases ioRole_of_setIoRole holds with ⟨_, same⟩ | ⟨_, holds⟩
    · cases same
      exact jobs.current _ (.inl (by rw [front]; exact List.mem_cons_self))
    · exact jobs.current g (.inr ⟨i, holds⟩)
  | ioExit worker free =>
    have total : v.queued.length + tally IoRole.jobs (Function.update v.ioRole worker .exited) =
        v.jobs := by
      rw [tally_update_of_eq (by simp [free, IoRole.jobs]), TaskView.jobs]
    refine ⟨?_, Nat.le_trans (Nat.le_of_eq total) jobs.atMostOne, fun e present inFlight early =>
      total.trans (jobs.outstanding e present inFlight early)⟩
    rintro g (queued | ⟨i, holds⟩)
    · exact jobs.current g (.inl queued)
    rcases ioRole_of_setIoRole holds with ⟨_, same⟩ | ⟨_, holds⟩
    · cases same
    · exact jobs.current g (.inr ⟨i, holds⟩)
  | ioStale worker holds stale =>
    obtain ⟨e, present, _, generation⟩ := jobs.current _ (.inr ⟨worker, holds⟩)
    exact absurd generation (stale e present)
  | ioCancelled worker holds | ioResult worker result holds =>
    exact .of_none (jobs.no_job_of_release holds) (by rintro e ⟨⟩; rfl)
  | stopAccepting phase =>
    have moved : Jobs (v.setStop .acceptingCleared) :=
      .setStop jobs (by simp [phase, rank])
    exact { moved with }
  | stopRunning phase =>
    have moved : Jobs (v.setStop .runningCleared) :=
      .setStop jobs (by simp [phase, rank])
    exact { moved with }
  | stopOwners phase =>
    have moved : Jobs (v.setStop .ownersStopped) :=
      .setStop jobs (by simp [phase, rank])
    exact { moved with }
  | stopIoNotify phase | stopJoinIo phase | stopNotify phase | stopJoin phase =>
    exact .setStop jobs (by simp [phase, rank])
  | stopSwap =>
    refine ⟨?_, ?_, fun e present inFlight early => absurd early (by simp [rank])⟩
    · rintro g (queued | held)
      · cases queued
      · exact jobs.current g (.inr held)
    · exact Nat.le_trans (Nat.add_le_add_right (Nat.zero_le _) _) jobs.atMostOne
  | stopSweep phase =>
    have late : 5 ≤ v.stop.rank := by simp [phase, rank]
    refine .of_none ?_ ?_
    · rintro g (queued | ⟨worker, holds⟩)
      · rw [show _ = [] from inv.shutdown.swapped (by omega)] at queued
        cases queued
      · rw [show _ = IoRole.exited from inv.shutdown.ioJoined late worker] at holds
        cases holds
    · intro e present
      obtain ⟨e', _, rfl⟩ := map_eq_some_iff.mp present
      rfl

theorem Role.Expects.of_not_done {e e' : PendingEntry ω} (expects : role.Expects e)
    (idle : role.drives = false) (notDone : e.task.done = false) :
    role.Expects e' := by
  cases role with
  | popped | resuming => cases idle
  | completing callback | completed callback =>
    rw [show _ = true from expects] at notDone
    cases notDone
  | _ => trivial

theorem Role.Expects.congr {e e' : PendingEntry ω} (expects : role.Expects e)
    (state : e'.state = e.state) (inFlight : e'.ioInFlight = e.ioInFlight)
    (point : e'.task.point = e.task.point) : role.Expects e' := by
  cases role <;> simp only [Role.Expects, CoTask.Suspended, done] at * <;>
    simp only [state, inFlight, point, expects, and_self]

theorem Role.Attends.congr {task task' : CoTask ω} (attends : role.Attends task)
    (point : task'.point = task.point) : role.Attends task' := by
  cases role with
  | popped => simpa only [Role.Attends, CoTask.Suspended, point] using attends
  | resuming => exact point.trans attends
  | returning => simpa only [Role.Attends, done, point] using attends
  | post stopping =>
    cases stopping with
    | false => simpa only [Role.Attends, done, point] using attends
    | true => trivial
  | away | exited => exact attends
  | _ => trivial

namespace Drivers

theorem of_none (absent : v.entry = none) : Drivers v where
  expects e present := by rw [absent] at present; cases present
  unique e present := by rw [absent] at present; cases present
  attended e present := by rw [absent] at present; cases present

variable {e' : PendingEntry ω}

theorem setEntry {e : PendingEntry ω} (inv : Drivers v) (present : v.entry = some e)
    (state : e'.state = e.state) (inFlight : e'.ioInFlight = e.ioInFlight)
    (point : e'.task.point = e.task.point) : Drivers (v.setEntry e') where
  expects := by
    rintro _ ⟨⟩ owner
    exact (inv.expects e present owner).congr state inFlight point
  unique := by
    rintro _ ⟨⟩
    exact inv.unique e present
  attended := by
    rintro _ ⟨⟩ running
    obtain ⟨owner, attends⟩ := inv.attended e present (state ▸ running)
    exact ⟨owner, attends.congr point⟩

variable {owner : Fin n}

/-- An owner moves on without driving the task; if it attended to the task, it
still does. -/
theorem setRole {role : Role} (inv : Drivers v) (idle : role.drives = false)
    (expects : ∀ e, v.entry = some e → role.Expects e)
    (attends : ∀ e, v.entry = some e → (v.role owner).Attends e.task → role.Attends e.task) :
    Drivers (v.setRole owner role) where
  expects e present i := by
    rcases role_of_setRole rfl with ⟨_, same⟩ | ⟨_, same⟩
    · exact same ▸ expects e present
    · exact same ▸ inv.expects e present i
  unique e present i j first second := by
    rcases role_of_setRole rfl with ⟨_, same⟩ | ⟨_, same⟩
    · rw [← same, idle] at first
      cases first
    rcases role_of_setRole rfl with ⟨_, same'⟩ | ⟨_, same'⟩
    · rw [← same', idle] at second
      cases second
    exact inv.unique e present i j (same ▸ first) (same' ▸ second)
  attended e present running := by
    obtain ⟨i, attended⟩ := inv.attended e present running
    by_cases same : i = owner
    · subst same
      exact ⟨i, by simpa using attends e present attended⟩
    · exact ⟨i, by simpa [same] using attended⟩

theorem replace {e : PendingEntry ω} {role : Role} (inv : Drivers v) (present : v.entry = some e)
    (notDone : e.task.done = false) (others : ∀ i, i ≠ owner → (v.role i).drives = false)
    (expects : role.Expects e') (attends : e'.state = .running → role.Attends e'.task) :
    Drivers ((v.setEntry e').setRole owner role) where
  expects := by
    rintro _ ⟨⟩ i
    rcases role_of_setRole rfl with ⟨_, same⟩ | ⟨ne, same⟩
    · exact same ▸ expects
    · exact same ▸ (inv.expects e present i).of_not_done (others i ne) notDone
  unique := by
    have only : ∀ i, (((v.setEntry e').setRole owner role).role i).drives = true → i = owner := by
      intro i drives
      by_contra ne
      have := others i ne
      simp_all
    intro _ _ i j first second
    exact (only i first).trans (only j second).symm
  attended := by
    rintro _ ⟨⟩ running
    exact ⟨owner, by simpa using attends running⟩

theorem park {e : PendingEntry ω} (inv : Drivers v) (present : v.entry = some e)
    (notDone : e.task.done = false) (idle : ∀ i, (v.role i).drives = false)
    (attended : e'.state = .running → e.state = .running ∧ e'.task.point = e.task.point) :
    Drivers (v.setEntry e') where
  expects := by
    rintro _ ⟨⟩ i
    exact (inv.expects e present i).of_not_done (idle i) notDone
  unique _ _ i _ first := absurd first (by simp [idle i])
  attended := by
    rintro _ ⟨⟩ running
    obtain ⟨state, point⟩ := attended running
    obtain ⟨owner, attends⟩ := inv.attended e present state
    exact ⟨owner, attends.congr point⟩

theorem setIoRole {worker : Fin m} {role : IoRole} (inv : Drivers v) :
    Drivers (v.setIoRole worker role) :=
  { inv with }

theorem setListed {listed : Bool} (inv : Drivers v) : Drivers (v.setListed listed) :=
  { inv with }

theorem setQueued {queued : List UInt64} (inv : Drivers v) : Drivers (v.setQueued queued) :=
  { inv with }

end Drivers

theorem TaskInv.drivers_step (inv : TaskInv v) (step : TaskStep v w) : Drivers w := by
  have drivers := inv.drivers
  cases step with
  | push body deadline callback isRunning accepting absent fresh =>
    have away := (inv.fresh fresh).role
    refine ⟨?_, ?_, ?_⟩
    · rintro _ ⟨⟩ owner
      rcases away owner with role | role <;> simp [role, Role.Expects]
    · rintro _ ⟨⟩ i j first
      rcases away i with role | role <;> simp [role, Role.drives] at first
    · rintro _ ⟨⟩ running
      cases running
  | markRunning present => exact .setEntry drivers present rfl rfl rfl
  | markReady present state =>
    have suspended := (inv.settled _ present).parked state
    exact .setListed (.park drivers present (not_done_of_suspended suspended)
      (inv.no_driver present (.inl state)) nofun)
  | unlist => exact .setListed drivers
  | @pop owner e listed fewer free present state =>
    have settled := inv.settled e present
    have suspended := settled.parked (by simp [state])
    refine .setListed (.replace drivers present (not_done_of_suspended suspended)
      (fun i _ => inv.no_driver present (.inl (by simp [state])) i) ?_ ?_)
    · split
      case isTrue => trivial
      case isFalse keep =>
        have wanted : e.cancelRequested = false := by simp_all
        refine ⟨rfl, ?_, suspended⟩
        by_contra inFlight
        have waiting := settled.unmarked (by simpa using inFlight) wanted
        rw [state] at waiting
        cases waiting
    · intro _
      split
      case isTrue => trivial
      case isFalse => exact suspended
  | ownerExit owner free =>
    exact .setRole drivers rfl (fun _ _ => trivial) (fun _ _ attends => by
      rw [free] at attends
      exact attends)
  | resumeNothing owner popped nothing =>
    have absent : v.entry = none := by
      cases present : v.entry with
      | none => rfl
      | some e =>
        have expects : Role.Expects .popped e := popped ▸ drivers.expects e present owner
        exact absurd expects.2.2 (nothing e present)
    exact .of_none absent
  | resume owner popped present suspended =>
    obtain ⟨state, landed, _⟩ : Role.Expects .popped _ := popped ▸ drivers.expects _ present owner
    exact .replace drivers present (not_done_of_suspended suspended)
      (fun i => inv.no_other_driver present (by simp [popped, Role.drives]))
      ⟨state, landed, rfl⟩ (fun _ => rfl)
  | submit owner ioDeadline continuation resuming present =>
    obtain ⟨_, _, executing⟩ : Role.Expects .resuming _ :=
      resuming ▸ drivers.expects _ present owner
    exact .setQueued (.replace drivers present (not_done_of_executing executing)
      (fun i => inv.no_other_driver present (by simp [resuming, Role.drives])) trivial nofun)
  | coroutineGone owner resuming absent | postGone owner post absent
  | finishGone owner finishing absent => exact .of_none absent
  | coroutineDone owner request resuming present =>
    obtain ⟨_, _, executing⟩ : Role.Expects .resuming _ :=
      resuming ▸ drivers.expects _ present owner
    exact .replace drivers present (not_done_of_executing executing)
      (fun i => inv.no_other_driver present (by simp [resuming, Role.drives])) trivial
      (fun _ => rfl)
  | resumeReturns owner returning =>
    exact .setRole drivers rfl (fun _ _ => trivial) (fun _ _ attends => by
      rw [returning] at attends
      exact attends)
  | takeCancelled owner post present =>
    exact .setRole (.setEntry drivers present rfl rfl rfl) rfl (fun _ _ => trivial)
      (fun _ _ _ => trivial)
  | takeDone owner post present wanted done =>
    refine .setRole (.setEntry drivers present rfl rfl rfl) rfl ?_ (fun _ _ _ => trivial)
    rintro _ ⟨⟩
    exact done
  | postContinue owner post present wanted notDone =>
    refine .setRole drivers rfl (fun _ _ => trivial) ?_
    intro e present' attends
    rw [present] at present'
    cases present'
    rw [post] at attends
    rw [show _ = true from attends] at notDone
    cases notDone
  | @invokeCancelled owner callback =>
    have moved : Drivers (v.setRole owner (.cancelled callback)) :=
      .setRole drivers rfl (fun _ _ => trivial) (fun _ _ _ => trivial)
    exact { moved with }
  | @invokeCompleted owner callback completing =>
    have moved : Drivers (v.setRole owner (.completed callback)) := by
      refine .setRole drivers rfl (fun e present => ?_) (fun _ _ _ => trivial)
      have expects := drivers.expects e present owner
      rw [completing] at expects
      exact expects
    exact { moved with }
  | finishWaiting owner cancelled present inFlight =>
    have suspended := (inv.settled _ present).inFlight inFlight
    exact .replace drivers present (not_done_of_suspended suspended)
      (fun i _ => inv.no_driver present (.inr inFlight) i) trivial nofun
  | finishErase => exact .of_none rfl
  | ioStale => exact .setIoRole drivers
  | ioCancelled worker holds present =>
    obtain ⟨inFlight, _, suspended⟩ := inv.of_job (.inr ⟨worker, holds⟩) present
    refine .setListed (.setIoRole (.park drivers present
      (not_done_of_suspended suspended) (inv.no_driver present (.inr inFlight)) ?_))
    intro running
    refine ⟨?_, rfl⟩
    by_contra state
    simp [state] at running
  | ioResult worker result holds present =>
    obtain ⟨inFlight, _, suspended⟩ := inv.of_job (.inr ⟨worker, holds⟩) present
    exact .setListed (.setIoRole (.park drivers present
      (not_done_of_suspended suspended) (inv.no_driver present (.inr inFlight)) nofun))
  | stopSweep =>
    refine ⟨?_, ?_, ?_⟩
    · intro e present owner
      obtain ⟨e', present', rfl⟩ := map_eq_some_iff.mp present
      have expects := drivers.expects e' present' owner
      cases role : v.role owner with
      | popped | resuming =>
        rw [role] at expects
        exact ⟨by simp [cancel, expects.1], rfl, expects.2.2⟩
      | completing | completed =>
        rw [role] at expects
        exact expects
      | _ => trivial
    · intro e present
      obtain ⟨e', present', rfl⟩ := map_eq_some_iff.mp present
      exact drivers.unique e' present'
    · intro e present running
      obtain ⟨e', present', rfl⟩ := map_eq_some_iff.mp present
      refine drivers.attended e' present' ?_
      by_contra state
      simp [cancel, state] at running
  | _ => exact { drivers with }

theorem TaskInv.step (inv : TaskInv v) (step : TaskStep v w) : TaskInv w where
  phases := inv.phases.step step
  shutdown := inv.shutdown.step inv.phases step
  fresh := inv.fresh_step step
  settled := inv.settled_step step
  jobs := inv.jobs_step step
  drivers := inv.drivers_step step

theorem TaskInv.steps (inv : TaskInv v) (steps : Relation.ReflTransGen TaskStep v w) :
    TaskInv w := by
  induction steps with
  | refl => exact inv
  | tail _ step ih => exact ih.step step

/-! ## Reachable states -/

theorem TaskInv.initial (taskId : TaskId) : TaskInv (view (system ω n m).initial taskId) := by
  have absent : (view (system ω n m).initial taskId).entry = none := by simp [system]
  have idle : ∀ g, ¬ (view (system ω n m).initial taskId).HasJob g := by
    rintro g (queued | ⟨worker, holds⟩)
    · cases queued
    · cases holds
  exact
    { phases := ⟨rfl, rfl, rfl⟩
      shutdown := ⟨nofun, nofun, nofun, nofun, nofun, nofun⟩
      fresh := fun _ =>
        ⟨absent, rfl, fun _ => .inl rfl, fun worker g holds => idle g (.inr ⟨worker, holds⟩), rfl,
          rfl⟩
      settled := fun e present => by rw [absent] at present; cases present
      jobs := .of_none idle fun e present => by rw [absent] at present; cases present
      drivers := .of_none absent }

/-- **The invariant of every task holds in every reachable state.** -/
theorem TaskInv.of_reachable {s : LoopState ω n m} (reachable : (system ω n m).Reachable s)
    (taskId : TaskId) : TaskInv (view s taskId) := by
  refine TransitionSystem.Reachable.induct (P := fun s => TaskInv (view s taskId)) reachable
    (TaskInv.initial taskId) ?_
  intro t u action _ taken inv
  exact inv.steps (step_view taken taskId)

end OnlineJudge.EventLoop
