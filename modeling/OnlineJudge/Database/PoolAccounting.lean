import OnlineJudge.Database.ConnectionPool
import OnlineJudge.Library.Tally

/-!
# Accounting of the connection pool

`_active_count` is the number of callers that have a connection and of calls that have reserved a
slot, and every connection is idle or in the hands of one of them.
-/

namespace OnlineJudge.Database

open List Pool Caller

variable {n : Nat}

def Caller.has (connection : Connection) (caller : Caller) : Nat :=
  caller.connections.count connection

namespace Pool

def owners (s : Pool n) (connection : Connection) : Nat :=
  s.idleConnections.count connection + tally (has connection) s.callers

def slots (s : Pool n) : Nat := tally holds s.callers + tally reserves s.callers

end Pool

/-- What holds in every state in which `_mtx` is free. -/
structure Accounted (s : Pool n) : Prop where
  active : s.activeCount = s.slots
  bounded : s.activeCount + s.idlePool.length ≤ s.config.maxConnections
  owned : OwnedOnce s.owners s.live
  stopped : s.running = false → s.stopping = false → s.idlePool = []

section Moves

variable {s t : Pool n} {i : Fin n} {caller : Caller}

theorem slots_move (moved : t.callers = Function.update s.callers i caller) :
    t.slots + ((s.callers i).holds + (s.callers i).reserves) =
      s.slots + (caller.holds + caller.reserves) := by
  have holding := tally_update holds s.callers i caller
  have reserving := tally_update reserves s.callers i caller
  simp only [slots, moved]
  omega

/-- The owners of a connection after one caller has moved; `gone` was destroyed. -/
theorem owners_move (moved : t.callers = Function.update s.callers i caller)
    {gone : List Connection} {connection : Connection}
    (passed : t.idleConnections.count connection + caller.connections.count connection +
        gone.count connection =
      s.idleConnections.count connection + (s.callers i).connections.count connection) :
    t.owners connection + gone.count connection = s.owners connection := by
  have having := tally_update (has connection) s.callers i caller
  simp only [owners, moved]
  simp only [has] at having ⊢
  omega

end Moves

namespace Accounted

variable {s t : Pool n} {i : Fin n}

theorem move (accounted : Accounted s) {caller : Caller} (gone : List Connection)
    (moved : t.callers = Function.update s.callers i caller)
    (destroyed : t.live = destroyAll s.live gone)
    (counted : t.activeCount + ((s.callers i).holds + (s.callers i).reserves : Nat) =
      s.activeCount + (caller.holds + caller.reserves : Nat))
    (passed : ∀ connection, t.idleConnections.count connection +
        caller.connections.count connection + gone.count connection =
      s.idleConnections.count connection + (s.callers i).connections.count connection)
    (bounded : t.activeCount + t.idlePool.length ≤ t.config.maxConnections)
    (stopped : t.running = false → t.stopping = false → t.idlePool = []) : Accounted t := by
  refine ⟨?_, bounded, ?_, stopped⟩
  · have slots := slots_move moved
    have active := accounted.active
    omega
  · rw [destroyed]
    exact accounted.owned.destroy fun connection => owners_move moved (passed connection)

theorem destroyAll_nil (live : Connection → Bool) : destroyAll live [] = live := by
  funext connection
  simp [destroyAll]

section

variable (accounted : Accounted s)
include accounted

/-- The caller keeps its slot and its connections. -/
theorem pass {caller : Caller}
    (counted : caller.holds + caller.reserves = (s.callers i).holds + (s.callers i).reserves)
    (kept : caller.connections = (s.callers i).connections) :
    Accounted (s.setCaller i caller) := by
  refine accounted.move [] rfl (destroyAll_nil _).symm ?_ ?_ accounted.bounded accounted.stopped
  · rw [counted]
    rfl
  · intro connection
    rw [kept]
    rfl

theorem active_pos
    (uses : 0 < (s.callers i).holds + (s.callers i).reserves) : 0 < s.activeCount := by
  have holding := le_tally holds s.callers i
  have reserving := le_tally reserves s.callers i
  have active := accounted.active
  simp only [slots] at active
  omega

theorem acquire (step : s.acquire i = some t) : Accounted t := by
  unfold Pool.acquire at step
  split at step <;> [skip; cases step]
  rename_i waiting
  split at step
  · cases step
    exact accounted.pass (by simp [waiting]) (by simp [waiting])
  · rename_i running
    split at step
    · rename_i empty
      split at step <;> [skip; cases step]
      rename_i room
      cases step
      refine accounted.move [] rfl (destroyAll_nil _).symm ?_ ?_ ?_ accounted.stopped
      · simp [waiting]
      · simp [setCaller, idleConnections, waiting]
      · simp only [setCaller, empty, length_nil]
        omega
    · rename_i item rest first
      cases step
      have bounded := accounted.bounded
      rw [first, length_cons] at bounded
      refine accounted.move [] rfl (destroyAll_nil _).symm ?_ ?_ ?_ ?_
      · simp [waiting]
      · intro connection
        simp [idleConnections, waiting, first, count_cons]
      · simp only [setCaller]
        omega
      · intro stopped
        rw [show s.running = false from stopped] at running
        exact absurd rfl running

theorem factory {result : Option Connection} (step : s.factory i result = some t) :
    Accounted t := by
  unfold Pool.factory at step
  split at step <;> [skip; cases step]
  rename_i spare creating
  split at step
  · cases step
    exact accounted.pass (by simp [creating]) (by simp [creating])
  · rename_i connection
    split at step <;> [cases step; skip]
    rename_i fresh
    cases step
    refine ⟨?_, accounted.bounded, ?_, accounted.stopped⟩
    · have slots := slots_move (s := s) (t := s.setCaller i (.settingUp connection spare)) rfl
      have active := accounted.active
      simp only [creating, holds, reserves] at slots
      simp only [setCaller, Pool.slots] at slots active ⊢
      omega
    · refine accounted.owned.create (by simpa using fresh) (nodup_singleton _) ?_
      intro other
      have having := tally_update (has other) s.callers i (.settingUp connection spare)
      have before : (s.callers i).has other = spare.toList.count other := by
        simp [has, creating]
      have after : (settingUp connection spare).has other =
          spare.toList.count other + [connection].count other := by
        simp [has, count_cons]
      simp only [owners, setCaller, idleConnections]
      omega

theorem setup {succeeds : Bool} (step : s.setup i succeeds = some t) : Accounted t := by
  unfold Pool.setup at step
  split at step <;> [skip; cases step]
  rename_i connection spare settingUp
  split at step
  · cases step
    exact accounted.pass (by simp [settingUp]) (by simp [settingUp])
  · cases step
    refine accounted.move [connection] rfl rfl ?_ ?_ accounted.bounded accounted.stopped
    · simp [setCaller, destroy, settingUp]
    · intro other
      simp [setCaller, destroy, idleConnections, settingUp, count_cons]
      omega

theorem check {succeeds : Bool} (step : s.check i succeeds = some t) : Accounted t := by
  unfold Pool.check at step
  split at step <;> [skip; cases step]
  rename_i connection checking
  split at step
  · cases step
    exact accounted.pass (by simp [checking]) (by simp [checking])
  · cases step
    exact accounted.pass (by simp [checking]) (by simp [checking])

theorem afterFailedCheck (step : s.afterFailedCheck i = some t) : Accounted t := by
  unfold Pool.afterFailedCheck at step
  split at step <;> [skip; cases step]
  rename_i connection failed
  split at step
  · cases step
    refine accounted.move [connection] rfl rfl ?_ ?_ ?_ accounted.stopped
    · simp [failed]
    · intro other
      simp [setCaller, destroy, idleConnections, failed]
    · have bounded := accounted.bounded
      simp only [setCaller, destroy]
      omega
  · cases step
    exact accounted.pass (by simp [failed]) (by simp [failed])

theorem finishCheckout (step : s.finishCheckout i = some t) : Accounted t := by
  unfold Pool.finishCheckout at step
  split at step <;> [skip; cases step]
  rename_i connection spare finishing
  split at step
  · cases step
    refine accounted.move spare.toList rfl rfl ?_ ?_ accounted.bounded accounted.stopped
    · simp [setCaller, destroy, finishing]
    · intro other
      simp [setCaller, destroy, idleConnections, finishing, count_cons]
      omega
  · cases step
    refine accounted.move (connection :: spare.toList) rfl rfl ?_ ?_ ?_ accounted.stopped
    · simp [finishing]
    · intro other
      simp [setCaller, destroy, idleConnections, finishing]
    · have bounded := accounted.bounded
      simp only [setCaller, destroy]
      omega

theorem releaseReservation (step : s.releaseReservation i = some t) : Accounted t := by
  unfold Pool.releaseReservation at step
  split at step <;> [skip; cases step]
  rename_i spare releasing
  cases step
  refine accounted.move spare.toList rfl rfl ?_ ?_ ?_ accounted.stopped
  · simp [releasing]
  · intro other
    simp [setCaller, destroy, idleConnections, releasing]
  · have bounded := accounted.bounded
    simp only [setCaller, destroy]
    omega

end

variable {now : Nat}

section

variable (accounted : Accounted s)
include accounted

theorem returnDatabase (step : s.returnDatabase i now = some t) : Accounted t := by
  unfold Pool.returnDatabase at step
  split at step <;> [skip; cases step]
  rename_i connection holding
  have bounded := accounted.bounded
  split at step
  · -- a caller that has a connection counts, so this exit is not taken
    rename_i none_active
    have positive := accounted.active_pos (i := i) (by simp [holding])
    omega
  · split at step
    · rename_i running
      cases step
      refine accounted.move [] rfl (destroyAll_nil _).symm ?_ ?_ ?_ ?_
      · simp [holding]
      · intro other
        simp [idleConnections, holding]
      · simp only [setCaller, length_append, length_singleton]
        omega
      · intro stopped
        rw [show s.running = false from stopped] at running
        cases running
    · cases step
      refine accounted.move [connection] rfl rfl ?_ ?_ ?_ accounted.stopped
      · simp [holding]
      · intro other
        simp [setCaller, destroy, idleConnections, holding]
      · simp only [setCaller, destroy]
        omega

theorem drop (gone : List Connection) (same : t.callers = s.callers)
    (count : t.activeCount = s.activeCount) (destroyed : t.live = destroyAll s.live gone)
    (dropped : ∀ connection, t.idleConnections.count connection + gone.count connection =
      s.idleConnections.count connection)
    (bounded : t.activeCount + t.idlePool.length ≤ t.config.maxConnections)
    (stopped : t.running = false → t.stopping = false → t.idlePool = []) : Accounted t := by
  refine ⟨?_, bounded, ?_, stopped⟩
  · rw [count, accounted.active, slots, slots, same]
  · rw [destroyed]
    refine accounted.owned.destroy fun connection => ?_
    have passed := dropped connection
    simp only [owners, same]
    omega

theorem init {config : ODBPoolConfig} {created : List Connection} {spawned : Bool}
    (limits : config.minConnections ≤ config.maxConnections)
    (step : s.init config created now spawned = some t) : Accounted t := by
  unfold Pool.init at step
  split at step
  · cases step
  rename_i free
  split at step
  · cases step
    exact accounted
  rename_i stopped
  split at step
  · cases step
    exact accounted
  rename_i no_slots
  have no_slots : s.activeCount = 0 := not_not.mp no_slots
  have empty : s.idlePool = [] := accounted.stopped (by simpa using stopped) (by simpa using free)
  split at step
  · cases step
  rename_i fresh
  simp only [Bool.or_eq_true, decide_eq_true_eq, Bool.not_eq_true', not_or, not_lt,
    Bool.not_eq_false, any_eq_true, not_exists, not_and, Bool.not_eq_true] at fresh
  obtain ⟨⟨few, distinct⟩, unused⟩ := fresh
  split at step
  · cases step
    refine ⟨?_, ?_, ?_, ?_⟩
    · exact accounted.active
    · simp only [no_slots, empty, nil_append, length_map]
      omega
    · refine accounted.owned.create unused (by simpa using distinct) fun connection => ?_
      simp only [owners, idleConnections, empty, nil_append, map_map, map_nil, count_nil]
      have same : created.map (Prod.fst ∘ fun connection => (connection, now)) = created :=
        map_id _
      rw [same]
      omega
    · intro running
      cases running
  · cases step
    refine accounted.drop s.idleConnections rfl rfl rfl ?_ ?_ ?_
    · intro connection
      simp [idleConnections]
    · simp [destroy, no_slots]
    · exact fun _ _ => rfl

theorem shutdown (step : s.shutdown = some t) : Accounted t := by
  unfold Pool.shutdown at step
  split at step
  · cases step
  cases step
  exact ⟨accounted.active, accounted.bounded, accounted.owned, nofun⟩

theorem shutdownEnd (step : s.shutdownEnd = some t) : Accounted t := by
  unfold Pool.shutdownEnd at step
  split at step <;> [skip; cases step]
  cases step
  have bounded := accounted.bounded
  refine accounted.drop s.idleConnections rfl rfl rfl ?_ ?_ fun _ _ => rfl
  · intro connection
    simp [idleConnections]
  · simp only [destroy, length_nil]
    omega

end

theorem count_trim (config : ODBPoolConfig) (now retained : Nat)
    (items : List (Connection × Nat)) (connection : Connection) :
    ((trim config now retained items).1.map Prod.fst).count connection +
        (trim config now retained items).2.count connection =
      (items.map Prod.fst).count connection := by
  induction items generalizing retained with
  | nil => rfl
  | cons item rest ih =>
    rw [trim]
    split
    · have later := ih (retained + 1)
      simp only [map_cons, count_cons]
      omega
    · have later := ih retained
      simp only [map_cons, count_cons]
      omega

theorem length_trim_le (config : ODBPoolConfig) (now retained : Nat)
    (items : List (Connection × Nat)) :
    (trim config now retained items).1.length ≤ items.length := by
  induction items generalizing retained with
  | nil => exact Nat.le_refl _
  | cons item rest ih =>
    rw [trim]
    split
    · exact Nat.succ_le_succ (ih (retained + 1))
    · exact (ih retained).trans (Nat.le_succ _)

theorem healthCheck (accounted : Accounted s) (step : s.healthCheck now = some t) :
    Accounted t := by
  unfold Pool.healthCheck at step
  split at step <;> [skip; cases step]
  rename_i looping
  cases step
  have bounded := accounted.bounded
  have fewer := length_trim_le s.config now 0 s.idlePool
  refine accounted.drop ((trim s.config now 0 s.idlePool).2) rfl rfl rfl ?_ ?_ ?_
  · exact count_trim s.config now 0 s.idlePool
  · simp only [destroy]
    omega
  · intro stopped
    rw [show s.running = false from stopped, Bool.and_false] at looping
    cases looping

theorem healthExit (accounted : Accounted s) (step : s.healthExit = some t) : Accounted t := by
  unfold Pool.healthExit at step
  split at step <;> [skip; cases step]
  cases step
  exact ⟨accounted.active, accounted.bounded, accounted.owned, accounted.stopped⟩

theorem getDatabase (accounted : Accounted s) (outside : (s.callers i).outside = true) :
    Accounted (s.setCaller i .waiting) := by
  refine accounted.move [] rfl (destroyAll_nil _).symm ?_ ?_ accounted.bounded accounted.stopped
  · cases at_call : s.callers i <;> simp_all [setCaller, Caller.outside]
  · cases at_call : s.callers i <;>
      simp_all [setCaller, idleConnections, Caller.outside]

theorem step (accounted : Accounted s) {action : PoolAction n} (taken : s.step action = some t) :
    Accounted t := by
  cases action with
  | init config created now spawned =>
    simp only [Pool.step, Bool.or_eq_true, decide_eq_true_eq] at taken
    split at taken
    · cases taken
      exact accounted
    · rename_i limits
      exact accounted.init (by omega) taken
  | shutdown => exact accounted.shutdown taken
  | shutdownEnd => exact accounted.shutdownEnd taken
  | healthCheck => exact accounted.healthCheck taken
  | healthExit => exact accounted.healthExit taken
  | getDatabase i =>
    simp only [Pool.step] at taken
    split at taken
    · cases taken
      exact accounted.getDatabase ‹_›
    · cases taken
  | acquire => exact accounted.acquire taken
  | factory => exact accounted.factory taken
  | setup => exact accounted.setup taken
  | check => exact accounted.check taken
  | afterFailedCheck => exact accounted.afterFailedCheck taken
  | finishCheckout => exact accounted.finishCheckout taken
  | releaseReservation => exact accounted.releaseReservation taken
  | returnDatabase => exact accounted.returnDatabase taken

end Accounted

theorem accounted_of_reachable {s : Pool n} (reachable : (poolSystem n).Reachable s) :
    Accounted s := by
  refine TransitionSystem.Reachable.induct (P := Accounted) reachable ?_ ?_
  · refine ⟨?_, by simp [poolSystem], ?_, fun _ _ => rfl⟩
    · simp [poolSystem, slots, tally]
    · intro connection
      simp [poolSystem, owners, idleConnections, has, tally]
  · intro t u action _ step before
    exact before.step step

theorem Accounted.owner {s : Pool n} (accounted : Accounted s) {connection : Connection}
    (exists_ : s.live connection = true) :
    (connection ∈ s.idleConnections ∧ ∀ i, connection ∉ (s.callers i).connections) ∨
      (connection ∉ s.idleConnections ∧ ∃! i, connection ∈ (s.callers i).connections) := by
  have once := accounted.owned connection
  rw [if_pos exists_, owners] at once
  have has_iff : ∀ i, 0 < (s.callers i).has connection ↔ connection ∈ (s.callers i).connections :=
    fun i => count_pos_iff
  by_cases idle : connection ∈ s.idleConnections
  · left
    refine ⟨idle, fun i mem => ?_⟩
    have counted : 0 < s.idleConnections.count connection := List.count_pos_iff.mpr idle
    have has := (has_iff i).mpr mem
    have all := le_tally (Caller.has connection) s.callers i
    omega
  · right
    have counted : s.idleConnections.count connection = 0 := List.count_eq_zero.mpr idle
    have one : tally (Caller.has connection) s.callers = 1 := by omega
    refine ⟨idle, ?_⟩
    simpa only [has_iff] using existsUnique_of_tally_eq_one one

theorem Accounted.gives_back {s : Pool n} (accounted : Accounted s) {i : Fin n}
    (failed : (s.callers i).failed = true) :
    s.activeCount =
      (∑ j ∈ Finset.univ.erase i, ((s.callers j).holds + (s.callers j).reserves) : Nat) := by
  have nothing : (s.callers i).holds = 0 ∧ (s.callers i).reserves = 0 := by
    cases at_call : s.callers i <;> simp_all [Caller.failed]
  rw [accounted.active, slots, tally_eq_sum_erase nothing.1, tally_eq_sum_erase nothing.2,
    Finset.sum_add_distrib]

/-- **Accounting of the pool**, in every state in which `_mtx` is free. -/
theorem pool_accounting {s : Pool n} (reachable : (poolSystem n).Reachable s) :
    s.activeCount = (tally holds s.callers + tally reserves s.callers : Nat) ∧
    s.activeCount + s.idlePool.length ≤ s.config.maxConnections ∧
    (∀ connection, s.live connection = true →
      (connection ∈ s.idleConnections ∧ ∀ i, connection ∉ (s.callers i).connections) ∨
        (connection ∉ s.idleConnections ∧ ∃! i, connection ∈ (s.callers i).connections)) ∧
    (∀ i, (s.callers i).failed = true →
      s.activeCount =
        (∑ j ∈ Finset.univ.erase i, ((s.callers j).holds + (s.callers j).reserves) : Nat)) := by
  have accounted := accounted_of_reachable reachable
  exact ⟨accounted.active, accounted.bounded, fun connection => accounted.owner,
    fun i => accounted.gives_back⟩

theorem pool_accounting_after_shutdown :
    ∃ s : Pool 2, (poolSystem 2).Reachable s ∧
      (s.callers 0 = .holding 7 ∧ s.callers 1 = .null ∧ s.live 7 = true) ∧
      tally holds s.callers + tally reserves s.callers = 1 ∧
      ((7 ∈ s.idleConnections ∧ ∀ i, 7 ∉ (s.callers i).connections) ∨
        (7 ∉ s.idleConnections ∧ ∃! i, 7 ∈ (s.callers i).connections)) := by
  obtain ⟨s, reached, checked⟩ := (poolSystem 2).exists_of_run
    [.init {} [7, 8] 0 true, .getDatabase 0, .acquire 0, .check 0 true, .finishCheckout 0,
      .getDatabase 1, .acquire 1, .shutdown, .check 1 false, .afterFailedCheck 1]
    (fun s => s.callers 0 = .holding 7 && s.callers 1 = .null && s.live 7 &&
      s.activeCount = 1) (by decide +kernel)
  simp only [Bool.and_eq_true, decide_eq_true_eq] at checked
  obtain ⟨⟨⟨holding, null⟩, exists_⟩, one⟩ := checked
  obtain ⟨active, -, owner, -⟩ := pool_accounting reached
  exact ⟨s, reached, ⟨holding, null, exists_⟩, by omega, owner 7 exists_⟩

end OnlineJudge.Database
