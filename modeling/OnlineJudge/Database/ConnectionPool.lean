import OnlineJudge.Library.Resources
import OnlineJudge.Library.TransitionSystem

/-!
# The pool of database connections

`ODBConnectionPool` (`connection_pool.hpp`).  A step is a section under `_mtx`, or what a call does
between two sections: the factory, the setup of a connection, the health check, each of which may
fail.
-/

namespace OnlineJudge.Database

/-- The address of an `odb::mysql::database`; one that is free may be used again. -/
abbrev Connection := Nat

structure ODBPoolConfig where
  minConnections : Nat := 5
  maxConnections : Nat := 50
  /-- `idle_timeout_s`, in the unit of the clock. -/
  idleTimeout : Nat := 300
  deriving DecidableEq

/-- A thread that uses the pool.  `spare` is the connection that has failed its health check and
that is destroyed when `GetDatabase` ends. -/
inductive Caller
  | idle
  /-- `GetDatabase`, on `_cv`. -/
  | waiting
  | creating (spare : Option Connection)
  | settingUp (connection : Connection) (spare : Option Connection)
  | checking (connection : Connection)
  | failedCheck (connection : Connection)
  /-- Before `FinishCheckout`. -/
  | finishing (connection : Connection) (spare : Option Connection)
  /-- An exception, before `ReleaseReservation`. -/
  | releasing (spare : Option Connection)
  /-- `GetDatabase` has returned a connection, which is in a `ScopedDB`. -/
  | holding (connection : Connection)
  /-- `GetDatabase` has returned a null pointer. -/
  | null
  /-- `GetDatabase` has thrown. -/
  | threw
  deriving DecidableEq

namespace Caller

/-- `GetDatabase` may be called. -/
def outside : Caller → Bool
  | .idle | .null | .threw => true
  | _ => false

@[simp]
def reserves : Caller → Nat
  | .creating _ | .settingUp .. | .checking _ | .failedCheck _ | .finishing .. | .releasing _ => 1
  | .idle | .waiting | .holding _ | .null | .threw => 0

@[simp]
def holds : Caller → Nat
  | .holding _ => 1
  | _ => 0

def failed : Caller → Bool
  | .null | .threw => true
  | _ => false

@[simp]
def connections : Caller → List Connection
  | .creating spare | .releasing spare => spare.toList
  | .settingUp connection spare | .finishing connection spare => connection :: spare.toList
  | .checking connection | .failedCheck connection | .holding connection => [connection]
  | .idle | .waiting | .null | .threw => []

end Caller

/-- The thread of `HealthCheckLoop`. -/
inductive HealthThread
  | absent
  | looping
  | exited
  deriving DecidableEq

/-- `stopping` says that `Shutdown` is between its two sections.  The count of reserved slots is an
integer, so that one below zero would show. -/
structure Pool (n : Nat) where
  config : ODBPoolConfig := {}
  /-- `_idle_pool`, with the time at which a connection was given back. -/
  idlePool : List (Connection × Nat) := []
  activeCount : Int := 0
  running : Bool := false
  thread : HealthThread := .absent
  stopping : Bool := false
  callers : Fin n → Caller := fun _ => .idle
  live : Connection → Bool := fun _ => false

namespace Pool

variable {n : Nat} (s : Pool n) (i : Fin n)

def setCaller (caller : Caller) : Pool n :=
  { s with callers := Function.update s.callers i caller }

def destroy (gone : List Connection) : Pool n := { s with live := destroyAll s.live gone }

def idleConnections : List Connection := s.idlePool.map Prod.fst

/-- `Init`, past the check of the limits; `created` are the connections that its loop has made. -/
def init (config : ODBPoolConfig) (created : List Connection) (now : Nat) (spawned : Bool) :
    Option (Pool n) :=
  if s.stopping then none
  else if s.running then some s
  else if s.activeCount ≠ 0 then some s
  else if config.minConnections < created.length || !created.Nodup || created.any s.live then none
  else if spawned then
    some { s with
      config
      running := true
      idlePool := s.idlePool ++ created.map fun connection => (connection, now)
      live := createAll s.live created
      thread := .looping }
  else
    -- all idle connections are destroyed again
    some { s.destroy s.idleConnections with config, idlePool := [] }

def shutdown : Option (Pool n) :=
  if s.stopping then none else some { s with running := false, stopping := true }

def shutdownEnd : Option (Pool n) :=
  if s.stopping && s.thread ≠ .looping then
    some { s.destroy s.idleConnections with
      idlePool := []
      thread := .absent
      stopping := false }
  else none

/-- The inner loop: the connections that are retained, and those that are destroyed.  `retained`
counts the former. -/
def trim (config : ODBPoolConfig) (now : Nat) (retained : Nat) :
    List (Connection × Nat) → List (Connection × Nat) × List Connection
  | [] => ([], [])
  | item :: rest =>
    if retained < config.minConnections || now - item.2 < config.idleTimeout then
      let (kept, gone) := trim config now (retained + 1) rest
      (item :: kept, gone)
    else
      let (kept, gone) := trim config now retained rest
      (kept, item.1 :: gone)

def healthCheck (now : Nat) : Option (Pool n) :=
  if s.thread = .looping && s.running then
    let (kept, gone) := trim s.config now 0 s.idlePool
    some { s.destroy gone with idlePool := kept }
  else none

def healthExit : Option (Pool n) :=
  if s.thread = .looping && !s.running then some { s with thread := .exited } else none

def acquire : Option (Pool n) :=
  match s.callers i with
  | .waiting =>
    if !s.running then some (s.setCaller i .null)
    else
      match s.idlePool with
      | [] =>
        if s.activeCount < s.config.maxConnections then
          some { s.setCaller i (.creating none) with activeCount := s.activeCount + 1 }
        else none
      | item :: rest =>
        some { s.setCaller i (.checking item.1) with
          activeCount := s.activeCount + 1
          idlePool := rest }
  | _ => none

/-- The factory in `CreateDatabase`; `none` where it throws or returns a null pointer. -/
def factory (result : Option Connection) : Option (Pool n) :=
  match s.callers i with
  | .creating spare =>
    match result with
    | none => some (s.setCaller i (.releasing spare))
    | some connection =>
      if s.live connection then none
      else
        some { s.setCaller i (.settingUp connection spare) with
          live := createAll s.live [connection] }
  | _ => none

def setup (succeeds : Bool) : Option (Pool n) :=
  match s.callers i with
  | .settingUp connection spare =>
    if succeeds then some (s.setCaller i (.finishing connection spare))
    else some ((s.setCaller i (.releasing spare)).destroy [connection])
  | _ => none

def check (succeeds : Bool) : Option (Pool n) :=
  match s.callers i with
  | .checking connection =>
    if succeeds then some (s.setCaller i (.finishing connection none))
    else some (s.setCaller i (.failedCheck connection))
  | _ => none

def afterFailedCheck : Option (Pool n) :=
  match s.callers i with
  | .failedCheck connection =>
    if !s.running then
      some { (s.setCaller i .null).destroy [connection] with activeCount := s.activeCount - 1 }
    else some (s.setCaller i (.creating (some connection)))
  | _ => none

def finishCheckout : Option (Pool n) :=
  match s.callers i with
  | .finishing connection spare =>
    if s.running then some ((s.setCaller i (.holding connection)).destroy spare.toList)
    else
      some { (s.setCaller i .null).destroy (connection :: spare.toList) with
        activeCount := s.activeCount - 1 }
  | _ => none

def releaseReservation : Option (Pool n) :=
  match s.callers i with
  | .releasing spare =>
    some { (s.setCaller i .threw).destroy spare.toList with activeCount := s.activeCount - 1 }
  | _ => none

/-- `ReturnDatabase`, which `ScopedDB` calls once. -/
def returnDatabase (now : Nat) : Option (Pool n) :=
  match s.callers i with
  | .holding connection =>
    if s.activeCount = 0 then some ((s.setCaller i .idle).destroy [connection])
    else if s.running then
      some { s.setCaller i .idle with
        activeCount := s.activeCount - 1
        idlePool := s.idlePool ++ [(connection, now)] }
    else
      some { (s.setCaller i .idle).destroy [connection] with activeCount := s.activeCount - 1 }
  | _ => none

end Pool

inductive PoolAction (n : Nat)
  | init (config : ODBPoolConfig) (created : List Connection) (now : Nat) (spawned : Bool)
  | shutdown
  | shutdownEnd
  | healthCheck (now : Nat)
  | healthExit
  | getDatabase (i : Fin n)
  | acquire (i : Fin n)
  | factory (i : Fin n) (result : Option Connection)
  | setup (i : Fin n) (succeeds : Bool)
  | check (i : Fin n) (succeeds : Bool)
  | afterFailedCheck (i : Fin n)
  | finishCheckout (i : Fin n)
  | releaseReservation (i : Fin n)
  | returnDatabase (i : Fin n) (now : Nat)

def Pool.step {n : Nat} (s : Pool n) : PoolAction n → Option (Pool n)
  | .init config created now spawned =>
    -- the limits are checked first, and an exception changes nothing
    if config.maxConnections = 0 || config.maxConnections < config.minConnections then some s
    else s.init config created now spawned
  | .shutdown => s.shutdown
  | .shutdownEnd => s.shutdownEnd
  | .healthCheck now => s.healthCheck now
  | .healthExit => s.healthExit
  | .getDatabase i => if (s.callers i).outside then some (s.setCaller i .waiting) else none
  | .acquire i => s.acquire i
  | .factory i result => s.factory i result
  | .setup i succeeds => s.setup i succeeds
  | .check i succeeds => s.check i succeeds
  | .afterFailedCheck i => s.afterFailedCheck i
  | .finishCheckout i => s.finishCheckout i
  | .releaseReservation i => s.releaseReservation i
  | .returnDatabase i now => s.returnDatabase i now

def poolSystem (n : Nat) : TransitionSystem (Pool n) (PoolAction n) where
  initial := {}
  step := Pool.step

end OnlineJudge.Database
