import Mathlib.Data.Fintype.Basic

/-!
# Waiting on a condition variable

Threads wait on one condition variable under one mutex.  `deciding` is the window between a false
evaluation of the predicate and the block; a notification wakes only threads that are blocked.
-/

universe u

/-- Where a thread stands in its wait; `timed` tells `wait_for` from `wait`. -/
inductive Waiter
  | out
  | deciding (timed : Bool)
  | blocked (timed : Bool)
  | woken (timed : Bool)
  | expired
  deriving DecidableEq

namespace Waiter

def holds : Waiter → Bool
  | deciding _ => true
  | _ => false

def isBlocked : Waiter → Bool
  | blocked _ => true
  | _ => false

def notify : Waiter → Waiter
  | blocked timed => woken timed
  | waiter => waiter

theorem notify_ne_blocked (waiter : Waiter) (timed : Bool) : waiter.notify ≠ blocked timed := by
  cases waiter <;> simp [notify]

theorem deciding_of_notify {waiter : Waiter} {timed : Bool}
    (deciding : waiter.notify = .deciding timed) : waiter = .deciding timed := by
  cases waiter <;> simp_all [notify]

end Waiter

variable {ι : Type u}

def mutexFree [Fintype ι] (waiters : ι → Waiter) : Bool :=
  decide (∀ i, (waiters i).holds = false)

theorem not_deciding_of_mutexFree [Fintype ι] {waiters : ι → Waiter}
    (free : mutexFree waiters = true) (i : ι) (timed : Bool) : waiters i ≠ .deciding timed := by
  intro deciding
  have := of_decide_eq_true free i
  simp [deciding, Waiter.holds] at this

def notifyAll (waiters : ι → Waiter) : ι → Waiter := fun i => (waiters i).notify

/-- Wake one blocked thread, if there is one.  Which one is not determined:
`chosen` names it, and names nobody only when nobody is blocked. -/
def notifyOne [Fintype ι] [DecidableEq ι] (waiters : ι → Waiter) (chosen : Option ι) :
    Option (ι → Waiter) :=
  match chosen with
  | none => if ∀ i, (waiters i).isBlocked = false then some waiters else none
  | some i =>
    if (waiters i).isBlocked then some (Function.update waiters i (waiters i).notify) else none

theorem notifyOne_cases [Fintype ι] [DecidableEq ι] {waiters after : ι → Waiter} {chosen : Option ι}
    (notified : notifyOne waiters chosen = some after) (i : ι) :
    after i = waiters i ∨ after i = (waiters i).notify := by
  unfold notifyOne at notified
  split at notified
  · split at notified
    · cases notified; exact .inl rfl
    · cases notified
  case h_2 j =>
    split at notified
    · cases notified
      by_cases same : i = j
      · subst same; exact .inr (by simp)
      · exact .inl (by simp [same])
    · cases notified
