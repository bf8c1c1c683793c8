import Mathlib.Logic.Relation

/-!
# Transition systems with a partial step function

A concurrent program is a set of states, a set of actions and a partial step function; every choice
of a schedule is part of the action.  `Along` is a condition on every step of a run, and a
`Simulation` matches each step by a sequence of abstract ones.
-/

universe u v w z

structure TransitionSystem (σ : Type u) (α : Type v) where
  initial : σ
  /-- The effect of an action; `none` where the action is not enabled. -/
  step : σ → α → Option σ

namespace TransitionSystem

variable {σ : Type u} {α : Type v} (system : TransitionSystem σ α) (allowed : σ → α → Prop)

/-- One step by an enabled action that meets `allowed` in the state in which it
is taken. -/
def StepUnder (s t : σ) : Prop :=
  ∃ a, allowed s a ∧ system.step s a = some t

/-- `ReachesUnder allowed s t`: some sequence of allowed steps leads from `s` to
`t`. -/
def ReachesUnder : σ → σ → Prop :=
  Relation.ReflTransGen (system.StepUnder allowed)

abbrev Reaches : σ → σ → Prop := system.ReachesUnder fun _ _ => True

abbrev ReachableUnder (s : σ) : Prop :=
  system.ReachesUnder allowed system.initial s

abbrev Reachable (s : σ) : Prop := system.Reaches system.initial s

variable {system} {allowed : σ → α → Prop}

theorem ReachesUnder.refl (s : σ) : system.ReachesUnder allowed s s :=
  Relation.ReflTransGen.refl

variable {u s t : σ} {a : α} {P : σ → Prop} {actions : List α}

theorem ReachesUnder.tail (before : system.ReachesUnder allowed s t) (ok : allowed t a)
    (step : system.step t a = some u) : system.ReachesUnder allowed s u :=
  Relation.ReflTransGen.tail before ⟨a, ok, step⟩

theorem ReachesUnder.trans (first : system.ReachesUnder allowed s t)
    (second : system.ReachesUnder allowed t u) : system.ReachesUnder allowed s u :=
  Relation.ReflTransGen.trans first second

theorem ReachesUnder.mono {allowed' : σ → α → Prop} (implies : ∀ s a, allowed s a → allowed' s a)
    (reaches : system.ReachesUnder allowed s t) : system.ReachesUnder allowed' s t := by
  refine Relation.ReflTransGen.mono ?_ _ _ reaches
  rintro _ _ ⟨a, ok, step⟩
  exact ⟨a, implies _ a ok, step⟩

theorem ReachesUnder.reaches (reaches : system.ReachesUnder allowed s t) : system.Reaches s t :=
  reaches.mono fun _ _ _ => trivial

theorem Reaches.tail (before : system.Reaches s t) (step : system.step t a = some u) :
    system.Reaches s u :=
  ReachesUnder.tail before trivial step

/-- **The invariant rule along a run.**  The preservation premise may use that
the state before the step is itself on the run. -/
theorem ReachesUnder.induct (reaches : system.ReachesUnder allowed s t) (base : P s)
    (preserved : ∀ {t u : σ} {a : α}, system.ReachesUnder allowed s t → allowed t a →
      system.step t a = some u → P t → P u) : P t := by
  induction reaches with
  | refl => exact base
  | tail before last ih =>
    obtain ⟨a, ok, step⟩ := last
    exact preserved before ok step ih

/-- **The invariant rule.**  An initial and preserved property holds in every
reachable state. -/
theorem Reachable.induct (reachable : system.Reachable s) (base : P system.initial)
    (preserved : ∀ {t u : σ} {a : α}, system.Reachable t →
      system.step t a = some u → P t → P u) : P s :=
  ReachesUnder.induct reachable base fun before _ step holds => preserved before step holds

def run (system : TransitionSystem σ α) (s : σ) : List α → Option σ
  | [] => some s
  | a :: rest => (system.step s a).bind fun t => system.run t rest

/-- As `run`, and every action must also pass `check` where it is taken. -/
def runUnder (system : TransitionSystem σ α) (check : σ → α → Bool) (s : σ) :
    List α → Option σ
  | [] => some s
  | a :: rest =>
    if check s a then (system.step s a).bind fun t => system.runUnder check t rest
    else none

theorem runUnder_reaches {check : σ → α → Bool} (ran : system.runUnder check s actions = some t) :
    system.ReachesUnder (fun s a => check s a = true) s t := by
  induction actions generalizing s with
  | nil =>
    cases ran
    exact .refl _
  | cons a rest ih =>
    rw [runUnder] at ran
    split at ran
    case isFalse => cases ran
    case isTrue ok =>
      obtain ⟨middle, step, later⟩ := Option.bind_eq_some_iff.mp ran
      have first : system.ReachesUnder (fun s a => check s a = true) s middle :=
        ReachesUnder.tail (.refl s) ok step
      exact first.trans (ih later)

theorem run_reaches (ran : system.run s actions = some t) : system.Reaches s t := by
  induction actions generalizing s with
  | nil =>
    cases ran
    exact .refl _
  | cons a rest ih =>
    obtain ⟨middle, step, later⟩ := Option.bind_eq_some_iff.mp ran
    exact (ReachesUnder.tail (.refl _) trivial step).trans (ih later)

theorem exists_of_run (system : TransitionSystem σ α) (actions : List α) (check : σ → Bool)
    (ran : (system.run system.initial actions).any check = true) :
    ∃ t, system.Reachable t ∧ check t = true := by
  obtain ⟨t, last, passed⟩ := (Option.any_eq_true _ _).mp ran
  exact ⟨t, run_reaches last, passed⟩

theorem exists_of_runUnder (system : TransitionSystem σ α) (ok : σ → α → Bool) (actions : List α)
    (check : σ → Bool) (ran : (system.runUnder ok system.initial actions).any check = true) :
    ∃ t, system.ReachableUnder (fun s a => ok s a = true) t ∧ check t = true := by
  obtain ⟨t, last, passed⟩ := (Option.any_eq_true _ _).mp ran
  exact ⟨t, runUnder_reaches last, passed⟩

theorem exists_of_runsUnder (system : TransitionSystem σ α) (ok : σ → α → Bool)
    (first second : List α) (checkFirst checkSecond : σ → Bool)
    (ran : ((system.runUnder ok system.initial first).any fun t =>
      checkFirst t && (system.runUnder ok t second).any checkSecond) = true) :
    ∃ t u, system.ReachableUnder (fun s a => ok s a = true) t ∧ checkFirst t = true ∧
      system.ReachesUnder (fun s a => ok s a = true) t u ∧ checkSecond u = true := by
  obtain ⟨t, last, checks⟩ := (Option.any_eq_true _ _).mp ran
  obtain ⟨passed, ranOn⟩ := Bool.and_eq_true_iff.mp checks
  obtain ⟨u, lastOn, passedOn⟩ := (Option.any_eq_true _ _).mp ranOn
  exact ⟨t, u, runUnder_reaches last, passed, runUnder_reaches lastOn, passedOn⟩

/-- Every step of the run of `actions` from `s` meets `P`, a condition on the
states before and after the step and on its action.  A run ends at an action that
is not enabled. -/
def Along (system : TransitionSystem σ α) (P : σ → α → σ → Prop) (s : σ) : List α → Prop
  | [] => True
  | a :: rest => ∀ t, system.step s a = some t → P s a t ∧ system.Along P t rest

theorem along_congr {P Q : σ → α → σ → Prop}
    (same : ∀ {t u : σ} {a : α}, system.Reaches s t → system.step t a = some u →
      (P t a u ↔ Q t a u)) (actions : List α) :
    system.Along P s actions ↔ system.Along Q s actions := by
  induction actions generalizing s with
  | nil => exact Iff.rfl
  | cons a rest ih =>
    refine forall_congr' fun t => imp_congr_right fun step => and_congr ?_ ?_
    · exact same (.refl s) step
    · refine ih fun {t' u a'} later taken => same ?_ taken
      exact ReachesUnder.trans (Reaches.tail (.refl s) step) later

structure Simulation {τ : Type w} {β : Type z} (concrete : TransitionSystem σ α)
    (abstract : TransitionSystem τ β) where
  abs : σ → τ
  initial_abs : abs concrete.initial = abstract.initial
  step_abs : ∀ {s t : σ} {a : α}, concrete.step s a = some t → abstract.Reaches (abs s) (abs t)

theorem Simulation.reachable {τ : Type w} {β : Type z} {concrete : TransitionSystem σ α}
    {abstract : TransitionSystem τ β} (simulation : Simulation concrete abstract)
    (reachable : concrete.Reachable s) : abstract.Reachable (simulation.abs s) := by
  refine Reachable.induct (P := fun s => abstract.Reachable (simulation.abs s)) reachable ?_ ?_
  · rw [simulation.initial_abs]
    exact .refl _
  · intro t u a _ step before
    exact ReachesUnder.trans before (simulation.step_abs step)

end TransitionSystem
